import TucServer.Document
import TucServer.Uri.Basic

/-!
# Open documents

The open documents are kept under their URIs, at most one under each.
-/

namespace TucServer

/-- The open documents, each under a URI of its own. -/
structure Documents where
  entries : List (Uri × Document)
  distinct : (entries.map (·.1)).Nodup
  deriving DecidableEq, Repr

namespace Documents

/-- No document is open. -/
def empty : Documents := ⟨[], .nil⟩

/-- The document that is open under a URI. -/
def get? (documents : Documents) (uri : Uri) : Option Document :=
  (documents.entries.find? (·.1 == uri)).map (·.2)

/-- The documents without the one under this URI. -/
def erase (documents : Documents) (uri : Uri) : Documents where
  entries := documents.entries.filter (·.1 != uri)
  distinct := documents.distinct.sublist (List.filter_sublist.map _)

/-- The documents with this one under its URI, in place of an earlier one. -/
def insert (documents : Documents) (uri : Uri) (document : Document) : Documents where
  entries := (uri, document) :: (documents.erase uri).entries
  distinct := by
    refine List.nodup_cons.mpr ⟨fun hm => ?_, (documents.erase uri).distinct⟩
    obtain ⟨entry, he, hu⟩ := List.mem_map.mp hm
    exact bne_iff_ne.mp (List.mem_filter.mp he).2 hu

end Documents

end TucServer
