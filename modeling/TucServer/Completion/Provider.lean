import TucServer.Completion.Catalog

/-!
# Completion providers

A provider answers with entries for a document and a position in it.
-/

namespace TucServer

/-- A place in a document, both parts counted from zero. -/
structure Position where
  line : Nat
  character : Nat
  deriving DecidableEq, Repr

/-- What answers completion requests: the entries for the text of a document and a position. -/
structure Provider where
  entries : String → Position → List Entry

namespace Provider

/-- The provider that answers with the catalog, whatever the document and the position. -/
def keywords : Provider := ⟨fun _ _ => Catalog.entries⟩

end Provider

end TucServer
