import Mathlib.Tactic.Lemma
import TucServer.Server.Documents

/-!
# Documents under their URIs

Opening and closing a document changes what is found under its own URI and under no other, and a
document keeps its language when its text is replaced.
-/

namespace TucServer

namespace Documents

variable {documents : Documents} {uri other : Uri} {document : Document}

/-- A document that is closed is not open. -/
@[simp] lemma get?_erase_self : (documents.erase uri).get? uri = none := by
  simp only [get?, erase, Option.map_eq_none_iff, List.find?_eq_none, List.mem_filter]
  rintro entry ⟨_, h⟩
  simpa using h

/-- Closing one document leaves the others open. -/
lemma get?_erase_of_ne (h : uri ≠ other) :
    (documents.erase other).get? uri = documents.get? uri := by
  simp only [get?, erase, List.find?_filter]
  congr 2
  funext entry
  by_cases he : entry.1 = uri
  · simp [he, h]
  · simp [he]

/-- A document that is opened is open. -/
@[simp] lemma get?_insert_self : (documents.insert uri document).get? uri = some document := by
  simp [get?, insert]

/-- Opening one document leaves the others as they are. -/
lemma get?_insert_of_ne (h : uri ≠ other) :
    (documents.insert other document).get? uri = documents.get? uri := by
  have hu : (other == uri) = false := by
    simpa using h.symm
  calc (documents.insert other document).get? uri
    _ = (documents.erase other).get? uri := by
      rw [get?, insert, List.find?_cons, hu]
      rfl
    _ = documents.get? uri := get?_erase_of_ne h

end Documents

/-- New texts leave the language. -/
@[simp] lemma Document.language_sync (document : Document) (texts : List String) (version : Int) :
    (document.sync texts version).language = document.language := by
  rw [sync]
  induction texts generalizing document with
  | nil => rfl
  | cons text texts ih => exact ih (document.update text version)

end TucServer
