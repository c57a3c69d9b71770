import TucServer.Document
import TucServer.Json.Basic
import TucServer.Registry.Store
import TucServer.Template.Reader

/-!
# Completion items

An item is an entry as a client is given it. A client that can fill in fields gets the template of
an entry as it is; any other client gets the plain text of the template, or the label where the
template cannot be read.
-/

namespace TucServer

/-- The kind of an item, by which a client chooses its icon. -/
inductive ItemKind where
  | keyword
  deriving DecidableEq, Repr

/-- The number of a kind. -/
def ItemKind.code : ItemKind → Nat
  | .keyword => 14

/-- How the inserted text is to be read. -/
inductive InsertFormat where
  | plainText
  | snippet
  deriving DecidableEq, Repr

/-- The number of a format. -/
def InsertFormat.code : InsertFormat → Nat
  | .plainText => 1
  | .snippet => 2

/-- What is inserted when an item is accepted. -/
structure Insertion where
  text : String
  format : InsertFormat
  deriving DecidableEq, Repr

/-- A completion item. Without an insertion the client inserts the label. -/
structure Item where
  label : String
  kind : ItemKind
  detail : Option String
  documentation : Option String
  insertion : Option Insertion
  deriving DecidableEq, Repr

namespace Entry

/-- What a client inserts that cannot fill in fields. -/
def plainInsertText (entry : Entry) : String :=
  match Template.parse entry.insertText with
  | .ok template => template.plainText
  | .error _ => entry.label

/-- What a client inserts for the entry: nothing of its own unless the entry has a template. -/
def insertion (snippets : Bool) (entry : Entry) : Option Insertion :=
  match entry.snippet with
  | none => none
  | some _ =>
    if snippets then some ⟨entry.insertText, .snippet⟩
    else some ⟨entry.plainInsertText, .plainText⟩

/-- The entry for a client that can fill in fields, or for one that cannot. -/
def item (snippets : Bool) (entry : Entry) : Item where
  label := entry.label
  kind := .keyword
  detail := entry.detail
  documentation := entry.documentation
  insertion := entry.insertion snippets

end Entry

namespace Item

/-- A member for a value that may be absent. -/
def memberIfPresent (name : String) (value : Option Json) : List (String × Json) :=
  value.toList.map fun value => (name, value)

/-- The item as it is sent to the client. Absent parts are left out. -/
def toJson (item : Item) : Json :=
  .object <|
    [("label", .string item.label), ("kind", .integer item.kind.code)] ++
    memberIfPresent "detail" (item.detail.map .string) ++
    memberIfPresent "documentation" (item.documentation.map fun text =>
      .object [("kind", .string "markdown"), ("value", .string text)]) ++
    memberIfPresent "insertText" (item.insertion.map fun insertion => .string insertion.text) ++
    memberIfPresent "insertTextFormat"
      (item.insertion.map fun insertion => .integer insertion.format.code)

end Item

/-- The items for a position in a document, none if no provider is registered for the language of
the document. -/
def Store.itemsFor (store : Store) (document : Document) (position : Position) (snippets : Bool) :
    Option (List Item) :=
  (store.entriesFor document.language document.text position).map (·.map (Entry.item snippets))

end TucServer
