import Mathlib.Tactic.Lemma
import TucServer.Completion.Item

/-!
# Items for the two kinds of clients

A client that can fill in fields and one that cannot are given the same items but for what they are
to insert: `Entry.Gives` says what the two are given for one entry, and `Store.items_for_both` that
this is so for all that a store answers. Nothing is lost to the first of them, since the entry can
be read from what that client is sent (`Entry.ofJson?`).
-/

namespace TucServer

/-- Of two members of one name the one behind is found. -/
lemma Json.member?_append (first second : List (String × Json)) (name : String) :
    (object (first ++ second)).member? name =
      ((object second).member? name).or ((object first).member? name) := by
  simp [member?, List.find?_append, Option.map_or]

namespace Item

/-- A member that may be left out is found under its own name, if it is there. -/
lemma member?_memberIfPresent (name : String) (value : Option Json) (other : String) :
    (Json.object (memberIfPresent name value)).member? other =
      if name = other then value else none := by
  cases value with
  | none => simp [memberIfPresent, Json.member?]
  | some value => by_cases h : name = other <;> simp [memberIfPresent, Json.member?, h]

/-- The members of an item that is sent. -/
lemma member?_toJson (item : Item) (name : String) :
    item.toJson.member? name =
      if name = "insertTextFormat" then item.insertion.map (.integer ·.format.code)
      else if name = "insertText" then item.insertion.map (.string ·.text)
      else if name = "documentation" then item.documentation.map fun text =>
        .object [("kind", .string "markdown"), ("value", .string text)]
      else if name = "detail" then item.detail.map .string
      else if name = "kind" then some (.integer item.kind.code)
      else if name = "label" then some (.string item.label)
      else none := by
  have hr : (Json.object [("label", .string item.label),
      ("kind", .integer item.kind.code)]).member? name =
        if name = "kind" then some (.integer item.kind.code)
        else if name = "label" then some (.string item.label) else none := by
    simp only [Json.member?]
    grind
  simp only [toJson, Json.member?_append, member?_memberIfPresent]
  rw [hr]
  grind

end Item

namespace Entry

/-- The entry of an item, read from what a client is sent that can fill in fields. -/
def ofJson? (json : Json) : Option Entry := do
  let label ← json.member? "label" >>= Json.string?
  return {
    label
    snippet := json.member? "insertText" >>= Json.string?
    detail := json.member? "detail" >>= Json.string?
    documentation := json.member? "documentation" >>= Json.member? "value" >>= Json.string? }

/-- The items that are given for an entry: the first to a client that can fill in fields, the second
to one that cannot. -/
structure Gives (entry : Entry) (filling plain : Item) : Prop where
  label : plain.label = filling.label
  kind : plain.kind = filling.kind
  detail : plain.detail = filling.detail
  documentation : plain.documentation = filling.documentation
  /-- Text and format are both left out, or neither of them. -/
  absent : ∀ name ∈ ["insertText", "insertTextFormat"],
    (filling.toJson.member? name = none ↔ entry.snippet = none) ∧
      (plain.toJson.member? name = none ↔ entry.snippet = none)
  template : ∀ text, entry.snippet = some text → filling.insertion = some ⟨text, .snippet⟩
  plainText : ∀ text template, entry.snippet = some text → Template.parse text = .ok template →
    plain.insertion = some ⟨template.plainText, .plainText⟩
  fallback : ∀ text error, entry.snippet = some text → Template.parse text = .error error →
    plain.insertion = some ⟨entry.label, .plainText⟩
  recovered : ofJson? filling.toJson = some entry

variable (entry : Entry)

/-- Nothing of an entry is lost to a client that can fill in fields. -/
lemma ofJson?_toJson : ofJson? (entry.item true).toJson = some entry := by
  obtain ⟨label, snippet, detail, documentation⟩ := entry
  simp only [ofJson?, Item.member?_toJson, item, insertion, insertText]
  cases snippet <;> cases detail <;> cases documentation <;> rfl

/-- Only an entry with a template says what to insert, and then it also says how. -/
lemma member?_eq_none_iff (snippets : Bool) {name : String}
    (hn : name ∈ ["insertText", "insertTextFormat"]) :
    (entry.item snippets).toJson.member? name = none ↔ entry.snippet = none := by
  have hi : (entry.item snippets).insertion = none ↔ entry.snippet = none := by
    rw [item, insertion]
    cases entry.snippet <;> cases snippets <;> simp
  rw [Item.member?_toJson, ← hi]
  simp only [List.mem_cons, List.not_mem_nil, or_false] at hn
  obtain rfl | rfl := hn <;> simp

variable {entry}

/-- A client that can fill in fields is sent the template as it is written. -/
lemma insertion_true {text : String} (h : entry.snippet = some text) :
    entry.insertion true = some ⟨text, .snippet⟩ := by
  simp [insertion, insertText, h]

/-- A client that cannot fill in fields is sent the plain text of the template, or the label if the
template cannot be read. -/
lemma insertion_false {text : String} (h : entry.snippet = some text) :
    entry.insertion false =
      match Template.parse text with
      | .ok template => some ⟨template.plainText, .plainText⟩
      | .error _ => some ⟨entry.label, .plainText⟩ := by
  rw [insertion, h]
  simp only [plainInsertText, insertText, h, Option.getD_some]
  cases Template.parse text <;> rfl

/-- The two items of an entry are those that its two kinds of clients are to be given. -/
theorem gives_item (entry : Entry) : entry.Gives (entry.item true) (entry.item false) where
  label := rfl
  kind := rfl
  detail := rfl
  documentation := rfl
  absent _ hn := ⟨entry.member?_eq_none_iff true hn, entry.member?_eq_none_iff false hn⟩
  template _ hs := insertion_true hs
  plainText := by
    intro text template hs hp
    show entry.insertion false = _
    rw [insertion_false hs, hp]
  fallback := by
    intro text error hs hp
    show entry.insertion false = _
    rw [insertion_false hs, hp]
  recovered := entry.ofJson?_toJson

end Entry

/-- A store has items for both kinds of clients or for neither, and they are the items of the same
entries in the same order. The client that can fill in fields is sent different items for different
entries. -/
theorem Store.items_for_both (store : Store) (document : Document) (position : Position) :
    ((store.itemsFor document position true = none ∧
          store.itemsFor document position false = none) ∨
        ∃ entries filling plain,
          store.entriesFor document.language document.text position = some entries ∧
          store.itemsFor document position true = some filling ∧
          store.itemsFor document position false = some plain ∧
          filling.length = plain.length ∧ filling.length = entries.length ∧
          ∀ (place : Nat) (entry : Entry), entries[place]? = some entry →
            ∃ full bare, filling[place]? = some full ∧ plain[place]? = some bare ∧
              entry.Gives full bare) ∧
      ∀ first second : Entry,
        (first.item true).toJson = (second.item true).toJson → first = second := by
  refine ⟨?_, ?_⟩
  · simp only [itemsFor]
    cases store.entriesFor document.language document.text position with
    | none => exact .inl ⟨rfl, rfl⟩
    | some entries =>
      refine .inr ⟨entries, _, _, rfl, rfl, rfl, by simp, by simp, ?_⟩
      intro place entry he
      exact ⟨_, _, by simp [he], by simp [he], entry.gives_item⟩
  · intro first second h
    have hr := first.ofJson?_toJson
    rw [h, second.ofJson?_toJson] at hr
    exact (Option.some.inj hr).symm

/-- A template that cannot be read, behind an entry without a template. -/
theorem Store.items_for_both_unreadable :
    let broken : Entry := ⟨"section", some "section $\x7b1:name", some "Section name", none⟩
    let provider : Provider := ⟨fun _ _ => [Entry.keyword "else", broken]⟩
    let store := (Store.empty.register "tuc" provider).2
    ∃ filling plain full bare,
      store.itemsFor ⟨"", "tuc", 1⟩ ⟨0, 0⟩ true = some filling ∧
      store.itemsFor ⟨"", "tuc", 1⟩ ⟨0, 0⟩ false = some plain ∧
      filling[1]? = some full ∧ plain[1]? = some bare ∧
      full.insertion = some ⟨"section $\x7b1:name", .snippet⟩ ∧
      bare.insertion = some ⟨"section", .plainText⟩ ∧
      Entry.ofJson? full.toJson = some broken := by
  intro broken provider store
  have he : store.entriesFor "tuc" "" ⟨0, 0⟩ = some [Entry.keyword "else", broken] := by
    decide +kernel
  obtain ⟨⟨hn, -⟩ | ⟨entries, filling, plain, hs, hf, hp, -, -, hg⟩, -⟩ :=
    store.items_for_both ⟨"", "tuc", 1⟩ ⟨0, 0⟩
  · simp [itemsFor, he] at hn
  · obtain rfl := Option.some.inj (hs.symm.trans he)
    obtain ⟨full, bare, hfull, hbare, h⟩ := hg 1 broken rfl
    exact ⟨filling, plain, full, bare, hf, hp, hfull, hbare, h.template _ rfl,
      h.fallback _ _ rfl rfl, h.recovered⟩

end TucServer
