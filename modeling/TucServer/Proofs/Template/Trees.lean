import TucServer.Proofs.Template.NormalForm
import TucServer.Proofs.Template.Soundness

/-!
# Trees of the templates that are read

What is read is derived by the grammar, so that facts on its tree are facts on derivations. A tree
that is derived is in normal form: `attach` joins every text with the text behind it, and a body is
derived only where the limit leaves room for it (`wellFormed_of_parse`). And its plain text is what
is left of the source when some characters are left out: each item means characters of its own
text, in their order (`plainText_sublist`).
-/

namespace TucServer.Template

variable {d : Nat} {text rest : List Char} {label : Label} {node : Node} {nodes : Template}

/-! ### Normal forms -/

/-- What has a text can be written. -/
lemma LabelText.isWritable (h : LabelText text label) : label.isWritable := by
  cases h with
  | index _ _ hb => exact decide_eq_true hb
  | name hs hr =>
    simp only [Label.isWritable, String.toList_ofList, Bool.and_eq_true, List.all_eq_true]
    exact ⟨hs, hr⟩

namespace Node

/-- Text that is joined with text stays in normal form, and no other nodes meet. -/
lemma areNormal_attach (hn : node.isNormal) (hs : areNormal nodes) :
    areNormal (node.attach nodes) := by
  cases hm : node.meets nodes with
  | false =>
    rw [attach_of_not_meets hm, areNormal, hn, hs, hm]
    rfl
  | true =>
    obtain ⟨a, b, nodes, rfl, rfl⟩ := exists_text_of_meets hm
    simp only [areNormal, isNormal, Bool.and_eq_true, bne_iff_ne] at hn hs
    obtain ⟨⟨_, hs⟩, hk⟩ := hs
    have ha : a ++ b ≠ "" := by
      simp [hn]
    simp only [attach, areNormal, isNormal, Bool.and_eq_true, bne_iff_ne]
    exact ⟨⟨ha, hs⟩, hk⟩

/-- A node in front nests as deep as it does alone, joined or not. -/
lemma nestingAll_attach (node : Node) (nodes : Template) :
    nestingAll (node.attach nodes) = max node.nesting (nestingAll nodes) := by
  cases hm : node.meets nodes with
  | false => rw [attach_of_not_meets hm, nestingAll]
  | true =>
    obtain ⟨a, b, nodes, rfl, rfl⟩ := exists_text_of_meets hm
    simp [attach, nestingAll, nesting]

/-- An empty body lies no deeper than its field. -/
lemma nesting_field_le (label : Label) (body : Template) :
    (field label body).nesting ≤ nestingAll body + 1 := by
  cases body with
  | nil => exact Nat.zero_le _
  | cons node body => exact Nat.le_refl _

end Node

/-- A character is a text in normal form. -/
lemma singleton_isNormal (c : Char) : (Node.text (String.singleton c)).isNormal := by
  simp [Node.isNormal]

/-- What is written as options is at least one. -/
lemma OptionList.ne_nil {options} (h : OptionList text rest options) : options ≠ [] := by
  cases h <;> exact List.cons_ne_nil _ _

/-- What is derived is in normal form. -/
lemma Body.areNormal (h : Body d text rest nodes) : Node.areNormal nodes := by
  induction h using Body.rec (motive_1 := fun _ _ _ node _ => node.isNormal) with
  | escaped | backslash | dollar | char => exact singleton_isNormal _
  | bare hl | braced hl =>
    rw [Node.isNormal, hl.isWritable]
    rfl
  | body hl _ _ ih =>
    rw [Node.isNormal, hl.isWritable, ih]
    rfl
  | choice hl ho =>
    rw [Node.isNormal, List.isEmpty_eq_false_iff.mpr ho.ne_nil, Bool.not_false, Bool.and_true]
    exact hl.isWritable
  | nil => rfl
  | cons _ _ ihi ihb => exact Node.areNormal_attach ihi ihb

/-- The bodies in what is derived respect the limit together with those around it. -/
lemma Body.nestingAll_le (h : Body d text rest nodes) :
    d + Node.nestingAll nodes ≤ max d maxNesting := by
  induction h using Body.rec
    (motive_1 := fun d _ _ node _ => d + node.nesting ≤ max d maxNesting) with
  | escaped | backslash | dollar | char | bare | braced | choice | nil => exact Nat.le_max_left _ _
  | @body _ _ _ _ label nodes _ _ _ ih =>
    have hn := Node.nesting_field_le label nodes
    omega
  | @cons _ _ _ _ node nodes _ _ ihi ihb =>
    rw [Node.nestingAll_attach]
    omega

/-- Every template that is read is in normal form, with its bodies nested within the limit. -/
theorem wellFormed_of_parse (source : String) (template : Template)
    (h : parse source = .ok template) : WellFormed template := by
  have hb : Body 0 source.toList [] template := body_of_parse h
  have hn := hb.nestingAll_le
  rw [Nat.zero_add, Nat.zero_max] at hn
  exact ⟨hb.areNormal, hn⟩

/-- An escaped mark, a mark that begins nothing and a blank are one text, and a body that is written
but empty does not count as nested. -/
theorem wellFormed_of_parse_joined :
    let template : Template := [.text "a$$ ",
      .field (.index 1) [.text "\\n", .field (.name "v") []], .choice 2 ["", "x"]]
    parse "a\\$$ $\x7b1:\\n$\x7bv:\x7d\x7d$\x7b2|,x|\x7d" = .ok template ∧ WellFormed template ∧
      Node.nestingAll template = 1 := by
  intro template
  have h : parse "a\\$$ $\x7b1:\\n$\x7bv:\x7d\x7d$\x7b2|,x|\x7d" = .ok template := rfl
  exact ⟨h, wellFormed_of_parse _ template h, rfl⟩

/-! ### Characters that are kept -/

namespace Node

/-- The plain text of a node comes before that of the template behind it, joined or not. -/
lemma plainAll_attach (node : Node) (nodes : Template) :
    plainAll (node.attach nodes) = node.plain ++ plainAll nodes := by
  cases hm : node.meets nodes with
  | false => rw [attach_of_not_meets hm, plainAll]
  | true =>
    obtain ⟨a, b, nodes, rfl, rfl⟩ := exists_text_of_meets hm
    simp [attach, plainAll, plain]

end Node

/-- The plain text of a character is the character. -/
lemma plain_singleton (c : Char) : (Node.text (String.singleton c)).plain = [c] := by
  simp [Node.plain]

/-- An option means characters of its text. -/
lemma OptionText.sublist {cs} (h : OptionText text rest cs) : cs.Sublist text := by
  induction h with
  | nil => exact .slnil
  | escaped _ _ ih => exact (ih.cons_cons _).cons _
  | backslash _ _ ih => exact ih.cons_cons _
  | char _ _ ih => exact ih.cons_cons _

/-- The first of several options means characters of their text. -/
lemma OptionList.sublist_head {options} (h : OptionList text rest options) :
    (options.headD "").toList.Sublist text := by
  cases h with
  | single ho =>
    rw [List.headD_cons, String.toList_ofList]
    exact ho.sublist
  | cons ho _ =>
    rw [List.headD_cons, String.toList_ofList]
    exact ho.sublist.trans (List.sublist_append_left _ _)

/-- What is derived means characters of its text. -/
lemma Body.sublist (h : Body d text rest nodes) : (Node.plainAll nodes).Sublist text := by
  induction h using Body.rec (motive_1 := fun _ text _ node _ => node.plain.Sublist text) with
  | @escaped _ _ c =>
    rw [plain_singleton]
    exact (List.Sublist.refl [c]).cons '\\'
  | backslash | dollar | char => exact plain_singleton _ ▸ List.Sublist.refl _
  | bare | braced => exact List.nil_sublist _
  | body _ _ _ ih =>
    -- the body stands between its opening and its closing brace
    refine List.Sublist.trans ?_ (List.sublist_append_left _ _)
    exact (ih.cons ':').trans (List.sublist_append_right _ _)
  | choice _ ho =>
    refine List.Sublist.trans ?_ (List.sublist_append_left _ _)
    exact (ho.sublist_head.cons '|').trans (List.sublist_append_right _ _)
  | nil => exact .slnil
  | cons _ _ ihi ihb =>
    rw [Node.plainAll_attach]
    exact ihi.append ihb

/-- The plain text of a template that is read is the source without some of its characters. -/
theorem plainText_sublist (source : String) (template : Template)
    (h : parse source = .ok template) : template.plainText.toList.Sublist source.toList := by
  rw [plainText, String.toList_ofList]
  exact (body_of_parse h).sublist

/-- Of a choice with an escaped comma the first option is left, of a field its body. -/
theorem plainText_sublist_choice :
    let template : Template :=
      [.text "é", .choice 1 ["ß,", "x"], .field (.name "n") [.text "\x7d"]]
    parse "é$\x7b1|ß\\,,x|\x7d$\x7bn:\\\x7d\x7d" = .ok template ∧
      template.plainText = "éß,\x7d" ∧
      template.plainText.toList.Sublist "é$\x7b1|ß\\,,x|\x7d$\x7bn:\\\x7d\x7d".toList := by
  intro template
  have h : parse "é$\x7b1|ß\\,,x|\x7d$\x7bn:\\\x7d\x7d" = .ok template := rfl
  exact ⟨h, rfl, plainText_sublist _ template h⟩

end TucServer.Template
