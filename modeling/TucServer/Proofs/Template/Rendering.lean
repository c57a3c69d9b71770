import TucServer.Proofs.Template.Completeness
import TucServer.Proofs.Template.NormalForm

/-!
# Writing templates

`render` writes a template with braces around every label and with a backslash before every
character that would be read as something else. Text and options need the backslash before
different characters. What is written of a well-formed template is derived by the grammar with the
template as its tree, whatever follows, and so it is read again as the template it was written from
(`parse_render`).
-/

namespace TucServer.Template

/-- The characters that have to be escaped in an option. -/
def optionEnds : List Char := [',', '|', '\\']

/-- The characters with a backslash before each of the marks. -/
def escape (marks cs : List Char) : List Char :=
  cs.flatMap fun c => if c ∈ marks then ['\\', c] else [c]

/-- The text of a label. -/
def Label.render : Label → List Char
  | .index value => (toString value).toList
  | .name value => value.toList

/-- The options with commas between them. -/
def renderOptions (options : List String) : List Char :=
  [','].intercalate (options.map fun option => escape optionEnds option.toList)

namespace Node

mutual

/-- The text of a node. -/
def render : Node → List Char
  | .text value => escape bodyMarks value.toList
  | .field label [] => '$' :: '{' :: label.render ++ ['}']
  | .field label (node :: body) =>
    '$' :: '{' :: label.render ++ ':' :: renderAll (node :: body) ++ ['}']
  | .choice index options =>
    '$' :: '{' :: (Label.index index).render ++ '|' :: renderOptions options ++ ['|', '}']

/-- The texts of the nodes, one after the other. -/
def renderAll : List Node → List Char
  | [] => []
  | node :: rest => render node ++ renderAll rest

end

end Node

/-- The text of a template. -/
def render (template : Template) : String :=
  String.ofList (Node.renderAll template)

/-- The first character is escaped on its own. -/
lemma escape_cons (marks : List Char) (c : Char) (cs : List Char) :
    escape marks (c :: cs) = (if c ∈ marks then ['\\', c] else [c]) ++ escape marks cs := by
  rw [escape, List.flatMap_cons, escape]

/-- A label that can be written is written by its text. -/
lemma labelText_render {label : Label} (h : label.isWritable) : LabelText label.render label := by
  cases label with
  | index value =>
    have hb : value < indexBound := by
      simpa [Label.isWritable] using h
    have ht : (Label.index value).render = Nat.toDigits 10 value := by
      simp [Label.render]
    have hn : Digit.number (Nat.toDigits 10 value) = value := Nat.ofDigitChars_ten_toDigits
    have hl : LabelText (Nat.toDigits 10 value)
        (.index (Digit.number (Nat.toDigits 10 value))) := by
      refine .index Nat.toDigits_ne_nil ?_ (by rwa [hn])
      intro c hc
      exact Nat.isDigit_of_mem_toDigits (by decide) (by decide) hc
    rwa [hn, ← ht] at hl
  | name value =>
    simp only [Label.isWritable] at h
    split at h
    case h_1 => cases h
    case h_2 c rest e =>
      simp only [Bool.and_eq_true, List.all_eq_true] at h
      have hl := LabelText.name h.1 h.2
      rw [← e, String.ofList_toList] at hl
      exact hl

/-- Escaped text is derived as one node of text. -/
lemma body_escape {d rest} {cs : List Char} (h : cs ≠ []) :
    Body d (escape bodyMarks cs) rest [.text (String.ofList cs)] := by
  induction cs with
  | nil => exact absurd rfl h
  | cons c cs ih =>
    have item (rest : List Char) : Item d (if c ∈ bodyMarks then ['\\', c] else [c]) rest
        (.text (String.singleton c)) := by
      split
      case isTrue hc => exact .escaped hc
      case isFalse hc =>
        simp only [bodyMarks, List.mem_cons, List.not_mem_nil, or_false, not_or] at hc
        exact .char hc.2.2 hc.1 fun e => absurd e hc.2.1
    rw [escape_cons]
    cases cs with
    | nil =>
      have he : escape bodyMarks [] = [] := rfl
      rw [he, List.append_nil, ← String.singleton_eq_ofList]
      exact (item rest).toBody
    | cons next cs =>
      have hb := Body.cons (item _) (ih (List.cons_ne_nil next cs))
      have ht : (Node.text (String.singleton c)).attach [.text (String.ofList (next :: cs))] =
          [.text (String.ofList (c :: next :: cs))] := by
        rw [@String.ofList_cons c]
        rfl
      rwa [ht] at hb

/-- Escaped characters are derived as the text of an option. -/
lemma optionText_escape {rest : List Char} (cs : List Char) :
    OptionText (escape optionEnds cs) rest cs := by
  induction cs with
  | nil => exact .nil
  | cons c cs ih =>
    rw [escape_cons]
    split
    case isTrue hc =>
      refine .escaped ?_ ih
      simp only [optionEnds, List.mem_cons, List.not_mem_nil, or_false] at hc
      rcases hc with rfl | rfl | rfl <;> decide
    case isFalse hc =>
      refine .char ?_ ih
      simp only [optionEnds, List.mem_cons, List.not_mem_nil, or_false, not_or] at hc ⊢
      exact ⟨hc.2.2, hc.1, hc.2.1⟩

/-- Options that are written are derived, if there are any. -/
lemma optionList_render {options : List String} {rest : List Char} (h : options ≠ []) :
    OptionList (renderOptions options) rest options := by
  induction options with
  | nil => exact absurd rfl h
  | cons option options ih =>
    cases options with
    | nil =>
      have hs : OptionList _ rest _ := .single (optionText_escape option.toList)
      rw [String.ofList_toList] at hs
      simpa [renderOptions] using hs
    | cons next options =>
      have hc := OptionList.cons (optionText_escape option.toList)
        (ih (List.cons_ne_nil next options))
      rw [String.ofList_toList] at hc
      simpa [renderOptions, List.intercalate_cons_cons] using hc

/-- A choice in normal form is derived from what is written of it. -/
lemma body_choice {d index options rest} (h : (Node.choice index options).isNormal) :
    Body d (Node.choice index options).render rest [.choice index options] := by
  simp only [Node.isNormal, Bool.and_eq_true, Bool.not_eq_true', List.isEmpty_eq_false_iff] at h
  obtain ⟨hi, ho⟩ := h
  have hl : LabelText (Label.index index).render (.index index) := labelText_render hi
  exact (Item.choice hl (optionList_render ho)).toBody

mutual

/-- A node that is written is derived in a body that leaves room for its bodies. -/
lemma body_render : ∀ {d node rest}, Node.isNormal node → d + node.nesting ≤ maxNesting →
    Body d node.render rest [node]
  | d, .text value, rest, h, _ => by
    have hv : value.toList ≠ [] := by
      simpa [Node.isNormal] using h
    have hb : Body d (escape bodyMarks value.toList) rest _ := body_escape hv
    rwa [String.ofList_toList] at hb
  | _, .field label [], _, h, _ => by
    have hl : label.isWritable := by
      simpa [Node.isNormal, Node.areNormal] using h
    exact (Item.braced (labelText_render hl)).toBody
  | d, .field label (node :: body), rest, h, hd => by
    rw [Node.isNormal, Bool.and_eq_true] at h
    rw [Node.nesting] at hd
    have hb : Body (d + 1) (Node.renderAll (node :: body)) ('}' :: rest) (node :: body) :=
      body_renderAll h.2 (by omega)
    exact (Item.body (labelText_render h.1) (by omega) hb).toBody
  | _, .choice _ _, _, h, _ => body_choice h

/-- Nodes that are written are derived in a body that leaves room for their bodies. -/
lemma body_renderAll : ∀ {d nodes rest}, Node.areNormal nodes →
    d + Node.nestingAll nodes ≤ maxNesting → Body d (Node.renderAll nodes) rest nodes
  | _, [], _, _, _ => .nil
  | d, node :: nodes, rest, h, hd => by
    simp only [Node.areNormal, Bool.and_eq_true, Bool.not_eq_true'] at h
    rw [Node.nestingAll] at hd
    obtain ⟨⟨hn, hs⟩, hm⟩ := h
    have hf : Body d node.render (Node.renderAll nodes ++ rest) [node] :=
      body_render hn (by omega)
    have hr : Body d (Node.renderAll nodes) rest nodes := body_renderAll hs (by omega)
    have hb := hf.append hr
    rwa [singleton_join, Node.attach_of_not_meets hm] at hb

end

/-- What is written of a well-formed template is read as that template. -/
theorem parse_render (template : Template) (h : WellFormed template) :
    parse (render template) = .ok template := by
  obtain ⟨hn, hd⟩ := h
  apply parse_of_body
  rw [render, String.toList_ofList]
  exact body_renderAll hn (by omega)

/-- Marks in every kind of node are written and read again. -/
theorem parse_render_marks : ∃ template : Template,
    render template = "a\\$\\\x7d$\x7b1:$\x7b2|x\\,\\|,|\x7d\\\\\x7d$\x7bV\x7d" ∧
      WellFormed template ∧ parse (render template) = .ok template :=
  ⟨[.text "a$\x7d", .field (.index 1) [.choice 2 ["x,|", ""], .text "\\"],
      .field (.name "V") []],
    by decide, by decide, parse_render _ (by decide)⟩

end TucServer.Template
