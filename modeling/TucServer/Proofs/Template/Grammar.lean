import Mathlib.Tactic.Lemma
import TucServer.Template.Reader

/-!
# The grammar of templates

The grammar says which texts are templates and which trees they have, without a reader. A text is
derived together with what follows it, since a `$`, a backslash and a label depend on the character
ahead. `Item d text rest node` derives one item of a body that lies `d` bodies deep, and
`Body d text rest nodes` a whole body. A literal character is a text node of its own, and `join`
makes one node of the text nodes that meet.

`Body.append` puts two derivations together, as `join` does with their trees.
-/

namespace TucServer.Template

/-- Whether the node is text. -/
def Node.isText : Node → Bool
  | .text _ => true
  | _ => false

/-- The node in front of a template. Text in front of text becomes one node. -/
def Node.attach : Node → Template → Template
  | .text a, .text b :: rest => .text (a ++ b) :: rest
  | node, template => node :: template

/-- One template after the other. Text at the end of the first and text at the head of the second
become one node. -/
def join : Template → Template → Template
  | [], second => second
  | [node], second => node.attach second
  | node :: next :: first, second => node :: join (next :: first) second

/-- No character of the kind is next in the text. -/
def NoneAhead (kind : Char → Prop) (text : List Char) : Prop :=
  ∀ c ∈ text.head?, ¬ kind c

/-- The characters that a backslash in a body escapes. -/
def bodyMarks : List Char := ['$', '}', '\\']

/-- The characters that a backslash in an option escapes. -/
def optionMarks : List Char := [',', '|', '\\', '$', '}']

/-- The texts of a label: digits that write an index, or the characters of a name. -/
inductive LabelText : List Char → Label → Prop where
  | index {digits} :
    digits ≠ [] →
    (∀ c ∈ digits, c.isDigit) →
    Digit.number digits < indexBound →
    LabelText digits (.index (Digit.number digits))
  | name {c rest} :
    isNameStart c →
    (∀ d ∈ rest, isNameChar d) →
    LabelText (c :: rest) (.name (String.ofList (c :: rest)))

/-- An index of one digit is in range. -/
lemma value_lt_indexBound {c : Char} (hc : c.isDigit) : Digit.value c < indexBound := by
  simp only [Char.isDigit, Bool.and_eq_true, decide_eq_true_eq] at hc
  simp only [Digit.value, indexBound, Char.toNat]
  have h9 : c.val.toNat ≤ 57 := hc.2
  omega

/-- The texts of an option, each before what follows it and with the characters it means. -/
inductive OptionText : List Char → List Char → List Char → Prop where
  | nil {rest} :
    OptionText [] rest []
  | escaped {c text rest cs} :
    c ∈ optionMarks →
    OptionText text rest cs →
    OptionText ('\\' :: c :: text) rest (c :: cs)
  | backslash {text rest cs} :
    NoneAhead (· ∈ optionMarks) (text ++ rest) →
    OptionText text rest cs →
    OptionText ('\\' :: text) rest ('\\' :: cs)
  | char {c text rest cs} :
    c ∉ ['\\', ',', '|'] →
    OptionText text rest cs →
    OptionText (c :: text) rest (c :: cs)

/-- The texts of one or more options with commas between them. -/
inductive OptionList : List Char → List Char → List String → Prop where
  | single {text rest cs} :
    OptionText text rest cs →
    OptionList text rest [String.ofList cs]
  | cons {text more rest cs options} :
    OptionText text (',' :: more ++ rest) cs →
    OptionList more rest options →
    OptionList (text ++ ',' :: more) rest (String.ofList cs :: options)

mutual

/-- The texts of one item in a body of this depth, each before what follows it and with its node. -/
inductive Item : Nat → List Char → List Char → Node → Prop where
  /-- An escaped character. -/
  | escaped {d rest c} :
    c ∈ bodyMarks →
    Item d ['\\', c] rest (.text (String.singleton c))
  /-- A backslash that escapes nothing. -/
  | backslash {d rest} :
    NoneAhead (· ∈ bodyMarks) rest →
    Item d ['\\'] rest (.text (String.singleton '\\'))
  /-- A `$` that begins nothing. -/
  | dollar {d rest} :
    NoneAhead (fun c => c.isDigit ∨ c.isAlpha ∨ c = '_' ∨ c = '{') rest →
    Item d ['$'] rest (.text (String.singleton '$'))
  /-- Any other character. A closing brace is text only outside every field. -/
  | char {d rest c} :
    c ≠ '\\' →
    c ≠ '$' →
    (c = '}' → d = 0) →
    Item d [c] rest (.text (String.singleton c))
  /-- A label that extends as far as it can. -/
  | bare {d text rest label} :
    LabelText text label →
    NoneAhead (label.continues ·) rest →
    Item d ('$' :: text) rest (.field label [])
  /-- A label in braces. -/
  | braced {d text rest label} :
    LabelText text label →
    Item d ('$' :: '{' :: text ++ ['}']) rest (.field label [])
  /-- A label in braces with a body. -/
  | body {d text inner rest label nodes} :
    LabelText text label →
    d + 1 ≤ maxNesting →
    Body (d + 1) inner ('}' :: rest) nodes →
    Item d ('$' :: '{' :: text ++ ':' :: inner ++ ['}']) rest (.field label nodes)
  /-- An index in braces with options. -/
  | choice {d digits text rest index options} :
    LabelText digits (.index index) →
    OptionList text ('|' :: '}' :: rest) options →
    Item d ('$' :: '{' :: digits ++ '|' :: text ++ ['|', '}']) rest (.choice index options)

/-- The texts of a body of this depth, each before what follows it and with its nodes. -/
inductive Body : Nat → List Char → List Char → Template → Prop where
  | nil {d rest} :
    Body d [] rest []
  | cons {d first more rest node nodes} :
    Item d first (more ++ rest) node →
    Body d more rest nodes →
    Body d (first ++ more) rest (node.attach nodes)

end

/-- A node in front of nothing stands alone. -/
@[simp] lemma Node.attach_nil (node : Node) : node.attach [] = [node] := by
  cases node <;> rfl

/-- Nothing is joined to what follows. -/
@[simp] lemma nil_join (template : Template) : join [] template = template := rfl

/-- A node alone is put in front of what follows. -/
@[simp] lemma singleton_join (node : Node) (template : Template) :
    join [node] template = node.attach template := rfl

/-- Nothing that follows joins nothing. -/
@[simp] lemma join_nil (template : Template) : join template [] = template := by
  induction template with
  | nil => rfl
  | cons node rest ih =>
    cases rest with
    | nil => exact node.attach_nil
    | cons next rest => exact congrArg (node :: ·) ih

/-- The node at the head takes no part as long as another one is behind it. -/
lemma cons_join {first : Template} (h : first ≠ []) (node : Node) (second : Template) :
    join (node :: first) second = node :: join first second := by
  cases first with
  | nil => exact absurd rfl h
  | cons next first => rfl

/-- Only the last node of the first template meets the second. -/
lemma append_singleton_join (first : Template) (node : Node) (second : Template) :
    join (first ++ [node]) second = first ++ node.attach second := by
  induction first with
  | nil => rfl
  | cons head first ih =>
    rw [List.cons_append, cons_join (by simp), ih, List.cons_append]

/-- A node that is no text is joined at the end as it is. -/
lemma join_singleton (node : Node) (h : node.isText = false) (first : Template) :
    join first [node] = first ++ [node] := by
  induction first with
  | nil => rfl
  | cons head first ih =>
    cases first with
    | nil =>
      cases node with
      | text value => cases h
      | field => cases head <;> rfl
      | choice => cases head <;> rfl
    | cons next first => exact congrArg (head :: ·) ih

/-- A node in front of a joined template may be put in front of its first part. -/
lemma attach_join (node : Node) (first second : Template) :
    join (node.attach first) second = node.attach (join first second) := by
  match first with
  | [] => rw [Node.attach_nil, singleton_join, nil_join]
  | [next] =>
    cases node with
    | text a =>
      cases next with
      | text b =>
        match second with
        | [] => rfl
        | .text c :: second =>
          show [Node.text (a ++ b ++ c)] ++ second = [Node.text (a ++ (b ++ c))] ++ second
          rw [String.append_assoc]
        | .field _ _ :: second => rfl
        | .choice _ _ :: second => rfl
      | field => rfl
      | choice => rfl
    | field => rfl
    | choice => rfl
  | next :: after :: first =>
    cases node with
    | text a => cases next <;> rfl
    | field => rfl
    | choice => rfl

/-- A node is never lost to what it is put in front of. -/
lemma Node.attach_ne_nil (node : Node) (template : Template) : node.attach template ≠ [] := by
  cases template with
  | nil => simp
  | cons head rest => cases node <;> cases head <;> simp [Node.attach]

/-- What is joined has the nodes of the first template, if there are any. -/
lemma join_ne_nil {first : Template} (h : first ≠ []) (second : Template) :
    join first second ≠ [] := by
  match first with
  | [] => exact absurd rfl h
  | [node] => exact node.attach_ne_nil second
  | node :: next :: first => exact List.cons_ne_nil node _

/-- It does not matter in which order three templates are joined. -/
lemma join_assoc (first second third : Template) :
    join (join first second) third = join first (join second third) := by
  induction first with
  | nil => rfl
  | cons node first ih =>
    by_cases h : first = []
    · subst h
      exact attach_join node second third
    · rw [cons_join h, cons_join (join_ne_nil h second), ih, cons_join h]

/-- An option may be read in two parts. -/
lemma OptionText.append {first second rest cs ds} (h1 : OptionText first (second ++ rest) cs)
    (h2 : OptionText second rest ds) : OptionText (first ++ second) rest (cs ++ ds) := by
  -- what follows the first part stays the same along its derivation
  generalize e : second ++ rest = ahead at h1
  induction h1 with
  | nil => exact h2
  | escaped hc _ ih => exact .escaped hc (ih e)
  | @backslash text ahead cs hn _ ih =>
    have hn' : NoneAhead (· ∈ optionMarks) (text ++ second ++ rest) := by
      rw [List.append_assoc, e]
      exact hn
    exact .backslash hn' (ih e)
  | char hc _ ih => exact .char hc (ih e)

/-- An item alone is a body. -/
lemma Item.toBody {d text rest node} (h : Item d text rest node) : Body d text rest [node] := by
  have h' : Item d text ([] ++ rest) node := h
  simpa using Body.cons h' .nil

/-- A body may be read in two parts. -/
lemma Body.append {d first second rest nodes nodes'} (h1 : Body d first (second ++ rest) nodes)
    (h2 : Body d second rest nodes') : Body d (first ++ second) rest (join nodes nodes') := by
  -- only the items of the body itself count, not those of the bodies in them
  generalize e : second ++ rest = ahead at h1
  induction h1 using Body.rec (motive_1 := fun _ _ _ _ _ => True) with
  | nil => exact h2
  | @cons d first more ahead node nodes item _ _ ih =>
    rw [List.append_assoc, attach_join]
    refine .cons ?_ (ih h2 e)
    rw [List.append_assoc, e]
    exact item
  | _ => trivial

end TucServer.Template
