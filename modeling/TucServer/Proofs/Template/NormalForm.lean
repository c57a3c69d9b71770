import TucServer.Proofs.Template.Grammar

/-!
# Normal forms of templates

A template is in normal form when no text in it could be left out or joined to its neighbour, and
every label and choice in it can be written. `WellFormed` adds that the bodies respect the limit on
their nesting. Both can be computed.
-/

namespace TucServer.Template

/-- Whether the label can be written: an index below the bound, or the characters of a name. -/
def Label.isWritable : Label → Bool
  | .index value => value < indexBound
  | .name value =>
    match value.toList with
    | [] => false
    | c :: rest => isNameStart c && rest.all isNameChar

namespace Node

/-- Whether the node is text right before text. -/
def meets (node : Node) (rest : List Node) : Bool :=
  node.isText && rest.head?.any isText

mutual

/-- Whether the node and all nodes in it are in normal form. -/
def isNormal : Node → Bool
  | .text value => value != ""
  | .field label body => label.isWritable && areNormal body
  | .choice index options => index < indexBound && !options.isEmpty

/-- Whether the nodes are in normal form and no text meets text. -/
def areNormal : List Node → Bool
  | [] => true
  | node :: rest => isNormal node && areNormal rest && !node.meets rest

end

mutual

/-- How deep the bodies in a node are nested. An empty body does not count. -/
def nesting : Node → Nat
  | .text _ => 0
  | .field _ [] => 0
  | .field _ (node :: body) => nestingAll (node :: body) + 1
  | .choice _ _ => 0

/-- How deep the bodies in the nodes are nested. -/
def nestingAll : List Node → Nat
  | [] => 0
  | node :: rest => max (nesting node) (nestingAll rest)

end

/-- Nodes that do not meet are joined as they are. -/
lemma attach_of_not_meets {node : Node} {rest : List Node} (h : node.meets rest = false) :
    node.attach rest = node :: rest := by
  cases rest with
  | nil => exact node.attach_nil
  | cons next rest => cases node <;> cases next <;> first | rfl | cases h

/-- Nodes that meet are texts. -/
lemma exists_text_of_meets {node : Node} {rest : List Node} (h : node.meets rest) :
    ∃ a b more, node = .text a ∧ rest = .text b :: more := by
  cases rest with
  | nil => simp [meets] at h
  | cons next rest =>
    cases node <;> cases next <;> first | exact ⟨_, _, _, rfl, rfl⟩ | cases h

end Node

/-- A template in normal form whose bodies are nested within the limit. -/
def WellFormed (template : Template) : Prop :=
  Node.areNormal template ∧ Node.nestingAll template ≤ maxNesting

instance : DecidablePred WellFormed := fun _ => inferInstanceAs (Decidable (_ ∧ _))

end TucServer.Template
