/-!
# Template trees

A template is a list of nodes: text, fields and choices. A field is labelled by the index of a tab
stop or by the name of a variable, and its body is the template inserted where nothing else is
known. This file holds the trees, decidable equality for them, and the two views that the rest of
the library takes: the plain text of a template and the tab stops in it.
-/

namespace TucServer

namespace Template

/-- What a field stands for: a tab stop, by its index, or a variable, by its name. A tree can also
be built without a text, with labels that no text writes, and has its plain text and its tab stops
all the same. Which labels can be written is said by `Label.isWritable`; that reading makes no
others is proved. -/
inductive Label where
  | index (value : Nat)
  | name (value : String)
  deriving DecidableEq, Repr

/-- One piece of a template. A bare tab stop or variable is a field with an empty body. -/
inductive Node where
  | text (value : String)
  | field (label : Label) (body : List Node)
  | choice (index : Nat) (options : List String)
  deriving Repr

namespace Node

mutual

/-- Equality of two nodes can be decided. -/
def decEq : (a b : Node) → Decidable (a = b)
  | .text s, .text t => decidable_of_iff (s = t) (by simp)
  | .field l xs, .field k ys =>
    if hl : l = k then
      match decEqAll xs ys with
      | .isTrue h => .isTrue (by rw [hl, h])
      | .isFalse h => .isFalse fun e => h (Node.field.inj e).2
    else .isFalse fun e => hl (Node.field.inj e).1
  | .choice i os, .choice j ps => decidable_of_iff (i = j ∧ os = ps) (by simp)
  | .text _, .field _ _ => .isFalse nofun
  | .text _, .choice _ _ => .isFalse nofun
  | .field _ _, .text _ => .isFalse nofun
  | .field _ _, .choice _ _ => .isFalse nofun
  | .choice _ _, .text _ => .isFalse nofun
  | .choice _ _, .field _ _ => .isFalse nofun

/-- Equality of two lists of nodes can be decided. -/
def decEqAll : (xs ys : List Node) → Decidable (xs = ys)
  | [], [] => .isTrue rfl
  | x :: xs, y :: ys =>
    match decEq x y with
    | .isTrue hx =>
      match decEqAll xs ys with
      | .isTrue h => .isTrue (by rw [hx, h])
      | .isFalse h => .isFalse fun e => h (List.cons.inj e).2
    | .isFalse hx => .isFalse fun e => hx (List.cons.inj e).1
  | [], _ :: _ => .isFalse nofun
  | _ :: _, [] => .isFalse nofun

end

instance : DecidableEq Node := decEq

mutual

/-- The characters a node leaves when nothing can be filled in: a field leaves what its body
leaves, a choice its first option. -/
def plain : Node → List Char
  | .text value => value.toList
  | .field _ body => plainAll body
  | .choice _ options => (options.headD "").toList

/-- The characters the nodes leave, one after the other. -/
def plainAll : List Node → List Char
  | [] => []
  | node :: rest => plain node ++ plainAll rest

end

mutual

/-- The tab stop indices that occur in a node, in the order of the text, with repetitions. -/
def indices : Node → List Nat
  | .text _ => []
  | .field (.index value) body => value :: indicesAll body
  | .field (.name _) body => indicesAll body
  | .choice index _ => [index]

/-- The tab stop indices that occur in the nodes. -/
def indicesAll : List Node → List Nat
  | [] => []
  | node :: rest => indices node ++ indicesAll rest

end

end Node

end Template

/-- A template is the list of its nodes. -/
abbrev Template := List Template.Node

namespace Template

/-- The text of the template for a client that cannot fill in fields. -/
def plainText (template : Template) : String :=
  String.ofList (Node.plainAll template)

/-- A list without its immediate repetitions. -/
def dropRepeats : List Nat → List Nat
  | [] => []
  | [i] => [i]
  | i :: j :: rest => if i = j then dropRepeats (j :: rest) else i :: dropRepeats (j :: rest)

/-- The tab stops of the template, in ascending order and each listed once. -/
def tabStops (template : Template) : List Nat :=
  dropRepeats ((Node.indicesAll template).mergeSort (· ≤ ·))

end Template

end TucServer
