import TucServer.Json.Basic

/-!
# Shapes of JSON values

A shape says what a value has to look like. Members of an object that its shape does not name are
ignored, and an optional member may be missing. A record is an object that may also be written as
the array of its members in their order; an optional member then has to be there, too, but may be
null.
-/

namespace TucServer

/-- What a value has to look like. -/
inductive Shape where
  | any
  | bool
  | integer (least greatest : Int)
  | string (isValid : String → Bool)
  /-- One of these words, also as an object whose only member is named by the word and is null. -/
  | word (words : List String)
  | list (item : Shape)
  /-- The shape, or null. -/
  | optional (shape : Shape)
  | either (one other : Shape)
  | object (members : List (String × Shape))
  /-- An object or an array. So many of the last members may be left out of an array. -/
  | record (members : List (String × Shape)) (spare : Nat)

namespace Shape

/-- A text. -/
def text : Shape := .string fun _ => true

/-- An integer of 32 bits without sign. -/
def unsigned32 : Shape := .integer 0 4294967295

/-- An integer of 32 bits with sign. -/
def signed32 : Shape := .integer (-2147483648) 2147483647

/-- Whether a member of this shape may be missing. -/
def isOptional : Shape → Bool
  | .optional _ => true
  | _ => false

mutual

/-- Whether the value has the shape. -/
def accepts : Shape → Json → Bool
  | .any, _ => true
  | .bool, .bool _ => true
  | .integer least greatest, .integer value => least ≤ value && value ≤ greatest
  | .string isValid, .string value => isValid value
  | .word words, .string value => words.contains value
  | .word words, .object [(name, .null)] => words.contains name
  | .list item, .array items => items.all fun value => item.accepts value
  | .optional _, .null => true
  | .optional shape, value => shape.accepts value
  | .either one other, value => one.accepts value || other.accepts value
  | .object members, .object values => acceptNamed members (.object values)
  | .record members _, .object values => acceptNamed members (.object values)
  | .record members spare, .array values => acceptListed members spare values
  | _, _ => false

/-- Whether the object has these members. -/
def acceptNamed : List (String × Shape) → Json → Bool
  | [], _ => true
  | (name, shape) :: rest, json =>
    (match json.member? name with
    | some value => shape.accepts value
    | none => shape.isOptional) && acceptNamed rest json

/-- Whether the values are these members in their order, without so many of the last ones. -/
def acceptListed : List (String × Shape) → Nat → List Json → Bool
  | [], _, values => values.isEmpty
  | (_, shape) :: rest, spare, value :: values =>
    shape.accepts value && acceptListed rest spare values
  | members, spare, [] => members.length ≤ spare

end

/-- The shape of a member and its value, where it is there. -/
def member? (name : String) (json : Json) : Shape → Option (Shape × Json)
  | .optional shape => shape.member? name json
  | .object members => do
    return (← members.lookup name, ← json.member? name)
  | .record members _ => do
    let value ←
      match json with
      | .array values => values[members.findIdx (·.1 == name)]?
      | json => json.member? name
    return (← members.lookup name, value)
  | _ => none

/-- The value that the names lead to, each the name of a member of what the names before it lead
to. -/
def at? : List String → Shape → Json → Option Json
  | [], _, json => some json
  | name :: names, shape, json => do
    let (shape, value) ← shape.member? name json
    at? names shape value

end Shape

end TucServer
