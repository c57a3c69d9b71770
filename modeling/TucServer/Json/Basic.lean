/-!
# JSON values

The values that requests, answers and messages are made of, with the look-ups by which a message is
taken apart.
-/

namespace TucServer

/-- A JSON value. A number that is written without fraction and exponent is an integer; any other
number is kept as it is written. The members of an object keep the order in which they are
written. -/
inductive Json where
  | null
  | bool (value : Bool)
  | integer (value : Int)
  | decimal (written : String)
  | string (value : String)
  | array (items : List Json)
  | object (members : List (String × Json))
  deriving Repr, Inhabited

namespace Json

/-- The member of an object with this name, the last one if the name is repeated. -/
def member? (name : String) : Json → Option Json
  | .object members => (members.reverse.find? (·.1 == name)).map (·.2)
  | _ => none

/-- The text of a string. -/
def string? : Json → Option String
  | .string value => some value
  | _ => none

/-- A truth value. -/
def bool? : Json → Option Bool
  | .bool value => some value
  | _ => none

/-- The items of an array. -/
def array? : Json → Option (List Json)
  | .array items => some items
  | _ => none

/-- An integer of 32 bits without sign. -/
def unsigned32? : Json → Option Nat
  | .integer value => if 0 ≤ value ∧ value < 4294967296 then some value.toNat else none
  | _ => none

/-- An integer of 32 bits with sign. -/
def signed32? : Json → Option Int
  | .integer value => if -2147483648 ≤ value ∧ value < 2147483648 then some value else none
  | _ => none

mutual

/-- How deeply arrays and objects are nested in a value. -/
def depth : Json → Nat
  | .array items => depthOfItems items + 1
  | .object members => depthOfMembers members + 1
  | _ => 0

/-- How deeply arrays and objects are nested in the items of an array. -/
def depthOfItems : List Json → Nat
  | [] => 0
  | item :: rest => max item.depth (depthOfItems rest)

/-- How deeply arrays and objects are nested in the members of an object. -/
def depthOfMembers : List (String × Json) → Nat
  | [] => 0
  | (_, value) :: rest => max value.depth (depthOfMembers rest)

end

end Json

end TucServer
