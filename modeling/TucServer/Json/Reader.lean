import TucServer.Json.Token

/-!
# Reading JSON values

A value is built by a fold over the tokens. The arrays and objects that are still open stand on a
stack, so that the depth of a value is bounded by nothing.
-/

namespace TucServer.Json

/-- An array or object that is still open, with what it holds so far, latest first. An object
also has the name of the member that is being read. -/
inductive Open where
  | array (items : List Json)
  | object (members : List (String × Json)) (name : String)

/-- What may come next. -/
inductive Expect where
  | value
  /-- A value, or the end of the array just opened. -/
  | item
  /-- A name, or the end of the object just opened. -/
  | firstName
  | name
  | colon
  /-- A comma or the end of the innermost array or object. -/
  | separator
  /-- Nothing: the value is complete. -/
  | nothing (value : Json)

/-- What has been read so far: what may come next, and the open arrays and objects, innermost
first. -/
structure Builder where
  expect : Expect
  stack : List Open

namespace Builder

/-- The builder after a complete value. -/
def place (stack : List Open) (value : Json) : Builder :=
  match stack with
  | [] => ⟨.nothing value, []⟩
  | .array items :: rest => ⟨.separator, .array (value :: items) :: rest⟩
  | .object members name :: rest => ⟨.separator, .object ((name, value) :: members) "" :: rest⟩

/-- The builder at the beginning of a value. -/
def begin? (stack : List Open) : Token → Option Builder
  | .scalar value => some (place stack value)
  | .openArray => some ⟨.item, .array [] :: stack⟩
  | .openObject => some ⟨.firstName, .object [] "" :: stack⟩
  | _ => none

/-- The builder after the end of the innermost array or object. -/
def close? : List Open → Token → Option Builder
  | .array items :: rest, .closeArray => some (place rest (.array items.reverse))
  | .object members _ :: rest, .closeObject => some (place rest (.object members.reverse))
  | _, _ => none

/-- The builder after the name of a member. -/
def named? : List Open → Token → Option Builder
  | .object members _ :: rest, .scalar (.string name) => some ⟨.colon, .object members name :: rest⟩
  | _, _ => none

/-- The builder after one more token. -/
def step : Builder → Token → Option Builder
  | ⟨.value, stack⟩, token => begin? stack token
  | ⟨.item, stack⟩, token =>
    match token with
    | .closeArray => close? stack token
    | _ => begin? stack token
  | ⟨.firstName, stack⟩, token =>
    match token with
    | .closeObject => close? stack token
    | _ => named? stack token
  | ⟨.name, stack⟩, token => named? stack token
  | ⟨.colon, stack⟩, token =>
    match token with
    | .colon => some ⟨.value, stack⟩
    | _ => none
  | ⟨.separator, stack⟩, token =>
    match token, stack with
    | .comma, .array _ :: _ => some ⟨.value, stack⟩
    | .comma, .object _ _ :: _ => some ⟨.name, stack⟩
    | _, _ => close? stack token
  | ⟨.nothing _, _⟩, _ => none

/-- The value read when the tokens end here. -/
def finish (b : Builder) : Option Json :=
  match b.expect with
  | .nothing value => some value
  | _ => none

end Builder

/-- The value that the tokens write. -/
def ofTokens? (tokens : List Token) : Option Json :=
  tokens.foldlM Builder.step ⟨.value, []⟩ >>= Builder.finish

/-- The value written in a text. -/
def parse? (text : String) : Option Json :=
  Token.scan text >>= ofTokens?

end TucServer.Json
