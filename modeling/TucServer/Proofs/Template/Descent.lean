import TucServer.Template.Reader

/-!
# Reading by descent

A template can also be read by procedures that call each other, one for each form, and share a
cursor: the byte at which they stand in the source and how many bodies are open around it. Nothing
about them is taken for granted. A procedure that asks for a slice of the source that does not lie
between characters stops with a `Panic`. One that calls itself is told how many such calls may be
open at a time, and does not return (`none`) if it needs more. The counts in the cursor remember how
high they have been.
-/

namespace TucServer.Template

/-- A count, and the highest that it has been. -/
structure Gauge where
  level : Nat
  peak : Nat
  deriving DecidableEq, Repr

namespace Gauge

/-- Nothing was counted. -/
def zero : Gauge := ⟨0, 0⟩

/-- One more. -/
def raise (gauge : Gauge) : Gauge := ⟨gauge.level + 1, max gauge.peak (gauge.level + 1)⟩

/-- One less. -/
def lower (gauge : Gauge) : Gauge := ⟨gauge.level - 1, gauge.peak⟩

end Gauge

/-- The byte of the source at which a descent stands, the bodies that are open around it, and the
calls of `Descent.elements` that have not returned. -/
structure Cursor where
  pos : Nat
  depth : Gauge
  calls : Gauge
  deriving DecidableEq, Repr

namespace Cursor

/-- The cursor in front of the source. -/
def start : Cursor := ⟨0, .zero, .zero⟩

/-- The cursor so many bytes later. -/
def advance (cursor : Cursor) (bytes : Nat) : Cursor :=
  { cursor with pos := cursor.pos + bytes }

/-- The cursor in one more body. -/
def deepen (cursor : Cursor) : Cursor := { cursor with depth := cursor.depth.raise }

/-- The cursor behind the innermost body. -/
def emerge (cursor : Cursor) : Cursor := { cursor with depth := cursor.depth.lower }

/-- The cursor in one more call. -/
def enter (cursor : Cursor) : Cursor := { cursor with calls := cursor.calls.raise }

/-- The cursor after the return of a call. -/
def leave (cursor : Cursor) : Cursor := { cursor with calls := cursor.calls.lower }

end Cursor

/-- Whether a byte of the source is where a character begins, or the end. -/
abbrev IsBoundary (source : String) (pos : Nat) : Prop :=
  String.Pos.Raw.IsValid source ⟨pos⟩

/-- How a descent comes to a stop in the middle of a call. -/
inductive Panic where
  | outOfBounds
  deriving DecidableEq, Repr

/-- What moves the cursor and returns a value, unless it panics or does not return. -/
abbrev Descent := StateT Cursor (ExceptT Panic Option)

namespace Descent

variable (source : String)

/-- Does not return. -/
def never {α : Type} : Descent α :=
  fun _ => (none : Option (Except Panic (α × Cursor)))

/-- The character under the cursor, the first one of the slice that begins there. -/
def peek : Descent (Option Char) := do
  let cursor ← get
  if h : IsBoundary source cursor.pos then
    return (source.sliceFrom ⟨⟨cursor.pos⟩, h⟩).front?
  else throw Panic.outOfBounds

/-- Takes the character under the cursor. -/
def bump : Descent (Option Char) := do
  match ← peek source with
  | some c =>
    modify (·.advance c.utf8Size)
    return some c
  | none => return none

/-- The part of the source between two bytes. -/
def slice (first last : Nat) : Descent String :=
  if h : IsBoundary source first ∧ IsBoundary source last ∧ first ≤ last then
    return (source.slice ⟨⟨first⟩, h.1⟩ ⟨⟨last⟩, h.2.1⟩ h.2.2).copy
  else throw Panic.outOfBounds

/-- Takes characters as long as they are of a kind. -/
def skipWhile (kind : Char → Bool) : Nat → Descent Unit
  | 0 => never
  | n + 1 => do
    match ← peek source with
    | some c =>
      if kind c then
        let _ ← bump source
        skipWhile kind n
      else return ()
    | none => return ()

/-- The characters of a kind under the cursor. -/
def takeWhile (n : Nat) (kind : Char → Bool) : Descent String := do
  let first := (← get).pos
  skipWhile source kind n
  slice source first (← get).pos

/-- The index that digits write. The place is blamed if there are none, or if it is too large. -/
def indexOf (place : Nat) (digits : String) : Except Error Nat :=
  if digits ≠ "" ∧ Digit.number digits.toList < indexBound then
    .ok (Digit.number digits.toList)
  else .error ⟨.invalidPlaceholder, place⟩

/-- The index under the cursor. -/
def index (n place : Nat) : Descent (Except Error Nat) := do
  return indexOf place (← takeWhile source n Char.isDigit)

/-- The character that is meant behind a backslash: the one under the cursor if it is of the kind
that is escaped, and else the backslash. -/
def escape (kind : Char → Bool) : Descent Char := do
  match ← peek source with
  | some c =>
    if kind c then
      let _ ← bump source
      return c
    else return '\\'
  | none => return '\\'

/-- The end of the choice that begins at this place, behind the bar after its last option. -/
def choiceEnd (place : Nat) (options : List String) : Descent (Except Error (List String)) := do
  match ← peek source with
  | some c =>
    if c = '}' then
      let _ ← bump source
      return .ok options
    else return .error ⟨.invalidPlaceholder, (← get).pos⟩
  | none => return .error ⟨.unterminatedChoice, place⟩

/-- The options from the cursor on, behind those that were read, latest first, and the characters
read of the current one. -/
def optionsFrom (place : Nat) : Nat → List String → String →
    Descent (Except Error (List String))
  | 0, _, _ => never
  | n + 1, options, current => do
    match ← bump source with
    | none => return .error ⟨.unterminatedChoice, place⟩
    | some c =>
      if c = '\\' then
        let d ← escape source Reader.optionEscapable
        optionsFrom place n options (current.push d)
      else if c = ',' then optionsFrom place n (current :: options) ""
      else if c = '|' then choiceEnd source place (current :: options).reverse
      else optionsFrom place n options (current.push c)

/-- The options of the choice that begins at this place. -/
def choice (n place : Nat) : Descent (Except Error (List String)) :=
  optionsFrom source place n [] ""

mutual

/-- The body of the field that begins at this place, one deeper. -/
def nested (n place : Nat) : Descent (Except Error Template) := do
  if maxNesting ≤ (← get).depth.level then return .error ⟨.nestingTooDeep, place⟩
  else
    modify Cursor.deepen
    let answer ← elements n (some place)
    modify Cursor.emerge
    return answer
termination_by (n, 2)

/-- The nodes up to the end of the source, or up to the brace that closes the body of the field that
begins at this place. -/
def elements (n : Nat) (place? : Option Nat) : Descent (Except Error Template) := do
  modify Cursor.enter
  let answer ← elementsFrom n place? []
  modify Cursor.leave
  return answer
termination_by (n, 1)

/-- The same behind the nodes that were read, latest first. -/
def elementsFrom (n : Nat) (place? : Option Nat) (nodes : List Node) :
    Descent (Except Error Template) :=
  match n with
  | 0 => never
  | n + 1 => do
    match ← peek source with
    | none =>
      match place? with
      | some place => return .error ⟨.unterminatedPlaceholder, place⟩
      | none => return .ok nodes.reverse
    | some c =>
      if c = '}' ∧ place?.isSome then
        let _ ← bump source
        return .ok nodes.reverse
      else if c = '\\' then
        let _ ← bump source
        let d ← escape source Reader.escapable
        elementsFrom n place? (addChar nodes d)
      else if c = '$' then
        match ← dollar n with
        | .ok (some node) => elementsFrom n place? (node :: nodes)
        | .ok none => elementsFrom n place? (addChar nodes '$')
        | .error error => return .error error
      else
        let _ ← bump source
        elementsFrom n place? (addChar nodes c)
termination_by (n, 0)

/-- What begins with the `$` under the cursor, if it is more than text. -/
def dollar (n : Nat) : Descent (Except Error (Option Node)) := do
  let place := (← get).pos
  let _ ← bump source
  behindDollar n place
termination_by (n, 6)

/-- The same behind the `$` at this place. -/
def behindDollar (n place : Nat) : Descent (Except Error (Option Node)) := do
  match ← peek source with
  | some c =>
    if c.isDigit then
      return (← index source n place).map fun value => some (.field (.index value) [])
    else if isNameStart c then
      let name ← takeWhile source n isNameChar
      return .ok (some (.field (.name name) []))
    else if c = '{' then
      let _ ← bump source
      return (← braced n place).map some
    else return .ok none
  | none => return .ok none
termination_by (n, 5)

/-- What stands in the braces that were opened behind the `$` at this place. -/
def braced (n place : Nat) : Descent (Except Error Node) := do
  match ← peek source with
  | some c =>
    if c.isDigit then
      match ← index source n place with
      | .ok value => labelled n place (.index value)
      | .error error => return .error error
    else if isNameStart c then
      let name ← takeWhile source n isNameChar
      labelled n place (.name name)
    else return .error ⟨.invalidPlaceholder, (← get).pos⟩
  | none => return .error ⟨.unterminatedPlaceholder, place⟩
termination_by (n, 4)

/-- What stands in the braces behind the label. -/
def labelled (n place : Nat) (label : Label) : Descent (Except Error Node) := do
  match ← peek source with
  | some c =>
    if c = '}' then
      let _ ← bump source
      return .ok (.field label [])
    else if c = ':' then
      let _ ← bump source
      return (← nested n place).map fun body => .field label body
    else
      match label with
      | .index value =>
        if c = '|' then
          let _ ← bump source
          return (← choice source n place).map fun options => .choice value options
        else return .error ⟨.invalidPlaceholder, (← get).pos⟩
      | .name _ => return .error ⟨.invalidPlaceholder, (← get).pos⟩
  | none => return .error ⟨.unterminatedPlaceholder, place⟩
termination_by (n, 3)

end

end Descent

end TucServer.Template
