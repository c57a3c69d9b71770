import TucServer.Template.Error
import TucServer.Template.Label

/-!
# Reading templates

A template is read one character at a time. The reader holds the nodes of the innermost open body
and, below it, a frame for every body that is still open, so that reading is a fold over the
characters of the source: what has been read of a source is a reader, and an error stops the fold
for good. The forms are

```text
field  ::= '$' label | '${' label '}' | '${' label ':' body '}'
choice ::= '${' index '|' option (',' option)* '|}'
```

A backslash in a body escapes `$`, `}` and itself, and in an option also the comma and the bar. A
`$` that begins none of the forms and a `}` outside every body are text.
-/

namespace TucServer.Template

/-- What is being read when the next character comes. Each place is the byte of the `$` with which
the construct begins. -/
inductive Mode where
  /-- The nodes of a body. -/
  | body
  /-- A backslash in a body was read. -/
  | escape
  /-- A `$` was read. -/
  | dollar (place : Nat)
  /-- A label directly after `$`. -/
  | bare (place : Nat) (label : Label)
  /-- The opening of a field or choice was read. -/
  | brace (place : Nat)
  /-- A label inside braces. -/
  | braced (place : Nat) (label : Label)
  /-- An option of a choice, after the options before it. -/
  | option (place : Nat) (index : Nat) (options : List String) (current : String)
  /-- A backslash in an option was read. -/
  | optionEscape (place : Nat) (index : Nat) (options : List String) (current : String)
  /-- The bar after the last option was read. -/
  | optionEnd (place : Nat) (index : Nat) (options : List String)
  deriving DecidableEq, Repr

/-- A body that is open around the one being read: where its field begins, the label of the field,
and the nodes before the field, latest first. -/
structure Frame where
  place : Nat
  label : Label
  before : List Node
  deriving DecidableEq, Repr

/-- What has been read so far: the number of bytes, what is being read now, the nodes of the
innermost open body, latest first, and the open frames, innermost first. -/
structure Reader where
  offset : Nat
  mode : Mode
  nodes : List Node
  frames : List Frame
  deriving DecidableEq, Repr

/-- Nodes, latest first, with one more character of text. -/
def addChar (nodes : List Node) (c : Char) : List Node :=
  match nodes with
  | .text value :: rest => .text (value.push c) :: rest
  | _ => .text (String.singleton c) :: nodes

namespace Reader

/-- The reader before the first character. -/
def start : Reader := ⟨0, .body, [], []⟩

/-- How many bodies are open. -/
def depth (r : Reader) : Nat :=
  r.frames.length

/-- The reader back in the innermost body, with one more character of text. -/
def char (r : Reader) (c : Char) : Reader :=
  let ⟨offset, _, nodes, frames⟩ := r
  ⟨offset, .body, addChar nodes c, frames⟩

/-- The reader back in the innermost body, with one more node. -/
def node (r : Reader) (n : Node) : Reader :=
  { r with mode := .body, nodes := n :: r.nodes }

/-- The reader in the body of a new field, unless that would exceed the limit. -/
def openBody (limit : Option Nat) (r : Reader) (place : Nat) (label : Label) :
    Except Error Reader :=
  if limit.any (· ≤ r.depth) then .error ⟨.nestingTooDeep, place⟩
  else .ok { r with mode := .body, nodes := [], frames := ⟨place, label, r.nodes⟩ :: r.frames }

/-- The reader after the brace that closes the innermost body. Outside every body the brace is
text. -/
def closeBody (r : Reader) : Reader :=
  match r.frames with
  | [] => r.char '}'
  | frame :: rest =>
    { r with
      mode := .body
      nodes := .field frame.label r.nodes.reverse :: frame.before
      frames := rest }

/-- The reader after one character in a body. -/
def inBody (r : Reader) (c : Char) : Reader :=
  if c = '}' then r.closeBody
  else if c = '\\' then { r with mode := .escape }
  else if c = '$' then { r with mode := .dollar r.offset }
  else r.char c

/-- What a reader holds once it is known that its construct does not go on: a lone backslash or
`$` is text, and a bare label is a field. -/
def settle (r : Reader) : Reader :=
  match r.mode with
  | .escape => r.char '\\'
  | .dollar _ => r.char '$'
  | .bare _ label => r.node (.field label [])
  | _ => r

/-- Whether a backslash in a body escapes this character. -/
def escapable (c : Char) : Bool :=
  c == '$' || c == '}' || c == '\\'

/-- Whether a backslash in an option escapes this character. -/
def optionEscapable (c : Char) : Bool :=
  c == ',' || c == '|' || c == '\\' || c == '$' || c == '}'

/-- The reader in a label that has grown, unless its index is out of range. -/
def inLabel (r : Reader) (place : Nat) (label : Label) (mode : Mode) : Except Error Reader :=
  if label.inRange then .ok { r with mode := mode } else .error ⟨.invalidPlaceholder, place⟩

/-- The reader after a character that ends a label inside braces. -/
def afterBraced (limit : Option Nat) (r : Reader) (place : Nat) (label : Label) (c : Char) :
    Except Error Reader :=
  if c = '}' then .ok (r.node (.field label []))
  else if c = ':' then r.openBody limit place label
  else
    match label with
    | .index value =>
      if c = '|' then .ok { r with mode := .option place value [] "" }
      else .error ⟨.invalidPlaceholder, r.offset⟩
    | .name _ => .error ⟨.invalidPlaceholder, r.offset⟩

/-- The reader after one character of an option. -/
def inOption (r : Reader) (place index : Nat) (options : List String) (current : String)
    (c : Char) : Reader :=
  if c = '\\' then { r with mode := .optionEscape place index options current }
  else if c = ',' then { r with mode := .option place index (current :: options) "" }
  else if c = '|' then { r with mode := .optionEnd place index (current :: options) }
  else { r with mode := .option place index options (current.push c) }

/-- The reader after the character at its offset, the offset itself left as it is. -/
def take (limit : Option Nat) (r : Reader) (c : Char) : Except Error Reader :=
  match r.mode with
  | .body => .ok (r.inBody c)
  | .escape => if escapable c then .ok (r.char c) else .ok (r.settle.inBody c)
  | .dollar place =>
    if c = '{' then .ok { r with mode := .brace place }
    else
      match Label.start? c with
      | some label => .ok { r with mode := .bare place label }
      | none => .ok (r.settle.inBody c)
  | .bare place label =>
    if label.continues c then r.inLabel place (label.extend c) (.bare place (label.extend c))
    else .ok (r.settle.inBody c)
  | .brace place =>
    match Label.start? c with
    | some label => .ok { r with mode := .braced place label }
    | none => .error ⟨.invalidPlaceholder, r.offset⟩
  | .braced place label =>
    if label.continues c then r.inLabel place (label.extend c) (.braced place (label.extend c))
    else r.afterBraced limit place label c
  | .option place index options current => .ok (r.inOption place index options current c)
  | .optionEscape place index options current =>
    if optionEscapable c then .ok { r with mode := .option place index options (current.push c) }
    else .ok (r.inOption place index options (current.push '\\') c)
  | .optionEnd _ index options =>
    if c = '}' then .ok (r.node (.choice index options.reverse))
    else .error ⟨.invalidPlaceholder, r.offset⟩

/-- The reader after one more character. -/
def step (limit : Option Nat) (r : Reader) (c : Char) : Except Error Reader :=
  let offset := r.offset + c.utf8Size
  (r.take limit c).map fun next => { next with offset }

/-- The reader after more characters. -/
def run (limit : Option Nat) (r : Reader) (cs : List Char) : Except Error Reader :=
  cs.foldlM (step limit) r

/-- The template that has been read when the source ends here. -/
def finish (r : Reader) : Except Error Template :=
  match r.mode with
  | .brace place | .braced place _ => .error ⟨.unterminatedPlaceholder, place⟩
  | .option place .. | .optionEscape place .. | .optionEnd place .. =>
    .error ⟨.unterminatedChoice, place⟩
  | _ =>
    match r.frames with
    | [] => .ok r.settle.nodes.reverse
    | frame :: _ => .error ⟨.unterminatedPlaceholder, frame.place⟩

end Reader

/-- The template written in these characters, with bodies nested at most as deep as the limit
says. -/
def read (limit : Option Nat) (source : List Char) : Except Error Template :=
  Reader.start.run limit source >>= Reader.finish

/-- The template written in a source. -/
def parse (source : String) : Except Error Template :=
  read (some maxNesting) source.toList

end TucServer.Template
