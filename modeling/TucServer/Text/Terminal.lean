/-!
# Control sequences of terminals

A text that is shown may hold sequences by which a terminal is told to change colours, to move, or
to set a title, each begun by the escape character. What is left of the text without them, and
without single control characters, can be printed anywhere.

A blank such as a tab may stand inside some sequences and is printed. In a text the sequence is over
then. On a stream it is only interrupted: what follows is printed up to the next control character,
and then the sequence goes on.
-/

namespace TucServer.Terminal

/-- How far a sequence has been read. -/
inductive Sequence where
  /-- No sequence is being read. -/
  | outside
  /-- The escape character was read. -/
  | escape
  /-- Some marks after the escape character were read. The next character that is no mark is the
  last one of the sequence. -/
  | marked
  /-- A sequence with parameters, which ends with a letter or a sign beside the letters. -/
  | control
  /-- A command to the system, which the bell ends. -/
  | command
  /-- A text for the terminal itself, before its parameters. -/
  | deviceStart
  /-- A text for the terminal itself, in its parameters. -/
  | deviceParameters
  /-- A text for the terminal itself, in the marks after its parameters. -/
  | deviceMarks
  /-- A text for the terminal itself, which its terminator or another sequence ends. -/
  | device
  deriving DecidableEq, Repr

namespace Sequence

/-- Whether a blank inside the sequence is printed. -/
def printsBlanks : Sequence → Bool
  | .escape | .marked | .control => true
  | _ => false

/-- After the character behind the escape character. -/
def ofChar (c : Char) : Sequence :=
  if c < '0' then .marked
  else if c = '[' then .control
  else if c = ']' then .command
  else if c = 'P' then .deviceStart
  else if c ∈ ['X', '^', '_'] then .device
  else .outside

/-- After a printable character of ASCII. -/
def afterPrintable : Sequence → Char → Sequence
  | .outside, _ => .outside
  | .escape, c => ofChar c
  | .marked, c => if c < '0' then .marked else .outside
  | .control, c => if c < '@' then .control else .outside
  | .command, _ => .command
  | .deviceStart, c =>
    if c < '0' then .deviceMarks else if c < '@' then .deviceParameters else .device
  | .deviceParameters, c =>
    if c < '0' then .deviceMarks else if c < '<' then .deviceParameters else .device
  | .deviceMarks, c => if c < '0' then .deviceMarks else .device
  | .device, _ => .device

/-- The byte that ends a text for the terminal. -/
def terminator : UInt8 := 0x9C

/-- After one more character, which is not the escape character. A character beyond ASCII is passed
over, but a text for the terminal ends with it if it is encoded with the terminator. -/
def next (sequence : Sequence) (c : Char) : Sequence :=
  if c = '\x07' then if sequence = .command then .outside else sequence
  else if c.toNat < 0x20 ∨ c = '\x7f' then sequence
  else if c.toNat < 0x80 then sequence.afterPrintable c
  else if sequence = .device ∧ terminator ∈ String.utf8EncodeChar c then .outside
  else sequence

end Sequence

/-- What has been read: the sequence so far, and whether it is interrupted by text. -/
structure Reader where
  sequence : Sequence
  isInterrupted : Bool
  deriving DecidableEq, Repr

/-- Where a text is written to. -/
inductive Medium where
  | text
  | stream
  deriving DecidableEq, Repr

/-- Whether the control character is a blank, which is printed. -/
def isBlank (c : Char) : Bool :=
  c == '\t' || c == '\n' || c == '\x0c' || c == '\r'

/-- Whether the character is printed outside sequences. -/
def isPrintable (c : Char) : Bool :=
  isBlank c || (0x20 ≤ c.toNat && c != '\x7f')

namespace Reader

/-- Before the first character. -/
def start : Reader := ⟨.outside, false⟩

/-- After a blank inside a sequence. -/
def interrupt (medium : Medium) (reader : Reader) : Reader :=
  match medium with
  | .text => start
  | .stream => { reader with isInterrupted := true }

/-- After one more character, and what of it is printed. Text beyond ASCII does not interrupt a
sequence but ends it. -/
def step (medium : Medium) (reader : Reader) (c : Char) : Reader × List Char :=
  if c = '\x1b' then (⟨.escape, false⟩, [])
  else if c = '\x18' ∨ c = '\x1a' then (start, [])
  else if reader.sequence = .outside ∨ reader.isInterrupted then
    if isPrintable c then (if c.toNat < 0x80 then reader else start, [c])
    else ({ reader with isInterrupted := false }, [])
  else if isBlank c && reader.sequence.printsBlanks then (reader.interrupt medium, [c])
  else ({ reader with sequence := reader.sequence.next c }, [])

/-- What is printed of a text, after what has been read. -/
def printed (medium : Medium) (reader : Reader) : List Char → List Char
  | [] => []
  | c :: rest =>
    let (next, shown) := reader.step medium c
    shown ++ next.printed medium rest

end Reader

/-- The text without control sequences and control characters other than blanks. -/
def plain (medium : Medium) (text : String) : String :=
  String.ofList (Reader.start.printed medium text.toList)

end TucServer.Terminal
