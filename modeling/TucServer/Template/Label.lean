import TucServer.Template.Node
import TucServer.Text.Digit

/-!
# Reading labels

A label begins with a digit, and is then the index of a tab stop, or with a letter or an underscore,
and is then the name of a variable. It extends as far as the characters allow, and an index must
stay below `indexBound`.
-/

namespace TucServer.Template

/-- Indices are below this bound: they have 32 bits. -/
def indexBound : Nat := 4294967296

/-- Whether a variable name may begin with this character. -/
def isNameStart (c : Char) : Bool :=
  c.isAlpha || c == '_'

/-- Whether a variable name may go on with this character. -/
def isNameChar (c : Char) : Bool :=
  c.isAlphanum || c == '_'

namespace Label

/-- The label that begins with this character. -/
def start? (c : Char) : Option Label :=
  if c.isDigit then some (.index (Digit.value c))
  else if isNameStart c then some (.name (String.singleton c))
  else none

/-- Whether the label goes on with this character. -/
def continues : Label → Char → Bool
  | .index _, c => c.isDigit
  | .name _, c => isNameChar c

/-- The label with one more character. -/
def extend : Label → Char → Label
  | .index value, c => .index (10 * value + Digit.value c)
  | .name value, c => .name (value.push c)

/-- Whether the label is a name or an index below the bound. -/
def inRange : Label → Bool
  | .index value => value < indexBound
  | .name _ => true

end Label

end TucServer.Template
