import TucServer.Json.Basic
import TucServer.Text.Digit

/-!
# Tokens of JSON text

JSON text is cut into marks and scalars by a fold over its characters. A word is a run of the
characters that occur in numbers, `true`, `false` and `null`; what it denotes is settled where it
ends.
-/

namespace TucServer.Json

/-- A piece of JSON text: a mark, or a string, number, truth value or null. -/
inductive Token where
  | openArray
  | closeArray
  | openObject
  | closeObject
  | comma
  | colon
  | scalar (value : Json)
  deriving Repr

namespace Token

/-- Whether the characters are one or more digits. -/
def isDigits (cs : List Char) : Bool :=
  !cs.isEmpty && cs.all Char.isDigit

/-- Whether the characters are an exponent without its mark: digits, perhaps after a sign. -/
def isExponent : List Char → Bool
  | '+' :: cs => isDigits cs
  | '-' :: cs => isDigits cs
  | cs => isDigits cs

/-- Whether the characters may follow the whole part of a number: a fraction, an exponent, or
both. -/
def isTail : List Char → Bool
  | '.' :: cs =>
    let digits := cs.takeWhile Char.isDigit
    let rest := cs.dropWhile Char.isDigit
    !digits.isEmpty &&
      match rest with
      | [] => true
      | mark :: exponent => (mark == 'e' || mark == 'E') && isExponent exponent
  | mark :: exponent => (mark == 'e' || mark == 'E') && isExponent exponent
  | [] => true

/-- The number written in the characters. Minus zero counts as a decimal. -/
def number? (cs : List Char) : Option Json :=
  let negative := cs.head? == some '-'
  let unsigned := if negative then cs.tail else cs
  let whole := unsigned.takeWhile Char.isDigit
  let tail := unsigned.dropWhile Char.isDigit
  if whole.isEmpty || (whole.head? == some '0' && whole.length != 1) || !isTail tail then none
  else if !tail.isEmpty || (negative && whole == ['0']) then some (.decimal (String.ofList cs))
  else if negative then some (.integer (-(Digit.number whole : Int)))
  else some (.integer (Digit.number whole))

/-- The value that a word denotes. -/
def word? (cs : List Char) : Option Json :=
  if cs = "null".toList then some .null
  else if cs = "true".toList then some (.bool true)
  else if cs = "false".toList then some (.bool false)
  else number? cs

/-- Whether the character occurs in words. -/
def isWordChar (c : Char) : Bool :=
  c.isAlphanum || c == '+' || c == '-' || c == '.'

/-- The character that a backslash and this one stand for. -/
def escaped? : Char → Option Char
  | '"' => some '"'
  | '\\' => some '\\'
  | '/' => some '/'
  | 'b' => some '\x08'
  | 'f' => some '\x0c'
  | 'n' => some '\n'
  | 'r' => some '\r'
  | 't' => some '\t'
  | _ => none

/-- What is being read when the next character comes. Strings keep the text read so far. -/
inductive Mode where
  | between
  /-- A word, latest character first. -/
  | word (chars : List Char)
  | string (text : String)
  /-- A backslash was read. -/
  | escape (text : String)
  /-- Some digits of an escaped code unit were read, after the leading half of a pair if there
  is one. -/
  | unit (text : String) (lead : Option Nat) (digits : Nat) (value : Nat)
  /-- The leading half of a pair was read; its second half must follow, here its backslash. -/
  | pair (text : String) (lead : Nat)
  /-- The backslash of the second half was read. -/
  | pairEscape (text : String) (lead : Nat)

/-- What has been read: the tokens, latest first, and what is being read now. -/
structure Scanner where
  mode : Mode
  tokens : List Token

namespace Scanner

/-- The scanner with one more token. -/
def push (s : Scanner) (token : Token) : Scanner :=
  ⟨.between, token :: s.tokens⟩

/-- The scanner after a character between tokens. -/
def between (tokens : List Token) (c : Char) : Option Scanner :=
  if c = ' ' ∨ c = '\n' ∨ c = '\t' ∨ c = '\r' then some ⟨.between, tokens⟩
  else if c = '[' then some ⟨.between, .openArray :: tokens⟩
  else if c = ']' then some ⟨.between, .closeArray :: tokens⟩
  else if c = '{' then some ⟨.between, .openObject :: tokens⟩
  else if c = '}' then some ⟨.between, .closeObject :: tokens⟩
  else if c = ',' then some ⟨.between, .comma :: tokens⟩
  else if c = ':' then some ⟨.between, .colon :: tokens⟩
  else if c = '"' then some ⟨.string "", tokens⟩
  else if isWordChar c then some ⟨.word [c], tokens⟩
  else none

/-- What an escaped code unit stands for: half of a pair, or a character. -/
def unitMode (text : String) (lead : Option Nat) (value : Nat) : Option Mode :=
  match lead with
  | some lead =>
    if 0xDC00 ≤ value ∧ value < 0xE000 then
      some (.string (text.push (Char.ofNat (0x10000 + (lead - 0xD800) * 0x400 + (value - 0xDC00)))))
    else none
  | none =>
    if 0xD800 ≤ value ∧ value < 0xDC00 then some (.pair text value)
    else if 0xDC00 ≤ value ∧ value < 0xE000 then none
    else some (.string (text.push (Char.ofNat value)))

/-- The scanner after one more character. -/
def step : Scanner → Char → Option Scanner
  | ⟨.between, tokens⟩, c => between tokens c
  | ⟨.word chars, tokens⟩, c =>
    if isWordChar c then some ⟨.word (c :: chars), tokens⟩
    else
      match word? chars.reverse with
      | some value => between (.scalar value :: tokens) c
      | none => none
  | ⟨.string text, tokens⟩, c =>
    if c = '"' then some ⟨.between, .scalar (.string text) :: tokens⟩
    else if c = '\\' then some ⟨.escape text, tokens⟩
    else if c.toNat < 0x20 then none
    else some ⟨.string (text.push c), tokens⟩
  | ⟨.escape text, tokens⟩, c =>
    if c = 'u' then some ⟨.unit text none 0 0, tokens⟩
    else
      match escaped? c with
      | some e => some ⟨.string (text.push e), tokens⟩
      | none => none
  | ⟨.unit text lead digits value, tokens⟩, c =>
    match Digit.hexValue? c with
    | none => none
    | some h =>
      if digits < 3 then some ⟨.unit text lead (digits + 1) (value * 16 + h), tokens⟩
      else
        match unitMode text lead (value * 16 + h) with
        | some mode => some ⟨mode, tokens⟩
        | none => none
  | ⟨.pair text lead, tokens⟩, c => if c = '\\' then some ⟨.pairEscape text lead, tokens⟩ else none
  | ⟨.pairEscape text lead, tokens⟩, c =>
    if c = 'u' then some ⟨.unit text (some lead) 0 0, tokens⟩ else none

/-- The tokens read when the text ends here. -/
def finish (s : Scanner) : Option (List Token) :=
  match s.mode with
  | .between => some s.tokens.reverse
  | .word chars => (word? chars.reverse).map fun value => (Token.scalar value :: s.tokens).reverse
  | _ => none

end Scanner

/-- The tokens of a text. -/
def scan (text : String) : Option (List Token) :=
  text.toList.foldlM Scanner.step ⟨.between, []⟩ >>= Scanner.finish

end Token

end TucServer.Json
