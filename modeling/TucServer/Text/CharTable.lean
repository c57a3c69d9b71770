import TucServer.Text.Digit

/-!
# Tables of characters

A table lists ranges of characters in ascending order, with what is to be said of each. It is
written as words with blanks between them. A word begins with the first and the last character of a
range, in hexadecimal digits with a hyphen between them, or with a single character.
-/

namespace TucServer

/-- A range of characters, and what is said of it. -/
structure Span (α : Type) where
  first : Nat
  last : Nat
  value : α

/-- Ranges of characters in ascending order. -/
abbrev CharTable (α : Type) := List (Span α)

namespace CharTable

/-- The hexadecimal digits at the head of a text, and what follows them. -/
def splitDigits (text : List Char) : List Char × List Char :=
  let isDigit (c : Char) := (Digit.hexValue? c).isSome
  (text.takeWhile isDigit, text.dropWhile isDigit)

/-- The range that a word begins with. Its value is the rest of the word. -/
def span (word : List Char) : Span (List Char) :=
  let (first, rest) := splitDigits word
  match rest with
  | '-' :: rest =>
    let (last, rest) := splitDigits rest
    ⟨Digit.hexNumber first, Digit.hexNumber last, rest⟩
  | _ => ⟨Digit.hexNumber first, Digit.hexNumber first, rest⟩

/-- The table that the pieces of a text write, where `read` reads what follows a range. -/
def ofText {α : Type} (read : List Char → α) (pieces : List String) : CharTable α :=
  ((String.join pieces).splitOn " ").map fun word =>
    let span := span word.toList
    ⟨span.first, span.last, read span.value⟩

/-- The range of a character. -/
def find? {α : Type} (c : Char) : CharTable α → Option (Span α)
  | [] => none
  | span :: rest =>
    if c.toNat < span.first then none
    else if c.toNat ≤ span.last then some span
    else find? c rest

/-- The texts that follow a range: an equals sign, and then texts with commas between them, each
written as its characters with points between them. -/
def items (text : List Char) : List (List Char) :=
  ((String.ofList text.tail).splitOn ",").map fun item =>
    if item.isEmpty then []
    else (item.splitOn ".").map fun c => Char.ofNat (Digit.hexNumber c.toList)

end CharTable

/-- The text for a character of the range: the one of its place, or the last one. -/
def Span.item (span : Span (List (List Char))) (c : Char) : List Char :=
  (span.value[c.toNat - span.first]? <|> span.value.getLast?).getD []

end TucServer
