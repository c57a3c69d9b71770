import TucServer.Text.Digit

/-!
# Punycode

A label of a domain is written in ASCII by its ASCII characters and, after a hyphen, numbers for the
others. In ascending order each number counts the steps to the next character: the characters that
are passed over, and for each of them the places where it could stand. The digits of the numbers go
up to 35, and a threshold that is adapted after each number says which digit is the last one.
-/

namespace TucServer.Uri.Punycode

/-- The digit of a value below 36: a letter, or from 26 on a decimal digit. -/
def digit (value : Nat) : Char :=
  if value < 26 then Char.ofNat ('a'.toNat + value) else Char.ofNat ('0'.toNat + (value - 26))

/-- The value of a digit. -/
def digitValue? (c : Char) : Option Nat :=
  if 'a' ≤ c ∧ c ≤ 'z' then some (c.toNat - 'a'.toNat)
  else if 'A' ≤ c ∧ c ≤ 'Z' then some (c.toNat - 'A'.toNat)
  else if c.isDigit then some (Digit.value c + 26)
  else none

/-- The threshold of a digit, which is the last one of its number if its value is below. -/
def threshold (bias place : Nat) : Nat :=
  if place ≤ bias then 1 else if bias + 26 ≤ place then 26 else place - bias

/-- A threshold is never zero, so that decoding a delta goes on with smaller values. -/
theorem one_le_threshold (bias place : Nat) : 1 ≤ threshold bias place := by
  unfold threshold
  split
  · omega
  · split <;> omega

/-- The bias that fits numbers of this size, above a bias that is reached already. -/
def biasAbove (bias size : Nat) : Nat :=
  if size ≤ 455 then bias + 36 * size / (size + 38) else biasAbove (bias + 36) (size / 35)
termination_by size

/-- The bias after a number, where so many characters are written now. -/
def adapt (number count : Nat) (isFirst : Bool) : Nat :=
  let size := if isFirst then number / 700 else number / 2
  biasAbove 0 (size + size / count)

/-- The digits of a number, from the one of this place on. -/
def digits (bias place number : Nat) : List Char :=
  let t := threshold bias place
  if number < t then [digit number]
  else digit (t + (number - t) % (36 - t)) :: digits bias (place + 36) ((number - t) / (36 - t))
termination_by number
decreasing_by
  have := one_le_threshold bias place
  exact Nat.lt_of_le_of_lt (Nat.div_le_self _ _) (by omega)

/-- What has been written: the digits, how many characters of the label are written, the bias, and
the steps since the last number. -/
structure Encoder where
  digits : List Char
  count : Nat
  bias : Nat
  steps : Nat

namespace Encoder

/-- Walks over a character of the label where this one is being written. -/
def visit (ascii : Nat) (current : Nat) (encoder : Encoder) (c : Char) : Encoder :=
  if c.toNat < current then { encoder with steps := encoder.steps + 1 }
  else if c.toNat = current then
    { digits := encoder.digits ++ Punycode.digits encoder.bias 36 encoder.steps
      count := encoder.count + 1
      bias := adapt encoder.steps (encoder.count + 1) (encoder.count == ascii)
      steps := 0 }
  else encoder

/-- Writes these characters of the label, which are in ascending order, the next step being one past
the character before them. -/
def write (label : List Char) (ascii : Nat) : Encoder → Nat → List Nat → Encoder
  | encoder, _, [] => encoder
  | encoder, next, current :: rest =>
    let start :=
      { encoder with steps := encoder.steps + (current - next) * (encoder.count + 1) }
    let done := label.foldl (visit ascii current) start
    write label ascii { done with steps := done.steps + 1 } (current + 1) rest

end Encoder

/-- A list in ascending order with one more number, unless it is there already. -/
def insertNew (n : Nat) : List Nat → List Nat
  | [] => [n]
  | m :: rest =>
    if n < m then n :: m :: rest
    else if n = m then m :: rest
    else m :: insertNew n rest

/-- A label as it is written in ASCII. -/
def encode (label : List Char) : List Char :=
  let isAscii (c : Char) := c.toNat < 0x80
  let ascii := label.filter isAscii
  let others := ((label.filter (!isAscii ·)).map Char.toNat).foldr insertNew []
  let encoder := Encoder.write label ascii.length ⟨[], ascii.length, 72, 0⟩ 0x80 others
  ascii ++ (if ascii.isEmpty then [] else ['-']) ++ encoder.digits

/-- What has been read: the label so far, the character and the place that the steps have reached,
the bias, and of the number that is being read the steps so far, the place of its next digit and
what that digit counts for. -/
structure Decoder where
  label : List Char
  current : Nat
  place : Nat
  bias : Nat
  steps : Nat
  digit : Nat
  weight : Nat

namespace Decoder

/-- Before the first number, after the ASCII characters. -/
def start (ascii : List Char) : Decoder :=
  ⟨ascii, 0x80, 0, 72, 0, 36, 1⟩

/-- After a whole number of steps: one more character in the label. -/
def insert (decoder : Decoder) (steps : Nat) (isFirst : Bool) : Option Decoder :=
  let count := decoder.label.length + 1
  let reached := decoder.place + steps
  let current := decoder.current + reached / count
  let place := reached % count
  if current.isValidChar then
    some
      { label := decoder.label.take place ++ Char.ofNat current :: decoder.label.drop place
        current
        place := place + 1
        bias := adapt steps count isFirst
        steps := 0
        digit := 36
        weight := 1 }
  else none

/-- After one more digit. -/
def step (ascii : Nat) (decoder : Decoder) (c : Char) : Option Decoder := do
  let value ← digitValue? c
  let steps := decoder.steps + value * decoder.weight
  let t := threshold decoder.bias decoder.digit
  if value < t then decoder.insert steps (decoder.label.length == ascii)
  else
    some { decoder with
      steps
      digit := decoder.digit + 36
      weight := decoder.weight * (36 - t) }

end Decoder

/-- The label that is written in ASCII by this text, none if no label is. -/
def decode? (text : List Char) : Option (List Char) := do
  let numbers := (text.reverse.takeWhile (· != '-')).reverse
  let ascii := text.take (text.length - numbers.length - 1)
  let numbers := if ascii.isEmpty then text else numbers
  let decoder ← numbers.foldlM (Decoder.step ascii.length) (Decoder.start ascii)
  if decoder.digit = 36 then some decoder.label else none

end TucServer.Uri.Punycode
