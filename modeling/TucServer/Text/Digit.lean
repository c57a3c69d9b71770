/-!
# Digits

Decimal and hexadecimal digits of ASCII, and the numbers they write.
-/

namespace TucServer.Digit

/-- The value of a decimal digit. -/
def value (c : Char) : Nat :=
  c.toNat - '0'.toNat

/-- The number that decimal digits write. -/
def number (digits : List Char) : Nat :=
  Nat.ofDigitChars 10 digits 0

/-- The first digit is read first. -/
theorem number_cons (c : Char) (digits : List Char) :
    number (c :: digits) = Nat.ofDigitChars 10 digits (value c) := by
  rw [number, Nat.ofDigitChars_cons, Nat.mul_zero, Nat.zero_add, value]

/-- One more digit moves the others up by one place. -/
theorem number_concat (digits : List Char) (c : Char) :
    number (digits ++ [c]) = 10 * number digits + value c := by
  rw [number, Nat.ofDigitChars_append, Nat.ofDigitChars_cons, Nat.ofDigitChars_nil, number, value]

/-- The value of a hexadecimal digit in either case. -/
def hexValue? (c : Char) : Option Nat :=
  if c.isDigit then some (value c)
  else if 'a' ≤ c ∧ c ≤ 'f' then some (c.toNat - 'a'.toNat + 10)
  else if 'A' ≤ c ∧ c ≤ 'F' then some (c.toNat - 'A'.toNat + 10)
  else none

/-- The number that hexadecimal digits write. -/
def hexNumber (digits : List Char) : Nat :=
  digits.foldl (fun sum c => sum * 16 + (hexValue? c).getD 0) 0

/-- The hexadecimal digit of a value below 16. The digits from ten on begin with `ten`, which is a
letter in the case that is wanted. -/
def hex (ten : Char) (value : Nat) : Char :=
  if value < 10 then Char.ofNat ('0'.toNat + value) else Char.ofNat (ten.toNat + (value - 10))

/-- The two hexadecimal digits of a value below 256. -/
def hexPair (ten : Char) (value : Nat) : List Char :=
  [hex ten (value / 16), hex ten (value % 16)]

end TucServer.Digit
