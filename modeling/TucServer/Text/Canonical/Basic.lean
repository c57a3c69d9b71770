import TucServer.Text.Canonical.Table

/-!
# Canonical equivalence

Many characters with marks can be written in two ways: as one character, or as a letter followed by
marks. The composed form of a text takes every character apart, puts the marks in order, and then
puts together what it can. Texts that say the same have the same composed form.
-/

namespace TucServer.Canonical

/-- The combining class of a character, 0 if it is no mark that can be moved. -/
def combiningClass (c : Char) : Nat :=
  ((classes.find? c).map (·.value)).getD 0

/-- The number of the first syllable of Hangul. -/
def syllables : Nat := 0xAC00

/-- The number of the first leading consonant of Hangul. -/
def leads : Nat := 0x1100

/-- The number of the first vowel of Hangul. -/
def vowels : Nat := 0x1161

/-- The number of the character before the first trailing consonant of Hangul. -/
def trails : Nat := 0x11A7

/-- The parts of a syllable of Hangul. -/
def syllableParts? (c : Char) : Option (List Char) :=
  if c.toNat < syllables ∨ syllables + 11172 ≤ c.toNat then none
  else
    let place := c.toNat - syllables
    let lead := Char.ofNat (leads + place / 588)
    let vowel := Char.ofNat (vowels + place % 588 / 28)
    if place % 28 = 0 then some [lead, vowel]
    else some [lead, vowel, Char.ofNat (trails + place % 28)]

/-- What a character decomposes into by one step. -/
def parts? (c : Char) : Option (List Char) :=
  match syllableParts? c with
  | some parts => some parts
  | none => (decompositions.find? c).map (·.item c)

/-- What a character decomposes into by so many steps. -/
def decomposeIn : Nat → Char → List Char
  | 0, c => [c]
  | steps + 1, c =>
    match parts? c with
    | none => [c]
    | some parts => parts.flatMap (decomposeIn steps)

/-- What a character decomposes into. No character needs more than three steps. -/
def decompose (c : Char) : List Char :=
  decomposeIn 3 c

/-- The text with a character put before it, behind the marks that have to come before. -/
def insert (c : Char) : List Char → List Char
  | [] => [c]
  | d :: rest =>
    if 0 < combiningClass d ∧ combiningClass d < combiningClass c then d :: insert c rest
    else c :: d :: rest

/-- The text with its marks in order of their classes. Marks of one class keep their order. -/
def order (text : List Char) : List Char :=
  text.foldr insert []

/-- The pairs of characters that are put together, and what each is put together to. -/
def pairs : List (List Char × Char) :=
  decompositions.flatMap fun span =>
    (List.range (span.last + 1 - span.first)).filterMap fun i =>
      let c := Char.ofNat (span.first + i)
      let parts := span.item c
      if parts.length = 2 ∧ (exclusions.find? c).isNone then some (parts, c) else none

/-- The syllable of Hangul that two characters make. -/
def syllable? (a b : Char) : Option Char :=
  if leads ≤ a.toNat ∧ a.toNat < leads + 19 ∧ vowels ≤ b.toNat ∧ b.toNat < vowels + 21 then
    some (Char.ofNat (syllables + (a.toNat - leads) * 588 + (b.toNat - vowels) * 28))
  else if syllables ≤ a.toNat ∧ a.toNat < syllables + 11172 ∧ (a.toNat - syllables) % 28 = 0 ∧
      trails < b.toNat ∧ b.toNat < trails + 28 then
    some (Char.ofNat (a.toNat + (b.toNat - trails)))
  else none

/-- The character that two characters make. -/
def join? (a b : Char) : Option Char :=
  match syllable? a b with
  | some c => some c
  | none => (pairs.find? (·.1 == [a, b])).map (·.2)

/-- What has been put together: the text before the character that marks are added to, that
character, and the marks after it. Both texts are kept latest character first. -/
structure Composer where
  before : List Char
  base : Option Char
  marks : List Char

namespace Composer

/-- The whole text. -/
def text (composer : Composer) : List Char :=
  (composer.marks ++ composer.base.toList ++ composer.before).reverse

/-- After one more character. It is put together with the base unless a mark between them is of the
same class or a higher one. -/
def step (composer : Composer) (c : Char) : Composer :=
  let level := combiningClass c
  match composer.base with
  | none =>
    if level = 0 then { composer with base := some c }
    else { composer with before := c :: composer.before }
  | some base =>
    let isBlocked :=
      match composer.marks with
      | [] => false
      | mark :: _ => level ≤ combiningClass mark
    match if isBlocked then none else join? base c with
    | some joined => { composer with base := some joined }
    | none =>
      if level = 0 then ⟨composer.marks ++ base :: composer.before, some c, []⟩
      else { composer with marks := c :: composer.marks }

end Composer

/-- The composed form of a text. -/
def compose (text : List Char) : List Char :=
  ((order (text.flatMap decompose)).foldl Composer.step ⟨[], none, []⟩).text

end TucServer.Canonical
