import TucServer.Text.Canonical.Basic
import TucServer.Uri.Domain.Direction
import TucServer.Uri.Domain.Joiner
import TucServer.Uri.Domain.MappingTable
import TucServer.Uri.Domain.Mark
import TucServer.Uri.Domain.Punycode
import TucServer.Uri.Percent

/-!
# Domains

A domain is a row of labels with points between them. Characters that are read alike stand for one
another, upper case for lower case among them, and a label beyond ASCII is written in ASCII with a
mark at its head. All spellings of a domain have one normal form in ASCII.
-/

namespace TucServer.Uri.Domain

/-- What stands for a character that does not decompose: none if no domain contains it. -/
def replaceSimple? (c : Char) : Option (List Char) :=
  match replacements.find? c with
  | some ⟨first, _, .shift target⟩ => some [Char.ofNat (target + (c.toNat - first))]
  | some ⟨first, _, .alternate target⟩ =>
    if (c.toNat - first) % 2 = 0 then some [Char.ofNat (target + (c.toNat - first))] else some [c]
  | some ⟨first, last, .texts texts⟩ => some ((⟨first, last, texts⟩ : Span _).item c)
  | none => if (disallowed.find? c).isSome then none else some [c]

/-- What stands for a character: none if no domain contains it. -/
def replace? (c : Char) : Option (List Char) :=
  ((Canonical.decompose c).mapM replaceSimple?).map List.flatten

/-- The text with each character replaced by what stands for it, in its composed form. -/
def normalize? (text : List Char) : Option (List Char) :=
  (text.mapM replace?).map (Canonical.compose ·.flatten)

/-- The characters of ASCII that no domain contains: the controls, the blank, and the ones that have
a meaning in a URI. -/
def isDenied (c : Char) : Bool :=
  c.toNat ≤ 0x20 || c.toNat == 0x7F ||
    c ∈ ['%', '#', '/', ':', '<', '>', '?', '@', '[', '\\', ']', '^', '|']

/-- What a label that is written in ASCII begins with. -/
def asciiMark : List Char := ['x', 'n', '-', '-']

/-- Whether all characters are ASCII. -/
def isAscii (text : List Char) : Bool :=
  text.all (·.toNat < 0x80)

/-- The label that is written by this one: itself, or, if it bears the mark of a label written in
ASCII, what that stands for, which has to need such a mark and to be in its normal form. -/
def readLabel? (label : List Char) : Option (List Char) :=
  if asciiMark.isPrefixOf label then do
    let read ← Punycode.decode? (label.drop asciiMark.length)
    if isAscii read || normalize? read != some read || asciiMark.isPrefixOf read then none
    else some read
  else some label

/-- The label as it is written in ASCII. -/
def writeLabel (label : List Char) : List Char :=
  if isAscii label then label else asciiMark ++ Punycode.encode label

/-- Whether a label begins with no mark and has joiners only where they may be. -/
def isWellFormed (label : List Char) : Bool :=
  !(label.head?.any isMark) && joinersFit [] label

/-- Whether each label of a domain is written in one direction, which matters only where one is
written from right to left. -/
def isOneWay (labels : List (List Char)) : Bool :=
  !(labels.any (·.any fun c => (Direction.ofChar c).isRightward)) || labels.all Direction.isOneWay

/-- The normal form of a domain in ASCII. -/
def normalForm? (domain : List Char) : Option (List Char) := do
  let text ← normalize? domain
  if text.any isDenied then none
  let labels ← (splitAt (· == '.') text).mapM readLabel?
  if labels.all isWellFormed && isOneWay labels then
    some (List.intercalate ['.'] (labels.map writeLabel))
  else none

end TucServer.Uri.Domain
