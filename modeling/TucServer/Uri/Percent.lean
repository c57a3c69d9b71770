import TucServer.Text.Digit

/-!
# Percent-encoding

A character outside the ones that may stand in a part of a URI is written as the bytes of its
encoding in UTF-8, each as a percent sign and two upper-case hexadecimal digits. Each part of a URI
has its own set of characters to encode. The percent sign is in none of them, so that what is
encoded already is left as it is.
-/

namespace TucServer.Uri

/-- A byte as it is written when it is encoded. -/
def encodeByte (byte : UInt8) : List Char :=
  '%' :: Digit.hexPair 'A' byte.toNat

/-- The text with every character of the set encoded. -/
def encode (set : Char → Bool) (text : List Char) : List Char :=
  text.flatMap fun c => if set c then (String.utf8EncodeChar c).flatMap encodeByte else [c]

/-- The bytes of a text, where every byte that is encoded stands for itself. -/
def decodedBytes : List Char → List UInt8
  | [] => []
  | '%' :: a :: b :: rest =>
    match Digit.hexValue? a, Digit.hexValue? b with
    | some high, some low => UInt8.ofNat (high * 16 + low) :: decodedBytes rest
    | _, _ => '%'.toUInt8 :: decodedBytes (a :: b :: rest)
  | c :: rest => String.utf8EncodeChar c ++ decodedBytes rest

/-- The text without percent-encoding, none if its bytes are not UTF-8. -/
def decode? (text : List Char) : Option (List Char) :=
  (String.fromUTF8? ⟨(decodedBytes text).toArray⟩).map String.toList

/-- The control characters and everything beyond ASCII. -/
def controlSet (c : Char) : Bool :=
  c.toNat < 0x20 || 0x7E < c.toNat

/-- The characters encoded in a fragment. -/
def fragmentSet (c : Char) : Bool :=
  controlSet c || c ∈ [' ', '"', '<', '>', '`']

/-- The characters encoded in a query. -/
def querySet (c : Char) : Bool :=
  controlSet c || c ∈ [' ', '"', '#', '<', '>']

/-- The characters encoded in the query of a special scheme. -/
def specialQuerySet (c : Char) : Bool :=
  querySet c || c == '\''

/-- The characters encoded in a path. -/
def pathSet (c : Char) : Bool :=
  fragmentSet c || c ∈ ['#', '?', '{', '}']

/-- The characters encoded in the name and password of a user. -/
def userSet (c : Char) : Bool :=
  pathSet c || c ∈ ['/', ':', ';', '=', '@', '[', '\\', ']', '^', '|']

/-- The pieces of a text between the characters at which it is split. -/
def splitAt (isSeparator : Char → Bool) : List Char → List (List Char)
  | [] => [[]]
  | c :: rest =>
    if isSeparator c then [] :: splitAt isSeparator rest
    else
      match splitAt isSeparator rest with
      | [] => [[c]]
      | piece :: pieces => (c :: piece) :: pieces

end TucServer.Uri
