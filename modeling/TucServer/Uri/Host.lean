import TucServer.Uri.Domain.Basic

/-!
# Hosts

The host of a special scheme is an IPv6 address in brackets, an IPv4 address, or a domain, which is
written in its normal form. Any other scheme has a host without structure.
-/

namespace TucServer.Uri

namespace Host

/-- The characters that no host contains. -/
def isForbidden (c : Char) : Bool :=
  c ∈ ['\x00', '\t', '\n', '\r', ' ', '#', '/', ':', '<', '>', '?', '@', '[', '\\', ']', '^', '|']

/-- The number that the digits denote in a base. -/
def digits? (base : Nat) (cs : List Char) : Option Nat :=
  cs.foldlM (fun value c =>
    match Digit.hexValue? c with
    | some digit => if digit < base then some (value * base + digit) else none
    | none => none) 0

/-- A part of an IPv4 address: hexadecimal after `0x`, octal after `0`, otherwise decimal. -/
def ipv4Part? : List Char → Option Nat
  | [] => none
  | '0' :: 'x' :: cs | '0' :: 'X' :: cs => digits? 16 cs
  | '0' :: c :: cs => digits? 8 (c :: cs)
  | cs => digits? 10 cs

/-- The parts of a domain, without an empty last one. -/
def labels (domain : List Char) : List (List Char) :=
  let parts := splitAt (· == '.') domain
  if parts.length > 1 && parts.getLast? == some [] then parts.dropLast else parts

/-- Whether the last part of a domain is a number, so that the domain has to be an address. -/
def endsInNumber (domain : List Char) : Bool :=
  match (labels domain).getLast? with
  | none => false
  | some last => (!last.isEmpty && last.all Char.isDigit) || (ipv4Part? last).isSome

/-- The value of the parts of an IPv4 address: the last one fills what the others leave. -/
def ipv4Value? (parts : List Nat) : Option Nat :=
  match parts.reverse with
  | [] => none
  | last :: others =>
    if 3 < others.length || others.any (255 < ·) || Nat.pow 256 (4 - others.length) ≤ last then none
    else
      some (others.reverse.zipIdx.foldl
        (fun value (part, i) => value + part * Nat.pow 256 (3 - i)) last)

/-- An IPv4 address in its usual form. -/
def ipv4Text (value : Nat) : List Char :=
  (String.intercalate "." ([3, 2, 1, 0].map fun i => toString (value / Nat.pow 256 i % 256))).toList

/-- The IPv4 address that a domain writes. -/
def ipv4? (domain : List Char) : Option (List Char) := do
  let parts ← (labels domain).mapM ipv4Part?
  let value ← ipv4Value? parts
  return ipv4Text value

/-- A group of an IPv6 address. -/
def ipv6Group? (cs : List Char) : Option Nat :=
  if cs.isEmpty || 4 < cs.length then none else digits? 16 cs

/-- A decimal part of the IPv4 address inside an IPv6 address. -/
def ipv6Decimal? (cs : List Char) : Option Nat :=
  if cs.isEmpty || !cs.all Char.isDigit || (cs.head? == some '0' && cs.length != 1) then none
  else (digits? 10 cs).filter (· ≤ 255)

/-- The groups written in the pieces between colons. The last piece may be an IPv4 address, which
makes two groups. -/
def ipv6Groups? : List (List Char) → Option (List Nat)
  | [] => some []
  | [piece] =>
    if piece.contains '.' then do
      let [a, b, c, d] ← (splitAt (· == '.') piece).mapM ipv6Decimal? | none
      return [a * 256 + b, c * 256 + d]
    else (ipv6Group? piece).map ([·])
  | piece :: rest => do
    let group ← ipv6Group? piece
    let groups ← ipv6Groups? rest
    return group :: groups

/-- The text before the first double colon and the text after it. -/
def splitDoubleColon : List Char → Option (List Char × List Char)
  | ':' :: ':' :: rest => some ([], rest)
  | c :: rest => (splitDoubleColon rest).map fun (left, right) => (c :: left, right)
  | [] => none

/-- The groups of a side of a double colon, which may be empty. -/
def ipv6Side? (side : List Char) : Option (List Nat) :=
  if side.isEmpty then some [] else ipv6Groups? (splitAt (· == ':') side)

/-- The eight groups of an IPv6 address. A double colon stands for one or more groups of zero. -/
def ipv6? (address : List Char) : Option (List Nat) :=
  match splitDoubleColon address with
  | none => (ipv6Groups? (splitAt (· == ':') address)).filter (·.length == 8)
  | some (left, right) => do
    if left.contains '.' then none
    let left ← ipv6Side? left
    let right ← ipv6Side? right
    if 7 < left.length + right.length then none
    return left ++ List.replicate (8 - left.length - right.length) 0 ++ right

/-- The length of the run of zeros at the head. -/
def zeros (groups : List Nat) : Nat :=
  (groups.takeWhile (· == 0)).length

/-- The first of the longest runs of zeros, by its place and length. -/
def longestZeros (groups : List Nat) : Nat × Nat :=
  (List.range groups.length).foldl (fun (place, length) i =>
    let run := zeros (groups.drop i)
    if length < run then (i, run) else (place, length)) (0, 0)

/-- A group as it is written. -/
def ipv6GroupText (group : Nat) : String :=
  String.ofList (Nat.toDigits 16 group)

/-- An IPv6 address in its shortest form. -/
def ipv6Text (groups : List Nat) : List Char :=
  let (place, length) := longestZeros groups
  let write (groups : List Nat) := String.intercalate ":" (groups.map ipv6GroupText)
  if length < 2 then (write groups).toList
  else (write (groups.take place) ++ "::" ++ write (groups.drop (place + length))).toList

/-- An address in brackets, without them. -/
def bracketed? (host : List Char) : Option (List Char) :=
  match host, host.getLast? with
  | '[' :: rest, some ']' => some rest.dropLast
  | _, _ => none

/-- The host of a special scheme in its normal form. -/
def special? (host : List Char) : Option (List Char) :=
  if host.head? == some '[' then do
    let groups ← bracketed? host >>= ipv6?
    return '[' :: ipv6Text groups ++ [']']
  else do
    let domain ← decode? host >>= Domain.normalForm?
    if domain.isEmpty then none
    else if endsInNumber domain then ipv4? domain
    else some domain

/-- The host of any other scheme in its normal form. -/
def plain? (host : List Char) : Option (List Char) :=
  if host.head? == some '[' then do
    let groups ← bracketed? host >>= ipv6?
    return '[' :: ipv6Text groups ++ [']']
  else if host.any isForbidden then none
  else some (encode controlSet host)

end Host

end TucServer.Uri
