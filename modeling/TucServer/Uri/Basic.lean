import TucServer.Uri.Host
import TucServer.Uri.Path

/-!
# URIs

A URI is kept as its normal form: the scheme and the domain in lower case, dots in the path worked
out, and the characters that may not stand in a part percent-encoded. Two spellings of one URI have
the same normal form, so that documents can be told apart by it.
-/

namespace TucServer

namespace Uri

/-- What stands after the colon of the scheme. -/
structure Parts where
  authority : Option (List Char)
  path : List Char
  query : Option (List Char)
  fragment : Option (List Char)

/-- The special schemes, which need a host, with the service numbers that are left out. -/
def specialSchemes : List (String × Option Nat) :=
  [("ftp", some 21), ("file", none), ("http", some 80), ("https", some 443), ("ws", some 80),
    ("wss", some 443)]

/-- The text without the blanks around it. -/
def trim (text : List Char) : List Char :=
  let isBlank (c : Char) := c.toNat ≤ 0x20
  ((text.dropWhile isBlank).reverse.dropWhile isBlank).reverse

/-- The scheme in lower case, and the text after its colon. -/
def scheme? (text : List Char) : Option (List Char × List Char) :=
  let isPart (c : Char) := c.isAlphanum || c == '+' || c == '-' || c == '.' || isBreak c
  match withoutBreaks (text.takeWhile isPart), text.dropWhile isPart with
  | first :: name, ':' :: rest =>
    if first.isAlpha then some ((first :: name).map Char.toLower, rest) else none
  | _, _ => none

/-- The text before the first of this character, and the text after it if there is one. -/
def cut (c : Char) (text : List Char) : List Char × Option (List Char) :=
  match text.dropWhile (· != c) with
  | [] => (text, none)
  | _ :: rest => (text.takeWhile (· != c), some rest)

/-- The text before the last of this character, if there is one, and the text after it. -/
def cutLast (c : Char) (text : List Char) : Option (List Char) × List Char :=
  let (last, before) := cut c text.reverse
  (before.map List.reverse, last.reverse)

/-- The name and password of a user with the sign that follows them. Empty ones are left out. -/
def userText (user : Option (List Char)) : List Char :=
  match user with
  | none => []
  | some user =>
    let (name, password) := cut ':' user
    let password := password.getD []
    if name.isEmpty && password.isEmpty then []
    else
      encode userSet name ++ (if password.isEmpty then [] else ':' :: encode userSet password) ++
        ['@']

/-- The host of an authority, and the text after the first colon outside brackets, if there is
one. -/
def splitHost (inBrackets : Bool) : List Char → List Char × Option (List Char)
  | [] => ([], none)
  | c :: rest =>
    if c == ':' && !inBrackets then ([], some rest)
    else
      let (host, service) := splitHost (if c == '[' then true else c != ']' && inBrackets) rest
      (c :: host, service)

/-- The number of a service with the colon before it, and the text behind it, which can only begin
with a backslash. The usual number of the scheme is left out. -/
def service? (usual : Option Nat) (text : List Char) : Option (List Char × List Char) :=
  let digits := text.takeWhile Char.isDigit
  let rest := text.dropWhile Char.isDigit
  let value := Digit.number digits
  if 65535 < value || (rest.head?.any (· != '\\')) then none
  else if digits.isEmpty || some value = usual then some ([], rest)
  else some (':' :: (toString value).toList, rest)

/-- The normal form of an authority, and what is left of its text for the path. Only a scheme that
is not special may have an authority without a host, and then it is empty. A lone sign for a user is
then taken for nothing if nothing follows it. -/
def authority? (special : Option (Option Nat)) (isLast : Bool) (text : List Char) :
    Option (List Char × List Char) := do
  let (user, rest) := cutLast '@' text
  let (host, service) := splitHost false rest
  let userPart := userText user
  let needsHost :=
    special.isSome || service.isSome || !userPart.isEmpty || (user == some [] && !isLast)
  if host.isEmpty && needsHost then none
  let host ← if special.isSome then Host.special? host else Host.plain? host
  let (service, rest) ← service? special.join (service.getD [])
  return (userPart ++ host ++ service, rest)

/-- The authority and path of a special scheme other than `file`. -/
def ofSpecial? (usual : Option Nat) (text : List Char) : Option (List Char × List Char) := do
  let text := (withoutBreaks text).dropWhile Path.isSlash
  let (authority, _) ← authority? (some usual) false (text.takeWhile (!Path.isSlash ·))
  return (authority, Path.read true (text.dropWhile (!Path.isSlash ·)).tail)

/-- The text after its first slash, if it begins with one. -/
def afterSlash? (text : List Char) : Option (List Char) :=
  match text.dropWhile isBreak with
  | c :: rest => if Path.isSlash c then some rest else none
  | [] => none

/-- The authority and path of the scheme `file`. The host `localhost` is no host, a drive letter in
its place belongs to the path, and no host stands before a drive letter. -/
def ofFile? (text : List Char) : Option (List Char × List Char) :=
  match afterSlash? text with
  | none => some ([], (Path.readOfFile text).1)
  | some rest =>
    match afterSlash? rest with
    | none => some ([], (Path.readOfFile rest).1)
    | some rest => do
      let host := withoutBreaks (rest.takeWhile (!Path.isSlash ·))
      let path := rest.dropWhile (!Path.isSlash ·)
      if Path.isDrive host then return ([], (Path.readOfFile rest).1)
      let host ← if host.isEmpty then some [] else Host.special? host
      if host.isEmpty || host = "localhost".toList then return ([], (Path.readOfFile path).1)
      let (path, hasDrive) := Path.readOfFile path.tail
      return (if hasDrive then [] else host, path)

/-- The authority and path of any other scheme, where `isLast` says whether a query or fragment
follows. A path that does not begin with a slash has no segments. -/
def ofPlain? (isLast : Bool) (text : List Char) : Option (Option (List Char) × List Char) :=
  match withoutBreaks text with
  | '/' :: '/' :: rest => do
    let path := rest.dropWhile (· != '/')
    let (authority, left) ←
      authority? none (isLast && path.isEmpty) (rest.takeWhile (· != '/'))
    match left ++ path with
    | [] => return (some authority, [])
    | '/' :: path => return (some authority, Path.read false path)
    | path => return (some authority, Path.read false path)
  | '/' :: rest =>
    let path := Path.read false rest
    match path with
    | '/' :: '/' :: _ => some (none, '/' :: '.' :: path)
    | _ => some (none, path)
  | text => some (none, encode controlSet text)

/-- The parts of the text after a scheme. -/
def parts? (scheme text : List Char) : Option Parts := do
  let (text, fragment) := cut '#' text
  let (text, query) := cut '?' text
  let special := specialSchemes.find? (·.1.toList == scheme)
  let (authority, path) ←
    match special with
    | some (_, usual) => do
      let (authority, path) ←
        if scheme = "file".toList then ofFile? text else ofSpecial? usual text
      pure (some authority, path)
    | none => ofPlain? (query.isNone && fragment.isNone) text
  let querySet := if special.isSome then specialQuerySet else querySet
  return {
    authority
    path
    query := query.map (encode querySet <| withoutBreaks ·)
    fragment := fragment.map (encode fragmentSet <| withoutBreaks ·) }

/-- The text of a URI. -/
def render (scheme : List Char) (parts : Parts) : List Char :=
  let after (mark : List Char) (part : Option (List Char)) :=
    match part with
    | some text => mark ++ text
    | none => []
  scheme ++ [':'] ++ after ['/', '/'] parts.authority ++ parts.path ++ after ['?'] parts.query ++
    after ['#'] parts.fragment

/-- The normal form of the URI written in a text, none if the text is no absolute URI. -/
def normalForm? (text : String) : Option String := do
  let (scheme, rest) ← scheme? (trim text.toList)
  let parts ← parts? scheme rest
  return String.ofList (render scheme parts)

end Uri

/-- An absolute URI, by its normal form. -/
structure Uri where
  text : String
  normal : ∃ written, Uri.normalForm? written = some text
  deriving DecidableEq, Repr

/-- The URI that is written in its normal form. -/
def Uri.ofNormal (text : String)
    (h : Uri.normalForm? text = some text := by rfl) : Uri :=
  ⟨text, text, h⟩

/-- The URI written in a text, none if the text is no absolute URI. -/
def Uri.parse? (written : String) : Option Uri :=
  (normalForm? written).pmap Uri.mk fun _ h => ⟨written, h⟩

end TucServer
