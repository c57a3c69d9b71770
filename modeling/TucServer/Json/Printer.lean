import TucServer.Json.Basic
import TucServer.Text.Digit

/-!
# Printing JSON values

A value is printed without blanks, the members of an object in their order.
-/

namespace TucServer.Json

/-- A character as it stands in a string: a quote, a backslash and the control characters are
escaped. -/
def escapeChar (c : Char) : String :=
  if c = '"' then "\\\""
  else if c = '\\' then "\\\\"
  else if c = '\n' then "\\n"
  else if c = '\r' then "\\r"
  else if c = '\t' then "\\t"
  else if c = '\x08' then "\\b"
  else if c = '\x0c' then "\\f"
  else if c.toNat < 0x20 then
    "\\u00" ++ String.ofList (Digit.hexPair 'a' c.toNat)
  else String.singleton c

/-- The text followed by a printed string. -/
def printString (out : String) (value : String) : String :=
  (value.toList.foldl (fun out c => out ++ escapeChar c) (out.push '"')).push '"'

mutual

/-- The text followed by a printed value. -/
def printAfter (out : String) : Json → String
  | .null => out ++ "null"
  | .bool value => out ++ (if value then "true" else "false")
  | .integer value => out ++ toString value
  | .decimal written => out ++ written
  | .string value => printString out value
  | .array items => (printItems (out.push '[') true items).push ']'
  | .object members => (printMembers (out.push '{') true members).push '}'

/-- The text followed by printed items, separated by commas. -/
def printItems (out : String) (first : Bool) : List Json → String
  | [] => out
  | item :: rest => printItems (printAfter (if first then out else out.push ',') item) false rest

/-- The text followed by printed members, separated by commas. -/
def printMembers (out : String) (first : Bool) : List (String × Json) → String
  | [] => out
  | (name, value) :: rest =>
    let named := (printString (if first then out else out.push ',') name).push ':'
    printMembers (printAfter named value) false rest

end

/-- The text of a value. -/
def print (value : Json) : String :=
  printAfter "" value

end TucServer.Json
