/-!
# Frames

On a stream each message stands in a frame: header lines, an empty line, and the body, whose length
in bytes the header gives.
-/

namespace TucServer

namespace Frame

/-- How the header line with the length begins, in lower case. -/
def lengthName : String := "content-length:"

/-- The length that a header line gives, if it is the one with the length. -/
def lengthOfLine? (line : String) : Option Nat :=
  let lower := line.toList.map Char.toLower
  if lengthName.toList.isPrefixOf lower then
    let value := (lower.drop lengthName.length).filter (!Char.isWhitespace ·)
    (String.ofList value).toNat?
  else none

/-- The length that the header gives. -/
def length? (header : List String) : Option Nat :=
  header.findSome? lengthOfLine?

/-- The header for a body. -/
def header (body : String) : String :=
  "Content-Length: " ++ toString body.utf8ByteSize ++ "\r\n\r\n"

end Frame

end TucServer
