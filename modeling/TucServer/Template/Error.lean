/-!
# Errors in templates

An error names its cause and the byte of the source at which it lies. The limit on the nesting of
bodies stands here too, since the wording of one error quotes it.
-/

namespace TucServer.Template

/-- How deep the bodies of fields may be nested. -/
def maxNesting : Nat := 64

/-- Why a source is not a template. -/
inductive Fault where
  /-- The source ends before the field does. -/
  | unterminatedPlaceholder
  /-- A character stands where no field allows it, or an index is too large. -/
  | invalidPlaceholder
  /-- The source ends before the list of options does. -/
  | unterminatedChoice
  /-- One body more would exceed the limit. -/
  | nestingTooDeep
  deriving DecidableEq, Repr

/-- A fault together with the byte of the source at which it lies. -/
structure Error where
  fault : Fault
  offset : Nat
  deriving DecidableEq, Repr

/-- The name of a fault. -/
def Fault.title : Fault → String
  | .unterminatedPlaceholder => "UnterminatedPlaceholder"
  | .invalidPlaceholder => "InvalidPlaceholder"
  | .unterminatedChoice => "UnterminatedChoice"
  | .nestingTooDeep => "NestingTooDeep"

/-- The wording of an error. -/
def Error.message (error : Error) : String :=
  let place := toString error.offset
  match error.fault with
  | .unterminatedPlaceholder => "Unterminated placeholder starting at byte " ++ place
  | .invalidPlaceholder => "Invalid placeholder at byte " ++ place
  | .unterminatedChoice => "Unterminated choice starting at byte " ++ place
  | .nestingTooDeep =>
    "Placeholder at byte " ++ place ++ " nested deeper than " ++ toString maxNesting ++ " levels"

end TucServer.Template
