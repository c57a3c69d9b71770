/-!
# Completion entries

An entry is one suggestion: a label, and perhaps a template that is inserted in its place, a detail
and documentation.
-/

namespace TucServer

/-- A suggestion. -/
structure Entry where
  label : String
  snippet : Option String
  detail : Option String
  documentation : Option String
  deriving DecidableEq, Repr

namespace Entry

/-- The entry with only a label. -/
def keyword (label : String) : Entry := ⟨label, none, none, none⟩

/-- The entry with this template instead of its own. -/
def withSnippet (entry : Entry) (snippet : String) : Entry := { entry with snippet := some snippet }

/-- The entry with this detail instead of its own. -/
def withDetail (entry : Entry) (detail : String) : Entry := { entry with detail := some detail }

/-- The entry with this documentation instead of its own. -/
def withDocumentation (entry : Entry) (documentation : String) : Entry :=
  { entry with documentation := some documentation }

/-- What is inserted when the entry is accepted: the template, or the label if there is none. -/
def insertText (entry : Entry) : String :=
  entry.snippet.getD entry.label

end Entry

end TucServer
