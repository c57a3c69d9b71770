import TucServer.Completion.Entry

/-!
# The catalog of the tuc language

The keywords of the language and the templates that go with them. A label stands twice where both
the bare keyword and its template are offered.
-/

namespace TucServer

namespace Catalog

/-- Grows by one whenever an entry is added, removed or changed. -/
def version : Nat := 1

/-- The identifier of the language that the catalog serves. -/
def language : String := "tuc"

/-- A field of a template: a tab stop with a hint as its body. -/
def field (index : Nat) (hint : String) : String :=
  "$\x7b" ++ toString index ++ ":" ++ hint ++ "\x7d"

/-- A tab stop of a template, in braces and without a body. -/
def stop (index : Nat) : String :=
  "$\x7b" ++ toString index ++ "\x7d"

/-- An entry of the catalog: every one has a detail and a template. -/
def entry (label detail snippet : String) : Entry :=
  ((Entry.keyword label).withSnippet snippet).withDetail detail

/-- What is said about the name of a description. -/
def nameDocumentation : String := "Tuc name is a start of a tuc definition."

/-- The name of a description. -/
def naming : List Entry := [
  (entry "tuc" "Tuc name" "tuc").withDocumentation nameDocumentation,
  (entry "tuc" "Tuc name" ("tuc " ++ field 1 "name")).withDocumentation nameDocumentation]

/-- Participants and their kinds. -/
def participants : List Entry := [
  entry "participants" "Participants" "participants",
  entry "participants" "Participants" ("participants\n\t" ++ stop 0),
  entry "participant-component" "Component Participant"
    (field 1 "ComponentType" ++ " " ++ field 2 "Domain" ++ "\n\t"),
  entry "participant-component-participant" "Participant of a Component"
    (field 1 "ParticipantType"),
  entry "participant-component-participant-alias" "Participant of a Component with Alias"
    (field 1 "ParticipantType" ++ " as \"" ++ field 2 "Alias" ++ "\""),
  entry "participant-active" "Active Participant"
    (field 1 "ParticipantType" ++ " " ++ field 2 "Domain"),
  entry "participant-active-alias" "Active Participant with Alias"
    (field 1 "ParticipantType" ++ " " ++ field 2 "Domain" ++ " as \"" ++ field 3 "Alias" ++ "\"")]

/-- Sections, and the flow of data and events. -/
def flows : List Entry := [
  entry "section" "Section name" "section",
  entry "section" "Section name" ("section " ++ field 1 "section name"),
  entry "read-data" "Read data from data object"
    ("[" ++ field 1 "dataObject" ++ "] -> " ++ field 2 "data"),
  entry "post-data" "Post data to data object"
    (field 1 "data" ++ " -> [" ++ field 2 "dataObject" ++ "]"),
  entry "post-event" "Read event from stream"
    (field 1 "event" ++ " -> [" ++ field 2 "streamName" ++ "Stream]"),
  entry "read-event" "Post event to stream"
    ("[" ++ field 1 "streamName" ++ "Stream] -> " ++ field 2 "event")]

/-- Control structures. -/
def control : List Entry := [
  entry "group" "Group name" "group",
  entry "group" "Group name" ("group " ++ field 1 "group name" ++ "\n\t"),
  entry "if" "If" "if",
  entry "if" "If condition" ("if " ++ field 1 "condition" ++ "\n\t"),
  entry "if-else" "If condition Else"
    ("if " ++ field 1 "condition" ++ "\n\t" ++ stop 0 ++ "\nelse\n\t"),
  entry "else" "Else" "else",
  entry "loop" "Loop" "loop",
  entry "loop" "Loop condition" ("loop " ++ field 1 "condition" ++ "\n\t"),
  entry "do" "Do action(s)" "do",
  entry "do" "Do action" ("do " ++ field 1 "action")]

/-- Notes, on one line and on several. -/
def notes : List Entry := [
  entry "left-note" "Left Note" ("\"< " ++ field 1 "note" ++ "\""),
  entry "note" "Note" ("\"" ++ field 1 "note" ++ "\""),
  entry "right-note" "Right Note" ("\"> " ++ field 1 "note" ++ "\""),
  entry "left-note-multi" "Multi-line Left Note" ("\"<\"\n" ++ field 1 "note" ++ "\n\"<\""),
  entry "note-multi" "Multi-line Note" ("\"\"\"\n" ++ field 1 "note" ++ "\n\"\"\""),
  entry "right-note-multi" "Multi-line Right Note" ("\">\"\n" ++ field 1 "note" ++ "\n\">\"")]

/-- All entries, in the order in which they are offered. -/
def entries : List Entry :=
  naming ++ participants ++ flows ++ control ++ notes

end Catalog

end TucServer
