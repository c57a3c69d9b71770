import Mathlib.Tactic.Lemma
import TucServer.Server.Basic

/-!
# Debugging is only logged

`Server.unmarked` and `Turn.unmarked` switch debugging off: the first for what is still to come, the
second for what has happened on a message, by leaving out the lines that are marked as debugging.
It makes no difference which of the two is done (`handle_unmarked`), nor how many messages were
handled before (`run_unmarked`), so that a run with debugging tells the one without it.
-/

namespace TucServer

/-- Whether a line of the log begins with the mark of debugging. -/
def Turn.isMarked (line : String) : Bool :=
  "[DEBUG] ".toList.isPrefixOf line.toList

/-- The server with debugging switched off. -/
def Server.unmarked (server : Server) : Server :=
  { server with debug := false }

/-- The turn with debugging switched off and without the lines that were logged for it. -/
def Turn.unmarked (turn : Turn) : Turn :=
  ⟨turn.server.unmarked, turn.reply, turn.log.filter (!isMarked ·)⟩

/-- Two turns on one message, the second of them with debugging. -/
structure Turn.Agrees (quiet debugging : Turn) : Prop where
  reply : quiet.reply = debugging.reply
  documents : quiet.server.documents = debugging.server.documents
  registry : quiet.server.registry = debugging.server.registry
  context : quiet.server.context = debugging.server.context
  snippets : quiet.server.snippets = debugging.server.snippets
  log : quiet.log = debugging.log.filter (!isMarked ·)

namespace Server

variable {server : Server}

/-- A line behind the mark is told by the mark. -/
lemma isMarked_debugMark (line : String) : Turn.isMarked (debugMark ++ line) := by
  rw [Turn.isMarked, String.toList_append, List.isPrefixOf_iff_prefix]
  exact List.prefix_append _ _

/-- What is only logged for debugging is marked. -/
@[simp] lemma filter_debugLine (line : String) :
    (server.debugLine line).filter (!Turn.isMarked ·) = [] := by
  rw [debugLine]
  split
  · simp [isMarked_debugMark]
  · rfl

/-- A change does the same with debugging taken away, but for the lines it logs. -/
lemma didChange_unmarked (uri : Uri) (texts : List String) (version : Int) :
    server.unmarked.didChange uri texts version =
      (server.didChange uri texts version).unmarked := by
  have hd : server.unmarked.documents = server.documents := rfl
  rw [didChange, didChange, hd]
  cases server.documents.get? uri with
  | none => rfl
  | some document => exact congrArg (Turn.mk _ _) (filter_debugLine _).symm

/-- Taking debugging away before a message is taking it away after the message: the two turns have
the same reply and the same server, and the unmarked lines of the one are all lines of the other. -/
theorem handle_unmarked (message : Message) :
    server.unmarked.handle message = (server.handle message).unmarked := by
  cases message with
  | didChange uri texts version => exact didChange_unmarked uri texts version
  | setUp snippets =>
    have hl : (server.setUp snippets).log.filter (!Turn.isMarked ·) = [] := by
      simp [setUp]
    exact congrArg (Turn.mk _ _) hl.symm
  | ready =>
    -- the one line that is always logged has no mark
    have hl : (server.handle .ready).log.filter (!Turn.isMarked ·) =
        ["tuc LSP server initialized"] := by
      rw [handle, List.filter_append, filter_debugLine]
      decide
    exact congrArg (Turn.mk _ _) hl.symm
  | shutDown | didOpen | didClose | completion =>
    exact congrArg (Turn.mk _ _) (filter_debugLine _).symm

/-- Taking debugging away before a history is taking it away after it. -/
theorem run_unmarked (history : List Message) :
    server.unmarked.run history = (server.run history).unmarked := by
  induction history generalizing server with
  | nil => rfl
  | cons message history ih =>
    show (server.unmarked.handle message).server.run history = _
    rw [handle_unmarked]
    exact ih

/-- Whatever has happened since the start, a message is answered in the same way with debugging and
without it, and leaves the same documents, registrations and handles and the same knowledge of the
client. Without debugging the lines are logged that do not begin with the mark, and no others. -/
theorem debugging_only_logs (history : List Message) (message : Message) :
    Turn.Agrees (((new false).run history).handle message)
      (((new true).run history).handle message) := by
  have hn : new false = (new true).unmarked := rfl
  rw [hn, run_unmarked, handle_unmarked]
  exact ⟨rfl, rfl, rfl, rfl, rfl, rfl⟩

/-- A change of a document that is open is logged for debugging only. -/
example :
    (((new true).run [.didOpen (.ofNormal "a:") ⟨"", "tuc", 1⟩]).handle
        (.didChange (.ofNormal "a:") ["if"] 2)).log =
      ["[DEBUG] Document changed: a: (version 2)"] := by
  decide

end Server

end TucServer
