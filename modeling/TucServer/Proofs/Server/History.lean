import TucServer.Proofs.Server.Documents
import TucServer.Proofs.Server.Registrations

/-!
# Completion as a function of the history

What a message leaves behind for completion in a document is its `Trace`: a text, a version, a
position or another document leave none. The traces of a run, latest first, decide the answer
(`Trace.answer`), and `Server.Reflects` ties the state of the server to them. `Reflects.handle` is
the step of this invariant and `Reflects.run` its run.
-/

namespace TucServer

/-- What completion in one document can depend on. -/
inductive Trace where
  | opened (language : String)
  | closed
  | setUp (snippets : Bool)
  | shutDown
  deriving DecidableEq, Repr

/-- The trace that a message leaves for the document under this URI. -/
def Message.trace? (uri : Uri) : Message → Option Trace
  | .setUp snippets => some (.setUp snippets)
  | .shutDown => some .shutDown
  | .didOpen other document => if other = uri then some (.opened document.language) else none
  | .didClose other => if other = uri then some .closed else none
  | .ready | .didChange .. | .completion .. => none

namespace Trace

/-- The traces of a run of messages, latest first. -/
def ofHistory (uri : Uri) (history : List Message) : List Trace :=
  (history.filterMap (·.trace? uri)).reverse

/-- What a trace says about the language: none of an open document, or none at all. -/
def language? : Trace → Option (Option String)
  | .opened language => some (some language)
  | .closed => some none
  | .setUp _ | .shutDown => none

/-- The language of the latest opening, unless the document was closed since. -/
def language (past : List Trace) : Option String :=
  (past.findSome? language?).join

/-- What an introduction says about fields. -/
def snippets? : Trace → Option Bool
  | .setUp snippets => some snippets
  | .opened _ | .closed | .shutDown => none

/-- Whether the client can fill in fields, as it said in its latest introduction. -/
def snippets (past : List Trace) : Bool :=
  (past.findSome? snippets?).getD false

/-- The number of introductions since the latest shutdown. -/
def introductions (past : List Trace) : Nat :=
  (past.takeWhile (· ≠ .shutDown)).countP (·.snippets?.isSome)

/-- The completion items after these traces: the catalog once for each introduction. -/
def answer (past : List Trace) : Option (List Item) :=
  if language past = some "tuc" ∧ introductions past ≠ 0 then
    some ((List.replicate (introductions past) Catalog.entries).flatten.map
      (Entry.item (snippets past)))
  else none

/-- The trace of the first message comes last, behind those of the others. -/
lemma ofHistory_cons (uri : Uri) (message : Message) (history : List Message) :
    ofHistory uri (message :: history) =
      ofHistory uri history ++ (message.trace? uri).toList := by
  simp only [ofHistory, List.filterMap_cons]
  cases message.trace? uri <;> simp

/-- The last trace says the language, unless it leaves it to those before. -/
lemma language_cons (trace : Trace) (past : List Trace) :
    language (trace :: past) = trace.language?.getD (language past) := by
  rw [language, List.findSome?_cons]
  cases trace.language? with
  | none => rfl
  | some language => rfl

/-- The last trace says whether fields can be filled in, unless it leaves it to those before. -/
lemma snippets_cons (trace : Trace) (past : List Trace) :
    snippets (trace :: past) = trace.snippets?.getD (snippets past) := by
  rw [snippets, List.findSome?_cons]
  cases trace.snippets? with
  | none => rfl
  | some snippets => rfl

end Trace

/-- The document, the registrations and the flag are those that the traces tell of. -/
structure Server.Reflects (server : Server) (uri : Uri) (past : List Trace) : Prop where
  language : (server.documents.get? uri).map (·.language) = Trace.language past
  attached : ∃ ids, server.Attached ids ∧ ids.length = Trace.introductions past
  snippets : server.snippets = Trace.snippets past

/-- The registrations after a message are the introductions that its trace leaves. -/
lemma Message.registrations_introductions (message : Message) (uri : Uri) (past : List Trace) :
    message.registrations (Trace.introductions past) =
      Trace.introductions ((message.trace? uri).toList ++ past) := by
  cases message with
  | setUp snippets => simp [registrations, trace?, Trace.introductions, Trace.snippets?]
  | shutDown => simp [registrations, trace?, Trace.introductions]
  | didOpen other document =>
    by_cases h : other = uri
    · simp [registrations, trace?, Trace.introductions, Trace.snippets?, h]
    · simp [registrations, trace?, h]
  | didClose other =>
    by_cases h : other = uri
    · simp [registrations, trace?, Trace.introductions, Trace.snippets?, h]
    · simp [registrations, trace?, h]
  | ready | didChange | completion => rfl

namespace Server

variable {server : Server} {uri : Uri} {past : List Trace}

/-- New texts leave every document the language that it has. -/
lemma language_didChange (other : Uri) (texts : List String) (version : Int) :
    ((server.didChange other texts version).server.documents.get? uri).map (·.language) =
      (server.documents.get? uri).map (·.language) := by
  rw [didChange]
  split
  · rfl
  · rename_i document hd
    by_cases h : uri = other
    · subst h
      simp [hd]
    · rw [Documents.get?_insert_of_ne h]

/-- The language of the document after a message is what its traces say. -/
lemma Reflects.language_handle (h : server.Reflects uri past) (message : Message) :
    ((server.handle message).server.documents.get? uri).map (·.language) =
      Trace.language ((message.trace? uri).toList ++ past) := by
  cases message with
  | didOpen other document =>
    by_cases hu : other = uri
    · subst hu
      simp [handle, Message.trace?, Trace.language_cons, Trace.language?]
    · have hd : (server.documents.insert other document).get? uri = server.documents.get? uri :=
        Documents.get?_insert_of_ne (Ne.symm hu)
      simpa [handle, Message.trace?, hu, hd] using h.language
  | didClose other =>
    by_cases hu : other = uri
    · subst hu
      simp [handle, Message.trace?, Trace.language_cons, Trace.language?]
    · have hd : (server.documents.erase other).get? uri = server.documents.get? uri :=
        Documents.get?_erase_of_ne (Ne.symm hu)
      simpa [handle, Message.trace?, hu, hd] using h.language
  | didChange other texts version => exact (language_didChange other texts version).trans h.language
  | setUp | shutDown | ready | completion => exact h.language

/-- Whether fields can be filled in after a message is what the traces say. -/
lemma Reflects.snippets_handle (h : server.Reflects uri past) (message : Message) :
    (server.handle message).server.snippets =
      Trace.snippets ((message.trace? uri).toList ++ past) := by
  cases message with
  | setUp snippets => rfl
  | didOpen other document =>
    by_cases hu : other = uri
    · simpa [handle, Message.trace?, hu, Trace.snippets_cons, Trace.snippets?] using h.snippets
    · simpa [handle, Message.trace?, hu] using h.snippets
  | didClose other =>
    by_cases hu : other = uri
    · simpa [handle, Message.trace?, hu, Trace.snippets_cons, Trace.snippets?] using h.snippets
    · simpa [handle, Message.trace?, hu] using h.snippets
  | didChange other texts version =>
    rw [handle, didChange]
    split
    · exact h.snippets
    · exact h.snippets
  | shutDown | ready | completion => exact h.snippets

/-- A message adds its trace to those that the server reflects. -/
theorem Reflects.handle (h : server.Reflects uri past) (message : Message) :
    (server.handle message).server.Reflects uri ((message.trace? uri).toList ++ past) := by
  obtain ⟨ids, ha, hl⟩ := h.attached
  obtain ⟨after, ha', hl'⟩ := ha.handle message
  refine ⟨h.language_handle message, ⟨after, ha', ?_⟩, h.snippets_handle message⟩
  rw [hl', hl, message.registrations_introductions uri]

/-- A new server has no document, and knows of no client that can fill in fields. -/
theorem reflects_new (debug : Bool) (uri : Uri) : (new debug).Reflects uri [] :=
  ⟨rfl, ⟨[], attached_new debug, rfl⟩, rfl⟩

/-- A run adds the traces of its messages. -/
theorem Reflects.run (h : server.Reflects uri past) (history : List Message) :
    (server.run history).Reflects uri (Trace.ofHistory uri history ++ past) := by
  induction history generalizing server past with
  | nil => exact h
  | cons message history ih =>
    rw [Trace.ofHistory_cons, List.append_assoc]
    exact ih (h.handle message)

/-- The items for a position are the answer after the traces that the server reflects. -/
lemma Reflects.items (h : server.Reflects uri past) (position : Position) :
    server.items uri position = Trace.answer past := by
  obtain ⟨ids, ha, hl⟩ := h.attached
  have hlang := h.language
  rw [Server.items, Trace.answer, ← hlang, ← hl, ← h.snippets]
  cases server.documents.get? uri with
  | none => simp
  | some document =>
    show Option.map _ (server.registry.entriesFor document.language document.text position) = _
    rw [ha.entriesFor]
    by_cases hs : document.language = Catalog.language ∧ ids.length ≠ 0
    · rw [if_pos hs, if_pos ⟨congrArg some hs.1, hs.2⟩]
      rfl
    · rw [if_neg hs, if_neg fun hn => hs ⟨Option.some.inj hn.1, hn.2⟩]
      rfl

/-- The items that complete a document are those that its traces say, for every run and every
position. -/
lemma reply_completion (debug : Bool) (history : List Message) (uri : Uri) (position : Position) :
    (((new debug).run history).handle (.completion uri position)).reply =
      .items (Trace.answer (Trace.ofHistory uri history)) := by
  have h := (reflects_new debug uri).run history
  rw [List.append_nil] at h
  exact congrArg Reply.items (h.items position)

/-- The answer to a completion request is a function of the history. Runs that leave the same traces
get the same answers, whatever the texts, versions, positions and other documents in them. -/
theorem completion_of_history (debug : Bool) (history : List Message) (uri : Uri)
    (position : Position) :
    (((new debug).run history).handle (.completion uri position)).reply =
        .items (Trace.answer (Trace.ofHistory uri history)) ∧
      ∀ (debug' : Bool) (history' : List Message) (position' : Position),
        Trace.ofHistory uri history' = Trace.ofHistory uri history →
        (((new debug').run history').handle (.completion uri position')).reply =
          (((new debug).run history).handle (.completion uri position)).reply := by
  refine ⟨reply_completion debug history uri position, ?_⟩
  intro debug' history' position' ht
  rw [reply_completion, reply_completion, ht]

/-- Two introductions after a shutdown, whatever the texts of the document are. -/
theorem completion_of_history_twice :
    let uri : Uri := .ofNormal "a:"
    let history : List Message := [.setUp true, .shutDown, .didOpen uri ⟨"if", "tuc", 7⟩,
      .setUp true, .didChange uri ["loop"] 8, .setUp false]
    let other : List Message := [.setUp true, .shutDown, .didOpen uri ⟨"", "tuc", 4⟩, .setUp true,
      .setUp false]
    Trace.ofHistory uri history = Trace.ofHistory uri other ∧
      (((new false).run history).handle (.completion uri ⟨3, 4⟩)).reply =
        .items (some ((Catalog.entries ++ Catalog.entries).map (Entry.item false))) := by
  intro uri history other
  have ht : Trace.ofHistory uri history = Trace.ofHistory uri other := rfl
  obtain ⟨ha, hs⟩ := completion_of_history true other uri ⟨0, 0⟩
  refine ⟨ht, ?_⟩
  rw [hs false _ ⟨3, 4⟩ ht, ha]
  rfl

end Server

end TucServer
