import TucServer.Proofs.Server.Documents
import TucServer.Server.Basic

/-!
# Documents follow the latest full text

What a message does to the document under one URI is its `Edit`; most messages are none. The edits
of a run, latest first, decide what is stored (`Edit.document`): the document as it was opened
latest, unless it was closed since, with the text and version of the latest change since then. The
step is `document_handle`, and the run `document_run`.
-/

namespace TucServer

/-- What can be done to the document under a URI. A change brings the whole text. -/
inductive Edit where
  | opened (document : Document)
  | changed (text : String) (version : Int)
  | closed
  deriving DecidableEq, Repr

/-- What a message does to the document under a URI. Of several texts the last one counts. -/
def Message.edit? (uri : Uri) : Message → Option Edit
  | .didOpen other document => if other = uri then some (.opened document) else none
  | .didChange other texts version =>
    if other = uri then texts.getLast?.map (.changed · version) else none
  | .didClose other => if other = uri then some .closed else none
  | .setUp _ | .ready | .shutDown | .completion .. => none

namespace Edit

/-- The edits in a run of messages, latest first. -/
def ofHistory (uri : Uri) (history : List Message) : List Edit :=
  (history.filterMap (·.edit? uri)).reverse

/-- What an edit says about which document is open: this one, none, or nothing at all. -/
def opening? : Edit → Option (Option Document)
  | .opened document => some (some document)
  | .closed => some none
  | .changed .. => none

/-- The text and version that an edit brings to an open document. -/
def revision? : Edit → Option (String × Int)
  | .changed text version => some (text, version)
  | .opened _ | .closed => none

/-- The document as it was opened latest, unless it was closed since. -/
def opening (past : List Edit) : Option Document :=
  (past.findSome? opening?).join

/-- The latest text and version since the latest opening or closing. -/
def revision (past : List Edit) : Option (String × Int) :=
  (past.takeWhile (·.opening? = none)).findSome? revision?

/-- The document that is stored after these edits. -/
def document (past : List Edit) : Option Document :=
  (opening past).map fun document =>
    match revision past with
    | some (text, version) => document.update text version
    | none => document

/-- The edit of the first message comes last, behind those of the others. -/
lemma ofHistory_cons (uri : Uri) (message : Message) (history : List Message) :
    ofHistory uri (message :: history) = ofHistory uri history ++ (message.edit? uri).toList := by
  simp only [ofHistory, List.filterMap_cons]
  cases message.edit? uri <;> simp

/-- A document that was opened last is the one it was opened with. -/
@[simp] lemma document_opened (opened : Document) (past : List Edit) :
    document (.opened opened :: past) = some opened :=
  rfl

/-- A document that was closed last is gone. -/
@[simp] lemma document_closed (past : List Edit) : document (.closed :: past) = none :=
  rfl

/-- A change brings its text and version to the document, if there is one. -/
lemma document_changed (text : String) (version : Int) (past : List Edit) :
    document (.changed text version :: past) = (document past).map (·.update text version) := by
  -- the opening is that of the past, and this change is the latest since
  have ho : opening (.changed text version :: past) = opening past := rfl
  have hr : revision (.changed text version :: past) = some (text, version) := rfl
  rw [document, document, ho, hr, Option.map_map]
  congr 1
  funext opened
  cases revision past <;> rfl

end Edit

/-- Of several texts the last one stays. -/
lemma Document.sync_eq (document : Document) (texts : List String) (version : Int) :
    document.sync texts version =
      match texts.getLast? with
      | some text => document.update text version
      | none => document := by
  rw [sync]
  -- the first text is replaced by those behind it, if there are any
  induction texts generalizing document with
  | nil => rfl
  | cons text texts ih =>
    rw [List.foldl_cons, ih, List.getLast?_cons]
    cases texts.getLast? <;> rfl

namespace Server

variable {server : Server} {uri : Uri}

/-- New texts reach the document under their own URI only. -/
lemma document_didChange (other : Uri) (texts : List String) (version : Int) :
    (server.didChange other texts version).server.documents.get? uri =
      (server.documents.get? uri).map fun document =>
        if other = uri then document.sync texts version else document := by
  rw [didChange]
  split
  · rename_i hn
    by_cases h : other = uri
    · subst h
      rw [hn]
      rfl
    · simp [h]
  · rename_i document hd
    by_cases h : other = uri
    · subst h
      simp [hd]
    · simp [h, Documents.get?_insert_of_ne (Ne.symm h)]

/-- A message adds its edit to those that the stored document follows. -/
theorem document_handle {past : List Edit} (h : server.documents.get? uri = Edit.document past)
    (message : Message) :
    (server.handle message).server.documents.get? uri =
      Edit.document ((message.edit? uri).toList ++ past) := by
  cases message with
  | didOpen other document =>
    by_cases hu : other = uri
    · subst hu
      simp [handle, Message.edit?]
    · simpa [handle, Message.edit?, hu, Documents.get?_insert_of_ne (Ne.symm hu)] using h
  | didClose other =>
    by_cases hu : other = uri
    · subst hu
      simp [handle, Message.edit?]
    · simpa [handle, Message.edit?, hu, Documents.get?_erase_of_ne (Ne.symm hu)] using h
  | didChange other texts version =>
    rw [handle, document_didChange, h, Message.edit?]
    by_cases hu : other = uri
    · simp only [hu, if_true, Document.sync_eq]
      cases texts.getLast? with
      | none => simp
      | some text => simp [Edit.document_changed]
    · simp [hu]
  | setUp | shutDown | ready | completion => exact h

/-- The stored document follows the edits of a run. -/
theorem document_run {past : List Edit} (h : server.documents.get? uri = Edit.document past)
    (history : List Message) :
    (server.run history).documents.get? uri =
      Edit.document (Edit.ofHistory uri history ++ past) := by
  induction history generalizing server past with
  | nil => exact h
  | cons message history ih =>
    rw [Edit.ofHistory_cons, List.append_assoc]
    exact ih (document_handle h message)

/-- Only opening brings a document under a URI that has none. -/
lemma document_handle_of_closed {message : Message} (hn : server.documents.get? uri = none)
    (ho : ∀ document, message.edit? uri ≠ some (.opened document)) :
    (server.handle message).server.documents.get? uri = none := by
  have hd : (server.handle message).server.documents.get? uri =
      Edit.document ((message.edit? uri).toList ++ []) :=
    document_handle hn message
  rw [hd]
  cases he : message.edit? uri with
  | none => rfl
  | some edit =>
    cases edit with
    | opened document => exact absurd he (ho document)
    | changed | closed => rfl

/-- Whether lines are logged for debugging never changes. -/
lemma debug_handle (message : Message) : (server.handle message).server.debug = server.debug := by
  cases message with
  | didChange uri texts version =>
    rw [handle, didChange]
    split <;> rfl
  | setUp | ready | shutDown | didOpen | didClose | completion => rfl

/-- No message turns debugging on or off. -/
lemma debug_run (history : List Message) : (server.run history).debug = server.debug := by
  induction history generalizing server with
  | nil => rfl
  | cons message history ih => exact ih.trans (debug_handle message)

/-- A change of an open document logs the version that is stored with it. -/
lemma log_didChange {document : Document} (hd : server.documents.get? uri = some document)
    (texts : List String) (version : Int) :
    ∃ changed, (server.didChange uri texts version).server.documents.get? uri = some changed ∧
      (server.didChange uri texts version).log =
        server.debugLine ("Document changed: " ++ uri.text ++ " (version " ++
          toString changed.version ++ ")") := by
  refine ⟨document.sync texts version, ?_, ?_⟩
  · rw [document_didChange, hd]
    simp
  · rw [didChange, hd]

/-- The stored document is the one that the edits of the run give. Messages that edit nothing under
its URI leave it, and so do changes and closings when no document is open. With debugging, a change
of an open document logs one line, with the version that is stored after it, and a change without an
open document logs nothing. -/
theorem documents_follow_edits (debug : Bool) (history : List Message) (uri : Uri) :
    let server := (new debug).run history
    server.documents.get? uri = Edit.document (Edit.ofHistory uri history) ∧
      (∀ message : Message,
        message.edit? uri = none ∨ (server.documents.get? uri = none ∧
          ∀ document, message.edit? uri ≠ some (.opened document)) →
        (server.handle message).server.documents.get? uri = server.documents.get? uri) ∧
      (debug = true → ∀ (texts : List String) (version : Int),
        let turn := server.handle (.didChange uri texts version)
        (server.documents.get? uri = none → turn.log = []) ∧
          (server.documents.get? uri ≠ none →
            ∃ changed, turn.server.documents.get? uri = some changed ∧
              turn.log = [debugMark ++ ("Document changed: " ++ uri.text ++ " (version " ++
                toString changed.version ++ ")")])) := by
  intro server
  have hs : server.documents.get? uri = Edit.document (Edit.ofHistory uri history ++ []) :=
    document_run rfl history
  rw [List.append_nil] at hs
  refine ⟨hs, ?_, ?_⟩
  · intro message hm
    obtain he | ⟨hn, ho⟩ := hm
    · rw [document_handle hs message, he, hs]
      rfl
    · rw [document_handle_of_closed hn ho, hn]
  · intro hd texts version turn
    refine ⟨?_, ?_⟩
    · intro hn
      show (server.didChange uri texts version).log = []
      rw [didChange, hn]
    · intro ho
      obtain ⟨document, ho⟩ := Option.ne_none_iff_exists'.mp ho
      obtain ⟨changed, hc, hl⟩ := log_didChange ho texts version
      have hdebug : server.debug = true := (debug_run history).trans hd
      rw [debugLine, if_pos hdebug] at hl
      exact ⟨changed, hc, hl⟩

/-- A document that is opened again, changed by two texts at once and then by none, beside another
that is closed and changed afterwards. -/
theorem documents_follow_edits_reopened :
    let one : Uri := .ofNormal "a:"
    let other : Uri := .ofNormal "b:"
    let history : List Message := [.didOpen one ⟨"", "md", 1⟩, .didChange one ["if"] 2,
      .didOpen other ⟨"", "tuc", 1⟩, .didOpen one ⟨"", "tuc", 3⟩,
      .didChange one ["if", "loop"] 5, .didChange one [] 9, .didClose other]
    let server := (new true).run history
    server.documents.get? one = some ⟨"loop", "tuc", 5⟩ ∧
      (server.handle (.didChange other ["if"] 6)).server.documents.get? one =
        some ⟨"loop", "tuc", 5⟩ ∧
      (server.handle (.didChange other ["if"] 6)).server.documents.get? other = none ∧
      (server.handle (.didChange other ["if"] 6)).log = [] ∧
      (server.handle (.didChange one [] 6)).log =
        ["[DEBUG] Document changed: a: (version 5)"] := by
  intro one other history server
  obtain ⟨ha, hea, hla⟩ := documents_follow_edits true history one
  obtain ⟨hb, heb, hlb⟩ := documents_follow_edits true history other
  have hopen : server.documents.get? one = some ⟨"loop", "tuc", 5⟩ := ha.trans rfl
  have hclosed : server.documents.get? other = none := hb.trans rfl
  refine ⟨hopen, ?_, ?_, ?_, ?_⟩
  · rw [hea (.didChange other ["if"] 6) (.inl rfl)]
    exact hopen
  · rw [heb (.didChange other ["if"] 6) (.inr ⟨hclosed, by simp [Message.edit?]⟩)]
    exact hclosed
  · exact (hlb rfl ["if"] 6).1 hclosed
  · have hne : server.documents.get? one ≠ none := by simp [hopen]
    have hedit : (Message.didChange one [] 6).edit? one = none := rfl
    obtain ⟨changed, hc, hl⟩ := (hla rfl [] 6).2 hne
    rw [hea _ (.inl hedit)] at hc
    obtain rfl := Option.some.inj (hopen.symm.trans hc)
    rw [hl]
    rfl

end Server

end TucServer
