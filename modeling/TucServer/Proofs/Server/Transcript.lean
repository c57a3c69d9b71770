import TucServer.Proofs.Server.Lifecycle

/-!
# Transcripts of sessions

A session is a service that keeps to the lifecycle. The message that it hands to its server is
`Session.admitted?`, and `Session.transcript` lists what passes while the client sends one value
after the other. `Session.Follows` ties the server and the phase of a session to what has passed:
`Follows.receiveJson` is the step of this invariant and `Follows.run` its run.
-/

namespace TucServer

/-- The response among what follows on a call. -/
def Outcome.response? : Outcome → Option Response
  | .exited => none
  | .answered response _ => response

/-- No success is among what follows. -/
def Outcome.Unsuccessful (outcome : Outcome) : Prop :=
  ∀ id reply, outcome.response? ≠ some ⟨id, .ok reply⟩

/-- A refusal is no success. -/
lemma Call.unsuccessful_respond (call : Call) (refusal : Refusal) (log : List String) :
    (Outcome.answered (call.respond (.error refusal)) log).Unsuccessful := by
  intro id reply h
  obtain ⟨_, _, h⟩ := Option.map_eq_some_iff.mp h
  simp at h

/-- A message belongs to the method whose parameters it was read from. -/
lemma Message.method_of_ofParams? {params : Json} {method : Method} {message : Message}
    (h : ofParams? params method = some message) : message.method = method := by
  cases method with
  | setUp =>
    obtain ⟨_, -, h⟩ := Option.bind_eq_some_iff.mp h
    obtain rfl := Option.some.inj h
    rfl
  | ready | shutDown =>
    obtain rfl := Option.some.inj h
    rfl
  | didOpen =>
    simp only [ofParams?, didOpen?, Option.bind_eq_bind, Option.bind_eq_some_iff,
      Option.pure_def, Option.some.injEq] at h
    obtain ⟨_, -, _, -, _, -, _, -, _, -, rfl⟩ := h
    rfl
  | didChange =>
    simp only [ofParams?, didChange?, Option.bind_eq_bind, Option.bind_eq_some_iff,
      Option.pure_def, Option.some.injEq] at h
    obtain ⟨_, -, _, -, _, -, _, -, _, -, rfl⟩ := h
    rfl
  | didClose =>
    simp only [ofParams?, didClose?, Option.bind_eq_bind, Option.bind_eq_some_iff,
      Option.pure_def, Option.some.injEq] at h
    obtain ⟨_, -, _, -, rfl⟩ := h
    rfl
  | completion =>
    simp only [ofParams?, completion?, Option.bind_eq_bind, Option.bind_eq_some_iff,
      Option.pure_def, Option.some.injEq] at h
    obtain ⟨_, -, _, -, _, -, _, -, rfl⟩ := h
    rfl

/-- The message of a call belongs to the method of the call. -/
lemma Call.method_of_message? {call : Call} {method : Method} {message : Message}
    (h : call.message? method = some message) : message.method = method := by
  rw [message?.eq_def] at h
  split at h
  · obtain rfl := Option.some.inj h
    rfl
  · cases h
  · obtain rfl := Option.some.inj h
    rfl
  · obtain rfl := Option.some.inj h
    rfl
  · cases h
  · cases h
  · exact Message.method_of_ofParams? h

/-- The name of completion spells completion only. -/
lemma Call.completion_of_ofJson? {json : Json} {call : Call} {message : Message}
    (hc : ofJson? json = some call) (hn : call.method = "textDocument/completion")
    (h : Message.ofJson? json = some message) :
    ∃ uri position, message = .completion uri position := by
  have hm : call.message? .completion = some message := by
    simpa [Message.ofJson?, hc, hn, Method.ofName?] using h
  have hk := method_of_message? hm
  cases message with
  | completion uri position => exact ⟨uri, position, rfl⟩
  | setUp | ready | shutDown | didOpen | didChange | didClose => cases hk

/-- Only what spells a call is read as one. -/
lemma Incoming.ofJson?_of_eq_call {json : Json} {call : Call}
    (h : ofJson? json = some (.call call)) : Call.ofJson? json = some call := by
  rw [ofJson?] at h
  split at h
  · split at h
    · cases h
    · obtain ⟨_, hc, he⟩ := Option.map_eq_some_iff.mp h
      cases he
      exact hc
  · cases h

namespace Session

variable {session : Session} {json : Json} {message : Message} {call : Call} {method : Method}

/-- The message that the session hands to its server, if it hands on what it receives. -/
def admitted? (session : Session) (json : Json) : Option Message :=
  if maxDepth < json.depth then none
  else
    match Incoming.ofJson? json with
    | none => none
    | some .response => none
    | some (.call call) =>
      match Method.ofName? call.method with
      | none => none
      | some method =>
        if refusal? session.phase method = none ∧ method.isRequest = call.id.isSome then
          call.message? method
        else none

/-- What passes while the client sends one value after the other. -/
def transcript (session : Session) : List Json → List Exchange
  | [] => []
  | json :: rest =>
    ⟨json, session.admitted? json, (session.receiveJson json).1.response?⟩ ::
      (session.receiveJson json).2.transcript rest

/-- The session after what the client sends. -/
def run (session : Session) (messages : List Json) : Session :=
  messages.foldl (fun session json => (session.receiveJson json).2) session

/-- The last message is answered by the session as the others have left it. -/
lemma transcript_concat (session : Session) (messages : List Json) (json : Json) :
    session.transcript (messages ++ [json]) = session.transcript messages ++
      [⟨json, (session.run messages).admitted? json,
        ((session.run messages).receiveJson json).1.response?⟩] := by
  induction messages generalizing session with
  | nil => rfl
  | cons first messages ih => exact congrArg (List.cons _) (ih _)

/-- An introduction is let through at first, and everything else afterwards until the shutdown. -/
lemma refusal?_eq_none {phase : Phase} :
    refusal? phase method = none ↔
      phase = .fresh ∧ method = .setUp ∨ phase = .running ∧ method ≠ .setUp := by
  cases phase <;> cases method <;> simp [refusal?]

/-- What a session asks of a value before it hands on the message in it. -/
structure Admits (session : Session) (json : Json) (call : Call) (message : Message) : Prop where
  shallow : ¬ maxDepth < json.depth
  read : Incoming.ofJson? json = some (.call call)
  named : Method.ofName? call.method = some message.method
  due : refusal? session.phase message.method = none
  kind : message.method.isRequest = call.id.isSome
  spelled : call.message? message.method = some message

/-- Whatever is admitted is a call that the session admits. -/
lemma exists_admits (h : session.admitted? json = some message) :
    ∃ call, session.Admits json call message := by
  rw [admitted?] at h
  obtain ⟨hd, h⟩ := Option.ite_none_left_eq_some.mp h
  split at h
  · cases h
  · cases h
  · rename_i call hc
    split at h
    · cases h
    · rename_i method hm
      obtain ⟨⟨hr, hk⟩, hs⟩ := Option.ite_none_right_eq_some.mp h
      obtain rfl := Call.method_of_message? hs
      exact ⟨call, hd, hc, hm, hr, hk, hs⟩

/-- An admitted message is spelled by its value. -/
lemma Admits.ofJson? (h : session.Admits json call message) :
    Message.ofJson? json = some message := by
  simp [Message.ofJson?, Incoming.ofJson?_of_eq_call h.read, h.named, h.spelled]

/-- On an admitted message follows what the server makes of it. -/
lemma Admits.receiveJson (h : session.Admits json call message) :
    session.receiveJson json =
      (.answered (call.respond (.ok (session.server.handle message).reply))
          (session.server.handle message).log,
        ⟨(session.server.handle message).server,
          phaseAfter (phaseOn session.phase message.method) message.method⟩) := by
  -- the two cases that come before the look-up of the method are out of the question
  have hp : session.phase ≠ .exited := by
    intro hp
    have hr := h.due
    rw [refusal?_eq_none, hp] at hr
    simp at hr
  have he : call.method ≠ "exit" := by
    intro he
    have hn := h.named
    rw [he] at hn
    simp [Method.ofName?] at hn
  rw [Session.receiveJson, if_neg h.shallow, h.read]
  show session.receive call = _
  rw [receive, if_neg hp, if_neg he, h.named]
  dsimp only
  rw [h.due]
  dsimp only
  rw [handle, h.kind, bne_self_eq_false]
  simp [h.spelled]

/-- What is turned down does not reach the server, is no success, and can only end the session. -/
structure TurnsDown (session : Session) (step : Outcome × Session) : Prop where
  unsuccessful : step.1.Unsuccessful
  server : step.2.server = session.server
  phase : step.2.phase = session.phase ∨ step.2.phase = .shutDown ∨ step.2.phase = .exited

/-- A call of the wrong kind or with parameters of the wrong shape is turned down. -/
lemma turnsDown_handle (h : method.isRequest = call.id.isSome → call.message? method = none) :
    session.TurnsDown
      ({ session with phase := phaseOn session.phase method }.handle call method) := by
  have hp : phaseOn session.phase method = session.phase ∨
      phaseOn session.phase method = .shutDown ∨ phaseOn session.phase method = .exited := by
    cases method <;> simp [phaseOn]
  rw [handle]
  split
  · exact ⟨call.unsuccessful_respond _ _, rfl, hp⟩
  · rename_i hk
    rw [h (by simpa using hk)]
    exact ⟨call.unsuccessful_respond _ _, rfl, hp⟩

/-- A call that is unknown, refused, of the wrong kind or without readable parameters is turned
down. -/
lemma turnsDown_receive
    (h : ∀ method, Method.ofName? call.method = some method →
      refusal? session.phase method = none → method.isRequest = call.id.isSome →
      call.message? method = none) :
    session.TurnsDown (session.receive call) := by
  rw [receive]
  split
  · exact ⟨nofun, rfl, .inl rfl⟩
  split
  · exact ⟨nofun, rfl, .inr (.inr rfl)⟩
  split
  · split
    · exact ⟨nofun, rfl, .inl rfl⟩
    · exact ⟨call.unsuccessful_respond _ _, rfl, .inl rfl⟩
  · rename_i method hm
    split
    · exact ⟨call.unsuccessful_respond _ _, rfl, .inl rfl⟩
    · rename_i hr
      exact turnsDown_handle (h method hm hr)

/-- Whatever the session does not admit is turned down. -/
lemma turnsDown_receiveJson (h : session.admitted? json = none) :
    session.TurnsDown (session.receiveJson json) := by
  rw [admitted?] at h
  rw [Session.receiveJson]
  split
  · exact ⟨nofun, rfl, .inl rfl⟩
  · rename_i hd
    rw [if_neg hd] at h
    split
    · exact ⟨nofun, rfl, .inl rfl⟩
    · exact ⟨nofun, rfl, .inl rfl⟩
    · rename_i call hc
      rw [hc] at h
      apply turnsDown_receive
      intro method hm hr hk
      simpa [hm, hr, hk] using h

/-- The server has handled what was delivered. Before the introduction nothing was, and while the
session runs, the introduction was and the shutdown was not. -/
structure Follows (session : Session) (debug : Bool) (past : List Exchange) : Prop where
  server : session.server = (Server.new debug).run (Exchange.delivered past)
  fresh : session.phase = .fresh → Exchange.delivered past = []
  running : session.phase = .running →
    (∃ snippets, .setUp snippets ∈ Exchange.delivered past) ∧
      .shutDown ∉ Exchange.delivered past

variable {debug : Bool} {past : List Exchange}

/-- A new session has exchanged nothing yet. -/
lemma follows_new (debug : Bool) : (new debug).Follows debug [] :=
  ⟨rfl, fun _ => rfl, nofun⟩

/-- What passes next is allowed by the lifecycle. -/
lemma Follows.allowed (h : session.Follows debug past) (json : Json) :
    Exchange.Allowed debug past
      ⟨json, session.admitted? json, (session.receiveJson json).1.response?⟩ := by
  have hdue : ∀ {message}, session.admitted? json = some message →
      session.phase = .fresh ∧ message.method = .setUp ∨
        session.phase = .running ∧ message.method ≠ .setUp := by
    intro message hm
    obtain ⟨call, ha⟩ := exists_admits hm
    exact refusal?_eq_none.mp ha.due
  refine ⟨?_, ?_, ?_, ?_, ?_⟩
  · intro message hm
    obtain ⟨call, ha⟩ := exists_admits hm
    exact ha.ofJson?
  · intro snippets hm earlier he
    obtain ⟨hp, -⟩ | ⟨-, hn⟩ := hdue hm
    · rw [h.fresh hp] at he
      exact List.not_mem_nil he
    · exact hn rfl
  · intro message hm hn
    obtain ⟨-, hs⟩ | ⟨hp, -⟩ := hdue hm
    · exact absurd hs hn
    · exact (h.running hp).1
  · intro message hm hn _
    obtain ⟨-, hs⟩ | ⟨hp, -⟩ := hdue hm
    · exact absurd hs hn
    · exact (h.running hp).2
  · intro id reply hr
    cases hm : session.admitted? json with
    | none => exact absurd hr ((turnsDown_receiveJson hm).unsuccessful id reply)
    | some message =>
      obtain ⟨call, ha⟩ := exists_admits hm
      refine ⟨message, rfl, ?_⟩
      rw [ha.receiveJson] at hr
      obtain ⟨_, -, hr⟩ := Option.map_eq_some_iff.mp hr
      injection hr with _ hr
      injection hr with hr
      rw [← hr, h.server]

/-- After an introduction the session runs, and it goes on until a shutdown. -/
lemma Follows.handle (h : session.Follows debug past) {exchange : Exchange}
    (hm : exchange.admitted = some message)
    (hd : refusal? session.phase message.method = none) :
    Follows ⟨(session.server.handle message).server,
        phaseAfter (phaseOn session.phase message.method) message.method⟩ debug
      (past ++ [exchange]) := by
  have hs : (session.server.handle message).server =
      (Server.new debug).run (Exchange.delivered past ++ [message]) := by
    rw [h.server, Server.run, Server.run, List.foldl_append]
    rfl
  obtain ⟨hp, hn⟩ | ⟨hp, hn⟩ := refusal?_eq_none.mp hd
  · -- the introduction: nothing was delivered before it, so no shutdown either
    have hnil := h.fresh hp
    refine ⟨by simpa [hm] using hs, ?_, ?_⟩
    · rw [hn]
      nofun
    · intro _
      cases message with
      | setUp snippets => simp [hm, hnil]
      | ready | shutDown | didOpen | didChange | didClose | completion => cases hn
  · obtain ⟨⟨snippets, hi⟩, hnd⟩ := h.running hp
    refine ⟨by simpa [hm] using hs, ?_, ?_⟩
    · rw [hp]
      cases message with
      | setUp => exact absurd rfl hn
      | ready | shutDown | didOpen | didChange | didClose | completion => nofun
    · intro hr
      refine ⟨⟨snippets, by simp [hi]⟩, ?_⟩
      have hne : message ≠ .shutDown := by
        rintro rfl
        cases hr
      simp [hm, hnd, hne.symm]

/-- A session goes on to follow what passes. -/
theorem Follows.receiveJson (h : session.Follows debug past) (json : Json) :
    (session.receiveJson json).2.Follows debug
      (past ++ [⟨json, session.admitted? json, (session.receiveJson json).1.response?⟩]) := by
  cases hm : session.admitted? json with
  | none =>
    obtain ⟨-, hs, hp⟩ := turnsDown_receiveJson hm
    refine ⟨?_, ?_, ?_⟩
    · simpa [hs] using h.server
    · intro hf
      have hp : .fresh = session.phase := by simpa [hf] using hp
      simpa using h.fresh hp.symm
    · intro hr
      have hp : .running = session.phase := by simpa [hr] using hp
      simpa using h.running hp.symm
  | some message =>
    obtain ⟨call, ha⟩ := exists_admits hm
    rw [ha.receiveJson]
    exact h.handle rfl ha.due

/-- Whatever the client sends, the session keeps to the lifecycle and follows what passes. -/
theorem Follows.run (h : session.Follows debug past) (hl : Lifecycle debug past)
    (messages : List Json) :
    Lifecycle debug (past ++ session.transcript messages) ∧
      (session.run messages).Follows debug (past ++ session.transcript messages) := by
  induction messages generalizing session past with
  | nil =>
    rw [transcript, List.append_nil]
    exact ⟨hl, h⟩
  | cons json rest ih =>
    rw [transcript, List.append_cons]
    exact ih (h.receiveJson json) (hl.concat (h.allowed json))

end Session

/-- Behind any service that keeps to the lifecycle, a successful response to completion brings
nothing or the catalog once, as the client asked for it in its only introduction: the catalog if and
only if the document was opened since with the language of the catalog, and not closed again. Every
session is such a service, whatever the client sends, and what it hands on is what its server has
handled. -/
theorem Lifecycle.catalog_at_most_once (debug : Bool) :
    (∀ (exchanges past : List Exchange) (exchange : Exchange) (call : Call) (id : Json)
        (reply : Reply),
      Lifecycle debug exchanges → past ++ [exchange] <+: exchanges →
      Call.ofJson? exchange.json = some call → call.method = "textDocument/completion" →
      exchange.response = some ⟨id, .ok reply⟩ →
      ∃ uri position snippets since,
        Message.ofJson? exchange.json = some (.completion uri position) ∧
          Exchange.delivered past = .setUp snippets :: since ∧
          (∀ later, .setUp later ∉ since) ∧
          reply = .items
            (if Trace.language (Trace.ofHistory uri since) = some "tuc" then
              some (Catalog.entries.map (Entry.item snippets))
            else none)) ∧
      ∀ messages, Lifecycle debug ((Session.new debug).transcript messages) ∧
        ((Session.new debug).run messages).server =
          (Server.new debug).run
            (Exchange.delivered ((Session.new debug).transcript messages)) := by
  refine ⟨?_, ?_⟩
  · intro exchanges past exchange call id reply h hp hc hn hr
    have ha := h past exchange hp
    obtain ⟨message, hm, hreply⟩ := ha.answered id reply hr
    obtain ⟨uri, position, rfl⟩ := Call.completion_of_ofJson? hc hn (ha.spelled _ hm)
    have hrunning : .shutDown ∉ Exchange.delivered past := ha.running _ hm nofun rfl
    obtain ⟨earlier, hi⟩ := ha.introduced _ hm nofun
    have hpast : Lifecycle debug past := h.of_isPrefix ((List.prefix_append past _).trans hp)
    obtain hnil | ⟨snippets, since, hd, hs⟩ := hpast.delivered_cons
    · rw [hnil] at hi
      exact absurd hi List.not_mem_nil
    · refine ⟨uri, position, snippets, since, ha.spelled _ hm, hd, hs, ?_⟩
      rw [hd] at hrunning
      rw [hreply, hd, Server.reply_completion,
        Trace.answer_once uri hs (List.not_mem_of_not_mem_cons hrunning)]
  · intro messages
    obtain ⟨hl, hf⟩ := (Session.follows_new debug).run .nil messages
    exact ⟨hl, hf.server⟩

/-- A session in which an opening comes too early, an introduction has parameters of the wrong
shape, one names another version of the protocol, and one comes too late: the response to completion
is the catalog once, with fields. -/
theorem Lifecycle.catalog_at_most_once_session :
    let introduction : String → Int → Json → Json := fun version id capabilities =>
      .object [("jsonrpc", .string version), ("method", .string "initialize"),
        ("id", .integer id), ("params", .object [("capabilities", capabilities)])]
    let fields : Json := .object [("textDocument", .object [("completion",
      .object [("completionItem", .object [("snippetSupport", .bool true)])])])]
    let opening : Json :=
      .object [("jsonrpc", .string "2.0"), ("method", .string "textDocument/didOpen"),
        ("params", .object [("textDocument", .object [("uri", .string "a:"),
          ("languageId", .string "tuc"), ("version", .integer 1), ("text", .string "")])])]
    let completion : Json :=
      .object [("jsonrpc", .string "2.0"), ("method", .string "textDocument/completion"),
        ("id", .integer 5), ("params", .object [("textDocument", .object [("uri", .string "a:")]),
          ("position", .object [("line", .integer 0), ("character", .integer 0)])])]
    let messages : List Json := [opening, introduction "2.0" 1 .null,
      introduction "1.0" 2 (.object []), introduction "2.0" 3 fields,
      introduction "2.0" 4 (.object []), opening]
    (((Session.new false).run messages).receiveJson completion).1.response? =
      some ⟨.integer 5, .ok (.items (some (Catalog.entries.map (Entry.item true))))⟩ := by
  intro introduction fields opening completion messages
  obtain ⟨hc, hs⟩ := catalog_at_most_once false
  have ht := (Session.new false).transcript_concat messages completion
  have hd : Exchange.delivered ((Session.new false).transcript messages) =
      [.setUp true, .didOpen (.ofNormal "a:") ⟨"", "tuc", 1⟩] := by
    decide +kernel
  have hm : ((Session.new false).run messages).admitted? completion =
      some (.completion (.ofNormal "a:") ⟨0, 0⟩) := by
    decide +kernel
  generalize (Session.new false).run messages = session at ht hm ⊢
  obtain ⟨call, ha⟩ := Session.exists_admits hm
  have hread := Incoming.ofJson?_of_eq_call ha.read
  have hcall : Call.ofJson? completion = some ⟨"textDocument/completion", some (.integer 5), _⟩ :=
    rfl
  obtain rfl := Option.some.inj (hcall.symm.trans hread)
  have hr : (session.receiveJson completion).1.response? = some ⟨.integer 5, .ok
      (session.server.handle (.completion (.ofNormal "a:") ⟨0, 0⟩)).reply⟩ := by
    rw [ha.receiveJson]
    rfl
  obtain ⟨uri, position, snippets, since, hu, hp, -, he⟩ :=
    hc _ _ _ _ _ _ (hs (messages ++ [completion])).1 ⟨[], by rw [ht, List.append_nil]⟩
      hread rfl hr
  obtain ⟨rfl, rfl⟩ : true = snippets ∧ [.didOpen (.ofNormal "a:") ⟨"", "tuc", 1⟩] = since := by
    simpa [hd] using hp
  obtain ⟨rfl, -⟩ : (.ofNormal "a:") = uri ∧ ⟨0, 0⟩ = position := by
    simpa using ha.ofJson?.symm.trans hu
  rw [hr, he]
  rfl

end TucServer
