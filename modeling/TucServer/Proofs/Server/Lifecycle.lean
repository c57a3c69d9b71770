import Mathlib.Data.List.Induction
import TucServer.Proofs.Server.History
import TucServer.Server.Session

/-!
# Behind a service that keeps to the lifecycle

A service stands between the client and the server. Of what the client sends it hands on only well
formed messages, and only when their time has come: the first introduction, the other messages after
it, and requests until the shutdown. `Exchange.Allowed` says so for one message of the client, and
`Lifecycle` for a run of them. Nothing else is known of the service. What has reached the server
then begins with the only introduction (`Lifecycle.delivered_cons`), so that completion serves the
catalog at most once (`Trace.answer_once`).
-/

namespace TucServer

/-- The message that a JSON value spells, whether or not its time has come, and whatever version of
the protocol the value names. -/
def Message.ofJson? (json : Json) : Option Message := do
  let call ← Call.ofJson? json
  let method ← Method.ofName? call.method
  call.message? method

/-- The method that a message belongs to. -/
def Message.method : Message → Method
  | .setUp _ => .setUp
  | .ready => .ready
  | .shutDown => .shutDown
  | .didOpen .. => .didOpen
  | .didChange .. => .didChange
  | .didClose _ => .didClose
  | .completion .. => .completion

/-- What passes when the client sends something: the JSON value, the message that reaches the
server, if one does, and the response, if there is one. -/
structure Exchange where
  json : Json
  admitted : Option Message
  response : Option Response

namespace Exchange

/-- The messages that have reached the server. -/
def delivered (exchanges : List Exchange) : List Message :=
  exchanges.filterMap (·.admitted)

/-- What is admitted last is delivered last. -/
@[simp] lemma delivered_concat (past : List Exchange) (exchange : Exchange) :
    delivered (past ++ [exchange]) = delivered past ++ exchange.admitted.toList := by
  rw [delivered, List.filterMap_append]
  cases h : exchange.admitted <;> simp [delivered, h]

/-- What the lifecycle asks of an exchange after those of the past. An introduction always succeeds,
so that the first one that reaches the server is the last. -/
structure Allowed (debug : Bool) (past : List Exchange) (exchange : Exchange) : Prop where
  /-- Only what is well formed reaches the server. -/
  spelled : ∀ message, exchange.admitted = some message →
    Message.ofJson? exchange.json = some message
  once : ∀ snippets, exchange.admitted = some (.setUp snippets) →
    ∀ earlier, .setUp earlier ∉ delivered past
  introduced : ∀ message, exchange.admitted = some message → message.method ≠ .setUp →
    ∃ snippets, .setUp snippets ∈ delivered past
  running : ∀ message, exchange.admitted = some message → message.method ≠ .setUp →
    message.method.isRequest → .shutDown ∉ delivered past
  /-- Only the server makes a response a success. -/
  answered : ∀ id reply, exchange.response = some ⟨id, .ok reply⟩ →
    ∃ message, exchange.admitted = some message ∧
      reply = (((Server.new debug).run (delivered past)).handle message).reply

end Exchange

open Exchange

/-- Every exchange is allowed after those before it. -/
def Lifecycle (debug : Bool) (exchanges : List Exchange) : Prop :=
  ∀ past exchange, past ++ [exchange] <+: exchanges → exchange.Allowed debug past

namespace Lifecycle

variable {debug : Bool} {past exchanges : List Exchange} {exchange : Exchange}

/-- Before the first exchange nothing has to be obeyed. -/
lemma nil : Lifecycle debug [] := by
  intro past exchange hp
  simp at hp

/-- One more exchange that is allowed after the others. -/
lemma concat (h : Lifecycle debug past) (ha : exchange.Allowed debug past) :
    Lifecycle debug (past ++ [exchange]) := by
  intro earlier next hp
  obtain he | hp := List.prefix_concat_iff.mp hp
  · obtain ⟨hp, hn⟩ := List.append_inj' he rfl
    rw [hp, List.singleton_inj.mp hn]
    exact ha
  · exact h earlier next hp

/-- What is obeyed by all exchanges is obeyed by the first ones of them. -/
lemma of_isPrefix (h : Lifecycle debug exchanges) (hp : past <+: exchanges) :
    Lifecycle debug past :=
  fun earlier next hn => h earlier next (hn.trans hp)

/-- The first message that reaches the server is an introduction, and the only one. -/
theorem delivered_cons (h : Lifecycle debug past) :
    delivered past = [] ∨ ∃ snippets since,
      delivered past = .setUp snippets :: since ∧ ∀ later, .setUp later ∉ since := by
  induction past using List.reverseRecOn with
  | nil => exact .inl rfl
  | append_singleton past exchange ih =>
    have ha := h past exchange (List.prefix_refl _)
    replace ih := ih (h.of_isPrefix (List.prefix_append past [exchange]))
    rw [delivered_concat]
    cases hm : exchange.admitted with
    | none => simpa using ih
    | some message =>
      rw [Option.toList_some]
      obtain hn | ⟨snippets, since, hd, hs⟩ := ih
      · -- without an introduction nothing else gets through
        rw [hn, List.nil_append]
        right
        cases message with
        | setUp snippets => exact ⟨snippets, [], rfl, fun _ => List.not_mem_nil⟩
        | ready | shutDown | didOpen | didChange | didClose | completion =>
          obtain ⟨_, hi⟩ := ha.introduced _ hm nofun
          rw [hn] at hi
          exact absurd hi List.not_mem_nil
      · -- a second introduction would come after the first
        refine .inr ⟨snippets, since ++ [message], by rw [hd, List.cons_append], ?_⟩
        intro later hl
        obtain hl | hl := List.mem_append.mp hl
        · exact hs later hl
        · rw [← List.mem_singleton.mp hl] at hm
          apply ha.once later hm snippets
          rw [hd]
          exact List.mem_cons_self

end Lifecycle

namespace Trace

/-- Where the only introduction is the first trace, and there is no shutdown, the answer is the
catalog once. -/
lemma answer_concat_setUp {past : List Trace}
    (hs : ∀ trace ∈ past, trace.snippets? = none) (hd : .shutDown ∉ past) (snippets : Bool) :
    answer (past ++ [.setUp snippets]) =
      if language past = some "tuc" then some (Catalog.entries.map (Entry.item snippets))
      else none := by
  have hi : introductions (past ++ [.setUp snippets]) = 1 := by
    have hw : ∀ trace ∈ past, decide (trace ≠ .shutDown) = true := by
      intro trace ht
      exact decide_eq_true fun he => hd (he ▸ ht)
    have hc : past.countP (·.snippets?.isSome) = 0 :=
      List.countP_eq_zero.mpr fun trace ht => by simp [hs trace ht]
    rw [introductions, List.takeWhile_append_of_pos hw, List.countP_append, hc]
    rfl
  have hf : Trace.snippets (past ++ [.setUp snippets]) = snippets := by
    rw [Trace.snippets, List.findSome?_append, List.findSome?_eq_none_iff.mpr hs]
    rfl
  have hl : language (past ++ [.setUp snippets]) = language past := by
    rw [language, List.findSome?_append]
    cases h : past.findSome? language? <;> simp [language, h, language?]
  rw [answer, hi, hf, hl]
  simp

/-- Only an introduction leaves the trace of one. -/
lemma setUp_of_mem_ofHistory {uri : Uri} {history : List Message} {snippets : Bool}
    (h : .setUp snippets ∈ ofHistory uri history) : .setUp snippets ∈ history := by
  obtain ⟨message, hm, ht⟩ := List.mem_filterMap.mp (List.mem_reverse.mp h)
  cases message <;> simp_all [Message.trace?]

/-- Only a shutdown leaves the trace of one. -/
lemma shutDown_of_mem_ofHistory {uri : Uri} {history : List Message}
    (h : .shutDown ∈ ofHistory uri history) : .shutDown ∈ history := by
  obtain ⟨message, hm, ht⟩ := List.mem_filterMap.mp (List.mem_reverse.mp h)
  cases message <;> simp_all [Message.trace?]

/-- After a single introduction, and before the shutdown, the answer is the catalog once. -/
theorem answer_once (uri : Uri) {snippets : Bool} {since : List Message}
    (hs : ∀ later, .setUp later ∉ since) (hd : .shutDown ∉ since) :
    answer (ofHistory uri (.setUp snippets :: since)) =
      if language (ofHistory uri since) = some "tuc" then
        some (Catalog.entries.map (Entry.item snippets))
      else none := by
  rw [ofHistory_cons]
  apply answer_concat_setUp
  · intro trace ht
    cases trace with
    | setUp later => exact absurd (setUp_of_mem_ofHistory ht) (hs later)
    | opened | closed | shutDown => rfl
  · exact fun h => hd (shutDown_of_mem_ofHistory h)

end Trace

end TucServer
