import TucServer.Proofs.Registry.Store
import TucServer.Proofs.Server.Registrations

/-!
# The handles of the server

The handles that the server keeps are those of its live registrations, one for one and in the same
order, after every run of messages. The counter of the registry counts the introductions, so that
the numbers of the registrations are distinct as long as the counter can hold them.
-/

namespace TucServer

/-- Whether the message introduces the client. -/
def Message.isSetUp : Message → Bool
  | .setUp _ => true
  | _ => false

namespace Server

variable {server : Server} {ids : List Nat}

/-- A new text touches neither the registry nor the context. -/
lemma registry_didChange (uri : Uri) (texts : List String) (version : Int) :
    (server.didChange uri texts version).server.registry = server.registry ∧
      (server.didChange uri texts version).server.context = server.context := by
  rw [didChange]
  split <;> exact ⟨rfl, rfl⟩

/-- A message takes the next number of the registry if it sets the server up. -/
lemma nextId_handle (message : Message) :
    (server.handle message).server.registry.nextId =
      server.registry.nextId + if message.isSetUp then 1 else 0 := by
  cases message with
  | shutDown =>
    -- taking a registration back leaves the next number as it is
    have kept (id : Nat) (store : Store) : (store.unregister id).nextId = store.nextId := rfl
    exact server.context.deactivate_keeps kept server.registry
  | didChange uri texts version =>
    exact congrArg Store.nextId (registry_didChange uri texts version).1
  | _ => rfl

/-- The next number counts the introductions. -/
lemma nextId_run (history : List Message) :
    (server.run history).registry.nextId =
      server.registry.nextId + history.countP Message.isSetUp := by
  induction history generalizing server with
  | nil => rfl
  | cons message history ih =>
    show ((server.handle message).server.run history).registry.nextId = _
    rw [ih, nextId_handle, List.countP_cons]
    omega

/-- Every handle belongs to a registration after every history. -/
lemma Attached.run (h : server.Attached ids) (history : List Message) :
    ∃ after, (server.run history).Attached after := by
  induction history generalizing server ids with
  | nil => exact ⟨ids, h⟩
  | cons message history ih =>
    obtain ⟨after, ha, -⟩ := h.handle message
    exact ih ha

/-- The registry has as many registrations as there are handles. -/
lemma Attached.size (h : server.Attached ids) : server.registry.size = ids.length := by
  rw [Store.size, h.registrations, List.length_map]

/-- The context has as many handles as there are registrations. -/
lemma Attached.length_handles (h : server.Attached ids) :
    server.context.handles.length = ids.length := by
  rw [h.handles, List.length_map]

/-- The handles are those of the registrations, in the same order. -/
lemma Attached.map_pending (h : server.Attached ids) :
    server.context.handles.map Handle.pending =
      server.registry.registrations.map (some ·.id) := by
  rw [h.handles, h.registrations, List.map_map, List.map_map]
  rfl

/-- After every run with fewer introductions than the counter can tell apart, there are as many
handles as registrations, none of them disposed, and each is the handle of another registration, all
of which are of the keyword provider under the language of the catalog. An introduction adds one to
both, the shutdown leaves none of either, and any other message leaves both as they are. -/
theorem handles_match_registrations (debug : Bool) (history : List Message)
    (hc : history.countP Message.isSetUp < UInt64.size) :
    let server := (new debug).run history
    (server.context.handles.length = server.registry.size ∧
      (∀ handle ∈ server.context.handles, handle.isDisposed = false) ∧
      server.context.handles.map Handle.pending =
        server.registry.registrations.map (some ·.id) ∧
      ((server.registry.registrations.map (·.id)).map UInt64.ofNat).Nodup ∧
      ∀ r ∈ server.registry.registrations, r.language = "tuc" ∧ r.provider = Provider.keywords) ∧
    ∀ message,
      let next := (server.handle message).server
      match message with
      | .setUp _ =>
        next.registry.size = server.registry.size + 1 ∧
          next.context.handles.length = server.context.handles.length + 1
      | .shutDown => next.registry.size = 0 ∧ next.context.handles.length = 0
      | _ => next.registry = server.registry ∧ next.context = server.context := by
  intro server
  obtain ⟨ids, h⟩ : ∃ ids, server.Attached ids := (attached_new debug).run history
  have hn : server.registry.nextId = history.countP Message.isSetUp :=
    (nextId_run history).trans (Nat.zero_add _)
  refine ⟨⟨h.length_handles.trans h.size.symm, ?_, h.map_pending, ?_, ?_⟩, ?_⟩
  · rw [h.handles, List.forall_mem_map]
    intro id _
    rfl
  · apply nodup_map_uint64 server.registry.distinct
    rw [List.forall_mem_map]
    intro r hr
    exact Nat.lt_trans (hn ▸ server.registry.fresh r hr) hc
  · rw [h.registrations, List.forall_mem_map]
    intro id _
    exact ⟨rfl, rfl⟩
  · intro message
    cases message with
    | setUp snippets =>
      have hs := h.setUp snippets
      have hl : (ids ++ [server.registry.nextId]).length = ids.length + 1 := List.length_append
      refine ⟨?_, ?_⟩
      · rw [handle, hs.size, h.size, hl]
      · rw [handle, hs.length_handles, h.length_handles, hl]
    | shutDown => exact ⟨h.shutDown.size, h.shutDown.length_handles⟩
    | didChange uri texts version => exact registry_didChange uri texts version
    | _ => exact ⟨rfl, rfl⟩

/-- Two introductions after a shutdown that was asked for twice. -/
theorem handles_match_registrations_again :
    let history : List Message := [.setUp true, .setUp true, .shutDown, .shutDown, .setUp false,
      .didOpen (.ofNormal "a:") ⟨"if", "tuc", 7⟩, .setUp true]
    let server := (new false).run history
    history.countP Message.isSetUp < UInt64.size ∧
      server.registry.registrations.map (·.id) = [2, 3] ∧
      server.context.handles.map Handle.pending = [some 2, some 3] ∧
      (server.handle .shutDown).server.registry.size = 0 ∧
      (server.handle (.setUp true)).server.context.handles.length = 3 := by
  intro history server
  have hc : history.countP Message.isSetUp < UInt64.size := by decide
  have hr : server.registry.registrations.map (·.id) = [2, 3] := rfl
  obtain ⟨⟨hl, -, hp, -, -⟩, hm⟩ := handles_match_registrations false history hc
  have hs : server.context.handles.length = 2 := hl.trans rfl
  refine ⟨hc, hr, hp.trans rfl, (hm .shutDown).1, ?_⟩
  rw [(hm (.setUp true)).2, hs]

end Server

end TucServer
