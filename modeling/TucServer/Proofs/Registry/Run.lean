import TucServer.Proofs.Registry.Effect

/-!
# The world after a run

The world after an event is the one that the ledger describes after it (`Sound.world_after`), and so
is the world after a run (`run_eq_world`).
-/

namespace TucServer

/-- What is empty, or not there at all, can be emptied. -/
lemma set_none_of_join {α : Type} {places : List (Option α)} {place : Nat}
    (h : places[place]?.join = none) : places.set place none = places := by
  apply List.ext_getElem?
  intro other
  rw [List.getElem?_set]
  split
  · rename_i he
    subst he
    cases hp : places[place]? with
    | none => simp [List.getElem?_eq_none_iff.mp hp]
    | some content =>
      rw [hp] at h
      cases h
      simp [(List.getElem?_eq_some_iff.mp hp).1]
  · rfl

namespace Ledger

variable {ledger : Ledger}

/-- An event that disposes nothing only moves. -/
lemma after_eq_move {event : Event} (h : ledger.disposedBy event = []) :
    ledger.after event = ledger.move event := by
  rw [after, h, dispose_nil]

/-! ### Registries -/

/-- Nothing was registered with a store that is still to come. -/
lemma Sound.storeAt_stores (h : ledger.Sound) : ledger.storeAt ledger.stores = Store.empty := by
  have hr : ∀ serial, ledger.registration? ledger.stores serial = none := by
    intro serial
    cases hi : ledger.issued[serial]? with
    | none => simp [registration?, hi]
    | some content =>
      have hn := h.issued content (List.mem_of_getElem? hi) ledger.stores
      simpa [registration?, hi] using hn
  have hu : ledger.undisposed.filterMap (ledger.numbered? ledger.stores) = [] :=
    List.filterMap_eq_nil_iff.mpr fun serial _ => by simp [numbered?, hr]
  have hn : ledger.number ledger.stores ledger.issued.length = 0 :=
    List.countP_eq_zero.mpr fun serial _ => by simp [hr]
  exact Store.ext hu hn

/-- A new registry refers to a new store, in which nothing is registered. -/
lemma Sound.after_newRegistry (h : ledger.Sound) :
    ledger.world.after .newRegistry = (ledger.after .newRegistry).world := by
  have hs : ledger.world.stores ++ [Store.empty] =
      (List.range (ledger.stores + 1)).map ledger.storeAt := by
    rw [List.range_succ, List.map_append, List.map_singleton, h.storeAt_stores]
    rfl
  have hl : ledger.world.stores.length = ledger.stores := by
    simp [world]
  rw [after_eq_move rfl]
  exact World.ext hs (congrArg (ledger.registries ++ [some ·]) hl) rfl rfl rfl

/-- A clone refers to the store of its original. -/
lemma after_cloneRegistry (registry : Nat) :
    ledger.world.after (.cloneRegistry registry) =
      (ledger.after (.cloneRegistry registry)).world := by
  rw [after_eq_move rfl]
  simp only [World.after, World.perform, move]
  cases hs : ledger.store? registry with
  | none =>
    rw [ledger.inRange.find?_eq_none hs, ledger.world.inRange.find?_eq_none hs]
  | some store =>
    rw [ledger.inRange.find?_eq_some hs, ledger.world.inRange.find?_eq_some hs]
    rfl

/-- A registry that is dropped refers to no store any more, and its store stays. -/
lemma after_dropRegistry (registry : Nat) :
    ledger.world.after (.dropRegistry registry) =
      (ledger.after (.dropRegistry registry)).world := by
  rw [after_eq_move rfl]
  simp only [World.after, World.perform, move, storeOf?_world]
  cases hs : ledger.store? registry with
  | some store => rfl
  | none =>
    have hn : ledger.registries.set registry none = ledger.registries :=
      set_none_of_join hs
    exact World.ext rfl hn.symm rfl rfl rfl

/-! ### Handles -/

/-- The world with a handle issued to a new slot. -/
lemma Sound.world_issueToSlot (h : ledger.Sound) (content : Issue) :
    (ledger.issueToSlot content).world =
      ((ledger.issue content).world.addHandle
        (Handle.new (ledger.nextAction ledger.issued.length content))).2 := by
  have hs : (ledger.slots ++ [some ledger.issued.length]).map
        (·.map (ledger.issue content).handle) =
      (ledger.issue content).world.handles ++
        [some (Handle.new (ledger.nextAction ledger.issued.length content))] := by
    rw [List.map_append, List.map_singleton, Option.map_some, h.handle_issue_new]
    rfl
  exact World.ext rfl rfl hs rfl rfl

/-- A registration is seen in its store, and its handle in a new slot. -/
lemma Sound.after_register (h : ledger.Sound) (registry : Nat) (language : String)
    (provider : Provider) :
    ledger.world.after (.register registry language provider) =
      (ledger.after (.register registry language provider)).world := by
  rw [after_eq_move rfl]
  simp only [World.after, World.perform, Ledger.move]
  cases hs : ledger.store? registry with
  | none =>
    rw [ledger.world.inRange.find?_eq_none hs]
  | some store =>
    have hr := h.host_register (ledger.inRange.lt hs) language provider
    rw [worldWith] at hr
    simp only [ledger.world.inRange.find?_eq_some hs, hr, h.world_issueToSlot]
    rfl

/-- A handle for a signal is seen in a new slot only. -/
lemma Sound.after_newHandle (h : ledger.Sound) (tag : String) :
    ledger.world.after (.newHandle tag) = (ledger.after (.newHandle tag)).world := by
  rw [after_eq_move rfl]
  show _ = (ledger.issueToSlot (.signal tag)).world
  rw [h.world_issueToSlot, h.world_issue_signal]
  rfl

/-- A handle that is dropped leaves its slot, and its action is not run. -/
lemma after_dropHandle (slot : Nat) :
    ledger.world.after (.dropHandle slot) = (ledger.after (.dropHandle slot)).world := by
  rw [after_eq_move rfl]
  simp only [World.after, World.perform, move, handle?_world]
  cases hs : ledger.serial? slot with
  | some serial =>
    have hm : ledger.world.handles.set slot none =
        (ledger.slots.set slot none).map (·.map ledger.handle) := by
      simp [world, List.map_set]
    exact World.ext rfl rfl hm rfl rfl
  | none =>
    have hn : ledger.slots.set slot none = ledger.slots := set_none_of_join hs
    rw [hn]
    rfl

/-- The disposal of a handle in a slot is seen in this slot only. -/
lemma Sound.world_dispose_slot (h : ledger.Sound) {slot serial : Nat}
    (hs : ledger.serial? slot = some serial) :
    (ledger.dispose [serial]).world =
      ((ledger.dispose [serial]).imprint ledger.world).setHandle slot
        (some ((ledger.dispose [serial]).handle serial)) := by
  have hp := (perm_placed_slot hs).nodup h.nodup
  have he : ∀ other ∈ Ledger.placed { ledger with slots := ledger.slots.set slot none },
      (ledger.dispose [serial]).handle other = ledger.handle other := by
    intro other ho
    apply handle_dispose_of_notMem
    intro hs
    rw [List.mem_singleton.mp hs] at ho
    exact (List.nodup_cons.mp hp).1 ho
  obtain ⟨hm, hc⟩ := map_placed_congr he
  have hk : (ledger.slots.set slot none).set slot (some serial) = ledger.slots := by
    rw [serial?, Option.join_eq_some_iff] at hs
    obtain ⟨hl, hg⟩ := List.getElem?_eq_some_iff.mp hs
    rw [List.set_set, ← hg, List.set_getElem_self]
  -- the handle is taken out of its slot, and put back disposed
  have hh : ledger.slots.map (·.map (ledger.dispose [serial]).handle) =
      ledger.world.handles.set slot (some ((ledger.dispose [serial]).handle serial)) := by
    calc ledger.slots.map (·.map (ledger.dispose [serial]).handle)
      _ = ((ledger.slots.set slot none).set slot (some serial)).map
          (·.map (ledger.dispose [serial]).handle) := by
        rw [hk]
      _ = ((ledger.slots.set slot none).map (·.map (ledger.dispose [serial]).handle)).set slot
          (some ((ledger.dispose [serial]).handle serial)) := List.map_set
      _ = ((ledger.slots.set slot none).map (·.map ledger.handle)).set slot
          (some ((ledger.dispose [serial]).handle serial)) := by
        rw [hm]
      _ = ledger.world.handles.set slot (some ((ledger.dispose [serial]).handle serial)) := by
        rw [List.map_set, List.set_set]
        rfl
  exact World.ext rfl rfl hh hc rfl

/-- A disposal is seen in the stores, among the actions run, and in the slot of the handle. -/
lemma Sound.after_dispose (h : ledger.Sound) (slot : Nat) :
    ledger.world.after (.dispose slot) = (ledger.after (.dispose slot)).world := by
  simp only [World.after, World.perform, handle?_world, Ledger.after, Ledger.move,
    Ledger.disposedBy]
  cases hs : ledger.serial? slot with
  | none => simp
  | some serial =>
    have hd : (ledger.handle serial).dispose World.release ledger.world = _ :=
      dispose_handle (h.of_mem_slots hs) ledger.world
    simp only [Option.map_some, Option.toList_some, hd, h.world_dispose_slot hs]

/-! ### Contexts -/

/-- A new context is empty. -/
lemma after_newContext : ledger.world.after .newContext = (ledger.after .newContext).world := by
  rw [after_eq_move rfl]
  have hm : ledger.world.contexts ++ [Context.empty] =
      (ledger.contexts ++ [[]]).map ledger.contextOf := by
    rw [List.map_append]
    rfl
  exact World.ext rfl rfl rfl hm rfl

/-- A handle that is pushed leaves its slot for the end of the context. -/
lemma after_push (slot context : Nat) :
    ledger.world.after (.push slot context) = (ledger.after (.push slot context)).world := by
  rw [after_eq_move rfl]
  simp only [World.after, World.perform, move, handle?_world, getElem?_contexts]
  cases hc : ledger.contexts[context]? with
  | none => rfl
  | some held =>
    cases hs : ledger.serial? slot with
    | none => rfl
    | some serial =>
      have hh : ledger.world.handles.set slot none =
          (ledger.slots.set slot none).map (·.map ledger.handle) := by
        simp [world, List.map_set]
      have hp : ledger.world.contexts.set context
            ((ledger.contextOf held).push (ledger.handle serial)) =
          (ledger.contexts.set context (held ++ [serial])).map ledger.contextOf := by
        simp [world, List.map_set, contextOf, Context.push]
      exact World.ext rfl rfl hh hp rfl

/-- The world with a handle issued to a context. -/
lemma Sound.world_issueToContext (h : ledger.Sound) (content : Issue) {context : Nat}
    {held : List Nat} (hc : ledger.contexts[context]? = some held) :
    (ledger.issueToContext content context).world =
      (ledger.issue content).world.setContext context ((ledger.contextOf held).push
        (Handle.new (ledger.nextAction ledger.issued.length content))) := by
  have hk : (ledger.issue content).contextOf held = ledger.contextOf held := by
    apply congrArg Context.mk
    apply List.map_congr_left
    intro serial hs
    exact handle_issue content (h.of_mem_context (List.mem_of_getElem? hc) hs)
  have hm : (ledger.contexts.set context (held ++ [ledger.issued.length])).map
        (ledger.issue content).contextOf =
      (ledger.issue content).world.contexts.set context ((ledger.contextOf held).push
        (Handle.new (ledger.nextAction ledger.issued.length content))) := by
    rw [List.map_set, ← hk, ← h.handle_issue_new]
    simp only [contextOf, Context.push, List.map_append, List.map_singleton]
    rfl
  rw [Ledger.issueToContext, hc]
  exact World.ext rfl rfl rfl hm rfl

/-- An activation registers the keyword provider, and its handle is seen at the end of the context.
-/
lemma Sound.after_activate (h : ledger.Sound) (registry context : Nat) :
    ledger.world.after (.activate registry context) =
      (ledger.after (.activate registry context)).world := by
  rw [after_eq_move rfl]
  simp only [World.after, World.perform, Ledger.move, getElem?_contexts]
  cases hs : ledger.store? registry with
  | none =>
    rw [ledger.world.inRange.find?_eq_none hs]
  | some store =>
    rw [ledger.world.inRange.find?_eq_some hs]
    cases hc : ledger.contexts[context]? with
    | none =>
      simp only [Ledger.issueToContext, hc]
      rfl
    | some held =>
      have hr := h.host_register (ledger.inRange.lt hs) Catalog.language Provider.keywords
      rw [worldWith] at hr
      simp only [h.world_issueToContext _ hc, TucServer.activate, Option.map_some, hr]
      rfl

/-- An activation of a host that only takes notes is seen in the context only. -/
lemma Sound.after_activateNoting (h : ledger.Sound) (context : Nat) :
    ledger.world.after (.activateNoting context) =
      (ledger.after (.activateNoting context)).world := by
  rw [after_eq_move rfl]
  simp only [World.after, World.perform, Ledger.move, getElem?_contexts]
  cases hc : ledger.contexts[context]? with
  | none =>
    simp only [Ledger.issueToContext, hc]
    rfl
  | some held =>
    simp only [h.world_issueToContext _ hc, h.world_issue_signal]
    rfl

/-- A deactivation is seen in the stores, among the actions run, and in its own context. -/
lemma Sound.after_deactivate (h : ledger.Sound) (context : Nat) :
    ledger.world.after (.deactivate context) = (ledger.after (.deactivate context)).world := by
  simp only [World.after, World.perform, getElem?_contexts, Ledger.after, Ledger.move,
    Ledger.disposedBy]
  cases hc : ledger.contexts[context]? with
  | none =>
    rw [List.set_eq_of_length_le (List.getElem?_eq_none_iff.mp hc)]
    simp
  | some held =>
    -- its handles are nowhere else, so that nothing else shows their disposal
    have hp := (perm_placed_context hc).nodup h.nodup
    obtain ⟨hn, -, hd⟩ := List.nodup_append.mp hp
    have hb : ∀ serial ∈ held, serial < ledger.issued.length :=
      fun serial hs => h.of_mem_context (List.mem_of_getElem? hc) hs
    have hf : (held.map ledger.handle).foldr
        (fun handle world => (handle.dispose World.release world).2) ledger.world = _ :=
      dispose_handles hb hn ledger.world
    have hg : ∀ serial ∈ Ledger.placed { ledger with contexts := ledger.contexts.set context [] },
        serial ∉ held.reverse := by
      intro serial hs hm
      exact hd serial (List.mem_reverse.mp hm) serial hs rfl
    simp only [Option.map_some, Option.getD_some, Context.deactivate, contextOf, hf,
      world_dispose hg]
    have hm : ledger.world.contexts.set context Context.empty =
        (ledger.contexts.set context []).map ledger.contextOf := by
      rw [List.map_set]
      rfl
    exact World.ext rfl rfl rfl hm rfl

/-! ### All events -/

/-- The ledger goes along with the world in every event, whatever the event is and whether or not it
finds what it refers to. -/
theorem Sound.world_after (h : ledger.Sound) (event : Event) :
    ledger.world.after event = (ledger.after event).world := by
  cases event with
  | newRegistry => exact h.after_newRegistry
  | cloneRegistry registry => exact after_cloneRegistry registry
  | dropRegistry registry => exact after_dropRegistry registry
  | register registry language provider => exact h.after_register registry language provider
  | newHandle tag => exact h.after_newHandle tag
  | dispose slot => exact h.after_dispose slot
  | dropHandle slot => exact after_dropHandle slot
  | newContext => exact after_newContext
  | push slot context => exact after_push slot context
  | activate registry context => exact h.after_activate registry context
  | activateNoting context => exact h.after_activateNoting context
  | deactivate context => exact h.after_deactivate context
  | inspect slot =>
    rw [after_eq_move rfl]
    simp only [World.after, World.perform, Ledger.move]
    cases ledger.world.handle? slot <;> rfl
  | inspectContext context =>
    rw [after_eq_move rfl]
    simp only [World.after, World.perform, Ledger.move]
    cases ledger.world.contexts[context]? <;> rfl
  | providersFor registry | entriesFor registry | inspectRegistry registry =>
    rw [after_eq_move rfl]
    simp only [World.after, World.perform, Ledger.move]
    cases ledger.world.store? registry <;> rfl

/-- The ledger goes along with the world over a whole run, since every event keeps it sound. -/
theorem Sound.world_run (h : ledger.Sound) (events : List Event) :
    ledger.world.run events = (ledger.run events).world := by
  induction events generalizing ledger with
  | nil => rfl
  | cons event events ih =>
    show (ledger.world.after event).run events = _
    rw [h.world_after event]
    exact ih (h.after event)

/-- From the beginning on, the world after a run is the one that the ledger of the run describes. -/
theorem run_eq_world (events : List Event) :
    World.empty.run events = (empty.run events).world :=
  sound_empty.world_run events

end Ledger

end TucServer
