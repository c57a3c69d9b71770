import Mathlib.Data.List.Induction
import TucServer.Proofs.Registry.Run

/-!
# Actions are run once

Over a run, the actions run are those of the handles that were disposed, each once, in the order of
their first disposal, and an event runs the actions of those handles among the ones it disposes that
were not disposed before (`released_once`). A handle shows that it is disposed from then on,
wherever it is. Deactivation empties its context and no other, and a second one has nothing left to
do.
-/

namespace TucServer

/-- No element is left twice. -/
lemma nodup_eraseDups (serials : List Nat) : serials.eraseDups.Nodup := by
  induction serials using List.reverseRecOn with
  | nil => exact List.nodup_nil
  | append_singleton serials serial ih =>
    rw [eraseDups_concat]
    split
    · rwa [List.append_nil]
    · rename_i h
      rw [List.nodup_append]
      refine ⟨ih, List.nodup_singleton serial, ?_⟩
      intro other ho last hl he
      rw [List.mem_singleton.mp hl] at he
      exact h (he ▸ List.mem_eraseDups.mp ho)

/-- Without repetitions nothing is left out. -/
lemma eraseDups_of_nodup {serials : List Nat} (h : serials.Nodup) :
    serials.eraseDups = serials := by
  induction serials with
  | nil => rfl
  | cons serial serials ih =>
    obtain ⟨hn, ht⟩ := List.nodup_cons.mp h
    have hf : serials.filter (fun other => !other == serial) = serials := by
      rw [List.filter_eq_self]
      intro other ho
      simpa using fun he : other = serial => hn (he ▸ ho)
    rw [List.eraseDups_cons, hf, ih ht]

/-- What is appended without repetition is kept where it is new. -/
lemma eraseDups_append_of_nodup (earlier : List Nat) {later : List Nat} (h : later.Nodup) :
    (earlier ++ later).eraseDups = earlier.eraseDups ++ later.filter (· ∉ earlier) := by
  have hf : later.removeAll earlier = later.filter (· ∉ earlier) := by
    simp [List.removeAll]
  rw [List.eraseDups_append, hf, eraseDups_of_nodup (h.filter _)]

namespace World

variable {world : World}

/-- An action does nothing to the contexts. -/
lemma contexts_release (action : Release) (world : World) :
    (world.release action).contexts = world.contexts := by
  cases action <;> rfl

/-- An action is noted behind those run before. -/
lemma released_release (action : Release) :
    (world.release action).released = world.released ++ [action] := by
  cases action <;> rfl

/-- Disposing handles, the last one first, runs the actions that are still to be run. -/
lemma released_foldr (handles : List (Handle Release)) (world : World) :
    (handles.foldr (fun handle world => (handle.dispose release world).2) world).released =
      world.released ++ handles.reverse.filterMap (·.pending) := by
  induction handles with
  | nil => simp
  | cons handle handles ih =>
    rw [List.foldr_cons, List.reverse_cons, List.filterMap_append, ← List.append_assoc, ← ih]
    obtain ⟨pending⟩ := handle
    cases pending with
    | none => simp [Handle.dispose]
    | some action => exact released_release action

/-- Deactivating a context runs what its handles have still to run, and empties it. -/
lemma after_deactivate {number : Nat} {context : Context Release}
    (h : world.contexts[number]? = some context) :
    (world.after (.deactivate number)).released =
        world.released ++ context.handles.reverse.filterMap (·.pending) ∧
      (world.after (.deactivate number)).contexts = world.contexts.set number Context.empty := by
  simp only [after, perform, h]
  refine ⟨released_foldr context.handles world, ?_⟩
  exact congrArg (·.set number Context.empty) (context.deactivate_keeps contexts_release world)

/-- Deactivating an empty context does nothing. -/
lemma after_deactivate_empty {number : Nat} (h : world.contexts[number]? = some Context.empty) :
    world.after (.deactivate number) = world := by
  have hs : world.contexts.set number Context.empty = world.contexts := by
    obtain ⟨hl, he⟩ := List.getElem?_eq_some_iff.mp h
    rw [← he, List.set_getElem_self]
  simp only [after, perform, h]
  exact World.ext rfl rfl rfl hs rfl

end World

namespace Ledger

variable {ledger : Ledger}

/-- The actions run are those of the disposed handles. -/
lemma Sound.map_released (h : ledger.Sound) :
    ledger.world.released.map some = ledger.disposals.eraseDups.map ledger.action? := by
  rw [world, List.map_filterMap, ← List.filterMap_eq_map']
  apply List.filterMap_congr
  intro serial hs
  have hl := h.disposals serial (List.mem_eraseDups.mp hs)
  simp [action?, List.getElem?_eq_getElem hl]

/-- A handle shows that it is disposed if and only if it was. -/
lemma isDisposed_handle {serial : Nat} (h : serial < ledger.issued.length) :
    (ledger.handle serial).isDisposed = ledger.isDisposed serial := by
  rw [Handle.isDisposed, handle, isDisposed]
  split
  · rename_i hm
    simp [hm]
  · rename_i hm
    simp [hm, action?, List.getElem?_eq_getElem h]

/-- No event disposes a handle twice, since no handle is in two places. -/
lemma Sound.nodup_disposedBy (h : ledger.Sound) (event : Event) :
    (ledger.disposedBy event).Nodup := by
  cases event with
  | dispose slot =>
    rw [disposedBy]
    cases ledger.serial? slot with
    | none => exact List.nodup_nil
    | some serial => exact List.nodup_singleton serial
  | deactivate context =>
    rw [disposedBy, List.nodup_reverse]
    cases hh : ledger.contexts[context]? with
    | none => exact List.nodup_nil
    | some held => exact ((perm_placed_context hh).nodup h.nodup).of_append_left
  | _ => exact List.nodup_nil

/-- Moving handles disposes nothing. -/
lemma disposals_move (event : Event) : (ledger.move event).disposals = ledger.disposals := by
  cases event with
  | cloneRegistry | register | push =>
    simp only [move]
    split <;> rfl
  | activate =>
    simp only [move]
    split
    · exact disposals_issueToContext ..
    · rfl
  | activateNoting => exact disposals_issueToContext ..
  | _ => rfl

/-- An event runs the actions of those handles it disposes that were not disposed before. -/
lemma Sound.map_released_after (h : ledger.Sound) (event : Event) :
    (ledger.after event).world.released.map some =
      ledger.world.released.map some ++
        ((ledger.disposedBy event).filter (· ∉ ledger.disposals)).map ledger.action? := by
  have ha : ∀ serial < ledger.issued.length,
      (ledger.after event).action? serial = ledger.action? serial :=
    fun serial hs => action?_of_isPrefix (issued_move event) hs
  have hd : (ledger.after event).disposals = ledger.disposals ++ ledger.disposedBy event :=
    congrArg (· ++ ledger.disposedBy event) (disposals_move event)
  -- the ledger after the event tells the same actions of the handles that there were before it
  rw [(h.after event).map_released, h.map_released, hd,
    eraseDups_append_of_nodup _ (h.nodup_disposedBy event), List.map_append]
  congr 1
  · apply List.map_congr_left
    intro serial hs
    exact ha serial (h.disposals serial (List.mem_eraseDups.mp hs))
  · apply List.map_congr_left
    intro serial hs
    exact ha serial (h.disposedBy_lt event serial (List.mem_of_mem_filter hs))

/-- The handle in a slot shows whether it was disposed. -/
lemma Sound.isDisposed_slot (h : ledger.Sound) (slot : Nat) :
    (ledger.world.handle? slot).map Handle.isDisposed =
      (ledger.serial? slot).map ledger.isDisposed := by
  rw [handle?_world]
  cases hs : ledger.serial? slot with
  | none => rfl
  | some serial => exact congrArg some (isDisposed_handle (h.of_mem_slots hs))

/-- The handles in a context show whether they were disposed. -/
lemma Sound.isDisposed_context (h : ledger.Sound) (context : Nat) :
    ledger.world.contexts[context]?.map (·.handles.map Handle.isDisposed) =
      ledger.contexts[context]?.map (List.map ledger.isDisposed) := by
  rw [getElem?_contexts]
  cases hc : ledger.contexts[context]? with
  | none => rfl
  | some held =>
    have hm : (held.map ledger.handle).map Handle.isDisposed = held.map ledger.isDisposed := by
      rw [List.map_map]
      apply List.map_congr_left
      intro serial hs
      exact isDisposed_handle (h.of_mem_context (List.mem_of_getElem? hc) hs)
    exact congrArg some hm

end Ledger

/-- After every run, the actions run are those of the handles that were disposed, each once and in
the order of first disposal; in slots and in contexts, the handles shown as disposed are those that
were; the next event runs the actions of the handles that it disposes for the first time, a context
giving the one pushed last first; and deactivation runs what the handles of its own context have
still to run, the one pushed last first, empties this context and no other, and does nothing when it
is repeated. -/
theorem World.released_once (events : List Event) :
    let ledger := Ledger.empty.run events
    let world := World.empty.run events
    (world.released.map some = ledger.disposals.eraseDups.map ledger.action? ∧
        ledger.disposals.eraseDups.Nodup) ∧
      (∀ slot, (world.handle? slot).map Handle.isDisposed =
        (ledger.serial? slot).map ledger.isDisposed) ∧
      (∀ number : Nat, world.contexts[number]?.map
          (fun context : Context Release => context.handles.map Handle.isDisposed) =
        ledger.contexts[number]?.map (List.map ledger.isDisposed)) ∧
      (∀ event, (world.after event).released.map some = world.released.map some ++
        ((ledger.disposedBy event).filter (· ∉ ledger.disposals)).map ledger.action?) ∧
      ∀ number context, world.contexts[number]? = some context →
        (world.after (.deactivate number)).released =
            world.released ++ context.handles.reverse.filterMap Handle.pending ∧
          (world.after (.deactivate number)).contexts =
            world.contexts.set number Context.empty ∧
          (world.after (.deactivate number)).after (.deactivate number) =
            world.after (.deactivate number) := by
  intro ledger world
  have hs : ledger.Sound := Ledger.sound_empty.run events
  have hw : world = ledger.world := Ledger.run_eq_world events
  rw [hw]
  refine ⟨⟨hs.map_released, nodup_eraseDups _⟩, hs.isDisposed_slot, hs.isDisposed_context, ?_, ?_⟩
  · intro event
    rw [hs.world_after event]
    exact hs.map_released_after event
  · intro number context hc
    obtain ⟨hr, he⟩ := after_deactivate hc
    refine ⟨hr, he, after_deactivate_empty ?_⟩
    rw [he, List.getElem?_set_self (List.getElem?_eq_some_iff.mp hc).1]

/-- A handle that is disposed twice before it is pushed between two others runs its action once, and
nothing on deactivation. The handle in the other context is left alone. -/
theorem World.released_once_pushed :
    let events : List Event := [.newContext, .newContext, .newHandle "a", .newHandle "b",
      .newHandle "c", .newHandle "d", .dispose 1, .dispose 1, .push 0 0, .push 1 0, .push 2 0,
      .push 3 1]
    let world := World.empty.run events
    world.contexts[0]? =
        some ⟨[Handle.new (.signal "a"), ⟨none⟩, Handle.new (.signal "c")]⟩ ∧
      (world.after (.deactivate 0)).released = [.signal "b", .signal "c", .signal "a"] ∧
      (world.after (.deactivate 0)).contexts =
        [Context.empty, ⟨[Handle.new (.signal "d")]⟩] ∧
      (world.after (.deactivate 0)).after (.deactivate 0) = world.after (.deactivate 0) := by
  intro events world
  have hc : world.contexts[0]? =
      some ⟨[Handle.new (.signal "a"), ⟨none⟩, Handle.new (.signal "c")]⟩ := by
    decide +kernel
  obtain ⟨-, -, -, -, hd⟩ := released_once events
  obtain ⟨hr, he, ha⟩ := hd 0 _ hc
  refine ⟨hc, ?_, ?_, ha⟩
  · have hw : world.released = [.signal "b"] := by decide +kernel
    rw [hr, hw]
    rfl
  · have hw : world.contexts.set 0 Context.empty =
        [Context.empty, ⟨[Handle.new (.signal "d")]⟩] := by
      decide +kernel
    rw [he, hw]

end TucServer
