import Mathlib.Data.List.Perm.Basic
import Mathlib.Data.List.Nodup
import TucServer.Proofs.Registry.Ledger

/-!
# Every handle is in one place

A handle is in one slot, or at one place in one context, or gone: an event issues a handle to a
place of its own, moves a handle, or loses handles. `Ledger.Sound` says so by the list of all
handles that are somewhere (`Ledger.placed`), which has no repetitions, and that the ledger only
speaks of stores and handles that there are. `Sound.after` is the step and `Sound.run` the run.
-/

namespace TucServer

/-- What stands at one place among lists can be taken out of them. -/
lemma perm_flatten_set {α : Type} (lists : List (List α)) {place : Nat}
    (h : place < lists.length) (content : List α) :
    (lists.set place content).flatten.Perm (content ++ (lists.set place []).flatten) := by
  induction lists generalizing place with
  | nil => exact absurd h (Nat.not_lt_zero _)
  | cons list lists ih =>
    cases place with
    | zero => simp
    | succ place =>
      simp only [List.set_cons_succ, List.flatten_cons]
      exact ((ih (Nat.lt_of_succ_lt_succ h)).append_left list).trans
        (List.perm_append_comm_assoc _ _ _)

/-- One of the lists can be taken out in front of the others. -/
lemma perm_flatten_of_getElem? {α : Type} {lists : List (List α)} {place : Nat} {content : List α}
    (h : lists[place]? = some content) :
    lists.flatten.Perm (content ++ (lists.set place []).flatten) := by
  obtain ⟨hl, rfl⟩ := List.getElem?_eq_some_iff.mp h
  have hp := perm_flatten_set lists hl lists[place]
  rwa [List.set_getElem_self] at hp

/-- One more element at the end of one of the lists. -/
lemma perm_flatten_push {α : Type} {lists : List (List α)} {place : Nat} {content : List α}
    (h : lists[place]? = some content) (element : α) :
    (lists.set place (content ++ [element])).flatten.Perm (element :: lists.flatten) := by
  have hl := (List.getElem?_eq_some_iff.mp h).1
  apply (perm_flatten_set lists hl (content ++ [element])).trans
  rw [List.append_assoc]
  exact List.perm_middle.trans ((perm_flatten_of_getElem? h).symm.cons element)

namespace Ledger

/-- The handles in slots and in contexts. -/
def placed (ledger : Ledger) : List Nat :=
  (ledger.slots.map Option.toList).flatten ++ ledger.contexts.flatten

variable {ledger : Ledger}

/-- What is in a slot can be taken out of it. -/
lemma perm_slots {slot : Nat} {content : Option Nat} (hs : ledger.slots[slot]? = some content) :
    (ledger.slots.map Option.toList).flatten.Perm
      (content.toList ++ ((ledger.slots.set slot none).map Option.toList).flatten) := by
  have hp : (ledger.slots.map Option.toList)[slot]? = some content.toList := by
    simp [hs]
  simpa [List.map_set] using perm_flatten_of_getElem? hp

/-- Taking a handle out of its slot. -/
lemma perm_placed_slot {slot serial : Nat} (hs : ledger.serial? slot = some serial) :
    ledger.placed.Perm (serial :: placed { ledger with slots := ledger.slots.set slot none }) := by
  rw [serial?, Option.join_eq_some_iff] at hs
  exact (perm_slots hs).append_right _

/-- Taking all handles out of a context. -/
lemma perm_placed_context {context : Nat} {held : List Nat}
    (hh : ledger.contexts[context]? = some held) :
    ledger.placed.Perm
      (held ++ placed { ledger with contexts := ledger.contexts.set context [] }) :=
  ((perm_flatten_of_getElem? hh).append_left _).trans (List.perm_append_comm_assoc _ _ _)

/-- The stores and handles that the ledger speaks of are there, and no handle is in two places. -/
structure Sound (ledger : Ledger) : Prop where
  issued : ∀ content ∈ ledger.issued, ∀ store, (content.registration? store).isSome →
    store < ledger.stores
  disposals : ∀ serial ∈ ledger.disposals, serial < ledger.issued.length
  placed : ∀ serial ∈ ledger.placed, serial < ledger.issued.length
  nodup : ledger.placed.Nodup

/-- Before the first event there is nothing to be in two places. -/
lemma sound_empty : empty.Sound :=
  ⟨nofun, nofun, nofun, .nil⟩

/-- Moving handles, or losing them, keeps them in one place each. -/
lemma Sound.of_perm {next : Ledger} (h : ledger.Sound) (hs : next.stores = ledger.stores)
    (hi : next.issued = ledger.issued) (hd : next.disposals = ledger.disposals) (lost : List Nat)
    (hp : ledger.placed.Perm (lost ++ next.placed)) : next.Sound where
  issued := hi ▸ hs ▸ h.issued
  disposals := hi ▸ hd ▸ h.disposals
  placed := by
    intro serial hm
    rw [hi]
    exact h.placed serial (hp.symm.subset (List.mem_append_right lost hm))
  nodup := (hp.nodup h.nodup).of_append_right

/-- A new handle is in a place of its own. -/
lemma Sound.issue {next : Ledger} (h : ledger.Sound) (content : Issue)
    (hc : ∀ store, (content.registration? store).isSome → store < ledger.stores)
    (hs : next.stores = ledger.stores) (hi : next.issued = ledger.issued ++ [content])
    (hd : next.disposals = ledger.disposals)
    (hp : next.placed.Perm (ledger.issued.length :: ledger.placed)) : next.Sound := by
  have hl : next.issued.length = ledger.issued.length + 1 := by
    simp [hi]
  refine ⟨?_, ?_, ?_, ?_⟩
  · intro other ho
    rw [hs]
    rcases List.mem_append.mp (hi ▸ ho) with ho | ho
    · exact h.issued other ho
    · rw [List.mem_singleton.mp ho]
      exact hc
  · intro serial hm
    rw [hl]
    exact Nat.lt_succ_of_lt (h.disposals serial (hd ▸ hm))
  · intro serial hm
    rw [hl]
    rcases List.mem_cons.mp (hp.subset hm) with rfl | hm
    · exact Nat.lt_succ_self _
    · exact Nat.lt_succ_of_lt (h.placed serial hm)
  · rw [hp.nodup_iff, List.nodup_cons]
    exact ⟨fun hm => Nat.lt_irrefl _ (h.placed _ hm), h.nodup⟩

/-- A handle may be issued to a new slot. -/
lemma Sound.issueToSlot (h : ledger.Sound) (content : Issue)
    (hc : ∀ store, (content.registration? store).isSome → store < ledger.stores) :
    (ledger.issueToSlot content).Sound := by
  refine h.issue content hc rfl rfl rfl ?_
  simp only [Ledger.placed, Ledger.issueToSlot, Ledger.issue, List.map_append, List.map_cons,
    List.map_nil, Option.toList_some, List.flatten_append, List.flatten_cons, List.flatten_nil,
    List.append_assoc]
  exact List.perm_middle

/-- A handle may be issued to a context. -/
lemma Sound.issueToContext (h : ledger.Sound) (content : Issue)
    (hc : ∀ store, (content.registration? store).isSome → store < ledger.stores) (context : Nat) :
    (ledger.issueToContext content context).Sound := by
  rw [Ledger.issueToContext]
  split
  · rename_i held hh
    refine h.issue content hc rfl rfl rfl ?_
    exact ((perm_flatten_push hh _).append_left _).trans List.perm_middle
  · exact h

/-- A registration through a registry is with a store that there is. -/
lemma lt_of_registration? {registry store : Nat}
    (hs : ledger.store? registry = some store) (language : String) (provider : Provider)
    (other : Nat) (ho : ((Issue.registration store language provider).registration? other).isSome) :
    other < ledger.stores := by
  rw [Issue.registration?] at ho
  split at ho
  · rename_i he
    exact he ▸ ledger.inRange.lt hs
  · cases ho

/-- A handle may be moved from its slot to a context. -/
lemma Sound.push (h : ledger.Sound) {slot context serial : Nat} {held : List Nat}
    (hh : ledger.contexts[context]? = some held) (hs : ledger.serial? slot = some serial) :
    Sound { ledger with
      slots := ledger.slots.set slot none
      contexts := ledger.contexts.set context (held ++ [serial]) } := by
  refine h.of_perm rfl rfl rfl [] ?_
  exact ((perm_placed_slot hs).trans List.perm_middle.symm).trans
    ((perm_flatten_push hh serial).symm.append_left _)

/-- A handle may be lost from its slot. -/
lemma Sound.dropHandle (h : ledger.Sound) (slot : Nat) :
    Sound { ledger with slots := ledger.slots.set slot none } := by
  cases hs : ledger.slots[slot]? with
  | none =>
    rw [List.set_eq_of_length_le (List.getElem?_eq_none_iff.mp hs)]
    exact h
  | some content =>
    refine h.of_perm rfl rfl rfl content.toList ?_
    have hp := (perm_slots hs).append_right ledger.contexts.flatten
    rwa [List.append_assoc] at hp

/-- All handles of a context may be lost. -/
lemma Sound.emptyContext (h : ledger.Sound) (context : Nat) :
    Sound { ledger with contexts := ledger.contexts.set context [] } := by
  cases hh : ledger.contexts[context]? with
  | none =>
    rw [List.set_eq_of_length_le (List.getElem?_eq_none_iff.mp hh)]
    exact h
  | some held => exact h.of_perm rfl rfl rfl held (perm_placed_context hh)

/-- Every event keeps the handles in one place each. -/
theorem Sound.move (h : ledger.Sound) (event : Event) : (ledger.move event).Sound := by
  cases event with
  | newRegistry =>
    refine ⟨?_, h.disposals, h.placed, h.nodup⟩
    intro content hm store hs
    exact Nat.lt_succ_of_lt (h.issued content hm store hs)
  | cloneRegistry registry =>
    simp only [Ledger.move]
    split
    · exact ⟨h.issued, h.disposals, h.placed, h.nodup⟩
    · exact h
  | dropRegistry registry => exact ⟨h.issued, h.disposals, h.placed, h.nodup⟩
  | register registry language provider =>
    simp only [Ledger.move]
    split
    · rename_i store hs
      exact h.issueToSlot _ (lt_of_registration? hs language provider)
    · exact h
  | newHandle tag => exact h.issueToSlot (.signal tag) nofun
  | dropHandle slot => exact h.dropHandle slot
  | newContext =>
    refine h.of_perm rfl rfl rfl [] ?_
    simp [Ledger.placed, Ledger.move]
  | push slot context =>
    simp only [Ledger.move]
    split
    · rename_i held serial hh hs
      exact h.push hh hs
    · exact h
  | activate registry context =>
    simp only [Ledger.move]
    split
    · rename_i store hs
      exact h.issueToContext _ (lt_of_registration? hs _ _) context
    · exact h
  | activateNoting context => exact h.issueToContext (.signal _) nofun context
  | deactivate context => exact h.emptyContext context
  | dispose | inspect | inspectContext | providersFor | entriesFor | inspectRegistry => exact h

/-- What is in the slots was issued. -/
lemma Sound.lt_of_mem_slots (h : ledger.Sound) {serial : Nat} (hm : some serial ∈ ledger.slots) :
    serial < ledger.issued.length := by
  apply h.placed
  exact List.mem_append_left _ (List.mem_flatten_of_mem (List.mem_map_of_mem hm) (by simp))

/-- A handle that is looked up in a slot is in the slots. -/
lemma mem_slots_of_serial? {slot serial : Nat} (hs : ledger.serial? slot = some serial) :
    some serial ∈ ledger.slots := by
  rw [serial?, Option.join_eq_some_iff] at hs
  exact List.mem_of_getElem? hs

/-- A handle that is looked up in a slot was issued. -/
lemma Sound.of_mem_slots (h : ledger.Sound) {slot serial : Nat}
    (hs : ledger.serial? slot = some serial) : serial < ledger.issued.length :=
  h.lt_of_mem_slots (mem_slots_of_serial? hs)

/-- A handle in one of the contexts was issued. -/
lemma Sound.of_mem_context (h : ledger.Sound) {held : List Nat} (hh : held ∈ ledger.contexts)
    {serial : Nat} (hs : serial ∈ held) : serial < ledger.issued.length :=
  h.placed serial (List.mem_append_right _ (List.mem_flatten_of_mem hh hs))

/-- A handle in the context of this number was issued. -/
lemma Sound.lt_of_mem_held (h : ledger.Sound) {context serial : Nat}
    (hm : serial ∈ ledger.held context) : serial < ledger.issued.length := by
  rw [held] at hm
  cases hh : ledger.contexts[context]? with
  | none => simp [hh] at hm
  | some held =>
    rw [hh] at hm
    exact h.of_mem_context (List.mem_of_getElem? hh) hm

/-- An event disposes only handles that there are. -/
lemma Sound.disposedBy_lt (h : ledger.Sound) (event : Event) :
    ∀ serial ∈ ledger.disposedBy event, serial < ledger.issued.length := by
  intro serial hm
  cases event with
  | dispose slot => exact h.of_mem_slots (Option.mem_toList.mp hm)
  | deactivate context => exact h.lt_of_mem_held (List.mem_reverse.mp hm)
  | _ => cases hm

/-- Issuing to a context keeps the handles issued before. -/
lemma issued_issueToContext (content : Issue) (context : Nat) :
    ledger.issued <+: (ledger.issueToContext content context).issued := by
  rw [issueToContext]
  split
  · exact List.prefix_append _ _
  · exact List.prefix_rfl

/-- What was issued stays issued. -/
lemma issued_move (event : Event) : ledger.issued <+: (ledger.move event).issued := by
  cases event with
  | cloneRegistry | push =>
    simp only [move]
    split <;> exact List.prefix_rfl
  | register =>
    simp only [move]
    split
    · exact List.prefix_append _ _
    · exact List.prefix_rfl
  | newHandle => exact List.prefix_append _ _
  | activate =>
    simp only [move]
    split
    · exact issued_issueToContext _ _
    · exact List.prefix_rfl
  | activateNoting => exact issued_issueToContext _ _
  | _ => exact List.prefix_rfl

/-- Every event keeps the ledger sound. -/
theorem Sound.after (h : ledger.Sound) (event : Event) : (ledger.after event).Sound := by
  have hm := h.move event
  refine ⟨hm.issued, ?_, hm.placed, hm.nodup⟩
  intro serial hs
  rcases List.mem_append.mp hs with hs | hs
  · exact hm.disposals serial hs
  · exact Nat.lt_of_lt_of_le (h.disposedBy_lt event serial hs) (issued_move event).length_le

/-- The ledger of a run keeps the handles in one place each. -/
theorem Sound.run (h : ledger.Sound) (events : List Event) : (ledger.run events).Sound := by
  induction events generalizing ledger with
  | nil => exact h
  | cons event events ih => exact ih (h.after event)

end Ledger

end TucServer
