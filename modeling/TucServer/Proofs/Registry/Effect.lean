import TucServer.Proofs.Registry.Described

/-!
# What handles do to the world

The two things that an event can do to stores are read off the ledger. Issuing a handle registers
with a store (`Sound.host_register`), and disposing handles runs the actions of those that were not
disposed before, each of which takes its own registration back (`dispose_handle`, and
`dispose_handles` for a whole context).
-/

namespace TucServer

/-- An element at the end is kept unless it stood before. -/
lemma eraseDups_concat (serials : List Nat) (serial : Nat) :
    (serials ++ [serial]).eraseDups =
      serials.eraseDups ++ if serial ∈ serials then [] else [serial] := by
  rw [List.eraseDups_append]
  congr 1
  split
  · rename_i h
    simp [List.removeAll, h]
  · rename_i h
    simp [List.removeAll, List.eraseDups_cons, h]

/-- Changing one of the values of a function. -/
lemma map_range_modify {α : Type} {before after : Nat → α} {place count : Nat} {change : α → α}
    (h : after place = change (before place))
    (ho : ∀ other, other ≠ place → after other = before other) :
    ((List.range count).map before).modify place change = (List.range count).map after := by
  apply List.ext_getElem?
  intro other
  rw [List.getElem?_modify, List.getElem?_map, List.getElem?_map]
  by_cases hl : other < count
  · rw [List.getElem?_range hl]
    by_cases he : place = other
    · subst he
      simp [h]
    · simp [he, ho other (Ne.symm he)]
  · rw [List.getElem?_eq_none (by simpa using hl)]
    simp

namespace Ledger

/-- The world that the ledger describes, but with the slots and contexts of another world. -/
def imprint (ledger : Ledger) (world : World) : World :=
  { ledger.world with handles := world.handles, contexts := world.contexts }

variable {ledger : Ledger} {serial : Nat}

/-- Disposing a handle runs its action, unless it was disposed before. -/
lemma released_dispose (serial : Nat) :
    (ledger.dispose [serial]).world.released =
      ledger.world.released ++
        if serial ∈ ledger.disposals then [] else (ledger.action? serial).toList := by
  show (ledger.disposals ++ [serial]).eraseDups.filterMap ledger.action? = _
  rw [eraseDups_concat, List.filterMap_append]
  congr 1
  split
  · rfl
  · cases ha : ledger.action? serial with
    | none => simp [ha]
    | some action => simp [ha]

/-- The disposal of a handle that is no registration leaves all stores as they are. -/
lemma stores_dispose_of_none (h : ∀ store, ledger.registration? store serial = none) :
    (ledger.dispose [serial]).world.stores = ledger.world.stores := by
  apply List.map_congr_left
  intro store _
  exact storeAt_dispose_of_none (h store)

/-- An action that is run for the first time does what the disposal of its handle notes. -/
lemma release_imprint {action : Release} (ha : ledger.action? serial = some action)
    (hn : serial ∉ ledger.disposals) (world : World) :
    (ledger.imprint world).release action = (ledger.dispose [serial]).imprint world := by
  obtain ⟨content, hc, rfl⟩ := Option.map_eq_some_iff.mp ha
  have hr : ∀ store, ledger.registration? store serial = content.registration? store := by
    intro store
    simp [registration?, hc]
  have hd : (ledger.dispose [serial]).world.released = _ := released_dispose serial
  rw [if_neg hn, ha] at hd
  cases content with
  | signal tag =>
    exact World.ext (stores_dispose_of_none fun store => hr store).symm rfl rfl rfl hd.symm
  | registration owner language provider =>
    -- only the store it was registered with loses anything
    have hs : ledger.world.stores.modify owner (·.unregister (ledger.number owner serial)) =
        (ledger.dispose [serial]).world.stores := by
      apply map_range_modify
      · apply storeAt_dispose
        simp [hr, Issue.registration?]
      · intro other ho
        apply storeAt_dispose_of_none
        simp [hr, Issue.registration?, Ne.symm ho]
    exact World.ext hs rfl rfl rfl hd.symm

/-- A handle that was disposed before does nothing. -/
lemma imprint_dispose_of_mem (hm : serial ∈ ledger.disposals) (world : World) :
    (ledger.dispose [serial]).imprint world = ledger.imprint world := by
  have hs : (ledger.dispose [serial]).world.stores = ledger.world.stores :=
    List.map_congr_left fun store _ => storeAt_dispose_of_mem hm store
  have hr : (ledger.dispose [serial]).world.released = _ := released_dispose serial
  rw [if_pos hm, List.append_nil] at hr
  exact World.ext hs rfl rfl rfl hr

/-- A disposed handle has nothing to run. -/
lemma handle_dispose_self : (ledger.dispose [serial]).handle serial = ⟨none⟩ := by
  simp [handle, dispose]

/-- Disposing handles leaves the others as they are. -/
lemma handle_dispose_of_notMem {serials : List Nat} (h : serial ∉ serials) :
    (ledger.dispose serials).handle serial = ledger.handle serial := by
  have hm : serial ∈ (ledger.dispose serials).disposals ↔ serial ∈ ledger.disposals := by
    simp [dispose, h]
  simp only [handle, hm]
  rfl

/-- A handle runs its action when it is disposed for the first time. -/
lemma dispose_handle (h : serial < ledger.issued.length) (world : World) :
    (ledger.handle serial).dispose World.release (ledger.imprint world) =
      ((ledger.dispose [serial]).handle serial, (ledger.dispose [serial]).imprint world) := by
  rw [handle_dispose_self]
  by_cases hm : serial ∈ ledger.disposals
  · rw [imprint_dispose_of_mem hm, handle, if_pos hm]
    rfl
  · obtain ⟨action, ha⟩ : ∃ action, ledger.action? serial = some action := by
      simp [action?, List.getElem?_eq_getElem h]
    rw [handle, if_neg hm, ha, ← release_imprint ha hm]
    rfl

/-- Disposing no handle changes nothing. -/
@[simp] lemma dispose_nil : ledger.dispose [] = ledger := by
  simp [dispose]

/-- Disposing handles one after the other is disposing all of them in this order. -/
lemma dispose_dispose (earlier later : List Nat) :
    (ledger.dispose earlier).dispose later = ledger.dispose (earlier ++ later) := by
  simp [dispose]

/-- Handles that are disposed together, the last one first, are as if each was disposed alone. -/
lemma dispose_handles {serials : List Nat} (hb : ∀ serial ∈ serials, serial < ledger.issued.length)
    (hn : serials.Nodup) (world : World) :
    (serials.map ledger.handle).foldr (fun handle world => (handle.dispose World.release world).2)
        (ledger.imprint world) =
      (ledger.dispose serials.reverse).imprint world := by
  -- those behind the first one are disposed before it, and leave its handle as it is
  induction serials with
  | nil => simp
  | cons serial serials ih =>
    obtain ⟨hm, hn⟩ := List.nodup_cons.mp hn
    have hk : (ledger.dispose serials.reverse).handle serial = ledger.handle serial :=
      handle_dispose_of_notMem (by simpa using hm)
    have hb' : serial < (ledger.dispose serials.reverse).issued.length :=
      hb serial List.mem_cons_self
    have hd := dispose_handle hb' world
    rw [hk, dispose_dispose, ← List.reverse_cons] at hd
    have ih := ih (fun other ho => hb other (List.mem_cons_of_mem _ ho)) hn
    rw [List.map_cons, List.foldr_cons, ih, hd]

/-- What slots and contexts show depends on the handles in them only. -/
lemma map_placed_congr {before after : Nat → Handle Release}
    (h : ∀ serial ∈ ledger.placed, after serial = before serial) :
    ledger.slots.map (·.map after) = ledger.slots.map (·.map before) ∧
      ledger.contexts.map (fun held => Context.mk (held.map after)) =
        ledger.contexts.map (fun held => Context.mk (held.map before)) := by
  refine ⟨?_, ?_⟩
  · apply List.map_congr_left
    intro content hc
    cases content with
    | none => rfl
    | some serial =>
      have hm : serial ∈ (ledger.slots.map Option.toList).flatten :=
        List.mem_flatten_of_mem (List.mem_map_of_mem hc) (by simp)
      exact congrArg some (h serial (List.mem_append_left _ hm))
  · apply List.map_congr_left
    intro held hc
    apply congrArg Context.mk
    apply List.map_congr_left
    intro serial hs
    exact h serial (List.mem_append_right _ (List.mem_flatten_of_mem hc hs))

/-- Handles that are nowhere any more are disposed without a trace in slots and contexts. -/
lemma world_dispose {serials : List Nat} (h : ∀ serial ∈ ledger.placed, serial ∉ serials) :
    (ledger.dispose serials).world = (ledger.dispose serials).imprint ledger.world := by
  obtain ⟨hs, hc⟩ := map_placed_congr fun serial hm => handle_dispose_of_notMem (h serial hm)
  exact World.ext rfl rfl hs hc rfl

/-! ### What is looked up -/

/-- A registry of the world refers to the store that the ledger says. -/
lemma storeOf?_world (registry : Nat) :
    ledger.world.storeOf? registry = ledger.store? registry :=
  rfl

/-- In a slot of the world there is the handle that the ledger has in it. -/
lemma handle?_world (slot : Nat) :
    ledger.world.handle? slot = (ledger.serial? slot).map ledger.handle := by
  simp only [World.handle?, world, List.getElem?_map, serial?]
  cases ledger.slots[slot]? with
  | none => rfl
  | some content => rfl

/-- A context of the world has the handles that the ledger has in it. -/
lemma getElem?_contexts (context : Nat) :
    ledger.world.contexts[context]? = ledger.contexts[context]?.map ledger.contextOf :=
  List.getElem?_map

/-- A store of the world is the one that the ledger describes. -/
lemma getElem?_stores {store : Nat} (h : store < ledger.stores) :
    ledger.world.stores[store]? = some (ledger.storeAt store) := by
  simp [world, h]

/-! ### One more handle -/

/-- Without a place of its own, a new handle is only seen in the stores. -/
lemma Sound.world_issue (h : ledger.Sound) (content : Issue) :
    (ledger.issue content).world = (ledger.issue content).imprint ledger.world := by
  obtain ⟨hs, hc⟩ := map_placed_congr fun serial hm => handle_issue content (h.placed serial hm)
  exact World.ext rfl rfl hs hc rfl

/-- A new handle has not run its action. -/
lemma Sound.released_issue (h : ledger.Sound) (content : Issue) :
    (ledger.issue content).world.released = ledger.world.released := by
  apply List.filterMap_congr
  intro serial hm
  exact action?_of_isPrefix (issued_issue content) (h.disposals serial (List.mem_eraseDups.mp hm))

/-- A new signal is not seen anywhere before it has a place. -/
lemma Sound.world_issue_signal (h : ledger.Sound) (tag : String) :
    (ledger.issue (.signal tag)).world = ledger.world := by
  rw [h.world_issue]
  refine World.ext ?_ rfl rfl rfl (h.released_issue _)
  exact List.map_congr_left fun store _ => h.storeAt_issue (.signal tag) store

/-- The world of the ledger, as one that has a store of this number. -/
def worldWith (ledger : Ledger) {store : Nat} (h : store < ledger.stores) : World.With store :=
  ⟨ledger.world, by simpa [world] using h⟩

/-- Registering with a store issues a handle. -/
lemma Sound.host_register (h : ledger.Sound) {store : Nat} (hs : store < ledger.stores)
    (language : String) (provider : Provider) :
    (World.host store).register language provider (ledger.worldWith hs) =
      (Handle.new (ledger.nextAction ledger.issued.length (.registration store language provider)),
        (ledger.issue (.registration store language provider)).worldWith hs) := by
  have hb := (ledger.worldWith hs).property
  have hg : (ledger.worldWith hs).val.stores[store] = ledger.storeAt store := by
    simp [worldWith, world]
  have hm : ledger.world.stores.set store ((ledger.storeAt store).register language provider).2 =
      (ledger.issue (.registration store language provider)).world.stores := by
    rw [List.set_eq_modify]
    apply map_range_modify
    · rw [h.storeAt_issue]
      simp [Issue.registration?]
    · intro other ho
      rw [h.storeAt_issue]
      simp [Issue.registration?, Ne.symm ho]
  have hw := h.world_issue (.registration store language provider)
  refine Prod.ext ?_ (Subtype.ext (World.ext ?_ rfl ?_ ?_ ?_))
  · exact congrArg (fun store' : Store => Handle.new (Release.registration store store'.nextId)) hg
  · refine Eq.trans ?_ hm
    exact congrArg (fun content : Store => ledger.world.stores.set store
      (content.register language provider).2) hg
  · exact (congrArg World.handles hw).symm
  · exact (congrArg World.contexts hw).symm
  · exact (h.released_issue _).symm

end Ledger

end TucServer
