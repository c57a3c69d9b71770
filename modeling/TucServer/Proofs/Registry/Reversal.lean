import TucServer.Proofs.Registry.Omission

/-!
# Deactivation undoes activation

When a context is deactivated at the end of a run, the activations that put handles into it might as
well not have happened: without them the run ends in a world that looks the same
(`deactivation_undoes_activation`). One activation is left out at a time. Its handle cannot leave
the context but by the deactivation (`Confined`), so that the run without it goes along with the run
with it, up to the serial numbers, and both worlds are alike once the handle is disposed.
-/

namespace TucServer

/-- Whether the event registers the keyword provider for this context. -/
def Event.activates (context : Nat) : Event → Bool
  | .activate _ other => other == context
  | _ => false

/-- Two worlds look the same: the same registries are held and serve the same providers in the same
order, handles that are disposed are in the same slots and at the same places in contexts, and the
same signals were given in the same order. -/
structure World.Alike (first second : World) : Prop where
  providers : ∀ registry language,
    (first.store? registry).map (·.providersFor language) =
      (second.store? registry).map (·.providersFor language)
  sizes : ∀ registry,
    (first.store? registry).map Store.size = (second.store? registry).map Store.size
  handles : ∀ slot,
    (first.handle? slot).map Handle.isDisposed = (second.handle? slot).map Handle.isDisposed
  contexts : ∀ number : Nat,
    first.contexts[number]?.map (fun context : Context Release =>
        context.handles.map Handle.isDisposed) =
      second.contexts[number]?.map fun context : Context Release =>
        context.handles.map Handle.isDisposed
  signals : first.signals = second.signals

/-- Looking the same is reflexive. -/
lemma World.Alike.refl (world : World) : world.Alike world :=
  ⟨fun _ _ => rfl, fun _ => rfl, fun _ => rfl, fun _ => rfl, rfl⟩

/-- Looking the same is transitive. -/
lemma World.Alike.trans {first second third : World} (h : first.Alike second)
    (h' : second.Alike third) : first.Alike third where
  providers registry language := (h.providers registry language).trans (h'.providers ..)
  sizes registry := (h.sizes registry).trans (h'.sizes registry)
  handles slot := (h.handles slot).trans (h'.handles slot)
  contexts number := (h.contexts number).trans (h'.contexts number)
  signals := h.signals.trans h'.signals

namespace Ledger

variable {ledger : Ledger} {context serial : Nat}

/-! ### Where handles go -/

/-- A handle comes to a slot only when it is issued. -/
lemma notMem_slots_move (h : some serial ∉ ledger.slots) (hl : serial < ledger.issued.length)
    (event : Event) : some serial ∉ (ledger.move event).slots := by
  have issued (content : Issue) : some serial ∉ (ledger.issueToSlot content).slots := by
    intro hm
    rcases List.mem_append.mp hm with hm | hm
    · exact h hm
    · cases List.mem_singleton.mp hm
      exact Nat.lt_irrefl _ hl
  have cleared (slot : Nat) : some serial ∉ ledger.slots.set slot none := by
    intro hm
    rcases List.mem_or_eq_of_mem_set hm with hm | hm
    · exact h hm
    · cases hm
  cases event with
  | cloneRegistry =>
    simp only [move]
    split <;> exact h
  | register =>
    simp only [move]
    split
    · exact issued _
    · exact h
  | newHandle => exact issued _
  | dropHandle slot => exact cleared slot
  | push slot =>
    simp only [move]
    split
    · exact cleared slot
    · exact h
  | activate =>
    simp only [move]
    split
    · rwa [slots_issueToContext]
    · exact h
  | activateNoting =>
    simp only [move]
    rwa [slots_issueToContext]
  | _ => exact h

/-- What an event can do to the handles in a context: it leaves them, adds one that is new or comes
from a slot, or disposes them all. -/
inductive Passes (ledger : Ledger) (event : Event) (before : List Nat) : List Nat → Prop where
  | kept :
    Passes ledger event before before
  | issued :
    Passes ledger event before (before ++ [ledger.issued.length])
  | pushed {last} :
    some last ∈ ledger.slots →
    Passes ledger event before (before ++ [last])
  | disposed :
    ledger.disposedBy event = before.reverse →
    Passes ledger event before []

variable {event : Event} {before later : List Nat}

/-- One more handle in one of the contexts. -/
lemma Passes.push {place last other : Nat} {content : List Nat}
    (hc : ledger.contexts[place]? = some content)
    (h : Passes ledger event (ledger.held other) (ledger.held other ++ [last])) :
    Passes ledger event (ledger.held other)
      ((ledger.contexts.set place (content ++ [last]))[other]?.getD []) := by
  rw [List.getElem?_set]
  split
  · rename_i he
    subst he
    rw [held, hc] at h
    rw [if_pos (List.getElem?_eq_some_iff.mp hc).1, held, hc]
    exact h
  · exact .kept

/-- A handle issued to some context is new in this one or leaves it as it is. -/
lemma passes_issueToContext (content : Issue) (place other : Nat) :
    Passes ledger event (ledger.held other)
      ((ledger.issueToContext content place).held other) := by
  rw [issueToContext]
  split
  · rename_i before hc
    exact .push hc .issued
  · exact .kept

/-- A new context has no handles, and leaves those of the others. -/
lemma passes_newContext (other : Nat) :
    Passes ledger event (ledger.held other) ((ledger.contexts ++ [[]])[other]?.getD []) := by
  rcases Nat.lt_trichotomy other ledger.contexts.length with h | rfl | h
  · rw [List.getElem?_append_left h]
    exact .kept
  · rw [List.getElem?_concat_length, held, List.getElem?_eq_none (Nat.le_refl _)]
    exact .kept
  · have hl : (ledger.contexts ++ [[]]).length ≤ other := by
      simpa using Nat.succ_le_of_lt h
    rw [List.getElem?_eq_none hl, held, List.getElem?_eq_none (Nat.le_of_lt h)]
    exact .kept

/-- Deactivation disposes all handles of its context and leaves those of the others. -/
lemma passes_deactivate (place other : Nat) :
    Passes ledger (.deactivate place) (ledger.held other)
      ((ledger.contexts.set place [])[other]?.getD []) := by
  rw [List.getElem?_set]
  split
  · rename_i he
    subst he
    split <;> exact .disposed rfl
  · exact .kept

/-- Every event does one of these to the handles in a context. -/
lemma passes_move (event : Event) (other : Nat) :
    Passes ledger event (ledger.held other) ((ledger.move event).held other) := by
  cases event with
  | newContext => exact passes_newContext other
  | push slot place =>
    simp only [move]
    split
    · rename_i before serial hc hs
      exact .push hc (.pushed (mem_slots_of_serial? hs))
    · exact .kept
  | activate registry place =>
    simp only [move]
    split
    · exact passes_issueToContext _ place other
    · exact .kept
  | activateNoting place => exact passes_issueToContext _ place other
  | deactivate place => exact passes_deactivate place other
  | cloneRegistry | register =>
    simp only [move]
    split <;> exact .kept
  | _ => exact .kept

/-- A handle that comes to a context is new or was in a slot. -/
lemma Passes.mem_before (h : Passes ledger event before later) (hm : serial ∈ later)
    (hl : serial < ledger.issued.length) (hs : some serial ∉ ledger.slots) : serial ∈ before := by
  cases h with
  | kept => exact hm
  | issued =>
    rcases List.mem_append.mp hm with hm | hm
    · exact hm
    · exact absurd (List.mem_singleton.mp hm) (Nat.ne_of_lt hl)
  | pushed hp =>
    rcases List.mem_append.mp hm with hm | hm
    · exact hm
    · exact absurd (List.mem_singleton.mp hm ▸ hp) hs
  | disposed => cases hm

/-- A handle that leaves its context is disposed. -/
lemma Passes.mem_after (h : Passes ledger event before later) (hm : serial ∈ before) :
    serial ∈ later ∨ serial ∈ ledger.disposedBy event := by
  cases h with
  | kept => exact .inl hm
  | issued | pushed => exact .inl (List.mem_append_left _ hm)
  | disposed hd => exact .inr (hd ▸ List.mem_reverse.mpr hm)

/-! ### A handle that only its context disposes -/

/-- The handle gives no signal and is in no slot; it is in no context but this one, and was disposed
if it is not there any more. -/
structure Confined (ledger : Ledger) (context serial : Nat) : Prop where
  issued : ∃ content, ledger.issued[serial]? = some content ∧ content.tag? = none
  slots : some serial ∉ ledger.slots
  contexts : ∀ other, serial ∈ ledger.held other → other = context
  disposed : serial ∈ ledger.held context ∨ serial ∈ ledger.disposals

/-- A confined handle was issued. -/
lemma Confined.lt_length (h : ledger.Confined context serial) : serial < ledger.issued.length := by
  obtain ⟨content, hi, -⟩ := h.issued
  exact (List.getElem?_eq_some_iff.mp hi).1

/-- The handle stays confined, whatever happens. -/
lemma Confined.after (h : ledger.Confined context serial) (event : Event) :
    (ledger.after event).Confined context serial := by
  have hl := h.lt_length
  refine ⟨?_, notMem_slots_move h.slots hl event, ?_, ?_⟩
  · obtain ⟨content, hi, ht⟩ := h.issued
    exact ⟨content, (getElem?_issued_of_isPrefix (issued_move event) hl).trans hi, ht⟩
  · intro other hm
    exact h.contexts other ((passes_move event other).mem_before hm hl h.slots)
  · have hd : (ledger.after event).disposals = ledger.disposals ++ ledger.disposedBy event :=
      congrArg (· ++ ledger.disposedBy event) (disposals_move event)
    rw [hd, List.mem_append]
    rcases h.disposed with hm | hm
    -- only its own disposal takes it from the context
    · rcases (passes_move event context).mem_after hm with hm | hm
      · exact .inl hm
      · exact .inr (.inr hm)
    · exact .inr (.inl hm)

/-- The handle stays confined over a whole run. -/
lemma Confined.run (h : ledger.Confined context serial) (events : List Event) :
    (ledger.run events).Confined context serial := by
  induction events generalizing ledger with
  | nil => exact h
  | cons event events ih => exact ih (h.after event)

/-- A run goes along with the run without the handle. -/
lemma Confined.without_run (h : ledger.Confined context serial) (events : List Event) :
    (ledger.run events).without serial = (ledger.without serial).run events := by
  induction events generalizing ledger with
  | nil => rfl
  | cons event events ih =>
    have hw := ih (h.after event)
    rw [without_after h.lt_length h.slots] at hw
    exact hw

/-! ### One activation left out -/

/-- Leaving out a handle that is not there changes nothing. -/
lemma Sound.without_length (h : ledger.Sound) : ledger.without ledger.issued.length = ledger := by
  have hs : ledger.slots.map (·.map (renumber ledger.issued.length)) = ledger.slots := by
    refine (List.map_congr_left fun content hm => ?_).trans (List.map_id ledger.slots)
    cases content with
    | none => rfl
    | some serial => exact congrArg some (renumber_of_lt (h.lt_of_mem_slots hm))
  have hc : ledger.contexts.map (others ledger.issued.length) = ledger.contexts := by
    refine (List.map_congr_left fun content hm => ?_).trans (List.map_id ledger.contexts)
    exact others_of_lt fun serial => h.of_mem_context hm
  rw [without, List.eraseIdx_of_length_le (Nat.le_refl _), hs, hc, others_of_lt h.disposals]

/-- An activation that lacks nothing issues a handle to its context. -/
lemma after_activate_eq {registry store : Nat} {content : List Nat}
    (hs : ledger.store? registry = some store) (hc : ledger.contexts[context]? = some content) :
    ledger.after (.activate registry context) =
      { ledger.issue (.registration store Catalog.language Provider.keywords) with
        contexts := ledger.contexts.set context (content ++ [ledger.issued.length]) } := by
  rw [after_eq_move rfl]
  simp only [move, hs, issueToContext, hc]

/-- The handle of an activation is confined to the context that is activated. -/
lemma Sound.confined_activate (h : ledger.Sound) {registry store : Nat} {content : List Nat}
    (hs : ledger.store? registry = some store) (hc : ledger.contexts[context]? = some content) :
    (ledger.after (.activate registry context)).Confined context ledger.issued.length := by
  rw [after_activate_eq hs hc]
  refine ⟨⟨_, List.getElem?_concat_length, rfl⟩, ?_, ?_, .inl ?_⟩
  · exact fun hm => Nat.lt_irrefl _ (h.lt_of_mem_slots hm)
  · intro other hm
    by_contra hn
    rw [held, List.getElem?_set_ne (Ne.symm hn)] at hm
    exact Nat.lt_irrefl _ (h.lt_of_mem_held hm)
  · rw [held, List.getElem?_set_self (List.getElem?_eq_some_iff.mp hc).1]
    exact List.mem_append_right _ List.mem_cons_self

/-- The handle is all that an activation brings. -/
lemma Sound.without_activate (h : ledger.Sound) {registry store : Nat} {content : List Nat}
    (hs : ledger.store? registry = some store) (hc : ledger.contexts[context]? = some content) :
    (ledger.after (.activate registry context)).without ledger.issued.length = ledger := by
  have hi (issue : Issue) : (ledger.issued ++ [issue]).eraseIdx ledger.issued.length =
      ledger.issued.eraseIdx ledger.issued.length := by
    rw [List.eraseIdx_append_of_length_le (Nat.le_refl _), Nat.sub_self,
      List.eraseIdx_cons_zero, List.append_nil, List.eraseIdx_of_length_le (Nat.le_refl _)]
  have hm : (ledger.contexts.set context (content ++ [ledger.issued.length])).map
      (others ledger.issued.length) = ledger.contexts.map (others ledger.issued.length) := by
    obtain ⟨hl, he⟩ := List.getElem?_eq_some_iff.mp hc
    rw [List.map_set, others_append, others_extra, List.append_nil, ← List.map_set, ← he,
      List.set_getElem_self]
  calc (ledger.after (.activate registry context)).without ledger.issued.length
    _ = ledger.without ledger.issued.length := by
      rw [after_activate_eq hs hc]
      simp only [without, Ledger.issue, hi, hm]
    _ = ledger := h.without_length

/-! ### The worlds at the end -/

/-- A registry that is not held refers to no store. -/
lemma map_store?_world (registry : Nat) :
    ledger.world.store? registry = (ledger.store? registry).map ledger.storeAt := by
  cases hs : ledger.store? registry with
  | some store => exact store?_world hs
  | none =>
    rw [World.store?, ledger.world.inRange.find?_eq_none hs]
    rfl

/-- What is seen of a store that stays as it is. -/
lemma map_store?_without {α : Type} {view : Store → α}
    (hv : ∀ store, view ((ledger.without serial).storeAt store) = view (ledger.storeAt store))
    (registry : Nat) : (ledger.world.store? registry).map view =
      ((ledger.without serial).world.store? registry).map view := by
  rw [map_store?_world, map_store?_world, Option.map_map, Option.map_map]
  exact congrArg (Option.map · (ledger.store? registry)) (funext fun store => (hv store).symm)

/-- Without a handle that was disposed and is nowhere any more the world looks the same. -/
lemma Sound.alike_without (h : ledger.Sound) (hw : (ledger.without serial).Sound)
    (hc : ledger.Confined context serial) (he : ledger.held context = []) :
    ledger.world.Alike (ledger.without serial).world := by
  have hd : serial ∈ ledger.disposals := by
    rcases hc.disposed with hm | hd
    · rw [he] at hm
      cases hm
    · exact hd
  have hn (other : Nat) : serial ∉ ledger.held other := by
    intro hm
    rw [hc.contexts other hm, he] at hm
    cases hm
  refine ⟨fun registry language => ?_, fun registry => ?_, ?_, ?_, ?_⟩
  · apply map_store?_without
    intro store
    rw [providersFor_storeAt, providersFor_without hc.lt_length hd, providersFor_storeAt]
  · apply map_store?_without
    intro store
    rw [size_storeAt, live_without hc.lt_length hd, size_storeAt]
  · intro slot
    rw [h.isDisposed_slot, hw.isDisposed_slot, serial?_without]
    cases hs : ledger.serial? slot with
    | none => rfl
    | some other => exact congrArg some (isDisposed_without (ne_of_serial? hc.slots hs)).symm
  · intro number
    rw [h.isDisposed_context, hw.isDisposed_context, getElem?_contexts_without]
    have hm := hn number
    rw [held] at hm
    cases hs : ledger.contexts[number]? with
    | none => rfl
    | some content =>
      rw [hs] at hm
      exact congrArg some (map_isDisposed_others hm).symm
  · obtain ⟨content, hi, ht⟩ := hc.issued
    have hg : ledger.issued[serial]? >>= Issue.tag? = none := by
      rw [hi]
      exact ht
    rw [signals_world, signals_world, signals_without hg]

/-- A deactivated context is empty. -/
lemma held_deactivate (context : Nat) :
    (ledger.after (.deactivate context)).held context = [] := by
  show (ledger.contexts.set context [])[context]?.getD [] = []
  rw [List.getElem?_set, if_pos rfl]
  split <;> rfl

/-- The last event of a run comes after the run of the others. -/
lemma run_concat (events : List Event) (event : Event) :
    ledger.run (events ++ [event]) = (ledger.run events).after event :=
  List.foldl_concat ..

/-- A run that ends with the deactivation of a context may begin with an activation for it, or with
the event behind the activation. -/
lemma Sound.alike_activate (h : ledger.Sound) (registry context : Nat) (events : List Event) :
    ((ledger.after (.activate registry context)).run
        (events ++ [.deactivate context])).world.Alike
      (ledger.run (events ++ [.deactivate context])).world := by
  -- an activation that lacks its registry or its context changes nothing
  cases hs : ledger.store? registry with
  | none =>
    rw [after_eq_move rfl]
    simp only [Ledger.move, hs]
    exact .refl _
  | some store =>
    cases hc : ledger.contexts[context]? with
    | none =>
      rw [after_eq_move rfl]
      simp only [Ledger.move, hs, Ledger.issueToContext, hc]
      exact .refl _
    | some content =>
      have hk := h.confined_activate hs hc
      have he := hk.without_run (events ++ [.deactivate context])
      rw [h.without_activate hs hc] at he
      rw [← he]
      apply Sound.alike_without ((h.after _).run _) _ (hk.run _)
      · rw [run_concat]
        exact held_deactivate context
      · rw [he]
        exact h.run _

/-- The activations for a context that is deactivated at the end may be left out of the run, one
after the other. -/
lemma Sound.alike_filter (h : ledger.Sound) (context : Nat) (events : List Event) :
    (ledger.run (events ++ [.deactivate context])).world.Alike (ledger.run
      ((events ++ [Event.deactivate context]).filter (!·.activates context))).world := by
  induction events generalizing ledger with
  | nil => exact .refl _
  | cons event events ih =>
    cases ha : event.activates context with
    | false =>
      rw [List.cons_append, List.filter_cons_of_pos (by simp [ha])]
      exact ih (h.after event)
    | true =>
      rw [List.cons_append, List.filter_cons_of_neg (by simp [ha])]
      cases event with
      | activate registry other =>
        cases eq_of_beq ha
        exact (h.alike_activate registry context events).trans (ih h)
      | _ => cases ha

end Ledger

/-- A run that ends with the deactivation of a context leaves a world that looks the same as the one
after the same run without the activations for this context. -/
theorem World.deactivation_undoes_activation (events : List Event) (context : Nat) :
    (World.empty.run (events ++ [.deactivate context])).Alike
      (World.empty.run ((events ++ [Event.deactivate context]).filter (!·.activates context))) := by
  rw [Ledger.run_eq_world, Ledger.run_eq_world]
  exact Ledger.sound_empty.alike_filter context events

end TucServer
