import TucServer.Proofs.Registry.Log
import TucServer.Proofs.Registry.Releases

/-!
# A ledger without one of its handles

`Ledger.without` is the ledger that there would be if one handle, the extra one, had never been
issued. The handles issued after it have other serial numbers then (`renumber`), and nothing else is
different. As long as the extra handle is in no slot, no event can tell the two ledgers apart by
what it does (`without_after`), and once it is disposed the registrations that are live, the
handles that are disposed and the signals given are the same.
-/

namespace TucServer

/-- The tag of a signal. -/
def Issue.tag? : Issue → Option String
  | .registration .. => none
  | .signal tag => some tag

namespace Ledger

/-- The serial number that another handle has when the extra one is not issued. -/
def renumber (extra serial : Nat) : Nat :=
  if serial < extra then serial else serial - 1

/-- The handles other than the extra one, under the serial numbers they have without it. -/
def others (extra : Nat) (serials : List Nat) : List Nat :=
  (serials.filter (· ≠ extra)).map (renumber extra)

/-- The ledger in which the extra handle was never issued. -/
def without (ledger : Ledger) (extra : Nat) : Ledger where
  registries := ledger.registries
  stores := ledger.stores
  issued := ledger.issued.eraseIdx extra
  slots := ledger.slots.map (·.map (renumber extra))
  contexts := ledger.contexts.map (others extra)
  disposals := others extra ledger.disposals
  inRange := ledger.inRange

/-- The signals that the disposed handles gave. -/
def signals (ledger : Ledger) : List String :=
  ledger.disposals.eraseDups.filterMap fun serial => ledger.issued[serial]? >>= Issue.tag?

variable {ledger : Ledger} {extra serial store : Nat} {serials : List Nat}

/-! ### Serial numbers -/

/-- A handle issued before the extra one keeps its number. -/
lemma renumber_of_lt (h : serial < extra) : renumber extra serial = serial :=
  if_pos h

/-- A handle issued after the extra one has the number before its own. -/
lemma renumber_of_gt (h : extra < serial) : renumber extra serial = serial - 1 :=
  if_neg (Nat.lt_asymm h)

/-- Other handles have different numbers also without the extra one. -/
lemma renumber_inj {other : Nat} (hs : serial ≠ extra) (ho : other ≠ extra)
    (h : renumber extra serial = renumber extra other) : serial = other := by
  simp only [renumber] at h
  split at h <;> split at h <;> omega

/-- At its new number a handle is what it was at the old one. -/
lemma getElem?_renumber {α : Type} (list : List α) (h : serial ≠ extra) :
    (list.eraseIdx extra)[renumber extra serial]? = list[serial]? := by
  rw [List.getElem?_eraseIdx]
  rcases Nat.lt_or_gt_of_ne h with hl | hg
  · rw [renumber_of_lt hl, if_pos hl]
  · have hn : ¬ serial - 1 < extra := by omega
    rw [renumber_of_gt hg, if_neg hn, Nat.sub_add_cancel (by omega)]

/-- There are no other handles among none. -/
@[simp] lemma others_nil : others extra [] = [] := rfl

/-- The other handles of two lists are those of one list, then those of the other. -/
@[simp] lemma others_append (first second : List Nat) :
    others extra (first ++ second) = others extra first ++ others extra second := by
  simp [others]

/-- The other handles in reverse order. -/
@[simp] lemma others_reverse (serials : List Nat) :
    others extra serials.reverse = (others extra serials).reverse := by
  simp [others]

/-- The extra handle alone leaves no other. -/
@[simp] lemma others_extra : others extra [extra] = [] := by
  simp [others]

/-- Another handle alone is left under its new number. -/
lemma others_singleton (h : serial ≠ extra) : others extra [serial] = [renumber extra serial] := by
  simp [others, h]

/-- Where the extra handle is not, all handles are left. -/
lemma others_of_notMem (h : extra ∉ serials) :
    others extra serials = serials.map (renumber extra) := by
  have hf : serials.filter (· ≠ extra) = serials := by
    rw [List.filter_eq_self]
    intro serial hs
    exact decide_eq_true fun he => h (he ▸ hs)
  rw [others, hf]

/-- The handles issued before the extra one keep their numbers. -/
lemma others_of_lt (h : ∀ serial ∈ serials, serial < extra) : others extra serials = serials := by
  rw [others_of_notMem fun hm => Nat.lt_irrefl _ (h extra hm)]
  exact (List.map_congr_left fun serial hs => renumber_of_lt (h serial hs)).trans
    (List.map_id serials)

/-- Another handle is left if and only if it was there. -/
lemma mem_others (h : serial ≠ extra) :
    renumber extra serial ∈ others extra serials ↔ serial ∈ serials := by
  simp only [others, List.mem_map, List.mem_filter, decide_eq_true_eq]
  constructor
  · rintro ⟨other, ⟨hm, ho⟩, he⟩
    exact renumber_inj ho h he ▸ hm
  · intro hm
    exact ⟨serial, ⟨hm, h⟩, rfl⟩

/-- The other handles are numbered without a gap. -/
lemma others_range {count : Nat} (h : extra < count) :
    others extra (List.range count) = List.range (count - 1) := by
  induction h with
  | refl =>
    rw [List.range_succ, others_append, others_extra, List.append_nil]
    exact others_of_lt fun serial hs => List.mem_range.mp hs
  | @step count h ih =>
    have hg : extra < count := h
    calc others extra (List.range (count + 1))
      _ = List.range (count - 1) ++ [count - 1] := by
        rw [List.range_succ, others_append, ih, others_singleton (Nat.ne_of_gt hg),
          renumber_of_gt hg]
      _ = List.range (count - 1 + 1) := List.range_succ.symm
      _ = List.range (count + 1 - 1) := by
        rw [Nat.sub_add_cancel (Nat.one_le_of_lt hg), Nat.add_sub_cancel]

/-- Leaving out the extra handle leaves the order of the first disposals. -/
lemma eraseDups_others (serials : List Nat) :
    (others extra serials).eraseDups = others extra serials.eraseDups := by
  induction serials using List.reverseRecOn with
  | nil => rfl
  | append_singleton serials serial ih =>
    rw [eraseDups_concat, others_append, others_append]
    by_cases h : serial = extra
    · subst h
      -- on the right it is left out, repeated or not
      rw [others_extra, List.append_nil, ih]
      split <;> simp
    · rw [others_singleton h, eraseDups_concat, ih]
      simp only [mem_others h]
      split
      · rfl
      · rw [others_singleton h]

/-! ### What is the same without the extra handle -/

/-- The other handles were issued for the same registrations. -/
lemma registration?_without (h : serial ≠ extra) :
    (ledger.without extra).registration? store (renumber extra serial) =
      ledger.registration? store serial :=
  congrArg (· >>= Issue.registration? store) (getElem?_renumber ledger.issued h)

/-- The other handles are disposed if and only if they were. -/
lemma isDisposed_without (h : serial ≠ extra) :
    (ledger.without extra).isDisposed (renumber extra serial) = ledger.isDisposed serial :=
  decide_eq_decide.mpr (mem_others h)

/-- Without a handle that is disposed, the same handles are not disposed. -/
lemma undisposed_without (h : extra < ledger.issued.length) (hd : extra ∈ ledger.disposals) :
    (ledger.without extra).undisposed = ledger.undisposed.map (renumber extra) := by
  have hr : List.range (ledger.without extra).issued.length =
      others extra (List.range ledger.issued.length) := by
    rw [others_range h]
    exact congrArg List.range (List.length_eraseIdx_of_lt h)
  rw [undisposed, hr, others, List.filter_map, List.filter_filter, undisposed]
  congr 1
  apply List.filter_congr
  intro serial _
  by_cases he : serial = extra
  · simp [he, hd]
  · simp [he, without, mem_others he]

/-- What is live is the same. -/
lemma live_without (h : extra < ledger.issued.length) (hd : extra ∈ ledger.disposals)
    (store : Nat) : (ledger.without extra).live store = ledger.live store := by
  rw [live, undisposed_without h hd, List.filterMap_map, live]
  apply List.filterMap_congr
  intro serial hs
  -- the extra handle is disposed, so this one is another
  have hn : serial ∉ ledger.disposals := of_decide_eq_true (List.mem_filter.mp hs).2
  exact registration?_without fun he => hn (he ▸ hd)

/-- The providers for a language are the same. -/
lemma providersFor_without (h : extra < ledger.issued.length) (hd : extra ∈ ledger.disposals)
    (store : Nat) (language : String) :
    (ledger.without extra).providersFor store language = ledger.providersFor store language := by
  rw [providersFor, live_without h hd, providersFor]

/-- The signals given are the same, unless the extra handle gave one. -/
lemma signals_without (h : ledger.issued[extra]? >>= Issue.tag? = none) :
    (ledger.without extra).signals = ledger.signals := by
  have hd : (ledger.without extra).disposals.eraseDups = others extra ledger.disposals.eraseDups :=
    eraseDups_others ledger.disposals
  rw [signals, hd, others, List.filterMap_map, List.filterMap_filter, signals]
  apply List.filterMap_congr
  intro serial _
  by_cases he : serial = extra
  · simp [he, h]
  · simp only [he, ne_eq, not_false_eq_true, decide_true, if_true, Function.comp_apply]
    exact congrArg (· >>= Issue.tag?) (getElem?_renumber ledger.issued he)

/-- Where the extra handle is not, the same handles are disposed. -/
lemma map_isDisposed_others (h : extra ∉ serials) :
    (others extra serials).map (ledger.without extra).isDisposed =
      serials.map ledger.isDisposed := by
  rw [others_of_notMem h, List.map_map]
  apply List.map_congr_left
  intro serial hs
  exact isDisposed_without fun he => h (he ▸ hs)

/-- The signals that the world has seen are those of the ledger. -/
lemma signals_world : ledger.world.signals = ledger.signals := by
  rw [World.signals, world, List.filterMap_filterMap, signals]
  apply List.filterMap_congr
  intro serial _
  rw [action?]
  cases ledger.issued[serial]? with
  | none => rfl
  | some content => cases content <;> rfl

/-! ### Events -/

/-- A slot has the same handle under its new number. -/
lemma serial?_without (slot : Nat) :
    (ledger.without extra).serial? slot = (ledger.serial? slot).map (renumber extra) := by
  simp only [serial?, without, List.getElem?_map]
  cases ledger.slots[slot]? with
  | none => rfl
  | some content => rfl

/-- A context has its other handles under their new numbers. -/
lemma getElem?_contexts_without (context : Nat) :
    (ledger.without extra).contexts[context]? = ledger.contexts[context]?.map (others extra) :=
  List.getElem?_map

/-- A handle in a slot is another one, as long as the extra one is in no slot. -/
lemma ne_of_serial? (h : some extra ∉ ledger.slots) {slot : Nat}
    (hs : ledger.serial? slot = some serial) : serial ≠ extra := by
  rintro rfl
  exact h (mem_slots_of_serial? hs)

/-- The next handle has the next number also without the extra one. -/
lemma renumber_length (h : extra < ledger.issued.length) :
    renumber extra ledger.issued.length = (ledger.without extra).issued.length := by
  rw [renumber_of_gt h]
  exact (List.length_eraseIdx_of_lt h).symm

/-- A handle issued later is issued also without the extra one. -/
lemma without_issue (h : extra < ledger.issued.length) (content : Issue) :
    (ledger.issue content).without extra = (ledger.without extra).issue content := by
  simp only [without, issue, List.eraseIdx_append_of_lt_length h]

/-- A handle that is issued to a slot goes to the same slot without the extra one. -/
lemma without_issueToSlot (h : extra < ledger.issued.length) (content : Issue) :
    (ledger.issueToSlot content).without extra = (ledger.without extra).issueToSlot content := by
  have hs : (ledger.slots ++ [some ledger.issued.length]).map (·.map (renumber extra)) =
      (ledger.without extra).slots ++ [some (ledger.without extra).issued.length] := by
    rw [List.map_append, List.map_singleton, Option.map_some, renumber_length h]
    rfl
  simp only [issueToSlot, ← without_issue h, ← hs]
  rfl

/-- A handle that is issued to a context goes to the same context without the extra one. -/
lemma without_issueToContext (h : extra < ledger.issued.length) (content : Issue)
    (context : Nat) : (ledger.issueToContext content context).without extra =
      (ledger.without extra).issueToContext content context := by
  simp only [issueToContext, getElem?_contexts_without]
  cases hc : ledger.contexts[context]? with
  | none => rfl
  | some held =>
    have hm : (ledger.contexts.set context (held ++ [ledger.issued.length])).map (others extra) =
        (ledger.without extra).contexts.set context
          (others extra held ++ [(ledger.without extra).issued.length]) := by
      rw [List.map_set, others_append, others_singleton (Nat.ne_of_gt h), renumber_length h]
      rfl
    simp only [Option.map_some, ← without_issue h, ← hm]
    rfl

/-- Of the handles that are disposed, the others are disposed without the extra one. -/
lemma without_dispose (serials : List Nat) :
    (ledger.dispose serials).without extra =
      (ledger.without extra).dispose (others extra serials) := by
  simp only [without, dispose, others_append]

/-- An event disposes the same handles. -/
lemma disposedBy_without (h : some extra ∉ ledger.slots) (event : Event) :
    (ledger.without extra).disposedBy event = others extra (ledger.disposedBy event) := by
  cases event with
  | dispose slot =>
    simp only [disposedBy, serial?_without]
    cases hs : ledger.serial? slot with
    | none => rfl
    | some serial => exact (others_singleton (ne_of_serial? h hs)).symm
  | deactivate context =>
    simp only [disposedBy, getElem?_contexts_without, others_reverse]
    cases ledger.contexts[context]? <;> rfl
  | _ => rfl

/-- An event moves the same handles. -/
lemma without_move (hl : extra < ledger.issued.length) (h : some extra ∉ ledger.slots)
    (event : Event) : (ledger.move event).without extra = (ledger.without extra).move event := by
  have store? (registry : Nat) : (ledger.without extra).store? registry = ledger.store? registry :=
    rfl
  cases event with
  | cloneRegistry registry =>
    simp only [move]
    cases hs : ledger.store? registry with
    | none =>
      rw [ledger.inRange.find?_eq_none hs, (ledger.without extra).inRange.find?_eq_none hs]
    | some store =>
      rw [ledger.inRange.find?_eq_some hs, (ledger.without extra).inRange.find?_eq_some hs]
      rfl
  | register registry language provider =>
    simp only [move, store?]
    cases ledger.store? registry with
    | none => rfl
    | some store => exact without_issueToSlot hl _
  | newHandle tag => exact without_issueToSlot hl _
  | dropHandle slot => simp only [move, without, List.map_set, Option.map_none]
  | newContext => simp only [move, without, List.map_append, List.map_singleton, others_nil]
  | push slot context =>
    simp only [move, getElem?_contexts_without, serial?_without]
    cases ledger.contexts[context]? with
    | none => rfl
    | some held =>
      cases hs : ledger.serial? slot with
      | none => rfl
      | some serial =>
        simp only [without, List.map_set, Option.map_none, Option.map_some, others_append,
          others_singleton (ne_of_serial? h hs)]
  | activate registry context =>
    simp only [move, store?]
    cases ledger.store? registry with
    | none => rfl
    | some store => exact without_issueToContext hl _ context
  | activateNoting context => exact without_issueToContext hl _ context
  | deactivate context => simp only [move, without, List.map_set, others_nil]
  | newRegistry | dropRegistry | dispose | inspect | inspectContext | providersFor | entriesFor
  | inspectRegistry => rfl

/-- An event does the same to the ledger without a handle that is in no slot. -/
theorem without_after (hl : extra < ledger.issued.length) (h : some extra ∉ ledger.slots)
    (event : Event) : (ledger.after event).without extra = (ledger.without extra).after event := by
  rw [after, without_dispose, without_move hl h, ← disposedBy_without h, after]

end Ledger

end TucServer
