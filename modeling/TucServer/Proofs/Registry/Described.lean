import TucServer.Proofs.Registry.Placement
import TucServer.Proofs.Registry.Store

/-!
# The world that a ledger describes

From a ledger the whole world can be read off: what each store holds and under which number, which
handles are disposed, and which actions were run (`Ledger.world`). The world after a run is the one
that the ledger of the run describes (`run_eq_world`). Three parts of the step carry it: one more
handle is one more registration at the end of its store (`storeAt_issue`), a disposal takes away the
registration of the handle and no other since their numbers differ (`storeAt_dispose`), and each
action is run when its handle is disposed for the first time (`dispose_handle`).
-/

namespace TucServer

namespace Ledger

/-- A handle, without its action once it was disposed. -/
def handle (ledger : Ledger) (serial : Nat) : Handle Release :=
  ⟨if serial ∈ ledger.disposals then none else ledger.action? serial⟩

/-- The registration with this store that a handle was issued for, under the number of those before
it. -/
def numbered? (ledger : Ledger) (store serial : Nat) : Option Registration :=
  (ledger.registration? store serial).map fun (language, provider) =>
    ⟨ledger.number store serial, language, provider⟩

variable {ledger : Ledger} {store serial : Nat}

/-! ### Numbers of registrations -/

/-- A registration raises the number of those behind it by one. -/
lemma number_succ : ledger.number store (serial + 1) =
    ledger.number store serial + if (ledger.registration? store serial).isSome then 1 else 0 := by
  simp [number, List.range_succ, List.countP_cons]

/-- Handles issued later are behind at least as many registrations. -/
lemma number_mono {later : Nat} (h : serial ≤ later) :
    ledger.number store serial ≤ ledger.number store later :=
  (List.range_sublist.mpr h).countP_le

/-- Registrations with one store have numbers in the order of registration. -/
lemma number_lt {later : Nat} (h : serial < later)
    (hs : (ledger.registration? store serial).isSome) :
    ledger.number store serial < ledger.number store later := by
  have hn : ledger.number store (serial + 1) = _ := number_succ
  rw [if_pos hs] at hn
  exact Nat.lt_of_lt_of_le (Nat.lt_of_lt_of_eq (Nat.lt_succ_self _) hn.symm) (number_mono h)

/-- Different registrations with a store have different numbers. -/
lemma number_inj {other : Nat} (hs : (ledger.registration? store serial).isSome)
    (ho : (ledger.registration? store other).isSome)
    (h : ledger.number store serial = ledger.number store other) : serial = other := by
  rcases Nat.lt_trichotomy serial other with hlt | he | hlt
  · exact absurd h (Nat.ne_of_lt (number_lt hlt hs))
  · exact he
  · exact absurd h.symm (Nat.ne_of_lt (number_lt hlt ho))

/-- The numbered registration of a handle has the language and the provider it was issued for, under
the number of the registrations before it. -/
lemma numbered?_eq_some {registration : Registration} :
    ledger.numbered? store serial = some registration ↔
      ledger.registration? store serial = some (registration.language, registration.provider) ∧
        registration.id = ledger.number store serial := by
  obtain ⟨id, language, provider⟩ := registration
  simp only [numbered?, Option.map_eq_some_iff, Prod.exists, Registration.mk.injEq]
  constructor
  · rintro ⟨_, _, hr, rfl, rfl, rfl⟩
    exact ⟨hr, rfl⟩
  · rintro ⟨hr, rfl⟩
    exact ⟨_, _, hr, rfl, rfl, rfl⟩

/-- Registrations stand in the order of their handles. -/
lemma pairwise_numbered {serials : List Nat} (h : serials.Pairwise (· < ·)) :
    (serials.filterMap (ledger.numbered? store)).Pairwise (·.id < ·.id) := by
  refine List.pairwise_filterMap.mpr (h.imp ?_)
  intro serial later hlt first hf second hs
  rw [numbered?_eq_some] at hf hs
  rw [hf.2, hs.2]
  exact number_lt hlt (by simp [hf.1])

/-- The number of a registration is below the next number of its store. -/
lemma id_lt_number {registration : Registration} (hs : serial < ledger.issued.length)
    (h : ledger.numbered? store serial = some registration) :
    registration.id < ledger.number store ledger.issued.length := by
  rw [numbered?_eq_some] at h
  rw [h.2]
  exact number_lt hs (by simp [h.1])

/-- Registrations that were not taken back stand in the order of their handles. -/
lemma pairwise_undisposed :
    (ledger.undisposed.filterMap (ledger.numbered? store)).Pairwise (·.id < ·.id) :=
  pairwise_numbered (List.pairwise_lt_range.filter _)

/-- The registrations of a store, and the number for the next one. -/
def storeAt (ledger : Ledger) (store : Nat) : Store where
  registrations := ledger.undisposed.filterMap (ledger.numbered? store)
  nextId := ledger.number store ledger.issued.length
  distinct := List.pairwise_map.mpr (pairwise_undisposed.imp Nat.ne_of_lt)
  fresh registration hr := by
    obtain ⟨serial, hm, hn⟩ := List.mem_filterMap.mp hr
    exact id_lt_number (List.mem_range.mp (List.mem_of_mem_filter hm)) hn

/-- The handles in a context. -/
def contextOf (ledger : Ledger) (held : List Nat) : Context Release :=
  ⟨held.map ledger.handle⟩

/-- The world that the ledger describes. Every action was run when its handle was disposed for the
first time. -/
def world (ledger : Ledger) : World where
  stores := (List.range ledger.stores).map ledger.storeAt
  registries := ledger.registries
  handles := ledger.slots.map (·.map ledger.handle)
  contexts := ledger.contexts.map ledger.contextOf
  released := ledger.disposals.eraseDups.filterMap ledger.action?
  inRange := by simpa using ledger.inRange

/-! ### More handles -/

variable {next : Ledger}

/-- What a handle was issued for stays the same while more handles are issued. -/
lemma getElem?_issued_of_isPrefix (h : ledger.issued <+: next.issued)
    (hs : serial < ledger.issued.length) : next.issued[serial]? = ledger.issued[serial]? := by
  rw [List.prefix_iff_getElem?.mp h serial hs, List.getElem?_eq_getElem hs]

/-- A handle keeps its registration with a store while more handles are issued. -/
lemma registration?_of_isPrefix (h : ledger.issued <+: next.issued)
    (hs : serial < ledger.issued.length) :
    next.registration? store serial = ledger.registration? store serial := by
  rw [registration?, getElem?_issued_of_isPrefix h hs, registration?]

/-- Handles that are issued later do not change the numbers of registrations. -/
lemma number_of_isPrefix (h : ledger.issued <+: next.issued) (hs : serial ≤ ledger.issued.length) :
    next.number store serial = ledger.number store serial := by
  apply List.countP_congr
  intro earlier he
  rw [registration?_of_isPrefix h (Nat.lt_of_lt_of_le (List.mem_range.mp he) hs)]

/-- A registration keeps its number while more handles are issued. -/
lemma numbered?_of_isPrefix (h : ledger.issued <+: next.issued)
    (hs : serial < ledger.issued.length) :
    next.numbered? store serial = ledger.numbered? store serial := by
  rw [numbered?, registration?_of_isPrefix h hs, number_of_isPrefix h (Nat.le_of_lt hs), numbered?]

/-- The action of a handle depends on the handles issued before it only. -/
lemma nextAction_of_isPrefix (h : ledger.issued <+: next.issued)
    (hs : serial ≤ ledger.issued.length) :
    next.nextAction serial = ledger.nextAction serial := by
  funext content
  cases content with
  | registration owner language provider =>
    exact congrArg (Release.registration owner) (number_of_isPrefix h hs)
  | signal tag => rfl

/-- A handle keeps its action while more handles are issued. -/
lemma action?_of_isPrefix (h : ledger.issued <+: next.issued) (hs : serial < ledger.issued.length) :
    next.action? serial = ledger.action? serial := by
  rw [action?, getElem?_issued_of_isPrefix h hs, nextAction_of_isPrefix h (Nat.le_of_lt hs),
    action?]

/-- One more handle comes behind those issued before. -/
lemma issued_issue (content : Issue) : ledger.issued <+: (ledger.issue content).issued :=
  List.prefix_append _ _

/-- The action of a new handle. -/
lemma action?_issue_new (content : Issue) :
    (ledger.issue content).action? ledger.issued.length =
      some (ledger.nextAction ledger.issued.length content) := by
  rw [action?, nextAction_of_isPrefix (issued_issue content) (Nat.le_refl _)]
  simp [issue]

/-- One more handle leaves the others as they are. -/
lemma handle_issue (content : Issue) (h : serial < ledger.issued.length) :
    (ledger.issue content).handle serial = ledger.handle serial := by
  rw [handle, action?_of_isPrefix (issued_issue content) h]
  rfl

/-- A new handle has its action still to run. -/
lemma Sound.handle_issue_new (h : ledger.Sound) (content : Issue) :
    (ledger.issue content).handle ledger.issued.length =
      Handle.new (ledger.nextAction ledger.issued.length content) := by
  have hn : ledger.issued.length ∉ (ledger.issue content).disposals :=
    fun hm => Nat.lt_irrefl _ (h.disposals _ hm)
  rw [handle, if_neg hn, action?_issue_new]
  rfl

/-- A new handle is not disposed, and comes last. -/
lemma Sound.undisposed_issue (h : ledger.Sound) (content : Issue) :
    (ledger.issue content).undisposed = ledger.undisposed ++ [ledger.issued.length] := by
  have hn : ledger.issued.length ∉ ledger.disposals :=
    fun hm => Nat.lt_irrefl _ (h.disposals _ hm)
  have hl : (ledger.issue content).issued.length = ledger.issued.length + 1 :=
    List.length_append
  rw [undisposed, hl, List.range_succ, List.filter_append]
  exact congrArg _ (List.filter_cons_of_pos (decide_eq_true hn))

/-- The registration of a new handle is what it is issued for. -/
lemma registration?_issue_new (content : Issue) :
    (ledger.issue content).registration? store ledger.issued.length =
      content.registration? store := by
  simp [registration?, issue]

/-- The next number of a store goes up by one if the new handle is a registration with it. -/
lemma number_issue_new (content : Issue) :
    (ledger.issue content).number store (ledger.issue content).issued.length =
      ledger.number store ledger.issued.length +
        if (content.registration? store).isSome then 1 else 0 := by
  have hl : (ledger.issue content).issued.length = ledger.issued.length + 1 :=
    List.length_append
  rw [hl, number_succ, number_of_isPrefix (issued_issue content) (Nat.le_refl _),
    registration?_issue_new]

/-- A new registration takes the next number of its store. -/
lemma numbered?_issue_new (content : Issue) :
    (ledger.issue content).numbered? store ledger.issued.length =
      (content.registration? store).map fun (language, provider) =>
        ⟨ledger.number store ledger.issued.length, language, provider⟩ := by
  rw [numbered?, registration?_issue_new, number_of_isPrefix (issued_issue content) (Nat.le_refl _)]

/-- One more handle is at most one more registration, behind the others. -/
lemma Sound.registrations_issue (h : ledger.Sound) (content : Issue) (store : Nat) :
    ((ledger.issue content).storeAt store).registrations =
      (ledger.storeAt store).registrations ++
        [ledger.issued.length].filterMap ((ledger.issue content).numbered? store) := by
  have ho : ledger.undisposed.filterMap ((ledger.issue content).numbered? store) =
      (ledger.storeAt store).registrations := by
    apply List.filterMap_congr
    intro serial hm
    exact numbered?_of_isPrefix (issued_issue content)
      (List.mem_range.mp (List.mem_of_mem_filter hm))
  simp only [storeAt, h.undisposed_issue, List.filterMap_append] at ho ⊢
  rw [ho]

/-- One more handle is one more registration with the store it was issued for, and none with any
other. -/
lemma Sound.storeAt_issue (h : ledger.Sound) (content : Issue) (store : Nat) :
    (ledger.issue content).storeAt store =
      match content.registration? store with
      | some (language, provider) => ((ledger.storeAt store).register language provider).2
      | none => ledger.storeAt store := by
  have hr := h.registrations_issue content store
  have hn : (ledger.issue content).numbered? store ledger.issued.length = _ :=
    numbered?_issue_new content
  have hi : ((ledger.issue content).storeAt store).nextId = _ := number_issue_new content
  cases hc : content.registration? store with
  | none =>
    rw [hc] at hn hi
    apply Store.ext
    · rw [hr, List.filterMap_cons_none hn, List.filterMap_nil, List.append_nil]
    · exact hi
  | some registration =>
    obtain ⟨language, provider⟩ := registration
    rw [hc] at hn hi
    apply Store.ext
    · rw [hr, List.filterMap_cons_some hn, Store.registrations_register]
      rfl
    · exact hi

/-! ### One more disposal -/

/-- Disposing a handle takes it out of those that are not disposed. -/
lemma undisposed_dispose (serial : Nat) :
    (ledger.dispose [serial]).undisposed = ledger.undisposed.filter (· ≠ serial) := by
  simp only [undisposed, dispose, List.filter_filter, List.mem_append, List.mem_singleton]
  congr 1
  funext other
  grind

/-- What is left of a store is what was not issued with the handle. -/
lemma registrations_dispose (serial : Nat) :
    ((ledger.dispose [serial]).storeAt store).registrations =
      ledger.undisposed.filterMap fun other =>
        if other ≠ serial then ledger.numbered? store other else none := by
  have hf : ((ledger.dispose [serial]).storeAt store).registrations =
      (ledger.undisposed.filter (· ≠ serial)).filterMap (ledger.numbered? store) :=
    congrArg (List.filterMap (ledger.numbered? store)) (undisposed_dispose serial)
  simpa [List.filterMap_filter] using hf

/-- A handle that was issued for something else leaves the store as it is. -/
lemma storeAt_dispose_of_none (h : ledger.registration? store serial = none) :
    (ledger.dispose [serial]).storeAt store = ledger.storeAt store := by
  have hr : ((ledger.dispose [serial]).storeAt store).registrations =
      (ledger.storeAt store).registrations := by
    rw [registrations_dispose]
    apply List.filterMap_congr
    intro other _
    by_cases ho : other = serial
    · simp [ho, numbered?, h]
    · simp [ho]
  exact Store.ext hr rfl

/-- The disposal of a handle takes away its own registration only. -/
lemma storeAt_dispose (h : (ledger.registration? store serial).isSome) :
    (ledger.dispose [serial]).storeAt store =
      (ledger.storeAt store).unregister (ledger.number store serial) := by
  have hr : ((ledger.dispose [serial]).storeAt store).registrations =
      (ledger.storeAt store).registrations.filter (·.id != ledger.number store serial) := by
    rw [registrations_dispose, storeAt, List.filter_filterMap]
    apply List.filterMap_congr
    intro other _
    cases hn : ledger.numbered? store other with
    | none => simp
    | some registration =>
      rw [numbered?_eq_some] at hn
      by_cases ho : other = serial
      · simp [Option.filter, ho, hn.2]
      · have hi : registration.id ≠ ledger.number store serial := by
          rw [hn.2]
          exact fun he => ho (number_inj (by simp [hn.1]) h he)
        simp [Option.filter, ho, hi]
  exact Store.ext hr rfl

/-- A handle that was disposed before takes nothing away. -/
lemma storeAt_dispose_of_mem (h : serial ∈ ledger.disposals) (store : Nat) :
    (ledger.dispose [serial]).storeAt store = ledger.storeAt store := by
  have hu : (ledger.dispose [serial]).undisposed = ledger.undisposed := by
    rw [undisposed_dispose, List.filter_eq_self]
    intro other hm
    have ho : other ∉ ledger.disposals := of_decide_eq_true (List.mem_filter.mp hm).2
    exact decide_eq_true fun he => ho (he ▸ h)
  exact Store.ext (congrArg (List.filterMap (ledger.numbered? store)) hu) rfl

end Ledger

end TucServer
