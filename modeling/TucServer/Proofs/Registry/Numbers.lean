import TucServer.Proofs.Registry.Releases

/-!
# Numbers are never used again

The number of a registration is in the action of its handle and nowhere else. A run is followed by
the list of the registrations it makes with one store, each under the number that is read off the
handle just issued (`World.registered`). An event either makes one such registration, which comes
behind those that are there and takes the place of none, or takes away those whose handles it
disposes (`Sound.store_after`). Since the numbers are distinct, whoever disposes a handle takes away
what was registered with this handle, however long ago that was (`World.numbers_never_reused`).
-/

namespace TucServer

/-- The number in the action of a handle, if the action takes a registration back from this
store. -/
def Handle.number? (store : Nat) (handle : Handle Release) : Option Nat :=
  match handle.pending with
  | some (.registration owner id) => if owner = store then some id else none
  | some (.signal _) | none => none

/-- The store without the registrations of these numbers. -/
def Store.withdraw (store : Store) (ids : List Nat) : Store where
  registrations := store.registrations.filter (·.id ∉ ids)
  nextId := store.nextId
  distinct := store.distinct.sublist (List.filter_sublist.map _)
  fresh registration h := store.fresh registration (List.mem_of_mem_filter h)

/-- The store after its next registration. -/
def Store.add (store : Store) (registration : Registration) : Store :=
  (store.register registration.language registration.provider).2

/-- The language and the provider that an event registers. -/
def Event.offer? : Event → Option (String × Provider)
  | .register _ language provider => some (language, provider)
  | .activate _ _ => some (Catalog.language, Provider.keywords)
  | _ => none

namespace World

/-- The handle that an event issues, as it is found in its new slot or at the end of its context. -/
def issued? (world : World) (event : Event) : Option (Handle Release) :=
  match event with
  | .register _ _ _ | .newHandle _ => (world.after event).handle? world.handles.length
  | .activate _ context | .activateNoting context => do
    let before ← world.contexts[context]?
    let content ← (world.after event).contexts[context]?
    content.handles[before.handles.length]?
  | _ => none

/-- The registration that an event makes with a store, under the number in the handle it issues. -/
def registered? (world : World) (store : Nat) (event : Event) : Option Registration := do
  let (language, provider) ← event.offer?
  let handle ← world.issued? event
  let id ← handle.number? store
  some ⟨id, language, provider⟩

/-- The registrations that a run makes with a store, in this order. -/
def registered (world : World) (store : Nat) : List Event → List Registration
  | [] => []
  | event :: events =>
    (world.registered? store event).toList ++ (world.after event).registered store events

/-- The handles that an event disposes, disposed before or not. -/
def disposedBy (world : World) : Event → List (Handle Release)
  | .dispose slot => (world.handle? slot).toList
  | .deactivate context => (world.contexts[context]?.map (·.handles)).getD []
  | _ => []

end World

/-- What is found in the first element comes before what is found in the others. -/
lemma filterMap_cons_eq {α β : Type} (f : α → Option β) (head : α) (tail : List α) :
    (head :: tail).filterMap f = (f head).toList ++ tail.filterMap f := by
  rw [List.filterMap_cons]
  cases f head <;> rfl

/-- A registration under the next number comes behind those that the store has. -/
lemma Store.registrations_add (store : Store) {registration : Registration}
    (h : registration.id = store.nextId) :
    (store.add registration).registrations = store.registrations ++ [registration] := by
  rw [add, registrations_register, ← h]

/-! ### What a disposal takes away -/

/-- Without a number nothing is taken away. -/
@[simp] lemma Store.withdraw_nil (store : Store) : store.withdraw [] = store := by
  simp [withdraw]

/-- What is taken away one after the other may be taken away together. -/
lemma Store.withdraw_withdraw (store : Store) (first second : List Nat) :
    (store.withdraw second).withdraw first = store.withdraw (first ++ second) := by
  simp only [withdraw, List.filter_filter, List.mem_append, not_or, Bool.decide_and]

/-- Taking one registration back. -/
lemma Store.unregister_eq (store : Store) (id : Nat) :
    store.unregister id = store.withdraw [id] := by
  refine Store.ext (List.filter_congr fun registration _ => ?_) rfl
  simp only [bne, beq_eq_decide, List.mem_singleton, decide_not]

namespace World

variable {world : World} {number : Nat}

/-- A handle takes away what is under its number, from its own store only. -/
lemma getElem?_stores_dispose (handle : Handle Release) :
    (handle.dispose release world).2.stores[number]? =
      world.stores[number]?.map (·.withdraw (handle.number? number).toList) := by
  obtain ⟨pending⟩ := handle
  cases pending with
  | none => simp [Handle.dispose, Handle.number?]
  | some action =>
    cases action with
    | signal tag => simp [Handle.dispose, Handle.number?, release]
    | registration owner id =>
      simp only [Handle.dispose, Handle.number?, release, List.getElem?_modify]
      split
      · simp [Store.unregister_eq]
      · simp

/-- Handles take away what is under their numbers, one after the other. -/
lemma getElem?_stores_foldr (handles : List (Handle Release)) :
    (handles.foldr (fun handle world => (handle.dispose release world).2) world).stores[number]? =
      world.stores[number]?.map (·.withdraw (handles.filterMap (Handle.number? number))) := by
  induction handles with
  | nil => simp
  | cons handle handles ih =>
    rw [List.foldr_cons, getElem?_stores_dispose, ih, Option.map_map, filterMap_cons_eq]
    congr 1
    funext store
    exact store.withdraw_withdraw _ _

/-- Disposing the handle in a slot takes away what is under its number. -/
lemma getElem?_stores_after_dispose (slot : Nat) :
    (world.after (.dispose slot)).stores[number]? = world.stores[number]?.map
      (·.withdraw ((world.disposedBy (.dispose slot)).filterMap (Handle.number? number))) := by
  cases hh : world.handle? slot with
  | none => simp [after, perform, disposedBy, hh]
  | some handle =>
    simp only [after, perform, disposedBy, hh]
    exact getElem?_stores_foldr [handle]

/-- Deactivating a context takes away what is under the numbers of its handles. -/
lemma getElem?_stores_after_deactivate (context : Nat) :
    (world.after (.deactivate context)).stores[number]? = world.stores[number]?.map
      (·.withdraw ((world.disposedBy (.deactivate context)).filterMap
        (Handle.number? number))) := by
  cases hc : world.contexts[context]? with
  | none => simp [after, perform, disposedBy, hc]
  | some content =>
    simp only [after, perform, disposedBy, hc]
    exact getElem?_stores_foldr content.handles

end World

/-! ### What an event registers -/

namespace Ledger

variable {ledger next : Ledger} {number serial : Nat}

/-- What an event issues a handle for. -/
def issues? (ledger : Ledger) : Event → Option Issue
  | .register registry language provider =>
    (ledger.store? registry).map (.registration · language provider)
  | .newHandle tag => some (.signal tag)
  | .activate registry context => do
    let store ← ledger.store? registry
    let _ ← ledger.contexts[context]?
    some (.registration store Catalog.language Provider.keywords)
  | .activateNoting context =>
    ledger.contexts[context]?.map fun _ => .signal ("host:" ++ Catalog.language)
  | _ => none

/-- A handle is issued to a context if there is one of this number. -/
lemma issued_issueToContext_eq (content : Issue) (context : Nat) :
    (ledger.issueToContext content context).issued =
      ((ledger.contexts[context]?.map fun _ => content).elim ledger ledger.issue).issued := by
  rw [issueToContext]
  cases ledger.contexts[context]? <;> rfl

/-- An event issues one handle or none. -/
lemma issued_after (event : Event) :
    (ledger.after event).issued = ((ledger.issues? event).elim ledger ledger.issue).issued := by
  show (ledger.move event).issued = _
  cases event with
  | register registry language provider =>
    simp only [move, issues?]
    cases ledger.store? registry <;> rfl
  | activate registry context =>
    simp only [move, issues?]
    cases ledger.store? registry with
    | none => rfl
    | some store =>
      rw [issued_issueToContext_eq]
      cases ledger.contexts[context]? <;> rfl
  | activateNoting context => exact issued_issueToContext_eq _ context
  | cloneRegistry | push =>
    simp only [move, issues?]
    split <;> rfl
  | _ => rfl

/-- The registrations made with a store, disposed or not. -/
def logged (ledger : Ledger) (number : Nat) : List Registration :=
  (List.range ledger.issued.length).filterMap (ledger.numbered? number)

/-- The registration that comes next, if a handle is issued for one. -/
def nextLogged? (ledger : Ledger) (number : Nat) (content : Issue) : Option Registration :=
  (content.registration? number).map fun (language, provider) =>
    ⟨ledger.number number ledger.issued.length, language, provider⟩

/-- The next registration is under the next number of its store. -/
lemma id_nextLogged {content : Issue} {registration : Registration}
    (h : ledger.nextLogged? number content = some registration) :
    registration.id = (ledger.storeAt number).nextId := by
  obtain ⟨_, _, rfl⟩ := Option.map_eq_some_iff.mp h
  rfl

/-- A registration comes behind all that were made with its store. -/
lemma logged_issue (content : Issue) :
    (ledger.issue content).logged number =
      ledger.logged number ++ (ledger.nextLogged? number content).toList := by
  have hl : (ledger.issue content).issued.length = ledger.issued.length + 1 :=
    List.length_append
  have hn : (ledger.issue content).numbered? number ledger.issued.length =
      ledger.nextLogged? number content := numbered?_issue_new content
  rw [logged, hl, List.range_succ, List.filterMap_append, filterMap_cons_eq, hn,
    List.filterMap_nil, List.append_nil]
  congr 1
  apply List.filterMap_congr
  intro serial hs
  exact numbered?_of_isPrefix (issued_issue content) (List.mem_range.mp hs)

/-- The registrations made with a store depend on what was issued only. -/
lemma logged_congr (h : next.issued = ledger.issued) :
    next.logged number = ledger.logged number := by
  obtain ⟨_, _, _, _, _, _⟩ := ledger
  obtain ⟨_, _, _, _, _, _⟩ := next
  cases h
  rfl

/-- What a store holds depends on what was issued and disposed only. -/
lemma storeAt_congr (hi : next.issued = ledger.issued) (hd : next.disposals = ledger.disposals) :
    next.storeAt number = ledger.storeAt number := by
  obtain ⟨_, _, _, _, _, _⟩ := ledger
  obtain ⟨_, _, _, _, _, _⟩ := next
  cases hi
  cases hd
  rfl

/-- An event adds to the registrations of a store the one it makes, if it makes one. -/
lemma logged_after (event : Event) :
    (ledger.after event).logged number =
      ledger.logged number ++ (ledger.issues? event >>= ledger.nextLogged? number).toList := by
  rw [logged_congr (issued_after event)]
  cases ledger.issues? event with
  | none => exact (List.append_nil _).symm
  | some content => exact logged_issue content

/-- A new registration comes behind the others, under the number that the store has for it. -/
lemma Sound.storeAt_nextLogged (h : ledger.Sound) (content : Issue) :
    (ledger.issue content).storeAt number =
      (ledger.nextLogged? number content).elim (ledger.storeAt number)
        (ledger.storeAt number).add := by
  rw [h.storeAt_issue, nextLogged?]
  cases content.registration? number with
  | none => rfl
  | some offer =>
    rfl

/-- An event that disposes nothing adds the registration it makes to its store. -/
lemma Sound.storeAt_after (h : ledger.Sound) {event : Event} (hd : ledger.disposedBy event = []) :
    (ledger.after event).storeAt number =
      (ledger.issues? event >>= ledger.nextLogged? number).elim (ledger.storeAt number)
        (ledger.storeAt number).add := by
  have hn : (ledger.after event).disposals =
      ((ledger.issues? event).elim ledger ledger.issue).disposals := by
    rw [after_eq_move hd, disposals_move]
    cases ledger.issues? event <;> rfl
  rw [storeAt_congr (issued_after event) hn]
  cases ledger.issues? event with
  | none => rfl
  | some content => exact h.storeAt_nextLogged content

/-! ### The number in the handle -/

/-- The handle of a registration has its number in its action. -/
lemma number?_nextAction (store : Nat) (language : String) (provider : Provider) :
    ((Handle.new (ledger.nextAction ledger.issued.length
        (.registration store language provider))).number? number >>= fun id =>
      some (Registration.mk id language provider)) =
      ledger.nextLogged? number (.registration store language provider) := by
  simp only [nextAction, Handle.new, Handle.number?, nextLogged?, Issue.registration?]
  split
  · rename_i he
    rw [he]
    rfl
  · rfl

/-- A registration puts its handle into a new slot. -/
lemma Sound.issued?_register (h : ledger.Sound) (registry : Nat) (language : String)
    (provider : Provider) :
    ledger.world.issued? (.register registry language provider) =
      (ledger.issues? (.register registry language provider)).map fun content =>
        Handle.new (ledger.nextAction ledger.issued.length content) := by
  have hl : ledger.world.handles.length = ledger.slots.length := List.length_map _
  rw [World.issued?, h.world_after, handle?_world, hl, after_eq_move rfl]
  simp only [Ledger.move, issues?]
  cases ledger.store? registry with
  | none => simp [serial?]
  | some store =>
    have hs : (ledger.issueToSlot (.registration store language provider)).serial?
        ledger.slots.length = some ledger.issued.length := by
      simp [serial?, Ledger.issueToSlot]
    rw [hs]
    exact congrArg some (h.handle_issue_new _)

/-- An activation puts its handle at the end of its context. -/
lemma Sound.issued?_activate (h : ledger.Sound) (registry context : Nat) :
    ledger.world.issued? (.activate registry context) =
      (ledger.issues? (.activate registry context)).map fun content =>
        Handle.new (ledger.nextAction ledger.issued.length content) := by
  rw [World.issued?, h.world_after, getElem?_contexts, after_eq_move rfl]
  simp only [Ledger.move, issues?]
  cases hc : ledger.contexts[context]? with
  | none => cases ledger.store? registry <;> rfl
  | some held =>
    cases ledger.store? registry with
    | none =>
      rw [getElem?_contexts, hc]
      exact List.getElem?_eq_none (Nat.le_refl _)
    | some store =>
      have hl : context < (ledger.issue
          (.registration store Catalog.language Provider.keywords)).world.contexts.length := by
        rw [world, List.length_map]
        exact (List.getElem?_eq_some_iff.mp hc).1
      simp only [h.world_issueToContext _ hc, World.setContext, List.getElem?_set_self hl]
      exact List.getElem?_concat_length

/-- The registration that is read off the new handle is the next one of the log. -/
lemma Sound.registered?_world (h : ledger.Sound) (event : Event) :
    ledger.world.registered? number event = ledger.issues? event >>= ledger.nextLogged? number := by
  cases event with
  | register registry language provider =>
    simp only [World.registered?, h.issued?_register, Event.offer?, issues?]
    cases ledger.store? registry with
    | none => rfl
    | some store => exact number?_nextAction store language provider
  | activate registry context =>
    simp only [World.registered?, h.issued?_activate, Event.offer?, issues?]
    cases ledger.store? registry with
    | none => rfl
    | some store =>
      cases ledger.contexts[context]? with
      | none => rfl
      | some held => exact number?_nextAction store Catalog.language Provider.keywords
  | newHandle tag => rfl
  | activateNoting context =>
    simp only [World.registered?, Event.offer?, issues?]
    cases ledger.contexts[context]? <;> rfl
  | _ => rfl

/-- The registrations read off the handles of a run are those that the log has gained. -/
lemma Sound.logged_run (h : ledger.Sound) (events : List Event) :
    (ledger.run events).logged number =
      ledger.logged number ++ ledger.world.registered number events := by
  induction events generalizing ledger with
  | nil => exact (List.append_nil _).symm
  | cons event events ih =>
    show ((ledger.after event).run events).logged number = _
    rw [ih (h.after event), logged_after, ← h.registered?_world, List.append_assoc,
      World.registered, h.world_after]

/-- Stores are never lost. -/
lemma stores_le_after (event : Event) : ledger.stores ≤ (ledger.after event).stores := by
  show ledger.stores ≤ (ledger.move event).stores
  cases event with
  | newRegistry => exact Nat.le_succ _
  | cloneRegistry | register | push =>
    simp only [move]
    split <;> exact Nat.le_refl _
  | activate =>
    simp only [move]
    split
    · exact Nat.le_of_eq (stores_issueToContext ..).symm
    · exact Nat.le_refl _
  | activateNoting => exact Nat.le_of_eq (stores_issueToContext ..).symm
  | _ => exact Nat.le_refl _

/-- An event that disposes nothing makes one more registration with a store, or leaves it. -/
lemma Sound.store_after_of_disposes_nothing (h : ledger.Sound) (hn : number < ledger.stores)
    {event : Event} (hd : ledger.disposedBy event = []) :
    (ledger.world.after event).stores[number]? =
      some ((ledger.world.registered? number event).elim (ledger.storeAt number)
        (ledger.storeAt number).add) := by
  have hl : number < (ledger.after event).stores := Nat.lt_of_lt_of_le hn (stores_le_after event)
  rw [h.world_after, getElem?_stores hl, h.storeAt_after hd, h.registered?_world]

/-- An event makes one more registration with a store, or takes away those of the handles that it
disposes. -/
lemma Sound.store_after (h : ledger.Sound) (hn : number < ledger.stores) (event : Event) :
    (ledger.world.after event).stores[number]? =
      some ((ledger.world.registered? number event).elim
        ((ledger.storeAt number).withdraw
          ((ledger.world.disposedBy event).filterMap (Handle.number? number)))
        (ledger.storeAt number).add) := by
  have hs := getElem?_stores hn
  have kept (store : Store) : store.withdraw ([].filterMap (Handle.number? number)) = store :=
    store.withdraw_nil
  cases event with
  | dispose slot =>
    rw [World.getElem?_stores_after_dispose, hs]
    rfl
  | deactivate context =>
    rw [World.getElem?_stores_after_deactivate, hs]
    rfl
  | _ =>
    simp only [World.disposedBy, kept]
    exact h.store_after_of_disposes_nothing hn rfl

/-! ### The log of registrations -/

/-- Numbers go up in the order of registration. -/
lemma pairwise_logged : (ledger.logged number).Pairwise (·.id < ·.id) :=
  pairwise_numbered List.pairwise_lt_range

/-- No two registrations with a store have the same number, whatever was disposed in between. -/
lemma nodup_logged : ((ledger.logged number).map (·.id)).Nodup :=
  List.pairwise_map.mpr (pairwise_logged.imp Nat.ne_of_lt)

/-- The next number of a store is how many registrations were made with it. -/
lemma length_logged :
    (ledger.logged number).length = ledger.number number ledger.issued.length := by
  rw [logged, List.length_filterMap_eq_countP, Ledger.number]
  apply List.countP_congr
  intro serial _
  rw [numbered?, Option.isSome_map]

/-- All numbers given so far are below the next one. -/
lemma id_lt_of_mem_logged {registration : Registration}
    (h : registration ∈ ledger.logged number) :
    registration.id < (ledger.storeAt number).nextId := by
  obtain ⟨serial, hm, hn⟩ := List.mem_filterMap.mp h
  exact id_lt_number (List.mem_range.mp hm) hn

/-- What a store holds was registered with it. -/
lemma registrations_sublist :
    (ledger.storeAt number).registrations.Sublist (ledger.logged number) :=
  List.filter_sublist.filterMap _

/-- The number in a handle is the one under which it was registered. -/
lemma exists_logged {id : Nat} (hs : serial < ledger.issued.length)
    (h : (ledger.handle serial).number? number = some id) :
    ∃ registration ∈ ledger.logged number, registration.id = id := by
  rw [Handle.number?] at h
  split at h
  case h_1 owner other hp =>
    split at h
    case isTrue he =>
      subst he
      cases h
      have ha : ledger.action? serial = some (.registration owner id) := by
        rw [handle] at hp
        split at hp
        · cases hp
        · exact hp
      obtain ⟨content, hc, hn⟩ := Option.map_eq_some_iff.mp ha
      cases content with
      | signal tag => cases hn
      | registration store language provider =>
        cases hn
        have hr : ledger.numbered? owner serial =
            some ⟨ledger.number owner serial, language, provider⟩ := by
          simp [numbered?_eq_some, registration?, hc, Issue.registration?]
        exact ⟨_, List.mem_filterMap.mpr ⟨serial, List.mem_range.mpr hs, hr⟩, rfl⟩
    case isFalse => cases h
  all_goals cases h

/-- A handle that an event disposes was issued before. -/
lemma Sound.exists_serial (h : ledger.Sound) {event : Event} {handle : Handle Release}
    (hm : handle ∈ ledger.world.disposedBy event) :
    ∃ serial < ledger.issued.length, handle = ledger.handle serial := by
  cases event with
  | dispose slot =>
    rw [World.disposedBy, handle?_world, Option.mem_toList, Option.map_eq_some_iff] at hm
    obtain ⟨serial, hs, rfl⟩ := hm
    exact ⟨serial, h.of_mem_slots hs, rfl⟩
  | deactivate context =>
    rw [World.disposedBy, getElem?_contexts] at hm
    cases hc : ledger.contexts[context]? with
    | none => simp [hc] at hm
    | some held =>
      rw [hc] at hm
      obtain ⟨serial, hs, rfl⟩ := List.mem_map.mp hm
      exact ⟨serial, h.of_mem_context (List.mem_of_getElem? hc) hs, rfl⟩
  | _ => cases hm

end Ledger

open Ledger in
/-- After every run with fewer registrations than the counter of a store can tell apart, the numbers
of what the store holds are distinct and below the next one. So are the numbers in all handles ever
issued for it, of which there are as many as the counter says, and what it holds was registered
under these numbers. A registration takes the next number and comes behind the others, none of which
it replaces, and any other event takes away what is under the numbers in the handles that it
disposes, which are those of their own registrations, and nothing else. -/
theorem World.numbers_never_reused (events : List Event) {number : Nat} {store : Store}
    (hs : (World.empty.run events).stores[number]? = some store)
    (hc : (World.empty.registered number events).length < UInt64.size) :
    let world := World.empty.run events
    let log := World.empty.registered number events
    ((store.registrations.map (·.id)).Nodup ∧ ∀ r ∈ store.registrations, r.id < store.nextId) ∧
      (((log.map (·.id)).map UInt64.ofNat).Nodup ∧ (∀ r ∈ log, r.id < store.nextId) ∧
        store.nextId = log.length) ∧
      store.registrations.Sublist log ∧
      (∀ event r, world.registered? number event = some r → r.id = store.nextId ∧
        ∃ next, (world.after event).stores[number]? = some next ∧
          next.registrations = store.registrations ++ [r] ∧ next.nextId = store.nextId + 1) ∧
      (∀ event, world.registered? number event = none →
        (world.after event).stores[number]? = some (store.withdraw
          ((world.disposedBy event).filterMap (Handle.number? number)))) ∧
      ∀ event, ∀ handle ∈ world.disposedBy event, ∀ id, handle.number? number = some id →
        ∃! r, r ∈ log ∧ r.id = id := by
  intro world log
  have hw : world = (Ledger.empty.run events).world := run_eq_world events
  have hl : log = (Ledger.empty.run events).logged number :=
    ((sound_empty.logged_run events).trans (List.nil_append _)).symm
  have h : (Ledger.empty.run events).Sound := sound_empty.run events
  have hs' : world.stores[number]? = some store := hs
  have hc' : log.length < UInt64.size := hc
  generalize Ledger.empty.run events = ledger at hw hl h
  rw [hw] at hs' ⊢
  rw [hl] at hc' ⊢
  have hn : number < ledger.stores := by
    simpa [Ledger.world] using (List.getElem?_eq_some_iff.mp hs').1
  obtain rfl : ledger.storeAt number = store := by
    rw [getElem?_stores hn] at hs'
    exact Option.some.inj hs'
  have hi : (ledger.storeAt number).nextId = (ledger.logged number).length := length_logged.symm
  refine ⟨⟨(ledger.storeAt number).distinct, (ledger.storeAt number).fresh⟩,
    ⟨?_, fun r hr => id_lt_of_mem_logged hr, hi⟩, registrations_sublist, ?_, ?_, ?_⟩
  · have hd : ((ledger.logged number).map (·.id)).Nodup := nodup_logged
    have hb : ∀ id ∈ (ledger.logged number).map (·.id), id < UInt64.size := by
      rw [List.forall_mem_map]
      intro r hr
      exact Nat.lt_trans (hi ▸ id_lt_of_mem_logged hr) hc'
    exact nodup_map_uint64 hd hb
  · intro event r hr
    have ha := h.store_after hn event
    rw [hr] at ha
    rw [h.registered?_world] at hr
    obtain ⟨content, -, hr⟩ := Option.bind_eq_some_iff.mp hr
    have hid := id_nextLogged hr
    exact ⟨hid, _, ha, Store.registrations_add _ hid, rfl⟩
  · intro event hr
    have ha := h.store_after hn event
    rwa [hr] at ha
  · intro event handle hm id hi
    obtain ⟨serial, hlt, rfl⟩ := h.exists_serial hm
    obtain ⟨r, hr, rfl⟩ := exists_logged hlt hi
    refine ⟨r, ⟨hr, rfl⟩, ?_⟩
    rintro other ⟨ho, he⟩
    exact List.inj_on_of_nodup_map nodup_logged ho hr he

/-- A handle that was disposed and is disposed again, after more was registered through a clone and
moved into a context. -/
theorem World.numbers_never_reused_stale :
    let events : List Event := [.newRegistry, .cloneRegistry 0, .newRegistry, .newContext,
      .register 0 "md" Provider.keywords, .register 1 "md" Provider.keywords,
      .register 2 "md" Provider.keywords, .dispose 0, .dropRegistry 0, .activate 1 0, .push 1 0]
    let world := World.empty.run events
    ∃ store, world.stores[0]? = some store ∧
      (World.empty.registered 0 events).length < UInt64.size ∧
      (World.empty.registered 0 events).map (·.id) = [0, 1, 2] ∧
      store.registrations.map (·.id) = [1, 2] ∧
      (world.after (.dispose 0)).stores[0]? = some store ∧
      ((world.after (.register 1 "md" Provider.keywords)).stores[0]?).map
        (·.registrations.map (·.id)) = some [1, 2, 3] ∧
      ∃ left, (world.after (.deactivate 0)).stores[0]? = some left ∧
        left.registrations = [] ∧ left.nextId = 3 := by
  intro events world
  obtain ⟨store, hs, hl, hi⟩ : ∃ store, world.stores[0]? = some store ∧
      store.registrations =
        [⟨1, "md", Provider.keywords⟩, ⟨2, Catalog.language, Provider.keywords⟩] ∧
      store.nextId = 3 := ⟨_, rfl, rfl, rfl⟩
  have hr : (World.empty.registered 0 events).map (·.id) = [0, 1, 2] := rfl
  have hc : (World.empty.registered 0 events).length < UInt64.size := by
    rw [← List.length_map, hr]
    decide
  obtain ⟨-, -, -, hn, hd, -⟩ := numbers_never_reused events hs hc
  refine ⟨store, hs, hc, hr, by rw [hl]; rfl, ?_, ?_, _, hd (.deactivate 0) rfl, ?_, hi⟩
  · exact (hd (.dispose 0) rfl).trans (congrArg some store.withdraw_nil)
  · obtain ⟨-, next, ha, hn, -⟩ :=
      hn (.register 1 "md" Provider.keywords) ⟨3, "md", Provider.keywords⟩ rfl
    rw [ha, Option.map_some, hn, hl]
    rfl
  · show store.registrations.filter _ = []
    rw [hl]
    rfl

end TucServer
