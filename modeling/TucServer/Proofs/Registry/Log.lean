import TucServer.Proofs.Registry.Run

/-!
# Registries as an ordered log

What a registry answers after a run is what the ledger of the run says of its store: the providers
whose handles were not disposed, in the order of registration, for each language. Neither the order
in which the store is visited nor anything that happened to other stores matters
(`registry_follows_log`).
-/

namespace TucServer

namespace Ledger

variable {ledger : Ledger} {store : Nat}

/-- A registry that is held refers to the store that the ledger describes. -/
lemma store?_world {registry : Nat} (hs : ledger.store? registry = some store) :
    ledger.world.store? registry = some (ledger.storeAt store) := by
  rw [World.store?, ledger.world.inRange.find?_eq_some hs]
  simp [world]

/-- Apart from their numbers, the registrations of a store are the live ones of the log. -/
lemma map_registrations :
    (ledger.storeAt store).registrations.map (fun r => (r.language, r.provider)) =
      ledger.live store := by
  rw [storeAt, List.map_filterMap, live]
  apply List.filterMap_congr
  intro serial _
  rw [numbered?, Option.map_map]
  exact Option.map_id'

/-- A store counts the registrations that are live. -/
lemma size_storeAt : (ledger.storeAt store).size = (ledger.live store).length := by
  rw [← map_registrations, List.length_map, Store.size]

/-- The providers of a language come in the order of the log, however the store is visited. -/
lemma serving_storeAt {visited : List Registration}
    (hv : visited.Perm (ledger.storeAt store).registrations) (language : String) :
    Registration.serving visited language = ledger.providersFor store language := by
  rw [Registration.serving_of_perm pairwise_undisposed hv, providersFor, ← map_registrations,
    List.filter_map, List.map_map]
  rfl

/-- A store answers a language with the providers of the live registrations, in their order. -/
lemma providersFor_storeAt (language : String) :
    (ledger.storeAt store).providersFor language = ledger.providersFor store language :=
  serving_storeAt (.refl _) language

/-- The answers come in the order of the log, however the store is visited. -/
lemma entriesFor_visited {visited : Store}
    (hv : visited.registrations.Perm (ledger.storeAt store).registrations)
    (language document : String) (position : Position) :
    visited.entriesFor language document position =
      if ledger.providersFor store language = [] then none
      else some ((ledger.providersFor store language).flatMap (·.entries document position)) := by
  rw [Store.entriesFor, Store.providersFor, serving_storeAt hv]
  cases ledger.providersFor store language with
  | nil => rfl
  | cons provider providers => rfl

/-- A store has entries for a language that a live registration serves, one answer behind the other.
-/
lemma entriesFor_storeAt (language document : String) (position : Position) :
    (ledger.storeAt store).entriesFor language document position =
      if ledger.providersFor store language = [] then none
      else some ((ledger.providersFor store language).flatMap (·.entries document position)) :=
  entriesFor_visited (.refl _) language document position

end Ledger

open Ledger in
/-- After every run, each registry that is still held answers as the log of the registrations that
were made through it or a registry it shares its store with by cloning, and whose handles were not
disposed. -/
theorem World.registry_follows_log (events : List Event) {registry number : Nat}
    (h : (World.empty.run events).storeOf? registry = some number) :
    (Ledger.empty.run events).store? registry = some number ∧
      ∃ store, (World.empty.run events).store? registry = some store ∧
        (∀ language visited, visited.Perm store.registrations →
          Registration.serving visited language =
            (Ledger.empty.run events).providersFor number language) ∧
        (∀ language, store.providersFor language =
          (Ledger.empty.run events).providersFor number language) ∧
        store.size = ((Ledger.empty.run events).live number).length ∧
        (store.isEmpty ↔ ((Ledger.empty.run events).live number).length = 0) ∧
        ∀ language document position, store.entriesFor language document position =
          if (Ledger.empty.run events).providersFor number language = [] then none
          else some (((Ledger.empty.run events).providersFor number language).flatMap
            (·.entries document position)) := by
  rw [run_eq_world] at h ⊢
  refine ⟨h, _, store?_world h, ?_, ?_, size_storeAt, ?_, entriesFor_storeAt⟩
  · intro language visited hv
    exact serving_storeAt hv language
  · exact providersFor_storeAt
  · rw [← size_storeAt, Store.isEmpty, List.isEmpty_iff_length_eq_zero, Store.size]

/-- A clone whose original was dropped: of three registrations for a language one was disposed, one
was taken back with its context, and one, whose handle was dropped, is left and answers nothing. A
registration with another store does not count. -/
theorem World.registry_follows_log_clone :
    let quiet : Provider := ⟨fun _ _ => []⟩
    let events : List Event := [.newRegistry, .cloneRegistry 0, .newRegistry, .newContext,
      .register 0 "md" Provider.keywords, .register 1 "md" quiet, .register 2 "md" quiet,
      .register 1 "md" Provider.keywords, .activate 0 0, .register 1 "tuc" quiet, .push 3 0,
      .dropHandle 1, .dispose 0, .dropRegistry 0, .deactivate 0]
    (World.empty.run events).storeOf? 1 = some 0 ∧
      ∃ store, (World.empty.run events).store? 1 = some store ∧
        Registration.serving store.registrations.reverse "md" = [quiet] ∧ store.size = 2 ∧
        store.entriesFor "md" "" ⟨0, 0⟩ = some [] ∧ store.entriesFor "rs" "" ⟨0, 0⟩ = none := by
  intro quiet events
  have h : (World.empty.run events).storeOf? 1 = some 0 := by decide +kernel
  have hu : (Ledger.empty.run events).undisposed = [1, 2, 5] := by decide +kernel
  have hl : (Ledger.empty.run events).live 0 = [("md", quiet), ("tuc", quiet)] := by
    rw [Ledger.live, hu]
    rfl
  have hm : (Ledger.empty.run events).providersFor 0 "md" = [quiet] := by
    simp [Ledger.providersFor, hl]
  have hr : (Ledger.empty.run events).providersFor 0 "rs" = [] := by
    simp [Ledger.providersFor, hl]
  obtain ⟨-, store, hs, hv, -, hn, -, he⟩ := registry_follows_log events h
  refine ⟨h, store, hs, ?_, ?_, ?_, ?_⟩
  · rw [hv "md" _ (List.reverse_perm _), hm]
  · rw [hn, hl]
    rfl
  · rw [he, hm]
    rfl
  · rw [he, hr]
    rfl

end TucServer
