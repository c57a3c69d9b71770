import Mathlib.Algebra.BigOperators.Group.List.Basic
import Mathlib.Algebra.GroupWithZero.Nat
import TucServer.Completion.Item
import TucServer.Proofs.Registry.Log

/-!
# Completion merges the answers of providers

The items for a document are the entries with which the providers of its language answer, one answer
behind the other: `Entry.Merges` says at which place each entry of each answer is found. Which
providers are asked, and in which order, is what the log of the registry says.
-/

namespace TucServer

/-- An element of one of several lists stands behind the lists before its own. -/
lemma getElem?_flatten {α : Type} {lists : List (List α)} {i j : Nat} {list : List α} {a : α}
    (hl : lists[i]? = some list) (ha : list[j]? = some a) :
    lists.flatten[j + ((lists.take i).map List.length).sum]? = some a := by
  obtain ⟨hi, rfl⟩ := List.getElem?_eq_some_iff.mp hl
  obtain ⟨hj, -⟩ := List.getElem?_eq_some_iff.mp ha
  calc lists.flatten[j + ((lists.take i).map List.length).sum]?
    _ = (lists.flatten.drop ((lists.map List.length).take i).sum)[j]? := by
      rw [List.getElem?_drop, List.map_take, Nat.add_comm]
    _ = (lists[i] ++ (lists.drop (i + 1)).flatten)[j]? := by
      rw [List.drop_sum_flatten, List.drop_eq_getElem_cons hi, List.flatten_cons]
    _ = some a := by
      rw [List.getElem?_append_left hj, ha]

/-- The items are those of the answers: an entry is found at its place in its own answer, behind all
the entries of the answers before that. -/
structure Entry.Merges (snippets : Bool) (answers : List (List Entry)) (items : List Item) :
    Prop where
  length : items.length = (answers.map List.length).sum
  place : ∀ (i j : Nat) (answer : List Entry) (entry : Entry),
    answers[i]? = some answer → answer[j]? = some entry →
      items[j + ((answers.take i).map List.length).sum]? = some (entry.item snippets)

/-- The items of all entries of the answers, one answer behind the other, merge the answers. -/
lemma Entry.merges_flatten (snippets : Bool) (answers : List (List Entry)) :
    Entry.Merges snippets answers (answers.flatten.map (Entry.item snippets)) := by
  refine ⟨by rw [List.length_map, List.length_flatten], ?_⟩
  intro i j answer entry ha he
  rw [List.getElem?_map, getElem?_flatten ha he]
  rfl

namespace Ledger

variable {ledger : Ledger} {store : Nat}

/-- No provider is asked if nothing is registered for the language. -/
lemma providersFor_eq_nil_iff {language : String} :
    ledger.providersFor store language = [] ↔
      ∀ registration ∈ ledger.live store, registration.1 ≠ language := by
  simp [providersFor, List.filter_eq_nil_iff]

/-- What is answered for a document, however the store is visited. -/
lemma itemsFor_visited {visited : Store}
    (hv : visited.registrations.Perm (ledger.storeAt store).registrations) (document : Document)
    (position : Position) (snippets : Bool) :
    visited.itemsFor document position snippets =
      if ledger.providersFor store document.language = [] then none
      else some (((ledger.providersFor store document.language).map
        (·.entries document.text position)).flatten.map (Entry.item snippets)) := by
  rw [Store.itemsFor, entriesFor_visited hv, List.flatMap_def]
  split
  · rfl
  · rfl

end Ledger

open Ledger in
/-- After every run, and however its store is visited, a registry has no answer for a document if
and only if no registration for the language of the document is live. Otherwise the answers of all
live providers for this language are merged in the order of registration, each of them for the text
of the document and the position. -/
theorem World.items_merge_answers (events : List Event) {registry number : Nat}
    (h : (World.empty.run events).storeOf? registry = some number) :
    ∃ store, (World.empty.run events).store? registry = some store ∧
      ∀ visited : Store, visited.registrations.Perm store.registrations →
        ∀ (document : Document) (position : Position) (snippets : Bool),
          let live := (Ledger.empty.run events).live number
          let providers := (Ledger.empty.run events).providersFor number document.language
          let answers := providers.map (·.entries document.text position)
          (visited.itemsFor document position snippets = none ↔
              ∀ registration ∈ live, registration.1 ≠ document.language) ∧
            ((∃ registration ∈ live, registration.1 = document.language) →
              ∃ items, visited.itemsFor document position snippets = some items ∧
                Entry.Merges snippets answers items) := by
  rw [run_eq_world] at h ⊢
  refine ⟨_, store?_world h, ?_⟩
  intro visited hv document position snippets live providers answers
  rw [itemsFor_visited hv]
  refine ⟨?_, ?_⟩
  · rw [← providersFor_eq_nil_iff]
    simp
  · rintro ⟨registration, hr, hl⟩
    have hn : ¬ providers = [] := fun hn => providersFor_eq_nil_iff.mp hn registration hr hl
    exact ⟨_, if_neg hn, Entry.merges_flatten snippets _⟩

/-- Four providers for a language, of which the first is taken back and the next but one answers
nothing, and one for another language that answers nothing either. -/
theorem World.items_merge_answers_quiet :
    let echo : Provider := ⟨fun text _ => [Entry.keyword text, Entry.keyword text]⟩
    let quiet : Provider := ⟨fun _ _ => []⟩
    let events : List Event := [.newRegistry, .register 0 "md" Provider.keywords,
      .register 0 "md" echo, .register 0 "rs" quiet, .register 0 "md" quiet,
      .register 0 "md" echo, .dispose 0]
    (World.empty.run events).storeOf? 0 = some 0 ∧
      ∃ store, (World.empty.run events).store? 0 = some store ∧
        (∃ items, store.itemsFor ⟨"if", "md", 1⟩ ⟨2, 3⟩ true = some items ∧ items.length = 4 ∧
          items[3]? = some ((Entry.keyword "if").item true)) ∧
        store.itemsFor ⟨"if", "rs", 1⟩ ⟨2, 3⟩ true = some [] ∧
        store.itemsFor ⟨"if", "tuc", 1⟩ ⟨2, 3⟩ true = none := by
  intro echo quiet events
  have h : (World.empty.run events).storeOf? 0 = some 0 := by decide +kernel
  have hu : (Ledger.empty.run events).undisposed = [1, 2, 3, 4] := by decide +kernel
  have hl : (Ledger.empty.run events).live 0 =
      [("md", echo), ("rs", quiet), ("md", quiet), ("md", echo)] := by
    rw [Ledger.live, hu]
    rfl
  have hmd : (Ledger.empty.run events).providersFor 0 "md" = [echo, quiet, echo] := by
    simp [Ledger.providersFor, hl]
  have hrs : (Ledger.empty.run events).providersFor 0 "rs" = [quiet] := by
    simp [Ledger.providersFor, hl]
  obtain ⟨store, hs, hi⟩ := items_merge_answers events h
  replace hi := hi store (.refl _)
  refine ⟨h, store, hs, ?_, ?_, ?_⟩
  · obtain ⟨items, he, hm⟩ := (hi ⟨"if", "md", 1⟩ ⟨2, 3⟩ true).2 ⟨("md", echo), by simp [hl], rfl⟩
    rw [hmd] at hm
    exact ⟨items, he, hm.length, hm.place 2 1 _ _ rfl rfl⟩
  · obtain ⟨items, he, hm⟩ := (hi ⟨"if", "rs", 1⟩ ⟨2, 3⟩ true).2 ⟨("rs", quiet), by simp [hl], rfl⟩
    rw [hrs] at hm
    rw [he, List.eq_nil_of_length_eq_zero hm.length]
  · rw [(hi ⟨"if", "tuc", 1⟩ ⟨2, 3⟩ true).1, hl]
    simp

end TucServer
