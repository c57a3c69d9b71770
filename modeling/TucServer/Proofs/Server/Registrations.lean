import Mathlib.Tactic.Lemma
import TucServer.Server.Basic

/-!
# The registrations of the server

Only the introduction of a client registers providers, and only the shutdown takes them back. In
between, the handles in the context are those of the live registrations, one for one and in the same
order: `Server.Attached server ids` says so for the numbers of the registrations. Every message
keeps this up (`Attached.handle`), and what the registrations answer depends on their number only
(`Attached.entriesFor`).
-/

namespace TucServer

/-- The registration of the keyword provider under this number. -/
def Registration.keywords (id : Nat) : Registration := ⟨id, Catalog.language, Provider.keywords⟩

/-- Registrations of one provider come in any order alike. -/
lemma Registration.serving_keywords (ids : List Nat) :
    serving (ids.map keywords) Catalog.language =
      List.replicate ids.length Provider.keywords := by
  have hf : (ids.map keywords).filter (·.language == Catalog.language) = ids.map keywords := by
    rw [List.filter_eq_self, List.forall_mem_map]
    exact fun _ _ => beq_self_eq_true Catalog.language
  rw [serving, hf, List.eq_replicate_iff]
  refine ⟨by rw [List.length_map, List.length_mergeSort, List.length_map], ?_⟩
  intro provider hp
  obtain ⟨registration, hm, rfl⟩ := List.mem_map.mp hp
  obtain ⟨id, -, rfl⟩ := List.mem_map.mp (List.mem_mergeSort.mp hm)
  rfl

/-- Registrations of the keyword provider serve no other language than the one of the catalog. -/
lemma Registration.serving_keywords_of_ne {language : String} (h : language ≠ Catalog.language)
    (ids : List Nat) : serving (ids.map keywords) language = [] := by
  have hf : (ids.map keywords).filter (·.language == language) = [] := by
    rw [List.filter_eq_nil_iff, List.forall_mem_map]
    exact fun _ _ => by simpa [keywords] using h.symm
  rw [serving, hf, List.mergeSort_nil, List.map_nil]

/-- The live registrations and the handles in the context have these numbers. -/
structure Server.Attached (server : Server) (ids : List Nat) : Prop where
  registrations : server.registry.registrations = ids.map Registration.keywords
  handles : server.context.handles = ids.map Handle.new

/-- How many registrations there are after a message, from how many there were before. -/
def Message.registrations : Message → Nat → Nat
  | .setUp _, count => count + 1
  | .shutDown, _ => 0
  | _, count => count

/-- Taking registrations back one after the other leaves those that have other numbers. -/
lemma registrations_deactivate (ids : List Nat) (store : Store) :
    ((⟨ids.map Handle.new⟩ : Context Nat).deactivate (fun id store => store.unregister id)
      store).2.registrations = store.registrations.filter (fun r => r.id ∉ ids) := by
  simp only [Context.deactivate]
  -- the first registration is taken back after those behind it
  induction ids with
  | nil =>
    symm
    rw [List.map_nil, List.foldr_nil, List.filter_eq_self]
    intro r _
    simp
  | cons id ids ih =>
    simp only [List.map_cons, List.foldr_cons, Handle.new, Handle.dispose, Store.unregister] at ih ⊢
    rw [ih, List.filter_filter]
    congr 1
    funext r
    grind

namespace Server

variable {server : Server} {ids : List Nat}

/-- Before the first message there is nothing to take back. -/
lemma attached_new (debug : Bool) : (new debug).Attached [] :=
  ⟨rfl, rfl⟩

/-- An introduction adds a registration and its handle, both behind the others. -/
lemma Attached.setUp (h : server.Attached ids) (snippets : Bool) :
    (server.setUp snippets).server.Attached (ids ++ [server.registry.nextId]) := by
  have hn := server.registry.registrations_register Catalog.language Provider.keywords
  obtain ⟨hr, hh⟩ := h
  refine ⟨?_, ?_⟩
  · simp [Server.setUp, activate, Host.store, hn, hr, Registration.keywords]
  · simp [Server.setUp, activate, Host.store, Store.register, Context.push, hh]

/-- The shutdown takes all registrations back. -/
lemma Attached.shutDown (h : server.Attached ids) : server.shutDown.server.Attached [] := by
  obtain ⟨hr, hh⟩ := h
  have hc : server.context = ⟨ids.map Handle.new⟩ := congrArg Context.mk hh
  refine ⟨?_, rfl⟩
  show (server.context.deactivate _ server.registry).2.registrations = []
  rw [hc, registrations_deactivate, hr, List.filter_eq_nil_iff]
  intro r hm
  obtain ⟨id, hid, rfl⟩ := List.mem_map.mp hm
  simp [Registration.keywords, hid]

/-- Replacing a text touches neither the registrations nor the handles. -/
lemma Attached.didChange (h : server.Attached ids) (uri : Uri) (texts : List String)
    (version : Int) : (server.didChange uri texts version).server.Attached ids := by
  rw [Server.didChange]
  split
  · exact h
  · exact ⟨h.registrations, h.handles⟩

/-- Every message keeps registrations and handles together. -/
lemma Attached.handle (h : server.Attached ids) (message : Message) :
    ∃ after, (server.handle message).server.Attached after ∧
      after.length = message.registrations ids.length := by
  cases message with
  | setUp snippets => exact ⟨_, h.setUp snippets, by simp [Message.registrations]⟩
  | shutDown => exact ⟨[], h.shutDown, rfl⟩
  | didChange uri texts version => exact ⟨ids, h.didChange uri texts version, rfl⟩
  | didOpen | didClose | ready | completion =>
    exact ⟨ids, ⟨h.registrations, h.handles⟩, rfl⟩

/-- The live registrations serve the language of the catalog only, each with the same provider. -/
lemma Attached.providersFor (h : server.Attached ids) (language : String) :
    server.registry.providersFor language =
      if language = Catalog.language then List.replicate ids.length Provider.keywords else [] := by
  rw [Store.providersFor, h.registrations]
  split
  · rename_i hl
    rw [hl, Registration.serving_keywords]
  · rename_i hl
    exact Registration.serving_keywords_of_ne hl ids

/-- The registrations answer with the catalog once for each of them, and without any there is no
answer. -/
lemma Attached.entriesFor (h : server.Attached ids) (language text : String)
    (position : Position) :
    server.registry.entriesFor language text position =
      if language = Catalog.language ∧ ids.length ≠ 0 then
        some (List.replicate ids.length Catalog.entries).flatten
      else none := by
  rw [Store.entriesFor, h.providersFor]
  by_cases hl : language = Catalog.language
  · cases hn : ids.length with
    | zero => simp
    | succ n =>
      rw [if_pos hl, if_pos ⟨hl, Nat.succ_ne_zero n⟩, List.replicate_succ]
      simp [List.flatMap_def, Provider.keywords, List.replicate_succ]
  · simp [hl]

end Server

end TucServer
