import TucServer.Completion.Provider

/-!
# Registrations

A store keeps the providers that are registered, each under a language and with a number of its
own. Numbers are given out in ascending order and never twice, so that the order of the
registrations is the order of their numbers. Every store has these two properties, which are part of
its type.
-/

namespace TucServer

/-- A provider that serves a language, and the number of this registration. -/
structure Registration where
  id : Nat
  language : String
  provider : Provider

/-- The providers that serve a language, among registrations that come in any order. The one that
was registered first, and so has the least number, comes first. -/
def Registration.serving (registrations : List Registration) (language : String) : List Provider :=
  ((registrations.filter (·.language == language)).mergeSort (·.id ≤ ·.id)).map (·.provider)

/-- The live registrations, each under a number of its own, and the number for the next one, which
is above them all. -/
@[ext]
structure Store where
  registrations : List Registration
  nextId : Nat
  distinct : (registrations.map (·.id)).Nodup
  fresh : ∀ registration ∈ registrations, registration.id < nextId

namespace Store

/-- The store without registrations. -/
def empty : Store := ⟨[], 0, .nil, nofun⟩

/-- The store without the registration of this number. -/
def unregister (store : Store) (id : Nat) : Store where
  registrations := store.registrations.filter (·.id != id)
  nextId := store.nextId
  distinct := store.distinct.sublist (List.filter_sublist.map _)
  fresh registration h := store.fresh registration (List.mem_filter.mp h).1

/-- The store after its next number has been given out. -/
def advance (store : Store) : Store where
  registrations := store.registrations
  nextId := store.nextId + 1
  distinct := store.distinct
  fresh registration h := Nat.lt_succ_of_lt (store.fresh registration h)

/-- The store with a registration under a number that has been given out, in place of another one
under this number. -/
def insert (store : Store) (registration : Registration) (h : registration.id < store.nextId) :
    Store where
  registrations := (store.unregister registration.id).registrations ++ [registration]
  nextId := store.nextId
  distinct := by
    rw [List.map_append, List.map_singleton, List.nodup_append]
    refine ⟨(store.unregister registration.id).distinct, List.pairwise_singleton _ _, ?_⟩
    intro id hm other ho
    obtain ⟨earlier, he, rfl⟩ := List.mem_map.mp hm
    rw [List.mem_singleton.mp ho]
    exact bne_iff_ne.mp (List.mem_filter.mp he).2
  fresh earlier hm := by
    rcases List.mem_append.mp hm with hm | hm
    · exact (store.unregister registration.id).fresh earlier hm
    · exact List.mem_singleton.mp hm ▸ h

/-- Registers a provider for a language. The number of the registration comes first. -/
def register (store : Store) (language : String) (provider : Provider) : Nat × Store :=
  (store.nextId, store.advance.insert ⟨store.nextId, language, provider⟩ (Nat.lt_succ_self _))

/-- A registration comes behind the others and takes the place of none. -/
theorem registrations_register (store : Store) (language : String) (provider : Provider) :
    (store.register language provider).2.registrations =
      store.registrations ++ [⟨store.nextId, language, provider⟩] := by
  refine congrArg (· ++ _) (List.filter_eq_self.mpr fun registration h => ?_)
  exact bne_iff_ne.mpr (Nat.ne_of_lt (store.fresh registration h))

/-- The providers that serve a language, in the order of their registration. -/
def providersFor (store : Store) (language : String) : List Provider :=
  Registration.serving store.registrations language

/-- What the providers of a language answer, one after the other. Where no provider is registered
there is no answer, which differs from an empty one. -/
def entriesFor (store : Store) (language document : String) (position : Position) :
    Option (List Entry) :=
  match store.providersFor language with
  | [] => none
  | providers => some (providers.flatMap fun provider => provider.entries document position)

/-- The number of live registrations. -/
def size (store : Store) : Nat :=
  store.registrations.length

/-- Whether there is no live registration. -/
def isEmpty (store : Store) : Bool :=
  store.registrations.isEmpty

/-- The store as it is shown in messages. -/
def describe (store : Store) : String :=
  "ProviderRegistry \x7b registrations: " ++ toString store.size ++ " \x7d"

end Store

end TucServer
