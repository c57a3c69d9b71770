import TucServer.Registry.Host

/-!
# Registries, handles and contexts together

A world numbers the registries, handles and contexts in the order of their creation. A registry is
a reference to a store, which its clones share. A handle stays in its slot until it is dropped or
moved into a context. A registry that is held always refers to a store that is there. Every event
answers, or names what it lacks; an event that lacks something changes nothing.
-/

namespace TucServer

/-- The action of a handle: take a registration back from a store, or give a signal. -/
inductive Release where
  | registration (store : Nat) (id : Nat)
  | signal (tag : String)
  deriving DecidableEq, Repr

/-- Registries that are held refer to one of so many stores. -/
def InRange (registries : List (Option Nat)) (stores : Nat) : Prop :=
  ∀ number, some number ∈ registries → number < stores

namespace InRange

variable {registries : List (Option Nat)} {stores registry number : Nat}

/-- The store that a registry refers to is there. -/
theorem lt (h : InRange registries stores) (hr : registries[registry]?.join = some number) :
    number < stores :=
  h number (List.mem_of_getElem? (Option.join_eq_some_iff.mp hr))

/-- The store that a registry refers to, among those that are there. -/
def find? (h : InRange registries stores) (registry : Nat) : Option (Fin stores) :=
  registries[registry]?.join.pmap Fin.mk fun _ hr => h.lt hr

/-- What a registry that is held refers to is found. -/
theorem find?_eq_some (h : InRange registries stores)
    (hr : registries[registry]?.join = some number) :
    h.find? registry = some ⟨number, h.lt hr⟩ := by
  simp [find?, hr]

/-- Where a registry is not held nothing is found. -/
theorem find?_eq_none (h : InRange registries stores) (hr : registries[registry]?.join = none) :
    h.find? registry = none := by
  simp [find?, hr]

/-- More stores do no harm. -/
theorem mono (h : InRange registries stores) {more : Nat} (hm : stores ≤ more) :
    InRange registries more :=
  fun number hn => Nat.lt_of_lt_of_le (h number hn) hm

/-- One more registry may refer to any store that is there. -/
theorem concat (h : InRange registries stores) (hn : number < stores) :
    InRange (registries ++ [some number]) stores := by
  intro other ho
  rcases List.mem_append.mp ho with ho | ho
  · exact h other ho
  · cases List.mem_singleton.mp ho
    exact hn

/-- A registry that is dropped refers to no store. -/
theorem drop (h : InRange registries stores) (registry : Nat) :
    InRange (registries.set registry none) stores := by
  intro number hn
  rcases List.mem_or_eq_of_mem_set hn with hn | hn
  · exact h number hn
  · cases hn

end InRange

/-- The stores, by number; the store of each registry, none once it is dropped; the handles that
are still in their slots; the contexts; and the actions that have been run, oldest first. -/
@[ext]
structure World where
  stores : List Store
  registries : List (Option Nat)
  handles : List (Option (Handle Release))
  contexts : List (Context Release)
  released : List Release
  inRange : InRange registries stores.length

/-- What an event may lack. -/
inductive Missing where
  | registry
  | handle
  | context
  deriving DecidableEq, Repr

/-- The name of what is lacking. -/
def Missing.title : Missing → String
  | .registry => "NoSuchRegistry"
  | .handle => "NoSuchHandle"
  | .context => "NoSuchContext"

/-- What can happen in a world. Registries, handles and contexts are given by number. -/
inductive Event where
  | newRegistry
  | cloneRegistry (registry : Nat)
  | dropRegistry (registry : Nat)
  | register (registry : Nat) (language : String) (provider : Provider)
  | newHandle (tag : String)
  | dispose (handle : Nat)
  | inspect (handle : Nat)
  | dropHandle (handle : Nat)
  | newContext
  | push (handle : Nat) (context : Nat)
  | activate (registry : Nat) (context : Nat)
  /-- Activation with a host that only takes notes. -/
  | activateNoting (context : Nat)
  | deactivate (context : Nat)
  | inspectContext (context : Nat)
  | providersFor (registry : Nat) (language : String)
  | entriesFor (registry : Nat) (language document : String) (position : Position)
  | inspectRegistry (registry : Nat)

/-- What an event answers. -/
inductive Answer where
  | done
  /-- The number of what was created. -/
  | number (value : Nat)
  /-- Whether a handle is disposed, and how it is shown. -/
  | handle (disposed : Bool) (shown : String)
  | notes (lines : List String)
  | context (shown : String)
  | providers (list : List Provider)
  | entries (list : Option (List Entry))
  | registry (size : Nat) (isEmpty : Bool) (shown : String)

namespace World

/-- The world in which nothing was created. -/
def empty : World := ⟨[], [], [], [], [], nofun⟩

/-- The number of the store that a registry refers to. -/
def storeOf? (world : World) (registry : Nat) : Option Nat :=
  world.registries[registry]?.join

/-- The store that a registry refers to. -/
def store? (world : World) (registry : Nat) : Option Store :=
  (world.inRange.find? registry).map fun number => world.stores[number]

/-- The handle in a slot. -/
def handle? (world : World) (handle : Nat) : Option (Handle Release) :=
  world.handles[handle]?.join

/-- The signals that have been given, oldest first. -/
def signals (world : World) : List String :=
  world.released.filterMap fun
    | .signal tag => some tag
    | .registration .. => none

/-- Runs an action. -/
def release (action : Release) (world : World) : World :=
  let world := { world with released := world.released ++ [action] }
  match action with
  | .registration store id =>
    { world with
      stores := world.stores.modify store (·.unregister id)
      inRange := by simpa using world.inRange }
  | .signal _ => world

/-- The worlds that have a store of this number. -/
abbrev With (number : Nat) := { world : World // number < world.stores.length }

/-- The host that registers with the store of this number. -/
def host (number : Nat) : Host Release (With number) :=
  ⟨fun language provider ⟨world, h⟩ =>
    let (id, store) := world.stores[number].register language provider
    (Handle.new (.registration number id),
      ⟨{ world with
          stores := world.stores.set number store
          inRange := by simpa using world.inRange },
        by simpa using h⟩)⟩

/-- The host that notes, for each registration, the language and how many entries the provider has
for an empty document. Its handles give a signal that names the language. -/
def notingHost : Host Release (List String) :=
  ⟨fun language provider notes =>
    let count := (provider.entries "" ⟨0, 0⟩).length
    (Handle.new (.signal ("host:" ++ language)), notes ++ [language ++ "/" ++ toString count])⟩

/-- The world with one more handle in a slot, and the number of the slot. -/
def addHandle (handle : Handle Release) (world : World) : Nat × World :=
  (world.handles.length, { world with handles := world.handles ++ [some handle] })

/-- The world with something else in the slot of a handle. -/
def setHandle (handle : Nat) (content : Option (Handle Release)) (world : World) : World :=
  { world with handles := world.handles.set handle content }

/-- The world with another context in place of this one. -/
def setContext (context : Nat) (content : Context Release) (world : World) : World :=
  { world with contexts := world.contexts.set context content }

/-- What an event answers, and the world after it. -/
def perform (world : World) : Event → Except Missing (Answer × World)
  | .newRegistry =>
    .ok (.number world.registries.length,
      { world with
        stores := world.stores ++ [Store.empty]
        registries := world.registries ++ [some world.stores.length]
        inRange := by
          rw [List.length_append]
          exact (world.inRange.mono (Nat.le_succ _)).concat (Nat.lt_succ_self _) })
  | .cloneRegistry registry => do
    let some number := world.inRange.find? registry | .error .registry
    .ok (.number world.registries.length,
      { world with
        registries := world.registries ++ [some number.val]
        inRange := world.inRange.concat number.isLt })
  | .dropRegistry registry => do
    let some _ := world.storeOf? registry | .error .registry
    .ok (.done,
      { world with
        registries := world.registries.set registry none
        inRange := world.inRange.drop registry })
  | .register registry language provider => do
    let some number := world.inRange.find? registry | .error .registry
    let (handle, next) := (host number).register language provider ⟨world, number.isLt⟩
    let (slot, next) := next.val.addHandle handle
    .ok (.number slot, next)
  | .newHandle tag => do
    let (slot, world) := world.addHandle (Handle.new (.signal tag))
    .ok (.number slot, world)
  | .dispose slot => do
    let some handle := world.handle? slot | .error .handle
    let (handle, world) := handle.dispose release world
    .ok (.handle handle.isDisposed handle.describe, world.setHandle slot (some handle))
  | .inspect slot => do
    let some handle := world.handle? slot | .error .handle
    .ok (.handle handle.isDisposed handle.describe, world)
  | .dropHandle slot => do
    let some _ := world.handle? slot | .error .handle
    .ok (.done, world.setHandle slot none)
  | .newContext =>
    .ok (.number world.contexts.length,
      { world with contexts := world.contexts ++ [Context.empty] })
  | .push slot number => do
    let some context := world.contexts[number]? | .error .context
    let some handle := world.handle? slot | .error .handle
    .ok (.done, (world.setHandle slot none).setContext number (context.push handle))
  | .activate registry place => do
    let some number := world.inRange.find? registry | .error .registry
    let some context := world.contexts[place]? | .error .context
    let (context, next) := TucServer.activate (host number) context ⟨world, number.isLt⟩
    .ok (.done, next.val.setContext place context)
  | .activateNoting number => do
    let some context := world.contexts[number]? | .error .context
    let (context, notes) := TucServer.activate notingHost context []
    .ok (.notes notes, world.setContext number context)
  | .deactivate number => do
    let some context := world.contexts[number]? | .error .context
    let (context, world) := context.deactivate release world
    .ok (.done, world.setContext number context)
  | .inspectContext number => do
    let some context := world.contexts[number]? | .error .context
    .ok (.context context.describe, world)
  | .providersFor registry language => do
    let some store := world.store? registry | .error .registry
    .ok (.providers (store.providersFor language), world)
  | .entriesFor registry language document position => do
    let some store := world.store? registry | .error .registry
    .ok (.entries (store.entriesFor language document position), world)
  | .inspectRegistry registry => do
    let some store := world.store? registry | .error .registry
    .ok (.registry store.size store.isEmpty store.describe, world)

/-- The world after an event. -/
def after (world : World) (event : Event) : World :=
  match world.perform event with
  | .ok (_, next) => next
  | .error _ => world

/-- The world after a run of events. -/
def run (world : World) (events : List Event) : World :=
  events.foldl after world

end World

end TucServer
