import Mathlib.Tactic.Lemma
import TucServer.Registry.World

/-!
# The ledger of a run

A ledger notes what happens to registries, handles and contexts, and looks at no store and at no
action. Every handle has a serial number, which is how many were issued before it, and the ledger
says what it was issued for, where it is now, and in which order handles were disposed, again and
again if that was asked for. What is registered with a store is then what was registered with it
and not disposed (`Ledger.live`), in the order of registration, and what an event is to run are the
actions of the handles that it disposes for the first time.
-/

namespace TucServer

/-- What a handle is issued for: a registration with a store, or a signal. -/
inductive Issue where
  | registration (store : Nat) (language : String) (provider : Provider)
  | signal (tag : String)

/-- The language and the provider, if it is a registration with this store. -/
def Issue.registration? (store : Nat) : Issue → Option (String × Provider)
  | .registration owner language provider =>
    if owner = store then some (language, provider) else none
  | .signal _ => none

/-- The store of each registry, none once it is dropped; the number of stores; what the handles were
issued for, in the order of issue; the serial number of the handle in each slot; those of the
handles in each context, in the order in which they were pushed; and those of the handles that were
disposed, in this order. -/
@[ext]
structure Ledger where
  registries : List (Option Nat)
  stores : Nat
  issued : List Issue
  slots : List (Option Nat)
  contexts : List (List Nat)
  disposals : List Nat
  inRange : InRange registries stores

namespace Ledger

/-- The ledger before the first event. -/
def empty : Ledger := ⟨[], 0, [], [], [], [], nofun⟩

/-- The store that a registry refers to. A clone refers to the store of the registry it was made
from. -/
def store? (ledger : Ledger) (registry : Nat) : Option Nat :=
  ledger.registries[registry]?.join

/-- The handle in a slot. -/
def serial? (ledger : Ledger) (slot : Nat) : Option Nat :=
  ledger.slots[slot]?.join

/-- The handles in a context, none where there is no such context. -/
def held (ledger : Ledger) (context : Nat) : List Nat :=
  ledger.contexts[context]?.getD []

/-- Notes the issue of one more handle. -/
def issue (ledger : Ledger) (content : Issue) : Ledger :=
  { ledger with issued := ledger.issued ++ [content] }

/-- Notes the disposal of handles, in this order. -/
def dispose (ledger : Ledger) (serials : List Nat) : Ledger :=
  { ledger with disposals := ledger.disposals ++ serials }

/-- Issues a handle to a new slot. -/
def issueToSlot (ledger : Ledger) (content : Issue) : Ledger :=
  { ledger.issue content with slots := ledger.slots ++ [some ledger.issued.length] }

/-- Issues a handle to a context, if there is one of this number. -/
def issueToContext (ledger : Ledger) (content : Issue) (context : Nat) : Ledger :=
  match ledger.contexts[context]? with
  | some held =>
    { ledger.issue content with
      contexts := ledger.contexts.set context (held ++ [ledger.issued.length]) }
  | none => ledger

/-- A handle that is issued to a context makes no store. -/
@[simp] lemma stores_issueToContext (ledger : Ledger) (content : Issue) (context : Nat) :
    (ledger.issueToContext content context).stores = ledger.stores := by
  rw [issueToContext]
  split <;> rfl

/-- A handle that is issued to a context takes no slot. -/
@[simp] lemma slots_issueToContext (ledger : Ledger) (content : Issue) (context : Nat) :
    (ledger.issueToContext content context).slots = ledger.slots := by
  rw [issueToContext]
  split <;> rfl

/-- No handle is disposed for one that is issued to a context. -/
@[simp] lemma disposals_issueToContext (ledger : Ledger) (content : Issue) (context : Nat) :
    (ledger.issueToContext content context).disposals = ledger.disposals := by
  rw [issueToContext]
  split <;> rfl

/-- The handles that an event disposes, in this order, disposed before or not. A context gives the
handle that was pushed last first. -/
def disposedBy (ledger : Ledger) : Event → List Nat
  | .dispose slot => (ledger.serial? slot).toList
  | .deactivate context => (ledger.contexts[context]?.getD []).reverse
  | _ => []

/-- What an event does to the places of the handles and to the registries. -/
def move (ledger : Ledger) : Event → Ledger
  | .newRegistry =>
    { ledger with
      registries := ledger.registries ++ [some ledger.stores]
      stores := ledger.stores + 1
      inRange := (ledger.inRange.mono (Nat.le_succ _)).concat (Nat.lt_succ_self _) }
  | .cloneRegistry registry =>
    match ledger.inRange.find? registry with
    | some store =>
      { ledger with
        registries := ledger.registries ++ [some store.val]
        inRange := ledger.inRange.concat store.isLt }
    | none => ledger
  | .dropRegistry registry =>
    { ledger with
      registries := ledger.registries.set registry none
      inRange := ledger.inRange.drop registry }
  | .register registry language provider =>
    match ledger.store? registry with
    | some store => ledger.issueToSlot (.registration store language provider)
    | none => ledger
  | .newHandle tag => ledger.issueToSlot (.signal tag)
  | .dropHandle slot => { ledger with slots := ledger.slots.set slot none }
  | .newContext => { ledger with contexts := ledger.contexts ++ [[]] }
  | .push slot context =>
    match ledger.contexts[context]?, ledger.serial? slot with
    | some held, some serial =>
      { ledger with
        slots := ledger.slots.set slot none
        contexts := ledger.contexts.set context (held ++ [serial]) }
    | _, _ => ledger
  | .activate registry context =>
    match ledger.store? registry with
    | some store =>
      ledger.issueToContext (.registration store Catalog.language Provider.keywords) context
    | none => ledger
  | .activateNoting context =>
    ledger.issueToContext (.signal ("host:" ++ Catalog.language)) context
  | .deactivate context => { ledger with contexts := ledger.contexts.set context [] }
  | .dispose _ | .inspect _ | .inspectContext _ | .providersFor .. | .entriesFor ..
  | .inspectRegistry _ => ledger

/-- The ledger after an event. -/
def after (ledger : Ledger) (event : Event) : Ledger :=
  (ledger.move event).dispose (ledger.disposedBy event)

/-- The ledger after a run of events. -/
def run (ledger : Ledger) (events : List Event) : Ledger :=
  events.foldl after ledger

/-- The registration with this store that a handle was issued for. -/
def registration? (ledger : Ledger) (store serial : Nat) : Option (String × Provider) :=
  ledger.issued[serial]? >>= Issue.registration? store

/-- Whether a handle was disposed. -/
def isDisposed (ledger : Ledger) (serial : Nat) : Bool :=
  decide (serial ∈ ledger.disposals)

/-- The handles that were issued and not disposed, in the order of issue. -/
def undisposed (ledger : Ledger) : List Nat :=
  (List.range ledger.issued.length).filter (· ∉ ledger.disposals)

/-- The languages and providers registered with a store whose handles were not disposed, in the
order of registration. -/
def live (ledger : Ledger) (store : Nat) : List (String × Provider) :=
  ledger.undisposed.filterMap (ledger.registration? store)

/-- The providers registered for a language. -/
def providersFor (ledger : Ledger) (store : Nat) (language : String) : List Provider :=
  ((ledger.live store).filter (·.1 = language)).map (·.2)

/-- The number of registrations with a store before a handle was issued. -/
def number (ledger : Ledger) (store serial : Nat) : Nat :=
  (List.range serial).countP fun earlier => (ledger.registration? store earlier).isSome

/-- The action of a handle that is issued next. A registration is under the number of those before
it. -/
def nextAction (ledger : Ledger) (serial : Nat) : Issue → Release
  | .registration store _ _ => .registration store (ledger.number store serial)
  | .signal tag => .signal tag

/-- The action of a handle. -/
def action? (ledger : Ledger) (serial : Nat) : Option Release :=
  ledger.issued[serial]?.map (ledger.nextAction serial)

end Ledger

end TucServer
