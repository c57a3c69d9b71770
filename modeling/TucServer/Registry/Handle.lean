/-!
# Handles and contexts

A handle holds an action that is run at most once, when the handle is disposed. What an action does
is left open: it is a value of any type, and `run` says how it changes the state. A context collects
handles, and deactivating it disposes them, the one pushed last first.
-/

namespace TucServer

/-- An action that has not been run yet, or none once the handle is disposed. -/
structure Handle (α : Type) where
  pending : Option α
  deriving DecidableEq, Repr

namespace Handle

variable {α σ : Type}

/-- The handle of an action. -/
def new (action : α) : Handle α := ⟨some action⟩

/-- Whether the action has been run. -/
def isDisposed (handle : Handle α) : Bool :=
  handle.pending.isNone

/-- Runs the action if it has not been run. -/
def dispose (run : α → σ → σ) (handle : Handle α) (state : σ) : Handle α × σ :=
  match handle.pending with
  | some action => (⟨none⟩, run action state)
  | none => (handle, state)

/-- The handle as it is shown in messages. -/
def describe (handle : Handle α) : String :=
  "Disposable \x7b disposed: " ++ (if handle.isDisposed then "true" else "false") ++ " \x7d"

end Handle

/-- The handles collected in one place, in the order in which they were pushed. -/
structure Context (α : Type) where
  handles : List (Handle α)
  deriving DecidableEq, Repr

namespace Context

variable {α σ : Type}

/-- The context without handles. -/
def empty : Context α := ⟨[]⟩

/-- The context with one more handle. -/
def push (context : Context α) (handle : Handle α) : Context α :=
  ⟨context.handles ++ [handle]⟩

/-- Disposes every handle, the one pushed last first, and leaves the context empty. -/
def deactivate (run : α → σ → σ) (context : Context α) (state : σ) : Context α × σ :=
  (empty, context.handles.foldr (fun handle state => (handle.dispose run state).2) state)

/-- Deactivation keeps whatever every action keeps. -/
theorem deactivate_keeps {β : Type} {run : α → σ → σ} {view : σ → β}
    (h : ∀ action state, view (run action state) = view state) (context : Context α) (state : σ) :
    view (context.deactivate run state).2 = view state := by
  obtain ⟨handles⟩ := context
  induction handles with
  | nil => rfl
  | cons handle handles ih =>
    obtain ⟨pending⟩ := handle
    cases pending with
    | none => exact ih
    | some action => exact (h action _).trans ih

/-- The context as it is shown in messages. -/
def describe (context : Context α) : String :=
  "ExtensionContext \x7b subscriptions: [" ++
    String.intercalate ", " (context.handles.map Handle.describe) ++ "] \x7d"

end Context

end TucServer
