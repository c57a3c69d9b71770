import TucServer.Registry.Handle
import TucServer.Registry.Store

/-!
# Hosts

A host is anything that providers can be registered with. Activation registers the keyword provider
with a host and collects the handle, so that deactivating the context takes the provider back.
-/

namespace TucServer

/-- What registering a provider for a language does to a state, and the handle it gives. The actions
of the handles are of type `α`. -/
structure Host (α σ : Type) where
  register : String → Provider → σ → Handle α × σ

namespace Host

/-- The host that registers with a store. The action of a handle is the number to unregister. -/
def store : Host Nat Store :=
  ⟨fun language provider store =>
    let (id, store) := store.register language provider
    (Handle.new id, store)⟩

end Host

/-- Registers the keyword provider with the host and keeps the handle in the context. -/
def activate {α σ : Type} (host : Host α σ) (context : Context α) (state : σ) : Context α × σ :=
  let (handle, state) := host.register Catalog.language Provider.keywords state
  (context.push handle, state)

end TucServer
