/-
The network state slice (`network/state.rs`) and the network side of direct messages.

The slice records responses for the actions it handles, as the agent slice does, and the
open node-to-node messages (`direct_message_connections`) waiting for an answer.

* `lookup_network_reduceClearActionResponse` — the network's `ClearActionResponse(id)`
  removes the response recorded under `id` and keeps every other one.
-/
import Holochain.Core.Agent

namespace Holochain

/-- `NetworkActionResponse`. -/
inductive NetworkActionResponse (A : Type)
  | publish (result : Except HolochainError A)
  | publishHeaderEntry (result : Except HolochainError A)
  | respond (result : Except HolochainError Unit)

/-- `ValidationKey`: the address and id of a requested validation package. -/
structure ValidationKey (A : Type) where
  address : A
  id : String
  deriving DecidableEq, Repr

/-- `CustomDirectMessage`: a message between zomes; the payload is the zome's JSON or its
error. -/
structure CustomDirectMessage where
  zome : String
  payload : Except String String
  deriving DecidableEq, Repr

/-- `DirectMessage`. The validation package a response carries is kept as its JSON. -/
inductive DirectMessage (A : Type)
  | custom (message : CustomDirectMessage)
  | requestValidationPackage (key : ValidationKey A)
  | validationPackage (package : Option String)
  deriving DecidableEq, Repr

/-- The actions whose responses the network slice records, and the clear. -/
inductive NetworkAction (A : Type)
  | publish (address : A)
  | publishHeaderEntry (address : A)
  | clearActionResponse (id : String)

/-- `NetworkState`, with the fields the modelled reducers and handlers read. -/
structure NetworkState (A : Type) where
  actions : AList (fun _ : String =>
    NetworkAction A × ActionResponse (NetworkActionResponse A))
  directMessageConnections : AList (fun _ : String => DirectMessage A)

variable {A : Type}

/-- `network::reducers::reduce_clear_action_response`: keep the responses whose action id
is not `id`. -/
def NetworkState.reduceClearActionResponse (s : NetworkState A) (id : String) :
    NetworkState A :=
  { s with actions := s.actions.filter fun k _ => k != id }

/-- The network's clear removes exactly the response recorded under `id`. -/
theorem lookup_network_reduceClearActionResponse (s : NetworkState A) (id k : String) :
    (s.reduceClearActionResponse id).actions.lookup k =
      if k = id then none else s.actions.lookup k := by
  unfold NetworkState.reduceClearActionResponse
  rw [AList.lookup_filter]
  by_cases hk : k = id
  · subst hk
    cases s.actions.lookup k <;> simp [Option.filter]
  · cases s.actions.lookup k <;> simp [Option.filter, hk]

end Holochain
