import SuperhumanDocs.Sdk
import SuperhumanDocs.Concurrency.Guarded

/-!
# Concurrent calls of one SDK client

Any number of calls of `execute` and `execute_accepting_status` on one `SdkClient`. The response
comes to a call by the exchange slot in the transport state, which every request of the client
writes; the mutex `execution` is held from the clearing of the slot to the end of
`execute_inner`.

The operation is code of the SDK: it sends requests as it likes, any number at a time, drops
some, and ends with any result. Its requests are part of its future, so none is left when it has
ended or the call is dropped.
-/

set_option autoImplicit false

namespace SuperhumanDocs

open Concurrency

/-- The function called. -/
inductive SdkEntry where
  | execute
  | executeAcceptingStatus (acceptedStatus : Nat)
deriving DecidableEq, Repr

namespace SdkEntry

def acceptedStatus : SdkEntry → Option Nat
  | execute => none
  | executeAcceptingStatus acceptedStatus => some acceptedStatus

/-- What the function makes of the result of `execute_inner`. -/
def conclude : SdkEntry → Except String (Option String) → Except String (Option String)
  | execute, .ok none => .error "SDK transport returned an unexpected accepted status"
  | _, inner => inner

theorem conclude_execute (reply : Reply) :
    conclude execute (executeInner none reply) = (SuperhumanDocs.execute reply).map some := by
  rw [SuperhumanDocs.execute]
  rcases executeInner none reply with _ | _ | _ <;> rfl

theorem conclude_executeAcceptingStatus (status : Nat) (reply : Reply) :
    conclude (executeAcceptingStatus status) (executeInner (some status) reply) =
      SuperhumanDocs.executeAcceptingStatus status reply := rfl

end SdkEntry

/-- What a call does. -/
inductive SdkAction where
  | lock
  | clear
  /-- `dispatch` starts `send_http_request`. -/
  | send (expectedStatus : Nat)
  | receive (exchange : Exchange)
  | store (exchange : Exchange)
  /-- A request fails, or the operation drops it. -/
  | fail (expectedStatus : Nat)
  /-- The operation ends. -/
  | returned (result : Except SdkError Unit)
  | take (exchange : Option Exchange)
  /-- `execute_inner` returns and gives the lock back. -/
  | inner (outcome : Except String (Option String))
  | finish (outcome : Except String (Option String))
  /-- The future of the call is dropped. -/
  | cancel

/-- How far a call has come. -/
inductive SdkPhase where
  | waiting
  | locked
  /-- In the operation, with the expected statuses of the requests in flight. -/
  | operating (inFlight : List Nat)
  /-- In `dispatch`, with a response that is not stored yet. -/
  | storing (inFlight : List Nat) (exchange : Exchange)
  | operated (result : Except SdkError Unit)
  | taken (reply : Reply)
  | concluding (inner : Except String (Option String))
  | ended

structure SdkCall where
  entry : SdkEntry
  phase : SdkPhase

namespace SdkCall

/-- A step of a call. Between a response and its store there is no await, so no other request of
the same call comes in between; the steps of other calls may. -/
inductive Step : SdkCall → SdkAction → SdkCall → Prop
  | lock {entry : SdkEntry} : Step ⟨entry, .waiting⟩ .lock ⟨entry, .locked⟩
  | clear {entry : SdkEntry} : Step ⟨entry, .locked⟩ .clear ⟨entry, .operating []⟩
  | send {entry : SdkEntry} {inFlight : List Nat} {expectedStatus : Nat} :
      Step ⟨entry, .operating inFlight⟩ (.send expectedStatus)
        ⟨entry, .operating (expectedStatus :: inFlight)⟩
  | receive {entry : SdkEntry} {inFlight : List Nat} {exchange : Exchange} :
      exchange.expectedStatus ∈ inFlight →
      Step ⟨entry, .operating inFlight⟩ (.receive exchange)
        ⟨entry, .storing (inFlight.erase exchange.expectedStatus) exchange⟩
  | store {entry : SdkEntry} {inFlight : List Nat} {exchange : Exchange} :
      Step ⟨entry, .storing inFlight exchange⟩ (.store exchange) ⟨entry, .operating inFlight⟩
  | fail {entry : SdkEntry} {inFlight : List Nat} {expectedStatus : Nat} :
      expectedStatus ∈ inFlight →
      Step ⟨entry, .operating inFlight⟩ (.fail expectedStatus)
        ⟨entry, .operating (inFlight.erase expectedStatus)⟩
  | returned {entry : SdkEntry} {inFlight : List Nat} {result : Except SdkError Unit} :
      Step ⟨entry, .operating inFlight⟩ (.returned result) ⟨entry, .operated result⟩
  | take {entry : SdkEntry} {reply : Reply} :
      Step ⟨entry, .operated reply.result⟩ (.take reply.exchange) ⟨entry, .taken reply⟩
  | inner {entry : SdkEntry} {reply : Reply} :
      Step ⟨entry, .taken reply⟩ (.inner (executeInner entry.acceptedStatus reply))
        ⟨entry, .concluding (executeInner entry.acceptedStatus reply)⟩
  | finish {entry : SdkEntry} {inner : Except String (Option String)} :
      Step ⟨entry, .concluding inner⟩ (.finish (entry.conclude inner)) ⟨entry, .ended⟩
  | cancel {entry : SdkEntry} {phase : SdkPhase} : phase ≠ .ended →
      Step ⟨entry, phase⟩ .cancel ⟨entry, .ended⟩

end SdkCall

namespace SdkAction

def locks : SdkAction → Bool
  | lock => true
  | _ => false

def unlocks : SdkAction → Bool
  | inner _ | cancel => true
  | _ => false

/-- What an action does to the exchange slot. -/
def usesSlot (slot : Option Exchange) : SdkAction → Option Exchange → Prop
  | clear, slot' => slot' = none
  | store exchange, slot' => slot' = some exchange
  | take exchange, slot' => exchange = slot ∧ slot' = none
  | _, slot' => slot' = slot

end SdkAction

/-- The mutex `execution` and the exchange slot. -/
def executionLock : Guard SdkAction (Option Exchange) where
  acquires := SdkAction.locks
  releases := SdkAction.unlocks
  use := SdkAction.usesSlot

/-- A client with calls that have not begun. -/
def SdkClient.idle {ι : Type} (entries : ι → SdkEntry) :
    State ι SdkCall (Locked ι (Option Exchange)) :=
  ⟨fun i => ⟨entries i, .waiting⟩, ⟨none, none⟩⟩

/-- The runs of the calls, in any order of their steps. -/
def SdkClient.Run {ι : Type} [DecidableEq ι] (entries : ι → SdkEntry) :
    List (ι × SdkAction) → State ι SdkCall (Locked ι (Option Exchange)) → Prop :=
  Concurrency.Run SdkCall.Step executionLock.shared (SdkClient.idle entries)

end SuperhumanDocs
