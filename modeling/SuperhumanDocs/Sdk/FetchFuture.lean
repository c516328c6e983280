import SuperhumanDocs.Sdk.Fetch

/-!
# The future of a fetch

`FetchFuture::poll` and the callback `complete` share a result and a waker, each behind a mutex of
its own. `poll` looks at the result, leaves its waker and looks again; `complete` leaves the
result and then takes the waker. Each critical section is one step; what a call does without a
lock goes with the critical section before it.
-/

set_option autoImplicit false

namespace SuperhumanDocs

/-- What `complete` leaves; an error is the message given to `Error::transport`. -/
def completeResult (report : FetchReport) : Except String Response :=
  if report.status = 0 then .error (report.error.getD "Emscripten Fetch failed")
  else .ok { status := report.status, body := report.body }

/-- How far `complete` has come. -/
inductive CompletePhase (ω : Type) where
  | storing (result : Except String Response)
  | stored
  | waking (waker : ω)
  | finished

/-- Where the future is: between polls, or in a poll with a waker. -/
inductive FuturePhase (ω : Type) where
  | idle
  /-- The first look found nothing. -/
  | registering (waker : ω)
  | rechecking (waker : ω)
  | dropped

inductive FutureAction (ω : Type) where
  | store (result : Except String Response)
  | takeWaker (found : Option ω)
  | wake (waker : ω)
  /-- A poll begins, and looks at the result. -/
  | take (waker : ω) (found : Option (Except String Response))
  | register (waker : ω)
  /-- The poll looks at the result again. -/
  | retake (waker : ω) (found : Option (Except String Response))
  | drop (cancels : Bool)

/-- `complete`, the future and what they share. -/
structure FutureState (ω : Type) where
  complete : CompletePhase ω
  future : FuturePhase ω
  completed : Bool
  handle : Nat
  result : Option (Except String Response)
  waker : Option ω

namespace FutureState

variable {ω : Type}

inductive Step : FutureState ω → FutureAction ω → FutureState ω → Prop
  | store {s : FutureState ω} {result : Except String Response} :
      s.complete = .storing result →
      Step s (.store result) { s with complete := .stored, result := some result }
  | takeWaker {s : FutureState ω} : s.complete = .stored →
      Step s (.takeWaker s.waker)
        { s with complete := s.waker.elim .finished .waking, waker := none }
  | wake {s : FutureState ω} {waker : ω} : s.complete = .waking waker →
      Step s (.wake waker) { s with complete := .finished }
  | takeReady {s : FutureState ω} {waker : ω} {result : Except String Response} :
      s.future = .idle → s.result = some result →
      Step s (.take waker (some result)) { s with completed := true, result := none }
  | takeNone {s : FutureState ω} {waker : ω} : s.future = .idle → s.result = none →
      Step s (.take waker none) { s with future := .registering waker }
  | register {s : FutureState ω} {waker : ω} : s.future = .registering waker →
      Step s (.register waker) { s with future := .rechecking waker, waker := some waker }
  | retakeReady {s : FutureState ω} {waker : ω} {result : Except String Response} :
      s.future = .rechecking waker → s.result = some result →
      Step s (.retake waker (some result))
        { s with future := .idle, completed := true, result := none }
  | retakeNone {s : FutureState ω} {waker : ω} : s.future = .rechecking waker →
      s.result = none → Step s (.retake waker none) { s with future := .idle }
  | drop {s : FutureState ω} : s.future = .idle →
      Step s (.drop (FetchFuture.cancelsOnDrop s.completed s.handle)) { s with future := .dropped }

/-- The runs from a state. -/
inductive Run (start : FutureState ω) : List (FutureAction ω) → FutureState ω → Prop
  | nil : Run start [] start
  | snoc {es : List (FutureAction ω)} {s s' : FutureState ω} {action : FutureAction ω} :
      Run start es s → Step s action s' → Run start (es ++ [action]) s'

/-- The future as `send` makes it, and the callback with its report. -/
def initial (report : FetchReport) (handle : Nat) : FutureState ω where
  complete := .storing (completeResult report)
  future := .idle
  completed := false
  handle
  result := none
  waker := none

end FutureState

/-- What a poll returns. -/
inductive PollOutcome (ω : Type) where
  | ready (result : Except String Response)
  /-- Pending, with the waker of the poll. -/
  | pending (waker : ω)

/-- The return of a poll. -/
def FutureAction.outcome {ω : Type} : FutureAction ω → Option (PollOutcome ω)
  | take _ found => found.map .ready
  | retake waker found => some (found.elim (.pending waker) .ready)
  | _ => none

/-- What the polls returned, in order. -/
def pollOutcomes {ω : Type} (es : List (FutureAction ω)) : List (PollOutcome ω) :=
  es.filterMap FutureAction.outcome

end SuperhumanDocs
