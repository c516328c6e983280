import SuperhumanDocs.Sdk
import SuperhumanDocs.Concurrency.Keyed
import Mathlib.Algebra.Group.Nat.Defs

/-!
# Browser fetches

In the browser a request is sent by `rust_ext_emscripten_fetch_start`. Its context, with the
userdata that Rust gave away, is in a table under the id of the fetch until `TakeFetch` takes it:
in `FinishFetch`, when the browser reports success or an error, in
`rust_ext_emscripten_fetch_cancel`, or in the start itself when the browser declines. Whoever
finds the context calls back.

Any number of requests and of calls of these functions run at the same time; each critical section
of the mutex is one step. More than the browser does is allowed: a fetch may report any number of
times from the call of `emscripten_fetch` on, in particular when it is being closed.
-/

set_option autoImplicit false

namespace SuperhumanDocs

open Concurrency

abbrev Pointer := Nat

/-- What the table keeps of a request. -/
structure FetchContext where
  userdata : Pointer
  fetch : Option Pointer
deriving DecidableEq, Repr

/-- What the browser says of a fetch when it reports. -/
structure FetchEvent where
  status : Nat
  data : ByteArray
  statusText : String

/-- The arguments of the callback after the userdata. -/
structure FetchReport where
  status : Nat
  body : ByteArray
  error : Option String

/-- The arguments in `FinishFetch`. -/
def finishReport (event : FetchEvent) : FetchReport where
  status := event.status % 2 ^ 16
  body := event.data
  error := if event.status % 2 ^ 16 = 0 then some event.statusText else none

/-- The arguments in `rust_ext_emscripten_fetch_cancel`. -/
def cancelReport : FetchReport where
  status := 0
  body := ByteArray.empty
  error := some "Emscripten Fetch request cancelled"

/-- What is done for a request. -/
inductive FetchAction where
  /-- The start returns early: no method, no url or no callback. -/
  | refuse (userdata : Pointer)
  /-- The start puts the context under a new id. -/
  | start (userdata : Pointer) (id : Nat)
  /-- `emscripten_fetch` returns null. -/
  | fetchNull
  /-- `emscripten_fetch` is called and is going to return a fetch. -/
  | fetch (fetch : Pointer)
  /-- `TakeFetch` in the start. -/
  | discard (id : Nat)
  /-- The fetch is stored in the context, if that is still there. -/
  | attach (id : Nat) (fetch : Pointer)
  /-- The start returns. -/
  | returns (handle : Nat)
  /-- `send` drops the box it gave away. -/
  | reclaim (userdata : Pointer)
  /-- The `FetchFuture` is dropped. -/
  | drop (completed : Bool)
  /-- The browser reports: `FinishFetch` is called. -/
  | report (event : FetchEvent)
  /-- `TakeFetch` in `FinishFetch` or in `rust_ext_emscripten_fetch_cancel`. -/
  | take (id : Nat) (found : Option FetchContext)
  | call (userdata : Pointer) (report : FetchReport)
  | close (fetch : Pointer)

/-! ## The functions that take the context -/

/-- A running call of `FinishFetch` or of `rust_ext_emscripten_fetch_cancel`. -/
inductive FetchActivity where
  | finish (id : Nat) (fetch : Pointer) (event : FetchEvent)
  /-- `FinishFetch` before the callback. -/
  | finishing (fetch : Pointer) (event : FetchEvent) (context : FetchContext)
  | cancel (handle : Nat)
  /-- `rust_ext_emscripten_fetch_cancel` before the callback. -/
  | cancelling (context : FetchContext)
  /-- After the callback. -/
  | closing (fetch : Pointer)

namespace FetchActivity

/-- A step; `none` is the return. -/
inductive Step : FetchActivity → FetchAction → Option FetchActivity → Prop
  | finish {id : Nat} {fetch : Pointer} {event : FetchEvent} {found : Option FetchContext} :
      Step (finish id fetch event) (.take id found) (found.map (finishing fetch event))
  | finishing {fetch : Pointer} {event : FetchEvent} {context : FetchContext} :
      Step (finishing fetch event context) (.call context.userdata (finishReport event))
        (some (closing fetch))
  | cancel {handle : Nat} {found : Option FetchContext} :
      Step (cancel handle) (.take handle found) (found.map cancelling)
  | cancelling {context : FetchContext} :
      Step (cancelling context) (.call context.userdata cancelReport) (context.fetch.map closing)
  | closing {fetch : Pointer} : Step (closing fetch) (.close fetch) none

/-- The id that is going to be looked up. -/
def lookup : FetchActivity → Option Nat
  | finish id _ _ => some id
  | cancel handle => some handle
  | _ => none

/-- The context on the way to its callback. -/
def held : FetchActivity → Option FetchContext
  | finishing _ _ context => some context
  | cancelling context => some context
  | _ => none

/-- The fetch that is going to be closed. -/
def closes : FetchActivity → Option Pointer
  | closing fetch => some fetch
  | _ => none

/-- The fetch the call is about. -/
def fetch? : FetchActivity → Option Pointer
  | finish _ fetch _ => some fetch
  | finishing fetch _ _ => some fetch
  | closing fetch => some fetch
  | _ => none

end FetchActivity

/-! ## One request -/

/-- How far the start, and `send` around it, have come. -/
inductive FetchCaller where
  | idle
  | inserted (userdata : Pointer) (id : Nat)
  /-- `emscripten_fetch` returned null. -/
  | null (userdata : Pointer) (id : Nat)
  /-- `emscripten_fetch` was called. -/
  | opened (userdata : Pointer) (id : Nat) (fetch : Pointer)
  | returning (userdata : Pointer) (handle : Nat)
  | returned (userdata : Pointer) (handle : Nat)
  /-- `send` failed. -/
  | failed
  /-- The `FetchFuture` was dropped. -/
  | dropped

/-- Dropping the `FetchFuture` cancels. -/
def FetchFuture.cancelsOnDrop (completed : Bool) (handle : Nat) : Bool :=
  !completed && handle != 0

/-- A request: its id in the table, the fetch of the browser with its `userData`, and the calls
that are running for it. -/
structure FetchRequest where
  caller : FetchCaller
  id : Option Nat
  fetch : Option (Nat × Pointer)
  running : List FetchActivity

namespace FetchRequest

def idle : FetchRequest := ⟨.idle, none, none, []⟩

inductive Step : FetchRequest → FetchAction → FetchRequest → Prop
  | refuse {fetch : Option (Nat × Pointer)} {running : List FetchActivity} {userdata : Pointer} :
      Step ⟨.idle, none, fetch, running⟩ (.refuse userdata)
        ⟨.returning userdata 0, none, fetch, running⟩
  | start {fetch : Option (Nat × Pointer)} {running : List FetchActivity} {userdata : Pointer}
      {id : Nat} : Step ⟨.idle, none, fetch, running⟩ (.start userdata id)
        ⟨.inserted userdata id, some id, fetch, running⟩
  | fetchNull {given : Option Nat} {fetch : Option (Nat × Pointer)}
      {running : List FetchActivity} {userdata : Pointer} {id : Nat} :
      Step ⟨.inserted userdata id, given, fetch, running⟩ .fetchNull
        ⟨.null userdata id, given, fetch, running⟩
  | fetch {given : Option Nat} {fetch : Option (Nat × Pointer)} {running : List FetchActivity}
      {userdata pointer : Pointer} {id : Nat} :
      Step ⟨.inserted userdata id, given, fetch, running⟩ (.fetch pointer)
        ⟨.opened userdata id pointer, given, some (id, pointer), running⟩
  | discard {given : Option Nat} {fetch : Option (Nat × Pointer)} {running : List FetchActivity}
      {userdata : Pointer} {id : Nat} :
      Step ⟨.null userdata id, given, fetch, running⟩ (.discard id)
        ⟨.returning userdata 0, given, fetch, running⟩
  | attach {given : Option Nat} {fetch : Option (Nat × Pointer)} {running : List FetchActivity}
      {userdata pointer : Pointer} {id : Nat} :
      Step ⟨.opened userdata id pointer, given, fetch, running⟩ (.attach id pointer)
        ⟨.returning userdata id, given, fetch, running⟩
  | returns {given : Option Nat} {fetch : Option (Nat × Pointer)} {running : List FetchActivity}
      {userdata : Pointer} {handle : Nat} :
      Step ⟨.returning userdata handle, given, fetch, running⟩ (.returns handle)
        ⟨.returned userdata handle, given, fetch, running⟩
  | reclaim {given : Option Nat} {fetch : Option (Nat × Pointer)} {running : List FetchActivity}
      {userdata : Pointer} : Step ⟨.returned userdata 0, given, fetch, running⟩ (.reclaim userdata)
        ⟨.failed, given, fetch, running⟩
  | drop {given : Option Nat} {fetch : Option (Nat × Pointer)} {running : List FetchActivity}
      {userdata : Pointer} {handle : Nat} {completed : Bool} : handle ≠ 0 →
      Step ⟨.returned userdata handle, given, fetch, running⟩ (.drop completed)
        ⟨.dropped, given, fetch,
          if FetchFuture.cancelsOnDrop completed handle then .cancel handle :: running
          else running⟩
  | report {caller : FetchCaller} {given : Option Nat} {running : List FetchActivity} {id : Nat}
      {pointer : Pointer} {event : FetchEvent} :
      Step ⟨caller, given, some (id, pointer), running⟩ (.report event)
        ⟨caller, given, some (id, pointer), .finish id pointer event :: running⟩
  | activity {caller : FetchCaller} {given : Option Nat} {fetch : Option (Nat × Pointer)}
      {before after : List FetchActivity} {activity : FetchActivity} {action : FetchAction}
      {next : Option FetchActivity} : activity.Step action next →
      Step ⟨caller, given, fetch, before ++ activity :: after⟩ action
        ⟨caller, given, fetch, before ++ next.toList ++ after⟩

end FetchRequest

/-! ## The table of fetches -/

/-- How the actions use the table `fetches`. -/
def fetchCells : Keyed FetchAction FetchContext Nat where
  gives
    | .start _ id => some id
    | _ => none
  uses
    | .start _ id => some id
    | .discard id => some id
    | .attach id _ => some id
    | .take id _ => some id
    | _ => none
  use c action c' :=
    match action with
    -- `emplace` keeps what is there
    | .start userdata _ => c' = some (c.getD { userdata, fetch := none })
    | .discard _ => c' = none
    | .attach _ fetch => c' = c.map fun context => { context with fetch := some fetch }
    | .take _ found => found = c ∧ c' = none
    | _ => c' = c

/-- The table and the counter behind the mutex. -/
structure FetchTable where
  fetches : Nat → Option FetchContext
  nextFetchId : Nat

/-- The next id in a word of `w` bits, and the counter after it. -/
def allocateFetchId (w nextFetchId : Nat) : Nat × Nat :=
  let following (id : Nat) := (id + 1) % 2 ^ w
  if nextFetchId = 0 then (following 0, following (following 0))
  else (nextFetchId, following nextFetchId)

inductive FetchTable.Step (w : Nat) : FetchTable → FetchAction → FetchTable → Prop
  | start {table table' : FetchTable} {userdata : Pointer} {id : Nat} :
      fetchCells.shared table.fetches (.start userdata id) table'.fetches →
      allocateFetchId w table.nextFetchId = (id, table'.nextFetchId) →
      Step w table (.start userdata id) table'
  | other {table table' : FetchTable} {action : FetchAction} : fetchCells.gives action = none →
      fetchCells.shared table.fetches action table'.fetches →
      table'.nextFetchId = table.nextFetchId → Step w table action table'

/-- The runs of any number of requests, in any order of their steps. -/
def FetchRun {ι : Type} [DecidableEq ι] (w : Nat) :
    List (ι × FetchAction) → State ι FetchRequest FetchTable → Prop :=
  Run FetchRequest.Step (fun _ => FetchTable.Step w) ⟨fun _ => .idle, ⟨fun _ => none, 1⟩⟩

/-! ## What a run did -/

namespace FetchAction

/-- The userdata given away to a start. -/
def begun : FetchAction → Option Pointer
  | refuse userdata => some userdata
  | start userdata _ => some userdata
  | _ => none

def handle : FetchAction → Option Nat
  | returns handle => some handle
  | _ => none

def reclaimed : FetchAction → Option Pointer
  | reclaim userdata => some userdata
  | _ => none

def called : FetchAction → Option Pointer
  | call userdata _ => some userdata
  | _ => none

def closed : FetchAction → Option Pointer
  | close pointer => some pointer
  | _ => none

/-- `FinishFetch` or `rust_ext_emscripten_fetch_cancel` looked the context up. -/
def lookedUp : FetchAction → Bool
  | take _ _ => true
  | _ => false

end FetchAction

end SuperhumanDocs
