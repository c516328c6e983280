import SuperhumanDocs.Sdk.Fetch

/-!
# Every fetch calls back once

* `fetchIds_eq`: fewer than `2 ^ w` starts get the ids 1, 2, … of the counter.
* With ids of their own the requests do not see each other (`fetch_discipline`): each one is looked
  at with its own cell of the table.
* `Custody`: from the call of `emscripten_fetch` on the userdata is in one place, the table, a
  running call that took it, or the callback.
* `fetch_calls_back_once`: the callback, the reclaim and the close of every request.
-/

set_option autoImplicit false

namespace SuperhumanDocs

open Concurrency

/-! ## The ids -/

section
variable {ι : Type} [DecidableEq ι] {w : Nat} {es : List (ι × FetchAction)}
  {s : State ι FetchRequest FetchTable}

/-- The ids the starts got. -/
def fetchIds (es : List (ι × FetchAction)) : List Nat := fetchCells.given es

theorem allocateFetchId_succ (w n : Nat) :
    allocateFetchId w (n + 1) = (n + 1, (n + 2) % 2 ^ w) := by
  simp [allocateFetchId]

/-- **The ids are those of the counter.** -/
theorem fetchIds_eq (hrun : FetchRun w es s) (hstarts : (fetchIds es).length < 2 ^ w) :
    fetchIds es = List.range' 1 (fetchIds es).length ∧
      ((fetchIds es).length + 1 < 2 ^ w →
        s.resource.nextFetchId = (fetchIds es).length + 1) := by
  induction hrun with
  | nil => exact ⟨rfl, fun _ => rfl⟩
  | @snoc es s i a p r _ _ haccess ih =>
    have hids : fetchIds (es ++ [(i, a)]) = fetchIds es ++ (fetchCells.gives a).toList :=
      Keyed.given_snoc es i a
    rw [hids, List.length_append] at hstarts
    obtain ⟨heq, hnext⟩ := ih (by omega)
    cases haccess with
    | other hgives _ hcounter =>
      rw [hids, hgives, Option.toList_none, List.append_nil]
      exact ⟨heq, fun h => hcounter.trans (hnext h)⟩
    | @start _ userdata id _ hallocate =>
      have hone : (fetchCells.gives (.start userdata id)).toList = [id] := rfl
      rw [hone, List.length_singleton] at hstarts
      rw [hnext hstarts, allocateFetchId_succ, Prod.mk.injEq] at hallocate
      obtain ⟨rfl, hcounter⟩ := hallocate
      rw [hids, hone, List.length_append, List.length_singleton]
      refine ⟨?_, fun h => ?_⟩
      · rw [List.range'_concat, ← heq, Nat.one_mul, Nat.add_comm 1]
      · rw [← hcounter, Nat.mod_eq_of_lt h]

theorem fetchIds_nodup (hrun : FetchRun w es s) (hstarts : (fetchIds es).length < 2 ^ w) :
    (fetchIds es).Nodup := by
  rw [(fetchIds_eq hrun hstarts).1]
  exact List.nodup_range'

theorem fetchIds_ne_zero (hrun : FetchRun w es s) (hstarts : (fetchIds es).length < 2 ^ w) :
    0 ∉ fetchIds es := by
  rw [(fetchIds_eq hrun hstarts).1, List.mem_range'_1]
  omega

end

/-! ## Each request has its own cell -/

/-- After its lookup a call looks nothing up. -/
theorem FetchActivity.Step.lookup_eq_none {activity : FetchActivity} {action : FetchAction}
    {next : Option FetchActivity} (h : activity.Step action next) :
    ∀ after ∈ next, after.lookup = none := by
  intro after hafter
  cases h with
  | finish =>
    obtain ⟨context, -, rfl⟩ := Option.map_eq_some_iff.1 hafter
    rfl
  | finishing =>
    cases hafter
    rfl
  | cancel =>
    obtain ⟨context, -, rfl⟩ := Option.map_eq_some_iff.1 hafter
    rfl
  | cancelling =>
    obtain ⟨fetch, -, rfl⟩ := Option.map_eq_some_iff.1 hafter
    rfl
  | closing => cases hafter

/-- The id the start and its caller go by. -/
def FetchCaller.id : FetchCaller → Option Nat
  | .inserted _ id | .null _ id | .opened _ id _ => some id
  | .returning _ handle | .returned _ handle => if handle = 0 then none else some handle
  | .idle | .failed | .dropped => none

namespace FetchRequest

/-- The ids a request goes by are the one it was given. -/
structure WellFormed (request : FetchRequest) : Prop where
  caller : ∀ id, request.caller.id = some id → request.id = some id
  fetch : ∀ id pointer, request.fetch = some (id, pointer) → request.id = some id
  running : ∀ activity ∈ request.running, ∀ id, activity.lookup = some id → request.id = some id

theorem WellFormed.step {request next : FetchRequest} {action : FetchAction}
    (h : request.WellFormed) (hstep : request.Step action next) : next.WellFormed := by
  obtain ⟨hcaller, hfetch, hrunning⟩ := h
  cases hstep with
  | refuse => exact ⟨fun id h => by simp [FetchCaller.id] at h, hfetch, hrunning⟩
  | start =>
    refine ⟨fun id h => h, fun id pointer h => ?_, fun activity hactivity id h => ?_⟩
    · exact absurd (hfetch id pointer h) (by simp)
    · exact absurd (hrunning activity hactivity id h) (by simp)
  | fetchNull => exact ⟨hcaller, hfetch, hrunning⟩
  | fetch =>
    refine ⟨hcaller, fun id pointer h => ?_, hrunning⟩
    cases h
    exact hcaller _ rfl
  | discard => exact ⟨fun id h => by simp [FetchCaller.id] at h, hfetch, hrunning⟩
  | @attach _ _ _ _ _ id =>
    refine ⟨fun id' h => hcaller id' ?_, hfetch, hrunning⟩
    by_cases hid : id = 0 <;> simp_all [FetchCaller.id]
  | returns => exact ⟨hcaller, hfetch, hrunning⟩
  | reclaim => exact ⟨fun id h => by simp [FetchCaller.id] at h, hfetch, hrunning⟩
  | @drop given fetch running userdata handle completed hne =>
    refine ⟨fun id h => by simp [FetchCaller.id] at h, hfetch, fun activity hactivity id h => ?_⟩
    dsimp only at hactivity
    by_cases hcancels : FetchFuture.cancelsOnDrop completed handle = true
    · rw [if_pos hcancels] at hactivity
      rcases List.mem_cons.1 hactivity with rfl | hactivity
      · exact hcaller id (by rw [FetchCaller.id, if_neg hne]; exact h)
      · exact hrunning activity hactivity id h
    · rw [if_neg hcancels] at hactivity
      exact hrunning activity hactivity id h
  | @report caller given running id pointer event =>
    refine ⟨hcaller, hfetch, fun activity hactivity id' h => ?_⟩
    rcases List.mem_cons.1 hactivity with rfl | hactivity
    · cases h
      exact hfetch _ pointer rfl
    · exact hrunning activity hactivity id' h
  | @activity caller given fetch before after activity action next hactivity =>
    refine ⟨hcaller, hfetch, fun other hother id h => ?_⟩
    simp only [List.mem_append, Option.mem_toList] at hother
    rcases hother with (hother | hother) | hother
    · exact hrunning other (List.mem_append_left _ hother) id h
    · rw [hactivity.lookup_eq_none other hother] at h
      cases h
    · exact hrunning other (List.mem_append_right _ (List.mem_cons_of_mem _ hother)) id h

end FetchRequest

/-- **The requests keep to their ids.** -/
theorem fetch_discipline :
    fetchCells.Discipline FetchRequest.Step FetchRequest.WellFormed FetchRequest.id where
  wellFormed _ _ _ h hstep := h.step hstep
  give request action next id hstep hgives := by
    cases hstep with
    | start =>
      cases hgives
      exact ⟨rfl, rfl, rfl⟩
    | activity hactivity => cases hactivity <;> cases hgives
    | _ => cases hgives
  keep request action next hstep hgives := by
    cases hstep with
    | start => cases hgives
    | _ => rfl
  own request action next id h hstep hgives huses := by
    cases hstep with
    | start => cases hgives
    | discard =>
      cases huses
      exact h.caller _ rfl
    | attach =>
      cases huses
      exact h.caller _ rfl
    | @activity _ _ _ before after activity _ _ hactivity =>
      apply h.running activity (by simp) id
      cases hactivity with
      | finish =>
        cases huses
        rfl
      | cancel =>
        cases huses
        rfl
      | _ => cases huses
    | _ => cases huses

/-! ## Where the userdata is -/

/-- The contexts that running calls hold. -/
def heldContexts (running : List FetchActivity) : List FetchContext :=
  running.filterMap FetchActivity.held

/-- The fetches that running calls are going to close. -/
def closingFetches (running : List FetchActivity) : List Pointer :=
  running.filterMap FetchActivity.closes

def calls (acts : List FetchAction) : List Pointer := acts.filterMap FetchAction.called

def closes (acts : List FetchAction) : List Pointer := acts.filterMap FetchAction.closed

def lookedUp (acts : List FetchAction) : Bool := acts.any FetchAction.lookedUp

/-- The userdata of a fetch is in one place: the table, a running call, or the callback. -/
structure Custody (userdata fetch : Pointer) (cell : Option FetchContext)
    (running : List FetchActivity) (acts : List FetchAction) : Prop where
  once : cell.toList.length + (heldContexts running).length + (calls acts).length = 1
  context : ∀ context ∈ cell.toList ++ heldContexts running,
    context.userdata = userdata ∧ ∀ pointer ∈ context.fetch, pointer = fetch
  called : ∀ pointer ∈ calls acts, pointer = userdata
  closed : (closingFetches running).length + (closes acts).length ≤ (calls acts).length
  running : ∀ activity ∈ running, ∀ pointer ∈ activity.fetch?, pointer = fetch
  fetch : ∀ pointer ∈ closes acts, pointer = fetch
  taken : lookedUp acts = true → cell = none

theorem filterMap_around {β : Type} (f : FetchActivity → Option β)
    (before after : List FetchActivity) (next : Option FetchActivity) :
    (before ++ next.toList ++ after).filterMap f =
      before.filterMap f ++ (next.bind f).toList ++ after.filterMap f := by
  cases next with
  | none => simp
  | some activity => cases h : f activity <;> simp [h]

theorem filterMap_snoc {β : Type} (f : FetchAction → Option β) (acts : List FetchAction)
    (action : FetchAction) :
    (acts ++ [action]).filterMap f = acts.filterMap f ++ (f action).toList := by
  cases h : f action <;> simp [h]

namespace Custody

variable {userdata fetch : Pointer} {cell cell' : Option FetchContext}
  {running before after : List FetchActivity} {acts : List FetchAction}

/-- A step of the start or of the browser leaves the userdata where it is. -/
theorem other (h : Custody userdata fetch cell running acts) {action : FetchAction}
    (hcalled : action.called = none) (hclosed : action.closed = none)
    (hlooked : action.lookedUp = false) :
    Custody userdata fetch cell running (acts ++ [action]) := by
  have hcalls : calls (acts ++ [action]) = calls acts := by simp [calls, hcalled]
  have hcloses : closes (acts ++ [action]) = closes acts := by simp [closes, hclosed]
  have hlooks : lookedUp (acts ++ [action]) = lookedUp acts := by simp [lookedUp, hlooked]
  constructor
  · rw [hcalls]; exact h.once
  · exact h.context
  · rw [hcalls]; exact h.called
  · rw [hcalls, hcloses]; exact h.closed
  · exact h.running
  · rw [hcloses]; exact h.fetch
  · rw [hlooks]; exact h.taken

/-- A new call holds nothing yet. -/
theorem spawn (h : Custody userdata fetch cell running acts) {activity : FetchActivity}
    (hheld : activity.held = none) (hcloses : activity.closes = none)
    (hfetch : ∀ pointer ∈ activity.fetch?, pointer = fetch) :
    Custody userdata fetch cell (activity :: running) acts := by
  have hcontexts : heldContexts (activity :: running) = heldContexts running := by
    simp [heldContexts, hheld]
  have hclosing : closingFetches (activity :: running) = closingFetches running := by
    simp [closingFetches, hcloses]
  constructor
  · rw [hcontexts]; exact h.once
  · rw [hcontexts]; exact h.context
  · exact h.called
  · rw [hclosing]; exact h.closed
  · intro other hother
    rcases List.mem_cons.1 hother with rfl | hother
    · exact hfetch
    · exact h.running other hother
  · exact h.fetch
  · exact h.taken

/-- The fetch is stored in the context, wherever that is. -/
theorem attach (h : Custody userdata fetch cell running acts) :
    Custody userdata fetch (cell.map fun context => { context with fetch := some fetch }) running
      acts := by
  constructor
  · cases cell <;> exact h.once
  · intro context hcontext
    cases cell with
    | none => exact h.context context hcontext
    | some stored =>
      rcases List.mem_cons.1 hcontext with rfl | hcontext
      · exact ⟨(h.context stored List.mem_cons_self).1, fun _ hpointer => by cases hpointer; rfl⟩
      · exact h.context context (List.mem_cons_of_mem _ hcontext)
  · exact h.called
  · exact h.closed
  · exact h.running
  · exact h.fetch
  · intro hlooked
    rw [h.taken hlooked]
    rfl

/-- A call goes on: what it held or took from the table it holds, or it calls back with it. -/
theorem advance {activity : FetchActivity} {action : FetchAction} {next : Option FetchActivity}
    (h : Custody userdata fetch cell (before ++ activity :: after) acts)
    (honce : cell'.toList.length + (next.bind FetchActivity.held).toList.length +
      action.called.toList.length = cell.toList.length + activity.held.toList.length)
    (hcontext : ∀ context ∈ cell'.toList ++ (next.bind FetchActivity.held).toList,
      context ∈ cell.toList ++ activity.held.toList)
    (hcalled : ∀ pointer ∈ action.called, pointer = userdata)
    (hclosed : (next.bind FetchActivity.closes).toList.length + action.closed.toList.length ≤
      activity.closes.toList.length + action.called.toList.length)
    (hrunning : ∀ later ∈ next, ∀ pointer ∈ later.fetch?, pointer = fetch)
    (hfetch : ∀ pointer ∈ action.closed, pointer = fetch)
    (hempty : cell = none → cell' = none) (htaken : action.lookedUp = true → cell' = none) :
    Custody userdata fetch cell' (before ++ next.toList ++ after) (acts ++ [action]) := by
  have heq : before ++ activity :: after = before ++ (some activity).toList ++ after := by simp
  rw [heq] at h
  constructor
  · have := h.once
    simp only [heldContexts, calls, filterMap_around, filterMap_snoc, List.length_append,
      Option.bind_some] at this ⊢
    omega
  · intro context hmem
    apply h.context
    have := hcontext context
    simp only [heldContexts, filterMap_around, List.mem_append, Option.bind_some] at hmem this ⊢
    tauto
  · intro pointer hmem
    rw [calls, filterMap_snoc, List.mem_append, Option.mem_toList] at hmem
    exact hmem.elim (h.called pointer) (hcalled pointer)
  · have := h.closed
    simp only [closingFetches, closes, calls, filterMap_around, filterMap_snoc,
      List.length_append, Option.bind_some] at this ⊢
    omega
  · intro other hother
    simp only [List.mem_append, Option.mem_toList] at hother
    rcases hother with (hother | hother) | hother
    · exact h.running other (by simp [hother])
    · exact hrunning other hother
    · exact h.running other (by simp [hother])
  · intro pointer hmem
    rw [closes, filterMap_snoc, List.mem_append, Option.mem_toList] at hmem
    exact hmem.elim (h.fetch pointer) (hfetch pointer)
  · intro hlooked
    rw [lookedUp, List.any_append, List.any_cons, List.any_nil, Bool.or_false,
      Bool.or_eq_true] at hlooked
    rcases hlooked with hlooked | hlooked
    · exact hempty (h.taken hlooked)
    · exact htaken hlooked

/-- A call that looks the context up takes it from the table to its next stage. -/
theorem take {activity : FetchActivity} {id : Nat} {found : Option FetchContext}
    {following : FetchContext → FetchActivity}
    (h : Custody userdata fetch cell (before ++ activity :: after) acts)
    (hcell : fetchCells.alone cell (.take id found) cell') (hempty : activity.held = none)
    (hheld : ∀ context, (following context).held = some context)
    (hcloses' : ∀ context, (following context).closes = none)
    (hfetch : ∀ context, ∀ pointer ∈ (following context).fetch?, pointer = fetch) :
    Custody userdata fetch cell' (before ++ (found.map following).toList ++ after)
      (acts ++ [.take id found]) := by
  obtain ⟨rfl, rfl⟩ : found = cell ∧ cell' = none := by
    simpa [Keyed.alone, fetchCells] using hcell
  apply h.advance
  · cases found with
    | none => simp [FetchAction.called, hempty]
    | some context => simp [FetchAction.called, hempty, hheld]
  · cases found with
    | none => simp
    | some context => simp [hheld]
  · exact fun _ hpointer => by cases hpointer
  · cases found with
    | none => simp [FetchAction.closed]
    | some context => simp [FetchAction.closed, hcloses']
  · intro later hlater
    obtain ⟨context, -, rfl⟩ := Option.map_eq_some_iff.1 hlater
    exact hfetch context
  · exact fun _ hpointer => by cases hpointer
  · exact fun _ => rfl
  · exact fun _ => rfl

/-- **A call that looks up, calls back or closes keeps the userdata in one place.** -/
theorem step {activity : FetchActivity} {action : FetchAction} {next : Option FetchActivity}
    (h : Custody userdata fetch cell (before ++ activity :: after) acts)
    (hstep : activity.Step action next) (hcell : fetchCells.alone cell action cell') :
    Custody userdata fetch cell' (before ++ next.toList ++ after) (acts ++ [action]) := by
  have hfetch : ∀ pointer ∈ activity.fetch?, pointer = fetch := h.running activity (by simp)
  cases hstep with
  | @finish id pointer event found =>
    exact h.take hcell rfl (fun _ => rfl) (fun _ => rfl) fun _ => hfetch
  | @cancel handle found =>
    refine h.take hcell rfl (fun _ => rfl) (fun _ => rfl) fun _ pointer hpointer => ?_
    cases hpointer
  | @finishing pointer event context =>
    obtain rfl : cell' = cell := by simpa [Keyed.alone, fetchCells] using hcell
    have hcontext := (h.context context (by simp [heldContexts, FetchActivity.held])).1
    apply h.advance
    · simp [FetchActivity.held, FetchAction.called]
    · intro other hother
      exact List.mem_append_left _ (by simpa [FetchActivity.held] using hother)
    · intro pointer hpointer
      cases hpointer
      exact hcontext
    · simp [FetchActivity.closes, FetchAction.closed, FetchAction.called]
    · intro later hlater
      cases hlater
      exact hfetch
    · exact fun _ hpointer => by cases hpointer
    · exact fun hempty => hempty
    · exact fun hlooked => by cases hlooked
  | @cancelling context =>
    obtain rfl : cell' = cell := by simpa [Keyed.alone, fetchCells] using hcell
    have hcontext := h.context context (by simp [heldContexts, FetchActivity.held])
    apply h.advance
    · cases context.fetch <;> simp [FetchActivity.held, FetchAction.called]
    · intro other hother
      apply List.mem_append_left
      cases hpointer : context.fetch <;> simpa [hpointer, FetchActivity.held] using hother
    · intro pointer hpointer
      cases hpointer
      exact hcontext.1
    · cases context.fetch <;> simp [FetchActivity.closes, FetchAction.closed, FetchAction.called]
    · intro later hlater
      obtain ⟨pointer, hpointer, rfl⟩ := Option.map_eq_some_iff.1 hlater
      intro other hother
      cases hother
      exact hcontext.2 _ hpointer
    · exact fun _ hpointer => by cases hpointer
    · exact fun hempty => hempty
    · exact fun hlooked => by cases hlooked
  | @closing pointer =>
    obtain rfl : cell' = cell := by simpa [Keyed.alone, fetchCells] using hcell
    apply h.advance
    · simp [FetchActivity.held, FetchAction.called]
    · intro other hother
      exact List.mem_append_left _ (by simpa using hother)
    · exact fun _ hpointer => by cases hpointer
    · simp [FetchActivity.closes, FetchAction.closed, FetchAction.called]
    · exact fun _ hlater => by cases hlater
    · intro other hother
      cases hother
      exact hfetch _ rfl
    · exact fun hempty => hempty
    · exact fun hlooked => by cases hlooked

end Custody

/-! ## One request -/

def begun (acts : List FetchAction) : List Pointer := acts.filterMap FetchAction.begun

def handles (acts : List FetchAction) : List Nat := acts.filterMap FetchAction.handle

def reclaims (acts : List FetchAction) : List Pointer := acts.filterMap FetchAction.reclaimed

/-- What is known of the start, its result and the reclaim. -/
structure Trail (acts : List FetchAction) (userdata : Pointer) (returned : List Nat)
    (reclaimed : List Pointer) : Prop where
  begun : begun acts = [userdata]
  handles : handles acts = returned
  reclaims : reclaims acts = reclaimed

/-- A step that neither begins nor ends a start. -/
structure FetchAction.Inner (action : FetchAction) : Prop where
  begun : action.begun = none
  handle : action.handle = none
  reclaimed : action.reclaimed = none

section
variable {acts : List FetchAction} {userdata : Pointer} {returned : List Nat}
  {reclaimed : List Pointer}

theorem Trail.snoc (h : Trail acts userdata returned reclaimed) {action : FetchAction}
    (hbegun : action.begun = none) : Trail (acts ++ [action]) userdata
      (returned ++ action.handle.toList) (reclaimed ++ action.reclaimed.toList) := by
  constructor
  · rw [SuperhumanDocs.begun, filterMap_snoc, hbegun, Option.toList_none, List.append_nil]
    exact h.begun
  · rw [SuperhumanDocs.handles, filterMap_snoc, ← h.handles, SuperhumanDocs.handles]
  · rw [SuperhumanDocs.reclaims, filterMap_snoc, ← h.reclaims, SuperhumanDocs.reclaims]

theorem Trail.inner (h : Trail acts userdata returned reclaimed) {action : FetchAction}
    (haction : action.Inner) : Trail (acts ++ [action]) userdata returned reclaimed := by
  have hsnoc := h.snoc haction.begun
  simpa only [haction.handle, haction.reclaimed, Option.toList_none, List.append_nil] using hsnoc

theorem Trail.returns (h : Trail acts userdata [] []) (handle : Nat) :
    Trail (acts ++ [.returns handle]) userdata [handle] [] :=
  h.snoc rfl

theorem Trail.reclaim (h : Trail acts userdata [0] []) :
    Trail (acts ++ [.reclaim userdata]) userdata [0] [userdata] :=
  h.snoc rfl

end

/-- Nobody has looked for the context yet. -/
structure Untouched (fetch : Option (Nat × Pointer)) (running : List FetchActivity)
    (acts : List FetchAction) : Prop where
  fetch : fetch = none
  running : running = []
  calls : calls acts = []
  closes : closes acts = []
  lookedUp : lookedUp acts = false

/-- A step of the start leaves it so. -/
theorem Untouched.other {fetch : Option (Nat × Pointer)} {running : List FetchActivity}
    {acts : List FetchAction} (h : Untouched fetch running acts) {action : FetchAction}
    (hcalled : action.called = none) (hclosed : action.closed = none)
    (hlooked : action.lookedUp = false) : Untouched fetch running (acts ++ [action]) := by
  refine ⟨h.fetch, h.running, ?_, ?_, ?_⟩
  · simp [SuperhumanDocs.calls, ← h.calls, hcalled]
  · simp [SuperhumanDocs.closes, ← h.closes, hclosed]
  · simp [SuperhumanDocs.lookedUp, ← h.lookedUp, hlooked]

/-- When `emscripten_fetch` is called the userdata is in the table. -/
theorem Untouched.custody {fetch : Option (Nat × Pointer)} {running : List FetchActivity}
    {acts : List FetchAction} (h : Untouched fetch running acts) (userdata pointer : Pointer) :
    Custody userdata pointer (some { userdata, fetch := none }) running acts := by
  obtain ⟨-, rfl, hcalls, hcloses, hlooked⟩ := h
  constructor
  · rw [hcalls]
    rfl
  · intro context hcontext
    cases List.mem_singleton.1 hcontext
    exact ⟨rfl, fun _ hpointer => by cases hpointer⟩
  · simp [hcalls]
  · simp [hcloses, closingFetches]
  · simp
  · simp [hcloses]
  · simp [hlooked]

/-- The start has a result, or is about to. -/
def Started (fetch : Option (Nat × Pointer)) (running : List FetchActivity)
    (cell : Option FetchContext) (acts : List FetchAction) (userdata : Pointer) (handle : Nat) :
    Prop :=
  if handle = 0 then Untouched fetch running acts ∧ cell = none
  else ∃ pointer, fetch = some (handle, pointer) ∧ Custody userdata pointer cell running acts

section
variable {fetch : Option (Nat × Pointer)} {running : List FetchActivity}
  {cell : Option FetchContext} {acts : List FetchAction} {userdata : Pointer} {handle : Nat}

theorem started_zero : Started fetch running cell acts userdata 0 ↔
    Untouched fetch running acts ∧ cell = none := by
  rw [Started, if_pos rfl]

theorem started_ne_zero (h : handle ≠ 0) : Started fetch running cell acts userdata handle ↔
    ∃ pointer, fetch = some (handle, pointer) ∧ Custody userdata pointer cell running acts := by
  rw [Started, if_neg h]

/-- The return of the start changes nothing. -/
theorem Started.other (h : Started fetch running cell acts userdata handle) {action : FetchAction}
    (hcalled : action.called = none) (hclosed : action.closed = none)
    (hlooked : action.lookedUp = false) :
    Started fetch running cell (acts ++ [action]) userdata handle := by
  by_cases hhandle : handle = 0
  · subst hhandle
    rw [started_zero] at h ⊢
    exact ⟨h.1.other hcalled hclosed hlooked, h.2⟩
  · rw [started_ne_zero hhandle] at h ⊢
    obtain ⟨pointer, hfetch, hcustody⟩ := h
    exact ⟨pointer, hfetch, hcustody.other hcalled hclosed hlooked⟩

/-- A start whose fetch the browser works on has a handle. -/
theorem Started.working (h : Started fetch running cell acts userdata handle)
    (hworks : ¬ Untouched fetch running acts) : handle ≠ 0 ∧
      ∃ pointer, fetch = some (handle, pointer) ∧ Custody userdata pointer cell running acts := by
  have hne : handle ≠ 0 := by
    rintro rfl
    exact hworks (started_zero.1 h).1
  exact ⟨hne, (started_ne_zero hne).1 h⟩

end

namespace FetchRequest

/-- Where a request stands, by how far its start and caller have come. -/
def Stands (request : FetchRequest) (cell : Option FetchContext) (acts : List FetchAction) :
    Prop :=
  match request with
  | ⟨.idle, _, fetch, running⟩ => fetch = none ∧ running = [] ∧ cell = none ∧ acts = []
  | ⟨.inserted userdata id, _, fetch, running⟩ | ⟨.null userdata id, _, fetch, running⟩ =>
    id ≠ 0 ∧ Trail acts userdata [] [] ∧ Untouched fetch running acts ∧
      cell = some { userdata, fetch := none }
  | ⟨.opened userdata id pointer, _, fetch, running⟩ =>
    id ≠ 0 ∧ Trail acts userdata [] [] ∧ fetch = some (id, pointer) ∧
      Custody userdata pointer cell running acts
  | ⟨.returning userdata handle, _, fetch, running⟩ =>
    Trail acts userdata [] [] ∧ Started fetch running cell acts userdata handle
  | ⟨.returned userdata handle, _, fetch, running⟩ =>
    Trail acts userdata [handle] [] ∧ Started fetch running cell acts userdata handle
  | ⟨.failed, _, fetch, running⟩ => ∃ userdata,
    Trail acts userdata [0] [userdata] ∧ Untouched fetch running acts ∧ cell = none
  | ⟨.dropped, _, fetch, running⟩ => ∃ userdata handle pointer, handle ≠ 0 ∧
    Trail acts userdata [handle] [] ∧ fetch = some (handle, pointer) ∧
      Custody userdata pointer cell running acts

/-- A request the browser works on: a step of the browser or of a running call keeps everything
but the custody. -/
theorem Stands.working {caller : FetchCaller} {id : Option Nat} {fetch : Option (Nat × Pointer)}
    {running : List FetchActivity} {cell : Option FetchContext} {acts : List FetchAction}
    (h : Stands ⟨caller, id, fetch, running⟩ cell acts) (hworks : fetch ≠ none ∨ running ≠ []) :
    ∃ userdata number pointer, fetch = some (number, pointer) ∧
      Custody userdata pointer cell running acts ∧
      ∀ (action : FetchAction) (running' : List FetchActivity) (cell' : Option FetchContext),
        action.Inner → Custody userdata pointer cell' running' (acts ++ [action]) →
        Stands ⟨caller, id, fetch, running'⟩ cell' (acts ++ [action]) := by
  have huntouched : ¬ Untouched fetch running acts := fun hun =>
    hworks.elim (fun hne => hne hun.fetch) fun hne => hne hun.running
  cases caller with
  | idle => exact absurd h.1 (hworks.resolve_right fun hne => hne h.2.1)
  | inserted => exact absurd h.2.2.1 huntouched
  | null => exact absurd h.2.2.1 huntouched
  | opened userdata number pointer =>
    obtain ⟨hne, htrail, hfetch, hcustody⟩ := h
    exact ⟨userdata, number, pointer, hfetch, hcustody, fun action running' cell' hinner hnext =>
      ⟨hne, htrail.inner hinner, hfetch, hnext⟩⟩
  | returning userdata handle =>
    obtain ⟨htrail, hstarted⟩ := h
    obtain ⟨hne, pointer, hfetch, hcustody⟩ := hstarted.working huntouched
    exact ⟨userdata, handle, pointer, hfetch, hcustody, fun action running' cell' hinner hnext =>
      ⟨htrail.inner hinner, (started_ne_zero hne).2 ⟨pointer, hfetch, hnext⟩⟩⟩
  | returned userdata handle =>
    obtain ⟨htrail, hstarted⟩ := h
    obtain ⟨hne, pointer, hfetch, hcustody⟩ := hstarted.working huntouched
    exact ⟨userdata, handle, pointer, hfetch, hcustody, fun action running' cell' hinner hnext =>
      ⟨htrail.inner hinner, (started_ne_zero hne).2 ⟨pointer, hfetch, hnext⟩⟩⟩
  | failed =>
    obtain ⟨_, -, hun, -⟩ := h
    exact absurd hun huntouched
  | dropped =>
    obtain ⟨userdata, handle, pointer, hne, htrail, hfetch, hcustody⟩ := h
    exact ⟨userdata, handle, pointer, hfetch, hcustody, fun action running' cell' hinner hnext =>
      ⟨userdata, handle, pointer, hne, htrail.inner hinner, hfetch, hnext⟩⟩

theorem Stands.step {request next : FetchRequest} {cell cell' : Option FetchContext}
    {acts : List FetchAction} {action : FetchAction} (h : request.Stands cell acts)
    (hstep : request.Step action next) (hcell : fetchCells.alone cell action cell')
    (hid : ∀ userdata id, action = .start userdata id → id ≠ 0) :
    next.Stands cell' (acts ++ [action]) := by
  cases hstep with
  | refuse =>
    obtain ⟨rfl, rfl, rfl, rfl⟩ := h
    obtain rfl : cell' = none := by simpa [Keyed.alone, fetchCells] using hcell
    exact ⟨⟨rfl, rfl, rfl⟩, started_zero.2 ⟨⟨rfl, rfl, rfl, rfl, rfl⟩, rfl⟩⟩
  | start =>
    obtain ⟨rfl, rfl, rfl, rfl⟩ := h
    obtain rfl := by simpa [Keyed.alone, fetchCells] using hcell
    exact ⟨hid _ _ rfl, ⟨rfl, rfl, rfl⟩, ⟨rfl, rfl, rfl, rfl, rfl⟩, rfl⟩
  | fetchNull =>
    obtain ⟨hne, htrail, hun, rfl⟩ := h
    obtain rfl := by simpa [Keyed.alone, fetchCells] using hcell
    exact ⟨hne, htrail.inner ⟨rfl, rfl, rfl⟩, hun.other rfl rfl rfl, rfl⟩
  | fetch =>
    obtain ⟨hne, htrail, hun, rfl⟩ := h
    obtain rfl := by simpa [Keyed.alone, fetchCells] using hcell
    exact ⟨hne, htrail.inner ⟨rfl, rfl, rfl⟩, rfl, (hun.custody _ _).other rfl rfl rfl⟩
  | discard =>
    obtain ⟨hne, htrail, hun, rfl⟩ := h
    obtain rfl : cell' = none := by simpa [Keyed.alone, fetchCells] using hcell
    exact ⟨htrail.inner ⟨rfl, rfl, rfl⟩, started_zero.2 ⟨hun.other rfl rfl rfl, rfl⟩⟩
  | attach =>
    obtain ⟨hne, htrail, hfetch, hcustody⟩ := h
    obtain rfl := by simpa [Keyed.alone, fetchCells] using hcell
    exact ⟨htrail.inner ⟨rfl, rfl, rfl⟩,
      (started_ne_zero hne).2 ⟨_, hfetch, hcustody.attach.other rfl rfl rfl⟩⟩
  | @returns _ _ _ userdata handle =>
    obtain ⟨htrail, hstarted⟩ := h
    obtain rfl : cell' = cell := by simpa [Keyed.alone, fetchCells] using hcell
    exact ⟨htrail.returns handle, hstarted.other rfl rfl rfl⟩
  | @reclaim _ _ _ userdata =>
    obtain ⟨htrail, hstarted⟩ := h
    obtain rfl : cell' = cell := by simpa [Keyed.alone, fetchCells] using hcell
    obtain ⟨hun, hnone⟩ := started_zero.1 hstarted
    exact ⟨userdata, htrail.reclaim, hun.other rfl rfl rfl, hnone⟩
  | @drop _ _ running userdata handle completed hne =>
    obtain ⟨htrail, hstarted⟩ := h
    obtain rfl : cell' = cell := by simpa [Keyed.alone, fetchCells] using hcell
    obtain ⟨pointer, hfetch, hcustody⟩ := (started_ne_zero hne).1 hstarted
    refine ⟨userdata, handle, pointer, hne, htrail.inner ⟨rfl, rfl, rfl⟩, hfetch, ?_⟩
    by_cases hcancels : FetchFuture.cancelsOnDrop completed handle = true
    · rw [if_pos hcancels]
      exact (hcustody.spawn rfl rfl fun _ hpointer => by cases hpointer).other rfl rfl rfl
    · rw [if_neg hcancels]
      exact hcustody.other rfl rfl rfl
  | @report caller given running id pointer event =>
    obtain rfl : cell' = cell := by simpa [Keyed.alone, fetchCells] using hcell
    obtain ⟨userdata, number, pointer', hfetch, hcustody, hnext⟩ := h.working (.inl (by simp))
    cases hfetch
    apply hnext _ _ _ ⟨rfl, rfl, rfl⟩
    exact (hcustody.spawn rfl rfl fun _ hpointer => by cases hpointer; rfl).other rfl rfl rfl
  | @activity caller given fetch before after activity action next hactivity =>
    obtain ⟨userdata, number, pointer, -, hcustody, hnext⟩ := h.working (.inr (by simp))
    have hinner : action.Inner := by
      cases hactivity <;> exact ⟨rfl, rfl, rfl⟩
    exact hnext action _ cell' hinner (hcustody.step hactivity hcell)

end FetchRequest

/-! ## Any number of requests -/

/-- What a request with the userdata has come to. -/
structure CallsBackOnce (userdata : Pointer) (request : FetchRequest) (acts : List FetchAction) :
    Prop where
  /-- The callback runs at most once, with the userdata of the request. -/
  atMostOnce : calls acts = [] ∨ calls acts = [userdata]
  /-- Once `FinishFetch` or a cancel looked the context up, the callback has run, or it is what the
  one call that took the context does next. -/
  exactlyOnce : lookedUp acts = true → calls acts = [userdata] ∨
    calls acts = [] ∧ ∃ context, heldContexts request.running = [context] ∧
      context.userdata = userdata
  /-- After a start that returned 0 it never runs, and the caller takes the userdata back, once. -/
  refused : 0 ∈ handles acts → calls acts = [] ∧
    (request.caller = .returned userdata 0 ∧ reclaims acts = [] ∨
      request.caller = .failed ∧ reclaims acts = [userdata])
  /-- Otherwise the caller leaves the userdata alone. -/
  kept : 0 ∉ handles acts → reclaims acts = []
  /-- The fetch of the request is closed at most once, and no other one by it. -/
  closedOnce : (closes acts).length ≤ 1 ∧
    ∀ pointer ∈ closes acts, ∃ id, request.fetch = some (id, pointer)
  handle : ∀ handle ∈ handles acts, handle ≠ 0 → ∃ pointer, request.fetch = some (handle, pointer)

theorem Custody.callsBackOnce {userdata pointer : Pointer} {cell : Option FetchContext}
    {request : FetchRequest} {acts : List FetchAction} {id : Nat}
    (h : Custody userdata pointer cell request.running acts)
    (hfetch : request.fetch = some (id, pointer)) {returned : List Nat}
    (htrail : Trail acts userdata returned []) (hreturned : ∀ handle ∈ returned, handle = id)
    (hne : id ≠ 0) : CallsBackOnce userdata request acts := by
  have hzero : 0 ∉ handles acts := by
    rw [htrail.handles]
    exact fun h0 => hne (hreturned 0 h0).symm
  have honce := h.once
  have hcalled : (calls acts).length = 1 → calls acts = [userdata] := fun hone => by
    obtain ⟨other, hother⟩ := List.length_eq_one_iff.1 hone
    rw [hother, h.called other (by simp [hother])]
  refine ⟨?_, fun hlooked => ?_, fun h0 => absurd h0 hzero, fun _ => htrail.reclaims, ⟨?_, ?_⟩, ?_⟩
  · by_cases hnone : calls acts = []
    · exact .inl hnone
    · have := List.length_pos_iff.2 hnone
      exact .inr (hcalled (by omega))
  · rw [h.taken hlooked, Option.toList_none, List.length_nil] at honce
    by_cases hone : (calls acts).length = 1
    · exact .inl (hcalled hone)
    · obtain ⟨context, hcontext⟩ := List.length_eq_one_iff.1
        (show (heldContexts request.running).length = 1 by omega)
      have hnone : calls acts = [] := List.length_eq_zero_iff.1 (by omega)
      exact .inr ⟨hnone, context, hcontext, (h.context context (by simp [hcontext])).1⟩
  · have := h.closed
    omega
  · intro other hother
    exact ⟨id, by rw [h.fetch other hother]; exact hfetch⟩
  · intro handle hhandle _
    rw [htrail.handles] at hhandle
    exact ⟨pointer, by rw [hreturned handle hhandle]; exact hfetch⟩

theorem Untouched.callsBackOnce {userdata : Pointer} {request : FetchRequest}
    {acts : List FetchAction} (h : Untouched request.fetch request.running acts)
    (hrefused : 0 ∈ handles acts → request.caller = .returned userdata 0 ∧ reclaims acts = [] ∨
      request.caller = .failed ∧ reclaims acts = [userdata])
    (hkept : 0 ∉ handles acts → reclaims acts = [])
    (hhandles : ∀ handle ∈ handles acts, handle = 0) : CallsBackOnce userdata request acts where
  atMostOnce := .inl h.calls
  exactlyOnce hlooked := by
    rw [h.lookedUp] at hlooked
    cases hlooked
  refused h0 := ⟨h.calls, hrefused h0⟩
  kept := hkept
  closedOnce := by simp [h.closes]
  handle handle hmem hne := absurd (hhandles handle hmem) hne

theorem FetchRequest.Stands.callsBackOnce {request : FetchRequest} {cell : Option FetchContext}
    {acts : List FetchAction} (h : request.Stands cell acts) {userdata : Pointer}
    (hbegun : userdata ∈ begun acts) : CallsBackOnce userdata request acts := by
  have hown {other : Pointer} {returned : List Nat} {reclaimed : List Pointer}
      (htrail : Trail acts other returned reclaimed) : other = userdata := by
    rw [htrail.begun, List.mem_singleton] at hbegun
    exact hbegun.symm
  obtain ⟨caller, id, fetch, running⟩ := request
  have huntouched {other : Pointer} (hun : Untouched fetch running acts)
      (htrail : Trail acts other [] []) :
      CallsBackOnce userdata ⟨caller, id, fetch, running⟩ acts :=
    hun.callsBackOnce (by simp [htrail.handles]) (fun _ => htrail.reclaims)
      (by simp [htrail.handles])
  cases caller with
  | idle =>
    obtain ⟨-, -, -, rfl⟩ := h
    cases hbegun
  | inserted => exact huntouched h.2.2.1 h.2.1
  | null => exact huntouched h.2.2.1 h.2.1
  | opened =>
    obtain ⟨hne, htrail, hfetch, hcustody⟩ := h
    obtain rfl := hown htrail
    exact hcustody.callsBackOnce hfetch htrail (by simp) hne
  | returning other handle =>
    obtain ⟨htrail, hstarted⟩ := h
    obtain rfl := hown htrail
    by_cases hne : handle = 0
    · subst hne
      exact huntouched (started_zero.1 hstarted).1 htrail
    · obtain ⟨pointer, hfetch, hcustody⟩ := (started_ne_zero hne).1 hstarted
      exact hcustody.callsBackOnce hfetch htrail (by simp) hne
  | returned other handle =>
    obtain ⟨htrail, hstarted⟩ := h
    obtain rfl := hown htrail
    by_cases hne : handle = 0
    · subst hne
      exact (started_zero.1 hstarted).1.callsBackOnce (fun _ => .inl ⟨rfl, htrail.reclaims⟩)
        (fun _ => htrail.reclaims) (by simp [htrail.handles])
    · obtain ⟨pointer, hfetch, hcustody⟩ := (started_ne_zero hne).1 hstarted
      exact hcustody.callsBackOnce hfetch htrail (by simp) hne
  | failed =>
    obtain ⟨other, htrail, hun, -⟩ := h
    obtain rfl := hown htrail
    exact hun.callsBackOnce (fun _ => .inr ⟨rfl, htrail.reclaims⟩)
      (by simp [htrail.handles]) (by simp [htrail.handles])
  | dropped =>
    obtain ⟨other, handle, pointer, hne, htrail, hfetch, hcustody⟩ := h
    obtain rfl := hown htrail
    exact hcustody.callsBackOnce hfetch htrail (by simp) hne

section
variable {ι : Type} [DecidableEq ι] {w : Nat} {es : List (ι × FetchAction)}
  {s : State ι FetchRequest FetchTable}

/-- The ids of one request are among those of the run. -/
theorem mem_fetchIds {i : ι} {userdata : Pointer} {id : Nat}
    (h : .start userdata id ∈ own i es) : id ∈ fetchIds es := by
  obtain ⟨⟨j, action⟩, hmem, haction⟩ := List.mem_filterMap.1 h
  by_cases hj : j = i
  · rw [if_pos hj, Option.some.injEq] at haction
    dsimp only at haction
    subst haction
    exact List.mem_filterMap.2 ⟨_, hmem, rfl⟩
  · rw [if_neg hj] at haction
    cases haction

theorem FetchRequest.wellFormed_idle : FetchRequest.idle.WellFormed :=
  ⟨fun _ h => (by cases h), fun _ _ h => (by cases h), fun _ h => (by cases h)⟩

/-- Where a request stands if its start did not get the id 0. -/
def FetchRequest.StandsByIds (request : FetchRequest) (cell : Option FetchContext)
    (acts : List FetchAction) : Prop :=
  (∀ userdata id, .start userdata id ∈ acts → id ≠ 0) → request.Stands cell acts

/-- **Every fetch calls back once**, however many there are and however their starts, events and
cancels interleave, as long as the ids last. -/
theorem fetch_calls_back_once (hrun : FetchRun w es s) (hstarts : (fetchIds es).length < 2 ^ w) :
    (∀ i userdata, userdata ∈ begun (own i es) →
      CallsBackOnce userdata (s.procs i) (own i es) ∧
        ∀ handle ∈ handles (own i es), handle ≠ 0 → (s.procs i).id = some handle) ∧
    ∀ i id, (s.procs i).id = some id → id ≠ 0 ∧ ∀ j, (s.procs j).id = some id → j = i := by
  have hzero := fetchIds_ne_zero hrun hstarts
  obtain ⟨cells, hprivate, hwf, hagrees⟩ := fetch_discipline.refines FetchTable.fetches hrun
    (fun _ _ _ _ haccess => by cases haccess <;> assumption) (fetchIds_nodup hrun hstarts)
    (fun _ => FetchRequest.wellFormed_idle) (fun _ => rfl) (fun _ => rfl)
  have hstands (i : ι) : (s.procs i).Stands (cells i) (own i es) := by
    have hinv : (s.procs i).StandsByIds (cells i) (own i es) := by
      apply hprivate.privately_invariant (i := i)
      · exact fun _ => ⟨rfl, rfl, rfl, rfl⟩
      · intro request cell acts action next cell' ih hstep hcell hids
        apply (ih fun userdata id hmem => hids userdata id (by simp [hmem])).step hstep hcell
        rintro userdata id rfl
        exact hids userdata id (by simp)
    apply hinv
    rintro userdata id hmem rfl
    exact hzero (mem_fetchIds hmem)
  constructor
  · intro i userdata hbegun
    have honce := (hstands i).callsBackOnce hbegun
    refine ⟨honce, fun handle hhandle hne => ?_⟩
    obtain ⟨pointer, hfetch⟩ := honce.handle handle hhandle hne
    exact (hwf i).fetch handle pointer hfetch
  · intro i id hid
    refine ⟨?_, fun j hj => hagrees.distinct j i id hj hid⟩
    rintro rfl
    exact hzero (hagrees.given i 0 hid)

end

/-! ## A fetch that reports before the start returns -/

theorem FetchTable.step_skip {w : Nat} {table : FetchTable} {action : FetchAction}
    (hgives : fetchCells.gives action = none) (huses : fetchCells.uses action = none) :
    FetchTable.Step w table action table :=
  .other hgives (by simp [Keyed.shared, huses]) rfl

theorem FetchTable.step_use {w : Nat} {table : FetchTable} {action : FetchAction} {id : Nat}
    {cell : Option FetchContext} (hgives : fetchCells.gives action = none)
    (huses : fetchCells.uses action = some id)
    (huse : fetchCells.use (table.fetches id) action cell) :
    FetchTable.Step w table action ⟨Function.update table.fetches id cell, table.nextFetchId⟩ :=
  .other hgives (Keyed.shared_some huses huse) rfl

/-- The only call that is running goes on. -/
theorem FetchRequest.step_only {caller : FetchCaller} {given : Option Nat}
    {fetch : Option (Nat × Pointer)} {activity : FetchActivity} {action : FetchAction}
    {next : Option FetchActivity} (h : activity.Step action next) :
    Step ⟨caller, given, fetch, [activity]⟩ action ⟨caller, given, fetch, next.toList ++ []⟩ :=
  @Step.activity _ _ _ [] _ _ _ _ h

/-- A step of the only request. -/
theorem FetchRun.only {es : List (Unit × FetchAction)} {request next : FetchRequest}
    {table table' : FetchTable} (h : FetchRun 64 es ⟨fun _ => request, table⟩)
    (action : FetchAction) (hstep : request.Step action next)
    (haccess : FetchTable.Step 64 table action table') :
    FetchRun 64 (es ++ [((), action)]) ⟨fun _ => next, table'⟩ := by
  have hnext := Run.snoc (i := ()) h hstep haccess
  have hprocs : Function.update (fun _ : Unit => request) () next = fun _ => next := by
    funext i
    simp
  rwa [hprocs] at hnext

/-- The browser reports before `emscripten_fetch` has returned, the future is dropped all the
same, and the fetch reports again. -/
def earlyRun : List (Unit × FetchAction) :=
  let event : FetchEvent := { status := 200, data := ByteArray.empty, statusText := "OK" }
  [.start 7 1, .fetch 9, .report event, .take 1 (some { userdata := 7, fetch := none }),
    .call 7 (finishReport event), .attach 1 9, .returns 1, .close 9, .drop false, .take 1 none,
    .report event, .take 1 none].map fun action => ((), action)

theorem earlyRun_runs : ∃ s, FetchRun 64 earlyRun s := by
  have hidle : FetchRun 64 ([] : List (Unit × FetchAction))
    ⟨fun _ => .idle, ⟨fun _ => none, 1⟩⟩ := .nil
  have hstart : FetchRun 64 _ ⟨fun _ => _, ⟨_, 2⟩⟩ := hidle.only (.start 7 1) .start
    (.start (Keyed.shared_some rfl rfl) (by decide))
  have hreport := (hstart.only (.fetch 9) .fetch (FetchTable.step_skip rfl rfl)).only
    (.report ⟨200, ByteArray.empty, "OK"⟩) .report (FetchTable.step_skip rfl rfl)
  have hcalled := (hreport.only (.take 1 (some ⟨7, none⟩)) (FetchRequest.step_only .finish)
    (FetchTable.step_use rfl rfl ⟨rfl, rfl⟩)).only (.call 7 _)
    (FetchRequest.step_only .finishing) (FetchTable.step_skip rfl rfl)
  -- the start goes on, and the handle it returns is of no use
  have hreturned := (hcalled.only (.attach 1 9) .attach (FetchTable.step_use rfl rfl rfl)).only
    (.returns 1) .returns (FetchTable.step_skip rfl rfl)
  have hdropped := (hreturned.only (.close 9) (FetchRequest.step_only .closing)
    (FetchTable.step_skip rfl rfl)).only (.drop false) (.drop (by decide))
    (FetchTable.step_skip rfl rfl)
  have hcancelled := hdropped.only (.take 1 none) (FetchRequest.step_only .cancel)
    (FetchTable.step_use rfl rfl ⟨rfl, rfl⟩)
  exact ⟨_, (hcancelled.only (.report ⟨200, ByteArray.empty, "OK"⟩) .report
    (FetchTable.step_skip rfl rfl)).only (.take 1 none) (FetchRequest.step_only .finish)
    (FetchTable.step_use rfl rfl ⟨rfl, rfl⟩)⟩

theorem earlyRun_calls_back_once :
    ∃ s, FetchRun 64 earlyRun s ∧ CallsBackOnce 7 (s.procs ()) (own () earlyRun) := by
  obtain ⟨s, hrun⟩ := earlyRun_runs
  have hone : (fetchIds earlyRun).length < 2 ^ 64 := by
    show 1 < 2 ^ 64
    decide
  exact ⟨s, hrun, ((fetch_calls_back_once hrun hone).1 () 7 (List.mem_singleton.2 rfl)).1⟩

end SuperhumanDocs
