import SuperhumanDocs.Sdk.FetchFuture
import Mathlib.Data.List.Induction

/-!
# The future loses no result and no wakeup

* `FutureInv`: the result is with `complete`, in its cell, or returned, and a waker left by the
  last poll that returned pending is on its way to being woken.
* `nextPoll_ready`: a stored result is what the next poll returns.
* `fetchFuture_loses_nothing`: what holds once `complete` has finished.
-/

set_option autoImplicit false

namespace SuperhumanDocs

variable {ω : Type}

/-! ## The steps in a run -/

/-- The result a poll returned. -/
def FutureAction.ready (action : FutureAction ω) : Option (Except String Response) :=
  match action with
  | take _ found => found
  | retake _ found => found
  | _ => none

/-- The results the polls returned. -/
def readies (es : List (FutureAction ω)) : List (Except String Response) :=
  es.filterMap FutureAction.ready

theorem readies_snoc (es : List (FutureAction ω)) (action : FutureAction ω) :
    readies (es ++ [action]) = readies es ++ action.ready.toList := by
  cases h : action.ready <;> simp [readies, h]

theorem pollOutcomes_snoc (es : List (FutureAction ω)) (action : FutureAction ω) :
    pollOutcomes (es ++ [action]) = pollOutcomes es ++ action.outcome.toList := by
  cases h : action.outcome <;> simp [pollOutcomes, h]

theorem FutureAction.ready_eq_some {action : FutureAction ω} {result : Except String Response} :
    action.ready = some result ↔ action.outcome = some (.ready result) := by
  cases action with
  | take waker found => cases found <;> simp [ready, outcome]
  | retake waker found => cases found <;> simp [ready, outcome]
  | _ => simp [ready, outcome]

theorem mem_readies {es : List (FutureAction ω)} {result : Except String Response} :
    result ∈ readies es ↔ .ready result ∈ pollOutcomes es := by
  simp only [readies, pollOutcomes, List.mem_filterMap, FutureAction.ready_eq_some]

/-- After the last poll, which returned pending, the waker was woken. -/
def WokenSincePending (waker : ω) (es : List (FutureAction ω)) : Prop :=
  ∃ before after, es = before ++ .retake waker none :: after ∧ pollOutcomes after = [] ∧
    .wake waker ∈ after

/-- The last poll, if it returned pending. -/
theorem exists_lastPending {waker : ω} {es : List (FutureAction ω)}
    (h : (pollOutcomes es).getLast? = some (.pending waker)) :
    ∃ before after, es = before ++ .retake waker none :: after ∧ pollOutcomes after = [] := by
  induction es using List.reverseRecOn with
  | nil => cases h
  | append_singleton es action ih =>
    rw [pollOutcomes_snoc] at h
    cases houtcome : action.outcome with
    | none =>
      rw [houtcome, Option.toList_none, List.append_nil] at h
      obtain ⟨before, after, rfl, hafter⟩ := ih h
      refine ⟨before, after ++ [action], by simp, ?_⟩
      rw [pollOutcomes_snoc, hafter, houtcome]
      rfl
    | some outcome =>
      rw [houtcome, Option.toList_some, List.getLast?_concat, Option.some.injEq] at h
      subst h
      refine ⟨es, [], ?_, rfl⟩
      cases action with
      | take _ found => cases found <;> simp [FutureAction.outcome] at houtcome
      | retake waker' found =>
        cases found with
        | none =>
          simp only [FutureAction.outcome, Option.elim_none, Option.some.injEq,
            PollOutcome.pending.injEq] at houtcome
          rw [houtcome]
        | some result => simp [FutureAction.outcome] at houtcome
      | _ => cases houtcome

/-! ## The invariant -/

/-- The waker is where `complete` is going to find it, in its hands, or woken. -/
def Awaits (waker : ω) (s : FutureState ω) (es : List (FutureAction ω)) : Prop :=
  match s.complete with
  | .storing _ | .stored => s.waker = some waker
  | .waking other => other = waker
  | .finished => WokenSincePending waker es

structure FutureInv (result : Except String Response) (es : List (FutureAction ω))
    (s : FutureState ω) : Prop where
  /-- The result is with `complete`. -/
  storing : ∀ other, s.complete = .storing other →
    other = result ∧ s.result = none ∧ readies es = []
  /-- The result is in its cell, or a poll returned it. -/
  stored : (∀ other, s.complete ≠ .storing other) →
    s.result = some result ∧ readies es = [] ∨ s.result = none ∧ readies es = [result]
  completed : s.completed = true ↔ readies es ≠ []
  rechecking : ∀ waker other, s.future = .rechecking waker → s.complete = .storing other →
    s.waker = some waker
  pending : ∀ waker, readies es = [] → s.future = .idle →
    (pollOutcomes es).getLast? = some (.pending waker) → Awaits waker s es
  dropped : .drop true ∈ es → s.future = .dropped ∧ readies es = []

namespace FutureInv

variable {result : Except String Response} {es : List (FutureAction ω)} {s s' : FutureState ω}

/-- A result in its cell is that of `complete`, and was not returned. -/
theorem of_result (h : FutureInv result es s) {other : Except String Response}
    (hresult : s.result = some other) :
    other = result ∧ readies es = [] ∧ ∀ r, s.complete ≠ .storing r := by
  have hcomplete : ∀ r, s.complete ≠ .storing r := fun r hr => by
    rw [(h.storing r hr).2.1] at hresult
    cases hresult
  rcases h.stored hcomplete with ⟨hcell, hnone⟩ | ⟨hcell, -⟩
  · rw [hcell, Option.some.injEq] at hresult
    exact ⟨hresult.symm, hnone, hcomplete⟩
  · rw [hcell] at hresult
    cases hresult

/-- A step of `complete` returns no poll. -/
theorem complete_step (h : FutureInv result es s) {action : FutureAction ω}
    (hready : action.ready = none) (houtcome : action.outcome = none)
    (hdrop : action ≠ .drop true) (hfuture : s'.future = s.future)
    (hcompleted : s'.completed = s.completed)
    (hstoring : ∀ other, s'.complete ≠ .storing other)
    (hcell : s'.result = some result ∧ readies es = [] ∨
      s'.result = none ∧ readies es = [result])
    (hawaits : ∀ waker, readies es = [] → (pollOutcomes es).getLast? = some (.pending waker) →
      Awaits waker s es → Awaits waker s' (es ++ [action])) :
    FutureInv result (es ++ [action]) s' := by
  have hreadies : readies (es ++ [action]) = readies es := by
    rw [readies_snoc, hready, Option.toList_none, List.append_nil]
  have houtcomes : pollOutcomes (es ++ [action]) = pollOutcomes es := by
    rw [pollOutcomes_snoc, houtcome, Option.toList_none, List.append_nil]
  constructor
  · exact fun other hother => absurd hother (hstoring other)
  · rw [hreadies]
    exact fun _ => hcell
  · rw [hreadies, hcompleted]
    exact h.completed
  · exact fun waker other _ hother => absurd hother (hstoring other)
  · rw [hreadies, houtcomes, hfuture]
    intro waker hnone hidle hlast
    exact hawaits waker hnone hlast (h.pending waker hnone hidle hlast)
  · rw [hreadies, hfuture, List.mem_append, List.mem_singleton]
    exact fun hmem => h.dropped (hmem.resolve_right fun heq => hdrop heq.symm)

/-- A poll takes the result from its cell. -/
theorem ready_step (h : FutureInv result es s) {action : FutureAction ω}
    {other : Except String Response} (hready : action.ready = some other)
    (hdropped : s.future ≠ .dropped) (hresult : s.result = some other)
    (hcomplete : s'.complete = s.complete) (hfuture : s'.future = .idle)
    (hcompleted : s'.completed = true) (hcell : s'.result = none) :
    FutureInv result (es ++ [action]) s' := by
  obtain ⟨rfl, hnone, hstoring⟩ := h.of_result hresult
  have hreadies : readies (es ++ [action]) = [other] := by
    rw [readies_snoc, hready, hnone]
    rfl
  constructor
  · exact fun r hr => absurd (hcomplete ▸ hr) (hstoring r)
  · exact fun _ => .inr ⟨hcell, hreadies⟩
  · simp [hcompleted, hreadies]
  · intro waker r hrechecking
    rw [hfuture] at hrechecking
    cases hrechecking
  · intro waker hempty
    rw [hreadies] at hempty
    cases hempty
  · intro hmem
    rcases List.mem_append.1 hmem with hmem | hmem
    · exact absurd (h.dropped hmem).1 hdropped
    · rw [List.mem_singleton] at hmem
      rw [← hmem] at hready
      cases hready

/-- A step of the future that returns no result. -/
theorem future_step (h : FutureInv result es s) {action : FutureAction ω}
    (hready : action.ready = none) (hcomplete : s'.complete = s.complete)
    (hcell : s'.result = s.result) (hcompleted : s'.completed = s.completed)
    (hrechecking : ∀ waker other, s'.future = .rechecking waker → s.complete = .storing other →
      s'.waker = some waker)
    (hpending : ∀ waker, readies es = [] → s'.future = .idle →
      (pollOutcomes (es ++ [action])).getLast? = some (.pending waker) →
      Awaits waker s' (es ++ [action]))
    (hdropped : .drop true ∈ es ∨ action = .drop true →
      s'.future = .dropped ∧ readies es = []) : FutureInv result (es ++ [action]) s' := by
  have hreadies : readies (es ++ [action]) = readies es := by
    rw [readies_snoc, hready, Option.toList_none, List.append_nil]
  constructor
  · rw [hcomplete, hcell, hreadies]
    exact h.storing
  · rw [hcomplete, hcell, hreadies]
    exact h.stored
  · rw [hcompleted, hreadies]
    exact h.completed
  · rw [hcomplete]
    exact hrechecking
  · rw [hreadies]
    exact hpending
  · rw [hreadies]
    intro hmem
    rw [List.mem_append, List.mem_singleton] at hmem
    exact hdropped (hmem.imp_right Eq.symm)

theorem step (h : FutureInv result es s) {action : FutureAction ω} (hstep : s.Step action s') :
    FutureInv result (es ++ [action]) s' := by
  cases hstep with
  | @store other hcomplete =>
    obtain ⟨rfl, hcell, hnone⟩ := h.storing other hcomplete
    refine h.complete_step rfl rfl (by simp) rfl rfl (by simp) (.inl ⟨rfl, hnone⟩) ?_
    intro waker _ _ hawaits
    simpa only [Awaits, hcomplete] using hawaits
  | takeWaker hcomplete =>
    have hstored := h.stored (by simp [hcomplete])
    refine h.complete_step rfl rfl (by simp) rfl rfl ?_ hstored ?_
    · intro other
      cases s.waker <;> simp
    · intro waker _ _ hawaits
      simp only [Awaits, hcomplete] at hawaits
      simp [Awaits, hawaits]
  | @wake other hcomplete =>
    have hstored := h.stored (by simp [hcomplete])
    refine h.complete_step rfl rfl (by simp) rfl rfl (by simp) hstored ?_
    intro waker _ hlast hawaits
    simp only [Awaits, hcomplete] at hawaits
    obtain ⟨before, after, rfl, hafter⟩ := exists_lastPending hlast
    -- the waker of the last poll is woken now
    refine ⟨before, after ++ [.wake other], by simp, ?_, by simp [hawaits]⟩
    rw [pollOutcomes_snoc, hafter]
    rfl
  | takeReady hidle hresult =>
    exact h.ready_step rfl (by simp [hidle]) hresult rfl hidle rfl rfl
  | retakeReady hrechecking hresult =>
    exact h.ready_step rfl (by simp [hrechecking]) hresult rfl rfl rfl rfl
  | takeNone hidle hresult =>
    refine h.future_step rfl rfl rfl rfl ?_ ?_ ?_
    · simp
    · simp
    · rintro (hmem | heq)
      · rw [(h.dropped hmem).1] at hidle
        cases hidle
      · cases heq
  | @register waker hregistering =>
    refine h.future_step rfl rfl rfl rfl ?_ ?_ ?_
    · intro waker' other hrechecking _
      cases hrechecking
      rfl
    · simp
    · rintro (hmem | heq)
      · rw [(h.dropped hmem).1] at hregistering
        cases hregistering
      · cases heq
  | @retakeNone waker hrechecking hresult =>
    refine h.future_step rfl rfl rfl rfl ?_ ?_ ?_
    · simp
    · intro waker' hnone _ hlast
      have heq : waker = waker' := by
        simpa [pollOutcomes_snoc, FutureAction.outcome] using hlast
      subst heq
      -- nothing is stored, so the waker is in its cell before `complete` looks for it
      cases hcomplete : s.complete with
      | storing other =>
        simpa only [Awaits, hcomplete] using h.rechecking waker other hrechecking hcomplete
      | _ =>
        rcases h.stored (by simp [hcomplete]) with ⟨hcell, -⟩ | ⟨-, hready⟩
        · rw [hresult] at hcell
          cases hcell
        · rw [hnone] at hready
          cases hready
    · rintro (hmem | heq)
      · rw [(h.dropped hmem).1] at hrechecking
        cases hrechecking
      · cases heq
  | drop hidle =>
    refine h.future_step rfl rfl rfl rfl ?_ ?_ ?_
    · simp
    · simp
    · intro hdrop
      refine ⟨rfl, ?_⟩
      rcases hdrop with hmem | heq
      · exact (h.dropped hmem).2
      · by_contra hready
        have hcompleted := h.completed.2 hready
        simp [FetchFuture.cancelsOnDrop, hcompleted] at heq

end FutureInv

theorem FutureState.Run.inv {report : FetchReport} {handle : Nat} {es : List (FutureAction ω)}
    {s : FutureState ω} (hrun : FutureState.Run (.initial report handle) es s) :
    FutureInv (completeResult report) es s := by
  induction hrun with
  | nil =>
    refine ⟨?_, ?_, by simp [FutureState.initial, readies], ?_, ?_, fun h => by cases h⟩
    · rintro other ⟨⟩
      exact ⟨rfl, rfl, rfl⟩
    · exact fun h => absurd rfl (h _)
    · rintro waker other ⟨⟩
    · rintro waker - - ⟨⟩
  | snoc _ hstep ih => exact ih.step hstep

/-! ## The next poll -/

/-- A stored result is what the next poll returns, whatever else happens. -/
theorem nextPoll_ready {result : Except String Response} {start s : FutureState ω}
    {es : List (FutureAction ω)} (hresult : start.result = some result)
    (hcomplete : ∀ other, start.complete ≠ .storing other) (hrun : start.Run es s) :
    pollOutcomes es = [] ∧ s.result = some result ∧ (∀ other, s.complete ≠ .storing other) ∨
      ∃ later, pollOutcomes es = .ready result :: later := by
  induction hrun with
  | nil => exact .inl ⟨rfl, hresult, hcomplete⟩
  | @snoc es s s' action _ hstep ih =>
    rw [pollOutcomes_snoc]
    rcases ih with ⟨hnone, hcell, hstoring⟩ | ⟨later, hlater⟩
    · rw [hnone, List.nil_append]
      cases hstep with
      | store hother => exact absurd hother (hstoring _)
      | takeWaker => exact .inl ⟨rfl, hcell, fun other => by cases s.waker <;> simp⟩
      | wake => exact .inl ⟨rfl, hcell, by simp⟩
      | takeReady _ hfound =>
        rw [hcell, Option.some.injEq] at hfound
        exact .inr ⟨[], by rw [hfound]; rfl⟩
      | takeNone _ hfound =>
        rw [hcell] at hfound
        cases hfound
      | register => exact .inl ⟨rfl, hcell, hstoring⟩
      | retakeReady _ hfound =>
        rw [hcell, Option.some.injEq] at hfound
        exact .inr ⟨[], by rw [hfound]; rfl⟩
      | retakeNone _ hfound =>
        rw [hcell] at hfound
        cases hfound
      | drop => exact .inl ⟨rfl, hcell, hstoring⟩
    · exact .inr ⟨later ++ action.outcome.toList, by rw [hlater]; rfl⟩

/-- **No result and no wakeup is lost.** -/
theorem fetchFuture_loses_nothing {report : FetchReport} {handle : Nat}
    {es : List (FutureAction ω)} {s : FutureState ω}
    (hrun : FutureState.Run (.initial report handle) es s) :
    (s.complete = .finished →
      .ready (completeResult report) ∈ pollOutcomes es ∨
      s.result = some (completeResult report) ∧
        (∀ later s', s.Run later s' → ∀ outcome, (pollOutcomes later).head? = some outcome →
          outcome = .ready (completeResult report)) ∧
        ∀ waker, s.future = .idle → (pollOutcomes es).getLast? = some (.pending waker) →
          WokenSincePending waker es) ∧
    (∀ result, .ready result ∈ pollOutcomes es → result = completeResult report) ∧
    (readies es).length ≤ 1 ∧
    ((∃ result, .ready result ∈ pollOutcomes es) → .drop true ∉ es) := by
  have hinv := hrun.inv
  have hplaced : readies es = [] ∨ readies es = [completeResult report] := by
    cases hcomplete : s.complete with
    | storing other => exact .inl (hinv.storing other hcomplete).2.2
    | _ => exact (hinv.stored (by simp [hcomplete])).imp And.right And.right
  refine ⟨fun hfinished => ?_, fun result hresult => ?_, ?_, ?_⟩
  · rcases hinv.stored (by simp [hfinished]) with ⟨hcell, hnone⟩ | ⟨-, hready⟩
    · refine .inr ⟨hcell, fun later s' hlater outcome houtcome => ?_, fun waker hidle hlast => ?_⟩
      · rcases nextPoll_ready hcell (by simp [hfinished]) hlater with ⟨hempty, -⟩ | ⟨rest, hrest⟩
        · rw [hempty] at houtcome
          cases houtcome
        · rw [hrest] at houtcome
          exact (Option.some.inj houtcome).symm
      · simpa only [Awaits, hfinished] using hinv.pending waker hnone hidle hlast
    · exact .inl (mem_readies.1 (by simp [hready]))
  · rw [← mem_readies] at hresult
    rcases hplaced with hnone | hready
    · rw [hnone] at hresult
      cases hresult
    · rw [hready, List.mem_singleton] at hresult
      exact hresult
  · rcases hplaced with hnone | hready
    · simp [hnone]
    · simp [hready]
  · rintro ⟨result, hresult⟩ hdrop
    rw [← mem_readies, (hinv.dropped hdrop).2] at hresult
    cases hresult

/-! ## A poll that is pending, and then woken -/

def wokenRun : List (FutureAction Nat) :=
  [.take 3 none, .register 3, .retake 3 none, .store (completeResult cancelReport),
    .takeWaker (some 3), .wake 3]

theorem wokenRun_runs : FutureState.Run (.initial cancelReport 1) wokenRun
    ⟨.finished, .idle, false, 1, some (completeResult cancelReport), none⟩ := by
  have hstart : FutureState.Run (.initial cancelReport 1) ([] : List (FutureAction Nat))
    (.initial cancelReport 1) := .nil
  have htake : FutureState.Run (.initial cancelReport 1) [.take 3 none] _ :=
    hstart.snoc (.takeNone rfl rfl)
  have hpending := (htake.snoc (.register rfl)).snoc (.retakeNone rfl rfl)
  exact ((hpending.snoc (.store rfl)).snoc (.takeWaker rfl)).snoc (.wake rfl)

theorem wokenRun_woken : WokenSincePending 3 wokenRun := by
  obtain ⟨hfinished, -⟩ := fetchFuture_loses_nothing wokenRun_runs
  rcases hfinished rfl with hready | ⟨-, -, hwoken⟩
  · simp [wokenRun, pollOutcomes, FutureAction.outcome] at hready
  · exact hwoken 3 rfl rfl

end SuperhumanDocs
