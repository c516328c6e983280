import SuperhumanDocs.Client.Scan

/-!
# Runs of the scan handle

`Consumes handle replies responses`: the handle reads the responses from the replies, one request
each, and is then finished.

* `nextBatch_consumes`: the next batch is the visible rows of the first response that has some,
  or the empty last batch.
-/

set_option autoImplicit false

namespace SuperhumanDocs

open Json (SerdeJson)

section
variable [SerdeJson]

/-- The handle reads these responses until it is finished. -/
inductive Consumes : ScanHandle → List Reply → List RowsResponse → Prop
  | done {handle : ScanHandle} : handle.finished = true → Consumes handle [] []
  | next {handle : ScanHandle} {reply : Reply} {replies : List Reply} {response : RowsResponse}
      {responses : List RowsResponse} : handle.finished = false →
      (handle.list (reply :: replies)).result = .ok response →
      Consumes (handle.request.2.receive response) replies responses →
      Consumes handle (reply :: replies) (response :: responses)

/-- The visible rows of each response, as rows of a batch. -/
def visiblePages (responses : List RowsResponse) : List (List RustExtScanRow) :=
  responses.map fun response => response.visibleRows.map ffiScanRow

variable {handle : ScanHandle} {replies : List Reply} {responses : List RowsResponse}

/-- A listing that succeeded has read the first reply. -/
theorem list_replies {reply : Reply} {response : RowsResponse}
    (h : (handle.list (reply :: replies)).result = .ok response) :
    (handle.list (reply :: replies)).replies = replies := by
  unfold ScanHandle.list listRows at h ⊢
  cases hs : rowsSortBy handle.request.1.sortBy with
  | error e => rw [hs] at h; cases h
  | ok sortBy => rfl

/-- A response with visible rows, or the last one, is returned. -/
theorem nextBatch_shows {reply : Reply} {response : RowsResponse}
    (hfinished : handle.finished = false)
    (hlist : (handle.list (reply :: replies)).result = .ok response)
    (hshows : response.visibleRows ≠ [] ∨ (handle.request.2.receive response).finished = true) :
    handle.nextBatch (reply :: replies) = (handle.request.2.receive response,
      { result := .ok (ffiScanBatch response.visibleRows
          (handle.request.2.receive response).finished)
        sent := (handle.list (reply :: replies)).sent
        replies }) := by
  rw [nextBatch_ok hfinished hlist, list_replies hlist, if_pos (by simpa using hshows)]

/-- After any other response the handle goes on. -/
theorem nextBatch_passes {reply : Reply} {response : RowsResponse}
    (hfinished : handle.finished = false)
    (hlist : (handle.list (reply :: replies)).result = .ok response)
    (hshows : ¬ (response.visibleRows ≠ [] ∨ (handle.request.2.receive response).finished = true)) :
    handle.nextBatch (reply :: replies) =
      (((handle.request.2.receive response).nextBatch replies).1,
        { ((handle.request.2.receive response).nextBatch replies).2 with
          sent := (handle.list (reply :: replies)).sent ++
            ((handle.request.2.receive response).nextBatch replies).2.sent }) := by
  rw [nextBatch_ok hfinished hlist, list_replies hlist, if_neg (by simpa using hshows)]

theorem Consumes.finished_iff (h : Consumes handle replies responses) :
    handle.finished = true ↔ responses = [] := by
  cases h with
  | done hf => simp [hf]
  | next hf _ _ => simp [hf]

theorem Consumes.replies_nil (h : Consumes handle replies []) : replies = [] := by
  cases h; rfl

/-- A batch of a handle that reads `responses`: what the call returns and what is left. -/
structure BatchOf (handle : ScanHandle) (replies : List Reply) (responses : List RowsResponse)
    (rows : List Row) (rest : List RowsResponse) : Prop where
  result : (handle.nextBatch replies).2.result =
    .ok (ffiScanBatch rows (handle.nextBatch replies).1.finished)
  consumes : Consumes (handle.nextBatch replies).1 (handle.nextBatch replies).2.replies rest
  nonempty : rows ≠ [] ∨ rest = []
  /-- The responses before the batch have no visible row. -/
  skips : ∃ skipped, visiblePages responses =
    skipped ++ (if rows = [] then [] else [rows.map ffiScanRow]) ++ visiblePages rest ∧
      ∀ page ∈ skipped, page = []

theorem nextBatch_consumes (h : Consumes handle replies responses) :
    ∃ rows rest, BatchOf handle replies responses rows rest := by
  induction h with
  | @done handle hf =>
    have he : handle.nextBatch [] = _ := nextBatch_finished hf
    refine ⟨[], [], ?_, ?_, .inr rfl, [], rfl, by simp⟩
    · rw [he, hf]
    · rw [he]; exact .done hf
  | @next handle reply replies response responses hf hl hrest ih =>
    by_cases hb : response.visibleRows ≠ [] ∨ (handle.request.2.receive response).finished = true
    · have he := nextBatch_shows hf hl hb
      refine ⟨response.visibleRows, responses, ?_, ?_, ?_, ?_⟩
      · rw [he]
      · rw [he]; exact hrest
      · exact hb.imp id hrest.finished_iff.1
      · by_cases hv : response.visibleRows = []
        · exact ⟨[[]], by simp [visiblePages, hv], by simp⟩
        · exact ⟨[], by simp [visiblePages, hv], by simp⟩
    · have he := nextBatch_passes hf hl hb
      obtain ⟨rows, rest, hbatch⟩ := ih
      simp only [not_or, not_not] at hb
      obtain ⟨skipped, hs, hempty⟩ := hbatch.skips
      refine ⟨rows, rest, ?_, ?_, hbatch.nonempty, [] :: skipped, ?_, ?_⟩
      · rw [he]; exact hbatch.result
      · rw [he]; exact hbatch.consumes
      · rw [visiblePages, List.map_cons, hb.1, ← visiblePages, hs]; rfl
      · intro page hp
        rcases List.mem_cons.1 hp with rfl | hp
        · rfl
        · exact hempty page hp

end

end SuperhumanDocs
