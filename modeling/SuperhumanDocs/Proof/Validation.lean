import SuperhumanDocs.Mutation.Reference
import SuperhumanDocs.Proof.Waiting

/-!
# Local validation before sending

An insert builds the payloads of all rows before it sends anything. An update builds the payload
of a row only when the rows before it have been sent, so a bad row leaves the document untouched
only when it is the first.

* `insertRows_untouched`: an insert that cannot be built sends nothing.
* `updateRows_untouched_iff`: when an update that cannot be built sends nothing.
-/

set_option autoImplicit false

namespace SuperhumanDocs

open Binary (Binary64 F64)
open Effect (Blocks Succeeds not_succeeds_error runFrom)
open Json (SerdeJson)

section
variable {F σ : Type} [F64 F] [SerdeJson] (w : World F σ) (config : ClientConfig) (table : Table)
  (columns : List RustExtWriteColumn) (values : List (RustExtInputValue F))

/-- Without the capability no row has a payload. -/
theorem rowPayload_unsupported (h : supports table.capabilities rustExtTableUpdate = false)
    (rowIndex : Nat) : ¬ Succeeds (rowPayload table columns values rowIndex) := by
  intro ⟨payload, hpayload⟩
  rw [rowPayload, updatePayload, h] at hpayload
  cases hpayload

theorem insertRows_untouched (rowCount valueColumnCount : Nat) (s : σ)
    (h : ¬ Succeeds (insertPayload columns values rowCount valueColumnCount table.capabilities)) :
    ¬ Succeeds (runFrom
        (insertRows w config table columns values rowCount valueColumnCount) s).result ∧
      mutations (runFrom
        (insertRows w config table columns values rowCount valueColumnCount) s).events = [] := by
  obtain ⟨n, -, payload, hpayload, -⟩ | ⟨e, he, hevents⟩ := (insertRows_emits w config table
    columns values rowCount valueColumnCount).outcome s
  · exact absurd ⟨payload, hpayload⟩ h
  · refine ⟨fun hok => not_succeeds_error (he ▸ hok), ?_⟩
    obtain hevents | ⟨payload, hpayload, -⟩ := hevents
    · rw [hevents]; rfl
    · exact absurd ⟨payload, hpayload⟩ h

/-- The call cannot be built as a whole: the numbers do not fit, or some row has no payload. -/
def Invalid (rowIds : List String) : Prop :=
  ShapeMismatch columns values rowIds ∨
    ∃ rowIndex < rowIds.length, ¬ Succeeds (rowPayload table columns values rowIndex)

/-- The first row can be reached and built. -/
def FirstRowSent (rowIds : List String) : Prop :=
  ¬ ShapeMismatch columns values rowIds ∧ Succeeds (w.newClient config) ∧
    Succeeds (rowPayload table columns values 0)

theorem updateRows_valid (rowIds : List String) (s : σ)
    (h : Succeeds (runFrom (updateRows w config table rowIds columns values) s).result) :
    ¬ Invalid table columns values rowIds := by
  obtain ⟨n, -, ⟨hshape, -⟩, blocks, hblocks, -⟩ | ⟨e, he, -⟩ :=
    (updateRows_emits w config table columns values rowIds).outcome s
  · rintro (hshape' | ⟨rowIndex, hlt, hbad⟩)
    · exact hshape hshape'
    · have hlen : rowIndex < rowIds.zipIdx.length := by rwa [List.length_zipIdx]
      obtain ⟨payload, hpayload, -⟩ := hblocks.get hlen (hblocks.length_eq ▸ hlen)
      simp only [List.get_eq_getElem, List.getElem_zipIdx, Nat.zero_add] at hpayload
      exact hbad ⟨payload, hpayload⟩
  · exact absurd (he ▸ h) not_succeeds_error

/-- **The first row decides whether an update sends anything.** -/
theorem updateRows_sends_iff (rowId : String) (rowIds : List String) (s : σ) :
    mutations (runFrom (updateRows w config table (rowId :: rowIds) columns values) s).events ≠ [] ↔
      FirstRowSent w config table columns values (rowId :: rowIds) := by
  have hsent : ∀ {t}, (∃ t₁ t₂, t = t₁ ++ t₂ ∧
      RowUpdated config table columns values (rowId, 0) t₁) →
      mutations t ≠ [] ∧ Succeeds (rowPayload table columns values 0) := by
    rintro t ⟨t₁, t₂, rfl, payload, hpayload, reply, rest, rfl, hwaits, -⟩
    rw [mutations_append, mutations_cons reply rfl hwaits]
    exact ⟨by simp, payload, hpayload⟩
  obtain ⟨n, -, ⟨hshape, hclient⟩, hblocks⟩ | ⟨e, -, ⟨hnot, hevents⟩ | ⟨⟨hshape, hclient⟩, h⟩⟩ :=
    (updateRows_emits w config table columns values (rowId :: rowIds)).outcome s
  · obtain ⟨hne, hrow⟩ := hsent hblocks.head
    exact iff_of_true hne ⟨hshape, hclient, hrow⟩
  · rw [hevents]
    exact iff_of_false (fun h => h rfl) fun h => hnot ⟨h.1, h.2.1⟩
  · obtain h | ⟨⟨e', hbad⟩, hevents⟩ | ⟨payload, hpayload, reply, rest, hevents, hwaits, -⟩ := h.head
    · obtain ⟨hne, hrow⟩ := hsent h
      exact iff_of_true hne ⟨hshape, hclient, hrow⟩
    · rw [hevents]
      exact iff_of_false (fun h => h rfl) fun h => not_succeeds_error (hbad ▸ h.2.2)
    · rw [hevents, mutations_cons reply rfl hwaits]
      exact iff_of_true (by simp) ⟨hshape, hclient, payload, hpayload⟩

/-- **When an update that cannot be built sends nothing**: some other check fails first, or the
first row is bad. -/
theorem updateRows_untouched_iff (rowIds : List String) (s : σ) :
    (Invalid table columns values rowIds →
      ¬ Succeeds (runFrom (updateRows w config table rowIds columns values) s).result ∧
      mutations (runFrom (updateRows w config table rowIds columns values) s).events = []) ↔
    ¬ Invalid table columns values rowIds ∨ ShapeMismatch columns values rowIds ∨
      ¬ Succeeds (w.newClient config) ∨ ¬ Succeeds (rowPayload table columns values 0) := by
  have hcond : ¬ FirstRowSent w config table columns values rowIds ↔
      ShapeMismatch columns values rowIds ∨ ¬ Succeeds (w.newClient config) ∨
        ¬ Succeeds (rowPayload table columns values 0) := by
    rw [FirstRowSent, not_and_or, not_and_or, not_not]
  rw [← hcond, ← imp_iff_not_or]
  have hfails : Invalid table columns values rowIds → ¬ Succeeds
      (runFrom (updateRows w config table rowIds columns values) s).result :=
    fun hinvalid h => updateRows_valid w config table columns values rowIds s h hinvalid
  apply forall_congr'
  intro hinvalid
  rw [and_iff_right (hfails hinvalid)]
  cases rowIds with
  | nil =>
    have hshape : ShapeMismatch columns values [] :=
      hinvalid.resolve_right fun ⟨_, h, _⟩ => absurd h (Nat.not_lt_zero _)
    refine iff_of_true ?_ fun h => h.1 hshape
    obtain ⟨n, -, ⟨h, -⟩, -⟩ | ⟨e, -, ⟨-, hevents⟩ | ⟨⟨h, -⟩, -⟩⟩ :=
      (updateRows_emits w config table columns values []).outcome s
    · exact absurd hshape h
    · rw [hevents]; rfl
    · exact absurd hshape h
  | cons rowId rowIds =>
    rw [← updateRows_sends_iff w config table columns values rowId rowIds s, not_not]

end

/-! ## A row sent before a bad one -/

open Json.Reference Reference

def writeTextColumn (id : String) : RustExtWriteColumn where
  handle := some (textColumn id)
  capabilities := (textColumn id).capabilities

def textInput (text : String) : RustExtInputValue Binary64 :=
  { RustExtInputValue.zero with valueType := rustExtInputString, stringValue := text }

theorem rowPayload_text : rowPayload table [writeTextColumn "c1"] [textInput "a", .zero] 0 =
    .ok { row := { cells := [{ column := "c1", value := .scalar (.text "a") }] } } := by
  decide +kernel

theorem rowPayload_null : rowPayload table [writeTextColumn "c1"] [textInput "a", .zero] 1 =
    .error "Superhuman Docs does not support updating a cell to NULL" := by
  decide +kernel

/-- **A valid row is sent although the next one is bad.** -/
theorem updateRows_partial :
    Invalid table [writeTextColumn "c1"] [textInput "a", .zero] ["r1", "r2"] ∧
    mutations (runFrom (updateRows scripted config table ["r1", "r2"] [writeTextColumn "c1"]
      [textInput "a", .zero]) ([mutationReply "m1", statusReply true], 0)).events ≠ [] := by
  refine ⟨.inr ⟨1, by decide, ?_⟩, ?_⟩
  · rw [rowPayload_null]
    exact not_succeeds_error
  · refine (updateRows_sends_iff scripted config table _ _ _ _ _).2 ⟨?_, ⟨(), rfl⟩, ?_⟩
    · simp [ShapeMismatch]
    · exact ⟨_, rowPayload_text⟩

end SuperhumanDocs
