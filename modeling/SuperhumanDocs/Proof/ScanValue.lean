import SuperhumanDocs.Bridge.Reference
import SuperhumanDocs.ScanValue

/-!
# Which cell a column reads

* `scanCells_eq_find?`: the loop reads the first cell whose column id matches.
* `scanValue_first_cell`: so only that cell matters, and it is the column's own when no other
  column id matches up to ASCII case.
-/

set_option autoImplicit false

namespace SuperhumanDocs

open Binary (F64 Binary64)

/-- The first cell whose column id is the column's, up to ASCII case. -/
def firstCell (column : Column) (row : Row) : Option Cell :=
  row.cells.find? fun cell => eqIgnoreAsciiCase cell.columnId column.id

/-- The first cell whose column id is exactly the column's. -/
def ownCell (column : Column) (row : Row) : Option Cell :=
  row.cells.find? fun cell => cell.columnId == column.id

section
variable (F : Type) [F64 F]

theorem scanCells_eq_find? (column : Column) (cells : List Cell) :
    scanCells F column cells =
      match cells.find? fun cell => eqIgnoreAsciiCase cell.columnId column.id with
      | none => .default
      | some cell => scanCell F column cell.value := by
  induction cells with
  | nil => rfl
  | cons cell cells ih =>
    rw [scanCells, List.find?_cons]
    cases eqIgnoreAsciiCase cell.columnId column.id with
    | true => rfl
    | false => exact ih

/-- What a column of the table reads in a row. -/
theorem scanValue_eq_firstCell {column : Column}
    (h : supports column.capabilities rustExtColumnSystem = false) (row : Row) :
    scanValue F column row =
      ((firstCell column row).map fun cell => scanCell F column cell.value).getD .default := by
  rw [scanValue, h, if_neg Bool.false_ne_true, scanCells_eq_find?, firstCell]
  cases row.cells.find? fun cell => eqIgnoreAsciiCase cell.columnId column.id <;> rfl

theorem scanValue_of_firstCell {column : Column}
    (h : supports column.capabilities rustExtColumnSystem = false) {row : Row} {cell : Cell}
    (hcell : firstCell column row = some cell) :
    scanValue F column row = scanCell F column cell.value := by
  rw [scanValue_eq_firstCell F h, hcell]
  rfl

/-- When only the exact id matches, the first match is the column's own cell. -/
theorem firstCell_eq_ownCell {column : Column} {row : Row}
    (h : ∀ cell ∈ row.cells, eqIgnoreAsciiCase cell.columnId column.id = true →
      cell.columnId = column.id) : firstCell column row = ownCell column row := by
  unfold firstCell ownCell
  generalize row.cells = cells at h
  induction cells with
  | nil => rfl
  | cons cell cells ih =>
    rw [List.find?_cons, List.find?_cons, ih fun c hc => h c (.tail _ hc)]
    by_cases he : cell.columnId = column.id
    · simp [he, eqIgnoreAsciiCase]
    · have hm : eqIgnoreAsciiCase cell.columnId column.id = false := by
        rw [← Bool.not_eq_true]
        exact fun hm => he (h cell (.head _) hm)
      rw [hm, beq_false_of_ne he]

/-- **A column reads the first cell whose column id matches up to ASCII case**, and nothing else
of the cells; when no other id matches so, that is its own cell. -/
theorem scanValue_first_cell {column : Column}
    (h : supports column.capabilities rustExtColumnSystem = false) :
    (∀ row₁ row₂ : Row, (firstCell column row₁).map (·.value) =
        (firstCell column row₂).map (·.value) →
      scanValue F column row₁ = scanValue F column row₂) ∧
    (∀ (row : Row) (cell : Cell), firstCell column row = some cell →
      scanValue F column row = scanCell F column cell.value) ∧
    (∀ (row : Row) (cell : Cell), ownCell column row = some cell →
      (∀ c ∈ row.cells, eqIgnoreAsciiCase c.columnId column.id = true →
        c.columnId = column.id) →
      scanValue F column row = scanCell F column cell.value) := by
  refine ⟨fun row₁ row₂ hcells => ?_, fun row cell => scanValue_of_firstCell F h, ?_⟩
  · rw [scanValue_eq_firstCell F h, scanValue_eq_firstCell F h]
    have hread (row : Row) : (firstCell column row).map (fun cell => scanCell F column cell.value) =
        ((firstCell column row).map (·.value)).map (scanCell F column) := by
      rw [Option.map_map]
      rfl
    rw [hread, hread, hcells]
  · intro row cell hcell hids
    exact scanValue_of_firstCell F h (by rw [firstCell_eq_ownCell hids, hcell])

end

/-! ## Column ids that differ in case -/

open Reference

/-- A row of text cells, in a listing. -/
def textItem (cells : List (String × String)) : Json.Value :=
  .object [("id", .string "r1"),
    ("values", .object (cells.map fun (columnId, text) => (columnId, .string text)))]

def textRow (cells : List (String × String)) : Row where
  id := "r1"
  createdAt := ""
  updatedAt := ""
  deleted := false
  cells := cells.map fun (columnId, text) => { columnId, value := .string text }

theorem scanValue_first_cell_own :
    scanValue Binary64 (textColumn "c1") (textRow [("c0", "a"), ("c1", "b")]) =
      scanCell Binary64 (textColumn "c1") (.string "b") :=
  (scanValue_first_cell Binary64
    (show supports (textColumn "c1").capabilities rustExtColumnSystem = false by decide)).2.2 _
    ⟨"c1", .string "b"⟩ (by decide +kernel) (by decide +kernel)

/-- **A column can read another column's cell**: `C1` comes before `c1` in the map and matches it
up to case. -/
theorem scanValue_other_cell :
    rowFromJson (textItem [("C1", "other"), ("c1", "own")]) =
      .ok (textRow [("C1", "other"), ("c1", "own")]) ∧
    rowFromJson (textItem [("c1", "own")]) = .ok (textRow [("c1", "own")]) ∧
    ownCell (textColumn "c1") (textRow [("C1", "other"), ("c1", "own")]) =
      ownCell (textColumn "c1") (textRow [("c1", "own")]) ∧
    (scanValue Binary64 (textColumn "c1") (textRow [("C1", "other"), ("c1", "own")])).value =
      "other" ∧
    (scanValue Binary64 (textColumn "c1") (textRow [("c1", "own")])).value = "own" := by
  decide +kernel

end SuperhumanDocs
