import SuperhumanDocs.Effect.Except
import SuperhumanDocs.Json.SerdeJson
import SuperhumanDocs.Model

/-!
# Row listings

`rowsFromJson` reads the body of a row listing, the cells of a row in the order of the JSON map.
-/

namespace SuperhumanDocs

open Json (Value SerdeJson)

/-- The value, or an error when there is none. -/
def okOr {α : Type} (a : Option α) (message : String) : Except String α :=
  match a with
  | some a => .ok a
  | none => .error message

/-- A text field, empty when missing. -/
def textField (item : Value) (key : String) : String := ((item.get key).bind Value.asStr).getD ""

/-- A flag, unset when missing. -/
def flagField (item : Value) (key : String) : Bool :=
  ((item.get key).bind Value.asBool).getD false

/-- The cells of a row. -/
def cellsFromJson (item : Value) : List Cell :=
  match (item.get "values").bind Value.asObject with
  | none => []
  | some values => values.map fun (columnId, value) => { columnId, value }

def rowFromJson (item : Value) : Except String Row := do
  return {
    id := ← okOr ((item.get "id").bind Value.asStr) "missing row id"
    createdAt := textField item "createdAt"
    updatedAt := textField item "updatedAt"
    deleted := flagField item "deleted" || flagField item "isDeleted"
    cells := cellsFromJson item }

def rowsFromJson [SerdeJson] (body : String) : Except String RowsResponse := do
  let root ← SerdeJson.fromStr body
  let items ← okOr ((root.get "items").bind Value.asArray) "missing items array"
  let rows ← items.mapM rowFromJson
  return {
    rows
    nextPageToken := textField root "nextPageToken"
    nextSyncToken := textField root "nextSyncToken" }

/-- The item is marked as deleted. -/
def MarkedDeleted (item : Value) : Prop :=
  item.get "deleted" = some (.bool true) ∨ item.get "isDeleted" = some (.bool true)

instance (item : Value) : Decidable (MarkedDeleted item) := inferInstanceAs (Decidable (_ ∨ _))

theorem flagField_iff {item : Value} {key : String} :
    flagField item key = true ↔ item.get key = some (.bool true) := by
  unfold flagField
  cases item.get key with
  | none => simp
  | some value => cases value <;> simp [Value.asBool]

/-- **When a row is deleted.** -/
theorem rowFromJson_deleted {item : Value} {row : Row} (h : rowFromJson item = .ok row) :
    row.deleted = true ↔ MarkedDeleted item := by
  obtain ⟨id, -, h⟩ := Effect.bind_eq_ok.1 h
  cases h
  simp [flagField_iff, MarkedDeleted]

/-- The rows of a listing are its items. -/
theorem rowsFromJson_eq_ok [SerdeJson] {body : String} {response : RowsResponse}
    (h : rowsFromJson body = .ok response) :
    ∃ root items, SerdeJson.fromStr body = .ok root ∧ root.get "items" = some (.array items) ∧
      List.Forall₂ (fun item row => rowFromJson item = .ok row) items response.rows := by
  obtain ⟨root, hroot, h⟩ := Effect.bind_eq_ok.1 h
  obtain ⟨items, hitems, h⟩ := Effect.bind_eq_ok.1 h
  obtain ⟨rows, hrows, h⟩ := Effect.bind_eq_ok.1 h
  cases h
  refine ⟨root, items, hroot, ?_, Effect.mapM_eq_ok.1 hrows⟩
  cases hfield : (root.get "items").bind Value.asArray with
  | none =>
    rw [hfield] at hitems
    cases hitems
  | some found =>
    rw [hfield] at hitems
    cases hitems
    obtain ⟨value, hvalue, harray⟩ := Option.bind_eq_some_iff.1 hfield
    cases value <;> cases harray
    exact hvalue

end SuperhumanDocs
