import SuperhumanDocs.Catalog
import SuperhumanDocs.Mutation.Payload

/-!
# Rich values that are read and written back

A rich value is read as an object of the fields of its DuckDB type, and written as the first of
some of these fields that has a value. The fields that are dropped on the way are not among them.

* `lookup_projected`, `keys_projected`: the object that is read.
* `objectField_projected`: the field that is written.
* `rich_value_reads_back`: the two together, for every rich format.
-/

set_option autoImplicit false

namespace SuperhumanDocs

open Binary (Binary64 F64)
open Effect (bind_eq_ok)
open Json (SerdeJson Value)

/-! ## The fields of a type -/

/-- Split at the commas outside of parentheses. -/
def splitFields : (depth : Nat) → List Char → List (List Char)
  | _, [] => [[]]
  | depth, c :: cs =>
    if c = ',' ∧ depth = 0 then [] :: splitFields depth cs
    else
      let depth := if c = '(' then depth + 1 else if c = ')' then depth - 1 else depth
      match splitFields depth cs with
      | [] => [[c]]
      | field :: fields => (c :: field) :: fields

/-- The names of the fields of a `STRUCT` type. -/
def structFields (type : String) : Option (List String) := do
  let fields ← (stripPrefix type "STRUCT(").bind (stripSuffix · ")")
  return (splitFields 0 fields.toList).map fun field =>
    String.ofList ((field.dropWhile (· = ' ')).takeWhile (· ≠ ' '))

/-! ## Projection -/

def projectedFields (source : List (String × Value)) (fields : List String) :
    List (String × Value) :=
  fields.foldl (fun projected field =>
    Json.insert field ((source.lookup field).getD .null) projected) []

theorem lookup_foldl_insert (source : List (String × Value)) (fields : List String)
    (done : List (String × Value)) (key : String) :
    (fields.foldl (fun projected field =>
      Json.insert field ((source.lookup field).getD .null) projected) done).lookup key =
        if key ∈ fields then some ((source.lookup key).getD .null) else done.lookup key := by
  induction fields generalizing done with
  | nil => simp
  | cons field fields ih =>
    rw [List.foldl_cons, ih, Json.lookup_insert]
    by_cases hmem : key ∈ fields
    · simp [hmem]
    · by_cases heq : key = field
      · simp [heq]
      · simp [hmem, heq]

theorem lookup_projected (source : List (String × Value)) (fields : List String) (key : String) :
    (projectedFields source fields).lookup key =
      if key ∈ fields then some ((source.lookup key).getD .null) else none :=
  lookup_foldl_insert source fields [] key

theorem keys_foldl_insert (source : List (String × Value)) (fields : List String)
    (done : List (String × Value)) (hfields : fields.Nodup)
    (hnew : ∀ field ∈ fields, field ∉ done.map Prod.fst) :
    ((fields.foldl (fun projected field =>
      Json.insert field ((source.lookup field).getD .null) projected) done).map Prod.fst).Perm
        (fields ++ done.map Prod.fst) := by
  induction fields generalizing done with
  | nil => exact List.Perm.refl _
  | cons field fields ih =>
    obtain ⟨hfield, hfields⟩ := List.nodup_cons.1 hfields
    have hkeys := Json.keys_insert ((source.lookup field).getD .null) (hnew field (.head _))
    rw [List.foldl_cons]
    refine (ih _ hfields ?_).trans ?_
    · intro field' hmem
      rw [hkeys.mem_iff, List.mem_cons, not_or]
      exact ⟨fun heq => hfield (heq ▸ hmem), hnew field' (.tail _ hmem)⟩
    · exact (hkeys.append_left fields).trans List.perm_middle

/-- **The keys of a projected object** are the fields it is projected to. -/
theorem keys_projected (source : List (String × Value)) {fields : List String}
    (h : fields.Nodup) : ((projectedFields source fields).map Prod.fst).Perm fields := by
  have hkeys := keys_foldl_insert source fields [] h (by simp)
  rwa [List.map_nil, List.append_nil] at hkeys

/-- **The field that is written** is the same before and after the projection. -/
theorem objectField_projected (source : List (String × Value)) {fields written : List String}
    (h : written ⊆ fields) :
    objectField (.object (projectedFields source fields)) written =
      objectField (.object source) written := by
  induction written with
  | nil => rfl
  | cons field written ih =>
    have hmem : field ∈ fields := h (.head _)
    have hrest := ih fun field hfield => h (.tail _ hfield)
    simp only [objectField, Value.asObject, Option.bind_eq_bind, Option.bind_some] at hrest ⊢
    rw [List.filterMap_cons, List.filterMap_cons, lookup_projected, if_pos hmem]
    cases hfield : source.lookup field with
    | none =>
      -- a field that is missing is null in the projection, and skipped there
      simp only [Option.getD_none]
      rw [List.find?_cons_of_neg (by simp [Value.isNull]), hrest]
    | some value =>
      simp only [Option.getD_some, List.find?_cons]
      rw [hrest]

/-! ## Formats -/

section
variable (F : Type) [F64 F]

/-- The formats with a `STRUCT` type. -/
def structFormats : List String := ["currency", "image", "person", "link", "hyperlink", "lookup"]

/-- The value is read as the object `p`, with the fields of the type of the format, and `p` is
written as the value is. -/
structure ReadsBack (formatType : String) (v p : Value) : Prop where
  text : normalizedValue F formatType v = some p.print
  keys : ∃ fields names, p.asObject = some fields ∧
    structFields (logicalType formatType false) = some names ∧
    (fields.map Prod.fst).Perm names ∧
    ∀ name ∈ names, p.get name = some ((v.get name).getD .null)
  written : simpleCellValue formatType p = simpleCellValue formatType v

variable {F}

variable (F) in
/-- The format is read by a projection to the fields of its type, and written from some of them. -/
structure RichFormat (formatType : String) (fields written : List String) : Prop where
  nodup : fields.Nodup
  subset : written ⊆ fields
  type : structFields (logicalType formatType false) = some fields
  read : ∀ v, normalizedValue F formatType v = projectedObject v fields
  write : ∀ source source', objectField (.object source) written =
    objectField (.object source') written →
      simpleCellValue formatType (.object source) = simpleCellValue formatType (.object source')

theorem richFormat_of_mem {formatType : String} (h : formatType.toLower ∈ structFormats) :
    ∃ fields written, RichFormat F formatType fields written := by
  simp only [structFormats, List.mem_cons, List.not_mem_nil, or_false] at h
  rcases h with h | h | h | h | h | h
  on_goal 1 => refine ⟨["currency", "amount"], ["amount"], ?_⟩
  on_goal 2 => refine ⟨["name", "url", "height", "width", "status"], ["url"], ?_⟩
  on_goal 3 => refine ⟨["name", "email"], ["email", "name"], ?_⟩
  on_goal 4 => refine ⟨["name", "url"], ["url"], ?_⟩
  on_goal 5 => refine ⟨["name", "url"], ["url"], ?_⟩
  on_goal 6 => refine ⟨["name", "url", "tableId", "tableUrl", "rowId"], ["rowId", "name"], ?_⟩
  all_goals
    refine ⟨by decide, by decide, ?_, fun v => ?_, fun source source' hsame => ?_⟩
    · simp only [logicalType, scalarType, h]
      decide +kernel
    · simp only [normalizedValue, h]
    · simp only [simpleCellValue, h, Value.isNull, hsame]

/-- **An object of a rich format reads back.** -/
theorem object_reads_back {formatType : String} (h : formatType.toLower ∈ structFormats)
    (source : List (String × Value)) : ∃ p, ReadsBack F formatType (.object source) p := by
  obtain ⟨fields, written, hformat⟩ := richFormat_of_mem (F := F) h
  refine ⟨.object (projectedFields source fields), (hformat.read _).trans rfl, ?_,
    hformat.write _ _ (objectField_projected source hformat.subset)⟩
  refine ⟨_, fields, rfl, hformat.type, keys_projected source hformat.nodup, fun name hname => ?_⟩
  simp only [Value.get, Value.asObject, Option.bind_some]
  rw [lookup_projected, if_pos hname]

/-! ## Array columns -/

theorem objects_read_back {formatType : String} (h : formatType.toLower ∈ structFormats)
    {vs : List Value} (hvs : ∀ v ∈ vs, v.asObject.isSome) :
    ∃ ps, List.Forall₂ (ReadsBack F formatType) vs ps := by
  induction vs with
  | nil => exact ⟨[], .nil⟩
  | cons v vs ih =>
    obtain ⟨ps, hps⟩ := ih fun v hv => hvs v (.tail _ hv)
    have hv := hvs v (.head _)
    cases v with
    | object source =>
      obtain ⟨p, hp⟩ := object_reads_back (F := F) h source
      exact ⟨p :: ps, .cons hp hps⟩
    | null | bool | number | string | array => cases hv

theorem scanArrayValues_readsBack {formatType : String} {vs ps : List Value}
    (h : List.Forall₂ (ReadsBack F formatType) vs ps) (hvs : ∀ v ∈ vs, v.asObject.isSome) :
    vs.map (scanArrayValue F formatType) =
      ps.map fun p => { isNull := false, value := p.print } := by
  induction h with
  | nil => rfl
  | @cons v p vs ps hitem _ ih =>
    have hv : v.isNull = false := by
      have hobject := hvs v (.head _)
      cases v with
      | object => rfl
      | null | bool | number | string | array => cases hobject
    rw [List.map_cons, List.map_cons, ih fun v hv => hvs v (.tail _ hv)]
    simp [scanArrayValue, hv, hitem.text]

variable [SerdeJson]

/-- Arrays whose items are written alike are written alike. -/
theorem cellValue_congr {column : Column} (harray : column.isArray = true)
    {x y : RustExtInputValue F} {vs ps : List Value} (hx : inputValueJson x = .ok (.array ps))
    (hy : inputValueJson y = .ok (.array vs))
    (h : List.Forall₂ (ReadsBack F column.formatType) vs ps) :
    cellValue column x = cellValue column y := by
  let write (value : Value) : Except String (Operations.ScalarValue F) := do
    scalarValue (← simpleCellValue column.formatType value)
  have hitems : ps.mapM write = vs.mapM write := by
    clear hx hy
    induction h with
    | nil => rfl
    | @cons v p _ _ hitem _ ih =>
      have hwrite : write p = write v := congrArg (· >>= scalarValue) hitem.written
      rw [List.mapM_cons, List.mapM_cons, hwrite, ih]
  have hcell {input : RustExtInputValue F} {values : List Value}
      (hinput : inputValueJson input = .ok (.array values)) :
      cellValue column input = (values.mapM write).map Operations.Value.flatList := by
    simp only [cellValue, hinput, harray, Value.asArray]
    rfl
  rw [hcell hx, hcell hy, hitems]

/-- **Rich values read back**: an object is read as one with the fields of its type, which is
written as the object is; and so is each item of an array of objects. -/
theorem rich_value_reads_back (column : Column)
    (h : column.formatType.toLower ∈ structFormats) :
    (∀ source, ∃ p, ReadsBack F column.formatType (.object source) p) ∧
    ∀ vs, (∀ v ∈ vs, v.asObject.isSome) → column.isArray = true →
      ∃ ps, List.Forall₂ (ReadsBack F column.formatType) vs ps ∧
        (scanCell F column (.array vs)).arrayValues =
          ps.map (fun p => { isNull := false, value := p.print }) ∧
        ∀ x y : RustExtInputValue F, inputValueJson x = .ok (.array ps) →
          inputValueJson y = .ok (.array vs) → cellValue column x = cellValue column y := by
  refine ⟨object_reads_back h, fun vs hvs harray => ?_⟩
  obtain ⟨ps, hps⟩ := objects_read_back (F := F) h hvs
  refine ⟨ps, hps, ?_, fun x y hx hy => cellValue_congr harray hx hy hps⟩
  rw [← scanArrayValues_readsBack hps hvs]
  simp [scanCell, Value.isNull, harray, Value.asArray]

end

/-! ## A person -/

open Json.Reference

/-- A column of persons, in another letter case. -/
def personColumn : Column where
  id := "c1"
  name := "Owner"
  formatType := "Person"
  duckdbType := logicalType "Person" false
  duckdbTypeAlias := ""
  isArray := false
  capabilities := rustExtColumnEditable

/-- A person without a name, and with a field the type does not have. -/
theorem rich_value_reads_back_person :
    ∃ p, ReadsBack Binary64 "Person" (.object [("@type", .string "Person"),
      ("email", .string "ada@example.com")]) p :=
  (rich_value_reads_back personColumn (by decide +kernel)).1
    [("@type", .string "Person"), ("email", .string "ada@example.com")]

end SuperhumanDocs
