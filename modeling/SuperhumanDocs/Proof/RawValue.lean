import SuperhumanDocs.Raw.Scan

/-!
# Rows and values in memory

* `scanColumnValue_spec`: a column of a row that is in memory has the value the model gives it,
  and the strings it came in are freed.
-/

set_option autoImplicit false

namespace SuperhumanDocs.Raw

open Binary (F64)
open Json (SerdeJson)
open Memory

/-! ## Batches -/

def IsRow (record : RustExtScanRow) (row : Row) (own : Owned Block) : Prop :=
  ∃ address, record = scanRowRecord address row ∧ own = cell address (.row row)

/-- The record of a batch of rows that are in memory. -/
def IsBatch (raw : RustExtScanBatch) (rows : List Row) (own : Owned Block) : Prop :=
  IsSlice IsRow (raw.rows, raw.rowCount) rows own

section
variable [Allocator Block]

theorem ffiScanRow_spec (row : Row) :
    Triple 0 (ffiScanRow row) fun record own => IsRow record row own :=
  (Triple.alloc _).bind fun address _ hown => Triple.pure ⟨address, rfl, hown⟩

theorem ffiScanBatch_spec (rows : List Row) (finished : Bool) :
    Triple 0 (ffiScanBatch rows finished) fun raw own =>
      raw.finished = finished ∧ IsBatch raw rows own :=
  (Each.mapM ffiScanRow_spec rows).bind fun _ _ hrows =>
    (vecIntoRawParts_spec hrows).bind fun _ _ hparts => Triple.pure ⟨rfl, hparts⟩

end

theorem IsBatch.free {raw : RustExtScanBatch} {rows : List Row} {own : Owned Block}
    (h : IsBatch raw rows own) : Triple own (freeScanBatch raw) (Leaves () 0) := by
  refine (IsSlice.take h).bind fun records own' hrecords => ?_
  refine hrecords.forM fun record row own hrow => ?_
  obtain ⟨address, rfl, rfl⟩ := hrow
  exact dropHandle_spec address row

theorem isBatch_default : IsBatch .default [] 0 := .empty

/-! ## Values -/

/-- A value in memory whose strings are its own. -/
inductive IsArrayValue : RustExtArrayValue → SuperhumanDocs.RustExtArrayValue → Owned Block → Prop
  | null (value : String) :
    IsArrayValue { isNull := true, value := .default } { isNull := true, value } 0
  | text {raw : RustExtString} {value : String} {own : Owned Block} : IsString raw value own →
    IsArrayValue { isNull := false, value := raw } { isNull := false, value } own

structure IsScanValue (raw : RustExtScanValue) (value : SuperhumanDocs.RustExtScanValue)
    (own : Owned Block) : Prop where
  isNull : raw.isNull = value.isNull
  valueOwned : raw.valueOwned = value.valueOwned
  strings : ∃ own₁ own₂, own = own₁ + own₂ ∧ IsString raw.value value.value own₁ ∧
    (value.valueOwned = false → own₁ = 0) ∧
    IsSlice IsArrayValue (raw.arrayValues, raw.arrayCount) value.arrayValues own₂

section
variable [Allocator Block]

theorem allocArrayValue_spec (item : SuperhumanDocs.RustExtArrayValue) :
    Triple 0 (allocArrayValue item) fun raw own => IsArrayValue raw item own := by
  obtain ⟨isNull, value⟩ := item
  rw [allocArrayValue]
  cases isNull with
  | true => exact Triple.pure (.null value)
  | false => exact (allocString_spec value).bind fun _ _ hraw => Triple.pure (.text hraw)

/-- A value is boxed with its strings; one that owns no string has none. -/
theorem allocScanValue_spec {value : SuperhumanDocs.RustExtScanValue}
    (hvalue : value.valueOwned = false → value.value = "") :
    Triple 0 (allocScanValue value) fun raw own => IsScanValue raw value own := by
  refine (Each.mapM allocArrayValue_spec _).bind fun items own hitems => ?_
  refine (vecIntoRawParts_spec hitems).bind fun parts own hparts => ?_
  cases howned : value.valueOwned with
  | true =>
    rw [← zero_add own]
    refine (allocString_spec _).frame_bind fun raw own' hraw => Triple.pure ?_
    exact ⟨rfl, howned.symm, own', own, rfl, hraw, by simp [howned], hparts⟩
  | false =>
    refine Triple.pure ⟨rfl, howned.symm, 0, own, (zero_add _).symm, ?_, fun _ => rfl, hparts⟩
    rw [hvalue howned]
    exact .empty

end

/-- **A value is freed once.** -/
theorem IsScanValue.free {raw : RustExtScanValue} {value : SuperhumanDocs.RustExtScanValue}
    {own : Owned Block} (h : IsScanValue raw value own) :
    Triple own (freeScanValue raw) (Leaves () 0) := by
  obtain ⟨own₁, own₂, rfl, hvalue, hborrowed, hitems⟩ := h.strings
  have hrest : Triple own₂ (do
      let items ← vecFromRawParts RustExtArrayValue raw.arrayValues raw.arrayCount
      items.forM freeArrayValue) (Leaves () 0) := by
    refine (IsSlice.take hitems).bind fun items own hitems => hitems.forM ?_
    intro item value own hitem
    cases hitem with
    | null => exact Triple.pure ⟨rfl, rfl⟩
    | text hraw => exact hraw.free
  unfold freeScanValue
  rw [h.valueOwned]
  cases howned : value.valueOwned with
  | true => exact hvalue.free.leaves_frame_bind ((zero_add own₂).symm ▸ hrest)
  | false =>
    rw [hborrowed howned, zero_add]
    exact hrest

/-! ## Reading values -/

section
variable {F : Type} [F64 F] [SerdeJson] [DuckDb F]

/-- The value of an item of an array. -/
def itemValue (childType : LogicalType) (item : SuperhumanDocs.RustExtArrayValue) : DuckValue F :=
  if item.isNull then .null childType else scanTextToValue item.value childType

variable (F) in
/-- The strings and items of a value can be read. -/
structure Shows (raw : RustExtScanValue) (value : SuperhumanDocs.RustExtScanValue)
    (own : Owned Block) : Prop where
  isNull : raw.isNull = value.isNull
  text : Triple own raw.value.asStr (Leaves value.value own)
  items : ∀ childType, Triple own (do
    let items ← sliceFromRawParts RustExtArrayValue raw.arrayValues raw.arrayCount
    items.mapM (arrayValueToValue (F := F) childType))
    (Leaves (value.arrayValues.map (itemValue childType)) own)

theorem IsArrayValue.read {raw : RustExtArrayValue} {item : SuperhumanDocs.RustExtArrayValue}
    {own : Owned Block} (h : IsArrayValue raw item own) (childType : LogicalType) :
    Triple own (arrayValueToValue (F := F) childType raw)
      (Leaves (itemValue childType item) own) := by
  cases h with
  | null => exact Triple.pure ⟨rfl, rfl⟩
  | text hraw => exact hraw.asStr.leaves_bind (Triple.pure ⟨rfl, rfl⟩)

theorem IsScanValue.shows {raw : RustExtScanValue} {value : SuperhumanDocs.RustExtScanValue}
    {own : Owned Block} (h : IsScanValue raw value own) : Shows F raw value own := by
  obtain ⟨own₁, own₂, rfl, hvalue, -, hitems⟩ := h.strings
  refine ⟨h.isNull, hvalue.asStr.leaves_frame own₂, fun childType => ?_⟩
  rw [add_comm]
  refine Triple.leaves_frame ?_ own₁
  refine (IsSlice.read hitems).bind ?_
  rintro items own ⟨rfl, own₁, own₂, rfl, heach⟩
  exact (heach.mapM_read fun _ _ _ hitem => hitem.read childType).leaves_frame own₂

theorem scanValueToValue_spec {raw : RustExtScanValue} {value : SuperhumanDocs.RustExtScanValue}
    {own : Owned Block} (h : Shows F raw value own) (targetType : LogicalType) :
    Triple own (scanValueToValue raw targetType)
      (Leaves (SuperhumanDocs.scanValueToValue (F := F) value targetType) own) := by
  unfold scanValueToValue SuperhumanDocs.scanValueToValue
  rw [h.isNull]
  by_cases hnull : value.isNull = true
  · rw [if_pos hnull, if_pos hnull]
    exact Triple.pure ⟨rfl, rfl⟩
  · rw [if_neg hnull, if_neg hnull]
    cases targetType with
    | list childType typeAlias =>
      have hitems := h.items childType
      simp only [← bind_assoc]
      exact hitems.leaves_bind (Triple.pure ⟨rfl, rfl⟩)
    | _ => exact h.text.leaves_bind (Triple.pure ⟨rfl, rfl⟩)

end

/-! ## The value of a column in a row -/

section
variable {F : Type} [F64 F] [SerdeJson] [DuckDb F]

omit [SerdeJson] [DuckDb F] in
/-- A value that owns no text of its own has none. -/
theorem scanCells_borrowed {column : Column} {cells : List Cell}
    (h : (scanCells F column cells).valueOwned = false) :
    (scanCells F column cells).value = "" := by
  induction cells with
  | nil => rfl
  | cons cell cells ih =>
    rw [scanCells] at h ⊢
    split
    · rename_i hcell
      rw [if_pos hcell] at h
      exact ih h
    · rename_i hcell
      rw [if_neg hcell] at h
      unfold scanCell at h ⊢
      split_ifs at h ⊢
      · rfl
      · split <;> rfl
      · cases hvalue : normalizedValue F column.formatType cell.value with
        | none => rfl
        | some text => rw [hvalue] at h; cases h

theorem lentScanValue_shows {address : ℕ} {block : Block} {field : Field} {text : String}
    (h : block.text field = some text) :
    Shows F (lentScanValue (borrowString address field text))
      (if text.isEmpty then .default
        else { SuperhumanDocs.RustExtScanValue.default with isNull := false, value := text })
      (cell address block) := by
  unfold lentScanValue
  by_cases hempty : text = ""
  · rw [if_pos (by rw [hempty]; rfl), if_pos (String.isEmpty_iff.2 hempty)]
    exact ⟨rfl, Triple.pure ⟨rfl, rfl⟩, fun _ => Triple.pure ⟨rfl, rfl⟩⟩
  · have hlen : (borrowString address field text).len ≠ 0 := utf8ByteSize_ne_zero hempty
    rw [if_neg hlen, if_neg (by simpa using hempty)]
    exact ⟨rfl, borrowString_asStr h, fun _ => Triple.pure ⟨rfl, rfl⟩⟩

/-- The metadata of a row can be read as long as the row is there. -/
theorem scanSystemValue_shows (column : Column) (address : ℕ) (row : Row) :
    Shows F (scanSystemValue column address row) (SuperhumanDocs.scanSystemValue column row)
      (cell address (.row row)) := by
  unfold scanSystemValue SuperhumanDocs.scanSystemValue
  by_cases hcreated : eqIgnoreAsciiCase column.id "createdAt" = true
  · rw [if_pos hcreated, if_pos hcreated]
    exact lentScanValue_shows rfl
  · rw [if_neg hcreated, if_neg hcreated]
    by_cases hupdated : eqIgnoreAsciiCase column.id "updatedAt" = true
    · rw [if_pos hupdated, if_pos hupdated]
      exact lentScanValue_shows rfl
    · rw [if_neg hupdated, if_neg hupdated]
      exact ⟨rfl, Triple.pure ⟨rfl, rfl⟩, fun _ => Triple.pure ⟨rfl, rfl⟩⟩

theorem Shows.frame {raw : RustExtScanValue} {value : SuperhumanDocs.RustExtScanValue}
    {own : Owned Block} (h : Shows F raw value own) (others : Owned Block) :
    Shows F raw value (own + others) :=
  ⟨h.isNull, h.text.leaves_frame others, fun childType => (h.items childType).leaves_frame others⟩

end

/-- A lent value gives nothing back. -/
theorem lentScanValue_free (value : RustExtString) :
    Triple 0 (freeScanValue (lentScanValue value)) (Leaves () 0) := by
  unfold lentScanValue
  split_ifs <;> exact Triple.pure ⟨rfl, rfl⟩

/-- A column can be read through the pointer to its record. -/
structure ReadsColumn (own : Owned Block) (raw : RustBridgeColumnInfo)
    (info : SuperhumanDocs.RustBridgeColumnInfo) : Prop where
  duckdbType : raw.duckdbType = info.duckdbType
  column : ∃ record column, info.column.handle = some column ∧
    info.column.capabilities = record.capabilities ∧
    Triple own (raw.column.deref RustExtColumn) (Leaves record own) ∧
    Triple own (refFromRaw Column record.handle "column") (Leaves (.ok column) own)

section
variable {F : Type} [F64 F] [SerdeJson] [DuckDb F] [Allocator Block] {own : Owned Block}
  {raw : RustBridgeColumnInfo} {info : SuperhumanDocs.RustBridgeColumnInfo}

/-- What `scanValue` gives can be read next to the row, and is freed without it. -/
theorem scanValue_spec (column : Column) (address : ℕ) (row : Row) :
    Triple (cell address (.row row)) (scanValue F column address row) fun raw own =>
      ∃ new, own = cell address (.row row) + new ∧
        Shows F raw (SuperhumanDocs.scanValue F column row) (cell address (.row row) + new) ∧
        Triple new (freeScanValue raw) (Leaves () 0) := by
  unfold scanValue SuperhumanDocs.scanValue
  by_cases hsystem : supports column.capabilities rustExtColumnSystem = true
  · rw [if_pos hsystem, if_pos hsystem]
    refine Triple.pure ⟨0, (add_zero _).symm, ?_, lentScanValue_free _⟩
    rw [add_zero]
    exact scanSystemValue_shows column address row
  · rw [if_neg hsystem, if_neg hsystem, ← zero_add (cell address _)]
    refine ((allocScanValue_spec scanCells_borrowed).frame _).mono ?_
    rintro raw own ⟨new, rfl, hraw⟩
    rw [zero_add, add_comm]
    exact ⟨new, rfl, add_comm new _ ▸ hraw.shows.frame _, hraw.free⟩

/-- **A column of a row has the same value in memory, and nothing is left of what it came in.** -/
theorem scanColumnValue_spec (h : ReadsColumn own raw info) (address : ℕ) (row : Row) :
    Triple (own + cell address (.row row))
      (scanColumnValue (F := F) raw (scanRowRecord address row))
      (Leaves (SuperhumanDocs.scanColumnValue info (SuperhumanDocs.ffiScanRow row))
        (own + cell address (.row row))) := by
  obtain ⟨record, column, hhandle, -, hderef, hcolumn⟩ := h.column
  have hvalue : SuperhumanDocs.scanColumnValue (F := F) info (SuperhumanDocs.ffiScanRow row) =
      SuperhumanDocs.scanValueToValue (SuperhumanDocs.scanValue F column row) raw.duckdbType := by
    rw [SuperhumanDocs.scanColumnValue, hhandle, h.duckdbType]
    rfl
  rw [hvalue]
  refine (hderef.leaves_frame _).leaves_bind ?_
  unfold rustExtScanValue scanRowRecord
  simp only [bind_assoc]
  refine (hcolumn.leaves_frame _).leaves_bind ?_
  simp only [bind_assoc, pure_bind]
  rw [add_comm]
  refine (Triple.deref (β := Block) address row).leaves_frame_bind ?_
  refine (scanValue_spec column address row).frame_bind ?_
  rintro scanValue _ ⟨new, rfl, hshows, hfree⟩
  refine (scanValueToValue_spec hshows _).leaves_frame_bind ?_
  rw [show cell address (Block.row row) + new + own = new + (cell address (.row row) + own) by abel]
  refine hfree.leaves_frame_bind (Triple.pure ⟨rfl, ?_⟩)
  rw [zero_add]

end

end SuperhumanDocs.Raw
