import SuperhumanDocs.Proof.RawScan
import SuperhumanDocs.Raw.Dml

/-!
# What Rust reads of a write

* `Sink.call_matches`: Rust reads the call of the model, since no array moves while its texts are
  lent; and the arrays are freed.
-/

set_option autoImplicit false

namespace SuperhumanDocs.Raw

open Binary (F64)
open Json (SerdeJson)
open Memory

/-! ## Lent texts -/

/-- A text in an array, or an empty one. -/
def IsLent (block : Option ℕ) (items : List String) (raw : RustExtString) (text : String) : Prop :=
  (raw = .default ∧ text = "") ∨ ∃ address index, block = some address ∧
    items[index]? = some text ∧ raw = borrowString address (.item index) text

/-- A text stays where it is when more are pushed. -/
theorem IsLent.append {block : Option ℕ} {items : List String} {raw : RustExtString}
    {text : String} (h : IsLent block items raw text) (more : List String) :
    IsLent block (items ++ more) raw text := by
  rcases h with h | ⟨address, index, hblock, hitem, hraw⟩
  · exact .inl h
  · obtain ⟨hlt, -⟩ := List.getElem?_eq_some_iff.1 hitem
    refine .inr ⟨address, index, hblock, ?_, hraw⟩
    rwa [List.getElem?_append_left hlt]

theorem IsLent.asStr {buffer : Buffer} {items : List String} {own : Owned Block}
    (h : IsBuffer buffer items own) {raw : RustExtString} {text : String}
    (hlent : IsLent buffer.block items raw text) : Triple own raw.asStr (Leaves text own) := by
  rcases hlent with ⟨rfl, rfl⟩ | ⟨address, index, hblock, hitem, rfl⟩
  · exact Triple.pure ⟨rfl, rfl⟩
  · cases h with
    | empty => cases hblock
    | block address' h =>
      cases hblock
      exact borrowString_asStr hitem

section
variable [Allocator Block] {buffer : Buffer} {items : List String} {own : Owned Block}

theorem lendText_spec (h : IsBuffer buffer items own) (hroom : items.length < buffer.capacity)
    (text : String) : Triple own (lendText buffer text) fun result own =>
      result.1 = buffer ∧ IsLent buffer.block (items ++ [text]) result.2 text ∧
      IsBuffer buffer (items ++ [text]) own := by
  refine (h.push hroom text).bind ?_
  rintro ⟨buffer', address, index⟩ own' ⟨hbuffer, hblock, hindex, hitems⟩
  refine Triple.pure ⟨hbuffer, .inr ⟨address, index, hblock, ?_, rfl⟩, hitems⟩
  rw [show index = items.length from hindex, List.getElem?_append_right (Nat.le_refl _),
    Nat.sub_self, List.getElem?_cons_zero]

variable {F : Type}

/-- A value whose text is lent. -/
def IsLentValue (block : Option ℕ) (items : List String) (raw : RustExtInputValue F)
    (input : SuperhumanDocs.RustExtInputValue F) : Prop :=
  ∃ text, raw = withText input text ∧ IsLent block items text input.stringValue

/-- A value that has a text only when its type does. -/
def Plain (input : SuperhumanDocs.RustExtInputValue F) : Prop :=
  input.valueType = rustExtInputString ∨ input.valueType = rustExtInputJson ∨
    input.stringValue = ""

theorem lendValue_spec (h : IsBuffer buffer items own) (hroom : items.length < buffer.capacity)
    {input : SuperhumanDocs.RustExtInputValue F} (hinput : Plain input) :
    Triple own (lendValue buffer input) fun result own => ∃ more, more.length ≤ 1 ∧
      result.1 = buffer ∧ IsLentValue buffer.block (items ++ more) result.2 input ∧
      IsBuffer buffer (items ++ more) own := by
  unfold lendValue
  by_cases htext : input.valueType = rustExtInputString ∨ input.valueType = rustExtInputJson
  · rw [if_pos htext]
    refine (lendText_spec h hroom input.stringValue).bind ?_
    rintro ⟨buffer', text⟩ own' ⟨hbuffer, hlent, hitems⟩
    exact Triple.pure ⟨[input.stringValue], Nat.le_refl _, hbuffer, ⟨text, rfl, hlent⟩, hitems⟩
  · rw [if_neg htext]
    have hempty : input.stringValue = "" := by
      rcases hinput with h | h | h
      · exact absurd (.inl h) htext
      · exact absurd (.inr h) htext
      · exact h
    refine Triple.pure ⟨[], Nat.zero_le _, rfl, ⟨.default, rfl, .inl ⟨rfl, hempty⟩⟩, ?_⟩
    rwa [List.append_nil]

end

/-! ## The loop over a chunk -/

section
variable {rowIds texts : Buffer} {ids strings : List String} {own : Owned Block} {F : Type}

/-- The two arrays. -/
def IsArrays (rowIds texts : Buffer) (ids strings : List String) (own : Owned Block) : Prop :=
  ∃ own₁ own₂, IsBuffer rowIds ids own₁ ∧ IsBuffer texts strings own₂ ∧ own = own₁ + own₂

theorem IsArrays.rowId (h : IsArrays rowIds texts ids strings own) {raw : RustExtString}
    {text : String} (hlent : IsLent rowIds.block ids raw text) :
    Triple own raw.asStr (Leaves text own) := by
  obtain ⟨own₁, own₂, hids, -, rfl⟩ := h
  exact (hlent.asStr hids).leaves_frame own₂

theorem IsArrays.value (h : IsArrays rowIds texts ids strings own) {raw : RustExtInputValue F}
    {input : SuperhumanDocs.RustExtInputValue F}
    (hlent : IsLentValue texts.block strings raw input) :
    Triple own raw.read (Leaves input own) := by
  obtain ⟨own₁, own₂, -, hstrings, rfl⟩ := h
  obtain ⟨text, rfl, hlent⟩ := hlent
  rw [add_comm]
  exact ((hlent.asStr hstrings).leaves_frame own₁).leaves_bind (Triple.pure ⟨rfl, rfl⟩)

theorem IsArrays.destroy (h : IsArrays rowIds texts ids strings own) {α : Type} (a : α)
    (others : Owned Block) :
    Triple (own + others) (do
      texts.destroy String
      rowIds.destroy String
      return a) (Leaves a others) := by
  obtain ⟨own₁, own₂, hids, hstrings, rfl⟩ := h
  rw [show own₁ + own₂ + others = own₂ + (own₁ + others) by abel]
  refine hstrings.destroy.leaves_frame_bind ?_
  rw [zero_add]
  refine hids.destroy.leaves_frame_bind ?_
  rw [zero_add]
  exact Triple.pure ⟨rfl, rfl⟩

variable [Allocator Block]

/-- What is lent of a chunk, in the words of the model. -/
def collect : List (PendingRow F) →
    Except String (List String × List (SuperhumanDocs.RustExtInputValue F))
  | [] => .ok ([], [])
  | row :: rows => do
    let rowId ← row.rowId.toList.mapM id
    let values ← row.values.mapM id
    let (ids, inputs) ← collect rows
    return (rowId ++ ids, values ++ inputs)

theorem lendValues_spec {inputs : List (Except String (SuperhumanDocs.RustExtInputValue F))}
    (h : IsArrays rowIds texts ids strings own)
    (hroom : strings.length + inputs.length ≤ texts.capacity)
    (hplain : ∀ input, .ok input ∈ inputs → Plain input) :
    Triple own (lendValues rowIds texts inputs) fun lent own => ∃ more,
      more.length ≤ inputs.length ∧ lent.rowIds = rowIds ∧ lent.texts = texts ∧
      IsArrays rowIds texts ids (strings ++ more) own ∧
      match inputs.mapM id with
      | .error e => lent.result = .error e
      | .ok inputs => ∃ raws, lent.result = .ok raws ∧
          List.Forall₂ (IsLentValue texts.block (strings ++ more)) raws inputs := by
  induction inputs generalizing strings own with
  | nil =>
    refine Triple.pure ⟨[], Nat.le_refl _, rfl, rfl, ?_, [], rfl, .nil⟩
    rwa [List.append_nil]
  | cons input inputs ih =>
    rw [List.mapM_cons]
    cases input with
    | error e =>
      refine Triple.pure ⟨[], Nat.zero_le _, rfl, rfl, ?_, rfl⟩
      rwa [List.append_nil]
    | ok input =>
      unfold lendValues
      rw [List.length_cons] at hroom
      obtain ⟨own₁, own₂, hids, hstrings, rfl⟩ := h
      rw [add_comm]
      refine (lendValue_spec hstrings (by omega) (hplain input (.head _))).frame_bind ?_
      rintro ⟨texts', value⟩ new ⟨more, hmore, rfl, hvalue, hnew⟩
      rw [add_comm]
      dsimp only at hroom
      have hroom' : (strings ++ more).length + inputs.length ≤ texts'.capacity := by
        rw [List.length_append]; omega
      refine (ih ⟨own₁, new, hids, hnew, rfl⟩ hroom' fun i hi => hplain i (.tail _ hi)).bind ?_
      rintro lent own ⟨more', hmore', hlentIds, hlentTexts, harrays, hresult⟩
      rw [List.append_assoc] at harrays hresult
      refine Triple.pure ⟨more ++ more', ?_, hlentIds, hlentTexts, harrays, ?_⟩
      · rw [List.length_append, List.length_cons]; omega
      · cases hmapM : inputs.mapM id with
        | error e =>
          rw [hmapM] at hresult
          show lent.result.map _ = _
          rw [show lent.result = .error e from hresult]
          rfl
        | ok inputs' =>
          rw [hmapM] at hresult
          obtain ⟨raws, hraws, hforall⟩ := hresult
          refine ⟨value :: raws, by rw [hraws]; rfl, .cons ?_ hforall⟩
          obtain ⟨text, hvalue, hlent⟩ := hvalue
          exact ⟨text, hvalue, List.append_assoc strings more more' ▸ hlent.append more'⟩

theorem lendRowId_spec {rowId : Option (Except String String)}
    (h : IsArrays rowIds texts ids strings own)
    (hroom : ids.length + rowId.toList.length ≤ rowIds.capacity) :
    Triple own (lendRowId rowIds texts rowId) fun lent own => ∃ more,
      more.length ≤ rowId.toList.length ∧ lent.rowIds = rowIds ∧ lent.texts = texts ∧
      IsArrays rowIds texts (ids ++ more) strings own ∧
      match rowId.toList.mapM id with
      | .error e => lent.result = .error e
      | .ok rowId => ∃ raws, lent.result = .ok raws ∧
          List.Forall₂ (IsLent rowIds.block (ids ++ more)) raws rowId := by
  match rowId with
  | none =>
    refine Triple.pure ⟨[], Nat.le_refl _, rfl, rfl, ?_, [], rfl, .nil⟩
    rwa [List.append_nil]
  | some (.error e) =>
    refine Triple.pure ⟨[], Nat.zero_le _, rfl, rfl, ?_, rfl⟩
    rwa [List.append_nil]
  | some (.ok text) =>
    obtain ⟨own₁, own₂, hids, hstrings, rfl⟩ := h
    refine (lendText_spec hids hroom text).frame_bind ?_
    rintro ⟨rowIds', raw⟩ new ⟨rfl, hlent, hnew⟩
    exact Triple.pure ⟨[text], Nat.le_refl _, rfl, rfl, ⟨new, own₂, hnew, hstrings, rfl⟩, [raw], rfl,
      .cons hlent .nil⟩

/-- How many row ids and how many values rows have. -/
def idCount (rows : List (PendingRow F)) : ℕ :=
  (rows.map fun row => row.rowId.toList.length).sum

def valueCount (rows : List (PendingRow F)) : ℕ := (rows.map fun row => row.values.length).sum

/-- **No array moves**: by induction on the rows, all that was lent before is still where it was. -/
theorem lendRows_spec {rows : List (PendingRow F)} (h : IsArrays rowIds texts ids strings own)
    (hids : ids.length + idCount rows ≤ rowIds.capacity)
    (hvalues : strings.length + valueCount rows ≤ texts.capacity)
    (hplain : ∀ row ∈ rows, ∀ input, .ok input ∈ row.values → Plain input) :
    Triple own (lendRows rowIds texts rows) fun lent own => ∃ moreIds more,
      lent.rowIds = rowIds ∧ lent.texts = texts ∧
      IsArrays rowIds texts (ids ++ moreIds) (strings ++ more) own ∧
      match collect rows with
      | .error e => lent.result = .error e
      | .ok (rowIds', inputs) => ∃ rawIds raws, lent.result = .ok (rawIds, raws) ∧
          List.Forall₂ (IsLent rowIds.block (ids ++ moreIds)) rawIds rowIds' ∧
          List.Forall₂ (IsLentValue texts.block (strings ++ more)) raws inputs := by
  induction rows generalizing ids strings own with
  | nil =>
    refine Triple.pure ⟨[], [], rfl, rfl, ?_, [], [], rfl, .nil, .nil⟩
    rwa [List.append_nil, List.append_nil]
  | cons row rows ih =>
    unfold lendRows collect
    have hidCount : idCount (row :: rows) = row.rowId.toList.length + idCount rows := by
      simp [idCount]
    have hvalueCount : valueCount (row :: rows) = row.values.length + valueCount rows := by
      simp [valueCount]
    refine (lendRowId_spec h (by omega)).bind ?_
    rintro ⟨idResult, rowIds', texts'⟩ own ⟨moreIds, hmoreIds, rfl, rfl, harrays, hid⟩
    dsimp only at hids hvalues ⊢
    cases hrowId : row.rowId.toList.mapM id with
    | error e =>
      rw [hrowId] at hid
      dsimp only at hid
      rw [hid]
      refine Triple.pure ⟨moreIds, [], rfl, rfl, ?_, rfl⟩
      rwa [List.append_nil]
    | ok rowId =>
      rw [hrowId] at hid
      obtain ⟨rawIds, hrawIds, hlentIds⟩ := hid
      dsimp only at hrawIds
      rw [hrawIds]
      have hroom : strings.length + row.values.length ≤ texts'.capacity := by omega
      refine (lendValues_spec harrays hroom (hplain row (.head _))).bind ?_
      rintro ⟨result, rowIds', texts'⟩ own ⟨more, hmore, rfl, rfl, harrays, hvalue⟩
      dsimp only at hids hvalues hlentIds ⊢
      cases hinputs : row.values.mapM id with
      | error e =>
        rw [hinputs] at hvalue
        dsimp only at hvalue
        rw [hvalue]
        exact Triple.pure ⟨moreIds, more, rfl, rfl, harrays, rfl⟩
      | ok inputs =>
        rw [hinputs] at hvalue
        obtain ⟨raws, hraws, hlentValues⟩ := hvalue
        dsimp only at hraws hlentValues
        rw [hraws]
        have hidRoom : (ids ++ moreIds).length + idCount rows ≤ rowIds'.capacity := by
          rw [List.length_append]; omega
        have hvalueRoom : (strings ++ more).length + valueCount rows ≤ texts'.capacity := by
          rw [List.length_append]; omega
        refine (ih harrays hidRoom hvalueRoom fun row hrow => hplain row (.tail _ hrow)).bind ?_
        rintro lent own ⟨moreIds', more', hlentRowIds, hlentTexts, harrays, hrest⟩
        rw [List.append_assoc, List.append_assoc] at harrays hrest
        refine Triple.pure ⟨moreIds ++ moreIds', more ++ more', hlentRowIds, hlentTexts, harrays, ?_⟩
        cases hcollect : collect rows with
        | error e =>
          rw [hcollect] at hrest
          show lent.result.map _ = _
          rw [show lent.result = .error e from hrest]
          rfl
        | ok collected =>
          obtain ⟨restIds, restInputs⟩ := collected
          rw [hcollect] at hrest
          obtain ⟨rawIds', raws', hresult, hrestIds, hrestValues⟩ := hrest
          refine ⟨rawIds ++ rawIds', raws ++ raws', by rw [hresult]; rfl, ?_, ?_⟩
          · refine List.rel_append (hlentIds.imp fun _ _ hlent => ?_) hrestIds
            exact List.append_assoc ids moreIds moreIds' ▸ hlent.append moreIds'
          · refine List.rel_append (hlentValues.imp fun _ _ hlent => ?_) hrestValues
            obtain ⟨text, hvalue, hlent⟩ := hlent
            exact ⟨text, hvalue, List.append_assoc strings more more' ▸ hlent.append more'⟩

end

/-! ## The call -/

/-- A sink over a table in memory. -/
inductive IsSink (own : Owned Block) : Sink → SuperhumanDocs.Sink → Prop
  | insert {raw : RustBridgeTableInfo} {info : SuperhumanDocs.RustBridgeTableInfo} :
    ReadsTable own raw info → IsSink own (.insert raw) (.insert info)
  | update {raw : RustBridgeTableInfo} {info : SuperhumanDocs.RustBridgeTableInfo}
    (assignments : List Assignment) :
    ReadsTable own raw info → IsSink own (.update raw assignments) (.update info assignments)
  | delete {raw : RustBridgeTableInfo} {info : SuperhumanDocs.RustBridgeTableInfo}
    (rowIdIndex : ℕ) :
    ReadsTable own raw info → IsSink own (.delete raw rowIdIndex) (.delete info rowIdIndex)

/-- A column of a write that Rust reads as one of the model. -/
def IsWriteColumn (own : Owned Block) (raw : RustExtWriteColumn)
    (column : SuperhumanDocs.RustExtWriteColumn) : Prop :=
  Triple own raw.read (Leaves column own)

section
variable {own : Owned Block} {raw : RustBridgeTableInfo}
  {info : SuperhumanDocs.RustBridgeTableInfo}

theorem editableColumn_spec {column : RustBridgeColumnInfo}
    {infoColumn : SuperhumanDocs.RustBridgeColumnInfo} (h : ReadsColumn own column infoColumn) :
    Triple own (editableColumn column) fun write own' => own' = own ∧ IsWriteColumn own write
      { handle := infoColumn.column.handle
        capabilities := infoColumn.column.capabilities } := by
  obtain ⟨record, boxed, hhandle, hcapabilities, hderef, hread⟩ := h.column
  refine hderef.leaves_bind (Triple.pure ⟨rfl, ?_⟩)
  rw [hhandle, hcapabilities]
  exact hread.leaves_bind (Triple.pure ⟨rfl, rfl⟩)

theorem updateColumn_spec (h : ReadsTable own raw info) (assignment : Assignment) :
    Triple own (updateColumn raw assignment) fun write own' => own' = own ∧
      IsWriteColumn own write (SuperhumanDocs.updateColumn info assignment) := by
  unfold updateColumn SuperhumanDocs.updateColumn
  cases hcolumn : raw.columns[assignment.column]? with
  | none =>
    have hinfo : info.columns[assignment.column]? = none := by
      rw [List.getElem?_eq_none_iff] at hcolumn ⊢
      rwa [← h.columns.length_eq]
    rw [hinfo]
    exact Triple.pure ⟨rfl, Triple.pure ⟨rfl, rfl⟩⟩
  | some column =>
    obtain ⟨infoColumn, hinfo, hreads⟩ := h.column hcolumn
    rw [hinfo]
    exact editableColumn_spec hreads

/-- The columns of the call of a sink. -/
def sinkColumns : SuperhumanDocs.Sink → List SuperhumanDocs.RustExtWriteColumn
  | .insert table => editableColumns table
  | .update table assignments => assignments.map (SuperhumanDocs.updateColumn table)
  | .delete _ _ => []

theorem columns_spec {sink : Sink} {model : SuperhumanDocs.Sink} (h : IsSink own sink model) :
    Triple own sink.columns fun columns own' => own' = own ∧
      List.Forall₂ (IsWriteColumn own) columns (sinkColumns model) := by
  cases h with
  | insert h =>
    have hcolumns := Triple.mapM_rel h.columns fun _ _ => editableColumn_spec
    refine hcolumns.mono ?_
    rintro columns _ ⟨rfl, hcolumns⟩
    refine ⟨rfl, ?_⟩
    unfold sinkColumns editableColumns
    rwa [List.forall₂_map_right_iff]
  | @update raw info assignments h =>
    have hassignments : List.Forall₂ Eq assignments assignments :=
      List.forall₂_same.2 fun _ _ => rfl
    have hupdate : ∀ a b, a = b → Triple own (updateColumn raw a) fun write own' => own' = own ∧
        IsWriteColumn own write (SuperhumanDocs.updateColumn info b) := by
      rintro a _ rfl
      exact updateColumn_spec h a
    have hcolumns := Triple.mapM_rel hassignments hupdate
    refine hcolumns.mono ?_
    rintro columns _ ⟨rfl, hcolumns⟩
    refine ⟨rfl, ?_⟩
    unfold sinkColumns
    rwa [List.forall₂_map_right_iff]
  | delete rowIdIndex h => exact Triple.pure ⟨rfl, .nil⟩

end

/-! ### The values of a chunk -/

section
variable {F : Type}

theorem collect_length {rows : List (PendingRow F)} {rowIds : List String}
    {inputs : List (SuperhumanDocs.RustExtInputValue F)}
    (h : collect rows = .ok (rowIds, inputs)) :
    rowIds.length = idCount rows ∧ inputs.length = valueCount rows := by
  induction rows generalizing rowIds inputs with
  | nil =>
    cases h
    exact ⟨rfl, rfl⟩
  | cons row rows ih =>
    obtain ⟨rowId, hrowId, h⟩ := Effect.bind_eq_ok.1 h
    obtain ⟨values, hvalues, h⟩ := Effect.bind_eq_ok.1 h
    obtain ⟨⟨restIds, restInputs⟩, hrest, h⟩ := Effect.bind_eq_ok.1 h
    cases h
    obtain ⟨hids, hinputs⟩ := ih hrest
    have hidLength := (Effect.mapM_eq_ok.1 hrowId).length_eq
    have hvalueLength := (Effect.mapM_eq_ok.1 hvalues).length_eq
    simp [idCount, valueCount] at hids hinputs ⊢
    omega

/-- The rows of an insert have no ids. -/
theorem collect_insert {α : Type} (rows : List α)
    (values : α → List (Except String (SuperhumanDocs.RustExtInputValue F))) :
    collect (rows.map fun row => { rowId := none, values := values row }) =
      (rows.mapM fun row => (values row).mapM id).map
        fun (inputs : List (List _)) => ([], inputs.flatten) := by
  induction rows with
  | nil => rfl
  | cons row rows ih =>
    rw [List.map_cons, List.mapM_cons, collect, ih]
    cases (values row).mapM id with
    | error e => rfl
    | ok inputs =>
      generalize (rows.mapM fun row => (values row).mapM id) = rest
      cases rest <;> rfl

/-- The id and the values of a row, in this order. -/
def rowParts {α : Type} (rowId : α → Except String String)
    (values : α → List (Except String (SuperhumanDocs.RustExtInputValue F))) (row : α) :
    Except String (String × List (SuperhumanDocs.RustExtInputValue F)) := do
  let rowId ← rowId row
  let values ← (values row).mapM id
  return (rowId, values)

/-- The rows of an update have both. -/
theorem collect_update {α : Type} (rows : List α) (rowId : α → Except String String)
    (values : α → List (Except String (SuperhumanDocs.RustExtInputValue F))) :
    collect (rows.map fun row => { rowId := some (rowId row), values := values row }) =
      (rows.mapM (rowParts rowId values)).map fun parts =>
        (parts.map (·.1), parts.flatMap (·.2)) := by
  induction rows with
  | nil => rfl
  | cons row rows ih =>
    rw [List.map_cons, List.mapM_cons, collect, ih, rowParts]
    dsimp only [Option.toList_some, List.mapM_cons, List.mapM_nil]
    cases rowId row with
    | error e => rfl
    | ok text =>
      cases (values row).mapM id with
      | error e => rfl
      | ok inputs => cases rows.mapM (rowParts rowId values) <;> rfl

/-- The rows of a delete have no values. -/
theorem collect_delete {α : Type} (rows : List α) (rowId : α → Except String String) :
    collect (F := F) (rows.map fun row => { rowId := some (rowId row), values := [] }) =
      (rows.mapM rowId).map fun rowIds => (rowIds, []) := by
  induction rows with
  | nil => rfl
  | cons row rows ih =>
    rw [List.map_cons, List.mapM_cons, collect, ih]
    dsimp only [Option.toList_some, List.mapM_cons, List.mapM_nil]
    cases rowId row with
    | error e => rfl
    | ok text => cases rows.mapM rowId <;> rfl

end

section
variable {F : Type} [F64 F] [SerdeJson] [DuckDb F]

theorem convert_plain {value : DuckValue F} {input : SuperhumanDocs.RustExtInputValue F}
    (h : convert value = .ok input) : Plain input := by
  cases value with
  | null type | boolean b | int i | uint n | real x =>
    cases h
    exact .inr (.inr rfl)
  | decimal width scale z | hugeint i | uhugeint n =>
    cases h
    exact .inr (.inl rfl)
  | text s typeAlias | other type text =>
    cases h
    exact .inl rfl
  | list items | array items | struct fields =>
    obtain ⟨text, -, h⟩ := Effect.bind_eq_ok.1 h
    cases h
    exact .inr (.inl rfl)

section
variable {own : Owned Block} {raw : RustBridgeTableInfo}
  {info : SuperhumanDocs.RustBridgeTableInfo}

theorem updateValue_eq (h : ReadsTable own raw info) (row : List (DuckValue F))
    (assignment : Assignment) :
    updateValue raw row assignment = SuperhumanDocs.updateValue info row assignment := by
  unfold updateValue SuperhumanDocs.updateValue
  cases hcolumn : raw.columns[assignment.column]? with
  | none =>
    have hinfo : info.columns[assignment.column]? = none := by
      rw [List.getElem?_eq_none_iff] at hcolumn ⊢
      rwa [← h.columns.length_eq]
    rw [hinfo]
  | some column =>
    obtain ⟨infoColumn, hinfo, hreads⟩ := h.column hcolumn
    rw [hinfo]
    cases assignment.expression with
    | boundRef index => rfl
    | valueDefault => exact congrArg (fun type => convert (.null type)) hreads.duckdbType
    | other => rfl

theorem updateValue_plain {row : List (DuckValue F)} {assignment : Assignment}
    {input : SuperhumanDocs.RustExtInputValue F} (h : updateValue raw row assignment = .ok input) :
    Plain input := by
  unfold updateValue at h
  cases hcolumn : raw.columns[assignment.column]? with
  | none =>
    rw [hcolumn] at h
    cases h
    exact .inr (.inr rfl)
  | some column =>
    rw [hcolumn] at h
    dsimp only at h
    cases hexpression : assignment.expression with
    | boundRef index =>
      rw [hexpression] at h
      obtain ⟨value, -, h⟩ := Effect.bind_eq_ok.1 h
      exact convert_plain h
    | valueDefault =>
      rw [hexpression] at h
      exact convert_plain h
    | other =>
      rw [hexpression] at h
      cases h

end

variable {own : Owned Block} {sink : Sink} {model : SuperhumanDocs.Sink}

/-- What is lent of a chunk is what the arrays have room for. -/
theorem rows_reserved (sink : Sink) (chunk : DataChunk F) :
    idCount (sink.rows chunk) = (sink.reserved chunk).1 ∧
      valueCount (sink.rows chunk) = (sink.reserved chunk).2 := by
  unfold Sink.rows Sink.reserved idCount valueCount
  cases sink with
  | insert table | update table assignments | delete table rowIdIndex => simp [Function.comp_def]

theorem rows_plain (sink : Sink) (chunk : DataChunk F) :
    ∀ row ∈ sink.rows chunk, ∀ input, .ok input ∈ row.values → Plain input := by
  intro pending hpending input hinput
  obtain ⟨row, -, rfl⟩ := List.mem_map.1 hpending
  cases sink with
  | insert table =>
    obtain ⟨index, -, h⟩ := List.mem_map.1 hinput
    obtain ⟨value, -, h⟩ := Effect.bind_eq_ok.1 h
    exact convert_plain h
  | update table assignments =>
    obtain ⟨assignment, -, h⟩ := List.mem_map.1 hinput
    exact updateValue_plain h
  | delete table rowIdIndex => cases hinput

/-- The call with the ids and the values of a chunk. -/
def sinkDml (sink : SuperhumanDocs.Sink) (rowCount : ℕ) (rowIds : List String)
    (inputs : List (SuperhumanDocs.RustExtInputValue F)) : Dml F :=
  match sink with
  | .insert table => .insert (sinkColumns sink) inputs rowCount table.columns.length
  | .update _ _ => .update rowIds (sinkColumns sink) inputs
  | .delete _ _ => .delete rowIds

/-- The loop over a chunk gives the values of the model, or throws where it does. -/
theorem call_eq (h : IsSink own sink model) (chunk : DataChunk F) :
    model.call chunk = (collect (sink.rows chunk)).map fun (rowIds, inputs) =>
      sinkDml model chunk.rows.length rowIds inputs := by
  unfold Sink.rows
  cases h with
  | @insert raw info h =>
    have hlength : raw.columns.length = info.columns.length := h.columns.length_eq
    have hinsert := collect_insert chunk.rows fun row =>
      (List.range raw.columns.length).map fun index => do convert (← chunkValue row index)
    simp only [List.mapM_map, Function.id_comp] at hinsert
    dsimp only
    rw [hinsert, hlength]
    show insertCall info chunk = _
    unfold insertCall
    generalize List.mapM (m := Except String) _ chunk.rows = values
    cases values <;> rfl
  | @update raw info assignments h =>
    have hvalues : updateValue raw = SuperhumanDocs.updateValue (F := F) info :=
      funext₂ (updateValue_eq h)
    have hupdate := collect_update chunk.rows (chunkRowId (chunk.columnCount - 1)) fun row =>
      assignments.map (updateValue raw row)
    unfold rowParts at hupdate
    simp only [List.mapM_map, Function.id_comp] at hupdate
    dsimp only
    rw [hupdate, hvalues]
    show updateCall info assignments chunk = _
    unfold updateCall
    generalize List.mapM (m := Except String) _ chunk.rows = parts
    cases parts <;> rfl
  | @delete raw info rowIdIndex h =>
    dsimp only
    rw [collect_delete]
    show deleteCall rowIdIndex chunk = _
    unfold deleteCall
    generalize List.mapM (m := Except String) _ chunk.rows = rowIds
    cases rowIds <;> rfl

end

section
variable {F : Type} {own arrays : Owned Block} {sink : Sink} {model : SuperhumanDocs.Sink}
  {rowIdBuffer textBuffer : Buffer} {ids texts : List String}

/-- **Rust reads the call**, while the catalog and both arrays are there. -/
theorem readCall_spec (h : IsSink own sink model)
    (harrays : IsArrays rowIdBuffer textBuffer ids texts arrays)
    {columns : List RustExtWriteColumn}
    (hcolumns : List.Forall₂ (IsWriteColumn own) columns (sinkColumns model))
    {rawIds : List RustExtString} {rowIds : List String}
    (hids : List.Forall₂ (IsLent rowIdBuffer.block ids) rawIds rowIds)
    {raws : List (RustExtInputValue F)} {inputs : List (SuperhumanDocs.RustExtInputValue F)}
    (hvalues : List.Forall₂ (IsLentValue textBuffer.block texts) raws inputs) {rowCount : ℕ}
    (hrows : ∀ table, sink = .insert table → inputs.length = rowCount * table.columns.length)
    (hassignments : ∀ table assignments, sink = .update table assignments →
      inputs.length = rowIds.length * assignments.length) :
    Triple (own + arrays) (sink.readCall columns rawIds raws rowCount)
      (Leaves (sinkDml model rowCount rowIds inputs) (own + arrays)) := by
  have hreadColumns : Triple (own + arrays) (columns.mapM RustExtWriteColumn.read)
      (Leaves (sinkColumns model) (own + arrays)) := by
    have hread := Triple.mapM_leaves (g := fun column => column) hcolumns fun raw column hcolumn =>
      Triple.leaves_frame hcolumn arrays
    rwa [List.map_id'] at hread
  have hreadIds : Triple (own + arrays) (rawIds.mapM RustExtString.asStr)
      (Leaves rowIds (own + arrays)) := by
    have hread := Triple.mapM_leaves (g := fun text => text) hids fun raw text hlent =>
      (harrays.rowId hlent).leaves_frame own
    rwa [List.map_id', add_comm] at hread
  have hreadValues : Triple (own + arrays) (raws.mapM RustExtInputValue.read)
      (Leaves inputs (own + arrays)) := by
    have hread := Triple.mapM_leaves (g := fun input => input) hvalues fun raw input hlent =>
      (harrays.value hlent).leaves_frame own
    rwa [List.map_id', add_comm] at hread
  have hslice (len : ℕ) (hlen : inputs.length = len) :
      Triple (own + arrays) (lentSlice raws len) (Leaves raws (own + arrays)) := by
    have hlength : len = raws.length := hlen ▸ hvalues.length_eq.symm
    rw [lentSlice, hlength, if_pos (Nat.le_refl _), List.take_length]
    exact Triple.pure ⟨rfl, rfl⟩
  unfold Sink.readCall
  refine hreadColumns.leaves_bind ?_
  cases h with
  | @insert raw info h =>
    have hlength : raw.columns.length = info.columns.length := h.columns.length_eq
    refine (hslice _ (hrows raw rfl)).leaves_bind (hreadValues.leaves_bind (Triple.pure ⟨?_, rfl⟩))
    rw [hlength]
    rfl
  | @update raw info assignments h =>
    have hcolumnCount : (sinkColumns (.update info assignments)).length = assignments.length :=
      List.length_map _
    refine (hslice _ ?_).leaves_bind (hreadIds.leaves_bind (hreadValues.leaves_bind ?_))
    · rw [hcolumnCount, hids.length_eq]
      exact hassignments raw assignments rfl
    · exact Triple.pure ⟨rfl, rfl⟩
  | delete rowIdIndex h => exact hreadIds.leaves_bind (Triple.pure ⟨rfl, rfl⟩)

end

section
variable {F : Type} [F64 F] [SerdeJson] [DuckDb F] [Allocator Block] {own : Owned Block}
  {sink : Sink} {model : SuperhumanDocs.Sink}

/-- **A call in memory**: Rust reads the call of the model, and the arrays are freed. -/
theorem Sink.call_matches (h : IsSink own sink model) (chunk : DataChunk F) :
    Triple own (sink.call chunk) (Leaves (model.call chunk) own) := by
  rw [call_eq h chunk]
  unfold Sink.call
  refine (columns_spec h).bind ?_
  rintro columns own' ⟨hown, hcolumns⟩
  rw [hown, ← zero_add own]
  refine ((IsBuffer.empty (α := String)).reserve _).frame_bind ?_
  rintro rowIdBuffer ownIds ⟨hidBuffer, hidRoom⟩
  rw [← zero_add (ownIds + own)]
  refine ((IsBuffer.empty (α := String)).reserve _).frame_bind ?_
  rintro textBuffer ownTexts ⟨htextBuffer, htextRoom⟩
  rw [show ownTexts + (ownIds + own) = ownIds + ownTexts + own by abel, zero_add]
  have harrays : IsArrays rowIdBuffer textBuffer [] [] (ownIds + ownTexts) :=
    ⟨ownIds, ownTexts, hidBuffer, htextBuffer, rfl⟩
  obtain ⟨hids, hvalues⟩ := rows_reserved sink chunk
  have hidRoom : ([] : List String).length + idCount (sink.rows chunk) ≤ rowIdBuffer.capacity := by
    rw [hids, List.length_nil, Nat.zero_add]; exact hidRoom
  have htextRoom : ([] : List String).length + valueCount (sink.rows chunk) ≤
      textBuffer.capacity := by
    rw [hvalues, List.length_nil, Nat.zero_add]; exact htextRoom
  refine (lendRows_spec harrays hidRoom htextRoom (rows_plain sink chunk)).frame_bind ?_
  rintro ⟨result, rowIdBuffer', textBuffer'⟩ arrays ⟨moreIds, more, rfl, rfl, harrays, hresult⟩
  dsimp only
  cases hcollect : collect (sink.rows chunk) with
  | error e =>
    rw [hcollect] at hresult
    dsimp only at hresult
    rw [hresult]
    exact harrays.destroy _ own
  | ok collected =>
    obtain ⟨rowIds, inputs⟩ := collected
    rw [hcollect] at hresult
    obtain ⟨rawIds, raws, hraws, hlentIds, hlentValues⟩ := hresult
    dsimp only at hraws
    rw [hraws]
    obtain ⟨hidLength, hinputLength⟩ := collect_length hcollect
    rw [hids] at hidLength
    rw [hvalues] at hinputLength
    rw [add_comm]
    refine (readCall_spec h harrays hcolumns hlentIds hlentValues ?_ ?_).leaves_bind ?_
    · rintro table rfl
      exact hinputLength
    · rintro table assignments rfl
      rw [hinputLength, hidLength]
      rfl
    · rw [add_comm]
      exact harrays.destroy _ own

end

end SuperhumanDocs.Raw
