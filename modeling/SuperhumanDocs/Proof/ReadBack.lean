import SuperhumanDocs.Binary.Shortest
import SuperhumanDocs.Proof.Literal

/-!
# Reading back what was written

A value that DuckDB writes is sent as scalars of the SDK. A server lists a scalar as it was sent,
a number with any digits but no exponent and a text perhaps as rich text, and the scan turns the
listed cell into a value again.

* `unfence_listed`: which texts are the same after that.
* `item_trip`: the trip of one value, a case for each class of formats.
* `written_reads_back_iff`: which values of a column are read back as they were written.
-/

set_option autoImplicit false

namespace SuperhumanDocs

open Binary (Binary64 F64)
open Effect (bind_eq_ok mapM_eq_ok)
open Json (Number SerdeJson)

/-! ## Texts in a listing -/

/-- How a server lists a text. -/
inductive TextForm where
  | plain
  | fenced
  | fencedLines
deriving DecidableEq, Repr

def TextForm.listed : TextForm → String → String
  | plain, s => s
  | fenced, s => "```" ++ s ++ "```"
  | fencedLines, s => "```\n" ++ s ++ "\n```"

/-- The texts that are read back. -/
def TextForm.Keeps : TextForm → String → Prop
  | plain, s => ¬ ∃ inner, s = "```" ++ inner ++ "```"
  | fenced, s => ¬ ∃ rest, s = "\n" ++ rest ∨ s = rest ++ "\n"
  | fencedLines, _ => True

/-- A text without a newline at either end. -/
def trimNewlines (inner : String) : String :=
  (stripSuffix ((stripPrefix inner "\n").getD inner) "\n").getD
    ((stripPrefix inner "\n").getD inner)

theorem stripPrefix_append (affix inner : String) : stripPrefix (affix ++ inner) affix = some inner :=
  stripPrefix_eq_some.2 String.toList_append.symm

theorem stripSuffix_append (inner affix : String) : stripSuffix (inner ++ affix) affix = some inner :=
  stripSuffix_eq_some.2 String.toList_append.symm

theorem unfence_fence (inner : String) :
    unfenceRichText ("```" ++ inner ++ "```") = trimNewlines inner := by
  unfold unfenceRichText
  rw [String.append_assoc, stripPrefix_append, Option.bind_some, stripSuffix_append]
  rfl

/-- Only a fenced text is changed. -/
theorem unfence_eq_self {s : String} (h : ¬ ∃ inner, s = "```" ++ inner ++ "```") :
    unfenceRichText s = s := by
  unfold unfenceRichText
  split
  · rfl
  · rename_i inner hinner
    obtain ⟨opened, hopened, hclosed⟩ := Option.bind_eq_some_iff.1 hinner
    refine absurd ⟨inner, ?_⟩ h
    rw [← String.toList_inj, ← stripPrefix_eq_some.1 hopened, ← stripSuffix_eq_some.1 hclosed]
    simp

theorem length_trimNewlines (inner : String) :
    (trimNewlines inner).toList.length ≤ inner.toList.length :=
  (length_stripSuffix _ _).trans (length_stripPrefix _ _)

theorem trimNewlines_eq_self_iff {s : String} :
    trimNewlines s = s ↔ ¬ ∃ rest, s = "\n" ++ rest ∨ s = rest ++ "\n" := by
  constructor
  · rintro htrim ⟨rest, hs | hs⟩
    · -- what follows the newline is shorter
      have hlength := length_stripSuffix rest "\n"
      rw [hs, trimNewlines, stripPrefix_append, Option.getD_some] at htrim
      rw [htrim] at hlength
      simp at hlength
    · rcases hprefix : stripPrefix s "\n" with - | inner
      · have hlength := congrArg (fun t => t.toList.length) htrim
        rw [trimNewlines, hprefix, Option.getD_none, hs, stripSuffix_append] at hlength
        simp at hlength
      · have hlength := length_stripSuffix inner "\n"
        rw [trimNewlines, hprefix, Option.getD_some] at htrim
        rw [htrim, ← stripPrefix_eq_some.1 hprefix] at hlength
        simp at hlength
  · intro h
    have hprefix : stripPrefix s "\n" = none := by
      rw [Option.eq_none_iff_forall_ne_some]
      intro rest hrest
      refine h ⟨rest, .inl ?_⟩
      rw [← String.toList_inj, String.toList_append, stripPrefix_eq_some.1 hrest]
    have hsuffix : stripSuffix s "\n" = none := by
      rw [Option.eq_none_iff_forall_ne_some]
      intro rest hrest
      refine h ⟨rest, .inr ?_⟩
      rw [← String.toList_inj, String.toList_append, stripSuffix_eq_some.1 hrest]
    rw [trimNewlines, hprefix, Option.getD_none, hsuffix, Option.getD_none]

/-- **Which texts are read back.** -/
theorem unfence_listed (form : TextForm) (s : String) :
    unfenceRichText (form.listed s) = s ↔ form.Keeps s := by
  cases form with
  | plain =>
    refine ⟨?_, unfence_eq_self⟩
    rintro hunfence ⟨inner, hs⟩
    have hlength := length_trimNewlines inner
    rw [TextForm.listed, hs, unfence_fence] at hunfence
    rw [hunfence] at hlength
    simp at hlength
    omega
  | fenced =>
    rw [TextForm.listed, unfence_fence]
    exact trimNewlines_eq_self_iff
  | fencedLines =>
    have hlisted : TextForm.fencedLines.listed s = "```" ++ ("\n" ++ (s ++ "\n")) ++ "```" := by
      rw [TextForm.listed, ← String.toList_inj]
      simp
    refine iff_of_true ?_ trivial
    rw [hlisted, unfence_fence, trimNewlines, stripPrefix_append, Option.getD_some,
      stripSuffix_append, Option.getD_some]

/-! ## Cells in a listing -/

/-- The JSON value a server lists for a scalar that was sent. -/
inductive Lists (form : TextForm) : Operations.ScalarValue Binary64 → Json.Value → Prop
  | text (s : String) : Lists form (.text s) (.string (form.listed s))
  | number {x : Binary64} {sent n : Number} (hsent : F64.toNumber x = some sent)
    (hn : n.toRat = sent.toRat) (hfixed : n.lexeme.exp = none) :
    Lists form (.number x) (.number n)
  | boolean (b : Bool) : Lists form (.boolean b) (.bool b)

inductive ListsCell (form : TextForm) : Operations.Value Binary64 → Json.Value → Prop
  | scalar {item : Operations.ScalarValue Binary64} {listed : Json.Value}
    (h : Lists form item listed) : ListsCell form (.scalar item) listed
  | flatList {items : List (Operations.ScalarValue Binary64)} {listed : List Json.Value}
    (h : List.Forall₂ (Lists form) items listed) : ListsCell form (.flatList items) (.array listed)

/-! ## Formats without a type of their own -/

/-- A format that DuckDB sees as JSON. -/
structure Unsupported (formatType : String) : Prop where
  type : scalarType formatType = "VARCHAR"
  text : ∀ (F : Type) [F64 F] (v : Json.Value), normalizedValue F formatType v = some v.print
  simple : ∀ s : String, simpleCellValue formatType (.string s) = .ok (.string s)

theorem unsupported_of_alias {formatType : String} (h : logicalTypeAlias formatType = "JSON") :
    Unsupported formatType := by
  unfold logicalTypeAlias at h
  split at h
  case h_19 =>
    refine ⟨by simp [scalarType, *], fun F _ v => by simp [normalizedValue, *], fun s => ?_⟩
    simp [simpleCellValue, Json.Value.isNull, Json.Value.asObject, Json.Value.asArray, *]
  all_goals exact absurd h (by decide)

/-- The formats of texts, numbers and booleans do not look into a value. -/
theorem simpleCellValue_text {formatType : String} (h : formatType.toLower ∈ textFormats)
    (s : String) : simpleCellValue formatType (.string s) = .ok (.string s) := by
  simp only [textFormats, List.mem_cons, List.not_mem_nil, or_false] at h
  rcases h with h | h | h <;>
    simp [simpleCellValue, h, Json.Value.isNull, Json.Value.asObject, Json.Value.asArray]

theorem simpleCellValue_boolean {formatType : String} (h : formatType.toLower = "checkbox")
    (b : Bool) : simpleCellValue formatType (.bool b) = .ok (.bool b) := by
  simp [simpleCellValue, h, Json.Value.isNull, Json.Value.asObject, Json.Value.asArray]

/-! ## What a listed column reads -/

theorem Column.Listed.not_system {column : Column} (h : column.Listed) :
    supports column.capabilities rustExtColumnSystem = false := by
  obtain ⟨calculated, hcapabilities⟩ := h.capabilities
  rw [hcapabilities]
  cases calculated <;> cases column.isArray <;> rfl

/-- What a listed column reads from its cell. -/
theorem scannedValue_cell {F : Type} [F64 F] [SerdeJson] [DuckDb F] {column : Column}
    (hlisted : column.Listed) {row : Row} {cell : Cell} (hcell : firstCell column row = some cell) :
    (scannedValue column row : DuckValue F) =
      scanValueToValue (scanCell F column cell.value) (columnType F column) := by
  rw [← scanValue_of_firstCell F hlisted.not_system hcell]
  rfl

/-! ## Values of a format -/

/-- A value of the DuckDB type of a format; a decimal has at most 15 significant digits. -/
inductive FormatValue (formatType : String) : DuckValue Binary64 → Prop
  | boolean (hformat : formatType.toLower = "checkbox") (b : Bool) :
    FormatValue formatType (.boolean b)
  | decimal (hformat : formatType.toLower ∈ numericFormats) (z : Int) (hz : |z| < 10 ^ 38)
    (digits zeros : Nat) (hdigits : digits < 10 ^ 15) (hvalue : z.natAbs = digits * 10 ^ zeros) :
    FormatValue formatType (.decimal 38 20 z)
  | text (hformat : formatType.toLower ∈ textFormats) (s : String) :
    FormatValue formatType (.text s "")
  | json (halias : logicalTypeAlias formatType = "JSON") (s : String) :
    FormatValue formatType (.text s "JSON")

/-- The values of a format that are read back. -/
inductive Survives (form : TextForm) : DuckValue Binary64 → Prop
  | boolean (b : Bool) : Survives form (.boolean b)
  | decimal (z : Int) : Survives form (.decimal 38 20 z)
  | text (s : String) (h : form.Keeps s) : Survives form (.text s "")

theorem Survives.text_alias {form : TextForm} {s typeAlias : String}
    (h : Survives form (.text s typeAlias)) : typeAlias = "" := by
  cases h
  rfl

section
variable [SerdeJson] [DuckDb Binary64]

/-- The DuckDB type of a scalar of a format. -/
def itemType (formatType : String) : LogicalType :=
  applyValueTypeAlias (DuckDb.parseType Binary64 (scalarType formatType))
    (logicalTypeAlias formatType)

/-- The trip of a value: it arrives as a JSON value, is sent as a scalar, and what is listed for
that is scanned. -/
structure Trip (form : TextForm) (formatType : String) (value : DuckValue Binary64)
    (v : Json.Value) (item : Operations.ScalarValue Binary64) : Prop where
  tree : (rustBridgeJsonValue value).value = some v
  readable : ∀ depth, v.readable (depth + 1) = true
  canonical : v.canonicalize = v
  document : document value = .ok v
  written : writtenItem formatType v = .ok item
  lists : ∃ listed, Lists form item listed
  scanned : ∀ listed, Lists form item listed → listed.isNull = false ∧
    ∃ text, normalizedValue Binary64 formatType listed = some text ∧
      ((scanTextToValue text (itemType formatType) : DuckValue Binary64) = value ↔
        Survives form value)

variable {form : TextForm} {formatType : String}

theorem trip_boolean (hformat : formatType.toLower = "checkbox") (b : Bool) :
    Trip form formatType (.boolean b) (.bool b) (.boolean b) where
  tree := rfl
  readable _ := rfl
  canonical := rfl
  document := document_boolean b
  written := bind_eq_ok.2 ⟨_, simpleCellValue_boolean hformat b, rfl⟩
  lists := ⟨_, .boolean b⟩
  scanned listed h := by
    cases h
    have htype : itemType formatType = .boolean := by
      rw [itemType, show scalarType formatType = "BOOLEAN" by simp [scalarType, hformat],
        show logicalTypeAlias formatType = "" by simp [logicalTypeAlias, hformat],
        DuckDb.parseType_boolean]
      rfl
    refine ⟨rfl, if b then "true" else "false", ?_, iff_of_true ?_ (.boolean b)⟩
    · cases b <;>
        simp [normalizedValue, hformat, scalarText, Json.Value.print, Json.Value.chars]
    · have hcast := DuckDb.cast_boolean_name (F := Binary64) b
      simp only [LogicalType.boolean] at htype hcast
      simp only [htype, scanTextToValue, hcast]

theorem trip_decimal (hformat : formatType.toLower ∈ numericFormats) {z : Int}
    (hz : |z| < 10 ^ 38) {digits zeros : Nat} (hdigits : digits < 10 ^ 15)
    (hvalue : z.natAbs = digits * 10 ^ zeros) :
    ∃ v item, Trip form formatType (.decimal 38 20 z) v item := by
  obtain ⟨n, hn, hplain, hdocument, htree⟩ :=
    (DuckValue.Denotes.decimal 38 20 z (by decide) (by decide) hz : DuckValue.Denotes
      (.decimal 38 20 z : DuckValue Binary64) _).document
  -- the number has few digits, so it survives binary64
  obtain ⟨digits, zeros, hdigits, hzeros, hvalue⟩ :
      ∃ digits zeros : Nat, digits < 10 ^ 15 ∧ zeros < 38 ∧ z.natAbs = digits * 10 ^ zeros := by
    rcases Nat.eq_zero_or_pos digits with rfl | hpos
    · exact ⟨0, 0, by decide, by decide, by simpa using hvalue⟩
    · refine ⟨digits, zeros, hdigits, ?_, hvalue⟩
      have hle : 10 ^ zeros ≤ z.natAbs := hvalue ▸ Nat.le_mul_of_pos_left _ hpos
      have hlt : z.natAbs < 10 ^ 38 := by
        rw [Int.abs_eq_natAbs] at hz
        exact_mod_cast hz
      exact (Nat.pow_lt_pow_iff_right (by decide)).1 (hle.trans_lt hlt)
  have hmagnitude : Binary64.magnitude n.lexeme.decimal =
      digits * (10 : ℚ) ^ ((zeros : Int) - 20) := by
    rw [Binary64.magnitude, ← Binary64.abs_toRat, ← Number.toRat, hn, abs_div, ← Int.cast_abs,
      Int.abs_eq_natAbs, hvalue, zpow_sub₀ (by norm_num), abs_of_pos (by positivity)]
    push_cast
    rw [zpow_natCast, mul_div_assoc]
    norm_num
  obtain ⟨hfinite, sent, hsent, hrat⟩ :=
    Binary64.toNumber_ofDecimal hdigits (by omega) (by omega) hmagnitude
  have hparse : asF64 n = some (Binary64.ofDecimal n.lexeme.decimal) := by
    have hlex : (F64.parse n.text : Option Binary64) =
        some (Binary64.ofDecimal n.lexeme.decimal) := by
      simp only [F64.parse, n.lex_text, Json.Lexeme.hasDigits_of_isJson n.lexeme_isJson, if_true]
      rfl
    rw [asF64, hlex, Option.filter_some]
    exact if_pos hfinite
  refine ⟨.number n, .number (Binary64.ofDecimal n.lexeme.decimal), htree, fun _ => hplain, rfl,
    hdocument, ?_, ⟨_, .number hsent rfl (Binary64.exp_toNumber hsent)⟩, ?_⟩
  · refine bind_eq_ok.2 ⟨_, simpleCellValue_numeric hformat n, ?_⟩
    simp only [scalarValue, hparse]
  · intro listed h
    cases h with
    | number hsent' hm hfixed =>
      cases hsent.symm.trans hsent'
      have htype : itemType formatType = .decimal 38 20 "" := by
        simp only [numericFormats, List.mem_cons, List.not_mem_nil, or_false] at hformat
        have hscalar : scalarType formatType = "DECIMAL(38,20)" := by
          rcases hformat with h | h | h | h <;> simp [scalarType, h]
        have halias : logicalTypeAlias formatType = "" := by
          rcases hformat with h | h | h | h <;> simp [logicalTypeAlias, h]
        rw [itemType, hscalar, halias, DuckDb.parseType_decimal]
        rfl
      refine ⟨rfl, _, normalizedValue_number hformat _, iff_of_true ?_ (.decimal z)⟩
      have hcast := DuckDb.cast_decimal_fixed (F := Binary64) _ 38 20 z hz
        (hm.trans (hrat.trans hn)) hfixed
      simp only [htype, scanTextToValue, hcast]

theorem trip_text (hformat : formatType.toLower ∈ textFormats) (s : String) :
    Trip form formatType (.text s "") (.string s) (.text s) where
  tree := by rw [rustBridgeJsonValue, DuckDb.toString_text, MutVal.value]
  readable _ := rfl
  canonical := rfl
  document := document_text s ""
  written := bind_eq_ok.2 ⟨_, simpleCellValue_text hformat s, rfl⟩
  lists := ⟨_, .text s⟩
  scanned listed h := by
    cases h
    have hnormalized : normalizedValue Binary64 formatType (.string (form.listed s)) =
        some (unfenceRichText (form.listed s)) := by
      simp only [textFormats, List.mem_cons, List.not_mem_nil, or_false] at hformat
      rcases hformat with h | h | h <;> simp [normalizedValue, h, scalarText]
    have htype : itemType formatType = .varchar := by
      simp only [textFormats, List.mem_cons, List.not_mem_nil, or_false] at hformat
      have hscalar : scalarType formatType = "VARCHAR" := by
        rcases hformat with h | h | h <;> simp [scalarType, h]
      have halias : logicalTypeAlias formatType = "" := by
        rcases hformat with h | h | h <;> simp [logicalTypeAlias, h]
      rw [itemType, hscalar, halias, DuckDb.parseType_varchar]
      rfl
    refine ⟨rfl, _, hnormalized, ?_⟩
    have hscan : (scanTextToValue (unfenceRichText (form.listed s)) (itemType formatType) :
        DuckValue Binary64) = .text (unfenceRichText (form.listed s)) "" := by
      rw [htype]
      rfl
    rw [hscan, DuckValue.text.injEq, unfence_listed, and_iff_left rfl]
    constructor
    · intro hkeeps
      exact .text s hkeeps
    · intro hsurvives
      cases hsurvives
      assumption

/-- The text of a JSON column comes back as the text of a JSON string. -/
theorem trip_json (halias : logicalTypeAlias formatType = "JSON") (s : String) :
    Trip form formatType (.text s "JSON") (.string s) (.text s) where
  tree := by rw [rustBridgeJsonValue, DuckDb.toString_text, MutVal.value]
  readable _ := rfl
  canonical := rfl
  document := document_text s "JSON"
  written := bind_eq_ok.2 ⟨_, (unsupported_of_alias halias).simple s, rfl⟩
  lists := ⟨_, .text s⟩
  scanned listed h := by
    cases h
    have htype : itemType formatType = .simple .varchar "JSON" := by
      rw [itemType, (unsupported_of_alias halias).type, halias, DuckDb.parseType_varchar]
      rfl
    refine ⟨rfl, _, (unsupported_of_alias halias).text Binary64 _, iff_of_false ?_ ?_⟩
    · intro hscan
      rw [htype] at hscan
      have hprint : (Json.Value.string (form.listed s)).print = s := by
        injection hscan
      have hlength := congrArg (fun t => t.toList.length) hprint
      have hquote := Json.length_quote (form.listed s)
      have hlisted : s.toList.length ≤ (form.listed s).toList.length := by
        cases form <;> simp [TextForm.listed] <;> omega
      simp only [Json.Value.toList_print, Json.Value.chars] at hlength
      omega
    · intro hsurvives
      exact absurd hsurvives.text_alias (by decide)

/-- **The trip of a value of a format.** -/
theorem item_trip {value : DuckValue Binary64} (h : FormatValue formatType value) :
    ∃ v item, Trip form formatType value v item := by
  cases h with
  | boolean hformat b => exact ⟨_, _, trip_boolean hformat b⟩
  | decimal hformat z hz digits zeros hdigits hvalue =>
    exact trip_decimal hformat hz hdigits hvalue
  | text hformat s => exact ⟨_, _, trip_text hformat s⟩
  | json halias s => exact ⟨_, _, trip_json halias s⟩

/-! ## Lists of values -/

/-- The value of an item of an array cell. -/
def scanItem (formatType : String) (listed : Json.Value) : DuckValue Binary64 :=
  let arrayValue := scanArrayValue Binary64 formatType listed
  if arrayValue.isNull then .null (itemType formatType)
  else scanTextToValue arrayValue.value (itemType formatType)

theorem Trip.item {value : DuckValue Binary64} {v : Json.Value}
    {item : Operations.ScalarValue Binary64} (h : Trip form formatType value v item)
    {listed : Json.Value} (hlisted : Lists form item listed) :
    scanItem formatType listed = value ↔ Survives form value := by
  obtain ⟨hnull, text, htext, hscan⟩ := h.scanned listed hlisted
  have hitem : scanItem formatType listed = scanTextToValue text (itemType formatType) := by
    simp only [scanItem, scanArrayValue, hnull, htext, Bool.false_eq_true, if_false]
  rw [hitem, hscan]

/-- The trip of the items of a list. -/
structure ItemsTrip (form : TextForm) (formatType : String) (values : List (DuckValue Binary64))
    (vs : List Json.Value) (items : List (Operations.ScalarValue Binary64)) : Prop where
  tree : arrValues (rustBridgeJsonItems values) = some vs
  readable : ∀ depth, Json.readableItems (depth + 1) vs = true
  canonical : Json.canonicalizeItems vs = vs
  written : vs.mapM (writtenItem formatType) = .ok items
  lists : ∃ listed, List.Forall₂ (Lists form) items listed
  scanned : ∀ listed, List.Forall₂ (Lists form) items listed →
    (listed.map (scanItem formatType) = values ↔ ∀ value ∈ values, Survives form value)

theorem items_trip {values : List (DuckValue Binary64)}
    (h : ∀ value ∈ values, FormatValue formatType value) :
    ∃ vs items, ItemsTrip form formatType values vs items := by
  induction values with
  | nil =>
    refine ⟨[], [], rfl, fun _ => rfl, rfl, rfl, ⟨[], .nil⟩, fun listed hlisted => ?_⟩
    cases hlisted
    simp
  | cons value values ih =>
    obtain ⟨hvalue, hvalues⟩ := List.forall_mem_cons.1 h
    obtain ⟨v, item, htrip⟩ : ∃ v item, Trip form formatType value v item := item_trip hvalue
    obtain ⟨vs, items, htrips⟩ := ih hvalues
    obtain ⟨listed, hlisted⟩ := htrip.lists
    obtain ⟨more, hmore⟩ := htrips.lists
    refine ⟨v :: vs, item :: items, ?_, fun depth => ?_, ?_, ?_, ⟨_, .cons hlisted hmore⟩, ?_⟩
    · rw [rustBridgeJsonItems, arrValues, htrip.tree, htrips.tree]
    · rw [Json.readableItems, htrip.readable, htrips.readable, Bool.and_self]
    · rw [Json.canonicalizeItems, htrip.canonical, htrips.canonical]
    · exact mapM_eq_ok.2 (.cons htrip.written (mapM_eq_ok.1 htrips.written))
    · intro all hall
      cases hall with
      | cons hhead htail =>
        rw [List.map_cons, List.cons.injEq, htrip.item hhead, htrips.scanned _ htail,
          List.forall_mem_cons]

/-! ## Columns -/

/-- A value of the DuckDB type of a column. -/
inductive ColumnValue (column : Column) : DuckValue Binary64 → Prop
  | scalar (harray : column.isArray = false) {value : DuckValue Binary64}
    (h : FormatValue column.formatType value) : ColumnValue column value
  | list (harray : column.isArray = true) (htype : scalarType column.formatType ∈ comparedTypes)
    {values : List (DuckValue Binary64)}
    (h : ∀ value ∈ values, FormatValue column.formatType value) : ColumnValue column (.list values)

/-- The values of a column that are read back: all the items are. -/
def ColumnSurvives (form : TextForm) (value : DuckValue Binary64) : Prop :=
  match value with
  | .list values => ∀ value ∈ values, Survives form value
  | value => Survives form value

variable (SerdeJson) in
/-- DuckDB reads the name of a list type by that of its items. -/
def ParsesLists : Prop :=
  ∀ name ∈ comparedTypes,
    DuckDb.parseType Binary64 (name ++ "[]") = .list (DuckDb.parseType Binary64 name) ""

theorem columnType_list (hparse : ParsesLists) {column : Column} (hlisted : column.Listed)
    (harray : column.isArray = true) (htype : scalarType column.formatType ∈ comparedTypes) :
    columnType Binary64 column = .list (itemType column.formatType) "" := by
  have hname : column.duckdbType = scalarType column.formatType ++ "[]" := by
    rw [hlisted.duckdbType, logicalType, if_pos harray]
    rfl
  rw [columnType, hname, hparse _ htype, hlisted.duckdbTypeAlias, itemType]
  by_cases halias : (logicalTypeAlias column.formatType).isEmpty = true
  · unfold applyValueTypeAlias
    rw [if_pos halias, if_pos halias]
  · rw [applyValueTypeAlias, if_neg halias]

theorem itemType_ne_list (htype : scalarType formatType ∈ comparedTypes) (child : LogicalType)
    (typeAlias : String) : itemType formatType ≠ .list child typeAlias := by
  intro hlist
  cases format_cases htype with
  | checkbox hformat htype halias =>
    rw [itemType, htype, halias, DuckDb.parseType_boolean] at hlist
    cases hlist
  | numeric hformat htype halias =>
    rw [itemType, htype, halias, DuckDb.parseType_decimal] at hlist
    cases hlist
  | text hformat htype halias | unsupported hformat htype halias htext =>
    rw [itemType, htype, halias, DuckDb.parseType_varchar] at hlist
    cases hlist

omit [SerdeJson] [DuckDb Binary64] in
theorem FormatValue.scalarType_mem {value : DuckValue Binary64}
    (h : FormatValue formatType value) : scalarType formatType ∈ comparedTypes := by
  cases h with
  | boolean hformat b => simp [scalarType, hformat, comparedTypes]
  | decimal hformat z hz digits zeros hdigits hvalue =>
    simp only [numericFormats, List.mem_cons, List.not_mem_nil, or_false] at hformat
    rcases hformat with h | h | h | h <;> simp [scalarType, h, comparedTypes]
  | text hformat s =>
    simp only [textFormats, List.mem_cons, List.not_mem_nil, or_false] at hformat
    rcases hformat with h | h | h <;> simp [scalarType, h, comparedTypes]
  | json halias s => simp [(unsupported_of_alias halias).type, comparedTypes]

/-- The cell that is written and what is read of a listing of it. -/
structure CellTrip (form : TextForm) (column : Column) (value : DuckValue Binary64)
    (cell : Operations.Value Binary64) : Prop where
  written : ∃ input, convert value = .ok input ∧ cellValue column input = .ok cell
  lists : ∃ listed, ListsCell form cell listed
  scanned : ∀ listed, ListsCell form cell listed →
    ((scanValueToValue (scanCell Binary64 column listed) (columnType Binary64 column) :
      DuckValue Binary64) = value ↔ ColumnSurvives form value)

theorem scalar_trip {column : Column} (hlisted : column.Listed) (harray : column.isArray = false)
    {value : DuckValue Binary64} (h : FormatValue column.formatType value) :
    ∃ cell, CellTrip form column value cell := by
  obtain ⟨v, item, htrip⟩ : ∃ v item, Trip form column.formatType value v item := item_trip h
  obtain ⟨input, hinput, hv⟩ := document_eq_ok.1 htrip.document
  obtain ⟨listed, hlists⟩ := htrip.lists
  refine ⟨.scalar item, ⟨input, hinput, cellValue_scalar harray hv htrip.written⟩,
    ⟨listed, .scalar hlists⟩, ?_⟩
  intro listed hcell
  cases hcell with
  | scalar hcell =>
    obtain ⟨hnull, text, htext, hscan⟩ := htrip.scanned listed hcell
    have htype : columnType Binary64 column = itemType column.formatType :=
      columnType_eq Binary64 hlisted harray
    have hsurvives : ColumnSurvives form value ↔ Survives form value := by
      cases h <;> exact Iff.rfl
    have hread : (scanValueToValue (scanCell Binary64 column listed) (itemType column.formatType) :
        DuckValue Binary64) = scanTextToValue text (itemType column.formatType) := by
      have hscalar := itemType_ne_list h.scalarType_mem
      generalize itemType column.formatType = type at hscalar
      cases type with
      | list child typeAlias => exact absurd rfl (hscalar child typeAlias)
      | _ => simp [scanCell, hnull, harray, htext, scanValueToValue]
    rw [htype, hsurvives, hread, hscan]

theorem list_trip (hparse : ParsesLists) {column : Column} (hlisted : column.Listed)
    (harray : column.isArray = true) (htype : scalarType column.formatType ∈ comparedTypes)
    {values : List (DuckValue Binary64)}
    (h : ∀ value ∈ values, FormatValue column.formatType value) :
    ∃ cell, CellTrip form column (.list values) cell := by
  obtain ⟨vs, items, htrips⟩ : ∃ vs items, ItemsTrip form column.formatType values vs items :=
    items_trip h
  have htree : (rustBridgeJsonValue (.list values)).value = some (.array vs) := by
    rw [rustBridgeJsonValue, MutVal.value, htrips.tree]
    rfl
  have hcanonical : (Json.Value.array vs).canonicalize = .array vs := by
    rw [Json.Value.canonicalize, htrips.canonical]
  have hdocument : document (.list values : DuckValue Binary64) = .ok (.array vs) := by
    have := document_composite rfl htree (htrips.readable 125)
    rwa [hcanonical] at this
  obtain ⟨input, hinput, hv⟩ := document_eq_ok.1 hdocument
  obtain ⟨listed, hlists⟩ := htrips.lists
  refine ⟨.flatList items, ⟨input, hinput, cellValue_array harray hv htrips.written⟩,
    ⟨_, .flatList hlists⟩, ?_⟩
  intro listed hcell
  cases hcell with
  | flatList hcells =>
    rename_i listed
    have hread : (scanValueToValue (scanCell Binary64 column (.array listed))
        (.list (itemType column.formatType) "") : DuckValue Binary64) =
        .list (listed.map (scanItem column.formatType)) := by
      have hcell : scanCell Binary64 column (.array listed) = { RustExtScanValue.default with
          isNull := false
          arrayValues := listed.map (scanArrayValue Binary64 column.formatType) } := by
        simp [scanCell, harray, Json.Value.isNull, Json.Value.asArray]
      rw [hcell]
      simp only [scanValueToValue, Bool.false_eq_true, if_false, List.map_map]
      rfl
    rw [columnType_list hparse hlisted harray htype, hread, DuckValue.list.injEq,
      htrips.scanned listed hcells]
    exact Iff.rfl

theorem column_trip (hparse : ParsesLists) {column : Column} (hlisted : column.Listed)
    {value : DuckValue Binary64} (h : ColumnValue column value) :
    ∃ cell, CellTrip form column value cell := by
  cases h with
  | scalar harray h => exact scalar_trip hlisted harray h
  | list harray htype h => exact list_trip hparse hlisted harray htype h

omit [SerdeJson] [DuckDb Binary64] in
theorem ColumnValue.non_null {column : Column} {value : DuckValue Binary64}
    (h : ColumnValue column value) : value.isNull = false := by
  cases h with
  | scalar harray h => cases h <;> rfl
  | list harray htype h => rfl

/-- **Which values of a column are read back as they were written**: all booleans and numbers of
15 digits, the texts that their form in a listing keeps, and no text of a column that is read as
JSON. -/
theorem written_reads_back_iff (hparse : ParsesLists) {body : String} {page : Page Column}
    (hlist : columnListFromJson body = .ok page) {column : Column} (hcolumn : column ∈ page.items)
    (hedit : supports column.capabilities rustExtColumnEditable = true)
    {value : DuckValue Binary64} (hvalue : ColumnValue column value) (form : TextForm) :
    ∃ edit, (∀ omitNulls, writtenCell omitNulls ⟨some column, column.capabilities⟩ value =
        .ok (some edit)) ∧ edit.column = column.id ∧
      (∃ listed, ListsCell form edit.value listed) ∧
      ∀ listed row cell, ListsCell form edit.value listed → firstCell column row = some cell →
        cell.value = listed → (scannedValue column row = value ↔ ColumnSurvives form value) := by
  have hlisted := columnListFromJson_listed hlist column hcolumn
  obtain ⟨cell, htrip⟩ : ∃ cell, CellTrip form column value cell :=
    column_trip hparse hlisted hvalue
  obtain ⟨input, hinput, hcell⟩ := htrip.written
  have hnull : input.valueType ≠ rustExtInputNull := by
    rw [convert_valueType hinput]
    exact inputType_ne_null hvalue.non_null
  refine ⟨⟨column.id, cell⟩, fun omitNulls => ?_, rfl, htrip.lists, ?_⟩
  · refine bind_eq_ok.2 ⟨input, hinput, ?_⟩
    simp [writeCell, hedit, hnull, columnFromHandle, refFromRaw, hcell, bind, Except.bind, pure,
      Except.pure]
  · intro listed row first hlists hfirst hvalue
    rw [scannedValue_cell hlisted hfirst, hvalue]
    exact htrip.scanned listed hlists

end

/-! ## A fenced text -/

open Json.Reference Reference

theorem parsesLists : ParsesLists := by
  intro name hname
  have hlist : parseType (name ++ "[]") = .list (parseScalarType name) "" := by
    have hsuffix : ("[]".toList).isSuffixOf? (name ++ "[]").toList = some name.toList :=
      List.isSuffixOf?_eq_some_iff_append_eq.2 String.toList_append.symm
    rw [parseType, hsuffix]
    simp only [String.ofList_toList]
  refine hlist.trans (congrArg (LogicalType.list · "") ?_)
  simp only [comparedTypes, List.mem_cons, List.not_mem_nil, or_false] at hname
  rcases hname with rfl | rfl | rfl <;> rfl

theorem written_reads_back_iff_text : ∃ edit : Operations.CellEdit Binary64,
    (∀ omitNulls, writtenCell omitNulls ⟨some (listedColumn "text"),
      (listedColumn "text").capabilities⟩ (.text "Ada" "") = .ok (some edit)) ∧
    edit.column = "c1" ∧ (∃ listed, ListsCell .fenced edit.value listed) ∧
    ∀ listed row cell, ListsCell .fenced edit.value listed →
      firstCell (listedColumn "text") row = some cell → cell.value = listed →
      (scannedValue (listedColumn "text") row = (.text "Ada" "" : DuckValue Binary64) ↔
        ColumnSurvives .fenced (.text "Ada" "")) :=
  written_reads_back_iff parsesLists (columnListFromJson_columnListing "text") (.head _)
    (by decide) (.scalar rfl (.text (by decide +kernel) "Ada")) .fenced

end SuperhumanDocs
