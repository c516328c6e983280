import SuperhumanDocs.Effect.Except
import SuperhumanDocs.Json.SerdeJson
import SuperhumanDocs.Model

/-!
# DuckDB values

The part of DuckDB's types and values the bridge looks at, and what it relies on of DuckDB
(`DuckDb`): how values and documents are written as text, how text is cast, how type names are
read. `convert` passes a value to Rust, as a document when it is composite.
-/

set_option autoImplicit false

namespace SuperhumanDocs

open Binary (F64)
open Json (Number SerdeJson)

/-! ## Types -/

/-- The types without parameters. -/
inductive TypeId where
  | boolean
  | tinyint | smallint | integer | bigint
  | utinyint | usmallint | uinteger | ubigint
  | float | double
  | hugeint | uhugeint
  | varchar
  | date | time | timestampTz | interval
  | other (name : String)
deriving DecidableEq, Repr

/-- A logical type; the alias is empty unless one was set. -/
inductive LogicalType where
  | simple (id : TypeId) (typeAlias : String)
  | decimal (width scale : Nat) (typeAlias : String)
  | list (child : LogicalType) (typeAlias : String)
  | array (child : LogicalType) (size : Nat) (typeAlias : String)
  | struct (fields : List (String × LogicalType)) (typeAlias : String)
deriving Repr

namespace LogicalType

def boolean : LogicalType := simple .boolean ""
def varchar : LogicalType := simple .varchar ""

def setAlias (typeAlias : String) : LogicalType → LogicalType
  | simple id _ => simple id typeAlias
  | decimal width scale _ => decimal width scale typeAlias
  | list child _ => list child typeAlias
  | array child size _ => array child size typeAlias
  | struct fields _ => struct fields typeAlias

end LogicalType

/-- Put the alias on the type, or on the items of a list. -/
def applyValueTypeAlias (type : LogicalType) (typeAlias : String) : LogicalType :=
  if typeAlias.isEmpty then type
  else
    match type with
    | .list child _ => .list (applyValueTypeAlias child typeAlias) ""
    | .array child size _ => .array (applyValueTypeAlias child typeAlias) size ""
    | type => type.setAlias typeAlias

/-! ## Values -/

/-- A DuckDB value. `text` is a string with the alias of its type; `other` is a value of a type
that the bridge passes on as text. -/
inductive DuckValue (F : Type) where
  | null (type : LogicalType)
  | boolean (b : Bool)
  | int (i : Int)
  | uint (n : Nat)
  | real (x : F)
  | decimal (width scale : Nat) (unscaled : Int)
  | hugeint (i : Int)
  | uhugeint (n : Nat)
  | text (s : String) (typeAlias : String)
  | list (items : List (DuckValue F))
  | array (items : List (DuckValue F))
  | struct (fields : List (String × DuckValue F))
  | other (type : LogicalType) (text : String)

def DuckValue.isNull {F : Type} : DuckValue F → Bool
  | null _ => true
  | _ => false

/-! ## Documents -/

/-- A tree of the JSON writer; `raw` is text that is written as it is. -/
inductive MutVal (F : Type) where
  | null
  | bool (b : Bool)
  | sint (i : Int)
  | uint (n : Nat)
  | real (x : F)
  | raw (text : String)
  | str (s : String)
  | arr (items : List (MutVal F))
  | obj (fields : List (String × MutVal F))

section
variable {F : Type} [F64 F]

mutual

/-- The JSON value a tree is written as, when it can be written. -/
def MutVal.value : MutVal F → Option Json.Value
  | .null => some .null
  | .bool b => some (.bool b)
  | .sint i => some (.number (.ofInt i))
  | .uint n => some (.number (.ofInt n))
  | .real x => (F64.toNumber x).map .number
  | .raw text => if h : Json.isNumber text = true then some (.number ⟨text, h⟩) else none
  | .str s => some (.string s)
  | .arr items => (arrValues items).map .array
  | .obj fields => (objValues fields).map .object

def arrValues : List (MutVal F) → Option (List Json.Value)
  | [] => some []
  | v :: items =>
    match v.value, arrValues items with
    | some v, some items => some (v :: items)
    | _, _ => none

def objValues : List (String × MutVal F) → Option (List (String × Json.Value))
  | [] => some []
  | (k, v) :: fields =>
    match v.value, objValues fields with
    | some v, some fields => some ((k, v) :: fields)
    | _, _ => none

end

end

/-! ## What the bridge relies on -/

/-- The operations of DuckDB the bridge uses, with what it relies on of each. -/
class DuckDb (F : Type) [F64 F] [SerdeJson] where
  /-- The text of a value. -/
  toString : DuckValue F → String
  /-- Cast a string; `none` when the cast throws. -/
  cast : String → LogicalType → Option (DuckValue F)
  /-- Read the name of a type. -/
  parseType : String → LogicalType
  /-- Write a document. -/
  writeJson : MutVal F → Except String String
  /-- Decimals with an integer digit are written in fixed point. -/
  toString_decimal : ∀ width scale z, scale < width →
    toString (.decimal width scale z) = (Number.ofFixed z scale).text
  toString_hugeint : ∀ z, toString (.hugeint z) = (Number.ofInt z).text
  toString_uhugeint : ∀ n : Nat, toString (.uhugeint n) = (Number.ofInt n).text
  toString_text : ∀ s typeAlias, toString (.text s typeAlias) = s
  /-- A string cast to `BOOLEAN` is a boolean; `true` and `false` are their own names. -/
  cast_boolean : ∀ s v, cast s .boolean = some v → ∃ b, v = .boolean b
  cast_boolean_name : ∀ b : Bool, cast (if b then "true" else "false") .boolean = some (.boolean b)
  /-- A string cast to `DECIMAL` is a decimal of that type; a number of that type keeps its value
  when it is cast, which it always is when it is written without an exponent. -/
  cast_decimal : ∀ s width scale v, cast s (.decimal width scale "") = some v →
    ∃ z, v = .decimal width scale z ∧ |z| < 10 ^ width
  cast_decimal_exact : ∀ (n : Number) width scale (z : Int) v, |z| < 10 ^ width →
    n.toRat = z / 10 ^ scale → cast n.text (.decimal width scale "") = some v →
    v = .decimal width scale z
  cast_decimal_fixed : ∀ (n : Number) width scale (z : Int), |z| < 10 ^ width →
    n.toRat = z / 10 ^ scale → n.lexeme.exp = none →
    cast n.text (.decimal width scale "") = some (.decimal width scale z)
  parseType_boolean : parseType "BOOLEAN" = .boolean
  parseType_varchar : parseType "VARCHAR" = .varchar
  parseType_decimal : parseType "DECIMAL(38,20)" = .decimal 38 20 ""
  /-- A written document reads back. -/
  fromStr_writeJson : ∀ (tree : MutVal F) v, tree.value = some v →
    v.readable Json.maxDepth = true →
    ∃ text, writeJson tree = .ok text ∧ SerdeJson.fromStr text = .ok v.canonicalize

/-! ## The type a value is passed as -/

section
variable {F : Type}

def DuckValue.inputType : DuckValue F → Nat
  | .null _ => rustExtInputNull
  | .boolean _ => rustExtInputBool
  | .int _ => rustExtInputInt
  | .uint _ => rustExtInputUint
  | .real _ => rustExtInputDouble
  | .decimal .. | .hugeint _ | .uhugeint _ | .list _ | .array _ | .struct _ => rustExtInputJson
  | .text .. | .other .. => rustExtInputString

/-- Only NULL is passed as NULL. -/
theorem inputType_ne_null {value : DuckValue F} (h : value.isNull = false) :
    value.inputType ≠ rustExtInputNull := by
  cases value with
  | null type => cases h
  | _ => exact Nat.succ_ne_zero _

end

section
variable {F : Type} [F64 F] [SerdeJson] [DuckDb F]

/-! ## Composite values as documents -/

mutual

def rustBridgeJsonValue : DuckValue F → MutVal F
  | .null _ => .null
  | .boolean b => .bool b
  | .int i => .sint i
  | .uint n => .uint n
  | .real x => .real x
  | .decimal width scale z => .raw (DuckDb.toString (.decimal width scale z : DuckValue F))
  | .hugeint i => .raw (DuckDb.toString (.hugeint i : DuckValue F))
  | .uhugeint n => .raw (DuckDb.toString (.uhugeint n : DuckValue F))
  | .list items => .arr (rustBridgeJsonItems items)
  | .array items => .arr (rustBridgeJsonItems items)
  | .struct fields => .obj (rustBridgeJsonFields fields)
  | .text s typeAlias => .str (DuckDb.toString (.text s typeAlias : DuckValue F))
  | .other type text => .str (DuckDb.toString (.other type text : DuckValue F))

def rustBridgeJsonItems : List (DuckValue F) → List (MutVal F)
  | [] => []
  | v :: items => rustBridgeJsonValue v :: rustBridgeJsonItems items

def rustBridgeJsonFields : List (String × DuckValue F) → List (String × MutVal F)
  | [] => []
  | (name, v) :: fields => (name, rustBridgeJsonValue v) :: rustBridgeJsonFields fields

end

/-- The text of a composite value; throws when it cannot be written. -/
def rustBridgeJson (value : DuckValue F) : Except String String :=
  (DuckDb.writeJson (rustBridgeJsonValue value)).mapError fun error =>
    s!"Failed to serialize DuckDB value as JSON: {error}"

/-- Pass a value to Rust. -/
def convert (value : DuckValue F) : Except String (RustExtInputValue F) :=
  let result : RustExtInputValue F := .zero
  match value with
  | .null _ => .ok { result with valueType := rustExtInputNull }
  | .boolean b => .ok { result with valueType := rustExtInputBool, boolValue := b }
  | .int i => .ok { result with valueType := rustExtInputInt, intValue := i }
  | .uint n => .ok { result with valueType := rustExtInputUint, uintValue := n }
  | .real x => .ok { result with valueType := rustExtInputDouble, doubleValue := x }
  | .decimal .. | .hugeint _ | .uhugeint _ =>
    .ok { result with valueType := rustExtInputJson, stringValue := DuckDb.toString value }
  | .list _ | .array _ | .struct _ => do
    let text ← rustBridgeJson value
    return { result with valueType := rustExtInputJson, stringValue := text }
  | .text .. | .other .. =>
    .ok { result with valueType := rustExtInputString, stringValue := DuckDb.toString value }

theorem convert_valueType {value : DuckValue F} {input : RustExtInputValue F}
    (h : convert value = .ok input) : input.valueType = value.inputType := by
  cases value with
  | list items | array items | struct fields =>
    obtain ⟨text, -, h⟩ := Effect.bind_eq_ok.1 h
    cases h
    rfl
  | _ =>
    cases h
    rfl

end

end SuperhumanDocs
