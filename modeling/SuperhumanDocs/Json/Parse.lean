import SuperhumanDocs.Json.Value

/-!
# Reading JSON

`fromStr` is a recursive-descent reader. Arrays and objects nest at most `maxDepth` levels deep,
which is also what the recursion is on; the items of one array are read in a loop that ends with
the text. Numbers keep their literal.
-/

namespace Json

/-- A reader: a value and the characters after it, or an error. -/
abbrev Reader (α : Type) := List Char → Except String (α × List Char)

def skipSpace (cs : List Char) : List Char := cs.dropWhile isSpace

/-! ## Strings -/

/-- The value of a hexadecimal digit. -/
def hexVal (c : Char) : Option Nat :=
  if c.isDigit then some (c.toNat - 48)
  else if 97 ≤ c.toNat ∧ c.toNat ≤ 102 then some (c.toNat - 87)
  else if 65 ≤ c.toNat ∧ c.toNat ≤ 70 then some (c.toNat - 55)
  else none

/-- The value of four hexadecimal digits. -/
def hex4 (a b c d : Char) : Option Nat := do
  return ((← hexVal a) * 16 + (← hexVal b)) * 256 + (← hexVal c) * 16 + (← hexVal d)

/-- The character a one-letter escape stands for. -/
def unescape (c : Char) : Option Char :=
  if c = '\x22' ∨ c = '\\' ∨ c = '/' then some c
  else if c = 'b' then some '\x08'
  else if c = 't' then some '\t'
  else if c = 'n' then some '\n'
  else if c = 'f' then some '\x0c'
  else if c = 'r' then some '\r'
  else none

/-- Put a character in front of what the rest of a string reads as. -/
def push (c : Char) (r : Except String (List Char × List Char)) :
    Except String (List Char × List Char) :=
  r.map fun (s, cs) => (c :: s, cs)

/-- The characters of a string after its opening quote. -/
def stringBody : Reader (List Char)
  | [] => .error "EOF while parsing a string"
  | '\x22' :: cs => .ok ([], cs)
  | '\\' :: 'u' :: a :: b :: c :: d :: cs =>
    match hex4 a b c d with
    | none => .error "invalid escape"
    | some n =>
      if n.isValidChar then push (Char.ofNat n) (stringBody cs)
      else
        match cs with
        | '\\' :: 'u' :: e :: f :: g :: h :: cs =>
          match hex4 e f g h with
          | none => .error "invalid escape"
          | some m =>
            if n < 0xDC00 ∧ 0xDC00 ≤ m ∧ m < 0xE000 then
              push (Char.ofNat (0x10000 + (n - 0xD800) * 1024 + (m - 0xDC00))) (stringBody cs)
            else .error "lone surrogate in hex escape"
        | _ => .error "lone surrogate in hex escape"
  | '\\' :: c :: cs =>
    match unescape c with
    | none => .error "invalid escape"
    | some c => push c (stringBody cs)
  | c :: cs =>
    if c.toNat < 32 then .error "control character found while parsing a string"
    else push c (stringBody cs)

/-- A string. -/
def string : Reader String
  | '\x22' :: cs => (stringBody cs).map fun (s, cs) => (String.ofList s, cs)
  | _ => .error "expected a string"

/-! ## Values -/

/-- A number, read up to the first character that no number has. -/
def number : Reader Value := fun cs =>
  if h : isNumber (String.ofList (cs.takeWhile isNumberChar)) = true then
    .ok (.number ⟨_, h⟩, cs.dropWhile isNumberChar)
  else .error "invalid number"

/-- The rest of an array after an item; `items` are the items so far, last first. -/
def arrayRest (value : Reader Value) : Nat → List Value → Reader Value
  | 0, _, _ => .error "EOF while parsing a list"
  | fuel + 1, items, cs =>
    match skipSpace cs with
    | ']' :: cs => .ok (.array items.reverse, cs)
    | ',' :: cs =>
      match value (skipSpace cs) with
      | .error e => .error e
      | .ok (v, cs) => arrayRest value fuel (v :: items) cs
    | _ => .error "expected a comma or a closing bracket"

/-- A field of an object, inserted into the fields before it. -/
def field (value : Reader Value) (fields : List (String × Value)) :
    Reader (List (String × Value)) := fun cs =>
  match string cs with
  | .error e => .error e
  | .ok (key, cs) =>
    match skipSpace cs with
    | ':' :: cs =>
      match value (skipSpace cs) with
      | .error e => .error e
      | .ok (v, cs) => .ok (insert key v fields, cs)
    | _ => .error "expected a colon"

/-- The rest of an object after a field. -/
def objectRest (value : Reader Value) : Nat → List (String × Value) → Reader Value
  | 0, _, _ => .error "EOF while parsing an object"
  | fuel + 1, fields, cs =>
    match skipSpace cs with
    | '\x7d' :: cs => .ok (.object fields, cs)
    | ',' :: cs =>
      match field value fields (skipSpace cs) with
      | .error e => .error e
      | .ok (fields, cs) => objectRest value fuel fields cs
    | _ => .error "expected a comma or a closing brace"

/-- A value with at most `depth` levels of arrays and objects. -/
def value (depth : Nat) : Reader Value
  | 'n' :: 'u' :: 'l' :: 'l' :: cs => .ok (.null, cs)
  | 't' :: 'r' :: 'u' :: 'e' :: cs => .ok (.bool true, cs)
  | 'f' :: 'a' :: 'l' :: 's' :: 'e' :: cs => .ok (.bool false, cs)
  | '\x22' :: cs => (string ('\x22' :: cs)).map fun (s, cs) => (.string s, cs)
  | '[' :: cs =>
    match depth with
    | 0 => .error "recursion limit exceeded"
    | depth + 1 =>
      match skipSpace cs with
      | ']' :: cs => .ok (.array [], cs)
      | cs =>
        match value depth cs with
        | .error e => .error e
        | .ok (v, cs) => arrayRest (value depth) (cs.length + 1) [v] cs
  | '\x7b' :: cs =>
    match depth with
    | 0 => .error "recursion limit exceeded"
    | depth + 1 =>
      match skipSpace cs with
      | '\x7d' :: cs => .ok (.object [], cs)
      | cs =>
        match field (value depth) [] cs with
        | .error e => .error e
        | .ok (fields, cs) => objectRest (value depth) (cs.length + 1) fields cs
  | cs => number cs

/-- The nesting a document may have. -/
def maxDepth : Nat := 127

/-- Read a document. -/
def fromStr (s : String) : Except String Value :=
  match value maxDepth (skipSpace s.toList) with
  | .error e => .error e
  | .ok (v, cs) => if (skipSpace cs).isEmpty then .ok v else .error "trailing characters"

/-! ## Values that can be read -/

/-- The literal is in fixed point, and not a zero with a sign: another one may be read as a number
that is written in another way. -/
def Number.plain (n : Number) : Bool :=
  n.text.toList.all (fun c => c == '-' || c == '.' || c.isDigit) && n.text != "-0"

theorem Number.plain_of_chars {n : Number}
    (h : ∀ c ∈ n.text.toList, c = '-' ∨ c = '.' ∨ c.isDigit = true) (hzero : n.text ≠ "-0") :
    n.plain = true := by
  rw [Number.plain, Bool.and_eq_true, List.all_eq_true, bne_iff_ne]
  refine ⟨fun c hc => ?_, hzero⟩
  obtain hc | hc | hc := h c hc <;> simp [hc]

/-- A zero with a sign is zero. -/
theorem Number.toRat_signedZero {n : Number} (h : n.text = "-0") : n.toRat = 0 := by
  rw [Number.toRat_eq (n := n) (show lex n.text.toList = some ⟨some '-', ['0'], none, none⟩ by
    rw [h]
    decide)]
  simp [Lexeme.decimal, Decimal.toRat, Nat.ofDigitChars]

theorem fixedText_chars {neg : Bool} {int : List Char} {frac : Option (List Char)}
    (hi : ∀ c ∈ int, c.isDigit = true) (hf : ∀ ds, frac = some ds → ∀ c ∈ ds, c.isDigit = true) :
    ∀ c ∈ fixedText neg int frac, c = '-' ∨ c = '.' ∨ c.isDigit = true := by
  intro c hc
  simp only [fixedText, List.mem_append] at hc
  rcases hc with (hc | hc) | hc
  · split at hc
    · exact .inl (List.mem_singleton.1 hc)
    · cases hc
  · exact .inr (.inr (hi c hc))
  · cases frac with
    | none => cases hc
    | some ds =>
      rcases List.mem_cons.1 hc with hc | hc
      · exact .inr (.inl hc)
      · exact .inr (.inr (hf ds rfl c hc))

theorem Number.plain_ofInt (z : Int) : (Number.ofInt z).plain = true := by
  apply plain_of_chars
  · intro c hc
    rw [Number.ofInt, String.toList_ofList] at hc
    exact fixedText_chars (toDigits_isDigit _) (by simp) c hc
  · intro h
    have hz := toRat_signedZero h
    rw [Number.toRat_ofInt, Int.cast_eq_zero] at hz
    rw [hz] at h
    exact absurd h (by decide)

theorem Number.plain_ofFixed (z : Int) (scale : Nat) : (Number.ofFixed z scale).plain = true := by
  apply plain_of_chars
  · intro c hc
    rw [Number.ofFixed, String.toList_ofList] at hc
    refine fixedText_chars (toDigits_isDigit _) (fun ds hds => ?_) c hc
    split at hds
    · cases hds
    · cases hds
      exact padDigits_isDigit _ _
  · intro h
    have hz := toRat_signedZero h
    rw [Number.toRat_ofFixed, div_eq_zero_iff, Int.cast_eq_zero] at hz
    obtain rfl := hz.resolve_right (by positivity)
    -- zero has no sign
    have hhead := congrArg (fun text => text.toList.head?) h
    simp [Number.ofFixed, decimalText, fixedText] at hhead

mutual

/-- The value nests at most `depth` levels and its numbers are plain. -/
def Value.readable (depth : Nat) : Value → Bool
  | .null | .bool _ | .string _ => true
  | .number n => n.plain
  | .array items => match depth with
    | 0 => false
    | depth + 1 => readableItems depth items
  | .object fields => match depth with
    | 0 => false
    | depth + 1 => readableFields depth fields

def readableItems (depth : Nat) : List Value → Bool
  | [] => true
  | v :: items => v.readable depth && readableItems depth items

def readableFields (depth : Nat) : List (String × Value) → Bool
  | [] => true
  | (_, v) :: fields => v.readable depth && readableFields depth fields

end

end Json
