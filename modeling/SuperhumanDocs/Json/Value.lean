import SuperhumanDocs.Json.Number

/-!
# JSON values

A JSON `Value` keeps its numbers as literals and its objects as lists of fields. `chars` is the
compact text of a value; `canonicalize` sorts the fields of every object by key and keeps the last
field of each key, which is what reading that text back gives.

* `lookup_insert`: what a key of a map means after an insertion.
* `chars_head`: the text of a value starts with neither a space nor a closing bracket.
* `Value.same`: equality of values with numbers compared by what they denote.
-/

namespace Json

/-- A JSON value. -/
inductive Value where
  | null
  | bool (b : Bool)
  | number (n : Number)
  | string (s : String)
  | array (items : List Value)
  | object (fields : List (String × Value))
deriving Inhabited

namespace Value

/-! ## Accessors -/

def isNull : Value → Bool
  | null => true
  | _ => false

def asBool : Value → Option Bool
  | bool b => some b
  | _ => none

def asStr : Value → Option String
  | string s => some s
  | _ => none

def asArray : Value → Option (List Value)
  | array items => some items
  | _ => none

def asObject : Value → Option (List (String × Value))
  | object fields => some fields
  | _ => none

/-- The field `key`, of an object only. -/
def get (v : Value) (key : String) : Option Value := v.asObject.bind fun fields => fields.lookup key

end Value

/-! ## Maps -/

/-- Insert a field into a map sorted by key; a field of that key is replaced. -/
def insert {α : Type} (key : String) (value : α) : List (String × α) → List (String × α)
  | [] => [(key, value)]
  | (k, v) :: fields =>
    if key < k then (key, value) :: (k, v) :: fields
    else if key = k then (key, value) :: fields
    else (k, v) :: insert key value fields

theorem lookup_cons_ite {α : Type} (key k : String) (value : α) (fields : List (String × α)) :
    ((key, value) :: fields).lookup k = if k = key then some value else fields.lookup k := by
  by_cases h : k = key
  · subst h; rw [List.lookup_cons_self, if_pos rfl]
  · rw [List.lookup_cons, beq_false_of_ne h, if_neg h]

/-- **Lookup after an insertion.** -/
theorem lookup_insert {α : Type} (key k : String) (value : α) (fields : List (String × α)) :
    (insert key value fields).lookup k = if k = key then some value else fields.lookup k := by
  induction fields with
  | nil => exact lookup_cons_ite key k value []
  | cons f fields ih =>
    obtain ⟨k', v'⟩ := f
    simp only [insert]
    split
    · exact lookup_cons_ite key k value _
    · split
      · rename_i h; subst h
        rw [lookup_cons_ite, lookup_cons_ite]
        split <;> rfl
      · rename_i h
        rw [lookup_cons_ite, lookup_cons_ite, ih]
        split
        · rename_i hk; subst hk; rw [if_neg (fun e => h e.symm)]
        · rfl

/-- The keys after the insertion of a new one. -/
theorem keys_insert {α : Type} {key : String} (value : α) {fields : List (String × α)}
    (h : key ∉ fields.map Prod.fst) :
    ((insert key value fields).map Prod.fst).Perm (key :: fields.map Prod.fst) := by
  induction fields with
  | nil => exact List.Perm.refl _
  | cons f fields ih =>
    obtain ⟨k, v⟩ := f
    simp only [List.map_cons, List.mem_cons, not_or] at h
    simp only [insert]
    split
    · exact List.Perm.refl _
    · rw [if_neg h.1]
      exact ((ih h.2).cons k).trans (List.Perm.swap _ _ _)

/-! ## Canonical form -/

mutual

/-- Sort the fields of every object; of the fields with one key the last stays. -/
def Value.canonicalize : Value → Value
  | .null => .null
  | .bool b => .bool b
  | .number n => .number n
  | .string s => .string s
  | .array items => .array (canonicalizeItems items)
  | .object fields => .object (canonicalizeFields [] fields)

def canonicalizeItems : List Value → List Value
  | [] => []
  | v :: items => v.canonicalize :: canonicalizeItems items

def canonicalizeFields (done : List (String × Value)) : List (String × Value) →
    List (String × Value)
  | [] => done
  | (k, v) :: fields => canonicalizeFields (insert k v.canonicalize done) fields

end

theorem canonicalizeItems_eq (items : List Value) :
    canonicalizeItems items = items.map Value.canonicalize := by
  induction items with
  | nil => rfl
  | cons v items ih => rw [canonicalizeItems, ih, List.map_cons]

/-! ## Text -/

/-- The escape of a character of a string. -/
def escape (c : Char) : List Char :=
  if c = '\x22' then ['\\', '\x22']
  else if c = '\\' then ['\\', '\\']
  else if c = '\x08' then ['\\', 'b']
  else if c = '\t' then ['\\', 't']
  else if c = '\n' then ['\\', 'n']
  else if c = '\x0c' then ['\\', 'f']
  else if c = '\r' then ['\\', 'r']
  else if c.toNat < 32 then
    ['\\', 'u', '0', '0', Nat.digitChar (c.toNat / 16), Nat.digitChar (c.toNat % 16)]
  else [c]

/-- A string in quotes. -/
def quote (s : String) : List Char := '\x22' :: (s.toList.flatMap escape ++ ['\x22'])

mutual

/-- The compact text of a value. -/
def Value.chars : Value → List Char
  | .null => "null".toList
  | .bool true => "true".toList
  | .bool false => "false".toList
  | .number n => n.text.toList
  | .string s => quote s
  | .array [] => "[]".toList
  | .array (v :: items) => '[' :: (v.chars ++ itemsChars items)
  | .object [] => "\x7b\x7d".toList
  | .object ((k, v) :: fields) => '\x7b' :: (quote k ++ ':' :: (v.chars ++ fieldsChars fields))

/-- The text of an array after its first item. -/
def itemsChars : List Value → List Char
  | [] => [']']
  | v :: items => ',' :: (v.chars ++ itemsChars items)

/-- The text of an object after its first field. -/
def fieldsChars : List (String × Value) → List Char
  | [] => ['\x7d']
  | (k, v) :: fields => ',' :: (quote k ++ ':' :: (v.chars ++ fieldsChars fields))

end

def Value.print (v : Value) : String := String.ofList v.chars

@[simp] theorem Value.toList_print (v : Value) : v.print.toList = v.chars := String.toList_ofList

/-- White space of JSON. -/
def isSpace (c : Char) : Bool := c == ' ' || c == '\n' || c == '\t' || c == '\r'

/-- The text of a value does not start with a space or a closing bracket. -/
theorem Value.chars_head (v : Value) :
    ∃ c cs, v.chars = c :: cs ∧ isSpace c = false ∧ c ≠ ']' ∧ c ≠ '\x7d' := by
  cases v with
  | null => exact ⟨_, _, rfl, by decide⟩
  | bool b => cases b <;> exact ⟨_, _, rfl, by decide⟩
  | number n =>
    cases h : n.text.toList with
    | nil => exact absurd h n.text_ne_nil
    | cons c cs =>
      have hc := n.text_chars c (by rw [h]; exact .head _)
      refine ⟨c, cs, by rw [Value.chars, h], ?_, ?_, ?_⟩
      · cases hs : isSpace c with
        | false => rfl
        | true =>
          simp only [isSpace, Bool.or_eq_true, beq_iff_eq] at hs
          rcases hs with ((rfl | rfl) | rfl) | rfl <;> cases hc
      · rintro rfl; cases hc
      · rintro rfl; cases hc
  | string s => exact ⟨_, _, rfl, by decide⟩
  | array items => cases items <;> exact ⟨_, _, rfl, by decide⟩
  | object fields =>
    cases fields with
    | nil => exact ⟨_, _, rfl, by decide⟩
    | cons f fields => obtain ⟨k, v⟩ := f; exact ⟨_, _, rfl, by decide⟩

/-- The text of a string is longer than the string. -/
theorem length_quote (s : String) : s.toList.length + 2 ≤ (quote s).length := by
  have h : s.toList.length ≤ (s.toList.flatMap escape).length := by
    induction s.toList with
    | nil => exact Nat.le_refl _
    | cons c cs ih =>
      have hc : 0 < (escape c).length := by
        unfold escape
        repeat' split
        all_goals simp
      simp only [List.flatMap_cons, List.length_append, List.length_cons]
      omega
  simp only [quote, List.length_append, List.length_cons, List.length_nil]
  omega

/-! ## Equality of values -/

mutual

def Value.beq : Value → Value → Bool
  | .null, .null => true
  | .bool a, .bool b => a == b
  | .number a, .number b => a == b
  | .string a, .string b => a == b
  | .array a, .array b => beqItems a b
  | .object a, .object b => beqFields a b
  | _, _ => false

def beqItems : List Value → List Value → Bool
  | [], [] => true
  | v :: a, w :: b => v.beq w && beqItems a b
  | _, _ => false

def beqFields : List (String × Value) → List (String × Value) → Bool
  | [], [] => true
  | (k, v) :: a, (l, w) :: b => k == l && v.beq w && beqFields a b
  | _, _ => false

end

mutual

theorem Value.beq_iff : ∀ v w : Value, v.beq w = true ↔ v = w
  | .null, w => by cases w <;> simp [Value.beq]
  | .bool a, w => by cases w <;> simp [Value.beq]
  | .number a, w => by cases w <;> simp [Value.beq]
  | .string a, w => by cases w <;> simp [Value.beq]
  | .array a, w => by cases w <;> simp [Value.beq, beqItems_iff a]
  | .object a, w => by cases w <;> simp [Value.beq, beqFields_iff a]

theorem beqItems_iff : ∀ a b : List Value, beqItems a b = true ↔ a = b
  | [], b => by cases b <;> simp [beqItems]
  | v :: a, b => by cases b <;> simp [beqItems, Value.beq_iff v, beqItems_iff a]

theorem beqFields_iff : ∀ a b : List (String × Value), beqFields a b = true ↔ a = b
  | [], b => by cases b <;> simp [beqFields]
  | (k, v) :: a, b => by
    cases b with
    | nil => simp [beqFields]
    | cons f b => obtain ⟨l, w⟩ := f; simp [beqFields, Value.beq_iff v, beqFields_iff a]

end

instance : DecidableEq Value := fun v w => decidable_of_iff _ (Value.beq_iff v w)

/-- Equality of scalars, numbers by what they denote. -/
def Value.same : Value → Value → Bool
  | .number a, .number b => decide (a.toRat = b.toRat)
  | v, w => v == w

end Json
