import SuperhumanDocs.Json.Parse

/-!
# Printed JSON reads back

* `stringBody_escape`: an escaped string reads back.
* `value_chars`: the text of a value reads back as its canonical form, whatever follows it, as
  long as what follows does not continue a number.
* `fromStr_print`: the same for a whole document.
-/

namespace Json

/-! ## Strings -/

theorem hex4_control : ∀ n < 32,
    hex4 '0' '0' (Nat.digitChar (n / 16)) (Nat.digitChar (n % 16)) = some n := by decide

/-- The escape of one character is read back. -/
theorem stringBody_escape_append (c : Char) (cs : List Char) :
    stringBody (escape c ++ cs) = push c (stringBody cs) := by
  unfold escape
  split
  · rename_i h; subst h; simp [stringBody, unescape]
  split
  · rename_i h; subst h; simp [stringBody, unescape]
  split
  · rename_i h; subst h; simp [stringBody, unescape]
  split
  · rename_i h; subst h; simp [stringBody, unescape]
  split
  · rename_i h; subst h; simp [stringBody, unescape]
  split
  · rename_i h; subst h; simp [stringBody, unescape]
  split
  · rename_i h; subst h; simp [stringBody, unescape]
  split
  · rename_i h
    have hv : c.toNat.isValidChar := c.valid
    simp only [List.cons_append, List.nil_append, stringBody, hex4_control _ h, if_pos hv,
      Char.ofNat_toNat]
  · rename_i h₁ h₂ h₃ h₄ h₅ h₆ h₇ h
    rw [List.singleton_append, stringBody.eq_def]
    split
    · contradiction
    · rename_i e; cases e; exact absurd rfl h₁
    · rename_i e; cases e; exact absurd rfl h₂
    · rename_i e; cases e; exact absurd rfl h₂
    · rename_i e; cases e; rw [if_neg h]

/-- **An escaped string reads back.** -/
theorem stringBody_escape (s cs : List Char) :
    stringBody (s.flatMap escape ++ '\x22' :: cs) = .ok (s, cs) := by
  induction s with
  | nil => rfl
  | cons c s ih =>
    rw [List.flatMap_cons, List.append_assoc, stringBody_escape_append, ih]
    rfl

theorem string_quote (s : String) (cs : List Char) : string (quote s ++ cs) = .ok (s, cs) := by
  rw [quote, List.cons_append, List.append_assoc, List.singleton_append, string,
    stringBody_escape]
  simp only [Except.map, String.ofList_toList]

/-! ## Spaces and numbers -/

theorem skipSpace_cons {c : Char} {cs : List Char} (h : isSpace c = false) :
    skipSpace (c :: cs) = c :: cs := by
  simp [skipSpace, h]

theorem skipSpace_chars (v : Value) (cs : List Char) :
    skipSpace (v.chars ++ cs) = v.chars ++ cs := by
  obtain ⟨c, ds, h, hc, -⟩ := v.chars_head
  rw [h, List.cons_append, skipSpace_cons hc]

theorem skipSpace_quote (s : String) (cs : List Char) :
    skipSpace (quote s ++ cs) = quote s ++ cs :=
  skipSpace_cons rfl

/-- What follows a value: nothing that continues a number. -/
def Follows (cs : List Char) : Prop := ∀ c, cs.head? = some c → isNumberChar c = false

theorem follows_cons {c : Char} {cs : List Char} (h : isNumberChar c = false) :
    Follows (c :: cs) := by
  intro d hd; cases hd; exact h

theorem number_text (n : Number) {cs : List Char} (h : Follows cs) :
    number (n.text.toList ++ cs) = .ok (.number n, cs) := by
  have htake : (n.text.toList ++ cs).takeWhile isNumberChar = n.text.toList := by
    rw [List.takeWhile_append_of_pos n.text_chars]
    cases cs with
    | nil => simp
    | cons c cs => simp [h c rfl]
  have hdrop : (n.text.toList ++ cs).dropWhile isNumberChar = cs := by
    rw [List.dropWhile_append_of_pos n.text_chars]
    cases cs with
    | nil => simp
    | cons c cs => simp [h c rfl]
  have hv : isNumber (String.ofList ((n.text.toList ++ cs).takeWhile isNumberChar)) = true := by
    rw [htake, String.ofList_toList]; exact n.valid
  have hn : (⟨_, hv⟩ : Number) = n :=
    Number.ext_text ((congrArg String.ofList htake).trans String.ofList_toList)
  rw [number, dif_pos hv, hdrop, hn]

/-- A value that starts like a number is a number. -/
theorem value_number (depth : Nat) {c : Char} {cs : List Char} (h : isNumberChar c = true) :
    value depth (c :: cs) = number (c :: cs) := by
  unfold value
  split <;> first | rfl | (rename_i e; cases e; cases h)

/-! ## Arrays and objects -/

theorem field_chars {read : Reader Value} {k : String} {v : Value} {done : List (String × Value)}
    {cs : List Char} (hv : read (v.chars ++ cs) = .ok (v.canonicalize, cs)) :
    field read done (quote k ++ ':' :: (v.chars ++ cs)) =
      .ok (insert k v.canonicalize done, cs) := by
  simp only [field, string_quote]
  rw [skipSpace_cons (c := ':') rfl]
  simp only [skipSpace_chars, hv]

theorem follows_itemsChars (items : List Value) (cs : List Char) :
    Follows (itemsChars items ++ cs) := by
  cases items <;> exact follows_cons rfl

theorem follows_fieldsChars (fields : List (String × Value)) (cs : List Char) :
    Follows (fieldsChars fields ++ cs) := by
  cases fields <;> exact follows_cons rfl

theorem length_itemsChars (items : List Value) : items.length < (itemsChars items).length := by
  induction items with
  | nil => exact Nat.zero_lt_one
  | cons v items ih => simp only [itemsChars, List.length_cons, List.length_append]; omega

theorem length_fieldsChars (fields : List (String × Value)) :
    fields.length < (fieldsChars fields).length := by
  induction fields with
  | nil => exact Nat.zero_lt_one
  | cons f fields ih => simp only [fieldsChars, List.length_cons, List.length_append]; omega

/-- The rest of an array is read when its items are. -/
theorem arrayRest_chars {read : Reader Value} {items : List Value}
    (hread : ∀ v ∈ items, ∀ cs, Follows cs → read (v.chars ++ cs) = .ok (v.canonicalize, cs))
    {fuel : Nat} (hf : items.length < fuel) (done : List Value) (cs : List Char) :
    arrayRest read fuel done (itemsChars items ++ cs) =
      .ok (.array (done.reverse ++ canonicalizeItems items), cs) := by
  induction items generalizing fuel done with
  | nil =>
    obtain ⟨fuel, rfl⟩ : ∃ f, fuel = f + 1 := ⟨fuel - 1, by simp at hf; omega⟩
    simp [itemsChars, arrayRest, skipSpace_cons, isSpace, canonicalizeItems]
  | cons v items ih =>
    obtain ⟨fuel, rfl⟩ : ∃ f, fuel = f + 1 := ⟨fuel - 1, by simp at hf; omega⟩
    have hv := hread v (.head _) (itemsChars items ++ cs) (follows_itemsChars items cs)
    have hrest := ih (fun w hw => hread w (.tail _ hw)) (Nat.lt_of_succ_lt_succ hf)
      (v.canonicalize :: done)
    simp only [itemsChars, List.cons_append, List.append_assoc, arrayRest]
    rw [skipSpace_cons (c := ',') rfl]
    simp only [skipSpace_chars, hv, hrest, List.reverse_cons, List.append_assoc,
      List.singleton_append, canonicalizeItems]

/-- The rest of an object is read when its values are. -/
theorem objectRest_chars {read : Reader Value} {fields : List (String × Value)}
    (hread : ∀ f ∈ fields, ∀ cs, Follows cs →
      read (f.2.chars ++ cs) = .ok (f.2.canonicalize, cs))
    {fuel : Nat} (hf : fields.length < fuel) (done : List (String × Value)) (cs : List Char) :
    objectRest read fuel done (fieldsChars fields ++ cs) =
      .ok (.object (canonicalizeFields done fields), cs) := by
  induction fields generalizing fuel done with
  | nil =>
    obtain ⟨fuel, rfl⟩ : ∃ f, fuel = f + 1 := ⟨fuel - 1, by simp at hf; omega⟩
    simp [fieldsChars, objectRest, skipSpace_cons, isSpace, canonicalizeFields]
  | cons f fields ih =>
    obtain ⟨k, v⟩ := f
    obtain ⟨fuel, rfl⟩ : ∃ f, fuel = f + 1 := ⟨fuel - 1, by simp at hf; omega⟩
    have hv := hread (k, v) (.head _) (fieldsChars fields ++ cs) (follows_fieldsChars fields cs)
    have hrest := ih (fun w hw => hread w (.tail _ hw)) (Nat.lt_of_succ_lt_succ hf)
      (insert k v.canonicalize done)
    simp only [fieldsChars, List.cons_append, List.append_assoc, objectRest]
    rw [skipSpace_cons (c := ',') rfl]
    simp only [skipSpace_quote, field_chars hv, hrest, canonicalizeFields]

/-! ## Values -/

theorem value_array {depth : Nat} {v : Value} {items : List Value} {cs : List Char}
    (hv : value depth (v.chars ++ (itemsChars items ++ cs)) =
      .ok (v.canonicalize, itemsChars items ++ cs))
    (hitems : ∀ v ∈ items, ∀ cs, Follows cs → value depth (v.chars ++ cs) =
      .ok (v.canonicalize, cs)) :
    value (depth + 1) ((Value.array (v :: items)).chars ++ cs) =
      .ok ((Value.array (v :: items)).canonicalize, cs) := by
  obtain ⟨c, ds, hc, hs, hb, -⟩ := v.chars_head
  have hlen := length_itemsChars items
  simp only [Value.chars, List.cons_append, List.append_assoc, value, skipSpace_chars]
  split
  · rename_i h; rw [hc] at h; cases h; exact absurd rfl hb
  · rw [hv]
    simp only
    rw [arrayRest_chars hitems (by simp only [List.length_append]; omega)]
    rfl

theorem value_object {depth : Nat} {k : String} {v : Value} {fields : List (String × Value)}
    {cs : List Char} (hv : value depth (v.chars ++ (fieldsChars fields ++ cs)) =
      .ok (v.canonicalize, fieldsChars fields ++ cs))
    (hfields : ∀ f ∈ fields, ∀ cs, Follows cs → value depth (f.2.chars ++ cs) =
      .ok (f.2.canonicalize, cs)) :
    value (depth + 1) ((Value.object ((k, v) :: fields)).chars ++ cs) =
      .ok ((Value.object ((k, v) :: fields)).canonicalize, cs) := by
  have hlen := length_fieldsChars fields
  simp only [Value.chars, List.cons_append, List.append_assoc, value, skipSpace_quote]
  split
  · rename_i h; cases h
  · rw [field_chars hv]
    simp only
    rw [objectRest_chars hfields (by simp only [List.length_append]; omega)]
    rfl

mutual

/-- **The text of a value reads back as its canonical form.** -/
theorem value_chars : ∀ (v : Value) (depth : Nat) (cs : List Char), v.readable depth = true →
    Follows cs → value depth (v.chars ++ cs) = .ok (v.canonicalize, cs)
  | .null, _, _, _, _ => by simp [Value.chars, value, Value.canonicalize]
  | .bool true, _, _, _, _ => by simp [Value.chars, value, Value.canonicalize]
  | .bool false, _, _, _, _ => by simp [Value.chars, value, Value.canonicalize]
  | .number n, depth, cs, _, h => by
    obtain ⟨c, ds, hc⟩ := List.exists_cons_of_ne_nil n.text_ne_nil
    have hn := number_text n h
    rw [hc, List.cons_append] at hn
    rw [Value.chars, hc, List.cons_append,
      value_number depth (n.text_chars c (by rw [hc]; exact .head _)), hn]
    rfl
  | .string s, _, cs, _, _ => by
    have hs := string_quote s cs
    rw [quote, List.cons_append] at hs
    simp only [Value.chars, quote, List.cons_append, value, hs, Except.map, Value.canonicalize]
  | .array [], depth, _, h, _ => by
    cases depth with
    | zero => cases h
    | succ depth => simp [Value.chars, value, skipSpace_cons, isSpace, Value.canonicalize,
        canonicalizeItems]
  | .array (v :: items), depth, cs, h, _ => by
    cases depth with
    | zero => cases h
    | succ depth =>
      simp only [Value.readable, readableItems, Bool.and_eq_true] at h
      exact value_array (value_chars v depth _ h.1 (follows_itemsChars items cs))
        (items_chars items depth h.2)
  | .object [], depth, _, h, _ => by
    cases depth with
    | zero => cases h
    | succ depth => simp [Value.chars, value, skipSpace_cons, isSpace, Value.canonicalize,
        canonicalizeFields]
  | .object ((k, v) :: fields), depth, cs, h, _ => by
    cases depth with
    | zero => cases h
    | succ depth =>
      simp only [Value.readable, readableFields, Bool.and_eq_true] at h
      exact value_object (value_chars v depth _ h.1 (follows_fieldsChars fields cs))
        (fields_chars fields depth h.2)

theorem items_chars : ∀ (items : List Value) (depth : Nat), readableItems depth items = true →
    ∀ v ∈ items, ∀ cs, Follows cs → value depth (v.chars ++ cs) = .ok (v.canonicalize, cs)
  | [], _, _ => by simp
  | v :: items, depth, h => by
    simp only [readableItems, Bool.and_eq_true] at h
    intro w hw cs hcs
    rcases List.mem_cons.1 hw with e | hw
    · rw [e]; exact value_chars v depth cs h.1 hcs
    · exact items_chars items depth h.2 w hw cs hcs

theorem fields_chars : ∀ (fields : List (String × Value)) (depth : Nat),
    readableFields depth fields = true → ∀ f ∈ fields, ∀ cs, Follows cs →
    value depth (f.2.chars ++ cs) = .ok (f.2.canonicalize, cs)
  | [], _, _ => by simp
  | (k, v) :: fields, depth, h => by
    simp only [readableFields, Bool.and_eq_true] at h
    intro f hf cs hcs
    rcases List.mem_cons.1 hf with e | hf
    · rw [e]; exact value_chars v depth cs h.1 hcs
    · exact fields_chars fields depth h.2 f hf cs hcs

end

/-- **The text of a value, as a document, reads back as its canonical form.** -/
theorem fromStr_print {v : Value} (h : v.readable maxDepth = true) :
    fromStr v.print = .ok v.canonicalize := by
  have hread := value_chars v maxDepth [] h (by rintro _ ⟨⟩)
  have hskip := skipSpace_chars v []
  rw [List.append_nil] at hread hskip
  simp only [fromStr, Value.toList_print, hskip, hread]
  rfl

example : (fromStr "[1.50, \"a\\u0062\", null]").map Value.print = .ok "[1.50,\"ab\",null]" := by
  decide +kernel

end Json
