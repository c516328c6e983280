import SuperhumanDocs.Raw.Block

/-!
# The runtime of the boundary

Strings, slices, handles and errors between Rust and C++, each with what it owns before and after:
a string of its own (`IsString`) is read any number of times and freed once, and a slice
(`IsSlice`) is what `vecIntoRawParts` gives away and `vecFromRawParts` takes back.
-/

set_option autoImplicit false

namespace SuperhumanDocs.Raw

open Memory

variable {α γ : Type}

/-! ## Strings -/

/-- The bytes of a text, for a pointer to it with a length. -/
def readBytes (text : String) (len : ℕ) : Program Block String :=
  if text.utf8ByteSize = len then pure text else undefinedBehaviour

/-- `as_str` in Rust. -/
def RustExtString.asStr (value : RustExtString) : Program Block String :=
  if value.len = 0 then pure ""
  else
    match value.ptr with
    | .null => pure ""
    | .lent text => readBytes text value.len
    | .owned address => do readBytes (← deref String address) value.len
    | .inside address field => do
      match (← read address).text field with
      | some text => readBytes text value.len
      | none => undefinedBehaviour

/-- Give the bytes back to the allocator, which is undefined unless it gave them out. -/
def RustExtString.free (value : RustExtString) : Program Block Unit :=
  if value.len = 0 then pure ()
  else
    match value.ptr with
    | .null => pure ()
    | .owned address => do
      let _ ← readBytes (← unbox String address) value.len
    | _ => undefinedBehaviour

/-- The same bytes in C++. -/
def rustBridgeString (value : RustExtString) : Program Block String := value.asStr

def takeRustBridgeString (value : RustExtString) : Program Block String := do
  let result ← rustBridgeString value
  value.free
  return result

/-- A field of a boxed record, lent to C++. -/
def borrowString (address : ℕ) (field : Field) (value : String) : RustExtString where
  ptr := .inside address field
  len := value.utf8ByteSize

/-- A string of the caller or a constant. -/
def lendString (value : String) : RustExtString where
  ptr := .lent value
  len := value.utf8ByteSize

section
variable [Allocator Block]

def allocString (value : String) : Program Block RustExtString :=
  if value.isEmpty then pure .default
  else do
    let address ← box Block value
    return { ptr := .owned address, len := value.utf8ByteSize }

/-! ## Slices -/

def vecIntoRawParts [Storable Block (List γ)] (items : List γ) : Program Block (Option ℕ × ℕ) :=
  if items.isEmpty then pure (none, 0)
  else do return (some (← box Block items), items.length)

end

def vecFromRawParts (γ : Type) [Storable Block (List γ)] (ptr : Option ℕ) (len : ℕ) :
    Program Block (List γ) :=
  match ptr with
  | none => pure []
  | some address => do
    let items ← unbox (List γ) address
    if items.length = len then pure items else undefinedBehaviour

def sliceFromRawParts (γ : Type) [Storable Block (List γ)] (ptr : Option ℕ) (len : ℕ) :
    Program Block (List γ) :=
  match ptr with
  | none => pure []
  | some address => do
    let items ← deref (List γ) address
    if len ≤ items.length then pure (items.take len) else undefinedBehaviour

/-! ## Handles and errors -/

/-- The record behind a handle; `name` is for the error. -/
def refFromRaw (α : Type) [Storable Block α] (handle : Option ℕ) (name : String) :
    Program Block (Except String α) :=
  match handle with
  | none => pure (.error s!"missing {name} pointer")
  | some address => do return .ok (← deref α address)

/-- Drop what a handle holds, when it is one. -/
def dropHandle (α : Type) [Storable Block α] (handle : Option ℕ) : Program Block Unit :=
  match handle with
  | none => pure ()
  | some address => do
    let _ ← unbox α address

/-- A pointer to an item of a slice. -/
structure ItemPtr where
  slice : ℕ
  index : ℕ
deriving DecidableEq, Repr

def ItemPtr.deref (γ : Type) [Storable Block (List γ)] (ptr : ItemPtr) : Program Block γ := do
  match (← Memory.deref (List γ) ptr.slice)[ptr.index]? with
  | some item => return item
  | none => undefinedBehaviour

/-- What C++ throws. -/
inductive Exception where
  | invalidInput (message : String)
  | internal (message : String)
  | notImplemented (message : String)
  | outOfMemory (message : String)
deriving DecidableEq, Repr

/-- `ffi_bool`: the output, or the message of the error under its context. A call that waits for
the server has neither (`none`). -/
def ffiBool [Allocator Block] (context : String) (result : Except Stop α) :
    Program Block (Except (Option RustExtString) α) :=
  match result with
  | .ok a => pure (.ok a)
  | .error .waiting => pure (.error none)
  | .error (.failed message) => do
    return .error (some (← allocString s!"{context}: {message}"))

/-- C++ throws the message of an error, after it took the string. -/
def orThrow (thrown : String → Exception) (result : Except (Option RustExtString) α) :
    Program Block (Except (Option Exception) α) :=
  match result with
  | .ok a => pure (.ok a)
  | .error none => pure (.error none)
  | .error (some message) => do return .error (some (thrown (← takeRustBridgeString message)))

/-- What C++ throws for a call that stopped. -/
def Stop.thrown (context : String) (thrown : String → Exception) : Stop → Option Exception
  | .waiting => none
  | .failed message => some (thrown s!"{context}: {message}")

/-! ## What they own -/

/-- A string of its own. -/
inductive IsString : RustExtString → String → Owned Block → Prop
  | empty : IsString .default "" 0
  | bytes (address : ℕ) {text : String} (h : text ≠ "") :
    IsString { ptr := .owned address, len := text.utf8ByteSize } text (cell address (.bytes text))

/-- A slice of items, which may own more. -/
inductive IsSlice [Storable Block (List γ)] (R : γ → α → Owned Block → Prop) :
    Option ℕ × ℕ → List α → Owned Block → Prop
  | empty : IsSlice R (none, 0) [] 0
  | items {address : ℕ} {cs : List γ} {as : List α} {own : Owned Block} : Each R cs as own →
    IsSlice R (some address, cs.length) as (own + cell address (Storable.store cs))

theorem readBytes_spec (text : String) (own : Owned Block) :
    Triple own (readBytes text text.utf8ByteSize) (Leaves text own) := by
  rw [readBytes, if_pos rfl]
  exact Triple.pure ⟨rfl, rfl⟩

/-! ### Strings -/

section
variable {raw : RustExtString} {text : String} {own : Owned Block}

theorem utf8ByteSize_ne_zero (h : text ≠ "") : text.utf8ByteSize ≠ 0 := fun hsize =>
  h (String.utf8ByteSize_eq_zero_iff.1 hsize)

theorem allocString_spec [Allocator Block] (text : String) :
    Triple 0 (allocString text) fun raw own => IsString raw text own := by
  rw [allocString]
  by_cases h : text = ""
  · rw [if_pos (String.isEmpty_iff.2 h), h]
    exact Triple.pure .empty
  · rw [if_neg (by simpa using h)]
    refine (Triple.alloc _).bind fun address own hown => Triple.pure ?_
    rw [hown]
    exact .bytes address h

/-- **A string of its own can be read.** -/
theorem IsString.asStr (h : IsString raw text own) : Triple own raw.asStr (Leaves text own) := by
  cases h with
  | empty => exact Triple.pure ⟨rfl, rfl⟩
  | bytes address h =>
    rw [RustExtString.asStr, if_neg (utf8ByteSize_ne_zero h)]
    exact (Triple.deref address text).leaves_bind (readBytes_spec text _)

/-- **A string of its own can be freed.** -/
theorem IsString.free (h : IsString raw text own) : Triple own raw.free (Leaves () 0) := by
  cases h with
  | empty => exact Triple.pure ⟨rfl, rfl⟩
  | bytes address h =>
    rw [RustExtString.free, if_neg (utf8ByteSize_ne_zero h)]
    exact (Triple.unbox address text).leaves_bind
      ((readBytes_spec text 0).leaves_bind (Triple.pure ⟨rfl, rfl⟩))

theorem IsString.take (h : IsString raw text own) :
    Triple own (takeRustBridgeString raw) (Leaves text 0) :=
  h.asStr.leaves_bind (h.free.leaves_bind (Triple.pure ⟨rfl, rfl⟩))

theorem lendString_asStr (text : String) (own : Owned Block) :
    Triple own (lendString text).asStr (Leaves text own) := by
  unfold RustExtString.asStr lendString
  dsimp only
  by_cases h : text = ""
  · rw [if_pos (by rw [h]; rfl), h]
    exact Triple.pure ⟨rfl, rfl⟩
  · rw [if_neg (utf8ByteSize_ne_zero h)]
    exact readBytes_spec text own

/-- A field of a record can be read as long as the record is there. -/
theorem borrowString_asStr {address : ℕ} {field : Field} {block : Block}
    (h : block.text field = some text) :
    Triple (cell address block) (borrowString address field text).asStr
      (Leaves text (cell address block)) := by
  unfold RustExtString.asStr borrowString
  dsimp only
  by_cases hempty : text = ""
  · rw [if_pos (by rw [hempty]; rfl), hempty]
    exact Triple.pure ⟨rfl, rfl⟩
  · rw [if_neg (utf8ByteSize_ne_zero hempty)]
    refine (Triple.read address block).leaves_bind ?_
    rw [h]
    exact readBytes_spec text _

end

/-! ### Slices -/

section
variable [Storable Block (List γ)] {R : γ → α → Owned Block → Prop} {parts : Option ℕ × ℕ}
  {cs : List γ} {as : List α} {own : Owned Block}

theorem vecIntoRawParts_spec [Allocator Block] (h : Each R cs as own) :
    Triple own (vecIntoRawParts cs) fun parts own => IsSlice R parts as own := by
  rw [vecIntoRawParts]
  cases h with
  | nil => exact Triple.pure .empty
  | @cons c a own cs as owns hc hcs =>
    rw [if_neg (by simp), ← zero_add (own + owns)]
    refine (Triple.alloc (Storable.store (c :: cs))).frame_bind fun address own' hown => ?_
    refine Triple.pure ?_
    rw [hown, add_comm]
    exact .items (.cons hc hcs)

/-- **A slice is taken back whole.** -/
theorem IsSlice.take (h : IsSlice R parts as own) :
    Triple own (vecFromRawParts γ parts.1 parts.2) fun cs own => Each R cs as own := by
  cases h with
  | empty => exact Triple.pure .nil
  | @items address cs as own h =>
    rw [vecFromRawParts, add_comm]
    refine (Triple.unbox address cs).leaves_frame_bind ?_
    rw [if_pos rfl, zero_add]
    exact Triple.pure h

/-- The items of a slice, for as long as it is there. -/
theorem IsSlice.read (h : IsSlice R parts as own) :
    Triple own (sliceFromRawParts γ parts.1 parts.2) fun cs own' =>
      own' = own ∧ ∃ own₁ own₂, own = own₁ + own₂ ∧ Each R cs as own₁ := by
  cases h with
  | empty => exact Triple.pure ⟨rfl, 0, 0, rfl, .nil⟩
  | @items address cs as own h =>
    rw [sliceFromRawParts, add_comm]
    refine (Triple.deref address cs).leaves_frame_bind ?_
    rw [if_pos (Nat.le_refl _), List.take_length]
    exact Triple.pure ⟨rfl, own, _, add_comm _ _, h⟩

/-- A pointer to an item of a slice that is there. -/
theorem ItemPtr.deref_spec {address index : ℕ} {c : γ} (hc : cs[index]? = some c) :
    Triple (cell address (Storable.store cs)) (ItemPtr.deref γ ⟨address, index⟩)
      (Leaves c (cell address (Storable.store cs))) := by
  refine (Triple.deref address cs).leaves_bind ?_
  rw [hc]
  exact Triple.pure ⟨rfl, rfl⟩

theorem IsSlice.length_eq (h : IsSlice R parts as own) : parts.2 = as.length := by
  cases h with
  | empty => rfl
  | items h => exact h.length_eq

/-- **An item of a slice**: it can be read through a pointer, and what it owns is there. -/
theorem IsSlice.item (h : IsSlice R parts as own) {index : ℕ} {a : α} (ha : as[index]? = some a) :
    ∃ slice c own₁ rest, parts.1 = some slice ∧ R c a own₁ ∧ own = own₁ + rest ∧
      Triple own (ItemPtr.deref γ ⟨slice, index⟩) (Leaves c own) := by
  cases h with
  | empty => cases ha
  | @items slice cs _ own hitems =>
    obtain ⟨hlt, -⟩ := List.getElem?_eq_some_iff.1 ha
    have hc := List.getElem?_eq_getElem (l := cs) (hitems.length_eq ▸ hlt)
    obtain ⟨a', own₁, own₂, ha', hR, rfl⟩ := hitems.get hc
    rw [ha, Option.some.injEq] at ha'
    subst ha'
    refine ⟨slice, _, own₁, own₂ + cell slice (Storable.store cs), rfl, hR, by abel, ?_⟩
    rw [add_comm _ (cell slice _)]
    exact (ItemPtr.deref_spec hc).leaves_frame _

end

/-! ### Handles and errors -/

section
variable [Storable Block α] (address : ℕ) (a : α)

theorem refFromRaw_spec (name : String) :
    Triple (cell address (Storable.store a)) (refFromRaw α (some address) name)
      (Leaves (.ok a) (cell address (Storable.store a))) :=
  (Triple.deref address a).leaves_bind (Triple.pure ⟨rfl, rfl⟩)

theorem dropHandle_spec :
    Triple (cell address (Storable.store a)) (dropHandle α (some address)) (Leaves () 0) :=
  (Triple.unbox address a).leaves_bind (Triple.pure ⟨rfl, rfl⟩)

end

/-- **A call over the boundary**: its error is thrown under the context, and nothing is left of
the string it came in. -/
theorem ffiBool_orThrow [Allocator Block] (context : String) (thrown : String → Exception)
    (result : Except Stop α) (own : Owned Block) :
    Triple own (ffiBool context result >>= orThrow thrown)
      (Leaves (result.mapError (Stop.thrown context thrown)) own) := by
  match result with
  | .ok a => exact Triple.pure ⟨rfl, rfl⟩
  | .error .waiting => exact Triple.pure ⟨rfl, rfl⟩
  | .error (.failed message) =>
    simp only [ffiBool, bind_assoc, pure_bind]
    rw [← zero_add own]
    refine (allocString_spec _).frame_bind fun raw own₁ hraw => ?_
    exact hraw.take.leaves_frame_bind (Triple.pure ⟨rfl, rfl⟩)

end SuperhumanDocs.Raw
