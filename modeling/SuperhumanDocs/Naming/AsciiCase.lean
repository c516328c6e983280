import Mathlib.Logic.Function.Basic

/-!
# Names up to ASCII case

`String.toLower` as the key of a name: how it goes through concatenation and numerals, and the
numbered variants of a name, which have different keys.
-/

set_option autoImplicit false

namespace Naming

theorem toList_toLower (s : String) : s.toLower.toList = s.toList.map Char.toLower :=
  String.toList_map

theorem toLower_eq_iff {s t : String} :
    s.toLower = t.toLower ↔ s.toList.map Char.toLower = t.toList.map Char.toLower := by
  rw [← toList_toLower, ← toList_toLower, String.toList_inj]

theorem toLower_append (s t : String) : (s ++ t).toLower = s.toLower ++ t.toLower := by
  apply String.toList_injective
  simp [toList_toLower]

theorem toLower_of_isDigit {c : Char} (h : c.isDigit = true) : c.toLower = c := by
  have hc := Char.isDigit_iff_toNat.1 h
  have hlt : ¬(c.val ≥ 65 ∧ c.val ≤ 90) := fun hupper => by
    have hle := UInt32.le_iff_toNat_le.1 hupper.1
    have hnine : c.toNat ≤ 57 := hc.2
    change 65 ≤ c.toNat at hle
    omega
  exact dif_neg hlt

/-- A numeral has no letters. -/
theorem toLower_repr (n : Nat) : (Nat.repr n).toLower = Nat.repr n := by
  apply String.toList_injective
  rw [toList_toLower, Nat.toList_repr]
  calc (Nat.toDigits 10 n).map Char.toLower = (Nat.toDigits 10 n).map id := by
        apply List.map_congr_left
        intro c hc
        exact toLower_of_isDigit (Nat.isDigit_of_mem_toDigits (by decide) (by decide) hc)
    _ = Nat.toDigits 10 n := List.map_id _

theorem numbered_eq (base : String) (n : Nat) : s!"{base}_{n}" = base ++ ("_" ++ Nat.repr n) := by
  change base ++ "_" ++ Nat.repr n = _
  rw [String.append_assoc]

theorem toLower_numbered (base : String) (n : Nat) :
    (s!"{base}_{n}").toLower = base.toLower ++ ("_" ++ Nat.repr n) := by
  have hbar : ("_" : String).toLower = "_" := by decide +kernel
  rw [numbered_eq, toLower_append, toLower_append, toLower_repr, hbar]

/-- Different numbers behind one name give different keys. -/
theorem toLower_numbered_injective (base : String) :
    Function.Injective fun n : Nat => (s!"{base}_{n}").toLower := by
  intro m n h
  have hkeys : base.toLower ++ ("_" ++ Nat.repr m) = base.toLower ++ ("_" ++ Nat.repr n) := by
    rw [← toLower_numbered, ← toLower_numbered]
    exact h
  rw [String.append_right_inj, String.append_right_inj] at hkeys
  have hdigits : Nat.toDigits 10 m = Nat.toDigits 10 n := by
    rw [← Nat.toList_repr, hkeys, Nat.toList_repr]
  rw [← Nat.ofDigitChars_ten_toDigits (n := m), hdigits, Nat.ofDigitChars_ten_toDigits]

/-- A numbered name is never the name itself. -/
theorem toLower_numbered_ne (base : String) (n : Nat) :
    (s!"{base}_{n}").toLower ≠ base.toLower := by
  intro h
  rw [toLower_numbered] at h
  have hlength := congrArg String.length h
  rw [String.length_append, String.length_append] at hlength
  have hbar : ("_" : String).length = 1 := by decide +kernel
  omega

end Naming
