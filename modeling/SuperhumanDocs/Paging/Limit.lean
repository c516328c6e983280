import Mathlib.Data.List.Basic

/-!
# Reading pages against a limit

`limited limit pages` is what a reader gets that counts items against a limit but looks at the
count only between pages: it never stops inside a page. A limit of zero is no limit.

* `limited_eq_take_iff`: exactly when that is the first `limit` items.
-/

set_option autoImplicit false

namespace Paging

variable {α : Type}

/-- The items of whole pages, up to the page on which the limit is reached. -/
def limited : Nat → List (List α) → List α
  | _, [] => []
  | 0, page :: pages => page ++ limited 0 pages
  | limit + 1, page :: pages =>
    if limit + 1 ≤ page.length then page else page ++ limited (limit + 1 - page.length) pages

theorem limited_zero (pages : List (List α)) : limited 0 pages = pages.flatten := by
  induction pages with
  | nil => rfl
  | cons page pages ih => rw [limited, ih, List.flatten_cons]

/-- Empty pages do not count. -/
theorem limited_nil_cons (limit : Nat) (pages : List (List α)) :
    limited limit ([] :: pages) = limited limit pages := by
  cases limit with
  | zero => rfl
  | succ limit => simp [limited]

theorem limited_reached {limit : Nat} {page : List α} (pages : List (List α)) (h₀ : 0 < limit)
    (h : limit ≤ page.length) : limited limit (page :: pages) = page := by
  obtain ⟨limit, rfl⟩ : ∃ n, limit = n + 1 := ⟨limit - 1, by omega⟩
  rw [limited, if_pos h]

theorem limited_short {limit : Nat} {page : List α} (pages : List (List α))
    (h : limit = 0 ∨ page.length < limit) :
    limited limit (page :: pages) = page ++ limited (limit - page.length) pages := by
  cases limit with
  | zero => simp [limited]
  | succ limit => rw [limited, if_neg (by omega)]

theorem limited_singleton (limit : Nat) (page : List α) : limited limit [page] = page := by
  cases limit with
  | zero => simp [limited]
  | succ limit => simp [limited]

/-- Empty pages in front do not count. -/
theorem limited_skip {limit : Nat} {skipped pages : List (List α)}
    (h : ∀ page ∈ skipped, page = []) :
    limited limit (skipped ++ pages) = limited limit pages := by
  induction skipped with
  | nil => rfl
  | cons page skipped ih =>
    rw [h page (.head _), List.cons_append, limited_nil_cons]
    exact ih fun page hp => h page (.tail _ hp)

/-- The first item of a page is read, and counts. -/
theorem limited_cons_cons {limit : Nat} (x : α) (page : List α) (pages : List (List α))
    (h : limit ≠ 1) : limited limit ((x :: page) :: pages) =
      x :: limited (limit - 1) (page :: pages) := by
  rcases Nat.lt_or_ge page.length limit with hl | hl
  · rcases Nat.lt_or_ge (page.length + 1) limit with hl' | hl'
    · rw [limited_short pages (.inr (by simpa using hl')), limited_short pages (.inr (by omega)),
        List.length_cons, show limit - (page.length + 1) = limit - 1 - page.length by omega]
      rfl
    · rw [limited_reached pages (by omega) (by simpa using hl'),
        limited_reached pages (by omega) (by omega)]
  · rcases Nat.eq_zero_or_pos limit with rfl | h₀
    · rw [limited_short pages (.inl rfl), limited_short pages (.inl rfl)]
      simp
    · rw [limited_reached pages h₀ (by simp; omega), limited_reached pages (by omega) (by omega)]

theorem limited_prefix (limit : Nat) (pages : List (List α)) :
    limited limit pages <+: pages.flatten := by
  induction pages generalizing limit with
  | nil => exact List.prefix_rfl
  | cons page pages ih =>
    rw [List.flatten_cons]
    rcases Nat.lt_or_ge page.length limit with hl | hl
    · rw [limited_short pages (.inr hl)]
      exact (List.prefix_append_right_inj page).2 (ih _)
    · rcases Nat.eq_zero_or_pos limit with rfl | h₀
      · simp only [limited_zero, List.flatten_cons, List.prefix_rfl]
      · rw [limited_reached pages h₀ hl]
        exact List.prefix_append _ _

/-- **When a reader by pages gets exactly the first `limit` items**: there are fewer, or some
pages hold exactly `limit`. -/
theorem limited_eq_take_iff {limit : Nat} (h₀ : 0 < limit) (pages : List (List α)) :
    limited limit pages = pages.flatten.take limit ↔
      pages.flatten.length < limit ∨ ∃ n, (pages.take n).flatten.length = limit := by
  induction pages generalizing limit with
  | nil => simp [limited, h₀]
  | cons page pages ih =>
    -- the prefixes of the pages, the empty one apart
    have hpre : (∃ n, ((page :: pages).take n).flatten.length = limit) ↔
        ∃ n, page.length + (pages.take n).flatten.length = limit := by
      constructor
      · intro ⟨n, hn⟩
        cases n with
        | zero => simp at hn; omega
        | succ n => exact ⟨n, by simpa using hn⟩
      · intro ⟨n, hn⟩
        exact ⟨n + 1, by simpa using hn⟩
    rw [hpre, List.flatten_cons, List.length_append]
    rcases Nat.lt_or_ge page.length limit with hl | hl
    · rw [limited_short pages (.inr hl), List.take_append, List.take_of_length_le (by omega),
        List.append_cancel_left_eq, ih (by omega)]
      constructor
      · rintro (h | ⟨n, h⟩)
        · exact .inl (by omega)
        · exact .inr ⟨n, by omega⟩
      · rintro (h | ⟨n, h⟩)
        · exact .inl (by omega)
        · exact .inr ⟨n, by omega⟩
    · rw [limited_reached pages h₀ hl, List.take_append_of_le_length hl]
      constructor
      · intro h
        have := congrArg List.length h
        rw [List.length_take] at this
        exact .inr ⟨0, by simp; omega⟩
      · rintro (h | ⟨n, h⟩)
        · omega
        · rw [List.take_of_length_le (by omega)]

end Paging
