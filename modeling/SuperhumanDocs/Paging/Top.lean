import SuperhumanDocs.Paging.Limit

/-!
# The first items in an order

An ordering with a limit asks for the first items in some order. A reader that stops early still
has them when none of the items it did not read comes before one of them.

* `TopN.append_iff`: when the first of the items read are the first of all.
* `le_length_limited`: a reader that counts by pages reads enough.
-/

set_option autoImplicit false

namespace Paging

variable {α : Type} {le : α → α → Prop} {limit : Nat} {items more tops : List α}

/-- The first `limit` items: they are in order, and none of the others comes before one of them. -/
structure TopN (le : α → α → Prop) (limit : Nat) (items tops : List α) : Prop where
  sorted : tops.Pairwise le
  length : tops.length = min limit items.length
  others : ∃ others, items.Perm (tops ++ others) ∧ ∀ top ∈ tops, ∀ x ∈ others, le top x

theorem TopN.mem (h : TopN le limit items tops) {top : α} (htop : top ∈ tops) : top ∈ items := by
  obtain ⟨others, hperm, -⟩ := h.others
  exact hperm.mem_iff.2 (List.mem_append_left _ htop)

/-- **When the first of the items read are the first of all**: none of the items that were not read
comes before one of them. -/
theorem TopN.append_iff (h : TopN le limit items tops)
    (hread : min limit (items ++ more).length ≤ items.length) :
    TopN le limit (items ++ more) tops ↔ ∀ top ∈ tops, ∀ x ∈ more, le top x := by
  obtain ⟨others, hperm, hothers⟩ := h.others
  have hmore : (items ++ more).Perm (tops ++ (others ++ more)) := by
    rw [← List.append_assoc]
    exact hperm.append_right more
  constructor
  · intro hall top htop x hx
    obtain ⟨others', hperm', hothers'⟩ := hall.others
    have hsame := (List.perm_append_left_iff tops).1 (hperm'.symm.trans hmore)
    exact hothers' top htop x (hsame.mem_iff.2 (List.mem_append_right _ hx))
  · intro hlast
    refine ⟨h.sorted, ?_, others ++ more, hmore, fun top htop x hx => ?_⟩
    · rw [h.length]
      rw [List.length_append] at hread ⊢
      omega
    · obtain hx | hx := List.mem_append.1 hx
      · exact hothers top htop x hx
      · exact hlast top htop x hx

/-- The first of the items read of a listing in order are the first of all. -/
theorem TopN.of_sorted (h : TopN le limit items tops)
    (hread : min limit (items ++ more).length ≤ items.length)
    (hsorted : (items ++ more).Pairwise le) : TopN le limit (items ++ more) tops :=
  (h.append_iff hread).2 fun top htop x hx =>
    (List.pairwise_append.1 hsorted).2.2 top (h.mem htop) x hx

/-- A reader by pages reads up to the limit. -/
theorem le_length_limited (limit : Nat) (pages : List (List α)) :
    min limit pages.flatten.length ≤ (limited limit pages).length := by
  induction pages generalizing limit with
  | nil => simp
  | cons page pages ih =>
    rw [List.flatten_cons, List.length_append]
    have hcases : (limit = 0 ∨ page.length < limit) ∨ 0 < limit ∧ limit ≤ page.length := by omega
    obtain hshort | hreached := hcases
    · rw [limited_short pages hshort, List.length_append]
      have := ih (limit - page.length)
      omega
    · rw [limited_reached pages hreached.1 hreached.2]
      omega

theorem limited_map {β : Type} (f : α → β) (limit : Nat) (pages : List (List α)) :
    limited limit (pages.map (List.map f)) = (limited limit pages).map f := by
  induction pages generalizing limit with
  | nil => simp [limited]
  | cons page pages ih =>
    rw [List.map_cons]
    have hcases : (limit = 0 ∨ page.length < limit) ∨ 0 < limit ∧ limit ≤ page.length := by omega
    obtain hshort | hreached := hcases
    · rw [limited_short pages hshort, limited_short _ (by simpa using hshort), List.length_map, ih,
        List.map_append]
    · rw [limited_reached pages hreached.1 hreached.2,
        limited_reached _ hreached.1 (by simpa using hreached.2)]

end Paging
