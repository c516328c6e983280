import Mathlib.Data.List.Basic

/-!
# Positions in a listing and its changes

A listing is read page by page; after its last page, a sync token leads to the changes, which are
read page by page too. An answer gives the token of the next page and a sync token, if any.

* `asked_succ`: each request follows from the answer before it.
* `asked_sync`: the sync token is asked with at most once.
* `Ends.asked_length`: how many requests a reader makes that is done after some answers.
* `attempts_first`: a reader that asks again after failures does not start again.
-/

set_option autoImplicit false

namespace Paging

/-- The tokens of an answer: for the next page, and for the changes. -/
structure Answer (τ : Type) where
  page : Option τ
  sync : Option τ

/-- Where the reader is. -/
inductive Position (τ : Type) where
  | first
  | page (token : τ)
  | sync (token : τ)
  | changes (token : τ)
  | done
deriving DecidableEq

namespace Position

variable {τ : Type} {p q : Position τ} {answers : List (Answer τ)}

def pageToken : Position τ → Option τ
  | page token | changes token => some token
  | _ => none

def syncToken : Position τ → Option τ
  | sync token => some token
  | _ => none

def isDone : Position τ → Bool
  | done => true
  | _ => false

/-- The position after an answer. -/
def next : Position τ → Answer τ → Position τ
  | first, answer | page _, answer =>
    match answer.page, answer.sync with
    | some token, _ => page token
    | none, some token => sync token
    | none, none => done
  | sync _, answer | changes _, answer =>
    match answer.page with
    | some token => changes token
    | none => done
  | done, _ => done

/-- The request is one for changes. -/
def readsChanges : Position τ → Bool
  | sync _ | changes _ => true
  | _ => false

theorem next_page (hp : p.isDone = false) {answer : Answer τ} {token : τ}
    (h : answer.page = some token) :
    p.next answer = if p.readsChanges then changes token else page token := by
  cases p <;> simp [isDone, next, readsChanges, h] at hp ⊢

theorem next_last (hp : p.isDone = false) {answer : Answer τ} (h : answer.page = none) :
    p.next answer = if p.readsChanges then done else
      match answer.sync with
      | some token => sync token
      | none => done := by
  cases p <;> cases hsync : answer.sync <;> simp [isDone, next, readsChanges, h, hsync] at hp ⊢

/-- The positions at which a reader asks, if these answers come one after the other. -/
def asked (p : Position τ) : List (Answer τ) → List (Position τ)
  | [] => if p.isDone then [] else [p]
  | answer :: answers => if p.isDone then [] else p :: asked (p.next answer) answers

/-- The position after all answers. -/
def finish (p : Position τ) (answers : List (Answer τ)) : Position τ := answers.foldl next p

/-- The positions at which these answers come. -/
def trail (p : Position τ) : List (Answer τ) → List (Position τ)
  | [] => []
  | answer :: answers => p :: trail (p.next answer) answers

/-- The reader is not done before any of these answers. -/
def Live (p : Position τ) (answers : List (Answer τ)) : Prop :=
  ∀ q ∈ trail p answers, q.isDone = false

theorem tokens_exclusive (p : Position τ) : p.pageToken = none ∨ p.syncToken = none := by
  cases p <;> simp [pageToken, syncToken]

theorem isDone_iff : p.isDone = true ↔ p = done := by
  cases p <;> simp [isDone]

/-! ## Requests -/

theorem asked_done (answers : List (Answer τ)) : asked (done : Position τ) answers = [] := by
  cases answers <;> rfl

theorem asked_nil (h : p.isDone = false) : asked p [] = [p] := if_neg (by simp [h])

theorem asked_cons (h : p.isDone = false) (answer : Answer τ) (answers : List (Answer τ)) :
    asked p (answer :: answers) = p :: asked (p.next answer) answers := if_neg (by simp [h])

/-- The requests go on after some answers. -/
theorem asked_append {xs : List (Answer τ)} (h : Live p xs) (ys : List (Answer τ)) :
    asked p (xs ++ ys) = trail p xs ++ asked (finish p xs) ys := by
  induction xs generalizing p with
  | nil => rfl
  | cons answer xs ih =>
    rw [List.cons_append, asked_cons (h p (.head _)), ih fun q hq => h q (.tail _ hq)]
    rfl

theorem trail_append (xs ys : List (Answer τ)) :
    trail p (xs ++ ys) = trail p xs ++ trail (finish p xs) ys := by
  induction xs generalizing p with
  | nil => rfl
  | cons answer xs ih => exact congrArg (p :: ·) ih

theorem finish_append (xs ys : List (Answer τ)) :
    finish p (xs ++ ys) = finish (finish p xs) ys := List.foldl_append

theorem trail_length (p : Position τ) (answers : List (Answer τ)) :
    (trail p answers).length = answers.length := by
  induction answers generalizing p with
  | nil => rfl
  | cons answer answers ih => exact congrArg (· + 1) (ih _)

theorem Live.append {xs ys : List (Answer τ)} (h : Live p xs) (h' : Live (finish p xs) ys) :
    Live p (xs ++ ys) := by
  intro q hq
  rw [trail_append] at hq
  rcases List.mem_append.1 hq with hq | hq
  · exact h q hq
  · exact h' q hq

theorem asked_head? (h : (asked p answers).head? = some q) : q = p := by
  cases answers with
  | nil =>
    by_cases hp : p.isDone = true
    · simp [asked, hp] at h
    · simpa [asked, hp, eq_comm] using h
  | cons answer answers =>
    by_cases hp : p.isDone = true
    · simp [asked, hp] at h
    · simpa [asked, hp, eq_comm] using h

/-- **Each request follows from the answer before it.** -/
theorem asked_succ {i : Nat} (h : (asked p answers)[i + 1]? = some q) :
    ∃ q₀ answer, (asked p answers)[i]? = some q₀ ∧ answers[i]? = some answer ∧
      q = q₀.next answer ∧ q.isDone = false := by
  induction answers generalizing p i with
  | nil => by_cases hp : p.isDone = true <;> simp [asked, hp] at h
  | cons answer answers ih =>
    by_cases hp : p.isDone = true
    · simp [asked, hp] at h
    · rw [Bool.not_eq_true] at hp
      rw [asked_cons hp, List.getElem?_cons_succ] at h
      cases i with
      | zero =>
        rw [← List.head?_eq_getElem?] at h
        have hq := asked_head? h
        refine ⟨p, answer, by rw [asked_cons hp]; rfl, rfl, hq, ?_⟩
        by_contra hdone
        rw [Bool.not_eq_false, isDone_iff] at hdone
        rw [← hq, hdone, asked_done] at h
        cases h
      | succ i =>
        obtain ⟨q₀, a, hq₀, ha, hq⟩ := ih h
        exact ⟨q₀, a, by rw [asked_cons hp]; exact hq₀, ha, hq⟩

/-- Only the first request carries no token. -/
theorem next_token {answer : Answer τ} (h : (p.next answer).isDone = false) :
    (p.next answer).pageToken ≠ none ∨ (p.next answer).syncToken ≠ none := by
  obtain ⟨page, sync⟩ := answer
  cases p <;> cases page <;> cases sync <;> simp [next, pageToken, syncToken, isDone] at h ⊢

/-- The sync token is asked with after the last page. -/
theorem next_sync {answer : Answer τ} (h : (p.next answer).syncToken ≠ none) :
    answer.page = none := by
  obtain ⟨page, sync⟩ := answer
  cases p <;> cases page <;> cases sync <;> simp [next, syncToken] at h ⊢

/-- The changes have begun. -/
def inChanges : Position τ → Bool
  | changes _ | done => true
  | _ => false

theorem next_inChanges (h : p.inChanges = true ∨ p.syncToken ≠ none) (answer : Answer τ) :
    (p.next answer).inChanges = true := by
  obtain ⟨page, sync⟩ := answer
  cases p <;> cases page <;> simp [next, inChanges, syncToken] at h ⊢

theorem asked_inChanges (h : p.inChanges = true) : ∀ q ∈ asked p answers, q.syncToken = none := by
  induction answers generalizing p with
  | nil =>
    intro q hq
    by_cases hp : p.isDone = true
    · simp [asked, hp] at hq
    · have : q = p := by simpa [asked, hp] using hq
      subst this
      cases q <;> simp [inChanges, syncToken] at h ⊢
  | cons answer answers ih =>
    intro q hq
    by_cases hp : p.isDone = true
    · simp [asked, hp] at hq
    · rw [Bool.not_eq_true] at hp
      rw [asked_cons hp] at hq
      rcases List.mem_cons.1 hq with rfl | hq
      · cases q <;> simp [inChanges, syncToken] at h ⊢
      · exact ih (next_inChanges (.inl h) answer) q hq

/-- **The sync token is asked with at most once.** -/
theorem asked_sync (p : Position τ) (answers : List (Answer τ)) :
    (asked p answers).Pairwise fun q q' => q.syncToken = none ∨ q'.syncToken = none := by
  induction answers generalizing p with
  | nil => by_cases hp : p.isDone = true <;> simp [asked, hp]
  | cons answer answers ih =>
    by_cases hp : p.isDone = true
    · simp [asked, hp]
    · rw [Bool.not_eq_true] at hp
      rw [asked_cons hp]
      refine .cons (fun q hq => ?_) (ih _)
      by_cases hsync : p.syncToken = none
      · exact .inl hsync
      · exact .inr (asked_inChanges (next_inChanges (.inr hsync) answer) q hq)

/-! ## The end -/

/-- The reader is done after these answers, and not before. -/
inductive Ends : Position τ → List (Answer τ) → Prop
  | nil : Ends done []
  | cons {p : Position τ} {answer : Answer τ} {answers : List (Answer τ)} : p.isDone = false →
      Ends (p.next answer) answers → Ends p (answer :: answers)

/-- A chain of pages: every answer but the last has a token for the next page. -/
def Chain (answers : List (Answer τ)) : Prop :=
  ∃ pages last, answers = pages ++ [last] ∧ (∀ answer ∈ pages, answer.page ≠ none) ∧
    last.page = none

/-- **A reader that is done after some answers asked once for each.** -/
theorem Ends.asked_length (h : Ends p answers) (more : List (Answer τ)) :
    (asked p (answers ++ more)).length = answers.length := by
  induction h with
  | nil => rw [asked_done]; rfl
  | cons hp h ih => rw [List.cons_append, asked_cons hp, List.length_cons, ih, List.length_cons]

theorem Ends.finish (h : Ends p answers) : finish p answers = done := by
  induction h with
  | nil => rfl
  | cons hp h ih => exact ih

theorem Ends.isDone_iff (h : Ends p answers) : p.isDone = true ↔ answers = [] := by
  cases h with
  | nil => exact iff_of_true rfl rfl
  | cons hp _ => simp [hp]

/-- A reader on the way to the end has the rest to read. -/
theorem Ends.rest {ending used later later' : List (Answer τ)} (h : Ends p ending)
    (hused : Live p used) (heq : ending ++ later = used ++ later') :
    ∃ left, ending = used ++ left ∧ Ends (Position.finish p used) left := by
  induction used generalizing p ending with
  | nil => exact ⟨ending, rfl, h⟩
  | cons answer used ih =>
    have hp : p.isDone = false := hused p (.head _)
    cases h with
    | nil => cases hp
    | cons _ h =>
      obtain ⟨rfl, hrest⟩ := List.cons.inj heq
      obtain ⟨left, rfl, hleft⟩ := ih h (fun q hq => hused q (.tail _ hq)) hrest
      exact ⟨left, rfl, hleft⟩

/-- The changes are read to the end of their chain. -/
theorem changes_ends (hp : p.syncToken ≠ none ∨ p.pageToken ≠ none ∧ p.inChanges = true)
    (h : Chain answers) : Ends p answers := by
  obtain ⟨pages, last, rfl, hpages, hlast⟩ := h
  have hnot : p.isDone = false := by
    cases p <;> simp [isDone, syncToken, pageToken] at hp ⊢
  induction pages generalizing p with
  | nil =>
    refine .cons hnot ?_
    have hnext : p.next last = done := by
      cases p <;> simp [next, hlast, syncToken, pageToken, inChanges] at hp ⊢
    rw [hnext]
    exact .nil
  | cons answer pages ih =>
    refine .cons hnot ?_
    obtain ⟨token, htoken⟩ := Option.ne_none_iff_exists'.1 (hpages answer (.head _))
    have hnext : p.next answer = changes token := by
      cases p <;> simp [next, htoken, syncToken, pageToken, inChanges] at hp ⊢
    rw [hnext]
    exact ih (.inr ⟨by simp [pageToken], rfl⟩) (fun a ha => hpages a (.tail _ ha)) rfl

/-- **The listing, and then the changes if there is a sync token, are read to the end.** -/
theorem listing_ends {pages changes : List (Answer τ)} {last : Answer τ}
    (hp : p = first ∨ ∃ token, p = page token) (hpages : ∀ answer ∈ pages, answer.page ≠ none)
    (hlast : last.page = none)
    (hchanges : last.sync = none ∧ changes = [] ∨ last.sync ≠ none ∧ Chain changes) :
    Ends p (pages ++ last :: changes) := by
  have hnot : p.isDone = false := by
    rcases hp with rfl | ⟨token, rfl⟩ <;> rfl
  induction pages generalizing p with
  | nil =>
    refine .cons hnot ?_
    rcases hchanges with ⟨hsync, rfl⟩ | ⟨hsync, hchain⟩
    · have hnext : p.next last = done := by
        rcases hp with rfl | ⟨token, rfl⟩ <;> simp [next, hlast, hsync]
      rw [hnext]
      exact .nil
    · obtain ⟨token, htoken⟩ := Option.ne_none_iff_exists'.1 hsync
      have hnext : p.next last = sync token := by
        rcases hp with rfl | ⟨token', rfl⟩ <;> simp [next, hlast, htoken]
      rw [hnext]
      exact changes_ends (.inl (by simp [syncToken])) hchain
  | cons answer pages ih =>
    refine .cons hnot ?_
    obtain ⟨token, htoken⟩ := Option.ne_none_iff_exists'.1 (hpages answer (.head _))
    have hnext : p.next answer = page token := by
      rcases hp with rfl | ⟨token', rfl⟩ <;> simp [next, htoken]
    rw [hnext]
    exact ih (.inr ⟨token, rfl⟩) (fun a ha => hpages a (.tail _ ha)) rfl

/-! ## Attempts -/

/-- The position after an attempt: without an answer it stays. -/
def after (p : Position τ) : Option (Answer τ) → Position τ
  | some answer => p.next answer
  | none => p

/-- The positions of a reader that asks again when there is no answer. -/
def attempts (p : Position τ) : List (Option (Answer τ)) → List (Position τ)
  | [] => []
  | outcome :: outcomes => p :: attempts (p.after outcome) outcomes

theorem attempts_append (p : Position τ) (xs ys : List (Option (Answer τ))) :
    attempts p (xs ++ ys) = attempts p xs ++ attempts (xs.foldl after p) ys := by
  induction xs generalizing p with
  | nil => rfl
  | cons outcome xs ih => exact congrArg (p :: ·) (ih _)

theorem attempts_some (p : Position τ) (answers : List (Answer τ)) :
    attempts p (answers.map some) = trail p answers := by
  induction answers generalizing p with
  | nil => rfl
  | cons answer answers ih => exact congrArg (p :: ·) (ih _)

theorem foldl_after_some (p : Position τ) (answers : List (Answer τ)) :
    (answers.map some).foldl after p = Position.finish p answers := by
  rw [List.foldl_map]
  rfl

theorem next_ne_first (p : Position τ) (answer : Answer τ) : p.next answer ≠ first := by
  obtain ⟨page, sync⟩ := answer
  cases p <;> cases page <;> cases sync <;> simp [next]

theorem attempts_ne_first {outcomes : List (Option (Answer τ))} (hp : p ≠ first) :
    first ∉ attempts p outcomes := by
  induction outcomes generalizing p with
  | nil => exact List.not_mem_nil
  | cons outcome outcomes ih =>
    rw [attempts, List.mem_cons, not_or]
    refine ⟨hp.symm, ih ?_⟩
    cases outcome with
    | none => exact hp
    | some answer => exact next_ne_first p answer

/-- **Before a request for the first page there was no answer.** -/
theorem attempts_first {outcomes : List (Option (Answer τ))} {i : Nat}
    (h : (attempts p outcomes)[i]? = some first) : ∀ outcome ∈ outcomes.take i, outcome = none := by
  induction outcomes generalizing p i with
  | nil => simp
  | cons outcome outcomes ih =>
    cases i with
    | zero => simp
    | succ i =>
      rw [attempts, List.getElem?_cons_succ] at h
      cases outcome with
      | none =>
        intro outcome houtcome
        rcases List.mem_cons.1 houtcome with rfl | houtcome
        · rfl
        · exact ih h outcome houtcome
      | some answer =>
        exact absurd (List.mem_of_getElem? h) (attempts_ne_first (next_ne_first p answer))

end Position

end Paging
