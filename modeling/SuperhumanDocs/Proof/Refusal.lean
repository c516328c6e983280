import SuperhumanDocs.Naming.AsciiCase
import SuperhumanDocs.Proof.Transaction
import SuperhumanDocs.Sql.Tokens

/-!
# Statements that are refused

A write is refused when the text of the query mentions one of three words anywhere, whether or not
a statement of the text controls a transaction.

* `rejectExplicitTransaction_ok_iff`: when a context is accepted.
* `content_refused`: words inside a literal, a quoted name or a comment.
* `refused_for_control_iff`: when only transaction control is refused.
-/

set_option autoImplicit false

namespace SuperhumanDocs

open Binary (Binary64 F64)
open Effect (Succeeds not_succeeds_error)
open Json (SerdeJson)

/-! ## Contexts -/

/-- The words that are looked for. -/
def controlWords : List String := ["begin", "rollback", "commit"]

/-- The text mentions one of the words. -/
def mentionsControl (query : String) : Bool := controlWords.any (mentions query)

/-- A statement of the text begins, commits or rolls back a transaction. -/
def hasControl (query : String) : Bool := Sql.hasStatement controlWords query

/-- **When a context is accepted.** -/
theorem rejectExplicitTransaction_ok_iff (context : ClientContext) :
    Succeeds (rejectExplicitTransaction context) ↔
      context.isAutoCommit = true ∧ mentionsControl context.currentQuery = false := by
  unfold rejectExplicitTransaction
  rw [if_neg (by decide)]
  split
  · rename_i h
    refine iff_of_false not_succeeds_error ?_
    rintro ⟨hauto, hnone⟩
    simp_all [mentionsControl, controlWords]
  · rename_i h
    refine iff_of_true ⟨(), rfl⟩ ?_
    simp_all [mentionsControl, controlWords]

theorem rejectExplicitTransaction_error {context : ClientContext}
    (h : ¬ Succeeds (rejectExplicitTransaction context)) :
    rejectExplicitTransaction context = .error explicitTransactionNotSupported := by
  unfold rejectExplicitTransaction at h ⊢
  split_ifs at h ⊢ with hsupports hrejects
  · exact absurd ⟨(), rfl⟩ h
  · rfl
  · exact absurd ⟨(), rfl⟩ h

theorem mentions_of_hasControl {query : String} (h : hasControl query = true) :
    mentionsControl query = true := by
  obtain ⟨word, hword, hinfix⟩ := Sql.infix_of_hasStatement h
  refine List.any_eq_true.2 ⟨word, hword, decide_eq_true ?_⟩
  rwa [Naming.toList_toLower]

/-- **Transaction control is always refused.** -/
theorem control_refused {context : ClientContext} (h : hasControl context.currentQuery = true) :
    rejectExplicitTransaction context = .error explicitTransactionNotSupported := by
  refine rejectExplicitTransaction_error fun hok => ?_
  have hnone := ((rejectExplicitTransaction_ok_iff context).1 hok).2
  cases hnone.symm.trans (mentions_of_hasControl h)

/-- **Words in a literal, a quoted name or a comment are refused like transaction control.** -/
theorem content_refused {before inner after : String}
    (hinner : (Sql.Mode.code.scan before.toList).1.Within inner.toList)
    (hnone : hasControl (before ++ after) = false) (hmentions : mentionsControl inner = true)
    (isAutoCommit : Bool) :
    hasControl (before ++ inner ++ after) = false ∧
      rejectExplicitTransaction { isAutoCommit, currentQuery := before ++ inner ++ after } =
        .error explicitTransactionNotSupported := by
  constructor
  · have htokens := Sql.tokens_around hinner after.toList
    unfold hasControl Sql.hasStatement Sql.tokens at hnone ⊢
    rwa [String.toList_append, String.toList_append, htokens, ← String.toList_append]
  · refine rejectExplicitTransaction_error fun hok => ?_
    obtain ⟨word, hword, hinfix⟩ := List.any_eq_true.1 hmentions
    have hnot := ((rejectExplicitTransaction_ok_iff _).1 hok).2
    have hmentioned := List.any_eq_false.1 hnot word hword
    refine hmentioned (decide_eq_true ((of_decide_eq_true hinfix).trans ?_))
    rw [Naming.toLower_append, Naming.toLower_append, String.toList_append, String.toList_append]
    exact List.infix_append _ _ _

/-! ## Planning and sinks -/

def silentContext : ClientContext where
  isAutoCommit := true
  currentQuery := ""

theorem silentContext_accepted : rejectExplicitTransaction silentContext = .ok () := by
  decide +kernel

section
variable {F σ : Type} [F64 F] [SerdeJson] [DuckDb F] (w : World F σ) (config : ClientConfig)

/-- An accepted context is as good as a silent one, when a write is planned and when it runs. -/
theorem accepted_silent {context : ClientContext}
    (h : Succeeds (rejectExplicitTransaction context)) :
    (∀ returnChunk sink, planSink context returnChunk sink =
      planSink silentContext returnChunk sink) ∧
    ∀ (db : Database F σ) id sink chunk,
      db.sink w config id context sink chunk = db.sink w config id silentContext sink chunk := by
  obtain ⟨_, h⟩ := h
  constructor
  · intro returnChunk sink
    rw [planSink, planSink, h, silentContext_accepted]
  · intro db id sink chunk
    rw [Database.sink, Database.sink, h, silentContext_accepted]

/-- Nothing but transaction control is refused: a context outside autocommit always is, and in
autocommit mode a text without transaction control is neither refused nor held against a write. -/
structure RefusesOnlyControl (context : ClientContext) : Prop where
  explicit : context.isAutoCommit = false →
    rejectExplicitTransaction context = .error explicitTransactionNotSupported
  control : context.isAutoCommit = true → ¬ Succeeds (rejectExplicitTransaction context) →
    hasControl context.currentQuery = true
  planned : context.isAutoCommit = true → hasControl context.currentQuery = false →
    ∀ returnChunk sink, planSink context returnChunk sink =
      planSink silentContext returnChunk sink
  sunk : context.isAutoCommit = true → hasControl context.currentQuery = false →
    ∀ (db : Database F σ) id sink chunk,
      db.sink w config id context sink chunk = db.sink w config id silentContext sink chunk

/-- **When only transaction control is refused**: in autocommit mode, when a text that mentions
one of the words has a statement that starts with one. -/
theorem refused_for_control_iff (context : ClientContext) :
    RefusesOnlyControl w config context ↔
      (context.isAutoCommit = true → mentionsControl context.currentQuery = true →
        hasControl context.currentQuery = true) := by
  have hiff := rejectExplicitTransaction_ok_iff context
  constructor
  · intro h hauto hmentions
    refine h.control hauto fun hok => ?_
    cases (hiff.1 hok).2.symm.trans hmentions
  · intro h
    have haccepted : context.isAutoCommit = true → hasControl context.currentQuery = false →
        Succeeds (rejectExplicitTransaction context) := by
      intro hauto hnone
      refine hiff.2 ⟨hauto, Bool.eq_false_iff.2 fun hmentions => ?_⟩
      cases hnone.symm.trans (h hauto hmentions)
    refine ⟨fun hexplicit => ?_, fun hauto hrejected => ?_, fun hauto hnone => ?_,
      fun hauto hnone => ?_⟩
    · refine rejectExplicitTransaction_error fun hok => ?_
      cases hexplicit.symm.trans (hiff.1 hok).1
    · by_contra hnone
      exact hrejected (haccepted hauto (Bool.eq_false_iff.2 hnone))
    · exact (accepted_silent w config (haccepted hauto hnone)).1
    · exact (accepted_silent w config (haccepted hauto hnone)).2

end

/-! ## A value -/

open Json.Reference Reference

/-- An insert of a text that is one of the words. -/
def insertContext : ClientContext where
  isAutoCommit := true
  currentQuery := "INSERT INTO docs.tasks VALUES ('Begin')"

/-- **An insert is refused for a word in its value.** -/
theorem insert_refused_for_value :
    rejectExplicitTransaction insertContext = .error explicitTransactionNotSupported ∧
      hasControl insertContext.currentQuery = false ∧
      ¬ RefusesOnlyControl scripted config insertContext := by
  have hmentions : mentionsControl insertContext.currentQuery = true := by decide +kernel
  have hnone : hasControl insertContext.currentQuery = false := by decide +kernel
  have hrejected : ¬ Succeeds (rejectExplicitTransaction insertContext) := by
    intro hok
    cases ((rejectExplicitTransaction_ok_iff _).1 hok).2.symm.trans hmentions
  refine ⟨rejectExplicitTransaction_error hrejected, hnone, fun h => ?_⟩
  cases hnone.symm.trans (h.control rfl hrejected)

end SuperhumanDocs
