import Mathlib.Data.List.Infix

/-!
# The statements of an SQL text

How a text splits into words, quoted names, literals and comments, character by character
(`Mode.step`), and the first token of each of its statements.

* `word_of_text`: a word is part of the text.
* `tokens_around`: what stands inside a literal, a quoted name or a comment does not matter.
-/

set_option autoImplicit false

namespace Sql

/-! ## Characters -/

def apostrophe : Char := Char.ofNat 39

/-- Spaces, also those beyond ASCII. -/
def isSpace (c : Char) : Bool :=
  let n := c.toNat
  n = 0x20 || (0x09 ≤ n && n ≤ 0x0d) || n = 0xa0 || (0x2000 ≤ n && n ≤ 0x200d) || n = 0x202f ||
    n = 0x205f || n = 0x2060 || n = 0x3000 || n = 0xfeff

/-- The characters a name starts with. -/
def isNameStart (c : Char) : Bool :=
  (c.isAlpha || c = '_' || 0x80 ≤ c.toNat) && !isSpace c

def isTagChar (c : Char) : Bool := isNameStart c || c.isDigit

def isNameChar (c : Char) : Bool := isTagChar c || c = '$'

/-- The character goes on with the tag of a dollar quote. -/
def continuesTag (tag : List Char) (c : Char) : Bool :=
  if tag = [] then isNameStart c else isTagChar c

/-! ## Tokens -/

inductive Token where
  | word (chars : List Char)
  | quotedName
  | literal
  | other (c : Char)
deriving DecidableEq, Repr

/-- Where in the text the reader is. -/
inductive Mode where
  | code
  | word (chars : List Char)
  | dash
  | slash
  | lineComment
  | blockComment (depth : Nat) (last : Char)
  | string (escapes : Bool)
  | escaped
  | stringQuote (escapes : Bool)
  | quotedName
  | dollarTag (tag : List Char)
  | dollarBody (tag : List Char)
  | dollarEnd (tag rest : List Char)
deriving DecidableEq, Repr

namespace Mode

/-- Read a character outside of everything. -/
def stepCode (c : Char) : Mode × List Token :=
  if isSpace c then (.code, [])
  else if isNameStart c then (.word [c], [])
  else if c = apostrophe then (.string false, [])
  else if c = '"' then (.quotedName, [])
  else if c = '$' then (.dollarTag [], [])
  else if c = '-' then (.dash, [])
  else if c = '/' then (.slash, [])
  else (.code, [.other c])

/-- A token has ended before the character. -/
def stepAfter (token : Token) (c : Char) : Mode × List Token :=
  ((stepCode c).1, token :: (stepCode c).2)

def stepWord (chars : List Char) (c : Char) : Mode × List Token :=
  if isNameChar c then (.word (chars ++ [c]), [])
  else if c = apostrophe ∧ (chars = ['e'] ∨ chars = ['E']) then (.string true, [])
  else stepAfter (.word chars) c

/-- A `$` with this tag after it has turned out to open nothing. -/
def stepDollar (tag : List Char) (c : Char) : Mode × List Token :=
  if tag = [] then stepAfter (.other '$') c
  else ((stepWord tag c).1, .other '$' :: (stepWord tag c).2)

/-- Read a character. -/
def step : Mode → Char → Mode × List Token
  | code, c => stepCode c
  | word chars, c => stepWord chars c
  | dash, c => if c = '-' then (.lineComment, []) else stepAfter (.other '-') c
  | slash, c => if c = '*' then (.blockComment 0 ' ', []) else stepAfter (.other '/') c
  | lineComment, c => if c = '\n' ∨ c = '\r' then (.code, []) else (.lineComment, [])
  | blockComment depth last, c =>
    -- comments nest, and the characters of a delimiter are used once
    if last = '*' ∧ c = '/' then
      (if depth = 0 then .code else .blockComment (depth - 1) ' ', [])
    else if last = '/' ∧ c = '*' then (.blockComment (depth + 1) ' ', [])
    else (.blockComment depth c, [])
  | string escapes, c =>
    if c = apostrophe then (.stringQuote escapes, [])
    else if escapes = true ∧ c = '\\' then (.escaped, [])
    else (.string escapes, [])
  | escaped, _ => (.string true, [])
  | stringQuote escapes, c =>
    if c = apostrophe then (.string escapes, []) else stepAfter .literal c
  | quotedName, c => if c = '"' then (.code, [.quotedName]) else (.quotedName, [])
  | dollarTag tag, c =>
    if c = '$' then (.dollarBody tag, [])
    else if continuesTag tag c then (.dollarTag (tag ++ [c]), [])
    else stepDollar tag c
  | dollarBody tag, c => (if c = '$' then .dollarEnd tag tag else .dollarBody tag, [])
  | dollarEnd tag rest, c =>
    if rest = [] ∧ c = '$' then (.code, [.literal])
    else if rest.head? = some c then (.dollarEnd tag rest.tail, [])
    else (if c = '$' then .dollarEnd tag tag else .dollarBody tag, [])

/-- What is left at the end of the text; what was not closed ends there. -/
def finish : Mode → List Token
  | code | lineComment | blockComment _ _ => []
  | word chars => [.word chars]
  | dash => [.other '-']
  | slash => [.other '/']
  | string _ | escaped | stringQuote _ | dollarBody _ | dollarEnd _ _ => [.literal]
  | quotedName => [.quotedName]
  | dollarTag tag => .other '$' :: if tag = [] then [] else [.word tag]

/-- Read characters one after the other. -/
def scan : Mode → List Char → Mode × List Token
  | mode, [] => (mode, [])
  | mode, c :: text =>
    ((scan (mode.step c).1 text).1, (mode.step c).2 ++ (scan (mode.step c).1 text).2)

/-- The tokens from a mode on. -/
def tokens (mode : Mode) (text : List Char) : List Token :=
  (mode.scan text).2 ++ (mode.scan text).1.finish

/-- The characters that may be the beginning of a word. -/
def pending : Mode → List Char
  | word chars => chars
  | dollarTag tag => tag
  | _ => []

end Mode

open Mode

/-- The tokens of a text. -/
def tokens (text : String) : List Token := Mode.code.tokens text.toList

/-! ## Statements -/

/-- The first token of each statement; `start` tells whether the next token is one. -/
def heads : Bool → List Token → List Token
  | _, [] => []
  | start, token :: rest =>
    if token = .other ';' then heads true rest
    else if start then token :: heads false rest
    else heads false rest

/-- The token is one of the keywords, in any case. -/
def Token.isKeyword (keywords : List String) : Token → Bool
  | word chars => keywords.any fun keyword => chars.map Char.toLower = keyword.toList
  | _ => false

/-- Some statement of the text starts with one of the keywords. -/
def hasStatement (keywords : List String) (text : String) : Bool :=
  (heads true (tokens text)).any (Token.isKeyword keywords)

theorem heads_subset (start : Bool) (ts : List Token) : heads start ts ⊆ ts := by
  induction ts generalizing start with
  | nil => exact List.Subset.refl _
  | cons t ts ih =>
    rw [heads]
    split_ifs
    · exact List.Subset.trans (ih true) (List.subset_cons_self _ _)
    · exact List.cons_subset_cons _ (ih false)
    · exact List.Subset.trans (ih false) (List.subset_cons_self _ _)

/-! ## Words -/

theorem stepCode_pending (c : Char) :
    (∀ w, .word w ∉ (stepCode c).2) ∧ (stepCode c).1.pending <:+ [c] := by
  unfold stepCode
  split_ifs <;> simp [pending]

theorem stepWord_pending (chars : List Char) (c : Char) :
    (∀ w, .word w ∈ (stepWord chars c).2 → w = chars) ∧
      (stepWord chars c).1.pending <:+ chars ++ [c] := by
  obtain ⟨hword, hpending⟩ := stepCode_pending c
  unfold stepWord stepAfter
  split_ifs
  · simp [pending]
  · simp [pending]
  · refine ⟨fun w hw => ?_, hpending.trans (List.suffix_append _ _)⟩
    rcases List.mem_cons.1 hw with hw | hw
    · exact Token.word.inj hw
    · exact absurd hw (hword w)

theorem stepAfter_pending {token : Token} (htoken : ∀ w, token ≠ .word w) (c : Char) :
    (∀ w, .word w ∉ (stepAfter token c).2) ∧ (stepAfter token c).1.pending <:+ [c] := by
  obtain ⟨hword, hpending⟩ := stepCode_pending c
  refine ⟨fun w hw => ?_, hpending⟩
  rcases List.mem_cons.1 hw with hw | hw
  · exact htoken w hw.symm
  · exact hword w hw

/-- **A step**: it emits no word but the pending one, and what is pending then was just read. -/
theorem step_pending (mode : Mode) (c : Char) :
    (∀ w, .word w ∈ (mode.step c).2 → w = mode.pending) ∧
      (mode.step c).1.pending <:+ mode.pending ++ [c] := by
  have hafter {token : Token} (htoken : ∀ w, token ≠ .word w) :
      (∀ w, .word w ∈ (stepAfter token c).2 → w = []) ∧
        (stepAfter token c).1.pending <:+ [c] := by
    obtain ⟨hword, hpending⟩ := stepAfter_pending htoken c
    exact ⟨fun w hw => absurd hw (hword w), hpending⟩
  cases mode with
  | code =>
    obtain ⟨hword, hpending⟩ := stepCode_pending c
    exact ⟨fun w hw => absurd hw (hword w), hpending⟩
  | word chars => exact stepWord_pending chars c
  | dash =>
    simp only [step]
    split_ifs
    · simp [pending]
    · exact hafter (by simp)
  | slash =>
    simp only [step]
    split_ifs
    · simp [pending]
    · exact hafter (by simp)
  | stringQuote escapes =>
    simp only [step]
    split_ifs
    · simp [pending]
    · exact hafter (by simp)
  | dollarTag tag =>
    simp only [step, stepDollar]
    split_ifs with hclose htag hempty
    · simp [pending]
    · simp [pending]
    · subst hempty
      exact hafter (by simp)
    · obtain ⟨hword, hpending⟩ := stepWord_pending tag c
      exact ⟨fun w hw => hword w (by simpa using hw), hpending⟩
  | escaped => simp [step, pending]
  | lineComment | blockComment | string | quotedName | dollarBody | dollarEnd =>
    simp only [step]
    split_ifs <;> simp [pending]

theorem finish_pending (mode : Mode) : ∀ w, .word w ∈ mode.finish → w = mode.pending := by
  cases mode <;> simp [finish, pending]

/-- Every word was pending or is part of the text. -/
theorem tokens_word {mode : Mode} {text w : List Char} (h : .word w ∈ mode.tokens text) :
    w <:+: mode.pending ++ text := by
  induction text generalizing mode with
  | nil =>
    rw [List.append_nil, finish_pending mode w (by simpa [Mode.tokens, scan] using h)]
  | cons c text ih =>
    obtain ⟨hword, hpending⟩ := step_pending mode c
    rw [Mode.tokens, scan, List.append_assoc, List.mem_append] at h
    rcases h with h | h
    · rw [hword w h]
      exact (List.prefix_append _ _).isInfix
    · obtain ⟨before, hbefore⟩ := hpending
      have hrest := ih h
      rw [show mode.pending ++ c :: text = mode.pending ++ [c] ++ text by simp, ← hbefore,
        List.append_assoc]
      exact hrest.trans (List.suffix_append _ _).isInfix

/-- **A word is part of the text.** -/
theorem word_of_text {text : String} {w : List Char} (h : .word w ∈ tokens text) :
    w <:+: text.toList := tokens_word h

/-- A statement that starts with a keyword mentions it. -/
theorem infix_of_hasStatement {keywords : List String} {text : String}
    (h : hasStatement keywords text = true) :
    ∃ keyword ∈ keywords, keyword.toList <:+: text.toList.map Char.toLower := by
  obtain ⟨token, htoken, hkeyword⟩ := List.any_eq_true.1 h
  cases token with
  | word chars =>
    obtain ⟨keyword, hmem, heq⟩ := List.any_eq_true.1 hkeyword
    refine ⟨keyword, hmem, ?_⟩
    rw [← of_decide_eq_true heq]
    exact (word_of_text (heads_subset _ _ htoken)).map Char.toLower
  | quotedName | literal | other => cases hkeyword

/-! ## What does not matter -/

theorem scan_append (mode : Mode) (text text' : List Char) :
    mode.scan (text ++ text') = (((mode.scan text).1.scan text').1,
      (mode.scan text).2 ++ ((mode.scan text).1.scan text').2) := by
  induction text generalizing mode with
  | nil => rfl
  | cons c text ih => simp [scan, ih]

/-- The mode reads the characters and stays. -/
def Mode.Skips (mode : Mode) (text : List Char) : Prop := ∀ c ∈ text, mode.step c = (mode, [])

theorem Mode.Skips.scan {mode : Mode} {text : List Char} (h : mode.Skips text) :
    mode.scan text = (mode, []) := by
  induction text with
  | nil => rfl
  | cons c text ih => simp [Mode.scan, h c (.head _), ih fun c' hc => h c' (.tail _ hc)]

/-- The text does not end the literal, the quoted name or the comment it stands in. -/
inductive Mode.Within : Mode → List Char → Prop
  | string {text : List Char} : apostrophe ∉ text → Within (string false) text
  | quotedName {text : List Char} : '"' ∉ text → Within quotedName text
  | lineComment {text : List Char} : '\n' ∉ text → '\r' ∉ text → Within lineComment text

theorem Mode.Within.skips {mode : Mode} {text : List Char} (h : mode.Within text) :
    mode.Skips text := by
  intro c hc
  cases h with
  | string h =>
    have hne : c ≠ apostrophe := by
      intro heq
      exact h (heq ▸ hc)
    simp [step, hne]
  | quotedName h =>
    have hne : c ≠ '"' := by
      intro heq
      exact h (heq ▸ hc)
    simp [step, hne]
  | lineComment hline hreturn =>
    have hne : ¬(c = '\n' ∨ c = '\r') := by
      intro heq
      rcases heq with heq | heq
      · exact hline (heq ▸ hc)
      · exact hreturn (heq ▸ hc)
    simp [step, hne]

/-- **What stands inside a literal, a quoted name or a comment does not matter.** -/
theorem tokens_around {before inner : List Char}
    (h : (Mode.code.scan before).1.Within inner) (after : List Char) :
    Mode.code.tokens (before ++ inner ++ after) = Mode.code.tokens (before ++ after) := by
  simp only [Mode.tokens, scan_append, h.skips.scan, List.append_nil]

end Sql
