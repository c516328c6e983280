import SuperhumanDocs.Client.Catalog

/-!
# The names of prepared columns

`prepareColumns` gives every column a name of its own up to ASCII case.

* `prepareColumns_valid`: the names of the result are not empty and pairwise different; only names
  change, each to the first free candidate of its base (`Named`).
* The result on a prefix depends on that prefix, so the metadata columns, which come last, leave
  the columns of the document alone.
* A name of a later column may be taken by a number given to an earlier one.
-/

set_option autoImplicit false

namespace SuperhumanDocs

open Json (SerdeJson)

/-! ## The name of one column -/

/-- Some earlier name equals the name up to ASCII case. -/
def taken (earlier : List String) (name : String) : Bool :=
  earlier.any (eqIgnoreAsciiCase · name)

/-- A name is the base, or the base with the least number from 2 on that makes it free. -/
def Named (earlier : List String) (base name : String) : Prop :=
  (taken earlier base = false ∧ name = base) ∨
    (taken earlier base = true ∧ ∃ k, 2 ≤ k ∧ name = s!"{base}_{k}" ∧ taken earlier name = false ∧
      ∀ j, 2 ≤ j → j < k → taken earlier s!"{base}_{j}" = true)

/-- The search stops at the first free candidate. -/
theorem uniqueNameFrom_spec (earlier : List String) (base : String) (suffix : Nat) :
    ∃ k, suffix ≤ k ∧ uniqueNameFrom earlier base suffix = candidate base k ∧
      taken earlier (candidate base k) = false ∧
      ∀ j, suffix ≤ j → j < k → taken earlier (candidate base j) = true := by
  induction suffix using uniqueNameFrom.induct earlier base with
  | case1 suffix htaken ih =>
    obtain ⟨k, hk, hname, hfree, hbelow⟩ := ih
    rw [uniqueNameFrom, if_pos htaken]
    refine ⟨k, by omega, hname, hfree, fun j hj hjk => ?_⟩
    by_cases hjs : j = suffix
    · exact hjs ▸ htaken
    · exact hbelow j (by omega) hjk
  | case2 suffix hfree =>
    rw [uniqueNameFrom, if_neg hfree]
    refine ⟨suffix, le_refl _, rfl, by simpa [taken] using hfree, fun j _ _ => ?_⟩
    omega

theorem uniqueName_named (earlier : List String) (base : String) :
    Named earlier base (uniqueNameFrom earlier base 1) := by
  obtain ⟨k, hk, hname, hfree, hbelow⟩ := uniqueNameFrom_spec earlier base 1
  rw [hname]
  by_cases h : k = 1
  · subst h
    exact .inl ⟨hfree, rfl⟩
  · refine .inr ⟨hbelow 1 (le_refl 1) (by omega), k, by omega, if_neg h, hfree, ?_⟩
    intro j hj hjk
    have hj' := hbelow j (by omega) hjk
    rwa [candidate, if_neg (by omega)] at hj'

namespace Named

variable {earlier : List String} {base name : String}

theorem free (h : Named earlier base name) : taken earlier name = false := by
  rcases h with ⟨hfree, rfl⟩ | ⟨-, k, -, -, hfree, -⟩
  · exact hfree
  · exact hfree

theorem eq_base (h : Named earlier base name) (hfree : taken earlier base = false) :
    name = base := by
  rcases h with ⟨-, hname⟩ | ⟨htaken, -⟩
  · exact hname
  · rw [hfree] at htaken
    cases htaken

theorem ne_empty (h : Named earlier base name) (hbase : base ≠ "") : name ≠ "" := by
  rcases h with ⟨-, rfl⟩ | ⟨-, k, -, rfl, -⟩
  · exact hbase
  · intro heq
    have hlength := congrArg String.length heq
    rw [Naming.numbered_eq, String.length_append, String.length_append] at hlength
    have hbar : ("_" : String).length = 1 := by decide +kernel
    rw [hbar, String.length_empty] at hlength
    omega

end Named

theorem baseName_ne_empty (original : String) : baseName original ≠ "" := by
  unfold baseName
  by_cases h : original.isEmpty = true
  · rw [if_pos h]; decide
  · rw [if_neg h]
    simpa using h

theorem baseName_of_ne_empty {original : String} (h : original ≠ "") :
    baseName original = original := by
  rw [baseName, if_neg (by simpa using h)]

/-! ## The list of columns -/

theorem prepareColumn_named (earlier : List Column) (column : Column) :
    Named (earlier.map Column.name) (baseName column.name) (prepareColumn earlier column).name :=
  uniqueName_named _ _

/-- Names that are not empty and pairwise different up to ASCII case. -/
structure ValidNames (columns : List Column) : Prop where
  nonempty : ∀ column ∈ columns, column.name ≠ ""
  distinct : columns.Pairwise fun a b => eqIgnoreAsciiCase a.name b.name = false

theorem prepareColumns_append (columns later : List Column) :
    (prepareColumns (columns ++ later)).take columns.length = prepareColumns columns :=
  Naming.sweep_prefix prepareColumn columns later

/-- A prepared column is the column under a name of its own. -/
theorem prepareColumns_at (earlier : List Column) (column : Column) (later : List Column) :
    ∃ name, (prepareColumns (earlier ++ column :: later))[earlier.length]? =
        some { column with name } ∧
      Named ((prepareColumns earlier).map Column.name) (baseName column.name) name :=
  ⟨_, Naming.sweep_getElem? prepareColumn earlier column later, prepareColumn_named _ _⟩

/-- A place of a list splits it. -/
theorem exists_split {α : Type} {xs : List α} {i : Nat} (h : i < xs.length) :
    ∃ earlier x later, xs = earlier ++ x :: later ∧ earlier.length = i :=
  ⟨xs.take i, xs[i], xs.drop (i + 1), by simp, by simp; omega⟩

theorem prepareColumns_length (columns : List Column) :
    (prepareColumns columns).length = columns.length := by
  simp [prepareColumns]

theorem prepareColumns_nonempty (columns : List Column) :
    ∀ column ∈ prepareColumns columns, column.name ≠ "" := by
  intro column hcolumn
  obtain ⟨i, hi, rfl⟩ := List.getElem_of_mem hcolumn
  rw [prepareColumns_length] at hi
  obtain ⟨earlier, original, later, rfl, rfl⟩ := exists_split hi
  obtain ⟨name, hat, hnamed⟩ := prepareColumns_at earlier original later
  rw [List.getElem?_eq_some_iff] at hat
  obtain ⟨_, hat⟩ := hat
  rw [hat]
  exact hnamed.ne_empty (baseName_ne_empty _)

theorem prepareColumns_distinct (columns : List Column) :
    (prepareColumns columns).Pairwise fun a b => eqIgnoreAsciiCase a.name b.name = false := by
  apply Naming.sweep_pairwise _ _ List.Pairwise.nil
  intro done column earlier hearlier
  have hfree := (prepareColumn_named done column).free
  rw [taken, List.any_eq_false] at hfree
  simpa using hfree earlier.name (List.mem_map_of_mem hearlier)

/-- **Prepared columns have valid names.** -/
theorem prepareColumns_valid (columns : List Column) : ValidNames (prepareColumns columns) :=
  ⟨prepareColumns_nonempty columns, prepareColumns_distinct columns⟩

/-- **Columns with valid names are kept.** -/
theorem prepareColumns_of_valid {columns : List Column} (h : ValidNames columns) :
    prepareColumns columns = columns := by
  apply Naming.sweep_fixed
  intro earlier column later hcolumns
  subst hcolumns
  have hname : column.name ≠ "" := h.nonempty column (by simp)
  have hfree : taken (earlier.map Column.name) column.name = false := by
    have hdistinct := (List.pairwise_append.1 h.distinct).2.2
    rw [taken, List.any_eq_false]
    intro name hmem
    obtain ⟨e, he, rfl⟩ := List.mem_map.1 hmem
    simpa using hdistinct e he column (.head _)
  have hnamed := prepareColumn_named earlier column
  rw [baseName_of_ne_empty hname] at hnamed
  have heq := hnamed.eq_base hfree
  show { column with name := (prepareColumn earlier column).name } = column
  rw [heq]

/-- Only names change. -/
theorem prepareColumns_fields (columns : List Column) :
    List.Forall₂ (fun before after => after = { before with name := after.name }) columns
      (prepareColumns columns) := by
  rw [List.forall₂_iff_get]
  refine ⟨(prepareColumns_length columns).symm, fun i hi hi' => ?_⟩
  obtain ⟨earlier, original, later, rfl, rfl⟩ := exists_split hi
  obtain ⟨name, hat, -⟩ := prepareColumns_at earlier original later
  rw [List.getElem?_eq_some_iff] at hat
  obtain ⟨_, hat⟩ := hat
  simp [hat]

/-! ## The columns of a table -/

theorem prepareColumns_appendRowMetadata (columns : List Column) :
    (prepareColumns (appendRowMetadata columns)).take columns.length = prepareColumns columns :=
  prepareColumns_append columns _

/-- With or without the metadata columns, the document columns are the same. -/
theorem loadColumns_metadata [SerdeJson] (docId tableId : String) (replies : List Reply) :
    (loadColumns docId tableId false replies).result =
      (loadColumns docId tableId true replies).result.map fun columns =>
        columns.take (columns.length - 2) := by
  unfold loadColumns CatalogCall.map
  cases (columnPages docId tableId [] "" replies).result with
  | error stop => rfl
  | ok all =>
    have hlength : (prepareColumns (appendRowMetadata all)).length - 2 = all.length := by
      rw [prepareColumns_length, appendRowMetadata, List.length_append]
      rfl
    have htake := prepareColumns_appendRowMetadata all
    simp only [Except.map, if_true, hlength, htake]
    rfl

/-- **Preparing columns: valid names, and nothing but names changes; each name is the first free
one of its base; preparing again changes nothing; what comes later renames nothing before it, the
metadata columns included.** -/
theorem prepareColumns_spec [SerdeJson] (columns : List Column) :
    ValidNames (prepareColumns columns) ∧
      List.Forall₂ (fun before after => after = { before with name := after.name }) columns
        (prepareColumns columns) ∧
      (∀ earlier column later, columns = earlier ++ column :: later →
        ∃ name, (prepareColumns columns)[earlier.length]? = some { column with name } ∧
          Named (((prepareColumns columns).take earlier.length).map Column.name)
            (baseName column.name) name) ∧
      prepareColumns (prepareColumns columns) = prepareColumns columns ∧
      (∀ later, (prepareColumns (columns ++ later)).take columns.length = prepareColumns columns) ∧
      (prepareColumns (appendRowMetadata columns)).take columns.length = prepareColumns columns ∧
      ∀ docId tableId replies, (loadColumns docId tableId false replies).result =
        (loadColumns docId tableId true replies).result.map fun columns =>
          columns.take (columns.length - 2) := by
  refine ⟨prepareColumns_valid columns, prepareColumns_fields columns, ?_,
    prepareColumns_of_valid (prepareColumns_valid columns), prepareColumns_append columns,
    prepareColumns_appendRowMetadata columns, loadColumns_metadata⟩
  intro earlier column later hcolumns
  subst hcolumns
  rw [prepareColumns_append]
  exact prepareColumns_at earlier column later

/-! ## Names taken by earlier columns -/

/-- An earlier column was given the name of a column: an unnamed one the default name, or one whose
own name was taken a numbered one. -/
def Displaced (earlier : List Column) (column : Column) : Prop :=
  ∃ before cause between given, earlier = before ++ cause :: between ∧
    (prepareColumns earlier)[before.length]? = some { cause with name := given } ∧
    eqIgnoreAsciiCase given column.name = true ∧
    ((cause.name = "" ∧ given = "column") ∨
      ∃ k, 2 ≤ k ∧ given = s!"{baseName cause.name}_{k}" ∧
        taken ((prepareColumns before).map Column.name) (baseName cause.name) = true)

/-- Only a displaced column of a name of its own finds its name taken. -/
theorem taken_iff_displaced {earlier : List Column} {column : Column}
    (hunique : ∀ other ∈ earlier, eqIgnoreAsciiCase other.name column.name = false) :
    taken ((prepareColumns earlier).map Column.name) column.name = true ↔
      Displaced earlier column := by
  rw [taken, List.any_eq_true]
  apply Iff.intro
  · intro h
    obtain ⟨given, hmem, hequal⟩ := h
    obtain ⟨prepared, hprepared, rfl⟩ := List.mem_map.1 hmem
    obtain ⟨i, hi, rfl⟩ := List.getElem_of_mem hprepared
    rw [prepareColumns_length] at hi
    obtain ⟨before, cause, between, rfl, rfl⟩ := exists_split hi
    obtain ⟨given, hat, hnamed⟩ := prepareColumns_at before cause between
    obtain ⟨_, hget⟩ := List.getElem?_eq_some_iff.1 hat
    rw [hget] at hequal
    refine ⟨before, cause, between, given, rfl, hat, hequal, ?_⟩
    rcases hnamed with ⟨-, hgiven⟩ | ⟨htaken, k, hk, hgiven, -⟩
    · by_cases hempty : cause.name = ""
      · refine .inl ⟨hempty, ?_⟩
        rw [hgiven, hempty]
        rfl
      · have hcause := hunique cause (by simp)
        rw [hgiven, baseName_of_ne_empty hempty, hcause] at hequal
        cases hequal
    · exact .inr ⟨k, hk, hgiven, htaken⟩
  · intro h
    obtain ⟨before, cause, between, given, -, hat, hequal, -⟩ := h
    have hmem := List.mem_of_getElem? hat
    exact ⟨given, List.mem_map.2 ⟨_, hmem, rfl⟩, hequal⟩

/-- A name is given once up to ASCII case. -/
theorem prepareColumns_index {columns : List Column} {i j : Nat} {a b : Column}
    (hi : (prepareColumns columns)[i]? = some a) (hj : (prepareColumns columns)[j]? = some b)
    (hequal : eqIgnoreAsciiCase a.name b.name = true) : i = j := by
  have hdistinct := prepareColumns_distinct columns
  obtain ⟨hilt, rfl⟩ := List.getElem?_eq_some_iff.1 hi
  obtain ⟨hjlt, rfl⟩ := List.getElem?_eq_some_iff.1 hj
  rw [List.pairwise_iff_getElem] at hdistinct
  by_contra hne
  rcases Nat.lt_or_gt_of_ne hne with hlt | hgt
  · have hpair := hdistinct i j hilt hjlt hlt
    rw [hequal] at hpair
    cases hpair
  · have hpair := hdistinct j i hjlt hilt hgt
    rw [eqIgnoreAsciiCase, Bool.beq_comm] at hequal
    rw [eqIgnoreAsciiCase, hequal] at hpair
    cases hpair

/-- **A column whose name no other column has keeps it, and alone has it, unless it was given to an
earlier column; then it is numbered.** -/
theorem unique_name_kept_iff {earlier later : List Column} {column : Column}
    (hname : column.name ≠ "")
    (hunique : ∀ other ∈ earlier ++ later, eqIgnoreAsciiCase other.name column.name = false) :
    (¬ Displaced earlier column →
      (prepareColumns (earlier ++ column :: later))[earlier.length]? = some column ∧
        ∀ i prepared, (prepareColumns (earlier ++ column :: later))[i]? = some prepared →
          (eqIgnoreAsciiCase prepared.name column.name = true ↔ i = earlier.length)) ∧
      (Displaced earlier column → ∃ k, 2 ≤ k ∧
        (prepareColumns (earlier ++ column :: later))[earlier.length]? =
          some { column with name := s!"{column.name}_{k}" }) := by
  have htaken : taken ((prepareColumns earlier).map Column.name) column.name = true ↔
      Displaced earlier column := taken_iff_displaced fun other hother =>
    hunique other (List.mem_append_left _ hother)
  obtain ⟨name, hat, hnamed⟩ := prepareColumns_at earlier column later
  rw [baseName_of_ne_empty hname] at hnamed
  apply And.intro
  · intro hkept
    rw [← htaken, Bool.not_eq_true] at hkept
    rw [hnamed.eq_base hkept] at hat
    refine ⟨hat, fun i prepared hi =>
      ⟨fun hequal => prepareColumns_index hi hat hequal, fun heq => ?_⟩⟩
    subst heq
    rw [hat] at hi
    cases hi
    exact beq_self_eq_true _
  · intro hdisplaced
    rw [← htaken] at hdisplaced
    rcases hnamed with ⟨hfree, -⟩ | ⟨-, k, hk, rfl, -⟩
    · rw [hdisplaced] at hfree
      cases hfree
    · exact ⟨k, hk, hat⟩

/-- The columns of a document, all of one type. -/
def namedColumn (id name : String) : Column where
  id
  name
  formatType := "text"
  duckdbType := "VARCHAR"
  duckdbTypeAlias := ""
  isArray := false
  capabilities := rustExtColumnEditable ||| rustExtColumnFilterEquality

/-- With `a_2` before the second `a`, it is kept. -/
theorem unique_name_kept_first :
    (¬ Displaced [namedColumn "c1" "a"] (namedColumn "c3" "a_2") →
      (prepareColumns [namedColumn "c1" "a", namedColumn "c3" "a_2", namedColumn "c2" "a"])[1]? =
          some (namedColumn "c3" "a_2") ∧
        ∀ i prepared, (prepareColumns [namedColumn "c1" "a", namedColumn "c3" "a_2",
          namedColumn "c2" "a"])[i]? = some prepared →
          (eqIgnoreAsciiCase prepared.name "a_2" = true ↔ i = 1)) ∧
      (Displaced [namedColumn "c1" "a"] (namedColumn "c3" "a_2") → ∃ k, 2 ≤ k ∧
        (prepareColumns [namedColumn "c1" "a", namedColumn "c3" "a_2", namedColumn "c2" "a"])[1]? =
          some { namedColumn "c3" "a_2" with name := s!"a_2_{k}" }) :=
  @unique_name_kept_iff [namedColumn "c1" "a"] [namedColumn "c2" "a"] (namedColumn "c3" "a_2")
    (by decide) (by decide +kernel)

/-- The only column named `a_2` loses its name to the second `a`. -/
theorem unique_name_lost :
    ¬ ∀ (earlier later : List Column) (column : Column), column.name ≠ "" →
      (∀ other ∈ earlier ++ later, eqIgnoreAsciiCase other.name column.name = false) →
      (prepareColumns (earlier ++ column :: later))[earlier.length]? = some column := by
  intro h
  have hkept : (prepareColumns [namedColumn "c1" "a", namedColumn "c2" "a",
      namedColumn "c3" "a_2"])[2]? = some (namedColumn "c3" "a_2") :=
    h [namedColumn "c1" "a", namedColumn "c2" "a"] [] (namedColumn "c3" "a_2") (by decide)
      (by decide +kernel)
  have hname : ((prepareColumns [namedColumn "c1" "a", namedColumn "c2" "a",
      namedColumn "c3" "a_2"])[2]?).map Column.name = some "a_2_2" := by decide +kernel
  rw [hkept] at hname
  revert hname
  decide

end SuperhumanDocs
