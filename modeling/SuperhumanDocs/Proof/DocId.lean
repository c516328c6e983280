import SuperhumanDocs.Attach.Reference

/-!
# Document ids in URLs and links

Both readers of a document id search the whole text for a marker. They go wrong where a marker
occurs once more than the shape of the URL or link has it.

* `afterFirst_longest`, `afterLast_shortest`: what a search leaves.
* `docIdFromBrowserUrl_eq_some`: the URLs a document is read from.
* `docIdFromResolvedLink_eq`: the document of a link.
* `doc_ids_extracted_iff`: when both read the document they should.
-/

set_option autoImplicit false

namespace SuperhumanDocs

open Json (SerdeJson Value)

/-! ## Searching -/

/-- What comes before and after an occurrence of a marker. -/
def Splits (marker text rest : List Char) : Prop := ∃ before, text = before ++ marker ++ rest

theorem Splits.length {marker text rest : List Char} (h : Splits marker text rest) :
    marker.length + rest.length ≤ text.length := by
  obtain ⟨before, rfl⟩ := h
  simp only [List.length_append]
  omega

theorem splits_cons {marker text rest : List Char} {c : Char} :
    Splits marker (c :: text) rest ↔ marker ++ rest = c :: text ∨ Splits marker text rest := by
  constructor
  · rintro ⟨before, h⟩
    cases before with
    | nil => exact .inl h.symm
    | cons c' before =>
      obtain ⟨-, rfl⟩ := List.cons.inj h
      exact .inr ⟨before, rfl⟩
  · rintro (h | ⟨before, rfl⟩)
    · exact ⟨[], h.symm⟩
    · exact ⟨c :: before, rfl⟩

/-- A rest is known by its length. -/
theorem splits_unique {marker text rest rest' : List Char} (h : Splits marker text rest)
    (h' : Splits marker text rest') (hlength : rest.length = rest'.length) : rest = rest' := by
  obtain ⟨before, rfl⟩ := h
  obtain ⟨before', h'⟩ := h'
  exact List.append_inj_right' h' hlength

theorem not_splits_nil {marker : List Char} (hmarker : marker ≠ []) (rest : List Char) :
    ¬ Splits marker [] rest := by
  intro ⟨before, h⟩
  simp [hmarker] at h

theorem afterFirst_eq_none {marker text : List Char} (h : afterFirst marker text = none)
    (hmarker : marker ≠ []) (rest : List Char) : ¬ Splits marker text rest := by
  induction text with
  | nil => exact not_splits_nil hmarker rest
  | cons c text ih =>
    rw [afterFirst] at h
    rw [splits_cons, not_or]
    split at h
    · cases h
    · rename_i hprefix
      refine ⟨fun heq => ?_, ih h⟩
      have hsome := List.isPrefixOf?_eq_some_iff_append_eq.2 heq
      cases hprefix.symm.trans hsome

theorem afterLast_eq_none {marker text : List Char} (h : afterLast marker text = none)
    (hmarker : marker ≠ []) (rest : List Char) : ¬ Splits marker text rest := by
  induction text with
  | nil => exact not_splits_nil hmarker rest
  | cons c text ih =>
    rw [afterLast, Option.or_eq_none_iff] at h
    rw [splits_cons, not_or]
    refine ⟨fun heq => ?_, ih h.1⟩
    have hsome := List.isPrefixOf?_eq_some_iff_append_eq.2 heq
    cases h.2.symm.trans hsome

/-- **The first occurrence** leaves the longest rest. -/
theorem afterFirst_longest {marker text rest : List Char}
    (h : afterFirst marker text = some rest) : Splits marker text rest ∧
      ∀ rest', Splits marker text rest' → rest'.length ≤ rest.length := by
  induction text with
  | nil => cases h
  | cons c text ih =>
    rw [afterFirst] at h
    split at h
    · rename_i rest₁ hprefix
      obtain rfl := Option.some.inj h
      have heq := List.isPrefixOf?_eq_some_iff_append_eq.1 hprefix
      refine ⟨splits_cons.2 (.inl heq), fun rest' hrest' => ?_⟩
      have hlength := congrArg List.length heq
      rw [List.length_append] at hlength
      have := hrest'.length
      omega
    · rename_i hprefix
      obtain ⟨hsplits, hlongest⟩ := ih h
      refine ⟨splits_cons.2 (.inr hsplits), fun rest' hrest' => ?_⟩
      rcases splits_cons.1 hrest' with heq | hrest'
      · have hsome := List.isPrefixOf?_eq_some_iff_append_eq.2 heq
        cases hprefix.symm.trans hsome
      · exact hlongest rest' hrest'

/-- **The last occurrence** leaves the shortest rest. -/
theorem afterLast_shortest {marker text rest : List Char}
    (h : afterLast marker text = some rest) (hmarker : marker ≠ []) : Splits marker text rest ∧
      ∀ rest', Splits marker text rest' → rest.length ≤ rest'.length := by
  induction text generalizing rest with
  | nil => cases h
  | cons c text ih =>
    rw [afterLast] at h
    cases hlast : afterLast marker text with
    | some rest₁ =>
      rw [hlast, Option.some_or] at h
      obtain rfl := Option.some.inj h
      obtain ⟨hsplits, hshortest⟩ := ih hlast
      refine ⟨splits_cons.2 (.inr hsplits), fun rest' hrest' => ?_⟩
      rcases splits_cons.1 hrest' with heq | hrest'
      · have hlength := congrArg List.length heq
        rw [List.length_append, List.length_cons] at hlength
        have := hsplits.length
        omega
      · exact hshortest rest' hrest'
    | none =>
      rw [hlast, Option.none_or] at h
      have heq := List.isPrefixOf?_eq_some_iff_append_eq.1 h
      refine ⟨splits_cons.2 (.inl heq), fun rest' hrest' => ?_⟩
      rcases splits_cons.1 hrest' with heq' | hrest'
      · rw [List.append_cancel_left (heq.trans heq'.symm)]
      · exact absurd hrest' (afterLast_eq_none hlast hmarker rest')

section
variable {marker text rest : List Char} (hmarker : marker ≠ [])

include hmarker

theorem afterFirst_iff : afterFirst marker text = some rest ↔
    Splits marker text rest ∧ ∀ rest', Splits marker text rest' → rest'.length ≤ rest.length := by
  refine ⟨afterFirst_longest, fun ⟨hsplits, hlongest⟩ => ?_⟩
  cases hfirst : afterFirst marker text with
  | none => exact absurd hsplits (afterFirst_eq_none hfirst hmarker rest)
  | some rest' =>
    obtain ⟨hsplits', hlongest'⟩ := afterFirst_longest hfirst
    rw [splits_unique hsplits' hsplits (Nat.le_antisymm (hlongest _ hsplits')
      (hlongest' _ hsplits))]

theorem afterLast_iff : afterLast marker text = some rest ↔
    Splits marker text rest ∧ ∀ rest', Splits marker text rest' → rest.length ≤ rest'.length := by
  refine ⟨fun h => afterLast_shortest h hmarker, fun ⟨hsplits, hshortest⟩ => ?_⟩
  cases hlast : afterLast marker text with
  | none => exact absurd hsplits (afterLast_eq_none hlast hmarker rest)
  | some rest' =>
    obtain ⟨hsplits', hshortest'⟩ := afterLast_shortest hlast hmarker
    rw [splits_unique hsplits' hsplits (Nat.le_antisymm (hshortest' _ hsplits)
      (hshortest _ hsplits'))]

/-- What follows the text follows the rest. -/
theorem afterFirst_append (h : afterFirst marker text = some rest) (more : List Char) :
    afterFirst marker (text ++ more) = some (rest ++ more) := by
  obtain ⟨⟨before, rfl⟩, hlongest⟩ := afterFirst_longest h
  refine (afterFirst_iff hmarker).2 ⟨⟨before, by simp⟩, fun rest' ⟨before', heq⟩ => ?_⟩
  by_contra hlonger
  rw [List.length_append] at hlonger
  obtain ⟨rest₁, rfl⟩ : more <:+ rest' := by
    refine List.suffix_of_suffix_length_le (List.suffix_append (before ++ marker ++ rest) more) ?_
      (by omega)
    rw [heq]
    exact List.suffix_append _ _
  rw [← List.append_assoc] at heq
  have := hlongest rest₁ ⟨before', List.append_cancel_right heq⟩
  rw [List.length_append] at hlonger
  omega

end

theorem afterFirst_of_notMem {m : Char} {ms before : List Char} (h : m ∉ before)
    (rest : List Char) : afterFirst (m :: ms) (before ++ m :: (ms ++ rest)) = some rest := by
  induction before with
  | nil =>
    have hprefix := List.isPrefixOf?_eq_some_iff_append_eq.2
      (show (m :: ms) ++ rest = m :: (ms ++ rest) from rfl)
    rw [List.nil_append, afterFirst, hprefix]
  | cons c before ih =>
    obtain ⟨hne, hbefore⟩ := not_or.1 (List.mem_cons.not.1 h)
    rw [List.cons_append, afterFirst, ← ih hbefore, List.isPrefixOf?]
    simp [hne]

/-- The rest after the last `_d` has no `_d` in it. -/
theorem afterLast_eq_some {text docId : List Char} : afterLast "_d".toList text = some docId ↔
    (∃ slug, text = slug ++ "_d".toList ++ docId) ∧ ¬ "_d".toList <:+: docId := by
  rw [afterLast_iff (by decide)]
  refine and_congr_right fun ⟨slug, hslug⟩ => ⟨?_, ?_⟩
  · rintro hshortest ⟨before, rest, rfl⟩
    have := hshortest rest ⟨slug ++ "_d".toList ++ before, by simp [hslug]⟩
    simp at this
    omega
  · rintro hnone rest ⟨before, hbefore⟩
    by_contra hshorter
    -- the later occurrence starts with the `d` of this one, or lies in the rest
    obtain ⟨more, hmore⟩ : 'd' :: docId <:+ text := ⟨slug ++ ['_'], by simp [hslug]⟩
    have hlater : "_d".toList ++ rest <:+ 'd' :: docId := by
      refine List.suffix_of_suffix_length_le ⟨before, by rw [hbefore, List.append_assoc]⟩
        ⟨more, hmore⟩ ?_
      simp
      omega
    rcases List.suffix_cons_iff.1 hlater with heq | hsuffix
    · cases heq
    · exact hnone ((List.prefix_append _ _).isInfix.trans hsuffix.isInfix)

/-! ## Segments -/

/-- The text has none of the characters that end a segment of a path. -/
def Plain (text : List Char) : Prop := ∀ c ∈ text, c ≠ '/' ∧ c ≠ '?' ∧ c ≠ '#'

/-- The text is empty or starts with a character that ends a segment. -/
def EndsSegment (text : List Char) : Prop := ∀ c ∈ text.head?, c = '/' ∨ c = '?' ∨ c = '#'

instance (text : List Char) : Decidable (Plain text) := List.decidableBAll _ text

instance (text : List Char) : Decidable (EndsSegment text) := Option.decidableForallMem _

theorem segment_append {text tail : List Char} (h : Plain text) (htail : EndsSegment tail) :
    segment (text ++ tail) = text := by
  have hkept : ∀ c ∈ text, (c != '/' && c != '?' && c != '#') = true := by
    intro c hc
    obtain ⟨hslash, hquery, hhash⟩ := h c hc
    simp [hslash, hquery, hhash]
  rw [segment, List.takeWhile_append_of_pos hkept]
  cases tail with
  | nil => simp
  | cons c tail =>
    have hc := htail c rfl
    rw [List.takeWhile_cons_of_neg, List.append_nil]
    rcases hc with rfl | rfl | rfl <;> decide

theorem segment_split (text : List Char) : ∃ tail, text = segment text ++ tail ∧
    Plain (segment text) ∧ EndsSegment tail := by
  let kept (c : Char) : Bool := c != '/' && c != '?' && c != '#'
  refine ⟨text.dropWhile kept, List.takeWhile_append_dropWhile.symm, ?_, ?_⟩
  · intro c hc
    have := List.mem_takeWhile_imp hc
    simpa [and_assoc] using this
  · intro c hc
    have := List.head?_dropWhile_not kept text
    rw [Option.mem_def.1 hc] at this
    by_contra hnot
    simp_all [kept]

/-- A segment ends at the first slash. -/
theorem segment_slash (text tail : List Char) :
    segment (text ++ '/' :: tail) = segment (text ++ ['/']) := by
  induction text with
  | nil => rfl
  | cons c text ih =>
    simp only [segment, List.cons_append, List.takeWhile_cons] at ih ⊢
    rw [ih]

/-! ## Browser URLs -/

/-- The text names a document: `/d/`, a segment, and the id after the last `_d` in it. -/
def Names (text docId : List Char) : Prop :=
  ∃ slug tail, text = "/d/".toList ++ (slug ++ "_d".toList ++ docId) ++ tail ∧
    Plain (slug ++ "_d".toList ++ docId) ∧ EndsSegment tail ∧ docId ≠ [] ∧
    ¬ "_d".toList <:+: docId

/-- **The document read from a URL**: the one that the text from the first slash after the scheme
names. -/
theorem docIdFromBrowserUrl_eq_some {scheme after docId : String} (h : ':' ∉ scheme.toList) :
    docIdFromBrowserUrl (scheme ++ "://" ++ after) = some docId ↔
      Names (after.toList.dropWhile (· != '/')) docId.toList := by
  have hafter : afterFirst "://".toList (scheme ++ "://" ++ after).toList = some after.toList := by
    rw [String.toList_append, String.toList_append, List.append_assoc]
    exact afterFirst_of_notMem h after.toList
  simp only [docIdFromBrowserUrl, hafter, Option.bind_eq_bind, Option.bind_some,
    Option.bind_eq_some_iff, List.isPrefixOf?_eq_some_iff_append_eq]
  constructor
  · rintro ⟨rest, hrest, id, hid, hsome⟩
    split at hsome
    · cases hsome
    · rename_i hempty
      obtain rfl := Option.some.inj hsome
      obtain ⟨⟨slug, hslug⟩, hnone⟩ := afterLast_eq_some.1 hid
      obtain ⟨tail, htail, hplain, hends⟩ := segment_split rest
      rw [hslug] at htail hplain
      rw [String.toList_ofList]
      refine ⟨slug, tail, ?_, hplain, hends, by simpa using hempty, hnone⟩
      rw [← hrest, htail]
      simp
  · rintro ⟨slug, tail, heq, hplain, hends, hempty, hnone⟩
    refine ⟨slug ++ "_d".toList ++ docId.toList ++ tail, by rw [heq]; simp, docId.toList, ?_, ?_⟩
    · rw [segment_append hplain hends]
      exact afterLast_eq_some.2 ⟨⟨slug, rfl⟩, hnone⟩
    · rw [if_neg (by simpa using hempty), String.ofList_toList]

/-- A URL by its parts; the path ends at the first `?` or `#`. -/
structure Url where
  scheme : String
  authority : String
  path : String
  suffix : String
  scheme_colon : ':' ∉ scheme.toList
  authority_plain : Plain authority.toList
  path_start : ∀ c ∈ path.toList.head?, c = '/'
  path_end : ∀ c ∈ path.toList, c ≠ '?' ∧ c ≠ '#'
  suffix_start : ∀ c ∈ suffix.toList.head?, c = '?' ∨ c = '#'

namespace Url

def text (url : Url) : String := url.scheme ++ "://" ++ (url.authority ++ url.path ++ url.suffix)

/-- The path is that of a document: `/d/<slug>_d<id>`, and perhaps more segments; `isIdChar` are
the characters an id may have. -/
def IsDocument (isIdChar : Char → Bool) (url : Url) : Prop :=
  ∃ slug docId tail : String, url.path = "/d/" ++ slug ++ "_d" ++ docId ++ tail ∧
    Plain slug.toList ∧ ¬ "_d".toList <:+: slug.toList ∧
    docId ≠ "" ∧ (∀ c ∈ docId.toList, isIdChar c = true) ∧ EndsSegment tail.toList

/-- The URL from the first slash after the authority, also when that is in the query. -/
def fromSlash (url : Url) : List Char := (url.path ++ url.suffix).toList.dropWhile (· != '/')

theorem docId_eq_some (url : Url) {docId : String} :
    docIdFromBrowserUrl url.text = some docId ↔ Names url.fromSlash docId.toList := by
  have hauthority : ∀ c ∈ url.authority.toList, (c != '/') = true := fun c hc =>
    bne_iff_ne.2 (url.authority_plain c hc).1
  rw [text, docIdFromBrowserUrl_eq_some url.scheme_colon, fromSlash, String.toList_append,
    String.toList_append, List.append_assoc, List.dropWhile_append_of_pos hauthority,
    String.toList_append]

theorem docId_eq_none (url : Url) :
    docIdFromBrowserUrl url.text = none ↔ ∀ docId, ¬ Names url.fromSlash docId := by
  rw [Option.eq_none_iff_forall_ne_some]
  constructor
  · intro h docId hnames
    refine h (String.ofList docId) (url.docId_eq_some.2 ?_)
    rwa [String.toList_ofList]
  · exact fun h docId hsome => h docId.toList (url.docId_eq_some.1 hsome)

end Url

/-- The characters of document ids. -/
def isDocIdChar (c : Char) : Bool := c.isAlphanum || c == '-' || c == '_'

/-- A document id. -/
structure IsDocId (docId : String) : Prop where
  ne_empty : docId ≠ ""
  chars : ∀ c ∈ docId.toList, isDocIdChar c = true

theorem IsDocId.plain {docId : String} (h : IsDocId docId) : Plain docId.toList := by
  intro c hc
  have hchar := h.chars c hc
  refine ⟨?_, ?_, ?_⟩
  all_goals
    rintro rfl
    revert hchar
    decide

/-- **The id in a canonical URL** is read when it has no `_d` in it. -/
theorem docId_of_canonical_iff {scheme authority slug docId tail : String}
    (hscheme : ':' ∉ scheme.toList) (hauthority : Plain authority.toList)
    (hslug : Plain slug.toList) (hid : IsDocId docId) (htail : EndsSegment tail.toList) :
    docIdFromBrowserUrl
        (scheme ++ "://" ++ (authority ++ "/d/" ++ slug ++ "_d" ++ docId ++ tail)) = some docId ↔
      ¬ "_d".toList <:+: docId.toList := by
  have hdropped : ∀ c ∈ authority.toList, (c != '/') = true := fun c hc =>
    bne_iff_ne.2 (hauthority c hc).1
  have hmarker : Plain "_d".toList := by decide +kernel
  rw [docIdFromBrowserUrl_eq_some hscheme]
  simp only [String.toList_append, List.append_assoc]
  rw [List.dropWhile_append_of_pos hdropped]
  constructor
  · exact fun ⟨_, _, _, _, _, _, hnone⟩ => hnone
  · intro hnone
    refine ⟨slug.toList, tail.toList, ?_, ?_, htail, ?_, hnone⟩
    · simp
    · intro c hc
      simp only [List.mem_append] at hc
      rcases hc with (hc | hc) | hc
      · exact hslug c hc
      · exact hmarker c hc
      · exact hid.plain c hc
    · simpa using hid.ne_empty

/-! ## Resolved links -/

/-- The text after the first `/docs/` of a base and its own `/docs/`: nothing, unless `/docs/`
occurs before. -/
theorem afterFirst_base (base : List Char) : ∃ rest,
    afterFirst "/docs/".toList (base ++ "/docs/".toList) = some rest ∧
      (rest = [] ↔ ¬ "/docs/".toList <:+: base ++ "/docs".toList) ∧
      (rest = [] ∨ ∃ text, rest = text ++ ['/']) := by
  have hown : Splits "/docs/".toList (base ++ "/docs/".toList) [] := ⟨base, by simp⟩
  cases hfirst : afterFirst "/docs/".toList (base ++ "/docs/".toList) with
  | none => exact absurd hown (afterFirst_eq_none hfirst (by decide) [])
  | some rest =>
    obtain ⟨⟨before, hbefore⟩, hlongest⟩ := afterFirst_longest hfirst
    refine ⟨rest, rfl, ?_, ?_⟩
    · constructor
      · rintro rfl ⟨before', rest', heq⟩
        have := hlongest (rest' ++ ['/']) ⟨before', by rw [← List.append_assoc, heq]; simp⟩
        simp at this
      · intro hnone
        by_contra hrest
        refine hnone ⟨before, rest.dropLast, ?_⟩
        have hlast := congrArg List.dropLast hbefore
        rw [List.dropLast_append_of_ne_nil hrest,
          List.dropLast_append_of_ne_nil (by decide)] at hlast
        exact hlast.symm
    · rcases List.eq_nil_or_concat rest with hrest | ⟨text, c, hrest⟩
      · exact .inl hrest
      · refine .inr ⟨text, ?_⟩
        have hlast := congrArg List.getLast? hbefore
        have hown : base ++ "/docs/".toList = base ++ "/docs".toList ++ ['/'] := by simp
        rw [hown, hrest, List.concat_eq_append, ← List.append_assoc, List.getLast?_concat,
          List.getLast?_concat] at hlast
        rw [hrest, List.concat_eq_append, Option.some.inj hlast]

section
variable [SerdeJson]

/-- The body describes a resource of this type with this API link. -/
def Describes (body resourceType href : String) : Prop :=
  ∃ root resource, SerdeJson.fromStr body = .ok root ∧
    (root.get "resource").bind Value.asObject = some resource ∧
    (resource.lookup "type").bind Value.asStr = some resourceType ∧
    (resource.lookup "href").bind Value.asStr = some href

/-- **The document of a link**: the segment after the first `/docs/`. -/
theorem docIdFromResolvedLink_eq {body resourceType href docId : String}
    (h : Describes body resourceType href) (htype : eqIgnoreAsciiCase resourceType "doc" = false)
    (hid : docId ≠ "") : docIdFromResolvedLink body = .ok docId ↔
      ∃ rest, afterFirst "/docs/".toList href.toList = some rest ∧ segment rest = docId.toList := by
  obtain ⟨root, resource, hroot, hresource, hresourceType, hhref⟩ := h
  simp only [docIdFromResolvedLink, hroot, Except.mapError, bind, Except.bind, hresource, okOr,
    hresourceType, hhref, htype]
  cases afterFirst "/docs/".toList href.toList with
  | none => simp
  | some rest =>
    by_cases hempty : segment rest = []
    · have hne : [] ≠ docId.toList := fun heq => hid (String.toList_inj.1 heq.symm)
      simp [hempty, hne]
    · simp only [List.isEmpty_iff, hempty]
      simp [pure, Except.pure, ← String.toList_inj]

/-- **The document of a link under a base** is read when `/docs/` does not occur before, or the
same id follows it there. -/
theorem docId_of_link_iff {body resourceType base docId tail : String}
    (h : Describes body resourceType (base ++ "/docs/" ++ docId ++ tail))
    (htype : eqIgnoreAsciiCase resourceType "doc" = false) (hid : IsDocId docId)
    (htail : EndsSegment tail.toList) : docIdFromResolvedLink body = .ok docId ↔
      ¬ "/docs/".toList <:+: (base ++ "/docs").toList ∨
        (afterFirst "/docs/".toList (base ++ "/docs/").toList).map segment =
          some docId.toList := by
  obtain ⟨rest, hfirst, hempty, hslash⟩ := afterFirst_base base.toList
  have hhref := afterFirst_append (by decide) hfirst (docId.toList ++ tail.toList)
  rw [docIdFromResolvedLink_eq h htype hid.ne_empty]
  simp only [String.toList_append, List.append_assoc] at hhref ⊢
  rw [hhref, hfirst, ← hempty]
  have hown : segment (docId.toList ++ tail.toList) = docId.toList :=
    segment_append hid.plain htail
  rcases hslash with rfl | ⟨text, rfl⟩
  · simp [hown]
  · simp [segment_slash text (docId.toList ++ tail.toList)]

/-- **When document ids are extracted exactly.** From a canonical URL, when the id has no `_d` in
it; from no other URL, unless the text from the first slash after the authority names a document;
and from a link, when `/docs/` does not occur before its own, or the same id follows it there. -/
theorem doc_ids_extracted_iff :
    (∀ scheme authority slug docId tail : String, ':' ∉ scheme.toList → Plain authority.toList →
      Plain slug.toList → ¬ "_d".toList <:+: slug.toList → IsDocId docId →
      EndsSegment tail.toList →
        (docIdFromBrowserUrl (scheme ++ "://" ++
            (authority ++ "/d/" ++ slug ++ "_d" ++ docId ++ tail)) = some docId ↔
          ¬ "_d".toList <:+: docId.toList)) ∧
    (∀ (isIdChar : Char → Bool) (url : Url),
      (¬ url.IsDocument isIdChar → docIdFromBrowserUrl url.text = none) ↔
        url.IsDocument isIdChar ∨ ∀ docId, ¬ Names url.fromSlash docId) ∧
    (∀ body resourceType base docId tail : String,
      Describes body resourceType (base ++ "/docs/" ++ docId ++ tail) →
      eqIgnoreAsciiCase resourceType "doc" = false → IsDocId docId → EndsSegment tail.toList →
        (docIdFromResolvedLink body = .ok docId ↔
          ¬ "/docs/".toList <:+: (base ++ "/docs").toList ∨
            (afterFirst "/docs/".toList (base ++ "/docs/").toList).map segment =
              some docId.toList)) := by
  refine ⟨?_, ?_, ?_⟩
  · intro scheme authority slug docId tail hscheme hauthority hslug _ hid htail
    exact docId_of_canonical_iff hscheme hauthority hslug hid htail
  · intro isIdChar url
    rw [url.docId_eq_none]
    exact or_iff_not_imp_left.symm
  · intro body resourceType base docId tail hbody htype hid htail
    exact docId_of_link_iff hbody htype hid htail

end

/-! ## URLs that name another document -/

open Json.Reference Reference

/-- The answer for a link to a table. -/
def tableLinkJson (href : String) : Value :=
  .object [("resource", .object [("href", .string href), ("type", .string "table")])]

theorem describes_tableLinkJson (href : String) :
    Describes (tableLinkJson href).print "table" href := by
  have hsorted : ¬ ("type" < "href") := by decide
  have hcanon : (tableLinkJson href).canonicalize = tableLinkJson href := by
    simp [tableLinkJson, Value.canonicalize, Json.canonicalizeFields, Json.insert, hsorted]
  have hread := SerdeJson.fromStr_print (tableLinkJson href) rfl
  rw [hcanon] at hread
  refine ⟨_, _, hread, rfl, ?_, ?_⟩
  · simp [Json.lookup_cons_ite, Value.asStr]
  · simp [Value.asStr]

/-- The document of a published URL and of the link to one of its tables. -/
theorem doc_ids_extracted_iff_published :
    (docIdFromBrowserUrl ("https" ++ "://" ++
        ("coda.io" ++ "/d/" ++ "Launch-Status" ++ "_d" ++ "AbCDeFGH" ++ "/Page_su123")) =
          some "AbCDeFGH" ↔ ¬ "_d".toList <:+: "AbCDeFGH".toList) ∧
    (docIdFromResolvedLink (tableLinkJson ("https://coda.io/apis/v1" ++ "/docs/" ++ "AbCDeFGH" ++
        "/tables/t1")).print = .ok "AbCDeFGH" ↔
      ¬ "/docs/".toList <:+: ("https://coda.io/apis/v1" ++ "/docs").toList ∨
        (afterFirst "/docs/".toList ("https://coda.io/apis/v1" ++ "/docs/").toList).map segment =
          some "AbCDeFGH".toList) := by
  have hid : IsDocId "AbCDeFGH" := ⟨by decide, List.all_eq_true.1 (by decide +kernel)⟩
  refine ⟨doc_ids_extracted_iff.1 "https" "coda.io" "Launch-Status" "AbCDeFGH" "/Page_su123"
    (by decide) ?_ ?_ (by decide) hid ?_, doc_ids_extracted_iff.2.2 _ "table" _ "AbCDeFGH"
    "/tables/t1" (describes_tableLinkJson _) (by decide +kernel) hid ?_⟩
  · decide +kernel
  · decide +kernel
  · decide +kernel
  · decide +kernel

/-- **Three times the wrong document is read**: an id with `_d` in it, a URL without a path whose
query names a document, and a base with `/docs/` in it. -/
theorem doc_ids_confused :
    docIdFromBrowserUrl "https://coda.io/d/Launch_dAb_dC" = some "C" ∧
    docIdFromBrowserUrl "https://coda.io?next=/d/Launch_dAbC" = some "AbC" ∧
    docIdFromResolvedLink (tableLinkJson ("https://proxy/docs/v1" ++ "/docs/" ++ "AbC" ++
      "/tables/t1")).print = .ok "v1" := by
  refine ⟨by decide +kernel, by decide +kernel, ?_⟩
  refine (docIdFromResolvedLink_eq (describes_tableLinkJson _) (by decide +kernel)
    (by decide)).2 ⟨"v1/docs/AbC/tables/t1".toList, ?_, ?_⟩
  · decide +kernel
  · decide +kernel

end SuperhumanDocs
