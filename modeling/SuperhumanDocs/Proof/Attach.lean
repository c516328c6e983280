import SuperhumanDocs.Attach.Reference

/-!
# The credential of an attach

* `url_credential_agrees_iff`: attaching a browser URL uses the credential that attaching the
  document by its id uses, exactly when the secret guessed from the URL is not kept for a document
  without a secret of its own.
* `explicit_kept_iff`: an explicit credential is used and nothing is looked up, exactly when its
  value is not empty.
-/

set_option autoImplicit false

namespace SuperhumanDocs

open Effect (Traced Run runFrom)
open Json (SerdeJson)

/-! ## Lookups -/

section
variable {w : AttachWorld} {s s' : Run Unit AttachEvent}

def documentSecret (w : AttachWorld) (docId : String) : Except String String :=
  ownedSecret w (secretScopePrefix ++ docId)

def generalSecret (w : AttachWorld) : Except String String := ownedSecret w secretScopePrefix

/-- The secret of the document guessed from a URL, empty when there is no guess. -/
def guessedSecret (w : AttachWorld) (browserUrl : String) : Except String String :=
  match docIdFromBrowserUrl browserUrl with
  | some docId => documentSecret w docId
  | none => .ok ""

/-- The credential of a document is its own secret, or else the general one. -/
def Stored (w : AttachWorld) (docId credential : String) : Prop :=
  credential ≠ "" ∧ (documentSecret w docId = .ok credential ∨
    documentSecret w docId = .ok "" ∧ generalSecret w = .ok credential)

theorem lookupSecret_eq_ok {scope value : String} :
    lookupSecret w scope s = .ok value s' ↔
      ownedSecret w scope = .ok value ∧ s' = ⟨(), s.trace ++ [.secret scope]⟩ := by
  unfold lookupSecret
  rw [Effect.run_perform_bind_eq_ok, Effect.run_ofExcept_eq_ok, eq_comm (a := s')]

/-- A lookup that returns lets the next step go on. -/
theorem lookupSecret_bind_eq_ok {α : Type} (scope : String) {a : α}
    {next : String → Traced String Unit AttachEvent α} :
    (lookupSecret w scope >>= next) s = .ok a s' ↔ ∃ value, ownedSecret w scope = .ok value ∧
      next value ⟨(), s.trace ++ [.secret scope]⟩ = .ok a s' := by
  rw [Effect.run_bind_eq_ok]
  apply Iff.intro
  · intro h
    obtain ⟨value, s₁, hlookup, hnext⟩ := h
    obtain ⟨hvalue, rfl⟩ := lookupSecret_eq_ok.1 hlookup
    exact ⟨value, hvalue, hnext⟩
  · intro h
    obtain ⟨value, hvalue, hnext⟩ := h
    exact ⟨value, _, lookupSecret_eq_ok.2 ⟨hvalue, rfl⟩, hnext⟩

/-- The general secret must be there. -/
theorem generalSecret_eq_ok {credential message : String} :
    (∃ s', (do
      let general ← lookupSecret w secretScopePrefix
      if general.isEmpty then throw message else return general :
        Traced String Unit AttachEvent String) s = .ok credential s') ↔
      credential ≠ "" ∧ generalSecret w = .ok credential := by
  simp only [lookupSecret_bind_eq_ok]
  apply Iff.intro
  · intro h
    obtain ⟨s', general, hgeneral, h⟩ := h
    by_cases hempty : general = ""
    · rw [if_pos (by simpa using hempty), Effect.run_throw_eq_ok] at h
      cases h
    · rw [if_neg (by simpa using hempty), Effect.run_pure_eq_ok] at h
      obtain ⟨rfl, -⟩ := h
      exact ⟨hempty, hgeneral⟩
  · intro h
    obtain ⟨hempty, hgeneral⟩ := h
    refine ⟨⟨(), s.trace ++ [.secret secretScopePrefix]⟩, credential, hgeneral, ?_⟩
    rw [if_neg (by simpa using hempty), Effect.run_pure_eq_ok]
    exact ⟨rfl, rfl⟩

theorem resolveStoredCredential_eq_ok {docId credential : String} :
    (∃ s', resolveStoredCredential w docId s = .ok credential s') ↔ Stored w docId credential := by
  unfold resolveStoredCredential
  simp only [lookupSecret_bind_eq_ok (secretScopePrefix ++ docId)]
  apply Iff.intro
  · intro h
    obtain ⟨s', value, hvalue, h⟩ := h
    by_cases hempty : value = ""
    · subst hempty
      obtain ⟨hne, hgeneral⟩ := generalSecret_eq_ok.1 ⟨s', h⟩
      exact ⟨hne, .inr ⟨hvalue, hgeneral⟩⟩
    · rw [if_pos (by simpa using hempty), Effect.run_pure_eq_ok] at h
      obtain ⟨rfl, -⟩ := h
      exact ⟨hempty, .inl hvalue⟩
  · intro h
    obtain ⟨hne, hvalue | ⟨hvalue, hgeneral⟩⟩ := h
    · refine ⟨⟨(), s.trace ++ [.secret (secretScopePrefix ++ docId)]⟩, credential, hvalue, ?_⟩
      rw [if_pos (by simpa using hne), Effect.run_pure_eq_ok]
      exact ⟨rfl, rfl⟩
    · obtain ⟨s', h⟩ := generalSecret_eq_ok.2 ⟨hne, hgeneral⟩
      exact ⟨s', "", hvalue, h⟩

def attachExplicit (w : AttachWorld) : Except String String := do
  explicitCredential w (← readOptions w)

theorem attachExplicit_eq_ok {explicit : String} : attachExplicit w = .ok explicit ↔
    ∃ options, readOptions w = .ok options ∧ explicitCredential w options = .ok explicit :=
  Effect.bind_eq_ok

/-! ## Browser URLs -/

/-- An explicit credential is sent without a lookup. -/
theorem bootstrapCredential_explicit {browserUrl explicit : String} (h : explicit ≠ "") :
    bootstrapCredential w browserUrl explicit = pure explicit := by
  unfold bootstrapCredential
  rw [if_pos (by simpa using h)]

theorem lookupInferred_eq_ok {browserUrl value : String} :
    (∃ s', lookupInferred w (docIdFromBrowserUrl browserUrl) s = .ok value s') ↔
      guessedSecret w browserUrl = .ok value := by
  unfold lookupInferred guessedSecret
  cases docIdFromBrowserUrl browserUrl with
  | none => simp only [Effect.run_pure_eq_ok, exists_and_left, exists_eq', and_true, Except.ok.injEq]
  | some docId => simp only [lookupSecret_eq_ok, exists_and_left, exists_eq, and_true]; rfl

/-- Otherwise the secret guessed from the URL is sent, or else the general one. -/
theorem bootstrapCredential_eq_ok {browserUrl credential : String} :
    (∃ s', bootstrapCredential w browserUrl "" s = .ok credential s') ↔
      credential ≠ "" ∧ (guessedSecret w browserUrl = .ok credential ∨
        guessedSecret w browserUrl = .ok "" ∧ generalSecret w = .ok credential) := by
  unfold bootstrapCredential
  rw [if_neg (by decide)]
  simp only [Effect.run_bind_eq_ok (x := lookupInferred w _)]
  apply Iff.intro
  · intro h
    obtain ⟨s', guessed, s₁, hguessed, h⟩ := h
    have hsecret := lookupInferred_eq_ok.1 ⟨s₁, hguessed⟩
    by_cases hempty : guessed = ""
    · subst hempty
      obtain ⟨hne, hgeneral⟩ := generalSecret_eq_ok.1 ⟨s', h⟩
      exact ⟨hne, .inr ⟨hsecret, hgeneral⟩⟩
    · rw [if_pos (by simpa using hempty), Effect.run_pure_eq_ok] at h
      obtain ⟨rfl, -⟩ := h
      exact ⟨hempty, .inl hsecret⟩
  · intro h
    obtain ⟨hne, hguessed | ⟨hguessed, hgeneral⟩⟩ := h
    · obtain ⟨s₁, hlookup⟩ := lookupInferred_eq_ok.2 hguessed
      refine ⟨s₁, credential, s₁, hlookup, ?_⟩
      rw [if_pos (by simpa using hne), Effect.run_pure_eq_ok]
      exact ⟨rfl, rfl⟩
    · obtain ⟨s₁, hlookup⟩ := lookupInferred_eq_ok.2 hguessed
      obtain ⟨s', h⟩ := generalSecret_eq_ok.2 ⟨hne, hgeneral⟩
      exact ⟨s', "", s₁, hlookup, h⟩

section
variable [SerdeJson]

theorem docIdFromResolvedLink_ne_empty {body docId : String}
    (h : docIdFromResolvedLink body = .ok docId) : docId ≠ "" := by
  unfold docIdFromResolvedLink at h
  obtain ⟨root, -, h⟩ := Effect.bind_eq_ok.1 h
  obtain ⟨resource, -, h⟩ := Effect.bind_eq_ok.1 h
  obtain ⟨resourceType, -, h⟩ := Effect.bind_eq_ok.1 h
  by_cases hdoc : eqIgnoreAsciiCase resourceType "doc" = true
  · rw [if_pos hdoc] at h
    cases hid : ((resource.lookup "id").bind Json.Value.asStr).filter fun v => !v.isEmpty with
    | none => rw [hid] at h; cases h
    | some id =>
      rw [hid] at h
      cases h
      simpa using (Option.filter_eq_some_iff.1 hid).2
  · rw [if_neg hdoc] at h
    obtain ⟨href, -, h⟩ := Effect.bind_eq_ok.1 h
    obtain ⟨rest, -, h⟩ := Effect.bind_eq_ok.1 h
    by_cases hempty : (segment rest).isEmpty = true
    · simp only [hempty, if_true] at h
      cases h
    · simp only [hempty] at h
      cases h
      simpa using hempty

/-- The request of a URL: which credential it carries, the document in the answer, and the
credential that is kept. -/
theorem resolveBrowserUrl_eq_ok {browserUrl explicit endpoint : String} {found : String × String} :
    resolveBrowserUrl w browserUrl explicit endpoint s = .ok found s' ↔
      ∃ bootstrap s₁ body, bootstrapCredential w browserUrl explicit s = .ok bootstrap s₁ ∧
        w.newClient endpoint bootstrap = .ok () ∧
        execute (w.resolveBrowserLink endpoint bootstrap browserUrl) = .ok body ∧
        docIdFromResolvedLink body = .ok found.1 ∧
        if explicit = "" then ∃ canonical, documentSecret w found.1 = .ok canonical ∧
          found.2 = (if canonical = "" then bootstrap else canonical) ∧
          s' = ⟨(), s₁.trace ++ [.link endpoint bootstrap browserUrl] ++
            [.secret (secretScopePrefix ++ found.1)]⟩
        else found.2 = bootstrap ∧
          s' = ⟨(), s₁.trace ++ [.link endpoint bootstrap browserUrl]⟩ := by
  unfold resolveBrowserUrl
  apply Iff.intro
  · intro h
    obtain ⟨bootstrap, s₁, hbootstrap, h⟩ := Effect.run_bind_eq_ok.1 h
    obtain ⟨_, hclient, h⟩ := Effect.run_ofExcept_bind_eq_ok.1 h
    rw [Effect.run_perform_bind_eq_ok] at h
    obtain ⟨body, hbody, h⟩ := Effect.run_ofExcept_bind_eq_ok.1 h
    obtain ⟨docId, hdocId, h⟩ := Effect.run_ofExcept_bind_eq_ok.1 h
    by_cases hexplicit : explicit = ""
    · rw [if_pos (by simpa using hexplicit), lookupSecret_bind_eq_ok] at h
      obtain ⟨canonical, hcanonical, h⟩ := h
      obtain ⟨rfl, rfl⟩ := Effect.run_pure_eq_ok.1 h
      refine ⟨bootstrap, s₁, body, hbootstrap, hclient, hbody, hdocId, ?_⟩
      rw [if_pos hexplicit]
      exact ⟨canonical, hcanonical, by simp, rfl⟩
    · rw [if_neg (by simpa using hexplicit)] at h
      obtain ⟨rfl, rfl⟩ := Effect.run_pure_eq_ok.1 h
      refine ⟨bootstrap, s₁, body, hbootstrap, hclient, hbody, hdocId, ?_⟩
      rw [if_neg hexplicit]
      exact ⟨rfl, rfl⟩
  · intro h
    obtain ⟨bootstrap, s₁, body, hbootstrap, hclient, hbody, hdocId, h⟩ := h
    refine Effect.run_bind_eq_ok.2 ⟨bootstrap, s₁, hbootstrap, ?_⟩
    refine Effect.run_ofExcept_bind_eq_ok.2 ⟨(), hclient, ?_⟩
    rw [Effect.run_perform_bind_eq_ok]
    refine Effect.run_ofExcept_bind_eq_ok.2 ⟨body, hbody, ?_⟩
    refine Effect.run_ofExcept_bind_eq_ok.2 ⟨found.1, hdocId, ?_⟩
    by_cases hexplicit : explicit = ""
    · rw [if_pos hexplicit] at h
      obtain ⟨canonical, hcanonical, hfound, rfl⟩ := h
      rw [if_pos (by simpa using hexplicit), lookupSecret_bind_eq_ok]
      refine ⟨canonical, hcanonical, Effect.run_pure_eq_ok.2 ⟨?_, rfl⟩⟩
      exact Prod.ext rfl (by simpa using hfound.symm)
    · rw [if_neg hexplicit] at h
      obtain ⟨hfound, rfl⟩ := h
      rw [if_neg (by simpa using hexplicit)]
      exact Effect.run_pure_eq_ok.2 ⟨Prod.ext rfl hfound.symm, rfl⟩

/-! ## Raw ids and whole attaches -/

/-- The explicit credential, or else the stored one. -/
def Chosen (w : AttachWorld) (explicit docId credential : String) : Prop :=
  if explicit = "" then Stored w docId credential else credential = explicit

/-- A document id is looked up as it is. -/
theorem resolveResource_raw {docId explicit credential : String} (endpoint : String)
    (hraw : isBrowserUrl docId = false) :
    (∃ s', resolveResource w docId explicit endpoint s = .ok (docId, credential) s') ↔
      Chosen w explicit docId credential := by
  unfold resolveResource Chosen
  rw [if_neg (by simpa using hraw)]
  by_cases hexplicit : explicit = ""
  · rw [if_pos (by simpa using hexplicit), if_pos hexplicit, ← resolveStoredCredential_eq_ok (s := s)]
    simp only [Effect.run_bind_eq_ok, Effect.run_pure_eq_ok]
    apply Iff.intro
    · intro h
      obtain ⟨s', stored, s₁, hstored, hpair, -⟩ := h
      cases hpair
      exact ⟨s₁, hstored⟩
    · intro h
      obtain ⟨s', hstored⟩ := h
      exact ⟨s', credential, s', hstored, rfl, rfl⟩
  · rw [if_neg (by simpa using hexplicit), if_neg hexplicit]
    simp only [Effect.run_pure_eq_ok]
    apply Iff.intro
    · intro h
      obtain ⟨s', hpair, -⟩ := h
      cases hpair
      rfl
    · intro h
      exact ⟨s, by rw [h], rfl⟩

def attachConfig (flags : AttachFlags) (endpoint resource credential : String) : ClientConfig where
  resource
  credential
  endpoint
  includeSystemColumns := flags.includeSystemColumns
  waitForMutations := flags.waitForMutations
  mutationTimeoutSeconds := flags.mutationTimeoutSeconds
  allowMutationWarnings := flags.allowMutationWarnings

theorem resolveAttach_eq_ok {path : String} {config : ClientConfig} :
    resolveAttach w path s = .ok config s' ↔ ∃ options explicit flags resource credential,
      readOptions w = .ok options ∧ explicitCredential w options = .ok explicit ∧
      stripAttachResourcePrefix path ≠ "" ∧ parseFlags options = .ok flags ∧
      resolveResource w (stripAttachResourcePrefix path) explicit (attachEndpoint w options) s =
        .ok (resource, credential) s' ∧
      config = attachConfig flags (attachEndpoint w options) resource credential := by
  unfold resolveAttach
  apply Iff.intro
  · intro h
    obtain ⟨options, hoptions, h⟩ := Effect.run_ofExcept_bind_eq_ok.1 h
    obtain ⟨explicit, hexplicit, h⟩ := Effect.run_ofExcept_bind_eq_ok.1 h
    by_cases hempty : stripAttachResourcePrefix path = ""
    · rw [if_pos (by simpa using hempty)] at h
      obtain ⟨_, _, hthrow, -⟩ := Effect.run_bind_eq_ok.1 h
      cases Effect.run_throw_eq_ok.1 hthrow
    · rw [if_neg (by simpa using hempty)] at h
      obtain ⟨flags, hflags, h⟩ := Effect.run_ofExcept_bind_eq_ok.1 h
      obtain ⟨found, s₁, hfound, h⟩ := Effect.run_bind_eq_ok.1 h
      obtain ⟨rfl, rfl⟩ := Effect.run_pure_eq_ok.1 h
      exact ⟨options, explicit, flags, found.1, found.2, hoptions, hexplicit, hempty, hflags,
        hfound, rfl⟩
  · intro h
    obtain ⟨options, explicit, flags, resource, credential, hoptions, hexplicit, hempty, hflags,
      hfound, rfl⟩ := h
    refine Effect.run_ofExcept_bind_eq_ok.2 ⟨options, hoptions, ?_⟩
    refine Effect.run_ofExcept_bind_eq_ok.2 ⟨explicit, hexplicit, ?_⟩
    rw [if_neg (by simpa using hempty)]
    refine Effect.run_ofExcept_bind_eq_ok.2 ⟨flags, hflags, ?_⟩
    exact Effect.run_bind_eq_ok.2 ⟨_, s', hfound, rfl⟩

/-! ## A URL and the id of its document -/

/-- An id that is attached as it is. -/
def RawId (docId : String) : Prop :=
  stripAttachResourcePrefix docId = docId ∧ isBrowserUrl docId = false

/-- The credential is the one that an attach by the document id uses. -/
structure AttachAgrees (w : AttachWorld) (explicit : String) (config : ClientConfig) : Prop where
  chosen : Chosen w explicit config.resource config.credential
  raw : RawId config.resource →
    (runFrom (resolveAttach w config.resource) ()).result = .ok config

/-- The secret guessed from the URL is not kept for a document that has no secret of its own,
unless it is the general one anyway. -/
def GuessHarmless (w : AttachWorld) (browserUrl explicit docId : String) : Prop :=
  explicit ≠ "" ∨ documentSecret w docId ≠ .ok "" ∨ guessedSecret w browserUrl = .ok "" ∨
    generalSecret w = guessedSecret w browserUrl

/-- The credential of a resolved URL. -/
theorem chosen_iff_harmless {browserUrl explicit endpoint : String} {found : String × String}
    (h : resolveBrowserUrl w browserUrl explicit endpoint s = .ok found s') :
    Chosen w explicit found.1 found.2 ↔ GuessHarmless w browserUrl explicit found.1 := by
  obtain ⟨bootstrap, s₁, body, hbootstrap, -, -, -, hfound⟩ := resolveBrowserUrl_eq_ok.1 h
  unfold Chosen GuessHarmless
  by_cases hexplicit : explicit = ""
  · subst hexplicit
    rw [if_pos rfl] at hfound ⊢
    obtain ⟨canonical, hcanonical, hcredential, -⟩ := hfound
    obtain ⟨hne, hbootstrap⟩ := bootstrapCredential_eq_ok.1 ⟨s₁, hbootstrap⟩
    unfold Stored
    by_cases hempty : canonical = ""
    · subst hempty
      rw [if_pos rfl] at hcredential
      rw [hcanonical, hcredential]
      rcases hbootstrap with hguessed | ⟨hguessed, hgeneral⟩
      · simp [hguessed, hne, Ne.symm hne]
      · simp [hguessed, hgeneral, hne]
    · rw [if_neg hempty] at hcredential
      rw [hcanonical, hcredential]
      simp [hempty]
  · rw [if_neg hexplicit] at hfound ⊢
    rw [bootstrapCredential_explicit hexplicit, Effect.run_pure_eq_ok] at hbootstrap
    exact iff_of_true (hfound.1.trans hbootstrap.1.symm) (.inl hexplicit)

/-- **A URL and the id of its document get the same credential, exactly when the guess from the
URL is harmless.** -/
theorem url_credential_agrees_iff (path : String) {explicit : String} {config : ClientConfig}
    (hurl : isBrowserUrl (stripAttachResourcePrefix path) = true)
    (hexplicit : attachExplicit w = .ok explicit)
    (h : (runFrom (resolveAttach w path) ()).result = .ok config) :
    AttachAgrees w explicit config ↔
      GuessHarmless w (stripAttachResourcePrefix path) explicit config.resource := by
  obtain ⟨options, explicit', flags, resource, credential, hoptions, hgiven, hempty, hflags, hfound,
    rfl⟩ := resolveAttach_eq_ok.1 (Effect.runFrom_result_eq_ok h)
  obtain ⟨options', hoptions', hgiven'⟩ := attachExplicit_eq_ok.1 hexplicit
  cases hoptions.symm.trans hoptions'
  cases hgiven.symm.trans hgiven'
  unfold resolveResource at hfound
  rw [if_pos hurl] at hfound
  have hchosen := chosen_iff_harmless hfound
  refine Iff.trans ⟨AttachAgrees.chosen, fun hc => ⟨hc, fun hraw => ?_⟩⟩ hchosen
  change RawId resource at hraw
  change Chosen w explicit resource credential at hc
  obtain ⟨s', hresource⟩ := (resolveResource_raw (s := ⟨(), []⟩)
    (attachEndpoint w options) hraw.2).2 hc
  have hne : stripAttachResourcePrefix resource ≠ "" := by
    obtain ⟨_, _, _, -, -, -, hdocId, -⟩ := resolveBrowserUrl_eq_ok.1 hfound
    rw [hraw.1]
    exact docIdFromResolvedLink_ne_empty hdocId
  have hrun : resolveAttach w resource ⟨(), []⟩ =
      .ok (attachConfig flags (attachEndpoint w options) resource credential) s' := by
    apply resolveAttach_eq_ok.2
    refine ⟨options, explicit, flags, resource, credential, hoptions, hgiven, hne, hflags, ?_, rfl⟩
    rw [hraw.1]
    exact hresource
  exact congrArg Effect.Outcome.result (Effect.runFrom_of_ok hrun)

/-! ## Explicit credentials -/

/-- The credential an attach asks for. -/
def givenCredential (w : AttachWorld) (options : AttachOptions) : Except String String :=
  if options.tokenEnv = "" then .ok options.token else w.environment options.tokenEnv

/-- What is asked for is used and nothing is looked up; asking twice is an error. -/
structure ExplicitKept (w : AttachWorld) (options : AttachOptions) (path : String) : Prop where
  both : options.token ≠ "" → options.tokenEnv ≠ "" →
    ∃ e, (runFrom (resolveAttach w path) ()).result = .error e
  kept : ∀ config, (runFrom (resolveAttach w path) ()).result = .ok config →
    ∃ value, givenCredential w options = .ok value ∧ config.credential = value ∧
      ∀ event ∈ (runFrom (resolveAttach w path) ()).events,
        ∃ baseUrl url, event = .link baseUrl value url

omit [SerdeJson] in
theorem explicitCredential_eq_ok {options : AttachOptions} {value : String} :
    explicitCredential w options = .ok value ↔
      ¬ (options.token ≠ "" ∧ options.tokenEnv ≠ "") ∧ givenCredential w options = .ok value := by
  unfold explicitCredential givenCredential readEnvironmentVariable
  by_cases htoken : options.token = ""
  · by_cases henv : options.tokenEnv = ""
    · simp [htoken, henv]
    · simp [htoken, henv, Effect.mapError_eq_ok]
  · by_cases henv : options.tokenEnv = ""
    · simp [htoken, henv]
    · simp [htoken, henv]

/-- A credential that is not empty is the one sent and kept. -/
theorem resolveResource_explicit {resource explicit endpoint : String} {found : String × String}
    (hexplicit : explicit ≠ "")
    (h : resolveResource w resource explicit endpoint ⟨(), []⟩ = .ok found s') :
    found.2 = explicit ∧ ∀ event ∈ s'.trace, ∃ baseUrl url, event = .link baseUrl explicit url := by
  unfold resolveResource at h
  by_cases hurl : isBrowserUrl resource = true
  · rw [if_pos hurl] at h
    obtain ⟨bootstrap, s₁, body, hbootstrap, -, -, -, hfound⟩ := resolveBrowserUrl_eq_ok.1 h
    rw [bootstrapCredential_explicit hexplicit, Effect.run_pure_eq_ok] at hbootstrap
    obtain ⟨rfl, rfl⟩ := hbootstrap
    rw [if_neg hexplicit] at hfound
    obtain ⟨hcredential, rfl⟩ := hfound
    refine ⟨hcredential, fun event hevent => ?_⟩
    rw [List.nil_append, List.mem_singleton] at hevent
    exact ⟨endpoint, resource, hevent⟩
  · rw [if_neg hurl, if_neg (by simpa using hexplicit), Effect.run_pure_eq_ok] at h
    obtain ⟨rfl, rfl⟩ := h
    exact ⟨rfl, by simp⟩

/-- An attach with a credential that is not empty keeps it. -/
theorem explicitKept_of_ne_empty {options : AttachOptions} (hoptions : readOptions w = .ok options)
    (hvalue : ∀ value, explicitCredential w options = .ok value → value ≠ "") (path : String) :
    ExplicitKept w options path where
  both htoken henv := by
    cases hresult : (runFrom (resolveAttach w path) ()).result with
    | error e => exact ⟨e, rfl⟩
    | ok config =>
      -- an attach that succeeds has only one of the two
      obtain ⟨options', explicit, _, _, _, hoptions', hexplicit, -⟩ :=
        resolveAttach_eq_ok.1 (Effect.runFrom_result_eq_ok hresult)
      cases hoptions.symm.trans hoptions'
      exact absurd ⟨htoken, henv⟩ (explicitCredential_eq_ok.1 hexplicit).1
  kept config hresult := by
    obtain ⟨options', explicit, _, _, _, hoptions', hexplicit, -, -, hfound, rfl⟩ :=
      resolveAttach_eq_ok.1 (Effect.runFrom_result_eq_ok hresult)
    cases hoptions.symm.trans hoptions'
    obtain ⟨hcredential, hevents⟩ := resolveResource_explicit (hvalue explicit hexplicit) hfound
    exact ⟨explicit, (explicitCredential_eq_ok.1 hexplicit).2, hcredential, hevents⟩

theorem explicitKept_of_rejected {options : AttachOptions} {e : String}
    (hoptions : readOptions w = .ok options) (hflags : parseFlags options = .error e)
    (path : String) : ExplicitKept w options path := by
  have hrejected : ∀ config, (runFrom (resolveAttach w path) ()).result ≠ .ok config := by
    intro config hresult
    obtain ⟨options', _, flags, _, _, hoptions', -, -, hflags', -⟩ :=
      resolveAttach_eq_ok.1 (Effect.runFrom_result_eq_ok hresult)
    cases hoptions.symm.trans hoptions'
    cases hflags.symm.trans hflags'
  refine ⟨fun _ _ => ?_, fun config hresult => absurd hresult (hrejected config)⟩
  cases hresult : (runFrom (resolveAttach w path) ()).result with
  | error e => exact ⟨e, rfl⟩
  | ok config => exact absurd hresult (hrejected config)

omit [SerdeJson] in
/-- The credential that is asked for is empty only if it is an empty variable. -/
theorem explicitCredential_empty_iff {options : AttachOptions}
    (hgiven : options.token ≠ "" ∨ options.tokenEnv ≠ "") :
    explicitCredential w options = .ok "" ↔
      options.token = "" ∧ w.environment options.tokenEnv = .ok "" := by
  rw [explicitCredential_eq_ok, givenCredential]
  by_cases henv : options.tokenEnv = ""
  · have htoken : options.token ≠ "" := hgiven.resolve_right (not_not.2 henv)
    rw [if_pos henv]
    constructor
    · rintro ⟨-, hvalue⟩
      exact absurd (Except.ok.inj hvalue) htoken
    · rintro ⟨hempty, -⟩
      exact absurd hempty htoken
  · simp [henv]

/-- An attach with the empty credential uses a secret that is stored for every scope. -/
theorem resolveAttach_stored {options : AttachOptions} {flags : AttachFlags}
    (hlookup : w.lookupSecret = fun _ => .ok "stored") (hoptions : readOptions w = .ok options)
    (hexplicit : explicitCredential w options = .ok "") (hflags : parseFlags options = .ok flags) :
    (runFrom (resolveAttach w "doc") ()).result =
      .ok (attachConfig flags (attachEndpoint w options) "doc" "stored") := by
  have hstored : Chosen w "" "doc" "stored" := by
    rw [Chosen, if_pos rfl]
    exact ⟨by decide, .inl (by rw [documentSecret, ownedSecret, hlookup]; rfl)⟩
  have hraw : stripAttachResourcePrefix "doc" = "doc" := by decide
  obtain ⟨s', hresource⟩ := (resolveResource_raw (s := ⟨(), []⟩)
    (attachEndpoint w options) (by decide)).2 hstored
  have hrun : resolveAttach w "doc" ⟨(), []⟩ =
      .ok (attachConfig flags (attachEndpoint w options) "doc" "stored") s' := by
    apply resolveAttach_eq_ok.2
    refine ⟨options, "", flags, "doc", "stored", hoptions, hexplicit, ?_, hflags, ?_, rfl⟩
    · rw [hraw]; decide
    · rw [hraw]; exact hresource
  exact congrArg Effect.Outcome.result (Effect.runFrom_of_ok hrun)

/-- **An explicit credential is kept on every resource, whatever is stored, exactly when it is not
empty** (or the attach is rejected for its other options). -/
theorem explicit_kept_iff {options : AttachOptions} (hoptions : readOptions w = .ok options)
    (hgiven : options.token ≠ "" ∨ options.tokenEnv ≠ "") :
    (∀ lookupSecret newClient resolveBrowserLink path,
      ExplicitKept { w with lookupSecret, newClient, resolveBrowserLink } options path) ↔
      (¬ (options.token = "" ∧ w.environment options.tokenEnv = .ok "") ∨
        ∃ e, parseFlags options = .error e) := by
  apply Iff.intro
  · intro h
    by_contra hcontra
    rw [not_or, not_not] at hcontra
    obtain ⟨hempty, hflags⟩ := hcontra
    obtain ⟨flags, hflags⟩ : ∃ flags, parseFlags options = .ok flags := by
      cases hparse : parseFlags options with
      | ok flags => exact ⟨flags, rfl⟩
      | error e => exact absurd ⟨e, hparse⟩ hflags
    -- with the empty credential, any stored secret takes its place
    let w' : AttachWorld := { w with lookupSecret := fun _ => .ok "stored" }
    have hexplicit : explicitCredential w' options = .ok "" :=
      (explicitCredential_empty_iff hgiven).2 hempty
    obtain ⟨value, hvalue, hcredential, -⟩ :=
      (h w'.lookupSecret w.newClient w.resolveBrowserLink "doc").kept _
        (resolveAttach_stored (w := w') rfl hoptions hexplicit hflags)
    cases (explicitCredential_eq_ok.1 hexplicit).2.symm.trans hvalue
    exact absurd hcredential (by decide : "stored" ≠ "")
  · intro h lookupSecret newClient resolveBrowserLink path
    let w' : AttachWorld := { w with lookupSecret, newClient, resolveBrowserLink }
    rcases h with hempty | ⟨e, hflags⟩
    · apply explicitKept_of_ne_empty (w := w') hoptions
      intro value hvalue hvalueEmpty
      subst hvalueEmpty
      exact hempty ((explicitCredential_empty_iff (w := w') hgiven).1 hvalue)
    · exact explicitKept_of_rejected (w := w') hoptions hflags path

end

end

/-! ## A moved document -/

open Json.Reference Reference

/-- A canonical URL of the document `A`. -/
def movedUrl : String := "https://coda.io/d/Tasks_dA"

/-- No option is given. -/
def noOptions : AttachOptions where
  token := ""
  tokenEnv := ""
  apiBase := ""
  includeRowMetadata := ""
  waitForMutations := ""
  mutationTimeoutSeconds := ""
  allowMutationWarnings := ""

def defaultFlags : AttachFlags where
  includeSystemColumns := false
  waitForMutations := false
  mutationTimeoutSeconds := defaultMutationTimeoutSeconds
  allowMutationWarnings := false

/-- The URL resolves to the document `B`, which has no secret of its own. -/
theorem resolveAttach_movedUrl {secrets : List (String × String)} {bootstrap : String}
    (hne : bootstrap ≠ "")
    (hbootstrap : guessedSecret (attachWorld [] secrets [] "B") movedUrl = .ok bootstrap ∨
      guessedSecret (attachWorld [] secrets [] "B") movedUrl = .ok "" ∧
        generalSecret (attachWorld [] secrets [] "B") = .ok bootstrap)
    (hsecret : documentSecret (attachWorld [] secrets [] "B") "B" = .ok "") :
    (runFrom (resolveAttach (attachWorld [] secrets [] "B") movedUrl) ()).result =
      .ok (attachConfig defaultFlags "https://coda.io/apis/v1" "B" bootstrap) := by
  have hurl : stripAttachResourcePrefix movedUrl = movedUrl := by decide +kernel
  have hoptions : readOptions (attachWorld [] secrets [] "B") = .ok noOptions := rfl
  have hbase : normalizeApiBase "https://coda.io/apis/v1" = "https://coda.io/apis/v1" := by
    decide +kernel
  have hendpoint : attachEndpoint (attachWorld [] secrets [] "B") noOptions =
      "https://coda.io/apis/v1" := hbase
  obtain ⟨s₁, hsent⟩ := (bootstrapCredential_eq_ok (s := ⟨(), []⟩)).2 ⟨hne, hbootstrap⟩
  obtain ⟨s', hresolved⟩ : ∃ s', resolveBrowserUrl (attachWorld [] secrets [] "B") movedUrl ""
      "https://coda.io/apis/v1" ⟨(), []⟩ = .ok ("B", bootstrap) s' :=
    ⟨_, resolveBrowserUrl_eq_ok.2 ⟨bootstrap, s₁, _, hsent, rfl, execute_reply _ _,
      docIdFromResolvedLink_linkJson (by decide),
      (if_pos rfl).mpr ⟨"", hsecret, (if_pos rfl).symm, rfl⟩⟩⟩
  have hrun : resolveAttach (attachWorld [] secrets [] "B") movedUrl ⟨(), []⟩ =
      .ok (attachConfig defaultFlags "https://coda.io/apis/v1" "B" bootstrap) s' := by
    apply resolveAttach_eq_ok.2
    refine ⟨noOptions, "", defaultFlags, "B", bootstrap, hoptions, rfl,
      by rw [hurl]; decide, rfl, ?_, by rw [hendpoint]⟩
    rw [hurl, hendpoint, resolveResource, if_pos (by decide +kernel)]
    exact hresolved
  exact congrArg Effect.Outcome.result (Effect.runFrom_of_ok hrun)

/-- With a general secret only, the URL and the id agree. -/
theorem url_credential_agrees_general :
    AttachAgrees (attachWorld [] [("superhuman_docs:", "general-token")] [] "B") ""
        (attachConfig defaultFlags "https://coda.io/apis/v1" "B" "general-token") ↔
      GuessHarmless (attachWorld [] [("superhuman_docs:", "general-token")] [] "B")
        (stripAttachResourcePrefix movedUrl) "" "B" :=
  url_credential_agrees_iff movedUrl (by decide +kernel) rfl
    (resolveAttach_movedUrl (by decide) (.inr ⟨by decide +kernel, by decide +kernel⟩)
      (by decide +kernel))

/-- **The secret of the guessed document is kept for another one**, which attached by its id gets
the general secret. -/
theorem url_keeps_guessed_secret :
    (runFrom (resolveAttach (attachWorld [] [("superhuman_docs:A", "a-token"),
        ("superhuman_docs:", "general-token")] [] "B") movedUrl) ()).result =
      .ok (attachConfig defaultFlags "https://coda.io/apis/v1" "B" "a-token") ∧
    RawId "B" ∧
    ¬ AttachAgrees (attachWorld [] [("superhuman_docs:A", "a-token"),
        ("superhuman_docs:", "general-token")] [] "B") ""
      (attachConfig defaultFlags "https://coda.io/apis/v1" "B" "a-token") := by
  refine ⟨resolveAttach_movedUrl (by decide) (.inl (by decide +kernel)) (by decide +kernel),
    ⟨by decide +kernel, by decide +kernel⟩, fun h => ?_⟩
  have hchosen := h.chosen
  rw [Chosen, if_pos rfl] at hchosen
  obtain ⟨-, hsecret | ⟨-, hgeneral⟩⟩ := hchosen
  · revert hsecret
    decide +kernel
  · revert hgeneral
    decide +kernel

/-! ## An empty environment variable -/

theorem explicit_kept_iff_token :
    (∀ lookupSecret newClient resolveBrowserLink path,
      ExplicitKept { attachWorld [("token", "t")] [] [] "B" with
        lookupSecret, newClient, resolveBrowserLink } { noOptions with token := "t" } path) ↔
      (¬ ("t" = "" ∧ (attachWorld [("token", "t")] [] [] "B").environment "" = .ok "") ∨
        ∃ e, parseFlags { noOptions with token := "t" } = .error e) :=
  explicit_kept_iff (w := attachWorld [("token", "t")] [] [] "B") rfl (.inl (by decide))

/-- The token is asked for in a variable that is set to nothing. -/
def emptyVariable : AttachWorld :=
  attachWorld [("token_env", "DOCS_TOKEN")] [("superhuman_docs:doc", "stored")]
    [("DOCS_TOKEN", "")] "doc"

/-- **A stored secret takes the place of an empty variable.** -/
theorem empty_variable_replaced :
    readOptions emptyVariable = .ok { noOptions with tokenEnv := "DOCS_TOKEN" } ∧
      (runFrom (resolveAttach emptyVariable "doc") ()).result.map ClientConfig.credential =
        .ok "stored" ∧
      (runFrom (resolveAttach emptyVariable "doc") ()).events =
        [.secret "superhuman_docs:doc"] ∧
      ¬ ExplicitKept emptyVariable { noOptions with tokenEnv := "DOCS_TOKEN" } "doc" := by
  have hcredential : (runFrom (resolveAttach emptyVariable "doc") ()).result.map
      ClientConfig.credential = .ok "stored" := by decide +kernel
  refine ⟨rfl, hcredential, by decide +kernel, fun h => ?_⟩
  cases hresult : (runFrom (resolveAttach emptyVariable "doc") ()).result with
  | error e =>
    rw [hresult] at hcredential
    cases hcredential
  | ok config =>
    obtain ⟨value, hvalue, hkept, -⟩ := h.kept config hresult
    rw [hresult, Except.map, Except.ok.injEq, hkept] at hcredential
    have hgiven : givenCredential emptyVariable { noOptions with tokenEnv := "DOCS_TOKEN" } =
        .ok "" := by decide +kernel
    rw [hgiven, hcredential] at hvalue
    revert hvalue
    decide

end SuperhumanDocs
