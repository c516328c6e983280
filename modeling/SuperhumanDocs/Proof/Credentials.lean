import SuperhumanDocs.Attach.Reference
import SuperhumanDocs.Proof.Secret

/-!
# Where credentials go

* `resolveAttach_emits`: an attach sends and keeps the credential it was given, or a secret that it
  looked up for its document.
* `run_sanctioned`: so over any session a credential is only used when it was given in that very
  statement, or is that of a secret which the server had validated, under a scope that covers the
  document.
-/

set_option autoImplicit false

namespace SuperhumanDocs

open Binary (Binary64 F64)
open Effect (EmitsOnly runFrom)
open Json (SerdeJson)

/-! ## One attach -/

section
variable [SerdeJson] {w : AttachWorld} {path endpoint explicit : String}

/-- The scopes an attach looks up: the general one and those of its document, which may be given,
guessed from a URL, or resolved. -/
inductive AttachScope (w : AttachWorld) (path endpoint : String) : String → Prop
  | general : AttachScope w path endpoint secretScopePrefix
  | raw : isBrowserUrl (stripAttachResourcePrefix path) = false →
    AttachScope w path endpoint (secretScopePrefix ++ stripAttachResourcePrefix path)
  | guessed {docId : String} : docIdFromBrowserUrl (stripAttachResourcePrefix path) = some docId →
    AttachScope w path endpoint (secretScopePrefix ++ docId)
  | resolved {credential body docId : String} :
    execute (w.resolveBrowserLink endpoint credential (stripAttachResourcePrefix path)) = .ok body →
    docIdFromResolvedLink body = .ok docId →
    AttachScope w path endpoint (secretScopePrefix ++ docId)

/-- A credential that was looked up for an attach. -/
def LookedUp (w : AttachWorld) (path endpoint credential : String) : Prop :=
  credential ≠ "" ∧ ∃ docScope, AttachScope w path endpoint docScope ∧
    ownedSecret w docScope = .ok credential

/-- The explicit credential, or one that was looked up when there is none. -/
def Usable (w : AttachWorld) (path endpoint explicit credential : String) : Prop :=
  explicit ≠ "" ∧ credential = explicit ∨ explicit = "" ∧ LookedUp w path endpoint credential

/-- The endpoint of an attach with a credential it may use. -/
def AttachUses (w : AttachWorld) (path endpoint credential : String) : Prop :=
  ∃ options explicit, readOptions w = .ok options ∧ explicitCredential w options = .ok explicit ∧
    endpoint = attachEndpoint w options ∧ Usable w path endpoint explicit credential

/-- An event that sends only such a credential, or none. -/
def SendsOnly (uses : String → String → Prop) (event : AttachEvent) : Prop :=
  ∀ baseUrl credential url, event = .link baseUrl credential url → uses baseUrl credential

omit [SerdeJson] in
theorem lookupSecret_emits (w : AttachWorld) (docScope : String) (uses : String → String → Prop) :
    EmitsOnly (lookupSecret w docScope) (SendsOnly uses)
      fun value => ownedSecret w docScope = .ok value := by
  unfold lookupSecret
  refine EmitsOnly.perform_bind (fun value => ?_) fun _ => EmitsOnly.ofExcept fun _ h => h
  rintro baseUrl credential url ⟨⟩

theorem generalCredential_emits (message : String) (uses : String → String → Prop) :
    EmitsOnly (do
      let general ← lookupSecret w secretScopePrefix
      if general.isEmpty then throw message else return general) (SendsOnly uses)
      (LookedUp w path endpoint) := by
  refine (lookupSecret_emits w _ uses).bind fun general hgeneral => ?_
  by_cases hempty : general = ""
  · rw [if_pos (by simpa using hempty)]
    exact EmitsOnly.throw _
  · rw [if_neg (by simpa using hempty)]
    exact EmitsOnly.pure ⟨hempty, _, .general, hgeneral⟩

variable (endpoint) in
theorem resolveStoredCredential_emits (uses : String → String → Prop)
    (hraw : isBrowserUrl (stripAttachResourcePrefix path) = false) :
    EmitsOnly (resolveStoredCredential w (stripAttachResourcePrefix path)) (SendsOnly uses)
      (LookedUp w path endpoint) := by
  unfold resolveStoredCredential
  refine (lookupSecret_emits w _ uses).bind fun value hvalue => ?_
  by_cases hempty : value = ""
  · rw [if_neg (by simpa using hempty)]
    exact generalCredential_emits _ uses
  · rw [if_pos (by simpa using hempty)]
    exact EmitsOnly.pure ⟨hempty, _, .raw hraw, hvalue⟩

variable (endpoint) in
theorem bootstrapCredential_emits (uses : String → String → Prop) :
    EmitsOnly (bootstrapCredential w (stripAttachResourcePrefix path) explicit) (SendsOnly uses)
      (Usable w path endpoint explicit) := by
  unfold bootstrapCredential
  by_cases hexplicit : explicit = ""
  · rw [if_neg (by simpa using hexplicit)]
    have hinferred : EmitsOnly (lookupInferred w (docIdFromBrowserUrl
        (stripAttachResourcePrefix path))) (SendsOnly uses)
        fun value => value = "" ∨ LookedUp w path endpoint value := by
      unfold lookupInferred
      cases hguess : docIdFromBrowserUrl (stripAttachResourcePrefix path) with
      | none => exact EmitsOnly.pure (.inl rfl)
      | some docId =>
        refine (lookupSecret_emits w _ uses).mono (fun _ h => h) fun value hvalue => ?_
        exact or_iff_not_imp_left.2 fun hne => ⟨hne, _, .guessed hguess, hvalue⟩
    refine hinferred.bind fun value hvalue => ?_
    by_cases hempty : value = ""
    · rw [if_neg (by simpa using hempty)]
      exact (generalCredential_emits _ uses).mono (fun _ h => h) fun _ h => .inr ⟨hexplicit, h⟩
    · rw [if_pos (by simpa using hempty)]
      exact EmitsOnly.pure (.inr ⟨hexplicit, hvalue.resolve_left hempty⟩)
  · rw [if_pos (by simpa using hexplicit)]
    exact EmitsOnly.pure (.inl ⟨hexplicit, rfl⟩)

theorem resolveBrowserUrl_emits {uses : String → String → Prop}
    (huses : ∀ credential, Usable w path endpoint explicit credential → uses endpoint credential) :
    EmitsOnly (resolveBrowserUrl w (stripAttachResourcePrefix path) explicit endpoint)
      (SendsOnly uses) fun found => Usable w path endpoint explicit found.2 := by
  unfold resolveBrowserUrl
  refine (bootstrapCredential_emits endpoint uses).bind fun bootstrap hbootstrap => ?_
  refine EmitsOnly.ofExcept_bind fun _ _ => EmitsOnly.perform_bind (fun reply => ?_) fun _ => ?_
  · rintro baseUrl credential url ⟨⟩
    exact huses bootstrap hbootstrap
  · refine EmitsOnly.ofExcept_bind fun body hbody => EmitsOnly.ofExcept_bind fun docId hdocId => ?_
    by_cases hexplicit : explicit = ""
    · rw [if_pos (by simpa using hexplicit)]
      refine (lookupSecret_emits w _ uses).bind fun canonical hcanonical => ?_
      refine EmitsOnly.pure ?_
      by_cases hempty : canonical = ""
      · rw [if_pos (by simpa using hempty)]
        exact hbootstrap
      · rw [if_neg (by simpa using hempty)]
        exact .inr ⟨hexplicit, hempty, _, .resolved hbody hdocId, hcanonical⟩
    · rw [if_neg (by simpa using hexplicit)]
      exact EmitsOnly.pure hbootstrap

theorem resolveResource_emits {uses : String → String → Prop}
    (huses : ∀ credential, Usable w path endpoint explicit credential → uses endpoint credential) :
    EmitsOnly (resolveResource w (stripAttachResourcePrefix path) explicit endpoint)
      (SendsOnly uses) fun found => Usable w path endpoint explicit found.2 := by
  unfold resolveResource
  by_cases hurl : isBrowserUrl (stripAttachResourcePrefix path) = true
  · rw [if_pos hurl]
    exact resolveBrowserUrl_emits huses
  · rw [if_neg hurl]
    by_cases hexplicit : explicit = ""
    · rw [if_pos (by simpa using hexplicit)]
      refine (resolveStoredCredential_emits endpoint uses (by simpa using hurl)).bind
        fun credential h => ?_
      exact EmitsOnly.pure (.inr ⟨hexplicit, h⟩)
    · rw [if_neg (by simpa using hexplicit)]
      exact EmitsOnly.pure (.inl ⟨hexplicit, rfl⟩)

/-- **The credentials of an attach**, those it sends and the one it keeps. -/
theorem resolveAttach_emits (w : AttachWorld) (path : String) :
    EmitsOnly (resolveAttach w path) (SendsOnly (AttachUses w path))
      fun config => AttachUses w path config.endpoint config.credential := by
  unfold resolveAttach
  refine EmitsOnly.ofExcept_bind fun options hoptions => EmitsOnly.ofExcept_bind fun explicit
    hexplicit => ?_
  by_cases hempty : stripAttachResourcePrefix path = ""
  · rw [if_pos (by simpa using hempty)]
    exact (EmitsOnly.throw _).bind fun _ h => h
  · rw [if_neg (by simpa using hempty)]
    refine EmitsOnly.ofExcept_bind fun flags _ => ?_
    refine (resolveResource_emits fun credential h => ?_).bind fun found hfound => ?_
    · exact ⟨options, explicit, hoptions, hexplicit, rfl, h⟩
    · exact EmitsOnly.pure ⟨options, explicit, hoptions, hexplicit, rfl, hfound⟩

end

/-! ## A session -/

section
variable {F : Type} [F64 F] [SerdeJson] [DuckDb F] {manager : SecretManager F}
  {statements : List (SecretStatement F)} {secrets : List (KeyValueSecret F)}

/-- A statement stored the secret, whose credential, when it has one, the server had validated. -/
def CreatedIn (statements : List (SecretStatement F)) (secret : KeyValueSecret F)
    (credential : Option String) : Prop :=
  ∃ w input keeps, .create w input keeps ∈ statements ∧ input.type = secretType ∧
    StatementGives w input credential ∧ (∀ c, credential = some c → Validated w c) ∧
    secret = storedSecret input credential

/-- The credential of the secret that a lookup under the scope finds: it was stored before, one of
its scopes covers the one that was looked up, and no other secret matches it better. -/
def FoundIn (statements : List (SecretStatement F)) (secrets : List (KeyValueSecret F))
    (docScope credential : String) : Prop :=
  ∃ secret length, CreatedIn statements secret (some credential) ∧
    Matched secrets docScope secretType secret length ∧ secret.Covers docScope length ∧
    ∀ other ∈ secrets, other.type = secretType → "" ∉ other.scopes →
      ∀ length', other.Covers docScope length' → length' ≤ length

/-- What an attach may use, after the statements before it. -/
def MayUse (manager : SecretManager F) (statements : List (SecretStatement F)) (w : AttachWorld)
    (path endpoint credential : String) : Prop :=
  ∃ options explicit, readOptions w = .ok options ∧ explicitCredential w options = .ok explicit ∧
    endpoint = attachEndpoint w options ∧
    (explicit ≠ "" ∧ credential = explicit ∨ explicit = "" ∧ ∃ docScope,
      AttachScope w path endpoint docScope ∧
      FoundIn statements (SecretStore.run manager statements).secrets docScope credential)

/-- **The uses of credentials that are meant**: a new secret is validated at the default endpoint,
and an attach sends what it may use to its own endpoint. -/
inductive Sanctioned (manager : SecretManager F) (before : List (SecretStatement F)) :
    SecretStatement F → CredentialUse → Prop
  | whoami {w : SecretWorld F} {input : CreateSecretInput F} {keeps : KeyValueSecret F → Bool}
    {credential : String} : StatementGives w input (some credential) →
    Sanctioned manager before (.create w input keeps) (.whoami (w.whoamiCall credential))
  | link {w : AttachWorld} {path endpoint credential : String} :
    MayUse manager before w path endpoint credential →
    Sanctioned manager before (.attach w path) (.link endpoint credential)
  | config {w : AttachWorld} {path endpoint credential : String} :
    MayUse manager before w path endpoint credential →
    Sanctioned manager before (.attach w path) (.config endpoint credential)

/-- The invariant of a store: each statement used only what it may. -/
structure SanctionedStore (manager : SecretManager F) (statements : List (SecretStatement F))
    (store : SecretStore F) : Prop where
  secrets : ∀ secret ∈ store.secrets, ∃ credential, CreatedIn statements secret credential
  length_eq : store.uses.length = statements.length
  uses : ∀ index statement uses, statements[index]? = some statement →
    store.uses[index]? = some uses →
    ∀ use ∈ uses, Sanctioned manager (statements.take index) statement use

theorem CreatedIn.append {secret : KeyValueSecret F} {credential : Option String}
    (h : CreatedIn statements secret credential) (more : List (SecretStatement F)) :
    CreatedIn (statements ++ more) secret credential := by
  obtain ⟨w, input, keeps, hmem, h⟩ := h
  exact ⟨w, input, keeps, List.mem_append_left more hmem, h⟩

/-! ### Lookups -/

theorem secretText_stored (input : CreateSecretInput F) (credential : Option String) :
    secretText ((storedSecret input credential).tryGetValue tokenOption) =
      credential.getD "" := by
  unfold KeyValueSecret.tryGetValue storedSecret
  cases credential with
  | none => rfl
  | some c =>
    have htoken : eqIgnoreAsciiCase tokenOption tokenOption = true := beq_self_eq_true _
    simp [htoken, secretText, DuckValue.isNull, DuckDb.toString_text]

/-- **A secret that is found was stored**, and its scope covers what was looked up. -/
theorem hostLookupSecret_found {docScope credential : String}
    (hsecrets : ∀ secret ∈ secrets, ∃ credential, CreatedIn statements secret credential)
    (hlookup : hostLookupSecret manager secrets docScope = credential) (hne : credential ≠ "") :
    FoundIn statements secrets docScope credential := by
  unfold hostLookupSecret at hlookup
  cases hfound : manager.lookup secrets docScope secretType with
  | none =>
    rw [hfound] at hlookup
    exact absurd hlookup.symm hne
  | some secret =>
    rw [hfound] at hlookup
    obtain ⟨length, hmatched⟩ := manager.lookup_some hfound
    obtain ⟨stored, hcreated⟩ := hsecrets secret hmatched.mem
    obtain ⟨w, input, keeps, -, -, -, -, rfl⟩ := id hcreated
    have htext : stored.getD "" = credential := (secretText_stored input stored).symm.trans hlookup
    cases stored with
    | none => exact absurd htext.symm hne
    | some c =>
      cases htext
      refine ⟨_, length, hcreated, hmatched,
        KeyValueSecret.covers_of_matchScore hmatched.matchScore_eq, ?_⟩
      intro other hother htype hscopes length' hcovers
      obtain ⟨score, hscore, hle⟩ := hcovers.le_matchScore hscopes
      exact hle.trans (hmatched.le other hother htype score hscore)

/-- An attach over the secrets of a store. -/
theorem attachUses_mayUse {w : AttachWorld} {path endpoint credential : String}
    (hstore : SanctionedStore manager statements (SecretStore.run manager statements))
    (h : AttachUses ((SecretStore.run manager statements).attachWorld manager w) path endpoint
      credential) : MayUse manager statements w path endpoint credential := by
  obtain ⟨options, explicit, hoptions, hexplicit, hendpoint, h⟩ := h
  refine ⟨options, explicit, hoptions, hexplicit, hendpoint, ?_⟩
  rcases h with h | ⟨hempty, hne, docScope, hscope, hlookup⟩
  · exact .inl h
  · refine .inr ⟨hempty, docScope, ?_, ?_⟩
    · cases hscope with
      | general => exact .general
      | raw hraw => exact .raw hraw
      | guessed hguess => exact .guessed hguess
      | resolved hbody hdocId => exact .resolved hbody hdocId
    · have hvalue := Effect.mapError_eq_ok.1 hlookup
      exact hostLookupSecret_found hstore.secrets (Except.ok.inj hvalue) hne

/-- The secrets after a statement were created. -/
theorem secretsAfter_created {store : SecretStore F} (statement : SecretStatement F)
    (h : ∀ secret ∈ store.secrets, ∃ credential, CreatedIn statements secret credential) :
    ∀ secret ∈ store.secretsAfter statement,
      ∃ credential, CreatedIn (statements ++ [statement]) secret credential := by
  have hsecrets : ∀ secret ∈ store.secrets,
      ∃ credential, CreatedIn (statements ++ [statement]) secret credential :=
    fun secret hsecret => (h secret hsecret).imp fun _ hcreated => hcreated.append _
  intro secret hsecret
  cases statement with
  | create w input keeps =>
    cases hcreate : (runFrom (createRustBridgeSecret w input) ()).result with
    | error e =>
      simp only [SecretStore.secretsAfter, hcreate] at hsecret
      exact hsecrets secret hsecret
    | ok created =>
      simp only [SecretStore.secretsAfter, hcreate] at hsecret
      obtain hsecret | hsecret := List.mem_append.1 (List.mem_of_mem_filter hsecret)
      · exact hsecrets secret hsecret
      · obtain rfl := List.mem_singleton.1 hsecret
        obtain ⟨htype, credential, hgives, hvalid, hstored⟩ :=
          createRustBridgeSecret_eq_ok.1 (Effect.runFrom_result_iff.1 hcreate)
        exact ⟨credential, w, input, keeps, by simp, htype, hgives, hvalid, hstored⟩
  | drop keeps => exact hsecrets secret (List.mem_of_mem_filter hsecret)
  | attach w path => exact hsecrets secret hsecret

/-- **The uses of one statement.** -/
theorem usesOf_sanctioned (statement : SecretStatement F)
    (h : SanctionedStore manager statements (SecretStore.run manager statements)) :
    ∀ use ∈ (SecretStore.run manager statements).usesOf manager statement,
      Sanctioned manager statements statement use := by
  intro use huse
  cases statement with
  | create w input keeps =>
    obtain ⟨call, hcall, rfl⟩ := List.mem_map.1 huse
    obtain ⟨c, hgives, rfl⟩ := ((createRustBridgeSecret_emits w input).outcome ()).2 call hcall
    exact .whoami hgives
  | drop keeps => cases huse
  | attach w path =>
    have hattach :=
      resolveAttach_emits ((SecretStore.run manager statements).attachWorld manager w) path
    obtain ⟨hconfig, hevents⟩ := hattach.outcome ()
    obtain huse | huse := List.mem_append.1 huse
    · obtain ⟨event, hevent, heq⟩ := List.mem_filterMap.1 huse
      cases event with
      | secret docScope => cases heq
      | link baseUrl credential url =>
        cases heq
        exact .link (attachUses_mayUse h (hevents _ hevent baseUrl credential url rfl))
    · unfold configUse at huse
      cases hresult : (runFrom (resolveAttach ((SecretStore.run manager statements).attachWorld
          manager w) path) ()).result with
      | error e =>
        rw [hresult] at huse
        cases huse
      | ok config =>
        rw [hresult] at huse
        rw [List.mem_singleton.1 huse]
        exact .config (attachUses_mayUse h (hconfig config hresult))

/-- **One statement.** -/
theorem step_sanctioned (statement : SecretStatement F)
    (h : SanctionedStore manager statements (SecretStore.run manager statements)) :
    SanctionedStore manager (statements ++ [statement])
      ((SecretStore.run manager statements).step manager statement) where
  secrets := secretsAfter_created statement h.secrets
  length_eq := by simp [SecretStore.step, h.length_eq]
  uses index other uses hother huses use huse := by
    obtain hlt | hge := Nat.lt_or_ge index statements.length
    · rw [List.getElem?_append_left hlt] at hother
      rw [SecretStore.step, List.getElem?_append_left (h.length_eq ▸ hlt)] at huses
      rw [List.take_append_of_le_length hlt.le]
      exact h.uses index other uses hother huses use huse
    · -- the statement is the last one
      rw [List.getElem?_append_right hge, List.getElem?_singleton] at hother
      have hindex : index = statements.length := by
        split at hother
        · omega
        · cases hother
      subst hindex
      rw [if_pos (Nat.sub_self _)] at hother
      cases hother
      rw [SecretStore.step, ← h.length_eq, List.getElem?_concat_length] at huses
      cases huses
      rw [List.take_left]
      exact usesOf_sanctioned statement h use huse

/-- **Every use of a credential is meant**, over any session: by induction on its statements. -/
theorem run_sanctioned (manager : SecretManager F) (statements : List (SecretStatement F)) :
    SanctionedStore manager statements (SecretStore.run manager statements) := by
  induction statements using List.reverseRecOn with
  | nil => exact ⟨by simp [SecretStore.run, SecretStore.empty], rfl, by simp⟩
  | append_singleton statements statement ih =>
    have hrun : SecretStore.run manager (statements ++ [statement]) =
        (SecretStore.run manager statements).step manager statement := by
      unfold SecretStore.run
      rw [List.foldl_append]
      rfl
    rw [hrun]
    exact step_sanctioned statement ih

end

open Json.Reference Reference

/-- A server that knows every credential. -/
def secretWorld : SecretWorld Binary64 where
  environment _ := .ok "t-doc"
  defaultBaseUrl := "https://coda.io/apis/v1"
  newClient _ _ := .ok ()
  whoami _ _ := reply 200 (.object [])
  displayDouble := F64.display

def secretStatement (name : String) (scopes : List String) (option value : String) :
    SecretStatement Binary64 :=
  .create secretWorld
    { type := secretType, provider := "config", name, scopes, options := [(option, .text value "")] }
    fun _ => true

/-- Two secrets are stored; the one for the document is dropped before the last attach. -/
def credentialSession : List (SecretStatement Binary64) :=
  [secretStatement "team" [] "token" "t-team",
    secretStatement "doc" ["superhuman_docs:d1"] "token_env" "DOCS_TOKEN",
    .attach (attachWorld [] [] [] "d1") "coda:d1",
    .attach (attachWorld [("token", "t-own")] [] [] "d1") "coda:d1",
    .drop fun secret => secret.name != "doc",
    .attach (attachWorld [] [] [] "d1") "https://coda.io/d/Plan_dd1"]

theorem run_sanctioned_session :
    (SecretStore.run .longest credentialSession).uses =
      [[.whoami ⟨"https://coda.io/apis/v1", "t-team"⟩],
        [.whoami ⟨"https://coda.io/apis/v1", "t-doc"⟩],
        [.config "https://coda.io/apis/v1" "t-doc"],
        [.config "https://coda.io/apis/v1" "t-own"],
        [],
        [.link "https://coda.io/apis/v1" "t-team", .config "https://coda.io/apis/v1" "t-team"]] ∧
    SanctionedStore .longest credentialSession (SecretStore.run .longest credentialSession) :=
  ⟨by decide +kernel, run_sanctioned .longest credentialSession⟩

end SuperhumanDocs
