import SuperhumanDocs.Attach.Store
import SuperhumanDocs.Proof.Attach

/-!
# Where credentials come from

* `createRustBridgeSecret_iff`: which `CREATE SECRET` statements store a secret, and which one.
* `createRustBridgeSecret_emits`: what they send.
-/

set_option autoImplicit false

namespace SuperhumanDocs

open Binary (F64)
open Effect (EmitsOnly Run Traced runFrom)
open Json (SerdeJson)

/-! ## Options of a secret -/

section
variable {F : Type} {w : SecretWorld F}

/-- The credential an option gives: its value, or the variable its value names. -/
def Gives (w : SecretWorld F) (option : RustExtNamedValue F) (credential : String) : Prop :=
  ∃ value, optionValue w option.value = .ok value ∧
    (eqIgnoreAsciiCase option.name tokenOption = true ∧ credential = value ∨
      eqIgnoreAsciiCase option.name tokenEnvOption = true ∧ w.environment value = .ok credential)

theorem token_ne_tokenEnv {name : String} (h : eqIgnoreAsciiCase name tokenOption = true) :
    eqIgnoreAsciiCase name tokenEnvOption = false := by
  unfold eqIgnoreAsciiCase at h ⊢
  rw [beq_iff_eq] at h
  rw [h]
  decide +kernel

theorem optionCredential_eq_ok {type credential : String} {option : RustExtNamedValue F} :
    optionCredential w type option = .ok credential ↔ Gives w option credential := by
  unfold optionCredential Gives
  rw [Effect.bind_eq_ok]
  refine exists_congr fun value => and_congr_right fun _ => ?_
  by_cases htoken : eqIgnoreAsciiCase option.name tokenOption = true
  · rw [if_pos htoken, Effect.pure_eq_ok]
    simp [htoken, token_ne_tokenEnv htoken, eq_comm]
  · rw [if_neg htoken]
    by_cases henv : eqIgnoreAsciiCase option.name tokenEnvOption = true
    · rw [if_pos henv, readSecretVariable, Effect.mapError_eq_ok]
      simp [htoken, henv]
    · rw [if_neg henv]
      simp [htoken, henv, throw, throwThe, MonadExceptOf.throw]

/-- Once there is a credential no option may follow. -/
theorem readCredential_some {type c : String} {options : List (RustExtNamedValue F)}
    {credential : Option String} :
    readCredential w type options (some c) = .ok credential ↔
      options = [] ∧ credential = some c := by
  cases options with
  | nil =>
    rw [readCredential, Except.ok.injEq, eq_comm]
    simp
  | cons option options =>
    rw [readCredential, Effect.bind_eq_ok]
    apply Iff.intro
    · intro ⟨_, _, h⟩
      cases h
    · intro ⟨h, _⟩
      cases h

/-- **The credential of a statement**: none without options, and that of the only option. -/
def GivenBy (w : SecretWorld F) (options : List (RustExtNamedValue F)) :
    Option String → Prop
  | none => options = []
  | some credential => ∃ option, options = [option] ∧ Gives w option credential

theorem readCredential_eq_ok {type : String} {options : List (RustExtNamedValue F)}
    {credential : Option String} :
    readCredential w type options none = .ok credential ↔ GivenBy w options credential := by
  cases options with
  | nil =>
    rw [readCredential, Except.ok.injEq]
    cases credential <;> simp [GivenBy]
  | cons option options =>
    rw [readCredential, Effect.bind_eq_ok]
    apply Iff.intro
    · intro ⟨c, hc, h⟩
      obtain ⟨rfl, rfl⟩ := readCredential_some.1 h
      exact ⟨option, rfl, optionCredential_eq_ok.1 hc⟩
    · intro h
      cases credential with
      | none => cases h
      | some c =>
        obtain ⟨option', heq, hc⟩ := h
        cases heq
        exact ⟨c, optionCredential_eq_ok.2 hc, readCredential_some.2 ⟨rfl, rfl⟩⟩

end

/-! ## Validation -/

section
variable {F : Type} {w : SecretWorld F} {s s' : Run Unit WhoamiCall}

/-- The server at the default endpoint knows the credential. -/
def Validated (w : SecretWorld F) (credential : String) : Prop :=
  w.newClient w.defaultBaseUrl credential = .ok () ∧
    ∃ body, execute (w.whoami w.defaultBaseUrl credential) = .ok body

/-- The request that validates a credential. -/
def SecretWorld.whoamiCall (w : SecretWorld F) (credential : String) : WhoamiCall where
  baseUrl := w.defaultBaseUrl
  credential

theorem validateToken_eq_ok {credential : String} :
    validateToken w credential s = .ok () s' ↔
      Validated w credential ∧ s' = ⟨(), s.trace ++ [w.whoamiCall credential]⟩ := by
  unfold validateToken validateTokenAt Validated
  rw [Effect.run_ofExcept_bind_eq_ok]
  apply Iff.intro
  · intro ⟨_, hclient, h⟩
    rw [Effect.run_perform_bind_eq_ok] at h
    obtain ⟨body, hbody, h⟩ := Effect.run_ofExcept_bind_eq_ok.1 h
    obtain ⟨-, rfl⟩ := Effect.run_pure_eq_ok.1 h
    exact ⟨⟨hclient, body, hbody⟩, rfl⟩
  · intro ⟨⟨hclient, body, hbody⟩, h⟩
    refine ⟨(), hclient, Effect.run_perform_bind_eq_ok.2 ?_⟩
    exact Effect.run_ofExcept_bind_eq_ok.2 ⟨body, hbody, Effect.run_pure_eq_ok.2 ⟨rfl, h.symm⟩⟩

/-- Nothing is sent but that request. -/
theorem validateToken_emits (w : SecretWorld F) (credential : String) :
    EmitsOnly (validateToken w credential) (· = w.whoamiCall credential) fun _ => True := by
  unfold validateToken validateTokenAt
  refine EmitsOnly.ofExcept_bind fun _ _ => EmitsOnly.perform_bind (fun _ => rfl) fun _ => ?_
  exact EmitsOnly.ofExcept_bind fun _ _ => EmitsOnly.pure trivial

end

/-! ## Secrets -/

section
variable {F : Type} [F64 F] {w : SecretWorld F} {s s' : Run Unit WhoamiCall}

/-- What Rust gives for a credential. -/
def secretResult (input : RustExtSecretCreateInput F) (credential : Option String) :
    RustExtSecretCreateResult F where
  scopes := if input.scopes.isEmpty then [secretScopePrefix] else input.scopes
  entries := credential.toList.map tokenEntry
  redactKeys := [tokenOption]

theorem secretEntries_eq_ok {credential : Option String} {entries : List (RustExtNamedValue F)} :
    (∃ s', secretEntries w credential s = .ok entries s') ↔
      (∀ c, credential = some c → Validated w c) ∧ entries = credential.toList.map tokenEntry := by
  cases credential with
  | none =>
    simp only [secretEntries, Effect.run_pure_eq_ok]
    simp [eq_comm]
  | some c =>
    unfold secretEntries
    apply Iff.intro
    · intro ⟨s', h⟩
      obtain ⟨_, s₁, hvalidate, h⟩ := Effect.run_bind_eq_ok.1 h
      obtain ⟨hvalid, -⟩ := validateToken_eq_ok.1 hvalidate
      obtain ⟨rfl, -⟩ := Effect.run_pure_eq_ok.1 h
      refine ⟨?_, rfl⟩
      rintro _ ⟨⟩
      exact hvalid
    · intro ⟨hvalid, hentries⟩
      have hvalidate : validateToken w c s = .ok () ⟨(), s.trace ++ [w.whoamiCall c]⟩ :=
        validateToken_eq_ok.2 ⟨hvalid c rfl, rfl⟩
      refine ⟨⟨(), s.trace ++ [w.whoamiCall c]⟩, Effect.run_bind_eq_ok.2 ⟨(), _, hvalidate, ?_⟩⟩
      exact Effect.run_pure_eq_ok.2 ⟨hentries.symm, rfl⟩

theorem createSecret_eq_ok {input : RustExtSecretCreateInput F}
    {result : RustExtSecretCreateResult F} :
    (∃ s', createSecret w input s = .ok result s') ↔ input.secretType = secretType ∧
      ∃ credential, GivenBy w input.options credential ∧
        (∀ c, credential = some c → Validated w c) ∧ result = secretResult input credential := by
  unfold createSecret
  by_cases htype : input.secretType = secretType
  · rw [if_neg (not_not_intro htype)]
    apply Iff.intro
    · intro ⟨s', h⟩
      obtain ⟨credential, hgiven, h⟩ := Effect.run_ofExcept_bind_eq_ok.1 h
      obtain ⟨entries, s₁, hentries, h⟩ := Effect.run_bind_eq_ok.1 h
      obtain ⟨hvalid, rfl⟩ := secretEntries_eq_ok.1 ⟨s₁, hentries⟩
      obtain ⟨rfl, -⟩ := Effect.run_pure_eq_ok.1 h
      exact ⟨htype, credential, readCredential_eq_ok.1 hgiven, hvalid, rfl⟩
    · intro ⟨_, credential, hgiven, hvalid, hresult⟩
      obtain ⟨s₁, hentries⟩ := secretEntries_eq_ok.2 ⟨hvalid, rfl⟩
      refine ⟨s₁, Effect.run_ofExcept_bind_eq_ok.2 ⟨_, readCredential_eq_ok.2 hgiven, ?_⟩⟩
      refine Effect.run_bind_eq_ok.2 ⟨_, s₁, hentries, ?_⟩
      exact Effect.run_pure_eq_ok.2 ⟨hresult.symm, rfl⟩
  · rw [if_pos htype]
    apply Iff.intro
    · intro ⟨s', h⟩
      obtain ⟨_, _, hthrow, -⟩ := Effect.run_bind_eq_ok.1 h
      cases Effect.run_throw_eq_ok.1 hthrow
    · intro ⟨h, _⟩
      exact absurd h htype

/-- The request asks about the credential of the options. -/
def AsksFor (w : SecretWorld F) (options : List (RustExtNamedValue F)) (call : WhoamiCall) : Prop :=
  ∃ c, GivenBy w options (some c) ∧ call = w.whoamiCall c

theorem createSecret_emits (w : SecretWorld F) (input : RustExtSecretCreateInput F) :
    EmitsOnly (createSecret w input) (AsksFor w input.options) fun _ => True := by
  unfold createSecret
  by_cases htype : input.secretType = secretType
  · rw [if_neg (not_not_intro htype)]
    refine EmitsOnly.ofExcept_bind fun credential hcredential => ?_
    have hgiven := readCredential_eq_ok.1 hcredential
    have hentries : EmitsOnly (secretEntries w credential) (AsksFor w input.options)
        fun _ => True := by
      cases credential with
      | none => exact EmitsOnly.pure trivial
      | some c =>
        have hsent : EmitsOnly (validateToken w c) (AsksFor w input.options) fun _ => True :=
          (validateToken_emits w c).mono (fun call hcall => ⟨c, hgiven, hcall⟩) fun _ h => h
        exact hsent.bind fun _ _ => EmitsOnly.pure trivial
    exact hentries.bind fun _ _ => EmitsOnly.pure trivial
  · rw [if_pos htype]
    exact (EmitsOnly.throw _).bind fun _ h => h

end

/-! ## Statements -/

section
variable {F : Type} [F64 F] [SerdeJson] [DuckDb F] {w : SecretWorld F} {input : CreateSecretInput F}

/-- The credential of a `CREATE SECRET`. -/
def StatementGives (w : SecretWorld F) (input : CreateSecretInput F)
    (credential : Option String) : Prop :=
  ∃ options, input.options.mapM namedValue = .ok options ∧ GivenBy w options credential

/-- The secret of a `CREATE SECRET`. -/
def storedSecret (input : CreateSecretInput F) (credential : Option String) :
    KeyValueSecret F where
  scopes := if input.scopes.isEmpty then [secretScopePrefix] else input.scopes
  type := input.type
  provider := input.provider
  name := input.name
  secretMap := credential.toList.map fun c => (tokenOption, .text c "")
  redactKeys := [tokenOption]

theorem keyValueSecret_result {rustInput : RustExtSecretCreateInput F}
    (h : secretInput input = .ok rustInput) (credential : Option String) :
    keyValueSecret input (secretResult rustInput credential) = storedSecret input credential := by
  obtain ⟨options, -, h⟩ := Effect.bind_eq_ok.1 h
  cases h
  unfold keyValueSecret secretResult storedSecret
  rw [List.map_map]
  rfl

theorem createRustBridgeSecret_eq_ok {s : Run Unit WhoamiCall} {secret : KeyValueSecret F} :
    (∃ s', createRustBridgeSecret w input s = .ok secret s') ↔
      input.type = secretType ∧ ∃ credential, StatementGives w input credential ∧
        (∀ c, credential = some c → Validated w c) ∧ secret = storedSecret input credential := by
  unfold createRustBridgeSecret
  apply Iff.intro
  · intro ⟨s', h⟩
    obtain ⟨rustInput, hinput, h⟩ := Effect.run_ofExcept_bind_eq_ok.1 h
    obtain ⟨result, s₁, hresult, h⟩ := Effect.run_bind_eq_ok.1 h
    obtain ⟨rfl, -⟩ := Effect.run_pure_eq_ok.1 h
    obtain ⟨htype, credential, hgiven, hvalid, rfl⟩ :=
      createSecret_eq_ok.1 ⟨s₁, Effect.run_adaptExcept_eq_ok.1 hresult⟩
    rw [keyValueSecret_result hinput]
    obtain ⟨options, hoptions, hinput⟩ := Effect.bind_eq_ok.1 hinput
    cases hinput
    exact ⟨htype, credential, ⟨options, hoptions, hgiven⟩, hvalid, rfl⟩
  · intro ⟨htype, credential, ⟨options, hoptions, hgiven⟩, hvalid, hsecret⟩
    have hinput : secretInput input = .ok
        { secretType := input.type, scopes := input.scopes, options } :=
      Effect.bind_eq_ok.2 ⟨options, hoptions, rfl⟩
    obtain ⟨s₁, hresult⟩ : ∃ s', createSecret w
        { secretType := input.type, scopes := input.scopes, options } s = .ok _ s' :=
      createSecret_eq_ok.2 ⟨htype, credential, hgiven, hvalid, rfl⟩
    refine ⟨s₁, Effect.run_ofExcept_bind_eq_ok.2 ⟨_, hinput, Effect.run_bind_eq_ok.2
      ⟨_, s₁, Effect.run_adaptExcept_eq_ok.2 hresult, Effect.run_pure_eq_ok.2 ⟨?_, rfl⟩⟩⟩⟩
    rw [keyValueSecret_result hinput, hsecret]

theorem createRustBridgeSecret_emits (w : SecretWorld F) (input : CreateSecretInput F) :
    EmitsOnly (createRustBridgeSecret w input)
      (fun call => ∃ c, StatementGives w input (some c) ∧ call = w.whoamiCall c)
      fun _ => True := by
  unfold createRustBridgeSecret
  refine EmitsOnly.ofExcept_bind fun rustInput hinput => ?_
  obtain ⟨options, hoptions, hinput⟩ := Effect.bind_eq_ok.1 hinput
  cases hinput
  refine (((createSecret_emits w _).adaptExcept _).mono ?_ fun _ h => h).bind fun _ _ =>
    EmitsOnly.pure trivial
  rintro call ⟨c, hgiven, hcall⟩
  exact ⟨c, ⟨options, hoptions, hgiven⟩, hcall⟩

/-- **Which statements store a secret, which one, and what they send**: there is at most one
option; its credential must be known to the server at the default endpoint, is the only thing that
is stored, and is sent nowhere else. -/
theorem createRustBridgeSecret_iff (w : SecretWorld F) (input : CreateSecretInput F) :
    (∀ secret, (runFrom (createRustBridgeSecret w input) ()).result = .ok secret ↔
      input.type = secretType ∧ ∃ credential, StatementGives w input credential ∧
        (∀ c, credential = some c → Validated w c) ∧ secret = storedSecret input credential) ∧
    ∀ call ∈ (runFrom (createRustBridgeSecret w input) ()).events,
      ∃ c, StatementGives w input (some c) ∧ call = w.whoamiCall c := by
  refine ⟨fun secret => ?_, ?_⟩
  · rw [Effect.runFrom_result_iff]
    exact createRustBridgeSecret_eq_ok
  · exact ((createRustBridgeSecret_emits w input).outcome ()).2

end

end SuperhumanDocs
