import Mathlib.Data.List.MinMax
import SuperhumanDocs.Attach.Resolve
import SuperhumanDocs.Bridge.Value

/-!
# Secrets

`CREATE SECRET` takes a token, or the name of an environment variable that holds one, and asks the
server who it belongs to before DuckDB stores it. `SecretManager` is what an attach relies on of
DuckDB's secrets: a lookup finds the secret with the longest scope the resource starts with.
-/

set_option autoImplicit false

namespace SuperhumanDocs

open Binary (F64)
open Effect (Traced)
open Json (SerdeJson)

/-! ## Records -/

structure RustExtNamedValue (F : Type) where
  name : String
  value : RustExtInputValue F

structure RustExtSecretCreateInput (F : Type) where
  secretType : String
  scopes : List String
  options : List (RustExtNamedValue F)

structure RustExtSecretCreateResult (F : Type) where
  scopes : List String
  entries : List (RustExtNamedValue F)
  redactKeys : List String

/-- What the creation of a secret depends on. -/
structure SecretWorld (F : Type) where
  environment : String → Except String String
  defaultBaseUrl : String
  newClient : (baseUrl credential : String) → Except String Unit
  whoami : (baseUrl credential : String) → Reply
  /-- How a double is displayed. -/
  displayDouble : F → String

/-- A request for the owner of a credential. -/
structure WhoamiCall where
  baseUrl : String
  credential : String
deriving DecidableEq, Repr

/-! ## Rust -/

def secretType : String := "superhuman_docs"
def tokenOption : String := "token"
def tokenEnvOption : String := "token_env"

section
variable {F : Type} (w : SecretWorld F)

/-- The text of an option; a document counts as NULL. -/
def optionValue (value : RustExtInputValue F) : Except String String :=
  if value.valueType = rustExtInputBool then .ok (toString value.boolValue)
  else if value.valueType = rustExtInputInt then .ok (toString value.intValue)
  else if value.valueType = rustExtInputUint then .ok (toString value.uintValue)
  else if value.valueType = rustExtInputDouble then .ok (w.displayDouble value.doubleValue)
  else if value.valueType = rustExtInputString then .ok value.stringValue
  else .error "secret option must not be NULL"

/-- `read_environment_variable`, outside an attach. -/
def readSecretVariable (name : String) : Except String String :=
  (w.environment name).mapError fun error =>
    s!"failed to read environment variable {name}: {error}"

/-- The credential an option gives. -/
def optionCredential (type : String) (option : RustExtNamedValue F) : Except String String := do
  let value ← optionValue w option.value
  if eqIgnoreAsciiCase option.name tokenOption then return value
  else if eqIgnoreAsciiCase option.name tokenEnvOption then readSecretVariable w value
  else throw s!"Unknown named parameter for {type} secret: {option.name}"

/-- The loop over the options; `credential` is what the options before gave. -/
def readCredential (type : String) :
    List (RustExtNamedValue F) → Option String → Except String (Option String)
  | [], credential => .ok credential
  | option :: options, credential => do
    let resolved ← optionCredential w type option
    if credential.isSome then throw "TOKEN and TOKEN_ENV cannot both be specified"
    readCredential type options (some resolved)

def validateTokenAt (baseUrl credential : String) : Traced String Unit WhoamiCall Unit := do
  Effect.ofExcept (w.newClient baseUrl credential)
  let reply ← Effect.perform (fun _ => (w.whoami baseUrl credential, ())) fun _ =>
    { baseUrl, credential }
  let _ ← Effect.ofExcept (execute reply)

def validateToken (credential : String) : Traced String Unit WhoamiCall Unit :=
  validateTokenAt w w.defaultBaseUrl credential

variable [F64 F]

/-- The entry of a credential. -/
def tokenEntry (credential : String) : RustExtNamedValue F where
  name := tokenOption
  value := { RustExtInputValue.zero with
    valueType := rustExtInputString
    stringValue := credential }

/-- The entries of a secret, once its credential is validated. -/
def secretEntries : Option String → Traced String Unit WhoamiCall (List (RustExtNamedValue F))
  | none => pure []
  | some credential => do
    validateToken w credential
    return [tokenEntry credential]

def createSecret (input : RustExtSecretCreateInput F) :
    Traced String Unit WhoamiCall (RustExtSecretCreateResult F) := do
  if input.secretType ≠ secretType then
    throw s!"No Superhuman Docs secret configuration registered for type: {input.secretType}"
  let credential ← Effect.ofExcept (readCredential w input.secretType input.options none)
  let entries ← secretEntries w credential
  return {
    scopes := if input.scopes.isEmpty then [secretScopePrefix] else input.scopes
    entries
    redactKeys := [tokenOption] }

end

/-! ## C++ -/

/-- A statement `CREATE SECRET`. -/
structure CreateSecretInput (F : Type) where
  type : String
  provider : String
  name : String
  scopes : List String
  options : List (String × DuckValue F)

/-- A secret as DuckDB stores it. -/
structure KeyValueSecret (F : Type) where
  scopes : List String
  type : String
  provider : String
  name : String
  secretMap : List (String × DuckValue F)
  redactKeys : List String

def createSecretContext : String := "failed to create extension secret"

section
variable {F : Type} [F64 F]

def rustBridgeDuckDbValue (value : RustExtInputValue F) : DuckValue F :=
  if value.valueType = rustExtInputNull then .null (.simple (.other "NULL") "")
  else if value.valueType = rustExtInputBool then .boolean value.boolValue
  else if value.valueType = rustExtInputInt then .int value.intValue
  else if value.valueType = rustExtInputUint then .uint value.uintValue
  else if value.valueType = rustExtInputDouble then .real value.doubleValue
  else .text value.stringValue ""

variable [SerdeJson] [DuckDb F] (w : SecretWorld F)

/-- An option as it is passed to Rust. -/
def namedValue (option : String × DuckValue F) : Except String (RustExtNamedValue F) := do
  return { name := option.1, value := ← convert option.2 }

/-- The secret DuckDB stores for what Rust gave. -/
def keyValueSecret (input : CreateSecretInput F) (result : RustExtSecretCreateResult F) :
    KeyValueSecret F where
  scopes := result.scopes
  type := input.type
  provider := input.provider
  name := input.name
  secretMap := result.entries.map fun entry => (entry.name, rustBridgeDuckDbValue entry.value)
  redactKeys := result.redactKeys

/-- The input of Rust. -/
def secretInput (input : CreateSecretInput F) :
    Except String (RustExtSecretCreateInput F) := do
  return {
    secretType := input.type
    scopes := input.scopes
    options := ← input.options.mapM namedValue }

def createRustBridgeSecret (input : CreateSecretInput F) :
    Traced String Unit WhoamiCall (KeyValueSecret F) := do
  let rustInput ← Effect.ofExcept (secretInput input)
  let result ← (createSecret w rustInput).adaptExcept fun message =>
    s!"{createSecretContext}: {message}"
  return keyValueSecret input result

/-! ## Lookups -/

/-- The score of a secret after one more scope; an empty one matches every path. -/
def scopeScore (path : String) (score : Option Nat) (covering : String) : Option Nat :=
  if covering.isEmpty then some 0
  else if covering.toList.isPrefixOf path.toList then
    some (max covering.utf8ByteSize (score.getD 0))
  else score

/-- `MatchScore`: how well a secret matches a path, if it does. -/
def KeyValueSecret.matchScore (secret : KeyValueSecret F) (path : String) : Option Nat :=
  secret.scopes.foldl (scopeScore path) none

/-- The secret matches the path, and no other of its type matches it better. -/
structure Matched (secrets : List (KeyValueSecret F)) (path type : String)
    (secret : KeyValueSecret F) (score : Nat) : Prop where
  mem : secret ∈ secrets
  type_eq : secret.type = type
  matchScore_eq : secret.matchScore path = some score
  le : ∀ other ∈ secrets, other.type = type → ∀ score', other.matchScore path = some score' →
    score' ≤ score

/-- DuckDB's lookup of a secret. -/
structure SecretManager (F : Type) where
  lookup : List (KeyValueSecret F) → (path type : String) → Option (KeyValueSecret F)
  lookup_some : ∀ {secrets path type secret}, lookup secrets path type = some secret →
    ∃ score, Matched secrets path type secret score
  lookup_none : ∀ {secrets path type}, lookup secrets path type = none →
    ∀ secret ∈ secrets, secret.type = type → secret.matchScore path = none

/-- The text of a value; NULL has none. -/
def secretText : Option (DuckValue F) → String
  | some value => if value.isNull then "" else DuckDb.toString value
  | none => ""

/-- The value of a secret under a key, up to ASCII case. -/
def KeyValueSecret.tryGetValue (secret : KeyValueSecret F) (key : String) : Option (DuckValue F) :=
  (secret.secretMap.find? fun entry => eqIgnoreAsciiCase entry.1 key).map (·.2)

/-- `HostLookupSecret`: the token of the secret for a scope, empty when there is none. -/
def hostLookupSecret (manager : SecretManager F) (secrets : List (KeyValueSecret F))
    (path : String) : String :=
  match manager.lookup secrets path secretType with
  | none => ""
  | some secret => secretText (secret.tryGetValue tokenOption)

end

/-! ## Scopes -/

section
variable {F : Type}

/-- A scope of the secret is one the path starts with. -/
def KeyValueSecret.Covers (secret : KeyValueSecret F) (path : String) (length : Nat) : Prop :=
  ∃ covering ∈ secret.scopes, covering.toList <+: path.toList ∧ covering.utf8ByteSize = length

theorem scopeScore_eq_some {path covering : String} {score : Option Nat} {n : Nat}
    (h : scopeScore path score covering = some n) :
    score = some n ∨ covering.toList <+: path.toList ∧ covering.utf8ByteSize = n := by
  unfold scopeScore at h
  split at h
  · rename_i hempty
    obtain rfl := String.isEmpty_iff.1 hempty
    cases h
    exact .inr ⟨List.nil_prefix, rfl⟩
  · split at h
    · rename_i hcovers
      have hcovers := List.isPrefixOf_iff_prefix.1 hcovers
      obtain hlt | hle := Nat.lt_or_ge covering.utf8ByteSize (score.getD 0)
      · rw [Nat.max_eq_right hlt.le] at h
        cases score with
        | none => exact absurd hlt (Nat.not_lt_zero _)
        | some m => exact .inl h
      · rw [Nat.max_eq_left hle] at h
        exact .inr ⟨hcovers, Option.some.inj h⟩
    · exact .inl h

/-- A score is the length of a scope. -/
theorem KeyValueSecret.covers_of_matchScore {secret : KeyValueSecret F} {path : String}
    {score : Nat} (h : secret.matchScore path = some score) : secret.Covers path score := by
  unfold matchScore at h
  unfold Covers
  generalize secret.scopes = scopes at h
  induction scopes using List.reverseRecOn with
  | nil => cases h
  | append_singleton scopes covering ih =>
    rw [List.foldl_append] at h
    obtain h | h := scopeScore_eq_some h
    · obtain ⟨longest, hmem, hlongest⟩ := ih h
      exact ⟨longest, List.mem_append_left _ hmem, hlongest⟩
    · exact ⟨covering, by simp, h⟩

/-- Without an empty scope no scope that covers the path is longer than the score. -/
theorem KeyValueSecret.Covers.le_matchScore {secret : KeyValueSecret F} {path : String}
    {length : Nat} (h : secret.Covers path length) (hscopes : "" ∉ secret.scopes) :
    ∃ score, secret.matchScore path = some score ∧ length ≤ score := by
  obtain ⟨covering, hmem, hcovers, rfl⟩ := h
  unfold matchScore
  generalize secret.scopes = scopes at hmem hscopes
  induction scopes using List.reverseRecOn with
  | nil => cases hmem
  | append_singleton scopes last ih =>
    rw [List.mem_append, not_or, List.mem_singleton] at hscopes
    have hlast : ¬ last.isEmpty = true := fun hempty =>
      hscopes.2 (String.isEmpty_iff.1 hempty).symm
    rw [List.foldl_append, List.foldl_cons, List.foldl_nil, scopeScore, if_neg hlast]
    obtain hmem | hmem := List.mem_append.1 hmem
    · obtain ⟨score, hscore, hle⟩ := ih hmem hscopes.1
      rw [hscore]
      split
      · exact ⟨_, rfl, hle.trans (Nat.le_max_right ..)⟩
      · exact ⟨score, rfl, hle⟩
    · obtain rfl := List.mem_singleton.1 hmem
      rw [if_pos (List.isPrefixOf_iff_prefix.2 hcovers)]
      exact ⟨_, rfl, Nat.le_max_left ..⟩

/-- Of the secrets of a type, the one that matches the path best. -/
def SecretManager.longest : SecretManager F where
  lookup secrets path type :=
    (secrets.filter fun secret => secret.type == type && (secret.matchScore path).isSome).argmax
      fun secret => (secret.matchScore path).getD 0
  lookup_some {secrets path type secret} h := by
    have hmem := List.mem_filter.1 (List.argmax_mem h)
    rw [Bool.and_eq_true, beq_iff_eq] at hmem
    obtain ⟨hsecret, htype, hmatches⟩ := hmem
    obtain ⟨score, hscore⟩ := Option.isSome_iff_exists.1 hmatches
    refine ⟨score, hsecret, htype, hscore, fun other hother htype' score' hscore' => ?_⟩
    have hle := List.le_of_mem_argmax
      (List.mem_filter.2 ⟨hother, by simp [htype', hscore']⟩) h
    rwa [hscore, hscore'] at hle
  lookup_none {secrets path type} h secret hsecret htype := by
    have hnone := List.filter_eq_nil_iff.1 (List.argmax_eq_none.1 h) secret hsecret
    simpa [htype] using hnone

end

end SuperhumanDocs
