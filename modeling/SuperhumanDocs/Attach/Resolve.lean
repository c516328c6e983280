import Mathlib.Data.List.DropRight
import SuperhumanDocs.Attach.Resource
import SuperhumanDocs.Effect.Trace
import SuperhumanDocs.Sdk

/-!
# Resolving an attach

`resolveAttach` reads the options of an `ATTACH`, resolves a browser URL with one request, and
picks the credential: the explicit one, or a stored secret. Its events are the secret lookups and
the link-resolution request, with the credential that was sent.
-/

set_option autoImplicit false

namespace SuperhumanDocs

open Effect (Traced)
open Json (SerdeJson)

/-- The host of an attach and what it can reach. A lookup of an option or a secret gives the empty
string when there is none. -/
structure AttachWorld where
  getOption : String → Except String String
  lookupSecret : (scope : String) → Except String String
  environment : String → Except String String
  defaultBaseUrl : String
  newClient : (baseUrl credential : String) → Except String Unit
  resolveBrowserLink : (baseUrl credential url : String) → Reply

inductive AttachEvent where
  | secret (scope : String)
  | link (baseUrl credential url : String)
deriving DecidableEq, Repr

/-! ## The host -/

/-- A failure of the host has a message. -/
def hostError (fallback message : String) : String := if message.isEmpty then fallback else message

section
variable (w : AttachWorld)

def ownedOption (name : String) : Except String String :=
  (w.getOption name).mapError (hostError "host attach option failed")

def ownedSecret (scope : String) : Except String String :=
  (w.lookupSecret scope).mapError (hostError "host secret lookup failed")

def readEnvironmentVariable (name : String) : Except String String :=
  (w.environment name).mapError fun error =>
    s!"failed to read environment variable {name}: {error}"

end

/-! ## Options -/

def defaultMutationTimeoutSeconds : Nat := 60

def parseBooleanOption (name value : String) (default : Bool) : Except String Bool :=
  match value with
  | "" => .ok default
  | "true" | "TRUE" | "True" | "1" => .ok true
  | "false" | "FALSE" | "False" | "0" => .ok false
  | _ => .error s!"invalid boolean value for {name}: {value}"

/-- A decimal number of 64 bits, perhaps with a plus sign. -/
def parseU64 (value : String) : Option Nat :=
  let digits := (("+".toList.isPrefixOf? value.toList).getD value.toList)
  if digits.isEmpty || !digits.all Char.isDigit then none
  else
    let n := digits.foldl (fun n c => 10 * n + (c.toNat - '0'.toNat)) 0
    if n < 2 ^ 64 then some n else none

def parseMutationTimeout (value : String) : Except String Nat :=
  if value.isEmpty then .ok defaultMutationTimeoutSeconds
  else
    match parseU64 value with
    | none => .error s!"MUTATION_TIMEOUT_SECONDS must be a positive integer: {value}"
    | some seconds =>
      if seconds = 0 then .error "MUTATION_TIMEOUT_SECONDS must be a positive integer"
      else .ok seconds

def normalizeApiBase (base : String) : String :=
  String.ofList (base.toList.rdropWhile (· == '/'))

/-- The options of an attach, empty when they are not given. -/
structure AttachOptions where
  token : String
  tokenEnv : String
  apiBase : String
  includeRowMetadata : String
  waitForMutations : String
  mutationTimeoutSeconds : String
  allowMutationWarnings : String

def readOptions (w : AttachWorld) : Except String AttachOptions := do
  return {
    token := ← ownedOption w "token"
    tokenEnv := ← ownedOption w "token_env"
    apiBase := ← ownedOption w "api_base"
    includeRowMetadata := ← ownedOption w "include_row_metadata"
    waitForMutations := ← ownedOption w "wait_for_mutations"
    mutationTimeoutSeconds := ← ownedOption w "mutation_timeout_seconds"
    allowMutationWarnings := ← ownedOption w "allow_mutation_warnings" }

/-- The credential given with the attach, empty when there is none. -/
def explicitCredential (w : AttachWorld) (options : AttachOptions) : Except String String :=
  if !options.token.isEmpty && !options.tokenEnv.isEmpty then
    .error "TOKEN and TOKEN_ENV cannot both be specified"
  else if options.tokenEnv.isEmpty then .ok options.token
  else readEnvironmentVariable w options.tokenEnv

/-- What the other options say. -/
structure AttachFlags where
  includeSystemColumns : Bool
  waitForMutations : Bool
  mutationTimeoutSeconds : Nat
  allowMutationWarnings : Bool

def parseFlags (options : AttachOptions) : Except String AttachFlags := do
  let includeSystemColumns ←
    parseBooleanOption "INCLUDE_ROW_METADATA" options.includeRowMetadata false
  let waitForMutations ← parseBooleanOption "WAIT_FOR_MUTATIONS" options.waitForMutations false
  if !waitForMutations && !options.mutationTimeoutSeconds.isEmpty then
    throw "MUTATION_TIMEOUT_SECONDS requires WAIT_FOR_MUTATIONS true"
  if !waitForMutations && !options.allowMutationWarnings.isEmpty then
    throw "ALLOW_MUTATION_WARNINGS requires WAIT_FOR_MUTATIONS true"
  let mutationTimeoutSeconds ← parseMutationTimeout options.mutationTimeoutSeconds
  let allowMutationWarnings ←
    parseBooleanOption "ALLOW_MUTATION_WARNINGS" options.allowMutationWarnings false
  return { includeSystemColumns, waitForMutations, mutationTimeoutSeconds, allowMutationWarnings }

def attachEndpoint (w : AttachWorld) (options : AttachOptions) : String :=
  normalizeApiBase (if options.apiBase.isEmpty then w.defaultBaseUrl else options.apiBase)

/-! ## The credential -/

section
variable (w : AttachWorld)

/-- Look a secret up. -/
def lookupSecret (scope : String) : Traced String Unit AttachEvent String := do
  let value ← Effect.perform (fun _ => (ownedSecret w scope, ())) fun _ => .secret scope
  Effect.ofExcept value

/-- The secret of a document, or the general one. -/
def resolveStoredCredential (resource : String) : Traced String Unit AttachEvent String := do
  let value ← lookupSecret w (secretScopePrefix ++ resource)
  if !value.isEmpty then return value
  let value ← lookupSecret w secretScopePrefix
  if value.isEmpty then throw "missing credential" else return value

/-- The secret of the document guessed from a URL. -/
def lookupInferred (inferred : Option String) : Traced String Unit AttachEvent String :=
  match inferred with
  | some docId => lookupSecret w (secretScopePrefix ++ docId)
  | none => pure ""

/-- The credential of the link-resolution request. -/
def bootstrapCredential (browserUrl explicit : String) :
    Traced String Unit AttachEvent String := do
  if !explicit.isEmpty then return explicit
  let scopedSecret ← lookupInferred w (docIdFromBrowserUrl browserUrl)
  if !scopedSecret.isEmpty then return scopedSecret
  let general ← lookupSecret w secretScopePrefix
  if general.isEmpty then
    throw ("browser URL attachment requires TOKEN, TOKEN_ENV, a general superhuman_docs secret, " ++
      "or a canonical URL with a matching doc-scoped secret")
  else return general

variable [SerdeJson]

/-- The document and the credential of a browser URL. -/
def resolveBrowserUrl (browserUrl explicit endpoint : String) :
    Traced String Unit AttachEvent (String × String) := do
  let bootstrap ← bootstrapCredential w browserUrl explicit
  Effect.ofExcept (w.newClient endpoint bootstrap)
  let reply ← Effect.perform (fun _ => (w.resolveBrowserLink endpoint bootstrap browserUrl, ()))
    fun _ => .link endpoint bootstrap browserUrl
  let body ← Effect.ofExcept (execute reply)
  let docId ← Effect.ofExcept (docIdFromResolvedLink body)
  if explicit.isEmpty then
    let canonical ← lookupSecret w (secretScopePrefix ++ docId)
    return (docId, if canonical.isEmpty then bootstrap else canonical)
  else return (docId, bootstrap)

/-- The resource and the credential of an attach. -/
def resolveResource (inputResource explicit endpoint : String) :
    Traced String Unit AttachEvent (String × String) := do
  if isBrowserUrl inputResource then resolveBrowserUrl w inputResource explicit endpoint
  else if explicit.isEmpty then
    let credential ← resolveStoredCredential w inputResource
    return (inputResource, credential)
  else return (inputResource, explicit)

def resolveAttach (path : String) : Traced String Unit AttachEvent ClientConfig := do
  let options ← Effect.ofExcept (readOptions w)
  let explicit ← Effect.ofExcept (explicitCredential w options)
  let inputResource := stripAttachResourcePrefix path
  if inputResource.isEmpty then throw "empty doc id"
  let flags ← Effect.ofExcept (parseFlags options)
  let endpoint := attachEndpoint w options
  let (resource, credential) ← resolveResource w inputResource explicit endpoint
  return {
    resource
    credential
    endpoint
    includeSystemColumns := flags.includeSystemColumns
    waitForMutations := flags.waitForMutations
    mutationTimeoutSeconds := flags.mutationTimeoutSeconds
    allowMutationWarnings := flags.allowMutationWarnings }

end

end SuperhumanDocs
