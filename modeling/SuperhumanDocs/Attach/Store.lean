import SuperhumanDocs.Attach.Secret

/-!
# Secrets over a session

Statements create secrets and attach documents, each in a world of its own; what DuckDB keeps of
the secrets after a statement is up to it. `SecretStore` is the secrets that are there and the uses
of credentials by each statement so far.
-/

set_option autoImplicit false

namespace SuperhumanDocs

open Binary (F64)
open Effect (runFrom)
open Json (SerdeJson)

/-- A credential is sent, or kept for the requests of a document. -/
inductive CredentialUse where
  | whoami (call : WhoamiCall)
  | link (endpoint credential : String)
  | config (endpoint credential : String)
deriving DecidableEq, Repr

/-- A statement; `keeps` tells which secrets DuckDB keeps after it. -/
inductive SecretStatement (F : Type) where
  | create (w : SecretWorld F) (input : CreateSecretInput F) (keeps : KeyValueSecret F → Bool)
  | drop (keeps : KeyValueSecret F → Bool)
  | attach (w : AttachWorld) (path : String)

structure SecretStore (F : Type) where
  secrets : List (KeyValueSecret F)
  /-- Those of each statement. -/
  uses : List (List CredentialUse)

def SecretStore.empty {F : Type} : SecretStore F where
  secrets := []
  uses := []

/-- The use of a credential in an event of an attach. -/
def AttachEvent.credentialUse : AttachEvent → Option CredentialUse
  | secret _ => none
  | link baseUrl credential _ => some (.link baseUrl credential)

/-- The use of the credential of a config. -/
def configUse : Except String ClientConfig → List CredentialUse
  | .ok config => [.config config.endpoint config.credential]
  | .error _ => []

section
variable {F : Type} [F64 F] [SerdeJson] [DuckDb F] (manager : SecretManager F)

/-- The world of an attach with the secrets of the store. -/
def SecretStore.attachWorld (store : SecretStore F) (w : AttachWorld) : AttachWorld :=
  { w with lookupSecret := fun path => .ok (hostLookupSecret manager store.secrets path) }

/-- The secrets after a statement. -/
def SecretStore.secretsAfter (store : SecretStore F) :
    SecretStatement F → List (KeyValueSecret F)
  | .create w input keeps =>
    match (runFrom (createRustBridgeSecret w input) ()).result with
    | .error _ => store.secrets
    | .ok secret => (store.secrets ++ [secret]).filter keeps
  | .drop keeps => store.secrets.filter keeps
  | .attach _ _ => store.secrets

/-- What a statement uses credentials for. -/
def SecretStore.usesOf (store : SecretStore F) : SecretStatement F → List CredentialUse
  | .create w input _ => (runFrom (createRustBridgeSecret w input) ()).events.map .whoami
  | .drop _ => []
  | .attach w path =>
    let outcome := runFrom (resolveAttach (store.attachWorld manager w) path) ()
    outcome.events.filterMap AttachEvent.credentialUse ++ configUse outcome.result

def SecretStore.step (store : SecretStore F) (statement : SecretStatement F) : SecretStore F where
  secrets := store.secretsAfter statement
  uses := store.uses ++ [store.usesOf manager statement]

def SecretStore.run (statements : List (SecretStatement F)) : SecretStore F :=
  statements.foldl (SecretStore.step manager) .empty

end

end SuperhumanDocs
