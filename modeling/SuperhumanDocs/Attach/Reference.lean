import SuperhumanDocs.Attach.Resolve
import SuperhumanDocs.Bridge.Reference

/-!
# A reference host

An attach host that reads its options, secrets and environment from lists, and a server that
resolves every link to one document.
-/

set_option autoImplicit false

namespace SuperhumanDocs.Reference

open Json.Reference

/-- The answer for a link to a document. -/
def linkJson (docId : String) : Json.Value :=
  .object [("resource", .object [("id", .string docId), ("type", .string "doc")])]

theorem docIdFromResolvedLink_linkJson {docId : String} (h : docId ≠ "") :
    docIdFromResolvedLink (linkJson docId).print = .ok docId := by
  have htype : ¬ ("type" < "id") := by decide
  have hdoc : eqIgnoreAsciiCase "doc" "doc" = true := beq_self_eq_true _
  have hcanon : (linkJson docId).canonicalize = linkJson docId := by
    simp [linkJson, Json.Value.canonicalize, Json.canonicalizeFields, Json.insert, htype]
  have hread := Json.SerdeJson.fromStr_print (linkJson docId) rfl
  rw [hcanon] at hread
  simp only [docIdFromResolvedLink, hread, Except.mapError, bind, Except.bind]
  simp [linkJson, Json.Value.get, Json.Value.asObject, Json.Value.asStr, Json.lookup_cons_ite, okOr,
    hdoc, Option.filter, h]

/-- The value under a name, or the empty string. -/
def listed (entries : List (String × String)) (name : String) : String :=
  (entries.lookup name).getD ""

/-- The secrets are listed by scope; every link is one to `docId`. -/
def attachWorld (options secrets environment : List (String × String)) (docId : String) :
    AttachWorld where
  getOption name := .ok (listed options name)
  lookupSecret docScope := .ok (listed secrets docScope)
  environment name :=
    match environment.lookup name with
    | some value => .ok value
    | none => .error "environment variable not found"
  defaultBaseUrl := "https://coda.io/apis/v1"
  newClient _ _ := .ok ()
  resolveBrowserLink _ _ _ := reply 200 (linkJson docId)

end SuperhumanDocs.Reference
