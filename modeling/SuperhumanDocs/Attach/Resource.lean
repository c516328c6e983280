import SuperhumanDocs.Effect.Except
import SuperhumanDocs.Rows
import SuperhumanDocs.ScanValue

/-!
# Attached resources

A resource is a document id or a browser URL, perhaps behind a prefix. The document id can be
guessed from the text of a canonical URL, and read from the answer to a link-resolution request.
-/

set_option autoImplicit false

namespace SuperhumanDocs

open Json (Value SerdeJson)

def secretScopePrefix : String := "superhuman_docs:"

def attachResourcePrefixes : List String :=
  ["coda:", "superhuman:", "superhuman-docs:", secretScopePrefix]

def isBrowserUrl (value : String) : Bool :=
  (stripPrefix value "https://").isSome || (stripPrefix value "http://").isSome

def stripAttachResourcePrefix (value : String) : String :=
  (attachResourcePrefixes.findSome? fun affix => stripPrefix value affix).getD value

/-! ## Texts of URLs -/

/-- What comes after the first occurrence of a marker. -/
def afterFirst (marker : List Char) : List Char → Option (List Char)
  | [] => none
  | c :: cs =>
    match marker.isPrefixOf? (c :: cs) with
    | some rest => some rest
    | none => afterFirst marker cs

/-- What comes after the last occurrence of a marker. -/
def afterLast (marker : List Char) : List Char → Option (List Char)
  | [] => none
  | c :: cs => (afterLast marker cs).or (marker.isPrefixOf? (c :: cs))

/-- The text up to the end of a path segment. -/
def segment (chars : List Char) : List Char :=
  chars.takeWhile fun c => c != '/' && c != '?' && c != '#'

/-- The document id in a canonical URL. -/
def docIdFromBrowserUrl (value : String) : Option String := do
  let path ← afterFirst "://".toList value.toList
  -- the path starts at the first slash, which the marker of a document contains
  let rest ← "/d/".toList.isPrefixOf? (path.dropWhile (· != '/'))
  let docId ← afterLast "_d".toList (segment rest)
  if docId.isEmpty then none else some (String.ofList docId)

/-- The document of a resolved link. -/
def docIdFromResolvedLink [SerdeJson] (body : String) : Except String String := do
  let root ← (SerdeJson.fromStr body).mapError fun error =>
    s!"invalid ResolveBrowserLink response: {error}"
  let resource ← okOr ((root.get "resource").bind Value.asObject)
    "ResolveBrowserLink response did not contain a resource"
  let resourceType ← okOr ((resource.lookup "type").bind Value.asStr)
    "ResolveBrowserLink resource did not contain a type"
  if eqIgnoreAsciiCase resourceType "doc" then
    okOr (((resource.lookup "id").bind Value.asStr).filter fun value => !value.isEmpty)
      "resolved doc resource did not contain an id"
  else
    let href ← okOr ((resource.lookup "href").bind Value.asStr)
      "resolved resource did not contain an API link"
    let rest ← okOr (afterFirst "/docs/".toList href.toList)
      s!"resolved {resourceType} resource is not contained by a document"
    let docId := segment rest
    if docId.isEmpty then
      .error s!"resolved {resourceType} resource API link did not contain a document id"
    else return String.ofList docId

end SuperhumanDocs
