import SuperhumanDocs.Bridge.Scan
import SuperhumanDocs.Catalog

/-!
# Loading the catalog

`loadCatalog` lists the tables of a document page by page, and the columns of each table page by
page. It runs against the replies the server will give, in the order of the requests.
-/

set_option autoImplicit false

namespace SuperhumanDocs

open Json (SerdeJson)

structure ListTablesInput where
  docId : String
  limit : Option Nat
  pageToken : Option String
  sortBy : Option String
  tableTypes : Option (List String)
deriving DecidableEq, Repr

structure ListColumnsInput where
  docId : String
  tableIdOrName : String
  limit : Option Nat
  pageToken : Option String
  visibleOnly : Option Bool
deriving DecidableEq, Repr

inductive CatalogInput where
  | tables (input : ListTablesInput)
  | columns (input : ListColumnsInput)
deriving DecidableEq, Repr

/-- A call against a list of replies: its result, what it sent and the replies it left. -/
structure CatalogCall (α : Type) where
  result : Except Stop α
  sent : List CatalogInput
  replies : List Reply

def CatalogCall.map {α β : Type} (f : α → β) (call : CatalogCall α) : CatalogCall β :=
  { call with result := call.result.map f }

/-- Go on with the result. -/
def CatalogCall.andThen {α β : Type} (call : CatalogCall α)
    (next : α → List Reply → CatalogCall β) : CatalogCall β :=
  match call.result with
  | .error stop => { call with result := .error stop }
  | .ok a => { next a call.replies with sent := call.sent ++ (next a call.replies).sent }

def listColumnsInput (docId tableId pageToken : String) : ListColumnsInput where
  docId
  tableIdOrName := tableId
  limit := some 100
  pageToken := nonEmptyString pageToken
  visibleOnly := some false

def listTablesInput (docId pageToken : String) : ListTablesInput where
  docId
  limit := some 100
  pageToken := nonEmptyString pageToken
  sortBy := none
  tableTypes := none

section
variable [SerdeJson]

/-- The pages of the column listing from a page token on, after the columns `all`. -/
def columnPages (docId tableId : String) (all : List Column) (pageToken : String) :
    List Reply → CatalogCall (List Column)
  | [] =>
    { result := .error .waiting
      sent := [.columns (listColumnsInput docId tableId pageToken)]
      replies := [] }
  | reply :: replies =>
    let input := CatalogInput.columns (listColumnsInput docId tableId pageToken)
    match execute reply >>= columnListFromJson with
    | .error e => { result := .error (.failed e), sent := [input], replies }
    | .ok page =>
      if page.nextPageToken.isEmpty then
        { result := .ok (all ++ page.items), sent := [input], replies }
      else
        let rest := columnPages docId tableId (all ++ page.items) page.nextPageToken replies
        { rest with sent := input :: rest.sent }

def loadColumns (docId tableId : String) (includeSystemColumns : Bool) (replies : List Reply) :
    CatalogCall (List Column) :=
  (columnPages docId tableId [] "" replies).map fun all =>
    prepareColumns (if includeSystemColumns then appendRowMetadata all else all)

/-- The tables of a page, each with its columns. -/
def loadTables (docId : String) (includeSystemColumns : Bool) :
    List Table → List Reply → CatalogCall (List (Table × List Column))
  | [], replies => { result := .ok [], sent := [], replies }
  | table :: tables, replies =>
    (loadColumns docId table.id includeSystemColumns replies).andThen fun columns replies =>
      (loadTables docId includeSystemColumns tables replies).map ((table, columns) :: ·)

theorem columnPages_replies (docId tableId : String) (all : List Column) (pageToken : String)
    (replies : List Reply) :
    (columnPages docId tableId all pageToken replies).replies.length ≤ replies.length := by
  induction replies generalizing all pageToken with
  | nil => exact Nat.le_refl 0
  | cons reply replies ih =>
    rw [columnPages]
    cases execute reply >>= columnListFromJson with
    | error e => exact Nat.le_succ _
    | ok page =>
      by_cases h : page.nextPageToken.isEmpty = true
      · simp [h]
      · simp only [h]
        exact (ih _ _).trans (Nat.le_succ _)

theorem loadTables_replies (docId : String) (includeSystemColumns : Bool) (tables : List Table)
    (replies : List Reply) :
    (loadTables docId includeSystemColumns tables replies).replies.length ≤ replies.length := by
  induction tables generalizing replies with
  | nil => exact Nat.le_refl _
  | cons table tables ih =>
    have hcolumns := columnPages_replies docId table.id [] "" replies
    rw [loadTables, CatalogCall.andThen]
    cases (loadColumns docId table.id includeSystemColumns replies).result with
    | error stop => exact hcolumns
    | ok columns => exact (ih _).trans hcolumns

/-- The pages of the table listing from a page token on, after the tables `all`. -/
def tablePages (docId : String) (includeSystemColumns : Bool) (all : List (Table × List Column))
    (pageToken : String) (replies : List Reply) : CatalogCall (List (Table × List Column)) :=
  let input := CatalogInput.tables (listTablesInput docId pageToken)
  match replies with
  | [] => { result := .error .waiting, sent := [input], replies := [] }
  | reply :: replies =>
    match execute reply >>= tableListFromJson with
    | .error e => { result := .error (.failed e), sent := [input], replies }
    | .ok page =>
      let loaded := loadTables docId includeSystemColumns page.items replies
      match loaded.result with
      | .error stop =>
        { result := .error stop, sent := input :: loaded.sent, replies := loaded.replies }
      | .ok tables =>
        if page.nextPageToken.isEmpty then
          { result := .ok (all ++ tables), sent := input :: loaded.sent, replies := loaded.replies }
        else
          let rest := tablePages docId includeSystemColumns (all ++ tables) page.nextPageToken
            loaded.replies
          { rest with sent := input :: loaded.sent ++ rest.sent }
termination_by replies.length
decreasing_by exact Nat.lt_succ_of_le (loadTables_replies _ _ _ _)

/-- The catalog of a document; `newClient` is the constructor of the SDK client. -/
def loadCatalog (newClient : ClientConfig → Except String Unit) (config : ClientConfig)
    (replies : List Reply) : CatalogCall (List RustExtCatalogTable) :=
  match newClient config with
  | .error e => { result := .error (.failed e), sent := [], replies }
  | .ok _ =>
    (tablePages config.resource config.includeSystemColumns [] "" replies).map
      (·.map fun (table, columns) => ffiCatalogTable table columns)

end

end SuperhumanDocs
