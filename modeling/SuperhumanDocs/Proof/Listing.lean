import SuperhumanDocs.Proof.Catalog

/-!
# The catalog is the image of the listings

`loadCatalog` runs two nested loops over page tokens against a server (`Dialogue`).

* `Pages`: a finite page chain, the items of its pages in order and the failure it ends with.
* `Plays`: what a call sends to a server, what it ends with, and that it waits in between; the
  calls of the catalog compose by the rules `Plays.request`, `Plays.andThen` and `Plays.map`.
* `loadCatalog_image`: the dialogue ends, with every table of every page and all its columns, or
  with an error when a page of some listing is missing.
-/

set_option autoImplicit false

namespace SuperhumanDocs

open Json (SerdeJson)

/-! ## Page chains -/

/-- The pages from a token on: their items, and the failure the chain ends with. -/
inductive Pages {α : Type} (fetch : String → Except String (Page α)) :
    String → List α → Option String → Prop
  | last {token : String} {page : Page α} : fetch token = .ok page →
      page.nextPageToken.isEmpty = true → Pages fetch token page.items none
  | failed {token e : String} : fetch token = .error e → Pages fetch token [] (some e)
  | next {token : String} {page : Page α} {items : List α} {failure : Option String} :
      fetch token = .ok page → page.nextPageToken.isEmpty = false →
      Pages fetch page.nextPageToken items failure →
      Pages fetch token (page.items ++ items) failure

/-- A failure, or the result. -/
def failedOr {α : Type} (failure : Option String) (a : α) : Except Stop α :=
  match failure with
  | none => .ok a
  | some e => .error (.failed e)

theorem failedOr_map {α β : Type} (f : α → β) (failure : Option String) (a : α) :
    (failedOr failure a).map f = failedOr failure (f a) := by
  cases failure <;> rfl

theorem failedOr_ne_waiting {α : Type} (failure : Option String) (a : α) :
    failedOr failure a ≠ .error .waiting := by
  cases failure <;> simp [failedOr]

/-! ## Calls against a server -/

/-- The replies a call has seen: while it waits, the server answers the last input sent. -/
inductive Dialogue {α : Type} (serve : CatalogInput → Reply)
    (call : List Reply → CatalogCall α) : List Reply → Prop
  | start : Dialogue serve call []
  | reply {replies : List Reply} {input : CatalogInput} : Dialogue serve call replies →
      (call replies).result = .error .waiting → (call replies).sent.getLast? = some input →
      Dialogue serve call (replies ++ [serve input])

/-- Against the server the call sends the inputs one by one and ends with the result. -/
structure Plays {α : Type} (serve : CatalogInput → Reply) (call : List Reply → CatalogCall α)
    (result : Except Stop α) (sent : List CatalogInput) : Prop where
  ends : ∀ more, call (sent.map serve ++ more) = { result, sent, replies := more }
  waits : ∀ k < sent.length, call ((sent.map serve).take k) =
    { result := .error .waiting, sent := sent.take (k + 1), replies := [] }

namespace Plays

variable {α β : Type} {serve : CatalogInput → Reply} {call : List Reply → CatalogCall α}
  {result : Except Stop α} {sent : List CatalogInput}

theorem stop (result : Except Stop α) :
    Plays serve (fun replies => { result, sent := [], replies }) result [] where
  ends _ := rfl
  waits k hk := absurd hk (Nat.not_lt_zero k)

/-- One input is sent first. -/
theorem request {rest : List Reply → CatalogCall α} {input : CatalogInput}
    (hwait : call [] = { result := .error .waiting, sent := [input], replies := [] })
    (hreply : ∀ more, call (serve input :: more) =
      { rest more with sent := input :: (rest more).sent })
    (h : Plays serve rest result sent) : Plays serve call result (input :: sent) where
  ends more := by
    rw [List.map_cons, List.cons_append, hreply, h.ends]
  waits k hk := by
    cases k with
    | zero => exact hwait
    | succ k =>
      have hrest := h.waits k (Nat.lt_of_succ_lt_succ hk)
      rw [List.map_cons, List.take_succ_cons, hreply, hrest, List.take_succ_cons]

theorem map (h : Plays serve call result sent) (f : α → β) :
    Plays serve (fun replies => (call replies).map f) (result.map f) sent where
  ends more := by
    simp only [h.ends, CatalogCall.map]
  waits k hk := by
    simp only [h.waits k hk, CatalogCall.map, Except.map]

theorem andThen {a : α} {next : α → List Reply → CatalogCall β} {result : Except Stop β}
    {later : List CatalogInput} (h : Plays serve call (.ok a) sent)
    (hnext : Plays serve (next a) result later) :
    Plays serve (fun replies => (call replies).andThen next) result (sent ++ later) where
  ends more := by
    simp only [List.map_append, List.append_assoc, h.ends, CatalogCall.andThen, hnext.ends]
  waits k hk := by
    rw [List.length_append] at hk
    by_cases hfirst : k < sent.length
    · -- the first call still waits
      have hwait := h.waits k hfirst
      rw [List.map_append, List.take_append_of_le_length (by rw [List.length_map]; omega),
        List.take_append_of_le_length (by omega)]
      simp only [hwait, CatalogCall.andThen]
    · obtain ⟨j, rfl⟩ := Nat.exists_eq_add_of_le (Nat.le_of_not_lt hfirst)
      have hwait := hnext.waits j (by omega)
      have htake : ((sent ++ later).map serve).take (sent.length + j) =
          sent.map serve ++ (later.map serve).take j := by
        rw [List.map_append, List.take_append, List.length_map,
          List.take_of_length_le (by rw [List.length_map]; omega), Nat.add_sub_cancel_left]
      rw [htake, Nat.add_assoc, List.take_length_add_append]
      simp only [h.ends, CatalogCall.andThen, hwait]

theorem andThen_stop {stopped : Stop} {next : α → List Reply → CatalogCall β}
    (h : Plays serve call (.error stopped) sent) :
    Plays serve (fun replies => (call replies).andThen next) (.error stopped) sent where
  ends more := by
    simp only [h.ends, CatalogCall.andThen]
  waits k hk := by
    simp only [h.waits k hk, CatalogCall.andThen]

/-- Before its end the call has sent one more input than it has seen replies. -/
theorem asks (h : Plays serve call result sent) {k : Nat} (hk : k < sent.length) :
    (call ((sent.map serve).take k)).result = .error .waiting ∧
      (call ((sent.map serve).take k)).sent.getLast? = some sent[k] ∧
      (sent.map serve).take (k + 1) = (sent.map serve).take k ++ [serve sent[k]] := by
  rw [h.waits k hk]
  refine ⟨rfl, ?_, ?_⟩
  · show (sent.take (k + 1)).getLast? = some sent[k]
    rw [List.getLast?_take, if_neg (Nat.succ_ne_zero k), Nat.add_sub_cancel,
      List.getElem?_eq_getElem hk, Option.some_or]
  · rw [← List.map_take, ← List.map_take, ← List.take_concat_get' sent k hk, List.map_append,
      List.map_singleton]

/-- The dialogue is forced, and ends. -/
theorem dialogue_iff (h : Plays serve call result sent) (hresult : result ≠ .error .waiting)
    (replies : List Reply) : Dialogue serve call replies ↔ replies <+: sent.map serve := by
  constructor
  · intro hdialogue
    suffices hseen : ∃ k ≤ sent.length, replies = (sent.map serve).take k by
      obtain ⟨k, -, rfl⟩ := hseen
      exact List.take_prefix k _
    induction hdialogue with
    | start => exact ⟨0, Nat.zero_le _, rfl⟩
    | @reply replies input _ hwaiting hlast ih =>
      obtain ⟨k, hk, rfl⟩ := ih
      rcases Nat.lt_or_eq_of_le hk with hk | rfl
      · obtain ⟨-, hsent, htake⟩ := h.asks hk
        rw [hsent, Option.some.injEq] at hlast
        exact ⟨k + 1, hk, by rw [htake, hlast]⟩
      · have hends := h.ends []
        rw [List.append_nil] at hends
        rw [List.take_of_length_le (by simp), hends] at hwaiting
        exact absurd hwaiting hresult
  · intro hprefix
    have hlength := hprefix.length_le
    rw [List.length_map] at hlength
    rw [List.prefix_iff_eq_take.1 hprefix]
    generalize replies.length = k at hlength
    induction k with
    | zero => exact .start
    | succ k ih =>
      obtain ⟨hwaiting, hsent, htake⟩ := h.asks hlength
      rw [htake]
      exact .reply (ih (by omega)) hwaiting hsent

end Plays

/-! ## The two loops -/

section
variable [SerdeJson] {serve : CatalogInput → Reply} {docId : String}

/-- A page of the table listing as the server answers it. -/
def fetchTables (serve : CatalogInput → Reply) (docId pageToken : String) :
    Except String (Page Table) := do
  tableListFromJson (← execute (serve (.tables (listTablesInput docId pageToken))))

/-- A page of the column listing of a table as the server answers it. -/
def fetchColumns (serve : CatalogInput → Reply) (docId tableId pageToken : String) :
    Except String (Page Column) := do
  columnListFromJson (← execute (serve (.columns (listColumnsInput docId tableId pageToken))))

theorem columnPages_plays {tableId token : String} {columns : List Column}
    {failure : Option String} (h : Pages (fetchColumns serve docId tableId) token columns failure)
    (all : List Column) :
    ∃ sent, Plays serve (columnPages docId tableId all token) (failedOr failure (all ++ columns))
      sent := by
  induction h generalizing all with
  | @last token page hfetch hlast =>
    unfold fetchColumns at hfetch
    refine ⟨_, .request rfl (fun more => ?_) (.stop (.ok (all ++ page.items)))⟩
    simp only [columnPages, hfetch, hlast, if_true]
  | @failed token e hfetch =>
    unfold fetchColumns at hfetch
    refine ⟨_, .request rfl (fun more => ?_) (.stop (.error (.failed e)))⟩
    simp only [columnPages, hfetch]
  | @next token page items failure hfetch hmore _ ih =>
    unfold fetchColumns at hfetch
    obtain ⟨sent, hplays⟩ := ih (all ++ page.items)
    rw [List.append_assoc] at hplays
    refine ⟨_, .request rfl (fun more => ?_) hplays⟩
    simp [columnPages, hfetch, hmore]

/-- The columns `loadCatalog` gives a table whose pages hold the columns. -/
def listedColumns (includeSystemColumns : Bool) (all : List Column) : List Column :=
  prepareColumns (if includeSystemColumns then appendRowMetadata all else all)

theorem loadColumns_plays {tableId : String} {columns : List Column} {failure : Option String}
    (h : Pages (fetchColumns serve docId tableId) "" columns failure)
    (includeSystemColumns : Bool) :
    ∃ sent, Plays serve (loadColumns docId tableId includeSystemColumns)
      (failedOr failure (listedColumns includeSystemColumns columns)) sent := by
  obtain ⟨sent, hplays⟩ := columnPages_plays h []
  refine ⟨sent, ?_⟩
  rw [listedColumns, ← failedOr_map (fun all =>
    prepareColumns (if includeSystemColumns then appendRowMetadata all else all))]
  exact hplays.map _

section
variable (columns : String → List Column) (failure : String → Option String)

/-- The tables of a listing, each with its columns. -/
def listedTables (includeSystemColumns : Bool) (tables : List Table) :
    List (Table × List Column) :=
  tables.map fun table => (table, listedColumns includeSystemColumns (columns table.id))

variable {columns failure}

/-- The first table whose columns cannot be listed decides. -/
theorem loadTables_plays {tables : List Table}
    (h : ∀ table ∈ tables, Pages (fetchColumns serve docId table.id) "" (columns table.id)
      (failure table.id)) (includeSystemColumns : Bool) :
    ∃ sent, Plays serve (loadTables docId includeSystemColumns tables)
      (failedOr (tables.findSome? fun table => failure table.id)
        (listedTables columns includeSystemColumns tables)) sent := by
  induction tables with
  | nil => exact ⟨[], .stop _⟩
  | cons table tables ih =>
    obtain ⟨first, hfirst⟩ := loadColumns_plays (h table List.mem_cons_self) includeSystemColumns
    rw [List.findSome?_cons]
    cases hfailure : failure table.id with
    | some e =>
      rw [hfailure] at hfirst
      exact ⟨first, hfirst.andThen_stop⟩
    | none =>
      rw [hfailure] at hfirst
      obtain ⟨later, hlater⟩ := ih fun other hother => h other (List.mem_cons_of_mem table hother)
      have hrest := hlater.map fun loaded =>
        (table, listedColumns includeSystemColumns (columns table.id)) :: loaded
      rw [failedOr_map] at hrest
      exact ⟨first ++ later, hfirst.andThen hrest⟩

/-- The rest of the table listing after a page. -/
def afterPage (docId : String) (includeSystemColumns : Bool) (all : List (Table × List Column))
    (page : Page Table) (tables : List (Table × List Column)) (replies : List Reply) :
    CatalogCall (List (Table × List Column)) :=
  if page.nextPageToken.isEmpty then { result := .ok (all ++ tables), sent := [], replies }
  else tablePages docId includeSystemColumns (all ++ tables) page.nextPageToken replies

/-- A page is followed by the columns of its tables and then by the next page. -/
theorem tablePages_page {includeSystemColumns : Bool} {all : List (Table × List Column)}
    {token : String} {page : Page Table} (hfetch : fetchTables serve docId token = .ok page)
    (replies : List Reply) :
    tablePages docId includeSystemColumns all token
        (serve (.tables (listTablesInput docId token)) :: replies) =
      let rest := (loadTables docId includeSystemColumns page.items replies).andThen
        (afterPage docId includeSystemColumns all page)
      { rest with sent := .tables (listTablesInput docId token) :: rest.sent } := by
  unfold fetchTables at hfetch
  rw [tablePages]
  simp only [hfetch, CatalogCall.andThen, afterPage]
  cases (loadTables docId includeSystemColumns page.items replies).result with
  | error stop => rfl
  | ok tables =>
    by_cases hlast : page.nextPageToken.isEmpty = true
    · simp [hlast]
    · simp [hlast]

/-- What a page adds to the rest of the listing. -/
theorem tablePages_cons {token : String} {page : Page Table} {tableFailure : Option String}
    {includeSystemColumns : Bool} {all loaded : List (Table × List Column)}
    {later : List CatalogInput} (hfetch : fetchTables serve docId token = .ok page)
    (hcolumns : ∀ table ∈ page.items, Pages (fetchColumns serve docId table.id) ""
      (columns table.id) (failure table.id))
    (hlater : Plays serve (afterPage docId includeSystemColumns all page
      (listedTables columns includeSystemColumns page.items)) (failedOr tableFailure loaded)
      later) :
    ∃ sent, Plays serve (tablePages docId includeSystemColumns all token)
      (failedOr ((page.items.findSome? fun table => failure table.id).or tableFailure) loaded)
      sent := by
  obtain ⟨sent, hplays⟩ := loadTables_plays hcolumns includeSystemColumns
  have hwait : tablePages docId includeSystemColumns all token [] =
      { result := .error .waiting, sent := [.tables (listTablesInput docId token)],
        replies := [] } := by
    rw [tablePages]
  cases hfailure : page.items.findSome? fun table => failure table.id with
  | some e =>
    rw [hfailure] at hplays
    exact ⟨_, .request hwait (tablePages_page hfetch) hplays.andThen_stop⟩
  | none =>
    rw [hfailure] at hplays
    rw [Option.none_or]
    exact ⟨_, .request hwait (tablePages_page hfetch) (hplays.andThen hlater)⟩

theorem tablePages_plays {token : String} {tables : List Table} {tableFailure : Option String}
    (htables : Pages (fetchTables serve docId) token tables tableFailure)
    (hcolumns : ∀ table ∈ tables, Pages (fetchColumns serve docId table.id) ""
      (columns table.id) (failure table.id))
    (includeSystemColumns : Bool) (all : List (Table × List Column)) :
    ∃ sent, Plays serve (tablePages docId includeSystemColumns all token)
      (failedOr ((tables.findSome? fun table => failure table.id).or tableFailure)
        (all ++ listedTables columns includeSystemColumns tables)) sent := by
  induction htables generalizing all with
  | @failed token e hfetch =>
    unfold fetchTables at hfetch
    refine ⟨_, .request (by rw [tablePages]) (fun more => ?_) (.stop (.error (.failed e)))⟩
    rw [tablePages]
    simp only [hfetch]
  | @last token page hfetch hlast =>
    have hend : Plays serve (afterPage docId includeSystemColumns all page
        (listedTables columns includeSystemColumns page.items))
        (.ok (all ++ listedTables columns includeSystemColumns page.items)) [] := by
      unfold afterPage
      simp only [hlast, if_true]
      exact .stop _
    exact tablePages_cons hfetch hcolumns hend
  | @next token page items tableFailure hfetch hmore _ ih =>
    obtain ⟨later, hlater⟩ := ih
      (fun table htable => hcolumns table (List.mem_append_right _ htable))
      (all ++ listedTables columns includeSystemColumns page.items)
    rw [List.append_assoc] at hlater
    rw [List.findSome?_append, Option.or_assoc, listedTables, List.map_append]
    apply tablePages_cons hfetch fun table htable =>
      hcolumns table (List.mem_append_left _ htable)
    unfold afterPage
    simp only [hmore]
    exact hlater

/-- The catalog of the listed tables. -/
def catalogImage (columns : String → List Column) (includeSystemColumns : Bool)
    (tables : List Table) : List RustExtCatalogTable :=
  tables.map fun table =>
    ffiCatalogTable table (listedColumns includeSystemColumns (columns table.id))

theorem loadCatalog_plays {newClient : ClientConfig → Except String Unit} {config : ClientConfig}
    {tables : List Table} {tableFailure : Option String} (hclient : newClient config = .ok ())
    (htables : Pages (fetchTables serve config.resource) "" tables tableFailure)
    (hcolumns : ∀ table ∈ tables, Pages (fetchColumns serve config.resource table.id) ""
      (columns table.id) (failure table.id)) :
    ∃ sent, Plays serve (loadCatalog newClient config)
      (failedOr ((tables.findSome? fun table => failure table.id).or tableFailure)
        (catalogImage columns config.includeSystemColumns tables)) sent := by
  obtain ⟨sent, hplays⟩ := tablePages_plays htables hcolumns config.includeSystemColumns []
  have hcatalog := hplays.map fun loaded =>
    loaded.map fun entry => ffiCatalogTable entry.1 entry.2
  rw [failedOr_map, List.nil_append, listedTables, List.map_map] at hcatalog
  refine ⟨sent, ?_⟩
  unfold loadCatalog
  simp only [hclient]
  exact hcatalog

end

/-- **The catalog is the image of the listings**: whatever the pages, the dialogue with the server
ends; its result is every table of every page with all its columns, or an error. -/
theorem loadCatalog_image {newClient : ClientConfig → Except String Unit} {config : ClientConfig}
    {tables : List Table} {tableFailure : Option String} {columns : String → List Column}
    {columnFailure : String → Option String}
    (htables : Pages (fetchTables serve config.resource) "" tables tableFailure)
    (hcolumns : ∀ table ∈ tables, Pages (fetchColumns serve config.resource table.id) ""
      (columns table.id) (columnFailure table.id)) :
    ∃ replies,
      (∀ seen, Dialogue serve (loadCatalog newClient config) seen ↔ seen <+: replies) ∧
      (newClient config = .ok () → tableFailure = none →
        (∀ table ∈ tables, columnFailure table.id = none) →
        (loadCatalog newClient config replies).result =
          .ok (catalogImage columns config.includeSystemColumns tables)) ∧
      ((∃ e, newClient config = .error e) ∨ tableFailure ≠ none ∨
          (∃ table ∈ tables, columnFailure table.id ≠ none) →
        ∃ e, (loadCatalog newClient config replies).result = .error (.failed e)) ∧
      ∀ table ∈ tables, List.Forall₂
        (fun listed named => named = { listed with name := named.name })
        (if config.includeSystemColumns then appendRowMetadata (columns table.id)
          else columns table.id)
        (listedColumns config.includeSystemColumns (columns table.id)) := by
  have hfields : ∀ table ∈ tables, List.Forall₂
      (fun listed named => named = { listed with name := named.name })
      (if config.includeSystemColumns then appendRowMetadata (columns table.id)
        else columns table.id)
      (listedColumns config.includeSystemColumns (columns table.id)) :=
    fun table _ => prepareColumns_fields _
  cases hclient : newClient config with
  | error e =>
    -- without a client nothing is sent
    have hplays : Plays serve (loadCatalog newClient config) (.error (.failed e)) [] := by
      unfold loadCatalog
      simp only [hclient]
      exact .stop _
    refine ⟨[], hplays.dialogue_iff (by simp), by simp, fun _ => ⟨e, ?_⟩, hfields⟩
    exact congrArg CatalogCall.result (hplays.ends [])
  | ok _ =>
    obtain ⟨sent, hplays⟩ := loadCatalog_plays hclient htables hcolumns
    have hresult := congrArg CatalogCall.result (hplays.ends [])
    rw [List.append_nil] at hresult
    refine ⟨sent.map serve, hplays.dialogue_iff (failedOr_ne_waiting _ _), ?_, ?_, hfields⟩
    · intro _ htable hcolumn
      have hnone : (tables.findSome? fun table => columnFailure table.id) = none :=
        List.findSome?_eq_none_iff.2 hcolumn
      rw [hresult, hnone, htable]
      rfl
    · intro hfailure
      rw [hresult]
      cases houtcome : (tables.findSome? fun table => columnFailure table.id).or tableFailure with
      | some e => exact ⟨e, rfl⟩
      | none =>
        rw [Option.or_eq_none_iff, List.findSome?_eq_none_iff] at houtcome
        rcases hfailure with ⟨e, he⟩ | htable | ⟨table, htable, hcolumn⟩
        · cases he
        · exact absurd houtcome.2 htable
        · exact absurd (houtcome.1 table htable) hcolumn

end

/-! ## Listings over several pages -/

section
open Json.Reference Reference

def nameColumn : Column := formatColumn "c1" "Name" "text" false
def sizeColumn : Column := formatColumn "c2" "Name" "number" false

/-- A document with two tables on two pages; the columns of the first are on two pages, too, and
have one name. -/
def pagedServer : CatalogInput → Reply
  | .tables input =>
    if input.pageToken = none then reply 200 (listingPage [tableJson (listedTable "t1" "Tasks")] "p2")
    else reply 200 (listingPage [tableJson (listedTable "t2" "Notes")] "")
  | .columns input =>
    if input.tableIdOrName = "t2" then reply 200 (listingPage [] "")
    else if input.pageToken = none then reply 200 (listingPage [columnJson nameColumn] "q2")
    else reply 200 (listingPage [columnJson sizeColumn] "")

def pagedColumns (tableId : String) : List Column :=
  if tableId = "t2" then [] else [nameColumn, sizeColumn]

theorem fetchTables_page {serve : CatalogInput → Reply} {docId token : String}
    {items : List (String × String)} {next : String}
    (h : serve (.tables (listTablesInput docId token)) =
      reply 200 (listingPage (items.map fun item => tableJson (listedTable item.1 item.2)) next)) :
    fetchTables serve docId token =
      .ok { items := items.map fun item => listedTable item.1 item.2, nextPageToken := next } := by
  rw [fetchTables, h, execute_reply]
  exact tables_page items next

theorem fetchColumns_page {serve : CatalogInput → Reply} {docId tableId token : String}
    {columns : List Column} {next : String}
    (h : serve (.columns (listColumnsInput docId tableId token)) =
      reply 200 (listingPage (columns.map columnJson) next))
    (hcolumns : ∀ column ∈ columns,
      column = formatColumn column.id column.name column.formatType column.isArray) :
    fetchColumns serve docId tableId token = .ok { items := columns, nextPageToken := next } := by
  rw [fetchColumns, h, execute_reply]
  exact columns_page hcolumns next

theorem pages_tables : Pages (fetchTables pagedServer "doc") ""
    [listedTable "t1" "Tasks", listedTable "t2" "Notes"] none :=
  .next (fetchTables_page (show _ = reply 200 (listingPage ([("t1", "Tasks")].map _) "p2") from rfl))
    rfl (.last (fetchTables_page
      (show _ = reply 200 (listingPage ([("t2", "Notes")].map _) "") from rfl)) rfl)

theorem pages_columns (tableId : String) :
    Pages (fetchColumns pagedServer "doc" tableId) "" (pagedColumns tableId) none := by
  unfold pagedColumns
  split
  · rename_i htable
    have hpage : pagedServer (.columns (listColumnsInput "doc" tableId "")) =
        reply 200 (listingPage ([].map columnJson) "") := if_pos htable
    exact .last (fetchColumns_page hpage (by simp)) rfl
  · rename_i htable
    have hfirst : pagedServer (.columns (listColumnsInput "doc" tableId "")) =
        reply 200 (listingPage ([nameColumn].map columnJson) "q2") := if_neg htable
    have hsecond : pagedServer (.columns (listColumnsInput "doc" tableId "q2")) =
        reply 200 (listingPage ([sizeColumn].map columnJson) "") := if_neg htable
    exact .next (fetchColumns_page hfirst (by simp [nameColumn, formatColumn])) rfl
      (.last (fetchColumns_page hsecond (by simp [sizeColumn, formatColumn])) rfl)

/-- The columns of both pages are renamed together, and the metadata come last. -/
theorem loadCatalog_image_pages : ∃ replies,
    Dialogue pagedServer
      (loadCatalog (fun _ => .ok ()) { config with includeSystemColumns := true }) replies ∧
    (loadCatalog (fun _ => .ok ()) { config with includeSystemColumns := true } replies).result =
      .ok [
        ffiCatalogTable (listedTable "t1" "Tasks") [nameColumn, { sizeColumn with name := "Name_2" },
          rowMetadataColumn "createdAt", rowMetadataColumn "updatedAt"],
        ffiCatalogTable (listedTable "t2" "Notes")
          [rowMetadataColumn "createdAt", rowMetadataColumn "updatedAt"]] := by
  obtain ⟨replies, hdialogue, hresult, -⟩ := @loadCatalog_image _ pagedServer (fun _ => .ok ())
    { config with includeSystemColumns := true } _ _ pagedColumns (fun _ => none) pages_tables
    fun table _ => pages_columns table.id
  refine ⟨replies, (hdialogue replies).2 (List.prefix_refl replies), ?_⟩
  have htasks : listedColumns true (pagedColumns "t1") = [nameColumn,
      { sizeColumn with name := "Name_2" }, rowMetadataColumn "createdAt",
      rowMetadataColumn "updatedAt"] := by decide +kernel
  have hnotes : listedColumns true (pagedColumns "t2") =
      [rowMetadataColumn "createdAt", rowMetadataColumn "updatedAt"] := by decide +kernel
  rw [hresult rfl rfl fun _ _ => rfl, ← htasks, ← hnotes]
  rfl

end

end SuperhumanDocs
