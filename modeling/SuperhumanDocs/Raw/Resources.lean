import SuperhumanDocs.Bridge.Reference
import SuperhumanDocs.Memory.Owner
import SuperhumanDocs.Proof.RawCatalog
import SuperhumanDocs.Raw.Session

/-!
# The owning classes of the bridge

C++ holds a catalog, a batch, a scan handle and an attach config each in a class of its own, which
can be moved but not copied.

* `resources_run`: whatever is done with variables of one of these classes, what they show is what
  values that move would show, and at the end of their scope the heap is as it was.
-/

set_option autoImplicit false

namespace SuperhumanDocs.Raw

open Memory

section
variable [Allocator Block]

/-- `RustBridgeCatalogResponse`, which shows the names of its tables. -/
def rustBridgeCatalogResponse :
    Owner Block RustExtCatalog (List (Table × List Column)) (List String) where
  empty := { tables := none, tableCount := 0 }
  make := ffiCatalog
  observe catalog := do
    let tables ← sliceFromRawParts RustExtCatalogTable catalog.tables catalog.tableCount
    tables.mapM fun table => rustBridgeString table.name
  reset := freeCatalog

/-- `RustBridgeScanBatch`, which shows the ids of its rows and whether it is the last. -/
def rustBridgeScanBatch :
    Owner Block RustExtScanBatch (List Row × Bool) (List String × Bool) where
  empty := .default
  make batch := ffiScanBatch batch.1 batch.2
  observe batch := do
    let rows ← sliceFromRawParts RustExtScanRow batch.rows batch.rowCount
    return (← rows.mapM fun row => rustBridgeString row.rowId, batch.finished)
  reset := freeScanBatch

/-- `RustBridgeScanHandle`, which shows the state of its scan. -/
def rustBridgeScanHandle : Owner Block (Option ℕ) ScanHandle (Option ScanHandle) where
  empty := none
  make scan := do return some (← box Block scan)
  observe
    | none => pure none
    | some address => do return some (← deref ScanHandle address)
  reset := dropHandle ScanHandle

/-- `RustBridgeAttachConfig`, which shows the name of the database. -/
def rustBridgeAttachConfig : Owner Block RustExtAttachConfig ClientConfig String where
  empty := { handle := none, databaseName := .default }
  make config := do return attachConfigRecord (← box Block config) config
  observe config := rustBridgeString config.databaseName
  reset := freeAttachConfig

/-! ## What their variables hold -/

/-- The names of the tables of a response. -/
def shownTables (value : Option (List (Table × List Column))) : List String :=
  (value.getD []).map (·.1.name)

def shownBatch (value : Option (List Row × Bool)) : List String × Bool :=
  ((value.getD ([], false)).1.map Row.id, (value.getD ([], false)).2)

def shownDatabase (value : Option ClientConfig) : String :=
  (value.map ClientConfig.resource).getD ""

theorem rustBridgeCatalogResponse_lawful : rustBridgeCatalogResponse.Lawful
    (fun raw value own => IsCatalog raw (value.getD []) own) shownTables where
  empty := .empty
  make := ffiCatalog_spec
  reset _ _ _ h := h.free
  observe raw value own h := by
    refine (IsSlice.read h).bind ?_
    rintro records _ ⟨rfl, own₁, own₂, rfl, hrecords⟩
    refine (hrecords.mapM_read fun record table own hrecord => ?_).leaves_frame own₂
    obtain ⟨address, parts, columns, rfl, -, rfl⟩ := hrecord
    exact (borrowString_asStr rfl).leaves_frame columns

theorem rustBridgeScanBatch_lawful : rustBridgeScanBatch.Lawful
    (fun raw value own => raw.finished = (value.getD ([], false)).2 ∧
      IsBatch raw (value.getD ([], false)).1 own) shownBatch where
  empty := ⟨rfl, isBatch_default⟩
  make batch := ffiScanBatch_spec batch.1 batch.2
  reset _ _ _ h := h.2.free
  observe raw value own h := by
    obtain ⟨hfinished, hbatch⟩ := h
    refine (IsSlice.read hbatch).bind ?_
    rintro records _ ⟨rfl, own₁, own₂, rfl, hrecords⟩
    refine ((hrecords.mapM_read (g := Row.id) fun record row own hrecord => ?_).leaves_frame
      own₂).leaves_bind (Triple.pure ⟨?_, rfl⟩)
    · obtain ⟨address, rfl, rfl⟩ := hrecord
      exact borrowString_asStr rfl
    · rw [hfinished, shownBatch]

/-- A handle variable: null, or the address of its scan. -/
inductive IsHandle : Option ℕ → Option ScanHandle → Owned Block → Prop
  | null : IsHandle none none 0
  | scan (address : ℕ) (scan : ScanHandle) :
    IsHandle (some address) (some scan) (cell address (.scan scan))

theorem rustBridgeScanHandle_lawful : rustBridgeScanHandle.Lawful IsHandle id where
  empty := .null
  make scan := (Triple.alloc (Block.scan scan)).bind fun address _ hown =>
    Triple.pure (hown ▸ .scan address scan)
  reset raw value own h := by
    cases h with
    | null => exact Triple.pure ⟨rfl, rfl⟩
    | scan address scan => exact dropHandle_spec address scan
  observe raw value own h := by
    cases h with
    | null => exact Triple.pure ⟨rfl, rfl⟩
    | scan address scan =>
      exact (Triple.deref (β := Block) address scan).leaves_bind (Triple.pure ⟨rfl, rfl⟩)

/-- A config variable: empty, or the record of its config. -/
inductive IsAttachConfig : RustExtAttachConfig → Option ClientConfig → Owned Block → Prop
  | empty : IsAttachConfig { handle := none, databaseName := .default } none 0
  | config (address : ℕ) (config : ClientConfig) :
    IsAttachConfig (attachConfigRecord address config) (some config)
      (cell address (.config config))

theorem rustBridgeAttachConfig_lawful :
    rustBridgeAttachConfig.Lawful IsAttachConfig shownDatabase where
  empty := .empty
  make config := (Triple.alloc (Block.config config)).bind fun address _ hown =>
    Triple.pure (hown ▸ .config address config)
  reset raw value own h := by
    cases h with
    | empty => exact Triple.pure ⟨rfl, rfl⟩
    | config address config => exact dropHandle_spec address config
  observe raw value own h := by
    cases h with
    | empty => exact Triple.pure ⟨rfl, rfl⟩
    | config address config => exact borrowString_asStr rfl

/-- What a scope observes and throws when its values only move. -/
def movedResult {ε α δ : Type} (view : Option α → δ) (statements : List (Statement ε α)) :
    ProgramResult ε δ where
  observed := (Statement.run statements []).observed.map view
  thrown := (Statement.run statements []).thrown

/-- **The classes of the bridge own what they hold**: however their variables are made, moved and
destroyed, also when making one throws, they show the values that moved into them, and the heap is
restored at the end of the scope. -/
theorem resources_run {ε : Type} (heap : Heap Block) :
    (∀ statements : List (Statement ε (List (Table × List Column))),
      rustBridgeCatalogResponse.run statements [] heap =
        some (movedResult shownTables statements, heap)) ∧
    (∀ statements : List (Statement ε (List Row × Bool)),
      rustBridgeScanBatch.run statements [] heap =
        some (movedResult shownBatch statements, heap)) ∧
    (∀ statements : List (Statement ε ScanHandle),
      rustBridgeScanHandle.run statements [] heap = some (movedResult id statements, heap)) ∧
    ∀ statements : List (Statement ε ClientConfig),
      rustBridgeAttachConfig.run statements [] heap =
        some (movedResult shownDatabase statements, heap) :=
  ⟨fun statements => (rustBridgeCatalogResponse_lawful.run_spec .nil statements).restores heap,
    fun statements => (rustBridgeScanBatch_lawful.run_spec .nil statements).restores heap,
    fun statements => (rustBridgeScanHandle_lawful.run_spec .nil statements).restores heap,
    fun statements => (rustBridgeAttachConfig_lawful.run_spec .nil statements).restores heap⟩

end

/-! ## A scope -/

open Json.Reference Memory.Bump Reference

/-- A variable is moved from, moved back, overwritten by itself and by another value, and the scope
ends with an exception. -/
def moves {α : Type} (first second : α) : List (Statement String α) :=
  [.construct (.ok first), .moveConstruct 0, .observe 0, .observe 1, .moveAssign 0 1, .observe 0,
    .moveAssign 0 0, .assign 0 (.ok second), .observe 0, .destroy 1, .assign 0 (.error "lost"),
    .observe 0]

theorem resources_run_moves :
    rustBridgeCatalogResponse.run (moves [(table, [textColumn "c1"])] []) [] (∅ : Heap Block) =
      some ({ observed := [[], ["Tasks"], ["Tasks"], []], thrown := some "lost" }, ∅) ∧
    rustBridgeScanBatch.run (moves ([namedRow ("r1", false)], false) ([], true)) []
        (∅ : Heap Block) =
      some ({ observed := [([], false), (["r1"], false), (["r1"], false), ([], true)]
              thrown := some "lost" }, ∅) ∧
    rustBridgeScanHandle.run (moves (scanState 0).scan (scanState 7).scan) [] (∅ : Heap Block) =
      some ({ observed := [none, some (scanState 0).scan, some (scanState 0).scan,
                some (scanState 7).scan]
              thrown := some "lost" }, ∅) ∧
    rustBridgeAttachConfig.run (moves config { config with resource := "other" }) []
        (∅ : Heap Block) =
      some ({ observed := ["", "doc", "doc", "other"], thrown := some "lost" }, ∅) := by
  obtain ⟨hcatalog, hbatch, hhandle, hconfig⟩ := resources_run (ε := String) (∅ : Heap Block)
  exact ⟨hcatalog _, hbatch _, hhandle _, hconfig _⟩

end SuperhumanDocs.Raw
