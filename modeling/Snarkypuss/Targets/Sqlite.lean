import Snarkypuss.Calls.Program
import Snarkypuss.Targets.Repository
import Snarkypuss.Targets.SelectorJson

/-!
# The SQLite repository

The database file as its two tables with their declared keys and checks, the statements that the
repository runs on them, and the repository as programs over these statements. A transaction
works on a copy of the tables, which a commit makes the committed ones and which a rollback or
the end of the connection drops. Any statement may be refused by the database, for a reason that
is up to it: a lock, a full disk, an error of the device.

## Main definitions

* `TargetRow`, `Database`: the tables, with their constraints as fields
* `SqlCall`, `sql`: the statements
* `Connection`, `sqlite`: what the statements act on, with a database that may refuse them
* `SqliteTargetRepository.getCatalogue`, `SqliteTargetRepository.replaceCatalogue`: the methods
* `SqliteTargetRepository`: a handler of the repository's calls
-/

namespace Snarkypuss

/-! ## Tables -/

/-- A row of the table `targets`. -/
structure TargetRow where
  provider : String
  «alias» : String
  label : String
  position : Int
  selectorJson : String
  deriving DecidableEq

/-- The tables `provider_catalogues` and `targets`, with their checks and keys. -/
structure Database where
  revisions : Dict String Int
  targets : List TargetRow
  revision_check : ∀ p r, revisions.get? p = some r → 0 ≤ r
  position_check : ∀ row ∈ targets, 0 ≤ row.position
  selector_check : ∀ row ∈ targets, row.selectorJson.length ≤ 4096
  alias_key : (targets.map fun row => (row.provider, row.alias)).Nodup
  position_key : (targets.map fun row => (row.provider, row.position)).Nodup
  provider_key : ∀ row ∈ targets, row.provider ∈ revisions.keys

namespace Database

/-- The tables of a new database. -/
def empty : Database where
  revisions := .empty
  targets := []
  revision_check := nofun
  position_check := nofun
  selector_check := nofun
  alias_key := .nil
  position_key := .nil
  provider_key := nofun

/-- The tables with the revision of a provider set. -/
def setRevision (db : Database) (p : String) (r : Int) (hr : 0 ≤ r) : Database where
  revisions := db.revisions.insert p r
  targets := db.targets
  revision_check p' r' h := by
    rw [Dict.get?_insert] at h
    split at h
    · cases h
      exact hr
    · exact db.revision_check p' r' h
  position_check := db.position_check
  selector_check := db.selector_check
  alias_key := db.alias_key
  position_key := db.position_key
  provider_key row hrow := Dict.mem_keys_insert.mpr (.inr (db.provider_key row hrow))

/-- `INSERT INTO provider_catalogues (provider, revision) VALUES (?, ?)`. -/
def insertRevision (db : Database) (p : String) (r : Int) : Except String Database :=
  if p ∈ db.revisions.keys then .error "UNIQUE constraint failed: provider_catalogues.provider"
  else if hr : 0 ≤ r then .ok (db.setRevision p r hr)
  else .error "CHECK constraint failed: revision >= 0"

/-- `UPDATE provider_catalogues SET revision = ? WHERE provider = ?`. -/
def updateRevision (db : Database) (r : Int) (p : String) : Except String Database :=
  if p ∈ db.revisions.keys then
    if hr : 0 ≤ r then .ok (db.setRevision p r hr)
    else .error "CHECK constraint failed: revision >= 0"
  else .ok db

/-- `DELETE FROM targets WHERE provider = ?`. -/
def deleteTargets (db : Database) (p : String) : Database where
  revisions := db.revisions
  targets := db.targets.filter (·.provider ≠ p)
  revision_check := db.revision_check
  position_check row hrow := db.position_check row (List.mem_of_mem_filter hrow)
  selector_check row hrow := db.selector_check row (List.mem_of_mem_filter hrow)
  alias_key := db.alias_key.sublist (List.filter_sublist.map _)
  position_key := db.position_key.sublist (List.filter_sublist.map _)
  provider_key row hrow := db.provider_key row (List.mem_of_mem_filter hrow)

theorem nodup_append_singleton {A B : Type} {f : A → B} {as : List A} {a : A}
    (h : (as.map f).Nodup) (ha : f a ∉ as.map f) : ((as ++ [a]).map f).Nodup := by
  rw [List.map_append]
  refine List.nodup_append.mpr ⟨h, List.nodup_singleton _, ?_⟩
  rintro x hx y hy rfl
  obtain rfl := List.mem_singleton.mp hy
  exact ha hx

theorem forall_mem_append_singleton {A : Type} {P : A → Prop} {as : List A} {a : A}
    (h : ∀ x ∈ as, P x) (ha : P a) : ∀ x ∈ as ++ [a], P x := by
  intro x hx
  rcases List.mem_append.mp hx with hx | hx
  · exact h x hx
  · obtain rfl := List.mem_singleton.mp hx
    exact ha

/-- The constraints that a new row has to meet. -/
structure Accepts (db : Database) (row : TargetRow) : Prop where
  position_check : 0 ≤ row.position
  selector_check : row.selectorJson.length ≤ 4096
  alias_key : (row.provider, row.alias) ∉ db.targets.map fun row => (row.provider, row.alias)
  position_key : (row.provider, row.position) ∉ db.targets.map fun row => (row.provider, row.position)
  provider_key : row.provider ∈ db.revisions.keys

/-- The tables with one more row. -/
def addTarget (db : Database) (row : TargetRow) (h : db.Accepts row) : Database where
  revisions := db.revisions
  targets := db.targets ++ [row]
  revision_check := db.revision_check
  position_check := forall_mem_append_singleton db.position_check h.position_check
  selector_check := forall_mem_append_singleton db.selector_check h.selector_check
  alias_key := nodup_append_singleton db.alias_key h.alias_key
  position_key := nodup_append_singleton db.position_key h.position_key
  provider_key := forall_mem_append_singleton db.provider_key h.provider_key

/-- `INSERT INTO targets (provider, alias, label, position, selector_json) VALUES (?, ?, ?, ?, ?)`. -/
def insertTarget (db : Database) (row : TargetRow) : Except String Database :=
  if h₁ : 0 ≤ row.position then
    if h₂ : row.selectorJson.length ≤ 4096 then
      if h₃ : (row.provider, row.alias) ∉ db.targets.map fun row => (row.provider, row.alias) then
        if h₄ : (row.provider, row.position) ∉
            db.targets.map fun row => (row.provider, row.position) then
          if h₅ : row.provider ∈ db.revisions.keys then .ok (db.addTarget row ⟨h₁, h₂, h₃, h₄, h₅⟩)
          else .error "FOREIGN KEY constraint failed"
        else .error "UNIQUE constraint failed: targets.provider, targets.position"
      else .error "UNIQUE constraint failed: targets.provider, targets.alias"
    else .error "CHECK constraint failed: length(selector_json) <= 4096"
  else .error "CHECK constraint failed: position >= 0"

/-- The rows of a provider, in the order in which they were inserted. -/
def rows (db : Database) (p : String) : List TargetRow := db.targets.filter (·.provider = p)

/-- `SELECT … FROM targets WHERE provider = ? ORDER BY position`. -/
def selectTargets (db : Database) (p : String) : List TargetRow :=
  (db.rows p).insertionSort fun row row' => row.position ≤ row'.position

end Database

/-! ## Statements -/

/-- The calls of a connection. `connect` is the connection with its pragmas, and each row of an
`executemany` is a statement of its own. -/
inductive SqlCall
  | connect
  | beginImmediate
  | selectRevision (provider : String)
  | selectTargets (provider : String)
  | insertRevision (provider : String) (revision : Int)
  | updateRevision (revision : Int) (provider : String)
  | deleteTargets (provider : String)
  | insertTarget (row : TargetRow)
  | commit
  | rollback
  | close

@[reducible] def SqlCall.Reply : SqlCall → Type
  | selectRevision _ => Option Int
  | selectTargets _ => List TargetRow
  | _ => Unit

/-- The interface of a connection. -/
abbrev sql : Interface := ⟨SqlCall, SqlCall.Reply⟩

/-- The committed tables, those of the open transaction, and the state of whatever makes the
database refuse statements. -/
structure Connection (σ : Type) where
  committed : Database
  transaction : Option Database
  faults : σ

/-- What makes the database refuse a statement, with the message of the `sqlite3.Error`. -/
abbrev Faults (σ : Type) := SqlCall → σ → Option String × σ

/-- A database that refuses nothing. -/
def faultless : Faults Unit := fun _ _ => (none, ())

namespace Connection

variable {σ : Type} (s : Connection σ)

/-- The tables that the connection sees. -/
def current : Database := s.transaction.getD s.committed

/-- A statement that changes the tables of the transaction, or is refused by their constraints. -/
def change (r : Except String Database) : Except PyException Unit × Connection σ :=
  match r with
  | .ok db => (.ok (), { s with transaction := some db })
  | .error message => (.error (.sqlite message), s)

/-- A statement that the database does not refuse. -/
def accept : (c : SqlCall) → Except PyException c.Reply × Connection σ
  | .connect => (.ok (), { s with transaction := none })
  | .beginImmediate => (.ok (), { s with transaction := some s.committed })
  | .selectRevision p => (.ok (s.current.revisions.get? p), s)
  | .selectTargets p => (.ok (s.current.selectTargets p), s)
  | .insertRevision p r => s.change (s.current.insertRevision p r)
  | .updateRevision r p => s.change (s.current.updateRevision r p)
  | .deleteTargets p => s.change (.ok (s.current.deleteTargets p))
  | .insertTarget row => s.change (s.current.insertTarget row)
  | .commit => (.ok (), { s with committed := s.current, transaction := none })
  | .rollback => (.ok (), { s with transaction := none })
  | .close => (.ok (), { s with transaction := none })

end Connection

/-- The database. Closing a connection is never refused, and drops an open transaction. -/
def sqlite {σ : Type} (faults : Faults σ) : Handler sql PyException (Connection σ)
  | .close, s => s.accept .close
  | c, s =>
    match faults c s.faults with
    | (some message, w) => (.error (.sqlite message), { s with faults := w })
    | (none, w) => { s with faults := w }.accept c

/-! ## The repository -/

namespace SqliteTargetRepository

abbrev Sql (A : Type) := Program sql PyException A

abbrev call (c : SqlCall) : Sql c.Reply := Program.call (I := sql) c

def maxSelectorJsonBytes : Nat := 4096

/-- `except sqlite3.Error as exc`. -/
def sqliteError : PyException → Option String
  | .sqlite message => some message
  | _ => none

def storageFailed (message : String) : PyException := .repository "CATALOG_STORAGE_FAILED" message

/-- `_connect`. -/
def connect : Sql Unit := do
  match ← (call .connect).attempt sqliteError with
  | .ok () => pure ()
  | .error message => Program.raise (storageFailed message)

/-- The exceptions that make a stored catalogue invalid. -/
def invalidCatalogue {A : Type} : Except PyException A → Except PyException A
  | .error .jsonDecode => .error (storageFailed "Stored catalogue is invalid.")
  | .error .validation => .error (storageFailed "Stored catalogue is invalid.")
  | r => r

variable (interpreter : Python.Interpreter) (lax : Json → Option JsonScalar)

/-- The `StoredTarget` of a row. -/
def readTarget (row : TargetRow) : Except PyException StoredTarget := do
  let document ← Python.loads interpreter row.selectorJson
  match readSelector lax document with
  | none => .error .validation
  | some selector => StoredTarget.validate row.alias row.label row.position selector

/-- The catalogue of a revision and its rows. -/
def readCatalogue (provider : String) (revision : Int) (rows : List TargetRow) :
    Except PyException TargetCatalogue :=
  invalidCatalogue do
    let targets ← rows.mapM (readTarget interpreter lax)
    TargetCatalogue.validate provider revision targets

/-- The two queries of `get_catalogue`: nothing when the provider has no revision. -/
def queryCatalogue (provider : String) : Sql (Option (Int × List TargetRow)) := do
  connect
  match ← call (.selectRevision provider) with
  | none => pure none
  | some revision => do
    let rows ← call (.selectTargets provider)
    pure (some (revision, rows))

/-- `get_catalogue`. -/
def getCatalogue (provider : String) : Sql TargetCatalogue := do
  match ← (queryCatalogue provider).attempt sqliteError with
  | .error message => Program.raise (storageFailed message)
  | .ok none => Program.done (TargetCatalogue.validate provider 0 [])
  | .ok (some (revision, rows)) =>
    Program.done (readCatalogue interpreter lax provider revision rows)

/-- The binding of an integer parameter. -/
def bindInteger (n : Int) : Except PyException Int :=
  if n < 2 ^ 63 then .ok n else .error (.other "OverflowError")

/-- The row of a target. -/
def targetRow (provider : String) (target : StoredTarget) (selector : String) : TargetRow where
  provider := provider
  «alias» := target.alias
  label := target.label
  position := target.position
  selectorJson := selector

/-- `executemany` of the insertion. -/
def insertTargets : List TargetRow → Sql Unit
  | [] => pure ()
  | row :: rows => do
    call (.insertTarget row)
    insertTargets rows

/-- The `try` block of `replace_catalogue`. -/
def replaceTransaction (candidate : TargetCatalogue) (expectedRevision : Int)
    (encoded : List String) : Sql TargetCatalogue := do
  call .beginImmediate
  let row ← call (.selectRevision candidate.provider)
  if row.getD 0 ≠ expectedRevision then Program.raise catalogConflict
  else do
    let revision ← Program.done (bindInteger candidate.revision)
    match row with
    | none => call (.insertRevision candidate.provider revision)
    | some _ => do
      call (.updateRevision revision candidate.provider)
      call (.deleteTargets candidate.provider)
    insertTargets (candidate.targets.zipWith (targetRow candidate.provider) encoded)
    call .commit
    pure candidate

/-- The exceptions after which a replacement is rolled back. -/
def rolledBack : PyException → Option PyException
  | .repository code message => some (.repository code message)
  | .sqlite message => some (storageFailed message)
  | _ => none

/-- `replace_catalogue`. -/
def replaceCatalogue (provider : String) (expectedRevision : Int) (targets : List StoredTarget) :
    Sql TargetCatalogue := do
  let candidate ← Program.done (TargetCatalogue.validate provider (expectedRevision + 1) targets)
  let encoded ← Program.done (candidate.targets.mapM fun target => encodeSelector target.selector)
  if encoded.any (fun text => maxSelectorJsonBytes < text.utf8ByteSize) then
    Program.raise (.repository "INVALID_CATALOG" "A selector document is too large.")
  else do
    connect
    Program.finally_ (do
      match ← (replaceTransaction candidate expectedRevision encoded).attempt rolledBack with
      | .ok candidate => pure candidate
      | .error e => do
        call .rollback
        Program.raise e) (call .close)

/-- The program of each call of the repository. -/
def program : (c : RepositoryCall) → Sql TargetCatalogue
  | .getCatalogue provider => getCatalogue interpreter lax provider
  | .replaceCatalogue provider expectedRevision targets =>
    replaceCatalogue provider expectedRevision targets

end SqliteTargetRepository

/-- The repository over a database. -/
def SqliteTargetRepository {σ : Type} (interpreter : Python.Interpreter)
    (lax : Json → Option JsonScalar) (faults : Faults σ) :
    Handler targetRepository PyException (Connection σ) :=
  Program.handlerOf (SqliteTargetRepository.program interpreter lax) (sqlite faults)

end Snarkypuss
