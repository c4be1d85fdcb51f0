import Snarkypuss.Calls.Histories
import Snarkypuss.Files.Tree
import Snarkypuss.Targets.Sqlite

/-!
# Creating databases and backups

`initialize_database` and `backup_database` with the methods of `SqliteTargetRepository` that they
call, over the calls that reach the disk. A statement outside a transaction is committed at once;
an inserted row waits for the commit. A transaction that is open when its connection is closed, or
when the process ends, is dropped.

Two paths name two files, and directories have nothing that is looked at. A path that is a
symbolic link is refused before anything else is asked of it.

## Main definitions

* `Contents`, `Entry`, `Disk`: database files, what is at a path, and the disk
* `LifecycleCall`, `lifecycle`: the calls
* `Machine`, `host`: the calls when they are answered as they should be
* `initializeRepository`, `backup`: the methods of the repository
* `initializeDatabase`, `backupDatabase`
* `Creation`: either of the two, with its destination
-/

namespace Snarkypuss.Lifecycle

open Python Program

/-! ## The disk -/

/-- The tables of the schema. -/
inductive Table
  | schemaMetadata
  | providerCatalogues
  | targets
  deriving DecidableEq

/-- `SCHEMA`, whose statements are run one by one. -/
def schema : List Table := [.schemaMetadata, .providerCatalogues, .targets]

/-- `str(SCHEMA_VERSION)`. -/
def schemaVersion : String := "1"

/-- What is committed in a database file: its tables, the row of the schema's version, and the
catalogues. -/
structure Contents where
  tables : List Table
  version : Option String
  catalogues : Database

/-- A database without tables. -/
def Contents.blank : Contents := ⟨[], none, .empty⟩

/-- A database with the schema and no catalogue. -/
def Contents.initial : Contents := ⟨schema, some schemaVersion, .empty⟩

/-- The contents that the constructor of the repository accepts. -/
def Contents.Accepted (contents : Contents) : Prop :=
  .schemaMetadata ∈ contents.tables ∧ contents.version = some schemaVersion

instance (contents : Contents) : Decidable contents.Accepted :=
  inferInstanceAs (Decidable (_ ∧ _))

structure Attributes where
  mode : Fin 4096
  uid : ℕ
  gid : ℕ
  deriving DecidableEq

/-- What is at a path. A file without contents is no database. -/
inductive Entry
  | file (contents : Option Contents) (attributes : Attributes)
  | directory
  | symlink
  | other

/-- What `lstat` tells. -/
inductive Status
  | regular (attributes : Attributes)
  | directory
  | symlink
  | other
  deriving DecidableEq

def Entry.status : Entry → Status
  | file _ attributes => .regular attributes
  | directory => .directory
  | symlink => .symlink
  | other => .other

/-- The disk, and for each path the version that an open transaction has inserted there. -/
structure Disk where
  nodes : PosixPath → Option Entry
  pending : PosixPath → Option String

namespace Disk

variable (s : Disk)

/-- The disk with another entry at a path. -/
def put (p : PosixPath) (entry : Entry) : Disk :=
  { s with nodes := Function.update s.nodes p (some entry) }

/-- The disk with another pending version at a path. -/
def hold (p : PosixPath) (version : Option String) : Disk :=
  { s with pending := Function.update s.pending p version }

/-- The missing directories down to a path. -/
def makeDirectories (p : PosixPath) : Disk :=
  { s with nodes := fun q =>
      if (Files.Tree.Above q p ∧ q.parts ≠ []) ∧ (s.nodes q).isNone then some .directory
      else s.nodes q }

/-- A path is a directory. -/
def isDirectory (p : PosixPath) : Bool :=
  match s.nodes p with
  | some .directory => true
  | _ => false

/-- Nothing but directories stands on the way to a path. -/
def passable (p : PosixPath) : Bool :=
  (List.range (p.parts.length + 1)).all fun n =>
    (s.nodes ⟨p.root, p.parts.take n⟩).isNone || s.isDirectory ⟨p.root, p.parts.take n⟩

end Disk

/-! ## Calls -/

/-- A call to the operating system, to `sqlite3` or on a connection to a path. -/
inductive LifecycleCall
  | geteuid
  | isSymlink (path : PosixPath)
  | exists (path : PosixPath)
  | lstat (path : PosixPath)
  | mkdir (path : PosixPath) (mode : Fin 4096)
  | chown (path : PosixPath) (uid gid : ℕ)
  | chmod (path : PosixPath) (mode : Fin 4096)
  | connect (path : PosixPath)
  | pragma (path : PosixPath) (statement : String)
  | createTable (path : PosixPath) (table : Table)
  | insertVersion (path : PosixPath) (version : String)
  | commit (path : PosixPath)
  | rollback (path : PosixPath)
  | close (path : PosixPath)
  | selectVersion (path : PosixPath)
  | integrityCheck (path : PosixPath)
  | backup (source destination : PosixPath)
  deriving DecidableEq

/-- What a call returns. `lstat` finds nothing, or a status. -/
@[reducible] def LifecycleCall.Reply : LifecycleCall → Type
  | geteuid => ℕ
  | isSymlink _ | «exists» _ => Bool
  | lstat _ => Option Status
  | selectVersion _ | integrityCheck _ => Option String
  | _ => Unit

/-- The interface of the two modules. -/
abbrev lifecycle : Interface := ⟨LifecycleCall, LifecycleCall.Reply⟩

/-- A program over these calls. -/
abbrev Action (A : Type) := Program lifecycle PyException A

abbrev ask (c : LifecycleCall) : Action c.Reply := Program.call (I := lifecycle) c

/-- What is outside the disk. -/
structure Machine where
  uid : ℕ
  gid : ℕ
  umask : Fin 512

/-- The mode of a file that SQLite creates. -/
def Machine.fileMode (machine : Machine) : Fin 4096 :=
  Fin.ofNat 4096 (0o644 &&& (0o777 ^^^ machine.umask.val))

/-- A statement on the database at a path. -/
def onDatabase {A : Type} (s : Disk) (p : PosixPath)
    (work : Contents → Attributes → Except PyException A × Disk) : Except PyException A × Disk :=
  match s.nodes p with
  | some (.file (some contents) attributes) => work contents attributes
  | some (.file none _) => (.error (.sqlite "file is not a database"), s)
  | _ => (.error (.sqlite "unable to open database file"), s)

/-- A change of the attributes of what is at a path. -/
def changeAttributes (s : Disk) (p : PosixPath) (f : Attributes → Attributes) :
    Except PyException Unit × Disk :=
  match s.nodes p with
  | some (.file contents attributes) => (.ok (), s.put p (.file contents (f attributes)))
  | some _ => (.ok (), s)
  | none => (.error (.os "No such file or directory"), s)

/-- The calls when they are answered as they should be. -/
def host (machine : Machine) : Handler lifecycle PyException Disk
  | .geteuid, s => (.ok machine.uid, s)
  | .isSymlink p, s =>
    match s.nodes p with
    | some .symlink => (.ok true, s)
    | _ => (.ok false, s)
  | .exists p, s => (.ok (s.nodes p).isSome, s)
  | .lstat p, s => (.ok ((s.nodes p).map Entry.status), s)
  | .mkdir p _, s =>
    if s.passable p then (.ok (), s.makeDirectories p) else (.error (.os "File exists"), s)
  | .chown p uid gid, s => changeAttributes s p fun a => { a with uid, gid }
  | .chmod p mode, s => changeAttributes s p fun a => { a with mode }
  | .connect p, s =>
    match s.nodes p with
    | some (.file _ _) => (.ok (), s.hold p none)
    | none =>
      if s.isDirectory p.parent then
        (.ok (), (s.put p (.file (some .blank) ⟨machine.fileMode, machine.uid, machine.gid⟩)).hold p
          none)
      else (.error (.sqlite "unable to open database file"), s)
    | some _ => (.error (.sqlite "unable to open database file"), s)
  | .pragma _ _, s => (.ok (), s)
  | .createTable p table, s => onDatabase s p fun contents attributes =>
    if table ∈ contents.tables then (.error (.sqlite "table already exists"), s)
    else (.ok (), s.put p (.file (some { contents with tables := contents.tables ++ [table] })
      attributes))
  | .insertVersion p version, s => onDatabase s p fun contents _ =>
    if .schemaMetadata ∉ contents.tables then
      (.error (.sqlite "no such table: schema_metadata"), s)
    else if contents.version.isSome then
      (.error (.sqlite "UNIQUE constraint failed: schema_metadata.key"), s)
    else (.ok (), s.hold p (some version))
  | .commit p, s => onDatabase s p fun contents attributes =>
    match s.pending p with
    | some version =>
      (.ok (), (s.put p (.file (some { contents with version := some version }) attributes)).hold p
        none)
    | none => (.ok (), s)
  | .rollback p, s | .close p, s => (.ok (), s.hold p none)
  | .selectVersion p, s => onDatabase s p fun contents _ =>
    if .schemaMetadata ∈ contents.tables then (.ok contents.version, s)
    else (.error (.sqlite "no such table: schema_metadata"), s)
  | .integrityCheck p, s => onDatabase s p fun _ _ => (.ok (some "ok"), s)
  | .backup source destination, s => onDatabase s source fun contents _ =>
    onDatabase s destination fun _ attributes =>
      (.ok (), s.put destination (.file (some contents) attributes))

/-! ## The repository -/

open Snarkypuss.SqliteTargetRepository (sqliteError storageFailed)

/-- `_connect`. -/
def connect (path : PosixPath) : Action Unit := do
  let opening : Action Unit := do
    ask (.connect path)
    ask (.pragma path "foreign_keys = ON")
    ask (.pragma path "synchronous = FULL")
    ask (.pragma path "busy_timeout = 5000")
  match ← opening.attempt sqliteError with
  | .ok () => pure ()
  | .error message => raise (storageFailed message)

/-- `except (sqlite3.Error, RepositoryError)`. -/
def schemaError? : PyException → Option PyException
  | .sqlite message => some (.sqlite message)
  | .repository code message => some (.repository code message)
  | _ => none

/-- The row of the schema's version. -/
def queryVersion (path : PosixPath) : Action (Option String) := do
  connect path
  ask (.selectVersion path)

def unsupportedSchema (message : String) : PyException := .repository "UNSUPPORTED_SCHEMA" message

/-- `_verify_schema`. -/
def verifySchema (path : PosixPath) : Action Unit := do
  match ← (queryVersion path).attempt schemaError? with
  | .error _ => raise (unsupportedSchema "Database schema is missing or corrupt.")
  | .ok version =>
    if version = some schemaVersion then pure ()
    else raise (unsupportedSchema "Database schema version is unsupported.")

/-- `integrity_check`. -/
def integrityCheck (path : PosixPath) : Action Unit := do
  connect path
  let result ← ask (.integrityCheck path)
  if result = some "ok" then pure ()
  else raise (.repository "DATABASE_INTEGRITY_FAILED" "SQLite integrity check failed.")

/-- The statements of `executescript`, each committed at once. -/
def createTables (path : PosixPath) : List Table → Action Unit
  | [] => return ()
  | table :: tables => do
    ask (.createTable path table)
    createTables path tables

/-- The body of the `try` statement of `initialize`. -/
def createSchema (path : PosixPath) : Action Unit := do
  ask (.pragma path "foreign_keys = ON")
  ask (.pragma path "synchronous = FULL")
  createTables path schema
  ask (.insertVersion path schemaVersion)
  ask (.commit path)

/-- The `try` statement of `initialize`, without its last clause. -/
def createOrRollBack (path : PosixPath) : Action Unit := do
  match ← (createSchema path).attempt sqliteError with
  | .ok () => pure ()
  | .error message => do
    ask (.rollback path)
    raise (.repository "DATABASE_INITIALIZATION_FAILED" message)

/-- `initialize`. The repository that it returns is the one at the path. -/
def initializeRepository (path : PosixPath) : Action Unit := do
  if ← ask (.exists path) then
    raise (.repository "DATABASE_EXISTS" s!"Database already exists: {path.text}")
  else do
    ask (.mkdir path.parent 0o777)
    ask (.connect path)
    (createOrRollBack path).finally_ (ask (.close path))
    verifySchema path

/-- The `try` statement of `backup`, without its last clause. -/
def copyPages (source destination : PosixPath) : Action Unit := do
  match ← (ask (.backup source destination)).attempt sqliteError with
  | .ok () => pure ()
  | .error message => raise (.repository "DATABASE_BACKUP_FAILED" message)

/-- `backup`, of the repository at `source`. -/
def backup (source destination : PosixPath) : Action Unit := do
  if ← ask (.exists destination) then
    raise (.repository "BACKUP_EXISTS" s!"Backup already exists: {destination.text}")
  else do
    connect source
    ask (.connect destination)
    (copyPages source destination).finally_ (do
      ask (.close destination)
      ask (.close source))

/-! ## The lifecycle -/

def defaultTargetDatabasePath : PosixPath := ⟨"/", ["var", "lib", "snarkyctl", "targets.db"]⟩

def databaseMode : Fin 4096 := 0o600

def directoryMode : Fin 4096 := 0o700

/-- `_is_production`. -/
def IsProduction (path : PosixPath) : Prop := path = defaultTargetDatabasePath

instance (path : PosixPath) : Decidable (IsProduction path) := inferInstanceAs (Decidable (_ = _))

/-- What is done only for the production database. -/
def whenProduction (path : PosixPath) (action : Action Unit) : Action Unit :=
  if IsProduction path then action else pure ()

/-- `_require_root`. -/
def requireRoot (path : PosixPath) : Action Unit :=
  whenProduction path do
    let uid ← ask .geteuid
    if uid = 0 then pure ()
    else raise (.repository "ROOT_REQUIRED"
      s!"Root privileges are required for the production database {path.text}.")

def unsafePath (message : String) : PyException := .repository "UNSAFE_DATABASE_PATH" message

/-- The checks of `_check_path`. -/
def checkStatus (path : PosixPath) : Option Status → Except PyException Unit
  | none => .error (.repository "DATABASE_NOT_FOUND" s!"Database does not exist: {path.text}")
  | some .symlink => .error (unsafePath "Database path must not be a symbolic link.")
  | some (.regular attributes) =>
    if IsProduction path then
      if attributes.uid ≠ 0 ∨ attributes.gid ≠ 0 then
        .error (.repository "UNSAFE_DATABASE_OWNER" "Production database must be root-owned.")
      else if attributes.mode ≠ databaseMode then
        .error (.repository "UNSAFE_DATABASE_MODE"
          "Production database permissions must be 0600.")
      else .ok ()
    else .ok ()
  | some _ => .error (unsafePath "Database path must be a regular file.")

/-- `_check_path`. -/
def checkPath (path : PosixPath) : Action Unit := do
  let status ← ask (.lstat path)
  done (checkStatus path status)

/-- The checks and changes of a directory. -/
def secureDirectory (directory : PosixPath) : Action Unit := do
  match ← ask (.lstat directory) with
  | none => raise (.os "No such file or directory")
  | some .directory => do
    ask (.chown directory 0 0)
    ask (.chmod directory directoryMode)
  | some _ => raise (unsafePath "Database directory is unsafe.")

/-- What `initialize_database` does once the repository has created the file. -/
def secureDatabase (path : PosixPath) : Action Unit := do
  ask (.chmod path databaseMode)
  whenProduction path (ask (.chown path 0 0))
  checkPath path
  integrityCheck path

/-- `initialize_database`, without the repository that it returns. -/
def initializeDatabase (path : PosixPath) : Action Unit := do
  requireRoot path
  if ← ask (.isSymlink path) then
    raise (unsafePath "Database path must not be a symbolic link.")
  else if ← ask (.exists path) then
    raise (.repository "DATABASE_EXISTS" s!"Database already exists: {path.text}")
  else do
    ask (.mkdir path.parent directoryMode)
    whenProduction path (secureDirectory path.parent)
    initializeRepository path
    secureDatabase path

/-- `backup_database`. -/
def backupDatabase (destination source : PosixPath) : Action Unit := do
  requireRoot source
  checkPath source
  if ← ask (.isSymlink destination) then
    raise (unsafePath "Backup path must not be a symbolic link.")
  else do
    verifySchema source
    backup source destination
    ask (.chmod destination databaseMode)

/-- What creates a database file. -/
inductive Creation
  | database (path : PosixPath)
  | backup (destination source : PosixPath)

namespace Creation

def program : Creation → Action Unit
  | database path => initializeDatabase path
  | backup destination source => backupDatabase destination source

def destination : Creation → PosixPath
  | database path => path
  | backup destination _ => destination

/-- The path that has to be safe for the one who creates. -/
def guarded : Creation → PosixPath
  | database path => path
  | backup _ source => source

/-- The code of the refusal when the destination exists. -/
def existsCode : Creation → String
  | database _ => "DATABASE_EXISTS"
  | backup _ _ => "BACKUP_EXISTS"

end Creation

end Snarkypuss.Lifecycle
