import Snarkypuss.Gateway.Configure
import Snarkypuss.Python.Utf8

/-!
# The cleanup of the legacy DNS configuration

`snarkypuss-dns-cleanup.py`: the stock configuration of dnsmasq is restored from the original that
was saved, and the files of the old setup are removed. The script asks the file system and the
service manager, and any call may fail.

No symbolic link is followed. Copying from one open file to another is one call, and so is printing
a line.

## Main definitions

* `CleanupCall`, `cleanupCalls`: the calls of the script
* `Machine`: what is outside the file system
* `handler`: the calls when they are answered as they should be
* `Answers`: the calls when any of them may fail
* `atomicRestore`, `cleanupPlan`, `applyPlan`, `cleanup`, `main`
-/

namespace Snarkypuss.Dns

open Python Files Program Gateway

/-! ## Calls -/

/-- What `path.stat()` says: the mode with the bits of the file type, and whose file it is. -/
structure StatResult where
  mode : ℕ
  uid : ℕ
  gid : ℕ

/-- A call of the script. -/
inductive CleanupCall
  | geteuid
  | isActive (unit : String)
  | exists (path : PosixPath)
  | isFile (path : PosixPath)
  | readBytes (path : PosixPath)
  | stat (path : PosixPath)
  | mkdir (path : PosixPath) (parents existOk : Bool)
  | mkstemp (directory : PosixPath) (start : String)
  | copy (source temporary : PosixPath)
  | chmod (path : PosixPath) (mode : Fin 4096)
  | chown (path : PosixPath) (uid gid : ℕ)
  | replace (source destination : PosixPath)
  | unlink (path : PosixPath) (missingOk : Bool)
  | daemonReload
  | print (line : String)
  | printError (line : String)

/-- The calls with the types of their replies. -/
def cleanupCalls : Interface where
  Call := CleanupCall
  Reply
    | .geteuid => ℕ
    | .isActive _ | .exists _ | .isFile _ => Bool
    | .readBytes _ => ByteArray
    | .stat _ => StatResult
    | .mkstemp .. => PosixPath
    | .mkdir .. | .copy .. | .chmod .. | .chown .. | .replace .. | .unlink .. => Unit
    | .daemonReload | .print _ | .printError _ => Unit

/-- The script. Its own exception is the one that is refused. -/
abbrev CleanupScript (A : Type) := Program cleanupCalls ScriptError A

/-- What is outside the file system. -/
structure Machine where
  uid : ℕ
  active : String → Bool
  reloads : Bool
  owner : PosixPath → ℕ × ℕ
  directoryMode : Fin 4096
  tempName : Tree → PosixPath → String → TempName

/-! ## Answers -/

/-- A file with the bit that runs it as its owner, or with the bit that runs it as its group. The
second counts only together with the right of the group to run the file. -/
def SetId (mode : Fin 4096) : Prop :=
  mode.val.testBit 11 ∨ mode.val.testBit 10 ∧ mode.val.testBit 3

instance (mode : Fin 4096) : Decidable (SetId mode) := inferInstanceAs (Decidable (_ ∨ _))

/-- What `chown` leaves of the mode of a file: whoever calls it, the kernel takes these bits away. -/
def chownMode (mode : Fin 4096) : Fin 4096 :=
  ⟨(mode.val - if mode.val.testBit 11 then 0o4000 else 0) -
      if mode.val.testBit 10 ∧ mode.val.testBit 3 then 0o2000 else 0, by omega⟩

/-- `st_mode & 0o7777`. -/
def permissionBits (stMode : ℕ) : Fin 4096 := ⟨stMode % 0o10000, Nat.mod_lt _ (by decide)⟩

/-- `os.chown` on the path that is found. -/
def changeOwner (s : Tree) (path : PosixPath) : Except ScriptError Unit × Tree :=
  match s path with
  | some (.file content mode) => (.ok (), Function.update s path (some (.file content (chownMode mode))))
  | some _ => (.ok (), s)
  | none => (osError "No such file or directory", s)

/-- The calls when they are answered as they should be. -/
def handler (machine : Machine) : Handler cleanupCalls ScriptError Tree
  | .geteuid, s => (.ok machine.uid, s)
  | .isActive unit, s => (.ok (machine.active unit), s)
  | .exists path, s => (.ok (s path).isSome, s)
  | .isFile path, s => (.ok (s.isFile path), s)
  | .readBytes path, s => readFileBytes s path
  | .stat path, s =>
    match s path with
    | some (.file _ mode) =>
      (.ok ⟨0o100000 + mode, (machine.owner path).1, (machine.owner path).2⟩, s)
    | some (.directory mode) =>
      (.ok ⟨0o040000 + mode, (machine.owner path).1, (machine.owner path).2⟩, s)
    | some .other => (osError "Operation not permitted", s)
    | none => (osError "No such file or directory", s)
  | .mkdir path parents existOk, s => makeDirectory machine.directoryMode s parents existOk path
  | .mkstemp directory start, s =>
    let path := directory.child (start ++ (machine.tempName s directory start).text)
    if s.isDir directory ∧ s path = none then
      (.ok path, Function.update s path (some (.file .empty 0o600)))
    else (osError "No usable temporary file name found", s)
  | .copy source temporary, s =>
    match s source with
    | some (.file content _) => (.ok (), s.write temporary content)
    | _ => (osError "No such file or directory", s)
  | .chmod path mode, s => changeMode s mode path
  | .chown path _ _, s => changeOwner s path
  | .replace source destination, s => renameFile s source destination
  | .unlink path missingOk, s => removeFile s missingOk path
  | .daemonReload, s =>
    (if machine.reloads then .ok () else .error (.raised (.other "CalledProcessError")), s)
  | .print _, s => (.ok (), s)
  | .printError _, s => (.ok (), s)

/-- What a call leaves that fails: a copy that is written in part, some of the directories, or
nothing. -/
def CleanupCall.leaves : CleanupCall → Tree → Tree → Prop
  | .mkdir .., s, t => ∀ q, t q = s q ∨ s q = none ∧ ∃ mode, t q = some (.directory mode)
  | .copy _ temporary, s, t => ∃ content, t = s.write temporary content
  | _, s, t => t = s

/-- How a call may be answered. A call that fails raises an `OSError`. -/
def Answers (machine : Machine) : Answering cleanupCalls ScriptError Tree := fun c s r t =>
  handler machine c s = (r, t) ∨ ∃ message, r = .error (.raised (.os message)) ∧ c.leaves s t

/-! ## The script -/

def stockConfig : String := "/etc/dnsmasq.conf"

def originalBackup : String := "/etc/dnsmasq.conf.snarkypuss-original"

def legacyConfig : String := "/etc/dnsmasq.d/snarkypuss.conf"

def legacyDropin : String := "/etc/systemd/system/dnsmasq.service.d/snarkypuss.conf"

def newService : String := "snarkypuss-dns.service"

def legacyService : String := "dnsmasq.service"

def bindMarker : String := "disabled by Snarkypuss; bind-dynamic is used"

/-- A path that was resolved. -/
abbrev Root : Type := {path : PosixPath // path.Plain}

section Calls

variable (path : PosixPath)

abbrev effectiveUid : CleanupScript ℕ := call (I := cleanupCalls) .geteuid

/-- `service_active`. -/
abbrev serviceActive (unit : String) : CleanupScript Bool := call (I := cleanupCalls) (.isActive unit)

abbrev pathExists : CleanupScript Bool := call (I := cleanupCalls) (.exists path)

abbrev isFile : CleanupScript Bool := call (I := cleanupCalls) (.isFile path)

abbrev readBytes : CleanupScript ByteArray := call (I := cleanupCalls) (.readBytes path)

abbrev stat : CleanupScript StatResult := call (I := cleanupCalls) (.stat path)

abbrev mkdir (parents existOk : Bool) : CleanupScript Unit :=
  call (I := cleanupCalls) (.mkdir path parents existOk)

abbrev mkstemp (start : String) : CleanupScript PosixPath :=
  call (I := cleanupCalls) (.mkstemp path start)

abbrev copyBytes (temporary : PosixPath) : CleanupScript Unit :=
  call (I := cleanupCalls) (.copy path temporary)

abbrev chmod (mode : Fin 4096) : CleanupScript Unit := call (I := cleanupCalls) (.chmod path mode)

abbrev chown (uid gid : ℕ) : CleanupScript Unit := call (I := cleanupCalls) (.chown path uid gid)

abbrev replace (destination : PosixPath) : CleanupScript Unit :=
  call (I := cleanupCalls) (.replace path destination)

abbrev unlink (missingOk : Bool) : CleanupScript Unit :=
  call (I := cleanupCalls) (.unlink path missingOk)

abbrev daemonReload : CleanupScript Unit := call (I := cleanupCalls) .daemonReload

abbrev print (line : String) : CleanupScript Unit := call (I := cleanupCalls) (.print line)

abbrev printError (line : String) : CleanupScript Unit := call (I := cleanupCalls) (.printError line)

end Calls

/-- `raise CleanupError(message)`. -/
abbrev refuse {A : Type} (message : String) : CleanupScript A := raise (.refused message)

/-- `read_text(encoding="utf-8", errors="replace")`. -/
def decodeText (content : ByteArray) : List Char :=
  universalNewlines (decodeReplace content.data.toList)

/-- `SNARKYPUSS_BIND_MARKER in current`. -/
def HasMarker (content : ByteArray) : Prop := bindMarker.toList <:+: decodeText content

instance (content : ByteArray) : Decidable (HasMarker content) :=
  inferInstanceAs (Decidable (_ <:+: _))

/-- The part of `atomic_restore` before the temporary file is removed. -/
def install (source destination temporary : PosixPath) (sourceStat : StatResult) :
    CleanupScript Unit := do
  copyBytes source temporary
  chmod temporary (permissionBits sourceStat.mode)
  chown temporary sourceStat.uid sourceStat.gid
  replace temporary destination

/-- `atomic_restore`. -/
def atomicRestore (source destination : PosixPath) : CleanupScript Unit := do
  let sourceStat ← stat source
  mkdir destination.parent true true
  let temporary ← mkstemp destination.parent s!".{destination.name}.snarkypuss-restore."
  (install source destination temporary sourceStat).finally_ (unlink temporary true)

/-- Which of some paths are files. -/
def filesAmong : List PosixPath → CleanupScript (List PosixPath)
  | [] => return []
  | path :: paths => do
    let found ← isFile path
    let files ← filesAmong paths
    return if found then path :: files else files

section Script

variable (root : Root)

def stock : PosixPath := rooted root stockConfig

def backup : PosixPath := rooted root originalBackup

def legacyPaths : List PosixPath := [rooted root legacyConfig, rooted root legacyDropin]

/-- The configuration is neither the saved original nor one that the old setup wrote. -/
def changedMessage : String :=
  "current /etc/dnsmasq.conf differs from the saved original but no longer " ++
    "contains the Snarkypuss bind marker; refusing to overwrite possible " ++
    "administrator changes"

/-- The configuration is one that the old setup wrote, and no original was saved. -/
def unsavedMessage : String :=
  "the Snarkypuss bind modification is present but the saved original " ++
    "/etc/dnsmasq.conf.snarkypuss-original is missing"

/-- Whether a stock configuration is to be replaced by the saved original. -/
def compareConfigs : CleanupScript Bool := do
  let current ← readBytes (stock root)
  let original ← readBytes (backup root)
  if current = original then return false
  else
    let text ← readBytes (stock root)
    if HasMarker text then return true
    else refuse changedMessage

/-- Whether the stock configuration is to be restored, when there is a saved original. -/
def restorePlan : CleanupScript Bool := do
  if ← pathExists (stock root) then
    if ← isFile (stock root) then compareConfigs root
    else refuse s!"stock dnsmasq path is not a regular file: {(stock root).text}"
  else return true

/-- Without a saved original nothing is restored. -/
def noRestorePlan : CleanupScript Bool := do
  if ← isFile (stock root) then
    let text ← readBytes (stock root)
    if HasMarker text then refuse unsavedMessage
    else return false
  else return false

/-- The plan for the stock configuration. -/
def stockPlan (saved : Bool) : CleanupScript Bool :=
  if saved then restorePlan root else noRestorePlan root

/-- `cleanup_plan`. -/
def cleanupPlan : CleanupScript (Bool × List PosixPath) := do
  let legacy ← filesAmong (legacyPaths root)
  let saved ← isFile (backup root)
  let restoreStock ← stockPlan root saved
  return (restoreStock, legacy)

/-- Only the superuser changes the files of the host itself. -/
def checkUser (apply : Bool) : CleanupScript Unit :=
  if apply ∧ root.val = ⟨"/", []⟩ then do
    let uid ← effectiveUid
    if uid ≠ 0 then refuse "--apply to / must run as root"
    else return ()
  else return ()

/-- The new service has taken over from the old one. -/
def checkServices : CleanupScript Unit :=
  if root.val = ⟨"/", []⟩ then do
    if ← serviceActive newService then
      if ← serviceActive legacyService then
        refuse s!"{legacyService} is still active; refusing to alter its configuration"
      else return ()
    else refuse s!"{newService} is not active; refusing legacy DNS cleanup before cutover"
  else return ()

/-- Whether there is a saved original like the stock configuration. -/
def alreadyMatches : CleanupScript Bool := do
  if ← isFile (backup root) then
    if ← isFile (stock root) then
      let current ← readBytes (stock root)
      let original ← readBytes (backup root)
      return decide (current = original)
    else return false
  else return false

/-- What is printed about the stock configuration. -/
def printStock (restoreStock : Bool) : CleanupScript Unit :=
  if restoreStock then
    print s!"PLAN: restore {(stock root).text} from {(backup root).text}"
  else do
    if ← alreadyMatches root then
      print s!"PLAN: {(stock root).text} already matches the saved original"
    else print "PLAN: no Snarkypuss-owned stock dnsmasq.conf modification to restore"

def printLegacy : List PosixPath → CleanupScript Unit
  | [] => return ()
  | path :: paths => do
    print s!"PLAN: remove legacy Snarkypuss file {path.text}"
    printLegacy paths

/-- The printed plan. -/
def printPlan (apply restoreStock : Bool) (legacy : List PosixPath) : CleanupScript Unit := do
  let mode := if apply then "apply" else "dry-run"
  print "Snarkypuss legacy DNS cleanup"
  print s!"Mode: {mode}"
  printStock root restoreStock
  printLegacy legacy

/-- The stock configuration, when the plan is to restore it. -/
def applyStock (restoreStock : Bool) : CleanupScript Unit :=
  if restoreStock then do
    atomicRestore (backup root) (stock root)
    print s!"RESTORED: {(stock root).text} from {(backup root).text}"
  else return ()

/-- The loop that removes the files of the old setup. -/
def removeLegacy : List PosixPath → CleanupScript Unit
  | [] => return ()
  | path :: paths => do
    unlink path false
    print s!"REMOVED: {path.text}"
    removeLegacy paths

/-- The service manager is told, when the files are those of the host. -/
def reloadServices : CleanupScript Unit :=
  if root.val = ⟨"/", []⟩ then daemonReload else return ()

/-- What is done when the plan is applied. -/
def applyPlan (restoreStock : Bool) (legacy : List PosixPath) : CleanupScript ℕ := do
  applyStock root restoreStock
  removeLegacy legacy
  reloadServices root
  print ("Legacy Snarkypuss dnsmasq customization is cleaned up. " ++
    "The saved original backup is retained for recovery.")
  return 0

/-- The `try` statement of `main`. -/
def cleanup (apply : Bool) : CleanupScript ℕ := do
  checkUser root apply
  checkServices root
  let (restoreStock, legacy) ← cleanupPlan root
  printPlan root apply restoreStock legacy
  if apply then applyPlan root restoreStock legacy
  else
    print "No files or services were changed."
    return 0

/-- `except (CleanupError, OSError, subprocess.CalledProcessError) as exc`. -/
def reported? : ScriptError → Option String
  | .refused message => some message
  | .raised (.os message) => some message
  | .raised (.other name) => if name = "CalledProcessError" then some name else none
  | .raised _ => none

/-- `main` with a root that was resolved. -/
def main (apply : Bool) : CleanupScript ℕ := do
  match ← (cleanup root apply).attempt reported? with
  | .ok status => return status
  | .error message =>
    printError s!"ERROR: {message}"
    return 1

end Script

end Snarkypuss.Dns
