import Snarkypuss.Calls.Logic
import Snarkypuss.Files.Tree
import Snarkypuss.Gateway.Setup

/-!
# The calls of the gateway scripts

What `snarkypuss-configure.py` and `snarkypuss-migrate.py` ask of the operating system and of the
commands that they start. A call may also fail, and some that fail leave part of their work behind.

No symbolic link is followed, and two dots lead to the directory above.

## Main definitions

* `Moment`: an instant, with `Moment.timestamp` and `Moment.isoformat`
* `ScriptCall`, `scripts`: the calls
* `Platform`: what is outside the file system
* `handler`: the calls when they are answered as they should be
* `reach`: the path that a call works on
* `Fails`, `Answers`: the calls when any of them may fail

## Main results

* `onPath_of_plain`, `askPath_of_plain`: a call on a plain path works on that path
-/

namespace Snarkypuss.Gateway

open Python Files

/-! ## Instants -/

instance neZero_microseconds : NeZero 1000000 := ⟨by decide⟩

/-- An instant in UTC. -/
structure Moment where
  year : Fin 10000
  month : Fin 13
  day : Fin 32
  hour : Fin 24
  minute : Fin 60
  second : Fin 60
  microsecond : Fin 1000000

/-- A number with leading zeros. -/
def padded (width n : ℕ) : String :=
  String.ofList (List.replicate (width - (Nat.toDigits 10 n).length) '0') ++ str n

/-- `strftime("%Y%m%dT%H%M%SZ")`. -/
def Moment.timestamp (now : Moment) : String :=
  padded 4 now.year ++ padded 2 now.month ++ padded 2 now.day ++ "T" ++ padded 2 now.hour ++
    padded 2 now.minute ++ padded 2 now.second ++ "Z"

/-- `isoformat()`, without the microseconds when there are none. -/
def Moment.isoformat (now : Moment) : String :=
  padded 4 now.year ++ "-" ++ padded 2 now.month ++ "-" ++ padded 2 now.day ++ "T" ++
    padded 2 now.hour ++ ":" ++ padded 2 now.minute ++ ":" ++ padded 2 now.second ++
    (if now.microsecond = 0 then "" else "." ++ padded 6 now.microsecond) ++ "+00:00"

/-! ## Calls -/

/-- How a command of WireGuard may fail: it is not installed, or it exits with an error. -/
inductive WgFailure
  | missing
  | failed (stderr : String)
  deriving DecidableEq

/-- A call of a script. Reading the setup file and the key file that it names is one call. -/
inductive ScriptCall
  | geteuid
  | now
  | readSetup (config : PosixPath)
  | exists (path : PosixPath)
  | isFile (path : PosixPath)
  | isDir (path : PosixPath)
  | readBytes (path : PosixPath)
  | statMode (path : PosixPath)
  | mkdir (path : PosixPath) (parents existOk : Bool)
  | chmod (path : PosixPath) (mode : Fin 4096)
  | copy (source destination : PosixPath)
  | mkstemp (directory : PosixPath) (start : String)
  | write (path : PosixPath) (content : ByteArray)
  | replace (source destination : PosixPath)
  | unlink (path : PosixPath) (missingOk : Bool)
  | genkey
  | pubkey (privateKey : String)
  | whichIptablesSave
  | iptablesSave
  | configure (config root : PosixPath)

/-- The calls with the types of their replies. -/
def scripts : Interface where
  Call := ScriptCall
  Reply
    | .geteuid => ℕ
    | .now => Moment
    | .readSetup _ => GatewayConfig
    | .exists _ | .isFile _ | .isDir _ | .whichIptablesSave => Bool
    | .readBytes _ | .iptablesSave => ByteArray
    | .statMode _ => Fin 4096
    | .mkdir .. | .chmod .. | .copy .. | .write .. | .replace .. | .unlink .. => Unit
    | .mkstemp .. => PosixPath
    | .genkey | .pubkey _ => Except WgFailure String
    | .configure .. => ℕ

/-- A script: a program over these calls. -/
abbrev Script (A : Type) := Program scripts ScriptError A

section Calls

variable (path : PosixPath)

abbrev geteuid : Script ℕ := Program.call (I := scripts) .geteuid

abbrev utcNow : Script Moment := Program.call (I := scripts) .now

abbrev readSetupFile : Script GatewayConfig := Program.call (I := scripts) (.readSetup path)

abbrev pathExists : Script Bool := Program.call (I := scripts) (.exists path)

abbrev pathIsFile : Script Bool := Program.call (I := scripts) (.isFile path)

abbrev pathIsDir : Script Bool := Program.call (I := scripts) (.isDir path)

abbrev readBytes : Script ByteArray := Program.call (I := scripts) (.readBytes path)

abbrev statMode : Script (Fin 4096) := Program.call (I := scripts) (.statMode path)

abbrev mkdir (parents existOk : Bool) : Script Unit :=
  Program.call (I := scripts) (.mkdir path parents existOk)

abbrev chmod (mode : Fin 4096) : Script Unit := Program.call (I := scripts) (.chmod path mode)

abbrev copy2 (destination : PosixPath) : Script Unit :=
  Program.call (I := scripts) (.copy path destination)

abbrev mkstemp (start : String) : Script PosixPath :=
  Program.call (I := scripts) (.mkstemp path start)

abbrev writeBytes (content : ByteArray) : Script Unit :=
  Program.call (I := scripts) (.write path content)

abbrev replace (destination : PosixPath) : Script Unit :=
  Program.call (I := scripts) (.replace path destination)

abbrev unlink (missingOk : Bool) : Script Unit :=
  Program.call (I := scripts) (.unlink path missingOk)

abbrev wgGenkey : Script (Except WgFailure String) := Program.call (I := scripts) .genkey

abbrev wgPubkey (privateKey : String) : Script (Except WgFailure String) :=
  Program.call (I := scripts) (.pubkey privateKey)

end Calls

/-- What is outside the file system. -/
structure Platform where
  uid : ℕ
  now : Moment
  directoryMode : Fin 4096
  tempName : Tree → PosixPath → String → TempName
  genkey : Except WgFailure String
  pubkey : String → Except WgFailure String
  iptablesSave : Option ByteArray
  configure : PosixPath → PosixPath → Tree → ℕ × Tree

/-! ## Reading files -/

/-- Opening and decoding a file: the text before line ends are translated. -/
def openText (s : Tree) (path : PosixPath) : Except PyException String :=
  match s path with
  | some (.file content _) =>
    match String.fromUTF8? content with
    | some text => .ok text
    | none => .error .unicodeDecode
  | some _ => .error (.os "Is a directory")
  | none => .error (.os "No such file or directory")

/-- The text of a file in ASCII, as `read_text(encoding="ascii")` decodes it. -/
def decodeAscii (content : ByteArray) : Except PyException String :=
  if content.data.all (· < 128) then
    match String.fromUTF8? content with
    | some text => .ok (String.ofList (universalNewlines text.toList))
    | none => .error .unicodeDecode
  else .error .unicodeDecode

/-- `read_text(encoding="ascii")`. -/
def readAscii (s : Tree) (path : PosixPath) : Except PyException String :=
  match s path with
  | some (.file content _) => decodeAscii content
  | some _ => .error (.os "Is a directory")
  | none => .error (.os "No such file or directory")

/-! ## Answers -/

def osError {A : Type} (message : String) : Except ScriptError A := .error (.raised (.os message))

/-- The path that a call works on. No name has a NUL in it. -/
def reach (s : Tree) (path : PosixPath) : Except PyException PosixPath :=
  if ∀ part ∈ path.parts, '\x00' ∉ part.toList then
    match s.locate path with
    | some located => .ok located
    | none => .error (.os "No such file or directory")
  else .error (.value "embedded null byte")

theorem reach_of_plain (s : Tree) {path : PosixPath} (h : path.Plain) : reach s path = .ok path := by
  rw [reach, if_pos fun part hpart => (h.2 part hpart).2, s.locate_of_plain h]

/-- A call that works on the path that is found, and raises when none is. -/
def onPath {A : Type} (s : Tree) (path : PosixPath)
    (work : PosixPath → Except ScriptError A × Tree) : Except ScriptError A × Tree :=
  match reach s path with
  | .ok located => work located
  | .error e => (.error (.raised e), s)

/-- A question about a path, which is answered in the negative when none is found. -/
def askPath (s : Tree) (path : PosixPath) (question : PosixPath → Bool) : Bool :=
  match reach s path with
  | .ok located => question located
  | .error _ => false

@[simp] theorem onPath_of_plain {A : Type} (s : Tree) {path : PosixPath} (h : path.Plain)
    (work : PosixPath → Except ScriptError A × Tree) : onPath s path work = work path := by
  rw [onPath, reach_of_plain s h]

@[simp] theorem askPath_of_plain (s : Tree) {path : PosixPath} (h : path.Plain)
    (question : PosixPath → Bool) : askPath s path question = question path := by
  rw [askPath, reach_of_plain s h]

/-- `os.mkdir` on the path that is found, and the directories above it on demand. -/
def makeDirectory (directoryMode : Fin 4096) (s : Tree) (parents existOk : Bool)
    (path : PosixPath) : Except ScriptError Unit × Tree :=
  if (s path).isSome then
    if existOk ∧ s.isDir path then (.ok (), s) else (osError "File exists", s)
  else if s.Passable path ∧ (parents ∨ s.isDir path.parent) then
    (.ok (), s.makeDirectories path directoryMode)
  else (osError "No such file or directory", s)

/-- `path.mkdir(parents=parents, exist_ok=existOk)`. -/
def mkdirAnswer (directoryMode : Fin 4096) (s : Tree) (path : PosixPath) (parents existOk : Bool) :
    Except ScriptError Unit × Tree :=
  match reach s path with
  | .ok located => makeDirectory directoryMode s parents existOk located
  | .error (.os message) =>
    -- two dots leave a directory that is missing, and it is made on the way
    if parents then
      let made := Tree.makeAlong directoryMode s [] path.parts
      (if made.1 then .ok () else osError "File exists", made.2)
    else (osError message, s)
  | .error e => (.error (.raised e), s)

/-- `os.chmod` on the path that is found. -/
def changeMode (s : Tree) (mode : Fin 4096) (path : PosixPath) : Except ScriptError Unit × Tree :=
  if (s path).isSome then (.ok (), s.chmod path mode)
  else (osError "No such file or directory", s)

/-- `os.replace` on the paths that are found. -/
def renameFile (s : Tree) (source destination : PosixPath) : Except ScriptError Unit × Tree :=
  match s source with
  | some (.file _ _) =>
    if s.isDir destination then (osError "Is a directory", s)
    else if s.isDir destination.parent then (.ok (), s.rename source destination)
    else (osError "No such file or directory", s)
  | _ => (osError "No such file or directory", s)

/-- `os.unlink` on the path that is found. -/
def removeFile (s : Tree) (missingOk : Bool) (path : PosixPath) : Except ScriptError Unit × Tree :=
  match s path with
  | none => if missingOk then (.ok (), s) else (osError "No such file or directory", s)
  | some (.directory _) => (osError "Is a directory", s)
  | some _ => (.ok (), Function.update s path none)

/-- Opening and reading the path that is found. -/
def readFileBytes (s : Tree) (path : PosixPath) : Except ScriptError ByteArray × Tree :=
  match s path with
  | some (.file content _) => (.ok content, s)
  | some _ => (osError "Is a directory", s)
  | none => (osError "No such file or directory", s)

section Answers

variable (data : TextData)

/-- The calls when they are answered as they should be. -/
def handler (platform : Platform) : Handler scripts ScriptError Tree
  | .geteuid, s => (.ok platform.uid, s)
  | .now, s => (.ok platform.now, s)
  | .readSetup config, s => (readSetup data config (openText s config) (readAscii s), s)
  | .exists path, s => (.ok (askPath s path fun p => (s p).isSome), s)
  | .isFile path, s => (.ok (askPath s path s.isFile), s)
  | .isDir path, s => (.ok (askPath s path s.isDir), s)
  | .readBytes path, s => onPath s path (readFileBytes s)
  | .statMode path, s => onPath s path fun p =>
    match s p with
    | some (.file _ mode) | some (.directory mode) => (.ok mode, s)
    | some .other => (osError "Operation not permitted", s)
    | none => (osError "No such file or directory", s)
  | .mkdir path parents existOk, s => mkdirAnswer platform.directoryMode s path parents existOk
  | .chmod path mode, s => onPath s path (changeMode s mode)
  | .copy source destination, s => onPath s source fun p => onPath s destination fun q =>
    match s p with
    | some (.file content mode) =>
      if s.isDir q.parent ∧ (s q = none ∨ s.isFile q) then
        (.ok (), Function.update s q (some (.file content mode)))
      else (osError "No such file or directory", s)
    | _ => (osError "No such file or directory", s)
  | .mkstemp directory start, s => onPath s directory fun d =>
    onPath s (d.child (start ++ (platform.tempName s d start).text)) fun p =>
    if s.isDir d ∧ s p = none then
      (.ok p, Function.update s p (some (.file .empty 0o600)))
    else (osError "No usable temporary file name found", s)
  | .write path content, s => (.ok (), s.write path content)
  | .replace source destination, s => onPath s source fun p => onPath s destination (renameFile s p)
  | .unlink path missingOk, s =>
    match reach s path with
    | .ok p => removeFile s missingOk p
    | .error (.os message) => if missingOk then (.ok (), s) else (osError message, s)
    | .error e => (.error (.raised e), s)
  | .genkey, s => (.ok platform.genkey, s)
  | .pubkey privateKey, s => (.ok (platform.pubkey privateKey), s)
  | .whichIptablesSave, s => (.ok platform.iptablesSave.isSome, s)
  | .iptablesSave, s =>
    match platform.iptablesSave with
    | some content => (.ok content, s)
    | none => (osError "No such file or directory: 'iptables-save'", s)
  | .configure config root, s =>
    (.ok (platform.configure config root s).1, (platform.configure config root s).2)

/-- A file that is read, or whose reading fails. -/
def MayRead (actual found : Except PyException String) : Prop :=
  found = actual ∨ ∃ message, found = .error (.os message)

/-- What a call leaves that fails: a copy or a text that is written in part, some of the
directories, or nothing. -/
def ScriptCall.leaves : ScriptCall → Tree → Tree → Prop
  | .mkdir .., s, t => ∀ q, t q = s q ∨ s q = none ∧ ∃ mode, t q = some (.directory mode)
  | .copy _ destination, s, t => t = s ∨ ∃ q, reach s destination = .ok q ∧
    (s q = none ∨ s.isFile q) ∧ ∃ content mode, t = Function.update s q (some (.file content mode))
  | .write path _, s, t => ∃ content, t = s.write path content
  | _, s, t => t = s

/-- A call that fails. The files that a setup is read from may each be unreadable. -/
def Fails (c : ScriptCall) (s : Tree) (r : Except ScriptError (scripts.Reply c)) (t : Tree) :
    Prop :=
  (∃ e, r = .error (.raised e) ∧ c.leaves s t) ∨
    match c, r with
    | .readSetup config, r => t = s ∧ ∃ setupFile keyFile, MayRead (openText s config) setupFile ∧
        (∀ path, MayRead (readAscii s path) (keyFile path)) ∧
        r = readSetup data config setupFile keyFile
    | _, _ => False

/-- How a call may be answered. -/
def Answers (c : ScriptCall) (s : Tree) (r : Except ScriptError (scripts.Reply c)) (t : Tree) :
    Prop :=
  (∃ platform, handler data platform c s = (r, t)) ∨ Fails data c s r t

end Answers

end Snarkypuss.Gateway
