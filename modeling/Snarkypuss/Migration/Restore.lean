import Snarkypuss.Gateway.Configure
import Snarkypuss.Python.Json

/-!
# Restoring files

`restore_files` of `snarkypuss-migrate.py` and the branch of `main` that calls it. The manifest is
any document, so that each entry is looked at as the interpreter looks at it: what is true, what
`int` takes, what a path names. What is printed is left out.

The names of files are texts. A text with half of a surrogate pair names none, and it stands for
one with a NUL in it, which names none either.

## Main definitions

* `FloatData`, `Library`: the numbers with a fraction, and the modules that the script uses
* `truthy`, `equalsOne`, `intOf`: values of a document as the interpreter takes them
* `Instruction`, `readEntry`: what an entry of a manifest asks for
* `atomicWrite`, `carryOut`, `restoreEntries`, `restoreFiles`, `restoreMain`

## Main results

* `putBack_of_match`, `putBack_of_mismatch`: a content is put back when its digest is the entry's
-/

namespace Snarkypuss.Migration

open Python Files Program Gateway

def manifestName : String := "migration-manifest.json"

/-! ## Values of a document -/

/-- What the interpreter makes of a number that is written with a fraction or an exponent. -/
structure FloatData where
  isOne : String → Bool
  truthy : String → Bool
  truncate : String → Except PyException Int

/-- The modules that the script uses: the interpreter's numbers and texts, and `hashlib`. -/
structure Library where
  interpreter : Interpreter
  text : TextData
  floats : FloatData
  sha256 : ByteArray → String

/-- The members of an object. Other values have no attribute `get`. -/
def membersOf : Json → Except ScriptError (List (Text × Json))
  | .obj members => .ok members
  | _ => .error (.raised (.other "AttributeError"))

/-- `members.get(key)`. -/
def get? (members : List (Text × Json)) (key : String) : Option Json :=
  members.lookup (Text.ofString key)

/-- The text of a path. No name has half of a surrogate pair in it, nor a NUL. -/
def pathText (t : Text) : String := String.ofList (t.map fun p => (Text.toChar? p).getD '\x00')

section Values

variable (lib : Library)

/-- Whether an `if` takes the value for true. -/
def truthy : Option Json → Bool
  | none | some .null => false
  | some (.bool b) => b
  | some (.int n) => n ≠ 0
  | some (.float literal) => lib.floats.truthy literal
  | some (.str t) => !t.isEmpty
  | some (.arr items) => !items.isEmpty
  | some (.obj members) => !members.isEmpty

/-- `value == 1`. -/
def equalsOne : Option Json → Bool
  | some (.bool b) => b
  | some (.int n) => n = 1
  | some (.float literal) => lib.floats.isOne literal
  | _ => false

/-- `int(text)`, which takes a bounded number of digits. -/
def intOfText (t : Text) : Option Int := do
  let s ← t.toString?
  if (toAsciiNumber lib.text s.toList).countP Char.isDigit ≤ maxStrDigits then int lib.text s
  else none

/-- `int(value)`. -/
def intOf : Json → Except ScriptError Int
  | .int n => .ok n
  | .bool b => .ok (if b then 1 else 0)
  | .float literal => (lib.floats.truncate literal).mapError .raised
  | .str t =>
    match intOfText lib t with
    | some n => .ok n
    | none => .error (.raised (.value "invalid literal for int() with base 10"))
  | _ => .error (.raised (.other "TypeError"))

end Values

/-- `value == text`. -/
def equalsText : Option Json → String → Bool
  | some (.str t), s => t = Text.ofString s
  | _, _ => false

/-- The modes that the system call takes, which are C integers. -/
def Fits (mode : Int) : Prop := -2 ^ 31 ≤ mode ∧ mode < 2 ^ 31

instance (mode : Int) : Decidable (Fits mode) := inferInstanceAs (Decidable (_ ∧ _))

/-- The twelve bits of a mode that the system call looks at. -/
def modeBits (mode : Int) : Fin 4096 := Fin.ofNat 4096 (mode % 4096).toNat

/-- The mode that the system call is given. -/
def chmodMode (mode : Int) : Except ScriptError (Fin 4096) :=
  if Fits mode then .ok (modeBits mode) else .error (.raised (.other "OverflowError"))

theorem chmodMode_of_fits {mode : Int} (h : Fits mode) : chmodMode mode = .ok (modeBits mode) :=
  if_pos h

theorem chmodMode_of_not_fits {mode : Int} (h : ¬ Fits mode) :
    chmodMode mode = .error (.raised (.other "OverflowError")) := if_neg h

/-! ## Entries -/

/-- What an entry asks for: to put a file back, or to see that there is none. -/
inductive Instruction
  | put (absolute : String) (destination source : PosixPath) (digest : Option Json)
    (mode : Except ScriptError Int)
  | remove (destination : PosixPath)

/-- The text under a key that names a path, if it is a text and meets the condition. -/
def checkedText (members : List (Text × Json)) (key : String) (p : String → Prop) [DecidablePred p]
    (message : String) : Except ScriptError String :=
  match get? members key with
  | some (.str t) => if p (pathText t) then .ok (pathText t) else .error (.refused message)
  | _ => .error (.refused message)

/-- The checks that an entry is given before any file is looked at. -/
def readEntry (lib : Library) (root backup : PosixPath) (entry : Json) :
    Except ScriptError Instruction := do
  let members ← membersOf entry
  let absolute ← checkedText members "path" (fun s => s.toList.head? = some '/')
    "migration manifest contains an unsafe path"
  let destination := rooted root absolute
  if truthy lib (get? members "existed") then
    let relative ← checkedText members "backup" (fun s => ¬ (PosixPath.ofString s).isAbsolute)
      "migration manifest contains an unsafe backup path"
    let mode : Except ScriptError Int :=
      match get? members "mode" with
      | some value => intOf lib value
      | none => .error (.raised (.other "KeyError"))
    return .put absolute destination (backup.join (PosixPath.ofString relative))
      (get? members "sha256") mode
  else return .remove destination

/-! ## Writing -/

/-- The part of an atomic write before the temporary file is removed. -/
def install (temporary path : PosixPath) (content : ByteArray) (mode : Int) : Script Unit := do
  writeBytes temporary content
  let bits ← done (chmodMode mode)
  chmod temporary bits
  replace temporary path

/-- `atomic_write`. -/
def atomicWrite (path : PosixPath) (content : ByteArray) (mode : Int) : Script Unit := do
  mkdir path.parent true true
  let temporary ← mkstemp path.parent s!".{path.name}."
  (install temporary path content mode).finally_ (unlink temporary true)

/-! ## Restoring -/

section Restore

variable (lib : Library)

/-- What is done with the content of a backup. -/
def putBack (absolute : String) (destination : PosixPath) (digest : Option Json)
    (mode : Except ScriptError Int) (data : ByteArray) : Script Unit :=
  if equalsText digest (lib.sha256 data) then do
    let mode ← done mode
    atomicWrite destination data mode
  else refuse s!"backup checksum failed for {absolute}"

/-- The body of the loop, after the checks of the entry. -/
def carryOut : Instruction → Script Unit
  | .put absolute destination source digest mode => do
    let data ← readBytes source
    putBack lib absolute destination digest mode data
  | .remove destination => do
    if ← pathExists destination then
      if ← pathIsFile destination then unlink destination false
      else refuse s!"refusing to remove non-file path {destination.text}"

/-- The loop over the entries. -/
def restoreEntries (root backup : PosixPath) : List Json → Script Unit
  | [] => return ()
  | entry :: entries => do
    let instruction ← done (readEntry lib root backup entry)
    carryOut lib instruction
    restoreEntries root backup entries

/-- The entries of the manifest. -/
def parseManifest (content : ByteArray) : Except ScriptError (List Json) :=
  match String.fromUTF8? content with
  | none => .error (.raised .unicodeDecode)
  | some text =>
    match loads lib.interpreter (String.ofList (universalNewlines text.toList)) with
    | .error .jsonDecode => .error (.refused "cannot read migration manifest: not JSON")
    | .error e => .error (.raised e)
    | .ok manifest => do
      let members ← membersOf manifest
      match equalsOne lib (get? members "format"), get? members "files" with
      | true, some (.arr entries) => .ok entries
      | _, _ => .error (.refused "unsupported or invalid migration manifest")

/-- `except OSError as exc`. -/
def osError? : ScriptError → Option String
  | .raised (.os exc) => some exc
  | _ => none

/-- `restore_files`. -/
def restoreFiles (root backup : PosixPath) : Script Unit := do
  match ← (readBytes (backup.child manifestName)).attempt osError? with
  | .error exc => refuse s!"cannot read migration manifest: {exc}"
  | .ok content =>
    let entries ← done (parseManifest lib content)
    restoreEntries lib root backup entries

/-- `except (MigrationError, OSError, subprocess.SubprocessError) as exc`. -/
def reported? : ScriptError → Option String
  | .refused message => some message
  | .raised (.os exc) => some exc
  | .raised (.other name) => if name = "SubprocessError" then some name else none
  | .raised _ => none

/-- The `try` statement of `main` with `--restore`. -/
def restoreCommand (root backup : PosixPath) : Script ℕ := do
  match ← (restoreFiles lib root backup).attempt reported? with
  | .ok () => return 0
  | .error _ => return 1

/-- `main` with `--restore`, both paths resolved, with its exit status. -/
def restoreMain (root backup : PosixPath) : Script ℕ := do
  if root = ⟨"/", []⟩ then
    let uid ← geteuid
    if uid ≠ 0 then return 1
    else restoreCommand lib root backup
  else restoreCommand lib root backup

variable {lib} {absolute : String} {destination : PosixPath} {digest : Option Json} {m : Int}
  {mode : Except ScriptError Int} {data : ByteArray}

theorem putBack_of_match (h : equalsText digest (lib.sha256 data)) :
    putBack lib absolute destination digest (.ok m) data = atomicWrite destination data m := by
  rw [putBack, if_pos h]
  rfl

theorem putBack_of_error (h : equalsText digest (lib.sha256 data)) {e : ScriptError} :
    putBack lib absolute destination digest (.error e) data = raise e := by
  rw [putBack, if_pos h]
  rfl

theorem putBack_of_mismatch (h : ¬ equalsText digest (lib.sha256 data)) :
    putBack lib absolute destination digest mode data =
      refuse s!"backup checksum failed for {absolute}" := if_neg h

end Restore

/-! ## A host -/

end Snarkypuss.Migration
