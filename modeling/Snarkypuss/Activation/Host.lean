import Snarkypuss.Calls.Program
import Snarkypuss.Netfilter.Tables

/-!
# The host of the activation scripts

What the scripts read and change: the packet filter, the forwarding switch, the services, the
files, the activation records with their locks, and the rollback timers. A command is answered
with whether it exited with status zero. Files hold decoded text.

## Main definitions

* `Record`: the activation record
* `Command`, `HostCall`, `host`: the calls of the scripts
* `Host`: the state that the calls act on
* `Platform`: what the scripts find installed
* `Command.run`, `Platform.handler`: the calls when everything that is asked is done
-/

namespace Snarkypuss

namespace Activation

open Netfilter (Tables TableName)

/-! ## Records -/

abbrev Token := String

inductive Status
  | pending | confirmed | rolledBack
  deriving DecidableEq

/-- `service_state`. -/
structure CapturedService where
  unit : String
  active : Bool
  enabled : Bool
  deriving DecidableEq

/-- The activation record. The output of `iptables-save` stands for the tables it prints. -/
structure Record where
  token : Token
  status : Status
  iptablesSave : Tables
  ipForward : String
  services : List CapturedService
  persistentRulesPath : String
  persistentRulesExisted : Bool
  persistentRules : String

/-! ## Calls -/

inductive ServiceVerb
  | isActive | isEnabled | enable | disable | start | stop | enableNow | disableNow
  deriving DecidableEq

/-- The external commands. `systemdRun` schedules the automatic rollback of a token, and
`rollback` runs the rollback script on it with `--force`. -/
inductive Command
  | iptables (table : TableName) (command : Netfilter.Command)
  | iptablesRestore (saved : Tables)
  | netfilterPersistentSave
  | sysctlWrite (ipForward : String)
  | systemctl (verb : ServiceVerb) (unit : String)
  | daemonReload
  | stopTimer (token : Token)
  | systemdRun (token : Token) (seconds : Int)
  | rollback (token : Token)
  | ipLinkShow (device : String)
  | wgQuickStrip (tunnel : String)
  | dnsmasqTest (config : String)

/-- The calls of the scripts. The two commands whose output is captured are calls of their own,
answered with the output when they exit with status zero. -/
inductive HostCall
  | geteuid
  | isFile (path : String)
  | readText (path : String)
  | writeText (path text : String)
  | unlink (path : String)
  | makeParent (path : String)
  | chmod (path : String)
  | command (c : Command)
  | iptablesSave
  | sysctlRead
  | recordIsFile (token : Token)
  | readRecord (token : Token)
  | writeRecord (token : Token) (record : Record)
  | lock (token : Token)
  | unlock (token : Token)

@[reducible] def HostCall.Reply : HostCall → Type
  | geteuid => ℕ
  | isFile _ => Bool
  | readText _ => String
  | command _ => Bool
  | iptablesSave => Option Tables
  | sysctlRead => Option String
  | recordIsFile _ => Bool
  | readRecord _ => Record
  | _ => Unit

/-- The interface of the host. -/
abbrev host : Interface := ⟨HostCall, HostCall.Reply⟩

/-- The exceptions of the scripts. `outOfFuel` is not one of Python's: it stands for a loop that
has been followed for as long as the model was told to. -/
inductive ScriptError
  | activation (message : String)
  | fileNotFound
  | os (message : String)
  | calledProcess
  | jsonDecode
  | unicodeDecode
  | outOfFuel
  deriving DecidableEq

/-- Programs of the scripts. -/
abbrev Script (A : Type) := Program host ScriptError A

abbrev call (c : HostCall) : Script c.Reply := Program.call (I := host) c

/-! ## State -/

structure UnitState where
  enabled : Bool
  active : Bool
  deriving DecidableEq

/-- What the calls act on. A lock is held by a process. -/
structure Host where
  tables : Tables
  ipForward : String
  services : String → UnitState
  files : String → Option String
  records : Token → Option Record
  timers : Token → Bool
  spawned : List Token
  locks : Token → Option ℕ
  euid : ℕ

/-- The part of the state that an activation changes provisionally. -/
structure Live where
  tables : Tables
  ipForward : String
  services : String → UnitState

def Host.live (s : Host) : Live := ⟨s.tables, s.ipForward, s.services⟩

def dnsService : String := "snarkypuss-dns.service"

def wgQuickService (tunnel : String) : String := "wg-quick@" ++ tunnel ++ ".service"

/-- What the scripts find installed: the tunnel that the unit of the DNS service was generated
for, and the text that `netfilter-persistent save` writes for the tables. -/
structure Platform where
  dnsTunnel : String
  printRules : Tables → String

/-- `/etc/iptables/rules.v4`. -/
def persistentRulesPath : String := "/etc/iptables/rules.v4"

/-- Python's universal newlines: what a text file is read as. -/
def universalNewlinesChars : List Char → List Char
  | '\r' :: '\n' :: cs => '\n' :: universalNewlinesChars cs
  | '\r' :: cs => '\n' :: universalNewlinesChars cs
  | c :: cs => c :: universalNewlinesChars cs
  | [] => []

def universalNewlines (text : String) : String := String.ofList (universalNewlinesChars text.toList)

namespace Host

variable (platform : Platform) (s : Host)

/-- A unit is marked active or inactive. -/
def setActive (unit : String) (active : Bool) : Host :=
  { s with services := Function.update s.services unit { s.services unit with active := active } }

/-- A unit is enabled or disabled. -/
def setEnabled (unit : String) (enabled : Bool) : Host :=
  { s with services := Function.update s.services unit { s.services unit with enabled := enabled } }

/-- Starting a unit. `Requires=` of the DNS unit starts its tunnel too. -/
def startUnit (unit : String) : Host :=
  if unit = dnsService then (s.setActive (wgQuickService platform.dnsTunnel) true).setActive unit true
  else s.setActive unit true

/-- Stopping a unit. `Requires=` of the DNS unit stops it with its tunnel. -/
def stopUnit (unit : String) : Host :=
  if unit = wgQuickService platform.dnsTunnel then (s.setActive dnsService false).setActive unit false
  else s.setActive unit false

section Services

variable (unit unit' : String) (b : Bool)

@[simp] theorem active_setActive : ((s.setActive unit b).services unit').active =
    if unit' = unit then b else (s.services unit').active := by
  unfold setActive
  by_cases h : unit' = unit
  · subst h
    simp
  · simp [h]

@[simp] theorem enabled_setActive :
    ((s.setActive unit b).services unit').enabled = (s.services unit').enabled := by
  unfold setActive
  by_cases h : unit' = unit
  · subst h
    simp
  · simp [h]

@[simp] theorem active_setEnabled :
    ((s.setEnabled unit b).services unit').active = (s.services unit').active := by
  unfold setEnabled
  by_cases h : unit' = unit
  · subst h
    simp
  · simp [h]

@[simp] theorem enabled_setEnabled : ((s.setEnabled unit b).services unit').enabled =
    if unit' = unit then b else (s.services unit').enabled := by
  unfold setEnabled
  by_cases h : unit' = unit
  · subst h
    simp
  · simp [h]

@[simp] theorem enabled_startUnit :
    ((s.startUnit platform unit).services unit').enabled = (s.services unit').enabled := by
  unfold startUnit
  split <;> simp

@[simp] theorem enabled_stopUnit :
    ((s.stopUnit platform unit).services unit').enabled = (s.services unit').enabled := by
  unfold stopUnit
  split <;> simp

theorem active_startUnit : ((s.startUnit platform unit).services unit').active =
    if unit' = unit ∨ unit = dnsService ∧ unit' = wgQuickService platform.dnsTunnel then true
    else (s.services unit').active := by
  unfold startUnit
  split
  · rename_i h
    subst h
    by_cases hunit : unit' = dnsService
    · simp [hunit]
    · by_cases htunnel : unit' = wgQuickService platform.dnsTunnel <;> simp [hunit, htunnel]
  · rename_i h
    simp [h]

theorem active_stopUnit : ((s.stopUnit platform unit).services unit').active =
    if unit' = unit ∨ unit = wgQuickService platform.dnsTunnel ∧ unit' = dnsService then false
    else (s.services unit').active := by
  unfold stopUnit
  split
  · rename_i h
    subst h
    by_cases hunit : unit' = dnsService
    · simp [hunit]
    · by_cases htunnel : unit' = wgQuickService platform.dnsTunnel <;> simp [hunit, htunnel]
  · rename_i h
    simp [h]

end Services

/-- `systemctl`, when it does what it is asked. -/
def systemctl (unit : String) : ServiceVerb → Bool × Host
  | .isActive => ((s.services unit).active, s)
  | .isEnabled => ((s.services unit).enabled, s)
  | .enable => (true, s.setEnabled unit true)
  | .disable => (true, s.setEnabled unit false)
  | .start => (true, s.startUnit platform unit)
  | .stop => (true, s.stopUnit platform unit)
  | .enableNow => (true, (s.setEnabled unit true).startUnit platform unit)
  | .disableNow => (true, (s.setEnabled unit false).stopUnit platform unit)

end Host

/-- A command that does what it is asked. -/
def Command.run (platform : Platform) (s : Host) : Command → Bool × Host
  | iptables table command =>
    ((s.tables.execute table command).1, { s with tables := (s.tables.execute table command).2 })
  | iptablesRestore saved => (true, { s with tables := s.tables.restore saved })
  | netfilterPersistentSave => (true, { s with
      files := Function.update s.files persistentRulesPath (some (platform.printRules s.tables)) })
  | sysctlWrite value => (true, { s with ipForward := value })
  | systemctl verb unit => s.systemctl platform unit verb
  | daemonReload => (true, s)
  | stopTimer token => (true, { s with timers := Function.update s.timers token false })
  | systemdRun token _ => (true, { s with timers := Function.update s.timers token true })
  | rollback token => (true, { s with spawned := token :: s.spawned })
  | ipLinkShow _ => (true, s)
  | wgQuickStrip _ => (true, s)
  | dnsmasqTest _ => (true, s)

/-- The calls of a process when everything that is asked is done. Reading what is not there
raises. -/
def Platform.handler (platform : Platform) (process : ℕ) : Handler host ScriptError Host
  | .geteuid, s => (.ok s.euid, s)
  | .isFile path, s => (.ok (s.files path).isSome, s)
  | .readText path, s =>
    match s.files path with
    | some text => (.ok (universalNewlines text), s)
    | none => (.error .fileNotFound, s)
  | .writeText path text, s => (.ok (), { s with files := Function.update s.files path (some text) })
  | .unlink path, s => (.ok (), { s with files := Function.update s.files path none })
  | .makeParent _, s => (.ok (), s)
  | .chmod _, s => (.ok (), s)
  | .command c, s => (.ok (c.run platform s).1, (c.run platform s).2)
  | .iptablesSave, s => (.ok (some s.tables), s)
  | .sysctlRead, s => (.ok (some s.ipForward), s)
  | .recordIsFile token, s => (.ok (s.records token).isSome, s)
  | .readRecord token, s =>
    match s.records token with
    | some record => (.ok record, s)
    | none => (.error .fileNotFound, s)
  | .writeRecord token record, s =>
    (.ok (), { s with records := Function.update s.records token (some record) })
  | .lock token, s => (.ok (), { s with locks := Function.update s.locks token (some process) })
  | .unlock token, s => (.ok (), { s with locks := Function.update s.locks token none })

end Activation

end Snarkypuss
