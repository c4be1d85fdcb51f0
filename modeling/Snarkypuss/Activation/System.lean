import Snarkypuss.Activation.Restoration
import Snarkypuss.Calls.Processes

/-!
# The activation scripts as processes

Any number of applications, confirmations and rollbacks on one host, interleaved call by call.
Every command may fail, leaving anything of the part of the host that it works on; a record write
may fail; a process may be stopped between two calls, which releases its locks; and a timer that
is armed may run the automatic rollback of its token. A record is replaced by a rename, so a write
that fails leaves the old one.

## Main definitions

* `Request`, `scripts`: what is started, and the system that it runs on
* `Command.mayLeave`, `HostCall.Fails`, `Answers`: how a call may be answered
* `HostCall.Leaves`, `HostCall.Tells`: what a call leaves, and what its reply tells

## Main results

* `Answers.leaves`, `Answers.tells`: what is known of the host around a call
-/

namespace Snarkypuss

namespace Activation

open Netfilter (Tables TableName)

/-! ## The system -/

/-- What a process is started for. -/
inductive Request
  | apply (fuel : ℕ) (token : Token) (arguments : Arguments) (config : ActivationConfig)
  | confirm (token : Token)
  | rollback (token : Token) (force automatic : Bool)

namespace Request

def token : Request → Token
  | apply _ token _ _ | confirm token | rollback token _ _ => token

def isApply : Request → Bool
  | apply .. => true
  | _ => false

def isConfirm : Request → Bool
  | confirm _ => true
  | _ => false

def isRollback : Request → Bool
  | rollback .. => true
  | _ => false

def program : Request → Script ℕ
  | apply fuel token arguments config => Activation.apply fuel token arguments config
  | confirm token => Activation.confirm token
  | rollback token force automatic => Activation.rollback token force automatic

end Request

/-- What a command may leave when it fails. -/
def Command.mayLeave (s t : Host) : Command → Prop
  | iptables name _ => ∃ tables : Tables, t = { s with tables := tables } ∧
    ∀ name', name' ≠ name → tables name' = s.tables name'
  | iptablesRestore _ => ∃ tables : Tables, t = { s with tables := tables }
  | netfilterPersistentSave => ∃ rules, t =
    { s with files := Function.update s.files persistentRulesPath rules }
  | sysctlWrite _ => ∃ value, t = { s with ipForward := value }
  | systemctl .isActive _ | systemctl .isEnabled _ => t = s
  | systemctl _ _ => ∃ services, t = { s with services := services }
  | stopTimer token => t = s ∨ t = { s with timers := Function.update s.timers token false }
  | systemdRun token _ => t = s ∨ t = { s with timers := Function.update s.timers token true }
  | rollback token => t = s ∨ t = { s with spawned := token :: s.spawned }
  | daemonReload | ipLinkShow _ | wgQuickStrip _ | dnsmasqTest _ => t = s

/-- A call that fails: its reply, and what it leaves. A lock is always released. -/
def HostCall.Fails (s : Host) : (c : HostCall) → Except ScriptError c.Reply → Host → Prop
  | .command c, .ok status, t => status = false ∧ c.mayLeave s t
  | .command c, .error _, t => c.mayLeave s t
  | .iptablesSave, .ok printed, t => printed = none ∧ t = s
  | .sysctlRead, .ok printed, t => printed = none ∧ t = s
  | .writeText path _, .error _, t => ∃ text, t =
    { s with files := Function.update s.files path text }
  | .unlock _, _, _ => False
  | _, .error _, t => t = s
  | _, .ok _, _ => False

/-- A call that can be done: a lock is taken when nobody holds it. -/
def HostCall.Enabled (s : Host) : HostCall → Prop
  | .lock token => s.locks token = none
  | _ => True

/-- How the call of a process may be answered. -/
def Answers (platform : Platform) (process : ℕ) (c : HostCall) (s : Host)
    (reply : Except ScriptError c.Reply) (t : Host) : Prop :=
  c.Enabled s ∧ platform.handler process c s = (reply, t) ∨ c.Fails s reply t

/-- The processes of the scripts. -/
abbrev Activations := Machine Request host ScriptError Host ℕ

/-- What may be started: an application with a token of its own, a confirmation, a rollback, and
the automatic rollback of an armed timer, which is then armed no more. -/
def Starts (M : Activations) : Request → Host → Prop
  | .apply _ token _ _, s => s = M.shared ∧ M.shared.records token = none ∧
    ∀ p ∈ M.processes, p.request.isApply = true → p.request.token ≠ token
  | .confirm _, s => s = M.shared
  | .rollback token force automatic, s => s = M.shared ∨
    force = false ∧ automatic = true ∧ M.shared.timers token = true ∧
      s = { M.shared with timers := Function.update M.shared.timers token false }

/-- The host after a process has stopped: its locks are released. -/
def Host.releases (process : ℕ) (s : Host) : Host :=
  { s with locks := fun token => if s.locks token = some process then none else s.locks token }

/-- The scripts as a system. Of the activation `only`, when it is given, and of no other. -/
def scripts (platform : Platform) (only : Option Token) :
    System Request host ScriptError Host ℕ where
  program := Request.program
  starts M r s := Starts M r s ∧ ∀ token ∈ only, r.token = token
  answers := Answers platform
  releases := Host.releases

/-- What the scripts do in a step. -/
abbrev Activity := Happening Request host ScriptError

/-- A process of the scripts. -/
abbrev Activity.Process := Snarkypuss.Process Request host ScriptError ℕ

/-- The calls that work on the live state. -/
def HostCall.ChangesLive : HostCall → Prop
  | .command (.iptables _ _) | .command (.iptablesRestore _) | .command (.sysctlWrite _) => True
  | .command (.systemctl verb _) => verb ≠ .isActive ∧ verb ≠ .isEnabled
  | _ => False

/-- The reply of a call that has failed. -/
def HostCall.Failed : (c : HostCall) → Except ScriptError c.Reply → Prop
  | .command _, .ok status => status = false
  | _, .ok _ => False
  | _, .error _ => True

/-! ## What a call leaves -/

/-- What a call leaves, by its reply. -/
def HostCall.Leaves (process : ℕ) (s t : Host) : (c : HostCall) → Except ScriptError c.Reply → Prop
  | .command c, _ => c.mayLeave s t
  | .writeText path text, .ok _ =>
    t = { s with files := Function.update s.files path (some text) }
  | .writeText path _, .error _ => ∃ text, t =
    { s with files := Function.update s.files path text }
  | .unlink path, .ok _ => t = { s with files := Function.update s.files path none }
  | .writeRecord token record, .ok _ =>
    t = { s with records := Function.update s.records token (some record) }
  | .lock token, .ok _ => s.locks token = none ∧ t = s.locked token process
  | .unlock token, _ => t = s.unlocked token
  | _, _ => t = s

/-- What a reply tells of the host. -/
def HostCall.Tells (s : Host) : (c : HostCall) → Except ScriptError c.Reply → Prop
  | .geteuid, .ok euid => euid = s.euid
  | .isFile path, .ok found => found = (s.files path).isSome
  | .readText path, .ok text => some text = (s.files path).map universalNewlines
  | .recordIsFile token, .ok found => found = (s.records token).isSome
  | .readRecord token, .ok record => s.records token = some record
  | _, _ => True

section Leaves

variable {platform : Platform} {process : ℕ} {s t : Host} {c : HostCall}
  {reply : Except ScriptError c.Reply}

/-- What is done is among what may be left. -/
theorem run_mayLeave (platform : Platform) (s : Host) (c : Command) :
    c.mayLeave s (c.run platform s).2 := by
  have hservices : ∀ u : Host, u = { s with services := u.services } →
      ∃ services, u = { s with services := services } := fun u hu => ⟨_, hu⟩
  cases c with
  | iptables name command =>
    exact ⟨_, rfl, fun name' hne => execute_of_ne s.tables command hne⟩
  | iptablesRestore saved => exact ⟨_, rfl⟩
  | netfilterPersistentSave => exact ⟨_, rfl⟩
  | sysctlWrite value => exact ⟨_, rfl⟩
  | systemctl verb unit =>
    cases verb with
    | isActive => rfl
    | isEnabled => rfl
    | enable => exact hservices _ rfl
    | disable => exact hservices _ rfl
    | start => exact hservices _ (startUnit_rest platform s unit)
    | stop => exact hservices _ (stopUnit_rest platform s unit)
    | enableNow => exact hservices _ (startUnit_rest platform (s.setEnabled unit true) unit)
    | disableNow => exact hservices _ (stopUnit_rest platform (s.setEnabled unit false) unit)
  | daemonReload => rfl
  | stopTimer token => exact .inr rfl
  | systemdRun token seconds => exact .inr rfl
  | rollback token => exact .inr rfl
  | ipLinkShow device => rfl
  | wgQuickStrip tunnel => rfl
  | dnsmasqTest config => rfl

theorem Answers.leaves (h : Answers platform process c s reply t) : c.Leaves process s t reply := by
  rcases h with ⟨henabled, h⟩ | h
  · cases c with
    | command c =>
      obtain rfl : (c.run platform s).2 = t := congrArg Prod.snd h
      exact run_mayLeave platform s c
    | readText path =>
      simp only [Platform.handler] at h
      cases hfile : s.files path <;> rw [hfile] at h <;> exact (congrArg Prod.snd h).symm
    | readRecord token =>
      simp only [Platform.handler] at h
      cases hrecord : s.records token <;> rw [hrecord] at h <;> exact (congrArg Prod.snd h).symm
    | lock token =>
      cases h
      exact ⟨henabled, rfl⟩
    | _ =>
      cases h
      rfl
  · cases c <;> cases reply <;> first | exact h | exact h.2 | exact h.elim

theorem Answers.tells (h : Answers platform process c s reply t) : c.Tells s reply := by
  rcases h with ⟨-, h⟩ | h
  · cases c with
    | readText path =>
      simp only [Platform.handler] at h
      cases hfile : s.files path with
      | none =>
        rw [hfile] at h
        obtain rfl : (.error .fileNotFound : Except ScriptError String) = reply := congrArg Prod.fst h
        trivial
      | some text =>
        rw [hfile] at h
        obtain rfl : (.ok (universalNewlines text) : Except ScriptError String) = reply :=
          congrArg Prod.fst h
        show some _ = Option.map _ _
        rw [hfile]
        rfl
    | readRecord token =>
      simp only [Platform.handler] at h
      cases hrecord : s.records token with
      | none =>
        rw [hrecord] at h
        obtain rfl : (.error .fileNotFound : Except ScriptError Record) = reply := congrArg Prod.fst h
        trivial
      | some record =>
        rw [hrecord] at h
        obtain rfl : (.ok record : Except ScriptError Record) = reply := congrArg Prod.fst h
        exact hrecord
    | geteuid =>
      cases h
      rfl
    | isFile path =>
      cases h
      rfl
    | recordIsFile token =>
      cases h
      rfl
    | _ => cases reply <;> trivial
  · cases c <;> cases reply <;> trivial

/-- A command touches neither records nor locks, and only `netfilter-persistent` touches files. -/
theorem mayLeave_frame {c : Command} (h : c.mayLeave s t) :
    t.records = s.records ∧ t.locks = s.locks ∧ t.euid = s.euid ∧
      (c ≠ .netfilterPersistentSave → t.files = s.files) := by
  cases c with
  | iptables name command =>
    obtain ⟨tables, rfl, -⟩ := h
    exact ⟨rfl, rfl, rfl, fun _ => rfl⟩
  | iptablesRestore saved =>
    obtain ⟨tables, rfl⟩ := h
    exact ⟨rfl, rfl, rfl, fun _ => rfl⟩
  | netfilterPersistentSave =>
    obtain ⟨rules, rfl⟩ := h
    exact ⟨rfl, rfl, rfl, fun hne => absurd rfl hne⟩
  | sysctlWrite value =>
    obtain ⟨value, rfl⟩ := h
    exact ⟨rfl, rfl, rfl, fun _ => rfl⟩
  | systemctl verb unit =>
    have hsame : ∃ services, t = { s with services := services } := by
      cases verb <;> first | exact h | exact ⟨s.services, h⟩
    obtain ⟨services, rfl⟩ := hsame
    exact ⟨rfl, rfl, rfl, fun _ => rfl⟩
  | stopTimer token => rcases h with rfl | rfl <;> exact ⟨rfl, rfl, rfl, fun _ => rfl⟩
  | systemdRun token seconds => rcases h with rfl | rfl <;> exact ⟨rfl, rfl, rfl, fun _ => rfl⟩
  | rollback token => rcases h with rfl | rfl <;> exact ⟨rfl, rfl, rfl, fun _ => rfl⟩
  | _ =>
    obtain rfl := h
    exact ⟨rfl, rfl, rfl, fun _ => rfl⟩

end Leaves

end Activation

end Snarkypuss
