import Snarkypuss.Activation.Host

/-!
# The activation scripts

`snarkypuss-activate.py` and `snarkypuss-rollback.py` as programs over the calls they make, from
the checked setup file and the parsed arguments on. What they print is left out.

## Main definitions

* `removeOwnedFirewall`, `applyFirewall`: the two chains that the scripts own
* `apply`, `confirm`: `--apply` and `--confirm` of the activation script
* `rollback`: the rollback script
-/

namespace Snarkypuss

namespace Activation

open Netfilter (Rule TableName)

/-! ## The activation script -/

def forwardChain : String := "SNARKYPUSS_FORWARD"
def natChain : String := "SNARKYPUSS_NAT"
def legacyDnsService : String := "dnsmasq.service"
def dnsConfig : String := "/etc/snarkypuss/dnsmasq.conf"
def dnsUnit : String := "/etc/systemd/system/snarkypuss-dns.service"
def legacyDnsMarkers : List String :=
  ["/etc/dnsmasq.d/snarkypuss.conf", "/etc/systemd/system/dnsmasq.service.d/snarkypuss.conf"]
def rollbackScript : String := "scripts/snarkypuss-rollback.py"

/-- The checked setup file, as `read_activation_config` returns it. -/
structure ActivationConfig where
  tunnelInterface : String
  protectedEgressInterface : String
  clientCidr : String

/-- The arguments of `--apply`. -/
structure Arguments where
  rollbackAfter : Int
  consoleConfirmed : Bool
  providerLeakProtectionConfirmed : Bool

/-- `if not condition: raise ActivationError(message)`. -/
def require (condition : Bool) (message : String) : Script Unit :=
  if condition then pure () else Program.raise (.activation message)

/-- `except FileNotFoundError`. -/
def fileNotFound? : ScriptError → Option Unit
  | .fileNotFound => some ()
  | _ => none

/-- `run`, without `check`: whether the command exited with status zero. -/
def runUnchecked (c : Command) : Script Bool := do
  match ← (call (.command c)).attempt fileNotFound? with
  | .ok status => pure status
  | .error () => Program.raise (.activation "required command is unavailable")

/-- `run`, with `check`. -/
def run (c : Command) : Script Unit := do
  let status ← runUnchecked c
  require status "command failed"

/-- `output`: a command that must exit with status zero, and what it printed. -/
def output {A : Type} (c : Script (Option A)) : Script A := do
  match ← c.attempt fileNotFound? with
  | .ok (some a) => pure a
  | .ok none => Program.raise (.activation "command failed")
  | .error () => Program.raise (.activation "required command is unavailable")

def serviceState (unit : String) : Script CapturedService := do
  let active ← runUnchecked (.systemctl .isActive unit)
  let enabled ← runUnchecked (.systemctl .isEnabled unit)
  pure { unit, active, enabled }

/-- `any(path.is_file() for path in paths)`. -/
def anyIsFile : List String → Script Bool
  | [] => pure false
  | path :: paths => do
    if ← call (.isFile path) then pure true
    else anyIsFile paths

def legacyDnsOwnedBySnarkypuss : Script Bool := anyIsFile legacyDnsMarkers

/-! ### The owned chains -/

/-- The `while` loops of `remove_owned_firewall`, for as many rounds as `fuel` allows. -/
def removeJumps (table : TableName) (parent chain : String) : ℕ → Script Unit
  | 0 => Program.raise .outOfFuel
  | fuel + 1 => do
    if ← runUnchecked (.iptables table (.check parent (.jumpTo chain))) then
      run (.iptables table (.delete parent (.jumpTo chain)))
      removeJumps table parent chain fuel
    else pure ()

/-- One half of `remove_owned_firewall`. -/
def removeOwnedChain (table : TableName) (parent chain : String) (fuel : ℕ) : Script Unit := do
  removeJumps table parent chain fuel
  let _ ← runUnchecked (.iptables table (.flush chain))
  let _ ← runUnchecked (.iptables table (.deleteChain chain))

def removeOwnedFirewall (fuel : ℕ) : Script Unit := do
  removeOwnedChain .filter "FORWARD" forwardChain fuel
  removeOwnedChain .nat "POSTROUTING" natChain fuel

/-- The rules of `SNARKYPUSS_FORWARD`. -/
def forwardRules (config : ActivationConfig) : List Rule :=
  [⟨["-m", "conntrack", "--ctstate", "ESTABLISHED,RELATED"], .target "ACCEPT"⟩,
    ⟨["-i", config.tunnelInterface, "-s", config.clientCidr], .target "ACCEPT"⟩,
    ⟨[], .target "RETURN"⟩]

/-- The rules of `SNARKYPUSS_NAT`. -/
def natRules (config : ActivationConfig) : List Rule :=
  [⟨["-s", config.clientCidr], .target "MASQUERADE"⟩, ⟨[], .target "RETURN"⟩]

/-- The rules of a chain, appended one after the other. -/
def appendRules (table : TableName) (chain : String) : List Rule → Script Unit
  | [] => pure ()
  | rule :: rules => do
    run (.iptables table (.append chain rule))
    appendRules table chain rules

/-- One half of `apply_firewall`: a chain with its rules, and the jump to it. -/
def createOwnedChain (table : TableName) (parent chain : String) (rules : List Rule) :
    Script Unit := do
  run (.iptables table (.newChain chain))
  appendRules table chain rules
  run (.iptables table (.insertFirst parent (.jumpTo chain)))

def applyFirewall (fuel : ℕ) (config : ActivationConfig) : Script Unit := do
  removeOwnedFirewall fuel
  createOwnedChain .filter "FORWARD" forwardChain (forwardRules config)
  createOwnedChain .nat "POSTROUTING" natChain (natRules config)

/-! ### Confirming -/

/-- `[0-9a-f]{16}`. -/
def isToken (token : Token) : Bool :=
  token.toList.length == 16 && token.toList.all fun c => c.isDigit || ('a' ≤ c && c ≤ 'f')

/-- The text of a status in the record. -/
def Status.value : Status → String
  | pending => "pending"
  | confirmed => "confirmed"
  | rolledBack => "rolled_back"

/-- The locked part of `confirm`. -/
def confirmLocked (token : Token) : Script ℕ := do
  let state ← call (.readRecord token)
  require (state.status = .pending) ("activation status is already " ++ state.status.value)
  run .netfilterPersistentSave
  let _ ← runUnchecked (.stopTimer token)
  call (.writeRecord token { state with status := .confirmed })
  pure 0

/-- `confirm`, behind the check that it runs as root. -/
def confirm (token : Token) : Script ℕ := do
  let euid ← call .geteuid
  require (euid = 0) "--confirm must run as root"
  require (isToken token) "activation token must contain 16 lowercase hexadecimal digits"
  let exists_ ← call (.recordIsFile token)
  require exists_ ("activation token does not exist: " ++ token)
  call (.lock token)
  (confirmLocked token).finally_ (call (.unlock token))

/-! ### Applying -/

/-- The checks of `apply` before it captures anything. -/
def checkApply (arguments : Arguments) (config : ActivationConfig) : Script Unit := do
  let euid ← call .geteuid
  require (euid = 0) "--apply must run as root"
  require arguments.consoleConfirmed
    "--apply requires --console-confirmed after verifying VPS console access"
  require arguments.providerLeakProtectionConfirmed
    ("--apply requires --provider-leak-protection-confirmed after verifying " ++
      "the provider kill switch or equivalent policy")
  require (30 ≤ arguments.rollbackAfter ∧ arguments.rollbackAfter ≤ 600)
    "--rollback-after must be between 30 and 600 seconds"
  let wireguardConfig := "/etc/wireguard/" ++ config.tunnelInterface ++ ".conf"
  require (← call (.isFile wireguardConfig))
    ("generated WireGuard configuration is missing: " ++ wireguardConfig)
  require (← call (.isFile dnsConfig)) ("generated DNS configuration is missing: " ++ dnsConfig)
  require (← call (.isFile dnsUnit)) ("generated DNS service unit is missing: " ++ dnsUnit)
  run (.ipLinkShow config.protectedEgressInterface)
  run (.wgQuickStrip config.tunnelInterface)
  run (.dnsmasqTest dnsConfig)

/-- The record that `apply` writes, from the state of the legacy DNS service. -/
def capture (token : Token) (config : ActivationConfig) (legacyDns : CapturedService) :
    Script Record := do
  require (← call (.isFile rollbackScript)) ("rollback script is missing: " ++ rollbackScript)
  let persistent ←
    if ← call (.isFile persistentRulesPath) then call (.readText persistentRulesPath)
    else pure ""
  let wireguard ← serviceState (wgQuickService config.tunnelInterface)
  let dns ← serviceState dnsService
  let iptablesSave ← output (call .iptablesSave)
  let ipForward ← output (call .sysctlRead)
  let persistentRulesExisted ← call (.isFile persistentRulesPath)
  pure {
    token, status := .pending, iptablesSave, ipForward
    services := [wireguard, dns, legacyDns]
    persistentRulesPath, persistentRulesExisted
    persistentRules := persistent }

/-- The `try` block of `apply`: the changes of live state. -/
def activate (fuel : ℕ) (config : ActivationConfig) (legacyOwned : Bool)
    (legacyDns : CapturedService) : Script Unit := do
  applyFirewall fuel config
  run (.sysctlWrite "1")
  run .daemonReload
  run (.systemctl .enableNow (wgQuickService config.tunnelInterface))
  if legacyOwned && (legacyDns.active || legacyDns.enabled) then
    run (.systemctl .disableNow legacyDnsService)
  run (.systemctl .enableNow dnsService)

/-- `except ActivationError`. -/
def activationError? : ScriptError → Option String
  | .activation message => some message
  | _ => none

/-- The end of `apply`, from its record on. -/
def activateRecorded (fuel : ℕ) (token : Token) (arguments : Arguments) (config : ActivationConfig)
    (legacyOwned : Bool) (legacyDns : CapturedService) (state : Record) : Script ℕ := do
  call (.writeRecord token state)
  run (.systemdRun token arguments.rollbackAfter)
  match ← (activate fuel config legacyOwned legacyDns).attempt activationError? with
  | .ok () => pure 0
  | .error message => do
    let _ ← runUnchecked (.rollback token)
    Program.raise (.activation message)

/-- `apply`, with the token that it draws. -/
def apply (fuel : ℕ) (token : Token) (arguments : Arguments) (config : ActivationConfig) :
    Script ℕ := do
  checkApply arguments config
  let legacyDns ← serviceState legacyDnsService
  let legacyOwned ← legacyDnsOwnedBySnarkypuss
  require (!(legacyDns.active || legacyDns.enabled) || legacyOwned)
    ("dnsmasq.service is active or enabled but is not recognized as a legacy " ++
      "Snarkypuss resolver; refusing to disable an administrator-owned service")
  let state ← capture token config legacyDns
  activateRecorded fuel token arguments config legacyOwned legacyDns state

/-! ## The rollback script -/

/-- `run` of the rollback script, without `check`. -/
def rollbackRunUnchecked (c : Command) : Script Unit := do
  let _ ← call (.command c)

/-- `run` of the rollback script, with `check`. -/
def rollbackRun (c : Command) : Script Unit := do
  let status ← call (.command c)
  if status then pure () else Program.raise .calledProcess

def restoreService (service : CapturedService) : Script Unit := do
  rollbackRunUnchecked (.systemctl (if service.enabled then .enable else .disable) service.unit)
  rollbackRunUnchecked (.systemctl (if service.active then .start else .stop) service.unit)

def restoreServices : List CapturedService → Script Unit
  | [] => pure ()
  | service :: services => do
    restoreService service
    restoreServices services

/-- The live state that the record captured. -/
def restoreLive (state : Record) : Script Unit := do
  rollbackRun (.iptablesRestore state.iptablesSave)
  rollbackRun (.sysctlWrite state.ipForward)
  restoreServices state.services

/-- The persistent rules that the record captured. -/
def restorePersistentRules (state : Record) : Script Unit :=
  if state.persistentRulesExisted then do
    call (.makeParent state.persistentRulesPath)
    call (.writeText state.persistentRulesPath state.persistentRules)
    call (.chmod state.persistentRulesPath)
  else call (.unlink state.persistentRulesPath)

/-- The `try` block of the rollback script. -/
def restore (token : Token) (state : Record) : Script ℕ := do
  restoreLive state
  if state.status = .confirmed then restorePersistentRules state
  call (.writeRecord token { state with status := .rolledBack })
  rollbackRunUnchecked (.stopTimer state.token)
  pure 0

/-- `except (KeyError, OSError, subprocess.CalledProcessError, json.JSONDecodeError)`. -/
def rollbackFailure? : ScriptError → Option Unit
  | .fileNotFound | .os _ | .calledProcess | .jsonDecode => some ()
  | _ => none

/-- `except (OSError, json.JSONDecodeError)`. -/
def unreadable? : ScriptError → Option Unit
  | .fileNotFound | .os _ | .jsonDecode => some ()
  | _ => none

/-- What the rollback script does with the record it has read. -/
def rollbackRecord (token : Token) (force automatic : Bool) (state : Record) : Script ℕ :=
  if state.status = .rolledBack then pure 0
  else if state.status = .confirmed && !force then
    if !automatic then pure 1 else pure 0
  else do
    match ← (restore token state).attempt rollbackFailure? with
    | .ok status => pure status
    | .error () => pure 1

/-- The locked part of the rollback script. -/
def rollbackLocked (token : Token) (force automatic : Bool) : Script ℕ := do
  match ← (call (.readRecord token)).attempt unreadable? with
  | .error () => pure 1
  | .ok state => rollbackRecord token force automatic state

/-- `main` of the rollback script. -/
def rollback (token : Token) (force automatic : Bool) : Script ℕ := do
  let euid ← call .geteuid
  if euid ≠ 0 then pure 1
  else if !(← call (.recordIsFile token)) then pure 1
  else do
    call (.lock token)
    (rollbackLocked token force automatic).finally_ (call (.unlock token))

end Activation

end Snarkypuss
