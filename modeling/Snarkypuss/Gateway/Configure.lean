import Snarkypuss.Calls.Histories
import Snarkypuss.Gateway.Host

/-!
# Generating the gateway's configuration

`snarkypuss-configure.py`: the texts that it generates, backups, atomic writes, and `main`. What is
printed is left out.

The search for a free name of a backup is bounded by a number of tries, and a run in which it is
exhausted is a run that was stopped there.

## Main definitions

* `rooted`, `privateKeyPath`, `wireguardPath`, `dnsmasqPath`, `dnsmasqSystemdPath`, `sysctlPath`
* `renderWireguard`, `renderDnsmasq`, `renderDnsmasqSystemd`, `sysctlText`
* `backupPath`, `atomicWrite`
* `generate`, `main`: the body of `main`, and `main`
-/

namespace Snarkypuss.Gateway

open Python Files Program

/-! ## Paths -/

/-- `text.removeprefix("/")`. -/
def removeSlash (s : String) : String :=
  match s.toList with
  | '/' :: cs => String.ofList cs
  | _ => s

/-- `rooted`. -/
def rooted (root : PosixPath) (absolutePath : String) : PosixPath :=
  root.join (PosixPath.ofString (removeSlash absolutePath))

section Targets

variable (root : PosixPath)

def privateKeyPath (interface : String) : PosixPath :=
  rooted root s!"/etc/wireguard/{interface}.private.key"

def wireguardPath (interface : String) : PosixPath :=
  rooted root s!"/etc/wireguard/{interface}.conf"

def dnsmasqPath : PosixPath := rooted root "/etc/snarkypuss/dnsmasq.conf"

def dnsmasqSystemdPath : PosixPath := rooted root "/etc/systemd/system/snarkypuss-dns.service"

def sysctlPath : PosixPath := rooted root "/etc/sysctl.d/90-snarkypuss.conf"

end Targets

/-! ## Texts -/

/-- `str(n)` of an integer. -/
def intText (n : Int) : String := if n < 0 then "-" ++ str n.natAbs else str n.natAbs

/-- `f"{n:#x}"`. -/
def hexText (n : Int) : String :=
  (if n < 0 then "-0x" else "0x") ++ String.ofList (hexDigits n.natAbs)

/-- `render_wireguard`. -/
def renderWireguard (config : GatewayConfig) (privateKey : String) : String :=
  "# Generated by scripts/snarkypuss-configure.py; do not add firewall commands here.\n" ++
  "[Interface]\n" ++
  s!"Address = {config.serverInterface.str}\n" ++
  s!"ListenPort = {intText config.listenPort}\n" ++
  s!"PrivateKey = {privateKey}\n" ++
  s!"FwMark = {hexText config.tunnelFwmark}\n" ++
  "SaveConfig = false\n" ++
  "\n" ++
  "[Peer]\n" ++
  s!"PublicKey = {config.clientPublicKey}\n" ++
  s!"AllowedIPs = {config.clientInterface.str}\n" ++
  s!"PersistentKeepalive = {intText config.persistentKeepalive}\n"

/-- `render_dnsmasq`. -/
def renderDnsmasq (config : GatewayConfig) : String :=
  let servers := String.join (config.dnsUpstreams.map fun address => s!"server={address.str}\n")
  "# Generated by scripts/snarkypuss-configure.py\n" ++
  s!"interface={config.tunnelInterface}\n" ++
  "bind-dynamic\n" ++
  s!"listen-address={IPv4Address.str config.serverInterface.ip}\n" ++
  "no-resolv\n" ++
  "domain-needed\n" ++
  "bogus-priv\n" ++
  servers

/-- `render_dnsmasq_systemd`. -/
def renderDnsmasqSystemd (config : GatewayConfig) : String :=
  let wireguardUnit := s!"wg-quick@{config.tunnelInterface}.service"
  "# Generated by scripts/snarkypuss-configure.py\n" ++
  "[Unit]\n" ++
  "Description=Snarkypuss private DNS resolver\n" ++
  s!"Requires={wireguardUnit}\n" ++
  s!"After={wireguardUnit}\n" ++
  "\n" ++
  "[Service]\n" ++
  "Type=simple\n" ++
  "ExecStart=/usr/sbin/dnsmasq --keep-in-foreground " ++
  "--conf-file=/etc/snarkypuss/dnsmasq.conf " ++
  "--pid-file=/run/snarkypuss-dns.pid\n" ++
  "Restart=on-failure\n" ++
  "RestartSec=2s\n" ++
  "\n" ++
  "[Install]\n" ++
  "WantedBy=multi-user.target\n"

def sysctlText : String :=
  "# Generated by scripts/snarkypuss-configure.py\nnet.ipv4.ip_forward=1\n"

/-! ## Writing -/

/-- Raise the script's own exception. -/
def refuse {A : Type} (message : String) : Script A := raise (.refused message)

/-- The names that are tried for a backup, in order. -/
def backupCandidate (path : PosixPath) (timestamp : String) : ℕ → PosixPath
  | 0 => path.withName s!"{path.name}.bak.{timestamp}"
  | counter + 1 => path.withName s!"{path.name}.bak.{timestamp}.{str (counter + 1)}"

/-- The first candidate from a counter on that does not exist. -/
def freeCandidate (path : PosixPath) (timestamp : String) : (fuel : ℕ) → ℕ → Script PosixPath
  | 0, _ => raise (.raised (.other "interrupted"))
  | fuel + 1, counter => do
    if ← pathExists (backupCandidate path timestamp counter) then
      freeCandidate path timestamp fuel (counter + 1)
    else return backupCandidate path timestamp counter

/-- `backup_path`. -/
def backupPath (fuel : ℕ) (path : PosixPath) (timestamp : String) : Script PosixPath :=
  freeCandidate path timestamp fuel 0

/-- The copy of a file that is about to be replaced. -/
def backUp (fuel : ℕ) (path : PosixPath) (mode : Fin 4096) (timestamp : String) : Script Unit := do
  let backup ← backupPath fuel path timestamp
  copy2 path backup
  chmod backup mode

/-- The temporary file of an atomic write, which is removed unless it was renamed. -/
def replaceFile (path : PosixPath) (encoded : ByteArray) (mode : Fin 4096) : Script Unit := do
  let temporary ← mkstemp path.parent s!".{path.name}."
  let install : Script Unit := do
    writeBytes temporary encoded
    chmod temporary mode
    replace temporary path
  install.finally_ (unlink temporary true)

/-- The path exists and is read as the text that is to be written. -/
def isUnchanged (path : PosixPath) (encoded : ByteArray) : Script Bool := do
  if ← pathExists path then
    let found ← readBytes path
    return decide (found = encoded)
  else return false

/-- `atomic_write`. -/
def atomicWrite (fuel : ℕ) (path : PosixPath) (content : String) (mode : Fin 4096)
    (timestamp : String) : Script Unit := do
  let encoded := content.toUTF8
  if ← isUnchanged path encoded then chmod path mode
  else
    mkdir path.parent true true
    if ← pathExists path then backUp fuel path mode timestamp
    replaceFile path encoded mode

/-! ## Keys -/

/-- `read_private_key`. -/
def readPrivateKey (path : PosixPath) : Script String := do
  let read ← (readBytes path).attempt fun e =>
    match e with
    | .raised (.os exc) => some exc
    | _ => none
  match read with
  | .error exc => refuse s!"cannot read existing server private key {path.text}: {exc}"
  | .ok content =>
    match decodeAscii content with
    | .error e => raise (.raised e)
    | .ok text => done (validateWireguardKey (strip text) "existing server private key")

/-- `generate_private_key`. -/
def generatePrivateKey : Script String := do
  match ← wgGenkey with
  | .error .missing => refuse "wg is required to generate the server private key"
  | .error (.failed stderr) => refuse s!"wg genkey failed: {strip stderr}"
  | .ok stdout => done (validateWireguardKey (strip stdout) "generated server private key")

/-- `public_key`. -/
def publicKey (privateKey : String) : Script String := do
  match ← wgPubkey privateKey with
  | .error _ => refuse "wg pubkey failed while deriving the server public key"
  | .ok stdout => done (validateWireguardKey (strip stdout) "derived server public key")

/-! ## The script -/

/-- The arguments, with both paths resolved. -/
structure Arguments where
  config : PosixPath
  root : PosixPath
  apply : Bool

/-- Asking which targets exist, to announce what will be done with them. -/
def announce : List PosixPath → Script Unit
  | [] => return ()
  | path :: paths => do
    let _ ← pathExists path
    announce paths

/-- The writes of `--apply`. An existing key is left as it is. -/
def writeTargets (fuel : ℕ) (root : PosixPath) (config : GatewayConfig) (privateKey : String)
    (existingKey : Bool) : Script Unit := do
  let now ← utcNow
  let timestamp := now.timestamp
  let keyPath := privateKeyPath root config.tunnelInterface
  mkdir keyPath.parent true true
  chmod keyPath.parent 0o700
  if ¬ existingKey then atomicWrite fuel keyPath s!"{privateKey}\n" 0o600 timestamp
  atomicWrite fuel (wireguardPath root config.tunnelInterface) (renderWireguard config privateKey)
    0o600 timestamp
  atomicWrite fuel (dnsmasqPath root) (renderDnsmasq config) 0o644 timestamp
  atomicWrite fuel (dnsmasqSystemdPath root) (renderDnsmasqSystemd config) 0o644 timestamp
  atomicWrite fuel (sysctlPath root) sysctlText 0o644 timestamp

/-- The server's key, from its file or from WireGuard, and whether the file is there. -/
def chooseKey (root : PosixPath) (apply : Bool) (config : GatewayConfig) :
    Script (String × Bool) := do
  let keyPath := privateKeyPath root config.tunnelInterface
  let wgPath := wireguardPath root config.tunnelInterface
  if ← pathExists wgPath then
    if ¬ (← pathExists keyPath) then
      refuse <| s!"{wgPath.text} exists but {keyPath.text} does not; " ++
        "refusing to rotate an unknown server key"
  let existingKey ← pathExists keyPath
  if existingKey then return (← readPrivateKey keyPath, true)
  else if apply then return (← generatePrivateKey, false)
  else return ("DRY_RUN_PRIVATE_KEY_PLACEHOLDER", false)

/-- The body of `main`, within its `try`. -/
def generate (fuel : ℕ) (arguments : Arguments) : Script Unit := do
  let root := arguments.root
  let config ← readSetupFile arguments.config
  let (privateKey, existingKey) ← chooseKey root arguments.apply config
  if arguments.apply then
    let _ ← publicKey privateKey
  announce [wireguardPath root config.tunnelInterface, dnsmasqPath root, dnsmasqSystemdPath root,
    sysctlPath root]
  if arguments.apply then writeTargets fuel root config privateKey existingKey

/-- `except ConfigurationError`. -/
def refusal? : ScriptError → Option String
  | .refused message => some message
  | .raised _ => none

/-- `main`, with its exit status. -/
def main (fuel : ℕ) (arguments : Arguments) : Script ℕ := do
  if arguments.apply ∧ arguments.root = ⟨"/", []⟩ then
    let uid ← geteuid
    if uid ≠ 0 then return 1
  match ← (generate fuel arguments).attempt refusal? with
  | .ok () => return 0
  | .error _ => return 1

end Snarkypuss.Gateway
