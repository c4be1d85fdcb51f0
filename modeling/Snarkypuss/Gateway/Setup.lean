import Snarkypuss.Exceptions
import Snarkypuss.Python.Addresses
import Snarkypuss.Python.Base64
import Snarkypuss.Python.Configparser
import Snarkypuss.Python.Paths

/-!
# The setup file

`read_setup` of `snarkypuss-configure.py`: the section `[gateway]` of the setup file as the values
that the gateway's configuration is generated from. The checks stand in the order of the source,
so that the first one that fails names the error.

## Main definitions

* `ScriptError`: the exception class of a script, or one of the interpreter's
* `GatewayConfig`: the values
* `validateWireguardKey`, `checkedInterface`, `readSetup`

## Main results

* `readSetup_eq_ok`: what an accepted setup file holds
-/

namespace Snarkypuss.Gateway

open Python

/-- An exception of a script: its own class, which `main` reports, or another one. -/
inductive ScriptError
  | refused (message : String)
  | raised (e : PyException)
  deriving DecidableEq

/-- Raise the script's own exception unless the condition holds. -/
def require (p : Prop) [Decidable p] (message : String) : Except ScriptError Unit :=
  if p then .ok () else .error (.refused message)

/-- The value, or the script's own exception. -/
def orRefuse {α : Type} (value : Option α) (message : String) : Except ScriptError α :=
  match value with
  | some a => .ok a
  | none => .error (.refused message)

/-- The value, or the script's own exception with the text of the one that was caught. -/
def orRefuseWith {α : Type} (value : Except String α) (message : String → String) :
    Except ScriptError α :=
  value.mapError fun exc => .refused (message exc)

section Conditions

variable {α : Type}

@[simp] theorem require_eq_ok {p : Prop} [Decidable p] {message : String} {u : Unit} :
    require p message = .ok u ↔ p := by
  unfold require
  split <;> simp_all

@[simp] theorem orRefuse_eq_ok {value : Option α} {message : String} {a : α} :
    orRefuse value message = .ok a ↔ value = some a := by
  cases value <;> simp [orRefuse]

@[simp] theorem orRefuseWith_eq_ok {value : Except String α} {message : String → String} {a : α} :
    orRefuseWith value message = .ok a ↔ value = .ok a := by
  cases value <;> simp [orRefuseWith, Except.mapError]

end Conditions

def allowedSection : String := "gateway"

def allowedOptions : List String :=
  ["tunnel_interface", "server_address", "listen_port", "client_address",
    "client_public_key_file", "dns_upstreams", "protected_egress_interface", "tunnel_fwmark",
    "persistent_keepalive"]

/-- `', '.join(sorted(names))` of a set of names. -/
def sortedNames (names : List String) : String :=
  ", ".intercalate (names.dedup.mergeSort fun a b => !decide (b < a))

/-- The fields of `GatewayConfig`. -/
structure GatewayConfig where
  tunnelInterface : String
  serverInterface : IPv4Interface
  listenPort : Int
  clientInterface : IPv4Interface
  clientPublicKey : String
  dnsUpstreams : List IPAddress
  protectedEgressInterface : String
  tunnelFwmark : Int
  persistentKeepalive : Int
  deriving DecidableEq

/-- A key of WireGuard: 44 characters that decode to 32 bytes. -/
def IsWireguardKey (value : String) : Prop :=
  (∃ decoded, b64decode value = some decoded ∧ decoded.length = 32) ∧ value.length = 44

/-- `validate_wireguard_key`. -/
def validateWireguardKey (value label : String) : Except ScriptError String := do
  let decoded ← orRefuse (b64decode value) s!"{label} is not valid base64"
  require (decoded.length = 32 ∧ value.length = 44) s!"{label} is not a 32-byte WireGuard key"
  return value

def isInterfaceChar (c : Char) : Bool := c.isAlphanum || c = '_' || c = '.' || c = '-'

/-- `re.fullmatch(r"[A-Za-z0-9_.-]{1,15}", value)`. -/
def IsInterfaceName (value : String) : Prop :=
  1 ≤ value.length ∧ value.length ≤ 15 ∧ value.toList.all isInterfaceChar

instance (value : String) : Decidable (IsInterfaceName value) :=
  inferInstanceAs (Decidable (_ ∧ _))

/-- The text of a file that was opened and decoded, as an `except` clause for `OSError` sees it.
The exceptions of the decoder are not caught. -/
def orRefuseOs {α : Type} (value : Except PyException α) (message : String → String) :
    Except ScriptError α :=
  match value with
  | .ok a => .ok a
  | .error (.os exc) => .error (.refused (message exc))
  | .error e => .error (.raised e)

/-- Opening and parsing the setup file, which every script reports in words of its own. -/
def readDocument (data : TextData) (path : PosixPath) (setupFile : Except PyException String)
    (message : String → String) : Except ScriptError Document := do
  let text ← orRefuseOs setupFile message
  orRefuseWith
    ((readFile data text).mapError
      (ParserError.text data s!"PosixPath({data.repr path.text})"))
    message

/-- `section[option]`. The options that a script requires are there. -/
def sectionValue (data : TextData) (document : Document) (option : String) :
    Except ScriptError String :=
  match document.get data allowedSection option with
  | some value => .ok value
  | none => .error (.raised (.other "KeyError"))

/-- The value of `dns_upstreams`. -/
def readDnsUpstreams (data : TextData) (value : String) : Except ScriptError (List IPAddress) := do
  let rawDns := (value.toList.splitOn ',').map fun item => strip (String.ofList item)
  require (∀ item ∈ rawDns, item ≠ "") "dns_upstreams must contain comma-separated IP addresses"
  orRefuseWith (rawDns.mapM (ipAddress data)) fun exc => s!"invalid DNS upstream address: {exc}"

/-- The client's public key, from the file that the setup names. -/
def readClientKey (keyFile : PosixPath → Except PyException String) (value : String) :
    Except ScriptError String := do
  let keyPath := PosixPath.ofString (strip value)
  require keyPath.isAbsolute "client_public_key_file must be an absolute path"
  let text ← orRefuseOs (keyFile keyPath)
    fun exc => s!"cannot read client public key file {keyPath.text}: {exc}"
  validateWireguardKey (strip text) "client public key"

/-- The values of the section, once its options are known to be complete. -/
def readGateway (data : TextData) (document : Document)
    (keyFile : PosixPath → Except PyException String) : Except ScriptError GatewayConfig := do
  let value := sectionValue data document
  let interface := strip (← value "tunnel_interface")
  require (IsInterfaceName interface) "tunnel_interface is not a valid Linux interface name"
  let egressInterface := strip (← value "protected_egress_interface")
  require (IsInterfaceName egressInterface)
    "protected_egress_interface is not a valid Linux interface name"
  require (egressInterface ≠ interface)
    "protected_egress_interface must differ from tunnel_interface"
  let rawFwmark := strip (← value "tunnel_fwmark")
  let tunnelFwmark ← orRefuse (int0 data rawFwmark)
    "tunnel_fwmark must be a decimal or 0x-prefixed integer"
  require (0 ≤ tunnelFwmark ∧ tunnelFwmark ≤ 0xFFFFFFFF)
    "tunnel_fwmark must fit in an unsigned 32-bit integer"
  let rawKeepalive := (document.get data allowedSection "persistent_keepalive").getD "25"
  let persistentKeepalive ← orRefuse (int data rawKeepalive)
    "persistent_keepalive must be an integer"
  require (0 ≤ persistentKeepalive ∧ persistentKeepalive ≤ 65535)
    "persistent_keepalive must be between 0 and 65535"
  let server ← orRefuseWith (ipv4Interface data (strip (← value "server_address")))
    fun exc => s!"invalid IPv4 interface address: {exc}"
  let client ← orRefuseWith (ipv4Interface data (strip (← value "client_address")))
    fun exc => s!"invalid IPv4 interface address: {exc}"
  require (server.network.Contains client.ip)
    "client_address must belong to the server_address network"
  require (client.ip ≠ server.ip) "client_address must differ from server_address"
  let listenPort ← orRefuse (int data (← value "listen_port")) "listen_port must be an integer"
  require (1 ≤ listenPort ∧ listenPort ≤ 65535) "listen_port must be between 1 and 65535"
  let clientKey ← readClientKey keyFile (← value "client_public_key_file")
  let dns ← readDnsUpstreams data (← value "dns_upstreams")
  return ⟨interface, server, listenPort, client, clientKey, dns, egressInterface, tunnelFwmark,
    persistentKeepalive⟩

/-- `read_setup`. -/
def readSetup (data : TextData) (path : PosixPath) (setupFile : Except PyException String)
    (keyFile : PosixPath → Except PyException String) : Except ScriptError GatewayConfig := do
  let document ← readDocument data path setupFile
    fun exc => s!"cannot read setup file {path.text}: {exc}"
  require (document.defaults.entries = []) "setup file may not contain a [DEFAULT] section"
  -- the names of the sections are distinct, so this is the equality of sets
  require (document.sections.keys = [allowedSection])
    s!"setup file must contain exactly one [{allowedSection}] section"
  let options := document.options allowedSection
  let unknown := options.filter (· ∉ allowedOptions)
  let missing := (allowedOptions.erase "persistent_keepalive").filter (· ∉ options)
  require (unknown = []) s!"unknown setup option(s): {sortedNames unknown}"
  require (missing = []) s!"missing setup option(s): {sortedNames missing}"
  readGateway data document keyFile

/-! ## What an accepted setup file holds -/

/-- The section holds the values of a configuration, and they pass every check. -/
structure SectionHolds (data : TextData) (document : Document)
    (keyFile : PosixPath → Except PyException String) (config : GatewayConfig) : Prop where
  tunnel : ∃ raw, document.get data allowedSection "tunnel_interface" = some raw ∧
    strip raw = config.tunnelInterface
  tunnelName : IsInterfaceName config.tunnelInterface
  egress : ∃ raw, document.get data allowedSection "protected_egress_interface" = some raw ∧
    strip raw = config.protectedEgressInterface
  egressName : IsInterfaceName config.protectedEgressInterface
  distinct : config.protectedEgressInterface ≠ config.tunnelInterface
  fwmark : ∃ raw, document.get data allowedSection "tunnel_fwmark" = some raw ∧
    int0 data (strip raw) = some config.tunnelFwmark
  fwmarkRange : 0 ≤ config.tunnelFwmark ∧ config.tunnelFwmark ≤ 0xFFFFFFFF
  keepalive : int data ((document.get data allowedSection "persistent_keepalive").getD "25") =
    some config.persistentKeepalive
  keepaliveRange : 0 ≤ config.persistentKeepalive ∧ config.persistentKeepalive ≤ 65535
  server : ∃ raw, document.get data allowedSection "server_address" = some raw ∧
    ipv4Interface data (strip raw) = .ok config.serverInterface
  client : ∃ raw, document.get data allowedSection "client_address" = some raw ∧
    ipv4Interface data (strip raw) = .ok config.clientInterface
  inside : config.serverInterface.network.Contains config.clientInterface.ip
  apart : config.clientInterface.ip ≠ config.serverInterface.ip
  port : ∃ raw, document.get data allowedSection "listen_port" = some raw ∧
    int data raw = some config.listenPort
  portRange : 1 ≤ config.listenPort ∧ config.listenPort ≤ 65535
  clientKey : ∃ raw, document.get data allowedSection "client_public_key_file" = some raw ∧
    readClientKey keyFile raw = .ok config.clientPublicKey
  dns : ∃ raw, document.get data allowedSection "dns_upstreams" = some raw ∧
    readDnsUpstreams data raw = .ok config.dnsUpstreams

section Acceptance

variable {data : TextData} {path : PosixPath} {setupFile : Except PyException String}
  {keyFile : PosixPath → Except PyException String} {document : Document} {config : GatewayConfig}

theorem sectionValue_eq_ok {option value : String} :
    sectionValue data document option = .ok value ↔
      document.get data allowedSection option = some value := by
  unfold sectionValue
  split <;> simp_all

theorem readGateway_eq_ok :
    readGateway data document keyFile = .ok config ↔ SectionHolds data document keyFile config := by
  simp only [readGateway, bind_eq_ok, require_eq_ok, orRefuse_eq_ok, orRefuseWith_eq_ok,
    sectionValue_eq_ok, pure, Except.pure, Except.ok.injEq]
  constructor
  · rintro ⟨rawTunnel, hrawTunnel, -, htunnel, rawEgress, hrawEgress, -, hegress, -, hdistinct,
      rawFwmark, hrawFwmark, fwmark, hfwmark, -, hfwmarkRange, keepalive, hkeepalive, -,
      hkeepaliveRange, rawServer, hrawServer, server, hserver, rawClient, hrawClient, client,
      hclient, -, hinside, -, hapart, rawPort, hrawPort, port, hport, -, hportRange, rawKey,
      hrawKey, key, hkey, rawDns, hrawDns, dns, hdns, rfl⟩
    exact ⟨⟨rawTunnel, hrawTunnel, rfl⟩, htunnel, ⟨rawEgress, hrawEgress, rfl⟩, hegress, hdistinct,
      ⟨rawFwmark, hrawFwmark, hfwmark⟩, hfwmarkRange, hkeepalive, hkeepaliveRange,
      ⟨rawServer, hrawServer, hserver⟩, ⟨rawClient, hrawClient, hclient⟩, hinside, hapart,
      ⟨rawPort, hrawPort, hport⟩, hportRange, ⟨rawKey, hrawKey, hkey⟩, ⟨rawDns, hrawDns, hdns⟩⟩
  · intro h
    obtain ⟨rawTunnel, hrawTunnel, htunnel⟩ := h.tunnel
    obtain ⟨rawEgress, hrawEgress, hegress⟩ := h.egress
    obtain ⟨rawFwmark, hrawFwmark, hfwmark⟩ := h.fwmark
    obtain ⟨rawServer, hrawServer, hserver⟩ := h.server
    obtain ⟨rawClient, hrawClient, hclient⟩ := h.client
    obtain ⟨rawPort, hrawPort, hport⟩ := h.port
    obtain ⟨rawKey, hrawKey, hkey⟩ := h.clientKey
    obtain ⟨rawDns, hrawDns, hdns⟩ := h.dns
    refine ⟨rawTunnel, hrawTunnel, (), htunnel ▸ h.tunnelName, rawEgress, hrawEgress, (),
      hegress ▸ h.egressName, (), hegress ▸ htunnel ▸ h.distinct, rawFwmark, hrawFwmark, _, hfwmark,
      (), h.fwmarkRange, _, h.keepalive, (), h.keepaliveRange, rawServer, hrawServer, _, hserver,
      rawClient, hrawClient, _, hclient, (), h.inside, (), h.apart, rawPort, hrawPort, _, hport,
      (), h.portRange, rawKey, hrawKey, _, hkey, rawDns, hrawDns, _, hdns, ?_⟩
    rw [htunnel, hegress]

/-- **What an accepted setup file holds**: one section, with the options that are allowed and no
other, whose values pass every check. -/
theorem readSetup_eq_ok :
    readSetup data path setupFile keyFile = .ok config ↔
      ∃ document, (readDocument data path setupFile
          fun exc => s!"cannot read setup file {path.text}: {exc}") = .ok document ∧
        document.defaults.entries = [] ∧ document.sections.keys = [allowedSection] ∧
        (∀ option ∈ document.options allowedSection, option ∈ allowedOptions) ∧
        (∀ option ∈ allowedOptions.erase "persistent_keepalive",
          option ∈ document.options allowedSection) ∧
        SectionHolds data document keyFile config := by
  simp only [readSetup, bind_eq_ok, require_eq_ok, readGateway_eq_ok, List.filter_eq_nil_iff,
    decide_eq_true_eq, not_not]
  constructor
  · rintro ⟨document, hread, -, hdefaults, -, hsections, -, hunknown, -, hmissing, hholds⟩
    exact ⟨document, hread, hdefaults, hsections, hunknown, hmissing, hholds⟩
  · rintro ⟨document, hread, hdefaults, hsections, hunknown, hmissing, hholds⟩
    exact ⟨document, hread, (), hdefaults, (), hsections, (), hunknown, (), hmissing, hholds⟩

end Acceptance

end Snarkypuss.Gateway
