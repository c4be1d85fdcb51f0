import Snarkypuss.Gateway.Setup

/-!
# The readers of the setup file agree

Three scripts read the setup file, each with checks of its own. A file that configuration is
generated from is read by activation and by the setup of the provider as the same gateway.

## Main definitions

* `ActivationConfig`, `readActivationConfig`: what `snarkypuss-activate.py` reads
* `GatewayPolicy`, `readGatewayPolicy`: what `snarkypuss-nordvpn-configure.py` reads

## Main results

* `readers_agree`: what `read_setup` accepts is read by the other two with the same values
-/

namespace Snarkypuss.Gateway

open Python

/-! ## Activation -/

/-- The values of the dictionary that `read_activation_config` returns. -/
structure ActivationConfig where
  tunnelInterface : String
  protectedEgressInterface : String
  clientCidr : String
  deriving DecidableEq

def requiredOptions : List String :=
  ["tunnel_interface", "server_address", "client_address", "protected_egress_interface",
    "tunnel_fwmark"]

/-- The values of the section, once the options that activation needs are known to be there. -/
def readActivation (data : TextData) (document : Document) :
    Except ScriptError ActivationConfig := do
  let value := sectionValue data document
  let tunnel := strip (← value "tunnel_interface")
  let egress := strip (← value "protected_egress_interface")
  require (IsInterfaceName tunnel) "tunnel_interface is not a valid Linux interface name"
  require (IsInterfaceName egress) "protected_egress_interface is not a valid Linux interface name"
  require (tunnel ≠ egress) "protected egress must differ from the private tunnel"
  let server ← orRefuseWith (ipv4Interface data (strip (← value "server_address")))
    fun exc => s!"invalid tunnel address: {exc}"
  let client ← orRefuseWith (ipv4Interface data (strip (← value "client_address")))
    fun exc => s!"invalid tunnel address: {exc}"
  require (server.network.Contains client.ip) "client address is outside the server tunnel network"
  return ⟨tunnel, egress, server.network.str⟩

/-- `read_activation_config`. -/
def readActivationConfig (data : TextData) (path : PosixPath)
    (setupFile : Except PyException String) : Except ScriptError ActivationConfig := do
  let document ← readDocument data path setupFile
    fun exc => s!"cannot read setup file {path.text}: {exc}"
  require (document.sections.keys = ["gateway"])
    "setup file must contain exactly one [gateway] section"
  let options := document.options "gateway"
  let unknown := options.filter (· ∉ allowedOptions)
  require (unknown = []) s!"unknown setup option(s): {sortedNames unknown}"
  let missing := requiredOptions.filter (· ∉ options)
  require (missing = []) s!"missing setup option(s): {sortedNames missing}"
  readActivation data document

/-! ## The policy of the provider -/

/-- The fields of `GatewayPolicy`. -/
structure GatewayPolicy where
  listenPort : Int
  managementSubnet : IPv4Network
  deriving DecidableEq

/-- `section[option]` where a missing option is reported. -/
def requiredValue (data : TextData) (document : Document) (option : String) :
    Except ScriptError String :=
  orRefuse (document.get data "gateway" option) s!"gateway configuration is missing {option}"

/-- The text of the `ValueError` of `int(text)`. -/
def invalidInt (data : TextData) (text : String) : String :=
  s!"invalid literal for int() with base 10: {data.repr text}"

/-- `read_gateway_policy`. -/
def readGatewayPolicy (data : TextData) (path : PosixPath)
    (setupFile : Except PyException String) : Except ScriptError GatewayPolicy := do
  let document ← readDocument data path setupFile
    fun exc => s!"cannot read gateway configuration {path.text}: {exc}"
  require ("gateway" ∈ document.sections.keys) "gateway configuration has no [gateway] section"
  let rawPort := strip (← requiredValue data document "listen_port")
  let listenPort ← orRefuse (int data rawPort)
    s!"invalid gateway value: {invalidInt data rawPort}"
  let server ← orRefuseWith
    (ipv4Interface data (strip (← requiredValue data document "server_address")))
    fun exc => s!"invalid gateway value: {exc}"
  require (1 ≤ listenPort ∧ listenPort ≤ 65535) "listen_port must be between 1 and 65535"
  return ⟨listenPort, server.network⟩

/-! ## Agreement -/

section Agreement

variable {data : TextData} {path : PosixPath} {setupFile : Except PyException String}
  {keyFile : PosixPath → Except PyException String} {document : Document} {config : GatewayConfig}

/-- The exception of the parser is reported in other words by every script, but what is read is
the same document. -/
theorem readDocument_eq_ok {message message' : String → String}
    (h : readDocument data path setupFile message = .ok document) :
    readDocument data path setupFile message' = .ok document := by
  cases setupFile with
  | error e => cases e <;> simp [readDocument, orRefuseOs, bind, Except.bind] at h
  | ok text =>
    simp only [readDocument, orRefuseOs, bind_eq_ok, orRefuseWith_eq_ok] at h ⊢
    obtain ⟨text', htext, hread⟩ := h
    exact ⟨text', htext, hread⟩

/-- The document of an accepted setup file is the same gateway to activation. -/
theorem readActivation_of_holds (h : SectionHolds data document keyFile config) :
    readActivation data document = .ok ⟨config.tunnelInterface, config.protectedEgressInterface,
      config.serverInterface.network.str⟩ := by
  obtain ⟨rawTunnel, hrawTunnel, htunnel⟩ := h.tunnel
  obtain ⟨rawEgress, hrawEgress, hegress⟩ := h.egress
  obtain ⟨rawServer, hrawServer, hserver⟩ := h.server
  obtain ⟨rawClient, hrawClient, hclient⟩ := h.client
  simp only [readActivation, bind_eq_ok, require_eq_ok, orRefuseWith_eq_ok, sectionValue_eq_ok,
    pure, Except.pure, Except.ok.injEq]
  refine ⟨rawTunnel, hrawTunnel, rawEgress, hrawEgress, (), htunnel ▸ h.tunnelName, (),
    hegress ▸ h.egressName, (), ?_, rawServer, hrawServer, _, hserver, rawClient, hrawClient, _,
    hclient, (), h.inside, ?_⟩
  · rw [htunnel, hegress]
    exact h.distinct.symm
  · rw [htunnel, hegress]

theorem requiredOptions_subset :
    ∀ option ∈ requiredOptions, option ∈ allowedOptions.erase "persistent_keepalive" := by
  decide

/-- **The three readers of the setup file agree.** A setup file that configuration is generated
from is accepted by activation with the same interfaces and the network of the server's address,
and by the setup of the provider with the same port and that network. -/
theorem readers_agree (h : readSetup data path setupFile keyFile = .ok config) :
    readActivationConfig data path setupFile =
        .ok ⟨config.tunnelInterface, config.protectedEgressInterface,
          config.serverInterface.network.str⟩ ∧
      readGatewayPolicy data path setupFile =
        .ok ⟨config.listenPort, config.serverInterface.network⟩ := by
  obtain ⟨document, hread, -, hsections, hknown, hcomplete, hholds⟩ := readSetup_eq_ok.mp h
  constructor
  · simp only [readActivationConfig, bind_eq_ok, require_eq_ok, List.filter_eq_nil_iff,
      decide_eq_true_eq, not_not]
    exact ⟨document, readDocument_eq_ok hread, (), hsections, (), hknown, (),
      fun option hoption => hcomplete option (requiredOptions_subset option hoption),
      readActivation_of_holds hholds⟩
  · obtain ⟨rawPort, hrawPort, hport⟩ := hholds.port
    obtain ⟨rawServer, hrawServer, hserver⟩ := hholds.server
    simp only [readGatewayPolicy, requiredValue, bind_eq_ok, require_eq_ok, orRefuse_eq_ok,
      orRefuseWith_eq_ok, pure, Except.pure, Except.ok.injEq]
    -- the port was read without stripping, where `int` skips less white space than `strip`
    exact ⟨document, readDocument_eq_ok hread, (), by rw [hsections]; decide, rawPort, hrawPort, _,
      int_strip hport, rawServer, hrawServer, _, hserver, (), hholds.portRange, rfl⟩

end Agreement

/-! ## A gateway -/

/-- A setup file with every option that is required. -/
def sampleSetup : String :=
  "[gateway]\ntunnel_interface = wg0\nserver_address = 10.8.0.1/24\nlisten_port = 51820\n" ++
    "client_address = 10.8.0.2/32\nclient_public_key_file = /client.pub\n" ++
    "dns_upstreams = 1.1.1.1\nprotected_egress_interface = eth0\ntunnel_fwmark = 0xe1f1\n"

def sampleKey : String := "BBBBBBBBBBBBBBBBBBBBBBBBBBBBBBBBBBBBBBBBBBA="

/-- The sample, as the script that generates configuration reads it. -/
def sampleConfig : GatewayConfig :=
  ⟨"wg0", ⟨0x0a080001, 24⟩, 51820, ⟨0x0a080002, 32⟩, sampleKey, [.v4 0x01010101], "eth0", 0xe1f1, 25⟩

theorem readSetup_sample : readSetup asciiTextData ⟨"/", ["setup.conf"]⟩ (.ok sampleSetup)
    (fun _ => .ok sampleKey) = .ok sampleConfig := by decide +kernel

/-- The sample as the other two scripts read it. -/
theorem readers_agree_sample :
    readActivationConfig asciiTextData ⟨"/", ["setup.conf"]⟩ (.ok sampleSetup) =
        .ok ⟨"wg0", "eth0", sampleConfig.serverInterface.network.str⟩ ∧
      readGatewayPolicy asciiTextData ⟨"/", ["setup.conf"]⟩ (.ok sampleSetup) =
        .ok ⟨51820, sampleConfig.serverInterface.network⟩ :=
  readers_agree readSetup_sample

end Snarkypuss.Gateway
