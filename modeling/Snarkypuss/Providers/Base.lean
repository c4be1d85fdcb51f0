import Snarkypuss.Calls.Program
import Snarkypuss.Targets.Models

/-!
# The provider interface

The provider-neutral models of an upstream VPN, and the calls of an adapter. An adapter is any
handler of the interface: what a call replies or raises is up to it.

## Main definitions

* `VpnState`, `GatewayMode`, `VpnStatus`, `VpnSettings`: observations of the provider
* `ProviderCapabilities`, `VpnTargetSummary`, `VpnTargetCatalog`: what clients may learn
* `ProviderCall`, `vpnProvider`: the calls of an adapter
-/

namespace Snarkypuss

/-- A `datetime`: the fields of the local clock, and the offset from UTC in whole minutes when
it has one. -/
structure DateTime where
  year : Nat
  month : Nat
  day : Nat
  hour : Nat
  minute : Nat
  second : Nat
  microsecond : Nat
  offset : Option Int
  year_bounds : 1 ≤ year ∧ year ≤ 9999
  month_bounds : 1 ≤ month ∧ month ≤ 12
  day_bounds : 1 ≤ day ∧ day ≤ 31
  time_bounds : hour < 24 ∧ minute < 60 ∧ second < 60 ∧ microsecond < 1000000
  offset_bounds : ∀ o ∈ offset, -1440 < o ∧ o < 1440
  deriving DecidableEq

/-- Common lifecycle states reported by every upstream VPN adapter. -/
inductive VpnState
  | disconnected | connecting | connected | disconnecting | failed | unknown
  deriving DecidableEq

/-- Observed relationship between client traffic and the public Internet. -/
inductive GatewayMode
  | vpn | locked | direct | unknown
  deriving DecidableEq

/-- Operations and information supported by a provider adapter. -/
structure ProviderCapabilities where
  connect : Bool
  disconnect : Bool
  targetSelection : Bool
  targetDiscovery : Bool := false
  serverDetails : Bool
  leakProtectionConfiguration : Bool := false
  deriving DecidableEq

/-- Provider-neutral target information safe to expose to clients. -/
structure VpnTargetSummary where
  «alias» : Identifier
  label : Label
  deriving DecidableEq

/-- Sanitized target catalogue and capabilities for the active provider. Its `version` is the
constant 2. -/
structure VpnTargetCatalog where
  provider : Identifier
  capabilities : ProviderCapabilities
  targets : List VpnTargetSummary
  deriving DecidableEq

/-- Provider-neutral upstream VPN status. -/
structure VpnStatus where
  state : VpnState
  provider : Identifier
  gatewayMode : GatewayMode := .unknown
  leakProtectionActive : Option Bool := none
  target : Option String := none
  displayName : Option String := none
  interface : Option String := none
  connectedSince : Option DateTime := none
  diagnosticCode : Option String := none
  details : Dict String String := .empty
  deriving DecidableEq

/-- Provider-neutral settings relevant to safe control decisions. -/
structure VpnSettings where
  provider : Identifier
  leakProtectionEnabled : Option Bool
  technology : Option String := none
  routingEnabled : Option Bool := none
  firewallEnabled : Option Bool := none
  firewallMark : Option String := none
  deriving DecidableEq

/-- The calls of a provider adapter. -/
inductive ProviderCall
  | status
  | settings
  | connectStored (target : StoredTarget)
  | disconnect
  | setLeakProtection (enabled : Bool)
  | targetSchema
  | targetOptions (kind field : String) (context : JsonObject)
  | validateSelector (selector : JsonObject)
  deriving DecidableEq

/-- What each call returns. -/
@[reducible] def ProviderCall.Reply : ProviderCall → Type
  | status => VpnStatus
  | settings => VpnSettings
  | connectStored _ => VpnStatus
  | disconnect => VpnStatus
  | setLeakProtection _ => VpnSettings
  | targetSchema => ProviderTargetSchema
  | targetOptions .. => TargetOptions
  | validateSelector _ => JsonObject

/-- The interface of a provider adapter. -/
abbrev vpnProvider : Interface := ⟨ProviderCall, ProviderCall.Reply⟩

end Snarkypuss
