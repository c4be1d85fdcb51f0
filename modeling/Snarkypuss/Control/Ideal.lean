import Snarkypuss.Control.Footprint

/-!
# The ideal environment

A provider that does what it is asked and reports truthfully, an in-memory repository and
collectors that observe nothing. The laws that the results assume of a provider hold of it.

## Main definitions

* `IdealVpn`, `idealProvider`: the provider, whose state is what a gateway mode depends on
* `idealEnvironment`, `idealService`: the service around it
-/

namespace Snarkypuss

/-- What a gateway mode depends on: the connection and the leak protection. -/
structure IdealVpn where
  state : VpnState
  leakProtection : Bool
  deriving DecidableEq

def idealName : Identifier := ⟨"ideal", by decide⟩

def IdealVpn.status (v : IdealVpn) : VpnStatus where
  state := v.state
  provider := idealName

def IdealVpn.settings (v : IdealVpn) : VpnSettings where
  provider := idealName
  leakProtectionEnabled := some v.leakProtection
  firewallEnabled := some true

/-- A provider that obeys, reports truthfully and accepts every selector. -/
def idealProvider : Handler vpnProvider PyException IdealVpn
  | .status, v => (.ok v.status, v)
  | .settings, v => (.ok v.settings, v)
  | .connectStored _, v =>
    (.ok { v with state := .connected }.status, { v with state := .connected })
  | .disconnect, v =>
    (.ok { v with state := .disconnected }.status, { v with state := .disconnected })
  | .setLeakProtection b, v =>
    (.ok { v with leakProtection := b }.settings, { v with leakProtection := b })
  | .targetSchema, v => (.ok { provider := idealName, selectorKinds := [] }, v)
  | .targetOptions .., v => (.error (.provider "UNSUPPORTED_TARGET_DISCOVERY" ""), v)
  | .validateSelector selector, v => (.ok selector, v)

/-- A fixed moment. -/
def idealMoment : DateTime where
  year := 2024
  month := 1
  day := 1
  hour := 0
  minute := 0
  second := 0
  microsecond := 0
  offset := some 0
  year_bounds := by decide
  month_bounds := by decide
  day_bounds := by decide
  time_bounds := by decide
  offset_bounds := by decide

/-- Collectors that observe nothing: the clock stands still and the public address is unknown. -/
def idealCollectors : Handler statusCollectors PyException Unit
  | .localStatus, s => (.ok (none, none, []), s)
  | .publicIp .., s => (.error (.statusCollection "PUBLIC_IP_REQUEST_FAILED"
      "public-IP service request failed"), s)
  | .now, s => (.ok idealMoment, s)

def idealEnvironment : Environment IdealVpn (Dict String TargetCatalogue) Unit where
  provider := idealProvider
  repository := MemoryTargetRepository
  collectors := idealCollectors

/-- The service of the ideal provider, without a built-in target. -/
def idealService : ControlService where
  name := idealName
  capabilities := {
    connect := true, disconnect := true, targetSelection := true, serverDetails := false,
    leakProtectionConfiguration := true }
  publicIpUrl := "https://example.test/ip"
  publicIpTimeoutSeconds := 0
  builtinRecommendedTarget := none
  builtin_alias := nofun

/-- The one target of the examples. -/
def idealTarget : StoredTarget where
  «alias» := ⟨"dallas", by decide⟩
  label := ⟨"Dallas", by decide⟩
  position := ⟨0, zero_lt_maxTargets⟩
  selector := Dict.ofPairs [("kind", .str "legacy"), ("value", .str "dallas")]
  bounded := by decide

/-- A catalogue of that target. -/
def idealCatalogue : TargetCatalogue where
  provider := idealName
  revision := 1
  targets := [idealTarget]
  order := by decide

/-- The state of a service around `v` that has just been constructed over that catalogue. -/
def idealState (v : IdealVpn) : ServiceState IdealVpn (Dict String TargetCatalogue) Unit where
  provider := v
  repository := Dict.ofPairs [(idealName.val, idealCatalogue)]
  collectors := ()
  currentTargetAlias := none
  catalogue := idealCatalogue
  targets := aliasMap [idealTarget]
  operationLocked := false

/-- A request identifier. -/
def idealRequestId : UUID := ⟨List.replicate 32 0, by decide⟩

end Snarkypuss
