import Snarkypuss.Control.Ideal
import Snarkypuss.Providers.NordVpn

/-!
# Partially degradable status

A status request reads five components. A component that fails is left out of the snapshot and
reported by a `ComponentFailure`, whose constructor checks the texts of the failure. The adapter
bounds the detail of a failed command, not the message it builds around the detail, so a failed
command can have a message that the constructor refuses; the snapshot is then lost as a whole.

## Main definitions

* `nordVpnEnvironment`: the service over the NordVPN adapter and the local collectors
* `Readings`, `readings`: how the components of a status request answer
* `Readings.Fit`: the texts of every failure fit their `ComponentFailure`
* `Readings.Degrades`: the snapshot reports each failure once, and leaves its component out

## Main results

* `reportable_iff`: which failures of a command fit
* `status_degrades_iff`: a status request degrades exactly when the texts fit
-/

namespace Snarkypuss

open Daemon

variable {σ ρ τ : Type}

/-- The service over the NordVPN adapter with a runner, a repository and collectors of any
behaviour. -/
def nordVpnEnvironment (unicode : Python.UnicodeData) (runner : Handler commandRunner PyException σ)
    (repository : Handler targetRepository PyException ρ) (sources : StatusSources τ) :
    Environment σ ρ τ where
  provider := Program.handlerOf (NordVpn.provider unicode) runner
  repository := repository
  collectors := sources.collectors

/-- The runner raises nothing but a `ProviderError`, and the collectors nothing but a
`StatusCollectionError`. -/
structure Controlled (runner : Handler commandRunner PyException σ) (sources : StatusSources τ) :
    Prop where
  runner : ∀ arguments p, Raises (Caught PyException.provider?) (runner arguments p).1
  publicIp : ∀ url timeoutSeconds t,
    Raises (Caught PyException.statusCollection?) (sources.publicIp url timeoutSeconds t).1
  dns : ∀ t, Raises (Caught PyException.statusCollection?) (sources.dns t).1
  system : ∀ t, Raises (Caught PyException.statusCollection?) (sources.system t).1

/-! ## How the components answer -/

/-- The answers of the components of one status request, as far as they are read: the settings
when the status was, and the public address in the modes that have one. -/
structure Readings where
  statusCommand : Except PyException CommandResult
  settingsCommand : Option (Except PyException CommandResult)
  publicIp : Option (Except PyException PublicIpStatus)
  dns : Except PyException DnsStatus
  system : Except PyException SystemStatus

/-- The mode of the status and the settings that are read from a state of the runner, when the
status is. -/
def modeRead (unicode : Python.UnicodeData) (runner : Handler commandRunner PyException σ) (p : σ) :
    Option GatewayMode :=
  let (statusCommand, p) := runner ["status"] p
  let settings := NordVpn.settingsOf unicode (runner ["settings"] p).1
  (NordVpn.statusOf unicode statusCommand).toOption.map fun status =>
    gatewayMode status.state (settings.toOption.bind VpnSettings.leakProtectionEnabled)

/-- The public address, asked for in the modes that have one. -/
def askPublicIp (sources : StatusSources τ) (service : ControlService) (t : τ) :
    Option GatewayMode → Option (Except PyException PublicIpStatus) × τ
  | some .vpn | some .direct =>
    let (reply, t) := sources.publicIp service.publicIpUrl service.publicIpTimeoutSeconds t
    (some reply, t)
  | _ => (none, t)

/-- The answers that a status request gets from a state of the service. -/
def readings (unicode : Python.UnicodeData) (runner : Handler commandRunner PyException σ)
    (sources : StatusSources τ) (service : ControlService) (s : ServiceState σ ρ τ) : Readings :=
  let (statusCommand, p) := runner ["status"] s.provider
  let (publicIp, t) := askPublicIp sources service s.collectors (modeRead unicode runner s.provider)
  { statusCommand, publicIp
    settingsCommand := (NordVpn.statusOf unicode statusCommand).toOption.map fun _ =>
      (runner ["settings"] p).1
    dns := (sources.dns t).1
    system := (sources.system (sources.dns t).2).1 }

namespace Readings

variable (unicode : Python.UnicodeData) (r : Readings)

/-- The status that was read. -/
def status : Except PyException VpnStatus := NordVpn.statusOf unicode r.statusCommand

/-- The settings that were read. -/
def settings : Option (Except PyException VpnSettings) :=
  r.settingsCommand.map (NordVpn.settingsOf unicode)

open ControlService in
/-- The failures of the components that were read, in order. -/
def failures : List (String × String) :=
  failureOf vpnComponent PyException.provider? (r.status unicode) ++
    ((r.settings unicode).map (failureOf vpnSettingsComponent PyException.provider?)).getD [] ++
    (r.publicIp.map (failureOf publicIpComponent PyException.statusCollection?)).getD [] ++
    failureOf dnsComponent PyException.statusCollection? r.dns ++
    failureOf systemComponent PyException.statusCollection? r.system

open ControlService in
/-- The provider's part of the snapshot, attributed to `target`. -/
def vpn (target : Option String) : Except PyException (Option VpnStatus × List ComponentFailure) := do
  let (status, failures) ← readingOption vpnComponent PyException.provider? (some (r.status unicode))
  let (settings, settingsFailures) ←
    readingOption vpnSettingsComponent PyException.provider? (r.settings unicode)
  pure (status.map fun status => withGatewayMode { status with target := target } settings,
    failures ++ settingsFailures)

open ControlService in
/-- The snapshot of the readings: the values and the failures of all components. -/
def snapshot (target : Option String) : Except PyException (Option VpnStatus ×
    Option PublicIpStatus × Option DnsStatus × Option SystemStatus × List ComponentFailure) := do
  let (vpn, vpnFailures) ← r.vpn unicode target
  let (publicIp, ip) ← readingOption publicIpComponent PyException.statusCollection? r.publicIp
  let (dns, dnsFailures) ← readingOption dnsComponent PyException.statusCollection? (some r.dns)
  let (system, systemFailures) ←
    readingOption systemComponent PyException.statusCollection? (some r.system)
  pure (vpn, publicIp, dns, system, vpnFailures ++ ip ++ (dnsFailures ++ systemFailures))

end Readings

/-! ## Execution -/

section Exec

variable (env : Environment σ ρ τ)

/-- An observed component is its reading. -/
theorem exec_observe {A : Type} (component : Identifier)
    (caught : PyException → Option (String × String)) (p : Daemon A) (s : ServiceState σ ρ τ) :
    ((ControlService.observe component caught p).exec env.handler s).result =
        reading component caught (p.exec env.handler s).result ∧
      ((ControlService.observe component caught p).exec env.handler s).state =
        (p.exec env.handler s).state := by
  unfold ControlService.observe
  rw [Program.bind_eq, Program.exec_bind, Program.exec_attempt]
  cases hr : (p.exec env.handler s).result with
  | ok a => exact ⟨rfl, rfl⟩
  | error e =>
    simp only [Program.reify, reading]
    cases hc : caught e with
    | none => exact ⟨rfl, rfl⟩
    | some x =>
      obtain ⟨code, message⟩ := x
      dsimp only
      cases ComponentFailure.validate component code message <;> exact ⟨rfl, rfl⟩

/-- Attribution gives the status some target, and may forget the remembered one. -/
theorem exec_attributeTarget (status : VpnStatus) (s : ServiceState σ ρ τ) :
    ∃ target remembered,
      ((ControlService.attributeTarget status).exec env.handler s).result =
        .ok { status with target := target } ∧
      ((ControlService.attributeTarget status).exec env.handler s).state =
        { s with currentTargetAlias := remembered } := by
  simp only [ControlService.attributeTarget, Program.bind_eq, Program.call, Program.ask_bind,
    Program.exec_ask, Environment.handler, Program.done_ok_bind]
  split
  · exact ⟨_, s.currentTargetAlias, rfl, rfl⟩
  · split
    · exact ⟨status.target, none, rfl, rfl⟩
    · exact ⟨status.target, s.currentTargetAlias, rfl, rfl⟩

end Exec

section Snapshot

variable (unicode : Python.UnicodeData) (runner : Handler commandRunner PyException σ)
  (repository : Handler targetRepository PyException ρ) (sources : StatusSources τ)
  (service : ControlService) {s : ServiceState σ ρ τ}

/-- The response that carries a snapshot. -/
def statusResponse (requestId : UUID) (checkedAt : DateTime)
    (x : Option VpnStatus × Option PublicIpStatus × Option DnsStatus × Option SystemStatus ×
      List ComponentFailure) : ControlResponse where
  requestId := requestId
  success := true
  message := "Gateway status retrieved."
  gatewayStatus := some {
    checkedAt := checkedAt
    vpnStatus := x.1
    publicIp := x.2.1
    dns := x.2.2.1
    system := x.2.2.2.1
    partialFailures := x.2.2.2.2 }

/-- What is observed of the provider's status. -/
theorem exec_observe_status (s : ServiceState σ ρ τ) :
    let o := (ControlService.observe ControlService.vpnComponent PyException.provider?
      (provider .status)).exec (nordVpnEnvironment unicode runner repository sources).handler s
    o.result = reading ControlService.vpnComponent PyException.provider?
        (NordVpn.statusOf unicode (runner ["status"] s.provider).1) ∧
      o.state = { s with provider := (runner ["status"] s.provider).2 } := by
  obtain ⟨hresult, hstate⟩ := exec_observe (nordVpnEnvironment unicode runner repository sources)
    ControlService.vpnComponent PyException.provider? (provider .status) s
  have hexec := NordVpn.exec_status unicode runner s.provider
  refine ⟨hresult.trans ?_, hstate.trans ?_⟩
  · show reading _ _ ((NordVpn.status unicode).exec runner s.provider).result = _
    rw [hexec]
  · show ({ s with provider := ((NordVpn.status unicode).exec runner s.provider).state } :
      ServiceState σ ρ τ) = _
    rw [hexec]

/-- What is observed of the provider's settings. -/
theorem exec_observe_settings (s : ServiceState σ ρ τ) :
    let o := (ControlService.observe ControlService.vpnSettingsComponent PyException.provider?
      (provider .settings)).exec (nordVpnEnvironment unicode runner repository sources).handler s
    o.result = reading ControlService.vpnSettingsComponent PyException.provider?
        (NordVpn.settingsOf unicode (runner ["settings"] s.provider).1) ∧
      o.state = { s with provider := (runner ["settings"] s.provider).2 } := by
  obtain ⟨hresult, hstate⟩ := exec_observe (nordVpnEnvironment unicode runner repository sources)
    ControlService.vpnSettingsComponent PyException.provider? (provider .settings) s
  have hexec := NordVpn.exec_settings unicode runner s.provider
  refine ⟨hresult.trans ?_, hstate.trans ?_⟩
  · show reading _ _ ((NordVpn.settings unicode).exec runner s.provider).result = _
    rw [hexec]
  · show ({ s with provider := ((NordVpn.settings unicode).exec runner s.provider).state } :
      ServiceState σ ρ τ) = _
    rw [hexec]

/-- The provider's part of a snapshot is that of the readings, attributed to some target. -/
theorem exec_observeVpn (s : ServiceState σ ρ τ) :
    let r := readings unicode runner sources service s
    let o := ControlService.observeVpn.exec
      (nordVpnEnvironment unicode runner repository sources).handler s
    ∃ target, o.result = r.vpn unicode target ∧ o.state.collectors = s.collectors := by
  dsimp only
  obtain ⟨hresult, hstate⟩ := exec_observe_status unicode runner repository sources s
  unfold ControlService.observeVpn
  rw [Program.bind_eq, Program.exec_bind, hresult, hstate]
  cases hstatus : NordVpn.statusOf unicode (runner ["status"] s.provider).1 with
  | error e =>
    -- Nothing else is read of the provider.
    refine ⟨none, ?_⟩
    simp only [Readings.vpn, Readings.status, Readings.settings, readings, hstatus, readingOption,
      Except.toOption, Option.map_none, reading]
    cases e.provider? with
    | none => exact ⟨rfl, rfl⟩
    | some x =>
      obtain ⟨code, message⟩ := x
      dsimp only
      cases ComponentFailure.validate ControlService.vpnComponent code message <;> exact ⟨rfl, rfl⟩
  | ok status =>
    obtain ⟨target, remembered, hnamed, hforgot⟩ := exec_attributeTarget
      (nordVpnEnvironment unicode runner repository sources) status
      { s with provider := (runner ["status"] s.provider).2 }
    obtain ⟨hsettings, hend⟩ := exec_observe_settings unicode runner repository sources
      { s with
        provider := (runner ["status"] s.provider).2
        currentTargetAlias := remembered }
    refine ⟨target, ?_⟩
    simp only [reading_ok, Program.bind_eq]
    rw [Program.exec_bind_of_ok _ hnamed, hforgot, Program.exec_bind, hsettings, hend]
    simp only [Readings.vpn, Readings.status, Readings.settings, readings, hstatus, readingOption,
      Except.toOption, Option.map_some, reading_ok]
    cases reading ControlService.vpnSettingsComponent PyException.provider?
        (NordVpn.settingsOf unicode (runner ["settings"] (runner ["status"] s.provider).2).1) with
    | error e => exact ⟨rfl, rfl⟩
    | ok x => exact ⟨rfl, rfl⟩

/-- A component that is read contributes its value, when it is read. -/
theorem reading_eq_ok {A : Type} {component : Identifier}
    {caught : PyException → Option (String × String)} {r : Except PyException A} {a : Option A}
    {failures : List ComponentFailure} (h : reading component caught r = .ok (a, failures)) :
    a = r.toOption := by
  cases r with
  | ok b =>
    cases h
    rfl
  | error e =>
    simp only [reading] at h
    split at h
    · rename_i code message _
      cases hv : ComponentFailure.validate component code message with
      | error e' =>
        rw [hv] at h
        cases h
      | ok failure =>
        rw [hv] at h
        cases h
        rfl
    · cases h

/-- The mode of the provider's part of a snapshot is the mode that was read. -/
theorem vpn_gatewayMode {target : Option String} {vpn : Option VpnStatus}
    {failures : List ComponentFailure}
    (h : (readings unicode runner sources service s).vpn unicode target = .ok (vpn, failures)) :
    vpn.map VpnStatus.gatewayMode = modeRead unicode runner s.provider := by
  obtain ⟨⟨status, statusFailures⟩, hstatus, h⟩ := bind_eq_ok.mp h
  obtain ⟨⟨settings, settingsFailures⟩, hsettings, h⟩ := bind_eq_ok.mp h
  obtain rfl := reading_eq_ok hstatus
  obtain ⟨rfl, -⟩ := Prod.mk.inj (Except.ok.inj h)
  simp only [Readings.settings, Readings.status, readings, modeRead] at hsettings ⊢
  cases hread : NordVpn.statusOf unicode (runner ["status"] s.provider).1 with
  | error e => rfl
  | ok status =>
    rw [hread] at hsettings
    obtain rfl := reading_eq_ok hsettings
    rfl

theorem exec_observePublicIp (vpn : Option VpnStatus) (s : ServiceState σ ρ τ) :
    let asked := askPublicIp sources service s.collectors (vpn.map VpnStatus.gatewayMode)
    let o := (service.observePublicIp vpn).exec
      (nordVpnEnvironment unicode runner repository sources).handler s
    o.result = readingOption ControlService.publicIpComponent PyException.statusCollection? asked.1 ∧
      o.state = { s with collectors := asked.2 } := by
  have hask := exec_observe (nordVpnEnvironment unicode runner repository sources)
    ControlService.publicIpComponent PyException.statusCollection?
    (collector (.publicIp service.publicIpUrl service.publicIpTimeoutSeconds)) s
  unfold ControlService.observePublicIp askPublicIp
  match vpn.map VpnStatus.gatewayMode with
  | some .vpn => exact hask
  | some .direct => exact hask
  | some .locked => exact ⟨rfl, rfl⟩
  | some .unknown => exact ⟨rfl, rfl⟩
  | none => exact ⟨rfl, rfl⟩

/-- **A status request reports the snapshot of its readings**, or raises what that raises. -/
theorem exec_dispatchStatus (requestId : UUID) :
    ∃ target checkedAt, ((service.dispatchStatus requestId).exec
        (nordVpnEnvironment unicode runner repository sources).handler s).result =
      ((readings unicode runner sources service s).snapshot unicode target).map
        (statusResponse requestId checkedAt) := by
  obtain ⟨target, hvpn, hcollectors⟩ := exec_observeVpn unicode runner repository sources service s
  refine ⟨target, ?_⟩
  unfold ControlService.dispatchStatus Readings.snapshot
  rw [Program.bind_eq, Program.exec_bind, hvpn]
  cases hpart : (readings unicode runner sources service s).vpn unicode target with
  | error e => exact ⟨idealMoment, rfl⟩
  | ok x =>
    obtain ⟨vpn, failures⟩ := x
    have hmode := vpn_gatewayMode unicode runner sources service hpart
    generalize (ControlService.observeVpn.exec
      (nordVpnEnvironment unicode runner repository sources).handler s).state = t at *
    obtain ⟨haddress, hleft⟩ := exec_observePublicIp unicode runner repository sources service vpn
      t
    rw [hmode, hcollectors] at haddress hleft
    dsimp only
    rw [Program.bind_eq, Program.exec_bind, haddress, hleft]
    have hpublicIp : (askPublicIp sources service s.collectors
      (modeRead unicode runner s.provider)).1 = (readings unicode runner sources service s).publicIp :=
      rfl
    rw [hpublicIp]
    cases readingOption ControlService.publicIpComponent
        PyException.statusCollection? (readings unicode runner sources service s).publicIp with
    | error e => exact ⟨idealMoment, by simp only [bind, Except.bind]; rfl⟩
    | ok address =>
      have hlocal := collectLocalStatus_result sources (askPublicIp sources service s.collectors
        (modeRead unicode runner s.provider)).2
      have hexec : ∀ t' : ServiceState σ ρ τ, ((collector .localStatus).exec
          (nordVpnEnvironment unicode runner repository sources).handler t').result =
            (collectLocalStatus sources t'.collectors).1 := fun _ => rfl
      dsimp only
      rw [Program.bind_eq, Program.exec_bind, hexec, hlocal]
      have hdns : (sources.dns (askPublicIp sources service s.collectors
        (modeRead unicode runner s.provider)).2).1 =
          (readings unicode runner sources service s).dns := rfl
      have hsystem : (sources.system (sources.dns (askPublicIp sources service s.collectors
        (modeRead unicode runner s.provider)).2).2).1 =
          (readings unicode runner sources service s).system := rfl
      rw [hdns, hsystem]
      simp only [bind, Except.bind, readingOption]
      cases reading dnsComponent PyException.statusCollection?
          (readings unicode runner sources service s).dns with
      | error e => exact ⟨idealMoment, rfl⟩
      | ok dns =>
        dsimp only
        cases reading systemComponent PyException.statusCollection?
            (readings unicode runner sources service s).system with
        | error e => exact ⟨idealMoment, rfl⟩
        | ok system => exact ⟨_, rfl⟩

end Snapshot

/-! ## Which failures are reportable -/

section Texts

variable {unicode : Python.UnicodeData} {K : PyException → Prop}

/-- The failure of a command fits: the texts that the runner raises do, and the message about an
exit status does. -/
def CommandFits (unicode : Python.UnicodeData) : Except PyException CommandResult → Prop
  | .error e => Reportable PyException.provider? e
  | .ok result => result.returncode ≠ 0 → (NordVpn.commandFailure unicode result).length ≤ 512

def oversizedField : PyException :=
  NordVpn.invalidOutput "NordVPN returned an oversized field"

def unparseableStatus : PyException :=
  .provider "UNPARSEABLE_STATUS" "NordVPN returned an unknown status"

theorem raises_parseField (h : K oversizedField) (fields : Dict String String) (line : String) :
    Raises K (NordVpn.parseField unicode fields line) := by
  unfold NordVpn.parseField
  split
  · exact raises_ok _
  · dsimp only
    split
    · exact raises_error_iff.mpr h
    · split <;> exact raises_ok _

theorem raises_parseFields (h : K oversizedField) (output : String) :
    Raises K (NordVpn.parseFields unicode output) :=
  raises_foldlM (raises_parseField h) _ _

/-- What the parsers raise, they raise with texts of their own. -/
theorem raises_parseStatus (hfield : K oversizedField) (hstatus : K unparseableStatus)
    (output : String) : Raises K (NordVpn.parseStatus unicode output) := by
  refine (raises_bind_iff fun fields => ?_).mpr (raises_parseFields hfield output)
  split
  · exact raises_error_iff.mpr hstatus
  · exact raises_ok _

theorem raises_parseSettings (hfield : K oversizedField) (output : String) :
    Raises K (NordVpn.parseSettings unicode output) :=
  (raises_bind_iff fun _ => raises_ok _).mpr (raises_parseFields hfield output)

theorem reportable_oversizedField : Reportable PyException.provider? oversizedField := by
  rintro x hx
  obtain rfl := Option.some.inj hx
  decide

theorem reportable_unparseableStatus : Reportable PyException.provider? unparseableStatus := by
  rintro x hx
  obtain rfl := Option.some.inj hx
  decide

theorem commandFailed_fits_iff {message : String} (h : 1 ≤ message.length) :
    ComponentFailure.Fits "PROVIDER_COMMAND_FAILED" message ↔ message.length ≤ 512 :=
  ⟨fun hfits => hfits.2.2, fun hle => ⟨by decide, h, hle⟩⟩

theorem reportable_checkExit_iff (reply : Except PyException CommandResult) :
    Raises (Reportable PyException.provider?) (reply.bind (NordVpn.checkExit unicode)) ↔
      CommandFits unicode reply := by
  cases reply with
  | error e => exact raises_error_iff
  | ok result =>
    by_cases hzero : result.returncode = 0
    · simp only [Except.bind, NordVpn.checkExit_ok unicode hzero, CommandFits, hzero, ne_eq,
        not_true_eq_false, false_implies, iff_true]
      exact raises_ok result
    · simp only [Except.bind, NordVpn.checkExit_error unicode hzero, CommandFits, ne_eq, hzero,
        not_false_eq_true, forall_const]
      have hpos := NordVpn.commandFailure_length_pos unicode result
      generalize NordVpn.commandFailure unicode result = message at hpos ⊢
      refine raises_error_iff.trans ⟨fun h => (commandFailed_fits_iff hpos).mp (h _ rfl), ?_⟩
      rintro h x hx
      obtain rfl := Option.some.inj hx
      exact (commandFailed_fits_iff hpos).mpr h

/-- The failure of a status is reportable exactly when that of its command fits. -/
theorem reportable_statusOf_iff (reply : Except PyException CommandResult) :
    Raises (Reportable PyException.provider?) (NordVpn.statusOf unicode reply) ↔
      CommandFits unicode reply :=
  (raises_bind_iff fun _ => raises_parseStatus reportable_oversizedField
    reportable_unparseableStatus _).trans (reportable_checkExit_iff reply)

theorem reportable_settingsOf_iff (reply : Except PyException CommandResult) :
    Raises (Reportable PyException.provider?) (NordVpn.settingsOf unicode reply) ↔
      CommandFits unicode reply :=
  (raises_bind_iff fun _ => raises_parseSettings reportable_oversizedField _).trans
    (reportable_checkExit_iff reply)

/-- What the adapter makes of a runner's `ProviderError`s is caught. -/
theorem caught_checkExit {reply : Except PyException CommandResult}
    (h : Raises (Caught PyException.provider?) reply) :
    Raises (Caught PyException.provider?) (reply.bind (NordVpn.checkExit unicode)) := by
  refine (raises_bind_iff fun result => ?_).mpr h
  unfold NordVpn.checkExit
  split
  · exact raises_error_iff.mpr rfl
  · exact raises_ok result

theorem caught_oversizedField : Caught PyException.provider? oversizedField := rfl

theorem caught_unparseableStatus : Caught PyException.provider? unparseableStatus := rfl

theorem caught_statusOf {reply : Except PyException CommandResult}
    (h : Raises (Caught PyException.provider?) reply) :
    Raises (Caught PyException.provider?) (NordVpn.statusOf unicode reply) :=
  (raises_bind_iff fun _ =>
    raises_parseStatus caught_oversizedField caught_unparseableStatus _).mpr (caught_checkExit h)

theorem caught_settingsOf {reply : Except PyException CommandResult}
    (h : Raises (Caught PyException.provider?) reply) :
    Raises (Caught PyException.provider?) (NordVpn.settingsOf unicode reply) :=
  (raises_bind_iff fun _ => raises_parseSettings caught_oversizedField _).mpr (caught_checkExit h)

end Texts

/-! ## Degradation -/

namespace Readings

variable (unicode : Python.UnicodeData) (r : Readings)

/-- The texts of every failure that is read fit a `ComponentFailure`. -/
structure Fit : Prop where
  status : CommandFits unicode r.statusCommand
  settings : ∀ reply ∈ r.settingsCommand, CommandFits unicode reply
  publicIp : ∀ reply ∈ r.publicIp, Raises (Reportable PyException.statusCollection?) reply
  dns : Raises (Reportable PyException.statusCollection?) r.dns
  system : Raises (Reportable PyException.statusCollection?) r.system

/-- A snapshot reports every failure that was read, once and under its code, and has what the
other components returned and nothing of those that failed. -/
structure Reported (gateway : GatewayStatus) : Prop where
  failures : failureCodes gateway.partialFailures = r.failures unicode
  once : (gateway.partialFailures.map fun failure => failure.component.val).Nodup
  vpn : gateway.vpnStatus.map VpnStatus.state = (r.status unicode).toOption.map VpnStatus.state
  settings : ∀ vpn ∈ gateway.vpnStatus, vpn.leakProtectionActive =
    ((r.settings unicode).bind Except.toOption).bind VpnSettings.leakProtectionEnabled
  publicIp : gateway.publicIp = r.publicIp.bind Except.toOption
  dns : gateway.dns = r.dns.toOption
  system : gateway.system = r.system.toOption

/-- A status request degrades when it succeeds with a snapshot that reports its failures. -/
def Degrades (result : Except PyException ControlResponse) : Prop :=
  ∃ response gateway, result = .ok response ∧ response.success = true ∧
    response.gatewayStatus = some gateway ∧ r.Reported unicode gateway

/-- The components that fail are different ones. -/
theorem failures_nodup : ((r.failures unicode).map Prod.fst).Nodup := by
  have hone : ∀ {A : Type} (component : Identifier) (caught : PyException → Option (String × String))
      (x : Except PyException A),
      ((failureOf component caught x).map Prod.fst).Sublist [component.val] := by
    intro A component caught x
    cases x with
    | ok a => exact List.nil_sublist _
    | error e =>
      simp only [failureOf]
      cases caught e with
      | none => exact List.nil_sublist _
      | some y => exact List.Sublist.refl _
  have hopt : ∀ {A : Type} (component : Identifier) (caught : PyException → Option (String × String))
      (x : Option (Except PyException A)),
      (((x.map (failureOf component caught)).getD []).map Prod.fst).Sublist [component.val] := by
    intro A component caught x
    cases x with
    | none => exact List.nil_sublist _
    | some y => exact hone component caught y
  have hall := ((((hone ControlService.vpnComponent PyException.provider? (r.status unicode)).append
    (hopt ControlService.vpnSettingsComponent PyException.provider? (r.settings unicode))).append
    (hopt ControlService.publicIpComponent PyException.statusCollection? r.publicIp)).append
    (hone dnsComponent PyException.statusCollection? r.dns)).append
    (hone systemComponent PyException.statusCollection? r.system)
  simp only [failures, List.map_append]
  exact hall.nodup (by decide)

/-- The exceptions that were read are those that the `except` clauses name. -/
structure AllCaught : Prop where
  status : Raises (Caught PyException.provider?) (r.status unicode)
  settings : ∀ reply ∈ r.settings unicode, Raises (Caught PyException.provider?) reply
  publicIp : ∀ reply ∈ r.publicIp, Raises (Caught PyException.statusCollection?) reply
  dns : Raises (Caught PyException.statusCollection?) r.dns
  system : Raises (Caught PyException.statusCollection?) r.system

variable {unicode r}

theorem Fit.reportable_settings (h : r.Fit unicode) :
    ∀ reply ∈ r.settings unicode, Raises (Reportable PyException.provider?) reply := by
  rintro reply hreply
  obtain ⟨command, hcommand, rfl⟩ := Option.mem_map.mp hreply
  exact (reportable_settingsOf_iff command).mpr (h.settings command hcommand)

/-- Readings whose texts fit make a snapshot that reports them. -/
theorem snapshot_of_fit (hcaught : r.AllCaught unicode) (h : r.Fit unicode) (target : Option String) :
    ∃ x, r.snapshot unicode target = .ok x ∧ ∀ requestId checkedAt, r.Degrades unicode
      (.ok (statusResponse requestId checkedAt x)) := by
  obtain ⟨vpn, hvpn, hvpnCodes⟩ := reading_of_reportable ControlService.vpnComponent hcaught.status
    ((reportable_statusOf_iff _).mpr h.status)
  obtain ⟨settings, hsettings, hsettingsCodes⟩ := readingOption_of_reportable
    ControlService.vpnSettingsComponent hcaught.settings h.reportable_settings
  obtain ⟨ip, hip, hipCodes⟩ := readingOption_of_reportable ControlService.publicIpComponent
    hcaught.publicIp h.publicIp
  obtain ⟨dns, hdns, hdnsCodes⟩ := reading_of_reportable dnsComponent hcaught.dns h.dns
  obtain ⟨system, hsystem, hsystemCodes⟩ :=
    reading_of_reportable systemComponent hcaught.system h.system
  have hcodes : failureCodes (vpn ++ settings ++ ip ++ (dns ++ system)) = r.failures unicode := by
    simp only [failureCodes_append, hvpnCodes, hsettingsCodes, hipCodes, hdnsCodes, hsystemCodes,
      failures, List.append_assoc]
  have hpart : r.vpn unicode target = .ok ((r.status unicode).toOption.map fun status =>
      withGatewayMode { status with target := target } ((r.settings unicode).bind Except.toOption),
      vpn ++ settings) := by
    simp only [Readings.vpn, hvpn, hsettings, bind, Except.bind]
    rfl
  refine ⟨_, by simp only [snapshot, hpart, hip, hdns, hsystem, bind, Except.bind]; rfl, ?_⟩
  rintro requestId checkedAt
  refine ⟨_, _, rfl, rfl, rfl, ?_⟩
  refine ⟨hcodes, ?_, ?_, ?_, rfl, rfl, rfl⟩
  · have hnames := congrArg (List.map Prod.fst) hcodes
    have hnodup := r.failures_nodup unicode
    rw [← hnames, failureCodes, List.map_map] at hnodup
    exact hnodup
  · simp [Option.map_map, Function.comp_def]
  · rintro vpn hvpn
    obtain ⟨status, -, rfl⟩ := Option.mem_map.mp hvpn
    rfl

/-- Readings that make a snapshot have texts that fit. -/
theorem fit_of_snapshot {target : Option String} {x : Option VpnStatus × Option PublicIpStatus ×
    Option DnsStatus × Option SystemStatus × List ComponentFailure}
    (h : r.snapshot unicode target = .ok x) : r.Fit unicode := by
  obtain ⟨vpn, hvpn, h⟩ := bind_eq_ok.mp h
  obtain ⟨status, hstatus, hvpn⟩ := bind_eq_ok.mp hvpn
  obtain ⟨settings, hsettings, -⟩ := bind_eq_ok.mp hvpn
  obtain ⟨ip, hip, h⟩ := bind_eq_ok.mp h
  obtain ⟨dns, hdns, h⟩ := bind_eq_ok.mp h
  obtain ⟨system, hsystem, -⟩ := bind_eq_ok.mp h
  refine ⟨?_, fun command hcommand => ?_, reportable_of_readingOption hip,
    reportable_of_readingOption hdns _ rfl, reportable_of_readingOption hsystem _ rfl⟩
  · exact (reportable_statusOf_iff _).mp (reportable_of_readingOption hstatus _ rfl)
  · exact (reportable_settingsOf_iff _).mp (reportable_of_readingOption hsettings _
      (Option.mem_map_of_mem _ hcommand))

end Readings

section Degradation

variable {unicode : Python.UnicodeData} {runner : Handler commandRunner PyException σ}
  {sources : StatusSources τ}

/-- With a controlled runner and controlled collectors every exception is caught. -/
theorem readings_allCaught (hcontrolled : Controlled runner sources) (service : ControlService)
    (s : ServiceState σ ρ τ) : (readings unicode runner sources service s).AllCaught unicode where
  status := caught_statusOf (hcontrolled.runner _ _)
  settings := by
    rintro reply hreply
    obtain ⟨command, hcommand, rfl⟩ := Option.mem_map.mp hreply
    obtain ⟨status, -, rfl⟩ := Option.mem_map.mp hcommand
    exact caught_settingsOf (hcontrolled.runner _ _)
  publicIp := by
    rintro reply hreply
    simp only [readings, askPublicIp] at hreply
    split at hreply
    · cases hreply
      exact hcontrolled.publicIp _ _ _
    · cases hreply
      exact hcontrolled.publicIp _ _ _
    · cases hreply
  dns := hcontrolled.dns _
  system := hcontrolled.system _

/-- **A status request degrades exactly when the texts of its failures fit.** -/
theorem status_degrades_iff (hcontrolled : Controlled runner sources)
    (repository : Handler targetRepository PyException ρ) (service : ControlService)
    (request : ControlRequest) (hop : request.operation = .statusRequest)
    (s : ServiceState σ ρ τ) :
    let r := readings unicode runner sources service s
    r.Degrades unicode ((service.dispatch request).exec
        (nordVpnEnvironment unicode runner repository sources).handler s).result ↔
      r.Fit unicode := by
  have hdispatch : service.dispatch request = service.dispatchStatus request.requestId := by
    simp [ControlService.dispatch, ControlService.dispatchUnlocked, hop, Operation.mutates]
  obtain ⟨target, checkedAt, hexec⟩ := exec_dispatchStatus unicode runner repository sources service
    (s := s) request.requestId
  rw [hdispatch, hexec]
  refine ⟨?_, fun hfit => ?_⟩
  · rintro ⟨response, gateway, hresult, -, -, -⟩
    cases hsnapshot : (readings unicode runner sources service s).snapshot unicode target with
    | ok x => exact Readings.fit_of_snapshot hsnapshot
    | error e =>
      rw [hsnapshot] at hresult
      cases hresult
  · obtain ⟨x, hsnapshot, hdegrades⟩ := Readings.snapshot_of_fit
      (readings_allCaught hcontrolled service s) hfit target
    rw [hsnapshot]
    exact hdegrades request.requestId checkedAt

end Degradation

/-! ## A client that always fails -/

/-- A command line whose every command exits with status 1 and `text` on its error output. -/
def failingRunner (text : String) : Handler commandRunner PyException Unit :=
  fun _ p => (.ok ⟨1, "", text⟩, p)

/-- Collectors that find nothing. -/
def failingSources : StatusSources Unit where
  dns t := (.error (.statusCollection "COMMAND_TIMEOUT" "status command timed out"), t)
  system t :=
    (.error (.statusCollection "SYSTEM_STATUS_FAILED" "could not read local system health"), t)
  publicIp _ _ t :=
    (.error (.statusCollection "PUBLIC_IP_REQUEST_FAILED" "public-IP service request failed"), t)
  now t := (idealMoment, t)

theorem failing_controlled (text : String) : Controlled (failingRunner text) failingSources where
  runner _ _ := raises_ok _
  publicIp _ _ _ := raises_error_iff.mpr rfl
  dns _ := raises_error_iff.mpr rfl
  system _ := raises_error_iff.mpr rfl

def failingState : ServiceState Unit (Dict String TargetCatalogue) Unit :=
  { idealState ⟨.disconnected, true⟩ with provider := () }

def askFailing : ControlRequest := ⟨idealRequestId, .statusRequest⟩

/-- A short message: the snapshot reports the failures. -/
theorem status_degrades_briefly :
    (readings Python.asciiData (failingRunner "Whoops!") failingSources idealService
      failingState).Degrades Python.asciiData
      ((idealService.dispatch askFailing).exec (nordVpnEnvironment Python.asciiData
        (failingRunner "Whoops!") MemoryTargetRepository failingSources).handler
        failingState).result := by
  refine (status_degrades_iff (failing_controlled "Whoops!") MemoryTargetRepository idealService
    askFailing rfl failingState).mpr ⟨fun _ => by decide, nofun, nofun, ?_, ?_⟩
  · exact raises_error_iff.mpr fun x hx => by cases hx; decide
  · exact raises_error_iff.mpr fun x hx => by cases hx; decide

/-- A message that does not fit is not reported. -/
theorem failing_not_degrades {text : String}
    (h : 512 < (NordVpn.commandFailure Python.asciiData ⟨1, "", text⟩).length) :
    ¬ (readings Python.asciiData (failingRunner text) failingSources idealService
      failingState).Degrades Python.asciiData
      ((idealService.dispatch askFailing).exec (nordVpnEnvironment Python.asciiData
        (failingRunner text) MemoryTargetRepository failingSources).handler failingState).result := by
  obtain ⟨target, checkedAt, hexec⟩ := exec_dispatchStatus Python.asciiData (failingRunner text)
    MemoryTargetRepository failingSources idealService (s := failingState) idealRequestId
  have hdispatch : idealService.dispatch askFailing = idealService.dispatchStatus idealRequestId := rfl
  rw [hdispatch, hexec]
  rintro ⟨response, gateway, hresult, -⟩
  cases hsnapshot : (readings Python.asciiData (failingRunner text) failingSources idealService
      failingState).snapshot Python.asciiData target with
  | error e =>
    rw [hsnapshot] at hresult
    cases hresult
  | ok x =>
    have hfits : CommandFits Python.asciiData (.ok ⟨1, "", text⟩) :=
      (Readings.fit_of_snapshot hsnapshot).status
    exact absurd (hfits Int.one_ne_zero) (Nat.not_le.mpr h)

/-- The message about a failed command is longer than the detail that it ends with. -/
theorem commandFailure_length_of_plain {text : String} (hne : text ≠ "")
    (hplain : ∀ c ∈ text.toList, Python.isSpace c = false ∧ Python.asciiData.isPrintable c = true)
    (hlength : text.length ≤ NordVpn.maxErrorDetailLength) :
    (NordVpn.commandFailure Python.asciiData ⟨1, "", text⟩).length = 43 + text.length := by
  have hdetail : NordVpn.errorDetail Python.asciiData ⟨1, "", text⟩ = some text :=
    NordVpn.errorDetail_of_plain _ hne hplain hlength
  have hstatus : ("NordVPN command failed with exit status " ++ toString (1 : Int)).length = 41 := by
    decide
  simp only [NordVpn.commandFailure, hdetail, String.length_append] at hstatus ⊢
  rw [hstatus]
  rfl

/-- As much text as the adapter keeps of a failed command. -/
def longText : String := String.ofList (List.replicate NordVpn.maxErrorDetailLength 'x')

theorem longText_length : longText.length = 512 := by
  rw [longText, String.length_ofList, List.length_replicate]
  rfl

theorem longText_plain :
    ∀ c ∈ longText.toList, Python.isSpace c = false ∧ Python.asciiData.isPrintable c = true := by
  intro c hc
  rw [longText, String.toList_ofList] at hc
  obtain rfl := List.eq_of_mem_replicate hc
  decide

/-- A message as long as the adapter makes it, from output well within its bound: the status
request raises, and no snapshot is reported. -/
theorem status_lost :
    Controlled (failingRunner longText) failingSources ∧ longText.length ≤ maxOutputLength ∧
      ¬ (readings Python.asciiData (failingRunner longText) failingSources idealService
        failingState).Degrades Python.asciiData
        ((idealService.dispatch askFailing).exec (nordVpnEnvironment Python.asciiData
          (failingRunner longText) MemoryTargetRepository failingSources).handler
          failingState).result := by
  have hlength := longText_length
  have hne : longText ≠ "" := by
    intro hempty
    rw [hempty] at hlength
    cases hlength
  have hmessage := commandFailure_length_of_plain hne longText_plain hlength.le
  refine ⟨failing_controlled longText, ?_, failing_not_degrades ?_⟩
  · rw [hlength]
    decide
  · rw [hmessage, hlength]
    decide

end Snarkypuss
