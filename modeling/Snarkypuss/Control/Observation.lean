import Snarkypuss.Calls.Paths
import Snarkypuss.Control.Modes
import Snarkypuss.Control.TargetAlias

/-!
# What a status request has observed

A status request does not take the operation lock. It reads the connection with one call of the
provider and the leak protection with a later one, and any number of mutations may be answered in
between. Each half of the report held when it was read, and the two held together unless both of
them had changed by the second reading.

## Main definitions

* `ObservationLaw`: a provider that reports its connection and its protection truthfully
* `ServiceState.observed`: the connection and the protection at an instant
* `Report`: how the report of a status request is related to two instants

## Main results

* `path_observeVpn`: the replies that a report is made of, in their order
* `status_reports`: a report is made of two instants within the request
* `reported_locked`: a gateway that never was Locked is reported to be
-/

namespace Snarkypuss

open Daemon

variable {σ ρ τ : Type}

/-- A provider whose `status` reports its connection, and whose `settings` report its
protection. -/
structure ObservationLaw (provider : Handler vpnProvider PyException σ) (connection : σ → VpnState)
    (protection : σ → Option Bool) : Prop where
  status : ∀ p status, (provider .status p).1 = .ok status → status.state = connection p
  settings : ∀ p settings, (provider .settings p).1 = .ok settings →
    settings.leakProtectionEnabled = protection p

/-- What the gateway mode depends on, at an instant of a run. -/
def ServiceState.observed (connection : σ → VpnState) (protection : σ → Option Bool)
    (s : ServiceState σ ρ τ) : VpnState × Option Bool :=
  (connection s.provider, protection s.provider)

/-- The report `vpn` of a request that read the connection when `first` was observed and the
protection when `second` was. -/
structure Report (first second : VpnState × Option Bool) (vpn : VpnStatus) : Prop where
  state : vpn.state = first.1
  protection : vpn.leakProtectionActive = second.2 ∨ vpn.leakProtectionActive = none
  mode : vpn.gatewayMode = gatewayMode vpn.state vpn.leakProtectionActive

namespace Report

variable {first second : VpnState × Option Bool} {vpn : VpnStatus}

/-- VPN is reported of a gateway that was in it at the first reading. -/
theorem mode_of_vpn (h : Report first second vpn) (hmode : vpn.gatewayMode = .vpn) :
    gatewayMode first.1 first.2 = .vpn := by
  rw [h.mode, h.state] at hmode
  cases hstate : first.1 with
  | connected => rfl
  | _ => cases hactive : vpn.leakProtectionActive with
    | none => simp [hstate, hactive, gatewayMode] at hmode
    | some b => cases b <;> simp [hstate, hactive, gatewayMode] at hmode

/-- A pair of which one half had not changed by the second reading is the pair of an instant. -/
theorem pair_of_kept (h : Report first second vpn) (hactive : vpn.leakProtectionActive.isSome)
    (hkept : first.1 = second.1 ∨ first.2 = second.2) :
    (vpn.state, vpn.leakProtectionActive) = first ∨
      (vpn.state, vpn.leakProtectionActive) = second := by
  have hprotection : vpn.leakProtectionActive = second.2 := by
    refine h.protection.resolve_right fun hnone => ?_
    rw [hnone] at hactive
    cases hactive
  rcases hkept with hconnection | hsetting
  · exact .inr (Prod.ext (h.state.trans hconnection) hprotection)
  · exact .inl (Prod.ext h.state (hprotection.trans hsetting.symm))

end Report

/-! ## The replies of a status request -/

variable {xs : List (Replied daemon PyException)}

/-- A component's reading is what the component returned, if it did. -/
theorem path_observe {A : Type} {component : Identifier}
    {caught : PyException → Option (String × String)} {p : Daemon A} {a : Option A}
    {failures : List ComponentFailure}
    (h : (ControlService.observe component caught p).Path xs (.done (.ok (a, failures)))) :
    ∃ result, p.Path xs (.done result) ∧ a = result.toOption := by
  obtain ⟨ys, zs, r, rfl, hattempt, hrest⟩ := h.bind_ok
  obtain ⟨result, hp, hreify⟩ := hattempt.attempt_ok
  cases result with
  | ok b =>
    cases hreify
    obtain ⟨rfl, hdone⟩ := hrest.of_done
    cases hdone
    rw [List.append_nil]
    exact ⟨.ok b, hp, rfl⟩
  | error e =>
    -- The failure is constructed without a call, or its texts are refused and the request raises.
    cases r with
    | ok b => cases Program.reify_eq_ok.mp hreify
    | error x =>
      obtain ⟨code, message⟩ := x
      obtain ⟨ys', zs', failure, rfl, hfailure, hpair⟩ := hrest.bind_ok
      obtain ⟨rfl, -⟩ := hfailure.of_done
      obtain ⟨rfl, hdone⟩ := hpair.of_done
      cases hdone
      rw [List.append_nil, List.append_nil]
      exact ⟨.error e, hp, rfl⟩

/-- The remembered target does not change the state that was read. -/
theorem path_attributeTarget {status status' : VpnStatus}
    (h : (ControlService.attributeTarget status).Path xs (.done (.ok status'))) :
    status'.state = status.state := by
  obtain ⟨ys, zs, remembered, rfl, -, hrest⟩ := h.bind_ok
  split at hrest
  · obtain ⟨ys', zs', target, rfl, -, hdone⟩ := hrest.bind_ok
    obtain ⟨-, hdone⟩ := hdone.of_done
    cases hdone
    rfl
  · split at hrest
    · obtain ⟨ys', zs', u, rfl, -, hdone⟩ := hrest.bind_ok
      obtain ⟨-, hdone⟩ := hdone.of_done
      cases hdone
      rfl
    · obtain ⟨-, hdone⟩ := hrest.of_done
      cases hdone
      rfl

/-- The replies that the provider's part of a report is made of, in their order. -/
theorem path_observeVpn {vpn : VpnStatus} {failures : List ComponentFailure}
    (h : ControlService.observeVpn.Path xs (.done (.ok (some vpn, failures)))) :
    ∃ status middle result seen, xs = ⟨.provider .status, .ok status⟩ :: middle ++
        [⟨.provider .settings, result⟩] ∧
      seen.state = status.state ∧ vpn = withGatewayMode seen result.toOption := by
  obtain ⟨ys, zs, ⟨status?, failures₁⟩, rfl, hstatus, hrest⟩ := h.bind_ok
  obtain ⟨result₁, hcall, hresult₁⟩ := path_observe hstatus
  obtain rfl := hcall.of_call
  cases result₁ with
  | error e =>
    -- Without a status there is no report.
    subst hresult₁
    obtain ⟨-, hdone⟩ := hrest.of_done
    cases hdone
  | ok status =>
    subst hresult₁
    obtain ⟨middle, zs', seen, rfl, hseen, hrest⟩ := hrest.bind_ok
    obtain ⟨ys', zs'', ⟨settings, failures₂⟩, rfl, hsettings, hdone⟩ := hrest.bind_ok
    obtain ⟨result₂, hcall₂, hresult₂⟩ := path_observe hsettings
    obtain rfl := hcall₂.of_call
    obtain ⟨rfl, hdone⟩ := hdone.of_done
    cases hdone
    subst hresult₂
    exact ⟨status, middle, result₂, seen, rfl, path_attributeTarget hseen, rfl⟩

/-- A snapshot begins with the provider's part of it. -/
theorem path_dispatchStatus {service : ControlService} {requestId : UUID}
    {answer : ControlResponse} {gateway : GatewayStatus}
    (h : (service.dispatchStatus requestId).Path xs (.done (.ok answer)))
    (hgateway : answer.gatewayStatus = some gateway) :
    ∃ ys zs failures, xs = ys ++ zs ∧
      ControlService.observeVpn.Path ys (.done (.ok (gateway.vpnStatus, failures))) := by
  obtain ⟨ys, zs, ⟨vpn, failures⟩, rfl, hvpn, hrest⟩ := h.bind_ok
  refine ⟨ys, zs, failures, rfl, ?_⟩
  obtain ⟨-, zs₁, ⟨publicIp, failures₁⟩, -, -, hrest⟩ := hrest.bind_ok
  obtain ⟨-, zs₂, ⟨dns, system, failures₂⟩, -, -, hrest⟩ := hrest.bind_ok
  obtain ⟨-, zs₃, checkedAt, -, -, hrest⟩ := hrest.bind_ok
  obtain ⟨-, hdone⟩ := hrest.of_done
  cases hdone
  cases hgateway
  exact hvpn

/-! ## The two instants of a report -/

section Run

variable {env : Environment σ ρ τ} {service : ControlService} {connection : σ → VpnState}
  {protection : σ → Option Bool} {P P' : Workers σ ρ τ} {events : List WorkerEvent}

/-- **A report is made of two instants within the request**: the connection is that of the first,
the protection that of the second, and the mode follows from the two. VPN is reported of a gateway
that was in it, and a pair of which one half was the same at both instants is one that the
provider had. -/
theorem status_reports (hlaw : ObservationLaw env.provider connection protection)
    (run : env.Interleaving service (fun _ _ => True) P events P') {j : ℕ}
    (hnew : P.threads.length ≤ j) {t : Worker} (ht : P'.threads[j]? = some t)
    (hstatus : t.request.operation = .statusRequest) {answer : ControlResponse}
    (hdone : t.program = .done (.ok answer)) {gateway : GatewayStatus}
    (hgateway : answer.gatewayStatus = some gateway) {vpn : VpnStatus}
    (hvpn : gateway.vpnStatus = some vpn) :
    ∃ before status between settings after Q₁ Q₂,
      events = before ++ .call j (.provider .status) status ::
        (between ++ .call j (.provider .settings) settings :: after) ∧
      env.Interleaving service (fun _ _ => True) P before Q₁ ∧
      env.Interleaving service (fun _ _ => True) Q₁
        (.call j (.provider .status) status :: between) Q₂ ∧
      env.Interleaving service (fun _ _ => True) Q₂
        (.call j (.provider .settings) settings :: after) P' ∧
      Report (Q₁.shared.observed connection protection) (Q₂.shared.observed connection protection) vpn ∧
      (vpn.gatewayMode = .vpn → gatewayMode (connection Q₁.shared.provider)
        (protection Q₁.shared.provider) = .vpn) ∧
      (vpn.leakProtectionActive.isSome →
        connection Q₁.shared.provider = connection Q₂.shared.provider ∨
          protection Q₁.shared.provider = protection Q₂.shared.provider →
        (vpn.state, vpn.leakProtectionActive) = Q₁.shared.observed connection protection ∨
          (vpn.state, vpn.leakProtectionActive) = Q₂.shared.observed connection protection) := by
  have hpath := run.path hnew ht
  have hdispatch : service.dispatch t.request = service.dispatchStatus t.request.requestId := by
    simp only [ControlService.dispatch, ControlService.dispatchUnlocked, hstatus]
    rfl
  rw [hdispatch, hdone] at hpath
  obtain ⟨ys, zs, failures, hown, hobserve⟩ := path_dispatchStatus hpath hgateway
  rw [hvpn] at hobserve
  obtain ⟨status, middle, result, seen, rfl, hseen, rfl⟩ := path_observeVpn hobserve
  -- The first reading, and what the run still has before it.
  rw [List.append_assoc, List.cons_append, ← List.nil_append (_ :: _)] at hown
  obtain ⟨before, rest, Q₁, N₁, rfl, hrest, run₁, hstep₁, run₂, hreply₁⟩ := run.at_reply hown
  obtain ⟨between, after, Q₂, N₂, rfl, -, run₃, hstep₂, run₄, hreply₂⟩ := run₂.at_reply hrest
  have hreport : Report (Q₁.shared.observed connection protection) (Q₂.shared.observed connection protection)
      (withGatewayMode seen result.toOption) := by
    refine ⟨hseen.trans (hlaw.status _ _ hreply₁.symm), ?_, rfl⟩
    cases result with
    | ok settings => exact .inl (hlaw.settings _ _ hreply₂.symm)
    | error e => exact .inr rfl
  exact ⟨before, .ok status, between, result, after, Q₁, Q₂, rfl, run₁,
    run₃.head trivial hstep₁, run₄.head trivial hstep₂, hreport, hreport.mode_of_vpn,
    hreport.pair_of_kept⟩

end Run

/-! ## On the ideal provider -/

/-- The connection and the protection of the ideal provider. -/
abbrev IdealVpn.protection (v : IdealVpn) : Option Bool := some v.leakProtection

theorem idealProvider_observationLaw :
    ObservationLaw idealEnvironment.provider IdealVpn.state IdealVpn.protection where
  status p status h := by
    cases h
    rfl
  settings p settings h := by
    cases h
    rfl

/-- A status request alone. -/
def idealReading : List (Pool.Choice ControlRequest) :=
  .start idealStatus :: List.replicate 6 (.call 0)

/-- A status request on the ideal provider reports the pair that the provider is in. -/
theorem status_reports_ideal :
    ∃ events P' t answer gateway vpn,
      idealSchedule idealWorkers idealReading = some (events, P') ∧ P'.threads[0]? = some t ∧
      t.program = .done (.ok answer) ∧ answer.gatewayStatus = some gateway ∧
      gateway.vpnStatus = some vpn ∧ vpn.gatewayMode = .locked ∧
      ∃ Q₁ Q₂ : Workers IdealVpn (Dict String TargetCatalogue) Unit,
        Report (Q₁.shared.observed IdealVpn.state IdealVpn.protection)
          (Q₂.shared.observed IdealVpn.state IdealVpn.protection) vpn := by
  refine ⟨_, _, _, _, _, _, rfl, rfl, rfl, rfl, rfl, rfl, ?_⟩
  obtain ⟨-, -, -, -, -, Q₁, Q₂, -, -, -, -, hreport, -⟩ := status_reports
    idealProvider_observationLaw
    (Pool.run_schedule (rfl : idealSchedule idealWorkers idealReading = _) fun _ _ _ => trivial)
    (Nat.le_refl 0) (rfl : (Pool.threads _)[0]? = _) rfl rfl rfl rfl
  exact ⟨Q₁, Q₂, hreport⟩

/-- The ideal service in Direct mode, before any request. -/
def directWorkers : Workers IdealVpn (Dict String TargetCatalogue) Unit :=
  ⟨idealState ⟨.disconnected, false⟩, []⟩

/-- A status request that reads the connection before a connect, and the protection after the
mode change that follows it. -/
def tornReading : List (Pool.Choice ControlRequest) :=
  [.start idealStatus, .call 0, .start idealConnect] ++ List.replicate 6 (.call 1) ++
    [.start idealProtected] ++ List.replicate 7 (.call 2) ++ List.replicate 5 (.call 0)

/-- The states of the torn reading: the provider is never disconnected with its protection on. -/
theorem tornReading_visits :
    ∀ s ∈ Pool.visits idealEnvironment.handler idealService.dispatch directWorkers tornReading,
      s.observed IdealVpn.state IdealVpn.protection ≠ (.disconnected, some true) := by
  decide

/-- **A gateway that never was Locked is reported to be**: it goes from Direct to VPN, and is
protected there, while a status request is between its two readings. -/
theorem reported_locked :
    ObservationLaw idealEnvironment.provider IdealVpn.state IdealVpn.protection ∧
    ∃ events P' t answer gateway vpn,
      idealEnvironment.Interleaving idealService (fun _ _ => True) directWorkers events P' ∧
      P'.threads[0]? = some t ∧ t.request.operation = .statusRequest ∧
      t.program = .done (.ok answer) ∧ answer.gatewayStatus = some gateway ∧
      gateway.vpnStatus = some vpn ∧ vpn.gatewayMode = .locked ∧
      ∀ before after Q, events = before ++ after →
        idealEnvironment.Interleaving idealService (fun _ _ => True) directWorkers before Q →
        Q.shared.observed IdealVpn.state IdealVpn.protection ≠
          (vpn.state, vpn.leakProtectionActive) := by
  refine ⟨idealProvider_observationLaw, _, _, _, _, _, _,
    Pool.run_schedule (rfl : idealSchedule directWorkers tornReading = _) fun _ _ _ => trivial,
    rfl, rfl, rfl, rfl, rfl, rfl, ?_⟩
  intro before after Q hevents run
  have hvisited : Q.shared ∈ Pool.visits idealEnvironment.handler idealService.dispatch directWorkers
      ((before ++ after).map Pool.choiceOf) := run.visited
  rw [← hevents] at hvisited
  exact tornReading_visits _ hvisited

end Snarkypuss
