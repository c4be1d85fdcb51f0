import Snarkypuss.Control.Ideal

/-!
# Exposure of the public address

A gateway whose provider is disconnected with its leak protection off is exposed: clients reach
the Internet from the public address of the host. A request other than Direct never brings that
about, whatever fails on its way. Lock disconnects after the provider has confirmed its
protection, Disconnect after the provider has reported it, and no other request disconnects or
turns the protection off.

## Main definitions

* `Gateway`, `Gateway.Exposed`: the connection, the protection and the firewall of a provider
* `Gateway.Move`: what each call may do to them
* `GatewayLaw`: a provider that moves them so, and reports its settings truthfully

## Main results

* `ensures_safe`: a request other than Direct keeps a gateway that is not exposed so
* `exposed_only_by_direct`: over whole runs, only a Direct request exposes the gateway
-/

namespace Snarkypuss

open Daemon

variable {σ ρ τ : Type}

/-- The connection, the leak protection and the firewall of a provider. -/
structure Gateway where
  connected : Bool
  protection : Bool
  firewall : Bool
  deriving DecidableEq

/-- Disconnected with the leak protection off. -/
def Gateway.Exposed (g : Gateway) : Prop := g.connected = false ∧ g.protection = false

/-- What a call may do, whether it returns or raises: have its effect or none. A call that is not
listed has no effect. -/
def Gateway.Move : ProviderCall → Gateway → Gateway → Prop
  | .connectStored _, g, g' => g' = g ∨ g' = { g with connected := true }
  | .disconnect, g, g' => g' = g ∨ g' = { g with connected := false }
  | .setLeakProtection b, g, g' => g' = g ∨ g' = { g with protection := b }
  | _, g, g' => g' = g

/-- The settings report a gateway. -/
def VpnSettings.Reports (settings : VpnSettings) (g : Gateway) : Prop :=
  settings.leakProtectionEnabled = some g.protection ∧ settings.firewallEnabled = some g.firewall

/-- A provider whose gateway only its calls move, and whose settings, when it returns them, are
those of its gateway. A status may say anything. -/
structure GatewayLaw (provider : Handler vpnProvider PyException σ) (gateway : σ → Gateway) :
    Prop where
  move : ∀ c p, Gateway.Move c (gateway p) (gateway (provider c p).2)
  settings : ∀ p settings, (provider .settings p).1 = .ok settings → settings.Reports (gateway p)
  set : ∀ b p settings, (provider (.setLeakProtection b) p).1 = .ok settings →
    settings.Reports (gateway (provider (.setLeakProtection b) p).2)

section Request

variable {env : Environment σ ρ τ} {gateway : σ → Gateway} {service : ControlService}

/-- The gateway is not exposed. -/
def Safe (gateway : σ → Gateway) (s : ServiceState σ ρ τ) : Prop := ¬ (gateway s.provider).Exposed

/-- The provider's protection is on. -/
def Protected (gateway : σ → Gateway) (s : ServiceState σ ρ τ) : Prop :=
  (gateway s.provider).protection = true

theorem Protected.safe {s : ServiceState σ ρ τ} (h : Protected gateway s) : Safe gateway s :=
  fun hexposed => Bool.noConfusion (h.symm.trans hexposed.2)

/-- The call does not turn the protection off. -/
def KeepsProtection (c : DaemonCall) : Prop := c ≠ .provider (.setLeakProtection false)

/-- A call other than a disconnect or one that turns the protection off exposes nothing. -/
theorem safe_call (law : GatewayLaw env.provider gateway) {c : DaemonCall}
    (hc : c ≠ .provider .disconnect ∧ KeepsProtection c)
    {s : ServiceState σ ρ τ} (hs : Safe gateway s) : Safe gateway (env.handler c s).2 := by
  cases c with
  | provider c =>
    have hmove := law.move c s.provider
    change ¬ (gateway (env.provider c s.provider).2).Exposed
    cases c with
    | connectStored target =>
      rcases hmove with h | h
      · rw [h]
        exact hs
      · rw [h]
        rintro ⟨hconnected, -⟩
        cases hconnected
    | disconnect => exact absurd rfl hc.1
    | setLeakProtection b =>
      cases b with
      | false => exact absurd rfl hc.2
      | true =>
        rcases hmove with h | h
        · rw [h]
          exact hs
        · rw [h]
          rintro ⟨-, hprotection⟩
          cases hprotection
    | _ =>
      rw [show gateway _ = gateway s.provider from hmove]
      exact hs
  | _ => exact hs

/-- A call other than one that turns the protection off keeps it on. -/
theorem protected_call (law : GatewayLaw env.provider gateway) {c : DaemonCall}
    (hc : KeepsProtection c) {s : ServiceState σ ρ τ}
    (hs : Protected gateway s) : Protected gateway (env.handler c s).2 := by
  cases c with
  | provider c =>
    have hmove := law.move c s.provider
    change (gateway (env.provider c s.provider).2).protection = true
    cases c with
    | connectStored target =>
      rcases hmove with h | h <;> rw [h] <;> exact hs
    | disconnect =>
      rcases hmove with h | h <;> rw [h] <;> exact hs
    | setLeakProtection b =>
      cases b with
      | false => exact absurd rfl hc
      | true =>
        rcases hmove with h | h
        · rw [h]
          exact hs
        · rw [h]
    | _ =>
      rw [show gateway _ = gateway s.provider from hmove]
      exact hs
  | _ => exact hs

/-- A program that does not turn the protection off ends safe when it starts protected. -/
theorem ensures_safe_of_protected (law : GatewayLaw env.provider gateway) {A : Type}
    {p : Daemon A} (hp : p.Uses KeepsProtection) :
    Program.Ensures env.handler (Protected gateway) p fun _ s => Safe gateway s :=
  (hp.ensures fun _ _ hc => protected_call law hc).weaken (fun _ h => h) fun _ _ h => h.safe

/-- The settings that a Disconnect reads leave the gateway safe, and protected when they say
so. -/
theorem ensures_settings (law : GatewayLaw env.provider gateway) :
    Program.Ensures env.handler (Safe gateway) (provider .settings) fun r s =>
      Safe gateway s ∧ ∀ settings, r = .ok settings →
        settings.leakProtectionEnabled = some true → Protected gateway s := by
  intro s hs
  have hframe : gateway (env.provider .settings s.provider).2 = gateway s.provider :=
    law.move .settings s.provider
  have hsafe := safe_call law (c := .provider .settings)
    ⟨(fun h => by cases h), (fun h => by cases h)⟩ hs
  refine ⟨hsafe, fun settings hr hon => ?_⟩
  have hreport := (law.settings s.provider settings hr).1
  show (gateway (env.provider .settings s.provider).2).protection = true
  rw [hframe]
  exact Option.some.inj (hreport.symm.trans hon)

/-- Enabling the protection leaves the gateway safe, and protected when it returns. -/
theorem ensures_enableProtection_safe (law : GatewayLaw env.provider gateway) :
    Program.Ensures env.handler (Safe gateway) ControlService.enableProtection fun r s =>
      Safe gateway s ∧ (r = .ok () → Protected gateway s) := by
  intro s hs
  have hsafe := safe_call law (c := .provider (.setLeakProtection true))
    ⟨(fun h => by cases h), (fun h => by cases h)⟩ hs
  simp only [ControlService.enableProtection, Program.bind_eq, Program.call, Program.ask_bind,
    Program.exec_ask]
  have hreply : (env.handler (DaemonCall.provider (.setLeakProtection true)) s).1 =
      (env.provider (.setLeakProtection true) s.provider).1 := rfl
  rw [hreply]
  cases hr : (env.provider (.setLeakProtection true) s.provider).1 with
  | error e => exact ⟨hsafe, fun h => by cases h⟩
  | ok settings =>
    by_cases hon : settings.leakProtectionEnabled = some true
    · simp only [Program.done_ok_bind, hon, ne_eq, not_true_eq_false, if_false]
      refine ⟨hsafe, fun _ => ?_⟩
      have hreport := (law.set true s.provider settings hr).1
      exact Option.some.inj (hreport.symm.trans hon)
    · simp only [Program.done_ok_bind, ne_eq, hon, not_false_eq_true, if_true]
      exact ⟨hsafe, fun h => by cases h⟩

/-- The calls behind the disconnect of a Lock or a Disconnect. -/
theorem uses_disconnectTarget_protected :
    ControlService.disconnectTarget.Uses KeepsProtection :=
  ControlService.uses_disconnectTarget (fun h => by cases h) (fun h => by cases h)

theorem ensures_dispatchDisconnect (law : GatewayLaw env.provider gateway) (requestId : UUID) :
    Program.Ensures env.handler (Safe gateway) (ControlService.dispatchDisconnect requestId)
      fun _ s => Safe gateway s := by
  refine Program.ensures_bind (Q := fun _ s => Safe gateway s) (ensures_settings law)
    (fun settings => ?_) fun _ _ h => h.1
  split
  · exact Program.ensures_done fun _ h => h.1
  · rename_i hreported
    -- The disconnect is reached only when the settings reported the protection on.
    have hon : settings.leakProtectionEnabled = some true := (not_not.mp hreported).1
    refine (ensures_safe_of_protected law ?_).weaken (fun s h => h.2 settings rfl hon) fun _ _ h => h
    exact uses_disconnectTarget_protected.bind fun _ => trivial

theorem ensures_dispatchLock (law : GatewayLaw env.provider gateway) (requestId : UUID) :
    Program.Ensures env.handler (Safe gateway) (service.dispatchLock requestId)
      fun _ s => Safe gateway s := by
  have hcalls : service.requireProtectionConfiguration.Uses fun _ => False :=
    service.uses_requireProtectionConfiguration
  have hrequire : Program.Ensures env.handler (Safe gateway)
      service.requireProtectionConfiguration fun _ s => Safe gateway s :=
    hcalls.ensures fun _ _ h => h.elim
  refine Program.ensures_bind (Q := fun _ s => Safe gateway s) hrequire (fun _ => ?_) fun _ _ h => h
  refine Program.ensures_bind (Q := fun _ s => Safe gateway s) (ensures_enableProtection_safe law)
    (fun _ => ?_) fun _ _ h => h.1
  refine (ensures_safe_of_protected law ?_).weaken (fun s h => h.2 rfl) fun _ _ h => h
  refine uses_disconnectTarget_protected.bind fun status => ?_
  exact (ControlService.uses_requireGatewayMode _ _ _ fun h => by cases h).bind fun _ => trivial

/-- **A request other than Direct keeps a gateway that is not exposed so.** -/
theorem ensures_safe (law : GatewayLaw env.provider gateway) {request : ControlRequest}
    (hdirect : request.operation ≠ .directRequest) :
    Program.Ensures env.handler (Safe gateway) (service.dispatch request) fun _ s =>
      Safe gateway s := by
  refine service.ensures_dispatch env (fun _ _ h => h) ?_
  have hkeeps : (∀ c, request.operation.mayCall c →
      c ≠ .provider .disconnect ∧ KeepsProtection c) →
        Program.Ensures env.handler (Safe gateway) (service.dispatchUnlocked request)
          fun _ s => Safe gateway s :=
    fun h => (service.uses_dispatchUnlocked request).ensures fun c _ hc => safe_call law (h c hc)
  obtain ⟨requestId, operation⟩ := request
  cases operation with
  | disconnectRequest => exact ensures_dispatchDisconnect law requestId
  | lockRequest => exact ensures_dispatchLock law requestId
  | directRequest => exact absurd rfl hdirect
  | _ =>
    refine hkeeps fun c hc => ⟨?_, ?_⟩ <;>
    · rintro rfl
      cases hc

end Request

/-! ## Runs -/

/-- **Only a Direct request exposes the gateway**: in every run of requests, from every state and
with failures anywhere, a gateway that a dispatch leaves exposed was exposed before it or the
request is a Direct request; without Direct requests a run exposes nothing. -/
theorem exposed_only_by_direct {env : Environment σ ρ τ} {gateway : σ → Gateway}
    {service : ControlService} (law : GatewayLaw env.provider gateway)
    {s₀ : ServiceState σ ρ τ} {history s} (run : env.Run service (fun _ _ => True) s₀ history s) :
    (∀ request, (gateway ((service.dispatch request).exec env.handler s).state.provider).Exposed →
      (gateway s.provider).Exposed ∨ request.operation = .directRequest) ∧
    ((∀ x ∈ history, x.request.operation ≠ .directRequest) → (gateway s.provider).Exposed →
      (gateway s₀.provider).Exposed) := by
  refine ⟨fun request hexposed => ?_, ?_⟩
  · by_contra hnot
    obtain ⟨hsafe, hdirect⟩ := not_or.mp hnot
    exact ensures_safe law hdirect s hsafe hexposed
  · refine run.invariant_history (K := fun history s =>
      (∀ x ∈ history, x.request.operation ≠ .directRequest) → (gateway s.provider).Exposed →
        (gateway s₀.provider).Exposed) (fun _ h => h) ?_
    intro request history t _ ih hnone hexposed
    refine ih (fun x hx => hnone x (List.mem_append_left _ hx)) ?_
    by_contra hsafe
    have hdirect : request.operation ≠ .directRequest :=
      hnone (Served.run env.handler service.dispatch request t)
        (List.mem_append_right _ List.mem_cons_self)
    exact ensures_safe law hdirect t hsafe hexposed

/-- The gateway of the ideal provider, whose firewall is on. -/
def IdealVpn.gateway (v : IdealVpn) : Gateway := ⟨v.state == .connected, v.leakProtection, true⟩

theorem idealProvider_gatewayLaw : GatewayLaw idealProvider IdealVpn.gateway where
  move c p := by
    cases c with
    | connectStored target => exact .inr rfl
    | disconnect => exact .inr rfl
    | setLeakProtection b => exact .inr rfl
    | _ => rfl
  settings p settings h := by
    cases h
    exact ⟨rfl, rfl⟩
  set b p settings h := by
    cases h
    exact ⟨rfl, rfl⟩

/-- A connected gateway without protection, locked: it is disconnected and not exposed. -/
theorem lock_not_exposed :
    let s₀ := idealState ⟨.connected, false⟩
    let s := ((idealService.dispatch ⟨idealRequestId, .lockRequest⟩).exec idealEnvironment.handler
      s₀).state
    s.provider.state = .disconnected ∧
      (∀ request, (s.provider.gateway.Exposed → s₀.provider.gateway.Exposed) ∧
        ((((idealService.dispatch request).exec idealEnvironment.handler
          s).state.provider.gateway).Exposed →
            s.provider.gateway.Exposed ∨ request.operation = .directRequest)) := by
  have run : idealEnvironment.Run idealService (fun _ _ => True) (idealState ⟨.connected, false⟩) _ _ :=
    .serve .start ⟨idealRequestId, .lockRequest⟩ trivial
  have law : GatewayLaw idealEnvironment.provider IdealVpn.gateway := idealProvider_gatewayLaw
  obtain ⟨hstep, hrun⟩ := exposed_only_by_direct law run
  refine ⟨rfl, fun request => ⟨hrun ?_, hstep request⟩⟩
  intro x hx
  obtain rfl := List.mem_singleton.mp hx
  exact fun h => by cases h

end Snarkypuss
