import Snarkypuss.Control.Ideal

/-!
# Verified mode changes

A mode change that returns success has verified the mode it reports. The provider is called in a
fixed order, each call returned, and what the response says is what the last reading said.

Protected mode is VPN mode: the mode stands for a connected provider, and whether the protection
could be verified again after the connect is reported beside it, not required.

## Main definitions

* `providerExchanges`: the provider calls of a dispatch with their replies
* `VerifiedProtected`, `VerifiedLock`, `VerifiedDirect`: a verified transition of each kind

## Main results

* `modeChange_verified`: the transitions that return success are verified
-/

namespace Snarkypuss

open Daemon

variable {σ ρ τ : Type}

/-- A call of the provider and its reply. -/
abbrev ProviderExchange := Σ c : ProviderCall, Except PyException c.Reply

/-- The provider calls among some exchanges, with their replies. -/
def providerExchanges (exchanges : List (Exchange daemon PyException (ServiceState σ ρ τ))) :
    List ProviderExchange :=
  exchanges.filterMap fun
    | ⟨.provider c, reply, _⟩ => some ⟨c, reply⟩
    | _ => none

@[simp] theorem providerExchanges_append
    (xs ys : List (Exchange daemon PyException (ServiceState σ ρ τ))) :
    providerExchanges (xs ++ ys) = providerExchanges xs ++ providerExchanges ys :=
  List.filterMap_append

@[simp] theorem providerExchanges_nil :
    providerExchanges ([] : List (Exchange daemon PyException (ServiceState σ ρ τ))) = [] := rfl

/-- A sequence that returns, with the provider calls of its two programs. -/
theorem exec_bind_ok (env : Environment σ ρ τ) {A B : Type} {p : Daemon A} {f : A → Daemon B}
    {s : ServiceState σ ρ τ} {b : B} (h : ((p.bind f).exec env.handler s).result = .ok b) :
    ∃ a, (p.exec env.handler s).result = .ok a ∧
      ((f a).exec env.handler (p.exec env.handler s).state).result = .ok b ∧
      providerExchanges ((p.bind f).exec env.handler s).exchanges =
        providerExchanges (p.exec env.handler s).exchanges ++
          providerExchanges ((f a).exec env.handler (p.exec env.handler s).state).exchanges := by
  obtain ⟨a, ha, hb, hx⟩ := Program.exec_bind_eq_ok env.handler h
  exact ⟨a, ha, hb, by rw [hx, providerExchanges_append]⟩

/-! ## The parts of a transition -/

section Parts

variable (env : Environment σ ρ τ) (service : ControlService) {s : ServiceState σ ρ τ}

theorem resolveTarget_ok {alias_ : String} {target : Option StoredTarget}
    (h : ((service.resolveTarget alias_).exec env.handler s).result = .ok target) :
    target = service.resolvedTarget s.targets alias_ ∧
      ((service.resolveTarget alias_).exec env.handler s).state = s ∧
      providerExchanges ((service.resolveTarget alias_).exec env.handler s).exchanges = [] := by
  unfold ControlService.resolveTarget ControlService.resolvedTarget at *
  split at h <;> rename_i hb <;> simp only [hb, if_true] at h ⊢
  · cases h
    exact ⟨rfl, rfl, rfl⟩
  · cases h
    exact ⟨rfl, rfl, rfl⟩

theorem requireProtectionConfiguration_exchanges :
    providerExchanges (service.requireProtectionConfiguration.exec env.handler s).exchanges = [] := by
  unfold ControlService.requireProtectionConfiguration
  split <;> rfl

theorem enableProtection_ok
    (h : (ControlService.enableProtection.exec env.handler s).result = .ok ()) :
    ∃ settings : VpnSettings, settings.leakProtectionEnabled = some true ∧
      providerExchanges (ControlService.enableProtection.exec env.handler s).exchanges =
        [⟨.setLeakProtection true, .ok settings⟩] := by
  simp only [ControlService.enableProtection, Program.bind_eq, Program.call, Program.ask_bind,
    Program.exec_ask, Environment.handler] at h ⊢
  cases hr : (env.provider (.setLeakProtection true) s.provider).1 with
  | error e =>
    rw [hr] at h
    cases h
  | ok settings =>
    simp only [hr, Program.done_ok_bind] at h ⊢
    by_cases hon : settings.leakProtectionEnabled = some true
    · exact ⟨settings, hon, by simp [hon]; rfl⟩
    · simp [hon] at h

theorem connectTarget_ok {target : StoredTarget} {status : VpnStatus}
    (h : ((ControlService.connectTarget target).exec env.handler s).result = .ok status) :
    ∃ reported : VpnStatus, status = { reported with target := some target.alias.val } ∧
      providerExchanges ((ControlService.connectTarget target).exec env.handler s).exchanges =
        [⟨.connectStored target, .ok reported⟩] := by
  simp only [ControlService.connectTarget, Program.bind_eq, Program.call, Program.ask_bind,
    Program.exec_ask, Environment.handler] at h ⊢
  cases hr : (env.provider (.connectStored target) s.provider).1 with
  | error e =>
    rw [hr] at h
    cases h
  | ok reported =>
    rw [hr] at h
    cases h
    exact ⟨reported, rfl, rfl⟩

theorem disconnectTarget_ok {status : VpnStatus}
    (h : (ControlService.disconnectTarget.exec env.handler s).result = .ok status) :
    providerExchanges (ControlService.disconnectTarget.exec env.handler s).exchanges =
      [⟨.disconnect, .ok status⟩] := by
  simp only [ControlService.disconnectTarget, Program.bind_eq, Program.call, Program.ask_bind,
    Program.exec_ask, Environment.handler] at h ⊢
  cases hr : (env.provider .disconnect s.provider).1 with
  | error e =>
    rw [hr] at h
    cases h
  | ok reported =>
    rw [hr] at h
    cases h
    rfl

theorem requireGatewayMode_ok {mode : GatewayMode} {message : String} {status verified : VpnStatus}
    (h : ((ControlService.requireGatewayMode mode message status).exec env.handler s).result =
      .ok verified) :
    ∃ settings : VpnSettings, verified = withGatewayMode status (some settings) ∧
      verified.gatewayMode = mode ∧
      providerExchanges
          ((ControlService.requireGatewayMode mode message status).exec env.handler s).exchanges =
        [⟨.settings, .ok settings⟩] := by
  simp only [ControlService.requireGatewayMode, Program.bind_eq, Program.call, Program.ask_bind,
    Program.exec_ask, Environment.handler] at h ⊢
  cases hr : (env.provider .settings s.provider).1 with
  | error e =>
    rw [hr] at h
    cases h
  | ok settings =>
    simp only [hr, Program.done_ok_bind] at h ⊢
    by_cases hmode : (withGatewayMode status (some settings)).gatewayMode = mode
    · simp only [hmode, ne_eq, not_true_eq_false, if_false, Program.pure_eq, Program.exec_done] at h ⊢
      cases h
      exact ⟨settings, rfl, hmode, rfl⟩
    · simp only [ne_eq, hmode, not_false_eq_true, if_true] at h
      cases h

end Parts

/-! ## Whole transitions -/

/-- What a verified Protected transition called, and what its response says: the protection was
confirmed, then the resolved target was connected, and the status is of a connected provider with
the protection that the settings read last report. -/
structure VerifiedProtected (target : StoredTarget) (exchanges : List ProviderExchange)
    (response : ControlResponse) where
  confirmed : VpnSettings
  connected : VpnStatus
  observed : VpnSettings
  status : VpnStatus
  exchanges_eq : exchanges = [⟨.setLeakProtection true, .ok confirmed⟩,
    ⟨.connectStored target, .ok connected⟩, ⟨.settings, .ok observed⟩]
  confirmed_on : confirmed.leakProtectionEnabled = some true
  response_eq : response.vpnStatus = some status
  mode_eq : status.gatewayMode = .vpn
  protection_eq : status.leakProtectionActive = observed.leakProtectionEnabled

/-- What a verified transition to a disconnected mode called, and what its response says: the
protection was set and confirmed, the provider disconnected, and the settings read last report
the protection that the mode stands for. -/
structure VerifiedDisconnected (protection : Bool) (mode : GatewayMode)
    (exchanges : List ProviderExchange) (response : ControlResponse) where
  confirmed : VpnSettings
  disconnected : VpnStatus
  observed : VpnSettings
  status : VpnStatus
  exchanges_eq : exchanges = [⟨.setLeakProtection protection, .ok confirmed⟩,
    ⟨.disconnect, .ok disconnected⟩, ⟨.settings, .ok observed⟩]
  confirmed_eq : confirmed.leakProtectionEnabled = some protection
  response_eq : response.vpnStatus = some status
  mode_eq : status.gatewayMode = mode
  protection_eq : status.leakProtectionActive = some protection

section Transitions

variable (env : Environment σ ρ τ) (service : ControlService) {s : ServiceState σ ρ τ}
  {requestId : UUID} {response : ControlResponse}

theorem dispatchProtected_verified {alias_ : Identifier}
    (h : ((service.dispatchProtected requestId alias_).exec env.handler s).result = .ok response)
    (hsuccess : response.success = true) :
    ∃ target, service.resolvedTarget s.targets alias_ = some target ∧
      Nonempty (VerifiedProtected target (providerExchanges
        ((service.dispatchProtected requestId alias_).exec env.handler s).exchanges) response) := by
  obtain ⟨resolved, hresolved, h, hx₁⟩ := exec_bind_ok env h
  obtain ⟨heq, -, hnone⟩ := resolveTarget_ok env service hresolved
  cases resolved with
  | none =>
    cases h
    cases hsuccess
  | some target =>
    obtain ⟨_, -, h, hx₂⟩ := exec_bind_ok env h
    obtain ⟨_, henable, h, hx₃⟩ := exec_bind_ok env h
    obtain ⟨confirmed, hon, henabled⟩ := enableProtection_ok env henable
    obtain ⟨status, hconnect, h, hx₄⟩ := exec_bind_ok env h
    obtain ⟨connected, hstatus, hconnected⟩ := connectTarget_ok env hconnect
    obtain ⟨verified, hverify, h, hx₅⟩ := exec_bind_ok env h
    obtain ⟨observed, hverified, hmode, hobserved⟩ := requireGatewayMode_ok env hverify
    obtain rfl := Except.ok.inj h
    refine ⟨target, heq.symm, ⟨⟨confirmed, connected, observed, verified, ?_, hon, rfl, hmode, ?_⟩⟩⟩
    · refine hx₁.trans ?_
      rw [hnone, List.nil_append]
      refine hx₂.trans ?_
      rw [requireProtectionConfiguration_exchanges, List.nil_append]
      refine hx₃.trans ?_
      rw [henabled]
      refine congrArg (_ :: ·) (hx₄.trans ?_)
      rw [hconnected]
      refine congrArg (_ :: ·) (hx₅.trans ?_)
      rw [hobserved]
      rfl
    · rw [hverified]
      rfl

theorem dispatchLock_verified
    (h : ((service.dispatchLock requestId).exec env.handler s).result = .ok response) :
    Nonempty (VerifiedDisconnected true .locked
      (providerExchanges ((service.dispatchLock requestId).exec env.handler s).exchanges)
      response) := by
  obtain ⟨_, -, h, hx₁⟩ := exec_bind_ok env h
  obtain ⟨_, henable, h, hx₂⟩ := exec_bind_ok env h
  obtain ⟨confirmed, hon, henabled⟩ := enableProtection_ok env henable
  obtain ⟨status, hdisconnect, h, hx₃⟩ := exec_bind_ok env h
  obtain ⟨verified, hverify, h, hx₄⟩ := exec_bind_ok env h
  obtain ⟨observed, hverified, hmode, hobserved⟩ := requireGatewayMode_ok env hverify
  obtain rfl := Except.ok.inj h
  refine ⟨⟨confirmed, status, observed, verified, ?_, hon, rfl, hmode, ?_⟩⟩
  · refine hx₁.trans ?_
    rw [requireProtectionConfiguration_exchanges, List.nil_append]
    refine hx₂.trans ?_
    rw [henabled]
    refine congrArg (_ :: ·) (hx₃.trans ?_)
    rw [disconnectTarget_ok env hdisconnect]
    refine congrArg (_ :: ·) (hx₄.trans ?_)
    rw [hobserved]
    rfl
  · rw [hverified] at hmode ⊢
    exact (withGatewayMode_eq_locked.mp hmode).2

theorem directTransition_ok {verified : VpnStatus}
    (h : (ControlService.directTransition.exec env.handler s).result = .ok verified) :
    ∃ confirmed disconnected observed, confirmed.leakProtectionEnabled = some false ∧
      verified = withGatewayMode disconnected (some observed) ∧ verified.gatewayMode = .direct ∧
      providerExchanges (ControlService.directTransition.exec env.handler s).exchanges =
        [⟨.setLeakProtection false, .ok confirmed⟩, ⟨.disconnect, .ok disconnected⟩,
          ⟨.settings, .ok observed⟩] := by
  obtain ⟨confirmed, hset, h, hx₁⟩ := exec_bind_ok env h
  by_cases hoff : confirmed.leakProtectionEnabled = some false
  · simp only [hoff, ne_eq, not_true_eq_false, if_false] at h hx₁
    obtain ⟨status, hdisconnect, h, hx₂⟩ := exec_bind_ok env h
    obtain ⟨observed, hverified, hmode, hobserved⟩ := requireGatewayMode_ok env h
    refine ⟨confirmed, status, observed, hoff, hverified, hmode, ?_⟩
    have hcalled : providerExchanges ((provider (.setLeakProtection false)).exec
        env.handler s).exchanges = [⟨.setLeakProtection false, .ok confirmed⟩] := by
      rw [← hset]
      rfl
    refine hx₁.trans ?_
    rw [hcalled]
    refine congrArg (_ :: ·) (hx₂.trans ?_)
    rw [disconnectTarget_ok env hdisconnect]
    exact congrArg (_ :: ·) hobserved
  · simp only [ne_eq, hoff, not_false_eq_true, if_true] at h
    cases h

theorem dispatchDirect_verified
    (h : ((service.dispatchDirect requestId).exec env.handler s).result = .ok response) :
    Nonempty (VerifiedDisconnected false .direct
      (providerExchanges ((service.dispatchDirect requestId).exec env.handler s).exchanges)
      response) := by
  obtain ⟨_, -, h, hx₁⟩ := exec_bind_ok env h
  obtain ⟨r, htry, h, hx₂⟩ := exec_bind_ok env h
  rw [Program.exec_attempt] at htry hx₂ h
  cases r with
  | error x =>
    -- A caught error is raised again after the restoring call.
    obtain ⟨_, -, h, -⟩ := exec_bind_ok env h
    cases h
  | ok verified =>
    have htry : (ControlService.directTransition.exec env.handler
        (service.requireProtectionConfiguration.exec env.handler s).state).result =
          .ok verified := by
      revert htry
      cases (ControlService.directTransition.exec env.handler
        (service.requireProtectionConfiguration.exec env.handler s).state).result with
      | ok status => simp
      | error e => simp only [Program.reify]; split <;> simp
    obtain ⟨confirmed, disconnected, observed, hoff, hverified, hmode, hexchanges⟩ :=
      directTransition_ok env htry
    obtain rfl := Except.ok.inj h
    refine ⟨⟨confirmed, disconnected, observed, verified, ?_, hoff, rfl, hmode, ?_⟩⟩
    · refine hx₁.trans ?_
      rw [requireProtectionConfiguration_exchanges, List.nil_append]
      refine hx₂.trans ?_
      rw [hexchanges]
      rfl
    · rw [hverified] at hmode ⊢
      exact (withGatewayMode_eq_direct.mp hmode).2

/-- A mutation that returns success found the lock free, and its provider calls are those of
`_dispatch_unlocked`. -/
theorem dispatch_success {request : ControlRequest} (hm : request.operation.mutates = true)
    (h : ((service.dispatch request).exec env.handler s).result = .ok response)
    (hsuccess : response.success = true) :
    (service.inner env request s).result = .ok response ∧
      providerExchanges ((service.dispatch request).exec env.handler s).exchanges =
        providerExchanges (service.inner env request s).exchanges := by
  cases hlock : s.operationLocked with
  | true =>
    rw [service.exec_dispatch_of_locked env hm hlock] at h
    cases h
    cases hsuccess
  | false =>
    obtain ⟨before, after, hexec, hbefore, hafter⟩ := service.exec_dispatch env request hlock
    rw [hexec] at h ⊢
    refine ⟨h, ?_⟩
    have hnone : ∀ xs : List (Exchange daemon PyException (ServiceState σ ρ τ)),
        (∀ x ∈ xs, x.call = .acquireLock ∨ x.call = .releaseLock) → providerExchanges xs = [] := by
      intro xs hxs
      refine List.filterMap_eq_nil_iff.mpr fun x hx => ?_
      obtain ⟨c, reply, after⟩ := x
      rcases hxs _ hx with hc | hc <;> cases hc <;> rfl
    simp [hnone before fun x hx => .inl (hbefore x hx), hnone after fun x hx => .inr (hafter x hx)]

/-- **A successful mode change is a verified mode change**, from every state of the service and
whatever its provider replies. -/
theorem modeChange_verified (request : ControlRequest)
    (h : ((service.dispatch request).exec env.handler s).result = .ok response)
    (hsuccess : response.success = true) :
    let exchanges := providerExchanges ((service.dispatch request).exec env.handler s).exchanges
    (∀ alias_, request.operation = .protectedRequest alias_ →
      ∃ target, service.resolvedTarget s.targets alias_ = some target ∧
        Nonempty (VerifiedProtected target exchanges response)) ∧
      (request.operation = .lockRequest →
        Nonempty (VerifiedDisconnected true .locked exchanges response)) ∧
      (request.operation = .directRequest →
        Nonempty (VerifiedDisconnected false .direct exchanges response)) := by
  refine ⟨fun alias_ hop => ?_, fun hop => ?_, fun hop => ?_⟩
  · obtain ⟨hinner, hx⟩ := dispatch_success env service (by rw [hop]; rfl) h hsuccess
    simp only [ControlService.inner, ControlService.dispatchUnlocked, hop] at hinner hx
    rw [hx]
    exact dispatchProtected_verified env service hinner hsuccess
  · obtain ⟨hinner, hx⟩ := dispatch_success env service (by rw [hop]; rfl) h hsuccess
    simp only [ControlService.inner, ControlService.dispatchUnlocked, hop] at hinner hx
    rw [hx]
    exact dispatchLock_verified env service hinner
  · obtain ⟨hinner, hx⟩ := dispatch_success env service (by rw [hop]; rfl) h hsuccess
    simp only [ControlService.inner, ControlService.dispatchUnlocked, hop] at hinner hx
    rw [hx]
    exact dispatchDirect_verified env service hinner

end Transitions

/-! ## Two providers -/

def idealProtected : ControlRequest := ⟨idealRequestId, .protectedRequest idealTarget.alias⟩

/-- A Protected request to the ideal provider, from Direct mode: a verified transition. -/
theorem modeChange_verified_ideal :
    Nonempty (VerifiedProtected idealTarget
      (providerExchanges ((idealService.dispatch idealProtected).exec idealEnvironment.handler
        (idealState ⟨.disconnected, false⟩)).exchanges)
      { requestId := idealRequestId, success := true,
        message := "Protected VPN mode enabled using target alias dallas.",
        vpnStatus := some { state := .connected, provider := idealName, gatewayMode := .vpn,
                            leakProtectionActive := some true, target := some "dallas" } }) := by
  obtain ⟨target, hresolved, hverified⟩ := (modeChange_verified idealEnvironment idealService
    (s := idealState ⟨.disconnected, false⟩) idealProtected rfl rfl).1 idealTarget.alias rfl
  cases hresolved
  exact hverified

/-- A provider whose connect switches the protection off. -/
def droppingProvider : Handler vpnProvider PyException IdealVpn
  | .connectStored target, v =>
    idealProvider (.connectStored target) { v with leakProtection := false }
  | c, v => idealProvider c v

/-- On it a Protected request returns success, in VPN mode, with a response that reports the
protection as off. -/
theorem protected_reports_protection_off :
    ∃ response status, ((idealService.dispatch idealProtected).exec
        { idealEnvironment with provider := droppingProvider : Environment _ _ _ }.handler
        (idealState ⟨.disconnected, true⟩)).result = .ok response ∧ response.success = true ∧
      response.vpnStatus = some status ∧ status.gatewayMode = .vpn ∧
      status.leakProtectionActive = some false :=
  ⟨_, _, rfl, rfl, rfl, rfl, rfl⟩

end Snarkypuss
