import Snarkypuss.Control.Ideal

/-!
# Leak protection over whole runs

The provider's leak protection is a bit of its state that only `set_leak_protection` moves. A run
of requests that starts with it on may end with it off. What accounts for that is a Direct
transition: one that succeeded, or one that failed and whose restoring call had no effect.

The restoring call stands in an `except ProviderError` clause. A provider call that raises any
other exception once the protection is off leaves it off unaccounted for, so the result is about
the runs in which no call of a Direct transition does.

## Main definitions

* `ProtectionLaw`: only `set_leak_protection` moves the protection
* `DirectCovered`: no call of a Direct transition raises past the `except ProviderError` clause
  while the protection is off
* `Accounts`, `Explained`: what accounts for the protection being off

## Main results

* `leakProtection_failClosed`: in every run of covered requests, protection that is off is
  accounted for, and a Direct transition that fails leaves it on if the provider restores it
-/

namespace Snarkypuss

open Daemon

variable {σ ρ τ : Type}

/-- Only `set_leak_protection` moves the protection: to what it was asked for, or not at all. -/
structure ProtectionLaw (provider : Handler vpnProvider PyException σ) (protection : σ → Bool) :
    Prop where
  frame : ∀ c p, (∀ b, c ≠ .setLeakProtection b) → protection (provider c p).2 = protection p
  set : ∀ b p, protection (provider (.setLeakProtection b) p).2 = protection p ∨
    protection (provider (.setLeakProtection b) p).2 = b

/-- A reply that raises past `except ProviderError` comes with the protection on. -/
def Covered {A : Type} (protection : σ → Bool) (r : Except PyException A × σ) : Prop :=
  ∀ e, r.1 = .error e → e.provider? = none → protection r.2 = true

/-- Each call that a Direct transition makes from the provider's state is covered. -/
def DirectCovered (provider : Handler vpnProvider PyException σ) (protection : σ → Bool)
    (p : σ) : Prop :=
  let off := provider (.setLeakProtection false) p
  let disconnected := provider .disconnect off.2
  let observed := provider .settings disconnected.2
  Covered protection off ∧
    ∀ settings, off.1 = .ok settings → settings.leakProtectionEnabled = some false →
      Covered protection disconnected ∧
        ∀ status, disconnected.1 = .ok status → Covered protection observed

/-- The condition on a run: every Direct request of an adapter that configures leak protection
is covered. -/
def DirectRequestCovered (env : Environment σ ρ τ) (service : ControlService)
    (protection : σ → Bool) (request : ControlRequest) (s : ServiceState σ ρ τ) : Prop :=
  request.operation = .directRequest → service.capabilities.leakProtectionConfiguration = true →
    DirectCovered env.provider protection s.provider

/-- A dispatched request. -/
abbrev Dispatched (σ ρ τ : Type) :=
  Served ControlRequest daemon PyException (ServiceState σ ρ τ) ControlResponse

/-- The exchanges of a dispatch in which `set_leak_protection(True)` was called. -/
def Dispatched.restores (x : Dispatched σ ρ τ) : List (Exchange daemon PyException (ServiceState σ ρ τ)) :=
  x.outcome.exchanges.filter fun e =>
    match e.call with
    | .provider (.setLeakProtection true) => true
    | _ => false

/-- A dispatched request that accounts for the protection being off: a Direct transition that
returned success, or one that raised and in which `set_leak_protection(True)` had no effect. -/
def Accounts (protection : σ → Bool) (x : Dispatched σ ρ τ) : Prop :=
  x.request.operation = .directRequest ∧
    ((∃ response, x.outcome.result = .ok response ∧ response.success = true) ∨
      ((∃ e, x.outcome.result = .error e) ∧
        ∃ restore ∈ x.restores, protection restore.after.provider = false))

/-- A request of the history accounts for the protection being off, and no
`set_leak_protection(True)` of a later request took effect. -/
def Explained (protection : σ → Bool) (history : List (Dispatched σ ρ τ)) : Prop :=
  ∃ before x after, history = before ++ x :: after ∧ Accounts protection x ∧
    ∀ y ∈ after, ∀ restore ∈ y.restores, protection restore.after.provider = false

theorem Explained.append {protection : σ → Bool} {history : List (Dispatched σ ρ τ)}
    {y : Dispatched σ ρ τ} (h : Explained protection history)
    (hy : ∀ restore ∈ y.restores, protection restore.after.provider = false) :
    Explained protection (history ++ [y]) := by
  obtain ⟨before, x, after, rfl, hx, hafter⟩ := h
  refine ⟨before, x, after ++ [y], by simp, hx, fun z hz => ?_⟩
  rcases List.mem_append.mp hz with hz | hz
  · exact hafter z hz
  · obtain rfl := List.mem_singleton.mp hz
    exact hy

theorem Explained.last {protection : σ → Bool} (history : List (Dispatched σ ρ τ))
    {x : Dispatched σ ρ τ} (hx : Accounts protection x) : Explained protection (history ++ [x]) :=
  ⟨history, x, [], rfl, hx, by simp⟩

theorem Dispatched.mem_restores {x : Dispatched σ ρ τ}
    {e : Exchange daemon PyException (ServiceState σ ρ τ)} :
    e ∈ x.restores ↔ e ∈ x.outcome.exchanges ∧ e.call = .provider (.setLeakProtection true) := by
  rw [restores, List.mem_filter]
  refine and_congr_right fun _ => ?_
  split
  · rename_i h
    simp [h]
  · rename_i h
    simpa using h

/-! ## One request -/

section Request

variable {env : Environment σ ρ τ} {protection : σ → Bool} (service : ControlService)

/-- A call other than `set_leak_protection(False)` keeps the protection on. -/
theorem ProtectionLaw.keeps_on (law : ProtectionLaw env.provider protection) {c : DaemonCall}
    (hc : c ≠ .provider (.setLeakProtection false)) {s : ServiceState σ ρ τ}
    (hs : protection s.provider = true) : protection (env.handler c s).2.provider = true := by
  cases c with
  | provider c =>
    by_cases hset : ∃ b, c = .setLeakProtection b
    · obtain ⟨b, rfl⟩ := hset
      cases b with
      | false => exact absurd rfl hc
      | true =>
        rcases law.set true s.provider with h | h
        · exact h.trans hs
        · exact h
    · exact (law.frame c s.provider (fun b hb => hset ⟨b, hb⟩)).trans hs
  | _ => exact hs

theorem mayCall_ne_set_false {operation : Operation} (hop : operation ≠ .directRequest)
    {c : DaemonCall} (hc : operation.mayCall c) : c ≠ .provider (.setLeakProtection false) := by
  rintro rfl
  cases operation <;> first | exact hop rfl | cases hc

/-- A request that is no Direct transition keeps the protection on. -/
theorem inner_on (law : ProtectionLaw env.provider protection) {request : ControlRequest}
    (hop : request.operation ≠ .directRequest) {s : ServiceState σ ρ τ}
    (hs : protection s.provider = true) :
    protection (service.inner env request s).state.provider = true :=
  ((service.uses_dispatchUnlocked request).exec_invariant (h := env.handler)
    (K := fun t : ServiceState σ ρ τ => protection t.provider = true)
    (fun _ _ hc ht => law.keeps_on (mayCall_ne_set_false hop hc) ht)
    (s := { s with operationLocked := request.operation.mutates }) hs).1

/-- When such a request ends with the protection off, it was off after every exchange. -/
theorem inner_exchange_off (law : ProtectionLaw env.provider protection) {request : ControlRequest}
    (hop : request.operation ≠ .directRequest) {s : ServiceState σ ρ τ}
    (hoff : protection (service.inner env request s).state.provider = false)
    {e : Exchange daemon PyException (ServiceState σ ρ τ)}
    (he : e ∈ (service.inner env request s).exchanges) : protection e.after.provider = false := by
  by_contra hon
  have := (service.uses_dispatchUnlocked request).exec_persists (h := env.handler)
    (K := fun t : ServiceState σ ρ τ => protection t.provider = true)
    (fun _ _ hc ht => law.keeps_on (mayCall_ne_set_false hop hc) ht) he (by simpa using hon)
  exact absurd (this.symm.trans hoff) (by decide)

end Request

/-! ## A Direct transition -/

section Direct

variable {env : Environment σ ρ τ} {protection : σ → Bool} (service : ControlService)

/-- When the calls are covered, what escapes the `except` clause leaves the protection on. -/
theorem directTransition_uncaught {s : ServiceState σ ρ τ} (hcov : DirectCovered env.provider protection s.provider)
    {e : PyException} (he : (ControlService.directTransition.exec env.handler s).result = .error e)
    (hunmapped : e.provider? = none) :
    protection (ControlService.directTransition.exec env.handler s).state.provider = true := by
  obtain ⟨hoff, hrest⟩ := hcov
  simp only [ControlService.directTransition, ControlService.disconnectTarget,
    ControlService.requireGatewayMode, Program.bind_eq, Program.call, Program.ask_bind,
    Program.exec_ask, Environment.handler] at he ⊢
  -- The transition stops at the first of its three calls that raises.
  cases h₁ : (env.provider (.setLeakProtection false) s.provider).1 with
  | error e₁ =>
    simp only [h₁, Program.done_error_bind, Program.exec_done] at he ⊢
    cases he
    exact hoff _ h₁ hunmapped
  | ok settings =>
    simp only [h₁, Program.done_ok_bind] at he ⊢
    by_cases hconfirmed : settings.leakProtectionEnabled = some false
    · obtain ⟨hdisconnected, hobserved⟩ := hrest settings h₁ hconfirmed
      simp only [hconfirmed, ne_eq, not_true_eq_false, if_false, Program.exec_ask,
        Environment.handler] at he ⊢
      cases h₂ : (env.provider .disconnect
          (env.provider (.setLeakProtection false) s.provider).2).1 with
      | error e₂ =>
        simp only [h₂, Program.done_error_bind, Program.exec_done] at he ⊢
        cases he
        exact hdisconnected _ h₂ hunmapped
      | ok status =>
        simp only [h₂, Program.done_ok_bind, Program.ask_bind, Program.exec_ask,
          Environment.handler, Program.pure_eq] at he ⊢
        cases h₃ : (env.provider .settings (env.provider .disconnect
            (env.provider (.setLeakProtection false) s.provider).2).2).1 with
        | error e₃ =>
          simp only [h₃, Program.done_error_bind, Program.exec_done] at he ⊢
          cases he
          exact hobserved status h₂ _ h₃ hunmapped
        | ok observed =>
          simp only [h₃, Program.done_ok_bind] at he ⊢
          split at he
          · cases he
            cases hunmapped
          · cases he
    · simp only [ne_eq, hconfirmed, not_false_eq_true, if_true, Program.exec_raise] at he ⊢
      cases he
      cases hunmapped

/-- The restoring call is made, whatever it replies, and an exception is raised. -/
theorem exec_restore_raise (env : Environment σ ρ τ) (code message : String) (s : ServiceState σ ρ τ) :
    ∃ e, (ControlService.restoreLeakProtection.bind fun _ =>
        (providerError code message : Daemon ControlResponse)).exec env.handler s =
      ⟨[⟨.provider (.setLeakProtection true),
          (env.handler (.provider (.setLeakProtection true)) s).1,
          (env.handler (.provider (.setLeakProtection true)) s).2⟩],
        .error e, (env.handler (.provider (.setLeakProtection true)) s).2⟩ := by
  simp only [ControlService.restoreLeakProtection, Program.bind_eq, Program.bind_assoc,
    Program.call, Program.attempt, Program.ask_bind, Program.exec_ask]
  cases h : (env.handler (.provider (.setLeakProtection true)) s).1 with
  | ok settings => exact ⟨_, rfl⟩
  | error e =>
    cases hcaught : e.provider? with
    | none =>
      refine ⟨e, ?_⟩
      simp [Program.attempt, hcaught]
    | some x =>
      refine ⟨.provider code message, ?_⟩
      simp [Program.attempt, hcaught]

/-- The state in which a Direct request dispatched from `s` leaves its `try` block. -/
def afterTry (env : Environment σ ρ τ) (s : ServiceState σ ρ τ) : ServiceState σ ρ τ :=
  (ControlService.directTransition.exec env.handler { s with operationLocked := true }).state

/-- How a Direct request of an adapter that configures leak protection ends: with what its `try`
block returned, with what it raised, or after the restoring call. -/
theorem inner_direct (hcap : service.capabilities.leakProtectionConfiguration = true)
    {request : ControlRequest} (hop : request.operation = .directRequest)
    (s : ServiceState σ ρ τ) :
    (∃ response, (service.inner env request s).result = .ok response ∧ response.success = true) ∨
      (∃ e, (ControlService.directTransition.exec env.handler
            { s with operationLocked := true }).result = .error e ∧ e.provider? = none ∧
          (service.inner env request s).result = .error e ∧
          (service.inner env request s).state = afterTry env s) ∨
      ((∃ e, (service.inner env request s).result = .error e) ∧
        (service.inner env request s).state =
          (env.handler (.provider (.setLeakProtection true)) (afterTry env s)).2 ∧
        ∃ restore ∈ (service.inner env request s).exchanges,
          restore.call = .provider (.setLeakProtection true) ∧
          restore.after = (env.handler (.provider (.setLeakProtection true)) (afterTry env s)).2) := by
  -- What follows the transition answers a success, and restores the protection after a failure.
  obtain ⟨rest, hinner, hok, herror⟩ : ∃ rest : Except (String × String) VpnStatus →
      Daemon ControlResponse,
      service.inner env request s =
        ((ControlService.directTransition.attempt PyException.provider?).bind rest).exec env.handler
          { s with operationLocked := true } ∧
      (∀ status, rest (.ok status) = Program.done (.ok {
        requestId := request.requestId, success := true,
        message := "Direct VPS mode enabled; the VPS public IP is exposed.",
        vpnStatus := some status })) ∧
      ∀ x, rest (.error x) =
        ControlService.restoreLeakProtection.bind fun _ => providerError x.1 x.2 := by
    simp only [ControlService.inner, ControlService.dispatchUnlocked, hop,
      ControlService.dispatchDirect, ControlService.requireProtectionConfiguration, hcap, if_true]
    exact ⟨_, rfl, fun _ => rfl, fun _ => rfl⟩
  rw [hinner]
  cases hr : (ControlService.directTransition.exec env.handler
      { s with operationLocked := true }).result with
  | ok status =>
    left
    rw [Program.exec_bind_of_ok env.handler (a := .ok status)
      (by rw [Program.exec_attempt, hr, Program.reify_ok]), hok]
    exact ⟨_, rfl, rfl⟩
  | error e =>
    right
    cases hcaught : e.provider? with
    | none =>
      left
      rw [Program.exec_bind_of_error env.handler (e := e)
        (by rw [Program.exec_attempt, hr]; simp [Program.reify, hcaught])]
      refine ⟨e, rfl, hcaught, rfl, ?_⟩
      rw [Program.exec_attempt]
      rfl
    | some x =>
      right
      rw [Program.exec_bind_of_ok env.handler (a := .error x)
        (by rw [Program.exec_attempt, hr]; simp [Program.reify, hcaught]), herror]
      obtain ⟨e', he'⟩ := exec_restore_raise env x.1 x.2 (afterTry env s)
      simp only [Program.exec_attempt]
      rw [show (ControlService.directTransition.exec env.handler
        { s with operationLocked := true }).state = afterTry env s from rfl, he']
      exact ⟨⟨e', rfl⟩, rfl, _, List.mem_append_right _ List.mem_cons_self, rfl, rfl⟩

/-- A Direct request to an adapter that cannot configure leak protection makes no call. -/
theorem inner_direct_unsupported
    (hcap : service.capabilities.leakProtectionConfiguration = false) {request : ControlRequest}
    (hop : request.operation = .directRequest) (s : ServiceState σ ρ τ) :
    service.inner env request s =
      ⟨[], .error service.cannotConfigureProtection, { s with operationLocked := true }⟩ := by
  simp only [ControlService.inner, ControlService.dispatchUnlocked, hop,
    ControlService.dispatchDirect, ControlService.requireProtectionConfiguration, hcap]
  rfl

end Direct

/-! ## Whole runs -/

section Runs

variable {env : Environment σ ρ τ} {service : ControlService} {protection : σ → Bool}
  {s s₀ : ServiceState σ ρ τ} {request : ControlRequest} {history : List (Dispatched σ ρ τ)}

/-- A restoring exchange of a dispatch is one of `_dispatch_unlocked`. -/
theorem mem_restores_run (hfree : s.operationLocked = false)
    {e : Exchange daemon PyException (ServiceState σ ρ τ)} :
    e ∈ Dispatched.restores (Served.run env.handler service.dispatch request s) ↔
      e ∈ (service.inner env request s).exchanges ∧
        e.call = .provider (.setLeakProtection true) := by
  obtain ⟨before, after, hexec, hbefore, hafter⟩ := service.exec_dispatch env request hfree
  rw [Dispatched.mem_restores]
  refine and_congr_left fun hcall => ?_
  rw [Served.run, hexec]
  constructor
  · intro he
    rcases List.mem_append.mp he with he | he
    · rcases List.mem_append.mp he with he | he
      · exact absurd (hcall.symm.trans (hbefore e he)) nofun
      · exact he
    · exact absurd (hcall.symm.trans (hafter e he)) nofun
  · intro he
    exact List.mem_append_left _ (List.mem_append_right _ he)

theorem run_result (hfree : s.operationLocked = false) :
    (Served.run env.handler service.dispatch request s).outcome.result =
      (service.inner env request s).result := by
  obtain ⟨before, after, hexec, -, -⟩ := service.exec_dispatch env request hfree
  rw [Served.run, hexec]

theorem dispatch_provider (hfree : s.operationLocked = false) :
    ((service.dispatch request).exec env.handler s).state.provider =
      (service.inner env request s).state.provider := by
  obtain ⟨before, after, hexec, -, -⟩ := service.exec_dispatch env request hfree
  rw [hexec]

/-- A covered Direct request that ends with the protection off accounts for it. -/
theorem accounts_of_direct (hcap : service.capabilities.leakProtectionConfiguration = true)
    (hop : request.operation = .directRequest) (hfree : s.operationLocked = false)
    (hcov : DirectCovered env.provider protection s.provider)
    (hoff : protection (service.inner env request s).state.provider = false) :
    Accounts protection (Served.run env.handler service.dispatch request s) := by
  refine ⟨hop, ?_⟩
  rw [run_result hfree]
  rcases inner_direct service hcap hop s with hok | ⟨e, he, hunmapped, -, hstate⟩ |
    ⟨herror, hstate, restore, hmem, hcall, hafter⟩
  · exact .inl hok
  · -- An exception past the clause: covered calls leave the protection on.
    have hon := directTransition_uncaught (s := { s with operationLocked := true }) hcov he hunmapped
    rw [hstate] at hoff
    exact absurd (hoff.symm.trans hon) (by decide)
  · refine .inr ⟨herror, restore, (mem_restores_run hfree).mpr ⟨hmem, hcall⟩, ?_⟩
    rw [hafter, ← hstate]
    exact hoff

/-- The step of a run: protection that is off stays accounted for. -/
theorem explained_step (law : ProtectionLaw env.provider protection)
    (hcov : DirectRequestCovered env service protection request s)
    (hfree : s.operationLocked = false)
    (ih : protection s.provider = false → Explained protection history)
    (hoff : protection ((service.dispatch request).exec env.handler s).state.provider = false) :
    Explained protection (history ++ [Served.run env.handler service.dispatch request s]) := by
  rw [dispatch_provider hfree] at hoff
  by_cases hop : request.operation = .directRequest
  · cases hcap : service.capabilities.leakProtectionConfiguration with
    | true => exact .last _ (accounts_of_direct hcap hop hfree (hcov hop hcap) hoff)
    | false =>
      rw [inner_direct_unsupported service hcap hop] at hoff
      refine (ih hoff).append fun restore hrestore => ?_
      rw [mem_restores_run hfree, inner_direct_unsupported service hcap hop] at hrestore
      cases hrestore.1
  · -- Any other request keeps protection on, so it was off before and after each exchange.
    have hbefore : protection s.provider = false := by
      by_contra hon
      have := inner_on service law hop (by simpa using hon)
      exact absurd (this.symm.trans hoff) (by decide)
    refine (ih hbefore).append fun restore hrestore => ?_
    exact inner_exchange_off service law hop hoff ((mem_restores_run hfree).mp hrestore).1

/-- The restoring call of a failed Direct request, when the provider accepts it, is made. -/
theorem direct_error_restored (hop : request.operation = .directRequest)
    (hcap : service.capabilities.leakProtectionConfiguration = true)
    (hfree : s.operationLocked = false) (hcov : DirectCovered env.provider protection s.provider)
    {e : PyException} (he : ((service.dispatch request).exec env.handler s).result = .error e)
    (haccepts : protection
      (env.provider (.setLeakProtection true) (afterTry env s).provider).2 = true) :
    protection ((service.dispatch request).exec env.handler s).state.provider = true := by
  have hresult : (service.inner env request s).result = .error e := (run_result hfree).symm.trans he
  rw [dispatch_provider hfree]
  rcases inner_direct service hcap hop s with ⟨response, hok, -⟩ | ⟨e', he', hunmapped, -, hstate⟩ |
    ⟨-, hstate, -⟩
  · rw [hresult] at hok
    cases hok
  · rw [hstate]
    exact directTransition_uncaught (s := { s with operationLocked := true }) hcov he' hunmapped
  · rw [hstate]
    exact haccepts

/-- An adapter that cannot configure leak protection accounts for nothing. -/
theorem not_accounts_of_unsupported
    (hcap : service.capabilities.leakProtectionConfiguration = false)
    (hfree : s.operationLocked = false) :
    ¬ Accounts protection (Served.run env.handler service.dispatch request s) := by
  rintro ⟨hop, haccounts⟩
  replace hop : request.operation = .directRequest := hop
  rw [run_result hfree, inner_direct_unsupported service hcap hop] at haccounts
  rcases haccounts with ⟨response, h, -⟩ | ⟨-, restore, hmem, -⟩
  · cases h
  · rw [mem_restores_run hfree, inner_direct_unsupported service hcap hop] at hmem
    cases hmem.1

/-- **Fail-closed leak protection.** In every run of covered requests that starts with the
protection on: whenever it is off, a Direct request that returned success, or one that failed and
whose restoring call had no effect, accounts for it, and no later restoring call took effect. A
Direct request that raises leaves the protection on if the provider accepts the restoring call. -/
theorem leakProtection_failClosed (law : ProtectionLaw env.provider protection)
    (h₀ : protection s₀.provider = true) (hfree : s₀.operationLocked = false)
    (run : env.Run service (DirectRequestCovered env service protection) s₀ history s) :
    (protection s.provider = false → Explained protection history) ∧
      ∀ request, request.operation = .directRequest →
        DirectRequestCovered env service protection request s →
        (∃ e, ((service.dispatch request).exec env.handler s).result = .error e) →
        protection (env.provider (.setLeakProtection true) (afterTry env s).provider).2 = true →
        protection ((service.dispatch request).exec env.handler s).state.provider = true := by
  have hexplained : s.operationLocked = false ∧
      (protection s.provider = false → Explained protection history) := by
    refine run.invariant_history (K := fun history s => s.operationLocked = false ∧
      (protection s.provider = false → Explained protection history))
      ⟨hfree, fun hoff => absurd (h₀.symm.trans hoff) (by decide)⟩ ?_
    rintro request history s hcov ⟨hs, ih⟩
    refine ⟨?_, explained_step law hcov hs ih⟩
    obtain ⟨before, after, hexec, -, -⟩ := service.exec_dispatch env request hs
    rw [hexec]
  refine ⟨hexplained.2, fun request hop hcov ⟨e, he⟩ haccepts => ?_⟩
  cases hcap : service.capabilities.leakProtectionConfiguration with
  | true => exact direct_error_restored hop hcap hexplained.1 (hcov hop hcap) he haccepts
  | false =>
    -- The request made no call, and nothing in the history turned the protection off.
    rw [dispatch_provider hexplained.1, inner_direct_unsupported service hcap hop]
    by_contra hon
    obtain ⟨before, x, after, rfl, hx, -⟩ := hexplained.2 (by simpa using hon)
    obtain ⟨r, earlier, t, hrun, -, rfl⟩ := run.mem (List.mem_append_right _ List.mem_cons_self)
    exact not_accounts_of_unsupported hcap (Environment.Run.unlocked hrun hfree) hx

end Runs

/-! ## Two providers -/

theorem idealProvider_protectionLaw : ProtectionLaw idealProvider IdealVpn.leakProtection where
  frame c p hc := by
    cases c with
    | setLeakProtection b => exact absurd rfl (hc b)
    | _ => rfl
  set _ _ := .inr rfl

/-- The request that turns to Direct VPS mode. -/
def idealDirect : ControlRequest := ⟨idealRequestId, .directRequest⟩

/-- On the ideal provider a Direct request succeeds, and accounts for the protection being off. -/
theorem leakProtection_failClosed_ideal :
    ((idealService.dispatch idealDirect).exec idealEnvironment.handler
      (idealState ⟨.connected, true⟩)).state.provider.leakProtection = false ∧
    Explained IdealVpn.leakProtection [Served.run idealEnvironment.handler idealService.dispatch
      idealDirect (idealState ⟨.connected, true⟩)] := by
  have hcov : DirectRequestCovered idealEnvironment idealService IdealVpn.leakProtection idealDirect
      (idealState ⟨.connected, true⟩) := by
    refine fun _ _ => ⟨?_, fun _ _ _ => ⟨?_, fun _ _ => ?_⟩⟩ <;> exact fun _ he => nomatch he
  exact ⟨rfl, (leakProtection_failClosed idealProvider_protectionLaw rfl rfl
    (.serve .start idealDirect hcov)).1 rfl⟩

/-- A provider that turns its protection off and then fails to run the command that would confirm
it, with an `OSError` that is not mapped to a `ProviderError`. -/
def failingProvider : Handler vpnProvider PyException IdealVpn
  | .setLeakProtection false, v =>
    (.error (.os "Resource temporarily unavailable"), { v with leakProtection := false })
  | c, v => idealProvider c v

def failingEnvironment : Environment IdealVpn (Dict String TargetCatalogue) Unit :=
  { idealEnvironment with provider := failingProvider }

/-- On it a Direct request raises with the protection off, makes no restoring call, and nothing
accounts for the protection being off. -/
theorem leakProtection_unaccounted :
    ProtectionLaw failingEnvironment.provider IdealVpn.leakProtection ∧
      ∃ history s, failingEnvironment.Run idealService (fun _ _ => True)
        (idealState ⟨.connected, true⟩) history s ∧ s.provider.leakProtection = false ∧
        ¬ Explained IdealVpn.leakProtection history := by
  refine ⟨⟨fun c p hc => ?_, fun b p => ?_⟩, _, _, .serve .start idealDirect trivial, rfl, ?_⟩
  · cases c with
    | setLeakProtection b => exact absurd rfl (hc b)
    | _ => rfl
  · cases b <;> exact .inr rfl
  · rintro ⟨before, x, after, h, ⟨-, hx⟩, -⟩
    have hsingle : before = [] ∧ x = Served.run failingEnvironment.handler idealService.dispatch
        idealDirect (idealState ⟨.connected, true⟩) := by
      cases before with
      | nil => exact ⟨rfl, (List.cons.inj h).1.symm⟩
      | cons y before => simp at h
    obtain ⟨rfl, rfl⟩ := hsingle
    rcases hx with ⟨response, hok, -⟩ | ⟨-, restore, hmem, -⟩
    · cases hok
    · cases hmem

end Snarkypuss
