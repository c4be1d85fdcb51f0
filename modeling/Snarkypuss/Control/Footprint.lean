import Snarkypuss.Control.Daemon
import Snarkypuss.Calls.Logic

/-!
# What a request may call

Each request class makes calls of a few kinds only, whatever the replies are. The properties of
runs are derived from this one bound on every request.

## Main definitions

* `Operation.mayCall`: the calls of `_dispatch_unlocked` on each request class

## Main results

* `ControlService.uses_dispatchUnlocked`: no request calls anything else
* `ControlService.uses_dispatch`: nor does its dispatch, the operation lock apart
* `ControlService.exec_dispatch`: a request dispatched while the lock is free runs to its end,
  inside the lock when it is a mutation
* `Environment.Run.unlocked`: the lock is free between requests
-/

namespace Snarkypuss

open Daemon

/-- The calls that `_dispatch_unlocked` may make on each request class. -/
def Operation.mayCall : Operation → DaemonCall → Bool
  | .targetSchemaRequest _, .provider .targetSchema => true
  | .targetOptionsRequest .., .provider .targetSchema => true
  | .targetOptionsRequest .., .provider (.targetOptions ..) => true
  | .targetCatalogGetRequest _, .getCatalogue => true
  | .targetCatalogReplaceRequest .., .provider (.validateSelector _) => true
  | .targetCatalogReplaceRequest .., .repository (.replaceCatalogue ..) => true
  | .targetCatalogReplaceRequest .., .setCatalogue _ => true
  | .targetCatalogReplaceRequest .., .setTargets _ => true
  | .targetsRequest, .getTargets => true
  | .statusRequest, .provider .status => true
  | .statusRequest, .provider .settings => true
  | .statusRequest, .collector _ => true
  | .statusRequest, .getTargetAlias => true
  | .statusRequest, .setTargetAlias none => true
  | .protectedRequest _, .getTargets => true
  | .protectedRequest _, .provider (.setLeakProtection true) => true
  | .protectedRequest _, .provider (.connectStored _) => true
  | .protectedRequest _, .setTargetAlias (some _) => true
  | .protectedRequest _, .provider .settings => true
  | .connectRequest _, .getTargets => true
  | .connectRequest _, .provider (.connectStored _) => true
  | .connectRequest _, .setTargetAlias (some _) => true
  | .connectRequest _, .provider .settings => true
  | .disconnectRequest, .provider .settings => true
  | .disconnectRequest, .provider .disconnect => true
  | .disconnectRequest, .setTargetAlias none => true
  | .lockRequest, .provider (.setLeakProtection true) => true
  | .lockRequest, .provider .disconnect => true
  | .lockRequest, .setTargetAlias none => true
  | .lockRequest, .provider .settings => true
  | .directRequest, .provider (.setLeakProtection _) => true
  | .directRequest, .provider .disconnect => true
  | .directRequest, .setTargetAlias none => true
  | .directRequest, .provider .settings => true
  | _, _ => false

namespace ControlService

variable (service : ControlService) {allowed : DaemonCall → Prop}

/-! ## The parts that several requests share -/

theorem uses_resolveTarget (alias_ : String) (h : allowed .getTargets) :
    (service.resolveTarget alias_).Uses allowed := by
  unfold resolveTarget
  split
  · trivial
  · exact Program.uses_call_bind h fun _ => trivial

theorem uses_requireProtectionConfiguration :
    service.requireProtectionConfiguration.Uses allowed := by
  unfold requireProtectionConfiguration
  split <;> trivial

theorem uses_observe {A : Type} {component : Identifier}
    {caught : PyException → Option (String × String)} {p : Daemon A} (h : p.Uses allowed) :
    (observe component caught p).Uses allowed := by
  refine (h.attempt caught).bind fun r => ?_
  cases r with
  | ok a => trivial
  | error x =>
    refine Program.Uses.bind (p := ofExcept _) ?_ fun _ => trivial
    trivial

theorem uses_attributeTarget (status : VpnStatus) (hget : allowed .getTargetAlias)
    (hset : allowed (.setTargetAlias none)) : (attributeTarget status).Uses allowed := by
  refine Program.uses_call_bind hget fun remembered => ?_
  split
  · exact Program.uses_call_bind hget fun _ => trivial
  · split
    · exact Program.uses_call_bind hset fun _ => trivial
    · trivial

theorem uses_connectTarget (target : StoredTarget) (hc : allowed (.provider (.connectStored target)))
    (ha : allowed (.setTargetAlias (some target.alias))) :
    (connectTarget target).Uses allowed :=
  Program.uses_call_bind hc fun _ => Program.uses_call_bind ha fun _ => trivial

theorem uses_enableProtection (h : allowed (.provider (.setLeakProtection true))) :
    enableProtection.Uses allowed := by
  refine Program.uses_call_bind h fun settings => ?_
  split <;> trivial

theorem uses_disconnectTarget (hd : allowed (.provider .disconnect))
    (ha : allowed (.setTargetAlias none)) : disconnectTarget.Uses allowed :=
  Program.uses_call_bind hd fun _ => Program.uses_call_bind ha fun _ => trivial

theorem uses_requireGatewayMode (mode : GatewayMode) (message : String) (status : VpnStatus)
    (h : allowed (.provider .settings)) :
    (requireGatewayMode mode message status).Uses allowed := by
  refine Program.uses_call_bind h fun settings => ?_
  dsimp only
  split <;> trivial

theorem uses_normalizeTargets (targets : List StoredTarget)
    (h : ∀ selector, allowed (.provider (.validateSelector selector))) : (normalizeTargets targets).Uses allowed := by
  induction targets with
  | nil => trivial
  | cons target targets ih =>
    refine Program.uses_call_bind (h _) fun _ => ?_
    refine Program.Uses.bind (p := ofExcept _) trivial fun _ => ?_
    exact ih.bind fun _ => trivial

/-! ## The requests -/

theorem uses_dispatchStatus (requestId : UUID) :
    (service.dispatchStatus requestId).Uses (Operation.statusRequest.mayCall ·) := by
  have hvpn : observeVpn.Uses (Operation.statusRequest.mayCall ·) := by
    refine Program.Uses.bind (uses_observe ((Program.uses_call _).mpr rfl)) fun r => ?_
    obtain ⟨status, failures⟩ := r
    cases status with
    | none => trivial
    | some status =>
      refine Program.Uses.bind (uses_attributeTarget status rfl rfl) fun _ => ?_
      exact Program.Uses.bind (uses_observe ((Program.uses_call _).mpr rfl)) fun _ => trivial
  have hip : ∀ status, (service.observePublicIp status).Uses (Operation.statusRequest.mayCall ·) := by
    intro status
    unfold observePublicIp
    split
    · exact uses_observe ((Program.uses_call _).mpr rfl)
    · exact uses_observe ((Program.uses_call _).mpr rfl)
    · trivial
  refine hvpn.bind fun _ => (hip _).bind fun _ => ?_
  refine Program.uses_call_bind rfl fun _ => ?_
  exact Program.uses_call_bind rfl fun _ => trivial

theorem uses_dispatchProtected (requestId : UUID) (alias_ : Identifier) :
    (service.dispatchProtected requestId alias_).Uses
      ((Operation.protectedRequest alias_).mayCall ·) := by
  refine Program.Uses.bind (service.uses_resolveTarget _ rfl) fun target => ?_
  cases target with
  | none => trivial
  | some target =>
    refine Program.Uses.bind service.uses_requireProtectionConfiguration fun _ => ?_
    refine Program.Uses.bind (uses_enableProtection rfl) fun _ => ?_
    refine Program.Uses.bind (uses_connectTarget target rfl rfl) fun _ => ?_
    exact Program.Uses.bind (uses_requireGatewayMode _ _ _ rfl) fun _ => trivial

theorem uses_dispatchConnect (requestId : UUID) (alias_ : Identifier) :
    (service.dispatchConnect requestId alias_).Uses
      ((Operation.connectRequest alias_).mayCall ·) := by
  refine Program.Uses.bind (service.uses_resolveTarget _ rfl) fun target => ?_
  cases target with
  | none => trivial
  | some target =>
    refine Program.Uses.bind (uses_connectTarget target rfl rfl) fun _ => ?_
    exact Program.Uses.bind (Program.Uses.attempt _ (Program.uses_call _ |>.mpr rfl)) fun _ => trivial

theorem uses_dispatchDisconnect (requestId : UUID) :
    (dispatchDisconnect requestId).Uses (Operation.disconnectRequest.mayCall ·) := by
  refine Program.uses_call_bind rfl fun settings => ?_
  split
  · trivial
  · exact Program.Uses.bind (uses_disconnectTarget rfl rfl) fun _ => trivial

theorem uses_dispatchLock (requestId : UUID) :
    (service.dispatchLock requestId).Uses (Operation.lockRequest.mayCall ·) := by
  refine Program.Uses.bind service.uses_requireProtectionConfiguration fun _ => ?_
  refine Program.Uses.bind (uses_enableProtection rfl) fun _ => ?_
  refine Program.Uses.bind (uses_disconnectTarget rfl rfl) fun _ => ?_
  exact Program.Uses.bind (uses_requireGatewayMode _ _ _ rfl) fun _ => trivial

theorem uses_directTransition : directTransition.Uses (Operation.directRequest.mayCall ·) := by
  refine Program.uses_call_bind rfl fun settings => ?_
  split
  · trivial
  · exact Program.Uses.bind (uses_disconnectTarget rfl rfl) fun _ => uses_requireGatewayMode _ _ _ rfl

theorem uses_dispatchDirect (requestId : UUID) :
    (service.dispatchDirect requestId).Uses (Operation.directRequest.mayCall ·) := by
  refine Program.Uses.bind service.uses_requireProtectionConfiguration fun _ => ?_
  refine (uses_directTransition.attempt _).bind fun r => ?_
  cases r with
  | ok status => trivial
  | error x =>
    refine Program.Uses.bind (p := restoreLeakProtection) ?_ fun _ => trivial
    exact Program.Uses.bind (Program.Uses.attempt _ (Program.uses_call _ |>.mpr rfl)) fun _ => trivial

theorem uses_dispatchTargetOptions (requestId : UUID) (requested kind : Identifier)
    (field : FieldName) (context : {context : JsonObject // context.entries.length ≤ 16}) :
    (service.dispatchTargetOptions requestId requested kind field context).Uses
      ((Operation.targetOptionsRequest requested kind field context).mayCall ·) := by
  unfold dispatchTargetOptions
  split
  · trivial
  split
  · trivial
  refine Program.uses_call_bind rfl fun schema => ?_
  split
  · trivial
  · refine Program.uses_call_bind rfl fun options => ?_
    split <;> trivial

theorem uses_dispatchTargetCatalogReplace (requestId : UUID) (requested : Identifier)
    (expectedRevision : Nat) (targets : {targets : List StoredTarget // targets.length ≤ 100}) :
    (service.dispatchTargetCatalogReplace requestId requested expectedRevision targets).Uses
      ((Operation.targetCatalogReplaceRequest requested expectedRevision targets).mayCall ·) := by
  have hcommit : (commitCatalogue requested expectedRevision targets).Uses
      ((Operation.targetCatalogReplaceRequest requested expectedRevision targets).mayCall ·) :=
    (uses_normalizeTargets _ fun _ => rfl).bind fun _ => (Program.uses_call _).mpr rfl
  unfold dispatchTargetCatalogReplace
  iterate 4
    split
    · trivial
  refine (hcommit.attempt _).bind fun r => ?_
  cases r with
  | error x => trivial
  | ok catalogue =>
    refine Program.uses_call_bind rfl fun _ => ?_
    exact Program.uses_call_bind rfl fun _ => trivial

/-- **No request calls anything else** than its class may call. -/
theorem uses_dispatchUnlocked (request : ControlRequest) :
    (service.dispatchUnlocked request).Uses (request.operation.mayCall ·) := by
  obtain ⟨requestId, operation⟩ := request
  cases operation with
  | statusRequest => exact service.uses_dispatchStatus requestId
  | targetsRequest => exact Program.uses_call_bind rfl fun _ => trivial
  | lockRequest => exact service.uses_dispatchLock requestId
  | protectedRequest target => exact service.uses_dispatchProtected requestId target
  | connectRequest target => exact service.uses_dispatchConnect requestId target
  | disconnectRequest => exact uses_dispatchDisconnect requestId
  | directRequest => exact service.uses_dispatchDirect requestId
  | targetSchemaRequest requested =>
    simp only [dispatchUnlocked, dispatchTargetSchema]
    split
    · trivial
    split
    · trivial
    exact Program.uses_call_bind rfl fun _ => trivial
  | targetOptionsRequest requested kind field context =>
    exact service.uses_dispatchTargetOptions requestId requested kind field context
  | targetCatalogGetRequest requested =>
    simp only [dispatchUnlocked, dispatchTargetCatalogGet]
    split
    · trivial
    exact Program.uses_call_bind rfl fun _ => trivial
  | targetCatalogReplaceRequest requested expectedRevision targets =>
    exact service.uses_dispatchTargetCatalogReplace requestId requested expectedRevision targets

/-- A dispatch calls what its request may call, and the operation lock. -/
theorem uses_dispatch (request : ControlRequest) :
    (service.dispatch request).Uses fun c : DaemonCall =>
      request.operation.mayCall c ∨ c = .acquireLock ∨ c = .releaseLock := by
  have hunlocked : (service.dispatchUnlocked request).Uses fun c : DaemonCall =>
      request.operation.mayCall c ∨ c = .acquireLock ∨ c = .releaseLock :=
    (service.uses_dispatchUnlocked request).mono fun _ h => .inl h
  unfold dispatch
  split
  · exact hunlocked
  · refine Program.uses_call_bind (.inr (.inl rfl)) fun acquired => ?_
    split
    · trivial
    · exact hunlocked.finally_ ((Program.uses_call _).mpr (.inr (.inr rfl)))

/-! ## The operation lock -/

section Lock

variable {σ ρ τ : Type} (env : Environment σ ρ τ)

/-- A call of an operation leaves the lock as it is. -/
theorem handler_operationLocked {operation : Operation} {c : DaemonCall}
    (hc : operation.mayCall c) (s : ServiceState σ ρ τ) :
    (env.handler c s).2.operationLocked = s.operationLocked := by
  cases c with
  | acquireLock => cases operation <;> cases hc
  | releaseLock => cases operation <;> cases hc
  | _ => rfl

theorem dispatchUnlocked_operationLocked (request : ControlRequest) (s : ServiceState σ ρ τ) :
    ((service.dispatchUnlocked request).exec env.handler s).state.operationLocked =
      s.operationLocked :=
  (service.uses_dispatchUnlocked request).exec_unchanged
    (v := ServiceState.operationLocked) (fun _ s hc => handler_operationLocked env hc s) s

/-- How `_dispatch_unlocked` ends when the request is dispatched from `s` with the lock free. -/
def inner (request : ControlRequest) (s : ServiceState σ ρ τ) :
    Outcome daemon PyException (ServiceState σ ρ τ) ControlResponse :=
  (service.dispatchUnlocked request).exec env.handler
    { s with operationLocked := request.operation.mutates }

/-- A request dispatched while the lock is free: `_dispatch_unlocked`, between an acquisition and
a release of the lock when it is a mutation. -/
theorem exec_dispatch (request : ControlRequest) {s : ServiceState σ ρ τ}
    (hfree : s.operationLocked = false) :
    ∃ before after, (service.dispatch request).exec env.handler s =
        ⟨before ++ (service.inner env request s).exchanges ++ after,
          (service.inner env request s).result,
          { (service.inner env request s).state with operationLocked := false }⟩ ∧
      (∀ x ∈ before, x.call = .acquireLock) ∧ (∀ x ∈ after, x.call = .releaseLock) := by
  have hunlocked : ∀ t : ServiceState σ ρ τ, t.operationLocked = false →
      { t with operationLocked := false } = t := by
    rintro ⟨⟩ rfl
    rfl
  cases hm : request.operation.mutates with
  | false =>
    have hinner : service.inner env request s =
        (service.dispatch request).exec env.handler s := by
      simp only [inner, dispatch, hm, hunlocked s hfree, Bool.not_false, if_true]
    have hlock : ((service.dispatch request).exec env.handler s).state.operationLocked = false := by
      simp only [dispatch, hm, Bool.not_false, if_true]
      rw [dispatchUnlocked_operationLocked, hfree]
    refine ⟨[], [], ?_, by simp, by simp⟩
    rw [hinner, hunlocked _ hlock, List.nil_append, List.append_nil]
  | true =>
    have hrelease : ((call .releaseLock : Daemon Unit).exec env.handler
        (service.inner env request s).state).result = .ok () := rfl
    have hacquire : (service.dispatch request).exec env.handler s =
        ⟨⟨.acquireLock, .ok true, { s with operationLocked := true }⟩ ::
            (((service.dispatchUnlocked request).finally_ (call .releaseLock)).exec env.handler
              { s with operationLocked := true }).exchanges,
          (((service.dispatchUnlocked request).finally_ (call .releaseLock)).exec env.handler
            { s with operationLocked := true }).result,
          (((service.dispatchUnlocked request).finally_ (call .releaseLock)).exec env.handler
            { s with operationLocked := true }).state⟩ := by
      simp [dispatch, hm, Program.call, Environment.handler, hfree]
    refine ⟨[⟨.acquireLock, .ok true, { s with operationLocked := true }⟩],
      [⟨.releaseLock, .ok (),
        { (service.inner env request s).state with operationLocked := false }⟩], ?_, by simp, by simp⟩
    rw [inner, hm] at hrelease ⊢
    rw [hacquire, Program.exec_finally_ env.handler _ _ _ hrelease]
    rfl

/-- What `_dispatch_unlocked` keeps, its dispatch keeps, when the lock is of no concern to it. -/
theorem ensures_dispatch {request : ControlRequest} {K : ServiceState σ ρ τ → Prop}
    (hlock : ∀ s b, K s → K { s with operationLocked := b })
    (h : Program.Ensures env.handler K (service.dispatchUnlocked request) fun _ s => K s) :
    Program.Ensures env.handler K (service.dispatch request) fun _ s => K s := by
  unfold dispatch
  split
  · exact h
  · refine Program.ensures_bind (R := fun _ s => K s) (fun s hs => hlock s true hs)
      (fun acquired => ?_) fun _ _ hs => hs
    split
    · exact Program.ensures_done fun _ hs => hs
    · intro s hs
      have hrelease : ((call .releaseLock : Daemon Unit).exec env.handler
          ((service.dispatchUnlocked request).exec env.handler s).state).result = .ok () := rfl
      rw [Program.exec_finally_ env.handler _ _ _ hrelease]
      exact hlock _ false (h s hs)

/-- A mutation dispatched while the lock is held is refused. -/
theorem exec_dispatch_of_locked {request : ControlRequest} (hm : request.operation.mutates = true)
    {s : ServiceState σ ρ τ} (hheld : s.operationLocked = true) :
    (service.dispatch request).exec env.handler s =
      ⟨[⟨.acquireLock, .ok false, s⟩], .ok (operationInProgress request.requestId), s⟩ := by
  have hs : { s with operationLocked := true } = s := by
    obtain ⟨⟩ := s
    cases hheld
    rfl
  simp [dispatch, hm, Program.call, Environment.handler, hheld, hs]

end Lock

end ControlService

/-- The lock is free between the requests of a run. -/
theorem Environment.Run.unlocked {σ ρ τ : Type} {env : Environment σ ρ τ}
    {service : ControlService} {meets : ControlRequest → ServiceState σ ρ τ → Prop}
    {s₀ s history} (run : env.Run service meets s₀ history s)
    (h₀ : s₀.operationLocked = false) : s.operationLocked = false := by
  refine run.invariant (K := fun s => s.operationLocked = false) h₀ fun request s _ hs => ?_
  obtain ⟨before, after, h, -, -⟩ := service.exec_dispatch env request hs
  rw [h]

end Snarkypuss
