import Snarkypuss.Control.Ideal
import Snarkypuss.Providers.NordVpn

/-!
# The target of a status

The NordVPN adapter keeps, beside the state of its runner, the record of the commands it has run.
The service remembers a target when a connect returns; the record says which connect the provider
last accepted. The two part ways when a connect is accepted and the status command after it
fails: the adapter then raises, and the service keeps the target it remembered before.

## Main definitions

* `RanCommand`, `recordedNordVpn`: the adapter with the record of its commands
* `lastAccepted`: the call that ran the last accepted `nordvpn connect`
* `Settled`: the condition that keeps the remembered target in step
* `Attributed`: the remembered target is that of the last accepted connect

## Main results

* `attributed_dispatch`: every settled request keeps the remembered target in step
* `status_names_accepted_target`: a status names the target of the last accepted connect
-/

namespace Snarkypuss

open Daemon

variable {σ ρ τ : Type}

/-! ## The record of commands -/

/-- A command that the adapter ran: the call it ran it for, and how it ended. -/
structure RanCommand where
  call : ProviderCall
  arguments : List String
  reply : Except PyException CommandResult

/-- A `nordvpn connect` that exited with status 0. -/
def acceptedConnect (arguments : List String) (reply : Except PyException CommandResult) : Bool :=
  arguments.head? == some "connect" &&
    match reply with
    | .ok result => result.returncode == 0
    | .error _ => false

/-- The commands of an execution, recorded for the call that ran them. -/
def recordOf (c : ProviderCall) (exchanges : List (Exchange commandRunner PyException σ)) :
    List RanCommand :=
  exchanges.map fun x => ⟨c, x.call, x.reply⟩

/-- The NordVPN adapter over a runner, with the record of the commands it has run. -/
def recordedNordVpn (unicode : Python.UnicodeData) (runner : Handler commandRunner PyException σ) :
    Handler vpnProvider PyException (σ × List RanCommand)
  | c, (s, record) =>
    let o := (NordVpn.provider unicode c).exec runner s
    (o.result, o.state, record ++ recordOf c o.exchanges)

/-- The call that ran the last accepted `nordvpn connect`. -/
def lastAccepted (record : List RanCommand) : Option ProviderCall :=
  ((record.filter fun x => acceptedConnect x.arguments x.reply).getLast?).map RanCommand.call

theorem lastAccepted_append (record ran : List RanCommand) :
    lastAccepted (record ++ ran) = (lastAccepted ran).or (lastAccepted record) := by
  unfold lastAccepted
  rw [List.filter_append, List.getLast?_append]
  cases (ran.filter fun x => acceptedConnect x.arguments x.reply).getLast? <;> rfl

/-- Commands of which none connects leave the last accepted one. -/
theorem lastAccepted_recordOf_of_uses {c : ProviderCall} {A : Type} {p : NordVpn.Nord A}
    (hp : p.Uses NordVpn.NotConnect) (runner : Handler commandRunner PyException σ) (s : σ) :
    lastAccepted (recordOf c (p.exec runner s).exchanges) = none := by
  have hnone : (recordOf c (p.exec runner s).exchanges).filter
      (fun x => acceptedConnect x.arguments x.reply) = [] := by
    refine List.filter_eq_nil_iff.mpr fun x hx => ?_
    obtain ⟨y, hy, rfl⟩ := List.mem_map.mp hx
    have hnot := hp.exchanges runner s y hy
    simp [acceptedConnect, beq_eq_false_iff_ne.mpr hnot]
  rw [lastAccepted, hnone]
  rfl

section Adapter

variable (unicode : Python.UnicodeData) (runner : Handler commandRunner PyException σ)

/-- Only `connect_stored` can change the last accepted connect. -/
theorem lastAccepted_recorded {c : ProviderCall} (hc : ∀ target, c ≠ .connectStored target)
    (p : σ × List RanCommand) :
    lastAccepted (recordedNordVpn unicode runner c p).2.2 = lastAccepted p.2 := by
  obtain ⟨s, record⟩ := p
  show lastAccepted (record ++ recordOf c _) = _
  rw [lastAccepted_append, lastAccepted_recordOf_of_uses (NordVpn.uses_provider unicode hc) runner s]
  rfl

/-- The connect that a call of `connect_stored` runs is accepted. -/
def ConnectAccepted (unicode : Python.UnicodeData) (runner : Handler commandRunner PyException σ)
    (target : StoredTarget) (s : σ) : Prop :=
  ∃ x ∈ ((NordVpn.connectStored unicode target).exec runner s).exchanges,
    acceptedConnect x.call x.reply = true

/-- The commands of `connect_stored`: none, a connect that is not accepted, or an accepted connect
and then those of a status. -/
theorem connectStored_exchanges (target : StoredTarget) (s : σ) :
    let o := (NordVpn.connectStored unicode target).exec runner s
    (∃ e, o.result = .error e) ∧ (∀ x ∈ o.exchanges, acceptedConnect x.call x.reply = false) ∨
      ∃ x t, acceptedConnect x.call x.reply = true ∧
        o.exchanges = x :: ((NordVpn.status unicode).exec runner t).exchanges := by
  dsimp only
  cases hselector : NordVpn.validateSelector unicode target.selector with
  | error e =>
    refine .inl ⟨⟨e, ?_⟩, ?_⟩ <;> simp [NordVpn.connectStored, hselector]
  | ok selector =>
    have hexec : (NordVpn.connectStored unicode target).exec runner s =
        ((NordVpn.run unicode ("connect" :: NordVpn.connectArguments selector)).bind fun _ =>
          (NordVpn.status unicode).bind fun status => .done (.ok { status with
            target := some target.alias.val
            displayName := status.displayName <|> some target.label.val })).exec runner s := by
      simp [NordVpn.connectStored, hselector]
    rw [hexec, Program.exec_bind, NordVpn.exec_run]
    cases hreply : (runner ("connect" :: NordVpn.connectArguments selector) s).1 with
    | error e => exact .inl ⟨⟨e, by simp [Except.bind]⟩, by simp [Except.bind, acceptedConnect]⟩
    | ok result =>
      by_cases hzero : result.returncode = 0
      · refine .inr ⟨⟨"connect" :: NordVpn.connectArguments selector, .ok result,
          (runner ("connect" :: NordVpn.connectArguments selector) s).2⟩,
          (runner ("connect" :: NordVpn.connectArguments selector) s).2,
          by simp [acceptedConnect, hzero], ?_⟩
        simp [Except.bind, NordVpn.checkExit_ok unicode hzero, Program.exec_bind_done]
      · refine .inl ⟨⟨.provider "PROVIDER_COMMAND_FAILED" (NordVpn.commandFailure unicode result), ?_⟩,
          ?_⟩
        · simp [Except.bind, NordVpn.checkExit_error unicode hzero]
        · simp [Except.bind, NordVpn.checkExit_error unicode hzero, acceptedConnect, hzero]

/-- **What `connect_stored` does to the record**: either its connect is not accepted, and the call
raises and leaves the last accepted connect, or its connect is the last accepted one. -/
theorem connectStored_cases (target : StoredTarget) (s : σ) (record : List RanCommand) :
    let r := recordedNordVpn unicode runner (.connectStored target) (s, record)
    (¬ ConnectAccepted unicode runner target s ∧ lastAccepted r.2.2 = lastAccepted record ∧
        ∃ e, r.1 = .error e) ∨
      (ConnectAccepted unicode runner target s ∧
        lastAccepted r.2.2 = some (.connectStored target)) := by
  have hrecord : (recordedNordVpn unicode runner (.connectStored target) (s, record)).2.2 =
      record ++ recordOf (.connectStored target)
        ((NordVpn.connectStored unicode target).exec runner s).exchanges := rfl
  rcases connectStored_exchanges unicode runner target s with
    ⟨hraises, hrefused⟩ | ⟨x, t, haccepted, hexchanges⟩
  · refine .inl ⟨?_, ?_, hraises⟩
    · rintro ⟨x, hx, haccepted⟩
      rw [hrefused x hx] at haccepted
      cases haccepted
    · have hnone : lastAccepted (recordOf (.connectStored target)
          ((NordVpn.connectStored unicode target).exec runner s).exchanges) = none := by
        simp only [lastAccepted, recordOf, Option.map_eq_none_iff, List.getLast?_eq_none_iff,
          List.filter_eq_nil_iff]
        rintro y hy
        obtain ⟨x, hx, rfl⟩ := List.mem_map.mp hy
        simp [hrefused x hx]
      rw [hrecord, lastAccepted_append, hnone]
      rfl
  · refine .inr ⟨⟨x, by simp [hexchanges], haccepted⟩, ?_⟩
    have hstatus := lastAccepted_recordOf_of_uses (c := .connectStored target)
      (NordVpn.uses_status unicode) runner t
    have hconnect : lastAccepted [⟨.connectStored target, x.call, x.reply⟩] =
        some (.connectStored target) := by
      simp [lastAccepted, haccepted]
    have hrecorded : recordOf (.connectStored target) (x :: ((NordVpn.status unicode).exec runner t).exchanges) =
        [⟨.connectStored target, x.call, x.reply⟩] ++
          recordOf (.connectStored target) ((NordVpn.status unicode).exec runner t).exchanges := rfl
    rw [hrecord, hexchanges, lastAccepted_append, hrecorded, lastAccepted_append, hstatus, hconnect]
    rfl

end Adapter

/-! ## The remembered target -/

/-- The service over the NordVPN adapter, with a runner, a repository and collectors of any
behaviour. -/
def nordEnvironment (unicode : Python.UnicodeData) (runner : Handler commandRunner PyException σ)
    (repository : Handler targetRepository PyException ρ)
    (collectors : Handler statusCollectors PyException τ) : Environment (σ × List RanCommand) ρ τ where
  provider := recordedNordVpn unicode runner
  repository := repository
  collectors := collectors

section Service

variable {unicode : Python.UnicodeData} {runner : Handler commandRunner PyException σ}
  {repository : Handler targetRepository PyException ρ}
  {collectors : Handler statusCollectors PyException τ}
  {service : ControlService} {s : ServiceState (σ × List RanCommand) ρ τ}

/-- The remembered target, when there is one, is that of the last accepted connect. -/
def Attributed (s : ServiceState (σ × List RanCommand) ρ τ) : Prop :=
  ∀ a, s.currentTargetAlias = some a →
    ∃ target, lastAccepted s.provider.2 = some (.connectStored target) ∧ target.alias.val = a

/-- A connect to `target` from the state `p` of the adapter that is accepted without a status to
follow leaves a remembered target that is the right one. -/
def SettledConnect (unicode : Python.UnicodeData) (runner : Handler commandRunner PyException σ)
    (remembered : Option String) (target : StoredTarget) (p : σ) : Prop :=
  ConnectAccepted unicode runner target p →
    (∃ e, ((NordVpn.connectStored unicode target).exec runner p).result = .error e) →
      remembered = none ∨ remembered = some target.alias.val

/-- The condition on a run: when a Connect or Protected request reaches its connect, and that is
accepted and the status after it fails, the target remembered before the request is none, or the
one connected to. -/
def Settled (unicode : Python.UnicodeData) (runner : Handler commandRunner PyException σ)
    (service : ControlService) (request : ControlRequest)
    (s : ServiceState (σ × List RanCommand) ρ τ) : Prop :=
  match request.operation with
  | .connectRequest a => ∀ target, service.resolvedTarget s.targets a = some target →
      SettledConnect unicode runner s.currentTargetAlias target s.provider.1
  | .protectedRequest a => service.capabilities.leakProtectionConfiguration = true →
      ∀ target, service.resolvedTarget s.targets a = some target →
        let set := (NordVpn.setLeakProtection unicode true).exec runner s.provider.1
        (∃ settings, set.result = .ok settings ∧ settings.leakProtectionEnabled = some true) →
          SettledConnect unicode runner s.currentTargetAlias target set.state
  | _ => True

/-- The calls that keep the remembered target in step by themselves. -/
def KeepsTarget (c : DaemonCall) : Prop :=
  (∀ target, c ≠ .provider (.connectStored target)) ∧ ∀ a, c ≠ .setTargetAlias (some a)

variable (unicode runner repository collectors) in
theorem attributed_call {c : DaemonCall} (hc : KeepsTarget c) (hs : Attributed s) :
    Attributed ((nordEnvironment unicode runner repository collectors).handler c s).2 := by
  obtain ⟨hconnect, halias⟩ := hc
  cases c with
  | provider c =>
    intro a ha
    obtain ⟨target, hlast, htarget⟩ := hs a ha
    refine ⟨target, ?_, htarget⟩
    refine (lastAccepted_recorded unicode runner (fun t ht => hconnect t ?_) s.provider).trans hlast
    rw [ht]
  | setTargetAlias alias_ =>
    cases alias_ with
    | none => exact fun a ha => nomatch ha
    | some a => exact absurd rfl (halias a)
  | _ => exact hs

/-- Only a Connect or a Protected request makes other calls. -/
theorem keepsTarget_of_mayCall {operation : Operation}
    (hconnect : ∀ a, operation ≠ .connectRequest a)
    (hprotected : ∀ a, operation ≠ .protectedRequest a) {c : DaemonCall}
    (hc : operation.mayCall c) : KeepsTarget c := by
  refine ⟨?_, ?_⟩ <;> rintro _ rfl <;> cases operation <;>
    first | (cases hc; done) | exact absurd rfl (hconnect _) | exact absurd rfl (hprotected _)

/-- A settled connect keeps the remembered target in step. -/
theorem ensures_connectTarget (target : StoredTarget) :
    Program.Ensures (nordEnvironment unicode runner repository collectors).handler
      (fun s => Attributed s ∧
        SettledConnect unicode runner s.currentTargetAlias target s.provider.1)
      (ControlService.connectTarget target) fun _ s => Attributed s := by
  rintro s ⟨hs, hsettled⟩
  simp only [ControlService.connectTarget, Program.bind_eq, Program.call, Program.ask_bind,
    Program.exec_ask, Environment.handler, nordEnvironment]
  rcases connectStored_cases unicode runner target s.provider.1
    s.provider.2 with ⟨-, hlast, e, he⟩ | ⟨haccepted, hlast⟩
  · simp only [Prod.mk.eta] at hlast he
    rw [he]
    intro a ha
    obtain ⟨remembered, hremembered, halias⟩ := hs a ha
    exact ⟨remembered, hlast.trans hremembered, halias⟩
  · simp only [Prod.mk.eta] at hlast
    cases hr : (recordedNordVpn unicode runner (.connectStored target) s.provider).1 with
    | error e =>
      -- The connect was accepted and the status after it failed: the old target stays.
      intro a ha
      rcases hsettled haccepted ⟨e, hr⟩ with hnone | hsame
      · cases hnone.symm.trans ha
      · exact ⟨target, hlast, Option.some.inj (hsame.symm.trans ha)⟩
    | ok status =>
      intro a ha
      exact ⟨target, hlast, Option.some.inj ha⟩

theorem exec_resolveTarget (env : Environment σ ρ τ) (service : ControlService)
    (s : ServiceState σ ρ τ) (alias_ : String) :
    ((service.resolveTarget alias_).exec env.handler s).result =
        .ok (service.resolvedTarget s.targets alias_) ∧
      ((service.resolveTarget alias_).exec env.handler s).state = s := by
  unfold ControlService.resolveTarget ControlService.resolvedTarget
  split <;> exact ⟨rfl, rfl⟩

theorem ensures_dispatchConnect (requestId : UUID) (alias_ : Identifier) :
    Program.Ensures (nordEnvironment unicode runner repository collectors).handler
      (fun s => Attributed s ∧ Settled unicode runner service ⟨requestId, .connectRequest alias_⟩ s)
      (service.dispatchConnect requestId alias_) fun _ s => Attributed s := by
  rintro s ⟨hs, hsettled⟩
  obtain ⟨hresult, hstate⟩ := exec_resolveTarget
    (nordEnvironment unicode runner repository collectors) service s alias_
  rw [ControlService.dispatchConnect, Program.bind_eq, Program.exec_bind_of_ok _ hresult, hstate]
  dsimp only
  cases htarget : service.resolvedTarget s.targets alias_ with
  | none => exact hs
  | some target =>
    refine Program.ensures_bind (Q := fun _ t => Attributed t) (ensures_connectTarget target)
      (fun status => ?_) (fun _ _ h => h) s ⟨hs, hsettled target htarget⟩
    have huses : ((provider .settings).attempt PyException.provider?).Uses KeepsTarget :=
      Program.Uses.attempt _ ((Program.uses_call _).mpr ⟨nofun, nofun⟩)
    exact Program.ensures_bind (huses.ensures fun _ _ => attributed_call _ _ _ _)
      (fun settings => Program.ensures_done fun _ h => h) fun _ _ h => h

/-- Confirming the protection keeps the remembered target, and leaves the adapter where setting
the protection left it. -/
theorem ensures_enableProtection (hs : Attributed s) :
    let set := (NordVpn.setLeakProtection unicode true).exec runner s.provider.1
    Program.Ensures (nordEnvironment unicode runner repository collectors).handler (· = s)
      ControlService.enableProtection fun r t => Attributed t ∧
        t.currentTargetAlias = s.currentTargetAlias ∧
        (r = .ok () → t.provider.1 = set.state ∧
          ∃ settings, set.result = .ok settings ∧ settings.leakProtectionEnabled = some true) := by
  rintro set s rfl
  have hkeeps := attributed_call unicode runner repository collectors
    (c := .provider (.setLeakProtection true)) ⟨(fun _ h => by cases h), (fun _ h => by cases h)⟩ hs
  have hreply : ((nordEnvironment unicode runner repository collectors).handler
      (DaemonCall.provider (.setLeakProtection true)) s).1 = set.result := rfl
  simp only [ControlService.enableProtection, Program.bind_eq, Program.call, Program.ask_bind,
    Program.exec_ask, hreply]
  cases hr : set.result with
  | error e => exact ⟨hkeeps, rfl, fun h => by cases h⟩
  | ok settings =>
    by_cases hon : settings.leakProtectionEnabled = some true
    · simp only [Program.done_ok_bind, hon, ne_eq, not_true_eq_false, if_false]
      exact ⟨hkeeps, rfl, fun _ => ⟨rfl, settings, rfl, hon⟩⟩
    · simp only [Program.done_ok_bind, ne_eq, hon, not_false_eq_true, if_true]
      exact ⟨hkeeps, rfl, fun h => by cases h⟩

theorem ensures_dispatchProtected (requestId : UUID) (alias_ : Identifier) :
    Program.Ensures (nordEnvironment unicode runner repository collectors).handler
      (fun s => Attributed s ∧
        Settled unicode runner service ⟨requestId, .protectedRequest alias_⟩ s)
      (service.dispatchProtected requestId alias_) fun _ s => Attributed s := by
  rintro s ⟨hs, hsettled⟩
  obtain ⟨hresult, hstate⟩ := exec_resolveTarget
    (nordEnvironment unicode runner repository collectors) service s alias_
  rw [ControlService.dispatchProtected, Program.bind_eq, Program.exec_bind_of_ok _ hresult, hstate]
  dsimp only
  cases htarget : service.resolvedTarget s.targets alias_ with
  | none => exact hs
  | some target =>
    cases hconfigures : service.capabilities.leakProtectionConfiguration with
    | false =>
      simp only [ControlService.requireProtectionConfiguration, hconfigures]
      exact hs
    | true =>
      simp only [ControlService.requireProtectionConfiguration, hconfigures, if_true,
        Program.pure_eq, Program.bind_eq, Program.done_ok_bind]
      refine Program.ensures_bind (Q := fun _ t => Attributed t) (ensures_enableProtection hs)
        (fun _ => ?_) (fun _ _ h => h.1) s rfl
      have hconnect : Program.Ensures (nordEnvironment unicode runner repository collectors).handler
          _ (ControlService.connectTarget target) fun _ t => Attributed t :=
        (ensures_connectTarget target)
      refine Program.ensures_bind (hconnect.weaken ?_ fun _ _ h => h) (fun status => ?_) (fun _ _ h => h)
      · rintro t ⟨ht, halias, hok⟩
        obtain ⟨hprovider, hset⟩ := hok rfl
        refine ⟨ht, ?_⟩
        rw [halias, hprovider]
        exact hsettled hconfigures target htarget hset
      · have huses : (ControlService.requireGatewayMode .vpn
            "Provider did not reach protected VPN mode." status).Uses KeepsTarget :=
          Program.uses_call_bind ⟨nofun, nofun⟩ fun _ => by dsimp only; split <;> trivial
        exact Program.ensures_bind (huses.ensures fun _ _ => attributed_call _ _ _ _)
          (fun status => Program.ensures_done fun _ h => h) fun _ _ h => h

/-- **A settled request keeps the remembered target in step.** -/
theorem attributed_dispatch (request : ControlRequest) (hfree : s.operationLocked = false)
    (hs : Attributed s) (hsettled : Settled unicode runner service request s) :
    Attributed ((service.dispatch request).exec
      (nordEnvironment unicode runner repository collectors).handler s).state := by
  have hunlocked : Program.Ensures (nordEnvironment unicode runner repository collectors).handler
      (fun s => Attributed s ∧ Settled unicode runner service request s)
      (service.dispatchUnlocked request) fun _ s => Attributed s := by
    obtain ⟨requestId, operation⟩ := request
    cases operation with
    | connectRequest a => exact ensures_dispatchConnect requestId a
    | protectedRequest a => exact ensures_dispatchProtected requestId a
    | _ =>
      refine Program.Ensures.weaken (((service.uses_dispatchUnlocked _).ensures fun c s hc =>
        attributed_call _ _ _ _ (keepsTarget_of_mayCall (fun _ h => by cases h) (fun _ h => by cases h) hc))) (fun s hs => hs.1) fun _ _ h => h
  obtain ⟨before, after, hexec, -, -⟩ := service.exec_dispatch
    (nordEnvironment unicode runner repository collectors) request hfree
  rw [hexec]
  exact hunlocked { s with operationLocked := request.operation.mutates } ⟨hs, hsettled⟩

/-! ## What a status names -/

/-- During a status request the target remembered at its start may be forgotten. -/
def StillRemembers (remembered : Option String) (t : ServiceState (σ × List RanCommand) ρ τ) : Prop :=
  t.currentTargetAlias = remembered ∨ t.currentTargetAlias = none

/-- The replies that a status request gets when `remembered` is remembered at its start. -/
def StatusReply (env : Environment (σ × List RanCommand) ρ τ) (remembered : Option String)
    (c : DaemonCall) (reply : Except PyException c.Reply) : Prop :=
  ∃ t, StillRemembers remembered t ∧ (env.handler c t).1 = reply

/-- What a status names as its target was remembered. -/
def NamesRemembered (remembered : Option String) (vpn : VpnStatus) : Prop :=
  ∀ a, vpn.target = some a → remembered = some a

variable {remembered : Option String}

theorem answered_attributeTarget_remembered {env : Environment (σ × List RanCommand) ρ τ}
    {status : VpnStatus} (hstatus : status.target = none) :
    (ControlService.attributeTarget status).Answered (StatusReply env remembered)
      fun r => ∀ vpn, r = .ok vpn → NamesRemembered remembered vpn := by
  have hunnamed : NamesRemembered remembered status := fun a ha => nomatch hstatus.symm.trans ha
  rintro first ⟨t, ht, rfl⟩
  simp only [Environment.handler, Program.done_ok_bind]
  split
  · rintro second ⟨t', ht', rfl⟩ vpn hvpn a ha
    cases hvpn
    rcases ht' with h | h
    · exact h.symm.trans ha
    · exact nomatch h.symm.trans ha
  · split
    · rintro second ⟨t', -, rfl⟩ vpn hvpn
      cases hvpn
      exact hunnamed
    · rintro vpn hvpn
      cases hvpn
      exact hunnamed

/-- What is observed was returned. -/
theorem answered_observe {A : Type} {rely : (c : DaemonCall) → Except PyException c.Reply → Prop}
    {K : A → Prop} {p : Daemon A} (component : Identifier)
    (caught : PyException → Option (String × String))
    (hp : p.Answered rely fun r => ∀ a, r = .ok a → K a) :
    (ControlService.observe component caught p).Answered rely
      fun r => ∀ x, r = .ok x → ∀ a, x.1 = some a → K a := by
  have hattempt : (p.attempt caught).Answered rely fun r => ∀ a, r = .ok (.ok a) → K a := by
    exact Program.Answered.attempt (hp.mono fun r hr a ha => hr a (Program.reify_eq_ok.mp ha))
  refine hattempt.bind (fun result hresult => ?_) fun e _ x h => nomatch h
  cases result with
  | ok a =>
    rintro x hx b hb
    cases hx
    cases hb
    exact hresult a rfl
  | error failure =>
    obtain ⟨code, message⟩ := failure
    dsimp only
    cases ComponentFailure.validate component code message with
    | error e => exact fun x hx => nomatch hx
    | ok failure =>
      rintro x hx b hb
      cases hx
      cases hb

theorem answered_observeVpn_remembered :
    ControlService.observeVpn.Answered
      (StatusReply (nordEnvironment unicode runner repository collectors) remembered)
      fun r => ∀ x, r = .ok x → ∀ vpn, x.1 = some vpn → NamesRemembered remembered vpn := by
  have hread : (provider .status).Answered
      (StatusReply (nordEnvironment unicode runner repository collectors) remembered)
      fun r => ∀ status : VpnStatus, r = .ok status → status.target = none := by
    rintro reply ⟨t, -, rfl⟩ status hstatus
    exact NordVpn.exec_status_target unicode runner hstatus
  refine (answered_observe _ _ hread).bind (fun x hx => ?_) fun e _ x h => nomatch h
  obtain ⟨observed, failures⟩ := x
  cases observed with
  | none =>
    rintro y hy vpn hvpn
    cases hy
    cases hvpn
  | some status =>
    refine (answered_attributeTarget_remembered (hx _ rfl status rfl)).bind (fun vpn hvpn => ?_)
      fun e _ x h => nomatch h
    refine Program.Answered.bind (Program.answered_trivial _ fun _ => trivial) (fun y _ => ?_)
      fun e _ x h => nomatch h
    rintro x hx named hnamed
    cases hx
    cases hnamed
    exact fun a ha => hvpn vpn rfl a ha

theorem answered_dispatchStatus_remembered (requestId : UUID) :
    (service.dispatchStatus requestId).Answered
      (StatusReply (nordEnvironment unicode runner repository collectors) remembered)
      fun r => ∀ response gateway vpn, r = .ok response → response.gatewayStatus = some gateway →
        gateway.vpnStatus = some vpn → NamesRemembered remembered vpn := by
  refine answered_observeVpn_remembered.bind (fun x hx => ?_) fun e _ _ _ _ h => nomatch h
  refine Program.Answered.bind (Program.answered_trivial _ fun _ => trivial) (fun _ _ => ?_)
    fun e _ _ _ _ h => nomatch h
  refine Program.Answered.bind (Program.answered_trivial _ fun _ => trivial) (fun _ _ => ?_)
    fun e _ _ _ _ h => nomatch h
  refine Program.Answered.bind (Program.answered_trivial _ fun _ => trivial) (fun _ _ => ?_)
    fun e _ _ _ _ h => nomatch h
  rintro response gateway vpn hresponse hgateway hvpn
  cases hresponse
  cases hgateway
  exact hx x rfl vpn hvpn

/-- A status names the target remembered at its start, and leaves the last accepted connect. -/
theorem dispatch_status (request : ControlRequest) (hop : request.operation = .statusRequest)
    (s : ServiceState (σ × List RanCommand) ρ τ) :
    let o := (service.dispatch request).exec
      (nordEnvironment unicode runner repository collectors).handler s
    lastAccepted o.state.provider.2 = lastAccepted s.provider.2 ∧
      ∀ response gateway vpn, o.result = .ok response → response.gatewayStatus = some gateway →
        gateway.vpnStatus = some vpn → NamesRemembered s.currentTargetAlias vpn := by
  have hdispatch : service.dispatch request = service.dispatchStatus request.requestId := by
    simp [ControlService.dispatch, ControlService.dispatchUnlocked, hop, Operation.mutates]
  have huses : (service.dispatchStatus request.requestId).Uses
      (Operation.statusRequest.mayCall ·) := service.uses_dispatchStatus _
  rw [hdispatch]
  refine ⟨?_, ?_⟩
  · refine huses.exec_unchanged (v := fun t => lastAccepted t.provider.2) (fun c t hc => ?_) s
    cases c with
    | provider c =>
      refine lastAccepted_recorded unicode runner ?_ t.provider
      rintro target rfl
      cases hc
    | _ => rfl
  · refine (answered_dispatchStatus_remembered request.requestId).exec huses
      (K := StillRemembers s.currentTargetAlias) (fun c t hc ht => ⟨⟨t, ht, rfl⟩, ?_⟩) (.inl rfl)
    cases c with
    | setTargetAlias alias_ =>
      cases alias_ with
      | none => exact .inr rfl
      | some a => cases hc
    | _ => exact ht

/-- **A status names the target of the last accepted connect**, in every settled run from a
service that remembers no target. -/
theorem status_names_accepted_target {s₀ : ServiceState (σ × List RanCommand) ρ τ}
    {history : List (Served ControlRequest daemon PyException (ServiceState (σ × List RanCommand) ρ τ)
      ControlResponse)}
    (h₀ : s₀.currentTargetAlias = none) (hfree : s₀.operationLocked = false)
    (run : (nordEnvironment unicode runner repository collectors).Run service
      (Settled unicode runner service) s₀ history s)
    {x : Served ControlRequest daemon PyException (ServiceState (σ × List RanCommand) ρ τ)
      ControlResponse} (hx : x ∈ history) (hop : x.request.operation = .statusRequest)
    {response : ControlResponse} {gateway : GatewayStatus} {vpn : VpnStatus} {a : String}
    (hresult : x.outcome.result = .ok response) (hgateway : response.gatewayStatus = some gateway)
    (hvpn : gateway.vpnStatus = some vpn) (ha : vpn.target = some a) :
    ∃ target, lastAccepted x.outcome.state.provider.2 = some (.connectStored target) ∧
      target.alias.val = a := by
  obtain ⟨request, earlier, t, prior, -, rfl⟩ := run.mem hx
  have hattributed : t.operationLocked = false ∧ Attributed t := by
    refine prior.invariant (K := fun t => t.operationLocked = false ∧ Attributed t)
      ⟨hfree, fun b hb => nomatch h₀.symm.trans hb⟩ ?_
    rintro request t hsettled ⟨ht, hattributed⟩
    refine ⟨?_, attributed_dispatch request ht hattributed hsettled⟩
    obtain ⟨before, after, hexec, -, -⟩ := service.exec_dispatch
      (nordEnvironment unicode runner repository collectors) request ht
    rw [hexec]
  obtain ⟨hlast, hnames⟩ := dispatch_status request hop t
  obtain ⟨target, htarget, halias⟩ :=
    hattributed.2 a (hnames response gateway vpn hresult hgateway hvpn a ha)
  exact ⟨target, hlast.trans htarget, halias⟩

end Service

/-! ## A command line -/

/-- A command line: whether the tunnel is up, and whether the next status command fails. -/
structure NordCli where
  connected : Bool
  busy : Bool

/-- A command line that accepts every command, and is busy for one status after a connect to a
server that is slow. -/
def nordCli (slow : String → Bool) : Handler commandRunner PyException NordCli
  | "connect" :: arguments, _ => (.ok ⟨0, "", ""⟩, ⟨true, arguments.any slow⟩)
  | ["disconnect"], _ => (.ok ⟨0, "", ""⟩, ⟨false, false⟩)
  | ["status"], s =>
    if s.busy then (.ok ⟨1, "", "The daemon is busy."⟩, { s with busy := false })
    else (.ok ⟨0, if s.connected then "Status: Connected\n" else "Status: Disconnected\n", ""⟩, s)
  | ["settings"], s => (.ok ⟨0, "Kill Switch: enabled\nFirewall: enabled\n", ""⟩, s)
  | _, s => (.ok ⟨0, "", ""⟩, s)

def nordCliEnvironment (slow : String → Bool) :
    Environment (NordCli × List RanCommand) (Dict String TargetCatalogue) Unit :=
  nordEnvironment Python.asciiData (nordCli slow) MemoryTargetRepository idealCollectors

def tokyoTarget : StoredTarget where
  «alias» := ⟨"tokyo", by decide⟩
  label := ⟨"Tokyo", by decide⟩
  position := ⟨1, one_lt_maxTargets⟩
  selector := Dict.ofPairs [("kind", .str "legacy"), ("value", .str "tokyo")]
  bounded := by decide

/-- The service of the adapter, with its built-in target. -/
def nordService : ControlService where
  name := NordVpn.name
  capabilities := NordVpn.capabilities
  publicIpUrl := idealService.publicIpUrl
  publicIpTimeoutSeconds := idealService.publicIpTimeoutSeconds
  builtinRecommendedTarget := some {
    «alias» := ⟨builtinRecommendedAlias, builtinRecommendedAlias_valid⟩
    label := ⟨builtinRecommendedLabel, builtinRecommendedLabel_length⟩
    position := ⟨0, zero_lt_maxTargets⟩
    selector := Dict.ofPairs [("kind", .str "recommended")]
    bounded := by decide }
  builtin_alias := by
    rintro t ht
    obtain rfl := Option.some.inj ht
    rfl

/-- The service knows two targets, and its provider is disconnected. -/
def nordState : ServiceState (NordCli × List RanCommand) (Dict String TargetCatalogue) Unit where
  provider := (⟨false, false⟩, [])
  repository := .empty
  collectors := ()
  currentTargetAlias := none
  catalogue := ⟨NordVpn.name, 1, [idealTarget, tokyoTarget], by decide⟩
  targets := aliasMap [idealTarget, tokyoTarget]
  operationLocked := false

def connectTo (target : StoredTarget) : ControlRequest :=
  ⟨idealRequestId, .connectRequest target.alias⟩

def askStatus : ControlRequest := ⟨idealRequestId, .statusRequest⟩

/-- The state after a connect. -/
def afterConnect (slow : String → Bool) (target : StoredTarget)
    (s : ServiceState (NordCli × List RanCommand) (Dict String TargetCatalogue) Unit) :=
  ((nordService.dispatch (connectTo target)).exec (nordCliEnvironment slow).handler s).state

/-- A status request served from `s`. -/
def statusFrom (slow : String → Bool)
    (s : ServiceState (NordCli × List RanCommand) (Dict String TargetCatalogue) Unit) :=
  Served.run (nordCliEnvironment slow).handler nordService.dispatch askStatus s

/-- A connect and a status after it: the status names the target connected to. -/
theorem status_names_dallas :
    let x := statusFrom (fun _ => false) (afterConnect (fun _ => false) idealTarget nordState)
    ∃ response gateway vpn, x.outcome.result = .ok response ∧
      response.gatewayStatus = some gateway ∧ gateway.vpnStatus = some vpn ∧
      vpn.target = some "dallas" ∧
      ∃ target, lastAccepted x.outcome.state.provider.2 = some (.connectStored target) ∧
        target.alias.val = "dallas" := by
  have run : (nordCliEnvironment fun _ => false).Run nordService
      (Settled Python.asciiData (nordCli fun _ => false) nordService) nordState _ _ :=
    .serve (.serve .start (connectTo idealTarget) fun _ _ _ _ => .inl rfl) askStatus trivial
  refine ⟨_, _, _, rfl, rfl, rfl, rfl, ?_⟩
  exact status_names_accepted_target rfl rfl run (List.mem_append_right _ List.mem_cons_self)
    rfl rfl rfl rfl rfl

/-- A connect to Dallas, a connect to Tokyo that is accepted while the status after it fails, and
a status: it names Dallas. -/
theorem status_names_left_target :
    let busy := afterConnect (· == "tokyo") tokyoTarget
      (afterConnect (· == "tokyo") idealTarget nordState)
    let x := statusFrom (· == "tokyo") busy
    (∃ history, (nordCliEnvironment (· == "tokyo")).Run nordService (fun _ _ => True) nordState
        history busy) ∧
      ∃ response gateway vpn, x.outcome.result = .ok response ∧
        response.gatewayStatus = some gateway ∧ gateway.vpnStatus = some vpn ∧
        vpn.target = some "dallas" ∧
        lastAccepted x.outcome.state.provider.2 = some (.connectStored tokyoTarget) ∧
        tokyoTarget.alias.val ≠ "dallas" := by
  refine ⟨⟨_, .serve (.serve .start (connectTo idealTarget) trivial) (connectTo tokyoTarget)
    trivial⟩, _, _, _, rfl, rfl, rfl, rfl, rfl, by decide⟩

end Snarkypuss
