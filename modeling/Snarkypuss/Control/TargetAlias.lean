import Snarkypuss.Control.Concurrency

/-!
# The remembered target under concurrency

A connect that returns success remembers its target, and a status request reports it. Status
requests run outside the operation lock, and clear the remembered target when they saw the
provider disconnected. A status request that saw that before a connect may act on it after, and
then clears the target that the connect has just remembered. The result is about the runs in
which no status request clears the target unless the provider is disconnected at that moment.

## Main definitions

* `ConnectionLaw`: the provider's connection moves only by the daemon's own calls, and its status
  is truthful and names no target
* `Steady`: no status request acts on a stale observation, and a connect that returns has connected
* `Remembers`: the provider is connected and its target remembered

## Main results

* `target_reported`: after a connect has returned success, every status request that starts and
  ends before the next mutation reports its target
-/

namespace Snarkypuss

open Daemon

variable {σ ρ τ : Type}

/-- The connection of the provider moves only by `connect_stored` and `disconnect`, and `status`
reports it, without a target. -/
structure ConnectionLaw (provider : Handler vpnProvider PyException σ) (connection : σ → VpnState) :
    Prop where
  frame : ∀ c p, (∀ t, c ≠ .connectStored t) → c ≠ .disconnect →
    connection (provider c p).2 = connection p
  status : ∀ p status, (provider .status p).1 = .ok status →
    status.state = connection p ∧ status.target = none

/-- The states in which a status request reports the remembered target. -/
def VpnState.IsUp (state : VpnState) : Prop := state = .connected ∨ state = .connecting

/-- A call of `connect_stored` that returns has connected. -/
def Connects (env : Environment σ ρ τ) (connection : σ → VpnState) (c : DaemonCall)
    (s : ServiceState σ ρ τ) : Prop :=
  ∀ target status, c = .provider (.connectStored target) →
    (env.provider (.connectStored target) s.provider).1 = .ok status →
      (connection (env.provider (.connectStored target) s.provider).2).IsUp

/-- The condition on the steps of a run: a connect that returns has connected, and a status
request clears the remembered target only while the provider is disconnected. -/
def Steady (env : Environment σ ρ τ) (connection : σ → VpnState) (P : Workers σ ρ τ) :
    WorkerEvent → Prop
  | .start _ => True
  | .call i c _ => Connects env connection c P.shared ∧
      ∀ t, P.threads[i]? = some t → t.request.operation = .statusRequest →
        c = .setTargetAlias none → connection P.shared.provider = .disconnected

/-- The provider is connected, or connecting, and `alias_` is remembered. -/
def Remembers (connection : σ → VpnState) (alias_ : String) (s : ServiceState σ ρ τ) : Prop :=
  s.currentTargetAlias = some alias_ ∧ (connection s.provider).IsUp

/-- What the readers may do to the state: leave it, or clear the target of a disconnected
provider. -/
def ReaderMoves (connection : σ → VpnState) (s s' : ServiceState σ ρ τ) : Prop :=
  connection s'.provider = connection s.provider ∧
    (s'.currentTargetAlias = s.currentTargetAlias ∨
      connection s.provider = .disconnected ∧ s'.currentTargetAlias = none)

namespace ReaderMoves

variable {connection : σ → VpnState} {a b c : ServiceState σ ρ τ}

theorem refl (a : ServiceState σ ρ τ) : ReaderMoves connection a a := ⟨rfl, .inl rfl⟩

theorem trans (h : ReaderMoves connection a b) (h' : ReaderMoves connection b c) :
    ReaderMoves connection a c := by
  obtain ⟨hconn, halias⟩ := h
  obtain ⟨hconn', halias'⟩ := h'
  refine ⟨hconn'.trans hconn, ?_⟩
  rcases halias' with h' | ⟨hdown, hnone⟩
  · rcases halias with h | ⟨hdown, hnone⟩
    · exact .inl (h'.trans h)
    · exact .inr ⟨hdown, h'.trans hnone⟩
  · exact .inr ⟨hconn.symm.trans hdown, hnone⟩

/-- The readers leave a connected provider's target alone. -/
theorem remembers {alias_ : String} (h : ReaderMoves connection a b)
    (ha : Remembers connection alias_ a) : Remembers connection alias_ b := by
  obtain ⟨hconn, halias⟩ := h
  obtain ⟨hremembered, hup⟩ := ha
  rcases halias with h | ⟨hdown, -⟩
  · exact ⟨h.trans hremembered, hconn ▸ hup⟩
  · rw [hdown] at hup
    rcases hup with h | h <;> cases h

end ReaderMoves

section Laws

variable {env : Environment σ ρ τ} {connection : σ → VpnState}

/-- A reader's call moves the state as readers may. -/
theorem ConnectionLaw.reader_moves (law : ConnectionLaw env.provider connection)
    {operation : Operation} (hreads : operation.mutates = false) {c : DaemonCall}
    (hc : operation.mayCall c) {s : ServiceState σ ρ τ}
    (hclear : operation = .statusRequest → c = .setTargetAlias none →
      connection s.provider = .disconnected) :
    ReaderMoves connection s (env.handler c s).2 := by
  cases c with
  | provider c =>
    refine ⟨law.frame c _ ?_ ?_, .inl rfl⟩
    · rintro t rfl
      cases operation <;> first | (cases hc; done) | cases hreads
    · rintro rfl
      cases operation <;> first | (cases hc; done) | cases hreads
  | setTargetAlias alias_ =>
    -- Of the readers only a status request writes the alias, and only to clear it.
    cases operation with
    | statusRequest =>
      cases alias_ with
      | none => exact ⟨rfl, .inr ⟨hclear rfl rfl, rfl⟩⟩
      | some a => cases hc
    | _ => first | cases hc | cases hreads
  | _ => exact ⟨rfl, .inl rfl⟩

end Laws

/-! ## What a connect promises -/

section Promise

variable {env : Environment σ ρ τ} {service : ControlService} {connection : σ → VpnState}
  {requestId : UUID} {alias_ : Identifier} {s : ServiceState σ ρ τ}

/-- The judgement about a thread inside the lock, with the readers around it. -/
abbrev Inside.Guarantees (env : Environment σ ρ τ) (connection : σ → VpnState) {A : Type}
    (Q : Except PyException A → ServiceState σ ρ τ → Prop) (p : Daemon A)
    (s : ServiceState σ ρ τ) : Prop :=
  p.Guarantees env.handler (ReaderMoves connection) (Connects env connection) Q s

/-- What a connect to `alias_` promises: when it returns success, the alias is remembered. -/
def Connected (connection : σ → VpnState) (alias_ : String)
    (r : Except PyException ControlResponse) (s : ServiceState σ ρ τ) : Prop :=
  ∀ response, r = .ok response → response.success = true → Remembers connection alias_ s

/-- The target that an alias resolves to has that alias. -/
theorem resolvedTarget_alias (service : ControlService) (targets : AliasMap) {target : StoredTarget}
    (h : service.resolvedTarget targets alias_ = some target) : target.alias = alias_ := by
  unfold ControlService.resolvedTarget at h
  split at h
  · rename_i hb
    have hreserved : alias_.val = builtinRecommendedAlias := by
      simp only [Bool.and_eq_true, beq_iff_eq] at hb
      exact hb.2
    exact Subtype.ext ((service.builtin_alias target h).trans hreserved.symm)
  · exact Subtype.ext (targets.alias_eq _ _ h)

theorem guarantees_resolveTarget :
    Inside.Guarantees env connection
      (fun r _ => ∀ target, r = .ok (some target) → target.alias = alias_)
      (service.resolveTarget alias_) s := by
  unfold ControlService.resolveTarget
  split
  · rename_i hb
    rintro s' - target htarget
    refine resolvedTarget_alias service s'.targets ?_
    rw [ControlService.resolvedTarget, if_pos hb]
    exact Except.ok.inj htarget
  · rename_i hb
    intro s' _ _ s'' _ target htarget
    refine resolvedTarget_alias service s'.targets ?_
    rw [ControlService.resolvedTarget, if_neg hb]
    exact Except.ok.inj htarget

/-- A connect that returns remembers its target, and the provider is connected. -/
theorem guarantees_connectTarget (target : StoredTarget) :
    Inside.Guarantees env connection
      (fun r t => ∀ status, r = .ok status → Remembers connection target.alias t)
      (ControlService.connectTarget target) s := by
  intro s₁ _ hok
  cases hr : (env.provider (.connectStored target) s₁.provider).1 with
  | error e =>
    simp only [Environment.handler, hr]
    exact fun _ _ _ h => by cases h
  | ok status =>
    have hup := hok target status rfl hr
    simp only [Environment.handler, hr]
    intro s₂ hmoves _ s₃ hmoves' status' _
    refine hmoves'.remembers ⟨rfl, ?_⟩
    show (connection s₂.provider).IsUp
    rw [hmoves.1]
    exact hup

/-- Reading the settings keeps a remembered target. -/
theorem guarantees_settings (law : ConnectionLaw env.provider connection) {a : String}
    (hs : Remembers connection a s) :
    Inside.Guarantees env connection (fun _ t => Remembers connection a t) (provider .settings) s := by
  intro s₁ hmoves _ s₂ hmoves'
  refine hmoves'.remembers ⟨(hmoves.remembers hs).1, ?_⟩
  have := (hmoves.remembers hs).2
  rwa [← law.frame .settings s₁.provider nofun nofun] at this

theorem guarantees_dispatchConnect (law : ConnectionLaw env.provider connection) :
    Inside.Guarantees env connection (Connected connection alias_)
      (service.dispatchConnect requestId alias_) s := by
  refine guarantees_resolveTarget.bind .refl (fun target t htarget => ?_)
    fun e t _ response h => nomatch h
  cases target with
  | none =>
    rintro t' - response hr hsuccess
    cases hr
    cases hsuccess
  | some target =>
    obtain rfl := htarget target rfl
    refine (guarantees_connectTarget target).bind .refl (fun status t hs => ?_)
      fun e t _ response h => nomatch h
    have hread : Inside.Guarantees env connection (fun _ t => Remembers connection target.alias t)
        ((provider .settings).attempt PyException.provider?) t :=
      Program.Guarantees.attempt (guarantees_settings law (hs status rfl))
    refine hread.bind .refl (fun settings t hs => ?_) fun e t _ response h => nomatch h
    exact fun t' hmoves response _ _ => hmoves.remembers hs

theorem guarantees_dispatchProtected (law : ConnectionLaw env.provider connection) :
    Inside.Guarantees env connection (Connected connection alias_)
      (service.dispatchProtected requestId alias_) s := by
  refine guarantees_resolveTarget.bind .refl (fun target t htarget => ?_)
    fun e t _ response h => nomatch h
  cases target with
  | none =>
    rintro t' - response hr hsuccess
    cases hr
    cases hsuccess
  | some target =>
    obtain rfl := htarget target rfl
    refine Program.Guarantees.bind .refl (Program.guarantees_trivial _ _ fun _ _ => trivial)
      (fun _ t _ => ?_) fun e t _ response h => nomatch h
    refine Program.Guarantees.bind .refl (Program.guarantees_trivial _ _ fun _ _ => trivial)
      (fun _ t _ => ?_) fun e t _ response h => nomatch h
    refine (guarantees_connectTarget target).bind .refl (fun status t hs => ?_)
      fun e t _ response h => nomatch h
    have hmode : Inside.Guarantees env connection
        (fun _ t => Remembers connection target.alias t)
        (ControlService.requireGatewayMode .vpn "Provider did not reach protected VPN mode." status)
        t := by
      refine (guarantees_settings law (hs status rfl)).bind .refl (fun settings t hs => ?_)
        fun e t hs => hs
      dsimp only
      split <;> exact fun t' hmoves => hmoves.remembers hs
    refine hmode.bind .refl (fun status t hs => ?_) fun e t _ response h => nomatch h
    exact fun t' hmoves response _ _ => hmoves.remembers hs

/-- What a thread inside the lock promises about the state it leaves. -/
def Post (connection : σ → VpnState) (request : ControlRequest)
    (r : Except PyException ControlResponse) (s : ServiceState σ ρ τ) : Prop :=
  ∀ alias_, request.operation = .connectRequest alias_ ∨ request.operation = .protectedRequest alias_ →
    Connected connection alias_ r s

/-- The promise of the threads, of which only a connect promises anything. -/
def aliasPromise (env : Environment σ ρ τ) (connection : σ → VpnState) (t : Worker)
    (s : ServiceState σ ρ τ) : Prop :=
  Inside.Guarantees env connection (Post connection t.request) t.program s

theorem post_dispatchUnlocked (law : ConnectionLaw env.provider connection)
    (request : ControlRequest) :
    Inside.Guarantees env connection (Post connection request)
      (service.dispatchUnlocked request) s := by
  obtain ⟨requestId, operation⟩ := request
  cases operation with
  | connectRequest a =>
    refine (guarantees_dispatchConnect law).mono ?_
    rintro r t h b (hb | hb) <;> cases hb
    exact h
  | protectedRequest a =>
    refine (guarantees_dispatchProtected law).mono ?_
    rintro r t h b (hb | hb) <;> cases hb
    exact h
  | _ =>
    refine Program.guarantees_trivial _ _ ?_
    rintro r t b (hb | hb) <;> cases hb

theorem aliasPromise_promise (law : ConnectionLaw env.provider connection) :
    Promise env service (Steady env connection) (aliasPromise env connection) where
  enter request s _ := by
    have hbody : Inside.Guarantees env connection
        (fun r t => ∀ result, r = .ok result → Post connection request result t)
        ((service.dispatchUnlocked request).attempt some) { s with operationLocked := true } := by
      refine Program.Guarantees.attempt ((post_dispatchUnlocked law request).mono ?_)
      rintro r t h result hr
      rw [Program.reify_some] at hr
      cases hr
      exact h
    refine hbody.bind .refl (fun result t hr => ?_) fun e t _ a _ response h => nomatch h
    -- The release is the last call, and it leaves the alias and the provider alone.
    intro t₁ hmoves _ t₂ hmoves' a ha response hresponse hsuccess
    have hremembers := hmoves.remembers (hr result rfl a ha response hresponse hsuccess)
    exact hmoves'.remembers ⟨hremembers.1, hremembers.2⟩
  own P i r c next hi hmeets hp := hp.step .refl hmeets.1
  other P i r c next t hi hreads hc hmeets ht := by
    refine ht.stable (fun _ _ _ => .trans) (law.reader_moves hreads hc fun hop hclear => ?_)
    exact hmeets.2 _ hi hop hclear

end Promise

/-! ## What a status request reports -/

section Window

variable {env : Environment σ ρ τ} {service : ControlService} {connection : σ → VpnState}
  {alias_ : String}

/-- The replies that a thread gets while the provider is connected and `alias_` remembered, when
the provider answers `status`. -/
def WindowReply (env : Environment σ ρ τ) (connection : σ → VpnState) (alias_ : String)
    (c : DaemonCall) (reply : Except PyException c.Reply) : Prop :=
  (∃ s, Remembers connection alias_ s ∧ (env.handler c s).1 = reply) ∧
    (c = .provider .status → ∃ value, reply = .ok value)

/-- A response that reports `alias_` as the target of the connection. -/
def ReportsTarget (alias_ : String) (response : ControlResponse) : Prop :=
  ∃ gateway vpn, response.gatewayStatus = some gateway ∧ gateway.vpnStatus = some vpn ∧
    vpn.target = some alias_

theorem answered_attributeTarget {status : VpnStatus} (hup : status.state.IsUp) :
    (ControlService.attributeTarget status).Answered (WindowReply env connection alias_)
      fun r => ∀ vpn, r = .ok vpn → vpn.target = some alias_ := by
  rintro first ⟨⟨s, hs, rfl⟩, -⟩
  have hget : (env.handler .getTargetAlias s).1 = .ok (some alias_) := by
    simp [Environment.handler, hs.1]
  simp only [hget, Program.done_ok_bind, Option.isSome_some, true_and]
  rw [if_pos (show status.state = .connected ∨ status.state = .connecting from hup)]
  rintro second ⟨⟨t, ht, rfl⟩, -⟩
  have hget' : (env.handler .getTargetAlias t).1 = .ok (some alias_) := by
    simp [Environment.handler, ht.1]
  simp only [hget']
  rintro vpn hvpn
  cases hvpn
  rfl

theorem answered_observeVpn (law : ConnectionLaw env.provider connection) :
    ControlService.observeVpn.Answered (WindowReply env connection alias_)
      fun r => ∀ x, r = .ok x → ∃ vpn, x.1 = some vpn ∧ vpn.target = some alias_ := by
  rintro reply ⟨⟨s, hs, rfl⟩, hanswers⟩
  obtain ⟨status, hstatus⟩ := hanswers rfl
  have hup : status.state.IsUp := by
    rw [(law.status s.provider status hstatus).1]
    exact hs.2
  rw [hstatus]
  refine (answered_attributeTarget hup).bind (fun vpn hvpn => ?_) fun e _ x h => nomatch h
  refine Program.Answered.bind (Program.answered_trivial _ fun _ => trivial) (fun x _ => ?_)
    fun e _ x h => nomatch h
  rintro y hy
  cases hy
  exact ⟨_, rfl, hvpn vpn rfl⟩

theorem answered_dispatchStatus (law : ConnectionLaw env.provider connection) (requestId : UUID) :
    (service.dispatchStatus requestId).Answered (WindowReply env connection alias_)
      fun r => ∀ response, r = .ok response → ReportsTarget alias_ response := by
  refine (answered_observeVpn law).bind (fun x hx => ?_) fun e _ x h => nomatch h
  obtain ⟨vpn, hvpn, htarget⟩ := hx x rfl
  refine Program.Answered.bind (Program.answered_trivial _ fun _ => trivial) (fun _ _ => ?_)
    fun e _ x h => nomatch h
  refine Program.Answered.bind (Program.answered_trivial _ fun _ => trivial) (fun _ _ => ?_)
    fun e _ x h => nomatch h
  refine Program.Answered.bind (Program.answered_trivial _ fun _ => trivial) (fun _ _ => ?_)
    fun e _ x h => nomatch h
  rintro response hresponse
  cases hresponse
  exact ⟨_, vpn, rfl, hvpn, htarget⟩

/-- The state of a window of `n` older threads: nobody is inside the lock, the target is
remembered, and every younger status request whose `status` calls were answered is on its way to
report it. -/
structure InWindow (env : Environment σ ρ τ) (service : ControlService)
    (connection : σ → VpnState) (alias_ : String) (n : ℕ) (events : List WorkerEvent)
    (P : Workers σ ρ τ) : Prop where
  serialized : Serialized service (aliasPromise env connection) P none
  remembers : Remembers connection alias_ P.shared
  reports : ∀ j t, n ≤ j → P.threads[j]? = some t → t.request.operation = .statusRequest →
    (∀ e, Event.call j (DaemonCall.provider .status) (.error e) ∉ events) →
    t.program.Answered (WindowReply env connection alias_)
      fun r => ∀ response, r = .ok response → ReportsTarget alias_ response

/-- A call of a reader in a window keeps it. -/
theorem InWindow.reader (law : ConnectionLaw env.provider connection) {n i : ℕ}
    {events : List WorkerEvent} {P : Workers σ ρ τ}
    (hP : InWindow env service connection alias_ n events P) {r : ControlRequest} {c : DaemonCall}
    {next : Except PyException c.Reply → Daemon ControlResponse}
    (hi : P.threads[i]? = some ⟨r, .ask c next⟩)
    (hmeets : Steady env connection P (.call i c (env.handler c P.shared).1))
    (hreads : r.operation.mutates = false) (hc : r.operation.mayCall c)
    (hserialized : Serialized service (aliasPromise env connection)
      ⟨(env.handler c P.shared).2, P.threads.set i ⟨r, next (env.handler c P.shared).1⟩⟩ none) :
    InWindow env service connection alias_ n
      (events ++ [.call i c (env.handler c P.shared).1])
      ⟨(env.handler c P.shared).2, P.threads.set i ⟨r, next (env.handler c P.shared).1⟩⟩ where
  serialized := hserialized
  remembers := (law.reader_moves hreads hc fun hop hclear =>
    hmeets.2 _ hi hop hclear).remembers hP.remembers
  reports j t hj ht hop hanswered := by
    have hprior : ∀ e, Event.call j (DaemonCall.provider .status) (.error e) ∉ events :=
      fun e he => hanswered e (List.mem_append_left _ he)
    rcases Pool.getElem?_set hi ht with ⟨rfl, rfl⟩ | ⟨-, ht⟩
    · refine hP.reports j _ hj hi hop hprior _ ⟨⟨P.shared, hP.remembers, rfl⟩, ?_⟩
      rintro rfl
      cases hr : (env.handler (.provider .status) P.shared).1 with
      | ok value => exact ⟨value, rfl⟩
      | error e => exact absurd (List.mem_append_right _ (by rw [hr]; simp)) (hanswered e)
    · exact hP.reports j t hj ht hop hprior

/-- Every step of a window that lets no mutation into the lock keeps it. -/
theorem InWindow.step (law : ConnectionLaw env.provider connection) {n : ℕ}
    {events : List WorkerEvent} {P P' : Workers σ ρ τ} {e : WorkerEvent}
    (hP : InWindow env service connection alias_ n events P)
    (hquiet : ∀ i, e ≠ Event.call i DaemonCall.acquireLock (.ok true)) (hmeets : Steady env connection P e)
    (hstep : Pool.Step env.handler service.dispatch P e P') :
    InWindow env service connection alias_ n (events ++ [e]) P' := by
  have hserialized := hP.serialized.step (aliasPromise_promise law) hmeets hstep
  cases hstep with
  | start request =>
    refine ⟨hserialized, hP.remembers, fun j t hj ht hop hanswered => ?_⟩
    rcases Pool.getElem?_append_singleton ht with ⟨-, rfl⟩ | ht
    · have hdispatch : service.dispatch request = service.dispatchStatus request.requestId := by
        replace hop : request.operation = .statusRequest := hop
        simp [ControlService.dispatch, ControlService.dispatchUnlocked, hop, Operation.mutates]
      rw [hdispatch]
      exact answered_dispatchStatus law request.requestId
    · exact hP.reports j t hj ht hop fun e he => hanswered e (List.mem_append_left _ he)
  | call i r c next hi =>
    cases hP.serialized.outside i _ hi (fun h => by cases h) with
    | reader hreads huses =>
      obtain ⟨hacq, hrel⟩ := reader_calls huses.1
      rw [nextHolder_call hacq hrel] at hserialized
      exact hP.reader law hi hmeets hreads huses.1 hserialized
    | waiting hmutates hprogram =>
      have hask : (.ask c next : Daemon ControlResponse) = service.dispatch r := hprogram
      rw [dispatch_mutation service hmutates] at hask
      obtain ⟨rfl, -⟩ := Program.ask.inj hask
      have hfree : P.shared.operationLocked = false := hP.serialized.locked
      refine absurd ?_ (hquiet i)
      simp [Environment.handler, hfree]
    | finished result hprogram => cases hprogram

/-- **A connect that returned success is reported.** Take any run whose steps are steady, in which
thread `i` has just left the lock, having connected to `alias_` and returned success; let it go on
without any mutation entering the lock. Every status request that starts and ends there, and whose
`status` call the provider answered, reports `alias_` as its target. -/
theorem target_reported (law : ConnectionLaw env.provider connection) {s₀ : ServiceState σ ρ τ}
    (hfree : s₀.operationLocked = false) {before after : List WorkerEvent}
    {P P₁ P₂ : Workers σ ρ τ} {i j : ℕ} {reply : Except PyException Unit}
    (run : env.Interleaving service (Steady env connection) ⟨s₀, []⟩ before P)
    (hsteady : Steady env connection P (Event.call i DaemonCall.releaseLock reply))
    (released : Pool.Step env.handler service.dispatch P (Event.call i DaemonCall.releaseLock reply) P₁)
    {connect : Worker} {response : ControlResponse} {target : Identifier}
    (hconnect : P₁.threads[i]? = some connect) (hreturned : connect.program = .done (.ok response))
    (hsuccess : response.success = true)
    (hoperation : connect.request.operation = .connectRequest target ∨
      connect.request.operation = .protectedRequest target)
    (window : env.Interleaving service (Steady env connection) P₁ after P₂)
    (hquiet : ∀ k, Event.call k DaemonCall.acquireLock (.ok true) ∉ after)
    {status : Worker} {answer : ControlResponse} (hnew : P₁.threads.length ≤ j)
    (hstatus : P₂.threads[j]? = some status) (hop : status.request.operation = .statusRequest)
    (hended : status.program = .done (.ok answer))
    (hanswered : ∀ e, Event.call j (DaemonCall.provider .status) (.error e) ∉ after) :
    ReportsTarget target answer := by
  obtain ⟨holder, hP⟩ := serialized_run (aliasPromise_promise law) hfree run
  obtain ⟨hP₁, t, result, ht, hdone, hpromised⟩ :=
    hP.released (aliasPromise_promise law) hsteady released
  obtain rfl := Option.some.inj (ht.symm.trans hconnect)
  have hremembers : Remembers connection target P₁.shared := by
    rw [aliasPromise, hreturned] at hpromised
    exact hpromised _ (.refl _) target hoperation response rfl hsuccess
  have hstart : InWindow env service connection target P₁.threads.length [] P₁ := by
    refine ⟨hP₁, hremembers, fun k t hk ht => ?_⟩
    exact absurd (List.getElem?_eq_some_iff.mp ht).1 (Nat.not_lt.mpr hk)
  have hwindow : InWindow env service connection target P₁.threads.length after P₂ := by
    refine window.invariant (K := fun events Q =>
      (∀ k, Event.call k DaemonCall.acquireLock (.ok true) ∉ events) →
        InWindow env service connection target P₁.threads.length events Q)
      (fun _ => hstart) ?_ hquiet
    intro events Q e Q' hmeets hstep ih hquiet
    refine (ih fun k hk => hquiet k (List.mem_append_left _ hk)).step law ?_ hmeets hstep
    rintro k rfl
    exact hquiet k (List.mem_append_right _ List.mem_cons_self)
  have hreports := hwindow.reports j status hnew hstatus hop hanswered
  rw [hended] at hreports
  exact hreports answer rfl

end Window

/-! ## Two schedules -/

theorem idealProvider_connectionLaw : ConnectionLaw idealProvider IdealVpn.state where
  frame c p hconnect hdisconnect := by
    cases c with
    | connectStored t => exact absurd rfl (hconnect t)
    | disconnect => exact absurd rfl hdisconnect
    | _ => rfl
  status p status h := by
    cases h
    exact ⟨rfl, rfl⟩

def idealConnect : ControlRequest := ⟨idealRequestId, .connectRequest idealTarget.alias⟩

def idealStatus : ControlRequest := ⟨idealRequestId, .statusRequest⟩

/-- The ideal service, disconnected, before any request. -/
def idealWorkers : Workers IdealVpn (Dict String TargetCatalogue) Unit :=
  ⟨idealState ⟨.disconnected, true⟩, []⟩

/-- The run that a schedule of the ideal service makes. -/
def idealSchedule (P : Workers IdealVpn (Dict String TargetCatalogue) Unit)
    (choices : List (Pool.Choice ControlRequest)) :=
  Pool.schedule idealEnvironment.handler idealService.dispatch P choices

/-- The event clears the remembered target. -/
def Event.clears : WorkerEvent → Bool
  | .call _ (.setTargetAlias none) _ => true
  | _ => false

/-- A mutation enters the lock, or a `status` call fails. -/
def Event.disturbs : WorkerEvent → Bool
  | .call _ .acquireLock (.ok acquired) => acquired
  | .call _ (.provider .status) (.error _) => true
  | _ => false

/-- The ideal provider connects when it is asked to, so all that a step of its service must not
do is to clear the target. -/
theorem steady_ideal {P : Workers IdealVpn (Dict String TargetCatalogue) Unit} {e : WorkerEvent}
    (h : e.clears = false) : Steady idealEnvironment IdealVpn.state P e := by
  cases e with
  | start r => trivial
  | call i c reply =>
    refine ⟨?_, ?_⟩
    · rintro target status rfl -
      exact .inl rfl
    · rintro t - - rfl
      cases h

theorem steady_events {events : List WorkerEvent} (h : events.all (!·.clears) = true)
    (P : Workers IdealVpn (Dict String TargetCatalogue) Unit) :
    ∀ e ∈ events, Steady idealEnvironment IdealVpn.state P e := by
  intro e he
  have hclears := List.all_eq_true.mp h e he
  rw [Bool.not_eq_true'] at hclears
  exact steady_ideal hclears

/-- The events of a window in which nothing disturbs a status request. -/
theorem undisturbed {events : List WorkerEvent} (h : events.all (!·.disturbs) = true) :
    (∀ k, Event.call k DaemonCall.acquireLock (.ok true) ∉ events) ∧
      ∀ j e, Event.call j (DaemonCall.provider .status) (.error e) ∉ events := by
  have hall := List.all_eq_true.mp h
  exact ⟨fun k hk => (nomatch hall _ hk), fun j e he => (nomatch hall _ he)⟩

/-- A connect up to its release. -/
def idealBefore : List (Pool.Choice ControlRequest) :=
  .start idealConnect :: List.replicate 5 (.call 0)

/-- A status request after it. -/
def idealAfter : List (Pool.Choice ControlRequest) :=
  .start idealStatus :: List.replicate 7 (.call 1)

/-- A status request after a connect to `dallas`, on the ideal provider, reports `dallas`. -/
theorem target_reported_ideal :
    ∃ before P P₁ after P₂ status answer,
      idealSchedule idealWorkers idealBefore = some (before, P) ∧
      Pool.Step idealEnvironment.handler idealService.dispatch P
        (.call 0 DaemonCall.releaseLock (.ok ())) P₁ ∧
      idealSchedule P₁ idealAfter = some (after, P₂) ∧ P₂.threads[1]? = some status ∧
      status.program = .done (.ok answer) ∧ ReportsTarget idealTarget.alias answer := by
  refine ⟨_, _, _, _, _, _, _, rfl, .call _ 0 _ _ _ rfl, rfl, rfl, rfl, ?_⟩
  refine target_reported idealProvider_connectionLaw rfl
    (Pool.run_schedule (rfl : idealSchedule idealWorkers idealBefore = _) (steady_events rfl))
    (steady_ideal rfl) (.call _ 0 _ _ _ rfl) rfl rfl rfl (.inl rfl)
    (Pool.run_schedule (rfl : idealSchedule _ idealAfter = _) (steady_events rfl))
    (undisturbed rfl).1 (Nat.le_refl 1) (rfl : (Pool.threads _)[1]? = _) rfl rfl
    ((undisturbed rfl).2 1)

/-- A status request that sees the provider disconnected, a connect, and the rest of the status
request. -/
def raceBefore : List (Pool.Choice ControlRequest) :=
  [.start idealStatus, .call 0, .start idealConnect] ++ List.replicate 5 (.call 1)

def raceAfter : List (Pool.Choice ControlRequest) :=
  [.call 0, .call 0, .start idealStatus] ++ List.replicate 6 (.call 2)

/-- The first status request acts on what it saw before the connect, so that the second one, which
started after the connect had returned, reports no target. -/
theorem target_lost :
    ConnectionLaw idealEnvironment.provider IdealVpn.state ∧
    ∃ before P P₁ connect response after P₂ status answer,
      idealEnvironment.Interleaving idealService (fun _ _ => True) idealWorkers before P ∧
      Pool.Step idealEnvironment.handler idealService.dispatch P
        (.call 1 DaemonCall.releaseLock (.ok ())) P₁ ∧
      P₁.threads[1]? = some connect ∧ connect.request.operation = .connectRequest idealTarget.alias ∧
      connect.program = .done (.ok response) ∧ response.success = true ∧
      idealEnvironment.Interleaving idealService (fun _ _ => True) P₁ after P₂ ∧
      (∀ k, Event.call k DaemonCall.acquireLock (.ok true) ∉ after) ∧ P₁.threads.length ≤ 2 ∧
      P₂.threads[2]? = some status ∧ status.request.operation = .statusRequest ∧
      status.program = .done (.ok answer) ∧
      (∀ e, Event.call 2 (DaemonCall.provider .status) (.error e) ∉ after) ∧
      ¬ ReportsTarget idealTarget.alias answer := by
  refine ⟨idealProvider_connectionLaw, _, _, _, _, _, _, _, _, _,
    Pool.run_schedule (rfl : idealSchedule idealWorkers raceBefore = _) fun _ _ _ => trivial,
    .call _ 1 _ _ _ rfl, rfl, rfl, rfl, rfl,
    Pool.run_schedule (rfl : idealSchedule _ raceAfter = _) fun _ _ _ => trivial,
    (undisturbed rfl).1, Nat.le_refl 2, rfl, rfl, rfl, (undisturbed rfl).2 2, ?_⟩
  rintro ⟨gateway, vpn, hgateway, hvpn, htarget⟩
  cases hgateway
  cases hvpn
  cases htarget

end Snarkypuss
