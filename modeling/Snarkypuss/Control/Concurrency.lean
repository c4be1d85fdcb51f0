import Snarkypuss.Calls.Interleaving
import Snarkypuss.Control.Ideal

/-!
# Concurrent requests

Requests dispatched by any number of threads, interleaved call by call. Mutations are serialised
by the operation lock: at any moment at most one thread is inside it, and every other thread is a
reader, or has not acquired the lock yet, or is done.

## Main definitions

* `Workers`: the pool of threads that serve requests, over the state of the service
* `Environment.Interleaving`: the runs of the pool
* `Shape`: what a thread that is not inside the lock looks like
* `Serialized`: the lock discipline, with a promise about the thread inside

## Main results

* `Serialized.step`: every step keeps the lock discipline
* `Serialized.released`: a release leaves what was promised
-/

namespace Snarkypuss

open Daemon

/-- The threads that serve requests, and the state of the service they share. -/
abbrev Workers (σ ρ τ : Type) :=
  Pool ControlRequest daemon PyException (ServiceState σ ρ τ) ControlResponse

/-- What a step of the workers does. -/
abbrev WorkerEvent := Event ControlRequest daemon PyException

abbrev Worker := Thread ControlRequest daemon PyException ControlResponse

variable {σ ρ τ : Type}

/-- The runs of the workers whose steps meet a condition. -/
abbrev Environment.Interleaving (env : Environment σ ρ τ) (service : ControlService)
    (meets : Workers σ ρ τ → WorkerEvent → Prop) :=
  Pool.Run env.handler service.dispatch meets

/-- A thread that is not inside the lock: a reader, a mutation that has not acquired the lock, or
a thread that is done. -/
inductive Shape (service : ControlService) (t : Worker) : Prop
  | reader (hreads : t.request.operation.mutates = false)
      (huses : t.program.Uses (t.request.operation.mayCall ·))
  | waiting (hmutates : t.request.operation.mutates = true)
      (hprogram : t.program = service.dispatch t.request)
  | finished (result : Except PyException ControlResponse) (hprogram : t.program = .done result)

/-- The threads of a pool, when `holder` is inside the lock: the holder has yet to release it and
keeps its promise, every other thread is outside. -/
structure Serialized (service : ControlService)
    (promise : Worker → ServiceState σ ρ τ → Prop) (P : Workers σ ρ τ) (holder : Option ℕ) :
    Prop where
  locked : P.shared.operationLocked = holder.isSome
  outside : ∀ k t, P.threads[k]? = some t → holder ≠ some k → Shape service t
  inside : ∀ k, holder = some k → ∃ t, P.threads[k]? = some t ∧
    t.request.operation.mutates = true ∧
    t.program.Inside DaemonCall.acquireLock DaemonCall.releaseLock ∧ promise t P.shared

/-- What is asked of a promise: it is made on entering the lock, its own calls keep it, and so
do the calls of the readers. -/
structure Promise (env : Environment σ ρ τ) (service : ControlService)
    (meets : Workers σ ρ τ → WorkerEvent → Prop)
    (promise : Worker → ServiceState σ ρ τ → Prop) : Prop where
  enter : ∀ request (s : ServiceState σ ρ τ), request.operation.mutates = true →
    promise ⟨request, (service.dispatchUnlocked request).finally_ (call .releaseLock)⟩
      { s with operationLocked := true }
  own : ∀ (P : Workers σ ρ τ) (i : ℕ) r c next, P.threads[i]? = some ⟨r, .ask c next⟩ →
    meets P (.call i c (env.handler c P.shared).1) → promise ⟨r, .ask c next⟩ P.shared →
    promise ⟨r, next (env.handler c P.shared).1⟩ (env.handler c P.shared).2
  other : ∀ (P : Workers σ ρ τ) (i : ℕ) r c next t, P.threads[i]? = some ⟨r, .ask c next⟩ →
    r.operation.mutates = false → r.operation.mayCall c →
    meets P (.call i c (env.handler c P.shared).1) → promise t P.shared →
    promise t (env.handler c P.shared).2

/-- A reader does not touch the lock. -/
theorem reader_calls {operation : Operation} {c : DaemonCall} (hc : operation.mayCall c) :
    c ≠ .acquireLock ∧ c ≠ .releaseLock := by
  refine ⟨?_, ?_⟩ <;> rintro rfl <;> cases operation <;> cases hc

/-- A request that a thread starts with is outside the lock. -/
theorem shape_start (service : ControlService) (request : ControlRequest) :
    Shape service ⟨request, service.dispatch request⟩ := by
  cases hm : request.operation.mutates with
  | true => exact .waiting hm rfl
  | false =>
    refine .reader hm ?_
    simp only [ControlService.dispatch, hm, Bool.not_false, if_true]
    exact service.uses_dispatchUnlocked request

/-- A mutation begins with its acquisition of the lock. -/
theorem dispatch_mutation (service : ControlService) {request : ControlRequest}
    (hm : request.operation.mutates = true) :
    service.dispatch request = (.ask .acquireLock fun reply =>
      (Program.done reply : Daemon Bool).bind fun acquired =>
        if !acquired then pure (ControlService.operationInProgress request.requestId)
        else (service.dispatchUnlocked request).finally_ (call .releaseLock)) := by
  simp only [ControlService.dispatch, hm, Bool.not_true, Bool.false_eq_true, if_false]
  rfl

/-- A mutation that has acquired the lock is inside it. -/
theorem dispatchUnlocked_inside (service : ControlService) (request : ControlRequest) :
    ((service.dispatchUnlocked request).finally_ (call .releaseLock)).Inside
      DaemonCall.acquireLock DaemonCall.releaseLock :=
  Program.inside_finally_ ((service.uses_dispatchUnlocked request).mono fun _ hc => reader_calls hc)
    rfl fun reply => ⟨reply, rfl⟩

section Step

variable {env : Environment σ ρ τ} {service : ControlService}
  {meets : Workers σ ρ τ → WorkerEvent → Prop} {promise : Worker → ServiceState σ ρ τ → Prop}
  {P P' : Workers σ ρ τ} {holder : Option ℕ} {e : WorkerEvent}

/-- Starting a thread keeps the lock discipline. -/
theorem Serialized.start (hP : Serialized service promise P holder) (request : ControlRequest) :
    Serialized service promise
      { P with threads := P.threads ++ [⟨request, service.dispatch request⟩] } holder where
  locked := hP.locked
  outside k t hk hholder := by
    rcases Pool.getElem?_append_singleton hk with ⟨-, rfl⟩ | hk
    · exact shape_start service request
    · exact hP.outside k t hk hholder
  inside k hk := by
    obtain ⟨t, ht, hrest⟩ := hP.inside k hk
    refine ⟨t, ?_, hrest⟩
    obtain ⟨hlt, -⟩ := List.getElem?_eq_some_iff.mp ht
    rw [List.getElem?_append_left hlt, ht]

/-- A call that is neither an acquisition nor a release leaves the lock as it is. -/
theorem handler_locked {c : DaemonCall} (ha : c ≠ .acquireLock) (hr : c ≠ .releaseLock)
    (s : ServiceState σ ρ τ) : (env.handler c s).2.operationLocked = s.operationLocked := by
  cases c with
  | acquireLock => exact absurd rfl ha
  | releaseLock => exact absurd rfl hr
  | _ => rfl

/-- Who is inside the lock after an event. -/
def nextHolder (holder : Option ℕ) : WorkerEvent → Option ℕ
  | .call i .acquireLock (.ok true) => some i
  | .call _ .releaseLock _ => none
  | _ => holder

theorem nextHolder_call {i : ℕ} {c : DaemonCall} {reply : Except PyException c.Reply}
    (ha : c ≠ .acquireLock) (hr : c ≠ .releaseLock) :
    nextHolder holder (.call i c reply) = holder := by
  cases c with
  | acquireLock => exact absurd rfl ha
  | releaseLock => exact absurd rfl hr
  | _ => rfl

/-- A call of a thread outside the lock leaves the other threads, and the one inside. -/
theorem Serialized.call_outside (hP : Serialized service promise P holder) {i : ℕ}
    (hi : holder ≠ some i) {t u : Worker} (ht : P.threads[i]? = some t) {s : ServiceState σ ρ τ}
    (hs : s.operationLocked = P.shared.operationLocked) (hu : Shape service u)
    (hpromise : ∀ v, promise v P.shared → promise v s) :
    Serialized service promise ⟨s, P.threads.set i u⟩ holder where
  locked := hs.trans hP.locked
  outside k v hk hholder := by
    rcases Pool.getElem?_set ht hk with ⟨-, rfl⟩ | ⟨-, hk⟩
    · exact hu
    · exact hP.outside k v hk hholder
  inside k hk := by
    obtain ⟨v, hv, hm, hin, hpr⟩ := hP.inside k hk
    have hki : i ≠ k := fun h => hi (h ▸ hk)
    exact ⟨v, by rw [List.getElem?_set_ne hki]; exact hv, hm, hin, hpromise v hpr⟩

/-- The thread inside the lock moves on, or leaves it with its last call. -/
theorem Serialized.call_inside (hpromise : Promise env service meets promise)
    (hP : Serialized service promise P holder) {i : ℕ} (hi : holder = some i)
    {r : ControlRequest} {c : DaemonCall}
    {next : Except PyException c.Reply → Daemon ControlResponse}
    (ht : P.threads[i]? = some ⟨r, .ask c next⟩)
    (hmeets : meets P (.call i c (env.handler c P.shared).1)) :
    Serialized service promise
      ⟨(env.handler c P.shared).2, P.threads.set i ⟨r, next (env.handler c P.shared).1⟩⟩
      (nextHolder holder (.call i c (env.handler c P.shared).1)) := by
  subst hi
  obtain ⟨t, ht', hm, hin, hpr⟩ := hP.inside i rfl
  obtain rfl : t = ⟨r, .ask c next⟩ := Option.some.inj (ht'.symm.trans ht)
  have hothers : ∀ k u, (P.threads.set i ⟨r, next (env.handler c P.shared).1⟩)[k]? = some u →
      k ≠ i → Shape service u := by
    intro k u hk hki
    rcases Pool.getElem?_set ht hk with ⟨rfl, -⟩ | ⟨-, hk⟩
    · exact absurd rfl hki
    · exact hP.outside k u hk fun h => hki (Option.some.inj h).symm
  rcases hin with ⟨rfl, hnext⟩ | ⟨hacq, hrel, hnext⟩
  · obtain ⟨result, hresult⟩ := hnext (env.handler .releaseLock P.shared).1
    refine ⟨rfl, fun k u hk _ => ?_, fun k hk => nomatch hk⟩
    by_cases hki : k = i
    · subst hki
      rcases Pool.getElem?_set ht hk with ⟨-, rfl⟩ | ⟨hne, -⟩
      · exact .finished result hresult
      · exact absurd rfl hne
    · exact hothers k u hk hki
  · rw [nextHolder_call hacq hrel]
    refine ⟨(handler_locked hacq hrel _).trans hP.locked,
      fun k u hk hne => hothers k u hk fun h => hne (h ▸ rfl), fun k hk => ?_⟩
    cases hk
    obtain ⟨hlt, -⟩ := List.getElem?_eq_some_iff.mp ht
    exact ⟨_, List.getElem?_set_self hlt, hm, hnext _, hpromise.own P i r c next ht hmeets hpr⟩

/-- A mutation enters the lock when it is free, and is refused when it is not. -/
theorem Serialized.acquire (hpromise : Promise env service meets promise)
    (hP : Serialized service promise P holder) {i : ℕ} {r : ControlRequest}
    {next : Except PyException Bool → Daemon ControlResponse}
    (hm : r.operation.mutates = true) (ht : P.threads[i]? = some ⟨r, .ask .acquireLock next⟩)
    (hnext : next = fun reply => (Program.done reply : Daemon Bool).bind fun acquired =>
      if !acquired then pure (ControlService.operationInProgress r.requestId)
      else (service.dispatchUnlocked r).finally_ (call .releaseLock)) :
    Serialized service promise
      ⟨(env.handler .acquireLock P.shared).2,
        P.threads.set i ⟨r, next (env.handler .acquireLock P.shared).1⟩⟩
      (nextHolder holder (.call i .acquireLock (env.handler .acquireLock P.shared).1)) := by
  cases holder with
  | some k =>
    have hheld : P.shared.operationLocked = true := hP.locked
    have hs : (env.handler .acquireLock P.shared).2 = P.shared := by
      obtain ⟨shared, threads⟩ := P
      obtain ⟨⟩ := shared
      cases hheld
      rfl
    have hreply : (env.handler .acquireLock P.shared).1 = .ok false := by
      simp [Environment.handler, hheld]
    have hki : (some k : Option ℕ) ≠ some i := by
      rintro hk
      obtain ⟨t, ht', -, hin, -⟩ := hP.inside k rfl
      obtain rfl : k = i := Option.some.inj hk
      obtain rfl := Option.some.inj (ht'.symm.trans ht)
      rcases hin with ⟨hc, -⟩ | ⟨hc, -⟩
      · cases hc
      · exact hc rfl
    rw [hs, hreply, hnext]
    exact hP.call_outside hki ht rfl (.finished _ rfl) fun _ h => h
  | none =>
    have hfree : P.shared.operationLocked = false := hP.locked
    have hreply : (env.handler .acquireLock P.shared).1 = .ok true := by
      simp [Environment.handler, hfree]
    rw [hreply, hnext]
    refine ⟨rfl, fun k u hk hki => ?_, fun k hk => ?_⟩
    · rcases Pool.getElem?_set ht hk with ⟨rfl, -⟩ | ⟨-, hk⟩
      · exact absurd rfl hki
      · exact hP.outside k u hk fun h => by cases h
    · cases hk
      obtain ⟨hlt, -⟩ := List.getElem?_eq_some_iff.mp ht
      exact ⟨_, List.getElem?_set_self hlt, hm, dispatchUnlocked_inside service r,
        hpromise.enter r P.shared hm⟩

/-- **Every step keeps the lock discipline.** -/
theorem Serialized.step (hpromise : Promise env service meets promise)
    (hP : Serialized service promise P holder) (hmeets : meets P e)
    (hstep : Pool.Step env.handler service.dispatch P e P') :
    Serialized service promise P' (nextHolder holder e) := by
  cases hstep with
  | start request => exact hP.start request
  | call i r c next hi =>
    by_cases hholder : holder = some i
    · exact hP.call_inside hpromise hholder hi hmeets
    · cases hP.outside i _ hi hholder with
      | reader hreads huses =>
        obtain ⟨hacq, hrel⟩ := reader_calls huses.1
        rw [nextHolder_call hacq hrel]
        exact hP.call_outside hholder hi (handler_locked hacq hrel _)
          (.reader hreads (huses.2 _))
          fun t ht => hpromise.other P i r c next t hi hreads huses.1 hmeets ht
      | waiting hmutates hprogram =>
        have hask : (.ask c next : Daemon ControlResponse) = service.dispatch r := hprogram
        rw [dispatch_mutation service hmutates] at hask
        obtain ⟨rfl, hnext⟩ := Program.ask.inj hask
        exact hP.acquire hpromise hmutates hi (eq_of_heq hnext)
      | finished result hprogram => cases hprogram

/-- **A release leaves what was promised**: the thread inside the lock is done, and nobody is
inside. -/
theorem Serialized.released (hpromise : Promise env service meets promise)
    (hP : Serialized service promise P holder) {i : ℕ} {reply : Except PyException Unit}
    (hmeets : meets P (.call i .releaseLock reply))
    (hstep : Pool.Step env.handler service.dispatch P (.call i .releaseLock reply) P') :
    Serialized service promise P' none ∧
      ∃ t result, P'.threads[i]? = some t ∧ t.program = .done result ∧ promise t P'.shared := by
  have hnext := hP.step hpromise hmeets hstep
  refine ⟨hnext, ?_⟩
  cases hstep with
  | call i r c next hi =>
    by_cases hholder : holder = some i
    · subst hholder
      obtain ⟨t, ht', -, hin, hpr⟩ := hP.inside i rfl
      obtain rfl := Option.some.inj (ht'.symm.trans hi)
      rcases hin with ⟨-, hdone⟩ | ⟨-, hc, -⟩
      · obtain ⟨result, hresult⟩ := hdone (env.handler .releaseLock P.shared).1
        obtain ⟨hlt, -⟩ := List.getElem?_eq_some_iff.mp hi
        exact ⟨_, result, List.getElem?_set_self hlt, hresult,
          hpromise.own P i r _ next hi hmeets hpr⟩
      · exact absurd rfl hc
    · cases hP.outside i _ hi hholder with
      | reader hreads huses => exact absurd rfl (reader_calls huses.1).2
      | waiting hmutates hprogram =>
        have hask : (.ask .releaseLock next : Daemon ControlResponse) = service.dispatch r := hprogram
        rw [dispatch_mutation service hmutates] at hask
        exact absurd (Program.ask.inj hask).1 nofun
      | finished result hprogram => cases hprogram

/-- A service that no request has reached. -/
theorem serialized_fresh {s : ServiceState σ ρ τ} (hs : s.operationLocked = false) :
    Serialized service promise ⟨s, []⟩ none where
  locked := hs
  outside k t hk := by simp at hk
  inside k hk := nomatch hk

/-- In every run from there the lock discipline holds. -/
theorem serialized_run (hpromise : Promise env service meets promise) {s : ServiceState σ ρ τ}
    (hs : s.operationLocked = false) {events : List WorkerEvent}
    (run : env.Interleaving service meets ⟨s, []⟩ events P) :
    ∃ holder, Serialized service promise P holder := by
  refine run.invariant (K := fun _ P => ∃ holder, Serialized service promise P holder)
    ⟨none, serialized_fresh hs⟩ ?_
  rintro events Q e Q' hmeets hstep ⟨holder, hQ⟩
  exact ⟨_, hQ.step hpromise hmeets hstep⟩

end Step

end Snarkypuss
