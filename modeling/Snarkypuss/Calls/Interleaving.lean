import Snarkypuss.Calls.Logic

/-!
# Interleaved programs

Requests served concurrently: a pool of threads over one shared state. A step starts a thread or
makes one call of one thread, so every interleaving of the calls is a run.

A program in a pool is reasoned about by rely and guarantee: between two of its calls the others
may move the shared state by any relation they keep to. A lock is kept to by programs that
acquire it first and release it with their last call.

## Main definitions

* `Pool`, `Event`, `Pool.Step`, `Pool.Run`: pools of threads and their runs
* `Pool.schedule`: the run that a scheduler makes, computed
* `Program.Guarantees h rely ok Q`: the result and the state a program ends with obey `Q`, while
  the others keep to `rely` and its own calls meet `ok`
* `Program.Inside acquire release`: a program in its critical section

## Main results

* `Pool.Run.invariant`: what each step keeps, a run keeps
* `Pool.run_schedule`: what a scheduler makes is a run
* `Program.Guarantees.bind`, `Program.Guarantees.attempt`: the rules of the judgement
* `Program.inside_finally_`: a body that leaves the lock alone, with its release at the end
-/

namespace Snarkypuss

variable {I : Interface} {E A B S R X : Type}

/-- A thread: the request it serves, and what is left of its program. -/
structure Thread (R : Type) (I : Interface) (E A : Type) where
  request : R
  program : Program I E A

/-- A pool: the shared state and the threads, in the order they started. -/
structure Pool (R : Type) (I : Interface) (E S A : Type) where
  shared : S
  threads : List (Thread R I E A)

/-- What a step does: a request is received, or a thread makes a call and is answered. -/
inductive Event (R : Type) (I : Interface) (E : Type)
  | start (r : R)
  | call (i : ℕ) (c : I.Call) (reply : Except E (I.Reply c))

namespace Pool

variable (h : Handler I E S) (serve : R → Program I E A)

/-- One step of a pool. -/
inductive Step : Pool R I E S A → Event R I E → Pool R I E S A → Prop
  | start (P : Pool R I E S A) (r : R) :
    Step P (.start r) { P with threads := P.threads ++ [⟨r, serve r⟩] }
  | call (P : Pool R I E S A) (i : ℕ) (r : R) (c : I.Call)
    (next : Except E (I.Reply c) → Program I E A) (hi : P.threads[i]? = some ⟨r, .ask c next⟩) :
    Step P (.call i c (h c P.shared).1)
      ⟨(h c P.shared).2, P.threads.set i ⟨r, next (h c P.shared).1⟩⟩

/-- The runs of a pool whose steps meet a condition, with their events in order. -/
inductive Run (meets : Pool R I E S A → Event R I E → Prop) (P : Pool R I E S A) :
    List (Event R I E) → Pool R I E S A → Prop
  | refl : Run meets P [] P
  | step {events Q e Q'} (run : Run meets P events Q) (hmeets : meets Q e)
    (hstep : Step h serve Q e Q') : Run meets P (events ++ [e]) Q'

variable {h serve} {meets : Pool R I E S A → Event R I E → Prop} {P Q : Pool R I E S A}
  {events : List (Event R I E)}

/-- What each step keeps, a run keeps. -/
theorem Run.invariant {K : List (Event R I E) → Pool R I E S A → Prop}
    (run : Run h serve meets P events Q) (h₀ : K [] P)
    (hstep : ∀ events Q e Q', meets Q e → Step h serve Q e Q' → K events Q → K (events ++ [e]) Q') :
    K events Q := by
  induction run with
  | refl => exact h₀
  | step run hmeets hQ ih => exact hstep _ _ _ _ hmeets hQ ih

/-- A run with one more step before it. -/
theorem Run.head {e : Event R I E} {P' : Pool R I E S A} (hmeets : meets P e)
    (hstep : Step h serve P e P') (run : Run h serve meets P' events Q) :
    Run h serve meets P (e :: events) Q := by
  induction run with
  | refl => exact .step .refl hmeets hstep
  | step run hmeets' hstep' ih => exact .step ih hmeets' hstep'

/-- A thread after a call of thread `i`: thread `i` has moved on, the others have not. -/
theorem getElem?_set {ts : List (Thread R I E A)} {i k : ℕ} {t t' u : Thread R I E A}
    (hi : ts[i]? = some u) (hk : (ts.set i t)[k]? = some t') :
    (k = i ∧ t' = t) ∨ (k ≠ i ∧ ts[k]? = some t') := by
  by_cases hki : k = i
  · subst hki
    obtain ⟨hlt, -⟩ := List.getElem?_eq_some_iff.mp hi
    rw [List.getElem?_set_self hlt] at hk
    exact .inl ⟨rfl, (Option.some.inj hk).symm⟩
  · rw [List.getElem?_set_ne (Ne.symm hki)] at hk
    exact .inr ⟨hki, hk⟩

/-- A thread after a start: the new one is last. -/
theorem getElem?_append_singleton {ts : List (Thread R I E A)} {k : ℕ} {t t' : Thread R I E A}
    (hk : (ts ++ [t])[k]? = some t') :
    (k = ts.length ∧ t' = t) ∨ ts[k]? = some t' := by
  rcases Nat.lt_or_ge k ts.length with hlt | hge
  · rw [List.getElem?_append_left hlt] at hk
    exact .inr hk
  · rw [List.getElem?_append_right hge] at hk
    obtain ⟨hlt, heq⟩ := List.getElem?_eq_some_iff.mp hk
    have : k = ts.length := by simp at hlt; omega
    subst this
    exact .inl ⟨rfl, by simpa using heq.symm⟩

/-! ### Schedules -/

/-- What a scheduler chooses: a request to receive, or a thread whose next call is made. -/
inductive Choice (R : Type)
  | start (r : R)
  | call (i : ℕ)

variable (h serve) in
/-- The step that a choice makes. -/
def choose (P : Pool R I E S A) : Choice R → Option (Event R I E × Pool R I E S A)
  | .start r => some (.start r, { P with threads := P.threads ++ [⟨r, serve r⟩] })
  | .call i =>
    match P.threads[i]? with
    | some ⟨r, .ask c next⟩ =>
      some (.call i c (h c P.shared).1,
        ⟨(h c P.shared).2, P.threads.set i ⟨r, next (h c P.shared).1⟩⟩)
    | _ => none

variable (h serve) in
/-- The run that the choices of a scheduler make. -/
def schedule (P : Pool R I E S A) : List (Choice R) → Option (List (Event R I E) × Pool R I E S A)
  | [] => some ([], P)
  | choice :: choices => do
    let (e, P') ← choose h serve P choice
    let (events, Q) ← schedule P' choices
    pure (e :: events, Q)

/-- The step of a choice is a step. -/
theorem step_choose {choice : Choice R} {e : Event R I E} {P' : Pool R I E S A}
    (hchoose : choose h serve P choice = some (e, P')) : Step h serve P e P' := by
  cases choice with
  | start r =>
    cases hchoose
    exact .start P r
  | call i =>
    simp only [choose] at hchoose
    split at hchoose
    · rename_i r c next hi
      cases hchoose
      exact .call P i r c next hi
    · cases hchoose

/-- The run of a schedule is a run, whatever its steps are asked to meet that its events do. -/
theorem run_schedule {choices : List (Choice R)}
    (hschedule : schedule h serve P choices = some (events, Q))
    (hmeets : ∀ P', ∀ e ∈ events, meets P' e) : Run h serve meets P events Q := by
  induction choices generalizing P events with
  | nil =>
    cases hschedule
    exact .refl
  | cons choice choices ih =>
    simp only [schedule, Option.bind_eq_bind, Option.bind_eq_some_iff] at hschedule
    obtain ⟨⟨e, P'⟩, hchoose, ⟨rest, Q'⟩, hrest, heq⟩ := hschedule
    cases heq
    refine .head (hmeets _ _ List.mem_cons_self) (step_choose hchoose) (ih hrest ?_)
    exact fun P'' e he => hmeets P'' e (List.mem_cons_of_mem _ he)

end Pool

/-! ## Rely and guarantee -/

namespace Program

/-- However the others move the state within `rely` between the calls of a program, and as long
as its own calls meet `ok`, what it ends with obeys `Q`. -/
def Guarantees (h : Handler I E S) (rely : S → S → Prop) (ok : I.Call → S → Prop)
    (Q : Except E A → S → Prop) : Program I E A → S → Prop
  | done r, s => ∀ s', rely s s' → Q r s'
  | ask c next, s => ∀ s', rely s s' → ok c s' →
      (next (h c s').1).Guarantees h rely ok Q (h c s').2

section Guarantees

variable {h : Handler I E S} {rely : S → S → Prop} {ok : I.Call → S → Prop}
  {Q : Except E A → S → Prop} {p : Program I E A} {s s' : S}

theorem Guarantees.stable (htrans : ∀ a b c, rely a b → rely b c → rely a c)
    (hp : p.Guarantees h rely ok Q s) (hs : rely s s') : p.Guarantees h rely ok Q s' := by
  cases p with
  | done r => exact fun t ht => hp t (htrans _ _ _ hs ht)
  | ask c next => exact fun t ht => hp t (htrans _ _ _ hs ht)

theorem Guarantees.step (hrefl : ∀ a, rely a a) {c : I.Call}
    {next : Except E (I.Reply c) → Program I E A}
    (hp : (ask c next).Guarantees h rely ok Q s) (hok : ok c s) :
    (next (h c s).1).Guarantees h rely ok Q (h c s).2 := hp s (hrefl s) hok

theorem guarantees_call {c : I.Call} {Q : Except E (I.Reply c) → S → Prop}
    (hc : ∀ s', rely s s' → ok c s' → ∀ s'', rely (h c s').2 s'' → Q (h c s').1 s'') :
    (call c).Guarantees h rely ok Q s := hc

/-- Nothing is asked of a program of whose end nothing is asked. -/
theorem guarantees_trivial (p : Program I E A) (s : S) (hQ : ∀ r t, Q r t) :
    p.Guarantees h rely ok Q s := by
  induction p generalizing s with
  | done r => exact fun t _ => hQ r t
  | ask c next ih => exact fun t _ _ => ih _ _

/-- The rule of sequencing. -/
theorem Guarantees.bind (hrefl : ∀ a, rely a a) {f : A → Program I E B}
    {Q' : Except E B → S → Prop} (hp : p.Guarantees h rely ok Q s)
    (hf : ∀ a t, Q (.ok a) t → (f a).Guarantees h rely ok Q' t)
    (he : ∀ e t, Q (.error e) t → Q' (.error e) t) : (p.bind f).Guarantees h rely ok Q' s := by
  induction p generalizing s with
  | done r =>
    cases r with
    | ok a => exact hf a s (hp s (hrefl s))
    | error e => exact fun t ht => he e t (hp t ht)
  | ask c next ih => exact fun t ht hok => ih _ (hp t ht hok)

/-- The rule of a handler clause. -/
theorem Guarantees.attempt {caught : E → Option X} {K : Except E (Except X A) → S → Prop}
    (hp : p.Guarantees h rely ok (fun r => K (reify caught r)) s) :
    (p.attempt caught).Guarantees h rely ok K s := by
  induction p generalizing s with
  | done r =>
    cases r with
    | ok a => exact hp
    | error e =>
      simp only [Guarantees, reify] at hp
      simp only [Program.attempt]
      cases hc : caught e <;> simpa [Guarantees, hc] using hp
  | ask c next ih => exact fun t ht hok => ih _ (hp t ht hok)

theorem Guarantees.mono {Q' : Except E A → S → Prop} (hp : p.Guarantees h rely ok Q s)
    (hQ : ∀ r t, Q r t → Q' r t) : p.Guarantees h rely ok Q' s := by
  induction p generalizing s with
  | done r => exact fun t ht => hQ r t (hp t ht)
  | ask c next ih => exact fun t ht hok => ih _ (hp t ht hok)

end Guarantees

/-! ## Critical sections -/

/-- A program in its critical section: its last call is the release, and it calls neither
`acquire` nor `release` before. -/
def Inside (acquire release : I.Call) : Program I E A → Prop
  | done _ => False
  | ask c next =>
    (c = release ∧ ∀ r, ∃ result, next r = done result) ∨
      (c ≠ acquire ∧ c ≠ release ∧ ∀ r, (next r).Inside acquire release)

/-- A body that leaves the lock alone, with the release behind it, is in its critical section. -/
theorem inside_finally_ {acquire release : I.Call} {p : Program I E A}
    {cleanup : Program I E Unit} (hp : p.Uses fun c => c ≠ acquire ∧ c ≠ release)
    {next : Except E (I.Reply release) → Program I E Unit} (hc : cleanup = ask release next)
    (hnext : ∀ r, ∃ result, next r = done result) :
    (p.finally_ cleanup).Inside acquire release := by
  have hlast : ∀ r : Except E A,
      (cleanup.bind fun _ => (done r : Program I E A)).Inside acquire release := by
    intro r
    subst hc
    refine .inl ⟨rfl, fun reply => ?_⟩
    obtain ⟨result, hresult⟩ := hnext reply
    simp only [hresult]
    cases result with
    | ok a => exact ⟨r, rfl⟩
    | error e => exact ⟨.error e, rfl⟩
  induction p with
  | done r => cases r <;> exact hlast _
  | ask c next ih =>
    exact .inr ⟨hp.1.1, hp.1.2, fun r => ih r (hp.2 r)⟩

end Program

end Snarkypuss
