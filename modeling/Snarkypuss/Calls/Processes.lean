import Snarkypuss.Calls.Logic

/-!
# Processes that may stop

Programs run by processes that share a state. A call may be answered in several ways, a process
may be stopped between two of its calls, and the system chooses what is started.

A process is annotated with a phase. A protocol says which calls its program may make in a phase
and which phases an answer leads to; an outline says what each phase asserts of the shared state.
When every assertion is kept by the calls of its own process and by those of the others, the
assertions hold in every state of every run.

## Main definitions

* `System`, `Machine`, `System.Step`, `System.Run`: processes over a shared state, and their runs
* `Protocol`, `Program.Follows`: programs that keep to a protocol
* `Outline`, `Outline.Valid`: the phases of the processes, and what they assert
* `Outline.Holds`, `Outline.Advances`: what holds between two steps, and how a step moves phases

## Main results

* `Program.Follows.bind`, `Program.Follows.attempt`: the rules of the judgement
* `Outline.Valid.step`: every step keeps the outline
* `Outline.Valid.run`: what the outline and each step keep, a run keeps
* `System.run_started`: an execution of a program is a run of its process
-/

namespace Snarkypuss

variable {I : Interface} {E A B S R X Φ : Type}

/-! ## Runs -/

/-- A process: what it was started for, what is left of its program, and whether it was stopped. -/
structure Process (R : Type) (I : Interface) (E A : Type) where
  request : R
  program : Program I E A
  stopped : Bool

/-- A process that has yet to make a call. -/
def Process.Running (p : Process R I E A) : Prop :=
  p.stopped = false ∧ ∃ c next, p.program = .ask c next

/-- The shared state and the processes, in the order they started. -/
structure Machine (R : Type) (I : Interface) (E S A : Type) where
  shared : S
  processes : List (Process R I E A)

/-- What a step does. -/
inductive Happening (R : Type) (I : Interface) (E : Type)
  | start (r : R)
  | call (i : ℕ) (c : I.Call) (reply : Except E (I.Reply c))
  | stop (i : ℕ)

/-- What processes run on: the programs, what may be started, how calls may be answered, and what
is released when a process stops. -/
structure System (R : Type) (I : Interface) (E S A : Type) where
  program : R → Program I E A
  starts : Machine R I E S A → R → S → Prop
  answers : ℕ → (c : I.Call) → S → Except E (I.Reply c) → S → Prop
  releases : ℕ → S → S

namespace System

variable (sys : System R I E S A)

/-- One step. -/
inductive Step : Machine R I E S A → Happening R I E → Machine R I E S A → Prop
  | start (M : Machine R I E S A) (r : R) (s' : S) (hstarts : sys.starts M r s') :
    Step M (.start r) ⟨s', M.processes ++ [⟨r, sys.program r, false⟩]⟩
  | call (M : Machine R I E S A) (i : ℕ) (r : R) (c : I.Call)
    (next : Except E (I.Reply c) → Program I E A) (reply : Except E (I.Reply c)) (s' : S)
    (hi : M.processes[i]? = some ⟨r, .ask c next, false⟩)
    (hanswers : sys.answers i c M.shared reply s') :
    Step M (.call i c reply) ⟨s', M.processes.set i ⟨r, next reply, false⟩⟩
  | stop (M : Machine R I E S A) (i : ℕ) (r : R) (c : I.Call)
    (next : Except E (I.Reply c) → Program I E A)
    (hi : M.processes[i]? = some ⟨r, .ask c next, false⟩) :
    Step M (.stop i) ⟨sys.releases i M.shared, M.processes.set i ⟨r, .ask c next, true⟩⟩

/-- The runs whose steps meet a condition, with what happened in order. -/
inductive Run (meets : Machine R I E S A → Happening R I E → Machine R I E S A → Prop)
    (M : Machine R I E S A) : List (Happening R I E) → Machine R I E S A → Prop
  | refl : Run meets M [] M
  | step {events N e N'} (run : Run meets M events N) (hmeets : meets N e N')
    (hstep : sys.Step N e N') : Run meets M (events ++ [e]) N'

variable {sys} {meets : Machine R I E S A → Happening R I E → Machine R I E S A → Prop}
  {M N N' : Machine R I E S A} {events events' : List (Happening R I E)}

/-- A run under another condition, when its steps meet it. -/
theorem Run.weaken {meets' : Machine R I E S A → Happening R I E → Machine R I E S A → Prop}
    (run : Run sys meets M events N)
    (hmeets : ∀ events₁ e N N', Run sys meets M events₁ N → (∀ e' ∈ events₁ ++ [e], e' ∈ events) →
      meets N e N' → meets' N e N') : Run sys meets' M events N := by
  induction run with
  | refl => exact .refl
  | step run hmeets' hstep ih =>
    refine (ih ?_).step (hmeets _ _ _ _ run (fun _ he => he) hmeets') hstep
    intro events₁ e N N' run₁ hevents
    exact hmeets events₁ e N N' run₁ fun e' he' => List.mem_append_left _ (hevents e' he')

/-- Every process was there from the beginning, or was started. -/
theorem Run.started (run : Run sys meets M events N) {p : Process R I E A} (hp : p ∈ N.processes) :
    (∃ q ∈ M.processes, q.request = p.request) ∨ .start p.request ∈ events := by
  induction run generalizing p with
  | refl => exact .inl ⟨p, hp, rfl⟩
  | @step events N e N' run hmeets hstep ih =>
    have hbefore : ∀ {p : Process R I E A}, p ∈ N.processes →
        (∃ q ∈ M.processes, q.request = p.request) ∨ .start p.request ∈ events ++ [e] :=
      fun hp => (ih hp).imp_right (List.mem_append_left _)
    cases hstep with
    | start r s' hstarts =>
      rcases List.mem_append.mp hp with hp | hp
      · exact hbefore hp
      · obtain rfl := List.mem_singleton.mp hp
        exact .inr (List.mem_append_right _ (List.mem_singleton.mpr rfl))
    | call i r c next reply s' hi hanswers =>
      rcases List.mem_or_eq_of_mem_set hp with hp | rfl
      · exact hbefore hp
      · exact hbefore (p := ⟨r, .ask c next, false⟩) (List.mem_of_getElem? hi)
    | stop i r c next hi =>
      rcases List.mem_or_eq_of_mem_set hp with hp | rfl
      · exact hbefore hp
      · exact hbefore (p := ⟨r, .ask c next, false⟩) (List.mem_of_getElem? hi)

/-- A process goes on serving its request. -/
theorem Step.kept {e : Happening R I E} (hstep : Step sys M e N) {k : ℕ} {p : Process R I E A}
    (hk : M.processes[k]? = some p) : ∃ q, N.processes[k]? = some q ∧ q.request = p.request := by
  obtain ⟨hlt, -⟩ := List.getElem?_eq_some_iff.mp hk
  cases hstep with
  | start r s' hstarts => exact ⟨p, by rw [List.getElem?_append_left hlt, hk], rfl⟩
  | call i r c next reply s' hi hanswers =>
    by_cases hki : k = i
    · subst hki
      obtain rfl : p = _ := Option.some.inj (hk.symm.trans hi)
      exact ⟨_, List.getElem?_set_self hlt, rfl⟩
    · exact ⟨p, by rw [List.getElem?_set_ne (Ne.symm hki), hk], rfl⟩
  | stop i r c next hi =>
    by_cases hki : k = i
    · subst hki
      obtain rfl : p = _ := Option.some.inj (hk.symm.trans hi)
      exact ⟨_, List.getElem?_set_self hlt, rfl⟩
    · exact ⟨p, by rw [List.getElem?_set_ne (Ne.symm hki), hk], rfl⟩

/-- A process that has ended stays as it is. -/
theorem Step.ended {e : Happening R I E} (hstep : Step sys M e N) {k : ℕ} {r : R}
    {result : Except E A} {b : Bool} (hk : M.processes[k]? = some ⟨r, .done result, b⟩) :
    N.processes[k]? = some ⟨r, .done result, b⟩ := by
  obtain ⟨hlt, -⟩ := List.getElem?_eq_some_iff.mp hk
  have hne : ∀ {i : ℕ} {r' : R} {c : I.Call} {next : Except E (I.Reply c) → Program I E A},
      M.processes[i]? = some ⟨r', .ask c next, false⟩ → i ≠ k := by
    rintro i r' c next hi rfl
    cases hk.symm.trans hi
  cases hstep with
  | start r s' hstarts => rw [List.getElem?_append_left hlt, hk]
  | call i r c next reply s' hi hanswers => rw [List.getElem?_set_ne (hne hi), hk]
  | stop i r c next hi => rw [List.getElem?_set_ne (hne hi), hk]

theorem Run.ended (run : Run sys meets M events N) {k : ℕ} {r : R} {result : Except E A} {b : Bool}
    (hk : M.processes[k]? = some ⟨r, .done result, b⟩) :
    N.processes[k]? = some ⟨r, .done result, b⟩ := by
  induction run with
  | refl => exact hk
  | step run hmeets hstep ih => exact hstep.ended ih

theorem Run.kept (run : Run sys meets M events N) {k : ℕ} {p : Process R I E A}
    (hk : M.processes[k]? = some p) : ∃ q, N.processes[k]? = some q ∧ q.request = p.request := by
  induction run with
  | refl => exact ⟨p, hk, rfl⟩
  | step run hmeets hstep ih =>
    obtain ⟨q, hq, hrequest⟩ := ih
    obtain ⟨q', hq', hrequest'⟩ := hstep.kept hq
    exact ⟨q', hq', hrequest'.trans hrequest⟩

/-- A run before and after one of its steps. -/
theorem Run.split (run : Run sys meets M events N) {e : Happening R I E} (he : e ∈ events) :
    ∃ events₁ events₂ N₁ N₂, Run sys meets M events₁ N₁ ∧ Step sys N₁ e N₂ ∧
      Run sys meets N₂ events₂ N := by
  induction run with
  | refl => cases he
  | step run hmeets hstep ih =>
    rcases List.mem_append.mp he with he | he
    · obtain ⟨events₁, events₂, N₁, N₂, run₁, hstep₁, run₂⟩ := ih he
      exact ⟨events₁, _, N₁, N₂, run₁, hstep₁, run₂.step hmeets hstep⟩
    · obtain rfl := List.mem_singleton.mp he
      exact ⟨_, [], _, _, run, hstep, .refl⟩

/-- A run goes on from where another ended. -/
theorem Run.append (run : Run sys meets M events N) (run' : Run sys meets N events' N') :
    Run sys meets M (events ++ events') N' := by
  induction run' with
  | refl =>
    rw [List.append_nil]
    exact run
  | step run' hmeets hstep ih =>
    rw [← List.append_assoc]
    exact ih.step hmeets hstep

end System

theorem mem_concat {X : Type} {xs : List X} {x y : X} (hx : x ∈ xs ++ [y]) : x ∈ xs ∨ x = y := by
  rcases List.mem_append.mp hx with hx | hx
  · exact .inl hx
  · exact .inr (List.mem_singleton.mp hx)

/-! ### The list of processes -/

section Lists

variable {ps : List (Process R I E A)} {i k : ℕ} {p p' q : Process R I E A}

/-- The processes after one of them has moved on. -/
theorem processes_set (hi : ps[i]? = some p) (hk : (ps.set i p')[k]? = some q) :
    (k = i ∧ q = p') ∨ (k ≠ i ∧ ps[k]? = some q) := by
  by_cases hki : k = i
  · subst hki
    obtain ⟨hlt, -⟩ := List.getElem?_eq_some_iff.mp hi
    rw [List.getElem?_set_self hlt] at hk
    exact .inl ⟨rfl, (Option.some.inj hk).symm⟩
  · rw [List.getElem?_set_ne (Ne.symm hki)] at hk
    exact .inr ⟨hki, hk⟩

/-- A process that moves on still serves its request. -/
theorem request_set (hi : ps[i]? = some p) (hrequest : p.request = p'.request)
    (hk : (ps.set i p')[k]? = some q) : ∃ q', ps[k]? = some q' ∧ q'.request = q.request := by
  rcases processes_set hi hk with ⟨rfl, rfl⟩ | ⟨-, hk⟩
  · exact ⟨p, hi, hrequest⟩
  · exact ⟨q, hk, rfl⟩

/-- The processes after another was started. -/
theorem processes_append (hk : (ps ++ [p])[k]? = some q) :
    (k = ps.length ∧ q = p) ∨ (k ≠ ps.length ∧ ps[k]? = some q) := by
  rcases Nat.lt_or_ge k ps.length with hlt | hge
  · rw [List.getElem?_append_left hlt] at hk
    exact .inr ⟨Nat.ne_of_lt hlt, hk⟩
  · rw [List.getElem?_append_right hge] at hk
    obtain ⟨hlt, heq⟩ := List.getElem?_eq_some_iff.mp hk
    have hlen : k = ps.length := by
      simp only [List.length_singleton] at hlt
      omega
    subst hlen
    exact .inl ⟨rfl, by simpa using heq.symm⟩

theorem processes_lt (hk : ps[k]? = some q) : k ≠ ps.length := by
  obtain ⟨hlt, -⟩ := List.getElem?_eq_some_iff.mp hk
  exact Nat.ne_of_lt hlt

theorem getElem?_set_self_of (hi : ps[i]? = some p) : (ps.set i p')[i]? = some p' := by
  obtain ⟨hlt, -⟩ := List.getElem?_eq_some_iff.mp hi
  exact List.getElem?_set_self hlt

theorem set_self_of (hi : ps[i]? = some p) : ps.set i p = ps := by
  obtain ⟨hlt, rfl⟩ := List.getElem?_eq_some_iff.mp hi
  exact List.set_getElem_self hlt

end Lists

namespace System.Step

variable {sys : System R I E S A} {M N : Machine R I E S A} {e : Happening R I E} {i k : ℕ}
  {p : Process R I E A}

/-- A process after a step: the one that was started, or one that was there and serves the same
request. -/
theorem before (hstep : sys.Step M e N) (hk : N.processes[k]? = some p) :
    (k = M.processes.length ∧ ∃ r, e = .start r ∧ p = ⟨r, sys.program r, false⟩) ∨
      ∃ q, M.processes[k]? = some q ∧ q.request = p.request ∧
        (p.stopped = true → q.stopped = true ∨ e = .stop k) := by
  cases hstep with
  | start r s' hstarts =>
    rcases processes_append hk with ⟨rfl, rfl⟩ | ⟨-, hk⟩
    · exact .inl ⟨rfl, r, rfl, rfl⟩
    · exact .inr ⟨p, hk, rfl, .inl⟩
  | call i r c next reply s' hi hanswers =>
    rcases processes_set hi hk with ⟨rfl, rfl⟩ | ⟨-, hk⟩
    · exact .inr ⟨_, hi, rfl, nofun⟩
    · exact .inr ⟨p, hk, rfl, .inl⟩
  | stop i r c next hi =>
    rcases processes_set hi hk with ⟨rfl, rfl⟩ | ⟨-, hk⟩
    · exact .inr ⟨_, hi, rfl, fun _ => .inr rfl⟩
    · exact .inr ⟨p, hk, rfl, .inl⟩

theorem length_le (hstep : sys.Step M e N) : M.processes.length ≤ N.processes.length := by
  cases hstep with
  | start r s' hstarts => simp
  | call i r c next reply s' hi hanswers => simp
  | stop i r c next hi => simp

/-- The process that makes a call was there before. -/
theorem caller_lt {c : I.Call} {reply : Except E (I.Reply c)}
    (hstep : sys.Step M (.call i c reply) N) : i < M.processes.length := by
  cases hstep with
  | call i r c next reply s' hi hanswers => exact (List.getElem?_eq_some_iff.mp hi).1

end System.Step

/-! ### Executions as runs -/

/-- The answers that a handler gives to the calls of a program are among those of the system. -/
def Program.Granted (sys : System R I E S A) (h : Handler I E S) (i : ℕ) : Program I E B → S → Prop
  | done _, _ => True
  | ask c next, s => sys.answers i c s (h c s).1 (h c s).2 ∧
      (next (h c s).1).Granted sys h i (h c s).2

section Granted

variable {sys : System R I E S A} {h : Handler I E S} {i : ℕ} {s : S}

theorem Program.granted_bind {p : Program I E B} {f : B → Program I E X} :
    (p.bind f).Granted sys h i s ↔ p.Granted sys h i s ∧
      ∀ b, (p.exec h s).result = .ok b → (f b).Granted sys h i (p.exec h s).state := by
  induction p generalizing s with
  | done r =>
    cases r with
    | ok b => exact ⟨fun hf => ⟨trivial, fun b' hb' => Except.ok.inj hb' ▸ hf⟩, fun hf => hf.2 b rfl⟩
    | error e => exact ⟨fun _ => ⟨trivial, nofun⟩, fun _ => trivial⟩
  | ask c next ih => exact ⟨fun ⟨hc, hn⟩ => ⟨⟨hc, (ih _).mp hn |>.1⟩, (ih _).mp hn |>.2⟩,
      fun ⟨⟨hc, hn⟩, hf⟩ => ⟨hc, (ih _).mpr ⟨hn, hf⟩⟩⟩

theorem Program.granted_attempt {caught : E → Option X} {p : Program I E B}
    (hp : p.Granted sys h i s) : (p.attempt caught).Granted sys h i s := by
  induction p generalizing s with
  | done r =>
    cases r with
    | ok b => trivial
    | error e =>
      simp only [Program.attempt]
      split <;> trivial
  | ask c next ih => exact ⟨hp.1, ih _ hp.2⟩

/-- A program whose calls are granted whenever they are made. -/
theorem Program.Uses.granted {allowed : I.Call → Prop} {p : Program I E B} (hp : p.Uses allowed)
    (hcalls : ∀ c s, allowed c → sys.answers i c s (h c s).1 (h c s).2) : p.Granted sys h i s := by
  induction p generalizing s with
  | done r => trivial
  | ask c next ih => exact ⟨hcalls c s hp.1, ih _ (hp.2 _)⟩

/-- An execution is a run of its process. -/
theorem System.run_exec {M : Machine R I E S A} {r : R} {p : Program I E A}
    (hi : M.processes[i]? = some ⟨r, p, false⟩) (hgranted : p.Granted sys h i M.shared) :
    sys.Run (fun _ _ _ => True) M ((p.exec h M.shared).exchanges.map fun x => .call i x.call x.reply)
      ⟨(p.exec h M.shared).state, M.processes.set i ⟨r, .done (p.exec h M.shared).result, false⟩⟩ := by
  obtain ⟨s, ps⟩ := M
  induction p generalizing s ps with
  | done result =>
    have hset : ps.set i ⟨r, .done result, false⟩ = ps := set_self_of hi
    rw [Program.exec_done, hset]
    exact .refl
  | ask c next ih =>
    have hstep : sys.Step ⟨s, ps⟩ (.call i c (h c s).1)
        ⟨(h c s).2, ps.set i ⟨r, next (h c s).1, false⟩⟩ :=
      .call ⟨s, ps⟩ i r c _ _ _ hi hgranted.1
    have hrest := ih (h c s).1 (h c s).2 (ps.set i ⟨r, next (h c s).1, false⟩)
      (getElem?_set_self_of hi) hgranted.2
    rw [List.set_set] at hrest
    exact (System.Run.refl.step trivial hstep).append hrest

/-- **An execution from the start of its process to its end is a run.** -/
theorem System.run_started {M : Machine R I E S A} {r : R} {s' : S} (hstarts : sys.starts M r s')
    (hgranted : (sys.program r).Granted sys h M.processes.length s') :
    sys.Run (fun _ _ _ => True) M
      (.start r :: ((sys.program r).exec h s').exchanges.map
        fun x => .call M.processes.length x.call x.reply)
      ⟨((sys.program r).exec h s').state,
        M.processes ++ [⟨r, .done ((sys.program r).exec h s').result, false⟩]⟩ := by
  have hstart : sys.Run (fun _ _ _ => True) M ([] ++ [.start r])
      ⟨s', M.processes ++ [⟨r, sys.program r, false⟩]⟩ :=
    .step .refl trivial (.start M r s' hstarts)
  have hi : (M.processes ++ [⟨r, sys.program r, false⟩])[M.processes.length]? =
      some ⟨r, sys.program r, false⟩ := by simp
  have hrest := run_exec (M := ⟨s', M.processes ++ [⟨r, sys.program r, false⟩]⟩) hi hgranted
  simp only [List.set_append_right _ _ le_rfl, Nat.sub_self, List.set_cons_zero] at hrest
  exact hstart.append hrest

end Granted

/-! ## Protocols -/

/-- Which calls may be made in a phase, and which phases an answer leads to. -/
structure Protocol (I : Interface) (E Φ : Type) where
  may : Φ → I.Call → Prop
  moves : Φ → (c : I.Call) → Except E (I.Reply c) → Φ → Prop

namespace Program

/-- From the phase `φ`, a program keeps to a protocol and ends with a result and a phase in `Q`. -/
def Follows (π : Protocol I E Φ) (Q : Except E A → Φ → Prop) : Program I E A → Φ → Prop
  | done r, φ => Q r φ
  | ask c next, φ => π.may φ c ∧ ∀ r φ', π.moves φ c r φ' → (next r).Follows π Q φ'

section Follows

variable {π : Protocol I E Φ} {Q : Except E A → Φ → Prop} {p : Program I E A} {φ : Φ}

theorem follows_call {c : I.Call} {Q : Except E (I.Reply c) → Φ → Prop} (hmay : π.may φ c)
    (hmoves : ∀ r φ', π.moves φ c r φ' → Q r φ') : (call c).Follows π Q φ := ⟨hmay, hmoves⟩

theorem Follows.mono {Q' : Except E A → Φ → Prop} (hp : p.Follows π Q φ)
    (hQ : ∀ r ψ, Q r ψ → Q' r ψ) : p.Follows π Q' φ := by
  induction p generalizing φ with
  | done r => exact hQ r φ hp
  | ask c next ih => exact ⟨hp.1, fun r φ' hmoves => ih r (hp.2 r φ' hmoves)⟩

/-- The rule of sequencing. -/
theorem Follows.bind {f : A → Program I E B} {Q' : Except E B → Φ → Prop} (hp : p.Follows π Q φ)
    (hf : ∀ a ψ, Q (.ok a) ψ → (f a).Follows π Q' ψ)
    (he : ∀ e ψ, Q (.error e) ψ → Q' (.error e) ψ) : (p.bind f).Follows π Q' φ := by
  induction p generalizing φ with
  | done r =>
    cases r with
    | ok a => exact hf a φ hp
    | error e => exact he e φ hp
  | ask c next ih => exact ⟨hp.1, fun r φ' hmoves => ih r (hp.2 r φ' hmoves)⟩

/-- The rule of a call and what comes after it. -/
theorem follows_call_bind {c : I.Call} {f : I.Reply c → Program I E A} (hmay : π.may φ c)
    (hok : ∀ a ψ, π.moves φ c (.ok a) ψ → (f a).Follows π Q ψ)
    (herror : ∀ e ψ, π.moves φ c (.error e) ψ → Q (.error e) ψ) :
    ((call c).bind f).Follows π Q φ := by
  refine ⟨hmay, fun r ψ hmoves => ?_⟩
  cases r with
  | ok a => exact hok a ψ hmoves
  | error e => exact herror e ψ hmoves

/-- A program whose calls are allowed in a phase that none of them leaves. -/
theorem Uses.follows {allowed : I.Call → Prop} (hp : p.Uses allowed)
    (hmay : ∀ c, allowed c → π.may φ c) (hstays : ∀ c r ψ, allowed c → π.moves φ c r ψ → ψ = φ)
    (hQ : ∀ r, Q r φ) : p.Follows π Q φ := by
  induction p with
  | done r => exact hQ r
  | ask c next ih =>
    refine ⟨hmay c hp.1, fun r ψ hmoves => ?_⟩
    rw [hstays c r ψ hp.1 hmoves]
    exact ih r (hp.2 r)

/-- The rule of a handler clause. -/
theorem Follows.attempt {caught : E → Option X} {Q' : Except E (Except X A) → Φ → Prop}
    (hp : p.Follows π (fun r => Q' (reify caught r)) φ) : (p.attempt caught).Follows π Q' φ := by
  induction p generalizing φ with
  | done r =>
    cases r with
    | ok a => exact hp
    | error e =>
      simp only [Follows, reify] at hp
      simp only [Program.attempt]
      cases hcaught : caught e <;> simpa [Follows, hcaught] using hp
  | ask c next ih => exact ⟨hp.1, fun r φ' hmoves => ih r (hp.2 r φ' hmoves)⟩

/-- The result of a program with a cleanup: what the cleanup raises takes its place. -/
def cleanedUp (r : Except E A) : Except E Unit → Except E A
  | .ok () => r
  | .error e => .error e

/-- The rule of a cleanup. -/
theorem Follows.finally_ {cleanup : Program I E Unit} {Q' : Except E A → Φ → Prop}
    (hp : p.Follows π Q φ)
    (hc : ∀ r ψ, Q r ψ → cleanup.Follows π (fun u => Q' (cleanedUp r u)) ψ) :
    (p.finally_ cleanup).Follows π Q' φ := by
  have hattempt : (p.attempt some).Follows π
      (fun r ψ => match r with | .ok result => Q result ψ | .error _ => False) φ := by
    refine Follows.attempt (hp.mono fun r ψ hr => ?_)
    rw [reify_some]
    exact hr
  refine hattempt.bind (fun result ψ hr => (hc result ψ hr).bind ?_ ?_) fun e ψ he => he.elim
  · rintro ⟨⟩ ψ' hψ'
    cases result <;> exact hψ'
  · exact fun e ψ' hψ' => hψ'

end Follows

end Program

/-! ## Outlines -/

/-- The phases of the processes of a system, and what they assert of the shared state. `sound`
holds of every shared state, and `compatible` of any two processes. -/
structure Outline (sys : System R I E S A) (Φ : Type) where
  protocol : R → Protocol I E Φ
  first : R → Φ
  ending : R → Except E A → Φ → Prop
  sound : S → Prop
  asserts : ℕ → R → Φ → S → Prop
  compatible : R → R → Prop

namespace Outline

variable {sys : System R I E S A} (o : Outline sys Φ)

/-- The obligations of an outline. -/
structure Valid : Prop where
  follows : ∀ r, (sys.program r).Follows (o.protocol r) (o.ending r) (o.first r)
  own : ∀ i r φ c s reply s', o.sound s → o.asserts i r φ s → (o.protocol r).may φ c →
    sys.answers i c s reply s' →
    o.sound s' ∧ ∃ φ', (o.protocol r).moves φ c reply φ' ∧ o.asserts i r φ' s'
  other : ∀ i r φ c s reply s' k r' ψ, k ≠ i → o.compatible r r' → o.asserts i r φ s →
    (o.protocol r).may φ c → sys.answers i c s reply s' → o.asserts k r' ψ s → o.asserts k r' ψ s'
  started : ∀ M r s', sys.starts M r s' → o.sound M.shared →
    o.sound s' ∧ o.asserts M.processes.length r (o.first r) s' ∧
      (∀ k r' ψ, o.asserts k r' ψ M.shared → o.asserts k r' ψ s') ∧
      ∀ p ∈ M.processes, o.compatible p.request r ∧ o.compatible r p.request
  stopped : ∀ i r φ s k r' ψ, k ≠ i → o.asserts i r φ s → o.asserts k r' ψ s →
    o.asserts k r' ψ (sys.releases i s)
  releases : ∀ i s, o.sound s → o.sound (sys.releases i s)

/-- What holds between two steps, when `phase` tells the phase of each process. -/
structure Holds (M : Machine R I E S A) (phase : ℕ → Φ) : Prop where
  sound : o.sound M.shared
  follows : ∀ (i : ℕ) (p : Process R I E A), M.processes[i]? = some p →
    p.program.Follows (o.protocol p.request) (o.ending p.request) (phase i)
  asserted : ∀ (i : ℕ) (p : Process R I E A), M.processes[i]? = some p → p.stopped = false →
    o.asserts i p.request (phase i) M.shared
  compatible : ∀ (i k : ℕ) (p q : Process R I E A), M.processes[i]? = some p →
    M.processes[k]? = some q → i ≠ k →
    o.compatible p.request q.request

/-- How a step moves the phases. -/
def Advances (M : Machine R I E S A) (phase : ℕ → Φ) (e : Happening R I E) (phase' : ℕ → Φ) : Prop :=
  match e with
  | .start r => phase' = Function.update phase M.processes.length (o.first r)
  | .call i c reply => ∃ p φ, M.processes[i]? = some p ∧
    (o.protocol p.request).moves (phase i) c reply φ ∧ phase' = Function.update phase i φ
  | .stop _ => phase' = phase

variable {o} {M M' : Machine R I E S A} {phase phase' : ℕ → Φ} {e : Happening R I E}

/-- A process that was there before a step stays in its phase, unless it makes a call. -/
theorem Advances.phase_kept (hadvances : o.Advances M phase e phase') {k : ℕ}
    (hlt : k < M.processes.length)
    (he : ∀ (c : I.Call) (reply : Except E (I.Reply c)), e ≠ .call k c reply) :
    phase' k = phase k := by
  cases e with
  | start r =>
    obtain rfl := hadvances
    exact Function.update_of_ne (Nat.ne_of_lt hlt) _ _
  | call i c reply =>
    obtain ⟨p, φ, -, -, rfl⟩ := hadvances
    refine Function.update_of_ne ?_ _ _
    rintro rfl
    exact he c reply rfl
  | stop i => rw [hadvances]

/-- The call of a process is one that it may make. -/
theorem Holds.may (hM : o.Holds M phase) {i : ℕ} {r : R} {c : I.Call}
    {next : Except E (I.Reply c) → Program I E A} {b : Bool}
    (hi : M.processes[i]? = some ⟨r, .ask c next, b⟩) : (o.protocol r).may (phase i) c :=
  (hM.follows i _ hi).1

/-- **Every step keeps the outline.** -/
theorem Valid.step (ho : o.Valid) (hM : o.Holds M phase) (hstep : sys.Step M e M') :
    ∃ phase', o.Advances M phase e phase' ∧ o.Holds M' phase' := by
  cases hstep with
  | start r s' hstarts =>
    obtain ⟨hsound, hfirst, hothers, hcompatible⟩ := ho.started M r s' hstarts hM.sound
    refine ⟨_, rfl, hsound, ?_, ?_, ?_⟩
    · intro k q hk
      rcases processes_append hk with ⟨rfl, rfl⟩ | ⟨hne, hk⟩
      · rw [Function.update_self]
        exact ho.follows r
      · rw [Function.update_of_ne hne]
        exact hM.follows k q hk
    · intro k q hk hq
      rcases processes_append hk with ⟨rfl, rfl⟩ | ⟨hne, hk⟩
      · rw [Function.update_self]
        exact hfirst
      · rw [Function.update_of_ne hne]
        exact hothers k _ _ (hM.asserted k q hk hq)
    · intro k j p q hk hj hkj
      rcases processes_append hk with ⟨rfl, rfl⟩ | ⟨-, hk⟩ <;>
        rcases processes_append hj with ⟨rfl, rfl⟩ | ⟨-, hj⟩
      · exact absurd rfl hkj
      · exact (hcompatible q (List.mem_of_getElem? hj)).2
      · exact (hcompatible p (List.mem_of_getElem? hk)).1
      · exact hM.compatible k j p q hk hj hkj
  | call i r c next reply s' hi hanswers =>
    have hown := hM.asserted i _ hi rfl
    obtain ⟨hmay, hnext⟩ := hM.follows i _ hi
    obtain ⟨hsound, φ, hmoves, hφ⟩ := ho.own i r _ c _ reply s' hM.sound hown hmay hanswers
    refine ⟨Function.update phase i φ, ⟨_, φ, hi, hmoves, rfl⟩, hsound, ?_, ?_, ?_⟩
    · intro k q hk
      rcases processes_set hi hk with ⟨rfl, rfl⟩ | ⟨hne, hk⟩
      · rw [Function.update_self]
        exact hnext reply φ hmoves
      · rw [Function.update_of_ne hne]
        exact hM.follows k q hk
    · intro k q hk hq
      rcases processes_set hi hk with ⟨rfl, rfl⟩ | ⟨hne, hk⟩
      · rw [Function.update_self]
        exact hφ
      · rw [Function.update_of_ne hne]
        exact ho.other i r _ c _ reply s' k _ _ hne (hM.compatible i k _ q hi hk (Ne.symm hne)) hown
          hmay hanswers (hM.asserted k q hk hq)
    · intro k j p q hk hj hkj
      obtain ⟨p', hp', hp⟩ := request_set hi (by rfl) hk
      obtain ⟨q', hq', hq⟩ := request_set hi (by rfl) hj
      rw [← hp, ← hq]
      exact hM.compatible k j p' q' hp' hq' hkj
  | stop i r c next hi =>
    refine ⟨phase, rfl, ho.releases i _ hM.sound, ?_, ?_, ?_⟩
    · intro k q hk
      rcases processes_set hi hk with ⟨rfl, rfl⟩ | ⟨-, hk⟩
      · exact hM.follows k ⟨r, .ask c next, false⟩ hi
      · exact hM.follows k q hk
    · intro k q hk hq
      rcases processes_set hi hk with ⟨rfl, rfl⟩ | ⟨hne, hk⟩
      · cases hq
      · exact ho.stopped i r _ _ k _ _ hne (hM.asserted i _ hi rfl) (hM.asserted k q hk hq)
    · intro k j p q hk hj hkj
      obtain ⟨p', hp', hp⟩ := request_set hi (by rfl) hk
      obtain ⟨q', hq', hq⟩ := request_set hi (by rfl) hj
      rw [← hp, ← hq]
      exact hM.compatible k j p' q' hp' hq' hkj

/-- **What the outline and each step keep, a run keeps.** -/
theorem Valid.run (ho : o.Valid)
    {meets : Machine R I E S A → Happening R I E → Machine R I E S A → Prop}
    {K : List (Happening R I E) → Machine R I E S A → (ℕ → Φ) → Prop}
    {N : Machine R I E S A} {events : List (Happening R I E)} (run : sys.Run meets M events N)
    (hM : o.Holds M phase) (h₀ : K [] M phase)
    (hstep : ∀ events N phase e N' phase', meets N e N' → sys.Step N e N' → o.Holds N phase →
      o.Advances N phase e phase' → o.Holds N' phase' → K events N phase →
      K (events ++ [e]) N' phase') :
    ∃ phase', o.Holds N phase' ∧ K events N phase' := by
  induction run with
  | refl => exact ⟨phase, hM, h₀⟩
  | step run hmeets hs ih =>
    obtain ⟨phase₁, hN, hK⟩ := ih
    obtain ⟨phase₂, hadvances, hN'⟩ := ho.step hN hs
    exact ⟨phase₂, hN', hstep _ _ _ _ _ _ hmeets hs hN hadvances hN' hK⟩

end Outline

end Snarkypuss
