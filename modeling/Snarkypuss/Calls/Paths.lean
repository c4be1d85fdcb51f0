import Snarkypuss.Calls.Interleaving

/-!
# What a thread has been answered

The replies that lead from a program to what is left of it, and the instants of a run at which a
thread was given them. A run is determined by its choices, so the states that it visits can be
computed.

## Main definitions

* `Program.Path p xs q`: the replies `xs` lead from `p` to `q`
* `Program.CanCall`: some replies lead a program to a call
* `Program.Meets ok`: every call is allowed by the replies before it
* `Event.own j`: the call of thread `j` that an event is, with its reply
* `Pool.visits`: the shared states that a schedule visits

## Main results

* `Program.Path.bind_ok`, `Program.Path.attempt_ok`: the paths of a composed program
* `Program.path_exec`: an execution is a path
* `Program.Path.bind_cases`, `Program.Answered.path`: the paths of a sequence, and their results
* `Program.Meets.path`, `Program.Meets.bind`: the rules of what comes before a call
* `Pool.Run.path`: what a thread was answered in a run is a path of its program
* `Pool.Run.at_call`: a run before and after one of its calls
* `Pool.Run.admitted`: what must come before a call has come before it
* `Pool.Run.visited`: the states between two steps of a run are those that its schedule visits
-/

namespace Snarkypuss

variable {I : Interface} {E A B S R X : Type}

/-- A call and its reply. -/
abbrev Replied (I : Interface) (E : Type) := Σ c : I.Call, Except E (I.Reply c)

namespace Program

/-- The replies that lead from a program to what is left of it. -/
inductive Path : Program I E A → List (Replied I E) → Program I E A → Prop
  | refl (p : Program I E A) : Path p [] p
  | ask {c : I.Call} {next : Except E (I.Reply c) → Program I E A} {r : Except E (I.Reply c)}
    {xs : List (Replied I E)} {q : Program I E A} (rest : Path (next r) xs q) :
    Path (.ask c next) (⟨c, r⟩ :: xs) q

namespace Path

variable {p q : Program I E A} {xs : List (Replied I E)}

/-- A path with one more reply behind it. -/
theorem snoc {c : I.Call} {next : Except E (I.Reply c) → Program I E A} (h : Path p xs (.ask c next))
    (r : Except E (I.Reply c)) : Path p (xs ++ [⟨c, r⟩]) (next r) := by
  generalize hq : Program.ask c next = q at h
  induction h with
  | refl p =>
    subst hq
    exact .ask (.refl _)
  | ask rest ih => exact .ask (ih hq)

theorem of_done {r : Except E A} (h : Path (done r) xs q) : xs = [] ∧ q = done r := by
  cases h
  exact ⟨rfl, rfl⟩

theorem of_call {c : I.Call} {r : Except E (I.Reply c)} {xs : List (Replied I E)}
    (h : Path (call c) xs (done r)) : xs = [⟨c, r⟩] := by
  cases h with
  | ask rest =>
    obtain ⟨rfl, hr⟩ := rest.of_done
    cases hr
    rfl

/-- A path of a sequence: its first program raised, or the second went on from what it returned. -/
theorem bind_cases {f : A → Program I E B} {r : Except E B}
    (h : Path (p.bind f) xs (done r)) :
    (∃ e, Path p xs (done (.error e)) ∧ r = .error e) ∨
      ∃ ys zs a, xs = ys ++ zs ∧ Path p ys (done (.ok a)) ∧ Path (f a) zs (done r) := by
  induction p generalizing xs with
  | done result =>
    cases result with
    | ok a => exact .inr ⟨[], xs, a, rfl, .refl _, h⟩
    | error e =>
      have h : Path (done (.error e)) xs (done r) := h
      obtain ⟨rfl, hr⟩ := h.of_done
      exact .inl ⟨e, .refl _, Program.done.inj hr⟩
  | ask c next ih =>
    cases h with
    | ask rest =>
      rcases ih _ rest with ⟨e, hp, hr⟩ | ⟨ys, zs, a, rfl, hp, hf⟩
      · exact .inl ⟨e, .ask hp, hr⟩
      · exact .inr ⟨_ :: ys, zs, a, rfl, .ask hp, hf⟩

/-- A path of the first program that returns, and one of the second. -/
theorem bind {f : A → Program I E B} {a : A} {ys : List (Replied I E)} {q : Program I E B}
    (hp : Path p xs (done (.ok a))) (hf : Path (f a) ys q) : Path (p.bind f) (xs ++ ys) q := by
  generalize hr : (done (.ok a) : Program I E A) = r at hp
  induction hp with
  | refl p =>
    subst hr
    exact hf
  | ask rest ih => exact .ask (ih hr)

/-- A path of a sequence that returns. -/
theorem bind_ok {f : A → Program I E B} {b : B} (h : Path (p.bind f) xs (done (.ok b))) :
    ∃ ys zs a, xs = ys ++ zs ∧ Path p ys (done (.ok a)) ∧ Path (f a) zs (done (.ok b)) := by
  rcases h.bind_cases with ⟨e, -, hr⟩ | h
  · cases hr
  · exact h

/-- A path of a handler clause. -/
theorem attempt_cases {caught : E → Option X} {r : Except E (Except X A)}
    (h : Path (p.attempt caught) xs (done r)) :
    ∃ result, Path p xs (done result) ∧ reify caught result = r := by
  induction p generalizing xs with
  | done result =>
    refine ⟨result, ?_⟩
    have hdone : (done result : Program I E A).attempt caught = done (reify caught result) := by
      cases result with
      | ok a => rfl
      | error e =>
        simp only [Program.attempt, reify]
        split <;> rfl
    rw [hdone] at h
    obtain ⟨rfl, hr⟩ := h.of_done
    exact ⟨.refl _, (Program.done.inj hr).symm⟩
  | ask c next ih =>
    cases h with
    | ask rest =>
      obtain ⟨result, hp, hr⟩ := ih _ rest
      exact ⟨result, .ask hp, hr⟩

/-- A handler clause on a path. -/
theorem attempt {caught : E → Option X} {result : Except E A} (h : Path p xs (done result)) :
    Path (p.attempt caught) xs (done (reify caught result)) := by
  generalize hq : done result = q at h
  induction h with
  | refl p =>
    subst hq
    have hdone : (done result : Program I E A).attempt caught = done (reify caught result) := by
      cases result with
      | ok a => rfl
      | error e =>
        simp only [Program.attempt, reify]
        split <;> rfl
    rw [hdone]
    exact .refl _
  | ask rest ih => exact .ask (ih hq)

/-- A path of a handler clause that returns. -/
theorem attempt_ok {caught : E → Option X} {r : Except X A}
    (h : Path (p.attempt caught) xs (done (.ok r))) :
    ∃ result, Path p xs (done result) ∧ reify caught result = .ok r := h.attempt_cases

end Path

/-- An execution answers a path of its program, each call from some state. -/
theorem path_exec (h : Handler I E S) (p : Program I E A) (s : S) :
    ∃ xs, Path p xs (done (p.exec h s).result) ∧
      ∀ c r, (⟨c, r⟩ : Replied I E) ∈ xs → ∃ s', r = (h c s').1 := by
  induction p generalizing s with
  | done r => exact ⟨[], .refl _, fun c r hmem => by cases hmem⟩
  | ask c next ih =>
    obtain ⟨xs, hpath, hreplies⟩ := ih (h c s).1 (h c s).2
    refine ⟨⟨c, (h c s).1⟩ :: xs, .ask hpath, fun c' r hmem => ?_⟩
    rcases List.mem_cons.mp hmem with heq | hmem
    · cases heq
      exact ⟨s, rfl⟩
    · exact hreplies c' r hmem

/-- The calls on a path of a program that uses only allowed ones. -/
theorem Uses.path {allowed : I.Call → Prop} {p q : Program I E A} {xs : List (Replied I E)}
    (hp : p.Uses allowed) (h : Path p xs q) : ∀ x ∈ xs, allowed x.1 := by
  induction h with
  | refl p => exact fun x hx => by cases hx
  | ask rest ih =>
    intro x hx
    rcases List.mem_cons.mp hx with rfl | hx
    · exact hp.1
    · exact ih (hp.2 _) x hx

/-- The call that a path leads to is an allowed one. -/
theorem Uses.at_call {allowed : I.Call → Prop} {p : Program I E A} {xs : List (Replied I E)}
    {c : I.Call} {next : Except E (I.Reply c) → Program I E A} (hp : p.Uses allowed)
    (h : Path p xs (ask c next)) : allowed c := by
  generalize hq : ask c next = q at h
  induction h with
  | refl p =>
    subst hq
    exact hp.1
  | ask rest ih => exact ih (hp.2 _) hq

/-- Some replies lead the program to the call. -/
def CanCall (p : Program I E A) (c : I.Call) : Prop := ∃ xs next, Path p xs (ask c next)

theorem canCall_ask (c : I.Call) (next : Except E (I.Reply c) → Program I E A) :
    (ask c next).CanCall c := ⟨[], next, .refl _⟩

/-- Behind a program that has returned, the next one comes to its calls. -/
theorem Path.canCall {p : Program I E A} {f : A → Program I E B} {xs : List (Replied I E)} {a : A}
    {c : I.Call} (hp : Path p xs (done (.ok a))) (hf : (f a).CanCall c) : (p.bind f).CanCall c := by
  obtain ⟨ys, next, hpath⟩ := hf
  exact ⟨_, next, hp.bind hpath⟩

/-- Replies that obey `rely` lead to a result under control. -/
theorem Answered.path {rely : (c : I.Call) → Except E (I.Reply c) → Prop} {Q : Except E A → Prop}
    {p : Program I E A} {xs : List (Replied I E)} {r : Except E A} (hp : p.Answered rely Q)
    (h : Path p xs (done r)) (hrely : ∀ x ∈ xs, rely x.1 x.2) : Q r := by
  generalize hq : done r = q at h
  induction h with
  | refl p =>
    subst hq
    exact hp
  | ask rest ih =>
    exact ih (hp _ (hrely _ List.mem_cons_self))
      (fun x hx => hrely x (List.mem_cons_of_mem _ hx)) hq

/-! ## What must come before a call -/

/-- Every call that a program makes is allowed by the replies before it, those of `history`
included. -/
def Meets (ok : List (Replied I E) → I.Call → Prop) : List (Replied I E) → Program I E A → Prop
  | _, done _ => True
  | history, ask c next => ok history c ∧ ∀ r, (next r).Meets ok (history ++ [⟨c, r⟩])

section Meets

variable {ok : List (Replied I E) → I.Call → Prop} {history xs : List (Replied I E)}
  {p : Program I E A}

/-- The call that a path leads to is allowed by the replies on it. -/
theorem Meets.path {c : I.Call} {next : Except E (I.Reply c) → Program I E A}
    (hp : p.Meets ok history) (hpath : Path p xs (ask c next)) : ok (history ++ xs) c := by
  generalize hq : ask c next = q at hpath
  induction hpath generalizing history with
  | refl p =>
    subst hq
    rw [List.append_nil]
    exact hp.1
  | ask rest ih =>
    rw [← List.singleton_append, ← List.append_assoc]
    exact ih (hp.2 _) hq

/-- The rule of sequencing: the second program begins with the replies that the first returned
after. -/
theorem Meets.bind {f : A → Program I E B} (hp : p.Meets ok history)
    (hf : ∀ xs a, Path p xs (done (.ok a)) → (f a).Meets ok (history ++ xs)) :
    (p.bind f).Meets ok history := by
  induction p generalizing history with
  | done r =>
    cases r with
    | ok a =>
      have h := hf [] a (.refl _)
      rw [List.append_nil] at h
      exact h
    | error e => trivial
  | ask c next ih =>
    refine ⟨hp.1, fun r => ih r (hp.2 r) fun xs a hpath => ?_⟩
    rw [List.append_assoc]
    exact hf _ a (.ask hpath)

/-- Calls that are allowed whatever comes before them. -/
theorem Uses.meets {allowed : I.Call → Prop} (hp : p.Uses allowed)
    (hok : ∀ xs c, allowed c → ok (history ++ xs) c) : p.Meets ok history := by
  induction p generalizing history with
  | done r => trivial
  | ask c next ih =>
    have hc := hok [] c hp.1
    rw [List.append_nil] at hc
    refine ⟨hc, fun r => ih r (hp.2 r) fun xs c' hc' => ?_⟩
    rw [List.append_assoc]
    exact hok _ c' hc'

end Meets

end Program

/-! ## Instants of a run -/

/-- The call of thread `j` that an event is, with its reply. -/
def Event.own (j : ℕ) : Event R I E → Option (Replied I E)
  | .start _ => none
  | .call i c reply => if i = j then some ⟨c, reply⟩ else none

theorem Event.own_self (j : ℕ) (c : I.Call) (reply : Except E (I.Reply c)) :
    Event.own j (.call j c reply : Event R I E) = some ⟨c, reply⟩ := if_pos rfl

theorem Event.own_of_ne {i j : ℕ} (hij : i ≠ j) (c : I.Call) (reply : Except E (I.Reply c)) :
    Event.own j (.call i c reply : Event R I E) = none := if_neg hij

theorem Event.own_eq_some {j : ℕ} {e : Event R I E} {c : I.Call} {reply : Except E (I.Reply c)}
    (hown : Event.own j e = some ⟨c, reply⟩) : e = .call j c reply := by
  cases e with
  | start r => cases hown
  | call i d r =>
    by_cases hij : i = j
    · subst hij
      rw [Event.own_self] at hown
      cases hown
      rfl
    · rw [Event.own_of_ne hij] at hown
      cases hown

namespace Pool

variable {h : Handler I E S} {serve : R → Program I E A}
  {meets : Pool R I E S A → Event R I E → Prop} {P Q : Pool R I E S A} {events : List (Event R I E)}

theorem Run.append {events' : List (Event R I E)} {Q' : Pool R I E S A}
    (run : Run h serve meets P events Q) (run' : Run h serve meets Q events' Q') :
    Run h serve meets P (events ++ events') Q' := by
  induction run' with
  | refl =>
    rw [List.append_nil]
    exact run
  | step run' hmeets hstep ih =>
    rw [← List.append_assoc]
    exact ih.step hmeets hstep

/-- A run before and after a part of its events. -/
theorem Run.split {before after : List (Event R I E)}
    (run : Run h serve meets P (before ++ after) Q) :
    ∃ N, Run h serve meets P before N ∧ Run h serve meets N after Q := by
  generalize hevents : before ++ after = events at run
  induction run generalizing after with
  | refl =>
    obtain ⟨rfl, rfl⟩ := List.append_eq_nil_iff.mp hevents
    exact ⟨P, .refl, .refl⟩
  | @step events N e N' run hmeets hstep ih =>
    rcases List.eq_nil_or_concat after with rfl | ⟨after, e', rfl⟩
    · rw [List.append_nil] at hevents
      subst hevents
      exact ⟨N', run.step hmeets hstep, .refl⟩
    · rw [List.concat_eq_append, ← List.append_assoc] at hevents
      obtain ⟨rfl, he⟩ := List.append_inj' hevents rfl
      obtain rfl := List.singleton_inj.mp he
      obtain ⟨N'', run₁, run₂⟩ := ih rfl
      refine ⟨N'', run₁, ?_⟩
      rw [List.concat_eq_append]
      exact run₂.step hmeets hstep

/-- **What a thread was answered is a path of its program**, when it was started in the run. -/
theorem Run.path (run : Run h serve meets P events Q) {j : ℕ} (hnew : P.threads.length ≤ j)
    {t : Thread R I E A} (ht : Q.threads[j]? = some t) :
    Program.Path (serve t.request) (events.filterMap (Event.own j)) t.program := by
  suffices hall : (∀ t, Q.threads[j]? = some t →
      Program.Path (serve t.request) (events.filterMap (Event.own j)) t.program) ∧
      (Q.threads.length ≤ j → events.filterMap (Event.own j) = []) from hall.1 t ht
  clear ht t
  induction run with
  | refl =>
    refine ⟨fun t ht => ?_, fun _ => rfl⟩
    exact absurd (List.getElem?_eq_some_iff.mp ht).1 (Nat.not_lt.mpr hnew)
  | step run hmeets hstep ih =>
    obtain ⟨ihpath, ihnone⟩ := ih
    cases hstep with
    | start r =>
      have hown : ∀ xs : List (Event R I E), (xs ++ [Event.start r]).filterMap (Event.own j) =
          xs.filterMap (Event.own j) := by
        intro xs
        rw [List.filterMap_append]
        exact List.append_nil _
      rw [hown]
      refine ⟨fun t ht => ?_, fun hlen => ihnone ?_⟩
      · rcases getElem?_append_singleton ht with ⟨hj, rfl⟩ | ht
        · rw [ihnone hj.ge]
          exact .refl _
        · exact ihpath t ht
      · rw [List.length_append, List.length_singleton] at hlen
        omega
    | call i r c next hi =>
      have hlt := (List.getElem?_eq_some_iff.mp hi).1
      rw [List.filterMap_append]
      by_cases hij : i = j
      · -- The thread itself is answered.
        subst hij
        refine ⟨fun t ht => ?_, fun hlen => ?_⟩
        · rcases getElem?_set hi ht with ⟨-, rfl⟩ | ⟨hne, -⟩
          · rw [List.filterMap_cons_some (Event.own_self i c _), List.filterMap_nil]
            exact (ihpath _ hi).snoc _
          · exact absurd rfl hne
        · rw [List.length_set] at hlen
          omega
      · rw [List.filterMap_cons_none (Event.own_of_ne hij c _), List.filterMap_nil, List.append_nil]
        refine ⟨fun t ht => ?_, fun hlen => ihnone ?_⟩
        · rcases getElem?_set hi ht with ⟨hji, -⟩ | ⟨-, ht⟩
          · exact absurd hji.symm hij
          · exact ihpath t ht
        · rw [List.length_set] at hlen
          exact hlen

/-- A thread keeps serving its request. -/
theorem Run.request_kept (run : Run h serve meets P events Q) {j : ℕ} {t : Thread R I E A}
    (ht : P.threads[j]? = some t) : ∃ t', Q.threads[j]? = some t' ∧ t'.request = t.request := by
  induction run with
  | refl => exact ⟨t, ht, rfl⟩
  | step run hmeets hstep ih =>
    obtain ⟨u, hu, hrequest⟩ := ih
    have hlt := (List.getElem?_eq_some_iff.mp hu).1
    cases hstep with
    | start r => exact ⟨u, by rw [List.getElem?_append_left hlt]; exact hu, hrequest⟩
    | call i r c next hi =>
      by_cases hij : i = j
      · subst hij
        obtain rfl := Option.some.inj (hu.symm.trans hi)
        exact ⟨_, List.getElem?_set_self hlt, hrequest⟩
      · exact ⟨u, by rw [List.getElem?_set_ne hij]; exact hu, hrequest⟩

/-- The reply of a call is what the handler answers at its instant. -/
theorem Run.at_call {before after : List (Event R I E)} {j : ℕ} {c : I.Call}
    {reply : Except E (I.Reply c)} (run : Run h serve meets P (before ++ .call j c reply :: after) Q) :
    ∃ N N', Run h serve meets P before N ∧ Step h serve N (.call j c reply) N' ∧
      Run h serve meets N' after Q ∧ reply = (h c N.shared).1 := by
  obtain ⟨N, run₁, run₂⟩ := run.split
  rw [show (.call j c reply :: after : List (Event R I E)) = [.call j c reply] ++ after from rfl]
    at run₂
  obtain ⟨N', run₃, run₄⟩ := run₂.split
  generalize hevents : ([.call j c reply] : List (Event R I E)) = events at run₃
  cases run₃ with
  | refl => cases hevents
  | @step events' M e _ run₅ hmeets hstep =>
    have hevents : [] ++ [_] = events' ++ [e] := hevents
    obtain ⟨hnil, he⟩ := List.append_inj' hevents rfl
    obtain rfl := List.singleton_inj.mp he
    cases run₅ with
    | refl =>
      refine ⟨N, N', run₁, hstep, run₄, ?_⟩
      cases hstep
      rfl
    | step => exact absurd hnil (by simp)

/-- The instant at which a thread was given one of its replies. -/
theorem Run.at_reply (run : Run h serve meets P events Q) {j : ℕ} {c : I.Call}
    {reply : Except E (I.Reply c)} {xs zs : List (Replied I E)}
    (hown : events.filterMap (Event.own j) = xs ++ ⟨c, reply⟩ :: zs) :
    ∃ before after N N', events = before ++ .call j c reply :: after ∧
      after.filterMap (Event.own j) = zs ∧ Run h serve meets P before N ∧
      Step h serve N (.call j c reply) N' ∧ Run h serve meets N' after Q ∧
      reply = (h c N.shared).1 := by
  obtain ⟨before, rest, rfl, -, hrest⟩ := List.filterMap_eq_append_iff.mp hown
  obtain ⟨skipped, e, after, rfl, hskipped, he, hafter⟩ := List.filterMap_eq_cons_iff.mp hrest
  obtain rfl := Event.own_eq_some he
  rw [← List.append_assoc] at run ⊢
  obtain ⟨N, N', run₁, hstep, run₂, hreply⟩ := run.at_call
  exact ⟨before ++ skipped, after, N, N', rfl, hafter, run₁, hstep, run₂, hreply⟩

/-- **What must come before a call has come before it**, in every run of threads whose programs
see to it. -/
theorem Run.admitted {ok : R → List (Replied I E) → I.Call → Prop} {s : S}
    (hserve : ∀ r, (serve r).Meets (ok r) []) {before after : List (Event R I E)} {j : ℕ}
    {c : I.Call} {reply : Except E (I.Reply c)}
    (run : Run h serve meets ⟨s, []⟩ (before ++ .call j c reply :: after) Q) :
    ∃ t, Q.threads[j]? = some t ∧ ok t.request (before.filterMap (Event.own j)) c := by
  obtain ⟨N, N', run₁, hstep, run₂, -⟩ := run.at_call
  cases hstep with
  | call i r c next hi =>
    have hpath := run₁.path (Nat.zero_le j) hi
    have hok := (hserve r).path hpath
    have hlt := (List.getElem?_eq_some_iff.mp hi).1
    obtain ⟨t, ht, hrequest⟩ := run₂.request_kept (List.getElem?_set_self hlt)
    refine ⟨t, ht, ?_⟩
    rw [hrequest]
    exact hok

/-! ### The states that a schedule visits -/

/-- The choice that an event is. -/
def choiceOf : Event R I E → Choice R
  | .start r => .start r
  | .call i _ _ => .call i

variable (h serve) in
/-- The shared states that a schedule visits, the first and the last included. -/
def visits (P : Pool R I E S A) : List (Choice R) → List S
  | [] => [P.shared]
  | choice :: choices =>
    P.shared :: match choose h serve P choice with
      | some (_, P') => visits P' choices
      | none => []

theorem choose_choiceOf {e : Event R I E} {Q : Pool R I E S A} (hstep : Step h serve P e Q) :
    choose h serve P (choiceOf e) = some (e, Q) := by
  cases hstep with
  | start r => rfl
  | call i r c next hi => simp only [choiceOf, choose, hi]

theorem shared_mem_visits (choices : List (Choice R)) : P.shared ∈ visits h serve P choices := by
  cases choices with
  | nil => exact List.mem_cons_self
  | cons choice choices => exact List.mem_cons_self

/-- The state between two parts of a run is one that its schedule visits. -/
theorem Run.visited {before after : List (Event R I E)} (run : Run h serve meets P before Q) :
    Q.shared ∈ visits h serve P ((before ++ after).map choiceOf) := by
  suffices hall : ∀ choices, visits h serve Q choices ⊆
      visits h serve P (before.map choiceOf ++ choices) by
    rw [List.map_append]
    exact hall _ (shared_mem_visits _)
  induction run with
  | refl => exact fun choices => List.Subset.refl _
  | @step events N e N' run hmeets hstep ih =>
    intro choices s hs
    rw [List.map_append, List.append_assoc]
    refine ih (choiceOf e :: choices) ?_
    show s ∈ N.shared :: _
    rw [choose_choiceOf hstep]
    exact List.mem_cons_of_mem _ hs

end Pool

end Snarkypuss
