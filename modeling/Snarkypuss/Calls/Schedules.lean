import Snarkypuss.Calls.Processes

/-!
# Schedules, and calls that are programs

A scheduler chooses what is started and which process makes its next call; where a function tells how
the calls are answered, its choices make a run. Two processes of which one can always go on go on
until both have come to an end, since no program can be asked for ever.

Where the calls of a program are programs themselves, the program is reasoned about with a protocol
for its calls, and each of them with a finer one.

## Main definitions

* `System.schedule`: the run that a scheduler makes, computed
* `Machine.Running`: a process that has yet to make a call

## Main results

* `System.run_schedule`: what a scheduler makes is a run
* `System.completes`: two processes that are never stuck come to an end
* `Program.Follows.inline`: a program whose calls are programs
-/

namespace Snarkypuss

variable {I J : Interface} {E A S R Φ Ψ : Type}

/-! ## Calls that are programs -/

/-- **A program whose calls are programs.** It keeps to the finer protocol when each of its calls does
and ends in a phase that the protocol for the calls leads to, in the sense of `T`. -/
theorem Program.Follows.inline {ρ : Protocol I E Ψ} {π : Protocol J E Φ} {T : Ψ → Φ → Prop}
    {f : (c : I.Call) → Program J E (I.Reply c)} {Q : Except E A → Ψ → Prop} {p : Program I E A}
    {ψ : Ψ} {φ : Φ} (hp : p.Follows ρ Q ψ) (hψ : T ψ φ)
    (hf : ∀ ψ φ c, T ψ φ → ρ.may ψ c →
      (f c).Follows π (fun r φ' => ∃ ψ', ρ.moves ψ c r ψ' ∧ T ψ' φ') φ) :
    (p.inline f).Follows π (fun r φ' => ∃ ψ', Q r ψ' ∧ T ψ' φ') φ := by
  induction p generalizing ψ φ with
  | done r => exact ⟨ψ, hp, hψ⟩
  | ask c next ih =>
    -- the outcome of a call is reified, so that the program goes on whether it returns or raises
    have hcall : ((f c).attempt some).Follows π (fun r φ' => ∃ result, r = .ok result ∧
        ∃ ψ', ρ.moves ψ c result ψ' ∧ T ψ' φ') φ := by
      refine Follows.attempt ((hf ψ φ c hψ hp.1).mono fun r φ' hr => ⟨r, ?_, hr⟩)
      rw [reify_some]
    refine hcall.bind ?_ ?_
    · rintro result φ' ⟨result', heq, ψ', hmoves, hψ'⟩
      cases heq
      exact ih result (hp.2 result ψ' hmoves) hψ'
    · rintro e φ' ⟨result, heq, -⟩
      cases heq

/-! ## Schedules -/

/-- What a scheduler chooses: what is started, or the process whose next call is made. -/
inductive Turn (R : Type)
  | start (r : R)
  | call (i : ℕ)

namespace System

variable (sys : System R I E S A) (begin_ : Machine R I E S A → R → Option S)
  (answer : ℕ → (c : I.Call) → S → Option (Except E (I.Reply c) × S))

/-- The step that a turn makes. -/
def turn (M : Machine R I E S A) : Turn R → Option (Happening R I E × Machine R I E S A)
  | .start r => (begin_ M r).map fun s =>
    (.start r, ⟨s, M.processes ++ [⟨r, sys.program r, false⟩]⟩)
  | .call i =>
    match M.processes[i]? with
    | some ⟨r, .ask c next, false⟩ => (answer i c M.shared).map fun (reply, s) =>
      (.call i c reply, ⟨s, M.processes.set i ⟨r, next reply, false⟩⟩)
    | _ => none

/-- The run that the turns of a scheduler make. -/
def schedule (M : Machine R I E S A) :
    List (Turn R) → Option (List (Happening R I E) × Machine R I E S A)
  | [] => some ([], M)
  | t :: turns => do
    let (e, M') ← turn sys begin_ answer M t
    let (events, N) ← schedule M' turns
    pure (e :: events, N)

variable {sys begin_ answer} {M N : Machine R I E S A} {events : List (Happening R I E)}

theorem step_turn (hbegin : ∀ M r s, begin_ M r = some s → sys.starts M r s)
    (hanswer : ∀ i c s reply s', answer i c s = some (reply, s') → sys.answers i c s reply s')
    {t : Turn R} {e : Happening R I E} (h : turn sys begin_ answer M t = some (e, N)) :
    sys.Step M e N := by
  cases t with
  | start r =>
    obtain ⟨s, hs, heq⟩ := Option.map_eq_some_iff.mp h
    cases heq
    exact .start M r s (hbegin M r s hs)
  | call i =>
    simp only [turn] at h
    split at h
    · rename_i r c next hi
      obtain ⟨⟨reply, s'⟩, hs, heq⟩ := Option.map_eq_some_iff.mp h
      cases heq
      exact .call M i r c next reply s' hi (hanswer i c _ reply s' hs)
    · cases h

/-- **What a scheduler makes is a run.** -/
theorem run_schedule (hbegin : ∀ M r s, begin_ M r = some s → sys.starts M r s)
    (hanswer : ∀ i c s reply s', answer i c s = some (reply, s') → sys.answers i c s reply s')
    {turns : List (Turn R)} (h : schedule sys begin_ answer M turns = some (events, N)) :
    sys.Run (fun _ _ _ => True) M events N := by
  induction turns generalizing M events with
  | nil =>
    cases h
    exact .refl
  | cons t turns ih =>
    simp only [schedule, Option.bind_eq_bind, Option.bind_eq_some_iff] at h
    obtain ⟨⟨e, M'⟩, ht, ⟨rest, N'⟩, hrest, heq⟩ := h
    cases heq
    exact (Run.refl.step trivial (step_turn hbegin hanswer ht)).append (ih hrest)

end System

/-! ## Completion -/

/-- What may be left of a program after its next call. -/
def Program.Next (p' p : Program I E A) : Prop :=
  ∃ (c : I.Call) (next : Except E (I.Reply c) → Program I E A) (reply : Except E (I.Reply c)),
    p = .ask c next ∧ p' = next reply

/-- No program can be asked for ever. -/
theorem Program.wellFounded_next : WellFounded (Program.Next (I := I) (E := E) (A := A)) := by
  refine ⟨fun p => ?_⟩
  induction p with
  | done r =>
    refine ⟨_, ?_⟩
    rintro p' ⟨c, next, reply, heq, -⟩
    cases heq
  | ask c next ih =>
    refine ⟨_, ?_⟩
    rintro p' ⟨c', next', reply, heq, rfl⟩
    cases heq
    exact ih reply

/-- A process has yet to make a call. -/
def Machine.Running (M : Machine R I E S A) (i : ℕ) : Prop :=
  ∃ r c next, M.processes[i]? = some ⟨r, .ask c next, false⟩

namespace System

variable {sys : System R I E S A} {M N : Machine R I E S A} {i k : ℕ}

/-- After a call of one process another is where it was. -/
theorem Step.getElem?_of_ne {j : ℕ} {c : I.Call} {reply : Except E (I.Reply c)}
    (h : sys.Step M (.call j c reply) N) (hne : i ≠ j) : N.processes[i]? = M.processes[i]? := by
  cases h with
  | call j r c next reply s' hj hanswers => exact List.getElem?_set_ne (Ne.symm hne)

/-- A process that makes a call goes on with less. -/
theorem Step.next {r : R} {p : Program I E A} {c : I.Call} {reply : Except E (I.Reply c)} {b : Bool}
    (h : sys.Step M (.call i c reply) N) (hi : M.processes[i]? = some ⟨r, p, b⟩) :
    ∃ p', p'.Next p ∧ N.processes[i]? = some ⟨r, p', false⟩ := by
  cases h with
  | call j r' c next reply s' hj hanswers =>
    cases hi.symm.trans hj
    exact ⟨next reply, ⟨c, next, reply, rfl, rfl⟩, getElem?_set_self_of hj⟩

/-- **Two processes that are never stuck come to an end.** The induction is on both programs: a call
leaves a part of one, and the other as it was. -/
theorem completes {meets : Machine R I E S A → Happening R I E → Machine R I E S A → Prop}
    {K : Machine R I E S A → Prop}
    (hgo : ∀ M, K M → M.Running i ∨ M.Running k → ∃ j c reply N, (j = i ∨ j = k) ∧
      sys.Step M (.call j c reply) N ∧ meets M (.call j c reply) N ∧ K N) (hik : i ≠ k)
    {p q : Program I E A} {r r' : R} {b b' : Bool} (hM : K M)
    (hi : M.processes[i]? = some ⟨r, p, b⟩) (hk : M.processes[k]? = some ⟨r', q, b'⟩) :
    ∃ events N, sys.Run meets M events N ∧ K N ∧ ¬ N.Running i ∧ ¬ N.Running k := by
  induction p, q using Prod.GameAdd.recursion Program.wellFounded_next Program.wellFounded_next
    generalizing M b b' with
  | _ p q ih =>
    by_cases hrun : M.Running i ∨ M.Running k
    · obtain ⟨j, c, reply, N, rfl | rfl, hstep, hmeets, hN⟩ := hgo M hM hrun
      · obtain ⟨p', hp', hi'⟩ := hstep.next hi
        obtain ⟨events, N', run, hrest⟩ := ih p' q (.fst hp') hN hi'
          ((hstep.getElem?_of_ne (Ne.symm hik)).trans hk)
        exact ⟨_, N', (Run.refl.step hmeets hstep).append run, hrest⟩
      · obtain ⟨q', hq', hk'⟩ := hstep.next hk
        obtain ⟨events, N', run, hrest⟩ := ih p q' (.snd hq') hN
          ((hstep.getElem?_of_ne hik).trans hi) hk'
        exact ⟨_, N', (Run.refl.step hmeets hstep).append run, hrest⟩
    · obtain ⟨hrun, hrun'⟩ := not_or.mp hrun
      exact ⟨[], M, .refl, hM, hrun, hrun'⟩

end System

end Snarkypuss
