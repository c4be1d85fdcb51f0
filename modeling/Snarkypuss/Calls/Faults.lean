import Snarkypuss.Calls.Histories

/-!
# Faults that are passed on

A call that fails raises. A program that catches none of these exceptions ends with one of them as
soon as a call has failed, so that an end of another kind tells that no call has failed: the run was
the execution under the handler that answers as it should.

## Main definitions

* `Program.Passes fault p`: after a call has raised a fault, `p` ends by raising one

## Main results

* `Program.Passes.always`: a run ends with a fault, or as the execution does
-/

namespace Snarkypuss

namespace Program

variable {I : Interface} {E A B S X : Type}

/-- An end with a fault. -/
def Faulty (fault : E → Prop) (r : Except E A) : Prop := ∃ e, r = .error e ∧ fault e

/-- What is raised is a fault. -/
def RaisesFaults (fault : E → Prop) (c : I.Call) (r : Except E (I.Reply c)) : Prop :=
  ∀ e, r = .error e → fault e

/-- After a call has raised a fault, the program ends by raising one. -/
def Passes (fault : E → Prop) : Program I E A → Prop
  | done _ => True
  | ask _ next =>
    (∀ e, fault e → (next (.error e)).Answered (RaisesFaults fault) (Faulty fault)) ∧
      ∀ r, (next r).Passes fault

section Passes

variable {fault : E → Prop} {p : Program I E A}

theorem passes_done (r : Except E A) : (done r : Program I E A).Passes fault := trivial

theorem passes_call (c : I.Call) : (call c : Program I E (I.Reply c)).Passes fault :=
  ⟨fun e he => ⟨e, rfl, he⟩, fun _ => trivial⟩

/-- What ends with a fault skips the rest of a sequence. -/
theorem Answered.bind_faulty {f : A → Program I E B}
    (hp : p.Answered (RaisesFaults fault) (Faulty fault)) :
    (p.bind f).Answered (RaisesFaults fault) (Faulty fault) := by
  apply hp.bind
  · rintro a ⟨e, he, -⟩
    cases he
  · rintro e ⟨e', he, hfault⟩
    cases he
    exact ⟨e, rfl, hfault⟩

theorem Passes.bind {f : A → Program I E B} (hp : p.Passes fault) (hf : ∀ a, (f a).Passes fault) :
    (p.bind f).Passes fault := by
  induction p with
  | done r =>
    cases r with
    | ok a => exact hf a
    | error e => trivial
  | ask c next ih => exact ⟨fun e he => (hp.1 e he).bind_faulty, fun r => ih r (hp.2 r)⟩

/-- What is reified of an end with a fault. -/
theorem Answered.reified (hp : p.Answered (RaisesFaults fault) (Faulty fault)) :
    (p.attempt some).Answered (RaisesFaults fault)
      fun r => ∃ e, r = .ok (.error e) ∧ fault e := by
  apply Answered.attempt
  refine hp.mono fun r hr => ?_
  obtain ⟨e, rfl, he⟩ := hr
  exact ⟨e, rfl, he⟩

/-- A cleanup ends as it was called to end, or with a fault of its own. -/
theorem Answered.cleanup {cleanup : Program I E Unit}
    (hc : cleanup.Answered (RaisesFaults fault) fun r => ∀ e, r = .error e → fault e)
    (hp : p.Answered (RaisesFaults fault) (Faulty fault)) :
    (p.finally_ cleanup).Answered (RaisesFaults fault) (Faulty fault) := by
  refine hp.reified.bind ?_ ?_
  · rintro r ⟨e, he, hfault⟩
    cases he
    apply hc.bind
    · exact fun _ _ => ⟨e, rfl, hfault⟩
    · exact fun e' he' => ⟨e', rfl, he' e' rfl⟩
  · rintro e ⟨e', he, -⟩
    cases he

theorem Passes.finally_ {cleanup : Program I E Unit} (hp : p.Passes fault)
    (hc : cleanup.Passes fault)
    (hends : cleanup.Answered (RaisesFaults fault) fun r => ∀ e, r = .error e → fault e) :
    (p.finally_ cleanup).Passes fault := by
  induction p with
  | done r =>
    have hdone : (done r : Program I E A).finally_ cleanup = cleanup.bind fun _ => done r := by
      cases r <;> rfl
    rw [hdone]
    exact hc.bind fun _ => trivial
  | ask c next ih =>
    refine ⟨fun e he => ?_, fun r => ih r (hp.2 r)⟩
    exact Answered.cleanup hends (hp.1 e he)

/-- Every reply obeys `rely`, and so a run ends as promised. -/
theorem Answered.always {answers : Answering I E S}
    {rely : (c : I.Call) → Except E (I.Reply c) → Prop} {Q : Except E A → Prop}
    (hp : p.Answered rely Q) (hrely : ∀ c s r t, answers c s r t → rely c r)
    (os : List (Occurrence I E S)) (s : S) :
    p.Always answers (fun _ _ => True) (fun r _ _ => Q r) os s := by
  induction p generalizing os s with
  | done r => exact ⟨trivial, hp⟩
  | ask c next ih => exact ⟨trivial, fun r t ht => ih r (hp r (hrely c s r t ht)) _ t⟩

/-- **A run ends with a fault, or as the execution does.** -/
theorem Passes.always {answers : Answering I E S} {h : Handler I E S} (hp : p.Passes fault)
    (hanswers : ∀ c s r t, answers c s r t → h c s = (r, t) ∨ ∃ e, r = .error e ∧ fault e)
    (hfaults : ∀ c s r t, answers c s r t → RaisesFaults fault c r)
    (os : List (Occurrence I E S)) (s : S) :
    p.Always answers (fun _ _ => True)
      (fun r _ t => Faulty fault r ∨ (p.exec h s).result = r ∧ (p.exec h s).state = t) os s := by
  induction p generalizing os s with
  | done r => exact ⟨trivial, .inr ⟨rfl, rfl⟩⟩
  | ask c next ih =>
    refine ⟨trivial, fun r t ht => ?_⟩
    rcases hanswers c s r t ht with heq | ⟨e, rfl, he⟩
    · have hnext := ih r (hp.2 r) (os ++ [⟨c, s, r, t⟩]) t
      rw [exec_ask, heq]
      exact hnext
    · exact ((hp.1 e he).always hfaults _ t).mono fun r os t _ hr => .inl hr

end Passes

end Program

end Snarkypuss
