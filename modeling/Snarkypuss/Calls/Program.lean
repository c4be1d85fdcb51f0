import Mathlib

/-!
# Programs that call an interface

A program makes one call at a time and continues with the reply, which is a value or an
exception. It ends by returning a value or by raising. A handler answers the calls from a state
of its own; what a call changed stays changed when the program later raises.

## Main definitions

* `Interface`: the calls a program may make, and the type each replies with
* `Program I E A`: programs over `I` that return an `A` or raise an `E`
* `Program.attempt`: reify the exceptions a handler clause names
* `Handler I E S`: the replies of an interface, from a state `S`
* `Program.exec`: the exchanges, the result and the final state of a program under a handler
* `Program.inline`: replace every call by a program over another interface

## Main results

* `Program.exec_bind`, `Program.exec_attempt`: execution follows the structure of a program
* `Program.exec_inline_result`, `Program.exec_inline_state`: inlining is handling by execution
-/

namespace Snarkypuss

/-- The calls a program may make, and the type of a successful reply to each. -/
structure Interface where
  Call : Type
  Reply : Call → Type

/-- A program ends with a result, or makes a call and continues with its reply. -/
inductive Program (I : Interface) (E A : Type) : Type
  | done (result : Except E A)
  | ask (call : I.Call) (next : Except E (I.Reply call) → Program I E A)

namespace Program

variable {I J : Interface} {E A B C S T X : Type}

/-- The program that makes one call and returns its reply. -/
def call (c : I.Call) : Program I E (I.Reply c) := ask c done

/-- Sequencing: an exception skips the rest. -/
def bind : Program I E A → (A → Program I E B) → Program I E B
  | done (.ok a), f => f a
  | done (.error e), _ => done (.error e)
  | ask c next, f => ask c fun r => (next r).bind f

instance : Monad (Program I E) where
  pure a := done (.ok a)
  bind := bind

/-- The program that raises `e`. -/
def raise (e : E) : Program I E A := done (.error e)

/-- Runs `p` and reifies the exceptions that `caught` recognises; the others are raised on. -/
def attempt (caught : E → Option X) : Program I E A → Program I E (Except X A)
  | done (.ok a) => done (.ok (.ok a))
  | done (.error e) =>
    match caught e with
    | some x => done (.ok (.error x))
    | none => done (.error e)
  | ask c next => ask c fun r => (next r).attempt caught

/-- Runs `cleanup` after `p`, however `p` ends, and then ends as `p` did. -/
def finally_ (p : Program I E A) (cleanup : Program I E Unit) : Program I E A := do
  let r ← p.attempt some
  cleanup
  done r

/-- Replaces every call of a program by a program over another interface. -/
def inline (f : (c : I.Call) → Program J E (I.Reply c)) : Program I E A → Program J E A
  | done r => done r
  | ask c next => ((f c).attempt some).bind fun r => (next r).inline f

@[simp] theorem pure_eq (a : A) : (pure a : Program I E A) = done (.ok a) := rfl

@[simp] theorem bind_eq (p : Program I E A) (f : A → Program I E B) : p >>= f = p.bind f := rfl

@[simp] theorem map_eq (f : A → B) (p : Program I E A) :
    f <$> p = p.bind fun a => done (.ok (f a)) := rfl

@[simp] theorem done_ok_bind (a : A) (f : A → Program I E B) :
    (done (.ok a) : Program I E A).bind f = f a := rfl

@[simp] theorem done_error_bind (e : E) (f : A → Program I E B) :
    (done (.error e) : Program I E A).bind f = done (.error e) := rfl

@[simp] theorem ask_bind (c : I.Call) (next : Except E (I.Reply c) → Program I E A)
    (f : A → Program I E B) : (ask c next).bind f = ask c fun r => (next r).bind f := rfl

@[simp] theorem raise_bind (e : E) (f : A → Program I E B) :
    (raise e : Program I E A).bind f = raise e := rfl

theorem bind_assoc (p : Program I E A) (f : A → Program I E B) (g : B → Program I E C) :
    (p.bind f).bind g = p.bind fun a => (f a).bind g := by
  induction p with
  | done r => cases r <;> rfl
  | ask c next ih => simp only [ask_bind, ih]

theorem bind_pure (p : Program I E A) : p.bind (fun a => done (.ok a)) = p := by
  induction p with
  | done r => cases r <;> rfl
  | ask c next ih => simp only [ask_bind, ih]

end Program

/-- The replies to the calls of `I`, from a state `S`. A call that raises still moves the
state. -/
abbrev Handler (I : Interface) (E S : Type) :=
  (c : I.Call) → S → Except E (I.Reply c) × S

/-- One call, its reply, and the state it left. -/
structure Exchange (I : Interface) (E S : Type) where
  call : I.Call
  reply : Except E (I.Reply call)
  after : S

/-- How an execution ended: the exchanges in order, the result, and the final state. -/
structure Outcome (I : Interface) (E S A : Type) where
  exchanges : List (Exchange I E S)
  result : Except E A
  state : S

namespace Program

variable {I J : Interface} {E A B C S T X : Type}

/-- Runs a program from a state, its calls answered by the handler `h`. -/
def exec (h : Handler I E S) : Program I E A → S → Outcome I E S A
  | done r, s => ⟨[], r, s⟩
  | ask c next, s =>
    let o := exec h (next (h c s).1) (h c s).2
    ⟨⟨c, (h c s).1, (h c s).2⟩ :: o.exchanges, o.result, o.state⟩

variable (h : Handler I E S)

@[simp] theorem exec_done (r : Except E A) (s : S) :
    (done r : Program I E A).exec h s = ⟨[], r, s⟩ := rfl

@[simp] theorem exec_raise (e : E) (s : S) :
    (raise e : Program I E A).exec h s = ⟨[], .error e, s⟩ := rfl

@[simp] theorem exec_ask (c : I.Call) (next : Except E (I.Reply c) → Program I E A) (s : S) :
    (ask c next).exec h s =
      ⟨⟨c, (h c s).1, (h c s).2⟩ :: ((next (h c s).1).exec h (h c s).2).exchanges,
        ((next (h c s).1).exec h (h c s).2).result, ((next (h c s).1).exec h (h c s).2).state⟩ :=
  rfl

@[simp] theorem exec_call (c : I.Call) (s : S) :
    (call c : Program I E (I.Reply c)).exec h s = ⟨[⟨c, (h c s).1, (h c s).2⟩], (h c s).1, (h c s).2⟩ :=
  rfl

/-- Execution of a sequence: the second program runs from where the first returned. -/
theorem exec_bind (p : Program I E A) (f : A → Program I E B) (s : S) :
    (p.bind f).exec h s =
      match (p.exec h s).result with
      | .ok a =>
        ⟨(p.exec h s).exchanges ++ ((f a).exec h (p.exec h s).state).exchanges,
          ((f a).exec h (p.exec h s).state).result, ((f a).exec h (p.exec h s).state).state⟩
      | .error e => ⟨(p.exec h s).exchanges, .error e, (p.exec h s).state⟩ := by
  induction p generalizing s with
  | done r => cases r <;> rfl
  | ask c next ih =>
    simp only [ask_bind, exec_ask, ih]
    split <;> simp

/-- Execution of a sequence whose first program returns. -/
theorem exec_bind_of_ok {p : Program I E A} {f : A → Program I E B} {s : S} {a : A}
    (hp : (p.exec h s).result = .ok a) :
    (p.bind f).exec h s =
      ⟨(p.exec h s).exchanges ++ ((f a).exec h (p.exec h s).state).exchanges,
        ((f a).exec h (p.exec h s).state).result, ((f a).exec h (p.exec h s).state).state⟩ := by
  rw [exec_bind, hp]

/-- Execution of a sequence whose first program raises. -/
theorem exec_bind_of_error {p : Program I E A} {f : A → Program I E B} {s : S} {e : E}
    (hp : (p.exec h s).result = .error e) :
    (p.bind f).exec h s = ⟨(p.exec h s).exchanges, .error e, (p.exec h s).state⟩ := by
  rw [exec_bind, hp]

/-- Execution of a program whose result is then checked or transformed. -/
theorem exec_bind_done (p : Program I E A) (f : A → Except E B) (s : S) :
    (p.bind fun a => done (f a)).exec h s =
      ⟨(p.exec h s).exchanges, (p.exec h s).result.bind f, (p.exec h s).state⟩ := by
  rw [exec_bind]
  cases hr : (p.exec h s).result with
  | ok a => simp [Except.bind]
  | error e => rfl

/-- A sequence that returns: its first program returned, and its second returned from there. -/
theorem exec_bind_eq_ok {p : Program I E A} {f : A → Program I E B} {s : S} {b : B}
    (hb : ((p.bind f).exec h s).result = .ok b) :
    ∃ a, (p.exec h s).result = .ok a ∧ ((f a).exec h (p.exec h s).state).result = .ok b ∧
      ((p.bind f).exec h s).exchanges =
        (p.exec h s).exchanges ++ ((f a).exec h (p.exec h s).state).exchanges := by
  cases ha : (p.exec h s).result with
  | ok a =>
    rw [exec_bind_of_ok h ha] at hb ⊢
    exact ⟨a, rfl, hb, rfl⟩
  | error e =>
    rw [exec_bind_of_error h ha] at hb
    cases hb

/-- What `attempt` makes of a result. -/
def reify (caught : E → Option X) : Except E A → Except E (Except X A)
  | .ok a => .ok (.ok a)
  | .error e =>
    match caught e with
    | some x => .ok (.error x)
    | none => .error e

@[simp] theorem reify_ok (caught : E → Option X) (a : A) :
    reify caught (.ok a : Except E A) = .ok (.ok a) := rfl

/-- An attempt returns what the program returned. -/
theorem reify_eq_ok {caught : E → Option X} {r : Except E A} {a : A} :
    reify caught r = .ok (.ok a) ↔ r = .ok a := by
  cases r with
  | ok b => simp
  | error e =>
    simp only [reify]
    split <;> simp

@[simp] theorem reify_some (r : Except E A) : reify some r = .ok r := by cases r <;> rfl

/-- Execution of an attempt: the same exchanges and state, the result reified. -/
@[simp] theorem exec_attempt (caught : E → Option X) (p : Program I E A) (s : S) :
    (p.attempt caught).exec h s =
      ⟨(p.exec h s).exchanges, reify caught (p.exec h s).result, (p.exec h s).state⟩ := by
  induction p generalizing s with
  | done r =>
    cases r with
    | ok a => rfl
    | error e => simp only [attempt, reify, exec_done]; split <;> rfl
  | ask c next ih => simp only [attempt, exec_ask, ih]

/-- The cleanup runs from the state the program left, and its own exchanges come last. -/
theorem exec_finally_ (p : Program I E A) (cleanup : Program I E Unit) (s : S)
    (hc : (cleanup.exec h (p.exec h s).state).result = .ok ()) :
    (p.finally_ cleanup).exec h s =
      ⟨(p.exec h s).exchanges ++ (cleanup.exec h (p.exec h s).state).exchanges,
        (p.exec h s).result, (cleanup.exec h (p.exec h s).state).state⟩ := by
  simp only [finally_, bind_eq]
  rw [exec_bind_of_ok h (a := (p.exec h s).result) (by simp)]
  simp only [exec_attempt]
  rw [exec_bind_of_ok h hc]
  simp

section Inline

variable (f : (c : I.Call) → Program J E (I.Reply c)) (g : Handler J E S)

/-- The handler that answers each call by running its program under `g`. -/
def handlerOf : Handler I E S := fun c s => (((f c).exec g s).result, ((f c).exec g s).state)

/-- **Inlining is handling by execution**: the result of an inlined program. -/
theorem exec_inline_result (p : Program I E A) (s : S) :
    ((p.inline f).exec g s).result = (p.exec (handlerOf f g) s).result := by
  induction p generalizing s with
  | done r => rfl
  | ask c next ih =>
    simp only [inline, exec_ask]
    rw [exec_bind_of_ok g (a := ((f c).exec g s).result) (by simp)]
    simpa [handlerOf] using ih _ _

/-- **Inlining is handling by execution**: the final state of an inlined program. -/
theorem exec_inline_state (p : Program I E A) (s : S) :
    ((p.inline f).exec g s).state = (p.exec (handlerOf f g) s).state := by
  induction p generalizing s with
  | done r => rfl
  | ask c next ih =>
    simp only [inline, exec_ask]
    rw [exec_bind_of_ok g (a := ((f c).exec g s).result) (by simp)]
    simpa [handlerOf] using ih _ _

end Inline

end Program

end Snarkypuss
