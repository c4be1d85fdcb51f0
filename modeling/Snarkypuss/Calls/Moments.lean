import Snarkypuss.Calls.Processes

/-!
# Moments of a run

What a process was told, it was told at some moment of the run: by then a part of the run had
happened, and the rest came after. The requests of the processes are those that were started, in
order.

## Main definitions

* `System.Made`: the moment when a process made a call
* `Machine.Ended`: a process that has ended, and how
* `requests`: what was started

## Main results

* `System.Made.step`: a moment of a run is one of its continuations
* `System.Run.requests`: the processes serve what was started
-/

namespace Snarkypuss

variable {I : Interface} {E A S R : Type} {sys : System R I E S A}

/-! ## Moments -/

/-- In a run from `M` to `N`, a process made a call and was answered when `events₁` had happened and
the machine was `N₁`. -/
def System.Made (sys : System R I E S A) (M : Machine R I E S A) (events : List (Happening R I E))
    (N : Machine R I E S A) (i : ℕ) (c : I.Call) (reply : Except E (I.Reply c))
    (events₁ : List (Happening R I E)) (N₁ : Machine R I E S A) : Prop :=
  sys.Run (fun _ _ _ => True) M events₁ N₁ ∧ ∃ N₂ events₂, sys.Step N₁ (.call i c reply) N₂ ∧
    sys.Run (fun _ _ _ => True) N₂ events₂ N ∧ events = events₁ ++ .call i c reply :: events₂

/-- A process has ended with a result. -/
def Machine.Ended (M : Machine R I E S A) (i : ℕ) (r : R) (result : Except E A) : Prop :=
  ∃ b, M.processes[i]? = some ⟨r, .done result, b⟩

namespace System.Made

variable {M N N' N₁ : Machine R I E S A} {events events₁ : List (Happening R I E)} {i : ℕ}
  {c : I.Call} {reply : Except E (I.Reply c)} {e : Happening R I E}

/-- The last moment. -/
theorem last (run : sys.Run (fun _ _ _ => True) M events N) (hstep : sys.Step N (.call i c reply) N') :
    sys.Made M (events ++ [.call i c reply]) N' i c reply events N :=
  ⟨run, N', [], hstep, .refl, rfl⟩

/-- A moment of a run is one of its continuations. -/
theorem step (h : sys.Made M events N i c reply events₁ N₁) (hstep : sys.Step N e N') :
    sys.Made M (events ++ [e]) N' i c reply events₁ N₁ := by
  obtain ⟨run, N₂, events₂, hstep₂, run₂, rfl⟩ := h
  refine ⟨run, N₂, events₂ ++ [e], hstep₂, run₂.step trivial hstep, ?_⟩
  rw [List.append_assoc, List.cons_append]

end System.Made

/-! ## Requests -/

/-- What was started. -/
def requests (events : List (Happening R I E)) : List R :=
  events.filterMap fun e => match e with
    | .start r => some r
    | _ => none

@[simp] theorem requests_nil : requests ([] : List (Happening R I E)) = [] := rfl

theorem requests_append (events events' : List (Happening R I E)) :
    requests (events ++ events') = requests events ++ requests events' :=
  List.filterMap_append

@[simp] theorem requests_start (r : R) : requests [(.start r : Happening R I E)] = [r] := rfl

@[simp] theorem requests_call (i : ℕ) (c : I.Call) (reply : Except E (I.Reply c)) :
    requests [(.call i c reply : Happening R I E)] = [] := rfl

@[simp] theorem requests_stop (i : ℕ) : requests [(.stop i : Happening R I E)] = [] := rfl

/-- **The processes serve what was started**, in order. -/
theorem System.Run.requests {meets : Machine R I E S A → Happening R I E → Machine R I E S A → Prop}
    {M N : Machine R I E S A} {events : List (Happening R I E)} (run : sys.Run meets M events N) :
    N.processes.map Process.request = M.processes.map Process.request ++ requests events := by
  induction run with
  | refl => simp
  | @step events N e N' run hmeets hstep ih =>
    have hset : ∀ {i : ℕ} {p q : Process R I E A}, N.processes[i]? = some p → p.request = q.request →
        (N.processes.set i q).map Process.request = N.processes.map Process.request := by
      intro i p q hi hrequest
      rw [List.map_set, ← hrequest]
      ext k : 1
      by_cases hk : k = i
      · subst hk
        obtain ⟨hlt, rfl⟩ := List.getElem?_eq_some_iff.mp hi
        simp [hlt]
      · rw [List.getElem?_set_ne (Ne.symm hk)]
    rw [requests_append, ← List.append_assoc, ← ih]
    cases hstep with
    | start r s' hstarts => simp
    | call i r c next reply s' hi hanswers => simpa using hset hi rfl
    | stop i r c next hi => simpa using hset hi rfl

end Snarkypuss
