import Snarkypuss.Calls.Logic

/-!
# Sessions: requests served one after the other

A server answers each request by executing its program to the end before the next request. A
request that raises leaves the state it reached, and the session goes on from there.

## Main definitions

* `Served`: a request with the outcome of its program
* `Session h serve meets s₀ history s`: the history and the state after a sequence of requests,
  each meeting a condition on the request and the state before it

## Main results

* `Session.invariant`: what each request keeps, the session keeps
* `Session.mem`: every served request was executed from a state the session reached
-/

namespace Snarkypuss

variable {I : Interface} {E A S R : Type}

/-- A request, and how its program ended. -/
structure Served (R : Type) (I : Interface) (E S A : Type) where
  request : R
  outcome : Outcome I E S A

/-- The request `r` served from the state `s`. -/
def Served.run (h : Handler I E S) (serve : R → Program I E A) (r : R) (s : S) :
    Served R I E S A :=
  ⟨r, (serve r).exec h s⟩

/-- The sequences of requests served from `s₀`, each meeting `meets` in the state before it. -/
inductive Session (h : Handler I E S) (serve : R → Program I E A) (meets : R → S → Prop)
    (s₀ : S) : List (Served R I E S A) → S → Prop
  | start : Session h serve meets s₀ [] s₀
  | serve {history s} (prior : Session h serve meets s₀ history s) (r : R) (hr : meets r s) :
      Session h serve meets s₀ (history ++ [Served.run h serve r s]) ((serve r).exec h s).state

namespace Session

variable {h : Handler I E S} {serve : R → Program I E A} {meets : R → S → Prop} {s₀ s : S}
  {history : List (Served R I E S A)}

/-- What each request keeps, the session keeps. -/
theorem invariant {K : S → Prop} (run : Session h serve meets s₀ history s) (h₀ : K s₀)
    (hstep : ∀ r s, meets r s → K s → K ((serve r).exec h s).state) : K s := by
  induction run with
  | start => exact h₀
  | serve prior r hr ih => exact hstep r _ hr ih

/-- An invariant that also speaks of the history. -/
theorem invariant_history {K : List (Served R I E S A) → S → Prop}
    (run : Session h serve meets s₀ history s) (h₀ : K [] s₀)
    (hstep : ∀ r history s, meets r s → K history s →
      K (history ++ [Served.run h serve r s]) ((serve r).exec h s).state) : K history s := by
  induction run with
  | start => exact h₀
  | serve prior r hr ih => exact hstep r _ _ hr ih

/-- Every served request was executed from a state the session reached before it. -/
theorem mem (run : Session h serve meets s₀ history s) {x : Served R I E S A}
    (hx : x ∈ history) : ∃ r earlier t, Session h serve meets s₀ earlier t ∧ meets r t ∧
      x = Served.run h serve r t := by
  induction run with
  | start => cases hx
  | @serve history s prior r hr ih =>
    rcases List.mem_append.mp hx with hx | hx
    · exact ih hx
    · obtain rfl := List.mem_singleton.mp hx
      exact ⟨r, history, s, prior, hr, rfl⟩

theorem weaken {meets' : R → S → Prop} (run : Session h serve meets s₀ history s)
    (hm : ∀ r s, meets r s → meets' r s) : Session h serve meets' s₀ history s := by
  induction run with
  | start => exact .start
  | serve prior r hr ih => exact .serve ih r (hm r _ hr)

end Session

end Snarkypuss
