import Mathlib

/-!
# Python exceptions

The exception classes that the modelled code raises or catches. Code of the provider, of the
repository and of the collectors may raise any of them.

## Main definitions

* `PyException`: an exception, with the attributes its handlers read
* `PyException.provider?`, `PyException.repository?`, `PyException.statusCollection?`: the
  `except` clauses by class
* `Raises`: what is known of the exceptions of a result
-/

namespace Snarkypuss

/-- A raised exception. A plain `ValueError` and the classes below it that no clause of the code
distinguishes are `value`; every class that is not listed is `other`. -/
inductive PyException
  | provider (code message : String)
  | repository (code message : String)
  | statusCollection (code message : String)
  | validation
  | protocol (message : String)
  | jsonDecode
  | unicodeDecode
  | sqlite (message : String)
  | os (message : String)
  | value (message : String)
  | recursion
  | other (name : String)
  deriving DecidableEq

namespace PyException

/-- `except ProviderError as exc`: the code and the message. -/
def provider? : PyException → Option (String × String)
  | provider code message => some (code, message)
  | _ => none

/-- `except RepositoryError as exc`. -/
def repository? : PyException → Option (String × String)
  | repository code message => some (code, message)
  | _ => none

/-- `except StatusCollectionError as exc`. -/
def statusCollection? : PyException → Option (String × String)
  | statusCollection code message => some (code, message)
  | _ => none

theorem provider?_eq_some {e : PyException} {x : String × String} :
    e.provider? = some x ↔ e = provider x.1 x.2 := by
  obtain ⟨code, message⟩ := x
  cases e <;> simp [provider?]

theorem repository?_eq_some {e : PyException} {x : String × String} :
    e.repository? = some x ↔ e = repository x.1 x.2 := by
  obtain ⟨code, message⟩ := x
  cases e <;> simp [repository?]

theorem statusCollection?_eq_some {e : PyException} {x : String × String} :
    e.statusCollection? = some x ↔ e = statusCollection x.1 x.2 := by
  obtain ⟨code, message⟩ := x
  cases e <;> simp [statusCollection?]

end PyException

/-- A sequence that returns: its first part returned, and its second part from there. -/
theorem bind_eq_ok {ε α β : Type} {x : Except ε α} {f : α → Except ε β} {b : β} :
    (x >>= f) = .ok b ↔ ∃ a, x = .ok a ∧ f a = .ok b := by
  cases x with
  | error e => exact ⟨fun h => (nomatch h), fun ⟨a, ha, _⟩ => (nomatch ha)⟩
  | ok a =>
    refine ⟨fun h => ⟨a, rfl, h⟩, ?_⟩
    rintro ⟨_, ha, h⟩
    cases ha
    exact h

/-! ## What a result raises -/

/-- What a result raises, if it raises, obeys `K`. -/
def Raises {α : Type} (K : PyException → Prop) (r : Except PyException α) : Prop :=
  ∀ e, r = .error e → K e

section Raises

variable {α β : Type} {K : PyException → Prop} {r : Except PyException α}
  {f : α → Except PyException β}

theorem raises_ok (a : α) : Raises K (.ok a) := nofun

@[simp] theorem raises_error_iff {e : PyException} :
    Raises K (.error e : Except PyException α) ↔ K e := by
  refine ⟨fun h => h e rfl, fun h e' he => ?_⟩
  cases he
  exact h

theorem Raises.mono {K' : PyException → Prop} (h : Raises K r) (hK : ∀ e, K e → K' e) :
    Raises K' r := fun e he => hK e (h e he)

/-- The rule of sequencing. -/
theorem Raises.bind (hr : Raises K r) (hf : ∀ a, Raises K (f a)) : Raises K (r >>= f) := by
  cases r with
  | ok a => exact hf a
  | error e => exact raises_error_iff.mpr (raises_error_iff.mp hr)

/-- A fold raises what its steps raise. -/
theorem raises_foldlM {step : β → α → Except PyException β} (hstep : ∀ b a, Raises K (step b a))
    (l : List α) (b : β) : Raises K (l.foldlM step b) := by
  induction l generalizing b with
  | nil => exact raises_ok b
  | cons a l ih => exact (hstep b a).bind ih

theorem raises_mapM {g : α → Except PyException β} (hg : ∀ a, Raises K (g a)) (l : List α) :
    Raises K (l.mapM g) := by
  induction l with
  | nil => exact raises_ok []
  | cons a l ih =>
    rw [List.mapM_cons]
    exact (hg a).bind fun b => ih.bind fun bs => raises_ok _

/-- A sequence whose second part raises only what obeys `K` is judged by its first part. -/
theorem raises_bind_iff (hf : ∀ a, Raises K (f a)) : Raises K (r.bind f) ↔ Raises K r := by
  cases r with
  | ok a => exact ⟨fun _ => raises_ok a, fun _ => hf a⟩
  | error e => exact raises_error_iff.trans raises_error_iff.symm

end Raises

/-- Pydantic's check of one constraint: the value with the proof, or a `ValidationError`. -/
def validated {α : Type} (p : α → Prop) [DecidablePred p] (a : α) :
    Except PyException {a // p a} :=
  if h : p a then .ok ⟨a, h⟩ else .error .validation

theorem validated_of {α : Type} {p : α → Prop} [DecidablePred p] {a : α} (h : p a) :
    validated p a = .ok ⟨a, h⟩ := dif_pos h

end Snarkypuss
