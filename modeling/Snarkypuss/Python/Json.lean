import Snarkypuss.Exceptions
import Snarkypuss.Json.RoundTrip

/-!
# The JSON module

`json.loads` and `json.dumps` of the interpreter. Integers of more than 4300 digits are neither
read nor written. How deeply containers may be nested depends on the stack of the caller.

## Main definitions

* `Interpreter`: an interpreter, by the nesting it has room for
* `loads`, `dumps`: `json.loads`, and `json.dumps` with compact separators

## Main results

* `loads_write`: what is written is read back, whichever way texts are escaped
-/

namespace Snarkypuss.Python

/-- `sys.get_int_max_str_digits()`, its default. -/
def maxStrDigits : Nat := 4300

/-- An interpreter, by the number of containers that `json.loads` may nest before it runs into
the recursion limit. -/
structure Interpreter where
  maxDepth : Nat
  maxDepth_ge : 64 ≤ maxDepth

theorem least_maxDepth : 64 ≤ 64 := le_refl 64

def Interpreter.limits (interpreter : Interpreter) : Json.Limits :=
  ⟨maxStrDigits, interpreter.maxDepth⟩

/-- The `ValueError` about an integer of too many digits. -/
def tooManyDigits : PyException :=
  .value "Exceeds the limit (4300 digits) for integer string conversion"

/-- The exceptions of `json.loads`. -/
def loadFailure : Json.Failure → PyException
  | .decode => .jsonDecode
  | .digits => tooManyDigits
  | .recursion => .recursion

/-- `json.loads(s)`. -/
def loads (interpreter : Interpreter) (s : String) : Except PyException Json :=
  (Json.loads interpreter.limits s.toList).mapError loadFailure

/-- How `json.loads` fails. -/
theorem loads_error {interpreter : Interpreter} {s : String} {e : PyException}
    (h : loads interpreter s = .error e) : e = .jsonDecode ∨ e = tooManyDigits ∨ e = .recursion := by
  unfold loads at h
  cases hread : Json.loads interpreter.limits s.toList with
  | ok value =>
    rw [hread] at h
    cases h
  | error failure =>
    rw [hread] at h
    cases h
    cases failure with
    | decode => exact .inl rfl
    | digits => exact .inr (.inl rfl)
    | recursion => exact .inr (.inr rfl)

/-- The integers that the interpreter reads and writes. -/
def Admits (n : Int) : Prop := (Nat.toDigits 10 n.natAbs).length ≤ maxStrDigits

instance (n : Int) : Decidable (Admits n) := inferInstanceAs (Decidable (_ ≤ _))

/-- The integers within the bound, by their size. -/
theorem admits_iff {n : Int} : Admits n ↔ n.natAbs < 10 ^ maxStrDigits :=
  Nat.length_toDigits_le_iff (by omega) (by decide)

/-- `json.dumps(value, separators=(",", ":"))`. -/
def dumps (value : Json) : Except PyException String :=
  if ∀ n ∈ value.ints, Admits n then .ok (Json.dumps Json.asciiEscaping value)
  else .error tooManyDigits

/-- **What is written is read back**, whichever way texts are escaped. -/
theorem loads_write (interpreter : Interpreter) (escaping : Json.Escaping) {d : Nat} {value : Json}
    (hshaped : value.Shaped Json.FloatLiteral d) (hdepth : d ≤ 64)
    (hints : ∀ n ∈ value.ints, Admits n) :
    loads interpreter (Json.dumps escaping value) = .ok value := by
  have hread : Json.loads interpreter.limits (Json.write escaping value) = .ok value :=
    Json.loads_write escaping hshaped (hdepth.trans interpreter.maxDepth_ge) hints
  rw [loads, Json.dumps, String.toList_ofList, hread]
  rfl

end Snarkypuss.Python
