import Snarkypuss.Python.Json
import Snarkypuss.Targets.Models

/-!
# Selector documents as JSON

A selector document is stored as compact JSON with its keys sorted, and read back through the
validation of `dict[str, JsonScalar]`. Values of the four scalar types are validated as they are;
what the validation makes of any other value is a parameter.

## Main definitions

* `selectorJson`, `encodeSelector`: the canonical JSON of a selector document
* `readScalar`, `readSelector`: the validation of a decoded document

## Main results

* `decode_encodeSelector`: a stored document is read back with its keys sorted
* `boundedSelector_same`: the bounds on a document do not depend on the order of its keys
-/

namespace Snarkypuss

/-- A scalar, as JSON. -/
def scalarJson : JsonScalar → Json
  | .str s => Json.ofString s
  | .int n => .int n
  | .bool b => .bool b
  | .none => .null

/-- A document, as JSON with its members in order. -/
def objectJson (object : JsonObject) : Json :=
  .obj (object.entries.map fun e => (Text.ofString e.1, scalarJson e.2))

/-- The canonical JSON of a selector document. -/
def selectorJson (selector : JsonObject) : Json := objectJson selector.sortKeys

/-- `json.dumps(selector, sort_keys=True, separators=(",", ":"))`. -/
def encodeSelector (selector : JsonObject) : Except PyException String :=
  Python.dumps (selectorJson selector)

/-- The validation of a `JsonScalar`. -/
def readScalar (lax : Json → Option JsonScalar) : Json → Option JsonScalar
  | .str t => (Text.toString? t).map .str
  | .int n => some (.int n)
  | .bool b => some (.bool b)
  | .null => some .none
  | j => lax j

/-- One member of a `JsonObject`. -/
def readMember (lax : Json → Option JsonScalar) (member : Text × Json) :
    Option (String × JsonScalar) := do
  let key ← Text.toString? member.1
  let value ← readScalar lax member.2
  pure (key, value)

/-- The validation of a `JsonObject`. -/
def readSelector (lax : Json → Option JsonScalar) : Json → Option JsonObject
  | .obj members => (members.mapM (readMember lax)).map Dict.ofPairs
  | _ => none

section RoundTrip

variable (lax : Json → Option JsonScalar)

@[simp] theorem readScalar_scalarJson (value : JsonScalar) :
    readScalar lax (scalarJson value) = some value := by
  cases value with
  | str s => simp [scalarJson, Json.ofString, readScalar]
  | _ => rfl

/-- A document is read back from its JSON. -/
theorem readSelector_objectJson (object : JsonObject) :
    readSelector lax (objectJson object) = some object := by
  have hmembers : ∀ entries : List (String × JsonScalar),
      (entries.map fun e => (Text.ofString e.1, scalarJson e.2)).mapM (readMember lax) =
        some entries := by
    intro entries
    induction entries with
    | nil => rfl
    | cons e entries ih =>
      rw [List.map_cons, List.mapM_cons, ih]
      simp [readMember]
  rw [objectJson, readSelector, hmembers]
  exact congrArg some (Dict.ofPairs_self object)

theorem shaped_scalarJson {literals : String → Prop} (d : Nat) (value : JsonScalar) :
    Json.Shaped literals d (scalarJson value) := by
  cases value with
  | str s => exact .str s
  | int n => exact .int n
  | bool b => exact .bool b
  | none => exact .null

theorem shaped_objectJson {literals : String → Prop} (object : JsonObject) :
    Json.Shaped literals 1 (objectJson object) := by
  refine .obj ?_ ?_ ?_
  · have hnodup := object.keys_nodup.map Text.ofString_injective
    rw [List.map_map] at hnodup ⊢
    exact hnodup
  · intro member hmember
    obtain ⟨e, -, rfl⟩ := List.mem_map.mp hmember
    exact ⟨e.1, rfl⟩
  · intro member hmember
    obtain ⟨e, -, rfl⟩ := List.mem_map.mp hmember
    exact shaped_scalarJson 0 e.2

/-- **A stored document is read back** with its keys sorted. -/
theorem decode_encodeSelector (interpreter : Python.Interpreter) {selector : JsonObject}
    {text : String} (h : encodeSelector selector = .ok text) :
    ∃ document, Python.loads interpreter text = .ok document ∧
      readSelector lax document = some selector.sortKeys := by
  refine ⟨selectorJson selector, ?_, readSelector_objectJson lax _⟩
  unfold encodeSelector Python.dumps at h
  split at h
  · rename_i hints
    cases h
    exact Python.loads_write interpreter Json.asciiEscaping (shaped_objectJson _) (by omega) hints
  · cases h

end RoundTrip

/-- The bounds on a document do not depend on the order of its keys. -/
theorem boundedSelector_same {selector selector' : JsonObject} (h : selector.Same selector') :
    boundedSelector selector = boundedSelector selector' := by
  have hperm := h.perm
  have hempty : selector.entries.isEmpty = selector'.entries.isEmpty := hperm.isEmpty_eq
  have hkeys : ∀ p : String → Bool, selector.keys.all p = selector'.keys.all p :=
    fun p => (hperm.map Prod.fst).all_eq
  have hvalues : ∀ p : JsonScalar → Bool, selector.values.all p = selector'.values.all p :=
    fun p => (hperm.map Prod.snd).all_eq
  simp only [boundedSelector, hempty, hperm.length_eq, hkeys, hvalues]

end Snarkypuss
