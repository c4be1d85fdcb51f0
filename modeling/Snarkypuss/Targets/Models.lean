import Snarkypuss.Collections.Dict
import Snarkypuss.Exceptions

/-!
# Target models

The storage-independent models of provider target catalogues. Each model carries the
constraints its class declares as fields, so a value of the type is a validated instance.

## Main definitions

* `Identifier`, `FieldName`, `FailureCode`, `Label`: constrained text
* `JsonScalar`, `JsonObject`: the values of a selector document
* `SelectorField`, `SelectorKind`, `ProviderTargetSchema`: a provider's selector schema
* `TargetOption`, `TargetOptions`: discovered values of one selector field
* `StoredTarget`, `TargetCatalogue`: the ordered catalogue of one provider
* `TargetCatalogue.validate`: the constructor's checks
* `AliasMap`: targets by alias

## Main results

* `TargetCatalogue.validate_eq_ok_iff`: what the constructor accepts
* `AliasMap.get?_alias`: the target found at an alias has that alias
-/

namespace Snarkypuss

/-! ## Constrained text -/

/-- The pattern `^HEAD TAIL{0,extra}$` over character classes. -/
def matchesPattern (head tail : Char → Bool) (extra : Nat) (s : String) : Bool :=
  match s.toList with
  | [] => false
  | c :: cs => head c && cs.all tail && decide (cs.length ≤ extra)

def isLowerTail (c : Char) : Bool := c.isLower || c.isDigit || c == '_' || c == '-'

def isFieldTail (c : Char) : Bool := c.isLower || c.isDigit || c == '_'

def isUpperTail (c : Char) : Bool := c.isUpper || c.isDigit || c == '_'

/-- `^[a-z][a-z0-9_-]{0,31}$`: aliases, provider names, selector kinds and component names. -/
abbrev Identifier := {s : String // matchesPattern Char.isLower isLowerTail 31 s}

/-- `^[a-z][a-z0-9_]{0,31}$`: selector field names. -/
abbrev FieldName := {s : String // matchesPattern Char.isLower isFieldTail 31 s}

/-- `^[A-Z][A-Z0-9_]{0,63}$`: failure codes. -/
abbrev FailureCode := {s : String // matchesPattern Char.isUpper isUpperTail 63 s}

/-- Text of `lo` to `hi` characters. -/
abbrev BoundedText (lo hi : Nat) := {s : String // lo ≤ s.length ∧ s.length ≤ hi}

/-- Display labels. -/
abbrev Label := BoundedText 1 100

def maxTargets : Nat := 100
def maxSelectorFields : Nat := 16
def maxTargetOptions : Nat := 256

theorem zero_lt_maxTargets : 0 < maxTargets := by decide

theorem one_lt_maxTargets : 1 < maxTargets := by decide

theorem maxTargets_bounds : 1 ≤ maxTargets ∧ maxTargets ≤ maxTargets := by decide

/-! ## Selector documents -/

/-- `JsonScalar = str | int | bool | None`. -/
inductive JsonScalar
  | str (s : String)
  | int (n : Int)
  | bool (b : Bool)
  | none
  deriving DecidableEq

/-- `JsonObject = dict[str, JsonScalar]`. -/
abbrev JsonObject := Dict String JsonScalar

/-! ## Selector schemas -/

inductive SelectorFieldType
  | text | choice | boolean | integer
  deriving DecidableEq

inductive SelectorOptionSource
  | static | provider
  deriving DecidableEq

namespace SelectorFieldType

/-! The constraints on a field, where it keeps the defaults. -/

theorem length_no_choices : ([] : List String).length ≤ 100 := by decide

theorem length_no_dependencies : ([] : List String).length ≤ maxSelectorFields := by decide

theorem no_maxLength : ∀ n ∈ (none : Option Nat), 1 ≤ n ∧ n ≤ 200 := by decide

theorem static_text : SelectorOptionSource.static = .provider → text = choice := by decide

theorem provider_choice : SelectorOptionSource.provider = .provider → choice = choice := by decide

theorem static_no_choices : SelectorOptionSource.static = .provider → ([] : List String) = [] := by
  decide

theorem provider_no_choices :
    SelectorOptionSource.provider = .provider → ([] : List String) = [] := by
  decide

end SelectorFieldType

/-- One provider-declared selector field. -/
structure SelectorField where
  name : FieldName
  label : Label
  fieldType : SelectorFieldType
  required : Bool := true
  choices : List String := []
  optionSource : SelectorOptionSource := .static
  dependsOn : List String := []
  maxLength : Option Nat := none
  choices_length : choices.length ≤ 100 := by
    first | exact Snarkypuss.SelectorFieldType.length_no_choices | decide
  dependsOn_length : dependsOn.length ≤ maxSelectorFields := by
    first | exact Snarkypuss.SelectorFieldType.length_no_dependencies | decide
  maxLength_bounds : ∀ n ∈ maxLength, 1 ≤ n ∧ n ≤ 200 := by
    first | exact Snarkypuss.SelectorFieldType.no_maxLength | decide
  optionSource_choice : optionSource = .provider → fieldType = .choice := by
    first
    | exact Snarkypuss.SelectorFieldType.static_text
    | exact Snarkypuss.SelectorFieldType.provider_choice
    | decide
  optionSource_choices : optionSource = .provider → choices = [] := by
    first
    | exact Snarkypuss.SelectorFieldType.static_no_choices
    | exact Snarkypuss.SelectorFieldType.provider_no_choices
    | decide
  deriving DecidableEq

/-- The nested function `visit` of `SelectorKind.validate_dependencies`: depth-first search over
the sets of names being visited and already visited, `none` on a cycle. The search never nests
deeper than the number of names, which bounds `fuel`. -/
def visit (dependencies : String → List String) :
    Nat → List String × List String → String → Option (List String × List String)
  | 0, _, _ => none
  | fuel + 1, (visiting, visited), fieldName =>
    if fieldName ∈ visiting then none
    else if fieldName ∈ visited then some (visiting, visited)
    else
      ((dependencies fieldName).foldlM (visit dependencies fuel) (fieldName :: visiting, visited)).map
        fun (visiting, visited) => (visiting.erase fieldName, fieldName :: visited)

/-- `SelectorKind.validate_dependencies`. -/
def validateDependencies (fields : List SelectorField) : Bool :=
  let fieldNames := fields.map (·.name.val)
  let dependencies := fun name =>
    ((fields.find? (·.name.val = name)).map SelectorField.dependsOn).getD []
  decide fieldNames.Nodup &&
    fields.all (fun field => decide field.dependsOn.Nodup &&
      field.dependsOn.all (fun dependency => decide (dependency ∈ fieldNames))) &&
    (fieldNames.foldlM (visit dependencies (fields.length + 1)) ([], [])).isSome

/-- One structured selector shape supported by a provider. -/
structure SelectorKind where
  kind : Identifier
  label : Label
  fields : List SelectorField := []
  fields_length : fields.length ≤ maxSelectorFields := by decide
  dependencies : validateDependencies fields := by decide
  deriving DecidableEq

/-- Provider-declared, data-only selector schema. -/
structure ProviderTargetSchema where
  provider : Identifier
  selectorKinds : List SelectorKind
  maxTargets : Nat := Snarkypuss.maxTargets
  kinds_length : selectorKinds.length ≤ 16 := by decide
  kinds_nodup : (selectorKinds.map (·.kind.val)).Nodup := by decide
  maxTargets_bounds : 1 ≤ maxTargets ∧ maxTargets ≤ Snarkypuss.maxTargets := by
    first | exact Snarkypuss.maxTargets_bounds | decide
  deriving DecidableEq

/-- One provider-discovered selector value and its display label. -/
structure TargetOption where
  value : BoundedText 1 200
  label : Label
  deriving DecidableEq

/-- Provider-neutral response for one dynamic selector field. -/
structure TargetOptions where
  provider : Identifier
  kind : Identifier
  field : FieldName
  options : List TargetOption
  options_length : options.length ≤ maxTargetOptions
  deriving DecidableEq

/-! ## Stored targets and catalogues -/

/-- `StoredTarget.bounded_selector`. -/
def boundedSelector (selector : JsonObject) : Bool :=
  !selector.entries.isEmpty && decide (selector.entries.length ≤ maxSelectorFields) &&
    selector.keys.all (fun key => decide (key.length ≤ 32)) &&
    selector.values.all fun value =>
      match value with
      | .str s => decide (s.length ≤ 200)
      | _ => true

/-- One ordered target containing a provider-owned selector document. -/
structure StoredTarget where
  «alias» : Identifier
  label : Label
  position : Fin maxTargets
  selector : JsonObject
  bounded : boundedSelector selector
  deriving DecidableEq

/-- The constructor of a `StoredTarget`. -/
def StoredTarget.validate (alias_ label : String) (position : Int) (selector : JsonObject) :
    Except PyException StoredTarget :=
  if h : (matchesPattern Char.isLower isLowerTail 31 alias_ ∧
      1 ≤ label.length ∧ label.length ≤ 100) ∧
      (0 ≤ position ∧ position.toNat < maxTargets) ∧ boundedSelector selector then
    .ok ⟨⟨alias_, h.1.1⟩, ⟨label, h.1.2⟩, ⟨position.toNat, h.2.1.2⟩, selector, h.2.2⟩
  else .error .validation

/-- The checks of `TargetCatalogue.validate_order`, and the bound on the number of targets. -/
def ValidOrder (targets : List StoredTarget) : Prop :=
  targets.length ≤ maxTargets ∧ (targets.map fun t => t.alias.val).Nodup ∧
    targets.map (fun t => t.position.val) = List.range targets.length

instance (targets : List StoredTarget) : Decidable (ValidOrder targets) :=
  inferInstanceAs (Decidable (_ ∧ _))

/-- Complete target catalogue for exactly one provider. -/
structure TargetCatalogue where
  provider : Identifier
  revision : Nat
  targets : List StoredTarget
  order : ValidOrder targets
  deriving DecidableEq

/-- The constructor of a `TargetCatalogue`. -/
def TargetCatalogue.validate (provider : String) (revision : Int) (targets : List StoredTarget) :
    Except PyException TargetCatalogue :=
  if h : matchesPattern Char.isLower isLowerTail 31 provider ∧ 0 ≤ revision ∧
      ValidOrder targets then
    .ok ⟨⟨provider, h.1⟩, revision.toNat, targets, h.2.2⟩
  else .error .validation

theorem TargetCatalogue.validate_eq_ok_iff {provider : String} {revision : Int}
    {targets : List StoredTarget} {c : TargetCatalogue} :
    TargetCatalogue.validate provider revision targets = .ok c ↔
      c.provider = provider ∧ c.revision = revision ∧ c.targets = targets := by
  obtain ⟨⟨p, hp⟩, r, ts, ho⟩ := c
  simp only [TargetCatalogue.validate]
  constructor
  · intro h
    split at h
    · rename_i hv
      cases h
      exact ⟨rfl, Int.toNat_of_nonneg hv.2.1, rfl⟩
    · cases h
  · rintro ⟨rfl, rfl, rfl⟩
    rw [dif_pos ⟨hp, Int.natCast_nonneg r, ho⟩]
    simp

theorem TargetCatalogue.validate_eq_error {provider : String} {revision : Int}
    {targets : List StoredTarget} {e : PyException}
    (h : TargetCatalogue.validate provider revision targets = .error e) : e = .validation := by
  simp only [TargetCatalogue.validate] at h
  split at h <;> cases h
  rfl

/-- The constructor's result on a catalogue's own parts is the catalogue. -/
@[simp] theorem TargetCatalogue.validate_self (c : TargetCatalogue) :
    TargetCatalogue.validate c.provider c.revision c.targets = .ok c :=
  validate_eq_ok_iff.mpr ⟨rfl, rfl, rfl⟩

/-! ## Equality of models

Python compares two models field by field, and two selector documents as mappings. -/

/-- Two targets are equal as models. -/
structure StoredTarget.Same (t t' : StoredTarget) : Prop where
  alias_eq : t.alias = t'.alias
  label_eq : t.label = t'.label
  position_eq : t.position = t'.position
  selector_same : t.selector.Same t'.selector

/-- Two catalogues are equal as models. -/
structure TargetCatalogue.Same (c c' : TargetCatalogue) : Prop where
  provider_eq : c.provider = c'.provider
  revision_eq : c.revision = c'.revision
  targets_same : List.Forall₂ StoredTarget.Same c.targets c'.targets

theorem StoredTarget.Same.refl (t : StoredTarget) : t.Same t := ⟨rfl, rfl, rfl, .refl _⟩

theorem StoredTarget.Same.symm {t t' : StoredTarget} (h : t.Same t') : t'.Same t :=
  ⟨h.alias_eq.symm, h.label_eq.symm, h.position_eq.symm, h.selector_same.symm⟩

theorem StoredTarget.Same.trans {t t' t'' : StoredTarget} (h : t.Same t') (h' : t'.Same t'') :
    t.Same t'' :=
  ⟨h.alias_eq.trans h'.alias_eq, h.label_eq.trans h'.label_eq,
    h.position_eq.trans h'.position_eq, h.selector_same.trans h'.selector_same⟩

theorem TargetCatalogue.Same.refl (c : TargetCatalogue) : c.Same c :=
  ⟨rfl, rfl, List.forall₂_same.mpr fun t _ => .refl t⟩

theorem TargetCatalogue.Same.symm {c c' : TargetCatalogue} (h : c.Same c') : c'.Same c :=
  ⟨h.provider_eq.symm, h.revision_eq.symm,
    (h.targets_same.flip).imp fun _ _ ht => StoredTarget.Same.symm ht⟩

/-! ## Targets by alias -/

/-- A dictionary of targets in which every target stands at its own alias. -/
structure AliasMap where
  dict : Dict String StoredTarget
  alias_eq : ∀ alias_ t, dict.get? alias_ = some t → t.alias = alias_

/-- `{target.alias: target for target in targets}`. -/
def aliasMap (targets : List StoredTarget) : AliasMap where
  dict := Dict.ofPairs (targets.map fun t => (t.alias.val, t))
  alias_eq alias_ t h := by
    obtain ⟨t', -, ht'⟩ := List.mem_map.mp (Dict.get?_ofPairs_mem h)
    obtain ⟨rfl, rfl⟩ := Prod.ext_iff.mp ht'
    rfl

/-- The alias map of distinct aliases lists the targets in order. -/
theorem aliasMap_values {targets : List StoredTarget}
    (h : (targets.map fun t => t.alias.val).Nodup) : (aliasMap targets).dict.values = targets := by
  have hkeys : ((targets.map fun t => (t.alias.val, t)).map Prod.fst).Nodup := by
    rwa [List.map_map]
  rw [Dict.values, aliasMap, Dict.ofPairs_entries hkeys, List.map_map]
  exact List.map_id _

/-! ## Renumbering -/

/-- `model_copy(update={"position": position})` over `enumerate(targets)`. -/
def renumber (targets : List StoredTarget) (h : targets.length ≤ maxTargets) :
    List StoredTarget :=
  List.ofFn fun i : Fin targets.length =>
    { targets.get i with position := ⟨i, Nat.lt_of_lt_of_le i.isLt h⟩ }

theorem renumber_valid {targets : List StoredTarget} (h : targets.length ≤ maxTargets)
    (hn : (targets.map fun t => t.alias.val).Nodup) : ValidOrder (renumber targets h) := by
  refine ⟨by simpa [renumber] using h, ?_, ?_⟩
  · have : (renumber targets h).map (fun t => t.alias.val) = targets.map fun t => t.alias.val := by
      rw [renumber, List.map_ofFn]
      exact List.ext_getElem (by simp) (by simp)
    exact this ▸ hn
  · rw [renumber, List.map_ofFn]
    exact List.ext_getElem (by simp) (by simp)

end Snarkypuss
