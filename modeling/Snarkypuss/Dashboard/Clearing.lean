import Snarkypuss.Dashboard.Dependents

/-!
# What clearing dependents leaves

`clearDependentFields` as the recursion that it is: it ends for every kind that is accepted, and
what it leaves of the page is determined by which fields depend on the changed one.

## Main definitions

* `Clears`, `ClearsAll`: the recursion, and its loop over the fields
* `Editor.clearDependents`: the function on a target of the page

## Main results

* `clears_clearDependentFields`: the recursion ends, with the result that the model computes
* `Cleared.unique`: what is left is determined by the fields that are reset
* `clearDependents_exact`: what the function does to the page
-/

namespace Snarkypuss.Dashboard

/-- A field with its default, without its discovery state. -/
def resetField (field : SelectorField) (cells : Cells) : Cells :=
  (cells.1.insert field.name.val (fieldDefault field), Function.update cells.2 field.name.val none)

mutual

/-- `clearDependentFields(target, kindSchema, changedField)` ends, from the first cells with the
second ones. -/
inductive Clears (kind : SelectorKind) : String → Cells → Cells → Prop
  | loop {changed : String} {cells cells' : Cells}
    (all : ClearsAll kind changed kind.fields cells cells') : Clears kind changed cells cells'

/-- The loop over these fields ends. -/
inductive ClearsAll (kind : SelectorKind) : String → List SelectorField → Cells → Cells → Prop
  | nil (changed : String) (cells : Cells) : ClearsAll kind changed [] cells cells
  | skip {changed : String} {field : SelectorField} {fields : List SelectorField}
    {cells cells' : Cells} (h : changed ∉ field.dependsOn)
    (rest : ClearsAll kind changed fields cells cells') :
    ClearsAll kind changed (field :: fields) cells cells'
  | reset {changed : String} {field : SelectorField} {fields : List SelectorField}
    {cells middle cells' : Cells} (h : changed ∈ field.dependsOn)
    (inner : Clears kind field.name.val (resetField field cells) middle)
    (rest : ClearsAll kind changed fields middle cells') :
    ClearsAll kind changed (field :: fields) cells cells'

end

/-- The loop ends when the calls that it makes do. -/
theorem clearsAll_foldl {kind : SelectorKind} {changed : String}
    {clear : String → Cells → Cells} (fields : List SelectorField)
    (hclear : ∀ field ∈ fields, changed ∈ field.dependsOn → ∀ cells,
      Clears kind field.name.val cells (clear field.name.val cells)) :
    ∀ cells, ClearsAll kind changed fields cells (fields.foldl
      (fun cells field => if changed ∈ field.dependsOn then
        clear field.name.val (resetField field cells) else cells) cells) := by
  induction fields with
  | nil => exact fun cells => .nil changed cells
  | cons field fields ih =>
    intro cells
    have hrest := ih fun f hf => hclear f (List.mem_cons_of_mem _ hf)
    rw [List.foldl_cons]
    by_cases h : changed ∈ field.dependsOn
    · rw [if_pos h]
      exact .reset h (hclear field List.mem_cons_self h _) (hrest _)
    · rw [if_neg h]
      exact .skip h (hrest cells)

/-- **The recursion ends**: a dependent ranks above what was changed. -/
theorem clears_clearDependentFields (kind : SelectorKind) :
    ∀ (fuel : Nat) (changed : String) (cells : Cells),
      kind.fields.length < fuel + kind.rank changed →
      Clears kind changed cells (Editor.clearDependentFields kind fuel changed cells) := by
  intro fuel
  induction fuel with
  | zero =>
    intro changed cells hfuel
    have hle := kind.rank_le changed
    omega
  | succ fuel ih =>
    intro changed cells hfuel
    unfold Editor.clearDependentFields
    refine .loop (clearsAll_foldl kind.fields (fun field hfield hdepends cells => ?_) cells)
    have hrank := SelectorKind.rank_lt_of_depends ⟨field, hfield, rfl, hdepends⟩
    exact ih field.name.val cells (by omega)

/-! ## Determined by what is reset -/

/-- Cells that hold the same values and the same states. -/
structure Agrees (a b : Cells) : Prop where
  values : ∀ x, a.1.get? x = b.1.get? x
  states : a.2 = b.2

/-- What is left when some fields are reset is determined by which. -/
theorem Cleared.unique {kind kind' : SelectorKind} {P P' : String → Prop} {cells a b : Cells}
    (ha : Cleared kind P cells a) (hb : Cleared kind' P' cells b) (hP : ∀ x, P x ↔ P' x)
    (hfield : ∀ x, kind.field? x = kind'.field? x) : Agrees a b := by
  have hboth : ∀ x, a.1.get? x = b.1.get? x ∧ a.2 x = b.2 x := by
    intro x
    by_cases hx : P x
    · obtain ⟨hvalue, hstate⟩ := ha.reset x hx
      obtain ⟨hvalue', hstate'⟩ := hb.reset x ((hP x).mp hx)
      exact ⟨by rw [hvalue, hvalue', hfield x], by rw [hstate, hstate']⟩
    · obtain ⟨hvalue, hstate⟩ := ha.kept x hx
      obtain ⟨hvalue', hstate'⟩ := hb.kept x fun h => hx ((hP x).mpr h)
      exact ⟨hvalue.trans hvalue'.symm, hstate.trans hstate'.symm⟩
  refine ⟨fun x => (hboth x).1, ?_⟩
  funext x
  exact (hboth x).2

section Order

variable {kind kind' : SelectorKind}

theorem depends_of_perm (h : kind'.fields.Perm kind.fields) {name on : String} :
    kind'.Depends name on ↔ kind.Depends name on := by
  constructor
  · rintro ⟨field, hfield, hname, hon⟩
    exact ⟨field, h.subset hfield, hname, hon⟩
  · rintro ⟨field, hfield, hname, hon⟩
    exact ⟨field, h.symm.subset hfield, hname, hon⟩

theorem reaches_of_perm (h : kind'.fields.Perm kind.fields) {name on : String} :
    kind'.Reaches name on ↔ kind.Reaches name on := by
  unfold SelectorKind.Reaches
  have hdepends : kind'.Depends = kind.Depends := by
    ext name on
    exact depends_of_perm h
  rw [hdepends]

/-- Names are unique, so that a field is found wherever it stands. -/
theorem field?_of_perm (h : kind'.fields.Perm kind.fields) (name : String) :
    kind'.field? name = kind.field? name := by
  cases hfield : kind.field? name with
  | some field =>
    obtain ⟨hmem, rfl⟩ := SelectorKind.mem_of_field? hfield
    exact kind'.field?_of_mem (h.symm.subset hmem)
  | none =>
    cases hfield' : kind'.field? name with
    | none => rfl
    | some field =>
      obtain ⟨hmem, rfl⟩ := SelectorKind.mem_of_field? hfield'
      rw [kind.field?_of_mem (h.subset hmem)] at hfield
      cases hfield

end Order

/-! ## The page -/

namespace Editor

/-- `clearDependentFields` on a target of the page. -/
def clearDependents (e : Editor) (r : Ref) (kind : SelectorKind) (changed : String) : Editor :=
  let cells := clearDependentFields kind (kind.fields.length + 1) changed
    ((e.target r).selector, e.discoveryState r)
  { e.setTarget r { e.target r with selector := cells.1 } with
    discoveryState := Function.update e.discoveryState r cells.2 }

/-- The selector and the discovery states of a target of the page. -/
def cellsOf (e : Editor) (r : Ref) : Cells := ((e.target r).selector, e.discoveryState r)

@[simp] theorem cellsOf_clearDependents (e : Editor) (r : Ref) (kind : SelectorKind)
    (changed : String) : (e.clearDependents r kind changed).cellsOf r =
      clearDependentFields kind (kind.fields.length + 1) changed (e.cellsOf r) := by
  simp [cellsOf, clearDependents, setTarget]

end Editor

/-- **Clearing dependents is exact**: it ends; the fields that depend on the changed one, directly
or through others, have their defaults and no discovery state; the other fields of the target, the
changed one among them, its alias and its label, and all other targets are as they were; and no
order of the fields gives another result. -/
theorem clearDependents_exact (e : Editor) (r : Ref) (kind : SelectorKind) (changed : String) :
    Clears kind changed (e.cellsOf r) ((e.clearDependents r kind changed).cellsOf r) ∧
    (∀ x, kind.Reaches x changed →
      ((e.clearDependents r kind changed).target r).selector.get? x =
        (kind.field? x).map fieldDefault ∧
      (e.clearDependents r kind changed).discoveryState r x = none) ∧
    (∀ x, ¬ kind.Reaches x changed →
      ((e.clearDependents r kind changed).target r).selector.get? x =
        (e.target r).selector.get? x ∧
      (e.clearDependents r kind changed).discoveryState r x = e.discoveryState r x) ∧
    ¬ kind.Reaches changed changed ∧
    ((e.clearDependents r kind changed).target r).alias = (e.target r).alias ∧
    ((e.clearDependents r kind changed).target r).label = (e.target r).label ∧
    (∀ other, other ≠ r → (e.clearDependents r kind changed).target other = e.target other ∧
      (e.clearDependents r kind changed).discoveryState other = e.discoveryState other) ∧
    ∀ kind' : SelectorKind, kind'.fields.Perm kind.fields →
      Agrees ((e.clearDependents r kind' changed).cellsOf r)
        ((e.clearDependents r kind changed).cellsOf r) := by
  have hcleared : ∀ k : SelectorKind, Cleared k (fun x => k.Reaches x changed) (e.cellsOf r)
      ((e.clearDependents r k changed).cellsOf r) := by
    intro k
    rw [Editor.cellsOf_clearDependents]
    exact clearDependentFields_cleared k _ _ _ (by omega)
  refine ⟨?_, (hcleared kind).reset, (hcleared kind).kept, fun h => lt_irrefl _ h.rank_lt, ?_, ?_,
    fun other hother => ?_, fun kind' hperm => ?_⟩
  · rw [Editor.cellsOf_clearDependents]
    exact clears_clearDependentFields kind _ _ _ (by omega)
  · simp [Editor.clearDependents, Editor.setTarget]
  · simp [Editor.clearDependents, Editor.setTarget]
  · simp [Editor.clearDependents, Editor.setTarget, hother]
  · exact (hcleared kind').unique (hcleared kind) (fun x => reaches_of_perm hperm)
      (field?_of_perm hperm)

end Snarkypuss.Dashboard
