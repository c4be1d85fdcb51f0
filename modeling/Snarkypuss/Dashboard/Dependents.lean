import Snarkypuss.Dashboard.Editor

/-!
# Clearing dependent fields

`clearDependentFields` follows the dependencies of a kind backwards. It resets the fields that
depend on the changed one, directly or through others, and no more.

## Main definitions

* `SelectorKind.Reaches`: a field depends on another through any number of fields
* `Cleared`: what happens to a selector and its discovery states when some fields are reset

## Main results

* `clearDependentFields_cleared`: the fields that are reset are the ones that reach the changed one
* `changeField_cleared`: what an input does to a selector
-/

namespace Snarkypuss

/-- The field `name` depends on `on`, directly or through other fields. -/
def SelectorKind.Reaches (kind : SelectorKind) (name on : String) : Prop :=
  Relation.TransGen kind.Depends name on

theorem SelectorKind.reaches_iff {kind : SelectorKind} {name on : String} :
    kind.Reaches name on ↔
      ∃ field ∈ kind.fields, on ∈ field.dependsOn ∧
        (name = field.name.val ∨ kind.Reaches name field.name.val) := by
  constructor
  · intro h
    cases h with
    | single h =>
      obtain ⟨field, hfield, hname, hon⟩ := h
      exact ⟨field, hfield, hon, .inl hname.symm⟩
    | tail hreaches h =>
      obtain ⟨field, hfield, rfl, hon⟩ := h
      exact ⟨field, hfield, hon, .inr hreaches⟩
  · rintro ⟨field, hfield, hon, rfl | hreaches⟩
    · exact .single ⟨field, hfield, rfl, hon⟩
    · exact hreaches.tail ⟨field, hfield, rfl, hon⟩

theorem SelectorKind.Reaches.rank_lt {kind : SelectorKind} {name on : String}
    (h : kind.Reaches name on) : kind.rank on < kind.rank name := by
  induction h with
  | single h => exact rank_lt_of_depends h
  | tail _ h ih => exact (rank_lt_of_depends h).trans ih

/-- Only fields of the kind depend on anything. -/
theorem SelectorKind.Reaches.exists_field {kind : SelectorKind} {name on : String}
    (h : kind.Reaches name on) : ∃ field, kind.field? name = some field := by
  induction h with
  | single h =>
    obtain ⟨field, hfield, rfl, -⟩ := h
    exact ⟨field, kind.field?_of_mem hfield⟩
  | tail _ _ ih => exact ih

namespace Dashboard

/-- A selector and the discovery states of its fields. -/
abbrev Cells := JsonObject × (String → Option Discovery)

/-- The fields of which `P` holds are reset and their states forgotten, and the others kept. -/
structure Cleared (kind : SelectorKind) (P : String → Prop) (cells cells' : Cells) : Prop where
  reset : ∀ x, P x → cells'.1.get? x = (kind.field? x).map fieldDefault ∧ cells'.2 x = none
  kept : ∀ x, ¬ P x → cells'.1.get? x = cells.1.get? x ∧ cells'.2 x = cells.2 x

namespace Cleared

variable {kind : SelectorKind} {P Q : String → Prop} {a b c : Cells}

theorem refl (kind : SelectorKind) (a : Cells) : Cleared kind (fun _ => False) a a where
  reset := by
    intro x h
    cases h
  kept := by
    intro x _
    exact ⟨rfl, rfl⟩

theorem trans (h : Cleared kind P a b) (h' : Cleared kind Q b c) :
    Cleared kind (fun x => P x ∨ Q x) a c where
  reset := by
    intro x hx
    by_cases hq : Q x
    · exact h'.reset x hq
    · have hp := h.reset x (hx.resolve_right hq)
      have hkept := h'.kept x hq
      exact ⟨hkept.1.trans hp.1, hkept.2.trans hp.2⟩
  kept := by
    intro x hx
    have hp := h.kept x fun hp => hx (.inl hp)
    have hq := h'.kept x fun hq => hx (.inr hq)
    exact ⟨hq.1.trans hp.1, hq.2.trans hp.2⟩

theorem congr (h : Cleared kind P a b) (hiff : ∀ x, P x ↔ Q x) : Cleared kind Q a b := by
  have heq : P = Q := funext fun x => propext (hiff x)
  rwa [← heq]

/-- Resetting one field. -/
theorem insert {field : SelectorField} (hfield : field ∈ kind.fields) (cells : Cells) :
    Cleared kind (fun x => x = field.name.val) cells
      (cells.1.insert field.name.val (fieldDefault field),
        Function.update cells.2 field.name.val none) where
  reset := by
    rintro x rfl
    simp [Dict.get?_insert, kind.field?_of_mem hfield]
  kept := by
    intro x hx
    simp [Dict.get?_insert, hx]

/-- Resetting what each of several steps resets. -/
theorem foldl {step : Cells → SelectorField → Cells} {R : SelectorField → String → Prop} :
    ∀ (fields : List SelectorField) (cells : Cells),
      (∀ field ∈ fields, ∀ cells, Cleared kind (R field) cells (step cells field)) →
      Cleared kind (fun x => ∃ field ∈ fields, R field x) cells (fields.foldl step cells) := by
  intro fields
  induction fields with
  | nil =>
    intro cells _
    exact (refl kind cells).congr fun x => by simp
  | cons field fields ih =>
    intro cells hstep
    have hfirst := hstep field List.mem_cons_self cells
    have hrest := ih (step cells field) fun f hf => hstep f (List.mem_cons_of_mem _ hf)
    exact (hfirst.trans hrest).congr fun x => by simp

end Cleared

/-- With as much fuel as there are fields above the changed one, exactly the fields that reach it
are reset. -/
theorem clearDependentFields_cleared (kind : SelectorKind) :
    ∀ (fuel : Nat) (changed : String) (cells : Cells),
      kind.fields.length ≤ fuel + kind.rank changed →
      Cleared kind (fun x => kind.Reaches x changed) cells
        (Editor.clearDependentFields kind fuel changed cells) := by
  intro fuel
  induction fuel with
  | zero =>
    intro changed cells hfuel
    -- the changed field is the last in the order, so nothing depends on it
    refine (Cleared.refl kind cells).congr fun x => ⟨False.elim, fun hreaches => ?_⟩
    have hlt := hreaches.rank_lt
    have hle := kind.rank_le x
    omega
  | succ fuel ih =>
    intro changed cells hfuel
    unfold Editor.clearDependentFields
    refine (Cleared.foldl (R := fun field x => changed ∈ field.dependsOn ∧
      (x = field.name.val ∨ kind.Reaches x field.name.val)) kind.fields cells ?_).congr ?_
    · intro field hfield cells
      split
      · rename_i hdepends
        have hrank := SelectorKind.rank_lt_of_depends ⟨field, hfield, rfl, hdepends⟩
        have hreset := Cleared.insert hfield cells
        have hrest := ih field.name.val (cells.1.insert field.name.val (fieldDefault field),
          Function.update cells.2 field.name.val none) (by omega)
        exact (hreset.trans hrest).congr fun x => by simp [hdepends]
      · rename_i hdepends
        exact (Cleared.refl kind cells).congr fun x => by simp [hdepends]
    · intro x
      exact SelectorKind.reaches_iff.symm

/-- What an input does: the field has the value, the fields that reach it are reset, and the
others are kept. -/
theorem changeField_cleared (kind : SelectorKind) (field : String) (value : JsonScalar)
    (selector : JsonObject) (states : String → Option Discovery) :
    Cleared kind (fun x => kind.Reaches x field) (selector.insert field value, states)
      (Editor.changeField kind field value selector states) := by
  apply clearDependentFields_cleared
  omega

end Dashboard

end Snarkypuss
