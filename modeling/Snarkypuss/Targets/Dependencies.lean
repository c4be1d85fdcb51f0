import Snarkypuss.Targets.Models

/-!
# Dependencies of selector fields

What `SelectorKind.validate_dependencies` establishes. Its depth-first search lists every field
after the fields it depends on, so the dependencies of an accepted kind can be ranked.

## Main definitions

* `DependencyOrder`: a list of names, each listed in front of its dependencies
* `SelectorKind.Depends`: one field of a kind depends on another, directly
* `SelectorKind.rank`: where a field stands in the order of the search

## Main results

* `visit_order`: a search that finds no cycle extends the order
* `SelectorKind.rank_lt_of_depends`: a field ranks above its dependencies
* `SelectorKind.rank_le`: ranks are bounded by the number of fields
-/

namespace Snarkypuss

/-- Every name of the list has its dependencies behind it, and is listed once. -/
def DependencyOrder (dependencies : String → List String) : List String → Prop
  | [] => True
  | name :: names =>
    (∀ d ∈ dependencies name, d ∈ names) ∧ name ∉ names ∧ DependencyOrder dependencies names

/-- What a visit does to the two sets: the names being visited are as before, the names visited
grow in front of the old ones, and none of the new ones is being visited. -/
structure Visited (dependencies : String → List String) (visiting visited : List String)
    (after : List String × List String) : Prop where
  stack : after.1 = visiting
  grows : visited <:+ after.2
  order : DependencyOrder dependencies after.2
  fresh : ∀ x ∈ after.2, x ∈ visiting → x ∈ visited

theorem Visited.trans {dependencies : String → List String} {visiting visited : List String}
    {b c : List String × List String} (h : Visited dependencies visiting visited b)
    (h' : Visited dependencies b.1 b.2 c) : Visited dependencies visiting visited c where
  stack := h'.stack.trans h.stack
  grows := h.grows.trans h'.grows
  order := h'.order
  fresh := by
    intro x hx hvisiting
    exact h.fresh x (h'.fresh x hx (by rwa [h.stack])) hvisiting

/-- Visiting a list of names, when a visit of one does what it should. -/
theorem foldlM_visited {dependencies : String → List String}
    {step : List String × List String → String → Option (List String × List String)}
    (hstep : ∀ visiting visited name after, DependencyOrder dependencies visited →
      step (visiting, visited) name = some after →
      Visited dependencies visiting visited after ∧ name ∈ after.2) :
    ∀ (names : List String) (visiting visited : List String) (after : List String × List String),
      DependencyOrder dependencies visited →
      names.foldlM step (visiting, visited) = some after →
      Visited dependencies visiting visited after ∧ ∀ name ∈ names, name ∈ after.2 := by
  intro names
  induction names with
  | nil =>
    intro visiting visited after horder h
    obtain rfl : (visiting, visited) = after := by simpa using h
    exact ⟨⟨rfl, List.suffix_refl _, horder, fun _ hx _ => hx⟩, by simp⟩
  | cons name names ih =>
    intro visiting visited after horder h
    rw [List.foldlM_cons, Option.bind_eq_bind, Option.bind_eq_some_iff] at h
    obtain ⟨⟨visiting', visited'⟩, hname, hnames⟩ := h
    obtain ⟨hfirst, hmem⟩ := hstep _ _ _ _ horder hname
    obtain ⟨hrest, hall⟩ := ih _ _ _ hfirst.order hnames
    refine ⟨hfirst.trans hrest, ?_⟩
    intro x hx
    rcases List.mem_cons.mp hx with rfl | hx
    · exact hrest.grows.subset hmem
    · exact hall x hx

/-- A visit that finds no cycle lists the name it was asked for, behind nothing that it
depends on. -/
theorem visit_order (dependencies : String → List String) :
    ∀ (fuel : Nat) (visiting visited : List String) (name : String)
      (after : List String × List String), DependencyOrder dependencies visited →
      visit dependencies fuel (visiting, visited) name = some after →
      Visited dependencies visiting visited after ∧ name ∈ after.2 := by
  intro fuel
  induction fuel with
  | zero => intro _ _ _ _ _ h; simp [visit] at h
  | succ fuel ih =>
    intro visiting visited name after horder h
    unfold visit at h
    split at h
    · cases h
    · rename_i hvisiting
      split at h
      · rename_i hvisited
        obtain rfl : (visiting, visited) = after := by simpa using h
        exact ⟨⟨rfl, List.suffix_refl _, horder, fun _ hx _ => hx⟩, hvisited⟩
      · rename_i hvisited
        obtain ⟨⟨visiting', visited'⟩, hfold, rfl⟩ := Option.map_eq_some_iff.mp h
        obtain ⟨hdeps, hall⟩ := foldlM_visited ih _ _ _ _ horder hfold
        -- the name is on the stack, so no visit of a dependency has listed it
        have hnew : name ∉ visited' := by
          intro hmem
          exact hvisited (hdeps.fresh name hmem List.mem_cons_self)
        refine ⟨⟨?_, hdeps.grows.trans (List.suffix_cons _ _), ⟨hall, hnew, hdeps.order⟩, ?_⟩,
          List.mem_cons_self⟩
        · have hstack : visiting' = name :: visiting := hdeps.stack
          simp [hstack]
        · intro x hx hstack
          rcases List.mem_cons.mp hx with rfl | hx
          · exact absurd hstack hvisiting
          · exact hdeps.fresh x hx (List.mem_cons_of_mem _ hstack)

namespace DependencyOrder

variable {dependencies : String → List String}

theorem nodup {names : List String} (h : DependencyOrder dependencies names) : names.Nodup := by
  induction names with
  | nil => exact List.nodup_nil
  | cons name names ih => exact List.nodup_cons.mpr ⟨h.2.1, ih h.2.2⟩

/-- The dependencies of a listed name are listed. -/
theorem closed {names : List String} (h : DependencyOrder dependencies names) {name d : String}
    (hname : name ∈ names) (hd : d ∈ dependencies name) : d ∈ names := by
  induction names with
  | nil => cases hname
  | cons n ns ih =>
    rcases List.mem_cons.mp hname with rfl | hname
    · exact List.mem_cons_of_mem _ (h.1 d hd)
    · exact List.mem_cons_of_mem _ (ih h.2.2 hname)

/-- Names that take their dependencies with them are still in order among themselves. -/
theorem filter {p : String → Bool} {names : List String} (h : DependencyOrder dependencies names)
    (hp : ∀ name ∈ names, p name → ∀ d ∈ dependencies name, p d) :
    DependencyOrder dependencies (names.filter p) := by
  induction names with
  | nil => trivial
  | cons n ns ih =>
    have hrest := ih h.2.2 fun name hname => hp name (List.mem_cons_of_mem _ hname)
    by_cases hn : p n
    · rw [List.filter_cons_of_pos hn]
      refine ⟨?_, fun hmem => h.2.1 (List.mem_filter.mp hmem).1, hrest⟩
      intro d hd
      exact List.mem_filter.mpr ⟨h.1 d hd, hp n List.mem_cons_self hn d hd⟩
    · rwa [List.filter_cons_of_neg hn]

end DependencyOrder

/-- How many names stand at or behind a name of the list. -/
def rankIn : List String → String → Nat
  | [], _ => 0
  | n :: ns, name => if n = name then ns.length + 1 else rankIn ns name

theorem rankIn_le (names : List String) (name : String) : rankIn names name ≤ names.length := by
  induction names with
  | nil => exact Nat.le_refl 0
  | cons n ns ih =>
    unfold rankIn
    split
    · exact Nat.le_refl _
    · exact Nat.le_succ_of_le ih

theorem DependencyOrder.rankIn_lt {dependencies : String → List String} {names : List String}
    (h : DependencyOrder dependencies names) {name d : String} (hname : name ∈ names)
    (hd : d ∈ dependencies name) : rankIn names d < rankIn names name := by
  induction names with
  | nil => cases hname
  | cons n ns ih =>
    by_cases hn : n = name
    · subst hn
      have hmem : d ∈ ns := h.1 d hd
      have hne : n ≠ d := by
        rintro rfl
        exact h.2.1 hmem
      have hle := rankIn_le ns d
      simp only [rankIn, if_neg hne, if_pos]
      omega
    · have hmem : name ∈ ns := (List.mem_cons.mp hname).resolve_left (Ne.symm hn)
      have hne : n ≠ d := by
        rintro rfl
        exact h.2.1 (h.2.2.closed hmem hd)
      simp only [rankIn, if_neg hne, if_neg hn]
      exact ih h.2.2 hmem

namespace SelectorKind

/-- The field of a kind that has this name. -/
def field? (kind : SelectorKind) (name : String) : Option SelectorField :=
  kind.fields.find? (·.name.val = name)

/-- The dependencies by name, as `validate_dependencies` looks them up. -/
def dependenciesOf (kind : SelectorKind) (name : String) : List String :=
  ((kind.field? name).map SelectorField.dependsOn).getD []

theorem nodup_names (kind : SelectorKind) : (kind.fields.map (·.name.val)).Nodup := by
  have h := kind.dependencies
  simp only [validateDependencies, Bool.and_eq_true, decide_eq_true_eq] at h
  exact h.1.1

theorem field?_of_mem (kind : SelectorKind) {field : SelectorField} (h : field ∈ kind.fields) :
    kind.field? field.name.val = some field := by
  have hnodup := kind.nodup_names
  unfold field?
  generalize kind.fields = fields at h hnodup
  induction fields with
  | nil => cases h
  | cons f fs ih =>
    rw [List.map_cons, List.nodup_cons] at hnodup
    rcases List.mem_cons.mp h with rfl | h
    · simp
    · have hne : f.name.val ≠ field.name.val := by
        intro heq
        exact hnodup.1 (heq ▸ List.mem_map_of_mem h)
      rw [List.find?_cons_of_neg (by simpa using hne)]
      exact ih h hnodup.2

theorem mem_of_field? {kind : SelectorKind} {name : String} {field : SelectorField}
    (h : kind.field? name = some field) : field ∈ kind.fields ∧ field.name.val = name :=
  ⟨List.mem_of_find?_eq_some h, by simpa using List.find?_some h⟩

/-- The field `name` of the kind depends on `on`, directly. -/
def Depends (kind : SelectorKind) (name on : String) : Prop :=
  ∃ field ∈ kind.fields, field.name.val = name ∧ on ∈ field.dependsOn

theorem depends_iff {kind : SelectorKind} {field : SelectorField} (h : field ∈ kind.fields)
    {on : String} : kind.Depends field.name.val on ↔ on ∈ field.dependsOn := by
  constructor
  · rintro ⟨f, hf, hname, hon⟩
    have := kind.field?_of_mem hf
    rw [hname, kind.field?_of_mem h] at this
    cases this
    exact hon
  · intro hon
    exact ⟨field, h, rfl, hon⟩

/-- The order in which the search of `validate_dependencies` has visited the fields. -/
def searchOrder (kind : SelectorKind) : List String :=
  (((kind.fields.map (·.name.val)).foldlM
    (visit kind.dependenciesOf (kind.fields.length + 1)) ([], [])).map Prod.snd).getD []

theorem searchOrder_spec (kind : SelectorKind) :
    DependencyOrder kind.dependenciesOf kind.searchOrder ∧
      ∀ field ∈ kind.fields, field.name.val ∈ kind.searchOrder := by
  have h := kind.dependencies
  simp only [validateDependencies, Bool.and_eq_true] at h
  obtain ⟨after, hafter⟩ := Option.isSome_iff_exists.mp h.2
  have hfold : (kind.fields.map (·.name.val)).foldlM
      (visit kind.dependenciesOf (kind.fields.length + 1)) ([], []) = some after := hafter
  obtain ⟨hvisited, hall⟩ := foldlM_visited (visit_order kind.dependenciesOf _) _ [] [] _
    trivial hfold
  unfold searchOrder
  rw [hfold]
  refine ⟨hvisited.order, ?_⟩
  intro field hfield
  exact hall _ (List.mem_map_of_mem hfield)

/-- Where a field stands in the order of the search. -/
def rank (kind : SelectorKind) (name : String) : Nat :=
  rankIn (kind.searchOrder.filter (· ∈ kind.fields.map (·.name.val))) name

theorem mem_names_of_dependsOn {kind : SelectorKind} {field : SelectorField}
    (h : field ∈ kind.fields) {on : String} (hon : on ∈ field.dependsOn) :
    on ∈ kind.fields.map (·.name.val) := by
  have hvalid := kind.dependencies
  simp only [validateDependencies, Bool.and_eq_true, List.all_eq_true, decide_eq_true_eq] at hvalid
  exact (hvalid.1.2 field h).2 on hon

theorem dependenciesOf_of_mem {kind : SelectorKind} {field : SelectorField}
    (h : field ∈ kind.fields) : kind.dependenciesOf field.name.val = field.dependsOn := by
  simp [dependenciesOf, kind.field?_of_mem h]

/-- A field ranks above its dependencies. -/
theorem rank_lt_of_depends {kind : SelectorKind} {name on : String} (h : kind.Depends name on) :
    kind.rank on < kind.rank name := by
  obtain ⟨field, hfield, rfl, hon⟩ := h
  obtain ⟨horder, hall⟩ := kind.searchOrder_spec
  have hfiltered : DependencyOrder kind.dependenciesOf
      (kind.searchOrder.filter (· ∈ kind.fields.map (·.name.val))) := by
    apply horder.filter
    intro name _ hname d hd
    obtain ⟨f, hf, rfl⟩ := List.mem_map.mp (by simpa using hname)
    rw [dependenciesOf_of_mem hf] at hd
    simpa using mem_names_of_dependsOn hf hd
  apply hfiltered.rankIn_lt
  · refine List.mem_filter.mpr ⟨hall field hfield, ?_⟩
    simpa using ⟨field, hfield, rfl⟩
  · rwa [dependenciesOf_of_mem hfield]

/-- Ranks are bounded by the number of fields. -/
theorem rank_le (kind : SelectorKind) (name : String) : kind.rank name ≤ kind.fields.length := by
  have hnodup := kind.searchOrder_spec.1.nodup.filter (· ∈ kind.fields.map (·.name.val))
  have hsub : kind.searchOrder.filter (· ∈ kind.fields.map (·.name.val)) ⊆
      kind.fields.map (·.name.val) := by
    intro x hx
    simpa using (List.mem_filter.mp hx).2
  calc kind.rank name
      ≤ (kind.searchOrder.filter (· ∈ kind.fields.map (·.name.val))).length := rankIn_le _ _
    _ ≤ (kind.fields.map (·.name.val)).length := (hnodup.subperm hsub).length_le
    _ = kind.fields.length := List.length_map ..

end SelectorKind

end Snarkypuss
