import Snarkypuss.Targets.Dependencies

/-!
# What schema validation accepts

The search of `SelectorKind.validate_dependencies` as the recursion that it is, which ends on
every input, and the kinds that it accepts: those whose dependencies have no cycle.

## Main definitions

* `FieldDepends`: one field of a list depends on another, directly
* `Search`, `SearchAll`: the search as a recursion that returns or raises
* `Declared`: the checks that come before the search
* `SelectorKind.validate`: the constructor of a kind

## Main results

* `search_visit`: the recursion ends, with the result that `visit` computes
* `validateDependencies_iff`: the search accepts exactly the fields without a cycle
* `exists_dependency_order`: accepted fields can be ordered with their dependencies first
* `selectorKind_accepts_iff`: what the constructor accepts
-/

namespace Snarkypuss

/-- The field `name` of the list depends on `on`, directly. -/
def FieldDepends (fields : List SelectorField) (name on : String) : Prop :=
  ∃ field ∈ fields, field.name.val = name ∧ on ∈ field.dependsOn

/-! ## The recursion -/

mutual

/-- `visit(field_name)` from the two sets: it returns with the sets, or it raises. -/
inductive Search (dependencies : String → List String) :
    List String × List String → String → Option (List String × List String) → Prop
  | cycle {visiting visited : List String} {name : String} (h : name ∈ visiting) :
    Search dependencies (visiting, visited) name none
  | known {visiting visited : List String} {name : String} (h : name ∉ visiting)
    (hvisited : name ∈ visited) :
    Search dependencies (visiting, visited) name (some (visiting, visited))
  | enter {visiting visited : List String} {name : String}
    {result : Option (List String × List String)} (h : name ∉ visiting)
    (hvisited : name ∉ visited)
    (all : SearchAll dependencies (name :: visiting, visited) (dependencies name) result) :
    Search dependencies (visiting, visited) name
      (result.map fun (visiting, visited) => (visiting.erase name, name :: visited))

/-- The loop over names, each of which is visited. -/
inductive SearchAll (dependencies : String → List String) :
    List String × List String → List String → Option (List String × List String) → Prop
  | nil (state : List String × List String) : SearchAll dependencies state [] (some state)
  | raised {state : List String × List String} {name : String} {names : List String}
    (h : Search dependencies state name none) : SearchAll dependencies state (name :: names) none
  | next {state state' : List String × List String} {name : String} {names : List String}
    {result : Option (List String × List String)} (h : Search dependencies state name (some state'))
    (rest : SearchAll dependencies state' names result) :
    SearchAll dependencies state (name :: names) result

end

/-- The names that a search is asked for lead only to names of a list. -/
def ClosedUnder (dependencies : String → List String) (names : List String) : Prop :=
  ∀ name ∈ names, ∀ d ∈ dependencies name, d ∈ names

/-- What is left to visit bounds the recursion: the names on the stack differ. -/
theorem length_lt_of_notMem {names visiting : List String} {name : String}
    (hnodup : visiting.Nodup) (hsub : visiting ⊆ names) (hname : name ∈ names)
    (hfresh : name ∉ visiting) : visiting.length < names.length := by
  have hcons : (name :: visiting).Nodup := List.nodup_cons.mpr ⟨hfresh, hnodup⟩
  have hsubset : name :: visiting ⊆ names := List.cons_subset.mpr ⟨hname, hsub⟩
  have hlength := (hcons.subperm hsubset).length_le
  rw [List.length_cons] at hlength
  omega

/-- The loop ends when every visit does and gives the stack back. -/
theorem searchAll_foldlM {dependencies : String → List String} {fuel : Nat}
    {names visiting : List String}
    (hstep : ∀ visited, ∀ name ∈ names,
      Search dependencies (visiting, visited) name
        (visit dependencies fuel (visiting, visited) name) ∧
      ∀ after, visit dependencies fuel (visiting, visited) name = some after →
        after.1 = visiting) :
    ∀ visited, SearchAll dependencies (visiting, visited) names
        (names.foldlM (visit dependencies fuel) (visiting, visited)) ∧
      ∀ after, names.foldlM (visit dependencies fuel) (visiting, visited) = some after →
        after.1 = visiting := by
  induction names with
  | nil =>
    intro visited
    refine ⟨.nil _, fun after hafter => ?_⟩
    obtain rfl : (visiting, visited) = after := by simpa using hafter
    rfl
  | cons name names ih =>
    intro visited
    have hrest := ih fun visited n hn => hstep visited n (List.mem_cons_of_mem _ hn)
    obtain ⟨hsearch, hstack⟩ := hstep visited name List.mem_cons_self
    rw [List.foldlM_cons, Option.bind_eq_bind]
    cases hvisit : visit dependencies fuel (visiting, visited) name with
    | none =>
      rw [hvisit] at hsearch
      exact ⟨.raised hsearch, nofun⟩
    | some after =>
      obtain ⟨visiting', visited'⟩ := after
      obtain rfl : visiting' = visiting := hstack _ hvisit
      rw [hvisit] at hsearch
      exact ⟨.next hsearch (hrest visited').1, (hrest visited').2⟩

/-- **The search ends** on every input, with the result that `visit` computes, and gives the stack
back when it returns. -/
theorem search_visit {dependencies : String → List String} {names : List String}
    (hclosed : ClosedUnder dependencies names) :
    ∀ (fuel : Nat) (visiting visited : List String) (name : String), visiting.Nodup →
      visiting ⊆ names → name ∈ names → names.length < fuel + visiting.length →
      Search dependencies (visiting, visited) name
        (visit dependencies fuel (visiting, visited) name) ∧
      ∀ after, visit dependencies fuel (visiting, visited) name = some after →
        after.1 = visiting := by
  intro fuel
  induction fuel with
  | zero =>
    intro visiting visited name hnodup hsub hname hfuel
    -- the stack is never longer than the list of names
    have hlength := (hnodup.subperm hsub).length_le
    omega
  | succ fuel ih =>
    intro visiting visited name hnodup hsub hname hfuel
    unfold visit
    by_cases hvisiting : name ∈ visiting
    · rw [if_pos hvisiting]
      exact ⟨.cycle hvisiting, fun _ h => by cases h⟩
    · rw [if_neg hvisiting]
      by_cases hvisited : name ∈ visited
      · rw [if_pos hvisited]
        refine ⟨.known hvisiting hvisited, fun after hafter => ?_⟩
        cases hafter
        rfl
      · rw [if_neg hvisited]
        have hstack : (name :: visiting).Nodup := List.nodup_cons.mpr ⟨hvisiting, hnodup⟩
        have hvisits := fun visited d (hd : d ∈ dependencies name) =>
          ih (name :: visiting) visited d hstack (List.cons_subset.mpr ⟨hname, hsub⟩)
            (hclosed name hname d hd) (by rw [List.length_cons]; omega)
        obtain ⟨hall, hafter⟩ := searchAll_foldlM hvisits visited
        refine ⟨.enter hvisiting hvisited hall, fun after hmap => ?_⟩
        obtain ⟨⟨visiting', visited'⟩, hfold, rfl⟩ := Option.map_eq_some_iff.mp hmap
        obtain rfl : visiting' = name :: visiting := hafter _ hfold
        simp

/-! ## Cycles -/

/-- The loop returns when every visit returns with the stack it was given. -/
theorem foldlM_isSome {step : List String × List String → String → Option (List String × List String)}
    {names visiting : List String}
    (hstep : ∀ visited, ∀ name ∈ names, ∃ visited',
      step (visiting, visited) name = some (visiting, visited')) :
    ∀ visited, (names.foldlM step (visiting, visited)).isSome := by
  induction names with
  | nil => exact fun visited => rfl
  | cons name names ih =>
    intro visited
    obtain ⟨visited', hname⟩ := hstep visited name List.mem_cons_self
    rw [List.foldlM_cons, hname]
    exact ih (fun visited n hn => hstep visited n (List.mem_cons_of_mem _ hn)) visited'

/-- Without a cycle, no visit finds its name on the stack: the names there lead to it. -/
theorem visit_returns {dependencies : String → List String} {names : List String}
    {R : String → String → Prop} (hclosed : ClosedUnder dependencies names)
    (hR : ∀ name ∈ names, ∀ d ∈ dependencies name, R name d)
    (hacyclic : ∀ name, ¬ Relation.TransGen R name name) :
    ∀ (fuel : Nat) (visiting visited : List String) (name : String), visiting.Nodup →
      visiting ⊆ names → name ∈ names → (∀ x ∈ visiting, Relation.TransGen R x name) →
      names.length < fuel + visiting.length →
      ∃ visited', visit dependencies fuel (visiting, visited) name = some (visiting, visited') := by
  intro fuel
  induction fuel with
  | zero =>
    intro visiting visited name hnodup hsub hname _ hfuel
    have hlength := (hnodup.subperm hsub).length_le
    omega
  | succ fuel ih =>
    intro visiting visited name hnodup hsub hname hpath hfuel
    have hfresh : name ∉ visiting := fun hmem => hacyclic name (hpath name hmem)
    have hsome : (visit dependencies (fuel + 1) (visiting, visited) name).isSome := by
      unfold visit
      rw [if_neg hfresh]
      split
      · rfl
      · rw [Option.isSome_map]
        apply foldlM_isSome
        intro visited d hd
        refine ih (name :: visiting) visited d (List.nodup_cons.mpr ⟨hfresh, hnodup⟩)
          (List.cons_subset.mpr ⟨hname, hsub⟩) (hclosed name hname d hd) ?_ ?_
        · intro x hx
          have hstep : R name d := hR name hname d hd
          rcases List.mem_cons.mp hx with rfl | hx
          · exact .single hstep
          · exact (hpath x hx).tail hstep
        · rw [List.length_cons]
          omega
    obtain ⟨⟨visiting', visited'⟩, hvisit⟩ := Option.isSome_iff_exists.mp hsome
    obtain rfl : visiting' = visiting :=
      (search_visit hclosed (fuel + 1) visiting visited name hnodup hsub hname hfuel).2 _ hvisit
    exact ⟨visited', hvisit⟩

/-! ## Lists of fields -/

section Fields

variable {fields : List SelectorField}

/-- The dependencies by name, as `validate_dependencies` looks them up. -/
def dependencyMap (fields : List SelectorField) (name : String) : List String :=
  ((fields.find? (·.name.val = name)).map SelectorField.dependsOn).getD []

/-- The checks that come before the search. -/
structure Declared (fields : List SelectorField) : Prop where
  names : (fields.map (·.name.val)).Nodup
  unique : ∀ field ∈ fields, field.dependsOn.Nodup
  known : ∀ field ∈ fields, ∀ d ∈ field.dependsOn, d ∈ fields.map (·.name.val)

/-- The dependencies have no cycle, of one field or of more. -/
def Acyclic (fields : List SelectorField) : Prop :=
  ∀ name, ¬ Relation.TransGen (FieldDepends fields) name name

theorem find?_of_mem (hnodup : (fields.map (·.name.val)).Nodup) {field : SelectorField}
    (h : field ∈ fields) : fields.find? (·.name.val = field.name.val) = some field := by
  induction fields with
  | nil => cases h
  | cons f fs ih =>
    rw [List.map_cons, List.nodup_cons] at hnodup
    rcases List.mem_cons.mp h with rfl | h
    · simp
    · have hne : f.name.val ≠ field.name.val := by
        intro heq
        exact hnodup.1 (heq ▸ List.mem_map_of_mem h)
      rw [List.find?_cons_of_neg (by simpa using hne)]
      exact ih hnodup.2 h

theorem mem_dependencyMap_iff (hnodup : (fields.map (·.name.val)).Nodup) {name on : String} :
    on ∈ dependencyMap fields name ↔ FieldDepends fields name on := by
  constructor
  · intro h
    unfold dependencyMap at h
    cases hfind : fields.find? (·.name.val = name) with
    | none => simp [hfind] at h
    | some field =>
      rw [hfind] at h
      exact ⟨field, List.mem_of_find?_eq_some hfind, by simpa using List.find?_some hfind, h⟩
  · rintro ⟨field, hfield, rfl, hon⟩
    rw [dependencyMap, find?_of_mem hnodup hfield]
    exact hon

theorem Declared.closed (h : Declared fields) :
    ClosedUnder (dependencyMap fields) (fields.map (·.name.val)) := by
  intro name _ d hd
  obtain ⟨field, hfield, -, hon⟩ := (mem_dependencyMap_iff h.names).mp hd
  exact h.known field hfield d hon

/-- The search over all names, as `validate_dependencies` runs it. -/
def searchFields (fields : List SelectorField) : Option (List String × List String) :=
  (fields.map (·.name.val)).foldlM (visit (dependencyMap fields) (fields.length + 1)) ([], [])

theorem validateDependencies_eq_true_iff :
    validateDependencies fields ↔ Declared fields ∧ (searchFields fields).isSome := by
  simp only [validateDependencies, Bool.and_eq_true, decide_eq_true_eq, List.all_eq_true]
  constructor
  · rintro ⟨⟨hnames, hfields⟩, hsearch⟩
    exact ⟨⟨hnames, fun field hf => (hfields field hf).1, fun field hf => (hfields field hf).2⟩,
      hsearch⟩
  · rintro ⟨⟨hnames, hunique, hknown⟩, hsearch⟩
    exact ⟨⟨hnames, fun field hf => ⟨hunique field hf, hknown field hf⟩⟩, hsearch⟩

/-- **The search over the fields ends.** -/
theorem searchAll_searchFields (h : Declared fields) :
    SearchAll (dependencyMap fields) ([], []) (fields.map (·.name.val)) (searchFields fields) := by
  refine (searchAll_foldlM (fun visited name hname => ?_) []).1
  refine search_visit h.closed _ [] visited name List.nodup_nil (List.nil_subset _) hname ?_
  simp

/-- A search that returns lists the fields behind what depends on them. -/
theorem order_of_searchFields {after : List String × List String}
    (h : searchFields fields = some after) :
    DependencyOrder (dependencyMap fields) after.2 ∧
      ∀ field ∈ fields, field.name.val ∈ after.2 := by
  obtain ⟨hvisited, hall⟩ := foldlM_visited (visit_order (dependencyMap fields) _) _ [] [] _
    trivial h
  exact ⟨hvisited.order, fun field hf => hall _ (List.mem_map_of_mem hf)⟩

/-- Where a dependency stands in the order of the search. -/
theorem rankIn_lt_of_depends (h : Declared fields) {after : List String × List String}
    (hsearch : searchFields fields = some after) {name on : String}
    (hdepends : FieldDepends fields name on) : rankIn after.2 on < rankIn after.2 name := by
  obtain ⟨horder, hall⟩ := order_of_searchFields hsearch
  have hon := (mem_dependencyMap_iff h.names).mpr hdepends
  obtain ⟨field, hfield, rfl, -⟩ := hdepends
  exact horder.rankIn_lt (hall field hfield) hon

/-- **The search is exact**: it returns when the dependencies have no cycle, and only then. -/
theorem searchFields_isSome_iff (h : Declared fields) :
    (searchFields fields).isSome ↔ Acyclic fields := by
  constructor
  · intro hsome name hcycle
    obtain ⟨after, hsearch⟩ := Option.isSome_iff_exists.mp hsome
    -- along a chain of dependencies the rank decreases
    have hrank : ∀ {a b}, Relation.TransGen (FieldDepends fields) a b →
        rankIn after.2 b < rankIn after.2 a := by
      intro a b hab
      induction hab with
      | single hstep => exact rankIn_lt_of_depends h hsearch hstep
      | tail _ hstep ih => exact (rankIn_lt_of_depends h hsearch hstep).trans ih
    exact absurd (hrank hcycle) (lt_irrefl _)
  · intro hacyclic
    refine foldlM_isSome (fun visited name hname => ?_) []
    refine visit_returns h.closed ?_ hacyclic _ [] visited name List.nodup_nil
      (List.nil_subset _) hname (by simp) (by simp)
    exact fun name _ d hd => (mem_dependencyMap_iff h.names).mp hd

/-- What the validator accepts. -/
theorem validateDependencies_iff :
    validateDependencies fields ↔ Declared fields ∧ Acyclic fields := by
  rw [validateDependencies_eq_true_iff]
  exact and_congr_right searchFields_isSome_iff

/-- The dependencies of every field stand before it. -/
def DependenciesFirst (order : List SelectorField) : Prop :=
  ∀ before field after, order = before ++ field :: after →
    ∀ d ∈ field.dependsOn, d ∈ before.map (·.name.val)

/-- Accepted fields can be ordered with their dependencies first: by their ranks. -/
theorem exists_dependency_order (h : validateDependencies fields) :
    ∃ order, order.Perm fields ∧ DependenciesFirst order := by
  obtain ⟨hdeclared, hsome⟩ := validateDependencies_eq_true_iff.mp h
  obtain ⟨after, hsearch⟩ := Option.isSome_iff_exists.mp hsome
  have hsorted := List.pairwise_insertionSort
    (fun f g : SelectorField => rankIn after.2 f.name.val ≤ rankIn after.2 g.name.val) fields
  have hperm := List.perm_insertionSort
    (fun f g : SelectorField => rankIn after.2 f.name.val ≤ rankIn after.2 g.name.val) fields
  refine ⟨_, hperm, fun before field rest hsplit d hd => ?_⟩
  rw [hsplit] at hsorted hperm
  have hfield : field ∈ fields := hperm.subset (by simp)
  have hlt := rankIn_lt_of_depends hdeclared hsearch ⟨field, hfield, rfl, hd⟩
  obtain ⟨other, hother, rfl⟩ := List.mem_map.mp (hdeclared.known field hfield d hd)
  have hmem : other ∈ before ++ field :: rest := hperm.symm.subset hother
  rcases List.mem_append.mp hmem with hbefore | hrest
  · exact List.mem_map_of_mem hbefore
  · -- what stands at the field or behind it does not rank below it
    exfalso
    rcases List.mem_cons.mp hrest with rfl | hrest
    · exact lt_irrefl _ hlt
    · have hle := (List.pairwise_cons.mp (List.pairwise_append.mp hsorted).2.1).1 other hrest
      omega

end Fields

/-! ## Kinds -/

/-- The constructor of a `SelectorKind`. -/
def SelectorKind.validate (kind label : String) (fields : List SelectorField) :
    Except PyException SelectorKind :=
  if h : matchesPattern Char.isLower isLowerTail 31 kind ∧ (1 ≤ label.length ∧ label.length ≤ 100) ∧
      fields.length ≤ maxSelectorFields ∧ validateDependencies fields then
    .ok ⟨⟨kind, h.1⟩, ⟨label, h.2.1⟩, fields, h.2.2.1, h.2.2.2⟩
  else .error .validation

theorem SelectorKind.validate_fields {kind label : String} {fields : List SelectorField}
    {k : SelectorKind} (h : SelectorKind.validate kind label fields = .ok k) : k.fields = fields := by
  unfold SelectorKind.validate at h
  split at h
  · cases h
    rfl
  · cases h

theorem SelectorKind.validate_isOk_iff (kind : Identifier) (label : Label)
    (fields : List SelectorField) :
    (∃ k, SelectorKind.validate kind label fields = .ok k) ↔
      fields.length ≤ maxSelectorFields ∧ validateDependencies fields := by
  constructor
  · rintro ⟨k, hk⟩
    obtain rfl := validate_fields hk
    exact ⟨k.fields_length, k.dependencies⟩
  · rintro ⟨hlength, hdependencies⟩
    exact ⟨⟨kind, label, fields, hlength, hdependencies⟩,
      dif_pos ⟨kind.2, label.2, hlength, hdependencies⟩⟩

/-- **Schema validation is exact**: of the fields that fit into a kind it accepts those with unique
names, unique known dependencies and no cycle. Where the search is run it ends, and accepted fields
can be ordered with their dependencies first. -/
theorem selectorKind_accepts_iff (kind : Identifier) (label : Label)
    (fields : List SelectorField) :
    ((∃ k, SelectorKind.validate kind label fields = .ok k) ↔
      fields.length ≤ maxSelectorFields ∧ Declared fields ∧ Acyclic fields) ∧
    (Declared fields → ∃ result,
      SearchAll (dependencyMap fields) ([], []) (fields.map (·.name.val)) result) ∧
    ((∃ k, SelectorKind.validate kind label fields = .ok k) →
      ∃ order, order.Perm fields ∧ DependenciesFirst order) := by
  refine ⟨?_, fun h => ⟨_, searchAll_searchFields h⟩, ?_⟩
  · rw [SelectorKind.validate_isOk_iff, validateDependencies_iff]
  · rw [SelectorKind.validate_isOk_iff]
    exact fun h => exists_dependency_order h.2

/-- A text field of this number, on nothing else. -/
def plainField (i : Fin 17) : SelectorField where
  name := ⟨"f" ++ toString i.val, by revert i; decide +kernel⟩
  label := ⟨"f", by decide⟩
  fieldType := .text

/-- A field more than a kind may have is refused, though it depends on nothing. -/
theorem selectorKind_refuses : ¬ ∀ (kind : Identifier) (label : Label)
    (fields : List SelectorField), (∃ k, SelectorKind.validate kind label fields = .ok k) ↔
      Declared fields ∧ Acyclic fields := by
  intro h
  have hnone : ∀ field ∈ List.ofFn plainField, field.dependsOn = [] := by
    intro field hfield
    obtain ⟨i, rfl⟩ := List.mem_ofFn.mp hfield
    rfl
  have hdeclared : Declared (List.ofFn plainField) := by
    refine ⟨by decide +kernel, fun field hf => ?_, fun field hf => ?_⟩
    · rw [hnone field hf]
      exact List.nodup_nil
    · rw [hnone field hf]
      exact nofun
  have hacyclic : Acyclic (List.ofFn plainField) := by
    intro name hcycle
    obtain ⟨on, ⟨field, hfield, -, hon⟩, -⟩ := Relation.TransGen.head'_iff.mp hcycle
    rw [hnone field hfield] at hon
    cases hon
  have haccepts := (h ⟨"a", by decide⟩ ⟨"a", by decide⟩ _).mpr ⟨hdeclared, hacyclic⟩
  rw [SelectorKind.validate_isOk_iff] at haccepts
  revert haccepts
  decide +kernel

end Snarkypuss
