import Mathlib

/-!
# Insertion-ordered dictionaries

A dictionary is a list of entries in which no key occurs twice. Assigning to a key that is
present keeps its place, assigning to a new one appends. Two dictionaries are equal as mappings
when they hold the same entries in any order.

## Main definitions

* `Dict κ ν`: dictionaries, with the keys' distinctness as a field
* `Dict.get?`, `Dict.insert`, `Dict.ofPairs`: lookup, assignment, and building from pairs
* `Dict.Same`: equality as mappings
* `Dict.sortKeys`: the same mapping with its keys in increasing order

## Main results

* `Dict.get?_insert`: assignment and lookup
* `Dict.ofPairs_entries`: building a dictionary from its own entries gives it back
* `Dict.same_iff_perm`: equality as mappings is equality of the entries up to order
-/

namespace Snarkypuss

/-- A dictionary: its entries in insertion order, each key once. -/
structure Dict (κ ν : Type) where
  entries : List (κ × ν)
  keys_nodup : (entries.map Prod.fst).Nodup

namespace Dict

variable {κ ν : Type}

theorem ext_entries {d d' : Dict κ ν} (h : d.entries = d'.entries) : d = d' := by
  cases d; cases d'; simp_all

instance [DecidableEq κ] [DecidableEq ν] : DecidableEq (Dict κ ν) := fun d d' =>
  decidable_of_iff (d.entries = d'.entries) ⟨ext_entries, fun h => h ▸ rfl⟩

/-- The dictionary with no entries. -/
def empty : Dict κ ν := ⟨[], List.nodup_nil⟩

/-- The keys, in insertion order. -/
def keys (d : Dict κ ν) : List κ := d.entries.map Prod.fst

/-- The values, in the order of their keys. -/
def values (d : Dict κ ν) : List ν := d.entries.map Prod.snd

@[simp] theorem entries_empty : (empty : Dict κ ν).entries = [] := rfl

theorem nodup_entries (d : Dict κ ν) : d.entries.Nodup := d.keys_nodup.of_map

variable [DecidableEq κ]

/-- The value at a key. -/
def get? (d : Dict κ ν) (k : κ) : Option ν := d.entries.lookup k

/-- A list of entries with `k` set to `v`: in place when `k` occurs, at the end otherwise. -/
def assign (k : κ) (v : ν) : List (κ × ν) → List (κ × ν)
  | [] => [(k, v)]
  | e :: es => if e.1 = k then (k, v) :: es else e :: assign k v es

theorem mem_assign {k : κ} {v : ν} {es : List (κ × ν)} {x : κ}
    (h : x ∈ (assign k v es).map Prod.fst) : x = k ∨ x ∈ es.map Prod.fst := by
  induction es with
  | nil => simpa [assign] using h
  | cons e es ih =>
    simp only [assign] at h
    split at h
    · rename_i he
      simp only [List.map_cons, List.mem_cons] at h ⊢
      rcases h with rfl | h
      · exact .inl rfl
      · exact .inr (.inr h)
    · simp only [List.map_cons, List.mem_cons] at h ⊢
      rcases h with rfl | h
      · exact .inr (.inl rfl)
      · exact (ih h).imp id .inr

theorem nodup_assign (k : κ) (v : ν) {es : List (κ × ν)} (h : (es.map Prod.fst).Nodup) :
    ((assign k v es).map Prod.fst).Nodup := by
  induction es with
  | nil => simp [assign]
  | cons e es ih =>
    obtain ⟨hnot, htail⟩ := List.nodup_cons.mp h
    simp only [assign]
    split
    · rename_i he
      exact List.nodup_cons.mpr ⟨he ▸ hnot, htail⟩
    · rename_i he
      refine List.nodup_cons.mpr ⟨fun hmem => ?_, ih htail⟩
      rcases mem_assign hmem with hk | hmem
      · exact he hk
      · exact hnot hmem

/-- Assignment. -/
def insert (d : Dict κ ν) (k : κ) (v : ν) : Dict κ ν :=
  ⟨assign k v d.entries, nodup_assign k v d.keys_nodup⟩

/-- The dictionary of a sequence of assignments: the last value of a key wins. -/
def ofPairs (ps : List (κ × ν)) : Dict κ ν := ps.foldl (fun d p => d.insert p.1 p.2) empty

theorem lookup_cons (e : κ × ν) (es : List (κ × ν)) (k : κ) :
    (e :: es).lookup k = if k = e.1 then some e.2 else es.lookup k := by
  rw [List.lookup_cons]
  by_cases h : k = e.1
  · simp [h]
  · simp [h, beq_eq_false_iff_ne.mpr h]

theorem get?_eq_some_iff {d : Dict κ ν} {k : κ} {v : ν} :
    d.get? k = some v ↔ (k, v) ∈ d.entries := by
  obtain ⟨es, h⟩ := d
  simp only [get?]
  induction es with
  | nil => simp
  | cons e es ih =>
    obtain ⟨hnot, htail⟩ := List.nodup_cons.mp h
    rw [lookup_cons]
    by_cases he : k = e.1
    · subst he
      have : (e.1, v) ∉ es := fun hm => hnot (List.mem_map.mpr ⟨_, hm, rfl⟩)
      simp [this, Prod.ext_iff, eq_comm]
    · simp [he, ih htail, Prod.ext_iff]

theorem get?_eq_none_iff {d : Dict κ ν} {k : κ} : d.get? k = none ↔ k ∉ d.keys := by
  rw [get?, List.lookup_eq_none_iff, keys]
  constructor
  · rintro h hk
    obtain ⟨e, he, rfl⟩ := List.mem_map.mp hk
    simpa using h e he
  · intro h e he
    have : k ≠ e.1 := fun hk => h (List.mem_map.mpr ⟨e, he, hk.symm⟩)
    simpa using this

@[simp] theorem get?_empty (k : κ) : (empty : Dict κ ν).get? k = none := rfl

theorem get?_insert (d : Dict κ ν) (k k' : κ) (v : ν) :
    (d.insert k v).get? k' = if k' = k then some v else d.get? k' := by
  obtain ⟨es, h⟩ := d
  simp only [get?, insert]
  induction es with
  | nil => simp [assign, lookup_cons]
  | cons e es ih =>
    have ih := ih (List.nodup_cons.mp h).2
    simp only [assign]
    split
    · rename_i he
      by_cases hk : k' = k <;> simp [lookup_cons, hk, he]
    · rename_i he
      rw [lookup_cons, lookup_cons, ih]
      by_cases hk : k' = e.1
      · have hne : k' ≠ k := fun h => he (hk ▸ h)
        simp [hk, he]
      · simp [hk]

theorem mem_keys_iff {d : Dict κ ν} {k : κ} : k ∈ d.keys ↔ ∃ v, d.get? k = some v := by
  rw [← not_iff_not, ← get?_eq_none_iff]
  simp [Option.eq_none_iff_forall_ne_some]

@[simp] theorem mem_keys_insert {d : Dict κ ν} {k k' : κ} {v : ν} :
    k' ∈ (d.insert k v).keys ↔ k' = k ∨ k' ∈ d.keys := by
  rw [mem_keys_iff, get?_insert]
  by_cases h : k' = k
  · simp [h]
  · simp [h, mem_keys_iff]

/-- Assigning a key that does not occur appends it. -/
theorem assign_of_not_mem {k : κ} {v : ν} {es : List (κ × ν)} (h : k ∉ es.map Prod.fst) :
    assign k v es = es ++ [(k, v)] := by
  induction es with
  | nil => rfl
  | cons e es ih =>
    simp only [List.map_cons, List.mem_cons, not_or] at h
    simp [assign, Ne.symm h.1, ih h.2]

/-! ## Removal -/

/-- Removal of a key. -/
def erase (d : Dict κ ν) (k : κ) : Dict κ ν :=
  ⟨d.entries.filter (·.1 ≠ k), d.keys_nodup.sublist (List.filter_sublist.map _)⟩

theorem get?_erase (d : Dict κ ν) (k k' : κ) :
    (d.erase k).get? k' = if k' = k then none else d.get? k' := by
  apply Option.ext
  intro v
  rw [get?_eq_some_iff, erase, List.mem_filter]
  by_cases h : k' = k
  · simp [h]
  · simp [h, get?_eq_some_iff]

@[simp] theorem mem_keys_erase {d : Dict κ ν} {k k' : κ} :
    k' ∈ (d.erase k).keys ↔ k' ≠ k ∧ k' ∈ d.keys := by
  rw [mem_keys_iff, mem_keys_iff, get?_erase]
  by_cases h : k' = k <;> simp [h]

/-- Removing a key that does not occur. -/
theorem erase_of_not_mem {d : Dict κ ν} {k : κ} (h : k ∉ d.keys) : d.erase k = d := by
  apply ext_entries
  show d.entries.filter _ = d.entries
  rw [List.filter_eq_self]
  intro e he
  exact decide_eq_true fun hk => h (hk ▸ List.mem_map.mpr ⟨e, he, rfl⟩)

/-- Assigning a key and removing it again. -/
theorem erase_insert_self (d : Dict κ ν) (k : κ) (v : ν) : (d.insert k v).erase k = d.erase k := by
  apply ext_entries
  show (assign k v d.entries).filter _ = d.entries.filter _
  generalize d.entries = es
  induction es with
  | nil => simp [assign]
  | cons e es ih =>
    simp only [ne_eq, decide_not] at ih
    by_cases he : e.1 = k
    · simp [assign, he]
    · simp [assign, he, ih]

/-- Assignment and removal of different keys commute. -/
theorem erase_insert_of_ne {k k' : κ} (h : k ≠ k') (d : Dict κ ν) (v : ν) :
    (d.insert k v).erase k' = (d.erase k').insert k v := by
  apply ext_entries
  show (assign k v d.entries).filter _ = assign k v (d.entries.filter _)
  generalize d.entries = es
  induction es with
  | nil => simp [assign, h]
  | cons e es ih =>
    by_cases he : e.1 = k
    · have hne : e.1 ≠ k' := he ▸ h
      simp [assign, he, h]
    · simp only [ne_eq, decide_not] at ih
      by_cases he' : e.1 = k'
      · simp [assign, he', Ne.symm h, ih]
      · simp [assign, he, he', ih]

/-- The second of two assignments to a key. -/
theorem insert_insert (d : Dict κ ν) (k : κ) (v w : ν) :
    (d.insert k v).insert k w = d.insert k w := by
  apply ext_entries
  show assign k w (assign k v d.entries) = assign k w d.entries
  generalize d.entries = es
  induction es with
  | nil => simp [assign]
  | cons e es ih =>
    by_cases he : e.1 = k
    · simp [assign, he]
    · simp [assign, he, ih]

/-- Assigning a key the value it has. -/
theorem insert_of_get? {d : Dict κ ν} {k : κ} {v : ν} (h : d.get? k = some v) :
    d.insert k v = d := by
  apply ext_entries
  show assign k v d.entries = d.entries
  have hmem := get?_eq_some_iff.mp h
  have hnodup := d.keys_nodup
  generalize d.entries = es at hmem hnodup
  induction es with
  | nil => cases hmem
  | cons e es ih =>
    obtain ⟨hnot, htail⟩ := List.nodup_cons.mp hnodup
    rcases List.mem_cons.mp hmem with rfl | hmem
    · simp [assign]
    · have hne : e.1 ≠ k := fun he => hnot (he ▸ List.mem_map.mpr ⟨_, hmem, rfl⟩)
      simp [assign, hne, ih hmem htail]

@[simp] theorem keys_insert_of_mem {d : Dict κ ν} {k : κ} (h : k ∈ d.keys) (v : ν) :
    (d.insert k v).keys = d.keys := by
  show (assign k v d.entries).map Prod.fst = d.entries.map Prod.fst
  have hmem : k ∈ d.entries.map Prod.fst := h
  generalize d.entries = es at hmem
  induction es with
  | nil => cases hmem
  | cons e es ih =>
    by_cases he : e.1 = k
    · simp [assign, he]
    · have hmem : k ∈ es.map Prod.fst := (List.mem_cons.mp hmem).resolve_left (Ne.symm he)
      simp [assign, he, ih hmem]

theorem keys_insert_of_not_mem {d : Dict κ ν} {k : κ} (h : k ∉ d.keys) (v : ν) :
    (d.insert k v).keys = d.keys ++ [k] := by
  show (assign k v d.entries).map Prod.fst = d.entries.map Prod.fst ++ [k]
  rw [assign_of_not_mem h, List.map_append]
  rfl

theorem keys_erase (d : Dict κ ν) (k : κ) : (d.erase k).keys = d.keys.filter (· ≠ k) := by
  show (d.entries.filter _).map Prod.fst = (d.entries.map Prod.fst).filter _
  rw [List.filter_map]
  rfl

/-! ## Building from pairs -/

theorem foldl_insert_entries (ps : List (κ × ν)) (d : Dict κ ν)
    (h : ((d.entries ++ ps).map Prod.fst).Nodup) :
    (ps.foldl (fun d p => d.insert p.1 p.2) d).entries = d.entries ++ ps := by
  induction ps generalizing d with
  | nil => simp
  | cons p ps ih =>
    have hp : p.1 ∉ d.entries.map Prod.fst := by
      simp only [List.map_append, List.map_cons] at h
      exact fun hm => (List.nodup_append.mp h).2.2 _ hm _ List.mem_cons_self rfl
    have hins : (d.insert p.1 p.2).entries = d.entries ++ [p] := assign_of_not_mem hp
    rw [List.foldl_cons, ih _ (by simpa [hins] using h), hins, List.append_assoc]
    rfl

/-- Pairs with distinct keys are the entries of the dictionary they build. -/
theorem ofPairs_entries {ps : List (κ × ν)} (h : (ps.map Prod.fst).Nodup) :
    (ofPairs ps).entries = ps := by
  simpa [ofPairs] using foldl_insert_entries ps empty (by simpa using h)

@[simp] theorem ofPairs_self (d : Dict κ ν) : ofPairs d.entries = d :=
  ext_entries (ofPairs_entries d.keys_nodup)

theorem get?_ofPairs_mem {ps : List (κ × ν)} {k : κ} {v : ν} (h : (ofPairs ps).get? k = some v) :
    (k, v) ∈ ps := by
  suffices ∀ d : Dict κ ν, (ps.foldl (fun d p => d.insert p.1 p.2) d).get? k = some v →
      (k, v) ∈ ps ∨ d.get? k = some v by
    simpa using this empty h
  clear h
  induction ps with
  | nil => exact fun d hd => .inr hd
  | cons p ps ih =>
    intro d hd
    rcases ih _ hd with hm | hd
    · exact .inl (List.mem_cons_of_mem _ hm)
    · rw [get?_insert] at hd
      split at hd
      · rename_i hk
        cases hd
        exact .inl (hk ▸ List.mem_cons_self)
      · exact .inr hd

/-! ## Equality as mappings -/

/-- Equality as mappings: the order of the entries does not matter. -/
def Same (d d' : Dict κ ν) : Prop := ∀ k, d.get? k = d'.get? k

theorem Same.refl (d : Dict κ ν) : d.Same d := fun _ => rfl

theorem Same.symm {d d' : Dict κ ν} (h : d.Same d') : d'.Same d := fun k => (h k).symm

theorem Same.trans {d d' d'' : Dict κ ν} (h : d.Same d') (h' : d'.Same d'') : d.Same d'' :=
  fun k => (h k).trans (h' k)

theorem same_iff_perm {d d' : Dict κ ν} : d.Same d' ↔ d.entries.Perm d'.entries := by
  constructor
  · intro h
    refine (List.perm_ext_iff_of_nodup d.nodup_entries d'.nodup_entries).mpr fun e => ?_
    rw [← get?_eq_some_iff (k := e.1) (v := e.2), ← get?_eq_some_iff (k := e.1) (v := e.2), h]
  · intro h k
    refine Option.ext fun v => ?_
    simp only [get?_eq_some_iff]
    exact h.mem_iff

theorem Same.perm {d d' : Dict κ ν} (h : d.Same d') : d.entries.Perm d'.entries :=
  same_iff_perm.mp h

/-- A dictionary with the given values under the given keys, and no others. -/
theorem same_ofPairs {d : Dict κ ν} {ps : List (κ × ν)} (hnodup : (ps.map Prod.fst).Nodup)
    (hget : ∀ p ∈ ps, d.get? p.1 = some p.2) (hkeys : ∀ k ∈ d.keys, k ∈ ps.map Prod.fst) :
    d.Same (ofPairs ps) := by
  intro k
  by_cases hk : k ∈ ps.map Prod.fst
  · obtain ⟨p, hp, rfl⟩ := List.mem_map.mp hk
    have hbuilt : (ofPairs ps).get? p.1 = some p.2 := by
      rw [get?_eq_some_iff, ofPairs_entries hnodup]
      exact hp
    rw [hget p hp, hbuilt]
  · have hleft : d.get? k = none := get?_eq_none_iff.mpr fun h => hk (hkeys k h)
    have hright : (ofPairs ps).get? k = none := by
      rw [get?_eq_none_iff, keys, ofPairs_entries hnodup]
      exact hk
    rw [hleft, hright]

theorem Same.mem_keys {d d' : Dict κ ν} (h : d.Same d') {k : κ} : k ∈ d.keys ↔ k ∈ d'.keys := by
  rw [← not_iff_not, ← get?_eq_none_iff, ← get?_eq_none_iff, h k]

instance [DecidableEq ν] (d d' : Dict κ ν) : Decidable (d.Same d') :=
  decidable_of_iff (d.entries.Perm d'.entries) same_iff_perm.symm

/-! ## Sorting -/

/-- The same mapping, its keys in increasing order. -/
def sortKeys [LE κ] [DecidableLE κ] (d : Dict κ ν) : Dict κ ν :=
  ⟨d.entries.insertionSort fun e e' => e.1 ≤ e'.1,
    ((List.perm_insertionSort _ _).map _).nodup_iff.mpr d.keys_nodup⟩

theorem sortKeys_same [LE κ] [DecidableLE κ] (d : Dict κ ν) : d.sortKeys.Same d :=
  same_iff_perm.mpr (List.perm_insertionSort _ _)

end Dict

end Snarkypuss
