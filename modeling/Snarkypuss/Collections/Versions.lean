import Mathlib

/-!
# Versioned values

A store that holds a version for every key, and updates that each name the version they expect to
find. An update is applied to a store that holds the version it expects, and leaves the next one;
what it leaves of the other keys is as it was.

## Main definitions

* `Updates`: the updates that lead from one store to another, in the order they were applied

## Main results

* `Updates.expected`: the versions expected by the updates of a key are consecutive
* `Updates.nodup`: no two updates of a key expect the same version
-/

namespace Snarkypuss

variable {S K : Type}

/-- What no two elements of a list have in common, belongs to one. -/
theorem eq_of_nodup_filterMap {A B : Type} {f : A → Option B} {l : List A} {a a' : A} {b : B}
    (h : (l.filterMap f).Nodup) (ha : a ∈ l) (ha' : a' ∈ l) (hb : f a = some b)
    (hb' : f a' = some b) : a = a' := by
  have hdiffer : l.Pairwise fun a a' => ∀ b, f a = some b → ∀ b', f a' = some b' → b ≠ b' :=
    List.pairwise_filterMap.mp h
  have : Std.Symm fun a a' => ∀ b, f a = some b → ∀ b', f a' = some b' → b ≠ b' :=
    ⟨fun a a' hne b hb b' hb' => (hne b' hb' b hb).symm⟩
  by_contra hne
  exact hdiffer.forall ha ha' hne b hb b hb' rfl

/-- The updates that lead from `s` to another store, each with the version that it expected. -/
inductive Updates (version : S → K → ℤ) (s : S) : List (K × ℤ) → S → Prop
  | nil : Updates version s [] s
  | snoc {log s' s'' k} (updates : Updates version s log s')
    (next : version s'' k = version s' k + 1)
    (others : ∀ k', k' ≠ k → version s'' k' = version s' k') :
    Updates version s (log ++ [(k, version s' k)]) s''

namespace Updates

variable {version : S → K → ℤ} {s s' : S} {log : List (K × ℤ)} {k : K}

/-- The version of a key counts its updates. -/
theorem version_eq [DecidableEq K] (h : Updates version s log s') (k : K) :
    version s' k = version s k + (log.filter (·.1 = k)).length := by
  induction h with
  | nil => simp
  | @snoc log s₁ s₂ k₁ updates next others ih =>
    rw [List.filter_append]
    by_cases hk : k₁ = k
    · subst hk
      rw [next, ih]
      simp
      ring
    · rw [others k (Ne.symm hk), ih]
      simp [hk]

/-- **The versions that the updates of a key expected are consecutive**, from its first version
on. -/
theorem expected [DecidableEq K] (h : Updates version s log s') (k : K) :
    (log.filter (·.1 = k)).map Prod.snd =
      (List.range (log.filter (·.1 = k)).length).map fun i => version s k + (i : ℤ) := by
  induction h with
  | nil => rfl
  | @snoc log s₁ s₂ k₁ updates next others ih =>
    rw [List.filter_append, List.map_append, ih]
    by_cases hk : k₁ = k
    · subst hk
      -- the last update expected the version that the earlier ones had left
      simp [List.range_succ, updates.version_eq k₁]
    · simp [hk]

/-- An update expected a version from before the last. -/
theorem expected_lt {e : ℤ} (h : Updates version s log s') (he : (k, e) ∈ log) :
    e < version s' k := by
  induction h with
  | nil => cases he
  | @snoc log s₁ s₂ k₁ updates next others ih =>
    rcases List.mem_append.mp he with he | he
    · have hlt := ih he
      by_cases hk : k = k₁
      · subst hk
        omega
      · rw [others k hk]
        exact hlt
    · obtain ⟨rfl, rfl⟩ := Prod.mk.inj (List.mem_singleton.mp he)
      omega

/-- **No two updates of a key expected the same version.** -/
theorem nodup (h : Updates version s log s') : log.Nodup := by
  induction h with
  | nil => exact .nil
  | @snoc log s₁ s₂ k₁ updates next others ih =>
    refine List.nodup_append.mpr ⟨ih, List.nodup_singleton _, ?_⟩
    rintro ⟨k, e⟩ he _ hlast rfl
    obtain ⟨rfl, rfl⟩ := Prod.mk.inj (List.mem_singleton.mp hlast)
    exact lt_irrefl _ (updates.expected_lt he)

end Updates

end Snarkypuss
