import Snarkypuss.Collections.Versions
import Snarkypuss.Targets.SqliteFailures
import Snarkypuss.Targets.SqliteSystem

/-!
# Replacements one after the other

The tables that replacements leave, one after the other, and the repository in memory after the
same replacements.

## Main definitions

* `Replacements`: the tables after replacements
* `Represents`: tables that stand for the catalogues of a repository in memory

## Main results

* `Replacements.updates`: each replacement expected the revision that the one before it left
* `Replacements.represents`: the tables stand for what the replacements leave in memory
-/

namespace Snarkypuss

open SqliteTargetRepository

/-- The tables after replacements, one after the other. -/
inductive Replacements (db : Database) : List RepositoryCall → Database → Prop
  | nil : Replacements db [] db
  | snoc {rs r db' db''} (earlier : Replacements db rs db') (last : r.Prepared db' db'') :
    Replacements db (rs ++ [r]) db''

/-- The provider of a replacement, and the revision that it expects. -/
def RepositoryCall.expects : RepositoryCall → Option (String × ℤ)
  | getCatalogue _ => none
  | replaceCatalogue p expectedRevision _ => some (p, expectedRevision)

section Updates

variable {db db' : Database} {r : RepositoryCall} {rs : List RepositoryCall}

/-- **Each replacement expected the revision that the one before it left.** -/
theorem Replacements.updates (h : Replacements db rs db') :
    Updates Database.revision db (rs.filterMap RepositoryCall.expects) db' := by
  induction h with
  | nil => exact .nil
  | @snoc rs r db₁ db₂ earlier last ih =>
    cases r with
    | getCatalogue p => exact last.elim
    | replaceCatalogue p expectedRevision targets =>
      obtain ⟨candidate, encoded, hvalid, -, hreplaced⟩ := last
      obtain ⟨rfl, hrevision, rfl⟩ := TargetCatalogue.validate_eq_ok_iff.mp hvalid
      obtain rfl : db₁.revision candidate.provider = expectedRevision := hreplaced.expected
      rw [List.filterMap_append]
      refine .snoc ih ?_ fun k hk => ?_
      · rw [Database.revision, hreplaced.revisions, Dict.get?_insert, if_pos rfl]
        exact hrevision
      · rw [Database.revision, hreplaced.revisions, Dict.get?_insert, if_neg hk, Database.revision]

/-- Revisions only grow. -/
theorem Replacements.revision_le {rs' : List RepositoryCall} {db'' : Database}
    (h : Replacements db rs db') (h' : Replacements db (rs ++ rs') db'') (p : String) :
    db'.revision p ≤ db''.revision p := by
  rw [h.updates.version_eq p, h'.updates.version_eq p]
  simp

end Updates

/-! ## In memory -/

section Memory

variable (interpreter : Python.Interpreter) (lax : Json → Option JsonScalar)

/-- The tables stand for the catalogues of a repository in memory. -/
def Represents (db : Database) (catalogues : Dict String TargetCatalogue) : Prop :=
  ∀ p : Identifier, ∃ c, db.read interpreter lax p = .ok c ∧
    c.Same ((catalogues.get? p).getD (.initial p))

/-- The catalogues after calls of a repository in memory. -/
def MemoryTargetRepository.after (catalogues : Dict String TargetCatalogue)
    (rs : List RepositoryCall) : Dict String TargetCatalogue :=
  rs.foldl (fun catalogues r => (MemoryTargetRepository r catalogues).2) catalogues

theorem represents_empty : Represents interpreter lax .empty .empty :=
  fun p => ⟨.initial p, TargetCatalogue.validate_initial p, .refl _⟩

variable {interpreter lax} {db db' : Database} {catalogues : Dict String TargetCatalogue}
  {p : String} {c candidate : TargetCatalogue} {expectedRevision : Int}
  {targets : List StoredTarget} {r : RepositoryCall} {rs : List RepositoryCall}

theorem readCatalogue_eq_ok {revision : Int} {rows : List TargetRow}
    (h : readCatalogue interpreter lax p revision rows = .ok c) :
    c.provider = p ∧ c.revision = revision := by
  unfold readCatalogue invalidCatalogue at h
  split at h
  · cases h
  · cases h
  · cases htargets : rows.mapM (readTarget interpreter lax) with
    | error e =>
      rw [htargets] at h
      cases h
    | ok targets =>
      rw [htargets] at h
      obtain ⟨hp, hrevision, -⟩ := TargetCatalogue.validate_eq_ok_iff.mp h
      exact ⟨hp, hrevision⟩

/-- A provider without a revision has no rows. -/
theorem Database.selectTargets_of_no_revision (h : db.revisions.get? p = none) :
    db.selectTargets p = [] := by
  have hrows : db.rows p = [] := by
    refine List.filter_eq_nil_iff.mpr fun row hrow hp => ?_
    rw [← of_decide_eq_true hp] at h
    exact Dict.get?_eq_none_iff.mp h (db.provider_key row hrow)
  rw [Database.selectTargets, hrows]
  rfl

/-- The stored rows are read under the stored revision. -/
theorem Database.read_of_revision {revision : Int} (hrevision : db.revision p = revision)
    (h : readCatalogue interpreter lax p revision (db.selectTargets p) = .ok c) :
    db.read interpreter lax p = .ok c := by
  rw [Database.read, Database.query]
  rw [Database.revision] at hrevision
  cases hrow : db.revisions.get? p with
  | none =>
    rw [hrow] at hrevision
    obtain rfl : 0 = revision := hrevision
    rw [Database.selectTargets_of_no_revision hrow] at h
    show TargetCatalogue.validate p 0 [] = .ok c
    cases hvalid : TargetCatalogue.validate p 0 [] with
    | ok c' =>
      rw [readCatalogue, List.mapM_nil] at h
      simpa [hvalid, invalidCatalogue, pure, Except.pure, bind, Except.bind] using h
    | error e =>
      obtain rfl := TargetCatalogue.validate_eq_error hvalid
      rw [readCatalogue, List.mapM_nil] at h
      simp [hvalid, invalidCatalogue, pure, Except.pure, bind, Except.bind] at h
  | some revision' =>
    rw [hrow] at hrevision
    obtain rfl : revision' = revision := hrevision
    exact h

/-- A catalogue that is read is that of its provider, under the stored revision. -/
theorem Database.read_eq_ok (h : db.read interpreter lax p = .ok c) :
    c.provider = p ∧ c.revision = db.revision p := by
  rw [Database.read, Database.query] at h
  rw [Database.revision]
  cases hrow : db.revisions.get? p with
  | none =>
    rw [hrow] at h
    obtain ⟨hp, hrevision, -⟩ := TargetCatalogue.validate_eq_ok_iff.mp h
    exact ⟨hp, hrevision⟩
  | some revision =>
    rw [hrow] at h
    exact readCatalogue_eq_ok h

/-- Both repositories hold the same revision. -/
theorem Represents.revision_eq (h : Represents interpreter lax db catalogues) (p : Identifier) :
    (((catalogues.get? p).getD (.initial p)).revision : ℤ) = db.revision p := by
  obtain ⟨c, hread, hsame⟩ := h p
  rw [← hsame.revision_eq]
  exact (Database.read_eq_ok hread).2

/-- A read is answered alike. -/
theorem Represents.get (h : Represents interpreter lax db catalogues)
    (hread : db.read interpreter lax p = .ok c) :
    ∃ c', memoryGet catalogues p = .ok c' ∧ c.Same c' := by
  obtain ⟨rfl, -⟩ := Database.read_eq_ok hread
  obtain ⟨c', hread', hsame⟩ := h c.provider
  obtain rfl := Except.ok.inj (hread.symm.trans hread')
  exact ⟨_, memoryGet_identifier catalogues c.provider, hsame⟩

/-- A replacement is answered by the comparison of its revision with the stored one. -/
theorem Represents.replace (h : Represents interpreter lax db catalogues)
    (hvalid : TargetCatalogue.validate p (expectedRevision + 1) targets = .ok candidate) :
    memoryReplace catalogues p expectedRevision targets =
      if db.revision p = expectedRevision then .ok candidate else .error catalogConflict := by
  have hp := (TargetCatalogue.validate_eq_ok_iff.mp hvalid).1
  subst hp
  unfold memoryReplace
  rw [hvalid, memoryGet_identifier]
  simp only [bind, Except.bind, h.revision_eq]
  by_cases hexpected : db.revision candidate.provider = expectedRevision
  · rw [if_neg (not_not.mpr hexpected), if_pos hexpected]
    rfl
  · rw [if_pos hexpected, if_neg hexpected]
    rfl

/-- A committed replacement is one in memory. -/
theorem Represents.replaced (h : Represents interpreter lax db catalogues)
    (hr : r.Prepared db db') :
    Represents interpreter lax db' (MemoryTargetRepository r catalogues).2 := by
  cases r with
  | getCatalogue p => exact hr.elim
  | replaceCatalogue p expectedRevision targets =>
    obtain ⟨candidate, encoded, hvalid, hencodes, hreplaced⟩ := hr
    have hmemory := h.replace hvalid
    obtain ⟨rfl, hrevision, rfl⟩ := TargetCatalogue.validate_eq_ok_iff.mp hvalid
    have hexpected : db.revision candidate.provider = expectedRevision := hreplaced.expected
    rw [if_pos hexpected] at hmemory
    intro p
    simp only [MemoryTargetRepository, hmemory]
    by_cases hp : p = candidate.provider
    · subst hp
      rw [Dict.get?_insert, if_pos rfl]
      exact hreplaced.read interpreter lax hencodes
    · have hne : (p : String) ≠ candidate.provider := fun hsame => hp (Subtype.ext hsame)
      rw [Dict.get?_insert, if_neg hne, hreplaced.read_other interpreter lax hne]
      exact h p

/-- **The tables stand for what the replacements leave in memory.** -/
theorem Replacements.represents (h : Replacements db rs db')
    (hdb : Represents interpreter lax db catalogues) :
    Represents interpreter lax db' (MemoryTargetRepository.after catalogues rs) := by
  induction h with
  | nil => exact hdb
  | @snoc rs r db₁ db₂ earlier last ih =>
    rw [MemoryTargetRepository.after, List.foldl_append]
    exact ih.replaced last

end Memory

end Snarkypuss
