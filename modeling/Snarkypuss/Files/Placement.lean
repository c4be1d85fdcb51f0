import Snarkypuss.Files.Tree

/-!
# Placing files

What it takes to put a file at a path and what that does to the rest of a file system: the missing
directories are made, the file is there, and nothing else is touched. Files that stand apart can be
placed in any order, each as if it were the first.

## Main definitions

* `Tree.ensure`, `Tree.place`: the directories down to a path, and a file with its directories
* `Apart`: paths of which neither is the other one or above it
* `Tree.Drift`: what placing and removing files at some paths may have done

## Main results

* `Tree.Grounded.place`, `Tree.Grounded.erase`: what exists lies in a directory, still
* `Tree.Drift.place`, `Tree.Drift.erase`: one more file placed or removed
* `Tree.Drift.apart`, `Tree.Drift.passable_iff`: a path apart from these is found as it was
-/

namespace Snarkypuss.Files

open Python (PosixPath)

namespace Tree

variable {s t : Tree} {p q d : PosixPath} {c : ByteArray} {m mode : Fin 4096}

/-! ## Directories on the way -/

theorem Above.refl (p : PosixPath) : Above p p := ⟨rfl, List.prefix_refl _⟩

theorem Above.trans (h : Above q p) (h' : Above p d) : Above q d :=
  ⟨h.1.trans h'.1, h.2.trans h'.2⟩

theorem above_parent (p : PosixPath) : Above p.parent p := ⟨rfl, List.dropLast_prefix _⟩

/-- A path above another one is the first part of it. -/
theorem above_iff : Above q p ↔ ∃ n ≤ p.parts.length, q = ⟨p.root, p.parts.take n⟩ := by
  constructor
  · rintro ⟨hroot, hprefix⟩
    refine ⟨q.parts.length, hprefix.length_le, ?_⟩
    obtain ⟨root, parts⟩ := q
    obtain rfl : root = p.root := hroot
    congr 1
    exact List.prefix_iff_eq_take.mp hprefix
  · rintro ⟨n, -, rfl⟩
    exact ⟨rfl, List.take_prefix _ _⟩

/-- Nothing but directories is above a path that can be reached. -/
theorem passable_iff : s.Passable p ↔ ∀ q, Above q p → s q = none ∨ s.isDir q := by
  constructor
  · intro h q hq
    obtain ⟨n, hn, rfl⟩ := above_iff.mp hq
    exact h n hn
  · exact fun h n hn => h _ (above_iff.mpr ⟨n, hn, rfl⟩)

/-- A path strictly above another one is above its parent. -/
theorem Above.parent_of_ne (h : Above q p) (hne : q ≠ p) : Above q p.parent := by
  obtain ⟨hroot, hprefix⟩ := h
  refine ⟨hroot, ?_⟩
  have hlength : q.parts.length < p.parts.length := by
    refine lt_of_le_of_ne hprefix.length_le fun heq => hne ?_
    obtain ⟨root, parts⟩ := q
    obtain rfl : root = p.root := hroot
    obtain rfl : parts = p.parts := hprefix.eq_of_length heq
    rfl
  rw [PosixPath.parent, List.prefix_iff_eq_take.mp hprefix, List.dropLast_eq_take]
  exact List.take_prefix_take_left (by omega)

theorem isDir_eq_true : s.isDir p = true ↔ ∃ m, s p = some (.directory m) := by
  unfold isDir
  split
  · rename_i m h
    simp [h]
  · rename_i h
    simp only [Bool.false_eq_true, false_iff, not_exists]
    exact fun m hm => h m hm

theorem isDir_of_eq (h : t p = s p) : t.isDir p = s.isDir p := by
  rw [isDir, isDir, h]

/-- In a real file system every path above something is a directory. -/
theorem Grounded.isDir_above (hs : s.Grounded) (hp : s p ≠ none) (hq : Above q p) (hne : q ≠ p) :
    s.isDir q := by
  obtain ⟨root, parts⟩ := p
  obtain ⟨hroot, hprefix⟩ := hq
  obtain ⟨qroot, qparts⟩ := q
  obtain rfl : qroot = root := hroot
  obtain ⟨rest, hrest⟩ := hprefix
  obtain rfl : qparts ++ rest = parts := hrest
  induction rest using List.reverseRecOn with
  | nil => exact absurd (by simp) hne
  | append_singleton rest part ih =>
    have hdir : s.isDir ⟨qroot, qparts ++ rest⟩ := by
      apply hs ⟨qroot, qparts ++ rest⟩ part
      rw [PosixPath.child, List.append_assoc]
      exact hp
    by_cases hnil : rest = []
    · subst hnil
      simpa using hdir
    · apply ih
      · obtain ⟨m, hm⟩ := isDir_eq_true.mp hdir
        rw [hm]
        exact Option.some_ne_none _
      · simpa using hnil

/-- A file system that is listed is checked path by path. -/
theorem grounded_of_forall {l : List PosixPath} (hl : ∀ p, s p ≠ none → p ∈ l)
    (h : ∀ p ∈ l, p.parts ≠ [] → s.isDir p.parent) : s.Grounded := by
  intro directory name hchild
  have hparent := h _ (hl _ hchild) (by simp [PosixPath.child])
  rwa [PosixPath.parent_child] at hparent

theorem Grounded.isDir_parent (hs : s.Grounded) (hparts : p.parts ≠ []) (hp : s p ≠ none) :
    s.isDir p.parent := by
  apply hs p.parent p.name
  rwa [PosixPath.child_parent_name hparts]

theorem Grounded.passable (hs : s.Grounded) (h : s.isDir p) : s.Passable p := by
  rw [passable_iff]
  intro q hq
  by_cases hne : q = p
  · exact .inr (hne ▸ h)
  · obtain ⟨m, hm⟩ := isDir_eq_true.mp h
    exact .inr (hs.isDir_above (by rw [hm]; exact nofun) hq hne)

/-! ## Placing a file -/

/-- The missing directories down to a path, unless it is there. -/
def ensure (s : Tree) (p : PosixPath) (mode : Fin 4096) : Tree :=
  if s.isDir p then s else s.makeDirectories p mode

/-- A file with its directories. -/
def place (s : Tree) (mode : Fin 4096) (p : PosixPath) (c : ByteArray) (m : Fin 4096) : Tree :=
  Function.update (s.ensure p.parent mode) p (some (.file c m))

/-- A file that is gone. -/
def erase (s : Tree) (p : PosixPath) : Tree := Function.update s p none

theorem ensure_of_isDir (h : s.isDir p) : s.ensure p mode = s := if_pos h

/-- A new directory is a directory, and stands where there was nothing. -/
theorem ensure_cases (s : Tree) (p q : PosixPath) (mode : Fin 4096) :
    s.ensure p mode q = s q ∨
      s q = none ∧ Above q p ∧ s.ensure p mode q = some (.directory mode) := by
  unfold ensure
  split_ifs with h
  · exact .inl rfl
  · by_cases hq : Above q p ∧ s q = none
    · exact .inr ⟨hq.2, hq.1, by rw [makeDirectories, if_pos hq]⟩
    · exact .inl (by rw [makeDirectories, if_neg hq])

theorem ensure_of_not_above (h : ¬ Above q p) : s.ensure p mode q = s q := by
  rcases ensure_cases s p q mode with heq | ⟨-, habove, -⟩
  · exact heq
  · exact absurd habove h

theorem ensure_isDir (hs : s.Passable p) : (s.ensure p mode).isDir p := by
  unfold ensure
  split_ifs with h
  · exact h
  · rcases passable_iff.mp hs p (Above.refl p) with hnone | hdir
    · refine isDir_eq_true.mpr ⟨mode, ?_⟩
      rw [makeDirectories, if_pos ⟨Above.refl p, hnone⟩]
    · exact absurd hdir h

theorem Grounded.ensure (hs : s.Grounded) (hp : s.Passable p) : (s.ensure p mode).Grounded := by
  intro directory name hchild
  rcases ensure_cases s p (directory.child name) mode with heq | ⟨hnone, habove, -⟩
  · -- what was there lay in a directory, and directories stay
    have hdir := hs directory name (heq ▸ hchild)
    rcases ensure_cases s p directory mode with heq' | ⟨hnone, -, -⟩
    · rwa [isDir_of_eq heq']
    · obtain ⟨m, hm⟩ := isDir_eq_true.mp hdir
      rw [hm] at hnone
      cases hnone
  · -- a new directory lies in one that was there, or in a new one
    have hstep : Above directory (directory.child name) := ⟨rfl, List.prefix_append _ _⟩
    have hdirectory : Above directory p := hstep.trans habove
    rcases ensure_cases s p directory mode with heq | ⟨-, -, hnew⟩
    · rcases passable_iff.mp hp directory hdirectory with hmissing | hdir
      · unfold Tree.ensure at hchild heq ⊢
        split_ifs at hchild heq ⊢ with h
        · exact absurd hnone hchild
        · rw [makeDirectories, if_pos ⟨hdirectory, hmissing⟩, hmissing] at heq
          cases heq
      · rwa [isDir_of_eq heq]
    · exact isDir_eq_true.mpr ⟨mode, hnew⟩

theorem place_self : s.place mode p c m p = some (.file c m) := Function.update_self ..

theorem place_of_ne (h : q ≠ p) : s.place mode p c m q = s.ensure p.parent mode q :=
  Function.update_of_ne h ..

theorem Grounded.place (hs : s.Grounded) (hp : s.Passable p.parent) (hne : p.parts ≠ [])
    (hdir : s.isDir p = false) : (s.place mode p c m).Grounded := by
  have hgrounded : (s.ensure p.parent mode).Grounded := hs.ensure hp
  intro directory name hchild
  by_cases hself : directory.child name = p
  · obtain rfl : p.parent = directory := by rw [← hself, PosixPath.parent_child]
    have hparent : p.parent ≠ p := by
      intro heq
      have hlength := congrArg (fun path => path.parts.length) heq
      simp only [PosixPath.parent, List.length_dropLast] at hlength
      have := List.length_pos_of_ne_nil hne
      omega
    rw [isDir_of_eq (place_of_ne hparent)]
    exact ensure_isDir hp
  · have hd := hgrounded directory name (by rwa [place_of_ne hself] at hchild)
    by_cases hdirectory : directory = p
    · -- a file has replaced nothing, or a file
      subst hdirectory
      rcases ensure_cases s directory.parent directory mode with heq | ⟨-, habove, -⟩
      · rw [isDir_of_eq heq, hdir] at hd
        cases hd
      · have hlength := habove.2.length_le
        simp only [PosixPath.parent, List.length_dropLast] at hlength
        have := List.length_pos_of_ne_nil hne
        omega
    · rwa [isDir_of_eq (place_of_ne hdirectory)]

theorem erase_self : s.erase p p = none := Function.update_self ..

theorem erase_of_ne (h : q ≠ p) : s.erase p q = s q := Function.update_of_ne h ..

theorem Grounded.erase (hs : s.Grounded) (hp : s.isDir p = false) : (s.erase p).Grounded := by
  intro directory name hchild
  have hself : directory.child name ≠ p := by
    rintro rfl
    exact hchild erase_self
  rw [erase_of_ne hself] at hchild
  have hdir := hs directory name hchild
  have hdirectory : directory ≠ p := by
    rintro rfl
    rw [hp] at hdir
    cases hdir
  rwa [isDir_of_eq (erase_of_ne hdirectory)]

/-! ## Files that stand apart -/

/-- Neither path is the other one or above it. -/
def Apart (p q : PosixPath) : Prop := ¬ Above p q ∧ ¬ Above q p

theorem Apart.symm (h : Apart p q) : Apart q p := ⟨h.2, h.1⟩

theorem Apart.ne (h : Apart p q) : p ≠ q := by
  rintro rfl
  exact h.1 (Above.refl p)

/-- What placing and removing files at some paths may have done: there it did anything, above them
it made directories where there was nothing, and elsewhere it did nothing. -/
def Drift (s t : Tree) (ds : List PosixPath) : Prop :=
  ∀ q, q ∈ ds ∨ t q = s q ∨ s q = none ∧ t.isDir q ∧ ∃ d ∈ ds, Above q d

namespace Drift

variable {ds : List PosixPath}

theorem refl (s : Tree) (ds : List PosixPath) : Drift s s ds := fun _ => .inr (.inl rfl)

/-- A path apart from these is found as it was. -/
theorem apart (h : Drift s t ds) (hp : ∀ d ∈ ds, Apart p d) : t p = s p := by
  rcases h p with hmem | heq | ⟨-, -, d, hd, habove⟩
  · exact absurd rfl (hp p hmem).ne
  · exact heq
  · exact absurd habove (hp d hd).1

/-- The way to a path apart from these is free if it was. -/
theorem passable_iff (h : Drift s t ds) (hp : ∀ d ∈ ds, Apart p d) :
    t.Passable p.parent ↔ s.Passable p.parent := by
  rw [Tree.passable_iff, Tree.passable_iff]
  refine forall₂_congr fun q hq => ?_
  rcases h q with hmem | heq | ⟨hnone, hdir, -⟩
  · exact absurd (hq.trans (above_parent p)) (hp q hmem).2
  · rw [heq, isDir_of_eq heq]
  · exact iff_of_true (.inr hdir) (.inl hnone)

/-- What is found at a path that is no directory's is found as it was, unless it was placed. -/
theorem content (h : Drift s t ds) (hp : p ∉ ds) : t.content p = s.content p := by
  rcases h p with hmem | heq | ⟨hnone, hdir, -⟩
  · exact absurd hmem hp
  · exact content_of_eq heq
  · obtain ⟨m, hm⟩ := isDir_eq_true.mp hdir
    rw [content_eq_none_of hnone, Tree.content, hm]

/-- One more file placed. -/
theorem place (h : Drift s t ds) (hd : d ∈ ds) : Drift s (t.place mode d c m) ds := by
  intro q
  by_cases hq : q = d
  · exact .inl (hq ▸ hd)
  rcases h q with hmem | hrest
  · exact .inl hmem
  rcases ensure_cases t d.parent q mode with heq | ⟨hnone, habove, hnew⟩
  · have hplace : t.place mode d c m q = t q := (place_of_ne hq).trans heq
    rw [hplace, isDir_of_eq hplace]
    exact .inr hrest
  · have hplace : t.place mode d c m q = some (.directory mode) := (place_of_ne hq).trans hnew
    refine .inr (.inr ⟨?_, isDir_eq_true.mpr ⟨mode, hplace⟩, d, hd, habove.trans (above_parent d)⟩)
    rcases hrest with heq | ⟨hmissing, -, -⟩
    · exact heq ▸ hnone
    · exact hmissing

/-- One more file removed. -/
theorem erase (h : Drift s t ds) (hd : d ∈ ds) : Drift s (t.erase d) ds := by
  intro q
  by_cases hq : q = d
  · exact .inl (hq ▸ hd)
  · rw [erase_of_ne hq, isDir_of_eq (erase_of_ne hq)]
    exact h q

/-- Placed and removed files at some paths, and then at others. -/
theorem trans {u : Tree} {ds' : List PosixPath} (h : Drift s t ds) (h' : Drift t u ds') :
    Drift s u (ds ++ ds') := by
  intro q
  rcases h' q with hmem | heq' | ⟨hnone', hdir', d, hd, habove⟩
  · exact .inl (List.mem_append_right ds hmem)
  · rcases h q with hmem | heq | ⟨hnone, hdir, d, hd, habove⟩
    · exact .inl (List.mem_append_left ds' hmem)
    · exact .inr (.inl (heq'.trans heq))
    · exact .inr (.inr ⟨hnone, by rwa [isDir_of_eq heq'], d, List.mem_append_left ds' hd, habove⟩)
  · rcases h q with hmem | heq | ⟨hnone, -, -⟩
    · exact .inl (List.mem_append_left ds' hmem)
    · exact .inr (.inr ⟨heq ▸ hnone', hdir', d, List.mem_append_right ds hd, habove⟩)
    · exact .inr (.inr ⟨hnone, hdir', d, List.mem_append_right ds hd, habove⟩)

theorem mono {ds' : List PosixPath} (h : Drift s t ds) (hds : ds ⊆ ds') : Drift s t ds' := by
  intro q
  rcases h q with hmem | heq | ⟨hnone, hdir, d, hd, habove⟩
  · exact .inl (hds hmem)
  · exact .inr (.inl heq)
  · exact .inr (.inr ⟨hnone, hdir, d, hds hd, habove⟩)

end Drift

end Tree

end Snarkypuss.Files
