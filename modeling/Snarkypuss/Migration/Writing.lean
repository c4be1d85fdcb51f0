import Snarkypuss.Files.Placement
import Snarkypuss.Migration.Restore

/-!
# Atomic writes in a file system

What `atomic_write` does when its calls are answered as they should be: it places the file, or it
raises and leaves at most the directories that it made.

## Main definitions

* `tempPath`: the path of the temporary file
* `Finds`: a free name for the temporary file is found

## Main results

* `returns_atomicWrite`: the file is placed
* `throws_atomicWrite_of_not_passable`, `throws_atomicWrite`: how it fails
-/

namespace Snarkypuss.Migration

open Python Python.PosixPath Files Files.Tree Program Gateway

/-- The path of the temporary file for a path. -/
def tempPath (platform : Platform) (s : Tree) (path : PosixPath) : PosixPath :=
  path.parent.child (s!".{path.name}." ++ (platform.tempName s path.parent s!".{path.name}.").text)

/-- The name that `mkstemp` chooses for the temporary file is free. -/
def Finds (platform : Platform) (s : Tree) (path : PosixPath) : Prop :=
  s (tempPath platform s path) = none

section Paths

variable {path : PosixPath}

theorem plain_parent (h : path.Plain) : path.parent.Plain :=
  ⟨h.1, fun part hpart => h.2 part (List.mem_of_mem_dropLast hpart)⟩

theorem tempPath_ne (platform : Platform) (s : Tree) (path : PosixPath) :
    tempPath platform s path ≠ path := by
  intro heq
  have hname := congrArg name heq
  rw [tempPath, name_child] at hname
  have hlength := congrArg String.length hname
  simp only [String.length_append, TempName.length_eq, toString] at hlength
  omega

theorem plain_child {directory : PosixPath} {part : String} (h : directory.Plain)
    (hdots : part ≠ "..") (hnul : '\x00' ∉ part.toList) : (directory.child part).Plain := by
  refine ⟨h.1, fun p hp => ?_⟩
  rcases List.mem_append.mp hp with hp | hp
  · exact h.2 p hp
  · obtain rfl := List.mem_singleton.mp hp
    exact ⟨hdots, hnul⟩

theorem name_of_plain (h : path.Plain) : '\x00' ∉ path.name.toList := by
  unfold PosixPath.name
  cases hlast : path.parts.getLast? with
  | none => simp
  | some part => exact (h.2 part (List.mem_of_getLast? hlast)).2

theorem plain_tempPath (platform : Platform) (s : Tree) (h : path.Plain) :
    (tempPath platform s path).Plain := by
  apply plain_child (plain_parent h)
  · intro heq
    have hlength := congrArg String.length heq
    have htwo : "..".length = 2 := by decide
    simp only [String.length_append, TempName.length_eq] at hlength
    omega
  · intro hmem
    simp only [String.toList_append, List.mem_append] at hmem
    rcases hmem with ((hmem | hmem) | hmem) | hmem
    · revert hmem
      decide
    · exact name_of_plain h hmem
    · revert hmem
      decide
    · have hchar := List.all_eq_true.mp (platform.tempName s path.parent _).chars _ hmem
      revert hchar
      decide

end Paths

/-! ## The calls of a write -/

section Write

variable {data : TextData} {platform : Platform} {s : Tree} {path : PosixPath}
  {content : ByteArray} {mode : Int}

theorem returns_mkdir (hplain : path.Plain) (hp : s.Passable path) :
    Returns (handler data platform) (mkdir path true true) s ()
      (s.ensure path platform.directoryMode) := by
  have hanswer : mkdirAnswer platform.directoryMode s path true true =
      (.ok (), s.ensure path platform.directoryMode) := by
    simp only [mkdirAnswer, reach_of_plain s hplain, makeDirectory]
    rcases passable_iff.mp hp path (Above.refl path) with hnone | hdir
    · have hnot : s.isDir path = false := by simp [isDir, hnone]
      simp [hnone, hp, ensure, hnot]
    · obtain ⟨m, hm⟩ := isDir_eq_true.mp hdir
      simp [hm, hdir, ensure]
  exact returns_call hanswer

theorem throws_mkdir (hplain : path.Plain) (hs : s.Grounded) (hp : ¬ s.Passable path) :
    ∃ e, Throws (handler data platform) (mkdir path true true) s e s := by
  have hdir : s.isDir path = false := by
    by_contra hdir
    exact hp (hs.passable (by simpa using hdir))
  have hanswer : ∃ e, mkdirAnswer platform.directoryMode s path true true = (.error e, s) := by
    simp only [mkdirAnswer, reach_of_plain s hplain, makeDirectory]
    by_cases hsome : (s path).isSome
    · simp [hsome, hdir, osError]
    · simp [hsome, hp, osError]
  obtain ⟨e, he⟩ := hanswer
  exact ⟨e, throws_call he⟩

theorem returns_mkstemp (hplain : path.Plain) (hdir : s.isDir path.parent)
    (hfree : Finds platform s path) :
    Returns (handler data platform) (mkstemp path.parent s!".{path.name}.") s
      (tempPath platform s path)
      (Function.update s (tempPath platform s path) (some (.file .empty 0o600))) := by
  apply returns_call
  refine (onPath_of_plain s (plain_parent hplain) _).trans ?_
  refine (onPath_of_plain s (plain_tempPath platform s hplain) _).trans ?_
  exact if_pos ⟨hdir, hfree⟩

end Write

/-! ## The write after its directories are made -/

section Install

variable {data : TextData} {platform : Platform} {s : Tree} {path temporary : PosixPath}
  {content found : ByteArray} {mode : Int} {m : Fin 4096}

/-- A file system with a temporary file. -/
abbrev holding (s : Tree) (temporary : PosixPath) (content : ByteArray) (m : Fin 4096) : Tree :=
  Function.update s temporary (some (.file content m))

theorem returns_writeBytes : Returns (handler data platform) (writeBytes temporary content)
    (holding s temporary found m) () (holding s temporary content m) := by
  apply returns_call
  show (_, Tree.write _ _ _) = _
  rw [write_file (Function.update_self ..), Function.update_idem]

theorem returns_chmod (hplain : temporary.Plain) (bits : Fin 4096) :
    Returns (handler data platform) (chmod temporary bits) (holding s temporary content m) ()
      (holding s temporary content bits) := by
  have hanswer : changeMode (holding s temporary content m) bits temporary =
      (.ok (), holding s temporary content bits) := by
    rw [changeMode, holding, Function.update_self, chmod_file (Function.update_self ..),
      Function.update_idem]
    rfl
  exact returns_call ((onPath_of_plain _ hplain _).trans hanswer)

/-- The temporary file takes the place of the file. -/
theorem returns_replace (htemporary : temporary.Plain) (hplain : path.Plain)
    (hne : temporary ≠ path) (hfree : s temporary = none) (hparent : s.isDir path.parent)
    (hdir : s.isDir path = false) :
    Returns (handler data platform) (replace temporary path) (holding s temporary content m) ()
      (Function.update s path (some (.file content m))) := by
  have hpath : (holding s temporary content m).isDir path = false := by
    rw [isDir_of_eq (Function.update_of_ne hne.symm ..), hdir]
  have hparentNe : path.parent ≠ temporary := by
    rintro heq
    rw [heq, isDir, hfree] at hparent
    cases hparent
  have hdirectory : (holding s temporary content m).isDir path.parent := by
    rw [isDir_of_eq (Function.update_of_ne hparentNe ..), hparent]
  have hanswer : renameFile (holding s temporary content m) temporary path =
      (.ok (), Function.update s path (some (.file content m))) := by
    rw [renameFile, holding, Function.update_self]
    simp only [hpath, hdirectory, Bool.false_eq_true, if_false, if_true, Tree.rename,
      Function.update_self, Function.update_idem]
    rw [← hfree, Function.update_eq_self]
  exact returns_call ((onPath_of_plain _ htemporary _).trans
    ((onPath_of_plain _ hplain _).trans hanswer))

theorem throws_replace (htemporary : temporary.Plain) (hplain : path.Plain)
    (hne : temporary ≠ path) (hdir : s.isDir path) :
    ∃ e, Throws (handler data platform) (replace temporary path) (holding s temporary content m) e
      (holding s temporary content m) := by
  have hpath : (holding s temporary content m).isDir path := by
    rw [isDir_of_eq (Function.update_of_ne hne.symm ..), hdir]
  have hanswer : renameFile (holding s temporary content m) temporary path =
      (osError "Is a directory", holding s temporary content m) := by
    rw [renameFile, holding, Function.update_self]
    exact if_pos hpath
  exact ⟨_, throws_call ((onPath_of_plain _ htemporary _).trans
    ((onPath_of_plain _ hplain _).trans hanswer))⟩

theorem returns_unlink (htemporary : temporary.Plain) (hfree : s temporary = none) :
    Returns (handler data platform) (unlink temporary true) (holding s temporary content m) () s := by
  have hanswer : removeFile (holding s temporary content m) true temporary = (.ok (), s) := by
    rw [removeFile, holding, Function.update_self, Function.update_idem, ← hfree,
      Function.update_eq_self]
  apply returns_call
  simp only [handler, reach_of_plain _ htemporary]
  exact hanswer

theorem returns_unlink_missing (htemporary : temporary.Plain) (hfree : s temporary = none) :
    Returns (handler data platform) (unlink temporary true) s () s := by
  have hanswer : removeFile s true temporary = (.ok (), s) := by
    rw [removeFile, hfree]
    rfl
  apply returns_call
  simp only [handler, reach_of_plain _ htemporary]
  exact hanswer

theorem returns_install (htemporary : temporary.Plain) (hplain : path.Plain)
    (hne : temporary ≠ path) (hfree : s temporary = none) (hparent : s.isDir path.parent)
    (hdir : s.isDir path = false) (hfits : Fits mode) :
    Returns (handler data platform) (install temporary path content mode)
      (holding s temporary found m) ()
      (Function.update s path (some (.file content (modeBits mode)))) := by
  refine returns_writeBytes.bind ?_
  rw [chmodMode_of_fits hfits]
  exact (returns_chmod htemporary _).bind
    (returns_replace htemporary hplain hne hfree hparent hdir)

/-- A write fails whose mode the system call does not take, or whose path is a directory. -/
theorem throws_install (htemporary : temporary.Plain) (hplain : path.Plain)
    (hne : temporary ≠ path) (h : ¬ Fits mode ∨ s.isDir path) :
    ∃ e c b, Throws (handler data platform) (install temporary path content mode)
      (holding s temporary found m) e (holding s temporary c b) := by
  by_cases hfits : Fits mode
  · have hdir := h.resolve_left (not_not.mpr hfits)
    obtain ⟨e, he⟩ : ∃ e, Throws (handler data platform) (replace temporary path)
      (holding s temporary content (modeBits mode)) e (holding s temporary content (modeBits mode)) :=
      throws_replace htemporary hplain hne hdir
    refine ⟨e, content, modeBits mode, returns_writeBytes.bind_throws ?_⟩
    rw [chmodMode_of_fits hfits]
    exact (returns_chmod htemporary _).bind_throws he
  · refine ⟨.raised (.other "OverflowError"), content, m, returns_writeBytes.bind_throws ?_⟩
    rw [chmodMode_of_not_fits hfits]
    exact throws_done _

end Install

/-! ## The whole write -/

section AtomicWrite

variable {data : TextData} {platform : Platform} {s : Tree} {path : PosixPath}
  {content : ByteArray} {mode : Int}

theorem not_above_parent (hparts : path.parts ≠ []) : ¬ Above path path.parent := by
  intro habove
  have hlength := habove.2.length_le
  simp only [PosixPath.parent, List.length_dropLast] at hlength
  have := List.length_pos_of_ne_nil hparts
  omega

/-- **An atomic write places the file.** -/
theorem returns_atomicWrite (hplain : path.Plain) (hparts : path.parts ≠ [])
    (hpassable : s.Passable path.parent) (hdir : s.isDir path = false) (hfits : Fits mode)
    (hfinds : Finds platform (s.ensure path.parent platform.directoryMode) path) :
    Returns (handler data platform) (atomicWrite path content mode) s ()
      (s.place platform.directoryMode path content (modeBits mode)) := by
  have htemporary := plain_tempPath platform (s.ensure path.parent platform.directoryMode) hplain
  have hne := tempPath_ne platform (s.ensure path.parent platform.directoryMode) path
  have hdir' : (s.ensure path.parent platform.directoryMode).isDir path = false := by
    rw [isDir_of_eq (ensure_of_not_above (not_above_parent hparts)), hdir]
  refine (returns_mkdir (plain_parent hplain) hpassable).bind ?_
  refine (returns_mkstemp hplain (ensure_isDir hpassable) hfinds).bind ?_
  refine (returns_install htemporary hplain hne hfinds (ensure_isDir hpassable) hdir' hfits).finally_
    (returns_unlink_missing htemporary ?_)
  -- the file was renamed, so that there is nothing left to remove
  exact (Function.update_of_ne hne ..).trans hfinds

/-- A write whose directory cannot be made leaves everything as it was. -/
theorem throws_atomicWrite_of_not_passable (hplain : path.Plain) (hs : s.Grounded)
    (hpassable : ¬ s.Passable path.parent) :
    ∃ e, Throws (handler data platform) (atomicWrite path content mode) s e s := by
  obtain ⟨e, he⟩ : ∃ e, Throws (handler data platform) (mkdir path.parent true true) s e s :=
    throws_mkdir (plain_parent hplain) hs hpassable
  exact ⟨e, he.bind⟩

/-- A write that fails after its directory was made leaves the directories. -/
theorem throws_atomicWrite (hplain : path.Plain) (hpassable : s.Passable path.parent)
    (h : ¬ Fits mode ∨ s.isDir path)
    (hfinds : Finds platform (s.ensure path.parent platform.directoryMode) path) :
    ∃ e, Throws (handler data platform) (atomicWrite path content mode) s e
      (s.ensure path.parent platform.directoryMode) := by
  have htemporary := plain_tempPath platform (s.ensure path.parent platform.directoryMode) hplain
  have hne := tempPath_ne platform (s.ensure path.parent platform.directoryMode) path
  have h' : ¬ Fits mode ∨ (s.ensure path.parent platform.directoryMode).isDir path := by
    refine h.imp_right fun hdir => ?_
    rcases ensure_cases s path.parent path platform.directoryMode with heq | ⟨-, -, hnew⟩
    · rwa [isDir_of_eq heq]
    · exact isDir_eq_true.mpr ⟨_, hnew⟩
  obtain ⟨e, c, b, he⟩ : ∃ e c b, Throws (handler data platform)
      (install (tempPath platform (s.ensure path.parent platform.directoryMode) path) path content mode)
      (holding (s.ensure path.parent platform.directoryMode) _ .empty 0o600) e
      (holding (s.ensure path.parent platform.directoryMode) _ c b) :=
    throws_install htemporary hplain hne h'
  refine ⟨e, (returns_mkdir (plain_parent hplain) hpassable).bind_throws ?_⟩
  refine (returns_mkstemp hplain (ensure_isDir hpassable) hfinds).bind_throws ?_
  exact he.finally_ (returns_unlink htemporary hfinds)

end AtomicWrite

end Snarkypuss.Migration
