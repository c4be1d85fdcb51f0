import Snarkypuss.Python.Paths

/-!
# File systems

A file system as a map from absolute paths to nodes, without symbolic links. A file has a content
and mode bits, a directory has mode bits, and what is neither has nothing that a script looks at.

## Main definitions

* `Node`, `Tree`: nodes, and which path has which
* `Tree.locate`: the path that two dots lead to
* `Tree.content`, `Tree.chmod`, `Tree.write`, `Tree.makeDirectories`, `Tree.rename`
* `TempName`: the random part of the name of a temporary file
* `Tree.Grounded`, `Tree.Roomy`: files lie in directories, and every name can be completed to one
  that is free

## Main results

* `Tree.content_of_eq`, `Tree.content_chmod`, `Tree.content_makeDirectories`: what the operations
  leave of contents
* `TempName.dot_not_mem`: a name for a temporary file has no suffix
-/

namespace Snarkypuss.Files

open Python (PosixPath)

instance neZero_modes : NeZero 4096 := ⟨by decide⟩

/-- What is at a path. -/
inductive Node
  | file (content : ByteArray) (mode : Fin 4096)
  | directory (mode : Fin 4096)
  | other
  deriving DecidableEq

/-- A file system. -/
abbrev Tree : Type := PosixPath → Option Node

namespace Tree

variable {s t : Tree} {p q : PosixPath} {c : ByteArray} {m : Fin 4096}

/-- The content of a regular file. -/
def content (s : Tree) (p : PosixPath) : Option ByteArray :=
  match s p with
  | some (.file c _) => some c
  | _ => none

/-- `path.is_file()`. -/
def isFile (s : Tree) (p : PosixPath) : Bool := (s.content p).isSome

/-- `path.is_dir()`. -/
def isDir (s : Tree) (p : PosixPath) : Bool :=
  match s p with
  | some (.directory _) => true
  | _ => false

/-- The parts of a path, followed from a directory: two dots lead up from a directory that is
there. -/
def follow (s : Tree) : List String → List String → Option (List String)
  | done, [] => some done
  | done, part :: parts =>
    if part = ".." then
      if s.isDir ⟨"/", done⟩ then s.follow done.dropLast parts else none
    else s.follow (done ++ [part]) parts

/-- The path without two dots that a path leads to. From where relative paths start is not
known. -/
def locate (s : Tree) (path : PosixPath) : Option PosixPath :=
  if path.isAbsolute then (s.follow [] path.parts).map (⟨"/", ·⟩) else some path

/-- `os.chmod(path, mode)`. -/
def chmod (s : Tree) (p : PosixPath) (mode : Fin 4096) : Tree :=
  match s p with
  | some (.file c _) => Function.update s p (some (.file c mode))
  | some (.directory _) => Function.update s p (some (.directory mode))
  | _ => s

/-- Writing through a descriptor that is open on a file. -/
def write (s : Tree) (p : PosixPath) (c : ByteArray) : Tree :=
  match s p with
  | some (.file _ m) => Function.update s p (some (.file c m))
  | _ => s

/-- A path is another one or an ancestor of it. -/
def Above (q p : PosixPath) : Prop := q.root = p.root ∧ q.parts <+: p.parts

instance (q p : PosixPath) : Decidable (Above q p) := inferInstanceAs (Decidable (_ ∧ _))

/-- The missing directories down to a path. -/
def makeDirectories (s : Tree) (p : PosixPath) (mode : Fin 4096) : Tree := fun q =>
  if Above q p ∧ s q = none then some (.directory mode) else s q

/-- The missing directories down the parts of a path, also those that two dots leave again, and
whether nothing else was in the way. -/
def makeAlong (mode : Fin 4096) : Tree → List String → List String → Bool × Tree
  | s, _, [] => (true, s)
  | s, done, part :: parts =>
    if part = ".." then makeAlong mode s done.dropLast parts
    else
      match s ⟨"/", done ++ [part]⟩ with
      | none => makeAlong mode (Function.update s ⟨"/", done ++ [part]⟩ (some (.directory mode)))
        (done ++ [part]) parts
      | some (.directory _) => makeAlong mode s (done ++ [part]) parts
      | some _ => (false, s)

/-- Nothing but directories stands on the way to a path. -/
def Passable (s : Tree) (p : PosixPath) : Prop :=
  ∀ n ≤ p.parts.length, s ⟨p.root, p.parts.take n⟩ = none ∨ s.isDir ⟨p.root, p.parts.take n⟩

instance (s : Tree) (p : PosixPath) : Decidable (s.Passable p) :=
  inferInstanceAs (Decidable (∀ n ≤ _, _))

/-- A node under another name. -/
def rename (s : Tree) (source destination : PosixPath) : Tree :=
  Function.update (Function.update s source none) destination (s source)

theorem follow_eq (s : Tree) (done : List String) {parts : List String}
    (h : ∀ part ∈ parts, part ≠ "..") : s.follow done parts = some (done ++ parts) := by
  induction parts generalizing done with
  | nil => simp [follow]
  | cons part parts ih =>
    have hrest : ∀ p ∈ parts, p ≠ ".." := fun p hp => h p (List.mem_cons_of_mem part hp)
    rw [follow, if_neg (h part List.mem_cons_self), ih (done ++ [part]) hrest]
    simp

/-- A plain path leads to itself. -/
theorem locate_of_plain (s : Tree) (h : p.Plain) : s.locate p = some p := by
  obtain ⟨root, parts⟩ := p
  obtain ⟨hroot, hparts⟩ := h
  obtain rfl : root = "/" := hroot
  rw [locate, if_pos (PosixPath.isAbsolute_slash parts), follow_eq s [] fun part hpart => (hparts part hpart).1]
  rfl

theorem content_eq_some : s.content p = some c ↔ ∃ m, s p = some (.file c m) := by
  unfold content
  split
  · rename_i c' m h
    simp [h]
  · rename_i h
    constructor
    · intro h'
      cases h'
    · rintro ⟨m, hm⟩
      exact absurd hm (h c m)

theorem content_of_eq (h : t p = s p) : t.content p = s.content p := by
  rw [content, content, h]

theorem content_eq_none_of (h : s p = none) : s.content p = none := by
  rw [content, h]

theorem chmod_of_ne (h : q ≠ p) (mode : Fin 4096) : s.chmod p mode q = s q := by
  cases hp : s p with
  | none => simp [chmod, hp]
  | some node => cases node <;> simp [chmod, hp, h]

/-- Mode bits are no part of a content. -/
@[simp] theorem content_chmod (s : Tree) (p q : PosixPath) (mode : Fin 4096) :
    (s.chmod p mode).content q = s.content q := by
  by_cases hq : q = p
  · subst hq
    cases h : s q with
    | none => simp [chmod, content, h]
    | some node => cases node <;> simp [chmod, content, h]
  · exact content_of_eq (chmod_of_ne hq mode)

theorem chmod_isNone (s : Tree) (p q : PosixPath) (mode : Fin 4096) :
    s.chmod p mode q = none ↔ s q = none := by
  by_cases hq : q = p
  · subst hq
    unfold chmod
    cases h : s q with
    | none => simp [h]
    | some node => cases node <;> simp [h]
  · rw [chmod_of_ne hq]

theorem chmod_file (h : s p = some (.file c m)) (mode : Fin 4096) :
    s.chmod p mode = Function.update s p (some (.file c mode)) := by
  simp [chmod, h]

theorem write_file (h : s p = some (.file c m)) (c' : ByteArray) :
    s.write p c' = Function.update s p (some (.file c' m)) := by
  simp [write, h]

theorem write_of_ne (h : q ≠ p) (c' : ByteArray) : s.write p c' q = s q := by
  cases hp : s p with
  | none => simp [write, hp]
  | some node => cases node <;> simp [write, hp, h]

/-- New directories are no files, and they replace none. -/
@[simp] theorem content_makeDirectories (s : Tree) (p q : PosixPath) (mode : Fin 4096) :
    (s.makeDirectories p mode).content q = s.content q := by
  by_cases h : Above q p ∧ s q = none
  · simp [makeDirectories, content, h]
  · apply content_of_eq
    simp only [makeDirectories, if_neg h]

theorem makeDirectories_of_some {node : Node} (h : s q = some node) (mode : Fin 4096) :
    s.makeDirectories p mode q = some node := by
  simp [makeDirectories, h]

theorem makeDirectories_of_not_above (h : ¬ Above q p) (mode : Fin 4096) :
    s.makeDirectories p mode q = s q := by
  simp [makeDirectories, h]

end Tree

/-! ## Temporary files -/

/-- The characters that `tempfile` draws names from. -/
def isTempChar (c : Char) : Bool := c.isLower || c.isDigit || c = '_'

/-- The random part of the name of a temporary file. -/
structure TempName where
  text : String
  length_eq : text.length = 8
  chars : text.toList.all isTempChar

theorem TempName.dot_not_mem (name : TempName) : '.' ∉ name.text.toList := by
  intro h
  have hchar := List.all_eq_true.mp name.chars '.' h
  revert hchar
  decide

/-! ## Real file systems -/

/-- What exists lies in a directory. -/
def Tree.Grounded (s : Tree) : Prop :=
  ∀ directory name, s (PosixPath.child directory name) ≠ none → s.isDir directory

/-- In every directory, every name can be completed to one that is free. -/
def Tree.Roomy (s : Tree) : Prop :=
  ∀ (directory : PosixPath) (start : String), ∃ name : TempName,
    s (directory.child (start ++ name.text)) = none

end Snarkypuss.Files
