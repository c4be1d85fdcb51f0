import Snarkypuss.Calls.Histories
import Snarkypuss.Migration.Restore

/-!
# Where restored files lie

Which manifests keep `restore_files` inside its root and its backup. The calls are judged by the
paths they are given, after normalisation, whatever the file system answers: it may hold anything,
and others may change it between two calls. Only what `mkstemp` names lies in the directory that
it was asked for.

## Main definitions

* `Truthful`: the replies of such a file system
* `Confined`: the calls that stay inside
* `Instruction.Contained`, `Instruction.Passable`: instructions that stay inside, and those that
  can be carried out
* `Contained`: manifests that stay inside

## Main results

* `usesUnder_atomicWrite_iff`, `usesUnder_carryOut_iff`: the calls of one entry
* `restore_confined_iff`: the calls of the loop
-/

namespace Snarkypuss.Migration

open Python Python.PosixPath Files Program Gateway

/-- What every file system keeps to: a temporary file lies in the directory that was asked for. -/
def Truthful : (c : scripts.Call) → Except ScriptError (scripts.Reply c) → Prop
  | .mkstemp directory _, .ok path =>
    path.isAbsolute ∧ ∃ name, collapse path.parts = collapse directory.parts ++ [name]
  | _, _ => True

section Confined

variable (root backup : PosixPath)

/-- The calls that stay inside: what is written or removed lies in the root, what is read in the
backup, and directories are made on the way to such a path only. -/
def Confined : scripts.Call → Prop
  | .readBytes path => backup.Inside path
  | .exists _ | .isFile _ => True
  | .mkdir path _ _ => root.Within path ∧ root.OnWay path
  | .mkstemp directory _ => root.Within directory
  | .write path _ | .chmod path _ | .unlink path _ => root.Inside path
  | .replace source destination => root.Inside source ∧ root.Inside destination
  | _ => False

/-- Every call of a program stays inside, whatever the file system answers. -/
abbrev StaysInside {A : Type} (p : Script A) : Prop := p.UsesUnder Truthful (Confined root backup)

end Confined

variable {root backup : PosixPath}

/-! ## Atomic writes -/

/-- A file system that names some temporary file. -/
theorem truthful_mkstemp {directory : PosixPath} (h : directory.isAbsolute) (start : String) :
    Truthful (.mkstemp directory start) (.ok (directory.child "t")) := by
  refine ⟨h, "t", ?_⟩
  rw [child, collapse_concat]
  rfl

section AtomicWrite

variable {path : PosixPath} {content : ByteArray} {mode : Int}

theorem staysInside_atomicWrite (hwithin : root.Within path.parent) (hway : root.OnWay path.parent)
    (hinside : Fits mode → root.Inside path) :
    StaysInside root backup (atomicWrite path content mode) := by
  refine ⟨⟨hwithin, hway⟩, fun r _ => ?_⟩
  cases r with
  | error e => trivial
  | ok u =>
    refine ⟨hwithin, fun r hr => ?_⟩
    cases r with
    | error e => trivial
    | ok temporary =>
      obtain ⟨habsolute, name, hname⟩ := hr
      have htemporary : root.Inside temporary := inside_of_concat habsolute hname hwithin.2
      apply UsesUnder.finally_
      · refine ⟨htemporary, fun r _ => ?_⟩
        cases r with
        | error e => trivial
        | ok u =>
          by_cases hmode : Fits mode
          · rw [chmodMode_of_fits hmode]
            refine ⟨htemporary, fun r _ => ?_⟩
            cases r with
            | error e => trivial
            | ok u => exact ⟨⟨htemporary, hinside hmode⟩, fun _ _ => trivial⟩
          · rw [chmodMode_of_not_fits hmode]
            trivial
      · exact ⟨htemporary, fun _ _ => trivial⟩

/-- **The calls of an atomic write** stay inside when its directory does, and the path itself
unless the mode ends the write before. -/
theorem staysInside_atomicWrite_iff : StaysInside root backup (atomicWrite path content mode) ↔
    root.Within path.parent ∧ root.OnWay path.parent ∧ (Fits mode → root.Inside path) := by
  constructor
  · intro h
    refine ⟨h.1.1, h.1.2, fun hmode => ?_⟩
    -- every call succeeds, and the last one before the cleanup names the path
    have hrest := (h.2 (.ok ()) trivial).2 _ (truthful_mkstemp h.1.1.1 _)
    have hwrite := hrest.2 (.ok ()) trivial
    rw [chmodMode_of_fits hmode] at hwrite
    exact (hwrite.2 (.ok ()) trivial).1.2
  · rintro ⟨hwithin, hway, hinside⟩
    exact staysInside_atomicWrite hwithin hway hinside

/-- An atomic write whose mode the system call does not take never returns. -/
theorem atomicWrite_raises (h : ¬ Fits mode) :
    (atomicWrite path content mode).Answered Truthful fun r => ∀ a, r ≠ .ok a := by
  intro r _
  cases r with
  | error e => exact nofun
  | ok u =>
    intro r _
    cases r with
    | error e => exact nofun
    | ok temporary =>
      refine Answered.finally_ (R := fun _ => True) ?_ (fun _ _ => trivial) fun _ _ => nofun
      intro r _
      cases r with
      | error e => exact nofun
      | ok u =>
        rw [chmodMode_of_not_fits h]
        exact nofun

/-- What holds whenever an atomic write returns holds, when it can return. -/
theorem of_answered_atomicWrite {X : Prop} (habsolute : path.parent.isAbsolute) (hmode : Fits mode)
    (h : (atomicWrite path content mode).Answered Truthful fun r => ∀ a, r = .ok a → X) : X := by
  have hinstall := h (.ok ()) trivial (.ok (path.parent.child "t"))
    (truthful_mkstemp habsolute _) (.ok ()) trivial
  rw [chmodMode_of_fits hmode] at hinstall
  exact hinstall (.ok ()) trivial (.ok ()) trivial (.ok ()) trivial () rfl

end AtomicWrite

/-! ## Entries -/

section Entries

variable (lib : Library)

/-- The digest of an entry is that of some content. -/
def Attained (digest : Option Json) : Prop := ∃ data, equalsText digest (lib.sha256 data) = true

/-- An instruction stays inside. What it writes is asked for only if something can be written. -/
def Instruction.Contained (root backup : PosixPath) : Instruction → Prop
  | .put _ destination source digest mode => backup.Inside source ∧
    (Attained lib digest → ∀ m, mode = .ok m →
      root.Within destination.parent ∧ root.OnWay destination.parent ∧
        (Fits m → root.Inside destination))
  | .remove destination => root.Inside destination

/-- An instruction that some file system lets pass. -/
def Instruction.Passable : Instruction → Prop
  | .put _ _ _ digest mode => Attained lib digest ∧ ∃ m, mode = .ok m ∧ Fits m
  | .remove _ => True

/-- **Manifests that stay inside**: every entry does, up to one that cannot be carried out. -/
def Contained (root backup : PosixPath) : List Json → Prop
  | [] => True
  | entry :: entries =>
    ∀ instruction, readEntry lib root backup entry = .ok instruction →
      instruction.Contained lib root backup ∧
        (instruction.Passable lib → Contained root backup entries)

variable {lib}

theorem staysInside_carryOut_iff {instruction : Instruction} :
    StaysInside root backup (carryOut lib instruction) ↔
      instruction.Contained lib root backup := by
  cases instruction with
  | put absolute destination source digest mode =>
    constructor
    · rintro ⟨hsource, hnext⟩
      refine ⟨hsource, ?_⟩
      rintro ⟨data, hdata⟩ m rfl
      have hwrite : StaysInside root backup (putBack lib absolute destination digest (.ok m) data) :=
        hnext (.ok data) trivial
      rw [putBack_of_match hdata] at hwrite
      exact staysInside_atomicWrite_iff.mp hwrite
    · rintro ⟨hsource, hwrite⟩
      refine ⟨hsource, fun r _ => ?_⟩
      cases r with
      | error e => trivial
      | ok data =>
        show StaysInside root backup (putBack lib absolute destination digest mode data)
        by_cases hdata : equalsText digest (lib.sha256 data)
        · cases mode with
          | error e =>
            rw [putBack_of_error hdata]
            trivial
          | ok m =>
            rw [putBack_of_match hdata]
            exact staysInside_atomicWrite_iff.mpr (hwrite ⟨data, hdata⟩ m rfl)
        · rw [putBack_of_mismatch hdata]
          trivial
  | remove destination =>
    constructor
    · rintro ⟨-, hnext⟩
      exact ((hnext (.ok true) trivial).2 (.ok true) trivial).1
    · intro hinside
      refine ⟨trivial, fun r _ => ?_⟩
      cases r with
      | error e => trivial
      | ok found =>
        cases found with
        | false => trivial
        | true =>
          refine ⟨trivial, fun r _ => ?_⟩
          cases r with
          | error e => trivial
          | ok regular =>
            cases regular with
            | false => trivial
            | true => exact ⟨hinside, fun _ _ => trivial⟩

/-- What holds whenever an entry is carried out holds, when it can be carried out. -/
theorem answered_carryOut_iff {instruction : Instruction} {X : Prop}
    (hcontained : instruction.Contained lib root backup) :
    ((carryOut lib instruction).Answered Truthful fun r => ∀ a, r = .ok a → X) ↔
      (instruction.Passable lib → X) := by
  cases instruction with
  | put absolute destination source digest mode =>
    constructor
    · rintro h ⟨⟨data, hdata⟩, m, rfl, hfits⟩
      have hwrite : (putBack lib absolute destination digest (.ok m) data).Answered Truthful
        fun r => ∀ a, r = .ok a → X := h (.ok data) trivial
      rw [putBack_of_match hdata] at hwrite
      exact of_answered_atomicWrite (hcontained.2 ⟨data, hdata⟩ m rfl).1.1 hfits hwrite
    · intro h r _
      cases r with
      | error e => exact nofun
      | ok data =>
        show (putBack lib absolute destination digest mode data).Answered Truthful _
        by_cases hdata : equalsText digest (lib.sha256 data)
        · cases mode with
          | error e =>
            rw [putBack_of_error hdata]
            exact nofun
          | ok m =>
            rw [putBack_of_match hdata]
            by_cases hfits : Fits m
            · exact answered_trivial _ fun _ _ _ => h ⟨⟨data, hdata⟩, m, rfl, hfits⟩
            · exact (atomicWrite_raises hfits).mono fun r hr a ha => absurd ha (hr a)
        · rw [putBack_of_mismatch hdata]
          exact nofun
  | remove destination =>
    constructor
    · exact fun h _ => h (.ok false) trivial () rfl
    · exact fun h => answered_trivial _ fun _ _ _ => h trivial

end Entries

/-! ## The loop -/

theorem staysInside_restoreEntries_iff (lib : Library) (entries : List Json) :
    StaysInside root backup (restoreEntries lib root backup entries) ↔
      Contained lib root backup entries := by
  induction entries with
  | nil => exact Iff.rfl
  | cons entry entries ih =>
    cases hread : readEntry lib root backup entry with
    | error e =>
      refine iff_of_true ?_ ?_
      · rw [restoreEntries, hread]
        trivial
      · rw [Contained, hread]
        exact nofun
    | ok instruction =>
      simp only [restoreEntries, bind_eq, hread, done_ok_bind, Contained, Except.ok.injEq,
        forall_eq']
      refine usesUnder_bind_iff.trans ?_
      constructor
      · rintro ⟨hcarry, hrest⟩
        have hcontained := staysInside_carryOut_iff.mp hcarry
        refine ⟨hcontained, (answered_carryOut_iff hcontained).mp ?_⟩
        exact hrest.mono fun r hr a ha => ih.mp (hr a ha)
      · rintro ⟨hcontained, hrest⟩
        refine ⟨staysInside_carryOut_iff.mpr hcontained, ?_⟩
        refine ((answered_carryOut_iff hcontained).mpr hrest).mono fun r hr a ha => ?_
        exact ih.mpr (hr a ha)

section Host

variable {data : TextData} {platform : Platform}

/-- What is followed without symbolic links is the text after normalisation. -/
theorem follow_eq_some {s : Tree} {done parts located : List String}
    (h : s.follow done parts = some located) : located = parts.foldl ascend done := by
  induction parts generalizing done with
  | nil => exact (Option.some.inj h).symm
  | cons part parts ih =>
    rw [Tree.follow] at h
    rw [List.foldl_cons, ascend]
    split_ifs at h ⊢
    · exact ih h
    · exact ih h

theorem reach_eq_ok {s : Tree} {path located : PosixPath} (habsolute : path.isAbsolute)
    (h : reach s path = .ok located) : located = ⟨"/", collapse path.parts⟩ := by
  unfold reach at h
  split_ifs at h
  rw [Tree.locate, if_pos habsolute] at h
  cases hfollow : s.follow [] path.parts with
  | none =>
    rw [hfollow] at h
    cases h
  | some parts =>
    rw [hfollow] at h
    cases h
    rw [follow_eq_some hfollow]
    rfl

/-- A temporary file lies in the directory that was asked for. -/
theorem truthful_handler (c : scripts.Call) (s : Tree) (h : Confined root backup c) :
    Truthful c (handler data platform c s).1 := by
  cases c with
  | mkstemp directory start =>
    have habsolute : directory.isAbsolute := h.1
    simp only [handler, onPath]
    cases hdirectory : reach s directory with
    | error e => trivial
    | ok d =>
      dsimp only
      split
      · rename_i path hpath
        split_ifs
        · obtain rfl := reach_eq_ok habsolute hdirectory
          obtain rfl := reach_eq_ok (isAbsolute_slash _) hpath
          refine ⟨isAbsolute_slash _,
            start ++ (platform.tempName s ⟨"/", collapse directory.parts⟩ start).text, ?_⟩
          refine (collapse_eq_self ne_of_mem_collapse).trans ?_
          rw [collapse_concat, collapse_eq_self ne_of_mem_collapse]
          refine if_neg fun hname => ?_
          -- the random part alone is longer than two dots
          have hlength := congrArg String.length hname
          rw [String.length_append, TempName.length_eq] at hlength
          have htwo : "..".length = 2 := by decide
          omega
        · trivial
      · trivial
  | _ => trivial

/-- What a contained manifest does to a file system, it does inside. -/
theorem Contained.exec {lib : Library} {entries : List Json}
    (h : Contained lib root backup entries) (s : Tree) :
    ∀ x ∈ ((restoreEntries lib root backup entries).exec (handler data platform) s).exchanges,
      Confined root backup x.call :=
  ((staysInside_restoreEntries_iff lib entries).mpr h).exchanges truthful_handler s

end Host

end Snarkypuss.Migration
