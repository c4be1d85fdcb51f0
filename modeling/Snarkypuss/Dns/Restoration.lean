import Snarkypuss.Calls.Faults
import Snarkypuss.Dns.Cleanup
import Snarkypuss.Files.Placement

/-!
# The steps of the cleanup

What each step of the cleanup does when its calls are answered as they should be. The plan is a case
split over the stock configuration and the saved original. Restoring puts the original in place of
the configuration, and its mode comes through unless it has a bit that `chown` takes away.

## Main definitions

* `Staged`: the file systems that the cleanup is for
* `Refused`, `Replaced`: what the plan is, read off a file system
* `Cutover`: the new service has taken over
* `Restorable`: the original can take the place of the configuration

## Main results

* `cleanupPlan_cases`: the plan is refused, or it says what is to be done
* `returns_atomicRestore`: the configuration is the original, but for the bits that `chown` takes away
* `returns_removeLegacy`: the files are gone
-/

namespace Snarkypuss.Dns

open Python Python.PosixPath Files Files.Tree Program Gateway

variable {root : Root} {machine : Machine} {s t : Tree} {c : ByteArray} {m : Fin 4096}

/-! ## Paths -/

theorem rooted_eq (root : Root) {absolute : String} {parts : List String}
    (h : PosixPath.ofString (removeSlash absolute) = ⟨"", parts⟩) :
    rooted root.val absolute = ⟨"/", root.val.parts ++ parts⟩ := by
  rw [rooted, h, PosixPath.join, if_neg (by simp [PosixPath.isAbsolute]), root.property.1]

theorem stock_eq (root : Root) :
    stock root = ⟨"/", root.val.parts ++ ["etc", "dnsmasq.conf"]⟩ :=
  rooted_eq root (by decide +kernel)

theorem backup_eq (root : Root) :
    backup root = ⟨"/", root.val.parts ++ ["etc", "dnsmasq.conf.snarkypuss-original"]⟩ :=
  rooted_eq root (by decide +kernel)

theorem legacyPaths_eq (root : Root) : legacyPaths root =
    [⟨"/", root.val.parts ++ ["etc", "dnsmasq.d", "snarkypuss.conf"]⟩,
      ⟨"/", root.val.parts ++ ["etc", "systemd", "system", "dnsmasq.service.d",
        "snarkypuss.conf"]⟩] := by
  have hconfig : rooted root.val legacyConfig =
      ⟨"/", root.val.parts ++ ["etc", "dnsmasq.d", "snarkypuss.conf"]⟩ :=
    rooted_eq root (by decide +kernel)
  have hdropin : rooted root.val legacyDropin = ⟨"/", root.val.parts ++ ["etc", "systemd",
      "system", "dnsmasq.service.d", "snarkypuss.conf"]⟩ := rooted_eq root (by decide +kernel)
  rw [legacyPaths, hconfig, hdropin]

theorem path_ne {parts ps qs : List String} (h : ps ≠ qs) :
    (⟨"/", parts ++ ps⟩ : PosixPath) ≠ ⟨"/", parts ++ qs⟩ := by
  intro heq
  exact h (List.append_cancel_left (congrArg PosixPath.parts heq))

theorem stock_ne_backup : stock root ≠ backup root := by
  rw [stock_eq, backup_eq]
  exact path_ne (by decide)

theorem stock_not_legacy : stock root ∉ legacyPaths root := by
  simp [stock_eq, legacyPaths_eq]

theorem backup_not_legacy : backup root ∉ legacyPaths root := by
  simp [backup_eq, legacyPaths_eq]

theorem legacyPaths_nodup : (legacyPaths root).Nodup := by
  simp [legacyPaths_eq]

/-- Both configurations stand in one directory. -/
theorem parent_stock : (stock root).parent = (backup root).parent := by
  simp [stock_eq, backup_eq, PosixPath.parent]

theorem name_stock : (stock root).name = "dnsmasq.conf" := by
  simp [stock_eq, PosixPath.name]

/-! ## The plan -/

/-- A file system below a root, of which the four files are each there as a file or not at all. For
the stock configuration anything else may be there. -/
structure Staged (root : Root) (s : Tree) : Prop where
  grounded : s.Grounded
  backup : s (backup root) = none ∨ s.isFile (backup root)
  legacy : ∀ path ∈ legacyPaths root, s path = none ∨ s.isFile path

/-- The plan cannot be made: the configuration may be an administrator's. -/
def Refused (root : Root) (s : Tree) : Prop :=
  if s.isFile (backup root) then
    s (stock root) ≠ none ∧
      ∀ c, s.content (stock root) = some c → s.content (backup root) ≠ some c ∧ ¬ HasMarker c
  else ∃ c, s.content (stock root) = some c ∧ HasMarker c

/-- The plan replaces the configuration: it is missing, or it is another file with the marker. -/
def Replaced (root : Root) (s : Tree) : Prop :=
  s.isFile (backup root) ∧ (s (stock root) = none ∨
    ∃ c, s.content (stock root) = some c ∧ s.content (backup root) ≠ some c ∧ HasMarker c)

theorem isFile_iff {path : PosixPath} : s.isFile path = true ↔ ∃ c, s.content path = some c := by
  rw [Tree.isFile, Option.isSome_iff_exists]

theorem returns_isFile (machine : Machine) (s : Tree) (path : PosixPath) :
    Returns (handler machine) (isFile path) s (s.isFile path) s := returns_call rfl

theorem returns_exists (machine : Machine) (s : Tree) (path : PosixPath) :
    Returns (handler machine) (pathExists path) s (s path).isSome s := returns_call rfl

theorem returns_print (machine : Machine) (s : Tree) (line : String) :
    Returns (handler machine) (print line) s () s := returns_call rfl

theorem returns_readBytes {path : PosixPath} (h : s.content path = some c) :
    Returns (handler machine) (readBytes path) s c s := by
  obtain ⟨m, hm⟩ := content_eq_some.mp h
  apply returns_call
  show readFileBytes s path = _
  rw [readFileBytes, hm]
  rfl

theorem returns_filesAmong (machine : Machine) (s : Tree) (paths : List PosixPath) :
    Returns (handler machine) (filesAmong paths) s (paths.filter s.isFile) s := by
  induction paths with
  | nil => exact ⟨rfl, rfl⟩
  | cons path paths ih =>
    refine (returns_isFile machine s path).bind (ih.bind ⟨?_, rfl⟩)
    rw [List.filter_cons]
    rfl

/-- How the plan ends: it is refused, or it says whether the configuration is replaced. -/
def Decides (root : Root) (machine : Machine) (s : Tree) (plan : CleanupScript Bool) : Prop :=
  (Refused root s ∧ ∃ message, Throws (handler machine) plan s (.refused message) s) ∨
    ¬ Refused root s ∧ ∃ restore, (restore = true ↔ Replaced root s) ∧
      Returns (handler machine) plan s restore s

/-- A configuration that is there, compared with the saved original. -/
theorem decides_compareConfigs (machine : Machine) {current original : ByteArray}
    (hcurrent : s.content (stock root) = some current)
    (hbackup : s.content (backup root) = some original) :
    Decides root machine s (compareConfigs root) := by
  have hsaved : s.isFile (backup root) = true := isFile_iff.mpr ⟨original, hbackup⟩
  have hthere : s (stock root) ≠ none := by
    intro hnone
    rw [content_eq_none_of hnone] at hcurrent
    cases hcurrent
  simp only [Decides, Refused, Replaced, hsaved, if_true, true_and, hcurrent, hbackup, hthere,
    false_or, Option.some.injEq, ne_eq, not_false_eq_true]
  by_cases hsame : current = original
  · refine .inr ⟨fun h => (h current rfl).1 hsame.symm, false, ?_, ?_⟩
    · simp [hsame]
    · refine (returns_readBytes hcurrent).bind ((returns_readBytes hbackup).bind ?_)
      rw [if_pos hsame]
      exact ⟨rfl, rfl⟩
  have hdiffer : ¬ original = current := fun heq => hsame heq.symm
  by_cases hmarker : HasMarker current
  · refine .inr ⟨fun h => (h current rfl).2 hmarker, true, ?_, ?_⟩
    · simp [hdiffer, hmarker]
    · refine (returns_readBytes hcurrent).bind ((returns_readBytes hbackup).bind ?_)
      rw [if_neg hsame]
      refine (returns_readBytes hcurrent).bind ?_
      rw [if_pos hmarker]
      exact ⟨rfl, rfl⟩
  · refine .inl ⟨?_, changedMessage, ?_⟩
    · rintro c rfl
      exact ⟨hdiffer, hmarker⟩
    · refine (returns_readBytes hcurrent).bind_throws ((returns_readBytes hbackup).bind_throws ?_)
      rw [if_neg hsame]
      refine (returns_readBytes hcurrent).bind_throws ?_
      rw [if_neg hmarker]
      exact throws_done _

/-- The plan when there is a saved original. -/
theorem decides_restorePlan (machine : Machine) {original : ByteArray}
    (hbackup : s.content (backup root) = some original) :
    Decides root machine s (restorePlan root) := by
  have hsaved : s.isFile (backup root) = true := isFile_iff.mpr ⟨original, hbackup⟩
  by_cases hnone : s (stock root) = none
  · -- there is no configuration
    refine .inr ⟨?_, true, ?_, (returns_exists machine s _).bind ?_⟩
    · simp [Refused, hsaved, hnone]
    · simp [Replaced, hsaved, hnone]
    · rw [hnone]
      exact ⟨rfl, rfl⟩
  have hexists : (s (stock root)).isSome = true := Option.isSome_iff_ne_none.mpr hnone
  by_cases hfile : s.isFile (stock root)
  · obtain ⟨current, hcurrent⟩ := isFile_iff.mp hfile
    rcases decides_compareConfigs machine hcurrent hbackup with
      ⟨hrefused, message, hthrows⟩ | ⟨hnot, restore, hrestore, hreturns⟩
    · refine .inl ⟨hrefused, message, (returns_exists machine s _).bind_throws ?_⟩
      rw [hexists]
      refine (returns_isFile machine s _).bind_throws ?_
      rwa [hfile]
    · refine .inr ⟨hnot, restore, hrestore, (returns_exists machine s _).bind ?_⟩
      rw [hexists]
      refine (returns_isFile machine s _).bind ?_
      rwa [hfile]
  · -- something else is there
    refine .inl ⟨?_, s!"stock dnsmasq path is not a regular file: {(stock root).text}",
      (returns_exists machine s _).bind_throws ?_⟩
    · simp only [Refused, hsaved, if_true]
      exact ⟨hnone, fun c hc => absurd (isFile_iff.mpr ⟨c, hc⟩) hfile⟩
    · rw [hexists]
      refine (returns_isFile machine s _).bind_throws ?_
      rw [Bool.eq_false_iff.mpr hfile]
      exact throws_done _

/-- The plan when no original was saved. -/
theorem decides_noRestorePlan (machine : Machine) (hbackup : s.isFile (backup root) = false) :
    Decides root machine s (noRestorePlan root) := by
  by_cases hfile : s.isFile (stock root)
  · obtain ⟨current, hcurrent⟩ := isFile_iff.mp hfile
    by_cases hmarker : HasMarker current
    · refine .inl ⟨?_, unsavedMessage, (returns_isFile machine s _).bind_throws ?_⟩
      · simp [Refused, hbackup, hcurrent, hmarker]
      · rw [hfile]
        refine (returns_readBytes hcurrent).bind_throws ?_
        rw [if_pos hmarker]
        exact throws_done _
    · refine .inr ⟨?_, false, ?_, (returns_isFile machine s _).bind ?_⟩
      · simp [Refused, hbackup, hcurrent, hmarker]
      · simp [Replaced, hbackup]
      · rw [hfile]
        refine (returns_readBytes hcurrent).bind ?_
        rw [if_neg hmarker]
        exact ⟨rfl, rfl⟩
  · refine .inr ⟨?_, false, ?_, (returns_isFile machine s _).bind ?_⟩
    · simp only [Refused, hbackup, Bool.false_eq_true, if_false]
      rintro ⟨c, hc, -⟩
      exact hfile (isFile_iff.mpr ⟨c, hc⟩)
    · simp [Replaced, hbackup]
    · rw [Bool.eq_false_iff.mpr hfile]
      exact ⟨rfl, rfl⟩

/-- **The plan**: it is refused, or it lists the old files that are there. -/
theorem cleanupPlan_cases (root : Root) (machine : Machine) (s : Tree) :
    (Refused root s ∧ ∃ message, Throws (handler machine) (cleanupPlan root) s (.refused message) s) ∨
      ¬ Refused root s ∧ ∃ restore, (restore = true ↔ Replaced root s) ∧
        Returns (handler machine) (cleanupPlan root) s
          (restore, (legacyPaths root).filter s.isFile) s := by
  have hdecides : Decides root machine s (stockPlan root (s.isFile (backup root))) := by
    unfold stockPlan
    by_cases hsaved : s.isFile (backup root)
    · obtain ⟨original, hbackup⟩ := isFile_iff.mp hsaved
      rw [if_pos hsaved]
      exact decides_restorePlan machine hbackup
    · rw [if_neg hsaved]
      exact decides_noRestorePlan machine (Bool.eq_false_iff.mpr hsaved)
  rcases hdecides with ⟨hrefused, message, hthrows⟩ | ⟨hnot, restore, hrestore, hreturns⟩
  · refine .inl ⟨hrefused, message, (returns_filesAmong machine s _).bind_throws ?_⟩
    exact (returns_isFile machine s _).bind_throws hthrows.bind
  · refine .inr ⟨hnot, restore, hrestore, (returns_filesAmong machine s _).bind ?_⟩
    exact (returns_isFile machine s _).bind (hreturns.bind ⟨rfl, rfl⟩)

/-! ## The checks and what is printed -/

theorem returns_effectiveUid (machine : Machine) (s : Tree) :
    Returns (handler machine) effectiveUid s machine.uid s := returns_call rfl

theorem returns_serviceActive (machine : Machine) (s : Tree) (unit : String) :
    Returns (handler machine) (serviceActive unit) s (machine.active unit) s := returns_call rfl

theorem checkUser_cases (root : Root) (machine : Machine) (apply : Bool) (s : Tree) :
    (apply = true ∧ root.val = ⟨"/", []⟩ ∧ machine.uid ≠ 0 ∧
        Throws (handler machine) (checkUser root apply) s
          (.refused "--apply to / must run as root") s) ∨
      (root.val = ⟨"/", []⟩ → apply = true → machine.uid = 0) ∧
        Returns (handler machine) (checkUser root apply) s () s := by
  unfold checkUser
  by_cases hroot : apply = true ∧ root.val = ⟨"/", []⟩
  · rw [if_pos hroot]
    by_cases huid : machine.uid = 0
    · refine .inr ⟨fun _ _ => huid, (returns_effectiveUid machine s).bind ?_⟩
      rw [if_neg (not_not.mpr huid)]
      exact ⟨rfl, rfl⟩
    · refine .inl ⟨hroot.1, hroot.2, huid, (returns_effectiveUid machine s).bind_throws ?_⟩
      rw [if_pos huid]
      exact throws_done _
  · rw [if_neg hroot]
    exact .inr ⟨fun h happly => absurd ⟨happly, h⟩ hroot, ⟨rfl, rfl⟩⟩

/-- The new service runs and the old one does not. -/
def Cutover (machine : Machine) : Prop :=
  machine.active newService = true ∧ machine.active legacyService = false

theorem checkServices_cases (root : Root) (machine : Machine) (s : Tree) :
    (root.val = ⟨"/", []⟩ ∧ ¬ Cutover machine ∧
        ∃ message, Throws (handler machine) (checkServices root) s (.refused message) s) ∨
      (root.val = ⟨"/", []⟩ → Cutover machine) ∧
        Returns (handler machine) (checkServices root) s () s := by
  unfold checkServices Cutover
  by_cases hroot : root.val = ⟨"/", []⟩
  · rw [if_pos hroot]
    cases hnew : machine.active newService with
    | false =>
      refine .inl ⟨hroot, by simp, s!"{newService} is not active; refusing legacy DNS cleanup " ++
        "before cutover", (returns_serviceActive machine s _).bind_throws ?_⟩
      rw [hnew]
      exact throws_done _
    | true =>
      cases hlegacy : machine.active legacyService with
      | true =>
        refine .inl ⟨hroot, by simp, s!"{legacyService} is still active; refusing to alter its " ++
          "configuration", (returns_serviceActive machine s _).bind_throws ?_⟩
        rw [hnew]
        refine (returns_serviceActive machine s _).bind_throws ?_
        rw [hlegacy]
        exact throws_done _
      | false =>
        refine .inr ⟨fun _ => ⟨rfl, rfl⟩, (returns_serviceActive machine s _).bind ?_⟩
        rw [hnew]
        refine (returns_serviceActive machine s _).bind ?_
        rw [hlegacy]
        exact ⟨rfl, rfl⟩
  · rw [if_neg hroot]
    exact .inr ⟨fun h => absurd h hroot, ⟨rfl, rfl⟩⟩

theorem returns_alreadyMatches (root : Root) (machine : Machine) (s : Tree) :
    ∃ matched, Returns (handler machine) (alreadyMatches root) s matched s := by
  by_cases hsaved : s.isFile (backup root)
  · by_cases hfile : s.isFile (stock root)
    · obtain ⟨original, horiginal⟩ := isFile_iff.mp hsaved
      obtain ⟨current, hcurrent⟩ := isFile_iff.mp hfile
      refine ⟨decide (current = original), (returns_isFile machine s _).bind ?_⟩
      rw [hsaved]
      refine (returns_isFile machine s _).bind ?_
      rw [hfile]
      exact (returns_readBytes hcurrent).bind ((returns_readBytes horiginal).bind ⟨rfl, rfl⟩)
    · refine ⟨false, (returns_isFile machine s _).bind ?_⟩
      rw [hsaved]
      refine (returns_isFile machine s _).bind ?_
      rw [Bool.eq_false_iff.mpr hfile]
      exact ⟨rfl, rfl⟩
  · refine ⟨false, (returns_isFile machine s _).bind ?_⟩
    rw [Bool.eq_false_iff.mpr hsaved]
    exact ⟨rfl, rfl⟩

theorem returns_printLegacy (machine : Machine) (s : Tree) (legacy : List PosixPath) :
    Returns (handler machine) (printLegacy legacy) s () s := by
  induction legacy with
  | nil => exact ⟨rfl, rfl⟩
  | cons path paths ih => exact (returns_print machine s _).bind ih

theorem returns_printPlan (root : Root) (machine : Machine) (s : Tree) (apply restoreStock : Bool)
    (legacy : List PosixPath) :
    Returns (handler machine) (printPlan root apply restoreStock legacy) s () s := by
  have hstock : Returns (handler machine) (printStock root restoreStock) s () s := by
    unfold printStock
    cases restoreStock with
    | true => exact returns_print machine s _
    | false =>
      obtain ⟨matched, hmatched⟩ := returns_alreadyMatches root machine s
      refine hmatched.bind ?_
      cases matched <;> exact returns_print machine s _
  refine (returns_print machine s _).bind ((returns_print machine s _).bind ?_)
  exact hstock.bind (returns_printLegacy machine s legacy)

/-! ## Restoring -/

/-- The path of the temporary file. -/
def tempPath (root : Root) (machine : Machine) (s : Tree) : PosixPath :=
  (stock root).parent.child (s!".{(stock root).name}.snarkypuss-restore." ++
    (machine.tempName s (stock root).parent s!".{(stock root).name}.snarkypuss-restore.").text)

theorem tempPath_ne_stock : tempPath root machine s ≠ stock root := by
  intro heq
  have hname := congrArg PosixPath.name heq
  rw [tempPath, name_child] at hname
  have hlength := congrArg String.length hname
  simp only [String.length_append, TempName.length_eq, toString] at hlength
  omega

theorem permissionBits_file (mode : Fin 4096) : permissionBits (0o100000 + mode) = mode := by
  apply Fin.ext
  show (0o100000 + mode.val) % 0o10000 = mode.val
  omega

/-- The original can take the place of the configuration. -/
structure Restorable (root : Root) (s : Tree) (c : ByteArray) (m : Fin 4096) : Prop where
  grounded : s.Grounded
  backup : s (Dns.backup root) = some (.file c m)
  stock : s.isDir (Dns.stock root) = false

namespace Restorable

theorem directory (h : Restorable root s c m) : s.isDir (Dns.stock root).parent := by
  rw [parent_stock]
  apply h.grounded.isDir_parent
  · simp [backup_eq]
  · rw [h.backup]
    exact nofun

theorem returns_stat (h : Restorable root s c m) :
    Returns (handler machine) (stat (Dns.backup root)) s
      ⟨0o100000 + m, (machine.owner (Dns.backup root)).1, (machine.owner (Dns.backup root)).2⟩ s := by
  apply returns_call
  simp only [handler]
  rw [h.backup]

theorem returns_mkdir (h : Restorable root s c m) :
    Returns (handler machine) (mkdir (Dns.stock root).parent true true) s () s := by
  obtain ⟨mode, hmode⟩ := isDir_eq_true.mp h.directory
  apply returns_call
  show makeDirectory machine.directoryMode s true true _ = _
  simp [makeDirectory, hmode, h.directory]
  rfl

theorem returns_mkstemp (h : Restorable root s c m) (hfree : s (tempPath root machine s) = none) :
    Returns (handler machine) (mkstemp (Dns.stock root).parent
      s!".{(Dns.stock root).name}.snarkypuss-restore.") s (tempPath root machine s)
      (Function.update s (tempPath root machine s) (some (.file .empty 0o600))) :=
  returns_call (if_pos ⟨h.directory, hfree⟩)

theorem throws_mkstemp (hfree : s (tempPath root machine s) ≠ none) :
    Throws (handler machine) (mkstemp (Dns.stock root).parent
      s!".{(Dns.stock root).name}.snarkypuss-restore.") s
      (.raised (.os "No usable temporary file name found")) s :=
  throws_call (if_neg fun h => hfree h.2)

end Restorable

/-- A file system with the temporary file. -/
abbrev holding (s : Tree) (temporary : PosixPath) (content : ByteArray) (mode : Fin 4096) : Tree :=
  Function.update s temporary (some (.file content mode))

section Install

variable {temporary : PosixPath} {found : ByteArray} {mode bits : Fin 4096}

theorem returns_copy (hbackup : s (backup root) = some (.file c m)) (hne : backup root ≠ temporary) :
    Returns (handler machine) (copyBytes (backup root) temporary) (holding s temporary found mode) ()
      (holding s temporary c mode) := by
  have hsource : holding s temporary found mode (backup root) = some (.file c m) :=
    (Function.update_of_ne hne ..).trans hbackup
  apply returns_call
  simp only [handler]
  rw [hsource]
  simp only [write_file (Function.update_self ..), Function.update_idem]

theorem returns_chmod : Returns (handler machine) (chmod temporary bits)
    (holding s temporary found mode) () (holding s temporary found bits) := by
  apply returns_call
  show changeMode (holding s temporary found mode) bits temporary = _
  rw [changeMode, holding, Function.update_self, chmod_file (Function.update_self ..),
    Function.update_idem]
  rfl

/-- The new owner runs nothing as somebody else. -/
theorem returns_chown (uid gid : ℕ) : Returns (handler machine) (chown temporary uid gid)
    (holding s temporary found mode) () (holding s temporary found (chownMode mode)) := by
  apply returns_call
  show changeOwner (holding s temporary found mode) temporary = _
  rw [changeOwner, holding, Function.update_self]
  simp only [Function.update_idem]
  rfl

theorem returns_replace (hfree : s temporary = none) (hne : temporary ≠ stock root)
    (hparent : s.isDir (stock root).parent) (hdir : s.isDir (stock root) = false) :
    Returns (handler machine) (replace temporary (stock root)) (holding s temporary found mode) ()
      (Function.update s (stock root) (some (.file found mode))) := by
  have hpath : (holding s temporary found mode).isDir (stock root) = false := by
    rw [isDir_of_eq (Function.update_of_ne hne.symm ..), hdir]
  have hparentNe : (stock root).parent ≠ temporary := by
    rintro heq
    rw [heq, isDir, hfree] at hparent
    cases hparent
  have hdirectory : (holding s temporary found mode).isDir (stock root).parent := by
    rw [isDir_of_eq (Function.update_of_ne hparentNe ..), hparent]
  apply returns_call
  show renameFile (holding s temporary found mode) temporary (stock root) = _
  rw [renameFile, holding, Function.update_self]
  simp only [hpath, hdirectory, Bool.false_eq_true, if_false, if_true, Tree.rename,
    Function.update_self, Function.update_idem]
  rw [← hfree, Function.update_eq_self]
  rfl

theorem returns_unlink_missing (hfree : s temporary = none) :
    Returns (handler machine) (unlink temporary true) s () s := by
  apply returns_call
  show removeFile s true temporary = _
  rw [removeFile, hfree]
  rfl

end Install

/-- **The original takes the place of the configuration**, with the mode that `chown` leaves. -/
theorem returns_atomicRestore (h : Restorable root s c m)
    (hfree : s (tempPath root machine s) = none) :
    Returns (handler machine) (atomicRestore (backup root) (stock root)) s ()
      (Function.update s (stock root) (some (.file c (chownMode m)))) := by
  have hbackupNe : backup root ≠ tempPath root machine s := by
    rintro heq
    rw [← heq, h.backup] at hfree
    cases hfree
  refine h.returns_stat.bind (h.returns_mkdir.bind ((h.returns_mkstemp hfree).bind ?_))
  refine Returns.finally_ ?_ (returns_unlink_missing ?_)
  · refine (returns_copy h.backup hbackupNe).bind (returns_chmod.bind ?_)
    rw [permissionBits_file]
    refine (returns_chown _ _).bind ?_
    exact returns_replace hfree tempPath_ne_stock h.directory h.stock
  · -- the temporary file was renamed
    exact (Function.update_of_ne tempPath_ne_stock ..).trans hfree

theorem throws_atomicRestore (h : Restorable root s c m)
    (hfree : s (tempPath root machine s) ≠ none) :
    Throws (handler machine) (atomicRestore (backup root) (stock root)) s
      (.raised (.os "No usable temporary file name found")) s :=
  h.returns_stat.bind_throws (h.returns_mkdir.bind_throws
    (Restorable.throws_mkstemp hfree).bind)

/-! ## Removing -/

/-- A file system without some paths. -/
def eraseAll (s : Tree) (paths : List PosixPath) : Tree :=
  fun path => if path ∈ paths then none else s path

theorem returns_removeLegacy (machine : Machine) {paths : List PosixPath} (hnodup : paths.Nodup)
    (hfiles : ∀ path ∈ paths, s.isFile path) :
    Returns (handler machine) (removeLegacy paths) s () (eraseAll s paths) := by
  induction paths generalizing s with
  | nil => exact ⟨rfl, rfl⟩
  | cons path paths ih =>
    obtain ⟨hpath, hrest⟩ := List.nodup_cons.mp hnodup
    have hunlink : Returns (handler machine) (unlink path false) s ()
        (Function.update s path none) := by
      obtain ⟨c, hc⟩ := isFile_iff.mp (hfiles path List.mem_cons_self)
      obtain ⟨m, hm⟩ := content_eq_some.mp hc
      apply returns_call
      show removeFile s false path = _
      rw [removeFile, hm]
      rfl
    have hstill : ∀ q ∈ paths, Tree.isFile (Function.update s path none) q := by
      intro q hq
      have hne : q ≠ path := fun heq => hpath (heq ▸ hq)
      rw [Tree.isFile, content_of_eq (Function.update_of_ne hne ..)]
      exact hfiles q (List.mem_cons_of_mem path hq)
    have herased : eraseAll (Function.update s path none) paths = eraseAll s (path :: paths) := by
      funext q
      by_cases hq : q = path
      · subst hq
        simp [eraseAll]
      · simp [eraseAll, hq]
    refine hunlink.bind ((returns_print machine _ _).bind ?_)
    rw [← herased]
    exact ih hrest hstill

end Snarkypuss.Dns
