import Snarkypuss.Dns.Restoration

/-!
# What the cleanup leaves

However the calls are answered, a cleanup that is refused has changed nothing, and one that succeeds
leaves everything but the stock configuration and the files of the old setup as it was. Done again it
finds nothing to do.

The configuration is then as it was, or it is the saved original. The mode of the original is lost
where `chown`, which comes after `chmod`, takes a bit away.

## Main definitions

* `cleaned`: the file system after a cleanup
* `Clean`, `Careful`: what a cleanup must leave, and that it does so

## Main results

* `cleanup_cases`: how an execution ends
* `run_main`, `run_cleanup`: a run that succeeds or is refused is an execution
* `careful_iff`: from which file systems the cleanup is careful
-/

namespace Snarkypuss.Dns

open Python Python.PosixPath Files Files.Tree Program Gateway

variable {root : Root} {machine : Machine} {s t : Tree} {c : ByteArray} {m : Fin 4096}

/-! ## The file system after a cleanup -/

/-- The file system with the original in place of the configuration, if it is to be replaced. -/
noncomputable def restored (root : Root) (s : Tree) : Tree :=
  open Classical in
  if Replaced root s then
    match s (backup root) with
    | some (.file c m) => Function.update s (stock root) (some (.file c (chownMode m)))
    | _ => s
  else s

/-- The file system after a cleanup. -/
noncomputable def cleaned (root : Root) (s : Tree) : Tree :=
  eraseAll (restored root s) (legacyPaths root)

theorem restored_of_not_replaced (h : ¬ Replaced root s) : restored root s = s := if_neg h

theorem restored_of_replaced (h : Replaced root s) (hbackup : s (backup root) = some (.file c m)) :
    restored root s = Function.update s (stock root) (some (.file c (chownMode m))) := by
  unfold restored
  rw [if_pos h, hbackup]

theorem exists_backup (h : s.isFile (backup root)) :
    ∃ c m, s (backup root) = some (.file c m) := by
  obtain ⟨c, hc⟩ := isFile_iff.mp h
  obtain ⟨m, hm⟩ := content_eq_some.mp hc
  exact ⟨c, m, hm⟩

theorem restored_of_ne {path : PosixPath} (h : path ≠ stock root) :
    restored root s path = s path := by
  by_cases hreplaced : Replaced root s
  · obtain ⟨c, m, hbackup⟩ := exists_backup hreplaced.1
    rw [restored_of_replaced hreplaced hbackup, Function.update_of_ne h]
  · rw [restored_of_not_replaced hreplaced]

theorem cleaned_legacy {path : PosixPath} (h : path ∈ legacyPaths root) :
    cleaned root s path = none := if_pos h

theorem cleaned_of_not_legacy {path : PosixPath} (h : path ∉ legacyPaths root) :
    cleaned root s path = restored root s path := if_neg h

theorem cleaned_stock : cleaned root s (stock root) = restored root s (stock root) :=
  cleaned_of_not_legacy stock_not_legacy

theorem cleaned_backup : cleaned root s (backup root) = s (backup root) :=
  (cleaned_of_not_legacy backup_not_legacy).trans (restored_of_ne stock_ne_backup.symm)

theorem cleaned_other {path : PosixPath} (hstock : path ≠ stock root)
    (hlegacy : path ∉ legacyPaths root) : cleaned root s path = s path :=
  (cleaned_of_not_legacy hlegacy).trans (restored_of_ne hstock)

/-! ## The plan after a cleanup -/

theorem refused_congr (hstock : t (stock root) = s (stock root))
    (hbackup : t (backup root) = s (backup root)) : Refused root t ↔ Refused root s := by
  simp only [Refused, Tree.isFile, content_of_eq hstock, content_of_eq hbackup, hstock]
  rfl

theorem replaced_congr (hstock : t (stock root) = s (stock root))
    (hbackup : t (backup root) = s (backup root)) : Replaced root t ↔ Replaced root s := by
  simp only [Replaced, Tree.isFile, content_of_eq hstock, content_of_eq hbackup, hstock]

/-- After a cleanup there is nothing to restore. -/
theorem plan_cleaned (h : ¬ Refused root s) :
    ¬ Refused root (cleaned root s) ∧ ¬ Replaced root (cleaned root s) := by
  by_cases hreplaced : Replaced root s
  · obtain ⟨c, m, hbackup⟩ := exists_backup hreplaced.1
    have hstock : cleaned root s (stock root) = some (.file c (chownMode m)) := by
      rw [cleaned_stock, restored_of_replaced hreplaced hbackup, Function.update_self]
    have hcontent : (cleaned root s).content (stock root) = some c := by
      rw [content, hstock]
    have hsaved : (cleaned root s).content (backup root) = some c := by
      rw [content, cleaned_backup, hbackup]
    have hfile : (cleaned root s).isFile (backup root) = true := isFile_iff.mpr ⟨c, hsaved⟩
    constructor
    · simp only [Refused, hfile, if_true]
      exact fun hrefused => (hrefused.2 c hcontent).1 hsaved
    · rintro ⟨-, hnone | ⟨c', hc', hne, -⟩⟩
      · rw [hstock] at hnone
        cases hnone
      · exact hne (hsaved.trans (hcontent.symm.trans hc'))
  · have hstock : cleaned root s (stock root) = s (stock root) := by
      rw [cleaned_stock, restored_of_not_replaced hreplaced]
    exact ⟨fun hrefused => h ((refused_congr hstock cleaned_backup).mp hrefused),
      fun hagain => hreplaced ((replaced_congr hstock cleaned_backup).mp hagain)⟩

theorem cleaned_cleaned (h : ¬ Refused root s) :
    cleaned root (cleaned root s) = cleaned root s := by
  funext path
  by_cases hlegacy : path ∈ legacyPaths root
  · rw [cleaned_legacy hlegacy, cleaned_legacy hlegacy]
  · rw [cleaned_of_not_legacy hlegacy, restored_of_not_replaced (plan_cleaned h).2]

/-- Nothing that is replaced is a directory. -/
theorem Replaced.isDir_stock (h : Replaced root s) : s.isDir (stock root) = false := by
  rcases h.2 with hnone | ⟨c, hc, -⟩
  · simp [isDir, hnone]
  · obtain ⟨m, hm⟩ := content_eq_some.mp hc
    simp [isDir, hm]

theorem Replaced.restorable (h : Replaced root s) (hs : Staged root s)
    (hbackup : s (backup root) = some (.file c m)) : Restorable root s c m :=
  ⟨hs.grounded, hbackup, h.isDir_stock⟩

/-- Removing what are no directories leaves everything in a directory. -/
theorem grounded_eraseAll {paths : List PosixPath} (hs : s.Grounded)
    (h : ∀ path ∈ paths, s.isDir path = false) : (eraseAll s paths).Grounded := by
  intro directory name hchild
  unfold eraseAll at hchild
  split_ifs at hchild with hmem
  · exact absurd rfl hchild
  · have hdir := hs directory name hchild
    have hnot : directory ∉ paths := by
      intro hdirectory
      rw [h directory hdirectory] at hdir
      cases hdir
    rwa [isDir_of_eq (show eraseAll s paths directory = s directory from if_neg hnot)]

theorem grounded_restored (hs : Staged root s) : (restored root s).Grounded := by
  by_cases hreplaced : Replaced root s
  · obtain ⟨c, m, hbackup⟩ := exists_backup hreplaced.1
    have hrestorable := hreplaced.restorable hs hbackup
    have hplace : restored root s = s.place 0 (stock root) c (chownMode m) := by
      rw [restored_of_replaced hreplaced hbackup, place, ensure_of_isDir hrestorable.directory]
    rw [hplace]
    apply hs.grounded.place (hs.grounded.passable hrestorable.directory)
    · simp [stock_eq]
    · exact hrestorable.stock
  · rw [restored_of_not_replaced hreplaced]
    exact hs.grounded

theorem restored_legacy {path : PosixPath} (h : path ∈ legacyPaths root) :
    restored root s path = s path :=
  restored_of_ne fun heq => stock_not_legacy (heq ▸ h)

theorem isDir_of_isFile {path : PosixPath} (h : s path = none ∨ s.isFile path) :
    s.isDir path = false := by
  rcases h with hnone | hfile
  · simp [isDir, hnone]
  · obtain ⟨c, hc⟩ := isFile_iff.mp hfile
    obtain ⟨m, hm⟩ := content_eq_some.mp hc
    simp [isDir, hm]

/-- After a cleanup the file system is one that the cleanup is for. -/
theorem Staged.cleaned (hs : Staged root s) : Staged root (cleaned root s) where
  grounded := by
    apply grounded_eraseAll (grounded_restored hs)
    intro path hpath
    rw [isDir_of_eq (restored_legacy hpath)]
    exact isDir_of_isFile (hs.legacy path hpath)
  backup := by
    rw [cleaned_backup, Tree.isFile, content_of_eq cleaned_backup]
    exact hs.backup
  legacy path hpath := .inl (cleaned_legacy hpath)

/-! ## Executions -/

/-- The cleanup is not refused. -/
structure Proceeds (root : Root) (machine : Machine) (s : Tree) (apply : Bool) : Prop where
  plan : ¬ Refused root s
  user : root.val = ⟨"/", []⟩ → apply = true → machine.uid = 0
  cutover : root.val = ⟨"/", []⟩ → Cutover machine

/-- A step of the plan cannot be carried out: there is no free name for the temporary file, or the
service manager does not reload. -/
def Blocked (root : Root) (machine : Machine) (s : Tree) : Prop :=
  (Replaced root s ∧ s (tempPath root machine s) ≠ none) ∨
    root.val = ⟨"/", []⟩ ∧ machine.reloads = false

/-- The step that restores. -/
theorem applyStock_cases (hs : Staged root s) (machine : Machine) {restore : Bool}
    (hrestore : restore = true ↔ Replaced root s) :
    (Replaced root s ∧ s (tempPath root machine s) ≠ none ∧
        ∃ e, Throws (handler machine) (applyStock root restore) s (.raised e) s) ∨
      ¬ (Replaced root s ∧ s (tempPath root machine s) ≠ none) ∧
        Returns (handler machine) (applyStock root restore) s () (restored root s) := by
  by_cases hreplaced : Replaced root s
  · obtain rfl : restore = true := hrestore.mpr hreplaced
    obtain ⟨c, m, hbackup⟩ := exists_backup hreplaced.1
    have hrestorable := hreplaced.restorable hs hbackup
    by_cases hfree : s (tempPath root machine s) = none
    · refine .inr ⟨fun h => h.2 hfree, ?_⟩
      rw [restored_of_replaced hreplaced hbackup]
      exact (returns_atomicRestore hrestorable hfree).bind (returns_print machine _ _)
    · exact .inl ⟨hreplaced, hfree, _, (throws_atomicRestore hrestorable hfree).bind⟩
  · obtain rfl : restore = false :=
      Bool.eq_false_iff.mpr fun htrue => hreplaced (hrestore.mp htrue)
    rw [restored_of_not_replaced hreplaced]
    exact .inr ⟨fun h => hreplaced h.1, ⟨rfl, rfl⟩⟩

/-- Files that are not there need not be removed. -/
theorem eraseAll_filter (hs : Staged root s) :
    eraseAll (restored root s) ((legacyPaths root).filter s.isFile) = cleaned root s := by
  funext path
  by_cases hlegacy : path ∈ legacyPaths root
  · rw [cleaned_legacy hlegacy]
    rcases hs.legacy path hlegacy with hnone | hfile
    · unfold eraseAll
      split_ifs
      · rfl
      · rw [restored_legacy hlegacy, hnone]
    · exact if_pos (List.mem_filter.mpr ⟨hlegacy, hfile⟩)
  · rw [cleaned_of_not_legacy hlegacy]
    exact if_neg fun hmem => hlegacy (List.mem_filter.mp hmem).1

theorem reloadServices_cases (root : Root) (machine : Machine) (s : Tree) :
    ((root.val = ⟨"/", []⟩ ∧ machine.reloads = false) ∧
        ∃ e, Throws (handler machine) (reloadServices root) s (.raised e) s) ∨
      ¬ (root.val = ⟨"/", []⟩ ∧ machine.reloads = false) ∧
        Returns (handler machine) (reloadServices root) s () s := by
  unfold reloadServices
  by_cases hroot : root.val = ⟨"/", []⟩
  · rw [if_pos hroot]
    have hanswer : handler machine .daemonReload s =
        (if machine.reloads then .ok () else .error (.raised (.other "CalledProcessError")), s) := rfl
    cases hreloads : machine.reloads with
    | true =>
      rw [hreloads] at hanswer
      exact .inr ⟨(fun h => by cases h.2), returns_call hanswer⟩
    | false =>
      rw [hreloads] at hanswer
      exact .inl ⟨⟨hroot, rfl⟩, _, throws_call hanswer⟩
  · rw [if_neg hroot]
    exact .inr ⟨fun h => hroot h.1, ⟨rfl, rfl⟩⟩

/-- What is done when the plan is applied. -/
theorem applyPlan_cases (hs : Staged root s) (machine : Machine) {restore : Bool}
    (hrestore : restore = true ↔ Replaced root s) :
    (Blocked root machine s ∧ ∃ e t, Throws (handler machine)
        (applyPlan root restore ((legacyPaths root).filter s.isFile)) s (.raised e) t) ∨
      ¬ Blocked root machine s ∧ Returns (handler machine)
        (applyPlan root restore ((legacyPaths root).filter s.isFile)) s 0 (cleaned root s) := by
  rcases applyStock_cases hs machine hrestore with ⟨hreplaced, hfree, e, he⟩ | ⟨hfree, hstock⟩
  · exact .inl ⟨.inl ⟨hreplaced, hfree⟩, e, s, he.bind⟩
  have hremove : Returns (handler machine) (removeLegacy ((legacyPaths root).filter s.isFile))
      (restored root s) () (cleaned root s) := by
    rw [← eraseAll_filter hs]
    apply returns_removeLegacy machine (legacyPaths_nodup.filter _)
    intro path hpath
    obtain ⟨hlegacy, hfile⟩ := List.mem_filter.mp hpath
    rw [Tree.isFile, content_of_eq (restored_legacy hlegacy)]
    exact hfile
  rcases reloadServices_cases root machine (cleaned root s) with ⟨hroot, e, he⟩ | ⟨hreloads, hreload⟩
  · exact .inl ⟨.inr hroot, e, _, hstock.bind_throws (hremove.bind_throws he.bind)⟩
  · refine .inr ⟨fun h => h.elim hfree hreloads, ?_⟩
    exact hstock.bind (hremove.bind (hreload.bind ((returns_print machine _ _).bind ⟨rfl, rfl⟩)))

/-- **How an execution of the cleanup ends**: it is refused and changes nothing, it stops at a step
that cannot be carried out, or it does what was planned. -/
theorem cleanup_cases (hs : Staged root s) (machine : Machine) (apply : Bool) :
    (¬ Proceeds root machine s apply ∧
        ∃ message, Throws (handler machine) (cleanup root apply) s (.refused message) s) ∨
      (apply = true ∧ Blocked root machine s ∧
        ∃ e t, Throws (handler machine) (cleanup root apply) s (.raised e) t) ∨
      Proceeds root machine s apply ∧ (apply = true → ¬ Blocked root machine s) ∧
        Returns (handler machine) (cleanup root apply) s 0 (if apply then cleaned root s else s) := by
  rcases checkUser_cases root machine apply s with ⟨happly, hroot, huid, hthrows⟩ | ⟨huser, hreturns⟩
  · exact .inl ⟨fun h => huid (h.user hroot happly), _, hthrows.bind⟩
  rcases checkServices_cases root machine s with
    ⟨hroot, hcutover, message, hthrows⟩ | ⟨hcutover, hservices⟩
  · exact .inl ⟨fun h => hcutover (h.cutover hroot), message, hreturns.bind_throws hthrows.bind⟩
  rcases cleanupPlan_cases root machine s with
    ⟨hrefused, message, hthrows⟩ | ⟨hplan, restore, hrestore, hplanned⟩
  · exact .inl ⟨fun h => h.plan hrefused, message,
      hreturns.bind_throws (hservices.bind_throws hthrows.bind)⟩
  have hproceeds : Proceeds root machine s apply := ⟨hplan, huser, hcutover⟩
  have hprint := returns_printPlan root machine s apply restore ((legacyPaths root).filter s.isFile)
  by_cases happly : apply = true
  · rcases applyPlan_cases hs machine hrestore with ⟨hblocked, e, t, hthrows⟩ | ⟨hblocked, happlied⟩
    · refine .inr (.inl ⟨happly, hblocked, e, t, hreturns.bind_throws (hservices.bind_throws
        (hplanned.bind_throws (hprint.bind_throws ?_)))⟩)
      rw [if_pos happly]
      exact hthrows
    · refine .inr (.inr ⟨hproceeds, fun _ => hblocked, hreturns.bind (hservices.bind
        (hplanned.bind (hprint.bind ?_)))⟩)
      rw [if_pos happly, if_pos happly]
      exact happlied
  · refine .inr (.inr ⟨hproceeds, fun h => absurd h happly, hreturns.bind (hservices.bind
      (hplanned.bind (hprint.bind ?_)))⟩)
    rw [if_neg happly, if_neg happly]
    exact (returns_print machine s _).bind ⟨rfl, rfl⟩

theorem returns_main_iff {apply : Bool} :
    Returns (handler machine) (main root apply) s 0 t ↔
      Returns (handler machine) (cleanup root apply) s 0 t := by
  constructor
  · intro h
    obtain ⟨r, u, hcleanup, hrest⟩ := returns_bind_iff.mp h
    cases r with
    | ok status =>
      obtain ⟨hstatus, rfl⟩ := returns_done_iff.mp hrest
      cases hstatus
      exact returns_attempt_ok_iff.mp hcleanup
    | error message =>
      obtain ⟨-, v, -, hstatus⟩ := returns_bind_iff.mp hrest
      cases (returns_done_iff.mp hstatus).1
  · exact fun h => (returns_attempt_ok_iff.mpr h).bind ⟨rfl, rfl⟩

/-! ## Runs in which calls may fail -/

/-- An exception that is not the script's own. -/
def Raised (e : ScriptError) : Prop := ∃ x, e = .raised x

theorem raised_handler (machine : Machine) (c : CleanupCall) (s : Tree) :
    RaisesFaults (I := cleanupCalls) Raised c (handler machine c s).1 := by
  intro e he
  cases c <;>
    simp only [handler, readFileBytes, makeDirectory, changeMode, changeOwner, renameFile,
      removeFile, osError] at he <;>
    (repeat' split at he) <;> cases he <;> exact ⟨_, rfl⟩

theorem answers_faults (machine : Machine) (c : CleanupCall) (s : Tree)
    (r : Except ScriptError (cleanupCalls.Reply c)) (t : Tree) (h : Answers machine c s r t) :
    RaisesFaults (I := cleanupCalls) Raised c r := by
  rcases h with heq | ⟨message, rfl, -⟩
  · have hr : (handler machine c s).1 = r := congrArg Prod.fst heq
    exact hr ▸ raised_handler machine c s
  · intro e he
    cases he
    exact ⟨_, rfl⟩

theorem answers_cases (machine : Machine) (c : CleanupCall) (s : Tree)
    (r : Except ScriptError (cleanupCalls.Reply c)) (t : Tree) (h : Answers machine c s r t) :
    handler machine c s = (r, t) ∨ ∃ e, r = .error e ∧ Raised e :=
  h.imp_right fun ⟨_, hr, _⟩ => ⟨_, hr, _, rfl⟩

theorem passes_filesAmong (paths : List PosixPath) : (filesAmong paths).Passes Raised := by
  induction paths with
  | nil => exact passes_done _
  | cons path paths ih => exact (passes_call _).bind fun _ => ih.bind fun _ => passes_done _

theorem passes_printLegacy (paths : List PosixPath) : (printLegacy paths).Passes Raised := by
  induction paths with
  | nil => exact passes_done _
  | cons path paths ih => exact (passes_call _).bind fun _ => ih

theorem passes_removeLegacy (paths : List PosixPath) : (removeLegacy paths).Passes Raised := by
  induction paths with
  | nil => exact passes_done _
  | cons path paths ih => exact (passes_call _).bind fun _ => (passes_call _).bind fun _ => ih

theorem passes_stockPlan (root : Root) (saved : Bool) : (stockPlan root saved).Passes Raised := by
  have hcompare : (compareConfigs root).Passes Raised := by
    refine (passes_call _).bind fun _ => (passes_call _).bind fun _ => ?_
    split_ifs
    · exact passes_done _
    · refine (passes_call _).bind fun _ => ?_
      split_ifs <;> exact passes_done _
  unfold stockPlan
  split_ifs
  · refine (passes_call _).bind fun _ => ?_
    split_ifs
    · refine (passes_call _).bind fun _ => ?_
      split_ifs
      · exact hcompare
      · exact passes_done _
    · exact passes_done _
  · refine (passes_call _).bind fun _ => ?_
    split_ifs
    · refine (passes_call _).bind fun _ => ?_
      split_ifs <;> exact passes_done _
    · exact passes_done _

theorem passes_checks (root : Root) (apply : Bool) :
    (checkUser root apply).Passes Raised ∧ (checkServices root).Passes Raised := by
  constructor
  · unfold checkUser
    split_ifs
    · refine (passes_call _).bind fun _ => ?_
      split_ifs <;> exact passes_done _
    · exact passes_done _
  · unfold checkServices
    split_ifs
    · refine (passes_call _).bind fun _ => ?_
      split_ifs
      · refine (passes_call _).bind fun _ => ?_
        split_ifs <;> exact passes_done _
      · exact passes_done _
    · exact passes_done _

theorem passes_printPlan (root : Root) (apply restoreStock : Bool) (legacy : List PosixPath) :
    (printPlan root apply restoreStock legacy).Passes Raised := by
  have hmatches : (alreadyMatches root).Passes Raised := by
    refine (passes_call _).bind fun _ => ?_
    split_ifs
    · refine (passes_call _).bind fun _ => ?_
      split_ifs
      · exact (passes_call _).bind fun _ => (passes_call _).bind fun _ => passes_done _
      · exact passes_done _
    · exact passes_done _
  have hstock : (printStock root restoreStock).Passes Raised := by
    unfold printStock
    split_ifs
    · exact passes_call _
    · refine hmatches.bind fun _ => ?_
      split_ifs <;> exact passes_call _
  exact (passes_call _).bind fun _ => (passes_call _).bind fun _ =>
    hstock.bind fun _ => passes_printLegacy legacy

theorem passes_atomicRestore (source destination : PosixPath) :
    (atomicRestore source destination).Passes Raised := by
  refine (passes_call _).bind fun _ => (passes_call _).bind fun _ => (passes_call _).bind fun _ => ?_
  refine Passes.finally_ ?_ (passes_call _) fun r hr => hr
  exact (passes_call _).bind fun _ => (passes_call _).bind fun _ => (passes_call _).bind fun _ =>
    passes_call _

theorem passes_applyPlan (root : Root) (restoreStock : Bool) (legacy : List PosixPath) :
    (applyPlan root restoreStock legacy).Passes Raised := by
  have hstock : (applyStock root restoreStock).Passes Raised := by
    unfold applyStock
    split_ifs
    · exact (passes_atomicRestore _ _).bind fun _ => passes_call _
    · exact passes_done _
  have hreload : (reloadServices root).Passes Raised := by
    unfold reloadServices
    split_ifs
    · exact passes_call _
    · exact passes_done _
  exact hstock.bind fun _ => (passes_removeLegacy legacy).bind fun _ => hreload.bind fun _ =>
    (passes_call _).bind fun _ => passes_done _

/-- No call fails unnoticed. -/
theorem passes_cleanup (root : Root) (apply : Bool) : (cleanup root apply).Passes Raised := by
  refine (passes_checks root apply).1.bind fun _ => (passes_checks root apply).2.bind fun _ => ?_
  refine Passes.bind ?_ fun _ => (passes_printPlan ..).bind fun _ => ?_
  · exact (passes_filesAmong _).bind fun _ => (passes_call _).bind fun _ =>
      (passes_stockPlan _ _).bind fun _ => passes_done _
  · split_ifs
    · exact passes_applyPlan ..
    · exact (passes_call _).bind fun _ => passes_done _

theorem always_cleanup (root : Root) (machine : Machine) (apply : Bool) (s : Tree) :
    (cleanup root apply).Always (Answers machine) (fun _ _ => True)
      (fun r _ t => Faulty Raised r ∨ ((cleanup root apply).exec (handler machine) s).result = r ∧
        ((cleanup root apply).exec (handler machine) s).state = t) [] s :=
  (passes_cleanup root apply).always (answers_cases machine) (answers_faults machine) [] s

/-- **A run that is refused is an execution.** -/
theorem run_cleanup {apply : Bool} {os : List (Occurrence cleanupCalls ScriptError Tree)}
    {message : String}
    (hv : Visits (Answers machine) (cleanup root apply) s os (done (.error (.refused message))) t) :
    Throws (handler machine) (cleanup root apply) s (.refused message) t := by
  rcases ((always_cleanup root machine apply s).visited hv).2 with ⟨e, he, x, hx⟩ | hexec
  · cases he
    cases hx
  · exact hexec

/-- **A run that succeeds is an execution.** -/
theorem run_main {apply : Bool} {os : List (Occurrence cleanupCalls ScriptError Tree)}
    (hv : Visits (Answers machine) (main root apply) s os (done (.ok 0)) t) :
    Returns (handler machine) (cleanup root apply) s 0 t := by
  have hmain : (main root apply).Always (Answers machine) (fun _ _ => True)
      (fun r _ t => r = .ok 0 → Returns (handler machine) (cleanup root apply) s 0 t) [] s := by
    refine Always.bind (Q := fun r _ t => ∀ status, r = .ok (.ok status) →
      Returns (handler machine) (cleanup root apply) s status t) ?_ ?_ ?_
    · apply Always.attempt
      refine (always_cleanup root machine apply s).mono fun r os t _ hr status hstatus => ?_
      obtain rfl := reify_eq_ok.mp hstatus
      rcases hr with ⟨e, he, -⟩ | hexec
      · cases he
      · exact hexec
    · intro r os t _ hr
      cases r with
      | ok status =>
        refine ⟨trivial, fun hstatus => ?_⟩
        cases hstatus
        exact hr 0 rfl
      | error message =>
        -- the exit status is one, whatever becomes of the line that is printed
        refine ⟨trivial, fun r t _ => ?_⟩
        cases r with
        | ok u => exact ⟨trivial, nofun⟩
        | error e => exact ⟨trivial, nofun⟩
    · exact fun e os t _ _ => nofun
  exact (hmain.visited hv).2 rfl

/-! ## The marker -/

/-- A text without line feeds that begins a text that was read began it before its line ends were
translated. -/
theorem start_of_universalNewlines {ds : List Char} (hds : '\n' ∉ ds) (cs : List Char)
    (h : ds <+: universalNewlines cs) : ds <+: cs := by
  induction cs using universalNewlines.induct generalizing ds with
  | case1 => exact h
  | case2 cs ih =>
    cases ds with
    | nil => exact List.nil_prefix
    | cons d ds =>
      obtain ⟨rfl, -⟩ := List.cons_prefix_cons.mp h
      exact absurd List.mem_cons_self hds
  | case3 cs hne ih =>
    rw [universalNewlines] at h
    · cases ds with
      | nil => exact List.nil_prefix
      | cons d ds =>
        obtain ⟨rfl, -⟩ := List.cons_prefix_cons.mp h
        exact absurd List.mem_cons_self hds
    · exact hne
  | case4 c cs _ _ ih =>
    rw [universalNewlines] at h
    · cases ds with
      | nil => exact List.nil_prefix
      | cons d ds =>
        obtain ⟨rfl, hrest⟩ := List.cons_prefix_cons.mp h
        exact List.cons_prefix_cons.mpr ⟨rfl, ih (fun hmem => hds (List.mem_cons_of_mem d hmem)) hrest⟩
    all_goals assumption

/-- The same anywhere in the text. -/
theorem infix_of_universalNewlines {ds : List Char} (hds : '\n' ∉ ds) {cs : List Char}
    (h : ds <:+: universalNewlines cs) : ds <:+: cs := by
  induction cs using universalNewlines.induct with
  | case1 => exact h
  | case2 cs ih =>
    rcases List.infix_cons_iff.mp h with hstart | hrest
    · exact (start_of_universalNewlines hds ('\r' :: '\n' :: cs) hstart).isInfix
    · exact (ih hrest).trans ((List.suffix_cons _ _).trans (List.suffix_cons _ _)).isInfix
  | case3 cs hne ih =>
    rw [universalNewlines] at h
    · rcases List.infix_cons_iff.mp h with hstart | hrest
      · refine (start_of_universalNewlines hds ('\r' :: cs) ?_).isInfix
        rw [universalNewlines]
        · exact hstart
        · exact hne
      · exact (ih hrest).trans (List.suffix_cons _ _).isInfix
    · exact hne
  | case4 c cs hcrlf hcr ih =>
    rw [universalNewlines] at h
    · rcases List.infix_cons_iff.mp h with hstart | hrest
      · refine (start_of_universalNewlines hds (c :: cs) ?_).isInfix
        rw [universalNewlines]
        · exact hstart
        all_goals assumption
      · exact (ih hrest).trans (List.suffix_cons _ _).isInfix
    all_goals assumption

/-- The marker as it stands in a file. -/
def markerBytes : List UInt8 := encodeUtf8 bindMarker.toList

/-- **A marker that is read stands in the file.** -/
theorem HasMarker.bytes (h : HasMarker c) : markerBytes <:+: c.data.toList := by
  have hread : bindMarker.toList <:+: decodeReplace c.data.toList :=
    infix_of_universalNewlines (by decide +kernel) h
  have hall : (bindMarker.toList.all fun d => d.toNat < 0x80) = true := by decide +kernel
  have hascii : ∀ d ∈ bindMarker.toList, d.toNat < 0x80 := by simpa using hall
  have hbytes : markerBytes = bindMarker.toList.map fun d => UInt8.ofNat d.toNat := by
    decide +kernel
  rw [hbytes]
  exact infix_of_decodeReplace hascii hread

/-! ## Careful cleanups -/

/-- What a cleanup must leave of a file system. -/
structure Clean (root : Root) (s t : Tree) : Prop where
  stock : t (Dns.stock root) = s (Dns.stock root) ∨
    s.isFile (Dns.backup root) ∧ t (Dns.stock root) = s (Dns.backup root)
  marked : ∀ c, s.content (Dns.stock root) = some c → t.content (Dns.stock root) ≠ some c →
    markerBytes <:+: c.data.toList
  backup : t (Dns.backup root) = s (Dns.backup root)
  legacy : ∀ path ∈ legacyPaths root, t path = none
  others : ∀ path, path ≠ Dns.stock root → path ∉ legacyPaths root → t path = s path

/-- Whatever the machine is and whichever calls fail: a cleanup that is refused has changed nothing,
and one that is applied and succeeds leaves what it must, and has nothing to do when it is applied
again. -/
def Careful (root : Root) (s : Tree) : Prop :=
  ∀ machine,
    (∀ apply os message t, Visits (Answers machine) (cleanup root apply) s os
      (done (.error (.refused message))) t → t = s) ∧
    ∀ os t, Visits (Answers machine) (main root true) s os (done (.ok 0)) t →
      Clean root s t ∧ Returns (handler machine) (main root true) t 0 t

/-- The original that is to take the place of the configuration has a mode that `chown` keeps, or
there is no name left for a temporary file. -/
def KeepsMode (root : Root) (s : Tree) : Prop :=
  ∀ c m, s (backup root) = some (.file c m) → Replaced root s → SetId m →
    ∀ name : TempName, s ((stock root).parent.child
      (s!".{(stock root).name}.snarkypuss-restore." ++ name.text)) ≠ none

theorem chownMode_eq_iff (m : Fin 4096) : chownMode m = m ↔ ¬ SetId m := by
  constructor
  · intro h hset
    have hval : (m.val - if m.val.testBit 11 then 0o4000 else 0) -
        (if m.val.testBit 10 ∧ m.val.testBit 3 then 0o2000 else 0) = m.val := congrArg Fin.val h
    rcases hset with howner | hgroup
    · have hlarge : 2 ^ 11 ≤ m.val := Nat.ge_two_pow_of_testBit howner
      rw [if_pos howner] at hval
      omega
    · have hlarge : 2 ^ 10 ≤ m.val := Nat.ge_two_pow_of_testBit hgroup.1
      rw [if_pos hgroup] at hval
      omega
  · intro h
    obtain ⟨howner, hgroup⟩ := not_or.mp h
    apply Fin.ext
    show (m.val - if m.val.testBit 11 then 0o4000 else 0) -
        (if m.val.testBit 10 ∧ m.val.testBit 3 then 0o2000 else 0) = m.val
    rw [if_neg howner, if_neg hgroup]
    rfl

theorem throws_of_not_proceeds (hs : Staged root s) {apply : Bool} {message : String}
    (h : Throws (handler machine) (cleanup root apply) s (.refused message) t) : t = s := by
  rcases cleanup_cases hs machine apply with
    ⟨-, message', hthrows⟩ | ⟨-, -, e, t', hthrows⟩ | ⟨-, -, hreturns⟩
  · exact h.2.symm.trans hthrows.2
  · cases h.1.symm.trans hthrows.1
  · cases h.1.symm.trans hreturns.1

theorem returns_of_cases (hs : Staged root s)
    (h : Returns (handler machine) (cleanup root true) s 0 t) :
    Proceeds root machine s true ∧ ¬ Blocked root machine s ∧ t = cleaned root s := by
  rcases cleanup_cases hs machine true with
    ⟨-, message', hthrows⟩ | ⟨-, -, e, t', hthrows⟩ | ⟨hproceeds, hblocked, hreturns⟩
  · cases h.1.symm.trans hthrows.1
  · cases h.1.symm.trans hthrows.1
  · exact ⟨hproceeds, hblocked rfl, (h.unique hreturns).2⟩

theorem returns_cleanup (hs : Staged root s) (hproceeds : Proceeds root machine s true)
    (hblocked : ¬ Blocked root machine s) :
    Returns (handler machine) (cleanup root true) s 0 (cleaned root s) := by
  rcases cleanup_cases hs machine true with ⟨h, -⟩ | ⟨-, h, -⟩ | ⟨-, -, hreturns⟩
  · exact absurd hproceeds h
  · exact absurd h hblocked
  · exact hreturns

/-- Applied again, the cleanup has nothing to do. -/
theorem returns_again (hs : Staged root s) (hproceeds : Proceeds root machine s true)
    (hblocked : ¬ Blocked root machine s) :
    Returns (handler machine) (main root true) (cleaned root s) 0 (cleaned root s) := by
  obtain ⟨hrefused, hreplaced⟩ := plan_cleaned hproceeds.plan
  have hproceeds' : Proceeds root machine (cleaned root s) true :=
    ⟨hrefused, hproceeds.user, hproceeds.cutover⟩
  have hagain := returns_cleanup hs.cleaned hproceeds'
    (fun h => h.elim (fun h => hreplaced h.1) fun h => hblocked (.inr h))
  rw [cleaned_cleaned hproceeds.plan] at hagain
  exact returns_main_iff.mpr hagain

/-- What a cleanup leaves that keeps the mode. -/
theorem clean_cleaned
    (hmode : ∀ c m, s (backup root) = some (.file c m) → Replaced root s → ¬ SetId m) :
    Clean root s (cleaned root s) where
  stock := by
    rw [cleaned_stock]
    by_cases hreplaced : Replaced root s
    · obtain ⟨c, m, hbackup⟩ := exists_backup hreplaced.1
      refine .inr ⟨hreplaced.1, ?_⟩
      rw [restored_of_replaced hreplaced hbackup, Function.update_self, hbackup,
        (chownMode_eq_iff m).mpr (hmode c m hbackup hreplaced)]
    · rw [restored_of_not_replaced hreplaced]
      exact .inl rfl
  marked c hc hne := by
    by_cases hreplaced : Replaced root s
    · rcases hreplaced.2 with hnone | ⟨c', hc', -, hmarker⟩
      · rw [content_eq_none_of hnone] at hc
        cases hc
      · obtain rfl : c = c' := Option.some.inj (hc.symm.trans hc')
        exact hmarker.bytes
    · rw [content_of_eq cleaned_stock, restored_of_not_replaced hreplaced] at hne
      exact absurd hc hne
  backup := cleaned_backup
  legacy _ := cleaned_legacy
  others _ := cleaned_other

theorem Replaced.not_refused (h : Replaced root s) : ¬ Refused root s := by
  simp only [Refused, h.1, if_true]
  rintro ⟨hthere, hrefused⟩
  rcases h.2 with hnone | ⟨c, hc, -, hmarker⟩
  · exact hthere hnone
  · exact (hrefused c hc).2 hmarker

/-- A host on which everything works. -/
def readyMachine (name : TempName) : Machine where
  uid := 0
  active unit := unit = newService
  reloads := true
  owner _ := (0, 0)
  directoryMode := 0o755
  tempName _ _ _ := name

theorem cutover_readyMachine (name : TempName) : Cutover (readyMachine name) :=
  ⟨decide_eq_true (p := newService = newService) rfl,
    decide_eq_false (p := legacyService = newService) (by decide +kernel)⟩

/-- A mode that `chown` changes is lost. -/
theorem not_clean_cleaned (hreplaced : Replaced root s) (hbackup : s (backup root) = some (.file c m))
    (hset : SetId m) : ¬ Clean root s (cleaned root s) := by
  intro hclean
  have hstock : cleaned root s (stock root) = some (.file c (chownMode m)) := by
    rw [cleaned_stock, restored_of_replaced hreplaced hbackup, Function.update_self]
  have hsaved : s.content (backup root) = some c := by rw [content, hbackup]
  rcases hclean.stock with hsame | ⟨-, hsame⟩
  · -- the configuration was missing, or it was another file
    rw [hstock] at hsame
    rcases hreplaced.2 with hnone | ⟨c', hc', hne, -⟩
    · rw [hnone] at hsame
      cases hsame
    · rw [content, ← hsame] at hc'
      exact hne (hsaved.trans hc')
  · rw [hstock, hbackup] at hsame
    have hmode : chownMode m = m := by
      injection hsame with hnode
      injection hnode
    exact (chownMode_eq_iff m).mp hmode hset

/-- On a host on which everything works, such an original is restored. -/
theorem not_careful (hs : Staged root s) (hreplaced : Replaced root s)
    (hbackup : s (backup root) = some (.file c m)) (hset : SetId m) (name : TempName)
    (hfree : s ((stock root).parent.child
      (s!".{(stock root).name}.snarkypuss-restore." ++ name.text)) = none) : ¬ Careful root s := by
  intro hcareful
  have hblocked : ¬ Blocked root (readyMachine name) s := by
    rintro (⟨-, hne⟩ | ⟨-, hreloads⟩)
    · exact hne hfree
    · cases hreloads
  have hproceeds : Proceeds root (readyMachine name) s true :=
    ⟨hreplaced.not_refused, fun _ _ => rfl, fun _ => cutover_readyMachine name⟩
  have hmain := returns_main_iff.mpr (returns_cleanup hs hproceeds hblocked)
  have hanswers : ∀ c s, Answers (readyMachine name) c s (handler (readyMachine name) c s).1
      (handler (readyMachine name) c s).2 := fun c s => .inl rfl
  have hvisits := visits_exec hanswers (main root true) s
  rw [hmain.1, hmain.2] at hvisits
  exact not_clean_cleaned hreplaced hbackup hset ((hcareful _).2 _ _ hvisits).1

/-- **From which file systems the cleanup is careful**: those in which the original that is restored
has neither the bit that runs a file as its owner nor, together with the right of the group to run
it, the bit that runs it as its group. -/
theorem careful_iff (hs : Staged root s) : Careful root s ↔ KeepsMode root s := by
  constructor
  · intro hcareful c m hbackup hreplaced hset name hfree
    exact not_careful hs hreplaced hbackup hset name hfree hcareful
  · intro hkeeps machine
    refine ⟨fun apply os message t hv => throws_of_not_proceeds hs (run_cleanup hv), ?_⟩
    intro os t hv
    obtain ⟨hproceeds, hblocked, rfl⟩ := returns_of_cases hs (run_main hv)
    refine ⟨clean_cleaned fun c m hbackup hreplaced hset => ?_,
      returns_again hs hproceeds hblocked⟩
    -- the original was restored, and so there was a name for the temporary file
    exact hblocked (.inl ⟨hreplaced, hkeeps c m hbackup hreplaced hset _⟩)

/-! ## A file system with a configuration of the old setup -/

def stagingRoot : Root := ⟨⟨"/", ["root"]⟩, by decide⟩

/-- The nodes of a staging tree whose saved original has the mode. -/
def stagingNodes (mode : Fin 4096) : List (PosixPath × Node) := [
  (⟨"/", []⟩, .directory 0o755),
  (⟨"/", ["root"]⟩, .directory 0o755),
  (⟨"/", ["root", "etc"]⟩, .directory 0o755),
  (⟨"/", ["root", "etc", "dnsmasq.conf"]⟩, .file ⟨markerBytes.toArray⟩ 0o644),
  (⟨"/", ["root", "etc", "dnsmasq.conf.snarkypuss-original"]⟩, .file .empty mode),
  (⟨"/", ["root", "etc", "dnsmasq.d"]⟩, .directory 0o755),
  (⟨"/", ["root", "etc", "dnsmasq.d", "snarkypuss.conf"]⟩, .file .empty 0o644)]

def stagingTree (mode : Fin 4096) : Tree := fun path => (stagingNodes mode).lookup path

theorem staged_stagingTree (mode : Fin 4096) : Staged stagingRoot (stagingTree mode) where
  grounded := by
    apply grounded_of_forall (l := (stagingNodes mode).map Prod.fst)
    · intro path hpath
      by_contra hmem
      apply hpath
      rw [stagingTree, List.lookup_eq_none_iff]
      intro entry hentry
      apply bne_iff_ne.mpr
      rintro rfl
      exact hmem (List.mem_map_of_mem hentry)
    · intro path hpath
      simp only [stagingNodes, List.map_cons, List.map_nil, List.mem_cons, List.not_mem_nil,
        or_false] at hpath
      rcases hpath with rfl | rfl | rfl | rfl | rfl | rfl | rfl
      · exact fun h => absurd rfl h
      all_goals exact fun _ => rfl
  backup := .inr (by rw [backup_eq]; rfl)
  legacy path hpath := by
    simp only [legacyPaths_eq, List.mem_cons, List.not_mem_nil, or_false] at hpath
    rcases hpath with rfl | rfl
    · exact .inr rfl
    · exact .inl rfl

theorem stagingTree_backup (mode : Fin 4096) :
    stagingTree mode (backup stagingRoot) = some (.file .empty mode) := by
  rw [backup_eq]
  rfl

/-- An original with an ordinary mode. -/
theorem careful_staging : Careful stagingRoot (stagingTree 0o644) := by
  refine (careful_iff (staged_stagingTree 0o644)).mpr fun c m hbackup _ hset => ?_
  rw [stagingTree_backup] at hbackup
  cases hbackup
  exact absurd hset (by decide)

/-- An original that runs as its owner. -/
theorem careful_fails : ¬ ∀ (root : Root) (s : Tree), Staged root s → Careful root s := by
  intro h
  have hcareful := h stagingRoot (stagingTree 0o4644) (staged_stagingTree 0o4644)
  have hstock : (stagingTree 0o4644).content (stock stagingRoot) = some ⟨markerBytes.toArray⟩ := by
    rw [stock_eq]
    rfl
  have hsaved : (stagingTree 0o4644).content (backup stagingRoot) = some .empty := by
    rw [content, stagingTree_backup]
  have hreplaced : Replaced stagingRoot (stagingTree 0o4644) := by
    refine ⟨isFile_iff.mpr ⟨_, hsaved⟩, .inr ⟨_, hstock, ?_, by decide +kernel⟩⟩
    rw [hsaved]
    decide +kernel
  refine not_careful (staged_stagingTree 0o4644) hreplaced (stagingTree_backup _) (by decide)
    ⟨"aaaaaaaa", by decide, by decide⟩ ?_ hcareful
  rw [stock_eq]
  decide +kernel

end Snarkypuss.Dns
