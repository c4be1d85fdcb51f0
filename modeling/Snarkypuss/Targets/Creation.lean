import Snarkypuss.Targets.Lifecycle

/-!
# What a creation leaves behind

The creation of a database or of a backup, each of its calls answered or failing, up to any point
at which the process may stop. The connection creates the file, with the mode that SQLite gives
it and without the schema; the last write completes it, and only then is its mode set.

## Main definitions

* `Reacts`, `Others`, `Answers`: how a call may be answered, and what others may do
* `Opened`, `Committed`, `Secured`: the calls that matter
* `Complete`, `AllOrNothing`, `Blocked`: what a creation may leave
* `Safe`: the runs that leave nothing or everything
* `Stage`: how far a creation has got

## Main results

* `always_initializeDatabase`, `always_backupDatabase`: every point of a run is at some stage
* `blocked_of_ready`: what is there blocks the next creation
* `allOrNothing_iff_safe`: the runs that leave nothing or everything
-/

namespace Snarkypuss.Lifecycle

open Python Program Snarkypuss.SqliteTargetRepository

/-! ## Runs -/

/-- How a call may be answered: as it should be, or by a failure that leaves nothing behind but the
file that a connection has created. -/
inductive Reacts (machine : Machine) :
    (c : lifecycle.Call) → Disk → Except PyException (lifecycle.Reply c) → Disk → Prop
  | answered (c : lifecycle.Call) (s : Disk) :
    Reacts machine c s (host machine c s).1 (host machine c s).2
  | failed (c : lifecycle.Call) (s : Disk) (e : PyException) : Reacts machine c s (.error e) s
  | created (p : PosixPath) (s : Disk) (e : PyException) :
    Reacts machine (.connect p) s (.error e) (host machine (.connect p) s).2

/-- An entry of which at most the catalogues have been replaced. -/
def Revised (before after : Option Entry) : Prop :=
  after = before ∨ ∃ contents attributes catalogues,
    before = some (.file (some contents) attributes) ∧
    after = some (.file (some { contents with catalogues }) attributes)

/-- What others do between two calls: they leave the destination to the creation, and of the
database that is copied they replace catalogues. -/
structure Others (creation : Creation) (s t : Disk) : Prop where
  node : t.nodes creation.destination = s.nodes creation.destination
  pending : t.pending creation.destination = s.pending creation.destination
  source : ∀ destination source, creation = .backup destination source →
    Revised (s.nodes source) (t.nodes source)

theorem Others.refl (creation : Creation) (s : Disk) : Others creation s s :=
  ⟨rfl, rfl, fun _ _ _ => .inl rfl⟩

/-- A call is answered, and others act. -/
def Answers (machine : Machine) (creation : Creation) : Answering lifecycle PyException Disk :=
  fun c s r t => ∃ u, Reacts machine c s r u ∧ Others creation u t

section Events

variable (creation : Creation)

/-- The write that completes the file. -/
def Creation.lastWrite : Creation → lifecycle.Call
  | .database path => .commit path
  | .backup destination source => .backup source destination

/-- `sqlite3.connect` has created the destination. -/
def Opened (o : Occurrence lifecycle PyException Disk) : Prop :=
  o.call = .connect creation.destination ∧ o.before.nodes creation.destination = none ∧
    o.after.nodes creation.destination ≠ none

/-- The file is complete. -/
def Committed (o : Occurrence lifecycle PyException Disk) : Prop :=
  o.call = creation.lastWrite ∧ o.reply.isOk

/-- `os.chmod` has given the destination its mode. -/
def Secured (o : Occurrence lifecycle PyException Disk) : Prop :=
  o.call = .chmod creation.destination databaseMode ∧ o.reply.isOk

end Events

/-- A database file with these contents and this mode. -/
def Holds (p : PosixPath) (contents : Contents) (mode : Fin 4096) (t : Disk) : Prop :=
  ∃ attributes, t.nodes p = some (.file (some contents) attributes) ∧ attributes.mode = mode

/-- The contents that a creation is to write: those of a new database, or those that the source
had at an instant of the run. -/
def Intended : Creation → List (Occurrence lifecycle PyException Disk) → Contents → Prop
  | .database _, _, contents => contents = .initial
  | .backup _ source, os, contents =>
    ∃ o ∈ os, ∃ attributes, o.before.nodes source = some (.file (some contents) attributes)

/-- The destination is a database that the repository accepts, with the contents that were to be
written and with mode 0600. -/
def Complete (creation : Creation) (os : List (Occurrence lifecycle PyException Disk)) (t : Disk) :
    Prop :=
  ∃ contents, Holds creation.destination contents databaseMode t ∧ contents.Accepted ∧
    Intended creation os contents

/-- The destination is as it was before the run, or complete. -/
def AllOrNothing (creation : Creation) (s : Disk) (os : List (Occurrence lifecycle PyException Disk))
    (t : Disk) : Prop :=
  t.nodes creation.destination = s.nodes creation.destination ∨ Complete creation os t

/-- Another try is refused because the destination exists. -/
def Blocked (machine : Machine) (creation : Creation) (t : Disk) : Prop :=
  ∃ message, (creation.program.exec (host machine) t).result =
    .error (.repository creation.existsCode message)

/-- The connection has created no file, or the file was completed where SQLite gives it the mode
0600, or its mode was set. -/
def Safe (machine : Machine) (creation : Creation)
    (os : List (Occurrence lifecycle PyException Disk)) : Prop :=
  (¬ ∃ o ∈ os, Opened creation o) ∨
    ((∃ o ∈ os, Committed creation o) ∧ machine.fileMode = databaseMode) ∨
    ∃ o ∈ os, Secured creation o

/-! ## Calls that leave a path alone -/

/-- The calls that leave a file that is there as it is. -/
def Spares (p : PosixPath) : lifecycle.Call → Prop
  | .chown q _ _ | .chmod q _ | .createTable q _ | .commit q | .backup _ q => q ≠ p
  | _ => True

/-- The calls that leave the contents and the mode of a file that is there. -/
def Keeps (p : PosixPath) : lifecycle.Call → Prop
  | .chmod q _ | .createTable q _ | .commit q | .backup _ q => q ≠ p
  | _ => True

/-- The calls that leave whatever is or is not at a path. -/
def Leaves (p : PosixPath) : lifecycle.Call → Prop
  | .chown q _ _ | .chmod q _ | .createTable q _ | .commit q | .backup _ q => q ≠ p
  | .connect q => q ≠ p
  | .mkdir q _ => ¬ (Files.Tree.Above p q ∧ p.parts ≠ [])
  | _ => True

section Calls

variable {machine : Machine} {creation : Creation} {p q : PosixPath} {c : lifecycle.Call}
  {s t u : Disk} {r : Except PyException (lifecycle.Reply c)}

theorem Disk.put_of_ne (h : p ≠ q) (entry : Entry) : (s.put q entry).nodes p = s.nodes p :=
  Function.update_of_ne h _ _

theorem Disk.put_self (entry : Entry) : (s.put q entry).nodes q = some entry :=
  Function.update_self _ _ _

@[simp] theorem Disk.hold_nodes (q : PosixPath) (version : Option String) :
    (s.hold q version).nodes = s.nodes := rfl

theorem Disk.makeDirectories_of_some (h : (s.nodes p).isSome) :
    (s.makeDirectories q).nodes p = s.nodes p := by
  simp [makeDirectories, Option.isSome_iff_ne_none.mp h]

theorem Disk.makeDirectories_of_not (h : ¬ (Files.Tree.Above p q ∧ p.parts ≠ [])) :
    (s.makeDirectories q).nodes p = s.nodes p := by
  simp only [makeDirectories, h, false_and, if_false]

/-- A statement leaves what its work leaves. -/
theorem onDatabase_nodes {A : Type} {work : Contents → Attributes → Except PyException A × Disk}
    (h : ∀ contents attributes, (work contents attributes).2.nodes p = s.nodes p) :
    (onDatabase s q work).2.nodes p = s.nodes p := by
  unfold onDatabase
  split
  · exact h _ _
  · rfl
  · rfl

theorem changeAttributes_of_ne (h : p ≠ q) (f : Attributes → Attributes) :
    (changeAttributes s q f).2.nodes p = s.nodes p := by
  unfold changeAttributes
  split
  · exact Disk.put_of_ne h _
  · rfl
  · rfl

theorem host_connect_of_ne (h : p ≠ q) :
    (host machine (.connect q) s).2.nodes p = s.nodes p := by
  simp only [host]
  split
  · rfl
  · split
    · exact Disk.put_of_ne h _
    · rfl
  · rfl

theorem host_connect_of_some (h : (s.nodes p).isSome) :
    (host machine (.connect q) s).2.nodes p = s.nodes p := by
  by_cases hq : p = q
  · subst hq
    simp only [host]
    split
    · rfl
    · rename_i hnone
      rw [hnone] at h
      cases h
    · rfl
  · exact host_connect_of_ne hq

/-- The calls but those that create, change or write: none of these is on the path. -/
theorem host_leaves_or (hleaves : Leaves p c ∨ Spares p c ∧ (s.nodes p).isSome) :
    (host machine c s).2.nodes p = s.nodes p := by
  cases c with
  | connect q =>
    rcases hleaves with hne | ⟨-, hsome⟩
    · exact host_connect_of_ne (Ne.symm hne)
    · exact host_connect_of_some hsome
  | mkdir q mode =>
    simp only [host]
    split
    · rcases hleaves with hnot | ⟨-, hsome⟩
      · exact Disk.makeDirectories_of_not hnot
      · exact Disk.makeDirectories_of_some hsome
    · rfl
  | isSymlink q => simp only [host]; split <;> rfl
  | chown q uid gid => exact changeAttributes_of_ne (Ne.symm (hleaves.elim id (·.1))) _
  | chmod q mode => exact changeAttributes_of_ne (Ne.symm (hleaves.elim id (·.1))) _
  | createTable q table =>
    refine onDatabase_nodes fun contents attributes => ?_
    split
    · rfl
    · exact Disk.put_of_ne (Ne.symm (hleaves.elim id (·.1))) _
  | insertVersion q version =>
    refine onDatabase_nodes fun contents attributes => ?_
    split
    · rfl
    · split <;> rfl
  | commit q =>
    refine onDatabase_nodes fun contents attributes => ?_
    split
    · exact Disk.put_of_ne (Ne.symm (hleaves.elim id (·.1))) _
    · rfl
  | selectVersion q =>
    refine onDatabase_nodes fun contents attributes => ?_
    split <;> rfl
  | integrityCheck q => exact onDatabase_nodes fun _ _ => rfl
  | backup source q =>
    refine onDatabase_nodes fun contents attributes => onDatabase_nodes fun _ _ => ?_
    exact Disk.put_of_ne (Ne.symm (hleaves.elim id (·.1))) _
  | geteuid | «exists» q | lstat q | pragma q statement | rollback q | close q => rfl

/-- A reaction leaves what the answer or nothing would leave. -/
theorem reacts_cases {P : Disk → Prop} (h : Reacts machine c s r u) (hs : P s)
    (hhost : P (host machine c s).2) : P u := by
  cases h with
  | answered => exact hhost
  | failed => exact hs
  | created => exact hhost

theorem answers_leaves (h : Answers machine creation c s r t)
    (hleaves : Leaves creation.destination c ∨
      Spares creation.destination c ∧ (s.nodes creation.destination).isSome) :
    t.nodes creation.destination = s.nodes creation.destination := by
  obtain ⟨u, hu, hothers⟩ := h
  rw [hothers.node]
  exact reacts_cases (P := fun u => u.nodes creation.destination = s.nodes creation.destination) hu
    rfl (host_leaves_or hleaves)

/-- A call that spares the source leaves at most its catalogues to others. -/
theorem answers_spares {destination source : PosixPath}
    (h : Answers machine (.backup destination source) c s r t) (hspares : Spares source c)
    (hsome : (s.nodes source).isSome) : Revised (s.nodes source) (t.nodes source) := by
  obtain ⟨u, hu, hothers⟩ := h
  have hu' : u.nodes source = s.nodes source :=
    reacts_cases (P := fun u => u.nodes source = s.nodes source) hu rfl
      (host_leaves_or (.inr ⟨hspares, hsome⟩))
  rw [← hu']
  exact hothers.source destination source rfl

/-- A call that keeps a file keeps its contents and its mode. -/
theorem host_keeps {contents : Contents} {mode : Fin 4096} (hkeeps : Keeps p c)
    (h : Holds p contents mode s) : Holds p contents mode (host machine c s).2 := by
  have hsome : (s.nodes p).isSome := by
    obtain ⟨attributes, hnode, -⟩ := h
    rw [hnode]
    rfl
  by_cases hspares : Spares p c
  · unfold Holds
    rw [host_leaves_or (.inr ⟨hspares, hsome⟩)]
    exact h
  · -- of the calls that keep the file, only a change of its owner does not spare it
    cases c with
    | chown q uid gid =>
      obtain rfl : q = p := not_not.mp hspares
      obtain ⟨attributes, hnode, hmode⟩ := h
      refine ⟨{ attributes with uid, gid }, ?_, hmode⟩
      simp only [host, changeAttributes, hnode]
      exact Disk.put_self _
    | chmod | createTable | commit | backup => exact absurd hkeeps hspares
    | _ => exact absurd trivial hspares

theorem answers_keeps {contents : Contents} {mode : Fin 4096}
    (h : Answers machine creation c s r t) (hkeeps : Keeps creation.destination c)
    (hs : Holds creation.destination contents mode s) :
    Holds creation.destination contents mode t := by
  obtain ⟨u, hu, hothers⟩ := h
  unfold Holds
  rw [hothers.node]
  exact reacts_cases (P := Holds creation.destination contents mode) hu hs (host_keeps hkeeps hs)

end Calls

/-! ## Stages -/

section Stages

variable (machine : Machine) (creation : Creation) (s₀ : Disk)

/-- Which of the three events have happened. -/
structure Log (os : List (Occurrence lifecycle PyException Disk))
    (opened committed secured : Prop) : Prop where
  opened : (∃ o ∈ os, Opened creation o) ↔ opened
  committed : (∃ o ∈ os, Committed creation o) ↔ committed
  secured : (∃ o ∈ os, Secured creation o) ↔ secured

/-- Nothing has happened to the destination. -/
structure Untouched (os : List (Occurrence lifecycle PyException Disk)) (t : Disk) : Prop where
  log : Log creation os False False False
  node : t.nodes creation.destination = s₀.nodes creation.destination

/-- The database at a path is safe and passes the check of a condition. -/
def Checked (path : PosixPath) (P : Option Contents → Prop) (t : Disk) : Prop :=
  ∃ contents attributes, t.nodes path = some (.file contents attributes) ∧ P contents ∧
    checkStatus path (some (.regular attributes)) = .ok ()

/-- The contents of a database that is accepted. -/
def IsAccepted (contents : Option Contents) : Prop := ∃ c, contents = some c ∧ c.Accepted

/-- The one who creates may, and the database that is copied is accepted. -/
def Ready : Creation → Disk → Prop
  | .database path, _ => IsProduction path → machine.uid = 0
  | .backup _ source, t => (IsProduction source → machine.uid = 0) ∧
    Checked source IsAccepted t

/-- The connection has created the file, which now has these contents and this mode. -/
structure Made (committed secured : Prop) (mode : Fin 4096) (contents : Contents)
    (os : List (Occurrence lifecycle PyException Disk)) (t : Disk) : Prop where
  log : Log creation os True committed secured
  start : s₀.nodes creation.destination = none
  apart : ∀ destination source, creation = .backup destination source → destination ≠ source
  node : Holds creation.destination contents mode t
  ready : Ready machine creation t

/-- The file is there without the schema's version. -/
def Begun (os : List (Occurrence lifecycle PyException Disk)) (t : Disk) : Prop :=
  ∃ contents, Made machine creation s₀ False False machine.fileMode contents os t ∧
    contents.version = none

/-- The file is complete, with the mode that SQLite gives it. -/
def Written (os : List (Occurrence lifecycle PyException Disk)) (t : Disk) : Prop :=
  ∃ contents, Made machine creation s₀ True False machine.fileMode contents os t ∧
    contents.Accepted ∧ Intended creation os contents

/-- The file is complete, with mode 0600. -/
def Finished (os : List (Occurrence lifecycle PyException Disk)) (t : Disk) : Prop :=
  ∃ contents, Made machine creation s₀ True True databaseMode contents os t ∧
    contents.Accepted ∧ Intended creation os contents

/-- How far a creation has got. -/
def Stage (os : List (Occurrence lifecycle PyException Disk)) (t : Disk) : Prop :=
  Untouched creation s₀ os t ∨ Begun machine creation s₀ os t ∨
    Written machine creation s₀ os t ∨ Finished machine creation s₀ os t

end Stages

section Steps

variable {machine : Machine} {creation : Creation} {s₀ : Disk} {c : lifecycle.Call}
  {s t : Disk} {r : Except PyException (lifecycle.Reply c)} {mode : Fin 4096}
  {contents : Contents} {committed secured opened : Prop}
  {os : List (Occurrence lifecycle PyException Disk)}

theorem exists_mem_append_singleton {A : Type} {P : A → Prop} {as : List A} {a : A} :
    (∃ x ∈ as ++ [a], P x) ↔ (∃ x ∈ as, P x) ∨ P a := by
  constructor
  · rintro ⟨x, hx, hP⟩
    rcases List.mem_append.mp hx with hx | hx
    · exact .inl ⟨x, hx, hP⟩
    · obtain rfl := List.mem_singleton.mp hx
      exact .inr hP
  · rintro (⟨x, hx, hP⟩ | hP)
    · exact ⟨x, List.mem_append_left _ hx, hP⟩
    · exact ⟨a, List.mem_append_right _ List.mem_cons_self, hP⟩

/-- One more call, and what it is. -/
theorem Log.append {opened' committed' secured' : Prop} (h : Log creation os opened committed secured)
    {o : Occurrence lifecycle PyException Disk} (hopened : opened ∨ Opened creation o ↔ opened')
    (hcommitted : committed ∨ Committed creation o ↔ committed')
    (hsecured : secured ∨ Secured creation o ↔ secured') :
    Log creation (os ++ [o]) opened' committed' secured' where
  opened := by rw [exists_mem_append_singleton, h.opened, hopened]
  committed := by rw [exists_mem_append_singleton, h.committed, hcommitted]
  secured := by rw [exists_mem_append_singleton, h.secured, hsecured]

theorem Intended.append (h : Intended creation os contents)
    (o : Occurrence lifecycle PyException Disk) : Intended creation (os ++ [o]) contents := by
  cases creation with
  | database path => exact h
  | backup destination source =>
    obtain ⟨o', ho', hsource⟩ := h
    exact ⟨o', List.mem_append_left _ ho', hsource⟩

/-- A call that keeps the destination is neither the last write nor the change of its mode. -/
theorem Keeps.not_committed (h : Keeps creation.destination c) :
    ¬ Committed creation ⟨c, s, r, t⟩ := by
  rintro ⟨hcall, -⟩
  have hcall : c = creation.lastWrite := hcall
  subst hcall
  cases creation <;> exact h rfl

theorem Keeps.not_secured (h : Keeps creation.destination c) : ¬ Secured creation ⟨c, s, r, t⟩ := by
  rintro ⟨hcall, -⟩
  have hcall : c = .chmod creation.destination databaseMode := hcall
  subst hcall
  exact h rfl

theorem Spares.keeps {p : PosixPath} (h : Spares p c) : Keeps p c := by
  cases c <;> first | exact h | trivial

theorem Leaves.keeps {p : PosixPath} (h : Leaves p c) : Keeps p c := by
  cases c <;> first | exact h | trivial

theorem not_opened_of_some (h : (s.nodes creation.destination).isSome) :
    ¬ Opened creation ⟨c, s, r, t⟩ := by
  rintro ⟨-, hnone, -⟩
  have hnone : s.nodes creation.destination = none := hnone
  rw [hnone] at h
  cases h

theorem not_opened_of_unchanged
    (h : t.nodes creation.destination = s.nodes creation.destination) :
    ¬ Opened creation ⟨c, s, r, t⟩ := by
  rintro ⟨-, hnone, hsome⟩
  exact hsome (h.trans hnone)

theorem Holds.isSome {p : PosixPath} (h : Holds p contents mode s) : (s.nodes p).isSome := by
  obtain ⟨attributes, hnode, -⟩ := h
  rw [hnode]
  rfl

/-- **The step of a call that leaves the destination.** -/
theorem Untouched.step (h : Untouched creation s₀ os s) (hc : Answers machine creation c s r t)
    (hleaves : Leaves creation.destination c ∨
      Spares creation.destination c ∧ (s.nodes creation.destination).isSome) :
    Untouched creation s₀ (os ++ [⟨c, s, r, t⟩]) t := by
  have hsame := answers_leaves hc hleaves
  have hkeeps : Keeps creation.destination c := hleaves.elim Leaves.keeps fun h => h.1.keeps
  refine ⟨h.log.append ?_ ?_ ?_, hsame.trans h.node⟩
  · simpa using not_opened_of_unchanged hsame
  · simpa using hkeeps.not_committed
  · simpa using hkeeps.not_secured

/-- What is checked stays checked when only catalogues are replaced. -/
theorem Checked.revised {path : PosixPath} {P : Option Contents → Prop} (h : Checked path P s)
    (hP : ∀ contents catalogues, P (some contents) → P (some { contents with catalogues }))
    (hr : Revised (s.nodes path) (t.nodes path)) : Checked path P t := by
  obtain ⟨contents, attributes, hnode, hcontents, hstatus⟩ := h
  rcases hr with hsame | ⟨before, attributes', catalogues, hbefore, hafter⟩
  · exact ⟨contents, attributes, hsame.trans hnode, hcontents, hstatus⟩
  · rw [hnode] at hbefore
    cases hbefore
    exact ⟨_, attributes, hafter, hP _ _ hcontents, hstatus⟩

theorem Checked.isSome {path : PosixPath} {P : Option Contents → Prop} (h : Checked path P s) :
    (s.nodes path).isSome := by
  obtain ⟨contents, attributes, hnode, -⟩ := h
  rw [hnode]
  rfl

theorem IsAccepted.revised (contents : Contents) (catalogues : Database)
    (h : IsAccepted (some contents)) : IsAccepted (some { contents with catalogues }) := by
  obtain ⟨c, hc, haccepted⟩ := h
  obtain rfl : contents = c := Option.some.inj hc
  exact ⟨_, rfl, haccepted⟩

/-- The source of a backup is spared. -/
def SparesSource (creation : Creation) (c : lifecycle.Call) : Prop :=
  ∀ destination source, creation = .backup destination source → Spares source c

theorem Ready.step (h : Ready machine creation s) (hc : Answers machine creation c s r t)
    (hspares : SparesSource creation c) : Ready machine creation t := by
  cases creation with
  | database path => exact h
  | backup destination source =>
    exact ⟨h.1, h.2.revised IsAccepted.revised
      (answers_spares hc (hspares _ _ rfl) h.2.isSome)⟩

/-- **The step of a call that keeps the file.** -/
theorem Made.step (h : Made machine creation s₀ committed secured mode contents os s)
    (hc : Answers machine creation c s r t) (hkeeps : Keeps creation.destination c)
    (hspares : SparesSource creation c) :
    Made machine creation s₀ committed secured mode contents (os ++ [⟨c, s, r, t⟩]) t := by
  refine ⟨h.log.append ?_ ?_ ?_, h.start, h.apart, answers_keeps hc hkeeps h.node, h.ready.step hc hspares⟩
  · simp
  · simpa using fun hcommitted => absurd hcommitted hkeeps.not_committed
  · simpa using fun hsecured => absurd hsecured hkeeps.not_secured

/-- The calls that leave a stage as it is. -/
def Idle (creation : Creation) (c : lifecycle.Call) : Prop :=
  Keeps creation.destination c ∧ SparesSource creation c

theorem Begun.step (h : Begun machine creation s₀ os s) (hc : Answers machine creation c s r t)
    (hidle : Idle creation c) : Begun machine creation s₀ (os ++ [⟨c, s, r, t⟩]) t := by
  obtain ⟨contents, hmade, hversion⟩ := h
  exact ⟨contents, hmade.step hc hidle.1 hidle.2, hversion⟩

theorem Written.step (h : Written machine creation s₀ os s) (hc : Answers machine creation c s r t)
    (hidle : Idle creation c) : Written machine creation s₀ (os ++ [⟨c, s, r, t⟩]) t := by
  obtain ⟨contents, hmade, haccepted, hintended⟩ := h
  exact ⟨contents, hmade.step hc hidle.1 hidle.2, haccepted, hintended.append _⟩

theorem Finished.step (h : Finished machine creation s₀ os s)
    (hc : Answers machine creation c s r t) (hidle : Idle creation c) :
    Finished machine creation s₀ (os ++ [⟨c, s, r, t⟩]) t := by
  obtain ⟨contents, hmade, haccepted, hintended⟩ := h
  exact ⟨contents, hmade.step hc hidle.1 hidle.2, haccepted, hintended.append _⟩

theorem Untouched.stage (h : Untouched creation s₀ os s) : Stage machine creation s₀ os s := .inl h

theorem Begun.stage (h : Begun machine creation s₀ os s) : Stage machine creation s₀ os s :=
  .inr (.inl h)

theorem Written.stage (h : Written machine creation s₀ os s) : Stage machine creation s₀ os s :=
  .inr (.inr (.inl h))

theorem Finished.stage (h : Finished machine creation s₀ os s) : Stage machine creation s₀ os s :=
  .inr (.inr (.inr h))

/-! ### Events -/

/-- One condition where a result is a value, another where it is an exception. -/
def Ends {A : Type} (P Q : Prop) : Except PyException A → Prop
  | .ok _ => P
  | .error _ => Q

/-- What a reaction is: the answer, a failure that leaves nothing, or one that leaves what the
connection does. -/
theorem reacts_inv {u : Disk} (h : Reacts machine c s r u) :
    host machine c s = (r, u) ∨ (∃ e, r = .error e) ∧ (u = s ∨ u = (host machine c s).2) := by
  cases h with
  | answered => exact .inl rfl
  | failed c s e => exact .inr ⟨⟨e, rfl⟩, .inl rfl⟩
  | created p s e => exact .inr ⟨⟨e, rfl⟩, .inr rfl⟩

/-- A call other than a connection is answered as it should be, or fails and leaves nothing. -/
theorem reacts_inv_of_ne_connect {u : Disk} (h : Reacts machine c s r u)
    (hc : ∀ p, c ≠ .connect p) : host machine c s = (r, u) ∨ (∃ e, r = .error e) ∧ u = s := by
  cases h with
  | answered => exact .inl rfl
  | failed c s e => exact .inr ⟨⟨e, rfl⟩, rfl⟩
  | created p s e => exact absurd rfl (hc p)

theorem Holds.others {u : Disk} (h : Holds creation.destination contents mode u)
    (hothers : Others creation u t) : Holds creation.destination contents mode t := by
  unfold Holds
  rw [hothers.node]
  exact h

/-- The file that the connection creates. -/
theorem Untouched.created (h : Untouched creation s₀ os s) (hready : Ready machine creation s)
    (hapart : ∀ destination source, creation = .backup destination source → destination ≠ source)
    (hnone : s.nodes creation.destination = none)
    {r : Except PyException (lifecycle.Reply (.connect creation.destination))}
    (hc : Answers machine creation (.connect creation.destination) s r t)
    (hcreated : Holds creation.destination .blank machine.fileMode t) :
    Made machine creation s₀ False False machine.fileMode .blank
      (os ++ [⟨.connect creation.destination, s, r, t⟩]) t := by
  have hkeeps : Keeps creation.destination (.connect creation.destination) := trivial
  refine ⟨h.log.append ?_ ?_ ?_, h.node.symm.trans hnone, hapart, hcreated,
    hready.step hc fun _ _ _ => trivial⟩
  · have hopened : Opened creation ⟨.connect creation.destination, s, r, t⟩ :=
      ⟨rfl, hnone, Option.isSome_iff_ne_none.mp hcreated.isSome⟩
    simpa using hopened
  · simpa using hkeeps.not_committed
  · simpa using hkeeps.not_secured

theorem Made.begun_of_blank
    (h : Made machine creation s₀ False False machine.fileMode .blank os s) :
    Begun machine creation s₀ os s := ⟨.blank, h, rfl⟩

/-- **The connection**: it creates the file, or it fails and has created it or not. -/
theorem Untouched.connect (h : Untouched creation s₀ os s) (hready : Ready machine creation s)
    (hapart : ∀ destination source, creation = .backup destination source → destination ≠ source)
    (hnone : s.nodes creation.destination = none)
    {r : Except PyException (lifecycle.Reply (.connect creation.destination))}
    (hc : Answers machine creation (.connect creation.destination) s r t) :
    Ends (Made machine creation s₀ False False machine.fileMode .blank
        (os ++ [⟨.connect creation.destination, s, r, t⟩]) t)
      (Stage machine creation s₀ (os ++ [⟨.connect creation.destination, s, r, t⟩]) t) r := by
  have hmade := h.created hready hapart hnone hc
  -- where nothing is created, the destination is as it was
  have huntouched : t.nodes creation.destination = s.nodes creation.destination →
      Stage machine creation s₀ (os ++ [⟨.connect creation.destination, s, r, t⟩]) t := by
    intro hsame
    have hkeeps : Keeps creation.destination (.connect creation.destination) := trivial
    refine .inl ⟨h.log.append ?_ ?_ ?_, hsame.trans h.node⟩
    · simpa using not_opened_of_unchanged hsame
    · simpa using hkeeps.not_committed
    · simpa using hkeeps.not_secured
  obtain ⟨u, hu, hothers⟩ := hc
  by_cases hdirectory : s.isDirectory creation.destination.parent
  · have hhost : host machine (.connect creation.destination) s = (.ok (),
        (s.put creation.destination
          (.file (some .blank) ⟨machine.fileMode, machine.uid, machine.gid⟩)).hold
            creation.destination none) := by
      simp [host, hnone, hdirectory]
    have hcreated : u = (host machine (.connect creation.destination) s).2 →
        Holds creation.destination .blank machine.fileMode t := by
      rintro rfl
      refine Holds.others ?_ hothers
      rw [hhost]
      exact ⟨⟨machine.fileMode, machine.uid, machine.gid⟩, Disk.put_self _, rfl⟩
    rcases reacts_inv hu with hanswer | ⟨⟨e, rfl⟩, rfl | hfile⟩
    · obtain ⟨rfl, -⟩ := Prod.mk.inj (hhost.symm.trans hanswer)
      exact hmade (hcreated (by rw [hanswer]))
    · exact huntouched hothers.node
    · exact (hmade (hcreated hfile)).begun_of_blank.stage
  · have hhost : host machine (.connect creation.destination) s =
        (.error (.sqlite "unable to open database file"), s) := by
      simp [host, hnone, hdirectory]
    have hsame : u = s := by
      rcases reacts_inv hu with hanswer | ⟨-, rfl | rfl⟩
      · exact (Prod.mk.inj (hanswer.symm.trans hhost)).2
      · rfl
      · rw [hhost]
    subst hsame
    cases r with
    | ok a =>
      rcases reacts_inv hu with hanswer | ⟨⟨e, he⟩, -⟩
      · cases hanswer.symm.trans hhost
      · cases he
    | error e => exact huntouched hothers.node

/-- **A table** is created, or the file is left. -/
theorem Made.createTable {path : PosixPath} {table : Table}
    {r : Except PyException (lifecycle.Reply (.createTable path table))}
    (h : Made machine (.database path) s₀ False False mode contents os s)
    (hc : Answers machine (.database path) (.createTable path table) s r t) :
    Ends (Made machine (.database path) s₀ False False mode
        { contents with tables := contents.tables ++ [table] }
        (os ++ [⟨.createTable path table, s, r, t⟩]) t)
      (Made machine (.database path) s₀ False False mode contents
        (os ++ [⟨.createTable path table, s, r, t⟩]) t) r := by
  have hmade : ∀ contents', Holds path contents' mode t →
      Made machine (.database path) s₀ False False mode contents'
        (os ++ [⟨.createTable path table, s, r, t⟩]) t := by
    intro contents' hnode
    refine ⟨h.log.append ?_ ?_ ?_, h.start, h.apart, hnode, h.ready⟩
    · simp
    · simpa using fun hcommitted : Committed _ _ => nomatch hcommitted.1
    · simpa using fun hsecured : Secured _ _ => nomatch hsecured.1
  obtain ⟨u, hu, hothers⟩ := hc
  have hs := h.node
  obtain ⟨attributes, hnode, hmode⟩ := hs
  have hnode : s.nodes path = some (.file (some contents) attributes) := hnode
  rcases reacts_inv_of_ne_connect hu nofun with hanswer | ⟨⟨e, rfl⟩, rfl⟩
  · by_cases htable : table ∈ contents.tables
    · have hhost : host machine (.createTable path table) s =
          (.error (.sqlite "table already exists"), s) := by
        simp [host, onDatabase, hnode, htable]
      obtain ⟨rfl, rfl⟩ := Prod.mk.inj (hhost.symm.trans hanswer)
      exact hmade _ (h.node.others hothers)
    · have hhost : host machine (.createTable path table) s = (.ok (), s.put path
          (.file (some { contents with tables := contents.tables ++ [table] }) attributes)) := by
        simp [host, onDatabase, hnode, htable]
      obtain ⟨rfl, rfl⟩ := Prod.mk.inj (hhost.symm.trans hanswer)
      have hput : Holds (Creation.database path).destination
          { contents with tables := contents.tables ++ [table] } mode
          (s.put path (.file (some { contents with tables := contents.tables ++ [table] })
            attributes)) := ⟨attributes, Disk.put_self _, hmode⟩
      exact hmade _ (hput.others hothers)
  · exact hmade _ (h.node.others hothers)

/-- **The version** is inserted, which leaves the file, or nothing is. -/
theorem Made.insertVersion {path : PosixPath}
    {r : Except PyException (lifecycle.Reply (.insertVersion path schemaVersion))}
    (h : Made machine (.database path) s₀ False False mode contents os s)
    (hc : Answers machine (.database path) (.insertVersion path schemaVersion) s r t) :
    Made machine (.database path) s₀ False False mode contents
        (os ++ [⟨.insertVersion path schemaVersion, s, r, t⟩]) t ∧
      (r.isOk → t.pending path = some schemaVersion) := by
  refine ⟨h.step hc trivial nofun, fun hok => ?_⟩
  obtain ⟨u, hu, hothers⟩ := hc
  have hpending : t.pending path = u.pending path := hothers.pending
  rw [hpending]
  obtain ⟨attributes, hnode, -⟩ := h.node
  have hnode : s.nodes path = some (.file (some contents) attributes) := hnode
  rcases reacts_inv_of_ne_connect hu nofun with hanswer | ⟨⟨e, rfl⟩, -⟩
  · simp only [host, onDatabase, hnode] at hanswer
    split at hanswer
    · cases hanswer
      cases hok
    · split at hanswer
      · cases hanswer
        cases hok
      · cases hanswer
        exact Function.update_self _ _ _
  · cases hok

/-- **The commit** gives the file its version, or leaves the file. -/
theorem Made.commit {path : PosixPath} {version : String}
    {r : Except PyException (lifecycle.Reply (.commit path))}
    (h : Made machine (.database path) s₀ False False mode contents os s)
    (hversion : s.pending path = some version)
    (hc : Answers machine (.database path) (.commit path) s r t) :
    Ends (Made machine (.database path) s₀ True False mode
        { contents with version := some version } (os ++ [⟨.commit path, s, r, t⟩]) t)
      (Made machine (.database path) s₀ False False mode contents
        (os ++ [⟨.commit path, s, r, t⟩]) t) r := by
  have hlog : Log (.database path) (os ++ [⟨.commit path, s, r, t⟩]) True r.isOk False := by
    refine h.log.append ?_ ?_ ?_
    · simp
    · simp [Committed, Creation.lastWrite]
    · simpa using fun hsecured : Secured _ _ => nomatch hsecured.1
  obtain ⟨u, hu, hothers⟩ := hc
  obtain ⟨attributes, hnode, hmode⟩ := h.node
  have hnode : s.nodes path = some (.file (some contents) attributes) := hnode
  rcases reacts_inv_of_ne_connect hu nofun with hanswer | ⟨⟨e, rfl⟩, rfl⟩
  · simp only [host, onDatabase, hnode, hversion] at hanswer
    cases hanswer
    refine ⟨by simpa [Except.isOk, Except.toBool] using hlog, h.start, h.apart, ?_, h.ready⟩
    refine Holds.others ?_ hothers
    exact ⟨attributes, Disk.put_self _, hmode⟩
  · exact ⟨by simpa [Except.isOk, Except.toBool] using hlog, h.start, h.apart,
      h.node.others hothers, h.ready⟩

/-- **The copy** gives the file the contents of the source, or leaves the file. -/
theorem Made.copy {destination source : PosixPath}
    {r : Except PyException (lifecycle.Reply (.backup source destination))}
    (h : Made machine (.backup destination source) s₀ False False mode contents os s)
    (hc : Answers machine (.backup destination source) (.backup source destination) s r t) :
    Ends (∃ copied, Made machine (.backup destination source) s₀ True False mode copied
          (os ++ [⟨.backup source destination, s, r, t⟩]) t ∧ copied.Accepted ∧
        Intended (.backup destination source)
          (os ++ [⟨.backup source destination, s, r, t⟩]) copied)
      (Made machine (.backup destination source) s₀ False False mode contents
        (os ++ [⟨.backup source destination, s, r, t⟩]) t) r := by
  have hapart : destination ≠ source := h.apart _ _ rfl
  have hready : Ready machine (.backup destination source) t := by
    refine h.ready.step hc fun destination' source' heq => ?_
    cases heq
    exact hapart
  have hlog : Log (.backup destination source)
      (os ++ [⟨.backup source destination, s, r, t⟩]) True r.isOk False := by
    refine h.log.append ?_ ?_ ?_
    · simp
    · simp [Committed, Creation.lastWrite]
    · simpa using fun hsecured : Secured _ _ => nomatch hsecured.1
  obtain ⟨u, hu, hothers⟩ := hc
  obtain ⟨attributes, hnode, hmode⟩ := h.node
  have hnode : s.nodes destination = some (.file (some contents) attributes) := hnode
  obtain ⟨-, _, attributes', hsource, ⟨copied, rfl, haccepted⟩, -⟩ := h.ready
  rcases reacts_inv_of_ne_connect hu nofun with hanswer | ⟨⟨e, rfl⟩, rfl⟩
  · simp only [host, onDatabase, hnode, hsource] at hanswer
    cases hanswer
    refine ⟨copied, ⟨by simpa [Except.isOk, Except.toBool] using hlog, h.start, h.apart, ?_,
      hready⟩, haccepted, ?_⟩
    · refine Holds.others ?_ hothers
      exact ⟨attributes, Disk.put_self _, hmode⟩
    · exact ⟨_, List.mem_append_right _ List.mem_cons_self, attributes', hsource⟩
  · exact ⟨by simpa [Except.isOk, Except.toBool] using hlog, h.start, h.apart,
      h.node.others hothers, hready⟩

/-- **The change of the mode** finishes what is written, or leaves it. -/
theorem Written.secure {r : Except PyException (lifecycle.Reply
      (.chmod creation.destination databaseMode))}
    (h : Written machine creation s₀ os s)
    (hc : Answers machine creation (.chmod creation.destination databaseMode) s r t) :
    Ends (Finished machine creation s₀
        (os ++ [⟨.chmod creation.destination databaseMode, s, r, t⟩]) t)
      (Written machine creation s₀
        (os ++ [⟨.chmod creation.destination databaseMode, s, r, t⟩]) t) r := by
  obtain ⟨contents, hmade, haccepted, hintended⟩ := h
  have hready : Ready machine creation t := by
    refine hmade.ready.step hc fun destination source heq => ?_
    have hapart := hmade.apart destination source heq
    subst heq
    exact hapart
  have hlog : Log creation (os ++ [⟨.chmod creation.destination databaseMode, s, r, t⟩]) True True
      r.isOk := by
    refine hmade.log.append ?_ ?_ ?_
    · simp
    · simp
    · simp [Secured]
  obtain ⟨u, hu, hothers⟩ := hc
  obtain ⟨attributes, hnode, hmode⟩ := hmade.node
  rcases reacts_inv_of_ne_connect hu nofun with hanswer | ⟨⟨e, rfl⟩, rfl⟩
  · simp only [host, changeAttributes, hnode] at hanswer
    cases hanswer
    refine ⟨contents, ⟨by simpa [Except.isOk, Except.toBool] using hlog, hmade.start, hmade.apart,
      ?_, hready⟩, haccepted, hintended.append _⟩
    refine Holds.others ?_ hothers
    exact ⟨{ attributes with mode := databaseMode }, Disk.put_self _, rfl⟩
  · exact ⟨contents, ⟨by simpa [Except.isOk, Except.toBool] using hlog, hmade.start, hmade.apart,
      hmade.node.others hothers, hready⟩, haccepted, hintended.append _⟩

end Steps

/-! ## The creation of a database -/

section Walks

variable (machine : Machine) (creation : Creation) (s₀ : Disk)

/-- Every point of a run of the program is at some stage, and every end meets the condition. -/
abbrev Walks {A : Type} (p : Action A)
    (Q : Except PyException A → List (Occurrence lifecycle PyException Disk) → Disk → Prop)
    (os : List (Occurrence lifecycle PyException Disk)) (s : Disk) : Prop :=
  p.Always (Answers machine creation) (Stage machine creation s₀) Q os s

/-- Root is required, and nothing happens to the destination. -/
theorem walks_requireRoot {machine : Machine} {creation : Creation} {s₀ s : Disk}
    {os : List (Occurrence lifecycle PyException Disk)} (path : PosixPath)
    (h : Untouched creation s₀ os s) :
    Walks machine creation s₀ (requireRoot path) (fun r os t => Untouched creation s₀ os t ∧
      (r = .ok () → IsProduction path → machine.uid = 0)) os s := by
  unfold requireRoot whenProduction
  split
  · refine always_call_bind h.stage (fun uid t ht => ?_) fun e t ht =>
      ⟨(h.step ht (.inl trivial)).stage, h.step ht (.inl trivial), nofun⟩
    have hnext := h.step ht (.inl trivial)
    have huid : machine.uid = uid := by
      obtain ⟨u, hu, -⟩ := ht
      rcases reacts_inv_of_ne_connect hu nofun with hanswer | ⟨⟨e, he⟩, -⟩
      · exact Except.ok.inj (Prod.mk.inj hanswer).1
      · cases he
    subst huid
    by_cases hroot : machine.uid = 0
    · rw [if_pos hroot]
      exact always_done hnext.stage ⟨hnext, fun _ _ => hroot⟩
    · rw [if_neg hroot]
      exact always_done hnext.stage ⟨hnext, nofun⟩
  · exact always_done h.stage ⟨h, fun _ hp => absurd hp ‹_›⟩

end Walks

section Database

variable {machine : Machine} {path : PosixPath} {s₀ s : Disk} {contents : Contents}
  {os : List (Occurrence lifecycle PyException Disk)}

/-- On a database that is created, a call is idle when it keeps the file. -/
theorem idle_database {c : lifecycle.Call} (h : Keeps path c) : Idle (.database path) c :=
  ⟨h, nofun⟩

/-- The statements that create tables. -/
theorem walks_createTables (tables : List Table)
    (h : Made machine (.database path) s₀ False False machine.fileMode contents os s)
    (hversion : contents.version = none) :
    Walks machine (.database path) s₀ (createTables path tables)
      (fun r os t => Ends (Made machine (.database path) s₀ False False machine.fileMode
        { contents with tables := contents.tables ++ tables } os t)
          (Begun machine (.database path) s₀ os t) r) os s := by
  induction tables generalizing contents os s with
  | nil =>
    refine always_done (Begun.stage ⟨contents, h, hversion⟩) ?_
    simpa [Ends] using h
  | cons table tables ih =>
    refine always_call_bind (Begun.stage ⟨contents, h, hversion⟩) ?_ ?_
    · intro a t ht
      have hmade := h.createTable ht
      have hrest := ih hmade hversion
      rwa [List.append_assoc] at hrest
    · intro e t ht
      have hbegun : Begun machine (.database path) s₀ _ t := ⟨contents, h.createTable ht, hversion⟩
      exact ⟨hbegun.stage, hbegun⟩

/-- The body of the `try` statement: it completes the file, or leaves it begun. -/
theorem walks_createSchema
    (h : Made machine (.database path) s₀ False False machine.fileMode .blank os s) :
    Walks machine (.database path) s₀ (createSchema path)
      (fun r os t => Ends (Written machine (.database path) s₀ os t)
        (Begun machine (.database path) s₀ os t) r) os s := by
  have hpragma : ∀ {statement : String} {os s r t},
      Made machine (.database path) s₀ False False machine.fileMode .blank os s →
      Answers machine (.database path) (.pragma path statement) s r t →
      Made machine (.database path) s₀ False False machine.fileMode .blank
        (os ++ [⟨.pragma path statement, s, r, t⟩]) t :=
    fun h hc => h.step hc trivial nofun
  refine always_call_bind h.begun_of_blank.stage (fun _ t₁ h₁ => ?_) fun e t₁ h₁ =>
    ⟨(hpragma h h₁).begun_of_blank.stage, (hpragma h h₁).begun_of_blank⟩
  have hmade₁ := hpragma h h₁
  refine always_call_bind hmade₁.begun_of_blank.stage (fun _ t₂ h₂ => ?_) fun e t₂ h₂ =>
    ⟨(hpragma hmade₁ h₂).begun_of_blank.stage, (hpragma hmade₁ h₂).begun_of_blank⟩
  refine (walks_createTables schema (hpragma hmade₁ h₂) rfl).bind (fun _ os₃ t₃ _ hmade₃ => ?_)
    fun e os t _ hbegun => hbegun
  have hmade₃ : Made machine (.database path) s₀ False False machine.fileMode
    ⟨schema, none, .empty⟩ os₃ t₃ := hmade₃
  refine always_call_bind (Begun.stage ⟨_, hmade₃, rfl⟩) (fun _ t₄ h₄ => ?_) fun e t₄ h₄ => ?_
  · obtain ⟨hmade₄, hpending⟩ := hmade₃.insertVersion h₄
    refine ⟨Begun.stage ⟨_, hmade₄, rfl⟩, fun r t₅ h₅ => ?_⟩
    have hcommit := hmade₄.commit (hpending rfl) h₅
    cases r with
    | ok _ =>
      have haccepted : Contents.initial.Accepted := by decide
      have hwritten : Written machine (.database path) s₀ _ t₅ :=
        ⟨.initial, hcommit, haccepted, rfl⟩
      exact ⟨hwritten.stage, hwritten⟩
    | error e =>
      have hbegun : Begun machine (.database path) s₀ _ t₅ := ⟨_, hcommit, rfl⟩
      exact ⟨hbegun.stage, hbegun⟩
  · have hbegun : Begun machine (.database path) s₀ _ t₄ := ⟨_, (hmade₃.insertVersion h₄).1, rfl⟩
    exact ⟨hbegun.stage, hbegun⟩

/-- What a creation leaves whose failure was caught. -/
def Caught (written begun : Prop) : Except PyException (Except String Unit) → Prop
  | .ok (.ok _) => written
  | _ => begun

/-- Rolling back does not take the file away again. -/
theorem walks_createOrRollBack
    (h : Made machine (.database path) s₀ False False machine.fileMode .blank os s) :
    Walks machine (.database path) s₀ (createOrRollBack path)
      (fun r os t => Ends (Written machine (.database path) s₀ os t)
        (Begun machine (.database path) s₀ os t) r) os s := by
  have hattempt : Walks machine (.database path) s₀ ((createSchema path).attempt sqliteError)
      (fun r os t => Caught (Written machine (.database path) s₀ os t)
        (Begun machine (.database path) s₀ os t) r) os s := by
    apply Always.attempt
    refine (walks_createSchema h).mono fun r os t _ hr => ?_
    cases r with
    | ok a => exact hr
    | error e => cases hc : sqliteError e <;> simpa only [reify, hc, Ends, Caught] using hr
  refine hattempt.bind (fun r os t hstage hr => ?_) fun e os t _ hr => hr
  cases r with
  | ok a => exact always_done hstage hr
  | error message =>
    refine always_call_bind hstage (fun _ t₁ h₁ => ?_) fun e t₁ h₁ => ?_
    · have hbegun := hr.step h₁ (idle_database trivial)
      exact always_done hbegun.stage hbegun
    · have hbegun := hr.step h₁ (idle_database trivial)
      exact ⟨hbegun.stage, hbegun⟩

/-- The calls that read a database. -/
def Reads (path : PosixPath) : lifecycle.Call → Prop
  | .connect q | .pragma q _ | .selectVersion q | .integrityCheck q => q = path
  | _ => False

theorem Reads.keeps {p : PosixPath} {c : lifecycle.Call} (h : Reads p c) (q : PosixPath) :
    Keeps q c := by
  cases c <;> trivial

theorem uses_connect (path : PosixPath) : (connect path).Uses (Reads path) := by
  refine Uses.bind (Uses.attempt _ ?_) fun r => ?_
  · exact uses_call_bind rfl fun _ => uses_call_bind rfl fun _ => uses_call_bind rfl fun _ =>
      (uses_call _).mpr rfl
  · cases r <;> trivial

theorem uses_verifySchema (path : PosixPath) : (verifySchema path).Uses (Reads path) := by
  refine Uses.bind (Uses.attempt _ ((uses_connect path).bind fun _ => (uses_call _).mpr rfl))
    fun r => ?_
  cases r with
  | ok version =>
    dsimp only
    split <;> trivial
  | error e => trivial

theorem uses_integrityCheck (path : PosixPath) : (integrityCheck path).Uses (Reads path) := by
  refine (uses_connect path).bind fun _ => uses_call_bind rfl fun result => ?_
  split <;> trivial

theorem uses_whenProduction {allowed : lifecycle.Call → Prop} {action : Action Unit}
    (h : IsProduction path → action.Uses allowed) : (whenProduction path action).Uses allowed := by
  unfold whenProduction
  split
  · exact h ‹_›
  · trivial

/-- **What follows the creation by the repository**: the mode is set, or the file stays as it is. -/
theorem walks_secureDatabase (h : Written machine (.database path) s₀ os s) :
    Walks machine (.database path) s₀ (secureDatabase path) (fun _ _ _ => True) os s := by
  refine ⟨h.stage, fun r t ht => ?_⟩
  have hsecure := h.secure ht
  cases r with
  | error e => exact ⟨hsecure.stage, trivial⟩
  | ok a =>
    have hsecure : Finished machine (.database path) s₀ _ t := hsecure
    have hrest : ((whenProduction path (ask (.chown path 0 0))).bind fun _ =>
        (checkPath path).bind fun _ => integrityCheck path).Uses (Keeps path) := by
      refine Uses.bind (uses_whenProduction fun _ => (uses_call _).mpr trivial) fun _ => ?_
      refine Uses.bind (uses_call_bind trivial fun _ => trivial) fun _ => ?_
      exact (uses_integrityCheck path).mono fun c hc => hc.keeps path
    exact (hrest.always_keeps (fun c os s r t hc hL ht => hL.step ht (idle_database hc)) hsecure
      fun os s h => h.stage).mono fun _ _ _ _ _ => trivial

theorem leaves_mkdir_parent (path : PosixPath) (mode : Fin 4096) :
    Leaves path (.mkdir path.parent mode) := by
  rintro ⟨⟨-, hparts⟩, hne⟩
  have hlength := hparts.length_le
  have hpos := List.length_pos_iff.mpr hne
  simp only [PosixPath.parent, List.length_dropLast] at hlength
  omega

/-- The connection's part, with the file just created: what returns is written. -/
theorem walks_createAndVerify
    (h : Made machine (.database path) s₀ False False machine.fileMode .blank os s) :
    Walks machine (.database path) s₀
      (((createOrRollBack path).finally_ (ask (.close path))).bind fun _ => verifySchema path)
      (fun r os t => r = .ok () → Written machine (.database path) s₀ os t) os s := by
  refine Always.bind (Q := fun r os t => r = .ok () → Written machine (.database path) s₀ os t)
    (Always.finally_ (walks_createOrRollBack h) fun r os t hstage hr => ?_)
    (fun u os t _ hwritten => ?_) fun e os t _ _ => nofun
  · -- the connection is closed whether the file is written or begun
    refine ⟨hstage, fun u t' ht' => ?_⟩
    cases r with
    | ok _ =>
      have hwritten := Written.step hr ht' (idle_database trivial)
      cases u with
      | ok _ => exact ⟨hwritten.stage, fun _ => hwritten⟩
      | error e => exact ⟨hwritten.stage, nofun⟩
    | error e =>
      have hbegun := Begun.step hr ht' (idle_database trivial)
      cases u <;> exact ⟨hbegun.stage, nofun⟩
  · exact ((uses_verifySchema path).always_keeps
      (fun c os s r t hc hL ht => Written.step hL ht (idle_database (hc.keeps path)))
      (hwritten rfl) fun os s h => Written.stage h).mono fun r os t _ h _ => h

/-- The repository's part: it begins with a connection, and what it returns is written. -/
theorem walks_initializeRepository (h : Untouched (.database path) s₀ os s)
    (hready : Ready machine (.database path) s) :
    Walks machine (.database path) s₀ (initializeRepository path)
      (fun r os t => r = .ok () → Written machine (.database path) s₀ os t) os s := by
  have hmkdir := leaves_mkdir_parent path 0o777
  refine always_call_bind h.stage (fun found t₁ h₁ => ?_) fun e t₁ h₁ =>
    ⟨(h.step h₁ (.inl trivial)).stage, nofun⟩
  have hnext₁ := h.step h₁ (.inl trivial)
  cases found with
  | true => exact always_done hnext₁.stage nofun
  | false =>
    -- the reply was that of a host at which there is nothing
    have hnone : s₀.nodes path = none := by
      obtain ⟨u, hu, -⟩ := h₁
      rcases reacts_inv_of_ne_connect hu nofun with hanswer | ⟨⟨e, he⟩, -⟩
      · have hfound : (s.nodes path).isSome = false := Except.ok.inj (Prod.mk.inj hanswer).1
        have hsame : s.nodes path = s₀.nodes path := h.node
        rw [← hsame]
        simpa using hfound
      · cases he
    refine always_call_bind hnext₁.stage (fun _ t₂ h₂ => ?_) fun e t₂ h₂ =>
      ⟨(hnext₁.step h₂ (.inl hmkdir)).stage, nofun⟩
    have hnext₂ := hnext₁.step h₂ (.inl hmkdir)
    refine ⟨hnext₂.stage, fun r t₃ h₃ => ?_⟩
    have hconnect := hnext₂.connect hready nofun (hnext₂.node.trans hnone) h₃
    cases r with
    | error e => exact ⟨hconnect, nofun⟩
    | ok a =>
      exact walks_createAndVerify hconnect

/-- **The creation of a database**: every point of a run is at some stage. -/
theorem walks_initializeDatabase (h : Untouched (.database path) s₀ os s) :
    Walks machine (.database path) s₀ (initializeDatabase path) (fun _ _ _ => True) os s := by
  refine (walks_requireRoot path h).bind (fun u os₁ t₁ hstage₁ hroot => ?_)
    fun _ _ _ _ _ => trivial
  obtain ⟨hnext₁, hroot⟩ := hroot
  have hready : Ready machine (.database path) t₁ := hroot rfl
  refine always_call_bind hstage₁ (fun isLink t₂ h₂ => ?_) fun e t₂ h₂ =>
    ⟨(hnext₁.step h₂ (.inl trivial)).stage, trivial⟩
  have hnext₂ := hnext₁.step h₂ (.inl trivial)
  cases isLink with
  | true => exact always_done hnext₂.stage trivial
  | false =>
    refine always_call_bind hnext₂.stage (fun found t₃ h₃ => ?_) fun e t₃ h₃ =>
      ⟨(hnext₂.step h₃ (.inl trivial)).stage, trivial⟩
    have hnext₃ := hnext₂.step h₃ (.inl trivial)
    cases found with
    | true => exact always_done hnext₃.stage trivial
    | false =>
      have hmkdir : ((ask (.mkdir path.parent directoryMode)).bind fun _ =>
          whenProduction path (secureDirectory path.parent)).Uses (Leaves path) := by
        refine uses_call_bind (leaves_mkdir_parent path _) fun _ => uses_whenProduction fun hp => ?_
        have hne : path.parent ≠ path := by
          obtain rfl : path = defaultTargetDatabasePath := hp
          decide
        refine uses_call_bind trivial fun status => ?_
        cases status with
        | none => trivial
        | some status =>
          cases status with
          | directory => exact uses_call_bind hne fun _ => (uses_call _).mpr hne
          | _ => trivial
      have hprepared : Program.Always (Answers machine (.database path))
          (Stage machine (.database path) s₀) (fun _ => Untouched (.database path) s₀) _ _ t₃ :=
        hmkdir.always_keeps (fun c os s r t hc hL ht => hL.step ht (.inl hc)) hnext₃
          fun os s h => h.stage
      have hcreated := hprepared.bind (f := fun _ => (initializeRepository path).bind fun _ =>
        secureDatabase path) (R := fun _ _ _ => True) (fun u os t _ hnext =>
          (walks_initializeRepository hnext hready).bind
            (fun u os t _ hwritten => walks_secureDatabase (hwritten rfl))
            fun _ _ _ _ _ => trivial) fun _ _ _ _ _ => trivial
      rw [bind_assoc] at hcreated
      exact hcreated

end Database

/-! ## The creation of a backup -/

section Backup

variable {machine : Machine} {destination source : PosixPath} {s₀ s t : Disk}
  {os : List (Occurrence lifecycle PyException Disk)} {P : Option Contents → Prop}

/-- Before the connection to the destination: the source has passed a check. -/
def Waiting (destination source : PosixPath) (s₀ : Disk) (P : Option Contents → Prop)
    (os : List (Occurrence lifecycle PyException Disk)) (t : Disk) : Prop :=
  Untouched (.backup destination source) s₀ os t ∧ Checked source P t

theorem Waiting.step {c : lifecycle.Call} {r : Except PyException (lifecycle.Reply c)}
    (h : Waiting destination source s₀ P os s)
    (hP : ∀ contents catalogues, P (some contents) → P (some { contents with catalogues }))
    (hc : Answers machine (.backup destination source) c s r t)
    (hreads : Reads source c ∨ Leaves destination c ∧ Spares source c) :
    Waiting destination source s₀ P (os ++ [⟨c, s, r, t⟩]) t := by
  obtain ⟨huntouched, hchecked⟩ := h
  have hspares : Spares source c := by
    rcases hreads with hreads | ⟨-, hspares⟩
    · cases c <;> trivial
    · exact hspares
  refine ⟨huntouched.step hc ?_, hchecked.revised hP (answers_spares hc hspares hchecked.isSome)⟩
  rcases hreads with hreads | ⟨hleaves, -⟩
  · cases c with
    | connect q =>
      obtain rfl : q = source := hreads
      -- the source may be the destination, which is there then
      by_cases hsame : q = destination
      · subst hsame
        exact .inr ⟨trivial, hchecked.isSome⟩
      · exact .inl hsame
    | pragma | selectVersion | integrityCheck => exact .inl trivial
    | _ => exact hreads.elim
  · exact .inl hleaves

theorem checkStatus_ok {path : PosixPath} {status : Option Status}
    (h : checkStatus path status = .ok ()) : ∃ attributes, status = some (.regular attributes) := by
  unfold checkStatus at h
  split at h
  · cases h
  · cases h
  · exact ⟨_, rfl⟩
  · cases h

theorem entry_of_regular {entry : Option Entry} {attributes : Attributes}
    (h : entry.map Entry.status = some (.regular attributes)) :
    ∃ contents, entry = some (.file contents attributes) := by
  obtain ⟨e, rfl, he⟩ := Option.map_eq_some_iff.mp h
  cases e with
  | file contents attributes' =>
    cases he
    exact ⟨contents, rfl⟩
  | _ => cases he

/-- The check of the source. -/
theorem walks_checkPath (h : Untouched (.backup destination source) s₀ os s) :
    Walks machine (.backup destination source) s₀ (checkPath source)
      (fun r os t => r = .ok () → Waiting destination source s₀ (fun _ => True) os t) os s := by
  refine always_call_bind h.stage (fun status t ht => ?_) fun e t ht =>
    ⟨(h.step ht (.inl trivial)).stage, nofun⟩
  have hnext := h.step ht (.inl trivial)
  refine always_done hnext.stage fun hok => ⟨hnext, ?_⟩
  obtain ⟨attributes, rfl⟩ := checkStatus_ok hok
  obtain ⟨u, hu, hothers⟩ := ht
  rcases reacts_inv_of_ne_connect hu nofun with hanswer | ⟨⟨e, he⟩, -⟩
  · obtain ⟨hreply, rfl⟩ := Prod.mk.inj hanswer
    obtain ⟨contents, hnode⟩ := entry_of_regular (Except.ok.inj hreply)
    have hchecked : Checked source (fun _ => True) s := ⟨contents, attributes, hnode, trivial, hok⟩
    exact hchecked.revised (fun _ _ _ => trivial) (hothers.source _ _ rfl)
  · cases he

/-- What the query tells of the source. -/
theorem walks_queryVersion (h : Waiting destination source s₀ (fun _ => True) os s) :
    Walks machine (.backup destination source) s₀ (queryVersion source)
      (fun r os t => r = .ok (some schemaVersion) →
        Waiting destination source s₀ IsAccepted os t) os s := by
  refine Always.bind (Q := fun _ os t => Waiting destination source s₀ (fun _ => True) os t)
    ((uses_connect source).always_keeps (fun c os s r t hc hL ht =>
      Waiting.step hL (fun _ _ _ => trivial) ht (.inl hc)) h fun os s h => h.1.stage) ?_
    fun e os t _ _ => nofun
  intro u os s _ h
  refine ⟨h.1.stage, fun r t ht => ?_⟩
  have hnext := h.step (fun _ _ _ => trivial) ht (.inl rfl)
  refine ⟨hnext.1.stage, fun hr => ⟨hnext.1, ?_⟩⟩
  subst hr
  obtain ⟨contents, attributes, hnode, -, hstatus⟩ := h.2
  obtain ⟨u, hu, hothers⟩ := ht
  rcases reacts_inv_of_ne_connect hu nofun with hanswer | ⟨⟨e, he⟩, -⟩
  · cases contents with
    | none =>
      simp only [host, onDatabase, hnode] at hanswer
      cases (Prod.mk.inj hanswer).1
    | some contents =>
      simp only [host, onDatabase, hnode] at hanswer
      split at hanswer
      · rename_i htable
        obtain ⟨hversion, rfl⟩ := Prod.mk.inj hanswer
        have hchecked : Checked source IsAccepted s :=
          ⟨some contents, attributes, hnode, ⟨contents, rfl, htable, Except.ok.inj hversion⟩,
            hstatus⟩
        exact hchecked.revised IsAccepted.revised (hothers.source _ _ rfl)
      · cases (Prod.mk.inj hanswer).1
  · cases he

/-- The verification of the source. -/
theorem walks_verifySource (h : Waiting destination source s₀ (fun _ => True) os s) :
    Walks machine (.backup destination source) s₀ (verifySchema source)
      (fun r os t => r = .ok () → Waiting destination source s₀ IsAccepted os t) os s := by
  have hattempt : Walks machine (.backup destination source) s₀
      ((queryVersion source).attempt schemaError?)
      (fun r os t => r = .ok (.ok (some schemaVersion)) →
        Waiting destination source s₀ IsAccepted os t) os s := by
    apply Always.attempt
    exact (walks_queryVersion h).mono fun r os t _ hr hok => hr (reify_eq_ok.mp hok)
  refine hattempt.bind (fun r os t hstage hr => ?_) fun e os t _ _ => nofun
  cases r with
  | error e => exact always_done hstage nofun
  | ok version =>
    by_cases hversion : version = some schemaVersion
    · subst hversion
      exact always_done hstage fun _ => hr rfl
    · dsimp only
      rw [if_neg hversion]
      exact always_done hstage nofun

/-- What the calls on a source keep once the destination is made. -/
theorem idle_close (path : PosixPath) : Idle (.backup destination source) (.close path) :=
  ⟨trivial, fun _ _ _ => trivial⟩

/-- The copy: it completes the file, or leaves it begun. -/
theorem walks_copyPages
    (h : Made machine (.backup destination source) s₀ False False machine.fileMode .blank os s) :
    Walks machine (.backup destination source) s₀ (copyPages source destination)
      (fun r os t => Ends (Written machine (.backup destination source) s₀ os t)
        (Begun machine (.backup destination source) s₀ os t) r) os s := by
  refine ⟨h.begun_of_blank.stage, fun r t ht => ?_⟩
  have hcopy := h.copy ht
  cases r with
  | ok a =>
    have hwritten : Written machine (.backup destination source) s₀ _ t := hcopy
    exact always_done hwritten.stage hwritten
  | error e =>
    have hbegun : Begun machine (.backup destination source) s₀ _ t := ⟨.blank, hcopy, rfl⟩
    simp only [Program.attempt]
    cases hc : sqliteError e <;> exact always_done hbegun.stage hbegun

/-- Both connections are closed. -/
theorem walks_copyAndClose
    (h : Made machine (.backup destination source) s₀ False False machine.fileMode .blank os s) :
    Walks machine (.backup destination source) s₀ ((copyPages source destination).finally_ do
        ask (.close destination)
        ask (.close source))
      (fun r os t => r = .ok () → Written machine (.backup destination source) s₀ os t) os s := by
  have hcloses : (((ask (.close destination)).bind fun _ => ask (.close source)) :
      Action Unit).Uses (Idle (.backup destination source)) :=
    uses_call_bind (idle_close destination) fun _ => (uses_call _).mpr (idle_close source)
  refine Always.finally_ (walks_copyPages h) fun r os t hstage hr => ?_
  cases r with
  | ok _ =>
    refine (hcloses.always_keeps (fun c os s r t hc hL ht => Written.step hL ht hc) hr
      fun os s h => Written.stage h).mono fun u os t _ hwritten => ?_
    cases u with
    | ok _ => exact fun _ => hwritten
    | error e => exact nofun
  | error e =>
    refine (hcloses.always_keeps (fun c os s r t hc hL ht => Begun.step hL ht hc) hr
      fun os s h => Begun.stage h).mono fun u os t _ _ => ?_
    cases u <;> exact nofun

/-- The repository's part: it begins with a connection, and what it returns is written. -/
theorem walks_backup (h : Waiting destination source s₀ IsAccepted os s)
    (hroot : IsProduction source → machine.uid = 0) :
    Walks machine (.backup destination source) s₀ (backup source destination)
      (fun r os t => r = .ok () → Written machine (.backup destination source) s₀ os t) os s := by
  have hexists : ∀ {r t}, Answers machine (.backup destination source) (.exists destination) s r t →
      Waiting destination source s₀ IsAccepted (os ++ [⟨.exists destination, s, r, t⟩]) t :=
    fun ht => h.step IsAccepted.revised ht (.inr ⟨trivial, trivial⟩)
  refine always_call_bind h.1.stage (fun found t₁ h₁ => ?_) fun e t₁ h₁ =>
    ⟨(hexists h₁).1.stage, nofun⟩
  cases found with
  | true => exact always_done (hexists h₁).1.stage nofun
  | false =>
    have hnone : s.nodes destination = none := by
      obtain ⟨u, hu, -⟩ := h₁
      rcases reacts_inv_of_ne_connect hu nofun with hanswer | ⟨⟨e, he⟩, -⟩
      · have hfound : (s.nodes destination).isSome = false :=
          Except.ok.inj (Prod.mk.inj hanswer).1
        simpa using hfound
      · cases he
    have hnone₀ : s₀.nodes destination = none := h.1.node.symm.trans hnone
    have hapart : destination ≠ source := by
      rintro rfl
      have hsome := h.2.isSome
      rw [hnone] at hsome
      cases hsome
    refine Always.bind (Q := fun _ os t => Waiting destination source s₀ IsAccepted os t)
      ((uses_connect source).always_keeps (fun c os s r t hc hL ht =>
        Waiting.step hL IsAccepted.revised ht (.inl hc)) (hexists h₁) fun os s h => h.1.stage) ?_
      fun e os t _ _ => nofun
    intro u os₂ t₂ _ h₂
    refine ⟨h₂.1.stage, fun r t₃ h₃ => ?_⟩
    have hconnect := h₂.1.connect ⟨hroot, h₂.2⟩ (fun _ _ heq => by cases heq; exact hapart)
      (h₂.1.node.trans hnone₀) h₃
    cases r with
    | error e => exact ⟨hconnect, nofun⟩
    | ok a => exact walks_copyAndClose hconnect

/-- **The creation of a backup**: every point of a run is at some stage. -/
theorem walks_backupDatabase (h : Untouched (.backup destination source) s₀ os s) :
    Walks machine (.backup destination source) s₀ (backupDatabase destination source)
      (fun _ _ _ => True) os s := by
  refine (walks_requireRoot source h).bind (fun u os₁ t₁ _ hroot => ?_) fun _ _ _ _ _ => trivial
  obtain ⟨hnext₁, hroot⟩ := hroot
  refine (walks_checkPath hnext₁).bind (fun u os₂ t₂ _ hchecked => ?_) fun _ _ _ _ _ => trivial
  have hwaiting := hchecked rfl
  have hlink : ∀ {r t}, Answers machine (.backup destination source) (.isSymlink destination) t₂
      r t → Waiting destination source s₀ (fun _ => True)
        (os₂ ++ [⟨.isSymlink destination, t₂, r, t⟩]) t :=
    fun ht => hwaiting.step (fun _ _ _ => trivial) ht (.inr ⟨trivial, trivial⟩)
  refine always_call_bind hwaiting.1.stage (fun isLink t₃ h₃ => ?_) fun e t₃ h₃ =>
    ⟨(hlink h₃).1.stage, trivial⟩
  cases isLink with
  | true => exact always_done (hlink h₃).1.stage trivial
  | false =>
    refine (walks_verifySource (hlink h₃)).bind (fun u os₄ t₄ _ h₄ => ?_) fun _ _ _ _ _ => trivial
    refine (walks_backup (h₄ rfl) (hroot rfl)).bind (fun u os₅ t₅ _ h₅ => ?_)
      fun _ _ _ _ _ => trivial
    refine ⟨(h₅ rfl).stage, fun r t₆ h₆ => ?_⟩
    have hsecure := (h₅ rfl).secure h₆
    cases r with
    | ok a => exact ⟨Finished.stage hsecure, trivial⟩
    | error e => exact ⟨Written.stage hsecure, trivial⟩

end Backup

/-! ## Another try -/

section Blocked

variable {machine : Machine} {path : PosixPath} {t : Disk} {contents : Contents}
  {attributes : Attributes}

theorem returns_requireRoot (h : IsProduction path → machine.uid = 0) :
    Returns (host machine) (requireRoot path) t () t := by
  unfold requireRoot whenProduction
  split
  · rename_i hp
    have hcall : Returns (host machine) (ask .geteuid) t machine.uid t := returns_call rfl
    refine hcall.bind ?_
    rw [if_pos (h hp)]
    exact ⟨rfl, rfl⟩
  · exact ⟨rfl, rfl⟩

theorem returns_isSymlink (h : t.nodes path = some (.file (some contents) attributes)) :
    Returns (host machine) (ask (.isSymlink path)) t false t := by
  refine returns_call ?_
  simp only [host, h]

theorem returns_exists (h : t.nodes path = some (.file (some contents) attributes)) :
    Returns (host machine) (ask (.exists path)) t true t := by
  refine returns_call ?_
  simp only [host, h, Option.isSome_some]

theorem returns_connect (h : t.nodes path = some (.file (some contents) attributes)) :
    Returns (host machine) (connect path) t () (t.hold path none) := by
  have hopen : host machine (.connect path) t = (.ok (), t.hold path none) := by
    simp only [host, h]
  refine returns_bind_iff.mpr ⟨.ok (), t.hold path none, ?_, rfl, rfl⟩
  rw [returns_attempt_ok_iff]
  exact (returns_call hopen).bind ((returns_call rfl).bind ((returns_call rfl).bind
    (returns_call rfl)))

/-- The repository accepts its own databases. -/
theorem returns_verifySchema (h : t.nodes path = some (.file (some contents) attributes))
    (haccepted : contents.Accepted) :
    Returns (host machine) (verifySchema path) t () (t.hold path none) := by
  have hselect : host machine (.selectVersion path) (t.hold path none) =
      (.ok (some schemaVersion), t.hold path none) := by
    simp only [host, onDatabase, Disk.hold_nodes, h, if_pos haccepted.1, haccepted.2]
  refine returns_bind_iff.mpr ⟨.ok (some schemaVersion), t.hold path none, ?_, ?_⟩
  · rw [returns_attempt_ok_iff]
    exact (returns_connect h).bind (returns_call hselect)
  · exact ⟨rfl, rfl⟩

/-- **A file at the destination blocks the next creation**, whatever it holds. -/
theorem blocked_of_ready {creation : Creation} (hready : Ready machine creation t)
    (hnode : t.nodes creation.destination = some (.file (some contents) attributes)) :
    Blocked machine creation t := by
  cases creation with
  | database path =>
    have hnode : t.nodes path = some (.file (some contents) attributes) := hnode
    have hthrows : Throws (host machine) (initializeDatabase path) t
        (.repository "DATABASE_EXISTS" s!"Database already exists: {path.text}") t :=
      (returns_requireRoot hready).bind_throws ((returns_isSymlink hnode).bind_throws
        ((returns_exists hnode).bind_throws (throws_done _)))
    exact ⟨_, hthrows.1⟩
  | backup destination source =>
    have hnode : t.nodes destination = some (.file (some contents) attributes) := hnode
    obtain ⟨hroot, _, attributes', hsource, ⟨accepted, rfl, haccepted⟩, hstatus⟩ := hready
    have hcheck : Returns (host machine) (checkPath source) t () t := by
      have hcall : Returns (host machine) (ask (.lstat source)) t (some (.regular attributes')) t :=
        returns_call (by simp only [host, hsource, Option.map_some, Entry.status])
      exact hcall.bind ⟨hstatus, rfl⟩
    have hrefused : Throws (host machine) (backup source destination) (t.hold source none)
        (.repository "BACKUP_EXISTS" s!"Backup already exists: {destination.text}")
        (t.hold source none) :=
      (returns_exists (t := t.hold source none) hnode).bind_throws (throws_done _)
    have hthrows : Throws (host machine) (backupDatabase destination source) t
        (.repository "BACKUP_EXISTS" s!"Backup already exists: {destination.text}")
        (t.hold source none) :=
      (returns_requireRoot hroot).bind_throws (hcheck.bind_throws
        ((returns_isSymlink hnode).bind_throws
          ((returns_verifySchema hsource haccepted).bind_throws hrefused.bind)))
    exact ⟨_, hthrows.1⟩

end Blocked

/-! ## All or nothing -/

section AllOrNothing

variable {machine : Machine} {creation : Creation} {s t : Disk}
  {os : List (Occurrence lifecycle PyException Disk)} {committed secured : Prop}
  {mode : Fin 4096} {contents : Contents}

/-- What is made is there, so that nothing less than everything will do. -/
theorem Made.allOrNothing_iff
    (h : Made machine creation s committed secured mode contents os t) :
    AllOrNothing creation s os t ↔
      mode = databaseMode ∧ contents.Accepted ∧ Intended creation os contents := by
  obtain ⟨attributes, hnode, hmode⟩ := h.node
  constructor
  · rintro (hsame | ⟨contents', ⟨attributes', hnode', hmode'⟩, haccepted, hintended⟩)
    · rw [h.start, hnode] at hsame
      cases hsame
    · rw [hnode] at hnode'
      cases hnode'
      exact ⟨hmode.symm.trans hmode', haccepted, hintended⟩
  · rintro ⟨rfl, haccepted, hintended⟩
    exact .inr ⟨contents, h.node, haccepted, hintended⟩

theorem Made.blocked (h : Made machine creation s committed secured mode contents os t) :
    Blocked machine creation t := by
  obtain ⟨attributes, hnode, -⟩ := h.node
  exact blocked_of_ready h.ready hnode

theorem Made.safe_iff (h : Made machine creation s committed secured mode contents os t) :
    Safe machine creation os ↔ (committed ∧ machine.fileMode = databaseMode) ∨ secured := by
  simp only [Safe, h.log.opened, h.log.committed, h.log.secured, not_true, false_or]

/-- At every stage: nothing or everything is there exactly in the safe runs, and what is less
blocks the next creation. -/
theorem Stage.allOrNothing_iff (h : Stage machine creation s os t) :
    (AllOrNothing creation s os t ↔ Safe machine creation os) ∧
      (¬ AllOrNothing creation s os t → Blocked machine creation t) := by
  rcases h with huntouched | ⟨contents, hmade, hversion⟩ | ⟨contents, hmade, haccepted, hintended⟩ |
    ⟨contents, hmade, haccepted, hintended⟩
  · have hnothing : AllOrNothing creation s os t := .inl huntouched.node
    refine ⟨iff_of_true hnothing (.inl ?_), fun hnot => absurd hnothing hnot⟩
    rw [huntouched.log.opened]
    exact not_false
  · refine ⟨?_, fun _ => hmade.blocked⟩
    rw [hmade.allOrNothing_iff, hmade.safe_iff]
    refine iff_of_false ?_ (by simp)
    rintro ⟨-, ⟨-, haccepted⟩, -⟩
    rw [hversion] at haccepted
    cases haccepted
  · refine ⟨?_, fun _ => hmade.blocked⟩
    rw [hmade.allOrNothing_iff, hmade.safe_iff]
    simp [haccepted, hintended]
  · refine ⟨?_, fun _ => hmade.blocked⟩
    rw [hmade.allOrNothing_iff, hmade.safe_iff]
    simp [haccepted, hintended]

end AllOrNothing

/-- The runs begin with nothing done. -/
theorem untouched_nil (creation : Creation) (s : Disk) : Untouched creation s [] s := by
  refine ⟨⟨?_, ?_, ?_⟩, rfl⟩ <;> simp

theorem walks_program (machine : Machine) (creation : Creation) (s : Disk) :
    Walks machine creation s creation.program (fun _ _ _ => True) [] s := by
  cases creation with
  | database path => exact walks_initializeDatabase (untouched_nil _ s)
  | backup destination source => exact walks_backupDatabase (untouched_nil _ s)

/-- **Which creations are all-or-nothing**: wherever a run has failed or stopped, the destination
is as it was or complete, and another try is not blocked by anything less, exactly when the
connection created no file, or the last write succeeded where SQLite's files have mode 0600, or
the mode was set. -/
theorem allOrNothing_iff_safe (machine : Machine) (creation : Creation) (s t : Disk)
    (os : List (Occurrence lifecycle PyException Disk)) (q : Action Unit)
    (hv : Visits (Answers machine creation) creation.program s os q t) :
    (AllOrNothing creation s os t ↔ Safe machine creation os) ∧
      ((Blocked machine creation t → AllOrNothing creation s os t) ↔ Safe machine creation os) := by
  have hstage : Stage machine creation s os t := ((walks_program machine creation s).visited hv).now
  obtain ⟨hiff, hblocked⟩ := hstage.allOrNothing_iff
  refine ⟨hiff, ⟨fun h => ?_, fun hsafe _ => hiff.mpr hsafe⟩⟩
  by_contra hunsafe
  have hnot : ¬ AllOrNothing creation s os t := fun hall => hunsafe (hiff.mp hall)
  exact hnot (h (hblocked hnot))

/-! ### A disk -/

def sampleMachine : Machine := ⟨1000, 1000, 0o022⟩

def sampleDatabase : PosixPath := ⟨"/", ["targets.db"]⟩

/-- A disk with nothing but its root. -/
def sampleDisk : Disk := ⟨fun p => if p = ⟨"/", []⟩ then some .directory else none, fun _ => none⟩

theorem answers_host (machine : Machine) (creation : Creation) (c : lifecycle.Call) (s : Disk) :
    Answers machine creation c s (host machine c s).1 (host machine c s).2 :=
  ⟨_, .answered c s, .refl creation _⟩

/-- A machine on which every call succeeds has the database afterwards. -/
theorem allOrNothing_sample : AllOrNothing (.database sampleDatabase) sampleDisk
    ((initializeDatabase sampleDatabase).occurrences (host sampleMachine) sampleDisk)
    ((initializeDatabase sampleDatabase).exec (host sampleMachine) sampleDisk).state := by
  have hrun := visits_exec (answers_host sampleMachine (.database sampleDatabase))
    (initializeDatabase sampleDatabase) sampleDisk
  refine (allOrNothing_iff_safe sampleMachine (.database sampleDatabase) sampleDisk _ _ _
    hrun).1.mpr (.inr (.inr ?_))
  have hany : ((initializeDatabase sampleDatabase).occurrences (host sampleMachine) sampleDisk).any
      (fun o => decide (o.call = .chmod sampleDatabase databaseMode) && o.reply.isOk) := by
    decide +kernel
  obtain ⟨o, ho, hsecured⟩ := List.any_eq_true.mp hany
  obtain ⟨hcall, hreply⟩ := (Bool.and_eq_true _ _).mp hsecured
  exact ⟨o, ho, of_decide_eq_true hcall, hreply⟩

/-- A disk that is full when the second table is created. -/
def fullHost : Handler lifecycle PyException Disk
  | .createTable _ .providerCatalogues, s => (.error (.sqlite "database or disk is full"), s)
  | c, s => host sampleMachine c s

theorem answers_fullHost (creation : Creation) (c : lifecycle.Call) (s : Disk) :
    Answers sampleMachine creation c s (fullHost c s).1 (fullHost c s).2 := by
  unfold fullHost
  split
  · exact ⟨_, .failed _ _ _, .refl creation _⟩
  · exact answers_host sampleMachine creation c s

/-- A database that is left half created, and that blocks the next try. -/
theorem allOrNothing_fails : ¬ ∀ (machine : Machine) (creation : Creation) (s t : Disk)
    (os : List (Occurrence lifecycle PyException Disk)) (q : Action Unit),
    Visits (Answers machine creation) creation.program s os q t →
      AllOrNothing creation s os t ∧ (Blocked machine creation t → AllOrNothing creation s os t) := by
  intro h
  have hrun := visits_exec (answers_fullHost (.database sampleDatabase))
    (initializeDatabase sampleDatabase) sampleDisk
  obtain ⟨hall, -⟩ := h sampleMachine (.database sampleDatabase) sampleDisk _ _ _ hrun
  have hleft : ((initializeDatabase sampleDatabase).exec fullHost sampleDisk).state.nodes
      sampleDatabase = some (.file (some ⟨[.schemaMetadata], none, .empty⟩) ⟨0o644, 1000, 1000⟩) := by
    rfl
  rcases hall with hsame | ⟨contents, ⟨attributes, hnode, hmode⟩, -⟩
  · have hsame : ((initializeDatabase sampleDatabase).exec fullHost sampleDisk).state.nodes
        sampleDatabase = sampleDisk.nodes sampleDatabase := hsame
    rw [hleft] at hsame
    cases hsame
  · have hnode : ((initializeDatabase sampleDatabase).exec fullHost sampleDisk).state.nodes
        sampleDatabase = some (.file (some contents) attributes) := hnode
    rw [hleft] at hnode
    cases hnode
    revert hmode
    decide

end Snarkypuss.Lifecycle
