import Snarkypuss.Calls.Processes
import Snarkypuss.Targets.SqliteRows

/-!
# Connections to one database

Any number of callers read and replace catalogues in one database, each over a connection of its
own. A statement runs at once, on the tables of the transaction of its connection or on the
committed ones. One connection at a time may write: the others are refused until it commits, rolls
back, closes or is gone. Any other statement may be refused as well, for a reason that is up to the
database, and a caller may be stopped between two of its statements.

Each caller is in a phase. A reader has found nothing yet, the revision, or the revision and the
rows. A writer has its transaction, with the tables it began with and those it has by now, until it
finds another revision than the expected one, or commits.

## Main definitions

* `Store`, `Store.accept`, `Store.Answers`: the tables under their connections
* `sqliteSystem`: the callers of the repository
* `SqlPhase`, `sqlProtocol`, `sqlOutline`: their phases, and what these assert of the store

## Main results

* `follows_getCatalogue`, `follows_replaceCatalogue`: the methods keep to their protocol
* `sqlOutline_valid`: what the phases assert is kept by every step
* `run_serve`: a call whose statements are all accepted is a run
-/

namespace Snarkypuss

open SqliteTargetRepository

/-! ## The store -/

/-- The committed tables, and the connection that may write with the tables of its transaction. -/
structure Store where
  committed : Database
  writer : Option (ℕ × Database)

namespace Store

variable (s : Store) (i : ℕ)

/-- The tables that a connection sees. -/
def view : Database :=
  match s.writer with
  | some (k, db) => if k = i then db else s.committed
  | none => s.committed

/-- The tables without the transaction of a connection. -/
def release : Store :=
  match s.writer with
  | some (k, _) => if k = i then { s with writer := none } else s
  | none => s

/-- Another connection may write. -/
def Locked : Prop := ∃ k db, s.writer = some (k, db) ∧ k ≠ i

/-- A statement that changes the tables of the transaction, or is refused by their constraints. -/
def change (r : Except String Database) : Except PyException Unit × Store :=
  match r with
  | .ok db => (.ok (), { s with writer := some (i, db) })
  | .error message => (.error (.sqlite message), s)

/-- A statement that the database does not refuse. -/
def accept : (c : SqlCall) → Except PyException c.Reply × Store
  | .connect => (.ok (), s.release i)
  | .beginImmediate => (.ok (), { s with writer := some (i, s.committed) })
  | .selectRevision p => (.ok ((s.view i).revisions.get? p), s)
  | .selectTargets p => (.ok ((s.view i).selectTargets p), s)
  | .insertRevision p r => s.change i ((s.view i).insertRevision p r)
  | .updateRevision r p => s.change i ((s.view i).updateRevision r p)
  | .deleteTargets p => s.change i (.ok ((s.view i).deleteTargets p))
  | .insertTarget row => s.change i ((s.view i).insertTarget row)
  | .commit => (.ok (), { s.release i with committed := s.view i })
  | .rollback => (.ok (), s.release i)
  | .close => (.ok (), s.release i)

end Store

/-- The statements that only one connection at a time may run. -/
def SqlCall.Writes : SqlCall → Prop
  | beginImmediate | insertRevision .. | updateRevision .. | deleteTargets _ | insertTarget _ => True
  | _ => False

/-- The answers to a statement. Closing a connection is never refused. -/
inductive Store.Answers (i : ℕ) (c : SqlCall) (s : Store) : Except PyException c.Reply → Store → Prop
  | refused (message : String) (hclose : c ≠ .close) : Answers i c s (.error (.sqlite message)) s
  | accepted (hlocked : c.Writes → ¬ s.Locked i) : Answers i c s (s.accept i c).1 (s.accept i c).2

/-- The callers of a repository: each call is a process with a connection of its own. -/
def sqliteSystem (interpreter : Python.Interpreter) (lax : Json → Option JsonScalar) :
    System RepositoryCall sql PyException Store TargetCatalogue where
  program := program interpreter lax
  starts M _ s' := s' = M.shared
  answers i c s reply s' := s.Answers i c reply s'
  releases i s := s.release i

/-! ## Phases -/

/-- The phases of a caller. -/
inductive SqlPhase
  | fresh
  | outside
  | counted (row : Option Int)
  | listed (revision : Int) (rows : List TargetRow)
  | working (db db' : Database)
  | stale
  | committed (db db' : Database)

namespace SqlPhase

/-- A writer has committed. -/
def HasCommitted : SqlPhase → Prop
  | committed .. => True
  | _ => False

/-- The phase of a writer whose transaction has failed. -/
def Failing : SqlPhase → Prop
  | outside | working .. | stale => True
  | _ => False

/-- The phase after a change of the tables of a transaction. -/
def Changes (f : Database → Except String Database) : SqlPhase → SqlPhase → Prop
  | working db db', φ' => ∃ db'', f db' = .ok db'' ∧ φ' = working db db''
  | _, _ => False

/-- The phase after a transaction is over. -/
def ended : SqlPhase → SqlPhase
  | working .. => outside
  | φ => φ

/-- What a phase asserts of the store. -/
def Asserts (i : ℕ) (s : Store) : SqlPhase → Prop
  | outside | counted _ | listed .. => ∀ db, s.writer ≠ some (i, db)
  | working db db' => s.committed = db ∧ s.writer = some (i, db')
  | _ => True

end SqlPhase

/-- The tables of a transaction are those of the replacement that was asked for. -/
def RepositoryCall.Prepared (db db' : Database) : RepositoryCall → Prop
  | getCatalogue _ => False
  | replaceCatalogue p expectedRevision targets => ∃ candidate encoded,
    TargetCatalogue.validate p (expectedRevision + 1) targets = .ok candidate ∧
      Encodes candidate.targets encoded ∧ Replaced candidate expectedRevision encoded db db'

/-- The statements that a caller may run in a phase. -/
def sqlMay (r : RepositoryCall) : SqlPhase → SqlCall → Prop
  | .fresh, .connect => True
  | .outside, .rollback | .outside, .close => True
  | .outside, .selectRevision p => r = .getCatalogue p
  | .outside, .beginImmediate => ∃ p expectedRevision targets,
    r = .replaceCatalogue p expectedRevision targets
  | .counted row, .selectTargets p => r = .getCatalogue p ∧ row.isSome
  | .working db db', .selectRevision p => db' = db ∧ ∃ expectedRevision targets,
    r = .replaceCatalogue p expectedRevision targets
  | .working db db', .commit => r.Prepared db db'
  | .working .., .insertRevision .. | .working .., .updateRevision .. => True
  | .working .., .deleteTargets _ | .working .., .insertTarget _ => True
  | .working .., .rollback | .working .., .close => True
  | .stale, .rollback | .stale, .close | .committed .., .close => True
  | _, _ => False

/-- The phases that the reply to a statement leads to. -/
def sqlMoves (r : RepositoryCall) (φ : SqlPhase) :
    (c : SqlCall) → Except PyException c.Reply → SqlPhase → Prop
  | .close, .error _, _ => False
  | _, .error e, φ' => (∃ message, e = .sqlite message) ∧ φ' = φ
  | .connect, .ok _, φ' => φ' = .outside
  | .beginImmediate, .ok _, φ' => ∃ db, φ' = .working db db
  | .selectRevision p, .ok row, φ' =>
    match r with
    | .getCatalogue _ => φ' = .counted row
    | .replaceCatalogue _ expectedRevision _ => ∃ db db', φ = .working db db' ∧
      row = db'.revisions.get? p ∧ φ' = if row.getD 0 = expectedRevision then φ else .stale
  | .selectTargets _, .ok rows, φ' => ∃ revision, φ = .counted (some revision) ∧
    φ' = .listed revision rows
  | .insertRevision p revision, .ok _, φ' => φ.Changes (·.insertRevision p revision) φ'
  | .updateRevision revision p, .ok _, φ' => φ.Changes (·.updateRevision revision p) φ'
  | .deleteTargets p, .ok _, φ' => φ.Changes (fun db => .ok (db.deleteTargets p)) φ'
  | .insertTarget row, .ok _, φ' => φ.Changes (·.insertTarget row) φ'
  | .commit, .ok _, φ' => ∃ db db', φ = .working db db' ∧ φ' = .committed db db'
  | .rollback, .ok _, φ' => φ' = φ.ended
  | .close, .ok _, φ' => φ' = φ.ended

/-- The protocol of a caller. -/
def sqlProtocol (r : RepositoryCall) : Protocol sql PyException SqlPhase := ⟨sqlMay r, sqlMoves r⟩

/-- How a call ends: a reader has read what its catalogue stands for, and a writer has committed,
unless it raises. -/
def sqlEnding (interpreter : Python.Interpreter) (lax : Json → Option JsonScalar) :
    RepositoryCall → Except PyException TargetCatalogue → SqlPhase → Prop
  | .getCatalogue p, .ok c, φ =>
    φ = .counted none ∧ TargetCatalogue.validate p 0 [] = .ok c ∨
      ∃ revision rows, φ = .listed revision rows ∧
        readCatalogue interpreter lax p revision rows = .ok c
  | .replaceCatalogue p expectedRevision targets, .ok c, φ =>
    φ.HasCommitted ∧ TargetCatalogue.validate p (expectedRevision + 1) targets = .ok c
  | r, .error e, φ => ¬ φ.HasCommitted ∧
    (e = catalogConflict → φ = .stale ∧ ∃ p expectedRevision targets c,
      r = .replaceCatalogue p expectedRevision targets ∧
        TargetCatalogue.validate p (expectedRevision + 1) targets = .ok c)

/-- The outline of the callers. -/
def sqlOutline (interpreter : Python.Interpreter) (lax : Json → Option JsonScalar) :
    Outline (sqliteSystem interpreter lax) SqlPhase where
  protocol := sqlProtocol
  first _ := .fresh
  ending := sqlEnding interpreter lax
  sound _ := True
  asserts i _ φ s := φ.Asserts i s
  compatible _ _ := True

namespace SqlPhase

variable {φ : SqlPhase} {r : RepositoryCall}

theorem Failing.ended (h : φ.Failing) : φ.ended.Failing := by cases φ <;> trivial

theorem Failing.not_hasCommitted (h : φ.Failing) : ¬ φ.HasCommitted := by
  cases φ with
  | committed db db' => exact h.elim
  | _ => exact not_false

theorem HasCommitted.ended (h : φ.HasCommitted) : φ.ended.HasCommitted := by cases φ <;> trivial

theorem Failing.may_rollback (h : φ.Failing) : sqlMay r φ .rollback := by cases φ <;> trivial

theorem Failing.may_close (h : φ.Failing) : sqlMay r φ .close := by cases φ <;> trivial

theorem HasCommitted.may_close (h : φ.HasCommitted) : sqlMay r φ .close := by cases φ <;> trivial

end SqlPhase

/-! ## The methods keep to their protocol -/

section Follows

variable {interpreter : Python.Interpreter} {lax : Json → Option JsonScalar} {r : RepositoryCall}
  {p : String} {φ ψ : SqlPhase} {db db' : Database} {e : PyException}

theorem storageFailed_ne (message : String) : storageFailed message ≠ catalogConflict := by
  intro h
  injection h with hcode
  exact absurd hcode (by decide)

/-- A call that raises something else than the conflict, and has not committed. -/
theorem sqlEnding_error (hφ : ¬ φ.HasCommitted) (he : e ≠ catalogConflict) :
    sqlEnding interpreter lax r (.error e) φ := by
  cases r <;> exact ⟨hφ, fun h => absurd h he⟩

theorem follows_connect :
    connect.Follows (sqlProtocol r) (fun result φ => result = .ok () ∧ φ = .outside ∨
      (∃ message, result = .error (storageFailed message)) ∧ φ = .fresh) .fresh := by
  refine Program.Follows.bind (Q := fun result φ => result = .ok (.ok ()) ∧ φ = .outside ∨
    (∃ message, result = .ok (.error message)) ∧ φ = .fresh) ?_ ?_ ?_
  · refine Program.Follows.attempt (Program.follows_call trivial fun reply φ hmoves => ?_)
    cases reply with
    | ok _ => exact .inl ⟨rfl, hmoves⟩
    | error e =>
      obtain ⟨⟨message, rfl⟩, rfl⟩ := hmoves
      exact .inr ⟨⟨message, rfl⟩, rfl⟩
  · rintro (message | _) φ (⟨h, rfl⟩ | ⟨⟨m, h⟩, rfl⟩)
    · cases h
    · exact .inr ⟨⟨message, rfl⟩, rfl⟩
    · exact .inl ⟨rfl, rfl⟩
    · cases h
  · rintro e φ (⟨h, -⟩ | ⟨⟨m, h⟩, -⟩) <;> cases h

/-- How the two queries of a reader end. -/
def QueryEnds : Except PyException (Option (Int × List TargetRow)) → SqlPhase → Prop
  | .ok none, φ => φ = .counted none
  | .ok (some (revision, rows)), φ => φ = .listed revision rows
  | .error e, φ => ¬ φ.HasCommitted ∧ e ≠ catalogConflict

theorem follows_queryCatalogue :
    (queryCatalogue p).Follows (sqlProtocol (.getCatalogue p)) QueryEnds .fresh := by
  have hrefused : ∀ {φ : SqlPhase} {e : PyException}, ¬ φ.HasCommitted →
      (∃ message, e = .sqlite message) → QueryEnds (.error e) φ := by
    rintro φ e hφ ⟨message, rfl⟩
    refine ⟨hφ, fun h => ?_⟩
    cases h
  refine follows_connect.bind ?_ ?_
  · rintro _ φ (⟨-, rfl⟩ | ⟨⟨message, h⟩, -⟩)
    swap
    · cases h
    refine Program.follows_call_bind rfl ?_ ?_
    · rintro row φ rfl
      cases row with
      | none => rfl
      | some revision =>
        refine Program.follows_call_bind ⟨rfl, rfl⟩ ?_ ?_
        · rintro rows φ ⟨revision', hrevision, rfl⟩
          cases hrevision
          rfl
        · rintro e φ ⟨he, rfl⟩
          exact hrefused not_false he
    · rintro e φ ⟨he, rfl⟩
      exact hrefused not_false he
  · rintro e φ (⟨h, -⟩ | ⟨⟨message, h⟩, rfl⟩)
    · cases h
    · cases h
      exact ⟨not_false, storageFailed_ne message⟩

/-- What stored documents raise is no conflict. -/
theorem readCatalogue_raises (revision : Int) (rows : List TargetRow) :
    Raises (· ≠ catalogConflict) (readCatalogue interpreter lax p revision rows) := by
  have hvalidation : PyException.validation ≠ catalogConflict := by
    intro h
    cases h
  have hread : Raises (· ≠ catalogConflict) (do
      let targets ← rows.mapM (readTarget interpreter lax)
      TargetCatalogue.validate p revision targets) := by
    refine (raises_mapM (fun row => ?_) _).bind fun targets e he => ?_
    · refine Raises.bind (fun e he => ?_) fun document => ?_
      · rcases Python.loads_error he with rfl | rfl | rfl <;> intro h <;> cases h
      · split
        · exact raises_error_iff.mpr hvalidation
        · unfold StoredTarget.validate
          split
          · exact raises_ok _
          · exact raises_error_iff.mpr hvalidation
    · rw [TargetCatalogue.validate_eq_error he]
      exact hvalidation
  unfold readCatalogue invalidCatalogue
  split
  · exact raises_error_iff.mpr (storageFailed_ne _)
  · exact raises_error_iff.mpr (storageFailed_ne _)
  · exact hread

/-- **A reader keeps to its protocol.** -/
theorem follows_getCatalogue :
    (getCatalogue interpreter lax p).Follows (sqlProtocol (.getCatalogue p))
      (sqlEnding interpreter lax (.getCatalogue p)) .fresh := by
  refine Program.Follows.bind (Q := fun result φ => ∃ result', QueryEnds result' φ ∧
    result = Program.reify sqliteError result') ?_ ?_ ?_
  · exact Program.Follows.attempt (follows_queryCatalogue.mono fun result φ h => ⟨result, h, rfl⟩)
  · rintro outcome φ ⟨result', hends, hreify⟩
    cases outcome with
    | error message =>
      cases result' with
      | ok found => cases hreify
      | error e => exact sqlEnding_error hends.1 (storageFailed_ne message)
    | ok found =>
      obtain rfl := Program.reify_eq_ok.mp hreify.symm
      rcases found with _ | ⟨revision, rows⟩
      · obtain rfl : φ = .counted none := hends
        show sqlEnding interpreter lax _ (TargetCatalogue.validate p 0 []) _
        cases hvalid : TargetCatalogue.validate p 0 [] with
        | ok c => exact .inl ⟨rfl, hvalid⟩
        | error e =>
          rw [TargetCatalogue.validate_eq_error hvalid]
          refine sqlEnding_error not_false fun h => ?_
          cases h
      · obtain rfl : φ = .listed revision rows := hends
        show sqlEnding interpreter lax _ (readCatalogue interpreter lax p revision rows) _
        cases hread : readCatalogue interpreter lax p revision rows with
        | ok c => exact .inr ⟨revision, rows, rfl, hread⟩
        | error e => exact sqlEnding_error not_false (readCatalogue_raises revision rows e hread)
  · rintro e φ ⟨result', hends, hreify⟩
    cases result' with
    | ok found => cases hreify
    | error e' =>
      obtain rfl : e = e' := by
        rw [Program.reify] at hreify
        split at hreify
        · cases hreify
        · exact Except.error.inj hreify
      exact sqlEnding_error hends.1 hends.2

/-! ### Writers -/

section Writers

variable {candidate : TargetCatalogue} {expectedRevision : Int} {encoded : List String}

/-- How the transaction of a writer ends. -/
def WriteEnds (candidate : TargetCatalogue) : Except PyException TargetCatalogue → SqlPhase → Prop
  | .ok c, φ => c = candidate ∧ φ.HasCommitted
  | .error e, φ => φ.Failing ∧ (e = catalogConflict → φ = .stale)

theorem writeEnds_refused (hφ : φ.Failing) (he : ∃ message, e = .sqlite message) :
    WriteEnds candidate (.error e) φ := by
  obtain ⟨message, rfl⟩ := he
  refine ⟨hφ, fun h => ?_⟩
  cases h

/-- Rows that are inserted follow those of the transaction. -/
theorem follows_insertTargets (rows : List TargetRow) (db' : Database) :
    (insertTargets rows).Follows (sqlProtocol r) (fun result φ => ∃ db'', φ = .working db db'' ∧
      match result with
      | .ok () => db''.revisions = db'.revisions ∧ db''.targets = db'.targets ++ rows
      | .error e => ∃ message, e = .sqlite message) (.working db db') := by
  induction rows generalizing db' with
  | nil => exact ⟨db', rfl, rfl, (List.append_nil _).symm⟩
  | cons row rows ih =>
    refine Program.follows_call_bind trivial ?_ ?_
    · rintro _ φ ⟨db₁, hinsert, rfl⟩
      obtain ⟨hrevisions, htargets⟩ := insertTarget_ok hinsert
      refine (ih db₁).mono fun result φ h => ?_
      obtain ⟨db₂, hφ, h⟩ := h
      refine ⟨db₂, hφ, ?_⟩
      cases result with
      | error e => exact h
      | ok _ => exact ⟨h.1.trans hrevisions, by rw [h.2, htargets, List.append_assoc]; rfl⟩
    · rintro e φ ⟨he, rfl⟩
      exact ⟨db', rfl, he⟩

variable (hrevision : (candidate.revision : Int) = expectedRevision + 1)
  (hencodes : Encodes candidate.targets encoded)
  (hexpected : (db.revisions.get? candidate.provider).getD 0 = expectedRevision)

include hrevision hencodes hexpected

/-- The end of a transaction: the rows are inserted and the transaction is committed. -/
theorem follows_storeTargets
    (hrevisions : db'.revisions = db.revisions.insert candidate.provider candidate.revision)
    (htargets : db'.targets = db.targets.filter (·.provider ≠ candidate.provider.val)) :
    Program.Follows
      (sqlProtocol (.replaceCatalogue candidate.provider expectedRevision candidate.targets))
      (WriteEnds candidate)
      (do
        insertTargets (candidate.targets.zipWith (targetRow candidate.provider) encoded)
        call .commit
        pure candidate) (.working db db') := by
  refine (follows_insertTargets _ db').bind ?_ ?_
  · rintro _ φ ⟨db'', rfl, hrevisions', htargets'⟩
    have hreplaced : Replaced candidate expectedRevision encoded db db'' :=
      ⟨hexpected, hrevisions'.trans hrevisions, htargets'.trans (htargets ▸ rfl)⟩
    refine Program.follows_call_bind ⟨candidate, encoded,
      TargetCatalogue.validate_eq_ok_iff.mpr ⟨rfl, hrevision, rfl⟩, hencodes, hreplaced⟩ ?_ ?_
    · rintro _ φ ⟨db₁, db₁', -, rfl⟩
      exact ⟨rfl, trivial⟩
    · rintro e φ ⟨he, rfl⟩
      exact writeEnds_refused trivial he
  · rintro e φ ⟨db'', rfl, he⟩
    exact writeEnds_refused trivial he

/-- A provider that has no revision yet. -/
theorem follows_insertCatalogue (hrow : db.revisions.get? candidate.provider = none) :
    Program.Follows
      (sqlProtocol (.replaceCatalogue candidate.provider expectedRevision candidate.targets))
      (WriteEnds candidate)
      (do
        call (.insertRevision candidate.provider candidate.revision)
        insertTargets (candidate.targets.zipWith (targetRow candidate.provider) encoded)
        call .commit
        pure candidate) (.working db db) := by
  refine Program.follows_call_bind trivial ?_ ?_
  · rintro _ φ ⟨db₁, hinsert, rfl⟩
    obtain ⟨hrevisions, htargets⟩ := insertRevision_ok hinsert
    exact follows_storeTargets hrevision hencodes hexpected hrevisions
      (htargets.trans (Database.filter_of_no_revision hrow).symm)
  · rintro e φ ⟨he, rfl⟩
    exact writeEnds_refused trivial he

/-- A provider that has a revision. -/
theorem follows_updateCatalogue {current : Int}
    (hrow : db.revisions.get? candidate.provider = some current) :
    Program.Follows
      (sqlProtocol (.replaceCatalogue candidate.provider expectedRevision candidate.targets))
      (WriteEnds candidate)
      (do
        call (.updateRevision candidate.revision candidate.provider)
        call (.deleteTargets candidate.provider)
        insertTargets (candidate.targets.zipWith (targetRow candidate.provider) encoded)
        call .commit
        pure candidate) (.working db db) := by
  refine Program.follows_call_bind trivial ?_ ?_
  · rintro _ φ ⟨db₁, hupdate, rfl⟩
    obtain ⟨hrevisions, htargets⟩ := updateRevision_ok hrow hupdate
    refine Program.follows_call_bind trivial ?_ ?_
    · rintro _ φ ⟨db₂, hdelete, rfl⟩
      cases hdelete
      exact follows_storeTargets hrevision hencodes hexpected hrevisions (congrArg _ htargets)
    · rintro e φ ⟨he, rfl⟩
      exact writeEnds_refused trivial he
  · rintro e φ ⟨he, rfl⟩
    exact writeEnds_refused trivial he

omit hexpected in
/-- The transaction of a writer. -/
theorem follows_replaceTransaction :
    (replaceTransaction candidate expectedRevision encoded).Follows
      (sqlProtocol (.replaceCatalogue candidate.provider expectedRevision candidate.targets))
      (WriteEnds candidate) .outside := by
  refine Program.follows_call_bind ⟨_, _, _, rfl⟩ ?_ ?_
  · rintro _ φ ⟨db, rfl⟩
    refine Program.follows_call_bind ⟨rfl, _, _, rfl⟩ ?_ ?_
    · rintro row φ ⟨db₁, db₁', hworking, rfl, rfl⟩
      obtain ⟨rfl, rfl⟩ := SqlPhase.working.inj hworking
      by_cases hexpected : (db.revisions.get? candidate.provider).getD 0 = expectedRevision
      · rw [if_pos hexpected, if_neg (not_not.mpr hexpected)]
        cases hbound : bindInteger candidate.revision with
        | error e =>
          refine ⟨trivial, ?_⟩
          rintro rfl
          unfold bindInteger at hbound
          split at hbound <;> cases hbound
        | ok revision =>
          obtain rfl := bindInteger_eq_ok hbound
          cases hrow : db.revisions.get? candidate.provider with
          | none => exact follows_insertCatalogue hrevision hencodes hexpected hrow
          | some current => exact follows_updateCatalogue hrevision hencodes hexpected hrow
      · rw [if_neg hexpected, if_pos hexpected]
        exact ⟨trivial, fun _ => rfl⟩
    · rintro e φ ⟨he, rfl⟩
      exact writeEnds_refused trivial he
  · rintro e φ ⟨he, rfl⟩
    exact writeEnds_refused trivial he

omit hexpected in
/-- The clauses that roll a failed transaction back. -/
theorem follows_rollback :
    Program.Follows
      (sqlProtocol (.replaceCatalogue candidate.provider expectedRevision candidate.targets))
      (WriteEnds candidate)
      (do
        match ← (replaceTransaction candidate expectedRevision encoded).attempt rolledBack with
        | .ok candidate => pure candidate
        | .error e => do
          call .rollback
          Program.raise e) .outside := by
  refine Program.Follows.bind (Q := fun result φ => ∃ result', WriteEnds candidate result' φ ∧
    result = Program.reify rolledBack result') ?_ ?_ ?_
  · exact Program.Follows.attempt
      ((follows_replaceTransaction hrevision hencodes).mono fun result φ h => ⟨result, h, rfl⟩)
  · rintro outcome φ ⟨result', hends, hreify⟩
    cases outcome with
    | ok c =>
      obtain rfl := Program.reify_eq_ok.mp hreify.symm
      exact hends
    | error e =>
      cases result' with
      | ok c => cases hreify
      | error e' =>
        have hcaught : rolledBack e' = some e := by
          rw [Program.reify] at hreify
          split at hreify
          · rename_i hcaught
            rw [hcaught, Except.error.inj (Except.ok.inj hreify)]
          · cases hreify
        have hstale : e = catalogConflict → φ = .stale := by
          rintro rfl
          cases e' with
          | repository code message => exact hends.2 (Option.some.inj hcaught)
          | sqlite message => exact absurd (Option.some.inj hcaught) (storageFailed_ne message)
          | _ => cases hcaught
        refine Program.follows_call_bind hends.1.may_rollback ?_ ?_
        · rintro _ φ' rfl
          exact ⟨hends.1.ended, fun he => by rw [hstale he]; rfl⟩
        · rintro e φ' ⟨he, rfl⟩
          exact writeEnds_refused hends.1 he
  · rintro e φ ⟨result', hends, hreify⟩
    cases result' with
    | ok c => cases hreify
    | error e' =>
      obtain rfl : e = e' := by
        rw [Program.reify] at hreify
        split at hreify
        · cases hreify
        · exact Except.error.inj hreify
      exact hends

end Writers

/-- What closing the connection leaves of the end of a writer. -/
theorem WriteEnds.close {candidate : TargetCatalogue} {expectedRevision : Int}
    {targets : List StoredTarget} {result : Except PyException TargetCatalogue}
    (hvalid : TargetCatalogue.validate p (expectedRevision + 1) targets = .ok candidate)
    (h : WriteEnds candidate result φ) :
    (call .close).Follows (sqlProtocol (.replaceCatalogue p expectedRevision targets))
      (fun u => sqlEnding interpreter lax (.replaceCatalogue p expectedRevision targets)
        (Program.cleanedUp result u)) φ := by
  refine Program.follows_call ?_ fun reply φ' hmoves => ?_
  · cases result with
    | ok c => exact h.2.may_close
    | error e => exact h.1.may_close
  · cases reply with
    | error e => exact hmoves.elim
    | ok _ =>
      obtain rfl : φ' = φ.ended := hmoves
      cases result with
      | ok c =>
        obtain ⟨rfl, hφ⟩ := h
        exact ⟨hφ.ended, hvalid⟩
      | error e =>
        exact ⟨h.1.ended.not_hasCommitted, fun he =>
          ⟨by rw [h.2 he]; rfl, p, expectedRevision, targets, candidate, rfl, hvalid⟩⟩

/-- **A writer keeps to its protocol.** -/
theorem follows_replaceCatalogue {expectedRevision : Int} {targets : List StoredTarget} :
    (replaceCatalogue p expectedRevision targets).Follows
      (sqlProtocol (.replaceCatalogue p expectedRevision targets))
      (sqlEnding interpreter lax (.replaceCatalogue p expectedRevision targets)) .fresh := by
  unfold replaceCatalogue
  cases hcandidate : TargetCatalogue.validate p (expectedRevision + 1) targets with
  | error e =>
    rw [TargetCatalogue.validate_eq_error hcandidate]
    refine sqlEnding_error not_false fun h => ?_
    cases h
  | ok candidate =>
    have hvalid := hcandidate
    obtain ⟨rfl, hrevision, rfl⟩ := TargetCatalogue.validate_eq_ok_iff.mp hcandidate
    cases hencoded : candidate.targets.mapM fun target => encodeSelector target.selector with
    | error e =>
      simp only [Program.bind_eq, Program.done_ok_bind, hencoded, Program.done_error_bind]
      have hraises : Raises (· ≠ catalogConflict)
          (candidate.targets.mapM fun target => encodeSelector target.selector) := by
        refine raises_mapM (fun target => ?_) _
        unfold encodeSelector Python.dumps
        split
        · exact raises_ok _
        · refine raises_error_iff.mpr fun h => ?_
          cases h
      exact sqlEnding_error not_false (hraises e hencoded)
    | ok encoded =>
      simp only [Program.bind_eq, Program.done_ok_bind, hencoded]
      split
      · refine sqlEnding_error not_false fun h => ?_
        injection h with hcode
        exact absurd hcode (by decide)
      rename_i hsize
      have hencodes : Encodes candidate.targets encoded := by
        refine ⟨hencoded, fun text htext => not_lt.mp fun h => hsize ?_⟩
        exact List.any_eq_true.mpr ⟨text, htext, decide_eq_true h⟩
      refine follows_connect.bind ?_ ?_
      · rintro _ φ (⟨-, rfl⟩ | ⟨⟨message, h⟩, -⟩)
        · exact (follows_rollback hrevision hencodes).finally_ fun result φ h => h.close hvalid
        · cases h
      · rintro e φ (⟨h, -⟩ | ⟨⟨message, h⟩, rfl⟩)
        · cases h
        · cases h
          exact sqlEnding_error not_false (storageFailed_ne message)

end Follows

/-! ## The outline -/

section Valid

variable {interpreter : Python.Interpreter} {lax : Json → Option JsonScalar} {s t : Store}
  {i k : ℕ} {φ ψ : SqlPhase} {r : RepositoryCall} {c : SqlCall} {reply : Except PyException c.Reply}
  {db db' : Database}

namespace Store

theorem view_of_writer (h : s.writer = some (i, db)) : s.view i = db := by
  rw [view, h]
  exact if_pos rfl

theorem view_of_not_writer (h : ∀ db, s.writer ≠ some (i, db)) : s.view i = s.committed := by
  rw [view]
  split
  · rename_i k db hwriter
    refine if_neg ?_
    rintro rfl
    exact h db hwriter
  · rfl

@[simp] theorem release_committed (s : Store) (i : ℕ) : (s.release i).committed = s.committed := by
  unfold release
  split
  · split <;> rfl
  · rfl

theorem release_writer_self (s : Store) (i : ℕ) (db : Database) :
    (s.release i).writer ≠ some (i, db) := by
  unfold release
  split
  · rename_i k db' hwriter
    split
    · exact fun h => by cases h
    · rename_i hk
      rw [hwriter]
      intro h
      cases h
      exact hk rfl
  · rename_i hwriter
    rw [hwriter]
    exact fun h => by cases h

theorem release_writer_iff (hk : k ≠ i) :
    (s.release i).writer = some (k, db) ↔ s.writer = some (k, db) := by
  unfold release
  split
  · rename_i j db' hwriter
    split
    · rename_i hj
      refine iff_of_false (fun h => by cases h) fun h => hk ?_
      rw [hwriter] at h
      cases h
      exact hj
    · rfl
  · rfl

/-- What a connection does leaves the transaction of another, and the tables it began with. -/
theorem Answers.frame (h : s.Answers i c reply t)
    (hcommit : c = .commit → ∃ db, s.writer = some (i, db)) (hk : k ≠ i) :
    (∀ db, t.writer = some (k, db) ↔ s.writer = some (k, db)) ∧
      ∀ db, s.writer = some (k, db) → t.committed = s.committed := by
  cases h with
  | refused message hclose => exact ⟨fun _ => .rfl, fun _ _ => rfl⟩
  | accepted hlocked =>
    have hchange : c.Writes → ∀ r : Except String Database,
        (∀ db, (s.change i r).2.writer = some (k, db) ↔ s.writer = some (k, db)) ∧
          ∀ db, s.writer = some (k, db) → (s.change i r).2.committed = s.committed := by
      intro hwrites r
      have hfree : ∀ db, s.writer ≠ some (k, db) :=
        fun db hwriter => hlocked hwrites ⟨k, db, hwriter, hk⟩
      refine ⟨fun db => iff_of_false ?_ (hfree db), fun db hwriter => absurd hwriter (hfree db)⟩
      cases r with
      | ok db' =>
        intro h
        cases h
        exact hk rfl
      | error message => exact hfree db
    cases c with
    | connect => exact ⟨fun _ => release_writer_iff hk, fun _ _ => release_committed s i⟩
    | beginImmediate => exact hchange trivial (.ok s.committed)
    | selectRevision p => exact ⟨fun _ => .rfl, fun _ _ => rfl⟩
    | selectTargets p => exact ⟨fun _ => .rfl, fun _ _ => rfl⟩
    | insertRevision p revision => exact hchange trivial _
    | updateRevision revision p => exact hchange trivial _
    | deleteTargets p => exact hchange trivial _
    | insertTarget row => exact hchange trivial _
    | commit =>
      refine ⟨fun _ => release_writer_iff hk, fun db hwriter => ?_⟩
      obtain ⟨db', hown⟩ := hcommit rfl
      rw [hown] at hwriter
      cases hwriter
      exact absurd rfl hk
    | rollback => exact ⟨fun _ => release_writer_iff hk, fun _ _ => release_committed s i⟩
    | close => exact ⟨fun _ => release_writer_iff hk, fun _ _ => release_committed s i⟩

end Store

/-- What a phase asserts is about the transaction of its connection. -/
theorem SqlPhase.Asserts.frame (h : φ.Asserts k s)
    (hwriter : ∀ db, t.writer = some (k, db) ↔ s.writer = some (k, db))
    (hcommitted : ∀ db, s.writer = some (k, db) → t.committed = s.committed) : φ.Asserts k t := by
  cases φ with
  | fresh => trivial
  | outside => exact fun db hw => h db ((hwriter db).mp hw)
  | counted row => exact fun db hw => h db ((hwriter db).mp hw)
  | listed revision rows => exact fun db hw => h db ((hwriter db).mp hw)
  | working db db' => exact ⟨(hcommitted db' h.2).trans h.1, (hwriter db').mpr h.2⟩
  | stale => trivial
  | committed db db' => trivial

/-- A writer commits its own transaction. -/
theorem writer_of_commit (hφ : φ.Asserts i s) (hmay : sqlMay r φ .commit) :
    ∃ db db', φ = .working db db' ∧ s.committed = db ∧ s.writer = some (i, db') := by
  cases φ with
  | working db db' => exact ⟨db, db', rfl, hφ⟩
  | _ => exact hmay.elim

/-- Where a change of the tables of its transaction leads a writer. -/
theorem own_change {f : Database → Except String Database}
    {M : Except PyException Unit → SqlPhase → Prop} (hφ : (SqlPhase.working db db').Asserts i s)
    (hok : ∀ db'', f db' = .ok db'' → M (.ok ()) (.working db db''))
    (herror : ∀ message, M (.error (.sqlite message)) (.working db db')) :
    ∃ φ', M (s.change i (f (s.view i))).1 φ' ∧ φ'.Asserts i (s.change i (f (s.view i))).2 := by
  rw [Store.view_of_writer hφ.2]
  cases hf : f db' with
  | error message => exact ⟨_, herror message, hφ⟩
  | ok db'' => exact ⟨_, hok db'' hf, hφ.1, rfl⟩

/-- The end of its transaction leaves a writer without one. -/
theorem asserts_ended (φ : SqlPhase) : φ.ended.Asserts i (s.release i) := by
  cases φ with
  | fresh => trivial
  | outside => exact Store.release_writer_self s i
  | counted row => exact Store.release_writer_self s i
  | listed revision rows => exact Store.release_writer_self s i
  | working db db' => exact Store.release_writer_self s i
  | stale => trivial
  | committed db db' => trivial

/-- **What a phase asserts is kept by the statements of its own connection.** -/
theorem own_kept (hφ : φ.Asserts i s) (hmay : sqlMay r φ c) (h : s.Answers i c reply t) :
    ∃ φ', sqlMoves r φ c reply φ' ∧ φ'.Asserts i t := by
  cases h with
  | refused message hclose =>
    refine ⟨φ, ?_, hφ⟩
    cases c with
    | close => exact absurd rfl hclose
    | _ => exact ⟨⟨message, rfl⟩, rfl⟩
  | accepted hlocked =>
    cases c with
    | connect => exact ⟨.outside, rfl, Store.release_writer_self s i⟩
    | beginImmediate => exact ⟨.working s.committed s.committed, ⟨s.committed, rfl⟩, rfl, rfl⟩
    | selectRevision p =>
      cases φ with
      | outside =>
        obtain rfl : r = .getCatalogue p := hmay
        exact ⟨.counted ((s.view i).revisions.get? p), rfl, hφ⟩
      | working db db' =>
        obtain ⟨rfl, expectedRevision, targets, rfl⟩ := hmay
        refine ⟨_, ⟨db', db', rfl, ?_, rfl⟩, ?_⟩
        · rw [Store.view_of_writer hφ.2]
        · split
          · exact hφ
          · trivial
      | _ => exact hmay.elim
    | selectTargets p =>
      cases φ with
      | counted row =>
        obtain ⟨revision, rfl⟩ := Option.isSome_iff_exists.mp hmay.2
        exact ⟨.listed revision _, ⟨revision, rfl, rfl⟩, hφ⟩
      | _ => exact hmay.elim
    | insertRevision p revision =>
      cases φ with
      | working db db' =>
        exact own_change (f := (·.insertRevision p revision))
          (M := fun reply φ' => sqlMoves r (.working db db') (.insertRevision p revision) reply φ')
          hφ (fun db'' h => ⟨db'', h, rfl⟩) fun message => ⟨⟨message, rfl⟩, rfl⟩
      | _ => exact hmay.elim
    | updateRevision revision p =>
      cases φ with
      | working db db' =>
        exact own_change (f := (·.updateRevision revision p))
          (M := fun reply φ' => sqlMoves r (.working db db') (.updateRevision revision p) reply φ')
          hφ (fun db'' h => ⟨db'', h, rfl⟩) fun message => ⟨⟨message, rfl⟩, rfl⟩
      | _ => exact hmay.elim
    | deleteTargets p =>
      cases φ with
      | working db db' =>
        exact own_change (f := fun db => .ok (db.deleteTargets p))
          (M := fun reply φ' => sqlMoves r (.working db db') (.deleteTargets p) reply φ')
          hφ (fun db'' h => ⟨db'', h, rfl⟩) fun message => ⟨⟨message, rfl⟩, rfl⟩
      | _ => exact hmay.elim
    | insertTarget row =>
      cases φ with
      | working db db' =>
        exact own_change (f := (·.insertTarget row))
          (M := fun reply φ' => sqlMoves r (.working db db') (.insertTarget row) reply φ')
          hφ (fun db'' h => ⟨db'', h, rfl⟩) fun message => ⟨⟨message, rfl⟩, rfl⟩
      | _ => exact hmay.elim
    | commit =>
      obtain ⟨db, db', rfl, -⟩ := writer_of_commit hφ hmay
      exact ⟨.committed db db', ⟨db, db', rfl, rfl⟩, trivial⟩
    | rollback => exact ⟨φ.ended, rfl, asserts_ended φ⟩
    | close => exact ⟨φ.ended, rfl, asserts_ended φ⟩

/-- **The outline is valid.** -/
theorem sqlOutline_valid : (sqlOutline interpreter lax).Valid where
  follows r := by
    cases r with
    | getCatalogue p => exact follows_getCatalogue
    | replaceCatalogue p expectedRevision targets => exact follows_replaceCatalogue
  own _ _ _ _ _ _ _ _ hφ hmay h := ⟨trivial, own_kept hφ hmay h⟩
  other i r φ c s reply s' k r' ψ hk _ hφ hmay h hψ := by
    have hcommit : c = .commit → ∃ db, s.writer = some (i, db) := by
      rintro rfl
      obtain ⟨db, db', -, -, hwriter⟩ := writer_of_commit hφ hmay
      exact ⟨db', hwriter⟩
    obtain ⟨hwriter, hcommitted⟩ := Store.Answers.frame h hcommit hk
    exact SqlPhase.Asserts.frame hψ hwriter hcommitted
  started M r s' hstarts _ := by
    obtain rfl : s' = M.shared := hstarts
    exact ⟨trivial, trivial, fun _ _ _ h => h, fun _ _ => ⟨trivial, trivial⟩⟩
  stopped i r φ s k r' ψ hk _ hψ :=
    SqlPhase.Asserts.frame hψ (fun _ => Store.release_writer_iff hk)
      fun _ _ => Store.release_committed s i
  releases _ _ _ := trivial

end Valid

/-! ## One caller at a time -/

section Serve

variable {interpreter : Python.Interpreter} {lax : Json → Option JsonScalar} {i : ℕ} {s : Store}

namespace Store

theorem not_locked (h : s.writer = none) : ¬ s.Locked i := by
  rintro ⟨k, db, hwriter, -⟩
  rw [h] at hwriter
  cases hwriter

/-- A connection leaves no other one in the way. -/
theorem accept_not_locked (hs : ¬ s.Locked i) (c : SqlCall) : ¬ (s.accept i c).2.Locked i := by
  have hrelease : ¬ (s.release i).Locked i := by
    rintro ⟨k, db, hwriter, hk⟩
    exact hs ⟨k, db, (release_writer_iff hk).mp hwriter, hk⟩
  have hchange : ∀ r : Except String Database, ¬ (s.change i r).2.Locked i := by
    intro r
    cases r with
    | error message => exact hs
    | ok db =>
      rintro ⟨k, db', hwriter, hk⟩
      cases hwriter
      exact hk rfl
  cases c with
  | connect => exact hrelease
  | beginImmediate => exact hchange (.ok s.committed)
  | selectRevision p => exact hs
  | selectTargets p => exact hs
  | insertRevision p revision => exact hchange _
  | updateRevision revision p => exact hchange _
  | deleteTargets p => exact hchange _
  | insertTarget row => exact hchange _
  | commit => exact hrelease
  | rollback => exact hrelease
  | close => exact hrelease

end Store

/-- The statements of a caller may all be accepted. -/
theorem granted_accept {p : Sql TargetCatalogue} (hs : ¬ s.Locked i) :
    p.Granted (sqliteSystem interpreter lax) (fun c s => s.accept i c) i s := by
  induction p generalizing s with
  | done r => trivial
  | ask c next ih => exact ⟨.accepted fun _ => hs, ih _ (Store.accept_not_locked hs c)⟩

variable (interpreter lax) in
/-- A call whose statements are all accepted, while nobody else does anything. -/
def serve (M : Machine RepositoryCall sql PyException Store TargetCatalogue) (r : RepositoryCall) :
    Machine RepositoryCall sql PyException Store TargetCatalogue :=
  let o := (program interpreter lax r).exec (fun c s => s.accept M.processes.length c) M.shared
  ⟨o.state, M.processes ++ [⟨r, .done o.result, false⟩]⟩

variable (interpreter lax) in
theorem run_serve (M : Machine RepositoryCall sql PyException Store TargetCatalogue)
    (hM : M.shared.writer = none) (r : RepositoryCall) : ∃ events,
    (sqliteSystem interpreter lax).Run (fun _ _ _ => True) M events (serve interpreter lax M r) :=
  ⟨_, System.run_started (rfl : M.shared = M.shared)
    (granted_accept (Store.not_locked hM))⟩

end Serve

end Snarkypuss
