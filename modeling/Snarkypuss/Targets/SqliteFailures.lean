import Snarkypuss.Targets.SqliteTransactions

/-!
# How a replacement fails

A replacement in the database answers every failure with a `RepositoryError`, but for three: a
catalogue that its model refuses, a rollback that the database refuses in its turn, and a revision
that no column can hold.

## Main definitions

* `Escapes`: a result that raises something other than a `RepositoryError`
* `RollbackRefused`, `Overflows`: the two failures of the transaction that escape

## Main results

* `replaceCatalogue_escapes_iff`: exactly when a replacement raises something else
* `replaceCatalogue_stale`: a stale revision is a conflict, when no statement is refused
-/

namespace Snarkypuss

open SqliteTargetRepository

variable {σ : Type} {faults : Faults σ} {p : Identifier} {candidate : TargetCatalogue}
  {expectedRevision : Int} {encoded : List String} {s : Connection σ}

/-- The result raises something other than a `RepositoryError`. -/
def Escapes {A : Type} (r : Except PyException A) : Prop :=
  ∃ e, r = .error e ∧ e.repository? = none

theorem not_escapes_ok {A : Type} (a : A) : ¬ Escapes (.ok a) := by
  rintro ⟨e, he, -⟩
  cases he

theorem escapes_error_iff {A : Type} {e : PyException} :
    Escapes (.error e : Except PyException A) ↔ e.repository? = none := by
  constructor
  · rintro ⟨e', he, hnone⟩
    cases he
    exact hnone
  · exact fun h => ⟨e, rfl, h⟩

/-- Some statement among the exchanges was refused. -/
def Refused (xs : List (Exchange sql PyException (Connection σ))) : Prop :=
  ∃ x ∈ xs, ∃ e, x.reply = .error e

/-- The rollback among the exchanges was refused. -/
def RollbackRefused (xs : List (Exchange sql PyException (Connection σ))) : Prop :=
  ∃ x ∈ xs, x.call = .rollback ∧ ∃ e, x.reply = .error e

theorem refused_cons_iff {x : Exchange sql PyException (Connection σ)}
    {xs : List (Exchange sql PyException (Connection σ))} :
    Refused (x :: xs) ↔ (∃ e, x.reply = .error e) ∨ Refused xs := by
  simp [Refused]

theorem not_refused_of_ok (c : SqlCall) (b : c.Reply) (s : Connection σ) :
    ¬ Refused [(⟨c, .ok b, s⟩ : Exchange sql PyException (Connection σ))] := by
  rintro ⟨x, hx, e, he⟩
  obtain rfl := List.mem_singleton.mp hx
  cases he

/-- A statement that is accepted, and what follows it. -/
theorem exec_call_ok {A : Type} {c : SqlCall} {f : c.Reply → Sql A} {a : c.Reply}
    {s' : Connection σ} (h : sqlite faults c s = (.ok a, s')) :
    ((call c).bind f).exec (sqlite faults) s =
      ⟨⟨c, .ok a, s'⟩ :: ((f a).exec (sqlite faults) s').exchanges,
        ((f a).exec (sqlite faults) s').result, ((f a).exec (sqlite faults) s').state⟩ := by
  have hcall : (call c).exec (sqlite faults) s = ⟨[⟨c, .ok a, s'⟩], .ok a, s'⟩ := by
    show (⟨[⟨c, (sqlite faults c s).1, (sqlite faults c s).2⟩], (sqlite faults c s).1,
      (sqlite faults c s).2⟩ : Outcome sql PyException (Connection σ) c.Reply) = _
    rw [h]
  have hresult : ((call c).exec (sqlite faults) s).result = .ok a := by rw [hcall]
  rw [Program.exec_bind_of_ok (sqlite faults) hresult, hcall]
  rfl

/-- A statement that is refused ends the program. -/
theorem exec_call_error {A : Type} {c : SqlCall} {f : c.Reply → Sql A} {e : PyException}
    {s' : Connection σ} (h : sqlite faults c s = (.error e, s')) :
    ((call c).bind f).exec (sqlite faults) s = ⟨[⟨c, .error e, s'⟩], .error e, s'⟩ := by
  have hcall : (call c).exec (sqlite faults) s = ⟨[⟨c, .error e, s'⟩], .error e, s'⟩ := by
    show (⟨[⟨c, (sqlite faults c s).1, (sqlite faults c s).2⟩], (sqlite faults c s).1,
      (sqlite faults c s).2⟩ : Outcome sql PyException (Connection σ) c.Reply) = _
    rw [h]
  have hresult : ((call c).exec (sqlite faults) s).result = .error e := by rw [hcall]
  rw [Program.exec_bind_of_error (sqlite faults) hresult, hcall]

/-! ## The transaction -/

theorem bindInteger_cases (n : Int) :
    bindInteger n = .ok n ∧ n < 2 ^ 63 ∨
      bindInteger n = .error (.other "OverflowError") ∧ 2 ^ 63 ≤ n := by
  unfold bindInteger
  split
  · rename_i h
    exact .inl ⟨rfl, h⟩
  · rename_i h
    exact .inr ⟨rfl, not_lt.mp h⟩

/-- A refusal of the database is a `sqlite3.Error`. -/
def SqliteRefusal (c : SqlCall) (r : Except PyException c.Reply) : Prop :=
  ∀ e, r = .error e → ∃ message, e = .sqlite message

/-- The result is `a`, or the database refused some statement and that is raised. -/
def EndsOr {A : Type} (a : A) (o : Outcome sql PyException (Connection σ) A) : Prop :=
  o.result = .ok a ∨ (∃ message, o.result = .error (.sqlite message)) ∧ Refused o.exchanges

theorem sqlite_refusal (c : SqlCall) (s : Connection σ) :
    SqliteRefusal c (sqlite faults c s).1 := by
  have hchange : ∀ (s : Connection σ) r e, (s.change r).1 = .error e →
      ∃ message, e = .sqlite message := by
    rintro s (message | db) e he
    · cases he
      exact ⟨message, rfl⟩
    · cases he
  intro e he
  rcases sqlite_cases faults c s with ⟨message, w, h⟩ | ⟨w, h⟩
  · rw [h] at he
    cases he
    exact ⟨message, rfl⟩
  · rw [h] at he
    cases c with
    | insertRevision p r => exact hchange _ _ _ he
    | updateRevision r p => exact hchange _ _ _ he
    | deleteTargets p => exact hchange _ _ _ he
    | insertTarget row => exact hchange _ _ _ he
    | _ => cases he

/-- A program that only the database can stop. -/
theorem endsOr_exec {A : Type} {p : Sql A} {a : A}
    (hok : p.Answered (fun _ r => ∃ b, r = .ok b) (· = .ok a))
    (hsql : p.Answered SqliteRefusal fun r => r = .ok a ∨ ∃ message, r = .error (.sqlite message))
    (s : Connection σ) : EndsOr a (p.exec (sqlite faults) s) := by
  by_cases hrefused : Refused (p.exec (sqlite faults) s).exchanges
  · rcases hsql.result (h := sqlite faults) sqlite_refusal s with h | h
    · exact .inl h
    · exact .inr ⟨h, hrefused⟩
  · refine .inl (hok.exchanges fun x hx => ?_)
    cases hreply : x.reply with
    | ok b => exact ⟨b, rfl⟩
    | error e => exact absurd ⟨x, hx, e, hreply⟩ hrefused

/-- The rows and the commit. -/
theorem endsOr_storeTargets (rows : List TargetRow) (s : Connection σ) :
    EndsOr candidate (((insertTargets rows).bind fun _ => (call .commit).bind fun _ =>
      Program.done (.ok candidate)).exec (sqlite faults) s) := by
  refine endsOr_exec ?_ ?_ s
  · have hrows : (insertTargets rows).Answered (fun _ r => ∃ b, r = .ok b) (· = .ok ()) := by
      induction rows with
      | nil => rfl
      | cons row rows ih =>
        refine Program.Answered.bind (p := call _) (Q := fun r => ∃ b, r = .ok b)
          (fun r hr => hr) (fun _ _ => ih) fun e he => ?_
        obtain ⟨b, hb⟩ := he
        cases hb
    refine hrows.bind (fun _ _ => ?_) fun e he => by cases he
    refine Program.Answered.bind (p := call _) (Q := fun r => ∃ b, r = .ok b)
      (fun r hr => hr) (fun _ _ => rfl) fun e he => ?_
    obtain ⟨b, hb⟩ := he
    cases hb
  · have hcall : ∀ (c : SqlCall), (call c).Answered SqliteRefusal (SqliteRefusal c) :=
      fun c r hr => hr
    have hrows : (insertTargets rows).Answered SqliteRefusal fun r =>
        ∀ e, r = .error e → ∃ message, e = .sqlite message := by
      induction rows with
      | nil => exact fun e he => by cases he
      | cons row rows ih =>
        refine (hcall _).bind (fun _ _ => ih) fun e he e' he' => ?_
        cases he'
        exact he e rfl
    refine hrows.bind (fun _ _ => ?_) fun e he => ?_
    · refine (hcall _).bind (fun _ _ => .inl rfl) fun e he => ?_
      obtain ⟨message, rfl⟩ := he e rfl
      exact .inr ⟨message, rfl⟩
    · obtain ⟨message, rfl⟩ := he e rfl
      exact .inr ⟨message, rfl⟩

theorem EndsOr.cons {A : Type} {a : A} {o : Outcome sql PyException (Connection σ) A}
    (h : EndsOr a o) (x : Exchange sql PyException (Connection σ)) :
    EndsOr a ⟨x :: o.exchanges, o.result, o.state⟩ := by
  rcases h with h | ⟨h, hrefused⟩
  · exact .inl h
  · exact .inr ⟨h, refused_cons_iff.mpr (.inr hrefused)⟩

/-- A statement before a program that only the database can stop. -/
theorem endsOr_call {A : Type} {a : A} {c : SqlCall} {f : c.Reply → Sql A}
    (hf : ∀ b s, EndsOr a ((f b).exec (sqlite faults) s)) (s : Connection σ) :
    EndsOr a (((call c).bind f).exec (sqlite faults) s) := by
  obtain ⟨r, s', h⟩ : ∃ r s', sqlite faults c s = (r, s') := ⟨_, _, rfl⟩
  cases r with
  | ok b =>
    rw [exec_call_ok h]
    exact (hf b s').cons _
  | error e =>
    have hreply : (sqlite faults c s).1 = .error e := by rw [h]
    obtain ⟨message, rfl⟩ := sqlite_refusal c s e hreply
    rw [exec_call_error h]
    exact .inr ⟨⟨message, rfl⟩, refused_cons_iff.mpr (.inl ⟨_, rfl⟩)⟩

/-- The committed revision of a provider. -/
def Database.revision (db : Database) (p : String) : Int := (db.revisions.get? p).getD 0

/-- How a transaction ends, from the tables it starts from. -/
inductive TransactionEnds (db : Database) (candidate : TargetCatalogue) (expectedRevision : Int)
    (o : Outcome sql PyException (Connection σ) TargetCatalogue) : Prop
  | refused (message : String) (result : o.result = .error (.sqlite message))
    (refused : Refused o.exchanges)
  | stale (result : o.result = .error catalogConflict)
    (revision : db.revision candidate.provider ≠ expectedRevision)
  | overflow (result : o.result = .error (.other "OverflowError"))
    (accepted : ¬ Refused o.exchanges) (revision : db.revision candidate.provider = expectedRevision)
    (bound : 2 ^ 63 ≤ (candidate.revision : Int))
  | replaced (result : o.result = .ok candidate)
    (revision : db.revision candidate.provider = expectedRevision)
    (bound : (candidate.revision : Int) < 2 ^ 63)

variable (faults) in
/-- **How a transaction ends.** -/
theorem replaceTransaction_ends (candidate : TargetCatalogue) (expectedRevision : Int)
    (encoded : List String) (s : Connection σ) :
    TransactionEnds s.committed candidate expectedRevision
      ((replaceTransaction candidate expectedRevision encoded).exec (sqlite faults) s) := by
  simp only [replaceTransaction, Program.bind_eq]
  rcases sqlite_cases faults .beginImmediate s with ⟨message, w, h⟩ | ⟨w, h⟩
  · rw [exec_call_error h]
    exact .refused message rfl (refused_cons_iff.mpr (.inl ⟨_, rfl⟩))
  have hbegin : sqlite faults .beginImmediate s =
      (.ok (), { s with transaction := some s.committed, faults := w }) := h
  rw [exec_call_ok hbegin]
  generalize hs₁ : ({ s with transaction := some s.committed, faults := w } : Connection σ) = s₁
  rcases sqlite_cases faults (.selectRevision candidate.provider) s₁ with
    ⟨message, w', h'⟩ | ⟨w', h'⟩
  · rw [exec_call_error h']
    exact .refused message rfl
      (refused_cons_iff.mpr (.inr (refused_cons_iff.mpr (.inl ⟨_, rfl⟩))))
  have hcurrent : s₁.current = s.committed := by
    rw [← hs₁]
    rfl
  have hselect : sqlite faults (.selectRevision candidate.provider) s₁ =
      (.ok (s.committed.revisions.get? candidate.provider), { s₁ with faults := w' }) := by
    rw [h', ← hcurrent]
    rfl
  rw [exec_call_ok hselect]
  split
  · rename_i hstale
    exact .stale rfl hstale
  rename_i hexpected
  have hexpected : s.committed.revision candidate.provider = expectedRevision :=
    not_not.mp hexpected
  rcases bindInteger_cases candidate.revision with ⟨hbound, hlt⟩ | ⟨hbound, hle⟩
  · rw [hbound, Program.done_ok_bind]
    have hreplaced : ∀ {o : Outcome sql PyException (Connection σ) TargetCatalogue},
        EndsOr candidate o → TransactionEnds s.committed candidate expectedRevision o := by
      rintro o (h | ⟨⟨message, h⟩, hrefused⟩)
      · exact .replaced h hexpected hlt
      · exact .refused message h hrefused
    cases s.committed.revisions.get? candidate.provider with
    | none =>
      exact hreplaced (((endsOr_call (fun _ => endsOr_storeTargets _) _).cons _).cons _)
    | some _ =>
      exact hreplaced
        (((endsOr_call (fun _ => endsOr_call fun _ => endsOr_storeTargets _) _).cons _).cons _)
  · rw [hbound, Program.done_error_bind]
    refine .overflow rfl ?_ hexpected hle
    rintro ⟨x, hx, e, he⟩
    simp only [Program.exec_done, List.mem_cons, List.not_mem_nil, or_false] at hx
    rcases hx with rfl | rfl <;> cases he

/-- The statement is not a rollback. -/
def NotRollback : SqlCall → Prop
  | .rollback => False
  | _ => True

theorem uses_insertTargets (rows : List TargetRow) :
    (insertTargets rows).Uses NotRollback := by
  induction rows with
  | nil => trivial
  | cons row rows ih => exact Program.uses_call_bind trivial fun _ => ih

/-- The transaction does not roll itself back. -/
theorem uses_replaceTransaction (candidate : TargetCatalogue) (expectedRevision : Int)
    (encoded : List String) :
    (replaceTransaction candidate expectedRevision encoded).Uses NotRollback := by
  refine Program.uses_call_bind trivial fun _ => Program.uses_call_bind trivial fun row => ?_
  split
  · trivial
  have hstore : ((insertTargets (candidate.targets.zipWith (targetRow candidate.provider)
      encoded)).bind fun _ => (call .commit).bind fun _ =>
        Program.done (.ok candidate)).Uses NotRollback :=
    (uses_insertTargets _).bind fun _ => Program.uses_call_bind trivial fun _ => trivial
  generalize bindInteger candidate.revision = bound
  refine Program.Uses.bind (p := Program.done bound) trivial fun revision => ?_
  cases row with
  | none => exact Program.uses_call_bind trivial fun _ => hstore
  | some _ =>
    exact Program.uses_call_bind trivial fun _ => Program.uses_call_bind trivial fun _ => hstore

/-! ## The method -/

/-- How the transaction of a replacement ends after its failures are rolled back. -/
inductive AttemptEnds (db : Database) (provider : Identifier) (expectedRevision : Nat)
    (xs : List (Exchange sql PyException (Connection σ))) :
    Except PyException TargetCatalogue → Prop
  | failed (message : String) (refused : Refused xs) (accepted : ¬ RollbackRefused xs) :
    AttemptEnds db provider expectedRevision xs (.error (storageFailed message))
  | rollbackRefused (message : String) (refused : RollbackRefused xs) :
    AttemptEnds db provider expectedRevision xs (.error (.sqlite message))
  | stale (revision : db.revision provider ≠ expectedRevision) (accepted : ¬ RollbackRefused xs) :
    AttemptEnds db provider expectedRevision xs (.error catalogConflict)
  | overflow (accepted : ¬ Refused xs) (revision : db.revision provider = expectedRevision)
    (bound : 2 ^ 63 ≤ (expectedRevision + 1 : Int)) :
    AttemptEnds db provider expectedRevision xs (.error (.other "OverflowError"))
  | replaced (candidate : TargetCatalogue) (revision : db.revision provider = expectedRevision)
    (bound : (expectedRevision + 1 : Int) < 2 ^ 63) (accepted : ¬ RollbackRefused xs) :
    AttemptEnds db provider expectedRevision xs (.ok candidate)

theorem RollbackRefused.refused {xs : List (Exchange sql PyException (Connection σ))}
    (h : RollbackRefused xs) : Refused xs := by
  obtain ⟨x, hx, -, hrefused⟩ := h
  exact ⟨x, hx, hrefused⟩

theorem refused_append_iff {xs ys : List (Exchange sql PyException (Connection σ))} :
    Refused (xs ++ ys) ↔ Refused xs ∨ Refused ys := by
  simp only [Refused, List.mem_append, or_and_right, exists_or]

theorem rollbackRefused_append_iff {xs ys : List (Exchange sql PyException (Connection σ))} :
    RollbackRefused (xs ++ ys) ↔ RollbackRefused xs ∨ RollbackRefused ys := by
  simp only [RollbackRefused, List.mem_append, or_and_right, exists_or]

/-- Statements that are accepted before and after change nothing of it. -/
theorem AttemptEnds.frame {db : Database} {expectedRevision : Nat}
    {xs ys zs : List (Exchange sql PyException (Connection σ))}
    {r : Except PyException TargetCatalogue} (h : AttemptEnds db p expectedRevision ys r)
    (hxs : ¬ Refused xs) (hzs : ¬ Refused zs) :
    AttemptEnds db p expectedRevision (xs ++ ys ++ zs) r := by
  have hrefused : Refused (xs ++ ys ++ zs) ↔ Refused ys := by
    rw [refused_append_iff, refused_append_iff, or_iff_right hxs, or_iff_left hzs]
  have hrollback : RollbackRefused (xs ++ ys ++ zs) ↔ RollbackRefused ys := by
    rw [rollbackRefused_append_iff, rollbackRefused_append_iff,
      or_iff_right (mt RollbackRefused.refused hxs), or_iff_left (mt RollbackRefused.refused hzs)]
  cases h with
  | failed message refused accepted =>
    exact .failed message (hrefused.mpr refused) (mt hrollback.mp accepted)
  | rollbackRefused message refused => exact .rollbackRefused message (hrollback.mpr refused)
  | stale revision accepted => exact .stale revision (mt hrollback.mp accepted)
  | overflow accepted revision bound => exact .overflow (mt hrefused.mp accepted) revision bound
  | replaced candidate revision bound accepted =>
    exact .replaced candidate revision bound (mt hrollback.mp accepted)

variable (faults) in
/-- A failure that is raised again behind a rollback, unless the rollback is refused. -/
theorem exec_rollback {A : Type} (e : PyException) (s : Connection σ) :
    let o := ((call .rollback).bind fun _ => (Program.raise e : Sql A)).exec (sqlite faults) s
    ¬ Refused o.exchanges ∧ o.result = .error e ∨
      RollbackRefused o.exchanges ∧ ∃ message, o.result = .error (.sqlite message) := by
  rcases sqlite_cases faults .rollback s with ⟨message, w, h⟩ | ⟨w, h⟩
  · rw [exec_call_error h]
    exact .inr ⟨⟨_, List.mem_cons_self, rfl, _, rfl⟩, message, rfl⟩
  · have haccepted : sqlite faults .rollback s =
        (.ok (), { s with faults := w, transaction := none }) := h
    rw [exec_call_ok haccepted]
    exact .inl ⟨not_refused_of_ok _ _ _, rfl⟩

variable (faults candidate p) in
/-- The transaction with the clauses that roll it back. -/
theorem attempt_ends (hprovider : candidate.provider = p) {expectedRevision : Nat}
    (hrevision : (candidate.revision : Int) = expectedRevision + 1) (encoded : List String)
    (s : Connection σ) :
    let o := (do
        match ← (replaceTransaction candidate expectedRevision encoded).attempt rolledBack with
        | .ok candidate => pure candidate
        | .error e => do
          call .rollback
          Program.raise e : Sql TargetCatalogue).exec (sqlite faults) s
    AttemptEnds s.committed p expectedRevision o.exchanges o.result := by
  have hends := replaceTransaction_ends faults candidate expectedRevision encoded s
  generalize ho : (replaceTransaction candidate expectedRevision encoded).exec (sqlite faults) s =
    o at hends
  have hnone : ¬ RollbackRefused o.exchanges := by
    rintro ⟨x, hx, hcall, -⟩
    rw [← ho] at hx
    have hnot := (uses_replaceTransaction candidate expectedRevision encoded).exchanges _ s x hx
    rw [hcall] at hnot
    exact hnot
  have hattempt : ((replaceTransaction candidate expectedRevision encoded).attempt rolledBack).exec
      (sqlite faults) s = ⟨o.exchanges, Program.reify rolledBack o.result, o.state⟩ := by
    rw [Program.exec_attempt, ho]
  simp only [Program.bind_eq]
  rw [Program.exec_bind, hattempt]
  -- a failure that is caught is raised again behind the rollback
  have hcaught : ∀ e, (∀ xs, ¬ RollbackRefused xs → (Refused o.exchanges → Refused xs) →
      AttemptEnds (σ := σ) s.committed p expectedRevision xs (.error e)) →
      AttemptEnds s.committed p expectedRevision
        (o.exchanges ++ (((call .rollback).bind fun _ =>
          (Program.raise e : Sql TargetCatalogue)).exec (sqlite faults) o.state).exchanges)
        (((call .rollback).bind fun _ =>
          (Program.raise e : Sql TargetCatalogue)).exec (sqlite faults) o.state).result := by
    intro e he
    rcases exec_rollback (A := TargetCatalogue) faults e o.state with
      ⟨haccepted, hresult⟩ | ⟨hrefused, message, hresult⟩
    · rw [hresult]
      refine he _ ?_ fun h => refused_append_iff.mpr (.inl h)
      rw [rollbackRefused_append_iff]
      exact not_or.mpr ⟨hnone, mt RollbackRefused.refused haccepted⟩
    · rw [hresult]
      exact .rollbackRefused message (rollbackRefused_append_iff.mpr (.inr hrefused))
  cases hends with
  | refused message result refused =>
    rw [result]
    exact hcaught (storageFailed message) fun xs hxs hrefused =>
      .failed message (hrefused refused) hxs
  | stale result revision =>
    rw [result]
    rw [hprovider] at revision
    exact hcaught catalogConflict fun xs hxs _ => .stale revision hxs
  | overflow result accepted revision bound =>
    rw [result]
    rw [hprovider] at revision
    exact .overflow accepted revision (hrevision ▸ bound)
  | replaced result revision bound =>
    rw [result]
    rw [hprovider] at revision
    simp only [Program.reify_ok, Program.pure_eq, Program.exec_done, List.append_nil]
    exact .replaced candidate revision (hrevision ▸ bound) hnone

/-- How a replacement ends, from the tables it starts from. The catalogue and its documents are
checked before the database is opened. -/
inductive ReplacementEnds (db : Database) (provider : Identifier) (expectedRevision : Nat)
    (targets : List StoredTarget) (o : Outcome sql PyException (Connection σ) TargetCatalogue) :
    Prop
  | disordered (result : o.result = .error .validation) (order : ¬ ValidOrder targets)
    (unopened : o.exchanges = [])
  | unencodable (result : Escapes o.result) (order : ValidOrder targets)
    (encoding : ∀ encoded,
      (targets.mapM fun target => encodeSelector target.selector) ≠ .ok encoded)
    (unopened : o.exchanges = [])
  | oversized (message : String) (encoded : List String)
    (result : o.result = .error (.repository "INVALID_CATALOG" message))
    (order : ValidOrder targets)
    (encoding : (targets.mapM fun target => encodeSelector target.selector) = .ok encoded)
    (size : ¬ Encodes targets encoded) (unopened : o.exchanges = [])
  | attempted (encoded : List String) (order : ValidOrder targets)
    (encodes : Encodes targets encoded)
    (attempt : AttemptEnds db provider expectedRevision o.exchanges o.result)

theorem validate_identifier (p : Identifier) (revision : Nat) (targets : List StoredTarget) :
    TargetCatalogue.validate p (revision + 1) targets =
      if h : ValidOrder targets then .ok ⟨p, revision + 1, targets, h⟩ else .error .validation := by
  by_cases h : ValidOrder targets
  · rw [dif_pos h, TargetCatalogue.validate_eq_ok_iff]
    exact ⟨rfl, by push_cast; rfl, rfl⟩
  · rw [dif_neg h, TargetCatalogue.validate, dif_neg fun hall => h hall.2.2]

variable (faults) in
/-- A connection is opened, or its refusal is a failure of the storage. -/
theorem exec_connect (s : Connection σ) :
    (∃ message s', s'.committed = s.committed ∧ connect.exec (sqlite faults) s =
      ⟨[⟨.connect, .error (.sqlite message), s'⟩], .error (storageFailed message), s'⟩) ∨
      ∃ s', s'.committed = s.committed ∧
        connect.exec (sqlite faults) s = ⟨[⟨.connect, .ok (), s'⟩], .ok (), s'⟩ := by
  unfold connect
  simp only [Program.bind_eq]
  rw [Program.exec_bind, Program.exec_attempt]
  rcases sqlite_cases faults .connect s with ⟨message, w, h⟩ | ⟨w, h⟩
  · refine .inl ⟨message, { s with faults := w }, rfl, ?_⟩
    have hcall : (call .connect).exec (sqlite faults) s = ⟨[⟨.connect, .error (.sqlite message),
        { s with faults := w }⟩], .error (.sqlite message), { s with faults := w }⟩ := by
      show (⟨[⟨.connect, (sqlite faults .connect s).1, (sqlite faults .connect s).2⟩],
        (sqlite faults .connect s).1, (sqlite faults .connect s).2⟩ :
          Outcome sql PyException (Connection σ) Unit) = _
      rw [h]
    rw [hcall]
    rfl
  · refine .inr ⟨{ s with faults := w, transaction := none }, rfl, ?_⟩
    have hcall : (call .connect).exec (sqlite faults) s = ⟨[⟨.connect, .ok (),
        { s with faults := w, transaction := none }⟩], .ok (),
          { s with faults := w, transaction := none }⟩ := by
      show (⟨[⟨.connect, (sqlite faults .connect s).1, (sqlite faults .connect s).2⟩],
        (sqlite faults .connect s).1, (sqlite faults .connect s).2⟩ :
          Outcome sql PyException (Connection σ) Unit) = _
      rw [h]
      rfl
    rw [hcall]
    rfl

theorem encodeSelector_escapes (targets : List StoredTarget) :
    Raises (fun e => e.repository? = none)
      (targets.mapM fun target => encodeSelector target.selector) := by
  refine raises_mapM (fun target => ?_) targets
  unfold encodeSelector Python.dumps
  split
  · exact raises_ok _
  · exact raises_error_iff.mpr rfl

variable (faults p) in
/-- **How a replacement ends**, whatever statements the database refuses. -/
theorem replaceCatalogue_ends (expectedRevision : Nat) (targets : List StoredTarget)
    (s : Connection σ) :
    ReplacementEnds s.committed p expectedRevision targets
      ((replaceCatalogue p expectedRevision targets).exec (sqlite faults) s) := by
  unfold replaceCatalogue
  rw [validate_identifier]
  by_cases horder : ValidOrder targets
  swap
  · rw [dif_neg horder]
    exact .disordered rfl horder rfl
  rw [dif_pos horder]
  cases hencoded : targets.mapM fun target => encodeSelector target.selector with
  | error e =>
    simp only [Program.bind_eq, Program.done_ok_bind, hencoded, Program.done_error_bind]
    refine .unencodable ?_ horder (fun encoded h => ?_) rfl
    · exact escapes_error_iff.mpr (raises_error_iff.mp (hencoded ▸ encodeSelector_escapes targets))
    · rw [hencoded] at h
      cases h
  | ok encoded =>
    simp only [Program.bind_eq, Program.done_ok_bind, hencoded]
    split
    · rename_i hsize
      refine .oversized _ encoded rfl horder hencoded (fun hencodes => ?_) rfl
      obtain ⟨text, htext, hlarge⟩ := List.any_eq_true.mp hsize
      exact absurd (hencodes.2 text htext) (not_le.mpr (of_decide_eq_true hlarge))
    rename_i hsize
    have hencodes : Encodes targets encoded := by
      refine ⟨hencoded, fun text htext => ?_⟩
      exact not_lt.mp fun h => hsize (List.any_eq_true.mpr ⟨text, htext, decide_eq_true h⟩)
    refine .attempted encoded horder hencodes ?_
    rcases exec_connect faults s with ⟨message, s', -, h⟩ | ⟨s', hcommitted, h⟩
    · rw [Program.exec_bind, h]
      refine .failed message (refused_cons_iff.mpr (.inl ⟨_, rfl⟩)) ?_
      rintro ⟨x, hx, hcall, -⟩
      obtain rfl := List.mem_singleton.mp hx
      cases hcall
    · rw [Program.exec_bind, h]
      have hattempt := attempt_ends faults p
        ⟨p, expectedRevision + 1, targets, horder⟩ rfl (by push_cast; rfl) encoded s'
      dsimp only
      rw [Program.exec_finally_ _ _ _ _ rfl, ← hcommitted]
      have hframe := fun s'' => hattempt.frame (not_refused_of_ok .connect () s')
        (not_refused_of_ok .close () s'')
      simp only [List.append_assoc] at hframe
      exact hframe _

/-- A replacement that raises leaves the committed tables, whatever state the connection is in. -/
theorem replaceCatalogue_unchanged {provider : String} {expectedRevision : Int}
    {targets : List StoredTarget} (s : Connection σ) {e : PyException}
    (h : ((replaceCatalogue provider expectedRevision targets).exec (sqlite faults) s).result =
      .error e) :
    ((replaceCatalogue provider expectedRevision targets).exec (sqlite faults) s).state.committed =
      s.committed := by
  have hensures : Program.Ensures (sqlite faults) (fun t => t.committed = s.committed)
      (replaceCatalogue provider expectedRevision targets)
      fun r t => (∃ e, r = .error e) → t.committed = s.committed := by
    refine Program.ensures_bind (p := Program.done _) (R := fun _ t => t.committed = s.committed)
      (fun t ht => ht) (fun candidate => ?_) fun e t ht _ => ht
    refine Program.ensures_bind (p := Program.done _) (R := fun _ t => t.committed = s.committed)
      (fun t ht => ht) (fun encoded => ?_) fun e t ht _ => ht
    split
    · exact fun t ht _ => ht
    refine Program.ensures_bind (R := fun _ t => t.committed = s.committed) (fun t ht => ?_)
      (fun _ => ?_) fun e t ht _ => ht
    · rcases exec_connect faults t with
        ⟨message, t', hcommitted, hconnect⟩ | ⟨t', hcommitted, hconnect⟩
      · rw [hconnect]
        exact hcommitted.trans ht
      · rw [hconnect]
        exact hcommitted.trans ht
    · refine Program.ensures_finally_ (ensures_rollback candidate expectedRevision encoded)
        fun r t ht => ⟨rfl, fun hraised => ?_⟩
      rcases ht with ⟨-, hcommitted⟩ | ⟨hr, -⟩
      · exact hcommitted
      · obtain ⟨e, he⟩ := hraised
        rw [hr] at he
        cases he
  exact hensures s rfl ⟨e, h⟩

/-- The revision of a replacement that finds the expected one does not fit its column. -/
structure Overflows (db : Database) (provider : Identifier) (expectedRevision : Nat)
    (targets : List StoredTarget) (xs : List (Exchange sql PyException (Connection σ))) : Prop where
  encodes : ∃ encoded, Encodes targets encoded
  accepted : ¬ Refused xs
  revision : db.revision provider = expectedRevision
  bound : 2 ^ 63 ≤ (expectedRevision + 1 : Int)

variable (faults p) in
/-- **When a replacement raises something other than a `RepositoryError`.** -/
theorem replaceCatalogue_escapes_iff (expectedRevision : Nat) (targets : List StoredTarget)
    (s : Connection σ) :
    let o := (replaceCatalogue p expectedRevision targets).exec (sqlite faults) s
    Escapes o.result ↔ ¬ ValidOrder targets ∨
      (∀ encoded, (targets.mapM fun target => encodeSelector target.selector) ≠ .ok encoded) ∨
        RollbackRefused o.exchanges ∨
          Overflows s.committed p expectedRevision targets o.exchanges := by
  have hends := replaceCatalogue_ends faults p expectedRevision targets s
  generalize (replaceCatalogue p expectedRevision targets).exec (sqlite faults) s = o at hends
  have hunopened : o.exchanges = [] → ¬ RollbackRefused o.exchanges := by
    rintro h ⟨x, hx, -⟩
    rw [h] at hx
    cases hx
  dsimp only
  cases hends with
  | disordered result order unopened =>
    simp [result, order, escapes_error_iff, PyException.repository?]
  | unencodable result order encoding unopened => simp [result, encoding]
  | oversized message encoded result order encoding size unopened =>
    have hno : ¬ Overflows s.committed p expectedRevision targets o.exchanges := by
      rintro ⟨⟨encoded', hencodes⟩, -, -, -⟩
      obtain rfl := Except.ok.inj (encoding.symm.trans hencodes.1)
      exact size hencodes
    simp [result, order, encoding, hunopened unopened, hno, escapes_error_iff,
      PyException.repository?]
  | attempted encoded order encodes attempt =>
    have hencoded : ¬ ∀ encoded', (targets.mapM fun target => encodeSelector target.selector) ≠
        .ok encoded' := fun h => h encoded encodes.1
    rw [or_iff_right (not_not.mpr order), or_iff_right hencoded]
    generalize o.result = r at attempt
    cases attempt with
    | failed message refused accepted =>
      refine iff_of_false ?_ (not_or.mpr ⟨accepted, fun h => h.accepted refused⟩)
      rw [escapes_error_iff]
      exact fun h => by cases h
    | rollbackRefused message refused =>
      exact iff_of_true (escapes_error_iff.mpr rfl) (.inl refused)
    | stale revision accepted =>
      refine iff_of_false ?_ (not_or.mpr ⟨accepted, fun h => revision h.revision⟩)
      rw [escapes_error_iff]
      exact fun h => by cases h
    | overflow accepted revision bound =>
      exact iff_of_true (escapes_error_iff.mpr rfl)
        (.inr ⟨⟨encoded, encodes⟩, accepted, revision, bound⟩)
    | replaced candidate revision bound accepted =>
      exact iff_of_false (not_escapes_ok _)
        (not_or.mpr ⟨accepted, fun h => absurd h.bound (not_le.mpr bound)⟩)

/-- **A stale revision is a conflict**, when the catalogue is in order and no statement is
refused. -/
theorem replaceCatalogue_stale {expectedRevision : Nat} {targets : List StoredTarget}
    {s : Connection σ} (horder : ValidOrder targets) (hencodes : ∃ encoded, Encodes targets encoded)
    (hrevision : s.committed.revision p ≠ expectedRevision)
    (haccepted : ¬ Refused
      ((replaceCatalogue p expectedRevision targets).exec (sqlite faults) s).exchanges) :
    ((replaceCatalogue p expectedRevision targets).exec (sqlite faults) s).result =
      .error catalogConflict := by
  have hends := replaceCatalogue_ends faults p expectedRevision targets s
  generalize (replaceCatalogue p expectedRevision targets).exec (sqlite faults) s = o
    at hends haccepted ⊢
  obtain ⟨encoded, hencodes⟩ := hencodes
  cases hends with
  | disordered result order unopened => exact absurd horder order
  | unencodable result order encoding unopened => exact absurd hencodes.1 (encoding encoded)
  | oversized message encoded' result order encoding size unopened =>
    obtain rfl := Except.ok.inj (encoding.symm.trans hencodes.1)
    exact absurd hencodes size
  | attempted encoded' order encodes attempt =>
    generalize o.result = r at attempt
    cases attempt with
    | failed message refused accepted => exact absurd refused haccepted
    | rollbackRefused message refused => exact absurd refused.refused haccepted
    | stale revision accepted => rfl
    | overflow accepted revision bound => exact absurd revision hrevision
    | replaced candidate revision bound accepted => exact absurd revision hrevision

end Snarkypuss
