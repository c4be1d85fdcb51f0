import Snarkypuss.Calls.Logic
import Snarkypuss.Targets.Sqlite

/-!
# The transactions of the SQLite repository

What the two methods do to the committed tables when any statement may be refused: a read changes
nothing, a replacement that raises changes nothing, and a replacement that returns has found the
expected revision and has replaced the revision and the rows of its provider.

## Main definitions

* `Replaced`: the tables after a replacement, in terms of those before it

## Main results

* `ensures_getCatalogue`: what a read returns, and that it changes nothing
* `ensures_replaceCatalogue`: what a replacement does to the committed tables
-/

namespace Snarkypuss

open SqliteTargetRepository

variable {σ : Type} {faults : Faults σ} {db₀ : Database}

/-! ## Single statements -/

/-- A statement is refused, or accepted. -/
theorem sqlite_cases (faults : Faults σ) (c : SqlCall) (s : Connection σ) :
    (∃ message w, sqlite faults c s = (.error (.sqlite message), { s with faults := w })) ∨
      ∃ w, sqlite faults c s = { s with faults := w }.accept c := by
  cases c with
  | close => exact .inr ⟨s.faults, rfl⟩
  | _ =>
    simp only [sqlite]
    split
    · rename_i message w _
      exact .inl ⟨message, w, rfl⟩
    · rename_i w _
      exact .inr ⟨w, rfl⟩

/-- The rule of a statement: the condition before it says nothing about what makes the database
refuse statements, and a refusal leaves it. -/
theorem ensures_statement {c : SqlCall} {P : Connection σ → Prop}
    {Q : Except PyException c.Reply → Connection σ → Prop}
    (hP : ∀ s w, P s → P { s with faults := w })
    (hrefused : ∀ message s, P s → Q (.error (.sqlite message)) s)
    (haccepted : ∀ s, P s → Q (s.accept c).1 (s.accept c).2) :
    Program.Ensures (sqlite faults) P (call c) Q := by
  intro s hs
  show Q (sqlite faults c s).1 (sqlite faults c s).2
  rcases sqlite_cases faults c s with ⟨message, w, h⟩ | ⟨w, h⟩
  · rw [h]
    exact hrefused message _ (hP s w hs)
  · rw [h]
    exact haccepted _ (hP s w hs)

/-- The committed tables are `db`, and no transaction is open. -/
def Idle (db : Database) (s : Connection σ) : Prop := s.committed = db ∧ s.transaction = none

/-- The committed tables are `db₀`, and those of the transaction are in `R`. -/
def Working (db₀ : Database) (R : Database → Prop) (s : Connection σ) : Prop :=
  s.committed = db₀ ∧ ∃ db, s.transaction = some db ∧ R db

/-- What a statement that changes the tables of the transaction leaves. -/
theorem working_change (f : Database → Except String Database) {R R' : Database → Prop}
    (hf : ∀ db db', R db → f db = .ok db' → R' db') {s : Connection σ} (hs : Working db₀ R s) :
    (s.change (f s.current)).2.committed = db₀ ∧
      ((s.change (f s.current)).1 = .ok () → Working db₀ R' (s.change (f s.current)).2) := by
  obtain ⟨hcommitted, db, htransaction, hR⟩ := hs
  have hcurrent : s.current = db := by rw [Connection.current, htransaction]; rfl
  rw [hcurrent]
  cases hr : f db with
  | error message => exact ⟨hcommitted, fun h => by cases h⟩
  | ok db' => exact ⟨hcommitted, fun _ => ⟨hcommitted, db', rfl, hf db db' hR hr⟩⟩

/-! ## Rows -/

/-- A row that is inserted is the last row. -/
theorem insertTarget_ok {db db' : Database} {row : TargetRow} (h : db.insertTarget row = .ok db') :
    db'.revisions = db.revisions ∧ db'.targets = db.targets ++ [row] := by
  unfold Database.insertTarget at h
  split at h
  · split at h
    · split at h
      · split at h
        · split at h
          · cases h
            exact ⟨rfl, rfl⟩
          · cases h
        · cases h
      · cases h
    · cases h
  · cases h

/-- Rows that are inserted follow those of the transaction. -/
theorem ensures_insertTargets (rows : List TargetRow) (revisions : Dict String Int)
    (targets : List TargetRow) :
    Program.Ensures (sqlite faults)
      (Working db₀ fun db => db.revisions = revisions ∧ db.targets = targets)
      (insertTargets rows) fun r s => s.committed = db₀ ∧
        (r = .ok () → Working db₀
          (fun db => db.revisions = revisions ∧ db.targets = targets ++ rows) s) := by
  induction rows generalizing targets with
  | nil => exact Program.ensures_done fun s hs => ⟨hs.1, fun _ => by simpa using hs⟩
  | cons row rows ih =>
    refine Program.ensures_bind (R := fun r s => s.committed = db₀ ∧ (r = .ok () →
      Working db₀ (fun db => db.revisions = revisions ∧ db.targets = targets ++ [row]) s)) ?_
      (fun _ => ?_) fun e s h => ⟨h.1, fun he => by cases he⟩
    · refine ensures_statement (fun s w hs => hs) (fun message s hs => ⟨hs.1, fun h => by cases h⟩)
        fun s hs => working_change (·.insertTarget row) ?_ hs
      rintro db db' ⟨hrevisions, htargets⟩ hinsert
      obtain ⟨hrevisions', htargets'⟩ := insertTarget_ok hinsert
      exact ⟨hrevisions'.trans hrevisions, by rw [htargets', htargets]⟩
    · refine (ih (targets ++ [row])).weaken (fun s hs => hs.2 rfl) fun r s hs => ?_
      rw [List.append_assoc] at hs
      exact hs

/-! ## Replacements -/

/-- The tables after a replacement: it found the expected revision, set the candidate's, and put
the candidate's rows in the place of those of its provider. -/
structure Replaced (candidate : TargetCatalogue) (expectedRevision : Int) (encoded : List String)
    (db db' : Database) : Prop where
  expected : (db.revisions.get? candidate.provider).getD 0 = expectedRevision
  revisions : db'.revisions = db.revisions.insert candidate.provider candidate.revision
  targets : db'.targets = db.targets.filter (·.provider ≠ candidate.provider.val) ++
    candidate.targets.zipWith (targetRow candidate.provider) encoded

/-- A provider without a revision has no rows. -/
theorem Database.filter_of_no_revision {db : Database} {p : String}
    (h : db.revisions.get? p = none) : db.targets.filter (·.provider ≠ p) = db.targets := by
  refine List.filter_eq_self.mpr fun row hrow => decide_eq_true ?_
  rintro rfl
  exact Dict.get?_eq_none_iff.mp h (db.provider_key row hrow)

theorem bindInteger_eq_ok {n m : Int} (h : bindInteger n = .ok m) : m = n := by
  unfold bindInteger at h
  split at h
  · exact (Except.ok.inj h).symm
  · cases h

theorem insertRevision_ok {db db' : Database} {p : String} {r : Int}
    (h : db.insertRevision p r = .ok db') :
    db'.revisions = db.revisions.insert p r ∧ db'.targets = db.targets := by
  unfold Database.insertRevision at h
  split at h
  · cases h
  · split at h
    · cases h
      exact ⟨rfl, rfl⟩
    · cases h

theorem updateRevision_ok {db db' : Database} {p : String} {r r' : Int}
    (hp : db.revisions.get? p = some r') (h : db.updateRevision r p = .ok db') :
    db'.revisions = db.revisions.insert p r ∧ db'.targets = db.targets := by
  have hmem : p ∈ db.revisions.keys := Dict.mem_keys_iff.mpr ⟨r', hp⟩
  unfold Database.updateRevision at h
  rw [if_pos hmem] at h
  split at h
  · cases h
    exact ⟨rfl, rfl⟩
  · cases h

/-- The end of a replacement: the rows are inserted and the transaction is committed. -/
theorem ensures_commitTargets (candidate : TargetCatalogue) (rows : List TargetRow)
    (revisions : Dict String Int) (targets : List TargetRow) :
    Program.Ensures (sqlite faults)
      (Working db₀ fun db => db.revisions = revisions ∧ db.targets = targets)
      (do insertTargets rows; call .commit; pure candidate) fun r s =>
        (∃ e, r = .error e) ∧ s.committed = db₀ ∨ r = .ok candidate ∧
          s.committed.revisions = revisions ∧ s.committed.targets = targets ++ rows := by
  refine Program.ensures_bind (ensures_insertTargets rows revisions targets) (fun _ => ?_)
    fun e s h => .inl ⟨⟨e, rfl⟩, h.1⟩
  refine Program.ensures_bind (R := fun r s => (∃ e, r = .error e) ∧ s.committed = db₀ ∨
    r = .ok () ∧ s.committed.revisions = revisions ∧ s.committed.targets = targets ++ rows) ?_
    (fun _ => ?_) fun e s h => ?_
  · refine ensures_statement (fun s w hs => hs) (fun message s hs => .inl ⟨⟨_, rfl⟩, hs.1⟩)
      fun s hs => .inr ⟨rfl, ?_⟩
    obtain ⟨-, db, htransaction, hdb⟩ := hs.2 rfl
    show s.current.revisions = revisions ∧ s.current.targets = targets ++ rows
    rw [Connection.current, htransaction]
    exact hdb
  · refine Program.ensures_done fun s h => ?_
    rcases h with ⟨⟨e, he⟩, -⟩ | ⟨-, hcommitted⟩
    · cases he
    · exact .inr ⟨rfl, hcommitted⟩
  · rcases h with ⟨-, hcommitted⟩ | ⟨he, -⟩
    · exact .inl ⟨⟨e, rfl⟩, hcommitted⟩
    · cases he

/-- What a replacement leaves: it raises and has committed nothing, or it returns the candidate
and has committed it. -/
def Settles (candidate : TargetCatalogue) (expectedRevision : Int) (encoded : List String)
    (db₀ : Database) (r : Except PyException TargetCatalogue) (s : Connection σ) : Prop :=
  (∃ e, r = .error e) ∧ s.committed = db₀ ∨
    r = .ok candidate ∧ Replaced candidate expectedRevision encoded db₀ s.committed

/-- The rows of the provider are gone and its revision is set before the new rows go in. -/
theorem ensures_storeTargets (candidate : TargetCatalogue) (expectedRevision : Int)
    (encoded : List String)
    (hexpected : (db₀.revisions.get? candidate.provider).getD 0 = expectedRevision) :
    Program.Ensures (sqlite faults)
      (Working db₀ fun db => db.revisions = db₀.revisions.insert candidate.provider candidate.revision ∧
        db.targets = db₀.targets.filter (·.provider ≠ candidate.provider.val))
      (do
        insertTargets (candidate.targets.zipWith (targetRow candidate.provider) encoded)
        call .commit
        pure candidate)
      (Settles candidate expectedRevision encoded db₀) := by
  refine (ensures_commitTargets candidate _ _ _).weaken (fun s hs => hs) fun r s h => ?_
  rcases h with h | ⟨hr, hrevisions, htargets⟩
  · exact .inl h
  · exact .inr ⟨hr, hexpected, hrevisions, htargets⟩

/-- A replacement of a provider that has no revision yet. -/
theorem ensures_insertCatalogue (candidate : TargetCatalogue) (expectedRevision : Int)
    (encoded : List String) (hnone : db₀.revisions.get? candidate.provider = none)
    (hexpected : (db₀.revisions.get? candidate.provider).getD 0 = expectedRevision) :
    Program.Ensures (sqlite faults) (Working db₀ (· = db₀))
      (do
        call (.insertRevision candidate.provider candidate.revision)
        insertTargets (candidate.targets.zipWith (targetRow candidate.provider) encoded)
        call .commit
        pure candidate)
      (Settles candidate expectedRevision encoded db₀) := by
  refine Program.ensures_bind (R := fun r s => s.committed = db₀ ∧ (r = .ok () → Working db₀
    (fun db => db.revisions = db₀.revisions.insert candidate.provider candidate.revision ∧
      db.targets = db₀.targets.filter (·.provider ≠ candidate.provider.val)) s)) ?_
    (fun _ => ?_) fun e s h => .inl ⟨⟨e, rfl⟩, h.1⟩
  · refine ensures_statement (fun s w hs => hs) (fun message s hs => ⟨hs.1, fun h => by cases h⟩)
      fun s hs => working_change (·.insertRevision candidate.provider candidate.revision) ?_ hs
    rintro db db' rfl hinsert
    obtain ⟨hrevisions, htargets⟩ := insertRevision_ok hinsert
    exact ⟨hrevisions, htargets.trans (Database.filter_of_no_revision hnone).symm⟩
  · exact (ensures_storeTargets candidate expectedRevision encoded hexpected).weaken
      (fun s hs => hs.2 rfl) fun r s h => h

/-- A replacement of a provider that has a revision. -/
theorem ensures_updateCatalogue (candidate : TargetCatalogue) (expectedRevision : Int)
    (encoded : List String) {current : Int}
    (hsome : db₀.revisions.get? candidate.provider = some current)
    (hexpected : (db₀.revisions.get? candidate.provider).getD 0 = expectedRevision) :
    Program.Ensures (sqlite faults) (Working db₀ (· = db₀))
      (do
        call (.updateRevision candidate.revision candidate.provider)
        call (.deleteTargets candidate.provider)
        insertTargets (candidate.targets.zipWith (targetRow candidate.provider) encoded)
        call .commit
        pure candidate)
      (Settles candidate expectedRevision encoded db₀) := by
  refine Program.ensures_bind (R := fun r s => s.committed = db₀ ∧ (r = .ok () → Working db₀
    (fun db => db.revisions = db₀.revisions.insert candidate.provider candidate.revision ∧
      db.targets = db₀.targets) s)) ?_ (fun _ => ?_) fun e s h => .inl ⟨⟨e, rfl⟩, h.1⟩
  · refine ensures_statement (fun s w hs => hs) (fun message s hs => ⟨hs.1, fun h => by cases h⟩)
      fun s hs => working_change (·.updateRevision candidate.revision candidate.provider) ?_ hs
    rintro db db' rfl hupdate
    exact updateRevision_ok hsome hupdate
  refine Program.ensures_bind (R := fun r s => s.committed = db₀ ∧ (r = .ok () → Working db₀
    (fun db => db.revisions = db₀.revisions.insert candidate.provider candidate.revision ∧
      db.targets = db₀.targets.filter (·.provider ≠ candidate.provider.val)) s)) ?_
    (fun _ => ?_) fun e s h => .inl ⟨⟨e, rfl⟩, h.1⟩
  · refine ensures_statement (fun s w hs => hs) (fun message s hs => ⟨hs.1, fun h => by cases h⟩)
      fun s hs => working_change (fun db => .ok (db.deleteTargets candidate.provider)) ?_ (hs.2 rfl)
    rintro db db' ⟨hrevisions, htargets⟩ hdelete
    cases hdelete
    exact ⟨hrevisions, congrArg _ htargets⟩
  · exact (ensures_storeTargets candidate expectedRevision encoded hexpected).weaken
      (fun s hs => hs.2 rfl) fun r s h => h

/-- The transaction of a replacement. -/
theorem ensures_replaceTransaction (candidate : TargetCatalogue) (expectedRevision : Int)
    (encoded : List String) :
    Program.Ensures (sqlite faults) (fun s => s.committed = db₀)
      (replaceTransaction candidate expectedRevision encoded)
      (Settles candidate expectedRevision encoded db₀) := by
  -- The transaction starts from the committed tables.
  refine Program.ensures_bind (R := fun r s => s.committed = db₀ ∧
    (r = .ok () → Working db₀ (· = db₀) s)) ?_ (fun _ => ?_) fun e s h => .inl ⟨⟨e, rfl⟩, h.1⟩
  · exact ensures_statement (fun s w hs => hs) (fun message s hs => ⟨hs, fun h => by cases h⟩)
      fun s hs => ⟨hs, fun _ => ⟨hs, db₀, congrArg some hs, rfl⟩⟩
  refine Program.ensures_bind (R := fun r s => s.committed = db₀ ∧
    (∀ row, r = .ok row → row = db₀.revisions.get? candidate.provider ∧ Working db₀ (· = db₀) s)) ?_
    (fun row => ?_) fun e s h => .inl ⟨⟨e, rfl⟩, h.1⟩
  · refine ensures_statement (fun s w hs => hs) (fun message s hs => ⟨hs.1, fun _ h => by cases h⟩)
      fun s hs => ?_
    obtain ⟨hcommitted, hworking⟩ := hs
    obtain ⟨-, db, htransaction, rfl⟩ := hworking rfl
    refine ⟨hcommitted, fun row hrow => ?_⟩
    cases hrow
    refine ⟨?_, hworking rfl⟩
    rw [Connection.current, htransaction]
    rfl
  -- What was read is the committed revision; a stale one raises.
  intro s hs
  obtain ⟨rfl, hworking⟩ := hs.2 row rfl
  split
  · exact .inl ⟨⟨_, rfl⟩, hs.1⟩
  · rename_i hexpected
    have hexpected := not_not.mp hexpected
    cases hbound : bindInteger candidate.revision with
    | error e => exact .inl ⟨⟨e, rfl⟩, hs.1⟩
    | ok revision =>
      obtain rfl := bindInteger_eq_ok hbound
      cases hrow : db₀.revisions.get? candidate.provider with
      | none => exact ensures_insertCatalogue candidate expectedRevision encoded hrow hexpected s hworking
      | some current =>
        exact ensures_updateCatalogue candidate expectedRevision encoded hrow hexpected s hworking

/-! ## The methods -/

/-- Connecting opens no transaction. -/
theorem ensures_connect :
    Program.Ensures (sqlite faults) (Idle db₀) connect fun _ s => Idle db₀ s := by
  refine Program.ensures_bind (R := fun _ s => Idle db₀ s) ?_ (fun r => ?_) fun _ _ h => h
  · exact Program.ensures_attempt (ensures_statement (fun s w hs => hs) (fun message s hs => hs)
      fun s hs => ⟨hs.1, rfl⟩)
  · cases r with
    | ok u => exact Program.ensures_done fun s hs => hs
    | error message => exact Program.ensures_done fun s hs => hs

/-- The transaction of a replacement with the clauses that roll it back. -/
theorem ensures_rollback (candidate : TargetCatalogue) (expectedRevision : Int)
    (encoded : List String) :
    Program.Ensures (sqlite faults) (fun s => s.committed = db₀)
      (do
        match ← (replaceTransaction candidate expectedRevision encoded).attempt rolledBack with
        | .ok candidate => pure candidate
        | .error e => do
          call .rollback
          Program.raise e)
      (Settles candidate expectedRevision encoded db₀) := by
  refine Program.ensures_bind (R := fun r s => (s.committed = db₀ ∧ ∀ c, r ≠ .ok (.ok c)) ∨
    r = .ok (.ok candidate) ∧ Replaced candidate expectedRevision encoded db₀ s.committed) ?_
    (fun r => ?_) fun e s h => ?_
  · refine Program.ensures_attempt
      ((ensures_replaceTransaction candidate expectedRevision encoded).weaken (fun s hs => hs) ?_)
    rintro r s (⟨⟨e, rfl⟩, hcommitted⟩ | ⟨rfl, hreplaced⟩)
    · exact .inl ⟨hcommitted, fun c hc => by cases Program.reify_eq_ok.mp hc⟩
    · exact .inr ⟨rfl, hreplaced⟩
  · cases r with
    | ok c =>
      refine Program.ensures_done fun s hs => ?_
      rcases hs with ⟨-, hne⟩ | ⟨hc, hreplaced⟩
      · exact absurd rfl (hne c)
      · cases hc
        exact .inr ⟨rfl, hreplaced⟩
    | error e =>
      refine Program.ensures_bind (R := fun _ s => s.committed = db₀)
        (ensures_statement (fun s w hs => hs) ?_ ?_) (fun _ => ?_) fun e' s h => .inl ⟨⟨e', rfl⟩, h⟩
      · rintro message s (⟨hcommitted, -⟩ | ⟨hc, -⟩)
        · exact hcommitted
        · cases hc
      · rintro s (⟨hcommitted, -⟩ | ⟨hc, -⟩)
        · exact hcommitted
        · cases hc
      · exact Program.ensures_done fun s hs => .inl ⟨⟨e, rfl⟩, hs⟩
  · rcases h with ⟨hcommitted, -⟩ | ⟨hc, -⟩
    · exact .inl ⟨⟨e, rfl⟩, hcommitted⟩
    · cases hc

/-- The documents of a catalogue's targets, as they are stored. -/
def Encodes (targets : List StoredTarget) (encoded : List String) : Prop :=
  (targets.mapM fun target => encodeSelector target.selector) = .ok encoded ∧
    ∀ text ∈ encoded, text.utf8ByteSize ≤ maxSelectorJsonBytes

/-- What a replacement amounts to: it raises and changes nothing, or it returns the catalogue of
its targets under the next revision and has committed it. -/
def Replaces (provider : String) (expectedRevision : Int) (targets : List StoredTarget)
    (db₀ : Database) (r : Except PyException TargetCatalogue) (s : Connection σ) : Prop :=
  (∃ e, r = .error e) ∧ Idle db₀ s ∨ ∃ candidate encoded, r = .ok candidate ∧
    TargetCatalogue.validate provider (expectedRevision + 1) targets = .ok candidate ∧
    Encodes targets encoded ∧ s.transaction = none ∧
    Replaced candidate expectedRevision encoded db₀ s.committed

/-- **What a replacement does**, whatever statements the database refuses. -/
theorem ensures_replaceCatalogue (provider : String) (expectedRevision : Int)
    (targets : List StoredTarget) :
    Program.Ensures (sqlite faults) (Idle db₀)
      (replaceCatalogue provider expectedRevision targets)
      (Replaces provider expectedRevision targets db₀) := by
  intro s hs
  unfold replaceCatalogue
  cases hcandidate : TargetCatalogue.validate provider (expectedRevision + 1) targets with
  | error e => exact .inl ⟨⟨e, rfl⟩, hs⟩
  | ok candidate =>
    cases hencoded : candidate.targets.mapM fun target => encodeSelector target.selector with
    | error e =>
      simp only [Program.bind_eq, Program.done_ok_bind, hencoded, Program.done_error_bind]
      exact .inl ⟨⟨e, rfl⟩, hs⟩
    | ok encoded =>
      simp only [Program.bind_eq, Program.done_ok_bind, hencoded]
      split
      · exact .inl ⟨⟨_, rfl⟩, hs⟩
      · rename_i hsize
        have hencodes : Encodes targets encoded := by
          refine ⟨?_, fun text htext => ?_⟩
          · rw [← (TargetCatalogue.validate_eq_ok_iff.mp hcandidate).2.2]
            exact hencoded
          · exact not_lt.mp fun h => hsize (List.any_eq_true.mpr ⟨text, htext, decide_eq_true h⟩)
        refine Program.ensures_bind (Q := Replaces provider expectedRevision targets db₀)
          ensures_connect (fun _ => ?_) (fun e s h => .inl ⟨⟨e, rfl⟩, h⟩) s hs
        refine Program.ensures_finally_ ((ensures_rollback candidate expectedRevision encoded).weaken
          (fun s hs => hs.1) fun r s h => h) fun r s h => ⟨rfl, ?_⟩
        rcases h with ⟨he, hcommitted⟩ | ⟨hr, hreplaced⟩
        · exact .inl ⟨he, hcommitted, rfl⟩
        · exact .inr ⟨candidate, encoded, hr, hcandidate, hencodes, rfl, hreplaced⟩

/-- What the two queries of a read find in the tables. -/
def Database.query (db : Database) (provider : String) : Option (Int × List TargetRow) :=
  (db.revisions.get? provider).map fun revision => (revision, db.selectTargets provider)

/-- The catalogue that the tables stand for. -/
def Database.read (interpreter : Python.Interpreter) (lax : Json → Option JsonScalar)
    (db : Database) (provider : String) : Except PyException TargetCatalogue :=
  match db.query provider with
  | none => TargetCatalogue.validate provider 0 []
  | some (revision, rows) => readCatalogue interpreter lax provider revision rows

theorem idle_current {s : Connection σ} (hs : Idle db₀ s) : s.current = db₀ := by
  rw [Connection.current, hs.2, hs.1]
  rfl

/-- The queries of a read change nothing and find the committed revision and rows. -/
theorem ensures_queryCatalogue (provider : String) :
    Program.Ensures (sqlite faults) (Idle db₀) (queryCatalogue provider) fun r s =>
      Idle db₀ s ∧ ∀ found, r = .ok found → found = db₀.query provider := by
  refine Program.ensures_bind ensures_connect (fun _ => ?_) fun e s h => ⟨h, fun _ h => by cases h⟩
  refine Program.ensures_bind (R := fun r s => Idle db₀ s ∧
    ∀ row, r = .ok row → row = db₀.revisions.get? provider) ?_ (fun row => ?_)
    fun e s h => ⟨h.1, fun _ h => by cases h⟩
  · refine ensures_statement (fun s w hs => hs) (fun message s hs => ⟨hs, fun _ h => by cases h⟩)
      fun s hs => ⟨hs, fun row hrow => ?_⟩
    cases hrow
    exact congrArg (fun db => db.revisions.get? provider) (idle_current hs)
  cases row with
  | none =>
    refine Program.ensures_done fun s hs => ⟨hs.1, fun found hfound => ?_⟩
    cases hfound
    rw [Database.query, ← hs.2 none rfl]
    rfl
  | some revision =>
    refine Program.ensures_bind (R := fun r s => Idle db₀ s ∧
      db₀.revisions.get? provider = some revision ∧
        ∀ rows, r = .ok rows → rows = db₀.selectTargets provider) ?_ (fun rows => ?_)
      fun e s h => ⟨h.1, fun _ h => by cases h⟩
    · refine ensures_statement (fun s w hs => hs)
        (fun message s hs => ⟨hs.1, (hs.2 _ rfl).symm, fun _ h => by cases h⟩)
        fun s hs => ⟨hs.1, (hs.2 _ rfl).symm, fun rows hrows => ?_⟩
      cases hrows
      exact congrArg (fun db => db.selectTargets provider) (idle_current hs.1)
    · refine Program.ensures_done fun s hs => ⟨hs.1, fun found hfound => ?_⟩
      cases hfound
      rw [Database.query, hs.2.1, hs.2.2 rows rfl]
      rfl

/-- **What a read does**, whatever statements the database refuses: it changes nothing, and what
it returns is what the committed revision and rows stand for. -/
theorem ensures_getCatalogue (interpreter : Python.Interpreter) (lax : Json → Option JsonScalar)
    (provider : String) :
    Program.Ensures (sqlite faults) (Idle db₀) (getCatalogue interpreter lax provider) fun r s =>
      Idle db₀ s ∧ ∀ c, r = .ok c → db₀.read interpreter lax provider = .ok c := by
  refine Program.ensures_bind (R := fun r s => Idle db₀ s ∧
    ∀ found, r = .ok (.ok found) → found = db₀.query provider) ?_ (fun r => ?_)
    fun e s h => ⟨h.1, fun _ h => by cases h⟩
  · refine Program.ensures_attempt ((ensures_queryCatalogue provider).weaken (fun s hs => hs) ?_)
    exact fun r s hs => ⟨hs.1, fun found hfound => hs.2 found (Program.reify_eq_ok.mp hfound)⟩
  intro s hs
  rcases r with message | _ | ⟨revision, rows⟩
  · exact ⟨hs.1, fun _ h => by cases h⟩
  · refine ⟨hs.1, fun c hc => ?_⟩
    rw [Database.read, ← hs.2 none rfl]
    exact hc
  · refine ⟨hs.1, fun c hc => ?_⟩
    rw [Database.read, ← hs.2 _ rfl]
    exact hc

end Snarkypuss
