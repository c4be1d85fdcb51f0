import Snarkypuss.Calls.Moments
import Snarkypuss.Targets.SqliteHistory

/-!
# Runs of the repository

Callers read and replace catalogues in any order of their statements, the database refuses
statements for reasons of its own, and callers are stopped halfway. What is committed is the
outcome of the replacements that returned, one after the other, each of which expected the revision
that the one before it left.

Each caller is answered as it would be in memory at a moment of its call: a writer that returns,
when it commits; a writer that finds a conflict, when it reads the revision; a reader, when it reads
the rows, unless its provider's catalogue was replaced since it had read the revision.

## Main definitions

* `history`: the replacements that were committed, in order
* `Replacements`: the tables after replacements
* `Represents`: tables that stand for the catalogues of a repository in memory

## Main results

* `sqlite_no_lost_update`: the committed replacements of a provider expected consecutive revisions
* `sqlite_reader`: what a reader returns was committed at one moment, unless it is torn
* `sqlite_linearizable`: the callers are answered as they would be in memory
-/

namespace Snarkypuss

open SqliteTargetRepository

/-! ## What is committed -/

/-- The process whose transaction a step commits. -/
def committer : Happening RepositoryCall sql PyException → Option ℕ
  | .call i .commit (.ok _) => some i
  | _ => none

/-- The processes that have committed, in order. -/
def commits (events : List (Happening RepositoryCall sql PyException)) : List ℕ :=
  events.filterMap committer

/-- The replacements that were committed, in order. -/
def history (events : List (Happening RepositoryCall sql PyException)) : List RepositoryCall :=
  (commits events).filterMap fun i => (requests events)[i]?

section Events

variable {events : List (Happening RepositoryCall sql PyException)}
  {e : Happening RepositoryCall sql PyException} {i : ℕ}

theorem commits_append (events events' : List (Happening RepositoryCall sql PyException)) :
    commits (events ++ events') = commits events ++ commits events' := List.filterMap_append

theorem commits_of_none (he : committer e = none) : commits (events ++ [e]) = commits events := by
  simp [commits, he]

theorem commits_of_commit : commits (events ++ [.call i .commit (.ok ())]) = commits events ++ [i] := by
  rw [commits_append]
  rfl

/-- A step that commits nothing adds nothing to the history. -/
theorem history_of_none (he : committer e = none)
    (hstarted : ∀ i ∈ commits events, i < (requests events).length) :
    history (events ++ [e]) = history events := by
  rw [history, history, commits_of_none he, requests_append]
  refine List.filterMap_congr fun i hi => ?_
  exact List.getElem?_append_left (hstarted i hi)

theorem history_of_commit {r : RepositoryCall} (hr : (requests events)[i]? = some r) :
    history (events ++ [.call i .commit (.ok ())]) = history events ++ [r] := by
  have hrequests : requests (events ++ [(.call i .commit (.ok ()) : Happening _ sql _)]) =
      requests events := by simp [requests_append]
  rw [history, history, hrequests, commits_of_commit, List.filterMap_append]
  simp [hr]

/-- What was committed stays committed. -/
theorem history_append (hstarted : ∀ i ∈ commits events, i < (requests events).length)
    (events' : List (Happening RepositoryCall sql PyException)) :
    ∃ rs, history (events ++ events') = history events ++ rs := by
  refine ⟨(commits events').filterMap fun i => (requests (events ++ events'))[i]?, ?_⟩
  rw [history, commits_append, List.filterMap_append, history]
  congr 1
  refine List.filterMap_congr fun i hi => ?_
  rw [requests_append, List.getElem?_append_left (hstarted i hi)]

end Events

/-! ## What a run keeps -/

section Runs

variable {interpreter : Python.Interpreter} {lax : Json → Option JsonScalar} {db₀ : Database}
  {events : List (Happening RepositoryCall sql PyException)}
  {e : Happening RepositoryCall sql PyException}
  {N N' : Machine RepositoryCall sql PyException Store TargetCatalogue} {i : ℕ}
  {r : RepositoryCall} {φ φ' : SqlPhase} {s t : Store} {c : SqlCall}
  {reply : Except PyException c.Reply}

variable (interpreter lax db₀) in
/-- The moment when a process ran a statement, in a run from tables that nobody works on. -/
abbrev Ran (events : List (Happening RepositoryCall sql PyException))
    (N : Machine RepositoryCall sql PyException Store TargetCatalogue) (i : ℕ) (c : SqlCall)
    (reply : Except PyException c.Reply)
    (events₁ : List (Happening RepositoryCall sql PyException))
    (N₁ : Machine RepositoryCall sql PyException Store TargetCatalogue) : Prop :=
  (sqliteSystem interpreter lax).Made ⟨⟨db₀, none⟩, []⟩ events N i c reply events₁ N₁

variable (interpreter lax db₀) in
/-- Where the phase of a process comes from. -/
def Recorded (events : List (Happening RepositoryCall sql PyException))
    (N : Machine RepositoryCall sql PyException Store TargetCatalogue) (i : ℕ) :
    RepositoryCall → SqlPhase → Prop
  | .getCatalogue p, .counted row => ∃ events₁ N₁,
    Ran interpreter lax db₀ events N i (.selectRevision p) (.ok row) events₁ N₁ ∧
      N₁.shared.committed.revisions.get? p = row
  | .getCatalogue p, .listed revision rows => ∃ events₂ N₂,
    Ran interpreter lax db₀ events N i (.selectTargets p) (.ok rows) events₂ N₂ ∧
      N₂.shared.committed.selectTargets p = rows ∧ ∃ events₁ N₁,
        Ran interpreter lax db₀ events₂ N₂ i (.selectRevision p) (.ok (some revision)) events₁ N₁ ∧
          N₁.shared.committed.revisions.get? p = some revision
  | .replaceCatalogue p expectedRevision _, .stale => ∃ row events₁ N₁,
    Ran interpreter lax db₀ events N i (.selectRevision p) (.ok row) events₁ N₁ ∧
      N₁.shared.committed.revision p ≠ expectedRevision
  | r, .committed db db' => r.Prepared db db' ∧ ∃ events₁ N₁,
    Ran interpreter lax db₀ events N i .commit (.ok ()) events₁ N₁ ∧ N₁.shared.committed = db
  | _, _ => True

/-- A phase still comes from where it came from. -/
theorem Recorded.step (h : Recorded interpreter lax db₀ events N i r φ)
    (hstep : (sqliteSystem interpreter lax).Step N e N') :
    Recorded interpreter lax db₀ (events ++ [e]) N' i r φ := by
  cases r with
  | getCatalogue p =>
    cases φ with
    | counted row =>
      obtain ⟨events₁, N₁, hmade, hrow⟩ := h
      exact ⟨events₁, N₁, hmade.step hstep, hrow⟩
    | listed revision rows =>
      obtain ⟨events₂, N₂, hmade, hrest⟩ := h
      exact ⟨events₂, N₂, hmade.step hstep, hrest⟩
    | committed db db' => exact h.1.elim
    | _ => trivial
  | replaceCatalogue p expectedRevision targets =>
    cases φ with
    | stale =>
      obtain ⟨row, events₁, N₁, hmade, hrow⟩ := h
      exact ⟨row, events₁, N₁, hmade.step hstep, hrow⟩
    | committed db db' =>
      obtain ⟨hprepared, events₁, N₁, hmade, hdb⟩ := h
      exact ⟨hprepared, events₁, N₁, hmade.step hstep, hdb⟩
    | _ => trivial

/-- The phases that nothing is recorded of. -/
def SqlPhase.Plain : SqlPhase → Prop
  | fresh | outside | working .. => True
  | _ => False

theorem SqlPhase.Plain.recorded (h : φ.Plain) : Recorded interpreter lax db₀ events N i r φ := by
  cases φ <;> cases r <;> trivial

theorem SqlPhase.Plain.not_hasCommitted (h : φ.Plain) : ¬ φ.HasCommitted := by
  cases φ <;> first | exact not_false | exact h.elim

/-- How a statement of a caller moves its phase. -/
inductive Progress (r : RepositoryCall) (i : ℕ) (φ : SqlPhase) :
    Happening RepositoryCall sql PyException → SqlPhase → Prop
  | same (e : Happening RepositoryCall sql PyException) (he : committer e = none) :
    Progress r i φ e φ
  | plain (e : Happening RepositoryCall sql PyException) (ψ : SqlPhase) (he : committer e = none)
    (hφ : ¬ φ.HasCommitted) (hψ : ψ.Plain) : Progress r i φ e ψ
  | counts {p row} (hr : r = .getCatalogue p) (hφ : φ = .outside) :
    Progress r i φ (.call i (.selectRevision p) (.ok row)) (.counted row)
  | lists {p revision rows} (hr : r = .getCatalogue p) (hφ : φ = .counted (some revision)) :
    Progress r i φ (.call i (.selectTargets p) (.ok rows)) (.listed revision rows)
  | conflicts {p expectedRevision targets db}
    (hr : r = .replaceCatalogue p expectedRevision targets) (hφ : φ = .working db db)
    (hrevision : db.revision p ≠ expectedRevision) :
    Progress r i φ (.call i (.selectRevision p) (.ok (db.revisions.get? p))) .stale
  | commits {db db'} (hφ : φ = .working db db') (hprepared : r.Prepared db db') :
    Progress r i φ (.call i .commit (.ok ())) (.committed db db')

theorem SqlPhase.Changes.progress {f : Database → Except String Database} (h : φ.Changes f φ')
    (he : committer e = none) : Progress r i φ e φ' := by
  cases φ with
  | working db db' =>
    obtain ⟨db'', -, rfl⟩ := h
    exact .plain _ _ he not_false trivial
  | _ => exact h.elim

theorem SqlPhase.progress_ended (he : committer e = none) : Progress r i φ e φ.ended := by
  cases φ with
  | working db db' => exact .plain _ _ he not_false trivial
  | _ => exact .same _ he

/-- **What a statement can do to the phase of its caller.** -/
theorem progress_of_moves (hmay : sqlMay r φ c) (hmoves : sqlMoves r φ c reply φ') :
    Progress r i φ (.call i c reply) φ' := by
  cases reply with
  | error e =>
    cases c with
    | close => exact hmoves.elim
    | _ =>
      obtain ⟨-, rfl⟩ := hmoves
      exact .same _ rfl
  | ok a =>
    cases c with
    | connect =>
      obtain rfl : φ' = .outside := hmoves
      cases φ with
      | fresh => exact .plain _ _ rfl not_false trivial
      | _ => exact hmay.elim
    | beginImmediate =>
      obtain ⟨db, rfl⟩ := hmoves
      cases φ with
      | outside => exact .plain _ _ rfl not_false trivial
      | _ => exact hmay.elim
    | selectRevision p =>
      cases φ with
      | outside =>
        obtain rfl : r = .getCatalogue p := hmay
        obtain rfl : φ' = .counted a := hmoves
        exact .counts rfl rfl
      | working db db' =>
        obtain ⟨rfl, expectedRevision, targets, rfl⟩ := hmay
        obtain ⟨db₁, db₁', hworking, rfl, rfl⟩ := hmoves
        obtain ⟨rfl, rfl⟩ := SqlPhase.working.inj hworking
        by_cases hexpected : (db'.revisions.get? p).getD 0 = expectedRevision
        · rw [if_pos hexpected]
          exact .same _ rfl
        · rw [if_neg hexpected]
          exact .conflicts rfl rfl hexpected
      | _ => exact hmay.elim
    | selectTargets p =>
      cases φ with
      | counted row =>
        obtain ⟨revision, hrow, rfl⟩ := hmoves
        exact .lists hmay.1 hrow
      | _ => exact hmay.elim
    | insertRevision p revision => exact hmoves.progress rfl
    | updateRevision revision p => exact hmoves.progress rfl
    | deleteTargets p => exact hmoves.progress rfl
    | insertTarget row => exact hmoves.progress rfl
    | commit =>
      obtain ⟨db, db', rfl, rfl⟩ := hmoves
      exact .commits rfl hmay
    | rollback =>
      obtain rfl : φ' = φ.ended := hmoves
      exact SqlPhase.progress_ended rfl
    | close =>
      obtain rfl : φ' = φ.ended := hmoves
      exact SqlPhase.progress_ended rfl

/-- A statement that commits nothing leaves the committed tables. -/
theorem Store.Answers.committed_eq (h : s.Answers i c reply t)
    (he : committer (.call i c reply) = none) : t.committed = s.committed := by
  have hchange : ∀ r : Except String Database, (s.change i r).2.committed = s.committed := by
    intro r
    cases r <;> rfl
  cases h with
  | refused message hclose => rfl
  | accepted hlocked =>
    cases c with
    | connect => exact Store.release_committed s i
    | beginImmediate => rfl
    | selectRevision p => rfl
    | selectTargets p => rfl
    | insertRevision p revision => exact hchange _
    | updateRevision revision p => exact hchange _
    | deleteTargets p => rfl
    | insertTarget row => exact hchange _
    | commit => cases he
    | rollback => exact Store.release_committed s i
    | close => exact Store.release_committed s i

/-- A query finds what its connection sees. -/
theorem Store.Answers.selectRevision_eq {p : String} {row : Option Int}
    (h : s.Answers i (.selectRevision p) (.ok row) t) : row = (s.view i).revisions.get? p := by
  cases h with
  | accepted hlocked => rfl

theorem Store.Answers.selectTargets_eq {p : String} {rows : List TargetRow}
    (h : s.Answers i (.selectTargets p) (.ok rows) t) : rows = (s.view i).selectTargets p := by
  cases h with
  | accepted hlocked => rfl

theorem Store.Answers.commit_eq (h : s.Answers i .commit (.ok ()) t) :
    t.committed = s.view i := by
  cases h with
  | accepted hlocked => rfl

variable (interpreter lax db₀) in
/-- What a run keeps: who has committed is in its phase, the committed tables are those of the
replacements that were committed, and each phase comes from what was read. -/
structure Kept (events : List (Happening RepositoryCall sql PyException))
    (N : Machine RepositoryCall sql PyException Store TargetCatalogue) (phase : ℕ → SqlPhase) :
    Prop where
  run : (sqliteSystem interpreter lax).Run (fun _ _ _ => True) ⟨⟨db₀, none⟩, []⟩ events N
  mem_commits : ∀ k, k ∈ commits events ↔ k < N.processes.length ∧ (phase k).HasCommitted
  nodup : (commits events).Nodup
  tables : Replacements db₀ (history events) N.shared.committed
  recorded : ∀ (k : ℕ) (p : Process RepositoryCall sql PyException TargetCatalogue),
    N.processes[k]? = some p → Recorded interpreter lax db₀ events N k p.request (phase k)

namespace Kept

variable {phase phase' : ℕ → SqlPhase}

theorem requests_eq (h : Kept interpreter lax db₀ events N phase) :
    requests events = N.processes.map Process.request := by
  simpa using h.run.requests.symm

theorem started (h : Kept interpreter lax db₀ events N phase) :
    ∀ k ∈ commits events, k < (requests events).length := by
  intro k hk
  simpa [h.requests_eq] using ((h.mem_commits k).mp hk).1

/-- A step that commits nothing. -/
theorem quiet (h : Kept interpreter lax db₀ events N phase)
    (hstep : (sqliteSystem interpreter lax).Step N e N') (he : committer e = none)
    (hcommitted : N'.shared.committed = N.shared.committed)
    (hphase : ∀ k, k < N'.processes.length ∧ (phase' k).HasCommitted ↔
      k < N.processes.length ∧ (phase k).HasCommitted)
    (hrecorded : ∀ (k : ℕ) (p : Process RepositoryCall sql PyException TargetCatalogue),
      N'.processes[k]? = some p →
        Recorded interpreter lax db₀ (events ++ [e]) N' k p.request (phase' k)) :
    Kept interpreter lax db₀ (events ++ [e]) N' phase' where
  run := h.run.step trivial hstep
  mem_commits k := by rw [commits_of_none he, h.mem_commits, hphase]
  nodup := by
    rw [commits_of_none he]
    exact h.nodup
  tables := by
    rw [history_of_none he h.started, hcommitted]
    exact h.tables
  recorded := hrecorded

/-- What is recorded of the other processes when one of them has moved on. -/
theorem recorded_set (h : Kept interpreter lax db₀ events N phase)
    {p q : Process RepositoryCall sql PyException TargetCatalogue}
    (hstep : (sqliteSystem interpreter lax).Step N e ⟨t, N.processes.set i q⟩)
    (hi : N.processes[i]? = some p)
    (hown : Recorded interpreter lax db₀ (events ++ [e]) ⟨t, N.processes.set i q⟩ i q.request φ)
    (k : ℕ) (p' : Process RepositoryCall sql PyException TargetCatalogue)
    (hk : (N.processes.set i q)[k]? = some p') :
    Recorded interpreter lax db₀ (events ++ [e]) ⟨t, N.processes.set i q⟩ k p'.request
      (Function.update phase i φ k) := by
  rcases processes_set hi hk with ⟨rfl, rfl⟩ | ⟨hne, hk⟩
  · rw [Function.update_self]
    exact hown
  · rw [Function.update_of_ne hne]
    exact (h.recorded k p' hk).step hstep

/-- **What a run keeps, a step keeps.** -/
theorem step (h : Kept interpreter lax db₀ events N phase)
    (hstep : (sqliteSystem interpreter lax).Step N e N')
    (hN : (sqlOutline interpreter lax).Holds N phase)
    (hadvances : (sqlOutline interpreter lax).Advances N phase e phase') :
    Kept interpreter lax db₀ (events ++ [e]) N' phase' := by
  have hstep' := hstep
  cases hstep with
  | start r s' hstarts =>
    obtain rfl : s' = N.shared := hstarts
    obtain rfl : phase' = Function.update phase N.processes.length .fresh := hadvances
    refine h.quiet hstep' rfl rfl (fun k => ?_) fun k p hk => ?_
    · by_cases hk : k = N.processes.length
      · subst hk
        rw [Function.update_self]
        exact iff_of_false (fun hfresh => hfresh.2) fun hlt => lt_irrefl _ hlt.1
      · rw [Function.update_of_ne hk, List.length_append, List.length_singleton]
        exact and_congr_left' (by omega)
    · rcases processes_append hk with ⟨rfl, rfl⟩ | ⟨hne, hk⟩
      · rw [Function.update_self]
        exact SqlPhase.Plain.recorded trivial
      · rw [Function.update_of_ne hne]
        exact (h.recorded k p hk).step hstep'
  | stop i r c next hi =>
    obtain rfl : phase' = phase := hadvances
    refine h.quiet hstep' rfl (Store.release_committed _ _) (fun k => ?_) fun k p hk => ?_
    · rw [List.length_set]
    · obtain ⟨q, hq, hrequest⟩ := request_set hi (by rfl) hk
      rw [← hrequest]
      exact (h.recorded k q hq).step hstep'
  | call i r c next reply s' hi hanswers =>
    obtain ⟨p, φ, hp, hmoves, rfl⟩ := hadvances
    obtain rfl : p = ⟨r, .ask c next, false⟩ := Option.some.inj (hp.symm.trans hi)
    have hmay := hN.may hi
    have hasserts := hN.asserted i _ hi rfl
    have hlt : i < N.processes.length := (List.getElem?_eq_some_iff.mp hi).1
    -- what is said of who has committed, when the caller has not come nearer to it
    have hsame : (φ.HasCommitted ↔ (phase i).HasCommitted) → ∀ k,
        k < (N.processes.set i ⟨r, next reply, false⟩).length ∧
          (Function.update phase i φ k).HasCommitted ↔
            k < N.processes.length ∧ (phase k).HasCommitted := by
      intro hφ k
      rw [List.length_set]
      by_cases hk : k = i
      · subst hk
        rw [Function.update_self, hφ]
      · rw [Function.update_of_ne hk]
    have hprogress : Progress r i (phase i) (.call i c reply) φ := progress_of_moves hmay hmoves
    generalize hφ : phase i = φ₀ at *
    cases hprogress with
    | same e he =>
      refine h.quiet hstep' he (hanswers.committed_eq he) (hsame .rfl) (h.recorded_set hstep' hi ?_)
      have hrecorded := h.recorded i _ hi
      rw [hφ] at hrecorded
      exact hrecorded.step hstep'
    | plain e ψ he hφ hψ =>
      exact h.quiet hstep' he (hanswers.committed_eq he)
        (hsame (iff_of_false hψ.not_hasCommitted hφ)) (h.recorded_set hstep' hi hψ.recorded)
    | @counts p row hr hφ =>
      subst hr hφ
      refine h.quiet hstep' rfl (hanswers.committed_eq rfl) (hsame .rfl)
        (h.recorded_set hstep' hi ⟨events, N, .last h.run hstep', ?_⟩)
      rw [hanswers.selectRevision_eq, Store.view_of_not_writer hasserts]
    | @lists p revision rows hr hφ =>
      subst hr hφ
      have hrecorded : Recorded interpreter lax db₀ events N i (.getCatalogue p)
          (.counted (some revision)) := by
        have hrecorded := h.recorded i _ hi
        rwa [hφ] at hrecorded
      refine h.quiet hstep' rfl (hanswers.committed_eq rfl) (hsame .rfl)
        (h.recorded_set hstep' hi ⟨events, N, .last h.run hstep', ?_, hrecorded⟩)
      rw [hanswers.selectTargets_eq, Store.view_of_not_writer hasserts]
    | @conflicts p expectedRevision targets db hr hφ hrevision =>
      subst hr hφ
      refine h.quiet hstep' rfl (hanswers.committed_eq rfl) (hsame .rfl)
        (h.recorded_set hstep' hi ⟨_, events, N, .last h.run hstep', ?_⟩)
      rw [hasserts.1]
      exact hrevision
    | @commits db db' hφ hprepared =>
      subst hφ
      have hr : (requests events)[i]? = some r := by
        rw [h.requests_eq, List.getElem?_map, hi]
        rfl
      have hfresh : i ∉ commits events := by
        rw [h.mem_commits, hφ]
        exact fun hcommitted => hcommitted.2
      refine ⟨h.run.step trivial hstep', fun k => ?_, ?_, ?_, h.recorded_set hstep' hi ?_⟩
      · rw [commits_of_commit, List.mem_append, List.mem_singleton, h.mem_commits, List.length_set]
        by_cases hk : k = i
        · subst hk
          rw [Function.update_self]
          exact iff_of_true (.inr rfl) ⟨hlt, trivial⟩
        · rw [Function.update_of_ne hk, or_iff_left hk]
      · rw [commits_of_commit]
        exact List.nodup_append.mpr ⟨h.nodup, List.nodup_singleton _, fun k hk k' hk' hsame =>
          hfresh (List.mem_singleton.mp hk' ▸ hsame ▸ hk)⟩
      · rw [history_of_commit hr]
        refine h.tables.snoc ?_
        rw [hanswers.commit_eq, Store.view_of_writer hasserts.2, hasserts.1]
        exact hprepared
      · cases r with
        | getCatalogue p => exact hprepared.elim
        | replaceCatalogue p expectedRevision targets =>
          exact ⟨hprepared, events, N, .last h.run hstep', hasserts.1⟩

end Kept

/-! ## Any run -/

variable {meets : Machine RepositoryCall sql PyException Store TargetCatalogue →
  Happening RepositoryCall sql PyException →
  Machine RepositoryCall sql PyException Store TargetCatalogue → Prop}

theorem exists_kept
    (run : (sqliteSystem interpreter lax).Run meets ⟨⟨db₀, none⟩, []⟩ events N) :
    ∃ phase, (sqlOutline interpreter lax).Holds N phase ∧
      Kept interpreter lax db₀ events N phase := by
  have hempty : (sqlOutline interpreter lax).Holds ⟨⟨db₀, none⟩, []⟩ fun _ => .fresh := by
    refine ⟨trivial, fun i p hi => ?_, fun i p hi => ?_, fun _ _ _ _ _ _ _ => trivial⟩ <;>
      cases hi
  have hkept : Kept interpreter lax db₀ [] ⟨⟨db₀, none⟩, []⟩ fun _ => .fresh := by
    refine ⟨.refl, fun k => ?_, .nil, .nil, fun k p hk => ?_⟩
    · exact iff_of_false List.not_mem_nil fun h => h.2
    · cases hk
  exact sqlOutline_valid.run run hempty hkept
    fun events N phase e N' phase' _ hstep hN hadvances _ h => h.step hstep hN hadvances

/-- The tables that are committed at a moment are those of the replacements committed by then. -/
theorem exists_replacements
    (run : (sqliteSystem interpreter lax).Run meets ⟨⟨db₀, none⟩, []⟩ events N) :
    Replacements db₀ (history events) N.shared.committed := by
  obtain ⟨phase, -, hkept⟩ := exists_kept run
  exact hkept.tables

/-! ### Updates -/

/-- A replacement that has ended has returned if it has committed. -/
theorem returned_iff_committed
    (run : (sqliteSystem interpreter lax).Run meets ⟨⟨db₀, none⟩, []⟩ events N) {p : String}
    {expectedRevision : Int} {targets : List StoredTarget}
    {result : Except PyException TargetCatalogue}
    (hi : N.Ended i (.replaceCatalogue p expectedRevision targets) result) :
    (∃ c, result = .ok c) ↔ i ∈ commits events := by
  obtain ⟨phase, hN, hkept⟩ := exists_kept run
  obtain ⟨b, hi⟩ := hi
  have hlt : i < N.processes.length := (List.getElem?_eq_some_iff.mp hi).1
  have hends : sqlEnding interpreter lax (.replaceCatalogue p expectedRevision targets) result
      (phase i) := hN.follows i _ hi
  rw [hkept.mem_commits]
  cases result with
  | ok c => exact iff_of_true ⟨c, rfl⟩ ⟨hlt, hends.1⟩
  | error e =>
    refine iff_of_false ?_ fun h => hends.1 h.2
    rintro ⟨c, hc⟩
    cases hc

/-- The revisions that the committed replacements of a provider expected, in order. -/
def expectations (p : String) (events : List (Happening RepositoryCall sql PyException)) : List ℤ :=
  (((history events).filterMap RepositoryCall.expects).filter (·.1 = p)).map Prod.snd

/-- **No update is lost.** The replacements of a provider that were committed expected consecutive
revisions, one each, and the committed revision counts them; a replacement that has ended has
returned if it was committed, and no two that returned expected the same revision. -/
theorem sqlite_no_lost_update
    (run : (sqliteSystem interpreter lax).Run meets ⟨⟨db₀, none⟩, []⟩ events N) :
    (∀ p, expectations p events =
        (List.range (expectations p events).length).map fun n => db₀.revision p + (n : ℤ)) ∧
      (∀ p, N.shared.committed.revision p = db₀.revision p + (expectations p events).length) ∧
      (∀ i p expectedRevision targets result,
        N.Ended i (.replaceCatalogue p expectedRevision targets) result →
          ((∃ c, result = .ok c) ↔ i ∈ commits events)) ∧
      ∀ i k p expectedRevision targets targets' c c',
        N.Ended i (.replaceCatalogue p expectedRevision targets) (.ok c) →
        N.Ended k (.replaceCatalogue p expectedRevision targets') (.ok c') → i = k := by
  have hupdates := (exists_replacements run).updates
  refine ⟨fun p => ?_, fun p => ?_, fun i p expectedRevision targets result hi =>
    returned_iff_committed run hi, ?_⟩
  · rw [expectations, List.length_map]
    exact hupdates.expected p
  · rw [expectations, List.length_map]
    exact hupdates.version_eq p
  · intro i k p expectedRevision targets targets' c c' hi hk
    obtain ⟨phase, -, hkept⟩ := exists_kept run
    have hnodup : ((commits events).filterMap fun i =>
        (requests events)[i]?.bind RepositoryCall.expects).Nodup := by
      have hnodup := hupdates.nodup
      rwa [history, List.filterMap_filterMap] at hnodup
    have hexpects : ∀ {i : ℕ} {targets : List StoredTarget}
        {result : Except PyException TargetCatalogue},
        N.Ended i (.replaceCatalogue p expectedRevision targets) result →
          (requests events)[i]?.bind RepositoryCall.expects = some (p, expectedRevision) := by
      rintro i targets result ⟨b, hi⟩
      rw [hkept.requests_eq, List.getElem?_map, hi]
      rfl
    exact eq_of_nodup_filterMap hnodup ((returned_iff_committed run hi).mp ⟨c, rfl⟩)
      ((returned_iff_committed run hk).mp ⟨c', rfl⟩) (hexpects hi) (hexpects hk)

/-- A call in a new Python, whose models take no lax input. -/
def serveNext : Machine RepositoryCall sql PyException Store TargetCatalogue → RepositoryCall →
    Machine RepositoryCall sql PyException Store TargetCatalogue :=
  serve ⟨64, Python.least_maxDepth⟩ fun _ => none

/-- Two replacements of the first revision, one after the other, and a read, in a new database. -/
def threeCalls : Machine RepositoryCall sql PyException Store TargetCatalogue :=
  [.replaceCatalogue "nordvpn" 0 [], .replaceCatalogue "nordvpn" 0 [],
    .getCatalogue "nordvpn"].foldl serveNext ⟨⟨.empty, none⟩, []⟩

theorem matchesPattern_nordvpn : matchesPattern Char.isLower isLowerTail 31 "nordvpn" := by decide

/-- What the first replacement stores. -/
def firstCatalogue : TargetCatalogue :=
  { TargetCatalogue.initial ⟨"nordvpn", matchesPattern_nordvpn⟩ with revision := 1 }

theorem run_threeCalls : ∃ events,
    (sqliteSystem ⟨64, Python.least_maxDepth⟩ fun _ => none).Run (fun _ _ _ => True)
      ⟨⟨.empty, none⟩, []⟩ events threeCalls := by
  obtain ⟨events₁, run₁⟩ := run_serve ⟨64, Python.least_maxDepth⟩ (fun _ => none)
    ⟨⟨.empty, none⟩, []⟩ rfl (.replaceCatalogue "nordvpn" 0 [])
  obtain ⟨events₂, run₂⟩ := run_serve ⟨64, Python.least_maxDepth⟩ (fun _ => none) _
    (rfl : (serveNext ⟨⟨.empty, none⟩, []⟩ (.replaceCatalogue "nordvpn" 0 [])).shared.writer = none)
    (.replaceCatalogue "nordvpn" 0 [])
  obtain ⟨events₃, run₃⟩ := run_serve ⟨64, Python.least_maxDepth⟩ (fun _ => none) _
    (rfl : (serveNext (serveNext ⟨⟨.empty, none⟩, []⟩ (.replaceCatalogue "nordvpn" 0 []))
      (.replaceCatalogue "nordvpn" 0 [])).shared.writer = none) (.getCatalogue "nordvpn")
  exact ⟨_, (run₁.append run₂).append run₃⟩

theorem sqlite_no_lost_update_threeCalls :
    threeCalls.Ended 0 (.replaceCatalogue "nordvpn" 0 []) (.ok firstCatalogue) ∧
      threeCalls.Ended 1 (.replaceCatalogue "nordvpn" 0 []) (.error catalogConflict) ∧
      ∃ events, 0 ∈ commits events ∧ 1 ∉ commits events ∧
        threeCalls.shared.committed.revision "nordvpn" = (expectations "nordvpn" events).length := by
  obtain ⟨events, run⟩ := run_threeCalls
  obtain ⟨-, hrevision, hreturned, -⟩ := sqlite_no_lost_update run
  have hfirst : threeCalls.Ended 0 (.replaceCatalogue "nordvpn" 0 []) (.ok firstCatalogue) := ⟨_, rfl⟩
  have hsecond : threeCalls.Ended 1 (.replaceCatalogue "nordvpn" 0 []) (.error catalogConflict) :=
    ⟨_, rfl⟩
  refine ⟨hfirst, hsecond, events, (hreturned _ _ _ _ _ hfirst).mp ⟨_, rfl⟩, fun h => ?_, ?_⟩
  · obtain ⟨c, hc⟩ := (hreturned _ _ _ _ _ hsecond).mpr h
    cases hc
  · rw [hrevision]
    exact zero_add _

/-! ### Readers -/

variable (interpreter lax db₀) in
/-- A reader returned the revision of one moment with the rows of a later one, between which the
catalogue of its provider was replaced. -/
def Torn (events : List (Happening RepositoryCall sql PyException))
    (N : Machine RepositoryCall sql PyException Store TargetCatalogue) (i : ℕ) (p : String)
    (c : TargetCatalogue) : Prop :=
  ∃ revision rows events₁ N₁ events₂ N₂,
    Ran interpreter lax db₀ events N i (.selectTargets p) (.ok rows) events₂ N₂ ∧
      Ran interpreter lax db₀ events₂ N₂ i (.selectRevision p) (.ok (some revision)) events₁ N₁ ∧
      N₁.shared.committed.revision p = revision ∧ N₂.shared.committed.selectTargets p = rows ∧
      readCatalogue interpreter lax p revision rows = .ok c ∧
      N₁.shared.committed.revision p < N₂.shared.committed.revision p

/-- Revisions only grow between two moments. -/
theorem revision_le_of_ran {p : String} {events₁ : List (Happening RepositoryCall sql PyException)}
    {N₁ : Machine RepositoryCall sql PyException Store TargetCatalogue}
    (run : (sqliteSystem interpreter lax).Run meets ⟨⟨db₀, none⟩, []⟩ events N)
    (h : Ran interpreter lax db₀ events N i c reply events₁ N₁) :
    N₁.shared.committed.revision p ≤ N.shared.committed.revision p := by
  obtain ⟨run₁, N₂, events₂, hstep, run₂, rfl⟩ := h
  obtain ⟨phase, -, hkept⟩ := exists_kept run₁
  obtain ⟨rs, hhistory⟩ := history_append hkept.started (.call i c reply :: events₂)
  exact hkept.tables.revision_le (hhistory ▸ exists_replacements run) p

/-- What a reader returns was committed at one moment of its call, unless the catalogue of its
provider was replaced between its two queries. -/
theorem sqlite_reader
    (run : (sqliteSystem interpreter lax).Run meets ⟨⟨db₀, none⟩, []⟩ events N) {p : String}
    {c : TargetCatalogue} (hi : N.Ended i (.getCatalogue p) (.ok c)) :
    (∃ q reply events₁ N₁, Ran interpreter lax db₀ events N i q reply events₁ N₁ ∧
      N₁.shared.committed.read interpreter lax p = .ok c) ∨
        Torn interpreter lax db₀ events N i p c := by
  obtain ⟨phase, hN, hkept⟩ := exists_kept run
  obtain ⟨b, hi⟩ := hi
  have hends : sqlEnding interpreter lax (.getCatalogue p) (.ok c) (phase i) := hN.follows i _ hi
  have hrecorded := hkept.recorded i _ hi
  obtain ⟨hφ, hvalid⟩ | ⟨revision, rows, hφ, hread⟩ := hends
  · rw [hφ] at hrecorded
    obtain ⟨events₁, N₁, hran, hrow⟩ := hrecorded
    refine .inl ⟨_, _, events₁, N₁, hran, ?_⟩
    rw [Database.read, Database.query, hrow]
    exact hvalid
  · rw [hφ] at hrecorded
    obtain ⟨events₂, N₂, hran₂, hrows, events₁, N₁, hran₁, hrow⟩ := hrecorded
    have hrevision : N₁.shared.committed.revision p = revision := by
      rw [Database.revision, hrow]
      rfl
    obtain hlt | heq := (revision_le_of_ran (p := p) hran₂.1 hran₁).lt_or_eq
    · exact .inr ⟨revision, rows, events₁, N₁, events₂, N₂, hran₂, hran₁, hrevision, hrows, hread,
        hlt⟩
    · subst hrows
      exact .inl ⟨_, _, events₂, N₂, hran₂,
        Database.read_of_revision (heq.symm.trans hrevision) hread⟩

/-! ### The repository in memory -/

theorem sqlEnding_of_error {e : PyException} (h : sqlEnding interpreter lax r (.error e) φ) :
    ¬ φ.HasCommitted ∧ (e = catalogConflict → φ = .stale ∧ ∃ p expectedRevision targets c,
      r = .replaceCatalogue p expectedRevision targets ∧
        TargetCatalogue.validate p (expectedRevision + 1) targets = .ok c) := by
  cases r <;> exact h

/-- Two repositories answer alike. -/
def AnsweredAlike : Except PyException TargetCatalogue → Except PyException TargetCatalogue → Prop
  | .ok c, .ok c' => c.Same c'
  | .error e, .error e' => e = e'
  | _, _ => False

variable (interpreter lax db₀) in
/-- At some moment of a call the repository in memory, after the replacements committed by then,
answers as the call was answered. -/
def AnsweredInMemory (catalogues : Dict String TargetCatalogue)
    (events : List (Happening RepositoryCall sql PyException))
    (N : Machine RepositoryCall sql PyException Store TargetCatalogue) (i : ℕ) (r : RepositoryCall)
    (result : Except PyException TargetCatalogue) : Prop :=
  ∃ c reply events₁ N₁, Ran interpreter lax db₀ events N i c reply events₁ N₁ ∧
    AnsweredAlike result
      (MemoryTargetRepository r (MemoryTargetRepository.after catalogues (history events₁))).1

/-- **The callers are answered as they would be in memory**, each at a moment of its call, after the
replacements that were committed by then; all but the readers whose provider's catalogue was
replaced between their two queries. -/
theorem sqlite_linearizable {catalogues : Dict String TargetCatalogue}
    (hdb : Represents interpreter lax db₀ catalogues)
    (run : (sqliteSystem interpreter lax).Run meets ⟨⟨db₀, none⟩, []⟩ events N) :
    Represents interpreter lax N.shared.committed
        (MemoryTargetRepository.after catalogues (history events)) ∧
      ∀ i r result, N.Ended i r result → result = .error catalogConflict ∨ (∃ c, result = .ok c) →
        AnsweredInMemory interpreter lax db₀ catalogues events N i r result ∨
          ∃ p c, r = .getCatalogue p ∧ result = .ok c ∧ Torn interpreter lax db₀ events N i p c := by
  refine ⟨(exists_replacements run).represents hdb, fun i r result hi hresult => ?_⟩
  obtain ⟨phase, hN, hkept⟩ := exists_kept run
  obtain ⟨b, hi'⟩ := hi
  have hends : sqlEnding interpreter lax r result (phase i) := hN.follows i _ hi'
  have hrecorded := hkept.recorded i _ hi'
  obtain rfl | ⟨c, rfl⟩ := hresult
  · -- a conflict was found when the revision was read
    obtain ⟨hφ, p, expectedRevision, targets, c, rfl, hvalid⟩ := (sqlEnding_of_error hends).2 rfl
    rw [hφ] at hrecorded
    obtain ⟨row, events₁, N₁, hran, hne⟩ := hrecorded
    have hmemory := ((exists_replacements hran.1).represents hdb).replace hvalid
    rw [if_neg hne] at hmemory
    refine .inl ⟨_, _, events₁, N₁, hran, ?_⟩
    simp only [MemoryTargetRepository, hmemory]
    rfl
  · cases r with
    | getCatalogue p =>
      obtain ⟨q, reply, events₁, N₁, hran, hread⟩ | htorn := sqlite_reader run ⟨b, hi'⟩
      · obtain ⟨c', hmemory, hsame⟩ := ((exists_replacements hran.1).represents hdb).get hread
        refine .inl ⟨q, reply, events₁, N₁, hran, ?_⟩
        simp only [MemoryTargetRepository, hmemory]
        exact hsame
      · exact .inr ⟨p, c, rfl, rfl, htorn⟩
    | replaceCatalogue p expectedRevision targets =>
      -- a replacement that returned took effect when it committed
      obtain ⟨hcommitted, hvalid⟩ := hends
      cases hφ : phase i with
      | committed db db' =>
        rw [hφ] at hrecorded
        obtain ⟨hprepared, events₁, N₁, hran, rfl⟩ := hrecorded
        obtain ⟨candidate, encoded, hvalid', -, hreplaced⟩ := hprepared
        obtain rfl := Except.ok.inj (hvalid'.symm.trans hvalid)
        have hexpected : N₁.shared.committed.revision p = expectedRevision := by
          rw [← (TargetCatalogue.validate_eq_ok_iff.mp hvalid).1]
          exact hreplaced.expected
        have hmemory := ((exists_replacements hran.1).represents hdb).replace hvalid
        rw [if_pos hexpected] at hmemory
        refine .inl ⟨_, _, events₁, N₁, hran, ?_⟩
        simp only [MemoryTargetRepository, hmemory]
        exact .refl candidate
      | _ =>
        rw [hφ] at hcommitted
        exact hcommitted.elim

theorem sqlite_linearizable_threeCalls : ∃ events,
    AnsweredInMemory ⟨64, Python.least_maxDepth⟩ (fun _ => none) .empty .empty events threeCalls 1
      (.replaceCatalogue "nordvpn" 0 []) (.error catalogConflict) := by
  obtain ⟨events, run⟩ := run_threeCalls
  obtain ⟨-, hanswered⟩ := sqlite_linearizable (represents_empty _ _) run
  obtain h | ⟨p, c, hr, -, -⟩ := hanswered 1 (.replaceCatalogue "nordvpn" 0 [])
    (.error catalogConflict) ⟨_, rfl⟩ (.inl rfl)
  · exact ⟨events, h⟩
  · cases hr

end Runs

end Snarkypuss
