import Snarkypuss.Activation.Outline

/-!
# Executions of the scripts as runs

A process whose script is executed from its start to its end, while nobody else does anything, is
a run: when everything that is asked is done, and when no record can be written. A confirmation
that cannot write the record has stopped the timer and saved the rules.

## Main definitions

* `Platform.unwritten`: the calls when no record can be written
* `Grants`: a handler gives answers that the host may give

## Main results

* `granted_apply`, `granted_confirm`, `granted_rollback`: the executions of the scripts are runs
* `confirm_unwritten`: what a confirmation leaves that cannot write the record
-/

namespace Snarkypuss

namespace Activation

/-! ## Handlers -/

/-- The calls of a process when everything that is asked is done, but no record is written. -/
def Platform.unwritten (platform : Platform) (process : ℕ) : Handler host ScriptError Host
  | .writeRecord _ _, s => (.error (.os "No space left on device"), s)
  | c, s => platform.handler process c s

/-- What a handler answers is what the host may answer, and looking at the host leaves it. -/
structure Grants (platform : Platform) (i : ℕ) (h : Handler host ScriptError Host) : Prop where
  answers : ∀ c s, c.Enabled s → Answers platform i c s (h c s).1 (h c s).2
  geteuid : ∀ s, h .geteuid s = platform.handler i .geteuid s
  recordIsFile : ∀ token s, h (.recordIsFile token) s = platform.handler i (.recordIsFile token) s

theorem grants_handler (platform : Platform) (i : ℕ) : Grants platform i (platform.handler i) :=
  ⟨fun _ _ henabled => .inl ⟨henabled, rfl⟩, fun _ => rfl, fun _ _ => rfl⟩

theorem grants_unwritten (platform : Platform) (i : ℕ) : Grants platform i (platform.unwritten i) := by
  refine ⟨fun c s henabled => ?_, fun _ => rfl, fun _ _ => rfl⟩
  cases c with
  | writeRecord token record => exact .inr rfl
  | _ => exact .inl ⟨henabled, rfl⟩

/-- The calls other than taking a lock. -/
def HostCall.TakesNoLock (c : HostCall) : Prop := ∀ token, c ≠ .lock token

theorem HostCall.TakesNoLock.enabled {c : HostCall} (hc : c.TakesNoLock) (s : Host) :
    c.Enabled s := by
  cases c with
  | lock token => exact absurd rfl (hc token)
  | _ => trivial

section Granted

variable {platform : Platform} {only : Option Token} {i : ℕ} {h : Handler host ScriptError Host}
  {s : Host} {A : Type}

theorem granted_of_uses {p : Script A} (hp : p.Uses HostCall.TakesNoLock) (hh : Grants platform i h) :
    p.Granted (scripts platform only) h i s :=
  hp.granted fun c s hc => hh.answers c s (hc.enabled s)

/-! ## The scripts -/

theorem granted_apply (hh : Grants platform i h) (fuel : ℕ) (token : Token) (arguments : Arguments)
    (config : ActivationConfig) :
    (apply fuel token arguments config).Granted (scripts platform only) h i s := by
  refine granted_of_uses ((uses_apply fuel token arguments config).mono ?_) hh
  rintro c hc token rfl
  rcases hc with hc | hc | ⟨_, _, hc⟩ | ⟨_, _, hc⟩ <;> cases hc

theorem uses_confirmLocked (token : Token) : (confirmLocked token).Uses HostCall.TakesNoLock := by
  refine Program.uses_call_bind nofun fun record => ?_
  refine (uses_require _ _).bind fun _ => (uses_run nofun).bind fun _ => ?_
  exact (uses_runUnchecked nofun).bind fun _ => Program.uses_call_bind nofun fun _ => trivial

theorem uses_restoreServices (services : List CapturedService) :
    (restoreServices services).Uses HostCall.TakesNoLock := by
  induction services with
  | nil => trivial
  | cons service services ih =>
    have hservice : (restoreService service).Uses HostCall.TakesNoLock :=
      Program.Uses.bind (Program.uses_call_bind nofun fun _ => trivial) fun _ =>
        Program.uses_call_bind nofun fun _ => trivial
    exact hservice.bind fun _ => ih

theorem uses_restore (token : Token) (record : Record) :
    (restore token record).Uses HostCall.TakesNoLock := by
  have hrun : ∀ c, (rollbackRun c).Uses HostCall.TakesNoLock := by
    intro c
    refine Program.uses_call_bind nofun fun status => ?_
    cases status <;> trivial
  have hrules : (restorePersistentRules record).Uses HostCall.TakesNoLock := by
    unfold restorePersistentRules
    split
    · exact Program.uses_call_bind nofun fun _ => Program.uses_call_bind nofun fun _ => ⟨nofun, fun _ => trivial⟩
    · exact ⟨nofun, fun _ => trivial⟩
  refine ((hrun _).bind fun _ => (hrun _).bind fun _ => uses_restoreServices _).bind fun _ => ?_
  have hwrite : Program.Uses HostCall.TakesNoLock
      ((call (.writeRecord token { record with status := .rolledBack })).bind fun _ =>
        (rollbackRunUnchecked (.stopTimer record.token)).bind fun _ => Program.done (.ok 0)) :=
    Program.uses_call_bind nofun fun _ =>
      Program.Uses.bind (Program.uses_call_bind nofun fun _ => trivial) fun _ => trivial
  simp only [Program.bind_eq]
  split
  · exact hrules.bind fun _ => hwrite
  · exact hwrite

theorem uses_rollbackLocked (token : Token) (force automatic : Bool) :
    (rollbackLocked token force automatic).Uses HostCall.TakesNoLock := by
  refine Program.Uses.bind (Program.Uses.attempt _ ⟨nofun, fun _ => trivial⟩) fun result => ?_
  rcases result with ⟨⟩ | record
  · trivial
  · show (rollbackRecord token force automatic record).Uses _
    unfold rollbackRecord
    split
    · trivial
    · split
      · split <;> trivial
      · refine ((uses_restore token record).attempt _).bind fun result => ?_
        rcases result with ⟨⟩ | status <;> trivial

/-- A script that looks for a record, takes its lock, and releases it at the end. -/
theorem granted_locking {token : Token} {p : Script ℕ} (hp : p.Uses HostCall.TakesNoLock)
    (hh : Grants platform i h) (hfree : s.locks token = none) :
    ((call (.lock token)).bind fun _ => p.finally_ (call (.unlock token))).Granted
      (scripts platform only) h i s := by
  refine ⟨hh.answers _ _ hfree, ?_⟩
  have hrest : (p.finally_ (call (.unlock token))).Uses HostCall.TakesNoLock :=
    hp.finally_ ⟨nofun, fun _ => trivial⟩
  generalize h (.lock token) s = answer
  obtain ⟨reply, t⟩ := answer
  rcases reply with e | ⟨⟩
  · trivial
  · exact granted_of_uses hrest hh

theorem granted_require_bind {b : Bool} {message : String} {f : Unit → Script A}
    (hf : (f ()).Granted (scripts platform only) h i s) :
    ((require b message).bind f).Granted (scripts platform only) h i s := by
  cases b with
  | true => exact hf
  | false => trivial

theorem granted_confirm (hh : Grants platform i h) {token : Token} (hfree : s.locks token = none) :
    (confirm token).Granted (scripts platform only) h i s := by
  refine ⟨hh.answers _ _ trivial, ?_⟩
  show Program.Granted _ h i _ (h .geteuid s).2
  rw [hh.geteuid]
  refine granted_require_bind (granted_require_bind ⟨hh.answers _ _ trivial, ?_⟩)
  rw [hh.recordIsFile]
  exact granted_require_bind (granted_locking (uses_confirmLocked token) hh hfree)

theorem granted_rollback (hh : Grants platform i h) {token : Token} (force automatic : Bool)
    (hfree : s.locks token = none) :
    (rollback token force automatic).Granted (scripts platform only) h i s := by
  refine ⟨hh.answers _ _ trivial, ?_⟩
  rw [hh.geteuid]
  show Program.Granted _ h i (if s.euid ≠ 0 then _ else _) s
  split
  · trivial
  · refine ⟨hh.answers _ _ trivial, ?_⟩
    rw [hh.recordIsFile]
    show Program.Granted _ h i (if (!(s.records token).isSome) = true then _ else _) s
    split
    · trivial
    · exact granted_locking (uses_rollbackLocked token force automatic) hh hfree

/-! ## Runs of one process -/

/-- Every token is allowed. -/
theorem only_none (token : Token) : ∀ token' ∈ (none : Option Token), token = token' :=
  fun _ hnone => absurd hnone (Option.not_mem_none _)

/-- What a process does that is started and executed to its end. -/
def done (h : Handler host ScriptError Host) (i : ℕ) (r : Request) (s : Host) : List Activity :=
  .start r :: (r.program.exec h s).exchanges.map fun x => .call i x.call x.reply

theorem mem_done {r : Request} {e : Activity} (he : e ∈ done h i r s) :
    e = .start r ∨ ∃ x ∈ (r.program.exec h s).exchanges, e = .call i x.call x.reply := by
  rcases List.mem_cons.mp he with rfl | he
  · exact .inl rfl
  · obtain ⟨x, hx, rfl⟩ := List.mem_map.mp he
    exact .inr ⟨x, hx, rfl⟩

/-- **A script that returns when everything that is asked is done is a run.** -/
theorem run_of_runs {r : Request} {M : Activations} {a : ℕ} {t : Host}
    (hstarts : (scripts platform only).starts M r s)
    (hgranted : r.program.Granted (scripts platform only) (platform.handler M.processes.length)
      M.processes.length s)
    (hruns : Runs platform M.processes.length r.program s a t) :
    (scripts platform only).Run (fun _ _ _ => True) M
      (done (platform.handler M.processes.length) M.processes.length r s)
      ⟨t, M.processes ++ [⟨r, .done (.ok a), false⟩]⟩ := by
  have hrun := System.run_started hstarts hgranted
  obtain ⟨hresult, hstate⟩ := hruns
  rw [show (scripts platform only).program r = r.program from rfl, hresult, hstate] at hrun
  exact hrun

/-- The record that a rollback reads is in what it does. -/
theorem reads_rollback (platform : Platform) (i : ℕ) {token : Token} {record : Record}
    (force automatic : Bool) (hroot : s.euid = 0) (hrecord : s.records token = some record) :
    (.call i (.readRecord token) (.ok record) : Activity) ∈
      done (platform.handler i) i (.rollback token force automatic) s := by
  have hread : platform.handler i (.readRecord token) (s.locked token i) =
      (.ok record, s.locked token i) := by
    have hlocked : (s.locked token i).records token = some record := hrecord
    simp only [Platform.handler, hlocked]
  have hexists : (!(s.records token).isSome) = false := by
    rw [hrecord]
    rfl
  refine List.mem_cons_of_mem _ (List.mem_map.mpr
    ⟨⟨.readRecord token, .ok record, s.locked token i⟩, ?_, rfl⟩)
  show _ ∈ ((rollback token force automatic).exec (platform.handler i) s).exchanges
  rw [rollback, Program.bind_eq, Program.exec_bind_of_ok (a := s.euid) _ rfl]
  refine List.mem_append_right _ ?_
  show _ ∈ (Program.exec _ (if s.euid ≠ 0 then _ else _) s).exchanges
  rw [if_neg (not_not.mpr hroot), Program.bind_eq,
    Program.exec_bind_of_ok (a := (s.records token).isSome) _ rfl]
  refine List.mem_append_right _ ?_
  show _ ∈ (Program.exec _ (if (!(s.records token).isSome) = true then _ else _) s).exchanges
  rw [hexists, if_neg Bool.false_ne_true, Program.bind_eq, Program.exec_bind_of_ok (a := ()) _ rfl]
  refine List.mem_append_right _ ?_
  -- The record is the first thing that is read behind the lock.
  show _ ∈ (⟨.readRecord token, (platform.handler i (.readRecord token) (s.locked token i)).1,
    (platform.handler i (.readRecord token) (s.locked token i)).2⟩ : Exchange host ScriptError Host)
      :: _
  rw [hread]
  exact List.mem_cons_self

/-- A call that does not work on the live state leaves the forwarding switch. -/
theorem forwarding_kept (platform : Platform) (i : ℕ) (s : Host) {c : HostCall} (hc : ¬c.ChangesLive) :
    (platform.handler i c s).2.ipForward = s.ipForward := by
  cases c with
  | command c =>
    cases c with
    | systemctl verb unit =>
      cases verb with
      | isActive => rfl
      | isEnabled => rfl
      | _ => exact absurd ⟨nofun, nofun⟩ hc
    | _ => first | rfl | exact absurd trivial hc
  | readText path =>
    simp only [Platform.handler]
    split <;> rfl
  | readRecord token =>
    simp only [Platform.handler]
    split <;> rfl
  | _ => rfl

/-- A script that changes the forwarding switch works on the live state. -/
theorem exists_changesLive {p : Script A}
    (hp : (p.exec (platform.handler i) s).state.ipForward ≠ s.ipForward) :
    ∃ x ∈ (p.exec (platform.handler i) s).exchanges, x.call.ChangesLive := by
  induction p generalizing s with
  | done r => exact absurd rfl hp
  | ask c next ih =>
    by_cases hc : c.ChangesLive
    · exact ⟨_, List.mem_cons_self, hc⟩
    · have hkept := forwarding_kept platform i s hc
      obtain ⟨x, hx, hlive⟩ := ih _ fun hrest => hp (hrest.trans hkept)
      exact ⟨x, List.mem_cons_of_mem _ hx, hlive⟩

/-- An application that returns, as a run. -/
theorem run_apply {M : Activations} {fuel : ℕ} {token : Token} {arguments : Arguments}
    {config : ActivationConfig} {t : Host} (honly : ∀ token' ∈ only, token = token')
    (hfresh : M.shared.records token = none)
    (hown : ∀ p ∈ M.processes, p.request.isApply = true → p.request.token ≠ token)
    (hruns : Runs platform M.processes.length (apply fuel token arguments config) M.shared 0 t) :
    (scripts platform only).Run (fun _ _ _ => True) M
      (done (platform.handler M.processes.length) M.processes.length
        (.apply fuel token arguments config) M.shared)
      ⟨t, M.processes ++ [⟨.apply fuel token arguments config, .done (.ok 0), false⟩]⟩ :=
  run_of_runs ⟨⟨rfl, hfresh, hown⟩, honly⟩
    (granted_apply (grants_handler platform M.processes.length) fuel token arguments config) hruns

/-- The rollback of a pending record, as a run. -/
theorem run_rollback {M : Activations} {token : Token} {record : Record} {force automatic : Bool}
    (honly : ∀ token' ∈ only, token = token') (hstarts : Starts M (.rollback token force automatic) s)
    (hroot : s.euid = 0) (hrecord : s.records token = some record)
    (hstatus : record.status = .pending) (hfree : s.locks token = none) :
    (scripts platform only).Run (fun _ _ _ => True) M
      (done (platform.handler M.processes.length) M.processes.length
        (.rollback token force automatic) s)
      ⟨(restored platform token record (s.locked token M.processes.length)).unlocked token,
        M.processes ++ [⟨.rollback token force automatic, .done (.ok 0), false⟩]⟩ :=
  run_of_runs ⟨hstarts, honly⟩
    (granted_rollback (grants_handler platform M.processes.length) force automatic hfree)
    (runs_rollback automatic hroot hrecord (.inl hstatus))

/-- The confirmation of a pending record, as a run. -/
theorem run_confirm {M : Activations} {token : Token} {record : Record}
    (honly : ∀ token' ∈ only, token = token') (htoken : isToken token = true)
    (hroot : M.shared.euid = 0) (hrecord : M.shared.records token = some record)
    (hstatus : record.status = .pending) (hfree : M.shared.locks token = none) :
    (scripts platform only).Run (fun _ _ _ => True) M
      (done (platform.handler M.processes.length) M.processes.length (.confirm token) M.shared)
      ⟨(confirmed platform token record (M.shared.locked token M.processes.length)).unlocked token,
        M.processes ++ [⟨.confirm token, .done (.ok 0), false⟩]⟩ :=
  run_of_runs ⟨rfl, honly⟩ (granted_confirm (grants_handler platform M.processes.length) hfree)
    (runs_confirm htoken hroot hrecord hstatus)

/-! ## A confirmation that cannot write the record -/

/-- The persistent rules are saved and the timer of a token is stopped. -/
def Host.disarmed (platform : Platform) (token : Token) (s : Host) : Host :=
  { s with
    files := Function.update s.files persistentRulesPath (some (platform.printRules s.tables))
    timers := Function.update s.timers token false }

/-- **What a confirmation leaves that cannot write the record**: the saved rules, no timer, and
the record as it was. -/
theorem confirm_unwritten {token : Token} {record : Record} (htoken : isToken token = true)
    (hroot : s.euid = 0) (hrecord : s.records token = some record)
    (hstatus : record.status = .pending) :
    ((confirm token).exec (platform.unwritten i) s).state =
      (((s.locked token i).disarmed platform token).unlocked token) := by
  have hread : platform.unwritten i (.readRecord token) (s.locked token i) =
      (.ok record, s.locked token i) := by
    have hlocked : (s.locked token i).records token = some record := hrecord
    simp only [Platform.unwritten, Platform.handler, hlocked]
  have hlocked : ((confirmLocked token).exec (platform.unwritten i) (s.locked token i)).state =
      (s.locked token i).disarmed platform token := by
    have hreply : ((call (.readRecord token)).exec (platform.unwritten i) (s.locked token i)).result =
        .ok record := congrArg Prod.fst hread
    rw [confirmLocked, Program.bind_eq, Program.exec_bind_of_ok _ hreply]
    show (Program.exec _ _ (platform.unwritten i (.readRecord token) (s.locked token i)).2).state = _
    rw [hread, require, if_pos (decide_eq_true hstatus)]
    rfl
  have hexists : (s.records token).isSome = true := by
    rw [hrecord]
    rfl
  -- Everything before the lock is passed,
  rw [confirm, Program.bind_eq, Program.exec_bind_of_ok (a := s.euid) _ rfl]
  show (Program.exec _ ((require (decide (s.euid = 0)) _).bind _) s).state = _
  rw [require, if_pos (decide_eq_true hroot)]
  show (Program.exec _ ((require (isToken token) _).bind _) s).state = _
  rw [require, if_pos htoken]
  show (Program.exec _ ((require (s.records token).isSome _).bind _) s).state = _
  rw [require, if_pos hexists]
  -- and the lock is released after the record could not be written.
  show (Program.exec _ ((confirmLocked token).finally_ _) (s.locked token i)).state = _
  rw [Program.exec_finally_ _ _ _ _ rfl]
  exact congrArg (fun t => Host.unlocked t token) hlocked

/-- A confirmation that cannot write the record, as a run. -/
theorem run_unwritten {M : Activations} {token : Token} {record : Record}
    (honly : ∀ token' ∈ only, token = token') (htoken : isToken token = true)
    (hroot : M.shared.euid = 0) (hrecord : M.shared.records token = some record)
    (hstatus : record.status = .pending) (hfree : M.shared.locks token = none) :
    ∃ (events : List Activity) (result : Except ScriptError ℕ),
      (scripts platform only).Run (fun _ _ _ => True) M events
        ⟨((M.shared.locked token M.processes.length).disarmed platform token).unlocked token,
          M.processes ++ [⟨.confirm token, .done result, false⟩]⟩ := by
  have hrun : (scripts platform only).Run (fun _ _ _ => True) M
      (done (platform.unwritten M.processes.length) M.processes.length (.confirm token) M.shared)
      ⟨((confirm token).exec (platform.unwritten M.processes.length) M.shared).state, _⟩ :=
    System.run_started ⟨rfl, honly⟩ (granted_confirm (grants_unwritten platform _) hfree)
  rw [confirm_unwritten htoken hroot hrecord hstatus] at hrun
  exact ⟨_, _, hrun⟩


end Granted

/-! ## An application of the ready host -/

theorem recorded_readyHost (tables : Netfilter.Tables) :
    (readyHost tables).Recorded := nofun

/-- The application of the ready host as a run. -/
theorem ready_run (only : Option Token) (honly : ∀ token ∈ only, readyToken = token) :
    ∃ (events : List Activity) (t : Host), (scripts barePlatform only).Run (fun _ _ _ => True) ⟨readyHost freshTables, []⟩ events
      ⟨t, [⟨.apply 1 readyToken readyArguments bareConfig, .done (.ok 0), false⟩]⟩ ∧
    Applied barePlatform readyToken bareConfig (readyHost freshTables) t ∧
    (∀ e ∈ events, e = .start (.apply 1 readyToken readyArguments bareConfig) ∨
      ∃ (c : HostCall) (reply : Except ScriptError c.Reply), e = .call 0 c reply ∧ c.Applies) ∧
    ∃ (c : HostCall) (reply : Except ScriptError c.Reply), .call 0 c reply ∈ events ∧
      c.ChangesLive := by
  obtain ⟨t, happly, -⟩ := apply_ready 0
  have happlied := apply_runs happly
  have hrun := run_apply (M := ⟨readyHost freshTables, []⟩) honly rfl nofun happly
  refine ⟨_, t, hrun, happlied, ?_, ?_⟩
  · intro e he
    rcases mem_done he with rfl | ⟨x, hx, rfl⟩
    · exact .inl rfl
    · exact .inr ⟨x.call, x.reply, rfl, (uses_apply _ _ _ _).exchanges _ _ x hx⟩
  · obtain ⟨hresult, hstate⟩ := happly
    have hchanged : ((apply 1 readyToken readyArguments bareConfig).exec (barePlatform.handler 0)
        (readyHost freshTables)).state.ipForward ≠ (readyHost freshTables).ipForward := by
      rw [hstate, happlied.forwarding]
      decide
    obtain ⟨x, hx, hlive⟩ := exists_changesLive hchanged
    exact ⟨x.call, x.reply, List.mem_cons_of_mem _ (List.mem_map.mpr ⟨x, hx, rfl⟩), hlive⟩

end Activation

end Snarkypuss
