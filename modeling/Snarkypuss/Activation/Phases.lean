import Snarkypuss.Activation.System

/-!
# How far a process has got

The phases of the three scripts, and the protocols that the scripts keep to. A confirmation and a
rollback hold the lock of the record from before they read it until after they have written it.

## Main definitions

* `Phase`: how far a process has got
* `applyMay`, `confirmMay`, `rollbackMay`, `protocol`: the calls that are made in a phase
* `Ending`: the phases in which a process ends

## Main results

* `follows_apply`, `follows_confirm`, `follows_rollback`: the scripts keep to their protocols
-/

namespace Snarkypuss

namespace Activation

/-! ## Phases -/

/-- How far a process has got. An application prepares, then its record is written, then its timer
is armed. A confirmation or a rollback finds the record, takes its lock and reads it; then the
persistent rules are saved and the timer disarmed, or the persistent rules are put back; then the
record is written, and the lock is released. -/
inductive Phase
  | fresh
  | preparing (rules : Option String)
  | recorded
  | armed
  | outside
  | present
  | locked
  | read (record : Record)
  | saved (record : Record)
  | disarmed (record : Record)
  | rulesBack (record : Record)
  | written
  | settled
  | failed (holding : Bool)
  | refused

namespace Phase

/-- The phases in which a confirmation or a rollback holds the lock. -/
def holding : Phase → Bool
  | locked | read _ | saved _ | disarmed _ | rulesBack _ | written => true
  | failed holding => holding
  | _ => false

/-- The phase of a confirmation or a rollback after a command. -/
def afterCommand (status : Bool) : Phase → Command → Phase
  | read record, .netfilterPersistentSave => if status then saved record else failed true
  | read record, .systemctl _ _ => read record
  | read record, _ => if status then read record else failed true
  | saved record, _ => disarmed record
  | φ, _ => φ

/-- The phase of a confirmation or a rollback after an exception. -/
def afterError : Phase → Phase
  | written => written
  | φ => failed φ.holding

/-- The phase of a confirmation or a rollback after a call. -/
def after (φ : Phase) : (c : HostCall) → Except ScriptError c.Reply → Phase
  | .geteuid, .ok euid => if euid = 0 then φ else refused
  | .recordIsFile _, .ok found => if found then present else refused
  | .lock _, .ok _ => locked
  | .readRecord _, .ok record => read record
  | .command c, .ok status => φ.afterCommand status c
  | .writeText _ _, .ok _ | .unlink _, .ok _ =>
    match φ with
    | read record => rulesBack record
    | φ => φ
  | .writeRecord _ _, .ok _ => written
  | .unlock _, _ =>
    match φ with
    | failed _ => failed false
    | _ => settled
  | _, .ok _ => φ
  | _, .error _ => φ.afterError

/-- The phase of an application after a call. `rules` stands for the persistent rules file from
the start of the application on, and is what the file holds when the application is alone. -/
def applyMoves (alone : Prop) (φ : Phase) :
    (c : HostCall) → Except ScriptError c.Reply → Phase → Prop
  | .geteuid, .ok euid, φ' => match φ with
    | fresh => if euid = 0 then ∃ rules, φ' = preparing rules else φ' = refused
    | φ => φ' = φ
  | .isFile path, .ok found, φ' => φ' = φ ∧ ∀ rules, φ = preparing rules → alone →
    path = persistentRulesPath → found = rules.isSome
  | .readText path, .ok text, φ' => φ' = φ ∧ ∀ rules, φ = preparing rules → alone →
    path = persistentRulesPath → some text = rules.map universalNewlines
  | .writeRecord _ _, .ok _, φ' => φ' = recorded
  | .command _, .ok status, φ' => match φ with
    | recorded => φ' = if status then armed else recorded
    | φ => φ' = φ
  | _, .error _, φ' => φ' = φ
  | _, .ok _, φ' => φ' = φ

end Phase

/-! ## Protocols -/

/-- The commands with which a rollback puts back the live state of a record. -/
def Record.liveCommands (record : Record) : List Command :=
  .iptablesRestore record.iptablesSave :: .sysctlWrite record.ipForward ::
    record.services.flatMap fun service =>
      [.systemctl (if service.enabled then .enable else .disable) service.unit,
        .systemctl (if service.active then .start else .stop) service.unit]

/-- The calls of an application that change nothing. -/
def HostCall.Harmless : HostCall → Prop
  | .geteuid | .isFile _ | .readText _ | .iptablesSave | .sysctlRead => True
  | .command (.ipLinkShow _) | .command (.wgQuickStrip _) | .command (.dnsmasqTest _) => True
  | .command (.systemctl verb _) => verb = .isActive ∨ verb = .isEnabled
  | _ => False

/-- The calls of an application after its timer is armed. -/
def HostCall.Activates : HostCall → Prop
  | .command (.iptables _ _) | .command (.sysctlWrite _) | .command .daemonReload => True
  | .command (.systemctl verb _) => verb = .enableNow ∨ verb = .disableNow
  | .command (.rollback _) => True
  | _ => False

/-- The calls that an application may make. -/
def applyMay (alone : Prop) (token : Token) : Phase → HostCall → Prop
  | .fresh, c => c = .geteuid
  | .preparing rules, c => c.Harmless ∨ ∃ record, c = .writeRecord token record ∧
    record.token = token ∧ record.status = .pending ∧
    record.persistentRulesPath = persistentRulesPath ∧
    (alone → capturedRules record = rules.map universalNewlines)
  | .recorded, c => ∃ seconds, c = .command (.systemdRun token seconds)
  | .armed, c => c.Activates
  | _, _ => False

/-- The calls that a confirmation may make. -/
def confirmMay (token : Token) : Phase → HostCall → Prop
  | .outside, c => c = .geteuid ∨ c = .recordIsFile token
  | .present, c => c = .lock token
  | .locked, c => c = .readRecord token
  | .read record, c => c = .command .netfilterPersistentSave ∧ record.status = .pending ∨
    c = .unlock token ∧ record.status ≠ .pending
  | .saved _, c => c = .command (.stopTimer token)
  | .disarmed record, c => c = .writeRecord token { record with status := .confirmed }
  | .written, c => c = .unlock token
  | .failed holding, c => holding = true ∧ c = .unlock token
  | _, _ => False

/-- The calls that a rollback may make. -/
def rollbackMay (token : Token) (force : Bool) : Phase → HostCall → Prop
  | .outside, c => c = .geteuid ∨ c = .recordIsFile token
  | .present, c => c = .lock token
  | .locked, c => c = .readRecord token
  | .read record, c =>
    (record.status = .pending ∨ record.status = .confirmed ∧ force = true) ∧
      (∃ command ∈ record.liveCommands, c = .command command) ∨
    record.status = .confirmed ∧ force = true ∧
      (c = .makeParent record.persistentRulesPath ∨
        record.persistentRulesExisted = true ∧
          c = .writeText record.persistentRulesPath record.persistentRules ∨
        record.persistentRulesExisted = false ∧ c = .unlink record.persistentRulesPath) ∨
    record.status = .pending ∧ c = .writeRecord token { record with status := .rolledBack } ∨
    record.status ≠ .pending ∧ c = .unlock token
  | .rulesBack record, c => c = .chmod record.persistentRulesPath ∨
    c = .writeRecord token { record with status := .rolledBack }
  | .written, c => c = .command (.stopTimer token) ∨ c = .unlock token
  | .failed holding, c => holding = true ∧ c = .unlock token
  | _, _ => False

/-- The record that is read is the token's own. -/
def ReadsOwn (token : Token) : (c : HostCall) → Except ScriptError c.Reply → Prop
  | .readRecord _, .ok record =>
    record.token = token ∧ record.persistentRulesPath = persistentRulesPath
  | _, _ => True

/-- The phase of a confirmation or a rollback after a call, when it reads its own record. -/
def lockMoves (token : Token) (φ : Phase) (c : HostCall) (r : Except ScriptError c.Reply)
    (φ' : Phase) : Prop :=
  φ' = φ.after c r ∧ ReadsOwn token c r

/-- The protocol of a process. -/
def protocol (alone : Prop) : Request → Protocol host ScriptError Phase
  | .apply _ token _ _ => ⟨applyMay alone token, Phase.applyMoves alone⟩
  | .confirm token => ⟨confirmMay token, lockMoves token⟩
  | .rollback token force _ => ⟨rollbackMay token force, lockMoves token⟩

/-- The phase in which a process starts. -/
def firstPhase : Request → Phase
  | .apply .. => .fresh
  | .confirm _ | .rollback .. => .outside

/-- The phases in which a process ends, by its result. A rollback that ends without a result of
zero has met a failure, or found no record of its token, or one that is not pending. -/
def Ending : Request → Except ScriptError ℕ → Phase → Prop
  | .apply .., _, _ => True
  | .confirm _, r, φ => r = .ok 0 → φ = .settled
  | .rollback .., r, φ => (r = .ok 0 → φ = .settled) ∧
    (φ = .settled ∨ φ = .refused ∨ φ = .failed false)

/-! ### The scripts keep to their protocols -/

section Rules

variable {A : Type} {π : Protocol host ScriptError Phase}
  {Q : Except ScriptError A → Phase → Prop} {φ : Phase}

theorem follows_require_bind {b : Bool} {message : String} {f : Unit → Script A}
    (htrue : b = true → (f ()).Follows π Q φ)
    (hfalse : b = false → Q (.error (.activation message)) φ) :
    ((require b message).bind f).Follows π Q φ := by
  cases b with
  | true => exact htrue rfl
  | false => exact hfalse rfl

/-- The rule of a command whose status is looked at. -/
theorem follows_unchecked_bind {c : Command} {f : Bool → Script A} (hmay : π.may φ (.command c))
    (hok : ∀ status ψ, π.moves φ (.command c) (.ok status) ψ → (f status).Follows π Q ψ)
    (herror : ∀ e ψ, π.moves φ (.command c) (.error e) ψ → ∀ e', Q (.error e') ψ) :
    ((runUnchecked c).bind f).Follows π Q φ := by
  refine ⟨hmay, fun r ψ hmoves => ?_⟩
  cases r with
  | ok status => exact hok status ψ hmoves
  | error e => cases e <;> exact herror _ ψ hmoves _

/-- The rule of a command that has to succeed. -/
theorem follows_run_bind {c : Command} {f : Unit → Script A} (hmay : π.may φ (.command c))
    (htrue : ∀ ψ, π.moves φ (.command c) (.ok true) ψ → (f ()).Follows π Q ψ)
    (hfalse : ∀ ψ, π.moves φ (.command c) (.ok false) ψ → ∀ e, Q (.error e) ψ)
    (herror : ∀ e ψ, π.moves φ (.command c) (.error e) ψ → ∀ e', Q (.error e') ψ) :
    ((run c).bind f).Follows π Q φ := by
  rw [run, Program.bind_eq, Program.bind_assoc]
  refine follows_unchecked_bind hmay (fun status ψ hmoves => ?_) herror
  cases status with
  | true => exact htrue ψ hmoves
  | false => exact hfalse ψ hmoves _

end Rules

/-- The phases from which a lock is released. -/
inductive Releasable : Phase → Prop
  | failed : Releasable (.failed true)
  | written : Releasable .written
  | read (record : Record) (h : record.status ≠ .pending) : Releasable (.read record)

/-- How the locked part of a confirmation or a rollback ends. -/
def LockedEnding (r : Except ScriptError ℕ) (φ : Phase) : Prop :=
  Releasable φ ∧ (r = .ok 0 → φ ≠ .failed true)

section Confirm

variable (alone : Prop) (token : Token)

theorem follows_confirmLocked : (confirmLocked token).Follows
    (protocol alone (.confirm token)) LockedEnding .locked := by
  refine Program.follows_call_bind rfl ?_ ?_
  · rintro record _ ⟨rfl, -⟩
    refine follows_require_bind (fun hpending => ?_) fun hother => ?_
    · have hpending : record.status = .pending := of_decide_eq_true hpending
      refine follows_run_bind (.inl ⟨rfl, hpending⟩) ?_ ?_ ?_
      · rintro _ ⟨rfl, -⟩
        refine follows_unchecked_bind rfl ?_ ?_
        · rintro status _ ⟨rfl, -⟩
          refine Program.follows_call_bind rfl ?_ ?_
          · rintro _ _ ⟨rfl, -⟩
            exact ⟨.written, fun _ => nofun⟩
          · rintro e _ ⟨rfl, -⟩
            exact ⟨.failed, nofun⟩
        · rintro e _ ⟨rfl, -⟩ e'
          exact ⟨.failed, nofun⟩
      · rintro _ ⟨rfl, -⟩ e
        exact ⟨.failed, nofun⟩
      · rintro e _ ⟨rfl, -⟩ e'
        exact ⟨.failed, nofun⟩
    · exact ⟨.read record (of_decide_eq_false hother), nofun⟩
  · rintro e _ ⟨rfl, -⟩
    exact ⟨.failed, nofun⟩

/-- A lock is released at the end. -/
theorem follows_unlock {r : Except ScriptError ℕ} {φ : Phase} {request : Request}
    (h : LockedEnding r φ)
    (hmay : ∀ φ, Releasable φ → (protocol alone request).may φ (.unlock token))
    (hmoves : (protocol alone request).moves = lockMoves token)
    (hending : ∀ r φ, (r = .ok 0 → φ = .settled) ∧ (φ = .settled ∨ φ = .failed false) →
      Ending request r φ) :
    (call (.unlock token)).Follows (protocol alone request)
      (fun u => Ending request (Program.cleanedUp r u)) φ := by
  refine Program.follows_call (hmay φ h.1) fun u ψ hψ => hending _ ψ ?_
  rw [hmoves] at hψ
  obtain ⟨rfl, -⟩ : lockMoves token φ (.unlock token) u ψ := hψ
  obtain ⟨hreleasable, hresult⟩ := h
  cases hreleasable with
  | failed =>
    refine ⟨fun hr => ?_, .inr rfl⟩
    cases u with
    | ok u => exact absurd rfl (hresult hr)
    | error e => cases hr
  | written => exact ⟨fun _ => rfl, .inl rfl⟩
  | read record hrecord => exact ⟨fun _ => rfl, .inl rfl⟩

theorem follows_confirm : (confirm token).Follows (protocol alone (.confirm token))
    (Ending (.confirm token)) .outside := by
  refine Program.follows_call_bind (.inl rfl) ?_ ?_
  · rintro euid _ ⟨rfl, -⟩
    refine follows_require_bind (fun hroot => ?_) fun _ => nofun
    refine follows_require_bind (fun _ => ?_) fun _ => nofun
    have hphase : Phase.after .outside .geteuid (.ok euid) = .outside :=
      if_pos (of_decide_eq_true hroot)
    rw [hphase]
    refine Program.follows_call_bind (.inr rfl) ?_ fun _ _ _ => nofun
    rintro found _ ⟨rfl, -⟩
    refine follows_require_bind (fun hfound => ?_) fun _ => nofun
    have hpresent : Phase.after .outside (.recordIsFile token) (.ok found) = .present :=
      if_pos hfound
    rw [hpresent]
    refine Program.follows_call_bind rfl ?_ fun _ _ _ => nofun
    rintro _ _ ⟨rfl, -⟩
    refine (follows_confirmLocked alone token).finally_ fun r ψ hr =>
      follows_unlock alone token hr ?_ rfl fun _ _ h => h.1
    rintro φ (_ | _ | ⟨record, hrecord⟩)
    · exact ⟨rfl, rfl⟩
    · exact rfl
    · exact .inr ⟨rfl, hrecord⟩
  · rintro e _ ⟨rfl, -⟩
    exact nofun

end Confirm

section Rollback

variable (alone : Prop) (token : Token) (force automatic : Bool) (record : Record)

/-- How a part of a rollback ends: in the phase `φ₀`, or with a failure. -/
def Keeps {A : Type} (φ₀ : Phase) (r : Except ScriptError A) (φ : Phase) : Prop :=
  match r with
  | .ok _ => φ = φ₀
  | .error _ => φ = .failed true

/-- A record that a rollback works on. -/
def WorksOn : Prop :=
  record.status = .pending ∨ record.status = .confirmed ∧ force = true

variable {record force}

theorem follows_liveCommand (h : WorksOn force record) {verb : ServiceVerb} {unit : String}
    (hmem : .systemctl verb unit ∈ record.liveCommands) :
    (rollbackRunUnchecked (.systemctl verb unit)).Follows
      (protocol alone (.rollback token force automatic)) (Keeps (.read record)) (.read record) := by
  refine Program.follows_call_bind (.inl ⟨h, _, hmem, rfl⟩) ?_ ?_
  · rintro status _ ⟨rfl, -⟩
    exact rfl
  · rintro e _ ⟨rfl, -⟩
    exact rfl

theorem follows_restoreServices (h : WorksOn force record) (services : List CapturedService)
    (hmem : ∀ service ∈ services, service ∈ record.services) :
    (restoreServices services).Follows (protocol alone (.rollback token force automatic))
      (Keeps (.read record)) (.read record) := by
  induction services with
  | nil => exact rfl
  | cons service services ih =>
    have hservice : ∀ command ∈ [Command.systemctl (if service.enabled then .enable else .disable)
        service.unit, .systemctl (if service.active then .start else .stop) service.unit],
        command ∈ record.liveCommands := fun command hcommand =>
      .tail _ (.tail _ (List.mem_flatMap.mpr ⟨service, hmem service List.mem_cons_self, hcommand⟩))
    refine Program.Follows.bind (Program.Follows.bind
      (follows_liveCommand alone token automatic h (hservice _ (.head _))) ?_ fun _ _ he => he) ?_
      fun _ _ he => he
    · rintro _ _ rfl
      exact follows_liveCommand alone token automatic h (hservice _ (.tail _ (.head _)))
    · rintro _ _ rfl
      exact ih fun service hservice => hmem service (.tail _ hservice)

/-- A command of a rollback that has to succeed. -/
theorem follows_rollbackRun (h : WorksOn force record) {c : Command} (hmem : c ∈ record.liveCommands)
    (hafter : ∀ status, (Phase.read record).afterCommand status c =
      if status then .read record else .failed true) :
    (rollbackRun c).Follows (protocol alone (.rollback token force automatic))
      (Keeps (.read record)) (.read record) := by
  refine Program.follows_call_bind (.inl ⟨h, c, hmem, rfl⟩) ?_ ?_
  · rintro status ψ ⟨hψ, -⟩
    have hψ : ψ = (Phase.read record).afterCommand status c := hψ
    rw [hψ, hafter]
    cases status <;> exact rfl
  · rintro e _ ⟨rfl, -⟩
    exact rfl

theorem follows_restoreLive (h : WorksOn force record) :
    (restoreLive record).Follows (protocol alone (.rollback token force automatic))
      (Keeps (.read record)) (.read record) := by
  refine (follows_rollbackRun alone token automatic h (.head _) fun _ => rfl).bind ?_ fun _ _ he => he
  rintro _ _ rfl
  refine (follows_rollbackRun alone token automatic h (.tail _ (.head _)) fun _ => rfl).bind ?_
    fun _ _ he => he
  rintro _ _ rfl
  exact follows_restoreServices alone token automatic h _ fun _ hservice => hservice

theorem follows_restorePersistentRules (hstatus : record.status = .confirmed) (hforce : force = true) :
    (restorePersistentRules record).Follows (protocol alone (.rollback token force automatic))
      (Keeps (.rulesBack record)) (.read record) := by
  unfold restorePersistentRules
  by_cases hexisted : record.persistentRulesExisted = true
  · rw [if_pos hexisted]
    refine Program.follows_call_bind (.inr (.inl ⟨hstatus, hforce, .inl rfl⟩)) ?_ ?_
    · rintro _ _ ⟨rfl, -⟩
      refine Program.follows_call_bind
        (.inr (.inl ⟨hstatus, hforce, .inr (.inl ⟨hexisted, rfl⟩)⟩)) ?_ ?_
      · rintro _ _ ⟨rfl, -⟩
        refine Program.follows_call (.inl rfl) ?_
        rintro (e | u) _ ⟨rfl, -⟩ <;> exact rfl
      · rintro e _ ⟨rfl, -⟩
        exact rfl
    · rintro e _ ⟨rfl, -⟩
      exact rfl
  · have hexisted : record.persistentRulesExisted = false := by simpa using hexisted
    rw [if_neg (by simp [hexisted])]
    refine Program.follows_call (.inr (.inl ⟨hstatus, hforce, .inr (.inr ⟨hexisted, rfl⟩)⟩)) ?_
    rintro (e | u) _ ⟨rfl, -⟩ <;> exact rfl

/-- The end of the `try` block: the record is written, and then the timer is stopped. -/
theorem follows_writeRolledBack {φ : Phase} (htoken : record.token = token)
    (hmay : rollbackMay token force φ (.writeRecord token { record with status := .rolledBack }))
    (herror : φ.afterError = .failed true) :
    (do
      call (.writeRecord token { record with status := .rolledBack })
      rollbackRunUnchecked (.stopTimer record.token)
      pure 0 : Script ℕ).Follows (protocol alone (.rollback token force automatic))
        LockedEnding φ := by
  refine Program.follows_call_bind hmay ?_ ?_
  · rintro _ _ ⟨rfl, -⟩
    rw [htoken]
    refine Program.Follows.bind (Q := fun _ ψ => ψ = .written) ?_ ?_ ?_
    · refine Program.follows_call_bind (.inl rfl) ?_ ?_
      · rintro status _ ⟨rfl, -⟩
        exact rfl
      · rintro e _ ⟨rfl, -⟩
        exact rfl
    · rintro _ _ rfl
      exact ⟨.written, fun _ => nofun⟩
    · rintro e _ rfl
      exact ⟨.written, nofun⟩
  · rintro e ψ ⟨hψ, -⟩
    have hψ : ψ = φ.afterError := hψ
    rw [hψ, herror]
    exact ⟨.failed, nofun⟩

theorem lockedEnding_of_keeps {A : Type} {φ ψ : Phase} {e : ScriptError}
    (h : Keeps φ (.error e : Except ScriptError A) ψ) : LockedEnding (.error e) ψ := by
  obtain rfl : ψ = .failed true := h
  exact ⟨.failed, nofun⟩

theorem follows_restore (h : WorksOn force record) (htoken : record.token = token) :
    (restore token record).Follows (protocol alone (.rollback token force automatic))
      LockedEnding (.read record) := by
  refine (follows_restoreLive alone token automatic h).bind ?_ fun _ _ he => lockedEnding_of_keeps he
  rintro _ _ rfl
  rcases h with hpending | ⟨hconfirmed, hforce⟩
  · rw [if_neg (by simp [hpending])]
    exact follows_writeRolledBack alone token automatic htoken
      (.inr (.inr (.inl ⟨hpending, rfl⟩))) rfl
  · rw [if_pos hconfirmed]
    refine (follows_restorePersistentRules alone token automatic hconfirmed hforce).bind ?_
      fun _ _ he => lockedEnding_of_keeps he
    rintro _ _ rfl
    exact follows_writeRolledBack alone token automatic htoken (.inr rfl) rfl

/-- How the `try` block of a rollback ends, with the exceptions that are caught. -/
def CaughtEnding : Except ScriptError (Except Unit ℕ) → Phase → Prop
  | .ok (.ok status), φ => LockedEnding (.ok status) φ
  | .ok (.error _), φ => Releasable φ
  | .error e, φ => LockedEnding (.error e) φ

theorem follows_rollbackRecord (htoken : record.token = token) :
    (rollbackRecord token force automatic record).Follows
      (protocol alone (.rollback token force automatic)) LockedEnding (.read record) := by
  unfold rollbackRecord
  split
  · rename_i hrolledBack
    refine ⟨.read record (by simp [hrolledBack]), fun _ h => ?_⟩
    cases h
  · rename_i hopen
    split
    · rename_i hconfirmed
      have hne : record.status ≠ .pending := by
        intro hpending
        simp [hpending] at hconfirmed
      cases automatic <;> exact ⟨.read record hne, fun _ h => by cases h⟩
    · rename_i hwork
      have h : WorksOn force record := by
        unfold WorksOn
        cases hstatus : record.status with
        | pending => exact .inl rfl
        | confirmed => simpa [hstatus] using hwork
        | rolledBack => exact absurd hstatus hopen
      refine Program.Follows.bind (Q := CaughtEnding) ?_ ?_ fun _ _ he => he
      · refine Program.Follows.attempt ((follows_restore alone token automatic h htoken).mono ?_)
        rintro (e | status) ψ hr
        · simp only [Program.reify]
          cases rollbackFailure? e with
          | none => exact hr
          | some u => exact hr.1
        · exact hr
      · rintro (u | status) ψ hr
        · exact ⟨hr, fun h => by cases h⟩
        · exact hr

theorem follows_rollbackLocked : (rollbackLocked token force automatic).Follows
    (protocol alone (.rollback token force automatic)) LockedEnding .locked := by
  refine Program.Follows.bind (Q := fun r ψ => (∀ state, r = .ok (.ok state) →
    ψ = .read state ∧ state.token = token) ∧ ((∀ state, r ≠ .ok (.ok state)) → ψ = .failed true))
    ?_ ?_ ?_
  · refine Program.Follows.attempt (Program.follows_call rfl ?_)
    rintro (e | record) _ ⟨rfl, hown⟩
    · refine ⟨fun state hstate => ?_, fun _ => rfl⟩
      simp only [Program.reify] at hstate
      split at hstate <;> cases hstate
    · refine ⟨fun state hstate => ?_, fun hnot => absurd rfl (hnot record)⟩
      cases hstate
      exact ⟨rfl, hown.1⟩
  · rintro (u | state) ψ ⟨hread, hfailed⟩
    · obtain rfl := hfailed fun state h => by cases h
      exact ⟨.failed, fun h => by cases h⟩
    · obtain ⟨rfl, htoken⟩ := hread state rfl
      exact follows_rollbackRecord alone token automatic htoken
  · rintro e ψ ⟨-, hfailed⟩
    obtain rfl := hfailed fun state h => by cases h
    exact ⟨.failed, fun h => by cases h⟩

theorem follows_rollback : (rollback token force automatic).Follows
    (protocol alone (.rollback token force automatic)) (Ending (.rollback token force automatic))
    .outside := by
  refine Program.follows_call_bind (.inl rfl) ?_ ?_
  · rintro euid ψ ⟨hψ, -⟩
    have hψ : ψ = if euid = 0 then .outside else .refused := hψ
    by_cases hroot : euid = 0
    · rw [hψ, if_pos hroot, if_neg (not_not.mpr hroot)]
      refine Program.follows_call_bind (.inr rfl) ?_ ?_
      · rintro found ψ ⟨hψ, -⟩
        have hψ : ψ = if found then .present else .refused := hψ
        cases found with
        | false =>
          rw [hψ]
          exact ⟨nofun, .inr (.inl rfl)⟩
        | true =>
          rw [hψ]
          refine Program.follows_call_bind rfl ?_ ?_
          · rintro _ _ ⟨rfl, -⟩
            refine (follows_rollbackLocked alone token automatic).finally_ fun r ψ hr =>
              follows_unlock alone token hr ?_ rfl fun r φ h =>
                ⟨h.1, h.2.elim .inl fun h => .inr (.inr h)⟩
            rintro φ (_ | _ | ⟨record, hrecord⟩)
            · exact ⟨rfl, rfl⟩
            · exact .inr rfl
            · exact .inr (.inr (.inr ⟨hrecord, rfl⟩))
          · rintro e _ ⟨rfl, -⟩
            exact ⟨nofun, .inr (.inr rfl)⟩
      · rintro e _ ⟨rfl, -⟩
        exact ⟨nofun, .inr (.inr rfl)⟩
    · rw [hψ, if_neg hroot, if_pos hroot]
      exact ⟨nofun, .inr (.inl rfl)⟩
  · rintro e _ ⟨rfl, -⟩
    exact ⟨nofun, .inr (.inr rfl)⟩

end Rollback

section Apply

variable (alone : Prop) (fuel : ℕ) (token : Token) (arguments : Arguments)
  (config : ActivationConfig) (rules : Option String)

theorem applyMoves_harmless {c : HostCall} {r : Except ScriptError c.Reply} {φ : Phase}
    (hc : c.Harmless) (hmoves : Phase.applyMoves alone (.preparing rules) c r φ) :
    φ = .preparing rules := by
  cases r with
  | error e => cases c <;> exact hmoves
  | ok a =>
    cases c with
    | geteuid => exact hmoves
    | isFile path => exact hmoves.1
    | readText path => exact hmoves.1
    | iptablesSave => exact hmoves
    | sysctlRead => exact hmoves
    | command c => exact hmoves
    | _ => cases hc

/-- A program of harmless calls, while an application prepares. -/
theorem follows_harmless {A : Type} {p : Script A} (hp : p.Uses HostCall.Harmless) :
    p.Follows (protocol alone (.apply fuel token arguments config))
      (fun _ φ => φ = .preparing rules) (.preparing rules) :=
  hp.follows (fun _ hc => .inl hc) (fun _ _ _ hc hmoves => applyMoves_harmless alone rules hc hmoves)
    fun _ => rfl

theorem uses_serviceState {allowed : HostCall → Prop} {unit : String}
    (hactive : allowed (.command (.systemctl .isActive unit)))
    (henabled : allowed (.command (.systemctl .isEnabled unit))) :
    (serviceState unit).Uses allowed :=
  (uses_runUnchecked hactive).bind fun _ => (uses_runUnchecked henabled).bind fun _ => trivial

theorem uses_output {allowed : HostCall → Prop} {A : Type} {p : Script (Option A)}
    (hp : p.Uses allowed) : (output p).Uses allowed := by
  refine (hp.attempt fileNotFound?).bind fun r => ?_
  rcases r with u | (_ | a) <;> trivial

theorem uses_anyIsFile {allowed : HostCall → Prop} (paths : List String)
    (hpaths : ∀ path, allowed (.isFile path)) : (anyIsFile paths).Uses allowed := by
  induction paths with
  | nil => trivial
  | cons path paths ih =>
    refine Program.uses_call_bind (hpaths path) fun found => ?_
    cases found with
    | true => trivial
    | false => exact ih

theorem follows_isFile_bind {A : Type} {path : String} {Q : Except ScriptError A → Phase → Prop}
    {f : Bool → Script A}
    (hf : ∀ found, (alone → path = persistentRulesPath → found = rules.isSome) →
      (f found).Follows (protocol alone (.apply fuel token arguments config)) Q (.preparing rules))
    (hQ : ∀ e, Q (.error e) (.preparing rules)) :
    ((call (.isFile path)).bind f).Follows (protocol alone (.apply fuel token arguments config)) Q
      (.preparing rules) := by
  refine Program.follows_call_bind (.inl trivial) ?_ ?_
  · rintro found _ ⟨rfl, hfound⟩
    exact hf found (hfound rules rfl)
  · rintro e _ rfl
    exact hQ e

/-- What an application captures of the persistent rules, when it is alone. -/
theorem follows_capture (legacyDns : CapturedService) :
    (capture token config legacyDns).Follows
      (protocol alone (.apply fuel token arguments config)) (fun r φ => φ = .preparing rules ∧
        ∀ state, r = .ok state → state.token = token ∧ state.status = .pending ∧
          state.persistentRulesPath = persistentRulesPath ∧
          (alone → capturedRules state = rules.map universalNewlines)) (.preparing rules) := by
  have hservice : ∀ unit, (serviceState unit).Uses HostCall.Harmless :=
    fun unit => uses_serviceState (.inl rfl) (.inr rfl)
  refine follows_isFile_bind alone fuel token arguments config rules (fun _ _ => ?_) fun _ => ⟨rfl, nofun⟩
  refine follows_require_bind (fun _ => ?_) fun _ => ⟨rfl, nofun⟩
  refine follows_isFile_bind alone fuel token arguments config rules (fun existed hexisted => ?_)
    fun _ => ⟨rfl, nofun⟩
  have hrest : ∀ persistent : String,
      (alone → existed = true → some persistent = rules.map universalNewlines) →
      (do
        let wireguard ← serviceState (wgQuickService config.tunnelInterface)
        let dns ← serviceState dnsService
        let iptablesSave ← output (call .iptablesSave)
        let ipForward ← output (call .sysctlRead)
        let persistentRulesExisted ← call (.isFile persistentRulesPath)
        pure {
          token, status := .pending, iptablesSave, ipForward
          services := [wireguard, dns, legacyDns]
          persistentRulesPath, persistentRulesExisted
          persistentRules := persistent } : Script Record).Follows
        (protocol alone (.apply fuel token arguments config)) (fun r φ => φ = .preparing rules ∧
          ∀ state, r = .ok state → state.token = token ∧ state.status = .pending ∧
            state.persistentRulesPath = persistentRulesPath ∧
            (alone → capturedRules state = rules.map universalNewlines)) (.preparing rules) := by
    intro persistent hpersistent
    refine (follows_harmless alone fuel token arguments config rules (hservice _)).bind ?_
      fun _ _ h => ⟨h, nofun⟩
    rintro wireguard _ rfl
    refine (follows_harmless alone fuel token arguments config rules (hservice _)).bind ?_
      fun _ _ h => ⟨h, nofun⟩
    rintro dns _ rfl
    refine (follows_harmless alone fuel token arguments config rules
      (uses_output ((Program.uses_call _).mpr trivial))).bind ?_ fun _ _ h => ⟨h, nofun⟩
    rintro tables _ rfl
    refine (follows_harmless alone fuel token arguments config rules
      (uses_output ((Program.uses_call _).mpr trivial))).bind ?_ fun _ _ h => ⟨h, nofun⟩
    rintro ipForward _ rfl
    refine follows_isFile_bind alone fuel token arguments config rules (fun found hfound => ?_)
      fun _ => ⟨rfl, nofun⟩
    refine ⟨rfl, ?_⟩
    rintro _ ⟨⟩
    refine ⟨rfl, rfl, rfl, fun halone => ?_⟩
    -- The file was found the second time as it was the first time.
    have hsame : existed = found := (hexisted halone rfl).trans (hfound halone rfl).symm
    subst hsame
    cases existed with
    | false =>
      have hnone := hfound halone rfl
      cases rules with
      | none => rfl
      | some text => cases hnone
    | true => exact hpersistent halone rfl
  cases existed with
  | false => exact hrest "" fun _ h => absurd h Bool.false_ne_true
  | true =>
    refine Program.follows_call_bind (.inl trivial) ?_ ?_
    · rintro text _ ⟨rfl, htext⟩
      exact hrest text fun halone _ => htext rules rfl halone rfl
    · rintro e _ rfl
      exact ⟨rfl, nofun⟩

theorem uses_activate (legacyOwned : Bool) (legacyDns : CapturedService) :
    (activate fuel config legacyOwned legacyDns).Uses HostCall.Activates := by
  refine (uses_applyFirewall fuel config (fun _ => trivial) fun _ => trivial).bind fun _ => ?_
  have hforward : HostCall.Activates (.command (.sysctlWrite "1")) := trivial
  have hreload : HostCall.Activates (.command .daemonReload) := trivial
  have henable : ∀ unit, HostCall.Activates (.command (.systemctl .enableNow unit)) :=
    fun _ => .inl rfl
  have hdisable : HostCall.Activates (.command (.systemctl .disableNow legacyDnsService)) := .inr rfl
  refine (uses_run hforward).bind fun _ => (uses_run hreload).bind fun _ =>
    (uses_run (henable _)).bind fun _ => ?_
  cases legacyOwned && (legacyDns.active || legacyDns.enabled) with
  | false => exact uses_run (henable _)
  | true => exact (uses_run hdisable).bind fun _ => uses_run (henable _)

theorem follows_activateRecorded (legacyOwned : Bool) (legacyDns : CapturedService) {state : Record}
    (htoken : state.token = token) (hstatus : state.status = .pending)
    (hpath : state.persistentRulesPath = persistentRulesPath)
    (hrules : alone → capturedRules state = rules.map universalNewlines) :
    (activateRecorded fuel token arguments config legacyOwned legacyDns state).Follows
      (protocol alone (.apply fuel token arguments config)) (fun _ _ => True) (.preparing rules) := by
  refine Program.follows_call_bind (.inr ⟨state, rfl, htoken, hstatus, hpath, hrules⟩) ?_
    fun _ _ _ => trivial
  rintro _ _ rfl
  refine follows_run_bind ⟨_, rfl⟩ ?_ (fun _ _ _ => trivial) fun _ _ _ _ => trivial
  rintro _ rfl
  refine Program.Uses.follows ?_ (fun c (hc : HostCall.Activates c) => hc)
    (fun c r φ hc hmoves => ?_) fun _ => trivial
  · refine ((uses_activate fuel config legacyOwned legacyDns).attempt activationError?).bind ?_
    rintro (message | u)
    · exact (uses_runUnchecked trivial).bind fun _ => trivial
    · trivial
  · cases r with
    | error e => cases c <;> exact hmoves
    | ok a => cases c <;> first | exact hmoves | cases hc

theorem follows_checkApply : (checkApply arguments config).Follows
    (protocol alone (.apply fuel token arguments config))
    (fun r φ => ∀ u, r = .ok u → ∃ rules, φ = .preparing rules) .fresh := by
  refine Program.follows_call_bind rfl (fun euid φ hmoves => ?_) fun _ _ _ => nofun
  refine follows_require_bind (fun hroot => ?_) fun _ => nofun
  have hmoves : if euid = 0 then ∃ rules, φ = .preparing rules else φ = .refused := hmoves
  rw [if_pos (of_decide_eq_true hroot)] at hmoves
  obtain ⟨rules, rfl⟩ := hmoves
  have hharmless : ∀ {A : Type} {p : Script A}, p.Uses HostCall.Harmless →
      p.Follows (protocol alone (.apply fuel token arguments config))
        (fun r φ => ∀ u, r = .ok u → ∃ rules, φ = .preparing rules) (.preparing rules) := fun hp =>
    (follows_harmless alone fuel token arguments config rules hp).mono fun _ _ h _ _ => ⟨rules, h⟩
  have hlink : HostCall.Harmless (.command (.ipLinkShow config.protectedEgressInterface)) := trivial
  have hstrip : HostCall.Harmless (.command (.wgQuickStrip config.tunnelInterface)) := trivial
  have htest : HostCall.Harmless (.command (.dnsmasqTest dnsConfig)) := trivial
  apply hharmless
  refine (uses_require _ _).bind fun _ => (uses_require _ _).bind fun _ =>
    (uses_require _ _).bind fun _ => ?_
  refine Program.uses_call_bind trivial fun _ => (uses_require _ _).bind fun _ => ?_
  refine Program.uses_call_bind trivial fun _ => (uses_require _ _).bind fun _ => ?_
  refine Program.uses_call_bind trivial fun _ => (uses_require _ _).bind fun _ => ?_
  exact (uses_run hlink).bind fun _ => (uses_run hstrip).bind fun _ => uses_run htest

theorem follows_apply : (apply fuel token arguments config).Follows
    (protocol alone (.apply fuel token arguments config)) (fun _ _ => True) .fresh := by
  refine (follows_checkApply alone fuel token arguments config).bind ?_ fun _ _ _ => trivial
  intro _ φ hφ
  obtain ⟨rules, rfl⟩ := hφ () rfl
  refine (follows_harmless alone fuel token arguments config rules
    (uses_serviceState (.inl rfl) (.inr rfl))).bind ?_ fun _ _ _ => trivial
  rintro legacyDns _ rfl
  refine (follows_harmless alone fuel token arguments config rules
    (uses_anyIsFile _ fun _ => trivial)).bind ?_ fun _ _ _ => trivial
  rintro legacyOwned _ rfl
  refine follows_require_bind (fun _ => ?_) fun _ => trivial
  refine (follows_capture alone fuel token arguments config rules legacyDns).bind ?_
    fun _ _ _ => trivial
  rintro state _ ⟨rfl, hstate⟩
  obtain ⟨htoken, hstatus, hpath, hrules⟩ := hstate state rfl
  exact follows_activateRecorded alone fuel token arguments config rules legacyOwned legacyDns htoken
    hstatus hpath hrules

/-- The calls of an application. -/
def HostCall.Applies (c : HostCall) : Prop :=
  c.Harmless ∨ c.Activates ∨ (∃ token record, c = .writeRecord token record) ∨
    ∃ token seconds, c = .command (.systemdRun token seconds)

theorem uses_checkApply : (checkApply arguments config).Uses HostCall.Harmless := by
  have hlink : HostCall.Harmless (.command (.ipLinkShow config.protectedEgressInterface)) := trivial
  have hstrip : HostCall.Harmless (.command (.wgQuickStrip config.tunnelInterface)) := trivial
  have htest : HostCall.Harmless (.command (.dnsmasqTest dnsConfig)) := trivial
  refine Program.uses_call_bind trivial fun _ => ?_
  refine (uses_require _ _).bind fun _ => (uses_require _ _).bind fun _ =>
    (uses_require _ _).bind fun _ => (uses_require _ _).bind fun _ => ?_
  refine Program.uses_call_bind trivial fun _ => (uses_require _ _).bind fun _ => ?_
  refine Program.uses_call_bind trivial fun _ => (uses_require _ _).bind fun _ => ?_
  refine Program.uses_call_bind trivial fun _ => (uses_require _ _).bind fun _ => ?_
  exact (uses_run hlink).bind fun _ => (uses_run hstrip).bind fun _ => uses_run htest

theorem uses_capture (legacyDns : CapturedService) :
    (capture token config legacyDns).Uses HostCall.Harmless := by
  have hservice : ∀ unit, (serviceState unit).Uses HostCall.Harmless :=
    fun unit => uses_serviceState (.inl rfl) (.inr rfl)
  have htables : (output (call .iptablesSave)).Uses HostCall.Harmless :=
    uses_output ((Program.uses_call _).mpr trivial)
  have hforward : (output (call .sysctlRead)).Uses HostCall.Harmless :=
    uses_output ((Program.uses_call _).mpr trivial)
  refine Program.uses_call_bind trivial fun _ => (uses_require _ _).bind fun _ => ?_
  refine Program.uses_call_bind trivial fun existed => ?_
  cases existed with
  | false =>
    exact (hservice _).bind fun _ => (hservice _).bind fun _ => htables.bind fun _ =>
      hforward.bind fun _ => Program.uses_call_bind trivial fun _ => trivial
  | true =>
    exact Program.uses_call_bind trivial fun _ => (hservice _).bind fun _ => (hservice _).bind
      fun _ => htables.bind fun _ => hforward.bind fun _ => Program.uses_call_bind trivial
      fun _ => trivial

theorem uses_apply : (apply fuel token arguments config).Uses HostCall.Applies := by
  have hharmless : ∀ {A : Type} {p : Script A}, p.Uses HostCall.Harmless →
      p.Uses HostCall.Applies := fun hp => hp.mono fun _ => .inl
  refine (hharmless (uses_checkApply arguments config)).bind fun _ => ?_
  refine (hharmless (uses_serviceState (.inl rfl) (.inr rfl))).bind fun legacyDns => ?_
  refine (hharmless (uses_anyIsFile _ fun _ => trivial)).bind fun legacyOwned => ?_
  refine (uses_require _ _).bind fun _ => ?_
  refine (hharmless (uses_capture token config legacyDns)).bind fun state => ?_
  refine Program.uses_call_bind (.inr (.inr (.inl ⟨_, _, rfl⟩))) fun _ => ?_
  refine (uses_run (.inr (.inr (.inr ⟨_, _, rfl⟩)))).bind fun _ => ?_
  refine (((uses_activate fuel config legacyOwned legacyDns).mono fun _ hc =>
    .inr (.inl hc)).attempt _).bind ?_
  rintro (message | u)
  · exact (uses_runUnchecked (.inr (.inl trivial))).bind fun _ => trivial
  · trivial

end Apply

end Activation

end Snarkypuss
