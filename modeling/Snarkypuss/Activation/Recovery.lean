import Snarkypuss.Activation.Executions

/-!
# Recovering an activation

Once an application has worked on the live state, its record is there, and while the record is
pending the rollback timer is armed or a rollback has started. It is a confirmation that can take
this away: it stops the timer before it writes the record.

## Main definitions

* `Changed`: an application has worked on the live state
* `Recoverable`: its record is not pending, its timer is armed, or a rollback has started
* `Disarms`: the step that takes the timer away

## Main results

* `Covered.step`: every other step keeps a token covered
* `activation_recoverable`: in a run without such steps an activation is always recoverable
-/

namespace Snarkypuss

namespace Activation

/-! ## Recoverable activations -/

/-- The application of a token has worked on the live state. -/
def Changed (token : Token) (events : List Activity) (M : Activations) : Prop :=
  ∃ (i : ℕ) (c : HostCall) (reply : Except ScriptError c.Reply) (p : Activity.Process),
    Happening.call i c reply ∈ events ∧ M.processes[i]? = some p ∧ p.request.isApply = true ∧
      p.request.token = token ∧ c.ChangesLive

/-- A rollback of a token, among those that count. -/
def RolledBy (counts : ℕ → Activity.Process → Prop) (token : Token) (M : Activations) : Prop :=
  ∃ k p, M.processes[k]? = some p ∧ p.request.isRollback = true ∧ p.request.token = token ∧
    counts k p

/-- The record of a token is not pending any more, or its timer is armed, or there is a rollback
that counts. -/
def Recoverable (counts : ℕ → Activity.Process → Prop) (token : Token) (M : Activations) : Prop :=
  ∃ record, M.shared.records token = some record ∧
    (record.status = .pending → M.shared.timers token = true ∨ RolledBy counts token M)

/-- A confirmation stops an armed timer, and there is no rollback that counts. -/
def Disarms (counts : ℕ → Activity.Process → Prop) (M : Activations) (e : Activity)
    (M' : Activations) : Prop :=
  ∃ (i : ℕ) (token : Token) (reply : Except ScriptError Bool) (p : Activity.Process),
    e = .call i (.command (.stopTimer token)) reply ∧ M.processes[i]? = some p ∧
      p.request.isConfirm = true ∧ M.shared.timers token = true ∧
      M'.shared.timers token = false ∧ ¬RolledBy counts token M

/-- A rollback that is under way or has met a failure. -/
def Accounted (events : List Activity) (k : ℕ) (p : Activity.Process) : Prop :=
  p.Running ∨ ∃ (c : HostCall) (reply : Except ScriptError c.Reply),
    Happening.call k c reply ∈ events ∧ c.Failed reply

/-! ## Covered tokens -/

/-- What an application can rely on once its timer was armed: its record is there, and while it is
pending the timer is armed or there is a rollback in a phase that counts. -/
structure Covered (counts : Phase → Prop) (token : Token) (M : Activations) (phase : ℕ → Phase) :
    Prop where
  root : M.shared.euid = 0
  record : ∃ record, M.shared.records token = some record ∧ (record.status = .pending →
    M.shared.timers token = true ∨ RolledBy (fun k _ => counts (phase k)) token M)

section Steps

variable {alone : Prop} {r : Request} {φ : Phase} {platform : Platform} {i : ℕ} {s t : Host}
  {c : HostCall} {reply : Except ScriptError c.Reply}

theorem may_stopTimer {token : Token} (h : (protocol alone r).may φ (.command (.stopTimer token))) :
    token = r.token ∧ (r.isConfirm = true ∨ φ = .written) := by
  cases r <;> cases φ <;> simp_all [protocol, applyMay, confirmMay, rollbackMay,
    HostCall.Harmless, HostCall.Activates, Request.token, Request.isConfirm, Record.liveCommands]

/-- A call that is not a command touches no timers and no effective user. -/
theorem leaves_frame (hleaves : c.Leaves i s t reply) (hc : ∀ command, c ≠ .command command) :
    t.timers = s.timers ∧ t.euid = s.euid := by
  cases c with
  | command c => exact absurd rfl (hc c)
  | writeText path text =>
    rcases reply with e | u
    · obtain ⟨text', rfl⟩ := hleaves
      exact ⟨rfl, rfl⟩
    · obtain rfl : t = _ := hleaves
      exact ⟨rfl, rfl⟩
  | lock token =>
    rcases reply with e | u
    · obtain rfl : t = s := hleaves
      exact ⟨rfl, rfl⟩
    · obtain ⟨-, rfl⟩ := hleaves
      exact ⟨rfl, rfl⟩
  | _ => rcases reply with e | u <;> obtain rfl := hleaves <;> exact ⟨rfl, rfl⟩

/-- An armed timer stays armed unless it is stopped. -/
theorem timers_kept {token : Token} (hleaves : c.Leaves i s t reply)
    (hc : c ≠ .command (.stopTimer token)) (harmed : s.timers token = true) :
    t.timers token = true := by
  cases c with
  | command c =>
    have hleaves : c.mayLeave s t := hleaves
    cases c with
    | stopTimer token' =>
      rcases hleaves with rfl | rfl
      · exact harmed
      · have hne : token ≠ token' := fun h => hc (by rw [h])
        exact (Function.update_of_ne hne _ _).trans harmed
    | systemdRun token' seconds =>
      rcases hleaves with rfl | rfl
      · exact harmed
      · show Function.update s.timers token' true token = true
        by_cases hsame : token = token'
        · rw [hsame, Function.update_self]
        · rw [Function.update_of_ne hsame, harmed]
    | iptables name command =>
      obtain ⟨tables, rfl, -⟩ := hleaves
      exact harmed
    | iptablesRestore saved =>
      obtain ⟨tables, rfl⟩ := hleaves
      exact harmed
    | netfilterPersistentSave =>
      obtain ⟨rules, rfl⟩ := hleaves
      exact harmed
    | sysctlWrite value =>
      obtain ⟨value, rfl⟩ := hleaves
      exact harmed
    | systemctl verb unit =>
      have hsame : ∃ services, t = { s with services := services } := by
        cases verb <;> first | exact hleaves | exact ⟨s.services, hleaves⟩
      obtain ⟨services, rfl⟩ := hsame
      exact harmed
    | rollback token' => rcases hleaves with rfl | rfl <;> exact harmed
    | _ =>
      obtain rfl := hleaves
      exact harmed
  | _ =>
    rw [(leaves_frame hleaves nofun).1]
    exact harmed

/-- The effective user never changes. -/
theorem euid_kept (hleaves : c.Leaves i s t reply) : t.euid = s.euid := by
  cases c with
  | command c => exact (mayLeave_frame (c := c) hleaves).2.2.1
  | _ => exact (leaves_frame hleaves nofun).2

/-- A rollback of a record that exists does not turn back. -/
theorem not_refused {token : Token} {force automatic : Bool} {φ' : Phase}
    (hmay : (protocol alone (.rollback token force automatic)).may φ c)
    (hmoves : (protocol alone (.rollback token force automatic)).moves φ c reply φ')
    (htells : c.Tells s reply) (hroot : s.euid = 0) (hrecord : (s.records token).isSome) :
    φ' ≠ .refused := by
  obtain ⟨rfl, -⟩ := hmoves
  have hφ : φ ≠ .refused := by
    rintro rfl
    cases hmay
  cases c with
  | geteuid =>
    obtain rfl := may_geteuid rfl hmay
    rcases reply with e | euid
    · exact nofun
    · obtain rfl : euid = s.euid := htells
      show (if s.euid = 0 then Phase.outside else .refused) ≠ .refused
      rw [if_pos hroot]
      exact nofun
  | recordIsFile token' =>
    obtain ⟨rfl, rfl⟩ := may_recordIsFile hmay
    rcases reply with e | found
    · exact nofun
    · obtain rfl : found = _ := htells
      show (if (s.records _).isSome then Phase.present else .refused) ≠ .refused
      rw [if_pos hrecord]
      exact nofun
  | command c =>
    rcases may_command rfl hmay with ⟨record, rfl⟩ | ⟨record, token', rfl, rfl⟩ | rfl <;>
      rcases reply with e | status
    · exact nofun
    · show Phase.afterCommand status (.read record) c ≠ .refused
      cases c <;> cases status <;> exact nofun
    · exact nofun
    · exact nofun
    · exact nofun
    · exact nofun
  | unlock token' => cases φ <;> exact nofun
  | _ => rcases reply with e | u <;> cases φ <;> first | exact hφ | exact nofun

end Steps

section Covered

variable {platform : Platform} {only : Option Token} {counts : Phase → Prop} {token : Token}
  {M M' : Activations} {e : Activity} {phase phase' : ℕ → Phase}

/-- A rollback goes on counting. -/
theorem RolledBy.step (hcounts : ∀ φ, φ ≠ .refused → counts φ)
    (h : RolledBy (fun k _ => counts (phase k)) token M) (hM : (outline platform only).Holds M phase)
    (hstep : (scripts platform only).Step M e M')
    (hadvances : (outline platform only).Advances M phase e phase') (hroot : M.shared.euid = 0)
    (hrecord : (M.shared.records token).isSome) :
    RolledBy (fun k _ => counts (phase' k)) token M' := by
  obtain ⟨k, p, hk, hrollback, rfl, hcount⟩ := h
  cases hstep with
  | start r s' hstarts =>
    obtain rfl := hadvances
    refine ⟨k, p, ?_, hrollback, rfl, ?_⟩
    · obtain ⟨hlt, -⟩ := List.getElem?_eq_some_iff.mp hk
      rw [List.getElem?_append_left hlt]
      exact hk
    · show counts (Function.update phase _ _ k)
      rw [Function.update_of_ne (processes_lt hk)]
      exact hcount
  | call i r c next reply s' hi hanswers =>
    obtain ⟨q, φ, hq, hmoves, rfl⟩ := hadvances
    by_cases hki : k = i
    · subst hki
      obtain rfl : p = q := Option.some.inj (hk.symm.trans hq)
      obtain rfl : p = _ := Option.some.inj (hk.symm.trans hi)
      refine ⟨k, _, getElem?_set_self_of hi, hrollback, rfl, ?_⟩
      show counts (Function.update phase k φ k)
      rw [Function.update_self]
      apply hcounts
      cases r with
      | rollback token force automatic =>
        have hmay : (protocol (only.isSome = true) (.rollback token force automatic)).may (phase k) c :=
          hM.may hi
        exact not_refused hmay hmoves hanswers.tells hroot hrecord
      | _ => cases hrollback
    · refine ⟨k, p, ?_, hrollback, rfl, ?_⟩
      · rw [List.getElem?_set_ne (Ne.symm hki)]
        exact hk
      · show counts (Function.update phase i φ k)
        rw [Function.update_of_ne hki]
        exact hcount
  | stop i r c next hi =>
    obtain rfl : phase' = phase := hadvances
    by_cases hki : k = i
    · subst hki
      obtain rfl : p = _ := Option.some.inj (hk.symm.trans hi)
      exact ⟨k, _, getElem?_set_self_of hi, hrollback, rfl, hcount⟩
    · refine ⟨k, p, ?_, hrollback, rfl, hcount⟩
      rw [List.getElem?_set_ne (Ne.symm hki)]
      exact hk

/-- The record of a token after a call: the one before it, or one that is not pending. -/
theorem record_step {i : ℕ} {r : Request} {c : HostCall}
    {next : Except ScriptError c.Reply → Script ℕ} {reply : Except ScriptError c.Reply} {s' : Host}
    {record : Record} (hM : (outline platform only).Holds M phase)
    (hi : M.processes[i]? = some ⟨r, .ask c next, false⟩)
    (hleaves : c.Leaves i M.shared s' reply) (hrecord : M.shared.records token = some record) :
    s'.records token = some record ∨
      ∃ record', s'.records token = some record' ∧ record'.status ≠ .pending := by
  have hmay := hM.may hi
  obtain ⟨-, hφ⟩ := hM.asserted i _ hi rfl
  cases c with
  | command c =>
    rw [(mayLeave_frame (c := c) hleaves).1]
    exact .inl hrecord
  | writeRecord token' written =>
    rcases reply with e | u
    · obtain rfl : s' = M.shared := hleaves
      exact .inl hrecord
    · obtain rfl : s' = _ := hleaves
      by_cases hsame : token = token'
      · subst hsame
        cases hr : r.isApply with
        | true =>
          obtain ⟨rfl, rules, hφread, -⟩ := may_writeFirst hr hmay
          rw [hφread] at hφ
          rw [hφ.2.1] at hrecord
          cases hrecord
        | false =>
          obtain ⟨-, old, status, rfl, hstatus, -⟩ := may_writeAgain hr hmay
          exact .inr ⟨_, Function.update_self _ _ _, hstatus⟩
      · exact .inl ((Function.update_of_ne hsame _ _).trans hrecord)
  | writeText path text =>
    rcases reply with e | u
    · obtain ⟨text', rfl⟩ := hleaves
      exact .inl hrecord
    · obtain rfl : s' = _ := hleaves
      exact .inl hrecord
  | lock token' =>
    rcases reply with e | u
    · obtain rfl : s' = M.shared := hleaves
      exact .inl hrecord
    · obtain ⟨-, rfl⟩ := hleaves
      exact .inl hrecord
  | _ => rcases reply with e | u <;> obtain rfl := hleaves <;> exact .inl hrecord

/-- **Every step but one keeps a token covered**: a confirmation that stops the armed timer. -/
theorem Covered.step (hcounts : ∀ φ, φ ≠ .refused → counts φ)
    (h : Covered counts token M phase) (hM : (outline platform only).Holds M phase)
    (hstep : (scripts platform only).Step M e M')
    (hadvances : (outline platform only).Advances M phase e phase')
    (hkeeps : ∀ i reply p, e = .call i (.command (.stopTimer token)) reply →
      M.processes[i]? = some p → p.request.isConfirm = true → M.shared.timers token = true →
      M'.shared.timers token = true ∨ RolledBy (fun k _ => counts (phase k)) token M) :
    Covered counts token M' phase' := by
  obtain ⟨record, hrecord, hcovered⟩ := h.record
  have hrolled : RolledBy (fun k _ => counts (phase k)) token M →
      RolledBy (fun k _ => counts (phase' k)) token M' := fun hrolled =>
    hrolled.step hcounts hM hstep hadvances h.root (by rw [hrecord]; rfl)
  cases hstep with
  | start r s' hstarts =>
    have hunchanged : s' = M.shared → Covered counts token
        ⟨s', M.processes ++ [⟨r, (scripts platform only).program r, false⟩]⟩ phase' := by
      rintro rfl
      exact ⟨h.root, record, hrecord, fun hpending => (hcovered hpending).imp_right hrolled⟩
    cases r with
    | apply fuel token' arguments config => exact hunchanged hstarts.1.1
    | confirm token' => exact hunchanged hstarts.1
    | rollback token' force automatic =>
      rcases hstarts.1 with hsame | ⟨-, -, -, rfl⟩
      · exact hunchanged hsame
      · refine ⟨h.root, record, hrecord, fun hpending => ?_⟩
        by_cases hsame : token = token'
        · -- The timer has fired, and its rollback has started.
          subst hsame
          obtain rfl := hadvances
          refine .inr ⟨M.processes.length, _, List.getElem?_concat_length, rfl, rfl, ?_⟩
          show counts (Function.update phase _ _ _)
          rw [Function.update_self]
          exact hcounts _ nofun
        · refine (hcovered hpending).imp (fun harmed => ?_) hrolled
          exact (Function.update_of_ne hsame _ _).trans harmed
  | call i r c next reply s' hi hanswers =>
    have hleaves := hanswers.leaves
    refine ⟨(euid_kept hleaves).trans h.root, ?_⟩
    rcases record_step hM hi hleaves hrecord with hkept | ⟨record', hrecord', hstatus⟩
    · refine ⟨record, hkept, fun hpending => ?_⟩
      rcases hcovered hpending with harmed | hrolledBy
      · by_cases hc : c = .command (.stopTimer token)
        · subst hc
          obtain ⟨htoken, hconfirm | hwritten⟩ := may_stopTimer (hM.may hi)
          · exact (hkeeps i reply _ rfl hi hconfirm harmed).imp_right hrolled
          · -- A rollback stops the timer after it has written the record.
            obtain ⟨-, hφ⟩ := hM.asserted i _ hi rfl
            rw [hwritten] at hφ
            obtain ⟨-, record', hrecord', hstatus⟩ := hφ
            rw [← htoken, hrecord] at hrecord'
            cases hrecord'
            exact absurd hpending hstatus
        · exact .inl (timers_kept hleaves hc harmed)
      · exact .inr (hrolled hrolledBy)
    · exact ⟨record', hrecord', fun hpending => absurd hpending hstatus⟩
  | stop i r c next hi =>
    exact ⟨h.root, record, hrecord, fun hpending => (hcovered hpending).imp_right hrolled⟩

end Covered

/-! ## Runs -/

section Moves

variable {alone : Prop} {r : Request} {φ φ' : Phase} {c : HostCall}
  {reply : Except ScriptError c.Reply}

/-- An application works on the live state after its timer was armed, -/
theorem may_changesLive (hr : r.isApply = true) (hmay : (protocol alone r).may φ c)
    (hc : c.ChangesLive) : φ = .armed := by
  cases r with
  | apply fuel token arguments config =>
    cases φ with
    | armed => rfl
    | fresh =>
      obtain rfl := hmay
      cases hc
    | preparing rules =>
      rcases hmay with hharmless | ⟨record, rfl, -⟩
      · cases c with
        | command c =>
          cases c with
          | systemctl verb unit =>
            rcases hharmless with rfl | rfl
            · exact absurd rfl hc.1
            · exact absurd rfl hc.2
          | _ => first | exact False.elim hharmless | exact False.elim hc
        | _ => cases hc
      · cases hc
    | recorded =>
      obtain ⟨seconds, rfl⟩ := hmay
      cases hc
    | _ => cases hmay
  | _ => cases hr

/-- and from then on stays in this phase. -/
theorem moves_armed (hr : r.isApply = true) (hmay : (protocol alone r).may .armed c)
    (hmoves : (protocol alone r).moves .armed c reply φ') : φ' = .armed := by
  cases r with
  | apply fuel token arguments config =>
    rcases reply with e | a
    · cases c <;> exact hmoves
    · cases c with
      | command c => exact hmoves
      | _ => cases hmay
  | _ => cases hr

/-- A phase of failure is entered with a failure. -/
theorem after_failed {holding : Bool} (hafter : φ.after c reply = .failed holding) :
    c.Failed reply ∨ ∃ holding', φ = .failed holding' := by
  rcases reply with e | a
  · cases c <;> exact .inl trivial
  · cases c with
    | geteuid =>
      have hafter : (if a = 0 then φ else .refused) = Phase.failed holding := hafter
      split at hafter
      · exact .inr ⟨holding, hafter⟩
      · cases hafter
    | recordIsFile token =>
      have hafter : (if a then Phase.present else .refused) = Phase.failed holding := hafter
      split at hafter <;> cases hafter
    | command c =>
      cases a with
      | false => exact .inl rfl
      | true =>
        cases φ with
        | read record => cases c <;> cases hafter
        | failed holding' => exact .inr ⟨holding', rfl⟩
        | _ => cases hafter
    | lock token => cases hafter
    | readRecord token => cases hafter
    | writeRecord token record => cases hafter
    | writeText path text => cases φ <;> first | exact .inr ⟨_, rfl⟩ | cases hafter
    | unlink path => cases φ <;> first | exact .inr ⟨_, rfl⟩ | cases hafter
    | unlock token => cases φ <;> first | exact .inr ⟨_, rfl⟩ | cases hafter
    | _ => exact .inr ⟨holding, hafter⟩

theorem moves_failed {holding : Bool}
    (hmoves : (protocol alone r).moves φ c reply (.failed holding)) :
    c.Failed reply ∨ ∃ holding', φ = .failed holding' := by
  cases r with
  | apply fuel token arguments config =>
    rcases reply with e | a
    · cases c <;> exact .inl trivial
    · have hsame : Phase.applyMoves alone φ c (.ok a) (.failed holding) → φ = .failed holding := by
        intro hmoves
        cases c with
        | geteuid =>
          cases φ with
          | fresh =>
            have hmoves : if a = 0 then ∃ rules, Phase.failed holding = .preparing rules
              else Phase.failed holding = .refused := hmoves
            split at hmoves
            · obtain ⟨rules, hrules⟩ := hmoves
              cases hrules
            · cases hmoves
          | _ => exact hmoves.symm
        | isFile path => exact hmoves.1.symm
        | readText path => exact hmoves.1.symm
        | writeRecord token record => cases hmoves
        | command c =>
          cases φ with
          | recorded =>
            have hmoves : Phase.failed holding = if a then .armed else .recorded := hmoves
            split at hmoves <;> cases hmoves
          | _ => exact hmoves.symm
        | _ => exact hmoves.symm
      exact .inr ⟨holding, hsame hmoves⟩
  | confirm token => exact after_failed hmoves.1.symm
  | rollback token force automatic => exact after_failed hmoves.1.symm

/-- An application is armed after its record was written. -/
theorem moves_to_armed (hr : r.isApply = true) (hφ : φ ≠ .armed)
    (hmoves : (protocol alone r).moves φ c reply .armed) : φ = .recorded := by
  cases r with
  | apply fuel token arguments config =>
    rcases reply with e | a
    · cases c <;> exact absurd hmoves.symm hφ
    · have hsame : Phase.applyMoves alone φ c (.ok a) .armed → φ = .recorded := by
        intro hmoves
        cases c with
        | geteuid =>
          cases φ with
          | fresh =>
            have hmoves : if a = 0 then ∃ rules, Phase.armed = .preparing rules
              else Phase.armed = .refused := hmoves
            split at hmoves
            · obtain ⟨rules, hrules⟩ := hmoves
              cases hrules
            · cases hmoves
          | _ => exact absurd hmoves.symm hφ
        | isFile path => exact absurd hmoves.1.symm hφ
        | readText path => exact absurd hmoves.1.symm hφ
        | writeRecord token record => cases hmoves
        | command c =>
          cases φ with
          | recorded => rfl
          | _ => exact absurd hmoves.symm hφ
        | _ => exact absurd hmoves.symm hφ
      exact hsame hmoves
  | _ => cases hr

/-- A timer is armed by a `systemd-run` that succeeds. -/
theorem arms_timer {platform : Platform} {i : ℕ} {token : Token} {seconds : Int} {s t : Host}
    (h : Answers platform i (.command (.systemdRun token seconds)) s (.ok true) t) :
    t.timers token = true := by
  rcases h with ⟨-, h⟩ | h
  · cases h
    exact Function.update_self _ _ _
  · cases h.1

end Moves

/-- What is known along a run. -/
structure Tracked (counts : Phase → Prop) (events : List Activity) (M : Activations)
    (phase : ℕ → Phase) : Prop where
  named : ∀ (i : ℕ) (c : HostCall) (reply : Except ScriptError c.Reply),
    Happening.call i c reply ∈ events → i < M.processes.length
  changed : ∀ (i : ℕ) (c : HostCall) (reply : Except ScriptError c.Reply) (p : Activity.Process),
    Happening.call i c reply ∈ events → M.processes[i]? = some p → p.request.isApply = true →
      c.ChangesLive → phase i = .armed
  failed : ∀ k p holding, M.processes[k]? = some p → phase k = .failed holding →
    ∃ (c : HostCall) (reply : Except ScriptError c.Reply), Happening.call k c reply ∈ events ∧
      c.Failed reply
  stopped : ∀ k p, M.processes[k]? = some p → p.stopped = true → .stop k ∈ events
  covered : ∀ i p, M.processes[i]? = some p → p.request.isApply = true → phase i = .armed →
    Covered counts p.request.token M phase

section Tracked

variable {platform : Platform} {only : Option Token} {counts : Phase → Prop}
  {events : List Activity} {M M' : Activations} {e : Activity} {phase phase' : ℕ → Phase}

/-- What is known along a run is known after each step, when no step takes a timer away. -/
theorem Tracked.step (hcounts : ∀ φ, φ ≠ .refused → counts φ)
    (h : Tracked counts events M phase) (hM : (outline platform only).Holds M phase)
    (hstep : (scripts platform only).Step M e M')
    (hadvances : (outline platform only).Advances M phase e phase')
    (hM' : (outline platform only).Holds M' phase')
    (hkeeps : ∀ token i reply p, e = .call i (.command (.stopTimer token)) reply →
      M.processes[i]? = some p → p.request.isConfirm = true → M.shared.timers token = true →
      M'.shared.timers token = true ∨ RolledBy (fun k _ => counts (phase k)) token M) :
    Tracked counts (events ++ [e]) M' phase' := by
  constructor
  · intro i c reply hx
    rcases mem_concat hx with hx | rfl
    · exact (h.named i c reply hx).trans_le hstep.length_le
    · exact hstep.caller_lt.trans_le hstep.length_le
  · intro i c reply p hx hi happly hc
    have hlt : i < M.processes.length := by
      rcases mem_concat hx with hx | rfl
      · exact h.named i c reply hx
      · exact hstep.caller_lt
    obtain ⟨hlen, -⟩ | ⟨q, hq, hrequest, -⟩ := hstep.before hi
    · exact absurd hlen (Nat.ne_of_lt hlt)
    rw [← hrequest] at happly
    by_cases hcall : ∃ (c : HostCall) (reply : Except ScriptError c.Reply), e = .call i c reply
    · -- The process makes a call itself: it was in this phase before, whether it is this call or not.
      obtain ⟨c', reply', rfl⟩ := hcall
      obtain ⟨q', φ, hq', hmoves, rfl⟩ := hadvances
      cases hstep with
      | call _ r _ next _ s' hi' hanswers =>
        obtain rfl : q = _ := Option.some.inj (hq.symm.trans hi')
        obtain rfl : q' = _ := Option.some.inj (hq'.symm.trans hi')
        have hmay := hM.may hi'
        have harmed : phase i = .armed := by
          rcases mem_concat hx with hx | hx
          · exact h.changed i c reply _ hx hi' happly hc
          · cases hx
            exact may_changesLive happly hmay hc
        rw [Function.update_self]
        rw [harmed] at hmoves hmay
        exact moves_armed happly hmay hmoves
    · rcases mem_concat hx with hx | rfl
      · rw [hadvances.phase_kept hlt fun c reply he => hcall ⟨c, reply, he⟩]
        exact h.changed i c reply q hx hq happly hc
      · exact absurd ⟨c, reply, rfl⟩ hcall
  · intro k p holding hk hfailed
    obtain ⟨rfl, r, rfl, rfl⟩ | ⟨q, hq, hrequest, -⟩ := hstep.before hk
    · obtain rfl := hadvances
      rw [Function.update_self] at hfailed
      cases r <;> cases hfailed
    have hlt : k < M.processes.length := (List.getElem?_eq_some_iff.mp hq).1
    have hbefore : ∀ holding', phase k = .failed holding' →
        ∃ (c : HostCall) (reply : Except ScriptError c.Reply),
          Happening.call k c reply ∈ events ++ [e] ∧ c.Failed reply := by
      intro holding' hphase
      obtain ⟨c, reply, hx, hc⟩ := h.failed k q holding' hq hphase
      exact ⟨c, reply, List.mem_append_left _ hx, hc⟩
    by_cases hcall : ∃ (c : HostCall) (reply : Except ScriptError c.Reply), e = .call k c reply
    · obtain ⟨c, reply, rfl⟩ := hcall
      obtain ⟨q', φ, hq', hmoves, rfl⟩ := hadvances
      rw [Function.update_self] at hfailed
      subst hfailed
      rcases moves_failed hmoves with hc | ⟨holding', hphase⟩
      · exact ⟨c, reply, List.mem_append_right _ (List.mem_singleton.mpr rfl), hc⟩
      · exact hbefore holding' hphase
    · rw [hadvances.phase_kept hlt fun c reply he => hcall ⟨c, reply, he⟩] at hfailed
      exact hbefore holding hfailed
  · intro k p hk hstopped
    obtain ⟨-, r, -, rfl⟩ | ⟨q, hq, -, hq'⟩ := hstep.before hk
    · cases hstopped
    · rcases hq' hstopped with hstopped | rfl
      · exact List.mem_append_left _ (h.stopped k q hq hstopped)
      · exact List.mem_append_right _ (List.mem_singleton.mpr rfl)
  · intro i p hi happly harmed
    obtain ⟨rfl, r, rfl, rfl⟩ | ⟨q, hq, hrequest, -⟩ := hstep.before hi
    · obtain rfl := hadvances
      rw [Function.update_self] at harmed
      cases r <;> cases harmed
    have hlt : i < M.processes.length := (List.getElem?_eq_some_iff.mp hq).1
    rw [← hrequest] at happly ⊢
    by_cases hbefore : phase i = .armed
    · exact (h.covered i q hq happly hbefore).step hcounts hM hstep hadvances (hkeeps _)
    by_cases hcall : ∃ (c : HostCall) (reply : Except ScriptError c.Reply), e = .call i c reply
    · -- The timer has just been armed.
      obtain ⟨c, reply, rfl⟩ := hcall
      obtain ⟨q', φ, hq', hmoves, rfl⟩ := hadvances
      cases hstep with
      | call _ r _ next _ s' hi' hanswers =>
        obtain rfl : q = _ := Option.some.inj (hq.symm.trans hi')
        obtain rfl : q' = _ := Option.some.inj (hq'.symm.trans hi')
        obtain ⟨-, hφ⟩ := hM'.asserted i ⟨r, next reply, false⟩ (getElem?_set_self_of hi') rfl
        rw [Function.update_self] at harmed hφ
        subst harmed
        have hrecorded := moves_to_armed happly hbefore hmoves
        have hmay := hM.may hi'
        rw [hrecorded] at hmay hmoves
        cases r with
        | apply fuel token arguments config =>
          obtain ⟨seconds, rfl⟩ := hmay
          obtain ⟨hexists, hroot⟩ := hφ
          obtain ⟨record, hrecord⟩ := Option.isSome_iff_exists.mp hexists
          refine ⟨hroot, record, hrecord, fun _ => .inl ?_⟩
          rcases reply with e | (_ | _)
          · cases hmoves
          · cases hmoves
          · exact arms_timer hanswers
        | _ => cases happly
    · rw [hadvances.phase_kept hlt fun c reply he => hcall ⟨c, reply, he⟩] at harmed
      exact absurd harmed hbefore

end Tracked

/-! ### Whole runs -/

/-- No process was started yet. -/
theorem outline_holds_nil (platform : Platform) (only : Option Token) {s : Host}
    (hs : s.Recorded) (phase : ℕ → Phase) : (outline platform only).Holds ⟨s, []⟩ phase :=
  ⟨hs, nofun, nofun, nofun⟩

section Runs

variable {platform : Platform} {s₀ : Host} {events : List Activity} {M : Activations}
  {counts : Phase → Prop} {among : ℕ → Activity.Process → Prop}

theorem tracked_nil (counts : Phase → Prop) (s : Host) (phase : ℕ → Phase) :
    Tracked counts [] ⟨s, []⟩ phase where
  named _ _ _ hx := absurd hx List.not_mem_nil
  changed _ _ _ _ hx := absurd hx List.not_mem_nil
  failed k p _ hk := by
    rw [List.getElem?_nil] at hk
    cases hk
  stopped k p hk := by
    rw [List.getElem?_nil] at hk
    cases hk
  covered i p hi := by
    rw [List.getElem?_nil] at hi
    cases hi

/-- What is known along a run in which no step takes a timer away. -/
theorem run_tracked (hcounts : ∀ φ, φ ≠ .refused → counts φ) (h₀ : s₀.Recorded)
    (hamong : ∀ (M : Activations) phase, (outline platform none).Holds M phase → ∀ k p,
      M.processes[k]? = some p → p.request.isRollback = true → among k p → counts (phase k))
    (run : (scripts platform none).Run (fun M e M' => ¬Disarms among M e M') ⟨s₀, []⟩ events M) :
    ∃ phase, (outline platform none).Holds M phase ∧ Tracked counts events M phase := by
  have hnone : Tracked counts [] ⟨s₀, []⟩ fun _ => .fresh := tracked_nil counts s₀ _
  refine (outline_valid platform none).run run (outline_holds_nil platform none h₀ _) hnone ?_
  intro events N phase e N' phase' hmeets hstep hN hadvances hN' hK
  refine hK.step hcounts hN hstep hadvances hN' ?_
  rintro token i reply p rfl hi hconfirm harmed
  cases hkept : N'.shared.timers token with
  | true => exact .inl rfl
  | false =>
    refine .inr (by_contra fun huncounted => hmeets ?_)
    refine ⟨i, token, reply, p, rfl, hi, hconfirm, harmed, hkept, ?_⟩
    rintro ⟨k, q, hk, hrollback, htoken, hq⟩
    exact huncounted ⟨k, q, hk, hrollback, htoken, hamong N phase hN k q hk hrollback hq⟩

/-- The token of an application that has worked on the live state is covered. -/
theorem Tracked.covered_of_changed {phase : ℕ → Phase} {token : Token}
    (h : Tracked counts events M phase) (hchanged : Changed token events M) :
    Covered counts token M phase := by
  obtain ⟨i, c, reply, p, hx, hi, happly, rfl, hc⟩ := hchanged
  exact h.covered i p hi happly (h.changed i c reply p hx hi happly hc)

/-- A rollback that is not stopped and has not turned back is under way, has met a failure, or has
found or written a record that is not pending. -/
theorem accounted_or_settled {phase : ℕ → Phase} {k : ℕ} {p : Activity.Process}
    (hM : (outline platform none).Holds M phase) (hK : Tracked counts events M phase)
    (hk : M.processes[k]? = some p) (hrollback : p.request.isRollback = true)
    (hphase : phase k ≠ .refused) (hstopped : p.stopped = false) :
    Accounted events k p ∨
      ∃ record, M.shared.records p.request.token = some record ∧ record.status ≠ .pending := by
  obtain ⟨r, program, stopped⟩ := p
  cases program with
  | ask c next => exact .inl (.inl ⟨hstopped, c, next, rfl⟩)
  | done result =>
    cases r with
    | rollback token force automatic =>
      obtain ⟨-, hending⟩ : Ending (.rollback token force automatic) result (phase k) :=
        hM.follows k _ hk
      rcases hending with hsettled | hrefused | hfailed
      · obtain ⟨-, hasserts⟩ := hM.asserted k _ hk hstopped
        rw [hsettled] at hasserts
        exact .inr hasserts
      · exact absurd hrefused hphase
      · exact .inl (.inr (hK.failed k _ false hk hfailed))
    | _ => cases hrollback

end Runs

/-- **When the claim of recoverability holds**: as long as no confirmation stops an armed timer
before a rollback has started. As long as none does while no rollback is under way, and no
rollback is stopped, it is a failure inside a rollback that leaves the record pending. -/
theorem activation_recoverable (platform : Platform) {s₀ : Host} (h₀ : s₀.Recorded) :
    (∀ events M, (scripts platform none).Run
        (fun M e M' => ¬Disarms (fun _ _ => True) M e M') ⟨s₀, []⟩ events M →
      ∀ token, Changed token events M → Recoverable (fun _ _ => True) token M) ∧
    ∀ events M, (scripts platform none).Run
        (fun M e M' => ¬Disarms (fun _ p => p.Running) M e M') ⟨s₀, []⟩ events M →
      (∀ (k : ℕ) (p : Activity.Process), M.processes[k]? = some p →
        p.request.isRollback = true → .stop k ∉ events) →
      ∀ token, Changed token events M → Recoverable (Accounted events) token M := by
  constructor
  · intro events M run token hchanged
    have hall : ∀ φ : Phase, φ ≠ .refused → (fun _ => True) φ := fun _ _ => trivial
    obtain ⟨phase, -, hK⟩ := run_tracked hall h₀ (fun _ _ _ _ _ _ _ _ => trivial) run
    obtain ⟨record, hrecord, hcovered⟩ := (hK.covered_of_changed hchanged).record
    exact ⟨record, hrecord, hcovered⟩
  · intro events M run hstops token hchanged
    have hamong : ∀ (M : Activations) phase, (outline platform none).Holds M phase → ∀ k p,
        M.processes[k]? = some p → p.request.isRollback = true → p.Running →
          phase k ≠ .refused := by
      rintro M phase hM k ⟨r, program, stopped⟩ hk hrollback ⟨-, c, next, rfl⟩ hrefused
      have hmay := hM.may hk
      rw [hrefused] at hmay
      cases r <;> exact hmay
    obtain ⟨phase, hM, hK⟩ := run_tracked (fun _ h => h) h₀ hamong run
    obtain ⟨record, hrecord, hcovered⟩ := (hK.covered_of_changed hchanged).record
    refine ⟨record, hrecord, fun hpending => (hcovered hpending).imp_right ?_⟩
    rintro ⟨k, p, hk, hrollback, rfl, hphase⟩
    have hstopped : p.stopped = false := by
      cases hstopped : p.stopped with
      | false => rfl
      | true => exact absurd (hK.stopped k p hk hstopped) (hstops k p hk hrollback)
    rcases accounted_or_settled hM hK hk hrollback hphase hstopped with haccounted | hsettled
    · exact ⟨k, p, hk, hrollback, rfl, haccounted⟩
    · obtain ⟨record', hrecord', hstatus⟩ := hsettled
      obtain rfl : record = record' := Option.some.inj (hrecord.symm.trans hrecord')
      exact absurd hpending hstatus

/-! ### An activation and its confirmation -/

theorem activation_recoverable_ready :
    ∃ (events : List Activity) (M : Activations),
      (scripts barePlatform none).Run (fun M e M' => ¬Disarms (fun _ p => p.Running) M e M')
        ⟨readyHost freshTables, []⟩ events M ∧
      Changed readyToken events M ∧ Recoverable (Accounted events) readyToken M := by
  obtain ⟨events, t, run, -, hevents, c, reply, hx, hc⟩ := ready_run none (only_none _)
  have hkeeps : (scripts barePlatform none).Run
      (fun M e M' => ¬Disarms (fun _ p => p.Running) M e M') ⟨readyHost freshTables, []⟩ events
      ⟨t, [⟨.apply 1 readyToken readyArguments bareConfig, .done (.ok 0), false⟩]⟩ := by
    apply run.weaken
    rintro events₁ e N N' - hamong - ⟨i, token, reply, p, rfl, -⟩
    have he := hamong _ (List.mem_append_right _ (List.mem_singleton.mpr rfl))
    rcases hevents _ he with he | ⟨c, reply, he, happlies⟩
    · cases he
    · cases he
      rcases happlies with hc | hc | ⟨_, _, hc⟩ | ⟨_, _, hc⟩ <;> cases hc
  have hchanged : Changed readyToken events
      ⟨t, [⟨.apply 1 readyToken readyArguments bareConfig, .done (.ok 0), false⟩]⟩ :=
    ⟨0, c, reply, _, hx, rfl, rfl, rfl, hc⟩
  refine ⟨events, _, hkeeps, hchanged, ?_⟩
  refine (activation_recoverable barePlatform (recorded_readyHost _)).2 events _ hkeeps ?_ _ hchanged
  intro k p hk hrollback
  obtain rfl := List.mem_singleton.mp (List.mem_of_getElem? hk)
  cases hrollback

/-- The confirmation has stopped the timer, and could not write the record. -/
theorem confirm_unrecoverable :
    ∃ (events : List Activity) (M : Activations) (record : Record),
      (scripts barePlatform none).Run (fun _ _ _ => True) ⟨readyHost freshTables, []⟩ events M ∧
      Changed readyToken events M ∧ M.shared.records readyToken = some record ∧
      M.shared.ipForward ≠ record.ipForward ∧
      ¬Recoverable (fun _ _ => True) readyToken M := by
  obtain ⟨events, t, run, happlied, -, c, reply, hx, hc⟩ := ready_run none (only_none _)
  have hfree : t.locks readyToken = none := by
    rw [happlied.locks]
    rfl
  let M : Activations := ⟨t, [⟨.apply 1 readyToken readyArguments bareConfig, .done (.ok 0), false⟩]⟩
  obtain ⟨events', result, hconfirm⟩ : ∃ events' result, (scripts barePlatform none).Run
      (fun _ _ _ => True) M events' ⟨((t.locked readyToken 1).disarmed barePlatform
        readyToken).unlocked readyToken, M.processes ++ [⟨.confirm readyToken, .done result, false⟩]⟩ :=
    run_unwritten (only_none _) (by decide +kernel) happlied.root happlied.record rfl hfree
  refine ⟨_, _, captured (readyHost freshTables) readyToken bareConfig, run.append hconfirm, ?_,
    happlied.record, ?_, ?_⟩
  · exact ⟨0, c, reply, _, List.mem_append_left _ hx, rfl, rfl, rfl, hc⟩
  · show t.ipForward ≠ "0"
    rw [happlied.forwarding]
    decide
  · rintro ⟨record, hrecord, hcovered⟩
    obtain rfl : captured (readyHost freshTables) readyToken bareConfig = record :=
      Option.some.inj (happlied.record.symm.trans hrecord)
    rcases hcovered rfl with harmed | ⟨k, p, hk, hrollback, -⟩
    · have hstopped : Function.update t.timers readyToken false readyToken = true := harmed
      rw [Function.update_self] at hstopped
      cases hstopped
    · have hp : p ∈ M.processes ++ [⟨.confirm readyToken, .done result, false⟩] :=
        List.mem_of_getElem? hk
      simp only [M, List.mem_append, List.mem_singleton] at hp
      rcases hp with rfl | rfl <;> cases hrollback

end Activation

end Snarkypuss
