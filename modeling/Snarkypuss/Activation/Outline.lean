import Snarkypuss.Activation.Phases

/-!
# What the processes assert

What each phase asserts of the records, the locks and the persistent rules is kept by the calls of
its own process, by those of all others, and when a process is stopped. A record is written by its
application before there is any, and later by those alone that hold its lock.

## Main definitions

* `Phase.Asserts`: what a phase asserts of the host
* `outline`: the outline of the scripts

## Main results

* `own_apply`, `own_lock`: what a process asserts after a call of its own
* `other_kept`: what it asserts after a call of another
* `outline_valid`: what the phases assert is kept by every step
-/

namespace Snarkypuss

namespace Activation

/-! ## The outline -/

/-- What a phase of the process `i` asserts of the host. -/
def Phase.Asserts (alone : Prop) (i : ℕ) (r : Request) (s : Host) : Phase → Prop
  | fresh => r.isApply = true ∧ s.records r.token = none
  | preparing rules => r.isApply = true ∧ s.records r.token = none ∧ s.euid = 0 ∧
    (alone → s.files persistentRulesPath = rules)
  | recorded | armed => (s.records r.token).isSome ∧ s.euid = 0
  | outside | refused => True
  | present => (s.records r.token).isSome
  | locked => s.locks r.token = some i ∧ (s.records r.token).isSome
  | read record => s.locks r.token = some i ∧ s.records r.token = some record
  | saved record | disarmed record =>
    s.locks r.token = some i ∧ s.records r.token = some record ∧ record.status = .pending
  | rulesBack record => s.locks r.token = some i ∧ s.records r.token = some record ∧
    (alone → s.files persistentRulesPath = capturedRules record)
  | written => s.locks r.token = some i ∧
    ∃ record, s.records r.token = some record ∧ record.status ≠ .pending
  | settled => ∃ record, s.records r.token = some record ∧ record.status ≠ .pending
  | failed holding => holding = true → s.locks r.token = some i

/-- Every record is that of its token. -/
def Host.Recorded (s : Host) : Prop :=
  ∀ token record, s.records token = some record →
    record.token = token ∧ record.persistentRulesPath = persistentRulesPath

/-- The outline of the scripts. Two applications have different tokens. -/
def outline (platform : Platform) (only : Option Token) :
    Outline (scripts platform only) Phase where
  protocol := protocol (only.isSome = true)
  first := firstPhase
  ending := Ending
  sound := Host.Recorded
  asserts i r φ s := (∀ token ∈ only, r.token = token) ∧ φ.Asserts (only.isSome = true) i r s
  compatible r r' := r.isApply = true → r'.isApply = true → r.token ≠ r'.token

section Asserts

variable {alone : Prop} {i k : ℕ} {r r' : Request} {s t : Host} {φ ψ : Phase}

/-- Who holds the lock. -/
theorem Phase.Asserts.lock (h : φ.Asserts alone i r s) (hφ : φ.holding = true) :
    s.locks r.token = some i := by
  cases φ with
  | failed holding => exact h hφ
  | locked => exact h.1
  | read record => exact h.1
  | saved record => exact h.1
  | disarmed record => exact h.1
  | rulesBack record => exact h.1
  | written => exact h.1
  | _ => cases hφ

/-- What a phase asserts is about the record and the lock of its token. -/
theorem Phase.Asserts.frame (h : φ.Asserts alone k r s)
    (hrecords : t.records r.token = s.records r.token)
    (hlocks : φ.holding = true → t.locks r.token = s.locks r.token) (heuid : t.euid = s.euid)
    (hfiles : alone → (s.records r.token = none ∨ φ.holding = true) →
      t.files persistentRulesPath = s.files persistentRulesPath) : φ.Asserts alone k r t := by
  cases φ with
  | fresh => exact ⟨h.1, hrecords.trans h.2⟩
  | preparing rules =>
    exact ⟨h.1, hrecords.trans h.2.1, heuid.trans h.2.2.1,
      fun halone => (hfiles halone (.inl h.2.1)).trans (h.2.2.2 halone)⟩
  | recorded =>
    show (t.records r.token).isSome = true ∧ t.euid = 0
    rw [hrecords, heuid]
    exact h
  | armed =>
    show (t.records r.token).isSome = true ∧ t.euid = 0
    rw [hrecords, heuid]
    exact h
  | present =>
    show (t.records r.token).isSome = true
    rw [hrecords]
    exact h
  | locked =>
    show _ ∧ (t.records r.token).isSome = true
    rw [hrecords, hlocks rfl]
    exact h
  | read record => exact ⟨(hlocks rfl).trans h.1, hrecords.trans h.2⟩
  | saved record => exact ⟨(hlocks rfl).trans h.1, hrecords.trans h.2.1, h.2.2⟩
  | disarmed record => exact ⟨(hlocks rfl).trans h.1, hrecords.trans h.2.1, h.2.2⟩
  | rulesBack record =>
    exact ⟨(hlocks rfl).trans h.1, hrecords.trans h.2.1,
      fun halone => (hfiles halone (.inr rfl)).trans (h.2.2 halone)⟩
  | written =>
    obtain ⟨hlock, record, hrecord, hstatus⟩ := h
    exact ⟨(hlocks rfl).trans hlock, record, hrecords.trans hrecord, hstatus⟩
  | settled =>
    obtain ⟨record, hrecord, hstatus⟩ := h
    exact ⟨record, hrecords.trans hrecord, hstatus⟩
  | failed holding => exact fun hholding => (hlocks hholding).trans (h hholding)
  | _ => trivial

/-! ### What a call tells of its phase -/

attribute [local simp] protocol applyMay confirmMay rollbackMay HostCall.Harmless HostCall.Activates

theorem may_save (h : (protocol alone r).may φ (.command .netfilterPersistentSave)) :
    ∃ record, φ = .read record ∧ record.status = .pending ∧ r.isConfirm = true := by
  cases r <;> cases φ <;> simp_all [protocol, applyMay, confirmMay, rollbackMay,
    HostCall.Harmless, HostCall.Activates, Record.liveCommands, Request.isConfirm]

theorem may_writeText {path text : String} (h : (protocol alone r).may φ (.writeText path text)) :
    ∃ record, φ = .read record ∧ path = record.persistentRulesPath ∧
      capturedRules record = some text := by
  cases r <;> cases φ <;> simp_all [protocol, applyMay, confirmMay, rollbackMay,
    HostCall.Harmless, HostCall.Activates, capturedRules]

theorem may_unlink {path : String} (h : (protocol alone r).may φ (.unlink path)) :
    ∃ record, φ = .read record ∧ path = record.persistentRulesPath ∧
      capturedRules record = none := by
  cases r <;> cases φ <;> simp_all [protocol, applyMay, confirmMay, rollbackMay,
    HostCall.Harmless, HostCall.Activates, capturedRules]

theorem may_lock {token : Token} (h : (protocol alone r).may φ (.lock token)) :
    token = r.token ∧ φ = .present := by
  cases r <;> cases φ <;> simp_all [protocol, applyMay, confirmMay, rollbackMay,
    HostCall.Harmless, HostCall.Activates, Request.token]

theorem may_unlock {token : Token} (h : (protocol alone r).may φ (.unlock token)) :
    token = r.token ∧ φ.holding = true := by
  cases r <;> cases φ <;> simp_all [protocol, applyMay, confirmMay, rollbackMay,
    HostCall.Harmless, HostCall.Activates, Request.token, Phase.holding]

/-- The record of a token is written by its application, before there is any. -/
theorem may_writeFirst {token : Token} {record : Record} (hr : r.isApply = true)
    (h : (protocol alone r).may φ (.writeRecord token record)) : token = r.token ∧
      ∃ rules, φ = .preparing rules ∧ record.token = token ∧ record.status = .pending ∧
        record.persistentRulesPath = persistentRulesPath ∧
        (alone → capturedRules record = rules.map universalNewlines) := by
  cases r <;> cases φ <;> simp_all [protocol, applyMay, HostCall.Harmless, HostCall.Activates,
    Request.token, Request.isApply]

/-- Later it is written by a confirmation that has stopped the timer, and by a rollback that has
read it or put the persistent rules back. -/
theorem may_writeRecord {token : Token} {record : Record} (hr : r.isApply = false)
    (h : (protocol alone r).may φ (.writeRecord token record)) : token = r.token ∧
      ∃ old, record = { old with status := .confirmed } ∧ φ = .disarmed old ∨
        record = { old with status := .rolledBack } ∧ r.isRollback = true ∧
          (φ = .read old ∧ old.status = .pending ∨ φ = .rulesBack old) := by
  cases r with
  | apply => cases hr
  | confirm token' =>
    cases φ with
    | disarmed old =>
      cases h
      exact ⟨rfl, old, .inl ⟨rfl, rfl⟩⟩
    | _ => simp_all [protocol, confirmMay]
  | rollback token' force automatic =>
    cases φ with
    | read old =>
      obtain ⟨hpending, rfl, rfl⟩ : old.status = .pending ∧ token = token' ∧
          record = { old with status := .rolledBack } := by
        simpa [protocol, rollbackMay] using h
      exact ⟨rfl, old, .inr ⟨rfl, rfl, .inl ⟨rfl, hpending⟩⟩⟩
    | rulesBack old =>
      obtain ⟨rfl, rfl⟩ : token = token' ∧ record = { old with status := .rolledBack } := by
        simpa [protocol, rollbackMay] using h
      exact ⟨rfl, old, .inr ⟨rfl, rfl, .inr rfl⟩⟩
    | _ => simp_all [protocol, rollbackMay]

/-- It is not pending then. -/
theorem may_writeAgain {token : Token} {record : Record} (hr : r.isApply = false)
    (h : (protocol alone r).may φ (.writeRecord token record)) : token = r.token ∧
      ∃ old status, record = { old with status := status } ∧ status ≠ .pending ∧
        (φ = .read old ∧ old.status = .pending ∨ φ = .rulesBack old ∨ φ = .disarmed old) := by
  obtain ⟨htoken, old, ⟨hrecord, hφ⟩ | ⟨hrecord, -, hφ⟩⟩ := may_writeRecord hr h
  · exact ⟨htoken, old, .confirmed, hrecord, nofun, .inr (.inr hφ)⟩
  · exact ⟨htoken, old, .rolledBack, hrecord, nofun, hφ.imp_right .inl⟩

/-- The persistent rules are put back for a record that was confirmed. -/
theorem may_restoreRules (h : (∃ path text, (protocol alone r).may φ (.writeText path text)) ∨
    ∃ path, (protocol alone r).may φ (.unlink path)) :
    ∃ record, φ = .read record ∧ record.status = .confirmed := by
  cases r <;> cases φ <;> simp_all [protocol, applyMay, confirmMay, rollbackMay,
    HostCall.Harmless, HostCall.Activates]
  exact h.elim And.left And.left

theorem may_geteuid (hr : r.isApply = false) (h : (protocol alone r).may φ .geteuid) :
    φ = .outside := by
  cases r <;> cases φ <;> simp_all [protocol, confirmMay, rollbackMay, Request.isApply]

theorem may_recordIsFile {token : Token} (h : (protocol alone r).may φ (.recordIsFile token)) :
    token = r.token ∧ φ = .outside := by
  cases r <;> cases φ <;> simp_all [protocol, applyMay, confirmMay, rollbackMay,
    HostCall.Harmless, HostCall.Activates, Request.token]

theorem may_readRecord {token : Token} (h : (protocol alone r).may φ (.readRecord token)) :
    token = r.token ∧ φ = .locked := by
  cases r <;> cases φ <;> simp_all [protocol, applyMay, confirmMay, rollbackMay,
    HostCall.Harmless, HostCall.Activates, Request.token]

theorem may_command {c : Command} (hr : r.isApply = false)
    (h : (protocol alone r).may φ (.command c)) :
    (∃ record, φ = .read record) ∨ (∃ record token, φ = .saved record ∧ c = .stopTimer token) ∨
      φ = .written := by
  cases r <;> cases φ <;> simp_all [protocol, confirmMay, rollbackMay, Request.isApply]

theorem may_prepareRules (h : (∃ path, (protocol alone r).may φ (.makeParent path)) ∨
    ∃ path, (protocol alone r).may φ (.chmod path)) :
    (∃ record, φ = .read record) ∨ ∃ record, φ = .rulesBack record := by
  cases r <;> cases φ <;> simp_all [protocol, applyMay, confirmMay, rollbackMay,
    HostCall.Harmless, HostCall.Activates]

/-- The lock is released by those that have written the record, have failed, or have found that
the record is not pending. -/
theorem may_release {token : Token} (h : (protocol alone r).may φ (.unlock token)) :
    φ = .failed true ∨ φ = .written ∨ ∃ record, φ = .read record ∧ record.status ≠ .pending := by
  cases r <;> cases φ <;> simp_all [protocol, applyMay, confirmMay, rollbackMay,
    HostCall.Harmless, HostCall.Activates]

/-- The other calls are those of an application. -/
theorem not_may {c : HostCall} (hr : r.isApply = false)
    (hc : (∃ path, c = .isFile path) ∨ (∃ path, c = .readText path) ∨ c = .iptablesSave ∨
      c = .sysctlRead) : ¬(protocol alone r).may φ c := by
  rcases hc with ⟨path, rfl⟩ | ⟨path, rfl⟩ | rfl | rfl <;> cases r <;> cases φ <;>
    simp_all [protocol, confirmMay, rollbackMay, Request.isApply]

/-! ### What a call keeps -/

section Kept

variable {platform : Platform} {c : HostCall} {reply : Except ScriptError c.Reply}

/-- A harmless call leaves the host as it is. -/
theorem leaves_harmless (hc : c.Harmless) (h : c.Leaves i s t reply) : t = s := by
  cases c with
  | command c =>
    cases c with
    | systemctl verb unit => rcases hc with rfl | rfl <;> exact h
    | ipLinkShow device => exact h
    | wgQuickStrip tunnel => exact h
    | dnsmasqTest config => exact h
    | _ => cases hc
  | geteuid => cases reply <;> exact h
  | isFile path => cases reply <;> exact h
  | readText path => cases reply <;> exact h
  | iptablesSave => cases reply <;> exact h
  | sysctlRead => cases reply <;> exact h
  | _ => cases hc

/-- A record that is replaced by one of the same token leaves every record that of its token. -/
theorem recorded_update {token : Token} {record : Record} (hsound : s.Recorded)
    (htoken : record.token = token) (hpath : record.persistentRulesPath = persistentRulesPath) :
    Host.Recorded { s with records := Function.update s.records token (some record) } := by
  intro token' record' hrecord'
  have hrecord' : Function.update s.records token (some record) token' = some record' := hrecord'
  by_cases hsame : token' = token
  · subst hsame
    rw [Function.update_self] at hrecord'
    cases hrecord'
    exact ⟨htoken, hpath⟩
  · rw [Function.update_of_ne hsame] at hrecord'
    exact hsound token' record' hrecord'

theorem own_apply (hr : r.isApply = true) (hsound : s.Recorded) (hφ : φ.Asserts alone i r s)
    (hmay : (protocol alone r).may φ c) (h : Answers platform i c s reply t) :
    t.Recorded ∧ ∃ φ', (protocol alone r).moves φ c reply φ' ∧ φ'.Asserts alone i r t := by
  cases r with
  | confirm token => cases hr
  | rollback token force automatic => cases hr
  | apply fuel token arguments config =>
    have hleaves := h.leaves
    have htells := h.tells
    cases φ with
    | fresh =>
      obtain rfl := hmay
      obtain rfl : t = s := by cases reply <;> exact hleaves
      refine ⟨hsound, ?_⟩
      cases reply with
      | error e => exact ⟨.fresh, rfl, hφ⟩
      | ok euid =>
        obtain rfl : euid = t.euid := htells
        by_cases hroot : t.euid = 0
        · refine ⟨.preparing (t.files persistentRulesPath), ?_, rfl, hφ.2, hroot, fun _ => rfl⟩
          show if t.euid = 0 then _ else _
          rw [if_pos hroot]
          exact ⟨_, rfl⟩
        · refine ⟨.refused, ?_, trivial⟩
          show if t.euid = 0 then _ else _
          rw [if_neg hroot]
    | preparing rules =>
      rcases hmay with hharmless | ⟨record, rfl, htoken, hstatus, hpath, -⟩
      · obtain rfl := leaves_harmless hharmless hleaves
        refine ⟨hsound, .preparing rules, ?_, hφ⟩
        cases reply with
        | error e => cases c <;> rfl
        | ok a =>
          cases c with
          | isFile path =>
            refine ⟨rfl, ?_⟩
            rintro _ ⟨⟩ halone rfl
            rw [← hφ.2.2.2 halone]
            exact htells
          | readText path =>
            refine ⟨rfl, ?_⟩
            rintro _ ⟨⟩ halone rfl
            rw [← hφ.2.2.2 halone]
            exact htells
          | _ => first | rfl | cases hharmless
      · cases reply with
        | error e =>
          obtain rfl : t = s := hleaves
          exact ⟨hsound, .preparing rules, rfl, hφ⟩
        | ok u =>
          obtain rfl : t = _ := hleaves
          refine ⟨?_, .recorded, rfl, ?_, hφ.2.2.1⟩
          · exact recorded_update hsound htoken hpath
          · show (Function.update s.records token (some record) token).isSome = true
            rw [Function.update_self]
            rfl
    | recorded =>
      obtain ⟨seconds, rfl⟩ := hmay
      obtain ⟨hrecords, -, heuid, -⟩ := mayLeave_frame (c := .systemdRun token seconds) hleaves
      have hkept : (t.records token).isSome ∧ t.euid = 0 := by
        rw [hrecords, heuid]
        exact hφ
      refine ⟨fun token' record' hrecord' => hsound token' record' (hrecords ▸ hrecord'), ?_⟩
      rcases reply with e | (_ | _)
      · exact ⟨.recorded, rfl, hkept⟩
      · exact ⟨.recorded, rfl, hkept⟩
      · exact ⟨.armed, rfl, hkept⟩
    | armed =>
      cases c with
      | command c =>
        obtain ⟨hrecords, -, heuid, -⟩ := mayLeave_frame hleaves
        have hkept : (t.records token).isSome ∧ t.euid = 0 := by
          rw [hrecords, heuid]
          exact hφ
        refine ⟨fun token' record' hrecord' => hsound token' record' (hrecords ▸ hrecord'), .armed,
          ?_, hkept⟩
        cases reply <;> rfl
      | _ => cases hmay
    | _ => cases hmay

/-- Nothing that a phase asserts of a record that was read is lost by a command. -/
theorem own_command {c : Command} {reply : Except ScriptError (HostCall.command c).Reply}
    (hr : r.isApply = false) (hφ : φ.Asserts alone i r s)
    (hmay : (protocol alone r).may φ (.command c)) (hrecords : t.records = s.records)
    (hlocks : t.locks = s.locks) : (φ.after (.command c) reply).Asserts alone i r t := by
  have hkept : φ.holding = true → t.locks r.token = some i := by
    intro hholding
    rw [hlocks]
    exact hφ.lock hholding
  rcases may_command hr hmay with ⟨record, rfl⟩ | ⟨record, token, rfl, rfl⟩ | rfl
  · have hread : Phase.Asserts alone i r t (.read record) := ⟨hkept rfl, hrecords ▸ hφ.2⟩
    rcases reply with e | status
    · exact fun _ => hkept rfl
    · cases c with
      | netfilterPersistentSave =>
        obtain ⟨record', hrecord', hpending, -⟩ := may_save hmay
        cases hrecord'
        cases status with
        | true => exact ⟨hread.1, hread.2, hpending⟩
        | false => exact fun _ => hkept rfl
      | systemctl verb unit => exact hread
      | _ =>
        cases status with
        | true => exact hread
        | false => exact fun _ => hkept rfl
  · rcases reply with e | status
    · exact fun _ => hkept rfl
    · exact ⟨hkept rfl, hrecords ▸ hφ.2.1, hφ.2.2⟩
  · have hwritten : Phase.Asserts alone i r t .written := ⟨hkept rfl, hrecords ▸ hφ.2⟩
    rcases reply with e | status
    · exact hwritten
    · exact hwritten

theorem own_writeRecord {token : Token} {record : Record}
    {reply : Except ScriptError (HostCall.writeRecord token record).Reply} (hr : r.isApply = false)
    (hsound : s.Recorded) (hφ : φ.Asserts alone i r s)
    (hmay : (protocol alone r).may φ (.writeRecord token record))
    (hleaves : (HostCall.writeRecord token record).Leaves i s t reply) :
    t.Recorded ∧ (φ.after (.writeRecord token record) reply).Asserts alone i r t := by
  obtain ⟨rfl, old, status, rfl, hstatus, hφold⟩ := may_writeAgain hr hmay
  have hheld : φ.holding = true ∧ s.records r.token = some old ∧ φ.afterError = .failed true := by
    rcases hφold with ⟨rfl, -⟩ | rfl | rfl
    · exact ⟨rfl, hφ.2, rfl⟩
    · exact ⟨rfl, hφ.2.1, rfl⟩
    · exact ⟨rfl, hφ.2.1, rfl⟩
  obtain ⟨htoken, hpath⟩ := hsound _ _ hheld.2.1
  cases reply with
  | error e =>
    obtain rfl : t = s := hleaves
    refine ⟨hsound, ?_⟩
    show φ.afterError.Asserts alone i r t
    rw [hheld.2.2]
    exact fun _ => hφ.lock hheld.1
  | ok u =>
    obtain rfl : t = _ := hleaves
    exact ⟨recorded_update hsound htoken hpath, hφ.lock hheld.1, _, Function.update_self _ _ _,
      hstatus⟩

theorem own_lock (hr : r.isApply = false) (hsound : s.Recorded) (hφ : φ.Asserts alone i r s)
    (hmay : (protocol alone r).may φ c) (h : Answers platform i c s reply t) :
    t.Recorded ∧ (φ.after c reply).Asserts alone i r t ∧ ReadsOwn r.token c reply := by
  have hleaves := h.leaves
  have htells := h.tells
  cases c with
  | geteuid =>
    obtain rfl := may_geteuid hr hmay
    obtain rfl : t = s := by cases reply <;> exact hleaves
    refine ⟨hsound, ?_, trivial⟩
    rcases reply with e | euid
    · exact nofun
    · show (if euid = 0 then Phase.outside else .refused).Asserts alone i r t
      split <;> trivial
  | recordIsFile token =>
    obtain ⟨rfl, rfl⟩ := may_recordIsFile hmay
    obtain rfl : t = s := by cases reply <;> exact hleaves
    refine ⟨hsound, ?_, trivial⟩
    rcases reply with e | (_ | _)
    · exact nofun
    · trivial
    · exact htells.symm
  | lock token =>
    obtain ⟨rfl, rfl⟩ := may_lock hmay
    rcases reply with e | u
    · obtain rfl : t = s := hleaves
      exact ⟨hsound, nofun, trivial⟩
    · obtain ⟨-, rfl⟩ := hleaves
      exact ⟨hsound, ⟨Function.update_self _ _ _, hφ⟩, trivial⟩
  | readRecord token =>
    obtain ⟨rfl, rfl⟩ := may_readRecord hmay
    obtain rfl : t = s := by cases reply <;> exact hleaves
    rcases reply with e | record
    · exact ⟨hsound, fun _ => hφ.1, trivial⟩
    · exact ⟨hsound, ⟨hφ.1, htells⟩, hsound _ _ htells⟩
  | command c =>
    obtain ⟨hrecords, hlocks, -, -⟩ := mayLeave_frame (c := c) hleaves
    exact ⟨fun token record hrecord => hsound token record (hrecords ▸ hrecord),
      own_command hr hφ hmay hrecords hlocks, trivial⟩
  | makeParent path =>
    obtain rfl : t = s := by cases reply <;> exact hleaves
    refine ⟨hsound, ?_, trivial⟩
    rcases may_prepareRules (.inl ⟨path, hmay⟩) with ⟨record, rfl⟩ | ⟨record, rfl⟩ <;>
      rcases reply with e | u
    · exact fun _ => hφ.1
    · exact hφ
    · exact fun _ => hφ.1
    · exact hφ
  | chmod path =>
    obtain rfl : t = s := by cases reply <;> exact hleaves
    refine ⟨hsound, ?_, trivial⟩
    rcases may_prepareRules (.inr ⟨path, hmay⟩) with ⟨record, rfl⟩ | ⟨record, rfl⟩ <;>
      rcases reply with e | u
    · exact fun _ => hφ.1
    · exact hφ
    · exact fun _ => hφ.1
    · exact hφ
  | writeText path text =>
    obtain ⟨record, rfl, rfl, hrules⟩ := may_writeText hmay
    obtain ⟨-, hpath⟩ := hsound _ _ hφ.2
    rcases reply with e | u
    · obtain ⟨text', rfl⟩ := hleaves
      exact ⟨hsound, fun _ => hφ.1, trivial⟩
    · obtain rfl : t = _ := hleaves
      refine ⟨hsound, ⟨hφ.1, hφ.2, fun _ => ?_⟩, trivial⟩
      simp only [hrules, hpath, Function.update_self]
  | unlink path =>
    obtain ⟨record, rfl, rfl, hrules⟩ := may_unlink hmay
    obtain ⟨-, hpath⟩ := hsound _ _ hφ.2
    rcases reply with e | u
    · obtain rfl : t = s := hleaves
      exact ⟨hsound, fun _ => hφ.1, trivial⟩
    · obtain rfl : t = _ := hleaves
      refine ⟨hsound, ⟨hφ.1, hφ.2, fun _ => ?_⟩, trivial⟩
      simp only [hrules, hpath, Function.update_self]
  | writeRecord token record =>
    obtain ⟨hsound', hasserts⟩ := own_writeRecord hr hsound hφ hmay hleaves
    exact ⟨hsound', hasserts, trivial⟩
  | unlock token =>
    obtain rfl : t = s.unlocked token := by cases reply <;> exact hleaves
    refine ⟨hsound, ?_, trivial⟩
    rcases may_release hmay with rfl | rfl | ⟨record, rfl, hstatus⟩ <;> rcases reply with e | u
    · exact nofun
    · exact nofun
    · exact hφ.2
    · exact hφ.2
    · exact ⟨record, hφ.2, hstatus⟩
    · exact ⟨record, hφ.2, hstatus⟩
  | isFile path => exact absurd hmay (not_may hr (.inl ⟨path, rfl⟩))
  | readText path => exact absurd hmay (not_may hr (.inr (.inl ⟨path, rfl⟩)))
  | iptablesSave => exact absurd hmay (not_may hr (.inr (.inr (.inl rfl))))
  | sysctlRead => exact absurd hmay (not_may hr (.inr (.inr (.inr rfl))))

/-- A process that holds the lock of the token, when another does. -/
theorem not_both_hold (hki : k ≠ i) (htoken : r.token = r'.token) (hφ : s.locks r.token = some i)
    (hψ : ψ.Asserts alone k r' s) : ψ.holding ≠ true := by
  intro hholding
  have hlock := hψ.lock hholding
  rw [← htoken, hφ] at hlock
  exact hki (Option.some.inj hlock).symm

/-- A phase that asserts nothing of a record that there is not. -/
theorem asserts_writeFirst {record : Record} (hψ : ψ.Asserts alone k r' s)
    (hnone : s.records r'.token = none) (hr' : r'.isApply = false) :
    ψ.Asserts alone k r' { s with records := Function.update s.records r'.token (some record) } := by
  cases ψ with
  | fresh =>
    rw [hψ.1] at hr'
    cases hr'
  | preparing rules =>
    rw [hψ.1] at hr'
    cases hr'
  | recorded => simp [Phase.Asserts, hnone] at hψ
  | armed => simp [Phase.Asserts, hnone] at hψ
  | present => simp [Phase.Asserts, hnone] at hψ
  | locked => simp [Phase.Asserts, hnone] at hψ
  | read record => simp [Phase.Asserts, hnone] at hψ
  | saved record => simp [Phase.Asserts, hnone] at hψ
  | disarmed record => simp [Phase.Asserts, hnone] at hψ
  | rulesBack record => simp [Phase.Asserts, hnone] at hψ
  | written => simp [Phase.Asserts, hnone] at hψ
  | settled => simp [Phase.Asserts, hnone] at hψ
  | failed holding => exact hψ
  | outside => trivial
  | refused => trivial

/-- What is asserted without the lock is asserted of a record that is no longer pending. -/
theorem asserts_writeAgain {old record : Record} (hψ : ψ.Asserts alone k r' s)
    (hold : s.records r'.token = some old) (hfree : ψ.holding ≠ true)
    (hstatus : record.status ≠ .pending) :
    ψ.Asserts alone k r' { s with records := Function.update s.records r'.token (some record) } := by
  cases ψ with
  | fresh => simp [Phase.Asserts, hold] at hψ
  | preparing rules => simp [Phase.Asserts, hold] at hψ
  | recorded => exact ⟨by simp, hψ.2⟩
  | armed => exact ⟨by simp, hψ.2⟩
  | present => simp [Phase.Asserts]
  | settled => exact ⟨record, Function.update_self _ _ _, hstatus⟩
  | failed holding => exact fun hholding => absurd hholding hfree
  | outside => trivial
  | refused => trivial
  | _ => exact absurd rfl hfree

theorem other_writeRecord {token : Token} {record : Record}
    {reply : Except ScriptError (HostCall.writeRecord token record).Reply} (hki : k ≠ i)
    (hcompatible : r.isApply = true → r'.isApply = true → r.token ≠ r'.token)
    (hφ : φ.Asserts alone i r s) (hmay : (protocol alone r).may φ (.writeRecord token record))
    (hleaves : (HostCall.writeRecord token record).Leaves i s t reply)
    (hψ : ψ.Asserts alone k r' s) : ψ.Asserts alone k r' t := by
  cases reply with
  | error e =>
    obtain rfl : t = s := hleaves
    exact hψ
  | ok u =>
    obtain rfl : t = _ := hleaves
    by_cases htoken : r'.token = token
    · cases hr : r.isApply with
      | true =>
        obtain ⟨rfl, rules, rfl, -⟩ := may_writeFirst hr hmay
        have hr' : r'.isApply = false := by
          by_contra hr'
          exact hcompatible hr (by simpa using hr') htoken.symm
        rw [← htoken]
        exact asserts_writeFirst hψ (htoken ▸ hφ.2.1) hr'
      | false =>
        obtain ⟨rfl, old, status, rfl, hstatus, hφold⟩ := may_writeAgain hr hmay
        have hheld : φ.holding = true ∧ s.records r.token = some old := by
          rcases hφold with ⟨rfl, -⟩ | rfl | rfl
          · exact ⟨rfl, hφ.2⟩
          · exact ⟨rfl, hφ.2.1⟩
          · exact ⟨rfl, hφ.2.1⟩
        rw [← htoken]
        exact asserts_writeAgain hψ (htoken ▸ hheld.2)
          (not_both_hold hki htoken.symm (hφ.lock hheld.1) hψ) hstatus
    · exact hψ.frame (Function.update_of_ne htoken _ _) (fun _ => rfl) rfl fun _ _ => rfl

/-- The persistent rules are changed by those alone that hold the lock of a record. -/
theorem other_files {record : Record} (hki : k ≠ i) (htoken : alone → r.token = r'.token)
    (hφ : φ.Asserts alone i r s) (hread : φ = .read record) (hψ : ψ.Asserts alone k r' s)
    (halone : alone) : ¬(s.records r'.token = none ∨ ψ.holding = true) := by
  subst hread
  rintro (hnone | hholding)
  · rw [← htoken halone, hφ.2] at hnone
    cases hnone
  · exact not_both_hold hki (htoken halone) hφ.1 hψ hholding

theorem other_kept (hki : k ≠ i)
    (hcompatible : r.isApply = true → r'.isApply = true → r.token ≠ r'.token)
    (htoken : alone → r.token = r'.token) (hφ : φ.Asserts alone i r s)
    (hmay : (protocol alone r).may φ c) (h : Answers platform i c s reply t)
    (hψ : ψ.Asserts alone k r' s) : ψ.Asserts alone k r' t := by
  have hleaves := h.leaves
  cases c with
  | command c =>
    obtain ⟨hrecords, hlocks, heuid, hfiles⟩ := mayLeave_frame (c := c) hleaves
    refine hψ.frame (by rw [hrecords]) (fun _ => by rw [hlocks]) heuid fun halone hrules => ?_
    by_cases hsave : c = .netfilterPersistentSave
    · subst hsave
      obtain ⟨record, hread, -⟩ := may_save hmay
      exact absurd hrules (other_files hki htoken hφ hread hψ halone)
    · rw [hfiles hsave]
  | writeText path text =>
    obtain ⟨record, hread, -⟩ := may_writeText hmay
    have hsame : t.records = s.records ∧ t.locks = s.locks ∧ t.euid = s.euid := by
      rcases reply with e | u
      · obtain ⟨text', rfl⟩ := hleaves
        exact ⟨rfl, rfl, rfl⟩
      · obtain rfl : t = _ := hleaves
        exact ⟨rfl, rfl, rfl⟩
    exact hψ.frame (by rw [hsame.1]) (fun _ => by rw [hsame.2.1]) hsame.2.2 fun halone hrules =>
      absurd hrules (other_files hki htoken hφ hread hψ halone)
  | unlink path =>
    obtain ⟨record, hread, -⟩ := may_unlink hmay
    have hsame : t.records = s.records ∧ t.locks = s.locks ∧ t.euid = s.euid := by
      rcases reply with e | u
      · obtain rfl : t = s := hleaves
        exact ⟨rfl, rfl, rfl⟩
      · obtain rfl : t = _ := hleaves
        exact ⟨rfl, rfl, rfl⟩
    exact hψ.frame (by rw [hsame.1]) (fun _ => by rw [hsame.2.1]) hsame.2.2 fun halone hrules =>
      absurd hrules (other_files hki htoken hφ hread hψ halone)
  | writeRecord token record => exact other_writeRecord hki hcompatible hφ hmay hleaves hψ
  | lock token =>
    rcases reply with e | u
    · obtain rfl : t = s := hleaves
      exact hψ
    · obtain ⟨hfree, rfl⟩ := hleaves
      refine hψ.frame rfl (fun hholding => Function.update_of_ne ?_ _ _) rfl fun _ _ => rfl
      rintro rfl
      rw [hψ.lock hholding] at hfree
      cases hfree
  | unlock token =>
    obtain rfl : t = s.unlocked token := by cases reply <;> exact hleaves
    obtain ⟨rfl, hholds⟩ := may_unlock hmay
    refine hψ.frame rfl (fun hholding => Function.update_of_ne ?_ _ _) rfl fun _ _ => rfl
    intro hsame
    exact not_both_hold hki hsame.symm (hφ.lock hholds) hψ hholding
  | _ =>
    obtain rfl : t = s := by cases reply <;> exact hleaves
    exact hψ

end Kept

/-- **What the phases assert is kept by every step.** -/
theorem outline_valid (platform : Platform) (only : Option Token) :
    (outline platform only).Valid := by
  have htokens : ∀ {r r' : Request}, (∀ token ∈ only, r.token = token) →
      (∀ token ∈ only, r'.token = token) → only.isSome = true → r.token = r'.token := by
    intro r r' hr hr' halone
    obtain ⟨token, htoken⟩ := Option.isSome_iff_exists.mp halone
    exact (hr token htoken).trans (hr' token htoken).symm
  constructor
  · intro r
    cases r with
    | apply fuel token arguments config => exact follows_apply _ fuel token arguments config
    | confirm token => exact follows_confirm (only.isSome = true) token
    | rollback token force automatic => exact follows_rollback (only.isSome = true) token automatic
  · rintro i r φ c s reply s' hsound ⟨honly, hφ⟩ hmay hanswers
    cases hr : r.isApply with
    | true =>
      obtain ⟨hsound', φ', hmoves, hφ'⟩ := own_apply hr hsound hφ hmay hanswers
      exact ⟨hsound', φ', hmoves, honly, hφ'⟩
    | false =>
      obtain ⟨hsound', hφ', hreads⟩ := own_lock hr hsound hφ hmay hanswers
      refine ⟨hsound', _, ?_, honly, hφ'⟩
      cases r with
      | apply => cases hr
      | confirm token => exact ⟨rfl, hreads⟩
      | rollback token force automatic => exact ⟨rfl, hreads⟩
  · rintro i r φ c s reply s' k r' ψ hki hcompatible ⟨honly, hφ⟩ hmay hanswers ⟨honly', hψ⟩
    exact ⟨honly', other_kept hki hcompatible (htokens honly honly') hφ hmay hanswers hψ⟩
  · rintro M r s' ⟨hstarts, honly⟩ hsound
    cases r with
    | apply fuel token arguments config =>
      obtain ⟨rfl, hnone, hdistinct⟩ := hstarts
      exact ⟨hsound, ⟨honly, rfl, hnone⟩, fun _ _ _ h => h, fun p hp =>
        ⟨fun happly _ => hdistinct p hp happly, fun _ happly => (hdistinct p hp happly).symm⟩⟩
    | confirm token =>
      obtain rfl := hstarts
      exact ⟨hsound, ⟨honly, trivial⟩, fun _ _ _ h => h, fun p hp => ⟨fun _ => nofun, nofun⟩⟩
    | rollback token force automatic =>
      have hshared : Host.Recorded s' ∧ ∀ k r' ψ, (outline platform only).asserts k r' ψ M.shared →
          (outline platform only).asserts k r' ψ s' := by
        rcases hstarts with rfl | ⟨-, -, -, rfl⟩
        · exact ⟨hsound, fun _ _ _ h => h⟩
        · exact ⟨hsound, fun k r' ψ h =>
            ⟨h.1, h.2.frame rfl (fun _ => rfl) rfl fun _ _ => rfl⟩⟩
      exact ⟨hshared.1, ⟨honly, trivial⟩, hshared.2, fun p hp => ⟨fun _ => nofun, nofun⟩⟩
  · rintro i r φ s k r' ψ hki ⟨-, hφ⟩ ⟨honly', hψ⟩
    refine ⟨honly', hψ.frame rfl (fun hholding => if_neg ?_) rfl fun _ _ => rfl⟩
    rw [hψ.lock hholding]
    exact fun h => hki (Option.some.inj h)
  · exact fun _ _ hsound => hsound

end Asserts

end Activation

end Snarkypuss
