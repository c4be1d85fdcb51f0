import Snarkypuss.Activation.Executions

/-!
# The persistent rules of an activation

A confirmation saves the live rules before its record says that they were saved, and a rollback
puts the persistent rules back when the record says so. Between the two a confirmation that gives
up leaves a pending record and rules that no rollback will put back.

## Main definitions

* `RulesAsCaptured`: the persistent rules are what the record has captured
* `LeavesRules`: a confirmation gives up the lock of a pending record, and they are not

## Main results

* `Kept.step`: every other step keeps the rules of a record as captured, unless a confirmation
  holds its lock or the record is confirmed
* `pending_rollback_keeps_rules`: without such steps the rollback of a pending record leaves the
  persistent rules as captured
-/

namespace Snarkypuss

namespace Activation

/-! ## Rules as captured -/

/-- The persistent rules, when they are read, are what a record has captured. -/
def RulesAsCaptured (record : Record) (s : Host) : Prop :=
  (s.files persistentRulesPath).map universalNewlines = capturedRules record

/-- A confirmation gives up the lock of a pending record, or is stopped while it holds it, and the
persistent rules are not what the record has captured. -/
def LeavesRules (token : Token) (M : Activations) (e : Activity) : Prop :=
  ∃ (i : ℕ) (p : Activity.Process) (record : Record),
    (e = .stop i ∨ ∃ reply, e = .call i (.unlock token) reply) ∧
      M.processes[i]? = some p ∧ p.request.isConfirm = true ∧ M.shared.locks token = some i ∧
      M.shared.records token = some record ∧ record.status = .pending ∧
      ¬RulesAsCaptured record M.shared

/-- No confirmation holds the lock of a token. -/
def Unconfirming (token : Token) (M : Activations) : Prop :=
  ∀ (i : ℕ) (p : Activity.Process), M.processes[i]? = some p →
    p.request.isConfirm = true → M.shared.locks token ≠ some i

/-- What a record has captured was read from a text file, and the persistent rules are that, when
the record is rolled back, or is pending while no confirmation holds its lock. -/
structure Kept (token : Token) (M : Activations) (record : Record) : Prop where
  read : (capturedRules record).map universalNewlines = capturedRules record
  rolledBack : record.status = .rolledBack → RulesAsCaptured record M.shared
  pending : record.status = .pending → Unconfirming token M → RulesAsCaptured record M.shared

/-- Reading what was read changes nothing. -/
theorem universalNewlines_idem (text : String) :
    universalNewlines (universalNewlines text) = universalNewlines text := by
  rw [universalNewlines_eq_iff, universalNewlines, String.toList_ofList]
  exact universalNewlinesChars_clean text.toList

/-- The persistent rules are exactly what was captured when they have no carriage returns. -/
theorem RulesAsCaptured.eq_iff {record : Record} {s : Host} (h : RulesAsCaptured record s) :
    s.files persistentRulesPath = capturedRules record ↔
      ∀ text, s.files persistentRulesPath = some text → '\r' ∉ text.toList := by
  unfold RulesAsCaptured at h
  rw [← h]
  cases s.files persistentRulesPath with
  | none => simp
  | some text =>
    rw [Option.map_some, Option.some.injEq, eq_comm, universalNewlines_eq_iff]
    constructor
    · intro hclean text' htext
      rw [← Option.some.inj htext]
      exact hclean
    · intro hclean
      exact hclean text rfl

section Steps

variable {platform : Platform} {token : Token} {M M' : Activations} {e : Activity}
  {phase phase' : ℕ → Phase} {record : Record}

/-- A step that leaves the lock of the token does not make it free of confirmations. -/
theorem Unconfirming.before (h : Unconfirming token M')
    (hstep : (scripts platform (some token)).Step M e M')
    (hlocks : M'.shared.locks token = M.shared.locks token) : Unconfirming token M := by
  intro i p hi hconfirm hlock
  obtain ⟨q, hq, hrequest⟩ := hstep.kept hi
  rw [← hrequest] at hconfirm
  exact h i q hq hconfirm (hlocks.trans hlock)

/-- A step that touches neither the persistent rules nor the lock of the token keeps the rules. -/
theorem Kept.frame (h : Kept token M record) (hstep : (scripts platform (some token)).Step M e M')
    (hfiles : M'.shared.files persistentRulesPath = M.shared.files persistentRulesPath)
    (hlocks : M'.shared.locks token = M.shared.locks token) : Kept token M' record := by
  refine ⟨h.read, fun hrolled => ?_, fun hpending hfree => ?_⟩
  · unfold RulesAsCaptured
    rw [hfiles]
    exact h.rolledBack hrolled
  · unfold RulesAsCaptured
    rw [hfiles]
    exact h.pending hpending (hfree.before hstep hlocks)

/-- A process that holds the lock, and is no confirmation. -/
theorem unconfirming_of_lock {i : ℕ} {p : Activity.Process}
    (hi : M.processes[i]? = some p) (hother : p.request.isConfirm = false)
    (hlock : M.shared.locks token = some i) : Unconfirming token M := by
  intro k q hk hconfirm hheld
  obtain rfl : i = k := Option.some.inj (hlock.symm.trans hheld)
  obtain rfl : p = q := Option.some.inj (hi.symm.trans hk)
  rw [hother] at hconfirm
  cases hconfirm

/-- What `LeavesRules` leaves to be shown when the lock is given up. -/
theorem asCaptured_of_meets {i : ℕ} {p : Activity.Process}
    (hmeets : ¬LeavesRules token M e)
    (he : e = .stop i ∨ ∃ reply, e = .call i (.unlock token) reply)
    (hi : M.processes[i]? = some p) (hlock : M.shared.locks token = some i)
    (hrecord : M.shared.records token = some record) (h : Kept token M record)
    (hpending : record.status = .pending) : RulesAsCaptured record M.shared := by
  cases hconfirm : p.request.isConfirm with
  | true =>
    by_contra hlost
    exact hmeets ⟨i, p, record, he, hi, hconfirm, hlock, hrecord, hpending, hlost⟩
  | false => exact h.pending hpending (unconfirming_of_lock hi hconfirm hlock)

/-- A record that is written: by the application for the first time, as confirmed, or as rolled
back. -/
theorem kept_writeRecord {i : ℕ} {r : Request} {written : Record}
    {next : Except ScriptError Unit → Script ℕ} {reply : Except ScriptError Unit} {s' : Host}
    (hM : (outline platform (some token)).Holds M phase)
    (hi : M.processes[i]? = some ⟨r, .ask (.writeRecord token written) next, false⟩)
    (hmay : (protocol ((some token).isSome = true) r).may (phase i) (.writeRecord token written))
    (hleaves : (HostCall.writeRecord token written).Leaves i M.shared s' reply)
    (hstep : (scripts platform (some token)).Step M (.call i (.writeRecord token written) reply)
      ⟨s', M.processes.set i ⟨r, next reply, false⟩⟩)
    (h : ∀ record, M.shared.records token = some record → Kept token M record)
    (hrecord : s'.records token = some record) :
    Kept token ⟨s', M.processes.set i ⟨r, next reply, false⟩⟩ record := by
  obtain ⟨honly, hφ⟩ := hM.asserted i _ hi rfl
  obtain rfl : r.token = token := honly token rfl
  rcases reply with e | u
  · -- Nothing is written.
    obtain rfl : s' = M.shared := hleaves
    exact (h record hrecord).frame hstep rfl rfl
  obtain rfl : s' = _ := hleaves
  obtain rfl : written = record := by
    have hwritten : Function.update M.shared.records r.token (some written) r.token = some record :=
      hrecord
    rw [Function.update_self] at hwritten
    exact Option.some.inj hwritten
  cases hr : r.isApply with
  | true =>
    obtain ⟨-, rules, hphase, -, -, -, hcaptured⟩ := may_writeFirst hr hmay
    rw [hphase] at hφ
    have hrules : capturedRules written = rules.map universalNewlines := hcaptured rfl
    have hfile : M.shared.files persistentRulesPath = rules := hφ.2.2.2 rfl
    have has : RulesAsCaptured written M.shared := by
      unfold RulesAsCaptured
      rw [hfile, hrules]
    refine ⟨?_, fun _ => has, fun _ _ => has⟩
    rw [hrules, Option.map_map]
    congr 1
    funext text
    exact universalNewlines_idem text
  | false =>
    obtain ⟨-, old, ⟨rfl, hphase⟩ | ⟨rfl, hrollback, hphase⟩⟩ := may_writeRecord hr hmay
    · -- It is confirmed, and then nothing is claimed of the rules.
      rw [hphase] at hφ
      exact ⟨(h old hφ.2.1).read, nofun, nofun⟩
    · rcases hphase with ⟨hphase, hpending⟩ | hphase
      · -- It was pending: the rollback holds the lock, so no confirmation does.
        rw [hphase] at hφ
        have hother : r.isConfirm = false := by
          cases r with
          | confirm => cases hrollback
          | _ => rfl
        have hlock : M.shared.locks r.token = some i := hφ.1
        have hold := h old hφ.2
        exact ⟨hold.read, fun _ => hold.pending hpending (unconfirming_of_lock hi hother hlock),
          nofun⟩
      · -- The rules were put back just before.
        rw [hphase] at hφ
        have hold := h old hφ.2.1
        refine ⟨hold.read, fun _ => ?_, nofun⟩
        have hfile : M.shared.files persistentRulesPath = capturedRules old := hφ.2.2 rfl
        show (M.shared.files persistentRulesPath).map universalNewlines = capturedRules old
        rw [hfile]
        exact hold.read

/-- **A step keeps the rules of the record as captured**, unless a confirmation gives up its lock
and leaves them changed. -/
theorem kept_step (hM : (outline platform (some token)).Holds M phase)
    (hstep : (scripts platform (some token)).Step M e M') (hmeets : ¬LeavesRules token M e)
    (h : ∀ record, M.shared.records token = some record → Kept token M record)
    (hrecord : M'.shared.records token = some record) : Kept token M' record := by
  have hstep' := hstep
  cases hstep with
  | start r s' hstarts =>
    have hsame : s'.records = M.shared.records ∧ s'.files = M.shared.files ∧
        s'.locks = M.shared.locks := by
      rcases r with ⟨fuel, token', arguments, config⟩ | token' | ⟨token', force, automatic⟩
      · obtain rfl := hstarts.1.1
        exact ⟨rfl, rfl, rfl⟩
      · obtain rfl := hstarts.1
        exact ⟨rfl, rfl, rfl⟩
      · rcases hstarts.1 with rfl | ⟨-, -, -, rfl⟩ <;> exact ⟨rfl, rfl, rfl⟩
    have hbefore : M.shared.records token = some record := by
      rw [← hsame.1]
      exact hrecord
    exact (h record hbefore).frame hstep' (by rw [hsame.2.1]) (by rw [hsame.2.2])
  | stop i r c next hi =>
    have hbefore : M.shared.records token = some record := hrecord
    have hkept := h record hbefore
    by_cases hlock : M.shared.locks token = some i
    · refine ⟨hkept.read, hkept.rolledBack, fun hpending _ => ?_⟩
      have has : RulesAsCaptured record M.shared :=
        asCaptured_of_meets hmeets (.inl rfl) hi hlock hbefore hkept hpending
      exact has
    · exact hkept.frame hstep' rfl (if_neg hlock)
  | call i r c next reply s' hi hanswers =>
    have hmay : (protocol ((some token).isSome = true) r).may (phase i) c := hM.may hi
    have hleaves := hanswers.leaves
    obtain ⟨honly, hφ⟩ := hM.asserted i _ hi rfl
    have htoken : r.token = token := honly token rfl
    have hsame : s'.records = M.shared.records →
        s'.files persistentRulesPath = M.shared.files persistentRulesPath →
        s'.locks = M.shared.locks → Kept token ⟨s', M.processes.set i ⟨r, next reply, false⟩⟩ record := by
      intro hrecords hfiles hlocks
      have hbefore : M.shared.records token = some record := by
        rw [← hrecords]
        exact hrecord
      exact (h record hbefore).frame hstep' hfiles (by rw [hlocks])
    have hrestores : ∀ old, phase i = .read old → old.status = .confirmed →
        s'.records = M.shared.records →
        Kept token ⟨s', M.processes.set i ⟨r, next reply, false⟩⟩ record := by
      intro old hphase hconfirmed hrecords
      rw [hphase] at hφ
      have hbefore : M.shared.records token = some record := by
        rw [← hrecords]
        exact hrecord
      obtain rfl : record = old := by
        rw [← htoken] at hbefore
        exact Option.some.inj (hbefore.symm.trans hφ.2)
      refine ⟨(h record hbefore).read, fun hrolled => ?_, fun hpending _ => ?_⟩
      · rw [hconfirmed] at hrolled
        cases hrolled
      · rw [hconfirmed] at hpending
        cases hpending
    cases c with
    | command c =>
      obtain ⟨hrecords, hlocks, -, hfiles⟩ := mayLeave_frame (c := c) hleaves
      by_cases hsave : c = .netfilterPersistentSave
      · -- The rules are saved while a confirmation holds the lock of the pending record.
        subst hsave
        obtain ⟨old, hphase, hpending, hconfirm⟩ := may_save hmay
        rw [hphase] at hφ
        have hbefore : M.shared.records token = some record := by
          rw [← hrecords]
          exact hrecord
        obtain rfl : record = old := by
          rw [← htoken] at hbefore
          exact Option.some.inj (hbefore.symm.trans hφ.2)
        refine ⟨(h record hbefore).read, fun hrolled => ?_, fun _ hfree => ?_⟩
        · rw [hpending] at hrolled
          cases hrolled
        · have hlock : s'.locks token = some i := by
            rw [hlocks, ← htoken]
            exact hφ.1
          exact absurd hlock (hfree i _ (getElem?_set_self_of hi) hconfirm)
      · exact hsame hrecords (by rw [hfiles hsave]) hlocks
    | writeText path text =>
      -- The rules are put back for a confirmed record.
      obtain ⟨old, hphase, hconfirmed⟩ := may_restoreRules (.inl ⟨path, text, hmay⟩)
      have hrecords : s'.records = M.shared.records := by
        rcases reply with e | u
        · obtain ⟨text', rfl⟩ := hleaves
          rfl
        · obtain rfl : s' = _ := hleaves
          rfl
      exact hrestores old hphase hconfirmed hrecords
    | unlink path =>
      obtain ⟨old, hphase, hconfirmed⟩ := may_restoreRules (.inr ⟨path, hmay⟩)
      have hrecords : s'.records = M.shared.records := by
        rcases reply with e | u
        · obtain rfl : s' = M.shared := hleaves
          rfl
        · obtain rfl : s' = _ := hleaves
          rfl
      exact hrestores old hphase hconfirmed hrecords
    | writeRecord token' written =>
      obtain rfl : token' = token := by
        rw [← htoken]
        cases hr : r.isApply with
        | true => exact (may_writeFirst hr hmay).1
        | false => exact (may_writeRecord hr hmay).1
      exact kept_writeRecord hM hi hmay hleaves hstep' h hrecord
    | lock token' =>
      obtain ⟨htoken', -⟩ := may_lock hmay
      rw [htoken] at htoken'
      rcases reply with e | u
      · obtain rfl : s' = M.shared := hleaves
        exact hsame rfl rfl rfl
      · -- Nobody held the lock before, so no confirmation did.
        obtain ⟨hnobody, rfl⟩ := hleaves
        rw [htoken'] at hnobody
        have hkept := h record hrecord
        refine ⟨hkept.read, hkept.rolledBack, fun hpending _ => hkept.pending hpending ?_⟩
        intro k q _ _ hheld
        rw [hnobody] at hheld
        cases hheld
    | unlock token' =>
      obtain rfl : s' = M.shared.unlocked token' := by cases reply <;> exact hleaves
      obtain ⟨htoken', hholding⟩ := may_unlock hmay
      obtain rfl : token' = token := htoken'.trans htoken
      have hlock : M.shared.locks token' = some i := by
        rw [← htoken]
        exact hφ.lock hholding
      have hkept := h record hrecord
      refine ⟨hkept.read, hkept.rolledBack, fun hpending _ => ?_⟩
      have has : RulesAsCaptured record M.shared :=
        asCaptured_of_meets hmeets (.inr ⟨reply, rfl⟩) hi hlock hrecord hkept hpending
      exact has
    | _ =>
      obtain rfl : s' = M.shared := by cases reply <;> exact hleaves
      exact hsame rfl rfl rfl

/-! ## Rollbacks of a pending record -/

/-- The record of the token is that of `record`, rolled back. -/
def Undone (token : Token) (record : Record) (M : Activations) : Prop :=
  M.shared.records token = some { record with status := .rolledBack }

/-- A record that is rolled back stays as it is. -/
theorem Undone.step (h : Undone token record M)
    (hM : (outline platform (some token)).Holds M phase)
    (hstep : (scripts platform (some token)).Step M e M') : Undone token record M' := by
  unfold Undone at h ⊢
  cases hstep with
  | start r s' hstarts =>
    rcases r with ⟨fuel, token', arguments, config⟩ | token' | ⟨token', force, automatic⟩
    · obtain rfl := hstarts.1.1
      exact h
    · obtain rfl := hstarts.1
      exact h
    · rcases hstarts.1 with rfl | ⟨-, -, -, rfl⟩ <;> exact h
  | stop i r c next hi => exact h
  | call i r c next reply s' hi hanswers =>
    have hmay : (protocol ((some token).isSome = true) r).may (phase i) c := hM.may hi
    have hleaves := hanswers.leaves
    obtain ⟨honly, hφ⟩ := hM.asserted i _ hi rfl
    have htoken : r.token = token := honly token rfl
    cases c with
    | command c =>
      rw [(mayLeave_frame (c := c) hleaves).1]
      exact h
    | writeText path text =>
      rcases reply with e | u
      · obtain ⟨text', rfl⟩ := hleaves
        exact h
      · obtain rfl : s' = _ := hleaves
        exact h
    | lock token' =>
      rcases reply with e | u
      · obtain rfl : s' = M.shared := hleaves
        exact h
      · obtain ⟨-, rfl⟩ := hleaves
        exact h
    | writeRecord token' written =>
      rcases reply with e | u
      · obtain rfl : s' = M.shared := hleaves
        exact h
      obtain rfl : s' = _ := hleaves
      show Function.update M.shared.records token' (some written) token = _
      cases hr : r.isApply with
      | true =>
        -- The first record is written when there is none.
        obtain ⟨-, rules, hphase, -⟩ := may_writeFirst hr hmay
        rw [hphase] at hφ
        have hnone : M.shared.records r.token = none := hφ.2.1
        rw [htoken, h] at hnone
        cases hnone
      | false =>
        obtain ⟨rfl, old, hwritten⟩ := may_writeRecord hr hmay
        have hold : ∀ {record'}, M.shared.records r.token = some record' →
            record' = { record with status := .rolledBack } := by
          intro record' hrecord'
          rw [htoken] at hrecord'
          exact Option.some.inj (hrecord'.symm.trans h)
        rcases hwritten with ⟨rfl, hphase⟩ | ⟨rfl, -, ⟨hphase, hpending⟩ | hphase⟩
        · rw [hphase] at hφ
          obtain ⟨-, hrecord, hpending⟩ := hφ
          rw [hold hrecord] at hpending
          cases hpending
        · rw [hphase] at hφ
          rw [hold hφ.2] at hpending
          cases hpending
        · rw [hphase] at hφ
          rw [htoken, Function.update_self, hold hφ.2.1]
    | _ => rcases reply with e | u <;> obtain rfl := hleaves <;> exact h

/-- A rollback that has read a pending record is still at work on it, has failed, or has rolled
it back. -/
structure Traced (token : Token) (events : List Activity) (M : Activations) (phase : ℕ → Phase) :
    Prop where
  named : ∀ (i : ℕ) (c : HostCall) (reply : Except ScriptError c.Reply),
    Happening.call i c reply ∈ events → i < M.processes.length
  read : ∀ (k : ℕ) (p : Activity.Process) (record : Record),
    M.processes[k]? = some p → p.request.isRollback = true →
      (Happening.call k (.readRecord token) (.ok record) : Activity) ∈ events → record.status = .pending →
        phase k = .read record ∨ (∃ holding, phase k = .failed holding) ∨ Undone token record M

theorem ne_save_of_mem {command : Command} (h : command ∈ record.liveCommands) :
    command ≠ .netfilterPersistentSave := by
  rintro rfl
  rcases List.mem_cons.mp h with h | h
  · cases h
  rcases List.mem_cons.mp h with h | h
  · cases h
  obtain ⟨service, -, h⟩ := List.mem_flatMap.mp h
  simp at h

/-- A rollback that works on a pending record goes on with it, fails, or writes it. -/
theorem moves_pending {alone : Prop} {force automatic : Bool} {c : HostCall}
    {reply : Except ScriptError c.Reply} {φ : Phase} (hpending : record.status = .pending)
    (hmay : (protocol alone (.rollback token force automatic)).may (.read record) c)
    (hmoves : (protocol alone (.rollback token force automatic)).moves (.read record) c reply φ) :
    φ = .read record ∨ (∃ holding, φ = .failed holding) ∨
      ∃ u : Unit, (⟨c, reply⟩ : Σ c : HostCall, Except ScriptError c.Reply) =
        ⟨.writeRecord token { record with status := .rolledBack }, .ok u⟩ := by
  have hne : record.status ≠ .confirmed := by
    rw [hpending]
    exact nofun
  obtain ⟨rfl, -⟩ := hmoves
  rcases hmay with ⟨-, command, hmem, rfl⟩ | ⟨hconfirmed, -⟩ | ⟨-, rfl⟩ | ⟨hother, -⟩
  · rcases reply with e | status
    · exact .inr (.inl ⟨true, rfl⟩)
    · have hafter : Phase.afterCommand status (.read record) command = .read record ∨
          Phase.afterCommand status (.read record) command = .failed true := by
        cases command with
        | netfilterPersistentSave => exact absurd rfl (ne_save_of_mem hmem)
        | systemctl verb unit => exact .inl rfl
        | _ =>
          cases status with
          | true => exact .inl rfl
          | false => exact .inr rfl
      exact hafter.imp_right fun hfailed => .inl ⟨true, hfailed⟩
  · exact absurd hconfirmed hne
  · rcases reply with e | u
    · exact .inr (.inl ⟨true, rfl⟩)
    · exact .inr (.inr ⟨u, rfl⟩)
  · exact absurd hpending hother

/-- A rollback that has failed stays so. -/
theorem moves_of_failed {alone : Prop} {force automatic holding : Bool} {c : HostCall}
    {reply : Except ScriptError c.Reply} {φ : Phase}
    (hmay : (protocol alone (.rollback token force automatic)).may (.failed holding) c)
    (hmoves : (protocol alone (.rollback token force automatic)).moves (.failed holding) c reply φ) :
    ∃ holding', φ = .failed holding' := by
  obtain ⟨rfl, -⟩ := hmoves
  obtain ⟨-, rfl⟩ := hmay
  rcases reply with e | u <;> exact ⟨false, rfl⟩

theorem Traced.step {events : List Activity} (h : Traced token events M phase)
    (hM : (outline platform (some token)).Holds M phase)
    (hstep : (scripts platform (some token)).Step M e M')
    (hadvances : (outline platform (some token)).Advances M phase e phase') :
    Traced token (events ++ [e]) M' phase' := by
  constructor
  · intro i c reply hx
    rcases mem_concat hx with hx | rfl
    · exact (h.named i c reply hx).trans_le hstep.length_le
    · exact hstep.caller_lt.trans_le hstep.length_le
  · intro k p record hk hrollback hx hpending
    have hlt : k < M.processes.length := by
      rcases mem_concat hx with hx | rfl
      · exact h.named k _ _ hx
      · exact hstep.caller_lt
    obtain ⟨hlen, -⟩ | ⟨q, hq, hrequest, -⟩ := hstep.before hk
    · exact absurd hlen (Nat.ne_of_lt hlt)
    rw [← hrequest] at hrollback
    by_cases hcall : ∃ (c : HostCall) (reply : Except ScriptError c.Reply), e = .call k c reply
    · obtain ⟨c, reply, rfl⟩ := hcall
      obtain ⟨q', φ, hq', hmoves, rfl⟩ := hadvances
      obtain rfl : q = q' := Option.some.inj (hq.symm.trans hq')
      rw [Function.update_self]
      cases hstep with
      | call _ r _ next _ s' hi hanswers =>
        obtain rfl : q = _ := Option.some.inj (hq.symm.trans hi)
        obtain ⟨honly, hφ⟩ := hM.asserted k _ hi rfl
        have htoken : r.token = token := honly token rfl
        rcases r with _ | _ | ⟨token', force, automatic⟩
        · cases hrollback
        · cases hrollback
        obtain rfl : token' = token := htoken
        have hmay : (protocol ((some token').isSome = true)
          (.rollback token' force automatic)).may (phase k) c := hM.may hi
        have hmoves : (protocol ((some token').isSome = true)
          (.rollback token' force automatic)).moves (phase k) c reply φ := hmoves
        rcases mem_concat hx with hx | hx
        · have hstays := h.read k _ record hi rfl hx hpending
          rcases hstays with hread | ⟨holding, hfailed⟩ | hundone
          · rw [hread] at hmay hmoves hφ
            rcases moves_pending hpending hmay hmoves with hsame | hfailed | ⟨u, hwritten⟩
            · exact .inl hsame
            · exact .inr (.inl hfailed)
            · cases hwritten
              obtain rfl : s' = _ := hanswers.leaves
              exact .inr (.inr (Function.update_self _ _ _))
          · rw [hfailed] at hmay hmoves
            exact .inr (.inl (moves_of_failed hmay hmoves))
          · exact .inr (.inr (hundone.step hM (.call M k _ c next reply s' hi hanswers)))
        · -- It reads the record now.
          cases hx
          obtain ⟨-, hlocked⟩ := may_readRecord hmay
          rw [hlocked] at hmoves
          exact .inl hmoves.1
    · -- Another process makes a call, or is started or stopped.
      have hbefore : (Happening.call k (.readRecord token) (.ok record) : Activity) ∈ events := by
        rcases mem_concat hx with hx | rfl
        · exact hx
        · exact absurd ⟨_, _, rfl⟩ hcall
      rw [hadvances.phase_kept hlt fun c reply he => hcall ⟨c, reply, he⟩]
      rcases h.read k q record hq hrollback hbefore hpending with hread | hfailed | hundone
      · exact .inl hread
      · exact .inr (.inl hfailed)
      · exact .inr (.inr (hundone.step hM hstep))

end Steps

/-- **The persistent rules after the rollback of a pending record**: in every run in which no
confirmation gives up the lock of a pending record while they are not what it has captured. They
are exactly that when they have no carriage returns. -/
theorem pending_rollback_keeps_rules (platform : Platform) {token : Token} {s₀ : Host}
    (h₀ : s₀.Recorded) (hnone : s₀.records token = none) {events : List Activity} {M : Activations}
    (run : (scripts platform (some token)).Run (fun M e _ => ¬LeavesRules token M e) ⟨s₀, []⟩
      events M)
    {k : ℕ} {p : Activity.Process} {record : Record} (hk : M.processes[k]? = some p)
    (hrollback : p.request.isRollback = true) (hdone : p.program = .done (.ok 0))
    (hread : .call k (.readRecord token) (.ok record) ∈ events) (hpending : record.status = .pending) :
    RulesAsCaptured record M.shared ∧
      (M.shared.files persistentRulesPath = capturedRules record ↔
        ∀ text, M.shared.files persistentRulesPath = some text → '\r' ∉ text.toList) := by
  have hnothing : ∀ (record : Record), (⟨s₀, []⟩ : Activations).shared.records token = some record →
      Kept token ⟨s₀, []⟩ record := by
    intro record hrecord
    rw [show s₀.records token = some record from hrecord] at hnone
    cases hnone
  have hempty : Traced token [] ⟨s₀, []⟩ fun _ => .fresh :=
    ⟨fun _ _ _ hx => absurd hx List.not_mem_nil, fun _ _ _ _ _ hx => absurd hx List.not_mem_nil⟩
  obtain ⟨phase, hM, hkept, htraced⟩ := (outline_valid platform (some token)).run
    (K := fun events M phase => (∀ record, M.shared.records token = some record →
      Kept token M record) ∧ Traced token events M phase) run ⟨h₀, nofun, nofun, nofun⟩
    ⟨hnothing, hempty⟩ fun events N phase e N' phase' hmeets hstep hN hadvances _ hK =>
      ⟨fun record hrecord => kept_step hN hstep hmeets hK.1 hrecord, hK.2.step hN hstep hadvances⟩
  have hsettled : phase k = .settled := by
    obtain ⟨r, program, stopped⟩ := p
    obtain rfl : program = .done (.ok 0) := hdone
    rcases r with _ | _ | ⟨token', force, automatic⟩
    · cases hrollback
    · cases hrollback
    have hending : Ending (.rollback token' force automatic) (.ok 0) (phase k) := hM.follows k _ hk
    exact hending.1 rfl
  have hundone : Undone token record M := by
    rcases htraced.read k p record hk hrollback hread hpending with hphase | ⟨holding, hphase⟩ | h
    · rw [hsettled] at hphase
      cases hphase
    · rw [hsettled] at hphase
      cases hphase
    · exact h
  have has : RulesAsCaptured record M.shared := (hkept _ hundone).rolledBack rfl
  exact ⟨has, has.eq_iff⟩

/-! ### A rollback after an application -/

/-- An application of the ready host, and a rollback of it. -/
theorem pending_rollback_keeps_rules_ready :
    ∃ (events : List Activity) (M : Activations) (record : Record),
      (scripts barePlatform (some readyToken)).Run (fun M e _ => ¬LeavesRules readyToken M e)
        ⟨readyHost freshTables, []⟩ events M ∧
      .call 1 (.readRecord readyToken) (.ok record) ∈ events ∧ record.status = .pending ∧
      RulesAsCaptured record M.shared := by
  have honly : ∀ token ∈ some readyToken, readyToken = token := fun _ h => Option.some.inj h
  obtain ⟨events, t, run, happlied, hevents, -⟩ := ready_run (some readyToken) honly
  have hfree : t.locks readyToken = none := by
    rw [happlied.locks]
    rfl
  let M : Activations := ⟨t, [⟨.apply 1 readyToken readyArguments bareConfig, .done (.ok 0), false⟩]⟩
  let N : Activations := ⟨(restored barePlatform readyToken
      (captured (readyHost freshTables) readyToken bareConfig) (t.locked readyToken 1)).unlocked
        readyToken, M.processes ++ [⟨.rollback readyToken false true, .done (.ok 0), false⟩]⟩
  have hrollback : (scripts barePlatform (some readyToken)).Run (fun _ _ _ => True) M
      (done (barePlatform.handler 1) 1 (.rollback readyToken false true) t) N :=
    run_rollback honly (.inl rfl) happlied.root happlied.record rfl hfree
  have hread := reads_rollback barePlatform 1 false true happlied.root happlied.record
  -- No confirmation was started.
  have hmeets : (scripts barePlatform (some readyToken)).Run
      (fun M e _ => ¬LeavesRules readyToken M e) ⟨readyHost freshTables, []⟩
      (events ++ done (barePlatform.handler 1) 1 (.rollback readyToken false true) t) N := by
    apply (run.append hrollback).weaken
    rintro events₁ e N N' run₁ hamong - ⟨i, p, record, -, hi, hconfirm, -⟩
    rcases run₁.started (List.mem_of_getElem? hi) with ⟨q, hq, -⟩ | hstart
    · cases hq
    have hx := hamong _ (List.mem_append_left _ hstart)
    rcases List.mem_append.mp hx with hx | hx
    · rcases hevents _ hx with hx | ⟨c, reply, hx, -⟩
      · rw [Happening.start.inj hx] at hconfirm
        cases hconfirm
      · cases hx
    · rcases mem_done hx with hx | ⟨x, -, hx⟩
      · rw [Happening.start.inj hx] at hconfirm
        cases hconfirm
      · cases hx
  exact ⟨_, N, _, hmeets, List.mem_append_right _ hread, rfl,
    (pending_rollback_keeps_rules barePlatform (recorded_readyHost freshTables) rfl hmeets
      (k := 1) rfl rfl rfl (List.mem_append_right _ hread) rfl).1⟩

/-- A confirmation has saved the rules and could not write the record, and a rollback of the
pending record leaves them. -/
theorem pending_rollback_leaves_rules :
    ∃ (events : List Activity) (M : Activations) (record : Record),
      (scripts barePlatform (some readyToken)).Run (fun _ _ _ => True)
        ⟨readyHost freshTables, []⟩ events M ∧
      M.processes[2]? = some ⟨.rollback readyToken false true, .done (.ok 0), false⟩ ∧
      .call 2 (.readRecord readyToken) (.ok record) ∈ events ∧ record.status = .pending ∧
      ¬RulesAsCaptured record M.shared := by
  have honly : ∀ token ∈ some readyToken, readyToken = token := fun _ h => Option.some.inj h
  obtain ⟨events, t, run, happlied, -⟩ := ready_run (some readyToken) honly
  have hfree : t.locks readyToken = none := by
    rw [happlied.locks]
    rfl
  let M : Activations := ⟨t, [⟨.apply 1 readyToken readyArguments bareConfig, .done (.ok 0), false⟩]⟩
  obtain ⟨events', result, hconfirm⟩ : ∃ events' result, (scripts barePlatform (some readyToken)).Run
      (fun _ _ _ => True) M events' ⟨((t.locked readyToken 1).disarmed barePlatform
        readyToken).unlocked readyToken, M.processes ++ [⟨.confirm readyToken, .done result, false⟩]⟩ :=
    run_unwritten honly (by decide +kernel) happlied.root happlied.record rfl hfree
  let N : Activations := ⟨((t.locked readyToken 1).disarmed barePlatform
    readyToken).unlocked readyToken, M.processes ++ [⟨.confirm readyToken, .done result, false⟩]⟩
  have hunlocked : N.shared.locks readyToken = none := by
    simp [N, Host.unlocked]
  have hrollback : (scripts barePlatform (some readyToken)).Run (fun _ _ _ => True) N
      (done (barePlatform.handler 2) 2 (.rollback readyToken false true) N.shared)
      ⟨_, N.processes ++ [⟨.rollback readyToken false true, .done (.ok 0), false⟩]⟩ :=
    run_rollback honly (.inl rfl) happlied.root happlied.record rfl hunlocked
  have hread := reads_rollback barePlatform 2 false true (s := N.shared) happlied.root
    happlied.record
  refine ⟨_, _, _, (run.append hconfirm).append hrollback, rfl, List.mem_append_right _ hread, rfl,
    fun has => ?_⟩
  -- The file is there, and none was captured.
  have hfile : (restored barePlatform readyToken
      (captured (readyHost freshTables) readyToken bareConfig)
      (N.shared.locked readyToken 2)).files persistentRulesPath = some "" := by
    rw [restored_files rfl]
    show Function.update t.files persistentRulesPath (some "") persistentRulesPath = some ""
    rw [Function.update_self]
  have hmap : ((restored barePlatform readyToken
      (captured (readyHost freshTables) readyToken bareConfig)
      (N.shared.locked readyToken 2)).files persistentRulesPath).map universalNewlines = none := has
  rw [hfile] at hmap
  cases hmap

end Activation

end Snarkypuss
