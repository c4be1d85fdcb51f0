import Snarkypuss.Activation.Executions

/-!
# Activations of one host

Each activation has a record, a lock and a timer of its own, and all of them work on one live
state. The timer of an activation that was confirmed changes nothing any more; the timer of one
that was not puts back all that it has captured, whatever was confirmed in between.

## Main results

* `undone_by_pending`: after a confirmation an automatic rollback changes the live state only for
  another activation whose record is pending, and only to put back what it has captured
* `confirmed_undone`: it does so to what was confirmed
-/

namespace Snarkypuss

namespace Activation

section Rollback

variable {alone : Prop} {token : Token} {automatic : Bool} {φ : Phase} {c : HostCall}

/-- A rollback without force works on the live state of a pending record alone. -/
theorem may_changesLive_pending
    (hmay : (protocol alone (.rollback token false automatic)).may φ c) (hc : c.ChangesLive) :
    ∃ record, φ = .read record ∧ record.status = .pending ∧
      ∃ command ∈ record.liveCommands, c = .command command := by
  cases φ with
  | outside => rcases hmay with rfl | rfl <;> exact False.elim hc
  | present =>
    obtain rfl := hmay
    exact False.elim hc
  | locked =>
    obtain rfl := hmay
    exact False.elim hc
  | read record =>
    rcases hmay with ⟨hstatus, hcommand⟩ | ⟨-, hforce, -⟩ | ⟨-, rfl⟩ | ⟨-, rfl⟩
    · rcases hstatus with hpending | ⟨-, hforce⟩
      · exact ⟨record, rfl, hpending, hcommand⟩
      · cases hforce
    · cases hforce
    · exact False.elim hc
    · exact False.elim hc
  | rulesBack record => rcases hmay with rfl | rfl <;> exact False.elim hc
  | written => rcases hmay with rfl | rfl <;> exact False.elim hc
  | failed holding =>
    obtain ⟨-, rfl⟩ := hmay
    exact False.elim hc
  | _ => cases hmay

end Rollback

/-- **What can undo a confirmed activation.** After the confirmation of a token has returned
success, an automatic rollback without force changes the live state only when it is that of
another token, whose record is pending, and with the commands that put back what it captured. -/
theorem undone_by_pending (platform : Platform) {s₀ : Host} (h₀ : s₀.Recorded)
    {events : List Activity} {M M' : Activations}
    (run : (scripts platform none).Run (fun _ _ _ => True) ⟨s₀, []⟩ events M) {k i : ℕ}
    {token token' : Token} {automatic : Bool} {program : Script ℕ} {c : HostCall}
    {reply : Except ScriptError c.Reply}
    (hconfirmed : M.processes[k]? = some ⟨.confirm token, .done (.ok 0), false⟩)
    (hrollback : M.processes[i]? = some ⟨.rollback token' false automatic, program, false⟩)
    (hstep : (scripts platform none).Step M (.call i c reply) M') (hc : c.ChangesLive) :
    token' ≠ token ∧ ∃ record, M.shared.records token' = some record ∧ record.status = .pending ∧
      ∃ command ∈ record.liveCommands, c = .command command := by
  have hempty : (outline platform none).Holds ⟨s₀, []⟩ fun _ => .fresh := ⟨h₀, nofun, nofun, nofun⟩
  obtain ⟨phase, hM, -⟩ := (outline_valid platform none).run (K := fun _ _ _ => True) run hempty
    trivial fun _ _ _ _ _ _ _ _ _ _ _ _ => trivial
  -- The record of the confirmed token is not pending,
  have hending : Ending (.confirm token) (.ok 0) (phase k) := hM.follows k _ hconfirmed
  obtain ⟨-, hsettled⟩ := hM.asserted k _ hconfirmed rfl
  rw [hending rfl] at hsettled
  obtain ⟨record', hrecord', hstatus'⟩ := hsettled
  -- and that of the rollback is.
  obtain ⟨-, hread⟩ := hM.asserted i _ hrollback rfl
  have hmay : (protocol ((none : Option Token).isSome = true)
      (.rollback token' false automatic)).may (phase i) c := by
    cases hstep with
    | call _ r _ next _ s' hi hanswers =>
      have hsame := Option.some.inj (hrollback.symm.trans hi)
      cases hsame
      exact hM.may hi
  obtain ⟨record, hphase, hpending, hcommand⟩ := may_changesLive_pending hmay hc
  rw [hphase] at hread
  refine ⟨?_, record, hread.2, hpending, hcommand⟩
  rintro rfl
  obtain rfl : record = record' := Option.some.inj (hread.2.symm.trans hrecord')
  exact hstatus' hpending

/-! ### Two activations -/

/-- The token of a second activation. -/
def secondToken : Token := "fedcba9876543210"

/-- Two applications of the ready host, and the confirmation of the second one. -/
theorem second_confirmed : ∃ (events : List Activity) (M : Activations),
    (scripts barePlatform none).Run (fun _ _ _ => True) ⟨readyHost freshTables, []⟩ events M ∧
    M.processes.length = 3 ∧
    M.processes[2]? = some ⟨.confirm secondToken, .done (.ok 0), false⟩ ∧
    M.shared.euid = 0 ∧ M.shared.timers readyToken = true ∧
    M.shared.records readyToken = some (captured (readyHost freshTables) readyToken bareConfig) ∧
    M.shared.locks readyToken = none ∧ M.shared.ipForward = "1" := by
  have hne : readyToken ≠ secondToken := by decide
  obtain ⟨t, hfirst, haccepts, howned, hjumps⟩ := apply_ready 0
  have happlied := apply_runs hfirst
  have hfuel : ownedJumps t.tables < 3 := by
    rw [hjumps]
    decide
  obtain ⟨u, hsecond, -⟩ : ∃ u, Runs barePlatform 1 (apply 3 secondToken readyArguments bareConfig)
      t 0 u ∧ _ := apply_returns haccepts howned hfuel secondToken
  have happlied' := apply_runs hsecond
  have hlocks : u.locks = fun _ => none := by
    rw [happlied'.locks, happlied.locks]
    rfl
  -- The two applications, one after the other,
  let M₁ : Activations := ⟨t, [⟨.apply 1 readyToken readyArguments bareConfig, .done (.ok 0), false⟩]⟩
  let M₂ : Activations :=
    ⟨u, M₁.processes ++ [⟨.apply 3 secondToken readyArguments bareConfig, .done (.ok 0), false⟩]⟩
  have hrun₁ : (scripts barePlatform none).Run (fun _ _ _ => True) ⟨readyHost freshTables, []⟩ _ M₁ :=
    run_apply (only_none _) rfl nofun hfirst
  have hfresh : t.records secondToken = none := by
    rw [happlied.otherRecords secondToken hne.symm]
    rfl
  have hown : ∀ p ∈ M₁.processes, p.request.isApply = true → p.request.token ≠ secondToken := by
    intro p hp _
    obtain rfl := List.mem_singleton.mp hp
    exact hne
  have hrun₂ : (scripts barePlatform none).Run (fun _ _ _ => True) M₁ _ M₂ :=
    run_apply (only_none _) hfresh hown hsecond
  -- and the confirmation of the second.
  have hfree : u.locks secondToken = none := by rw [hlocks]
  let M₃ : Activations := ⟨(confirmed barePlatform secondToken (captured t secondToken bareConfig)
    (u.locked secondToken 2)).unlocked secondToken,
    M₂.processes ++ [⟨.confirm secondToken, .done (.ok 0), false⟩]⟩
  have hrun₃ : (scripts barePlatform none).Run (fun _ _ _ => True) M₂ _ M₃ :=
    run_confirm (only_none _) (by decide +kernel) happlied'.root happlied'.record rfl hfree
  refine ⟨_, M₃, (hrun₁.append hrun₂).append hrun₃, rfl, rfl, happlied'.root, ?_, ?_, ?_,
    happlied'.forwarding⟩
  · show Function.update u.timers secondToken false readyToken = true
    rw [Function.update_of_ne hne, happlied'.otherTimers readyToken hne, happlied.timer]
  · show Function.update u.records secondToken
      (some { captured t secondToken bareConfig with status := .confirmed }) readyToken =
        some (captured (readyHost freshTables) readyToken bareConfig)
    rw [Function.update_of_ne hne, happlied'.otherRecords readyToken hne, happlied.record]
  · show Function.update (Function.update u.locks secondToken (some 2)) secondToken none readyToken =
      none
    rw [Function.update_of_ne hne, Function.update_of_ne hne, hlocks]

/-- The rollback of the first activation, started by its timer. -/
theorem first_undone : ∃ (events events' : List Activity) (M M' : Activations),
    (scripts barePlatform none).Run (fun _ _ _ => True) ⟨readyHost freshTables, []⟩ events M ∧
    M.processes[2]? = some ⟨.confirm secondToken, .done (.ok 0), false⟩ ∧
    M.shared.timers readyToken = true ∧ M.shared.ipForward = "1" ∧
    (scripts barePlatform none).Run (fun _ _ _ => True) M events' M' ∧
    M'.processes = M.processes ++ [⟨.rollback readyToken false true, .done (.ok 0), false⟩] ∧
    M'.shared.ipForward = "0" ∧
    ∃ (c : HostCall) (reply : Except ScriptError c.Reply), .call M.processes.length c reply ∈ events' ∧
      c.ChangesLive := by
  obtain ⟨events, M, hrun, -, hconfirmed, hroot, htimer, hrecord, hfree, hforward⟩ :=
    second_confirmed
  let s : Host := { M.shared with timers := Function.update M.shared.timers readyToken false }
  let record := captured (readyHost freshTables) readyToken bareConfig
  let t : Host := (restored barePlatform readyToken record
    (s.locked readyToken M.processes.length)).unlocked readyToken
  have hstarts : Starts M (.rollback readyToken false true) s := .inr ⟨rfl, rfl, htimer, rfl⟩
  have hundone : t.ipForward = "0" :=
    restored_forwarding barePlatform readyToken record (s.locked readyToken M.processes.length)
  have hruns : Runs barePlatform M.processes.length (rollback readyToken false true) s 0 t :=
    runs_rollback true hroot hrecord (.inl rfl)
  have hchanged : ((rollback readyToken false true).exec (barePlatform.handler M.processes.length)
      s).state.ipForward ≠ s.ipForward := by
    rw [hruns.2, hundone, show s.ipForward = "1" from hforward]
    decide
  obtain ⟨x, hx, hlive⟩ := exists_changesLive hchanged
  refine ⟨events, _, M, ⟨t, M.processes ++ [⟨.rollback readyToken false true, .done (.ok 0), false⟩]⟩,
    hrun, hconfirmed, htimer, hforward, run_rollback (only_none _) hstarts hroot hrecord rfl hfree, rfl,
    hundone, x.call, x.reply, ?_, hlive⟩
  exact List.mem_cons_of_mem _ (List.mem_map.mpr ⟨x, hx, rfl⟩)

/-- **The timer of the first activation undoes what was confirmed of the second.** -/
theorem confirmed_undone :
    ∃ (events events' : List Activity) (M M' : Activations),
      (scripts barePlatform none).Run (fun _ _ _ => True) ⟨readyHost freshTables, []⟩ events M ∧
      M.processes[2]? = some ⟨.confirm secondToken, .done (.ok 0), false⟩ ∧
      M.shared.timers readyToken = true ∧
      (scripts barePlatform none).Run (fun _ _ _ => True) M events' M' ∧
      M'.processes = M.processes ++ [⟨.rollback readyToken false true, .done (.ok 0), false⟩] ∧
      M.shared.ipForward = "1" ∧ M'.shared.ipForward = "0" := by
  obtain ⟨events, events', M, M', hrun, hconfirmed, htimer, hforward, hrun', hprocesses, hundone, -⟩ :=
    first_undone
  exact ⟨events, events', M, M', hrun, hconfirmed, htimer, hrun', hprocesses, hforward, hundone⟩

/-- The call with which it does so. -/
theorem undone_by_pending_second : ∃ (c : HostCall) (M : Activations) (record : Record),
    M.processes[2]? = some ⟨.confirm secondToken, .done (.ok 0), false⟩ ∧ c.ChangesLive ∧
    M.shared.records readyToken = some record ∧ record.status = .pending ∧
    ∃ command ∈ record.liveCommands, c = .command command := by
  obtain ⟨events, events', M, M', hrun, hconfirmed, -, -, hrun', hprocesses, -, c, reply, hx, hc⟩ :=
    first_undone
  obtain ⟨events₁, events₂, N, N', hbefore, hstep, hafter⟩ := hrun'.split hx
  have hstep' := hstep
  have hdone : N.processes[2]? = some ⟨.confirm secondToken, .done (.ok 0), false⟩ :=
    hbefore.ended hconfirmed
  cases hstep with
  | call _ r _ next _ s' hi hanswers =>
    -- The process that makes the call is the rollback.
    have hr : r = .rollback readyToken false true := by
      obtain ⟨q, hq, hrequest⟩ := hstep'.kept hi
      obtain ⟨q', hq', hrequest'⟩ := hafter.kept hq
      rw [hprocesses, List.getElem?_append_right le_rfl, Nat.sub_self] at hq'
      obtain rfl := Option.some.inj hq'
      exact (hrequest'.trans hrequest).symm
    subst hr
    obtain ⟨-, record, hrecord, hpending, hcommand⟩ := undone_by_pending barePlatform
      (recorded_readyHost freshTables) (hrun.append hbefore) hdone hi hstep' hc
    exact ⟨c, N, record, hdone, hc, hrecord, hpending, hcommand⟩

end Activation

end Snarkypuss
