import Snarkypuss.Activation.Firewall

/-!
# What a rollback restores

When every command does what it is asked, a rollback undoes an application as far as what the
application captured and restores goes: a table that it brought into existence stays, and so does
a tunnel that the DNS service started with it.

## Main definitions

* `captured`: the record that an application writes
* `Applied`: the host after an application, in terms of the host before it
* `Restorable`: the condition under which a rollback restores the live state

## Main results

* `apply_runs`, `apply_returns`: what an application leaves, and when it returns
* `runs_rollback`, `runs_confirm`: what a rollback and a confirmation leave
* `rollback_restores`: exactly when a rollback restores the live state, and a forced one after a
  confirmation the persistent rules
-/

namespace Snarkypuss

namespace Activation

open Netfilter

variable {platform : Platform} {process : ℕ} {s s' : Host}

/-! ## Single steps -/

section Steps

variable {A : Type} {a : A}

theorem runs_call_bind {c : HostCall} {r : c.Reply} {f : c.Reply → Script A}
    (h : (platform.handler process c s).1 = .ok r) :
    Runs platform process ((call c).bind f) s a s' ↔
      Runs platform process (f r) (platform.handler process c s).2 a s' := by
  unfold Runs
  rw [Program.returns_bind_iff]
  constructor
  · rintro ⟨r', t, hcall, hf⟩
    obtain ⟨rfl, rfl⟩ := Program.Returns.unique hcall ⟨h, rfl⟩
    exact hf
  · exact fun hf => ⟨r, _, ⟨h, rfl⟩, hf⟩

theorem runs_require_bind {b : Bool} {message : String} {f : Unit → Script A} :
    Runs platform process ((require b message).bind f) s a s' ↔
      b = true ∧ Runs platform process (f ()) s a s' := by
  cases b with
  | false =>
    constructor
    · rintro ⟨h, -⟩
      cases h
    · rintro ⟨h, -⟩
      cases h
  | true => exact ⟨fun h => ⟨rfl, h⟩, fun h => h.2⟩

theorem runs_unchecked_bind {c : Command} {f : Bool → Script A} :
    Runs platform process ((runUnchecked c).bind f) s a s' ↔
      Runs platform process (f (c.run platform s).1) (c.run platform s).2 a s' := by
  unfold Runs
  rw [Program.returns_bind_iff]
  constructor
  · rintro ⟨b, t, hc, hf⟩
    obtain ⟨rfl, rfl⟩ := hc.unique (runs_unchecked platform process s c)
    exact hf
  · exact fun hf => ⟨_, _, runs_unchecked platform process s c, hf⟩

theorem runs_run_bind {c : Command} {f : Unit → Script A} :
    Runs platform process ((run c).bind f) s a s' ↔
      (c.run platform s).1 = true ∧ Runs platform process (f ()) (c.run platform s).2 a s' := by
  rw [run, Program.bind_eq, Program.bind_assoc, runs_unchecked_bind, runs_require_bind]

theorem runs_run_iff {c : Command} : Runs platform process (run c) s () s' ↔
    (c.run platform s).1 = true ∧ (c.run platform s).2 = s' := by
  rw [← Program.bind_pure (run c), runs_run_bind]
  exact Iff.and Iff.rfl ⟨fun h => h.2, fun h => ⟨rfl, h⟩⟩

theorem runs_geteuid_bind {f : ℕ → Script A} :
    Runs platform process ((call .geteuid).bind f) s a s' ↔
      Runs platform process (f s.euid) s a s' := runs_call_bind rfl

theorem runs_isFile_bind {path : String} {f : Bool → Script A} :
    Runs platform process ((call (.isFile path)).bind f) s a s' ↔
      Runs platform process (f (s.files path).isSome) s a s' :=
  runs_call_bind rfl

/-- The state of a service, as it is captured. -/
def capturedService (s : Host) (unit : String) : CapturedService :=
  ⟨unit, (s.services unit).active, (s.services unit).enabled⟩

theorem runs_serviceState_bind {unit : String} {f : CapturedService → Script A} :
    Runs platform process ((serviceState unit).bind f) s a s' ↔
      Runs platform process (f (capturedService s unit)) s a s' := by
  rw [serviceState, Program.bind_eq, Program.bind_assoc, runs_unchecked_bind, Program.bind_eq,
    Program.bind_assoc, runs_unchecked_bind]
  rfl

theorem runs_iptablesSave_bind {f : Tables → Script A} :
    Runs platform process ((output (call .iptablesSave)).bind f) s a s' ↔
      Runs platform process (f s.tables) s a s' := Iff.rfl

theorem runs_sysctlRead_bind {f : String → Script A} :
    Runs platform process ((output (call .sysctlRead)).bind f) s a s' ↔
      Runs platform process (f s.ipForward) s a s' := Iff.rfl

theorem runs_readText_bind {path text : String} (h : s.files path = some text)
    {f : String → Script A} : Runs platform process ((call (.readText path)).bind f) s a s' ↔
      Runs platform process (f (universalNewlines text)) s a s' := by
  have hreads : platform.handler process (.readText path) s = (.ok (universalNewlines text), s) := by
    simp only [Platform.handler, h]
  have hcall : Runs platform process ((call (.readText path)).bind f) s a s' ↔
      Runs platform process (f (universalNewlines text))
        (platform.handler process (.readText path) s).2 a s' :=
    runs_call_bind (congrArg Prod.fst hreads)
  rw [hreads] at hcall
  exact hcall

end Steps

/-! ## What an application captures -/

/-- The record that an application of a host writes. -/
def captured (s : Host) (token : Token) (config : ActivationConfig) : Record where
  token := token
  status := .pending
  iptablesSave := s.tables
  ipForward := s.ipForward
  services := [capturedService s (wgQuickService config.tunnelInterface),
    capturedService s dnsService, capturedService s legacyDnsService]
  persistentRulesPath := persistentRulesPath
  persistentRulesExisted := (s.files persistentRulesPath).isSome
  persistentRules := ((s.files persistentRulesPath).map universalNewlines).getD ""

/-- The checks of an application change nothing. -/
theorem checkApply_runs {arguments : Arguments} {config : ActivationConfig}
    (h : Runs platform process (checkApply arguments config) s () s') : s' = s ∧ s.euid = 0 := by
  rw [checkApply, Program.bind_eq, runs_geteuid_bind, Program.bind_eq, runs_require_bind] at h
  obtain ⟨hroot, h⟩ := h
  simp only [Program.bind_eq] at h
  rw [runs_require_bind, runs_require_bind, runs_require_bind, runs_isFile_bind, runs_require_bind,
    runs_isFile_bind, runs_require_bind, runs_isFile_bind, runs_require_bind, runs_run_bind,
    runs_run_bind] at h
  obtain ⟨-, -, -, -, -, -, -, -, h⟩ := h
  exact ⟨h.2.symm, of_decide_eq_true hroot⟩

/-- What is captured is what the host is. -/
theorem runs_capture (hscript : (s.files rollbackScript).isSome) (token : Token)
    (config : ActivationConfig) :
    Runs platform process (capture token config (capturedService s legacyDnsService)) s
      (captured s token config) s := by
  rw [capture, Program.bind_eq, runs_isFile_bind, Program.bind_eq, runs_require_bind]
  refine ⟨hscript, ?_⟩
  simp only [Program.bind_eq]
  rw [runs_isFile_bind]
  cases hrules : s.files persistentRulesPath with
  | none =>
    simp only [Option.isSome_none, Bool.false_eq_true, if_false, Program.pure_eq,
      Program.done_ok_bind]
    rw [runs_serviceState_bind, runs_serviceState_bind, runs_iptablesSave_bind,
      runs_sysctlRead_bind, runs_isFile_bind]
    refine ⟨congrArg Except.ok ?_, rfl⟩
    simp [captured, hrules]
  | some text =>
    simp only [Option.isSome_some, if_true]
    rw [runs_readText_bind hrules, runs_serviceState_bind, runs_serviceState_bind,
      runs_iptablesSave_bind, runs_sysctlRead_bind, runs_isFile_bind]
    refine ⟨congrArg Except.ok ?_, rfl⟩
    simp [captured, hrules]

/-! ## What an application leaves -/

section Frame

variable {allowed : HostCall → Prop}

theorem uses_runUnchecked {c : Command} (hc : allowed (.command c)) :
    (runUnchecked c).Uses allowed := by
  refine Program.Uses.bind (((Program.uses_call _).mpr hc).attempt fileNotFound?) fun r => ?_
  cases r <;> trivial

theorem uses_require (b : Bool) (message : String) : (require b message).Uses allowed := by
  cases b <;> trivial

theorem uses_run {c : Command} (hc : allowed (.command c)) : (run c).Uses allowed :=
  (uses_runUnchecked hc).bind fun _ => uses_require _ _

theorem uses_removeJumps {table : TableName} (parent chain : String)
    (htable : ∀ command, allowed (.command (.iptables table command))) (fuel : ℕ) :
    (removeJumps table parent chain fuel).Uses allowed := by
  induction fuel with
  | zero => trivial
  | succ fuel ih =>
    refine (uses_runUnchecked (htable _)).bind fun b => ?_
    cases b with
    | true => exact (uses_run (htable _)).bind fun _ => ih
    | false => trivial

theorem uses_removeOwnedChain {table : TableName} (parent chain : String)
    (htable : ∀ command, allowed (.command (.iptables table command))) (fuel : ℕ) :
    (removeOwnedChain table parent chain fuel).Uses allowed :=
  (uses_removeJumps parent chain htable fuel).bind fun _ =>
    (uses_runUnchecked (htable _)).bind fun _ => (uses_runUnchecked (htable _)).bind fun _ => trivial

theorem uses_appendRules {table : TableName} (chain : String)
    (htable : ∀ command, allowed (.command (.iptables table command))) (rules : List Rule) :
    (appendRules table chain rules).Uses allowed := by
  induction rules with
  | nil => trivial
  | cons rule rules ih => exact (uses_run (htable _)).bind fun _ => ih

theorem uses_createOwnedChain {table : TableName} (parent chain : String) (rules : List Rule)
    (htable : ∀ command, allowed (.command (.iptables table command))) :
    (createOwnedChain table parent chain rules).Uses allowed :=
  (uses_run (htable _)).bind fun _ =>
    (uses_appendRules chain htable rules).bind fun _ => uses_run (htable _)

theorem uses_applyFirewall (fuel : ℕ) (config : ActivationConfig)
    (hfilter : ∀ command, allowed (.command (.iptables .filter command)))
    (hnat : ∀ command, allowed (.command (.iptables .nat command))) :
    (applyFirewall fuel config).Uses allowed := by
  refine Program.Uses.bind ?_ fun _ => (uses_createOwnedChain _ _ _ hfilter).bind fun _ =>
    uses_createOwnedChain _ _ _ hnat
  exact (uses_removeOwnedChain _ _ hfilter fuel).bind fun _ => uses_removeOwnedChain _ _ hnat fuel

end Frame

/-- The commands of `apply_firewall`. -/
def FirewallCall (c : HostCall) : Prop :=
  ∃ command, c = .command (.iptables .filter command) ∨ c = .command (.iptables .nat command)

/-- A host that differs from another in nothing but the tables that `apply_firewall` uses. -/
structure FirewallOnly (s t : Host) : Prop where
  rest : t = { s with tables := t.tables }
  others : ∀ name, name ≠ .filter → name ≠ .nat → t.tables name = s.tables name

/-- A command uses its table and no other. -/
theorem execute_of_ne (tables : Tables) {name name' : TableName} (command : Netfilter.Command)
    (h : name' ≠ name) : (tables.execute name command).2 name' = tables name' := by
  unfold Tables.execute
  split <;> exact Tables.put_of_ne _ h _

/-- The table that a command uses exists after it. -/
theorem execute_isSome (tables : Tables) (name : TableName) (command : Netfilter.Command) :
    ((tables.execute name command).2 name).isSome := by
  unfold Tables.execute
  split <;> simp

/-- No command makes a table disappear. -/
theorem execute_keeps (tables : Tables) (name name' : TableName) (command : Netfilter.Command)
    (h : (tables name').isSome) : ((tables.execute name command).2 name').isSome := by
  by_cases hname : name' = name
  · subst hname
    exact execute_isSome tables name' command
  · rw [execute_of_ne tables command hname]
    exact h

theorem firewallOnly_of_runs {fuel : ℕ} {config : ActivationConfig}
    (h : Runs platform process (applyFirewall fuel config) s () s') : FirewallOnly s s' := by
  have huses : (applyFirewall fuel config).Uses FirewallCall := uses_applyFirewall fuel config
    (fun command => ⟨command, .inl rfl⟩) fun command => ⟨command, .inr rfl⟩
  have hkeeps := (huses.exec_invariant (h := platform.handler process) (K := FirewallOnly s) ?_
    ⟨rfl, fun _ _ _ => rfl⟩).1
  · rw [h.2] at hkeeps
    exact hkeeps
  rintro c t ⟨command, rfl | rfl⟩ ⟨hrest, hothers⟩
  · refine ⟨?_, fun name hfilter hnat => ?_⟩
    · show ({ t with tables := _ } : Host) = _
      rw [hrest]
      rfl
    · exact (execute_of_ne t.tables command hfilter).trans (hothers name hfilter hnat)
  · refine ⟨?_, fun name hfilter hnat => ?_⟩
    · show ({ t with tables := _ } : Host) = _
      rw [hrest]
      rfl
    · exact (execute_of_ne t.tables command hnat).trans (hothers name hfilter hnat)

/-- A table that exists stays while the firewall is applied. -/
theorem exists_of_uses {A : Type} {p : Script A} {a : A} {name : TableName}
    (huses : p.Uses FirewallCall) (hname : (s.tables name).isSome)
    (h : Runs platform process p s a s') : (s'.tables name).isSome := by
  have hkeeps := (huses.exec_invariant (h := platform.handler process)
    (K := fun t => (t.tables name).isSome) ?_ hname).1
  · rw [h.2] at hkeeps
    exact hkeeps
  rintro c t ⟨command, rfl | rfl⟩ ht <;> exact execute_keeps t.tables _ name command ht

/-- The table in which a chain is made anew exists afterwards. -/
theorem exists_of_createOwnedChain {name : TableName} (hname : name = .filter ∨ name = .nat)
    {parent chain : String} {rules : List Rule}
    (h : Runs platform process (createOwnedChain name parent chain rules) s () s') :
    (s'.tables name).isSome := by
  have hcall : ∀ command, FirewallCall (.command (.iptables name command)) := by
    intro command
    rcases hname with rfl | rfl
    · exact ⟨command, .inl rfl⟩
    · exact ⟨command, .inr rfl⟩
  rw [createOwnedChain, Program.bind_eq, runs_run_bind] at h
  have hrest : ((appendRules name chain rules).bind fun _ =>
      run (.iptables name (.insertFirst parent (.jumpTo chain)))).Uses FirewallCall :=
    (uses_appendRules chain hcall rules).bind fun _ => uses_run (hcall _)
  exact exists_of_uses hrest (execute_isSome s.tables name _) h.2

/-- Both tables exist after `apply_firewall`. -/
theorem exists_of_applyFirewall {fuel : ℕ} {config : ActivationConfig}
    (h : Runs platform process (applyFirewall fuel config) s () s') :
    (s'.tables .filter).isSome ∧ (s'.tables .nat).isSome := by
  unfold Runs at h
  rw [applyFirewall, Program.bind_eq, Program.returns_bind_iff] at h
  obtain ⟨_, t, -, h⟩ := h
  rw [Program.bind_eq, Program.returns_bind_iff] at h
  obtain ⟨_, t', hfilter, hnat⟩ := h
  refine ⟨?_, exists_of_createOwnedChain (.inr rfl) hnat⟩
  refine exists_of_uses ?_ (exists_of_createOwnedChain (.inl rfl) hfilter) hnat
  exact uses_createOwnedChain _ _ _ fun command => ⟨command, .inr rfl⟩

/-- The units whose state an application captures. -/
def captureUnits (config : ActivationConfig) : List String :=
  [wgQuickService config.tunnelInterface, dnsService, legacyDnsService]

/-- The host after an application, in terms of the host before it. -/
structure Applied (platform : Platform) (token : Token) (config : ActivationConfig) (s t : Host) :
    Prop where
  root : t.euid = 0
  record : t.records token = some (captured s token config)
  timer : t.timers token = true
  files : t.files = s.files
  locks : t.locks = s.locks
  forwarding : t.ipForward = "1"
  filter : (t.tables .filter).isSome
  nat : (t.tables .nat).isSome
  others : ∀ name, name ≠ .filter → name ≠ .nat → t.tables name = s.tables name
  enabled : ∀ unit, unit ∉ captureUnits config →
    (t.services unit).enabled = (s.services unit).enabled
  active : ∀ unit, unit ∉ captureUnits config → unit ≠ wgQuickService platform.dnsTunnel →
    (t.services unit).active = (s.services unit).active
  dnsTunnel : (t.services (wgQuickService platform.dnsTunnel)).active = true
  otherRecords : ∀ token', token' ≠ token → t.records token' = s.records token'
  otherTimers : ∀ token', token' ≠ token → t.timers token' = s.timers token'

theorem wgQuickService_ne (tunnel : String) :
    wgQuickService tunnel ≠ dnsService ∧ wgQuickService tunnel ≠ legacyDnsService := by
  have hw : (wgQuickService tunnel).toList.head? = some 'w' := by
    rw [wgQuickService, String.toList_append, String.toList_append]
    rfl
  constructor
  · intro h
    rw [h] at hw
    exact absurd hw (by decide)
  · intro h
    rw [h] at hw
    exact absurd hw (by decide)

theorem wgQuickService_inj {tunnel tunnel' : String} :
    wgQuickService tunnel = wgQuickService tunnel' ↔ tunnel = tunnel' := by
  constructor
  · intro h
    have hlists := congrArg String.toList h
    simp only [wgQuickService, String.toList_append] at hlists
    exact String.toList_injective (List.append_cancel_left (List.append_cancel_right hlists))
  · rintro rfl
    rfl

/-- The host after the services of an application were enabled and started. -/
def withServices (platform : Platform) (config : ActivationConfig) (disabled : Bool) (s : Host) :
    Host :=
  let wireguard := (s.systemctl platform (wgQuickService config.tunnelInterface) .enableNow).2
  let legacy :=
    if disabled then (wireguard.systemctl platform legacyDnsService .disableNow).2 else wireguard
  (legacy.systemctl platform dnsService .enableNow).2

section Services

variable (platform : Platform) (config : ActivationConfig) (disabled : Bool) (s : Host)

theorem startUnit_rest (unit : String) : s.startUnit platform unit =
    { s with services := (s.startUnit platform unit).services } := by
  unfold Host.startUnit
  split <;> rfl

theorem stopUnit_rest (unit : String) : s.stopUnit platform unit =
    { s with services := (s.stopUnit platform unit).services } := by
  unfold Host.stopUnit
  split <;> rfl

/-- Nothing but services is changed. -/
theorem withServices_rest : withServices platform config disabled s =
    { s with services := (withServices platform config disabled s).services } := by
  cases disabled with
  | false =>
    simp only [withServices, Host.systemctl, Bool.false_eq_true, if_false]
    rw [startUnit_rest, startUnit_rest platform (s.setEnabled _ true)]
    rfl
  | true =>
    simp only [withServices, Host.systemctl, if_true]
    rw [startUnit_rest, stopUnit_rest, startUnit_rest platform (s.setEnabled _ true)]
    rfl

theorem withServices_enabled {unit : String} (h : unit ∉ captureUnits config) :
    ((withServices platform config disabled s).services unit).enabled =
      (s.services unit).enabled := by
  simp only [captureUnits, List.mem_cons, List.not_mem_nil, or_false, not_or] at h
  cases disabled <;> simp [withServices, Host.systemctl, h]

theorem withServices_active {unit : String} (h : unit ∉ captureUnits config)
    (htunnel : unit ≠ wgQuickService platform.dnsTunnel) :
    ((withServices platform config disabled s).services unit).active =
      (s.services unit).active := by
  simp only [captureUnits, List.mem_cons, List.not_mem_nil, or_false, not_or] at h
  cases disabled <;>
    simp [withServices, Host.systemctl, Host.active_startUnit, Host.active_stopUnit, h, htunnel]

/-- The tunnel of the DNS service was started with it. -/
theorem withServices_dnsTunnel : ((withServices platform config disabled s).services
    (wgQuickService platform.dnsTunnel)).active = true := by
  simp [withServices, Host.systemctl, Host.active_startUnit]

end Services

theorem runs_isAny_bind {A : Type} {a : A} (paths : List String) {f : Bool → Script A} :
    Runs platform process ((anyIsFile paths).bind f) s a s' ↔
      Runs platform process (f (paths.any fun path => (s.files path).isSome)) s a s' := by
  induction paths with
  | nil => rfl
  | cons path paths ih =>
    rw [anyIsFile, Program.bind_eq, Program.bind_assoc, runs_isFile_bind, List.any_cons]
    cases (s.files path).isSome with
    | true => rfl
    | false =>
      simp only [Bool.false_eq_true, if_false, Bool.false_or]
      exact ih

/-- The `try` block of an application, when it ends without an exception. -/
theorem activate_runs {fuel : ℕ} {config : ActivationConfig} {legacyOwned : Bool}
    {legacyDns : CapturedService}
    (h : Runs platform process (activate fuel config legacyOwned legacyDns) s () s') :
    ∃ t disabled, FirewallOnly s t ∧ (t.tables .filter).isSome ∧ (t.tables .nat).isSome ∧
      s' = withServices platform config disabled { t with ipForward := "1" } := by
  unfold Runs at h
  rw [activate, Program.bind_eq, Program.returns_bind_iff] at h
  obtain ⟨_, t, hfirewall, h⟩ := h
  simp only [Program.bind_eq] at h
  rw [← Runs, runs_run_bind, runs_run_bind, runs_run_bind] at h
  obtain ⟨-, -, -, h⟩ := h
  obtain ⟨hfilter, hnat⟩ := exists_of_applyFirewall hfirewall
  refine ⟨t, legacyOwned && (legacyDns.active || legacyDns.enabled),
    firewallOnly_of_runs hfirewall, hfilter, hnat, ?_⟩
  cases hdisabled : legacyOwned && (legacyDns.active || legacyDns.enabled) with
  | false =>
    rw [hdisabled, if_neg Bool.false_ne_true, runs_run_iff] at h
    exact h.2.symm
  | true =>
    rw [hdisabled, if_pos rfl, runs_run_bind, runs_run_iff] at h
    exact h.2.2.symm

/-- **What an application leaves**, when it returns and every command does what it is asked. -/
theorem apply_runs {fuel : ℕ} {token : Token} {arguments : Arguments} {config : ActivationConfig}
    {status : ℕ} (h : Runs platform process (apply fuel token arguments config) s status s') :
    Applied platform token config s s' := by
  unfold Runs at h
  rw [apply, Program.bind_eq, Program.returns_bind_iff] at h
  obtain ⟨_, t, hcheck, h⟩ := h
  obtain ⟨rfl, hroot⟩ := checkApply_runs hcheck
  rw [← Runs, Program.bind_eq, runs_serviceState_bind, Program.bind_eq, legacyDnsOwnedBySnarkypuss,
    runs_isAny_bind, Program.bind_eq, runs_require_bind] at h
  obtain ⟨-, h⟩ := h
  unfold Runs at h
  rw [Program.bind_eq, Program.returns_bind_iff] at h
  obtain ⟨state, t', hcapture, h⟩ := h
  have hscript : (t.files rollbackScript).isSome := by
    rw [← Runs, capture, Program.bind_eq, runs_isFile_bind, Program.bind_eq, runs_require_bind]
      at hcapture
    exact hcapture.1
  obtain ⟨rfl, rfl⟩ := hcapture.unique (runs_capture hscript token config)
  rw [← Runs, activateRecorded, Program.bind_eq, runs_call_bind rfl, Program.bind_eq,
    runs_run_bind] at h
  obtain ⟨-, h⟩ := h
  unfold Runs at h
  rw [Program.bind_eq, Program.returns_bind_iff] at h
  obtain ⟨result, t', hactivate, h⟩ := h
  cases result with
  | error message =>
    have hraised := runs_unchecked_bind.mp h
    cases hraised.1
  | ok u =>
    rw [Program.returns_attempt_ok_iff] at hactivate
    obtain ⟨f, disabled, hfirewall, hfilter, hnat, rfl⟩ := activate_runs hactivate
    obtain rfl : withServices platform config disabled { f with ipForward := "1" } = s' := h.2
    have hrest := withServices_rest platform config disabled { f with ipForward := "1" }
    have hf := hfirewall.rest
    constructor
    · rw [hrest, hf]
      exact hroot
    · rw [hrest, hf]
      exact Function.update_self _ _ _
    · rw [hrest, hf]
      exact Function.update_self _ _ _
    · rw [hrest, hf]
      rfl
    · rw [hrest, hf]
      rfl
    · rw [hrest]
    · rw [hrest]
      exact hfilter
    · rw [hrest]
      exact hnat
    · intro name hname hname'
      rw [hrest]
      exact hfirewall.others name hname hname'
    · intro unit hunit
      rw [withServices_enabled platform config disabled _ hunit, hf]
      rfl
    · intro unit hunit htunnel
      rw [withServices_active platform config disabled _ hunit htunnel, hf]
      rfl
    · exact withServices_dnsTunnel platform config disabled _
    · intro token' hne
      rw [hrest, hf]
      exact Function.update_of_ne hne _ _
    · intro token' hne
      rw [hrest, hf]
      exact Function.update_of_ne hne _ _

/-! ## What a rollback leaves -/

/-- A process takes the lock of a record. -/
def Host.locked (s : Host) (token : Token) (process : ℕ) : Host :=
  { s with locks := Function.update s.locks token (some process) }

/-- The lock of a record is released. -/
def Host.unlocked (s : Host) (token : Token) : Host :=
  { s with locks := Function.update s.locks token none }

/-- A service put back as it was captured. -/
def restoredService (platform : Platform) (s : Host) (service : CapturedService) : Host :=
  if service.active then (s.setEnabled service.unit service.enabled).startUnit platform service.unit
  else (s.setEnabled service.unit service.enabled).stopUnit platform service.unit

/-- The host with the live state of a record. -/
def restoredLive (platform : Platform) (record : Record) (s : Host) : Host :=
  record.services.foldl (restoredService platform) { s with
    tables := s.tables.restore record.iptablesSave
    ipForward := record.ipForward }

/-- The persistent rules that a record captured. -/
def capturedRules (record : Record) : Option String :=
  if record.persistentRulesExisted then some record.persistentRules else none

/-- The host after the `try` block of a rollback. -/
def restored (platform : Platform) (token : Token) (record : Record) (s : Host) : Host :=
  let live := restoredLive platform record s
  { live with
    files := if record.status = .confirmed then
      Function.update live.files record.persistentRulesPath (capturedRules record) else live.files
    records := Function.update live.records token (some { record with status := .rolledBack })
    timers := Function.update live.timers record.token false }

/-- The host after the locked part of a confirmation. -/
def confirmed (platform : Platform) (token : Token) (record : Record) (s : Host) : Host :=
  { s with
    files := Function.update s.files persistentRulesPath (some (platform.printRules s.tables))
    records := Function.update s.records token (some { record with status := .confirmed })
    timers := Function.update s.timers token false }

section Rollback

variable {A : Type} {a : A} {token : Token} {record : Record}

theorem runs_rollbackRun_bind {c : Command} {f : Unit → Script A}
    (h : (c.run platform s).1 = true) :
    Runs platform process ((rollbackRun c).bind f) s a s' ↔
      Runs platform process (f ()) (c.run platform s).2 a s' := by
  rw [rollbackRun, Program.bind_eq, Program.bind_assoc, runs_call_bind rfl, h]
  rfl

theorem runs_restoreService (service : CapturedService) :
    Runs platform process (restoreService service) s () (restoredService platform s service) := by
  unfold restoreService restoredService
  cases service.active <;> cases service.enabled <;> exact ⟨rfl, rfl⟩

theorem runs_restoreServices (services : List CapturedService) :
    Runs platform process (restoreServices services) s ()
      (services.foldl (restoredService platform) s) := by
  induction services generalizing s with
  | nil => exact ⟨rfl, rfl⟩
  | cons service services ih => exact (runs_restoreService service).bind ih

theorem runs_restoreLive :
    Runs platform process (restoreLive record) s () (restoredLive platform record s) := by
  rw [restoreLive, Program.bind_eq, runs_rollbackRun_bind rfl, Program.bind_eq,
    runs_rollbackRun_bind rfl]
  exact runs_restoreServices record.services

theorem runs_restorePersistentRules :
    Runs platform process (restorePersistentRules record) s ()
      { s with files := Function.update s.files record.persistentRulesPath
                 (capturedRules record) } := by
  unfold restorePersistentRules capturedRules
  cases record.persistentRulesExisted <;> exact ⟨rfl, rfl⟩

theorem runs_restore :
    Runs platform process (restore token record) s 0 (restored platform token record s) := by
  refine runs_restoreLive.bind ?_
  by_cases h : record.status = .confirmed
  · rw [if_pos h]
    refine runs_restorePersistentRules.bind ⟨rfl, ?_⟩
    simp only [restored, h, if_true]
    rfl
  · rw [if_neg h]
    refine ⟨rfl, ?_⟩
    simp only [restored, h, if_false]
    rfl

theorem runs_readRecord (hrecord : s.records token = some record) :
    Runs platform process (call (.readRecord token)) s record s := by
  have hreads : platform.handler process (.readRecord token) s = (.ok record, s) := by
    simp only [Platform.handler, hrecord]
  exact ⟨congrArg Prod.fst hreads, congrArg Prod.snd hreads⟩

/-- **What a rollback leaves**, of a pending record or a confirmed one that is forced. -/
theorem runs_rollback {force : Bool} (automatic : Bool) (hroot : s.euid = 0)
    (hrecord : s.records token = some record)
    (hstatus : record.status = .pending ∨ record.status = .confirmed ∧ force = true) :
    Runs platform process (rollback token force automatic) s 0
      ((restored platform token record (s.locked token process)).unlocked token) := by
  have hrecorded : Runs platform process (rollbackRecord token force automatic record)
      (s.locked token process) 0 (restored platform token record (s.locked token process)) := by
    have hopen : record.status ≠ .rolledBack ∧
        ¬(decide (record.status = .confirmed) && !force) = true := by
      rcases hstatus with hpending | ⟨hconfirmed, hforce⟩
      · simp [hpending]
      · simp [hconfirmed, hforce]
    unfold rollbackRecord
    rw [if_neg hopen.1, if_neg hopen.2]
    exact (Program.returns_attempt_ok_iff.mpr runs_restore).bind ⟨rfl, rfl⟩
  have hread : Runs platform process (call (.readRecord token)) (s.locked token process) record
      (s.locked token process) := runs_readRecord hrecord
  have hlocked : Runs platform process (rollbackLocked token force automatic)
      (s.locked token process) 0 (restored platform token record (s.locked token process)) := by
    exact (Program.returns_attempt_ok_iff.mpr hread).bind hrecorded
  have hexists : (s.records token).isSome := by rw [hrecord]; rfl
  rw [rollback, Program.bind_eq, runs_geteuid_bind, if_neg (not_not.mpr hroot), Program.bind_eq,
    runs_call_bind rfl]
  show Runs platform process (if (!(s.records token).isSome) = true then _ else _) s 0 _
  rw [hexists, if_neg (by decide), Program.bind_eq, runs_call_bind rfl]
  exact hlocked.finally_ ⟨rfl, rfl⟩

/-- **What a confirmation leaves.** -/
theorem runs_confirm (htoken : isToken token = true) (hroot : s.euid = 0)
    (hrecord : s.records token = some record) (hstatus : record.status = .pending) :
    Runs platform process (confirm token) s 0
      ((confirmed platform token record (s.locked token process)).unlocked token) := by
  have hread : Runs platform process (call (.readRecord token)) (s.locked token process) record
      (s.locked token process) := runs_readRecord hrecord
  have hlocked : Runs platform process (confirmLocked token) (s.locked token process) 0
      (confirmed platform token record (s.locked token process)) := by
    refine hread.bind ?_
    rw [← Runs, Program.bind_eq, runs_require_bind, Program.bind_eq, runs_run_bind, Program.bind_eq,
      runs_unchecked_bind]
    exact ⟨decide_eq_true hstatus, rfl, rfl, rfl⟩
  have hexists : (s.records token).isSome := by rw [hrecord]; rfl
  rw [confirm, Program.bind_eq, runs_geteuid_bind, Program.bind_eq, runs_require_bind,
    Program.bind_eq, runs_require_bind, Program.bind_eq, runs_call_bind rfl]
  refine ⟨decide_eq_true hroot, htoken, ?_⟩
  show Runs platform process ((require (s.records token).isSome _).bind _) s 0 _
  rw [runs_require_bind, Program.bind_eq, runs_call_bind rfl]
  exact ⟨hexists, hlocked.finally_ ⟨rfl, rfl⟩⟩

end Rollback

/-! ## What is restored -/

section Services

variable (s : Host) (service : CapturedService) (unit : String)

theorem restoredService_rest : restoredService platform s service =
    { s with services := (restoredService platform s service).services } := by
  unfold restoredService
  cases service.active with
  | false =>
    rw [if_neg Bool.false_ne_true, stopUnit_rest]
    rfl
  | true =>
    rw [if_pos rfl, startUnit_rest]
    rfl

theorem restoredServices_rest (services : List CapturedService) :
    services.foldl (restoredService platform) s =
      { s with services := (services.foldl (restoredService platform) s).services } := by
  induction services generalizing s with
  | nil => rfl
  | cons service services ih =>
    rw [List.foldl_cons, ih, restoredService_rest]

theorem enabled_restoredService : ((restoredService platform s service).services unit).enabled =
    if unit = service.unit then service.enabled else (s.services unit).enabled := by
  unfold restoredService
  split <;> simp

theorem active_restoredService : ((restoredService platform s service).services unit).active =
    if unit = service.unit then service.active
    else if service.unit = dnsService ∧ unit = wgQuickService platform.dnsTunnel ∧ service.active then
      true
    else if service.unit = wgQuickService platform.dnsTunnel ∧ unit = dnsService ∧
        !service.active then false
    else (s.services unit).active := by
  unfold restoredService
  cases hactive : service.active <;> by_cases hunit : unit = service.unit <;>
    simp [Host.active_startUnit, Host.active_stopUnit, hunit]

end Services

/-- When a rollback restores the services: starting the DNS service starts its tunnel, and it is
only an activation of the same tunnel that captures whether it was active before. -/
def ServicesRestorable (platform : Platform) (config : ActivationConfig) (s : Host) : Prop :=
  (s.services (wgQuickService platform.dnsTunnel)).active = true ∨
    platform.dnsTunnel = config.tunnelInterface ∧ (s.services dnsService).active = false

/-- When a rollback restores the live state: the tables that an application uses existed, and the
services can be restored. -/
structure Restorable (platform : Platform) (config : ActivationConfig) (s : Host) : Prop where
  filter : (s.tables .filter).isSome
  nat : (s.tables .nat).isSome
  services : ServicesRestorable platform config s

section Restored

variable {token : Token} {config : ActivationConfig} {t u : Host}

/-- Whether the units are enabled is always restored. -/
theorem restored_enabled (happlied : Applied platform token config s t)
    (hu : u.services = t.services) (unit : String) :
    (((captured s token config).services.foldl (restoredService platform) u).services
      unit).enabled = (s.services unit).enabled := by
  simp only [captured, List.foldl_cons, List.foldl_nil, enabled_restoredService, capturedService]
  split
  · rename_i h
    rw [h]
  · rename_i hlegacy
    split
    · rename_i h
      rw [h]
    · rename_i hdns
      split
      · rename_i h
        rw [h]
      · rename_i htunnel
        rw [hu]
        exact happlied.enabled unit (by simp [captureUnits, htunnel, hdns, hlegacy])

/-- Whether a unit is active is restored, but for the tunnel of the DNS service. -/
theorem restored_active (happlied : Applied platform token config s t)
    (hu : u.services = t.services) {unit : String}
    (hunit : unit ≠ wgQuickService platform.dnsTunnel) :
    (((captured s token config).services.foldl (restoredService platform) u).services
      unit).active = (s.services unit).active := by
  have hne : dnsService ≠ legacyDnsService := by decide
  obtain ⟨hdns, hlegacy⟩ := wgQuickService_ne platform.dnsTunnel
  simp only [captured, List.foldl_cons, List.foldl_nil, active_restoredService, capturedService,
    hunit, hdns.symm, hlegacy.symm, false_and, and_false, if_false]
  by_cases hisLegacy : unit = legacyDnsService
  · rw [if_pos hisLegacy, hisLegacy]
  by_cases hisDns : unit = dnsService
  · rw [if_neg hisLegacy, if_pos hisDns, hisDns]
  by_cases hisTunnel : unit = wgQuickService config.tunnelInterface
  · rw [if_neg hisLegacy, if_neg hisDns, if_pos hisTunnel, hisTunnel]
  · simp only [hisLegacy, hisDns, hisTunnel, false_and, and_false, if_false, hu]
    exact happlied.active unit (by simp [captureUnits, hisLegacy, hisDns, hisTunnel]) hunit

/-- The tunnel of the DNS service is active after a rollback when it was captured to be, when the
DNS service was, and when nothing was captured of it. -/
theorem restored_dnsTunnel (happlied : Applied platform token config s t)
    (hu : u.services = t.services) :
    (((captured s token config).services.foldl (restoredService platform) u).services
      (wgQuickService platform.dnsTunnel)).active =
        ((s.services dnsService).active || (decide (platform.dnsTunnel ≠ config.tunnelInterface) ||
          (s.services (wgQuickService platform.dnsTunnel)).active)) := by
  have hne : legacyDnsService ≠ dnsService := by decide
  obtain ⟨hdns, hlegacy⟩ := wgQuickService_ne platform.dnsTunnel
  simp only [captured, List.foldl_cons, List.foldl_nil, active_restoredService, capturedService,
    hdns, hlegacy, hdns.symm, hlegacy.symm, hne, wgQuickService_ne, wgQuickService_inj, true_and,
    false_and, and_false, if_false, hu, happlied.dnsTunnel]
  by_cases hsame : platform.dnsTunnel = config.tunnelInterface
  · cases (s.services dnsService).active <;> simp [hsame]
  · simp [hsame]

theorem restored_services_iff (happlied : Applied platform token config s t)
    (hu : u.services = t.services) :
    ((captured s token config).services.foldl (restoredService platform) u).services = s.services ↔
      ServicesRestorable platform config s := by
  have htunnel := restored_dnsTunnel happlied hu
  constructor
  · intro h
    rw [h] at htunnel
    unfold ServicesRestorable
    revert htunnel
    cases (s.services (wgQuickService platform.dnsTunnel)).active <;>
      cases (s.services dnsService).active <;> simp
  · intro h
    funext unit
    have hstate : ∀ a b : UnitState, a.enabled = b.enabled → a.active = b.active → a = b := by
      rintro ⟨_, _⟩ ⟨_, _⟩ rfl rfl
      rfl
    refine hstate _ _ (restored_enabled happlied hu unit) ?_
    by_cases hunit : unit = wgQuickService platform.dnsTunnel
    · subst hunit
      rw [htunnel]
      rcases h with hactive | ⟨hsame, hinactive⟩
      · rw [hactive, Bool.or_true, Bool.or_true]
      · simp [hsame, hinactive]
    · exact restored_active happlied hu hunit

end Restored

/-- A rollback restores the tables that existed; a table that an application brought into
existence stays. -/
theorem restored_tables_iff {token : Token} {config : ActivationConfig} {t : Host}
    (happlied : Applied platform token config s t) :
    t.tables.restore s.tables = s.tables ↔
      (s.tables .filter).isSome ∧ (s.tables .nat).isSome := by
  rw [Tables.restore_eq_iff]
  constructor
  · intro h
    constructor
    · by_contra hnone
      have := h .filter (by simpa using hnone)
      have hfilter := happlied.filter
      rw [this] at hfilter
      cases hfilter
    · by_contra hnone
      have := h .nat (by simpa using hnone)
      have hnat := happlied.nat
      rw [this] at hnat
      cases hnat
  · rintro ⟨hfilter, hnat⟩ name hnone
    have hname : name ≠ .filter ∧ name ≠ .nat := by
      constructor
      · rintro rfl
        rw [hnone] at hfilter
        cases hfilter
      · rintro rfl
        rw [hnone] at hnat
        cases hnat
    rw [happlied.others name hname.1 hname.2, hnone]

theorem universalNewlinesChars_clean (cs : List Char) : '\r' ∉ universalNewlinesChars cs := by
  fun_induction universalNewlinesChars cs with
  | case1 cs ih => simpa using ih
  | case2 cs h ih => simpa using ih
  | case3 c cs h h' ih =>
    simp only [List.mem_cons, not_or]
    exact ⟨fun hc => h' hc.symm, ih⟩
  | case4 => exact List.not_mem_nil

/-- A text file is read as it is when no carriage return is in it. -/
theorem universalNewlines_eq_iff (text : String) :
    universalNewlines text = text ↔ '\r' ∉ text.toList := by
  constructor
  · intro h
    rw [← h, universalNewlines, String.toList_ofList]
    exact universalNewlinesChars_clean _
  · intro h
    have hchars : ∀ cs : List Char, '\r' ∉ cs → universalNewlinesChars cs = cs := by
      intro cs hcs
      fun_induction universalNewlinesChars cs with
      | case1 cs ih => exact absurd List.mem_cons_self hcs
      | case2 cs h ih => exact absurd List.mem_cons_self hcs
      | case3 c cs h h' ih => rw [ih fun hmem => hcs (List.mem_cons_of_mem _ hmem)]
      | case4 => rfl
    rw [universalNewlines, hchars _ h, String.ofList_toList]

/-! ## An application and its rollback -/

section Rollback

variable {token : Token} {arguments : Arguments} {config : ActivationConfig} {t : Host}

/-- What a rollback of an unconfirmed application leaves live. -/
theorem rollback_live_iff (happlied : Applied platform token config s t) (process : ℕ)
    (force automatic : Bool) :
    ∃ u, Runs platform process (rollback token force automatic) t 0 u ∧
      (u.live = s.live ↔ Restorable platform config s) := by
  refine ⟨_, runs_rollback automatic happlied.root happlied.record (.inl rfl), ?_⟩
  have hlive : ((restored platform token (captured s token config)
      (t.locked token process)).unlocked token).live =
      (restoredLive platform (captured s token config) (t.locked token process)).live := rfl
  rw [hlive, restoredLive, restoredServices_rest]
  have hservices := restored_services_iff (u := { t.locked token process with
    tables := t.tables.restore s.tables, ipForward := s.ipForward }) happlied rfl
  have htables := restored_tables_iff happlied
  constructor
  · intro h
    have hexisted := htables.mp (congrArg Live.tables h)
    exact ⟨hexisted.1, hexisted.2, hservices.mp (congrArg Live.services h)⟩
  · intro h
    have htables' : t.tables.restore s.tables = s.tables := htables.mpr ⟨h.filter, h.nat⟩
    have hservices' := hservices.mpr h.services
    show (⟨t.tables.restore s.tables, s.ipForward, _⟩ : Live) = ⟨s.tables, s.ipForward, s.services⟩
    rw [htables']
    exact congrArg _ hservices'

/-- A confirmed record has its persistent rules restored. -/
theorem restored_rules {record : Record} (hstatus : record.status = .confirmed)
    (hpath : record.persistentRulesPath = persistentRulesPath) :
    (restored platform token record s).files persistentRulesPath = capturedRules record := by
  rw [restored]
  simp only [hstatus, hpath, if_true, Function.update_self]

theorem restored_forwarding (platform : Platform) (token : Token) (record : Record) (s : Host) :
    (restored platform token record s).ipForward = record.ipForward := by
  show (restoredLive platform record s).ipForward = record.ipForward
  rw [restoredLive, restoredServices_rest]

/-- The rollback of a pending record leaves the files. -/
theorem restored_files {record : Record} (hstatus : record.status = .pending) :
    (restored platform token record s).files = s.files := by
  have hne : record.status ≠ .confirmed := by
    rw [hstatus]
    exact nofun
  show (if record.status = .confirmed then _ else (restoredLive platform record s).files) = _
  rw [if_neg hne, restoredLive, restoredServices_rest]

/-- What a forced rollback of a confirmed application leaves in the persistent rules. -/
theorem rollback_rules_iff (happlied : Applied platform token config s t)
    (htoken : isToken token = true) (process : ℕ) :
    ∃ u, Runs platform process (confirm token) t 0 u ∧ ∀ process' automatic,
      ∃ v, Runs platform process' (rollback token true automatic) u 0 v ∧
        (v.files persistentRulesPath = s.files persistentRulesPath ↔
          ∀ text, s.files persistentRulesPath = some text → '\r' ∉ text.toList) := by
  refine ⟨_, runs_confirm htoken happlied.root happlied.record rfl, fun process' automatic => ?_⟩
  have hrecord : (((confirmed platform token (captured s token config)
      (t.locked token process)).unlocked token).records token) =
      some { captured s token config with status := .confirmed } := Function.update_self _ _ _
  refine ⟨_, runs_rollback automatic happlied.root hrecord (.inr ⟨rfl, rfl⟩), ?_⟩
  have hrules : capturedRules { captured s token config with status := .confirmed } =
      (s.files persistentRulesPath).map universalNewlines := by
    unfold capturedRules captured
    cases s.files persistentRulesPath <;> rfl
  rw [Host.unlocked, restored_rules rfl rfl, hrules]
  cases s.files persistentRulesPath with
  | none => simp
  | some text => simp [universalNewlines_eq_iff]

end Rollback

/-- **What a rollback undoes.** After an application whose commands all did what they were asked,
a rollback restores the live state exactly when the tables that the application uses existed
before it and the services can be restored; and after a confirmation a forced rollback restores
the persistent rules exactly when there is no carriage return in them. -/
theorem rollback_restores (platform : Platform) (process process' : ℕ) {fuel : ℕ} {token : Token}
    (htoken : isToken token = true) {arguments : Arguments} {config : ActivationConfig} {s t : Host}
    (happly : Runs platform process (apply fuel token arguments config) s 0 t) :
    (∀ force automatic, ∃ u, Runs platform process' (rollback token force automatic) t 0 u ∧
      (u.live = s.live ↔ Restorable platform config s)) ∧
    ∃ u, Runs platform process' (confirm token) t 0 u ∧ ∀ process'' automatic,
      ∃ v, Runs platform process'' (rollback token true automatic) u 0 v ∧
        (v.files persistentRulesPath = s.files persistentRulesPath ↔
          ∀ text, s.files persistentRulesPath = some text → '\r' ∉ text.toList) := by
  have happlied := apply_runs happly
  exact ⟨fun force automatic => rollback_live_iff happlied process' force automatic,
    rollback_rules_iff happlied htoken process'⟩

/-! ### An application that returns -/

/-- The host passes the checks of an application. -/
structure Accepts (arguments : Arguments) (config : ActivationConfig) (s : Host) : Prop where
  root : s.euid = 0
  console : arguments.consoleConfirmed = true
  protection : arguments.providerLeakProtectionConfirmed = true
  delay : 30 ≤ arguments.rollbackAfter ∧ arguments.rollbackAfter ≤ 600
  wireguard : (s.files ("/etc/wireguard/" ++ config.tunnelInterface ++ ".conf")).isSome
  dns : (s.files dnsConfig).isSome
  dnsUnit : (s.files dnsUnit).isSome
  script : (s.files rollbackScript).isSome
  legacy : (s.services legacyDnsService).active = false ∧
    (s.services legacyDnsService).enabled = false

theorem services_enableNow (platform : Platform) (s : Host) {unit unit' : String}
    (hunit : unit' ≠ unit) (htunnel : unit' ≠ wgQuickService platform.dnsTunnel) :
    (s.systemctl platform unit .enableNow).2.services unit' = s.services unit' := by
  show (((s.setEnabled unit true).startUnit platform unit).services unit') = _
  unfold Host.startUnit
  split
  · simp [Host.setActive, Host.setEnabled, hunit, htunnel]
  · simp [Host.setActive, Host.setEnabled, hunit]

/-- The legacy DNS service is none of those that an application starts. -/
theorem withServices_legacy (platform : Platform) (config : ActivationConfig) (s : Host) :
    (withServices platform config false s).services legacyDnsService =
      s.services legacyDnsService := by
  have htunnel := (wgQuickService_ne config.tunnelInterface).2.symm
  have hrequired := (wgQuickService_ne platform.dnsTunnel).2.symm
  exact (services_enableNow platform _ (by decide) hrequired).trans
    (services_enableNow platform s htunnel hrequired)

/-- The `try` block ends without an exception, when nothing but plain jumps from their parents
names the owned chains. -/
theorem activate_returns (platform : Platform) (process : ℕ) (config : ActivationConfig)
    {fuel : ℕ} {legacyDns : CapturedService} (howned : OwnedOnly s.tables)
    (hfuel : ownedJumps s.tables < fuel)
    (hlegacy : legacyDns.active = false ∧ legacyDns.enabled = false) (legacyOwned : Bool) :
    ∃ t, Runs platform process (activate fuel config legacyOwned legacyDns) s () t ∧
      Installed config s.tables t.tables ∧ t.euid = s.euid ∧ t.files = s.files ∧
      t.services legacyDnsService = s.services legacyDnsService := by
  obtain ⟨tables, hfirewall, hinstalled⟩ :=
    runs_applyFirewall platform process s config howned hfuel
  have hrest := withServices_rest platform config false { s with tables := tables, ipForward := "1" }
  refine ⟨withServices platform config false { s with tables := tables, ipForward := "1" },
    hfirewall.bind ?_, ?_, ?_, ?_, withServices_legacy platform config _⟩
  · simp only [Program.bind_eq]
    rw [← Runs, runs_run_bind, runs_run_bind, runs_run_bind, hlegacy.1, hlegacy.2, Bool.or_self,
      Bool.and_false, if_neg Bool.false_ne_true, runs_run_iff]
    exact ⟨rfl, rfl, rfl, rfl, rfl⟩
  · rw [hrest]
    exact hinstalled
  · rw [hrest]
  · rw [hrest]

/-- An application of a host that passes the checks returns, and the host passes them again. -/
theorem apply_returns {arguments : Arguments} {config : ActivationConfig} {fuel : ℕ}
    (haccepts : Accepts arguments config s) (howned : OwnedOnly s.tables)
    (hfuel : ownedJumps s.tables < fuel) (token : Token) :
    ∃ t, Runs platform process (apply fuel token arguments config) s 0 t ∧
      Accepts arguments config t ∧ OwnedOnly t.tables ∧ ownedJumps t.tables = 2 := by
  have hcheck : Runs platform process (checkApply arguments config) s () s := by
    rw [checkApply, Program.bind_eq, runs_geteuid_bind, Program.bind_eq, runs_require_bind]
    simp only [Program.bind_eq]
    rw [runs_require_bind, runs_require_bind, runs_require_bind, runs_isFile_bind,
      runs_require_bind, runs_isFile_bind, runs_require_bind, runs_isFile_bind, runs_require_bind,
      runs_run_bind, runs_run_bind]
    exact ⟨decide_eq_true haccepts.root, haccepts.console, haccepts.protection,
      decide_eq_true haccepts.delay, haccepts.wireguard, haccepts.dns, haccepts.dnsUnit, rfl, rfl,
      rfl, rfl⟩
  have hlegacy : (capturedService s legacyDnsService).active = false ∧
      (capturedService s legacyDnsService).enabled = false := haccepts.legacy
  have hscheduled : OwnedOnly ({ s with
      records := Function.update s.records token (some (captured s token config))
      timers := Function.update s.timers token true } : Host).tables := howned
  obtain ⟨t, hactivate, hinstalled, heuid, hfiles, hservices⟩ :=
    activate_returns platform process config hscheduled hfuel hlegacy
      (legacyDnsMarkers.any fun path => (s.files path).isSome)
  have howns := hinstalled.owns hscheduled
  refine ⟨t, hcheck.bind ?_, ?_, ⟨howns.filter.references, howns.nat.references⟩, ?_⟩
  · rw [← Runs, Program.bind_eq, runs_serviceState_bind, Program.bind_eq,
      legacyDnsOwnedBySnarkypuss, runs_isAny_bind, Program.bind_eq, runs_require_bind]
    refine ⟨by simp [hlegacy], (runs_capture haccepts.script token config).bind ?_⟩
    rw [← Runs, activateRecorded, Program.bind_eq, runs_call_bind rfl, Program.bind_eq,
      runs_run_bind]
    exact ⟨rfl, (Program.returns_attempt_ok_iff.mpr hactivate).bind ⟨rfl, rfl⟩⟩
  · obtain ⟨hroot, hconsole, hprotection, hdelay, hwireguard, hdns, hunit, hscript, hoff⟩ := haccepts
    rw [← hservices] at hoff
    constructor <;> first | assumption | rw [hfiles]; assumption | rw [heuid]; assumption
  · rw [ownedJumps, howns.filter.once, howns.nat.once]

/-- A host on which an application passes its checks, with the tables `tables`. -/
def readyHost (tables : Tables) : Host :=
  { bareHost with
    tables := tables
    files := fun path =>
      if path ∈ ["/etc/wireguard/wg0.conf", dnsConfig, dnsUnit, rollbackScript] then some ""
      else none }

def readyArguments : Arguments := ⟨300, true, true⟩

def readyToken : Token := "0123456789abcdef"

theorem accepts_readyHost (tables : Tables) :
    Accepts readyArguments bareConfig (readyHost tables) := by
  have hfile : ∀ path ∈ ["/etc/wireguard/wg0.conf", dnsConfig, dnsUnit, rollbackScript],
      ((readyHost tables).files path).isSome := by
    intro path hpath
    show (if path ∈ _ then some "" else none : Option String).isSome
    rw [if_pos hpath]
    rfl
  exact ⟨rfl, rfl, rfl, by decide, hfile _ (by decide), hfile _ (by decide), hfile _ (by decide),
    hfile _ (by decide), rfl, rfl⟩

/-- The tables that exist before anything but the filter table was used. -/
def filterOnly : Tables := Tables.put (fun _ => none) (.initial .filter)

/-- The tables `filter` and `nat`, as they come into existence. -/
def freshTables : Tables := filterOnly.put (.initial .nat)

theorem ownedOnly_fresh {tables : Tables} (hfilter : tables.use .filter = .initial .filter)
    (hnat : tables.use .nat = .initial .nat) : OwnedOnly tables := by
  refine ⟨?_, ?_⟩
  · rw [hfilter]
    exact ownedOnly_bareHost.1
  · rw [hnat]
    exact ownedOnly_bareHost.2

theorem ownedJumps_fresh {tables : Tables} (hfilter : tables.use .filter = .initial .filter)
    (hnat : tables.use .nat = .initial .nat) : ownedJumps tables = 0 := by
  rw [ownedJumps, hfilter, hnat]
  decide

/-- An application of the ready host. -/
theorem apply_ready (process : ℕ) :
    ∃ t, Runs barePlatform process (apply 1 readyToken readyArguments bareConfig)
        (readyHost freshTables) 0 t ∧
      Accepts readyArguments bareConfig t ∧ OwnedOnly t.tables ∧ ownedJumps t.tables = 2 := by
  have hfilter : freshTables.use .filter = .initial .filter :=
    filterOnly.use_put_of_ne (by decide) _
  have hnat : freshTables.use .nat = .initial .nat := filterOnly.use_put _
  have hjumps : ownedJumps (readyHost freshTables).tables < 1 := by
    rw [show (readyHost freshTables).tables = freshTables from rfl, ownedJumps_fresh hfilter hnat]
    decide
  exact apply_returns (accepts_readyHost _) (ownedOnly_fresh hfilter hnat) hjumps readyToken

theorem rollback_restores_ready :
    ∃ t, Runs barePlatform 1 (apply 1 readyToken readyArguments bareConfig)
        (readyHost freshTables) 0 t ∧
      (∃ u, Runs barePlatform 2 (rollback readyToken false true) t 0 u ∧
        u.live = (readyHost freshTables).live) ∧
      ∃ u v, Runs barePlatform 2 (confirm readyToken) t 0 u ∧
        Runs barePlatform 3 (rollback readyToken true false) u 0 v ∧
        v.files persistentRulesPath = none := by
  obtain ⟨t, happly, -⟩ := apply_ready 1
  obtain ⟨hlive, u, hconfirm, hrules⟩ :=
    rollback_restores barePlatform 1 2 (by decide +kernel) happly
  obtain ⟨w, hrollback, hrestored⟩ := hlive false true
  obtain ⟨v, hforced, hpersistent⟩ := hrules 3 false
  refine ⟨t, happly, ⟨w, hrollback, hrestored.mpr ⟨rfl, rfl, .inr ⟨rfl, rfl⟩⟩⟩, u, v, hconfirm,
    hforced, hpersistent.mpr fun text htext => ?_⟩
  cases htext

/-- A table that the application brought into existence is still there after the rollback. -/
theorem rollback_leaves_table :
    ∃ t u, Runs barePlatform 1 (apply 1 readyToken readyArguments bareConfig)
        (readyHost filterOnly) 0 t ∧
      Runs barePlatform 2 (rollback readyToken false true) t 0 u ∧
      u.live ≠ (readyHost filterOnly).live := by
  have hfilter : filterOnly.use .filter = .initial .filter := Tables.use_put _ _
  have hnat : filterOnly.use .nat = .initial .nat := rfl
  have hjumps : ownedJumps (readyHost filterOnly).tables < 1 := by
    rw [show (readyHost filterOnly).tables = filterOnly from rfl, ownedJumps_fresh hfilter hnat]
    decide
  obtain ⟨t, happly, -⟩ : ∃ t, Runs barePlatform 1 (apply 1 readyToken readyArguments bareConfig)
      (readyHost filterOnly) 0 t ∧ _ :=
    apply_returns (accepts_readyHost _) (ownedOnly_fresh hfilter hnat) hjumps readyToken
  obtain ⟨u, hrollback, hrestored⟩ := rollback_live_iff (apply_runs happly) 2 false true
  refine ⟨t, u, happly, hrollback, fun hlive => ?_⟩
  have hnat := (hrestored.mp hlive).nat
  cases hnat

end Activation

end Snarkypuss
