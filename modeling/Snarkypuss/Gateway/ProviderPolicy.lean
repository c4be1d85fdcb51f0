import Snarkypuss.Calls.Histories
import Snarkypuss.Gateway.ProviderSettings
import Snarkypuss.Gateway.Readers
import Snarkypuss.Python.Regex

/-!
# Setting up the provider

`apply_policy` of `snarkypuss-nordvpn-configure.py` as a program over its command runner, and the
client that the commands configure. The script turns the kill switch on only after it has added
the exceptions that keep the management tunnel reachable. A command that failed is tolerated when
its text has one of a few words, whatever the text says.

## Main definitions

* `NordVpnSetup.applyPolicy`: the program
* `NordVpnSetup.Client`, `NordVpnSetup.clientAnswers`: the client behind the runner
* `NordVpnSetup.Honest`: a run in which what was tolerated was there already
* `NordVpnSetup.Guarded`: the exceptions that a policy needs are in place

## Main results

* `NordVpnSetup.applyPolicy_guarded`: in an honest run the kill switch is only turned on behind
  both exceptions
-/

namespace Snarkypuss.NordVpnSetup

open Python Program
open Gateway (ScriptError GatewayPolicy)

/-- What the script takes from the Unicode database. -/
structure SetupData where
  unicode : UnicodeData
  regex : RegexData

def asciiSetupData : SetupData := ⟨asciiData, asciiRegexData⟩

abbrev Setup (A : Type) := Program commandRunner ScriptError A

variable (data : SetupData)

/-! ## Commands -/

/-- `_DUPLICATE_PATTERN`. -/
def duplicateWords : List String :=
  ["already", "exists", "present", "added", "allowlisted", "whitelisted"]

/-- `_detail`. -/
def detail (result : CommandResult) : String :=
  let raw := if strip result.stderr ≠ "" then strip result.stderr else strip result.stdout
  let printable := String.ofList
    (raw.toList.map fun c => if data.unicode.isPrintable c then c else ' ')
  truncate 512 (joinWords (split printable))

/-- The text of a failed command matches `_DUPLICATE_PATTERN`. -/
def isDuplicate (result : CommandResult) : Bool :=
  searchWordIgnoringCase data.regex duplicateWords (detail data result)

/-- The text of the exception about a failed command. -/
def commandFailure (arguments : List String) (result : CommandResult) : String :=
  let message := "nordvpn " ++ " ".intercalate arguments ++ " failed with exit status " ++
    toString result.returncode
  if detail data result ≠ "" then message ++ ": " ++ detail data result else message

/-- `checked`. -/
def checked (duplicateOk : Bool) (arguments : List String) : Setup CommandResult := do
  let result ← call arguments
  if result.returncode = 0 then pure result
  else if duplicateOk && isDuplicate data result then pure result
  else raise (.refused (commandFailure data arguments result))

/-- The two outputs of a command, in lower case. -/
def combined (result : CommandResult) : String :=
  casefold data.unicode (result.stdout ++ "\n" ++ result.stderr)

/-- The candidates that `detect_allowlist_command` probes, one after the other. -/
def probe : List String → Setup String
  | [] => raise (.refused
      "installed NordVPN client exposes neither allowlist nor legacy whitelist commands")
  | candidate :: rest => do
    let result ← call [candidate, "--help"]
    let text := combined data result
    if result.returncode = 0 ∧ !occursIn "unknown command" text ∧ !occursIn "not found" text then
      pure candidate
    else probe rest

/-- `detect_allowlist_command`. -/
def detectAllowlistCommand : Setup String := do
  let help ← call ["help"]
  if searchWord data.regex ["allowlist"] (combined data help) then pure "allowlist"
  else if searchWord data.regex ["whitelist"] (combined data help) then pure "whitelist"
  else probe data ["allowlist", "whitelist"]

/-- `exception_commands`. -/
def exceptionCommands (policy : GatewayPolicy) (command : String) :
    Except ScriptError (List (List String)) :=
  let port := toString policy.listenPort
  let subnet := policy.managementSubnet.str
  if command = "allowlist" then
    .ok [["allowlist", "add", "port", port, "protocol", "UDP"],
      ["allowlist", "add", "subnet", subnet]]
  else if command = "whitelist" then
    .ok [["whitelist", "add", "port", port], ["whitelist", "add", "subnet", subnet]]
  else .error (.refused s!"unsupported NordVPN exception command: {command}")

/-- `protocol_field`. -/
def protocolField : Setup String := do
  let version ← checked data false ["--version"]
  match versionFrom data.regex none version.stdout.toList with
  | none => raise (.refused "unsupported or unrecognized NordVPN version")
  | some major => pure (if major = '6' then "protocol" else "technology")

/-- The command that turns the kill switch on. -/
def killSwitchOn : List String := ["set", "killswitch", "on"]

/-- `plan`. -/
def plan (policy : GatewayPolicy) (exceptionCommand protocolSetting : String) :
    Except ScriptError (List (List String)) := do
  let exceptions ← exceptionCommands policy exceptionCommand
  return ["set", protocolSetting, "NordLynx"] :: ["set", "autoconnect", "off"] ::
    exceptions ++ [killSwitchOn]

/-- A command whose failure may be tolerated. -/
def isException (command : List String) : Bool :=
  command.head? == some "allowlist" || command.head? == some "whitelist"

/-- The loop of `apply_policy`. -/
def applyCommands : List (List String) → Setup Unit
  | [] => pure ()
  | command :: rest => do
    let _ ← checked data (isException command) command
    applyCommands rest

/-- `apply_policy`. -/
def applyPolicy (policy : GatewayPolicy) : Setup Unit := do
  let exceptionCommand ← detectAllowlistCommand data
  let selectedProtocol ← protocolField data
  let commands ← done (plan policy exceptionCommand selectedProtocol)
  applyCommands data commands
  let settings ← checked data false ["settings"]
  done (verifySettings data.unicode settings.stdout selectedProtocol)

/-! ## The client -/

/-- What the commands configure: the ports and the subnets that are excepted from the kill switch,
and the switch itself. -/
structure Client where
  ports : List String
  subnets : List String
  killSwitch : Bool
  deriving DecidableEq

/-- What a command does when it takes effect. -/
def Client.after (client : Client) : List String → Client
  | ["allowlist", "add", "port", port, "protocol", "UDP"]
  | ["whitelist", "add", "port", port] => { client with ports := port :: client.ports }
  | ["allowlist", "add", "subnet", subnet]
  | ["whitelist", "add", "subnet", subnet] => { client with subnets := subnet :: client.subnets }
  | ["set", "killswitch", switch] => { client with killSwitch := switch == "on" }
  | _ => client

/-- A command takes effect exactly when its exit status is 0, whatever it prints. Of a command
whose exit status is not known, nothing else is known either. -/
def clientAnswers : Answering commandRunner ScriptError Client := fun arguments client reply next =>
  match reply with
  | .ok result => next = if result.returncode = 0 then client.after arguments else client
  | .error _ => next = client ∨ next = client.after arguments

/-- What a command that adds an exception is for is in place. -/
def Excepted (client : Client) : List String → Prop
  | ["allowlist", "add", "port", port, "protocol", "UDP"]
  | ["whitelist", "add", "port", port] => port ∈ client.ports
  | ["allowlist", "add", "subnet", subnet]
  | ["whitelist", "add", "subnet", subnet] => subnet ∈ client.subnets
  | _ => True

/-- The management exceptions of the policy are in place. -/
structure Guarded (policy : GatewayPolicy) (client : Client) : Prop where
  port : toString policy.listenPort ∈ client.ports
  subnet : policy.managementSubnet.str ∈ client.subnets

/-- What was answered to a run so far. -/
abbrev Commands := List (Occurrence commandRunner ScriptError Client)

/-- Every failed command whose text is that of a duplicate failed because what it adds was there
already. -/
def Honest (os : Commands) : Prop :=
  ∀ o ∈ os, ∀ result, o.reply = .ok result → result.returncode ≠ 0 → isDuplicate data result →
    Excepted o.before o.call

/-- The kill switch was only turned on behind the exceptions, and they are in place since. -/
structure SwitchedBehind (policy : GatewayPolicy) (os : Commands) (client : Client) : Prop where
  before : ∀ o ∈ os, o.call = killSwitchOn → Guarded policy o.before
  since : (∃ o ∈ os, o.call = killSwitchOn) → Guarded policy client

variable {data} {policy : GatewayPolicy} {client next : Client} {os : Commands}

/-! ### Single commands -/

/-- A command that takes effect has put in place what it is for. -/
theorem excepted_after (client : Client) (command : List String) :
    Excepted (client.after command) command := by
  unfold Excepted Client.after
  split <;> simp

theorem Client.ports_after (client : Client) (command : List String) :
    client.ports ⊆ (client.after command).ports := by
  unfold Client.after
  split <;> simp

theorem Client.subnets_after (client : Client) (command : List String) :
    client.subnets ⊆ (client.after command).subnets := by
  unfold Client.after
  split <;> simp

/-- Every answer leaves the client as it was or as the command makes it. -/
theorem clientAnswers_cases {command : List String} {reply : Except ScriptError CommandResult}
    (h : clientAnswers command client reply next) :
    next = client ∨ next = client.after command := by
  cases reply with
  | error e => exact h
  | ok result =>
    simp only [clientAnswers] at h
    split at h <;> simp [h]

/-- No command of the script takes an exception away. -/
theorem clientAnswers_grows {command : List String} {reply : Except ScriptError CommandResult}
    (h : clientAnswers command client reply next) :
    client.ports ⊆ next.ports ∧ client.subnets ⊆ next.subnets := by
  rcases clientAnswers_cases h with rfl | rfl
  · simp
  · exact ⟨client.ports_after command, client.subnets_after command⟩

theorem Excepted.grows {command : List String} (h : Excepted client command)
    (hports : client.ports ⊆ next.ports) (hsubnets : client.subnets ⊆ next.subnets) :
    Excepted next command := by
  unfold Excepted at h ⊢
  split at h
  · exact hports h
  · exact hports h
  · exact hsubnets h
  · exact hsubnets h
  · trivial

theorem Guarded.grows (h : Guarded policy client) (hports : client.ports ⊆ next.ports)
    (hsubnets : client.subnets ⊆ next.subnets) : Guarded policy next :=
  ⟨hports h.port, hsubnets h.subnet⟩

theorem Honest.init {o : Occurrence commandRunner ScriptError Client}
    (h : Honest data (os ++ [o])) : Honest data os :=
  fun o ho => h o (List.mem_append_left _ ho)

/-- One more command is fine when it is not the switch, or when the exceptions are in place. -/
theorem SwitchedBehind.snoc (h : SwitchedBehind policy os client) {command : List String}
    {reply : Except ScriptError CommandResult} (hanswers : clientAnswers command client reply next)
    (hswitch : command = killSwitchOn → Guarded policy client) :
    SwitchedBehind policy (os ++ [⟨command, client, reply, next⟩]) next := by
  obtain ⟨hports, hsubnets⟩ := clientAnswers_grows hanswers
  constructor
  · intro o ho hcall
    rcases List.mem_append.mp ho with ho | ho
    · exact h.before o ho hcall
    · obtain rfl := List.mem_singleton.mp ho
      exact hswitch hcall
  · rintro ⟨o, ho, hcall⟩
    rcases List.mem_append.mp ho with ho | ho
    · exact (h.since ⟨o, ho, hcall⟩).grows hports hsubnets
    · obtain rfl := List.mem_singleton.mp ho
      exact (hswitch hcall).grows hports hsubnets

/-- What holds at every point of a run. -/
def Throughout (data : SetupData) (policy : GatewayPolicy) (os : Commands) (client : Client) :
    Prop :=
  Honest data os → SwitchedBehind policy os client

/-- **One checked command.** It returns after success, or when its failure was tolerated. -/
theorem checked_always {duplicateOk : Bool} {command : List String}
    (hK : Throughout data policy os client)
    (hswitch : command = killSwitchOn → Honest data os → Guarded policy client) :
    (checked data duplicateOk command).Always clientAnswers (Throughout data policy)
      (fun r os' client' => ∀ result, r = .ok result →
        os' = os ++ [⟨command, client, .ok result, client'⟩] ∧
        clientAnswers command client (.ok result) client' ∧
        (result.returncode = 0 ∨ duplicateOk = true ∧ isDuplicate data result = true)) os client := by
  have hnext : ∀ r t, clientAnswers command client r t →
      Throughout data policy (os ++ [⟨command, client, r, t⟩]) t :=
    fun r t ht hhonest => (hK hhonest.init).snoc ht fun hcall => hswitch hcall hhonest.init
  refine always_call_bind hK (fun result t ht => ?_) fun e t ht => ⟨hnext _ t ht, by simp⟩
  split
  · rename_i hcode
    refine always_done (hnext _ t ht) fun result' hresult => ?_
    obtain rfl := Except.ok.inj hresult
    exact ⟨rfl, ht, .inl hcode⟩
  · split
    · rename_i hduplicate
      refine always_done (hnext _ t ht) fun result' hresult => ?_
      obtain rfl := Except.ok.inj hresult
      exact ⟨rfl, ht, .inr (by simpa using hduplicate)⟩
    · exact always_done (hnext _ t ht) fun result' hresult => by cases hresult

/-- In an honest run, a command that was let pass has put in place what it is for. -/
theorem excepted_of_checked {command : List String} {result : CommandResult}
    (hanswers : clientAnswers command client (.ok result) next)
    (hpassed : result.returncode = 0 ∨ isDuplicate data result = true)
    (honest : Honest data (os ++ [⟨command, client, .ok result, next⟩])) :
    Excepted next command := by
  by_cases hcode : result.returncode = 0
  · obtain rfl : next = client.after command := by simpa [clientAnswers, hcode] using hanswers
    exact excepted_after client command
  · -- a tolerated command has left the client as it was
    obtain rfl : next = client := by simpa [clientAnswers, hcode] using hanswers
    exact honest ⟨command, next, .ok result, next⟩ (by simp) result rfl hcode
      (hpassed.resolve_left hcode)

/-! ### The plan -/

/-- **The loop of `apply_policy`.** Behind it, everything in the plan is in place. -/
theorem applyCommands_always {commands : List (List String)} (done : List (List String))
    (hplan : ∀ pre post, commands = pre ++ killSwitchOn :: post →
      ∀ client, (∀ command ∈ done ++ pre, Excepted client command) → Guarded policy client)
    (hK : Throughout data policy os client)
    (hdone : Honest data os → ∀ command ∈ done, Excepted client command) :
    (applyCommands data commands).Always clientAnswers (Throughout data policy)
      (fun r os' client' => r = .ok () → Honest data os' →
        ∀ command ∈ done ++ commands, Excepted client' command) os client := by
  induction commands generalizing done os client with
  | nil => exact always_done hK fun _ honest => by simpa using hdone honest
  | cons command rest ih =>
    refine Always.bind (checked_always hK fun hswitch honest => ?_) ?_ fun e os' client' _ _ => nofun
    · exact hplan [] rest (by rw [hswitch]; rfl) client (by simpa using hdone honest)
    · intro result os' client' hK' hchecked
      obtain ⟨rfl, hanswers, hpassed⟩ := hchecked result rfl
      obtain ⟨hports, hsubnets⟩ := clientAnswers_grows hanswers
      have hrest := ih (done ++ [command]) (fun pre post hpost client'' h => ?_) hK' ?_
      · simpa using hrest
      · exact hplan (command :: pre) post (by rw [hpost]; rfl) client'' (by simpa using h)
      · intro honest command' hcommand'
        rcases List.mem_append.mp hcommand' with h | h
        · exact (hdone honest.init command' h).grows hports hsubnets
        · obtain rfl := List.mem_singleton.mp h
          exact excepted_of_checked hanswers (hpassed.imp_right (·.2)) honest

/-- What the exception commands put in place are the exceptions of the policy. -/
theorem exceptionCommands_guarded {command : String} {exceptions : List (List String)}
    (h : exceptionCommands policy command = .ok exceptions) :
    killSwitchOn ∉ exceptions ∧
      ∀ client, (∀ exception ∈ exceptions, Excepted client exception) → Guarded policy client := by
  unfold exceptionCommands at h
  split at h
  · obtain rfl := Except.ok.inj h
    refine ⟨by simp [killSwitchOn], fun client hall => ?_⟩
    simp only [List.forall_mem_cons, Excepted] at hall
    exact ⟨hall.1, hall.2.1⟩
  · split at h
    · obtain rfl := Except.ok.inj h
      refine ⟨by simp [killSwitchOn], fun client hall => ?_⟩
      simp only [List.forall_mem_cons, Excepted] at hall
      exact ⟨hall.1, hall.2.1⟩
    · cases h

/-- A list that ends with its only `a` is split at `a` in one way. -/
theorem eq_of_append_singleton {α : Type} {a : α} {xs ys zs : List α} (ha : a ∉ xs)
    (h : xs ++ [a] = ys ++ a :: zs) : xs = ys := by
  rcases List.append_eq_append_iff.mp h with ⟨l, rfl, hl⟩ | ⟨l, rfl, hl⟩
  · cases l with
    | nil => simp
    | cons x l => simp at hl
  · cases l with
    | nil => simp
    | cons x l =>
      obtain ⟨rfl, -⟩ := List.cons.inj hl
      simp at ha

/-- Where the plan turns the switch on, what stands before it has excepted what the policy asks
for. -/
theorem plan_guarded {exceptionCommand protocolSetting : String} {commands : List (List String)}
    (h : plan policy exceptionCommand protocolSetting = .ok commands) :
    ∀ pre post, commands = pre ++ killSwitchOn :: post →
      ∀ client, (∀ command ∈ pre, Excepted client command) → Guarded policy client := by
  obtain ⟨exceptions, hexceptions, h⟩ := bind_eq_ok.mp h
  obtain ⟨hswitch, hguarded⟩ := exceptionCommands_guarded hexceptions
  obtain rfl := Except.ok.inj h
  intro pre post hsplit client hpre
  have hbefore := eq_of_append_singleton (by simpa [killSwitchOn] using hswitch) hsplit
  refine hguarded client fun exception hexception => hpre exception ?_
  rw [← hbefore]
  simp [hexception]

/-! ### Finding out about the client -/

theorem uses_checked {duplicateOk : Bool} {command : List String} (h : command ≠ killSwitchOn) :
    (checked data duplicateOk command).Uses (· ≠ killSwitchOn) := by
  refine uses_call_bind h fun result => ?_
  split
  · trivial
  · split <;> trivial

theorem uses_probe (candidates : List String) :
    (probe data candidates).Uses (· ≠ killSwitchOn) := by
  induction candidates with
  | nil => trivial
  | cons candidate rest ih =>
    refine uses_call_bind (by simp [killSwitchOn]) fun result => ?_
    dsimp only
    split
    · trivial
    · exact ih

theorem uses_detectAllowlistCommand : (detectAllowlistCommand data).Uses (· ≠ killSwitchOn) := by
  refine uses_call_bind (by simp [killSwitchOn]) fun help => ?_
  split
  · trivial
  · split
    · trivial
    · exact uses_probe _

theorem uses_protocolField : (protocolField data).Uses (· ≠ killSwitchOn) := by
  refine (uses_checked (by simp [killSwitchOn])).bind fun version => ?_
  split <;> trivial

/-- The setting is one of the two names that the client has for it. -/
theorem protocolField_answered :
    (protocolField data).Answered (fun _ _ => True)
      fun r => ∀ field, r = .ok field → field = "technology" ∨ field = "protocol" := by
  refine Answered.bind (answered_trivial _ (Q := fun _ => True) fun _ => trivial)
    (fun version _ => ?_) fun e _ => nofun
  split
  · exact nofun
  · rename_i major _
    intro field hfield
    obtain rfl := Except.ok.inj hfield
    by_cases hmajor : major = '6' <;> simp [hmajor]

/-- A command other than the switch keeps what holds throughout. -/
theorem Throughout.snoc {command : List String} {reply : Except ScriptError CommandResult}
    (hK : Throughout data policy os client) (hcommand : command ≠ killSwitchOn)
    (hanswers : clientAnswers command client reply next) :
    Throughout data policy (os ++ [⟨command, client, reply, next⟩]) next :=
  fun honest => (hK honest.init).snoc hanswers fun hswitch => absurd hswitch hcommand

/-! ### The script -/

/-- The last thing that happened is that the settings were read, and verified. -/
def ReportsVerified (data : SetupData) (os : Commands) : Prop :=
  ∃ earlier client result field, os = earlier ++ [⟨["settings"], client, .ok result, client⟩] ∧
    result.returncode = 0 ∧ (field = "technology" ∨ field = "protocol") ∧
    Verified data.unicode result.stdout field

theorem applyPolicy_always (data : SetupData) (policy : GatewayPolicy) (client : Client) :
    (applyPolicy data policy).Always clientAnswers (Throughout data policy)
      (fun r os client => r = .ok () →
        (Honest data os → Guarded policy client) ∧ ReportsVerified data os) [] client := by
  have hstart : Throughout data policy [] client := fun _ => ⟨by simp, by simp⟩
  have hkeeps : ∀ command os client reply next, command ≠ killSwitchOn →
      Throughout data policy os client → clientAnswers command client reply next →
        Throughout data policy (os ++ [⟨command, client, reply, next⟩]) next :=
    fun _ _ _ _ _ hcommand hK hanswers => hK.snoc hcommand hanswers
  refine Always.bind (uses_detectAllowlistCommand.always
    (answered_trivial _ (Q := fun _ => True) fun _ => trivial) hstart hkeeps) ?_ fun e _ _ _ _ => nofun
  intro exceptionCommand os client hK _
  refine Always.bind (uses_protocolField.always protocolField_answered hK hkeeps) ?_
    fun e _ _ _ _ => nofun
  intro selected os client hK hselected
  have hselected := hselected selected rfl
  cases hplan : plan policy exceptionCommand selected with
  | error e => exact always_done hK nofun
  | ok commands =>
    change Always _ _ _ ((applyCommands data commands).bind _) os client
    refine Always.bind (applyCommands_always [] (by simpa using plan_guarded hplan) hK
      (by simp)) ?_ fun e _ _ _ _ => nofun
    intro u os client hK happlied
    refine Always.bind (checked_always hK (by simp [killSwitchOn])) ?_ fun e _ _ _ _ => nofun
    intro settings os' client' hK' hsettings
    obtain ⟨rfl, hanswers, hcode⟩ := hsettings settings rfl
    refine always_done hK' fun hverified => ?_
    have hcode : settings.returncode = 0 := by simpa using hcode
    obtain rfl : client' = client := by simpa [clientAnswers, hcode, Client.after] using hanswers
    refine ⟨fun honest => ?_, os, _, settings, selected, rfl, hcode, hselected,
      verifySettings_eq_ok.mp hverified⟩
    -- the plan ends with the switch, so the exceptions stand before it
    have hall := happlied rfl honest.init
    obtain ⟨exceptions, -, hcommands⟩ := bind_eq_ok.mp hplan
    obtain rfl := Except.ok.inj hcommands
    exact plan_guarded hplan _ [] rfl _ fun command hcommand =>
      hall command (List.mem_append_right _ (List.mem_append_left _ hcommand))

/-- **The kill switch is only turned on behind working exceptions**, in every run in which a
failed command was let pass only when what it adds was there: wherever the run may have got to,
the exceptions were in place when the switch was turned on and are in place since. When the script
returns, they are in place, and the settings that it read last report NordLynx, the kill switch
on and auto-connect off. -/
theorem applyPolicy_guarded {left : Setup Unit}
    (hvisits : Visits clientAnswers (applyPolicy data policy) client os left next)
    (honest : Honest data os) :
    SwitchedBehind policy os next ∧
      (left = done (.ok ()) → Guarded policy next ∧ ReportsVerified data os) := by
  have hleft := (applyPolicy_always data policy client).visited hvisits
  rw [List.nil_append] at hleft
  refine ⟨hleft.now honest, ?_⟩
  rintro rfl
  obtain ⟨hguarded, hreports⟩ := hleft.2 rfl
  exact ⟨hguarded honest, hreports⟩

/-! ### Two clients -/

def samplePolicy : GatewayPolicy := ⟨51820, (⟨0x0a080001, 24⟩ : IPv4Interface).network⟩

/-- What a client prints that does as it is told. -/
def sampleReply : List String → CommandResult
  | ["help"] => ⟨0, "allowlist", ""⟩
  | ["--version"] => ⟨0, "NordVPN Version 5.0.0", ""⟩
  | ["settings"] => ⟨0, "Technology: NordLynx\nKill Switch: enabled\nAuto-connect: disabled\n", ""⟩
  | _ => ⟨0, "", ""⟩

/-- The runner of a client whose replies are given. -/
def runner (reply : List String → CommandResult) : Handler commandRunner ScriptError Client :=
  fun command client =>
    (.ok (reply command), if (reply command).returncode = 0 then client.after command else client)

theorem runner_answers (reply : List String → CommandResult) (command : List String)
    (client : Client) :
    clientAnswers command client (runner reply command client).1 (runner reply command client).2 :=
  rfl

/-- The sample client ends up guarded. -/
theorem applyPolicy_guarded_sample :
    Guarded samplePolicy
      ((applyPolicy asciiSetupData samplePolicy).exec (runner sampleReply) ⟨[], [], false⟩).state :=
  ((applyPolicy_guarded
    (visits_exec (runner_answers sampleReply) (applyPolicy asciiSetupData samplePolicy) _)
    (forall_occurrences (fun command client result hresult hcode => by
      obtain rfl := Except.ok.inj hresult
      exact absurd (by unfold sampleReply; split <;> rfl) hcode) _ _)).2
    (congrArg Program.done (by decide +kernel))).1

/-- A client that fails to add the port, and says so. -/
def refusingReply : List String → CommandResult
  | ["allowlist", "add", "port", _, "protocol", "UDP"] => ⟨1, "", "The port could not be added"⟩
  | command => sampleReply command

/-- A run whose kill switch is turned on although the port was never excepted: the text of the
failure has the word "added". -/
theorem applyPolicy_unguarded :
    ∃ os next, Visits clientAnswers (applyPolicy asciiSetupData samplePolicy) ⟨[], [], false⟩ os
        (done (.ok ())) next ∧
      (∃ o ∈ os, o.call = killSwitchOn) ∧ next.killSwitch = true ∧ ¬ Guarded samplePolicy next := by
  have hvisits := visits_exec (runner_answers refusingReply)
    (applyPolicy asciiSetupData samplePolicy) ⟨[], [], false⟩
  have hresult : ((applyPolicy asciiSetupData samplePolicy).exec (runner refusingReply)
      ⟨[], [], false⟩).result = .ok () := by decide +kernel
  have hstate : ((applyPolicy asciiSetupData samplePolicy).exec (runner refusingReply)
      ⟨[], [], false⟩).state = ⟨[], ["10.8.0.0/24"], true⟩ := by decide +kernel
  have hcalls : killSwitchOn ∈ ((applyPolicy asciiSetupData samplePolicy).occurrences
      (runner refusingReply) ⟨[], [], false⟩).map (·.call) := by decide +kernel
  rw [hresult, hstate] at hvisits
  refine ⟨_, _, hvisits, by simpa using hcalls, rfl, fun h => ?_⟩
  simpa using h.port

end Snarkypuss.NordVpnSetup
