import Snarkypuss.Control.Attribution
import Snarkypuss.Providers.Selectors

/-!
# The arguments of provider commands

What reaches the command line of the provider comes from requests, from the contexts of
discovery requests and from stored selectors. Each of them passes the adapter's patterns on its
way, so every command is one of a fixed list, with arguments that are no options.

## Main definitions

* `NordVpn.PermittedCommand`: the argument vectors that a command may have
* `NordVpn.protectionOff`: the command that turns the leak protection off

## Main results

* `NordVpn.uses_permitted`: the adapter runs permitted commands only
* `commands_permitted`: in every run of requests the commands are permitted, and only a Direct
  request turns the leak protection off
-/

namespace Snarkypuss

variable {σ ρ τ : Type}

namespace NordVpn

open Python

/-- `nordvpn set killswitch off`. -/
def protectionOff : List String := ["set", "killswitch", "off"]

/-- The argument vectors that the adapter gives to its runner. -/
inductive PermittedCommand : List String → Prop
  | status : PermittedCommand ["status"]
  | settings : PermittedCommand ["settings"]
  | disconnect : PermittedCommand ["disconnect"]
  | protectionOn : PermittedCommand ["set", "killswitch", "on"]
  | protectionOff : PermittedCommand protectionOff
  | countries : PermittedCommand ["countries"]
  | groups : PermittedCommand ["groups"]
  | cities {country} (hcountry : SafeArgument country) : PermittedCommand ["cities", country]
  | connect {arguments} (hlength : arguments.length ≤ 2)
    (harguments : ∀ argument ∈ arguments, SafeArgument argument) :
    PermittedCommand ("connect" :: arguments)

/-- A permitted command, which turns the leak protection off for one call only. -/
def CommandOf (c : ProviderCall) (arguments : List String) : Prop :=
  PermittedCommand arguments ∧ (arguments = protectionOff → c = .setLeakProtection false)

section Commands

variable (unicode : UnicodeData) {c : ProviderCall}

/-- A command that sets nothing may be run for every call. -/
theorem PermittedCommand.commandOf {arguments : List String} (h : PermittedCommand arguments)
    (hhead : arguments.head? ≠ some "set") : CommandOf c arguments :=
  ⟨h, fun hoff => absurd (congrArg List.head? hoff) hhead⟩

theorem commandOf_status : CommandOf c ["status"] := PermittedCommand.status.commandOf (by simp)

theorem commandOf_settings : CommandOf c ["settings"] :=
  PermittedCommand.settings.commandOf (by simp)

theorem uses_status_permitted : (status unicode).Uses (CommandOf c) :=
  (uses_run unicode commandOf_status).bind fun _ => trivial

theorem uses_settings_permitted : (settings unicode).Uses (CommandOf c) :=
  (uses_run unicode commandOf_settings).bind fun _ => trivial

variable {unicode}

/-- The discovery commands. The country of a city discovery is a country code. -/
theorem uses_discover_permitted (hunicode : unicode.FoldsAscii) (kind field : String)
    (context : JsonObject) : (discover unicode kind field context).Uses (CommandOf c) := by
  have hrun : ∀ arguments, CommandOf c arguments → ∀ n b,
      ((run unicode arguments).bind fun result =>
        (Program.done (parseDiscoveryOptions unicode result.stdout n b) : Nord _)).Uses
          (CommandOf c) :=
    fun arguments h n b => (uses_run unicode h).bind fun _ => trivial
  unfold discover
  split
  · split
    · trivial
    · exact hrun _ (PermittedCommand.countries.commandOf (by simp)) _ _
  split
  · split
    · trivial
    dsimp only
    split
    · trivial
    · rename_i hcountry
      have hcode : isCode (text context "country") = true :=
        Bool.of_not_eq_false fun hfalse =>
          hcountry (.inr (.inr (congrArg Bool.not hfalse)))
      have hsafe := isTarget_iff.mp (isTarget_of_isCode (isCode_casefold hunicode hcode))
      exact hrun _ ((PermittedCommand.cities hsafe).commandOf (by simp)) _ _
  split
  · split
    · trivial
    · exact hrun _ (PermittedCommand.groups.commandOf (by simp)) _ _
  · trivial

/-- A connect is given the arguments of a valid selector, whatever document is stored. -/
theorem uses_connectStored_permitted (hunicode : unicode.FoldsAscii) (target : StoredTarget) :
    (connectStored unicode target).Uses (CommandOf c) := by
  unfold connectStored
  cases hselector : validateSelector unicode target.selector with
  | error e => trivial
  | ok document =>
    obtain ⟨selector, -, hvalid, rfl⟩ := validateSelector_eq_ok_iff.mp hselector
    have hpermitted : CommandOf c
        ("connect" :: connectArguments (selector.normalized unicode).document) := by
      rw [connectArguments_document]
      refine (PermittedCommand.connect (Selector.length_arguments _) ?_).commandOf (by simp)
      exact Selector.arguments_safe (Selector.normalized_valid hunicode hvalid)
    refine (uses_run unicode hpermitted).bind fun _ => ?_
    exact (uses_status_permitted unicode).bind fun _ => trivial

/-- **The adapter runs permitted commands only**, and turns the leak protection off only when it
is asked to. -/
theorem uses_permitted (hunicode : unicode.FoldsAscii) (c : ProviderCall) :
    (provider unicode c).Uses (CommandOf c) := by
  cases c with
  | status => exact uses_status_permitted unicode
  | settings => exact uses_settings_permitted unicode
  | connectStored target => exact uses_connectStored_permitted hunicode target
  | disconnect =>
    have hpermitted : CommandOf .disconnect ["disconnect"] :=
      PermittedCommand.disconnect.commandOf (by simp)
    exact (uses_run unicode hpermitted).bind fun _ => uses_status_permitted unicode
  | setLeakProtection enabled =>
    have hpermitted : CommandOf (.setLeakProtection enabled)
        ["set", "killswitch", if enabled then "on" else "off"] := by
      cases enabled with
      | true => exact ⟨.protectionOn, fun hoff => absurd hoff (by decide)⟩
      | false => exact ⟨.protectionOff, fun _ => rfl⟩
    exact (uses_run unicode hpermitted).bind fun _ => uses_settings_permitted unicode
  | targetSchema => trivial
  | targetOptions kind field context =>
    exact (uses_discover_permitted hunicode kind field context).bind fun options =>
      Program.Uses.bind trivial fun _ => Program.Uses.bind trivial fun _ =>
        Program.Uses.bind trivial fun _ => trivial
  | validateSelector selector => trivial

end Commands

end NordVpn

/-! ## Runs -/

section Runs

variable {unicode : Python.UnicodeData} {runner : Handler commandRunner PyException σ}
  {repository : Handler targetRepository PyException ρ}
  {collectors : Handler statusCollectors PyException τ} {service : ControlService}

/-- The commands run for a request: permitted, and with the leak protection turned off only by a
Direct request. -/
def CommandsFor (request : ControlRequest) (ran : List RanCommand) : Prop :=
  ∀ command ∈ ran, NordVpn.PermittedCommand command.arguments ∧
    (command.arguments = NordVpn.protectionOff → request.operation = .directRequest)

theorem CommandsFor.append {request : ControlRequest} {ran ran' : List RanCommand}
    (h : CommandsFor request ran) (h' : CommandsFor request ran') :
    CommandsFor request (ran ++ ran') :=
  fun command hcommand => (List.mem_append.mp hcommand).elim (h command) (h' command)

/-- Only a Direct request may turn the leak protection off. -/
theorem directRequest_of_mayCall {operation : Operation}
    (h : operation.mayCall (.provider (.setLeakProtection false))) : operation = .directRequest := by
  cases operation <;> first | rfl | cases h

/-- The commands of one call. -/
theorem commandsFor_recordOf (hunicode : unicode.FoldsAscii) {request : ControlRequest}
    {c : ProviderCall} (hc : request.operation.mayCall (.provider c)) (p : σ) :
    CommandsFor request (recordOf c ((NordVpn.provider unicode c).exec runner p).exchanges) := by
  intro command hcommand
  obtain ⟨x, hx, rfl⟩ := List.mem_map.mp hcommand
  obtain ⟨hpermitted, hoff⟩ := (NordVpn.uses_permitted hunicode c).exchanges runner p x hx
  refine ⟨hpermitted, fun harguments => directRequest_of_mayCall ?_⟩
  rw [← hoff harguments]
  exact hc

variable (runner repository collectors service) in
/-- One dispatch adds to the record the commands run for its request. -/
theorem dispatch_commands (hunicode : unicode.FoldsAscii) (request : ControlRequest)
    (s : ServiceState (σ × List RanCommand) ρ τ) :
    ∃ ran, CommandsFor request ran ∧
      ((service.dispatch request).exec
        (nordEnvironment unicode runner repository collectors).handler s).state.provider.2 =
          s.provider.2 ++ ran := by
  refine ((service.uses_dispatch request).exec_invariant
    (K := fun t : ServiceState (σ × List RanCommand) ρ τ => ∃ ran, CommandsFor request ran ∧ t.provider.2 = s.provider.2 ++ ran)
    ?_ ⟨[], nofun, (List.append_nil _).symm⟩).1
  rintro c t hc ⟨ran, hran, ht⟩
  cases c with
  | provider c =>
    have hmay : request.operation.mayCall (.provider c) := by
      rcases hc with hc | hc | hc
      · exact hc
      · cases hc
      · cases hc
    refine ⟨ran ++ recordOf c ((NordVpn.provider unicode c).exec runner t.provider.1).exchanges,
      hran.append (commandsFor_recordOf hunicode hmay t.provider.1), ?_⟩
    rw [← List.append_assoc, ← ht]
    rfl
  | _ => exact ⟨ran, hran, ht⟩

/-- **No request can inject arguments**: in every run of requests over the NordVPN adapter, from
every state, every command is permitted, and a request that turns the leak protection off is a
Direct request. -/
theorem commands_permitted (hunicode : unicode.FoldsAscii)
    {s₀ : ServiceState (σ × List RanCommand) ρ τ} {history s}
    (run : (nordEnvironment unicode runner repository collectors).Run service (fun _ _ => True)
      s₀ history s) :
    (∃ ran, (∀ command ∈ ran, NordVpn.PermittedCommand command.arguments) ∧
      s.provider.2 = s₀.provider.2 ++ ran) ∧
    ∀ request, ∃ ran, CommandsFor request ran ∧
      ((service.dispatch request).exec
        (nordEnvironment unicode runner repository collectors).handler s).state.provider.2 =
          s.provider.2 ++ ran := by
  refine ⟨?_, fun request =>
    dispatch_commands runner repository collectors service hunicode request s⟩
  refine run.invariant (K := fun t : ServiceState (σ × List RanCommand) ρ τ => ∃ ran,
    (∀ command ∈ ran, NordVpn.PermittedCommand command.arguments) ∧
      t.provider.2 = s₀.provider.2 ++ ran) ⟨[], nofun, (List.append_nil _).symm⟩ ?_
  rintro request t - ⟨ran, hran, ht⟩
  obtain ⟨more, hmore, hdispatch⟩ :=
    dispatch_commands runner repository collectors service hunicode request t
  refine ⟨ran ++ more, ?_, by rw [hdispatch, ht, List.append_assoc]⟩
  intro command hcommand
  rcases List.mem_append.mp hcommand with h | h
  · exact hran command h
  · exact (hmore command h).1

end Runs

/-- A connect to Dallas: three commands, all permitted. -/
theorem commands_permitted_dallas :
    let s := afterConnect (fun _ => false) idealTarget nordState
    s.provider.2.map RanCommand.arguments = [["connect", "dallas"], ["status"], ["settings"]] ∧
      (∃ ran, (∀ command ∈ ran, NordVpn.PermittedCommand command.arguments) ∧
        s.provider.2 = nordState.provider.2 ++ ran) ∧
      ∀ request, ∃ ran, CommandsFor request ran ∧
        ((nordService.dispatch request).exec (nordCliEnvironment fun _ => false).handler
          s).state.provider.2 = s.provider.2 ++ ran := by
  have run : (nordCliEnvironment fun _ => false).Run nordService (fun _ _ => True) nordState _ _ :=
    .serve .start (connectTo idealTarget) trivial
  exact ⟨by decide, commands_permitted Python.asciiData_foldsAscii run⟩

end Snarkypuss
