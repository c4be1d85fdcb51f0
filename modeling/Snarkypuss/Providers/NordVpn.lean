import Snarkypuss.Calls.Logic
import Snarkypuss.Providers.Base
import Snarkypuss.Python.Text

/-!
# The NordVPN adapter

`NordVpnProvider` as programs over its command runner: each call of the adapter runs a few
`nordvpn` commands, each with the fixed executable and timeout of the adapter, and parses what
they print.

## Main definitions

* `CommandResult`, `commandRunner`: the interface of a runner
* `runCommand`: the runner that starts a process
* `NordVpn.parseStatus`, `NordVpn.parseSettings`, `NordVpn.parseDiscoveryOptions`: the parsers
* `NordVpn.validateSelector`: the selectors that the adapter accepts
* `NordVpn.provider`: the program of each call

## Main results

* `NordVpn.uses_provider`: only `connect_stored` runs `nordvpn connect`
-/

namespace Snarkypuss

open Python

/-- Bounded result from one NordVPN CLI invocation. -/
structure CommandResult where
  returncode : Int
  stdout : String
  stderr : String
  deriving DecidableEq

/-- A runner runs one command, given by its arguments. -/
abbrev commandRunner : Interface := ⟨List String, fun _ => CommandResult⟩

/-! ## The process runner -/

/-- How `subprocess.run` ends: the process completed, or an exception of its own. -/
inductive ProcessOutcome
  | completed (returncode : Int) (stdout stderr : String)
  | fileNotFound
  | permissionDenied
  | timeoutExpired
  | raised (e : PyException)

def maxOutputLength : Nat := 64 * 1024

/-- `run_command`, from how the process ended. -/
def runCommand (executable : String) : ProcessOutcome → Except PyException CommandResult
  | .fileNotFound => .error (.provider "PROVIDER_UNAVAILABLE"
      ("NordVPN executable does not exist at " ++ executable))
  | .permissionDenied => .error (.provider "PROVIDER_PERMISSION_DENIED"
      ("NordVPN executable cannot be run at " ++ executable))
  | .timeoutExpired => .error (.provider "PROVIDER_TIMEOUT" "NordVPN command timed out")
  | .raised e => .error e
  | .completed returncode stdout stderr =>
    let stdout := truncate (maxOutputLength + 1) stdout
    let stderr := truncate (maxOutputLength + 1) stderr
    if stdout.length > maxOutputLength ∨ stderr.length > maxOutputLength then
      .error (.provider "PROVIDER_OUTPUT_TOO_LARGE" "NordVPN command output was too large")
    else .ok ⟨returncode, stdout, stderr⟩

namespace NordVpn

abbrev Nord (A : Type) := Program commandRunner PyException A

def maxErrorDetailLength : Nat := 512
def maxFieldLength : Nat := 256
def maxDiscoveryLabelLength : Nat := 100
def maxDiscoveryValueLength : Nat := 100

def name : Identifier := ⟨"nordvpn", by decide⟩

def capabilities : ProviderCapabilities where
  connect := true
  disconnect := true
  targetSelection := true
  targetDiscovery := true
  serverDetails := true
  leakProtectionConfiguration := true

def isTargetTail (c : Char) : Bool :=
  c.isAlphanum || c == ' ' || c == '.' || c == '_' || c == '#' || c == '-'

/-- `TARGET_PATTERN`. -/
def isTarget (s : String) : Bool := matchesPattern Char.isAlphanum isTargetTail 99 s

def isCodeTail (c : Char) : Bool := c.isAlphanum || c == '_' || c == '-'

/-- `CODE_PATTERN`. -/
def isCode (s : String) : Bool := matchesPattern Char.isAlpha isCodeTail 31 s

def invalidOutput (message : String) : PyException := .provider "PROVIDER_OUTPUT_INVALID" message

variable (unicode : UnicodeData)

/-! ## Command failures -/

/-- `_error_detail`. -/
def errorDetail (result : CommandResult) : Option String :=
  let output := if strip result.stderr ≠ "" then strip result.stderr else strip result.stdout
  if output = "" then none
  else
    let printable := String.ofList
      (output.toList.map fun c => if unicode.isPrintable c then c else ' ')
    let detail := joinWords (split printable)
    if detail = "" then none
    else if detail.length > maxErrorDetailLength then
      some (truncate (maxErrorDetailLength - 3) detail ++ "...")
    else some detail

/-- The message of `_run` about a command that failed. -/
def commandFailure (result : CommandResult) : String :=
  let message := "NordVPN command failed with exit status " ++ toString result.returncode
  match errorDetail unicode result with
  | some detail => message ++ ": " ++ detail
  | none => message

/-- The exit status of a command, checked. -/
def checkExit (result : CommandResult) : Except PyException CommandResult :=
  if result.returncode ≠ 0 then
    .error (.provider "PROVIDER_COMMAND_FAILED" (commandFailure unicode result))
  else .ok result

/-- `_run`. -/
def run (arguments : List String) : Nord CommandResult := do
  let result ← Program.call arguments
  Program.done (checkExit unicode result)

/-! ## Parsers -/

/-- One line of `_parse_fields`. -/
def parseField (fields : Dict String String) (line : String) :
    Except PyException (Dict String String) :=
  match partition ':' line with
  | none => .ok fields
  | some (key, value) =>
    let normalized := replaceChar ' ' '_' (replaceChar '-' '_' (casefold unicode (strip key)))
    let fieldValue := strip value
    if normalized.length > maxFieldLength ∨ fieldValue.length > maxFieldLength then
      .error (invalidOutput "NordVPN returned an oversized field")
    else if normalized ≠ "" ∧ fieldValue ≠ "" then .ok (fields.insert normalized fieldValue)
    else .ok fields

/-- `_parse_fields`. -/
def parseFields (output : String) : Except PyException (Dict String String) :=
  (splitlines output).foldlM (parseField unicode) .empty

/-- The states that `parse_status` knows. -/
def stateOf : String → Option VpnState
  | "connected" => some .connected
  | "connecting" => some .connecting
  | "disconnected" => some .disconnected
  | "disconnecting" => some .disconnecting
  | _ => none

def detailKeys : List String :=
  ["server", "hostname", "ip", "country", "city", "current_technology", "current_protocol",
    "protocol", "post_quantum_vpn", "transfer", "uptime"]

/-- `parse_status`. -/
def parseStatus (output : String) : Except PyException VpnStatus := do
  let fields ← parseFields unicode output
  match stateOf (casefold unicode ((fields.get? "status").getD "")) with
  | none => .error (.provider "UNPARSEABLE_STATUS" "NordVPN returned an unknown status")
  | some state =>
    let technology := casefold unicode ((fields.get? "current_technology").getD "")
    let protocol := casefold unicode
      ((fields.get? "current_protocol").getD ((fields.get? "protocol").getD ""))
    pure {
      state
      provider := name
      displayName := fields.get? "server" <|> fields.get? "hostname"
      interface := if technology = "nordlynx" ∨ protocol = "nordlynx" then some "nordlynx" else none
      details := Dict.ofPairs
        (detailKeys.filterMap fun key => (fields.get? key).map fun value => (key, value)) }

/-- `_parse_toggle`. -/
def parseToggle (value : Option String) : Option Bool :=
  match value.map (casefold unicode) with
  | some normalized =>
    if normalized ∈ ["enabled", "on", "true", "1"] then some true
    else if normalized ∈ ["disabled", "off", "false", "0"] then some false
    else none
  | none => none

/-- `parse_settings`. -/
def parseSettings (output : String) : Except PyException VpnSettings := do
  let fields ← parseFields unicode output
  pure {
    provider := name
    leakProtectionEnabled := parseToggle unicode (fields.get? "kill_switch")
    technology := fields.get? "technology" <|> fields.get? "protocol"
    routingEnabled := parseToggle unicode (fields.get? "routing")
    firewallEnabled := parseToggle unicode (fields.get? "firewall")
    firewallMark := fields.get? "firewall_mark" }

/-- `_normalize_discovery_value`. -/
def normalizeDiscoveryValue (label : String) (maxLength : Nat) : Except PyException String :=
  let ascii := (unicode.nfkd label.toList).filter fun c => decide (c.toNat < 128)
  let value := casefold unicode
    (stripBy (· == '_') (String.ofList (collapseRuns Char.isAlphanum false ascii)))
  if value = "" ∨ value.length > maxLength ∨ !isTarget value then
    .error (invalidOutput "NordVPN returned an invalid target option.")
  else .ok value

/-- One item of `_parse_discovery_options`, after the values already seen. -/
def parseDiscoveryOption (maxValueLength : Nat) (requireCodeShape : Bool) (seen : List String)
    (item : String) : Except PyException TargetOption :=
  if !item.toList.all unicode.isPrintable then
    .error (invalidOutput "NordVPN returned an invalid target option.")
  else
    let label := joinWords (split (replaceChar '_' ' ' item))
    if label = "" ∨ label.length > maxDiscoveryLabelLength then
      .error (invalidOutput "NordVPN returned an invalid target option.")
    else do
      let value ← normalizeDiscoveryValue unicode item maxValueLength
      if requireCodeShape && !isCode value then
        .error (invalidOutput "NordVPN returned an invalid country option.")
      else if value ∈ seen then
        .error (invalidOutput "NordVPN returned duplicate target options.")
      else
        let value ← validated _ value
        let label ← validated _ label
        pure ⟨value, label⟩

/-- `_parse_discovery_options`. -/
def parseDiscoveryOptions (output : String) (maxValueLength : Nat) (requireCodeShape : Bool) :
    Except PyException (List TargetOption) :=
  let items := ((splitlines output).map strip).filter (· ≠ "")
  if items.isEmpty then
    .error (invalidOutput "NordVPN returned an empty target option list.")
  else if items.length > maxTargetOptions then
    .error (.provider "PROVIDER_OUTPUT_TOO_LARGE" "NordVPN returned too many target options.")
  else
    items.foldlM (fun options item => do
      let option ← parseDiscoveryOption unicode maxValueLength requireCodeShape
        (options.map (·.value.val)) item
      pure (options ++ [option])) []

/-! ## Selectors -/

/-- The fields of each selector class, with the bounds on their lengths. -/
def selectorFields : String → Option (List (String × Nat × Nat))
  | "recommended" => some []
  | "country" => some [("country", 2, 32)]
  | "city" => some [("country", 2, 32), ("city", 1, 100)]
  | "group" => some [("group", 1, 100)]
  | "server" => some [("server", 1, 100)]
  | "legacy" => some [("value", 1, 100)]
  | _ => none

/-- One field of a selector class: text within its bounds. -/
def selectorField (selector : JsonObject) : String × Nat × Nat → Option (String × JsonScalar)
  | (field, lo, hi) =>
    match selector.get? field with
    | some (.str s) => if lo ≤ s.length ∧ s.length ≤ hi then some (field, .str s) else none
    | _ => none

/-- `SELECTOR_ADAPTER.validate_python`, dumped: the class that the kind names, with exactly its
fields. -/
def adaptSelector (selector : JsonObject) : Option (String × List (String × JsonScalar)) :=
  match selector.get? "kind" with
  | some (.str kind) => do
    let fields ← selectorFields kind
    if selector.keys.all (· ∈ "kind" :: fields.map Prod.fst) then
      let values ← fields.mapM (selectorField selector)
      pure (kind, values)
    else none
  | _ => none

/-- The text under a key of a validated selector. -/
def text (selector : JsonObject) (key : String) : String :=
  match selector.get? key with
  | some (.str s) => s
  | _ => ""

def invalidTarget (message : String) : PyException := .provider "INVALID_TARGET" message

/-- `validate_selector`. -/
def validateSelector (selector : JsonObject) : Except PyException JsonObject :=
  match adaptSelector selector with
  | none => .error (invalidTarget "NordVPN selector is invalid.")
  | some (kind, values) =>
    let result := Dict.ofPairs (("kind", .str kind) :: values)
    match values.find? fun field => !isTarget (text result field.1) with
    | some field =>
      .error (invalidTarget ("NordVPN selector field '" ++ field.1 ++ "' is invalid."))
    | none =>
      if kind = "country" ∨ kind = "city" then
        if !isCode (text result "country") then
          .error (invalidTarget "NordVPN country is invalid.")
        else .ok (result.insert "country" (.str (casefold unicode (text result "country"))))
      else .ok result

/-- The arguments that `connect_stored` gives to `nordvpn connect`. -/
def connectArguments (selector : JsonObject) : List String :=
  match text selector "kind" with
  | "recommended" => []
  | "city" => [text selector "country", text selector "city"]
  | "country" => [text selector "country"]
  | "group" => [text selector "group"]
  | "server" => [text selector "server"]
  | _ => [text selector "value"]

/-! ## Calls -/

/-- `_text_field`. -/
def textField (name : FieldName) (label : Label) : SelectorField where
  name := name
  label := label
  fieldType := .text
  maxLength := some 100

/-- `_provider_choice_field`. -/
def providerChoiceField (name : FieldName) (label : Label) (dependsOn : List String)
    (h : dependsOn.length ≤ maxSelectorFields) : SelectorField where
  name := name
  label := label
  fieldType := .choice
  optionSource := .provider
  dependsOn := dependsOn
  dependsOn_length := h

theorem country_label : 1 ≤ "Country".length ∧ "Country".length ≤ 100 := by decide

def countryField : SelectorField :=
  providerChoiceField ⟨"country", by decide⟩ ⟨"Country", by decide⟩ [] (by decide)

def cityField : SelectorField :=
  providerChoiceField ⟨"city", by decide⟩ ⟨"City", by decide⟩ ["country"] (by decide)

def groupField : SelectorField :=
  providerChoiceField ⟨"group", by decide⟩ ⟨"Group", by decide⟩ [] (by decide)

/-- `target_schema`. -/
def targetSchema : ProviderTargetSchema where
  provider := name
  selectorKinds := [
    { kind := ⟨"recommended", by decide⟩, label := ⟨"Fastest available server", by decide⟩ },
    { kind := ⟨"country", by decide⟩, label := ⟨"Fastest in country", by decide⟩,
      fields := [countryField] },
    { kind := ⟨"city", by decide⟩, label := ⟨"Fastest in city", by decide⟩,
      fields := [countryField, cityField] },
    { kind := ⟨"group", by decide⟩, label := ⟨"Server group", by decide⟩,
      fields := [groupField] },
    { kind := ⟨"server", by decide⟩, label := ⟨"Specific server", by decide⟩,
      fields := [textField ⟨"server", by decide⟩ ⟨"Server", by decide⟩] },
    { kind := ⟨"legacy", by decide⟩, label := ⟨"Legacy configured target", by decide⟩,
      fields := [textField ⟨"value", by decide⟩ ⟨"Provider target", by decide⟩] }]

/-- `status`. -/
def status : Nord VpnStatus := do
  let result ← run unicode ["status"]
  Program.done (parseStatus unicode result.stdout)

/-- `settings`. -/
def settings : Nord VpnSettings := do
  let result ← run unicode ["settings"]
  Program.done (parseSettings unicode result.stdout)

def invalidContext (message : String) : PyException := .provider "INVALID_TARGET_CONTEXT" message

/-- The options of each discoverable field. -/
def discover (kind field : String) (context : JsonObject) : Nord (List TargetOption) :=
  if (kind = "country" ∨ kind = "city") ∧ field = "country" then
    if context.keys ≠ [] then
      Program.raise (invalidContext "Country discovery does not accept dependency context.")
    else do
      let result ← run unicode ["countries"]
      Program.done (parseDiscoveryOptions unicode result.stdout 32 true)
  else if kind = "city" ∧ field = "city" then
    if context.keys ≠ ["country"] then
      Program.raise
        (invalidContext "City discovery requires exactly one country dependency.")
    else
      let country := text context "country"
      if country.length < 2 ∨ country.length > 32 ∨ !isCode country then
        Program.raise (invalidContext "City discovery country dependency is invalid.")
      else do
        let result ← run unicode ["cities", casefold unicode country]
        Program.done (parseDiscoveryOptions unicode result.stdout maxDiscoveryValueLength false)
  else if kind = "group" ∧ field = "group" then
    if context.keys ≠ [] then
      Program.raise (invalidContext "Group discovery does not accept dependency context.")
    else do
      let result ← run unicode ["groups"]
      Program.done (parseDiscoveryOptions unicode result.stdout maxDiscoveryValueLength false)
  else
    Program.raise (.provider "UNSUPPORTED_TARGET_DISCOVERY"
      "NordVPN does not support discovery for this selector field.")

/-- `target_options`. -/
def targetOptions (kind field : String) (context : JsonObject) : Nord TargetOptions := do
  let options ← discover unicode kind field context
  let kind ← Program.done (validated _ kind)
  let field ← Program.done (validated _ field)
  let options ← Program.done (validated (fun os => os.length ≤ maxTargetOptions) options)
  pure { provider := name, kind, field, options := options.val, options_length := options.2 }

/-- `connect_stored`. -/
def connectStored (target : StoredTarget) : Nord VpnStatus := do
  let selector ← Program.done (validateSelector unicode target.selector)
  let _ ← run unicode ("connect" :: connectArguments selector)
  let status ← status unicode
  pure { status with
    target := some target.alias.val
    displayName := status.displayName <|> some target.label.val }

/-- `disconnect`. -/
def disconnect : Nord VpnStatus := do
  let _ ← run unicode ["disconnect"]
  status unicode

/-- `set_leak_protection`. -/
def setLeakProtection (enabled : Bool) : Nord VpnSettings := do
  let _ ← run unicode ["set", "killswitch", if enabled then "on" else "off"]
  settings unicode

/-- The program of each call of the adapter. -/
def provider : (c : ProviderCall) → Nord c.Reply
  | .status => status unicode
  | .settings => settings unicode
  | .connectStored target => connectStored unicode target
  | .disconnect => disconnect unicode
  | .setLeakProtection enabled => setLeakProtection unicode enabled
  | .targetSchema => pure targetSchema
  | .targetOptions kind field context => targetOptions unicode kind field context
  | .validateSelector selector => Program.done (validateSelector unicode selector)

/-! ## Commands -/

section Exec

/-- The message about a failed command is not empty. -/
theorem commandFailure_length_pos (result : CommandResult) :
    1 ≤ (commandFailure unicode result).length := by
  have hprefix : 1 ≤ "NordVPN command failed with exit status ".length := by decide
  unfold commandFailure
  split <;> simp only [String.length_append] <;> omega

/-- Plain text on the error output is the detail of the message. -/
theorem errorDetail_of_plain {result : CommandResult} (hne : result.stderr ≠ "")
    (hplain : ∀ c ∈ result.stderr.toList, isSpace c = false ∧ unicode.isPrintable c = true)
    (hlength : result.stderr.length ≤ maxErrorDetailLength) :
    errorDetail unicode result = some result.stderr := by
  have hstrip : strip result.stderr = result.stderr := stripBy_of_none fun c hc => (hplain c hc).1
  have hprintable : String.ofList
      (result.stderr.toList.map fun c => if unicode.isPrintable c then c else ' ') =
        result.stderr := by
    rw [List.map_congr_left (g := id) fun c hc => by simp [(hplain c hc).2], List.map_id,
      String.ofList_toList]
  have hsplit : split result.stderr = [result.stderr] :=
    split_of_none hne fun c hc => (hplain c hc).1
  simp [errorDetail, hstrip, hne, hprintable, hsplit, joinWords_singleton, Nat.not_lt.mpr hlength]

theorem checkExit_ok {result : CommandResult} (h : result.returncode = 0) :
    checkExit unicode result = .ok result := if_neg (not_not.mpr h)

theorem checkExit_error {result : CommandResult} (h : result.returncode ≠ 0) :
    checkExit unicode result =
      .error (.provider "PROVIDER_COMMAND_FAILED" (commandFailure unicode result)) := if_pos h

variable {σ : Type} (runner : Handler commandRunner PyException σ)

theorem exec_run (arguments : List String) (s : σ) :
    (run unicode arguments).exec runner s =
      ⟨[⟨arguments, (runner arguments s).1, (runner arguments s).2⟩],
        (runner arguments s).1.bind (checkExit unicode), (runner arguments s).2⟩ := by
  rw [run, Program.bind_eq, Program.exec_bind_done]
  rfl

/-- A status read from the command line names no target. -/
theorem parseStatus_target {output : String} {parsed : VpnStatus}
    (h : parseStatus unicode output = .ok parsed) : parsed.target = none := by
  unfold parseStatus at h
  cases hfields : parseFields unicode output with
  | error e =>
    rw [hfields] at h
    cases h
  | ok fields =>
    simp only [hfields, bind, Except.bind] at h
    split at h
    · cases h
    · cases h
      rfl

/-- The status that a reply to `nordvpn status` amounts to. -/
def statusOf (reply : Except PyException CommandResult) : Except PyException VpnStatus :=
  (reply.bind (checkExit unicode)).bind fun result => parseStatus unicode result.stdout

/-- The settings that a reply to `nordvpn settings` amounts to. -/
def settingsOf (reply : Except PyException CommandResult) : Except PyException VpnSettings :=
  (reply.bind (checkExit unicode)).bind fun result => parseSettings unicode result.stdout

theorem exec_status (s : σ) :
    (status unicode).exec runner s =
      ⟨[⟨["status"], (runner ["status"] s).1, (runner ["status"] s).2⟩],
        statusOf unicode (runner ["status"] s).1, (runner ["status"] s).2⟩ := by
  rw [status, Program.bind_eq, Program.exec_bind_done, exec_run]
  rfl

theorem exec_settings (s : σ) :
    (settings unicode).exec runner s =
      ⟨[⟨["settings"], (runner ["settings"] s).1, (runner ["settings"] s).2⟩],
        settingsOf unicode (runner ["settings"] s).1, (runner ["settings"] s).2⟩ := by
  rw [settings, Program.bind_eq, Program.exec_bind_done, exec_run]
  rfl

theorem exec_status_target {s : σ} {observed : VpnStatus}
    (h : ((status unicode).exec runner s).result = .ok observed) : observed.target = none := by
  obtain ⟨result, -, hparse, -⟩ := Program.exec_bind_eq_ok runner h
  exact parseStatus_target unicode hparse

end Exec

/-- The command does not connect. -/
def NotConnect (arguments : List String) : Prop := arguments.head? ≠ some "connect"

theorem uses_run {allowed : List String → Prop} {arguments : List String}
    (h : allowed arguments) : (run unicode arguments).Uses allowed :=
  Program.uses_call_bind h fun _ => trivial

theorem uses_status : (status unicode).Uses NotConnect :=
  (uses_run unicode (by simp [NotConnect])).bind fun _ => trivial

theorem uses_settings : (settings unicode).Uses NotConnect :=
  (uses_run unicode (by simp [NotConnect])).bind fun _ => trivial

theorem uses_discover (kind field : String) (context : JsonObject) :
    (discover unicode kind field context).Uses NotConnect := by
  have hrun : ∀ arguments, NotConnect arguments → ∀ n b,
      (run unicode arguments).bind (fun result =>
        (Program.done (parseDiscoveryOptions unicode result.stdout n b) : Nord _)) |>.Uses
          NotConnect :=
    fun arguments h n b => (uses_run unicode h).bind fun _ => trivial
  unfold discover
  split
  · split
    · trivial
    · exact hrun _ (by simp [NotConnect]) _ _
  split
  · split
    · trivial
    dsimp only
    split
    · trivial
    · exact hrun _ (by simp [NotConnect]) _ _
  split
  · split
    · trivial
    · exact hrun _ (by simp [NotConnect]) _ _
  · trivial

/-- Only `connect_stored` runs `nordvpn connect`. -/
theorem uses_provider {c : ProviderCall} (hc : ∀ target, c ≠ .connectStored target) :
    (provider unicode c).Uses NotConnect := by
  cases c with
  | status => exact uses_status unicode
  | settings => exact uses_settings unicode
  | connectStored target => exact absurd rfl (hc target)
  | disconnect => exact (uses_run unicode (by simp [NotConnect])).bind fun _ => uses_status unicode
  | setLeakProtection enabled =>
    exact (uses_run unicode (by simp [NotConnect])).bind fun _ => uses_settings unicode
  | targetSchema => trivial
  | targetOptions kind field context =>
    exact (uses_discover unicode kind field context).bind fun options =>
      Program.Uses.bind trivial fun _ => Program.Uses.bind trivial fun _ =>
        Program.Uses.bind trivial fun _ => trivial
  | validateSelector selector => trivial

end NordVpn

end Snarkypuss
