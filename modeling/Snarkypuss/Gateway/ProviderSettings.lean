import Snarkypuss.Gateway.Setup
import Snarkypuss.Providers.Fields

/-!
# The settings of the provider, read twice

`snarkypuss-nordvpn-configure.py` verifies the text of `nordvpn settings` with a parser of its
own. The daemon reads the same text with another. Where the two differ is stated exactly: a field
that only the daemon finds too long, a word that only the script takes for on, and a technology
that stands beside the protocol.

## Main definitions

* `NordVpnSetup.parseFields`, `NordVpnSetup.toggle`, `NordVpnSetup.verifySettings`: the script
* `NordVpnSetup.Verified`: what the script has seen in the text
* `NordVpn.Oversized`: a line that the daemon refuses

## Main results

* `NordVpnSetup.verifySettings_eq_ok`: the texts that the script accepts
* `NordVpnSetup.verified_protected_iff`: the accepted texts that the daemon reads as protected
-/

namespace Snarkypuss

open Python

variable (unicode : UnicodeData)

/-! ## The daemon's fields -/

namespace NordVpn

/-- The line has a field that is longer than the daemon admits. -/
def Oversized (line : String) : Prop :=
  ∃ field ∈ partition ':' line,
    maxFieldLength < (normalizedKey unicode field.1).length ∨
      maxFieldLength < (strip field.2).length

variable {unicode}

/-- A line is read unless it is oversized. -/
theorem parseField_isOk {fields : Dict String String} {line : String} :
    (∃ fields', parseField unicode fields line = .ok fields') ↔ ¬ Oversized unicode line := by
  unfold parseField Oversized
  cases partition ':' line with
  | none => simp
  | some field =>
    simp only [Option.mem_def, Option.some.injEq, exists_eq_left']
    change (∃ fields', (if maxFieldLength < (normalizedKey unicode field.1).length ∨
      maxFieldLength < (strip field.2).length then _ else _) = _) ↔ _
    by_cases hlong : maxFieldLength < (normalizedKey unicode field.1).length ∨
        maxFieldLength < (strip field.2).length
    · rw [if_pos hlong]
      simp [hlong]
    · rw [if_neg hlong]
      simp only [hlong, not_false_eq_true, iff_true]
      split <;> exact ⟨_, rfl⟩

/-- **The daemon reads a text unless one of its lines is oversized.** -/
theorem foldlM_parseField_isOk (fields : Dict String String) {lines : List String} :
    (∃ fields', lines.foldlM (parseField unicode) fields = .ok fields') ↔
      ∀ line ∈ lines, ¬ Oversized unicode line := by
  induction lines generalizing fields with
  | nil => simpa using ⟨fields, rfl⟩
  | cons line lines ih =>
    simp only [List.foldlM_cons, List.forall_mem_cons]
    constructor
    · rintro ⟨fields', h⟩
      obtain ⟨fields₁, hline, hrest⟩ := bind_eq_ok.mp h
      exact ⟨parseField_isOk.mp ⟨fields₁, hline⟩, (ih fields₁).mp ⟨fields', hrest⟩⟩
    · rintro ⟨hline, hrest⟩
      obtain ⟨fields₁, hline⟩ := parseField_isOk.mpr hline
      obtain ⟨fields', hrest⟩ := (ih fields₁).mpr hrest
      exact ⟨fields', bind_eq_ok.mpr ⟨fields₁, hline, hrest⟩⟩

/-- The settings that the daemon makes of a text: its fields, unless a line is oversized. -/
theorem parseSettings_eq_ok {output : String} {settings : VpnSettings}
    (h : parseSettings unicode output = .ok settings) :
    settings.leakProtectionEnabled =
        parseToggle unicode (lastField unicode output "kill_switch") ∧
      settings.technology =
        (lastField unicode output "technology" <|> lastField unicode output "protocol") := by
  obtain ⟨fields, hfields, h⟩ := bind_eq_ok.mp h
  obtain rfl := Except.ok.inj h
  simp only [get?_parseFields _ hfields, and_self]

theorem parseSettings_isOk {output : String} :
    (∃ settings, parseSettings unicode output = .ok settings) ↔
      ∀ line ∈ splitlines output, ¬ Oversized unicode line := by
  rw [← foldlM_parseField_isOk .empty]
  constructor
  · rintro ⟨settings, h⟩
    obtain ⟨fields, hfields, -⟩ := bind_eq_ok.mp h
    exact ⟨fields, hfields⟩
  · rintro ⟨fields, hfields⟩
    exact ⟨_, bind_eq_ok.mpr ⟨fields, hfields, rfl⟩⟩

end NordVpn

/-! ## The script's fields -/

namespace NordVpnSetup

open NordVpn (normalizedKey)
open Gateway (ScriptError require)

/-- The field that a line is to the script, whose values may be empty. -/
def fieldOf (line : String) : Option (String × String) :=
  match partition ':' line with
  | none => none
  | some (key, value) =>
    let normalized := normalizedKey unicode key
    if normalized ≠ "" then some (normalized, strip value) else none

/-- `_parse_fields`. -/
def parseFields (output : String) : Dict String String :=
  (splitlines output).foldl (fun fields line =>
    match fieldOf unicode line with
    | some field => fields.insert field.1 field.2
    | none => fields) .empty

/-- `_toggle`. -/
def toggle (value : Option String) : Option Bool :=
  match value.map (casefold unicode) with
  | some normalized =>
    if normalized ∈ ["enabled", "enable", "on", "true", "1"] then some true
    else if normalized ∈ ["disabled", "disable", "off", "false", "0"] then some false
    else none
  | none => none

/-- `fields.get("auto_connect") or fields.get("autoconnect")`. -/
def autoconnect (fields : Dict String String) : Option String :=
  match fields.get? "auto_connect" with
  | some value => if value ≠ "" then some value else fields.get? "autoconnect"
  | none => fields.get? "autoconnect"

/-- The text of the exception about the technology. -/
def unverifiedTechnology (technology : String) : String :=
  let reported := if technology ≠ "" then technology else "unknown"
  s!"NordVPN settings did not verify NordLynx technology (reported {reported})"

/-- `verify_settings`. -/
def verifySettings (output protocolField : String) : Except ScriptError Unit := do
  let fields := parseFields unicode output
  let technology := casefold unicode ((fields.get? protocolField).getD "")
  require (technology = "nordlynx") (unverifiedTechnology technology)
  require (toggle unicode (fields.get? "kill_switch") = some true)
    "NordVPN settings did not verify Kill Switch enabled"
  require (toggle unicode (autoconnect fields) = some false)
    "NordVPN settings did not verify auto-connect disabled"

/-- What the script has seen in a text that it accepts. -/
structure Verified (output protocolField : String) : Prop where
  technology : ∃ value, (parseFields unicode output).get? protocolField = some value ∧
    casefold unicode value = "nordlynx"
  killSwitch : ∃ value, (parseFields unicode output).get? "kill_switch" = some value ∧
    casefold unicode value ∈ ["enabled", "enable", "on", "true", "1"]
  autoconnect : ∃ value, NordVpnSetup.autoconnect (parseFields unicode output) = some value ∧
    casefold unicode value ∈ ["disabled", "disable", "off", "false", "0"]

variable {unicode}

theorem toggle_eq_true {value : Option String} :
    toggle unicode value = some true ↔
      ∃ text, value = some text ∧
        casefold unicode text ∈ ["enabled", "enable", "on", "true", "1"] := by
  cases value with
  | none => simp [toggle]
  | some text =>
    simp only [toggle, Option.map_some, Option.some.injEq, exists_eq_left']
    split
    · rename_i hon
      exact iff_of_true rfl hon
    · rename_i hon
      simp only [hon, iff_false]
      split <;> simp

theorem toggle_eq_false {value : Option String} :
    toggle unicode value = some false ↔
      ∃ text, value = some text ∧
        casefold unicode text ∈ ["disabled", "disable", "off", "false", "0"] := by
  cases value with
  | none => simp [toggle]
  | some text =>
    simp only [toggle, Option.map_some, Option.some.injEq, exists_eq_left']
    split
    · rename_i hon
      -- no word is in both lists
      simp only [Option.some.injEq, Bool.true_eq_false, false_iff]
      intro hoff
      simp only [List.mem_cons, List.not_mem_nil, or_false] at hon hoff
      rcases hon with h | h | h | h | h <;> simp [h] at hoff
    · split <;> simp [*]

/-- The texts that the script accepts. -/
theorem verifySettings_eq_ok {output protocolField : String} :
    verifySettings unicode output protocolField = .ok () ↔
      Verified unicode output protocolField := by
  have htechnology : ∀ value : Option String,
      casefold unicode (value.getD "") = "nordlynx" ↔
        ∃ text, value = some text ∧ casefold unicode text = "nordlynx" := by
    intro value
    cases value with
    | none => simp [casefold]
    | some text => simp
  simp only [verifySettings, bind_eq_ok, Gateway.require_eq_ok, htechnology, toggle_eq_true,
    toggle_eq_false]
  constructor
  · rintro ⟨-, htechnology, -, hkill, hauto⟩
    exact ⟨htechnology, hkill, hauto⟩
  · rintro ⟨htechnology, hkill, hauto⟩
    exact ⟨(), htechnology, (), hkill, hauto⟩

/-! ## The two readings of a field -/

variable (unicode) in
/-- The values under a key, in the order of their lines, empty ones included. -/
def valuesOf (key : String) (lines : List String) : List String :=
  ((lines.filterMap (fieldOf unicode)).filter fun field => field.1 = key).map Prod.snd

theorem valuesOf_cons (key line : String) (lines : List String) :
    valuesOf unicode key (line :: lines) =
      (((fieldOf unicode line).toList.filter fun field => field.1 = key).map Prod.snd) ++
        valuesOf unicode key lines := by
  unfold valuesOf
  rw [List.filterMap_cons]
  cases fieldOf unicode line with
  | none => rfl
  | some field =>
    rw [List.filter_cons]
    by_cases hkey : field.1 = key <;> simp [hkey]

theorem get?_foldl {lines : List String} (key : String) (fields : Dict String String) :
    (lines.foldl (fun fields line =>
      match fieldOf unicode line with
      | some field => fields.insert field.1 field.2
      | none => fields) fields).get? key =
      (valuesOf unicode key lines).getLast?.or (fields.get? key) := by
  induction lines generalizing fields with
  | nil => rfl
  | cons line lines ih =>
    rw [List.foldl_cons, ih, valuesOf_cons, List.getLast?_append, Option.or_assoc]
    congr 1
    cases fieldOf unicode line with
    | none => rfl
    | some field =>
      dsimp only
      rw [Dict.get?_insert]
      by_cases hkey : field.1 = key
      · simp [hkey]
      · simp [hkey, Ne.symm hkey]

/-- The script finds the last value under a key, empty or not. -/
theorem get?_parseFields (output key : String) :
    (parseFields unicode output).get? key = (valuesOf unicode key (splitlines output)).getLast? := by
  rw [parseFields, get?_foldl, Dict.get?_empty, Option.or_none]

/-- The daemon's fields are those of the script that are not empty. -/
theorem fieldOf_filter (line : String) :
    NordVpn.fieldOf unicode line = (fieldOf unicode line).filter fun field => field.2 ≠ "" := by
  unfold NordVpn.fieldOf fieldOf
  cases partition ':' line with
  | none => rfl
  | some field =>
    dsimp only
    by_cases hkey : normalizedKey unicode field.1 = ""
    · simp [hkey]
    · by_cases hvalue : strip field.2 = "" <;> simp [hkey, hvalue, Option.filter]

theorem fieldsOf_eq_filter (key : String) (lines : List String) :
    NordVpn.fieldsOf unicode key lines = (valuesOf unicode key lines).filter (· ≠ "") := by
  induction lines with
  | nil => rfl
  | cons line lines ih =>
    rw [NordVpn.fieldsOf_cons, valuesOf_cons, List.filter_append, ih, fieldOf_filter]
    congr 1
    cases fieldOf unicode line with
    | none => rfl
    | some field =>
      by_cases hvalue : field.2 = "" <;> by_cases hkey : field.1 = key <;>
        simp [Option.filter, hvalue, hkey]

/-- Where the last value under a key is not empty, the daemon finds it as well. -/
theorem lastField_of_get? {output key value : String}
    (h : (parseFields unicode output).get? key = some value) (hne : value ≠ "") :
    NordVpn.lastField unicode output key = some value := by
  rw [get?_parseFields, List.getLast?_eq_some_iff] at h
  obtain ⟨values, hvalues⟩ := h
  rw [NordVpn.lastField, fieldsOf_eq_filter, hvalues, List.filter_append]
  simp [hne]

theorem ne_empty_of_casefold {value word : String} (h : casefold unicode value = word)
    (hword : word ≠ "") : value ≠ "" := by
  rintro rfl
  exact hword (by simpa [casefold] using h.symm)

/-! ## Where they agree -/

/-- A word that both toggles know is on. -/
theorem parseToggle_of_on {value : String}
    (h : casefold unicode value ∈ ["enabled", "enable", "on", "true", "1"]) :
    NordVpn.parseToggle unicode (some value) = some true ↔ casefold unicode value ≠ "enable" := by
  simp only [NordVpn.parseToggle, Option.map_some]
  simp only [List.mem_cons, List.not_mem_nil, or_false] at h
  rcases h with h | h | h | h | h <;> simp [h]

/-- **Where setup verification and the daemon agree.** The daemon reads a text that the script
accepted, as protected by NordLynx, exactly when no line is oversized, the kill switch is not
reported by the word "enable", and no other technology is reported beside the protocol. -/
theorem verified_protected_iff {output protocolField : String}
    (hfield : protocolField = "technology" ∨ protocolField = "protocol")
    (h : verifySettings unicode output protocolField = .ok ()) :
    (∃ settings, NordVpn.parseSettings unicode output = .ok settings ∧
        settings.leakProtectionEnabled = some true ∧
        ∃ technology, settings.technology = some technology ∧
          casefold unicode technology = "nordlynx") ↔
      (∀ line ∈ splitlines output, ¬ NordVpn.Oversized unicode line) ∧
        (∀ value ∈ NordVpn.lastField unicode output "kill_switch",
          casefold unicode value ≠ "enable") ∧
        (protocolField = "protocol" → ∀ value ∈ NordVpn.lastField unicode output "technology",
          casefold unicode value = "nordlynx") := by
  obtain ⟨⟨technology, htechnology, hnordlynx⟩, ⟨kill, hkill, hon⟩, -⟩ :=
    verifySettings_eq_ok.mp h
  have htechnology := lastField_of_get? htechnology (ne_empty_of_casefold hnordlynx (by decide))
  have hkill := lastField_of_get? hkill (by rintro rfl; simp [casefold] at hon)
  -- what the daemon takes for the technology, once the text is read at all
  have hreported : (∃ value, (NordVpn.lastField unicode output "technology" <|>
        NordVpn.lastField unicode output "protocol") = some value ∧
        casefold unicode value = "nordlynx") ↔
      (protocolField = "protocol" → ∀ value ∈ NordVpn.lastField unicode output "technology",
        casefold unicode value = "nordlynx") := by
    rcases hfield with rfl | rfl
    · simp [htechnology, hnordlynx]
    · cases hbeside : NordVpn.lastField unicode output "technology" with
      | none => simp [htechnology, hnordlynx]
      | some value => simp
  rw [← hreported, ← NordVpn.parseSettings_isOk]
  simp only [hkill, Option.mem_def, Option.some.injEq, forall_eq', ← parseToggle_of_on hon]
  constructor
  · rintro ⟨settings, hsettings, hprotection, hvalue⟩
    obtain ⟨hleak, htech⟩ := NordVpn.parseSettings_eq_ok hsettings
    exact ⟨⟨settings, hsettings⟩, by rw [← hkill, ← hleak, hprotection], htech ▸ hvalue⟩
  · rintro ⟨⟨settings, hsettings⟩, hprotection, hvalue⟩
    obtain ⟨hleak, htech⟩ := NordVpn.parseSettings_eq_ok hsettings
    exact ⟨settings, hsettings, by rw [hleak, hkill, hprotection], htech ▸ hvalue⟩

/-- The settings of a gateway that both read as protected. -/
theorem verified_protected_enabled :
    ∃ settings, NordVpn.parseSettings asciiData
        "Technology: NORDLYNX\nKill Switch: enabled\nAuto-connect: disabled\n" = .ok settings ∧
      settings.leakProtectionEnabled = some true ∧
      ∃ technology, settings.technology = some technology ∧
        casefold asciiData technology = "nordlynx" :=
  (verified_protected_iff (.inl rfl) (by decide +kernel)).mpr ⟨by
    rw [← NordVpn.parseSettings_isOk]
    exact ⟨_, rfl⟩, by decide +kernel, by decide⟩

/-- A text that setup verification accepts and whose kill switch is unknown to the daemon. -/
theorem verified_unknown_enable :
    verifySettings asciiData "Technology: NORDLYNX\nKill Switch: enable\nAuto-connect: disabled\n"
        "technology" = .ok () ∧
      (NordVpn.parseSettings asciiData
        "Technology: NORDLYNX\nKill Switch: enable\nAuto-connect: disabled\n").toOption.map
          (·.leakProtectionEnabled) = some none := by
  decide +kernel

end NordVpnSetup

end Snarkypuss
