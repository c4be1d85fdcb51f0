import Snarkypuss.Providers.NordVpn

/-!
# The fields of a command's output

What `_parse_fields` makes of a text, said of its lines: under a key stands the value of the last
line that has both a key that normalises to it and a value.

## Main definitions

* `NordVpn.fieldOf`: the field that a line is
* `NordVpn.lastField`: the last field of a key
* `NordVpn.Says`: a command that succeeded and printed one of some words in a field

## Main results

* `NordVpn.get?_parseFields`: the parser finds the last field of each key
* `NordVpn.parseStatus_state`, `NordVpn.parseSettings_protection`: what the parsers read off them
-/

namespace Snarkypuss.NordVpn

open Python

variable (unicode : UnicodeData)

/-- A key, as `_parse_fields` normalises it. -/
def normalizedKey (key : String) : String :=
  replaceChar ' ' '_' (replaceChar '-' '_' (casefold unicode (strip key)))

/-- The field that a line is: its normalised key and its value, when neither is empty. -/
def fieldOf (line : String) : Option (String × String) :=
  match partition ':' line with
  | none => none
  | some (key, value) =>
    if normalizedKey unicode key ≠ "" ∧ strip value ≠ "" then
      some (normalizedKey unicode key, strip value)
    else none

/-- The values of the fields under a key, in the order of their lines. -/
def fieldsOf (key : String) (lines : List String) : List String :=
  ((lines.filterMap (fieldOf unicode)).filter fun field => field.1 = key).map Prod.snd

/-- The last non-empty field whose key normalises to `key`. -/
def lastField (output key : String) : Option String :=
  (fieldsOf unicode key (splitlines output)).getLast?

/-- The command succeeded, and its last field under the key is one of the words in some case. -/
def Says (reply : Except PyException CommandResult) (key : String) (words : List String) : Prop :=
  ∃ result value, reply = .ok result ∧ result.returncode = 0 ∧
    lastField unicode result.stdout key = some value ∧ casefold unicode value ∈ words

variable {unicode}

/-- What one line does to the fields, when it is not oversized. -/
theorem parseField_ok {fields fields' : Dict String String} {line : String}
    (h : parseField unicode fields line = .ok fields') :
    fields' = match fieldOf unicode line with
      | some field => fields.insert field.1 field.2
      | none => fields := by
  unfold parseField at h
  unfold fieldOf
  cases hline : partition ':' line with
  | none =>
    rw [hline] at h
    exact (Except.ok.inj h).symm
  | some x =>
    obtain ⟨key, value⟩ := x
    simp only [hline] at h
    split at h
    · cases h
    · change (if normalizedKey unicode key ≠ "" ∧ strip value ≠ "" then _ else _) = _ at h
      dsimp only
      split at h
      · rename_i hne
        rw [if_pos hne]
        exact (Except.ok.inj h).symm
      · rename_i hempty
        rw [if_neg hempty]
        exact (Except.ok.inj h).symm

theorem fieldsOf_cons (key line : String) (lines : List String) :
    fieldsOf unicode key (line :: lines) =
      (((fieldOf unicode line).toList.filter fun field => field.1 = key).map Prod.snd) ++
        fieldsOf unicode key lines := by
  unfold fieldsOf
  rw [List.filterMap_cons]
  cases fieldOf unicode line with
  | none => rfl
  | some field =>
    rw [List.filter_cons]
    by_cases hkey : field.1 = key <;> simp [hkey]

/-- Behind the fields of the lines stand those that were there before. -/
theorem get?_foldlM {fields fields' : Dict String String} {lines : List String} (key : String)
    (h : lines.foldlM (parseField unicode) fields = .ok fields') :
    fields'.get? key = (fieldsOf unicode key lines).getLast?.or (fields.get? key) := by
  induction lines generalizing fields with
  | nil =>
    obtain rfl := Except.ok.inj h
    rfl
  | cons line lines ih =>
    rw [List.foldlM_cons] at h
    obtain ⟨fields₁, hline, hrest⟩ := bind_eq_ok.mp h
    rw [ih hrest, fieldsOf_cons, List.getLast?_append, Option.or_assoc]
    congr 1
    rw [parseField_ok hline]
    cases fieldOf unicode line with
    | none => rfl
    | some field =>
      dsimp only
      rw [Dict.get?_insert]
      by_cases hkey : field.1 = key
      · simp [hkey]
      · simp [hkey, Ne.symm hkey]

/-- **Under each key the parser finds the last field of the key.** -/
theorem get?_parseFields {output : String} {fields : Dict String String} (key : String)
    (h : parseFields unicode output = .ok fields) :
    fields.get? key = lastField unicode output key := by
  rw [get?_foldlM key h, Dict.get?_empty, Option.or_none]
  rfl

/-- The state of a status is that of the last `status` field. -/
theorem parseStatus_state {output : String} {status : VpnStatus}
    (h : parseStatus unicode output = .ok status) :
    stateOf (casefold unicode ((lastField unicode output "status").getD "")) = some status.state := by
  unfold parseStatus at h
  obtain ⟨fields, hfields, h⟩ := bind_eq_ok.mp h
  rw [← get?_parseFields "status" hfields]
  cases hstate : stateOf (casefold unicode ((fields.get? "status").getD "")) with
  | none =>
    simp only [hstate] at h
    cases h
  | some state =>
    simp only [hstate] at h
    obtain rfl := Except.ok.inj h
    rfl

/-- The protection of the settings is the toggle of the last `kill_switch` field. -/
theorem parseSettings_protection {output : String} {settings : VpnSettings}
    (h : parseSettings unicode output = .ok settings) :
    settings.leakProtectionEnabled = parseToggle unicode (lastField unicode output "kill_switch") := by
  unfold parseSettings at h
  obtain ⟨fields, hfields, h⟩ := bind_eq_ok.mp h
  obtain rfl := Except.ok.inj h
  rw [← get?_parseFields "kill_switch" hfields]

/-- The words that a toggle is read from. -/
theorem parseToggle_eq_some {value : Option String} {b : Bool}
    (h : parseToggle unicode value = some b) :
    ∃ text, value = some text ∧ casefold unicode text ∈
      if b then ["enabled", "on", "true", "1"] else ["disabled", "off", "false", "0"] := by
  unfold parseToggle at h
  cases value with
  | none => cases h
  | some text =>
    refine ⟨text, rfl, ?_⟩
    simp only [Option.map_some] at h
    split at h
    · rename_i hon
      obtain rfl := Option.some.inj h
      exact hon
    · split at h
      · rename_i hoff
        obtain rfl := Option.some.inj h
        exact hoff
      · cases h

/-- The state that a word is. -/
theorem stateOf_eq_connected {word : String} (h : stateOf word = some .connected) :
    word = "connected" := by
  unfold stateOf at h
  split at h <;> first | rfl | cases h

theorem stateOf_eq_disconnected {word : String} (h : stateOf word = some .disconnected) :
    word = "disconnected" := by
  unfold stateOf at h
  split at h <;> first | rfl | cases h

/-! ### Command replies -/

section Replies

variable {reply : Except PyException CommandResult}

/-- A parsed reply is that of a command that succeeded. -/
theorem checked_eq_ok {A : Type} {parse : CommandResult → Except PyException A} {a : A}
    (h : (reply.bind (checkExit unicode)).bind parse = .ok a) :
    ∃ result, reply = .ok result ∧ result.returncode = 0 ∧ parse result = .ok a := by
  obtain ⟨result, hresult, hparse⟩ := bind_eq_ok.mp h
  obtain ⟨result', rfl, hcheck⟩ := bind_eq_ok.mp hresult
  by_cases hcode : result'.returncode = 0
  · rw [checkExit_ok unicode hcode] at hcheck
    obtain rfl := Except.ok.inj hcheck
    exact ⟨_, rfl, hcode, hparse⟩
  · rw [checkExit_error unicode hcode] at hcheck
    cases hcheck

/-- A status in a state that one word stands for comes from a command that said it. -/
theorem says_of_statusOf {status : VpnStatus} (h : statusOf unicode reply = .ok status)
    {word : String} (hword : ∀ text, stateOf text = some status.state → text = word)
    (hne : word ≠ "") : Says unicode reply "status" [word] := by
  obtain ⟨result, rfl, hcode, hparse⟩ := checked_eq_ok h
  have htext := hword _ (parseStatus_state hparse)
  cases hfield : lastField unicode result.stdout "status" with
  | none =>
    rw [hfield] at htext
    exact absurd htext.symm hne
  | some value =>
    rw [hfield] at htext
    exact ⟨result, value, rfl, hcode, hfield, List.mem_singleton.mpr htext⟩

/-- A protection that the settings report comes from a command that said so. -/
theorem says_of_settingsOf {settings : VpnSettings} (h : settingsOf unicode reply = .ok settings)
    {b : Bool} (hb : settings.leakProtectionEnabled = some b) :
    Says unicode reply "kill_switch"
      (if b then ["enabled", "on", "true", "1"] else ["disabled", "off", "false", "0"]) := by
  obtain ⟨result, rfl, hcode, hparse⟩ := checked_eq_ok h
  rw [parseSettings_protection hparse] at hb
  obtain ⟨value, hfield, hmem⟩ := parseToggle_eq_some hb
  exact ⟨result, value, rfl, hcode, hfield, hmem⟩

end Replies

end Snarkypuss.NordVpn
