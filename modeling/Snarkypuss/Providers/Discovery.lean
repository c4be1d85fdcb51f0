import Snarkypuss.Providers.Fields
import Snarkypuss.Providers.Selectors
import Snarkypuss.Python.Conversions

/-!
# Discovered options

The options that the adapter makes of the lines of a command, and the selectors that are made of
them. An option can be saved unless it is a country named by a single letter: discovery admits it,
and the selector of a country has at least two characters.

## Main definitions

* `NordVpn.discoveryItems`: the lines that options are made of
* `NordVpn.asciiName`: the ASCII letters and digits of a line
* `NordVpn.optionSelector`: the selector that an option stands for
* `NordVpn.Saved`: the adapter accepts the selector of an option and connects with its value

## Main results

* `NordVpn.parseDiscoveryOptions_ok`: the options of a text are distinct, one for each line
* `NordVpn.options_saved_iff`: when every discovered option can be saved
-/

namespace Snarkypuss.NordVpn

open Python

variable {unicode : UnicodeData}

/-! ## The value of a line -/

/-- The ASCII letters and digits of a text, once it is decomposed. -/
def asciiName (unicode : UnicodeData) (text : String) : List Char :=
  (unicode.nfkd text.toList).filter Char.isAlphanum

section Collapse

variable {kept : Char → Bool} {cs : List Char}

/-- Runs outside the class are replaced, and what is in the class stays. -/
theorem filter_collapseRuns (hkept : kept '_' = false) (within : Bool) :
    (collapseRuns kept within cs).filter kept = cs.filter kept := by
  induction cs generalizing within with
  | nil => rfl
  | cons c cs ih =>
    unfold collapseRuns
    split
    · rename_i hc
      rw [List.filter_cons_of_pos hc, List.filter_cons_of_pos hc, ih]
    · rename_i hc
      split
      · rw [List.filter_cons_of_neg hc, ih]
      · rw [List.filter_cons_of_neg (by simp [hkept]), List.filter_cons_of_neg hc, ih]

theorem mem_collapseRuns {within : Bool} {c : Char} (h : c ∈ collapseRuns kept within cs) :
    kept c = true ∨ c = '_' := by
  induction cs generalizing within with
  | nil => simp [collapseRuns] at h
  | cons c' cs ih =>
    unfold collapseRuns at h
    split at h
    · rename_i hc'
      rcases List.mem_cons.mp h with rfl | h
      · exact .inl hc'
      · exact ih h
    · split at h
      · exact ih h
      · rcases List.mem_cons.mp h with rfl | h
        · exact .inr rfl
        · exact ih h

/-- Stripping a class keeps what is outside it. -/
theorem filter_stripList {p : Char → Bool} (h : ∀ c, p c = true → kept c = false) :
    (stripList p cs).filter kept = cs.filter kept := by
  obtain ⟨a, b, hsplit, ha, hb⟩ := exists_stripList p cs
  have hnone : ∀ l : List Char, (∀ c ∈ l, p c) → l.filter kept = [] := by
    intro l hl
    rw [List.filter_eq_nil_iff]
    intro c hc
    simp [h c (hl c hc)]
  conv_rhs => rw [hsplit]
  simp [hnone a ha, hnone b hb]

/-- A list that starts and ends in a class has two elements of it as soon as it has two. -/
theorem two_le_length_filter {p : Char → Bool} (hfirst : ∀ c ∈ cs.head?, p c)
    (hlast : ∀ c ∈ cs.getLast?, p c) : 2 ≤ (cs.filter p).length ↔ 2 ≤ cs.length := by
  refine ⟨fun h => h.trans (List.length_filter_le p cs), fun h => ?_⟩
  cases cs with
  | nil => simp at h
  | cons c cs =>
    rcases List.eq_nil_or_concat cs with rfl | ⟨mid, d, rfl⟩
    · simp at h
    · have hc : p c := hfirst c rfl
      have hd : p d := hlast d (by simp [List.getLast?_cons])
      simp [List.filter_append, hc, hd]

end Collapse

/-- Folding the case of folded ASCII text changes nothing. -/
theorem casefold_casefold_ascii (hunicode : unicode.FoldsAscii) {s : String}
    (h : ∀ c ∈ s.toList, c.toNat < 128) :
    casefold unicode (casefold unicode s) = casefold unicode s := by
  have hlower : ∀ c ∈ s.toList, c.toLower.toNat < 128 ∧ c.toLower.toLower = c.toLower :=
    fun c hc => of_ascii (P := fun c => c.toLower.toNat < 128 ∧ c.toLower.toLower = c.toLower)
      (by decide) (h c hc)
  rw [casefold_of_ascii hunicode h, casefold_of_ascii hunicode]
  · rw [String.toList_ofList, List.map_map]
    exact congrArg String.ofList (List.map_congr_left fun c hc => (hlower c hc).2)
  · intro c hc
    rw [String.toList_ofList] at hc
    obtain ⟨c', hc', rfl⟩ := List.mem_map.mp hc
    exact (hlower c' hc').1

/-- **The value of a line.** It is a target text in lower case, and a single character exactly
when the line has a single ASCII letter or digit. -/
theorem normalizeDiscoveryValue_ok (hunicode : unicode.FoldsAscii) {item value : String} {n : Nat}
    (h : normalizeDiscoveryValue unicode item n = .ok value) :
    isTarget value ∧ value.length ≤ n ∧ casefold unicode value = value ∧
      (2 ≤ value.length ↔ 2 ≤ (asciiName unicode item).length) := by
  unfold normalizeDiscoveryValue at h
  dsimp only at h
  split at h
  · cases h
  rename_i hvalid
  obtain rfl := Except.ok.inj h
  simp only [not_or, Bool.not_eq_true', Bool.not_eq_false] at hvalid
  obtain ⟨-, hlength, htarget⟩ := hvalid
  generalize hascii : (unicode.nfkd item.toList).filter (fun c => decide (c.toNat < 128)) = ascii
    at hlength htarget
  generalize hstripped : stripBy (· == '_')
    (String.ofList (collapseRuns Char.isAlphanum false ascii)) = stripped at hlength htarget
  have hlist : stripped.toList = stripList (· == '_') (collapseRuns Char.isAlphanum false ascii) := by
    rw [← hstripped, toList_stripBy, String.toList_ofList]
  obtain ⟨a, b, hsplit, -, -⟩ :=
    exists_stripList (· == '_') (collapseRuns Char.isAlphanum false ascii)
  have hmem : ∀ c ∈ stripped.toList, c.isAlphanum = true ∨ c = '_' := by
    intro c hc
    rw [hlist] at hc
    have hrun : c ∈ collapseRuns Char.isAlphanum false ascii := by
      rw [hsplit]
      exact List.mem_append_left _ (List.mem_append_right _ hc)
    exact mem_collapseRuns hrun
  have hsmall : ∀ c ∈ stripped.toList, c.toNat < 128 := by
    intro c hc
    rcases hmem c hc with hc | rfl
    · exact isAlphanum_lt hc
    · decide
  -- the ends of what is left are letters or digits, since no underscore is left there
  have hends : ∀ c ∈ stripped.toList, (c == '_') = false → c.isAlphanum = true := by
    intro c hc hnot
    rcases hmem c hc with hc | rfl
    · exact hc
    · simp at hnot
  have hcount : 2 ≤ (stripped.toList.filter Char.isAlphanum).length ↔ 2 ≤ stripped.toList.length := by
    refine two_le_length_filter (fun c hc => ?_) fun c hc => ?_
    · exact hends c (List.mem_of_head? hc) (head?_stripList c (by rwa [← hlist]))
    · exact hends c (List.mem_of_getLast? hc) (getLast?_stripList c (by rwa [← hlist]))
  have hname : stripped.toList.filter Char.isAlphanum = asciiName unicode item := by
    rw [hlist, filter_stripList (by simp), filter_collapseRuns (by decide), ← hascii, asciiName,
      List.filter_filter]
    refine List.filter_congr fun c _ => ?_
    by_cases hc : c.isAlphanum = true
    · simp [hc, isAlphanum_lt hc]
    · simp [hc]
  have hfolded : (casefold unicode stripped).length = stripped.length := by
    rw [casefold_of_ascii hunicode hsmall, String.length_ofList, List.length_map,
      String.length_toList]
  refine ⟨htarget, Nat.le_of_not_lt hlength, casefold_casefold_ascii hunicode hsmall, ?_⟩
  rw [hfolded, ← hname, hcount, String.length_toList]

/-! ## The options of a text -/

/-- The lines with something on them. -/
def discoveryItems (output : String) : List String :=
  ((splitlines output).map strip).filter (· ≠ "")

/-- The option is the one that discovery makes of the item. -/
structure OptionOf (unicode : UnicodeData) (maxValueLength : Nat) (requireCodeShape : Bool)
    (item : String) (option : TargetOption) : Prop where
  value : normalizeDiscoveryValue unicode item maxValueLength = .ok option.value.val
  code : requireCodeShape = true → isCode option.value.val

theorem parseDiscoveryOption_ok {n : Nat} {shape : Bool} {seen : List String} {item : String}
    {option : TargetOption} (h : parseDiscoveryOption unicode n shape seen item = .ok option) :
    OptionOf unicode n shape item option ∧ option.value.val ∉ seen := by
  unfold parseDiscoveryOption at h
  split at h
  · cases h
  dsimp only at h
  split at h
  · cases h
  obtain ⟨value, hvalue, h⟩ := bind_eq_ok.mp h
  split at h
  · cases h
  rename_i hcode
  split at h
  · cases h
  rename_i hfresh
  obtain ⟨value', hvalue', h⟩ := bind_eq_ok.mp h
  obtain ⟨label, -, h⟩ := bind_eq_ok.mp h
  obtain rfl := Except.ok.inj h
  obtain rfl : value'.val = value := by
    unfold validated at hvalue'
    split at hvalue'
    · rw [← Except.ok.inj hvalue']
    · cases hvalue'
  exact ⟨⟨hvalue, fun hshape => by simpa [hshape] using hcode⟩, hfresh⟩

/-- One turn of the loop of `_parse_discovery_options`. -/
def addOption (unicode : UnicodeData) (n : Nat) (shape : Bool) (options : List TargetOption)
    (item : String) : Except PyException (List TargetOption) := do
  let option ← parseDiscoveryOption unicode n shape (options.map (·.value.val)) item
  pure (options ++ [option])

/-- The options that are added for some items, to those that are there. -/
theorem foldlM_addOption {n : Nat} {shape : Bool} {items : List String}
    {before options : List TargetOption} (hnodup : (before.map (·.value.val)).Nodup)
    (h : items.foldlM (addOption unicode n shape) before = .ok options) :
    (options.map (·.value.val)).Nodup ∧
      ∃ added, options = before ++ added ∧ List.Forall₂ (OptionOf unicode n shape) items added := by
  induction items generalizing before with
  | nil =>
    obtain rfl := Except.ok.inj h
    exact ⟨hnodup, [], by simp, .nil⟩
  | cons item items ih =>
    rw [List.foldlM_cons] at h
    obtain ⟨next, hnext, h⟩ := bind_eq_ok.mp h
    obtain ⟨option, hoption, hnext⟩ := bind_eq_ok.mp hnext
    obtain rfl := Except.ok.inj hnext
    obtain ⟨hof, hfresh⟩ := parseDiscoveryOption_ok hoption
    have hnext : ((before ++ [option]).map (·.value.val)).Nodup := by
      rw [List.map_append, List.nodup_append]
      refine ⟨hnodup, by simp, ?_⟩
      rintro value hvalue value' hvalue' rfl
      simp only [List.map_cons, List.map_nil, List.mem_singleton] at hvalue'
      exact hfresh (hvalue' ▸ hvalue)
    obtain ⟨hall, added, rfl, hadded⟩ := ih hnext h
    exact ⟨hall, option :: added, by simp, .cons hof hadded⟩

/-- **The options of a text**: they are distinct, and there is one for each item. -/
theorem parseDiscoveryOptions_ok {output : String} {n : Nat} {shape : Bool}
    {options : List TargetOption} (h : parseDiscoveryOptions unicode output n shape = .ok options) :
    (options.map (·.value.val)).Nodup ∧
      List.Forall₂ (OptionOf unicode n shape) (discoveryItems output) options := by
  unfold parseDiscoveryOptions at h
  dsimp only at h
  split at h
  · cases h
  split at h
  · cases h
  have hfold : (discoveryItems output).foldlM (addOption unicode n shape) [] = .ok options := h
  obtain ⟨hnodup, added, rfl, hadded⟩ := foldlM_addOption (by simp) hfold
  exact ⟨hnodup, hadded⟩

/-! ## Saving an option -/

/-- The selector of an option: its kind, the context that it was discovered in, its own value, and
the values of the fields that are chosen after it. -/
def optionSelector (kind field : String) (context : JsonObject) (value : String)
    (later : List (String × String)) : JsonObject :=
  Dict.ofPairs (("kind", .str kind) :: context.entries ++ (field, .str value) ::
    later.map fun x => (x.1, .str x.2))

/-- The fields that are chosen after a field: the city of a city selector, after its country. -/
def Later (kind field : String) (later : List (String × String)) : Prop :=
  if kind = "city" ∧ field = "country" then ∃ city, isTarget city ∧ later = [("city", city)]
  else later = []

/-- The adapter accepts the selector of an option and returns it with only the case of its country
changed, and connecting with it runs `nordvpn connect` with the value of the option. -/
def Saved (unicode : UnicodeData) (kind field : String) (context : JsonObject) (value : String) :
    Prop :=
  ∀ later, Later kind field later → ∃ selector,
    validateSelector unicode (optionSelector kind field context value later) = .ok selector ∧
      (∀ key, selector.get? key =
        if key = "country" then
          ((optionSelector kind field context value later).get? key).map fun
            | .str country => .str (casefold unicode country)
            | scalar => scalar
        else (optionSelector kind field context value later).get? key) ∧
      value ∈ connectArguments selector ∧
      ∀ target : StoredTarget, target.selector = optionSelector kind field context value later →
        ∃ next, connectStored unicode target = .ask ("connect" :: connectArguments selector) next

/-- **A valid shape is saved**: its document is accepted, and its arguments are those of the
connect. -/
theorem validateSelector_document (unicode : UnicodeData) {selector : Selector} (hvalid : selector.Valid) :
    validateSelector unicode selector.document = .ok (selector.normalized unicode).document ∧
      (∀ key, (selector.normalized unicode).document.get? key =
        if key = "country" then (selector.document.get? key).map fun
            | .str country => .str (casefold unicode country)
            | scalar => scalar
        else selector.document.get? key) ∧
      ∀ target : StoredTarget, target.selector = selector.document →
        ∃ next, connectStored unicode target =
          .ask ("connect" :: connectArguments (selector.normalized unicode).document) next := by
  have haccepted : validateSelector unicode selector.document =
      .ok (selector.normalized unicode).document :=
    validateSelector_eq_ok_iff.mpr ⟨selector, .refl _, hvalid, rfl⟩
  refine ⟨haccepted, fun key => ?_, fun target htarget => ?_⟩
  · by_cases hkind : selector.kind = "country" ∨ selector.kind = "city"
    · rw [← insert_country hkind, Dict.get?_insert]
      by_cases hkey : key = "country"
      · subst hkey
        cases selector <;> first | rfl | simp [Selector.kind] at hkind
      · simp [hkey]
    · rw [(normalized_of_no_country unicode hkind).1]
      by_cases hkey : key = "country"
      · subst hkey
        cases selector <;> first | rfl | simp [Selector.kind] at hkind
      · simp [hkey]
  · unfold connectStored
    rw [htarget, haccepted]
    exact ⟨_, rfl⟩

/-- The arguments that a shape is connected with, once the adapter has accepted it. -/
theorem mem_connectArguments {selector : Selector} (field : String × String)
    (h : field ∈ (selector.normalized unicode).fields) :
    field.2 ∈ connectArguments (selector.normalized unicode).document := by
  rw [connectArguments_document]
  exact List.mem_map_of_mem h

/-- A document is that of one shape only. -/
theorem Selector.eq_of_same {selector selector' : Selector}
    (h : selector.document.Same selector'.document) : selector = selector' := by
  have hkind : selector.kind = selector'.kind := by
    have hkey := h "kind"
    rw [selector.get?_document_kind, selector'.get?_document_kind] at hkey
    simpa using hkey
  have hfield : ∀ name text text', (name, text) ∈ selector.fields →
      (name, text') ∈ selector'.fields → text = text' := by
    intro name text text' hmem hmem'
    have hkey := h name
    rw [selector.get?_document_field hmem, selector'.get?_document_field hmem'] at hkey
    simpa using hkey
  -- shapes of different kinds are told apart by the kind
  cases selector <;> cases selector' <;> try (simp [Selector.kind] at hkind; done)
  · rfl
  · exact congrArg country (hfield "country" _ _ (by simp [fields]) (by simp [fields]))
  · exact congrArg₂ city (hfield "country" _ _ (by simp [fields]) (by simp [fields]))
      (hfield "city" _ _ (by simp [fields]) (by simp [fields]))
  · exact congrArg group (hfield "group" _ _ (by simp [fields]) (by simp [fields]))
  · exact congrArg server (hfield "server" _ _ (by simp [fields]) (by simp [fields]))
  · exact congrArg legacy (hfield "value" _ _ (by simp [fields]) (by simp [fields]))

section Shapes

variable {kind value country : String} {context : JsonObject}

/-- The documents that discovered options are saved as. -/
theorem optionSelector_country (hcontext : context.entries = []) :
    optionSelector "country" "country" context value [] = (Selector.country value).document := by
  rw [optionSelector, hcontext]
  rfl

theorem optionSelector_country_city (hcontext : context.entries = []) (city : String) :
    optionSelector "city" "country" context value [("city", city)] =
      (Selector.city value city).document := by
  rw [optionSelector, hcontext]
  rfl

theorem optionSelector_city (hcontext : context.entries = [("country", .str country)]) :
    optionSelector "city" "city" context value [] = (Selector.city country value).document := by
  rw [optionSelector, hcontext]
  rfl

theorem optionSelector_group (hcontext : context.entries = []) :
    optionSelector "group" "group" context value [] = (Selector.group value).document := by
  rw [optionSelector, hcontext]
  rfl

/-- A country can be saved unless its value is a single character. -/
theorem saved_country_iff (hkind : kind = "country" ∨ kind = "city")
    (hcontext : context.entries = []) (hcode : isCode value) (hlength : value.length ≤ 32)
    (hfold : casefold unicode value = value) :
    Saved unicode kind "country" context value ↔ 2 ≤ value.length := by
  constructor
  · intro h
    rcases hkind with rfl | rfl
    · obtain ⟨result, haccepted, -⟩ := h [] (by simp [Later])
      rw [optionSelector_country hcontext] at haccepted
      obtain ⟨selector, hsame, hvalid, -⟩ := validateSelector_eq_ok_iff.mp haccepted
      obtain rfl := Selector.eq_of_same hsame
      exact hvalid.bounded.1
    · -- a city selector is complete with any city
      obtain ⟨result, haccepted, -⟩ :=
        h [("city", "x")] (by simpa [Later] using (by decide : isTarget "x"))
      rw [optionSelector_country_city hcontext] at haccepted
      obtain ⟨selector, hsame, hvalid, -⟩ := validateSelector_eq_ok_iff.mp haccepted
      obtain rfl := Selector.eq_of_same hsame
      exact hvalid.bounded.1.1
  · intro hmin later hlater
    have htarget := isTarget_of_isCode hcode
    rcases hkind with rfl | rfl
    · obtain rfl : later = [] := by simpa [Later] using hlater
      obtain ⟨haccepted, hkeys, hconnect⟩ := validateSelector_document unicode
        (show (Selector.country value).Valid from
          ⟨⟨hmin, hlength⟩, by simpa [Selector.fields], hcode⟩)
      rw [optionSelector_country hcontext]
      refine ⟨_, haccepted, hkeys, ?_, hconnect⟩
      exact mem_connectArguments ("country", value)
        (by simp [Selector.normalized, Selector.fields, hfold])
    · obtain ⟨city, hcity, rfl⟩ : ∃ city, isTarget city ∧ later = [("city", city)] := by
        simpa [Later] using hlater
      have hbounds := (isTarget_iff.mp hcity).length
      obtain ⟨haccepted, hkeys, hconnect⟩ := validateSelector_document unicode
        (show (Selector.city value city).Valid from
          ⟨⟨⟨hmin, hlength⟩, hbounds⟩, by simp [Selector.fields, htarget, hcity], hcode⟩)
      rw [optionSelector_country_city hcontext]
      refine ⟨_, haccepted, hkeys, ?_, hconnect⟩
      exact mem_connectArguments ("country", value)
        (by simp [Selector.normalized, Selector.fields, hfold])

/-- Every city can be saved. -/
theorem saved_city (hcontext : context.entries = [("country", .str country)])
    (hlength : 2 ≤ country.length ∧ country.length ≤ 32) (hcode : isCode country)
    (htarget : isTarget value) : Saved unicode "city" "city" context value := by
  intro later hlater
  obtain rfl : later = [] := by simpa [Later] using hlater
  obtain ⟨haccepted, hkeys, hconnect⟩ := validateSelector_document unicode
    (show (Selector.city country value).Valid from ⟨⟨hlength, (isTarget_iff.mp htarget).length⟩,
      by simp [Selector.fields, htarget, isTarget_of_isCode hcode], hcode⟩)
  rw [optionSelector_city hcontext]
  refine ⟨_, haccepted, hkeys, ?_, hconnect⟩
  exact mem_connectArguments ("city", value)
    (by simp [Selector.normalized, Selector.fields])

/-- Every group can be saved. -/
theorem saved_group (hcontext : context.entries = []) (htarget : isTarget value) :
    Saved unicode "group" "group" context value := by
  intro later hlater
  obtain rfl : later = [] := by simpa [Later] using hlater
  obtain ⟨haccepted, hkeys, hconnect⟩ := validateSelector_document unicode
    (show (Selector.group value).Valid from
      ⟨(isTarget_iff.mp htarget).length, by simpa [Selector.fields], trivial⟩)
  rw [optionSelector_group hcontext]
  refine ⟨_, haccepted, hkeys, ?_, hconnect⟩
  exact mem_connectArguments ("group", value)
    (by simp [Selector.normalized, Selector.fields])

end Shapes

/-! ## Discovery -/

section Discovery

variable {σ : Type} {runner : Handler commandRunner PyException σ} {s : σ} {kind field : String}
  {context : JsonObject} {options : TargetOptions}

/-- What a command printed, parsed into options. -/
theorem exec_run_parse {arguments : List String} {n : Nat} {shape : Bool}
    {found : List TargetOption}
    (h : (((run unicode arguments).bind fun result =>
      (Program.done (parseDiscoveryOptions unicode result.stdout n shape) : Nord _)).exec runner
        s).result = .ok found) :
    ∃ result, (runner arguments s).1 = .ok result ∧
      parseDiscoveryOptions unicode result.stdout n shape = .ok found := by
  rw [Program.exec_bind_done, exec_run] at h
  obtain ⟨result, hresult, -, hparse⟩ := checked_eq_ok h
  exact ⟨result, hresult, hparse⟩

/-- How options were discovered: by which command, in which context. -/
inductive Discovered (unicode : UnicodeData) (runner : Handler commandRunner PyException σ) (s : σ) :
    (kind field : String) → (context : JsonObject) → List TargetOption → Prop
  | country {kind : String} {context : JsonObject} {found : List TargetOption}
    {result : CommandResult} (hkind : kind = "country" ∨ kind = "city")
    (hcontext : context.entries = []) (hresult : (runner ["countries"] s).1 = .ok result)
    (hparse : parseDiscoveryOptions unicode result.stdout 32 true = .ok found) :
    Discovered unicode runner s kind "country" context found
  | city {country : String} {context : JsonObject} {found : List TargetOption}
    {result : CommandResult} (hcontext : context.entries = [("country", .str country)])
    (hlength : 2 ≤ country.length ∧ country.length ≤ 32) (hcode : isCode country)
    (hresult : (runner ["cities", casefold unicode country] s).1 = .ok result)
    (hparse : parseDiscoveryOptions unicode result.stdout maxDiscoveryValueLength false =
      .ok found) :
    Discovered unicode runner s "city" "city" context found
  | group {context : JsonObject} {found : List TargetOption} {result : CommandResult}
    (hcontext : context.entries = []) (hresult : (runner ["groups"] s).1 = .ok result)
    (hparse : parseDiscoveryOptions unicode result.stdout maxDiscoveryValueLength false =
      .ok found) :
    Discovered unicode runner s "group" "group" context found

theorem entries_of_keys_nil (h : ¬ context.keys ≠ []) : context.entries = [] :=
  List.map_eq_nil_iff.mp (not_not.mp h)

/-- A context with a country code under its only key. -/
theorem entries_of_country (hkeys : ¬ context.keys ≠ ["country"])
    (hcode : isCode (text context "country")) :
    context.entries = [("country", .str (text context "country"))] := by
  obtain ⟨⟨key, value⟩, hentries, hkey⟩ := List.map_eq_singleton_iff.mp (not_not.mp hkeys)
  obtain rfl : key = "country" := hkey
  have hget : context.get? "country" = some value :=
    Dict.get?_eq_some_iff.mpr (by simp [hentries])
  rw [hentries]
  rw [text, hget] at hcode ⊢
  cases value with
  | str country => rfl
  | _ =>
    have hempty : isCode "" := hcode
    exact absurd hempty (by decide)

theorem discover_ok {found : List TargetOption}
    (h : ((discover unicode kind field context).exec runner s).result = .ok found) :
    Discovered unicode runner s kind field context found := by
  unfold discover at h
  split at h
  · rename_i hcountry
    obtain ⟨hkind, rfl⟩ := hcountry
    split at h
    · cases h
    · rename_i hkeys
      obtain ⟨result, hresult, hparse⟩ := exec_run_parse h
      exact .country hkind (entries_of_keys_nil hkeys) hresult hparse
  split at h
  · rename_i hcity
    obtain ⟨rfl, rfl⟩ := hcity
    split at h
    · cases h
    rename_i hkeys
    dsimp only at h
    split at h
    · cases h
    rename_i hcountry
    simp only [not_or, Nat.not_lt, Bool.not_eq_true', Bool.not_eq_false] at hcountry
    obtain ⟨hmin, hmax, hcode⟩ := hcountry
    obtain ⟨result, hresult, hparse⟩ := exec_run_parse h
    exact .city (entries_of_country hkeys hcode) ⟨hmin, hmax⟩ hcode hresult hparse
  split at h
  · rename_i hgroup
    obtain ⟨rfl, rfl⟩ := hgroup
    split at h
    · cases h
    · rename_i hkeys
      obtain ⟨result, hresult, hparse⟩ := exec_run_parse h
      exact .group (entries_of_keys_nil hkeys) hresult hparse
  · cases h

theorem targetOptions_ok
    (h : ((targetOptions unicode kind field context).exec runner s).result = .ok options) :
    Discovered unicode runner s kind field context options.options := by
  obtain ⟨found, hfound, h, -⟩ := Program.exec_bind_eq_ok runner h
  obtain ⟨_, -, h, -⟩ := Program.exec_bind_eq_ok runner h
  obtain ⟨_, -, h, -⟩ := Program.exec_bind_eq_ok runner h
  obtain ⟨bounded, hbounded, h, -⟩ := Program.exec_bind_eq_ok runner h
  obtain rfl := Except.ok.inj h
  have hval : bounded.val = found := by
    have hbounded : validated (fun os : List TargetOption => os.length ≤ maxTargetOptions) found =
      .ok bounded := hbounded
    unfold validated at hbounded
    split at hbounded
    · rw [← Except.ok.inj hbounded]
    · cases hbounded
  rw [← hval] at hfound
  exact discover_ok hfound

theorem forall₂_right {α β : Type} {R : α → β → Prop} {xs : List α} {ys : List β}
    (h : List.Forall₂ R xs ys) : ∀ y ∈ ys, ∃ x ∈ xs, R x y := by
  induction h with
  | nil => simp
  | cons hxy _ ih =>
    intro y hy
    rcases List.mem_cons.mp hy with rfl | hy
    · exact ⟨_, List.mem_cons_self, hxy⟩
    · obtain ⟨x, hx, hR⟩ := ih y hy
      exact ⟨x, List.mem_cons_of_mem _ hx, hR⟩

/-- **When every discovered option can be saved.** The options of a command are distinct. Each of
them makes a selector that the adapter accepts and connects with as it stands, exactly when no
country is named by a single ASCII letter. -/
theorem options_saved_iff (hunicode : unicode.FoldsAscii)
    (h : ((targetOptions unicode kind field context).exec runner s).result = .ok options) :
    ((options.options.map (·.value.val)).Nodup ∧
        ∀ option ∈ options.options, Saved unicode kind field context option.value.val) ↔
      (field = "country" → ∀ result, (runner ["countries"] s).1 = .ok result →
        ∀ item ∈ discoveryItems result.stdout, 2 ≤ (asciiName unicode item).length) := by
  cases targetOptions_ok h with
  | country hkind hcontext hresult hparse =>
    obtain ⟨hnodup, hoptions⟩ := parseDiscoveryOptions_ok hparse
    have hsaved : ∀ item option, OptionOf unicode 32 true item option →
        (Saved unicode kind "country" context option.value.val ↔
          2 ≤ (asciiName unicode item).length) := by
      rintro item option ⟨hvalue, hcode⟩
      obtain ⟨-, hlength, hfold, hname⟩ := normalizeDiscoveryValue_ok hunicode hvalue
      rw [saved_country_iff hkind hcontext (hcode rfl) hlength hfold, hname]
    constructor
    · rintro ⟨-, hall⟩ - result' hresult' item hitem
      obtain rfl := Except.ok.inj (hresult.symm.trans hresult')
      obtain ⟨option, hoption, hof⟩ := forall₂_right hoptions.flip item hitem
      exact (hsaved item option hof).mp (hall option hoption)
    · intro hnames
      refine ⟨hnodup, fun option hoption => ?_⟩
      obtain ⟨item, hitem, hof⟩ := forall₂_right hoptions option hoption
      exact (hsaved item option hof).mpr (hnames rfl _ hresult item hitem)
  | city hcontext hlength hcode hresult hparse =>
    obtain ⟨hnodup, hoptions⟩ := parseDiscoveryOptions_ok hparse
    refine iff_of_true ⟨hnodup, fun option hoption => ?_⟩ (by simp)
    obtain ⟨item, -, hof⟩ := forall₂_right hoptions option hoption
    exact saved_city hcontext hlength hcode (normalizeDiscoveryValue_ok hunicode hof.value).1
  | group hcontext hresult hparse =>
    obtain ⟨hnodup, hoptions⟩ := parseDiscoveryOptions_ok hparse
    refine iff_of_true ⟨hnodup, fun option hoption => ?_⟩ (by simp)
    obtain ⟨item, -, hof⟩ := forall₂_right hoptions option hoption
    exact saved_group hcontext (normalizeDiscoveryValue_ok hunicode hof.value).1

end Discovery

/-! ## Two lists of countries -/

/-- A runner that prints the given text. -/
def printing (output : String) : Handler commandRunner PyException Unit :=
  fun _ _ => (.ok ⟨0, output, ""⟩, ())

/-- The options of a run over that text. -/
def printedOptions (output : String) : Except PyException TargetOptions :=
  ((targetOptions asciiData "country" "country" .empty).exec (printing output) ()).result

/-- The countries of the sample list can all be saved. -/
theorem options_saved_united_states :
    ∃ options, printedOptions "United States\nCanada\n" = .ok options ∧
      (options.options.map (·.value.val)).Nodup ∧
      ∀ option ∈ options.options, Saved asciiData "country" "country" .empty option.value.val := by
  have hisOk : (printedOptions "United States\nCanada\n").isOk = true := by decide +kernel
  cases h : printedOptions "United States\nCanada\n" with
  | error e => simp [h, Except.isOk, Except.toBool] at hisOk
  | ok options =>
    refine ⟨options, rfl, (options_saved_iff asciiData_foldsAscii h).mpr ?_⟩
    rintro - result hresult
    obtain rfl := Except.ok.inj hresult
    decide +kernel

/-- A country that is named by a single letter is discovered, and its selector is refused. -/
theorem options_unsaved_letter :
    (printedOptions "X\n").toOption.map (fun options => options.options.map (·.value.val)) =
        some ["x"] ∧
      validateSelector asciiData (optionSelector "country" "country" .empty "x" []) =
        .error (invalidTarget "NordVPN selector is invalid.") := by
  decide +kernel

end Snarkypuss.NordVpn
