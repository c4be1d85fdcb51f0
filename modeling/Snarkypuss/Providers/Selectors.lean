import Snarkypuss.Providers.NordVpn

/-!
# The selectors of the NordVPN adapter

A selector document is one of six shapes. The adapter accepts a document when it is, as a
mapping, the document of a valid shape, and makes of it the document of that shape with its
country in lower case. The shape alone determines the arguments of the connect.

## Main definitions

* `NordVpn.Selector`: the six shapes, with their fields, documents and arguments
* `NordVpn.Selector.Valid`: the checks on the fields
* `NordVpn.Selector.normalized`: the shape with its country in lower case
* `NordVpn.SafeArgument`: text that a command may be given as an argument

## Main results

* `NordVpn.validateSelector_eq_ok_iff`: what `validate_selector` accepts, and what it makes of it
* `NordVpn.connectArguments_document`: the arguments of a shape
* `NordVpn.Selector.normalized_valid`, `NordVpn.Selector.normalized_normalized`: what the adapter
  makes of a selector is valid, and is made of itself
-/

namespace Snarkypuss.NordVpn

open Python

/-! ## Shapes -/

/-- The six selector classes. -/
inductive Selector
  | recommended
  | country (country : String)
  | city (country city : String)
  | group (group : String)
  | server (server : String)
  | legacy (value : String)
  deriving DecidableEq

namespace Selector

/-- The discriminator of a class. -/
def kind : Selector → String
  | recommended => "recommended"
  | country _ => "country"
  | city _ _ => "city"
  | group _ => "group"
  | server _ => "server"
  | legacy _ => "legacy"

/-- The fields of a class, in the order it declares them. -/
def fields : Selector → List (String × String)
  | recommended => []
  | country c => [("country", c)]
  | city c t => [("country", c), ("city", t)]
  | group g => [("group", g)]
  | server s => [("server", s)]
  | legacy v => [("value", v)]

/-- The fields as values of a document. -/
def values (selector : Selector) : List (String × JsonScalar) :=
  selector.fields.map fun field => (field.1, .str field.2)

/-- `model_dump()`. -/
def document (selector : Selector) : JsonObject :=
  Dict.ofPairs (("kind", .str selector.kind) :: selector.values)

/-- The arguments of the connect that the class stands for. -/
def arguments (selector : Selector) : List String := selector.fields.map Prod.snd

/-- The bounds that the class puts on the lengths of its fields. -/
def Bounded : Selector → Prop
  | recommended => True
  | country c => 2 ≤ c.length ∧ c.length ≤ 32
  | city c t => (2 ≤ c.length ∧ c.length ≤ 32) ∧ 1 ≤ t.length ∧ t.length ≤ 100
  | group g => 1 ≤ g.length ∧ g.length ≤ 100
  | server s => 1 ≤ s.length ∧ s.length ≤ 100
  | legacy v => 1 ≤ v.length ∧ v.length ≤ 100

/-- The country of a class that has one is a country code. -/
def CountryCode : Selector → Prop
  | country c => isCode c
  | city c _ => isCode c
  | _ => True

/-- The checks of `validate_selector`. -/
structure Valid (selector : Selector) : Prop where
  bounded : selector.Bounded
  targets : ∀ field ∈ selector.fields, isTarget field.2
  countryCode : selector.CountryCode

/-- The class with its country in lower case. -/
def normalized (unicode : UnicodeData) : Selector → Selector
  | country c => country (casefold unicode c)
  | city c t => city (casefold unicode c) t
  | selector => selector

theorem values_keys_nodup (selector : Selector) :
    ((("kind", JsonScalar.str selector.kind) :: selector.values).map Prod.fst).Nodup := by
  cases selector <;> simp [values, fields]

/-- The value under the key of a field. -/
theorem get?_document_field (selector : Selector) {field : String × String}
    (h : field ∈ selector.fields) : selector.document.get? field.1 = some (.str field.2) := by
  rw [document, Dict.get?_eq_some_iff, Dict.ofPairs_entries selector.values_keys_nodup]
  exact List.mem_cons_of_mem _ (List.mem_map_of_mem h)

theorem get?_document_kind (selector : Selector) :
    selector.document.get? "kind" = some (.str selector.kind) := by
  rw [document, Dict.get?_eq_some_iff, Dict.ofPairs_entries selector.values_keys_nodup]
  exact List.mem_cons_self

theorem keys_document (selector : Selector) :
    selector.document.keys = "kind" :: selector.fields.map Prod.fst := by
  rw [document, Dict.keys, Dict.ofPairs_entries selector.values_keys_nodup]
  simp [values]

end Selector

/-! ## Reading a document -/

/-- A field of a class, read from a document: text within its bounds. -/
theorem selectorField_eq_some {d : JsonObject} {field : String} {lo hi : Nat}
    {x : String × JsonScalar} (h : selectorField d (field, lo, hi) = some x) :
    ∃ s, x = (field, .str s) ∧ d.get? field = some (.str s) ∧ lo ≤ s.length ∧ s.length ≤ hi := by
  simp only [selectorField] at h
  split at h
  · rename_i s hs
    split at h
    · rename_i hbounds
      exact ⟨s, (Option.some.inj h).symm, hs, hbounds⟩
    · cases h
  · cases h

theorem selectorField_of_get? {d : JsonObject} {field : String} {lo hi : Nat} {s : String}
    (hget : d.get? field = some (.str s)) (hbounds : lo ≤ s.length ∧ s.length ≤ hi) :
    selectorField d (field, lo, hi) = some (field, .str s) := by
  simp [selectorField, hget, hbounds]

/-- The fields that a kind has, as shapes of that kind. -/
theorem mapM_selectorField {d : JsonObject} {kind : String} {fields : List (String × Nat × Nat)}
    {values : List (String × JsonScalar)} (hfields : selectorFields kind = some fields)
    (hvalues : fields.mapM (selectorField d) = some values) :
    ∃ selector : Selector, selector.kind = kind ∧ selector.values = values ∧ selector.Bounded ∧
      fields.map Prod.fst = selector.fields.map Prod.fst ∧
      ∀ field ∈ selector.fields, d.get? field.1 = some (.str field.2) := by
  have hone : ∀ {name : String} {lo hi : Nat},
      [(name, lo, hi)].mapM (selectorField d) = some values →
        ∃ s, values = [(name, .str s)] ∧ d.get? name = some (.str s) ∧ lo ≤ s.length ∧ s.length ≤ hi := by
    intro name lo hi h
    simp only [List.mapM_cons, List.mapM_nil, Option.bind_eq_bind, Option.bind_eq_some_iff] at h
    obtain ⟨x, hx, _, hnil, hvalues⟩ := h
    obtain ⟨s, rfl, hget, hbounds⟩ := selectorField_eq_some hx
    cases hnil
    cases hvalues
    exact ⟨s, rfl, hget, hbounds⟩
  unfold selectorFields at hfields
  split at hfields <;> cases hfields
  · cases hvalues
    refine ⟨.recommended, rfl, rfl, trivial, rfl, fun _ h => ?_⟩
    cases h
  · obtain ⟨s, rfl, hget, hbounds⟩ := hone hvalues
    exact ⟨.country s, rfl, rfl, hbounds, rfl, by simpa [Selector.fields] using hget⟩
  · simp only [List.mapM_cons, List.mapM_nil, Option.bind_eq_bind, Option.bind_eq_some_iff] at hvalues
    obtain ⟨x, hx, _, ⟨y, hy, _, hnil, hrest⟩, hvalues⟩ := hvalues
    obtain ⟨c, rfl, hcountry, hcbounds⟩ := selectorField_eq_some hx
    obtain ⟨t, rfl, hcity, htbounds⟩ := selectorField_eq_some hy
    cases hnil
    cases hrest
    cases hvalues
    refine ⟨.city c t, rfl, rfl, ⟨hcbounds, htbounds⟩, rfl, ?_⟩
    simpa [Selector.fields] using ⟨hcountry, hcity⟩
  · obtain ⟨s, rfl, hget, hbounds⟩ := hone hvalues
    exact ⟨.group s, rfl, rfl, hbounds, rfl, by simpa [Selector.fields] using hget⟩
  · obtain ⟨s, rfl, hget, hbounds⟩ := hone hvalues
    exact ⟨.server s, rfl, rfl, hbounds, rfl, by simpa [Selector.fields] using hget⟩
  · obtain ⟨s, rfl, hget, hbounds⟩ := hone hvalues
    exact ⟨.legacy s, rfl, rfl, hbounds, rfl, by simpa [Selector.fields] using hget⟩

/-- **What the selector adapter accepts**: the documents that are those of a bounded shape. -/
theorem adaptSelector_eq_some_iff {d : JsonObject} {kind : String}
    {values : List (String × JsonScalar)} :
    adaptSelector d = some (kind, values) ↔
      ∃ selector : Selector, d.Same selector.document ∧ selector.Bounded ∧
        kind = selector.kind ∧ values = selector.values := by
  constructor
  · intro h
    unfold adaptSelector at h
    split at h
    · rename_i k hkind
      simp only [Option.bind_eq_bind, Option.bind_eq_some_iff] at h
      obtain ⟨fields, hfields, h⟩ := h
      split at h
      · rename_i hkeys
        simp only [Option.bind_eq_some_iff] at h
        obtain ⟨vs, hvs, h⟩ := h
        cases h
        obtain ⟨selector, rfl, rfl, hbounded, hnames, hget⟩ := mapM_selectorField hfields hvs
        refine ⟨selector, Dict.same_ofPairs selector.values_keys_nodup ?_ ?_, hbounded, rfl, rfl⟩
        · intro p hp
          rcases List.mem_cons.mp hp with rfl | hp
          · exact hkind
          · obtain ⟨field, hfield, rfl⟩ := List.mem_map.mp hp
            exact hget field hfield
        · intro key hkey
          have hmem := List.all_eq_true.mp hkeys key hkey
          rw [hnames] at hmem
          simpa [Selector.values] using hmem
      · cases h
    · cases h
  · rintro ⟨selector, hsame, hbounded, rfl, rfl⟩
    have hkind : d.get? "kind" = some (.str selector.kind) :=
      (hsame "kind").trans selector.get?_document_kind
    have hfield : ∀ field ∈ selector.fields, d.get? field.1 = some (.str field.2) :=
      fun field h => (hsame field.1).trans (selector.get?_document_field h)
    have hkeys : ∀ key ∈ d.keys, key ∈ "kind" :: selector.fields.map Prod.fst := by
      intro key hkey
      rw [← selector.keys_document]
      exact hsame.mem_keys.mp hkey
    unfold adaptSelector
    rw [hkind]
    cases selector with
    | recommended =>
      simp only [Selector.kind, selectorFields, Selector.values, Selector.fields]
      have hall : d.keys.all (· ∈ ["kind"]) = true :=
        List.all_eq_true.mpr fun key hkey => decide_eq_true (hkeys key hkey)
      exact if_pos hall
    | _ =>
      simp_all [Selector.kind, Selector.fields, Selector.values, selectorFields, Selector.Bounded,
        selectorField]

/-! ## Validation -/

theorem text_document {selector : Selector} {field : String × String}
    (h : field ∈ selector.fields) : text selector.document field.1 = field.2 := by
  rw [text, selector.get?_document_field h]

/-- The dumped document with its country replaced is the document of the normalized shape. -/
theorem insert_country {unicode : UnicodeData} {selector : Selector}
    (h : selector.kind = "country" ∨ selector.kind = "city") :
    selector.document.insert "country"
        (.str (casefold unicode (text selector.document "country"))) =
      (selector.normalized unicode).document := by
  cases selector with
  | country c => rfl
  | city c t => rfl
  | _ => simp [Selector.kind] at h

theorem isCode_country {selector : Selector} (h : selector.kind = "country" ∨ selector.kind = "city") :
    isCode (text selector.document "country") = true ↔ selector.CountryCode := by
  cases selector with
  | country c => exact Iff.rfl
  | city c t => exact Iff.rfl
  | _ => simp [Selector.kind] at h

theorem normalized_of_no_country (unicode : UnicodeData) {selector : Selector}
    (h : ¬ (selector.kind = "country" ∨ selector.kind = "city")) :
    selector.normalized unicode = selector ∧ selector.CountryCode := by
  cases selector with
  | country c => simp [Selector.kind] at h
  | city c t => simp [Selector.kind] at h
  | _ => exact ⟨rfl, trivial⟩

/-- The check of the fields passes when each is a target text. -/
theorem find?_eq_none_iff (selector : Selector) :
    (selector.values.find? fun field => !isTarget (text selector.document field.1)) = none ↔
      ∀ field ∈ selector.fields, isTarget field.2 := by
  rw [List.find?_eq_none, Selector.values, List.forall_mem_map]
  refine forall₂_congr fun field hfield => ?_
  rw [text_document hfield]
  simp

/-- **What `validate_selector` accepts, and what it makes of it**: the documents of valid shapes,
and the document of the normalized shape. -/
theorem validateSelector_eq_ok_iff {unicode : UnicodeData} {d result : JsonObject} :
    validateSelector unicode d = .ok result ↔
      ∃ selector : Selector, d.Same selector.document ∧ selector.Valid ∧
        result = (selector.normalized unicode).document := by
  have hdocument : ∀ selector : Selector,
      Dict.ofPairs (("kind", .str selector.kind) :: selector.values) = selector.document :=
    fun _ => rfl
  constructor
  · intro h
    unfold validateSelector at h
    split at h
    · cases h
    · rename_i kind values hadapt
      obtain ⟨selector, hsame, hbounded, rfl, rfl⟩ := adaptSelector_eq_some_iff.mp hadapt
      refine ⟨selector, hsame, ?_⟩
      simp only [hdocument] at h
      split at h
      · cases h
      · rename_i hfind
        have htargets := (find?_eq_none_iff selector).mp hfind
        split at h
        · rename_i hkind
          split at h
          · cases h
          · rename_i hcode
            have hcode : isCode (text selector.document "country") = true :=
              Bool.of_not_eq_false fun hfalse => hcode (congrArg Bool.not hfalse)
            cases h
            exact ⟨⟨hbounded, htargets, (isCode_country hkind).mp hcode⟩, insert_country hkind⟩
        · rename_i hkind
          obtain ⟨hnormalized, hcountry⟩ := normalized_of_no_country unicode hkind
          cases h
          exact ⟨⟨hbounded, htargets, hcountry⟩, by rw [hnormalized]⟩
  · rintro ⟨selector, hsame, hvalid, rfl⟩
    have hadapt := adaptSelector_eq_some_iff.mpr ⟨selector, hsame, hvalid.bounded, rfl, rfl⟩
    have hfind := (find?_eq_none_iff selector).mpr hvalid.targets
    unfold validateSelector
    simp only [hadapt, hdocument, hfind]
    by_cases hkind : selector.kind = "country" ∨ selector.kind = "city"
    · have hcode := (isCode_country hkind).mpr hvalid.countryCode
      rw [if_pos hkind]
      rw [hcode]
      exact congrArg Except.ok (insert_country hkind)
    · rw [if_neg hkind, (normalized_of_no_country unicode hkind).1]

/-- The arguments of a shape, from its document. -/
theorem connectArguments_document (selector : Selector) :
    connectArguments selector.document = selector.arguments := by
  cases selector <;> rfl

/-! ## Safe arguments -/

/-- Text that a command may be given as an argument: it is no option, and of plain characters. -/
structure SafeArgument (s : String) : Prop where
  length : 1 ≤ s.length ∧ s.length ≤ 100
  head : ∀ c ∈ s.toList.head?, c.isAlphanum
  chars : ∀ c ∈ s.toList, isTargetTail c

/-- The pattern of targets is exactly that of safe arguments. -/
theorem isTarget_iff {s : String} : isTarget s ↔ SafeArgument s := by
  rw [isTarget, matchesPattern]
  cases hs : s.toList with
  | nil =>
    refine ⟨nofun, fun h => ?_⟩
    have hlength : s.length = 0 := by rw [← String.length_toList, hs]; rfl
    have := h.length
    omega
  | cons c cs =>
    have hlength : s.length = cs.length + 1 := by rw [← String.length_toList, hs]; rfl
    simp only [Bool.and_eq_true, decide_eq_true_eq, List.all_eq_true]
    constructor
    · rintro ⟨⟨hhead, htail⟩, hbound⟩
      refine ⟨by omega, by simpa [hs] using hhead, fun c' hc' => ?_⟩
      rw [hs] at hc'
      rcases List.mem_cons.mp hc' with rfl | hc'
      · simp [isTargetTail, hhead]
      · exact htail c' hc'
    · rintro ⟨hbounds, hhead, hchars⟩
      have hchars : ∀ c' ∈ c :: cs, isTargetTail c' := by simpa [hs] using hchars
      exact ⟨⟨hhead c (by simp [hs]), fun c' hc' => hchars c' (List.mem_cons_of_mem c hc')⟩, by omega⟩

theorem isAlphanum_lt {c : Char} (h : c.isAlphanum) : c.toNat < 128 := by
  simp only [Char.isAlphanum, Char.isAlpha, Char.isUpper, Char.isLower, Char.isDigit,
    Bool.or_eq_true, Bool.and_eq_true, decide_eq_true_eq] at h
  have hval : c.toNat = c.val.toNat := rfl
  rcases h with (⟨h, h'⟩ | ⟨h, h'⟩) | ⟨h, h'⟩ <;>
    simp only [UInt32.le_iff_toNat_le] at h h' <;> simp at h h' <;> omega

/-- What holds of the first 128 characters holds of every ASCII character. -/
theorem of_ascii {P : Char → Prop} {c : Char} (h : ∀ n < 128, P (Char.ofNat n)) (hc : c.toNat < 128) :
    P c := by
  have hascii := h c.toNat hc
  rwa [Char.ofNat_toNat] at hascii

/-- Lower case keeps the character classes of country codes. -/
theorem toLower_code {c : Char} (hc : c.toNat < 128) :
    c.toLower.isAlpha = c.isAlpha ∧ isCodeTail c.toLower = isCodeTail c ∧
      c.toLower.toLower = c.toLower :=
  of_ascii (P := fun c => c.toLower.isAlpha = c.isAlpha ∧ isCodeTail c.toLower = isCodeTail c ∧
    c.toLower.toLower = c.toLower) (by decide) hc

theorem isTargetTail_of_isCodeTail {c : Char} (h : isCodeTail c) : isTargetTail c := by
  simp only [isCodeTail, isTargetTail, Bool.or_eq_true] at h ⊢
  tauto

theorem isCodeTail_lt {c : Char} (h : isCodeTail c) : c.toNat < 128 := by
  simp only [isCodeTail, Bool.or_eq_true, beq_iff_eq] at h
  rcases h with (h | rfl) | rfl
  · exact isAlphanum_lt h
  · decide
  · decide

section Normalized

variable {unicode : UnicodeData}

/-- A country code is a letter and up to 31 more characters of the class. -/
theorem isCode_iff {s : String} :
    isCode s ↔ ∃ c cs, s.toList = c :: cs ∧ c.isAlpha ∧ (∀ c' ∈ cs, isCodeTail c') ∧ cs.length ≤ 31 := by
  rw [isCode, matchesPattern]
  cases s.toList with
  | nil => simp
  | cons c cs => simp [and_assoc]

theorem isCode_chars {s : String} (h : isCode s) : ∀ c ∈ s.toList, isCodeTail c := by
  obtain ⟨c, cs, hs, halpha, htail, -⟩ := isCode_iff.mp h
  intro c' hc'
  rw [hs] at hc'
  rcases List.mem_cons.mp hc' with rfl | hc'
  · simp [isCodeTail, Char.isAlphanum, halpha]
  · exact htail c' hc'

/-- The case folding of a country code. -/
theorem casefold_code (hunicode : unicode.FoldsAscii) {s : String} (h : isCode s) :
    casefold unicode s = String.ofList (s.toList.map Char.toLower) :=
  casefold_of_ascii hunicode fun c hc => isCodeTail_lt (isCode_chars h c hc)

theorem length_casefold_code (hunicode : unicode.FoldsAscii) {s : String} (h : isCode s) :
    (casefold unicode s).length = s.length := by
  rw [casefold_code hunicode h, String.length_ofList, List.length_map, String.length_toList]

theorem isCode_casefold (hunicode : unicode.FoldsAscii) {s : String} (h : isCode s) :
    isCode (casefold unicode s) := by
  rw [casefold_code hunicode h]
  obtain ⟨c, cs, hs, halpha, htail, hlength⟩ := isCode_iff.mp h
  refine isCode_iff.mpr ⟨c.toLower, cs.map Char.toLower, by simp [hs], ?_, ?_, by simpa using hlength⟩
  · rw [(toLower_code (isAlphanum_lt (by simp [Char.isAlphanum, halpha]))).1]
    exact halpha
  · intro c' hc'
    obtain ⟨x, hx, rfl⟩ := List.mem_map.mp hc'
    rw [(toLower_code (isCodeTail_lt (htail x hx))).2.1]
    exact htail x hx

/-- Folding the case of a country code twice is folding it once. -/
theorem casefold_casefold_code (hunicode : unicode.FoldsAscii) {s : String} (h : isCode s) :
    casefold unicode (casefold unicode s) = casefold unicode s := by
  rw [casefold_code hunicode (isCode_casefold hunicode h), casefold_code hunicode h,
    String.toList_ofList, List.map_map]
  refine congrArg String.ofList (List.map_congr_left fun c hc => ?_)
  exact (toLower_code (isCodeTail_lt (isCode_chars h c hc))).2.2

/-- A country code is a target text. -/
theorem isTarget_of_isCode {s : String} (h : isCode s) : isTarget s := by
  obtain ⟨c, cs, hs, halpha, htail, hlength⟩ := isCode_iff.mp h
  rw [isTarget, matchesPattern, hs]
  simp only [Bool.and_eq_true, decide_eq_true_eq, List.all_eq_true]
  refine ⟨⟨by simp [Char.isAlphanum, halpha], fun c' hc' => ?_⟩, by omega⟩
  exact isTargetTail_of_isCodeTail (htail c' hc')

namespace Selector

/-- What the adapter makes of a valid selector is valid. -/
theorem normalized_valid (hunicode : unicode.FoldsAscii) {selector : Selector}
    (h : selector.Valid) : (selector.normalized unicode).Valid := by
  obtain ⟨hbounded, htargets, hcode⟩ := h
  cases selector with
  | country c =>
    have hfolded := isCode_casefold hunicode hcode
    refine ⟨?_, by simpa [normalized, fields] using isTarget_of_isCode hfolded, hfolded⟩
    show 2 ≤ (casefold unicode c).length ∧ (casefold unicode c).length ≤ 32
    rw [length_casefold_code hunicode hcode]
    exact hbounded
  | city c t =>
    have hfolded := isCode_casefold hunicode hcode
    refine ⟨⟨?_, hbounded.2⟩, ?_, hfolded⟩
    · show 2 ≤ (casefold unicode c).length ∧ (casefold unicode c).length ≤ 32
      rw [length_casefold_code hunicode hcode]
      exact hbounded.1
    · have hcity : isTarget t := htargets ("city", t) (by simp [fields])
      simpa [normalized, fields] using ⟨isTarget_of_isCode hfolded, hcity⟩
  | _ => exact ⟨hbounded, htargets, hcode⟩

/-- What the adapter makes of a selector is made of itself. -/
theorem normalized_normalized (hunicode : unicode.FoldsAscii) {selector : Selector}
    (h : selector.CountryCode) :
    (selector.normalized unicode).normalized unicode = selector.normalized unicode := by
  cases selector with
  | country c => exact congrArg country (casefold_casefold_code hunicode h)
  | city c t => exact congrArg (city · t) (casefold_casefold_code hunicode h)
  | _ => rfl

/-- The arguments of a valid selector are safe. -/
theorem arguments_safe {selector : Selector} (h : selector.Valid) :
    ∀ argument ∈ selector.arguments, SafeArgument argument := by
  intro argument hargument
  obtain ⟨field, hfield, rfl⟩ := List.mem_map.mp hargument
  exact isTarget_iff.mp (h.targets field hfield)

theorem length_arguments (selector : Selector) : selector.arguments.length ≤ 2 := by
  cases selector <;> simp [arguments, fields]

end Selector

end Normalized

end Snarkypuss.NordVpn
