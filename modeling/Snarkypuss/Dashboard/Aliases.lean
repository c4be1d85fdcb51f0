import Snarkypuss.Dashboard.Metadata

/-!
# Generated aliases

`uniqueAlias` gives every new destination an alias that is well formed and free. What is cut off to
make room for a number never takes the first letter away, and different numbers make different
aliases, so that the unbounded loop finds a free one among the first candidates.

## Main definitions

* `AliasText`: a letter, followed by letters, digits and underscores
* `FirstFree`: the loop over the numbers

## Main results

* `aliasText_normalizedAlias`: what `normalizedAlias` returns, whatever the tables are
* `numberedAlias_injective`: different numbers make different aliases
* `firstFree_numbered`: the loop ends with the alias that the model computes
* `uniqueAlias_valid`: generated aliases are valid and free
-/

namespace Snarkypuss.Dashboard

/-! ## Texts -/

/-- The characters of generated aliases. -/
def isWordCharacter (c : Char) : Bool := isAliasCharacter c || isUnderscore c

/-- A letter, followed by letters, digits and underscores. -/
structure AliasText (cs : List Char) : Prop where
  head : cs.head?.any Char.isLower
  word : ∀ c ∈ cs, isWordCharacter c

namespace AliasText

variable {cs ds : List Char}

theorem exists_cons (h : AliasText cs) : ∃ c rest, cs = c :: rest ∧ c.isLower := by
  cases cs with
  | nil => cases h.head
  | cons c rest => exact ⟨c, rest, rfl, h.head⟩

/-- What starts the text is such a text again, as long as something is left. -/
theorem of_start (h : AliasText cs) (hstart : ds <+: cs) (hne : ds ≠ []) : AliasText ds := by
  obtain ⟨c, rest, rfl, hlower⟩ := h.exists_cons
  refine ⟨?_, fun x hx => h.word x (hstart.subset hx)⟩
  cases ds with
  | nil => exact absurd rfl hne
  | cons d ds =>
    obtain ⟨rfl, -⟩ := List.cons_prefix_cons.mp hstart
    exact hlower

theorem append (h : AliasText cs) (hds : ∀ c ∈ ds, isWordCharacter c) : AliasText (cs ++ ds) := by
  obtain ⟨c, rest, rfl, hlower⟩ := h.exists_cons
  refine ⟨hlower, fun x hx => ?_⟩
  rcases List.mem_append.mp hx with hx | hx
  · exact h.word x hx
  · exact hds x hx

end AliasText

theorem trimEnd_starts (cs : List Char) : trimEnd cs <+: cs :=
  List.rdropWhile_prefix isUnderscore cs

theorem isUnderscore_of_isLower {c : Char} (h : c.isLower) : isUnderscore c = false := by
  unfold isUnderscore
  refine decide_eq_false ?_
  rintro rfl
  revert h
  decide

/-- Trimming leaves the first letter. -/
theorem AliasText.trimEnd {cs : List Char} (h : AliasText cs) : AliasText (trimEnd cs) := by
  refine h.of_start (trimEnd_starts cs) fun hnil => ?_
  obtain ⟨c, rest, rfl, hlower⟩ := h.exists_cons
  have hall : ∀ x ∈ c :: rest, isUnderscore x := List.rdropWhile_eq_nil_iff.mp hnil
  have hunderscore := hall c List.mem_cons_self
  rw [isUnderscore_of_isLower hlower] at hunderscore
  cases hunderscore

/-- So does cutting off the end. -/
theorem AliasText.take {cs : List Char} (h : AliasText cs) {n : ℕ} (hn : 0 < n) :
    AliasText (cs.take n) := by
  refine h.of_start (List.take_prefix n cs) fun hnil => ?_
  obtain ⟨c, rest, rfl, -⟩ := h.exists_cons
  obtain ⟨m, rfl⟩ := Nat.exists_eq_succ_of_ne_zero hn.ne'
  cases hnil

/-- An alias of such characters that is not too long meets the pattern. -/
theorem AliasText.matches_ {cs : List Char} (h : AliasText cs) (hlength : cs.length ≤ 32) :
    matchesPattern Char.isLower isLowerTail 31 (String.ofList cs) := by
  obtain ⟨c, rest, rfl, hlower⟩ := h.exists_cons
  have htail : rest.all isLowerTail := by
    refine List.all_eq_true.mpr fun x hx => ?_
    have hword := h.word x (List.mem_cons_of_mem _ hx)
    simp only [isWordCharacter, isAliasCharacter, isUnderscore, Bool.or_eq_true] at hword
    simp only [isLowerTail, Bool.or_eq_true]
    tauto
  have hrest : rest.length ≤ 31 := by
    rw [List.length_cons] at hlength
    omega
  simp [matchesPattern, hlower, htail, hrest]

/-! ## The base -/

theorem word_joinWords (cs : List Char) : ∀ c ∈ joinWords cs, isWordCharacter c := by
  fun_induction joinWords cs with
  | case1 => exact nofun
  | case2 c =>
    intro x hx
    obtain rfl := List.mem_singleton.mp hx
    by_cases hc : isAliasCharacter c <;> simp [isWordCharacter, hc, isUnderscore]
  | case3 c d cs hc ih =>
    intro x hx
    rcases List.mem_cons.mp hx with rfl | hx
    · simp [isWordCharacter, hc]
    · exact ih x hx
  | case4 c d cs hc hd ih =>
    intro x hx
    rcases List.mem_cons.mp hx with rfl | hx
    · decide
    · exact ih x hx
  | case5 c d cs hc hd ih => exact ih

/-- What is left of the words of a label, or a word in their place. -/
theorem word_named {cs : List Char} (h : ∀ c ∈ cs, isWordCharacter c) :
    ∀ c ∈ (if cs.isEmpty then "target".toList else cs), isWordCharacter c := by
  split
  · exact List.all_eq_true.mp (by decide)
  · exact h

theorem aliasText_headed {cs : List Char} (h : ∀ c ∈ cs, isWordCharacter c) :
    AliasText (if cs.head?.any Char.isLower then cs else "target_".toList ++ cs) := by
  split
  · exact ⟨‹_›, h⟩
  · have htarget : AliasText "target_".toList := ⟨by decide, List.all_eq_true.mp (by decide)⟩
    exact htarget.append h

/-- What is cut to size is never empty. -/
theorem aliasText_clipped {cs : List Char} (h : AliasText cs) :
    (if (trimEnd (cs.take 32)).isEmpty then "target" else String.ofList (trimEnd (cs.take 32))) =
        String.ofList (trimEnd (cs.take 32)) ∧
      AliasText (trimEnd (cs.take 32)) ∧ (trimEnd (cs.take 32)).length ≤ 32 := by
  have hclipped : AliasText (trimEnd (cs.take 32)) := (h.take (by decide)).trimEnd
  refine ⟨if_neg ?_, hclipped, ?_⟩
  · obtain ⟨c, rest, hcons, -⟩ := hclipped.exists_cons
    rw [hcons]
    exact nofun
  · exact (trimEnd_starts _).length_le.trans (List.length_take_le 32 cs)

/-- **The base of an alias** is well formed, whatever the tables of the interpreter are. -/
theorem aliasText_normalizedAlias (tables : TextTables) (value : String) :
    ∃ cs, normalizedAlias tables value = String.ofList cs ∧ AliasText cs ∧ cs.length ≤ 32 := by
  have htrimmed : ∀ text : List Char,
      ∀ c ∈ trimEnd ((joinWords text).dropWhile isUnderscore), isWordCharacter c := by
    intro text c hc
    have hsub := (List.dropWhile_sublist isUnderscore).subset ((trimEnd_starts _).subset hc)
    exact word_joinWords text c hsub
  exact ⟨_, aliasText_clipped (aliasText_headed (word_named (htrimmed _)))⟩

/-! ## Numbers -/

theorem toList_suffix (n : ℕ) : ("_" ++ toString n).toList = '_' :: Nat.toDigits 10 n := by
  rw [String.toList_append, Nat.toString_eq_ofList_toDigits, String.toList_ofList]
  simp

theorem length_suffix (n : ℕ) : ("_" ++ toString n).length = (Nat.toDigits 10 n).length + 1 := by
  rw [← String.length_toList, toList_suffix, List.length_cons]

/-- The characters of a numbered alias. -/
theorem toList_numberedAlias (base : String) (n : ℕ) : (numberedAlias base n).toList =
    trimEnd (base.toList.take (31 - (Nat.toDigits 10 n).length)) ++ '_' :: Nat.toDigits 10 n := by
  unfold numberedAlias
  dsimp only
  have hroom : ∀ digits : ℕ, 32 - (digits + 1) = 31 - digits := by omega
  rw [String.toList_append, String.toList_ofList, toList_suffix, length_suffix, hroom]

/-- What stands behind the last underscore. -/
theorem eq_of_append_underscore {s t ds es : List Char} (hds : '_' ∉ ds) (hes : '_' ∉ es)
    (h : s ++ '_' :: ds = t ++ '_' :: es) : ds = es := by
  have hbehind : ∀ s ds : List Char, '_' ∉ ds →
      (s ++ '_' :: ds).reverse.takeWhile (fun c => c ≠ '_') = ds.reverse := by
    intro s ds hds
    rw [List.reverse_append, List.reverse_cons, List.append_assoc, List.takeWhile_append_of_pos]
    · simp
    · intro c hc
      have hne : c ≠ '_' := by
        rintro rfl
        exact hds (List.mem_reverse.mp hc)
      exact decide_eq_true hne
  have hreverse := congrArg (fun l => l.reverse.takeWhile fun c => c ≠ '_') h
  simp only [hbehind s ds hds, hbehind t es hes] at hreverse
  exact List.reverse_injective hreverse

/-- **Different numbers make different aliases**: the number stands behind the last underscore. -/
theorem numberedAlias_injective (base : String) : Function.Injective (numberedAlias base) := by
  intro n m h
  have hchars := congrArg String.toList h
  rw [toList_numberedAlias, toList_numberedAlias] at hchars
  have hdigits := eq_of_append_underscore Nat.underscore_not_in_toDigits
    Nat.underscore_not_in_toDigits hchars
  rw [← Nat.ofDigitChars_ten_toDigits (n := n), hdigits, Nat.ofDigitChars_ten_toDigits]

/-- A numbered alias meets the pattern when its number leaves room for a letter. -/
theorem numberedAlias_matches {cs : List Char} (h : AliasText cs) {n : ℕ} (hn : n < 1000) :
    matchesPattern Char.isLower isLowerTail 31 (numberedAlias (String.ofList cs) n) := by
  -- three digits and an underscore leave 28 characters of the base
  have hdigits : (Nat.toDigits 10 n).length ≤ 3 :=
    (Nat.length_toDigits_le_iff (by decide) (by decide)).mpr hn
  have hstem := (h.take (n := 31 - (Nat.toDigits 10 n).length) (by omega)).trimEnd
  have hall : ∀ c ∈ '_' :: Nat.toDigits 10 n, isWordCharacter c := by
    intro c hc
    rcases List.mem_cons.mp hc with rfl | hc
    · decide
    · have hdigit : c.isDigit := Nat.isDigit_of_mem_toDigits (by decide) (by decide) hc
      simp [isWordCharacter, isAliasCharacter, hdigit]
  have halias := hstem.append hall
  have hlength := (trimEnd_starts (cs.take (31 - (Nat.toDigits 10 n).length))).length_le
  have htake := List.length_take_le (31 - (Nat.toDigits 10 n).length) cs
  have heq : numberedAlias (String.ofList cs) n = String.ofList
      (trimEnd (cs.take (31 - (Nat.toDigits 10 n).length)) ++ '_' :: Nat.toDigits 10 n) := by
    have hchars := toList_numberedAlias (String.ofList cs) n
    rw [String.toList_ofList] at hchars
    rw [← hchars, String.ofList_toList]
  rw [heq]
  refine halias.matches_ ?_
  rw [List.length_append, List.length_cons]
  omega

/-! ## The loop -/

/-- The loop of `uniqueAlias` from a number on ends with an alias. -/
inductive FirstFree (used : List String) (base : String) : ℕ → String → Prop
  | found {n : ℕ} (h : numberedAlias base n ∉ used) : FirstFree used base n (numberedAlias base n)
  | next {n : ℕ} {result : String} (h : numberedAlias base n ∈ used)
    (rest : FirstFree used base (n + 1) result) : FirstFree used base n result

/-- The loop ends when one of the next candidates is free. -/
theorem firstFree_find? {used : List String} {base : String} (count n : ℕ)
    (h : ∃ m ∈ List.range' n count, numberedAlias base m ∉ used) :
    FirstFree used base n
      ((((List.range' n count).map (numberedAlias base)).find? (· ∉ used)).getD base) := by
  induction count generalizing n with
  | zero =>
    obtain ⟨m, hm, -⟩ := h
    cases hm
  | succ count ih =>
    rw [List.range'_succ, List.map_cons]
    by_cases hused : numberedAlias base n ∈ used
    · rw [List.find?_cons_of_neg (by simpa using hused)]
      refine .next hused (ih (n + 1) ?_)
      obtain ⟨m, hm, hfree⟩ := h
      rw [List.range'_succ] at hm
      rcases List.mem_cons.mp hm with rfl | hm
      · exact absurd hused hfree
      · exact ⟨m, hm, hfree⟩
    · rw [List.find?_cons_of_pos (by simpa using hused)]
      exact .found hused

/-- The loop ends with an alias that is free. -/
theorem FirstFree.not_mem {used : List String} {base : String} {n : ℕ} {result : String}
    (h : FirstFree used base n result) : result ∉ used := by
  induction h with
  | found h => exact h
  | next h rest ih => exact ih

/-- One of the first candidates is free: there are more of them than aliases in use. -/
theorem exists_free (used : List String) (base : String) :
    ∃ m ∈ List.range' 2 (used.length + 1), numberedAlias base m ∉ used := by
  by_contra hnone
  have hnodup : ((List.range' 2 (used.length + 1)).map (numberedAlias base)).Nodup :=
    (List.nodup_range' 1).map (numberedAlias_injective base)
  have hsub : (List.range' 2 (used.length + 1)).map (numberedAlias base) ⊆ used := by
    intro x hx
    obtain ⟨m, hm, rfl⟩ := List.mem_map.mp hx
    by_contra hfree
    exact hnone ⟨m, hm, hfree⟩
  have hlength := (hnodup.subperm hsub).length_le
  rw [List.length_map, List.length_range'] at hlength
  omega

/-- What a search among the candidates finds is one of them. -/
theorem exists_number {used : List String} {base : String} {count n : ℕ}
    (h : ∃ m ∈ List.range' n count, numberedAlias base m ∉ used) :
    ∃ m < n + count, (((List.range' n count).map (numberedAlias base)).find? (· ∉ used)).getD base =
      numberedAlias base m := by
  obtain ⟨m, hm, hfree⟩ := h
  have hsome : (((List.range' n count).map (numberedAlias base)).find? (· ∉ used)).isSome :=
    List.find?_isSome.mpr ⟨_, List.mem_map_of_mem hm, by simpa using hfree⟩
  obtain ⟨candidate, hcandidate⟩ := Option.isSome_iff_exists.mp hsome
  obtain ⟨k, hk, rfl⟩ := List.mem_map.mp (List.mem_of_find?_eq_some hcandidate)
  obtain ⟨-, hlt⟩ := List.mem_range'_1.mp hk
  exact ⟨k, hlt, by rw [hcandidate, Option.getD_some]⟩

/-- **Generated aliases are valid and free**: among at most a hundred destinations, the base or the
alias that the loop over the numbers ends with meets the pattern of aliases, is not the reserved
one and differs from the alias of every other destination. -/
theorem uniqueAlias_valid (tables : TextTables) (others : List String) (label : String)
    (hcount : others.length ≤ 100) :
    matchesPattern Char.isLower isLowerTail 31 (uniqueAlias tables others label) ∧
      uniqueAlias tables others label ≠ "recommended" ∧
      uniqueAlias tables others label ∉ others ∧
      (uniqueAlias tables others label = normalizedAlias tables label ∨
        FirstFree ("recommended" :: others.filter (· ≠ "")) (normalizedAlias tables label) 2
          (uniqueAlias tables others label)) := by
  obtain ⟨cs, hbase, halias, hlength⟩ := aliasText_normalizedAlias tables label
  set used := "recommended" :: others.filter (· ≠ "") with hused
  have hfew : used.length ≤ 101 := by
    have hfilter := List.length_filter_le (fun x => decide (x ≠ "")) others
    rw [hused, List.length_cons]
    omega
  -- the alias meets the pattern and is not in use, on either way out of the function
  have hresult : matchesPattern Char.isLower isLowerTail 31 (uniqueAlias tables others label) ∧
      uniqueAlias tables others label ∉ used ∧
      (uniqueAlias tables others label = normalizedAlias tables label ∨
        FirstFree used (normalizedAlias tables label) 2 (uniqueAlias tables others label)) := by
    unfold uniqueAlias
    rw [← hused]
    dsimp only
    split
    · rename_i hfree
      exact ⟨hbase ▸ halias.matches_ hlength, hfree, .inl rfl⟩
    · have hfree := exists_free used (normalizedAlias tables label)
      have hloop := firstFree_find? (used.length + 1) 2 hfree
      obtain ⟨m, hm, hnumber⟩ := exists_number hfree
      refine ⟨?_, hloop.not_mem, .inr hloop⟩
      rw [hnumber, hbase]
      apply numberedAlias_matches halias
      omega
  obtain ⟨hpattern, hfree, hway⟩ := hresult
  refine ⟨hpattern, ?_, ?_, hway⟩
  · intro hreserved
    exact hfree (hreserved ▸ List.mem_cons_self)
  · intro hother
    have hne : uniqueAlias tables others label ≠ "" := by
      intro hempty
      rw [hempty] at hpattern
      cases hpattern
    exact hfree (List.mem_cons_of_mem _ (List.mem_filter.mpr ⟨hother, by simpa using hne⟩))

/-- A second destination of one name. -/
theorem uniqueAlias_sample : uniqueAlias ⟨id, id⟩ ["oslo"] "oslo" = "oslo_2" ∧
    uniqueAlias ⟨id, id⟩ ["oslo"] "oslo" ∉ ["oslo"] :=
  ⟨by decide +kernel, (uniqueAlias_valid ⟨id, id⟩ ["oslo"] "oslo" (by decide)).2.2.1⟩

end Snarkypuss.Dashboard
