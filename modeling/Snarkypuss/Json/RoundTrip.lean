import Snarkypuss.Json.Writer

/-!
# What is written is read back

The decoder returns the document that a text was written for, when the integers of the document
are within the decoder's bound on digits and its containers within the bound on nesting.

## Main definitions

* `Json.Boundary`: what may follow a value inside a container
* `Json.FloatLiteral`: the literals that are read as numbers other than integers

## Main results

* `Json.scanText_writeText`, `Json.scanNumber_writeInt`: texts and integers are read back
* `Json.scan_write`: so are values, items and members, by induction on the fuel
* `Json.loads_write`: so are whole documents
-/

namespace Snarkypuss.Json

/-- What follows a value is the end of the text, a comma or a closing bracket. -/
def Boundary (rest : List Char) : Prop := ∀ c ∈ rest.head?, c = ',' ∨ c = ']' ∨ c = '}'

theorem boundary_nil : Boundary [] := nofun

theorem boundary_comma (rest : List Char) : Boundary (',' :: rest) := by
  simp [Boundary]

theorem boundary_bracket (rest : List Char) : Boundary (']' :: rest) := by
  simp [Boundary]

theorem boundary_brace (rest : List Char) : Boundary ('}' :: rest) := by
  simp [Boundary]

/-! ## Texts -/

theorem scanText_write (escaping : Escaping) {cs : List Char} {fuel : Nat}
    (h : cs.length < fuel) (rest : List Char) :
    scanText fuel ((cs.map Text.ofChar).flatMap (writeCodePoint escaping) ++ '"' :: rest) =
      .ok (cs.map Text.ofChar, rest) := by
  induction cs generalizing fuel with
  | nil =>
    obtain ⟨fuel, rfl⟩ : ∃ n, fuel = n + 1 := ⟨fuel - 1, by simp at h; omega⟩
    have hnone : scanOne ('"' :: rest) = none := by simp [scanOne]
    simp [scanText, hnone]
  | cons c cs ih =>
    obtain ⟨fuel, rfl⟩ : ∃ n, fuel = n + 1 := ⟨fuel - 1, by simp at h; omega⟩
    have hone : writeCodePoint escaping (Text.ofChar c) = escaping.chars c := by
      simp [writeCodePoint]
    have htail := @ih fuel (by simpa using h)
    rw [List.map_cons, List.flatMap_cons, hone, List.append_assoc]
    simp only [scanText, escaping.scan_chars, htail]
    rfl

theorem length_chars_pos (escaping : Escaping) (c : Char) : 1 ≤ (escaping.chars c).length := by
  have hscan := escaping.scan_chars c []
  rw [List.append_nil] at hscan
  cases hchars : escaping.chars c with
  | nil =>
    rw [hchars] at hscan
    cases hscan
  | cons => simp

theorem length_le_flatMap (escaping : Escaping) (cs : List Char) :
    cs.length ≤ ((cs.map Text.ofChar).flatMap (writeCodePoint escaping)).length := by
  induction cs with
  | nil => simp
  | cons c cs ih =>
    have hone : writeCodePoint escaping (Text.ofChar c) = escaping.chars c := by
      simp [writeCodePoint]
    have hpos := length_chars_pos escaping c
    simp only [List.map_cons, List.flatMap_cons, List.length_append, List.length_cons, hone]
    omega

/-- A quoted text is read back. -/
theorem scanString_writeText (escaping : Escaping) (s : String) (rest : List Char) :
    scanString (writeText escaping (Text.ofString s) ++ rest) = .ok (Text.ofString s, rest) := by
  have hunfold : writeText escaping (Text.ofString s) ++ rest =
      '"' :: ((s.toList.map Text.ofChar).flatMap (writeCodePoint escaping) ++ '"' :: rest) := by
    simp [writeText, Text.ofString]
  rw [hunfold, scanString]
  refine scanText_write escaping ?_ rest
  have hle := length_le_flatMap escaping s.toList
  rw [List.length_append]
  omega

/-! ## Numbers -/

section Numbers

variable {limits : Limits} {rest : List Char}

theorem Boundary.not_digit (h : Boundary rest) {c : Char} (hc : c ∈ rest.head?) :
    c.isDigit = false := by
  rcases h c hc with rfl | rfl | rfl <;> rfl

theorem Boundary.ne (h : Boundary rest) {c d : Char} (hc : c ∈ rest.head?)
    (hd : d ≠ ',' ∧ d ≠ ']' ∧ d ≠ '}') : c ≠ d := by
  rintro rfl
  rcases h c hc with h | h | h
  · exact hd.1 h
  · exact hd.2.1 h
  · exact hd.2.2 h

/-- A run of digits ends where it did before a boundary was put behind it. -/
theorem digits_append (h : Boundary rest) (cs : List Char) :
    (cs ++ rest).takeWhile Char.isDigit = cs.takeWhile Char.isDigit ∧
      (cs ++ rest).dropWhile Char.isDigit = cs.dropWhile Char.isDigit ++ rest := by
  induction cs with
  | nil =>
    cases rest with
    | nil => exact ⟨rfl, rfl⟩
    | cons c rest =>
      have hc : c.isDigit = false := h.not_digit rfl
      simp [hc]
  | cons c cs ih =>
    by_cases hc : c.isDigit <;> simp [hc, ih]

theorem fraction_append (h : Boundary rest) (cs : List Char) :
    fraction (cs ++ rest) = ((fraction cs).1, (fraction cs).2 ++ rest) := by
  match cs with
  | [] =>
    cases rest with
    | nil => rfl
    | cons c rest =>
      have hne : c ≠ '.' := h.ne rfl (by decide)
      rw [List.nil_append, fraction]
      · rfl
      · rintro d cs heq
        cases heq
        exact absurd rfl hne
  | [c] =>
    cases rest with
    | nil => simp
    | cons d rest =>
      have hdigit : d.isDigit = false := h.not_digit rfl
      by_cases hdot : c = '.'
      · subst hdot
        simp [fraction, hdigit]
      · simp [fraction, hdot]
  | c :: d :: cs =>
    by_cases hdot : c = '.'
    · subst hdot
      obtain ⟨htake, hdrop⟩ := digits_append h cs
      by_cases hdigit : d.isDigit <;> simp [fraction, hdigit, htake, hdrop]
    · simp [fraction, hdot]

theorem exponentSign_append (h : Boundary rest) (cs : List Char) :
    exponentSign (cs ++ rest) = ((exponentSign cs).1, (exponentSign cs).2 ++ rest) := by
  cases cs with
  | nil =>
    cases rest with
    | nil => rfl
    | cons c rest =>
      have hplus : c ≠ '+' := h.ne rfl (by decide)
      have hminus : c ≠ '-' := h.ne rfl (by decide)
      simp [exponentSign, hplus, hminus]
  | cons c cs =>
    by_cases hplus : c = '+'
    · subst hplus
      rfl
    · by_cases hminus : c = '-'
      · subst hminus
        rfl
      · simp [exponentSign, hplus, hminus]

theorem exponent_append (h : Boundary rest) (cs : List Char) :
    exponent (cs ++ rest) = ((exponent cs).1, (exponent cs).2 ++ rest) := by
  cases cs with
  | nil =>
    cases rest with
    | nil => rfl
    | cons c rest =>
      have hlower : c ≠ 'e' := h.ne rfl (by decide)
      have hupper : c ≠ 'E' := h.ne rfl (by decide)
      simp [exponent, hlower, hupper]
  | cons e cs =>
    have hsign := exponentSign_append h cs
    obtain ⟨htake, hdrop⟩ := digits_append h (exponentSign cs).2
    simp only [List.cons_append, exponent, hsign, htake, hdrop]
    split <;> rfl

theorem finishNumber_append (h : Boundary rest) {negative : Bool} {digits cs cs' : List Char}
    {j : Json} (hcs : finishNumber limits negative digits cs = .ok (j, cs')) :
    finishNumber limits negative digits (cs ++ rest) = .ok (j, cs' ++ rest) := by
  have hfraction := fraction_append h cs
  have hexponent := exponent_append h (fraction cs).2
  simp only [finishNumber, hfraction, hexponent] at hcs ⊢
  split at hcs
  · rename_i hint
    rw [if_pos hint]
    split at hcs
    · cases hcs
    · rename_i hdigits
      rw [if_neg hdigits]
      cases hcs
      rfl
  · rename_i hint
    rw [if_neg hint]
    cases hcs
    rfl

theorem scanUnsigned_append (h : Boundary rest) {negative : Bool} {cs cs' : List Char} {j : Json}
    (hcs : scanUnsigned limits negative cs = .ok (j, cs')) :
    scanUnsigned limits negative (cs ++ rest) = .ok (j, cs' ++ rest) := by
  obtain ⟨htake, hdrop⟩ := digits_append h cs
  unfold scanUnsigned at hcs ⊢
  rw [htake, hdrop]
  split at hcs
  · cases hcs
  · rename_i ds hdigits
    have hpos : 1 ≤ cs.length := by
      cases cs with
      | nil => cases hdigits
      | cons => simp
    rw [List.drop_append_of_le_length hpos]
    exact finishNumber_append h hcs
  · exact finishNumber_append h hcs

/-- **A number is read the same before a boundary** as at the end of the text. -/
theorem scanNumber_append (h : Boundary rest) {cs cs' : List Char} {j : Json}
    (hcs : scanNumber limits cs = .ok (j, cs')) :
    scanNumber limits (cs ++ rest) = .ok (j, cs' ++ rest) := by
  cases cs with
  | nil => cases hcs
  | cons c cs =>
    by_cases hminus : c = '-'
    · subst hminus
      exact scanUnsigned_append h hcs
    · have hplain : ∀ cs, scanNumber limits (c :: cs) = scanUnsigned limits false (c :: cs) := by
        intro cs
        simp [scanNumber, hminus]
      rw [hplain] at hcs
      rw [List.cons_append, hplain]
      exact scanUnsigned_append h hcs

/-- A number starts with a digit, or with a minus sign that a digit follows. -/
theorem head_of_scanNumber {cs cs' : List Char} {j : Json}
    (h : scanNumber limits cs = .ok (j, cs')) :
    ∃ c tail, cs = c :: tail ∧ (c.isDigit ∨ c = '-' ∧ ∃ d tail', tail = d :: tail' ∧ d.isDigit) := by
  have hunsigned : ∀ {negative : Bool} {cs : List Char},
      scanUnsigned limits negative cs = .ok (j, cs') → ∃ d tail, cs = d :: tail ∧ d.isDigit := by
    intro negative cs h
    cases cs with
    | nil => cases h
    | cons d tail =>
      refine ⟨d, tail, rfl, ?_⟩
      by_contra hd
      have hnone : (d :: tail).takeWhile Char.isDigit = [] :=
        List.takeWhile_cons_of_neg (by simpa using hd)
      simp only [scanUnsigned, hnone] at h
      cases h
  cases cs with
  | nil => cases h
  | cons c tail =>
    by_cases hminus : c = '-'
    · subst hminus
      exact ⟨'-', tail, rfl, .inr ⟨rfl, hunsigned h⟩⟩
    · have hplain : scanNumber limits (c :: tail) = scanUnsigned limits false (c :: tail) := by
        simp [scanNumber, hminus]
      rw [hplain] at h
      obtain ⟨d, tail', heq, hd⟩ := hunsigned h
      cases heq
      exact ⟨c, tail, rfl, .inl hd⟩

/-- A number is no keyword. -/
theorem keyword?_of_scanNumber {cs cs' : List Char} {j : Json}
    (h : scanNumber limits cs = .ok (j, cs')) (rest : List Char) : keyword? (cs ++ rest) = none := by
  obtain ⟨c, tail, rfl, hhead⟩ := head_of_scanNumber h
  rcases hhead with hdigit | ⟨rfl, d, tail', rfl, hdigit⟩
  · have hne : ∀ e : Char, e.isDigit = false → e ≠ c := by
      rintro e he rfl
      rw [he] at hdigit
      cases hdigit
    have hn := hne 'n' rfl
    have ht := hne 't' rfl
    have hf := hne 'f' rfl
    have hN := hne 'N' rfl
    have hI := hne 'I' rfl
    have hminus := hne '-' rfl
    simp [keyword?, keywords, hn, ht, hf, hN, hI, hminus]
  · have hI : 'I' ≠ d := by
      rintro rfl
      cases hdigit
    simp [keyword?, keywords, hI]

end Numbers

/-- The literals that are read as numbers other than integers, whatever the bound on digits. -/
def FloatLiteral (literal : String) : Prop :=
  ∀ limits, scanNumber limits literal.toList = .ok (.float literal, [])

/-- The integers that a decoder reads: within its bound on digits. -/
def Limits.Admits (limits : Limits) (n : Int) : Prop :=
  (Nat.toDigits 10 n.natAbs).length ≤ limits.maxDigits

theorem isDigit_toDigits (n : Nat) : ∀ c ∈ Nat.toDigits 10 n, c.isDigit :=
  fun _ hc => Nat.isDigit_of_mem_toDigits (by omega) (by omega) hc

/-- The digits of a natural number start with zero only when they are that digit alone. -/
theorem toDigits_zero_head {n : Nat} {ds : List Char} (h : Nat.toDigits 10 n = '0' :: ds) :
    ds = [] := by
  induction n using Nat.strongRecOn generalizing ds with
  | ind n ih =>
    by_cases hlt : n < 10
    · rw [Nat.toDigits_of_lt_base hlt] at h
      simp only [List.cons.injEq] at h
      exact h.2.symm
    · rw [Nat.toDigits_of_base_le (by omega) (by omega)] at h
      cases hq : Nat.toDigits 10 (n / 10) with
      | nil => exact absurd hq Nat.toDigits_ne_nil
      | cons c cs =>
        rw [hq, List.cons_append] at h
        obtain ⟨rfl, -⟩ := List.cons.inj h
        -- The quotient would be zero, while it has a digit of its own.
        have hcs := ih (n / 10) (by omega) hq
        subst hcs
        have hvalue := Nat.ofDigitChars_ten_toDigits (n := n / 10)
        rw [hq] at hvalue
        have hzero : Nat.ofDigitChars 10 ['0'] 0 = 0 := rfl
        omega

theorem digits_all {ds : List Char} (h : ∀ c ∈ ds, c.isDigit) :
    ds.takeWhile Char.isDigit = ds ∧ ds.dropWhile Char.isDigit = [] := by
  induction ds with
  | nil => exact ⟨rfl, rfl⟩
  | cons c ds ih =>
    obtain ⟨htake, hdrop⟩ := ih fun d hd => h d (List.mem_cons_of_mem c hd)
    simp [h c List.mem_cons_self, htake, hdrop]

theorem scanUnsigned_toDigits {limits : Limits} (negative : Bool) {n : Nat}
    (h : (Nat.toDigits 10 n).length ≤ limits.maxDigits) :
    scanUnsigned limits negative (Nat.toDigits 10 n) =
      .ok (.int (if negative then -(n : Int) else n), []) := by
  obtain ⟨htake, hdrop⟩ := digits_all (isDigit_toDigits n)
  have hfinish : finishNumber limits negative (Nat.toDigits 10 n) [] =
      .ok (.int (if negative then -(n : Int) else n), []) := by
    have hvalue := Nat.ofDigitChars_ten_toDigits (n := n)
    simp [finishNumber, fraction, exponent, signedValue, hvalue, Nat.not_lt.mpr h]
  unfold scanUnsigned
  rw [htake, hdrop]
  split
  · rename_i hnil
    exact absurd hnil Nat.toDigits_ne_nil
  · rename_i ds hzero
    obtain rfl := toDigits_zero_head hzero
    rw [← hfinish, hzero]
    rfl
  · exact hfinish

/-- An integer is read back. -/
theorem scanNumber_writeInt {limits : Limits} {n : Int} (h : limits.Admits n) :
    scanNumber limits (writeInt n) = .ok (.int n, []) := by
  by_cases hneg : n < 0
  · have hvalue : -(n.natAbs : Int) = n := by omega
    have hscan := scanUnsigned_toDigits true h
    simp only [if_true, hvalue] at hscan
    have hwrite : writeInt n = '-' :: Nat.toDigits 10 n.natAbs := by simp [writeInt, hneg]
    rw [hwrite]
    exact hscan
  · have hvalue : (n.natAbs : Int) = n := by omega
    have hscan := scanUnsigned_toDigits false h
    simp only [Bool.false_eq_true, if_false, hvalue] at hscan
    have hwrite : writeInt n = Nat.toDigits 10 n.natAbs := by simp [writeInt, hneg]
    rw [hwrite]
    cases hdigits : Nat.toDigits 10 n.natAbs with
    | nil => exact absurd hdigits Nat.toDigits_ne_nil
    | cons c cs =>
      have hminus : c ≠ '-' := by
        rintro rfl
        have := isDigit_toDigits n.natAbs '-' (by rw [hdigits]; exact List.mem_cons_self)
        cases this
      rw [hdigits] at hscan
      simpa [scanNumber, hminus] using hscan

/-! ## Values -/

section Values

variable {escaping : Escaping}

/-- The first character of a value is neither white space nor a closing bracket, nor a byte order
mark. -/
def Starts (c : Char) : Prop := isSpace c = false ∧ c ≠ ']' ∧ c ≠ '}' ∧ c ≠ '\uFEFF'

theorem starts_of_scanNumber {limits : Limits} {cs cs' : List Char} {j : Json}
    (h : scanNumber limits cs = .ok (j, cs')) : ∃ c tail, cs = c :: tail ∧ Starts c := by
  obtain ⟨c, tail, rfl, hhead⟩ := head_of_scanNumber h
  refine ⟨c, tail, rfl, ?_⟩
  rcases hhead with hdigit | ⟨rfl, -⟩
  · have hne : ∀ e : Char, e.isDigit = false → c ≠ e := by
      rintro e he rfl
      rw [he] at hdigit
      cases hdigit
    refine ⟨?_, hne ']' rfl, hne '}' rfl, hne '\uFEFF' rfl⟩
    simp [isSpace, hne ' ' rfl, hne '\t' rfl, hne '\n' rfl, hne '\r' rfl]
  · exact ⟨by decide, by decide, by decide, by decide⟩

variable (escaping) in
theorem starts_write {d : Nat} {j : Json} (h : Shaped FloatLiteral d j) :
    ∃ c tail, write escaping j = c :: tail ∧ Starts c := by
  cases h with
  | null => exact ⟨'n', _, by rw [write], by decide, by decide, by decide, by decide⟩
  | bool b =>
    cases b with
    | true => exact ⟨'t', _, by rw [write], by decide, by decide, by decide, by decide⟩
    | false => exact ⟨'f', _, by rw [write], by decide, by decide, by decide, by decide⟩
  | int n =>
    rw [write]
    have hadmits : Limits.Admits ⟨(Nat.toDigits 10 n.natAbs).length, 0⟩ n := Nat.le_refl _
    exact starts_of_scanNumber (scanNumber_writeInt hadmits)
  | float hliteral =>
    rw [write]
    exact starts_of_scanNumber (hliteral ⟨0, 0⟩)
  | str s => exact ⟨'"', _, by rw [write, writeText]; rfl, by decide, by decide, by decide, by decide⟩
  | arr hitems => exact ⟨'[', _, by rw [write], by decide, by decide, by decide, by decide⟩
  | obj hkeys hstrings hmembers => exact ⟨'{', _, by rw [write], by decide, by decide, by decide, by decide⟩

theorem skipSpace_of_starts {c : Char} (h : Starts c) (tail : List Char) :
    skipSpace (c :: tail) = c :: tail :=
  List.dropWhile_cons_of_neg (by simp [h.1])

/-- A scalar is read back, whatever fuel is left. -/
theorem scanValue_number {limits : Limits} {cs rest : List Char} {j : Json}
    (h : scanNumber limits cs = .ok (j, [])) (hrest : Boundary rest) (fuel depth : Nat) :
    scanValue limits (fuel + 1) depth (cs ++ rest) = .ok (j, rest) := by
  have hkeyword := keyword?_of_scanNumber h rest
  have hnumber := scanNumber_append hrest h
  obtain ⟨c, tail, rfl, hhead⟩ := head_of_scanNumber h
  have hne : ∀ e : Char, e.isDigit = false → e ≠ '-' → c ≠ e := by
    rintro e hdigit hminus rfl
    rcases hhead with h | ⟨h, -⟩
    · rw [hdigit] at h
      cases h
    · exact hminus h
  rw [List.cons_append] at hkeyword hnumber ⊢
  simp only [scanValue, hne '"' rfl (by decide), hne '[' rfl (by decide), hne '{' rfl (by decide),
    if_false, hkeyword, hnumber, List.nil_append]

theorem skipSpace_boundary {rest : List Char} (h : Boundary rest) : skipSpace rest = rest := by
  cases rest with
  | nil => rfl
  | cons c rest =>
    refine List.dropWhile_cons_of_neg ?_
    rcases h c rfl with rfl | rfl | rfl <;> decide

/-- What is written, is read back: values, the items of an array and the members of an object,
by induction on the fuel. -/
theorem scan_write (limits : Limits) (escaping : Escaping) (fuel : Nat) :
    (∀ depth d j rest, Shaped FloatLiteral d j → d ≤ depth → (∀ n ∈ j.ints, limits.Admits n) →
      Boundary rest → 2 * (write escaping j).length ≤ fuel →
        scanValue limits fuel depth (write escaping j ++ rest) = .ok (j, rest)) ∧
    (∀ depth items rest, items ≠ [] → (∀ item ∈ items, Shaped FloatLiteral depth item) →
      (∀ item ∈ items, ∀ n ∈ item.ints, limits.Admits n) →
      2 * (writeItems escaping items).length + 1 ≤ fuel →
        scanItems limits fuel depth (writeItems escaping items ++ rest) = .ok (items, rest)) ∧
    (∀ depth members rest, members ≠ [] →
      (∀ member ∈ members, ∃ s, member.1 = Text.ofString s) →
      (∀ member ∈ members, Shaped FloatLiteral depth member.2) →
      (∀ member ∈ members, ∀ n ∈ member.2.ints, limits.Admits n) →
      2 * (writeMembers escaping members).length + 1 ≤ fuel →
        scanMembers limits fuel depth (writeMembers escaping members ++ rest) =
          .ok (members, rest)) := by
  induction fuel with
  | zero =>
    refine ⟨fun depth d j rest hshaped _ _ _ hfuel => ?_, fun _ _ _ _ _ _ h => by omega,
      fun _ _ _ _ _ _ _ h => by omega⟩
    obtain ⟨c, tail, hwrite, -⟩ := starts_write escaping hshaped
    rw [hwrite, List.length_cons] at hfuel
    omega
  | succ fuel ih =>
    obtain ⟨ihValue, ihItems, ihMembers⟩ := ih
    refine ⟨fun depth d j rest hshaped hd hints hrest hfuel => ?_,
      fun depth items rest hne hitems hints hfuel => ?_,
      fun depth members rest hne hstrings hmembers hints hfuel => ?_⟩
    · cases hshaped with
      | null => rfl
      | bool b => cases b <;> rfl
      | int n =>
        rw [write]
        exact scanValue_number (scanNumber_writeInt (hints n (by simp))) hrest fuel depth
      | float hliteral =>
        rw [write]
        exact scanValue_number (hliteral limits) hrest fuel depth
      | str s =>
        have hstring := scanString_writeText escaping s rest
        rw [write]
        simp only [writeText, List.cons_append] at hstring ⊢
        simp only [scanValue, if_true, hstring]
        rfl
      | @arr d items hitems =>
        obtain ⟨depth, rfl⟩ : ∃ n, depth = n + 1 := ⟨depth - 1, by omega⟩
        simp only [write, List.length_cons] at hfuel
        simp only [write, List.cons_append, scanValue, Char.reduceEq, if_false, if_true]
        cases items with
        | nil => rfl
        | cons item items =>
          obtain ⟨c, tail, hwrite, hstarts⟩ :=
            starts_write escaping (hitems item List.mem_cons_self)
          have hhead : skipSpace (writeItems escaping (item :: items) ++ rest) =
              writeItems escaping (item :: items) ++ rest := by
            rw [writeItems, hwrite, List.cons_append, List.cons_append,
              skipSpace_of_starts hstarts]
          have hopen : (writeItems escaping (item :: items) ++ rest).head? ≠ some ']' := by
            rw [writeItems, hwrite]
            simpa using hstarts.2.1
          have hscan := ihItems depth (item :: items) rest (List.cons_ne_nil _ _)
            (fun x hx => (hitems x hx).mono (by omega))
            (fun x hx n hn => hints n (by rw [ints_arr]; exact List.mem_flatMap_of_mem hx hn))
            (by omega)
          rw [hhead, if_neg hopen, hscan]
          rfl
      | @obj d members hkeys hstrings hmembers =>
        obtain ⟨depth, rfl⟩ : ∃ n, depth = n + 1 := ⟨depth - 1, by omega⟩
        simp only [write, List.length_cons] at hfuel
        simp only [write, List.cons_append, scanValue, Char.reduceEq, if_false, if_true]
        cases members with
        | nil => rfl
        | cons member members =>
          have hhead : skipSpace (writeMembers escaping (member :: members) ++ rest) =
              writeMembers escaping (member :: members) ++ rest := by
            rw [writeMembers, writeText, List.cons_append, List.cons_append, List.cons_append]
            exact skipSpace_of_starts ⟨by decide, by decide, by decide, by decide⟩ _
          have hopen : (writeMembers escaping (member :: members) ++ rest).head? ≠ some '}' := by
            rw [writeMembers, writeText]
            simp
          have hscan := ihMembers depth (member :: members) rest (List.cons_ne_nil _ _) hstrings
            (fun x hx => (hmembers x hx).mono (by omega))
            (fun x hx n hn => hints n (by rw [ints_obj]; exact List.mem_flatMap_of_mem hx hn))
            (by omega)
          rw [hhead, if_neg hopen, hscan]
          have hobject : object (member :: members) = .obj (member :: members) :=
            congrArg Json.obj (Dict.ofPairs_entries hkeys)
          exact congrArg (fun j => Except.ok (j, rest)) hobject
    · cases items with
      | nil => exact absurd rfl hne
      | cons item items =>
        have hlength : (writeItems escaping (item :: items)).length =
            (write escaping item).length + (separator items).length +
              (writeItems escaping items).length := by
          simp only [writeItems, List.length_append]
          omega
        rw [hlength] at hfuel
        have hitem := ihValue depth depth item
          (separator items ++ writeItems escaping items ++ rest) (hitems item List.mem_cons_self)
          (Nat.le_refl _) (hints item List.mem_cons_self)
        rw [writeItems, List.append_assoc, scanItems]
        cases items with
        | nil =>
          simp only [separator, writeItems, List.nil_append, List.length_cons, List.length_nil,
            List.cons_append] at hitem hfuel ⊢
          rw [hitem (boundary_bracket rest) (by omega)]
          rfl
        | cons next items =>
          obtain ⟨c, tail, hwrite, hstarts⟩ := starts_write escaping
            (hitems next (List.mem_cons_of_mem _ List.mem_cons_self))
          have hskip : skipSpace (writeItems escaping (next :: items) ++ rest) =
              writeItems escaping (next :: items) ++ rest := by
            rw [writeItems, hwrite, List.cons_append, List.cons_append,
              skipSpace_of_starts hstarts]
          have hmore := ihItems depth (next :: items) rest (List.cons_ne_nil _ _)
            (fun x hx => hitems x (List.mem_cons_of_mem _ hx))
            (fun x hx => hints x (List.mem_cons_of_mem _ hx))
          simp only [separator, List.cons_append, List.nil_append, List.length_cons,
            List.length_nil] at hitem hfuel ⊢
          rw [hitem (boundary_comma _) (by omega)]
          have hcomma : skipSpace (',' :: (writeItems escaping (next :: items) ++ rest)) =
              ',' :: (writeItems escaping (next :: items) ++ rest) :=
            skipSpace_boundary (boundary_comma _)
          simp only [bind, Except.bind, hcomma, hskip, hmore (by omega)]
          rfl
    · cases members with
      | nil => exact absurd rfl hne
      | cons member members =>
        obtain ⟨key, value⟩ := member
        obtain ⟨s, hs⟩ := hstrings (key, value) List.mem_cons_self
        dsimp only at hs
        subst hs
        have hlength : (writeMembers escaping ((Text.ofString s, value) :: members)).length =
            (writeText escaping (Text.ofString s)).length + 1 + (write escaping value).length +
              (separator members).length + (writeMembers escaping members).length := by
          simp only [writeMembers, List.length_append, List.length_cons]
          omega
        rw [hlength] at hfuel
        have hshaped := hmembers (Text.ofString s, value) List.mem_cons_self
        have hvalue := ihValue depth depth value
          (separator members ++ writeMembers escaping members ++ rest) hshaped (Nat.le_refl _)
          (hints (Text.ofString s, value) List.mem_cons_self)
        obtain ⟨c, tail, hwrite, hstarts⟩ := starts_write escaping hshaped
        have hskip : ∀ cs, skipSpace (write escaping value ++ cs) = write escaping value ++ cs := by
          intro cs
          rw [hwrite, List.cons_append, skipSpace_of_starts hstarts]
        have hcolon : ∀ cs, skipSpace (':' :: cs) = ':' :: cs := fun cs =>
          skipSpace_of_starts ⟨by decide, by decide, by decide, by decide⟩ cs
        rw [writeMembers, List.append_assoc, scanMembers, scanString_writeText]
        simp only [List.cons_append, List.append_assoc] at hvalue ⊢
        simp only [bind, Except.bind, hcolon, hskip]
        cases members with
        | nil =>
          simp only [separator, writeMembers, List.nil_append, List.length_cons, List.length_nil,
            List.cons_append] at hvalue hfuel ⊢
          rw [hvalue (boundary_brace rest) (by omega)]
          rfl
        | cons next members =>
          have hquote : skipSpace (writeMembers escaping (next :: members) ++ rest) =
              writeMembers escaping (next :: members) ++ rest := by
            rw [writeMembers, writeText, List.cons_append, List.cons_append, List.cons_append]
            exact skipSpace_of_starts ⟨by decide, by decide, by decide, by decide⟩ _
          have hmore := ihMembers depth (next :: members) rest (List.cons_ne_nil _ _)
            (fun x hx => hstrings x (List.mem_cons_of_mem _ hx))
            (fun x hx => hmembers x (List.mem_cons_of_mem _ hx))
            (fun x hx => hints x (List.mem_cons_of_mem _ hx))
          simp only [separator, List.cons_append, List.nil_append, List.length_cons,
            List.length_nil] at hvalue hfuel ⊢
          rw [hvalue (boundary_comma _) (by omega)]
          have hcomma : skipSpace (',' :: (writeMembers escaping (next :: members) ++ rest)) =
              ',' :: (writeMembers escaping (next :: members) ++ rest) :=
            skipSpace_boundary (boundary_comma _)
          simp only [hcomma, hquote, hmore (by omega)]
          rfl

/-- **A document that is written is read back**: one whose containers are nested within the
decoder's bound and whose integers it admits. -/
theorem loads_write {limits : Limits} (escaping : Escaping) {d : Nat} {j : Json}
    (hshaped : Shaped FloatLiteral d j) (hdepth : d ≤ limits.maxDepth)
    (hints : ∀ n ∈ j.ints, limits.Admits n) : loads limits (write escaping j) = .ok j := by
  obtain ⟨c, tail, hwrite, hstarts⟩ := starts_write escaping hshaped
  have hskip : skipSpace (write escaping j) = write escaping j := by
    rw [hwrite, skipSpace_of_starts hstarts]
  have hscan := (scan_write limits escaping (2 * (write escaping j).length)).1 limits.maxDepth d j []
    hshaped hdepth hints boundary_nil (Nat.le_refl _)
  rw [List.append_nil] at hscan
  have hmark : (write escaping j).head? ≠ some '\uFEFF' := by
    rw [hwrite]
    exact fun heq => hstarts.2.2.2 (Option.some.inj heq)
  simp only [loads, if_neg hmark, hskip, hscan]
  rfl

end Values

end Snarkypuss.Json
