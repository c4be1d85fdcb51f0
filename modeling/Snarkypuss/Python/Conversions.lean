import Snarkypuss.Python.Json
import Snarkypuss.Python.Text

/-!
# Integers written in a text

`int(text)` and `int(text, 0)`. White space around the number and decimal digits of every script
are admitted, single underscores may stand between digits, and base 0 reads the prefixes `0x`,
`0o` and `0b`. Every failure is a `ValueError`, so the result is an option.

## Main definitions

* `TextData`: what `str.lower`, `repr` and the digits of other scripts add to the model
* `int`, `int0`: `int(text)` and `int(text, 0)`

## Main results

* `stripList_append`, `exists_stripList`: what stripping removes
* `int_strip`: a text that `int` reads is read the same without the white space around it
-/

namespace Snarkypuss.Python

/-- What `str.lower`, the decimal value of a character and `repr` of a text take from the Unicode
database of the interpreter. On ASCII text, lower case is what it is everywhere. -/
structure TextData where
  lower : String → String
  lower_ascii : ∀ s : String, (∀ c ∈ s.toList, c.toNat < 128) →
    lower s = String.ofList (s.toList.map Char.toLower)
  decimal : Char → Option (Fin 10)
  repr : String → String

/-- The database on ASCII text. -/
def asciiTextData : TextData where
  lower s := String.ofList (s.toList.map Char.toLower)
  lower_ascii _ _ := rfl
  decimal _ := none
  repr s := "'" ++ s ++ "'"

/-! ## Stripping -/

section Strip

variable {p : Char → Bool} {a b m cs : List Char}

/-- `stripBy` on the characters of a text. -/
def stripList (p : Char → Bool) (cs : List Char) : List Char :=
  ((cs.dropWhile p).reverse.dropWhile p).reverse

theorem toList_stripBy (p : Char → Bool) (s : String) :
    (stripBy p s).toList = stripList p s.toList := by
  simp [stripBy, stripList]

theorem dropWhile_append_of_all (ha : ∀ c ∈ a, p c) : (a ++ m).dropWhile p = m.dropWhile p := by
  induction a with
  | nil => rfl
  | cons c a ih =>
    rw [List.cons_append, List.dropWhile_cons_of_pos (ha c List.mem_cons_self)]
    exact ih fun c' hc' => ha c' (List.mem_cons_of_mem c hc')

theorem dropWhile_eq_self (hm : ∀ c ∈ m.head?, p c = false) : m.dropWhile p = m := by
  cases m with
  | nil => rfl
  | cons c m => exact List.dropWhile_cons_of_neg (by simp [hm c rfl])

/-- A text between two runs of the class, starting and ending outside it, is what is left. -/
theorem stripList_append (ha : ∀ c ∈ a, p c) (hb : ∀ c ∈ b, p c)
    (hfirst : ∀ c ∈ m.head?, p c = false) (hlast : ∀ c ∈ m.getLast?, p c = false) :
    stripList p (a ++ m ++ b) = m := by
  have hfront : (a ++ m ++ b).dropWhile p = (m ++ b).dropWhile p := by
    rw [List.append_assoc, dropWhile_append_of_all ha]
  cases hm : m with
  | nil =>
    have hall : b.dropWhile p = [] := List.dropWhile_eq_nil_iff.mpr hb
    rw [hm] at hfront
    rw [stripList, hfront, List.nil_append, hall]
    rfl
  | cons c m' =>
    rw [← hm]
    have hkeep : (m ++ b).dropWhile p = m ++ b :=
      dropWhile_eq_self fun c' hc' => hfirst c' (by simpa [hm] using hc')
    have hback : m.reverse.dropWhile p = m.reverse :=
      dropWhile_eq_self fun c' hc' => hlast c' (by simpa using hc')
    rw [stripList, hfront, hkeep, List.reverse_append,
      dropWhile_append_of_all fun c' hc' => hb c' (List.mem_reverse.mp hc'), hback,
      List.reverse_reverse]

/-- Every text is what stripping leaves of it, between two runs of the class. -/
theorem exists_stripList (p : Char → Bool) (cs : List Char) :
    ∃ a b, cs = a ++ stripList p cs ++ b ∧ (∀ c ∈ a, p c) ∧ ∀ c ∈ b, p c := by
  refine ⟨cs.takeWhile p, ((cs.dropWhile p).reverse.takeWhile p).reverse, ?_,
    fun c hc => List.mem_takeWhile_imp hc,
    fun c hc => List.mem_takeWhile_imp (List.mem_reverse.mp hc)⟩
  have hback : cs.dropWhile p =
      stripList p cs ++ ((cs.dropWhile p).reverse.takeWhile p).reverse := by
    rw [stripList, ← List.reverse_append, List.takeWhile_append_dropWhile, List.reverse_reverse]
  rw [List.append_assoc, ← hback, List.takeWhile_append_dropWhile]

/-- What stripping leaves starts outside the class. -/
theorem head?_stripList : ∀ c ∈ (stripList p cs).head?, p c = false := by
  intro c hc
  have hlast : c ∈ ((cs.dropWhile p).reverse.dropWhile p).getLast? := by
    simpa [stripList] using hc
  obtain ⟨front, hfront⟩ := List.dropWhile_suffix (l := (cs.dropWhile p).reverse) p
  have hhead : (cs.dropWhile p).head? = some c := by
    rw [← List.getLast?_reverse, ← hfront, List.getLast?_append, Option.mem_def.mp hlast]
    rfl
  cases hd : cs.dropWhile p with
  | nil => simp [hd] at hhead
  | cons c' m =>
    have hnot := List.head?_dropWhile_not p cs
    rw [hhead] at hnot
    simpa using hnot

/-- What stripping leaves ends outside the class. -/
theorem getLast?_stripList : ∀ c ∈ (stripList p cs).getLast?, p c = false := by
  intro c hc
  have hhead : ((cs.dropWhile p).reverse.dropWhile p).head? = some c := by
    simpa [stripList] using hc
  have hnot := List.head?_dropWhile_not p (cs.dropWhile p).reverse
  rw [hhead] at hnot
  simpa using hnot

end Strip

/-! ## Reading -/

/-- `Py_ISSPACE`: the white space that the C parser of numbers skips. -/
def isAsciiSpace (c : Char) : Bool :=
  let n := c.toNat
  decide (0x09 ≤ n ∧ n ≤ 0x0d ∨ n = 0x20)

theorem isSpace_of_isAsciiSpace {c : Char} (h : isAsciiSpace c) : isSpace c := by
  simp only [isAsciiSpace, decide_eq_true_eq] at h
  simp only [isSpace, decide_eq_true_eq]
  omega

/-- One character as the parser of numbers sees it: white space as a blank and decimal digits as
ASCII digits. What is neither becomes a character that no number contains. -/
def toAsciiDigit (data : TextData) (c : Char) : Char :=
  if c.toNat < 128 then c
  else if isSpace c then ' '
  else
    match data.decimal c with
    | some d => Nat.digitChar d
    | none => '?'

/-- The text that the parser of numbers sees. ASCII text is left alone. -/
def toAsciiNumber (data : TextData) (cs : List Char) : List Char :=
  cs.map (toAsciiDigit data)

/-- The value of a digit in bases up to 36. -/
def digitValue (c : Char) : Option Nat :=
  let n := c.toNat
  if 48 ≤ n ∧ n ≤ 57 then some (n - 48)
  else if 97 ≤ n ∧ n ≤ 122 then some (n - 87)
  else if 65 ≤ n ∧ n ≤ 90 then some (n - 55)
  else none

/-- A digit of a base. -/
def digitOf (base : Nat) (c : Char) : Option Nat := (digitValue c).filter (· < base)

/-- One digit or more, single underscores between them. -/
def readDigits (base : Nat) : List Char → Option (List Nat)
  | [] => none
  | [c] => (digitOf base c).map ([·])
  | c :: c' :: cs =>
    if c' = '_' then (digitOf base c).bind fun d => (readDigits base cs).map (d :: ·)
    else (digitOf base c).bind fun d => (readDigits base (c' :: cs)).map (d :: ·)

/-- A number in decimal, with at most as many digits as the interpreter converts. -/
def readDecimal (cs : List Char) : Option Nat :=
  ((readDigits 10 cs).filter (·.length ≤ maxStrDigits)).map fun ds => Nat.ofDigits 10 ds.reverse

/-- The digits behind a prefix, where one more underscore may stand. -/
def readPrefixed (base : Nat) (cs : List Char) : Option Nat :=
  (readDigits base (if cs.head? = some '_' then cs.tail else cs)).map fun ds =>
    Nat.ofDigits base ds.reverse

/-- A number in the base its prefix names. Without a prefix only zero may start with a zero. -/
def readAnyBase : List Char → Option Nat
  | '0' :: c :: cs =>
    if c = 'x' ∨ c = 'X' then readPrefixed 16 cs
    else if c = 'o' ∨ c = 'O' then readPrefixed 8 cs
    else if c = 'b' ∨ c = 'B' then readPrefixed 2 cs
    else (readDecimal ('0' :: c :: cs)).filter (· = 0)
  | cs => readDecimal cs

/-- A number with an optional sign. -/
def readSigned (read : List Char → Option Nat) : List Char → Option Int
  | '+' :: cs => (read cs).map Int.ofNat
  | '-' :: cs => (read cs).map fun n => -Int.ofNat n
  | cs => (read cs).map Int.ofNat

/-- `int(text)`. -/
def int (data : TextData) (s : String) : Option Int :=
  readSigned readDecimal (stripList isAsciiSpace (toAsciiNumber data s.toList))

/-- `int(text, 0)`. -/
def int0 (data : TextData) (s : String) : Option Int :=
  readSigned readAnyBase (stripList isAsciiSpace (toAsciiNumber data s.toList))

/-! ## White space around a number -/

theorem isSpace_toAsciiDigit {data : TextData} {c : Char} (h : isSpace c) :
    isSpace (toAsciiDigit data c) := by
  unfold toAsciiDigit
  split
  · exact h
  · decide

theorem isSpace_of_toAsciiDigit {data : TextData} {c : Char}
    (h : isAsciiSpace (toAsciiDigit data c)) : isSpace c := by
  unfold toAsciiDigit at h
  split at h
  · exact isSpace_of_isAsciiSpace h
  · split at h
    · assumption
    · exfalso
      cases hd : data.decimal c with
      | none => simp [hd, isAsciiSpace] at h
      | some d =>
        simp only [hd] at h
        revert h
        fin_cases d <;> decide

/-- A number without white space in it is read the same when the text is stripped first. -/
theorem toAsciiNumber_strip {data : TextData} {s : String}
    (h : ∀ c ∈ stripList isAsciiSpace (toAsciiNumber data s.toList), isSpace c = false) :
    stripList isAsciiSpace (toAsciiNumber data (strip s).toList) =
      stripList isAsciiSpace (toAsciiNumber data s.toList) := by
  obtain ⟨a, b, hsplit, ha, hb⟩ := exists_stripList isAsciiSpace (toAsciiNumber data s.toList)
  generalize stripList isAsciiSpace (toAsciiNumber data s.toList) = t at h hsplit ⊢
  -- the characters of the text behind the three parts
  obtain ⟨front, b', hs, hfront, rfl⟩ := List.map_eq_append_iff.mp hsplit
  obtain ⟨a', t', rfl, rfl, rfl⟩ := List.map_eq_append_iff.mp hfront
  have hclear : ∀ c ∈ t', isSpace c = false := by
    intro c hc
    by_contra hspace
    have himage : isSpace (toAsciiDigit data c) := isSpace_toAsciiDigit (by simpa using hspace)
    rw [h _ (List.mem_map_of_mem hc)] at himage
    contradiction
  have hstrip : (strip s).toList = t' := by
    rw [strip, toList_stripBy, hs]
    refine stripList_append ?_ ?_ ?_ ?_
    · exact fun c hc => isSpace_of_toAsciiDigit (ha _ (List.mem_map_of_mem hc))
    · exact fun c hc => isSpace_of_toAsciiDigit (hb _ (List.mem_map_of_mem hc))
    · exact fun c hc => hclear c (List.mem_of_head? hc)
    · exact fun c hc => hclear c (List.mem_of_getLast? hc)
  rw [hstrip]
  have hnone : ∀ c ∈ toAsciiNumber data t', isAsciiSpace c = false := by
    intro c hc
    by_contra hspace
    have himage : isSpace c := isSpace_of_isAsciiSpace (by simpa using hspace)
    rw [h c hc] at himage
    contradiction
  have hwhole : stripList isAsciiSpace ([] ++ toAsciiNumber data t' ++ []) = _ :=
    stripList_append (by simp) (by simp) (fun c hc => hnone c (List.mem_of_head? hc))
      (fun c hc => hnone c (List.mem_of_getLast? hc))
  simpa [toAsciiNumber] using hwhole

theorem not_isSpace_of_digitOf {base d : Nat} {c : Char} (h : digitOf base c = some d) :
    isSpace c = false := by
  have hvalue : digitValue c = some d := (Option.filter_eq_some_iff.mp h).1
  simp only [digitValue] at hvalue
  simp only [isSpace, decide_eq_false_iff_not]
  split at hvalue
  · omega
  · split at hvalue
    · omega
    · split at hvalue
      · omega
      · cases hvalue

theorem not_isSpace_of_readDigits {base : Nat} {cs : List Char} {ds : List Nat}
    (h : readDigits base cs = some ds) : ∀ c ∈ cs, isSpace c = false := by
  induction cs using readDigits.induct generalizing ds with
  | case1 => simp [readDigits] at h
  | case2 c =>
    obtain ⟨d, hd, -⟩ := Option.map_eq_some_iff.mp h
    simpa using not_isSpace_of_digitOf hd
  | case3 c cs ih =>
    rw [readDigits, if_pos rfl] at h
    obtain ⟨d, hd, hrest⟩ := Option.bind_eq_some_iff.mp h
    obtain ⟨ds', hds', -⟩ := Option.map_eq_some_iff.mp hrest
    simp only [List.mem_cons, forall_eq_or_imp]
    exact ⟨not_isSpace_of_digitOf hd, by decide, ih hds'⟩
  | case4 c c' cs hne ih =>
    rw [readDigits, if_neg hne] at h
    obtain ⟨d, hd, hrest⟩ := Option.bind_eq_some_iff.mp h
    obtain ⟨ds', hds', -⟩ := Option.map_eq_some_iff.mp hrest
    rw [List.forall_mem_cons]
    exact ⟨not_isSpace_of_digitOf hd, ih hds'⟩

theorem not_isSpace_of_readDecimal {cs : List Char} {n : Nat} (h : readDecimal cs = some n) :
    ∀ c ∈ cs, isSpace c = false := by
  obtain ⟨ds, hds, -⟩ := Option.map_eq_some_iff.mp h
  exact not_isSpace_of_readDigits (Option.filter_eq_some_iff.mp hds).1

theorem not_isSpace_of_readSigned {read : List Char → Option Nat}
    (hread : ∀ cs n, read cs = some n → ∀ c ∈ cs, isSpace c = false) {cs : List Char} {n : Int}
    (h : readSigned read cs = some n) : ∀ c ∈ cs, isSpace c = false := by
  unfold readSigned at h
  split at h
  all_goals obtain ⟨m, hm, -⟩ := Option.map_eq_some_iff.mp h
  · rw [List.forall_mem_cons]
    exact ⟨by decide, hread _ _ hm⟩
  · rw [List.forall_mem_cons]
    exact ⟨by decide, hread _ _ hm⟩
  · exact hread _ _ hm

/-- **A text that `int` reads is read the same without the white space around it.** The white
space that `strip` removes and the C parser stops at is not in such a text. -/
theorem int_strip {data : TextData} {s : String} {n : Int} (h : int data s = some n) :
    int data (strip s) = some n := by
  rw [int, toAsciiNumber_strip (not_isSpace_of_readSigned (fun _ _ => not_isSpace_of_readDecimal) h)]
  exact h

example : int asciiTextData " 5_1820\n" = some 51820 ∧ int0 asciiTextData "0xE1f1" = some 0xe1f1 ∧
    int0 asciiTextData "010" = none := by decide

end Snarkypuss.Python
