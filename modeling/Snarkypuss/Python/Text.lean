import Mathlib

/-!
# Text functions

The methods of `str` that the parsers of command output are written with. They work on the code
points of a string. What depends on the Unicode database of the interpreter beyond white space
and line boundaries is a parameter.

## Main definitions

* `UnicodeData`: printable characters, case folding and compatibility decomposition
* `strip`, `stripBy`, `split`, `splitlines`, `partition`, `replaceChar`, `truncate`
* `joinWords`: `" ".join(text.split())`

## Main results

* `length_truncate_le`: the bound that messages are truncated to
* `casefold_of_ascii`: case folding on ASCII text
-/

namespace Snarkypuss.Python

/-- What the interpreter takes from the Unicode database: `str.isprintable` on one character, its
full case folding, and the form NFKD of a text. -/
structure UnicodeData where
  isPrintable : Char → Bool
  casefold : Char → List Char
  nfkd : List Char → List Char

/-- The database on ASCII text, where folding is lower case and every text is decomposed. -/
def asciiData : UnicodeData where
  isPrintable c := decide (0x20 ≤ c.toNat ∧ c.toNat ≤ 0x7e)
  casefold c := [c.toLower]
  nfkd cs := cs

/-- The database agrees with ASCII: the case folding of an ASCII character is its lower case. -/
def UnicodeData.FoldsAscii (unicode : UnicodeData) : Prop :=
  ∀ c : Char, c.toNat < 128 → unicode.casefold c = [c.toLower]

theorem asciiData_foldsAscii : asciiData.FoldsAscii := fun _ _ => rfl

/-- `str.isspace`: the characters that `strip` removes and `split` separates at. -/
def isSpace (c : Char) : Bool :=
  let n := c.toNat
  decide (0x09 ≤ n ∧ n ≤ 0x0d ∨ 0x1c ≤ n ∧ n ≤ 0x20 ∨ n = 0x85 ∨ n = 0xa0 ∨ n = 0x1680 ∨
    0x2000 ≤ n ∧ n ≤ 0x200a ∨ n = 0x2028 ∨ n = 0x2029 ∨ n = 0x202f ∨ n = 0x205f ∨ n = 0x3000)

/-- The line boundaries of `splitlines`. -/
def isLineBreak (c : Char) : Bool :=
  let n := c.toNat
  decide (0x0a ≤ n ∧ n ≤ 0x0d ∨ 0x1c ≤ n ∧ n ≤ 0x1e ∨ n = 0x85 ∨ n = 0x2028 ∨ n = 0x2029)

/-- `str.strip(chars)`, the characters given as a class. -/
def stripBy (p : Char → Bool) (s : String) : String :=
  String.ofList ((s.toList.dropWhile p).reverse.dropWhile p).reverse

/-- `str.strip()`. -/
def strip (s : String) : String := stripBy isSpace s

/-- `str.split()`: the maximal runs of characters that are not white space. -/
def split (s : String) : List String :=
  ((s.toList.splitOnP isSpace).filter (!·.isEmpty)).map String.ofList

/-- `" ".join(words)`. -/
def joinWords (words : List String) : String :=
  String.ofList (List.intercalate [' '] (words.map String.toList))

/-- The lines of a text, the characters of the line being read in reverse. A carriage return and
the line feed after it are one boundary. -/
def linesFrom (line : List Char) : List Char → List String
  | [] => if line.isEmpty then [] else [String.ofList line.reverse]
  | '\r' :: '\n' :: cs => String.ofList line.reverse :: linesFrom [] cs
  | c :: cs =>
    if isLineBreak c then String.ofList line.reverse :: linesFrom [] cs
    else linesFrom (c :: line) cs

/-- `str.splitlines()`. -/
def splitlines (s : String) : List String := linesFrom [] s.toList

/-- `str.partition(separator)`: the text before and after the separator, when there is one. -/
def partition (separator : Char) (s : String) : Option (String × String) :=
  if separator ∈ s.toList then
    some (String.ofList (s.toList.takeWhile (· ≠ separator)),
      String.ofList ((s.toList.dropWhile (· ≠ separator)).drop 1))
  else none

/-- `str.replace(old, new)` for single characters. -/
def replaceChar (old new : Char) (s : String) : String :=
  String.ofList (s.toList.map fun c => if c = old then new else c)

/-- `str.casefold()`. -/
def casefold (unicode : UnicodeData) (s : String) : String :=
  String.ofList (s.toList.flatMap unicode.casefold)

/-- `text[:n]`. -/
def truncate (n : Nat) (s : String) : String := String.ofList (s.toList.take n)

/-- `re.sub(r"[^…]+", "_", text)`: each maximal run outside the class becomes one underscore.
`within` says that such a run has been replaced already. -/
def collapseRuns (kept : Char → Bool) : (within : Bool) → List Char → List Char
  | _, [] => []
  | within, c :: cs =>
    if kept c then c :: collapseRuns kept false cs
    else if within then collapseRuns kept true cs
    else '_' :: collapseRuns kept true cs

theorem length_truncate_le (n : Nat) (s : String) : (truncate n s).length ≤ n := by
  simp [truncate]

/-- The case folding of ASCII text is its lower case. -/
theorem casefold_of_ascii {unicode : UnicodeData} (hunicode : unicode.FoldsAscii) {s : String}
    (h : ∀ c ∈ s.toList, c.toNat < 128) :
    casefold unicode s = String.ofList (s.toList.map Char.toLower) := by
  have hfold : ∀ cs : List Char, (∀ c ∈ cs, c.toNat < 128) →
      cs.flatMap unicode.casefold = cs.map Char.toLower := by
    intro cs hcs
    induction cs with
    | nil => rfl
    | cons c cs ih =>
      rw [List.flatMap_cons, hunicode c (hcs c List.mem_cons_self),
        ih fun c' hc' => hcs c' (List.mem_cons_of_mem c hc')]
      rfl
  rw [casefold, hfold _ h]

/-- Text that starts and ends outside the class is stripped of nothing. -/
theorem stripBy_of_none {p : Char → Bool} {s : String} (h : ∀ c ∈ s.toList, p c = false) :
    stripBy p s = s := by
  have hkeep : ∀ cs : List Char, (∀ c ∈ cs, p c = false) → cs.dropWhile p = cs := by
    intro cs hcs
    cases cs with
    | nil => rfl
    | cons c cs => exact List.dropWhile_cons_of_neg (by simp [hcs c List.mem_cons_self])
  rw [stripBy, hkeep _ h, hkeep _ fun c hc => h c (List.mem_reverse.mp hc), List.reverse_reverse,
    String.ofList_toList]

/-- Text without white space is one word. -/
theorem split_of_none {s : String} (hne : s ≠ "") (h : ∀ c ∈ s.toList, isSpace c = false) :
    split s = [s] := by
  have hone : s.toList.splitOnP isSpace = [s.toList] :=
    List.splitOnP_eq_singleton h
  have hfull : s.toList.isEmpty = false := by
    rw [List.isEmpty_eq_false_iff]
    exact fun hnil => hne (String.toList_eq_nil_iff.mp hnil)
  simp [split, hone, hfull]

theorem joinWords_singleton (s : String) : joinWords [s] = s := by
  simp [joinWords, List.intercalate]

example : (splitlines "a\r\nb\n\nc").length = 4 := by decide

end Snarkypuss.Python
