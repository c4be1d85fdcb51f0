import Snarkypuss.Json.Scanner

/-!
# Writing JSON

A writer of compact JSON: no white space, `,` and `:` as separators. It is parametrised by the
way a character of a text is escaped, which comes with the proof that the decoder reads the
escaped character back. Two ways are given: one that writes ASCII only, with a surrogate pair for
a character beyond the basic plane, and one that escapes only what has to be.

## Main definitions

* `Json.Escaping`: a way to escape characters that the decoder undoes
* `Json.asciiEscaping`, `Json.plainEscaping`: ASCII only, and only what has to be
* `Json.write`: the text of a document

## Main results

* `Json.scanUnit_hexDigits`: four hexadecimal digits are read back
* `Json.scanOne_escape`: so is an escaped character of the basic plane
-/

namespace Snarkypuss.Json

/-! ## Escapes -/

/-- The four hexadecimal digits of a code unit, in lower case. -/
def hexDigits (n : Nat) : List Char :=
  [(n / 4096).digitChar, (n / 256 % 16).digitChar, (n / 16 % 16).digitChar, (n % 16).digitChar]

def unicodeEscape (n : Nat) : List Char := '\\' :: 'u' :: hexDigits n

/-- The characters with an escape of one letter. -/
def shortEscape : Char → Option Char
  | '"' => some '"'
  | '\\' => some '\\'
  | '\x08' => some 'b'
  | '\x0c' => some 'f'
  | '\n' => some 'n'
  | '\r' => some 'r'
  | '\t' => some 't'
  | _ => none

theorem hexVal_digitChar : ∀ d < 16, hexVal d.digitChar = some d := by decide

theorem scanUnit_hexDigits {n : Nat} (h : n < 0x10000) (rest : List Char) :
    scanUnit (hexDigits n ++ rest) = some (n, rest) := by
  have h₁ := hexVal_digitChar (n / 4096) (by omega)
  have h₂ := hexVal_digitChar (n / 256 % 16) (by omega)
  have h₃ := hexVal_digitChar (n / 16 % 16) (by omega)
  have h₄ := hexVal_digitChar (n % 16) (by omega)
  have hvalue : ((n / 4096 * 16 + n / 256 % 16) * 16 + n / 16 % 16) * 16 + n % 16 = n := by omega
  simp [hexDigits, scanUnit, h₁, h₂, h₃, h₄, hvalue]

/-- What the letter of a short escape stands for. -/
theorem simpleEscape_of_shortEscape {c e : Char} (h : shortEscape c = some e) :
    simpleEscape e = some c ∧ e ≠ 'u' := by
  unfold shortEscape at h
  split at h <;> cases h <;> decide

theorem scanOne_shortEscape {c e : Char} (h : shortEscape c = some e) (rest : List Char) :
    scanOne ('\\' :: e :: rest) = some (Text.ofChar c, rest) := by
  obtain ⟨hsimple, hne⟩ := simpleEscape_of_shortEscape h
  rw [scanOne, scanEscape]
  · rw [hsimple]
    rfl
  · exact hne

theorem codePoint_toNat (c : Char) : codePoint c.toNat = Text.ofChar c := by
  refine Fin.ext ?_
  rw [codePoint, Fin.val_ofNat, Text.val_ofChar, Nat.mod_eq_of_lt (Text.toNat_lt c)]

/-- The escape of a code unit that is no half of a surrogate pair. -/
theorem scanOne_unicodeEscape {n : Nat} (h : n < 0x10000) (hhigh : isHighSurrogate n = false)
    (rest : List Char) : scanOne (unicodeEscape n ++ rest) = some (codePoint n, rest) := by
  have hunit := scanUnit_hexDigits h rest
  simp only [unicodeEscape, List.cons_append, scanOne, scanEscape, hunit]
  simp [hhigh]

/-- The escapes of the two halves of a surrogate pair. -/
theorem scanOne_surrogates {high low : Nat} (hhigh : 0xd800 ≤ high ∧ high ≤ 0xdbff)
    (hlow : 0xdc00 ≤ low ∧ low ≤ 0xdfff) (rest : List Char) :
    scanOne (unicodeEscape high ++ unicodeEscape low ++ rest) =
      some (codePoint (joinSurrogates high low), rest) := by
  have hfirst := scanUnit_hexDigits (n := high) (by omega) (unicodeEscape low ++ rest)
  have hsecond := scanUnit_hexDigits (n := low) (by omega) rest
  have hscanLow : scanLow (unicodeEscape low ++ rest) = some (low, rest) := by
    simp only [unicodeEscape, List.cons_append, scanLow, hsecond]
    simp [isLowSurrogate, hlow]
  have hunfold : unicodeEscape high ++ unicodeEscape low ++ rest =
      '\\' :: 'u' :: (hexDigits high ++ (unicodeEscape low ++ rest)) := by
    simp [unicodeEscape]
  rw [hunfold]
  simp only [scanOne, scanEscape, hfirst]
  simp [isHighSurrogate, hhigh, hscanLow]

/-- A plain character. -/
theorem scanOne_plain {c : Char} (hquote : c ≠ '"') (hslash : c ≠ '\\') (hcontrol : 0x20 ≤ c.toNat)
    (rest : List Char) : scanOne (c :: rest) = some (Text.ofChar c, rest) := by
  rw [scanOne]
  · rw [if_neg]
    rintro (h | h)
    · exact hquote h
    · omega
  · exact hslash

/-- A character without a short escape is neither the quote nor the backslash. -/
theorem ne_of_shortEscape_eq_none {c : Char} (h : shortEscape c = none) : c ≠ '"' ∧ c ≠ '\\' := by
  constructor <;> rintro rfl <;> cases h

/-! ## Escaping -/

/-- A way to escape the characters of a text that the decoder undoes. -/
structure Escaping where
  chars : Char → List Char
  scan_chars : ∀ c rest, scanOne (chars c ++ rest) = some (Text.ofChar c, rest)

/-- A character is no half of a surrogate pair. -/
theorem not_surrogate (c : Char) : c.toNat < 0xd800 ∨ 0xdfff < c.toNat := by
  rcases c.valid with h | h
  · exact .inl h
  · exact .inr h.1

def asciiChars (c : Char) : List Char :=
  match shortEscape c with
  | some e => ['\\', e]
  | none =>
    if 0x20 ≤ c.toNat ∧ c.toNat ≤ 0x7e then [c]
    else if c.toNat < 0x10000 then unicodeEscape c.toNat
    else
      unicodeEscape (0xd800 + (c.toNat - 0x10000) / 0x400) ++
        unicodeEscape (0xdc00 + (c.toNat - 0x10000) % 0x400)

/-- ASCII only. -/
def asciiEscaping : Escaping where
  chars := asciiChars
  scan_chars c rest := by
    have hlt := Text.toNat_lt c
    unfold asciiChars
    split
    · rename_i e he
      exact scanOne_shortEscape he rest
    · rename_i hnone
      obtain ⟨hquote, hslash⟩ := ne_of_shortEscape_eq_none hnone
      split
      · rename_i hprintable
        exact scanOne_plain hquote hslash hprintable.1 rest
      split
      · rename_i hbasic
        have hsurrogate := not_surrogate c
        rw [scanOne_unicodeEscape hbasic (by simp [isHighSurrogate]; omega), codePoint_toNat]
      · rw [scanOne_surrogates (by omega) (by omega)]
        have hjoin : joinSurrogates (0xd800 + (c.toNat - 0x10000) / 0x400)
            (0xdc00 + (c.toNat - 0x10000) % 0x400) = c.toNat := by
          unfold joinSurrogates
          omega
        rw [hjoin, codePoint_toNat]

def plainChars (c : Char) : List Char :=
  match shortEscape c with
  | some e => ['\\', e]
  | none => if c.toNat < 0x20 then unicodeEscape c.toNat else [c]

/-- Only what has to be escaped. -/
def plainEscaping : Escaping where
  chars := plainChars
  scan_chars c rest := by
    unfold plainChars
    split
    · rename_i e he
      exact scanOne_shortEscape he rest
    · rename_i hnone
      obtain ⟨hquote, hslash⟩ := ne_of_shortEscape_eq_none hnone
      split
      · rename_i hcontrol
        rw [scanOne_unicodeEscape (by omega) (by simp [isHighSurrogate]; omega), codePoint_toNat]
      · rename_i hcontrol
        exact scanOne_plain hquote hslash (by omega) rest

/-! ## Documents -/

/-- One code point of a text. Half of a surrogate pair is escaped by itself. -/
def writeCodePoint (escaping : Escaping) (p : CodePoint) : List Char :=
  match Text.toChar? p with
  | some c => escaping.chars c
  | none => unicodeEscape p.val

/-- A quoted text. -/
def writeText (escaping : Escaping) (t : Text) : List Char :=
  '"' :: t.flatMap (writeCodePoint escaping) ++ ['"']

def writeInt (n : Int) : List Char :=
  (if n < 0 then ['-'] else []) ++ Nat.toDigits 10 n.natAbs

/-- The comma after an item that others follow. -/
def separator {A : Type} : List A → List Char
  | [] => []
  | _ :: _ => [',']

mutual

/-- The text of a document. -/
def write (escaping : Escaping) : Json → List Char
  | .null => ['n', 'u', 'l', 'l']
  | .bool true => ['t', 'r', 'u', 'e']
  | .bool false => ['f', 'a', 'l', 's', 'e']
  | .int n => writeInt n
  | .float literal => literal.toList
  | .str t => writeText escaping t
  | .arr items => '[' :: writeItems escaping items
  | .obj members => '{' :: writeMembers escaping members

/-- The items of an array, with the bracket that closes it. -/
def writeItems (escaping : Escaping) : List Json → List Char
  | [] => [']']
  | item :: items => write escaping item ++ (separator items ++ writeItems escaping items)

/-- The members of an object, with the brace that closes it. -/
def writeMembers (escaping : Escaping) : List (Text × Json) → List Char
  | [] => ['}']
  | member :: members =>
    writeText escaping member.1 ++ ':' ::
      (write escaping member.2 ++ (separator members ++ writeMembers escaping members))

end

/-- `write`, as a string. -/
def dumps (escaping : Escaping) (j : Json) : String := String.ofList (write escaping j)

end Snarkypuss.Json
