import Snarkypuss.Json.Value

/-!
# Reading JSON

A decoder of JSON text. It also accepts the literals `NaN`, `Infinity` and `-Infinity`, keeps the
last of the values that an object gives to one key, refuses control characters in texts, bounds
the digits of an integer and bounds the nesting of containers. It fails in three ways, which a
caller can tell apart.

The scanners are recursive on fuel. `loads` provides enough of it: with more, the result is the
same.

## Main definitions

* `Json.Limits`, `Json.Failure`: the bounds of a decoder, and the ways it fails
* `Json.scanText`, `Json.scanNumber`, `Json.scanValue`: texts, numbers and values
* `Json.loads`: a whole document

## Main results

* `Json.length_scanValue`: a value takes at least one character
* `Json.scanValue_fuel`: with enough fuel, more of it changes nothing
-/

namespace Snarkypuss.Json

/-- The bounds of a decoder: on the digits of an integer, and on the nesting of containers. -/
structure Limits where
  maxDigits : Nat
  maxDepth : Nat

/-- The ways in which decoding fails: text that is not JSON, an integer of too many digits, and
containers nested too deeply. -/
inductive Failure
  | decode
  | digits
  | recursion
  deriving DecidableEq

def isSpace (c : Char) : Bool := c == ' ' || c == '\t' || c == '\n' || c == '\r'

/-- The text after leading white space. -/
def skipSpace (cs : List Char) : List Char := cs.dropWhile isSpace

/-! ## Texts -/

/-- The value of a hexadecimal digit of either case. -/
def hexVal (c : Char) : Option Nat :=
  if c.isDigit then some (c.toNat - 48)
  else if 97 ≤ c.toNat ∧ c.toNat ≤ 102 then some (c.toNat - 87)
  else if 65 ≤ c.toNat ∧ c.toNat ≤ 70 then some (c.toNat - 55)
  else none

/-- Four hexadecimal digits. -/
def scanUnit : List Char → Option (Nat × List Char)
  | a :: b :: c :: d :: cs => do
    let a ← hexVal a
    let b ← hexVal b
    let c ← hexVal c
    let d ← hexVal d
    pure (((a * 16 + b) * 16 + c) * 16 + d, cs)
  | _ => none

def isHighSurrogate (n : Nat) : Bool := decide (0xd800 ≤ n ∧ n ≤ 0xdbff)

def isLowSurrogate (n : Nat) : Bool := decide (0xdc00 ≤ n ∧ n ≤ 0xdfff)

/-- The code point of a surrogate pair. -/
def joinSurrogates (high low : Nat) : Nat := 0x10000 + (high - 0xd800) * 0x400 + (low - 0xdc00)

def codePoint (n : Nat) : CodePoint := Fin.ofNat 0x110000 n

/-- The escape of the second half of a surrogate pair. -/
def scanLow : List Char → Option (Nat × List Char)
  | '\\' :: 'u' :: cs => do
    let (n, cs) ← scanUnit cs
    if isLowSurrogate n then pure (n, cs) else none
  | _ => none

/-- What a character stands for after a backslash. -/
def simpleEscape : Char → Option Char
  | '"' => some '"'
  | '\\' => some '\\'
  | '/' => some '/'
  | 'b' => some '\x08'
  | 'f' => some '\x0c'
  | 'n' => some '\n'
  | 'r' => some '\r'
  | 't' => some '\t'
  | _ => none

/-- What follows the backslash of an escape. A half of a surrogate pair whose other half does not
follow stands for itself. -/
def scanEscape : List Char → Option (CodePoint × List Char)
  | [] => none
  | 'u' :: cs => do
    let (n, cs) ← scanUnit cs
    if isHighSurrogate n then
      match scanLow cs with
      | some (low, cs) => pure (codePoint (joinSurrogates n low), cs)
      | none => pure (codePoint n, cs)
    else pure (codePoint n, cs)
  | c :: cs => (simpleEscape c).map fun c => (Text.ofChar c, cs)

/-- One character of a text, escaped or plain. -/
def scanOne : List Char → Option (CodePoint × List Char)
  | [] => none
  | '\\' :: cs => scanEscape cs
  | c :: cs => if c = '"' ∨ c.toNat < 0x20 then none else some (Text.ofChar c, cs)

/-- The characters of a text up to its closing quote. -/
def scanText : Nat → List Char → Except Failure (Text × List Char)
  | 0, _ => .error .decode
  | fuel + 1, cs =>
    match scanOne cs with
    | some (p, cs) => do
      let (t, cs) ← scanText fuel cs
      pure (p :: t, cs)
    | none =>
      match cs with
      | '"' :: cs => .ok ([], cs)
      | _ => .error .decode

/-- A quoted text. -/
def scanString : List Char → Except Failure (Text × List Char)
  | '"' :: cs => scanText (cs.length + 1) cs
  | _ => .error .decode

/-! ## Numbers -/

/-- The fraction of a number, and what follows it. -/
def fraction : List Char → List Char × List Char
  | '.' :: d :: cs =>
    if d.isDigit then ('.' :: d :: cs.takeWhile Char.isDigit, cs.dropWhile Char.isDigit)
    else ([], '.' :: d :: cs)
  | cs => ([], cs)

/-- The sign of an exponent, and what follows it. -/
def exponentSign : List Char → List Char × List Char
  | '+' :: cs => (['+'], cs)
  | '-' :: cs => (['-'], cs)
  | cs => ([], cs)

/-- The exponent of a number, and what follows it. -/
def exponent : List Char → List Char × List Char
  | [] => ([], [])
  | e :: cs =>
    let digits := (exponentSign cs).2.takeWhile Char.isDigit
    if (e = 'e' ∨ e = 'E') ∧ digits ≠ [] then
      (e :: ((exponentSign cs).1 ++ digits), (exponentSign cs).2.dropWhile Char.isDigit)
    else ([], e :: cs)

/-- The value of a decimal literal. -/
def signedValue (negative : Bool) (digits : List Char) : Int :=
  if negative then -(Nat.ofDigitChars 10 digits 0 : Int) else Nat.ofDigitChars 10 digits 0

/-- A number from its integer part on. -/
def finishNumber (limits : Limits) (negative : Bool) (digits rest : List Char) :
    Except Failure (Json × List Char) :=
  let (frac, rest) := fraction rest
  let (exp, rest) := exponent rest
  if frac = [] ∧ exp = [] then
    if limits.maxDigits < digits.length then .error .digits
    else .ok (.int (signedValue negative digits), rest)
  else
    .ok (.float (String.ofList ((if negative then ['-'] else []) ++ digits ++ frac ++ exp)), rest)

/-- A number. An integer part that starts with zero is zero. -/
def scanUnsigned (limits : Limits) (negative : Bool) (cs : List Char) :
    Except Failure (Json × List Char) :=
  match cs.takeWhile Char.isDigit with
  | [] => .error .decode
  | '0' :: _ => finishNumber limits negative ['0'] (cs.drop 1)
  | digits => finishNumber limits negative digits (cs.dropWhile Char.isDigit)

def scanNumber (limits : Limits) : List Char → Except Failure (Json × List Char)
  | '-' :: cs => scanUnsigned limits true cs
  | cs => scanUnsigned limits false cs

/-! ## Values -/

/-- The words that stand for values. -/
def keywords : List (List Char × Json) :=
  [(['n', 'u', 'l', 'l'], .null), (['t', 'r', 'u', 'e'], .bool true),
    (['f', 'a', 'l', 's', 'e'], .bool false), (['N', 'a', 'N'], .float "NaN"),
    (['I', 'n', 'f', 'i', 'n', 'i', 't', 'y'], .float "Infinity"),
    (['-', 'I', 'n', 'f', 'i', 'n', 'i', 't', 'y'], .float "-Infinity")]

/-- The word at the head of the text. -/
def keyword? (cs : List Char) : Option (Json × List Char) :=
  keywords.findSome? fun word =>
    if word.1.isPrefixOf cs then some (word.2, cs.drop word.1.length) else none

/-- The members of an object: of several values for one key the last. -/
def object (members : List (Text × Json)) : Json := .obj (Dict.ofPairs members).entries

mutual

/-- A value. `depth` more containers may be nested. -/
def scanValue (limits : Limits) : Nat → Nat → List Char → Except Failure (Json × List Char)
  | 0, _, _ => .error .decode
  | _, _, [] => .error .decode
  | fuel + 1, depth, c :: cs =>
    if c = '"' then do
      let (t, cs) ← scanString (c :: cs)
      pure (.str t, cs)
    else if c = '[' then
      match depth with
      | 0 => .error .recursion
      | depth + 1 =>
        if (skipSpace cs).head? = some ']' then .ok (.arr [], (skipSpace cs).tail)
        else do
          let (items, cs) ← scanItems limits fuel depth (skipSpace cs)
          pure (.arr items, cs)
    else if c = '{' then
      match depth with
      | 0 => .error .recursion
      | depth + 1 =>
        if (skipSpace cs).head? = some '}' then .ok (.obj [], (skipSpace cs).tail)
        else do
          let (members, cs) ← scanMembers limits fuel depth (skipSpace cs)
          pure (object members, cs)
    else
      match keyword? (c :: cs) with
      | some r => .ok r
      | none => scanNumber limits (c :: cs)

/-- The items of an array, from the first on. -/
def scanItems (limits : Limits) : Nat → Nat → List Char → Except Failure (List Json × List Char)
  | 0, _, _ => .error .decode
  | fuel + 1, depth, cs => do
    let (item, cs) ← scanValue limits fuel depth cs
    match skipSpace cs with
    | ']' :: cs => pure ([item], cs)
    | ',' :: cs => do
      let (items, cs) ← scanItems limits fuel depth (skipSpace cs)
      pure (item :: items, cs)
    | _ => .error .decode

/-- The members of an object, from the first on. -/
def scanMembers (limits : Limits) :
    Nat → Nat → List Char → Except Failure (List (Text × Json) × List Char)
  | 0, _, _ => .error .decode
  | fuel + 1, depth, cs => do
    let (key, cs) ← scanString cs
    match skipSpace cs with
    | ':' :: cs => do
      let (value, cs) ← scanValue limits fuel depth (skipSpace cs)
      match skipSpace cs with
      | '}' :: cs => pure ([(key, value)], cs)
      | ',' :: cs => do
        let (members, cs) ← scanMembers limits fuel depth (skipSpace cs)
        pure ((key, value) :: members, cs)
      | _ => .error .decode
    | _ => .error .decode

end

/-- A whole document. A byte order mark is not white space, and nothing may follow the value. -/
def loads (limits : Limits) (s : List Char) : Except Failure Json :=
  if s.head? = some '\uFEFF' then .error .decode
  else do
    let cs := skipSpace s
    let (value, rest) ← scanValue limits (2 * cs.length) limits.maxDepth cs
    if skipSpace rest = [] then pure value else .error .decode

/-! ## Every scanner takes something -/

section Length

variable {limits : Limits} {cs rest : List Char}

theorem length_skipSpace_le (cs : List Char) : (skipSpace cs).length ≤ cs.length :=
  (List.dropWhile_sublist _).length_le

theorem length_scanUnit {n : Nat} (h : scanUnit cs = some (n, rest)) :
    rest.length < cs.length := by
  unfold scanUnit at h
  split at h
  · simp only [Option.bind_eq_bind, Option.bind_eq_some_iff] at h
    obtain ⟨_, -, _, -, _, -, _, -, heq⟩ := h
    cases heq
    simp only [List.length_cons]
    omega
  · cases h

theorem length_scanLow {n : Nat} (h : scanLow cs = some (n, rest)) : rest.length < cs.length := by
  unfold scanLow at h
  split at h
  · simp only [Option.bind_eq_bind, Option.bind_eq_some_iff] at h
    obtain ⟨⟨m, cs'⟩, hunit, h⟩ := h
    have hlength := length_scanUnit hunit
    split at h
    · cases h
      simp only [List.length_cons]
      omega
    · cases h
  · cases h

theorem length_scanEscape {p : CodePoint} (h : scanEscape cs = some (p, rest)) :
    rest.length < cs.length := by
  unfold scanEscape at h
  split at h
  · cases h
  · simp only [Option.bind_eq_bind, Option.bind_eq_some_iff] at h
    obtain ⟨⟨m, cs'⟩, hunit, h⟩ := h
    have hlength := length_scanUnit hunit
    rw [List.length_cons]
    dsimp only at h
    split at h
    · split at h
      · rename_i low cs'' hlow
        have hrest := length_scanLow hlow
        obtain ⟨-, rfl⟩ := Prod.mk.inj (Option.some.inj h)
        omega
      · obtain ⟨-, rfl⟩ := Prod.mk.inj (Option.some.inj h)
        omega
    · obtain ⟨-, rfl⟩ := Prod.mk.inj (Option.some.inj h)
      omega
  · obtain ⟨c, -, heq⟩ := Option.map_eq_some_iff.mp h
    cases heq
    simp

theorem length_scanOne {p : CodePoint} (h : scanOne cs = some (p, rest)) :
    rest.length < cs.length := by
  unfold scanOne at h
  split at h
  · cases h
  · have hlength := length_scanEscape h
    simp only [List.length_cons]
    omega
  · split at h
    · cases h
    · cases h
      simp

/-- A scan in sequence that returns: its first part returned, and its second part from there. -/
theorem bind_eq_ok {A B : Type} {x : Except Failure A} {f : A → Except Failure B} {b : B} :
    x.bind f = .ok b ↔ ∃ a, x = .ok a ∧ f a = .ok b := by
  cases x with
  | error e => simp [Except.bind]
  | ok a => simp [Except.bind]

theorem length_scanText {fuel : Nat} {t : Text} (h : scanText fuel cs = .ok (t, rest)) :
    rest.length < cs.length := by
  induction fuel generalizing cs t with
  | zero => cases h
  | succ fuel ih =>
    simp only [scanText] at h
    split at h
    · rename_i p cs' hone
      obtain ⟨⟨t', rest'⟩, htail, heq⟩ := bind_eq_ok.mp h
      cases heq
      exact (ih htail).trans (length_scanOne hone)
    · split at h
      · cases h
        simp
      · cases h

theorem length_scanString {t : Text} (h : scanString cs = .ok (t, rest)) :
    rest.length < cs.length := by
  unfold scanString at h
  split at h
  · have hlength := length_scanText h
    simp only [List.length_cons]
    omega
  · cases h

theorem length_fraction_le (cs : List Char) : (fraction cs).2.length ≤ cs.length := by
  unfold fraction
  split
  · rename_i d cs
    have hdrop := (List.dropWhile_sublist Char.isDigit (l := cs)).length_le
    split <;> simp only [List.length_cons] <;> omega
  · exact Nat.le_refl _

theorem length_exponentSign_le (cs : List Char) : (exponentSign cs).2.length ≤ cs.length := by
  unfold exponentSign
  split <;> simp

theorem length_exponent_le (cs : List Char) : (exponent cs).2.length ≤ cs.length := by
  cases cs with
  | nil => exact Nat.le_refl _
  | cons e cs =>
    have hsign := length_exponentSign_le cs
    have hdrop := (List.dropWhile_sublist Char.isDigit (l := (exponentSign cs).2)).length_le
    simp only [exponent]
    split <;> simp only [List.length_cons] <;> omega

theorem length_finishNumber {negative : Bool} {digits : List Char} {j : Json}
    (h : finishNumber limits negative digits cs = .ok (j, rest)) : rest.length ≤ cs.length := by
  have hlength : (exponent (fraction cs).2).2.length ≤ cs.length :=
    (length_exponent_le _).trans (length_fraction_le cs)
  simp only [finishNumber] at h
  split at h
  · split at h
    · cases h
    · cases h
      exact hlength
  · cases h
    exact hlength

theorem length_scanUnsigned {negative : Bool} {j : Json}
    (h : scanUnsigned limits negative cs = .ok (j, rest)) : rest.length < cs.length := by
  have hsplit : (cs.takeWhile Char.isDigit).length + (cs.dropWhile Char.isDigit).length = cs.length := by
    rw [← List.length_append, List.takeWhile_append_dropWhile]
  unfold scanUnsigned at h
  split at h
  · cases h
  · rename_i ds hdigits
    have hfinish := length_finishNumber h
    rw [hdigits] at hsplit
    simp only [List.length_cons, List.length_drop] at hsplit hfinish
    omega
  · rename_i hne _
    have hfinish := length_finishNumber h
    have hpos : 0 < (cs.takeWhile Char.isDigit).length := List.length_pos_iff.mpr hne
    omega

theorem length_scanNumber {j : Json} (h : scanNumber limits cs = .ok (j, rest)) :
    rest.length < cs.length := by
  unfold scanNumber at h
  split at h
  · have hlength := length_scanUnsigned h
    simp only [List.length_cons]
    omega
  · exact length_scanUnsigned h

theorem length_keyword? {j : Json} (h : keyword? cs = some (j, rest)) : rest.length < cs.length := by
  obtain ⟨word, hword, h⟩ := List.exists_of_findSome?_eq_some h
  have hpos : 0 < word.1.length := by
    revert word
    simp [keywords]
  split at h
  · rename_i hprefix
    have hle := (List.isPrefixOf_iff_prefix.mp hprefix).length_le
    cases h
    simp only [List.length_drop]
    omega
  · cases h

/-- What the three scanners of values take, by induction on the fuel. -/
theorem length_scan (limits : Limits) (fuel : Nat) :
    (∀ depth cs j rest, scanValue limits fuel depth cs = .ok (j, rest) →
      rest.length < cs.length) ∧
    (∀ depth cs items rest, scanItems limits fuel depth cs = .ok (items, rest) →
      rest.length < cs.length) ∧
    (∀ depth cs members rest, scanMembers limits fuel depth cs = .ok (members, rest) →
      rest.length < cs.length) := by
  induction fuel with
  | zero =>
    simp only [scanValue, scanItems, scanMembers]
    exact ⟨nofun, nofun, nofun⟩
  | succ fuel ih =>
    obtain ⟨ihValue, ihItems, ihMembers⟩ := ih
    refine ⟨fun depth cs j rest h => ?_, fun depth cs items rest h => ?_,
      fun depth cs members rest h => ?_⟩
    · cases cs with
      | nil => cases h
      | cons c cs =>
        have hspace := length_skipSpace_le cs
        simp only [scanValue] at h
        rw [List.length_cons]
        split at h
        · obtain ⟨⟨t, cs'⟩, hstring, heq⟩ := bind_eq_ok.mp h
          obtain ⟨-, rfl⟩ := Prod.mk.inj (Except.ok.inj heq)
          simpa using length_scanString hstring
        split at h
        · split at h
          · cases h
          · split at h
            · cases h
              rw [List.length_tail]
              omega
            · obtain ⟨⟨items, cs'⟩, hitems, heq⟩ := bind_eq_ok.mp h
              obtain ⟨-, rfl⟩ := Prod.mk.inj (Except.ok.inj heq)
              have hlength := ihItems _ _ _ _ hitems
              dsimp only
              omega
        split at h
        · split at h
          · cases h
          · split at h
            · cases h
              rw [List.length_tail]
              omega
            · obtain ⟨⟨members, cs'⟩, hmembers, heq⟩ := bind_eq_ok.mp h
              obtain ⟨-, rfl⟩ := Prod.mk.inj (Except.ok.inj heq)
              have hlength := ihMembers _ _ _ _ hmembers
              dsimp only
              omega
        split at h
        · rename_i r hkeyword
          cases h
          simpa using length_keyword? hkeyword
        · simpa using length_scanNumber h
    · simp only [scanItems] at h
      obtain ⟨⟨item, cs'⟩, hitem, h⟩ := bind_eq_ok.mp h
      have hlength := ihValue _ _ _ _ hitem
      have hspace := length_skipSpace_le cs'
      dsimp only at h
      split at h
      · rename_i hclose
        cases h
        rw [hclose, List.length_cons] at hspace
        omega
      · rename_i cs'' hcomma
        obtain ⟨⟨rest', cs'''⟩, hrest, heq⟩ := bind_eq_ok.mp h
        obtain ⟨-, rfl⟩ := Prod.mk.inj (Except.ok.inj heq)
        have hmore := ihItems _ _ _ _ hrest
        have hspace' := length_skipSpace_le cs''
        rw [hcomma, List.length_cons] at hspace
        dsimp only
        omega
      · cases h
    · simp only [scanMembers] at h
      obtain ⟨⟨key, cs'⟩, hkey, h⟩ := bind_eq_ok.mp h
      have hlength := length_scanString hkey
      have hspace := length_skipSpace_le cs'
      dsimp only at h
      split at h
      · rename_i cs₁ hcolon
        obtain ⟨⟨value, cs₂⟩, hvalue, h⟩ := bind_eq_ok.mp h
        have hlength' := ihValue _ _ _ _ hvalue
        have hspace₁ := length_skipSpace_le cs₁
        have hspace₂ := length_skipSpace_le cs₂
        rw [hcolon, List.length_cons] at hspace
        dsimp only at h
        split at h
        · rename_i hclose
          cases h
          rw [hclose, List.length_cons] at hspace₂
          omega
        · rename_i cs₃ hcomma
          obtain ⟨⟨rest', cs₄⟩, hrest, heq⟩ := bind_eq_ok.mp h
          obtain ⟨-, rfl⟩ := Prod.mk.inj (Except.ok.inj heq)
          have hmore := ihMembers _ _ _ _ hrest
          have hspace₃ := length_skipSpace_le cs₃
          rw [hcomma, List.length_cons] at hspace₂
          dsimp only
          omega
        · cases h
      · cases h

theorem length_scanValue {fuel depth : Nat} {j : Json}
    (h : scanValue limits fuel depth cs = .ok (j, rest)) : rest.length < cs.length :=
  (length_scan limits fuel).1 _ _ _ _ h

/-! ## Fuel -/

/-- With more fuel than there are characters, more of it changes nothing. -/
theorem scanText_fuel {fuel : Nat} (h : cs.length < fuel) :
    scanText (fuel + 1) cs = scanText fuel cs := by
  induction fuel generalizing cs with
  | zero => omega
  | succ fuel ih =>
    simp only [scanText]
    cases hone : scanOne cs with
    | none => rfl
    | some r =>
      have hlength : r.2.length < cs.length := length_scanOne hone
      have htail := @ih r.2 (by omega)
      simp only [scanText] at htail
      simp only [htail]

/-- What fuel the three scanners of values need, by induction on the fuel. -/
theorem scan_fuel (limits : Limits) (fuel : Nat) :
    (∀ depth cs, 2 * cs.length ≤ fuel →
      scanValue limits (fuel + 1) depth cs = scanValue limits fuel depth cs) ∧
    (∀ depth cs, 2 * cs.length + 1 ≤ fuel →
      scanItems limits (fuel + 1) depth cs = scanItems limits fuel depth cs) ∧
    (∀ depth cs, 2 * cs.length + 1 ≤ fuel →
      scanMembers limits (fuel + 1) depth cs = scanMembers limits fuel depth cs) := by
  induction fuel with
  | zero =>
    refine ⟨fun depth cs h => ?_, fun depth cs h => by omega, fun depth cs h => by omega⟩
    obtain rfl : cs = [] := List.length_eq_zero_iff.mp (by omega)
    rfl
  | succ fuel ih =>
    obtain ⟨ihValue, ihItems, ihMembers⟩ := ih
    refine ⟨fun depth cs h => ?_, fun depth cs h => ?_, fun depth cs h => ?_⟩
    · cases cs with
      | nil => rfl
      | cons c cs =>
        have hspace := length_skipSpace_le cs
        rw [List.length_cons] at h
        cases depth with
        | zero => rw [scanValue, scanValue]
        | succ depth =>
          have hitems := ihItems depth (skipSpace cs) (by omega)
          have hmembers := ihMembers depth (skipSpace cs) (by omega)
          simp only [scanValue, hitems, hmembers]
    · rw [scanItems, scanItems, ihValue depth cs (by omega)]
      cases hvalue : scanValue limits fuel depth cs with
      | error e => rfl
      | ok r =>
        have hlength : r.2.length < cs.length := length_scanValue hvalue
        have hspace := length_skipSpace_le r.2
        simp only [bind, Except.bind]
        split
        · rfl
        · rename_i cs' hcomma
          have hspace' := length_skipSpace_le cs'
          rw [hcomma, List.length_cons] at hspace
          rw [ihItems depth (skipSpace cs') (by omega)]
        · rfl
    · rw [scanMembers, scanMembers]
      cases hstring : scanString cs with
      | error e => rfl
      | ok r =>
        have hlength : r.2.length < cs.length := length_scanString hstring
        have hspace := length_skipSpace_le r.2
        simp only [bind, Except.bind]
        split
        · rename_i cs₁ hcolon
          have hspace₁ := length_skipSpace_le cs₁
          rw [hcolon, List.length_cons] at hspace
          rw [ihValue depth (skipSpace cs₁) (by omega)]
          cases hvalue : scanValue limits fuel depth (skipSpace cs₁) with
          | error e => rfl
          | ok r' =>
            have hlength' : r'.2.length < (skipSpace cs₁).length := length_scanValue hvalue
            have hspace₂ := length_skipSpace_le r'.2
            dsimp only
            split
            · rfl
            · rename_i cs₂ hcomma
              have hspace₃ := length_skipSpace_le cs₂
              rw [hcomma, List.length_cons] at hspace₂
              rw [ihMembers depth (skipSpace cs₂) (by omega)]
            · rfl
        · rfl

/-- **With enough fuel, more of it changes nothing.** -/
theorem scanValue_fuel {fuel : Nat} (depth : Nat) (h : 2 * cs.length ≤ fuel) :
    scanValue limits fuel depth cs = scanValue limits (2 * cs.length) depth cs := by
  induction fuel, h using Nat.le_induction with
  | base => rfl
  | succ fuel hfuel ih => rw [(scan_fuel limits fuel).1 depth cs hfuel, ih]

end Length

end Snarkypuss.Json
