import Snarkypuss.Python.Utf8

/-!
# Query strings

The format `application/x-www-form-urlencoded`, as a page writes it with `URLSearchParams` and as
`urllib.parse.parse_qsl` reads it. Every list of pairs of texts is read as it was written.

## Main definitions

* `serialize`: `URLSearchParams.toString()`
* `unquote`: `urllib.parse.unquote(text, errors="replace")`
* `parseQsl`: `urllib.parse.parse_qsl(text, keep_blank_values=True)`

## Main results

* `decodeText_encodeText`: a text that has been encoded is decoded
* `parseQsl_serialize`: what has been written is read
-/

namespace Snarkypuss.QueryString

open Python

/-! ## Writing -/

/-- The bytes that stand for themselves. -/
def isPlain (b : ℕ) : Bool :=
  decide (0x30 ≤ b ∧ b ≤ 0x39 ∨ 0x41 ≤ b ∧ b ≤ 0x5a ∨ 0x61 ≤ b ∧ b ≤ 0x7a ∨
    b = 0x2a ∨ b = 0x2d ∨ b = 0x2e ∨ b = 0x5f)

def hexDigit (n : ℕ) : Char := Char.ofNat (if n < 10 then 0x30 + n else 0x37 + n)

def encodeByte (b : ℕ) : List Char :=
  if b = 0x20 then ['+']
  else if isPlain b then [Char.ofNat b]
  else ['%', hexDigit (b / 16), hexDigit (b % 16)]

def encodeText (text : String) : List Char :=
  (encodeUtf8 text.toList).flatMap fun b => encodeByte b.toNat

def encodePair (pair : String × String) : List Char :=
  encodeText pair.1 ++ '=' :: encodeText pair.2

/-- `URLSearchParams.toString()`. -/
def serialize (params : List (String × String)) : String :=
  String.ofList (List.intercalate ['&'] (params.map encodePair))

/-! ## Reading -/

def hexValue (c : Char) : Option ℕ :=
  let n := c.toNat
  if 0x30 ≤ n ∧ n ≤ 0x39 then some (n - 0x30)
  else if 0x41 ≤ n ∧ n ≤ 0x46 then some (n - 0x37)
  else if 0x61 ≤ n ∧ n ≤ 0x66 then some (n - 0x57)
  else none

/-- `unquote_to_bytes`, on ASCII text. A percent sign without two digits stands for itself. -/
def unquoteToBytes : List Char → List UInt8
  | [] => []
  | [c] => [UInt8.ofNat c.toNat]
  | [c, d] => [UInt8.ofNat c.toNat, UInt8.ofNat d.toNat]
  | c :: high :: low :: cs =>
    if c = '%' then
      match hexValue high, hexValue low with
      | some a, some b => UInt8.ofNat (16 * a + b) :: unquoteToBytes cs
      | _, _ => UInt8.ofNat c.toNat :: unquoteToBytes (high :: low :: cs)
    else UInt8.ofNat c.toNat :: unquoteToBytes (high :: low :: cs)

def isAscii (c : Char) : Bool := decide (c.toNat < 0x80)

/-- `urllib.parse.unquote(text, errors="replace")`: the runs of ASCII are unquoted. -/
def unquote (cs : List Char) : List Char :=
  if '%' ∈ cs then
    (cs.splitBy fun c d => isAscii c == isAscii d).flatMap fun run =>
      if run.all isAscii then decodeReplace (unquoteToBytes run) else run
  else cs

def plusToSpace (c : Char) : Char := if c = '+' then ' ' else c

def decodeText (cs : List Char) : String := String.ofList (unquote (cs.map plusToSpace))

/-- `urllib.parse.parse_qsl(text, keep_blank_values=True)`. -/
def parseQsl (text : String) : List (String × String) :=
  ((text.toList.splitOn '&').filter (· ≠ [])).map fun cs =>
    (decodeText (cs.takeWhile (· ≠ '=')), decodeText ((cs.dropWhile (· ≠ '=')).drop 1))

/-! ## Characters -/

theorem isPlain_iff {b : ℕ} : isPlain b ↔ 0x30 ≤ b ∧ b ≤ 0x39 ∨ 0x41 ≤ b ∧ b ≤ 0x5a ∨
    0x61 ≤ b ∧ b ≤ 0x7a ∨ b = 0x2a ∨ b = 0x2d ∨ b = 0x2e ∨ b = 0x5f :=
  decide_eq_true_iff

theorem toNat_hexDigit {n : ℕ} (h : n < 16) :
    (hexDigit n).toNat = if n < 10 then 0x30 + n else 0x37 + n := by
  unfold hexDigit
  apply toNat_charOfNat
  split <;> omega

theorem hexValue_hexDigit {n : ℕ} (h : n < 16) : hexValue (hexDigit n) = some n := by
  unfold hexValue
  rw [toNat_hexDigit h]
  dsimp only
  split
  · rw [if_pos (by omega)]
    congr 1
    omega
  · rw [if_neg (by omega), if_pos (by omega)]
    congr 1
    omega

/-- A character of ASCII that an encoded text may hold. -/
structure Encoded (c : Char) : Prop where
  ascii : c.toNat < 0x80
  not_and : c.toNat ≠ 0x26
  not_equals : c.toNat ≠ 0x3d

theorem encoded_encodeByte {b : ℕ} (hb : b < 256) : ∀ c ∈ encodeByte b, Encoded c := by
  intro c hc
  unfold encodeByte at hc
  split at hc
  · obtain rfl := List.mem_singleton.mp hc
    exact ⟨by decide, by decide, by decide⟩
  split at hc
  · rename_i hplain
    rw [isPlain_iff] at hplain
    obtain rfl := List.mem_singleton.mp hc
    have hn : (Char.ofNat b).toNat = b := toNat_charOfNat (by omega)
    exact ⟨by omega, by omega, by omega⟩
  · have hdigit : ∀ n, n < 16 → Encoded (hexDigit n) := by
      intro n hn
      have hvalue := toNat_hexDigit hn
      refine ⟨?_, ?_, ?_⟩ <;> split at hvalue <;> omega
    simp only [List.mem_cons, List.not_mem_nil, or_false] at hc
    rcases hc with rfl | rfl | rfl
    · exact ⟨by decide, by decide, by decide⟩
    · exact hdigit _ (by omega)
    · exact hdigit _ (by omega)

theorem encoded_encodeText (text : String) : ∀ c ∈ encodeText text, Encoded c := by
  intro c hc
  obtain ⟨b, -, hb⟩ := List.mem_flatMap.mp hc
  exact encoded_encodeByte b.toNat_lt c hb

/-! ## One text -/

/-- A character that is not the percent sign stands for itself. -/
theorem unquoteToBytes_cons {c : Char} (hc : c ≠ '%') (cs : List Char) :
    unquoteToBytes (c :: cs) = UInt8.ofNat c.toNat :: unquoteToBytes cs := by
  match cs with
  | [] => rfl
  | [d] => rfl
  | d :: e :: cs => rw [unquoteToBytes, if_neg hc]

/-- An encoded byte is read, whatever stands behind it. -/
theorem unquoteToBytes_encodeByte (b : UInt8) (cs : List Char) :
    unquoteToBytes ((encodeByte b.toNat).map plusToSpace ++ cs) = b :: unquoteToBytes cs := by
  have hb := b.toNat_lt
  unfold encodeByte
  split
  · -- a space is written as a plus sign
    rename_i hspace
    have hsame : b = UInt8.ofNat 0x20 := by rw [← hspace, UInt8.ofNat_toNat]
    subst hsame
    exact unquoteToBytes_cons (by decide) cs
  split
  · rename_i hplain
    rw [isPlain_iff] at hplain
    have hn : (Char.ofNat b.toNat).toNat = b.toNat := toNat_charOfNat (by omega)
    have hne : ∀ d : Char, d.toNat ≠ b.toNat → Char.ofNat b.toNat ≠ d := by
      rintro d hd rfl
      exact hd hn
    have hplus : plusToSpace (Char.ofNat b.toNat) = Char.ofNat b.toNat := by
      apply if_neg
      apply hne
      change 0x2b ≠ _
      omega
    rw [List.map_singleton, hplus, List.singleton_append, unquoteToBytes_cons, hn, UInt8.ofNat_toNat]
    apply hne
    change 0x25 ≠ _
    omega
  · have hplus : ∀ n, n < 16 → plusToSpace (hexDigit n) = hexDigit n := by
      intro n hn
      apply if_neg
      intro hc
      have hvalue := toNat_hexDigit hn
      rw [hc] at hvalue
      change 0x2b = _ at hvalue
      split at hvalue <;> omega
    have hhigh : b.toNat / 16 < 16 := by omega
    have hlow : b.toNat % 16 < 16 := by omega
    have hwhole : 16 * (b.toNat / 16) + b.toNat % 16 = b.toNat := by omega
    change unquoteToBytes ('%' :: plusToSpace (hexDigit (b.toNat / 16)) ::
      plusToSpace (hexDigit (b.toNat % 16)) :: cs) = _
    rw [hplus _ hhigh, hplus _ hlow, unquoteToBytes, if_pos rfl, hexValue_hexDigit hhigh,
      hexValue_hexDigit hlow]
    dsimp only
    rw [hwhole, UInt8.ofNat_toNat]

theorem unquoteToBytes_encode (bytes : List UInt8) :
    unquoteToBytes ((bytes.flatMap fun b => encodeByte b.toNat).map plusToSpace) = bytes := by
  induction bytes with
  | nil => rfl
  | cons b bytes ih => rw [List.flatMap_cons, List.map_append, unquoteToBytes_encodeByte, ih]

/-- ASCII text is one run. -/
theorem unquote_of_ascii {cs : List Char} (h : ∀ c ∈ cs, c.toNat < 0x80) :
    unquote cs = decodeReplace (unquoteToBytes cs) := by
  unfold unquote
  split
  · rename_i hmem
    have hone : (cs.splitBy fun c d => isAscii c == isAscii d) = [cs] := by
      refine List.splitBy_of_isChain (List.ne_nil_of_mem hmem) ?_
      refine List.Pairwise.isChain (List.pairwise_of_forall_mem_list fun c hc d hd => ?_)
      simp [isAscii, h c hc, h d hd]
    have hall : cs.all isAscii := List.all_eq_true.mpr fun c hc => decide_eq_true (h c hc)
    rw [hone, List.flatMap_singleton, if_pos hall]
  · rename_i hmem
    have hbytes : unquoteToBytes cs = encodeUtf8 cs := by
      induction cs with
      | nil => rfl
      | cons c cs ih =>
        obtain ⟨hne, hrest⟩ := List.ne_and_not_mem_of_not_mem_cons hmem
        have hchar : String.utf8EncodeChar c = [UInt8.ofNat c.toNat] := by
          have hc : c.toNat ≤ 0x7f := Nat.le_of_lt_succ (h c List.mem_cons_self)
          exact if_pos hc
        rw [unquoteToBytes_cons (Ne.symm hne), ih (fun d hd => h d (List.mem_cons_of_mem _ hd)) hrest]
        unfold encodeUtf8
        rw [List.flatMap_cons, hchar, List.singleton_append]
    rw [hbytes, decodeReplace_encode]

/-- **A text that has been encoded is decoded.** -/
theorem decodeText_encodeText (text : String) : decodeText (encodeText text) = text := by
  unfold decodeText
  have hascii : ∀ c ∈ (encodeText text).map plusToSpace, c.toNat < 0x80 := by
    intro c hc
    obtain ⟨d, hd, rfl⟩ := List.mem_map.mp hc
    unfold plusToSpace
    split
    · decide
    · exact (encoded_encodeText text d hd).ascii
  rw [unquote_of_ascii hascii]
  unfold encodeText
  rw [unquoteToBytes_encode, decodeReplace_encode, String.ofList_toList]

/-! ## The list -/

theorem not_mem_encodeText {d : Char} (hd : d = '&' ∨ d = '=') (text : String) :
    d ∉ encodeText text := by
  intro hmem
  have hencoded := encoded_encodeText text d hmem
  rcases hd with rfl | rfl
  · exact hencoded.not_and rfl
  · exact hencoded.not_equals rfl

/-- A pair that has been written is read. -/
theorem parsePair_encodePair (pair : String × String) :
    (decodeText ((encodePair pair).takeWhile (· ≠ '=')),
      decodeText (((encodePair pair).dropWhile (· ≠ '=')).drop 1)) = pair := by
  have hname : ∀ c ∈ encodeText pair.1, decide (c ≠ '=') = true := by
    intro c hc
    refine decide_eq_true ?_
    rintro rfl
    exact not_mem_encodeText (.inr rfl) pair.1 hc
  unfold encodePair
  rw [List.takeWhile_append_of_pos hname, List.dropWhile_append_of_pos hname]
  simp [decodeText_encodeText]

theorem not_mem_encodePair (pair : String × String) : '&' ∉ encodePair pair := by
  intro hmem
  rcases List.mem_append.mp hmem with hmem | hmem
  · exact not_mem_encodeText (.inl rfl) pair.1 hmem
  · rcases List.mem_cons.mp hmem with hmem | hmem
    · revert hmem
      decide
    · exact not_mem_encodeText (.inl rfl) pair.2 hmem

/-- **What has been written is read.** -/
theorem parseQsl_serialize (params : List (String × String)) :
    parseQsl (serialize params) = params := by
  unfold parseQsl serialize
  rw [String.toList_ofList]
  cases params with
  | nil => decide
  | cons pair params =>
    have hsplit : (List.intercalate ['&'] ((pair :: params).map encodePair)).splitOn '&' =
        (pair :: params).map encodePair := by
      refine List.splitOn_intercalate _ ?_ (by simp)
      intro cs hcs
      obtain ⟨pair, -, rfl⟩ := List.mem_map.mp hcs
      exact not_mem_encodePair pair
    have hfilter : ((pair :: params).map encodePair).filter (· ≠ []) =
        (pair :: params).map encodePair := by
      refine List.filter_eq_self.mpr fun cs hcs => ?_
      obtain ⟨pair, -, rfl⟩ := List.mem_map.mp hcs
      simp [encodePair]
    rw [hsplit, hfilter, List.map_map]
    refine (List.map_congr_left fun pair _ => ?_).trans (List.map_id _)
    exact parsePair_encodePair pair

end Snarkypuss.QueryString
