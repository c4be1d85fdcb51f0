import Mathlib

/-!
# UTF-8

`bytes.decode("utf-8", errors="replace")`: the decoder as a machine that reads one byte after
another. What cannot be continued is given up as one replacement character, and the byte that does
not continue it is read again as the first of a sequence.

## Main definitions

* `Sequence`: a character of several bytes that has begun
* `decodeReplace`: the decoder

## Main results

* `decodeReplace_encode`: what has been encoded is decoded
* `infix_of_decodeReplace`: an ASCII text that is read stands in the bytes
-/

namespace Snarkypuss.Python

/-- A character that has begun: how many bytes it still takes, its value so far, and the bounds of
the next byte. -/
structure Sequence where
  needed : ℕ
  value : ℕ
  lower : ℕ := 0x80
  upper : ℕ := 0xbf

/-- What the first byte of a character says. -/
inductive Lead
  | character (c : Char)
  | sequence (s : Sequence)
  | invalid

def replacementCharacter : Char := '\ufffd'

def lead (b : ℕ) : Lead :=
  if b < 0x80 then .character (Char.ofNat b)
  else if b < 0xc2 then .invalid
  else if b < 0xe0 then .sequence { needed := 1, value := b - 0xc0 }
  else if b = 0xe0 then .sequence { needed := 2, value := 0, lower := 0xa0 }
  else if b = 0xed then .sequence { needed := 2, value := 0xd, upper := 0x9f }
  else if b < 0xf0 then .sequence { needed := 2, value := b - 0xe0 }
  else if b = 0xf0 then .sequence { needed := 3, value := 0, lower := 0x90 }
  else if b < 0xf4 then .sequence { needed := 3, value := b - 0xf0 }
  else if b = 0xf4 then .sequence { needed := 3, value := 4, upper := 0x8f }
  else .invalid

/-- The first byte of a character: what is written, and what has begun. -/
def firstByte (b : ℕ) : List Char × Option Sequence :=
  match lead b with
  | .character c => ([c], none)
  | .sequence s => ([], some s)
  | .invalid => ([replacementCharacter], none)

/-- One byte. -/
def decodeByte : Option Sequence → ℕ → List Char × Option Sequence
  | none, b => firstByte b
  | some s, b =>
    if s.lower ≤ b ∧ b ≤ s.upper then
      let value := s.value * 64 + (b - 0x80)
      if s.needed = 1 then ([Char.ofNat value], none)
      else ([], some { needed := s.needed - 1, value })
    else (replacementCharacter :: (firstByte b).1, (firstByte b).2)

def decodeFrom : Option Sequence → List UInt8 → List Char
  | none, [] => []
  | some _, [] => [replacementCharacter]
  | pending, b :: bytes =>
    (decodeByte pending b.toNat).1 ++ decodeFrom (decodeByte pending b.toNat).2 bytes

/-- `bytes.decode("utf-8", errors="replace")`. -/
def decodeReplace (bytes : List UInt8) : List Char := decodeFrom none bytes

/-- `text.encode("utf-8")`. -/
def encodeUtf8 (cs : List Char) : List UInt8 := cs.flatMap String.utf8EncodeChar

theorem decodeFrom_cons (pending : Option Sequence) (b : UInt8) (bytes : List UInt8) :
    decodeFrom pending (b :: bytes) =
      (decodeByte pending b.toNat).1 ++ decodeFrom (decodeByte pending b.toNat).2 bytes := by
  cases pending <;> rfl

/-! ## What has been encoded -/

/-- A byte that is within the bounds. -/
theorem decodeByte_within {s : Sequence} {b : ℕ} (h : s.lower ≤ b ∧ b ≤ s.upper) :
    decodeByte (some s) b = if s.needed = 1 then ([Char.ofNat (s.value * 64 + (b - 0x80))], none)
      else ([], some { needed := s.needed - 1, value := s.value * 64 + (b - 0x80) }) := by
  change (if s.lower ≤ b ∧ b ≤ s.upper then _ else _) = _
  rw [if_pos h]

theorem toNat_ofNat_of_lt {n : ℕ} (h : n < 256) : (UInt8.ofNat n).toNat = n := by
  rw [UInt8.toNat_ofNat']
  exact Nat.mod_eq_of_lt h

/-- The last byte of a character. -/
theorem decodeFrom_last {s : Sequence} {n : ℕ} (hneeded : s.needed = 1) (hn : n < 256)
    (h : s.lower ≤ n ∧ n ≤ s.upper) (bytes : List UInt8) :
    decodeFrom (some s) (UInt8.ofNat n :: bytes) =
      Char.ofNat (s.value * 64 + (n - 0x80)) :: decodeFrom none bytes := by
  rw [decodeFrom_cons, toNat_ofNat_of_lt hn, decodeByte_within h, if_pos hneeded]
  rfl

/-- A byte in the middle of a character. -/
theorem decodeFrom_middle {s : Sequence} {n : ℕ} (hneeded : s.needed ≠ 1) (hn : n < 256)
    (h : s.lower ≤ n ∧ n ≤ s.upper) (bytes : List UInt8) :
    decodeFrom (some s) (UInt8.ofNat n :: bytes) =
      decodeFrom (some { needed := s.needed - 1, value := s.value * 64 + (n - 0x80) }) bytes := by
  rw [decodeFrom_cons, toNat_ofNat_of_lt hn, decodeByte_within h, if_neg hneeded]
  rfl

/-- The first byte of a character of several. -/
theorem decodeFrom_lead {n : ℕ} {s : Sequence} (hn : n < 256) (h : lead n = .sequence s)
    (bytes : List UInt8) :
    decodeFrom none (UInt8.ofNat n :: bytes) = decodeFrom (some s) bytes := by
  rw [decodeFrom_cons, toNat_ofNat_of_lt hn]
  simp [decodeByte, firstByte, h]

/-- A character that has been encoded is read, whatever stands behind it. -/
theorem decodeFrom_encodeChar (c : Char) (bytes : List UInt8) :
    decodeFrom none (String.utf8EncodeChar c ++ bytes) = c :: decodeFrom none bytes := by
  have hvalid : c.val.toNat < 0xd800 ∨ 0xdfff < c.val.toNat ∧ c.val.toNat < 0x110000 := c.valid
  have hchar : Char.ofNat c.val.toNat = c := Char.ofNat_toNat c
  unfold String.utf8EncodeChar
  dsimp only
  generalize c.val.toNat = v at hvalid hchar
  rw [← hchar]
  split
  · have hlead : lead v = .character (Char.ofNat v) := by
      unfold lead
      rw [if_pos (by omega)]
    rw [List.cons_append, decodeFrom_cons, toNat_ofNat_of_lt (by omega)]
    simp [decodeByte, firstByte, hlead]
  split
  · -- two bytes
    have hlead : lead (v / 64 % 32 + 0xc0) =
        .sequence { needed := 1, value := v / 64 % 32 + 0xc0 - 0xc0 } := by
      unfold lead
      rw [if_neg (by omega), if_neg (by omega), if_pos (by omega)]
    have hvalue : (v / 64 % 32 + 0xc0 - 0xc0) * 64 + (v % 64 + 0x80 - 0x80) = v := by omega
    rw [List.cons_append, decodeFrom_lead (by omega) hlead, List.cons_append,
      decodeFrom_last rfl (by omega) (by dsimp only; omega)]
    dsimp only
    rw [hvalue]
    rfl
  split
  · -- three bytes: two first bytes bound the second
    have hlead : ∃ s, lead (v / 4096 % 16 + 0xe0) = .sequence s ∧ s.needed = 2 ∧
        s.value = v / 4096 ∧ s.lower ≤ v / 64 % 64 + 0x80 ∧ v / 64 % 64 + 0x80 ≤ s.upper := by
      unfold lead
      rw [if_neg (by omega), if_neg (by omega), if_neg (by omega)]
      split
      · exact ⟨_, rfl, rfl, by dsimp only; omega, by dsimp only; omega, by dsimp only; omega⟩
      split
      · exact ⟨_, rfl, rfl, by dsimp only; omega, by dsimp only; omega, by dsimp only; omega⟩
      rw [if_pos (by omega)]
      exact ⟨_, rfl, rfl, by dsimp only; omega, by dsimp only; omega, by dsimp only; omega⟩
    obtain ⟨s, hlead, hneeded, hvalue, hbounds⟩ := hlead
    have hwhole : (s.value * 64 + (v / 64 % 64 + 0x80 - 0x80)) * 64 + (v % 64 + 0x80 - 0x80) = v := by
      omega
    rw [List.cons_append, decodeFrom_lead (by omega) hlead, List.cons_append,
      decodeFrom_middle (by omega) (by omega) hbounds, List.cons_append,
      decodeFrom_last (by dsimp only; omega) (by omega) (by dsimp only; omega)]
    dsimp only
    rw [hwhole]
    rfl
  · -- four bytes, likewise
    have hlead : ∃ s, lead (v / 262144 % 8 + 0xf0) = .sequence s ∧ s.needed = 3 ∧
        s.value = v / 262144 ∧ s.lower ≤ v / 4096 % 64 + 0x80 ∧
          v / 4096 % 64 + 0x80 ≤ s.upper := by
      unfold lead
      rw [if_neg (by omega), if_neg (by omega), if_neg (by omega), if_neg (by omega),
        if_neg (by omega), if_neg (by omega)]
      split
      · exact ⟨_, rfl, rfl, by dsimp only; omega, by dsimp only; omega, by dsimp only; omega⟩
      split
      · exact ⟨_, rfl, rfl, by dsimp only; omega, by dsimp only; omega, by dsimp only; omega⟩
      rw [if_pos (by omega)]
      exact ⟨_, rfl, rfl, by dsimp only; omega, by dsimp only; omega, by dsimp only; omega⟩
    obtain ⟨s, hlead, hneeded, hvalue, hbounds⟩ := hlead
    have hwhole : ((s.value * 64 + (v / 4096 % 64 + 0x80 - 0x80)) * 64 +
        (v / 64 % 64 + 0x80 - 0x80)) * 64 + (v % 64 + 0x80 - 0x80) = v := by
      omega
    rw [List.cons_append, decodeFrom_lead (by omega) hlead, List.cons_append,
      decodeFrom_middle (by omega) (by omega) hbounds, List.cons_append,
      decodeFrom_middle (by dsimp only; omega) (by omega) (by dsimp only; omega), List.cons_append,
      decodeFrom_last (by dsimp only; omega) (by omega) (by dsimp only; omega)]
    dsimp only
    rw [hwhole]
    rfl

/-- **What has been encoded is decoded.** -/
theorem decodeReplace_encode (cs : List Char) : decodeReplace (encodeUtf8 cs) = cs := by
  unfold decodeReplace
  induction cs with
  | nil => rfl
  | cons c cs ih =>
    change decodeFrom none (String.utf8EncodeChar c ++ encodeUtf8 cs) = _
    rw [decodeFrom_encodeChar, ih]

/-! ## ASCII text -/

/-- The values that a character of several bytes may take: those of characters, none in ASCII. -/
structure Sequence.Valid (s : Sequence) : Prop where
  needed : s.needed = 1 ∨ s.needed = 2 ∨ s.needed = 3
  lower : 0x80 ≤ s.lower
  upper : s.upper ≤ 0xbf
  least : 0x80 ≤ (s.value * 64 + (s.lower - 0x80)) * 64 ^ (s.needed - 1)
  most : (s.value * 64 + (s.upper - 0x80) + 1) * 64 ^ (s.needed - 1) ≤ 0x110000
  scalar : (s.value * 64 + (s.upper - 0x80) + 1) * 64 ^ (s.needed - 1) ≤ 0xd800 ∨
    0xe000 ≤ (s.value * 64 + (s.lower - 0x80)) * 64 ^ (s.needed - 1)

theorem lead_valid {b : ℕ} {s : Sequence} (h : lead b = .sequence s) : s.Valid := by
  unfold lead at h
  repeat' split at h
  all_goals
    cases h
  all_goals
    constructor <;> norm_num <;> omega

/-- A byte that continues a character leaves a part of the values. -/
theorem Sequence.Valid.next {s : Sequence} (h : s.Valid) {b : ℕ} (hb : s.lower ≤ b ∧ b ≤ s.upper)
    (hneeded : s.needed ≠ 1) :
    Sequence.Valid { needed := s.needed - 1, value := s.value * 64 + (b - 0x80) } := by
  obtain ⟨hcases, hlower, hupper, hleast, hmost, hscalar⟩ := h
  obtain ⟨more, hmore, hpow⟩ : ∃ more, (more = 1 ∨ more = 2) ∧ s.needed = more + 1 := by
    refine ⟨s.needed - 1, ?_, ?_⟩ <;> omega
  rw [hpow, Nat.add_sub_cancel] at hleast hmost hscalar
  rw [hpow, Nat.add_sub_cancel]
  -- the values are those between the ones that this byte starts
  have hle : s.value * 64 + (s.lower - 0x80) ≤ s.value * 64 + (b - 0x80) := by omega
  have hlt : s.value * 64 + (b - 0x80) + 1 ≤ s.value * 64 + (s.upper - 0x80) + 1 := by omega
  generalize s.value * 64 + (b - 0x80) = value at hle hlt
  generalize s.value * 64 + (s.lower - 0x80) = low at hle hleast hscalar
  generalize s.value * 64 + (s.upper - 0x80) = high at hlt hmost hscalar
  have hpower : (64 : ℕ) ^ more = 64 * 64 ^ (more - 1) := by
    rcases hmore with rfl | rfl <;> rfl
  rw [hpower] at hleast hmost hscalar
  have hbelow := hleast.trans (Nat.mul_le_mul_right (64 * 64 ^ (more - 1)) hle)
  have habove := Nat.mul_le_mul_right (64 * 64 ^ (more - 1)) hlt
  suffices hnext : ∀ next : Sequence, next.needed = more → next.value = value →
      next.lower = 0x80 → next.upper = 0xbf → next.Valid from hnext _ rfl rfl rfl rfl
  intro next hneeded hvalue hlower hupper
  have hfirst : (next.value * 64 + (next.lower - 0x80)) * 64 ^ (next.needed - 1) =
      value * (64 * 64 ^ (more - 1)) := by
    rw [hvalue, hlower, hneeded, Nat.sub_self]
    ring
  have hlast : (next.value * 64 + (next.upper - 0x80) + 1) * 64 ^ (next.needed - 1) =
      (value + 1) * (64 * 64 ^ (more - 1)) := by
    rw [hvalue, hupper, hneeded]
    ring
  refine ⟨by omega, hlower.ge, hupper.le, ?_, ?_, ?_⟩
  · rw [hfirst]
    exact hbelow
  · rw [hlast]
    exact habove.trans hmost
  · rw [hfirst, hlast]
    exact hscalar.imp habove.trans fun h => h.trans (Nat.mul_le_mul_right _ hle)

theorem toNat_charOfNat {n : ℕ} (h : n < 0xd800 ∨ 0xdfff < n ∧ n < 0x110000) :
    (Char.ofNat n).toNat = n := by
  unfold Char.ofNat
  rw [dif_pos h]
  rfl

/-- The value of a character that is complete. -/
theorem Sequence.Valid.toNat {s : Sequence} (h : s.Valid) {b : ℕ} (hb : s.lower ≤ b ∧ b ≤ s.upper)
    (hneeded : s.needed = 1) : 0x80 ≤ (Char.ofNat (s.value * 64 + (b - 0x80))).toNat := by
  obtain ⟨-, hlower, hupper, hleast, hmost, hscalar⟩ := h
  rw [hneeded] at hleast hmost hscalar
  norm_num at hleast hmost hscalar
  rw [toNat_charOfNat (by omega)]
  omega

theorem toNat_replacementCharacter : replacementCharacter.toNat = 0xfffd := rfl

/-- What the first byte of a character writes in ASCII is this byte. -/
theorem firstByte_ascii {b : ℕ} {before after : List Char} {d : Char} (hd : d.toNat < 0x80)
    (h : (firstByte b).1 = before ++ d :: after) :
    before = [] ∧ after = [] ∧ (firstByte b).2 = none ∧ b = d.toNat := by
  unfold firstByte at h ⊢
  cases hlead : lead b with
  | character c =>
    rw [hlead] at h
    obtain ⟨rfl, hcons⟩ := List.append_eq_singleton_iff.mp h.symm |>.resolve_right fun hnil => by
      cases hnil.2
    obtain ⟨rfl, rfl⟩ := List.cons.inj hcons
    refine ⟨rfl, rfl, rfl, ?_⟩
    unfold lead at hlead
    split at hlead
    · cases hlead
      rw [toNat_charOfNat (by omega)]
    · repeat' split at hlead
      all_goals cases hlead
  | sequence s =>
    rw [hlead] at h
    cases before <;> cases h
  | invalid =>
    rw [hlead] at h
    obtain ⟨rfl, hcons⟩ := List.append_eq_singleton_iff.mp h.symm |>.resolve_right fun hnil => by
      cases hnil.2
    obtain ⟨rfl, -⟩ := List.cons.inj hcons
    rw [toNat_replacementCharacter] at hd
    omega

theorem firstByte_valid {b : ℕ} {s : Sequence} (h : (firstByte b).2 = some s) : s.Valid := by
  unfold firstByte at h
  cases hlead : lead b with
  | sequence s' =>
    rw [hlead] at h
    obtain rfl := Option.some.inj h
    exact lead_valid hlead
  | character | invalid =>
    rw [hlead] at h
    cases h

/-- What a byte writes in ASCII is this byte, and nothing is pending then. -/
theorem decodeByte_ascii {pending : Option Sequence} (hpending : ∀ s ∈ pending, s.Valid) {b : ℕ}
    {before after : List Char} {d : Char} (hd : d.toNat < 0x80)
    (h : (decodeByte pending b).1 = before ++ d :: after) :
    after = [] ∧ (decodeByte pending b).2 = none ∧ b = d.toNat := by
  cases pending with
  | none =>
    obtain ⟨-, hafter, hnone, hb⟩ := firstByte_ascii hd h
    exact ⟨hafter, hnone, hb⟩
  | some s =>
    have hvalid := hpending s rfl
    by_cases hwithin : s.lower ≤ b ∧ b ≤ s.upper
    · rw [decodeByte_within hwithin] at h
      split at h
      · rename_i hneeded
        obtain ⟨rfl, hcons⟩ := List.append_eq_singleton_iff.mp h.symm |>.resolve_right fun hnil => by
          cases hnil.2
        have hge := hvalid.toNat hwithin hneeded
        rw [← (List.cons.inj hcons).1] at hge
        omega
      · cases before <;> cases h
    · have hreread : decodeByte (some s) b =
          (replacementCharacter :: (firstByte b).1, (firstByte b).2) := by
        change (if s.lower ≤ b ∧ b ≤ s.upper then _ else _) = _
        rw [if_neg hwithin]
      rw [hreread] at h
      rw [hreread]
      cases before with
      | nil =>
        obtain ⟨rfl, -⟩ := List.cons.inj h
        rw [toNat_replacementCharacter] at hd
        omega
      | cons c before =>
        obtain ⟨-, hrest⟩ := List.cons.inj h
        obtain ⟨-, hafter, hnone, hb⟩ := firstByte_ascii hd hrest
        exact ⟨hafter, hnone, hb⟩

theorem decodeByte_valid {pending : Option Sequence} (hpending : ∀ s ∈ pending, s.Valid) {b : ℕ} :
    ∀ s ∈ (decodeByte pending b).2, s.Valid := by
  intro s' hs'
  cases pending with
  | none => exact firstByte_valid hs'
  | some s =>
    by_cases hwithin : s.lower ≤ b ∧ b ≤ s.upper
    · rw [decodeByte_within hwithin] at hs'
      split at hs'
      · cases hs'
      · rename_i hneeded
        obtain rfl := Option.some.inj hs'
        exact (hpending s rfl).next hwithin hneeded
    · change (if s.lower ≤ b ∧ b ≤ s.upper then _ else _ : List Char × Option Sequence).2 = _ at hs'
      rw [if_neg hwithin] at hs'
      exact firstByte_valid hs'

/-- A part of the text that starts in ASCII is what is read from some byte on. -/
theorem exists_suffix {bytes : List UInt8} {pending : Option Sequence}
    (hpending : ∀ s ∈ pending, s.Valid) {d : Char} {cs : List Char} (hd : d.toNat < 0x80)
    (h : d :: cs <:+ decodeFrom pending bytes) :
    ∃ rest, UInt8.ofNat d.toNat :: rest <:+ bytes ∧ cs = decodeFrom none rest := by
  induction bytes generalizing pending with
  | nil =>
    cases pending with
    | none => cases List.suffix_nil.mp h
    | some s =>
      obtain ⟨before, hbefore⟩ := h
      obtain ⟨rfl, hcons⟩ := List.append_eq_singleton_iff.mp hbefore |>.resolve_right fun hnil => by
        cases hnil.2
      obtain ⟨rfl, -⟩ := List.cons.inj hcons
      rw [toNat_replacementCharacter] at hd
      omega
  | cons b bytes ih =>
    rw [decodeFrom_cons] at h
    obtain ⟨before, hbefore⟩ := h
    rcases List.append_eq_append_iff.mp hbefore with ⟨written, hwritten, hrest⟩ | ⟨more, hmore, hrest⟩
    · -- it starts in what this byte has written
      cases written with
      | nil =>
        have hsuffix : d :: cs <:+ decodeFrom (decodeByte pending b.toNat).2 bytes :=
          ⟨[], hrest⟩
        obtain ⟨rest, hsub, hcs⟩ := ih (decodeByte_valid hpending) hsuffix
        exact ⟨rest, hsub.trans (List.suffix_cons _ _), hcs⟩
      | cons c written =>
        obtain ⟨rfl, hcs⟩ := List.cons.inj hrest
        obtain ⟨rfl, hnone, hb⟩ := decodeByte_ascii hpending hd hwritten
        refine ⟨bytes, ?_, ?_⟩
        · rw [← hb, UInt8.ofNat_toNat]
        · rw [hcs, hnone]
          rfl
    · have hsuffix : d :: cs <:+ decodeFrom (decodeByte pending b.toNat).2 bytes :=
        ⟨more, hrest.symm⟩
      obtain ⟨rest, hsub, hcs⟩ := ih (decodeByte_valid hpending) hsuffix
      exact ⟨rest, hsub.trans (List.suffix_cons _ _), hcs⟩

/-- A character of several bytes, or what is left of one, is not ASCII. -/
theorem Sequence.Valid.head {bytes : List UInt8} {s : Sequence} (h : s.Valid) {d : Char}
    {cs : List Char} (hread : decodeFrom (some s) bytes = d :: cs) : 0x80 ≤ d.toNat := by
  induction bytes generalizing s with
  | nil =>
    rw [← (List.cons.inj hread).1, toNat_replacementCharacter]
    omega
  | cons b bytes ih =>
    rw [decodeFrom_cons] at hread
    by_cases hwithin : s.lower ≤ b.toNat ∧ b.toNat ≤ s.upper
    · rw [decodeByte_within hwithin] at hread
      split at hread
      · rename_i hneeded
        rw [← (List.cons.inj hread).1]
        exact h.toNat hwithin hneeded
      · rename_i hneeded
        exact ih (h.next hwithin hneeded) hread
    · have hfirst : (decodeByte (some s) b.toNat).1 = replacementCharacter :: (firstByte b.toNat).1 := by
        change (if s.lower ≤ b.toNat ∧ b.toNat ≤ s.upper then _ else _ :
          List Char × Option Sequence).1 = _
        rw [if_neg hwithin]
      rw [hfirst] at hread
      rw [← (List.cons.inj hread).1, toNat_replacementCharacter]
      omega

/-- An ASCII text at the start of what is read stands at the start of the bytes. -/
theorem start_of_decodeFrom {ds cs : List Char} (hds : ∀ d ∈ ds, d.toNat < 0x80)
    {bytes : List UInt8} (h : decodeFrom none bytes = ds ++ cs) :
    ds.map (fun d => UInt8.ofNat d.toNat) <+: bytes := by
  induction ds generalizing bytes with
  | nil => exact List.nil_prefix
  | cons d ds ih =>
    have hd := hds d List.mem_cons_self
    cases bytes with
    | nil => cases h
    | cons b bytes =>
      rw [decodeFrom_cons] at h
      cases hwritten : (decodeByte none b.toNat).1 with
      | nil =>
        -- a character of several bytes has begun, which is not the one that was read
        rw [hwritten, List.nil_append] at h
        cases hpending : (decodeByte none b.toNat).2 with
        | none =>
          change (firstByte b.toNat).1 = [] at hwritten
          change (firstByte b.toNat).2 = none at hpending
          unfold firstByte at hwritten hpending
          cases hlead : lead b.toNat <;> simp [hlead] at hwritten hpending
        | some s =>
          rw [hpending] at h
          have hge := (firstByte_valid hpending).head h
          omega
      | cons c written =>
        rw [hwritten] at h
        obtain ⟨rfl, hrest⟩ := List.cons.inj h
        have hfirst : (firstByte b.toNat).1 = [] ++ c :: written := hwritten
        obtain ⟨-, rfl, hpending, hb⟩ := firstByte_ascii hd hfirst
        have hnone : (decodeByte none b.toNat).2 = none := hpending
        rw [hnone] at hrest
        rw [List.map_cons, ← hb, UInt8.ofNat_toNat]
        exact List.prefix_cons_inj b |>.mpr (ih (fun x hx => hds x (List.mem_cons_of_mem _ hx)) hrest)

/-- **An ASCII text that is read stands in the bytes.** -/
theorem infix_of_decodeReplace {ds : List Char} (hds : ∀ d ∈ ds, d.toNat < 0x80)
    {bytes : List UInt8} (h : ds <:+: decodeReplace bytes) :
    ds.map (fun d => UInt8.ofNat d.toNat) <:+: bytes := by
  obtain ⟨before, after, hread⟩ := h
  cases ds with
  | nil => exact List.nil_infix
  | cons d ds =>
    have hsuffix : d :: (ds ++ after) <:+ decodeFrom none bytes :=
      ⟨before, by rw [← List.cons_append, ← List.append_assoc]; exact hread⟩
    obtain ⟨rest, hrest, htext⟩ := exists_suffix (fun s hs => by cases hs) (hds d List.mem_cons_self) hsuffix
    have hstart := start_of_decodeFrom (fun x hx => hds x (List.mem_cons_of_mem _ hx)) htext.symm
    refine List.IsInfix.trans ?_ hrest.isInfix
    rw [List.map_cons]
    exact ((List.prefix_cons_inj _).mpr hstart).isInfix

end Snarkypuss.Python
