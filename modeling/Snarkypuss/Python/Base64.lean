import Mathlib

/-!
# Base64

`base64.b64decode(text, validate=True)`: the decoder of `binascii` in strict mode, one character
after another.

## Main definitions

* `Decoding`: the variables of the decoder
* `b64decode`: the bytes, or nothing where the decoder raises

## Main results

* `mem_alphabet_of_b64decode`: a text that is decoded consists of the alphabet and the padding
-/

namespace Snarkypuss.Python

/-- The six bits of a character of the alphabet. -/
def sextet (c : Char) : Option Nat :=
  let n := c.toNat
  if 65 ≤ n ∧ n ≤ 90 then some (n - 65)
  else if 97 ≤ n ∧ n ≤ 122 then some (n - 71)
  else if 48 ≤ n ∧ n ≤ 57 then some (n + 4)
  else if c = '+' then some 62
  else if c = '/' then some 63
  else none

/-- The variables of the decoder: the place within a group of four characters, the bits left
over from the character before, the padding seen in this group and ever, and the bytes. -/
structure Decoding where
  quadPos : Fin 4
  leftchar : Nat
  pads : Nat
  paddingStarted : Bool
  bytes : List Nat

def Decoding.start : Decoding := ⟨0, 0, 0, false, []⟩

/-- A character of the alphabet. -/
def Decoding.feed (d : Decoding) (bits : Nat) : Decoding :=
  match d.quadPos with
  | 0 => { d with quadPos := 1, pads := 0, leftchar := bits }
  | 1 => ⟨2, bits % 16, 0, d.paddingStarted, d.bytes ++ [d.leftchar * 4 + bits / 16]⟩
  | 2 => ⟨3, bits % 4, 0, d.paddingStarted, d.bytes ++ [d.leftchar * 16 + bits / 4]⟩
  | 3 => ⟨0, 0, 0, d.paddingStarted, d.bytes ++ [d.leftchar * 64 + bits]⟩

/-- The decoder on the characters that remain. -/
def Decoding.run (d : Decoding) : List Char → Option (List Nat)
  | [] => if d.quadPos = 0 then some d.bytes else none
  | c :: cs =>
    if c = '=' then
      if 2 ≤ d.quadPos.val ∧ 4 ≤ d.quadPos.val + (d.pads + 1) then
        -- the group is complete: nothing may follow it
        if cs = [] then some d.bytes else none
      else
        run { d with
          paddingStarted := true
          pads := if 2 ≤ d.quadPos.val then d.pads + 1 else d.pads } cs
    else
      match sextet c with
      | none => none
      | some bits => if d.paddingStarted then none else (d.feed bits).run cs

/-- `base64.b64decode(text, validate=True)`. -/
def b64decode (s : String) : Option (List Nat) :=
  if s.toList.head? = some '=' then none else Decoding.start.run s.toList

theorem Decoding.mem_of_run {d : Decoding} {cs : List Char} {bytes : List Nat}
    (h : d.run cs = some bytes) : ∀ c ∈ cs, c = '=' ∨ (sextet c).isSome := by
  induction cs generalizing d with
  | nil => simp
  | cons c cs ih =>
    rw [List.forall_mem_cons]
    unfold run at h
    split at h
    · rename_i hpad
      refine ⟨.inl hpad, ?_⟩
      split at h
      · split at h
        · rename_i hlast
          simp [hlast]
        · cases h
      · exact ih h
    · split at h
      · cases h
      · rename_i bits hbits
        split at h
        · cases h
        · exact ⟨.inr (by rw [hbits]; rfl), ih h⟩

/-- A text that is decoded consists of the alphabet and the padding. -/
theorem mem_alphabet_of_b64decode {s : String} {bytes : List Nat} (h : b64decode s = some bytes) :
    ∀ c ∈ s.toList, c = '=' ∨ (sextet c).isSome := by
  unfold b64decode at h
  split at h
  · cases h
  · exact Decoding.mem_of_run h

example : b64decode "AQI=" = some [1, 2] ∧ b64decode "AQI" = none := by decide

end Snarkypuss.Python
