import Snarkypuss.Collections.Dict

/-!
# JSON documents

Documents as a decoder returns them. A text is a sequence of code points and not of characters,
because an escape may name half of a surrogate pair. A number with a fraction or an exponent is
kept as the literal it was written with.

## Main definitions

* `CodePoint`, `Text`: the texts of a document, with `Text.ofString` and `Text.toString?`
* `Json`: documents
* `Json.ints`: the integers of a document, at any depth
* `Json.Shaped d`: documents of at most `d` nested containers that a writer may produce

## Main results

* `Text.toString?_ofString`: a string read back from its code points
* `Json.ints_arr`, `Json.ints_obj`: the integers of a container are those of its parts
* `Json.Shaped.mono`: a document may stand where a deeper one may
-/

namespace Snarkypuss

/-! ## Texts -/

/-- A code point, which may be half of a surrogate pair. -/
abbrev CodePoint := Fin 0x110000

/-- A text: a sequence of code points. -/
abbrev Text := List CodePoint

namespace Text

theorem toNat_lt (c : Char) : c.toNat < 0x110000 := by
  have hvalid := c.valid
  rcases hvalid with h | h
  · have : c.toNat < 0xd800 := h
    omega
  · exact h.2

/-- The code point of a character. -/
def ofChar (c : Char) : CodePoint := ⟨c.toNat, toNat_lt c⟩

@[simp] theorem val_ofChar (c : Char) : (ofChar c).val = c.toNat := rfl

/-- The character of a code point that is no half of a surrogate pair. -/
def toChar? (p : CodePoint) : Option Char :=
  if p.val.isValidChar then some (Char.ofNat p.val) else none

@[simp] theorem toChar?_ofChar (c : Char) : toChar? (ofChar c) = some c := by
  have hvalid : c.toNat.isValidChar := c.valid
  simp [toChar?, hvalid]

/-- The code points of a string. -/
def ofString (s : String) : Text := s.toList.map ofChar

/-- The string with the given code points, when they are all characters. -/
def toString? (t : Text) : Option String := (t.mapM toChar?).map String.ofList

theorem mapM_toChar? (cs : List Char) : (cs.map ofChar).mapM toChar? = some cs := by
  induction cs with
  | nil => rfl
  | cons c cs ih =>
    rw [List.map_cons, List.mapM_cons, toChar?_ofChar, ih]
    rfl

@[simp] theorem toString?_ofString (s : String) : toString? (ofString s) = some s := by
  rw [toString?, ofString, mapM_toChar?]
  simp

theorem ofString_injective : Function.Injective ofString := by
  intro s s' h
  have hs := toString?_ofString s
  rw [h, toString?_ofString] at hs
  exact (Option.some.inj hs).symm

theorem ofString_inj {s s' : String} : ofString s = ofString s' ↔ s = s' :=
  ofString_injective.eq_iff

end Text

/-! ## Documents -/

/-- A JSON document. The members of an object are in the order in which their keys first occur. -/
inductive Json
  | null
  | bool (b : Bool)
  | int (n : Int)
  | float (literal : String)
  | str (t : Text)
  | arr (items : List Json)
  | obj (members : List (Text × Json))

namespace Json

/-- A text that is a string. -/
def ofString (s : String) : Json := .str (Text.ofString s)

/-! ## The integers of a document -/

mutual
/-- The integers of a document, at any depth. -/
def ints : Json → List Int
  | .int n => [n]
  | .arr items => intsOfItems items
  | .obj members => intsOfMembers members
  | _ => []

def intsOfItems : List Json → List Int
  | [] => []
  | item :: items => item.ints ++ intsOfItems items

def intsOfMembers : List (Text × Json) → List Int
  | [] => []
  | member :: members => member.2.ints ++ intsOfMembers members
end

theorem intsOfItems_eq (items : List Json) : intsOfItems items = items.flatMap ints := by
  induction items with
  | nil => rfl
  | cons item items ih => rw [intsOfItems, ih, List.flatMap_cons]

theorem intsOfMembers_eq (members : List (Text × Json)) :
    intsOfMembers members = members.flatMap fun member => member.2.ints := by
  induction members with
  | nil => rfl
  | cons member members ih => rw [intsOfMembers, ih, List.flatMap_cons]

@[simp] theorem ints_int (n : Int) : (int n).ints = [n] := rfl

@[simp] theorem ints_arr (items : List Json) : (arr items).ints = items.flatMap ints :=
  intsOfItems_eq items

@[simp] theorem ints_obj (members : List (Text × Json)) :
    (obj members).ints = members.flatMap fun member => member.2.ints :=
  intsOfMembers_eq members

/-! ## Documents that are written -/

/-- Documents of at most `d` nested containers whose texts are strings, whose objects have each
key once, and whose literals of other numbers meet `literals`. -/
inductive Shaped (literals : String → Prop) : Nat → Json → Prop
  | null {d} : Shaped literals d .null
  | bool {d} (b : Bool) : Shaped literals d (.bool b)
  | int {d} (n : Int) : Shaped literals d (.int n)
  | float {d literal} (hliteral : literals literal) : Shaped literals d (.float literal)
  | str {d} (s : String) : Shaped literals d (.str (Text.ofString s))
  | arr {d items} (hitems : ∀ item ∈ items, Shaped literals d item) :
    Shaped literals (d + 1) (.arr items)
  | obj {d members} (hkeys : (members.map Prod.fst).Nodup)
    (hstrings : ∀ member ∈ members, ∃ s, member.1 = Text.ofString s)
    (hmembers : ∀ member ∈ members, Shaped literals d member.2) :
    Shaped literals (d + 1) (.obj members)

variable {literals : String → Prop}

theorem Shaped.succ {d : Nat} {j : Json} (h : Shaped literals d j) : Shaped literals (d + 1) j := by
  induction h with
  | null => exact .null
  | bool b => exact .bool b
  | int n => exact .int n
  | float hliteral => exact .float hliteral
  | str s => exact .str s
  | arr _ ih => exact .arr ih
  | obj hkeys hstrings _ ih => exact .obj hkeys hstrings ih

/-- A document may stand where a deeper one may. -/
theorem Shaped.mono {d d' : Nat} {j : Json} (h : Shaped literals d j) (hd : d ≤ d') :
    Shaped literals d' j := by
  induction d', hd using Nat.le_induction with
  | base => exact h
  | succ d' _ ih => exact ih.succ

end Json

end Snarkypuss
