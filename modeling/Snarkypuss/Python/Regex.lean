import Snarkypuss.Python.Text

/-!
# Searching for words

The searches of `re` that the scripts make: a word between two word boundaries, and a version
number. What the module takes from the Unicode database is a parameter.

## Main definitions

* `RegexData`: the classes `\w` and `\d`, and when a character matches a literal in any case
* `boundary`: the assertion `\b`
* `searchWord`: a search for one of some words
* `occursIn`: the operator `in` on texts
-/

namespace Snarkypuss.Python

/-- What `re` takes from the Unicode database. -/
structure RegexData where
  isWord : Char → Bool
  isDigit : Char → Bool
  sameIgnoringCase : Char → Char → Bool

/-- The database on ASCII text. -/
def asciiRegexData : RegexData where
  isWord c := c.isAlphanum || c == '_'
  isDigit := Char.isDigit
  sameIgnoringCase a b := a.toLower == b.toLower

/-- `needle in text`. -/
def occursIn (needle text : String) : Bool := decide (needle.toList <:+: text.toList)

variable (data : RegexData)

/-- `\b` between two neighbours, of which one is missing at either end of the text. -/
def boundary (before after : Option Char) : Bool :=
  before.any data.isWord != after.any data.isWord

/-- The word stands at the head of the text as a whole word. -/
def wordAt (same : Char → Char → Bool) (before : Option Char) (word text : List Char) : Bool :=
  boundary data before text.head? &&
    (word.length ≤ text.length && (word.zip text).all fun pair => same pair.1 pair.2) &&
    boundary data (text.take word.length).getLast? (text.drop word.length).head?

/-- `re.search(r"\b(?:…)\b", text)`, from a place in the text on. -/
def searchFrom (same : Char → Char → Bool) (words : List String) : Option Char → List Char → Bool
  | _, [] => false
  | before, c :: cs =>
    (words.any fun word => wordAt data same before word.toList (c :: cs)) ||
      searchFrom same words (some c) cs

/-- `re.search(r"\b(?:…)\b", text)`, the words separated by bars. -/
def searchWord (words : List String) (text : String) : Bool :=
  searchFrom data (· == ·) words none text.toList

/-- The search under `re.IGNORECASE`. -/
def searchWordIgnoringCase (words : List String) (text : String) : Bool :=
  searchFrom data data.sameIgnoringCase words none text.toList

/-- `re.search(r"\b([56])\.\d+(?:\.\d+)?\b", text)`, from a place in the text on: the group. The
digits are followed by a boundary as soon as the longest run of them is, and then the optional
part is not needed for a match. -/
def versionFrom : Option Char → List Char → Option Char
  | _, [] => none
  | before, c :: cs =>
    let digits := (cs.drop 1).takeWhile data.isDigit
    let rest := (cs.drop 1).dropWhile data.isDigit
    if (c == '5' || c == '6') && boundary data before (some c) && cs.head? == some '.' &&
        digits.length ≠ 0 && boundary data digits.getLast? rest.head? then
      some c
    else versionFrom (some c) cs

example : searchWordIgnoringCase asciiRegexData ["exists", "added"] "Already Added." = true := by
  decide

end Snarkypuss.Python
