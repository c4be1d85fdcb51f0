import Snarkypuss.Collections.Dict
import Snarkypuss.Python.Conversions

/-!
# Configuration files

`configparser.ConfigParser(interpolation=None, strict=True)` reading one file: the default
delimiters `=` and `:`, full-line comments with `#` and `;`, values that continue on deeper
indented lines, no option without a value. The option names are folded to lower case.

The sections and options that the reader has seen (`elements_added`) are those it has stored,
since a parser of the scripts reads one file only.

## Main definitions

* `ParserError`: the errors of `configparser`, with `ParserError.text`
* `Reading.readLine`, `readFile`: one line, and a whole file
* `Document`: the sections and the defaults of a file, with `Document.get`
-/

namespace Snarkypuss.Python

/-! ## Lines -/

/-- Universal newlines: the text of a file as a stream opened for text gives it. -/
def universalNewlines : List Char → List Char
  | [] => []
  | '\r' :: '\n' :: cs => '\n' :: universalNewlines cs
  | '\r' :: cs => '\n' :: universalNewlines cs
  | c :: cs => c :: universalNewlines cs

/-- The lines that iterating over a stream gives, without their line feeds. -/
def streamLines (cs : List Char) : List (List Char) :=
  let lines := cs.splitOn '\n'
  if lines.getLast? = some [] then lines.dropLast else lines

/-! ## Errors -/

/-- The exceptions of `configparser` that reading a file raises, with the number of the line. -/
inductive ParserError
  | missingSectionHeader (lineno : Nat) (line : List Char)
  | duplicateSection (name : List Char) (lineno : Nat)
  | duplicateOption (sectname : List Char) (optname : String) (lineno : Nat)
  | parsing (lines : List (Nat × List Char))
  deriving DecidableEq

/-- A number right-aligned in two columns. -/
def twoColumns (n : Nat) : String := if n < 10 then s!" {n}" else s!"{n}"

/-- `repr` of a line as the stream gives it. -/
def shownLine (data : TextData) (line : List Char) : String :=
  data.repr (String.ofList (line ++ ['\n']))

/-- The text of the exception. The source is the stream's name as `repr` shows it. -/
def ParserError.text (data : TextData) (source : String) : ParserError → String
  | missingSectionHeader lineno line =>
    s!"File contains no section headers.\nfile: {source}, line: {lineno}\n" ++ shownLine data line
  | duplicateSection name lineno =>
    s!"While reading from {source} [line {twoColumns lineno}]: section " ++
      data.repr (String.ofList name) ++ " already exists"
  | duplicateOption sectname optname lineno =>
    s!"While reading from {source} [line {twoColumns lineno}]: option {data.repr optname}" ++
      s!" in section {data.repr (String.ofList sectname)} already exists"
  | parsing lines =>
    s!"Source contains parsing errors: {source}" ++
      "".intercalate (lines.map fun (lineno, line) =>
        s!"\n\t[line {twoColumns lineno}]: " ++ shownLine data line)

/-! ## Reading one line -/

/-- The options of a section while it is read: the lines of each value. -/
abbrev RawOptions : Type := Dict String (List (List Char))

/-- The variables of `_read`. `sectname` is the section that `cursect` belongs to. -/
structure Reading where
  defaults : RawOptions
  sections : Dict (List Char) RawOptions
  sectname : Option (List Char)
  optname : String
  indentLevel : Nat
  bogus : List (Nat × List Char)

def Reading.start : Reading := ⟨.empty, .empty, none, "", 0, []⟩

def defaultSection : List Char := "DEFAULT".toList

/-- `cursect`. -/
def Reading.cursect (r : Reading) : Option RawOptions :=
  r.sectname.bind fun name => if name = defaultSection then some r.defaults else r.sections.get? name

/-- `cursect` with an option assigned. -/
def Reading.assign (r : Reading) (optname : String) (lines : List (List Char)) : Reading :=
  match r.sectname with
  | none => r
  | some name =>
    if name = defaultSection then { r with defaults := r.defaults.insert optname lines }
    else
      match r.sections.get? name with
      | some options => { r with sections := r.sections.insert name (options.insert optname lines) }
      | none => r

/-- `cursect[optname].append(value)`. -/
def Reading.append (r : Reading) (value : List Char) : Reading :=
  match r.cursect.bind (·.get? r.optname) with
  | some lines => r.assign r.optname (lines ++ [value])
  | none => r

/-- `SECTCRE.match`: what stands between the first bracket and the last closing one. -/
def sectionHeader (value : List Char) : Option (List Char) :=
  match value with
  | '[' :: cs =>
    let name := (cs.reverse.dropWhile (· ≠ ']')).tail.reverse
    if ']' ∈ cs ∧ name ≠ [] then some name else none
  | _ => none

def isDelimiter (c : Char) : Bool := c = '=' ∨ c = ':'

/-- `_optcre.match`: the name before the first delimiter and the value behind it, both stripped
of the white space around the delimiter. -/
def optionLine (value : List Char) : Option (List Char × List Char) :=
  match value.dropWhile (!isDelimiter ·) with
  | _ :: rest =>
    some ((value.takeWhile (!isDelimiter ·)).reverse.dropWhile isSpace |>.reverse,
      stripList isSpace rest)
  | [] => none

/-- A section header. The options of a new section start with no option to be continued. -/
def Reading.enterSection (r : Reading) (lineno : Nat) (name : List Char) :
    Except ParserError Reading :=
  if name ∈ r.sections.keys then .error (.duplicateSection name lineno)
  else if name = defaultSection then .ok { r with sectname := some name, optname := "" }
  else
    .ok { r with
      sections := r.sections.insert name .empty
      sectname := some name
      optname := "" }

/-- A line that is neither a continuation nor a header. -/
def Reading.readOption (data : TextData) (r : Reading) (lineno : Nat) (line value : List Char) :
    Except ParserError Reading :=
  match r.sectname, r.cursect with
  | some sectname, some cursect =>
    match optionLine value with
    | some (name, optval) =>
      -- an empty name is an error that is raised only at the end of the file
      let r := if name = [] then { r with bogus := r.bogus ++ [(lineno, line)] } else r
      let optname := data.lower (String.ofList name)
      if optname ∈ cursect.keys then .error (.duplicateOption sectname optname lineno)
      else .ok ({ r with optname := optname }.assign optname [optval])
    | none => .ok { r with bogus := r.bogus ++ [(lineno, line)] }
  | _, _ => .error (.missingSectionHeader lineno line)

/-- The body of the loop of `_read`. -/
def Reading.readLine (data : TextData) (r : Reading) (lineno : Nat) (line : List Char) :
    Except ParserError Reading :=
  let value := stripList isSpace line
  match value with
  -- an empty line belongs to the value that is being read
  | [] => .ok (if r.optname = "" then r else r.append [])
  | c :: _ =>
    if c = '#' ∨ c = ';' then .ok r
    else
      let indent := (line.takeWhile isSpace).length
      if r.sectname.isSome ∧ r.optname ≠ "" ∧ r.indentLevel < indent then .ok (r.append value)
      else
        let r := { r with indentLevel := indent }
        match sectionHeader value with
        | some name => r.enterSection lineno name
        | none => r.readOption data lineno line value

/-- The lines of a file from a line number on. -/
def Reading.readLines (data : TextData) : Reading → Nat → List (List Char) →
    Except ParserError Reading
  | r, _, [] => .ok r
  | r, lineno, line :: lines => do
    let r ← r.readLine data lineno line
    r.readLines data (lineno + 1) lines

/-! ## The document -/

/-- The sections and the defaults of a file. -/
structure Document where
  defaults : Dict String String
  sections : Dict String (Dict String String)

/-- The lines of a value, joined and stripped at the end. -/
def joinLines (lines : List (List Char)) : String :=
  String.ofList ((List.intercalate ['\n'] lines).reverse.dropWhile isSpace).reverse

/-- The entries of a dictionary under renamed keys and changed values. -/
def mapEntries {κ ν κ' ν' : Type} (rename : κ → κ') (hrename : Function.Injective rename)
    (change : ν → ν') (d : Dict κ ν) : Dict κ' ν' where
  entries := d.entries.map fun e => (rename e.1, change e.2)
  keys_nodup := by
    have hkeys : (d.entries.map fun e => (rename e.1, change e.2)).map Prod.fst =
        (d.entries.map Prod.fst).map rename := by simp
    rw [hkeys]
    exact d.keys_nodup.map hrename

/-- `_join_multiline_values` on one section. -/
def joinValues (options : RawOptions) : Dict String String :=
  mapEntries id Function.injective_id joinLines options

theorem ofList_injective : Function.Injective String.ofList := fun _ _ => String.ofList_inj.mp

def Reading.document (r : Reading) : Document where
  defaults := joinValues r.defaults
  sections := mapEntries String.ofList ofList_injective joinValues r.sections

/-- `document.read_file(stream)`. -/
def readFile (data : TextData) (text : String) : Except ParserError Document := do
  let r ← Reading.start.readLines data 1 (streamLines (universalNewlines text.toList))
  if r.bogus = [] then return r.document else throw (.parsing r.bogus)

/-- The options of a section, the defaults behind its own. -/
def Document.options (document : Document) (name : String) : List String :=
  match document.sections.get? name with
  | some section_ => section_.keys ++ document.defaults.keys
  | none => document.defaults.keys

/-- `document[name][option]`. -/
def Document.get (data : TextData) (document : Document) (name option : String) : Option String :=
  let key := data.lower option
  ((document.sections.get? name).bind (·.get? key)).or (document.defaults.get? key)

end Snarkypuss.Python
