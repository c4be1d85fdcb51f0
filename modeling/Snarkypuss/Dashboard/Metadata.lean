import Snarkypuss.Targets.Dependencies

/-!
# Fields, labels and aliases of the destination editor

The functions of the dashboard script that read one edited selector: the values its fields have
and are given, the context of a discovery request, and the label and alias that are proposed for
a new destination.

## Main definitions

* `toText`, `hasValue`: `String(value)`, and the test for a missing value
* `fieldDefault`, `selectorDefaults`, `discoveryContext`, `dependenciesHaveValues`
* `Discovery`: the state of one provider-backed field
* `suggestedTargetLabel`, `normalizedAlias`, `uniqueAlias`: the proposals for a new destination
-/

namespace Snarkypuss.Dashboard

/-- The functions of the script's strings that are given by the Unicode tables. -/
structure TextTables where
  nfkd : String → String
  toLowerCase : String → String

/-! ## Values of a selector -/

/-- `String(value)`. -/
def toText : Option JsonScalar → String
  | none => "undefined"
  | some (.str s) => s
  | some (.int n) => toString n
  | some (.bool true) => "true"
  | some (.bool false) => "false"
  | some .none => "null"

/-- `value !== "" && value !== null && value !== undefined`. -/
def hasValue : Option JsonScalar → Bool
  | none | some .none => false
  | some (.str s) => s != ""
  | some _ => true

/-- A choice whose options are discovered. -/
def isProviderChoice (field : SelectorField) : Bool :=
  field.fieldType = .choice && field.optionSource = .provider

def fieldDefault (field : SelectorField) : JsonScalar :=
  match field.fieldType with
  | .boolean => .bool false
  | .integer => .int 0
  | _ =>
    match field.optionSource, field.choices with
    | .static, choice :: _ => .str choice
    | _, _ => .str ""

def selectorDefaults (kindSchema : SelectorKind) : JsonObject :=
  kindSchema.fields.foldl (fun selector field => selector.insert field.name.val (fieldDefault field))
    (Dict.empty.insert "kind" (.str kindSchema.kind.val))

/-- `targetSchema.selector_kinds.find((item) => item.kind === target.selector.kind)`. -/
def selectedKind (schema : ProviderTargetSchema) (selector : JsonObject) : Option SelectorKind :=
  match selector.get? "kind" with
  | some (.str kind) => schema.selectorKinds.find? (·.kind.val = kind)
  | _ => none

def dependenciesHaveValues (selector : JsonObject) (field : SelectorField) : Bool :=
  field.dependsOn.all fun name => hasValue (selector.get? name)

/-- The entries of the context that a field's options are requested with. -/
def discoveryContext (selector : JsonObject) (field : SelectorField) :
    List (String × Option JsonScalar) :=
  field.dependsOn.map fun name => (name, selector.get? name)

/-! ## Discovery states -/

inductive DiscoveryStatus
  | loading | ready | removing | error
  deriving DecidableEq

/-- The object that `ensureProviderOptions` creates for one field of one target. -/
structure Discovery where
  id : Nat
  contextKey : List (String × Option JsonScalar)
  status : DiscoveryStatus
  options : List TargetOption
  deriving DecidableEq

/-- `options.some((option) => String(option.value) === String(value))`. -/
def offers (options : List TargetOption) (value : Option JsonScalar) : Bool :=
  options.any fun option => option.value.val = toText value

/-! ## Proposals for a new destination -/

def targetOptionLabel (selector : JsonObject) (states : String → Option Discovery)
    (field : SelectorField) : Option String :=
  let value := selector.get? field.name.val
  if !hasValue value then none
  else if isProviderChoice field then
    match states field.name.val with
    | some state =>
      if state.status = .ready then
        (state.options.find? (·.value.val = toText value)).map (·.label.val)
      else none
    | none => none
  else some (toText value)

/-- `dependencyDepth`: how far a field's chains of dependencies reach. A chain never visits a
field twice, which bounds `fuel`. -/
def dependencyDepth (kindSchema : SelectorKind) : Nat → List String → SelectorField → Nat
  | 0, _, _ => 0
  | fuel + 1, visiting, field =>
    if field.name.val ∈ visiting then 0
    else
      let dependencies := field.dependsOn.filterMap kindSchema.field?
      if dependencies.isEmpty then 0
      else 1 + (dependencies.map
        (dependencyDepth kindSchema fuel (field.name.val :: visiting))).foldl max 0

def suggestedTargetLabel (selector : JsonObject) (states : String → Option Discovery)
    (kindSchema : SelectorKind) : String :=
  let fields := kindSchema.fields
  let selections := fields.zipIdx.filterMap fun (field, index) =>
    (targetOptionLabel selector states field).bind fun label =>
      if label = "" then none
      else some (dependencyDepth kindSchema (fields.length + 1) [] field, index, label)
  let sorted := selections.mergeSort fun left right =>
    right.1 < left.1 || (left.1 == right.1 && left.2.1 ≤ right.2.1)
  if !sorted.isEmpty then ", ".intercalate (sorted.map (·.2.2))
  else if fields.isEmpty then kindSchema.label.val
  else ""

/-- How many UTF-16 units a character takes. -/
def units (c : Char) : Nat := if c.val < 0x10000 then 1 else 2

/-- `text.length`. -/
def unitLength (text : String) : Nat := (text.toList.map units).sum

/-- `text.slice(0, n)`, which counts UTF-16 units. -/
def sliceUnits : Nat → List Char → List Char
  | _, [] => []
  | n, c :: cs => if units c ≤ n then c :: sliceUnits (n - units c) cs else []

def isAliasCharacter (c : Char) : Bool := c.isLower || c.isDigit

/-- `text.replace(/[^a-z0-9]+/g, "_")`. -/
def joinWords : List Char → List Char
  | [] => []
  | [c] => [if isAliasCharacter c then c else '_']
  | c :: d :: cs =>
    if isAliasCharacter c then c :: joinWords (d :: cs)
    else if isAliasCharacter d then '_' :: joinWords (d :: cs)
    else joinWords (d :: cs)

def isUnderscore (c : Char) : Bool := c == '_'

/-- `text.replace(/_+$/g, "")`. -/
def trimEnd (cs : List Char) : List Char := (cs.reverse.dropWhile isUnderscore).reverse

def normalizedAlias (tables : TextTables) (value : String) : String :=
  let ascii := (tables.nfkd value).toList.filter fun c => c.val < 0x300 || 0x36f < c.val
  let joined := joinWords (tables.toLowerCase (String.ofList ascii)).toList
  let trimmed := trimEnd (joined.dropWhile isUnderscore)
  let named := if trimmed.isEmpty then "target".toList else trimmed
  let headed :=
    if named.head?.any Char.isLower then named else "target_".toList ++ named
  let clipped := trimEnd (headed.take 32)
  if clipped.isEmpty then "target" else String.ofList clipped

/-- The candidate of `uniqueAlias` that ends in this number. -/
def numberedAlias (base : String) (sequence : Nat) : String :=
  let suffix := "_" ++ toString sequence
  String.ofList (trimEnd (base.toList.take (32 - suffix.length))) ++ suffix

/-- `uniqueAlias`, given the aliases of the other targets. One of the first candidates is free,
as many as there are aliases in use and one more, which bounds the search. -/
def uniqueAlias (tables : TextTables) (others : List String) (label : String) : String :=
  let used := "recommended" :: others.filter (· ≠ "")
  let base := normalizedAlias tables label
  if base ∉ used then base
  else (((List.range' 2 (used.length + 1)).map (numberedAlias base)).find? (· ∉ used)).getD base

end Snarkypuss.Dashboard
