import Snarkypuss.Dashboard.Metadata

/-!
# The destination editor of the dashboard

The part of the dashboard script that edits the catalogue. Objects of the page are numbered; the
weak maps of the script are functions of these numbers. What the script awaits is held in the
state, so that the answers may arrive in any order.

## Main definitions

* `Editor`: the variables of the script, the objects they refer to and what is awaited
* `clearDependentFields`, `ensureProviderOptions`, `renderEditor`: discovery of options
* `queueUnavailableTarget`, `cleanupUnavailableTargets`: the automatic cleanup
* `adoptCommittedCatalogue`, `loadManager`, `saveManager`: loading and saving
* `Edit`: what the controls of the editor do
* `optionsReply`, `replacementReply`, `catalogueReply`, `targetsReply`: the continuations
-/

namespace Snarkypuss.Dashboard

/-- The number of an object of the page. -/
abbrev Ref := Nat

structure EditorTarget where
  «alias» : String
  label : String
  selector : JsonObject
  deriving DecidableEq

instance : Inhabited EditorTarget := ⟨⟨"", "", Dict.empty⟩⟩

/-- A committed target as the script holds it. -/
def EditorTarget.ofStored (target : StoredTarget) : EditorTarget where
  «alias» := target.alias.val
  label := target.label.val
  selector := target.selector

structure EditableCatalogue where
  provider : Identifier
  revision : Nat
  targets : List Ref

/-- A request of `loadProviderOptions`, with what its continuation captures. -/
structure OptionsRequest where
  state : Nat
  target : Ref
  kindSchema : SelectorKind
  field : SelectorField
  context : List (String × Option JsonScalar)

structure RequestTarget where
  «alias» : String
  label : String
  position : Nat
  selector : JsonObject
  deriving DecidableEq

/-- The body of a `PUT` of `replaceCatalogueTargets`. -/
structure CatalogueReplacement where
  provider : String
  expectedRevision : Nat
  targets : List RequestTarget
  deriving DecidableEq

/-- Who replaces the catalogue, with what its continuation captures. -/
inductive Purpose
  | save
  | cleanup (removing editableTargets : List Ref)
  deriving DecidableEq

/-- What the script awaits: the two requests of `loadManager`, a `PUT` with what the server has
answered to it so far, or the `loadTargets` that follows one. -/
inductive Awaited
  | catalogue
  | replacement (purpose : Purpose) (body : CatalogueReplacement)
      (answer : Option (Option TargetCatalogue))
  | targets (purpose : Purpose)
  deriving DecidableEq

structure Editor where
  managerLoaded : Bool := false
  managerBusy : Bool := false
  cleanupInProgress : Bool := false
  targetSchema : Option ProviderTargetSchema := none
  editableCatalogue : Option EditableCatalogue := none
  committedCatalogue : Option TargetCatalogue := none
  newDestinationDraft : Option Ref := none
  target : Ref → EditorTarget := fun _ => default
  discoveryState : Ref → String → Option Discovery := fun _ _ => none
  autoLabelTargets : List Ref := []
  autoAliasTargets : List Ref := []
  targetIdentity : Ref → Option String := fun _ => none
  unavailableTargets : List Ref := []
  discoveries : List OptionsRequest := []
  awaited : List Awaited := []
  /-- The number of the next object. -/
  next : Nat := 0

namespace Editor

variable (tables : TextTables)

/-- The targets of the edited catalogue. -/
def editing (e : Editor) : List Ref := (e.editableCatalogue.map (·.targets)).getD []

def isDraft (e : Editor) (r : Ref) : Bool := e.newDestinationDraft = some r

/-! ## Objects -/

def setTarget (e : Editor) (r : Ref) (target : EditorTarget) : Editor :=
  { e with target := Function.update e.target r target }

def setState (e : Editor) (r : Ref) (field : String) (state : Option Discovery) : Editor :=
  { e with discoveryState :=
      Function.update e.discoveryState r (Function.update (e.discoveryState r) field state) }

def cloneEditableTarget (e : Editor) (target : StoredTarget) : Editor :=
  { e with
    target := Function.update e.target e.next (.ofStored target)
    targetIdentity := Function.update e.targetIdentity e.next (some target.alias.val)
    next := e.next + 1 }

def adoptCommittedCatalogue (e : Editor) (payload : TargetCatalogue) : Editor :=
  let cloned := payload.targets.foldl cloneEditableTarget e
  { cloned with
    committedCatalogue := some payload
    editableCatalogue := some
      ⟨payload.provider, payload.revision, List.range' e.next payload.targets.length⟩
    newDestinationDraft := none }

/-! ## Labels and aliases -/

def updateAutoLabel (e : Editor) (r : Ref) (kindSchema : SelectorKind) : Editor :=
  if r ∈ e.autoLabelTargets then
    let target := e.target r
    let label := suggestedTargetLabel target.selector (e.discoveryState r) kindSchema
    e.setTarget r { target with label := String.ofList (sliceUnits 100 label.toList) }
  else e

def updateAutoAlias (e : Editor) (r : Ref) (kindSchema : SelectorKind) : Editor :=
  if r ∈ e.autoAliasTargets then
    let target := e.target r
    let label := suggestedTargetLabel target.selector (e.discoveryState r) kindSchema
    let others := (e.editing.filter (· ≠ r)).map fun other => (e.target other).alias
    e.setTarget r { target with «alias» := if label = "" then "" else uniqueAlias tables others label }
  else e

def updateAutoMetadata (e : Editor) (r : Ref) (kindSchema : SelectorKind) : Editor :=
  (e.updateAutoLabel r kindSchema).updateAutoAlias tables r kindSchema

/-! ## Discovery -/

/-- `clearDependentFields`, on the selector and the discovery states of one target. A chain of
dependents never repeats a field, which bounds `fuel`. -/
def clearDependentFields (kindSchema : SelectorKind) :
    Nat → String → JsonObject × (String → Option Discovery) →
      JsonObject × (String → Option Discovery)
  | 0, _, cells => cells
  | fuel + 1, changedField, cells =>
    kindSchema.fields.foldl
      (fun cells field =>
        if changedField ∈ field.dependsOn then
          clearDependentFields kindSchema fuel field.name.val
            (cells.1.insert field.name.val (fieldDefault field),
              Function.update cells.2 field.name.val none)
        else cells)
      cells

/-- What an input of a field's control does to the selector and the states of a target. -/
def changeField (kindSchema : SelectorKind) (field : String) (value : JsonScalar)
    (selector : JsonObject) (states : String → Option Discovery) :
    JsonObject × (String → Option Discovery) :=
  clearDependentFields kindSchema (kindSchema.fields.length + 1) field
    (selector.insert field value, states)

/-- `ensureProviderOptions`, and the request of `loadProviderOptions` that it starts. -/
def ensureProviderOptions (e : Editor) (r : Ref) (kindSchema : SelectorKind)
    (field : SelectorField) : Editor :=
  let selector := (e.target r).selector
  if !dependenciesHaveValues selector field then e
  else
    let context := discoveryContext selector field
    if (e.discoveryState r field.name.val).any (·.contextKey = context) then e
    else
      { e.setState r field.name.val (some ⟨e.next, context, .loading, []⟩) with
        discoveries := e.discoveries ++ [⟨e.next, r, kindSchema, field, context⟩]
        next := e.next + 1 }

/-- What `renderEditor` does for one target: its provider-backed controls ask for options. -/
def renderTarget (schema : ProviderTargetSchema) (e : Editor) (r : Ref) : Editor :=
  match selectedKind schema (e.target r).selector with
  | some kindSchema =>
    (kindSchema.fields.filter isProviderChoice).foldl
      (fun e field => e.ensureProviderOptions r kindSchema field) e
  | none => e

def renderEditor (e : Editor) : Editor :=
  match e.editableCatalogue, e.targetSchema with
  | some editable, some schema => editable.targets.foldl (renderTarget schema) e
  | _, _ => e

/-! ## Replacing the catalogue -/

def catalogueTargetsForRequest (targets : List EditorTarget) : List RequestTarget :=
  targets.mapIdx fun position target => ⟨target.alias, target.label, position, target.selector⟩

/-- `replaceCatalogueTargets`, up to its first `await`. -/
def replaceCatalogueTargets (e : Editor) (committed : TargetCatalogue) (purpose : Purpose)
    (targets : List EditorTarget) : Editor :=
  { e with awaited := e.awaited ++ [.replacement purpose
      ⟨committed.provider.val, committed.revision, catalogueTargetsForRequest targets⟩ none] }

/-- `targetIdentity.get(target) || target.alias`. -/
def identity (e : Editor) (r : Ref) : String :=
  match e.targetIdentity r with
  | some name => if name = "" then (e.target r).alias else name
  | none => (e.target r).alias

/-- `cleanupUnavailableTargets`, up to its first `await`. -/
def cleanupUnavailableTargets (e : Editor) : Editor :=
  if e.cleanupInProgress || e.managerBusy || !e.managerLoaded || e.unavailableTargets.isEmpty then e
  else
    match e.committedCatalogue, e.editableCatalogue with
    | some committed, some editable =>
      let removing := e.unavailableTargets.filter (· ∈ editable.targets)
      let cleared := { e with unavailableTargets := [] }
      if removing.isEmpty then cleared
      else
        let removedAliases := removing.map e.identity
        let committedTargets := committed.targets.filter (·.alias.val ∉ removedAliases)
        if committedTargets.isEmpty then cleared
        else
          let editableTargets := editable.targets.filter (· ∉ removing)
          let busy := { cleared with cleanupInProgress := true, managerBusy := true }
          busy.renderEditor.replaceCatalogueTargets committed (.cleanup removing editableTargets)
            (committedTargets.map .ofStored)
    | _, _ => e

def queueUnavailableTarget (e : Editor) (r : Ref) : Editor :=
  if r ∉ e.editing ∨ e.isDraft r then e
  else
    let queue := if r ∈ e.unavailableTargets then e.unavailableTargets
      else e.unavailableTargets ++ [r]
    { e with unavailableTargets := queue }.cleanupUnavailableTargets

/-! ## Loading and saving -/

/-- `loadManager`, up to its first `await`. -/
def loadManager (e : Editor) : Editor :=
  if e.managerBusy then e
  else
    let busy := { e with managerBusy := true }.renderEditor
    { busy with awaited := busy.awaited ++ [.catalogue] }

def isBlankCharacter (c : Char) : Bool :=
  let n := c.val.toNat
  (9 ≤ n && n ≤ 13) || (0x2000 ≤ n && n ≤ 0x200a) ||
    n ∈ [0x20, 0xa0, 0x1680, 0x2028, 0x2029, 0x202f, 0x205f, 0x3000, 0xfeff]

/-- `text.trim() === ""`. -/
def isBlank (text : String) : Bool := text.toList.all isBlankCharacter

def hasUnfinishedDestination (e : Editor) : Bool :=
  e.editing.any fun r => isBlank (e.target r).alias || isBlank (e.target r).label

/-- The check that `validateEditor` makes of one field. -/
def validateField (name : String) (selector : JsonObject) (states : String → Option Discovery)
    (field : SelectorField) : Option String :=
  let value := selector.get? field.name.val
  let missing := !hasValue value
  let blank := value = some (.str "")
  if field.required && missing then
    some ("Destination " ++ name ++ " requires " ++ field.label.val ++ ".")
  else if field.fieldType = .choice && field.optionSource ≠ .provider && !blank &&
      !field.choices.any (fun choice => value = some (.str choice)) then
    some ("Destination " ++ name ++ " has an invalid " ++ field.label.val ++ " value.")
  else if !isProviderChoice field then none
  else if !dependenciesHaveValues selector field then
    some ("Destination " ++ name ++ " requires dependencies for " ++ field.label.val ++ ".")
  else
    match states field.name.val with
    | none => some ("Destination " ++ name ++ " is still loading " ++ field.label.val ++ " options.")
    | some state =>
      if state.status = .loading then
        some ("Destination " ++ name ++ " is still loading " ++ field.label.val ++ " options.")
      else if state.status = .error then
        some ("Destination " ++ name ++ " cannot load " ++ field.label.val ++ " options.")
      else if !blank && !offers state.options value then
        some ("Destination " ++ name ++ " has a stale " ++ field.label.val ++ " value.")
      else none

/-- The checks that `validateEditor` makes of one target, given the aliases before it. -/
def validateTarget (e : Editor) (schema : ProviderTargetSchema) (before : List String) (r : Ref) :
    Option String :=
  let target := e.target r
  if !matchesPattern Char.isLower isLowerTail 31 target.alias then
    some ("Invalid alias: " ++ if target.alias = "" then "(empty)" else target.alias)
  else if target.alias ∈ before then some ("Duplicate alias: " ++ target.alias)
  else if target.label = "" ∨ 100 < unitLength target.label then
    some ("Destination " ++ target.alias ++ " requires a label of at most 100 characters.")
  else
    match selectedKind schema target.selector with
    | none => some ("Destination " ++ target.alias ++ " has an unsupported target type.")
    | some kind =>
      kind.fields.findSome? (validateField target.alias target.selector (e.discoveryState r))

def validateTargets (e : Editor) (schema : ProviderTargetSchema) :
    List String → List Ref → Option String
  | _, [] => none
  | before, r :: rs =>
    (e.validateTarget schema before r).or
      (e.validateTargets schema ((e.target r).alias :: before) rs)

def validateEditor (e : Editor) (schema : ProviderTargetSchema) : Option String :=
  if e.editing.isEmpty then some "The catalogue must contain at least one destination."
  else e.validateTargets schema [] e.editing

/-- `saveManager`, up to its first `await`. -/
def saveManager (e : Editor) : Editor :=
  if !e.managerLoaded || e.managerBusy then e
  else
    match e.committedCatalogue, e.targetSchema with
    | some committed, some schema =>
      if (e.validateEditor schema).isSome then e
      else
        let busy := { e with managerBusy := true }.renderEditor
        busy.replaceCatalogueTargets committed .save (busy.editing.map busy.target)
    | _, _ => e

end Editor

end Snarkypuss.Dashboard
