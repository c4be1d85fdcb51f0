import Snarkypuss.Dashboard.Editor

/-!
# A session of the destination editor

The editor, the server whose catalogue it edits, and everything that can happen to them: what the
user does, the answers that arrive in any order, late or never, and the commits of other sessions.

## Main definitions

* `Edit`, `Editor.edit`: the controls of the editor
* `Editor.optionsReply`, `catalogueReply`, `replacementReply`, `targetsReply`: the continuations
* `Service`: the server's schema, its normal forms and the catalogue it starts with
* `Page`, `Action`, `Page.step`, `Page.run`: the session as a transition system
-/

namespace Snarkypuss.Dashboard

/-- What the user can do with a card of the editor, named by its position, or with the list. -/
inductive Edit
  | setAlias (index : Nat) (value : String)
  | setLabel (index : Nat) (value : String)
  | selectKind (index : Nat) (kind : String)
  | input (index : Nat) (field : String) (value : JsonScalar)
  | moveUp (index : Nat)
  | moveDown (index : Nat)
  | remove (index : Nat)
  | add

/-- Exchanges two elements. -/
def swap (rs : List Ref) (i j : Nat) : List Ref :=
  match rs[i]?, rs[j]? with
  | some a, some b => (rs.set i b).set j a
  | _, _ => rs

namespace Editor

variable (tables : TextTables)

/-! ## Controls -/

def setTargets (e : Editor) (targets : List Ref) : Editor :=
  { e with editableCatalogue := e.editableCatalogue.map fun editable =>
      { editable with targets := targets } }

/-- The listener of the "Target type" control. -/
def selectKind (e : Editor) (r : Ref) (kindSchema : SelectorKind) : Editor :=
  let target := e.target r
  let changed := e.setTarget r { target with selector := selectorDefaults kindSchema }
  let forgotten := { changed with
    discoveryState := Function.update changed.discoveryState r (fun _ => none) }
  (forgotten.updateAutoMetadata tables r kindSchema).renderEditor

/-- The options of the type control: a new destination is not offered the legacy type. -/
def offersKind (e : Editor) (r : Ref) (kind : String) : Bool :=
  kind ≠ "recommended" && !(e.isDraft r && kind = "legacy")

/-- A control of a provider-backed field takes one of the options it shows, and none while they
are not there. Any other control takes any value. -/
def offersValue (e : Editor) (r : Ref) (field : SelectorField) (value : JsonScalar) : Bool :=
  if isProviderChoice field then
    dependenciesHaveValues (e.target r).selector field &&
      (e.discoveryState r field.name.val).any fun state =>
        state.status = .ready && state.options.any fun option => value = .str option.value.val
  else true

/-- The listener of a field's control. -/
def inputField (e : Editor) (r : Ref) (kindSchema : SelectorKind) (field : SelectorField)
    (value : JsonScalar) : Editor :=
  let target := e.target r
  let cells := changeField kindSchema field.name.val value target.selector (e.discoveryState r)
  let changed := { e.setTarget r { target with selector := cells.1 } with
    discoveryState := Function.update e.discoveryState r cells.2 }
  let named := changed.updateAutoMetadata tables r kindSchema
  if isProviderChoice field ||
      kindSchema.fields.any (fun other => field.name.val ∈ other.dependsOn) then
    named.renderEditor
  else named

def addDestination (e : Editor) : Editor :=
  if 100 ≤ e.editing.length || e.newDestinationDraft.isSome || e.hasUnfinishedDestination then e
  else
    let created := e.setTarget e.next ⟨"", "", Dict.empty.insert "kind" (.str "")⟩
    let drafted := { created.setTargets (e.editing ++ [e.next]) with
      newDestinationDraft := some e.next
      autoLabelTargets := e.autoLabelTargets ++ [e.next]
      autoAliasTargets := e.autoAliasTargets ++ [e.next]
      next := e.next + 1 }
    drafted.renderEditor

/-- What the controls do. All of them are disabled while the manager is busy. -/
def edit (e : Editor) : Edit → Editor
  | .setAlias index value =>
    match e.managerBusy, e.editing[index]? with
    | false, some r =>
      { e.setTarget r { e.target r with «alias» := value } with
        autoAliasTargets := e.autoAliasTargets.filter (· ≠ r) }
    | _, _ => e
  | .setLabel index value =>
    match e.managerBusy, e.editing[index]? with
    | false, some r =>
      { e.setTarget r { e.target r with label := value } with
        autoLabelTargets := e.autoLabelTargets.filter (· ≠ r) }
    | _, _ => e
  | .selectKind index kind =>
    match e.managerBusy, e.editing[index]?, e.targetSchema with
    | false, some r, some schema =>
      match schema.selectorKinds.find? (·.kind.val = kind) with
      | some kindSchema =>
        if e.offersKind r kind then e.selectKind tables r kindSchema else e
      | none => e
    | _, _, _ => e
  | .input index field value =>
    match e.managerBusy, e.editing[index]?, e.targetSchema with
    | false, some r, some schema =>
      match selectedKind schema (e.target r).selector with
      | some kindSchema =>
        match kindSchema.field? field with
        | some field =>
          if e.offersValue r field value then e.inputField tables r kindSchema field value else e
        | none => e
      | none => e
    | _, _, _ => e
  | .moveUp index =>
    match e.managerBusy, index with
    | false, above + 1 => (e.setTargets (swap e.editing (above + 1) above)).renderEditor
    | _, _ => e
  | .moveDown index =>
    if e.managerBusy then e else (e.setTargets (swap e.editing index (index + 1))).renderEditor
  | .remove index =>
    match e.managerBusy, e.editing[index]? with
    | false, some r =>
      { e.setTargets (e.editing.eraseIdx index) with
        newDestinationDraft := if e.isDraft r then none else e.newDestinationDraft }.renderEditor
    | _, _ => e
  | .add =>
    match e.managerBusy, e.targetSchema, e.editableCatalogue with
    | false, some _, some _ => e.addDestination
    | _, _, _ => e

/-! ## Continuations -/

/-- Whether a request is the one that the field's present state has made. -/
def isCurrent (e : Editor) (request : OptionsRequest) : Bool :=
  (e.discoveryState request.target request.field.name.val).any (·.id = request.state)

/-- The rest of `loadProviderOptions`, for a response with these options or without any. -/
def optionsReply (e : Editor) (request : OptionsRequest) (reply : Option (List TargetOption)) :
    Editor :=
  let r := request.target
  let field := request.field.name.val
  let received := { e with
    discoveries := e.discoveries.filter fun other => other.state ≠ request.state }
  match received.discoveryState r field with
  | none => received
  | some state =>
    if state.id ≠ request.state then received
    else
      match reply with
      | none =>
        (received.setState r field (some { state with status := .error, options := [] })).renderEditor
      | some options =>
        let ready := received.setState r field (some { state with status := .ready, options })
        let named := ready.updateAutoMetadata tables r request.kindSchema
        let value := (named.target r).selector.get? field
        if hasValue value && !offers options value then
          let removing := named.setState r field (some { state with status := .removing, options })
          let queued := removing.queueUnavailableTarget r
          if queued.isCurrent request then queued.renderEditor else queued
        else named.renderEditor

/-- The `finally` of a save or a cleanup. A cleanup starts over if more has been queued. -/
def finish (e : Editor) : Purpose → Editor
  | .save => { e with managerBusy := false }.renderEditor
  | .cleanup .. =>
    { e with managerBusy := false, cleanupInProgress := false }.renderEditor.cleanupUnavailableTargets

/-- The rest of `loadManager`. -/
def catalogueReply (e : Editor) (reply : Option (ProviderTargetSchema × TargetCatalogue)) : Editor :=
  match reply with
  | some (schema, payload) =>
    { { e with targetSchema := some schema }.adoptCommittedCatalogue payload with
      managerLoaded := true
      managerBusy := false }.renderEditor
  | none => { e with managerLoaded := false, managerBusy := false }.renderEditor

/-- The rest of a `PUT`: the server's new catalogue, or any failure. -/
def replacementReply (e : Editor) (purpose : Purpose) (reply : Option TargetCatalogue) : Editor :=
  match reply, purpose with
  | none, _ => e.finish purpose
  | some payload, .save =>
    let adopted := e.adoptCommittedCatalogue payload
    { adopted with awaited := adopted.awaited ++ [.targets .save] }
  | some payload, .cleanup removing editableTargets =>
    { e with
      committedCatalogue := some payload
      editableCatalogue := some ⟨payload.provider, payload.revision, editableTargets⟩
      awaited := e.awaited ++ [.targets (.cleanup removing editableTargets)] }

end Editor

/-! ## The server -/

/-- The targets of a catalogue in their normal forms. -/
def Normal (normalise : JsonObject → Option JsonObject) (catalogue : TargetCatalogue) : Prop :=
  ∀ target ∈ catalogue.targets, normalise target.selector = some target.selector

/-- The service behind the page. It stores selectors in a normal form, which is its own normal
form, and the key `kind` of its selectors is not the name of a field. -/
structure Service where
  schema : ProviderTargetSchema
  kind_reserved : ∀ kind ∈ schema.selectorKinds, ∀ field ∈ kind.fields, field.name.val ≠ "kind"
  normalise : JsonObject → Option JsonObject
  normalise_normal : ∀ selector normal, normalise selector = some normal →
    normalise normal = some normal
  initial : TargetCatalogue
  initial_normal : Normal normalise initial

namespace Service

/-- The stored form of a target of a replacement. -/
def store (service : Service) (target : RequestTarget) : Option StoredTarget :=
  (service.normalise target.selector).bind fun selector =>
    (StoredTarget.validate target.alias target.label target.position selector).toOption

/-- The catalogue after a replacement, which the server takes at its current revision only. -/
def accept (service : Service) (current : TargetCatalogue) (body : CatalogueReplacement) :
    Option TargetCatalogue :=
  if body.provider = current.provider.val ∧ body.expectedRevision = current.revision then
    (body.targets.mapM service.store).bind fun targets =>
      (TargetCatalogue.validate current.provider.val (current.revision + 1) targets).toOption
  else none

end Service

/-! ## The session -/

/-- The page and the server: the catalogues that have been committed, the last one first, and the
options that the provider has returned. -/
structure Page where
  editor : Editor := {}
  committed : List TargetCatalogue
  returned : List (OptionsRequest × List TargetOption) := []

inductive Action
  /-- The user works on the list. -/
  | edit (edit : Edit)
  /-- The user opens the manager or reloads the catalogue. -/
  | load
  /-- The user saves. -/
  | save
  /-- Options arrive, or the request for them fails. -/
  | options (index : Nat) (reply : Option (List TargetOption))
  /-- The server handles a replacement, or fails to. -/
  | serve (index : Nat) (refused : Bool)
  /-- What the server has answered to a replacement arrives, or the request fails. -/
  | replaced (index : Nat) (lost : Bool)
  /-- The catalogue arrives as it was this many commits ago, or the request fails. -/
  | catalogue (index : Nat) (reply : Option Nat)
  /-- `loadTargets` has finished. -/
  | targets (index : Nat)
  /-- Another session replaces the catalogue. -/
  | otherSession (targets : List RequestTarget)

namespace Page

variable (tables : TextTables) (service : Service)

/-- What is awaited, with one entry less. -/
def settle (e : Editor) (index : Nat) : Editor :=
  { e with awaited := e.awaited.eraseIdx index }

/-- The server's catalogue after a replacement. -/
def commit (p : Page) (body : CatalogueReplacement) : Option TargetCatalogue :=
  p.committed.head?.bind (service.accept · body)

def step (p : Page) : Action → Page
  | .edit edit => { p with editor := p.editor.edit tables edit }
  | .load => { p with editor := p.editor.loadManager }
  | .save => { p with editor := p.editor.saveManager }
  | .options index reply =>
    match p.editor.discoveries[index]? with
    | some request =>
      { p with
        editor := p.editor.optionsReply tables request reply
        returned := reply.toList.map (request, ·) ++ p.returned }
    | none => p
  | .serve index refused =>
    match p.editor.awaited[index]? with
    | some (.replacement purpose body none) =>
      let answer := if refused then none else p.commit service body
      { p with
        editor := { p.editor with
          awaited := p.editor.awaited.set index (.replacement purpose body (some answer)) }
        committed := answer.toList ++ p.committed }
    | _ => p
  | .replaced index lost =>
    match p.editor.awaited[index]? with
    | some (.replacement purpose _ answer) =>
      if lost then
        { p with editor := (settle p.editor index).replacementReply purpose none }
      else
        match answer with
        | some reply => { p with editor := (settle p.editor index).replacementReply purpose reply }
        | none => p
    | _ => p
  | .catalogue index reply =>
    match p.editor.awaited[index]? with
    | some .catalogue =>
      let read := reply.bind fun ago => p.committed[ago]?
      { p with editor := (settle p.editor index).catalogueReply (read.map (service.schema, ·)) }
    | _ => p
  | .targets index =>
    match p.editor.awaited[index]? with
    | some (.targets purpose) => { p with editor := (settle p.editor index).finish purpose }
    | _ => p
  | .otherSession targets =>
    match p.committed.head? with
    | some current =>
      { p with committed :=
          (service.accept current ⟨current.provider.val, current.revision, targets⟩).toList ++
            p.committed }
    | none => p

/-- The session before the manager is opened. -/
def initial : Page := { committed := [service.initial] }

/-- Any sequence of happenings. -/
def run (actions : List Action) : Page := actions.foldl (step tables service) (initial service)

end Page

end Snarkypuss.Dashboard
