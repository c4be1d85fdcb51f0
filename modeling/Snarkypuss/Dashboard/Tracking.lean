import Snarkypuss.Dashboard.Dependents
import Snarkypuss.Dashboard.Session

/-!
# What the editor knows of a committed value

The options of a field arrive while its target may be edited. A value that the editor still has to
check against options is the committed one: an edit of a field it depends on clears it, and a value
the user has chosen comes from options that have arrived.

## Main definitions

* `Pristine`: a field of an edited selector, and what its options depend on, are as committed
* `Tracked`: every value of a provider-backed field is pristine or chosen from options
* `Discovers`: the targets are tracked, and a request in flight is for the present selection

## Main results

* `Tracked.changeField`, `Tracked.defaults`: the edits of a selector keep it tracked
* `Discovers.renderEditor`: so does asking for options
-/

namespace Snarkypuss.Dashboard

/-- The options that the field asks for, and the value that is looked for in them, are those of
the committed selector. -/
structure Pristine (stored edited : JsonObject) (field : SelectorField) : Prop where
  kind : edited.get? "kind" = stored.get? "kind"
  value : edited.get? field.name.val = stored.get? field.name.val
  context : discoveryContext edited field = discoveryContext stored field

/-- Where a provider-backed field has a state, it is for the present dependencies; where it has a
value, the value is the committed one or its options are there. -/
structure TrackedField (stored : JsonObject) (cells : Cells) (field : SelectorField) : Prop where
  context : ∀ state, cells.2 field.name.val = some state →
    state.contextKey = discoveryContext cells.1 field
  value : hasValue (cells.1.get? field.name.val) →
    Pristine stored cells.1 field ∨
      ∃ state, cells.2 field.name.val = some state ∧ state.status = .ready

def Tracked (schema : ProviderTargetSchema) (stored : JsonObject) (cells : Cells) : Prop :=
  ∀ kind, selectedKind schema cells.1 = some kind →
    ∀ field ∈ kind.fields, isProviderChoice field → TrackedField stored cells field

/-! ## Edits of a selector -/

theorem selectedKind_mem {schema : ProviderTargetSchema} {selector : JsonObject}
    {kind : SelectorKind} (h : selectedKind schema selector = some kind) :
    kind ∈ schema.selectorKinds ∧ selector.get? "kind" = some (.str kind.kind.val) := by
  unfold selectedKind at h
  split at h
  · rename_i name hname
    refine ⟨List.mem_of_find?_eq_some h, ?_⟩
    have hkind : kind.kind.val = name := by simpa using List.find?_some h
    rw [hname, hkind]
  · cases h

theorem selectedKind_congr (schema : ProviderTargetSchema) {a b : JsonObject}
    (h : a.get? "kind" = b.get? "kind") : selectedKind schema a = selectedKind schema b := by
  unfold selectedKind
  rw [h]

theorem fieldDefault_of_provider {field : SelectorField} (h : isProviderChoice field) :
    fieldDefault field = .str "" := by
  simp only [isProviderChoice, Bool.and_eq_true, decide_eq_true_eq] at h
  unfold fieldDefault
  rw [h.1, h.2]

theorem isProviderChoice_source {field : SelectorField} (h : isProviderChoice field) :
    field.optionSource = .provider := by
  simp only [isProviderChoice, Bool.and_eq_true, decide_eq_true_eq] at h
  exact h.2

theorem discoveryContext_congr {a b : JsonObject} {field : SelectorField}
    (h : ∀ name ∈ field.dependsOn, a.get? name = b.get? name) :
    discoveryContext a field = discoveryContext b field := by
  unfold discoveryContext
  apply List.map_congr_left
  intro name hname
  rw [h name hname]

/-- An input does not change the type of a target. -/
theorem changeField_kind {schema : ProviderTargetSchema} {cells : Cells} (value : JsonScalar)
    (hreserved : ∀ kind ∈ schema.selectorKinds, ∀ field ∈ kind.fields, field.name.val ≠ "kind")
    {kind : SelectorKind} (hkind : selectedKind schema cells.1 = some kind)
    {changed : SelectorField} (hchanged : changed ∈ kind.fields) :
    (Editor.changeField kind changed.name.val value cells.1 cells.2).1.get? "kind" =
      cells.1.get? "kind" := by
  have hmem := (selectedKind_mem hkind).1
  have hfar : ¬ kind.Reaches "kind" changed.name.val := by
    intro hreaches
    obtain ⟨field, hfield⟩ := hreaches.exists_field
    obtain ⟨hfield, hname⟩ := SelectorKind.mem_of_field? hfield
    exact hreserved kind hmem field hfield hname
  rw [((changeField_cleared kind changed.name.val value cells.1 cells.2).kept _ hfar).1]
  simp [Dict.get?_insert, (hreserved kind hmem changed hchanged).symm]

theorem get?_foldl_defaults_of_notMem {fields : List SelectorField} {d : JsonObject} {x : String}
    (h : ∀ field ∈ fields, field.name.val ≠ x) :
    (fields.foldl (fun selector field => selector.insert field.name.val (fieldDefault field)) d).get?
      x = d.get? x := by
  induction fields generalizing d with
  | nil => rfl
  | cons field fields ih =>
    rw [List.foldl_cons, ih fun f hf => h f (List.mem_cons_of_mem _ hf)]
    simp [Dict.get?_insert, (h field List.mem_cons_self).symm]

theorem get?_defaults_field {kind : SelectorKind} {field : SelectorField}
    (h : field ∈ kind.fields) :
    (selectorDefaults kind).get? field.name.val = some (fieldDefault field) := by
  have hnodup := kind.nodup_names
  unfold selectorDefaults
  generalize Dict.empty.insert "kind" (JsonScalar.str kind.kind.val) = d
  generalize kind.fields = fields at h hnodup
  induction fields generalizing d with
  | nil => cases h
  | cons f fs ih =>
    rw [List.map_cons, List.nodup_cons] at hnodup
    rw [List.foldl_cons]
    rcases List.mem_cons.mp h with rfl | h
    · rw [get?_foldl_defaults_of_notMem]
      · simp [Dict.get?_insert]
      · intro g hg hname
        exact hnodup.1 (hname ▸ List.mem_map_of_mem hg)
    · exact ih _ h hnodup.2

theorem selectedKind_defaults {schema : ProviderTargetSchema}
    (hreserved : ∀ kind ∈ schema.selectorKinds, ∀ field ∈ kind.fields, field.name.val ≠ "kind")
    {name : String} {kind : SelectorKind}
    (hkind : schema.selectorKinds.find? (·.kind.val = name) = some kind) :
    selectedKind schema (selectorDefaults kind) = some kind := by
  have hname : kind.kind.val = name := by simpa using List.find?_some hkind
  have hvalue : (selectorDefaults kind).get? "kind" = some (.str kind.kind.val) := by
    unfold selectorDefaults
    rw [get?_foldl_defaults_of_notMem (hreserved kind (List.mem_of_find?_eq_some hkind))]
    simp [Dict.get?_insert]
  unfold selectedKind
  rw [hvalue]
  dsimp only
  rw [hname]
  exact hkind

namespace Tracked

variable {schema : ProviderTargetSchema} {stored : JsonObject} {cells : Cells}

/-- A copy of a committed target. -/
theorem clone (schema : ProviderTargetSchema) (stored : JsonObject) :
    Tracked schema stored (stored, fun _ => none) := by
  intro kind _ field _ _
  refine ⟨?_, fun _ => .inl ⟨rfl, rfl, rfl⟩⟩
  intro state h
  cases h

/-- An input clears the fields that depend on the changed one, so that the others keep what they
depend on. A provider-backed field takes a value only from options that are there. -/
theorem changeField (h : Tracked schema stored cells)
    (hreserved : ∀ kind ∈ schema.selectorKinds, ∀ field ∈ kind.fields, field.name.val ≠ "kind")
    {kind : SelectorKind} (hkind : selectedKind schema cells.1 = some kind)
    {changed : SelectorField} (hchanged : changed ∈ kind.fields) {value : JsonScalar}
    (hready : isProviderChoice changed →
      ∃ state, cells.2 changed.name.val = some state ∧ state.status = .ready) :
    Tracked schema stored (Editor.changeField kind changed.name.val value cells.1 cells.2) := by
  have hcleared := changeField_cleared kind changed.name.val value cells.1 cells.2
  have hsame := changeField_kind value hreserved hkind hchanged
  generalize Editor.changeField kind changed.name.val value cells.1 cells.2 = cells'
    at hcleared hsame ⊢
  intro kind' hkind' field hfield hprovider
  obtain rfl : kind = kind' := by
    rw [selectedKind_congr schema hsame, hkind] at hkind'
    exact Option.some.inj hkind'
  have htracked := h kind hkind field hfield hprovider
  by_cases hreaches : kind.Reaches field.name.val changed.name.val
  · -- the field is blank and has no state
    obtain ⟨hvalue, hstate⟩ := hcleared.reset _ hreaches
    refine ⟨fun state hsome => ?_, fun hhas => ?_⟩
    · rw [hstate] at hsome
      cases hsome
    · rw [hvalue, kind.field?_of_mem hfield] at hhas
      simp [fieldDefault_of_provider hprovider, hasValue] at hhas
  · -- the field keeps its state and what it depends on
    obtain ⟨hvalue, hstate⟩ := hcleared.kept _ hreaches
    have hcontext : discoveryContext cells'.1 field = discoveryContext cells.1 field := by
      apply discoveryContext_congr
      intro name hname
      have hdepends : kind.Depends field.name.val name := ⟨field, hfield, rfl, hname⟩
      have hfar : ¬ kind.Reaches name changed.name.val := by
        intro hname
        exact hreaches (Relation.TransGen.trans (.single hdepends) hname)
      have hne : changed.name.val ≠ name := by
        rintro rfl
        exact hreaches (.single hdepends)
      rw [(hcleared.kept _ hfar).1]
      simp [Dict.get?_insert, hne.symm]
    refine ⟨fun state hsome => ?_, fun hhas => ?_⟩
    · rw [hstate] at hsome
      rw [hcontext]
      exact htracked.context state hsome
    · by_cases hname : changed.name.val = field.name.val
      · rw [hstate]
        have hsame : changed = field := by
          have := kind.field?_of_mem hchanged
          rw [hname, kind.field?_of_mem hfield] at this
          exact (Option.some.inj this).symm
        subst hsame
        exact .inr (hready hprovider)
      · have hkept : cells'.1.get? field.name.val = cells.1.get? field.name.val := by
          rw [hvalue]
          simp [Dict.get?_insert, Ne.symm hname]
        rw [hkept] at hhas
        rw [hstate]
        refine (htracked.value hhas).imp_left fun hpristine => ⟨?_, ?_, ?_⟩
        · exact hsame.trans hpristine.kind
        · exact hkept.trans hpristine.value
        · exact hcontext.trans hpristine.context

/-- The selector of another type is blank, and nothing has been asked for it. -/
theorem defaults (hreserved : ∀ kind ∈ schema.selectorKinds, ∀ field ∈ kind.fields,
      field.name.val ≠ "kind")
    {name : String} {kind : SelectorKind}
    (hkind : schema.selectorKinds.find? (·.kind.val = name) = some kind) (stored : JsonObject) :
    Tracked schema stored (selectorDefaults kind, fun _ => none) := by
  intro kind' hkind' field hfield hprovider
  obtain rfl : kind = kind' := by
    have := selectedKind_defaults hreserved hkind
    exact Option.some.inj (this.symm.trans hkind')
  refine ⟨?_, ?_⟩
  · intro state h
    cases h
  · intro h
    rw [get?_defaults_field hfield, fieldDefault_of_provider hprovider] at h
    simp [hasValue] at h

/-- A state of one field is replaced. -/
theorem setState (h : Tracked schema stored cells) {kind : SelectorKind}
    (hkind : selectedKind schema cells.1 = some kind) {field : SelectorField}
    (hfield : field ∈ kind.fields) {state : Discovery}
    (hstate : TrackedField stored cells field →
      TrackedField stored (cells.1, Function.update cells.2 field.name.val (some state)) field) :
    Tracked schema stored (cells.1, Function.update cells.2 field.name.val (some state)) := by
  intro kind' hkind' field' hfield' hprovider'
  obtain rfl : kind = kind' := Option.some.inj (hkind.symm.trans hkind')
  have hold := h kind hkind field' hfield' hprovider'
  by_cases hsame : field'.name.val = field.name.val
  · obtain rfl : field' = field := by
      have := kind.field?_of_mem hfield'
      rw [hsame, kind.field?_of_mem hfield] at this
      exact (Option.some.inj this).symm
    exact hstate hold
  · have hkept : Function.update cells.2 field.name.val (some state) field'.name.val =
        cells.2 field'.name.val := Function.update_of_ne hsame _ _
    refine ⟨?_, ?_⟩
    · intro state' hstate'
      exact hold.context state' (hkept ▸ hstate')
    · intro hhas
      refine (hold.value hhas).imp_right ?_
      rintro ⟨state', hstate', hready⟩
      exact ⟨state', hkept.trans hstate', hready⟩

end Tracked

/-! ## Requests -/

namespace Editor

/-- The selector of a target and the states of its fields. -/
def cells (e : Editor) (r : Ref) : Cells := ((e.target r).selector, e.discoveryState r)

theorem cells_setState (e : Editor) (r : Ref) (field : String) (state : Option Discovery)
    (r' : Ref) :
    (e.setState r field state).cells r' =
      if r' = r then ((e.target r).selector, Function.update (e.discoveryState r) field state)
      else e.cells r' := by
  unfold cells setState
  by_cases hr : r' = r
  · subst hr
    simp
  · simp [hr]

end Editor

/-- What rendering may change: the states of fields, the requests in flight, and the number of the
next object. -/
def Rendered (e e' : Editor) : Prop :=
  ∃ states requests n, e.next ≤ n ∧
    e' = { e with discoveryState := states, discoveries := requests, next := n }

namespace Rendered

variable {e e' e'' : Editor}

theorem refl (e : Editor) : Rendered e e := ⟨_, _, _, Nat.le_refl _, rfl⟩

theorem trans (h : Rendered e e') (h' : Rendered e' e'') : Rendered e e'' := by
  obtain ⟨_, _, n, hn, rfl⟩ := h
  obtain ⟨states, requests, n', hn', rfl⟩ := h'
  exact ⟨states, requests, n', hn.trans hn', rfl⟩

theorem foldl {A : Type} {step : Editor → A → Editor} (hstep : ∀ e a, Rendered e (step e a)) :
    ∀ (as : List A) (e : Editor), Rendered e (as.foldl step e)
  | [], e => refl e
  | a :: as, e => (hstep e a).trans (foldl hstep as (step e a))

theorem ensureProviderOptions (e : Editor) (r : Ref) (kind : SelectorKind)
    (field : SelectorField) : Rendered e (e.ensureProviderOptions r kind field) := by
  unfold Editor.ensureProviderOptions
  dsimp only
  split
  · exact refl e
  split
  · exact refl e
  · exact ⟨_, _, _, Nat.le_succ _, rfl⟩

theorem renderTarget (schema : ProviderTargetSchema) (e : Editor) (r : Ref) :
    Rendered e (Editor.renderTarget schema e r) := by
  unfold Editor.renderTarget
  split
  · exact foldl (fun e field => ensureProviderOptions e r _ field) _ e
  · exact refl e

theorem renderEditor (e : Editor) : Rendered e e.renderEditor := by
  unfold Editor.renderEditor
  split
  · exact foldl (renderTarget _) _ e
  · exact refl e

end Rendered

/-- The state that a request has made is waiting for it, and is for the present selection. -/
structure Requested (schema : ProviderTargetSchema) (cells : Cells) (request : OptionsRequest) :
    Prop where
  field : request.field ∈ request.kindSchema.fields
  provider : isProviderChoice request.field
  waiting : ∀ state, cells.2 request.field.name.val = some state → state.id = request.state →
    state.status = .loading ∧ state.contextKey = request.context ∧
      selectedKind schema cells.1 = some request.kindSchema

/-- An input leaves the request of a state that it keeps as it is. -/
theorem Requested.changeField {schema : ProviderTargetSchema} {cells : Cells}
    {request : OptionsRequest} (h : Requested schema cells request)
    (hreserved : ∀ kind ∈ schema.selectorKinds, ∀ field ∈ kind.fields, field.name.val ≠ "kind")
    {kind : SelectorKind} (hkind : selectedKind schema cells.1 = some kind)
    {changed : SelectorField} (hchanged : changed ∈ kind.fields) {value : JsonScalar} :
    Requested schema (Editor.changeField kind changed.name.val value cells.1 cells.2) request where
  field := h.field
  provider := h.provider
  waiting := by
    intro state hstate hid
    have hcleared := changeField_cleared kind changed.name.val value cells.1 cells.2
    have hsame := changeField_kind value hreserved hkind hchanged
    have hkept : cells.2 request.field.name.val = some state := by
      by_cases hreaches : kind.Reaches request.field.name.val changed.name.val
      · rw [(hcleared.reset _ hreaches).2] at hstate
        cases hstate
      · rwa [(hcleared.kept _ hreaches).2] at hstate
    rw [selectedKind_congr schema hsame]
    exact h.waiting state hkept hid

/-- A new state of some field, made by another request. -/
theorem Requested.setState {schema : ProviderTargetSchema} {cells : Cells}
    {request : OptionsRequest} (h : Requested schema cells request) (field : String)
    {state : Discovery} (hstate : state.id ≠ request.state) :
    Requested schema (cells.1, Function.update cells.2 field (some state)) request where
  field := h.field
  provider := h.provider
  waiting := by
    intro state' hstate' hid
    by_cases hsame : request.field.name.val = field
    · subst hsame
      simp only [Function.update_self, Option.some.injEq] at hstate'
      subst hstate'
      exact absurd hid hstate
    · dsimp only at hstate' ⊢
      rw [Function.update_of_ne hsame] at hstate'
      exact h.waiting state' hstate' hid

/-- What the editor knows of the fields of its targets. -/
structure Discovers (schema : ProviderTargetSchema) (e : Editor) : Prop where
  tracked : ∀ committed, e.committedCatalogue = some committed → ∀ r ∈ e.editing,
    ∀ t ∈ committed.targets, e.targetIdentity r = some t.alias.val →
      Tracked schema t.selector (e.cells r)
  requested : ∀ request ∈ e.discoveries, Requested schema (e.cells request.target) request
  numbered : ∀ request ∈ e.discoveries, request.state < e.next ∧ request.target < e.next
  blank : ∀ r, e.next ≤ r → e.discoveryState r = fun _ => none

namespace Discovers

variable {schema : ProviderTargetSchema} {e e' : Editor}

/-- What is known depends on the selectors and the states of the targets only. -/
theorem congr (h : Discovers schema e) (hcommitted : e'.committedCatalogue = e.committedCatalogue)
    (hediting : ∀ r ∈ e'.editing, r ∈ e.editing) (hidentity : e'.targetIdentity = e.targetIdentity)
    (hcells : e'.cells = e.cells) (hdiscoveries : ∀ request ∈ e'.discoveries,
      request ∈ e.discoveries) (hnext : e'.next = e.next) : Discovers schema e' where
  tracked := by
    intro committed hc r hr t ht hname
    rw [hcells]
    exact h.tracked committed (hcommitted ▸ hc) r (hediting r hr) t ht (hidentity ▸ hname)
  requested := by
    intro request hrequest
    rw [hcells]
    exact h.requested request (hdiscoveries request hrequest)
  numbered := by
    intro request hrequest
    rw [hnext]
    exact h.numbered request (hdiscoveries request hrequest)
  blank := by
    intro r hr
    have hstates : e'.discoveryState r = e.discoveryState r := congrArg Prod.snd (congrFun hcells r)
    rw [hstates]
    exact h.blank r (hnext ▸ hr)

/-- The selector or the states of one target have changed, and more may have been asked for. -/
theorem update (h : Discovers schema e) {r : Ref} (hr : r < e.next)
    (hcommitted : e'.committedCatalogue = e.committedCatalogue)
    (hediting : e'.editing = e.editing) (hidentity : e'.targetIdentity = e.targetIdentity)
    (hnext : e.next ≤ e'.next) (hcells : ∀ r', r' ≠ r → e'.cells r' = e.cells r')
    (htracked : ∀ committed, e.committedCatalogue = some committed → r ∈ e.editing →
      ∀ t ∈ committed.targets, e.targetIdentity r = some t.alias.val →
        Tracked schema t.selector (e.cells r) → Tracked schema t.selector (e'.cells r))
    (hrequested : ∀ request ∈ e'.discoveries, request ∈ e.discoveries ∧
        (request.target = r → Requested schema (e'.cells r) request) ∨
      request.target = r ∧ request.state < e'.next ∧ Requested schema (e'.cells r) request) :
    Discovers schema e' where
  tracked := by
    intro committed hc r' hr' t ht hname
    rw [hcommitted] at hc
    rw [hediting] at hr'
    rw [hidentity] at hname
    have hold := h.tracked committed hc r' hr' t ht hname
    by_cases heq : r' = r
    · subst heq
      exact htracked committed hc hr' t ht hname hold
    · rwa [hcells r' heq]
  requested := by
    intro request hrequest
    rcases hrequested request hrequest with ⟨hmem, hsame⟩ | ⟨heq, -, hnew⟩
    · by_cases heq : request.target = r
      · rw [heq]
        exact hsame heq
      · rw [hcells _ heq]
        exact h.requested request hmem
    · rwa [heq]
  numbered := by
    intro request hrequest
    rcases hrequested request hrequest with ⟨hmem, -⟩ | ⟨heq, hstate, -⟩
    · have hold := h.numbered request hmem
      exact ⟨hold.1.trans_le hnext, hold.2.trans_le hnext⟩
    · rw [heq]
      exact ⟨hstate, hr.trans_le hnext⟩
  blank := by
    intro r' hr'
    have hne : r' ≠ r := Nat.ne_of_gt (hr.trans_le (hnext.trans hr'))
    have hstates : e'.discoveryState r' = e.discoveryState r' := congrArg Prod.snd (hcells r' hne)
    rw [hstates]
    exact h.blank r' (hnext.trans hr')

/-- The state of a field is replaced by one for the present dependencies, which no request in
flight is for, while the value of the field is the committed one. -/
theorem setState (h : Discovers schema e) {r : Ref} (hr : r < e.next) {kind : SelectorKind}
    (hkind : selectedKind schema (e.target r).selector = some kind) {field : SelectorField}
    (hfield : field ∈ kind.fields) {state : Discovery}
    (hpristine : ∀ committed, e.committedCatalogue = some committed → r ∈ e.editing →
      ∀ t ∈ committed.targets, e.targetIdentity r = some t.alias.val →
        state.contextKey = discoveryContext (e.target r).selector field ∧
          (hasValue ((e.target r).selector.get? field.name.val) →
            Pristine t.selector (e.target r).selector field))
    (hid : ∀ request ∈ e.discoveries, state.id ≠ request.state) :
    Discovers schema (e.setState r field.name.val (some state)) := by
  have hcells := e.cells_setState r field.name.val (some state)
  have hself : (e.setState r field.name.val (some state)).cells r =
      ((e.cells r).1, Function.update (e.cells r).2 field.name.val (some state)) := by
    rw [hcells, if_pos rfl]
    rfl
  refine h.update hr rfl rfl rfl (Nat.le_refl _) ?_ ?_ ?_
  · intro r' hne
    rw [hcells, if_neg hne]
  · intro committed hc hediting t ht hname htracked
    obtain ⟨hcontext, hvalue⟩ := hpristine committed hc hediting t ht hname
    rw [hself]
    refine htracked.setState hkind hfield fun _ => ⟨?_, fun hhas => .inl (hvalue hhas)⟩
    intro state' hstate'
    simp only [Function.update_self, Option.some.injEq] at hstate'
    rw [← hstate', hcontext]
    rfl
  · intro request hrequest
    refine .inl ⟨hrequest, fun heq => ?_⟩
    have hold := h.requested request hrequest
    rw [heq] at hold
    rw [hself]
    exact hold.setState _ (hid request hrequest)

/-- A field that has no state for what it depends on asks for its options. -/
theorem ensureProviderOptions (h : Discovers schema e) {r : Ref} (hr : r < e.next)
    {kind : SelectorKind} (hkind : selectedKind schema (e.target r).selector = some kind)
    {field : SelectorField} (hfield : field ∈ kind.fields) (hprovider : isProviderChoice field) :
    Discovers schema (e.ensureProviderOptions r kind field) := by
  unfold Editor.ensureProviderOptions
  dsimp only
  split
  · exact h
  split
  · exact h
  rename_i _ hnone
  have hcells := e.cells_setState r field.name.val
    (some ⟨e.next, discoveryContext (e.target r).selector field, .loading, []⟩)
  have hself : (e.setState r field.name.val
      (some ⟨e.next, discoveryContext (e.target r).selector field, .loading, []⟩)).cells r =
      ((e.cells r).1, Function.update (e.cells r).2 field.name.val
        (some ⟨e.next, discoveryContext (e.target r).selector field, .loading, []⟩)) := by
    rw [hcells, if_pos rfl]
    rfl
  refine h.update hr rfl rfl rfl (Nat.le_succ _) ?_ ?_ ?_
  · intro r' hne
    exact (hcells r').trans (if_neg hne)
  · intro _ _ _ t _ _ htracked
    refine Eq.mpr (congrArg _ hself) (htracked.setState hkind hfield fun hold => ⟨?_, ?_⟩)
    · intro state hstate
      simp only [Function.update_self, Option.some.injEq] at hstate
      rw [← hstate]
      rfl
    · intro hhas
      rcases hold.value hhas with hpristine | ⟨state, hstate, -⟩
      · exact .inl hpristine
      · -- a state of the field would be for the present dependencies
        refine absurd ?_ hnone
        have hcontext : state.contextKey = discoveryContext (e.target r).selector field :=
          hold.context state hstate
        have hstate : e.discoveryState r field.name.val = some state := hstate
        simpa [hstate] using hcontext
  · intro request hrequest
    rcases List.mem_append.mp hrequest with hrequest | hrequest
    · refine .inl ⟨hrequest, fun heq => ?_⟩
      have hold := h.requested request hrequest
      have hlt := (h.numbered request hrequest).1
      rw [heq] at hold
      refine Eq.mpr (congrArg (Requested schema · request) hself) (hold.setState _ ?_)
      exact Nat.ne_of_gt hlt
    · obtain rfl := List.mem_singleton.mp hrequest
      refine .inr ⟨rfl, Nat.lt_succ_self _, ?_⟩
      refine Eq.mpr (congrArg (Requested schema · _) hself) ⟨hfield, hprovider, ?_⟩
      intro state hstate _
      simp only [Function.update_self, Option.some.injEq] at hstate
      subst hstate
      exact ⟨rfl, rfl, hkind⟩

/-- Every provider-backed control of a target asks for its options. -/
theorem renderTarget (h : Discovers schema e) {r : Ref} (hr : r < e.next) :
    Discovers schema (Editor.renderTarget schema e r) := by
  unfold Editor.renderTarget
  split
  · rename_i kind hkind
    have hfields : ∀ field ∈ kind.fields.filter isProviderChoice,
        field ∈ kind.fields ∧ isProviderChoice field := by
      intro field hfield
      exact List.mem_filter.mp hfield
    generalize kind.fields.filter isProviderChoice = fields at hfields
    induction fields generalizing e with
    | nil => exact h
    | cons field fields ih =>
      obtain ⟨hmem, hprovider⟩ := hfields field List.mem_cons_self
      have hrendered := Rendered.ensureProviderOptions e r kind field
      have hnext := h.ensureProviderOptions hr hkind hmem hprovider
      rw [List.foldl_cons]
      obtain ⟨_, _, n, hn, heq⟩ := hrendered
      refine ih hnext ?_ ?_ fun f hf => hfields f (List.mem_cons_of_mem _ hf)
      · rw [heq]
        exact hr.trans_le hn
      · rw [heq]
        exact hkind
  · exact h

theorem renderEditor (h : Discovers schema e) (hschema : ∀ s ∈ e.targetSchema, s = schema)
    (hbounded : ∀ r ∈ e.editing, r < e.next) : Discovers schema e.renderEditor := by
  unfold Editor.renderEditor
  split
  · rename_i editable schema' heditable hsome
    obtain rfl := hschema schema' hsome
    have hlt : ∀ r ∈ editable.targets, r < e.next := by
      intro r hr
      apply hbounded
      simpa [Editor.editing, heditable] using hr
    clear hschema hbounded heditable hsome
    generalize editable.targets = rs at hlt
    induction rs generalizing e with
    | nil => exact h
    | cons r rs ih =>
      have hrendered := Rendered.renderTarget schema' e r
      have hnext := h.renderTarget (hlt r List.mem_cons_self)
      rw [List.foldl_cons]
      obtain ⟨_, _, n, hn, heq⟩ := hrendered
      refine ih hnext ?_
      intro r' hr'
      rw [heq]
      exact (hlt r' (List.mem_cons_of_mem _ hr')).trans_le hn
  · exact h

end Discovers

end Snarkypuss.Dashboard
