import Snarkypuss.Dashboard.Tracking

/-!
# What the edited list descends from

The objects of the edited list are copies of the targets of one committed catalogue, recognised by
the alias they had when they were copied, and at most one draft. Whatever is queued for removal has
been found missing under its committed selector.

## Main definitions

* `Missing`: the provider's options for a committed selector lack its value
* `Lineage`: the edited list descends from the committed catalogue

## Main results

* `Lineage.edit`: the controls of the editor keep the lineage
* `Lineage.adoptCommittedCatalogue`: loading and saving start a new one
-/

namespace Snarkypuss.Dashboard

/-- The provider has returned options for a field of the committed target, with the field's
committed dependencies, and its committed value is not among them. -/
def Missing (schema : ProviderTargetSchema) (returned : List (OptionsRequest × List TargetOption))
    (stored : JsonObject) : Prop :=
  ∃ answer ∈ returned,
    selectedKind schema stored = some answer.1.kindSchema ∧
      answer.1.field ∈ answer.1.kindSchema.fields ∧ isProviderChoice answer.1.field ∧
      answer.1.context = discoveryContext stored answer.1.field ∧
      hasValue (stored.get? answer.1.field.name.val) ∧
      offers answer.2 (stored.get? answer.1.field.name.val) = false

theorem Missing.mono {schema : ProviderTargetSchema}
    {returned returned' : List (OptionsRequest × List TargetOption)} {stored : JsonObject}
    (h : Missing schema returned stored) (hsub : returned ⊆ returned') :
    Missing schema returned' stored := by
  obtain ⟨answer, hanswer, hrest⟩ := h
  exact ⟨answer, hsub hanswer, hrest⟩

/-- An update of the targets that changes labels and aliases only. -/
def Named (e e' : Editor) : Prop :=
  ∃ heap, (∀ r, (heap r).selector = (e.target r).selector) ∧ e' = { e with target := heap }

namespace Named

theorem refl (e : Editor) : Named e e := ⟨_, fun _ => rfl, rfl⟩

theorem trans {e e' e'' : Editor} (h : Named e e') (h' : Named e' e'') : Named e e'' := by
  obtain ⟨heap, hheap, rfl⟩ := h
  obtain ⟨heap', hheap', rfl⟩ := h'
  exact ⟨heap', fun r => (hheap' r).trans (hheap r), rfl⟩

theorem setTarget (e : Editor) (r : Ref) (target : EditorTarget)
    (h : target.selector = (e.target r).selector) : Named e (e.setTarget r target) := by
  refine ⟨Function.update e.target r target, ?_, rfl⟩
  intro r'
  by_cases hr : r' = r
  · subst hr
    simpa using h
  · simp [hr]

/-- Proposing a label and an alias. -/
theorem updateAutoMetadata (tables : TextTables) (e : Editor) (r : Ref) (kind : SelectorKind) :
    Named e (e.updateAutoMetadata tables r kind) := by
  have hlabel : Named e (e.updateAutoLabel r kind) := by
    unfold Editor.updateAutoLabel
    split
    · exact setTarget e _ _ rfl
    · exact refl e
  refine hlabel.trans ?_
  unfold Editor.updateAutoMetadata Editor.updateAutoAlias
  split
  · exact setTarget _ _ _ rfl
  · exact refl _

theorem cells {e e' : Editor} (h : Named e e') : e'.cells = e.cells := by
  obtain ⟨heap, hheap, rfl⟩ := h
  funext r
  exact Prod.ext (hheap r) rfl

end Named

/-- The copies of a committed list: new objects in its order, and nothing else is touched. -/
theorem Editor.clones (targets : List StoredTarget) (e : Editor) :
    ∃ heap names, targets.foldl Editor.cloneEditableTarget e =
        { e with target := heap, targetIdentity := names, next := e.next + targets.length } ∧
      (∀ r, r < e.next → heap r = e.target r ∧ names r = e.targetIdentity r) ∧
      (∀ r, e.next + targets.length ≤ r → names r = e.targetIdentity r) ∧
      ∀ i (h : i < targets.length), heap (e.next + i) = .ofStored targets[i] ∧
        names (e.next + i) = some targets[i].alias.val := by
  induction targets generalizing e with
  | nil => exact ⟨_, _, rfl, fun _ _ => ⟨rfl, rfl⟩, fun _ _ => rfl, fun _ h => by cases h⟩
  | cons target targets ih =>
    obtain ⟨heap, names, heq, hold, hnew, hcopy⟩ := ih (e.cloneEditableTarget target)
    have hnext : (e.cloneEditableTarget target).next = e.next + 1 := rfl
    rw [hnext] at hold hnew hcopy
    refine ⟨heap, names, ?_, ?_, ?_, ?_⟩
    · rw [List.foldl_cons, heq, List.length_cons, hnext]
      simp only [Editor.cloneEditableTarget, Nat.add_assoc, Nat.add_comm 1]
    · intro r hr
      have hr' := hold r (Nat.lt_succ_of_lt hr)
      have hne : r ≠ e.next := Nat.ne_of_lt hr
      simpa [Editor.cloneEditableTarget, hne] using hr'
    · intro r hr
      rw [List.length_cons] at hr
      have hr' := hnew r (by rw [Nat.add_assoc, Nat.add_comm 1]; exact hr)
      have hne : r ≠ e.next := Nat.ne_of_gt (Nat.lt_of_lt_of_le (by simp) hr)
      simpa [Editor.cloneEditableTarget, hne] using hr'
    · intro i hi
      cases i with
      | zero =>
        have hr' := hold e.next (Nat.lt_succ_self _)
        simpa [Editor.cloneEditableTarget] using hr'
      | succ i =>
        have hi' := hcopy i (Nat.lt_of_succ_lt_succ hi)
        rw [Nat.add_assoc, Nat.add_comm 1] at hi'
        exact hi'

theorem swap_perm (rs : List Ref) (i j : Nat) : (swap rs i j).Perm rs := by
  unfold swap
  split
  · rename_i a b ha hb
    obtain ⟨hi, rfl⟩ := List.getElem?_eq_some_iff.mp ha
    obtain ⟨hj, rfl⟩ := List.getElem?_eq_some_iff.mp hb
    exact List.set_set_perm hi hj
  · exact List.Perm.refl rs

/-- The edited list descends from the committed catalogue. -/
structure Lineage (schema : ProviderTargetSchema)
    (returned : List (OptionsRequest × List TargetOption)) (e : Editor) : Prop where
  discovers : Discovers schema e
  loaded : ∀ s ∈ e.targetSchema, s = schema
  revision : e.editableCatalogue.map (fun editable => (editable.provider, editable.revision)) =
    e.committedCatalogue.map fun committed => (committed.provider, committed.revision)
  nodup : e.editing.Nodup
  bounded : ∀ r ∈ e.editing, r < e.next
  origin : ∀ committed ∈ e.committedCatalogue, ∀ r ∈ e.editing,
    e.newDestinationDraft = some r ∨ ∃ t ∈ committed.targets, e.targetIdentity r = some t.alias.val
  draft : ∀ r, e.newDestinationDraft = some r → e.targetIdentity r = none
  distinct : ∀ r ∈ e.editing, ∀ r' ∈ e.editing, ∀ name, e.targetIdentity r = some name →
    e.targetIdentity r' = some name → r = r'
  unnamed : ∀ r, e.next ≤ r → e.targetIdentity r = none
  known : ∀ r ∈ e.unavailableTargets, r < e.next
  queued : ∀ committed ∈ e.committedCatalogue, ∀ r ∈ e.unavailableTargets, r ∈ e.editing →
    e.newDestinationDraft ≠ some r ∧ ∀ t ∈ committed.targets,
      e.targetIdentity r = some t.alias.val → Missing schema returned t.selector

namespace Lineage

variable {schema : ProviderTargetSchema} {returned : List (OptionsRequest × List TargetOption)}
  {e e' : Editor}

/-- Before the manager is opened. -/
theorem initial (schema : ProviderTargetSchema)
    (returned : List (OptionsRequest × List TargetOption)) : Lineage schema returned {} where
  discovers := by
    refine ⟨?_, ?_, ?_, fun _ _ => rfl⟩
    · intro _ h
      cases h
    · intro _ h
      cases h
    · intro _ h
      cases h
  loaded := by
    intro _ h
    cases h
  revision := rfl
  nodup := List.nodup_nil
  bounded := by
    intro _ h
    cases h
  origin := by
    intro _ h
    cases h
  draft := by
    intro _ h
    cases h
  distinct := by
    intro _ h
    cases h
  unnamed := by
    intro _ _
    rfl
  known := by
    intro _ h
    cases h
  queued := by
    intro _ h
    cases h

/-- More options have been returned. -/
theorem mono (h : Lineage schema returned e)
    {returned' : List (OptionsRequest × List TargetOption)} (hsub : returned ⊆ returned') :
    Lineage schema returned' e :=
  { h with
    queued := by
      intro committed hc r hr hediting
      obtain ⟨hdraft, hmissing⟩ := h.queued committed hc r hr hediting
      exact ⟨hdraft, fun t ht hname => (hmissing t ht hname).mono hsub⟩ }

/-- The catalogues, the identities and the queue are as before; what is known of the fields may
have changed. -/
theorem congr (h : Lineage schema returned e) (hdiscovers : Discovers schema e')
    (hschema : e'.targetSchema = e.targetSchema)
    (heditable : e'.editableCatalogue = e.editableCatalogue)
    (hcommitted : e'.committedCatalogue = e.committedCatalogue)
    (hdraft : e'.newDestinationDraft = e.newDestinationDraft)
    (hidentity : e'.targetIdentity = e.targetIdentity) (hnext : e.next ≤ e'.next)
    (hqueue : ∀ r ∈ e'.unavailableTargets, r ∈ e.unavailableTargets) :
    Lineage schema returned e' := by
  have hediting : e'.editing = e.editing := by
    unfold Editor.editing
    rw [heditable]
  refine ⟨hdiscovers, ?_, ?_, ?_, ?_, ?_, ?_, ?_, ?_, ?_, ?_⟩
  · rw [hschema]
    exact h.loaded
  · rw [heditable, hcommitted]
    exact h.revision
  · rw [hediting]
    exact h.nodup
  · intro r hr
    exact (h.bounded r (hediting ▸ hr)).trans_le hnext
  · rw [hcommitted, hediting, hdraft, hidentity]
    exact h.origin
  · rw [hdraft, hidentity]
    exact h.draft
  · rw [hediting, hidentity]
    exact h.distinct
  · intro r hr
    rw [hidentity]
    exact h.unnamed r (hnext.trans hr)
  · intro r hr
    exact (h.known r (hqueue r hr)).trans_le hnext
  · rw [hcommitted, hediting, hdraft, hidentity]
    intro committed hc r hr
    exact h.queued committed hc r (hqueue r hr)

/-- Only what the list does not depend on has changed. -/
theorem frame (h : Lineage schema returned e) (hschema : e'.targetSchema = e.targetSchema)
    (heditable : e'.editableCatalogue = e.editableCatalogue)
    (hcommitted : e'.committedCatalogue = e.committedCatalogue)
    (hdraft : e'.newDestinationDraft = e.newDestinationDraft)
    (hidentity : e'.targetIdentity = e.targetIdentity) (hnext : e'.next = e.next)
    (hqueue : ∀ r ∈ e'.unavailableTargets, r ∈ e.unavailableTargets) (hcells : e'.cells = e.cells)
    (hdiscoveries : ∀ request ∈ e'.discoveries, request ∈ e.discoveries) :
    Lineage schema returned e' := by
  refine h.congr ?_ hschema heditable hcommitted hdraft hidentity (Nat.le_of_eq hnext.symm) hqueue
  refine h.discovers.congr hcommitted ?_ hidentity hcells hdiscoveries hnext
  intro r hr
  unfold Editor.editing at hr ⊢
  rwa [heditable] at hr

theorem renderEditor (h : Lineage schema returned e) : Lineage schema returned e.renderEditor := by
  have hdiscovers := h.discovers.renderEditor h.loaded h.bounded
  obtain ⟨_, _, n, hn, heq⟩ := Rendered.renderEditor e
  rw [heq] at hdiscovers ⊢
  exact h.congr hdiscovers rfl rfl rfl rfl rfl hn fun r hr => hr

/-- Labels and aliases are no part of the lineage. -/
theorem named (h : Lineage schema returned e) (hnamed : Named e e') :
    Lineage schema returned e' := by
  have hcells := hnamed.cells
  obtain ⟨heap, -, rfl⟩ := hnamed
  exact h.frame rfl rfl rfl rfl rfl rfl (fun r hr => hr) hcells fun request hrequest => hrequest

/-- A target of the list has another selector or other states, which keep it tracked. -/
theorem setCells (h : Lineage schema returned e) {r : Ref} (hr : r ∈ e.editing) (cells : Cells)
    (htracked : ∀ stored, Tracked schema stored (e.cells r) → Tracked schema stored cells)
    (hrequested : ∀ request, Requested schema (e.cells r) request → Requested schema cells request) :
    Lineage schema returned
      { e.setTarget r { e.target r with selector := cells.1 } with
        discoveryState := Function.update e.discoveryState r cells.2 } := by
  refine h.congr ?_ rfl rfl rfl rfl rfl (Nat.le_refl _) fun r hr => hr
  have hself : ({ e.setTarget r { e.target r with selector := cells.1 } with
      discoveryState := Function.update e.discoveryState r cells.2 } : Editor).cells r = cells := by
    simp [Editor.cells, Editor.setTarget]
  refine h.discovers.update (h.bounded r hr) rfl rfl rfl (Nat.le_refl _) ?_ ?_ ?_
  · intro r' hne
    simp [Editor.cells, Editor.setTarget, hne]
  · intro _ _ _ t _ _ hstored
    rw [hself]
    exact htracked t.selector hstored
  · intro request hrequest
    refine .inl ⟨hrequest, fun heq => ?_⟩
    rw [hself]
    have hold := h.discovers.requested request hrequest
    rw [heq] at hold
    exact hrequested request hold

/-- The user chooses a type for a target. -/
theorem selectKind (h : Lineage schema returned e)
    (hreserved : ∀ kind ∈ schema.selectorKinds, ∀ field ∈ kind.fields, field.name.val ≠ "kind")
    (tables : TextTables) {r : Ref} (hr : r ∈ e.editing) {name : String} {kind : SelectorKind}
    (hkind : schema.selectorKinds.find? (·.kind.val = name) = some kind) :
    Lineage schema returned (e.selectKind tables r kind) := by
  unfold Editor.selectKind
  have hset := h.setCells hr (selectorDefaults kind, fun _ => none)
    (fun stored _ => Tracked.defaults hreserved hkind stored)
    (fun request hrequest => ⟨hrequest.field, hrequest.provider, fun _ hstate => by cases hstate⟩)
  exact (hset.named (Named.updateAutoMetadata tables _ r kind)).renderEditor

/-- The user changes the value of a field. -/
theorem inputField (h : Lineage schema returned e)
    (hreserved : ∀ kind ∈ schema.selectorKinds, ∀ field ∈ kind.fields, field.name.val ≠ "kind")
    (tables : TextTables) {r : Ref} (hr : r ∈ e.editing) {kind : SelectorKind}
    (hkind : selectedKind schema (e.target r).selector = some kind) {field : SelectorField}
    (hfield : field ∈ kind.fields) {value : JsonScalar} (hoffers : e.offersValue r field value) :
    Lineage schema returned (e.inputField tables r kind field value) := by
  have hready : isProviderChoice field →
      ∃ state, (e.cells r).2 field.name.val = some state ∧ state.status = .ready := by
    intro hprovider
    unfold Editor.offersValue at hoffers
    rw [if_pos hprovider, Bool.and_eq_true, Option.any_eq_true] at hoffers
    obtain ⟨-, state, hstate, hready⟩ := hoffers
    simp only [Bool.and_eq_true, decide_eq_true_eq] at hready
    exact ⟨state, hstate, hready.1⟩
  have hset := h.setCells hr
    (Editor.changeField kind field.name.val value (e.cells r).1 (e.cells r).2)
    (fun stored htracked => htracked.changeField hreserved hkind hfield hready)
    (fun request hrequest => hrequest.changeField hreserved hkind hfield)
  have hnamed := hset.named (Named.updateAutoMetadata tables _ r kind)
  unfold Editor.inputField
  dsimp only
  split
  · exact hnamed.renderEditor
  · exact hnamed

/-- The list loses targets or is put in another order. -/
theorem setTargets (h : Lineage schema returned e) {targets : List Ref}
    (hsub : ∀ r ∈ targets, r ∈ e.editing) (hnodup : targets.Nodup) {draft : Option Ref}
    (hdraft : draft = e.newDestinationDraft ∨
      draft = none ∧ ∀ r ∈ targets, e.newDestinationDraft ≠ some r) :
    Lineage schema returned
      { e.setTargets targets with newDestinationDraft := draft } := by
  have hediting : ∀ r ∈ (e.setTargets targets).editing, r ∈ targets := by
    intro r hr
    unfold Editor.editing Editor.setTargets at hr
    cases heditable : e.editableCatalogue with
    | none => simp [heditable] at hr
    | some editable => simpa [heditable] using hr
  have hold : ∀ r ∈ (e.setTargets targets).editing, r ∈ e.editing :=
    fun r hr => hsub r (hediting r hr)
  refine ⟨h.discovers.congr rfl hold rfl rfl (fun _ hrequest => hrequest) rfl, h.loaded, ?_, ?_, ?_,
    ?_, ?_, ?_, h.unnamed, h.known, ?_⟩
  · refine Eq.trans ?_ h.revision
    simp [Editor.setTargets, Function.comp_def]
  · unfold Editor.editing Editor.setTargets
    cases heditable : e.editableCatalogue with
    | none => exact List.nodup_nil
    | some editable => exact hnodup
  · intro r hr
    exact h.bounded r (hold r hr)
  · intro committed hc r hr
    refine (h.origin committed hc r (hold r hr)).imp_left fun hsome => ?_
    rcases hdraft with hkept | ⟨-, hother⟩
    · exact hkept.trans hsome
    · exact absurd hsome (hother r (hediting r hr))
  · intro r hr
    rcases hdraft with hkept | ⟨hnone, -⟩
    · exact h.draft r (hkept ▸ hr)
    · cases hnone.symm.trans hr
  · intro r hr r' hr'
    exact h.distinct r (hold r hr) r' (hold r' hr')
  · intro committed hc r hr hmem
    obtain ⟨hother, hmissing⟩ := h.queued committed hc r hr (hold r hmem)
    refine ⟨?_, hmissing⟩
    rcases hdraft with hkept | ⟨hnone, -⟩
    · exact hkept ▸ hother
    · intro hsome
      cases hnone.symm.trans hsome

/-- A new destination is the draft. -/
theorem addDestination (h : Lineage schema returned e) (hsome : e.editableCatalogue.isSome) :
    Lineage schema returned e.addDestination := by
  unfold Editor.addDestination
  split
  · exact h
  rename_i hfree
  apply renderEditor
  have hnone : e.newDestinationDraft = none := by
    simp only [Bool.or_eq_true, not_or] at hfree
    simpa using hfree.1.2
  have hediting : (e.setTargets (e.editing ++ [e.next])).editing = e.editing ++ [e.next] := by
    obtain ⟨editable, heditable⟩ := Option.isSome_iff_exists.mp hsome
    simp [Editor.editing, Editor.setTargets, heditable]
  have hmem : ∀ r ∈ e.editing ++ [e.next], r ∈ e.editing ∨ r = e.next := by
    intro r hr
    simpa using hr
  have hunnamed : e.targetIdentity e.next = none := h.unnamed _ (Nat.le_refl _)
  have hcells : ∀ r, r ≠ e.next →
      (e.setTarget e.next ⟨"", "", Dict.empty.insert "kind" (.str "")⟩).cells r = e.cells r := by
    intro r hr
    simp [Editor.cells, Editor.setTarget, hr]
  refine ⟨⟨?_, ?_, ?_, ?_⟩, h.loaded, ?_, ?_, ?_, ?_, ?_, ?_, ?_, ?_, ?_⟩
  · intro committed hc r hr t ht hname
    have hne : r ≠ e.next := by
      rintro rfl
      cases hunnamed.symm.trans hname
    have hold := (hmem r (hediting ▸ hr)).resolve_right hne
    exact (hcells r hne).symm ▸ h.discovers.tracked committed hc r hold t ht hname
  · intro request hrequest
    have hne := Nat.ne_of_lt (h.discovers.numbered request hrequest).2
    exact (hcells _ hne).symm ▸ h.discovers.requested request hrequest
  · intro request hrequest
    have hold := h.discovers.numbered request hrequest
    exact ⟨Nat.lt_succ_of_lt hold.1, Nat.lt_succ_of_lt hold.2⟩
  · intro r hr
    exact h.discovers.blank r (Nat.le_of_succ_le hr)
  · refine Eq.trans ?_ h.revision
    simp [Editor.setTargets, Editor.setTarget, Function.comp_def]
  · have hnew : e.next ∉ e.editing := fun hin => Nat.lt_irrefl _ (h.bounded _ hin)
    refine Eq.mpr (congrArg List.Nodup hediting)
      (List.Nodup.append h.nodup (List.nodup_singleton _) ?_)
    simpa using hnew
  · intro r hr
    rcases hmem r (hediting ▸ hr) with hold | rfl
    · exact Nat.lt_succ_of_lt (h.bounded r hold)
    · exact Nat.lt_succ_self _
  · intro committed hc r hr
    rcases hmem r (hediting ▸ hr) with hold | rfl
    · refine .inr ((h.origin committed hc r hold).resolve_left fun hsome => ?_)
      cases hnone.symm.trans hsome
    · exact .inl rfl
  · intro r hr
    obtain rfl : e.next = r := Option.some.inj hr
    exact hunnamed
  · intro r hr r' hr' name hname hname'
    have hne : r ≠ e.next := by
      rintro rfl
      cases hunnamed.symm.trans hname
    have hne' : r' ≠ e.next := by
      rintro rfl
      cases hunnamed.symm.trans hname'
    exact h.distinct r ((hmem r (hediting ▸ hr)).resolve_right hne) r'
      ((hmem r' (hediting ▸ hr')).resolve_right hne') name hname hname'
  · intro r hr
    exact h.unnamed r (Nat.le_of_succ_le hr)
  · intro r hr
    exact Nat.lt_succ_of_lt (h.known r hr)
  · intro committed hc r hr hin
    have hlt := h.known r hr
    have hold := (hmem r (hediting ▸ hin)).resolve_right (Nat.ne_of_lt hlt)
    refine ⟨?_, (h.queued committed hc r hr hold).2⟩
    intro hsome
    exact Nat.ne_of_lt hlt (Option.some.inj hsome).symm

/-- The controls of the editor keep the lineage. -/
theorem edit (h : Lineage schema returned e)
    (hreserved : ∀ kind ∈ schema.selectorKinds, ∀ field ∈ kind.fields, field.name.val ≠ "kind")
    (tables : TextTables) (edit : Edit) : Lineage schema returned (e.edit tables edit) := by
  have hat : ∀ {index : Nat} {r : Ref}, e.editing[index]? = some r → r ∈ e.editing :=
    fun hsome => List.mem_of_getElem? hsome
  have hswap : ∀ i j, Lineage schema returned (e.setTargets (swap e.editing i j)).renderEditor := by
    intro i j
    have hperm := swap_perm e.editing i j
    exact (h.setTargets (fun r hr => hperm.mem_iff.mp hr) (hperm.nodup_iff.mpr h.nodup)
      (.inl rfl)).renderEditor
  cases edit with
  | setAlias index value =>
    simp only [Editor.edit]
    split
    · rename_i r _ _
      have hnamed := h.named (Named.setTarget e r { e.target r with «alias» := value } rfl)
      exact hnamed.frame rfl rfl rfl rfl rfl rfl (fun _ hr => hr) rfl fun _ hr => hr
    · exact h
  | setLabel index value =>
    simp only [Editor.edit]
    split
    · rename_i r _ _
      have hnamed := h.named (Named.setTarget e r { e.target r with label := value } rfl)
      exact hnamed.frame rfl rfl rfl rfl rfl rfl (fun _ hr => hr) rfl fun _ hr => hr
    · exact h
  | selectKind index kind =>
    simp only [Editor.edit]
    split
    · rename_i r schema' _ hr hschema
      obtain rfl := h.loaded schema' hschema
      split
      · rename_i kindSchema hkind
        split
        · exact h.selectKind hreserved tables (hat hr) hkind
        · exact h
      · exact h
    · exact h
  | input index field value =>
    simp only [Editor.edit]
    split
    · rename_i r schema' _ hr hschema
      obtain rfl := h.loaded schema' hschema
      split
      · rename_i kindSchema hkind
        split
        · rename_i found hfield
          split
          · rename_i hoffers
            exact h.inputField hreserved tables (hat hr) hkind
              (SelectorKind.mem_of_field? hfield).1 hoffers
          · exact h
        · exact h
      · exact h
    · exact h
  | moveUp index =>
    simp only [Editor.edit]
    split
    · exact hswap _ _
    · exact h
  | moveDown index =>
    simp only [Editor.edit]
    split
    · exact h
    · exact hswap _ _
  | remove index =>
    simp only [Editor.edit]
    split
    · rename_i r _ hr
      apply renderEditor
      refine h.setTargets (fun r' hr' => List.mem_of_mem_eraseIdx hr') (h.nodup.eraseIdx index) ?_
      split
      · rename_i hdraft
        refine .inr ⟨rfl, fun r' hr' hsome => ?_⟩
        -- the removed draft is not left elsewhere in the list
        obtain rfl : r' = r := by
          simp only [Editor.isDraft, decide_eq_true_eq] at hdraft
          exact Option.some.inj (hsome.symm.trans hdraft)
        obtain ⟨hlt, hget⟩ := List.getElem?_eq_some_iff.mp hr
        rw [← h.nodup.erase_getElem index hlt, hget] at hr'
        exact h.nodup.not_mem_erase hr'
      · exact .inl rfl
    · exact h
  | add =>
    simp only [Editor.edit]
    split
    · rename_i editable _ _ heditable
      exact h.addDestination (by rw [heditable]; rfl)
    · exact h

/-- Loading or saving starts a new lineage: the list consists of copies. -/
theorem adoptCommittedCatalogue (h : Lineage schema returned e) (payload : TargetCatalogue) :
    Lineage schema returned (e.adoptCommittedCatalogue payload) := by
  obtain ⟨heap, names, heq, hold, hnew, hcopy⟩ := Editor.clones payload.targets e
  unfold Editor.adoptCommittedCatalogue
  rw [heq]
  have hediting : ∀ r ∈ List.range' e.next payload.targets.length,
      ∃ i, ∃ hi : i < payload.targets.length, r = e.next + i := by
    intro r hr
    obtain ⟨i, hi, rfl⟩ := List.mem_range'.mp hr
    exact ⟨i, hi, by rw [Nat.one_mul]⟩
  refine ⟨⟨?_, ?_, ?_, ?_⟩, h.loaded, rfl, List.nodup_range', ?_, ?_, ?_, ?_, ?_, ?_, ?_⟩
  · intro committed hc r hr t ht hname
    obtain rfl : payload = committed := Option.some.inj hc
    obtain ⟨i, hi, rfl⟩ := hediting r hr
    obtain ⟨hheap, halias⟩ := hcopy i hi
    -- aliases are unique in a catalogue, so the object is a copy of this very target
    have hsame : payload.targets[i] = t := by
      apply List.inj_on_of_nodup_map payload.order.2.1 (List.getElem_mem hi) ht
      exact Option.some.inj (halias.symm.trans hname)
    have hcells : (heap (e.next + i)).selector = t.selector := by
      rw [hheap, hsame]
      rfl
    have hblank := h.discovers.blank (e.next + i) (Nat.le_add_right _ _)
    have hclone := Tracked.clone schema t.selector
    unfold Editor.cells
    dsimp only
    rw [hcells, hblank]
    exact hclone
  · intro request hrequest
    have hlt := (h.discovers.numbered request hrequest).2
    have hrequested := h.discovers.requested request hrequest
    unfold Editor.cells at hrequested ⊢
    dsimp only
    rw [(hold _ hlt).1]
    exact hrequested
  · intro request hrequest
    have hnumbered := h.discovers.numbered request hrequest
    exact ⟨hnumbered.1.trans_le (Nat.le_add_right _ _), hnumbered.2.trans_le (Nat.le_add_right _ _)⟩
  · intro r hr
    exact h.discovers.blank r ((Nat.le_add_right _ _).trans hr)
  · intro r hr
    obtain ⟨i, hi, rfl⟩ := hediting r hr
    exact Nat.add_lt_add_left hi _
  · intro committed hc r hr
    obtain rfl : payload = committed := Option.some.inj hc
    obtain ⟨i, hi, rfl⟩ := hediting r hr
    exact .inr ⟨payload.targets[i], List.getElem_mem hi, (hcopy i hi).2⟩
  · intro r hr
    cases hr
  · intro r hr r' hr' name hname hname'
    obtain ⟨i, hi, rfl⟩ := hediting r hr
    obtain ⟨j, hj, rfl⟩ := hediting r' hr'
    have halias : (payload.targets.map fun t => t.alias.val).get ⟨i, by simpa using hi⟩ =
        (payload.targets.map fun t => t.alias.val).get ⟨j, by simpa using hj⟩ := by
      have hi' := (hcopy i hi).2.symm.trans hname
      have hj' := (hcopy j hj).2.symm.trans hname'
      simpa using (Option.some.inj hi').trans (Option.some.inj hj').symm
    have hij := Fin.mk.inj (payload.order.2.1.get_inj_iff.mp halias)
    rw [hij]
  · intro r hr
    exact (hnew r hr).trans (h.unnamed r ((Nat.le_add_right _ _).trans hr))
  · intro r hr
    exact (h.known r hr).trans_le (Nat.le_add_right _ _)
  · intro committed _ r hr hin
    -- nothing that was queued is in the new list
    obtain ⟨i, _, rfl⟩ := hediting r hin
    exact absurd (h.known _ hr) (Nat.not_lt.mpr (Nat.le_add_right _ _))

/-- The request that a state is waiting for: what it asked for is what is selected, and the value
it will be compared with is the committed one. -/
theorem requested (h : Lineage schema returned e) {request : OptionsRequest}
    (hrequest : request ∈ e.discoveries) {state : Discovery}
    (hstate : e.discoveryState request.target request.field.name.val = some state)
    (hid : state.id = request.state) :
    selectedKind schema (e.target request.target).selector = some request.kindSchema ∧
      state.contextKey = request.context ∧
      ∀ committed, e.committedCatalogue = some committed → request.target ∈ e.editing →
        ∀ t ∈ committed.targets, e.targetIdentity request.target = some t.alias.val →
          request.context = discoveryContext (e.target request.target).selector request.field ∧
            (hasValue ((e.target request.target).selector.get? request.field.name.val) →
              Pristine t.selector (e.target request.target).selector request.field) := by
  have hrequested := h.discovers.requested request hrequest
  obtain ⟨hloading, hcontext, hkind⟩ := hrequested.waiting state hstate hid
  refine ⟨hkind, hcontext, ?_⟩
  intro committed hc hediting t ht hname
  have htracked := h.discovers.tracked committed hc _ hediting t ht hname _ hkind _
    hrequested.field hrequested.provider
  refine ⟨hcontext.symm.trans (htracked.context state hstate), ?_⟩
  intro hhas
  refine (htracked.value hhas).resolve_right ?_
  rintro ⟨state', hstate', hready⟩
  obtain rfl : state = state' := Option.some.inj (hstate.symm.trans hstate')
  cases hloading.symm.trans hready

end Lineage

end Snarkypuss.Dashboard
