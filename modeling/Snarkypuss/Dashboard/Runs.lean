import Snarkypuss.Dashboard.Cleanup
import Snarkypuss.Providers.Selectors

/-!
# Whole sessions of the destination editor

A session of the editor, the server and other sessions, in any order of user edits, answers and
commits. One request to replace the catalogue is in flight at a time. A cleanup sends committed
targets only, unedited and in their order, and leaves the rest of the editor as it is; a save sends
the revision that the edited list descends from.

## Main definitions

* `Session`: what holds throughout

## Main results

* `Session.step`, `Session.run`: every happening keeps it
* `catalogue_kept`: what cleanups and saves send, and what a cleanup changes in the editor
* `removed_kept`: a missing target that the user has taken out of the list is not taken out of the
  catalogue by a cleanup
-/

namespace Snarkypuss.Dashboard

/-- The list after a cleanup descends from the catalogue that the cleanup has committed. -/
theorem Lineage.cleaned {service : Service} {e : Editor}
    {returned : List (OptionsRequest × List TargetOption)} (h : Lineage service.schema returned e)
    {removing kept : List Ref} {body : CatalogueReplacement} {committed : TargetCatalogue}
    (hcleanup : CleanupOf service.schema returned e removing kept body committed)
    (hnormal : Normal service.normalise committed) {current payload : TargetCatalogue}
    (haccepted : Accepted service current body payload) :
    Lineage service.schema returned { e with
      committedCatalogue := some payload
      editableCatalogue := some ⟨payload.provider, payload.revision, kept⟩ } := by
  have hbody : body.targets = Editor.catalogueTargetsForRequest ((committed.targets.filter fun t =>
      some t.alias.val ∉ removing.map e.targetIdentity).map .ofStored) := by
    rw [hcleanup.sent]
  have hsource : ∀ t' ∈ payload.targets, ∃ t ∈ committed.targets,
      t'.alias.val = t.alias.val ∧ t'.selector = t.selector := by
    intro t' ht'
    obtain ⟨t, ht, hsame⟩ := haccepted.source hbody
      (fun t ht => hnormal t (List.mem_of_mem_filter ht)) ht'
    exact ⟨t, List.mem_of_mem_filter ht, hsame⟩
  have hkept : ∀ r ∈ kept, r ∈ e.editing ∧ r ∉ removing := by
    intro r hr
    rw [hcleanup.left] at hr
    simpa using hr
  refine ⟨⟨?_, h.discovers.requested, h.discovers.numbered, h.discovers.blank⟩, h.loaded, rfl, ?_,
    ?_, ?_, h.draft, ?_, h.unnamed, h.known, ?_⟩
  · intro committed' hc r hr t' ht' hname
    obtain rfl : payload = committed' := Option.some.inj hc
    obtain ⟨t, ht, halias, hselector⟩ := hsource t' ht'
    rw [hselector]
    exact h.discovers.tracked committed hcleanup.current r (hkept r hr).1 t ht (halias ▸ hname)
  · rw [show Editor.editing _ = kept from rfl, hcleanup.left]
    exact h.nodup.filter _
  · intro r hr
    exact h.bounded r (hkept r hr).1
  · intro committed' hc r hr
    obtain rfl : payload = committed' := Option.some.inj hc
    obtain ⟨hediting, hstays⟩ := hkept r hr
    refine (h.origin committed hcleanup.current r hediting).imp_right ?_
    rintro ⟨t, ht, hname⟩
    -- no other object of the list is a copy of the same target
    have hsent : t ∈ committed.targets.filter fun t =>
        some t.alias.val ∉ removing.map e.targetIdentity := by
      refine List.mem_filter.mpr ⟨ht, decide_eq_true fun hmem => hstays ?_⟩
      obtain ⟨r', hr', hname'⟩ := List.mem_map.mp hmem
      have hsame := h.distinct r hediting r' (hcleanup.shown r' hr').1 t.alias.val hname hname'
      exact hsame ▸ hr'
    obtain ⟨t', ht', halias⟩ := haccepted.image hbody hsent
    exact ⟨t', ht', by rw [halias]; exact hname⟩
  · intro r hr r' hr'
    exact h.distinct r (hkept r hr).1 r' (hkept r' hr').1
  · intro committed' hc r hr hin
    obtain rfl : payload = committed' := Option.some.inj hc
    obtain ⟨hdraft, hmissing⟩ := h.queued committed hcleanup.current r hr (hkept r hin).1
    refine ⟨hdraft, ?_⟩
    intro t' ht' hname
    obtain ⟨t, ht, halias, hselector⟩ := hsource t' ht'
    rw [hselector]
    exact hmissing t ht (halias ▸ hname)

/-! ## The invariant -/

/-- What the server has answered to a replacement, it has committed; a cleanup in flight is one. -/
def AwaitedOk (service : Service) (p : Page) : Awaited → Prop
  | .replacement purpose body answer =>
    (∀ payload, answer = some (some payload) →
      payload ∈ p.committed ∧ ∃ current, Accepted service current body payload) ∧
    ∀ removing kept, purpose = .cleanup removing kept →
      ∃ committed, CleanupOf service.schema p.returned p.editor removing kept body committed
  | _ => True

/-- What holds throughout a session. -/
structure Session (service : Service) (p : Page) : Prop where
  history : History service p.committed
  lineage : Lineage service.schema p.returned p.editor
  member : ∀ committed, p.editor.committedCatalogue = some committed → committed ∈ p.committed
  waits : p.editor.managerBusy = false ∧ p.editor.awaited = [] ∨
    p.editor.managerBusy = true ∧ ∃ a, p.editor.awaited = [a] ∧ AwaitedOk service p a

namespace Session

variable {service : Service} {p : Page}

theorem initial (service : Service) : Session service (Page.initial service) where
  history := .initial service
  lineage := .initial service.schema []
  member := by
    intro _ h
    cases h
  waits := .inl ⟨rfl, rfl⟩

theorem idle (h : Session service p) (hbusy : p.editor.managerBusy = false) :
    p.editor.awaited = [] := by
  rcases h.waits with ⟨-, hawaited⟩ | ⟨hbusy', -⟩
  · exact hawaited
  · cases hbusy.symm.trans hbusy'

/-- What is awaited is the only thing that is. -/
theorem awaiting (h : Session service p) {index : Nat} {a : Awaited}
    (ha : p.editor.awaited[index]? = some a) :
    p.editor.managerBusy = true ∧ p.editor.awaited = [a] ∧ index = 0 ∧ AwaitedOk service p a := by
  rcases h.waits with ⟨-, hawaited⟩ | ⟨hbusy, a', hawaited, hok⟩
  · rw [hawaited] at ha
    cases ha
  · rw [hawaited] at ha
    obtain ⟨hindex, hsame⟩ := List.getElem?_eq_some_iff.mp ha
    obtain rfl : index = 0 := Nat.lt_one_iff.mp hindex
    obtain rfl : a' = a := hsame
    exact ⟨hbusy, hawaited, rfl, hok⟩

/-- Options have been returned, and the editor has proceeded. -/
theorem of_proceeds (h : Session service p)
    (more : List (OptionsRequest × List TargetOption)) {e : Editor}
    (hproceeds : Proceeds service.schema (more ++ p.returned) p.editor e) :
    Session service { p with editor := e, returned := more ++ p.returned } where
  history := h.history
  lineage := hproceeds.lineage
  member := by
    intro committed hc
    exact h.member committed (hproceeds.keeps.committed.symm.trans hc)
  waits := by
    rcases hproceeds.sends with ⟨hbusy, hawaited⟩ | ⟨-, hbusy, removing, kept, body, committed,
      hawaited, hcleanup⟩
    · rcases h.waits with ⟨hidle, hnone⟩ | ⟨hbusy', a, ha, hok⟩
      · exact .inl ⟨hbusy.trans hidle, hawaited.trans hnone⟩
      · refine .inr ⟨hbusy.trans hbusy', a, hawaited.trans ha, ?_⟩
        cases a with
        | replacement purpose body answer =>
          refine ⟨hok.1, fun removing kept hpurpose => ?_⟩
          obtain ⟨committed, hcleanup⟩ := hok.2 removing kept hpurpose
          exact ⟨committed, hcleanup.keeps hproceeds.keeps (List.subset_append_right _ _)⟩
        | catalogue | targets => trivial
    · refine .inr ⟨hbusy, _, hawaited, ⟨?_, ?_⟩⟩
      · intro payload hanswer
        cases hanswer
      intro removing' kept' hpurpose
      obtain ⟨rfl, rfl⟩ := Purpose.cleanup.inj hpurpose
      exact ⟨committed, hcleanup⟩

/-- Nothing is awaited any more, in an editor with this lineage. -/
theorem of_idle (h : Session service p) {e : Editor}
    (hlineage : Lineage service.schema p.returned e)
    (hmember : ∀ committed, e.committedCatalogue = some committed → committed ∈ p.committed)
    (hbusy : e.managerBusy = false) (hawaited : e.awaited = []) :
    Session service { p with editor := e } :=
  ⟨h.history, hlineage, hmember, .inl ⟨hbusy, hawaited⟩⟩

/-- Something other than a cleanup's request is awaited, in an editor with this lineage. -/
theorem of_busy (h : Session service p) {e : Editor}
    (hlineage : Lineage service.schema p.returned e)
    (hmember : ∀ committed, e.committedCatalogue = some committed → committed ∈ p.committed)
    (hbusy : e.managerBusy = true) {a : Awaited} (hawaited : e.awaited = [a])
    (hok : AwaitedOk service { p with editor := e } a) : Session service { p with editor := e } :=
  ⟨h.history, hlineage, hmember, .inr ⟨hbusy, a, hawaited, hok⟩⟩

/-- The editor has proceeded, and no options have been returned. -/
theorem proceeds (h : Session service p) {e : Editor}
    (hproceeds : Proceeds service.schema p.returned p.editor e) :
    Session service { p with editor := e } :=
  h.of_proceeds [] hproceeds

/-- The user works on the list. -/
theorem edit (h : Session service p) (tables : TextTables) (edit : Edit) :
    Session service { p with editor := p.editor.edit tables edit } := by
  have hlineage := h.lineage.edit service.kind_reserved tables edit
  have hquiet := p.editor.edit_quiet tables edit
  cases hbusy : p.editor.managerBusy with
  | true =>
    rw [Editor.edit_of_busy tables hbusy]
    exact h
  | false =>
    refine h.of_idle hlineage ?_ (hquiet.busy.trans hbusy) (hquiet.awaited.trans (h.idle hbusy))
    intro committed hc
    exact h.member committed (hquiet.committed.symm.trans hc)

/-- The two requests of a reload are sent. -/
theorem load (h : Session service p) : Session service { p with editor := p.editor.loadManager } := by
  unfold Editor.loadManager
  split
  · exact h
  rename_i hbusy
  have hnone := h.idle (Bool.eq_false_iff.mpr hbusy)
  have hframe : Lineage service.schema p.returned { p.editor with managerBusy := true } :=
    h.lineage.frame rfl rfl rfl rfl rfl rfl (fun _ hr => hr) rfl fun _ hr => hr
  have hrendered := hframe.renderEditor
  have hsteady := Steady.renderEditor { p.editor with managerBusy := true }
  generalize Editor.renderEditor { p.editor with managerBusy := true } = rendered
    at hrendered hsteady
  refine h.of_busy (a := .catalogue) ?_ ?_ hsteady.busy ?_ trivial
  · exact hrendered.frame rfl rfl rfl rfl rfl rfl (fun _ hr => hr) rfl fun _ hr => hr
  · intro committed hc
    exact h.member committed (hsteady.committed.symm.trans hc)
  · simp [hsteady.awaited, hnone]

/-- A save is sent. -/
theorem save (h : Session service p) : Session service { p with editor := p.editor.saveManager } := by
  unfold Editor.saveManager
  split
  · exact h
  rename_i hguard
  have hbusy : p.editor.managerBusy = false := by
    simp only [Bool.or_eq_true, not_or, Bool.not_eq_true] at hguard
    exact hguard.2
  split
  · rename_i committed schema hc _
    split
    · exact h
    have hnone := h.idle hbusy
    have hframe : Lineage service.schema p.returned { p.editor with managerBusy := true } :=
      h.lineage.frame rfl rfl rfl rfl rfl rfl (fun _ hr => hr) rfl fun _ hr => hr
    have hrendered := hframe.renderEditor
    have hsteady := Steady.renderEditor { p.editor with managerBusy := true }
    dsimp only
    generalize Editor.renderEditor { p.editor with managerBusy := true } = rendered
      at hrendered hsteady ⊢
    refine h.of_busy (a := .replacement .save ⟨committed.provider.val, committed.revision,
      Editor.catalogueTargetsForRequest (rendered.editing.map rendered.target)⟩ none) ?_ ?_
      hsteady.busy ?_ ⟨?_, ?_⟩
    · exact hrendered.frame rfl rfl rfl rfl rfl rfl (fun _ hr => hr) rfl fun _ hr => hr
    · intro committed hc
      exact h.member committed (hsteady.committed.symm.trans hc)
    · simp [Editor.replaceCatalogueTargets, hsteady.awaited, hnone]
    · intro payload hanswer
      cases hanswer
    · intro removing kept hpurpose
      cases hpurpose
  · exact h

/-- A save or a cleanup has come to its end. -/
theorem finish (h : Session service p) {index : Nat} {a : Awaited}
    (ha : p.editor.awaited[index]? = some a) (purpose : Purpose) :
    Session service { p with editor := (Page.settle p.editor index).finish purpose } := by
  obtain ⟨-, hawaited, rfl, -⟩ := h.awaiting ha
  have hsettled : Lineage service.schema p.returned (Page.settle p.editor 0) :=
    h.lineage.frame rfl rfl rfl rfl rfl rfl (fun _ hr => hr) rfl fun _ hr => hr
  have hnone : (Page.settle p.editor 0).awaited = [] := by simp [Page.settle, hawaited]
  cases purpose with
  | save =>
    have hfree : Lineage service.schema p.returned
        { Page.settle p.editor 0 with managerBusy := false } :=
      hsettled.frame rfl rfl rfl rfl rfl rfl (fun _ hr => hr) rfl fun _ hr => hr
    have hidle := h.of_idle hfree h.member rfl hnone
    exact hidle.proceeds (Proceeds.of_steady hfree (.refl _)).render
  | cleanup removing kept =>
    have hfree : Lineage service.schema p.returned
        { Page.settle p.editor 0 with managerBusy := false, cleanupInProgress := false } :=
      hsettled.frame rfl rfl rfl rfl rfl rfl (fun _ hr => hr) rfl fun _ hr => hr
    have hidle := h.of_idle hfree h.member rfl hnone
    have hsteady := Steady.renderEditor
      { Page.settle p.editor 0 with managerBusy := false, cleanupInProgress := false }
    have hrendered := hidle.proceeds (Proceeds.of_steady hfree (.refl _)).render
    exact hrendered.proceeds (hrendered.lineage.cleanupUnavailableTargets fun _ =>
      hsteady.awaited.trans hnone)

/-- The history grows by what the server accepts. -/
theorem grow (h : Session service p) {answer : Option TargetCatalogue}
    (hanswer : ∀ payload, answer = some payload → ∃ current body,
      p.committed.head? = some current ∧ Accepted service current body payload) :
    Session service { p with committed := answer.toList ++ p.committed } := by
  cases answer with
  | none => exact h
  | some payload =>
    obtain ⟨current, body, hcurrent, haccepted⟩ := hanswer payload rfl
    refine ⟨h.history.commit hcurrent haccepted, h.lineage, ?_, ?_⟩
    · intro committed hc
      exact List.mem_cons_of_mem _ (h.member committed hc)
    · refine h.waits.imp_right ?_
      rintro ⟨hbusy, a, hawaited, hok⟩
      refine ⟨hbusy, a, hawaited, ?_⟩
      cases a with
      | replacement purpose body answer =>
        refine ⟨fun payload hpayload => ?_, hok.2⟩
        obtain ⟨hmem, haccepted⟩ := hok.1 payload hpayload
        exact ⟨List.mem_cons_of_mem _ hmem, haccepted⟩
      | catalogue | targets => trivial

theorem commit_spec {body : CatalogueReplacement} {payload : TargetCatalogue}
    (h : p.commit service body = some payload) :
    ∃ current, p.committed.head? = some current ∧ Accepted service current body payload := by
  unfold Page.commit at h
  obtain ⟨current, hcurrent, haccept⟩ := Option.bind_eq_some_iff.mp h
  exact ⟨current, hcurrent, Service.accept_spec haccept⟩

/-- The server handles a replacement. -/
theorem serve (h : Session service p) {index : Nat} {purpose : Purpose}
    {body : CatalogueReplacement}
    (ha : p.editor.awaited[index]? = some (.replacement purpose body none))
    {answer : Option TargetCatalogue} (hanswer : ∀ payload, answer = some payload →
      ∃ current, p.committed.head? = some current ∧ Accepted service current body payload) :
    Session service { p with
      editor := { p.editor with
        awaited := p.editor.awaited.set index (.replacement purpose body (some answer)) }
      committed := answer.toList ++ p.committed } := by
  obtain ⟨hbusy, hawaited, rfl, hok⟩ := h.awaiting ha
  have hgrown := h.grow fun payload hsome => by
    obtain ⟨current, hcurrent, haccepted⟩ := hanswer payload hsome
    exact ⟨current, body, hcurrent, haccepted⟩
  refine hgrown.of_busy (a := .replacement purpose body (some answer)) ?_ hgrown.member hbusy ?_
    ⟨?_, ?_⟩
  · exact h.lineage.frame rfl rfl rfl rfl rfl rfl (fun _ hr => hr) rfl fun _ hr => hr
  · simp [hawaited]
  · intro payload hsome
    obtain rfl := Option.some.inj hsome
    obtain ⟨current, -, haccepted⟩ := hanswer payload rfl
    exact ⟨List.mem_append_left _ (by simp), current, haccepted⟩
  · intro removing kept hpurpose
    obtain ⟨committed, hcleanup⟩ := hok.2 removing kept hpurpose
    exact ⟨committed, hcleanup.keeps ⟨rfl, rfl, rfl, rfl⟩ (List.Subset.refl _)⟩

/-- The answer to a replacement arrives: a save starts a new lineage, and a cleanup leaves its own
list. -/
theorem replaced (h : Session service p) {index : Nat} {purpose : Purpose}
    {body : CatalogueReplacement} {payload : TargetCatalogue}
    (ha : p.editor.awaited[index]? = some (.replacement purpose body (some (some payload)))) :
    Session service
      { p with editor := (Page.settle p.editor index).replacementReply purpose (some payload) } := by
  obtain ⟨hbusy, hawaited, rfl, hok⟩ := h.awaiting ha
  obtain ⟨hmem, current, haccepted⟩ := hok.1 payload rfl
  have hsettled : Lineage service.schema p.returned (Page.settle p.editor 0) :=
    h.lineage.frame rfl rfl rfl rfl rfl rfl (fun _ hr => hr) rfl fun _ hr => hr
  have hnone : (Page.settle p.editor 0).awaited = [] := by simp [Page.settle, hawaited]
  have hpayload : ∀ committed, some payload = some committed → committed ∈ p.committed := by
    intro committed hc
    exact Option.some.inj hc ▸ hmem
  cases purpose with
  | save =>
    have hadopted := hsettled.adoptCommittedCatalogue payload
    obtain ⟨heap, names, heq, -⟩ := Editor.clones payload.targets (Page.settle p.editor 0)
    refine h.of_busy (a := .targets .save) ?_ hpayload ?_ ?_ trivial
    · exact hadopted.frame rfl rfl rfl rfl rfl rfl (fun _ hr => hr) rfl fun _ hr => hr
    · simp only [Editor.replacementReply, Editor.adoptCommittedCatalogue, heq]
      exact hbusy
    · simp only [Editor.replacementReply, Editor.adoptCommittedCatalogue, heq]
      rw [hnone]
      rfl
  | cleanup removing kept =>
    obtain ⟨committed, hcleanup⟩ := hok.2 removing kept rfl
    have hcleaned := h.lineage.cleaned hcleanup
      (h.history.normal committed (h.member committed hcleanup.current)) haccepted
    refine h.of_busy (a := .targets (.cleanup removing kept)) ?_ hpayload hbusy ?_ trivial
    · exact hcleaned.frame rfl rfl rfl rfl rfl rfl (fun _ hr => hr) rfl fun _ hr => hr
    · simp [Editor.replacementReply, hnone]

/-- The catalogue arrives as it was at some time, or the requests fail. -/
theorem catalogue (h : Session service p) {index : Nat}
    (ha : p.editor.awaited[index]? = some .catalogue) (read : Option TargetCatalogue)
    (hread : ∀ payload, read = some payload → payload ∈ p.committed) :
    Session service { p with
      editor := (Page.settle p.editor index).catalogueReply (read.map (service.schema, ·)) } := by
  obtain ⟨-, hawaited, rfl, -⟩ := h.awaiting ha
  have hsettled : Lineage service.schema p.returned (Page.settle p.editor 0) :=
    h.lineage.frame rfl rfl rfl rfl rfl rfl (fun _ hr => hr) rfl fun _ hr => hr
  have hnone : (Page.settle p.editor 0).awaited = [] := by simp [Page.settle, hawaited]
  cases read with
  | none =>
    have hfree : Lineage service.schema p.returned
        { Page.settle p.editor 0 with managerLoaded := false, managerBusy := false } :=
      hsettled.frame rfl rfl rfl rfl rfl rfl (fun _ hr => hr) rfl fun _ hr => hr
    exact (h.of_idle hfree h.member rfl hnone).proceeds (Proceeds.of_steady hfree (.refl _)).render
  | some payload =>
    have hloaded : Lineage service.schema p.returned
        { Page.settle p.editor 0 with targetSchema := some service.schema } :=
      { hsettled with
        discovers := hsettled.discovers.congr rfl (fun _ hr => hr) rfl rfl (fun _ hr => hr) rfl
        loaded := by
          intro s hs
          exact (Option.some.inj hs).symm }
    have hadopted := hloaded.adoptCommittedCatalogue payload
    obtain ⟨heap, names, heq, -⟩ := Editor.clones payload.targets
      { Page.settle p.editor 0 with targetSchema := some service.schema }
    have hfree : Lineage service.schema p.returned { Editor.adoptCommittedCatalogue
        { Page.settle p.editor 0 with targetSchema := some service.schema } payload with
        managerLoaded := true, managerBusy := false } :=
      hadopted.frame rfl rfl rfl rfl rfl rfl (fun _ hr => hr) rfl fun _ hr => hr
    have hidle := h.of_idle hfree
      (fun committed hc => Option.some.inj hc ▸ hread payload rfl) rfl (by
        simp only [Editor.adoptCommittedCatalogue, heq]
        exact hnone)
    exact hidle.proceeds (Proceeds.of_steady hfree (.refl _)).render

/-- Every happening keeps the invariant. -/
theorem step (h : Session service p) (tables : TextTables) (action : Action) :
    Session service (p.step tables service action) := by
  cases action with
  | edit edit => exact h.edit tables edit
  | load => exact h.load
  | save => exact h.save
  | options index reply =>
    simp only [Page.step]
    split
    · rename_i request hrequest
      exact h.of_proceeds _
        (h.lineage.optionsReply tables (List.mem_of_getElem? hrequest) reply h.idle).1
    · exact h
  | serve index refused =>
    simp only [Page.step]
    split
    · rename_i purpose body ha
      refine h.serve ha ?_
      intro payload hsome
      split at hsome
      · cases hsome
      · exact commit_spec hsome
    · exact h
  | replaced index lost =>
    simp only [Page.step]
    split
    · rename_i purpose body answer ha
      split
      · exact h.finish ha purpose
      · cases answer with
        | none => exact h
        | some reply =>
          cases reply with
          | none => exact h.finish ha purpose
          | some payload => exact h.replaced ha
    · exact h
  | catalogue index reply =>
    simp only [Page.step]
    split
    · rename_i ha
      refine h.catalogue ha _ ?_
      intro payload hread
      obtain ⟨ago, -, hago⟩ := Option.bind_eq_some_iff.mp hread
      exact List.mem_of_getElem? hago
    · exact h
  | targets index =>
    simp only [Page.step]
    split
    · rename_i purpose ha
      exact h.finish ha purpose
    · exact h
  | otherSession targets =>
    simp only [Page.step]
    split
    · rename_i current hcurrent
      refine h.grow ?_
      intro payload hsome
      exact ⟨current, _, hcurrent, Service.accept_spec hsome⟩
    · exact h

/-- It holds of every session. -/
theorem run (tables : TextTables) (service : Service) (actions : List Action) :
    Session service (Page.run tables service actions) := by
  unfold Page.run
  have hstart := initial service
  generalize Page.initial service = p at hstart
  induction actions generalizing p with
  | nil => exact hstart
  | cons action actions ih => exact ih _ (hstart.step tables action)

end Session

/-! ## What is sent, and what is left -/

namespace Editor

theorem renderEditor_target (e : Editor) : e.renderEditor.target = e.target := by
  obtain ⟨_, _, _, _, heq⟩ := Rendered.renderEditor e
  rw [heq]

theorem cleanupUnavailableTargets_target (e : Editor) :
    e.cleanupUnavailableTargets.target = e.target := by
  unfold cleanupUnavailableTargets
  split
  · rfl
  split
  · dsimp only
    split
    · rfl
    split
    · rfl
    · exact renderEditor_target _
  · rfl

theorem finish_target (e : Editor) (purpose : Purpose) : (e.finish purpose).target = e.target := by
  cases purpose with
  | save => exact renderEditor_target _
  | cleanup => exact (cleanupUnavailableTargets_target _).trans (renderEditor_target _)

end Editor

namespace Session

variable {service : Service} {p : Page}

/-- The end of a save or a cleanup leaves the list as it is. -/
theorem finish_keeps (h : Session service p) {index : Nat} {a : Awaited}
    (ha : p.editor.awaited[index]? = some a) (purpose : Purpose) :
    Keeps p.editor ((Page.settle p.editor index).finish purpose) := by
  obtain ⟨-, hawaited, rfl, -⟩ := h.awaiting ha
  have hsettled : Lineage service.schema p.returned (Page.settle p.editor 0) :=
    h.lineage.frame rfl rfl rfl rfl rfl rfl (fun _ hr => hr) rfl fun _ hr => hr
  have hnone : (Page.settle p.editor 0).awaited = [] := by simp [Page.settle, hawaited]
  cases purpose with
  | save =>
    have hsteady := Steady.renderEditor { Page.settle p.editor 0 with managerBusy := false }
    have hfree : Keeps p.editor { Page.settle p.editor 0 with managerBusy := false } :=
      ⟨rfl, rfl, rfl, rfl⟩
    exact hfree.trans hsteady.toKeeps
  | cleanup removing kept =>
    have hfree : Lineage service.schema p.returned
        { Page.settle p.editor 0 with managerBusy := false, cleanupInProgress := false } :=
      hsettled.frame rfl rfl rfl rfl rfl rfl (fun _ hr => hr) rfl fun _ hr => hr
    have hsteady := Steady.renderEditor
      { Page.settle p.editor 0 with managerBusy := false, cleanupInProgress := false }
    have hcleanup := hfree.renderEditor.cleanupUnavailableTargets fun _ =>
      hsteady.awaited.trans hnone
    have hkeeps : Keeps p.editor
        { Page.settle p.editor 0 with managerBusy := false, cleanupInProgress := false } :=
      ⟨rfl, rfl, rfl, rfl⟩
    exact hkeeps.trans (hsteady.toKeeps.trans hcleanup.keeps)

/-- What is queued when a cleanup ends is taken out by the next. -/
theorem finish_removes (h : Session service p) (index : Nat) (removing kept : List Ref)
    (hloaded : p.editor.managerLoaded = true) {r : Ref} (hr : r ∈ p.editor.unavailableTargets)
    (hediting : r ∈ p.editor.editing) :
    Removes service.schema p.returned
      ((Page.settle p.editor index).finish (.cleanup removing kept)) r := by
  have hfree : Lineage service.schema p.returned
      { Page.settle p.editor index with managerBusy := false, cleanupInProgress := false } :=
    h.lineage.frame rfl rfl rfl rfl rfl rfl (fun _ hr => hr) rfl fun _ hr => hr
  obtain ⟨_, _, _, _, heq⟩ := Rendered.renderEditor
    { Page.settle p.editor index with managerBusy := false, cleanupInProgress := false }
  refine hfree.renderEditor.cleanup_removes ?_ ?_ ?_
  · rw [heq]
    exact ⟨hloaded, rfl, rfl⟩
  · rw [heq]
    exact hr
  · rw [heq]
    exact hediting

/-- What a save sends. -/
theorem save_sends (h : Session service p) {body : CatalogueReplacement}
    (hsent : .replacement .save body none ∈ p.editor.saveManager.awaited)
    (hnew : .replacement .save body none ∉ p.editor.awaited) :
    ∃ committed editable, p.editor.committedCatalogue = some committed ∧
      p.editor.editableCatalogue = some editable ∧ editable.revision = committed.revision ∧
      body = ⟨committed.provider.val, editable.revision, Editor.catalogueTargetsForRequest
        (p.editor.editing.map p.editor.target)⟩ := by
  unfold Editor.saveManager at hsent
  split at hsent
  · exact absurd hsent hnew
  split at hsent
  · rename_i committed schema hc _
    split at hsent
    · exact absurd hsent hnew
    obtain ⟨editable, heditable, hrevision⟩ : ∃ editable,
        p.editor.editableCatalogue = some editable ∧ editable.revision = committed.revision := by
      have hsame := h.lineage.revision
      rw [hc] at hsame
      cases heditable : p.editor.editableCatalogue with
      | none => simp [heditable] at hsame
      | some editable =>
        rw [heditable] at hsame
        exact ⟨editable, rfl, (Prod.ext_iff.mp (Option.some.inj hsame)).2⟩
    refine ⟨committed, editable, hc, heditable, hrevision, ?_⟩
    obtain ⟨states, requests, n, hn, heq⟩ :=
      Rendered.renderEditor { p.editor with managerBusy := true }
    simp only [heq, Editor.replaceCatalogueTargets, List.mem_append, List.mem_singleton] at hsent
    obtain hbody := (Awaited.replacement.inj (hsent.resolve_left hnew)).2.1
    rw [hbody, hrevision]
    rfl
  · exact absurd hsent hnew

end Session

/-- **The catalogue is kept by the editor.** At any point of any session: a cleanup in flight
carries the revision of the committed catalogue and the targets committed at it, unedited and in
their order, but those it takes out, whose values are missing; a target found missing while the
editor is ready, or queued when a cleanup ends, is taken out by the cleanup that follows, unless
all committed targets are missing; sending a cleanup leaves the edited list as it is, and its answer
takes out what it has removed and nothing else; and a save carries the edited list and the revision
that it descends from. -/
theorem catalogue_kept (tables : TextTables) (service : Service) (actions : List Action) :
    let p := Page.run tables service actions
    (∀ removing kept body answer,
      .replacement (.cleanup removing kept) body answer ∈ p.editor.awaited →
      ∃ committed, CleanupOf service.schema p.returned p.editor removing kept body committed ∧
        p.committed.find? (·.revision = committed.revision) = some committed) ∧
    (∀ index request options, p.editor.Ready → p.editor.discoveries[index]? = some request →
      FoundMissing p.editor request options →
      let p' := p.step tables service (.options index (some options))
      Removes service.schema p'.returned p'.editor request.target) ∧
    (∀ index removing kept, p.editor.awaited[index]? = some (.targets (.cleanup removing kept)) →
      p.editor.managerLoaded = true →
      ∀ r ∈ p.editor.unavailableTargets, r ∈ p.editor.editing →
      let p' := p.step tables service (.targets index)
      Removes service.schema p'.returned p'.editor r) ∧
    (∀ index reply, Keeps p.editor (p.step tables service (.options index reply)).editor) ∧
    (∀ index, Keeps p.editor (p.step tables service (.targets index)).editor) ∧
    (∀ index removing kept body answer lost,
      p.editor.awaited[index]? = some (.replacement (.cleanup removing kept) body answer) →
      let p' := p.step tables service (.replaced index lost)
      (p'.editor.editing = p.editor.editing ∨
          p'.editor.editing = p.editor.editing.filter (· ∉ removing)) ∧
        p'.editor.target = p.editor.target ∧
        p'.editor.newDestinationDraft = p.editor.newDestinationDraft) ∧
    ∀ body, .replacement .save body none ∈ p.editor.saveManager.awaited →
      .replacement .save body none ∉ p.editor.awaited →
      ∃ committed editable, p.editor.committedCatalogue = some committed ∧
        p.committed.find? (·.revision = committed.revision) = some committed ∧
        p.editor.editableCatalogue = some editable ∧ editable.revision = committed.revision ∧
        body = ⟨committed.provider.val, editable.revision, Editor.catalogueTargetsForRequest
          (p.editor.editing.map p.editor.target)⟩ ∧
        ∀ r ∈ p.editor.editing, p.editor.newDestinationDraft = some r ∨
          ∃ t ∈ committed.targets, p.editor.targetIdentity r = some t.alias.val := by
  intro p
  have h : Session service p := Session.run tables service actions
  refine ⟨?_, ?_, ?_, ?_, ?_, ?_, ?_⟩
  · intro removing kept body answer hmem
    obtain ⟨index, ha⟩ := List.mem_iff_getElem?.mp hmem
    obtain ⟨-, -, -, hok⟩ := h.awaiting ha
    obtain ⟨committed, hcleanup⟩ := hok.2 removing kept rfl
    exact ⟨committed, hcleanup, h.history.at_revision (h.member committed hcleanup.current)⟩
  · intro index request options hready hrequest hfound
    have hreply := h.lineage.optionsReply tables (List.mem_of_getElem? hrequest) (some options)
      h.idle
    simp only [Page.step, hrequest]
    exact hreply.2 options rfl hready hfound
  · intro index removing kept ha hloaded r hr hediting
    simp only [Page.step, ha]
    exact h.finish_removes index removing kept hloaded hr hediting
  · intro index reply
    simp only [Page.step]
    split
    · rename_i request hrequest
      exact (h.lineage.optionsReply tables (List.mem_of_getElem? hrequest) reply h.idle).1.keeps
    · exact .refl _
  · intro index
    simp only [Page.step]
    split
    · rename_i purpose ha
      exact h.finish_keeps ha purpose
    · exact .refl _
  · intro index removing kept body answer lost ha
    have hfailed := h.finish_keeps ha (.cleanup removing kept)
    have htarget := (Page.settle p.editor index).finish_target (.cleanup removing kept)
    simp only [Page.step, ha]
    split
    · exact ⟨.inl hfailed.editing, htarget, hfailed.draft⟩
    · cases answer with
      | none => exact ⟨.inl rfl, rfl, rfl⟩
      | some reply =>
        cases reply with
        | none => exact ⟨.inl hfailed.editing, htarget, hfailed.draft⟩
        | some payload =>
          obtain ⟨-, -, -, hok⟩ := h.awaiting ha
          obtain ⟨committed, hcleanup⟩ := hok.2 removing kept rfl
          exact ⟨.inr hcleanup.left, rfl, rfl⟩
  · intro body hsent hnew
    obtain ⟨committed, editable, hc, heditable, hrevision, hbody⟩ := h.save_sends hsent hnew
    exact ⟨committed, editable, hc, h.history.at_revision (h.member committed hc), heditable,
      hrevision, hbody, h.lineage.origin committed hc⟩

/-! ## What a cleanup does not take out -/

/-- The service with the NordVPN adapter, whose normal forms are their own. -/
def nordVpnService (unicode : Python.UnicodeData) (hunicode : unicode.FoldsAscii)
    (initial : TargetCatalogue)
    (hinitial : Normal (fun s => (NordVpn.validateSelector unicode s).toOption) initial) :
    Service where
  schema := NordVpn.targetSchema
  kind_reserved := by decide
  normalise := fun s => (NordVpn.validateSelector unicode s).toOption
  normalise_normal := by
    intro selector normal h
    cases hvalid : NordVpn.validateSelector unicode selector with
    | error e => simp [hvalid, Except.toOption] at h
    | ok result =>
      obtain rfl : result = normal := by simpa [hvalid, Except.toOption] using h
      obtain ⟨s, -, hs, rfl⟩ := NordVpn.validateSelector_eq_ok_iff.mp hvalid
      have hagain : NordVpn.validateSelector unicode (s.normalized unicode).document =
          .ok (s.normalized unicode).document := by
        refine NordVpn.validateSelector_eq_ok_iff.mpr
          ⟨s.normalized unicode, .refl _, NordVpn.Selector.normalized_valid hunicode hs, ?_⟩
        rw [NordVpn.Selector.normalized_normalized hunicode hs.countryCode]
      rw [hagain]
      rfl
  initial := initial
  initial_normal := hinitial

/-- A destination of the type "Fastest in country". -/
def countryTarget (name : Identifier) (position : Fin 100) (country : String)
    (h : boundedSelector (NordVpn.Selector.country country).document) : StoredTarget :=
  ⟨name, ⟨"Country", NordVpn.country_label⟩, position, (NordVpn.Selector.country country).document, h⟩

def threeCountries : TargetCatalogue where
  provider := NordVpn.name
  revision := 7
  targets := [countryTarget ⟨"us", by decide⟩ 0 "us" (by decide),
    countryTarget ⟨"de", by decide⟩ 1 "de" (by decide),
    countryTarget ⟨"fr", by decide⟩ 2 "fr" (by decide)]
  order := by decide

def threeCountriesService : Service :=
  nordVpnService Python.asciiData Python.asciiData_foldsAscii threeCountries (by
    unfold Normal
    decide)

/-- The user takes the first destination out of the list. Then the provider returns no country,
neither for the first destination nor for the second. -/
def removedThenMissing : Page :=
  Page.run ⟨id, id⟩ threeCountriesService
    [.load, .catalogue 0 (some 0), .edit (.remove 0), .options 0 (some []), .options 0 (some [])]

/-- A cleanup does not take out a missing target that the user has taken out of the list. -/
theorem removed_kept :
    ¬ ∀ (tables : TextTables) (service : Service) (actions : List Action) (removing kept : List Ref)
        (body : CatalogueReplacement) (committed : TargetCatalogue),
      let p := Page.run tables service actions
      .replacement (.cleanup removing kept) body none ∈ p.editor.awaited →
      p.editor.committedCatalogue = some committed →
      ∀ t ∈ committed.targets, Missing service.schema p.returned t.selector →
        t.alias.val ∉ body.targets.map (·.alias) := by
  intro h
  have hawaited : removedThenMissing.editor.awaited = [.replacement (.cleanup [1] [2])
      ⟨"nordvpn", 7, [⟨"us", "Country", 0, (NordVpn.Selector.country "us").document⟩,
        ⟨"fr", "Country", 1, (NordVpn.Selector.country "fr").document⟩]⟩ none] := by
    decide
  have hmissing : Missing threeCountriesService.schema removedThenMissing.returned
      (NordVpn.Selector.country "us").document := by
    refine ⟨removedThenMissing.returned.get ⟨1, by decide⟩, List.get_mem _ _, ?_, ?_, ?_, ?_, ?_, ?_⟩
    · decide
    · decide
    · decide
    · decide
    · decide
    · decide
  refine h ⟨id, id⟩ threeCountriesService _ [1] [2] _ threeCountries
    (hawaited ▸ List.mem_cons_self) ?_ (countryTarget ⟨"us", by decide⟩ 0 "us" (by decide))
    List.mem_cons_self hmissing ?_
  · decide
  · decide

end Snarkypuss.Dashboard
