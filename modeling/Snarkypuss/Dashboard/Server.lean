import Snarkypuss.Dashboard.Session

/-!
# The catalogues a session commits

What the server makes of a replacement. Stored selectors are normal forms, so a replacement by
stored targets is stored as it was sent.

## Main definitions

* `History`: the committed catalogues, the last one first

## Main results

* `Service.accept_spec`: what a replacement that is accepted becomes
* `History.commit`: an accepted replacement extends the history
* `History.at_revision`: a committed catalogue is the one of its revision
-/

namespace Snarkypuss.Dashboard

/-- The committed catalogues: one at least, with falling revisions, and all in normal form. -/
structure History (service : Service) (committed : List TargetCatalogue) : Prop where
  nonempty : committed ≠ []
  falling : (committed.map (·.revision)).Pairwise (· > ·)
  normal : ∀ catalogue ∈ committed, Normal service.normalise catalogue

/-- A stored target is the request for it, with its selector in normal form. -/
structure StoredAs (service : Service) (request : RequestTarget) (target : StoredTarget) : Prop where
  name : target.alias.val = request.alias
  label : target.label.val = request.label
  selector : service.normalise request.selector = some target.selector

theorem Service.store_spec {service : Service} {request : RequestTarget} {target : StoredTarget}
    (h : service.store request = some target) : StoredAs service request target := by
  unfold store at h
  obtain ⟨selector, hselector, htarget⟩ := Option.bind_eq_some_iff.mp h
  unfold StoredTarget.validate at htarget
  split at htarget
  · obtain rfl := Option.some.inj htarget
    exact ⟨rfl, rfl, hselector⟩
  · cases htarget

theorem mapM_store {service : Service} {requests : List RequestTarget}
    {targets : List StoredTarget} (h : requests.mapM service.store = some targets) :
    List.Forall₂ (StoredAs service) requests targets := by
  induction requests generalizing targets with
  | nil =>
    obtain rfl : [] = targets := by simpa using h
    exact .nil
  | cons request requests ih =>
    rw [List.mapM_cons] at h
    obtain ⟨target, htarget, h⟩ := Option.bind_eq_some_iff.mp h
    obtain ⟨rest, hrest, h⟩ := Option.bind_eq_some_iff.mp h
    obtain rfl : target :: rest = targets := by simpa using h
    exact .cons (Service.store_spec htarget) (ih hrest)

/-- A replacement that is accepted. -/
structure Accepted (service : Service) (current : TargetCatalogue) (body : CatalogueReplacement)
    (payload : TargetCatalogue) : Prop where
  revision : body.expectedRevision = current.revision
  next : payload.revision = current.revision + 1
  stored : List.Forall₂ (StoredAs service) body.targets payload.targets

theorem Service.accept_spec {service : Service} {current : TargetCatalogue}
    {body : CatalogueReplacement} {payload : TargetCatalogue}
    (h : service.accept current body = some payload) : Accepted service current body payload := by
  unfold accept at h
  split at h
  · rename_i hcurrent
    obtain ⟨targets, htargets, h⟩ := Option.bind_eq_some_iff.mp h
    have hvalid : TargetCatalogue.validate current.provider.val (current.revision + 1) targets =
        .ok payload := by
      cases hv : TargetCatalogue.validate current.provider.val (current.revision + 1) targets with
      | ok c =>
        rw [hv] at h
        obtain rfl := Option.some.inj h
        rfl
      | error e =>
        rw [hv] at h
        cases h
    obtain ⟨-, hrevision, hsame⟩ := TargetCatalogue.validate_eq_ok_iff.mp hvalid
    refine ⟨hcurrent.2, by exact_mod_cast hrevision, ?_⟩
    rw [hsame]
    exact mapM_store htargets
  · cases h

theorem exists_of_mem_right {A B : Type} {R : A → B → Prop} {as : List A} {bs : List B}
    (h : List.Forall₂ R as bs) {b : B} (hb : b ∈ bs) : ∃ a ∈ as, R a b := by
  induction h with
  | nil => cases hb
  | cons hab _ ih =>
    rcases List.mem_cons.mp hb with rfl | hb
    · exact ⟨_, List.mem_cons_self, hab⟩
    · obtain ⟨a, ha, hab⟩ := ih hb
      exact ⟨a, List.mem_cons_of_mem _ ha, hab⟩

namespace Accepted

variable {service : Service} {current payload : TargetCatalogue} {body : CatalogueReplacement}

/-- Stored targets are in normal form. -/
theorem normal (h : Accepted service current body payload) : Normal service.normalise payload := by
  intro target htarget
  obtain ⟨request, -, hstored⟩ := exists_of_mem_right h.stored htarget
  exact service.normalise_normal _ _ hstored.selector

theorem mem_requests {targets : List EditorTarget} {request : RequestTarget}
    (h : request ∈ Editor.catalogueTargetsForRequest targets) :
    ∃ target ∈ targets, request.alias = target.alias ∧ request.selector = target.selector := by
  unfold Editor.catalogueTargetsForRequest at h
  obtain ⟨i, hi, rfl⟩ := List.mem_mapIdx.mp h
  exact ⟨targets[i], List.getElem_mem hi, rfl, rfl⟩

theorem exists_request {targets : List EditorTarget} {target : EditorTarget} (h : target ∈ targets) :
    ∃ request ∈ Editor.catalogueTargetsForRequest targets,
      request.alias = target.alias ∧ request.selector = target.selector := by
  obtain ⟨i, hi, rfl⟩ := List.mem_iff_getElem.mp h
  exact ⟨_, List.mem_mapIdx.mpr ⟨i, hi, rfl⟩, rfl, rfl⟩

variable {targets : List StoredTarget}

/-- What a replacement by stored targets stores has the alias and the selector of one of them. -/
theorem source (h : Accepted service current body payload)
    (hbody : body.targets = Editor.catalogueTargetsForRequest (targets.map .ofStored))
    (hnormal : ∀ t ∈ targets, service.normalise t.selector = some t.selector) {t' : StoredTarget}
    (ht' : t' ∈ payload.targets) :
    ∃ t ∈ targets, t'.alias.val = t.alias.val ∧ t'.selector = t.selector := by
  obtain ⟨request, hrequest, hstored⟩ := exists_of_mem_right h.stored ht'
  rw [hbody] at hrequest
  obtain ⟨_, htarget, hname, hselector⟩ := mem_requests hrequest
  obtain ⟨t, ht, rfl⟩ := List.mem_map.mp htarget
  refine ⟨t, ht, hstored.name.trans hname, ?_⟩
  have hsame := hstored.selector
  rw [hselector] at hsame
  exact (Option.some.inj ((hnormal t ht).symm.trans hsame)).symm

/-- Every stored target that it was asked to store is there. -/
theorem image (h : Accepted service current body payload)
    (hbody : body.targets = Editor.catalogueTargetsForRequest (targets.map .ofStored))
    {t : StoredTarget} (ht : t ∈ targets) : ∃ t' ∈ payload.targets, t'.alias.val = t.alias.val := by
  obtain ⟨request, hrequest, hname, -⟩ :=
    exists_request (List.mem_map_of_mem (f := EditorTarget.ofStored) ht)
  rw [← hbody] at hrequest
  obtain ⟨t', ht', hstored⟩ := exists_of_mem_right h.stored.flip hrequest
  exact ⟨t', ht', hstored.name.trans hname⟩

end Accepted

namespace History

variable {service : Service} {committed : List TargetCatalogue}

theorem initial (service : Service) : History service [service.initial] where
  nonempty := by simp
  falling := List.pairwise_singleton _ _
  normal := by
    intro catalogue h
    obtain rfl := List.mem_singleton.mp h
    exact service.initial_normal

/-- An accepted replacement is the last catalogue of the history. -/
theorem commit (h : History service committed) {current payload : TargetCatalogue}
    (hcurrent : committed.head? = some current) {body : CatalogueReplacement}
    (haccepted : Accepted service current body payload) :
    History service (payload :: committed) where
  nonempty := by simp
  falling := by
    obtain ⟨rest, rfl⟩ : ∃ rest, committed = current :: rest := by
      cases committed with
      | nil => cases hcurrent
      | cons c rest => exact ⟨rest, by rw [Option.some.inj hcurrent]⟩
    have hfalling := h.falling
    simp only [List.map_cons, List.pairwise_cons] at hfalling ⊢
    refine ⟨?_, hfalling⟩
    intro revision hrevision
    rcases List.mem_cons.mp hrevision with rfl | hrevision
    · have := haccepted.next
      omega
    · have := haccepted.next
      have := hfalling.1 revision hrevision
      omega
  normal := by
    intro catalogue hcatalogue
    rcases List.mem_cons.mp hcatalogue with rfl | hcatalogue
    · exact haccepted.normal
    · exact h.normal catalogue hcatalogue

/-- A committed catalogue is the one that was committed at its revision. -/
theorem at_revision (h : History service committed) {catalogue : TargetCatalogue}
    (hmem : catalogue ∈ committed) :
    committed.find? (·.revision = catalogue.revision) = some catalogue := by
  have hfalling := h.falling
  clear h
  induction committed with
  | nil => cases hmem
  | cons c rest ih =>
    rw [List.map_cons, List.pairwise_cons] at hfalling
    rcases List.mem_cons.mp hmem with rfl | hmem
    · simp
    · have hlt := hfalling.1 catalogue.revision (List.mem_map_of_mem hmem)
      rw [List.find?_cons_of_neg (by simpa using Nat.ne_of_gt hlt)]
      exact ih hmem hfalling.2

end History

end Snarkypuss.Dashboard
