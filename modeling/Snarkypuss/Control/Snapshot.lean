import Snarkypuss.Control.PublicTargets
import Snarkypuss.Targets.SqliteRows

/-!
# The catalogue in memory and the committed one

The service reads the committed catalogue when it is constructed, and keeps a catalogue and a
dictionary of its own from then on. Over a repository that keeps the contract they are the committed
catalogue without the targets that the built-in one shadows, after every request, whatever the
requests, the provider's answers and the failures of the repository are.

## Main definitions

* `KeepsKind`: a provider whose normal form of a selector has its kind
* `Current`: the state is up to date with its repository

## Main results

* `dispatch_replaces`: a request replaces the catalogue, here and in the repository, or changes
  neither
* `catalogue_current`: the service is up to date in every run
-/

namespace Snarkypuss

open Daemon

variable {σ ρ τ : Type}

/-! ## Equal catalogues -/

section Same

variable {b : Option StoredTarget} {t t' : StoredTarget} {c c' c'' : TargetCatalogue}

theorem TargetCatalogue.Same.trans (h : c.Same c') (h' : c'.Same c'') : c.Same c'' := by
  obtain ⟨heq, hsame⟩ := List.forall₂_iff_get.mp h.targets_same
  obtain ⟨heq', hsame'⟩ := List.forall₂_iff_get.mp h'.targets_same
  refine ⟨h.provider_eq.trans h'.provider_eq, h.revision_eq.trans h'.revision_eq,
    List.forall₂_iff_get.mpr ⟨heq.trans heq', fun i hi hi'' => ?_⟩⟩
  exact (hsame i hi (heq ▸ hi)).trans (hsame' i (heq ▸ hi) hi'')

theorem isReserved_same (h : t.Same t') : isReserved t = isReserved t' := by
  unfold isReserved isRecommendedSelector
  rw [h.alias_eq, h.selector_same "kind"]

theorem filter_same {targets targets' : List StoredTarget}
    (h : List.Forall₂ StoredTarget.Same targets targets') :
    List.Forall₂ StoredTarget.Same (targets.filter fun t => !(b.isSome && isReserved t))
      (targets'.filter fun t => !(b.isSome && isReserved t)) := by
  induction h with
  | nil => exact .nil
  | @cons t t' targets targets' hsame _ ih =>
    rw [List.filter_cons, List.filter_cons, isReserved_same hsame]
    split
    · exact .cons hsame ih
    · exact ih

theorem renumber_same {targets targets' : List StoredTarget}
    (h : List.Forall₂ StoredTarget.Same targets targets') (hlength : targets.length ≤ maxTargets)
    (hlength' : targets'.length ≤ maxTargets) :
    List.Forall₂ StoredTarget.Same (renumber targets hlength) (renumber targets' hlength') := by
  obtain ⟨heq, hsame⟩ := List.forall₂_iff_get.mp h
  refine List.forall₂_iff_get.mpr ⟨by simp [renumber, heq], fun i hi hi' => ?_⟩
  have hi₁ : i < targets.length := by simpa [renumber] using hi
  have hi₂ : i < targets'.length := heq ▸ hi₁
  have ht := hsame i hi₁ hi₂
  simp only [renumber, List.get_ofFn]
  exact ⟨ht.alias_eq, ht.label_eq, rfl, ht.selector_same⟩

/-- What is editable of equal catalogues is equal. -/
theorem editable_same (h : c.Same c') :
    (ControlService.editable b c).Same (ControlService.editable b c') :=
  ⟨h.provider_eq, h.revision_eq, renumber_same (filter_same h.targets_same)
    ((List.length_filter_le _ _).trans c.order.1) ((List.length_filter_le _ _).trans c'.order.1)⟩

theorem renumber_self {targets : List StoredTarget} (h : ValidOrder targets) :
    renumber targets h.1 = targets := by
  refine List.ext_get (by simp [renumber]) fun i hi hi' => ?_
  have hposition : (targets.get ⟨i, hi'⟩).position.val = i := by
    have hrange := congrArg (fun positions : List ℕ => positions[i]?) h.2.2
    simpa [hi'] using hrange
  simp only [renumber, List.get_ofFn]
  have heta : ∀ t : StoredTarget, ∀ hlt, t.position.val = i →
      { t with position := ⟨i, hlt⟩ } = t := by
    rintro ⟨name, label, position, selector, bounded⟩ hlt rfl
    rfl
  exact heta _ _ hposition

/-- All of a catalogue is editable when nothing in it is reserved. -/
theorem editable_self (h : ∀ t ∈ c.targets, (b.isSome && isReserved t) = false) :
    ControlService.editable b c = c := by
  have hkept : (c.targets.filter fun t => !(b.isSome && isReserved t)) = c.targets := by
    refine List.filter_eq_self.mpr fun t ht => ?_
    rw [h t ht]
    rfl
  obtain ⟨p, revision, targets, order⟩ := c
  simp only [ControlService.editable, TargetCatalogue.mk.injEq, true_and]
  have hcongr : ∀ (kept : List StoredTarget) (hlength : kept.length ≤ maxTargets),
      kept = targets → renumber kept hlength = targets := by
    rintro kept hlength rfl
    exact renumber_self order
  exact hcongr _ _ hkept

end Same

/-! ## Requests -/

section Requests

variable {env : Environment σ ρ τ} {service : ControlService} (contract : RepositoryContract env.repository)
  {s₀ s : ServiceState σ ρ τ}

/-- A provider whose normal form of a selector has its kind. -/
def KeepsKind (provider : Handler vpnProvider PyException σ) : Prop :=
  ∀ selector p normalized, (provider (.validateSelector selector) p).1 = .ok normalized →
    isRecommendedSelector normalized = isRecommendedSelector selector

/-- The targets with the normal forms that a provider makes of their selectors. -/
def NormalForms (provider : Handler vpnProvider PyException σ)
    (targets normalized : List StoredTarget) : Prop :=
  List.Forall₂ (fun t t' => t'.alias = t.alias ∧ t'.label = t.label ∧ t'.position = t.position ∧
    ∃ p, (provider (.validateSelector t.selector) p).1 = .ok t'.selector) targets normalized

/-- No target becomes reserved. -/
theorem NormalForms.unreserved {provider : Handler vpnProvider PyException σ}
    (hkind : KeepsKind provider) {targets normalized : List StoredTarget}
    (h : NormalForms provider targets normalized)
    (hfree : targets.any service.isReservedBuiltinTarget = false) :
    ∀ t ∈ normalized, service.isReservedBuiltinTarget t = false := by
  induction h with
  | nil => exact fun t ht => by cases ht
  | @cons t t' targets normalized hsame _ ih =>
    rw [List.any_cons, Bool.or_eq_false_iff] at hfree
    obtain ⟨halias, -, -, p, hselector⟩ := hsame
    intro t₁ ht₁
    rcases List.mem_cons.mp ht₁ with rfl | ht₁
    · have hfirst := hfree.1
      unfold ControlService.isReservedBuiltinTarget isReserved at hfirst ⊢
      rw [halias, hkind _ _ _ hselector]
      exact hfirst
    · exact ih hfree.2 t₁ ht₁

/-- The normalised targets are those of the request. -/
theorem ensures_normalForms (targets : List StoredTarget) :
    Program.Ensures env.handler (fun _ => True) (ControlService.normalizeTargets targets)
      fun r _ => ∀ normalized, r = .ok normalized →
        NormalForms env.provider targets normalized := by
  induction targets with
  | nil =>
    refine Program.ensures_done fun _ _ normalized hr => ?_
    cases hr
    exact .nil
  | cons target targets ih =>
    intro s _ normalized hr
    obtain ⟨selector, hselector, hr, -⟩ := Program.exec_bind_eq_ok env.handler hr
    obtain ⟨first, hfirst, hr, -⟩ := Program.exec_bind_eq_ok env.handler hr
    obtain ⟨rest, hrest, hr, -⟩ := Program.exec_bind_eq_ok env.handler hr
    cases hr
    refine .cons ?_ (ih _ trivial rest hrest)
    have hwith : ControlService.withSelector target selector = .ok first := hfirst
    unfold ControlService.withSelector at hwith
    split at hwith
    · cases hwith
      exact ⟨rfl, rfl, rfl, s.provider, hselector⟩
    · cases hwith

/-- Neither the repository nor the catalogue in memory has changed. -/
structure Unchanged (s₀ s : ServiceState σ ρ τ) : Prop where
  valid : contract.Valid s.repository
  committed : contract.committed s.repository = contract.committed s₀.repository
  catalogue_eq : s.catalogue = s₀.catalogue
  targets_eq : s.targets = s₀.targets

/-- A replacement of the editable targets is committed. -/
structure Stored (name : Identifier) (expectedRevision : ℕ) (targets : List StoredTarget)
    (c : TargetCatalogue) (s : ServiceState σ ρ τ) : Prop where
  valid : contract.Valid s.repository
  committed : (contract.committed s.repository name).Same c
  revision_eq : c.revision = expectedRevision + 1
  normalForms : NormalForms env.provider targets c.targets

/-- The call changes neither the repository nor the catalogue in memory. -/
def KeepsSnapshot : DaemonCall → Prop
  | .repository _ | .setCatalogue _ | .setTargets _ => False
  | _ => True

variable {contract}

theorem Program.Uses.unchanged {A : Type} {p : Daemon A} (hp : p.Uses KeepsSnapshot) :
    Program.Ensures env.handler (Unchanged contract s₀) p fun _ s => Unchanged contract s₀ s := by
  refine hp.ensures fun c s hc hs => ?_
  cases c with
  | repository c => exact hc.elim
  | setCatalogue catalogue => exact hc.elim
  | setTargets targets => exact hc.elim
  | _ => exact ⟨hs.valid, hs.committed, hs.catalogue_eq, hs.targets_eq⟩

/-- A replacement in the repository is committed, or changes nothing. -/
theorem ensures_commitCatalogue (name : Identifier) (expectedRevision : ℕ)
    (targets : List StoredTarget) :
    Program.Ensures env.handler (Unchanged contract s₀)
      (ControlService.commitCatalogue name expectedRevision targets) fun r s =>
        (∃ e, r = .error e) ∧ Unchanged contract s₀ s ∨
          ∃ c, r = .ok c ∧ Stored contract name expectedRevision targets c s := by
  have hnormalize : Program.Ensures env.handler (Unchanged contract s₀)
      (ControlService.normalizeTargets targets) fun r s => Unchanged contract s₀ s ∧
        ∀ normalized, r = .ok normalized → NormalForms env.provider targets normalized := by
    intro s hs
    exact ⟨(ControlService.uses_normalizeTargets targets fun _ => trivial).unchanged s hs,
      ensures_normalForms targets s trivial⟩
  refine Program.ensures_bind hnormalize (fun normalized => ?_) fun e s h => .inl ⟨⟨e, rfl⟩, h.1⟩
  rintro s ⟨hs, hforms⟩
  have hforms := hforms normalized rfl
  show _ ∨ _
  cases hr : (env.repository (.replaceCatalogue name expectedRevision normalized) s.repository).1 with
  | error e =>
    have hframe := contract.replace_frame name expectedRevision normalized s.repository e hs.valid hr
    exact .inl ⟨⟨e, hr⟩, contract.valid_step _ _ hs.valid, hframe.trans hs.committed,
      hs.catalogue_eq, hs.targets_eq⟩
  | ok c =>
    obtain ⟨-, hrevision, htargets, hcommitted⟩ := contract.replace_eq name expectedRevision
      normalized s.repository c hs.valid hr
    refine .inr ⟨c, hr, contract.valid_step _ _ hs.valid, hcommitted, ?_, htargets ▸ hforms⟩
    exact_mod_cast hrevision

variable (contract service) in
/-- How a request ends: it replaces the catalogue, in the repository and in memory, or it changes
neither and does not report that it did. -/
def ReplacesOrKeeps (request : ControlRequest) (s₀ : ServiceState σ ρ τ)
    (r : Except PyException ControlResponse) (s : ServiceState σ ρ τ) : Prop :=
  (Unchanged contract s₀ s ∧ ∀ requested expectedRevision targets response,
    request.operation = .targetCatalogReplaceRequest requested expectedRevision targets →
      r = .ok response → response.success = false) ∨
  ∃ expectedRevision targets response c,
    request.operation = .targetCatalogReplaceRequest service.name expectedRevision targets ∧
      r = .ok response ∧ response.success = true ∧ response.editableTargetCatalogue = some c ∧
      Stored contract service.name expectedRevision targets c s ∧ s.catalogue = c ∧
      s.targets = aliasMap c.targets ∧ ∀ t ∈ c.targets, service.isReservedBuiltinTarget t = false

theorem ensures_replaceCatalogueRequest (hkind : KeepsKind env.provider) (requestId : UUID)
    (requested : Identifier) (expectedRevision : ℕ)
    (targets : {targets : List StoredTarget // targets.length ≤ 100}) :
    Program.Ensures env.handler (Unchanged contract s₀)
      (service.dispatchUnlocked
        ⟨requestId, .targetCatalogReplaceRequest requested expectedRevision targets⟩)
      (ReplacesOrKeeps service contract
        ⟨requestId, .targetCatalogReplaceRequest requested expectedRevision targets⟩ s₀) := by
  have hrefused : ∀ code message, Program.Ensures env.handler (Unchanged contract s₀)
      (pure (.refusal requestId code message)) (ReplacesOrKeeps service contract
        ⟨requestId, .targetCatalogReplaceRequest requested expectedRevision targets⟩ s₀) := by
    refine fun code message => Program.ensures_done fun s hs => .inl ⟨hs, ?_⟩
    rintro _ _ _ response - hresponse
    cases hresponse
    rfl
  show Program.Ensures env.handler _
    (service.dispatchTargetCatalogReplace requestId requested expectedRevision targets) _
  unfold ControlService.dispatchTargetCatalogReplace
  split
  · exact hrefused _ _
  rename_i hname
  obtain rfl : requested = service.name := not_not.mp hname
  split
  · exact hrefused _ _
  split
  · exact hrefused _ _
  split
  · exact hrefused _ _
  rename_i hreserved
  have hreserved : targets.val.any service.isReservedBuiltinTarget = false :=
    Bool.not_eq_true _ ▸ hreserved
  refine Program.ensures_bind (R := fun r s => (∀ c, r ≠ .ok (.ok c)) ∧ Unchanged contract s₀ s ∨
    ∃ c, r = .ok (.ok c) ∧ Stored contract service.name expectedRevision targets c s)
    (Program.ensures_attempt ?_) (fun r => ?_) fun e s h => ?_
  · refine (ensures_commitCatalogue service.name expectedRevision targets).weaken
      (fun s hs => hs) fun r s h => ?_
    obtain ⟨⟨e, rfl⟩, hs⟩ | ⟨c, rfl, hs⟩ := h
    · refine .inl ⟨fun c hc => ?_, hs⟩
      cases Program.reify_eq_ok.mp hc
    · exact .inr ⟨c, rfl, hs⟩
  · cases r with
    | error x =>
      intro s hs
      obtain ⟨-, hs⟩ | ⟨c, hc, -⟩ := hs
      · exact hrefused x.1 x.2 s hs
      · cases hc
    | ok c =>
      intro s hs
      obtain ⟨hne, -⟩ | ⟨c', hc, hs⟩ := hs
      · exact absurd rfl (hne c)
      · cases hc
        have hfree : ∀ t ∈ c.targets, service.isReservedBuiltinTarget t = false :=
          hs.normalForms.unreserved hkind hreserved
        have hwhole : (c.targets.filter fun t => !service.isReservedBuiltinTarget t) = c.targets := by
          refine List.filter_eq_self.mpr fun t ht => ?_
          rw [hfree t ht]
          rfl
        refine .inr ⟨expectedRevision, targets, _, c, rfl, rfl, rfl, rfl,
          ⟨hs.valid, hs.committed, hs.revision_eq, hs.normalForms⟩, rfl, ?_, hfree⟩
        exact congrArg aliasMap hwhole
  · obtain ⟨-, hs⟩ | ⟨c, hc, -⟩ := h
    · refine .inl ⟨hs, ?_⟩
      rintro _ _ _ response - hresponse
      cases hresponse
    · cases hc

theorem ensures_replacesOrKeeps (hkind : KeepsKind env.provider) (request : ControlRequest) :
    Program.Ensures env.handler (Unchanged contract s₀) (service.dispatchUnlocked request)
      (ReplacesOrKeeps service contract request s₀) := by
  obtain ⟨requestId, operation⟩ := request
  cases operation with
  | targetCatalogReplaceRequest requested expectedRevision targets =>
    exact ensures_replaceCatalogueRequest hkind requestId requested expectedRevision targets
  | _ =>
    refine (((service.uses_dispatchUnlocked _).mono fun c hc => ?_).unchanged).weaken
      (fun s hs => hs) fun r s hs => .inl ⟨hs, fun _ _ _ _ h => by cases h⟩
    cases c with
    | repository c => cases hc
    | setCatalogue catalogue => cases hc
    | setTargets targets => cases hc
    | _ => trivial

/-- **A request replaces the catalogue**, in the repository and in memory, or changes neither. -/
theorem dispatch_replaces (hkind : KeepsKind env.provider) (request : ControlRequest)
    (hvalid : contract.Valid s.repository) (hfree : s.operationLocked = false) :
    ReplacesOrKeeps service contract request s ((service.dispatch request).exec env.handler s).result
      ((service.dispatch request).exec env.handler s).state := by
  obtain ⟨before, after, h, -, -⟩ := service.exec_dispatch env request hfree
  have hinner : ReplacesOrKeeps service contract request s (service.inner env request s).result
      (service.inner env request s).state :=
    ensures_replacesOrKeeps hkind request _ ⟨hvalid, rfl, rfl, rfl⟩
  rw [h]
  obtain ⟨hs, hfailed⟩ | ⟨expectedRevision, targets, response, c, hoperation, hr, hsuccess, hc, hs,
    hcatalogue, htargets, hunreserved⟩ := hinner
  · exact .inl ⟨⟨hs.valid, hs.committed, hs.catalogue_eq, hs.targets_eq⟩, hfailed⟩
  · exact .inr ⟨expectedRevision, targets, response, c, hoperation, hr, hsuccess, hc,
      ⟨hs.valid, hs.committed, hs.revision_eq, hs.normalForms⟩, hcatalogue, htargets, hunreserved⟩

end Requests

/-! ## Runs -/

section Runs

variable {env : Environment σ ρ τ} (service : ControlService)
  (contract : RepositoryContract env.repository) {s₀ s : ServiceState σ ρ τ}

/-- The catalogue in memory is what is editable of the committed one, and the dictionary is that of
its targets. -/
structure Current (s : ServiceState σ ρ τ) : Prop where
  valid : contract.Valid s.repository
  catalogue_same : s.catalogue.Same (ControlService.editable service.builtinRecommendedTarget
    (contract.committed s.repository service.name))
  targets_eq : s.targets = aliasMap s.catalogue.targets
  unreserved : ∀ t ∈ s.catalogue.targets, service.isReservedBuiltinTarget t = false

variable {service contract}

/-- A request that replaces the catalogue, or keeps it, keeps it up to date. -/
theorem ReplacesOrKeeps.current {request : ControlRequest} {r : Except PyException ControlResponse}
    {t : ServiceState σ ρ τ} (h : ReplacesOrKeeps service contract request s r t)
    (hs : Current service contract s) : Current service contract t := by
  obtain ⟨hkept, -⟩ | ⟨expectedRevision, targets, response, c, -, -, -, -, hstored, rfl, htargets,
    hfree⟩ := h
  · refine ⟨hkept.valid, ?_, ?_, ?_⟩
    · rw [hkept.catalogue_eq, hkept.committed]
      exact hs.catalogue_same
    · rw [hkept.targets_eq, hkept.catalogue_eq]
      exact hs.targets_eq
    · rw [hkept.catalogue_eq]
      exact hs.unreserved
  · refine ⟨hstored.valid, ?_, htargets, hfree⟩
    have hself := editable_self (b := service.builtinRecommendedTarget) hfree
    have hsame := editable_same (b := service.builtinRecommendedTarget) hstored.committed.symm
    rwa [hself] at hsame

theorem uses_makeBuiltinRecommendedTarget (capabilities : ProviderCapabilities) :
    (ControlService.makeBuiltinRecommendedTarget capabilities).Uses KeepsSnapshot := by
  unfold ControlService.makeBuiltinRecommendedTarget
  split
  · trivial
  refine Program.uses_call_bind trivial fun schema => ?_
  split
  · trivial
  split
  · trivial
  refine Program.uses_call_bind trivial fun selector => ?_
  cases ControlService.builtinTarget selector <;> trivial

theorem ensures_init (name : Identifier) (capabilities : ProviderCapabilities)
    (publicIpUrl : String) (publicIpTimeoutSeconds : PyFloat)
    (committed : Identifier → TargetCatalogue) :
    Program.Ensures env.handler
      (fun s => contract.Valid s.repository ∧ contract.committed s.repository = committed)
      (ControlService.init name capabilities publicIpUrl publicIpTimeoutSeconds) fun r s =>
        (contract.Valid s.repository ∧ contract.committed s.repository = committed) ∧
          ∀ service catalogue targets, r = .ok (service, catalogue, targets) →
            catalogue.Same (ControlService.editable service.builtinRecommendedTarget
              (committed service.name)) := by
  refine Program.ensures_bind (R := fun r s =>
    (contract.Valid s.repository ∧ contract.committed s.repository = committed) ∧
      ∀ c, r = .ok c → c.Same (committed name)) ?_ (fun c => ?_)
    fun e s hs => ⟨hs.1, fun _ _ _ h => by cases h⟩
  · refine Program.ensures_call fun s hs => ⟨⟨contract.valid_step _ _ hs.1, ?_⟩, fun c hc => ?_⟩
    · exact (contract.get_frame name s.repository hs.1).trans hs.2
    · rw [← hs.2]
      exact contract.get_eq name s.repository c hs.1 hc
  · refine Program.ensures_bind (R := fun _ s =>
      (contract.Valid s.repository ∧ contract.committed s.repository = committed) ∧
        c.Same (committed name)) ?_ (fun builtin => ?_)
      fun e s hs => ⟨hs.1, fun _ _ _ h => by cases h⟩
    · refine ((uses_makeBuiltinRecommendedTarget capabilities).ensures (K := fun s =>
        (contract.Valid s.repository ∧ contract.committed s.repository = committed) ∧
          c.Same (committed name)) fun c s hc hs => ?_).weaken
        (fun s hs => ⟨hs.1, hs.2 c rfl⟩) fun _ _ hs => hs
      cases c with
      | repository c => exact hc.elim
      | _ => exact hs
    · refine Program.ensures_done fun s hs => ⟨hs.1, fun service catalogue targets h => ?_⟩
      cases h
      exact editable_same hs.2

variable (contract) in
/-- A construction leaves what is committed. -/
theorem init_committed (name : Identifier) (capabilities : ProviderCapabilities)
    (publicIpUrl : String) (publicIpTimeoutSeconds : PyFloat)
    (hvalid : contract.Valid s₀.repository) :
    contract.Valid ((ControlService.init name capabilities publicIpUrl
        publicIpTimeoutSeconds).exec env.handler s₀).state.repository ∧
      contract.committed ((ControlService.init name capabilities publicIpUrl
        publicIpTimeoutSeconds).exec env.handler s₀).state.repository =
          contract.committed s₀.repository :=
  (ensures_init name capabilities publicIpUrl publicIpTimeoutSeconds
    (contract.committed s₀.repository) s₀ ⟨hvalid, rfl⟩).1

/-- The constructor reads the committed catalogue. -/
theorem init_current {name : Identifier} {capabilities : ProviderCapabilities}
    {publicIpUrl : String} {publicIpTimeoutSeconds : PyFloat} {catalogue : TargetCatalogue}
    {targets : AliasMap}
    (h : ((ControlService.init name capabilities publicIpUrl publicIpTimeoutSeconds).exec
      env.handler s₀).result = .ok (service, catalogue, targets))
    (hvalid : contract.Valid s₀.repository) :
    Current service contract (ControlService.started ((ControlService.init name capabilities
      publicIpUrl publicIpTimeoutSeconds).exec env.handler s₀).state catalogue targets) := by
  obtain ⟨hwhole, rfl⟩ := init_targets h
  obtain ⟨⟨hvalid', hcommitted⟩, hsame⟩ := ensures_init name capabilities publicIpUrl
    publicIpTimeoutSeconds (contract.committed s₀.repository) s₀ ⟨hvalid, rfl⟩
  have hsame := hsame service catalogue _ h
  rw [← hcommitted] at hsame
  refine ⟨hvalid', hsame, rfl, fun t ht => ?_⟩
  exact (Bool.not_eq_true' _).mp (List.filter_eq_self.mp hwhole t ht)

/-- A service that runs from construction is up to date, and nobody holds its lock. -/
theorem current_of_run (hkind : KeepsKind env.provider) {name : Identifier}
    {capabilities : ProviderCapabilities} {publicIpUrl : String} {publicIpTimeoutSeconds : PyFloat}
    {catalogue : TargetCatalogue} {targets : AliasMap}
    (h : ((ControlService.init name capabilities publicIpUrl publicIpTimeoutSeconds).exec
      env.handler s₀).result = .ok (service, catalogue, targets))
    (hvalid : contract.Valid s₀.repository) {history s} (run : env.Run service (fun _ _ => True)
      (ControlService.started ((ControlService.init name capabilities publicIpUrl
        publicIpTimeoutSeconds).exec env.handler s₀).state catalogue targets) history s) :
    Current service contract s ∧ s.operationLocked = false := by
  refine run.invariant (K := fun s => Current service contract s ∧ s.operationLocked = false)
    ⟨init_current h hvalid, rfl⟩ fun request t _ ht => ⟨?_, ?_⟩
  · exact (dispatch_replaces hkind request ht.1.valid ht.2).current ht.1
  · obtain ⟨before, after, hdispatch, -, -⟩ := service.exec_dispatch env request ht.2
    rw [hdispatch]

/-- **The service is up to date with its repository** in every state that requests reach from
construction, and every request replaces the catalogue, in the repository and in memory, or changes
neither. -/
theorem catalogue_current (hkind : KeepsKind env.provider) {name : Identifier}
    {capabilities : ProviderCapabilities} {publicIpUrl : String} {publicIpTimeoutSeconds : PyFloat}
    {catalogue : TargetCatalogue} {targets : AliasMap}
    (h : ((ControlService.init name capabilities publicIpUrl publicIpTimeoutSeconds).exec
      env.handler s₀).result = .ok (service, catalogue, targets))
    (hvalid : contract.Valid s₀.repository) {history s} (run : env.Run service (fun _ _ => True)
      (ControlService.started ((ControlService.init name capabilities publicIpUrl
        publicIpTimeoutSeconds).exec env.handler s₀).state catalogue targets) history s) :
    Current service contract s ∧ ∀ request, ReplacesOrKeeps service contract request s
      ((service.dispatch request).exec env.handler s).result
      ((service.dispatch request).exec env.handler s).state := by
  obtain ⟨hcurrent, hfree⟩ := current_of_run hkind h hvalid run
  exact ⟨hcurrent, fun request => dispatch_replaces hkind request hcurrent.valid hfree⟩

end Runs

/-! ### Over a database -/

/-- The repository over a database that refuses nothing. -/
def openRepository : Handler targetRepository PyException (Connection Unit) :=
  SqliteTargetRepository ⟨64, Python.least_maxDepth⟩ (fun _ => none) faultless

/-- The NordVPN adapter over that repository. -/
def storedEnvironment : Environment Unit (Connection Unit) Unit :=
  nordVpnEnvironment Python.asciiData (failingRunner "") openRepository failingSources

def storedContract : RepositoryContract storedEnvironment.repository :=
  sqliteContract faultless ⟨64, Python.least_maxDepth⟩ fun _ => none

/-- A new database. -/
def storedState : ServiceState Unit (Connection Unit) Unit where
  provider := ()
  repository := ⟨.empty, none, ()⟩
  collectors := ()
  currentTargetAlias := none
  catalogue := .initial NordVpn.name
  targets := aliasMap []
  operationLocked := false

/-- The first replacement. -/
def storeIdeal : ControlRequest :=
  ⟨idealRequestId, .targetCatalogReplaceRequest NordVpn.name 0 ⟨[idealTarget], by decide⟩⟩

theorem catalogue_current_stored :
    ∃ service catalogue targets response,
      ((ControlService.init NordVpn.name NordVpn.capabilities "https://example.test/ip" 0).exec
        storedEnvironment.handler storedState).result = .ok (service, catalogue, targets) ∧
      ((service.dispatch storeIdeal).exec storedEnvironment.handler
        (ControlService.started storedState catalogue targets)).result = .ok response ∧
      response.success = true ∧
      Current service storedContract ((service.dispatch storeIdeal).exec storedEnvironment.handler
        (ControlService.started storedState catalogue targets)).state := by
  obtain ⟨service, catalogue, targets, response, h, hresponse, hsuccess⟩ :
      ∃ service catalogue targets response,
        ((ControlService.init NordVpn.name NordVpn.capabilities "https://example.test/ip" 0).exec
          storedEnvironment.handler storedState).result = .ok (service, catalogue, targets) ∧
        ((service.dispatch storeIdeal).exec storedEnvironment.handler
          (ControlService.started storedState catalogue targets)).result = .ok response ∧
        response.success = true := ⟨_, _, _, _, rfl, rfl, rfl⟩
  have hvalid : storedContract.Valid storedState.repository :=
    ⟨rfl, fun p => ⟨.initial p, TargetCatalogue.validate_initial p⟩⟩
  have hkind : KeepsKind storedEnvironment.provider :=
    fun selector p normalized h => validateSelector_kind h
  exact ⟨service, catalogue, targets, response, h, hresponse, hsuccess,
    (catalogue_current hkind h hvalid (.serve .start storeIdeal trivial)).1⟩

end Snarkypuss
