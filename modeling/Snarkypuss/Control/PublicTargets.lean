import Snarkypuss.Calls.Paths
import Snarkypuss.Control.Degradation
import Snarkypuss.Providers.Selectors
import Snarkypuss.Targets.Sqlite

/-!
# The public target list

The service keeps its targets in three places: the built-in one, the editable catalogue and the
dictionary that aliases are resolved in. The public list is made of the first and the last. All
three agree after every request, whatever the provider, the repository and the stored catalogue
are.

## Main definitions

* `publicTargets`: the built-in target, and the editable ones in the order of the catalogue
* `Agree`: the dictionary holds the editable targets of the catalogue
* `CatalogueLaw`: a provider that keeps the kind of a selector, over a repository that commits what
  it is given
* `ControlService.started`: the state that the constructor leaves

## Main results

* `Agree.resolvedTarget_eq_some`: an alias is resolved to the public target that has it
* `ensures_agree`: every request keeps the agreement
* `targets_agree`: the list, the resolution and the catalogue agree in every run
* `nordVpn_catalogueLaw`: the law holds of the NordVPN adapter over a database
-/

namespace Snarkypuss

open Daemon

variable {σ ρ τ : Type}

/-! ## The list -/

/-- The editable targets of a catalogue: those that the built-in target does not shadow. -/
def ControlService.editableTargets (service : ControlService) (catalogue : TargetCatalogue) :
    List StoredTarget :=
  catalogue.targets.filter fun t => !service.isReservedBuiltinTarget t

/-- The targets that clients may use. -/
def publicTargets (service : ControlService) (s : ServiceState σ ρ τ) : List StoredTarget :=
  service.builtinRecommendedTarget.toList ++ service.editableTargets s.catalogue

/-- The dictionary of aliases holds the editable targets of the catalogue. -/
def Agree (service : ControlService) (s : ServiceState σ ρ τ) : Prop :=
  s.targets = aliasMap (service.editableTargets s.catalogue)

section List

variable {service : ControlService} {s : ServiceState σ ρ τ}

theorem editableTargets_nodup (service : ControlService) (catalogue : TargetCatalogue) :
    ((service.editableTargets catalogue).map fun t => t.alias.val).Nodup :=
  catalogue.order.2.1.sublist (List.filter_sublist.map _)

theorem Agree.values (h : Agree service s) :
    s.targets.dict.values = service.editableTargets s.catalogue := by
  rw [h, aliasMap_values (editableTargets_nodup service s.catalogue)]

/-- Under the alias of an editable target stands the target. -/
theorem Agree.get?_eq_some (h : Agree service s) {alias_ : String} {t : StoredTarget} :
    s.targets.dict.get? alias_ = some t ↔
      t ∈ service.editableTargets s.catalogue ∧ t.alias = alias_ := by
  have hkeys : ((service.editableTargets s.catalogue).map
      fun t => (t.alias.val, t)).map Prod.fst |>.Nodup := by
    rw [List.map_map]
    exact editableTargets_nodup service s.catalogue
  rw [h, aliasMap, Dict.get?_eq_some_iff, Dict.ofPairs_entries hkeys, List.mem_map]
  constructor
  · rintro ⟨t', ht', heq⟩
    obtain ⟨rfl, rfl⟩ := Prod.mk.inj heq
    exact ⟨ht', rfl⟩
  · rintro ⟨ht, rfl⟩
    exact ⟨t, ht, rfl⟩

/-- An editable target does not have the alias of the built-in one. -/
theorem alias_ne_of_editable {b t : StoredTarget} (hb : service.builtinRecommendedTarget = some b)
    (ht : t ∈ service.editableTargets s.catalogue) : t.alias.val ≠ builtinRecommendedAlias := by
  intro halias
  have hreserved := (List.mem_filter.mp ht).2
  simp [ControlService.isReservedBuiltinTarget, hb, isReserved, halias] at hreserved

theorem publicTargets_nodup (service : ControlService) (s : ServiceState σ ρ τ) :
    ((publicTargets service s).map fun t => t.alias.val).Nodup := by
  rw [publicTargets, List.map_append]
  refine List.nodup_append.mpr ⟨?_, editableTargets_nodup service s.catalogue, ?_⟩
  · cases service.builtinRecommendedTarget <;> simp
  · intro a ha b hb heq
    subst heq
    obtain ⟨t, ht, rfl⟩ := List.mem_map.mp ha
    obtain ⟨t', ht', halias⟩ := List.mem_map.mp hb
    have hbuiltin : service.builtinRecommendedTarget = some t := Option.mem_toList.mp ht
    refine alias_ne_of_editable hbuiltin ht' (halias.trans ?_)
    exact service.builtin_alias t hbuiltin

/-- **An alias is resolved to the public target that has it.** -/
theorem Agree.resolvedTarget_eq_some (h : Agree service s) {alias_ : String} {t : StoredTarget} :
    service.resolvedTarget s.targets alias_ = some t ↔
      t ∈ publicTargets service s ∧ t.alias = alias_ := by
  unfold ControlService.resolvedTarget publicTargets
  rw [List.mem_append, Option.mem_toList]
  cases hb : service.builtinRecommendedTarget with
  | none =>
    simp only [Option.isSome_none, Bool.false_and, Bool.false_eq_true, if_false, reduceCtorEq,
      false_or]
    exact h.get?_eq_some
  | some b =>
    have halias : b.alias.val = builtinRecommendedAlias := service.builtin_alias b hb
    by_cases hname : alias_ = builtinRecommendedAlias
    · -- The built-in target is the only one of its alias.
      subst hname
      simp only [Option.isSome_some, beq_self_eq_true, Bool.and_self, if_true, Option.some.injEq]
      constructor
      · rintro rfl
        exact ⟨.inl rfl, halias⟩
      · rintro ⟨heq | ht, hname⟩
        · exact heq
        · exact absurd hname (alias_ne_of_editable hb ht)
    · have hbeq : (alias_ == builtinRecommendedAlias) = false := beq_false_of_ne hname
      simp only [hbeq, Bool.and_false, Bool.false_eq_true, if_false, Option.some.injEq]
      rw [h.get?_eq_some]
      constructor
      · rintro ⟨ht, hname⟩
        exact ⟨.inr ht, hname⟩
      · rintro ⟨rfl | ht, rfl⟩
        · exact absurd halias hname
        · exact ⟨ht, rfl⟩

/-- An alias is resolved to nothing when no public target has it. -/
theorem Agree.resolvedTarget_eq_none (h : Agree service s) {alias_ : String} :
    service.resolvedTarget s.targets alias_ = none ↔
      alias_ ∉ (publicTargets service s).map fun t => t.alias.val := by
  rw [Option.eq_none_iff_forall_ne_some]
  constructor
  · intro hnone hmem
    obtain ⟨t, ht, halias⟩ := List.mem_map.mp hmem
    exact hnone t (h.resolvedTarget_eq_some.mpr ⟨ht, halias⟩)
  · intro hmem t ht
    obtain ⟨hpublic, halias⟩ := h.resolvedTarget_eq_some.mp ht
    exact hmem (List.mem_map.mpr ⟨t, hpublic, halias⟩)

end List

/-! ## What the requests keep -/

section Requests

variable {env : Environment σ ρ τ} {service : ControlService}

/-- The call replaces neither the catalogue nor the dictionary. -/
def KeepsTargets : DaemonCall → Prop
  | .setCatalogue _ => False
  | .setTargets _ => False
  | _ => True

/-- What is kept of the catalogue and the dictionary is kept by the other calls. -/
theorem Program.Uses.keepsTargets {A : Type} {p : Daemon A} (hp : p.Uses KeepsTargets)
    {K : TargetCatalogue → AliasMap → Prop} :
    Program.Ensures env.handler (fun s => K s.catalogue s.targets) p
      fun _ s => K s.catalogue s.targets := by
  refine hp.ensures fun c s hc hs => ?_
  cases c with
  | setCatalogue catalogue => exact hc.elim
  | setTargets targets => exact hc.elim
  | _ => exact hs

theorem uses_commitCatalogue (requested : Identifier) (expectedRevision : Nat)
    (targets : List StoredTarget) :
    (ControlService.commitCatalogue requested expectedRevision targets).Uses KeepsTargets := by
  refine Program.Uses.bind ?_ fun normalized => (Program.uses_call _).mpr trivial
  exact ControlService.uses_normalizeTargets targets fun _ => trivial

/-- A replacement keeps what its own two assignments establish. -/
theorem ensures_dispatchTargetCatalogReplace {K : TargetCatalogue → AliasMap → Prop}
    {requestId : UUID} {requested : Identifier} {expectedRevision : Nat}
    {targets : List StoredTarget}
    (hcommit : targets.any service.isReservedBuiltinTarget = false →
      Program.Ensures env.handler (fun s => K s.catalogue s.targets)
        (ControlService.commitCatalogue requested expectedRevision targets)
        fun r s => K s.catalogue s.targets ∧ ∀ catalogue, r = .ok catalogue →
          K catalogue (aliasMap (service.editableTargets catalogue))) :
    Program.Ensures env.handler (fun s => K s.catalogue s.targets)
      (service.dispatchTargetCatalogReplace requestId requested expectedRevision targets)
      fun _ s => K s.catalogue s.targets := by
  unfold ControlService.dispatchTargetCatalogReplace
  split
  · exact Program.ensures_done fun _ h => h
  split
  · exact Program.ensures_done fun _ h => h
  split
  · exact Program.ensures_done fun _ h => h
  split
  · exact Program.ensures_done fun _ h => h
  rename_i hreserved
  refine Program.ensures_bind (Program.ensures_attempt
    (Q := fun r s => K s.catalogue s.targets ∧ ∀ catalogue, r = .ok (.ok catalogue) →
      K catalogue (aliasMap (service.editableTargets catalogue)))
    ((hcommit (Bool.not_eq_true _ ▸ hreserved)).weaken (fun _ h => h) fun r s h => ⟨h.1, ?_⟩))
    (fun r => ?_) fun _ _ h => h.1
  · intro catalogue hr
    exact h.2 catalogue (Program.reify_eq_ok.mp hr)
  · cases r with
    | error x => exact Program.ensures_done fun _ h => h.1
    | ok catalogue =>
      rintro s ⟨-, hcatalogue⟩
      exact hcatalogue catalogue rfl

/-- What the requests keep of the catalogue and the dictionary, when a replacement does. -/
theorem ensures_targets {K : TargetCatalogue → AliasMap → Prop}
    (hcommit : ∀ requested expectedRevision (targets : List StoredTarget),
      targets.any service.isReservedBuiltinTarget = false →
      Program.Ensures env.handler (fun s => K s.catalogue s.targets)
        (ControlService.commitCatalogue requested expectedRevision targets)
        fun r s => K s.catalogue s.targets ∧ ∀ catalogue, r = .ok catalogue →
          K catalogue (aliasMap (service.editableTargets catalogue)))
    (request : ControlRequest) :
    Program.Ensures env.handler (fun s => K s.catalogue s.targets) (service.dispatch request)
      fun _ s => K s.catalogue s.targets := by
  refine service.ensures_dispatch env (fun _ _ h => h) ?_
  have hkeeps : (∀ c, request.operation.mayCall c → KeepsTargets c) →
      Program.Ensures env.handler (fun s => K s.catalogue s.targets)
        (service.dispatchUnlocked request) fun _ s => K s.catalogue s.targets :=
    fun h => ((service.uses_dispatchUnlocked request).mono h).keepsTargets
  obtain ⟨requestId, operation⟩ := request
  cases operation with
  | targetCatalogReplaceRequest requested expectedRevision targets =>
    exact ensures_dispatchTargetCatalogReplace (hcommit requested expectedRevision targets.val)
  | _ =>
    refine hkeeps fun c hc => ?_
    cases c with
    | setCatalogue catalogue => cases hc
    | setTargets targets => cases hc
    | _ => trivial

/-- **Every request keeps the agreement.** -/
theorem ensures_agree (env : Environment σ ρ τ) (service : ControlService)
    (request : ControlRequest) :
    Program.Ensures env.handler (Agree service) (service.dispatch request) fun _ s =>
      Agree service s := by
  let K (catalogue : TargetCatalogue) (targets : AliasMap) : Prop :=
    targets = aliasMap (service.editableTargets catalogue)
  refine ensures_targets (K := K) (fun requested expectedRevision targets _ => ?_) request
  have hkept : Program.Ensures env.handler (fun s => K s.catalogue s.targets)
      (ControlService.commitCatalogue requested expectedRevision targets)
      fun _ s => K s.catalogue s.targets :=
    (uses_commitCatalogue requested expectedRevision targets).keepsTargets
  exact hkept.weaken (fun _ h => h) fun _ _ h => ⟨h, fun _ _ => rfl⟩

/-! ### Nothing is left out -/

/-- A provider whose normal form of a selector has its kind, over a repository that commits the
targets it is given. -/
structure CatalogueLaw (env : Environment σ ρ τ) : Prop where
  kind : ∀ selector p normalized, (env.provider (.validateSelector selector) p).1 = .ok normalized →
    isRecommendedSelector normalized = isRecommendedSelector selector
  replaced : ∀ provider expected targets r catalogue,
    (env.repository (.replaceCatalogue provider expected targets) r).1 = .ok catalogue →
      catalogue.targets = targets

/-- The target is one of a list, with another selector of the same kind. -/
def Normalizes (targets : List StoredTarget) (t : StoredTarget) : Prop :=
  ∃ t₀ ∈ targets, t.alias = t₀.alias ∧
    isRecommendedSelector t.selector = isRecommendedSelector t₀.selector

theorem Normalizes.isReserved {targets : List StoredTarget} {t : StoredTarget}
    (h : Normalizes targets t) (hnone : targets.any service.isReservedBuiltinTarget = false) :
    service.isReservedBuiltinTarget t = false := by
  obtain ⟨t₀, ht₀, halias, hkind⟩ := h
  have hfree := List.any_eq_false.mp hnone t₀ ht₀
  unfold ControlService.isReservedBuiltinTarget Snarkypuss.isReserved at hfree ⊢
  rw [halias, hkind]
  exact Bool.not_eq_true _ ▸ hfree

/-- The normalised targets are those of the request. -/
theorem ensures_normalizeTargets (law : CatalogueLaw env) (targets : List StoredTarget) :
    Program.Ensures env.handler (fun _ => True) (ControlService.normalizeTargets targets)
      fun r _ => ∀ normalized, r = .ok normalized → ∀ t ∈ normalized, Normalizes targets t := by
  induction targets with
  | nil =>
    refine Program.ensures_done fun _ _ normalized hr t ht => ?_
    cases hr
    cases ht
  | cons target targets ih =>
    intro s hs normalized hr
    obtain ⟨selector, hselector, hr, -⟩ := Program.exec_bind_eq_ok env.handler hr
    obtain ⟨first, hfirst, hr, -⟩ := Program.exec_bind_eq_ok env.handler hr
    obtain ⟨rest, hrest, hr, -⟩ := Program.exec_bind_eq_ok env.handler hr
    cases hr
    intro t ht
    rcases List.mem_cons.mp ht with rfl | ht
    · refine ⟨target, List.mem_cons_self, ?_⟩
      have hkind := law.kind target.selector s.provider selector hselector
      have hwith : ControlService.withSelector target selector = .ok t := hfirst
      unfold ControlService.withSelector at hwith
      split at hwith
      · cases hwith
        exact ⟨rfl, hkind⟩
      · cases hwith
    · obtain ⟨t₀, ht₀, hsame⟩ := ih _ trivial rest hrest t ht
      exact ⟨t₀, List.mem_cons_of_mem _ ht₀, hsame⟩

/-- **Every request keeps the whole catalogue editable**, under the law. -/
theorem ensures_whole (law : CatalogueLaw env) (service : ControlService)
    (request : ControlRequest) :
    Program.Ensures env.handler (fun s => service.editableTargets s.catalogue = s.catalogue.targets)
      (service.dispatch request)
      fun _ s => service.editableTargets s.catalogue = s.catalogue.targets := by
  let K (catalogue : TargetCatalogue) (_ : AliasMap) : Prop :=
    service.editableTargets catalogue = catalogue.targets
  refine ensures_targets (K := K) (fun requested expectedRevision targets hnone => ?_) request
  have hkept : Program.Ensures env.handler (fun s => K s.catalogue s.targets)
      (ControlService.commitCatalogue requested expectedRevision targets)
      fun _ s => K s.catalogue s.targets :=
    (uses_commitCatalogue requested expectedRevision targets).keepsTargets
  intro s hs
  refine ⟨hkept s hs, fun catalogue hr => ?_⟩
  obtain ⟨normalized, hnormalized, hcommit, -⟩ := Program.exec_bind_eq_ok env.handler hr
  have htargets : catalogue.targets = normalized := law.replaced _ _ _ _ _ hcommit
  refine List.filter_eq_self.mpr fun t ht => ?_
  rw [htargets] at ht
  have hnormalizes := ensures_normalizeTargets law targets s trivial normalized hnormalized t ht
  rw [hnormalizes.isReserved hnone]
  rfl

end Requests

/-! ## Construction -/

/-- The state that `ControlService.__init__` leaves, from the state that its calls have reached. -/
def ControlService.started (s : ServiceState σ ρ τ) (catalogue : TargetCatalogue)
    (targets : AliasMap) : ServiceState σ ρ τ :=
  { s with
    currentTargetAlias := none
    catalogue := catalogue
    targets := targets
    operationLocked := false }

/-- The targets of an editable catalogue are those that the built-in one does not shadow. -/
theorem mem_editable {builtin : Option StoredTarget} {committed : TargetCatalogue}
    {t : StoredTarget} (ht : t ∈ (ControlService.editable builtin committed).targets) :
    (builtin.isSome && isReserved t) = false := by
  have hlength : (committed.targets.filter fun t => !(builtin.isSome && isReserved t)).length ≤
      maxTargets := (List.length_filter_le _ _).trans committed.order.1
  have hmem : t ∈ renumber _ hlength := ht
  obtain ⟨i, rfl⟩ := List.mem_ofFn.mp hmem
  -- Renumbering changes positions only.
  have hkept := (List.mem_filter.mp (List.get_mem (committed.targets.filter fun t =>
    !(builtin.isSome && isReserved t)) i)).2
  rw [Bool.not_eq_true'] at hkept
  exact hkept

/-- What the constructor makes of the stored catalogue: an editable catalogue without reserved
targets, and the dictionary of its aliases. -/
theorem init_targets {env : Environment σ ρ τ} {name : Identifier}
    {capabilities : ProviderCapabilities} {publicIpUrl : String} {publicIpTimeoutSeconds : PyFloat}
    {s₀ : ServiceState σ ρ τ} {service : ControlService} {catalogue : TargetCatalogue}
    {targets : AliasMap}
    (h : ((ControlService.init name capabilities publicIpUrl publicIpTimeoutSeconds).exec
      env.handler s₀).result = .ok (service, catalogue, targets)) :
    service.editableTargets catalogue = catalogue.targets ∧ targets = aliasMap catalogue.targets := by
  obtain ⟨committed, -, h, -⟩ := Program.exec_bind_eq_ok env.handler h
  obtain ⟨builtin, -, h, -⟩ := Program.exec_bind_eq_ok env.handler h
  cases h
  refine ⟨List.filter_eq_self.mpr fun t ht => ?_, rfl⟩
  rw [Bool.not_eq_true']
  exact mem_editable ht

/-! ## What the requests answer -/

section Answers

variable {env : Environment σ ρ τ} {service : ControlService} {s : ServiceState σ ρ τ}

/-- The answer to TARGETS lists the public targets. -/
theorem exec_targetsRequest (h : Agree service s) (requestId : UUID) :
    ∃ answer, ((service.dispatch ⟨requestId, .targetsRequest⟩).exec env.handler s).result =
        .ok answer ∧
      answer.targetCatalog = some ⟨service.name, service.capabilities,
        (publicTargets service s).map fun t => ⟨t.alias, t.label⟩⟩ := by
  refine ⟨_, rfl, ?_⟩
  rw [publicTargets, ← h.values]

/-- The answer to TARGET_CATALOG_GET is the catalogue. -/
theorem exec_targetCatalogGetRequest (requestId : UUID) :
    ∃ answer, ((service.dispatch ⟨requestId, .targetCatalogGetRequest service.name⟩).exec
        env.handler s).result = .ok answer ∧
      answer.editableTargetCatalogue = some s.catalogue := by
  have hdispatch : service.dispatch ⟨requestId, .targetCatalogGetRequest service.name⟩ =
      service.dispatchTargetCatalogGet requestId service.name := rfl
  rw [hdispatch, ControlService.dispatchTargetCatalogGet, if_neg (not_not.mpr rfl)]
  exact ⟨_, rfl, rfl⟩

/-- A call of `connect_stored` has this target. -/
def ConnectsTo (target : StoredTarget) (c : DaemonCall) : Prop :=
  ∀ t, c = .provider (.connectStored t) → t = target

/-- How a request that resolves an alias first goes on. -/
structure Resolves (requestId : UUID) (next : Option StoredTarget → Daemon ControlResponse) :
    Prop where
  unknown : next none = pure (ControlService.unknownTarget requestId)
  uses : ∀ target, (next (some target)).Uses (ConnectsTo target)
  success : ∀ target xs response, (next (some target)).Path xs (.done (.ok response)) →
    response.errorCode = none

theorem connectsTo_connectTarget (target : StoredTarget) :
    (ControlService.connectTarget target).Uses (ConnectsTo target) :=
  ControlService.uses_connectTarget target (fun _ h => by cases h; rfl) fun _ h => by cases h

/-- CONNECT and PROTECTED resolve their alias, and go on with the target. -/
theorem exists_resolves (service : ControlService) {request : ControlRequest} {alias_ : Identifier}
    (h : request.operation = .connectRequest alias_ ∨ request.operation = .protectedRequest alias_) :
    ∃ next, service.dispatchUnlocked request = (service.resolveTarget alias_).bind next ∧
      Resolves request.requestId next := by
  obtain ⟨requestId, operation⟩ := request
  rcases h with rfl | rfl
  · refine ⟨_, rfl, rfl, fun target => ?_, fun target xs response hpath => ?_⟩
    · refine (connectsTo_connectTarget target).bind fun status => ?_
      exact (Program.Uses.attempt _ ((Program.uses_call _).mpr fun _ h => by cases h)).bind
        fun _ => trivial
    · obtain ⟨ys, zs, status, rfl, -, hpath⟩ := hpath.bind_ok
      obtain ⟨ys', zs', settings, rfl, -, hdone⟩ := hpath.bind_ok
      obtain ⟨-, hresponse⟩ := hdone.of_done
      cases hresponse
      rfl
  · refine ⟨_, rfl, rfl, fun target => ?_, fun target xs response hpath => ?_⟩
    · refine service.uses_requireProtectionConfiguration.bind fun _ => ?_
      refine (ControlService.uses_enableProtection fun _ h => by cases h).bind fun _ => ?_
      refine (connectsTo_connectTarget target).bind fun status => ?_
      exact (ControlService.uses_requireGatewayMode _ _ _ fun _ h => by cases h).bind
        fun _ => trivial
    · obtain ⟨ys, zs, u, rfl, -, hpath⟩ := hpath.bind_ok
      obtain ⟨ys', zs', u', rfl, -, hpath⟩ := hpath.bind_ok
      obtain ⟨ys'', zs'', status, rfl, -, hpath⟩ := hpath.bind_ok
      obtain ⟨ws, ws', status', rfl, -, hdone⟩ := hpath.bind_ok
      obtain ⟨-, hresponse⟩ := hdone.of_done
      cases hresponse
      rfl

/-- A request that resolves its alias is refused when it stands for nothing, and else connects to
nothing but what it stands for. -/
theorem Resolves.exec (env : Environment σ ρ τ) (service : ControlService) {requestId : UUID}
    {next : Option StoredTarget → Daemon ControlResponse} (h : Resolves requestId next)
    (alias_ : String) (s : ServiceState σ ρ τ) :
    let o := ((service.resolveTarget alias_).bind next).exec env.handler s
    (service.resolvedTarget s.targets alias_ = none →
      o.result = .ok (ControlService.unknownTarget requestId)) ∧
    (∀ target, service.resolvedTarget s.targets alias_ = some target →
      ∀ response, o.result = .ok response → response.errorCode = none) ∧
    ∀ x ∈ o.exchanges, ∀ t, x.call = .provider (.connectStored t) →
      service.resolvedTarget s.targets alias_ = some t := by
  have hresolved : ((service.resolveTarget alias_).exec env.handler s).result =
        .ok (service.resolvedTarget s.targets alias_) ∧
      ((service.resolveTarget alias_).exec env.handler s).state = s := by
    unfold ControlService.resolveTarget ControlService.resolvedTarget
    split <;> exact ⟨rfl, rfl⟩
  have huses : (service.resolveTarget alias_).Uses fun c => c = DaemonCall.getTargets :=
    service.uses_resolveTarget alias_ rfl
  dsimp only
  rw [Program.exec_bind_of_ok _ hresolved.1, hresolved.2]
  refine ⟨fun hnone => ?_, fun target hsome response hresponse => ?_, fun x hx t hcall => ?_⟩
  · rw [hnone, h.unknown]
    rfl
  · rw [hsome] at hresponse
    obtain ⟨xs, hpath, -⟩ := Program.path_exec env.handler (next (some target)) s
    rw [show ((next (some target)).exec env.handler s).result = .ok response from hresponse] at hpath
    exact h.success target xs response hpath
  · rcases List.mem_append.mp hx with hx | hx
    · exact nomatch hcall.symm.trans (huses.exchanges env.handler s x hx)
    · cases htarget : service.resolvedTarget s.targets alias_ with
      | none =>
        rw [htarget, h.unknown] at hx
        cases hx
      | some target =>
        rw [htarget] at hx
        rw [(h.uses target).exchanges env.handler s x hx t hcall]

/-- A request that resolves an alias, dispatched while the lock is free. -/
theorem exec_resolves (env : Environment σ ρ τ) (service : ControlService)
    {request : ControlRequest} {alias_ : Identifier}
    (hrequest : request.operation = .connectRequest alias_ ∨
      request.operation = .protectedRequest alias_) (hfree : s.operationLocked = false) :
    (service.resolvedTarget s.targets alias_ = none →
      ((service.dispatch request).exec env.handler s).result =
        .ok (ControlService.unknownTarget request.requestId)) ∧
    (∀ target, service.resolvedTarget s.targets alias_ = some target → ∀ response,
      ((service.dispatch request).exec env.handler s).result = .ok response →
        response.errorCode = none) ∧
    ∀ x ∈ ((service.dispatch request).exec env.handler s).exchanges, ∀ t,
      x.call = .provider (.connectStored t) →
        service.resolvedTarget s.targets alias_ = some t := by
  obtain ⟨before, after, hexec, hbefore, hafter⟩ := service.exec_dispatch env request hfree
  obtain ⟨next, hnext, hresolves⟩ := exists_resolves service hrequest
  obtain ⟨hnone, hsome, hconnects⟩ := hresolves.exec env service alias_
    { s with operationLocked := request.operation.mutates }
  rw [hexec]
  unfold ControlService.inner
  rw [hnext]
  refine ⟨hnone, hsome, fun x hx t hcall => ?_⟩
  -- The calls around the request are those of the lock.
  rcases List.mem_append.mp hx with hx | hx
  · rcases List.mem_append.mp hx with hx | hx
    · exact nomatch hcall.symm.trans (hbefore x hx)
    · exact hconnects x hx t hcall
  · exact nomatch hcall.symm.trans (hafter x hx)

end Answers

/-! ## Runs -/

/-- **The public list, the resolution of aliases and the editable catalogue agree**, in every state
that requests reach from construction, whatever the provider, the repository and the stored
catalogue are. The list has distinct aliases, the built-in target first and the editable ones in
the order of their positions; CONNECT and PROTECTED refuse an alias as unknown exactly when it is
not listed, and else connect to nothing but the listed target; under the law, every target of the
editable catalogue is listed. -/
theorem targets_agree {env : Environment σ ρ τ} {name : Identifier}
    {capabilities : ProviderCapabilities} {publicIpUrl : String} {publicIpTimeoutSeconds : PyFloat}
    {s₀ : ServiceState σ ρ τ} {service : ControlService} {catalogue : TargetCatalogue}
    {targets : AliasMap}
    (h : ((ControlService.init name capabilities publicIpUrl publicIpTimeoutSeconds).exec
      env.handler s₀).result = .ok (service, catalogue, targets))
    {history s} (run : env.Run service (fun _ _ => True)
      (ControlService.started ((ControlService.init name capabilities publicIpUrl
        publicIpTimeoutSeconds).exec env.handler s₀).state catalogue targets) history s) :
    (∀ requestId, ∃ answer,
      ((service.dispatch ⟨requestId, .targetsRequest⟩).exec env.handler s).result = .ok answer ∧
      answer.targetCatalog = some ⟨service.name, service.capabilities,
        (publicTargets service s).map fun t => ⟨t.alias, t.label⟩⟩) ∧
    ((publicTargets service s).map fun t => t.alias.val).Nodup ∧
    (service.editableTargets s.catalogue).Pairwise (fun t t' => t.position < t'.position) ∧
    (∀ requestId, ∃ answer,
      ((service.dispatch ⟨requestId, .targetCatalogGetRequest service.name⟩).exec
        env.handler s).result = .ok answer ∧
      answer.editableTargetCatalogue = some s.catalogue) ∧
    (∀ (request : ControlRequest) (alias_ : Identifier),
      request.operation = .connectRequest alias_ ∨ request.operation = .protectedRequest alias_ →
      ((∃ response, ((service.dispatch request).exec env.handler s).result = .ok response ∧
          response.errorCode = some "UNKNOWN_TARGET") ↔
        alias_ ∉ (publicTargets service s).map StoredTarget.alias) ∧
      ∀ x ∈ ((service.dispatch request).exec env.handler s).exchanges, ∀ t,
        x.call = .provider (.connectStored t) → t ∈ publicTargets service s ∧ t.alias = alias_) ∧
    (CatalogueLaw env → service.editableTargets s.catalogue = s.catalogue.targets) := by
  obtain ⟨hwhole, hmap⟩ := init_targets h
  have hfree : s.operationLocked = false := run.unlocked rfl
  have hagree : Agree service s := by
    refine run.invariant (K := Agree service) ?_ fun request t _ ht =>
      ensures_agree env service request t ht
    show targets = aliasMap (service.editableTargets catalogue)
    rw [hwhole]
    exact hmap
  refine ⟨exec_targetsRequest hagree, publicTargets_nodup service s, ?_,
    exec_targetCatalogGetRequest, fun request alias_ hrequest => ?_, fun law => ?_⟩
  · have hrange := List.pairwise_lt_range (n := s.catalogue.targets.length)
    rw [← s.catalogue.order.2.2] at hrange
    have hpositions : s.catalogue.targets.Pairwise fun t t' => t.position.val < t'.position.val :=
      List.pairwise_map.mp hrange
    exact hpositions.filter _
  · obtain ⟨hnone, hsome, hconnects⟩ := exec_resolves env service hrequest hfree
    have hlisted : service.resolvedTarget s.targets alias_ = none ↔
        alias_ ∉ (publicTargets service s).map StoredTarget.alias := by
      rw [hagree.resolvedTarget_eq_none, List.mem_map, List.mem_map]
      exact not_congr (exists_congr fun t => and_congr_right fun _ => Subtype.ext_iff.symm)
    refine ⟨⟨?_, fun hmem => ⟨_, hnone (hlisted.mpr hmem), rfl⟩⟩, fun x hx t hcall => ?_⟩
    · rintro ⟨response, hresponse, hcode⟩
      refine hlisted.mp (Option.eq_none_iff_forall_ne_some.mpr fun target htarget => ?_)
      rw [hsome target htarget response hresponse] at hcode
      cases hcode
    · obtain ⟨hmem, halias⟩ := hagree.resolvedTarget_eq_some.mp (hconnects x hx t hcall)
      exact ⟨hmem, Subtype.ext halias⟩
  · exact run.invariant (K := fun s => service.editableTargets s.catalogue = s.catalogue.targets)
      hwhole fun request t _ ht => ensures_whole law service request t ht

/-! ### A stored target under the reserved alias -/

/-- A stored catalogue whose first target has the reserved alias. -/
def shadowedCatalogue : TargetCatalogue where
  provider := NordVpn.name
  revision := 3
  targets := [
    { idealTarget with «alias» := ⟨builtinRecommendedAlias, builtinRecommendedAlias_valid⟩ },
    { idealTarget with position := ⟨1, one_lt_maxTargets⟩ }]
  order := by decide

/-- The NordVPN adapter over that catalogue. -/
def shadowedEnvironment : Environment Unit (Dict String TargetCatalogue) Unit :=
  nordVpnEnvironment Python.asciiData (failingRunner "") MemoryTargetRepository failingSources

def shadowedState : ServiceState Unit (Dict String TargetCatalogue) Unit :=
  { failingState with repository := Dict.ofPairs [("nordvpn", shadowedCatalogue)] }

/-- The service over that catalogue lists the built-in target in the place of the stored one. -/
theorem targets_agree_shadowed :
    ∃ service catalogue targets,
      ((ControlService.init NordVpn.name NordVpn.capabilities "https://example.test/ip" 0).exec
        shadowedEnvironment.handler shadowedState).result = .ok (service, catalogue, targets) ∧
      (publicTargets service (ControlService.started shadowedState catalogue targets)).map
        StoredTarget.alias = [⟨builtinRecommendedAlias, by decide⟩, idealTarget.alias] ∧
      ((publicTargets service (ControlService.started shadowedState catalogue targets)).map
        fun t => t.alias.val).Nodup := by
  obtain ⟨service, catalogue, targets, h, hlist⟩ : ∃ service catalogue targets,
      ((ControlService.init NordVpn.name NordVpn.capabilities "https://example.test/ip" 0).exec
        shadowedEnvironment.handler shadowedState).result = .ok (service, catalogue, targets) ∧
      (publicTargets service (ControlService.started shadowedState catalogue targets)).map
        StoredTarget.alias = [⟨builtinRecommendedAlias, by decide⟩, idealTarget.alias] :=
    ⟨_, _, _, rfl, rfl⟩
  exact ⟨service, catalogue, targets, h, hlist, (targets_agree h .start).2.1⟩

/-! ## The NordVPN adapter over a database -/

/-- The adapter keeps the kind of a selector. -/
theorem validateSelector_kind {unicode : Python.UnicodeData} {selector normalized : JsonObject}
    (h : NordVpn.validateSelector unicode selector = .ok normalized) :
    isRecommendedSelector normalized = isRecommendedSelector selector := by
  obtain ⟨shape, hsame, -, rfl⟩ := NordVpn.validateSelector_eq_ok_iff.mp h
  have hkind : (shape.normalized unicode).kind = shape.kind := by
    cases shape <;> rfl
  unfold isRecommendedSelector
  rw [hsame "kind", NordVpn.Selector.get?_document_kind, NordVpn.Selector.get?_document_kind, hkind]

namespace SqliteTargetRepository

/-- A transaction that returns, returns its candidate. -/
theorem path_replaceTransaction {candidate c : TargetCatalogue} {expectedRevision : Int}
    {encoded : List String} {xs : List (Replied sql PyException)}
    (h : (replaceTransaction candidate expectedRevision encoded).Path xs (.done (.ok c))) :
    c = candidate := by
  obtain ⟨xs₁, ys₁, u, rfl, -, h⟩ := h.bind_ok
  obtain ⟨xs₂, ys₂, row, rfl, -, h⟩ := h.bind_ok
  split at h
  · obtain ⟨-, hraised⟩ := h.of_done
    cases hraised
  · obtain ⟨xs₃, ys₃, revision, rfl, -, h⟩ := h.bind_ok
    -- Both branches insert the rows and commit.
    have htail : ∀ ys : List (Replied sql PyException), Program.Path
        ((insertTargets (candidate.targets.zipWith (targetRow candidate.provider) encoded)).bind
          fun _ => (call .commit).bind fun _ => .done (.ok candidate)) ys (.done (.ok c)) →
        c = candidate := by
      intro ys hys
      obtain ⟨ys', zs, u, rfl, -, hys⟩ := hys.bind_ok
      obtain ⟨ys'', zs', w, rfl, -, hys⟩ := hys.bind_ok
      obtain ⟨-, hdone⟩ := hys.of_done
      cases hdone
      rfl
    cases row with
    | none =>
      obtain ⟨xs₄, ys₄, u', rfl, -, h⟩ := h.bind_ok
      exact htail _ h
    | some committed =>
      obtain ⟨xs₄, ys₄, u', rfl, -, h⟩ := h.bind_ok
      obtain ⟨xs₅, ys₅, w, rfl, -, h⟩ := h.bind_ok
      exact htail _ h

/-- A replacement that returns, returns a catalogue of the targets it was given. -/
theorem path_replaceCatalogue {provider : String} {expectedRevision : Int}
    {targets : List StoredTarget} {c : TargetCatalogue} {xs : List (Replied sql PyException)}
    (h : (replaceCatalogue provider expectedRevision targets).Path xs (.done (.ok c))) :
    c.targets = targets := by
  obtain ⟨xs₁, ys₁, candidate, rfl, hcandidate, h⟩ := h.bind_ok
  obtain ⟨-, hvalid⟩ := hcandidate.of_done
  obtain ⟨xs₂, ys₂, encoded, rfl, -, h⟩ := h.bind_ok
  have hc : c = candidate := by
    split at h
    · obtain ⟨-, hraised⟩ := h.of_done
      cases hraised
    · obtain ⟨xs₃, ys₃, u, rfl, -, h⟩ := h.bind_ok
      -- What the body returned is returned after the connection is closed.
      obtain ⟨xs₄, ys₄, r, rfl, hbody, h⟩ := h.bind_ok
      obtain ⟨xs₅, ys₅, u', rfl, -, hdone⟩ := h.bind_ok
      obtain ⟨-, hr⟩ := hdone.of_done
      cases hr
      obtain ⟨result, hbody, hreify⟩ := hbody.attempt_ok
      rw [Program.reify_some] at hreify
      cases hreify
      obtain ⟨xs₆, ys₆, r', rfl, htransaction, h⟩ := hbody.bind_ok
      cases r' with
      | error e =>
        obtain ⟨xs₇, ys₇, u'', rfl, -, h⟩ := h.bind_ok
        obtain ⟨-, hraised⟩ := h.of_done
        cases hraised
      | ok c' =>
        obtain ⟨result, htransaction, hreify⟩ := htransaction.attempt_ok
        obtain rfl := Program.reify_eq_ok.mp hreify
        obtain ⟨-, hdone⟩ := h.of_done
        cases hdone
        exact path_replaceTransaction htransaction
  subst hc
  exact (TargetCatalogue.validate_eq_ok_iff.mp (Program.done.inj hvalid).symm).2.2

end SqliteTargetRepository

/-- **The law holds of the NordVPN adapter over a database**, whatever its runner does and whatever
statements the database refuses. -/
theorem nordVpn_catalogueLaw {ω : Type} (unicode : Python.UnicodeData)
    (runner : Handler commandRunner PyException σ) (interpreter : Python.Interpreter)
    (lax : Json → Option JsonScalar) (faults : Faults ω) (sources : StatusSources τ) :
    CatalogueLaw (nordVpnEnvironment unicode runner
      (SqliteTargetRepository interpreter lax faults) sources) where
  kind selector p normalized h := validateSelector_kind h
  replaced provider expected targets r catalogue h := by
    obtain ⟨xs, hpath, -⟩ := Program.path_exec (sqlite faults)
      (SqliteTargetRepository.replaceCatalogue provider expected targets) r
    rw [show ((SqliteTargetRepository.replaceCatalogue provider expected targets).exec
      (sqlite faults) r).result = .ok catalogue from h] at hpath
    exact SqliteTargetRepository.path_replaceCatalogue hpath

end Snarkypuss
