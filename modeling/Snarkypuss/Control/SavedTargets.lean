import Snarkypuss.Control.Attribution
import Snarkypuss.Control.Snapshot

/-!
# Saved targets

A target that a replacement accepts is stored under the normal form of its selector. Whoever reads
the catalogue afterwards, in the same service or in one that is constructed later, connects to it
with the arguments that its selector stood for when it was submitted.

## Main definitions

* `SavedAs`: a stored target with the selector that was submitted

## Main results

* `record_connect`: the first command of a CONNECT
* `saved_targets_connect`: an accepted target is connected to with the arguments of its selector,
  after any restart
-/

namespace Snarkypuss

open Daemon

variable {σ ρ τ : Type} {unicode : Python.UnicodeData}

/-! ## What is saved -/

/-- A target that was saved: its selector is the document of a valid shape, and it is stored under
that of the normal form. -/
def SavedAs (unicode : Python.UnicodeData) (t t' : StoredTarget) : Prop :=
  t'.alias = t.alias ∧ ∃ shape : NordVpn.Selector, t.selector.Same shape.document ∧ shape.Valid ∧
    t'.selector.Same (shape.normalized unicode).document

theorem NormalForms.savedAs {runner : Handler commandRunner PyException σ}
    {targets normalized : List StoredTarget}
    (h : NormalForms (recordedNordVpn unicode runner) targets normalized) :
    List.Forall₂ (SavedAs unicode) targets normalized := by
  refine List.Forall₂.imp ?_ h
  rintro t t' ⟨halias, -, -, ⟨p, record⟩, hselector⟩
  have hvalidate : NordVpn.validateSelector unicode t.selector = .ok t'.selector := hselector
  obtain ⟨shape, hsame, hvalid, heq⟩ := NordVpn.validateSelector_eq_ok_iff.mp hvalidate
  refine ⟨halias, shape, hsame, hvalid, ?_⟩
  rw [heq]
  exact .refl _

theorem exists_of_forall₂ {A B : Type} {R : A → B → Prop} {as : List A} {bs : List B} {a : A}
    (h : List.Forall₂ R as bs) (ha : a ∈ as) : ∃ b ∈ bs, R a b := by
  induction h with
  | nil => cases ha
  | @cons a' b as bs hab _ ih =>
    rcases List.mem_cons.mp ha with rfl | ha
    · exact ⟨b, List.mem_cons_self, hab⟩
    · obtain ⟨b', hb', hab'⟩ := ih ha
      exact ⟨b', List.mem_cons_of_mem _ hb', hab'⟩

theorem SavedAs.same {t t' t'' : StoredTarget} (h : SavedAs unicode t t') (hsame : t''.Same t') :
    SavedAs unicode t t'' := by
  obtain ⟨halias, shape, hshape, hvalid, hdocument⟩ := h
  exact ⟨hsame.alias_eq.trans halias, shape, hshape, hvalid, hsame.selector_same.trans hdocument⟩

/-- **What was saved is validated again as it is**, and stands for the same arguments. -/
theorem SavedAs.validate (hunicode : unicode.FoldsAscii) {t t' : StoredTarget}
    (h : SavedAs unicode t t') :
    ∃ shape : NordVpn.Selector, t.selector.Same shape.document ∧ shape.Valid ∧
      NordVpn.validateSelector unicode t'.selector = .ok (shape.normalized unicode).document := by
  obtain ⟨-, shape, hshape, hvalid, hdocument⟩ := h
  refine ⟨shape, hshape, hvalid, NordVpn.validateSelector_eq_ok_iff.mpr
    ⟨shape.normalized unicode, hdocument, NordVpn.Selector.normalized_valid hunicode hvalid, ?_⟩⟩
  rw [NordVpn.Selector.normalized_normalized hunicode hvalid.countryCode]

/-! ## The commands of a connect -/

section Commands

variable {runner : Handler commandRunner PyException σ}
  {repository : Handler targetRepository PyException ρ}
  {collectors : Handler statusCollectors PyException τ} {service : ControlService}

variable (unicode runner repository collectors) in
/-- The record of commands only grows. -/
theorem record_grows {A : Type} (p : Daemon A) (s : ServiceState (σ × List RanCommand) ρ τ) :
    ∃ more, (p.exec (nordEnvironment unicode runner repository collectors).handler s).state.provider.2 =
      s.provider.2 ++ more := by
  induction p generalizing s with
  | done r => exact ⟨[], (List.append_nil _).symm⟩
  | ask c next ih =>
    obtain ⟨more, hmore⟩ := ih ((nordEnvironment unicode runner repository collectors).handler c s).1
      ((nordEnvironment unicode runner repository collectors).handler c s).2
    have hcall : ∃ ran, ((nordEnvironment unicode runner repository collectors).handler
        c s).2.provider.2 = s.provider.2 ++ ran := by
      cases c with
      | provider c => exact ⟨_, rfl⟩
      | _ => exact ⟨[], (List.append_nil _).symm⟩
    obtain ⟨ran, hran⟩ := hcall
    refine ⟨ran ++ more, ?_⟩
    rw [Program.exec_ask, hmore, hran, List.append_assoc]

variable (runner) in
/-- The first command of `connect_stored`. -/
theorem record_connectStored {target : StoredTarget} {document : JsonObject}
    (h : NordVpn.validateSelector unicode target.selector = .ok document)
    (p : σ × List RanCommand) :
    ∃ reply more, (recordedNordVpn unicode runner (.connectStored target) p).2.2 =
      p.2 ++ ⟨.connectStored target, "connect" :: NordVpn.connectArguments document, reply⟩ ::
        more := by
  obtain ⟨q, record⟩ := p
  have hexec : ∃ x xs, ((NordVpn.connectStored unicode target).exec runner q).exchanges = x :: xs ∧
      x.call = "connect" :: NordVpn.connectArguments document := by
    have hconnect : NordVpn.connectStored unicode target =
        (NordVpn.run unicode ("connect" :: NordVpn.connectArguments document)).bind fun _ =>
          (NordVpn.status unicode).bind fun status => .done (.ok { status with
            target := some target.alias.val
            displayName := status.displayName <|> some target.label.val }) := by
      simp [NordVpn.connectStored, h]
    rw [hconnect]
    exact ⟨_, _, rfl, rfl⟩
  obtain ⟨x, xs, hexchanges, hcall⟩ := hexec
  refine ⟨x.reply, recordOf (.connectStored target) xs, ?_⟩
  show record ++ recordOf (.connectStored target)
    ((NordVpn.connectStored unicode target).exec runner q).exchanges = _
  rw [hexchanges, ← hcall]
  rfl

variable (repository collectors) in
/-- **The first command of a CONNECT**, when its alias stands for a target with a valid selector. -/
theorem record_connect {s : ServiceState (σ × List RanCommand) ρ τ} {alias_ : Identifier}
    {target : StoredTarget} {document : JsonObject}
    (htarget : service.resolvedTarget s.targets alias_ = some target)
    (hselector : NordVpn.validateSelector unicode target.selector = .ok document)
    (hfree : s.operationLocked = false) (requestId : UUID) :
    ∃ reply more, ((service.dispatch ⟨requestId, .connectRequest alias_⟩).exec
        (nordEnvironment unicode runner repository collectors).handler s).state.provider.2 =
      s.provider.2 ++ ⟨.connectStored target, "connect" :: NordVpn.connectArguments document,
        reply⟩ :: more := by
  obtain ⟨before, after, hexec, -, -⟩ := service.exec_dispatch
    (nordEnvironment unicode runner repository collectors) ⟨requestId, .connectRequest alias_⟩ hfree
  rw [hexec]
  show ∃ reply more, (service.inner _ _ s).state.provider.2 = _
  have hresolved : ((service.resolveTarget alias_).exec
      (nordEnvironment unicode runner repository collectors).handler
        { s with operationLocked := true }).result = .ok (some target) ∧
      ((service.resolveTarget alias_).exec
        (nordEnvironment unicode runner repository collectors).handler
          { s with operationLocked := true }).state = { s with operationLocked := true } := by
    rw [← htarget]
    unfold ControlService.resolveTarget ControlService.resolvedTarget
    split <;> exact ⟨rfl, rfl⟩
  -- the request goes on with the call of `connect_stored`
  have hinner : ∃ next : Except PyException VpnStatus → Daemon ControlResponse,
      (service.inner (nordEnvironment unicode runner repository collectors)
        ⟨requestId, .connectRequest alias_⟩ s).state =
      ((Program.ask (I := daemon) (.provider (.connectStored target)) next).exec
        (nordEnvironment unicode runner repository collectors).handler
        { s with operationLocked := true }).state := by
    obtain ⟨rest, hrest, later, hlater⟩ : ∃ rest,
        service.dispatchConnect requestId alias_ = (service.resolveTarget alias_).bind rest ∧
          ∃ later, rest (some target) = (ControlService.connectTarget target).bind later :=
      ⟨_, rfl, _, rfl⟩
    obtain ⟨next, hnext⟩ : ∃ next, ControlService.connectTarget target =
        .ask (.provider (.connectStored target)) next := ⟨_, rfl⟩
    refine ⟨fun r => (next r).bind later, ?_⟩
    show ((service.dispatchConnect requestId alias_).exec _ { s with operationLocked := true }).state = _
    rw [hrest, Program.exec_bind_of_ok _ hresolved.1, hresolved.2, hlater, hnext, Program.ask_bind]
  obtain ⟨next, hnext⟩ := hinner
  rw [hnext, Program.exec_ask]
  obtain ⟨reply, more, hrecord⟩ := record_connectStored runner hselector s.provider
  obtain ⟨later, hlater⟩ := record_grows unicode runner repository collectors (next _) _
  refine ⟨reply, more ++ later, ?_⟩
  rw [hlater]
  show (recordedNordVpn unicode runner (.connectStored target) s.provider).2.2 ++ later = _
  rw [hrecord, List.append_assoc, List.cons_append]

/-! ## Restarts -/

variable {name : Identifier} {capabilities : ProviderCapabilities} {publicIpUrl : String}
  {publicIpTimeoutSeconds : PyFloat} {s₀ s₁ s : ServiceState (σ × List RanCommand) ρ τ}

/-- The built-in target does not depend on the state that a construction starts from. -/
theorem makeBuiltin_result (capabilities : ProviderCapabilities)
    (s s' : ServiceState (σ × List RanCommand) ρ τ) :
    ((ControlService.makeBuiltinRecommendedTarget capabilities).exec
        (nordEnvironment unicode runner repository collectors).handler s).result =
      ((ControlService.makeBuiltinRecommendedTarget capabilities).exec
        (nordEnvironment unicode runner repository collectors).handler s').result := by
  unfold ControlService.makeBuiltinRecommendedTarget
  split <;> rfl

/-- What the constructor fixes: the name, and the built-in target that the capabilities give. -/
theorem init_fixed {env : Environment σ ρ τ} {s₀ : ServiceState σ ρ τ} {catalogue : TargetCatalogue}
    {targets : AliasMap}
    (h : ((ControlService.init name capabilities publicIpUrl publicIpTimeoutSeconds).exec
      env.handler s₀).result = .ok (service, catalogue, targets)) :
    service.name = name ∧ ∃ s builtin,
      ((ControlService.makeBuiltinRecommendedTarget capabilities).exec env.handler s).result =
        .ok builtin ∧ service.builtinRecommendedTarget = builtin.map Subtype.val := by
  obtain ⟨committed, -, h, -⟩ := Program.exec_bind_eq_ok env.handler h
  obtain ⟨builtin, hbuiltin, h, -⟩ := Program.exec_bind_eq_ok env.handler h
  cases h
  exact ⟨rfl, _, builtin, hbuiltin, rfl⟩

/-- An up-to-date service lists the targets of the committed catalogue, when none is reserved. -/
theorem Current.exists_target {env : Environment σ ρ τ}
    {contract : RepositoryContract env.repository} {t : ServiceState σ ρ τ} {c : TargetCatalogue}
    (h : Current service contract t) (hc : (contract.committed t.repository service.name).Same c)
    (hfree : ∀ t ∈ c.targets, service.isReservedBuiltinTarget t = false) {target : StoredTarget}
    (htarget : target ∈ c.targets) :
    ∃ target', service.resolvedTarget t.targets target.alias = some target' ∧
      target'.Same target := by
  have hsame : t.catalogue.Same c := by
    have heditable := editable_same (b := service.builtinRecommendedTarget) hc
    rw [editable_self (b := service.builtinRecommendedTarget) hfree] at heditable
    exact h.catalogue_same.trans heditable
  obtain ⟨target', hmem, htarget'⟩ := exists_of_forall₂ hsame.symm.targets_same htarget
  have hwhole : service.editableTargets t.catalogue = t.catalogue.targets := by
    refine List.filter_eq_self.mpr fun x hx => ?_
    rw [h.unreserved x hx]
    rfl
  have hagree : Agree service t := by
    rw [Agree, hwhole]
    exact h.targets_eq
  refine ⟨target', hagree.resolvedTarget_eq_some.mpr ⟨?_, ?_⟩, htarget'.symm⟩
  · rw [publicTargets, hwhole]
    exact List.mem_append_right _ hmem
  · exact congrArg Subtype.val htarget'.alias_eq.symm

/-- **A target that a replacement accepts is connected to with the arguments that its selector stood
for**, by every service that is constructed over the repository afterwards, in every state that it
reaches while nobody replaces the catalogue again. -/
theorem saved_targets_connect (hunicode : unicode.FoldsAscii)
    (contract : RepositoryContract (nordEnvironment unicode runner repository collectors).repository)
    {catalogue : TargetCatalogue} {targets : AliasMap}
    (h : ((ControlService.init name capabilities publicIpUrl publicIpTimeoutSeconds).exec
      (nordEnvironment unicode runner repository collectors).handler s₀).result =
        .ok (service, catalogue, targets))
    (hvalid : contract.Valid s₀.repository) {history}
    (run : (nordEnvironment unicode runner repository collectors).Run service (fun _ _ => True)
      (ControlService.started ((ControlService.init name capabilities publicIpUrl
        publicIpTimeoutSeconds).exec (nordEnvironment unicode runner repository collectors).handler
          s₀).state catalogue targets) history s)
    {requestId : UUID} {expectedRevision : ℕ}
    {submitted : {targets : List StoredTarget // targets.length ≤ 100}} {response : ControlResponse}
    (hresponse : ((service.dispatch
      ⟨requestId, .targetCatalogReplaceRequest name expectedRevision submitted⟩).exec
        (nordEnvironment unicode runner repository collectors).handler s).result = .ok response)
    (hsuccess : response.success = true)
    (hrepository : s₁.repository = ((service.dispatch
      ⟨requestId, .targetCatalogReplaceRequest name expectedRevision submitted⟩).exec
        (nordEnvironment unicode runner repository collectors).handler s).state.repository)
    {service' : ControlService} {catalogue' : TargetCatalogue} {targets' : AliasMap}
    (h' : ((ControlService.init name capabilities publicIpUrl publicIpTimeoutSeconds).exec
      (nordEnvironment unicode runner repository collectors).handler s₁).result =
        .ok (service', catalogue', targets')) {history' t}
    (run' : (nordEnvironment unicode runner repository collectors).Run service' (fun _ _ => True)
      (ControlService.started ((ControlService.init name capabilities publicIpUrl
        publicIpTimeoutSeconds).exec (nordEnvironment unicode runner repository collectors).handler
          s₁).state catalogue' targets') history' t)
    (hkept : contract.committed t.repository name = contract.committed s₁.repository name) :
    ∀ target ∈ submitted.val, ∃ shape : NordVpn.Selector, target.selector.Same shape.document ∧
      ∀ requestId, ∃ stored reply more,
        ((service'.dispatch ⟨requestId, .connectRequest target.alias⟩).exec
          (nordEnvironment unicode runner repository collectors).handler t).state.provider.2 =
            t.provider.2 ++ ⟨.connectStored stored, "connect" :: (shape.normalized unicode).arguments,
              reply⟩ :: more := by
  have hkind : KeepsKind (nordEnvironment unicode runner repository collectors).provider :=
    fun selector p normalized h => validateSelector_kind h
  obtain ⟨hname, _, builtin, hbuiltin, hservice⟩ := init_fixed h
  obtain ⟨hname', _, builtin', hbuiltin', hservice'⟩ := init_fixed h'
  obtain rfl : builtin = builtin' := Except.ok.inj
    (hbuiltin.symm.trans ((makeBuiltin_result capabilities _ _).trans hbuiltin'))
  obtain ⟨hcurrent, hunlocked⟩ := current_of_run hkind h hvalid run
  obtain ⟨-, hfailed⟩ | ⟨_, _, _, c, hoperation, -, -, -, hstored, -, -, hfree⟩ :=
    dispatch_replaces hkind ⟨requestId, .targetCatalogReplaceRequest name expectedRevision submitted⟩
      hcurrent.valid hunlocked
  · rw [hfailed _ _ _ _ rfl hresponse] at hsuccess
    cases hsuccess
  cases hoperation
  have hvalid' : contract.Valid s₁.repository := by
    rw [hrepository]
    exact hstored.valid
  obtain ⟨hcurrent', hfreeLock⟩ := current_of_run hkind h' hvalid' run'
  have hcommitted : (contract.committed t.repository service'.name).Same c := by
    rw [hname', hkept, hrepository]
    exact hname ▸ hstored.committed
  have hfree' : ∀ t ∈ c.targets, service'.isReservedBuiltinTarget t = false := by
    intro x hx
    rw [ControlService.isReservedBuiltinTarget, hservice', ← hservice]
    exact hfree x hx
  intro target htarget
  obtain ⟨stored, hmem, hsaved⟩ := exists_of_forall₂ hstored.normalForms.savedAs htarget
  obtain ⟨found, hfound, hsame⟩ := hcurrent'.exists_target hcommitted hfree' hmem
  obtain ⟨shape, hshape, hvalidShape, hselector⟩ := (hsaved.same hsame).validate hunicode
  refine ⟨shape, hshape, fun requestId => ?_⟩
  rw [hsaved.1] at hfound
  obtain ⟨reply, more, hrecord⟩ := record_connect repository collectors hfound hselector hfreeLock requestId
  rw [NordVpn.connectArguments_document] at hrecord
  exact ⟨found, reply, more, hrecord⟩

end Commands

/-- The NordVPN adapter with a record of its commands, over a repository in memory. -/
def savedEnvironment : Environment (Unit × List RanCommand) (Dict String TargetCatalogue) Unit :=
  nordEnvironment Python.asciiData (failingRunner "") MemoryTargetRepository idealCollectors

def savedContract : RepositoryContract savedEnvironment.repository := memoryContract

/-- Nothing is stored. -/
def savedState : ServiceState (Unit × List RanCommand) (Dict String TargetCatalogue) Unit where
  provider := ((), [])
  repository := .empty
  collectors := ()
  currentTargetAlias := none
  catalogue := .initial NordVpn.name
  targets := aliasMap []
  operationLocked := false

/-- The construction of a service. -/
def savedInit (s : ServiceState (Unit × List RanCommand) (Dict String TargetCatalogue) Unit) :=
  (ControlService.init NordVpn.name NordVpn.capabilities "https://example.test/ip" 0).exec
    savedEnvironment.handler s

theorem saved_targets_connect_restarted :
    ∃ service catalogue targets, (savedInit savedState).result = .ok (service, catalogue, targets) ∧
      let s₁ := ((service.dispatch storeIdeal).exec savedEnvironment.handler
        (ControlService.started (savedInit savedState).state catalogue targets)).state
      ∃ service' catalogue' targets', (savedInit s₁).result = .ok (service', catalogue', targets') ∧
        ∃ shape : NordVpn.Selector, idealTarget.selector.Same shape.document ∧
          ∀ requestId, ∃ stored reply more,
            ((service'.dispatch ⟨requestId, .connectRequest idealTarget.alias⟩).exec
              savedEnvironment.handler (ControlService.started (savedInit s₁).state catalogue'
                targets')).state.provider.2 =
              (ControlService.started (savedInit s₁).state catalogue' targets').provider.2 ++
                ⟨.connectStored stored,
                  "connect" :: (shape.normalized Python.asciiData).arguments, reply⟩ :: more := by
  obtain ⟨service, catalogue, targets, response, service', catalogue', targets', h, hresponse,
      hsuccess, h'⟩ :
      ∃ service catalogue targets response service' catalogue' targets',
        (savedInit savedState).result = .ok (service, catalogue, targets) ∧
        ((service.dispatch storeIdeal).exec savedEnvironment.handler
          (ControlService.started (savedInit savedState).state catalogue targets)).result =
            .ok response ∧ response.success = true ∧
        (savedInit ((service.dispatch storeIdeal).exec savedEnvironment.handler
          (ControlService.started (savedInit savedState).state catalogue targets)).state).result =
            .ok (service', catalogue', targets') := ⟨_, _, _, _, _, _, _, rfl, rfl, rfl, rfl⟩
  refine ⟨service, catalogue, targets, h, service', catalogue', targets', h', ?_⟩
  have hkept : ∀ s : ServiceState (Unit × List RanCommand) (Dict String TargetCatalogue) Unit,
      savedContract.committed (savedInit s).state.repository =
        savedContract.committed s.repository := fun s =>
    (init_committed savedContract NordVpn.name NordVpn.capabilities "https://example.test/ip" 0
      trivial).2
  exact saved_targets_connect Python.asciiData_foldsAscii savedContract h trivial .start hresponse
    hsuccess rfl h' .start (congrFun (hkept _) _) idealTarget List.mem_cons_self

end Snarkypuss
