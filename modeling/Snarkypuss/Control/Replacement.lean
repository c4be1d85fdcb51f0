import Snarkypuss.Control.FailureCodes
import Snarkypuss.Control.Ideal

/-!
# Replacing the catalogue

What a replacement request is answered, for every repository of the service. A catalogue out of
order passes the protocol and the adapter, and is refused by the model that the repository builds,
whose exception no clause of the dispatch names.

## Main definitions

* `Storage`: the three kinds of repositories
* `AdapterContract`: a provider that validates selectors as adapters do
* `Reaches`: the request passes every check before the repository
* `ReplacementAnswered`: the answer that every request is promised

## Main results

* `replacement_answered_iff`: exactly when the promise is kept
-/

namespace Snarkypuss

open ControlService SqliteTargetRepository

variable {σ ρ τ : Type}

/-! ## Repositories -/

/-- The kinds of repositories, by what they keep. -/
inductive Storage : Type → Type 1
  | memory : Storage (Dict String TargetCatalogue)
  | yaml : Storage TargetCatalogue
  | sqlite {σ : Type} (interpreter : Python.Interpreter) (lax : Json → Option JsonScalar)
    (faults : Faults σ) : Storage (Connection σ)

namespace Storage

/-- The repository of a kind. -/
def repository : (storage : Storage ρ) → Handler targetRepository PyException ρ
  | memory => MemoryTargetRepository
  | yaml => YamlTargetRepository
  | sqlite interpreter lax faults => SqliteTargetRepository interpreter lax faults

/-- The repository refuses every replacement. -/
def readOnly : Storage ρ → Bool
  | yaml => true
  | _ => false

/-- The two states store the same catalogues. -/
def SameStored : Storage ρ → ρ → ρ → Prop
  | memory, s, s' => s' = s
  | yaml, s, s' => s' = s
  | sqlite .., s, s' => s'.committed = s.committed

/-- The committed revision of a provider. -/
def revision : Storage ρ → ρ → Identifier → Int
  | memory, s, p => ((s.get? p).getD (.initial p)).revision
  | yaml, s, _ => s.revision
  | sqlite .., s, p => s.committed.revision p

/-- The exchanges of a replacement with the database. -/
def exchanges (faults : Faults σ) (p : Identifier) (expectedRevision : Nat)
    (targets : List StoredTarget) (s : Connection σ) :
    List (Exchange sql PyException (Connection σ)) :=
  ((replaceCatalogue p expectedRevision targets).exec (Snarkypuss.sqlite faults) s).exchanges

/-- The database disturbs a replacement: it cannot hold the documents, the rollback is refused, or
the revision overflows. -/
def Disturbed : (storage : Storage ρ) → Identifier → Nat → List StoredTarget → ρ → Prop
  | memory, _, _, _, _ => False
  | yaml, _, _, _, _ => False
  | sqlite _ _ faults, p, expectedRevision, targets, s =>
    (∀ encoded, (targets.mapM fun target => encodeSelector target.selector) ≠ .ok encoded) ∨
      RollbackRefused (exchanges faults p expectedRevision targets s) ∨
        Overflows s.committed p expectedRevision targets
          (exchanges faults p expectedRevision targets s)

/-- The database takes the documents and refuses no statement. -/
def Serves : (storage : Storage ρ) → Identifier → Nat → List StoredTarget → ρ → Prop
  | memory, _, _, _, _ => True
  | yaml, _, _, _, _ => True
  | sqlite _ _ faults, p, expectedRevision, targets, s =>
    (∃ encoded, Encodes targets encoded) ∧
      ¬ Refused (exchanges faults p expectedRevision targets s)

variable (storage : Storage ρ) (p : Identifier) (expectedRevision : Nat)
  (targets : List StoredTarget) (s : ρ)

/-- The reply of a repository to a replacement. -/
def replace : Except PyException TargetCatalogue × ρ :=
  storage.repository (.replaceCatalogue p expectedRevision targets) s

/-- A repository raises no `ProviderError`. -/
theorem replace_provider? {e : PyException}
    (h : (storage.replace p expectedRevision targets s).1 = .error e) : e.provider? = none := by
  have hcodes : e.Within [] repositoryCodes := by
    cases storage with
    | memory => exact memory_codes _ s e h
    | yaml => exact yaml_codes _ s e h
    | sqlite interpreter lax faults =>
      have hraising : Raising SqlReply (PyException.Within [] repositoryCodes)
          (program interpreter lax (.replaceCatalogue p expectedRevision targets)) :=
        program_codes _
      exact hraising.result (sqlite_reply faults) s e h
  cases e with
  | provider code message => cases hcodes
  | _ => rfl

/-- What the in-memory repository replies. -/
theorem memoryReplace_identifier (catalogues : Dict String TargetCatalogue) :
    memoryReplace catalogues p expectedRevision targets =
      if h : ValidOrder targets then
        if (((catalogues.get? p).getD (.initial p)).revision : Int) ≠ expectedRevision then
          .error catalogConflict
        else .ok ⟨p, expectedRevision + 1, targets, h⟩
      else .error .validation := by
  unfold memoryReplace
  rw [validate_identifier, memoryGet_identifier]
  by_cases h : ValidOrder targets
  · rw [dif_pos h, dif_pos h]
    simp only [bind, Except.bind]
    split <;> rfl
  · rw [dif_neg h, dif_neg h]
    rfl

theorem memory_replace (catalogues : Dict String TargetCatalogue) :
    (memory.replace p expectedRevision targets catalogues).1 =
      memoryReplace catalogues p expectedRevision targets := by
  simp only [replace, repository, MemoryTargetRepository]
  split <;> simp [*]

/-- When a repository raises something other than a `RepositoryError`. -/
theorem replace_escapes_iff :
    Escapes (storage.replace p expectedRevision targets s).1 ↔
      storage.readOnly = false ∧ ¬ ValidOrder targets ∨
        storage.Disturbed p expectedRevision targets s := by
  cases storage with
  | memory =>
    rw [memory_replace, memoryReplace_identifier]
    simp only [readOnly, Disturbed, true_and, or_false]
    split
    · rename_i h
      refine iff_of_false ?_ (not_not.mpr h)
      split
      · rw [escapes_error_iff]
        exact fun h => by cases h
      · exact not_escapes_ok _
    · rename_i h
      exact iff_of_true (escapes_error_iff.mpr rfl) h
  | yaml =>
    refine iff_of_false ?_ ?_
    · show ¬ Escapes (.error _)
      rw [escapes_error_iff]
      exact fun h => by cases h
    · simp [readOnly, Disturbed]
  | sqlite interpreter lax faults =>
    simp only [readOnly, true_and]
    exact replaceCatalogue_escapes_iff faults p expectedRevision targets s

/-- A replacement that raises leaves what is stored. -/
theorem replace_unchanged {e : PyException}
    (h : (storage.replace p expectedRevision targets s).1 = .error e) :
    storage.SameStored s (storage.replace p expectedRevision targets s).2 := by
  cases storage with
  | memory =>
    rw [memory_replace] at h
    simp only [SameStored, replace, repository, MemoryTargetRepository, h]
  | yaml => rfl
  | sqlite interpreter lax faults => exact replaceCatalogue_unchanged s h

/-- A read-only repository refuses every replacement. -/
theorem replace_readOnly (h : storage.readOnly = true) :
    ∃ message, (storage.replace p expectedRevision targets s).1 =
      .error (.repository "READ_ONLY_REPOSITORY" message) := by
  cases storage with
  | yaml => exact ⟨_, rfl⟩
  | memory => cases h
  | sqlite interpreter lax faults => cases h

/-- A replacement whose revision is stale. -/
theorem replace_stale (horder : ValidOrder targets)
    (hrevision : storage.revision s p ≠ expectedRevision)
    (hserves : storage.Serves p expectedRevision targets s) (hwritable : storage.readOnly = false) :
    (storage.replace p expectedRevision targets s).1 = .error catalogConflict := by
  cases storage with
  | memory =>
    rw [memory_replace, memoryReplace_identifier, dif_pos horder]
    exact if_pos hrevision
  | yaml => cases hwritable
  | sqlite interpreter lax faults =>
    exact replaceCatalogue_stale horder hserves.1 hrevision hserves.2

end Storage

/-! ## Adapters -/

/-- A provider that validates selectors as the adapters do: with a `ProviderError` for a selector
that it does not take, and within the bounds that the selector was in. -/
structure AdapterContract (provider : Handler vpnProvider PyException σ) : Prop where
  raises : ∀ selector v e, (provider (.validateSelector selector) v).1 = .error e →
    ∃ code message, e = .provider code message
  bounded : ∀ selector v normalized, boundedSelector selector = true →
    (provider (.validateSelector selector) v).1 = .ok normalized → boundedSelector normalized = true

/-- The service's environment around a storage. -/
def Storage.environment (storage : Storage ρ) (provider : Handler vpnProvider PyException σ)
    (collectors : Handler statusCollectors PyException τ) : Environment σ ρ τ :=
  ⟨provider, storage.repository, collectors⟩

/-- The targets with other selectors. -/
def Renormalized (targets normalized : List StoredTarget) : Prop :=
  normalized.map (fun t => t.alias.val) = targets.map (fun t => t.alias.val) ∧
    normalized.map (fun t => t.position.val) = targets.map (fun t => t.position.val)

/-- The order of a catalogue does not depend on the selectors. -/
theorem Renormalized.validOrder_iff {targets normalized : List StoredTarget}
    (h : Renormalized targets normalized) : ValidOrder normalized ↔ ValidOrder targets := by
  have hlength : normalized.length = targets.length := by
    simpa using congrArg List.length h.1
  unfold ValidOrder
  rw [h.1, h.2, hlength]

section Dispatch

variable {provider : Handler vpnProvider PyException σ} {storage : Storage ρ}
  {collectors : Handler statusCollectors PyException τ} {service : ControlService}

/-- The selectors of a request are all taken, or one of them is refused. -/
theorem normalizeTargets_cases (env : Environment σ ρ τ) (contract : AdapterContract env.provider)
    (targets : List StoredTarget) (s : ServiceState σ ρ τ) :
    (∃ normalized, ((normalizeTargets targets).exec env.handler s).result = .ok normalized ∧
      Renormalized targets normalized) ∨
      ∃ code message, ((normalizeTargets targets).exec env.handler s).result =
        .error (.provider code message) := by
  induction targets generalizing s with
  | nil => exact .inl ⟨[], rfl, rfl, rfl⟩
  | cons target targets ih =>
    simp only [normalizeTargets, Program.bind_eq]
    rw [Program.exec_bind]
    have hcall : (Daemon.provider (.validateSelector target.selector)).exec env.handler s =
        ⟨[⟨.provider (.validateSelector target.selector),
            (env.provider (.validateSelector target.selector) s.provider).1,
            { s with
              provider := (env.provider (.validateSelector target.selector) s.provider).2 }⟩],
          (env.provider (.validateSelector target.selector) s.provider).1,
          { s with provider := (env.provider (.validateSelector target.selector) s.provider).2 }⟩ :=
      rfl
    rw [hcall]
    cases hreply : (env.provider (.validateSelector target.selector) s.provider).1 with
    | error e =>
      obtain ⟨code, message, rfl⟩ := contract.raises _ _ _ hreply
      exact .inr ⟨code, message, rfl⟩
    | ok selector =>
      have hbounded := contract.bounded _ _ _ target.bounded hreply
      have hwith : withSelector target selector =
          .ok { target with selector := selector, bounded := hbounded } := dif_pos hbounded
      simp only [hwith, Program.done_ok_bind]
      rw [Program.exec_bind]
      rcases ih { s with
          provider := (env.provider (.validateSelector target.selector) s.provider).2 } with
        ⟨normalized, hresult, haliases, hpositions⟩ | ⟨code, message, hresult⟩
      · rw [hresult]
        refine .inl ⟨_, rfl, ?_, ?_⟩
        · simp [haliases]
        · simp [hpositions]
      · rw [hresult]
        exact .inr ⟨code, message, rfl⟩

/-- Normalising asks the provider alone. -/
theorem normalizeTargets_repository (env : Environment σ ρ τ) (targets : List StoredTarget)
    (s : ServiceState σ ρ τ) :
    ((normalizeTargets targets).exec env.handler s).state.repository = s.repository := by
  have huses : (normalizeTargets targets).Uses fun c : DaemonCall => ∃ pc, c = .provider pc :=
    uses_normalizeTargets targets fun selector => ⟨_, rfl⟩
  refine huses.exec_unchanged (v := ServiceState.repository) ?_ s
  rintro c s ⟨pc, rfl⟩
  rfl

/-! ## The request -/

/-- The request passes every check of the dispatch, and the provider takes its selectors. -/
structure Reaches (env : Environment σ ρ τ) (service : ControlService) (s : ServiceState σ ρ τ)
    (requested : Identifier) (targets normalized : List StoredTarget) : Prop where
  unlocked : s.operationLocked = false
  active : requested = service.name
  selection : service.capabilities.targetSelection = true
  nonempty : (targets.isEmpty && service.builtinRecommendedTarget.isNone) = false
  unreserved : targets.any service.isReservedBuiltinTarget = false
  normalizes : ((normalizeTargets targets).exec env.handler
    { s with operationLocked := true }).result = .ok normalized

/-- The request of a replacement. -/
def replacementRequest (requestId : UUID) (requested : Identifier) (expectedRevision : Nat)
    (targets : {targets : List StoredTarget // targets.length ≤ 100}) : ControlRequest :=
  ⟨requestId, .targetCatalogReplaceRequest requested expectedRevision targets⟩

/-- How the dispatch of a replacement ends: before the repository, with a refusal, or with what it
makes of the repository's reply. -/
inductive DispatchEnds (storage : Storage ρ) (env : Environment σ ρ τ) (service : ControlService)
    (s : ServiceState σ ρ τ) (requested : Identifier) (expectedRevision : Nat)
    (targets : List StoredTarget)
    (o : Outcome daemon PyException (ServiceState σ ρ τ) ControlResponse) : Prop
  | before (response : ControlResponse) (result : o.result = .ok response)
    (repository : o.state.repository = s.repository)
    (stopped : ∀ normalized, ¬ Reaches env service s requested targets normalized)
  | refused (normalized : List StoredTarget)
    (reaches : Reaches env service s requested targets normalized)
    (renormalized : Renormalized targets normalized) (e : PyException)
    (reply : (storage.replace requested expectedRevision normalized s.repository).1 = .error e)
    (result : match replacementFailure e with
      | some (code, message) => ∃ requestId, o.result = .ok (.refusal requestId code message)
      | none => o.result = .error e)
    (repository : o.state.repository =
      (storage.replace requested expectedRevision normalized s.repository).2)
  | replaced (normalized : List StoredTarget)
    (reaches : Reaches env service s requested targets normalized)
    (renormalized : Renormalized targets normalized) (catalogue : TargetCatalogue)
    (reply : (storage.replace requested expectedRevision normalized s.repository).1 = .ok catalogue)
    (response : ControlResponse) (result : o.result = .ok response)
    (success : response.success = true)

variable (storage collectors) in
/-- How the `try` block ends. -/
theorem commitCatalogue_cases (contract : AdapterContract provider) (requested : Identifier)
    (expectedRevision : Nat) (targets : List StoredTarget) (s : ServiceState σ ρ τ) :
    let env := storage.environment provider collectors
    let o := (commitCatalogue requested expectedRevision targets).exec env.handler s
    (∃ normalized, ((normalizeTargets targets).exec env.handler s).result = .ok normalized ∧
      Renormalized targets normalized ∧
        o.result = (storage.replace requested expectedRevision normalized s.repository).1 ∧
          o.state.repository =
            (storage.replace requested expectedRevision normalized s.repository).2) ∨
      (∃ code message, ((normalizeTargets targets).exec env.handler s).result =
          .error (.provider code message) ∧ o.result = .error (.provider code message)) ∧
        o.state.repository = s.repository := by
  intro env o
  have hrepository := normalizeTargets_repository env targets s
  rcases normalizeTargets_cases env contract targets s with
    ⟨normalized, hresult, hrenormalized⟩ | ⟨code, message, hresult⟩
  · refine .inl ⟨normalized, hresult, hrenormalized, ?_⟩
    have ho : o = _ := Program.exec_bind_of_ok env.handler hresult
    rw [ho, ← hrepository]
    exact ⟨rfl, rfl⟩
  · refine .inr ⟨⟨code, message, hresult, ?_⟩, ?_⟩
    · have ho : o = _ := Program.exec_bind_of_error env.handler hresult
      rw [ho]
    · have ho : o = _ := Program.exec_bind_of_error env.handler hresult
      rw [ho]
      exact hrepository

variable (storage collectors service) in
/-- **How the dispatch of a replacement ends.** -/
theorem dispatch_ends (contract : AdapterContract provider) (requestId : UUID)
    (requested : Identifier) (expectedRevision : Nat)
    (targets : {targets : List StoredTarget // targets.length ≤ 100}) (s : ServiceState σ ρ τ) :
    let env := storage.environment provider collectors
    DispatchEnds storage env service s requested expectedRevision targets.val
      ((service.dispatch
        (replacementRequest requestId requested expectedRevision targets)).exec env.handler s) := by
  intro env
  cases hlocked : s.operationLocked with
  | true =>
    rw [exec_dispatch_of_locked service env rfl hlocked]
    refine .before _ rfl rfl fun normalized h => ?_
    rw [h.unlocked] at hlocked
    cases hlocked
  | false =>
    obtain ⟨before, after, h, -, -⟩ := exec_dispatch service env
      (replacementRequest requestId requested expectedRevision targets) hlocked
    rw [h]
    have hinner : service.inner env
        (replacementRequest requestId requested expectedRevision targets) s = (service.dispatchTargetCatalogReplace requestId requested expectedRevision
          targets.val).exec env.handler { s with operationLocked := true } := rfl
    rw [hinner, dispatchTargetCatalogReplace]
    split
    · rename_i hinactive
      exact .before _ rfl rfl fun normalized h => hinactive h.active
    rename_i hactive
    split
    · rename_i hselection
      refine .before _ rfl rfl fun normalized h => ?_
      simp [h.selection] at hselection
    rename_i hselection
    split
    · rename_i hempty
      refine .before _ rfl rfl fun normalized h => ?_
      rw [h.nonempty] at hempty
      cases hempty
    rename_i hnonempty
    split
    · rename_i hreserved
      refine .before _ rfl rfl fun normalized h => ?_
      rw [h.unreserved] at hreserved
      cases hreserved
    rename_i hunreserved
    have hreaches : ∀ normalized, ((normalizeTargets targets.val).exec env.handler
        { s with operationLocked := true }).result = .ok normalized →
          Reaches env service s requested targets.val normalized := fun normalized hnormalizes =>
      ⟨hlocked, not_not.mp hactive, by simpa using hselection, eq_false_of_ne_true hnonempty,
        eq_false_of_ne_true hunreserved, hnormalizes⟩
    have hcommit := commitCatalogue_cases storage collectors contract requested expectedRevision
      targets.val { s with operationLocked := true }
    dsimp only at hcommit
    simp only [Program.bind_eq]
    rw [Program.exec_bind, Program.exec_attempt]
    generalize (commitCatalogue requested expectedRevision targets.val).exec env.handler
      { s with operationLocked := true } = o at hcommit
    rcases hcommit with ⟨normalized, hnormalizes, hrenormalized, hresult, hrepository⟩ |
      ⟨⟨code, message, hnormalizes, hresult⟩, hrepository⟩
    · cases hreply : (storage.replace requested expectedRevision normalized s.repository).1 with
      | ok catalogue =>
        rw [hresult, hreply]
        exact .replaced normalized (hreaches _ hnormalizes) hrenormalized catalogue hreply _ rfl rfl
      | error e =>
        rw [hresult, hreply]
        simp only [Program.reify]
        cases hfailure : replacementFailure e with
        | none =>
          refine .refused normalized (hreaches _ hnormalizes) hrenormalized e hreply ?_ hrepository
          rw [hfailure]
        | some failure =>
          refine .refused normalized (hreaches _ hnormalizes) hrenormalized e hreply ?_ hrepository
          rw [hfailure]
          exact ⟨requestId, rfl⟩
    · rw [hresult]
      refine .before _ rfl hrepository fun normalized h => ?_
      have hnormalized := h.normalizes
      rw [hnormalizes] at hnormalized
      cases hnormalized

/-- The code that a storage answers with: a read-only one asks for its migration. -/
def Storage.refusalCode (storage : Storage ρ) (code : String) : String :=
  if storage.readOnly then "CATALOG_MIGRATION_REQUIRED" else code

/-- What a replacement request is promised: a response, with the code for a catalogue out of order
and for a stale revision, and stored catalogues that only a success changes. -/
structure ReplacementAnswered (storage : Storage ρ) (env : Environment σ ρ τ)
    (service : ControlService) (s : ServiceState σ ρ τ) (requested : Identifier)
    (expectedRevision : Nat) (targets : List StoredTarget)
    (o : Outcome daemon PyException (ServiceState σ ρ τ) ControlResponse) : Prop where
  returns : ∃ response, o.result = .ok response
  disordered : ∀ normalized, Reaches env service s requested targets normalized →
    ¬ ValidOrder targets → ∃ response, o.result = .ok response ∧
      response.errorCode = some (storage.refusalCode "INVALID_CATALOG")
  stale : ∀ normalized, Reaches env service s requested targets normalized → ValidOrder targets →
    storage.revision s.repository requested ≠ expectedRevision →
      storage.Serves requested expectedRevision normalized s.repository →
        ∃ response, o.result = .ok response ∧
          response.errorCode = some (storage.refusalCode "CATALOG_CONFLICT")
  unchanged : ∀ response, o.result = .ok response → response.success = false →
    storage.SameStored s.repository o.state.repository

theorem Storage.sameStored_refl (storage : Storage ρ) (s : ρ) : storage.SameStored s s := by
  cases storage <;> rfl

/-- Two normal forms of one request are the same. -/
theorem Reaches.unique {env : Environment σ ρ τ} {s : ServiceState σ ρ τ} {requested : Identifier}
    {targets normalized normalized' : List StoredTarget}
    (h : Reaches env service s requested targets normalized)
    (h' : Reaches env service s requested targets normalized') : normalized = normalized' :=
  Except.ok.inj (h.normalizes.symm.trans h'.normalizes)

/-- A failure of a repository that no clause names is one that escapes. -/
theorem replacementFailure_eq_none_iff {e : PyException} (h : e.provider? = none) :
    replacementFailure e = none ↔ e.repository? = none := by
  cases e with
  | provider code message => cases h
  | repository code message =>
    simp only [replacementFailure, PyException.repository?]
    split <;> simp_all
  | _ => exact ⟨fun _ => rfl, fun _ => rfl⟩

/-- **When a replacement is answered as promised.** A request that reaches a repository which can
be written has to have its catalogue in order, and the database must not disturb it by documents
that it cannot hold, a refused rollback or a revision that overflows. -/
theorem replacement_answered_iff (contract : AdapterContract provider) (requestId : UUID)
    (requested : Identifier) (expectedRevision : Nat)
    (targets : {targets : List StoredTarget // targets.length ≤ 100}) (s : ServiceState σ ρ τ) :
    let env := storage.environment provider collectors
    ReplacementAnswered storage env service s requested expectedRevision targets.val
        ((service.dispatch
          (replacementRequest requestId requested expectedRevision targets)).exec env.handler s) ↔
      ∀ normalized, Reaches env service s requested targets.val normalized →
        (storage.readOnly = true ∨ ValidOrder targets.val) ∧
          ¬ storage.Disturbed requested expectedRevision normalized s.repository := by
  intro env
  have hends := dispatch_ends storage collectors service contract requestId requested
    expectedRevision targets s
  dsimp only at hends
  generalize (service.dispatch (replacementRequest requestId requested expectedRevision
    targets)).exec env.handler s = o at hends
  cases hends with
  | before response result repository stopped =>
    refine iff_of_true ⟨⟨response, result⟩, ?_, ?_, ?_⟩ ?_
    · exact fun normalized h => absurd h (stopped normalized)
    · exact fun normalized h => absurd h (stopped normalized)
    · intro _ _ _
      rw [repository]
      exact storage.sameStored_refl _
    · exact fun normalized h => absurd h (stopped normalized)
  | refused normalized reaches renormalized e reply result repository =>
    have hescapes := storage.replace_escapes_iff requested expectedRevision normalized s.repository
    rw [reply, escapes_error_iff,
      ← replacementFailure_eq_none_iff (storage.replace_provider? _ _ _ _ reply),
      renormalized.validOrder_iff] at hescapes
    cases hfailure : replacementFailure e with
    | none =>
      rw [hfailure] at result
      refine iff_of_false ?_ ?_
      · rintro ⟨⟨response, hresponse⟩, -, -, -⟩
        rw [result] at hresponse
        cases hresponse
      · intro hcondition
        obtain ⟨horder, hundisturbed⟩ := hcondition normalized reaches
        rcases hescapes.mp hfailure with ⟨hwritable, hdisordered⟩ | hdisturbed
        · rcases horder with hread | horder
          · rw [hread] at hwritable
            cases hwritable
          · exact hdisordered horder
        · exact hundisturbed hdisturbed
    | some failure =>
      obtain ⟨code, message⟩ := failure
      rw [hfailure] at result hescapes
      obtain ⟨requestId', result⟩ := result
      have hfine := (not_or.mp fun h => by cases hescapes.mpr h)
      -- a read-only repository answers with its own code, whatever the request is
      have hread : storage.readOnly = true → code = "CATALOG_MIGRATION_REQUIRED" := by
        intro hread
        obtain ⟨message', hreply⟩ := storage.replace_readOnly requested expectedRevision normalized
          s.repository hread
        rw [hreply] at reply
        cases reply
        cases hfailure
        rfl
      refine iff_of_true ⟨⟨_, result⟩, ?_, ?_, ?_⟩ ?_
      · intro _ _ hdisordered
        cases hkind : storage.readOnly with
        | true =>
          refine ⟨_, result, ?_⟩
          simp [ControlResponse.refusal, Storage.refusalCode, hkind, hread hkind]
        | false => exact absurd ⟨hkind, hdisordered⟩ hfine.1
      · intro normalized' reaches' horder hrevision hserves
        refine ⟨_, result, ?_⟩
        cases hkind : storage.readOnly with
        | true => simp [ControlResponse.refusal, Storage.refusalCode, hkind, hread hkind]
        | false =>
          obtain rfl := reaches'.unique reaches
          have hstale := storage.replace_stale requested expectedRevision normalized' s.repository
            (renormalized.validOrder_iff.mpr horder) hrevision hserves hkind
          rw [hstale] at reply
          cases reply
          cases hfailure
          simp [ControlResponse.refusal, Storage.refusalCode, hkind]
      · intro _ _ _
        rw [repository]
        exact storage.replace_unchanged _ _ _ _ reply
      · intro normalized' reaches'
        obtain rfl := reaches'.unique reaches
        refine ⟨?_, hfine.2⟩
        cases hkind : storage.readOnly with
        | true => exact .inl rfl
        | false => exact .inr (not_not.mp fun h => hfine.1 ⟨hkind, h⟩)
  | replaced normalized reaches renormalized catalogue reply response result success =>
    have hescapes := storage.replace_escapes_iff requested expectedRevision normalized s.repository
    rw [reply, iff_false_left (not_escapes_ok _), renormalized.validOrder_iff, not_or] at hescapes
    have hwritable : storage.readOnly = false := by
      cases hkind : storage.readOnly with
      | false => rfl
      | true =>
        obtain ⟨message, hreply⟩ := storage.replace_readOnly requested expectedRevision normalized
          s.repository hkind
        rw [hreply] at reply
        cases reply
    have horder : ValidOrder targets.val := not_not.mp fun h => hescapes.1 ⟨hwritable, h⟩
    refine iff_of_true ⟨⟨_, result⟩, ?_, ?_, ?_⟩ ?_
    · exact fun _ _ hdisordered => absurd horder hdisordered
    · intro normalized' reaches' _ hrevision hserves
      obtain rfl := reaches'.unique reaches
      have hstale := storage.replace_stale requested expectedRevision normalized' s.repository
        (renormalized.validOrder_iff.mpr horder) hrevision hserves hwritable
      rw [hstale] at reply
      cases reply
    · intro response' hresponse hfailed
      rw [result] at hresponse
      cases hresponse
      rw [success] at hfailed
      cases hfailed
    · intro normalized' reaches'
      obtain rfl := reaches'.unique reaches
      exact ⟨.inr horder, hescapes.2⟩

end Dispatch

/-! ## The ideal service -/

theorem idealProvider_contract : AdapterContract idealProvider where
  raises := nofun
  bounded := by
    rintro selector v normalized hselector h
    cases h
    exact hselector

/-- A catalogue in order is answered as promised. -/
theorem replacement_answered_ideal :
    ReplacementAnswered .memory (Storage.memory.environment idealProvider idealCollectors)
      idealService (idealState ⟨.disconnected, false⟩) idealName 1 [idealTarget]
      ((idealService.dispatch (replacementRequest idealRequestId idealName 1
        ⟨[idealTarget], by decide⟩)).exec
          (Storage.memory.environment idealProvider idealCollectors).handler
            (idealState ⟨.disconnected, false⟩)) :=
  (replacement_answered_iff idealProvider_contract idealRequestId idealName 1
    ⟨[idealTarget], by decide⟩ (idealState ⟨.disconnected, false⟩)).mpr
      fun _ _ => ⟨.inr (by decide), id⟩

/-- Two targets under one alias. -/
def duplicateTargets : List StoredTarget := [idealTarget, { idealTarget with position := ⟨1, one_lt_maxTargets⟩ }]

/-- A request with two targets under one alias ends in the `ValidationError` of the catalogue. -/
theorem replacement_duplicate_alias :
    ((idealService.dispatch (replacementRequest idealRequestId idealName 1
      ⟨duplicateTargets, by decide⟩)).exec
        (Storage.memory.environment idealProvider idealCollectors).handler
          (idealState ⟨.disconnected, false⟩)).result = .error .validation := by
  rfl

end Snarkypuss
