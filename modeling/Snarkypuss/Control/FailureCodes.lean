import Snarkypuss.Calls.Paths
import Snarkypuss.Control.Connection
import Snarkypuss.Control.Degradation
import Snarkypuss.Targets.SqliteFailures

/-!
# The codes of the daemon's refusals

Every refusal carries an error code: one that the dispatch names, one that the provider or the
repository raised, or the code of an internal error. An adapter and a repository raise a few codes
each, so each operation is refused with a few codes.

## Main definitions

* `ProviderCall.codes`, `repositoryCodes`: the codes that an adapter and a repository raise
* `DaemonReply`: the replies to the calls of the service, which raise no other codes
* `Operation.refusalCodes`: the codes that an operation is refused with
* `Operation.Answers`: the responses of the daemon to an operation

## Main results

* `NordVpn.provider_codes`: the NordVPN adapter raises no other codes
* `SqliteTargetRepository.program_codes`: neither does the SQLite repository
* `Operation.Answers.refused`: the daemon refuses with no other codes
-/

namespace Snarkypuss

/-- A `ProviderError` and a `RepositoryError` have one of the codes. -/
def PyException.Within (provider repository : List String) : PyException → Prop
  | .provider code _ => code ∈ provider
  | .repository code _ => code ∈ repository
  | _ => True

theorem PyException.Within.mono {provider repository provider' repository' : List String}
    {e : PyException} (h : e.Within provider repository) (hp : provider ⊆ provider')
    (hr : repository ⊆ repository') : e.Within provider' repository' := by
  cases e with
  | provider code message => exact hp h
  | repository code message => exact hr h
  | _ => trivial

/-- A `ProviderError` with one of the codes. -/
theorem raises_provider {A : Type} {provider repository : List String} {code message : String}
    (h : code ∈ provider) : Raises (PyException.Within provider repository)
      (.error (.provider code message) : Except PyException A) := raises_error_iff.mpr h

/-! ## Programs that raise a few exceptions -/

section Raising

variable {I : Interface} {A B X : Type} {K K' : PyException → Prop}
  {rely : (c : I.Call) → Except PyException (I.Reply c) → Prop}

/-- When every reply obeys `rely`, the program raises only what obeys `K`. -/
abbrev Raising (rely : (c : I.Call) → Except PyException (I.Reply c) → Prop)
    (K : PyException → Prop) (p : Program I PyException A) : Prop :=
  p.Answered rely (Raises K)

theorem Raising.bind {p : Program I PyException A} {f : A → Program I PyException B}
    (hp : Raising rely K p) (hf : ∀ a, Raising rely K (f a)) : Raising rely K (p.bind f) :=
  Program.Answered.bind hp (fun a _ => hf a) fun _ he =>
    raises_error_iff.mpr (raises_error_iff.mp he)

theorem Raising.mono {p : Program I PyException A} (hp : Raising rely K p)
    (hK : ∀ e, K e → K' e) : Raising rely K' p :=
  Program.Answered.mono hp fun _ hr => hr.mono hK

/-- A handler clause raises on what it does not name. -/
theorem Raising.attempt {caught : PyException → Option X} {p : Program I PyException A}
    (hp : Raising rely K p) : Raising rely K (p.attempt caught) := by
  refine Program.Answered.attempt (Program.Answered.mono hp fun r hr => ?_)
  cases r with
  | ok a => exact raises_ok _
  | error e =>
    simp only [Program.reify]
    split
    · exact raises_ok _
    · exact raises_error_iff.mpr (raises_error_iff.mp hr)

end Raising

/-! ## The collaborators -/

/-- The codes of a command of the provider that fails. -/
def commandCodes : List String :=
  ["PROVIDER_UNAVAILABLE", "PROVIDER_PERMISSION_DENIED", "PROVIDER_TIMEOUT",
    "PROVIDER_OUTPUT_TOO_LARGE", "PROVIDER_COMMAND_FAILED", "PROVIDER_OUTPUT_INVALID"]

def statusCodes : List String := "UNPARSEABLE_STATUS" :: commandCodes

/-- The codes that the methods of the adapters raise, those of the base class included. -/
def ProviderCall.codes : ProviderCall → List String
  | status => statusCodes
  | settings => commandCodes
  | connectStored _ => "INVALID_TARGET" :: "UNSUPPORTED_OPERATION" :: statusCodes
  | disconnect => "UNSUPPORTED_OPERATION" :: statusCodes
  | setLeakProtection _ => "UNSUPPORTED_OPERATION" :: commandCodes
  | targetSchema => ["UNSUPPORTED_TARGET_SELECTION"]
  | targetOptions .. => "UNSUPPORTED_TARGET_DISCOVERY" :: "INVALID_TARGET_CONTEXT" :: commandCodes
  | validateSelector _ => ["INVALID_TARGET"]

/-- The codes that `replace_catalogue` raises. -/
def repositoryCodes : List String :=
  ["READ_ONLY_REPOSITORY", "INVALID_CATALOG", "CATALOG_CONFLICT", "CATALOG_STORAGE_FAILED"]

/-- The codes of the `ProviderError`s of a call: only the adapter raises some. -/
def DaemonCall.codes : DaemonCall → List String
  | .provider c => c.codes
  | _ => []

/-- A reply to a call of the service, whose adapter and repository raise no other codes. -/
abbrev DaemonReply (c : DaemonCall) (r : Except PyException c.Reply) : Prop :=
  Raises (PyException.Within c.codes repositoryCodes) r

/-! ### NordVPN -/

namespace NordVpn

variable {unicode : Python.UnicodeData} {codes : List String}

/-- A runner raises the codes of a command that fails. -/
abbrev RunnerReply (_ : List String) (r : Except PyException CommandResult) : Prop :=
  Raises (PyException.Within commandCodes []) r

/-- `run_command` is such a runner, whatever becomes of the process. -/
theorem runCommand_reply (executable : String) {outcome : ProcessOutcome}
    (h : ∀ e, outcome = .raised e → e.Within [] []) (arguments : List String) :
    RunnerReply arguments (runCommand executable outcome) := by
  cases outcome with
  | raised e => exact raises_error_iff.mpr ((h e rfl).mono (by simp) (by simp))
  | completed returncode stdout stderr =>
    simp only [RunnerReply, runCommand]
    split
    · exact raises_provider (by decide)
    · exact raises_ok _
  | fileNotFound => exact raises_provider (by decide)
  | permissionDenied => exact raises_provider (by decide)
  | timeoutExpired => exact raises_provider (by decide)

theorem raises_validated {α : Type} {p : α → Prop} [DecidablePred p] (a : α)
    {provider repository : List String} :
    Raises (PyException.Within provider repository) (validated p a) := by
  unfold validated
  split
  · exact raises_ok _
  · exact raises_error_iff.mpr trivial

theorem parseDiscoveryOptions_codes (output : String) (maxValueLength : Nat)
    (requireCodeShape : Bool) :
    Raises (PyException.Within commandCodes [])
      (parseDiscoveryOptions unicode output maxValueLength requireCodeShape) := by
  unfold parseDiscoveryOptions
  dsimp only
  split
  · exact raises_provider (by decide)
  split
  · exact raises_provider (by decide)
  refine raises_foldlM (fun options item => Raises.bind ?_ fun option => raises_ok _) _ _
  unfold parseDiscoveryOption
  split
  · exact raises_provider (by decide)
  dsimp only
  split
  · exact raises_provider (by decide)
  refine Raises.bind ?_ fun value => ?_
  · unfold normalizeDiscoveryValue
    dsimp only
    split
    · exact raises_provider (by decide)
    · exact raises_ok _
  · split
    · exact raises_provider (by decide)
    split
    · exact raises_provider (by decide)
    · exact (raises_validated _).bind fun _ => (raises_validated _).bind fun _ => raises_ok _

theorem validateSelector_codes (selector : JsonObject) :
    Raises (PyException.Within ["INVALID_TARGET"] []) (validateSelector unicode selector) := by
  unfold validateSelector
  split
  · exact raises_provider (by decide)
  dsimp only
  split
  · exact raises_provider (by decide)
  split
  · split
    · exact raises_provider (by decide)
    · exact raises_ok _
  · exact raises_ok _

theorem run_raising (arguments : List String) :
    Raising RunnerReply (PyException.Within commandCodes []) (run unicode arguments) := by
  refine Raising.bind (fun r hr => hr) fun result => ?_
  show Raises _ (checkExit unicode result)
  unfold checkExit
  split
  · exact raises_provider (by decide)
  · exact raises_ok _

theorem oversizedField_within {provider : List String} (h : commandCodes ⊆ provider) :
    oversizedField.Within provider [] :=
  h (show "PROVIDER_OUTPUT_INVALID" ∈ commandCodes by decide)

theorem unparseableStatus_within : unparseableStatus.Within statusCodes [] :=
  show "UNPARSEABLE_STATUS" ∈ statusCodes by decide

theorem status_raising :
    Raising RunnerReply (PyException.Within statusCodes []) (status unicode) := by
  have hsub : commandCodes ⊆ statusCodes := by simp [statusCodes]
  exact ((run_raising _).mono fun _ he => he.mono hsub (List.Subset.refl _)).bind fun _ =>
    raises_parseStatus (oversizedField_within hsub) unparseableStatus_within _

theorem settings_raising :
    Raising RunnerReply (PyException.Within commandCodes []) (settings unicode) :=
  (run_raising _).bind fun _ => 
    raises_parseSettings (oversizedField_within (List.Subset.refl _)) _

theorem discover_raising (kind field : String) (context : JsonObject) :
    Raising RunnerReply
      (PyException.Within (ProviderCall.targetOptions kind field context).codes [])
      (discover unicode kind field context) := by
  have hsub : commandCodes ⊆ (ProviderCall.targetOptions kind field context).codes := by
    simp [ProviderCall.codes]
  have hcontext : ∀ message, Raises
      (PyException.Within (ProviderCall.targetOptions kind field context).codes [])
      (.error (invalidContext message) : Except PyException (List TargetOption)) := fun message =>
    raises_provider (by simp [ProviderCall.codes])
  have hlist : ∀ arguments maxValueLength requireCodeShape,
      Raising RunnerReply
        (PyException.Within (ProviderCall.targetOptions kind field context).codes [])
        ((run unicode arguments).bind fun result => Program.done
          (parseDiscoveryOptions unicode result.stdout maxValueLength requireCodeShape)) :=
    fun _ _ _ => Raising.mono ((run_raising _).bind fun _ => parseDiscoveryOptions_codes _ _ _)
      fun _ he => he.mono hsub (List.Subset.refl _)
  unfold discover
  split
  · split
    · exact hcontext _
    · exact hlist _ _ _
  split
  · split
    · exact hcontext _
    dsimp only
    split
    · exact hcontext _
    · exact hlist _ _ _
  split
  · split
    · exact hcontext _
    · exact hlist _ _ _
  · exact raises_provider (by simp [ProviderCall.codes])

/-- **The adapter raises no other codes**, over every runner that raises those of `run_command`. -/
theorem provider_codes (c : ProviderCall) :
    Raising RunnerReply (PyException.Within c.codes []) (provider unicode c) := by
  have hcommand : ∀ {A : Type} {p : Nord A}, commandCodes ⊆ c.codes →
      Raising RunnerReply (PyException.Within commandCodes []) p →
        Raising RunnerReply (PyException.Within c.codes []) p := fun hsub hp =>
    hp.mono fun _ he => he.mono hsub (List.Subset.refl _)
  have hstatus : statusCodes ⊆ c.codes →
      Raising RunnerReply (PyException.Within c.codes []) (status unicode) := fun hsub =>
    status_raising.mono fun _ he => he.mono hsub (List.Subset.refl _)
  cases c with
  | status => exact status_raising
  | settings => exact settings_raising
  | connectStored target =>
    have hsub : statusCodes ⊆ (ProviderCall.connectStored target).codes := by
      simp [ProviderCall.codes]
    have hselector : Raises
        (PyException.Within (ProviderCall.connectStored target).codes [])
        (validateSelector unicode target.selector) :=
      (validateSelector_codes _).mono fun _ he =>
        he.mono (by simp [ProviderCall.codes]) (List.Subset.refl _)
    refine Raising.bind hselector fun selector => ?_
    refine Raising.bind (hcommand (List.Subset.trans (by simp [statusCodes]) hsub)
      (run_raising _)) fun _ => ?_
    exact Raising.bind (hstatus hsub) fun _ => raises_ok _
  | disconnect =>
    have hsub : statusCodes ⊆ ProviderCall.disconnect.codes := by simp [ProviderCall.codes]
    exact Raising.bind (hcommand (List.Subset.trans (by simp [statusCodes]) hsub)
      (run_raising _)) fun _ => hstatus hsub
  | setLeakProtection enabled =>
    exact hcommand (by simp [ProviderCall.codes]) (Raising.bind (run_raising _) fun _ =>
      settings_raising)
  | targetSchema => exact raises_ok _
  | targetOptions kind field context =>
    refine Raising.bind (discover_raising kind field context) fun options => ?_
    refine Raising.bind (raises_validated kind) fun kind => ?_
    refine Raising.bind (raises_validated field) fun field => ?_
    exact Raising.bind (raises_validated options) fun options => raises_ok _
  | validateSelector selector => exact validateSelector_codes _

end NordVpn

/-! ### The repositories -/

theorem raises_repository {A : Type} {provider repository : List String} {code message : String}
    (h : code ∈ repository) : Raises (PyException.Within provider repository)
      (.error (.repository code message) : Except PyException A) := raises_error_iff.mpr h

theorem TargetCatalogue.validate_codes {provider repository : List String} (name : String)
    (revision : Int) (targets : List StoredTarget) :
    Raises (PyException.Within provider repository) (validate name revision targets) := by
  unfold validate
  split
  · exact raises_ok _
  · exact raises_error_iff.mpr trivial

namespace SqliteTargetRepository

/-- A database refuses a statement with an exception of its own. -/
abbrev SqlReply (c : SqlCall) (r : Except PyException c.Reply) : Prop :=
  Raises (PyException.Within [] []) r

theorem sqlite_reply {σ : Type} (faults : Faults σ) (c : SqlCall) (s : Connection σ) :
    SqlReply c (sqlite faults c s).1 := by
  intro e he
  obtain ⟨message, rfl⟩ := sqlite_refusal c s e he
  trivial

variable {interpreter : Python.Interpreter} {lax : Json → Option JsonScalar}

theorem call_raising (c : SqlCall) :
    Raising SqlReply (PyException.Within [] repositoryCodes) (call c) :=
  fun _ hr => hr.mono fun _ he => he.mono (List.Subset.refl _) (by simp)

theorem connect_raising : Raising SqlReply (PyException.Within [] repositoryCodes) connect := by
  refine Raising.bind (call_raising _).attempt fun r => ?_
  cases r with
  | ok _ => exact raises_ok _
  | error message => exact raises_repository (by decide)

theorem readCatalogue_codes (provider : String) (revision : Int) (rows : List TargetRow) :
    Raises (PyException.Within [] repositoryCodes)
      (readCatalogue interpreter lax provider revision rows) := by
  have hread : Raises (PyException.Within [] repositoryCodes) (do
      let targets ← rows.mapM (readTarget interpreter lax)
      TargetCatalogue.validate provider revision targets) := by
    refine (raises_mapM (fun row => ?_) _).bind fun _ => TargetCatalogue.validate_codes _ _ _
    unfold readTarget
    refine Raises.bind ?_ fun document => ?_
    · unfold Python.loads
      cases Json.loads interpreter.limits row.selectorJson.toList with
      | ok value => exact raises_ok _
      | error failure =>
        refine raises_error_iff.mpr ?_
        cases failure <;> trivial
    · split
      · exact raises_error_iff.mpr trivial
      · unfold StoredTarget.validate
        split
        · exact raises_ok _
        · exact raises_error_iff.mpr trivial
  unfold readCatalogue invalidCatalogue
  split
  · exact raises_repository (by decide)
  · exact raises_repository (by decide)
  · exact hread

theorem insertTargets_raising (rows : List TargetRow) :
    Raising SqlReply (PyException.Within [] repositoryCodes) (insertTargets rows) := by
  induction rows with
  | nil => exact raises_ok _
  | cons row rows ih => exact Raising.bind (call_raising _) fun _ => ih

theorem replaceTransaction_raising (candidate : TargetCatalogue) (expectedRevision : Int)
    (encoded : List String) : Raising SqlReply (PyException.Within [] repositoryCodes)
      (replaceTransaction candidate expectedRevision encoded) := by
  have hinteger : Raises (PyException.Within [] repositoryCodes)
      (bindInteger candidate.revision) := by
    unfold bindInteger
    split
    · exact raises_ok _
    · exact raises_error_iff.mpr trivial
  simp only [replaceTransaction, Program.bind_eq]
  refine Raising.bind (call_raising _) fun _ => ?_
  refine Raising.bind (call_raising _) fun row => ?_
  split
  · exact raises_repository (by decide)
  have hrest : Raising SqlReply (PyException.Within [] repositoryCodes)
      ((insertTargets (candidate.targets.zipWith (targetRow candidate.provider) encoded)).bind
        fun _ => (call .commit).bind fun _ => Program.done (.ok candidate)) :=
    Raising.bind (insertTargets_raising _) fun _ =>
      Raising.bind (call_raising _) fun _ => raises_ok _
  -- the bound of `bindInteger` is too large to be evaluated
  generalize bindInteger candidate.revision = bound at hinteger ⊢
  cases bound with
  | error e => exact raises_error_iff.mpr (raises_error_iff.mp hinteger)
  | ok revision =>
    rw [Program.done_ok_bind]
    cases row with
    | none => exact Raising.bind (p := call _) (call_raising _) fun _ => hrest
    | some _ =>
      exact Raising.bind (p := call _) (call_raising _) fun _ =>
        Raising.bind (p := call _) (call_raising _) fun _ => hrest

/-- **The SQLite repository raises no other codes**, whichever statements are refused. -/
theorem program_codes (c : RepositoryCall) :
    Raising SqlReply (PyException.Within [] repositoryCodes) (program interpreter lax c) := by
  cases c with
  | getCatalogue provider =>
    refine Raising.bind (Raising.attempt ?_) fun r => ?_
    · refine Raising.bind connect_raising fun _ => ?_
      refine Raising.bind (call_raising _) fun row => ?_
      cases row with
      | none => exact raises_ok _
      | some revision => exact Raising.bind (call_raising _) fun _ => raises_ok _
    · rcases r with message | _ | ⟨revision, rows⟩
      · exact raises_repository (by decide)
      · exact TargetCatalogue.validate_codes _ _ _
      · exact readCatalogue_codes _ _ _
  | replaceCatalogue provider expectedRevision targets =>
    refine Raising.bind (TargetCatalogue.validate_codes _ _ _) fun candidate => ?_
    refine Raising.bind (raises_mapM (fun target => ?_) _) fun encoded => ?_
    · unfold encodeSelector Python.dumps
      split
      · exact raises_ok _
      · exact raises_error_iff.mpr trivial
    split
    · exact raises_repository (by decide)
    refine Raising.bind connect_raising fun _ => ?_
    refine Program.Answered.finally_ ?_ (call_raising _) fun e he =>
      raises_error_iff.mpr (raises_error_iff.mp he)
    -- what is rolled back is raised again: an error of the repository, or a failed storage
    have hattempt : ((replaceTransaction candidate expectedRevision encoded).attempt
        rolledBack).Answered SqlReply fun r => Raises (PyException.Within [] repositoryCodes) r ∧
          ∀ e, r = .ok (.error e) → e.Within [] repositoryCodes := by
      refine Program.Answered.attempt
        (Program.Answered.mono (replaceTransaction_raising _ _ _) fun r hr => ?_)
      cases r with
      | ok a => exact ⟨raises_ok _, fun e he => by cases he⟩
      | error e =>
        have he := raises_error_iff.mp hr
        cases e with
        | repository code message =>
          refine ⟨raises_ok _, fun e' he' => ?_⟩
          cases he'
          exact he
        | sqlite message =>
          refine ⟨raises_ok _, fun e' he' => ?_⟩
          cases he'
          show "CATALOG_STORAGE_FAILED" ∈ repositoryCodes
          decide
        | _ => exact ⟨raises_error_iff.mpr he, fun e' he' => by cases he'⟩
    refine hattempt.bind (fun r hr => ?_) fun e he =>
      raises_error_iff.mpr (raises_error_iff.mp he.1)
    cases r with
    | ok candidate => exact raises_ok _
    | error e =>
      exact Raising.bind (call_raising _) fun _ => raises_error_iff.mpr (hr.2 e rfl)

end SqliteTargetRepository

theorem memoryGet_codes (catalogues : Dict String TargetCatalogue) (name : String) :
    Raises (PyException.Within [] repositoryCodes) (memoryGet catalogues name) :=
  (TargetCatalogue.validate_codes _ _ _).bind fun _ => raises_ok _

/-- The in-memory repository raises no other codes. -/
theorem memory_codes (c : RepositoryCall) (s : Dict String TargetCatalogue) :
    Raises (PyException.Within [] repositoryCodes) (MemoryTargetRepository c s).1 := by
  cases c with
  | getCatalogue provider => exact memoryGet_codes s provider
  | replaceCatalogue provider expectedRevision targets =>
    have hreplace : Raises (PyException.Within [] repositoryCodes)
        (memoryReplace s provider expectedRevision targets) := by
      refine (TargetCatalogue.validate_codes _ _ _).bind fun candidate => ?_
      refine (memoryGet_codes s provider).bind fun current => ?_
      split
      · exact raises_repository (by decide)
      · exact raises_ok _
    cases h : memoryReplace s provider expectedRevision targets with
    | ok candidate =>
      simp only [MemoryTargetRepository, h]
      exact raises_ok _
    | error e =>
      rw [h] at hreplace
      simp only [MemoryTargetRepository, h]
      exact raises_error_iff.mpr (raises_error_iff.mp hreplace)

/-- The YAML repository raises no other codes. -/
theorem yaml_codes (c : RepositoryCall) (catalogue : TargetCatalogue) :
    Raises (PyException.Within [] repositoryCodes) (YamlTargetRepository c catalogue).1 := by
  cases c with
  | getCatalogue provider =>
    simp only [YamlTargetRepository]
    split
    · exact TargetCatalogue.validate_codes _ _ _
    · exact raises_ok _
  | replaceCatalogue provider expectedRevision targets => exact raises_repository (by decide)

/-! ## The refusals of the daemon -/

/-- The codes of a mode change that fails. -/
def modeCodes : List String :=
  "UNKNOWN_TARGET" :: "UNSUPPORTED_OPERATION" :: "UNSAFE_DISCONNECT" :: "INVALID_TARGET" ::
    "PROTECTION_NOT_ENABLED" :: "PROTECTION_NOT_DISABLED" :: "MODE_TRANSITION_FAILED" ::
      statusCodes

def schemaCodes : List String := ["UNKNOWN_PROVIDER", "UNSUPPORTED_TARGET_SELECTION"]

def optionsCodes : List String :=
  "UNKNOWN_PROVIDER" :: "UNSUPPORTED_TARGET_SELECTION" :: "UNSUPPORTED_TARGET_DISCOVERY" ::
    "UNKNOWN_TARGET_KIND" :: "UNKNOWN_TARGET_FIELD" :: "STATIC_TARGET_FIELD" ::
      "INVALID_TARGET_CONTEXT" :: "INVALID_TARGET_OPTIONS" :: commandCodes

def replacementCodes : List String :=
  ["UNKNOWN_PROVIDER", "UNSUPPORTED_TARGET_SELECTION", "INVALID_CATALOG",
    "CATALOG_MIGRATION_REQUIRED", "CATALOG_CONFLICT", "CATALOG_STORAGE_FAILED"]

/-- The codes with which the dispatch of an operation refuses it. -/
def Operation.dispatchCodes : Operation → List String
  | statusRequest => []
  | targetsRequest => []
  | targetSchemaRequest _ => schemaCodes
  | targetOptionsRequest .. => optionsCodes
  | targetCatalogGetRequest _ => ["UNKNOWN_PROVIDER"]
  | targetCatalogReplaceRequest .. => replacementCodes
  | _ => modeCodes

/-- The codes that an operation is refused with: that of an unexpected exception and, for an
operation that takes the lock, that of a lock which is held, besides those of its dispatch. -/
def Operation.refusalCodes (operation : Operation) : List String :=
  "INTERNAL_ERROR" ::
    ((if operation.mutates then ["OPERATION_IN_PROGRESS"] else []) ++ operation.dispatchCodes)

/-- A response that is a success, or refuses with one of the codes. -/
def ControlResponse.Refused (codes : List String) (response : ControlResponse) : Prop :=
  response.success = false → ∃ code ∈ codes, response.errorCode = some code

theorem ControlResponse.refused_of_success {codes : List String} {response : ControlResponse}
    (h : response.success = true) : response.Refused codes := by
  intro hfailure
  rw [h] at hfailure
  cases hfailure

theorem ControlResponse.refused_refusal {codes : List String} {requestId : UUID}
    {code message : String} (h : code ∈ codes) :
    (ControlResponse.refusal requestId code message).Refused codes :=
  fun _ => ⟨code, h, rfl⟩

theorem ControlResponse.Refused.mono {codes codes' : List String} {response : ControlResponse}
    (h : response.Refused codes) (hsub : codes ⊆ codes') : response.Refused codes' := by
  intro hfailure
  obtain ⟨code, hcode, heq⟩ := h hfailure
  exact ⟨code, hsub hcode, heq⟩

/-- What a dispatch may end with: a response that refuses with one of the codes, or an exception
that is answered with one. -/
structure Refuses (codes : List String) (r : Except PyException ControlResponse) : Prop where
  raised : Raises (PyException.Within codes repositoryCodes) r
  returned : ∀ response, r = .ok response → response.Refused codes

theorem refuses_ok {codes : List String} {response : ControlResponse}
    (h : response.Refused codes) : Refuses codes (.ok response) := by
  refine ⟨raises_ok _, fun response' heq => ?_⟩
  cases heq
  exact h

theorem refuses_error {codes : List String} {e : PyException}
    (h : e.Within codes repositoryCodes) : Refuses codes (.error e) :=
  ⟨raises_error_iff.mpr h, fun _ heq => by cases heq⟩

theorem Refuses.mono {codes codes' : List String} {r : Except PyException ControlResponse}
    (h : Refuses codes r) (hsub : codes ⊆ codes') : Refuses codes' r :=
  ⟨h.raised.mono fun _ he => he.mono hsub (List.Subset.refl _),
    fun response heq => (h.returned response heq).mono hsub⟩

/-- The answer to a dispatch refuses with its codes, or with that of an internal error. -/
theorem Refuses.answer {codes : List String} {r : Except PyException ControlResponse}
    (h : Refuses codes r) (requestId : UUID) :
    (ControlService.answer requestId r).Refused ("INTERNAL_ERROR" :: codes) := by
  cases r with
  | ok response => exact (h.returned response rfl).mono (List.subset_cons_self _ _)
  | error e =>
    have he := raises_error_iff.mp h.raised
    cases e with
    | provider code message => exact ControlResponse.refused_refusal (List.mem_cons_of_mem _ he)
    | _ => exact ControlResponse.refused_refusal List.mem_cons_self

namespace ControlService

open Daemon

variable {service : ControlService} {requestId : UUID} {codes : List String}

/-- A program of the daemon whose `ProviderError`s have one of the codes. -/
abbrev FailsWith {A : Type} (codes : List String) (p : Daemon A) : Prop :=
  Raising DaemonReply (PyException.Within codes repositoryCodes) p

theorem call_fails {c : DaemonCall} (h : c.codes ⊆ codes) : FailsWith codes (call c) :=
  fun _ hr => hr.mono fun _ he => he.mono h (List.Subset.refl _)

/-- The rule of a dispatch that goes on from what a program returned. -/
theorem FailsWith.refuses {A : Type} {p : Daemon A} {f : A → Daemon ControlResponse}
    (hp : FailsWith codes p) (hf : ∀ a, (f a).Answered DaemonReply (Refuses codes)) :
    (p.bind f).Answered DaemonReply (Refuses codes) :=
  Program.Answered.bind hp (fun a _ => hf a) fun _ he => refuses_error (raises_error_iff.mp he)

theorem dispatchTargetSchema_refuses (requested : Identifier) :
    (service.dispatchTargetSchema requestId requested).Answered DaemonReply
      (Refuses schemaCodes) := by
  unfold dispatchTargetSchema
  split
  · exact refuses_ok (ControlResponse.refused_refusal (by decide))
  split
  · exact refuses_ok (ControlResponse.refused_refusal (by decide))
  · exact FailsWith.refuses (call_fails (by decide)) fun _ =>
      refuses_ok (ControlResponse.refused_of_success rfl)

theorem discoverableField_refused {schema : ProviderTargetSchema} {kind : Identifier}
    {field : FieldName} {context : JsonObject} {refusal : ControlResponse}
    (h : discoverableField requestId schema kind field context = .error refusal) :
    refusal.Refused optionsCodes := by
  unfold discoverableField at h
  split at h
  · cases h
    exact ControlResponse.refused_refusal (by decide)
  split at h
  · cases h
    exact ControlResponse.refused_refusal (by decide)
  split at h
  · cases h
    exact ControlResponse.refused_refusal (by decide)
  split at h
  · cases h
    exact ControlResponse.refused_refusal (by decide)
  · cases h

theorem dispatchTargetOptions_refuses (requested kind : Identifier) (field : FieldName)
    (context : JsonObject) :
    (service.dispatchTargetOptions requestId requested kind field context).Answered DaemonReply
      (Refuses optionsCodes) := by
  unfold dispatchTargetOptions
  split
  · exact refuses_ok (ControlResponse.refused_refusal (by decide))
  split
  · exact refuses_ok (ControlResponse.refused_refusal (by decide))
  refine FailsWith.refuses (call_fails (by decide)) fun schema => ?_
  split
  · exact refuses_ok (discoverableField_refused ‹_›)
  have hcodes : (ProviderCall.targetOptions kind field context).codes ⊆ optionsCodes := by
    simp only [ProviderCall.codes]
    decide
  refine FailsWith.refuses (p := provider _) (call_fails hcodes) fun options => ?_
  split
  · exact refuses_error (show "INVALID_TARGET_OPTIONS" ∈ optionsCodes by decide)
  · exact refuses_ok (ControlResponse.refused_of_success rfl)

theorem dispatchTargetCatalogGet_refuses (requested : Identifier) :
    (service.dispatchTargetCatalogGet requestId requested).Answered DaemonReply
      (Refuses ["UNKNOWN_PROVIDER"]) := by
  unfold dispatchTargetCatalogGet
  split
  · exact refuses_ok (ControlResponse.refused_refusal (by decide))
  · exact FailsWith.refuses (call_fails (by decide)) fun _ =>
      refuses_ok (ControlResponse.refused_of_success rfl)

theorem normalizeTargets_fails (targets : List StoredTarget) :
    FailsWith ["INVALID_TARGET"] (normalizeTargets targets) := by
  induction targets with
  | nil => exact raises_ok _
  | cons target targets ih =>
    refine Raising.bind (p := provider _) (call_fails (List.Subset.refl _)) fun selector => ?_
    refine Raising.bind (p := ofExcept _) ?_ fun first => Raising.bind ih fun rest => raises_ok _
    show Raises _ (withSelector target selector)
    unfold withSelector
    split
    · exact raises_ok _
    · exact raises_error_iff.mpr trivial

/-- The exceptions of a replacement that are not turned into refusals are internal errors. -/
theorem commitCatalogue_attempted (requested : Identifier) (expectedRevision : Nat)
    (targets : List StoredTarget) :
    ((commitCatalogue requested expectedRevision targets).attempt replacementFailure).Answered
      DaemonReply fun r => Raises (PyException.Within replacementCodes repositoryCodes) r ∧
        ∀ code message, r = .ok (.error (code, message)) → code ∈ replacementCodes := by
  have hcommit : FailsWith ["INVALID_TARGET"]
      (commitCatalogue requested expectedRevision targets) :=
    Raising.bind (normalizeTargets_fails targets) fun _ => call_fails (by simp [DaemonCall.codes])
  refine Program.Answered.attempt (Program.Answered.mono hcommit fun r hr => ?_)
  cases r with
  | ok catalogue => exact ⟨raises_ok _, fun code message heq => by cases heq⟩
  | error e =>
    have he := raises_error_iff.mp hr
    cases e with
    | provider code message =>
      refine ⟨raises_ok _, fun code' message' heq => ?_⟩
      cases heq
      decide
    | repository code message =>
      have hcode : code ∈ repositoryCodes := he
      simp only [repositoryCodes, List.mem_cons, List.not_mem_nil, or_false] at hcode
      rcases hcode with rfl | rfl | rfl | rfl
      all_goals
        refine ⟨raises_ok _, fun code' message' heq => ?_⟩
        cases heq
        decide
    | _ =>
      exact ⟨raises_error_iff.mpr trivial, fun code' message' heq => by cases heq⟩

theorem dispatchTargetCatalogReplace_refuses (requested : Identifier) (expectedRevision : Nat)
    (targets : List StoredTarget) :
    (service.dispatchTargetCatalogReplace requestId requested expectedRevision targets).Answered
      DaemonReply (Refuses replacementCodes) := by
  unfold dispatchTargetCatalogReplace
  split
  · exact refuses_ok (ControlResponse.refused_refusal (by decide))
  split
  · exact refuses_ok (ControlResponse.refused_refusal (by decide))
  split
  · exact refuses_ok (ControlResponse.refused_refusal (by decide))
  split
  · exact refuses_ok (ControlResponse.refused_refusal (by decide))
  refine Program.Answered.bind (commitCatalogue_attempted requested expectedRevision targets)
    (fun outcome houtcome => ?_) fun e he => refuses_error (raises_error_iff.mp he.1)
  rcases outcome with ⟨code, message⟩ | catalogue
  · exact refuses_ok (ControlResponse.refused_refusal (houtcome.2 code message rfl))
  · refine FailsWith.refuses (call_fails (List.nil_subset _)) fun _ => ?_
    refine FailsWith.refuses (call_fails (List.nil_subset _)) fun _ => ?_
    exact refuses_ok (ControlResponse.refused_of_success rfl)

theorem dispatchTargets_refuses :
    (service.dispatchTargets requestId).Answered DaemonReply (Refuses []) :=
  FailsWith.refuses (call_fails (by decide)) fun _ =>
    refuses_ok (ControlResponse.refused_of_success rfl)

/-! ### Status -/

/-- A clause for `ProviderError` leaves none to be raised. -/
theorem attempt_provider_fails {A : Type} {p : Daemon A} (hp : FailsWith codes p) :
    FailsWith [] (p.attempt PyException.provider?) := by
  refine Program.Answered.attempt (Program.Answered.mono hp fun r hr => ?_)
  cases r with
  | ok a => exact raises_ok _
  | error e =>
    cases e with
    | provider code message => exact raises_ok _
    | repository code message => exact raises_repository (raises_error_iff.mp hr)
    | _ => exact raises_error_iff.mpr trivial

theorem observe_fails {A : Type} {component : Identifier}
    {caught : PyException → Option (String × String)} {p : Daemon A}
    (hp : FailsWith [] (p.attempt caught)) : FailsWith [] (observe component caught p) := by
  refine Raising.bind hp fun r => ?_
  rcases r with ⟨code, message⟩ | a
  · refine Raising.bind (p := ofExcept _) ?_ fun _ => raises_ok _
    show Raises _ (ComponentFailure.validate component code message)
    unfold ComponentFailure.validate
    split
    · exact raises_ok _
    · exact raises_error_iff.mpr trivial
  · exact raises_ok _

theorem attributeTarget_fails (status : VpnStatus) : FailsWith [] (attributeTarget status) := by
  refine Raising.bind (p := call _) (call_fails (List.Subset.refl _)) fun remembered => ?_
  split
  · exact Raising.bind (p := call _) (call_fails (List.Subset.refl _)) fun _ => raises_ok _
  split
  · exact Raising.bind (p := call _) (call_fails (List.Subset.refl _)) fun _ => raises_ok _
  · exact raises_ok _

theorem observeVpn_fails : FailsWith [] observeVpn := by
  refine Raising.bind (observe_fails (attempt_provider_fails (call_fails (List.Subset.refl _))))
    fun reading => ?_
  obtain ⟨status, failures⟩ := reading
  cases status with
  | none => exact raises_ok _
  | some status =>
    refine Raising.bind (attributeTarget_fails status) fun status => ?_
    exact Raising.bind (observe_fails (attempt_provider_fails (call_fails (List.Subset.refl _))))
      fun _ => raises_ok _

theorem observePublicIp_fails (status : Option VpnStatus) :
    FailsWith [] (service.observePublicIp status) := by
  have hread : FailsWith [] (observe publicIpComponent PyException.statusCollection?
      (collector (.publicIp service.publicIpUrl service.publicIpTimeoutSeconds))) :=
    observe_fails (Raising.attempt (call_fails (List.Subset.refl _)))
  unfold observePublicIp
  split
  · exact hread
  · exact hread
  · exact raises_ok _

/-- A status is never refused for the sake of the provider. -/
theorem dispatchStatus_refuses :
    (service.dispatchStatus requestId).Answered DaemonReply (Refuses []) := by
  refine FailsWith.refuses observeVpn_fails fun vpn => ?_
  refine FailsWith.refuses (observePublicIp_fails vpn.1) fun publicIp => ?_
  refine FailsWith.refuses (p := collector _) (call_fails (List.Subset.refl _)) fun reading => ?_
  refine FailsWith.refuses (p := collector _) (call_fails (List.Subset.refl _)) fun checkedAt => ?_
  exact refuses_ok (ControlResponse.refused_of_success rfl)

/-! ### Mode changes -/

theorem statusCodes_subset : statusCodes ⊆ modeCodes := by decide

theorem provider_fails {c : ProviderCall} (h : c.codes ⊆ modeCodes) :
    FailsWith modeCodes (provider c) := call_fails h

theorem local_fails {c : DaemonCall} (h : c.codes = []) : FailsWith modeCodes (call c) :=
  call_fails (h ▸ List.nil_subset _)

theorem raises_mode {A : Type} {code message : String} (h : code ∈ modeCodes) :
    FailsWith modeCodes (providerError code message : Daemon A) := raises_provider h

theorem requireProtectionConfiguration_fails :
    FailsWith modeCodes service.requireProtectionConfiguration := by
  unfold requireProtectionConfiguration
  split
  · exact raises_ok _
  · exact raises_mode (by decide)

theorem enableProtection_fails : FailsWith modeCodes enableProtection := by
  refine Raising.bind (provider_fails (by decide)) fun settings => ?_
  split
  · exact raises_mode (by decide)
  · exact raises_ok _

theorem connectTarget_fails (target : StoredTarget) :
    FailsWith modeCodes (connectTarget target) := by
  refine Raising.bind (provider_fails ?_) fun status => ?_
  · simp only [ProviderCall.codes]
    decide
  · exact Raising.bind (local_fails rfl) fun _ => raises_ok _

theorem disconnectTarget_fails : FailsWith modeCodes disconnectTarget :=
  Raising.bind (provider_fails (by decide)) fun _ =>
    Raising.bind (local_fails rfl) fun _ => raises_ok _

theorem requireGatewayMode_fails (mode : GatewayMode) (message : String) (status : VpnStatus) :
    FailsWith modeCodes (requireGatewayMode mode message status) := by
  refine Raising.bind (provider_fails (by decide)) fun settings => ?_
  dsimp only
  split
  · exact raises_mode (by decide)
  · exact raises_ok _

theorem resolveTarget_fails (alias_ : String) :
    FailsWith modeCodes (service.resolveTarget alias_) := by
  unfold resolveTarget
  split
  · exact raises_ok _
  · exact Raising.bind (local_fails rfl) fun _ => raises_ok _

theorem directTransition_fails : FailsWith modeCodes directTransition := by
  refine Raising.bind (provider_fails (by decide)) fun settings => ?_
  split
  · exact raises_mode (by decide)
  · exact Raising.bind disconnectTarget_fails fun _ => requireGatewayMode_fails _ _ _

theorem dispatchProtected_refuses (alias_ : Identifier) :
    (service.dispatchProtected requestId alias_).Answered DaemonReply (Refuses modeCodes) := by
  refine FailsWith.refuses (resolveTarget_fails alias_) fun target => ?_
  cases target with
  | none => exact refuses_ok (ControlResponse.refused_refusal (by decide))
  | some target =>
    refine FailsWith.refuses requireProtectionConfiguration_fails fun _ => ?_
    refine FailsWith.refuses enableProtection_fails fun _ => ?_
    refine FailsWith.refuses (connectTarget_fails target) fun status => ?_
    refine FailsWith.refuses (requireGatewayMode_fails _ _ status) fun status => ?_
    exact refuses_ok (ControlResponse.refused_of_success rfl)

theorem dispatchConnect_refuses (alias_ : Identifier) :
    (service.dispatchConnect requestId alias_).Answered DaemonReply (Refuses modeCodes) := by
  refine FailsWith.refuses (resolveTarget_fails alias_) fun target => ?_
  cases target with
  | none => exact refuses_ok (ControlResponse.refused_refusal (by decide))
  | some target =>
    refine FailsWith.refuses (connectTarget_fails target) fun status => ?_
    refine FailsWith.refuses (Raising.attempt (provider_fails (by decide))) fun settings => ?_
    exact refuses_ok (ControlResponse.refused_of_success rfl)

theorem dispatchDisconnect_refuses :
    (dispatchDisconnect requestId).Answered DaemonReply (Refuses modeCodes) := by
  refine FailsWith.refuses (provider_fails (by decide)) fun settings => ?_
  split
  · exact refuses_ok (ControlResponse.refused_refusal (by decide))
  · exact FailsWith.refuses disconnectTarget_fails fun _ =>
      refuses_ok (ControlResponse.refused_of_success rfl)

theorem dispatchLock_refuses :
    (service.dispatchLock requestId).Answered DaemonReply (Refuses modeCodes) := by
  refine FailsWith.refuses requireProtectionConfiguration_fails fun _ => ?_
  refine FailsWith.refuses enableProtection_fails fun _ => ?_
  refine FailsWith.refuses disconnectTarget_fails fun status => ?_
  refine FailsWith.refuses (requireGatewayMode_fails _ _ status) fun status => ?_
  exact refuses_ok (ControlResponse.refused_of_success rfl)

/-- The failure of a Direct transition is raised again after the protection is restored. -/
theorem dispatchDirect_refuses :
    (service.dispatchDirect requestId).Answered DaemonReply (Refuses modeCodes) := by
  have hattempt : (directTransition.attempt PyException.provider?).Answered DaemonReply
      fun r => Raises (PyException.Within modeCodes repositoryCodes) r ∧
        ∀ code message, r = .ok (.error (code, message)) → code ∈ modeCodes := by
    refine Program.Answered.attempt (Program.Answered.mono directTransition_fails fun r hr => ?_)
    cases r with
    | ok status => exact ⟨raises_ok _, fun code message heq => by cases heq⟩
    | error e =>
      have he := raises_error_iff.mp hr
      cases e with
      | provider code message =>
        refine ⟨raises_ok _, fun code' message' heq => ?_⟩
        cases heq
        exact he
      | _ => exact ⟨raises_error_iff.mpr he, fun code' message' heq => by cases heq⟩
  refine FailsWith.refuses requireProtectionConfiguration_fails fun _ => ?_
  refine hattempt.bind (fun outcome houtcome => ?_) fun e he =>
    refuses_error (raises_error_iff.mp he.1)
  rcases outcome with ⟨code, message⟩ | status
  · refine FailsWith.refuses (Raising.bind (Raising.attempt (provider_fails (by decide)))
      fun _ => raises_ok _) fun _ => ?_
    exact refuses_error (houtcome.2 code message rfl)
  · exact refuses_ok (ControlResponse.refused_of_success rfl)

/-! ### Dispatch -/

theorem dispatchUnlocked_refuses (request : ControlRequest) :
    (service.dispatchUnlocked request).Answered DaemonReply
      (Refuses request.operation.dispatchCodes) := by
  obtain ⟨requestId, operation⟩ := request
  cases operation with
  | statusRequest => exact dispatchStatus_refuses
  | targetsRequest => exact dispatchTargets_refuses
  | lockRequest => exact dispatchLock_refuses
  | protectedRequest target => exact dispatchProtected_refuses target
  | connectRequest target => exact dispatchConnect_refuses target
  | disconnectRequest => exact dispatchDisconnect_refuses
  | directRequest => exact dispatchDirect_refuses
  | targetSchemaRequest provider => exact dispatchTargetSchema_refuses provider
  | targetOptionsRequest provider kind field context =>
    exact dispatchTargetOptions_refuses provider kind field context.val
  | targetCatalogGetRequest provider => exact dispatchTargetCatalogGet_refuses provider
  | targetCatalogReplaceRequest provider expectedRevision targets =>
    exact dispatchTargetCatalogReplace_refuses provider expectedRevision targets.val

/-- **The codes of a dispatch**, the refusal of a lock that is held included. -/
theorem dispatch_refuses (request : ControlRequest) :
    (service.dispatch request).Answered DaemonReply
      (Refuses ((if request.operation.mutates then ["OPERATION_IN_PROGRESS"] else []) ++
        request.operation.dispatchCodes)) := by
  unfold dispatch
  cases hmutates : request.operation.mutates with
  | false => exact dispatchUnlocked_refuses request
  | true =>
    rw [if_pos rfl, List.singleton_append]
    refine FailsWith.refuses (call_fails (List.nil_subset _)) fun acquired => ?_
    split
    · exact refuses_ok (ControlResponse.refused_refusal List.mem_cons_self)
    · refine Program.Answered.mono (Q := Refuses request.operation.dispatchCodes) ?_
        fun r hr => hr.mono (List.subset_cons_self _ _)
      refine (dispatchUnlocked_refuses request).finally_ (R := Raises
        (PyException.Within request.operation.dispatchCodes repositoryCodes)) ?_ ?_
      · exact call_fails (List.nil_subset _)
      · exact fun e he => refuses_error (raises_error_iff.mp he)

end ControlService

/-- The responses of the daemon to an operation: the replies to the calls of its dispatch may come
from any states, as those of concurrent requests do. -/
structure Operation.Answers (operation : Operation) (service : ControlService)
    (response : ControlResponse) : Prop where
  answered : ∃ requestId xs r,
    Program.Path (service.dispatch ⟨requestId, operation⟩) xs (.done r) ∧
      (∀ x ∈ xs, DaemonReply x.1 x.2) ∧ response = ControlService.answer requestId r

/-- **The daemon refuses an operation with one of its codes.** -/
theorem Operation.Answers.refused {operation : Operation} {service : ControlService}
    {response : ControlResponse} (h : operation.Answers service response) :
    response.Refused operation.refusalCodes := by
  obtain ⟨requestId, xs, r, hpath, hreplies, rfl⟩ := h.answered
  exact ((ControlService.dispatch_refuses ⟨requestId, operation⟩).path hpath hreplies).answer
    requestId

end Snarkypuss
