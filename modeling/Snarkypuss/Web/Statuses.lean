import Snarkypuss.Control.FailureCodes
import Snarkypuss.Web.Guard

/-!
# One failure, one status

A failure of the control daemon reaches the web application as a refusal with a code, or as a
`ControlClientError` of the client. Four sites turn it into an HTTP status. They agree on every
failure but three, and all have the documented status for it.

## Main definitions

* `ControlFailure`: the failures, by their codes
* `ControlFailure.documentedStatus`: the status that is documented for a failure
* `WebReply`: the replies to the calls of the handlers, with the daemon behind them
* `Documented`: every endpoint that is told of a failure answers with its status

## Main results

* `documented_iff`: the failures that every endpoint answers alike
-/

namespace Snarkypuss

open Web

/-- A failure that the web application is told of: a response without success, or an exception of
the client. -/
inductive ControlFailure
  | response (code : String)
  | client (code : String)
  deriving DecidableEq

namespace ControlFailure

def code : ControlFailure → String
  | response code => code
  | client code => code

/-- The documented statuses of the codes of a response. Targets are unknown with their kinds and
their fields, and a catalogue that has to be migrated conflicts with any other. -/
def documentedStatuses : List (String × Nat) :=
  [("OPERATION_IN_PROGRESS", 409), ("UNSUPPORTED_OPERATION", 409),
    ("UNSUPPORTED_TARGET_SELECTION", 409), ("UNSUPPORTED_TARGET_DISCOVERY", 409),
    ("STATIC_TARGET_FIELD", 409), ("CATALOG_CONFLICT", 409), ("CATALOG_MIGRATION_REQUIRED", 409),
    ("UNKNOWN_TARGET", 404), ("UNKNOWN_PROVIDER", 404), ("UNKNOWN_TARGET_KIND", 404),
    ("UNKNOWN_TARGET_FIELD", 404), ("INVALID_CATALOG", 400), ("INVALID_TARGET_CONTEXT", 400),
    ("PROVIDER_TIMEOUT", 504)]

/-- The status that is documented for a failure. -/
def documentedStatus : ControlFailure → Nat
  | response code => (documentedStatuses.lookup code).getD 502
  | client code => if code = "DAEMON_TIMEOUT" then 504 else 502

/-- The failures that some site gives another status. -/
def misplaced : List ControlFailure :=
  [client "DAEMON_TIMEOUT", response "OPERATION_IN_PROGRESS", response "UNSUPPORTED_OPERATION"]

end ControlFailure

/-- The codes of a `ControlClientError`. -/
def clientCodes : List String :=
  ["DAEMON_UNAVAILABLE", "ACCESS_DENIED", "DAEMON_TIMEOUT", "INVALID_RESPONSE", "SOCKET_ERROR",
    "MISMATCHED_RESPONSE"]

/-- A reply to a call of a handler: an exchange returns what the daemon answers, or raises an
exception of the client. -/
def WebReply (service : ControlService) : (c : WebCall) → Except WebException c.Reply → Prop
  | .control _ operation, r =>
    (∀ response, r = .ok response → operation.Answers service response) ∧
      ∀ code message, r = .error (.controlClient code message) → code ∈ clientCodes
  | _, _ => True

/-- The failure that a reply tells of. -/
def ControlFailure.ofReply : Replied web WebException → Option ControlFailure
  | ⟨.control .., .ok answer⟩ =>
    if answer.success then none else some (.response (answer.errorCode.getD "CONTROL_ERROR"))
  | ⟨.control .., .error (.controlClient code _)⟩ => some (.client code)
  | _ => none

/-- The handler of `endpoint` can be told of the failure, and then answers with `status`. -/
def Tells (service : ControlService) (application : Application) (request : HttpRequest)
    (endpoint : Endpoint) (failure : ControlFailure) (status : Nat) : Prop :=
  ∃ xs message, Program.Path (application.handle request endpoint) xs
      (.done (.error (.api status failure.code message false))) ∧
    (∀ x ∈ xs, WebReply service x.1 x.2) ∧ ∃ x ∈ xs, ControlFailure.ofReply x = some failure

/-- Every endpoint that is told of a failure answers with the status documented for it. -/
def Documented (failure : ControlFailure) : Prop :=
  ∀ (service : ControlService) (application : Application) (request : HttpRequest)
    (endpoint : Endpoint) (xs : List (Replied web WebException))
    (r : Except WebException WebResponse),
    Program.Path (application.handle request endpoint) xs (.done r) →
      (∀ x ∈ xs, WebReply service x.1 x.2) → (∃ x ∈ xs, ControlFailure.ofReply x = some failure) →
        ∃ message, r = .error (.api failure.documentedStatus failure.code message false)

/-! ## The tables -/

/-- The statuses that a site gives to the codes are the documented ones, but for the misplaced
failures. -/
abbrev Agrees (statusOf : String → Nat) (codes : List String) : Prop :=
  ∀ code ∈ codes, .response code ∉ ControlFailure.misplaced →
    statusOf code = ControlFailure.documentedStatus (.response code)

theorem operationStatus_agrees :
    Agrees operationStatus ("INTERNAL_ERROR" :: "OPERATION_IN_PROGRESS" :: modeCodes) := by decide

theorem targetStatus_agrees_schema : Agrees targetStatus ("INTERNAL_ERROR" :: schemaCodes) := by
  decide

theorem targetStatus_agrees_options : Agrees targetStatus ("INTERNAL_ERROR" :: optionsCodes) := by
  decide

theorem targetStatus_agrees_replacement :
    Agrees targetStatus ("INTERNAL_ERROR" :: "OPERATION_IN_PROGRESS" :: replacementCodes) := by
  decide

theorem targetStatus_agrees_catalogue :
    Agrees targetStatus ["INTERNAL_ERROR", "UNKNOWN_PROVIDER"] := by decide

/-! ## The sites -/

section Sites

variable {service : ControlService} {runtime : WebRuntime} {operation : Operation}
  {request : HttpRequest} {A B : Type}

/-- A program that is told of a failure ends with the status documented for it, unless it is one of
the three. -/
def Renders (service : ControlService) (p : Web A) : Prop :=
  ∀ xs r, Program.Path p xs (.done r) → (∀ x ∈ xs, WebReply service x.1 x.2) →
    ∀ x ∈ xs, ∀ failure, ControlFailure.ofReply x = some failure →
      failure ∉ ControlFailure.misplaced →
        ∃ message, r = .error (.api failure.documentedStatus failure.code message false)

theorem renders_local {p : Web A} (hp : p.Uses WebCall.Local) : Renders service p := by
  intro xs r hpath _ x hx failure hfailure
  have hlocal := hp.path hpath x hx
  obtain ⟨c, reply⟩ := x
  cases c with
  | control runtime operation => exact hlocal.elim
  | _ => cases hfailure

theorem Renders.bind {p : Web A} {f : A → Web B} (hp : Renders service p)
    (hf : ∀ a, Renders service (f a)) : Renders service (p.bind f) := by
  intro xs r hpath hreplies x hx failure hfailure hplaced
  rcases hpath.bind_cases with ⟨e, hraises, rfl⟩ | ⟨ys, zs, a, rfl, hys, hzs⟩
  · obtain ⟨message, he⟩ := hp _ _ hraises hreplies x hx failure hfailure hplaced
    cases he
    exact ⟨message, rfl⟩
  · rcases List.mem_append.mp hx with hx | hx
    · -- the first program was told of it and returned, which it does not
      obtain ⟨message, hr⟩ := hp _ _ hys (fun y hy => hreplies y (List.mem_append_left _ hy)) x hx
        failure hfailure hplaced
      cases hr
    · exact hf a _ _ hzs (fun y hy => hreplies y (List.mem_append_right _ hy)) x hx failure
        hfailure hplaced

/-- An exchange whose failures are given statuses: those of the client by `statusOf`, and those of
a refusal by `responseStatus`. -/
theorem renders_exchange {statusOf : String → Nat} (responseStatus : String → Nat)
    {k : ControlResponse → Web A}
    (hclient : ∀ code, code ≠ "DAEMON_TIMEOUT" → statusOf code = 502)
    (hrefused : Agrees responseStatus operation.refusalCodes)
    (hfails : ∀ response, response.success = false → ∃ message, k response =
      apiError (responseStatus (response.errorCode.getD "CONTROL_ERROR"))
        (response.errorCode.getD "CONTROL_ERROR") message)
    (hk : ∀ response, Renders service (k response)) :
    Renders service ((exchange statusOf runtime operation).bind k) := by
  intro xs r hpath hreplies x hx failure hfailure hplaced
  cases hpath with
  | @ask _ _ reply ys _ rest =>
    have hreply := hreplies _ List.mem_cons_self
    have hrest : ∀ y ∈ ys, WebReply service y.1 y.2 := fun y hy =>
      hreplies y (List.mem_cons_of_mem _ hy)
    cases reply with
    | ok response =>
      have hkrest : Program.Path (k response) ys (.done r) := rest
      rcases List.mem_cons.mp hx with rfl | hx
      · simp only [ControlFailure.ofReply] at hfailure
        cases hsuccess : response.success with
        | true => simp [hsuccess] at hfailure
        | false =>
          simp only [hsuccess, Bool.false_eq_true, if_false, Option.some.injEq] at hfailure
          subst hfailure
          obtain ⟨code, hcode, herror⟩ := (hreply.1 response rfl).refused hsuccess
          obtain ⟨message, hmessage⟩ := hfails response hsuccess
          rw [hmessage] at hkrest
          obtain ⟨-, hr⟩ := hkrest.of_done
          rw [herror] at hr hplaced ⊢
          refine ⟨message, (Program.done.inj hr).trans ?_⟩
          rw [Option.getD_some, hrefused code hcode hplaced]
          rfl
      · exact hk response _ _ hkrest hrest x hx failure hfailure hplaced
    | error e =>
      cases e with
      | controlClient code message =>
        obtain ⟨rfl, hr⟩ := rest.of_done
        rcases List.mem_cons.mp hx with rfl | hx
        · obtain rfl := Option.some.inj hfailure
          have htimeout : code ≠ "DAEMON_TIMEOUT" := fun h =>
            hplaced (by simp [h, ControlFailure.misplaced])
          refine ⟨message, (Program.done.inj hr).trans ?_⟩
          rw [hclient code htimeout]
          simp only [ControlFailure.documentedStatus, if_neg htimeout]
          rfl
        · cases hx
      | _ =>
        obtain ⟨rfl, hr⟩ := rest.of_done
        rcases List.mem_cons.mp hx with rfl | hx
        · cases hfailure
        · cases hx

/-- The statuses of `_target_control` are the documented ones for what it asks. -/
theorem renders_targetControl
    (h : Agrees targetStatus operation.refusalCodes) :
    Renders service (targetControl runtime operation) := by
  refine renders_exchange targetStatus (fun code hcode => if_neg hcode) h
    (fun response hfailure => ⟨response.message, ?_⟩) fun response => renders_local ?_
  · simp [hfailure]
  · dsimp only
    split <;> trivial

/-- The statuses of `_vpn_operation` are the documented ones for a mode change. -/
theorem renders_vpnOperation
    (h : Agrees operationStatus operation.refusalCodes) :
    Renders service (vpnOperation runtime operation) := by
  refine renders_exchange operationStatus (fun code hcode => if_neg hcode) h
    (fun response hfailure => ⟨response.message, ?_⟩) fun response => renders_local ?_
  · simp [hfailure]
  · dsimp only
    split
    · trivial
    · exact (uses_require _ _ _).bind fun _ => trivial

theorem renders_controlStatus : Renders service (controlStatus runtime) := by
  refine renders_exchange (fun _ => 502) (fun _ _ => rfl) (by decide)
    (fun response hfailure => ⟨response.message, ?_⟩) fun response => renders_local ?_
  · simp [hfailure]
  · split <;> trivial

theorem renders_activeProvider : Renders service (activeProvider runtime) :=
  (renders_targetControl (by decide)).bind fun _ =>
    renders_local ((uses_require _ _ _).bind fun _ => trivial)

/-! ## The handlers -/

theorem renders_handler {f : WebRuntime → Web A} (hf : ∀ runtime, Renders service (f runtime)) :
    Renders service ((Application.authenticated request).bind f) :=
  (renders_local (uses_authenticated request)).bind hf

theorem renders_requireSameOrigin : Renders service (requireSameOrigin request) := by
  obtain ⟨result, hresult⟩ := requireSameOrigin_done request
  rw [hresult]
  exact renders_local trivial

theorem renders_require {part : Option A} {message : String} {f : A → Web B}
    (hf : ∀ a, (f a).Uses WebCall.Local) : Renders service ((require part message).bind f) :=
  renders_local ((uses_require _ _ _).bind hf)

/-- The handlers of the mode changes. -/
theorem renders_changeMode
    (h : Agrees operationStatus operation.refusalCodes) :
    Renders service (Application.changeMode request operation) :=
  renders_handler fun _ => renders_requireSameOrigin.bind fun _ =>
    (renders_vpnOperation h).bind fun _ => renders_local trivial

theorem renders_adminTargetOptions (kind : Identifier) (field : FieldName) :
    Renders service (Application.adminTargetOptions request kind field) := by
  refine renders_handler fun runtime => renders_activeProvider.bind fun provider => ?_
  dsimp only
  split
  · refine Renders.bind (renders_targetControl ?_) fun _ => renders_require fun _ => trivial
    exact targetStatus_agrees_options
  · exact renders_local trivial

/-- **Every endpoint renders what it is told of.** -/
theorem renders_handle (application : Application) (endpoint : Endpoint) :
    Renders service (application.handle request endpoint) := by
  cases endpoint with
  | liveness => exact renders_local trivial
  | dashboard => exact renders_handler fun _ => renders_local trivial
  | status =>
    exact renders_handler fun _ => renders_controlStatus.bind fun _ =>
      renders_require fun _ => trivial
  | gatewayStatus =>
    exact renders_handler fun _ => renders_controlStatus.bind fun _ =>
      renders_require fun _ => trivial
  | vpnTargets =>
    refine renders_handler fun runtime => ?_
    refine renders_exchange (fun _ => 502) (fun _ _ => rfl) (by decide)
      (fun response hfailure => ⟨response.message, ?_⟩) fun response => ?_
    · simp [hfailure]
    · split
      · exact renders_local trivial
      · exact renders_require fun _ => trivial
  | adminTargetSchema =>
    refine renders_handler fun _ => renders_activeProvider.bind fun provider => ?_
    refine Renders.bind (renders_targetControl ?_) fun _ => renders_require fun _ => trivial
    exact targetStatus_agrees_schema
  | adminTargetOptions =>
    simp only [Application.handle]
    split
    · split
      · exact renders_adminTargetOptions _ _
      · exact renders_local trivial
    · exact renders_local trivial
  | adminTargets =>
    refine renders_handler fun _ => renders_activeProvider.bind fun provider => ?_
    refine Renders.bind (renders_targetControl ?_) fun _ => renders_require fun _ => trivial
    exact targetStatus_agrees_catalogue
  | replaceAdminTargets =>
    simp only [Application.handle]
    split
    · refine renders_handler fun _ => renders_requireSameOrigin.bind fun _ => ?_
      refine Renders.bind (renders_targetControl ?_) fun _ => renders_require fun _ => trivial
      exact targetStatus_agrees_replacement
    · exact renders_local trivial
  | vpnConnect =>
    simp only [Application.handle]
    split
    · exact renders_changeMode operationStatus_agrees
    · exact renders_local trivial
  | protectedMode =>
    simp only [Application.handle]
    split
    · exact renders_changeMode operationStatus_agrees
    · exact renders_local trivial
  | lockedMode => exact renders_changeMode operationStatus_agrees
  | directMode =>
    simp only [Application.handle]
    split
    · exact renders_changeMode operationStatus_agrees
    · exact renders_local trivial

end Sites

/-! ## Failures that are answered in two ways -/

theorem Tells.not_documented {service : ControlService} {application : Application}
    {request : HttpRequest} {endpoint : Endpoint} {failure : ControlFailure} {status : Nat}
    (h : Tells service application request endpoint failure status)
    (hstatus : status ≠ failure.documentedStatus) : ¬ Documented failure := by
  intro hdocumented
  obtain ⟨xs, message, hpath, hreplies, htold⟩ := h
  obtain ⟨message', heq⟩ := hdocumented service application request endpoint xs _ hpath hreplies
    htold
  cases heq
  exact hstatus rfl

/-- An application that takes every body for a catalogue of one target. -/
def replacingApplication : Application where
  version := "1"
  vpnConnectRequest _ := none
  directModeRequest _ := false
  targetCatalogueReplaceBody _ := some ⟨idealName, 0, ⟨[idealTarget], by decide⟩⟩

/-- What the daemon answers a change while it makes another one. -/
theorem answers_in_progress {operation : Operation} (h : operation.mutates = true) :
    operation.Answers idealService (ControlService.operationInProgress idealRequestId) := by
  refine ⟨idealRequestId, [⟨.acquireLock, .ok false⟩], .ok _, ?_, ?_, rfl⟩
  · unfold ControlService.dispatch
    rw [h]
    exact .ask (.refl _)
  · intro x hx
    obtain rfl := List.mem_singleton.mp hx
    exact raises_ok _

/-- A runtime, and the replies before the exchange of a request with valid credentials. -/
def plainRuntime : WebRuntime := ⟨"auth", "control.sock", 0⟩

def authenticatedReplies : List (Replied web WebException) :=
  [⟨.getRuntime, .ok (some plainRuntime)⟩,
    ⟨.verifyCredentials "auth" ⟨"admin", "secret"⟩, .ok true⟩]

/-- A request of this service with valid credentials. -/
def ownRequest : HttpRequest := lockFromDashboard

/-- A handler whose one exchange is refused, and what it makes of the refusal. -/
theorem tells_of_refusal {service : ControlService} {endpoint : Endpoint} {operation : Operation}
    {requestId : UUID} {code message : String} {status : Nat}
    (hanswers : operation.Answers service (.refusal requestId code message))
    (hpath : Program.Path (replacingApplication.handle ownRequest endpoint)
      (authenticatedReplies ++
        [⟨.control plainRuntime operation, .ok (.refusal requestId code message)⟩])
      (.done (.error (.api status code message false)))) :
    Tells service replacingApplication ownRequest endpoint (.response code) status := by
  refine ⟨_, message, hpath, fun x hx => ?_, _,
    List.mem_append_right _ (List.mem_singleton.mpr rfl), rfl⟩
  simp only [authenticatedReplies, List.cons_append, List.nil_append, List.mem_cons,
    List.not_mem_nil, or_false] at hx
  rcases hx with rfl | rfl | rfl
  · trivial
  · trivial
  · refine ⟨fun response heq => ?_, fun code message heq => by cases heq⟩
    cases heq
    exact hanswers

/-- A catalogue that is replaced while the mode changes: the route answers with 502. -/
theorem tells_replacement_in_progress :
    Tells idealService replacingApplication ownRequest .replaceAdminTargets
      (.response "OPERATION_IN_PROGRESS") 502 := by
  have hanswers : (Operation.targetCatalogReplaceRequest idealName 0
      ⟨[idealTarget], by decide⟩).Answers idealService
        (ControlService.operationInProgress idealRequestId) := answers_in_progress rfl
  exact tells_of_refusal hanswers (.ask (.ask (.ask (.refl _))))

/-- A mode that is changed while another change is made: the route answers with 409. -/
theorem tells_locked_in_progress :
    Tells idealService replacingApplication ownRequest .lockedMode
      (.response "OPERATION_IN_PROGRESS") 409 := by
  have hanswers : Operation.lockRequest.Answers idealService
      (ControlService.operationInProgress idealRequestId) := answers_in_progress rfl
  exact tells_of_refusal hanswers (.ask (.ask (.ask (.refl _))))

/-- A service whose provider cannot configure its leak protection. -/
def plainService : ControlService :=
  { idealService with capabilities := { idealService.capabilities with
      leakProtectionConfiguration := false } }

/-- A mode that the provider does not support: the route answers with 502. -/
theorem tells_locked_unsupported :
    Tells plainService replacingApplication ownRequest .lockedMode
      (.response "UNSUPPORTED_OPERATION") 502 := by
  have hanswers : Operation.lockRequest.Answers plainService (.refusal idealRequestId
      "UNSUPPORTED_OPERATION" (plainService.name.val ++ " cannot configure leak protection.")) := by
    refine ⟨idealRequestId, [⟨.acquireLock, .ok true⟩, ⟨.releaseLock, .ok ()⟩], .error _,
      .ask (.ask (.refl _)), fun x hx => ?_, rfl⟩
    simp only [List.mem_cons, List.not_mem_nil, or_false] at hx
    rcases hx with rfl | rfl
    · exact raises_ok _
    · exact raises_ok _
  exact tells_of_refusal hanswers (.ask (.ask (.ask (.refl _))))

/-- A daemon that does not answer a status in time: the route answers with 502. -/
theorem tells_status_timeout :
    Tells idealService replacingApplication ownRequest .status (.client "DAEMON_TIMEOUT") 502 := by
  have hpath : Program.Path (replacingApplication.handle ownRequest .status)
      (authenticatedReplies ++
        [⟨.control plainRuntime .statusRequest, .error (.controlClient "DAEMON_TIMEOUT" "")⟩])
      (.done (.error (.api 502 "DAEMON_TIMEOUT" "" false))) := .ask (.ask (.ask (.refl _)))
  refine ⟨_, "", hpath, fun x hx => ?_, _, List.mem_append_right _ (List.mem_singleton.mpr rfl),
    rfl⟩
  simp only [authenticatedReplies, List.cons_append, List.nil_append, List.mem_cons,
    List.not_mem_nil, or_false] at hx
  rcases hx with rfl | rfl | rfl
  · trivial
  · trivial
  · constructor
    · intro response heq
      cases heq
    · intro code message heq
      cases heq
      decide

/-- **The failures that every endpoint answers alike**, and as documented: all but a timeout of the
daemon, an operation in progress and an unsupported operation. -/
theorem documented_iff {failure : ControlFailure} :
    Documented failure ↔ failure ≠ .client "DAEMON_TIMEOUT" ∧
      failure ≠ .response "OPERATION_IN_PROGRESS" ∧
        failure ≠ .response "UNSUPPORTED_OPERATION" := by
  constructor
  · intro h
    refine ⟨?_, ?_, ?_⟩
    · rintro rfl
      exact tells_status_timeout.not_documented (by decide) h
    · rintro rfl
      exact tells_replacement_in_progress.not_documented (by decide) h
    · rintro rfl
      exact tells_locked_unsupported.not_documented (by decide) h
  · rintro ⟨htimeout, hprogress, hunsupported⟩
    have hplaced : failure ∉ ControlFailure.misplaced := by
      simp [ControlFailure.misplaced, htimeout, hprogress, hunsupported]
    rintro service application request endpoint xs r hpath hreplies ⟨x, hx, hfailure⟩
    exact renders_handle application endpoint xs r hpath hreplies x hx failure hfailure hplaced

/-- While the daemon makes a change, another one is refused with the same code on two routes, which
answer with two statuses. -/
theorem documented_in_progress :
    Tells idealService replacingApplication ownRequest .lockedMode
        (.response "OPERATION_IN_PROGRESS") 409 ∧
      Tells idealService replacingApplication ownRequest .replaceAdminTargets
        (.response "OPERATION_IN_PROGRESS") 502 ∧
      ¬ Documented (.response "OPERATION_IN_PROGRESS") :=
  ⟨tells_locked_in_progress, tells_replacement_in_progress,
    tells_replacement_in_progress.not_documented (by decide)⟩

end Snarkypuss
