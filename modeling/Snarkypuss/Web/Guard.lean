import Snarkypuss.Calls.Paths
import Snarkypuss.Control.Ideal
import Snarkypuss.Web.Application

/-!
# Who reaches the control daemon

Every handler that contacts the control daemon has verified the credentials of its request first,
and a handler that asks for a change has checked that the request comes from a page of this
service. It is proved of the handlers, over all replies, and follows for every run of any number
of requests that are handled at once.

## Main definitions

* `SameOrigin`: what `_require_same_origin` asks of a request
* `Admitted`: what must come before an exchange with the daemon

## Main results

* `requireSameOrigin_ok_iff`: the requests that the guard lets pass
* `meets_serve`: in every handler, what comes before an exchange admits it
* `control_admitted`: in every run, an exchange is one of an authenticated request, and a change
  one of a request of this service
-/

namespace Snarkypuss

open Web

/-- The marker header with its exact value, the media type of JSON, no foreign `Sec-Fetch-Site`,
and no foreign `Origin`. -/
structure SameOrigin (request : HttpRequest) : Prop where
  marker : request.header requestMarkerHeader = some requestMarkerValue
  mediaType : request.mediaType = "application/json"
  fetchSite : ∀ site ∈ request.header "Sec-Fetch-Site", site = "same-origin"
  origin : ∀ origin ∈ request.header "Origin", origin = request.expectedOrigin

/-- The credentials of the request have been verified. -/
def Verified (request : HttpRequest) (authFile : String) (history : List (Replied web WebException)) :
    Prop :=
  ∃ credentials, request.credentials = some credentials ∧
    ⟨.verifyCredentials authFile credentials, .ok true⟩ ∈ history

/-- What must come before an exchange with the daemon, and what a change is asked for by. -/
def Admitted (request : HttpRequest) (history : List (Replied web WebException)) :
    WebCall → Prop
  | .control runtime operation =>
    Verified request runtime.authFile history ∧ (operation.mutates = true → SameOrigin request)
  | _ => True

/-- The call does not contact the daemon. -/
def WebCall.Local : WebCall → Prop
  | .control .. => False
  | _ => True

/-- The call is an exchange with the daemon of `runtime`, and a change is asked for by a request of
this service. -/
def Exchanges (request : HttpRequest) (runtime : WebRuntime) (c : WebCall) : Prop :=
  ∃ operation, c = .control runtime operation ∧ (operation.mutates = true → SameOrigin request)

/-! ## The guards -/

theorem some_of_ne {A : Type} {x : Option A} {a : A} (h : ¬ (x ≠ none ∧ x ≠ some a)) :
    ∀ y ∈ x, y = a := by
  intro y hy
  have hx : x = some y := hy
  by_contra hne
  refine h ⟨by simp [hx], fun hxa => hne ?_⟩
  exact Option.some.inj (hx.symm.trans hxa)

/-- The guard lets a request pass that is of this service, and makes no call. -/
theorem requireSameOrigin_ok_iff (request : HttpRequest) :
    requireSameOrigin request = .done (.ok ()) ↔ SameOrigin request := by
  constructor
  · intro h
    unfold requireSameOrigin at h
    dsimp only at h
    split at h
    · cases h
    rename_i hmarker
    split at h
    · cases h
    rename_i hmedia
    split at h
    · cases h
    rename_i hsite
    split at h
    · cases h
    rename_i horigin
    exact ⟨not_not.mp hmarker, not_not.mp hmedia, some_of_ne hsite, some_of_ne horigin⟩
  · intro h
    have hforeign : ∀ {x : Option String} {a : String}, (∀ y ∈ x, y = a) →
        ¬ (x ≠ none ∧ x ≠ some a) := by
      rintro x a hx ⟨hnone, hsome⟩
      obtain ⟨y, rfl⟩ := Option.ne_none_iff_exists'.mp hnone
      exact hsome (congrArg some (hx y rfl))
    unfold requireSameOrigin
    rw [if_neg (not_not.mpr h.marker), if_neg (not_not.mpr h.mediaType),
      if_neg (hforeign h.fetchSite), if_neg (hforeign h.origin)]
    rfl

/-- The guard ends without a call. -/
theorem requireSameOrigin_done (request : HttpRequest) :
    ∃ result, requireSameOrigin request = .done result := by
  unfold requireSameOrigin
  dsimp only
  repeat' split
  all_goals exact ⟨_, rfl⟩

/-- An authenticated request had the credentials that were verified. -/
theorem authenticated_verified {request : HttpRequest} {xs : List (Replied web WebException)}
    {runtime : WebRuntime}
    (h : (Application.authenticated request).Path xs (.done (.ok runtime))) :
    Verified request runtime.authFile xs := by
  obtain ⟨ys, zs, runtime', rfl, -, hrest⟩ := h.bind_ok
  obtain ⟨ys', zs', u, rfl, hauth, hdone⟩ := hrest.bind_ok
  obtain ⟨rfl, hruntime⟩ := hdone.of_done
  cases hruntime
  cases hcredentials : request.credentials with
  | none =>
    rw [hcredentials] at hauth
    obtain ⟨-, hraised⟩ := hauth.of_done
    cases hraised
  | some credentials =>
    rw [hcredentials] at hauth
    obtain ⟨zs₁, zs₂, r, rfl, hverify, hvalid⟩ := hauth.bind_ok
    obtain ⟨result, hcall, hreify⟩ := hverify.attempt_ok
    obtain rfl := hcall.of_call
    refine ⟨credentials, hcredentials, ?_⟩
    cases r with
    | error message =>
      obtain ⟨-, hraised⟩ := hvalid.of_done
      cases hraised
    | ok valid =>
      obtain rfl := Program.reify_eq_ok.mp hreify
      cases valid with
      | false =>
        obtain ⟨-, hraised⟩ := hvalid.of_done
        cases hraised
      | true => simp

/-! ## The handlers -/

section Handlers

variable {request : HttpRequest} {runtime : WebRuntime} {A : Type}

theorem uses_exchange {operation : Operation} (h : Exchanges request runtime (.control runtime operation))
    (statusOf : String → Nat) : (exchange statusOf runtime operation).Uses (Exchanges request runtime) := by
  refine Program.Uses.bind (Program.Uses.attempt _ ⟨h, fun _ => trivial⟩) fun r => ?_
  cases r <;> trivial

theorem uses_require (part : Option A) (message : String) (allowed : WebCall → Prop) :
    (require part message).Uses allowed := by
  cases part <;> trivial

theorem uses_controlStatus : (controlStatus runtime).Uses (Exchanges request runtime) := by
  refine (uses_exchange ⟨_, rfl, fun h => by cases h⟩ _).bind fun response => ?_
  split <;> trivial

theorem uses_targetControl {operation : Operation}
    (h : Exchanges request runtime (.control runtime operation)) :
    (targetControl runtime operation).Uses (Exchanges request runtime) := by
  refine (uses_exchange h _).bind fun response => ?_
  split <;> trivial

theorem uses_activeProvider : (activeProvider runtime).Uses (Exchanges request runtime) :=
  (uses_targetControl ⟨_, rfl, fun h => by cases h⟩).bind fun response =>
    (uses_require _ _ _).bind fun catalog => trivial

theorem uses_vpnOperation {operation : Operation}
    (h : Exchanges request runtime (.control runtime operation)) :
    (vpnOperation runtime operation).Uses (Exchanges request runtime) := by
  refine (uses_exchange h _).bind fun response => ?_
  split
  · trivial
  · exact (uses_require _ _ _).bind fun status => trivial

/-- Behind the guard, a change is asked for by a request of this service. -/
theorem uses_requireSameOrigin {f : Web A}
    (hf : SameOrigin request → f.Uses (Exchanges request runtime)) :
    ((requireSameOrigin request).bind fun _ => f).Uses (Exchanges request runtime) := by
  obtain ⟨result, hresult⟩ := requireSameOrigin_done request
  rw [hresult]
  cases result with
  | ok u =>
    cases u
    exact hf ((requireSameOrigin_ok_iff request).mp hresult)
  | error e => trivial

/-- Getting the runtime and authenticating contacts nobody else. -/
theorem uses_authenticated (request : HttpRequest) :
    (Application.authenticated request).Uses WebCall.Local := by
  have hruntime : getRuntime.Uses WebCall.Local := by
    refine Program.Uses.bind ⟨trivial, fun _ => trivial⟩ fun cached => ?_
    cases cached with
    | some runtime => trivial
    | none =>
      refine Program.Uses.bind (Program.Uses.attempt _ ⟨trivial, fun _ => trivial⟩) fun r => ?_
      cases r with
      | error message => trivial
      | ok runtime => exact Program.Uses.bind ⟨trivial, fun _ => trivial⟩ fun _ => trivial
  refine hruntime.bind fun runtime => Program.Uses.bind ?_ fun _ => trivial
  cases request.credentials with
  | none => trivial
  | some credentials =>
    refine Program.Uses.bind (Program.Uses.attempt _ ⟨trivial, fun _ => trivial⟩) fun r => ?_
    cases r with
    | error message => trivial
    | ok valid => cases valid <;> trivial

theorem meets_authenticated (request : HttpRequest) (history : List (Replied web WebException)) :
    (Application.authenticated request).Meets (Admitted request) history := by
  refine (uses_authenticated request).meets fun xs c hc => ?_
  cases c with
  | control runtime operation => exact hc.elim
  | _ => trivial

/-- A handler that authenticates first is admitted wherever it then goes. -/
theorem meets_handler {f : WebRuntime → Web A}
    (hf : ∀ runtime, (f runtime).Uses (Exchanges request runtime)) :
    ((Application.authenticated request).bind f).Meets (Admitted request) [] := by
  refine (meets_authenticated request []).bind fun xs runtime hpath => ?_
  obtain ⟨credentials, hcredentials, hmem⟩ := authenticated_verified hpath
  refine (hf runtime).meets fun zs c hc => ?_
  obtain ⟨operation, rfl, hsame⟩ := hc
  exact ⟨⟨credentials, hcredentials, List.mem_append_left _ hmem⟩, hsame⟩

theorem meets_changeMode (operation : Operation) :
    (Application.changeMode request operation).Meets (Admitted request) [] :=
  meets_handler fun _ => uses_requireSameOrigin fun hsame =>
    (uses_vpnOperation ⟨operation, rfl, fun _ => hsame⟩).bind fun _ => trivial

/-- **In every handler, what comes before an exchange with the daemon admits it.** -/
theorem meets_serve (application : Application) (request : HttpRequest) :
    (application.serve request).Meets (Admitted request) [] := by
  have hreads : ∀ {runtime : WebRuntime} {operation : Operation}, operation.mutates = false →
      Exchanges request runtime (.control runtime operation) :=
    fun hm => ⟨_, rfl, fun h => Bool.noConfusion (hm.symm.trans h)⟩
  unfold Application.serve
  split
  · rename_i endpoint hroute
    cases endpoint with
    | liveness => trivial
    | dashboard => exact meets_handler fun _ => trivial
    | status =>
      exact meets_handler fun runtime => uses_controlStatus.bind fun response =>
        (uses_require _ _ _).bind fun status => trivial
    | gatewayStatus =>
      exact meets_handler fun runtime => uses_controlStatus.bind fun response =>
        (uses_require _ _ _).bind fun snapshot => trivial
    | vpnTargets =>
      refine meets_handler fun runtime => (uses_exchange (hreads rfl) _).bind fun response => ?_
      split
      · trivial
      · exact (uses_require _ _ _).bind fun catalog => trivial
    | adminTargetSchema =>
      exact meets_handler fun runtime => uses_activeProvider.bind fun provider =>
        (uses_targetControl (hreads rfl)).bind fun response =>
          (uses_require _ _ _).bind fun schema => trivial
    | adminTargetOptions =>
      simp only [Application.handle]
      split
      · split
        · refine meets_handler fun runtime => uses_activeProvider.bind fun provider => ?_
          dsimp only
          split
          · exact (uses_targetControl (hreads rfl)).bind fun response =>
              (uses_require _ _ _).bind fun options => trivial
          · trivial
        · trivial
      · trivial
    | adminTargets =>
      exact meets_handler fun runtime => uses_activeProvider.bind fun provider =>
        (uses_targetControl (hreads rfl)).bind fun response =>
          (uses_require _ _ _).bind fun catalogue => trivial
    | replaceAdminTargets =>
      simp only [Application.handle]
      split
      · exact meets_handler fun runtime => uses_requireSameOrigin fun hsame =>
          (uses_targetControl ⟨_, rfl, fun _ => hsame⟩).bind fun response =>
            (uses_require _ _ _).bind fun catalogue => trivial
      · trivial
    | vpnConnect =>
      simp only [Application.handle]
      split
      · exact meets_changeMode _
      · trivial
    | protectedMode =>
      simp only [Application.handle]
      split
      · exact meets_changeMode _
      · trivial
    | lockedMode => exact meets_changeMode _
    | directMode =>
      simp only [Application.handle]
      split
      · exact meets_changeMode _
      · trivial
  · trivial

end Handlers

/-! ## Runs -/

/-- **No unauthenticated or cross-site request reaches the daemon.** In every run of any requests,
handled at once and call by call, an exchange with the daemon of `runtime` is one of a request
whose credentials have been verified before, against the credential file of `runtime`; and when it
asks for a change, the request is one of this service. -/
theorem control_admitted {S : Type} {h : Handler web WebException S} {application : Application}
    {s : S} {before after : List (Event HttpRequest web WebException)} {j : ℕ}
    {runtime : WebRuntime} {operation : Operation} {reply : Except WebException ControlResponse}
    {P : Pool HttpRequest web WebException S WebResponse}
    (run : Pool.Run h application.serve (fun _ _ => True) ⟨s, []⟩
      (before ++ .call j (.control runtime operation) reply :: after) P) :
    ∃ t, P.threads[j]? = some t ∧
      (∃ credentials, t.request.credentials = some credentials ∧
        Event.call j (WebCall.verifyCredentials runtime.authFile credentials) (.ok true) ∈ before) ∧
      (operation.mutates = true → SameOrigin t.request) := by
  obtain ⟨t, ht, ⟨credentials, hcredentials, hmem⟩, hsame⟩ := run.admitted (meets_serve application)
  refine ⟨t, ht, ⟨credentials, hcredentials, ?_⟩, hsame⟩
  obtain ⟨e, he, hown⟩ := List.mem_filterMap.mp hmem
  obtain rfl := Event.own_eq_some hown
  exact he

/-! ### A request that is let pass -/

/-- A web process whose credentials are valid and whose daemon refuses everything. -/
def refusingWeb : Handler web WebException Unit
  | .getRuntime, s => (.ok (some ⟨"auth", "control.sock", 0⟩), s)
  | .setRuntime _, s => (.ok (), s)
  | .loadConfig, s => (.error (.config "no configuration"), s)
  | .verifyCredentials .., s => (.ok true, s)
  | .control .., s => (.ok (.refusal idealRequestId "OPERATION_IN_PROGRESS" ""), s)

/-- An application whose bodies are aliases as they stand. -/
def plainApplication : Application where
  version := "1"
  vpnConnectRequest body := if h : _ then some ⟨body, h⟩ else none
  directModeRequest _ := false
  targetCatalogueReplaceBody _ := none

/-- The dashboard asks for Locked mode. -/
def lockFromDashboard : HttpRequest where
  method := "POST"
  path := "/api/v2/mode/locked"
  headers := [("x-snarkyctl-request", "1"), ("content-type", "application/json"),
    ("sec-fetch-site", "same-origin"), ("origin", "https://gateway")]
  scheme := "https"
  netloc := "gateway"
  credentials := some ⟨"admin", "secret"⟩

/-- What the web process does before it asks the daemon for it. -/
def beforeLock : List (Event HttpRequest web WebException) :=
  [.start lockFromDashboard, .call 0 .getRuntime (.ok (some ⟨"auth", "control.sock", 0⟩)),
    .call 0 (.verifyCredentials "auth" ⟨"admin", "secret"⟩) (.ok true)]

/-- The request of the dashboard is authenticated, and reaches the daemon as one of this
service. -/
theorem control_admitted_dashboard :
    ∃ P t, Pool.Run refusingWeb plainApplication.serve (fun _ _ => True) ⟨(), []⟩
        (beforeLock ++ .call 0 (.control ⟨"auth", "control.sock", 0⟩ .lockRequest)
          (.ok (.refusal idealRequestId "OPERATION_IN_PROGRESS" "")) :: []) P ∧
      P.threads[0]? = some t ∧ t.request.credentials = some ⟨"admin", "secret"⟩ ∧
      SameOrigin t.request := by
  obtain ⟨P, run⟩ : ∃ P, Pool.Run refusingWeb plainApplication.serve (fun _ _ => True) ⟨(), []⟩
      (beforeLock ++ .call 0 (.control ⟨"auth", "control.sock", 0⟩ .lockRequest)
        (.ok (.refusal idealRequestId "OPERATION_IN_PROGRESS" "")) :: []) P := by
    have hschedule : Pool.schedule refusingWeb plainApplication.serve ⟨(), []⟩
        [.start lockFromDashboard, .call 0, .call 0, .call 0] = some (_, _) := rfl
    exact ⟨_, Pool.run_schedule hschedule fun _ _ _ => trivial⟩
  obtain ⟨t, ht, ⟨credentials, hcredentials, hmem⟩, hsame⟩ := control_admitted run
  refine ⟨P, t, run, ht, ?_, hsame rfl⟩
  -- The only verification before the exchange is that of the credentials of the request.
  have hverified : Event.call 0 (WebCall.verifyCredentials "auth" credentials) (.ok true) =
      (.call 0 (.verifyCredentials "auth" ⟨"admin", "secret"⟩) (.ok true) :
        Event HttpRequest web WebException) := by
    simpa [beforeLock] using hmem
  cases hverified
  exact hcredentials

end Snarkypuss
