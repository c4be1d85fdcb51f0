import Snarkypuss.Calls.Paths
import Snarkypuss.Control.Connection
import Snarkypuss.Control.Degradation
import Snarkypuss.Providers.Fields
import Snarkypuss.Web.Application

/-!
# The exposure that the user is told

From the text of two commands to the verdict on the page: the parsers, the mode of the snapshot and
`_exposure`. The verdict "not exposed" is only ever based on a command that succeeded and said that
the provider is connected, or disconnected with its kill switch on; whatever is not recognised on
the way leaves the verdict open, with a warning.

## Main definitions

* `Conveys`: the replies of the control daemon to a status request

## Main results

* `modeRead_cases`: what the commands said when a mode was read off them
* `exposure_follows`: the verdict follows from the texts of the commands
-/

namespace Snarkypuss

variable {σ ρ τ : Type} {unicode : Python.UnicodeData}
  {runner : Handler commandRunner PyException σ}
  {repository : Handler targetRepository PyException ρ} {sources : StatusSources τ}
  {service : ControlService} {s : ServiceState σ ρ τ}

/-! ## The mode of the snapshot -/

/-- The reply to `nordvpn status`. -/
def statusReply (runner : Handler commandRunner PyException σ) (p : σ) :
    Except PyException CommandResult := (runner ["status"] p).1

/-- The reply to the `nordvpn settings` that follows it. -/
def settingsReply (runner : Handler commandRunner PyException σ) (p : σ) :
    Except PyException CommandResult := (runner ["settings"] (runner ["status"] p).2).1

/-- The provider's settings said whether the kill switch is on. -/
theorem says_of_protection {reply : Except PyException CommandResult} {b : Bool}
    (h : (NordVpn.settingsOf unicode reply).toOption.bind VpnSettings.leakProtectionEnabled = some b) :
    NordVpn.Says unicode reply "kill_switch"
      (if b then ["enabled", "on", "true", "1"] else ["disabled", "off", "false", "0"]) := by
  cases hsettings : NordVpn.settingsOf unicode reply with
  | error e =>
    rw [hsettings] at h
    cases h
  | ok settings =>
    rw [hsettings] at h
    exact NordVpn.says_of_settingsOf hsettings h

/-- What the commands said when a mode was read off them. -/
theorem modeRead_cases {p : σ} {mode : GatewayMode} (h : modeRead unicode runner p = some mode) :
    match mode with
    | .vpn => NordVpn.Says unicode (statusReply runner p) "status" ["connected"]
    | .locked => NordVpn.Says unicode (statusReply runner p) "status" ["disconnected"] ∧
      NordVpn.Says unicode (settingsReply runner p) "kill_switch" ["enabled", "on", "true", "1"]
    | .direct => NordVpn.Says unicode (statusReply runner p) "status" ["disconnected"] ∧
      NordVpn.Says unicode (settingsReply runner p) "kill_switch" ["disabled", "off", "false", "0"]
    | .unknown => True := by
  obtain ⟨status, hstatus, hmode⟩ := Option.map_eq_some_iff.mp h
  have hread : NordVpn.statusOf unicode (statusReply runner p) = .ok status := by
    cases hreply : NordVpn.statusOf unicode (runner ["status"] p).1 with
    | error e =>
      rw [hreply] at hstatus
      cases hstatus
    | ok status' =>
      rw [hreply] at hstatus
      exact hreply.trans (congrArg Except.ok (Option.some.inj hstatus))
  have hdown : status.state = .disconnected →
      NordVpn.Says unicode (statusReply runner p) "status" ["disconnected"] := by
    intro hstate
    refine NordVpn.says_of_statusOf hread (fun text htext => ?_) (by decide)
    exact NordVpn.stateOf_eq_disconnected (htext.trans (congrArg some hstate))
  cases mode with
  | unknown => trivial
  | vpn =>
    have hstate : status.state = .connected := by
      unfold gatewayMode at hmode
      split at hmode
      · assumption
      all_goals cases hmode
    refine NordVpn.says_of_statusOf hread (fun text htext => ?_) (by decide)
    exact NordVpn.stateOf_eq_connected (htext.trans (congrArg some hstate))
  | locked =>
    unfold gatewayMode at hmode
    split at hmode
    case h_2 hstate hprotection => exact ⟨hdown hstate, says_of_protection hprotection⟩
    all_goals cases hmode
  | direct =>
    unfold gatewayMode at hmode
    split at hmode
    case h_3 hstate hprotection => exact ⟨hdown hstate, says_of_protection hprotection⟩
    all_goals cases hmode

/-- The mode of a snapshot is the mode that was read. -/
theorem dispatchStatus_mode {requestId : UUID} {answer : ControlResponse} {gateway : GatewayStatus}
    (h : ((service.dispatchStatus requestId).exec
      (nordVpnEnvironment unicode runner repository sources).handler s).result = .ok answer)
    (hgateway : answer.gatewayStatus = some gateway) :
    gateway.vpnStatus.map VpnStatus.gatewayMode = modeRead unicode runner s.provider := by
  obtain ⟨target, checkedAt, hresult⟩ :=
    exec_dispatchStatus unicode runner repository sources service requestId (s := s)
  rw [hresult] at h
  cases hsnapshot : (readings unicode runner sources service s).snapshot unicode target with
  | error e =>
    rw [hsnapshot] at h
    cases h
  | ok x =>
    rw [hsnapshot] at h
    obtain rfl := Except.ok.inj h
    obtain rfl := Option.some.inj hgateway
    -- The first component of the snapshot is the provider's part.
    obtain ⟨⟨vpn, failures⟩, hvpn, hrest⟩ := bind_eq_ok.mp hsnapshot
    obtain ⟨⟨publicIp, ip⟩, -, hrest⟩ := bind_eq_ok.mp hrest
    obtain ⟨⟨dns, dnsFailures⟩, -, hrest⟩ := bind_eq_ok.mp hrest
    obtain ⟨⟨system, systemFailures⟩, -, hrest⟩ := bind_eq_ok.mp hrest
    obtain rfl := Except.ok.inj hrest
    exact vpn_gatewayMode unicode runner sources service hvpn

/-! ## The answer on the page -/

open Web

/-- The reply of the control daemon to a status request, when it is dispatched from `s` and the
exchange does not fail. -/
def Conveys (env : Environment σ ρ τ) (service : ControlService) (s : ServiceState σ ρ τ)
    (reply : Except WebException ControlResponse) : Prop :=
  ∀ answer, reply = .ok answer → ∃ requestId, answer = ControlService.answer requestId
    ((service.dispatch ⟨requestId, .statusRequest⟩).exec env.handler s).result

/-- The snapshot on the page is that of a successful exchange. -/
theorem gatewayStatus_exchange {request : HttpRequest} {xs : List (Replied web WebException)}
    {response : GatewayStatusResponse}
    (h : (Application.gatewayStatus request).Path xs (.done (.ok (.gatewayStatus response)))) :
    ∃ runtime answer, ⟨.control runtime .statusRequest, .ok answer⟩ ∈ xs ∧
      answer.success = true ∧ answer.gatewayStatus = some response.snapshot ∧
      (response.publicIpExposed, response.exposureWarning) =
        exposure ((response.snapshot.vpnStatus.map VpnStatus.gatewayMode).getD .unknown) := by
  obtain ⟨ys, zs, runtime, rfl, -, h⟩ := h.bind_ok
  obtain ⟨ys', zs', answer, rfl, hcontrol, h⟩ := h.bind_ok
  obtain ⟨ys'', zs'', snapshot, rfl, hrequire, hdone⟩ := h.bind_ok
  obtain ⟨ws, ws', answer', rfl, hexchange, hsuccess⟩ := hcontrol.bind_ok
  obtain ⟨vs, vs', r, rfl, hattempt, hreply⟩ := hexchange.bind_ok
  obtain ⟨result, hcall, hreify⟩ := hattempt.attempt_ok
  obtain rfl := hcall.of_call
  cases r with
  | error x =>
    obtain ⟨-, hraised⟩ := hreply.of_done
    cases hraised
  | ok answer'' =>
    obtain rfl := Program.reify_eq_ok.mp hreify
    obtain ⟨rfl, hanswer⟩ := hreply.of_done
    cases hanswer
    cases hok : answer'.success with
    | false =>
      simp only [hok, Bool.not_false, if_true] at hsuccess
      obtain ⟨-, hraised⟩ := hsuccess.of_done
      cases hraised
    | true =>
      simp only [hok, Bool.not_true, Bool.false_eq_true, if_false] at hsuccess
      obtain ⟨rfl, hsame⟩ := hsuccess.of_done
      cases hsame
      obtain ⟨-, hresponse⟩ := hdone.of_done
      cases hresponse
      cases hgateway : answer.gatewayStatus with
      | none =>
        rw [hgateway] at hrequire
        obtain ⟨-, hraised⟩ := hrequire.of_done
        cases hraised
      | some gateway =>
        rw [hgateway] at hrequire
        obtain ⟨-, hsnapshot⟩ := hrequire.of_done
        cases hsnapshot
        exact ⟨runtime, answer, by simp, hok, hgateway, rfl⟩

/-- **The verdict follows from the texts of the commands.** "Not exposed" is answered only when
`nordvpn status` said `connected`, or `disconnected` while `nordvpn settings` said that the kill
switch is on; "exposed" only when they said `disconnected` and that it is off; and an open verdict
has a warning. -/
theorem exposure_follows {request : HttpRequest} {xs : List (Replied web WebException)}
    {response : GatewayStatusResponse}
    (h : (Application.gatewayStatus request).Path xs (.done (.ok (.gatewayStatus response))))
    (hdaemon : ∀ runtime reply, ⟨.control runtime .statusRequest, reply⟩ ∈ xs →
      Conveys (nordVpnEnvironment unicode runner repository sources) service s reply) :
    (response.publicIpExposed = some false →
      NordVpn.Says unicode (statusReply runner s.provider) "status" ["connected"] ∨
      NordVpn.Says unicode (statusReply runner s.provider) "status" ["disconnected"] ∧
        NordVpn.Says unicode (settingsReply runner s.provider) "kill_switch"
          ["enabled", "on", "true", "1"]) ∧
    (response.publicIpExposed = some true →
      NordVpn.Says unicode (statusReply runner s.provider) "status" ["disconnected"] ∧
        NordVpn.Says unicode (settingsReply runner s.provider) "kill_switch"
          ["disabled", "off", "false", "0"]) ∧
    (response.publicIpExposed = none → response.exposureWarning.isSome) := by
  obtain ⟨runtime, answer, hmem, hsuccess, hgateway, hverdict⟩ := gatewayStatus_exchange h
  obtain ⟨requestId, hanswer⟩ := hdaemon _ _ hmem _ rfl
  have hdispatch : service.dispatch ⟨requestId, .statusRequest⟩ = service.dispatchStatus requestId :=
    rfl
  rw [hdispatch] at hanswer
  cases hresult : ((service.dispatchStatus requestId).exec
      (nordVpnEnvironment unicode runner repository sources).handler s).result with
  | error e =>
    rw [hanswer, hresult, ControlService.answer_error] at hsuccess
    cases hsuccess
  | ok dispatched =>
    rw [hresult] at hanswer
    obtain rfl : answer = dispatched := hanswer
    rw [dispatchStatus_mode hresult hgateway] at hverdict
    cases hmode : modeRead unicode runner s.provider with
    | none =>
      rw [hmode] at hverdict
      obtain ⟨hexposed, hwarning⟩ := Prod.mk.inj hverdict
      rw [hexposed, hwarning]
      exact ⟨nofun, nofun, fun _ => rfl⟩
    | some mode =>
      rw [hmode] at hverdict
      obtain ⟨hexposed, hwarning⟩ := Prod.mk.inj hverdict
      rw [hexposed, hwarning]
      have hsaid := modeRead_cases hmode
      cases mode with
      | vpn => exact ⟨fun _ => .inl hsaid, nofun, nofun⟩
      | locked => exact ⟨fun _ => .inr hsaid, nofun, nofun⟩
      | direct => exact ⟨nofun, fun _ => hsaid, nofun⟩
      | unknown => exact ⟨nofun, nofun, fun _ => rfl⟩

/-! ## A locked gateway -/

/-- Collectors that find everything well. -/
def quietSources : StatusSources Unit where
  dns t := (.ok ⟨"dnsmasq.service", "loaded", "active", "running", some true⟩, t)
  system t := (.ok ⟨0, (0, 0, 0), 0, 0, 0, 0⟩, t)
  publicIp _ _ t := (.error (.statusCollection "PUBLIC_IP_REQUEST_FAILED" "failed"), t)
  now t := (idealMoment, t)

/-- A client that is disconnected, with its kill switch on. -/
def lockedRunner : Handler commandRunner PyException Unit
  | ["status"], p => (.ok ⟨0, "Status: Disconnected", ""⟩, p)
  | _, p => (.ok ⟨0, "Kill Switch: enabled", ""⟩, p)

/-- What the daemon makes of a status request then. -/
def lockedAnswer : Except PyException ControlResponse :=
  ((idealService.dispatch ⟨idealRequestId, .statusRequest⟩).exec
    (nordVpnEnvironment Python.asciiData lockedRunner MemoryTargetRepository quietSources).handler
    failingState).result

/-- A web process in front of that daemon. -/
def lockedWeb : Handler web WebException Unit
  | .getRuntime, s => (.ok (some ⟨"auth", "control.sock", 0⟩), s)
  | .setRuntime _, s => (.ok (), s)
  | .loadConfig, s => (.error (.config "no configuration"), s)
  | .verifyCredentials .., s => (.ok true, s)
  | .control .., s => (.ok (ControlService.answer idealRequestId lockedAnswer), s)

def statusFromDashboard : HttpRequest where
  method := "GET"
  path := "/api/v2/status"
  scheme := "https"
  netloc := "gateway"
  credentials := some ⟨"admin", "secret"⟩

/-- The page shows "not exposed" for a client that is disconnected with its kill switch on. -/
theorem exposure_follows_locked :
    ∃ xs response,
      (Application.gatewayStatus statusFromDashboard).Path xs
        (.done (.ok (.gatewayStatus response))) ∧ response.publicIpExposed = some false ∧
      (NordVpn.Says Python.asciiData (statusReply lockedRunner ()) "status" ["connected"] ∨
        NordVpn.Says Python.asciiData (statusReply lockedRunner ()) "status" ["disconnected"] ∧
          NordVpn.Says Python.asciiData (settingsReply lockedRunner ()) "kill_switch"
            ["enabled", "on", "true", "1"]) := by
  obtain ⟨xs, hpath, hreplies⟩ :=
    Program.path_exec lockedWeb (Application.gatewayStatus statusFromDashboard) ()
  obtain ⟨response, hresult, hexposed⟩ : ∃ response,
      ((Application.gatewayStatus statusFromDashboard).exec lockedWeb ()).result =
        .ok (.gatewayStatus response) ∧ response.publicIpExposed = some false := ⟨_, rfl, rfl⟩
  rw [hresult] at hpath
  have hdaemon : ∀ runtime reply, ⟨.control runtime .statusRequest, reply⟩ ∈ xs →
      Conveys (nordVpnEnvironment Python.asciiData lockedRunner MemoryTargetRepository quietSources)
        idealService failingState reply := by
    intro runtime reply hmem answer hanswer
    obtain ⟨_, hreply⟩ := hreplies _ _ hmem
    obtain rfl := Except.ok.inj (hanswer.symm.trans hreply)
    exact ⟨idealRequestId, rfl⟩
  exact ⟨xs, response, hpath, hexposed, (exposure_follows hpath hdaemon).1 hexposed⟩

end Snarkypuss
