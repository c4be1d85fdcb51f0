import Snarkypuss.Control.Channel

/-!
# The phases of the parties

A party is in a phase that tells what it has got and put, what it has dispatched, and whether it was
refused something or has closed its end. A client asks once and reads one frame. A handler reads one
frame, dispatches the request in it, if its peer may use the daemon, and puts one frame.

## Main definitions

* `Phase`: what a party has done
* `clientMay`, `handlerMay`, `Moves`: what it may do next, and how it goes on
* `concluded`: what a client makes of the payload that it gets

## Main results

* `clientRequest_follows`, `handleConnection_follows`: the methods keep to their protocol
* `follows_program`: so do the parties
-/

namespace Snarkypuss.Channel

open Program

/-- What a party has got, what it has put, what it has dispatched, whether it was refused anything,
and whether it has closed its end. -/
structure Phase where
  got : List UInt8
  put : List UInt8
  did : List Dispatched
  lost : Bool
  closed : Bool

namespace Phase

/-- Nothing has been done. -/
def first : Phase := ⟨[], [], [], false, false⟩

/-- A request has been dispatched. -/
def dispatch (φ : Phase) (request : ControlRequest) (outcome : Except ControlError ControlResponse) :
    Phase := { φ with did := φ.did ++ [(request, outcome)] }

end Phase

variable (setting : Setting)

/-- The frame of a request. -/
def Setting.requestFrame (request : ControlRequest) : Except ControlError (List UInt8) :=
  frameOf (setting.client.dumpRequest request)

/-- The frame of the response to a request that was dispatched. -/
def Setting.responseFrame (d : Dispatched) : Except ControlError (List UInt8) :=
  frameOf (setting.daemon.dumpResponse (Connection.responseTo d.1.requestId d.2))

/-- What a client makes of the payload that it gets. -/
def concluded (request : ControlRequest) (r : Except ControlError (List UInt8)) :
    Except ControlError ControlResponse :=
  (reify Cli.clientFailure? (r.bind (Cli.parseResponse setting.client))).bind (Cli.correlate request)

/-! ## Protocols -/

/-- What a client may do: it asks once, reads one frame, and closes its end when it has a header, was
refused something, or could not ask. -/
def clientMay (n : ℕ) (request : ControlRequest) (φ : Phase) : PartyCall → Prop
  | .connect m => m = n ∧ φ.put = [] ∧ φ.closed = false
  | .sendall e bytes =>
    e = ⟨n, .client⟩ ∧ φ.put = [] ∧ φ.closed = false ∧ setting.requestFrame request = .ok bytes
  | .recv e size =>
    e = ⟨n, .client⟩ ∧ φ.closed = false ∧ setting.requestFrame request = .ok φ.put ∧ Wants φ.got size
  | .close e => e = ⟨n, .client⟩ ∧ φ.closed = false ∧
    (φ.lost = true ∨ 4 ≤ φ.got.length ∨ φ.put = [] ∧ ∀ frame, setting.requestFrame request ≠ .ok frame)
  | _ => False

/-- A handler that has dispatched a request has put its response, unless it was refused to or the
response fits no frame. -/
def Answered (φ : Phase) : Prop :=
  φ.lost = true ∨ ∀ d frame, φ.did = [d] → setting.responseFrame d = .ok frame → φ.put = frame

/-- What a handler may do: it reads one frame, dispatches the request in it and puts one frame. -/
def handlerMay (n : ℕ) (φ : Phase) : PartyCall → Prop
  | .peerCredentials m => m = n ∧ φ.closed = false
  | .recv e size => e = ⟨n, .server⟩ ∧ φ.closed = false ∧ setting.uid n ∈ setting.permittedUids ∧
    φ.did = [] ∧ φ.put = [] ∧ Wants φ.got size
  | .dispatch m request => m = n ∧ φ.closed = false ∧ setting.uid n ∈ setting.permittedUids ∧
    φ.did = [] ∧ φ.put = [] ∧ φ.lost = false ∧ ∃ payload, frameOf payload = .ok φ.got ∧
      Connection.parseRequest setting.daemon payload = .ok request
  | .sendall e bytes => e = ⟨n, .server⟩ ∧ φ.closed = false ∧ φ.put = [] ∧
    ∃ d, φ.did = [d] ∧ setting.responseFrame d = .ok bytes
  | .close e => e = ⟨n, .server⟩ ∧ φ.closed = false ∧ Answered setting φ
  | _ => False

/-- How a party goes on from a call. -/
def Moves (φ : Phase) :
    (c : PartyCall) → Except ControlError (parties.Reply c) → Phase → Prop
  | .connect _, .ok _, φ' => φ' = φ
  | .connect _, .error _, φ' => φ' = { φ with lost := true }
  | .peerCredentials n, reply, φ' => reply = .ok (setting.uid n) ∧ φ' = φ
  | .recv _ _, .ok chunk, φ' =>
    φ' = if chunk.val = [] then { φ with lost := true } else { φ with got := φ.got ++ chunk.val }
  | .recv _ _, .error _, φ' => φ' = { φ with lost := true }
  | .sendall _ bytes, .ok _, φ' => φ' = { φ with put := φ.put ++ bytes }
  | .sendall _ bytes, .error _, φ' =>
    ∃ part rest, bytes = part ++ rest ∧ φ' = { φ with put := φ.put ++ part, lost := true }
  | .close _, reply, φ' => reply = .ok () ∧ φ' = { φ with closed := true }
  | .dispatch _ request, outcome, φ' => φ' = φ.dispatch request outcome
  | .host _, _, φ' => φ' = φ

/-- What each party may do, and how it goes on. -/
def partyProtocol (r : Party) : Protocol parties ControlError Phase where
  may φ c :=
    match r with
    | .client n request => clientMay setting n request φ c
    | .handler n => handlerMay setting n φ c
  moves := Moves setting

/-- How a party ends: it has closed its end. A client that was refused nothing has asked and made
something of what arrived, or it could not ask. -/
def Ending (r : Party) (result : Except ControlError (Option ControlResponse)) (φ : Phase) : Prop :=
  φ.closed = true ∧
    match r with
    | .client _ request => (φ.lost = true ∧ ∃ e, result = .error e) ∨
      (φ.put = [] ∧ (∀ frame, setting.requestFrame request ≠ .ok frame) ∧ ∃ e, result = .error e) ∨
      ∃ x, Arrived φ.got x ∧ result = (concluded setting request x).map some
    | .handler _ => Answered setting φ

/-! ## Receiving -/

/-- The phases that a receiver goes through. -/
def Phase.receiving (φ : Phase) (ρ : Received) : Phase := { φ with got := ρ.got, lost := ρ.lost }

/-- A party that may ask for what is wanted receives a frame. -/
theorem receiveAt_follows {r : Party} {e : Port} {φ : Phase} (hgot : φ.got = [])
    (hlost : φ.lost = false)
    (hmay : ∀ ρ size, Wants ρ.got size → (partyProtocol setting r).may (φ.receiving ρ) (.recv e size)) :
    (receiveAt e).Follows (partyProtocol setting r)
      (fun reply φ' => ∃ ρ, RecvEnds reply ρ ∧ φ' = φ.receiving ρ) φ := by
  have hstart : φ = φ.receiving ⟨[], false⟩ := by
    cases φ
    subst hgot hlost
    rfl
  have hcalls : ∀ (ρ : Received) (ψ : Phase) (size : ℕ), ψ = φ.receiving ρ → recvProtocol.may ρ size →
      (call (I := parties) (.recv e size) : Program parties ControlError _).Follows
        (partyProtocol setting r)
        (fun reply φ' => ∃ ρ', recvProtocol.moves ρ size reply ρ' ∧ φ' = φ.receiving ρ') ψ := by
    rintro ρ ψ size rfl hwants
    refine follows_call (hmay ρ size hwants) fun reply φ' hmoves => ?_
    cases reply with
    | ok chunk =>
      refine ⟨_, rfl, hmoves.trans ?_⟩
      by_cases hempty : chunk.val = []
      · rw [if_pos hempty, if_pos hempty]
        rfl
      · rw [if_neg hempty, if_neg hempty]
        rfl
    | error x => exact ⟨_, rfl, hmoves⟩
  exact (receiveFrame_follows.inline hstart hcalls).mono fun reply φ' hend => hend

/-! ## The client -/

/-- What `ControlClient.request` may do, its frame in one piece. -/
def clientProtocol (request : ControlRequest) : Protocol Cli.cliCalls ControlError Phase where
  may φ
    | .connect => φ = .first
    | .sendall frame => φ = .first ∧ setting.requestFrame request = .ok frame
    | .receive => φ.got = [] ∧ φ.lost = false ∧ φ.closed = false ∧
      setting.requestFrame request = .ok φ.put
    | _ => False
  moves φ c reply φ' :=
    match c, reply with
    | .connect, .ok _ => φ' = φ
    | .connect, .error _ => φ' = { φ with lost := true }
    | .sendall frame, .ok _ => φ' = { φ with put := frame }
    | .sendall _, .error _ => ∃ part, φ' = { φ with put := part, lost := true }
    | .receive, r => ∃ ρ, RecvEnds r ρ ∧ φ' = φ.receiving ρ
    | _, _ => True

/-- How a client ends, before it closes its end. -/
def ClientEnds (request : ControlRequest) (r : Except ControlError ControlResponse) (φ : Phase) : Prop :=
  φ.closed = false ∧ ((φ.lost = true ∧ ∃ e, r = .error e) ∨
    (φ.put = [] ∧ (∀ frame, setting.requestFrame request ≠ .ok frame) ∧ ∃ e, r = .error e) ∨
    ∃ x, Arrived φ.got x ∧ r = concluded setting request x)

/-- A failure is reported as a failure. -/
theorem correlated_error (request : ControlRequest) (e : ControlError) :
    ∃ e', (reify Cli.clientFailure? (.error e : Except ControlError ControlResponse)).bind
      (Cli.correlate request) = .error e' := by
  simp only [reify]
  cases Cli.clientFailure? e with
  | none => exact ⟨_, rfl⟩
  | some x => exact ⟨_, rfl⟩

theorem clientRequest_follows (request : ControlRequest) :
    (Cli.clientRequest setting.client request).Follows (clientProtocol setting request)
      (ClientEnds setting request) .first := by
  have hexchange : (Cli.exchange setting.client request).Follows (clientProtocol setting request)
      (fun r φ => ClientEnds setting request
        ((reify Cli.clientFailure? r).bind (Cli.correlate request)) φ) .first := by
    unfold Cli.exchange
    refine follows_call_bind rfl ?_ ?_
    · rintro ⟨⟩ φ rfl
      cases hframe : setting.requestFrame request with
      | error e =>
        -- the request fits no frame
        have hnone : ∀ frame, setting.requestFrame request ≠ .ok frame := by simp [hframe]
        obtain ⟨e', he'⟩ := correlated_error request e
        show (Program.bind (done (setting.requestFrame request)) _).Follows _ _ _
        rw [hframe]
        exact ⟨rfl, .inr (.inl ⟨rfl, hnone, e', he'⟩)⟩
      | ok frame =>
        show (Program.bind (done (setting.requestFrame request)) _).Follows _ _ _
        rw [hframe, done_ok_bind]
        refine follows_call_bind ⟨rfl, hframe⟩ ?_ ?_
        · rintro ⟨⟩ φ rfl
          refine follows_call_bind ⟨rfl, rfl, rfl, hframe⟩ ?_ ?_
          · rintro payload φ ⟨ρ, ⟨-, e, he⟩ | ⟨-, harrived⟩, rfl⟩
            · cases he
            · exact ⟨rfl, .inr (.inr ⟨_, harrived, rfl⟩)⟩
          · rintro e φ ⟨ρ, ⟨hlost, -⟩ | ⟨-, harrived⟩, rfl⟩
            · exact ⟨rfl, .inl ⟨hlost, correlated_error request e⟩⟩
            · exact ⟨rfl, .inr (.inr ⟨_, harrived, rfl⟩)⟩
        · rintro e φ ⟨part, rfl⟩
          exact ⟨rfl, .inl ⟨rfl, correlated_error request e⟩⟩
    · rintro e φ rfl
      exact ⟨rfl, .inl ⟨rfl, correlated_error request e⟩⟩
  have hattempt : ((Cli.exchange setting.client request).attempt Cli.clientFailure?).Follows
      (clientProtocol setting request)
      (fun r φ => ClientEnds setting request (r.bind (Cli.correlate request)) φ) .first :=
    Follows.attempt hexchange
  exact hattempt.bind (fun outcome φ h => h) fun e φ h => h

/-! ## The handler -/

/-- What `handle_connection` may do, its frames in one piece. -/
def handlerProtocol (n : ℕ) : Protocol Connection.connectionCalls ControlError Phase where
  may φ
    | .peerCredentials => φ = .first
    | .receive => φ = .first ∧ setting.uid n ∈ setting.permittedUids
    | .dispatch request => φ.closed = false ∧ setting.uid n ∈ setting.permittedUids ∧ φ.did = [] ∧
      φ.put = [] ∧ φ.lost = false ∧ ∃ payload, frameOf payload = .ok φ.got ∧
        Connection.parseRequest setting.daemon payload = .ok request
    | .sendall bytes => φ.closed = false ∧ φ.put = [] ∧
      ∃ d, φ.did = [d] ∧ setting.responseFrame d = .ok bytes
  moves φ c reply φ' :=
    match c, reply with
    | .peerCredentials, reply => reply = .ok (setting.uid n) ∧ φ' = φ
    | .receive, r => ∃ ρ, RecvEnds r ρ ∧ φ' = φ.receiving ρ
    | .dispatch request, outcome => φ' = φ.dispatch request outcome
    | .sendall bytes, .ok _ => φ' = { φ with put := bytes }
    | .sendall _, .error _ => ∃ part, φ' = { φ with put := part, lost := true }

/-- How a handler ends, before it closes its end. -/
def HandlerEnds (φ : Phase) : Prop := φ.closed = false ∧ Answered setting φ

theorem handlerEnds_of_did {φ : Phase} (hclosed : φ.closed = false) (hdid : φ.did = []) :
    HandlerEnds setting φ := by
  refine ⟨hclosed, .inr fun d frame hd => ?_⟩
  rw [hdid] at hd
  cases hd

theorem serveRequest_follows {n : ℕ} (huid : setting.uid n ∈ setting.permittedUids) :
    (Connection.serveRequest setting.daemon).Follows (handlerProtocol setting n)
      (fun _ φ => HandlerEnds setting φ) .first := by
  unfold Connection.serveRequest
  refine follows_call_bind ⟨rfl, huid⟩ ?_ ?_
  · rintro payload φ ⟨ρ, ⟨-, e, he⟩ | ⟨hlost, harrived⟩, rfl⟩
    · cases he
    cases hparse : Connection.parseRequest setting.daemon payload with
    | error e => exact handlerEnds_of_did setting rfl rfl
    | ok request =>
      rw [bind_eq, done_ok_bind]
      -- the dispatch is asked for once, whatever comes of it
      have hdispatch : ((Connection.dispatch request).attempt some).Follows (handlerProtocol setting n)
          (fun r φ => ∃ outcome, r = .ok outcome ∧
            φ = (Phase.first.receiving ρ).dispatch request outcome)
          (Phase.first.receiving ρ) := by
        refine Follows.attempt (follows_call
          ⟨rfl, huid, rfl, rfl, hlost, payload, harrived.2, hparse⟩ fun outcome φ hmoves => ?_)
        exact ⟨outcome, reify_some (A := ControlResponse) outcome, hmoves⟩
      refine hdispatch.bind ?_ ?_
      · rintro outcome φ ⟨_, ⟨⟩, rfl⟩
        cases hframe : setting.responseFrame (request, outcome) with
        | error e =>
          show (Program.bind (done (setting.responseFrame (request, outcome))) _).Follows _ _ _
          rw [hframe]
          refine ⟨rfl, .inr fun d frame hd hd' => ?_⟩
          cases hd
          rw [hframe] at hd'
          cases hd'
        | ok frame =>
          show (Program.bind (done (setting.responseFrame (request, outcome))) _).Follows _ _ _
          rw [hframe, done_ok_bind]
          refine follows_call ⟨rfl, rfl, _, rfl, hframe⟩ fun reply φ hmoves => ?_
          cases reply with
          | ok u =>
            obtain rfl := hmoves
            refine ⟨rfl, .inr fun d frame' hd hd' => ?_⟩
            cases hd
            exact Except.ok.inj (hframe.symm.trans hd')
          | error e =>
            obtain ⟨part, rfl⟩ := hmoves
            exact ⟨rfl, .inl rfl⟩
      · rintro e φ ⟨_, ⟨⟩, -⟩
  · rintro e φ ⟨ρ, -, rfl⟩
    exact handlerEnds_of_did setting rfl rfl

theorem handleConnection_follows (n : ℕ) :
    (Connection.handleConnection setting.daemon setting.permittedUids).Follows
      (handlerProtocol setting n) (fun _ φ => HandlerEnds setting φ) .first := by
  unfold Connection.handleConnection
  refine follows_call_bind rfl ?_ ?_
  · rintro uid φ ⟨huid, rfl⟩
    cases huid
    split_ifs with hpermitted
    · have hserve : ((Connection.serveRequest setting.daemon).attempt Connection.rejected?).Follows
          (handlerProtocol setting n) (fun _ φ => HandlerEnds setting φ) .first :=
        Follows.attempt (serveRequest_follows setting hpermitted)
      exact hserve.bind (fun _ _ h => h) fun _ _ h => h
    · exact handlerEnds_of_did setting rfl rfl
  · rintro e φ ⟨he, -⟩
    cases he

/-! ## The parties -/

theorem clientCalls_follows {n : ℕ} {request : ControlRequest} (φ : Phase) (c : Cli.CliCall)
    (hmay : (clientProtocol setting request).may φ c) :
    (clientCalls n c).Follows (partyProtocol setting (.client n request))
      (fun reply φ' => (clientProtocol setting request).moves φ c reply φ') φ := by
  cases c with
  | connect =>
    obtain rfl := hmay
    refine follows_call ⟨rfl, rfl, rfl⟩ fun reply φ' hmoves => ?_
    cases reply <;> exact hmoves
  | sendall frame =>
    obtain ⟨rfl, hframe⟩ := hmay
    refine follows_call ⟨rfl, rfl, rfl, hframe⟩ fun reply φ' hmoves => ?_
    cases reply with
    | ok u => exact hmoves
    | error e =>
      obtain ⟨part, rest, -, rfl⟩ := hmoves
      exact ⟨part, rfl⟩
  | receive =>
    obtain ⟨hgot, hlost, hclosed, hframe⟩ := hmay
    exact receiveAt_follows setting hgot hlost fun ρ size hwants => ⟨rfl, hclosed, hframe, hwants⟩
  | uuid4 => exact hmay.elim
  | readText file => exact hmay.elim
  | print line => exact hmay.elim
  | printError line => exact hmay.elim

theorem handlerCalls_follows {n : ℕ} (φ : Phase) (c : Connection.ConnectionCall)
    (hmay : (handlerProtocol setting n).may φ c) :
    (handlerCalls n c).Follows (partyProtocol setting (.handler n))
      (fun reply φ' => (handlerProtocol setting n).moves φ c reply φ') φ := by
  cases c with
  | peerCredentials =>
    obtain rfl := hmay
    exact follows_call ⟨rfl, rfl⟩ fun reply φ' hmoves => hmoves
  | receive =>
    obtain ⟨rfl, huid⟩ := hmay
    exact receiveAt_follows setting rfl rfl fun ρ size hwants => ⟨rfl, rfl, huid, rfl, rfl, hwants⟩
  | dispatch request =>
    obtain ⟨hclosed, huid, hdid, hput, hlost, hpayload⟩ := hmay
    exact follows_call ⟨rfl, hclosed, huid, hdid, hput, hlost, hpayload⟩ fun reply φ' hmoves => hmoves
  | sendall frame =>
    obtain ⟨hclosed, hput, hd⟩ := hmay
    refine follows_call ⟨rfl, hclosed, hput, hd⟩ fun reply φ' hmoves => ?_
    cases reply with
    | ok u =>
      refine hmoves.trans ?_
      rw [hput, List.nil_append]
    | error e =>
      obtain ⟨part, rest, -, rfl⟩ := hmoves
      refine ⟨part, ?_⟩
      rw [hput, List.nil_append]

theorem arrived_length {got : List UInt8} {x : Except ControlError (List UInt8)} (h : Arrived got x) :
    4 ≤ got.length := by
  have hframe : ∀ {payload : List UInt8}, frameOf payload = .ok got → 4 ≤ got.length := by
    intro payload hpayload
    rw [(frameOf_eq_ok.mp hpayload).2, List.length_append, length_packSize]
    omega
  cases x with
  | ok payload => exact hframe h.2
  | error e =>
    obtain ⟨h, -⟩ | ⟨h, -⟩ := h
    · exact hframe h
    · omega

/-- **The parties keep to their protocol.** -/
theorem follows_program (r : Party) :
    (r.program setting).Follows (partyProtocol setting r) (Ending setting r) .first := by
  cases r with
  | client n request =>
    have hrequest : ((Cli.clientRequest setting.client request).inline (clientCalls n)).Follows
        (partyProtocol setting (.client n request)) (ClientEnds setting request) .first := by
      refine ((clientRequest_follows setting request).inline (T := Eq) rfl ?_).mono ?_
      · rintro ψ _ c rfl hmay
        exact (clientCalls_follows setting ψ c hmay).mono fun reply φ' h => ⟨φ', h, rfl⟩
      · rintro result φ ⟨_, h, rfl⟩
        exact h
    have hclose : (((Cli.clientRequest setting.client request).inline (clientCalls n)).finally_
        (call (I := parties) (.close ⟨n, .client⟩))).Follows (partyProtocol setting (.client n request))
          (fun result φ => φ.closed = true ∧ ((φ.lost = true ∧ ∃ e, result = .error e) ∨
            (φ.put = [] ∧ (∀ frame, setting.requestFrame request ≠ .ok frame) ∧
              ∃ e, result = .error e) ∨
            ∃ x, Arrived φ.got x ∧ result = concluded setting request x)) .first := by
      refine Follows.finally_ hrequest ?_
      rintro result φ ⟨hclosed, hends⟩
      refine follows_call ⟨rfl, hclosed, ?_⟩ ?_
      · obtain ⟨hlost, -⟩ | ⟨hput, hnone, -⟩ | ⟨x, harrived, -⟩ := hends
        · exact .inl hlost
        · exact .inr (.inr ⟨hput, hnone⟩)
        · exact .inr (.inl (arrived_length harrived))
      · rintro reply φ' ⟨rfl, rfl⟩
        exact ⟨rfl, hends⟩
    refine hclose.bind ?_ ?_
    · rintro response φ ⟨hclosed, ⟨-, e, he⟩ | ⟨-, -, e, he⟩ | ⟨x, harrived, hx⟩⟩
      · cases he
      · cases he
      · exact ⟨hclosed, .inr (.inr ⟨x, harrived, by rw [← hx]; rfl⟩)⟩
    · rintro e φ ⟨hclosed, ⟨hlost, -⟩ | ⟨hput, hnone, -⟩ | ⟨x, harrived, hx⟩⟩
      · exact ⟨hclosed, .inl ⟨hlost, e, rfl⟩⟩
      · exact ⟨hclosed, .inr (.inl ⟨hput, hnone, e, rfl⟩)⟩
      · exact ⟨hclosed, .inr (.inr ⟨x, harrived, by rw [← hx]; rfl⟩)⟩
  | handler n =>
    have hhandle : ((Connection.handleConnection setting.daemon setting.permittedUids).inline
        (handlerCalls n)).Follows (partyProtocol setting (.handler n))
          (fun _ φ => HandlerEnds setting φ) .first := by
      refine ((handleConnection_follows setting n).inline (T := Eq) rfl ?_).mono ?_
      · rintro ψ _ c rfl hmay
        exact (handlerCalls_follows setting ψ c hmay).mono fun reply φ' h => ⟨φ', h, rfl⟩
      · rintro result φ ⟨_, h, rfl⟩
        exact h
    have hclose : (((Connection.handleConnection setting.daemon setting.permittedUids).inline
        (handlerCalls n)).finally_ (call (I := parties) (.close ⟨n, .server⟩))).Follows
          (partyProtocol setting (.handler n)) (fun _ φ => φ.closed = true ∧ Answered setting φ)
            .first := by
      refine Follows.finally_ hhandle ?_
      rintro result φ ⟨hclosed, hanswered⟩
      refine follows_call ⟨rfl, hclosed, hanswered⟩ ?_
      rintro reply φ' ⟨rfl, rfl⟩
      exact ⟨rfl, hanswered⟩
    exact hclose.bind (fun _ _ h => h) fun _ _ h => h

end Snarkypuss.Channel
