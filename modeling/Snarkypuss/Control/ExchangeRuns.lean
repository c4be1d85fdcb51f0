import Snarkypuss.Control.Exchanges
import Snarkypuss.Control.Ideal

/-!
# Runs of the channel

What is dispatched on a connection is the request that its client asks, at most once, and only for a
peer that may use the daemon. What a client returns is what it reads in the response to that dispatch.
Unless something fails by itself or is stopped, a client and its handler can always come to their end,
and then the client is told what became of its request.

## Main definitions

* `dispatches`: what was dispatched on a connection
* `Setting.quiet`: no call fails by itself

## Main results

* `exchange_matched`: what is dispatched, and what a client returns
* `exchange_completes`: a client and its handler come to their end
* `exchange_reported`: a client is told what became of its request
-/

namespace Snarkypuss.Channel

open Program

/-- What was dispatched on a connection, in order. -/
def dispatches (n : ℕ) : List (Happening Party parties ControlError) → List Dispatched :=
  List.filterMap fun e =>
    match e with
    | .call _ (.dispatch m request) outcome => if m = n then some (request, outcome) else none
    | _ => none

variable {setting : Setting} {events : List (Happening Party parties ControlError)} {i k n : ℕ}
  {r : Party} {s t : Exchanges} {c : PartyCall} {reply : Except ControlError (parties.Reply c)}
  {M N : Machine Party parties ControlError Exchanges (Option ControlResponse)}
  {meets : Machine Party parties ControlError Exchanges (Option ControlResponse) →
    Happening Party parties ControlError →
      Machine Party parties ControlError Exchanges (Option ControlResponse) → Prop}

/-! ## What a run tells -/

theorem Answers.dispatched (h : Answers setting s c reply t) (n : ℕ) :
    t.dispatched n = s.dispatched n ++ dispatches n [.call i c reply] := by
  cases h with
  | dispatch m request outcome hraised =>
    by_cases hm : m = n
    · subst hm
      simp [dispatches]
    · simp [dispatches, hm, Function.update_of_ne (Ne.symm hm)]
  | _ => simp [dispatches]

theorem Answers.asked (h : Answers setting s c reply t) : t.asked = s.asked := by
  cases h <;> rfl

theorem Answers.stopped (h : Answers setting s c reply t) : t.stopped = s.stopped := by
  cases h <;> rfl

/-- A closed end stays closed. -/
theorem Answers.closed (h : Answers setting s c reply t) {e : Port}
    (hclosed : (s.ends e).closed = true) : (t.ends e).closed = true := by
  cases h with
  | recv e' size chunk rest hne hunread => simpa using hclosed
  | sendall e' bytes hopen => simpa using hclosed
  | sendFails e' bytes part rest x hpart hfails => simpa using hclosed
  | close e' =>
    by_cases he : e = e'
    · subst he
      simp
    · simpa [Ends.close_of_ne he] using hclosed
  | _ => exact hclosed

/-- What is known of the processes behind the connections. -/
structure Present (events : List (Happening Party parties ControlError))
    (N : Machine Party parties ControlError Exchanges (Option ControlResponse)) : Prop where
  dispatched : ∀ n, N.shared.dispatched n = dispatches n events
  client : ∀ n request, N.shared.asked n = some request →
    ∃ p ∈ N.processes, p.request = .client n request
  handler : ∀ n, N.shared.dispatched n ≠ [] → ∃ p ∈ N.processes, p.request = .handler n
  stopped : ∀ p ∈ N.processes, p.stopped = true →
    (N.shared.ends p.request.endpoint).closed = true ∧
      N.shared.stopped p.request.endpoint.connection = true

theorem dispatches_append (events events' : List (Happening Party parties ControlError)) :
    dispatches n (events ++ events') = dispatches n events ++ dispatches n events' :=
  List.filterMap_append

/-- A process that was there is there after a step, with its request. -/
theorem present_of_step {e : Happening Party parties ControlError}
    (hstep : (exchangeSystem setting).Step M e N) {r : Party}
    (h : ∃ p ∈ M.processes, p.request = r) : ∃ p ∈ N.processes, p.request = r := by
  obtain ⟨p, hp, rfl⟩ := h
  obtain ⟨k, hk⟩ := List.mem_iff_getElem?.mp hp
  obtain ⟨q, hq, hrequest⟩ := hstep.kept hk
  exact ⟨q, List.mem_of_getElem? hq, hrequest⟩

theorem Present.step {phase : ℕ → Phase} {e : Happening Party parties ControlError}
    (h : Present events M) (hM : (partyOutline setting).Holds M phase)
    (hstep : (exchangeSystem setting).Step M e N) : Present (events ++ [e]) N := by
  have hpresent := fun r => present_of_step (r := r) hstep
  cases hstep with
  | start r s' hstarts =>
    obtain ⟨hr, rfl⟩ := hstarts
    have hends : ∀ e, ((begun M.shared M.processes.length r).ends e).closed =
        (M.shared.ends e).closed := by
      intro e
      cases r <;> exact Ends.hold_closed
    have hdispatched : (begun M.shared M.processes.length r).dispatched = M.shared.dispatched := by
      cases r <;> rfl
    have hstopped : (begun M.shared M.processes.length r).stopped = M.shared.stopped := by
      cases r <;> rfl
    refine ⟨fun n => ?_, fun n request hasked => ?_, fun n hn => hpresent _ (h.handler n ?_),
      fun p hp hps => ?_⟩
    · rw [dispatches_append, hdispatched, h.dispatched n]
      exact (List.append_nil _).symm
    · cases r with
      | client m request' =>
        by_cases hm : n = m
        · subst hm
          have heq : (begun M.shared M.processes.length (.client n request')).asked n = some request' :=
            Function.update_self _ _ _
          cases heq.symm.trans hasked
          exact ⟨_, List.mem_append_right _ (List.mem_singleton_self _), rfl⟩
        · exact hpresent _ (h.client n request ((Function.update_of_ne hm _ _).symm.trans hasked))
      | handler m => exact hpresent _ (h.client n request hasked)
    · rw [← hdispatched]
      exact hn
    · rw [hends, hstopped]
      obtain hp | hp := List.mem_append.mp hp
      · exact h.stopped p hp hps
      · rw [List.mem_singleton.mp hp] at hps
        cases hps
  | call i r c next reply s' hi hanswers =>
    refine ⟨fun n => ?_, fun n request hasked => hpresent _ (h.client n request ?_), fun n hn => ?_,
      fun p hp hps => ?_⟩
    · rw [dispatches_append, ← h.dispatched n]
      exact Answers.dispatched hanswers n
    · rw [← Answers.asked hanswers]
      exact hasked
    · -- what is dispatched, a handler of the connection dispatches
      by_cases hr : r = .handler n
      · exact hpresent _ ⟨_, List.mem_of_getElem? hi, hr⟩
      · refine hpresent _ (h.handler n ?_)
        rw [← (acts (hM.may hi) hanswers).dispatched n hr]
        exact hn
    · rw [Answers.stopped hanswers]
      rcases List.mem_or_eq_of_mem_set hp with hp | rfl
      · obtain ⟨hclosed, hstopped⟩ := h.stopped p hp hps
        exact ⟨Answers.closed hanswers hclosed, hstopped⟩
      · cases hps
  | stop i r c next hi =>
    refine ⟨fun n => ?_, fun n request hasked => hpresent _ (h.client n request hasked),
      fun n hn => hpresent _ (h.handler n hn), fun p hp hps => ?_⟩
    · rw [dispatches_append]
      exact (h.dispatched n).trans (List.append_nil _).symm
    · rcases List.mem_or_eq_of_mem_set hp with hp | rfl
      · obtain ⟨hclosed, hstopped⟩ := h.stopped p hp hps
        refine ⟨Ends.release_closed hclosed, ?_⟩
        show (M.shared.release i).stopped _ = true
        simp [Exchanges.release, hstopped]
      · -- the ends of the process that is stopped are closed
        have hholder := (hM.asserted i _ hi rfl).1.holder
        refine ⟨?_, Exchanges.stopped_release hholder⟩
        show (M.shared.ends.release i r.endpoint).closed = true
        rw [Ends.release_of_eq hholder]

/-- Nothing holds of no connections that the phases could contradict. -/
theorem holds_none (setting : Setting) (phase : ℕ → Phase) :
    (partyOutline setting).Holds ⟨.none, []⟩ phase where
  sound := by
    refine ⟨fun e => Nat.zero_le _, fun n => ⟨.inl rfl, fun _ => rfl, fun d hd => ?_, fun h => ?_⟩⟩
    · cases hd
    · cases h
  follows i p hi := by cases hi
  asserted i p hi := by cases hi
  compatible i k p q hi := by cases hi

/-- **What a run tells**: the phases of its parties, and the processes behind the connections. -/
theorem exists_phases (run : (exchangeSystem setting).Run meets ⟨.none, []⟩ events N) :
    ∃ phase, (partyOutline setting).Holds N phase ∧ Present events N := by
  refine partyOutline_valid.run (K := fun events N _ => Present events N) run
    (holds_none setting fun _ => .first) ?_ ?_
  · refine ⟨fun n => rfl, fun n request h => ?_, fun n h => absurd rfl h, fun p hp => ?_⟩
    · cases h
    · cases hp
  · exact fun events M phase e N phase' _ hstep hM _ _ h => h.step hM hstep

/-! ## An exchange, byte by byte -/

/-- A party that may begin. -/
def begins (M : Machine Party parties ControlError Exchanges (Option ControlResponse)) (r : Party) :
    Option Exchanges :=
  match r with
  | .client n request =>
    if M.shared.ends ⟨n, .client⟩ = .fresh then
      some (begun M.shared M.processes.length (.client n request))
    else none
  | .handler n =>
    if M.shared.ends ⟨n, .server⟩ = .fresh ∧ M.shared.opened n = true then
      some (begun M.shared M.processes.length (.handler n))
    else none

/-- Answers with no failures, the bytes one at a time. -/
def bytewise (setting : Setting) (respond : ControlRequest → ControlResponse) (_ : ℕ) (c : PartyCall)
    (s : Exchanges) : Option (Except ControlError (parties.Reply c) × Exchanges) :=
  match c with
  | .connect n => some (.ok (), { s with opened := Function.update s.opened n true })
  | .peerCredentials n => some (.ok (setting.uid n), s)
  | .recv _ 0 => none
  | .recv e (size + 1) =>
    match s.ends.unread e with
    | [] => if (s.ends e.peer).closed = true then some (.ok ⟨[], Nat.zero_le _⟩, s) else none
    | b :: _ => some (.ok ⟨[b], Nat.succ_le_succ (Nat.zero_le size)⟩, { s with ends := s.ends.advance e 1 })
  | .sendall e bytes =>
    if (s.ends e.peer).closed = false then some (.ok (), { s with ends := s.ends.write e bytes }) else none
  | .close e => some (.ok (), { s with ends := s.ends.close e })
  | .dispatch n request => some (.ok (respond request), { s with
      dispatched := Function.update s.dispatched n (s.dispatched n ++ [(request, .ok (respond request))]) })
  | .host _ => none

theorem begins_starts (M : Machine Party parties ControlError Exchanges (Option ControlResponse))
    (r : Party) (s : Exchanges) (h : begins M r = some s) : (exchangeSystem setting).starts M r s := by
  cases r with
  | client n request =>
    simp only [begins] at h
    split_ifs at h with hfresh
    cases h
    exact ⟨⟨hfresh, fun m hm => by cases hm⟩, rfl⟩
  | handler n =>
    simp only [begins] at h
    split_ifs at h with hfresh
    cases h
    refine ⟨⟨hfresh.1, fun m hm => ?_⟩, rfl⟩
    cases hm
    exact hfresh.2

theorem bytewise_answers (respond : ControlRequest → ControlResponse) (i : ℕ) (c : PartyCall)
    (s : Exchanges) (reply : Except ControlError (parties.Reply c)) (t : Exchanges)
    (h : bytewise setting respond i c s = some (reply, t)) :
    (exchangeSystem setting).answers i c s reply t := by
  cases c with
  | connect n =>
    cases h
    exact .connect n
  | peerCredentials n =>
    cases h
    exact .peerCredentials n
  | recv e size =>
    cases size with
    | zero => cases h
    | succ size =>
      simp only [bytewise] at h
      split at h
      · rename_i hunread
        split_ifs at h with hclosed
        cases h
        exact .recvEnd e _ hunread hclosed
      · rename_i b rest hunread
        cases h
        exact .recv e _ ⟨[b], Nat.succ_le_succ (Nat.zero_le size)⟩ rest (List.cons_ne_nil _ _) hunread
  | sendall e bytes =>
    simp only [bytewise] at h
    split_ifs at h with hopen
    cases h
    exact .sendall e bytes hopen
  | close e =>
    cases h
    exact .close e
  | dispatch n request =>
    cases h
    exact .dispatch n request _ fun e he => by cases he
  | host c => cases h

/-- A request for the status, and a response that refuses it. -/
def asking : ControlRequest := ⟨idealRequestId, .statusRequest⟩

def refusing : ControlResponse := .refusal asking.requestId "CATALOG_CONFLICT" "the catalogue changed"

/-- Both are written as an empty object. -/
def emptyObjects : Setting where
  client := {
    interpreter := ⟨64, Python.least_maxDepth⟩
    validateResponse := fun _ => some refusing
    validateReplacement := fun _ => none
    dumpRequest := fun _ => [123, 125]
    dumpResponse := fun _ => ""
    dumpCatalog := fun _ => ""
    dumpSchema := fun _ => ""
    dumpDocument := fun _ _ _ => ""
    dumpFailure := fun _ _ => ""
    formatLoad := fun _ => ""
    formatAmount := fun _ => "" }
  daemon := {
    interpreter := ⟨64, Python.least_maxDepth⟩
    validateRequest := fun _ => some asking
    dumpResponse := fun _ => [123, 125] }
  permittedUids := [0]
  uid := fun _ => 0
  fails := fun _ => False

/-- A client asks, its handler answers it byte by byte, and the client reads the answer. -/
def oneExchange : List (Turn Party) :=
  [.start (.client 0 asking), .call 0, .call 0, .start (.handler 0)] ++ List.replicate 10 (.call 1) ++
    List.replicate 7 (.call 0)

/-- The state to which some turns lead. -/
def after (turns : List (Turn Party)) :
    Option (List (Happening Party parties ControlError) ×
      Machine Party parties ControlError Exchanges (Option ControlResponse)) :=
  System.schedule (exchangeSystem emptyObjects) begins (bytewise emptyObjects fun _ => refusing)
    ⟨.none, []⟩ turns

theorem run_after {turns : List (Turn Party)} {x : List (Happening Party parties ControlError) ×
      Machine Party parties ControlError Exchanges (Option ControlResponse)}
    (h : after turns = some x) :
    (exchangeSystem emptyObjects).Run (fun _ _ _ => True) ⟨.none, []⟩ x.1 x.2 :=
  System.run_schedule begins_starts (bytewise_answers fun _ => refusing) h

theorem after_oneExchange : ∃ x, after oneExchange = some x ∧
    x.2.processes[0]? = some ⟨.client 0 asking, .done (.ok (some refusing)), false⟩ ∧
    x.2.shared.stopped 0 = false ∧ dispatches 0 x.1 = [(asking, .ok refusing)] := ⟨_, rfl, rfl, rfl, rfl⟩

/-! ## What a client returns -/

/-- What a client returns it has read in a payload. -/
theorem concluded_eq_ok {request : ControlRequest} {x : Except ControlError (List UInt8)}
    {response : ControlResponse} (h : concluded setting request x = .ok response) :
    ∃ payload, x = .ok payload ∧ Cli.parseResponse setting.client payload = .ok response ∧
      response.requestId = request.requestId := by
  have hfailed : ∀ e : ControlError, (reify Cli.clientFailure? (.error e : Except ControlError
      ControlResponse)).bind (Cli.correlate request) ≠ .ok response := by
    intro e heq
    obtain ⟨e', he'⟩ := correlated_error request e
    cases he'.symm.trans heq
  cases x with
  | error e => exact absurd h (hfailed e)
  | ok payload =>
    refine ⟨payload, rfl, ?_⟩
    have h : (reify Cli.clientFailure? (Cli.parseResponse setting.client payload)).bind
      (Cli.correlate request) = .ok response := h
    cases hparse : Cli.parseResponse setting.client payload with
    | error e =>
      rw [hparse] at h
      exact absurd h (hfailed e)
    | ok parsed =>
      rw [hparse] at h
      have h : Cli.correlate request (.ok parsed) = .ok response := h
      simp only [Cli.correlate] at h
      split_ifs at h with hid
      cases h
      exact ⟨rfl, hid⟩

/-- A frame of which something arrived is that of a response to what was dispatched. -/
theorem Exchanges.Sound.answered (h : s.Sound setting) {payload frame : List UInt8}
    (hframe : frameOf payload = .ok frame) (hgot : s.ends.got ⟨n, .client⟩ = frame) :
    ∃ d, s.dispatched n = [d] ∧ setting.responseFrame d = .ok frame ∧
      payload = setting.daemon.dumpResponse (Connection.responseTo d.1.requestId d.2) := by
  have hbegins : s.ends.got ⟨n, .client⟩ <+: (s.ends ⟨n, .server⟩).written := Ends.got_prefix
  have hne : (s.ends ⟨n, .server⟩).written ≠ [] := by
    intro hnil
    rw [hnil, List.prefix_nil, hgot] at hbegins
    exact frame_ne_nil hframe hbegins
  obtain ⟨d, hd⟩ := List.exists_mem_of_ne_nil _ fun hnil => hne ((h.at_ n).idle hnil)
  obtain ⟨halone, -, -, hnil | ⟨frame', hframe', hwritten⟩⟩ := (h.at_ n).handled d hd
  · exact absurd hnil hne
  · obtain rfl := frame_inj hframe hframe' (hgot ▸ hbegins.trans hwritten)
    exact ⟨d, halone, hframe, rfl⟩

/-- **What is dispatched, and what a client returns.** On a connection one request is dispatched at
most: the one that its client asks, as the daemon reads what the client wrote, and only for a peer
that may use the daemon. A client that returns a response read it in what the daemon wrote of the
outcome of that dispatch. -/
theorem exchange_matched (run : (exchangeSystem setting).Run meets ⟨.none, []⟩ events N) :
    (∀ n, ∀ d ∈ dispatches n events, dispatches n events = [d] ∧
      setting.uid n ∈ setting.permittedUids ∧ ∃ request, (∃ p ∈ N.processes, p.request = .client n request) ∧
        Connection.parseRequest setting.daemon (setting.client.dumpRequest request) = .ok d.1) ∧
    ∀ (i n : ℕ) (request : ControlRequest) (response : ControlResponse),
      N.processes[i]? = some ⟨.client n request, .done (.ok (some response)), false⟩ →
        ∃ d, dispatches n events = [d] ∧
          Connection.parseRequest setting.daemon (setting.client.dumpRequest request) = .ok d.1 ∧
          Cli.parseResponse setting.client
            (setting.daemon.dumpResponse (Connection.responseTo d.1.requestId d.2)) = .ok response ∧
          response.requestId = request.requestId := by
  obtain ⟨phase, hN, hpresent⟩ := exists_phases run
  constructor
  · intro n d hd
    rw [← hpresent.dispatched] at hd ⊢
    obtain ⟨halone, hpermitted, -, -⟩ := (hN.sound.at_ n).handled d hd
    obtain ⟨request, frame, hasked, -, -, -, hparse⟩ := hN.sound.asked hd
    exact ⟨halone, hpermitted, request, hpresent.client n request hasked, hparse⟩
  · intro i n request response hi
    obtain ⟨-, hends⟩ : Ending setting (.client n request) (.ok (some response)) (phase i) :=
      hN.follows i _ hi
    obtain ⟨hat, hasked, -⟩ := hN.asserted i _ hi rfl
    obtain ⟨-, e, he⟩ | ⟨-, -, e, he⟩ | ⟨x, harrived, hx⟩ := hends
    · cases he
    · cases he
    -- what arrived is a payload, and the daemon wrote nothing but the response
    have hconcluded : concluded setting request x = .ok response := by
      cases hr : concluded setting request x with
      | error e =>
        rw [hr] at hx
        cases hx
      | ok response' =>
        rw [hr] at hx
        cases hx
        rfl
    obtain ⟨payload, rfl, hparse, hid⟩ := concluded_eq_ok hconcluded
    obtain ⟨d, hd, -, rfl⟩ := hN.sound.answered harrived.2 hat.got
    obtain ⟨request', -, hasked', -, -, -, hrequest⟩ :=
      hN.sound.asked (d := d) (by rw [hd]; exact List.mem_singleton_self d)
    obtain rfl : request = request' := Option.some.inj (hasked.symm.trans hasked')
    exact ⟨d, by rw [← hpresent.dispatched, hd], hrequest, hparse, hid⟩

theorem exchange_matched_oneExchange : ∃ x, after oneExchange = some x ∧
    ∃ d, dispatches 0 x.1 = [d] ∧
      Connection.parseRequest emptyObjects.daemon (emptyObjects.client.dumpRequest asking) = .ok d.1 ∧
      Cli.parseResponse emptyObjects.client (emptyObjects.daemon.dumpResponse
        (Connection.responseTo d.1.requestId d.2)) = .ok refusing ∧
      refusing.requestId = asking.requestId := by
  obtain ⟨x, hx, hi, -, -⟩ := after_oneExchange
  exact ⟨x, hx, (exchange_matched (run_after hx)).2 0 0 asking refusing hi⟩

/-! ## Coming to an end -/

/-- No call fails by itself. -/
def Setting.quiet (setting : Setting) : Setting := { setting with fails := fun _ => False }

/-- What happens when no call fails by itself may happen. -/
theorem Answers.quiet (h : Answers setting.quiet s c reply t) : Answers setting s c reply t := by
  cases h with
  | connect n => exact .connect n
  | connectFails n e hfails => exact hfails.elim
  | peerCredentials n => exact .peerCredentials n
  | recv e size chunk rest hne hunread => exact .recv e size chunk rest hne hunread
  | recvEnd e size hunread hclosed => exact .recvEnd e size hunread hclosed
  | recvFails e size x hfails => exact .recvFails e size x (.inr (hfails.resolve_left False.elim))
  | sendall e bytes hopen => exact .sendall e bytes hopen
  | sendFails e bytes part rest x hpart hfails =>
    exact .sendFails e bytes part rest x hpart (.inr (hfails.resolve_left False.elim))
  | close e => exact .close e
  | dispatch n request outcome hraised => exact .dispatch n request outcome hraised
  | host c reply => exact .host c reply

theorem step_quiet {e : Happening Party parties ControlError}
    (hstep : (exchangeSystem setting.quiet).Step M e N) : (exchangeSystem setting).Step M e N := by
  cases hstep with
  | start r s' hstarts => exact .start M r s' hstarts
  | call i r c next reply s' hi hanswers => exact .call M i r c next reply s' hi (Answers.quiet hanswers)
  | stop i r c next hi => exact .stop M i r c next hi

/-- A call is answered, unless it waits for bytes of a peer that has not closed its end. -/
theorem exists_answer {φ : Phase} (hmay : (partyProtocol setting r).may φ c)
    (hwaits : ∀ size, c = .recv r.endpoint size →
      s.ends.unread r.endpoint ≠ [] ∨ (s.ends r.endpoint.peer).closed = true) :
    ∃ reply t, Answers setting.quiet s c reply t := by
  have hat := may_isAt hmay
  cases c with
  | connect n => exact ⟨_, _, .connect n⟩
  | peerCredentials n => exact ⟨_, _, .peerCredentials n⟩
  | recv e size =>
    obtain rfl : e = r.endpoint := hat
    obtain hunread | hclosed := hwaits size rfl
    · have hpos : 0 < size := by
        cases r with
        | client n request => exact hmay.2.2.2.1
        | handler n => exact hmay.2.2.2.2.2.1
      obtain ⟨b, rest, hb⟩ := List.exists_cons_of_ne_nil hunread
      exact ⟨_, _, .recv r.endpoint size ⟨[b], hpos⟩ rest (List.cons_ne_nil _ _) hb⟩
    · by_cases hunread : s.ends.unread r.endpoint = []
      · exact ⟨_, _, .recvEnd r.endpoint size hunread hclosed⟩
      · have hpos : 0 < size := by
          cases r with
          | client n request => exact hmay.2.2.2.1
          | handler n => exact hmay.2.2.2.2.2.1
        obtain ⟨b, rest, hb⟩ := List.exists_cons_of_ne_nil hunread
        exact ⟨_, _, .recv r.endpoint size ⟨[b], hpos⟩ rest (List.cons_ne_nil _ _) hb⟩
  | sendall e bytes =>
    cases hclosed : (s.ends e.peer).closed with
    | false => exact ⟨_, _, .sendall e bytes hclosed⟩
    | true => exact ⟨_, _, .sendFails e bytes [] bytes .connectionReset rfl (.inr hclosed)⟩
  | close e => exact ⟨_, _, .close e⟩
  | dispatch n request =>
    exact ⟨.ok (.refusal request.requestId "" ""), _, .dispatch n request _ fun e he => by cases he⟩
  | host c =>
    cases r <;> exact hmay.elim

/-- A process that has come to its end, or was stopped, has closed its end of the connection. -/
theorem closed_of_not_running {phase : ℕ → Phase} (hN : (partyOutline setting).Holds N phase)
    (hpresent : Present events N) {p : Program parties ControlError (Option ControlResponse)} {b : Bool}
    (hi : N.processes[i]? = some ⟨r, p, b⟩) (hend : ¬ N.Running i) :
    (N.shared.ends r.endpoint).closed = true := by
  cases b with
  | true => exact (hpresent.stopped _ (List.mem_of_getElem? hi) rfl).1
  | false =>
    cases p with
    | done result =>
      have hends : Ending setting r result (phase i) := hN.follows i _ hi
      exact (hN.asserted i _ hi rfl).1.closed.trans hends.1
    | ask c next => exact absurd ⟨r, c, next, hi⟩ hend

/-- A party that has yet to make a call makes it, unless it waits for its peer. -/
theorem exists_step {phase : ℕ → Phase} (hN : (partyOutline setting).Holds N phase)
    {next : Except ControlError (parties.Reply c) → Program parties ControlError (Option ControlResponse)}
    (hi : N.processes[i]? = some ⟨r, .ask c next, false⟩)
    (hwaits : ∀ size, c = .recv r.endpoint size →
      N.shared.ends.unread r.endpoint ≠ [] ∨ (N.shared.ends r.endpoint.peer).closed = true) :
    ∃ reply N', (exchangeSystem setting.quiet).Step N (.call i c reply) N' := by
  obtain ⟨reply, t, hanswers⟩ := exists_answer (hN.may hi) hwaits
  exact ⟨reply, _, .call N i r c next reply t hi hanswers⟩

/-- **A client and its handler are never stuck.** If both waited, the daemon would have read the frame
of the request, of which nothing more is wanted. -/
theorem never_stuck {phase : ℕ → Phase} (hN : (partyOutline setting).Holds N phase)
    (hpresent : Present events N) {request : ControlRequest}
    {p q : Program parties ControlError (Option ControlResponse)} {b b' : Bool}
    (hi : N.processes[i]? = some ⟨.client n request, p, b⟩)
    (hk : N.processes[k]? = some ⟨.handler n, q, b'⟩) (hrun : N.Running i ∨ N.Running k) :
    ∃ j c reply N', (j = i ∨ j = k) ∧
      (exchangeSystem setting.quiet).Step N (.call j c reply) N' := by
  -- a handler with a closed client goes on, and a client with a closed handler
  have hhandler : N.Running k → (∀ c next, N.processes[k]? = some ⟨.handler n, .ask c next, false⟩ →
      ∀ size, c = .recv ⟨n, .server⟩ size → N.shared.ends.unread ⟨n, .server⟩ ≠ [] ∨
        (N.shared.ends ⟨n, .client⟩).closed = true) →
      ∃ j c reply N', (j = i ∨ j = k) ∧ (exchangeSystem setting.quiet).Step N (.call j c reply) N' := by
    rintro ⟨r, c, next, hk'⟩ hwaits
    cases hk.symm.trans hk'
    obtain ⟨reply, N', hstep⟩ := exists_step hN hk' (hwaits c next hk')
    exact ⟨k, c, reply, N', .inr rfl, hstep⟩
  by_cases hruni : N.Running i
  · obtain ⟨r, c, next, hi'⟩ := hruni
    cases hi.symm.trans hi'
    by_cases hwaits : ∀ size, c = .recv ⟨n, .client⟩ size →
        N.shared.ends.unread ⟨n, .client⟩ ≠ [] ∨ (N.shared.ends ⟨n, .server⟩).closed = true
    · obtain ⟨reply, N', hstep⟩ := exists_step hN hi' hwaits
      exact ⟨i, c, reply, N', .inl rfl, hstep⟩
    · push Not at hwaits
      obtain ⟨size, rfl, -, hopen⟩ := hwaits
      have hrunk : N.Running k := by
        by_contra hend
        exact hopen (closed_of_not_running hN hpresent hk hend)
      refine hhandler hrunk fun c' next' hk' size' hc' => ?_
      subst hc'
      obtain ⟨-, -, hframe, -⟩ := hN.may hi'
      obtain ⟨-, -, -, -, -, hwants⟩ := hN.may hk'
      by_contra hstuck
      push Not at hstuck
      refine not_wants hframe size' ?_
      have hgot : N.shared.ends.got ⟨n, .server⟩ = (N.shared.ends ⟨n, .client⟩).written :=
        Ends.got_of_unread hstuck.1
      have hput := (hN.asserted i _ hi' rfl).1.written
      have hread := (hN.asserted k _ hk' rfl).1.got
      rw [← hput]
      show Wants (N.shared.ends ⟨n, .client⟩).written size'
      rw [← hgot, show N.shared.ends.got ⟨n, .server⟩ = (phase k).got from hread]
      exact hwants
  · exact hhandler (hrun.resolve_left hruni) fun c next _ size _ =>
      .inr (closed_of_not_running hN hpresent hi hruni)

/-- An event is a call of one of two processes. -/
def CallOf (i k : ℕ) : Happening Party parties ControlError → Prop
  | .call j _ _ => j = i ∨ j = k
  | _ => False

/-- A client and its handler, at some point of a run. -/
def Going (setting : Setting) (n : ℕ) (request : ControlRequest) (i k : ℕ)
    (M : Machine Party parties ControlError Exchanges (Option ControlResponse)) : Prop :=
  ∃ phase events, (partyOutline setting).Holds M phase ∧ Present events M ∧
    (∃ p b, M.processes[i]? = some ⟨.client n request, p, b⟩) ∧
      ∃ q b, M.processes[k]? = some ⟨.handler n, q, b⟩

/-- **A client and its handler come to their end.** From every state of every run, their calls alone
lead to a state in which neither has a call to make, although none of them fails by itself. -/
theorem exchange_completes (run : (exchangeSystem setting).Run meets ⟨.none, []⟩ events N)
    {request : ControlRequest} {p q : Program parties ControlError (Option ControlResponse)}
    {b b' : Bool} (hi : N.processes[i]? = some ⟨.client n request, p, b⟩)
    (hk : N.processes[k]? = some ⟨.handler n, q, b'⟩) :
    ∃ events' N', (exchangeSystem setting.quiet).Run (fun _ e _ => CallOf i k e) N events' N' ∧
      ¬ N'.Running i ∧ ¬ N'.Running k := by
  obtain ⟨phase, hN, hpresent⟩ := exists_phases run
  have hik : i ≠ k := by
    rintro rfl
    cases hi.symm.trans hk
  -- the phases, and who the two processes are, are kept by every step
  have hgo : ∀ M, Going setting n request i k M → M.Running i ∨ M.Running k → ∃ j c reply M',
      (j = i ∨ j = k) ∧ (exchangeSystem setting.quiet).Step M (.call j c reply) M' ∧
        CallOf i k (.call j c reply) ∧ Going setting n request i k M' := by
    rintro M ⟨phase, events, hM, hpresent, ⟨p, b, hi⟩, q, b', hk⟩ hrun
    obtain ⟨j, c, reply, M', hj, hstep⟩ := never_stuck hM hpresent hi hk hrun
    obtain ⟨phase', -, hM'⟩ := partyOutline_valid.step hM (step_quiet hstep)
    obtain ⟨⟨r, p', b₁⟩, hi', hr⟩ := hstep.kept hi
    obtain ⟨⟨r', q', b₂⟩, hk', hr'⟩ := hstep.kept hk
    obtain rfl : r = .client n request := hr
    obtain rfl : r' = .handler n := hr'
    exact ⟨j, c, reply, M', hj, hstep, hj, phase', _, hM', hpresent.step hM (step_quiet hstep),
      ⟨p', b₁, hi'⟩, q', b₂, hk'⟩
  have hcompletes : ∃ events' N', (exchangeSystem setting.quiet).Run (fun _ e _ => CallOf i k e) N
      events' N' ∧ Going setting n request i k N' ∧ ¬ N'.Running i ∧ ¬ N'.Running k :=
    System.completes hgo hik ⟨phase, events, hN, hpresent, ⟨p, b, hi⟩, q, b', hk⟩ hi hk
  obtain ⟨events', N', run', -, hend⟩ := hcompletes
  exact ⟨events', N', run', hend⟩

theorem exchange_completes_oneExchange : ∃ x, after (oneExchange.take 8) = some x ∧ ∃ events N,
    (exchangeSystem emptyObjects.quiet).Run (fun _ e _ => CallOf 0 1 e) x.2 events N ∧
      ¬ N.Running 0 ∧ ¬ N.Running 1 := by
  obtain ⟨x, hx, ⟨p, hi⟩, q, hk⟩ : ∃ x, after (oneExchange.take 8) = some x ∧
      (∃ p, x.2.processes[0]? = some ⟨.client 0 asking, p, false⟩) ∧
        ∃ q, x.2.processes[1]? = some ⟨.handler 0, q, false⟩ := ⟨_, rfl, ⟨_, rfl⟩, _, rfl⟩
  exact ⟨x, hx, exchange_completes (run_after hx) hi hk⟩

/-! ## What a client is told -/

/-- A payload as it arrives. -/
def arriving (payload : List UInt8) : Except ControlError (List UInt8) :=
  if payload = [] then .error (protocolError "request payload is empty") else .ok payload

/-- **A client is told what became of its request.** Unless a call at its connection may fail by itself
or a party of it was stopped, a client that has come to its end after a request was dispatched on its
connection has read the response to it, if that fits a frame. -/
theorem exchange_reported (run : (exchangeSystem setting).Run meets ⟨.none, []⟩ events N)
    {request : ControlRequest} {result : Except ControlError (Option ControlResponse)}
    (hi : N.processes[i]? = some ⟨.client n request, .done result, false⟩)
    (hcalm : ¬ N.shared.Disturbed setting n) {d : Dispatched} (hd : d ∈ dispatches n events)
    {frame : List UInt8} (hframe : setting.responseFrame d = .ok frame) :
    result = (concluded setting request (arriving (setting.daemon.dumpResponse
      (Connection.responseTo d.1.requestId d.2)))).map some := by
  obtain ⟨phase, hN, hpresent⟩ := exists_phases run
  rw [← hpresent.dispatched] at hd
  have halone := ((hN.sound.at_ n).handled d hd).alone
  obtain ⟨-, hends⟩ : Ending setting (.client n request) result (phase i) := hN.follows i _ hi
  obtain ⟨hat, -, hlost⟩ := hN.asserted i _ hi rfl
  obtain ⟨hl, -⟩ | ⟨hput, -⟩ | ⟨x, harrived, rfl⟩ := hends
  · -- the handler closed its end without a whole response
    obtain hdisturbed | ⟨hclosed, hrefused⟩ := hlost hl
    · exact absurd hdisturbed hcalm
    exfalso
    obtain ⟨q, hq, hrequest⟩ := hpresent.handler n (List.ne_nil_of_mem hd)
    obtain ⟨k, hk⟩ := List.mem_iff_getElem?.mp hq
    obtain ⟨r, q, b⟩ := q
    obtain rfl : r = .handler n := hrequest
    cases b with
    | true => exact hcalm (.inr (hpresent.stopped _ hq rfl).2)
    | false =>
      obtain ⟨hatk, hdid, hlostk⟩ := hN.asserted k _ hk rfl
      cases q with
      | ask c next =>
        have hopen := may_open (hN.may hk)
        have hclosed' : (phase k).closed = true := hatk.closed.symm.trans hclosed
        rw [hopen] at hclosed'
        cases hclosed'
      | done result' =>
        obtain ⟨-, hl' | hanswered⟩ : Ending setting (.handler n) result' (phase k) := hN.follows k _ hk
        · obtain hdisturbed | hnil := hlostk hl'
          · exact hcalm hdisturbed
          · rw [hdid, hnil] at hd
            cases hd
        · exact hrefused d frame halone hframe
            (hatk.written.trans (hanswered d frame (hdid.symm.trans halone) hframe))
  · -- a client that wrote nothing has had nothing dispatched
    have hnil := hN.sound.dispatched_nil (n := n) (hat.written.trans hput)
    rw [hnil] at hd
    cases hd
  · have hbegins : N.shared.ends.got ⟨n, .client⟩ <+: (N.shared.ends ⟨n, .server⟩).written :=
      Ends.got_prefix
    have hgot : N.shared.ends.got ⟨n, .client⟩ = (phase i).got := hat.got
    have hwritten : (phase i).got <+: frame := by
      obtain hnil | ⟨frame', hframe', hwritten⟩ := ((hN.sound.at_ n).handled d hd).written
      · rw [hnil, List.prefix_nil, hgot] at hbegins
        rw [hbegins]
        exact List.nil_prefix
      · cases hframe.symm.trans hframe'
        exact hgot ▸ hbegins.trans hwritten
    cases x with
    | ok payload =>
      obtain rfl := frame_inj harrived.2 hframe hwritten
      rw [arriving, if_neg harrived.1]
    | error e =>
      obtain ⟨hempty, rfl⟩ | ⟨hlength, hlarge⟩ := harrived
      · rw [arriving, if_pos (frame_inj hempty hframe hwritten).symm]
      · -- the header that arrived is that of a response, which is not too large
        obtain ⟨hmax, rfl⟩ := frameOf_eq_ok.mp hframe
        have hlimit : maxMessageSize < 2 ^ 32 := by decide
        have hheader := (List.prefix_of_prefix_length_le hwritten (List.prefix_append _ _)
          (by rw [hlength, length_packSize])).eq_of_length (by rw [hlength, length_packSize])
        rw [hheader, unpackSize_packSize (by omega)] at hlarge
        omega

theorem exchange_reported_oneExchange : (.ok (some refusing) : Except ControlError _) =
    (concluded emptyObjects asking (arriving (emptyObjects.daemon.dumpResponse
      (Connection.responseTo asking.requestId (.ok refusing))))).map some := by
  obtain ⟨x, hx, hi, hstopped, hd⟩ := after_oneExchange
  have hcalm : ¬ x.2.shared.Disturbed emptyObjects 0 := by
    rintro (hfails | hs)
    · exact hfails
    · rw [hstopped] at hs
      cases hs
  exact exchange_reported (run_after hx) hi hcalm (d := (asking, .ok refusing))
    (by rw [hd]; exact List.mem_singleton_self _) rfl

end Snarkypuss.Channel
