import Snarkypuss.Calls.Schedules
import Snarkypuss.Calls.Streams
import Snarkypuss.Cli.Commands
import Snarkypuss.Control.Handling

/-!
# The channel between clients and the daemon

A client opens a connection for its request, and the daemon has a handler for each. Both run at the
same time. The bytes that one writes reach the other in pieces of any size, at any time; a call may
fail with an error of the socket, and either may be stopped, which closes its end.

Each party is in a phase that tells what it has got, what it has put, which requests it has dispatched
and whether it has closed its end.

## Main definitions

* `PartyCall`, `parties`: the calls of clients and handlers
* `Party`, `Party.program`: `ControlClient.request` and `_handle_and_close`
* `Exchanges`, `Answers`, `exchangeSystem`: the ends of all connections, and how calls are answered
* `Phase`, `partyProtocol`: what a party has done, and what it may do next

## Main results

* `receiveFrame_follows`: what a receiver returns is the payload of the frame that it got
* `clientRequest_follows`, `handleConnection_follows`: the parties keep to their protocol
-/

namespace Snarkypuss.Channel

open Program

/-! ## Calls -/

/-- A call of a client or of a handler. `host` is what a command does beside its connection. -/
inductive PartyCall
  | connect (n : ℕ)
  | peerCredentials (n : ℕ)
  | recv (e : Port) (size : ℕ)
  | sendall (e : Port) (bytes : List UInt8)
  | close (e : Port)
  | dispatch (n : ℕ) (request : ControlRequest)
  | host (c : Cli.CliCall)

/-- The calls with the types of their replies. -/
def parties : Interface where
  Call := PartyCall
  Reply
    | .peerCredentials _ => ℕ
    | .recv _ size => {chunk : List UInt8 // chunk.length ≤ size}
    | .dispatch _ _ => ControlResponse
    | .host c => Cli.cliCalls.Reply c
    | .connect _ | .sendall _ _ | .close _ => Unit

/-- `receive_frame` at an end. -/
def receiveAt (e : Port) : Program parties ControlError (List UInt8) :=
  receiveFrame.inline fun size => call (I := parties) (.recv e size)

/-- The calls of a client on its connection. -/
def clientCalls (n : ℕ) : (c : Cli.CliCall) → Program parties ControlError (Cli.cliCalls.Reply c)
  | .connect => call (I := parties) (.connect n)
  | .sendall frame => call (I := parties) (.sendall ⟨n, .client⟩ frame)
  | .receive => receiveAt ⟨n, .client⟩
  | .uuid4 => call (I := parties) (.host .uuid4)
  | .readText file => call (I := parties) (.host (.readText file))
  | .print line => call (I := parties) (.host (.print line))
  | .printError line => call (I := parties) (.host (.printError line))

/-- The calls of a handler on its connection. -/
def handlerCalls (n : ℕ) :
    (c : Connection.ConnectionCall) → Program parties ControlError (Connection.connectionCalls.Reply c)
  | .peerCredentials => call (I := parties) (.peerCredentials n)
  | .receive => receiveAt ⟨n, .server⟩
  | .dispatch request => call (I := parties) (.dispatch n request)
  | .sendall frame => call (I := parties) (.sendall ⟨n, .server⟩ frame)

/-- What is outside the source: the library of the models on both sides, who may use the daemon, who
opened a connection, and the connections at which calls may fail. -/
structure Setting where
  client : Cli.Library
  daemon : Connection.Library
  permittedUids : List ℕ
  uid : ℕ → ℕ
  fails : ℕ → Prop

/-- A party: a client with its request, or the handler of a connection. -/
inductive Party
  | client (n : ℕ) (request : ControlRequest)
  | handler (n : ℕ)

/-- The end that a party holds. -/
def Party.endpoint : Party → Port
  | .client n _ => ⟨n, .client⟩
  | .handler n => ⟨n, .server⟩

variable (setting : Setting)

/-- `ControlClient.request` and `_handle_and_close`: the end is closed however the party leaves it. -/
def Party.program : Party → Program parties ControlError (Option ControlResponse)
  | .client n request => do
    let response ← ((Cli.clientRequest setting.client request).inline (clientCalls n)).finally_
      (call (I := parties) (.close ⟨n, .client⟩))
    return some response
  | .handler n => do
    ((Connection.handleConnection setting.daemon setting.permittedUids).inline (handlerCalls n)).finally_
      (call (I := parties) (.close ⟨n, .server⟩))
    return none

/-! ## The system -/

/-- A request that was dispatched, with what its dispatch returned or raised. -/
abbrev Dispatched := ControlRequest × Except ControlError ControlResponse

/-- The ends of all connections, the requests of their clients, the connections that were opened, what
the handlers have dispatched, and the connections of which a party was stopped. -/
structure Exchanges where
  ends : Ends UInt8
  asked : ℕ → Option ControlRequest
  opened : ℕ → Bool
  dispatched : ℕ → List Dispatched
  stopped : ℕ → Bool

/-- Before any connection. -/
def Exchanges.none : Exchanges :=
  ⟨fun _ => .fresh, fun _ => .none, fun _ => false, fun _ => [], fun _ => false⟩

/-- A process is stopped: its ends are closed. -/
def Exchanges.release (s : Exchanges) (i : ℕ) : Exchanges := { s with
  ends := s.ends.release i
  stopped := fun n => s.stopped n || decide ((s.ends ⟨n, .client⟩).holder = some i) ||
    decide ((s.ends ⟨n, .server⟩).holder = some i) }

/-- How calls are answered. Bytes come in pieces of any size. At the end of what a peer has written
there is nothing more once the peer has closed its end. Nothing more is written to a peer that has
closed its end, and one that closed it before it took everything resets the connection. -/
inductive Answers (s : Exchanges) :
    (c : PartyCall) → Except ControlError (parties.Reply c) → Exchanges → Prop
  | connect (n : ℕ) :
    Answers s (.connect n) (.ok ()) { s with opened := Function.update s.opened n true }
  | connectFails (n : ℕ) (e : SocketError) (hfails : setting.fails n) :
    Answers s (.connect n) (.error (.socket e)) s
  | peerCredentials (n : ℕ) : Answers s (.peerCredentials n) (.ok (setting.uid n)) s
  | recv (e : Port) (size : ℕ) (chunk : {chunk : List UInt8 // chunk.length ≤ size})
    (rest : List UInt8) (hne : chunk.val ≠ []) (hunread : s.ends.unread e = chunk.val ++ rest) :
    Answers s (.recv e size) (.ok chunk) { s with ends := s.ends.advance e chunk.val.length }
  | recvEnd (e : Port) (size : ℕ) (hunread : s.ends.unread e = [])
    (hclosed : (s.ends e.peer).closed = true) :
    Answers s (.recv e size) (.ok ⟨[], Nat.zero_le _⟩) s
  | recvFails (e : Port) (size : ℕ) (x : SocketError)
    (hfails : setting.fails e.connection ∨
      (s.ends e.peer).closed = true ∧ s.ends.unread e.peer ≠ []) :
    Answers s (.recv e size) (.error (.socket x)) s
  | sendall (e : Port) (bytes : List UInt8) (hopen : (s.ends e.peer).closed = false) :
    Answers s (.sendall e bytes) (.ok ()) { s with ends := s.ends.write e bytes }
  | sendFails (e : Port) (bytes part rest : List UInt8) (x : SocketError)
    (hpart : bytes = part ++ rest)
    (hfails : setting.fails e.connection ∨ (s.ends e.peer).closed = true) :
    Answers s (.sendall e bytes) (.error (.socket x)) { s with ends := s.ends.write e part }
  | close (e : Port) : Answers s (.close e) (.ok ()) { s with ends := s.ends.close e }
  | dispatch (n : ℕ) (request : ControlRequest) (outcome : Except ControlError ControlResponse)
    (hraised : ∀ e, outcome = .error e → ∃ x, e = .raised x) :
    Answers s (.dispatch n request) outcome
      { s with dispatched := Function.update s.dispatched n (s.dispatched n ++ [(request, outcome)]) }
  | host (c : Cli.CliCall) (reply : Except ControlError (Cli.cliCalls.Reply c)) :
    Answers s (.host c) reply s

/-- A client takes the end of a connection of its own, and the daemon the other end of one that was
opened. -/
def begun (s : Exchanges) (i : ℕ) : Party → Exchanges
  | .client n request => { s with
      ends := s.ends.hold ⟨n, .client⟩ i, asked := Function.update s.asked n (some request) }
  | .handler n => { s with ends := s.ends.hold ⟨n, .server⟩ i }

/-- An end may be taken: nobody has held it, and what the daemon takes was opened. -/
def Party.MayBegin (s : Exchanges) (r : Party) : Prop :=
  s.ends r.endpoint = .fresh ∧ ∀ n, r = .handler n → s.opened n = true

/-- **Clients and handlers.** -/
def exchangeSystem : System Party parties ControlError Exchanges (Option ControlResponse) where
  program := Party.program setting
  starts M r s' := r.MayBegin M.shared ∧ s' = begun M.shared M.processes.length r
  answers _ := fun c s => Answers setting s c
  releases i s := s.release i

/-! ## Receiving -/

/-- What a receiver asks for: what is missing of the size, or of the payload whose size it has got. -/
def Wants (got : List UInt8) (size : ℕ) : Prop :=
  0 < size ∧ (got.length + size = 4 ∨
    4 ≤ got.length ∧ got.length + size = 4 + unpackSize (got.take 4))

/-- The bytes that a receiver has got, and whether it was refused more of them. -/
structure Received where
  got : List UInt8
  lost : Bool

/-- How a receiver goes on. -/
def recvProtocol : Protocol recvStream ControlError Received where
  may φ size := Wants φ.got size
  moves φ _ reply φ' :=
    match reply with
    | .ok chunk => φ' = if chunk.val = [] then ⟨φ.got, true⟩ else ⟨φ.got ++ chunk.val, φ.lost⟩
    | .error _ => φ' = ⟨φ.got, true⟩

/-- What has arrived as a frame: a payload, or a size that no payload has. -/
def Arrived (got : List UInt8) : Except ControlError (List UInt8) → Prop
  | .ok payload => payload ≠ [] ∧ frameOf payload = .ok got
  | .error e => (frameOf [] = .ok got ∧ e = protocolError "request payload is empty") ∨
    got.length = 4 ∧ maxMessageSize < unpackSize got

/-- How a receiver ends: it was refused more, or a frame has arrived. -/
def RecvEnds (r : Except ControlError (List UInt8)) (φ : Received) : Prop :=
  (φ.lost = true ∧ ∃ e, r = .error e) ∨ φ.lost = false ∧ Arrived φ.got r

theorem frameOf_eq_ok {payload frame : List UInt8} : frameOf payload = .ok frame ↔
    payload.length ≤ maxMessageSize ∧ frame = packSize payload.length ++ payload := by
  rw [frameOf]
  split_ifs with h
  · exact iff_of_false (by rintro ⟨⟩) fun h' => by omega
  · exact ⟨fun heq => ⟨by omega, (Except.ok.inj heq).symm⟩, fun h' => by rw [h'.2]⟩

/-- A header tells the size. -/
theorem packSize_unpackSize {header : List UInt8} (h : header.length = 4) :
    packSize (unpackSize header) = header := by
  obtain ⟨a, b, c, d, rfl⟩ : ∃ a b c d, header = [a, b, c, d] := by
    match header, h with
    | [a, b, c, d], _ => exact ⟨a, b, c, d, rfl⟩
  have ha := a.toNat_lt
  have hb := b.toNat_lt
  have hc := c.toNat_lt
  have hd := d.toNat_lt
  simp only [packSize, unpackSize, List.foldl_cons, List.foldl_nil, List.cons.injEq, and_true,
    ← UInt8.toNat_inj, UInt8.toNat_ofNat']
  omega

/-- The bytes that the loop gets are those that were asked for. -/
theorem receiveExact_follows (rounds : ℕ) {remaining : ℕ} {got : List UInt8} (h : remaining ≤ rounds)
    (hwants : ∀ more : List UInt8, more.length < remaining →
      Wants (got ++ more) (remaining - more.length)) :
    (receiveExact rounds remaining).Follows recvProtocol (fun r φ =>
      (φ.lost = true ∧ ∃ e, r = .error e) ∨ ∃ bytes, r = .ok bytes ∧ bytes.length = remaining ∧
        φ = ⟨got ++ bytes, false⟩) ⟨got, false⟩ := by
  induction rounds generalizing remaining got with
  | zero =>
    obtain rfl : remaining = 0 := by omega
    exact .inr ⟨[], rfl, rfl, by rw [List.append_nil]⟩
  | succ rounds ih =>
    unfold receiveExact
    split_ifs with hzero
    · exact .inr ⟨[], rfl, hzero.symm, by rw [List.append_nil]⟩
    · have hmay := hwants [] (by simp only [List.length_nil]; omega)
      rw [List.append_nil] at hmay
      refine follows_call_bind hmay ?_ ?_
      · rintro chunk φ rfl
        by_cases hempty : chunk.val = []
        · rw [if_pos hempty, if_pos hempty]
          exact .inl ⟨rfl, _, rfl⟩
        · -- what is left is asked for with what has come
          have hlength : 0 < chunk.val.length := List.length_pos_of_ne_nil hempty
          have hbound : chunk.val.length ≤ remaining := chunk.property
          rw [if_neg hempty, if_neg hempty]
          refine (@ih (remaining - chunk.val.length) (got ++ chunk.val) (by omega)
            fun more hmore => ?_).bind ?_ ?_
          · have := hwants (chunk.val ++ more) (by rw [List.length_append]; omega)
            rw [List.length_append, ← List.append_assoc] at this
            rwa [Nat.sub_sub]
          · rintro rest φ (⟨-, e, he⟩ | ⟨bytes, hbytes, hlen, rfl⟩)
            · cases he
            · cases hbytes
              exact .inr ⟨_, rfl, by rw [List.length_append]; omega, by rw [List.append_assoc]⟩
          · rintro e φ (⟨hlost, -⟩ | ⟨bytes, hbytes, -⟩)
            · exact .inl ⟨hlost, e, rfl⟩
            · cases hbytes
      · rintro e φ rfl
        exact .inl ⟨rfl, e, rfl⟩

/-- **What a receiver returns** is the payload of the frame that it got. -/
theorem receiveFrame_follows : receiveFrame.Follows recvProtocol RecvEnds ⟨[], false⟩ := by
  unfold receiveFrame
  refine (receiveExact_follows 4 (le_refl 4) ?_).bind ?_ ?_
  · intro more hmore
    rw [List.nil_append]
    exact ⟨by omega, .inl (by omega)⟩
  · rintro header φ (⟨-, e, he⟩ | ⟨bytes, hbytes, hlength, rfl⟩)
    · cases he
    cases hbytes
    rw [List.nil_append]
    dsimp only
    split_ifs with hzero hlarge
    · -- the header of an empty payload
      refine .inr ⟨rfl, .inl ⟨?_, rfl⟩⟩
      rw [frameOf_eq_ok, ← packSize_unpackSize hlength, hzero]
      exact ⟨Nat.zero_le _, rfl⟩
    · exact .inr ⟨rfl, .inr ⟨hlength, hlarge⟩⟩
    · refine (receiveExact_follows _ (le_refl _) ?_).mono ?_
      · intro more hmore
        refine ⟨by omega, .inr ⟨by rw [List.length_append]; omega, ?_⟩⟩
        rw [List.take_append_of_le_length (by omega), ← hlength, List.take_length, List.length_append]
        omega
      · rintro r φ (hlost | ⟨payload, rfl, hpayload, rfl⟩)
        · exact .inl hlost
        · refine .inr ⟨rfl, ?_, ?_⟩
          · rintro rfl
            exact hzero hpayload.symm
          · rw [frameOf_eq_ok, hpayload, packSize_unpackSize hlength]
            exact ⟨by omega, rfl⟩
  · rintro e φ (hlost | ⟨bytes, hbytes, -⟩)
    · exact .inl hlost
    · cases hbytes

/-- A frame is no part of another. -/
theorem frame_inj {payload payload' frame frame' : List UInt8} (h : frameOf payload = .ok frame)
    (h' : frameOf payload' = .ok frame') (hbegins : frame <+: frame') : payload = payload' := by
  obtain ⟨hmax, rfl⟩ := frameOf_eq_ok.mp h
  obtain ⟨hmax', rfl⟩ := frameOf_eq_ok.mp h'
  have hlimit : maxMessageSize < 2 ^ 32 := by decide
  -- the headers are equal, and so are the sizes
  have hheader : packSize payload.length = packSize payload'.length := by
    have h₁ : packSize payload.length <+: packSize payload'.length ++ payload' :=
      (List.prefix_append _ _).trans hbegins
    exact (List.prefix_of_prefix_length_le h₁ (List.prefix_append _ _) (le_refl _)).eq_of_length rfl
  have hlength : payload.length = payload'.length := by
    rw [← unpackSize_packSize (show payload.length < 2 ^ 32 by omega), hheader,
      unpackSize_packSize (by omega)]
  rw [hheader] at hbegins
  exact ((List.prefix_append_right_inj _).mp hbegins).eq_of_length hlength

/-- Of a whole frame nothing more is wanted. -/
theorem not_wants {payload frame : List UInt8} (h : frameOf payload = .ok frame) (size : ℕ) :
    ¬ Wants frame size := by
  obtain ⟨hmax, rfl⟩ := frameOf_eq_ok.mp h
  have hlimit : maxMessageSize < 2 ^ 32 := by decide
  rintro ⟨hpos, hsize⟩
  rw [List.take_left' (length_packSize _), unpackSize_packSize (by omega), List.length_append,
    length_packSize] at hsize
  omega

theorem frame_ne_nil {payload frame : List UInt8} (h : frameOf payload = .ok frame) : frame ≠ [] := by
  obtain ⟨-, rfl⟩ := frameOf_eq_ok.mp h
  exact List.cons_ne_nil _ _

end Snarkypuss.Channel
