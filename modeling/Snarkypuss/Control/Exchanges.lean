import Snarkypuss.Calls.Moments
import Snarkypuss.Control.Parties

/-!
# Exchanges between clients and the daemon

What the parties' phases assert of the connections is kept by every call of every party, and by those
that are stopped. It tells what becomes of a request: it is dispatched once at most, as it was asked,
and what the client returns is what was dispatched for it.

## Main definitions

* `Exchanges.Sound`: what holds of all connections, whoever is at their ends
* `Exchanges.Refused`: the daemon has left a connection without a whole response
* `partyOutline`: what the phases assert

## Main results

* `partyOutline_valid`: what the phases assert is kept by every step
-/

namespace Snarkypuss.Channel

open Program

variable (setting : Setting)

/-! ## What is kept -/

/-- A call at the connection may have failed, or a party of it was stopped. -/
def Exchanges.Disturbed (s : Exchanges) (n : ℕ) : Prop := setting.fails n ∨ s.stopped n = true

/-- The daemon has closed its end of a connection without a whole response to what it dispatched. -/
def Exchanges.Refused (s : Exchanges) (n : ℕ) : Prop :=
  (s.ends ⟨n, .server⟩).closed = true ∧ ∀ d frame, s.dispatched n = [d] →
    setting.responseFrame d = .ok frame → (s.ends ⟨n, .server⟩).written ≠ frame

/-- What has been dispatched on a connection: one request of a peer that may use the daemon, as it
was read, and nothing but its response was written. -/
structure Exchanges.Handled (s : Exchanges) (n : ℕ) (d : Dispatched) : Prop where
  alone : s.dispatched n = [d]
  permitted : setting.uid n ∈ setting.permittedUids
  read : ∃ payload, frameOf payload = .ok (s.ends.got ⟨n, .server⟩) ∧
    Connection.parseRequest setting.daemon payload = .ok d.1
  written : (s.ends ⟨n, .server⟩).written = [] ∨
    ∃ frame, setting.responseFrame d = .ok frame ∧ (s.ends ⟨n, .server⟩).written <+: frame

/-- What holds of a connection. `hung` is about a client that has closed its end: that it was
disturbed, that the daemon closed its end first, that it got something, or that it wrote nothing. -/
structure Exchanges.SoundAt (s : Exchanges) (n : ℕ) : Prop where
  request : (s.ends ⟨n, .client⟩).written = [] ∨ ∃ request frame, s.asked n = some request ∧
    setting.requestFrame request = .ok frame ∧ (s.ends ⟨n, .client⟩).written <+: frame
  idle : s.dispatched n = [] → (s.ends ⟨n, .server⟩).written = []
  handled : ∀ d ∈ s.dispatched n, s.Handled setting n d
  hung : (s.ends ⟨n, .client⟩).closed = true → s.Disturbed setting n ∨
    (s.ends ⟨n, .server⟩).closed = true ∨ s.ends.got ⟨n, .client⟩ ≠ [] ∨
      (s.ends ⟨n, .client⟩).written = []

/-- What holds of all connections. -/
structure Exchanges.Sound (s : Exchanges) : Prop where
  taken : s.ends.Sound
  at_ : ∀ n, s.SoundAt setting n

/-- What the phase of a party asserts. -/
def Asserts (i : ℕ) (r : Party) (φ : Phase) (s : Exchanges) : Prop :=
  s.ends.At r.endpoint i φ.got φ.put φ.closed ∧
    match r with
    | .client n request => s.asked n = some request ∧
      (φ.lost = true → s.Disturbed setting n ∨ s.Refused setting n)
    | .handler n => s.dispatched n = φ.did ∧ (φ.lost = true → s.Disturbed setting n ∨ φ.did = [])

/-- The phases of the parties. -/
def partyOutline : Outline (exchangeSystem setting) Phase where
  protocol := partyProtocol setting
  first _ := .first
  ending := Ending setting
  sound s := s.Sound setting
  asserts := Asserts setting
  compatible _ _ := True

variable {setting} {s t : Exchanges} {i k n : ℕ} {r r' : Party} {φ ψ : Phase} {c : PartyCall}
  {reply : Except ControlError (parties.Reply c)}

/-- What a handler has read is the frame of the request that its client asks. -/
theorem Exchanges.Sound.asked (h : s.Sound setting) {d : Dispatched} (hd : d ∈ s.dispatched n) :
    ∃ request frame, s.asked n = some request ∧ setting.requestFrame request = .ok frame ∧
      s.ends.got ⟨n, .server⟩ = frame ∧ (s.ends ⟨n, .client⟩).written = frame ∧
        Connection.parseRequest setting.daemon (setting.client.dumpRequest request) = .ok d.1 := by
  obtain ⟨payload, hpayload, hparse⟩ := ((h.at_ n).handled d hd).read
  have hgot : s.ends.got ⟨n, .server⟩ <+: (s.ends ⟨n, .client⟩).written := Ends.got_prefix
  obtain hnone | ⟨request, frame, hasked, hframe, hwritten⟩ := (h.at_ n).request
  · rw [hnone, List.prefix_nil] at hgot
    exact absurd hgot (frame_ne_nil hpayload)
  · obtain rfl := frame_inj hpayload hframe (hgot.trans hwritten)
    have heq : s.ends.got ⟨n, .server⟩ = frame := Except.ok.inj (hpayload.symm.trans hframe)
    refine ⟨request, frame, hasked, hframe, heq, ?_, hparse⟩
    exact hwritten.eq_of_length_le (by rw [← heq]; exact hgot.length_le)

/-- Behind the frame of a request that was dispatched there is nothing. -/
theorem Exchanges.Sound.unread_server (h : s.Sound setting) {d : Dispatched} (hd : d ∈ s.dispatched n) :
    s.ends.unread ⟨n, .server⟩ = [] := by
  obtain ⟨request, frame, -, -, hgot, hwritten, -⟩ := h.asked hd
  have happend := Ends.got_append_unread (s := s.ends) (e := ⟨n, .server⟩)
  rw [hgot, show (s.ends (Port.peer ⟨n, .server⟩)).written = frame from hwritten] at happend
  exact List.append_right_eq_self.mp happend

/-- What a call changes: the end of the party that makes it, unless that is closed, and what a handler
has dispatched. -/
structure Acts (setting : Setting) (r : Party) (φ : Phase) (s t : Exchanges) : Prop where
  open_ : φ.closed = false
  others : ∀ e ≠ r.endpoint, t.ends e = s.ends e
  written : ∀ e, (s.ends e).written <+: (t.ends e).written
  dispatched : ∀ n, r ≠ .handler n → t.dispatched n = s.dispatched n
  asked : t.asked = s.asked
  stopped : t.stopped = s.stopped

/-- A party that makes a call has not closed its end. -/
theorem may_open (hmay : (partyProtocol setting r).may φ c) : φ.closed = false := by
  cases r <;> cases c <;> simp_all [partyProtocol, clientMay, handlerMay]

/-- The end at which a call is made. -/
def PartyCall.IsAt (e : Port) : PartyCall → Prop
  | .recv e' _ | .sendall e' _ | .close e' => e' = e
  | _ => True

/-- A party calls at the end that it holds. -/
theorem may_isAt (hmay : (partyProtocol setting r).may φ c) : c.IsAt r.endpoint := by
  cases r <;> cases c <;> simp_all [partyProtocol, clientMay, handlerMay, PartyCall.IsAt, Party.endpoint]

theorem acts (hmay : (partyProtocol setting r).may φ c) (h : Answers setting s c reply t) :
    Acts setting r φ s t := by
  have hopen := may_open hmay
  have hat := may_isAt hmay
  have hends : ∀ {s' : Ends UInt8}, (∀ e ≠ r.endpoint, s' e = s.ends e) →
      (∀ e, (s.ends e).written <+: (s' e).written) → Acts setting r φ s { s with ends := s' } :=
    fun hothers hwritten => ⟨hopen, hothers, hwritten, fun _ _ => rfl, rfl, rfl⟩
  cases h with
  | recv e size chunk rest hne hunread =>
    obtain rfl := hat
    exact hends (fun e he => Ends.advance_of_ne he) fun e => by rw [Ends.advance_written]
  | sendall e bytes hclosed =>
    obtain rfl := hat
    exact hends (fun e he => Ends.write_of_ne he) fun e => Ends.write_prefix
  | sendFails e bytes part rest x hpart hfails =>
    obtain rfl := hat
    exact hends (fun e he => Ends.write_of_ne he) fun e => Ends.write_prefix
  | close e =>
    obtain rfl := hat
    exact hends (fun e he => Ends.close_of_ne he) fun e => by rw [Ends.close_written]
  | dispatch m request outcome hraised =>
    cases r with
    | client n request => exact hmay.elim
    | handler n =>
      obtain ⟨rfl, -⟩ := hmay
      refine ⟨hopen, fun _ _ => rfl, fun _ => List.prefix_rfl, fun m hm => ?_, rfl, rfl⟩
      exact Function.update_of_ne (fun heq => hm (by rw [heq])) _ _
  | _ => exact ⟨hopen, fun _ _ => rfl, fun _ => List.prefix_rfl, fun _ _ => rfl, rfl, rfl⟩

/-! ## The other parties -/

/-- What the daemon has left stays as it is: its handler makes no more calls. -/
theorem Exchanges.Refused.step (h : s.Refused setting n) (hacts : Acts setting r φ s t)
    (hat : s.ends.At r.endpoint i φ.got φ.put φ.closed) : t.Refused setting n := by
  have hne : (⟨n, .server⟩ : Port) ≠ r.endpoint := by
    rintro heq
    have hclosed := h.1
    rw [heq, hat.closed, hacts.open_] at hclosed
    cases hclosed
  have hhandler : r ≠ .handler n := by
    rintro rfl
    exact hne rfl
  rw [Exchanges.Refused, hacts.others _ hne, hacts.dispatched n hhandler]
  exact h

theorem Exchanges.Disturbed.step (h : s.Disturbed setting n) (hacts : Acts setting r φ s t) :
    t.Disturbed setting n := by
  rw [Exchanges.Disturbed, hacts.stopped]
  exact h

/-- What the phase of another party asserts is kept. -/
theorem Asserts.step (hne : k ≠ i) (hown : Asserts setting i r φ s) (hacts : Acts setting r φ s t)
    (h : Asserts setting k r' ψ s) : Asserts setting k r' ψ t := by
  have hends : r'.endpoint ≠ r.endpoint := hown.1.ne h.1 hne
  refine ⟨h.1.kept (hacts.others _ hends) (hacts.written _), ?_⟩
  cases r' with
  | client n request =>
    refine ⟨by rw [hacts.asked]; exact h.2.1, fun hlost => ?_⟩
    exact (h.2.2 hlost).imp (·.step hacts) (·.step hacts hown.1)
  | handler n =>
    have hhandler : r ≠ .handler n := by
      rintro rfl
      exact hends rfl
    refine ⟨by rw [hacts.dispatched n hhandler]; exact h.2.1, fun hlost => ?_⟩
    exact (h.2.2 hlost).imp_left (·.step hacts)

/-! ## The party that makes a call -/

/-- A client that has closed its end was disturbed, the daemon closed its end first, the client got
something, or it wrote nothing. -/
def Exchanges.Hung (setting : Setting) (s : Exchanges) (n : ℕ) : Prop :=
  s.Disturbed setting n ∨ (s.ends ⟨n, .server⟩).closed = true ∨ s.ends.got ⟨n, .client⟩ ≠ [] ∨
    (s.ends ⟨n, .client⟩).written = []

/-- What holds of a connection does not depend on what its client has taken, nor on who holds its
ends, but for the clients that have closed theirs. -/
theorem Exchanges.SoundAt.congr (h : s.SoundAt setting n)
    (hwritten : ∀ side, (t.ends ⟨n, side⟩).written = (s.ends ⟨n, side⟩).written)
    (hgot : t.ends.got ⟨n, .server⟩ = s.ends.got ⟨n, .server⟩)
    (hasked : (s.ends ⟨n, .client⟩).written = [] ∨ t.asked n = s.asked n)
    (hdispatched : t.dispatched n = s.dispatched n)
    (hhung : (t.ends ⟨n, .client⟩).closed = true → t.Hung setting n) : t.SoundAt setting n := by
  refine ⟨?_, ?_, fun d hd => ?_, hhung⟩
  · rw [hwritten]
    obtain hnone | hasked := hasked
    · exact .inl hnone
    · rw [hasked]
      exact h.request
  · rw [hwritten, hdispatched]
    exact h.idle
  · rw [hdispatched] at hd
    obtain ⟨halone, hpermitted, hread, hput⟩ := h.handled d hd
    exact ⟨by rw [hdispatched, halone], hpermitted, by rw [hgot]; exact hread,
      by rw [hwritten]; exact hput⟩

/-- A party leaves all connections but its own as they are. -/
theorem Exchanges.Sound.acts (h : s.Sound setting) (hacts : Acts setting r φ s t)
    (htaken : t.ends.Sound) (hat : t.SoundAt setting r.endpoint.connection) : t.Sound setting := by
  refine ⟨htaken, fun m => ?_⟩
  by_cases hm : m = r.endpoint.connection
  · exact hm ▸ hat
  · have hends : ∀ side, t.ends ⟨m, side⟩ = s.ends ⟨m, side⟩ := by
      refine fun _ => hacts.others _ fun heq => hm ?_
      rw [← heq]
    have hgot : ∀ side, t.ends.got ⟨m, side⟩ = s.ends.got ⟨m, side⟩ := by
      intro side
      cases side <;> simp only [Ends.got, Port.peer, hends]
    refine (h.at_ m).congr (fun side => by rw [hends]) (hgot .server) (.inr (by rw [hacts.asked]))
      (hacts.dispatched m fun heq => hm ?_) fun hclosed => ?_
    · rw [heq]
      rfl
    · rw [Exchanges.Hung, hends, hends, hgot, Exchanges.Disturbed, hacts.stopped]
      rw [hends] at hclosed
      exact (h.at_ m).hung hclosed

/-- An end of a connection was closed. -/
theorem SoundAt.close (h : s.SoundAt setting n) (e : Port)
    (hhung : (s.ends.close e ⟨n, .client⟩).closed = true →
      Exchanges.Hung setting { s with ends := s.ends.close e } n) :
    Exchanges.SoundAt setting { s with ends := s.ends.close e } n :=
  h.congr (fun _ => Ends.close_written) Ends.close_got (.inr rfl) rfl hhung

section Client

variable {request : ControlRequest}

/-- A client has written its frame, or a part of it. -/
theorem SoundAt.clientWrite (hs : s.ends.Sound) (h : s.SoundAt setting n)
    (hopen : (s.ends ⟨n, .client⟩).closed = false) (hnone : (s.ends ⟨n, .client⟩).written = [])
    {frame part : List UInt8} (hasked : s.asked n = some request)
    (hframe : setting.requestFrame request = .ok frame) (hpart : part <+: frame) :
    Exchanges.SoundAt setting { s with ends := s.ends.write ⟨n, .client⟩ part } n where
  request := by
    refine .inr ⟨request, frame, hasked, hframe, ?_⟩
    simp only [Ends.write_self, hnone, List.nil_append]
    exact hpart
  idle := by
    simp only [Ends.write_of_ne (show (⟨n, .server⟩ : Port) ≠ ⟨n, .client⟩ by simp)]
    exact h.idle
  handled d hd := by
    obtain ⟨halone, hpermitted, hread, hwritten⟩ := h.handled d hd
    refine ⟨halone, hpermitted, ?_, ?_⟩
    · rw [hs.write_got]
      exact hread
    · simp only [Ends.write_of_ne (show (⟨n, .server⟩ : Port) ≠ ⟨n, .client⟩ by simp)]
      exact hwritten
  hung hclosed := by
    rw [Ends.write_closed, hopen] at hclosed
    cases hclosed

/-- A client that has written nothing has had nothing dispatched. -/
theorem Exchanges.Sound.dispatched_nil (h : s.Sound setting)
    (hnone : (s.ends ⟨n, .client⟩).written = []) : s.dispatched n = [] := by
  rw [List.eq_nil_iff_forall_not_mem]
  intro d hd
  obtain ⟨request, frame, -, hframe, -, hwritten, -⟩ := h.asked hd
  exact frame_ne_nil hframe (hwritten.symm.trans hnone)

/-- **What a client does keeps what holds**, and its phase asserts what it has done. -/
theorem own_client (hs : s.Sound setting) (hown : Asserts setting i (.client n request) φ s)
    (hmay : (partyProtocol setting (.client n request)).may φ c) (h : Answers setting s c reply t) :
    t.Sound setting ∧ ∃ φ', Moves setting φ c reply φ' ∧ Asserts setting i (.client n request) φ' t := by
  have hacts := acts hmay h
  have hopen := hown.1.closed.trans hacts.open_
  obtain ⟨hat, hasked, hlost⟩ := hown
  have hat' : s.ends.At ⟨n, .client⟩ i φ.got φ.put φ.closed := hat
  -- what has been asserted of a refusal stays so
  have hlost' : φ.lost = true → t.Disturbed setting n ∨ t.Refused setting n := fun hl =>
    (hlost hl).imp (·.step hacts) (·.step hacts hat)
  cases h with
  | connect m =>
    exact ⟨hs.acts hacts hs.taken ((hs.at_ n).congr (fun _ => rfl) rfl (.inr rfl) rfl (hs.at_ n).hung), φ, rfl, hat, hasked,
      hlost'⟩
  | connectFails m e hfails =>
    obtain ⟨rfl, -⟩ := hmay
    exact ⟨hs, _, rfl, hat, hasked, fun _ => .inl (.inl hfails)⟩
  | peerCredentials m => exact hmay.elim
  | recv e size chunk rest hne hunread =>
    obtain ⟨rfl, -⟩ := hmay
    have hcount : chunk.val.length ≤ (s.ends.unread ⟨n, .client⟩).length := by
      rw [hunread, List.length_append]
      omega
    have hsound : Exchanges.SoundAt setting
        { s with ends := s.ends.advance ⟨n, .client⟩ chunk.val.length } n := by
      refine (hs.at_ n).congr (fun _ => Ends.advance_written) (Ends.advance_got_of_ne (by simp))
        (.inr rfl) rfl fun hclosed => ?_
      rw [Ends.advance_closed, show (s.ends ⟨n, .client⟩).closed = false from hopen] at hclosed
      cases hclosed
    exact ⟨hs.acts hacts (hs.taken.advance hcount) hsound,
      { φ with got := φ.got ++ chunk.val }, (if_neg hne).symm, hat'.advance hs.taken hunread, hasked,
      hlost'⟩
  | recvEnd e size hunread hclosed =>
    obtain ⟨rfl, -, -, hwants⟩ := hmay
    refine ⟨hs, { φ with lost := true }, (if_pos rfl).symm, hat, hasked, fun _ => .inr ⟨hclosed, ?_⟩⟩
    -- the daemon wrote what the client got, and that is not a frame
    rintro d frame - hframe hwritten
    refine not_wants hframe size ?_
    rw [← hwritten]
    have hgot : s.ends.got ⟨n, .client⟩ = (s.ends ⟨n, .server⟩).written := Ends.got_of_unread hunread
    rw [← hgot, hat'.got]
    exact hwants
  | recvFails e size x hfails =>
    obtain ⟨rfl, -⟩ := hmay
    refine ⟨hs, _, rfl, hat, hasked, fun _ => ?_⟩
    obtain hfails | ⟨hclosed, hunread⟩ := hfails
    · exact .inl (.inl hfails)
    · refine .inr ⟨hclosed, fun d frame hd => ?_⟩
      exact absurd (hs.unread_server (d := d) (by rw [hd]; exact List.mem_singleton_self d)) hunread
  | sendall e bytes hclosed =>
    obtain ⟨rfl, hput, -, hframe⟩ := hmay
    have hnone : (s.ends ⟨n, .client⟩).written = [] := hat'.written.trans hput
    exact ⟨hs.acts hacts hs.taken.write (SoundAt.clientWrite hs.taken (hs.at_ n) hopen hnone hasked hframe
      List.prefix_rfl), _, rfl, hat'.write hs.taken, hasked, hlost'⟩
  | sendFails e bytes part rest x hpart hfails =>
    obtain ⟨rfl, hput, -, hframe⟩ := hmay
    have hnone : (s.ends ⟨n, .client⟩).written = [] := hat'.written.trans hput
    refine ⟨hs.acts hacts hs.taken.write (SoundAt.clientWrite hs.taken (hs.at_ n) hopen hnone hasked
      hframe (hpart ▸ List.prefix_append _ _)), _, ⟨part, rest, hpart, rfl⟩, hat'.write hs.taken,
      hasked, fun _ => ?_⟩
    obtain hfails | hclosed := hfails
    · exact .inl (.inl hfails)
    · refine .inr ⟨?_, fun d frame hd => ?_⟩
      · rw [Ends.write_closed]
        exact hclosed
      · rw [show s.dispatched n = [] from hs.dispatched_nil hnone] at hd
        cases hd
  | close e =>
    obtain ⟨rfl, -, hends⟩ := hmay
    refine ⟨hs.acts hacts hs.taken.close (SoundAt.close (hs.at_ n) _ fun _ => ?_), _, ⟨rfl, rfl⟩,
      hat'.close, hasked, hlost'⟩
    obtain hl | hlength | ⟨hput, -⟩ := hends
    · exact (hlost' hl).imp_right fun hrefused => .inl hrefused.1
    · refine .inr (.inr (.inl fun hnil => ?_))
      rw [Ends.close_got, hat'.got] at hnil
      rw [hnil] at hlength
      simp at hlength
    · refine .inr (.inr (.inr ?_))
      rw [Ends.close_written, hat'.written, hput]
  | dispatch m request outcome hraised => exact hmay.elim
  | host c reply => exact hmay.elim

end Client

/-- Nothing that was read is known of before it is dispatched. -/
theorem Exchanges.SoundAt.unhandled (h : s.SoundAt setting n) (hdid : s.dispatched n = [])
    (hclient : (t.ends ⟨n, .client⟩) = s.ends ⟨n, .client⟩) (hasked : t.asked n = s.asked n)
    (hdispatched : t.dispatched n = []) (hstopped : t.stopped n = s.stopped n)
    (hwritten : (t.ends ⟨n, .server⟩).written = [])
    (hclosed : (s.ends ⟨n, .server⟩).closed = false) : t.SoundAt setting n := by
  have hgot : t.ends.got ⟨n, .client⟩ = s.ends.got ⟨n, .client⟩ := by
    simp only [Ends.got, Port.peer, hclient, hwritten, h.idle hdid]
  refine ⟨?_, fun _ => hwritten, fun d hd => ?_, fun hc => ?_⟩
  · rw [hclient, hasked]
    exact h.request
  · rw [hdispatched] at hd
    cases hd
  · rw [hclient] at hc ⊢
    rw [hgot, Exchanges.Disturbed, hstopped]
    refine (h.hung hc).imp_right fun h' => ?_
    obtain h' | h' := h'
    · rw [hclosed] at h'
      cases h'
    · exact .inr h'

/-- A handler has written its frame, or a part of it. -/
theorem SoundAt.handlerWrite (hs : s.ends.Sound) (h : s.SoundAt setting n) {d : Dispatched}
    (hd : s.dispatched n = [d]) (hnone : (s.ends ⟨n, .server⟩).written = []) {frame part : List UInt8}
    (hframe : setting.responseFrame d = .ok frame) (hpart : part <+: frame) :
    Exchanges.SoundAt setting { s with ends := s.ends.write ⟨n, .server⟩ part } n where
  request := by
    simp only [Ends.write_of_ne (show (⟨n, .client⟩ : Port) ≠ ⟨n, .server⟩ by simp)]
    exact h.request
  idle hnil := by
    rw [hd] at hnil
    cases hnil
  handled d' hd' := by
    obtain ⟨halone, hpermitted, hread, -⟩ := h.handled d' hd'
    obtain rfl : d = d' := List.singleton_inj.mp (hd.symm.trans halone)
    refine ⟨halone, hpermitted, ?_, .inr ⟨frame, hframe, ?_⟩⟩
    · rw [hs.write_got]
      exact hread
    · simp only [Ends.write_self, hnone, List.nil_append]
      exact hpart
  hung hclosed := by
    rw [Ends.write_closed] at hclosed
    simp only [Ends.write_closed, hs.write_got,
      Ends.write_of_ne (show (⟨n, .client⟩ : Port) ≠ ⟨n, .server⟩ by simp)]
    exact h.hung hclosed

/-- **What a handler does keeps what holds**, and its phase asserts what it has done. -/
theorem own_handler (hs : s.Sound setting) (hown : Asserts setting i (.handler n) φ s)
    (hmay : (partyProtocol setting (.handler n)).may φ c) (h : Answers setting s c reply t) :
    t.Sound setting ∧ ∃ φ', Moves setting φ c reply φ' ∧ Asserts setting i (.handler n) φ' t := by
  have hacts := acts hmay h
  have hopen := hown.1.closed.trans hacts.open_
  obtain ⟨hat, hdid, hlost⟩ := hown
  have hat' : s.ends.At ⟨n, .server⟩ i φ.got φ.put φ.closed := hat
  have hlost' : φ.lost = true → t.Disturbed setting n ∨ φ.did = [] := fun hl =>
    (hlost hl).imp_left (·.step hacts)
  cases h with
  | connect m => exact hmay.elim
  | connectFails m e hfails => exact hmay.elim
  | peerCredentials m =>
    obtain ⟨rfl, -⟩ := hmay
    exact ⟨hs, φ, ⟨rfl, rfl⟩, hat, hdid, hlost⟩
  | recv e size chunk rest hne hunread =>
    obtain ⟨rfl, -, -, hnil, hput, -⟩ := hmay
    have hcount : chunk.val.length ≤ (s.ends.unread ⟨n, .server⟩).length := by
      rw [hunread, List.length_append]
      omega
    have hsound : Exchanges.SoundAt setting
        { s with ends := s.ends.advance ⟨n, .server⟩ chunk.val.length } n :=
      (hs.at_ n).unhandled (hdid.trans hnil) (Ends.advance_of_ne (by simp)) rfl (hdid.trans hnil) rfl
        (by rw [Ends.advance_written, hat'.written, hput]) hopen
    exact ⟨hs.acts hacts (hs.taken.advance hcount) hsound, { φ with got := φ.got ++ chunk.val },
      (if_neg hne).symm, hat'.advance hs.taken hunread, hdid, hlost'⟩
  | recvEnd e size hunread hclosed =>
    obtain ⟨rfl, -, -, hnil, -⟩ := hmay
    exact ⟨hs, { φ with lost := true }, (if_pos rfl).symm, hat, hdid, fun _ => .inr hnil⟩
  | recvFails e size x hfails =>
    obtain ⟨rfl, -, -, hnil, -⟩ := hmay
    exact ⟨hs, _, rfl, hat, hdid, fun _ => .inr hnil⟩
  | sendall e bytes hclosed =>
    obtain ⟨rfl, -, hput, d, hd, hframe⟩ := hmay
    exact ⟨hs.acts hacts hs.taken.write (SoundAt.handlerWrite hs.taken (hs.at_ n) (hdid.trans hd)
      (hat'.written.trans hput) hframe List.prefix_rfl), _, rfl, hat'.write hs.taken, hdid, hlost'⟩
  | sendFails e bytes part rest x hpart hfails =>
    obtain ⟨rfl, -, hput, d, hd, hframe⟩ := hmay
    have hnone : (s.ends ⟨n, .server⟩).written = [] := hat'.written.trans hput
    refine ⟨hs.acts hacts hs.taken.write (SoundAt.handlerWrite hs.taken (hs.at_ n) (hdid.trans hd)
      hnone hframe (hpart ▸ List.prefix_append _ _)), _, ⟨part, rest, hpart, rfl⟩,
      hat'.write hs.taken, hdid, fun _ => .inl ?_⟩
    -- a client that is waiting for its response has not closed its end
    obtain hfails | hclosed := hfails
    · exact .inl hfails
    obtain hdisturbed | hclosed | hgot | hwritten := (hs.at_ n).hung hclosed
    · exact hdisturbed.step hacts
    · rw [show (s.ends ⟨n, .server⟩).closed = false from hopen] at hclosed
      cases hclosed
    · have hprefix : s.ends.got ⟨n, .client⟩ <+: (s.ends ⟨n, .server⟩).written := Ends.got_prefix
      rw [hnone, List.prefix_nil] at hprefix
      exact absurd hprefix hgot
    · have hnil := hs.dispatched_nil hwritten
      rw [hdid, hd] at hnil
      cases hnil
  | close e =>
    obtain ⟨rfl, -⟩ := hmay
    exact ⟨hs.acts hacts hs.taken.close (SoundAt.close (hs.at_ n) _ fun _ =>
      .inr (.inl (congrArg End.closed Ends.close_self))), _, ⟨rfl, rfl⟩, hat'.close, hdid, hlost'⟩
  | dispatch m request outcome hraised =>
    obtain ⟨rfl, -, hpermitted, hnil, hput, hkept, payload, hpayload, hparse⟩ := hmay
    have hd : Function.update s.dispatched m (s.dispatched m ++ [(request, outcome)]) m =
        [(request, outcome)] := by
      rw [Function.update_self, hdid, hnil, List.nil_append]
    refine ⟨hs.acts hacts hs.taken (show Exchanges.SoundAt setting _ m from
      ⟨(hs.at_ m).request, fun h => ?_, fun d hd' => ?_, (hs.at_ m).hung⟩), _, rfl, hat, ?_, fun hl => ?_⟩
    · exact absurd (hd.symm.trans h) (List.cons_ne_nil _ _)
    · simp only [hd, List.mem_singleton] at hd'
      subst hd'
      refine ⟨hd, hpermitted, ⟨payload, ?_, hparse⟩, .inl (hat'.written.trans hput)⟩
      rw [show s.ends.got ⟨m, .server⟩ = φ.got from hat'.got, hpayload]
    · simp only [hd, Phase.dispatch, hnil, List.nil_append]
    · rw [show φ.lost = true from hl] at hkept
      cases hkept
  | host c reply => exact hmay.elim

/-! ## Beginning and stopping -/

/-- A party that begins changes nothing but who holds its end and what its client asks. -/
theorem Exchanges.Sound.begun (h : s.Sound setting) (hr : r.MayBegin s) (i : ℕ) :
    (begun s i r).Sound setting := by
  cases r with
  | client m request =>
    refine ⟨h.taken.hold, fun n => (h.at_ n).congr (fun _ => Ends.hold_written) Ends.hold_got ?_ rfl ?_⟩
    · by_cases hn : n = m
      · subst hn
        have hfresh : s.ends ⟨n, .client⟩ = .fresh := hr.1
        exact .inl (by rw [hfresh]; rfl)
      · exact .inr (Function.update_of_ne hn _ _)
    · intro hclosed
      simp only [Exchanges.Hung, Channel.begun, Ends.hold_closed, Ends.hold_got, Ends.hold_written] at hclosed ⊢
      exact (h.at_ n).hung hclosed
  | handler m =>
    refine ⟨h.taken.hold, fun n =>
      (h.at_ n).congr (fun _ => Ends.hold_written) Ends.hold_got (.inr rfl) rfl ?_⟩
    intro hclosed
    simp only [Exchanges.Hung, Channel.begun, Ends.hold_closed, Ends.hold_got, Ends.hold_written] at hclosed ⊢
    exact (h.at_ n).hung hclosed

/-- An end that nobody has held has got nothing. -/
theorem got_fresh {e : Port} (h : s.ends e = .fresh) : s.ends.got e = [] := by
  rw [Ends.got, h]
  rfl

/-- What the first phase of a party asserts. -/
theorem Asserts.begun (h : s.Sound setting) (hr : r.MayBegin s) (i : ℕ) :
    Asserts setting i r .first (begun s i r) := by
  have hat : ∀ {e : Port}, s.ends e = .fresh → (s.ends.hold e i).At e i [] [] false := by
    intro e he
    refine ⟨by rw [Ends.hold_self], ?_, by rw [Ends.hold_got, got_fresh he], ?_, ?_⟩
    · rw [Ends.hold_taken, he]
      exact Nat.zero_le _
    · rw [Ends.hold_written, he]
      rfl
    · rw [Ends.hold_closed, he]
      rfl
  cases r with
  | client n request =>
    refine ⟨hat hr.1, Function.update_self _ _ _, fun hlost => ?_⟩
    cases hlost
  | handler n =>
    refine ⟨hat hr.1, ?_, fun hlost => ?_⟩
    · -- a request is dispatched when something was read
      rw [Phase.first, List.eq_nil_iff_forall_not_mem]
      intro d hd
      obtain ⟨request, frame, -, hframe, hgot, -⟩ := h.asked hd
      rw [got_fresh (show s.ends ⟨n, .server⟩ = .fresh from hr.1)] at hgot
      exact frame_ne_nil hframe hgot.symm
    · cases hlost

/-- What the phases of the others assert is kept when a party begins. -/
theorem Asserts.kept (hr : r.MayBegin s) (i : ℕ) (h : Asserts setting k r' ψ s) :
    Asserts setting k r' ψ (Channel.begun s i r) := by
  have hends : r'.endpoint ≠ r.endpoint := by
    intro heq
    have hholder := h.1.holder
    rw [heq, hr.1] at hholder
    cases hholder
  have hat : ∀ {e : Port}, r'.endpoint ≠ e →
      (s.ends.hold e i).At r'.endpoint k ψ.got ψ.put ψ.closed := fun hne =>
    h.1.kept (Ends.hold_of_ne hne) (by rw [Ends.hold_written])
  have hrefused : ∀ n, s.Refused setting n → (Channel.begun s i r).Refused setting n := by
    intro n hn
    cases r <;> simp only [Exchanges.Refused, Channel.begun, Ends.hold_closed, Ends.hold_written] <;>
      exact hn
  have hdisturbed : ∀ n, s.Disturbed setting n → (Channel.begun s i r).Disturbed setting n := by
    intro n hn
    cases r <;> exact hn
  have hdispatched : (Channel.begun s i r).dispatched = s.dispatched := by
    cases r <;> rfl
  refine ⟨by cases r <;> exact hat hends, ?_⟩
  cases r' with
  | client n request =>
    refine ⟨?_, fun hlost => (h.2.2 hlost).imp (hdisturbed n) (hrefused n)⟩
    cases r with
    | client m request' =>
      refine (Function.update_of_ne (fun hnm => hends ?_) _ _).trans h.2.1
      rw [hnm]
      rfl
    | handler m => exact h.2.1
  | handler n =>
    exact ⟨by rw [hdispatched]; exact h.2.1, fun hlost => (h.2.2 hlost).imp_left (hdisturbed n)⟩

@[simp] theorem Exchanges.release_ends : (s.release i).ends = s.ends.release i := rfl

/-- The connection of a process that is stopped. -/
theorem Exchanges.stopped_release {e : Port} (h : (s.ends e).holder = some i) :
    (s.release i).stopped e.connection = true := by
  obtain ⟨n, side⟩ := e
  cases side <;> simp [Exchanges.release, h]

/-- A connection stays disturbed. -/
theorem Exchanges.Disturbed.release (h : s.Disturbed setting n) (i : ℕ) :
    (s.release i).Disturbed setting n := by
  refine h.imp_right fun hstopped => ?_
  simp [Exchanges.release, hstopped]

/-- An end that is closed when a process stops was closed before, or its connection is disturbed. -/
theorem Exchanges.closed_release {side : Side} (i : ℕ)
    (h : ((s.release i).ends ⟨n, side⟩).closed = true) :
    (s.ends ⟨n, side⟩).closed = true ∨ (s.release i).Disturbed setting n := by
  by_cases hholder : (s.ends ⟨n, side⟩).holder = some i
  · exact .inr (.inr (Exchanges.stopped_release hholder))
  · rw [Exchanges.release_ends, Ends.release_of_ne hholder] at h
    exact .inl h

theorem Exchanges.Sound.release (h : s.Sound setting) (i : ℕ) : (s.release i).Sound setting := by
  refine ⟨h.taken.release, fun n =>
    (h.at_ n).congr (fun _ => Ends.release_written) Ends.release_got (.inr rfl) rfl fun hclosed => ?_⟩
  obtain hclosed | hdisturbed : (s.ends ⟨n, .client⟩).closed = true ∨ (s.release i).Disturbed setting n :=
    Exchanges.closed_release i hclosed
  · obtain hd | hs | hgot | hwritten := (h.at_ n).hung hclosed
    · exact .inl (hd.release i)
    · exact .inr (.inl (Ends.release_closed hs))
    · exact .inr (.inr (.inl (by rw [Exchanges.release_ends, Ends.release_got]; exact hgot)))
    · exact .inr (.inr (.inr (by rw [Exchanges.release_ends, Ends.release_written]; exact hwritten)))
  · exact .inl hdisturbed

/-- What the phase of a party asserts is kept when another is stopped. -/
theorem Asserts.release (hne : k ≠ i) (h : Asserts setting k r' ψ s) :
    Asserts setting k r' ψ (s.release i) := by
  refine ⟨h.1.release_other hne, ?_⟩
  cases r' with
  | client n request =>
    refine ⟨h.2.1, fun hlost => (h.2.2 hlost).imp (·.release i) fun hrefused => ?_⟩
    refine ⟨Ends.release_closed hrefused.1, fun d frame hd hframe => ?_⟩
    rw [Exchanges.release_ends, Ends.release_written]
    exact hrefused.2 d frame hd hframe
  | handler n => exact ⟨h.2.1, fun hlost => (h.2.2 hlost).imp_left (·.release i)⟩

/-- **What the phases assert is kept by every step.** -/
theorem partyOutline_valid : (partyOutline setting).Valid where
  follows := follows_program setting
  own i r φ c s reply t hs hown hmay h := by
    cases r with
    | client n request => exact own_client hs hown hmay h
    | handler n => exact own_handler hs hown hmay h
  other i r φ c s reply t k r' ψ hne _ hown hmay h hother := Asserts.step hne hown (acts hmay h) hother
  started M r s' hstarts hs := by
    obtain ⟨hr, rfl⟩ := hstarts
    exact ⟨hs.begun hr _, Asserts.begun hs hr _, fun k r' ψ h => h.kept hr _, fun p _ => ⟨trivial, trivial⟩⟩
  stopped i r φ s k r' ψ hne _ hother := hother.release hne
  releases i s hs := hs.release i

end Snarkypuss.Channel
