import Mathlib

/-!
# Streams between the ends of connections

Each connection has two ends, and each end is held by a process. What is written at one end is taken
at the other from the front, in pieces of any size. Nothing that was written is changed, so an end
has always got a prefix of what was written at its peer.

## Main definitions

* `Port`, `Port.peer`: the ends of the connections
* `End`, `Ends`: what has happened at an end, and at all of them
* `Ends.got`, `Ends.unread`: what an end has taken, and what it has yet to take
* `Ends.hold`, `Ends.write`, `Ends.advance`, `Ends.close`, `Ends.release`: what processes do
* `Ends.At`: what the holder of an end knows of it

## Main results

* `Ends.Sound.write`, `Ends.Sound.advance`: no end has taken more than was written
* `Ends.At.advance`: what is taken comes behind what was taken before
* `Ends.At.kept`: what an end has taken stays what it is when its peer writes
-/

namespace Snarkypuss

/-- The sides of a connection. -/
inductive Side
  | client
  | server
  deriving DecidableEq

/-- An end of a connection. -/
structure Port where
  connection : ℕ
  side : Side
  deriving DecidableEq

/-- The other end. -/
def Port.peer : Port → Port
  | ⟨n, .client⟩ => ⟨n, .server⟩
  | ⟨n, .server⟩ => ⟨n, .client⟩

@[simp] theorem Port.peer_peer (e : Port) : e.peer.peer = e := by
  obtain ⟨n, side⟩ := e
  cases side <;> rfl

theorem Port.peer_ne (e : Port) : e.peer ≠ e := by
  obtain ⟨n, side⟩ := e
  cases side <;> simp [Port.peer]

/-- What has happened at an end: the process that holds it, what was written there, how much of the
peer's writing was taken, and whether it is closed. -/
structure End (α : Type) where
  holder : Option ℕ
  written : List α
  taken : ℕ
  closed : Bool
  deriving DecidableEq

/-- An end that nobody has held. -/
def End.fresh {α : Type} : End α := ⟨none, [], 0, false⟩

/-- The ends of all connections. -/
abbrev Ends (α : Type) := Port → End α

namespace Ends

variable {α : Type} (s : Ends α) (e : Port)

/-- What an end has taken. -/
def got : List α := (s e.peer).written.take (s e).taken

/-- What an end has yet to take. -/
def unread : List α := (s e.peer).written.drop (s e).taken

/-- A process gets an end. -/
def hold (i : ℕ) : Ends α := Function.update s e { s e with holder := some i }

def write (xs : List α) : Ends α := Function.update s e { s e with written := (s e).written ++ xs }

/-- An end takes some of what it has yet to take. -/
def advance (count : ℕ) : Ends α := Function.update s e { s e with taken := (s e).taken + count }

def close : Ends α := Function.update s e { s e with closed := true }

/-- The ends that a process held are closed. -/
def release (i : ℕ) : Ends α :=
  fun e => if (s e).holder = some i then { s e with closed := true } else s e

/-- No end has taken more than was written. -/
def Sound : Prop := ∀ e : Port, (s e).taken ≤ (s e.peer).written.length

/-- What the holder of an end knows of it: what it has taken and written, and whether it has closed
it. -/
structure At (i : ℕ) (taken written : List α) (closed : Bool) : Prop where
  holder : (s e).holder = some i
  bound : (s e).taken ≤ (s e.peer).written.length
  got : s.got e = taken
  written : (s e).written = written
  closed : (s e).closed = closed

variable {s e} {e' : Port} {i k count : ℕ} {xs taken written : List α} {closed : Bool}

theorem got_append_unread : s.got e ++ s.unread e = (s e.peer).written := List.take_append_drop _ _

theorem got_of_unread (h : s.unread e = []) : s.got e = (s e.peer).written := by
  rw [← got_append_unread, h, List.append_nil]

theorem got_prefix : s.got e <+: (s e.peer).written := List.take_prefix _ _

/-- What an end has taken stays what it is when more is written at its peer. -/
theorem At.kept (h : s.At e k taken written closed) {t : Ends α} (he : t e = s e)
    (hpeer : (s e.peer).written <+: (t e.peer).written) : t.At e k taken written closed where
  holder := by rw [he, h.holder]
  bound := by
    rw [he]
    exact h.bound.trans hpeer.length_le
  got := by
    obtain ⟨more, hmore⟩ := hpeer
    rw [Ends.got, he, ← hmore, List.take_append_of_le_length h.bound, ← h.got, Ends.got]
  written := by rw [he, h.written]
  closed := by rw [he, h.closed]

/-! ### Holding -/

@[simp] theorem hold_self : (s.hold e i) e = { s e with holder := some i } := Function.update_self _ _ _

theorem hold_of_ne (h : e' ≠ e) : (s.hold e i) e' = s e' := Function.update_of_ne h _ _

@[simp] theorem hold_written : ((s.hold e i) e').written = (s e').written := by
  by_cases h : e' = e
  · subst h
    rw [hold_self]
  · rw [hold_of_ne h]

@[simp] theorem hold_taken : ((s.hold e i) e').taken = (s e').taken := by
  by_cases h : e' = e
  · subst h
    rw [hold_self]
  · rw [hold_of_ne h]

@[simp] theorem hold_closed : ((s.hold e i) e').closed = (s e').closed := by
  by_cases h : e' = e
  · subst h
    rw [hold_self]
  · rw [hold_of_ne h]

@[simp] theorem hold_got : (s.hold e i).got e' = s.got e' := by simp [got]

theorem Sound.hold (h : s.Sound) : (s.hold e i).Sound := fun e' => by simpa using h e'

/-! ### Writing -/

@[simp] theorem write_self : (s.write e xs) e = { s e with written := (s e).written ++ xs } :=
  Function.update_self _ _ _

theorem write_of_ne (h : e' ≠ e) : (s.write e xs) e' = s e' := Function.update_of_ne h _ _

theorem write_prefix : (s e').written <+: ((s.write e xs) e').written := by
  by_cases h : e' = e
  · subst h
    rw [write_self]
    exact List.prefix_append _ _
  · rw [write_of_ne h]

@[simp] theorem write_closed : ((s.write e xs) e').closed = (s e').closed := by
  by_cases h : e' = e
  · subst h
    rw [write_self]
  · rw [write_of_ne h]

@[simp] theorem write_taken : ((s.write e xs) e').taken = (s e').taken := by
  by_cases h : e' = e
  · subst h
    rw [write_self]
  · rw [write_of_ne h]

theorem Sound.write (h : s.Sound) : (s.write e xs).Sound := fun e' => by
  rw [write_taken]
  exact (h e').trans write_prefix.length_le

/-- What an end has taken stays what it is when more is written. -/
theorem Sound.write_got (h : s.Sound) : (s.write e xs).got e' = s.got e' := by
  obtain ⟨more, hmore⟩ : (s e'.peer).written <+: ((s.write e xs) e'.peer).written := write_prefix
  rw [got, got, write_taken, ← hmore, List.take_append_of_le_length (h e')]

theorem At.write (h : s.At e i taken written closed) (hs : s.Sound) :
    (s.write e xs).At e i taken (written ++ xs) closed where
  holder := by rw [write_self, ← h.holder]
  bound := hs.write e
  got := by rw [hs.write_got, h.got]
  written := by rw [write_self, ← h.written]
  closed := by rw [write_self, ← h.closed]

/-! ### Taking -/

@[simp] theorem advance_self : (s.advance e count) e = { s e with taken := (s e).taken + count } :=
  Function.update_self _ _ _

theorem advance_of_ne (h : e' ≠ e) : (s.advance e count) e' = s e' := Function.update_of_ne h _ _

@[simp] theorem advance_written : ((s.advance e count) e').written = (s e').written := by
  by_cases h : e' = e
  · subst h
    rw [advance_self]
  · rw [advance_of_ne h]

@[simp] theorem advance_closed : ((s.advance e count) e').closed = (s e').closed := by
  by_cases h : e' = e
  · subst h
    rw [advance_self]
  · rw [advance_of_ne h]

theorem advance_got_of_ne (h : e' ≠ e) : (s.advance e count).got e' = s.got e' := by
  rw [got, got, advance_written, advance_of_ne h]

theorem Sound.advance (h : s.Sound) (hcount : count ≤ (s.unread e).length) :
    (s.advance e count).Sound := fun e' => by
  rw [advance_written]
  by_cases he : e' = e
  · subst he
    rw [unread, List.length_drop] at hcount
    have := h e'
    rw [advance_self]
    show (s e').taken + count ≤ _
    omega
  · rw [advance_of_ne he]
    exact h e'

/-- What is taken comes behind what was taken before. -/
theorem advance_got : (s.advance e count).got e = s.got e ++ (s.unread e).take count := by
  rw [got, got, unread, advance_written, advance_self, List.take_add]

theorem At.advance (h : s.At e i taken written closed) (hs : s.Sound) {rest : List α}
    (hunread : s.unread e = xs ++ rest) :
    (s.advance e xs.length).At e i (taken ++ xs) written closed where
  holder := by rw [advance_self, ← h.holder]
  bound := hs.advance (by rw [hunread, List.length_append]; omega) e
  got := by rw [advance_got, hunread, List.take_left, h.got]
  written := by rw [advance_written, h.written]
  closed := by rw [advance_self, ← h.closed]

/-! ### Closing -/

@[simp] theorem close_self : (s.close e) e = { s e with closed := true } := Function.update_self _ _ _

theorem close_of_ne (h : e' ≠ e) : (s.close e) e' = s e' := Function.update_of_ne h _ _

@[simp] theorem close_written : ((s.close e) e').written = (s e').written := by
  by_cases h : e' = e
  · subst h
    rw [close_self]
  · rw [close_of_ne h]

@[simp] theorem close_taken : ((s.close e) e').taken = (s e').taken := by
  by_cases h : e' = e
  · subst h
    rw [close_self]
  · rw [close_of_ne h]

@[simp] theorem close_got : (s.close e).got e' = s.got e' := by simp [got]

theorem Sound.close (h : s.Sound) : (s.close e).Sound := fun e' => by simpa using h e'

theorem At.close (h : s.At e i taken written closed) : (s.close e).At e i taken written true where
  holder := by rw [close_self, ← h.holder]
  bound := by
    rw [close_taken, close_written]
    exact h.bound
  got := by rw [close_got, h.got]
  written := by rw [close_written, h.written]
  closed := by rw [close_self]

/-! ### Releasing -/

theorem release_of_ne (h : (s e).holder ≠ some i) : (s.release i) e = s e := if_neg h

theorem release_of_eq (h : (s e).holder = some i) : (s.release i) e = { s e with closed := true } :=
  if_pos h

@[simp] theorem release_written : ((s.release i) e).written = (s e).written := by
  rw [release]
  split <;> rfl

@[simp] theorem release_taken : ((s.release i) e).taken = (s e).taken := by
  rw [release]
  split <;> rfl

@[simp] theorem release_got : (s.release i).got e = s.got e := by simp [got]

/-- A closed end stays closed. -/
theorem release_closed (h : (s e).closed = true) : ((s.release i) e).closed = true := by
  rw [release]
  split
  · rfl
  · exact h

theorem Sound.release (h : s.Sound) : (s.release i).Sound := fun e => by simpa using h e

theorem At.release_other (h : s.At e k taken written closed) (hne : k ≠ i) :
    (s.release i).At e k taken written closed := by
  have hholder : (s e).holder ≠ some i := by
    rw [h.holder]
    exact fun heq => hne (Option.some.inj heq)
  exact h.kept (release_of_ne hholder) (by rw [release_written])

/-- Two processes hold different ends. -/
theorem At.ne (h : s.At e i taken written closed) {taken' written' : List α} {closed' : Bool}
    (h' : s.At e' k taken' written' closed') (hne : k ≠ i) : e' ≠ e := by
  rintro rfl
  exact hne (Option.some.inj (h'.holder.symm.trans h.holder))

end Ends

end Snarkypuss
