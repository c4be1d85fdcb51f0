import Snarkypuss.Calls.Program

/-!
# Reasoning about programs

Judgements about executions. `Ensures` is a triple over the handler's state, whose postcondition
sees the result, returned or raised. `Uses` bounds the calls a program can make whatever the
replies are, and turns facts about single calls into facts about whole executions.

## Main definitions

* `Program.Ensures h P p Q`: from a state in `P`, execution ends in `Q`
* `Program.Returns h p s a s'`: from `s`, execution returns `a` and leaves `s'`
* `Program.Throws h p s e s'`: from `s`, execution raises `e` and leaves `s'`
* `Program.Uses allowed p`: every call `p` can make is allowed
* `Program.Answered rely p Q`: when every reply obeys `rely`, the result obeys `Q`

## Main results

* `Program.ensures_bind`, `Program.ensures_attempt`: the rules of the triples
* `Program.Uses.exec_invariant`: what the allowed calls keep, execution keeps
* `Program.Answered.exec`: replies under control give results under control
-/

namespace Snarkypuss

namespace Program

variable {I : Interface} {E A B S X : Type}

/-! ## Triples -/

section Triples

variable (h : Handler I E S)

/-- From a state in `P`, the execution of `p` ends with a result and a state in `Q`. -/
def Ensures (P : S → Prop) (p : Program I E A) (Q : Except E A → S → Prop) : Prop :=
  ∀ s, P s → Q (p.exec h s).result (p.exec h s).state

variable {h} {P P' : S → Prop} {Q Q' : Except E A → S → Prop}

theorem Ensures.weaken {p : Program I E A} (hp : Ensures h P p Q) (hP : ∀ s, P' s → P s)
    (hQ : ∀ r s, Q r s → Q' r s) : Ensures h P' p Q' :=
  fun s hs => hQ _ _ (hp s (hP s hs))

theorem ensures_done {r : Except E A} (hQ : ∀ s, P s → Q r s) :
    Ensures h P (done r) Q := hQ

theorem ensures_call {c : I.Call} {Q : Except E (I.Reply c) → S → Prop}
    (hc : ∀ s, P s → Q (h c s).1 (h c s).2) : Ensures h P (call c) Q := hc

/-- The rule of sequencing: the middle condition `R` is a postcondition of the first program,
and what it raises is raised by the sequence. -/
theorem ensures_bind {p : Program I E A} {f : A → Program I E B} {R : Except E A → S → Prop}
    {Q : Except E B → S → Prop} (hp : Ensures h P p R)
    (hf : ∀ a, Ensures h (R (.ok a)) (f a) Q) (he : ∀ e s, R (.error e) s → Q (.error e) s) :
    Ensures h P (p.bind f) Q := by
  intro s hs
  have hR := hp s hs
  cases hr : (p.exec h s).result with
  | ok a =>
    rw [hr] at hR
    rw [exec_bind_of_ok h hr]
    exact hf a _ hR
  | error e =>
    rw [hr] at hR
    rw [exec_bind_of_error h hr]
    exact he e _ hR

/-- The rule of a handler clause: the postcondition sees the reified result. -/
theorem ensures_attempt {caught : E → Option X} {p : Program I E A}
    {Q : Except E (Except X A) → S → Prop}
    (hp : Ensures h P p fun r s => Q (reify caught r) s) : Ensures h P (p.attempt caught) Q := by
  intro s hs
  rw [exec_attempt]
  exact hp s hs

/-- The rule of a cleanup that does not raise: it runs from what the program left, and the result
is the program's. -/
theorem ensures_finally_ {p : Program I E A} {cleanup : Program I E Unit}
    {R : Except E A → S → Prop} (hp : Ensures h P p R)
    (hc : ∀ r, Ensures h (R r) cleanup fun u s => u = .ok () ∧ Q r s) :
    Ensures h P (p.finally_ cleanup) Q := by
  intro s hs
  obtain ⟨hok, hQ⟩ := hc _ _ (hp s hs)
  rw [exec_finally_ h p cleanup s hok]
  exact hQ

end Triples

/-! ## Executions that return -/

section Returns

variable (h : Handler I E S)

/-- The execution of `p` from `s` returns `a` and leaves `s'`. -/
def Returns (p : Program I E A) (s : S) (a : A) (s' : S) : Prop :=
  (p.exec h s).result = .ok a ∧ (p.exec h s).state = s'

variable {h} {p : Program I E A} {f : A → Program I E B} {s s' s'' : S} {a : A} {b : B}

theorem returns_done_iff {r : Except E A} :
    Returns h (done r) s a s' ↔ r = .ok a ∧ s = s' := Iff.rfl

theorem returns_call_iff {c : I.Call} {a : I.Reply c} :
    Returns h (call c) s a s' ↔ (h c s).1 = .ok a ∧ (h c s).2 = s' := Iff.rfl

theorem returns_call {c : I.Call} {a : I.Reply c} (hc : h c s = (.ok a, s')) :
    Returns h (call c) s a s' := by
  rw [returns_call_iff, hc]
  exact ⟨rfl, rfl⟩

theorem returns_bind_iff :
    Returns h (p.bind f) s b s'' ↔ ∃ a s', Returns h p s a s' ∧ Returns h (f a) s' b s'' := by
  constructor
  · rintro ⟨hresult, hstate⟩
    obtain ⟨a, ha, hb, -⟩ := exec_bind_eq_ok h hresult
    rw [exec_bind_of_ok h ha] at hstate
    exact ⟨a, _, ⟨ha, rfl⟩, hb, hstate⟩
  · rintro ⟨a, s', ⟨ha, rfl⟩, hb, hstate⟩
    unfold Returns
    rw [exec_bind_of_ok h ha]
    exact ⟨hb, hstate⟩

theorem Returns.bind (hp : Returns h p s a s') (hf : Returns h (f a) s' b s'') :
    Returns h (p.bind f) s b s'' := returns_bind_iff.mpr ⟨a, s', hp, hf⟩

theorem returns_attempt_ok_iff {caught : E → Option X} :
    Returns h (p.attempt caught) s (.ok a) s' ↔ Returns h p s a s' := by
  unfold Returns
  rw [exec_attempt, reify_eq_ok]

theorem Returns.finally_ {cleanup : Program I E Unit} (hp : Returns h p s a s')
    (hc : Returns h cleanup s' () s'') : Returns h (p.finally_ cleanup) s a s'' := by
  obtain ⟨hresult, rfl⟩ := hp
  obtain ⟨hcleanup, rfl⟩ := hc
  unfold Returns
  rw [exec_finally_ h p cleanup s hcleanup]
  exact ⟨hresult, rfl⟩

variable {e : E}

/-- The execution of `p` from `s` raises `e` and leaves `s'`. -/
def Throws (h : Handler I E S) (p : Program I E A) (s : S) (e : E) (s' : S) : Prop :=
  (p.exec h s).result = .error e ∧ (p.exec h s).state = s'

theorem throws_call {c : I.Call} (hc : h c s = (.error e, s')) : Throws h (call c) s e s' := by
  show (h c s).1 = .error e ∧ (h c s).2 = s'
  rw [hc]
  exact ⟨rfl, rfl⟩

theorem throws_done (e : E) : Throws h (done (.error e) : Program I E A) s e s := ⟨rfl, rfl⟩

theorem Throws.bind (hp : Throws h p s e s') : Throws h (p.bind f) s e s' := by
  unfold Throws
  rw [exec_bind_of_error h hp.1]
  exact ⟨rfl, hp.2⟩

theorem Returns.bind_throws (hp : Returns h p s a s') (hf : Throws h (f a) s' e s'') :
    Throws h (p.bind f) s e s'' := by
  obtain ⟨hresult, rfl⟩ := hp
  unfold Throws
  rw [exec_bind_of_ok h hresult]
  exact hf

theorem Throws.finally_ {cleanup : Program I E Unit} (hp : Throws h p s e s')
    (hc : Returns h cleanup s' () s'') : Throws h (p.finally_ cleanup) s e s'' := by
  obtain ⟨hresult, rfl⟩ := hp
  obtain ⟨hcleanup, rfl⟩ := hc
  unfold Throws
  rw [exec_finally_ h p cleanup s hcleanup]
  exact ⟨hresult, rfl⟩

/-- An execution returns in one way. -/
theorem Returns.unique {a' : A} {t : S} (hp : Returns h p s a s') (hp' : Returns h p s a' t) :
    a = a' ∧ s' = t :=
  ⟨Except.ok.inj (hp.1.symm.trans hp'.1), hp.2.symm.trans hp'.2⟩

end Returns

/-! ## Allowed calls -/

/-- Every call that `p` can make is allowed, whatever the replies are. -/
def Uses (allowed : I.Call → Prop) : Program I E A → Prop
  | done _ => True
  | ask c next => allowed c ∧ ∀ r, (next r).Uses allowed

section Uses

variable {allowed : I.Call → Prop} {p : Program I E A} {f : A → Program I E B}

@[simp] theorem uses_raise (e : E) : (raise e : Program I E A).Uses allowed := trivial

@[simp] theorem uses_call (c : I.Call) :
    (call c : Program I E (I.Reply c)).Uses allowed ↔ allowed c :=
  ⟨fun hc => hc.1, fun hc => ⟨hc, fun _ => trivial⟩⟩

theorem Uses.bind (hp : p.Uses allowed) (hf : ∀ a, (f a).Uses allowed) :
    (p.bind f).Uses allowed := by
  induction p with
  | done r =>
    cases r with
    | ok a => exact hf a
    | error e => trivial
  | ask c next ih => exact ⟨hp.1, fun r => ih r (hp.2 r)⟩

theorem uses_call_bind {c : I.Call} {f : I.Reply c → Program I E B} (hc : allowed c)
    (hf : ∀ a, (f a).Uses allowed) : ((call c).bind f).Uses allowed :=
  ((uses_call c).mpr hc).bind hf

theorem Uses.attempt (caught : E → Option X) (hp : p.Uses allowed) :
    (p.attempt caught).Uses allowed := by
  induction p with
  | done r =>
    cases r with
    | ok a => trivial
    | error e => simp only [Program.attempt]; split <;> trivial
  | ask c next ih => exact ⟨hp.1, fun r => ih r (hp.2 r)⟩

theorem Uses.finally_ {cleanup : Program I E Unit} (hp : p.Uses allowed)
    (hc : cleanup.Uses allowed) : (p.finally_ cleanup).Uses allowed :=
  (hp.attempt some).bind fun _ => hc.bind fun _ => trivial

theorem Uses.mono {allowed' : I.Call → Prop} (hp : p.Uses allowed)
    (hi : ∀ c, allowed c → allowed' c) : p.Uses allowed' := by
  induction p with
  | done r => trivial
  | ask c next ih => exact ⟨hi c hp.1, fun r => ih r (hp.2 r)⟩

/-- The calls a program makes in an execution are allowed. -/
theorem Uses.exchanges (hp : p.Uses allowed) (h : Handler I E S) (s : S) :
    ∀ x ∈ (p.exec h s).exchanges, allowed x.call := by
  induction p generalizing s with
  | done r => simp
  | ask c next ih =>
    intro x hx
    rcases List.mem_cons.mp hx with rfl | hx
    · exact hp.1
    · exact ih _ (hp.2 _) _ x hx

/-- **What the allowed calls keep, execution keeps**, at every exchange and at the end. -/
theorem Uses.exec_invariant {h : Handler I E S} {K : S → Prop} (hp : p.Uses allowed)
    (hk : ∀ c s, allowed c → K s → K (h c s).2) {s : S} (hs : K s) :
    K (p.exec h s).state ∧ ∀ x ∈ (p.exec h s).exchanges, K x.after := by
  induction p generalizing s with
  | done r => exact ⟨hs, by simp⟩
  | ask c next ih =>
    have hs' := hk c s hp.1 hs
    obtain ⟨hend, hall⟩ := ih _ (hp.2 _) hs'
    refine ⟨hend, fun x hx => ?_⟩
    rcases List.mem_cons.mp hx with rfl | hx
    · exact hs'
    · exact hall x hx

/-- What the allowed calls keep is a postcondition. -/
theorem Uses.ensures {h : Handler I E S} {K : S → Prop} (hp : p.Uses allowed)
    (hk : ∀ c s, allowed c → K s → K (h c s).2) : Ensures h K p fun _ s => K s :=
  fun _ hs => (hp.exec_invariant hk hs).1

/-- What the allowed calls keep, once it holds after an exchange, holds at the end. -/
theorem Uses.exec_persists {h : Handler I E S} {K : S → Prop} (hp : p.Uses allowed)
    (hk : ∀ c s, allowed c → K s → K (h c s).2) {s : S} {x : Exchange I E S}
    (hx : x ∈ (p.exec h s).exchanges) (hK : K x.after) : K (p.exec h s).state := by
  induction p generalizing s with
  | done r => cases hx
  | ask c next ih =>
    rcases List.mem_cons.mp hx with rfl | hx
    · exact ((hp.2 _).exec_invariant hk hK).1
    · exact ih _ (hp.2 _) hx

/-- A quantity the allowed calls leave alone is left alone by execution. -/
theorem Uses.exec_unchanged {h : Handler I E S} {V : Type} {v : S → V} (hp : p.Uses allowed)
    (hk : ∀ c s, allowed c → v (h c s).2 = v s) (s : S) : v (p.exec h s).state = v s :=
  (hp.exec_invariant (K := fun t => v t = v s) (fun c t hc ht => (hk c t hc).trans ht) rfl).1

end Uses

/-! ## Replies under control -/

/-- When every reply obeys `rely`, the result obeys `Q`. -/
def Answered (rely : (c : I.Call) → Except E (I.Reply c) → Prop) (Q : Except E A → Prop) :
    Program I E A → Prop
  | done r => Q r
  | ask c next => ∀ r, rely c r → (next r).Answered rely Q

section Answered

variable {rely : (c : I.Call) → Except E (I.Reply c) → Prop} {Q : Except E A → Prop}
  {p : Program I E A}

@[simp] theorem answered_done (r : Except E A) :
    (done r : Program I E A).Answered rely Q ↔ Q r := Iff.rfl

@[simp] theorem answered_ask (c : I.Call) (next : Except E (I.Reply c) → Program I E A) :
    (ask c next).Answered rely Q ↔ ∀ r, rely c r → (next r).Answered rely Q := Iff.rfl

theorem answered_call (c : I.Call) {Q : Except E (I.Reply c) → Prop} :
    (call c : Program I E (I.Reply c)).Answered rely Q ↔ ∀ r, rely c r → Q r := Iff.rfl

/-- Nothing is asked of a program of whose result nothing is asked. -/
theorem answered_trivial (p : Program I E A) (hQ : ∀ r, Q r) : p.Answered rely Q := by
  induction p with
  | done r => exact hQ r
  | ask c next ih => exact fun r _ => ih r

theorem Answered.mono {Q' : Except E A → Prop} (hp : p.Answered rely Q) (hQ : ∀ r, Q r → Q' r) :
    p.Answered rely Q' := by
  induction p with
  | done r => exact hQ r hp
  | ask c next ih => exact fun r hr => ih r (hp r hr)

theorem Answered.bind {f : A → Program I E B} {Q' : Except E B → Prop}
    (hp : p.Answered rely Q) (hf : ∀ a, Q (.ok a) → (f a).Answered rely Q')
    (he : ∀ e, Q (.error e) → Q' (.error e)) : (p.bind f).Answered rely Q' := by
  induction p with
  | done r =>
    cases r with
    | ok a => exact hf a hp
    | error e => exact he e hp
  | ask c next ih => exact fun r hr => ih r (hp r hr)

theorem Answered.attempt {caught : E → Option X}
    (hp : p.Answered rely fun r => Q' (reify caught r)) : (p.attempt caught).Answered rely Q' := by
  induction p with
  | done r =>
    cases r with
    | ok a => exact hp
    | error e =>
      simp only [answered_done, reify] at hp
      simp only [Program.attempt]
      cases hc : caught e <;> simpa [hc] using hp
  | ask c next ih => exact fun r hr => ih r (hp r hr)

theorem Answered.finally_ {cleanup : Program I E Unit} {R : Except E Unit → Prop}
    (hp : p.Answered rely Q) (hc : cleanup.Answered rely R)
    (he : ∀ e, R (.error e) → Q (.error e)) : (p.finally_ cleanup).Answered rely Q := by
  have hattempt : (p.attempt some).Answered rely fun r => ∃ result, r = .ok result ∧ Q result := by
    refine Answered.attempt (hp.mono fun r hr => ?_)
    rw [reify_some]
    exact ⟨r, rfl, hr⟩
  refine hattempt.bind (fun result hresult => ?_) fun e he => ?_
  · obtain ⟨_, heq, hQ⟩ := hresult
    cases heq
    exact hc.bind (fun _ _ => hQ) he
  · obtain ⟨_, hr, -⟩ := he
    cases hr

/-- A handler whose replies all obey `rely` gives results under control. -/
theorem Answered.result {h : Handler I E S} (hp : p.Answered rely Q)
    (hrely : ∀ c s, rely c (h c s).1) (s : S) : Q (p.exec h s).result := by
  induction p generalizing s with
  | done r => exact hp
  | ask c next ih => exact ih _ (hp _ (hrely c s)) _

/-- An execution whose exchanges obey `rely` ends with a result under control. -/
theorem Answered.exchanges {h : Handler I E S} (hp : p.Answered rely Q) {s : S}
    (hx : ∀ x ∈ (p.exec h s).exchanges, rely x.call x.reply) : Q (p.exec h s).result := by
  induction p generalizing s with
  | done r => exact hp
  | ask c next ih =>
    exact ih _ (hp _ (hx _ List.mem_cons_self)) fun x hmem => hx x (List.mem_cons_of_mem _ hmem)

/-- **Replies under control give results under control**, when it is the allowed calls that keep
the control. -/
theorem Answered.exec {allowed : I.Call → Prop} {h : Handler I E S} {K : S → Prop}
    (hp : p.Answered rely Q) (hu : p.Uses allowed)
    (hk : ∀ c s, allowed c → K s → rely c (h c s).1 ∧ K (h c s).2) {s : S} (hs : K s) :
    Q (p.exec h s).result := by
  induction p generalizing s with
  | done r => exact hp
  | ask c next ih =>
    obtain ⟨hr, hs'⟩ := hk c s hu.1 hs
    exact ih _ (hp _ hr) (hu.2 _) hs'

end Answered

end Program

end Snarkypuss
