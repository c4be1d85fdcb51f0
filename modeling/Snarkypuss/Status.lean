import Snarkypuss.Providers.Base

/-!
# Gateway status

The models of a status snapshot, and the collectors that contribute to it.

## Main definitions

* `ComponentFailure`: a component that could not contribute, with its validated texts
* `DnsStatus`, `SystemStatus`, `PublicIpStatus`, `GatewayStatus`: the snapshot
* `CollectorCall`, `statusCollectors`: the collectors a snapshot calls
* `reading`: what an `except` clause makes of a component that raised
* `StatusSources`, `collectLocalStatus`: the local components and their collector

## Main results

* `readingOption_of_reportable`, `reportable_of_readingOption`: a failure is reported exactly when
  its texts fit
-/

namespace Snarkypuss

/-- One component that could not contribute to a status snapshot. -/
structure ComponentFailure where
  component : Identifier
  code : FailureCode
  message : BoundedText 1 512
  deriving DecidableEq

/-- The texts that the constructor of a `ComponentFailure` accepts. -/
def ComponentFailure.Fits (code message : String) : Prop :=
  matchesPattern Char.isUpper isUpperTail 63 code ∧ 1 ≤ message.length ∧ message.length ≤ 512

instance (code message : String) : Decidable (ComponentFailure.Fits code message) :=
  inferInstanceAs (Decidable (_ ∧ _))

/-- The constructor of a `ComponentFailure` for one of the daemon's components. -/
def ComponentFailure.validate (component : Identifier) (code message : String) :
    Except PyException ComponentFailure :=
  if h : Fits code message then .ok ⟨component, ⟨code, h.1⟩, ⟨message, h.2⟩⟩
  else .error .validation

/-- The constructor is handed texts that fit, or raises. -/
theorem ComponentFailure.validate_of_fits (component : Identifier) {code message : String}
    (h : Fits code message) :
    ComponentFailure.validate component code message = .ok ⟨component, ⟨code, h.1⟩, ⟨message, h.2⟩⟩ :=
  dif_pos h

theorem ComponentFailure.validate_of_not_fits (component : Identifier) {code message : String}
    (h : ¬ Fits code message) :
    ComponentFailure.validate component code message = .error .validation := dif_neg h

/-- Observed service state and resolver health of the private DNS service. -/
structure DnsStatus where
  service : String
  loadState : String
  activeState : String
  subState : String
  healthy : Option Bool := none
  deriving DecidableEq

/-- A `float`, by the bits of its binary64 encoding. -/
abbrev PyFloat := BitVec 64

/-- Neither infinite nor a NaN: the exponent bits are not all ones. -/
def PyFloat.isFinite (x : PyFloat) : Bool := x.extractLsb' 52 11 != BitVec.allOnes 11

/-- Small, stable set of host resource observations. -/
structure SystemStatus where
  uptimeSeconds : Nat
  loadAverage : PyFloat × PyFloat × PyFloat
  memoryTotalBytes : Nat
  memoryAvailableBytes : Nat
  rootDiskTotalBytes : Nat
  rootDiskFreeBytes : Nat
  deriving DecidableEq

/-- An `ipaddress.IPv4Address`, by its octets. -/
structure Ipv4Address where
  a : Fin 256
  b : Fin 256
  c : Fin 256
  d : Fin 256
  deriving DecidableEq

/-- Observed public IPv4 address from a verified HTTPS endpoint. -/
structure PublicIpStatus where
  address : Ipv4Address
  version : Int := 4
  checkedAt : DateTime
  deriving DecidableEq

/-- Partially degradable status snapshot returned by the control daemon. -/
structure GatewayStatus where
  checkedAt : DateTime
  vpnStatus : Option VpnStatus
  dns : Option DnsStatus
  system : Option SystemStatus
  publicIp : Option PublicIpStatus := none
  partialFailures : List ComponentFailure := []
  deriving DecidableEq

/-! ## Reading a component -/

section Reading

variable {A : Type} (component : Identifier) (caught : PyException → Option (String × String))

/-- What a component contributes, and the failure that the exception it raised is turned into.
The texts of a failure are checked when it is constructed, in the `except` clause. -/
def reading : Except PyException A → Except PyException (Option A × List ComponentFailure)
  | .ok a => .ok (some a, [])
  | .error e =>
    match caught e with
    | some (code, message) => do
      let failure ← ComponentFailure.validate component code message
      pure (none, [failure])
    | none => .error e

/-- The failure of a component, by the name of the component and the code of the exception. -/
def failureOf : Except PyException A → List (String × String)
  | .ok _ => []
  | .error e => ((caught e).map fun x => (component.val, x.1)).toList

/-- The component and the code of each failure. -/
def failureCodes (failures : List ComponentFailure) : List (String × String) :=
  failures.map fun failure => (failure.component.val, failure.code.val)

@[simp] theorem failureCodes_nil : failureCodes [] = [] := rfl

@[simp] theorem failureCodes_append (fs gs : List ComponentFailure) :
    failureCodes (fs ++ gs) = failureCodes fs ++ failureCodes gs := List.map_append

/-- A component that may be left unread contributes nothing then. -/
def readingOption : Option (Except PyException A) → Except PyException (Option A × List ComponentFailure)
  | none => .ok (none, [])
  | some r => reading component caught r

@[simp] theorem reading_ok (a : A) : reading component caught (.ok a) = .ok (some a, []) := rfl

variable {component caught}

/-- When the clause catches the exception, its texts are those of a `ComponentFailure`. -/
def Reportable (caught : PyException → Option (String × String)) (e : PyException) : Prop :=
  ∀ x, caught e = some x → ComponentFailure.Fits x.1 x.2

/-- The clause catches the exception. -/
def Caught (caught : PyException → Option (String × String)) (e : PyException) : Prop :=
  (caught e).isSome

/-- A component whose failure is reportable contributes its value, or its failure under its
code. -/
theorem reading_of_reportable (component : Identifier) {r : Except PyException A}
    (hcaught : Raises (Caught caught) r) (h : Raises (Reportable caught) r) :
    ∃ failures, readingOption component caught (some r) = .ok (r.toOption, failures) ∧
      failureCodes failures = failureOf component caught r := by
  cases r with
  | ok a => exact ⟨[], rfl, rfl⟩
  | error e =>
    obtain ⟨⟨code, message⟩, hx⟩ := Option.isSome_iff_exists.mp (hcaught e rfl)
    have hvalid := ComponentFailure.validate_of_fits component (h e rfl _ hx)
    refine ⟨_, by simp only [readingOption, reading, hx, hvalid]; rfl, ?_⟩
    simp [failureCodes, failureOf, hx]

theorem readingOption_of_reportable (component : Identifier) {o : Option (Except PyException A)}
    (hcaught : ∀ r ∈ o, Raises (Caught caught) r) (h : ∀ r ∈ o, Raises (Reportable caught) r) :
    ∃ failures, readingOption component caught o = .ok (o.bind Except.toOption, failures) ∧
      failureCodes failures = (o.map (failureOf component caught)).getD [] := by
  cases o with
  | none => exact ⟨[], rfl, rfl⟩
  | some r => exact reading_of_reportable component (hcaught r rfl) (h r rfl)

/-- A component whose failure is not reportable raises a `ValidationError`. -/
theorem reading_of_not_reportable (component : Identifier) {r : Except PyException A}
    (h : ¬ Raises (Reportable caught) r) :
    readingOption component caught (some r) = .error .validation := by
  simp only [Raises, Reportable, not_forall] at h
  obtain ⟨e, rfl, ⟨code, message⟩, hx, hnot⟩ := h
  have hinvalid := ComponentFailure.validate_of_not_fits component hnot
  simp only [readingOption, reading, hx, hinvalid]
  rfl

/-- What is read, or reported, is reportable. -/
theorem reportable_of_readingOption {o : Option (Except PyException A)}
    {x : Option A × List ComponentFailure} (h : readingOption component caught o = .ok x) :
    ∀ r ∈ o, Raises (Reportable caught) r := by
  rintro r rfl
  by_contra hnot
  rw [reading_of_not_reportable component hnot] at h
  cases h

end Reading

/-! ## Collectors -/

/-- What the daemon calls to build a snapshot, apart from the provider. -/
inductive CollectorCall
  | localStatus
  | publicIp (url : String) (timeoutSeconds : PyFloat)
  | now
  deriving DecidableEq

/-- What each collector returns. -/
@[reducible] def CollectorCall.Reply : CollectorCall → Type
  | localStatus => Option DnsStatus × Option SystemStatus × List ComponentFailure
  | publicIp .. => PublicIpStatus
  | now => DateTime

/-- The interface of the collectors. -/
abbrev statusCollectors : Interface := ⟨CollectorCall, CollectorCall.Reply⟩

/-- The functions that a snapshot is collected with, from a state of their own. -/
structure StatusSources (τ : Type) where
  dns : τ → Except PyException DnsStatus × τ
  system : τ → Except PyException SystemStatus × τ
  publicIp : String → PyFloat → τ → Except PyException PublicIpStatus × τ
  now : τ → DateTime × τ

def dnsComponent : Identifier := ⟨"dns", by decide⟩
def systemComponent : Identifier := ⟨"system", by decide⟩

/-- `collect_local_status`. -/
def collectLocalStatus {τ : Type} (sources : StatusSources τ) (t : τ) :
    Except PyException (Option DnsStatus × Option SystemStatus × List ComponentFailure) × τ :=
  let (dns, t) := sources.dns t
  match reading dnsComponent PyException.statusCollection? dns with
  | .error e => (.error e, t)
  | .ok (dns, dnsFailures) =>
    let (system, t) := sources.system t
    match reading systemComponent PyException.statusCollection? system with
    | .error e => (.error e, t)
    | .ok (system, systemFailures) => (.ok (dns, system, dnsFailures ++ systemFailures), t)

/-- The local components are read one after the other. -/
theorem collectLocalStatus_result {τ : Type} (sources : StatusSources τ) (t : τ) :
    (collectLocalStatus sources t).1 = (do
      let (dns, dnsFailures) ←
        reading dnsComponent PyException.statusCollection? (sources.dns t).1
      let (system, systemFailures) ←
        reading systemComponent PyException.statusCollection? (sources.system (sources.dns t).2).1
      pure (dns, system, dnsFailures ++ systemFailures)) := by
  simp only [collectLocalStatus]
  cases reading dnsComponent PyException.statusCollection? (sources.dns t).1 with
  | error e => rfl
  | ok x =>
    dsimp only
    cases hsystem : reading systemComponent PyException.statusCollection?
        (sources.system (sources.dns t).2).1 with
    | error e => simp only [bind, Except.bind, hsystem]
    | ok y => simp only [bind, Except.bind, hsystem]; rfl

/-- The collectors of the daemon. -/
def StatusSources.collectors {τ : Type} (sources : StatusSources τ) :
    Handler statusCollectors PyException τ
  | .localStatus, t => collectLocalStatus sources t
  | .publicIp url timeoutSeconds, t => sources.publicIp url timeoutSeconds t
  | .now, t => (.ok (sources.now t).1, (sources.now t).2)

end Snarkypuss
