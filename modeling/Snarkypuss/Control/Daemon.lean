import Snarkypuss.Calls.Session
import Snarkypuss.Control.Protocol
import Snarkypuss.Targets.Repository

/-!
# The control service

`ControlService` as programs over the calls it makes: the provider, the repository, the status
collectors, its operation lock and its own mutable attributes. A call is one step, so the same
programs are executed one after the other and interleaved.

## Main definitions

* `DaemonCall`, `daemon`: every call of the service
* `ControlService`: the attributes that construction fixes
* `ControlService.init`: `ControlService.__init__`
* `ControlService.dispatch`: `ControlService.dispatch`, with one program for each request class
* `ServiceState`, `Environment`, `Environment.handler`: the state the calls act on
* `Environment.Run`: the runs of requests dispatched one after the other

## Main results

* `withGatewayMode_eq_vpn`, `withGatewayMode_eq_locked`, `withGatewayMode_eq_direct`: the
  observations that each mode stands for
-/

namespace Snarkypuss

/-! ## Calls -/

/-- The calls of the service: those of its collaborators, the operation lock, and the reads and
writes of `_current_target_alias`, `_catalogue` and `_targets`. -/
inductive DaemonCall
  | provider (c : ProviderCall)
  | repository (c : RepositoryCall)
  | collector (c : CollectorCall)
  | acquireLock
  | releaseLock
  | getTargetAlias
  | setTargetAlias (alias_ : Option String)
  | getCatalogue
  | setCatalogue (catalogue : TargetCatalogue)
  | getTargets
  | setTargets (targets : AliasMap)

/-- What each call returns. Acquiring does not block: it returns whether the lock was free. -/
@[reducible] def DaemonCall.Reply : DaemonCall → Type
  | provider c => c.Reply
  | repository _ => TargetCatalogue
  | collector c => c.Reply
  | acquireLock => Bool
  | releaseLock => Unit
  | getTargetAlias => Option String
  | setTargetAlias _ => Unit
  | getCatalogue => TargetCatalogue
  | setCatalogue _ => Unit
  | getTargets => AliasMap
  | setTargets _ => Unit

/-- The interface of the service. -/
abbrev daemon : Interface := ⟨DaemonCall, DaemonCall.Reply⟩

/-- Programs of the service. -/
abbrev Daemon (A : Type) := Program daemon PyException A

namespace Daemon

abbrev call (c : DaemonCall) : Daemon c.Reply := Program.call (I := daemon) c

abbrev provider (c : ProviderCall) : Daemon c.Reply := call (.provider c)

abbrev repository (c : RepositoryCall) : Daemon TargetCatalogue := call (.repository c)

abbrev collector (c : CollectorCall) : Daemon c.Reply := call (.collector c)

abbrev ofExcept {A : Type} (r : Except PyException A) : Daemon A := Program.done r

/-- `raise ProviderError(code, message)`. -/
abbrev providerError {A : Type} (code message : String) : Daemon A :=
  Program.raise (.provider code message)

end Daemon

/-! ## The gateway mode of an observation -/

/-- The mode that `ControlService._with_gateway_mode` derives. -/
def gatewayMode (state : VpnState) (protection : Option Bool) : GatewayMode :=
  match state, protection with
  | .connected, _ => .vpn
  | .disconnected, some true => .locked
  | .disconnected, some false => .direct
  | _, _ => .unknown

/-- `ControlService._with_gateway_mode`. -/
def withGatewayMode (status : VpnStatus) (settings : Option VpnSettings) : VpnStatus :=
  let protection := settings.bind VpnSettings.leakProtectionEnabled
  { status with
    gatewayMode := gatewayMode status.state protection
    leakProtectionActive := protection }

variable {status : VpnStatus} {settings : Option VpnSettings}

@[simp] theorem withGatewayMode_target :
    (withGatewayMode status settings).target = status.target := rfl

@[simp] theorem withGatewayMode_state :
    (withGatewayMode status settings).state = status.state := rfl

@[simp] theorem withGatewayMode_leakProtectionActive :
    (withGatewayMode status settings).leakProtectionActive =
      settings.bind VpnSettings.leakProtectionEnabled := rfl

/-- The mode is VPN for a connected provider, whatever the protection is. -/
theorem withGatewayMode_eq_vpn :
    (withGatewayMode status settings).gatewayMode = .vpn ↔ status.state = .connected := by
  simp only [withGatewayMode, gatewayMode]
  split <;> simp_all

/-- The mode is Locked for a disconnected provider with its protection reported on. -/
theorem withGatewayMode_eq_locked :
    (withGatewayMode status settings).gatewayMode = .locked ↔
      status.state = .disconnected ∧
        (withGatewayMode status settings).leakProtectionActive = some true := by
  simp only [withGatewayMode, gatewayMode]
  split <;> simp_all

/-- The mode is Direct for a disconnected provider with its protection reported off. -/
theorem withGatewayMode_eq_direct :
    (withGatewayMode status settings).gatewayMode = .direct ↔
      status.state = .disconnected ∧
        (withGatewayMode status settings).leakProtectionActive = some false := by
  simp only [withGatewayMode, gatewayMode]
  split <;> simp_all

/-! ## The service -/

def builtinRecommendedAlias : String := "recommended"
def builtinRecommendedLabel : String := "Fastest available server"

theorem builtinRecommendedAlias_valid :
    matchesPattern Char.isLower isLowerTail 31 builtinRecommendedAlias := by
  decide

theorem builtinRecommendedLabel_length :
    1 ≤ builtinRecommendedLabel.length ∧ builtinRecommendedLabel.length ≤ 100 := by
  decide

/-- The attributes of a `ControlService` that no request changes. The provider's name and
capabilities are class attributes of the adapter. -/
structure ControlService where
  name : Identifier
  capabilities : ProviderCapabilities
  publicIpUrl : String
  publicIpTimeoutSeconds : PyFloat
  builtinRecommendedTarget : Option StoredTarget
  builtin_alias : ∀ t ∈ builtinRecommendedTarget, t.alias.val = builtinRecommendedAlias

/-- A selector document whose kind is `recommended`. -/
def isRecommendedSelector (selector : JsonObject) : Bool :=
  selector.get? "kind" == some (.str "recommended")

/-- A target under the reserved alias or of the reserved kind. -/
def isReserved (target : StoredTarget) : Bool :=
  target.alias.val == builtinRecommendedAlias || isRecommendedSelector target.selector

namespace ControlService

open Daemon

variable (service : ControlService)

/-- `_is_reserved_builtin_target`. -/
def isReservedBuiltinTarget (target : StoredTarget) : Bool :=
  service.builtinRecommendedTarget.isSome && isReserved target

/-- The target that an alias stands for: the built-in one under its alias, else a stored one. -/
def resolvedTarget (targets : AliasMap) (alias_ : String) : Option StoredTarget :=
  if service.builtinRecommendedTarget.isSome && alias_ == builtinRecommendedAlias then
    service.builtinRecommendedTarget
  else targets.dict.get? alias_

/-- `_resolve_target`. -/
def resolveTarget (alias_ : String) : Daemon (Option StoredTarget) :=
  if service.builtinRecommendedTarget.isSome && alias_ == builtinRecommendedAlias then
    pure service.builtinRecommendedTarget
  else do
    let targets ← call .getTargets
    pure (targets.dict.get? alias_)

/-- The message of `_require_protection_configuration`. -/
def cannotConfigureProtection : PyException :=
  .provider "UNSUPPORTED_OPERATION" (service.name.val ++ " cannot configure leak protection.")

/-- `_require_protection_configuration`. -/
def requireProtectionConfiguration : Daemon Unit :=
  if service.capabilities.leakProtectionConfiguration then pure ()
  else Program.raise service.cannotConfigureProtection

/-- `_restore_leak_protection`: a `ProviderError` is logged and dropped. -/
def restoreLeakProtection : Daemon Unit := do
  let _ ← (provider (.setLeakProtection true)).attempt PyException.provider?
  pure ()

/-! ### Catalogue requests -/

/-- The refusal of `_require_active_provider`. -/
def unknownProvider (requestId : UUID) : ControlResponse :=
  .refusal requestId "UNKNOWN_PROVIDER" "The requested provider is not active."

def unsupportedTargetSelection (requestId : UUID) : ControlResponse :=
  .refusal requestId "UNSUPPORTED_TARGET_SELECTION"
    (service.name.val ++ " does not support target selection.")

def dispatchTargetSchema (requestId : UUID) (requested : Identifier) : Daemon ControlResponse :=
  if requested ≠ service.name then pure (unknownProvider requestId)
  else if !service.capabilities.targetSelection then
    pure (service.unsupportedTargetSelection requestId)
  else do
    let schema ← provider .targetSchema
    pure { requestId, success := true, message := "Provider target schema retrieved.",
           providerTargetSchema := some schema }

/-- The field that a discovery request names, or the refusal when there is none to discover. -/
def discoverableField (requestId : UUID) (schema : ProviderTargetSchema) (kind : Identifier)
    (field : FieldName) (context : JsonObject) : Except ControlResponse SelectorField :=
  match schema.selectorKinds.find? (·.kind = kind) with
  | none => .error (.refusal requestId "UNKNOWN_TARGET_KIND"
      "The requested target selector kind is not supported.")
  | some selectorKind =>
    match selectorKind.fields.find? (·.name = field) with
    | none => .error (.refusal requestId "UNKNOWN_TARGET_FIELD"
        "The requested target selector field is not supported.")
    | some selectorField =>
      if selectorField.optionSource ≠ .provider then
        .error (.refusal requestId "STATIC_TARGET_FIELD"
          "The requested target selector field does not use provider discovery.")
      else if ¬ (context.keys ⊆ selectorField.dependsOn ∧ selectorField.dependsOn ⊆ context.keys) then
        .error (.refusal requestId "INVALID_TARGET_CONTEXT"
          "Target discovery context does not match the field dependencies.")
      else .ok selectorField

def dispatchTargetOptions (requestId : UUID) (requested kind : Identifier) (field : FieldName)
    (context : JsonObject) : Daemon ControlResponse :=
  if requested ≠ service.name then pure (unknownProvider requestId)
  else if !service.capabilities.targetDiscovery then
    pure (.refusal requestId "UNSUPPORTED_TARGET_DISCOVERY"
      (service.name.val ++ " does not support target discovery."))
  else do
    let schema ← provider .targetSchema
    match discoverableField requestId schema kind field context with
    | .error refusal => pure refusal
    | .ok _ =>
      let options ← provider (.targetOptions kind field context)
      if options.provider ≠ service.name ∨ options.kind ≠ kind ∨ options.field ≠ field then
        providerError "INVALID_TARGET_OPTIONS"
          "Provider returned target options for a different discovery request."
      else
        pure { requestId, success := true, message := "Provider target options retrieved.",
               targetOptions := some options }

def dispatchTargetCatalogGet (requestId : UUID) (requested : Identifier) :
    Daemon ControlResponse :=
  if requested ≠ service.name then pure (unknownProvider requestId)
  else do
    let catalogue ← call .getCatalogue
    pure { requestId, success := true, message := "Editable target catalogue retrieved.",
           editableTargetCatalogue := some catalogue }

/-- A target with the selector the provider made of its own. The constructor checks it again. -/
def withSelector (target : StoredTarget) (selector : JsonObject) :
    Except PyException StoredTarget :=
  if h : boundedSelector selector then .ok { target with selector := selector, bounded := h }
  else .error .validation

/-- The tuple `normalized` of a replacement. -/
def normalizeTargets : List StoredTarget → Daemon (List StoredTarget)
  | [] => pure []
  | target :: targets => do
    let selector ← provider (.validateSelector target.selector)
    let first ← ofExcept (withSelector target selector)
    let rest ← normalizeTargets targets
    pure (first :: rest)

/-- The `try` block of a replacement. -/
def commitCatalogue (requested : Identifier) (expectedRevision : Nat)
    (targets : List StoredTarget) : Daemon TargetCatalogue := do
  let normalized ← normalizeTargets targets
  repository (.replaceCatalogue requested expectedRevision normalized)

/-- The exceptions a replacement turns into refusals, as their error code and message. -/
def replacementFailure : PyException → Option (String × String)
  | .provider _ message => some ("INVALID_CATALOG", message)
  | .repository "READ_ONLY_REPOSITORY" message => some ("CATALOG_MIGRATION_REQUIRED", message)
  | .repository code message => some (code, message)
  | _ => none

def dispatchTargetCatalogReplace (requestId : UUID) (requested : Identifier)
    (expectedRevision : Nat) (targets : List StoredTarget) : Daemon ControlResponse :=
  if requested ≠ service.name then pure (unknownProvider requestId)
  else if !service.capabilities.targetSelection then
    pure (service.unsupportedTargetSelection requestId)
  else if targets.isEmpty && service.builtinRecommendedTarget.isNone then
    pure (.refusal requestId "INVALID_CATALOG"
      "A target catalogue must contain at least one target.")
  else if targets.any service.isReservedBuiltinTarget then
    pure (.refusal requestId "INVALID_CATALOG"
      ("The recommended target is built in and must not be stored " ++
        "in the editable catalogue."))
  else do
    match ← (commitCatalogue requested expectedRevision targets).attempt replacementFailure with
    | .error (code, message) => pure (.refusal requestId code message)
    | .ok catalogue =>
      call (.setCatalogue catalogue)
      call (.setTargets
        (aliasMap (catalogue.targets.filter fun t => !service.isReservedBuiltinTarget t)))
      pure { requestId, success := true, message := "Target catalogue replaced.",
             editableTargetCatalogue := some catalogue }

def dispatchTargets (requestId : UUID) : Daemon ControlResponse := do
  let targets ← call .getTargets
  let summaries := (service.builtinRecommendedTarget.toList ++ targets.dict.values).map
    fun target => VpnTargetSummary.mk target.alias target.label
  pure { requestId, success := true, message := "Configured VPN targets retrieved.",
         targetCatalog := some ⟨service.name, service.capabilities, summaries⟩ }

/-! ### Status -/

def vpnComponent : Identifier := ⟨"vpn", by decide⟩
def vpnSettingsComponent : Identifier := ⟨"vpn_settings", by decide⟩
def publicIpComponent : Identifier := ⟨"public_ip", by decide⟩

/-- A component's reading: what it returned, or the failure that its exception amounts to. The
failure is constructed, and its texts checked, in the `except` clause. -/
def observe {A : Type} (component : Identifier) (caught : PyException → Option (String × String))
    (p : Daemon A) : Daemon (Option A × List ComponentFailure) := do
  match ← p.attempt caught with
  | .ok a => pure (some a, [])
  | .error (code, message) =>
    let failure ← ofExcept (ComponentFailure.validate component code message)
    pure (none, [failure])

/-- The status with the remembered target. The attribute is read for the test, and read again
for the update; a provider seen disconnected clears it. -/
def attributeTarget (status : VpnStatus) : Daemon VpnStatus := do
  let remembered ← call .getTargetAlias
  if remembered.isSome ∧ (status.state = .connected ∨ status.state = .connecting) then
    let target ← call .getTargetAlias
    pure { status with target := target }
  else if status.state = .disconnected then
    call (.setTargetAlias none)
    pure status
  else
    pure status

/-- The provider's part of a snapshot. -/
def observeVpn : Daemon (Option VpnStatus × List ComponentFailure) := do
  let (status, failures) ← observe vpnComponent PyException.provider? (provider .status)
  match status with
  | none => pure (none, failures)
  | some status =>
    let status ← attributeTarget status
    let (settings, settingsFailures) ←
      observe vpnSettingsComponent PyException.provider? (provider .settings)
    pure (some (withGatewayMode status settings), failures ++ settingsFailures)

/-- The public address, asked for in the modes that have one. -/
def observePublicIp (status : Option VpnStatus) :
    Daemon (Option PublicIpStatus × List ComponentFailure) :=
  match status.map VpnStatus.gatewayMode with
  | some .vpn | some .direct =>
    observe publicIpComponent PyException.statusCollection?
      (collector (.publicIp service.publicIpUrl service.publicIpTimeoutSeconds))
  | _ => pure (none, [])

def dispatchStatus (requestId : UUID) : Daemon ControlResponse := do
  let (status, vpnFailures) ← observeVpn
  let (publicIp, publicIpFailures) ← service.observePublicIp status
  let (dns, system, localFailures) ← collector .localStatus
  let checkedAt ← collector .now
  pure { requestId, success := true, message := "Gateway status retrieved.",
         gatewayStatus := some {
           checkedAt, vpnStatus := status, dns, system, publicIp,
           partialFailures := vpnFailures ++ publicIpFailures ++ localFailures } }

/-! ### Mode changes -/

def unknownTarget (requestId : UUID) : ControlResponse :=
  .refusal requestId "UNKNOWN_TARGET" "The requested target alias is not configured."

/-- `connect_stored` of a resolved target, remembered once it returned. -/
def connectTarget (target : StoredTarget) : Daemon VpnStatus := do
  let status ← provider (.connectStored target)
  call (.setTargetAlias (some target.alias))
  pure { status with target := some target.alias.val }

/-- `set_leak_protection(True)`, refused when the provider does not confirm it. -/
def enableProtection : Daemon Unit := do
  let settings ← provider (.setLeakProtection true)
  if settings.leakProtectionEnabled ≠ some true then
    providerError "PROTECTION_NOT_ENABLED"
      "Provider did not confirm that leak protection is enabled."
  else pure ()

/-- The provider disconnected, and the remembered target forgotten. -/
def disconnectTarget : Daemon VpnStatus := do
  let status ← provider .disconnect
  call (.setTargetAlias none)
  pure status

/-- The status with the mode that the settings read next give it, refused when it is not the
`mode` that the transition is for. -/
def requireGatewayMode (mode : GatewayMode) (message : String) (status : VpnStatus) :
    Daemon VpnStatus := do
  let settings ← provider .settings
  let status := withGatewayMode status (some settings)
  if status.gatewayMode ≠ mode then providerError "MODE_TRANSITION_FAILED" message
  else pure status

def dispatchProtected (requestId : UUID) (alias_ : Identifier) : Daemon ControlResponse := do
  match ← service.resolveTarget alias_ with
  | none => pure (unknownTarget requestId)
  | some target =>
    service.requireProtectionConfiguration
    enableProtection
    let status ← connectTarget target
    let status ← requireGatewayMode .vpn "Provider did not reach protected VPN mode." status
    pure { requestId, success := true,
           message := "Protected VPN mode enabled using target alias " ++ target.alias.val ++ ".",
           vpnStatus := some status }

def dispatchConnect (requestId : UUID) (alias_ : Identifier) : Daemon ControlResponse := do
  match ← service.resolveTarget alias_ with
  | none => pure (unknownTarget requestId)
  | some target =>
    let status ← connectTarget target
    let settings ← (provider .settings).attempt PyException.provider?
    pure { requestId, success := true,
           message := "Connected using target alias " ++ target.alias.val ++ ".",
           vpnStatus := some (withGatewayMode status settings.toOption) }

def dispatchDisconnect (requestId : UUID) : Daemon ControlResponse := do
  let settings ← provider .settings
  if ¬ (settings.leakProtectionEnabled = some true ∧ settings.firewallEnabled = some true) then
    pure (.refusal requestId "UNSAFE_DISCONNECT"
      ("Disconnect refused because provider leak protection " ++
        "and firewall are not verified enabled."))
  else
    let status ← disconnectTarget
    pure { requestId, success := true, message := "Upstream VPN disconnected.",
           vpnStatus := some (withGatewayMode status (some settings)) }

def dispatchLock (requestId : UUID) : Daemon ControlResponse := do
  service.requireProtectionConfiguration
  enableProtection
  let status ← disconnectTarget
  let status ← requireGatewayMode .locked "Provider did not reach Locked mode." status
  pure { requestId, success := true,
         message := "Locked mode enabled; public forwarding is protected.",
         vpnStatus := some status }

/-- The `try` block of a Direct transition. -/
def directTransition : Daemon VpnStatus := do
  let settings ← provider (.setLeakProtection false)
  if settings.leakProtectionEnabled ≠ some false then
    providerError "PROTECTION_NOT_DISABLED"
      "Provider did not confirm that leak protection is disabled."
  else
    let status ← disconnectTarget
    requireGatewayMode .direct "Provider did not reach Direct VPS mode." status

def dispatchDirect (requestId : UUID) : Daemon ControlResponse := do
  service.requireProtectionConfiguration
  match ← directTransition.attempt PyException.provider? with
  | .error (code, message) =>
    restoreLeakProtection
    providerError code message
  | .ok status =>
    pure { requestId, success := true,
           message := "Direct VPS mode enabled; the VPS public IP is exposed.",
           vpnStatus := some status }

/-! ### Dispatch -/

/-- `_dispatch_unlocked`. -/
def dispatchUnlocked (request : ControlRequest) : Daemon ControlResponse :=
  match request.operation with
  | .targetSchemaRequest requested => service.dispatchTargetSchema request.requestId requested
  | .targetOptionsRequest requested kind field context =>
    service.dispatchTargetOptions request.requestId requested kind field context
  | .targetCatalogGetRequest requested =>
    service.dispatchTargetCatalogGet request.requestId requested
  | .targetCatalogReplaceRequest requested expectedRevision targets =>
    service.dispatchTargetCatalogReplace request.requestId requested expectedRevision targets
  | .targetsRequest => service.dispatchTargets request.requestId
  | .statusRequest => service.dispatchStatus request.requestId
  | .protectedRequest target => service.dispatchProtected request.requestId target
  | .connectRequest target => service.dispatchConnect request.requestId target
  | .disconnectRequest => dispatchDisconnect request.requestId
  | .lockRequest => service.dispatchLock request.requestId
  | .directRequest => service.dispatchDirect request.requestId

def operationInProgress (requestId : UUID) : ControlResponse :=
  .refusal requestId "OPERATION_IN_PROGRESS"
    "Another VPN control operation is already in progress."

/-- `dispatch`: a mutation runs under the operation lock, or is refused while another one does. -/
def dispatch (request : ControlRequest) : Daemon ControlResponse :=
  if !request.operation.mutates then service.dispatchUnlocked request
  else do
    let acquired ← call .acquireLock
    if !acquired then pure (operationInProgress request.requestId)
    else (service.dispatchUnlocked request).finally_ (call .releaseLock)

end ControlService

/-! ## Construction -/

namespace ControlService

open Daemon

/-- A target under the reserved alias. -/
abbrev BuiltinTarget := {t : StoredTarget // t.alias.val = builtinRecommendedAlias}

/-- The constructor of the built-in target. Of its arguments only the selector can fail. -/
def builtinTarget (selector : JsonObject) : Except PyException BuiltinTarget :=
  if h : boundedSelector selector then
    .ok ⟨{ «alias» := ⟨builtinRecommendedAlias, by decide⟩,
           label := ⟨builtinRecommendedLabel, by decide⟩,
           position := ⟨0, by decide⟩, selector := selector, bounded := h }, rfl⟩
  else .error .validation

/-- `_make_builtin_recommended_target`. -/
def makeBuiltinRecommendedTarget (capabilities : ProviderCapabilities) :
    Daemon (Option BuiltinTarget) :=
  if !capabilities.targetSelection then pure none
  else do
    let schema ← provider .targetSchema
    match schema.selectorKinds.find? (·.kind.val = "recommended") with
    | none => pure none
    | some recommended =>
      if recommended.fields ≠ [] then pure none
      else
        let selector ← provider (.validateSelector (Dict.ofPairs [("kind", .str "recommended")]))
        let target ← ofExcept (builtinTarget selector)
        pure (some target)

/-- A catalogue without the targets that the built-in one shadows, renumbered. -/
def editable (builtin : Option StoredTarget) (catalogue : TargetCatalogue) : TargetCatalogue :=
  let kept := catalogue.targets.filter fun t => !(builtin.isSome && isReserved t)
  have hlen : kept.length ≤ maxTargets :=
    (List.length_filter_le _ _).trans catalogue.order.1
  have hnodup : (kept.map fun t => t.alias.val).Nodup :=
    catalogue.order.2.1.sublist (List.filter_sublist.map _)
  { catalogue with targets := renumber kept hlen, order := renumber_valid hlen hnodup }

/-- `ControlService.__init__`, from the repository it is given: the fixed attributes, and the
initial `_catalogue` and `_targets`. -/
def init (name : Identifier) (capabilities : ProviderCapabilities) (publicIpUrl : String)
    (publicIpTimeoutSeconds : PyFloat) : Daemon (ControlService × TargetCatalogue × AliasMap) := do
  let committed ← repository (.getCatalogue name)
  let builtin ← makeBuiltinRecommendedTarget capabilities
  let service : ControlService := {
    name, capabilities, publicIpUrl, publicIpTimeoutSeconds
    builtinRecommendedTarget := builtin.map Subtype.val
    builtin_alias := by
      intro t ht
      obtain ⟨b, -, rfl⟩ := Option.mem_map.mp ht
      exact b.2 }
  let catalogue := editable service.builtinRecommendedTarget committed
  pure (service, catalogue, aliasMap catalogue.targets)

end ControlService

/-! ## State -/

/-- What the calls of the service act on: the states of its collaborators, its attributes, and
whether the operation lock is held. -/
structure ServiceState (σ ρ τ : Type) where
  provider : σ
  repository : ρ
  collectors : τ
  currentTargetAlias : Option String
  catalogue : TargetCatalogue
  targets : AliasMap
  operationLocked : Bool

/-- The collaborators of the service, each from a state of its own. -/
structure Environment (σ ρ τ : Type) where
  provider : Handler vpnProvider PyException σ
  repository : Handler targetRepository PyException ρ
  collectors : Handler statusCollectors PyException τ

namespace Environment

variable {σ ρ τ : Type} (env : Environment σ ρ τ)

/-- The reply to a call of the service, and the state it leaves. -/
def handler : Handler daemon PyException (ServiceState σ ρ τ)
  | .provider c, s => ((env.provider c s.provider).1,
      { s with provider := (env.provider c s.provider).2 })
  | .repository c, s => ((env.repository c s.repository).1,
      { s with repository := (env.repository c s.repository).2 })
  | .collector c, s => ((env.collectors c s.collectors).1,
      { s with collectors := (env.collectors c s.collectors).2 })
  | .acquireLock, s => (.ok (!s.operationLocked), { s with operationLocked := true })
  | .releaseLock, s => (.ok (), { s with operationLocked := false })
  | .getTargetAlias, s => (.ok s.currentTargetAlias, s)
  | .setTargetAlias alias_, s => (.ok (), { s with currentTargetAlias := alias_ })
  | .getCatalogue, s => (.ok s.catalogue, s)
  | .setCatalogue catalogue, s => (.ok (), { s with catalogue := catalogue })
  | .getTargets, s => (.ok s.targets, s)
  | .setTargets targets, s => (.ok (), { s with targets := targets })

/-- Requests dispatched one after the other, each meeting a condition on the state before it. -/
abbrev Run (service : ControlService) (meets : ControlRequest → ServiceState σ ρ τ → Prop) :=
  Session env.handler service.dispatch meets

end Environment

end Snarkypuss
