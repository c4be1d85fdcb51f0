import Snarkypuss.Control.Footprint
import Snarkypuss.Dashboard.Tracking
import Snarkypuss.Targets.SchemaValidation
import Snarkypuss.Web.Guard
import Snarkypuss.Web.QueryString

/-!
# The context of a discovery

A field's dependencies on their way from an edited selector to the provider: as the parameters of a
request, as the mapping that the web application makes of them, and as the context that the daemon
passes on. The parameters share their names with those of the type and the field, and all of their
values are texts.

## Main definitions

* `OptionsHttpRequest`: the request that the page makes for the options of a field
* `Asked`: the provider is asked for options on behalf of a request
* `Conveyed`: it is asked with the dependencies of the selector, and nothing else

## Main results

* `Asked.context`: what the provider is asked with is what the web application makes of the request
* `conveyed_iff`: the fields whose dependencies are conveyed
-/

namespace Snarkypuss

open Dashboard Web

/-! ## From the page to the provider -/

/-- The `params` of `loadProviderOptions`. -/
def optionsParams (kind : SelectorKind) (field : SelectorField) (selector : JsonObject) :
    List (String × String) :=
  ("kind", kind.kind.val) :: ("field", field.name.val) ::
    (discoveryContext selector field).map fun entry => (entry.1, toText entry.2)

/-- The request is the one of `loadProviderOptions`, as the framework reads it. The rest of it is
what the browser sends with every request. -/
structure OptionsHttpRequest (request : HttpRequest) (kind : SelectorKind) (field : SelectorField)
    (selector : JsonObject) : Prop where
  method : request.method = "GET"
  path : request.path = "/api/v3/admin/vpn/target-options"
  queryParams : request.queryParams =
    QueryString.parseQsl (QueryString.serialize (optionsParams kind field selector))

/-- The context that `admin_target_options` makes of a request. -/
def webContext (request : HttpRequest) : JsonObject :=
  Dict.ofPairs ((request.queryParams.filter fun param => param.1 ≠ "kind" ∧ param.1 ≠ "field").map
    fun param => (param.1, .str param.2))

/-- On behalf of the request the provider is asked for options: the application sends the daemon an
operation, in whose dispatch it is, and which the provider has told its schema before. All other
replies are arbitrary. -/
def Asked (application : Application) (service : ControlService) (schema : ProviderTargetSchema)
    (request : HttpRequest) (kind field : String) (context : JsonObject) : Prop :=
  ∃ runtime operation, (application.serve request).CanCall (.control runtime operation) ∧
    ∃ requestId ys next,
      (service.dispatch ⟨requestId, operation⟩).Path ys
        (.ask (.provider (.targetOptions kind field context)) next) ∧
      ∀ reply, (⟨.provider .targetSchema, reply⟩ : Replied daemon PyException) ∈ ys →
        reply = .ok schema

/-- The provider is asked for the options of this field, with its dependencies and their values. -/
structure Conveyed (application : Application) (service : ControlService)
    (schema : ProviderTargetSchema) (request : HttpRequest) (kind : SelectorKind)
    (field : SelectorField) (selector : JsonObject) : Prop where
  exact_ : ∀ k f context, Asked application service schema request k f context →
    k = kind.kind.val ∧ f = field.name.val ∧
      ∀ name, context.get? name = if name ∈ field.dependsOn then selector.get? name else none
  asked : ∃ k f context, Asked application service schema request k f context

/-- A value of the declared type. -/
def SelectorFieldType.Admits : SelectorFieldType → JsonScalar → Prop
  | .text, .str _ => True
  | .choice, .str _ => True
  | .boolean, .bool _ => True
  | .integer, .int _ => True
  | _, _ => False

/-- The dependencies of the field have values of their declared types. -/
def HasDeclaredValues (kind : SelectorKind) (field : SelectorField) (selector : JsonObject) : Prop :=
  ∀ declared ∈ kind.fields, declared.name.val ∈ field.dependsOn →
    ∃ value, selector.get? declared.name.val = some value ∧ declared.fieldType.Admits value

/-! ## What the handler sends -/

/-- The handler asks the daemon for the options of this request, or for the active provider. -/
def AsksOptions (request : HttpRequest) : WebCall → Prop
  | .control _ (.targetOptionsRequest _ kind field context) =>
    request.query "kind" = some kind.val ∧ request.query "field" = some field.val ∧
      context.val = webContext request
  | .control _ .targetsRequest => True
  | .control .. => False
  | _ => True

section Uses

variable {allowed : WebCall → Prop} {runtime : WebRuntime} {operation : Operation}

theorem uses_targetControl_of (h : allowed (.control runtime operation)) :
    (targetControl runtime operation).Uses allowed := by
  refine Program.Uses.bind (Program.Uses.bind (Program.Uses.attempt _ ⟨h, fun _ => trivial⟩) ?_) ?_
  · intro r
    cases r <;> trivial
  · intro response
    split <;> trivial

theorem uses_activeProvider_of (h : allowed (.control runtime .targetsRequest)) :
    (activeProvider runtime).Uses allowed :=
  (uses_targetControl_of h).bind fun _ => (uses_require _ _ _).bind fun _ => trivial

end Uses

/-- The route of the request. -/
theorem OptionsHttpRequest.serve {request : HttpRequest} {kind : SelectorKind}
    {field : SelectorField} {selector : JsonObject}
    (h : OptionsHttpRequest request kind field selector) (application : Application) :
    application.serve request = application.handle request .adminTargetOptions := by
  unfold Application.serve
  rw [h.method, h.path]
  rfl

theorem uses_handle_options (application : Application) (request : HttpRequest) :
    (application.handle request .adminTargetOptions).Uses (AsksOptions request) := by
  simp only [Application.handle]
  split
  · rename_i k f hk hf
    split
    · refine Program.Uses.bind ((uses_authenticated request).mono ?_) fun runtime => ?_
      · intro c hc
        cases c with
        | control => exact hc.elim
        | _ => trivial
      refine (uses_activeProvider_of trivial).bind fun provider => ?_
      dsimp only
      split
      · exact (uses_targetControl_of ⟨hk, hf, rfl⟩).bind fun response =>
          (uses_require _ _ _).bind fun options => trivial
      · trivial
    · trivial
  · trivial

/-- A dispatch asks for the options that its request names. -/
theorem uses_dispatch_options (service : ControlService) (requestId : UUID)
    (requested kind : Identifier) (field : FieldName)
    (context : {context : JsonObject // context.entries.length ≤ 16}) :
    (service.dispatch ⟨requestId, .targetOptionsRequest requested kind field context⟩).Uses
      fun c : DaemonCall => ∀ k f given, c = .provider (.targetOptions k f given) →
        k = kind.val ∧ f = field.val ∧ given = context.val := by
  change (service.dispatchTargetOptions requestId requested kind field context).Uses _
  unfold ControlService.dispatchTargetOptions
  split
  · trivial
  split
  · trivial
  refine Program.uses_call_bind (fun k f given heq => by cases heq) fun schema => ?_
  split
  · trivial
  · refine Program.uses_call_bind ?_ fun options => ?_
    · intro k f given heq
      cases heq
      exact ⟨rfl, rfl, rfl⟩
    · split <;> trivial

/-- **What the provider is asked with** is what the application makes of the request. -/
theorem Asked.context {application : Application} {service : ControlService}
    {schema : ProviderTargetSchema} {request : HttpRequest}
    (hserve : application.serve request = application.handle request .adminTargetOptions)
    {k f : String} {context : JsonObject} (h : Asked application service schema request k f context) :
    request.query "kind" = some k ∧ request.query "field" = some f ∧
      context = webContext request := by
  obtain ⟨runtime, operation, ⟨xs, next, hweb⟩, requestId, ys, next', hdispatch, -⟩ := h
  rw [hserve] at hweb
  have hsent := (uses_handle_options application request).at_call hweb
  cases operation with
  | targetOptionsRequest requested kind' field' context' =>
    obtain ⟨hkind, hfield, hcontext⟩ := hsent
    obtain ⟨rfl, rfl, rfl⟩ := (uses_dispatch_options service requestId requested kind' field'
      context').at_call hdispatch k f context rfl
    exact ⟨hkind, hfield, hcontext⟩
  | targetsRequest =>
    rcases (service.uses_dispatch ⟨requestId, .targetsRequest⟩).at_call hdispatch with h | h | h
    · cases h
    · cases h
    · cases h
  | _ => exact hsent.elim

/-! ## The way through -/

/-- An element is found by a key that no other has. -/
theorem find?_key {A B : Type} [DecidableEq B] {key : A → B} {as : List A}
    (h : (as.map key).Nodup) {a : A} (ha : a ∈ as) : as.find? (fun x => key x = key a) = some a := by
  obtain ⟨x, hx⟩ := Option.isSome_iff_exists.mp
    (List.find?_isSome.mpr ⟨a, ha, decide_eq_true rfl⟩ :
      (as.find? fun x => decide (key x = key a)).isSome)
  have hkey : key x = key a := by simpa using List.find?_some hx
  rw [hx, List.inj_on_of_nodup_map h (List.mem_of_find?_eq_some hx) ha hkey]

/-- A provider that declares the field is asked for its options, when the context has the names of
its dependencies. -/
theorem path_dispatch_options {service : ControlService}
    (hcapable : service.capabilities.targetDiscovery = true) {schema : ProviderTargetSchema}
    {kind : SelectorKind} (hkind : kind ∈ schema.selectorKinds) {field : SelectorField}
    (hfield : field ∈ kind.fields) (hsource : field.optionSource = .provider)
    (context : {context : JsonObject // context.entries.length ≤ 16})
    (hkeys : ∀ name, name ∈ context.val.keys ↔ name ∈ field.dependsOn) (requestId : UUID) :
    ∃ next, (service.dispatch
        ⟨requestId, .targetOptionsRequest service.name kind.kind field.name context⟩).Path
      [⟨.provider .targetSchema, .ok schema⟩]
      (.ask (.provider (.targetOptions kind.kind.val field.name.val context.val)) next) := by
  have hkind' : schema.selectorKinds.find? (·.kind = kind.kind) = some kind := by
    refine find?_key (List.Nodup.of_map Subtype.val ?_) hkind
    rw [List.map_map]
    exact schema.kinds_nodup
  have hfield' : kind.fields.find? (·.name = field.name) = some field := by
    refine find?_key (List.Nodup.of_map Subtype.val ?_) hfield
    rw [List.map_map]
    exact kind.nodup_names
  have hfound : ControlService.discoverableField requestId schema kind.kind field.name context.val = .ok field := by
    unfold ControlService.discoverableField
    rw [hkind']
    dsimp only
    rw [hfield']
    dsimp only
    rw [if_neg (not_not.mpr hsource), if_neg]
    exact not_not.mpr ⟨fun name hname => (hkeys name).mp hname, fun name hname =>
      (hkeys name).mpr hname⟩
  change ∃ next, (service.dispatchTargetOptions requestId service.name kind.kind field.name
    context).Path _ _
  unfold ControlService.dispatchTargetOptions
  rw [if_neg (not_not.mpr rfl), if_neg (by rw [hcapable]; decide)]
  have hschema : (Daemon.provider .targetSchema).Path [⟨.provider .targetSchema, .ok schema⟩]
      (.done (.ok schema)) := .ask (.refl _)
  refine Exists.imp (fun next h => hschema.bind h) ?_
  dsimp only
  rw [hfound]
  exact ⟨_, .refl _⟩

/-- The path through the guard of a request with credentials. -/
theorem path_authenticated {request : HttpRequest} {credentials : Credentials}
    (h : request.credentials = some credentials) (runtime : WebRuntime) :
    (Application.authenticated request).Path
      [⟨.getRuntime, .ok (some runtime)⟩,
        ⟨.verifyCredentials runtime.authFile credentials, .ok true⟩] (.done (.ok runtime)) := by
  unfold Application.authenticated
  rw [h]
  exact .ask (.ask (.refl _))

/-- The daemon tells which provider is active. -/
theorem path_activeProvider (runtime : WebRuntime) (provider : Identifier) :
    ∃ xs, (activeProvider runtime).Path xs (.done (.ok provider)) := by
  let response : ControlResponse :=
    { requestId := ⟨List.replicate 32 0, List.length_replicate⟩, success := true, message := "",
      targetCatalog := some ⟨provider, ⟨true, true, true, true, true, true⟩, []⟩ }
  have hcontrol : (targetControl runtime .targetsRequest).Path
      [⟨.control runtime .targetsRequest, .ok response⟩] (.done (.ok response)) :=
    .ask (.refl _)
  exact ⟨_, hcontrol.bind (.refl _)⟩

/-- An authenticated request is passed on to the daemon. -/
theorem path_handle_options (application : Application) {request : HttpRequest}
    (hcredentials : request.credentials.isSome) {kind : Identifier} {field : FieldName}
    (hkind : request.query "kind" = some kind.val) (hfield : request.query "field" = some field.val)
    (hsmall : (webContext request).entries.length ≤ 16) (provider : Identifier) :
    ∃ runtime, (application.handle request .adminTargetOptions).CanCall
      (.control runtime (.targetOptionsRequest provider kind field ⟨webContext request, hsmall⟩)) := by
  obtain ⟨credentials, hcredentials⟩ := Option.isSome_iff_exists.mp hcredentials
  have hauthenticated := path_authenticated hcredentials ⟨"", "", 0⟩
  obtain ⟨ys, hactive⟩ := path_activeProvider ⟨"", "", 0⟩ provider
  simp only [Application.handle]
  rw [hkind, hfield]
  dsimp only
  rw [dif_pos ⟨kind.2, field.2⟩]
  refine ⟨⟨"", "", 0⟩, hauthenticated.canCall (hactive.canCall ?_)⟩
  change Program.CanCall (if h : (webContext request).entries.length ≤ 16 then _ else _) _
  rw [dif_pos hsmall]
  exact Program.canCall_ask _ _

/-! ## The parameters -/

section Parameters

variable {request : HttpRequest} {kind : SelectorKind} {field : SelectorField}
  {selector : JsonObject}

/-- The parameters are read as they were written. -/
theorem OptionsHttpRequest.params (h : OptionsHttpRequest request kind field selector) :
    request.queryParams = optionsParams kind field selector :=
  h.queryParams.trans (QueryString.parseQsl_serialize _)

/-- A parameter is read as the page wrote it when no dependency has its name. -/
theorem OptionsHttpRequest.query (h : OptionsHttpRequest request kind field selector)
    (hkind : "kind" ∉ field.dependsOn) (hfield : "field" ∉ field.dependsOn) :
    request.query "kind" = some kind.kind.val ∧ request.query "field" = some field.name.val := by
  have hnone : ∀ name, name ∉ field.dependsOn →
      ((((discoveryContext selector field).map fun entry => (entry.1, toText entry.2)).reverse.find?
        fun param => param.1 == name) = none) := by
    intro name hname
    refine List.find?_eq_none.mpr fun param hparam => ?_
    obtain ⟨entry, hentry, rfl⟩ := List.mem_map.mp (List.mem_reverse.mp hparam)
    obtain ⟨dependency, hdependency, rfl⟩ := List.mem_map.mp hentry
    simp only [beq_iff_eq]
    rintro rfl
    exact hname hdependency
  have hquery : ∀ name, name ∉ field.dependsOn → request.query name =
      ([("field", field.name.val), ("kind", kind.kind.val)].find? fun param =>
        param.1 == name).map Prod.snd := by
    intro name hname
    unfold HttpRequest.query
    rw [h.params]
    unfold optionsParams
    rw [List.reverse_cons, List.reverse_cons, List.append_assoc, List.find?_append, hnone name hname]
    rfl
  rw [hquery "kind" hkind, hquery "field" hfield]
  exact ⟨rfl, rfl⟩

/-- The context of the request: the dependencies, but those that are called like a parameter, with
the texts of their values. -/
theorem OptionsHttpRequest.webContext (h : OptionsHttpRequest request kind field selector) :
    webContext request =
      Dict.ofPairs ((field.dependsOn.filter fun name => name ≠ "kind" ∧ name ≠ "field").map
        fun name => (name, .str (toText (selector.get? name)))) := by
  unfold Snarkypuss.webContext
  rw [h.params]
  unfold optionsParams discoveryContext
  rw [List.filter_cons_of_neg (by simp), List.filter_cons_of_neg (by simp), List.map_map,
    List.filter_map, List.map_map]
  rfl

end Parameters

/-! ## The fields whose dependencies are conveyed -/

/-- No dependency is called like a parameter, and all of them are texts or choices. -/
def TextDependencies (kind : SelectorKind) (field : SelectorField) : Prop :=
  "kind" ∉ field.dependsOn ∧ "field" ∉ field.dependsOn ∧
    ∀ declared ∈ kind.fields, declared.name.val ∈ field.dependsOn →
      declared.fieldType = .text ∨ declared.fieldType = .choice

section Conveyed

variable {application : Application} {service : ControlService} {schema : ProviderTargetSchema}
  {request : HttpRequest} {kind : SelectorKind} {field : SelectorField} {selector : JsonObject}

/-- The dependencies of a field of an accepted kind are its fields, each named once. -/
theorem dependencies_declared (hfield : field ∈ kind.fields) :
    field.dependsOn.Nodup ∧
      ∀ name ∈ field.dependsOn, ∃ declared ∈ kind.fields, declared.name.val = name := by
  have hdeclared := (validateDependencies_iff.mp kind.dependencies).1
  exact ⟨hdeclared.unique field hfield, fun name hname =>
    List.mem_map.mp (hdeclared.known field hfield name hname)⟩

/-- What is conveyed are texts under names that are no parameters. -/
theorem Conveyed.textDependencies (hrequest : OptionsHttpRequest request kind field selector)
    (hfield : field ∈ kind.fields) (hvalues : HasDeclaredValues kind field selector)
    (h : Conveyed application service schema request kind field selector) :
    TextDependencies kind field := by
  obtain ⟨k, f, context, hasked⟩ := h.asked
  obtain ⟨-, -, hconveyed⟩ := h.exact_ k f context hasked
  obtain ⟨-, -, hcontext⟩ := hasked.context (hrequest.serve application)
  rw [hrequest.webContext] at hcontext
  -- every dependency has its value in the context
  have hentry : ∀ declared ∈ kind.fields, declared.name.val ∈ field.dependsOn →
      ∃ value, declared.fieldType.Admits value ∧
        (declared.name.val, value) ∈ (field.dependsOn.filter fun name =>
          name ≠ "kind" ∧ name ≠ "field").map fun name => (name, .str (toText (selector.get? name))) := by
    intro declared hdeclared hdepends
    obtain ⟨value, hvalue, hadmits⟩ := hvalues declared hdeclared hdepends
    refine ⟨value, hadmits, Dict.get?_ofPairs_mem ?_⟩
    rw [← hcontext, hconveyed, if_pos hdepends, hvalue]
  have hnamed : ∀ name ∈ field.dependsOn, name ≠ "kind" ∧ name ≠ "field" := by
    intro name hname
    obtain ⟨declared, hdeclared, rfl⟩ := (dependencies_declared hfield).2 name hname
    obtain ⟨value, -, hmem⟩ := hentry declared hdeclared hname
    obtain ⟨name, hfiltered, heq⟩ := List.mem_map.mp hmem
    obtain ⟨hname, -⟩ := Prod.mk.inj heq
    rw [← hname]
    simpa using (List.mem_filter.mp hfiltered).2
  refine ⟨fun hkind => (hnamed _ hkind).1 rfl, fun hf => (hnamed _ hf).2 rfl, ?_⟩
  intro declared hdeclared hdepends
  obtain ⟨value, hadmits, hmem⟩ := hentry declared hdeclared hdepends
  obtain ⟨name, -, heq⟩ := List.mem_map.mp hmem
  obtain ⟨-, rfl⟩ := Prod.mk.inj heq
  cases htype : declared.fieldType with
  | text => exact .inl rfl
  | choice => exact .inr rfl
  | boolean | integer =>
    rw [htype] at hadmits
    exact hadmits.elim

/-- Dependencies with texts for values are the context of the request. -/
theorem webContext_of_texts (hrequest : OptionsHttpRequest request kind field selector)
    (hfield : field ∈ kind.fields)
    (hvalues : HasDeclaredValues kind field selector) (htexts : TextDependencies kind field) :
    (webContext request).entries.length ≤ 16 ∧
      ∀ name, (webContext request).get? name =
        if name ∈ field.dependsOn then selector.get? name else none := by
  obtain ⟨hkind, hfield', htypes⟩ := htexts
  obtain ⟨hnodup, hdeclared⟩ := dependencies_declared hfield
  have hall : (field.dependsOn.filter fun name => name ≠ "kind" ∧ name ≠ "field") =
      field.dependsOn := by
    refine List.filter_eq_self.mpr fun name hname => decide_eq_true ⟨?_, ?_⟩
    · rintro rfl
      exact hkind hname
    · rintro rfl
      exact hfield' hname
  have hentries : (webContext request).entries =
      field.dependsOn.map fun name => (name, .str (toText (selector.get? name))) := by
    rw [hrequest.webContext, hall]
    refine Dict.ofPairs_entries ?_
    rw [List.map_map]
    exact hnodup.map fun _ _ h => h
  have htext : ∀ name ∈ field.dependsOn,
      selector.get? name = some (.str (toText (selector.get? name))) := by
    intro name hname
    obtain ⟨declared, hmem, rfl⟩ := hdeclared name hname
    obtain ⟨value, hvalue, hadmits⟩ := hvalues declared hmem hname
    rw [hvalue]
    rcases htypes declared hmem hname with htype | htype
    all_goals
      rw [htype] at hadmits
      cases value with
      | str text => rfl
      | _ => exact hadmits.elim
  refine ⟨?_, fun name => ?_⟩
  · rw [hentries, List.length_map]
    exact field.dependsOn_length
  · split
    · rename_i hname
      refine (Dict.get?_eq_some_iff.mpr ?_).trans (htext name hname).symm
      rw [hentries]
      exact List.mem_map_of_mem hname
    · rename_i hname
      refine Dict.get?_eq_none_iff.mpr fun hkey => hname ?_
      unfold Dict.keys at hkey
      rw [hentries, List.map_map] at hkey
      simpa using hkey

/-- **The fields whose dependencies are conveyed** are those whose dependencies are texts or
choices, none of them called `kind` or `field`. -/
theorem conveyed_iff (application : Application) (service : ControlService)
    (schema : ProviderTargetSchema) (request : HttpRequest) (kind : SelectorKind)
    (field : SelectorField) (selector : JsonObject)
    (hrequest : OptionsHttpRequest request kind field selector)
    (hcredentials : request.credentials.isSome)
    (hcapable : service.capabilities.targetDiscovery = true) (hkind : kind ∈ schema.selectorKinds)
    (hfield : field ∈ kind.fields) (hsource : field.optionSource = .provider)
    (hvalues : HasDeclaredValues kind field selector) :
    Conveyed application service schema request kind field selector ↔
      TextDependencies kind field := by
  refine ⟨Conveyed.textDependencies hrequest hfield hvalues, fun htexts => ?_⟩
  obtain ⟨hsmall, hcontext⟩ := webContext_of_texts hrequest hfield hvalues htexts
  obtain ⟨hkindQuery, hfieldQuery⟩ := hrequest.query htexts.1 htexts.2.1
  have hserve := hrequest.serve application
  refine ⟨?_, ?_⟩
  · intro k f context hasked
    obtain ⟨hk, hf, rfl⟩ := hasked.context hserve
    exact ⟨Option.some.inj (hk.symm.trans hkindQuery), Option.some.inj (hf.symm.trans hfieldQuery),
      hcontext⟩
  · have hkeys : ∀ name, name ∈ (webContext request).keys ↔ name ∈ field.dependsOn := by
      intro name
      rw [Dict.mem_keys_iff, hcontext]
      constructor
      · rintro ⟨value, hvalue⟩
        by_contra hname
        rw [if_neg hname] at hvalue
        cases hvalue
      · intro hname
        obtain ⟨declared, hdeclared, rfl⟩ := (dependencies_declared hfield).2 name hname
        obtain ⟨value, hvalue, -⟩ := hvalues declared hdeclared hname
        exact ⟨value, by rw [if_pos hname, hvalue]⟩
    obtain ⟨runtime, hsent⟩ := path_handle_options application hcredentials hkindQuery hfieldQuery
      hsmall service.name
    let requestId : UUID := ⟨List.replicate 32 0, List.length_replicate⟩
    obtain ⟨next, hpath⟩ := path_dispatch_options hcapable hkind hfield hsource
      ⟨webContext request, hsmall⟩ hkeys requestId
    refine ⟨kind.kind.val, field.name.val, webContext request, runtime, _, hserve ▸ hsent,
      requestId, _, next, hpath, ?_⟩
    intro reply hreply
    have hsame := List.mem_singleton.mp hreply
    cases hsame
    rfl

end Conveyed

theorem otherName_valid : matchesPattern Char.isLower isLowerTail 31 "other" := by decide

theorem dependentKind_name : matchesPattern Char.isLower isLowerTail 31 "city" := by decide

theorem dependentField_name : matchesPattern Char.isLower isFieldTail 31 "city" := by decide

theorem dependentField_label : 1 ≤ "City".length ∧ "City".length ≤ 100 := by decide

theorem dependentField_length : ["area"].length ≤ maxSelectorFields := by decide

/-- A field whose options depend on one field of this type. -/
def dependentKind (fieldType : SelectorFieldType) : SelectorKind where
  kind := ⟨"city", dependentKind_name⟩
  label := ⟨"City", dependentField_label⟩
  fields := [
    { name := ⟨"area", by decide⟩, label := ⟨"Area", by decide⟩, fieldType,
      optionSource_choice := (fun h => by cases h), optionSource_choices := (fun h => by cases h) },
    { name := ⟨"city", dependentField_name⟩, label := ⟨"City", dependentField_label⟩,
      fieldType := .choice, optionSource := .provider, dependsOn := ["area"],
      dependsOn_length := dependentField_length }]
  fields_length := by cases fieldType <;> decide
  dependencies := by cases fieldType <;> decide

def dependentField : SelectorField where
  name := ⟨"city", dependentField_name⟩
  label := ⟨"City", dependentField_label⟩
  fieldType := .choice
  optionSource := .provider
  dependsOn := ["area"]
  dependsOn_length := dependentField_length

def dependentSchema (fieldType : SelectorFieldType) : ProviderTargetSchema where
  provider := ⟨"other", otherName_valid⟩
  selectorKinds := [dependentKind fieldType]
  kinds_length := by cases fieldType <;> decide
  kinds_nodup := by cases fieldType <;> decide

def discoveringService : ControlService where
  name := ⟨"other", otherName_valid⟩
  capabilities := { connect := true, disconnect := true, targetSelection := true,
                    targetDiscovery := true, serverDetails := false }
  publicIpUrl := "https://ip.invalid/"
  publicIpTimeoutSeconds := 0
  builtinRecommendedTarget := none
  builtin_alias := idealService.builtin_alias

def areaSelector (value : JsonScalar) : JsonObject :=
  (Dict.empty.insert "kind" (.str "city")).insert "area" value

def areaRequest (fieldType : SelectorFieldType) (value : JsonScalar) : HttpRequest where
  method := "GET"
  path := "/api/v3/admin/vpn/target-options"
  scheme := "https"
  netloc := "gateway"
  credentials := some ⟨"admin", "secret"⟩
  queryParams := QueryString.parseQsl
    (QueryString.serialize (optionsParams (dependentKind fieldType) dependentField (areaSelector value)))

theorem area_options (fieldType : SelectorFieldType) (value : JsonScalar) :
    OptionsHttpRequest (areaRequest fieldType value) (dependentKind fieldType) dependentField
      (areaSelector value) := by
  refine ⟨?_, ?_, ?_⟩ <;> simp only [areaRequest]

theorem area_declared {fieldType : SelectorFieldType} {value : JsonScalar}
    (h : fieldType.Admits value) :
    HasDeclaredValues (dependentKind fieldType) dependentField (areaSelector value) := by
  intro declared hdeclared hdepends
  simp only [dependentKind, List.mem_cons, List.not_mem_nil, or_false] at hdeclared
  rcases hdeclared with rfl | rfl
  · exact ⟨value, rfl, h⟩
  · simp [dependentField] at hdepends

/-- A text with a space and a sign of its own. -/
theorem conveyed_text : Conveyed plainApplication discoveringService (dependentSchema .text)
    (areaRequest .text (.str "a & b")) (dependentKind .text) dependentField
    (areaSelector (.str "a & b")) := by
  have hvalues : HasDeclaredValues (dependentKind .text) dependentField
      (areaSelector (.str "a & b")) := area_declared trivial
  refine (conveyed_iff plainApplication discoveringService (dependentSchema .text)
    (areaRequest .text (.str "a & b")) (dependentKind .text) dependentField
    (areaSelector (.str "a & b")) (area_options _ _) rfl rfl List.mem_cons_self
    (List.mem_cons_of_mem _ List.mem_cons_self) rfl hvalues).mpr ⟨by decide, by decide, ?_⟩
  intro declared hdeclared hdepends
  simp only [dependentKind, List.mem_cons, List.not_mem_nil, or_false] at hdeclared
  rcases hdeclared with rfl | rfl
  · exact .inl rfl
  · exact .inr rfl

/-- A truth value arrives as a text. -/
theorem conveyed_fails : ¬ ∀ (application : Application) (service : ControlService)
    (schema : ProviderTargetSchema) (request : HttpRequest) (kind : SelectorKind)
    (field : SelectorField) (selector : JsonObject),
    OptionsHttpRequest request kind field selector → request.credentials.isSome →
      service.capabilities.targetDiscovery = true → kind ∈ schema.selectorKinds →
      field ∈ kind.fields → field.optionSource = .provider →
      HasDeclaredValues kind field selector →
        Conveyed application service schema request kind field selector := by
  intro h
  have hvalues : HasDeclaredValues (dependentKind .boolean) dependentField
      (areaSelector (.bool true)) := area_declared trivial
  have hconveyed := h plainApplication discoveringService (dependentSchema .boolean)
    (areaRequest .boolean (.bool true)) (dependentKind .boolean) dependentField
    (areaSelector (.bool true)) (area_options _ _) rfl rfl List.mem_cons_self
    (List.mem_cons_of_mem _ List.mem_cons_self) rfl hvalues
  have htexts := hconveyed.textDependencies (area_options _ _)
    (List.mem_cons_of_mem _ List.mem_cons_self) hvalues
  have htype := htexts.2.2 _ List.mem_cons_self (by decide)
  revert htype
  decide

end Snarkypuss
