import HmcReconcilers.ApiTypes

/-!
# One `Update` pass of the management controller

`ManagementReconciler.Update` makes sure the singleton `Management` carries
its finalizer, fills in the default core when the spec has none (each of
these writes the object and ends the pass), then enables the admission
webhook and the cluster API operator in the HMC component's values once
cert-manager answers, and installs every component of `wrappedComponents`
in order: the HMC core, the CAPI core depending on it, and every provider
depending on CAPI.  A component whose template is missing or invalid, or
whose release reconcile fails, is recorded as failed and the loop goes on.
The collected statuses and providers are written, and the errors of all
components are joined into the pass's error.

The main results hold for every answer of the API server and of the release
helper.  For templates with pairwise-distinct names, the pass attempts each
component once and in order, writes one status entry per component, and
collects the providers of exactly the installed components, whatever status
the `Management` had before.  The releases it reconciles then have distinct
names and their dependencies run from a tier to the one below; a provider
named after a core template breaks both.

The merge of the HMC component's values changes the decoded object only
under `admissionWebhook` and `cluster-api-operator`.  It panics on values it
cannot read as maps: a non-object under either key, and the document `null`,
which decodes to a nil map.
-/

namespace HmcReconcilers.ManagementController

open HmcReconcilers

/-- The configuration of `ManagementReconciler`. -/
structure ManagementReconciler where
  systemNamespace : String

/-! ## Components -/

/-- `component`: a management component with the release options the controller adds. -/
structure WrappedComponent where
  component : Component
  /-- The names of the releases this one depends on. -/
  dependsOn : List String
  targetNamespace : String
  createNamespace : Bool

/-- The release options of a provider: the Sveltos provider gets its own target namespace. -/
def providerComponent (core : Core) (provider : Component) : WrappedComponent :=
  if provider.template = providerSveltosName then
    ⟨provider, [core.capi.template], providerSveltosTargetNamespace, providerSveltosCreateNamespace⟩
  else ⟨provider, [core.capi.template], "", false⟩

@[simp]
theorem providerComponent_component (core : Core) (provider : Component) :
    (providerComponent core provider).component = provider := by
  unfold providerComponent
  split <;> rfl

@[simp]
theorem providerComponent_dependsOn (core : Core) (provider : Component) :
    (providerComponent core provider).dependsOn = [core.capi.template] := by
  unfold providerComponent
  split <;> rfl

/-- `wrappedComponents`: the HMC core, the CAPI core, then the providers; nothing without a core. -/
def wrappedComponents (spec : ManagementSpec) : List WrappedComponent :=
  match spec.core with
  | none => []
  | some core =>
      ⟨core.hmc, [], "", false⟩ :: ⟨core.capi, [core.hmc.template], "", false⟩ ::
        spec.providers.map (providerComponent core)

/-- The key of a component's template, and of its release. -/
def componentKey (r : ManagementReconciler) (component : WrappedComponent) : NamespacedName :=
  ⟨r.systemNamespace, component.component.template⟩

/-! ## The HMC component's values -/

/-- The name `json.UnmarshalTypeError` gives the kind of a JSON value. -/
def jsonKind : JsonValue → String
  | .null => "null"
  | .bool _ => "bool"
  | .number _ => "number"
  | .string _ => "string"
  | .array _ => "array"
  | .object _ => "object"

/-- The dynamic Go type of a decoded JSON value. -/
def goTypeName : JsonValue → String
  | .null => "nil"
  | .bool _ => "bool"
  | .number _ => "float64"
  | .string _ => "string"
  | .array _ => "[]interface \x7b\x7d"
  | .object _ => "map[string]interface \x7b\x7d"

/-- The entries of a decoded JSON object; a repeated key keeps its last value. -/
def decodeObject (fields : List (String × JsonValue)) : GoMap String JsonValue :=
  fields.foldl (fun decoded field => decoded.insert field.1 field.2) GoMap.empty

/-- The error of `json.Unmarshal` of a value that is not an object into a map. -/
def unmarshalTypeError (value : JsonValue) : String :=
  "json: cannot unmarshal " ++ jsonKind value ++
    " into Go value of type map[string]interface \x7b\x7d"

/-- `json.Unmarshal` into a fresh `map[string]interface{}`: its entries, a nil map for `null`. -/
def unmarshalConfig : JsonValue → Except String (Option (GoMap String JsonValue))
  | .object fields => .ok (some (decodeObject fields))
  | .null => .ok none
  | value => .error (unmarshalTypeError value)

/-- The `config` map of `enableAdditionalComponents`: fresh, with the HMC component's values decoded into it. -/
def decodeConfig : Option JsonValue → Except String (Option (GoMap String JsonValue))
  | none => .ok (some GoMap.empty)
  | some raw => unmarshalConfig raw

/-- The panic of a failed type assertion to `map[string]interface{}`. -/
def interfaceConversion (value : JsonValue) : String :=
  "interface conversion: interface \x7b\x7d is " ++ goTypeName value ++
    ", not map[string]interface \x7b\x7d"

/-- `config[key].(map[string]interface{})` behind its `!= nil` guard; absent or `null` gives a fresh map. -/
def nestedValues : Option JsonValue → Exit (GoMap String JsonValue)
  | none => .returns GoMap.empty
  | some .null => .returns GoMap.empty
  | some (.object fields) => .returns (decodeObject fields)
  | some value => .panics (interfaceConversion value)

/-- `capiOperatorValues["enabled"] != false` decides whether the operator is switched on. -/
def enableOperator (values : GoMap String JsonValue) : GoMap String JsonValue :=
  match values.lookup "enabled" with
  | some (.bool false) => values
  | _ => values.insert "enabled" (.bool true)

/--
`ManagementReconciler.enableAdditionalComponents`, given the error of
`certmanager.VerifyAPI`: the spec with the HMC component's values updated.
The core is reached through a pointer, which panics when it is nil.  The
values are kept as a JSON document; `json.Marshal` cannot fail on them and
its key order is not modelled.
-/
def enableAdditionalComponents (verifyAPI : Option String) (spec : ManagementSpec) :
    Exit (Except String ManagementSpec) :=
  match spec.core with
  | none => .panics nilPointerDereference
  | some core =>
      match decodeConfig core.hmc.config with
      | .error err =>
          .returns (.error ("failed to unmarshal HMC config into map[string]interface\x7b\x7d: " ++ err))
      | .ok config =>
          match nestedValues (config.bind (·.lookup "admissionWebhook")) with
          | .panics reason => .panics reason
          | .returns admissionWebhookValues =>
              match nestedValues (config.bind (·.lookup "cluster-api-operator")) with
              | .panics reason => .panics reason
              | .returns capiOperatorValues =>
                  match verifyAPI with
                  | some err =>
                      .returns (.error
                        ("failed to check in the cert-manager API is installed: " ++ err))
                  | none =>
                      match config with
                      | none => .panics assignmentToNilMap
                      | some config =>
                          let config := (config.insert "admissionWebhook"
                              (.object (admissionWebhookValues.insert "enabled" (.bool true)))).insert
                            "cluster-api-operator" (.object (enableOperator capiOperatorValues))
                          .returns (.ok { spec with
                            core := some { core with hmc := { core.hmc with config := some (.object config) } } })

/-! ## What the merge does to the values -/

/-- The value passes the `!= nil` guard and the type assertion of `nestedValues`. -/
def assertsToMap : Option JsonValue → Bool
  | none => true
  | some .null => true
  | some (.object _) => true
  | some _ => false

theorem assertsToMap_eq_false_iff (value : Option JsonValue) :
    assertsToMap value = false ↔ ∃ reason, nestedValues value = .panics reason := by
  rcases value with _ | ⟨_ | _ | _ | _ | _ | _⟩ <;> simp [assertsToMap, nestedValues]

/-- Only a `null` document decodes to a nil map. -/
theorem decodeConfig_eq_ok_none_iff (config : Option JsonValue) :
    decodeConfig config = .ok none ↔ config = some .null := by
  rcases config with _ | ⟨_ | _ | _ | _ | _ | _⟩ <;> simp [decodeConfig, unmarshalConfig]

theorem enableOperator_lookup_of_ne (values : GoMap String JsonValue) {key : String}
    (other : key ≠ "enabled") : (enableOperator values).lookup key = values.lookup key := by
  unfold enableOperator
  split
  · rfl
  · exact GoMap.lookup_insert_of_ne _ _ other

/-- An operator explicitly disabled stays disabled. -/
theorem enableOperator_lookup_of_disabled {values : GoMap String JsonValue}
    (disabled : values.lookup "enabled" = some (.bool false)) :
    (enableOperator values).lookup "enabled" = some (.bool false) := by
  simp [enableOperator, disabled]

/-- Any other operator setting, absent included, becomes `enabled = true`. -/
theorem enableOperator_lookup_of_not_disabled {values : GoMap String JsonValue}
    (notDisabled : values.lookup "enabled" ≠ some (.bool false)) :
    (enableOperator values).lookup "enabled" = some (.bool true) := by
  unfold enableOperator
  split
  · contradiction
  · exact GoMap.lookup_insert_self _ _ _

/-- A merge that returns saw the cert-manager API and wrote the merged map back as an object. -/
theorem enableAdditionalComponents_of_ok {verifyAPI : Option String} {spec enabled : ManagementSpec}
    (ok : enableAdditionalComponents verifyAPI spec = .returns (.ok enabled)) :
    verifyAPI = none ∧
      ∃ (core : Core) (input admissionWebhookValues capiOperatorValues : GoMap String JsonValue),
        spec.core = some core ∧ decodeConfig core.hmc.config = .ok (some input) ∧
        nestedValues (input.lookup "admissionWebhook") = .returns admissionWebhookValues ∧
        nestedValues (input.lookup "cluster-api-operator") = .returns capiOperatorValues ∧
        enabled = { spec with core := some { core with hmc := { core.hmc with config := some (.object
          ((input.insert "admissionWebhook"
              (.object (admissionWebhookValues.insert "enabled" (.bool true)))).insert
            "cluster-api-operator" (.object (enableOperator capiOperatorValues)))) } } } := by
  unfold enableAdditionalComponents at ok
  split at ok
  · cases ok
  rename_i core present
  split at ok
  · cases ok
  rename_i config decoded
  split at ok
  · cases ok
  rename_i admissionWebhookValues webhook
  split at ok
  · cases ok
  rename_i capiOperatorValues operator
  split at ok
  · cases ok
  split at ok
  · cases ok
  rename_i input
  cases ok
  exact ⟨rfl, core, input, admissionWebhookValues, capiOperatorValues, present, decoded, webhook,
    operator, rfl⟩

/--
The merged HMC values as the merge is meant to leave them: equal to the
input except under `admissionWebhook`, whose `enabled` becomes `true`, and
`cluster-api-operator`, whose `enabled` becomes `true` unless the input set it
to `false`; every other key of those two objects keeps its value.
-/
def MergedValues (input merged : GoMap String JsonValue) : Prop :=
  (∀ key, key ≠ "admissionWebhook" → key ≠ "cluster-api-operator" →
    merged.lookup key = input.lookup key) ∧
  (∃ admissionWebhookValues mergedWebhook : GoMap String JsonValue,
    nestedValues (input.lookup "admissionWebhook") = .returns admissionWebhookValues ∧
    merged.lookup "admissionWebhook" = some (.object mergedWebhook) ∧
    mergedWebhook.lookup "enabled" = some (.bool true) ∧
    ∀ key, key ≠ "enabled" → mergedWebhook.lookup key = admissionWebhookValues.lookup key) ∧
  ∃ capiOperatorValues mergedOperator : GoMap String JsonValue,
    nestedValues (input.lookup "cluster-api-operator") = .returns capiOperatorValues ∧
    merged.lookup "cluster-api-operator" = some (.object mergedOperator) ∧
    (capiOperatorValues.lookup "enabled" = some (.bool false) →
      mergedOperator.lookup "enabled" = some (.bool false)) ∧
    (capiOperatorValues.lookup "enabled" ≠ some (.bool false) →
      mergedOperator.lookup "enabled" = some (.bool true)) ∧
    ∀ key, key ≠ "enabled" → mergedOperator.lookup key = capiOperatorValues.lookup key

/--
With the cert-manager API present, a merge that returns writes back the HMC
component's values as an object merged from the decoded input as
`MergedValues` states.
-/
theorem enableAdditionalComponents_merge {spec enabled : ManagementSpec}
    (ok : enableAdditionalComponents none spec = .returns (.ok enabled)) :
    ∃ (core : Core) (input merged : GoMap String JsonValue),
      spec.core = some core ∧ decodeConfig core.hmc.config = .ok (some input) ∧
      enabled = { spec with
        core := some { core with hmc := { core.hmc with config := some (.object merged) } } } ∧
      MergedValues input merged := by
  obtain ⟨-, core, input, webhookValues, operatorValues, present, decoded, webhook, operator, rfl⟩ :=
    enableAdditionalComponents_of_ok ok
  have webhookAt := GoMap.lookup_insert_of_ne
    (input.insert "admissionWebhook" (.object (webhookValues.insert "enabled" (.bool true))))
    (.object (enableOperator operatorValues)) (show "admissionWebhook" ≠ "cluster-api-operator" by decide)
  rw [GoMap.lookup_insert_self] at webhookAt
  refine ⟨core, input, _, present, decoded, rfl, fun key notWebhook notOperator => ?_,
    ⟨webhookValues, _, webhook, webhookAt, GoMap.lookup_insert_self _ _ _,
      fun _ other => GoMap.lookup_insert_of_ne _ _ other⟩,
    ⟨operatorValues, _, operator, GoMap.lookup_insert_self _ _ _, enableOperator_lookup_of_disabled,
      enableOperator_lookup_of_not_disabled, fun _ other => enableOperator_lookup_of_ne _ other⟩⟩
  rw [GoMap.lookup_insert_of_ne _ _ notOperator, GoMap.lookup_insert_of_ne _ _ notWebhook]

/--
With the cert-manager API present and a core set, the merge panics exactly
on the document `null`, which decodes to a nil map, and on a decoded object
holding under `admissionWebhook` or `cluster-api-operator` a value that is
neither `null` nor an object.
-/
theorem enableAdditionalComponents_panics_iff {spec : ManagementSpec} {core : Core}
    (present : spec.core = some core) :
    (∃ reason, enableAdditionalComponents none spec = .panics reason) ↔
      core.hmc.config = some .null ∨
        ∃ input, decodeConfig core.hmc.config = .ok (some input) ∧
          (assertsToMap (input.lookup "admissionWebhook") = false ∨
            assertsToMap (input.lookup "cluster-api-operator") = false) := by
  simp only [enableAdditionalComponents, present, ← decodeConfig_eq_ok_none_iff]
  cases decodeConfig core.hmc.config with
  | error err => simp
  | ok config =>
      cases config with
      | none => simp [nestedValues]
      | some input =>
          simp only [Option.some_bind, Except.ok.injEq, reduceCtorEq, Option.some.injEq,
            exists_eq_left', false_or, assertsToMap_eq_false_iff]
          cases nestedValues (input.lookup "admissionWebhook") <;>
            cases nestedValues (input.lookup "cluster-api-operator") <;> simp

/-! ## The pass -/

/-- The arguments of one `helm.ReconcileHelmRelease2` call. -/
structure ReleaseRequest where
  name : String
  ns : String
  values : Option JsonValue
  chartRef : Option SourceRef
  dependsOn : List String
  targetNamespace : String
  createNamespace : Bool

/-- The release `Update` reconciles for a component, with the status of the template it found. -/
def releaseRequest (r : ManagementReconciler) (component : WrappedComponent)
    (template : TemplateStatus) : ReleaseRequest where
  name := component.component.helmReleaseName
  ns := r.systemNamespace
  values := component.component.config
  chartRef := template.chartRef
  dependsOn := component.dependsOn
  targetNamespace := component.targetNamespace
  createNamespace := component.createNamespace

/-- The API calls and release reconciles a pass of the management controller makes, in order. -/
inductive ManagementCall where
  /-- `r.Client.Update` of the `Management` with these finalizers and spec. -/
  | updateObject (finalizers : List String) (spec : ManagementSpec) (succeeded : Bool)
  /-- The `Get` of a component's `Template`. -/
  | getTemplate (key : NamespacedName)
  /-- `helm.ReconcileHelmRelease2`. -/
  | reconcileHelmRelease (request : ReleaseRequest) (succeeded : Bool)
  /-- `Status().Update` of the `Management`. -/
  | updateStatus (succeeded : Bool)
  /-- The `Get` of the HMC release in `Delete`. -/
  | getHelmRelease (key : NamespacedName)
  /-- The `Update` that suspends the HMC release. -/
  | suspendHelmRelease (key : NamespacedName) (succeeded : Bool)
  /-- `utils.EnsureDeleteAllOf` of the managed objects of a kind. -/
  | deleteAllOf (kind : String) (succeeded : Bool)

/-- What the collaborators of one pass of the management controller answer. -/
structure ManagementCollaborators where
  /-- The `Get` of a `Template`; only its status is read. -/
  getTemplate : NamespacedName → Except ApiError TemplateStatus
  /-- The error of `certmanager.VerifyAPI`, if any. -/
  verifyCertManager : Option String
  /-- The error of `helm.ReconcileHelmRelease2` for a release, if any. -/
  reconcileHelmRelease : ReleaseRequest → Option String
  /-- The error of `r.Client.Update` of the `Management`, if any. -/
  objectUpdate : Option String
  /-- The error of `Status().Update`, if any. -/
  statusUpdate : Option String
  /-- The `Get` of the HMC release: whether its spec is suspended. -/
  getHelmRelease : NamespacedName → Except ApiError Bool
  /-- The error of the `Update` suspending the HMC release, if any. -/
  suspendUpdate : Option String
  /-- The error of `utils.EnsureDeleteAllOf` for a kind, if any. -/
  deleteAllOf : String → Option String

/-- What one pass does: its calls in order, the status it writes, and how it ends. -/
structure ManagementPass where
  calls : List ManagementCall
  statusWrite : Option ManagementStatus
  exit : Exit (Result × Option String)

/-- `updateComponentsStatus`: record a component, and on success add its template's providers. -/
def updateComponentsStatus (components : GoMap String ComponentStatus) (providers : Providers)
    (componentName : String) (templateStatus : TemplateStatus) (err : String) :
    GoMap String ComponentStatus × Providers :=
  (components.insert componentName ⟨err = "", err⟩,
    if err = "" then providers.append templateStatus.providers else providers)

/-- What the component loop of `Update` has collected: statuses, providers, and the joined errors. -/
structure Detected where
  components : GoMap String ComponentStatus
  providers : Providers
  errs : Option String

/-- The loop starts from an empty map, no providers and no error. -/
def Detected.initial : Detected := ⟨GoMap.empty, Providers.empty, none⟩

/-- A failed component: its status records the message, which is joined to the errors. -/
def Detected.fail (detected : Detected) (name : String) (templateStatus : TemplateStatus)
    (errMsg : String) : Detected :=
  let updated := updateComponentsStatus detected.components detected.providers name templateStatus errMsg
  ⟨updated.1, updated.2, joinErrors detected.errs (some errMsg)⟩

/-- An installed component. -/
def Detected.succeed (detected : Detected) (name : String) (templateStatus : TemplateStatus) :
    Detected :=
  let updated := updateComponentsStatus detected.components detected.providers name templateStatus ""
  ⟨updated.1, updated.2, detected.errs⟩

/-- One iteration of the component loop of `Update`. -/
def installComponent (r : ManagementReconciler) (collaborators : ManagementCollaborators)
    (detected : Detected) (component : WrappedComponent) : List ManagementCall × Detected :=
  let name := component.component.template
  let key := componentKey r component
  match collaborators.getTemplate key with
  | .error err =>
      ([.getTemplate key], detected.fail name TemplateStatus.zero
        ("Failed to get Template " ++ r.systemNamespace ++ "/" ++ name ++ ": " ++ err.error))
  | .ok template =>
      if template.valid = false then
        ([.getTemplate key], detected.fail name template
          ("Template " ++ r.systemNamespace ++ "/" ++ name ++ " is not marked as valid"))
      else
        let request := releaseRequest r component template
        match collaborators.reconcileHelmRelease request with
        | some err =>
            ([.getTemplate key, .reconcileHelmRelease request false], detected.fail name template
              ("error reconciling HelmRelease " ++ r.systemNamespace ++ "/" ++ name ++ ": " ++ err))
        | none => ([.getTemplate key, .reconcileHelmRelease request true], detected.succeed name template)

/-- The component loop of `Update`: every component, whatever failed before it. -/
def installComponents (r : ManagementReconciler) (collaborators : ManagementCollaborators) :
    Detected → List WrappedComponent → List ManagementCall × Detected
  | detected, [] => ([], detected)
  | detected, component :: rest =>
      let step := installComponent r collaborators detected component
      let more := installComponents r collaborators step.2 rest
      (step.1 ++ more.1, more.2)

/-- The wrapped error of the final `Status().Update`, if it fails. -/
def statusUpdateError (collaborators : ManagementCollaborators) (management : Management) :
    Option String :=
  collaborators.statusUpdate.map fun err =>
    "failed to update status for Management " ++ management.name ++ ": " ++ err

/-- `ManagementReconciler.Update`. -/
def update (r : ManagementReconciler) (collaborators : ManagementCollaborators)
    (management : Management) : ManagementPass :=
  if managementFinalizer ∉ management.finalizers then
    ⟨[.updateObject (addFinalizer management.finalizers managementFinalizer) management.spec
        (collaborators.objectUpdate = none)], none,
      .returns (.done, collaborators.objectUpdate.map fun err =>
        "failed to update Management " ++ management.name ++ ": " ++ err)⟩
  else
    let (changed, spec) := management.spec.setDefaults
    if changed then
      ⟨[.updateObject management.finalizers spec (collaborators.objectUpdate = none)], none,
        .returns (.done, collaborators.objectUpdate)⟩
    else
      match enableAdditionalComponents collaborators.verifyCertManager spec with
      | .panics reason => ⟨[], none, .panics reason⟩
      | .returns (.error err) => ⟨[], none, .returns (.done, some err)⟩
      | .returns (.ok spec) =>
          let loop := installComponents r collaborators Detected.initial (wrappedComponents spec)
          ⟨loop.1 ++ [.updateStatus (collaborators.statusUpdate = none)],
            some ⟨management.generation, loop.2.providers, loop.2.components⟩,
            .returns (.done, joinErrors loop.2.errs (statusUpdateError collaborators management))⟩

/-! ## One iteration of the component loop -/

/-- The template a component is installed from: found, valid, and its release reconciled. -/
def installedTemplate (r : ManagementReconciler) (collaborators : ManagementCollaborators)
    (component : WrappedComponent) : Option TemplateStatus :=
  match collaborators.getTemplate ⟨r.systemNamespace, component.component.template⟩ with
  | .ok template =>
      if template.valid = true ∧
          collaborators.reconcileHelmRelease (releaseRequest r component template) = none then
        some template
      else none
  | .error _ => none

/-- The release a component gets: one exactly when its template is found valid. -/
def componentReleases (r : ManagementReconciler) (collaborators : ManagementCollaborators)
    (component : WrappedComponent) : List ReleaseRequest :=
  match collaborators.getTemplate ⟨r.systemNamespace, component.component.template⟩ with
  | .ok template => if template.valid = true then [releaseRequest r component template] else []
  | .error _ => []

theorem installedTemplate_eq_some_iff {r : ManagementReconciler}
    {collaborators : ManagementCollaborators} {component : WrappedComponent} {template : TemplateStatus} :
    installedTemplate r collaborators component = some template ↔
      collaborators.getTemplate ⟨r.systemNamespace, component.component.template⟩ = .ok template ∧
        template.valid = true ∧
        collaborators.reconcileHelmRelease (releaseRequest r component template) = none := by
  unfold installedTemplate
  split <;> rename_i found <;> simp only [found, Except.ok.injEq, reduceCtorEq, false_and]
  split <;> rename_i installed
  · simp only [Option.some.injEq]
    constructor
    · rintro rfl
      exact ⟨rfl, installed⟩
    · rintro ⟨rfl, -⟩
      rfl
  · simp only [reduceCtorEq, false_iff, not_and]
    rintro rfl valid reconciled
    exact installed ⟨valid, reconciled⟩

theorem installedTemplate_eq_none_iff {r : ManagementReconciler}
    {collaborators : ManagementCollaborators} {component : WrappedComponent} :
    installedTemplate r collaborators component = none ↔
      ∀ template, collaborators.getTemplate ⟨r.systemNamespace, component.component.template⟩ = .ok template →
        template.valid = true →
        collaborators.reconcileHelmRelease (releaseRequest r component template) ≠ none := by
  rw [← not_iff_not, ← ne_eq, Option.ne_none_iff_exists']
  simp only [installedTemplate_eq_some_iff, not_forall, not_not, exists_prop]

/-- The release a call reconciles, if it is a release reconcile. -/
def ManagementCall.reconciledRelease : ManagementCall → Option ReleaseRequest
  | .reconcileHelmRelease request _ => some request
  | _ => none

/-- The template a call looks up, if it is a template lookup. -/
def ManagementCall.templateLookup : ManagementCall → Option NamespacedName
  | .getTemplate key => some key
  | _ => none

@[simp]
theorem Detected.succeed_components (detected : Detected) (name : String) (template : TemplateStatus) :
    (detected.succeed name template).components = detected.components.insert name ⟨true, ""⟩ := rfl

@[simp]
theorem Detected.succeed_providers (detected : Detected) (name : String) (template : TemplateStatus) :
    (detected.succeed name template).providers = detected.providers.append template.providers := rfl

@[simp]
theorem Detected.succeed_errs (detected : Detected) (name : String) (template : TemplateStatus) :
    (detected.succeed name template).errs = detected.errs := rfl

theorem Detected.fail_components (detected : Detected) (name : String) (template : TemplateStatus)
    {errMsg : String} (nonempty : errMsg ≠ "") :
    (detected.fail name template errMsg).components =
      detected.components.insert name ⟨false, errMsg⟩ := by
  simp [Detected.fail, updateComponentsStatus, nonempty]

theorem Detected.fail_providers (detected : Detected) (name : String) (template : TemplateStatus)
    {errMsg : String} (nonempty : errMsg ≠ "") :
    (detected.fail name template errMsg).providers = detected.providers := by
  simp [Detected.fail, updateComponentsStatus, nonempty]

@[simp]
theorem Detected.fail_errs_ne_none (detected : Detected) (name : String) (template : TemplateStatus)
    (errMsg : String) : (detected.fail name template errMsg).errs ≠ none := by
  simp [Detected.fail]

/-- An iteration records the component as installed from its template, or as failed with a message. -/
theorem installComponent_detected (r : ManagementReconciler) (collaborators : ManagementCollaborators)
    (detected : Detected) (component : WrappedComponent) :
    (∃ template, installedTemplate r collaborators component = some template ∧
      (installComponent r collaborators detected component).2 =
        detected.succeed component.component.template template) ∨
    installedTemplate r collaborators component = none ∧ ∃ template errMsg, errMsg ≠ "" ∧
      (installComponent r collaborators detected component).2 =
        detected.fail component.component.template template errMsg := by
  unfold installComponent installedTemplate componentKey
  dsimp only
  cases lookup : collaborators.getTemplate ⟨r.systemNamespace, component.component.template⟩ with
  | error err => exact .inr ⟨rfl, _, _, by simp [append_eq_empty_iff], rfl⟩
  | ok template =>
      cases valid : template.valid
      · refine .inr ⟨by simp [valid], _, _, ?_, by simp [valid]; rfl⟩
        simp [append_eq_empty_iff]
      · cases reconciled : collaborators.reconcileHelmRelease (releaseRequest r component template) with
        | none => exact .inl ⟨template, by simp [valid, reconciled], by simp [valid, reconciled]⟩
        | some err =>
            refine .inr ⟨by simp [valid, reconciled], _, _, ?_, by simp [valid, reconciled]; rfl⟩
            simp [append_eq_empty_iff]

/-- An iteration sets the status of its component and of no other. -/
theorem installComponent_components (r : ManagementReconciler)
    (collaborators : ManagementCollaborators) (detected : Detected) (component : WrappedComponent) :
    ∃ status, (installComponent r collaborators detected component).2.components =
      detected.components.insert component.component.template status := by
  rcases installComponent_detected r collaborators detected component with
    ⟨template, -, step⟩ | ⟨-, template, errMsg, nonempty, step⟩ <;> rw [step]
  · exact ⟨_, rfl⟩
  · exact ⟨_, Detected.fail_components _ _ _ nonempty⟩

/-- An iteration looks the component's template up once, first. -/
theorem installComponent_templateLookups (r : ManagementReconciler)
    (collaborators : ManagementCollaborators) (detected : Detected) (component : WrappedComponent) :
    (installComponent r collaborators detected component).1.filterMap ManagementCall.templateLookup =
      [⟨r.systemNamespace, component.component.template⟩] := by
  unfold installComponent
  dsimp only
  split
  · rfl
  · split
    · rfl
    · split <;> rfl

/-- An iteration reconciles the component's release exactly when its template is found valid. -/
theorem installComponent_releases (r : ManagementReconciler)
    (collaborators : ManagementCollaborators) (detected : Detected) (component : WrappedComponent) :
    (installComponent r collaborators detected component).1.filterMap
        ManagementCall.reconciledRelease =
      componentReleases r collaborators component := by
  unfold installComponent componentReleases componentKey
  dsimp only
  cases collaborators.getTemplate ⟨r.systemNamespace, component.component.template⟩ with
  | error err => rfl
  | ok template =>
      cases valid : template.valid
      · simp [valid, ManagementCall.reconciledRelease]
      · cases reconciled : collaborators.reconcileHelmRelease (releaseRequest r component template) <;>
          simp [valid, reconciled, ManagementCall.reconciledRelease]

/-! ## The whole loop -/

section Loop

variable (r : ManagementReconciler) (collaborators : ManagementCollaborators)

/-- The loop looks up every component's template once, in order. -/
theorem installComponents_templateLookups (detected : Detected) (components : List WrappedComponent) :
    (installComponents r collaborators detected components).1.filterMap
        ManagementCall.templateLookup =
      components.map fun component => ⟨r.systemNamespace, component.component.template⟩ := by
  induction components generalizing detected with
  | nil => rfl
  | cons component rest ih =>
      simp only [installComponents, List.filterMap_append, installComponent_templateLookups, ih,
        List.map_cons, List.singleton_append]

/-- The loop reconciles the release of every component whose template is found valid, in order. -/
theorem installComponents_releases (detected : Detected) (components : List WrappedComponent) :
    (installComponents r collaborators detected components).1.filterMap
        ManagementCall.reconciledRelease =
      components.flatMap (componentReleases r collaborators) := by
  induction components generalizing detected with
  | nil => rfl
  | cons component rest ih =>
      simp only [installComponents, List.filterMap_append, installComponent_releases, ih,
        List.flatMap_cons]

/-- The loop leaves the status of a name it does not install alone. -/
theorem installComponents_lookup_of_not_mem (detected : Detected)
    (components : List WrappedComponent) {name : String}
    (absent : name ∉ components.map (·.component.template)) :
    (installComponents r collaborators detected components).2.components.lookup name =
      detected.components.lookup name := by
  induction components generalizing detected with
  | nil => rfl
  | cons component rest ih =>
      simp only [List.map_cons, List.mem_cons, not_or] at absent
      obtain ⟨status, inserted⟩ := installComponent_components r collaborators detected component
      simp only [installComponents]
      rw [ih _ absent.2, inserted]
      exact GoMap.lookup_insert_of_ne _ _ absent.1

/-- With fresh, distinct names, the loop adds one status entry per component, in order. -/
theorem installComponents_keys (detected : Detected) (components : List WrappedComponent)
    (distinct : (detected.components.keys ++ components.map (·.component.template)).Nodup) :
    (installComponents r collaborators detected components).2.components.keys =
      detected.components.keys ++ components.map (·.component.template) := by
  induction components generalizing detected with
  | nil => simp [installComponents]
  | cons component rest ih =>
      obtain ⟨status, inserted⟩ := installComponent_components r collaborators detected component
      have fresh : component.component.template ∉ detected.components.keys :=
        fun present => by simp_all [List.nodup_append]
      have keys := GoMap.keys_insert_of_not_mem detected.components _ status fresh
      simp only [installComponents, List.map_cons]
      rw [ih _ (by simpa [inserted, keys] using distinct), inserted, keys, List.append_assoc,
        List.singleton_append]

/-- With distinct names, each component's entry says whether it was installed. -/
theorem installComponents_lookup (detected : Detected) (components : List WrappedComponent)
    (distinct : (components.map (·.component.template)).Nodup) :
    ∀ component ∈ components,
      (∃ template, installedTemplate r collaborators component = some template ∧
        (installComponents r collaborators detected components).2.components.lookup
          component.component.template = some ⟨true, ""⟩) ∨
      installedTemplate r collaborators component = none ∧ ∃ errMsg, errMsg ≠ "" ∧
        (installComponents r collaborators detected components).2.components.lookup
          component.component.template = some ⟨false, errMsg⟩ := by
  induction components generalizing detected with
  | nil => simp
  | cons head rest ih =>
      simp only [List.map_cons, List.nodup_cons] at distinct
      intro component member
      simp only [installComponents]
      rcases List.mem_cons.1 member with rfl | later
      · rw [installComponents_lookup_of_not_mem r collaborators _ rest distinct.1]
        rcases installComponent_detected r collaborators detected component with
          ⟨template, installed, step⟩ | ⟨failed, template, errMsg, nonempty, step⟩ <;> rw [step]
        · exact .inl ⟨template, installed, GoMap.lookup_insert_self _ _ _⟩
        · rw [Detected.fail_components _ _ _ nonempty]
          exact .inr ⟨failed, errMsg, nonempty, GoMap.lookup_insert_self _ _ _⟩
      · exact ih _ distinct.2 component later

/-- The provider lists of templates, each concatenated in order. -/
def collectProviders (templates : List TemplateStatus) : Providers :=
  ⟨templates.flatMap (·.providers.infrastructureProviders),
    templates.flatMap (·.providers.bootstrapProviders),
    templates.flatMap (·.providers.controlPlaneProviders)⟩

@[simp]
theorem collectProviders_nil : collectProviders [] = Providers.empty := rfl

@[simp]
theorem collectProviders_cons (template : TemplateStatus) (templates : List TemplateStatus) :
    collectProviders (template :: templates) =
      template.providers.append (collectProviders templates) := rfl

/-- The loop adds the providers of the installed components, in order. -/
theorem installComponents_providers (detected : Detected) (components : List WrappedComponent) :
    (installComponents r collaborators detected components).2.providers =
      detected.providers.append
        (collectProviders (components.filterMap (installedTemplate r collaborators))) := by
  induction components generalizing detected with
  | nil => simp [installComponents]
  | cons component rest ih =>
      simp only [installComponents, ih]
      rcases installComponent_detected r collaborators detected component with
        ⟨template, installed, step⟩ | ⟨failed, template, errMsg, nonempty, step⟩
      · simp [step, installed, Providers.append_assoc]
      · simp only [step, List.filterMap_cons, failed, Detected.fail_providers _ _ _ nonempty]

/-- The loop ends without an error exactly when it started without one and installed everything. -/
theorem installComponents_errs_eq_none (detected : Detected) (components : List WrappedComponent) :
    (installComponents r collaborators detected components).2.errs = none ↔
      detected.errs = none ∧
        ∀ component ∈ components, (installedTemplate r collaborators component).isSome := by
  induction components generalizing detected with
  | nil => simp [installComponents]
  | cons component rest ih =>
      simp only [installComponents, ih, List.forall_mem_cons]
      rcases installComponent_detected r collaborators detected component with
        ⟨template, installed, step⟩ | ⟨failed, template, errMsg, -, step⟩ <;> rw [step]
      · simp [installed, and_assoc]
      · simp [failed]

end Loop

/-! ## The pass -/

/-- Enabling the additional components changes the HMC component's values and nothing else. -/
theorem enableAdditionalComponents_ok {verifyAPI : Option String} {spec enabled : ManagementSpec}
    (ok : enableAdditionalComponents verifyAPI spec = .returns (.ok enabled)) :
    ∃ core config, spec.core = some core ∧
      enabled = { spec with core := some { core with hmc := { core.hmc with config := some config } } } := by
  unfold enableAdditionalComponents at ok
  split at ok
  · cases ok
  rename_i core present
  repeat' split at ok
  all_goals try cases ok
  exact ⟨core, _, present, rfl⟩

/-- The templates of the components, read off the spec. -/
theorem wrappedComponents_templates (spec : ManagementSpec) :
    (wrappedComponents spec).map (·.component.template) =
      match spec.core with
      | none => []
      | some core => core.hmc.template :: core.capi.template :: spec.providers.map (·.template) := by
  unfold wrappedComponents
  split <;> simp

theorem wrappedComponents_templates_of_enabled {verifyAPI : Option String}
    {spec enabled : ManagementSpec}
    (ok : enableAdditionalComponents verifyAPI spec = .returns (.ok enabled)) :
    (wrappedComponents enabled).map (·.component.template) =
      (wrappedComponents spec).map (·.component.template) := by
  obtain ⟨core, config, present, rfl⟩ := enableAdditionalComponents_ok ok
  simp [wrappedComponents_templates, present]

/-- Past the finalizer, defaulting and cert-manager steps, a pass is the component loop and the status write. -/
theorem update_of_enabled {r : ManagementReconciler} {collaborators : ManagementCollaborators}
    {management : Management} {enabled : ManagementSpec}
    (finalized : managementFinalizer ∈ management.finalizers)
    (ok : enableAdditionalComponents collaborators.verifyCertManager management.spec =
      .returns (.ok enabled)) :
    update r collaborators management =
      let loop := installComponents r collaborators Detected.initial (wrappedComponents enabled)
      ⟨loop.1 ++ [.updateStatus (collaborators.statusUpdate = none)],
        some ⟨management.generation, loop.2.providers, loop.2.components⟩,
        .returns (.done, joinErrors loop.2.errs (statusUpdateError collaborators management))⟩ := by
  obtain ⟨core, config, present, -⟩ := enableAdditionalComponents_ok ok
  simp [update, finalized, ManagementSpec.setDefaults, present] at ok ⊢
  simp [ok]

/-- A pass never reads the status the `Management` had. -/
theorem update_status_irrelevant (r : ManagementReconciler) (collaborators : ManagementCollaborators)
    (management : Management) (prior : ManagementStatus) :
    update r collaborators { management with status := prior } = update r collaborators management :=
  rfl

/-! ## The default `Management` -/

/-- The default `Management` with its finalizer: the default core and no provider. -/
def defaultManagement : Management where
  name := managementName
  generation := 1
  finalizers := [managementFinalizer]
  deleting := false
  spec := ⟨some defaultCoreConfiguration, []⟩
  status := ⟨0, Providers.empty, GoMap.empty⟩

/-- Collaborators for which every template is valid and every release reconcile succeeds. -/
def validTemplates : ManagementCollaborators where
  getTemplate := fun _ => .ok { TemplateStatus.zero with valid := true }
  verifyCertManager := none
  reconcileHelmRelease := fun _ => none
  objectUpdate := none
  statusUpdate := none
  getHelmRelease := fun _ => .error (.notFound "helmreleases.helm.toolkit.fluxcd.io not found")
  suspendUpdate := none
  deleteAllOf := fun _ => none

/--
The component installer.  For a `Management` carrying its finalizer whose
components have pairwise-distinct templates, a pass that got past the
cert-manager check looks up every component's template once and in order,
and reconciles the release of exactly the components whose template it found
valid.  The status it writes has one entry per component: success with no
error when the template was found valid and its release reconciled, failure
with a message otherwise; its providers are those of the installed
components' templates, concatenated in order.  The pass is the same whatever
status the `Management` had, and it returns an error exactly when a
component failed or the status write did.
-/
theorem update_installs_every_component (r : ManagementReconciler)
    (collaborators : ManagementCollaborators) (management : Management) (enabled : ManagementSpec)
    (finalized : managementFinalizer ∈ management.finalizers)
    (ok : enableAdditionalComponents collaborators.verifyCertManager management.spec =
      .returns (.ok enabled))
    (distinct : ((wrappedComponents management.spec).map (·.component.template)).Nodup) :
    (update r collaborators management).calls.filterMap ManagementCall.templateLookup =
        (wrappedComponents enabled).map (fun component =>
          ⟨r.systemNamespace, component.component.template⟩) ∧
    (update r collaborators management).calls.filterMap ManagementCall.reconciledRelease =
        (wrappedComponents enabled).flatMap (componentReleases r collaborators) ∧
    (∃ status, (update r collaborators management).statusWrite = some status ∧
      status.observedGeneration = management.generation ∧
      status.components.keys = (wrappedComponents enabled).map (·.component.template) ∧
      (∀ component ∈ wrappedComponents enabled,
        (∃ template,
          collaborators.getTemplate ⟨r.systemNamespace, component.component.template⟩ = .ok template ∧
            template.valid = true ∧
            collaborators.reconcileHelmRelease (releaseRequest r component template) = none ∧
            status.components.lookup component.component.template = some ⟨true, ""⟩) ∨
        (∀ template, collaborators.getTemplate ⟨r.systemNamespace, component.component.template⟩ = .ok template →
            template.valid = true →
            collaborators.reconcileHelmRelease (releaseRequest r component template) ≠ none) ∧
          ∃ errMsg, errMsg ≠ "" ∧
            status.components.lookup component.component.template = some ⟨false, errMsg⟩) ∧
      status.availableProviders =
        collectProviders ((wrappedComponents enabled).filterMap (installedTemplate r collaborators))) ∧
    (∀ prior, update r collaborators { management with status := prior } =
      update r collaborators management) ∧
    ∃ err, (update r collaborators management).exit = .returns (.done, err) ∧
      (err = none ↔
        (∀ component ∈ wrappedComponents enabled,
          (installedTemplate r collaborators component).isSome) ∧
        collaborators.statusUpdate = none) := by
  have distinctEnabled : ((wrappedComponents enabled).map (·.component.template)).Nodup := by
    rwa [wrappedComponents_templates_of_enabled ok]
  refine ⟨?_, ?_, ?_, update_status_irrelevant r collaborators management, ?_⟩ <;>
    rw [update_of_enabled finalized ok]
  · simp [installComponents_templateLookups, ManagementCall.templateLookup]
  · simp [installComponents_releases, ManagementCall.reconciledRelease]
  · refine ⟨_, rfl, rfl, ?_, fun component listed => ?_, ?_⟩
    · simpa [Detected.initial] using
        installComponents_keys r collaborators Detected.initial _ (by simpa [Detected.initial])
    · rcases installComponents_lookup r collaborators Detected.initial _ distinctEnabled component listed
        with ⟨template, installed, entry⟩ | ⟨failed, errMsg, nonempty, entry⟩
      · obtain ⟨found, valid, reconciled⟩ := installedTemplate_eq_some_iff.1 installed
        exact .inl ⟨template, found, valid, reconciled, entry⟩
      · exact .inr ⟨installedTemplate_eq_none_iff.1 failed, errMsg, nonempty, entry⟩
    · simp [installComponents_providers, Detected.initial]
  · refine ⟨_, rfl, ?_⟩
    simp [installComponents_errs_eq_none, Detected.initial, statusUpdateError]

/-- The installer on the default `Management`. -/
theorem update_installs_every_component_defaultManagement :
    managementFinalizer ∈ defaultManagement.finalizers ∧
    ((wrappedComponents defaultManagement.spec).map (·.component.template)).Nodup ∧
    ∃ enabled, enableAdditionalComponents validTemplates.verifyCertManager defaultManagement.spec =
        .returns (.ok enabled) ∧
    (update ⟨"hmc-system"⟩ validTemplates defaultManagement).calls.filterMap
        ManagementCall.templateLookup =
      (wrappedComponents enabled).map (fun component => ⟨"hmc-system", component.component.template⟩) ∧
    (update ⟨"hmc-system"⟩ validTemplates defaultManagement).calls.filterMap
        ManagementCall.reconciledRelease =
      (wrappedComponents enabled).flatMap (componentReleases ⟨"hmc-system"⟩ validTemplates) ∧
    (∃ status, (update ⟨"hmc-system"⟩ validTemplates defaultManagement).statusWrite = some status ∧
      status.observedGeneration = defaultManagement.generation ∧
      status.components.keys = (wrappedComponents enabled).map (·.component.template) ∧
      (∀ component ∈ wrappedComponents enabled,
        (∃ template,
          validTemplates.getTemplate ⟨"hmc-system", component.component.template⟩ = .ok template ∧
            template.valid = true ∧
            validTemplates.reconcileHelmRelease (releaseRequest ⟨"hmc-system"⟩ component template) = none ∧
            status.components.lookup component.component.template = some ⟨true, ""⟩) ∨
        (∀ template, validTemplates.getTemplate ⟨"hmc-system", component.component.template⟩ = .ok template →
            template.valid = true →
            validTemplates.reconcileHelmRelease (releaseRequest ⟨"hmc-system"⟩ component template) ≠ none) ∧
          ∃ errMsg, errMsg ≠ "" ∧
            status.components.lookup component.component.template = some ⟨false, errMsg⟩) ∧
      status.availableProviders = collectProviders
        ((wrappedComponents enabled).filterMap (installedTemplate ⟨"hmc-system"⟩ validTemplates))) ∧
    (∀ prior, update ⟨"hmc-system"⟩ validTemplates { defaultManagement with status := prior } =
      update ⟨"hmc-system"⟩ validTemplates defaultManagement) ∧
    ∃ err, (update ⟨"hmc-system"⟩ validTemplates defaultManagement).exit = .returns (.done, err) ∧
      (err = none ↔
        (∀ component ∈ wrappedComponents enabled,
          (installedTemplate ⟨"hmc-system"⟩ validTemplates component).isSome) ∧
        validTemplates.statusUpdate = none) :=
  ⟨by decide, by decide, _, rfl,
    update_installs_every_component ⟨"hmc-system"⟩ validTemplates defaultManagement _
      (by decide) rfl (by decide)⟩

/-! ## The releases of one pass -/

/-- The tier of a release among the management's: the HMC core, the CAPI core, a provider. -/
def releaseTier (core : Core) (name : String) : Nat :=
  if name = core.hmc.template then 0 else if name = core.capi.template then 1 else 2

/-- Each component sits in its tier: the HMC core, the CAPI core, or a provider. -/
theorem wrappedComponents_tiers {spec : ManagementSpec} {core : Core}
    (present : spec.core = some core) :
    ∀ component ∈ wrappedComponents spec,
      component.component.template = core.hmc.template ∧ component.dependsOn = [] ∨
      component.component.template = core.capi.template ∧
        component.dependsOn = [core.hmc.template] ∨
      component.component.template ∈ spec.providers.map (·.template) ∧
        component.dependsOn = [core.capi.template] := by
  intro component member
  simp only [wrappedComponents, present, List.mem_cons, List.mem_map] at member
  rcases member with rfl | rfl | ⟨provider, listed, rfl⟩
  · exact .inl ⟨rfl, rfl⟩
  · exact .inr (.inl ⟨rfl, rfl⟩)
  · exact .inr (.inr ⟨by simpa using List.mem_map_of_mem _ listed, by simp⟩)

theorem mem_componentReleases {r : ManagementReconciler} {collaborators : ManagementCollaborators}
    {component : WrappedComponent} {request : ReleaseRequest}
    (member : request ∈ componentReleases r collaborators component) :
    ∃ template, request = releaseRequest r component template := by
  unfold componentReleases at member
  split at member
  · split at member
    · exact ⟨_, List.mem_singleton.1 member⟩
    · cases member
  · cases member

/-- The loop reconciles at most one release per component, named after its template. -/
theorem componentReleases_names_sublist (r : ManagementReconciler)
    (collaborators : ManagementCollaborators) (components : List WrappedComponent) :
    ((components.flatMap (componentReleases r collaborators)).map (·.name)).Sublist
      (components.map (·.component.template)) := by
  induction components with
  | nil => exact .slnil
  | cons component rest ih =>
      simp only [List.flatMap_cons, List.map_append, List.map_cons]
      unfold componentReleases
      split
      · split
        · exact .cons₂ _ ih
        · exact .cons _ ih
      · exact .cons _ ih

/-- A component whose template is found valid gets one release, named after its template. -/
theorem componentReleases_names_of_valid {r : ManagementReconciler}
    {collaborators : ManagementCollaborators} {component : WrappedComponent} {template : TemplateStatus}
    (found : collaborators.getTemplate ⟨r.systemNamespace, component.component.template⟩ = .ok template)
    (valid : template.valid = true) :
    (componentReleases r collaborators component).map (·.name) = [component.component.template] := by
  simp [componentReleases, found, valid, releaseRequest, Component.helmReleaseName]

/-- A component whose template is missing or invalid gets no release. -/
theorem componentReleases_of_invalid {r : ManagementReconciler}
    {collaborators : ManagementCollaborators} {component : WrappedComponent}
    (invalid : ∀ template,
      collaborators.getTemplate ⟨r.systemNamespace, component.component.template⟩ = .ok template →
        template.valid = false) :
    componentReleases r collaborators component = [] := by
  unfold componentReleases
  split
  · rename_i template found
    simp [invalid template found]
  · rfl

/--
With distinct templates, the loop's releases name a component's template
once when the template is found valid, and not at all when it is missing or
invalid.
-/
theorem count_componentReleases_names (r : ManagementReconciler)
    (collaborators : ManagementCollaborators) {components : List WrappedComponent}
    (distinct : (components.map (·.component.template)).Nodup) {component : WrappedComponent}
    (listed : component ∈ components) :
    ((∃ template,
        collaborators.getTemplate ⟨r.systemNamespace, component.component.template⟩ = .ok template ∧
          template.valid = true) →
      ((components.flatMap (componentReleases r collaborators)).map (·.name)).count
        component.component.template = 1) ∧
    ((∀ template,
        collaborators.getTemplate ⟨r.systemNamespace, component.component.template⟩ = .ok template →
          template.valid = false) →
      component.component.template ∉
        (components.flatMap (componentReleases r collaborators)).map (·.name)) := by
  have names := componentReleases_names_sublist r collaborators components
  rw [List.map_flatMap] at names ⊢
  constructor
  · rintro ⟨template, found, valid⟩
    refine List.count_eq_one_of_mem (names.nodup distinct) (List.mem_flatMap.2 ⟨component, listed, ?_⟩)
    rw [componentReleases_names_of_valid found valid]
    exact List.mem_singleton_self _
  · intro invalid named
    obtain ⟨other, otherListed, otherNamed⟩ := List.mem_flatMap.1 named
    obtain ⟨request, made, named⟩ := List.mem_map.1 otherNamed
    obtain ⟨template, rfl⟩ := mem_componentReleases made
    cases List.inj_on_of_nodup_map distinct otherListed listed named
    simp [componentReleases_of_invalid invalid] at made

/-- The pass reconciles releases only from the component loop. -/
theorem update_releases (r : ManagementReconciler) (collaborators : ManagementCollaborators)
    (management : Management) :
    (update r collaborators management).calls.filterMap ManagementCall.reconciledRelease = [] ∨
      ∃ enabled, enableAdditionalComponents collaborators.verifyCertManager management.spec =
          .returns (.ok enabled) ∧
        (update r collaborators management).calls.filterMap ManagementCall.reconciledRelease =
          (wrappedComponents enabled).flatMap (componentReleases r collaborators) := by
  by_cases finalized : managementFinalizer ∈ management.finalizers
  · rcases enabling : enableAdditionalComponents collaborators.verifyCertManager management.spec with
      ⟨err | enabled⟩ | reason
    pick_goal 2
    · refine .inr ⟨enabled, rfl, ?_⟩
      rw [update_of_enabled finalized enabling]
      simp [installComponents_releases, ManagementCall.reconciledRelease]
    all_goals
      refine .inl ?_
      unfold update
      cases core : management.spec.core <;>
        simp_all [ManagementSpec.setDefaults, ManagementCall.reconciledRelease]
  · simp [update, finalized, ManagementCall.reconciledRelease]

/-- Every release a pass reconciles is the release of one of its components, in the system namespace. -/
theorem mem_update_releases {r : ManagementReconciler} {collaborators : ManagementCollaborators}
    {management : Management} {request : ReleaseRequest}
    (member : request ∈
      (update r collaborators management).calls.filterMap ManagementCall.reconciledRelease) :
    request.ns = r.systemNamespace ∧
      request.name ∈ (wrappedComponents management.spec).map (·.component.template) := by
  rcases update_releases r collaborators management with none | ⟨enabled, ok, releases⟩
  · simp [none] at member
  rw [releases] at member
  obtain ⟨component, listed, made⟩ := List.mem_flatMap.1 member
  obtain ⟨template, rfl⟩ := mem_componentReleases made
  rw [← wrappedComponents_templates_of_enabled ok]
  exact ⟨rfl, List.mem_map_of_mem _ listed⟩

/--
On a pass past the finalizer, defaulting and cert-manager steps, over
components with distinct templates, a component whose template is found
valid has one release, and one whose template is missing or invalid none.
-/
theorem update_release_counts (r : ManagementReconciler) (collaborators : ManagementCollaborators)
    (management : Management)
    (distinct : ((wrappedComponents management.spec).map (·.component.template)).Nodup)
    (finalized : managementFinalizer ∈ management.finalizers) (enabled : ManagementSpec)
    (ok : enableAdditionalComponents collaborators.verifyCertManager management.spec =
      .returns (.ok enabled)) :
    ∀ name ∈ (wrappedComponents management.spec).map (·.component.template),
      ((∃ template, collaborators.getTemplate ⟨r.systemNamespace, name⟩ = .ok template ∧
          template.valid = true) →
        (((update r collaborators management).calls.filterMap
          ManagementCall.reconciledRelease).map (·.name)).count name = 1) ∧
      ((∀ template, collaborators.getTemplate ⟨r.systemNamespace, name⟩ = .ok template →
          template.valid = false) →
        name ∉ ((update r collaborators management).calls.filterMap
          ManagementCall.reconciledRelease).map (·.name)) := by
  intro name listed
  rw [← wrappedComponents_templates_of_enabled ok] at listed distinct
  obtain ⟨component, member, rfl⟩ := List.mem_map.1 listed
  rw [update_of_enabled finalized ok]
  simpa [installComponents_releases, ManagementCall.reconciledRelease] using
    count_componentReleases_names r collaborators distinct member

/--
The releases of one pass, for components with pairwise-distinct templates.
Each is named after one component's template, at most one per component and
in component order, so no two share a name; each lives in the system
namespace.  On a pass past the finalizer, defaulting and cert-manager steps,
a component whose template is found valid in the system namespace gets
exactly one release, and one whose template is missing or invalid none.  The HMC core's release depends on nothing, the CAPI core's on
the HMC core's, and a provider's on the CAPI core's, so every dependency
lies in a lower tier and none is the release itself.
-/
theorem update_release_tiers (r : ManagementReconciler) (collaborators : ManagementCollaborators)
    (management : Management)
    (distinct : ((wrappedComponents management.spec).map (·.component.template)).Nodup) :
    (((update r collaborators management).calls.filterMap ManagementCall.reconciledRelease).map
        (·.name)).Sublist ((wrappedComponents management.spec).map (·.component.template)) ∧
    (((update r collaborators management).calls.filterMap ManagementCall.reconciledRelease).map
        (·.name)).Nodup ∧
    (managementFinalizer ∈ management.finalizers → ∀ enabled,
      enableAdditionalComponents collaborators.verifyCertManager management.spec =
          .returns (.ok enabled) →
      ∀ name ∈ (wrappedComponents management.spec).map (·.component.template),
        ((∃ template, collaborators.getTemplate ⟨r.systemNamespace, name⟩ = .ok template ∧
            template.valid = true) →
          (((update r collaborators management).calls.filterMap
            ManagementCall.reconciledRelease).map (·.name)).count name = 1) ∧
        ((∀ template, collaborators.getTemplate ⟨r.systemNamespace, name⟩ = .ok template →
            template.valid = false) →
          name ∉ ((update r collaborators management).calls.filterMap
            ManagementCall.reconciledRelease).map (·.name))) ∧
    ∀ request ∈ (update r collaborators management).calls.filterMap ManagementCall.reconciledRelease,
      request.ns = r.systemNamespace ∧ ∃ core, management.spec.core = some core ∧
        (request.name = core.hmc.template ∧ request.dependsOn = [] ∨
          request.name = core.capi.template ∧ request.dependsOn = [core.hmc.template] ∨
          request.name ∈ management.spec.providers.map (·.template) ∧
            request.dependsOn = [core.capi.template]) ∧
        ∀ dependency ∈ request.dependsOn, releaseTier core dependency < releaseTier core request.name := by
  rcases update_releases r collaborators management with none | ⟨enabled, ok, releases⟩
  · refine ⟨?_, ?_, update_release_counts r collaborators management distinct, ?_⟩ <;> simp [none]
  obtain ⟨core, config, present, rfl⟩ := enableAdditionalComponents_ok ok
  have sublist := componentReleases_names_sublist r collaborators
    (wrappedComponents { management.spec with
      core := some { core with hmc := { core.hmc with config := some config } } })
  rw [wrappedComponents_templates_of_enabled ok] at sublist
  refine ⟨releases ▸ sublist, releases ▸ sublist.nodup distinct,
    update_release_counts r collaborators management distinct, fun request member => ?_⟩
  rw [releases] at member
  obtain ⟨component, listed, made⟩ := List.mem_flatMap.1 member
  obtain ⟨template, rfl⟩ := mem_componentReleases made
  -- the core templates are distinct, and no provider reuses one
  simp only [wrappedComponents_templates, present, List.nodup_cons, List.mem_cons, not_or] at distinct
  refine ⟨rfl, core, present, ?_⟩
  simp only [releaseRequest, Component.helmReleaseName]
  rcases wrappedComponents_tiers rfl component listed with
    ⟨named, depends⟩ | ⟨named, depends⟩ | ⟨named, depends⟩
  · simp [named, depends]
  · simp [named, depends, releaseTier, Ne.symm distinct.1.1]
  · have notCore : component.component.template ≠ core.hmc.template ∧
        component.component.template ≠ core.capi.template :=
      ⟨fun same => distinct.1.2 (same ▸ named), fun same => distinct.2.1 (same ▸ named)⟩
    simp [named, depends, releaseTier, notCore, Ne.symm distinct.1.1]

/-- The releases of one pass over the default `Management`. -/
theorem update_release_tiers_defaultManagement :
    ((wrappedComponents defaultManagement.spec).map (·.component.template)).Nodup ∧
    (((update ⟨"hmc-system"⟩ validTemplates defaultManagement).calls.filterMap
        ManagementCall.reconciledRelease).map (·.name)).Sublist
      ((wrappedComponents defaultManagement.spec).map (·.component.template)) ∧
    (((update ⟨"hmc-system"⟩ validTemplates defaultManagement).calls.filterMap
        ManagementCall.reconciledRelease).map (·.name)).Nodup ∧
    (managementFinalizer ∈ defaultManagement.finalizers → ∀ enabled,
      enableAdditionalComponents validTemplates.verifyCertManager defaultManagement.spec =
          .returns (.ok enabled) →
      ∀ name ∈ (wrappedComponents defaultManagement.spec).map (·.component.template),
        ((∃ template, validTemplates.getTemplate ⟨"hmc-system", name⟩ = .ok template ∧
            template.valid = true) →
          (((update ⟨"hmc-system"⟩ validTemplates defaultManagement).calls.filterMap
            ManagementCall.reconciledRelease).map (·.name)).count name = 1) ∧
        ((∀ template, validTemplates.getTemplate ⟨"hmc-system", name⟩ = .ok template →
            template.valid = false) →
          name ∉ ((update ⟨"hmc-system"⟩ validTemplates defaultManagement).calls.filterMap
            ManagementCall.reconciledRelease).map (·.name))) ∧
    ∀ request ∈ (update ⟨"hmc-system"⟩ validTemplates defaultManagement).calls.filterMap
        ManagementCall.reconciledRelease,
      request.ns = "hmc-system" ∧ ∃ core, defaultManagement.spec.core = some core ∧
        (request.name = core.hmc.template ∧ request.dependsOn = [] ∨
          request.name = core.capi.template ∧ request.dependsOn = [core.hmc.template] ∨
          request.name ∈ defaultManagement.spec.providers.map (·.template) ∧
            request.dependsOn = [core.capi.template]) ∧
        ∀ dependency ∈ request.dependsOn, releaseTier core dependency < releaseTier core request.name :=
  ⟨by decide, update_release_tiers ⟨"hmc-system"⟩ validTemplates defaultManagement (by decide)⟩

/-- The default `Management` with a provider named after the CAPI core's template. -/
def coreNamedProvider : Management :=
  { defaultManagement with spec := ⟨some defaultCoreConfiguration, [⟨defaultCoreCAPITemplate, none⟩]⟩ }

/--
A provider named `cluster-api` gets a release of the CAPI core's name that
depends on itself, reconciled after the CAPI core's own release.
-/
theorem update_provider_release_depends_on_itself :
    ((update ⟨"hmc-system"⟩ validTemplates coreNamedProvider).calls.filterMap
        ManagementCall.reconciledRelease).map (fun request => (request.name, request.dependsOn)) =
      [("hmc", []), ("cluster-api", ["hmc"]), ("cluster-api", ["cluster-api"])] := by
  decide

/-! ## Values the merge cannot read -/

/-- The default `Management` whose HMC component carries the given values. -/
def configuredManagement (config : JsonValue) : Management :=
  { defaultManagement with
    spec := ⟨some { defaultCoreConfiguration with
      hmc := { defaultCoreConfiguration.hmc with config := some config } }, []⟩ }

/--
With the cert-manager API present, the merge panics on the HMC values
`{"admissionWebhook": true}`, at the type assertion of the `true` it finds
there, and on the raw document `null`, at the assignment into the nil map
that `null` decodes to.  An `Update` pass over the `Management` holding the
first panics the same way, before the component loop and the status write.
(A stored `null` never reaches the merge: it decodes to a nil `Config`.)
For every spec with a core, the merge panics exactly on such values, and
when it returns, the values it writes back are merged as `MergedValues`
states.
-/
theorem enableAdditionalComponents_panics_on_unreadable_config :
    validTemplates.verifyCertManager = none ∧
      enableAdditionalComponents none
          (configuredManagement (.object [("admissionWebhook", .bool true)])).spec =
        .panics "interface conversion: interface \x7b\x7d is bool, not map[string]interface \x7b\x7d" ∧
      enableAdditionalComponents none (configuredManagement .null).spec = .panics assignmentToNilMap ∧
      (update ⟨"hmc-system"⟩ validTemplates
          (configuredManagement (.object [("admissionWebhook", .bool true)]))).exit =
        .panics "interface conversion: interface \x7b\x7d is bool, not map[string]interface \x7b\x7d" ∧
      (∀ (spec : ManagementSpec) (core : Core), spec.core = some core →
        ((∃ reason, enableAdditionalComponents none spec = .panics reason) ↔
          core.hmc.config = some .null ∨
            ∃ input, decodeConfig core.hmc.config = .ok (some input) ∧
              (assertsToMap (input.lookup "admissionWebhook") = false ∨
                assertsToMap (input.lookup "cluster-api-operator") = false))) ∧
      ∀ spec enabled, enableAdditionalComponents none spec = .returns (.ok enabled) →
        ∃ (core : Core) (input merged : GoMap String JsonValue),
          spec.core = some core ∧ decodeConfig core.hmc.config = .ok (some input) ∧
          enabled = { spec with
            core := some { core with hmc := { core.hmc with config := some (.object merged) } } } ∧
          MergedValues input merged :=
  ⟨rfl, rfl, rfl, rfl, fun _ _ present => enableAdditionalComponents_panics_iff present,
    fun _ _ ok => enableAdditionalComponents_merge ok⟩

end HmcReconcilers.ManagementController
