import HmcReconcilers.TemplateController

/-!
# The add-on profile of a managed cluster

`ManagedClusterReconciler.updateServices` builds one Sveltos chart entry per
service of the managed cluster with `install = true` and reconciles the
cluster's `ClusterProfile` with them.  Each entry's repository URL comes from
`getServiceTemplateRepoURL`, a three-hop lookup ServiceTemplate → HelmChart →
HelmRepository.  Any lookup failure aborts the whole pass before the profile
is written.  The first section proves the pass all or nothing, for every
service list and every answer of the API server: the profile is written
exactly when every installed service resolves, and then with one entry per
installed service, in order.

The template validator's `templateSource` performs the same three hops for
the same purpose.  The second section compares the two: they agree exactly
when the template's `spec.helm.chartName` is the name of the chart its status
points at, which fails for every chart the validator created under a
template whose name differs from its chart name.
-/

namespace HmcReconcilers.ManagedClusterController

open HmcReconcilers TemplateController

/-- `sveltos.HelmChartOpts`: one chart entry of a `ClusterProfile`. -/
structure HelmChartOpts where
  repositoryURL : String
  repositoryName : String
  chartName : String
  chartVersion : String
  releaseName : String
  values : Option String
  releaseNamespace : String
  createNamespace : Bool
  plainHTTP : Bool
  insecure : Bool
deriving DecidableEq, Repr

/-- What the API server and the Sveltos helper answer to `updateServices`. -/
structure ServiceCollaborators where
  /-- Charts and repositories. -/
  store : SourceStore
  /-- `r.Get` of a `ServiceTemplate`. -/
  getServiceTemplate : NamespacedName → Except ApiError Template
  /-- `sveltos.ReconcileClusterProfile` with the given entries. -/
  reconcileClusterProfile : List HelmChartOpts → Option String

/-- `getServiceTemplateRepoURL`: the chart is looked up by the spec's chart name. -/
def getServiceTemplateRepoURL (store : SourceStore) (tmpl : Template) : Except String String :=
  let tmplRef := NamespacedName.toString ⟨tmpl.ns, tmpl.name⟩
  match tmpl.status.chartRef with
  | none => .error ("status for ServiceTemplate (" ++ tmplRef ++ ") has not been updated yet")
  | some chartRef =>
      match store.getHelmChart ⟨chartRef.ns, tmpl.spec.helm.chartName⟩ with
      | .error _ => .error ("failed to get HelmChart (" ++ tmplRef ++ ")")
      | .ok chart =>
          match store.getHelmRepository ⟨chart.ns, chart.sourceRefName⟩ with
          | .error _ => .error ("failed to get HelmRepository (" ++ tmplRef ++ ")")
          | .ok repo => .ok repo.url

/-- The release namespace of an entry: the service's, defaulting to its release name. -/
def releaseNamespaceOf (svc : ServiceSpec) : String :=
  if svc.releaseNamespace ≠ "" then svc.releaseNamespace else svc.releaseName

/-- The entry `updateServices` appends for a resolved service. -/
def helmChartOptsOf (svc : ServiceSpec) (tmpl : Template) (url : String) : HelmChartOpts where
  repositoryURL := url
  repositoryName := tmpl.spec.helm.chartName
  chartName := tmpl.spec.helm.chartName
  chartVersion := tmpl.spec.helm.chartVersion
  releaseName := svc.releaseName
  values := svc.values
  releaseNamespace := releaseNamespaceOf svc
  createNamespace := svc.createNamespace
  plainHTTP := svc.registryConfig.plainHTTP
  insecure := svc.registryConfig.insecure

/-- The loop of `updateServices` over `spec.services`: the entries, or the first failure. -/
def serviceOpts (collaborators : ServiceCollaborators) (mc : ManagedCluster) :
    List ServiceSpec → Except String (List HelmChartOpts)
  | [] => .ok []
  | svc :: rest =>
      if svc.install then
        let tmplRef : NamespacedName := ⟨mc.ns, svc.template⟩
        match collaborators.getServiceTemplate tmplRef with
        | .error _ => .error ("failed to get Template (" ++ tmplRef.toString ++ ")")
        | .ok tmpl =>
            match getServiceTemplateRepoURL collaborators.store tmpl with
            | .error err => .error ("could not get repository url: " ++ err)
            | .ok url => (serviceOpts collaborators mc rest).map (helmChartOptsOf svc tmpl url :: ·)
      else serviceOpts collaborators mc rest

/-- What `updateServices` did: the entries it wrote, if it reached the write, its result and error. -/
structure ServicesPass where
  profileWrite : Option (List HelmChartOpts)
  result : Result
  error : Option String
deriving DecidableEq, Repr

/-- `ManagedClusterReconciler.updateServices`. -/
def updateServices (collaborators : ServiceCollaborators) (mc : ManagedCluster) : ServicesPass :=
  match serviceOpts collaborators mc mc.spec.services with
  | .error err => ⟨none, .done, some err⟩
  | .ok opts =>
      match collaborators.reconcileClusterProfile opts with
      | some err => ⟨some opts, .done, some ("failed to create ClusterProfile: " ++ err)⟩
      | none => ⟨some opts, ⟨defaultRequeueInterval⟩, none⟩

/-- The loop reads the managed cluster's namespace, never its status. -/
theorem serviceOpts_withStatus (collaborators : ServiceCollaborators) (mc : ManagedCluster)
    (status : ManagedClusterStatus) (services : List ServiceSpec) :
    serviceOpts collaborators { mc with status } services = serviceOpts collaborators mc services := by
  induction services with
  | nil => rfl
  | cons svc rest ih => simp only [serviceOpts, ih]

/-! ## All or nothing -/

/-- A service resolves: its template is found in the cluster's namespace, and its repository URL. -/
def ServiceResolves (collaborators : ServiceCollaborators) (mc : ManagedCluster)
    (svc : ServiceSpec) : Prop :=
  ∃ tmpl url, collaborators.getServiceTemplate ⟨mc.ns, svc.template⟩ = .ok tmpl ∧
    getServiceTemplateRepoURL collaborators.store tmpl = .ok url

/--
`entry` is the chart entry of a resolved service: the repository URL found,
the template's chart name (as repository and chart name) and version, and
the service's release name, values, release namespace (its release name when
unset), namespace creation flag and registry flags.
-/
def ServiceEntry (collaborators : ServiceCollaborators) (mc : ManagedCluster)
    (svc : ServiceSpec) (entry : HelmChartOpts) : Prop :=
  ∃ tmpl url, collaborators.getServiceTemplate ⟨mc.ns, svc.template⟩ = .ok tmpl ∧
    getServiceTemplateRepoURL collaborators.store tmpl = .ok url ∧
    entry.repositoryURL = url ∧
    entry.repositoryName = tmpl.spec.helm.chartName ∧
    entry.chartName = tmpl.spec.helm.chartName ∧
    entry.chartVersion = tmpl.spec.helm.chartVersion ∧
    entry.releaseName = svc.releaseName ∧
    entry.values = svc.values ∧
    entry.releaseNamespace = (if svc.releaseNamespace = "" then svc.releaseName
      else svc.releaseNamespace) ∧
    entry.createNamespace = svc.createNamespace ∧
    entry.plainHTTP = svc.registryConfig.plainHTTP ∧
    entry.insecure = svc.registryConfig.insecure

/-- The entry built from a resolved service's template and URL has the fields `ServiceEntry` names. -/
theorem serviceEntry_helmChartOptsOf {collaborators : ServiceCollaborators} {mc : ManagedCluster}
    {svc : ServiceSpec} {tmpl : Template} {url : String}
    (lookup : collaborators.getServiceTemplate ⟨mc.ns, svc.template⟩ = .ok tmpl)
    (located : getServiceTemplateRepoURL collaborators.store tmpl = .ok url) :
    ServiceEntry collaborators mc svc (helmChartOptsOf svc tmpl url) :=
  ⟨tmpl, url, lookup, located, rfl, rfl, rfl, rfl, rfl, rfl,
    by simp only [helmChartOptsOf, releaseNamespaceOf, ite_not], rfl, rfl, rfl⟩

/-- The loop's entries are, in order, one per service with `install = true`. -/
theorem serviceOpts_entries (collaborators : ServiceCollaborators) (mc : ManagedCluster)
    {services : List ServiceSpec} {opts : List HelmChartOpts}
    (built : serviceOpts collaborators mc services = .ok opts) :
    List.Forall₂ (ServiceEntry collaborators mc) (services.filter (·.install)) opts := by
  induction services generalizing opts with
  | nil => cases built; exact .nil
  | cons svc rest ih =>
      unfold serviceOpts at built
      by_cases install : svc.install
      · simp only [install, if_true, List.filter_cons_of_pos] at built ⊢
        cases lookup : collaborators.getServiceTemplate ⟨mc.ns, svc.template⟩ <;>
          simp only [lookup] at built
        · cases built
        rename_i tmpl
        cases located : getServiceTemplateRepoURL collaborators.store tmpl <;>
          simp only [located] at built
        · cases built
        cases restBuilt : serviceOpts collaborators mc rest <;> simp only [restBuilt] at built
        · cases built
        cases built
        exact .cons (serviceEntry_helmChartOptsOf lookup located) (ih restBuilt)
      · simpa [install] using ih (by simpa [install] using built)

/-- The loop succeeds exactly when every service with `install = true` resolves. -/
theorem serviceOpts_isOk_iff (collaborators : ServiceCollaborators) (mc : ManagedCluster)
    (services : List ServiceSpec) :
    (∃ opts, serviceOpts collaborators mc services = .ok opts) ↔
      ∀ svc ∈ services, svc.install = true → ServiceResolves collaborators mc svc := by
  induction services with
  | nil => simp [serviceOpts]
  | cons svc rest ih =>
      by_cases install : svc.install
      · simp only [serviceOpts, install, if_true, List.mem_cons, forall_eq_or_imp, ← ih,
          forall_const]
        cases lookup : collaborators.getServiceTemplate ⟨mc.ns, svc.template⟩ with
        | error => simp [ServiceResolves, lookup]
        | ok tmpl =>
            cases located : getServiceTemplateRepoURL collaborators.store tmpl with
            | error => simp [ServiceResolves, lookup, located]
            | ok url =>
                cases serviceOpts collaborators mc rest <;>
                  simp [ServiceResolves, lookup, located, Except.map]
      · simp [serviceOpts, install, ih]

/-- The profile is written, with the loop's entries, exactly when the loop succeeded. -/
theorem updateServices_profileWrite_eq_some (collaborators : ServiceCollaborators)
    (mc : ManagedCluster) {opts : List HelmChartOpts} :
    (updateServices collaborators mc).profileWrite = some opts ↔
      serviceOpts collaborators mc mc.spec.services = .ok opts := by
  cases built : serviceOpts collaborators mc mc.spec.services with
  | error => simp [updateServices, built]
  | ok => simp only [updateServices, built]; split <;> simp

/-- A failed loop leaves the profile unwritten and returns the loop's error. -/
theorem updateServices_of_error (collaborators : ServiceCollaborators) (mc : ManagedCluster)
    {err : String} (failed : serviceOpts collaborators mc mc.spec.services = .error err) :
    (updateServices collaborators mc).profileWrite = none ∧
      (updateServices collaborators mc).error = some err := by
  simp [updateServices, failed]

/--
Add-on profile construction is all or nothing.  The profile is written
exactly when every service with `install = true` resolves; its entries are
then, in order, one per such service, built from the service, its template
and the URL found, and there are none when no service is installed.  A
service that does not resolve makes `updateServices` return an error
without writing the profile.
-/
theorem updateServices_all_or_nothing (collaborators : ServiceCollaborators)
    (mc : ManagedCluster) :
    ((∃ opts, (updateServices collaborators mc).profileWrite = some opts) ↔
      ∀ svc ∈ mc.spec.services, svc.install = true → ServiceResolves collaborators mc svc) ∧
    (∀ opts, (updateServices collaborators mc).profileWrite = some opts →
      List.Forall₂ (ServiceEntry collaborators mc) (mc.spec.services.filter (·.install)) opts) ∧
    ((∀ svc ∈ mc.spec.services, svc.install = false) →
      (updateServices collaborators mc).profileWrite = some []) ∧
    ((∃ svc ∈ mc.spec.services, svc.install = true ∧ ¬ServiceResolves collaborators mc svc) →
      (updateServices collaborators mc).profileWrite = none ∧
        (updateServices collaborators mc).error ≠ none) := by
  have entries : ∀ opts, (updateServices collaborators mc).profileWrite = some opts →
      List.Forall₂ (ServiceEntry collaborators mc) (mc.spec.services.filter (·.install)) opts :=
    fun _ written =>
      serviceOpts_entries collaborators mc ((updateServices_profileWrite_eq_some _ _).1 written)
  refine ⟨(exists_congr fun _ => updateServices_profileWrite_eq_some _ _).trans
      (serviceOpts_isOk_iff _ _ _), entries, fun uninstalled => ?_, fun unresolved => ?_⟩
  · obtain ⟨opts, built⟩ := (serviceOpts_isOk_iff _ _ _).2
      fun svc member install => by simp [uninstalled svc member] at install
    have noneInstalled : mc.spec.services.filter (·.install) = [] :=
      List.filter_eq_nil_iff.2 fun svc member => by simp [uninstalled svc member]
    have listed := serviceOpts_entries collaborators mc built
    rw [noneInstalled, List.forall₂_nil_left_iff] at listed
    exact (updateServices_profileWrite_eq_some _ _).2 (listed ▸ built)
  · obtain ⟨svc, member, install, unresolvedService⟩ := unresolved
    cases built : serviceOpts collaborators mc mc.spec.services with
    | ok opts =>
        exact absurd ((serviceOpts_isOk_iff _ _ _).1 ⟨opts, built⟩ svc member install)
          unresolvedService
    | error err => simp [updateServices_of_error _ _ built]

/-! ## The two repository lookups -/

/--
The two lookups agree whenever the template's chart name is the name of the
chart its status points at.
-/
theorem getServiceTemplateRepoURL_eq_ok_iff (store : SourceStore) {tmpl : Template}
    {chartRef : SourceRef} (pointed : tmpl.status.chartRef = some chartRef)
    (sameName : tmpl.spec.helm.chartName = chartRef.name) (url : String) :
    getServiceTemplateRepoURL store tmpl = .ok url ↔
      ∃ repo, templateSource store tmpl = .ok repo ∧ repo.url = url := by
  simp only [getServiceTemplateRepoURL, templateSource, pointed, sameName]
  cases chartLookup : store.getHelmChart ⟨chartRef.ns, chartRef.name⟩ with
  | error => simp
  | ok chart =>
      cases repoLookup : store.getHelmRepository ⟨chart.ns, chart.sourceRefName⟩ <;>
        simp [repoLookup]

/-- A chart the validator creates for a template is named after the template. -/
theorem resolveHelmChart_name (r : TemplateReconciler) (collaborators : TemplateCollaborators)
    {template : Template} {hcChart : HelmChart} (byName : template.spec.helm.chartRef = none)
    (resolved : resolveHelmChart r collaborators template = .ok hcChart) :
    hcChart.name = template.name := by
  simp only [resolveHelmChart, byName] at resolved
  split at resolved
  · cases resolved
  · split at resolved
    · cases resolved
    · unfold reconcileHelmChart at resolved
      split at resolved <;> cases resolved
      rfl

/-- The `ingress-nginx` service template, validated into a chart named after itself. -/
def ingressTemplate : Template where
  kind := .serviceTemplate
  name := "ingress-nginx-4-11-0"
  ns := "hmc-system"
  uid := 11
  generation := 1
  labels := []
  spec := ⟨⟨"ingress-nginx", "4.11.0", none⟩, Providers.empty⟩
  status :=
    { chartRef := some ⟨helmChartKind, "ingress-nginx-4-11-0", "hmc-system"⟩
      config := none
      description := ""
      providers := Providers.empty
      observedGeneration := 1
      valid := true
      validationError := "" }

/-- The default repository. -/
def templatesRepository : HelmRepository :=
  ⟨defaultRepoName, "hmc-system", "oci://ghcr.io/k0rdent/kcm/charts"⟩

/-- A store holding the chart the validator created for `ingressTemplate`, and its repository. -/
def ingressStore : SourceStore where
  getHelmChart := fun key =>
    if key = ⟨"hmc-system", "ingress-nginx-4-11-0"⟩ then
      .ok ⟨"ingress-nginx-4-11-0", "hmc-system", 1, "ingress-nginx", "4.11.0", defaultRepoName,
        some ⟨"ingress-nginx-4.11.0.tgz"⟩, []⟩
    else .error (.notFound "helmcharts.source.toolkit.fluxcd.io not found")
  getHelmRepository := fun key =>
    if key = ⟨"hmc-system", defaultRepoName⟩ then .ok templatesRepository
    else .error (.notFound "helmrepositories.source.toolkit.fluxcd.io not found")

/--
`getServiceTemplateRepoURL` looks the chart up under the spec's chart name
instead of the name in `status.chartRef`: on a validated template whose name
is not its chart name it fails, where `templateSource` finds the repository.
The two agree on every store and template whose chart name is the name of
the chart its status points at, and a chart the validator creates is named
after the template, not after its chart.
-/
theorem getServiceTemplateRepoURL_diverges_from_templateSource :
    getServiceTemplateRepoURL ingressStore ingressTemplate =
        .error "failed to get HelmChart (hmc-system/ingress-nginx-4-11-0)" ∧
      templateSource ingressStore ingressTemplate = .ok templatesRepository ∧
      (∀ store (tmpl : Template) (chartRef : SourceRef), tmpl.status.chartRef = some chartRef →
        tmpl.spec.helm.chartName = chartRef.name → ∀ url,
          (getServiceTemplateRepoURL store tmpl = .ok url ↔
            ∃ repo, templateSource store tmpl = .ok repo ∧ repo.url = url)) ∧
      ∀ r collaborators (template : Template) hcChart, template.spec.helm.chartRef = none →
        resolveHelmChart r collaborators template = .ok hcChart → hcChart.name = template.name :=
  ⟨rfl, rfl, fun store _ _ pointed sameName => getServiceTemplateRepoURL_eq_ok_iff store pointed sameName,
    fun r collaborators _ _ byName resolved => resolveHelmChart_name r collaborators byName resolved⟩

end HmcReconcilers.ManagedClusterController
