import HmcReconcilers.ManagementController.Update

/-!
# Teardown of the management controller, and runs of its passes

`ManagementReconciler.Delete` suspends the HMC release, deletes every
managed `HelmRelease`, `HelmChart` and `HelmRepository`, and then drops the
`Management` finalizer.  It names the HMC release through
`Spec.Core.HMC`, a field behind the `Core` pointer.  `Reconcile` sends a
`Management` with a deletion timestamp to `Delete` and any other to
`Update`.

`Update` never reaches the core while it is nil: it adds the finalizer
first, then writes the default core, each in a pass of its own.  `Delete`
has no such guard.  Runs interleave whole passes with user edits, deletion
requests and edits of the finalizers other controllers own (manual edits of
the controller's own finalizer are excluded), and the second part of this
module shows a run in which
a `Management` created without a core gets its finalizer, is deleted before
the defaulting pass, and from then on makes every pass panic.
-/

namespace HmcReconcilers.ManagementController

open HmcReconcilers

/-! ## `Delete` and `Reconcile` -/

/-- `fluxv2.HelmReleaseKind`. -/
def helmReleaseKind : String := "HelmRelease"

/-- `sourcev1.HelmRepositoryKind`. -/
def helmRepositoryKind : String := "HelmRepository"

/-- `utils.EnsureDeleteAllOf` of the managed objects of a kind. -/
def ensureDeleteAllOf (collaborators : ManagementCollaborators) (kind : String) :
    List ManagementCall × Option String :=
  match collaborators.deleteAllOf kind with
  | some err => ([.deleteAllOf kind false], some err)
  | none => ([.deleteAllOf kind true], none)

/-- `removeHelmReleases`: suspend the HMC release unless it is gone, then delete every managed release. -/
def removeHelmReleases (r : ManagementReconciler) (collaborators : ManagementCollaborators)
    (hmcReleaseName : String) : List ManagementCall × Option String :=
  let key : NamespacedName := ⟨r.systemNamespace, hmcReleaseName⟩
  let deleteAll := ensureDeleteAllOf collaborators helmReleaseKind
  match collaborators.getHelmRelease key with
  | .error err =>
      if err.isNotFound then (.getHelmRelease key :: deleteAll.1, deleteAll.2)
      else ([.getHelmRelease key], some err.error)
  | .ok suspended =>
      if suspended then (.getHelmRelease key :: deleteAll.1, deleteAll.2)
      else
        match collaborators.suspendUpdate with
        | some err => ([.getHelmRelease key, .suspendHelmRelease key false], some err)
        | none => (.getHelmRelease key :: .suspendHelmRelease key true :: deleteAll.1, deleteAll.2)

/-- `removeHelmCharts`. -/
def removeHelmCharts (collaborators : ManagementCollaborators) : List ManagementCall × Option String :=
  ensureDeleteAllOf collaborators helmChartKind

/-- `removeHelmRepositories`. -/
def removeHelmRepositories (collaborators : ManagementCollaborators) :
    List ManagementCall × Option String :=
  ensureDeleteAllOf collaborators helmRepositoryKind

/-- The end of `Delete`: drop the finalizer, when present, once everything managed is gone. -/
def removeManagementFinalizer (collaborators : ManagementCollaborators) (management : Management)
    (calls : List ManagementCall) : ManagementPass :=
  if managementFinalizer ∈ management.finalizers then
    ⟨calls ++ [.updateObject (removeFinalizer management.finalizers managementFinalizer)
        management.spec (collaborators.objectUpdate = none)],
      none, .returns (.done, collaborators.objectUpdate)⟩
  else ⟨calls, none, .returns (.done, none)⟩

/-- `ManagementReconciler.Delete`; the HMC release is named through the core pointer. -/
def delete (r : ManagementReconciler) (collaborators : ManagementCollaborators)
    (management : Management) : ManagementPass :=
  match management.spec.core with
  | none => ⟨[], none, .panics nilPointerDereference⟩
  | some core =>
      let releases := removeHelmReleases r collaborators core.hmc.helmReleaseName
      match releases.2 with
      | some err => ⟨releases.1, none, .returns (.done, some err)⟩
      | none =>
          let charts := removeHelmCharts collaborators
          match charts.2 with
          | some err => ⟨releases.1 ++ charts.1, none, .returns (.done, some err)⟩
          | none =>
              let repositories := removeHelmRepositories collaborators
              match repositories.2 with
              | some err =>
                  ⟨releases.1 ++ charts.1 ++ repositories.1, none, .returns (.done, some err)⟩
              | none =>
                  removeManagementFinalizer collaborators management
                    (releases.1 ++ charts.1 ++ repositories.1)

/-- `ManagementReconciler.Reconcile` on the `Management` it fetched. -/
def reconcile (r : ManagementReconciler) (collaborators : ManagementCollaborators)
    (management : Management) : ManagementPass :=
  if management.deleting then delete r collaborators management
  else update r collaborators management

/-! ## Where a nil core is dereferenced -/

/-- `Update` on a `Management` without a core returns after one object write, without a panic. -/
theorem update_returns_of_nil_core (r : ManagementReconciler)
    (collaborators : ManagementCollaborators) {management : Management}
    (absent : management.spec.core = none) :
    ∃ result, (update r collaborators management).exit = .returns result := by
  unfold update
  split
  · exact ⟨_, rfl⟩
  · simp [ManagementSpec.setDefaults, absent]

/-- `Delete` panics exactly on a `Management` without a core. -/
theorem delete_panics_iff (r : ManagementReconciler) (collaborators : ManagementCollaborators)
    (management : Management) (reason : String) :
    (delete r collaborators management).exit = .panics reason ↔
      management.spec.core = none ∧ reason = nilPointerDereference := by
  unfold delete
  split
  · simp [*, eq_comm]
  · rename_i core present
    simp only [present, reduceCtorEq, false_and, iff_false]
    split
    · simp
    · split
      · simp
      · split
        · simp
        · unfold removeManagementFinalizer
          split <;> simp

theorem ensureDeleteAllOf_releases (collaborators : ManagementCollaborators) (kind : String) :
    (ensureDeleteAllOf collaborators kind).1.filterMap ManagementCall.reconciledRelease = [] := by
  unfold ensureDeleteAllOf
  split <;> rfl

theorem removeHelmReleases_releases (r : ManagementReconciler)
    (collaborators : ManagementCollaborators) (hmcReleaseName : String) :
    (removeHelmReleases r collaborators hmcReleaseName).1.filterMap
      ManagementCall.reconciledRelease = [] := by
  unfold removeHelmReleases
  dsimp only
  repeat' split
  all_goals simp [ManagementCall.reconciledRelease, ensureDeleteAllOf_releases]

/-- `Delete` reconciles no release. -/
theorem delete_releases (r : ManagementReconciler) (collaborators : ManagementCollaborators)
    (management : Management) :
    (delete r collaborators management).calls.filterMap ManagementCall.reconciledRelease = [] := by
  unfold delete
  split
  · rfl
  · dsimp only
    repeat' split
    all_goals simp [removeManagementFinalizer, removeHelmCharts, removeHelmRepositories,
      removeHelmReleases_releases, ensureDeleteAllOf_releases, apply_ite,
      ManagementCall.reconciledRelease]

/-! ## Runs -/

/-- The singleton `Management`, as stored. -/
structure ManagementWorld where
  management : Option Management

/-- Nothing is stored yet. -/
def ManagementWorld.initial : ManagementWorld := ⟨none⟩

/-- The finalizers and spec of the first `Update` of the `Management` that went through. -/
def objectWrite (calls : List ManagementCall) : Option (List String × ManagementSpec) :=
  calls.findSome? fun
    | .updateObject finalizers spec true => some (finalizers, spec)
    | _ => none

/-- Whether the status write of a pass went through. -/
def statusWritten (calls : List ManagementCall) : Bool :=
  calls.any fun
    | .updateStatus true => true
    | _ => false

/-- The stored `Management` after a pass: gone once a deleted object has no finalizer left. -/
def managementAfter (management : Management) (pass : ManagementPass) : Option Management :=
  let written := match objectWrite pass.calls with
    | some (finalizers, spec) => { management with finalizers, spec }
    | none => management
  if written.deleting ∧ written.finalizers = [] then none
  else
    match pass.statusWrite with
    | some status => if statusWritten pass.calls then some { written with status } else some written
    | none => some written

/-- One step of a run over the `Management`. -/
inductive ManagementStep (r : ManagementReconciler) : ManagementWorld → ManagementWorld → Prop
  /-- A user creates the `Management`, with any finalizers and any spec, a nil core included. -/
  | create {w : ManagementWorld} (finalizers : List String) (spec : ManagementSpec)
      (absent : w.management = none) :
      ManagementStep r w ⟨some ⟨managementName, 1, finalizers, false, spec,
        ⟨0, Providers.empty, GoMap.empty⟩⟩⟩
  /-- A user edits the spec. -/
  | editSpec {w : ManagementWorld} {management : Management} (spec : ManagementSpec)
      (present : w.management = some management) :
      ManagementStep r w ⟨some { management with spec, generation := management.generation + 1 }⟩
  /-- A user asks for the deletion; an object without finalizers goes at once. -/
  | requestDeletion {w : ManagementWorld} {management : Management}
      (present : w.management = some management) :
      ManagementStep r w
        ⟨if management.finalizers = [] then none else some { management with deleting := true }⟩
  /-- Another controller edits the finalizers it owns; the controller's own stays as it is. -/
  | editForeignFinalizers {w : ManagementWorld} {management : Management} (finalizers : List String)
      (present : w.management = some management)
      (kept : managementFinalizer ∈ finalizers ↔ managementFinalizer ∈ management.finalizers) :
      ManagementStep r w
        ⟨if management.deleting ∧ finalizers = [] then none else some { management with finalizers }⟩
  /-- A pass fetches the `Management` and runs, with any answers of its collaborators. -/
  | pass {w : ManagementWorld} {management : Management} (collaborators : ManagementCollaborators)
      (present : w.management = some management) :
      ManagementStep r w ⟨managementAfter management (reconcile r collaborators management)⟩

/-- The worlds a run can reach. -/
inductive ManagementReachable (r : ManagementReconciler) : ManagementWorld → Prop
  | initial : ManagementReachable r ManagementWorld.initial
  | step {w w' : ManagementWorld} (reached : ManagementReachable r w) (step : ManagementStep r w w') :
      ManagementReachable r w'

/-- The `Management` created without a core, after the pass that added its finalizer and a deletion request. -/
def deletedBeforeDefaulting : Management where
  name := managementName
  generation := 1
  finalizers := [managementFinalizer]
  deleting := true
  spec := ⟨none, []⟩
  status := ⟨0, Providers.empty, GoMap.empty⟩

/--
A `Management` created without a core and deleted after its first pass
reaches `Delete` with a nil core: every later pass panics on
`Spec.Core.HMC` and leaves the object as it is, so the deletion never ends
while the spec stays so.  `Update` is safe on every `Management` without a
core, and `Delete` panics exactly on those.
-/
theorem reconcile_panics_on_nil_core_after_deletion :
    ManagementReachable ⟨"hmc-system"⟩ ⟨some deletedBeforeDefaulting⟩ ∧
      (∀ collaborators,
        (reconcile ⟨"hmc-system"⟩ collaborators deletedBeforeDefaulting).exit =
            .panics nilPointerDereference ∧
          managementAfter deletedBeforeDefaulting
              (reconcile ⟨"hmc-system"⟩ collaborators deletedBeforeDefaulting) =
            some deletedBeforeDefaulting) ∧
      (∀ r collaborators (management : Management), management.spec.core = none →
        ∃ result, (update r collaborators management).exit = .returns result) ∧
      ∀ r collaborators management reason,
        (delete r collaborators management).exit = .panics reason ↔
          management.spec.core = none ∧ reason = nilPointerDereference :=
  ⟨.step (.step (.step .initial (.create [] ⟨none, []⟩ rfl)) (.pass validTemplates rfl))
      (.requestDeletion rfl),
    fun _ => ⟨rfl, rfl⟩, fun r collaborators _ absent => update_returns_of_nil_core r collaborators absent,
    delete_panics_iff⟩

end HmcReconcilers.ManagementController
