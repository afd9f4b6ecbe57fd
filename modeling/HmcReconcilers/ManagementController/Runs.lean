import HmcReconcilers.ManagementController.Delete

/-!
# Runs of the management controller: teardown, settling and status

A run interleaves whole passes of `Reconcile` with user steps
(`ManagementStep`).  This module follows what a pass writes to the stored
`Management` through such runs.

The first part shows that a pass writes the object only to add the
finalizer, to write the default core, or, in `Delete`, to drop the
finalizer, and that `Delete` drops it only after its cleanup went through:
the HMC release found gone or suspended, then every managed `HelmRelease`,
`HelmChart` and `HelmRepository` deleted, in that order
(`managementStep_drops_finalizer_after_cleanup`).  No user step and no
`Update` pass removes the finalizer.

The second part shows that the controller settles.  With the same answers
from its collaborators, passes leave the stored object as the third one
left it (`managementAfterPass_iterate`): the finalizer, the default core and
the status are each written once, and a pass never reads the status it or an
earlier pass wrote.

The third part shows what the stored status says over any run
(`management_status_observes_spec`): it never observes a generation ahead of
the stored one, and one that observes the stored generation has an entry for
exactly the components of the stored spec.  The default core the controller
writes over a spec without one never meets such a status.
-/

namespace HmcReconcilers.ManagementController

open HmcReconcilers

/-! ## What a pass writes to the object -/

theorem objectWrite_append (calls more : List ManagementCall) :
    objectWrite (calls ++ more) = (objectWrite calls).or (objectWrite more) :=
  List.findSome?_append

theorem installComponents_objectWrite (r : ManagementReconciler)
    (collaborators : ManagementCollaborators) (detected : Detected) (components : List WrappedComponent) :
    objectWrite (installComponents r collaborators detected components).1 = none := by
  induction components generalizing detected with
  | nil => rfl
  | cons component rest ih =>
      have step : objectWrite (installComponent r collaborators detected component).1 = none := by
        simp only [installComponent]
        split
        · rfl
        · split
          · rfl
          · split <;> rfl
      simp only [installComponents, objectWrite_append, step, ih, Option.or_self]

/-- Past the finalizer and defaulting steps, `Update` writes nothing but the status. -/
theorem objectWrite_update_of_core {r : ManagementReconciler}
    {collaborators : ManagementCollaborators} {management : Management} {core : Core}
    (finalized : managementFinalizer ∈ management.finalizers)
    (present : management.spec.core = some core) :
    objectWrite (update r collaborators management).calls = none := by
  simp only [update, finalized, not_true_eq_false, if_false, ManagementSpec.setDefaults, present,
    Bool.false_eq_true]
  split
  · rfl
  · rfl
  · rw [objectWrite_append, installComponents_objectWrite]
    rfl

/-- `Update` never drops the finalizer from the object it writes. -/
theorem update_objectWrite_finalizers {r : ManagementReconciler}
    {collaborators : ManagementCollaborators} {management : Management}
    {finalizers : List String} {spec : ManagementSpec}
    (written : objectWrite (update r collaborators management).calls = some (finalizers, spec)) :
    managementFinalizer ∈ finalizers := by
  by_cases finalized : managementFinalizer ∈ management.finalizers
  · cases present : management.spec.core with
    | some core => simp [objectWrite_update_of_core finalized present] at written
    | none =>
        cases accepted : collaborators.objectUpdate <;>
          simp [update, finalized, present, ManagementSpec.setDefaults, objectWrite, accepted] at written
        exact written.1 ▸ finalized
  · cases accepted : collaborators.objectUpdate <;>
      simp [update, finalized, objectWrite, accepted] at written
    simp [← written.1]

theorem ensureDeleteAllOf_objectWrite (collaborators : ManagementCollaborators) (kind : String) :
    objectWrite (ensureDeleteAllOf collaborators kind).1 = none := by
  unfold ensureDeleteAllOf
  split <;> rfl

theorem ensureDeleteAllOf_of_ok {collaborators : ManagementCollaborators} {kind : String}
    (deleted : (ensureDeleteAllOf collaborators kind).2 = none) :
    (ensureDeleteAllOf collaborators kind).1 = [.deleteAllOf kind true] := by
  unfold ensureDeleteAllOf at deleted ⊢
  split at deleted <;> simp_all

theorem removeHelmReleases_objectWrite (r : ManagementReconciler)
    (collaborators : ManagementCollaborators) (hmcReleaseName : String) :
    objectWrite (removeHelmReleases r collaborators hmcReleaseName).1 = none := by
  unfold removeHelmReleases ensureDeleteAllOf
  dsimp only
  repeat' split
  all_goals rfl

/-- A clean `removeHelmReleases` looked the HMC release up, suspended it unless gone or suspended, and deleted every release. -/
theorem removeHelmReleases_of_ok {r : ManagementReconciler} {collaborators : ManagementCollaborators}
    {hmcReleaseName : String} (removed : (removeHelmReleases r collaborators hmcReleaseName).2 = none) :
    ∃ suspend : List ManagementCall,
      (suspend = [] ∨ suspend = [.suspendHelmRelease ⟨r.systemNamespace, hmcReleaseName⟩ true]) ∧
      (removeHelmReleases r collaborators hmcReleaseName).1 =
        .getHelmRelease ⟨r.systemNamespace, hmcReleaseName⟩ :: suspend ++
          [.deleteAllOf helmReleaseKind true] := by
  unfold removeHelmReleases at removed ⊢
  dsimp only at removed ⊢
  split at removed
  · split at removed
    · simp only [*, if_true] at removed ⊢
      exact ⟨[], .inl rfl, by rw [ensureDeleteAllOf_of_ok removed]; rfl⟩
    · cases removed
  · split at removed
    · simp only [*, if_true] at removed ⊢
      exact ⟨[], .inl rfl, by rw [ensureDeleteAllOf_of_ok removed]; rfl⟩
    · split at removed
      · cases removed
      · simp only [*, Bool.false_eq_true, if_false] at removed ⊢
        exact ⟨_, .inr rfl, by rw [ensureDeleteAllOf_of_ok removed]; rfl⟩

/-- The end of `Delete` writes the object only when the finalizer is there and the update succeeds. -/
theorem removeManagementFinalizer_of_objectWrite {collaborators : ManagementCollaborators}
    {management : Management} {calls : List ManagementCall} {written : List String × ManagementSpec}
    (clean : objectWrite calls = none)
    (writes : objectWrite (removeManagementFinalizer collaborators management calls).calls =
      some written) :
    managementFinalizer ∈ management.finalizers ∧
      (removeManagementFinalizer collaborators management calls).calls =
        calls ++ [.updateObject (removeFinalizer management.finalizers managementFinalizer)
          management.spec true] := by
  unfold removeManagementFinalizer at writes ⊢
  split at writes
  · rename_i finalized
    simp only [objectWrite_append, clean, Option.none_or] at writes
    cases accepted : collaborators.objectUpdate
    · exact ⟨finalized, by simp [finalized, accepted]⟩
    · simp [accepted, objectWrite] at writes
  · rw [clean] at writes
    cases writes

/--
A `Delete` pass that writes the object found the finalizer, found the HMC
release gone or suspended it, deleted every managed `HelmRelease`,
`HelmChart` and `HelmRepository` in that order, and then dropped the
finalizer.
-/
theorem delete_calls_of_objectWrite {r : ManagementReconciler}
    {collaborators : ManagementCollaborators} {management : Management}
    {written : List String × ManagementSpec}
    (writes : objectWrite (delete r collaborators management).calls = some written) :
    managementFinalizer ∈ management.finalizers ∧ ∃ core, management.spec.core = some core ∧
      ∃ suspend : List ManagementCall,
        (suspend = [] ∨
          suspend = [.suspendHelmRelease ⟨r.systemNamespace, core.hmc.helmReleaseName⟩ true]) ∧
        (delete r collaborators management).calls =
          .getHelmRelease ⟨r.systemNamespace, core.hmc.helmReleaseName⟩ :: suspend ++
            [.deleteAllOf helmReleaseKind true, .deleteAllOf helmChartKind true,
              .deleteAllOf helmRepositoryKind true,
              .updateObject (removeFinalizer management.finalizers managementFinalizer)
                management.spec true] := by
  unfold delete at writes ⊢
  split at writes
  · cases writes
  rename_i core present
  have releases := removeHelmReleases_objectWrite r collaborators core.hmc.helmReleaseName
  have charts : objectWrite (removeHelmCharts collaborators).1 = none :=
    ensureDeleteAllOf_objectWrite _ _
  have repositories : objectWrite (removeHelmRepositories collaborators).1 = none :=
    ensureDeleteAllOf_objectWrite _ _
  dsimp only at writes ⊢
  split at writes
  · rw [releases] at writes
    cases writes
  rename_i releasesOk
  split at writes
  · rw [objectWrite_append, releases, charts] at writes
    cases writes
  rename_i chartsOk
  split at writes
  · rw [objectWrite_append, objectWrite_append, releases, charts, repositories] at writes
    cases writes
  rename_i repositoriesOk
  obtain ⟨finalized, calls⟩ := removeManagementFinalizer_of_objectWrite
    (by rw [objectWrite_append, objectWrite_append, releases, charts, repositories]; rfl) writes
  obtain ⟨suspend, choice, releasesCalls⟩ := removeHelmReleases_of_ok releasesOk
  refine ⟨finalized, core, present, suspend, choice, ?_⟩
  rw [calls, releasesCalls, removeHelmCharts, removeHelmRepositories, ensureDeleteAllOf_of_ok chartsOk,
    ensureDeleteAllOf_of_ok repositoriesOk]
  simp

/-- `Delete` writes the `Management` only to drop its finalizer. -/
theorem objectWrite_delete (r : ManagementReconciler) (collaborators : ManagementCollaborators)
    (management : Management) :
    objectWrite (delete r collaborators management).calls = none ∨
      managementFinalizer ∈ management.finalizers ∧
        objectWrite (delete r collaborators management).calls =
          some (removeFinalizer management.finalizers managementFinalizer, management.spec) := by
  rcases writes : objectWrite (delete r collaborators management).calls with _ | written
  · exact .inl rfl
  · obtain ⟨finalized, _, _, _, choice, calls⟩ := delete_calls_of_objectWrite writes
    rw [← writes, calls]
    rcases choice with rfl | rfl <;> exact .inr ⟨finalized, rfl⟩

/-- `Delete` never writes the status. -/
theorem delete_statusWrite (r : ManagementReconciler) (collaborators : ManagementCollaborators)
    (management : Management) : (delete r collaborators management).statusWrite = none := by
  unfold delete removeManagementFinalizer
  dsimp only
  repeat' split
  all_goals rfl

/-- A pass never reads the status the `Management` had. -/
theorem reconcile_withStatus (r : ManagementReconciler) (collaborators : ManagementCollaborators)
    (management : Management) (status : ManagementStatus) :
    reconcile r collaborators { management with status } = reconcile r collaborators management :=
  rfl

/-- A pass keeps the stored object, with the finalizer, when the finalizers it leaves still hold it. -/
theorem managementAfter_of_finalizer {management : Management} {pass : ManagementPass}
    (kept : managementFinalizer ∈
      ((objectWrite pass.calls).map Prod.fst).getD management.finalizers) :
    ∃ after, managementAfter management pass = some after ∧
      managementFinalizer ∈ after.finalizers := by
  unfold managementAfter
  rcases written : objectWrite pass.calls with _ | ⟨finalizers, spec⟩ <;>
    simp only [written, Option.map_none', Option.map_some', Option.getD_none,
      Option.getD_some] at kept ⊢ <;>
    rw [if_neg fun gone => List.ne_nil_of_mem kept gone.2] <;>
    split <;> (try split) <;> exact ⟨_, rfl, kept⟩

/-! ## Who drops the finalizer -/

/--
The finalizer leaves the stored `Management` only in a `Delete` pass that
found the HMC release gone or suspended it, and deleted every managed
`HelmRelease`, `HelmChart` and `HelmRepository`, in that order, before it
dropped the finalizer.  No `Update` pass removes it, and no user step: users
and other controllers edit only the finalizers they own.
-/
theorem managementStep_drops_finalizer_after_cleanup {r : ManagementReconciler}
    {w w' : ManagementWorld} (step : ManagementStep r w w') {management : Management}
    (stored : w.management = some management)
    (finalized : managementFinalizer ∈ management.finalizers)
    (dropped : ∀ after, w'.management = some after → managementFinalizer ∉ after.finalizers) :
    management.deleting = true ∧
      ∃ collaborators, w'.management = managementAfter management (reconcile r collaborators management) ∧
        ∃ core, management.spec.core = some core ∧
          ∃ suspend : List ManagementCall,
            (suspend = [] ∨
              suspend = [.suspendHelmRelease ⟨r.systemNamespace, core.hmc.helmReleaseName⟩ true]) ∧
            (reconcile r collaborators management).calls =
              .getHelmRelease ⟨r.systemNamespace, core.hmc.helmReleaseName⟩ :: suspend ++
                [.deleteAllOf helmReleaseKind true, .deleteAllOf helmChartKind true,
                  .deleteAllOf helmRepositoryKind true,
                  .updateObject (removeFinalizer management.finalizers managementFinalizer)
                    management.spec true] := by
  cases step with
  | create _ _ absent => simp [absent] at stored
  | editSpec spec present =>
      cases present.symm.trans stored
      exact (dropped _ rfl finalized).elim
  | requestDeletion present =>
      cases present.symm.trans stored
      simp only [List.ne_nil_of_mem finalized, if_false] at dropped
      exact (dropped _ rfl finalized).elim
  | editForeignFinalizers finalizers present kept =>
      cases present.symm.trans stored
      have remains := kept.2 finalized
      simp only [List.ne_nil_of_mem remains, and_false, if_false] at dropped
      exact (dropped _ rfl remains).elim
  | pass collaborators present =>
      cases present.symm.trans stored
      -- the pass must have written finalizers without the finalizer
      obtain ⟨written, writes, gone⟩ : ∃ written,
          objectWrite (reconcile r collaborators management).calls = some written ∧
            managementFinalizer ∉ written.1 := by
        by_contra! kept
        obtain ⟨after, stays, still⟩ := managementAfter_of_finalizer
          (show managementFinalizer ∈ ((objectWrite (reconcile r collaborators management).calls).map
              Prod.fst).getD management.finalizers by
            cases writes : objectWrite (reconcile r collaborators management).calls <;> simp_all)
        exact dropped after stays still
      by_cases deleting : management.deleting
      · have pass : reconcile r collaborators management = delete r collaborators management :=
          if_pos deleting
        obtain ⟨-, core, present, suspend, choice, calls⟩ := delete_calls_of_objectWrite (pass ▸ writes)
        exact ⟨deleting, collaborators, rfl, core, present, suspend, choice, pass ▸ calls⟩
      · rw [reconcile, if_neg deleting] at writes
        exact (gone (update_objectWrite_finalizers writes)).elim

/-- The default `Management` once its deletion was requested. -/
def deletedManagement : Management := { defaultManagement with deleting := true }

theorem managementStep_drops_finalizer_deletedManagement :
    ManagementStep ⟨"hmc-system"⟩ ⟨some deletedManagement⟩ ⟨none⟩ ∧
      managementFinalizer ∈ deletedManagement.finalizers ∧
      deletedManagement.deleting = true ∧
      ∃ collaborators, none = managementAfter deletedManagement
          (reconcile ⟨"hmc-system"⟩ collaborators deletedManagement) ∧
        ∃ core, deletedManagement.spec.core = some core ∧
          ∃ suspend : List ManagementCall,
            (suspend = [] ∨ suspend = [.suspendHelmRelease ⟨"hmc-system", core.hmc.helmReleaseName⟩ true]) ∧
            (reconcile ⟨"hmc-system"⟩ collaborators deletedManagement).calls =
              .getHelmRelease ⟨"hmc-system", core.hmc.helmReleaseName⟩ :: suspend ++
                [.deleteAllOf helmReleaseKind true, .deleteAllOf helmChartKind true,
                  .deleteAllOf helmRepositoryKind true,
                  .updateObject (removeFinalizer deletedManagement.finalizers managementFinalizer)
                    deletedManagement.spec true] :=
  have step : ManagementStep ⟨"hmc-system"⟩ ⟨some deletedManagement⟩ ⟨none⟩ := .pass validTemplates rfl
  ⟨step, by decide,
    managementStep_drops_finalizer_after_cleanup step rfl (by decide) fun _ gone => nomatch gone⟩

/-! ## Runs settle -/

/-- The stored `Management` after one more pass with these answers; once gone, it stays gone. -/
def managementAfterPass (r : ManagementReconciler) (collaborators : ManagementCollaborators)
    (stored : Option Management) : Option Management :=
  stored.bind fun management => managementAfter management (reconcile r collaborators management)

/-- Passes with these answers leave the stored `Management` as it is after `passes` of them. -/
def SettlesWithin (r : ManagementReconciler) (collaborators : ManagementCollaborators)
    (passes : Nat) (stored : Option Management) : Prop :=
  managementAfterPass r collaborators ((managementAfterPass r collaborators)^[passes] stored) =
    (managementAfterPass r collaborators)^[passes] stored

theorem SettlesWithin.succ {r : ManagementReconciler} {collaborators : ManagementCollaborators}
    {passes : Nat} {stored : Option Management} (settled : SettlesWithin r collaborators passes stored) :
    SettlesWithin r collaborators (passes + 1) stored := by
  unfold SettlesWithin at *
  rw [Function.iterate_succ_apply', settled, settled]

theorem SettlesWithin.of_pass {r : ManagementReconciler} {collaborators : ManagementCollaborators}
    {passes : Nat} {stored : Option Management}
    (settled : SettlesWithin r collaborators passes (managementAfterPass r collaborators stored)) :
    SettlesWithin r collaborators (passes + 1) stored := by
  unfold SettlesWithin at *
  rwa [Function.iterate_succ_apply]

/-- A pass that writes nothing but the status is at a fixed point after it. -/
theorem settlesWithin_one_of_objectWrite {r : ManagementReconciler}
    {collaborators : ManagementCollaborators} {management : Management}
    (unwritten : objectWrite (reconcile r collaborators management).calls = none) :
    SettlesWithin r collaborators 1 (some management) := by
  simp only [SettlesWithin, Function.iterate_one, managementAfterPass, Option.bind]
  unfold managementAfter
  simp only [unwritten]
  by_cases gone : management.deleting ∧ management.finalizers = []
  · simp [gone]
  · cases written : (reconcile r collaborators management).statusWrite with
    | none => simp [gone, written, unwritten]
    | some status =>
        by_cases accepted : statusWritten (reconcile r collaborators management).calls
        · simp [gone, written, unwritten, accepted, reconcile_withStatus]
        · simp [gone, written, unwritten, accepted]

theorem settlesWithin_of_fixed {r : ManagementReconciler} {collaborators : ManagementCollaborators}
    {stored : Option Management} (fixed : managementAfterPass r collaborators stored = stored)
    (passes : Nat) : SettlesWithin r collaborators passes stored := by
  unfold SettlesWithin
  rw [Function.iterate_fixed fixed, fixed]

/-- The defaulting pass writes the default core, or nothing. -/
theorem managementAfterPass_of_nil_core {r : ManagementReconciler}
    {collaborators : ManagementCollaborators} {management : Management}
    (live : management.deleting = false) (finalized : managementFinalizer ∈ management.finalizers)
    (absent : management.spec.core = none) :
    managementAfterPass r collaborators (some management) = some management ∨
      managementAfterPass r collaborators (some management) =
        some { management with spec := { management.spec with core := some defaultCoreConfiguration } } := by
  cases accepted : collaborators.objectUpdate <;>
    simp [managementAfterPass, managementAfter, reconcile, update, live, finalized, absent,
      ManagementSpec.setDefaults, objectWrite, accepted]

/-- The finalizer pass adds the finalizer, or writes nothing. -/
theorem managementAfterPass_of_not_finalized {r : ManagementReconciler}
    {collaborators : ManagementCollaborators} {management : Management}
    (live : management.deleting = false) (unfinalized : managementFinalizer ∉ management.finalizers) :
    managementAfterPass r collaborators (some management) = some management ∨
      managementAfterPass r collaborators (some management) =
        some { management with finalizers := addFinalizer management.finalizers managementFinalizer } := by
  cases accepted : collaborators.objectUpdate <;>
    simp [managementAfterPass, managementAfter, reconcile, update, live, unfinalized, objectWrite,
      accepted]

/-- A deleted `Management` settles within two passes: one drops the finalizer, the next writes nothing. -/
theorem settlesWithin_two_of_deleting {r : ManagementReconciler}
    {collaborators : ManagementCollaborators} {management : Management}
    (deleting : management.deleting = true) : SettlesWithin r collaborators 2 (some management) := by
  have pass : reconcile r collaborators management = delete r collaborators management :=
    if_pos deleting
  rcases objectWrite_delete r collaborators management with unwritten | ⟨_, written⟩
  · exact (settlesWithin_one_of_objectWrite (pass ▸ unwritten)).succ
  · apply SettlesWithin.of_pass
    simp only [managementAfterPass, Option.bind, managementAfter, pass, written, deleting,
      delete_statusWrite, true_and]
    split
    · exact settlesWithin_of_fixed rfl 1
    · refine settlesWithin_one_of_objectWrite ?_
      rw [reconcile, if_pos rfl]
      exact (objectWrite_delete r collaborators _).resolve_right fun ⟨dropped, _⟩ => by simp at dropped

/-- A live `Management` with its finalizer settles within two passes: the default core, then the status. -/
theorem settlesWithin_two_of_finalized {r : ManagementReconciler}
    {collaborators : ManagementCollaborators} {management : Management}
    (live : management.deleting = false) (finalized : managementFinalizer ∈ management.finalizers) :
    SettlesWithin r collaborators 2 (some management) := by
  cases present : management.spec.core with
  | some core =>
      refine (settlesWithin_one_of_objectWrite ?_).succ
      rw [reconcile, if_neg (by simp [live])]
      exact objectWrite_update_of_core finalized present
  | none =>
      rcases managementAfterPass_of_nil_core live finalized present with fixed | defaulted
      · exact settlesWithin_of_fixed fixed 2
      · refine .of_pass (defaulted ▸ settlesWithin_one_of_objectWrite ?_)
        rw [reconcile, if_neg (by simpa using live)]
        exact objectWrite_update_of_core finalized rfl

/-- Every stored `Management` settles within three passes. -/
theorem settlesWithin_three (r : ManagementReconciler) (collaborators : ManagementCollaborators)
    (management : Management) : SettlesWithin r collaborators 3 (some management) := by
  cases deleting : management.deleting
  · by_cases finalized : managementFinalizer ∈ management.finalizers
    · exact (settlesWithin_two_of_finalized deleting finalized).succ
    · rcases managementAfterPass_of_not_finalized deleting finalized with fixed | added
      · exact settlesWithin_of_fixed fixed 3
      · exact .of_pass (added ▸ settlesWithin_two_of_finalized deleting (by simp))
  · exact (settlesWithin_two_of_deleting deleting).succ

/--
Runs of passes with unchanged answers settle.  From any stored `Management`,
with any answers of the API server, the release helper and cert-manager,
passes that get the same answers leave the stored object as it is after the
third of them: the finalizer, the default core and the status are each
written at most once, and a pass reads nothing it or an earlier pass wrote
back into a later status.  A deleted `Management` is gone, or keeps the
finalizers of other controllers, after the second.
-/
theorem managementAfterPass_iterate (r : ManagementReconciler)
    (collaborators : ManagementCollaborators) (management : Management) (passes : Nat) :
    (managementAfterPass r collaborators)^[passes + 3] (some management) =
      (managementAfterPass r collaborators)^[3] (some management) := by
  rw [Function.iterate_add_apply]
  exact Function.iterate_fixed (settlesWithin_three r collaborators management) passes

/-! ## The status describes the stored spec -/

theorem mem_keys_installComponents (r : ManagementReconciler) (collaborators : ManagementCollaborators)
    (detected : Detected) (components : List WrappedComponent) (name : String) :
    name ∈ (installComponents r collaborators detected components).2.components.keys ↔
      name ∈ detected.components.keys ∨ name ∈ components.map (·.component.template) := by
  induction components generalizing detected with
  | nil => simp [installComponents]
  | cons component rest ih =>
      obtain ⟨status, inserted⟩ := installComponent_components r collaborators detected component
      simp only [installComponents, ih, inserted, GoMap.mem_keys_insert, List.map_cons, List.mem_cons]
      tauto

/-- A status a pass writes observes the fetched generation and names the components of the fetched spec. -/
theorem reconcile_statusWrite_components {r : ManagementReconciler}
    {collaborators : ManagementCollaborators} {management : Management} {status : ManagementStatus}
    (written : (reconcile r collaborators management).statusWrite = some status) :
    objectWrite (reconcile r collaborators management).calls = none ∧
      status.observedGeneration = management.generation ∧ (∃ core, management.spec.core = some core) ∧
      ∀ name, name ∈ status.components.keys ↔
        name ∈ (wrappedComponents management.spec).map (·.component.template) := by
  by_cases deleting : management.deleting
  · simp [reconcile, deleting, delete_statusWrite] at written
  rw [reconcile, if_neg deleting] at written ⊢
  by_cases finalized : managementFinalizer ∈ management.finalizers
  · cases present : management.spec.core with
    | none => simp [update, finalized, ManagementSpec.setDefaults, present] at written
    | some core =>
        refine ⟨objectWrite_update_of_core finalized present, ?_⟩
        simp only [update, finalized, not_true_eq_false, if_false, ManagementSpec.setDefaults, present,
          Bool.false_eq_true] at written
        split at written
        · cases written
        · cases written
        · rename_i enabled ok
          cases written
          refine ⟨rfl, ⟨core, rfl⟩, fun name => ?_⟩
          rw [mem_keys_installComponents, wrappedComponents_templates_of_enabled ok]
          simp [Detected.initial, GoMap.keys_empty]
  · simp [update, finalized] at written

/-- A pass writes back the spec it fetched, or the default core over a spec without one. -/
theorem objectWrite_reconcile_spec {r : ManagementReconciler} {collaborators : ManagementCollaborators}
    {management : Management} {finalizers : List String} {spec : ManagementSpec}
    (writes : objectWrite (reconcile r collaborators management).calls = some (finalizers, spec)) :
    spec = management.spec ∨ management.spec.core = none := by
  by_cases deleting : management.deleting
  · rw [reconcile, if_pos deleting] at writes
    rcases objectWrite_delete r collaborators management with none | ⟨-, removed⟩
    · simp [none] at writes
    · simp only [removed, Option.some.injEq, Prod.mk.injEq] at writes
      exact .inl writes.2.symm
  rw [reconcile, if_neg deleting] at writes
  by_cases finalized : managementFinalizer ∈ management.finalizers
  · cases present : management.spec.core with
    | none => exact .inr rfl
    | some core => simp [objectWrite_update_of_core finalized present] at writes
  · cases accepted : collaborators.objectUpdate <;>
      simp [update, finalized, objectWrite, accepted] at writes
    exact .inl writes.2.symm

/-- A status that observes the stored generation names exactly the components of the stored spec. -/
def StatusObserved (management : Management) : Prop :=
  management.status.observedGeneration ≤ management.generation ∧
    (management.status.observedGeneration = management.generation →
      (∃ core, management.spec.core = some core) ∧
      ∀ name, name ∈ management.status.components.keys ↔
        name ∈ (wrappedComponents management.spec).map (·.component.template))

theorem statusObserved_managementAfter (r : ManagementReconciler)
    (collaborators : ManagementCollaborators) {management : Management} (held : StatusObserved management) :
    ∀ after ∈ managementAfter management (reconcile r collaborators management), StatusObserved after := by
  intro after present
  unfold managementAfter at present
  cases written : (reconcile r collaborators management).statusWrite with
  | some status =>
      obtain ⟨noObject, generation, core, keys⟩ := reconcile_statusWrite_components written
      simp only [noObject, written] at present
      split at present
      · cases present
      · split at present <;> cases present
        · exact ⟨generation.le, fun _ => ⟨core, keys⟩⟩
        · exact held
  | none =>
      simp only [written] at present
      split at present
      · cases present
      · cases present
        split
        · rename_i finalizers spec writes
          rcases objectWrite_reconcile_spec writes with rfl | absent
          · exact held
          · refine ⟨held.1, fun observed => ?_⟩
            obtain ⟨core, present⟩ := (held.2 observed).1
            cases absent.symm.trans present
        · exact held

/--
In every world a run of the management controller reaches, the stored
status never names a generation ahead of the stored one, and when it names
the stored generation, the spec has a core and the status's component map
has an entry for exactly the components the spec asks for: its HMC and CAPI
templates and its providers.
-/
theorem management_status_observes_spec {r : ManagementReconciler} {w : ManagementWorld}
    (reached : ManagementReachable r w) {management : Management} (stored : w.management = some management) :
    management.status.observedGeneration ≤ management.generation ∧
      (management.status.observedGeneration = management.generation →
        (∃ core, management.spec.core = some core) ∧
        ∀ name, name ∈ management.status.components.keys ↔
          name ∈ (wrappedComponents management.spec).map (·.component.template)) := by
  induction reached generalizing management with
  | initial => cases stored
  | step _ step ih =>
      cases step with
      | create _ _ _ =>
          cases stored
          exact ⟨Nat.zero_le _, fun initial => nomatch initial⟩
      | editSpec spec present =>
          cases stored
          have held := ih present
          exact ⟨Nat.le_succ_of_le held.1,
            fun ahead => (Nat.ne_of_lt (Nat.lt_succ_of_le held.1) ahead).elim⟩
      | requestDeletion present | editForeignFinalizers _ present _ =>
          split at stored
          · cases stored
          · cases stored
            have held := ih present
            exact held
      | pass collaborators present =>
          exact statusObserved_managementAfter r collaborators (ih present) _ stored

/-- `defaultManagement` after a pass in which every template was valid: both core components installed. -/
def installedManagement : Management :=
  { defaultManagement with
    status := ⟨1, Providers.empty, [("hmc", ⟨true, ""⟩), ("cluster-api", ⟨true, ""⟩)]⟩ }

theorem management_status_observes_spec_installed :
    ManagementReachable ⟨"hmc-system"⟩ ⟨some installedManagement⟩ ∧
      installedManagement.status.observedGeneration = installedManagement.generation ∧
      (∃ core, installedManagement.spec.core = some core) ∧
      ∀ name, name ∈ installedManagement.status.components.keys ↔
        name ∈ (wrappedComponents installedManagement.spec).map (·.component.template) :=
  have reached : ManagementReachable ⟨"hmc-system"⟩ ⟨some installedManagement⟩ :=
    .step (.step .initial (.create [managementFinalizer] ⟨some defaultCoreConfiguration, []⟩ rfl))
      (.pass validTemplates rfl)
  ⟨reached, rfl, (management_status_observes_spec reached rfl).2 rfl⟩

end HmcReconcilers.ManagementController
