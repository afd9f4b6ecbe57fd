import HmcReconcilers.ApiTypes

/-!
# Copying the CAPI `Cluster` conditions into a managed cluster

`ManagedClusterReconciler.setStatusFromClusterStatus` lists the CAPI
`Cluster` objects labelled with the managed cluster's name through the
dynamic client, reads `status.conditions` off the first one as an
unstructured slice, converts each entry to a `metav1.Condition` and sets it
into the managed cluster's condition list.  It returns whether the caller
should requeue: always on an error or when no cluster is found, and
otherwise exactly when some copied condition is not `True`.

The unstructured object is modelled by what the decoding steps make of it:
`NestedSlice` fails, finds nothing or finds a slice, and each entry is not a
map, or is a map the converter rejects, or converts to a condition.  The
dynamic client returns a nil list together with any error; reading
`len(list.Items)` on that nil list is a nil pointer dereference unless the
error is a not-found error, and the model says so with `Exit.panics`.

The last section follows the copy loop through every entry list: on a call
that returns no error, each type the cluster carries holds its last copied
condition, every other type is untouched, and distinct types stay distinct.
-/

namespace HmcReconcilers.ManagedClusterController

open HmcReconcilers

/-- One entry of the unstructured `status.conditions` slice. -/
inductive ConditionEntry where
  /-- The entry is not a JSON object: the cast to `map[string]interface{}` fails. -/
  | notAMap
  /-- `FromUnstructured` rejects the object, with the converter's error. -/
  | unconvertible (err : String)
  /-- The object converts to this condition. -/
  | condition (condition : Condition)
deriving DecidableEq, Repr

/-- What `unstructured.NestedSlice(obj, "status", "conditions")` makes of a listed object. -/
inductive ClusterConditions where
  /-- A path element is not a map, or the value is not a slice. -/
  | malformed (err : String)
  /-- The path is absent. -/
  | missing
  | entries (items : List ConditionEntry)
deriving DecidableEq, Repr

/-- A CAPI `Cluster` as listed by the dynamic client; only its conditions are read. -/
structure ClusterObject where
  conditions : ClusterConditions
deriving DecidableEq, Repr

/-- The conditions after the call, the requeue flag and the error it returns. -/
structure ClusterStatusResult where
  conditions : List Condition
  requeue : Bool
  error : Option String
deriving DecidableEq, Repr

/-- The wrapping every error of the function shares. -/
def clusterInformationError (managedCluster : ManagedCluster) (detail : String) : String :=
  "failed to get cluster information for managedCluster " ++ managedCluster.ns ++
    " in namespace: " ++ managedCluster.name ++ ": " ++ detail

/-- A copied condition with status `True` and no reason gets the reason `Succeeded`. -/
def defaultReason (condition : Condition) : Condition :=
  if condition.reason = "" ∧ condition.status = conditionTrue then
    { condition with reason := succeededReason }
  else condition

/--
The loop over the condition entries, with `allConditionsComplete` as
accumulator.  Entries set before a failing one stay set.
-/
def mergeClusterConditions (managedCluster : ManagedCluster) :
    List Condition → Bool → List ConditionEntry → ClusterStatusResult
  | conditions, allConditionsComplete, [] => ⟨conditions, !allConditionsComplete, none⟩
  | conditions, _, .notAMap :: _ =>
      ⟨conditions, true, some
        ("failed to cast condition to map[string]interface\x7b\x7d for managedCluster: " ++
          managedCluster.ns ++ " in namespace: " ++ managedCluster.name ++ ": %!w(<nil>)")⟩
  | conditions, _, .unconvertible err :: _ =>
      ⟨conditions, true, some
        ("failed to convert unstructured conditions to metav1.Condition for managedCluster " ++
          managedCluster.ns ++ " in namespace: " ++ managedCluster.name ++ ": " ++ err)⟩
  | conditions, allConditionsComplete, .condition metaCondition :: rest =>
      mergeClusterConditions managedCluster
        (setStatusCondition conditions (defaultReason metaCondition))
        (allConditionsComplete && metaCondition.status = conditionTrue) rest

/-- `ManagedClusterReconciler.setStatusFromClusterStatus`, on the outcome of the `List` call. -/
def setStatusFromClusterStatus (managedCluster : ManagedCluster) (conditions : List Condition)
    (listed : Except ApiError (List ClusterObject)) : Exit ClusterStatusResult :=
  match listed with
  | .error err =>
      if err.isNotFound then .returns ⟨conditions, true, none⟩
      else .panics nilPointerDereference
  | .ok [] => .returns ⟨conditions, true, none⟩
  | .ok (first :: _) =>
      match first.conditions with
      | .malformed err =>
          .returns ⟨conditions, true, some (clusterInformationError managedCluster err)⟩
      | .missing =>
          .returns ⟨conditions, true,
            some (clusterInformationError managedCluster "status.conditions not found")⟩
      | .entries items => .returns (mergeClusterConditions managedCluster conditions true items)

/--
The function returns, with or without an error, unless the `List` call
failed with an error other than not-found: the nil list that comes with
such an error is dereferenced.
-/
theorem setStatusFromClusterStatus_returns_iff (managedCluster : ManagedCluster)
    (conditions : List Condition) (listed : Except ApiError (List ClusterObject)) :
    (∃ result, setStatusFromClusterStatus managedCluster conditions listed = .returns result) ↔
      ∀ err, listed = .error err → err.isNotFound = true := by
  unfold setStatusFromClusterStatus
  rcases listed with err | _ | ⟨first, rest⟩
  · cases notFound : err.isNotFound <;> simp [notFound]
  · simp
  · simp only [reduceCtorEq, false_implies, implies_true, iff_true]
    split <;> exact ⟨_, rfl⟩

/-- The loop changes the condition list only by setting conditions. -/
theorem mergeClusterConditions_setsOnly (managedCluster : ManagedCluster)
    (conditions : List Condition) (allConditionsComplete : Bool) (items : List ConditionEntry) :
    SetsOnly conditions
      (mergeClusterConditions managedCluster conditions allConditionsComplete items).conditions := by
  induction items generalizing conditions allConditionsComplete with
  | nil => exact .refl _
  | cons entry rest ih =>
      cases entry with
      | notAMap => exact .refl _
      | unconvertible => exact .refl _
      | condition metaCondition => exact ((SetsOnly.refl _).set _).trans (ih _ _)

/-- Whenever it returns, the function changed the conditions only by setting them. -/
theorem setStatusFromClusterStatus_setsOnly {managedCluster : ManagedCluster}
    {conditions : List Condition} {listed : Except ApiError (List ClusterObject)}
    {result : ClusterStatusResult}
    (returns : setStatusFromClusterStatus managedCluster conditions listed = .returns result) :
    SetsOnly conditions result.conditions := by
  unfold setStatusFromClusterStatus at returns
  split at returns
  · split at returns <;> cases returns
    exact .refl _
  · cases returns
    exact .refl _
  · split at returns <;> cases returns
    · exact .refl _
    · exact .refl _
    · exact mergeClusterConditions_setsOnly _ _ _ _

/--
The loop sets the same conditions from any list it starts from, and its
requeue flag and error do not depend on that list.
-/
theorem mergeClusterConditions_uniform (managedCluster : ManagedCluster)
    (allConditionsComplete : Bool) (items : List ConditionEntry) :
    ∃ newConditions : List Condition, ∀ conditions,
      mergeClusterConditions managedCluster conditions allConditionsComplete items =
        { mergeClusterConditions managedCluster [] allConditionsComplete items with
          conditions := newConditions.foldl setStatusCondition conditions } := by
  induction items generalizing allConditionsComplete with
  | nil => exact ⟨[], fun _ => rfl⟩
  | cons entry rest ih =>
      cases entry with
      | notAMap => exact ⟨[], fun _ => rfl⟩
      | unconvertible => exact ⟨[], fun _ => rfl⟩
      | condition metaCondition =>
          obtain ⟨newConditions, uniform⟩ :=
            ih (allConditionsComplete && metaCondition.status = conditionTrue)
          refine ⟨defaultReason metaCondition :: newConditions, fun conditions => ?_⟩
          simp only [mergeClusterConditions, uniform (setStatusCondition _ _), List.foldl_cons]

/-- Whatever list it starts from, the function sets the same conditions and ends the same way. -/
theorem setStatusFromClusterStatus_uniform (managedCluster : ManagedCluster)
    (listed : Except ApiError (List ClusterObject)) :
    ∃ newConditions : List Condition, ∀ conditions,
      setStatusFromClusterStatus managedCluster conditions listed =
        (setStatusFromClusterStatus managedCluster [] listed).map fun result =>
          { result with conditions := newConditions.foldl setStatusCondition conditions } := by
  rcases listed with err | _ | ⟨first, rest⟩
  · refine ⟨[], fun _ => ?_⟩
    cases notFound : err.isNotFound <;> simp [setStatusFromClusterStatus, notFound, Exit.map]
  · exact ⟨[], fun _ => rfl⟩
  · cases listedConditions : first.conditions with
    | malformed => exact ⟨[], fun _ => by simp [setStatusFromClusterStatus, listedConditions, Exit.map]⟩
    | missing => exact ⟨[], fun _ => by simp [setStatusFromClusterStatus, listedConditions, Exit.map]⟩
    | entries items =>
        obtain ⟨newConditions, uniform⟩ := mergeClusterConditions_uniform managedCluster true items
        exact ⟨newConditions, fun conditions => by
          simp only [setStatusFromClusterStatus, listedConditions, uniform conditions, Exit.map]⟩

/-- The loop reads the managed cluster's name and namespace, never its status. -/
theorem mergeClusterConditions_withStatus (managedCluster : ManagedCluster)
    (status : ManagedClusterStatus) (conditions : List Condition) (allConditionsComplete : Bool)
    (items : List ConditionEntry) :
    mergeClusterConditions { managedCluster with status } conditions allConditionsComplete items =
      mergeClusterConditions managedCluster conditions allConditionsComplete items := by
  induction items generalizing conditions allConditionsComplete with
  | nil => rfl
  | cons entry rest ih => cases entry <;> simp only [mergeClusterConditions, ih]

@[simp]
theorem defaultReason_type (condition : Condition) : (defaultReason condition).type = condition.type := by
  unfold defaultReason
  split <;> rfl

/-- The defaulting changes the reason only, to `Succeeded` for a `True` condition without one. -/
theorem defaultReason_eq (condition : Condition) :
    defaultReason condition = { condition with
      reason := if condition.reason = "" ∧ condition.status = conditionTrue then "Succeeded"
        else condition.reason } := by
  unfold defaultReason
  split <;> rfl

/-- The loop fails exactly when some entry does not convert to a condition. -/
theorem mergeClusterConditions_error_eq_none_iff (managedCluster : ManagedCluster)
    (conditions : List Condition) (allConditionsComplete : Bool) (items : List ConditionEntry) :
    (mergeClusterConditions managedCluster conditions allConditionsComplete items).error = none ↔
      ∀ entry ∈ items, ∃ condition, entry = .condition condition := by
  induction items generalizing conditions allConditionsComplete with
  | nil => simp [mergeClusterConditions]
  | cons entry rest ih =>
      cases entry <;> simp [mergeClusterConditions, ih]

/--
On convertible entries the loop asks for no requeue exactly when it started
complete and every entry has status `True`.
-/
theorem mergeClusterConditions_requeue_eq_false_iff (managedCluster : ManagedCluster)
    (conditions : List Condition) (allConditionsComplete : Bool) {items : List ConditionEntry}
    (convertible : ∀ entry ∈ items, ∃ condition, entry = .condition condition) :
    (mergeClusterConditions managedCluster conditions allConditionsComplete items).requeue = false ↔
      allConditionsComplete = true ∧
        ∀ condition, ConditionEntry.condition condition ∈ items → condition.status = conditionTrue := by
  induction items generalizing conditions allConditionsComplete with
  | nil => simp [mergeClusterConditions]
  | cons entry rest ih =>
      obtain ⟨metaCondition, rfl⟩ := convertible entry (.head _)
      rw [mergeClusterConditions, ih _ _ fun other member => convertible other (.tail _ member)]
      simp only [Bool.and_eq_true, decide_eq_true_eq, List.mem_cons, ConditionEntry.condition.injEq,
        forall_eq_or_imp]
      tauto

/-- The condition types the first listed cluster would copy in. -/
def copiedConditionTypes : Except ApiError (List ClusterObject) → List String
  | .ok (first :: _) =>
      match first.conditions with
      | .entries items => items.filterMap fun
          | .condition condition => some condition.type
          | _ => none
      | _ => []
  | _ => []

theorem findStatusCondition_mergeClusterConditions (managedCluster : ManagedCluster)
    (conditions : List Condition) (allConditionsComplete : Bool) {items : List ConditionEntry}
    {conditionType : String}
    (notCopied : ∀ condition, ConditionEntry.condition condition ∈ items →
      condition.type ≠ conditionType) :
    findStatusCondition
        (mergeClusterConditions managedCluster conditions allConditionsComplete items).conditions
        conditionType =
      findStatusCondition conditions conditionType := by
  induction items generalizing conditions allConditionsComplete with
  | nil => rfl
  | cons entry rest ih =>
      cases entry with
      | notAMap => rfl
      | unconvertible => rfl
      | condition metaCondition =>
          rw [mergeClusterConditions, ih _ _ fun other member => notCopied other (.tail _ member),
            findStatusCondition_setStatusCondition_of_ne _
              (by simpa using Ne.symm (notCopied metaCondition (.head _)))]

/-- A condition type the listed cluster does not carry keeps its condition. -/
theorem findStatusCondition_setStatusFromClusterStatus {managedCluster : ManagedCluster}
    {conditions : List Condition} {listed : Except ApiError (List ClusterObject)}
    {result : ClusterStatusResult} {conditionType : String}
    (returns : setStatusFromClusterStatus managedCluster conditions listed = .returns result)
    (notCopied : conditionType ∉ copiedConditionTypes listed) :
    findStatusCondition result.conditions conditionType =
      findStatusCondition conditions conditionType := by
  unfold setStatusFromClusterStatus at returns
  split at returns
  · split at returns <;> cases returns
    rfl
  · cases returns
    rfl
  · rename_i first rest
    split at returns <;> cases returns
    · rfl
    · rfl
    · rename_i items entries
      refine findStatusCondition_mergeClusterConditions _ _ _ fun condition member copied => ?_
      apply notCopied
      simp only [copiedConditionTypes, entries, List.mem_filterMap]
      exact ⟨_, member, by simp [copied]⟩

/--
A call that returns no error found no cluster and changed nothing, or went
through the loop over the first cluster's entries, all of which convert.
-/
theorem setStatusFromClusterStatus_of_clean {managedCluster : ManagedCluster}
    {conditions : List Condition} {listed : Except ApiError (List ClusterObject)}
    {result : ClusterStatusResult}
    (returns : setStatusFromClusterStatus managedCluster conditions listed = .returns result)
    (clean : result.error = none) :
    (result = ⟨conditions, true, none⟩ ∧
        ((∃ message, listed = .error (.notFound message)) ∨ listed = .ok [])) ∨
      ∃ first rest items, listed = .ok (first :: rest) ∧ first.conditions = .entries items ∧
        (∀ entry ∈ items, ∃ condition, entry = .condition condition) ∧
        result = mergeClusterConditions managedCluster conditions true items := by
  unfold setStatusFromClusterStatus at returns
  rcases listed with (message | message) | _ | ⟨first, rest⟩
  · cases returns
    exact .inl ⟨rfl, .inl ⟨message, rfl⟩⟩
  · cases returns
  · cases returns
    exact .inl ⟨rfl, .inr rfl⟩
  · dsimp only at returns
    split at returns <;> cases returns
    · cases clean
    · cases clean
    · rename_i items entries
      exact .inr ⟨first, rest, items, rfl, entries,
        (mergeClusterConditions_error_eq_none_iff _ _ _ _).1 clean, rfl⟩

/-- A cluster is listed, and its conditions all convert and all have status `True`. -/
def ClusterSettled (listed : Except ApiError (List ClusterObject)) : Prop :=
  ∃ first rest items, listed = .ok (first :: rest) ∧ first.conditions = .entries items ∧
    ∀ entry ∈ items, ∃ condition, entry = .condition condition ∧ condition.status = conditionTrue

/-- No cluster is listed yet, or the first one's conditions all convert and one is not `True`. -/
def ClusterPending (listed : Except ApiError (List ClusterObject)) : Prop :=
  (∃ message, listed = .error (.notFound message)) ∨ listed = .ok [] ∨
    ∃ first rest items, listed = .ok (first :: rest) ∧ first.conditions = .entries items ∧
      (∀ entry ∈ items, ∃ condition, entry = .condition condition) ∧
      ∃ condition, ConditionEntry.condition condition ∈ items ∧ condition.status ≠ conditionTrue

/-- The call asks for no requeue and reports no error exactly on a settled cluster. -/
theorem setStatusFromClusterStatus_settled_iff (managedCluster : ManagedCluster)
    (conditions : List Condition) (listed : Except ApiError (List ClusterObject)) :
    (∃ result, setStatusFromClusterStatus managedCluster conditions listed = .returns result ∧
        result.error = none ∧ result.requeue = false) ↔ ClusterSettled listed := by
  constructor
  · rintro ⟨result, returns, clean, settled⟩
    rcases setStatusFromClusterStatus_of_clean returns clean with
      ⟨rfl, -⟩ | ⟨first, rest, items, rfl, entries, convertible, rfl⟩
    · cases settled
    · have allTrue := ((mergeClusterConditions_requeue_eq_false_iff _ _ _ convertible).1 settled).2
      refine ⟨first, rest, items, rfl, entries, fun entry member => ?_⟩
      obtain ⟨condition, rfl⟩ := convertible entry member
      exact ⟨condition, rfl, allTrue condition member⟩
  · rintro ⟨first, rest, items, rfl, entries, allTrue⟩
    have convertible : ∀ entry ∈ items, ∃ condition, entry = .condition condition :=
      fun entry member => (allTrue entry member).imp fun _ => And.left
    refine ⟨_, by simp [setStatusFromClusterStatus, entries]; rfl,
      (mergeClusterConditions_error_eq_none_iff _ _ _ _).2 convertible,
      (mergeClusterConditions_requeue_eq_false_iff _ _ _ convertible).2 ⟨rfl, ?_⟩⟩
    intro condition member
    obtain ⟨_, ⟨⟩, status⟩ := allTrue _ member
    exact status

/-- A pending cluster asks for a requeue without an error. -/
theorem setStatusFromClusterStatus_of_pending (managedCluster : ManagedCluster)
    (conditions : List Condition) {listed : Except ApiError (List ClusterObject)}
    (pending : ClusterPending listed) :
    ∃ result, setStatusFromClusterStatus managedCluster conditions listed = .returns result ∧
      result.error = none ∧ result.requeue = true := by
  rcases pending with ⟨message, rfl⟩ | rfl | ⟨first, rest, items, rfl, entries, convertible, notTrue⟩
  · exact ⟨_, rfl, rfl, rfl⟩
  · exact ⟨_, rfl, rfl, rfl⟩
  · refine ⟨_, by simp [setStatusFromClusterStatus, entries]; rfl,
      (mergeClusterConditions_error_eq_none_iff _ _ _ _).2 convertible, ?_⟩
    cases settled : (mergeClusterConditions managedCluster conditions true items).requeue
    · obtain ⟨condition, member, status⟩ := notTrue
      exact absurd (((mergeClusterConditions_requeue_eq_false_iff _ _ _ convertible).1 settled).2
        condition member) status
    · rfl

/-! ## The condition copy loop -/

/-- The condition an entry converts to, if it converts. -/
def ConditionEntry.toCondition : ConditionEntry → Option Condition
  | .condition converted => some converted
  | _ => none

@[simp]
theorem mem_filterMap_toCondition {items : List ConditionEntry} {condition : Condition} :
    condition ∈ items.filterMap ConditionEntry.toCondition ↔
      ConditionEntry.condition condition ∈ items := by
  simp only [List.mem_filterMap]
  constructor
  · rintro ⟨entry, listed, converts⟩
    cases entry <;> cases converts
    exact listed
  · exact fun listed => ⟨_, listed, rfl⟩

/-- The conditions the entries of the first listed cluster convert to, in order. -/
def copiedConditions : Except ApiError (List ClusterObject) → List Condition
  | .ok (first :: _) =>
      match first.conditions with
      | .entries items => items.filterMap ConditionEntry.toCondition
      | _ => []
  | _ => []

/-- On convertible entries, the loop sets each copied condition in turn, with its default reason. -/
theorem mergeClusterConditions_conditions (managedCluster : ManagedCluster)
    (conditions : List Condition) (allConditionsComplete : Bool) {items : List ConditionEntry}
    (convertible : ∀ entry ∈ items, ∃ condition, entry = .condition condition) :
    (mergeClusterConditions managedCluster conditions allConditionsComplete items).conditions =
      ((items.filterMap ConditionEntry.toCondition).map defaultReason).foldl setStatusCondition
        conditions := by
  induction items generalizing conditions allConditionsComplete with
  | nil => rfl
  | cons entry rest ih =>
      obtain ⟨metaCondition, rfl⟩ := convertible entry (.head _)
      simp only [mergeClusterConditions, List.filterMap_cons, ConditionEntry.toCondition,
        List.map_cons, List.foldl_cons]
      exact ih _ _ fun other member => convertible other (.tail _ member)

/--
The condition copy.  For a condition list with pairwise-distinct types and a
call that returns no error: the types stay pairwise distinct; a type the
first listed cluster carries holds its last condition of that type, whose
reason defaults to `Succeeded` when its status is `True` and its reason
empty; every other type keeps its condition; and the call asks for a
requeue exactly when no cluster was found or a copied condition is not
`True`.
-/
theorem setStatusFromClusterStatus_copies_conditions {managedCluster : ManagedCluster}
    {conditions : List Condition} {listed : Except ApiError (List ClusterObject)}
    {result : ClusterStatusResult} (distinct : (conditionTypes conditions).Nodup)
    (returns : setStatusFromClusterStatus managedCluster conditions listed = .returns result)
    (clean : result.error = none) :
    (conditionTypes result.conditions).Nodup ∧
    (∀ conditionType last,
      ((copiedConditions listed).filter (·.type = conditionType)).getLast? = some last →
        findStatusCondition result.conditions conditionType = some { last with
          reason := if last.reason = "" ∧ last.status = conditionTrue then "Succeeded"
            else last.reason }) ∧
    (∀ conditionType, conditionType ∉ copiedConditionTypes listed →
      findStatusCondition result.conditions conditionType =
        findStatusCondition conditions conditionType) ∧
    (result.requeue = true ↔
      ((∃ message, listed = .error (.notFound message)) ∨ listed = .ok []) ∨
        ∃ condition ∈ copiedConditions listed, condition.status ≠ conditionTrue) := by
  refine ⟨(setStatusFromClusterStatus_setsOnly returns).nodup distinct, ?_,
    fun _ notCopied => findStatusCondition_setStatusFromClusterStatus returns notCopied, ?_⟩
  all_goals rcases setStatusFromClusterStatus_of_clean returns clean with
    ⟨rfl, notFound | empty⟩ | ⟨first, rest, items, rfl, entries, convertible, rfl⟩
  · rintro _ _ copied
    obtain ⟨_, rfl⟩ := notFound
    cases copied
  · rintro _ _ copied
    subst empty
    cases copied
  · intro conditionType last copied
    simp only [copiedConditions, entries] at copied
    simp [mergeClusterConditions_conditions _ _ _ convertible,
      findStatusCondition_foldl_setStatusCondition, List.filter_map, Function.comp_def, copied,
      ← defaultReason_eq]
  · exact iff_of_true rfl (.inl (.inl notFound))
  · exact iff_of_true rfl (.inl (.inr empty))
  · rw [← Bool.not_eq_false, mergeClusterConditions_requeue_eq_false_iff _ _ _ convertible]
    simp [copiedConditions, entries, -List.mem_filterMap]

/-- A managed cluster `default/dev` whose CAPI cluster is still being provisioned. -/
def provisioningCluster : ManagedCluster where
  name := "dev"
  ns := "default"
  uid := 3
  generation := 2
  resourceVersion := 5
  finalizers := [managedClusterFinalizer]
  deleting := false
  spec := ⟨"aws", none, false, []⟩
  status := ⟨2,
    [⟨templateReadyCondition, conditionTrue, succeededReason, "Template is valid"⟩,
      ⟨readyCondition, conditionFalse, "Provisioning", "waiting for the control plane"⟩]⟩

/-- The CAPI cluster of `default/dev`, reporting its control plane twice. -/
def provisioningList : Except ApiError (List ClusterObject) :=
  .ok [⟨.entries
    [.condition ⟨"ControlPlaneReady", conditionFalse, "WaitingForControlPlane", "0 of 1 ready"⟩,
      .condition ⟨"ControlPlaneReady", conditionTrue, "", "1 of 1 ready"⟩,
      .condition ⟨readyCondition, conditionTrue, "", "cluster is ready"⟩]⟩]

/-- The copy on `provisioningCluster`, whose cluster reports its control plane twice. -/
theorem setStatusFromClusterStatus_copies_conditions_provisioning :
    (conditionTypes provisioningCluster.status.conditions).Nodup ∧
      ∃ result, setStatusFromClusterStatus provisioningCluster provisioningCluster.status.conditions
          provisioningList = .returns result ∧ result.error = none ∧
        (conditionTypes result.conditions).Nodup ∧
        (∀ conditionType last,
          ((copiedConditions provisioningList).filter (·.type = conditionType)).getLast? =
              some last →
            findStatusCondition result.conditions conditionType = some { last with
              reason := if last.reason = "" ∧ last.status = conditionTrue then "Succeeded"
                else last.reason }) ∧
        (∀ conditionType, conditionType ∉ copiedConditionTypes provisioningList →
          findStatusCondition result.conditions conditionType =
            findStatusCondition provisioningCluster.status.conditions conditionType) ∧
        (result.requeue = true ↔
          ((∃ message, provisioningList = .error (.notFound message)) ∨ provisioningList = .ok []) ∨
            ∃ condition ∈ copiedConditions provisioningList, condition.status ≠ conditionTrue) :=
  ⟨by decide, _, rfl, rfl, setStatusFromClusterStatus_copies_conditions (by decide) rfl rfl⟩

end HmcReconcilers.ManagedClusterController
