import HmcReconcilers.Runtime
import Mathlib.Data.List.Nodup

/-!
# Status conditions

`metav1.Condition` and the one operation the reconcilers use to change a
condition list, `apimeta.SetStatusCondition`.  A condition list is keyed by
condition type: setting a condition replaces the first entry of its type, or
appends it when the type is new.  The main facts are that setting preserves
pairwise-distinct types, that the condition just set is the one found under
its type, and that every other type is untouched.  A list with distinct
types is determined by its types and by what is found under each, and from
such a list a sequence of sets run twice gives what it gave once.

Condition statuses are Go strings (`metav1.ConditionStatus`), not an
enumeration: a condition copied from an unstructured object may carry any
text.  Transition timestamps and the per-condition observed generation are
left out; no modelled function reads them.
-/

namespace HmcReconcilers

/-- `metav1.ConditionTrue`. -/
def conditionTrue : String := "True"

/-- `metav1.ConditionFalse`. -/
def conditionFalse : String := "False"

/-- `metav1.ConditionUnknown`. -/
def conditionUnknown : String := "Unknown"

/-- A `metav1.Condition`, without its timestamp and observed generation. -/
structure Condition where
  type : String
  status : String
  reason : String
  message : String
deriving DecidableEq, Repr

/-- The condition types of a list, in order. -/
def conditionTypes (conditions : List Condition) : List String :=
  conditions.map Condition.type

/-- `apimeta.FindStatusCondition`: the first condition of the given type. -/
def findStatusCondition (conditions : List Condition) (conditionType : String) :
    Option Condition :=
  conditions.find? (·.type = conditionType)

/--
`apimeta.SetStatusCondition`.  An existing condition of the same type gets
the new status, reason and message, so it becomes the new condition.
-/
def setStatusCondition : List Condition → Condition → List Condition
  | [], newCondition => [newCondition]
  | existing :: rest, newCondition =>
      if existing.type = newCondition.type then newCondition :: rest
      else existing :: setStatusCondition rest newCondition

@[simp]
theorem conditionTypes_nil : conditionTypes [] = [] := rfl

@[simp]
theorem conditionTypes_cons (condition : Condition) (rest : List Condition) :
    conditionTypes (condition :: rest) = condition.type :: conditionTypes rest := rfl

/-- Setting a condition keeps every type and adds its own one when new. -/
theorem conditionTypes_setStatusCondition (conditions : List Condition)
    (newCondition : Condition) :
    conditionTypes (setStatusCondition conditions newCondition) =
      if newCondition.type ∈ conditionTypes conditions then conditionTypes conditions
      else conditionTypes conditions ++ [newCondition.type] := by
  induction conditions with
  | nil => rfl
  | cons existing rest ih =>
      by_cases same : existing.type = newCondition.type
      · simp [setStatusCondition, same]
      · by_cases present : newCondition.type ∈ conditionTypes rest <;>
          simp_all [setStatusCondition, Ne.symm same]

/-- Setting a condition preserves pairwise-distinct types. -/
theorem nodup_conditionTypes_setStatusCondition {conditions : List Condition}
    (distinct : (conditionTypes conditions).Nodup) (newCondition : Condition) :
    (conditionTypes (setStatusCondition conditions newCondition)).Nodup := by
  rw [conditionTypes_setStatusCondition]
  split
  · exact distinct
  · exact distinct.append (List.nodup_singleton _) (by simpa)

/-- The condition just set is the one found under its type. -/
@[simp]
theorem findStatusCondition_setStatusCondition_self (conditions : List Condition)
    (newCondition : Condition) :
    findStatusCondition (setStatusCondition conditions newCondition) newCondition.type =
      some newCondition := by
  induction conditions with
  | nil => simp [setStatusCondition, findStatusCondition]
  | cons existing rest ih =>
      by_cases same : existing.type = newCondition.type <;>
        simp_all [setStatusCondition, findStatusCondition]

/-- Setting a condition leaves every other type as it was. -/
theorem findStatusCondition_setStatusCondition_of_ne (conditions : List Condition)
    {newCondition : Condition} {conditionType : String}
    (other : conditionType ≠ newCondition.type) :
    findStatusCondition (setStatusCondition conditions newCondition) conditionType =
      findStatusCondition conditions conditionType := by
  induction conditions with
  | nil => simp [setStatusCondition, findStatusCondition, Ne.symm other]
  | cons existing rest ih =>
      by_cases same : existing.type = newCondition.type
      · have miss : existing.type ≠ conditionType := same ▸ Ne.symm other
        simp [setStatusCondition, findStatusCondition, same, miss, Ne.symm other]
      · by_cases hit : existing.type = conditionType <;>
          simp_all [setStatusCondition, findStatusCondition]

/-- Setting a condition leaves the conditions of every other type in place. -/
theorem filter_setStatusCondition_of_ne (conditions : List Condition) (newCondition : Condition) :
    (setStatusCondition conditions newCondition).filter (·.type ≠ newCondition.type) =
      conditions.filter (·.type ≠ newCondition.type) := by
  induction conditions with
  | nil => simp [setStatusCondition]
  | cons existing rest ih =>
      by_cases same : existing.type = newCondition.type <;>
        simp_all [setStatusCondition, List.filter_cons]

/-- With distinct types, the condition just set is the only one of its type. -/
theorem filter_setStatusCondition_self {conditions : List Condition}
    (distinct : (conditionTypes conditions).Nodup) (newCondition : Condition) :
    (setStatusCondition conditions newCondition).filter (·.type = newCondition.type) =
      [newCondition] := by
  induction conditions with
  | nil => simp [setStatusCondition]
  | cons existing rest ih =>
      simp only [conditionTypes_cons, List.nodup_cons] at distinct
      by_cases same : existing.type = newCondition.type
      · have absent : ∀ condition ∈ rest, condition.type ≠ newCondition.type :=
          fun condition member equal =>
            distinct.1 (same ▸ equal ▸ List.mem_map_of_mem Condition.type member)
        simpa [setStatusCondition, same, List.filter_cons, List.filter_eq_nil_iff] using absent
      · simp [setStatusCondition, same, List.filter_cons, ih distinct.2]

/--
After a sequence of sets, a type holds the last condition set under it, or
what it held before when none was.
-/
theorem findStatusCondition_foldl_setStatusCondition (newConditions conditions : List Condition)
    (conditionType : String) :
    findStatusCondition (newConditions.foldl setStatusCondition conditions) conditionType =
      ((newConditions.filter (·.type = conditionType)).getLast?).or
        (findStatusCondition conditions conditionType) := by
  induction newConditions generalizing conditions with
  | nil => rfl
  | cons newCondition rest ih =>
      rw [List.foldl_cons, ih]
      by_cases same : newCondition.type = conditionType
      · subst same
        rw [findStatusCondition_setStatusCondition_self, List.filter_cons_of_pos (by simp),
          List.getLast?_cons]
        cases (rest.filter (·.type = newCondition.type)).getLast? <;> rfl
      · simp [List.filter_cons, same, findStatusCondition_setStatusCondition_of_ne _ (Ne.symm same)]

/-- The first condition of a list is found under its own type; any other type is looked up further on. -/
theorem findStatusCondition_cons (condition : Condition) (rest : List Condition)
    (conditionType : String) :
    findStatusCondition (condition :: rest) conditionType =
      if condition.type = conditionType then some condition
      else findStatusCondition rest conditionType := by
  simp [findStatusCondition, List.find?_cons]
  split <;> simp_all

theorem findStatusCondition_eq_none_iff {conditions : List Condition} {conditionType : String} :
    findStatusCondition conditions conditionType = none ↔
      conditionType ∉ conditionTypes conditions := by
  simp [findStatusCondition, conditionTypes, List.find?_eq_none]

/-- A condition list with distinct types is determined by its types and what is found under each. -/
theorem eq_of_conditionTypes_eq {conditions others : List Condition}
    (distinct : (conditionTypes conditions).Nodup)
    (sameTypes : conditionTypes conditions = conditionTypes others)
    (sameFound : ∀ conditionType,
      findStatusCondition conditions conditionType = findStatusCondition others conditionType) :
    conditions = others := by
  induction conditions generalizing others with
  | nil => cases others <;> simp_all
  | cons condition rest ih =>
      cases others with
      | nil => simp at sameTypes
      | cons other otherRest =>
          simp only [conditionTypes_cons, List.cons.injEq] at sameTypes
          simp only [conditionTypes_cons, List.nodup_cons] at distinct
          have head : condition = other := by
            simpa [findStatusCondition_cons, sameTypes.1] using sameFound condition.type
          subst head
          refine congrArg _ (ih distinct.2 sameTypes.2 fun conditionType => ?_)
          by_cases same : condition.type = conditionType
          · subst same
            rw [findStatusCondition_eq_none_iff.2 distinct.1,
              findStatusCondition_eq_none_iff.2 (sameTypes.2 ▸ distinct.1)]
          · simpa [findStatusCondition_cons, same] using sameFound conditionType

theorem setStatusCondition_ne_nil (conditions : List Condition) (newCondition : Condition) :
    setStatusCondition conditions newCondition ≠ [] := by
  cases conditions with
  | nil => simp [setStatusCondition]
  | cons existing rest => unfold setStatusCondition; split <;> simp

/-! ## Lists changed only through `SetStatusCondition` -/

/-- `after` is `before` changed by a sequence of `SetStatusCondition` calls and nothing else. -/
def SetsOnly (before after : List Condition) : Prop :=
  ∃ newConditions : List Condition, after = newConditions.foldl setStatusCondition before

theorem SetsOnly.refl (conditions : List Condition) : SetsOnly conditions conditions :=
  ⟨[], rfl⟩

theorem SetsOnly.set {before after : List Condition} (sets : SetsOnly before after)
    (newCondition : Condition) : SetsOnly before (setStatusCondition after newCondition) := by
  obtain ⟨newConditions, rfl⟩ := sets
  exact ⟨newConditions ++ [newCondition], by simp⟩

theorem SetsOnly.trans {before middle after : List Condition} (first : SetsOnly before middle)
    (second : SetsOnly middle after) : SetsOnly before after := by
  obtain ⟨firstConditions, rfl⟩ := first
  obtain ⟨secondConditions, rfl⟩ := second
  exact ⟨firstConditions ++ secondConditions, by simp⟩

/-- Lists changed only by setting keep pairwise-distinct types. -/
theorem SetsOnly.nodup {before after : List Condition} (sets : SetsOnly before after)
    (distinct : (conditionTypes before).Nodup) : (conditionTypes after).Nodup := by
  obtain ⟨newConditions, rfl⟩ := sets
  induction newConditions generalizing before with
  | nil => exact distinct
  | cons newCondition rest ih =>
      exact ih (nodup_conditionTypes_setStatusCondition distinct newCondition)

/-! ## Repeating a sequence of sets -/

/-- Setting only types already present keeps the list's types. -/
theorem conditionTypes_foldl_setStatusCondition_of_mem {conditions newConditions : List Condition}
    (present : ∀ newCondition ∈ newConditions, newCondition.type ∈ conditionTypes conditions) :
    conditionTypes (newConditions.foldl setStatusCondition conditions) = conditionTypes conditions := by
  induction newConditions generalizing conditions with
  | nil => rfl
  | cons newCondition rest ih =>
      have kept : conditionTypes (setStatusCondition conditions newCondition) =
          conditionTypes conditions := by
        rw [conditionTypes_setStatusCondition, if_pos (present _ (.head _))]
      rw [List.foldl_cons, ih (fun condition member => kept ▸ present condition (.tail _ member)), kept]

/-- After a sequence of sets, every type set is present. -/
theorem mem_conditionTypes_foldl_setStatusCondition {newConditions : List Condition}
    {newCondition : Condition} (member : newCondition ∈ newConditions) (conditions : List Condition) :
    newCondition.type ∈ conditionTypes (newConditions.foldl setStatusCondition conditions) := by
  by_contra absent
  rw [← findStatusCondition_eq_none_iff, findStatusCondition_foldl_setStatusCondition] at absent
  simp only [Option.or_eq_none, List.getLast?_eq_none_iff, List.filter_eq_nil_iff] at absent
  exact absent.1 _ member (by simp)

/-- From distinct types, running a sequence of sets a second time changes nothing. -/
theorem foldl_setStatusCondition_idem {conditions : List Condition}
    (distinct : (conditionTypes conditions).Nodup) (newConditions : List Condition) :
    newConditions.foldl setStatusCondition (newConditions.foldl setStatusCondition conditions) =
      newConditions.foldl setStatusCondition conditions := by
  apply eq_of_conditionTypes_eq (SetsOnly.nodup ⟨_, rfl⟩ (SetsOnly.nodup ⟨_, rfl⟩ distinct))
  · exact conditionTypes_foldl_setStatusCondition_of_mem fun _ member =>
      mem_conditionTypes_foldl_setStatusCondition member conditions
  · intro conditionType
    rw [findStatusCondition_foldl_setStatusCondition, findStatusCondition_foldl_setStatusCondition]
    cases (newConditions.filter (·.type = conditionType)).getLast? <;> rfl

/-- Dropping one type commutes with setting a condition of another type. -/
theorem filter_setStatusCondition_of_type_ne (conditions : List Condition)
    {newCondition : Condition} {conditionType : String} (other : newCondition.type ≠ conditionType) :
    (setStatusCondition conditions newCondition).filter (·.type ≠ conditionType) =
      setStatusCondition (conditions.filter (·.type ≠ conditionType)) newCondition := by
  induction conditions with
  | nil => simp [setStatusCondition, other]
  | cons existing rest ih =>
      by_cases same : existing.type = newCondition.type
      · simp [setStatusCondition, List.filter_cons, same, other]
      · by_cases dropped : existing.type = conditionType <;>
          simp_all [setStatusCondition, List.filter_cons, Ne.symm other]

/-- Dropping one type from the result of a sequence of sets drops it from the sets and the start. -/
theorem filter_foldl_setStatusCondition (newConditions conditions : List Condition)
    (conditionType : String) :
    (newConditions.foldl setStatusCondition conditions).filter (·.type ≠ conditionType) =
      (newConditions.filter (·.type ≠ conditionType)).foldl setStatusCondition
        (conditions.filter (·.type ≠ conditionType)) := by
  induction newConditions generalizing conditions with
  | nil => rfl
  | cons newCondition rest ih =>
      rw [List.foldl_cons, ih]
      by_cases same : newCondition.type = conditionType
      · subst same
        rw [filter_setStatusCondition_of_ne, List.filter_cons_of_neg (by simp)]
      · rw [filter_setStatusCondition_of_type_ne _ same, List.filter_cons_of_pos (by simpa using same),
          List.foldl_cons]

end HmcReconcilers
