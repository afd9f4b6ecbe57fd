import HmcReconcilers.ManagementController.Update

/-!
# The HMC values the management controller writes, read back

`enableAdditionalComponents` decodes the HMC component's values from JSON
into a Go map, switches on the admission webhook and, unless the user
disabled it, the cluster API operator, and encodes the map back into the
component's config.  This module shows that the values it writes are a fixed
point of the merge: decoding them gives back the map that was encoded, and
merging them once more returns them unchanged
(`enableAdditionalComponents_idem`).  The release values do not drift when
the merge meets its own output, whatever document the user wrote.
-/

namespace HmcReconcilers.ManagementController

open HmcReconcilers

/-! ## Decoding an encoded map -/

/-- Decoding fields with new, distinct keys onto a map appends them. -/
theorem foldl_insert_of_nodup {decoded : GoMap String JsonValue} {fields : List (String × JsonValue)}
    (distinct : (GoMap.keys (List.append decoded fields)).Nodup) :
    fields.foldl (fun decoded field => GoMap.insert decoded field.1 field.2) decoded =
      List.append decoded fields := by
  induction fields generalizing decoded with
  | nil => exact (List.append_nil _).symm
  | cons field rest ih =>
      have fresh : field.1 ∉ GoMap.keys decoded := by
        simp only [GoMap.keys, List.append_eq, List.map_append, List.map_cons,
          List.nodup_append, List.nodup_cons] at distinct
        exact fun member => distinct.2.2 member (List.mem_cons_self _ _)
      rw [List.foldl_cons, GoMap.insert_of_not_mem _ fresh, ih]
      · simp
      · simpa using distinct

/-- An object whose keys are distinct decodes to its own fields. -/
theorem decodeObject_of_nodup {fields : List (String × JsonValue)}
    (distinct : (GoMap.keys fields).Nodup) : decodeObject fields = fields :=
  foldl_insert_of_nodup distinct

theorem nodup_keys_decodeObject (fields : List (String × JsonValue)) :
    (GoMap.keys (decodeObject fields)).Nodup := by
  suffices ∀ decoded : GoMap String JsonValue, (GoMap.keys decoded).Nodup →
      (GoMap.keys (fields.foldl (fun decoded field => decoded.insert field.1 field.2) decoded)).Nodup from
    this GoMap.empty List.nodup_nil
  induction fields with
  | nil => exact fun _ distinct => distinct
  | cons field rest ih => exact fun decoded distinct => ih _ (GoMap.nodup_keys_insert distinct _ _)

theorem nodup_keys_of_decodeConfig {config : Option JsonValue} {decoded : GoMap String JsonValue}
    (ok : decodeConfig config = .ok (some decoded)) : (GoMap.keys decoded).Nodup := by
  rcases config with _ | ⟨_ | _ | _ | _ | _ | fields⟩ <;>
    simp only [decodeConfig, unmarshalConfig, Except.ok.injEq, Option.some.injEq, reduceCtorEq] at ok
  · exact ok ▸ List.nodup_nil
  · exact ok ▸ nodup_keys_decodeObject fields

theorem nodup_keys_of_nestedValues {value : Option JsonValue} {values : GoMap String JsonValue}
    (returned : nestedValues value = .returns values) : (GoMap.keys values).Nodup := by
  rcases value with _ | ⟨_ | _ | _ | _ | _ | fields⟩ <;>
    simp only [nestedValues, Exit.returns.injEq, reduceCtorEq] at returned
  all_goals first | exact returned ▸ List.nodup_nil | exact returned ▸ nodup_keys_decodeObject fields

/-! ## The merge is idempotent -/

theorem nodup_keys_enableOperator {values : GoMap String JsonValue}
    (distinct : (GoMap.keys values).Nodup) : (GoMap.keys (enableOperator values)).Nodup := by
  unfold enableOperator
  split
  · exact distinct
  · exact GoMap.nodup_keys_insert distinct _ _

/-- Switching the operator on twice is switching it on once. -/
theorem enableOperator_idem (values : GoMap String JsonValue) :
    enableOperator (enableOperator values) = enableOperator values := by
  by_cases disabled : values.lookup "enabled" = some (.bool false)
  · simp [enableOperator, disabled]
  · rw [enableOperator.eq_def (enableOperator values), enableOperator_lookup_of_not_disabled disabled]
    exact GoMap.insert_of_lookup (enableOperator_lookup_of_not_disabled disabled)

/--
The HMC values are a fixed point of the merge.  When `enableAdditionalComponents`
returns a spec, running it again on that spec returns the same spec: the
encoded values decode to the map that was encoded, the webhook and operator
switches are already on (or the operator explicitly off), and assigning a key
the value it holds changes nothing.
-/
theorem enableAdditionalComponents_idem {verifyAPI : Option String} {spec enabled : ManagementSpec}
    (ok : enableAdditionalComponents verifyAPI spec = .returns (.ok enabled)) :
    enableAdditionalComponents verifyAPI enabled = .returns (.ok enabled) := by
  obtain ⟨rfl, core, input, webhookValues, operatorValues, present, decoded, webhook, operator, rfl⟩ :=
    enableAdditionalComponents_of_ok ok
  have webhookLookup := GoMap.lookup_insert_of_ne
    (input.insert "admissionWebhook" (.object (webhookValues.insert "enabled" (.bool true))))
    (.object (enableOperator operatorValues)) (show "admissionWebhook" ≠ "cluster-api-operator" by decide)
  rw [GoMap.lookup_insert_self] at webhookLookup
  have operatorLookup := GoMap.lookup_insert_self
    (input.insert "admissionWebhook" (.object (webhookValues.insert "enabled" (.bool true))))
    "cluster-api-operator" (.object (enableOperator operatorValues))
  have distinct := GoMap.nodup_keys_insert
    (GoMap.nodup_keys_insert (nodup_keys_of_decodeConfig decoded) "admissionWebhook"
      (.object (webhookValues.insert "enabled" (.bool true))))
    "cluster-api-operator" (.object (enableOperator operatorValues))
  simp only [enableAdditionalComponents, decodeConfig, unmarshalConfig, decodeObject_of_nodup distinct,
    webhookLookup, operatorLookup, nestedValues, Option.some_bind,
    decodeObject_of_nodup (GoMap.nodup_keys_insert (nodup_keys_of_nestedValues webhook) _ _),
    decodeObject_of_nodup (nodup_keys_enableOperator (nodup_keys_of_nestedValues operator)),
    GoMap.insert_of_lookup (GoMap.lookup_insert_self webhookValues "enabled" (.bool true)),
    enableOperator_idem, GoMap.insert_of_lookup webhookLookup, GoMap.insert_of_lookup operatorLookup]

theorem enableAdditionalComponents_idem_disabledOperator :
    ∃ enabled, enableAdditionalComponents none
        (configuredManagement (.object [("cluster-api-operator", .object [("enabled", .bool false)])])).spec =
          .returns (.ok enabled) ∧
      enableAdditionalComponents none enabled = .returns (.ok enabled) :=
  have ok : enableAdditionalComponents none
      (configuredManagement (.object [("cluster-api-operator", .object [("enabled", .bool false)])])).spec =
        .returns (.ok _) := rfl
  ⟨_, ok, enableAdditionalComponents_idem ok⟩

end HmcReconcilers.ManagementController
