import Mathlib.Data.List.Basic

/-!
# The Go and API-server runtime seen by the reconcilers

The three controllers talk to the API server through `client.Client` and to
their collaborators through plain Go calls.  This module fixes the small
vocabulary every controller model shares: API errors and the one test the
code makes on them (`apierrors.IsNotFound`), the way a Go call can end in a
run-time panic, `errors.Join` on possibly-nil errors, the `controllerutil`
finalizer helpers, Go map assignment, and `ctrl.Result`.

Go's `error` values are modelled by their text (`err.Error()`), with `none`
for a nil error.
-/

namespace HmcReconcilers

/-- The key of a namespaced object, `types.NamespacedName`. -/
structure NamespacedName where
  ns : String
  name : String
deriving DecidableEq, Repr

/-- `NamespacedName.String()`: namespace and name separated by a slash. -/
def NamespacedName.toString (key : NamespacedName) : String :=
  key.ns ++ "/" ++ key.name

/-- An error returned by the API server; `apierrors.IsNotFound` tells the first kind apart. -/
inductive ApiError where
  | notFound (message : String)
  | failure (message : String)
deriving DecidableEq, Repr

/-- `apierrors.IsNotFound`. -/
def ApiError.isNotFound : ApiError → Bool
  | .notFound _ => true
  | .failure _ => false

/-- `err.Error()`. -/
def ApiError.error : ApiError → String
  | .notFound message => message
  | .failure message => message

/--
How a Go call ends: it returns a value, or it panics at run time (a nil
pointer dereference, a failed type assertion, an assignment into a nil map).
-/
inductive Exit (α : Type) where
  | returns (value : α)
  | panics (reason : String)
deriving DecidableEq, Repr

/-- The value a returning call hands on, transformed; a panic goes on unwinding. -/
def Exit.map {α β : Type} (f : α → β) : Exit α → Exit β
  | .returns value => .returns (f value)
  | .panics reason => .panics reason

/-- The run-time error Go raises on a field access through a nil pointer. -/
def nilPointerDereference : String :=
  "runtime error: invalid memory address or nil pointer dereference"

/-- The run-time error Go raises on an assignment into a nil map. -/
def assignmentToNilMap : String :=
  "assignment to entry in nil map"

/-- A concatenation of texts is empty only when both parts are. -/
theorem append_eq_empty_iff {left right : String} : left ++ right = "" ↔ left = "" ∧ right = "" := by
  obtain ⟨leftChars⟩ := left
  obtain ⟨rightChars⟩ := right
  constructor
  · intro empty
    have chars : leftChars ++ rightChars = [] := congrArg String.data empty
    simp_all
  · rintro ⟨leftEmpty, rightEmpty⟩
    rw [leftEmpty, rightEmpty]
    rfl

/-- A message with a non-empty prefix is non-empty, whatever `fmt` appends. -/
theorem append_ne_empty_of_left {left : String} (right : String) (nonempty : left ≠ "") :
    left ++ right ≠ "" :=
  fun empty => nonempty (append_eq_empty_iff.1 empty).1

/-- `errors.Join` of two possibly-nil errors: nil only when both are. -/
def joinErrors : Option String → Option String → Option String
  | none, second => second
  | some first, none => some first
  | some first, some second => some (first ++ "\n" ++ second)

@[simp]
theorem joinErrors_none_left (second : Option String) :
    joinErrors none second = second := rfl

@[simp]
theorem joinErrors_eq_none {first second : Option String} :
    joinErrors first second = none ↔ first = none ∧ second = none := by
  cases first <;> cases second <;> simp [joinErrors]

/-! ## Finalizers -/

/-- `controllerutil.AddFinalizer`: append the finalizer unless already present. -/
def addFinalizer (finalizers : List String) (finalizer : String) : List String :=
  if finalizer ∈ finalizers then finalizers else finalizers ++ [finalizer]

/-- `controllerutil.RemoveFinalizer`: drop every occurrence of the finalizer. -/
def removeFinalizer (finalizers : List String) (finalizer : String) : List String :=
  finalizers.filter (· ≠ finalizer)

@[simp]
theorem mem_addFinalizer {finalizers : List String} {finalizer other : String} :
    other ∈ addFinalizer finalizers finalizer ↔ other ∈ finalizers ∨ other = finalizer := by
  unfold addFinalizer
  split
  · exact ⟨.inl, fun | .inl member => member | .inr rfl => ‹_›⟩
  · simp

@[simp]
theorem mem_removeFinalizer {finalizers : List String} {finalizer other : String} :
    other ∈ removeFinalizer finalizers finalizer ↔ other ∈ finalizers ∧ other ≠ finalizer := by
  simp [removeFinalizer]

/-! ## Go maps -/

/--
A Go map, as the list of its entries in insertion order.  Assigning to a key
already present replaces that entry in place; a new key is appended.
-/
def GoMap (κ ν : Type) := List (κ × ν)

namespace GoMap

variable {κ ν : Type}

/-- The empty map, `make(map[κ]ν)`. -/
def empty : GoMap κ ν := []

/-- The keys of the map, in insertion order. -/
def keys (entries : GoMap κ ν) : List κ :=
  List.map Prod.fst (α := κ × ν) entries

@[simp]
theorem keys_empty : keys (empty : GoMap κ ν) = [] := rfl

variable [DecidableEq κ]

/-- `m[key] = value`. -/
def insert : GoMap κ ν → κ → ν → GoMap κ ν
  | [], key, value => [(key, value)]
  | (existing, old) :: rest, key, value =>
      if existing = key then (key, value) :: rest
      else (existing, old) :: insert rest key value

/-- `m[key]`, with `none` for an absent key. -/
def lookup : GoMap κ ν → κ → Option ν
  | [], _ => none
  | (existing, value) :: rest, key =>
      if existing = key then some value else lookup rest key

/-- Assigning a key not yet present appends it. -/
theorem keys_insert_of_not_mem (entries : GoMap κ ν) (key : κ) (value : ν)
    (fresh : key ∉ keys entries) :
    keys (insert entries key value) = keys entries ++ [key] := by
  induction entries with
  | nil => rfl
  | cons entry rest ih =>
      obtain ⟨existing, old⟩ := entry
      simp only [keys, List.map_cons, List.mem_cons, not_or] at fresh
      simp only [insert, if_neg (Ne.symm fresh.1), keys, List.map_cons, List.cons_append]
      exact congrArg _ (ih fresh.2)

@[simp]
theorem lookup_insert_self (entries : GoMap κ ν) (key : κ) (value : ν) :
    lookup (insert entries key value) key = some value := by
  induction entries with
  | nil => simp [insert, lookup]
  | cons entry rest ih =>
      obtain ⟨existing, old⟩ := entry
      by_cases same : existing = key <;> simp [insert, lookup, same, ih]

theorem lookup_insert_of_ne (entries : GoMap κ ν) {key other : κ} (value : ν)
    (distinct : other ≠ key) :
    lookup (insert entries key value) other = lookup entries other := by
  induction entries with
  | nil => simp [insert, lookup, Ne.symm distinct]
  | cons entry rest ih =>
      obtain ⟨existing, old⟩ := entry
      by_cases same : existing = key
      · subst same
        simp [insert, lookup, Ne.symm distinct]
      · by_cases hit : existing = other <;> simp [insert, lookup, same, hit, ih, distinct]

theorem mem_keys_insert (entries : GoMap κ ν) (key : κ) (value : ν) {other : κ} :
    other ∈ keys (insert entries key value) ↔ other ∈ keys entries ∨ other = key := by
  induction entries with
  | nil => simp [insert, keys]
  | cons entry rest ih =>
      obtain ⟨existing, old⟩ := entry
      by_cases same : existing = key
      · subst same
        simp only [insert, if_true, keys, List.map_cons, List.mem_cons]
        tauto
      · simp only [keys, List.map_cons, List.mem_cons] at ih ⊢
        simp only [insert, if_neg same, List.map_cons, List.mem_cons, ih]
        tauto

/-- Assigning keeps the keys of a map pairwise distinct. -/
theorem nodup_keys_insert {entries : GoMap κ ν} (distinct : (keys entries).Nodup) (key : κ)
    (value : ν) : (keys (insert entries key value)).Nodup := by
  induction entries with
  | nil => simp [insert, keys]
  | cons entry rest ih =>
      obtain ⟨existing, old⟩ := entry
      simp only [keys, List.map_cons, List.nodup_cons] at distinct
      by_cases same : existing = key
      · simpa [insert, same, keys] using distinct
      · simp only [insert, if_neg same, keys, List.map_cons, List.nodup_cons]
        exact ⟨fun member => ((mem_keys_insert rest key value).1 member).elim distinct.1 same,
          ih distinct.2⟩

/-- Assigning a key not yet present appends the entry. -/
theorem insert_of_not_mem {entries : GoMap κ ν} {key : κ} (value : ν)
    (fresh : key ∉ keys entries) : insert entries key value = List.append entries [(key, value)] := by
  induction entries with
  | nil => rfl
  | cons entry rest ih =>
      obtain ⟨existing, old⟩ := entry
      simp only [keys, List.map_cons, List.mem_cons, not_or] at fresh
      simp only [insert, if_neg (Ne.symm fresh.1)]
      exact congrArg _ (ih fresh.2)

/-- Assigning a key the value it already has changes nothing. -/
theorem insert_of_lookup {entries : GoMap κ ν} {key : κ} {value : ν}
    (found : lookup entries key = some value) : insert entries key value = entries := by
  induction entries with
  | nil => cases found
  | cons entry rest ih =>
      obtain ⟨existing, old⟩ := entry
      by_cases same : existing = key
      · subst same
        simp only [lookup, if_true, Option.some.injEq] at found
        simp [insert, found]
      · simp only [lookup, if_neg same] at found
        simp only [insert, if_neg same]
        exact congrArg _ (ih found)

end GoMap

/-! ## Reconcile results -/

/-- `ctrl.Result`; the reconcilers only ever set `RequeueAfter`, counted in seconds. -/
structure Result where
  requeueAfter : Nat
deriving DecidableEq, Repr

/-- `ctrl.Result{}`: no timed requeue. -/
def Result.done : Result := ⟨0⟩

/-- `DefaultRequeueInterval = 10 * time.Second`. -/
def defaultRequeueInterval : Nat := 10

end HmcReconcilers
