import Relayd.Storage.Hydration

/-!
# The three readers

The join of an allocation with its binding is written out three times: for a lookup
by id, for a lookup together with the binding, and for the listing.  The columns are
checked in a different order each time, so a corrupt row may fail with a different
error; whether it fails, and what is read when it does not, is the same.
-/

namespace Relayd
namespace Storage

open Foundation

/-- What the listing makes of the row of an id. -/
def listedEntry (id : String) (db : Database) :
    Except RepositoryError (Option Allocation) :=
  match findAllocation id db with
  | none => .ok none
  | some row => some <$> modelToAllocation row (findBinding row.id db)

/-- All three fail, or all three give the same value. -/
def AgreedReading {error value : Type} (first second third : Except error value) : Prop :=
  (exists e₁ e₂ e₃, first = .error e₁ ∧ second = .error e₂ ∧ third = .error e₃) ∨
    exists found, first = .ok found ∧ second = .ok found ∧ third = .ok found

theorem agreedReading_of_ok_iff {error value : Type}
    {first second third : Except error value}
    (hsecond : forall found, second = .ok found <-> first = .ok found)
    (hthird : forall found, third = .ok found <-> first = .ok found) :
    AgreedReading first second third := by
  cases first with
  | ok found =>
      exact Or.inr ⟨found, rfl, (hsecond found).mpr rfl, (hthird found).mpr rfl⟩
  | error e =>
      apply Or.inl
      cases second with
      | ok found => cases (hsecond found).mp rfl
      | error e₂ =>
          cases third with
          | ok found => cases (hthird found).mp rfl
          | error e₃ => exact ⟨e, e₂, e₃, rfl, rfl, rfl⟩

theorem listedEntry_eq_some {id : String} {db : Database} {allocation : Allocation} :
    listedEntry id db = .ok (some allocation) <->
      exists row, findAllocation id db = some row ∧
        Hydrates row (findBinding id db) allocation := by
  unfold listedEntry
  cases hfind : findAllocation id db with
  | none => simp
  | some row =>
      have hid := (findAllocation_some hfind).right
      simp only [except_map_eq_ok, modelToAllocation_eq_ok, hid]
      constructor
      · intro h
        rcases h with ⟨found, hfound, h⟩
        cases h
        exact ⟨row, rfl, hfound⟩
      · intro h
        rcases h with ⟨row', hrow, h⟩
        cases hrow
        exact ⟨allocation, h, rfl⟩

theorem listedEntry_eq_none {id : String} {db : Database} :
    listedEntry id db = .ok none <-> findAllocation id db = none := by
  unfold listedEntry
  cases hfind : findAllocation id db with
  | none => simp
  | some row => simp [except_map_eq_ok]

theorem listedEntry_eq_ok {id : String} {db : Database} {found : Option Allocation} :
    listedEntry id db = .ok found <-> getAllocation id db = .ok found := by
  cases found with
  | none => rw [listedEntry_eq_none, getAllocation_eq_none]
  | some allocation => rw [listedEntry_eq_some, getAllocation_eq_some]

theorem getAllocationWithBinding_eq_none {id : String} {db : Database} :
    getAllocationWithBinding id db = .ok none <-> findAllocation id db = none := by
  unfold getAllocationWithBinding
  cases hfind : findAllocation id db with
  | none => simp
  | some row => simp [except_map_eq_ok]

/-- A row that hydrates has a binding row that decodes, when it has one at all. -/
theorem Hydrates.decodes {row : AllocationRow} {binding : Option BindingRow}
    {allocation : Allocation} (h : Hydrates row binding allocation) :
    exists joined, Option.Rel DecodesBinding binding joined := by
  cases binding with
  | none => exact ⟨none, Option.Rel.none⟩
  | some stored =>
      have htarget : allocation.targetPort.map i32FromU16 = some stored.targetPort :=
        h.targetPort
      cases hport : allocation.targetPort with
      | none =>
          rw [hport] at htarget
          cases htarget
      | some port =>
          rw [hport] at htarget
          refine ⟨some
            { allocationId := stored.allocationId
              targetPort := port
              host := stored.host
              createdAtMs := stored.createdAtMs
              updatedAtMs := stored.updatedAtMs }, Option.Rel.some ?_⟩
          exact
            { allocationId := rfl
              targetPort := Option.some.inj htarget
              host := rfl
              createdAtMs := rfl
              updatedAtMs := rfl }

theorem fst_getAllocationWithBinding_eq_ok {id : String} {db : Database}
    {found : Option Allocation} :
    (Option.map Prod.fst <$> getAllocationWithBinding id db) = .ok found <->
      getAllocation id db = .ok found := by
  rw [except_map_eq_ok]
  constructor
  · intro h
    rcases h with ⟨joined, hjoined, rfl⟩
    cases joined with
    | none =>
        rw [getAllocationWithBinding_eq_none] at hjoined
        exact getAllocation_eq_none.mpr hjoined
    | some pair => exact getAllocation_of_getAllocationWithBinding hjoined
  · intro h
    cases found with
    | none =>
        rw [getAllocation_eq_none] at h
        exact ⟨none, getAllocationWithBinding_eq_none.mpr h, rfl⟩
    | some allocation =>
        rcases getAllocation_eq_some.mp h with ⟨row, hrow, hhydrates⟩
        rcases hhydrates.decodes with ⟨joined, hdecodes⟩
        exact ⟨some (allocation, joined),
          getAllocationWithBinding_eq_some.mpr ⟨row, hrow, hhydrates, hdecodes⟩, rfl⟩

/-!
# The listing against the lookups
-/

theorem hydration_paths_agree (db : Database) :
    (forall id, AgreedReading (getAllocation id db)
      (Option.map Prod.fst <$> getAllocationWithBinding id db) (listedEntry id db)) ∧
    (forall id allocation joined,
      getAllocationWithBinding id db = .ok (some (allocation, joined)) ->
        getBinding id db = .ok joined) ∧
    ((exists allocations, listAllocations db = .ok allocations) <->
      forall row, row ∈ db.allocations ->
        exists allocation, getAllocation row.id db = .ok (some allocation)) ∧
    (forall allocations, listAllocations db = .ok allocations ->
      exists rows, rows.Perm db.allocations ∧
        List.Forall₂ (fun row allocation =>
          getAllocation row.id db = .ok (some allocation)) rows allocations) := by
  refine ⟨?_, ?_, listAllocations_succeeds, ?_⟩
  · intro id
    exact agreedReading_of_ok_iff (fun _ => fst_getAllocationWithBinding_eq_ok)
      (fun _ => listedEntry_eq_ok)
  · intro id allocation joined h
    exact getBinding_of_getAllocationWithBinding h
  · intro allocations h
    exact ⟨_, List.perm_insertionSort AllocationRow.listedBefore db.allocations,
      listAllocations_eq_ok.mp h⟩

/-- A table as an upgrade leaves it: a row that still has its target in the legacy
columns, one whose binding differs from them, and a binding without an allocation. -/
def upgradedDatabase : Database where
  allocations :=
    [{ id := "legacy"
       protocol := "TCP"
       port := 10001
       targetPort := 8080
       host := some "127.0.0.1"
       createdAtMs := 1
       updatedAtMs := 2 },
     { id := "bound"
       protocol := "both"
       port := 10000
       targetPort := -1
       host := some "127.0.0.2"
       createdAtMs := 3
       updatedAtMs := 4 }]
  bindings :=
    [{ allocationId := "orphan", targetPort := 70000, host := none,
       createdAtMs := 5, updatedAtMs := 6 },
     { allocationId := "bound", targetPort := 9090, host := none,
       createdAtMs := 7, updatedAtMs := 8 }]
  allocationIds := by decide
  protocolPorts := by decide
  bindingIds := by decide

theorem hydration_paths_agree_upgraded :
    getBinding "bound" upgradedDatabase =
      .ok (some
        { allocationId := "bound", targetPort := 9090, host := none,
          createdAtMs := 7, updatedAtMs := 8 }) ∧
    exists rows, rows.Perm upgradedDatabase.allocations ∧
      List.Forall₂ (fun row allocation =>
        getAllocation row.id upgradedDatabase = .ok (some allocation)) rows
        [{ id := "legacy", protocol := .tcp, port := 10001, targetPort := some 8080,
           host := some "127.0.0.1", createdAtMs := 1, updatedAtMs := 2 },
         { id := "bound", protocol := .both, port := 10000, targetPort := some 9090,
           host := some "127.0.0.2", createdAtMs := 3, updatedAtMs := 4 }] := by
  have h := hydration_paths_agree upgradedDatabase
  constructor
  · exact h.2.1 "bound"
      { id := "bound", protocol := .both, port := 10000, targetPort := some 9090,
        host := some "127.0.0.2", createdAtMs := 3, updatedAtMs := 4 } _ rfl
  · exact h.2.2.2 _ (by decide)

end Storage
end Relayd
