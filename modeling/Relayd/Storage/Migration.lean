import Relayd.Storage.Readers

/-!
# The migration of legacy bindings

Every start copies the legacy target of an allocation that has no binding yet into a
binding row.  The copy says what the fallback to the legacy columns already said, so
no reader can tell whether the migration has run.
-/

namespace Relayd
namespace Storage

open Foundation

/-- The binding row the migration writes for an allocation row. -/
def legacyBinding (row : AllocationRow) : BindingRow where
  allocationId := row.id
  targetPort := row.targetPort
  host := row.host
  createdAtMs := row.createdAtMs
  updatedAtMs := row.updatedAtMs

/-- The rows the migration selects. -/
def NeedsBinding (db : Database) (row : AllocationRow) : Prop :=
  row ∈ db.allocations ∧ row.targetPort > 0 ∧ findBinding row.id db = none

theorem findBinding_eq_none_iff_notMem {id : String} {db : Database} :
    findBinding id db = none <-> id ∉ db.bindings.map BindingRow.allocationId := by
  rw [findBinding_eq_none, List.mem_map]
  constructor
  · rintro h ⟨row, hrow, hid⟩
    exact h row hrow hid
  · intro h row hrow hid
    exact h ⟨row, hrow, hid⟩

theorem mem_legacyBindings {db : Database} {binding : BindingRow} :
    binding ∈ legacyBindings db <->
      exists row, NeedsBinding db row ∧ binding = legacyBinding row := by
  unfold legacyBindings NeedsBinding
  simp only [List.mem_map, List.mem_filter, decide_eq_true_eq,
    findBinding_eq_none_iff_notMem]
  constructor
  · intro h
    rcases h with ⟨row, hrow, rfl⟩
    exact ⟨row, hrow, rfl⟩
  · intro h
    rcases h with ⟨row, hrow, rfl⟩
    exact ⟨row, hrow, rfl⟩

/-!
# Lookups after the migration
-/

theorem migrateLegacyBindings_allocations (db : Database) :
    (migrateLegacyBindings db).allocations = db.allocations := rfl

theorem migrateLegacyBindings_bindings (db : Database) :
    (migrateLegacyBindings db).bindings = db.bindings ++ legacyBindings db := rfl

theorem mem_bindings_migrateLegacyBindings {db : Database} {binding : BindingRow} :
    binding ∈ (migrateLegacyBindings db).bindings <->
      binding ∈ db.bindings ∨
        exists row, NeedsBinding db row ∧ binding = legacyBinding row := by
  rw [migrateLegacyBindings_bindings, List.mem_append, mem_legacyBindings]

theorem findAllocation_migrateLegacyBindings (id : String) (db : Database) :
    findAllocation id (migrateLegacyBindings db) = findAllocation id db := rfl

theorem findBinding_migrateLegacyBindings_of_some {id : String} {db : Database}
    {binding : BindingRow} (h : findBinding id db = some binding) :
    findBinding id (migrateLegacyBindings db) = some binding := by
  rcases findBinding_some h with ⟨hmem, hid⟩
  rw [<- hid]
  apply findBinding_of_mem
  rw [migrateLegacyBindings_bindings]
  exact List.mem_append_left _ hmem

theorem findBinding_migrateLegacyBindings_of_needs {db : Database} {row : AllocationRow}
    (h : NeedsBinding db row) :
    findBinding row.id (migrateLegacyBindings db) = some (legacyBinding row) := by
  have hmem : legacyBinding row ∈ (migrateLegacyBindings db).bindings :=
    mem_bindings_migrateLegacyBindings.mpr (Or.inr ⟨row, h, rfl⟩)
  exact findBinding_of_mem hmem

/-- A row with no positive legacy target gets no binding. -/
theorem findBinding_migrateLegacyBindings_of_not_needs {db : Database}
    {row : AllocationRow} (hrow : row ∈ db.allocations) (htarget : ¬ row.targetPort > 0)
    (h : findBinding row.id db = none) :
    findBinding row.id (migrateLegacyBindings db) = none := by
  rw [findBinding_eq_none] at h ⊢
  intro binding hbinding hid
  rcases mem_bindings_migrateLegacyBindings.mp hbinding with hold | ⟨other, hneeds, hnew⟩
  · exact h binding hold hid
  · have hself : other.id = row.id := by
      rw [<- hid, hnew]
      rfl
    have hsame : some other = some row := by
      rw [<- findAllocation_of_mem hneeds.1, <- findAllocation_of_mem hrow, hself]
    cases hsame
    exact htarget hneeds.2.1

/-!
# What is read
-/

/-- A positive port fails in the same way from either column: what is too large for a
port is refused without naming the column. -/
theorem portFromI32_of_pos {value : Int} (h : value > 0) (field other : String) :
    portFromI32 field value = portFromI32 other value := by
  unfold portFromI32
  have hneg : ¬ value < 0 := by lia
  rw [if_neg hneg, if_neg hneg]

theorem rowToAllocation_legacyBinding {row : AllocationRow} (h : row.targetPort > 0) :
    rowToAllocation (allocationJoinRow row (some (legacyBinding row))) =
      rowToAllocation (allocationJoinRow row none) := by
  have htarget : joinedTargetPort (some row.targetPort) row.targetPort =
      joinedTargetPort none row.targetPort := by
    unfold joinedTargetPort legacyTargetPort
    simp only
    rw [if_pos h, portFromI32_of_pos h "binding.target_port" "target_port"]
  unfold rowToAllocation
  simp only [allocationJoinRow, legacyBinding, Option.map_some, Option.map_none,
    Option.bind_some, Option.bind_none, Option.or_self, Option.none_or, htarget]

theorem getAllocation_migrateLegacyBindings (id : String) (db : Database) :
    getAllocation id (migrateLegacyBindings db) = getAllocation id db := by
  unfold getAllocation
  rw [findAllocation_migrateLegacyBindings]
  cases hfind : findAllocation id db with
  | none => rfl
  | some row =>
      have hrow := (findAllocation_some hfind).left
      simp only
      cases hbinding : findBinding row.id db with
      | some binding => rw [findBinding_migrateLegacyBindings_of_some hbinding]
      | none =>
          by_cases htarget : row.targetPort > 0
          · rw [findBinding_migrateLegacyBindings_of_needs ⟨hrow, htarget, hbinding⟩,
              rowToAllocation_legacyBinding htarget]
          · rw [findBinding_migrateLegacyBindings_of_not_needs hrow htarget hbinding]

/-!
# Running it again
-/

theorem not_needsBinding_migrateLegacyBindings (db : Database) (row : AllocationRow) :
    ¬ NeedsBinding (migrateLegacyBindings db) row := by
  intro h
  rcases h with ⟨hrow, htarget, hmissing⟩
  cases hbinding : findBinding row.id db with
  | some binding =>
      rw [findBinding_migrateLegacyBindings_of_some hbinding] at hmissing
      cases hmissing
  | none =>
      have hneeds : NeedsBinding db row := ⟨hrow, htarget, hbinding⟩
      rw [findBinding_migrateLegacyBindings_of_needs hneeds] at hmissing
      cases hmissing

theorem legacyBindings_migrateLegacyBindings (db : Database) :
    legacyBindings (migrateLegacyBindings db) = [] := by
  rw [List.eq_nil_iff_forall_not_mem]
  intro binding hbinding
  rcases mem_legacyBindings.mp hbinding with ⟨row, hneeds, _⟩
  exact not_needsBinding_migrateLegacyBindings db row hneeds

/-- The schema adds no data to the two tables. -/
theorem Database.eq_of_tables {db db' : Database} (hallocations : db.allocations = db'.allocations)
    (hbindings : db.bindings = db'.bindings) : db = db' := by
  cases db
  cases db'
  cases hallocations
  cases hbindings
  rfl

theorem migrateLegacyBindings_idem (db : Database) :
    migrateLegacyBindings (migrateLegacyBindings db) = migrateLegacyBindings db := by
  have hbindings : (migrateLegacyBindings (migrateLegacyBindings db)).bindings =
      (migrateLegacyBindings db).bindings := by
    rw [migrateLegacyBindings_bindings, legacyBindings_migrateLegacyBindings,
      List.append_nil]
  exact Database.eq_of_tables rfl hbindings

/-- No reader can tell a migrated database from the one before, nothing in it is lost,
and one run is enough. -/
theorem migration_preserves_meaning (db : Database) :
    (forall id, getAllocation id (migrateLegacyBindings db) = getAllocation id db) ∧
    (migrateLegacyBindings db).allocations = db.allocations ∧
    db.bindings <+: (migrateLegacyBindings db).bindings ∧
    (forall binding, binding ∈ (migrateLegacyBindings db).bindings <->
      binding ∈ db.bindings ∨
        exists row, NeedsBinding db row ∧ binding = legacyBinding row) ∧
    migrateLegacyBindings (migrateLegacyBindings db) = migrateLegacyBindings db := by
  refine ⟨fun id => getAllocation_migrateLegacyBindings id db,
    migrateLegacyBindings_allocations db, List.prefix_append _ _, ?_,
    migrateLegacyBindings_idem db⟩
  intro binding
  exact mem_bindings_migrateLegacyBindings

end Storage
end Relayd
