import Relayd.Storage.Writes

/-!
# Bindings and their legacy mirror

Each binding is stored twice: as a row of its own, and in the target columns of
its allocation, which older versions read.  `Mirrored` says that the two copies
agree and that a cleared binding leaves no positive legacy target behind; this
is what makes the migration of an opened database a no-op.
-/

namespace Relayd
namespace Storage

def MirroredAt : Option AllocationRow -> Option BindingRow -> Prop
  | none, none => True
  | none, some _ => False
  | some row, none => row.targetPort ≤ 0
  | some row, some binding =>
      row.targetPort = binding.targetPort ∧ row.host = binding.host ∧
        row.updatedAtMs = binding.updatedAtMs

def Mirrored (db : Database) : Prop :=
  forall id, MirroredAt (findAllocation id db) (findBinding id db)

theorem mirrored_empty : Mirrored Database.empty := by
  intro id
  exact True.intro

/-!
# Reading the invariant row by row
-/

theorem Mirrored.owned {db : Database} (h : Mirrored db) {binding : BindingRow}
    (hbinding : binding ∈ db.bindings) :
    exists row, row ∈ db.allocations ∧ row.id = binding.allocationId ∧
      row.targetPort = binding.targetPort ∧ row.host = binding.host ∧
      row.updatedAtMs = binding.updatedAtMs := by
  have hat := h binding.allocationId
  rw [findBinding_of_mem hbinding] at hat
  cases hfind : findAllocation binding.allocationId db with
  | none =>
      rw [hfind] at hat
      exact False.elim hat
  | some row =>
      rw [hfind] at hat
      have hrow := findAllocation_some hfind
      exact ⟨row, hrow.left, hrow.right, hat⟩

theorem Mirrored.bound {db : Database} (h : Mirrored db) {row : AllocationRow}
    (hrow : row ∈ db.allocations) (htarget : row.targetPort > 0) :
    exists binding, binding ∈ db.bindings ∧ binding.allocationId = row.id := by
  have hat := h row.id
  rw [findAllocation_of_mem hrow] at hat
  cases hfind : findBinding row.id db with
  | none =>
      rw [hfind] at hat
      have hle : row.targetPort ≤ 0 := hat
      lia
  | some binding => exact ⟨binding, findBinding_some hfind⟩

theorem Mirrored.findBinding_eq_none {db : Database} (h : Mirrored db)
    {id : String} (hid : findAllocation id db = none) :
    findBinding id db = none := by
  have hat := h id
  rw [hid] at hat
  cases hfind : findBinding id db with
  | none => rfl
  | some binding =>
      rw [hfind] at hat
      exact False.elim hat

/-!
# Opening
-/

theorem Mirrored.legacyBindings_eq_nil {db : Database} (h : Mirrored db) :
    legacyBindings db = [] := by
  unfold legacyBindings
  rw [List.map_eq_nil_iff, List.filter_eq_nil_iff]
  intro row hrow hlegacy
  rcases of_decide_eq_true hlegacy with ⟨htarget, hmissing⟩
  rcases h.bound hrow htarget with ⟨binding, hbinding, hid⟩
  exact hmissing (List.mem_map.mpr ⟨binding, hbinding, hid⟩)

theorem Mirrored.openDatabase_bindings {db : Database} (h : Mirrored db) :
    (openDatabase db).bindings = db.bindings := by
  show db.bindings ++ legacyBindings db = db.bindings
  rw [h.legacyBindings_eq_nil, List.append_nil]

theorem openDatabase_allocations (db : Database) :
    (openDatabase db).allocations = db.allocations := rfl

theorem Mirrored.openDatabase {db : Database} (h : Mirrored db) :
    Mirrored (openDatabase db) := by
  intro id
  have hbinding : findBinding id (Storage.openDatabase db) = findBinding id db := by
    unfold findBinding
    rw [h.openDatabase_bindings]
  rw [hbinding]
  exact h id

/-!
# The writers
-/

theorem Mirrored.putBinding {db : Database} (h : Mirrored db)
    {binding : Binding} {row : AllocationRow}
    (hrow : findAllocation binding.allocationId db = some row) :
    Mirrored (putBinding binding db) := by
  intro id
  by_cases hid : id = binding.allocationId
  · rw [hid, findAllocation_putBinding, hrow]
    rcases findBinding_putBinding_self binding db with
      ⟨stored, hstored, hport, hhost, hupdated, _⟩
    rw [hstored, Option.map_some]
    have hself := (findAllocation_some hrow).right
    simp only [setTargetColumns, hself, if_true]
    exact ⟨hport.symm, hhost.symm, hupdated.symm⟩
  · rw [findAllocation_putBinding, map_setTargetColumns_of_ne hid,
      findBinding_putBinding_of_ne hid]
    exact h id

theorem Mirrored.deleteBinding {db : Database} (h : Mirrored db) {id : String}
    {now : Int} {stored : BindingRow} (hstored : findBinding id db = some stored) :
    Mirrored (deleteBinding id now db).2 := by
  intro other
  rw [deleteBinding_snd hstored, findAllocation_updateTargetColumns,
    findAllocation_deleteBindingRows, findBinding_updateTargetColumns,
    findBinding_deleteBindingRows]
  by_cases hid : other = id
  · rw [if_pos hid, hid]
    cases hfind : findAllocation id db with
    | none => exact True.intro
    | some row =>
        have hself := (findAllocation_some hfind).right
        show (setTargetColumns id 0 none now row).targetPort ≤ 0
        simp [setTargetColumns, hself]
  · rw [if_neg hid, map_setTargetColumns_of_ne hid]
    exact h other

theorem Mirrored.deleteAllocation {db : Database} (h : Mirrored db)
    (id : String) : Mirrored (deleteAllocation id db).2 := by
  intro other
  rw [deleteAllocation_snd, findAllocation_deleteAllocationRows,
    findBinding_deleteAllocationRows, findBinding_deleteBindingRows]
  by_cases hid : other = id
  · rw [if_pos hid, if_pos hid]
    exact True.intro
  · rw [if_neg hid, if_neg hid]
    exact h other

/-- A created allocation starts mirrored: without a binding its legacy target is
zero, with one the two copies are written from the same values. -/
theorem Mirrored.inserted {db db' : Database} (h : Mirrored db)
    {allocation : Allocation} {row : AllocationRow} {bindings : List BindingRow}
    (hinserted : Inserted allocation row bindings db db')
    (hmirror : (bindings = [] ∧ row.targetPort ≤ 0) ∨
      exists binding, bindings = [binding] ∧
        binding.allocationId = allocation.id ∧
        MirroredAt (some row) (some binding)) :
    Mirrored db' := by
  have hnone := h.findBinding_eq_none hinserted.findAllocation_fresh
  have hown : forall binding, binding ∈ bindings ->
      binding.allocationId = allocation.id := by
    intro binding hbinding
    rcases hmirror with ⟨hnil, _⟩ | ⟨only, honly, hid, _⟩
    · rw [hnil] at hbinding
      cases hbinding
    · rw [honly] at hbinding
      rw [List.mem_singleton.mp hbinding]
      exact hid
  intro id
  by_cases hid : id = allocation.id
  · rw [hid, hinserted.findAllocation_self]
    unfold findBinding at hnone ⊢
    rw [hinserted.bindings, List.find?_append, hnone]
    rcases hmirror with ⟨hnil, htarget⟩ | ⟨only, honly, hself, hat⟩
    · rw [hnil]
      exact htarget
    · rw [honly]
      simpa [hself] using hat
  · rw [hinserted.findAllocation_of_ne hid, hinserted.findBinding_of_ne hown hid]
    exact h id

end Storage
end Relayd
