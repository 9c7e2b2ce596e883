import Relayd.Storage.Hydration

/-!
# What the writes do

Each write is described once: by the rows it leaves behind, and by what every
id reads as afterwards.  A write to one id never changes what another id reads
as.
-/

namespace Relayd
namespace Storage

open Foundation

/-!
# Inserting
-/

theorem insertAllocationRow_eq_ok {row : AllocationRow} {db db' : Database}
    (h : insertAllocationRow row db = .ok db') :
    (row.id ∉ db.allocations.map AllocationRow.id ∧
      row.protocolPort ∉ db.allocations.map AllocationRow.protocolPort) ∧
      db'.allocations = db.allocations ++ [row] ∧
      db'.bindings = db.bindings := by
  unfold insertAllocationRow at h
  split at h
  · rename_i hfree
    cases h
    exact ⟨hfree, rfl, rfl⟩
  · cases h

theorem insertBindingRow_eq_ok {row : BindingRow} {db db' : Database}
    (h : insertBindingRow row db = .ok db') :
    db'.allocations = db.allocations ∧
      db'.bindings = db.bindings ++ [row] := by
  unfold insertBindingRow at h
  split at h
  · cases h
    exact ⟨rfl, rfl⟩
  · cases h

/-- A created allocation as it is stored: a new row, and a binding row with the
same target when there is a target port. -/
structure Inserted (allocation : Allocation) (row : AllocationRow)
    (bindings : List BindingRow) (db db' : Database) : Prop where
  allocations : db'.allocations = db.allocations ++ [row]
  bindings : db'.bindings = db.bindings ++ bindings
  id : row.id = allocation.id
  fresh : row.id ∉ db.allocations.map AllocationRow.id
  protocol : row.protocol = allocation.protocol.asStr
  port : row.port = i32FromU16 allocation.port
  createdAtMs : row.createdAtMs = allocation.createdAtMs
  updatedAtMs : row.updatedAtMs = allocation.updatedAtMs
  host : row.host = allocation.host

theorem insertAllocation_inserted {allocation : Allocation} {db db' : Database}
    (h : insertAllocation allocation db = .ok db') :
    exists row, Inserted allocation row [] db db' ∧
      row.targetPort = (allocation.targetPort.map i32FromU16).getD 0 := by
  rcases insertAllocationRow_eq_ok h with ⟨hfree, hallocations, hbindings⟩
  refine ⟨_, ⟨hallocations, ?_, rfl, hfree.left, rfl, rfl, rfl, rfl, rfl⟩, rfl⟩
  rw [hbindings, List.append_nil]

theorem insertAllocationWithBinding_inserted {allocation : Allocation}
    {binding : Binding} {db db' : Database}
    (hhost : binding.host = allocation.host)
    (hupdated : binding.updatedAtMs = allocation.updatedAtMs)
    (h : insertAllocationWithBinding allocation binding db = .ok db') :
    exists row bindingRow, Inserted allocation row [bindingRow] db db' ∧
      row.targetPort = i32FromU16 binding.targetPort ∧
      bindingRow =
        { allocationId := allocation.id
          targetPort := i32FromU16 binding.targetPort
          host := binding.host
          createdAtMs := binding.createdAtMs
          updatedAtMs := binding.updatedAtMs } := by
  unfold insertAllocationWithBinding at h
  rcases except_bind_eq_ok.mp h with ⟨mid, hrow, hbinding⟩
  rcases insertAllocationRow_eq_ok hrow with ⟨hfree, hallocations, hbindings⟩
  rcases insertBindingRow_eq_ok hbinding with ⟨hallocations', hbindings'⟩
  refine ⟨_, _, ⟨?_, ?_, rfl, hfree.left, rfl, rfl, rfl, hupdated, hhost⟩, rfl, rfl⟩
  · rw [hallocations', hallocations]
  · rw [hbindings', hbindings]

theorem find?_append_singleton {alpha : Type} {p : alpha -> Bool}
    {xs : List alpha} {x : alpha} :
    (xs ++ [x]).find? p = (xs.find? p).or (if p x then some x else none) := by
  rw [List.find?_append]
  cases hp : p x <;> simp [hp]

theorem Inserted.findAllocation_of_ne {allocation : Allocation}
    {row : AllocationRow} {bindings : List BindingRow} {db db' : Database}
    (h : Inserted allocation row bindings db db') {id : String}
    (hid : id ≠ allocation.id) :
    findAllocation id db' = findAllocation id db := by
  have hne : row.id ≠ id := by
    rw [h.id]
    exact hid.symm
  unfold findAllocation
  rw [h.allocations, find?_append_singleton]
  simp [hne]

theorem Inserted.findAllocation_self {allocation : Allocation}
    {row : AllocationRow} {bindings : List BindingRow} {db db' : Database}
    (h : Inserted allocation row bindings db db') :
    findAllocation allocation.id db' = some row := by
  have hmem : row ∈ db'.allocations := by
    rw [h.allocations]
    exact List.mem_append_right _ (List.mem_singleton.mpr rfl)
  rw [← h.id]
  exact findAllocation_of_mem hmem

theorem Inserted.findAllocation_fresh {allocation : Allocation}
    {row : AllocationRow} {bindings : List BindingRow} {db db' : Database}
    (h : Inserted allocation row bindings db db') :
    findAllocation allocation.id db = none := by
  rw [findAllocation_eq_none]
  intro other hother hid
  rw [← h.id] at hid
  exact h.fresh (List.mem_map.mpr ⟨other, hother, hid⟩)

/-- The bindings a created allocation brings are its own. -/
theorem Inserted.findBinding_of_ne {allocation : Allocation}
    {row : AllocationRow} {bindings : List BindingRow} {db db' : Database}
    (h : Inserted allocation row bindings db db')
    (hown : forall binding, binding ∈ bindings ->
      binding.allocationId = allocation.id) {id : String}
    (hid : id ≠ allocation.id) : findBinding id db' = findBinding id db := by
  have hnone : bindings.find? (fun row => decide (row.allocationId = id)) =
      none := by
    rw [List.find?_eq_none]
    intro binding hbinding
    have hne : binding.allocationId ≠ id := by
      rw [hown binding hbinding]
      exact hid.symm
    simpa using hne
  unfold findBinding
  rw [h.bindings, List.find?_append, hnone, Option.or_none]

/-!
# Binding and unbinding
-/

theorem findAllocation_putBinding (id : String) (binding : Binding)
    (db : Database) :
    findAllocation id (putBinding binding db) =
      (findAllocation id db).map (setTargetColumns binding.allocationId
        (i32FromU16 binding.targetPort) binding.host binding.updatedAtMs) := by
  unfold putBinding
  simp

theorem setTargetColumns_of_ne {id : String} {targetPort : Int}
    {host : Option String} {updatedAtMs : Int} {row : AllocationRow}
    (h : row.id ≠ id) :
    setTargetColumns id targetPort host updatedAtMs row = row :=
  if_neg h

theorem map_setTargetColumns_of_ne {id target : String} {targetPort : Int}
    {host : Option String} {updatedAtMs : Int} {db : Database}
    (h : id ≠ target) :
    (findAllocation id db).map
        (setTargetColumns target targetPort host updatedAtMs) =
      findAllocation id db := by
  cases hfind : findAllocation id db with
  | none => rfl
  | some row =>
      have hid := (findAllocation_some hfind).right
      rw [Option.map_some, setTargetColumns_of_ne (by rw [hid]; exact h)]

theorem findBinding_putBinding_of_ne {id : String} {binding : Binding}
    {db : Database} (h : id ≠ binding.allocationId) :
    findBinding id (putBinding binding db) = findBinding id db := by
  unfold putBinding
  rw [findBinding_updateTargetColumns]
  exact findBinding_upsertBindingRow_of_ne h.symm

theorem getAllocation_putBinding_of_ne {id : String} {binding : Binding}
    {db : Database} (h : id ≠ binding.allocationId) :
    getAllocation id (putBinding binding db) = getAllocation id db := by
  apply getAllocation_congr
  · rw [findAllocation_putBinding, map_setTargetColumns_of_ne h]
  · exact findBinding_putBinding_of_ne h

/-- The binding row left by a put: the written target, and the creation time of
the row it replaced when there was one. -/
theorem findBinding_putBinding_self (binding : Binding) (db : Database) :
    exists stored,
      findBinding binding.allocationId (putBinding binding db) = some stored ∧
      stored.targetPort = i32FromU16 binding.targetPort ∧
      stored.host = binding.host ∧
      stored.updatedAtMs = binding.updatedAtMs ∧
      stored.createdAtMs =
        ((findBinding binding.allocationId db).map BindingRow.createdAtMs).getD
          binding.createdAtMs := by
  unfold putBinding
  rw [findBinding_updateTargetColumns]
  have hself := findBinding_upsertBindingRow_self
    { allocationId := binding.allocationId
      targetPort := i32FromU16 binding.targetPort
      host := binding.host
      createdAtMs := binding.createdAtMs
      updatedAtMs := binding.updatedAtMs } db
  refine ⟨_, hself, ?_⟩
  cases hfind : findBinding binding.allocationId db with
  | none => exact ⟨rfl, rfl, rfl, rfl⟩
  | some existing =>
      have hid := (findBinding_some hfind).right
      simp [mergeBinding, hid]

theorem getAllocation_putBinding_self {binding : Binding} {db : Database}
    {allocation : Allocation}
    (h : getAllocation binding.allocationId db = .ok (some allocation)) :
    getAllocation binding.allocationId (putBinding binding db) =
      .ok (some
        { allocation with
          targetPort := some binding.targetPort
          host := binding.host
          updatedAtMs := binding.updatedAtMs }) := by
  rcases getAllocation_eq_some.mp h with ⟨row, hrow, hhydrates⟩
  rcases findBinding_putBinding_self binding db with
    ⟨stored, hstored, hport, hhost, _⟩
  have hid := (findAllocation_some hrow).right
  rw [getAllocation_eq_some, findAllocation_putBinding, hrow, hstored]
  refine ⟨_, rfl, ?_⟩
  simp only [setTargetColumns, hid, if_true]
  exact
    { id := hhydrates.id.trans hid
      protocol := hhydrates.protocol
      port := hhydrates.port
      targetPort := by simp [TargetPortOf, hport]
      host := by simp [hhost]
      createdAtMs := hhydrates.createdAtMs
      updatedAtMs := rfl }

/-- A put reads back with the creation time of the row it replaced, if there was one. -/
theorem getBinding_putBinding_self {binding : Binding} {existing : Option Binding}
    {db : Database} (h : getBinding binding.allocationId db = .ok existing)
    (hcreated : forall old, existing = some old -> binding.createdAtMs = old.createdAtMs) :
    getBinding binding.allocationId (putBinding binding db) = .ok (some binding) := by
  rcases findBinding_putBinding_self binding db with
    ⟨stored, hstored, hport, hhost, hupdated, hstoredAt⟩
  have hid := (findBinding_some hstored).right
  have hkept : binding.createdAtMs = stored.createdAtMs := by
    have hdecodes := getBinding_eq_ok.mp h
    rw [hstoredAt]
    cases hfind : findBinding binding.allocationId db with
    | none => rfl
    | some row =>
        rw [hfind] at hdecodes
        cases hdecodes with
        | some hold => exact (hcreated _ rfl).trans hold.createdAtMs
  rw [getBinding_eq_ok, hstored]
  exact Option.Rel.some ⟨hid.symm, hport.symm, hhost.symm, hkept, hupdated.symm⟩

theorem deleteBinding_fst {id : String} {now : Int} {db : Database}
    {row : BindingRow} (h : findBinding id db = some row) :
    (deleteBinding id now db).1 = true := by
  have hrow := findBinding_some h
  have hany : db.bindings.any (fun row => row.allocationId = id) = true :=
    List.any_eq_true.mpr ⟨row, hrow.left, decide_eq_true hrow.right⟩
  simp [deleteBinding, hany]

theorem deleteBinding_snd {id : String} {now : Int} {db : Database}
    {row : BindingRow} (h : findBinding id db = some row) :
    (deleteBinding id now db).2 =
      updateTargetColumns id 0 none now (deleteBindingRows id db) := by
  have hrow := findBinding_some h
  have hany : db.bindings.any (fun row => row.allocationId = id) = true :=
    List.any_eq_true.mpr ⟨row, hrow.left, decide_eq_true hrow.right⟩
  simp [deleteBinding, hany]

theorem getAllocation_deleteBinding_of_ne {id target : String} {now : Int}
    {db : Database} {row : BindingRow} (hrow : findBinding target db = some row)
    (h : id ≠ target) :
    getAllocation id (deleteBinding target now db).2 = getAllocation id db := by
  rw [deleteBinding_snd hrow]
  apply getAllocation_congr
  · rw [findAllocation_updateTargetColumns, findAllocation_deleteBindingRows,
      map_setTargetColumns_of_ne h]
  · rw [findBinding_updateTargetColumns, findBinding_deleteBindingRows, if_neg h]

theorem getAllocation_deleteBinding_self {id : String} {now : Int}
    {db : Database} {row : BindingRow} {allocation : Allocation}
    (hrow : findBinding id db = some row)
    (h : getAllocation id db = .ok (some allocation)) :
    getAllocation id (deleteBinding id now db).2 =
      .ok (some
        { allocation with targetPort := none, host := none, updatedAtMs := now }) := by
  rcases getAllocation_eq_some.mp h with ⟨stored, hstored, hhydrates⟩
  have hid := (findAllocation_some hstored).right
  rw [deleteBinding_snd hrow, getAllocation_eq_some,
    findAllocation_updateTargetColumns, findAllocation_deleteBindingRows,
    findBinding_updateTargetColumns, findBinding_deleteBindingRows, hstored,
    if_pos rfl]
  refine ⟨_, rfl, ?_⟩
  simp only [setTargetColumns, hid, if_true]
  exact
    { id := hhydrates.id.trans hid
      protocol := hhydrates.protocol
      port := hhydrates.port
      targetPort := by simp [TargetPortOf]
      host := rfl
      createdAtMs := hhydrates.createdAtMs
      updatedAtMs := rfl }

/-!
# Deleting an allocation
-/

theorem deleteAllocation_snd (id : String) (db : Database) :
    (deleteAllocation id db).2 =
      deleteAllocationRows id (deleteBindingRows id db) := rfl

theorem deleteAllocation_fst {id : String} {db : Database} {row : AllocationRow}
    (h : findAllocation id db = some row) :
    (deleteAllocation id db).1 = true := by
  have hrow := findAllocation_some h
  exact List.any_eq_true.mpr ⟨row, hrow.left, decide_eq_true hrow.right⟩

theorem getAllocation_deleteAllocation_of_ne {id target : String}
    {db : Database} (h : id ≠ target) :
    getAllocation id (deleteAllocation target db).2 = getAllocation id db := by
  rw [deleteAllocation_snd]
  apply getAllocation_congr
  · rw [findAllocation_deleteAllocationRows, if_neg h,
      findAllocation_deleteBindingRows]
  · rw [findBinding_deleteAllocationRows, findBinding_deleteBindingRows, if_neg h]

theorem getAllocation_deleteAllocation_self (id : String) (db : Database) :
    getAllocation id (deleteAllocation id db).2 = .ok none := by
  rw [getAllocation_eq_none, deleteAllocation_snd,
    findAllocation_deleteAllocationRows, if_pos rfl]

/-!
# Key columns

No write changes the id, protocol or port of a row that exists.
-/

def SameKeys (row row' : AllocationRow) : Prop :=
  row'.id = row.id ∧ row'.protocol = row.protocol ∧ row'.port = row.port

/-- Every row was there before, with the same key columns. -/
def KeysFrom (db db' : Database) : Prop :=
  forall row', row' ∈ db'.allocations ->
    exists row, row ∈ db.allocations ∧ SameKeys row row'

theorem allocations_putBinding (binding : Binding) (db : Database) :
    (putBinding binding db).allocations =
      db.allocations.map (setTargetColumns binding.allocationId
        (i32FromU16 binding.targetPort) binding.host binding.updatedAtMs) := by
  unfold putBinding upsertBindingRow
  split <;> rfl

theorem keysFrom_map_setTargetColumns {id : String} {targetPort : Int}
    {host : Option String} {updatedAtMs : Int} {db db' : Database}
    (h : db'.allocations =
      db.allocations.map (setTargetColumns id targetPort host updatedAtMs)) :
    KeysFrom db db' := by
  intro row' hrow'
  rw [h] at hrow'
  rcases List.mem_map.mp hrow' with ⟨row, hrow, rfl⟩
  exact ⟨row, hrow, by simp [SameKeys]⟩

theorem keysFrom_putBinding (binding : Binding) (db : Database) :
    KeysFrom db (putBinding binding db) :=
  keysFrom_map_setTargetColumns (allocations_putBinding binding db)

theorem keysFrom_deleteBinding (id : String) (now : Int) (db : Database) :
    KeysFrom db (deleteBinding id now db).2 := by
  unfold deleteBinding
  cases db.bindings.any (fun row => row.allocationId = id) with
  | true => exact keysFrom_map_setTargetColumns rfl
  | false =>
      intro row hrow
      exact ⟨row, hrow, rfl, rfl, rfl⟩

theorem keysFrom_deleteAllocation (id : String) (db : Database) :
    KeysFrom db (deleteAllocation id db).2 := by
  intro row hrow
  exact ⟨row, (List.mem_filter.mp hrow).left, rfl, rfl, rfl⟩

end Storage
end Relayd
