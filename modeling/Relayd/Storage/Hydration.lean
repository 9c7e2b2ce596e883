import Relayd.Foundation.Fallible
import Relayd.Storage.PortScan

/-!
# Reading rows back

An allocation is assembled from its row and, when there is one, its binding row.
`Hydrates` says which allocation a pair of rows stands for; the three readers of
the repository all compute it.  The second half says what every write does to
the assembled allocation of every id.
-/

namespace Relayd
namespace Storage

open Foundation

/-!
# Lookups after a statement
-/

theorem findAllocation_some {id : String} {db : Database} {row : AllocationRow}
    (h : findAllocation id db = some row) :
    row ∈ db.allocations ∧ row.id = id := by
  constructor
  · exact List.mem_of_find?_eq_some h
  · simpa using List.find?_some h

theorem findBinding_some {id : String} {db : Database} {row : BindingRow}
    (h : findBinding id db = some row) :
    row ∈ db.bindings ∧ row.allocationId = id := by
  constructor
  · exact List.mem_of_find?_eq_some h
  · simpa using List.find?_some h

theorem findAllocation_eq_none {id : String} {db : Database} :
    findAllocation id db = none <->
      forall row, row ∈ db.allocations -> row.id ≠ id := by
  simp [findAllocation]

theorem findBinding_eq_none {id : String} {db : Database} :
    findBinding id db = none <->
      forall row, row ∈ db.bindings -> row.allocationId ≠ id := by
  simp [findBinding]

theorem find?_of_mem_nodup {alpha : Type} {key : alpha -> String}
    {xs : List alpha} {x : alpha} (hnodup : (xs.map key).Nodup) (hx : x ∈ xs) :
    xs.find? (fun y => key y = key x) = some x := by
  induction xs with
  | nil => cases hx
  | cons y rest ih =>
      rw [List.map_cons, List.nodup_cons] at hnodup
      rcases List.mem_cons.mp hx with rfl | hrest
      · simp
      · have hne : key y ≠ key x := by
          intro hkey
          exact hnodup.left (hkey ▸ List.mem_map_of_mem hrest)
        rw [List.find?_cons_of_neg (by simpa using hne)]
        exact ih hnodup.right hrest

/-- Ids are primary keys: a row is the one its id finds. -/
theorem findAllocation_of_mem {db : Database} {row : AllocationRow}
    (h : row ∈ db.allocations) : findAllocation row.id db = some row :=
  find?_of_mem_nodup db.allocationIds h

theorem findBinding_of_mem {db : Database} {row : BindingRow}
    (h : row ∈ db.bindings) : findBinding row.allocationId db = some row :=
  find?_of_mem_nodup db.bindingIds h

@[simp] theorem findAllocation_updateTargetColumns (id target : String)
    (targetPort : Int) (host : Option String) (updatedAtMs : Int)
    (db : Database) :
    findAllocation id (updateTargetColumns target targetPort host updatedAtMs db) =
      (findAllocation id db).map
        (setTargetColumns target targetPort host updatedAtMs) := by
  have hid : (fun row : AllocationRow => decide (row.id = id)) ∘
      setTargetColumns target targetPort host updatedAtMs = fun row => decide (row.id = id) := by
    funext row
    exact congrArg (fun found => decide (found = id)) (setTargetColumns_id ..)
  unfold findAllocation updateTargetColumns
  rw [List.find?_map, hid]

@[simp] theorem findBinding_updateTargetColumns (id target : String)
    (targetPort : Int) (host : Option String) (updatedAtMs : Int)
    (db : Database) :
    findBinding id (updateTargetColumns target targetPort host updatedAtMs db) =
      findBinding id db := rfl

@[simp] theorem findAllocation_upsertBindingRow (id : String) (row : BindingRow)
    (db : Database) :
    findAllocation id (upsertBindingRow row db) = findAllocation id db := by
  unfold upsertBindingRow
  split <;> rfl

theorem findBinding_upsertBindingRow_of_ne {id : String} {row : BindingRow}
    {db : Database} (h : row.allocationId ≠ id) :
    findBinding id (upsertBindingRow row db) = findBinding id db := by
  unfold upsertBindingRow findBinding
  split
  · simp only [List.find?_map, Function.comp_def, mergeBinding_allocationId]
    cases hfind : db.bindings.find?
        (fun existing => decide (existing.allocationId = id)) with
    | none => rfl
    | some existing =>
        have hid : existing.allocationId = id := by
          simpa using List.find?_some hfind
        have hne : existing.allocationId ≠ row.allocationId := by
          intro heq
          exact h (heq.symm.trans hid)
        simp [mergeBinding, hne]
  · simp [h]

/-- An upserted binding has the written target; the creation time is the old
one when the row existed. -/
theorem findBinding_upsertBindingRow_self (row : BindingRow) (db : Database) :
    findBinding row.allocationId (upsertBindingRow row db) =
      some (((findBinding row.allocationId db).map (mergeBinding row)).getD
        row) := by
  unfold upsertBindingRow
  split
  · rename_i hmem
    rcases List.mem_map.mp hmem with ⟨existing, hexisting, hid⟩
    have hfind := findBinding_of_mem hexisting
    rw [hid] at hfind
    rw [hfind]
    unfold findBinding at hfind ⊢
    simp only [List.find?_map, Function.comp_def, mergeBinding_allocationId]
    rw [hfind]
    rfl
  · rename_i hmem
    have hnone : findBinding row.allocationId db = none := by
      rw [findBinding_eq_none]
      intro existing hexisting heq
      exact hmem (List.mem_map.mpr ⟨existing, hexisting, heq⟩)
    rw [hnone]
    unfold findBinding at hnone ⊢
    rw [List.find?_append, hnone]
    simp

@[simp] theorem findAllocation_deleteBindingRows (id target : String)
    (db : Database) :
    findAllocation id (deleteBindingRows target db) = findAllocation id db := rfl

@[simp] theorem findBinding_deleteAllocationRows (id target : String)
    (db : Database) :
    findBinding id (deleteAllocationRows target db) = findBinding id db := rfl

/-- What is left of a table without the rows of one key. -/
theorem find?_filter_key {row : Type} (key : row -> String) (id target : String)
    (rows : List row) :
    (rows.filter (fun row => key row ≠ target)).find? (fun row => key row = id) =
      if id = target then none else rows.find? (fun row => key row = id) := by
  by_cases h : id = target
  · rw [if_pos h, List.find?_eq_none]
    intro row hrow
    have hne := of_decide_eq_true (List.mem_filter.mp hrow).right
    simpa [h] using hne
  · rw [if_neg h, List.find?_filter]
    congr 1
    funext row
    by_cases hrow : key row = id <;> simp [hrow, h]

theorem findBinding_deleteBindingRows (id target : String) (db : Database) :
    findBinding id (deleteBindingRows target db) =
      if id = target then none else findBinding id db :=
  find?_filter_key BindingRow.allocationId id target db.bindings

theorem findAllocation_deleteAllocationRows (id target : String)
    (db : Database) :
    findAllocation id (deleteAllocationRows target db) =
      if id = target then none else findAllocation id db :=
  find?_filter_key AllocationRow.id id target db.allocations

/-!
# The assembled allocation
-/

/-- The target port a row stands for: the binding's, else a positive legacy
column, else none. -/
def TargetPortOf (row : AllocationRow) (binding : Option BindingRow)
    (targetPort : Option UInt16) : Prop :=
  match binding with
  | some binding => targetPort.map i32FromU16 = some binding.targetPort
  | none =>
      if row.targetPort > 0 then targetPort.map i32FromU16 = some row.targetPort
      else targetPort = none

structure Hydrates (row : AllocationRow) (binding : Option BindingRow)
    (allocation : Allocation) : Prop where
  id : allocation.id = row.id
  protocol : Protocol.fromStr row.protocol = .ok allocation.protocol
  port : i32FromU16 allocation.port = row.port
  targetPort : TargetPortOf row binding allocation.targetPort
  host : allocation.host = (binding.bind BindingRow.host).or row.host
  createdAtMs : allocation.createdAtMs = row.createdAtMs
  updatedAtMs : allocation.updatedAtMs = row.updatedAtMs

theorem parseProtocolColumn_eq_ok {text : String} {protocol : Protocol} :
    parseProtocolColumn text = .ok protocol <->
      Protocol.fromStr text = .ok protocol := by
  unfold parseProtocolColumn
  cases Protocol.fromStr text <;> simp

theorem some_portFromI32_eq_ok {field : String} {value : Int}
    {targetPort : Option UInt16} :
    (some <$> portFromI32 field value) = .ok targetPort <->
      targetPort.map i32FromU16 = some value := by
  rw [except_map_eq_ok]
  constructor
  · intro h
    rcases h with ⟨port, hport, rfl⟩
    rw [Option.map_some, portFromI32_eq_ok.mp hport]
  · intro h
    cases targetPort with
    | none => cases h
    | some port =>
        exact ⟨port, portFromI32_eq_ok.mpr (Option.some.inj h), rfl⟩

theorem legacyTargetPort_eq_ok {row : AllocationRow}
    {targetPort : Option UInt16} :
    legacyTargetPort row.targetPort = .ok targetPort <->
      TargetPortOf row none targetPort := by
  unfold legacyTargetPort TargetPortOf
  split
  · exact some_portFromI32_eq_ok
  · constructor
    · intro h
      cases h
      rfl
    · intro h
      rw [h]

theorem joinedTargetPort_eq_ok {row : AllocationRow}
    {binding : Option BindingRow} {targetPort : Option UInt16} :
    joinedTargetPort (binding.map BindingRow.targetPort) row.targetPort =
        .ok targetPort <-> TargetPortOf row binding targetPort := by
  cases binding with
  | some binding => exact some_portFromI32_eq_ok
  | none => exact legacyTargetPort_eq_ok

theorem rowToAllocation_eq_ok {row : AllocationRow}
    {binding : Option BindingRow} {allocation : Allocation} :
    rowToAllocation (allocationJoinRow row binding) = .ok allocation <->
      Hydrates row binding allocation := by
  unfold rowToAllocation
  simp only [except_bind_eq_ok]
  constructor
  · intro h
    rcases h with ⟨targetPort, htarget, protocol, hprotocol, port, hport, h⟩
    cases h
    exact
      { id := rfl
        protocol := parseProtocolColumn_eq_ok.mp hprotocol
        port := portFromI32_eq_ok.mp hport
        targetPort := joinedTargetPort_eq_ok.mp htarget
        host := rfl
        createdAtMs := rfl
        updatedAtMs := rfl }
  · intro h
    refine ⟨allocation.targetPort, joinedTargetPort_eq_ok.mpr h.targetPort,
      allocation.protocol, parseProtocolColumn_eq_ok.mpr h.protocol,
      allocation.port, portFromI32_eq_ok.mpr h.port, ?_⟩
    rcases h with ⟨hid, _, _, _, hhost, hcreated, hupdated⟩
    cases allocation
    simp_all [allocationJoinRow]

theorem modelToAllocation_eq_ok {row : AllocationRow}
    {binding : Option BindingRow} {allocation : Allocation} :
    modelToAllocation row binding = .ok allocation <->
      Hydrates row binding allocation := by
  unfold modelToAllocation
  simp only [except_bind_eq_ok]
  constructor
  · intro h
    rcases h with ⟨protocol, hprotocol, port, hport, targetPort, htarget, h⟩
    cases h
    exact
      { id := rfl
        protocol := parseProtocolColumn_eq_ok.mp hprotocol
        port := portFromI32_eq_ok.mp hport
        targetPort := joinedTargetPort_eq_ok.mp htarget
        host := rfl
        createdAtMs := rfl
        updatedAtMs := rfl }
  · intro h
    refine ⟨allocation.protocol, parseProtocolColumn_eq_ok.mpr h.protocol,
      allocation.port, portFromI32_eq_ok.mpr h.port, allocation.targetPort,
      joinedTargetPort_eq_ok.mpr h.targetPort, ?_⟩
    rcases h with ⟨hid, _, _, _, hhost, hcreated, hupdated⟩
    cases allocation
    simp_all

/-- The binding a binding row stands for. -/
structure DecodesBinding (row : BindingRow) (binding : Binding) : Prop where
  allocationId : binding.allocationId = row.allocationId
  targetPort : i32FromU16 binding.targetPort = row.targetPort
  host : binding.host = row.host
  createdAtMs : binding.createdAtMs = row.createdAtMs
  updatedAtMs : binding.updatedAtMs = row.updatedAtMs

theorem joinedBinding_eq_ok {row : AllocationRow} {binding : Option BindingRow}
    {joined : Option Binding} :
    joinedBinding (allocationBindingJoinRow row binding) = .ok joined <->
      Option.Rel DecodesBinding binding joined := by
  unfold joinedBinding
  cases binding with
  | none =>
      constructor
      · intro h
        cases h
        exact Option.Rel.none
      · intro h
        cases h
        rfl
  | some stored =>
      show (portFromI32 "binding.target_port" stored.targetPort >>= _) = _ <-> _
      rw [except_bind_eq_ok]
      constructor
      · intro h
        rcases h with ⟨targetPort, hport, h⟩
        cases h
        exact Option.Rel.some
          { allocationId := rfl
            targetPort := portFromI32_eq_ok.mp hport
            host := rfl
            createdAtMs := rfl
            updatedAtMs := rfl }
      · intro h
        cases h with
        | some h =>
            rename_i binding
            refine ⟨binding.targetPort, portFromI32_eq_ok.mpr h.targetPort, ?_⟩
            rcases h with ⟨hid, _, hhost, hcreated, hupdated⟩
            cases binding
            simp_all [allocationBindingJoinRow]

theorem boundTargetPort_eq_ok {row : AllocationRow}
    {binding : Option BindingRow} {joined : Option Binding}
    {targetPort : Option UInt16} (h : Option.Rel DecodesBinding binding joined) :
    boundTargetPort joined row.targetPort = .ok targetPort <->
      TargetPortOf row binding targetPort := by
  cases h with
  | none => exact legacyTargetPort_eq_ok
  | some h =>
      rename_i stored binding
      unfold boundTargetPort TargetPortOf
      constructor
      · intro hport
        cases hport
        rw [Option.map_some, h.targetPort]
      · intro hport
        cases targetPort with
        | none => cases hport
        | some port =>
            have heq : i32FromU16 port = i32FromU16 binding.targetPort := by
              rw [h.targetPort]
              exact Option.some.inj hport
            rw [i32FromU16_inj.mp heq]

theorem bind_host_of_decodes {binding : Option BindingRow}
    {joined : Option Binding} (h : Option.Rel DecodesBinding binding joined) :
    joined.bind Binding.host = binding.bind BindingRow.host := by
  cases h with
  | none => rfl
  | some h => exact h.host

theorem rowToAllocationWithBinding_eq_ok {row : AllocationRow}
    {binding : Option BindingRow} {allocation : Allocation}
    {joined : Option Binding} :
    rowToAllocationWithBinding (allocationBindingJoinRow row binding) =
        .ok (allocation, joined) <->
      Hydrates row binding allocation ∧
        Option.Rel DecodesBinding binding joined := by
  unfold rowToAllocationWithBinding
  simp only [except_bind_eq_ok]
  constructor
  · intro h
    rcases h with ⟨found, hfound, targetPort, htarget, protocol, hprotocol, port, hport, h⟩
    cases h
    have hdecodes := joinedBinding_eq_ok.mp hfound
    refine ⟨?_, hdecodes⟩
    exact
      { id := rfl
        protocol := parseProtocolColumn_eq_ok.mp hprotocol
        port := portFromI32_eq_ok.mp hport
        targetPort := (boundTargetPort_eq_ok hdecodes).mp htarget
        host := by rw [bind_host_of_decodes hdecodes]; rfl
        createdAtMs := rfl
        updatedAtMs := rfl }
  · intro h
    rcases h with ⟨h, hdecodes⟩
    refine ⟨joined, joinedBinding_eq_ok.mpr hdecodes, allocation.targetPort,
      (boundTargetPort_eq_ok hdecodes).mpr h.targetPort, allocation.protocol,
      parseProtocolColumn_eq_ok.mpr h.protocol, allocation.port,
      portFromI32_eq_ok.mpr h.port, ?_⟩
    rw [bind_host_of_decodes hdecodes]
    rcases h with ⟨hid, _, _, _, hhost, hcreated, hupdated⟩
    cases allocation
    simp_all [allocationBindingJoinRow]

/-!
# Readers by id
-/

theorem getAllocation_eq_some {id : String} {db : Database}
    {allocation : Allocation} :
    getAllocation id db = .ok (some allocation) <->
      exists row, findAllocation id db = some row ∧
        Hydrates row (findBinding id db) allocation := by
  unfold getAllocation
  cases hfind : findAllocation id db with
  | none => simp
  | some row =>
      have hid := (findAllocation_some hfind).right
      simp only [except_map_eq_ok, rowToAllocation_eq_ok, hid]
      constructor
      · intro h
        rcases h with ⟨found, hfound, h⟩
        cases h
        exact ⟨row, rfl, hfound⟩
      · intro h
        rcases h with ⟨row', hrow, h⟩
        cases hrow
        exact ⟨allocation, h, rfl⟩

theorem getAllocation_eq_none {id : String} {db : Database} :
    getAllocation id db = .ok none <-> findAllocation id db = none := by
  unfold getAllocation
  cases hfind : findAllocation id db with
  | none => simp
  | some row => simp [except_map_eq_ok]

theorem getAllocationWithBinding_eq_some {id : String} {db : Database}
    {allocation : Allocation} {joined : Option Binding} :
    getAllocationWithBinding id db = .ok (some (allocation, joined)) <->
      exists row, findAllocation id db = some row ∧
        Hydrates row (findBinding id db) allocation ∧
        Option.Rel DecodesBinding (findBinding id db) joined := by
  unfold getAllocationWithBinding
  cases hfind : findAllocation id db with
  | none => simp
  | some row =>
      have hid := (findAllocation_some hfind).right
      simp only [except_map_eq_ok, hid]
      constructor
      · intro h
        rcases h with ⟨found, hfound, h⟩
        cases h
        exact ⟨row, rfl, rowToAllocationWithBinding_eq_ok.mp hfound⟩
      · intro h
        rcases h with ⟨row', hrow, h⟩
        cases hrow
        exact ⟨_, rowToAllocationWithBinding_eq_ok.mpr h, rfl⟩

theorem findAllocation_of_getAllocationWithBinding {id : String} {db : Database}
    {allocation : Allocation} {joined : Option Binding}
    (h : getAllocationWithBinding id db = .ok (some (allocation, joined))) :
    exists row, findAllocation id db = some row := by
  rcases getAllocationWithBinding_eq_some.mp h with ⟨row, hrow, _⟩
  exact ⟨row, hrow⟩

theorem findBinding_of_getAllocationWithBinding {id : String} {db : Database}
    {allocation : Allocation} {existing : Binding}
    (h : getAllocationWithBinding id db = .ok (some (allocation, some existing))) :
    exists stored, findBinding id db = some stored := by
  rcases getAllocationWithBinding_eq_some.mp h with ⟨_, _, _, hrel⟩
  cases hstored : findBinding id db with
  | none =>
      rw [hstored] at hrel
      cases hrel
  | some stored => exact ⟨stored, rfl⟩

/-- The join with the binding columns finds the allocation the plain join
finds. -/
theorem getAllocation_of_getAllocationWithBinding {id : String} {db : Database}
    {allocation : Allocation} {joined : Option Binding}
    (h : getAllocationWithBinding id db = .ok (some (allocation, joined))) :
    getAllocation id db = .ok (some allocation) := by
  rcases getAllocationWithBinding_eq_some.mp h with ⟨row, hrow, hhydrates, _⟩
  exact getAllocation_eq_some.mpr ⟨row, hrow, hhydrates⟩

theorem getAllocation_id {id : String} {db : Database} {allocation : Allocation}
    (h : getAllocation id db = .ok (some allocation)) : allocation.id = id := by
  rcases getAllocation_eq_some.mp h with ⟨row, hrow, hhydrates⟩
  rw [hhydrates.id]
  exact (findAllocation_some hrow).right

/-- Readers depend on nothing but the two rows of their id. -/
theorem getAllocation_congr {id : String} {db db' : Database}
    (hrow : findAllocation id db' = findAllocation id db)
    (hbinding : findBinding id db' = findBinding id db) :
    getAllocation id db' = getAllocation id db := by
  unfold getAllocation
  rw [hrow]
  cases hfind : findAllocation id db with
  | none => rfl
  | some row =>
      have hid := (findAllocation_some hfind).right
      simp only [hid, hbinding]

/-- The plain binding query decodes like the joined columns, whichever allocation row
they are joined to. -/
theorem getBinding_eq_joinedBinding (row : AllocationRow) (id : String) (db : Database) :
    getBinding id db = joinedBinding (allocationBindingJoinRow row (findBinding id db)) := by
  unfold getBinding joinedBinding
  cases findBinding id db with
  | none => rfl
  | some stored => rfl

theorem getBinding_eq_ok {id : String} {db : Database} {joined : Option Binding} :
    getBinding id db = .ok joined <->
      Option.Rel DecodesBinding (findBinding id db) joined := by
  rw [getBinding_eq_joinedBinding ⟨id, "", 0, 0, none, 0, 0⟩]
  exact joinedBinding_eq_ok

theorem getBinding_of_getAllocationWithBinding {id : String} {db : Database}
    {allocation : Allocation} {joined : Option Binding}
    (h : getAllocationWithBinding id db = .ok (some (allocation, joined))) :
    getBinding id db = .ok joined := by
  rcases getAllocationWithBinding_eq_some.mp h with ⟨_, _, _, hdecodes⟩
  exact getBinding_eq_ok.mpr hdecodes

/-- A bound allocation has the target of its binding; the host of a binding that has one
stands for the allocation's own. -/
theorem target_of_getAllocationWithBinding {id : String} {db : Database}
    {allocation : Allocation} {joined : Option Binding}
    (h : getAllocationWithBinding id db = .ok (some (allocation, joined))) :
    (forall binding, joined = some binding ->
      allocation.targetPort = some binding.targetPort) ∧
    (joined.bind Binding.host).or allocation.host = allocation.host := by
  rcases getAllocationWithBinding_eq_some.mp h with ⟨row, _, hhydrates, hdecodes⟩
  constructor
  · intro binding hjoined
    have htarget := (boundTargetPort_eq_ok hdecodes).mpr hhydrates.targetPort
    rw [hjoined] at htarget
    exact (Except.ok.inj htarget).symm
  · rw [bind_host_of_decodes hdecodes, hhydrates.host, <- Option.or_assoc, Option.or_self]

theorem getBinding_congr {id : String} {db db' : Database}
    (hbinding : findBinding id db' = findBinding id db) :
    getBinding id db' = getBinding id db := by
  unfold getBinding
  rw [hbinding]

/-!
# The listing

A listing is the table of what each id reads as, in the order of the query.
-/

theorem exists_left_of_forall₂ {alpha beta : Type} {related : alpha -> beta -> Prop}
    {xs : List alpha} {ys : List beta} (h : List.Forall₂ related xs ys) {y : beta}
    (hy : y ∈ ys) : exists x, x ∈ xs ∧ related x y := by
  induction h with
  | nil => cases hy
  | cons hhead _ ih =>
      rcases List.mem_cons.mp hy with rfl | htail
      · exact ⟨_, List.mem_cons_self, hhead⟩
      · rcases ih htail with ⟨x, hx, hrelated⟩
        exact ⟨x, List.mem_cons_of_mem _ hx, hrelated⟩

theorem ids_of_hydrates {rows : List AllocationRow} {db : Database}
    {allocations : List Allocation}
    (h : List.Forall₂ (fun row allocation =>
      Hydrates row (findBinding row.id db) allocation) rows allocations) :
    allocations.map Allocation.id = rows.map AllocationRow.id := by
  induction h with
  | nil => rfl
  | cons hhead _ ih => rw [List.map_cons, List.map_cons, ih, hhead.id]

section Listing

variable {db : Database} {allocations : List Allocation}
  (h : listAllocations db = .ok allocations)

include h

theorem listAllocations_hydrates :
    List.Forall₂ (fun row allocation =>
        Hydrates row (findBinding row.id db) allocation)
      (db.allocations.insertionSort AllocationRow.listedBefore) allocations := by
  apply (mapM_eq_ok.mp h).imp
  intro row allocation hrow
  exact modelToAllocation_eq_ok.mp hrow

theorem listAllocations_ids :
    (allocations.map Allocation.id).Perm (db.allocations.map AllocationRow.id) := by
  rw [ids_of_hydrates (listAllocations_hydrates h)]
  exact (List.perm_insertionSort AllocationRow.listedBefore db.allocations).map _

theorem listAllocations_nodup : (allocations.map Allocation.id).Nodup :=
  (listAllocations_ids h).nodup_iff.mpr db.allocationIds

theorem getAllocation_of_mem_listAllocations {allocation : Allocation}
    (hmem : allocation ∈ allocations) :
    getAllocation allocation.id db = .ok (some allocation) := by
  rcases exists_left_of_forall₂ (listAllocations_hydrates h) hmem with
    ⟨row, hrow, hhydrates⟩
  have hstored : row ∈ db.allocations := (List.mem_insertionSort _).mp hrow
  rw [getAllocation_eq_some, hhydrates.id]
  exact ⟨row, findAllocation_of_mem hstored, hhydrates⟩

theorem getAllocation_of_notMem_listAllocations {id : String}
    (hid : id ∉ allocations.map Allocation.id) : getAllocation id db = .ok none := by
  rw [getAllocation_eq_none, findAllocation_eq_none]
  intro row hrow hself
  rw [(listAllocations_ids h).mem_iff] at hid
  exact hid (List.mem_map.mpr ⟨row, hrow, hself⟩)

/-- A listing, read as a map, is what each id reads as. -/
theorem getAllocation_eq_find? (id : String) :
    getAllocation id db =
      .ok (allocations.find? (fun allocation => allocation.id = id)) := by
  cases hfind : allocations.find? (fun allocation => allocation.id = id) with
  | none =>
      apply getAllocation_of_notMem_listAllocations h
      intro hmem
      rcases List.mem_map.mp hmem with ⟨allocation, hlisted, hid⟩
      exact List.find?_eq_none.mp hfind allocation hlisted (decide_eq_true hid)
  | some allocation =>
      have hfound := List.find?_some hfind
      have hid : allocation.id = id := of_decide_eq_true hfound
      rw [← hid]
      exact getAllocation_of_mem_listAllocations h (List.mem_of_find?_eq_some hfind)

end Listing

theorem exists_forall₂ {alpha beta : Type} {related : alpha -> beta -> Prop}
    {xs : List alpha} (h : forall x, x ∈ xs -> exists y, related x y) :
    exists ys, List.Forall₂ related xs ys := by
  induction xs with
  | nil => exact ⟨[], List.Forall₂.nil⟩
  | cons x xs ih =>
      rcases h x List.mem_cons_self with ⟨y, hy⟩
      rcases ih (fun x hx => h x (List.mem_cons_of_mem _ hx)) with ⟨ys, hys⟩
      exact ⟨y :: ys, List.Forall₂.cons hy hys⟩

theorem modelToAllocation_eq_ok_iff_getAllocation {db : Database} {row : AllocationRow}
    (hrow : row ∈ db.allocations) {allocation : Allocation} :
    modelToAllocation row (findBinding row.id db) = .ok allocation <->
      getAllocation row.id db = .ok (some allocation) := by
  rw [modelToAllocation_eq_ok, getAllocation_eq_some, findAllocation_of_mem hrow]
  constructor
  · intro h
    exact ⟨row, rfl, h⟩
  · intro h
    rcases h with ⟨row', hrow', h⟩
    cases hrow'
    exact h

/-- A listing goes through the rows in the order of the query, each of them once. -/
theorem listAllocations_eq_ok {db : Database} {allocations : List Allocation} :
    listAllocations db = .ok allocations <->
      List.Forall₂ (fun row allocation => getAllocation row.id db = .ok (some allocation))
        (db.allocations.insertionSort AllocationRow.listedBefore) allocations := by
  unfold listAllocations
  rw [mapM_eq_ok, List.forall₂_iff_zip, List.forall₂_iff_zip]
  apply and_congr_right
  intro _
  apply forall_congr'
  intro row
  apply forall_congr'
  intro allocation
  apply imp_congr_right
  intro hzip
  have hsorted := (List.of_mem_zip hzip).left
  exact modelToAllocation_eq_ok_iff_getAllocation ((List.mem_insertionSort _).mp hsorted)

theorem listAllocations_succeeds {db : Database} :
    (exists allocations, listAllocations db = .ok allocations) <->
      forall row, row ∈ db.allocations ->
        exists allocation, getAllocation row.id db = .ok (some allocation) := by
  constructor
  · rintro ⟨allocations, h⟩ row hrow
    have hsorted : row ∈ db.allocations.insertionSort AllocationRow.listedBefore :=
      (List.mem_insertionSort _).mpr hrow
    rcases List.forall₂_iff_get.mp (listAllocations_eq_ok.mp h) with ⟨hlength, hget⟩
    rcases List.mem_iff_get.mp hsorted with ⟨position, hposition⟩
    have hread := hget position.val position.isLt (hlength ▸ position.isLt)
    rw [hposition] at hread
    exact ⟨_, hread⟩
  · intro h
    have hsorted : forall row,
        row ∈ db.allocations.insertionSort AllocationRow.listedBefore ->
        exists allocation, getAllocation row.id db = .ok (some allocation) := by
      intro row hrow
      exact h row ((List.mem_insertionSort _).mp hrow)
    rcases exists_forall₂ hsorted with ⟨allocations, hallocations⟩
    exact ⟨allocations, listAllocations_eq_ok.mpr hallocations⟩

/-- The listing succeeds when every id reads back. -/
theorem listAllocations_of_getAllocation {db : Database}
    (h : forall id, exists found, getAllocation id db = .ok found) :
    exists allocations, listAllocations db = .ok allocations := by
  rw [listAllocations_succeeds]
  intro row hrow
  rcases h row.id with ⟨found, hfound⟩
  cases found with
  | none =>
      rw [getAllocation_eq_none, findAllocation_of_mem hrow] at hfound
      cases hfound
  | some allocation => exact ⟨allocation, hfound⟩

end Storage
end Relayd
