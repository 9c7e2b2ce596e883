import Mathlib.Data.List.Nodup
import Mathlib.Data.List.Sort
import Relayd.Model

/-!
# The SQLite repository

Two tables: allocations, which still carry the target columns older versions
kept there, and bindings.  A `Database` carries what the schema enforces: the
primary keys and the unique index over protocol and port.  Every statement is
given by what it does to the two tables; a transaction is the composition of its
statements and leaves the tables alone when one of them fails.

Integer columns hold whatever an older version may have written, so they are
plain integers here and are checked when a row is read.
-/

namespace Relayd
namespace Storage

inductive RepositoryError where
  | db
  | sqlx
  | model (error : ModelError)
  | io
  | invalidPort (field : String) (value : Int)
  | portConversion
deriving DecidableEq, Repr

structure AllocationRow where
  id : String
  protocol : String
  port : Int
  targetPort : Int
  host : Option String
  createdAtMs : Int
  updatedAtMs : Int
deriving DecidableEq, Repr

structure BindingRow where
  allocationId : String
  targetPort : Int
  host : Option String
  createdAtMs : Int
  updatedAtMs : Int
deriving DecidableEq, Repr

def AllocationRow.protocolPort (row : AllocationRow) : String × Int :=
  (row.protocol, row.port)

structure Database where
  allocations : List AllocationRow
  bindings : List BindingRow
  allocationIds : (allocations.map AllocationRow.id).Nodup
  protocolPorts : (allocations.map AllocationRow.protocolPort).Nodup
  bindingIds : (bindings.map BindingRow.allocationId).Nodup

def Database.empty : Database where
  allocations := []
  bindings := []
  allocationIds := List.nodup_nil
  protocolPorts := List.nodup_nil
  bindingIds := List.nodup_nil

def i32FromU16 (port : UInt16) : Int :=
  port.toNat

def portFromI32 (field : String) (value : Int) : Except RepositoryError UInt16 :=
  if value < 0 then .error (.invalidPort field value)
  else if value < 65536 then .ok (UInt16.ofNat value.toNat)
  else .error .portConversion

/-!
# Statements

Inserts are refused by the schema when a key is taken.  Updates never touch a
key column, and deletes keep a sublist, so both stay inside the schema.
-/

def insertAllocationRow (row : AllocationRow) (db : Database) :
    Except RepositoryError Database :=
  if h : row.id ∉ db.allocations.map AllocationRow.id ∧
      row.protocolPort ∉ db.allocations.map AllocationRow.protocolPort then
    .ok
      { db with
        allocations := db.allocations ++ [row]
        allocationIds := by
          rw [List.map_append]
          simpa using db.allocationIds.concat h.left
        protocolPorts := by
          rw [List.map_append]
          simpa using db.protocolPorts.concat h.right }
  else .error .sqlx

def insertBindingRow (row : BindingRow) (db : Database) :
    Except RepositoryError Database :=
  if h : row.allocationId ∉ db.bindings.map BindingRow.allocationId then
    .ok
      { db with
        bindings := db.bindings ++ [row]
        bindingIds := by
          rw [List.map_append]
          simpa using db.bindingIds.concat h }
  else .error .sqlx

def setTargetColumns (id : String) (targetPort : Int) (host : Option String)
    (updatedAtMs : Int) (row : AllocationRow) : AllocationRow :=
  if row.id = id then
    { row with targetPort := targetPort, host := host, updatedAtMs := updatedAtMs }
  else row

@[simp] theorem setTargetColumns_id (id : String) (targetPort : Int)
    (host : Option String) (updatedAtMs : Int) (row : AllocationRow) :
    (setTargetColumns id targetPort host updatedAtMs row).id = row.id := by
  unfold setTargetColumns
  split <;> rfl

@[simp] theorem setTargetColumns_protocol (id : String) (targetPort : Int)
    (host : Option String) (updatedAtMs : Int) (row : AllocationRow) :
    (setTargetColumns id targetPort host updatedAtMs row).protocol =
      row.protocol := by
  unfold setTargetColumns
  split <;> rfl

@[simp] theorem setTargetColumns_port (id : String) (targetPort : Int)
    (host : Option String) (updatedAtMs : Int) (row : AllocationRow) :
    (setTargetColumns id targetPort host updatedAtMs row).port = row.port := by
  unfold setTargetColumns
  split <;> rfl

@[simp] theorem setTargetColumns_protocolPort (id : String) (targetPort : Int)
    (host : Option String) (updatedAtMs : Int) (row : AllocationRow) :
    (setTargetColumns id targetPort host updatedAtMs row).protocolPort =
      row.protocolPort := by
  simp [AllocationRow.protocolPort]

/-- `UPDATE allocations SET target_port, host, updated_at_ms WHERE id`. -/
def updateTargetColumns (id : String) (targetPort : Int) (host : Option String)
    (updatedAtMs : Int) (db : Database) : Database :=
  { db with
    allocations :=
      db.allocations.map (setTargetColumns id targetPort host updatedAtMs)
    allocationIds := by
      rw [List.map_map]
      simpa [Function.comp_def] using db.allocationIds
    protocolPorts := by
      rw [List.map_map]
      simpa [Function.comp_def] using db.protocolPorts }

/-- `ON CONFLICT(allocation_id) DO UPDATE`: an existing row keeps its creation
time. -/
def mergeBinding (row existing : BindingRow) : BindingRow :=
  if existing.allocationId = row.allocationId then
    { existing with
      targetPort := row.targetPort
      host := row.host
      updatedAtMs := row.updatedAtMs }
  else existing

@[simp] theorem mergeBinding_allocationId (row existing : BindingRow) :
    (mergeBinding row existing).allocationId = existing.allocationId := by
  unfold mergeBinding
  split <;> rfl

def upsertBindingRow (row : BindingRow) (db : Database) : Database :=
  if h : row.allocationId ∈ db.bindings.map BindingRow.allocationId then
    { db with
      bindings := db.bindings.map (mergeBinding row)
      bindingIds := by
        rw [List.map_map]
        simpa [Function.comp_def] using db.bindingIds }
  else
    { db with
      bindings := db.bindings ++ [row]
      bindingIds := by
        rw [List.map_append]
        simpa using db.bindingIds.concat h }

def deleteBindingRows (id : String) (db : Database) : Database :=
  { db with
    bindings := db.bindings.filter (fun row => row.allocationId ≠ id)
    bindingIds :=
      db.bindingIds.sublist ((List.filter_sublist).map BindingRow.allocationId) }

def deleteAllocationRows (id : String) (db : Database) : Database :=
  { db with
    allocations := db.allocations.filter (fun row => row.id ≠ id)
    allocationIds :=
      db.allocationIds.sublist ((List.filter_sublist).map AllocationRow.id)
    protocolPorts :=
      db.protocolPorts.sublist
        ((List.filter_sublist).map AllocationRow.protocolPort) }

/-!
# Writes
-/

def insertAllocation (allocation : Allocation) (db : Database) :
    Except RepositoryError Database :=
  insertAllocationRow
    { id := allocation.id
      protocol := allocation.protocol.asStr
      port := i32FromU16 allocation.port
      targetPort := (allocation.targetPort.map i32FromU16).getD 0
      host := allocation.host
      createdAtMs := allocation.createdAtMs
      updatedAtMs := allocation.updatedAtMs } db

def insertAllocationWithBinding (allocation : Allocation) (binding : Binding)
    (db : Database) : Except RepositoryError Database := do
  let db <- insertAllocationRow
    { id := allocation.id
      protocol := allocation.protocol.asStr
      port := i32FromU16 allocation.port
      targetPort := i32FromU16 binding.targetPort
      host := binding.host
      createdAtMs := allocation.createdAtMs
      updatedAtMs := binding.updatedAtMs } db
  insertBindingRow
    { allocationId := allocation.id
      targetPort := i32FromU16 binding.targetPort
      host := binding.host
      createdAtMs := binding.createdAtMs
      updatedAtMs := binding.updatedAtMs } db

def putBinding (binding : Binding) (db : Database) : Database :=
  let db := upsertBindingRow
    { allocationId := binding.allocationId
      targetPort := i32FromU16 binding.targetPort
      host := binding.host
      createdAtMs := binding.createdAtMs
      updatedAtMs := binding.updatedAtMs } db
  updateTargetColumns binding.allocationId (i32FromU16 binding.targetPort)
    binding.host binding.updatedAtMs db

def deleteBinding (allocationId : String) (updatedAtMs : Int) (db : Database) :
    Bool × Database :=
  let changed := db.bindings.any (fun row => row.allocationId = allocationId)
  let db := deleteBindingRows allocationId db
  if changed then (true, updateTargetColumns allocationId 0 none updatedAtMs db)
  else (false, db)

def deleteAllocation (id : String) (db : Database) : Bool × Database :=
  let db := deleteBindingRows id db
  (db.allocations.any (fun row => row.id = id), deleteAllocationRows id db)

/-!
# Reads

The joins match a row at most once because ids are primary keys, so a lookup is
the first match.
-/

def findAllocation (id : String) (db : Database) : Option AllocationRow :=
  db.allocations.find? (fun row => row.id = id)

def findBinding (id : String) (db : Database) : Option BindingRow :=
  db.bindings.find? (fun row => row.allocationId = id)

def getBinding (allocationId : String) (db : Database) :
    Except RepositoryError (Option Binding) :=
  match findBinding allocationId db with
  | none => .ok none
  | some row => do
      let targetPort <- portFromI32 "binding.target_port" row.targetPort
      .ok (some
        { allocationId := row.allocationId
          targetPort := targetPort
          host := row.host
          createdAtMs := row.createdAtMs
          updatedAtMs := row.updatedAtMs })

def parseProtocolColumn (protocol : String) : Except RepositoryError Protocol :=
  match Protocol.fromStr protocol with
  | .ok protocol => .ok protocol
  | .error error => .error (.model error)

/-- The fallback every reader applies to a row without a binding. -/
def legacyTargetPort (targetPort : Int) :
    Except RepositoryError (Option UInt16) :=
  if targetPort > 0 then some <$> portFromI32 "target_port" targetPort
  else .ok none

def joinedTargetPort (bindingTargetPort : Option Int) (targetPort : Int) :
    Except RepositoryError (Option UInt16) :=
  match bindingTargetPort with
  | some targetPort => some <$> portFromI32 "binding.target_port" targetPort
  | none => legacyTargetPort targetPort

/-- `AllocationJoinRow`, the columns `get_allocation` selects. -/
structure AllocationJoinRow where
  id : String
  protocol : String
  port : Int
  legacyTargetPort : Int
  legacyHost : Option String
  createdAtMs : Int
  updatedAtMs : Int
  bindingTargetPort : Option Int
  bindingHost : Option String

def rowToAllocation (row : AllocationJoinRow) :
    Except RepositoryError Allocation := do
  let targetPort <- joinedTargetPort row.bindingTargetPort row.legacyTargetPort
  let protocol <- parseProtocolColumn row.protocol
  let port <- portFromI32 "port" row.port
  .ok
    { id := row.id
      protocol := protocol
      port := port
      targetPort := targetPort
      host := row.bindingHost.or row.legacyHost
      createdAtMs := row.createdAtMs
      updatedAtMs := row.updatedAtMs }

def allocationJoinRow (row : AllocationRow) (binding : Option BindingRow) :
    AllocationJoinRow where
  id := row.id
  protocol := row.protocol
  port := row.port
  legacyTargetPort := row.targetPort
  legacyHost := row.host
  createdAtMs := row.createdAtMs
  updatedAtMs := row.updatedAtMs
  bindingTargetPort := binding.map BindingRow.targetPort
  bindingHost := binding.bind BindingRow.host

def getAllocation (id : String) (db : Database) :
    Except RepositoryError (Option Allocation) :=
  match findAllocation id db with
  | none => .ok none
  | some row =>
      some <$> rowToAllocation (allocationJoinRow row (findBinding row.id db))

/-- `AllocationBindingJoinRow`: the binding id marks whether the join matched,
the numeric binding columns are coalesced to zero. -/
structure AllocationBindingJoinRow where
  id : String
  protocol : String
  port : Int
  legacyTargetPort : Int
  legacyHost : Option String
  createdAtMs : Int
  updatedAtMs : Int
  bindingAllocationId : Option String
  bindingTargetPort : Int
  bindingHost : Option String
  bindingCreatedAtMs : Int
  bindingUpdatedAtMs : Int

def joinedBinding (row : AllocationBindingJoinRow) :
    Except RepositoryError (Option Binding) :=
  match row.bindingAllocationId with
  | none => .ok none
  | some allocationId => do
      let targetPort <- portFromI32 "binding.target_port" row.bindingTargetPort
      .ok (some
        { allocationId := allocationId
          targetPort := targetPort
          host := row.bindingHost
          createdAtMs := row.bindingCreatedAtMs
          updatedAtMs := row.bindingUpdatedAtMs })

def boundTargetPort (binding : Option Binding) (targetPort : Int) :
    Except RepositoryError (Option UInt16) :=
  match binding with
  | some binding => .ok (some binding.targetPort)
  | none => legacyTargetPort targetPort

def rowToAllocationWithBinding (row : AllocationBindingJoinRow) :
    Except RepositoryError (Allocation × Option Binding) := do
  let binding <- joinedBinding row
  let targetPort <- boundTargetPort binding row.legacyTargetPort
  let host := (binding.bind Binding.host).or row.legacyHost
  let protocol <- parseProtocolColumn row.protocol
  let port <- portFromI32 "port" row.port
  .ok
    ({ id := row.id
       protocol := protocol
       port := port
       targetPort := targetPort
       host := host
       createdAtMs := row.createdAtMs
       updatedAtMs := row.updatedAtMs }, binding)

def allocationBindingJoinRow (row : AllocationRow)
    (binding : Option BindingRow) : AllocationBindingJoinRow where
  id := row.id
  protocol := row.protocol
  port := row.port
  legacyTargetPort := row.targetPort
  legacyHost := row.host
  createdAtMs := row.createdAtMs
  updatedAtMs := row.updatedAtMs
  bindingAllocationId := binding.map BindingRow.allocationId
  bindingTargetPort := (binding.map BindingRow.targetPort).getD 0
  bindingHost := binding.bind BindingRow.host
  bindingCreatedAtMs := (binding.map BindingRow.createdAtMs).getD 0
  bindingUpdatedAtMs := (binding.map BindingRow.updatedAtMs).getD 0

def getAllocationWithBinding (id : String) (db : Database) :
    Except RepositoryError (Option (Allocation × Option Binding)) :=
  match findAllocation id db with
  | none => .ok none
  | some row =>
      some <$> rowToAllocationWithBinding
        (allocationBindingJoinRow row (findBinding row.id db))

def modelToAllocation (allocation : AllocationRow) (binding : Option BindingRow) :
    Except RepositoryError Allocation := do
  let protocol <- parseProtocolColumn allocation.protocol
  let port <- portFromI32 "port" allocation.port
  let targetPort <- joinedTargetPort (binding.map BindingRow.targetPort)
    allocation.targetPort
  let host := (binding.bind BindingRow.host).or allocation.host
  .ok
    { id := allocation.id
      protocol := protocol
      port := port
      targetPort := targetPort
      host := host
      createdAtMs := allocation.createdAtMs
      updatedAtMs := allocation.updatedAtMs }

/-- `ORDER BY protocol ASC, port ASC`. -/
def AllocationRow.listedBefore (left right : AllocationRow) : Prop :=
  left.protocol < right.protocol ∨
    (left.protocol = right.protocol ∧ left.port ≤ right.port)

instance : DecidableRel AllocationRow.listedBefore := fun left right =>
  inferInstanceAs (Decidable (left.protocol < right.protocol ∨
    (left.protocol = right.protocol ∧ left.port ≤ right.port)))

def listAllocations (db : Database) : Except RepositoryError (List Allocation) :=
  (db.allocations.insertionSort AllocationRow.listedBefore).mapM
    (fun allocation => modelToAllocation allocation (findBinding allocation.id db))

/-!
# Opening

Creating the schema leaves existing tables alone; the migration then copies
legacy targets that have no binding row yet.
-/

def legacyBindings (db : Database) : List BindingRow :=
  (db.allocations.filter (fun row =>
    row.targetPort > 0 ∧ row.id ∉ db.bindings.map BindingRow.allocationId)).map
    (fun row =>
      { allocationId := row.id
        targetPort := row.targetPort
        host := row.host
        createdAtMs := row.createdAtMs
        updatedAtMs := row.updatedAtMs })

def migrateLegacyBindings (db : Database) : Database :=
  { db with
    bindings := db.bindings ++ legacyBindings db
    bindingIds := by
      rw [List.map_append, List.nodup_append]
      refine ⟨db.bindingIds, ?_, ?_⟩
      · unfold legacyBindings
        rw [List.map_map]
        exact db.allocationIds.sublist
          ((List.filter_sublist).map AllocationRow.id)
      · intro a ha b hb hab
        unfold legacyBindings at hb
        rw [List.map_map] at hb
        rcases List.mem_map.mp hb with ⟨row, hrow, hid⟩
        have hfree := (of_decide_eq_true (List.mem_filter.mp hrow).right).right
        rw [hab, ← hid] at ha
        exact hfree ha }

def openDatabase (db : Database) : Database :=
  migrateLegacyBindings db

end Storage
end Relayd
