import Relayd.Foundation.Fallible
import Relayd.Runtime.Facade
import Relayd.Storage.PortScan

/-!
# The allocation service

Every mutation holds the mutation lock from its first read to its return, so a
mutation is one program over the repository and the runtime.  What the outside
decides is read from `Outside` by the number of calls made so far: the clock,
the generated ids, the repository calls that fail, and the answer each runtime
call is given.  A repository call that reports a failure has either committed
its whole transaction or nothing of it.
-/

namespace Relayd

structure Service (rt answer : Type) where
  runtime : Runtime.RuntimeFacade rt answer
  portRange : PortRange
  applyTimeoutMs : UInt32

namespace Service

open Foundation Relayd.Runtime Storage

structure Failpoints where
  createTimeout : Bool
  updateTimeout : Bool
  deleteTimeout : Bool
  deleteDbFailure : Bool
deriving DecidableEq, Repr

def Failpoints.default : Failpoints := ⟨false, false, false, false⟩

inductive ServiceError where
  | repository (error : RepositoryError)
  | runtime (error : RuntimeError)
  | notFound
  | noAvailablePort
  | invalidHost
  | timeout
  | deletePersistenceFailed
deriving DecidableEq, Repr

structure RepositoryFault where
  error : RepositoryError
  committed : Bool
deriving DecidableEq, Repr

structure Outside (answer : Type) where
  clock : Nat -> Int
  newId : Nat -> String
  repository : Nat -> Option RepositoryFault
  runtime : Nat -> answer

structure World (rt : Type) where
  db : Database
  runtime : rt
  failpoints : Failpoints
  calls : Nat

abbrev ServiceM (rt value : Type) := Fallible (World rt) ServiceError value

/-!
# Calls to the outside
-/

section Calls

variable {rt answer value : Type} (out : Outside answer)

def currentTimeMs : ServiceM rt Int :=
  Fallible.act (fun w => (.ok (out.clock w.calls), { w with calls := w.calls + 1 }))

def generateId : ServiceM rt String :=
  Fallible.act (fun w => (.ok (out.newId w.calls), { w with calls := w.calls + 1 }))

def readFailpoints : ServiceM rt Failpoints :=
  Fallible.act (fun w => (.ok w.failpoints, w))

def repoRead (query : Database -> Except RepositoryError value) :
    ServiceM rt value :=
  Fallible.act (fun w =>
    let called := { w with calls := w.calls + 1 }
    match out.repository w.calls with
    | some fault => (.error (.repository fault.error), called)
    | none =>
        match query w.db with
        | .error error => (.error (.repository error), called)
        | .ok result => (.ok result, called))

def repoWrite (transaction : Database -> Except RepositoryError (value × Database)) :
    ServiceM rt value :=
  Fallible.act (fun w =>
    let called := { w with calls := w.calls + 1 }
    match transaction w.db with
    | .error error => (.error (.repository error), called)
    | .ok (result, db) =>
        match out.repository w.calls with
        | none => (.ok result, { called with db := db })
        | some fault =>
            (.error (.repository fault.error),
              if fault.committed then { called with db := db } else called))

def callRuntime (call : answer -> rt -> Except RuntimeError value × rt) :
    ServiceM rt (Except RuntimeError value) :=
  Fallible.act (fun w =>
    let outcome := call (out.runtime w.calls) w.runtime
    (.ok outcome.1, { w with runtime := outcome.2, calls := w.calls + 1 }))

/-- The `?` after a runtime call. -/
def orRuntimeError : Except RuntimeError value -> ServiceM rt value
  | .ok result => pure result
  | .error error => throw (.runtime error)

end Calls

/-!
# Creating

The retry loop asks the repository for the next free port after each port the
runtime could not create.  The scan never returns a port below its start, so the
remaining part of the port space shrinks with every round.
-/

def checkedSucc (port : UInt16) : Option UInt16 :=
  if port.toNat + 1 < 65536 then some (port + 1) else none

def remainingPorts : Option UInt16 -> Nat
  | none => 0
  | some start => 65536 - start.toNat

theorem toNat_checkedSucc {port next : UInt16}
    (h : checkedSucc port = some next) : next.toNat = port.toNat + 1 := by
  unfold checkedSucc at h
  split at h
  · rename_i hlt
    cases h
    rw [UInt16.toNat_add]
    exact Nat.mod_eq_of_lt hlt
  · cases h

theorem remainingPorts_checkedSucc {start port : UInt16} {fuel : Nat}
    (hport : start ≤ port) (hfuel : remainingPorts (some start) ≤ fuel + 1) :
    remainingPorts (checkedSucc port) ≤ fuel := by
  have hle := UInt16.le_iff_toNat_le.mp hport
  cases hnext : checkedSucc port with
  | none => exact Nat.zero_le fuel
  | some next =>
      have hsucc := toNat_checkedSucc hnext
      simp only [remainingPorts] at hfuel ⊢
      lia

theorem not_remainingPorts_some_le_zero (start : UInt16) :
    ¬ remainingPorts (some start) ≤ 0 := by
  have hlt : start.toNat < 65536 := start.toNat_lt
  unfold remainingPorts
  lia

def allocationBinding (allocation : Allocation) (targetPort : UInt16) :
    Binding where
  allocationId := allocation.id
  targetPort := targetPort
  host := allocation.host
  createdAtMs := allocation.createdAtMs
  updatedAtMs := allocation.updatedAtMs

/-- The transaction behind `persist_created_allocation`. -/
def persistCreated (allocation : Allocation) (db : Database) :
    Except RepositoryError Database :=
  match allocation.targetPort with
  | some targetPort =>
      insertAllocationWithBinding allocation
        (allocationBinding allocation targetPort) db
  | none => insertAllocation allocation db

section Operations

variable {rt answer : Type} (svc : Service rt answer) (out : Outside answer)

def persistCreatedAllocation (allocation : Allocation) : ServiceM rt Unit :=
  repoWrite out (fun db => (fun db => ((), db)) <$> persistCreated allocation db)

def createLoop (protocol : Protocol) (targetPort : Option UInt16) :
    (fuel : Nat) -> (nextPort : Option UInt16) ->
    remainingPorts nextPort ≤ fuel -> ServiceM rt Allocation
  | _, none, _ => throw .noAvailablePort
  | 0, some start, h => absurd h (not_remainingPorts_some_le_zero start)
  | fuel + 1, some start, h => do
      let found <- repoRead out
        (findAvailableAllocationPort protocol start svc.portRange.end)
      match found with
      | none => throw .noAvailablePort
      | some port => do
          let now <- currentTimeMs out
          let id <- generateId out
          let allocation : Allocation :=
            { id := id
              protocol := protocol
              port := port.val
              targetPort := targetPort
              host := none
              createdAtMs := now
              updatedAtMs := now }
          let created <- callRuntime out (fun answer =>
            svc.runtime.create answer allocation svc.applyTimeoutMs)
          match created with
          | .error .runtimeCreateFailed =>
              createLoop protocol targetPort fuel (checkedSucc port.val)
                (remainingPorts_checkedSucc port.property.left h)
          | .error error => throw (.runtime error)
          | .ok () => do
              let persisted <- Fallible.attempt
                (persistCreatedAllocation out allocation)
              match persisted with
              | .error error => do
                  let _ <- callRuntime out (fun answer =>
                    svc.runtime.delete answer allocation.id svc.applyTimeoutMs)
                  throw error
              | .ok () => pure allocation

def createAllocation (protocol : Protocol) (targetPort : Option UInt16) :
    ServiceM rt Allocation := do
  let failpoints <- readFailpoints
  if failpoints.createTimeout then throw .timeout
  else
    createLoop svc out protocol targetPort
      (remainingPorts (some svc.portRange.start)) (some svc.portRange.start)
      (Nat.le_refl _)

/-!
# Binding

A binding is persisted before the runtime sees it.
-/

def allocationWithBinding (allocation : Allocation) (binding : Binding) :
    Allocation :=
  { allocation with
    targetPort := some binding.targetPort
    host := binding.host
    updatedAtMs := binding.updatedAtMs }

def allocationWithoutBinding (allocation : Allocation) (now : Int) : Allocation :=
  { allocation with targetPort := none, host := none, updatedAtMs := now }

/-- Persist a binding and push the resulting allocation to the runtime. -/
def assignBinding (allocation : Allocation) (binding : Binding) :
    ServiceM rt Allocation := do
  let () <- repoWrite out (fun db => .ok ((), Storage.putBinding binding db))
  let updatedAllocation := allocationWithBinding allocation binding
  let failpoints <- readFailpoints
  if failpoints.updateTimeout then throw .timeout
  else do
    let updated <- callRuntime out (fun answer =>
      svc.runtime.update answer updatedAllocation svc.applyTimeoutMs)
    let () <- orRuntimeError updated
    pure updatedAllocation

def putBinding (id host : String) (targetPort : UInt16) : ServiceM rt Binding :=
  match parseIpLiteral host with
  | .error _ => throw .invalidHost
  | .ok _ => do
      let found <- repoRead out (getAllocationWithBinding id)
      match found with
      | none => throw .notFound
      | some (allocation, existingBinding) => do
          let now <- currentTimeMs out
          let binding : Binding :=
            { allocationId := id
              targetPort := targetPort
              host := some host
              createdAtMs := (existingBinding.map Binding.createdAtMs).getD now
              updatedAtMs := now }
          let _ <- assignBinding svc out allocation binding
          pure binding

def deleteBinding (id : String) : ServiceM rt Unit := do
  let found <- repoRead out (getAllocationWithBinding id)
  match found with
  | none => throw .notFound
  | some (_, none) => throw .notFound
  | some (allocation, some _) => do
      let now <- currentTimeMs out
      let changed <- repoWrite out (fun db => .ok (Storage.deleteBinding id now db))
      if changed then do
        let updatedAllocation := allocationWithoutBinding allocation now
        let failpoints <- readFailpoints
        if failpoints.updateTimeout then throw .timeout
        else do
          let updated <- callRuntime out (fun answer =>
            svc.runtime.update answer updatedAllocation svc.applyTimeoutMs)
          orRuntimeError updated
      else throw .notFound

def updateAllocation (id : String) (targetPort : Option UInt16)
    (host : Option String) : ServiceM rt Allocation := do
  let found <- repoRead out (getAllocationWithBinding id)
  match found with
  | none => throw .notFound
  | some (allocation, existingBinding) =>
      if (host.map (fun host => (parseIpLiteral host).isOk)).getD true then
        match targetPort.or (existingBinding.map Binding.targetPort) with
        | none => throw .notFound
        | some resolvedTargetPort => do
            let resolvedHost :=
              (host.or (existingBinding.bind Binding.host)).or allocation.host
            let now <- currentTimeMs out
            let binding : Binding :=
              { allocationId := id
                targetPort := resolvedTargetPort
                host := resolvedHost
                createdAtMs := (existingBinding.map Binding.createdAtMs).getD now
                updatedAtMs := now }
            assignBinding svc out allocation binding
      else throw .invalidHost

def setTarget (id host : String) : ServiceM rt Allocation :=
  updateAllocation svc out id none (some host)

/-!
# Deleting and restoring
-/

def deleteAllocation (id : String) : ServiceM rt Unit := do
  let found <- repoRead out (getAllocation id)
  match found with
  | none => throw .notFound
  | some allocation => do
      let failpoints <- readFailpoints
      if failpoints.deleteTimeout then throw .timeout
      else do
        let deleted <- callRuntime out (fun answer =>
          svc.runtime.delete answer id svc.applyTimeoutMs)
        let () <- orRuntimeError deleted
        let failpoints <- readFailpoints
        if failpoints.deleteDbFailure then do
          let restored <- callRuntime out (fun answer =>
            svc.runtime.restore answer allocation svc.applyTimeoutMs)
          let () <- orRuntimeError restored
          throw .deletePersistenceFailed
        else do
          let removed <- repoWrite out (fun db =>
            .ok (Storage.deleteAllocation id db))
          if removed then pure () else throw .notFound

def restoreEach (timeoutMs : UInt32) : List Allocation -> ServiceM rt Unit
  | [] => pure ()
  | allocation :: rest => do
      let restored <- callRuntime out (fun answer =>
        svc.runtime.restore answer allocation timeoutMs)
      let () <- orRuntimeError restored
      restoreEach timeoutMs rest

def restoreAll (timeoutMs : UInt32) : ServiceM rt Unit := do
  let initialized <- callRuntime out (fun answer =>
    svc.runtime.initializeRuntime answer timeoutMs)
  let () <- orRuntimeError initialized
  let allocations <- repoRead out Storage.listAllocations
  restoreEach svc out timeoutMs allocations

end Operations

/-!
# Runs
-/

inductive Mutation where
  | createAllocation (protocol : Protocol) (targetPort : Option UInt16)
  | putBinding (id host : String) (targetPort : UInt16)
  | deleteBinding (id : String)
  | updateAllocation (id : String) (targetPort : Option UInt16)
      (host : Option String)
  | setTarget (id host : String)
  | deleteAllocation (id : String)
deriving DecidableEq, Repr

section Runs

variable {rt answer : Type} (svc : Service rt answer) (out : Outside answer)

/-- A mutation run to completion; what it returned is dropped. -/
def perform : Mutation -> World rt -> World rt
  | .createAllocation protocol targetPort, w =>
      ((createAllocation svc out protocol targetPort).exec w).2
  | .putBinding id host targetPort, w =>
      ((putBinding svc out id host targetPort).exec w).2
  | .deleteBinding id, w => ((deleteBinding svc out id).exec w).2
  | .updateAllocation id targetPort host, w =>
      ((updateAllocation svc out id targetPort host).exec w).2
  | .setTarget id host, w => ((setTarget svc out id host).exec w).2
  | .deleteAllocation id, w => ((deleteAllocation svc out id).exec w).2

def performAll (mutations : List Mutation) (w : World rt) : World rt :=
  mutations.foldl (fun w mutation => perform svc out mutation w) w

end Runs

end Service
end Relayd
