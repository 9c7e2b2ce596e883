import Relayd.Prometheus
import Relayd.Service.AllocationService

/-!
# Reading the service

The reads behind the control plane.  A view joins the stored record with what the runtime
observes under the same id; an id the runtime does not know is shown as degraded.
-/

namespace Relayd
namespace Service

open Foundation Relayd.Runtime Storage

structure AllocationResource where
  id : String
  protocol : Protocol
  port : UInt16
  createdAtMs : Int
  updatedAtMs : Int
deriving DecidableEq, Repr

structure BindingView where
  allocationId : String
  host : Option String
  targetPort : UInt16
  effectiveTargetPort : Option UInt16
  effectiveHost : Option String
  runtimeStatus : RuntimeStatus
  errorKind : Option ErrorKind
  lastError : Option String
  createdAtMs : Int
  updatedAtMs : Int
deriving DecidableEq, Repr

structure AllocationView where
  id : String
  protocol : Protocol
  port : UInt16
  targetPort : Option UInt16
  host : Option String
  effectiveTargetPort : Option UInt16
  effectiveHost : Option String
  hostConfigured : Bool
  runtimeStatus : RuntimeStatus
  errorKind : Option ErrorKind
  lastError : Option String
  createdAtMs : Int
  updatedAtMs : Int
deriving DecidableEq, Repr

def isHostConfigured (host : Option String) : Bool :=
  host.any (fun value => value ≠ "")

def allocationResource (allocation : Allocation) : AllocationResource where
  id := allocation.id
  protocol := allocation.protocol
  port := allocation.port
  createdAtMs := allocation.createdAtMs
  updatedAtMs := allocation.updatedAtMs

def missingRuntimeState : ObservedState where
  effectiveTargetPort := none
  effectiveHost := none
  runtimeStatus := .degradedBindFailed
  errorKind := some .bindFailed
  lastError := some "missing runtime state"

def bindingView (binding : Binding) (observed : Option ObservedState) : BindingView :=
  let observed := observed.getD missingRuntimeState
  { allocationId := binding.allocationId
    host := binding.host
    targetPort := binding.targetPort
    effectiveTargetPort := observed.effectiveTargetPort
    effectiveHost := observed.effectiveHost
    runtimeStatus := observed.runtimeStatus
    errorKind := observed.errorKind
    lastError := observed.lastError
    createdAtMs := binding.createdAtMs
    updatedAtMs := binding.updatedAtMs }

def allocationView (allocation : Allocation) (observed : Option ObservedState) :
    AllocationView :=
  let observed := observed.getD missingRuntimeState
  { id := allocation.id
    protocol := allocation.protocol
    port := allocation.port
    targetPort := allocation.targetPort
    host := allocation.host
    effectiveTargetPort := observed.effectiveTargetPort
    effectiveHost := observed.effectiveHost
    hostConfigured := isHostConfigured allocation.host
    runtimeStatus := observed.runtimeStatus
    errorKind := observed.errorKind
    lastError := observed.lastError
    createdAtMs := allocation.createdAtMs
    updatedAtMs := allocation.updatedAtMs }

section Reads

variable {rt answer : Type} (svc : Service rt answer) (out : Outside answer)

def snapshot (id : String) : ServiceM rt (Option ObservedState) := do
  let observed <- Fallible.act (fun w => (.ok (svc.runtime.snapshot id w.runtime), w))
  orRuntimeError observed

def listAllocationResources : ServiceM rt (List AllocationResource) := do
  let allocations <- repoRead out Storage.listAllocations
  pure (allocations.map allocationResource)

def getAllocationResource (id : String) : ServiceM rt (Option AllocationResource) := do
  let found <- repoRead out (Storage.getAllocation id)
  pure (found.map allocationResource)

def allocationViewFor (allocation : Allocation) : ServiceM rt AllocationView := do
  let observed <- snapshot svc allocation.id
  pure (allocationView allocation observed)

def viewEach : List Allocation -> ServiceM rt (List AllocationView)
  | [] => pure []
  | allocation :: rest => do
      let view <- allocationViewFor svc allocation
      let views <- viewEach rest
      pure (view :: views)

def listAllocations : ServiceM rt (List AllocationView) := do
  let allocations <- repoRead out Storage.listAllocations
  viewEach svc allocations

def bindingViewFor (binding : Binding) : ServiceM rt BindingView := do
  let observed <- snapshot svc binding.allocationId
  pure (bindingView binding observed)

def getBindingView (id : String) : ServiceM rt (Option BindingView) := do
  let found <- repoRead out (Storage.getBinding id)
  match found with
  | none => pure none
  | some binding => do
      let view <- bindingViewFor svc binding
      pure (some view)

def snapshotListenerMetrics
    (metrics : rt -> Except RuntimeError (List Prometheus.ListenerMetricsSnapshot)) :
    ServiceM rt (List Prometheus.ListenerMetricsSnapshot) := do
  let rows <- Fallible.act (fun w => (.ok (metrics w.runtime), w))
  orRuntimeError rows

end Reads

end Service
end Relayd
