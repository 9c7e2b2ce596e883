import Relayd.Foundation.KeyedMap
import Relayd.Runtime.Facade

/-!
# The in-memory runtime

The double that the service and HTTP tests run against: it remembers the allocations it
was given, counts what it was asked, and fails where a test has told it to.
-/

namespace Relayd
namespace Runtime

open Foundation

structure RuntimeCalls where
  create : List String
  update : List String
  delete : List String
  restore : List String
deriving DecidableEq, Repr

structure InMemoryRuntime where
  allocations : KeyMap String Allocation
  initializeFail : Bool
  createFailPorts : List UInt16
  applyFailPorts : List UInt16
  updateFailIds : List String
  deleteFailIds : List String
  restoreFailIds : List String
  initializeCalls : Nat
  calls : RuntimeCalls

namespace InMemoryRuntime

def default : InMemoryRuntime where
  allocations := ∅
  initializeFail := false
  createFailPorts := []
  applyFailPorts := []
  updateFailIds := []
  deleteFailIds := []
  restoreFailIds := []
  initializeCalls := 0
  calls := ⟨[], [], [], []⟩

/-- The counter of initializations saturates. -/
def initializeRuntime (s : InMemoryRuntime) : Except RuntimeError Unit × InMemoryRuntime :=
  let s := { s with initializeCalls := min (s.initializeCalls + 1) (2 ^ 32 - 1) }
  if s.initializeFail then (.error .runtimeApplyFailed, s) else (.ok (), s)

def insertAllocation (allocation : Allocation) (s : InMemoryRuntime) : InMemoryRuntime :=
  { s with allocations := s.allocations.insert allocation.id allocation }

def create (allocation : Allocation) (s : InMemoryRuntime) :
    Except RuntimeError Unit × InMemoryRuntime :=
  let s := { s with calls := { s.calls with create := s.calls.create ++ [allocation.id] } }
  if allocation.port ∈ s.createFailPorts then (.error .runtimeCreateFailed, s)
  else if allocation.port ∈ s.applyFailPorts then (.error .runtimeApplyFailed, s)
  else (.ok (), s.insertAllocation allocation)

def update (allocation : Allocation) (s : InMemoryRuntime) :
    Except RuntimeError Unit × InMemoryRuntime :=
  let s := { s with calls := { s.calls with update := s.calls.update ++ [allocation.id] } }
  if allocation.id ∈ s.updateFailIds then (.error .runtimeUpdateFailed, s)
  else (.ok (), s.insertAllocation allocation)

def delete (id : String) (s : InMemoryRuntime) :
    Except RuntimeError Unit × InMemoryRuntime :=
  let s := { s with calls := { s.calls with delete := s.calls.delete ++ [id] } }
  if id ∈ s.deleteFailIds then (.error .runtimeDeleteFailed, s)
  else (.ok (), { s with allocations := s.allocations.erase id })

def restore (allocation : Allocation) (s : InMemoryRuntime) :
    Except RuntimeError Unit × InMemoryRuntime :=
  let s := { s with calls := { s.calls with restore := s.calls.restore ++ [allocation.id] } }
  if allocation.id ∈ s.restoreFailIds then (.error .runtimeRestoreFailed, s)
  else (.ok (), s.insertAllocation allocation)

def observedStateFor (allocation : Allocation) : ObservedState where
  effectiveTargetPort := allocation.targetPort
  effectiveHost := allocation.host
  runtimeStatus :=
    if allocation.host.isSome && allocation.targetPort.isSome then .active
    else .rejectingNoHost
  errorKind := none
  lastError := none

def snapshot (id : String) (s : InMemoryRuntime) :
    Except RuntimeError (Option ObservedState) :=
  .ok ((s.allocations.lookup id).map observedStateFor)

def facade : RuntimeFacade InMemoryRuntime Unit where
  initializeRuntime := fun _ _ => initializeRuntime
  create := fun _ allocation _ => create allocation
  update := fun _ allocation _ => update allocation
  delete := fun _ id _ => delete id
  restore := fun _ allocation _ => restore allocation
  snapshot := snapshot

end InMemoryRuntime

end Runtime
end Relayd
