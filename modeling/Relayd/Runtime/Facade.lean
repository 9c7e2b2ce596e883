import Relayd.Model

/-!
# The runtime facade

The service drives a data plane through five operations and reads it back
through snapshots.  A runtime is modelled by its own state; whatever the
operating system decides during a call (a bind that fails, a ruleset the kernel
refuses) is the answer the call is given.
-/

namespace Relayd
namespace Runtime

structure ObservedState where
  effectiveTargetPort : Option UInt16
  effectiveHost : Option String
  runtimeStatus : RuntimeStatus
  errorKind : Option ErrorKind
  lastError : Option String
deriving DecidableEq, Repr

inductive RuntimeError where
  | runtimeCreateFailed
  | runtimeUpdateFailed
  | runtimeDeleteFailed
  | runtimeRestoreFailed
  | runtimeApplyFailed
  | timeout
deriving DecidableEq, Repr

structure RuntimeFacade (runtime answer : Type) where
  initializeRuntime : answer -> UInt32 -> runtime -> Except RuntimeError Unit × runtime
  create : answer -> Allocation -> UInt32 -> runtime ->
    Except RuntimeError Unit × runtime
  update : answer -> Allocation -> UInt32 -> runtime ->
    Except RuntimeError Unit × runtime
  delete : answer -> String -> UInt32 -> runtime ->
    Except RuntimeError Unit × runtime
  restore : answer -> Allocation -> UInt32 -> runtime ->
    Except RuntimeError Unit × runtime
  snapshot : String -> runtime -> Except RuntimeError (Option ObservedState)

end Runtime
end Relayd
