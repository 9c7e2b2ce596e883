import Relayd.Service.CreateLoop

/-!
# The service over two runtimes

The service only asks its runtime.  Where two runtimes answer alike, whatever else they
keep, every operation of the service returns the same over both of them and leaves them
alike.
-/

namespace Relayd
namespace Service

open Foundation Fallible Relayd.Runtime Storage

/-- The clock, the ids and the repository are the same; the replies for the runtime are
related call by call. -/
structure SameOutside {answer answer' : Type} (replies : answer -> answer' -> Prop)
    (out : Outside answer) (out' : Outside answer') : Prop where
  clock : forall call, out.clock call = out'.clock call
  newId : forall call, out.newId call = out'.newId call
  repository : forall call, out.repository call = out'.repository call
  runtime : forall call, replies (out.runtime call) (out'.runtime call)

/-- The worlds differ in the runtime only. -/
structure Alike {rt rt' : Type} (related : rt -> rt' -> Prop) (w : World rt) (v : World rt') :
    Prop where
  db : w.db = v.db
  failpoints : w.failpoints = v.failpoints
  calls : w.calls = v.calls
  runtime : related w.runtime v.runtime

/-- The same answer, and the two runtimes are left related. -/
def AnswerAlike {rt rt' value : Type} (related : rt -> rt' -> Prop)
    (left : Except RuntimeError value × rt) (right : Except RuntimeError value × rt') : Prop :=
  left.1 = right.1 ∧ related left.2 right.2

structure FacadesAlike {rt rt' answer answer' : Type} (replies : answer -> answer' -> Prop)
    (related : rt -> rt' -> Prop) (facade : RuntimeFacade rt answer)
    (facade' : RuntimeFacade rt' answer') : Prop where
  create : forall {reply reply' r r'}, replies reply reply' -> related r r' ->
    forall allocation timeoutMs, AnswerAlike related
      (facade.create reply allocation timeoutMs r) (facade'.create reply' allocation timeoutMs r')
  update : forall {reply reply' r r'}, replies reply reply' -> related r r' ->
    forall allocation timeoutMs, AnswerAlike related
      (facade.update reply allocation timeoutMs r) (facade'.update reply' allocation timeoutMs r')
  delete : forall {reply reply' r r'}, replies reply reply' -> related r r' ->
    forall id timeoutMs, AnswerAlike related
      (facade.delete reply id timeoutMs r) (facade'.delete reply' id timeoutMs r')
  restore : forall {reply reply' r r'}, replies reply reply' -> related r r' ->
    forall allocation timeoutMs, AnswerAlike related
      (facade.restore reply allocation timeoutMs r)
      (facade'.restore reply' allocation timeoutMs r')

/-!
# The calls
-/

section Calls

variable {rt rt' answer answer' value : Type} {replies : answer -> answer' -> Prop}
  {related : rt -> rt' -> Prop} {out : Outside answer} {out' : Outside answer'}
  (hout : SameOutside replies out out')

theorem alike_afterCall {w : World rt} {v : World rt'} (h : Alike related w v) :
    Alike related w.afterCall v.afterCall where
  db := h.db
  failpoints := h.failpoints
  calls := congrArg (fun calls => calls + 1) h.calls
  runtime := h.runtime

include hout in
theorem simulates_currentTimeMs :
    Simulates (Alike related) (currentTimeMs out) (currentTimeMs out') := by
  intro w v h
  constructor
  · show Except.ok (out.clock w.calls) = Except.ok (out'.clock v.calls)
    rw [h.calls, hout.clock]
  · exact alike_afterCall h

include hout in
theorem simulates_generateId :
    Simulates (Alike related) (generateId out) (generateId out') := by
  intro w v h
  constructor
  · show Except.ok (out.newId w.calls) = Except.ok (out'.newId v.calls)
    rw [h.calls, hout.newId]
  · exact alike_afterCall h

theorem simulates_readFailpoints :
    Simulates (Alike related) readFailpoints readFailpoints := by
  intro w v h
  constructor
  · show Except.ok w.failpoints = Except.ok v.failpoints
    rw [h.failpoints]
  · exact h

theorem simulates_orRuntimeError (result : Except RuntimeError value) :
    Simulates (Alike related) (orRuntimeError result) (orRuntimeError result) := by
  cases result with
  | error error => exact simulates_throw _
  | ok a => exact simulates_pure a

include hout in
theorem simulates_repoRead (query : Database -> Except RepositoryError value) :
    Simulates (Alike related) (repoRead out query) (repoRead out' query) := by
  intro w v h
  have hcalled := alike_afterCall h
  have hquery : query w.db = query v.db := congrArg query h.db
  have hrepository : out.repository w.calls = out'.repository v.calls := by
    rw [h.calls, hout.repository]
  unfold repoRead
  rw [exec_act, exec_act, hrepository, hquery]
  cases out'.repository v.calls with
  | some fault => exact ⟨rfl, hcalled⟩
  | none =>
      cases query v.db with
      | error error => exact ⟨rfl, hcalled⟩
      | ok result => exact ⟨rfl, hcalled⟩

include hout in
theorem simulates_repoWrite
    (transaction : Database -> Except RepositoryError (value × Database)) :
    Simulates (Alike related) (repoWrite out transaction) (repoWrite out' transaction) := by
  intro w v h
  have hcalled := alike_afterCall h
  have hwritten : forall db, Alike related { w.afterCall with db := db }
      { v.afterCall with db := db } :=
    fun _ => ⟨rfl, hcalled.failpoints, hcalled.calls, hcalled.runtime⟩
  have htransaction : transaction w.db = transaction v.db := congrArg transaction h.db
  have hrepository : out.repository w.calls = out'.repository v.calls := by
    rw [h.calls, hout.repository]
  unfold repoWrite
  rw [exec_act, exec_act, htransaction, hrepository]
  cases transaction v.db with
  | error error => exact ⟨rfl, hcalled⟩
  | ok outcome =>
      cases out'.repository v.calls with
      | none => exact ⟨rfl, hwritten outcome.2⟩
      | some fault =>
          rcases fault with ⟨error, committed⟩
          cases committed with
          | false => exact ⟨rfl, hcalled⟩
          | true => exact ⟨rfl, hwritten outcome.2⟩

include hout in
theorem simulates_callRuntime
    {call : answer -> rt -> Except RuntimeError value × rt}
    {call' : answer' -> rt' -> Except RuntimeError value × rt'}
    (hcall : forall {reply reply' r r'}, replies reply reply' -> related r r' ->
      AnswerAlike related (call reply r) (call' reply' r')) :
    Simulates (Alike related) (callRuntime out call) (callRuntime out' call') := by
  intro w v h
  have hreplies := hout.runtime v.calls
  rw [← h.calls] at hreplies
  rcases hcall hreplies h.runtime with ⟨hresult, hruntime⟩
  rw [h.calls] at hresult hruntime
  constructor
  · show Except.ok (call (out.runtime w.calls) w.runtime).1 =
      Except.ok (call' (out'.runtime v.calls) v.runtime).1
    rw [h.calls, hresult]
  · constructor
    · exact h.db
    · exact h.failpoints
    · exact congrArg (fun calls => calls + 1) h.calls
    · show related (call (out.runtime w.calls) w.runtime).2
        (call' (out'.runtime v.calls) v.runtime).2
      rw [h.calls]
      exact hruntime

end Calls

/-!
# The operations
-/

section Operations

variable {rt rt' answer answer' : Type} {replies : answer -> answer' -> Prop}
  {related : rt -> rt' -> Prop} {out : Outside answer} {out' : Outside answer'}
  {facade : RuntimeFacade rt answer} {facade' : RuntimeFacade rt' answer'}
  {portRange : PortRange} {applyTimeoutMs : UInt32}
  (hfacades : FacadesAlike replies related facade facade')
  (hout : SameOutside replies out out')

include hfacades hout

theorem simulates_createLoop (protocol : Protocol) (targetPort : Option UInt16) :
    forall (fuel : Nat) (nextPort : Option UInt16) (hfuel : remainingPorts nextPort ≤ fuel),
      Simulates (Alike related)
        (createLoop ⟨facade, portRange, applyTimeoutMs⟩ out protocol targetPort fuel nextPort
          hfuel)
        (createLoop ⟨facade', portRange, applyTimeoutMs⟩ out' protocol targetPort fuel nextPort
          hfuel) := by
  intro fuel
  induction fuel with
  | zero =>
      intro nextPort hfuel
      cases nextPort with
      | none => exact simulates_throw _
      | some start => exact absurd hfuel (not_remainingPorts_some_le_zero start)
  | succ fuel ih =>
      intro nextPort hfuel
      cases nextPort with
      | none => exact simulates_throw _
      | some start =>
          unfold createLoop
          apply simulates_bind (simulates_repoRead hout _)
          intro found
          cases found with
          | none => exact simulates_throw _
          | some port =>
              apply simulates_bind (simulates_currentTimeMs hout)
              intro now
              apply simulates_bind (simulates_generateId hout)
              intro id
              apply simulates_bind (simulates_callRuntime hout (fun hreply hrelated =>
                hfacades.create hreply hrelated _ _))
              intro created
              cases created with
              | error error =>
                  cases error with
                  | runtimeCreateFailed => exact ih _ _
                  | _ => exact simulates_throw _
              | ok _ =>
                  apply simulates_bind (simulates_attempt (simulates_repoWrite hout _))
                  intro persisted
                  cases persisted with
                  | error error =>
                      apply simulates_bind (simulates_callRuntime hout (fun hreply hrelated =>
                        hfacades.delete hreply hrelated _ _))
                      intro _
                      exact simulates_throw _
                  | ok _ => exact simulates_pure _

theorem simulates_createAllocation (protocol : Protocol) (targetPort : Option UInt16) :
    Simulates (Alike related)
      (createAllocation ⟨facade, portRange, applyTimeoutMs⟩ out protocol targetPort)
      (createAllocation ⟨facade', portRange, applyTimeoutMs⟩ out' protocol targetPort) := by
  unfold createAllocation
  apply simulates_bind simulates_readFailpoints
  intro failpoints
  cases failpoints.createTimeout with
  | true => exact simulates_throw _
  | false => exact simulates_createLoop hfacades hout _ _ _ _ _

theorem simulates_assignBinding (allocation : Allocation) (binding : Binding) :
    Simulates (Alike related)
      (assignBinding ⟨facade, portRange, applyTimeoutMs⟩ out allocation binding)
      (assignBinding ⟨facade', portRange, applyTimeoutMs⟩ out' allocation binding) := by
  unfold assignBinding
  apply simulates_bind (simulates_repoWrite hout _)
  intro _
  apply simulates_bind simulates_readFailpoints
  intro failpoints
  cases failpoints.updateTimeout with
  | true => exact simulates_throw _
  | false =>
      apply simulates_bind (simulates_callRuntime hout (fun hreply hrelated =>
        hfacades.update hreply hrelated _ _))
      intro updated
      exact simulates_bind (simulates_orRuntimeError _) (fun _ => simulates_pure _)

theorem simulates_putBinding (id host : String) (targetPort : UInt16) :
    Simulates (Alike related)
      (putBinding ⟨facade, portRange, applyTimeoutMs⟩ out id host targetPort)
      (putBinding ⟨facade', portRange, applyTimeoutMs⟩ out' id host targetPort) := by
  unfold putBinding
  cases parseIpLiteral host with
  | error error => exact simulates_throw _
  | ok _ =>
      apply simulates_bind (simulates_repoRead hout _)
      intro found
      rcases found with _ | ⟨allocation, existing⟩
      · exact simulates_throw _
      · apply simulates_bind (simulates_currentTimeMs hout)
        intro now
        exact simulates_bind (simulates_assignBinding hfacades hout _ _)
          (fun _ => simulates_pure _)

theorem simulates_deleteBinding (id : String) :
    Simulates (Alike related)
      (deleteBinding ⟨facade, portRange, applyTimeoutMs⟩ out id)
      (deleteBinding ⟨facade', portRange, applyTimeoutMs⟩ out' id) := by
  unfold deleteBinding
  apply simulates_bind (simulates_repoRead hout _)
  intro found
  rcases found with _ | ⟨allocation, _ | existing⟩
  · exact simulates_throw _
  · exact simulates_throw _
  apply simulates_bind (simulates_currentTimeMs hout)
  intro now
  apply simulates_bind (simulates_repoWrite hout _)
  intro changed
  cases changed with
  | false => exact simulates_throw _
  | true =>
      apply simulates_bind simulates_readFailpoints
      intro failpoints
      cases failpoints.updateTimeout with
      | true => exact simulates_throw _
      | false =>
          apply simulates_bind (simulates_callRuntime hout (fun hreply hrelated =>
            hfacades.update hreply hrelated _ _))
          intro updated
          exact simulates_orRuntimeError _

theorem simulates_updateAllocation (id : String) (targetPort : Option UInt16)
    (host : Option String) :
    Simulates (Alike related)
      (updateAllocation ⟨facade, portRange, applyTimeoutMs⟩ out id targetPort host)
      (updateAllocation ⟨facade', portRange, applyTimeoutMs⟩ out' id targetPort host) := by
  unfold updateAllocation
  apply simulates_bind (simulates_repoRead hout _)
  intro found
  rcases found with _ | ⟨allocation, existing⟩
  · exact simulates_throw _
  dsimp only
  cases (host.map (fun host => (parseIpLiteral host).isOk)).getD true with
  | false => exact simulates_throw _
  | true =>
      cases targetPort.or (existing.map Binding.targetPort) with
      | none => exact simulates_throw _
      | some resolvedTargetPort =>
          exact simulates_bind (simulates_currentTimeMs hout)
            (fun _ => simulates_assignBinding hfacades hout _ _)

theorem simulates_deleteAllocation (id : String) :
    Simulates (Alike related)
      (deleteAllocation ⟨facade, portRange, applyTimeoutMs⟩ out id)
      (deleteAllocation ⟨facade', portRange, applyTimeoutMs⟩ out' id) := by
  unfold deleteAllocation
  apply simulates_bind (simulates_repoRead hout _)
  intro found
  cases found with
  | none => exact simulates_throw _
  | some allocation =>
      apply simulates_bind simulates_readFailpoints
      intro failpoints
      cases failpoints.deleteTimeout with
      | true => exact simulates_throw _
      | false =>
          apply simulates_bind (simulates_callRuntime hout (fun hreply hrelated =>
            hfacades.delete hreply hrelated _ _))
          intro deleted
          apply simulates_bind (simulates_orRuntimeError _)
          intro _
          apply simulates_bind simulates_readFailpoints
          intro failpoints
          cases failpoints.deleteDbFailure with
          | true =>
              apply simulates_bind (simulates_callRuntime hout (fun hreply hrelated =>
                hfacades.restore hreply hrelated _ _))
              intro restored
              exact simulates_bind (simulates_orRuntimeError _) (fun _ => simulates_throw _)
          | false =>
              apply simulates_bind (simulates_repoWrite hout _)
              intro removed
              cases removed with
              | false => exact simulates_throw _
              | true => exact simulates_pure _

theorem perform_alike (mutation : Mutation) {w : World rt} {v : World rt'}
    (h : Alike related w v) :
    Alike related (perform ⟨facade, portRange, applyTimeoutMs⟩ out mutation w)
      (perform ⟨facade', portRange, applyTimeoutMs⟩ out' mutation v) := by
  cases mutation with
  | createAllocation protocol targetPort =>
      exact (simulates_createAllocation hfacades hout protocol targetPort w v h).right
  | putBinding id host targetPort =>
      exact (simulates_putBinding hfacades hout id host targetPort w v h).right
  | deleteBinding id => exact (simulates_deleteBinding hfacades hout id w v h).right
  | updateAllocation id targetPort host =>
      exact (simulates_updateAllocation hfacades hout id targetPort host w v h).right
  | setTarget id host =>
      exact (simulates_updateAllocation hfacades hout id none (some host) w v h).right
  | deleteAllocation id => exact (simulates_deleteAllocation hfacades hout id w v h).right

end Operations

end Service
end Relayd
