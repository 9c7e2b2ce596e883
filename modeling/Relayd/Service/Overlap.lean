import Relayd.Foundation.Suspension
import Relayd.Runtime.Netlink
import Relayd.Service.AllocationService

/-!
# Requests that overlap

The control plane serves its requests side by side.  A mutation waits for
`mutation_lock` and is suspended at each call it makes to the outside; the reads of one
row do not take the lock and run at any time in between.  The suspended mutations below
are the ones of the service, cut at these calls.
-/

namespace Relayd
namespace Service
namespace Overlap

open Foundation Relayd.Runtime Storage
open Foundation.Suspended (Denotes denotes_pure denotes_throw denotes_attempt denotes_bind
  Settled Once settled_bind once_bind_left once_bind_right once_attempt)

/-!
# Suspended mutations
-/

abbrev Suspension (rt value : Type) := Suspended (World rt) ServiceError value

/-- One call to the outside, carried out between two awaits. -/
def call {rt value : Type} (program : ServiceM rt value) : Suspension rt value :=
  Suspended.act program.exec

def fail {rt value : Type} (error : ServiceError) : Suspension rt value :=
  .done (.error error)

section Suspensions

variable {rt answer : Type} (svc : Service rt answer) (out : Outside answer)

def suspendRuntimeError {value : Type} : Except RuntimeError value -> Suspension rt value
  | .ok result => pure result
  | .error error => fail (.runtime error)

def suspendCreateLoop (protocol : Protocol) (targetPort : Option UInt16) :
    (fuel : Nat) -> (nextPort : Option UInt16) ->
    remainingPorts nextPort ≤ fuel -> Suspension rt Allocation
  | _, none, _ => fail .noAvailablePort
  | 0, some start, h => absurd h (not_remainingPorts_some_le_zero start)
  | fuel + 1, some start, h => do
      let found <- call (repoRead out
        (findAvailableAllocationPort protocol start svc.portRange.end))
      match found with
      | none => fail .noAvailablePort
      | some port => do
          let now <- call (currentTimeMs out)
          let id <- call (generateId out)
          let allocation : Allocation :=
            { id := id
              protocol := protocol
              port := port.val
              targetPort := targetPort
              host := none
              createdAtMs := now
              updatedAtMs := now }
          let created <- call (callRuntime out (fun answer =>
            svc.runtime.create answer allocation svc.applyTimeoutMs))
          match created with
          | .error .runtimeCreateFailed =>
              suspendCreateLoop protocol targetPort fuel (checkedSucc port.val)
                (remainingPorts_checkedSucc port.property.left h)
          | .error error => fail (.runtime error)
          | .ok () => do
              let persisted <- Suspended.attempt
                (call (persistCreatedAllocation out allocation))
              match persisted with
              | .error error => do
                  let _ <- call (callRuntime out (fun answer =>
                    svc.runtime.delete answer allocation.id svc.applyTimeoutMs))
                  fail error
              | .ok () => pure allocation

def suspendCreateFrom (protocol : Protocol) (targetPort : Option UInt16) (start : UInt16) :
    Suspension rt Allocation :=
  suspendCreateLoop svc out protocol targetPort (remainingPorts (some start)) (some start)
    (Nat.le_refl _)

def suspendCreateAllocation (protocol : Protocol) (targetPort : Option UInt16) :
    Suspension rt Allocation := do
  let failpoints <- call readFailpoints
  if failpoints.createTimeout then fail .timeout
  else suspendCreateFrom svc out protocol targetPort svc.portRange.start

def suspendAssignBinding (allocation : Allocation) (binding : Binding) :
    Suspension rt Allocation := do
  let () <- call (repoWrite out (fun db => .ok ((), Storage.putBinding binding db)))
  let updatedAllocation := allocationWithBinding allocation binding
  let failpoints <- call readFailpoints
  if failpoints.updateTimeout then fail .timeout
  else do
    let updated <- call (callRuntime out (fun answer =>
      svc.runtime.update answer updatedAllocation svc.applyTimeoutMs))
    let () <- suspendRuntimeError updated
    pure updatedAllocation

/-- A host that is no ip literal is refused before the lock is taken. -/
def suspendPutBinding (id host : String) (targetPort : UInt16) : Suspension rt Binding :=
  match parseIpLiteral host with
  | .error _ => fail .invalidHost
  | .ok _ => do
      let found <- call (repoRead out (getAllocationWithBinding id))
      match found with
      | none => fail .notFound
      | some (allocation, existingBinding) => do
          let now <- call (currentTimeMs out)
          let binding : Binding :=
            { allocationId := id
              targetPort := targetPort
              host := some host
              createdAtMs := (existingBinding.map Binding.createdAtMs).getD now
              updatedAtMs := now }
          let _ <- suspendAssignBinding svc out allocation binding
          pure binding

def suspendDeleteBinding (id : String) : Suspension rt Unit := do
  let found <- call (repoRead out (getAllocationWithBinding id))
  match found with
  | none => fail .notFound
  | some (_, none) => fail .notFound
  | some (allocation, some _) => do
      let now <- call (currentTimeMs out)
      let changed <- call (repoWrite out (fun db => .ok (Storage.deleteBinding id now db)))
      if changed then do
        let updatedAllocation := allocationWithoutBinding allocation now
        let failpoints <- call readFailpoints
        if failpoints.updateTimeout then fail .timeout
        else do
          let updated <- call (callRuntime out (fun answer =>
            svc.runtime.update answer updatedAllocation svc.applyTimeoutMs))
          suspendRuntimeError updated
      else fail .notFound

def suspendUpdateAllocation (id : String) (targetPort : Option UInt16)
    (host : Option String) : Suspension rt Allocation := do
  let found <- call (repoRead out (getAllocationWithBinding id))
  match found with
  | none => fail .notFound
  | some (allocation, existingBinding) =>
      if (host.map (fun host => (parseIpLiteral host).isOk)).getD true then
        match targetPort.or (existingBinding.map Binding.targetPort) with
        | none => fail .notFound
        | some resolvedTargetPort => do
            let resolvedHost :=
              (host.or (existingBinding.bind Binding.host)).or allocation.host
            let now <- call (currentTimeMs out)
            let binding : Binding :=
              { allocationId := id
                targetPort := resolvedTargetPort
                host := resolvedHost
                createdAtMs := (existingBinding.map Binding.createdAtMs).getD now
                updatedAtMs := now }
            suspendAssignBinding svc out allocation binding
      else fail .invalidHost

def suspendDeleteAllocation (id : String) : Suspension rt Unit := do
  let found <- call (repoRead out (getAllocation id))
  match found with
  | none => fail .notFound
  | some allocation => do
      let failpoints <- call readFailpoints
      if failpoints.deleteTimeout then fail .timeout
      else do
        let deleted <- call (callRuntime out (fun answer =>
          svc.runtime.delete answer id svc.applyTimeoutMs))
        let () <- suspendRuntimeError deleted
        let failpoints <- call readFailpoints
        if failpoints.deleteDbFailure then do
          let restored <- call (callRuntime out (fun answer =>
            svc.runtime.restore answer allocation svc.applyTimeoutMs))
          let () <- suspendRuntimeError restored
          fail .deletePersistenceFailed
        else do
          let removed <- call (repoWrite out (fun db =>
            .ok (Storage.deleteAllocation id db)))
          if removed then pure () else fail .notFound

end Suspensions

/-!
# The suspended mutations are the mutations
-/

section Denotes

variable {rt answer value : Type} {svc : Service rt answer} {out : Outside answer}

theorem denotes_call (program : ServiceM rt value) : Denotes (call program) program :=
  fun _ => rfl

theorem denotes_fail (error : ServiceError) :
    Denotes (fail error : Suspension rt value) (throw error) :=
  denotes_throw error

theorem denotes_runtimeError (r : Except RuntimeError value) :
    Denotes (suspendRuntimeError r : Suspension rt value) (orRuntimeError r) := by
  cases r with
  | ok result => exact denotes_pure result
  | error error => exact denotes_fail (.runtime error)

theorem denotes_createLoop (protocol : Protocol) (targetPort : Option UInt16) (fuel : Nat)
    (nextPort : Option UInt16) (h : remainingPorts nextPort ≤ fuel) :
    Denotes (suspendCreateLoop svc out protocol targetPort fuel nextPort h)
      (createLoop svc out protocol targetPort fuel nextPort h) := by
  induction fuel generalizing nextPort with
  | zero =>
      cases nextPort with
      | none => exact denotes_fail .noAvailablePort
      | some start => exact absurd h (not_remainingPorts_some_le_zero start)
  | succ fuel ih =>
      cases nextPort with
      | none => exact denotes_fail .noAvailablePort
      | some start =>
          apply denotes_bind (denotes_call _)
          intro found
          cases found with
          | none => exact denotes_fail .noAvailablePort
          | some port =>
              apply denotes_bind (denotes_call _)
              intro now
              apply denotes_bind (denotes_call _)
              intro id
              apply denotes_bind (denotes_call _)
              intro created
              cases created with
              | error error =>
                  cases error with
                  | runtimeCreateFailed => exact ih _ _
                  | _ => exact denotes_fail _
              | ok created =>
                  apply denotes_bind (denotes_attempt (denotes_call _))
                  intro persisted
                  cases persisted with
                  | error error =>
                      apply denotes_bind (denotes_call _)
                      intro _
                      exact denotes_fail error
                  | ok persisted => exact denotes_pure _

theorem denotes_createAllocation (protocol : Protocol) (targetPort : Option UInt16) :
    Denotes (suspendCreateAllocation svc out protocol targetPort)
      (createAllocation svc out protocol targetPort) := by
  apply denotes_bind (denotes_call _)
  intro failpoints
  cases hfail : failpoints.createTimeout with
  | true =>
      rw [if_pos rfl, if_pos rfl]
      exact denotes_fail .timeout
  | false =>
      rw [if_neg Bool.false_ne_true, if_neg Bool.false_ne_true]
      exact denotes_createLoop _ _ _ _ _

theorem denotes_assignBinding (allocation : Allocation) (binding : Binding) :
    Denotes (suspendAssignBinding svc out allocation binding)
      (assignBinding svc out allocation binding) := by
  apply denotes_bind (denotes_call _)
  intro _
  apply denotes_bind (denotes_call _)
  intro failpoints
  split
  · exact denotes_fail .timeout
  · apply denotes_bind (denotes_call _)
    intro updated
    apply denotes_bind (denotes_runtimeError updated)
    intro _
    exact denotes_pure _

theorem denotes_putBinding (id host : String) (targetPort : UInt16) :
    Denotes (suspendPutBinding svc out id host targetPort)
      (putBinding svc out id host targetPort) := by
  unfold suspendPutBinding putBinding
  cases parseIpLiteral host with
  | error error => exact denotes_fail .invalidHost
  | ok address =>
      apply denotes_bind (denotes_call _)
      intro found
      cases found with
      | none => exact denotes_fail .notFound
      | some found =>
          apply denotes_bind (denotes_call _)
          intro now
          apply denotes_bind (denotes_assignBinding _ _)
          intro _
          exact denotes_pure _

theorem denotes_deleteBinding (id : String) :
    Denotes (suspendDeleteBinding svc out id) (deleteBinding svc out id) := by
  apply denotes_bind (denotes_call _)
  intro found
  cases found with
  | none => exact denotes_fail .notFound
  | some found =>
      rcases found with ⟨allocation, existing⟩
      cases existing with
      | none => exact denotes_fail .notFound
      | some existing =>
          apply denotes_bind (denotes_call _)
          intro now
          apply denotes_bind (denotes_call _)
          intro changed
          split
          · apply denotes_bind (denotes_call _)
            intro failpoints
            split
            · exact denotes_fail .timeout
            · apply denotes_bind (denotes_call _)
              intro updated
              exact denotes_runtimeError updated
          · exact denotes_fail .notFound

theorem denotes_updateAllocation (id : String) (targetPort : Option UInt16)
    (host : Option String) :
    Denotes (suspendUpdateAllocation svc out id targetPort host)
      (updateAllocation svc out id targetPort host) := by
  apply denotes_bind (denotes_call _)
  intro found
  cases found with
  | none => exact denotes_fail .notFound
  | some found =>
      rcases found with ⟨allocation, existing⟩
      dsimp only
      split
      · cases targetPort.or (existing.map Binding.targetPort) with
        | none => exact denotes_fail .notFound
        | some resolved =>
            apply denotes_bind (denotes_call _)
            intro now
            exact denotes_assignBinding _ _
      · exact denotes_fail .invalidHost

theorem denotes_deleteAllocation (id : String) :
    Denotes (suspendDeleteAllocation svc out id) (deleteAllocation svc out id) := by
  apply denotes_bind (denotes_call _)
  intro found
  cases found with
  | none => exact denotes_fail .notFound
  | some allocation =>
      apply denotes_bind (denotes_call _)
      intro failpoints
      split
      · exact denotes_fail .timeout
      · apply denotes_bind (denotes_call _)
        intro deleted
        apply denotes_bind (denotes_runtimeError deleted)
        intro _
        apply denotes_bind (denotes_call _)
        intro failpoints
        split
        · apply denotes_bind (denotes_call _)
          intro restored
          apply denotes_bind (denotes_runtimeError restored)
          intro _
          exact denotes_fail .deletePersistenceFailed
        · apply denotes_bind (denotes_call _)
          intro removed
          split
          · exact denotes_pure ()
          · exact denotes_fail .notFound

end Denotes

/-!
# Each mutation writes to the repository at most once
-/

section Once

variable {rt answer value : Type} {svc : Service rt answer} {out : Outside answer}

theorem settled_call {program : ServiceM rt value}
    (h : forall w, (program.exec w).2.db = w.db) : Settled World.db (call program) :=
  Suspended.settled_act h

theorem once_call (program : ServiceM rt value) : Once World.db (call program) :=
  Suspended.once_act program.exec

theorem settled_fail (error : ServiceError) :
    Settled World.db (fail error : Suspension rt value) := trivial

theorem settled_pure (a : value) : Settled World.db (pure a : Suspension rt value) := trivial

theorem settled_failpoints : Settled World.db (call readFailpoints : Suspension rt Failpoints) :=
  settled_call (fun _ => rfl)

theorem settled_time : Settled World.db (call (currentTimeMs out) : Suspension rt Int) :=
  settled_call (fun _ => rfl)

theorem settled_id : Settled World.db (call (generateId out) : Suspension rt String) :=
  settled_call (fun _ => rfl)

theorem settled_runtime (request : answer -> rt -> Except RuntimeError value × rt) :
    Settled World.db (call (callRuntime out request)) :=
  settled_call (fun _ => rfl)

theorem settled_read (query : Database -> Except RepositoryError value) :
    Settled World.db (call (repoRead out query) : Suspension rt value) := by
  apply settled_call
  intro w
  unfold repoRead
  rw [Fallible.exec_act]
  cases out.repository w.calls with
  | some fault => rfl
  | none => cases query w.db <;> rfl

theorem settled_runtimeError (r : Except RuntimeError value) :
    Settled World.db (suspendRuntimeError r : Suspension rt value) := by
  cases r <;> trivial

theorem once_createLoop (protocol : Protocol) (targetPort : Option UInt16) (fuel : Nat)
    (nextPort : Option UInt16) (h : remainingPorts nextPort ≤ fuel) :
    Once World.db (suspendCreateLoop svc out protocol targetPort fuel nextPort h) := by
  induction fuel generalizing nextPort with
  | zero =>
      cases nextPort with
      | none => trivial
      | some start => exact absurd h (not_remainingPorts_some_le_zero start)
  | succ fuel ih =>
      cases nextPort with
      | none => trivial
      | some start =>
          apply once_bind_right (settled_read _)
          intro found
          cases found with
          | none => trivial
          | some port =>
              apply once_bind_right settled_time
              intro now
              apply once_bind_right settled_id
              intro id
              apply once_bind_right (settled_runtime _)
              intro created
              cases created with
              | error error =>
                  cases error with
                  | runtimeCreateFailed => exact ih _ _
                  | _ => trivial
              | ok created =>
                  -- The row is written here; only the runtime is called after it.
                  apply once_bind_left (once_attempt (once_call _))
                  intro persisted
                  cases persisted with
                  | error error =>
                      apply settled_bind (settled_runtime _)
                      intro _
                      exact settled_fail error
                  | ok persisted => trivial

theorem once_createAllocation (protocol : Protocol) (targetPort : Option UInt16) :
    Once World.db (suspendCreateAllocation svc out protocol targetPort) := by
  apply once_bind_right settled_failpoints
  intro failpoints
  split
  · trivial
  · exact once_createLoop _ _ _ _ _

theorem once_assignBinding (allocation : Allocation) (binding : Binding) :
    Once World.db (suspendAssignBinding svc out allocation binding) := by
  apply once_bind_left (once_call _)
  intro _
  apply settled_bind settled_failpoints
  intro failpoints
  split
  · trivial
  · apply settled_bind (settled_runtime _)
    intro updated
    apply settled_bind (settled_runtimeError updated)
    intro _
    exact settled_pure _

theorem once_putBinding (id host : String) (targetPort : UInt16) :
    Once World.db (suspendPutBinding svc out id host targetPort) := by
  unfold suspendPutBinding
  cases parseIpLiteral host with
  | error error => trivial
  | ok address =>
      apply once_bind_right (settled_read _)
      intro found
      cases found with
      | none => trivial
      | some found =>
          apply once_bind_right settled_time
          intro now
          apply once_bind_left (once_assignBinding _ _)
          intro _
          exact settled_pure _

theorem once_deleteBinding (id : String) :
    Once World.db (suspendDeleteBinding svc out id) := by
  apply once_bind_right (settled_read _)
  intro found
  cases found with
  | none => trivial
  | some found =>
      rcases found with ⟨allocation, existing⟩
      cases existing with
      | none => trivial
      | some existing =>
          apply once_bind_right settled_time
          intro now
          apply once_bind_left (once_call _)
          intro changed
          split
          · apply settled_bind settled_failpoints
            intro failpoints
            split
            · trivial
            · apply settled_bind (settled_runtime _)
              intro updated
              exact settled_runtimeError updated
          · trivial

theorem once_updateAllocation (id : String) (targetPort : Option UInt16)
    (host : Option String) :
    Once World.db (suspendUpdateAllocation svc out id targetPort host) := by
  apply once_bind_right (settled_read _)
  intro found
  cases found with
  | none => trivial
  | some found =>
      rcases found with ⟨allocation, existing⟩
      dsimp only
      split
      · cases targetPort.or (existing.map Binding.targetPort) with
        | none => trivial
        | some resolved =>
            apply once_bind_right settled_time
            intro now
            exact once_assignBinding _ _
      · trivial

theorem once_deleteAllocation (id : String) :
    Once World.db (suspendDeleteAllocation svc out id) := by
  apply once_bind_right (settled_read _)
  intro found
  cases found with
  | none => trivial
  | some allocation =>
      apply once_bind_right settled_failpoints
      intro failpoints
      split
      · trivial
      · apply once_bind_right (settled_runtime _)
        intro deleted
        apply once_bind_right (settled_runtimeError deleted)
        intro _
        apply once_bind_right settled_failpoints
        intro failpoints
        split
        · apply once_bind_right (settled_runtime _)
          intro restored
          apply once_bind_right (settled_runtimeError restored)
          intro _
          trivial
        · apply once_bind_left (once_call _)
          intro removed
          split
          · trivial
          · trivial

end Once

/-!
# Overlapping requests
-/

inductive Reply where
  | allocation (allocation : Allocation)
  | binding (binding : Binding)
  | unit
deriving DecidableEq, Repr

/-- The reads that take one query. -/
inductive Question where
  | getAllocation (id : String)
  | getBinding (id : String)
deriving DecidableEq, Repr

inductive Found where
  | allocation (result : Except ServiceError (Option Allocation))
  | binding (result : Except ServiceError (Option Binding))
deriving DecidableEq, Repr

instance : DecidableEq Database := fun db db' =>
  decidable_of_iff (db.allocations = db'.allocations ∧ db.bindings = db'.bindings) (by
    rcases db with ⟨allocations, bindings, _, _, _⟩
    rcases db' with ⟨allocations', bindings', _, _, _⟩
    simp only [Database.mk.injEq])

section Requests

variable {rt answer : Type} (svc : Service rt answer) (out : Outside answer)

def replyTo : Mutation -> ServiceM rt Reply
  | .createAllocation protocol targetPort => do
      let allocation <- createAllocation svc out protocol targetPort
      pure (.allocation allocation)
  | .putBinding id host targetPort => do
      let binding <- putBinding svc out id host targetPort
      pure (.binding binding)
  | .deleteBinding id => do
      let () <- deleteBinding svc out id
      pure .unit
  | .updateAllocation id targetPort host => do
      let allocation <- updateAllocation svc out id targetPort host
      pure (.allocation allocation)
  | .setTarget id host => do
      let allocation <- setTarget svc out id host
      pure (.allocation allocation)
  | .deleteAllocation id => do
      let () <- deleteAllocation svc out id
      pure .unit

def suspend : Mutation -> Suspension rt Reply
  | .createAllocation protocol targetPort => do
      let allocation <- suspendCreateAllocation svc out protocol targetPort
      pure (.allocation allocation)
  | .putBinding id host targetPort => do
      let binding <- suspendPutBinding svc out id host targetPort
      pure (.binding binding)
  | .deleteBinding id => do
      let () <- suspendDeleteBinding svc out id
      pure .unit
  | .updateAllocation id targetPort host => do
      let allocation <- suspendUpdateAllocation svc out id targetPort host
      pure (.allocation allocation)
  | .setTarget id host => do
      let allocation <- suspendUpdateAllocation svc out id none (some host)
      pure (.allocation allocation)
  | .deleteAllocation id => do
      let () <- suspendDeleteAllocation svc out id
      pure .unit

/-- A read of one row; it may fail on its own. -/
def lookUp : Question -> Option RepositoryError -> Database -> Found
  | .getAllocation _, some error, _ => .allocation (.error (.repository error))
  | .getAllocation id, none, db =>
      .allocation ((getAllocation id db).mapError ServiceError.repository)
  | .getBinding _, some error, _ => .binding (.error (.repository error))
  | .getBinding id, none, db =>
      .binding ((getBinding id db).mapError ServiceError.repository)

def requests : Locked (World rt) ServiceError Reply Database Mutation Question
    (Option RepositoryError) Found where
  program := suspend svc out
  seen := World.db
  lookUp := lookUp

/-- One request, with no other under way. -/
def Answers (w : World rt) : Locked.Request Mutation Question ->
    Locked.Answer ServiceError Reply Found -> World rt -> Prop
  | .change mutation, answer, w' =>
      w' = perform svc out mutation w ∧
        answer = .changed ((replyTo svc out mutation).exec w).1
  | .ask question, answer, w' =>
      w' = w ∧ exists fault, answer = .found (lookUp question fault w.db)

variable {svc} {out}

theorem denotes_suspend (mutation : Mutation) :
    Denotes (suspend svc out mutation) (replyTo svc out mutation) := by
  cases mutation with
  | createAllocation protocol targetPort =>
      exact denotes_bind (denotes_createAllocation protocol targetPort)
        (fun _ => denotes_pure _)
  | putBinding id host targetPort =>
      exact denotes_bind (denotes_putBinding id host targetPort) (fun _ => denotes_pure _)
  | deleteBinding id =>
      exact denotes_bind (denotes_deleteBinding id) (fun _ => denotes_pure _)
  | updateAllocation id targetPort host =>
      exact denotes_bind (denotes_updateAllocation id targetPort host)
        (fun _ => denotes_pure _)
  | setTarget id host =>
      exact denotes_bind (denotes_updateAllocation id none (some host))
        (fun _ => denotes_pure _)
  | deleteAllocation id =>
      exact denotes_bind (denotes_deleteAllocation id) (fun _ => denotes_pure _)

theorem once_suspend (mutation : Mutation) : Once World.db (suspend svc out mutation) := by
  cases mutation with
  | createAllocation protocol targetPort =>
      exact once_bind_left (once_createAllocation protocol targetPort)
        (fun _ => settled_pure _)
  | putBinding id host targetPort =>
      exact once_bind_left (once_putBinding id host targetPort) (fun _ => settled_pure _)
  | deleteBinding id =>
      exact once_bind_left (once_deleteBinding id) (fun _ => settled_pure _)
  | updateAllocation id targetPort host =>
      exact once_bind_left (once_updateAllocation id targetPort host)
        (fun _ => settled_pure _)
  | setTarget id host =>
      exact once_bind_left (once_updateAllocation id none (some host))
        (fun _ => settled_pure _)
  | deleteAllocation id =>
      exact once_bind_left (once_deleteAllocation id) (fun _ => settled_pure _)

theorem exec_pure_snd {value result : Type} (program : ServiceM rt value)
    (f : value -> result) (w : World rt) :
    ((do let a <- program; pure (f a) : ServiceM rt result).exec w).2 =
      (program.exec w).2 := by
  rw [Fallible.exec_bind]
  rcases program.exec w with ⟨r, w'⟩
  cases r <;> rfl

theorem perform_eq (mutation : Mutation) (w : World rt) :
    perform svc out mutation w = ((replyTo svc out mutation).exec w).2 := by
  cases mutation <;> exact (exec_pure_snd _ _ w).symm

theorem answers_of_requests {w w' : World rt} {request : Locked.Request Mutation Question}
    {reply : Locked.Answer ServiceError Reply Found}
    (h : Locked.Answers (requests svc out) w request reply w') :
    Answers svc out w request reply w' := by
  cases request with
  | change mutation =>
      rcases h with ⟨hstate, hreply⟩
      have hdenotes : (suspend svc out mutation).exec w = (replyTo svc out mutation).exec w :=
        denotes_suspend mutation w
      constructor
      · rw [perform_eq, ← hdenotes]
        exact hstate
      · rw [← hdenotes]
        exact hreply
  | ask question => exact h

/-- The mutations among the requests, in the order in which they took effect. -/
def mutationsOf (order : List (Effect (Locked.Request Mutation Question)
    (Locked.Answer ServiceError Reply Found))) : List Mutation :=
  order.filterMap (fun e =>
    match e.operation with
    | .change mutation => some mutation
    | .ask _ => none)

theorem performAll_of_sequential {w w' : World rt}
    {order : List (Effect (Locked.Request Mutation Question)
      (Locked.Answer ServiceError Reply Found))}
    (h : Sequential (Answers svc out) w order w') :
    w' = performAll svc out (mutationsOf order) w := by
  induction h with
  | nil => rfl
  | @snoc s s' done next _ hnext ih =>
      unfold mutationsOf performAll at ih ⊢
      rw [List.filterMap_append, List.foldl_append, ← ih]
      rcases next with ⟨n, request, reply⟩
      cases request with
      | change mutation => exact hnext.left
      | ask question => exact hnext.left

/-- However requests overlap, they are linearizable: the mutations are carried out one
after the other, and a read of an allocation or of a binding shows the rows as some
number of whole mutations have left them.  The rows are at every moment those of
`performAll`, and so is everything else when no mutation is under way. -/
theorem overlapping_requests_linearize (svc : Service rt answer) (out : Outside answer)
    (w : World rt) (steps : List (Locked.Step Mutation Question (Option RepositoryError)))
    (m : Locked.Machine (World rt) ServiceError Reply Mutation Question Found)
    (hrun : run (Locked.next (requests svc out)) steps (Locked.Machine.start w) = some m) :
    let log := marks (Locked.next (requests svc out)) Locked.mark steps (Locked.Machine.start w)
    let final := performAll svc out (mutationsOf (effects log)) w
    Linearizes (Answers svc out) w (history log) (effects log) final ∧
      m.shared.db = final.db ∧ (m.lock = none -> m.shared = final) := by
  intro log final
  have honce : forall mutation,
      ((requests svc out).program mutation).Once (requests svc out).seen := once_suspend
  rcases Locked.linearizes honce hrun with ⟨final', hlinearizes, hseen, hquiet⟩
  have hanswers := hlinearizes.mono (fun _ _ _ _ => answers_of_requests)
  have hfinal : final' = final := performAll_of_sequential hanswers.sequential
  rw [hfinal] at hanswers hseen hquiet
  exact ⟨hanswers, hseen, hquiet⟩

end Requests

def smallService : Service NetlinkRuntime NftReply where
  runtime := NetlinkRuntime.facade
  portRange := ⟨4000, 4001⟩
  applyTimeoutMs := 1000

def calmOutside : Outside NftReply where
  clock := fun _ => 7
  newId := fun _ => "a"
  repository := fun _ => none
  runtime := fun _ => .accepted

def emptyWorld : World NetlinkRuntime where
  db := Database.empty
  runtime := NetlinkRuntime.new ⟨[], none⟩
  failpoints := Failpoints.default
  calls := 0

/-- An allocation is created while a read of it is under way and a delete waits. -/
def readWithinCreate : List (Locked.Step Mutation Question (Option RepositoryError)) :=
  [.invoke (.change (.createAllocation .tcp (some 80))), .advance 0,
    .invoke (.change (.deleteAllocation "a")), .invoke (.ask (.getAllocation "a")),
    .advance 0, .advance 0, .advance 0, .advance 0, .advance 0, .advance 0, .look 2 none,
    .advance 2, .advance 0, .advance 0]

theorem read_within_create_linearizes :
    exists m, run (Locked.next (requests smallService calmOutside)) readWithinCreate
        (Locked.Machine.start emptyWorld) = some m ∧ m.lock = none ∧
      let log := marks (Locked.next (requests smallService calmOutside)) Locked.mark
        readWithinCreate (Locked.Machine.start emptyWorld)
      let final := performAll smallService calmOutside (mutationsOf (effects log)) emptyWorld
      Linearizes (Answers smallService calmOutside) emptyWorld (history log) (effects log)
        final ∧ m.shared.db = final.db ∧ (m.lock = none -> m.shared = final) :=
  ⟨_, rfl, rfl, overlapping_requests_linearize smallService calmOutside emptyWorld
    readWithinCreate _ rfl⟩

end Overlap
end Service
end Relayd
