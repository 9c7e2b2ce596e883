import Relayd.Service.AllocationService

/-!
# Calls and rounds

The calls of a mutation to the outside have one rule each.  From these a rule for one
round of the create loop is made: a round asks for the least free port, generates an id
and tries the port.  There are six ways on from there; every property of the whole loop
is proved by saying what each of them does to it.
-/

namespace Relayd
namespace Service

open Foundation Fallible Relayd.Runtime Storage

/-!
# Rules for the calls
-/

def RepositoryFails {answer : Type} (out : Outside answer) : Prop :=
  exists call fault, out.repository call = some fault

section Rules

variable {rt answer value : Type} {out : Outside answer} {w : World rt}

/-- The world after a call that changed neither store. -/
def World.afterCall (w : World rt) : World rt := { w with calls := w.calls + 1 }

@[simp] theorem ensures_currentTimeMs
    (post : Except ServiceError Int -> World rt -> Prop) :
    Ensures (currentTimeMs out) post w =
      post (.ok (out.clock w.calls)) w.afterCall := rfl

@[simp] theorem ensures_generateId
    (post : Except ServiceError String -> World rt -> Prop) :
    Ensures (generateId out) post w =
      post (.ok (out.newId w.calls)) w.afterCall := rfl

@[simp] theorem ensures_readFailpoints
    (post : Except ServiceError Failpoints -> World rt -> Prop) :
    Ensures readFailpoints post w = post (.ok w.failpoints) w := rfl

@[simp] theorem ensures_callRuntime
    (call : answer -> rt -> Except RuntimeError value × rt)
    (post : Except ServiceError (Except RuntimeError value) -> World rt -> Prop) :
    Ensures (callRuntime out call) post w =
      post (.ok (call (out.runtime w.calls) w.runtime).1)
        { w with
          runtime := (call (out.runtime w.calls) w.runtime).2
          calls := w.calls + 1 } := rfl

theorem ensures_orRuntimeError {result : Except RuntimeError value}
    {post : Except ServiceError value -> World rt -> Prop}
    (herror : forall error, result = .error error ->
      post (.error (.runtime error)) w)
    (hok : forall a, result = .ok a -> post (.ok a) w) :
    Ensures (orRuntimeError result) post w := by
  cases result with
  | error error => exact herror error rfl
  | ok a => exact hok a rfl

theorem ensures_repoRead
    {query : Database -> Except RepositoryError value}
    {post : Except ServiceError value -> World rt -> Prop}
    (herror : forall error, post (.error (.repository error)) w.afterCall)
    (hok : forall result, query w.db = .ok result ->
      post (.ok result) w.afterCall) :
    Ensures (repoRead out query) post w := by
  unfold repoRead
  rw [ensures_act]
  cases out.repository w.calls with
  | some fault => exact herror fault.error
  | none =>
      cases hquery : query w.db with
      | error error => exact herror error
      | ok result => exact hok result hquery

theorem ensures_repoWrite
    {transaction : Database -> Except RepositoryError (value × Database)}
    {post : Except ServiceError value -> World rt -> Prop}
    (hrefused : forall error, transaction w.db = .error error ->
      post (.error (.repository error)) w.afterCall)
    (hlost : forall fault, out.repository w.calls = some fault ->
      post (.error (.repository fault.error)) w.afterCall)
    (hkept : forall fault result db, out.repository w.calls = some fault ->
      transaction w.db = .ok (result, db) ->
      post (.error (.repository fault.error)) { w.afterCall with db := db })
    (hok : forall result db, transaction w.db = .ok (result, db) ->
      post (.ok result) { w.afterCall with db := db }) :
    Ensures (repoWrite out transaction) post w := by
  unfold repoWrite
  rw [ensures_act]
  cases htransaction : transaction w.db with
  | error error => exact hrefused error htransaction
  | ok outcome =>
      rcases outcome with ⟨result, db⟩
      cases hfault : out.repository w.calls with
      | none => exact hok result db htransaction
      | some fault =>
          cases hcommitted : fault.committed with
          | true =>
              simpa [hcommitted, World.afterCall] using
                hkept fault result db hfault htransaction
          | false => simpa [hcommitted, World.afterCall] using hlost fault hfault

end Rules

/-!
# One round of the create loop
-/

/-- The ports a scan from `nextPort` may settle on. -/
def FreeFrom (protocol : Protocol) (db : Database) («end» : UInt16) (nextPort : Option UInt16)
    (port : UInt16) : Prop :=
  exists start, nextPort = some start ∧ (start ≤ port ∧ port ≤ «end») ∧
    FreePort protocol db port

theorem not_freeFrom_none {protocol : Protocol} {db : Database} {«end» port : UInt16} :
    ¬ FreeFrom protocol db «end» none port := by
  intro h
  rcases h with ⟨start, hstart, _⟩
  cases hstart

section Round

variable {rt answer : Type} {svc : Service rt answer} {out : Outside answer}
  {protocol : Protocol} {targetPort : Option UInt16}

/-- What a round tries from a world, and what the runtime makes of it. -/
structure Attempt (svc : Service rt answer) (out : Outside answer) (protocol : Protocol)
    (targetPort : Option UInt16) (start : UInt16) (w : World rt) (allocation : Allocation)
    (created : Except RuntimeError Unit) (runtime : rt) : Prop where
  free : FreeFrom protocol w.db svc.portRange.end (some start) allocation.port
  least : forall other, FreeFrom protocol w.db svc.portRange.end (some start) other ->
    allocation.port ≤ other
  id_eq : allocation.id = out.newId (w.calls + 2)
  protocol_eq : allocation.protocol = protocol
  targetPort_eq : allocation.targetPort = targetPort
  unbound : allocation.host = none
  createdAtMs_eq : allocation.createdAtMs = out.clock (w.calls + 1)
  updatedAtMs_eq : allocation.updatedAtMs = out.clock (w.calls + 1)
  create_eq : svc.runtime.create (out.runtime (w.calls + 3)) allocation svc.applyTimeoutMs
    w.runtime = (created, runtime)

/-- The insert was refused, or the repository reported a failure; only a failure that
was reported after the commit leaves a trace. -/
def PersistenceFails (out : Outside answer) (w : World rt) (allocation : Allocation)
    (db : Database) : Prop :=
  ((exists error, persistCreated allocation w.db = .error error) ∧ db = w.db) ∨
    exists fault, out.repository (w.calls + 4) = some fault ∧
      ((fault.committed = false ∧ db = w.db) ∨
        (fault.committed = true ∧ persistCreated allocation w.db = .ok db))

theorem Attempt.remaining {start : UInt16} {w : World rt} {allocation : Allocation}
    {created : Except RuntimeError Unit} {runtime : rt} {fuel : Nat}
    (h : Attempt svc out protocol targetPort start w allocation created runtime)
    (hfuel : remainingPorts (some start) ≤ fuel + 1) :
    remainingPorts (checkedSucc allocation.port) ≤ fuel := by
  rcases h.free with ⟨_, hsome, hrange, _⟩
  cases hsome
  exact remainingPorts_checkedSucc hrange.1 hfuel

/-- The write of a round, in the world its create has left. -/
theorem ensures_persistCreated {w : World rt} {allocation : Allocation} {runtime : rt}
    {post : Except ServiceError Unit -> World rt -> Prop}
    (hfails : forall error db, PersistenceFails out w allocation db ->
      post (.error (.repository error))
        { w with db := db, runtime := runtime, calls := w.calls + 5 })
    (hok : forall db, persistCreated allocation w.db = .ok db ->
      post (.ok ()) { w with db := db, runtime := runtime, calls := w.calls + 5 }) :
    Ensures (persistCreatedAllocation out allocation) post
      { w with runtime := runtime, calls := w.calls + 4 } := by
  unfold persistCreatedAllocation repoWrite
  rw [ensures_act]
  cases hpersist : persistCreated allocation w.db with
  | error error =>
      have hrefused := hfails error w.db (Or.inl ⟨⟨error, hpersist⟩, rfl⟩)
      simpa [hpersist] using hrefused
  | ok db =>
      simp only [hpersist, Except.map_ok]
      cases hfault : out.repository (w.calls + 4) with
      | none => exact hok db hpersist
      | some fault =>
          cases hcommitted : fault.committed with
          | false =>
              have hlost := hfails fault.error w.db
                (Or.inr ⟨fault, hfault, Or.inl ⟨hcommitted, rfl⟩⟩)
              simpa [hcommitted] using hlost
          | true =>
              have hkept := hfails fault.error db
                (Or.inr ⟨fault, hfault, Or.inr ⟨hcommitted, hpersist⟩⟩)
              simpa [hcommitted] using hkept

theorem ensures_createLoop_succ {fuel : Nat} {start : UInt16}
    {hfuel : remainingPorts (some start) ≤ fuel + 1} {w : World rt}
    {post : Except ServiceError Allocation -> World rt -> Prop}
    (hfault : forall error, RepositoryFails out -> post (.error (.repository error)) w.afterCall)
    (hnone : (forall port, ¬ FreeFrom protocol w.db svc.portRange.end (some start) port) ->
      post (.error .noAvailablePort) w.afterCall)
    (hfailed : forall allocation runtime
      (h : Attempt svc out protocol targetPort start w allocation
        (.error .runtimeCreateFailed) runtime),
      Ensures (createLoop svc out protocol targetPort fuel (checkedSucc allocation.port)
        (h.remaining hfuel)) post { w with runtime := runtime, calls := w.calls + 4 })
    (hstopped : forall allocation error runtime, error ≠ .runtimeCreateFailed ->
      Attempt svc out protocol targetPort start w allocation (.error error) runtime ->
      post (.error (.runtime error)) { w with runtime := runtime, calls := w.calls + 4 })
    (hundone : forall allocation runtime error db,
      Attempt svc out protocol targetPort start w allocation (.ok ()) runtime ->
      PersistenceFails out w allocation db ->
      post (.error (.repository error))
        { w with
          db := db
          runtime := (svc.runtime.delete (out.runtime (w.calls + 5)) allocation.id
            svc.applyTimeoutMs runtime).2
          calls := w.calls + 6 })
    (hcreated : forall allocation runtime db,
      Attempt svc out protocol targetPort start w allocation (.ok ()) runtime ->
      persistCreated allocation w.db = .ok db ->
      post (.ok allocation) { w with db := db, runtime := runtime, calls := w.calls + 5 }) :
    Ensures (createLoop svc out protocol targetPort (fuel + 1) (some start) hfuel) post w := by
  unfold createLoop
  rw [ensures_bind, repoRead, ensures_act]
  cases hscan : out.repository w.calls with
  | some fault => exact hfault fault.error ⟨w.calls, fault, hscan⟩
  | none =>
      rcases findAvailableAllocationPort_spec protocol start svc.portRange.end w.db with
        ⟨hfound, hempty⟩ | ⟨port, hfound, hfree, hleast⟩
      · simp only [hfound]
        apply hnone
        rintro other ⟨_, hsome, hrange, hother⟩
        cases hsome
        exact hempty other hrange.1 hrange.2 hother
      · simp only [hfound, continues_ok, ensures_bind, ensures_currentTimeMs,
          ensures_generateId, ensures_callRuntime]
        have hattempt : forall allocation created runtime,
            allocation = Allocation.mk (out.newId (w.calls + 2)) protocol port.val targetPort
              none (out.clock (w.calls + 1)) (out.clock (w.calls + 1)) ->
            svc.runtime.create (out.runtime (w.calls + 3)) allocation svc.applyTimeoutMs
              w.runtime = (created, runtime) ->
            Attempt svc out protocol targetPort start w allocation created runtime := by
          intro allocation created runtime hallocation hcreate
          subst hallocation
          refine ⟨⟨start, rfl, port.property, hfree⟩, ?_, rfl, rfl, rfl, rfl, rfl, rfl, hcreate⟩
          rintro other ⟨_, hsome, hrange, hother⟩
          cases hsome
          exact hleast other hrange.1 hrange.2 hother
        generalize hallocation : Allocation.mk
          (out.newId ({ w with calls := w.calls + 1 } : World rt).afterCall.calls) protocol
          port.val targetPort none (out.clock (w.calls + 1)) (out.clock (w.calls + 1)) =
            allocation
        have hid : out.newId ({ w with calls := w.calls + 1 } : World rt).afterCall.calls =
            allocation.id := by
          rw [<- hallocation]
        rw [hid]
        rcases hcreate : svc.runtime.create
            (out.runtime ({ w with calls := w.calls + 1 } : World rt).afterCall.afterCall.calls)
            allocation svc.applyTimeoutMs
            ({ w with calls := w.calls + 1 } : World rt).afterCall.afterCall.runtime with
          ⟨created, runtime⟩
        have htried := hattempt allocation created runtime hallocation.symm hcreate
        cases created with
        | error error =>
            split
            · next heq =>
              cases heq
              subst hallocation
              exact hfailed _ runtime htried
            · next hother heq =>
              cases heq
              exact hstopped allocation error runtime hother htried
            · next heq => cases heq
        | ok created =>
            simp only [ensures_bind, ensures_attempt]
            show Ensures _ _ { w with runtime := runtime, calls := w.calls + 4 }
            apply ensures_persistCreated
            · intro error db hfails
              exact hundone allocation runtime error db htried hfails
            · intro db hpersist
              exact hcreated allocation runtime db htried hpersist

end Round

end Service
end Relayd
