import Relayd.Service.NetlinkAgreement
import Relayd.Service.ProxyAgreement

/-!
# Deletes that fail

A delete removes the allocation from the runtime first and from the store
second.  When the second half fails, the runtime has to be restored; the
failpoint that simulates such a failure does so, the failure of the transaction
itself does not.
-/

namespace Relayd
namespace Service

open Foundation Fallible Relayd.Runtime Storage

section Law

variable {rt answer aim : Type}

/-- What a failed delete relies on in a runtime: `target` is what the runtime
holds for an id, `aimOf` what it holds after restoring an allocation. -/
structure Keeps (facade : RuntimeFacade rt answer) (target : String -> rt -> Option aim)
    (aimOf : Allocation -> aim) : Prop where
  delete_ok : forall {reply id timeoutMs s s'},
    facade.delete reply id timeoutMs s = (.ok (), s') -> target id s' = none
  delete_error : forall {reply id timeoutMs s error s'},
    facade.delete reply id timeoutMs s = (.error error, s') ->
    target id s' = target id s
  restored : forall {reply reply' id allocation timeoutMs timeoutMs' s s' s''},
    facade.delete reply id timeoutMs s = (.ok (), s') ->
    facade.restore reply' allocation timeoutMs' s' = (.ok (), s'') ->
    allocation.id = id -> target id s'' = some (aimOf allocation)

end Law

/-!
# The proxy and the netlink runtime keep what they hold
-/

/-- The effective target a snapshot of the proxy runtime shows. -/
def proxyTarget (id : String) (s : RealRuntime) :
    Option (Option String × Option UInt16) :=
  match RealRuntime.snapshot id s with
  | .ok (some observed) => some (observed.effectiveHost, observed.effectiveTargetPort)
  | _ => none

def proxyAim (allocation : Allocation) : Option String × Option UInt16 :=
  ((entryStateFor allocation).effectiveHost,
    (entryStateFor allocation).effectiveTargetPort)

theorem proxyTarget_none {id : String} {s : RealRuntime} (h : ServedAs id none s) :
    proxyTarget id s = none := by
  have hprotocol : s.protocols.lookup id = none := congrArg RealRuntime.Served.protocol h
  simp [proxyTarget, RealRuntime.snapshot, hprotocol]

theorem target_of_listenerAt {entry : Type} {kind : EntryKind entry} {id : String}
    {entries : Entries entry} {allocation : Allocation}
    (h : kind.listenerAt id entries = some (listenerOf allocation)) :
    exists observed, snapshotEntry kind id entries = .ok (some observed) ∧
      (observed.effectiveHost, observed.effectiveTargetPort) = proxyAim allocation := by
  unfold EntryKind.listenerAt at h
  rcases Option.map_eq_some_iff.mp h with ⟨found, hfound, hlistener⟩
  refine ⟨(kind.state found).observed, ?_, ?_⟩
  · unfold snapshotEntry
    rw [hfound]
    rfl
  · have hhost := congrArg Listener.host hlistener
    have hport := congrArg Listener.targetPort hlistener
    exact Prod.ext hhost hport

theorem proxyTarget_some {id : String} {allocation : Allocation} {s : RealRuntime}
    (h : ServedAs id (some allocation) s) :
    proxyTarget id s = some (proxyAim allocation) := by
  have hprotocol : s.protocols.lookup id = some allocation.protocol :=
    congrArg RealRuntime.Served.protocol h
  have htcp := congrArg RealRuntime.Served.tcp h
  have hudp := congrArg RealRuntime.Served.udp h
  simp only [RealRuntime.servedAt, RealRuntime.servedFor] at htcp hudp
  unfold proxyTarget RealRuntime.snapshot
  rw [hprotocol]
  cases hconcrete : allocation.protocol with
  | tcp =>
      rw [hconcrete, if_pos (by decide)] at htcp
      rcases target_of_listenerAt htcp with ⟨observed, hsnapshot, hobserved⟩
      simp only [hsnapshot, hobserved]
  | udp =>
      rw [hconcrete, if_pos (by decide)] at hudp
      rcases target_of_listenerAt hudp with ⟨observed, hsnapshot, hobserved⟩
      simp only [hsnapshot, hobserved]
  | both =>
      rw [hconcrete, if_pos (by decide)] at htcp hudp
      rcases target_of_listenerAt htcp with ⟨observed, hsnapshot, hobserved⟩
      rcases target_of_listenerAt hudp with ⟨observed', hsnapshot', hobserved'⟩
      -- Diverging entries are reported as degraded, with the tcp target.
      by_cases hsame : observed = observed'
      · simp [hsnapshot, hsnapshot', RealRuntime.aggregateSnapshot, hsame, hobserved',
          bind, Except.bind]
      · simp [hsnapshot, hsnapshot', RealRuntime.aggregateSnapshot, hsame, hobserved,
          RealRuntime.degradedFrom, bind, Except.bind]

theorem realRuntime_keeps : Keeps RealRuntime.facade proxyTarget proxyAim where
  delete_ok := by
    intro binds id timeoutMs s s' hdelete
    exact proxyTarget_none (realRuntime_follows.delete_ok hdelete).self
  delete_error := by
    intro binds id timeoutMs s error s' hdelete
    have hreserves := RealRuntime.delete_reserves id s
    rw [ensures_exec, show (RealRuntime.delete id).exec s = _ from hdelete] at hreserves
    cases hreserves.left
  restored := by
    intro binds binds' id allocation timeoutMs timeoutMs' s s' s'' hdelete hrestore hid
    have habsent := (realRuntime_follows.delete_ok hdelete).self
    rw [← hid] at habsent ⊢
    exact proxyTarget_some (realRuntime_follows.restore_ok hrestore habsent).self

/-- The address and port the desired state of the netlink runtime aims at. -/
def netlinkTarget (id : String) (s : NetlinkRuntime) :
    Option (Option (IpAddr × UInt16)) :=
  (s.state.allocations.lookup id).map boundTarget

theorem netlinkRuntime_keeps : Keeps NetlinkRuntime.facade netlinkTarget boundTarget where
  delete_ok := by
    intro reply id timeoutMs s s' hdelete
    have hself : s'.state.allocations.lookup id = none :=
      (netlinkRuntime_follows.delete_ok hdelete).self
    unfold netlinkTarget
    rw [hself, Option.map_none]
  delete_error := by
    intro reply id timeoutMs s error s' hdelete
    have hself : s'.state.allocations.lookup id = s.state.allocations.lookup id :=
      (netlinkRuntime_follows.delete_error hdelete rfl).self
    unfold netlinkTarget
    rw [hself]
  restored := by
    intro reply reply' id allocation timeoutMs timeoutMs' s s' s'' hdelete hrestore hid
    have habsent := (netlinkRuntime_follows.delete_ok hdelete).self
    rw [← hid] at habsent ⊢
    have hself : s''.state.allocations.lookup allocation.id = some allocation :=
      (netlinkRuntime_follows.restore_ok hrestore habsent).self
    unfold netlinkTarget
    rw [hself, Option.map_some]

/-!
# When a failed delete changes nothing
-/

section Failing

variable {rt answer aim : Type} {svc : Service rt answer}
  {target : String -> rt -> Option aim} {aimOf : Allocation -> aim}

/-- A delete that reports a failure leaves the tables alone, and the runtime with
the target it held. -/
def FailureKeeps (target : String -> rt -> Option aim) (id : String) (w : World rt)
    (outcome : Except ServiceError Unit × World rt) : Prop :=
  outcome.1.isOk = false ->
    outcome.2.db = w.db ∧
      forall held, target id w.runtime = some held ->
        target id outcome.2.runtime = some held

/-- Once the runtime has given up an allocation it held, either the failpoint
path restores it, and it was held as it is stored, or the transaction does not
fail. -/
def Compensates (svc : Service rt answer) (out : Outside answer)
    (target : String -> rt -> Option aim) (aimOf : Allocation -> aim) (id : String)
    (w : World rt) : Prop :=
  forall allocation runtime held, out.repository w.calls = none ->
    getAllocation id w.db = .ok (some allocation) ->
    w.failpoints.deleteTimeout = false ->
    svc.runtime.delete (out.runtime (w.calls + 1)) id svc.applyTimeoutMs w.runtime =
      (.ok (), runtime) ->
    target id w.runtime = some held ->
    if w.failpoints.deleteDbFailure then held = aimOf allocation
    else out.repository (w.calls + 2) = none

theorem failureKeeps_ok {id : String} {w w' : World rt} :
    FailureKeeps target id w (.ok (), w') := by
  intro herror
  cases herror

theorem failureKeeps_error {id : String} {w w' : World rt} {error : ServiceError}
    (hdb : w'.db = w.db) :
    FailureKeeps target id w (.error error, w') <->
      forall held, target id w.runtime = some held ->
        target id w'.runtime = some held := by
  constructor
  · intro h
    exact (h rfl).right
  · intro h _
    exact ⟨hdb, h⟩

/-- A failure that left both stores alone. -/
theorem failureKeeps_of_unchanged {id : String} {w w' : World rt}
    {result : Except ServiceError Unit} (hdb : w'.db = w.db)
    (htarget : target id w'.runtime = target id w.runtime) :
    FailureKeeps target id w (result, w') := by
  intro _
  refine ⟨hdb, ?_⟩
  intro held hheld
  rw [htarget]
  exact hheld

theorem compensates_iff {out : Outside answer} {id : String} {w : World rt}
    {allocation : Allocation} {runtime : rt} (hread : out.repository w.calls = none)
    (hget : getAllocation id w.db = .ok (some allocation))
    (htimeout : w.failpoints.deleteTimeout = false)
    (hdelete : svc.runtime.delete (out.runtime (w.calls + 1)) id svc.applyTimeoutMs
      w.runtime = (.ok (), runtime)) :
    Compensates svc out target aimOf id w <->
      forall held, target id w.runtime = some held ->
        if w.failpoints.deleteDbFailure then held = aimOf allocation
        else out.repository (w.calls + 2) = none := by
  constructor
  · intro h held hheld
    exact h allocation runtime held hread hget htimeout hdelete hheld
  · intro h allocation' runtime' held _ hget' _ _ hheld
    rw [hget] at hget'
    cases hget'
    exact h held hheld

/-- The second half of a delete, run after the runtime gave the allocation up. -/
theorem deleted_keeps_iff {out : Outside answer} {id : String} {w : World rt}
    {allocation : Allocation} {runtime : rt} (hkeeps : Keeps svc.runtime target aimOf)
    (hget : getAllocation id w.db = .ok (some allocation))
    (hdelete : svc.runtime.delete (out.runtime (w.calls + 1)) id svc.applyTimeoutMs
      w.runtime = (.ok (), runtime))
    (hrestore : (svc.runtime.restore (out.runtime (w.calls + 2)) allocation
      svc.applyTimeoutMs runtime).1 = .ok ())
    (hrollback : forall fault, out.repository (w.calls + 2) = some fault ->
      fault.committed = false) :
    Ensures
      (do
        let failpoints <- readFailpoints
        if failpoints.deleteDbFailure then do
          let restored <- callRuntime out (fun answer =>
            svc.runtime.restore answer allocation svc.applyTimeoutMs)
          let () <- orRuntimeError restored
          throw .deletePersistenceFailed
        else do
          let removed <- repoWrite out (fun db => .ok (Storage.deleteAllocation id db))
          if removed then pure () else throw .notFound)
      (fun result w' => FailureKeeps target id w (result, w') <->
        forall held, target id w.runtime = some held ->
          if w.failpoints.deleteDbFailure then held = aimOf allocation
          else out.repository (w.calls + 2) = none)
      { w with runtime := runtime, calls := w.calls + 2 } := by
  simp only [ensures_bind, ensures_readFailpoints, continues_ok]
  cases hfailpoint : w.failpoints.deleteDbFailure with
  | true =>
      rcases hrestored : svc.runtime.restore (out.runtime (w.calls + 2)) allocation
          svc.applyTimeoutMs runtime with ⟨restored, runtime'⟩
      rw [hrestored] at hrestore
      cases hrestore
      have htarget := hkeeps.restored hdelete hrestored (getAllocation_id hget)
      simp only [if_true, ensures_bind, ensures_callRuntime, continues_ok, hrestored]
      have hkept : FailureKeeps target id w (.error .deletePersistenceFailed,
          { w with runtime := runtime', calls := w.calls + 3 }) <->
          forall held, target id w.runtime = some held ->
            target id runtime' = some held := failureKeeps_error rfl
      rw [htarget] at hkept
      apply hkept.trans
      constructor
      · intro h held hheld
        exact (Option.some.inj (h held hheld)).symm
      · intro h held hheld
        rw [h held hheld]
  | false =>
      simp only [Bool.false_eq_true, if_false, ensures_bind]
      unfold repoWrite
      rw [ensures_act]
      cases hfault : out.repository (w.calls + 2) with
      | none =>
          rcases getAllocation_eq_some.mp hget with ⟨row, hrow, _⟩
          have hremoved : (Storage.deleteAllocation id w.db).1 = true :=
            deleteAllocation_fst hrow
          simp only [continues_ok, hremoved, if_true]
          exact iff_of_true failureKeeps_ok (fun _ _ => trivial)
      | some fault =>
          have hcommitted := hrollback fault hfault
          have htarget := hkeeps.delete_ok hdelete
          simp only [hcommitted]
          have hkept : FailureKeeps target id w (.error (.repository fault.error),
              { w with runtime := runtime, calls := w.calls + 3 }) <->
              forall held, target id w.runtime = some held ->
                target id runtime = some held := failureKeeps_error rfl
          rw [htarget] at hkept
          apply hkept.trans
          constructor
          · intro h held hheld
            cases h held hheld
          · intro h held hheld
            cases h held hheld

theorem failed_delete_keeps_iff (out : Outside answer) (w : World rt) (id : String)
    (hkeeps : Keeps svc.runtime target aimOf)
    (hrestore : forall allocation, getAllocation id w.db = .ok (some allocation) ->
      (svc.runtime.restore (out.runtime (w.calls + 2)) allocation svc.applyTimeoutMs
        (svc.runtime.delete (out.runtime (w.calls + 1)) id svc.applyTimeoutMs
          w.runtime).2).1 = .ok ())
    (hrollback : forall fault, out.repository (w.calls + 2) = some fault ->
      fault.committed = false) :
    FailureKeeps target id w ((deleteAllocation svc out id).exec w) <->
      Compensates svc out target aimOf id w := by
  show Ensures (deleteAllocation svc out id)
    (fun result w' => FailureKeeps target id w (result, w') <->
      Compensates svc out target aimOf id w) w
  unfold deleteAllocation
  rw [ensures_bind]
  unfold repoRead
  rw [ensures_act]
  cases hread : out.repository w.calls with
  | some fault =>
      apply iff_of_true (failureKeeps_of_unchanged rfl rfl)
      intro allocation runtime held hnone
      rw [hread] at hnone
      cases hnone
  | none =>
      cases hget : getAllocation id w.db with
      | error error =>
          apply iff_of_true (failureKeeps_of_unchanged rfl rfl)
          intro allocation runtime held _ hfound
          rw [hget] at hfound
          cases hfound
      | ok found =>
          cases found with
          | none =>
              apply iff_of_true (failureKeeps_of_unchanged rfl rfl)
              intro allocation runtime held _ hfound
              rw [hget] at hfound
              cases hfound
          | some allocation =>
              simp only [continues_ok, ensures_bind, ensures_readFailpoints]
              cases htimeout : w.failpoints.deleteTimeout with
              | true =>
                  apply iff_of_true (failureKeeps_of_unchanged rfl rfl)
                  intro allocation runtime held _ _ hoff
                  rw [htimeout] at hoff
                  cases hoff
              | false =>
                  rcases hdelete : svc.runtime.delete (out.runtime (w.calls + 1)) id
                      svc.applyTimeoutMs w.runtime with ⟨deleted, runtime⟩
                  simp only [Bool.false_eq_true, if_false, ensures_bind,
                    ensures_callRuntime, continues_ok, hdelete]
                  cases deleted with
                  | error error =>
                      refine iff_of_true
                        (failureKeeps_of_unchanged rfl (hkeeps.delete_error hdelete)) ?_
                      intro allocation runtime' held _ _ _ hok
                      rw [hdelete] at hok
                      cases hok
                  | ok done =>
                      rw [compensates_iff hread hget htimeout hdelete]
                      have hrestored := hrestore allocation hget
                      rw [hdelete] at hrestored
                      exact deleted_keeps_iff hkeeps hget hdelete hrestored hrollback

end Failing

/-- Every bind is granted; one repository call fails and is rolled back. -/
def rolledBackAt (failing : Nat) : Outside Binds where
  clock := fun call => call
  newId := countedId
  repository := fun call => if call = failing then some ⟨.sqlx, false⟩ else none
  runtime := fun _ => ⟨fun _ => true, fun _ => true⟩

/-- One tcp allocation, created over the proxy runtime in five calls. -/
def createdWorld (out : Outside Binds) : World RealRuntime :=
  performAll (proxyService loopbackRange 1000) out [.createAllocation .tcp none]
    (World.start (RealRuntime.new "127.0.0.1") Failpoints.default)

/-- The transaction that fails is the one that takes the row out. -/
theorem failed_delete_keeps_iff_rolled_back :
    FailureKeeps proxyTarget (countedId 2) (createdWorld (rolledBackAt 7))
        ((deleteAllocation (proxyService loopbackRange 1000) (rolledBackAt 7)
          (countedId 2)).exec (createdWorld (rolledBackAt 7))) <->
      Compensates (proxyService loopbackRange 1000) (rolledBackAt 7) proxyTarget proxyAim
        (countedId 2) (createdWorld (rolledBackAt 7)) :=
  failed_delete_keeps_iff (rolledBackAt 7) (createdWorld (rolledBackAt 7)) (countedId 2)
    realRuntime_keeps
    (by
      intro allocation hget
      have hstored : getAllocation (countedId 2) (createdWorld (rolledBackAt 7)).db =
          .ok (some
            { id := countedId 2
              protocol := .tcp
              port := 1000
              targetPort := none
              host := none
              createdAtMs := 1
              updatedAtMs := 1 }) := by decide
      rw [hstored] at hget
      cases hget
      rfl)
    (by
      intro fault hfault
      have hfails : (rolledBackAt 7).repository ((createdWorld (rolledBackAt 7)).calls + 2) =
          some ⟨.sqlx, false⟩ := by decide
      rw [hfails] at hfault
      cases hfault
      rfl)

/-- The transaction of a delete fails after the runtime has removed the listener:
the row stays, the listener is gone. -/
theorem rolled_back_delete_loses_listener :
    let w := createdWorld (rolledBackAt 7)
    let outcome := (deleteAllocation (proxyService loopbackRange 1000) (rolledBackAt 7)
      (countedId 2)).exec w
    (rolledBackAt 7).repository (w.calls + 2) = some ⟨.sqlx, false⟩ ∧
    outcome.1 = .error (.repository .sqlx) ∧
    outcome.2.db.allocations = w.db.allocations ∧
    proxyTarget (countedId 2) w.runtime = some (none, none) ∧
    proxyTarget (countedId 2) outcome.2.runtime = none ∧
    ¬ FailureKeeps proxyTarget (countedId 2) w outcome := by
  intro w outcome
  have hfailed : outcome.1 = .error (.repository .sqlx) := by decide +kernel
  have hbefore : proxyTarget (countedId 2) w.runtime = some (none, none) := by
    decide +kernel
  have hafter : proxyTarget (countedId 2) outcome.2.runtime = none := by
    decide +kernel
  refine ⟨by decide +kernel, hfailed, by decide +kernel, hbefore, hafter, ?_⟩
  intro hkeeps
  have hheld := (hkeeps (by rw [hfailed]; rfl)).right (none, none) hbefore
  rw [hafter] at hheld
  cases hheld

end Service
end Relayd
