import Relayd.Service.Cancellation

/-!
# What a dropped mutation leaves behind

A dropped mutation leaves the two stores as they were, as the completed mutation leaves
them, or with one of the two a step ahead.  A create may leave listeners without a row,
a delete a row without its listeners, and a binding may be stored while the listeners
still have their old target.  A delete may also leave one listener half taken down: out of
its table, with loops or sessions that nothing will close any more.
-/

namespace Relayd
namespace Service

open Foundation Fallible Relayd.Runtime Relayd.Runtime.RealSteps Storage

/-- The store is ahead: it has the new binding, of the listeners some have the old
target. -/
def StoreAhead (id : String) (before completed dropped : Pair) : Prop :=
  dropped.db = completed.db ∧
    Between id before.listeners completed.listeners dropped.listeners

/-- The listeners are ahead: some are gone or on their way, the row is still there. -/
def DeleteAhead (id : String) (before _completed dropped : Pair) : Prop :=
  dropped.db = before.db ∧ Removing id before.listeners dropped.listeners

/-- The allocation a create is at work on: it is unknown to both stores. -/
structure Requested (protocol : Protocol) (targetPort : Option UInt16) (before : Pair)
    (allocation : Allocation) : Prop where
  protocol : allocation.protocol = protocol
  targetPort : allocation.targetPort = targetPort
  host : allocation.host = none
  unstored : findAllocation allocation.id before.db = none
  unlisted : before.listeners.protocol allocation.id = none
  tcp : before.listeners.tcp allocation.id = none
  udp : before.listeners.udp allocation.id = none

/-- The listeners are ahead: some are there for an allocation that had no row.  Its row
may have been inserted meanwhile. -/
def CreateAhead (protocol : Protocol) (targetPort : Option UInt16)
    (before completed dropped : Pair) : Prop :=
  exists allocation, Requested protocol targetPort before allocation ∧
    (dropped.db = before.db ∨ dropped.db = completed.db) ∧
    Opening allocation before.listeners dropped.listeners

/-- What a drop of this mutation can leave that is neither the pair before it nor the
one it completes to. -/
def Torn : Mutation -> Pair -> Pair -> Pair -> Prop
  | .createAllocation protocol targetPort => CreateAhead protocol targetPort
  | .putBinding id _ _ => StoreAhead id
  | .deleteBinding id => StoreAhead id
  | .updateAllocation id _ _ => StoreAhead id
  | .setTarget id _ => StoreAhead id
  | .deleteAllocation id => DeleteAhead id

/-- As before, as completed, or torn in the given way. -/
def LeftWith (torn : Pair -> Pair -> Pair -> Prop) (before completed dropped : Pair) : Prop :=
  dropped = before ∨ dropped = completed ∨ torn before completed dropped

/-- The part of a binding mutation that follows its transaction. -/
def pushUpdate {value : Type} (svc : Service Proxy (Binds × Option Nat))
    (out : Outside (Binds × Option Nat)) (allocation : Allocation)
    (finish : Except RuntimeError Unit -> ServiceM Proxy value) : ServiceM Proxy value := do
  let failpoints <- readFailpoints
  if failpoints.updateTimeout then throw .timeout
  else do
    let updated <- callRuntime out (fun reply =>
      svc.runtime.update reply allocation svc.applyTimeoutMs)
    finish updated

/-- The part of a delete that follows the call of the runtime. -/
def removeRow (svc : Service Proxy (Binds × Option Nat)) (out : Outside (Binds × Option Nat))
    (allocation : Allocation) (id : String) (deleted : Except RuntimeError Unit) :
    ServiceM Proxy Unit := do
  let () <- orRuntimeError deleted
  let failpoints <- readFailpoints
  if failpoints.deleteDbFailure then do
    let restored <- callRuntime out (fun reply =>
      svc.runtime.restore reply allocation svc.applyTimeoutMs)
    let () <- orRuntimeError restored
    throw .deletePersistenceFailed
  else do
    let removed <- repoWrite out (fun db => .ok (Storage.deleteAllocation id db))
    if removed then pure () else throw .notFound

/-- The part of a create that follows a successful call of the runtime. -/
def keepCreated (svc : Service Proxy (Binds × Option Nat)) (out : Outside (Binds × Option Nat))
    (allocation : Allocation) : ServiceM Proxy Allocation := do
  let persisted <- attempt (persistCreatedAllocation out allocation)
  match persisted with
  | .error error => do
      let _ <- callRuntime out (fun reply =>
        svc.runtime.delete reply allocation.id svc.applyTimeoutMs)
      throw error
  | .ok () => pure allocation

/-- One round of a create: the runtime is asked for one port. -/
def tryPort (svc : Service Proxy (Binds × Option Nat)) (out : Outside (Binds × Option Nat))
    (allocation : Allocation) (again : ServiceM Proxy Allocation) :
    ServiceM Proxy Allocation := do
  let created <- callRuntime out (fun reply =>
    svc.runtime.create reply allocation svc.applyTimeoutMs)
  match created with
  | .error .runtimeCreateFailed => again
  | .error error => throw (.runtime error)
  | .ok () => keepCreated svc out allocation

section Outcomes

variable {value : Type} {portRange : PortRange} {applyTimeoutMs : UInt32}
  {out : Outside Binds} {d : Drop} {w : World Proxy} {reached : Prop}

theorem leftWith_before (torn : Pair -> Pair -> Pair -> Prop) (before completed : Pair) :
    LeftWith torn before completed before :=
  Or.inl rfl

/-!
# Bindings
-/

theorem keeps_pushUpdate {allocation : Allocation}
    {finish : Except RuntimeError Unit -> ServiceM Proxy value} (hfinish : Concludes finish)
    (db : Database) :
    Fallible.Keeps (fun w : World Proxy => w.db = db)
      (pushUpdate (stepService portRange applyTimeoutMs) out.completed allocation finish) := by
  unfold pushUpdate
  apply keeps_bind (fun _ h => h)
  intro failpoints
  split
  · exact keeps_throw _ _
  · exact keeps_bind (fun _ h => h) (keeps_of_concludes hfinish _)

theorem cut_pushUpdate {allocation : Allocation}
    {finish : Except RuntimeError Unit -> ServiceM Proxy value} (hfinish : Concludes finish) :
    Cut (Live d) pairOf
      (pushUpdate (stepService portRange applyTimeoutMs) out.completed allocation finish)
      (pushUpdate (stepService portRange applyTimeoutMs) (out.dropped d) allocation finish)
      (fun vc v => v.db = vc.db ∧
        Between allocation.id w.runtime.listeners vc.listeners v.listeners) reached w := by
  unfold pushUpdate
  apply cut_bind_readFailpoints
  intro failpoints
  by_cases htimeout : failpoints.updateTimeout = true
  · rw [if_pos htimeout, if_pos htimeout]
    exact cut_throw _
  · rw [if_neg htimeout, if_neg htimeout]
    apply Cut.bind_concludes _ hfinish
    have hcall : forall (binds : Binds) p, (call (update allocation) (some 0) p).2 = p :=
      fun _ p => call_zero (keeps_update allocation p)
    apply (cut_callRuntime hcall).mono (fun h => h)
    rintro _ vc v ⟨rfl, left, rfl⟩
    exact ⟨rfl, update_between allocation w.runtime left⟩

/-- A binding is stored first: dropped afterwards, the store is ahead. -/
theorem cut_bindingWrite {result : Type} {id : String}
    {transaction : Database -> value × Database} {next next' : value -> ServiceM Proxy result}
    (hkeeps : forall a db, Fallible.Keeps (fun w : World Proxy => w.db = db) (next a))
    (hnext : forall a w', w'.runtime = w.runtime ->
      Cut (Live d) pairOf (next a) (next' a)
        (fun vc v => v.db = vc.db ∧
          Between id w'.runtime.listeners vc.listeners v.listeners) reached w') :
    Cut (Live d) pairOf
      (repoWrite out.completed (fun db => .ok (transaction db)) >>= next)
      (repoWrite (out.dropped d) (fun db => .ok (transaction db)) >>= next')
      (LeftWith (StoreAhead id) (pairOf w)) reached w := by
  have hruntime := (repoWrite_frame out.completed (fun db => .ok (transaction db)) w).right
  apply (cut_repoWrite _).bind
  · rintro _ v ⟨_, rfl | rfl⟩
    · exact Or.inl rfl
    · exact Or.inr (Or.inl rfl)
  · rintro _ a v ⟨hlisteners, rfl | rfl⟩
    · exact Or.inl rfl
    · -- The binding is committed and the update of the listeners has not begun.
      right
      right
      constructor
      · exact (hkeeps a _ _ rfl).symm
      · rw [show (pairOf w).listeners = _ from hlisteners.symm]
        exact between_before _ _ _
  · intro a
    apply (hnext a _ hruntime).mono And.left
    rintro _ vc v ⟨hdb, hbetween⟩
    rw [hruntime] at hbetween
    exact Or.inr (Or.inr ⟨hdb, hbetween⟩)

theorem cut_assignBinding {allocation : Allocation} {binding : Binding} :
    Cut (Live d) pairOf
      (assignBinding (stepService portRange applyTimeoutMs) out.completed allocation binding)
      (assignBinding (stepService portRange applyTimeoutMs) (out.dropped d) allocation binding)
      (LeftWith (StoreAhead allocation.id) (pairOf w)) reached w := by
  have hfinish : Concludes (fun updated => do
      let () <- (orRuntimeError updated : ServiceM Proxy Unit)
      pure (allocationWithBinding allocation binding)) :=
    concludes_bind concludes_orRuntimeError (fun _ => concludes_pure)
  unfold assignBinding
  apply cut_bindingWrite
  · intro _ db
    exact keeps_pushUpdate hfinish db
  · intro _ w' _
    exact cut_pushUpdate hfinish

/-- The allocation that was read is the one the mutation was called for. -/
theorem leftWith_storeAhead_of_read {id : String} {db : Database} {allocation : Allocation}
    {existing : Option Binding} {before vc v : Pair}
    (hfound : getAllocationWithBinding id db = .ok (some (allocation, existing)))
    (h : LeftWith (StoreAhead allocation.id) before vc v) :
    LeftWith (StoreAhead id) before vc v := by
  rw [getAllocation_id (getAllocation_of_getAllocationWithBinding hfound)] at h
  exact h

theorem cut_putBinding (id host : String) (targetPort : UInt16) :
    Cut (Live d) pairOf
      (putBinding (stepService portRange applyTimeoutMs) out.completed id host targetPort)
      (putBinding (stepService portRange applyTimeoutMs) (out.dropped d) id host targetPort)
      (LeftWith (StoreAhead id) (pairOf w)) reached w := by
  unfold putBinding
  cases parseIpLiteral host with
  | error error => exact cut_throw _
  | ok _ =>
      apply cut_bind_repoRead (fun _ => leftWith_before _ _)
      intro found
      rcases found with _ | ⟨allocation, existing⟩
      · exact cut_throw _
      · apply cut_bind_currentTimeMs
        · exact fun _ => leftWith_before _ _
        intro now
        apply Cut.bind_concludes _ concludes_pure
        apply cut_assignBinding.mono (fun h => h)
        rintro ⟨_, hfound⟩ vc v hleft
        exact leftWith_storeAhead_of_read hfound hleft

theorem cut_updateAllocation (id : String) (targetPort : Option UInt16) (host : Option String) :
    Cut (Live d) pairOf
      (updateAllocation (stepService portRange applyTimeoutMs) out.completed id targetPort host)
      (updateAllocation (stepService portRange applyTimeoutMs) (out.dropped d) id targetPort host)
      (LeftWith (StoreAhead id) (pairOf w)) reached w := by
  unfold updateAllocation
  apply cut_bind_repoRead (fun _ => leftWith_before _ _)
  intro found
  rcases found with _ | ⟨allocation, existing⟩
  · exact cut_throw _
  by_cases hhost : (host.map (fun host => (parseIpLiteral host).isOk)).getD true = true
  · dsimp only
    rw [if_pos hhost, if_pos hhost]
    cases targetPort.or (existing.map Binding.targetPort) with
    | none => exact cut_throw _
    | some resolvedTargetPort =>
        apply cut_bind_currentTimeMs
        · exact fun _ => leftWith_before _ _
        intro now
        apply cut_assignBinding.mono (fun h => h)
        rintro ⟨_, hfound⟩ vc v hleft
        exact leftWith_storeAhead_of_read hfound hleft
  · dsimp only
    rw [if_neg hhost, if_neg hhost]
    exact cut_throw _

theorem cut_deleteBinding (id : String) :
    Cut (Live d) pairOf
      (deleteBinding (stepService portRange applyTimeoutMs) out.completed id)
      (deleteBinding (stepService portRange applyTimeoutMs) (out.dropped d) id)
      (LeftWith (StoreAhead id) (pairOf w)) reached w := by
  unfold deleteBinding
  apply cut_bind_repoRead (fun _ => leftWith_before _ _)
  intro found
  rcases found with _ | ⟨allocation, _ | existing⟩
  · exact cut_throw _
  · exact cut_throw _
  apply cut_bind_currentTimeMs
  · exact fun _ => leftWith_before _ _
  intro now
  refine Cut.mono (?_ : Cut (Live d) pairOf _ _
    (LeftWith (StoreAhead allocation.id) (pairOf w.afterCall.afterCall)) _ _) (fun h => h) ?_
  · apply cut_bindingWrite
    · intro changed db
      cases changed with
      | false => exact keeps_throw _ _
      | true => exact keeps_pushUpdate concludes_orRuntimeError db
    · intro changed w' _
      cases changed with
      | false => exact cut_throw _
      | true => exact cut_pushUpdate concludes_orRuntimeError
  · rintro ⟨_, hfound⟩ vc v hleft
    exact leftWith_storeAhead_of_read hfound hleft

/-!
# Deletes
-/

theorem concludes_notFound :
    Concludes (fun removed : Bool =>
      (if removed then pure () else throw .notFound : ServiceM Proxy Unit)) := by
  intro removed w
  cases removed with
  | false => rfl
  | true => rfl

theorem cut_removeRow {allocation : Allocation} {id : String}
    {deleted : Except RuntimeError Unit}
    (hfailpoints : reached -> w.failpoints = Failpoints.default) :
    Cut (Live d) pairOf
      (removeRow (stepService portRange applyTimeoutMs) out.completed allocation id deleted)
      (removeRow (stepService portRange applyTimeoutMs) (out.dropped d) allocation id deleted)
      (fun vc v => vc.listeners = w.runtime.listeners ∧ (v = pairOf w ∨ v = vc)) reached w := by
  unfold removeRow
  apply cut_bind_orRuntimeError
  intro _
  apply cut_bind_readFailpoints
  intro failpoints
  by_cases hfailure : failpoints.deleteDbFailure = true
  · rw [if_pos hfailure, if_pos hfailure]
    constructor
    · have hcall : forall binds p,
          (call (restore binds allocation) (some 0) p).2 = p :=
        fun binds p => call_zero (keeps_restore binds allocation p)
      apply idle_bind (idle_callRuntime hcall)
      intro restored
      apply idle_bind (fun _ => keeps_of_concludes concludes_orRuntimeError _ restored)
      intro _
      exact idle_throw _
    · intro h
      rcases h with ⟨hreached, hread⟩
      rw [← hread, hfailpoints hreached] at hfailure
      cases hfailure
  · rw [if_neg hfailure, if_neg hfailure]
    exact (cut_repoWrite _).bind_concludes concludes_notFound

theorem cut_deleteAllocation (id : String)
    (hfailpoints : reached -> w.failpoints = Failpoints.default) :
    Cut (Live d) pairOf
      (deleteAllocation (stepService portRange applyTimeoutMs) out.completed id)
      (deleteAllocation (stepService portRange applyTimeoutMs) (out.dropped d) id)
      (LeftWith (DeleteAhead id) (pairOf w)) reached w := by
  unfold deleteAllocation
  apply cut_bind_repoRead (fun _ => leftWith_before _ _)
  intro found
  cases found with
  | none => exact cut_throw _
  | some allocation =>
      apply cut_bind_readFailpoints
      intro failpoints
      by_cases htimeout : failpoints.deleteTimeout = true
      · rw [if_pos htimeout, if_pos htimeout]
        exact cut_throw _
      rw [if_neg htimeout, if_neg htimeout]
      have hcall : forall (binds : Binds) p, (call (delete id) (some 0) p).2 = p :=
        fun _ p => call_zero (keeps_delete id p)
      apply (cut_callRuntime hcall).bind
      · rintro _ v ⟨_, left, rfl⟩
        exact Or.inr (Or.inr ⟨rfl, delete_removing id w.runtime left⟩)
      · rintro _ deleted v ⟨_, left, rfl⟩
        exact Or.inr (Or.inr ⟨rfl, delete_removing id w.runtime left⟩)
      · intro deleted
        have hdefault : ((reached ∧ getAllocation id w.db = .ok (some allocation)) ∧
            w.failpoints = failpoints) -> w.failpoints = Failpoints.default :=
          fun h => hfailpoints h.left.left
        refine Cut.mono (cut_removeRow hdefault) And.left ?_
        rintro _ vc v ⟨hlisteners, rfl | rfl⟩
        · exact Or.inr (Or.inr ⟨rfl, delete_removing id w.runtime none⟩)
        · exact Or.inr (Or.inl rfl)

/-!
# Creates
-/

section Creating

variable {protocol : Protocol} {targetPort : Option UInt16} {before : Pair}

/-- No listener is outside of its table that was not there before. -/
def Listed (before : Listeners) (p : Proxy) : Prop :=
  p.tcpUnlisted = before.tcpUnlisted ∧ p.udpUnlisted = before.udpUnlisted

/-- What an id has gained is kept or gone again. -/
theorem gained_left {value : Type} (gained : String -> Option value -> Prop) {id : String}
    {before opened left : String -> Option value} (hbefore : before id = none)
    (hopened : forall other, opened other = before other ∨ gained other (opened other))
    (hself : left id = opened id ∨ left id = none)
    (hothers : forall other, other ≠ id -> left other = opened other) (other : String) :
    left other = before other ∨ gained other (left other) := by
  by_cases hid : other = id
  · rw [hid]
    rcases hself with hkept | hgone
    · rw [hkept]
      exact hopened id
    · rw [hgone, hbefore]
      exact Or.inl rfl
  · rw [hothers other hid]
    exact hopened other

/-- A listener that is on its way down is the one that was opened. -/
theorem stopping_opened {serves : Prop} {allocation : Allocation}
    {before opened left : Option Listener} {start unlisted unlisted' : List Unlisted}
    (hbefore : before = none) (hstart : unlisted = start)
    (hopened : opened = before ∨ (serves ∧ opened = some (listenerOf allocation)))
    (hremoving : unlisted' = unlisted ∨ exists listener teardown, opened = some listener ∧
      left = none ∧ unlisted' = .stopping listener teardown :: unlisted) :
    unlisted' = start ∨ (serves ∧ exists stopping, stopping.listener = listenerOf allocation ∧
      unlisted' = stopping :: start) := by
  subst hstart
  rcases hremoving with hkept | ⟨listener, teardown, hlistener, _, hstopping⟩
  · exact Or.inl hkept
  · right
    rcases hopened with hsame | ⟨hserves, hopened⟩
    · rw [hlistener, hbefore] at hsame
      cases hsame
    · rw [hlistener] at hopened
      exact ⟨hserves, .stopping listener teardown, Option.some.inj hopened, hstopping⟩

/-- The rollback takes down what the create has opened, as far as it comes. -/
theorem opening_delete {allocation : Allocation} {p : Proxy}
    (h : Opening allocation before.listeners p.listeners)
    (hrequested : Requested protocol targetPort before allocation)
    (hlisted : Listed before.listeners p) (left : Option Nat) :
    Opening allocation before.listeners
      (call (RealSteps.delete allocation.id) left p).2.listeners := by
  have hremoving := delete_removing allocation.id p left
  rcases hlisted with ⟨htcps, hudps⟩
  constructor
  · exact gained_left (fun id found => id = allocation.id ∧ found = some allocation.protocol)
      hrequested.unlisted h.protocol hremoving.protocol
      (fun other hother => (hremoving.others other hother).1)
  · exact gained_left (fun id found => allocation.protocol ≠ .udp ∧ id = allocation.id ∧
      found = some (listenerOf allocation)) hrequested.tcp h.tcp hremoving.tcp
      (fun other hother => (hremoving.others other hother).2.1)
  · exact gained_left (fun id found => allocation.protocol ≠ .tcp ∧ id = allocation.id ∧
      found = some (listenerOf allocation)) hrequested.udp h.udp hremoving.udp
      (fun other hother => (hremoving.others other hother).2.2)
  · have hopened := (h.tcp allocation.id).imp_right (And.imp_right And.right)
    exact stopping_opened hrequested.tcp htcps hopened hremoving.tcpUnlisted
  · have hopened := (h.udp allocation.id).imp_right (And.imp_right And.right)
    exact stopping_opened hrequested.udp hudps hopened hremoving.udpUnlisted
  · rcases hremoving.single with hkept | hkept
    · exact Or.inl (hkept.trans htcps)
    · exact Or.inr (hkept.trans hudps)

theorem cut_keepCreated {allocation : Allocation}
    (hrequested : reached -> Requested protocol targetPort before allocation)
    (hdb : reached -> w.db = before.db)
    (hopening : reached -> Opening allocation before.listeners w.runtime.listeners)
    (hlisted : reached -> Listed before.listeners w.runtime) :
    Cut (Live d) pairOf
      (keepCreated (stepService portRange applyTimeoutMs) out.completed allocation)
      (keepCreated (stepService portRange applyTimeoutMs) (out.dropped d) allocation)
      (LeftWith (CreateAhead protocol targetPort) before) reached w := by
  have hstart : reached -> forall vc,
      LeftWith (CreateAhead protocol targetPort) before vc (pairOf w) := by
    intro hreached vc
    right
    right
    exact ⟨allocation, hrequested hreached, Or.inl (hdb hreached), hopening hreached⟩
  unfold keepCreated
  apply (cut_repoWrite _).attempt.bind
  · rintro hreached v ⟨_, rfl | rfl⟩
    · exact hstart hreached _
    · exact Or.inr (Or.inl rfl)
  · rintro hreached persisted v ⟨hlisteners, rfl | rfl⟩
    · exact hstart hreached _
    · -- The row is committed, and a completed run that sees an error still rolls back.
      right
      right
      refine ⟨allocation, hrequested hreached, Or.inr ?_, ?_⟩
      · cases persisted with
        | error error => rfl
        | ok _ => rfl
      · rw [hlisteners]
        exact hopening hreached
  · intro persisted
    cases persisted with
    | ok _ => exact cut_pure _
    | error error =>
        have hcall : forall (binds : Binds) p,
            (call (RealSteps.delete allocation.id) (some 0) p).2 = p :=
          fun _ p => call_zero (keeps_delete allocation.id p)
        apply Cut.bind_concludes _ (fun _ _ => rfl)
        apply (cut_callRuntime hcall).mono (fun h => h)
        rintro ⟨hreached, _⟩ vc v ⟨rfl, left, rfl⟩
        right
        right
        refine ⟨allocation, hrequested hreached, Or.inr rfl, ?_⟩
        have hruntime : ((attempt (persistCreatedAllocation out.completed allocation)).exec
            w).2.runtime = w.runtime :=
          (repoWrite_frame out.completed _ w).right
        have hdeleted : forall p, p = w.runtime -> Opening allocation before.listeners
            (call (RealSteps.delete allocation.id) left p).2.listeners := by
          rintro p rfl
          exact opening_delete (hopening hreached) (hrequested hreached) (hlisted hreached) left
        exact hdeleted _ hruntime

/-- What a create relies on before each of its rounds. -/
structure Searching (out : Outside Binds) (before : Pair) (w : World Proxy) : Prop where
  pair : pairOf w = before
  unstored : forall call, w.calls ≤ call -> findAllocation (out.newId call) w.db = none
  unserved : forall call, w.calls ≤ call ->
    RealRuntime.servedAt (out.newId call) w.runtime.runtime = RealRuntime.servedFor none

theorem Searching.requested (h : Searching out before w) {allocation : Allocation}
    (hprotocol : allocation.protocol = protocol) (htarget : allocation.targetPort = targetPort)
    (hhost : allocation.host = none) {call : Nat} (hcall : w.calls ≤ call)
    (hid : allocation.id = out.newId call) : Requested protocol targetPort before allocation := by
  have hserved := h.unserved call hcall
  rw [← hid] at hserved
  rw [← h.pair]
  constructor
  · exact hprotocol
  · exact htarget
  · exact hhost
  · rw [hid]
    exact h.unstored call hcall
  · exact congrArg RealRuntime.Served.protocol hserved
  · exact congrArg RealRuntime.Served.tcp hserved
  · exact congrArg RealRuntime.Served.udp hserved

/-- A round whose create fails leaves the stores as it found them. -/
theorem Searching.next (h : Searching out before w) {runtime : Proxy} {calls : Nat}
    (hlisteners : runtime.listeners = w.runtime.listeners)
    (hserved : forall id, RealRuntime.servedAt id runtime.runtime =
      RealRuntime.servedAt id w.runtime.runtime)
    (hcalls : w.calls ≤ calls) :
    Searching out before { w with runtime := runtime, calls := calls } := by
  constructor
  · rw [← h.pair]
    show (⟨w.db, runtime.listeners⟩ : Pair) = ⟨w.db, w.runtime.listeners⟩
    rw [hlisteners]
  · intro later hlater
    exact h.unstored later (hcalls.trans hlater)
  · intro later hlater
    exact (hserved _).trans (h.unserved later (hcalls.trans hlater))

theorem cut_tryPort {allocation : Allocation} {again again' : ServiceM Proxy Allocation}
    (hpair : reached -> pairOf w = before)
    (hrequested : reached -> Requested protocol targetPort before allocation)
    (hunserved : reached -> RealRuntime.servedAt allocation.id w.runtime.runtime =
      RealRuntime.servedFor none)
    (hagain : forall runtime, Cut (Live d) pairOf again again'
      (LeftWith (CreateAhead protocol targetPort) before)
      (reached ∧ runtime.listeners = w.runtime.listeners ∧
        forall id, RealRuntime.servedAt id runtime.runtime =
          RealRuntime.servedAt id w.runtime.runtime)
      { w with runtime := runtime, calls := w.calls + 1 }) :
    Cut (Live d) pairOf
      (tryPort (stepService portRange applyTimeoutMs) out.completed allocation again)
      (tryPort (stepService portRange applyTimeoutMs) (out.dropped d) allocation again')
      (LeftWith (CreateAhead protocol targetPort) before) reached w := by
  have hdb : reached -> w.db = before.db :=
    fun hreached => congrArg Pair.db (hpair hreached)
  have hopening : reached -> forall left, Opening allocation before.listeners
      (call (create (out.runtime w.calls) allocation) left w.runtime).2.listeners := by
    intro hreached left
    have htcp := (hrequested hreached).tcp
    rw [← hpair hreached] at htcp ⊢
    exact create_opening _ htcp left
  have htorn : reached -> forall vc left,
      LeftWith (CreateAhead protocol targetPort) before vc
        ⟨w.db, (call (create (out.runtime w.calls) allocation) left
          w.runtime).2.listeners⟩ := by
    intro hreached vc left
    right
    right
    exact ⟨allocation, hrequested hreached, Or.inl (hdb hreached), hopening hreached left⟩
  have hcall : forall (binds : Binds) p, (call (create binds allocation) (some 0) p).2 = p :=
    fun binds p => call_zero (keeps_create binds allocation p)
  unfold tryPort
  apply (cut_callRuntime hcall).bind
  · rintro hreached v ⟨_, left, rfl⟩
    exact htorn hreached _ left
  · rintro hreached created v ⟨_, left, rfl⟩
    exact htorn hreached _ left
  · intro created
    cases created with
    | error error =>
        cases error with
        | runtimeCreateFailed =>
            apply (hagain _).mono
            · intro h
              rcases h with ⟨hreached, hcreated⟩
              exact ⟨hreached, create_error (hunserved hreached)
                (Prod.ext (Except.ok.inj hcreated) rfl)⟩
            · intro _ _ _ hleft
              exact hleft
        | _ => exact cut_throw _
    | ok _ =>
        have hlisted : reached -> Listed before.listeners
            (call (create (out.runtime w.calls) allocation) none w.runtime).2 := by
          intro hreached
          rw [call_none (fun _ => simulates_create _ allocation), ← hpair hreached]
          exact ⟨rfl, rfl⟩
        exact cut_keepCreated (fun h => hrequested h.left) (fun h => hdb h.left)
          (fun h => hopening h.left none) (fun h => hlisted h.left)

theorem cut_createLoop :
    forall (fuel : Nat) (nextPort : Option UInt16) (hfuel : remainingPorts nextPort ≤ fuel)
      (reached : Prop) (w : World Proxy), (reached -> Searching out before w) ->
      Cut (Live d) pairOf
        (createLoop (stepService portRange applyTimeoutMs) out.completed protocol targetPort
          fuel nextPort hfuel)
        (createLoop (stepService portRange applyTimeoutMs) (out.dropped d) protocol targetPort
          fuel nextPort hfuel)
        (LeftWith (CreateAhead protocol targetPort) before) reached w := by
  intro fuel
  -- On the ports that are left; a round that fails hands `Searching` to the next one.
  induction fuel with
  | zero =>
      intro nextPort hfuel reached w _
      cases nextPort with
      | none => exact cut_throw _
      | some start => exact absurd hfuel (not_remainingPorts_some_le_zero start)
  | succ fuel ih =>
      intro nextPort hfuel reached w hsearching
      cases nextPort with
      | none => exact cut_throw _
      | some start =>
          have hbefore : reached -> forall vc,
              LeftWith (CreateAhead protocol targetPort) before vc (pairOf w) := by
            intro hreached vc
            rw [(hsearching hreached).pair]
            exact leftWith_before _ _ _
          unfold createLoop
          apply cut_bind_repoRead hbefore
          intro found
          cases found with
          | none => exact cut_throw _
          | some port =>
              apply cut_bind_currentTimeMs
              · exact fun h => hbefore h.left
              intro now
              apply cut_bind_generateId
              · exact fun h => hbefore h.left
              intro id
              apply cut_tryPort
              · exact fun h => (hsearching h.left.left).pair
              · intro h
                rcases h with ⟨⟨hreached, _⟩, hid⟩
                exact (hsearching hreached).requested rfl rfl rfl (Nat.le_add_right _ 2) hid
              · intro h
                rcases h with ⟨⟨hreached, _⟩, hid⟩
                rw [hid]
                exact (hsearching hreached).unserved _ (Nat.le_add_right _ 2)
              · intro runtime
                apply ih
                intro h
                rcases h with ⟨⟨⟨hreached, _⟩, _⟩, hlisteners, hserved⟩
                exact (hsearching hreached).next hlisteners hserved (Nat.le_add_right _ 4)

theorem cut_createAllocation (hsearching : reached -> Searching out (pairOf w) w) :
    Cut (Live d) pairOf
      (createAllocation (stepService portRange applyTimeoutMs) out.completed protocol targetPort)
      (createAllocation (stepService portRange applyTimeoutMs) (out.dropped d) protocol targetPort)
      (LeftWith (CreateAhead protocol targetPort) (pairOf w)) reached w := by
  unfold createAllocation
  apply cut_bind_readFailpoints
  intro failpoints
  by_cases htimeout : failpoints.createTimeout = true
  · rw [if_pos htimeout, if_pos htimeout]
    exact cut_throw _
  · rw [if_neg htimeout, if_neg htimeout]
    apply cut_createLoop
    exact fun h => hsearching h.left

end Creating

/-!
# Every mutation
-/

theorem leftWith_of_cut {torn : Pair -> Pair -> Pair -> Prop}
    {completed dropped : ServiceM Proxy value}
    (h : Cut (Live d) pairOf completed dropped (LeftWith torn (pairOf w)) reached w)
    (hreached : reached) :
    LeftWith torn (pairOf w) (pairOf (completed.exec w).2) (pairOf (dropped.exec w).2) := by
  by_cases hlive : Live d w
  · rcases h.outcome hreached hlive with ⟨hsame, _⟩ | ⟨_, hleft⟩
    · right
      left
      rw [hsame]
    · exact hleft
  · left
    exact (h.idle (pairOf w) w ⟨hlive, rfl⟩).right

theorem InStep.searching {v : World RealRuntime} (h : InStep ServedAs out v)
    (outlying : Outlying) :
    Searching out (pairOf (v.withOutlying outlying)) (v.withOutlying outlying) := by
  constructor
  · rfl
  · intro call hcall
    exact (h.fresh call hcall).left
  · intro call hcall
    exact h.agrees.holds_of_get (getAllocation_eq_none.mpr (h.fresh call hcall).left)

end Outcomes

/-- Wherever a mutation of two stores that agree is dropped, they are left as they
were, as the completed mutation leaves them, or torn in the way of that mutation. -/
theorem dropped_mutation (portRange : PortRange) (applyTimeoutMs : UInt32)
    (out : Outside Binds) (d : Drop) (w : World RealRuntime) (outlying : Outlying)
    (h : InStep ServedAs out w) (mutation : Mutation) :
    let before := pairOf (w.withOutlying outlying)
    let completed := pairOf ((perform (proxyService portRange applyTimeoutMs) out mutation
      w).withOutlying outlying)
    let dropped := pairOf (perform (stepService portRange applyTimeoutMs) (out.dropped d)
      mutation (w.withOutlying outlying))
    dropped = before ∨ dropped = completed ∨ Torn mutation before completed dropped := by
  intro before completed dropped
  have hcompleted : completed = pairOf (perform (stepService portRange applyTimeoutMs)
      out.completed mutation (w.withOutlying outlying)) := by
    rw [perform_completed]
  rw [hcompleted]
  cases mutation with
  | createAllocation protocol targetPort =>
      exact leftWith_of_cut (cut_createAllocation (fun _ => h.searching outlying)) trivial
  | putBinding id host targetPort =>
      exact leftWith_of_cut (cut_putBinding id host targetPort) trivial
  | deleteBinding id => exact leftWith_of_cut (cut_deleteBinding id) trivial
  | updateAllocation id targetPort host =>
      exact leftWith_of_cut (cut_updateAllocation id targetPort host) trivial
  | setTarget id host =>
      exact leftWith_of_cut (cut_updateAllocation id none (some host)) trivial
  | deleteAllocation id =>
      exact leftWith_of_cut (cut_deleteAllocation id (fun _ => h.failpoints)) trivial

theorem inStep_empty (granted : Bool) (calls : Nat) :
    InStep ServedAs (bindingOutside granted)
      { World.opened Database.empty (RealRuntime.new "127.0.0.1") with calls := calls } where
  agrees := fun _ => ⟨none, rfl, rfl⟩
  fresh := fun _ _ => ⟨rfl, rfl⟩
  failpoints := rfl

/-- No listener is outside of its table, and no udp listener has a session. -/
def tidy : Outlying := ⟨[], [], fun _ => 0⟩

/-- The create is dropped after the first step of its call of the runtime: the listener
is bound and not yet in the table. -/
theorem dropped_mutation_while_binding :
    let w := World.opened Database.empty (RealRuntime.new "127.0.0.1")
    let before := pairOf (w.withOutlying tidy)
    let completed := pairOf ((perform (proxyService loopbackRange 1000) (bindingOutside true)
      (.createAllocation .tcp none) w).withOutlying tidy)
    let dropped := pairOf (perform (stepService loopbackRange 1000)
      ((bindingOutside true).dropped ⟨3, false, 1⟩) (.createAllocation .tcp none)
      (w.withOutlying tidy))
    InStep ServedAs (bindingOutside true) w ∧ dropped.listeners.tcpUnlisted.length = 1 ∧
      (dropped = before ∨ dropped = completed ∨
        Torn (.createAllocation .tcp none) before completed dropped) :=
  ⟨inStep_empty true 0, rfl,
    dropped_mutation loopbackRange 1000 (bindingOutside true) ⟨3, false, 1⟩
      (World.opened Database.empty (RealRuntime.new "127.0.0.1")) tidy (inStep_empty true 0)
      (.createAllocation .tcp none)⟩

/-- The daemon after a restart over an empty store. -/
def restartedEmpty : Except ServiceError Unit × World RealRuntime :=
  (restoreAll (proxyService loopbackRange 1000) (bindingOutside true) 1000).exec
    (World.opened Database.empty (RealRuntime.new "127.0.0.1"))

def afterCreate : World RealRuntime :=
  perform (proxyService loopbackRange 1000) (bindingOutside true) (.createAllocation .tcp none)
    restartedEmpty.2

def afterDelete : World RealRuntime :=
  perform (proxyService loopbackRange 1000) (bindingOutside true)
    (.deleteAllocation (countedId 4)) afterCreate

/-- The create is dropped before its transaction is committed. -/
def droppedCreate : World Proxy :=
  perform (stepService loopbackRange 1000) ((bindingOutside true).dropped ⟨6, false, 0⟩)
    (.createAllocation .tcp none) (restartedEmpty.2.withOutlying tidy)

/-- The delete is dropped before its transaction is committed. -/
def droppedDelete : World Proxy :=
  perform (stepService loopbackRange 1000) ((bindingOutside true).dropped ⟨9, false, 0⟩)
    (.deleteAllocation (countedId 4)) (afterCreate.withOutlying tidy)

/-- The delete of a udp listener is dropped while it awaits the receive loop: the row is
there, the listener is neither listed nor taken down. -/
example :
    let created := perform (proxyService loopbackRange 1000) (bindingOutside true)
      (.createAllocation .udp none) restartedEmpty.2
    let dropped := perform (stepService loopbackRange 1000)
      ((bindingOutside true).dropped ⟨8, false, 3⟩) (.deleteAllocation (countedId 4))
      (created.withOutlying ⟨[], [], fun _ => 1⟩)
    (findAllocation (countedId 4) dropped.db).isSome = true ∧
      dropped.runtime.listeners.udp (countedId 4) = none ∧
      dropped.runtime.udpUnlisted = [.stopping ⟨1000, none, none⟩ (.loops 2)] := by
  exact ⟨by rfl, by rfl, by rfl⟩

theorem inStep_created : InStep ServedAs (bindingOutside true) afterCreate := by
  have hfollows : Follows (proxyService loopbackRange 1000).runtime ServedAs :=
    realRuntime_follows
  exact performAll_invariant (effect_inStep hfollows (fun _ => rfl) countedId_injective)
    [.createAllocation .tcp none] (inStep_empty true 2)

theorem ne_of_tcp {p p' : Pair} {id : String} (h : (p.listeners.tcp id).isSome = true)
    (h' : p'.listeners.tcp id = none) : p ≠ p' := by
  rintro rfl
  rw [h'] at h
  cases h

theorem ne_of_row {p p' : Pair} {id : String} (h : findAllocation id p.db = none)
    (h' : (findAllocation id p'.db).isSome = true) : p ≠ p' := by
  rintro rfl
  rw [h] at h'
  cases h'

/-- Dropped between the runtime and the store, a create leaves a listener without a row
and a delete a row without a listener. -/
theorem drop_between_stores_tears_them :
    (restartedEmpty.1 = .ok () ∧ InStep ServedAs (bindingOutside true) restartedEmpty.2 ∧
      pairOf droppedCreate ≠ pairOf (restartedEmpty.2.withOutlying tidy) ∧
      pairOf droppedCreate ≠ pairOf (afterCreate.withOutlying tidy) ∧
      findAllocation (countedId 4) droppedCreate.db = none ∧
      (droppedCreate.runtime.listeners.tcp (countedId 4)).isSome = true) ∧
    (InStep ServedAs (bindingOutside true) afterCreate ∧
      pairOf droppedDelete ≠ pairOf (afterCreate.withOutlying tidy) ∧
      pairOf droppedDelete ≠ pairOf (afterDelete.withOutlying tidy) ∧
      (findAllocation (countedId 4) droppedDelete.db).isSome = true ∧
      droppedDelete.runtime.listeners.tcp (countedId 4) = none) := by
  have hopened : ((pairOf droppedCreate).listeners.tcp (countedId 4)).isSome = true := by rfl
  have hunstored : findAllocation (countedId 4) (pairOf droppedCreate).db = none := by rfl
  have hstored : (findAllocation (countedId 4)
      (pairOf (afterCreate.withOutlying tidy)).db).isSome = true := by rfl
  have hserved : ((pairOf (afterCreate.withOutlying tidy)).listeners.tcp
      (countedId 4)).isSome = true := by rfl
  have hgone : (pairOf droppedDelete).listeners.tcp (countedId 4) = none := by rfl
  have hrow : (findAllocation (countedId 4) (pairOf droppedDelete).db).isSome = true := by rfl
  have hremoved : findAllocation (countedId 4) (pairOf (afterDelete.withOutlying tidy)).db = none :=
    by rfl
  constructor
  · refine ⟨by rfl, inStep_empty true 2, ?_, ?_, hunstored, hopened⟩
    · exact ne_of_tcp hopened rfl
    · exact ne_of_row hunstored hstored
  · refine ⟨inStep_created, ?_, ?_, hrow, hgone⟩
    · exact (ne_of_tcp hserved hgone).symm
    · exact (ne_of_row hremoved hrow).symm

end Service
end Relayd
