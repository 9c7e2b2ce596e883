import Relayd.Service.PortReservation
import Relayd.Service.Restart

/-!
# Store and runtime move together

A runtime follows the store when each of its operations moves what it holds for
one id the way the service moves the row of that id, and leaves every other id
alone.  `Follows` states this for an arbitrary runtime; from it, the store and
the runtime agree after every run in which repository calls do not fail and
generated ids are fresh.
-/

namespace Relayd
namespace Service

open Foundation Fallible Relayd.Runtime Storage

section Following

variable {rt answer : Type}

/-- One id is held anew, every other id as before. -/
structure Moves (holds : String -> Option Allocation -> rt -> Prop) (id : String)
    (found : Option Allocation) (s s' : rt) : Prop where
  self : holds id found s'
  frame : forall other found', other ≠ id -> holds other found' s ->
    holds other found' s'

/-- A failed create or delete leaves no change, an update takes effect whatever
it reports. -/
structure Follows (facade : RuntimeFacade rt answer)
    (holds : String -> Option Allocation -> rt -> Prop) : Prop where
  initialized : forall {reply timeoutMs id found s}, holds id found s ->
    holds id found (facade.initializeRuntime reply timeoutMs s).2
  create_ok : forall {reply allocation timeoutMs s s'},
    facade.create reply allocation timeoutMs s = (.ok (), s') ->
    holds allocation.id none s ->
    Moves holds allocation.id (some allocation) s s'
  create_error : forall {reply allocation timeoutMs s error s'},
    facade.create reply allocation timeoutMs s = (.error error, s') ->
    holds allocation.id none s ->
    Moves holds allocation.id none s s'
  update : forall {reply old allocation timeoutMs s updated s'},
    facade.update reply allocation timeoutMs s = (updated, s') ->
    holds allocation.id (some old) s ->
    old.protocol = allocation.protocol -> old.port = allocation.port ->
    Moves holds allocation.id (some allocation) s s'
  delete_ok : forall {reply id timeoutMs s s'},
    facade.delete reply id timeoutMs s = (.ok (), s') -> Moves holds id none s s'
  delete_error : forall {reply id timeoutMs found s error s'},
    facade.delete reply id timeoutMs s = (.error error, s') ->
    holds id found s ->
    Moves holds id found s s'
  restore_ok : forall {reply allocation timeoutMs s s'},
    facade.restore reply allocation timeoutMs s = (.ok (), s') ->
    holds allocation.id none s ->
    Moves holds allocation.id (some allocation) s s'

/-- Every id reads back, and the runtime holds what it reads as. -/
def Agrees (holds : String -> Option Allocation -> rt -> Prop) (w : World rt) :
    Prop :=
  forall id, exists found, getAllocation id w.db = .ok found ∧
    holds id found w.runtime

/-- The ids still to be generated occur in neither table. -/
def FreshIds (out : Outside answer) (calls : Nat) (db : Database) : Prop :=
  forall call, calls ≤ call ->
    findAllocation (out.newId call) db = none ∧
      findBinding (out.newId call) db = none

/-- What the two stores and the ids to come satisfy between two mutations. -/
structure InStep (holds : String -> Option Allocation -> rt -> Prop)
    (out : Outside answer) (w : World rt) : Prop where
  agrees : Agrees holds w
  fresh : FreshIds out w.calls w.db
  failpoints : w.failpoints = Failpoints.default

end Following

/-!
# Creating under a fresh id
-/

section Creating

variable {rt answer : Type} {svc : Service rt answer} {w : World rt}
  {allocation : Allocation}

theorem insertAllocationRow_of_fresh {row : AllocationRow}
    (hcandidate : Candidate svc w allocation)
    (hrow : findAllocation allocation.id w.db = none)
    (hid : row.id = allocation.id)
    (hprotocol : row.protocol = allocation.protocol.asStr)
    (hport : row.port = i32FromU16 allocation.port) :
    exists db, insertAllocationRow row w.db = .ok db := by
  have hids : row.id ∉ w.db.allocations.map AllocationRow.id := by
    intro hmem
    rcases List.mem_map.mp hmem with ⟨stored, hstored, hself⟩
    rw [hid] at hself
    exact findAllocation_eq_none.mp hrow stored hstored hself
  -- A row with the same protocol text is one the port scan looked at.
  have hports : row.protocolPort ∉
      w.db.allocations.map AllocationRow.protocolPort := by
    intro hmem
    rcases List.mem_map.mp hmem with ⟨stored, hstored, hself⟩
    have hsame : stored.protocol = allocation.protocol.asStr :=
      (congrArg Prod.fst hself).trans hprotocol
    refine hcandidate.free stored hstored ?_ ((congrArg Prod.snd hself).trans hport)
    cases hrequested : allocation.protocol <;>
      simp [occupies, hsame, hrequested, Protocol.asStr]
  exact ⟨_, dif_pos ⟨hids, hports⟩⟩

/-- A candidate under a fresh id violates no constraint. -/
theorem persistCreated_of_fresh (hcandidate : Candidate svc w allocation)
    (hrow : findAllocation allocation.id w.db = none)
    (hbinding : findBinding allocation.id w.db = none) :
    exists db, persistCreated allocation w.db = .ok db := by
  unfold persistCreated
  cases allocation.targetPort with
  | none => exact insertAllocationRow_of_fresh hcandidate hrow rfl rfl rfl
  | some targetPort =>
      unfold insertAllocationWithBinding
      simp only [except_bind_eq_ok]
      have hbindings : allocation.id ∉ w.db.bindings.map BindingRow.allocationId := by
        intro hmem
        rcases List.mem_map.mp hmem with ⟨stored, hstored, hself⟩
        exact findBinding_eq_none.mp hbinding stored hstored hself
      have hinserts : exists db, insertAllocationRow
          { id := allocation.id
            protocol := allocation.protocol.asStr
            port := i32FromU16 allocation.port
            targetPort := i32FromU16 targetPort
            host := allocation.host
            createdAtMs := allocation.createdAtMs
            updatedAtMs := allocation.updatedAtMs } w.db = .ok db :=
        insertAllocationRow_of_fresh hcandidate hrow rfl rfl rfl
      rcases hinserts with ⟨db, hinsert⟩
      have hsame := (insertAllocationRow_eq_ok hinsert).right.right
      rw [← hsame] at hbindings
      exact ⟨_, db, hinsert, dif_pos hbindings⟩

/-- The created allocation reads back as it was created. -/
theorem getAllocation_persistCreated_self {stored db : Database}
    (hunbound : allocation.host = none)
    (hbinding : findBinding allocation.id stored = none)
    (hpersist : persistCreated allocation stored = .ok db) :
    getAllocation allocation.id db = .ok (some allocation) := by
  rcases persistCreated_inserted hpersist with ⟨row, bindings, hinserted, htarget⟩
  refine getAllocation_eq_some.mpr ⟨row, hinserted.findAllocation_self, ?_⟩
  have hstored : findBinding allocation.id db =
      bindings.find? (fun binding => decide (binding.allocationId = allocation.id)) := by
    unfold findBinding at hbinding ⊢
    rw [hinserted.bindings, List.find?_append, hbinding]
    rfl
  rw [hstored]
  cases hport : allocation.targetPort with
  | none =>
      rw [hport] at htarget
      rcases htarget with ⟨hzero, hnil⟩
      rw [hnil]
      exact
        { id := hinserted.id.symm
          protocol := by rw [hinserted.protocol, Protocol.fromStr_asStr]
          port := hinserted.port.symm
          targetPort := by simp [TargetPortOf, hzero, hport]
          host := by rw [hinserted.host]; rfl
          createdAtMs := hinserted.createdAtMs.symm
          updatedAtMs := hinserted.updatedAtMs.symm }
  | some targetPort =>
      rw [hport] at htarget
      rcases htarget with ⟨_, hbindings⟩
      rw [hbindings]
      exact
        { id := hinserted.id.symm
          protocol := by rw [hinserted.protocol, Protocol.fromStr_asStr]
          port := hinserted.port.symm
          targetPort := by simp [TargetPortOf, hport]
          host := by simp [hinserted.host, hunbound]
          createdAtMs := hinserted.createdAtMs.symm
          updatedAtMs := hinserted.updatedAtMs.symm }

/-- No other id sees a create. -/
theorem find_persistCreated_of_ne {stored db : Database} {id : String}
    (hid : id ≠ allocation.id)
    (hpersist : persistCreated allocation stored = .ok db) :
    findAllocation id db = findAllocation id stored ∧
      findBinding id db = findBinding id stored := by
  rcases persistCreated_inserted hpersist with ⟨row, bindings, hinserted, htarget⟩
  refine ⟨hinserted.findAllocation_of_ne hid, hinserted.findBinding_of_ne ?_ hid⟩
  intro binding hbinding
  cases hport : allocation.targetPort with
  | none =>
      rw [hport] at htarget
      rw [htarget.right] at hbinding
      cases hbinding
  | some targetPort =>
      rw [hport] at htarget
      rw [htarget.right] at hbinding
      rw [List.mem_singleton.mp hbinding]

end Creating

/-!
# Effects keep step
-/

section Steps

variable {rt answer : Type} {svc : Service rt answer} {out : Outside answer}
  {holds : String -> Option Allocation -> rt -> Prop}

theorem Agrees.moves {w : World rt} (h : Agrees holds w) {id : String}
    {found : Option Allocation} {db : Database} {runtime : rt} {calls : Nat}
    (hself : getAllocation id db = .ok found)
    (hframe : forall other, other ≠ id ->
      getAllocation other db = getAllocation other w.db)
    (hmoves : Moves holds id found w.runtime runtime) :
    Agrees holds { w with db := db, runtime := runtime, calls := calls } := by
  intro other
  by_cases hother : other = id
  · rw [hother]
    exact ⟨found, hself, hmoves.self⟩
  · rcases h other with ⟨found', hget, hholds⟩
    refine ⟨found', ?_, hmoves.frame other found' hother hholds⟩
    rw [← hget]
    exact hframe other hother

theorem Agrees.holds_of_get {w : World rt} (h : Agrees holds w) {id : String}
    {found : Option Allocation} (hget : getAllocation id w.db = .ok found) :
    holds id found w.runtime := by
  rcases h id with ⟨found', hget', hholds⟩
  rw [hget] at hget'
  cases hget'
  exact hholds

theorem FreshIds.mono {calls calls' : Nat} {db db' : Database}
    (h : FreshIds out calls db) (hcalls : calls ≤ calls')
    (hkept : forall id, findAllocation id db = none -> findBinding id db = none ->
      findAllocation id db' = none ∧ findBinding id db' = none) :
    FreshIds out calls' db' := by
  intro call hcall
  rcases h call (hcalls.trans hcall) with ⟨hrow, hbinding⟩
  exact hkept _ hrow hbinding

theorem FreshIds.calls {calls calls' : Nat} {db : Database}
    (h : FreshIds out calls db) (hcalls : calls ≤ calls') :
    FreshIds out calls' db :=
  h.mono hcalls (fun _ hrow hbinding => ⟨hrow, hbinding⟩)

theorem FreshIds.generated {w : World rt} {calls : Nat} {id : String}
    (h : FreshIds out w.calls w.db) (hid : GeneratedBetween out w calls id) :
    w.calls ≤ calls ∧ findAllocation id w.db = none ∧
      findBinding id w.db = none := by
  rcases hid with ⟨call, hlow, hhigh, rfl⟩
  exact ⟨hlow.trans (Nat.le_of_lt hhigh), h call hlow⟩

theorem FreshIds.persistCreated {w : World rt} {calls : Nat} {db : Database}
    {allocation : Allocation} (hids : Function.Injective out.newId)
    (h : FreshIds out w.calls w.db)
    (hid : GeneratedBetween out w calls allocation.id)
    (hpersist : persistCreated allocation w.db = .ok db) :
    FreshIds out calls db := by
  rcases hid with ⟨call, hlow, hhigh, hself⟩
  intro later hlater
  have hne : out.newId later ≠ allocation.id := by
    rw [hself]
    intro hsame
    have heq := hids hsame
    lia
  rcases find_persistCreated_of_ne hne hpersist with ⟨hrow, hbinding⟩
  rw [hrow, hbinding]
  exact h later (by lia)

theorem FreshIds.putBinding {w : World rt} {calls : Nat} {binding : Binding}
    {allocation : Allocation} (h : FreshIds out w.calls w.db)
    (hcalls : w.calls ≤ calls)
    (hget : getAllocation binding.allocationId w.db = .ok (some allocation)) :
    FreshIds out calls (Storage.putBinding binding w.db) := by
  apply h.mono hcalls
  intro id hrow hbinding
  have hne : id ≠ binding.allocationId := by
    intro hsame
    rw [hsame, ← getAllocation_eq_none, hget] at hrow
    cases hrow
  rw [findAllocation_putBinding, hrow, findBinding_putBinding_of_ne hne]
  exact ⟨rfl, hbinding⟩

theorem FreshIds.deleteBinding {w : World rt} {calls : Nat} {id : String}
    {now : Int} {stored : BindingRow} (h : FreshIds out w.calls w.db)
    (hcalls : w.calls ≤ calls) (hstored : findBinding id w.db = some stored) :
    FreshIds out calls (Storage.deleteBinding id now w.db).2 := by
  apply h.mono hcalls
  intro other hrow hbinding
  rw [deleteBinding_snd hstored, findAllocation_updateTargetColumns,
    findAllocation_deleteBindingRows, hrow, findBinding_updateTargetColumns,
    findBinding_deleteBindingRows, hbinding]
  exact ⟨rfl, ite_self _⟩

theorem FreshIds.deleteAllocation {w : World rt} {calls : Nat} (id : String)
    (h : FreshIds out w.calls w.db) (hcalls : w.calls ≤ calls) :
    FreshIds out calls (Storage.deleteAllocation id w.db).2 := by
  apply h.mono hcalls
  intro other hrow hbinding
  rw [deleteAllocation_snd, findAllocation_deleteAllocationRows,
    findAllocation_deleteBindingRows, hrow, findBinding_deleteAllocationRows,
    findBinding_deleteBindingRows, hbinding]
  exact ⟨ite_self _, ite_self _⟩

theorem not_repositoryFails (hrepository : forall call, out.repository call = none) :
    ¬ RepositoryFails out := by
  intro h
  rcases h with ⟨call, fault, hfault⟩
  rw [hrepository call] at hfault
  cases hfault

/-- Every effect keeps the two stores in step. -/
theorem effect_inStep (hfollows : Follows svc.runtime holds)
    (hrepository : forall call, out.repository call = none)
    (hids : Function.Injective out.newId) (w w' : World rt)
    (h : InStep holds out w) (heffect : Effect svc out w w') :
    InStep holds out w' := by
  have hreliable := not_repositoryFails hrepository
  cases heffect with
  | quiet hcalls => exact ⟨h.agrees, h.fresh.calls hcalls, h.failpoints⟩
  | createRefused hcandidate hid hcreate =>
      rcases h.fresh.generated hid with ⟨hcalls, hrow, _⟩
      have hnone := getAllocation_eq_none.mpr hrow
      have hmoves := hfollows.create_error hcreate (h.agrees.holds_of_get hnone)
      exact ⟨h.agrees.moves hnone (fun _ _ => rfl) hmoves, h.fresh.calls hcalls,
        h.failpoints⟩
  | created hcandidate hid hcreate hpersist =>
      rcases h.fresh.generated hid with ⟨_, hrow, hbinding⟩
      have hnone := getAllocation_eq_none.mpr hrow
      have hmoves := hfollows.create_ok hcreate (h.agrees.holds_of_get hnone)
      refine ⟨h.agrees.moves ?_ ?_ hmoves, h.fresh.persistCreated hids hid hpersist,
        h.failpoints⟩
      · exact getAllocation_persistCreated_self hcandidate.unbound hbinding hpersist
      · intro other hother
        rcases find_persistCreated_of_ne hother hpersist with ⟨hrow', hbinding'⟩
        exact getAllocation_congr hrow' hbinding'
  | createUndone hcandidate hid _ hpersist =>
      rcases hpersist with ⟨⟨error, herror⟩, _⟩ | ⟨hfails, _⟩
      · rcases h.fresh.generated hid with ⟨_, hrow, hbinding⟩
        rcases persistCreated_of_fresh hcandidate hrow hbinding with ⟨db, hok⟩
        rw [herror] at hok
        cases hok
      · exact absurd hfails hreliable
  | bindingApplied hcalls hget hupdate =>
      rename_i allocation existing binding reply updated runtime
      have hfound := getAllocation_of_getAllocationWithBinding hget
      have hself : allocation.id = binding.allocationId := getAllocation_id hfound
      have hholds := h.agrees.holds_of_get hfound
      rw [← hself] at hholds
      have hmoves : Moves holds allocation.id
          (some (allocationWithBinding allocation binding)) w.runtime runtime :=
        hfollows.update hupdate hholds rfl rfl
      refine ⟨h.agrees.moves (getAllocation_putBinding_self hfound) ?_
        (hself ▸ hmoves), h.fresh.putBinding hcalls hfound, h.failpoints⟩
      intro other hother
      exact getAllocation_putBinding_of_ne hother
  | bindingUnapplied _ _ hreason | unbindingUnapplied _ _ hreason =>
      rcases hreason with htimeout | hfails
      · rw [h.failpoints] at htimeout
        cases htimeout
      · exact absurd hfails hreliable
  | unbindingApplied hcalls hget hupdate =>
      rename_i id now allocation existing reply updated runtime
      have hfound := getAllocation_of_getAllocationWithBinding hget
      have hself : allocation.id = id := getAllocation_id hfound
      rcases getAllocationWithBinding_eq_some.mp hget with ⟨_, _, _, hrel⟩
      cases hstored : findBinding id w.db with
      | none =>
          rw [hstored] at hrel
          cases hrel
      | some stored =>
          have hholds := h.agrees.holds_of_get hfound
          rw [← hself] at hholds
          have hmoves : Moves holds allocation.id
              (some (allocationWithoutBinding allocation now)) w.runtime runtime :=
            hfollows.update hupdate hholds rfl rfl
          refine ⟨h.agrees.moves (getAllocation_deleteBinding_self hstored hfound) ?_
            (hself ▸ hmoves), h.fresh.deleteBinding hcalls hstored, h.failpoints⟩
          intro other hother
          exact getAllocation_deleteBinding_of_ne hstored hother
  | deleteRefused hcalls hget hdelete =>
      have hmoves := hfollows.delete_error hdelete (h.agrees.holds_of_get hget)
      exact ⟨h.agrees.moves hget (fun _ _ => rfl) hmoves, h.fresh.calls hcalls,
        h.failpoints⟩
  | deleteRestored _ _ hfailpoint =>
      rw [h.failpoints] at hfailpoint
      cases hfailpoint
  | deleted hcalls hget hdelete =>
      rename_i id allocation reply runtime
      have hmoves := hfollows.delete_ok hdelete
      refine ⟨h.agrees.moves (getAllocation_deleteAllocation_self id w.db) ?_ hmoves,
        h.fresh.deleteAllocation id hcalls, h.failpoints⟩
      intro other hother
      exact getAllocation_deleteAllocation_of_ne hother
  | deleteUnpersisted _ _ _ hfails => exact absurd hfails hreliable

end Steps

/-!
# Restoring
-/

section Restoring

variable {rt answer : Type} {svc : Service rt answer} {out : Outside answer}
  {holds : String -> Option Allocation -> rt -> Prop}

/-- A completed pass over the listed allocations holds each of them and nothing
else that was not held before. -/
structure Restored (holds : String -> Option Allocation -> rt -> Prop)
    (allocations : List Allocation) (w w' : World rt) : Prop where
  db : w'.db = w.db
  failpoints : w'.failpoints = w.failpoints
  calls : w.calls ≤ w'.calls
  listed : forall allocation, allocation ∈ allocations ->
    holds allocation.id (some allocation) w'.runtime
  frame : forall id found, id ∉ allocations.map Allocation.id ->
    holds id found w.runtime -> holds id found w'.runtime

theorem restoreEach_restored (hfollows : Follows svc.runtime holds)
    (timeoutMs : UInt32) (allocations : List Allocation) :
    forall w : World rt, (allocations.map Allocation.id).Nodup ->
      (forall id, id ∈ allocations.map Allocation.id -> holds id none w.runtime) ->
      Ensures (restoreEach svc out timeoutMs allocations)
        (fun result w' => result = .ok () -> Restored holds allocations w w') w := by
  induction allocations with
  | nil =>
      intro w _ _ _
      exact
        { db := rfl
          failpoints := rfl
          calls := Nat.le_refl _
          listed := by
            intro allocation hmem
            cases hmem
          frame := fun _ _ _ hholds => hholds }
  | cons allocation rest ih =>
      intro w hnodup hempty
      rw [List.map_cons, List.nodup_cons] at hnodup
      unfold restoreEach
      simp only [ensures_bind, ensures_callRuntime, continues_ok]
      rcases hrestore : svc.runtime.restore (out.runtime w.calls) allocation timeoutMs
          w.runtime with ⟨restored, runtime⟩
      apply ensures_orRuntimeError
      · intro error _ hok
        cases hok
      · intro _ hrestored
        cases hrestored
        have hmoves := hfollows.restore_ok hrestore
          (hempty allocation.id (List.mem_cons_self))
        rw [continues_ok]
        refine ensures_mono ?_ (ih _ hnodup.right ?_)
        · intro result w' hrest hok
          have hdone := hrest hok
          exact
            { db := hdone.db
              failpoints := hdone.failpoints
              calls := (Nat.le_succ w.calls).trans hdone.calls
              listed := by
                intro other hmem
                rcases List.mem_cons.mp hmem with rfl | htail
                · exact hdone.frame _ _ hnodup.left hmoves.self
                · exact hdone.listed other htail
              frame := by
                intro id found hid hholds
                rw [List.map_cons, List.mem_cons, not_or] at hid
                exact hdone.frame id found hid.right
                  (hmoves.frame id found hid.left hholds) }
        · intro id hid
          have hne : id ≠ allocation.id := by
            intro hsame
            rw [hsame] at hid
            exact hnodup.left hid
          exact hmoves.frame id none hne (hempty id (List.mem_cons_of_mem _ hid))

/-- A property that initializing and restoring stored allocations keep holds after
a restore, completed or not. -/
theorem restoreEach_invariant {inv : World rt -> Prop} {timeoutMs : UInt32}
    (allocations : List Allocation)
    (hrestore : forall allocation w, allocation ∈ allocations -> inv w ->
      inv { w with
        runtime := (svc.runtime.restore (out.runtime w.calls) allocation timeoutMs
          w.runtime).2
        calls := w.calls + 1 }) :
    forall w : World rt, inv w ->
      Ensures (restoreEach svc out timeoutMs allocations) (fun _ w' => inv w') w := by
  induction allocations with
  | nil =>
      intro w h
      exact h
  | cons allocation rest ih =>
      intro w h
      have hnext := hrestore allocation w List.mem_cons_self h
      unfold restoreEach
      simp only [ensures_bind, ensures_callRuntime, continues_ok]
      apply ensures_orRuntimeError
      · intro error _
        exact hnext
      · intro _ _
        rw [continues_ok]
        apply ih _ _ hnext
        intro other w' hother
        exact hrestore other w' (List.mem_cons_of_mem _ hother)

theorem restoreAll_invariant {inv : World rt -> Prop} {timeoutMs : UInt32}
    {w : World rt} (h : inv w) (hcall : forall w', inv w' -> inv w'.afterCall)
    (hinit : forall w', inv w' -> inv { w' with
      runtime := (svc.runtime.initializeRuntime (out.runtime w'.calls) timeoutMs
        w'.runtime).2
      calls := w'.calls + 1 })
    (hrestore : forall allocation w',
      getAllocation allocation.id w.db = .ok (some allocation) -> inv w' ->
      inv { w' with
        runtime := (svc.runtime.restore (out.runtime w'.calls) allocation timeoutMs
          w'.runtime).2
        calls := w'.calls + 1 }) :
    Ensures (restoreAll svc out timeoutMs) (fun _ w' => inv w') w := by
  have hinitDone := hinit w h
  unfold restoreAll
  simp only [ensures_bind, ensures_callRuntime, continues_ok]
  apply ensures_orRuntimeError
  · intro error _
    exact hinitDone
  · intro _ _
    rw [continues_ok, ensures_bind]
    apply ensures_repoRead
    · intro error
      exact hcall _ hinitDone
    · intro allocations hlist
      rw [continues_ok]
      apply restoreEach_invariant allocations _ _ (hcall _ hinitDone)
      intro allocation w' hmem
      exact hrestore allocation w' (getAllocation_of_mem_listAllocations hlist hmem)

/-- A restore that completes over an empty runtime leaves the two stores in
step. -/
theorem restoreAll_inStep (hfollows : Follows svc.runtime holds)
    (timeoutMs : UInt32) (w : World rt)
    (hempty : forall id, holds id none w.runtime)
    (hfresh : FreshIds out w.calls w.db)
    (hfailpoints : w.failpoints = Failpoints.default) :
    Ensures (restoreAll svc out timeoutMs)
      (fun result w' => result = .ok () -> InStep holds out w') w := by
  unfold restoreAll
  simp only [ensures_bind, ensures_callRuntime, continues_ok]
  apply ensures_orRuntimeError
  · intro error _ hok
    cases hok
  · intro _ _
    rw [continues_ok, ensures_bind]
    apply ensures_repoRead
    · intro error hok
      cases hok
    · intro allocations hlist
      have hstart : forall id, holds id none
          (svc.runtime.initializeRuntime (out.runtime w.calls) timeoutMs w.runtime).2 := by
        intro id
        exact hfollows.initialized (hempty id)
      have hnodup := listAllocations_nodup hlist
      rw [continues_ok]
      refine ensures_mono ?_
        (restoreEach_restored hfollows timeoutMs allocations _ hnodup ?_)
      rotate_left
      · intro id _
        exact hstart id
      intro result w' hrest hok
      have hdone := hrest hok
      have hdb : w'.db = w.db := hdone.db
      have hcalls : w.calls + 2 ≤ w'.calls := hdone.calls
      refine ⟨?_, ?_, hdone.failpoints.trans hfailpoints⟩
      · intro id
        rw [hdb]
        by_cases hid : id ∈ allocations.map Allocation.id
        · rcases List.mem_map.mp hid with ⟨allocation, hmem, hself⟩
          rw [← hself]
          exact ⟨some allocation, getAllocation_of_mem_listAllocations hlist hmem,
            hdone.listed allocation hmem⟩
        · exact ⟨none, getAllocation_of_notMem_listAllocations hlist hid,
            hdone.frame id none hid (hstart id)⟩
      · rw [hdb]
        exact hfresh.calls (by lia)

/-- A process that has just opened its database: no failpoint is set. -/
def World.opened (db : Database) (runtime : rt) : World rt where
  db := db
  runtime := runtime
  failpoints := Failpoints.default
  calls := 0

/-- Agreement over runs: after a completed restore over an empty runtime, the
stores agree after every sequence of mutations. -/
theorem performAll_inStep (hfollows : Follows svc.runtime holds)
    (hrepository : forall call, out.repository call = none)
    (hids : Function.Injective out.newId) {timeoutMs : UInt32} {w : World rt}
    (hempty : forall id, holds id none w.runtime)
    (hfresh : FreshIds out w.calls w.db)
    (hfailpoints : w.failpoints = Failpoints.default)
    (hrestored : ((restoreAll svc out timeoutMs).exec w).1 = .ok ())
    (mutations : List Mutation) :
    InStep holds out
      (performAll svc out mutations ((restoreAll svc out timeoutMs).exec w).2) := by
  have hstart : InStep holds out ((restoreAll svc out timeoutMs).exec w).2 :=
    restoreAll_inStep hfollows timeoutMs w hempty hfresh hfailpoints hrestored
  exact performAll_invariant (effect_inStep hfollows hrepository hids) mutations hstart

end Restoring

/-- Ids of growing length, as an example of a generator that never repeats. -/
def countedId (call : Nat) : String := String.ofList (List.replicate call 'a')

theorem countedId_injective : Function.Injective countedId := by
  intro left right h
  have hlists := String.ofList_injective h
  have hlengths := congrArg List.length hlists
  simpa using hlengths

end Service
end Relayd
