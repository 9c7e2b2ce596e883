import Relayd.Service.CreateLoop
import Relayd.Service.ProxyAgreement
import Relayd.Service.Restart

/-!
# What a mutation returns is what is stored

A create or an update computes its result in memory, from a joined read, and writes rows.
The result is what the readers assemble from these rows afterwards, and no other id reads
differently.
-/

namespace Relayd
namespace Service

open Foundation Fallible Relayd.Runtime Storage

/-!
# Bindings have owners

A new allocation reads back as created only when no binding row waits for its id.
-/

def Owned (db : Database) : Prop :=
  forall id, findAllocation id db = none -> findBinding id db = none

theorem owned_empty : Owned Database.empty := by
  intro id _
  rfl

theorem Owned.openDatabase {db : Database} (h : Owned db) : Owned (openDatabase db) := by
  intro id hid
  have hnone : findAllocation id db = none := hid
  have hold := findBinding_eq_none.mp (h id hnone)
  rw [findBinding_eq_none]
  intro row hrow
  rcases List.mem_append.mp hrow with hrow | hrow
  · exact hold row hrow
  · -- a migrated binding carries the id of the row it was read from
    unfold legacyBindings at hrow
    rcases List.mem_map.mp hrow with ⟨source, hsource, rfl⟩
    exact findAllocation_eq_none.mp hnone source (List.mem_filter.mp hsource).left

theorem Owned.persistCreated {db db' : Database} {allocation : Allocation} (h : Owned db)
    (hpersist : persistCreated allocation db = .ok db') : Owned db' := by
  rcases persistCreated_inserted hpersist with ⟨row, bindings, hinserted, htarget⟩
  intro id hid
  by_cases hself : id = allocation.id
  · rw [hself, hinserted.findAllocation_self] at hid
    cases hid
  · rcases find_persistCreated_of_ne hself hpersist with ⟨hrow, hbinding⟩
    rw [hbinding]
    exact h id (hrow.symm.trans hid)

theorem Owned.putBinding {db : Database} {binding : Binding} {row : AllocationRow}
    (h : Owned db) (hrow : findAllocation binding.allocationId db = some row) :
    Owned (Storage.putBinding binding db) := by
  intro id hid
  rw [findAllocation_putBinding, Option.map_eq_none_iff] at hid
  by_cases hself : id = binding.allocationId
  · rw [hself, hrow] at hid
    cases hid
  · rw [findBinding_putBinding_of_ne hself]
    exact h id hid

theorem Owned.deleteBinding {db : Database} {id : String} {now : Int} {stored : BindingRow}
    (h : Owned db) (hstored : findBinding id db = some stored) :
    Owned (Storage.deleteBinding id now db).2 := by
  intro other hother
  rw [deleteBinding_snd hstored, findAllocation_updateTargetColumns,
    findAllocation_deleteBindingRows, Option.map_eq_none_iff] at hother
  rw [deleteBinding_snd hstored, findBinding_updateTargetColumns,
    findBinding_deleteBindingRows]
  split
  · rfl
  · exact h other hother

theorem Owned.deleteAllocation {db : Database} (h : Owned db) (id : String) :
    Owned (Storage.deleteAllocation id db).2 := by
  intro other hother
  rw [deleteAllocation_snd, findAllocation_deleteAllocationRows] at hother
  rw [deleteAllocation_snd, findBinding_deleteAllocationRows, findBinding_deleteBindingRows]
  split
  · rfl
  · next hne =>
    rw [if_neg hne] at hother
    exact h other hother

section Reachable

variable {rt answer : Type} {svc : Service rt answer} {out : Outside answer}

theorem effect_owned (w w' : World rt) (h : Owned w.db) (heffect : Effect svc out w w') :
    Owned w'.db := by
  cases heffect with
  | quiet | createRefused | deleteRefused | deleteRestored | deleteUnpersisted => exact h
  | created _ _ _ hpersist => exact h.persistCreated hpersist
  | createUndone _ _ _ hpersist =>
      rcases hpersist with ⟨_, hdb⟩ | ⟨_, hdb | hpersist⟩
      · rw [hdb]
        exact h
      · rw [hdb]
        exact h
      · exact h.persistCreated hpersist
  | bindingApplied _ hget | bindingUnapplied _ hget =>
      rcases findAllocation_of_getAllocationWithBinding hget with ⟨row, hrow⟩
      exact h.putBinding hrow
  | unbindingApplied _ hget | unbindingUnapplied _ hget =>
      rcases findBinding_of_getAllocationWithBinding hget with ⟨stored, hstored⟩
      exact h.deleteBinding hstored
  | deleted => exact h.deleteAllocation _

theorem handleAll_owned (events : List (Event rt)) {w : World rt} (h : Owned w.db) :
    Owned (handleAll svc out events w).db := by
  have hreopen : forall (runtime : rt) (w : World rt), Owned w.db ->
      Owned (w.reopen runtime).db := by
    intro _ _ howned
    exact howned.openDatabase
  exact handleAll_invariant effect_owned hreopen events h

end Reachable

/-!
# Frames
-/

/-- An id reads the same in both databases. -/
def ReadsSame (id : String) (db db' : Database) : Prop :=
  getAllocation id db' = getAllocation id db ∧ getBinding id db' = getBinding id db

/-- At most the target, its time of update and the rest of the binding of one id have
changed. -/
structure Rebound (id : String) (db db' : Database) : Prop where
  allocation : forall old, getAllocation id db = .ok (some old) ->
    exists new, getAllocation id db' = .ok (some new) ∧ new.id = old.id ∧
      new.protocol = old.protocol ∧ new.port = old.port ∧ new.createdAtMs = old.createdAtMs
  binding : forall old, getBinding id db = .ok (some old) ->
    exists new, getBinding id db' = .ok (some new) ∧ new.createdAtMs = old.createdAtMs
  others : forall other, other ≠ id -> ReadsSame other db db'

theorem rebound_refl (id : String) (db : Database) : Rebound id db db where
  allocation := fun old h => ⟨old, h, rfl, rfl, rfl, rfl⟩
  binding := fun old h => ⟨old, h, rfl⟩
  others := fun _ _ => ⟨rfl, rfl⟩

theorem rebound_putBinding {binding : Binding} {allocation : Allocation}
    {existing : Option Binding} {db : Database}
    (hget : getAllocationWithBinding binding.allocationId db =
      .ok (some (allocation, existing)))
    (hcreated : forall old, existing = some old -> binding.createdAtMs = old.createdAtMs) :
    Rebound binding.allocationId db (Storage.putBinding binding db) := by
  constructor
  · intro old hold
    exact ⟨_, getAllocation_putBinding_self hold, rfl, rfl, rfl, rfl⟩
  · intro old hold
    have hexisting := getBinding_of_getAllocationWithBinding hget
    have hsame : existing = some old := Except.ok.inj (hexisting.symm.trans hold)
    exact ⟨binding, getBinding_putBinding_self hexisting hcreated, hcreated old hsame⟩
  · intro other hother
    constructor
    · exact getAllocation_putBinding_of_ne hother
    · exact getBinding_congr (findBinding_putBinding_of_ne hother)

theorem readsSame_persistCreated {allocation : Allocation} {id : String} {db db' : Database}
    (hid : id ≠ allocation.id) (hpersist : persistCreated allocation db = .ok db') :
    ReadsSame id db db' := by
  rcases find_persistCreated_of_ne hid hpersist with ⟨hrow, hbinding⟩
  constructor
  · exact getAllocation_congr hrow hbinding
  · exact getBinding_congr hbinding

/-!
# Results
-/

section Results

variable {rt answer : Type} {svc : Service rt answer} {out : Outside answer}

/-- A create stores one allocation or leaves the tables alone, and returns only what it
has stored. -/
def StoresCreated (w : World rt) (result : Except ServiceError Allocation) (w' : World rt) :
    Prop :=
  ((exists error, result = .error error) ∧ w'.db = w.db) ∨
    exists allocation, allocation.host = none ∧ persistCreated allocation w.db = .ok w'.db ∧
      forall returned, result = .ok returned -> returned = allocation

theorem createLoop_stores (protocol : Protocol) (targetPort : Option UInt16) :
    forall (fuel : Nat) (nextPort : Option UInt16) (hfuel : remainingPorts nextPort ≤ fuel)
      (w : World rt),
      Ensures (createLoop svc out protocol targetPort fuel nextPort hfuel) (StoresCreated w)
        w := by
  intro fuel
  induction fuel with
  | zero =>
      intro nextPort hfuel w
      cases nextPort with
      | none => exact Or.inl ⟨⟨_, rfl⟩, rfl⟩
      | some start => exact absurd hfuel (not_remainingPorts_some_le_zero start)
  | succ fuel ih =>
      intro nextPort hfuel w
      cases nextPort with
      | none => exact Or.inl ⟨⟨_, rfl⟩, rfl⟩
      | some start =>
          apply ensures_createLoop_succ
          · intro error _
            exact Or.inl ⟨⟨_, rfl⟩, rfl⟩
          · intro _
            exact Or.inl ⟨⟨_, rfl⟩, rfl⟩
          · intro allocation runtime hattempt
            exact ih _ (hattempt.remaining hfuel)
              { w with runtime := runtime, calls := w.calls + 4 }
          · intro allocation error runtime _ _
            exact Or.inl ⟨⟨_, rfl⟩, rfl⟩
          · intro allocation runtime error db hattempt hfails
            rcases hfails with ⟨_, hdb⟩ | ⟨_, _, ⟨_, hdb⟩ | ⟨_, hpersist⟩⟩
            · exact Or.inl ⟨⟨_, rfl⟩, hdb⟩
            · exact Or.inl ⟨⟨_, rfl⟩, hdb⟩
            · refine Or.inr ⟨allocation, hattempt.unbound, hpersist, ?_⟩
              intro returned h
              cases h
          · intro allocation runtime db hattempt hpersist
            refine Or.inr ⟨allocation, hattempt.unbound, hpersist, ?_⟩
            intro returned h
            cases h
            rfl

theorem createAllocation_stores (protocol : Protocol) (targetPort : Option UInt16)
    (w : World rt) :
    Ensures (createAllocation svc out protocol targetPort) (StoresCreated w) w := by
  unfold createAllocation
  simp only [ensures_bind, ensures_readFailpoints, continues_ok]
  split
  · exact Or.inl ⟨⟨_, rfl⟩, rfl⟩
  · exact createLoop_stores protocol targetPort _ _ _ w

/-- What an assignment leaves behind, and what it has stored when it returns. -/
structure Assigned (allocation : Allocation) (binding : Binding) (w : World rt)
    (result : Except ServiceError Allocation) (w' : World rt) : Prop where
  rebound : Rebound binding.allocationId w.db w'.db
  stored : forall returned, result = .ok returned ->
    returned = allocationWithBinding allocation binding ∧
      getAllocation binding.allocationId w'.db = .ok (some returned) ∧
      getBinding binding.allocationId w'.db = .ok (some binding)

theorem assigned_error {allocation : Allocation} {binding : Binding} {w w' : World rt}
    (error : ServiceError) (h : Rebound binding.allocationId w.db w'.db) :
    Assigned allocation binding w (.error error) w' where
  rebound := h
  stored := by
    intro returned hreturned
    cases hreturned

theorem assignBinding_assigned {allocation : Allocation} {binding : Binding}
    {existing : Option Binding} {w : World rt} {calls : Nat}
    (hget : getAllocationWithBinding binding.allocationId w.db =
      .ok (some (allocation, existing)))
    (hcreated : forall old, existing = some old -> binding.createdAtMs = old.createdAtMs) :
    Ensures (assignBinding svc out allocation binding) (Assigned allocation binding w)
      { w with calls := calls } := by
  have hrebound := rebound_putBinding hget hcreated
  have hallocation := getAllocation_putBinding_self
    (getAllocation_of_getAllocationWithBinding hget)
  have hbinding := getBinding_putBinding_self
    (getBinding_of_getAllocationWithBinding hget) hcreated
  unfold assignBinding
  rw [ensures_bind]
  apply ensures_repoWrite
  · intro error h
    cases h
  · intro fault hfault
    exact assigned_error _ (rebound_refl _ _)
  · intro fault result db hfault h
    cases h
    exact assigned_error _ hrebound
  · intro result db h
    cases h
    simp only [continues_ok, ensures_bind, ensures_readFailpoints]
    split
    · exact assigned_error _ hrebound
    · simp only [ensures_bind, ensures_callRuntime, continues_ok]
      apply ensures_orRuntimeError
      · intro error _
        exact assigned_error _ hrebound
      · intro _ _
        constructor
        · exact hrebound
        · intro returned h
          cases h
          exact ⟨rfl, hallocation, hbinding⟩

/-- A create that returns an allocation has stored it, and disturbs no other id. -/
structure CreateStored (w : World rt) (result : Except ServiceError Allocation)
    (w' : World rt) : Prop where
  stored : forall allocation, result = .ok allocation ->
    getAllocation allocation.id w'.db = .ok (some allocation)
  others : forall allocation, result = .ok allocation ->
    forall other, other ≠ allocation.id -> ReadsSame other w.db w'.db
  existing : forall other old, getAllocation other w.db = .ok (some old) ->
    ReadsSame other w.db w'.db

theorem createStored_of_stores {w w' : World rt} {result : Except ServiceError Allocation}
    (howned : Owned w.db) (h : StoresCreated w result w') : CreateStored w result w' := by
  rcases h with ⟨⟨error, rfl⟩, hdb⟩ | ⟨allocation, hunbound, hpersist, hreturns⟩
  · refine ⟨?_, ?_, ?_⟩
    · intro allocation h
      cases h
    · intro allocation h
      cases h
    · intro other old _
      rw [hdb]
      exact ⟨rfl, rfl⟩
  · rcases persistCreated_inserted hpersist with ⟨row, bindings, hinserted, _⟩
    have hfresh : findAllocation allocation.id w.db = none := hinserted.findAllocation_fresh
    constructor
    · intro returned h
      rw [hreturns returned h]
      exact getAllocation_persistCreated_self hunbound (howned _ hfresh) hpersist
    · intro returned h other hother
      rw [hreturns returned h] at hother
      exact readsSame_persistCreated hother hpersist
    · intro other old hold
      apply readsSame_persistCreated _ hpersist
      intro hself
      rw [hself, getAllocation_eq_none.mpr hfresh] at hold
      cases hold

/-- An update that returns an allocation has stored it; fields it was not given keep the
values the allocation had. -/
structure UpdateStored (id : String) (targetPort : Option UInt16) (host : Option String)
    (w : World rt) (result : Except ServiceError Allocation) (w' : World rt) : Prop where
  rebound : Rebound id w.db w'.db
  stored : forall allocation, result = .ok allocation ->
    allocation.id = id ∧ getAllocation allocation.id w'.db = .ok (some allocation)
  omitted : forall allocation, result = .ok allocation ->
    exists old, getAllocation id w.db = .ok (some old) ∧
      (targetPort = none -> allocation.targetPort = old.targetPort) ∧
      (host = none -> allocation.host = old.host)

theorem updateStored_error {id : String} {targetPort : Option UInt16} {host : Option String}
    {w w' : World rt} (error : ServiceError) (h : w'.db = w.db) :
    UpdateStored id targetPort host w (.error error) w' where
  rebound := by
    rw [h]
    exact rebound_refl id w.db
  stored := by
    intro allocation hallocation
    cases hallocation
  omitted := by
    intro allocation hallocation
    cases hallocation

theorem updateAllocation_stored (id : String) (targetPort : Option UInt16)
    (host : Option String) (w : World rt) :
    Ensures (updateAllocation svc out id targetPort host)
      (UpdateStored id targetPort host w) w := by
  unfold updateAllocation
  rw [ensures_bind]
  apply ensures_repoRead
  · intro error
    exact updateStored_error _ rfl
  intro found hget
  cases found with
  | none => exact updateStored_error _ rfl
  | some found =>
      rcases found with ⟨allocation, existing⟩
      have hold := getAllocation_of_getAllocationWithBinding hget
      have hkept := target_of_getAllocationWithBinding hget
      simp only [continues_ok]
      split
      · split
        · exact updateStored_error _ rfl
        · next resolved hresolved =>
          simp only [ensures_bind, ensures_currentTimeMs, continues_ok]
          refine ensures_mono ?_ (assignBinding_assigned (w := w) hget ?_)
          · intro result w' hassigned
            constructor
            · exact hassigned.rebound
            · intro returned hreturned
              rcases hassigned.stored returned hreturned with ⟨hallocation, hstored, _⟩
              have hself : allocation.id = id := getAllocation_id hold
              have hid : returned.id = id := by
                rw [hallocation]
                exact hself
              rw [hid]
              exact ⟨rfl, hstored⟩
            · intro returned hreturned
              rcases hassigned.stored returned hreturned with ⟨rfl, _⟩
              refine ⟨allocation, hold, ?_, ?_⟩
              · intro htarget
                rw [htarget, Option.none_or] at hresolved
                rcases Option.map_eq_some_iff.mp hresolved with ⟨binding, hbinding, rfl⟩
                exact (hkept.1 binding hbinding).symm
              · intro hhost
                rw [hhost, Option.none_or]
                exact hkept.2
          · intro old hexisting
            rw [hexisting]
            rfl
      · exact updateStored_error _ rfl

/-- A put that returns a binding has stored it. -/
structure PutStored (id : String) (w : World rt) (result : Except ServiceError Binding)
    (w' : World rt) : Prop where
  rebound : Rebound id w.db w'.db
  stored : forall binding, result = .ok binding ->
    binding.allocationId = id ∧ getBinding id w'.db = .ok (some binding)

theorem putStored_error {id : String} {w w' : World rt} (error : ServiceError)
    (h : Rebound id w.db w'.db) : PutStored id w (.error error) w' where
  rebound := h
  stored := by
    intro binding hbinding
    cases hbinding

theorem putBinding_stored (id host : String) (targetPort : UInt16) (w : World rt) :
    Ensures (putBinding svc out id host targetPort) (PutStored id w) w := by
  unfold putBinding
  cases parseIpLiteral host with
  | error _ => exact putStored_error _ (rebound_refl _ _)
  | ok _ =>
      rw [ensures_bind]
      apply ensures_repoRead
      · intro error
        exact putStored_error _ (rebound_refl _ _)
      intro found hget
      cases found with
      | none => exact putStored_error _ (rebound_refl _ _)
      | some found =>
          rcases found with ⟨allocation, existing⟩
          simp only [continues_ok, ensures_bind, ensures_currentTimeMs]
          generalize hbinding : Binding.mk id targetPort (some host)
            ((existing.map Binding.createdAtMs).getD (out.clock w.afterCall.calls))
            (out.clock w.afterCall.calls) = binding
          have hid : binding.allocationId = id := by rw [<- hbinding]
          have hcreated : forall old, existing = some old ->
              binding.createdAtMs = old.createdAtMs := by
            intro old hexisting
            rw [<- hbinding, hexisting]
            rfl
          rw [<- hid] at hget
          refine ensures_mono ?_ (assignBinding_assigned (w := w) hget hcreated)
          intro result w' hassigned
          have hrebound := hassigned.rebound
          rw [hid] at hrebound
          cases result with
          | error error => exact putStored_error _ hrebound
          | ok returned =>
              refine ⟨hrebound, ?_⟩
              intro stored hstored
              cases hstored
              rcases hassigned.stored returned rfl with ⟨_, _, hstored⟩
              rw [hid] at hstored
              exact ⟨hid, hstored⟩

/-- In every state a run with restarts can reach, a mutation stores what it returns, keeps
the keys and creation times of what was there, and leaves all other ids alone. -/
theorem mutation_stores_result (svc : Service rt answer) (out : Outside answer)
    (start : World rt) (howned : Owned start.db) (events : List (Event rt)) :
    (forall protocol targetPort result w',
      (createAllocation svc out protocol targetPort).exec (handleAll svc out events start) =
        (result, w') ->
      CreateStored (handleAll svc out events start) result w') ∧
    (forall id targetPort host result w',
      (updateAllocation svc out id targetPort host).exec (handleAll svc out events start) =
        (result, w') ->
      UpdateStored id targetPort host (handleAll svc out events start) result w') ∧
    (forall id host result w',
      (setTarget svc out id host).exec (handleAll svc out events start) = (result, w') ->
      UpdateStored id none (some host) (handleAll svc out events start) result w') ∧
    forall id host targetPort result w',
      (putBinding svc out id host targetPort).exec (handleAll svc out events start) =
        (result, w') ->
      PutStored id (handleAll svc out events start) result w' := by
  have hreached : Owned (handleAll svc out events start).db := handleAll_owned events howned
  generalize handleAll svc out events start = w at hreached
  refine ⟨?_, ?_, ?_, ?_⟩
  · intro protocol targetPort result w' hexec
    have hstores : Ensures (createAllocation svc out protocol targetPort) (StoresCreated w)
        w := createAllocation_stores protocol targetPort w
    rw [ensures_exec, hexec] at hstores
    exact createStored_of_stores hreached hstores
  · intro id targetPort host result w' hexec
    have hstored : Ensures (updateAllocation svc out id targetPort host)
        (UpdateStored id targetPort host w) w := updateAllocation_stored id targetPort host w
    rw [ensures_exec, hexec] at hstored
    exact hstored
  · intro id host result w' hexec
    have hstored : Ensures (updateAllocation svc out id none (some host))
        (UpdateStored id none (some host) w) w := updateAllocation_stored id none (some host) w
    have hsame : (updateAllocation svc out id none (some host)).exec w = (result, w') := hexec
    rw [ensures_exec, hsame] at hstored
    exact hstored
  · intro id host targetPort result w' hexec
    have hstored : Ensures (putBinding svc out id host targetPort) (PutStored id w) w :=
      putBinding_stored id host targetPort w
    rw [ensures_exec, hexec] at hstored
    exact hstored

end Results

/-- An allocation was created with a target and then given a host. -/
def hostedWorld : World RealRuntime :=
  handleAll (proxyService loopbackRange 1000) (bindingOutside true)
    [.mutate (.createAllocation .both (some 80)),
      .mutate (.setTarget (countedId 2) "10.0.0.1")]
    (World.opened Database.empty (RealRuntime.new "127.0.0.1"))

def retargetedHost : Except ServiceError Allocation × World RealRuntime :=
  (updateAllocation (proxyService loopbackRange 1000) (bindingOutside true) (countedId 2)
    (some 90) none).exec hostedWorld

theorem retarget_stores_result :
    exists allocation, retargetedHost.1 = .ok allocation ∧
      allocation.host = some "10.0.0.1" ∧ allocation.targetPort = some 90 ∧
      getAllocation allocation.id retargetedHost.2.db = .ok (some allocation) := by
  have hresult : retargetedHost.1 = .ok
      ⟨countedId 2, .both, 1000, some 90, some "10.0.0.1", 1, 10⟩ := by rfl
  have hstored := (mutation_stores_result (proxyService loopbackRange 1000)
    (bindingOutside true) (World.opened Database.empty (RealRuntime.new "127.0.0.1"))
    owned_empty [.mutate (.createAllocation .both (some 80)),
      .mutate (.setTarget (countedId 2) "10.0.0.1")]).2.1 (countedId 2) (some 90) none
    retargetedHost.1 retargetedHost.2 rfl
  exact ⟨_, hresult, rfl, rfl, (hstored.stored _ hresult).2⟩

end Service
end Relayd
