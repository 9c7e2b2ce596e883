import Relayd.Foundation.KeyedMap
import Relayd.Service.CreateLoop
import Relayd.Service.ProxyAgreement

/-!
# Creates that fail

A create may fail on many ports, half way through a pair of listeners or at the
write that follows them.  Each attempt takes back what it has opened, down to the
entry, so that a failed create leaves the tables and the maps as they were.
-/

namespace Relayd
namespace Service

open Foundation Fallible Relayd.Runtime Storage

/-!
# Opening and taking back
-/

/-- The id is not a key of any map of the runtime. -/
structure Unopened (id : String) (s : RealRuntime) : Prop where
  tcp : s.tcp.lookup id = none
  udp : s.udp.lookup id = none
  protocols : s.protocols.lookup id = none

/-- The runtime with the listeners of one more allocation. -/
def opened (allocation : Allocation) (s : RealRuntime) : RealRuntime :=
  { s with
    tcp :=
      if .tcp ∈ protocolsFor allocation.protocol then
        s.tcp.insert allocation.id (tcpEntryKind.bound allocation)
      else s.tcp
    udp :=
      if .udp ∈ protocolsFor allocation.protocol then
        s.udp.insert allocation.id (udpEntryKind.bound allocation)
      else s.udp
    protocols := s.protocols.insert allocation.id allocation.protocol }

theorem deleteEntry_insert {entry : Type} {entries : Entries entry} {id : String}
    (h : entries.lookup id = none) (e : entry) :
    (deleteEntry id (entries.insert id e)).2 = entries := by
  unfold deleteEntry
  rw [AList.lookup_insert]
  exact erase_insert h e

theorem deleteEntry_of_lookup_none {entry : Type} {entries : Entries entry} {id : String}
    (h : entries.lookup id = none) : (deleteEntry id entries).2 = entries := by
  unfold deleteEntry
  rw [h]

section Create

variable {allocation : Allocation} {s : RealRuntime}

/-- A create opens every listener of the allocation or none. -/
theorem create_opened (binds : Binds) (h : Unopened allocation.id s) :
    Ensures (RealRuntime.create binds allocation)
      (fun result s' => (result = .ok () ∧ s' = opened allocation s) ∨
        (result = .error .runtimeCreateFailed ∧ s' = s)) s := by
  have hopens := RealRuntime.openProtocols_opens .runtimeCreateFailed binds
    (fun error => error) allocation s
  refine ensures_mono ?_ hopens
  intro result s' hcase
  cases hcase with
  | refused => exact Or.inr ⟨rfl, rfl⟩
  | undone _ =>
      -- the tcp listener that was opened first is taken down again
      rw [deleteEntry_insert h.tcp]
      exact Or.inr ⟨rfl, rfl⟩
  | tcp hprotocol => exact Or.inl ⟨rfl, by simp [opened, protocolsFor, hprotocol]⟩
  | udp hprotocol => exact Or.inl ⟨rfl, by simp [opened, protocolsFor, hprotocol]⟩
  | both hprotocol => exact Or.inl ⟨rfl, by simp [opened, protocolsFor, hprotocol]⟩

/-- The delete that follows a failed write takes back exactly what was opened. -/
theorem delete_opened (h : Unopened allocation.id s) :
    Ensures (RealRuntime.delete allocation.id) (fun _ s' => s' = s) (opened allocation s) := by
  unfold RealRuntime.delete
  simp only [ensures_bind, RealRuntime.ensures_removeProtocol, continues_ok, ensures_attempt,
    RealRuntime.ensures_tcpDelete, RealRuntime.ensures_udpDelete, ensures_pure]
  have htcp : (deleteEntry allocation.id (opened allocation s).tcp).2 = s.tcp := by
    unfold opened
    simp only
    split
    · exact deleteEntry_insert h.tcp _
    · exact deleteEntry_of_lookup_none h.tcp
  have hudp : (deleteEntry allocation.id (opened allocation s).udp).2 = s.udp := by
    unfold opened
    simp only
    split
    · exact deleteEntry_insert h.udp _
    · exact deleteEntry_of_lookup_none h.udp
  have hprotocols : (opened allocation s).protocols.erase allocation.id = s.protocols :=
    erase_insert h.protocols _
  rw [htcp, hudp, hprotocols]
  rfl

end Create

/-!
# The loop
-/

/-- A failure that the repository reports has not been committed. -/
def RollsBack {answer : Type} (out : Outside answer) : Prop :=
  forall call fault, out.repository call = some fault -> fault.committed = false

/-- The ids that are generated from now on are not in use. -/
structure Unused (out : Outside Binds) (w : World RealRuntime) : Prop where
  unopened : forall call, w.calls ≤ call -> Unopened (out.newId call) w.runtime
  unstored : forall call, w.calls ≤ call -> findAllocation (out.newId call) w.db = none ∧
    findBinding (out.newId call) w.db = none

/-- A create that fails changes nothing; one that succeeds opens and stores what it
returns. -/
structure AllOrNothing (w : World RealRuntime) (result : Except ServiceError Allocation)
    (w' : World RealRuntime) : Prop where
  failed : forall error, result = .error error -> w'.db = w.db ∧ w'.runtime = w.runtime
  created : forall allocation, result = .ok allocation ->
    Unopened allocation.id w.runtime ∧ w'.runtime = opened allocation w.runtime ∧
      persistCreated allocation w.db = .ok w'.db

theorem allOrNothing_error {w w' : World RealRuntime} (error : ServiceError)
    (hdb : w'.db = w.db) (hruntime : w'.runtime = w.runtime) :
    AllOrNothing w (.error error) w' where
  failed := fun _ _ => ⟨hdb, hruntime⟩
  created := by
    intro allocation h
    cases h

section Loop

variable {portRange : PortRange} {applyTimeoutMs : UInt32} {out : Outside Binds}
  {protocol : Protocol} {targetPort : Option UInt16}

theorem Attempt.opened {start : UInt16} {w : World RealRuntime} {allocation : Allocation}
    {created : Except RuntimeError Unit} {runtime : RealRuntime}
    (h : Attempt (proxyService portRange applyTimeoutMs) out protocol targetPort start w
      allocation created runtime) (hunused : Unused out w) :
    Unopened allocation.id w.runtime ∧
      ((created = .ok () ∧ runtime = Service.opened allocation w.runtime) ∨
        (created = .error .runtimeCreateFailed ∧ runtime = w.runtime)) := by
  have hunopened : Unopened allocation.id w.runtime := by
    rw [h.id_eq]
    exact hunused.unopened _ (Nat.le_add_right _ _)
  have hcreate : (RealRuntime.create (out.runtime (w.calls + 3)) allocation).exec w.runtime =
      (created, runtime) := h.create_eq
  have hopened := create_opened (out.runtime (w.calls + 3)) hunopened
  rw [ensures_exec, hcreate] at hopened
  exact ⟨hunopened, hopened⟩

theorem createLoop_allOrNothing (hrolls : RollsBack out) :
    forall (fuel : Nat) (nextPort : Option UInt16)
      (hfuel : remainingPorts nextPort ≤ fuel) (w : World RealRuntime), Unused out w ->
      Ensures (createLoop (proxyService portRange applyTimeoutMs) out protocol targetPort
        fuel nextPort hfuel) (AllOrNothing w) w := by
  intro fuel
  induction fuel with
  | zero =>
      intro nextPort hfuel w _
      cases nextPort with
      | none => exact allOrNothing_error _ rfl rfl
      | some start => exact absurd hfuel (not_remainingPorts_some_le_zero start)
  | succ fuel ih =>
      intro nextPort hfuel w hunused
      cases nextPort with
      | none => exact allOrNothing_error _ rfl rfl
      | some start =>
          apply ensures_createLoop_succ
          · intro error _
            exact allOrNothing_error _ rfl rfl
          · intro _
            exact allOrNothing_error _ rfl rfl
          · intro allocation runtime hattempt
            obtain ⟨_, ⟨hok, _⟩ | ⟨_, hruntime⟩⟩ := hattempt.opened hunused
            · cases hok
            · -- the next round starts from the same tables and maps
              subst hruntime
              have hnext : Unused out { w with calls := w.calls + 4 } :=
                ⟨fun call hcall => hunused.unopened call (Nat.le_of_add_right_le hcall),
                  fun call hcall => hunused.unstored call (Nat.le_of_add_right_le hcall)⟩
              refine ensures_mono ?_ (ih _ (hattempt.remaining hfuel) _ hnext)
              intro result w' hrest
              exact ⟨hrest.failed, hrest.created⟩
          · intro allocation error runtime hother hattempt
            obtain ⟨_, ⟨hok, _⟩ | ⟨herror, _⟩⟩ := hattempt.opened hunused
            · cases hok
            · cases herror
              exact absurd rfl hother
          · intro allocation runtime error db hattempt hfails
            obtain ⟨hunopened, ⟨_, hruntime⟩ | ⟨herror, _⟩⟩ := hattempt.opened hunused
            · subst hruntime
              apply allOrNothing_error
              · rcases hfails with ⟨_, hdb⟩ | ⟨fault, hfault, ⟨_, hdb⟩ | ⟨hcommitted, _⟩⟩
                · exact hdb
                · exact hdb
                · rw [hrolls _ fault hfault] at hcommitted
                  cases hcommitted
              · exact delete_opened hunopened
            · cases herror
          · intro allocation runtime db hattempt hpersist
            obtain ⟨hunopened, ⟨_, hruntime⟩ | ⟨herror, _⟩⟩ := hattempt.opened hunused
            · constructor
              · intro error h
                cases h
              · intro returned h
                cases h
                exact ⟨hunopened, hruntime, hpersist⟩
            · cases herror

end Loop

/-!
# No trace
-/

/-- What a create has added belongs to the allocation it returned. -/
structure OnlyAdds (allocation : Allocation) (w w' : World RealRuntime) : Prop where
  allocations : exists row, row.id = allocation.id ∧
    w'.db.allocations = w.db.allocations ++ [row]
  bindings : exists rows, (forall row, row ∈ rows -> row.allocationId = allocation.id) ∧
    w'.db.bindings = w.db.bindings ++ rows
  tcp : forall id, w'.runtime.tcp.lookup id =
    if id = allocation.id ∧ .tcp ∈ protocolsFor allocation.protocol then
      some (tcpEntryKind.bound allocation)
    else w.runtime.tcp.lookup id
  udp : forall id, w'.runtime.udp.lookup id =
    if id = allocation.id ∧ .udp ∈ protocolsFor allocation.protocol then
      some (udpEntryKind.bound allocation)
    else w.runtime.udp.lookup id
  protocols : forall id, w'.runtime.protocols.lookup id =
    if id = allocation.id then some allocation.protocol
    else w.runtime.protocols.lookup id

theorem lookup_insert_when {value : Type} (m : KeyMap String value) (id : String)
    (v : value) (other : String) (p : Prop) [Decidable p] :
    (if p then m.insert id v else m).lookup other =
      if other = id ∧ p then some v else m.lookup other := by
  by_cases hp : p
  · rw [if_pos hp, lookup_insert_eq]
    simp [hp]
  · rw [if_neg hp, if_neg (fun h => hp h.2)]

theorem onlyAdds_of_created {allocation : Allocation} {w w' : World RealRuntime}
    (hruntime : w'.runtime = opened allocation w.runtime)
    (hpersist : persistCreated allocation w.db = .ok w'.db) :
    OnlyAdds allocation w w' := by
  obtain ⟨row, bindings, hinserted, htarget⟩ := persistCreated_inserted hpersist
  constructor
  · exact ⟨row, hinserted.id, hinserted.allocations⟩
  · refine ⟨bindings, ?_, hinserted.bindings⟩
    intro binding hbinding
    cases hport : allocation.targetPort with
    | none =>
        rw [hport] at htarget
        rw [htarget.2] at hbinding
        cases hbinding
    | some port =>
        rw [hport] at htarget
        rw [htarget.2] at hbinding
        rw [List.mem_singleton.mp hbinding]
  · intro id
    rw [hruntime]
    exact lookup_insert_when _ _ _ _ _
  · intro id
    rw [hruntime]
    exact lookup_insert_when _ _ _ _ _
  · intro id
    rw [hruntime]
    exact lookup_insert_eq _ _ _ _

theorem failed_create_leaves_no_trace (portRange : PortRange) (applyTimeoutMs : UInt32)
    (out : Outside Binds) (hrolls : RollsBack out) (w : World RealRuntime)
    (hunused : Unused out w) (protocol : Protocol) (targetPort : Option UInt16) :
    (forall error, ((createAllocation (proxyService portRange applyTimeoutMs) out protocol
        targetPort).exec w).1 = .error error ->
      ((createAllocation (proxyService portRange applyTimeoutMs) out protocol
        targetPort).exec w).2.db = w.db ∧
      ((createAllocation (proxyService portRange applyTimeoutMs) out protocol
        targetPort).exec w).2.runtime = w.runtime) ∧
    forall allocation, ((createAllocation (proxyService portRange applyTimeoutMs) out protocol
        targetPort).exec w).1 = .ok allocation ->
      OnlyAdds allocation w ((createAllocation (proxyService portRange applyTimeoutMs) out
        protocol targetPort).exec w).2 := by
  have hensures : Ensures (createAllocation (proxyService portRange applyTimeoutMs) out
      protocol targetPort) (AllOrNothing w) w := by
    unfold createAllocation
    simp only [ensures_bind, ensures_readFailpoints, continues_ok]
    split
    · exact allOrNothing_error _ rfl rfl
    · exact createLoop_allOrNothing hrolls _ _ _ w hunused
  rw [ensures_exec] at hensures
  constructor
  · exact hensures.failed
  · intro allocation hcreated
    obtain ⟨_, hruntime, hpersist⟩ := hensures.created allocation hcreated
    exact onlyAdds_of_created hruntime hpersist

/-- Both listeners are opened and the write that follows is refused. -/
def refusedWrite : Outside Binds :=
  { bindingOutside true with
    repository := fun call => if call = 4 then some ⟨.sqlx, false⟩ else none }

def emptyProxy : World RealRuntime :=
  World.opened Database.empty (RealRuntime.new "127.0.0.1")

def refusedCreate : Except ServiceError Allocation × World RealRuntime :=
  (createAllocation (proxyService loopbackRange 1000) refusedWrite .both (some 80)).exec
    emptyProxy

theorem refused_create_leaves_no_trace :
    refusedCreate.1 = .error (.repository .sqlx) ∧ refusedCreate.2.db = emptyProxy.db ∧
      refusedCreate.2.runtime = emptyProxy.runtime := by
  have hrolls : RollsBack refusedWrite := by
    intro call fault hfault
    have hfault : (if call = 4 then some (⟨.sqlx, false⟩ : RepositoryFault) else none) =
        some fault := hfault
    split at hfault
    · cases hfault
      rfl
    · cases hfault
  have hunused : Unused refusedWrite emptyProxy :=
    ⟨fun _ _ => ⟨rfl, rfl, rfl⟩, fun _ _ => ⟨rfl, rfl⟩⟩
  have herror : refusedCreate.1 = .error (.repository .sqlx) := by rfl
  refine ⟨herror, ?_⟩
  exact (failed_create_leaves_no_trace loopbackRange 1000 refusedWrite hrolls emptyProxy
    hunused .both (some 80)).1 _ herror

end Service
end Relayd
