import Relayd.Runtime.Netlink
import Relayd.Service.Agreement

/-!
# The store and the netlink runtime

The desired allocations of `NetlinkRuntime` follow the store even through calls
the kernel refuses: a create or delete is committed only when it was applied, and
the service persists it afterwards or not at all, while an update is committed
always, and the service has persisted it before.  The port reservation of the
store then keeps the rules handed to the kernel free of conflicts.
-/

namespace Relayd
namespace Service

open Foundation Fallible Relayd.Runtime Storage

/-- The desired state holds for an id what is stored for it. -/
def DesiredAs (id : String) (found : Option Allocation) (s : NetlinkRuntime) : Prop :=
  s.state.allocations.lookup id = found

theorem moves_insert {allocation : Allocation} {s s' : NetlinkRuntime}
    (h : SameLookups s'.state.allocations
      (s.state.allocations.insert allocation.id allocation)) :
    Moves DesiredAs allocation.id (some allocation) s s' where
  self := by
    unfold DesiredAs
    rw [h, lookup_insert_eq, if_pos rfl]
  frame := by
    intro other found hother hdesired
    unfold DesiredAs
    rw [h, lookup_insert_eq, if_neg hother]
    exact hdesired

theorem moves_erase {id : String} {s s' : NetlinkRuntime}
    (h : SameLookups s'.state.allocations (s.state.allocations.erase id)) :
    Moves DesiredAs id none s s' where
  self := by
    unfold DesiredAs
    rw [h, lookup_erase_eq, if_pos rfl]
  frame := by
    intro other found hother hdesired
    unfold DesiredAs
    rw [h, lookup_erase_eq, if_neg hother]
    exact hdesired

theorem moves_kept {id : String} {found : Option Allocation} {s s' : NetlinkRuntime}
    (h : SameLookups s'.state.allocations s.state.allocations)
    (hdesired : DesiredAs id found s) : Moves DesiredAs id found s s' where
  self := (h id).trans hdesired
  frame := fun other _ _ hother => (h other).trans hother

theorem netlinkRuntime_follows : Follows NetlinkRuntime.facade DesiredAs where
  initialized := by
    intro reply timeoutMs id found s hdesired
    have hreplaces := NetlinkRuntime.initializeChain_replaces reply s
    exact (hreplaces.sameLookups rfl id).trans hdesired
  create_ok := by
    intro reply allocation timeoutMs s s' hcreate _
    have hreplaces := NetlinkRuntime.create_replaces reply allocation s
    rw [show NetlinkRuntime.create reply allocation s = _ from hcreate] at hreplaces
    exact moves_insert (hreplaces.target_of_ok rfl)
  create_error := by
    intro reply allocation timeoutMs s error s' hcreate hdesired
    have hreplaces := NetlinkRuntime.create_replaces reply allocation s
    rw [show NetlinkRuntime.create reply allocation s = _ from hcreate] at hreplaces
    exact moves_kept (hreplaces.kept_of_error rfl) hdesired
  update := by
    intro reply old allocation timeoutMs s updated s' hupdate _ _ _
    have hreplaces := NetlinkRuntime.update_replaces reply allocation s
    rw [show NetlinkRuntime.update reply allocation s = _ from hupdate] at hreplaces
    exact moves_insert (hreplaces.sameLookups rfl)
  delete_ok := by
    intro reply id timeoutMs s s' hdelete
    have hreplaces := NetlinkRuntime.delete_replaces reply id s
    rw [show NetlinkRuntime.delete reply id s = _ from hdelete] at hreplaces
    exact moves_erase (hreplaces.target_of_ok rfl)
  delete_error := by
    intro reply id timeoutMs found s error s' hdelete hdesired
    have hreplaces := NetlinkRuntime.delete_replaces reply id s
    rw [show NetlinkRuntime.delete reply id s = _ from hdelete] at hreplaces
    exact moves_kept (hreplaces.kept_of_error rfl) hdesired
  restore_ok := by
    intro reply allocation timeoutMs s s' hrestore _
    have hreplaces := NetlinkRuntime.restore_replaces reply allocation s
    rw [show NetlinkRuntime.restore reply allocation s = _ from hrestore] at hreplaces
    exact moves_insert (hreplaces.target_of_ok rfl)

/-!
# Conflicts

Each desired allocation is backed by a row with its protocol and port, so the
reservation of the store carries over to the rules.
-/

def Backed (rows : List AllocationRow) (allocations : Allocations) : Prop :=
  forall id allocation, allocations.lookup id = some allocation ->
    exists row, row ∈ rows ∧ row.id = id ∧
      Protocol.fromStr row.protocol = .ok allocation.protocol ∧
      i32FromU16 allocation.port = row.port

/-- The ruleset last accepted, if any, has no two rules for one protocol and
port. -/
def NoConflict (s : NetlinkRuntime) : Prop :=
  forall rules, s.kernel.accepted = some rules -> UniqueRules rules

theorem concreteProtocols_eq {row : AllocationRow} {protocol : Protocol}
    (h : Protocol.fromStr row.protocol = .ok protocol) :
    concreteProtocols row = protocolsFor protocol := by
  unfold concreteProtocols
  rw [h]

theorem Backed.exclusivePorts {rows : List AllocationRow} {allocations : Allocations}
    (h : Backed rows allocations) (hexclusive : Exclusive rows) :
    ExclusivePorts allocations := by
  intro id other allocation allocation' hid hother hne hport protocol hprotocol
  rcases h id allocation hid with ⟨row, hrow, hself, hproto, hrowPort⟩
  rcases h other allocation' hother with ⟨row', hrow', hself', hproto', hrowPort'⟩
  have hids : row.id ≠ row'.id := by
    rw [hself, hself']
    exact hne
  have hports : row.port = row'.port := by rw [← hrowPort, ← hrowPort', hport]
  rw [← concreteProtocols_eq hproto] at hprotocol
  rw [← concreteProtocols_eq hproto']
  exact hexclusive.disjoint row row' hrow hrow' hids hports protocol hprotocol

theorem backed_of_getAllocation {db : Database} {allocation : Allocation} {id : String}
    (h : getAllocation id db = .ok (some allocation)) :
    exists row, row ∈ db.allocations ∧ row.id = id ∧
      Protocol.fromStr row.protocol = .ok allocation.protocol ∧
      i32FromU16 allocation.port = row.port := by
  rcases getAllocation_eq_some.mp h with ⟨row, hrow, hhydrates⟩
  have hstored := findAllocation_some hrow
  exact ⟨row, hstored.left, hstored.right, hhydrates.protocol, hhydrates.port⟩

theorem backed_of_agrees {w : World NetlinkRuntime} (h : Agrees DesiredAs w) :
    Backed w.db.allocations w.runtime.state.allocations := by
  intro id allocation hlookup
  rcases h id with ⟨found, hget, hdesired⟩
  have hfound : found = some allocation := hdesired.symm.trans hlookup
  rw [hfound] at hget
  exact backed_of_getAllocation hget

theorem NoConflict.replaces {reply : NftReply} {target kept : Allocations}
    {s s' : NetlinkRuntime} {result : Except RuntimeError Unit} (h : NoConflict s)
    (hreplaces : NetlinkRuntime.Replaces reply target kept s.kernel result s')
    (hexclusive : ExclusivePorts target) (hkeyed : Keyed Allocation.id target) :
    NoConflict s' := by
  intro rules hrules
  rcases hreplaces.accepted_cases with hold | hnew
  · rw [hold] at hrules
    exact h rules hrules
  · rw [hnew] at hrules
    cases hrules
    exact hexclusive.uniqueRules hkeyed

/-- A candidate port is free of the protocols stored on it. -/
theorem exclusivePorts_insert_candidate {svc : Service NetlinkRuntime NftReply}
    {w : World NetlinkRuntime} {allocation : Allocation}
    (hbacked : Backed w.db.allocations w.runtime.state.allocations)
    (hexclusive : Exclusive w.db.allocations)
    (hcandidate : Candidate svc w allocation) :
    ExclusivePorts (w.runtime.state.allocations.insert allocation.id allocation) := by
  apply (hbacked.exclusivePorts hexclusive).insert
  intro id other hlookup _ hport
  rcases hbacked id other hlookup with ⟨row, hrow, _, hproto, hrowPort⟩
  rcases hexclusive.written row hrow with ⟨stored, hstored⟩
  rw [← concreteProtocols_eq hproto]
  apply disjoint_of_not_occupies hstored
  cases hoccupies : occupies allocation.protocol row with
  | false => rfl
  | true =>
      have hsame : row.port = i32FromU16 allocation.port := by
        rw [← hrowPort, hport]
      exact absurd hsame (hcandidate.free row hrow hoccupies)

/-- Retargeting an allocation keeps its protocol and port. -/
theorem exclusivePorts_insert_same {allocations : Allocations} {old allocation : Allocation}
    (h : ExclusivePorts allocations)
    (hlookup : allocations.lookup allocation.id = some old)
    (hprotocol : old.protocol = allocation.protocol) (hport : old.port = allocation.port) :
    ExclusivePorts (allocations.insert allocation.id allocation) := by
  apply h.insert
  intro id other hother hne hports
  rw [← hprotocol]
  exact h id allocation.id other old hother hlookup hne (hports.trans hport.symm)

/-!
# Runs over the netlink runtime
-/

section Runs

variable {svc : Service NetlinkRuntime NftReply} {out : Outside NftReply}

structure Conflictless (out : Outside NftReply) (w : World NetlinkRuntime) : Prop where
  inStep : InStep DesiredAs out w
  exclusive : Exclusive w.db.allocations
  noConflict : NoConflict w.runtime

theorem effect_noConflict (hruntime : svc.runtime = NetlinkRuntime.facade)
    (hrepository : forall call, out.repository call = none)
    {w w' : World NetlinkRuntime} (h : Conflictless out w)
    (heffect : Effect svc out w w') : NoConflict w'.runtime := by
  have hreliable := not_repositoryFails hrepository
  have hbacked := backed_of_agrees h.inStep.agrees
  have hexclusive := hbacked.exclusivePorts h.exclusive
  have hkeyed := w.runtime.state.keyed
  have hupdated : forall {reply updated runtime old allocation},
      svc.runtime.update reply allocation svc.applyTimeoutMs w.runtime =
        (updated, runtime) ->
      DesiredAs allocation.id (some old) w.runtime ->
      old.protocol = allocation.protocol -> old.port = allocation.port ->
      NoConflict runtime := by
    intro reply updated runtime old allocation hupdate hold hprotocol hport
    rw [hruntime] at hupdate
    have hreplaces := NetlinkRuntime.update_replaces reply allocation w.runtime
    rw [show NetlinkRuntime.update reply allocation w.runtime = _ from hupdate]
      at hreplaces
    exact h.noConflict.replaces hreplaces
      (exclusivePorts_insert_same hexclusive hold hprotocol hport)
      (hkeyed.insert allocation)
  have hcreated : forall {reply created runtime allocation},
      svc.runtime.create reply allocation svc.applyTimeoutMs w.runtime =
        (created, runtime) ->
      Candidate svc w allocation -> NoConflict runtime := by
    intro reply created runtime allocation hcreate hcandidate
    rw [hruntime] at hcreate
    have hreplaces := NetlinkRuntime.create_replaces reply allocation w.runtime
    rw [show NetlinkRuntime.create reply allocation w.runtime = _ from hcreate]
      at hreplaces
    exact h.noConflict.replaces hreplaces
      (exclusivePorts_insert_candidate hbacked h.exclusive hcandidate)
      (hkeyed.insert allocation)
  have hdeleted : forall {reply deleted runtime id},
      svc.runtime.delete reply id svc.applyTimeoutMs w.runtime = (deleted, runtime) ->
      NoConflict runtime := by
    intro reply deleted runtime id hdelete
    rw [hruntime] at hdelete
    have hreplaces := NetlinkRuntime.delete_replaces reply id w.runtime
    rw [show NetlinkRuntime.delete reply id w.runtime = _ from hdelete] at hreplaces
    exact h.noConflict.replaces hreplaces (hexclusive.erase id) (hkeyed.erase id)
  cases heffect with
  | quiet => exact h.noConflict
  | createRefused hcandidate _ hcreate => exact hcreated hcreate hcandidate
  | created hcandidate _ hcreate => exact hcreated hcreate hcandidate
  | createUndone hcandidate hid _ hpersist =>
      rcases hpersist with ⟨⟨error, herror⟩, _⟩ | ⟨hfails, _⟩
      · rcases h.inStep.fresh.generated hid with ⟨_, hrow, hbinding⟩
        rcases persistCreated_of_fresh hcandidate hrow hbinding with ⟨db, hok⟩
        rw [herror] at hok
        cases hok
      · exact absurd hfails hreliable
  | bindingApplied _ hget hupdate =>
      have hfound := getAllocation_of_getAllocationWithBinding hget
      have hdesired := h.inStep.agrees.holds_of_get hfound
      rw [← getAllocation_id hfound] at hdesired
      exact hupdated hupdate hdesired rfl rfl
  | unbindingApplied _ hget hupdate =>
      have hfound := getAllocation_of_getAllocationWithBinding hget
      have hdesired := h.inStep.agrees.holds_of_get hfound
      rw [← getAllocation_id hfound] at hdesired
      exact hupdated hupdate hdesired rfl rfl
  | bindingUnapplied | unbindingUnapplied => exact h.noConflict
  | deleteRefused _ _ hdelete => exact hdeleted hdelete
  | deleteRestored _ _ hfailpoint =>
      rw [h.inStep.failpoints] at hfailpoint
      cases hfailpoint
  | deleted _ _ hdelete => exact hdeleted hdelete
  | deleteUnpersisted _ _ hdelete => exact hdeleted hdelete

theorem effect_conflictless (hruntime : svc.runtime = NetlinkRuntime.facade)
    (hrepository : forall call, out.repository call = none)
    (hids : Function.Injective out.newId) (w w' : World NetlinkRuntime)
    (h : Conflictless out w) (heffect : Effect svc out w w') :
    Conflictless out w' where
  inStep := by
    have hfollows : Follows svc.runtime DesiredAs := by
      rw [hruntime]
      exact netlinkRuntime_follows
    exact effect_inStep hfollows hrepository hids w w' h.inStep heffect
  exclusive := effect_exclusive w w' h.exclusive heffect
  noConflict := effect_noConflict hruntime hrepository h heffect

/-- During a restore the desired state is backed by the store. -/
theorem restoreAll_noConflict (hruntime : svc.runtime = NetlinkRuntime.facade)
    {timeoutMs : UInt32} {w : World NetlinkRuntime}
    (hexclusive : Exclusive w.db.allocations)
    (hbacked : Backed w.db.allocations w.runtime.state.allocations)
    (hnoConflict : NoConflict w.runtime) :
    Ensures (restoreAll svc out timeoutMs)
      (fun _ w' => w'.db = w.db ∧ NoConflict w'.runtime) w := by
  have hinvariant : Ensures (restoreAll svc out timeoutMs)
      (fun _ w' => w'.db = w.db ∧
        Backed w.db.allocations w'.runtime.state.allocations ∧
        NoConflict w'.runtime) w := by
    apply restoreAll_invariant ⟨rfl, hbacked, hnoConflict⟩
    · intro w' h
      exact h
    · intro w' h
      rcases h with ⟨hdb, hbacked', hnoConflict'⟩
      rw [hruntime]
      have hreplaces := NetlinkRuntime.initializeChain_replaces (out.runtime w'.calls)
        w'.runtime
      have hsame := hreplaces.sameLookups rfl
      refine ⟨hdb, ?_, hnoConflict'.replaces hreplaces
        (hbacked'.exclusivePorts hexclusive) w'.runtime.state.keyed⟩
      intro id allocation hlookup
      exact hbacked' id allocation ((hsame id).symm.trans hlookup)
    · intro allocation w' hget h
      rcases h with ⟨hdb, hbacked', hnoConflict'⟩
      rw [hruntime]
      have hreplaces := NetlinkRuntime.restore_replaces (out.runtime w'.calls) allocation
        w'.runtime
      have hsame := hreplaces.sameLookups rfl
      have hinserted : Backed w.db.allocations
          (w'.runtime.state.allocations.insert allocation.id allocation) := by
        intro id other hlookup
        rw [lookup_insert_eq] at hlookup
        split at hlookup
        · rename_i hid
          cases hlookup
          rw [hid]
          exact backed_of_getAllocation hget
        · exact hbacked' id other hlookup
      refine ⟨hdb, ?_, hnoConflict'.replaces hreplaces
        (hinserted.exclusivePorts hexclusive) (w'.runtime.state.keyed.insert allocation)⟩
      intro id other hlookup
      exact hinserted id other ((hsame id).symm.trans hlookup)
  refine ensures_mono ?_ hinvariant
  intro _ w' h
  exact ⟨h.left, h.right.right⟩

end Runs

def netlinkService (portRange : PortRange) (applyTimeoutMs : UInt32) :
    Service NetlinkRuntime NftReply where
  runtime := NetlinkRuntime.facade
  portRange := portRange
  applyTimeoutMs := applyTimeoutMs

theorem handleAll_exclusive {rt answer : Type} (svc : Service rt answer)
    (out : Outside answer) (events : List (Event rt)) {w : World rt}
    (h : Exclusive w.db.allocations) :
    Exclusive (handleAll svc out events w).db.allocations := by
  have hreopen : forall (runtime : rt) (w : World rt), Exclusive w.db.allocations ->
      Exclusive (w.reopen runtime).db.allocations := by
    intro _ _ hexclusive
    exact hexclusive
  exact handleAll_invariant effect_exclusive hreopen events h

/-- Store and desired state agree after every run that begins with a completed
restore of tables written by a service, whichever rulesets the kernel refuses
later; and no accepted ruleset has two rules for one protocol and port. -/
theorem store_agrees_with_netlink {rt answer : Type} (builder : Service rt answer)
    (built : Outside answer) (runtime : rt) (failpoints : Failpoints)
    (events : List (Event rt)) (portRange : PortRange)
    (applyTimeoutMs timeoutMs : UInt32) (chain : List NftDnatRule)
    (out : Outside NftReply) (hrepository : forall call, out.repository call = none)
    (hids : Function.Injective out.newId)
    (hfresh : FreshIds out 0
      (handleAll builder built events (World.start runtime failpoints)).db)
    (hrestored : ((restoreAll (netlinkService portRange applyTimeoutMs) out
      timeoutMs).exec (World.opened
        (handleAll builder built events (World.start runtime failpoints)).db
        (NetlinkRuntime.new ⟨chain, none⟩))).1 = .ok ())
    (mutations : List Mutation) :
    let w := performAll (netlinkService portRange applyTimeoutMs) out mutations
      ((restoreAll (netlinkService portRange applyTimeoutMs) out timeoutMs).exec
        (World.opened
          (handleAll builder built events (World.start runtime failpoints)).db
          (NetlinkRuntime.new ⟨chain, none⟩))).2
    (exists allocations, Storage.listAllocations w.db = .ok allocations ∧
      forall id, w.runtime.state.allocations.lookup id =
        allocations.find? (fun allocation => allocation.id = id)) ∧
    forall rules, w.runtime.kernel.accepted = some rules -> UniqueRules rules := by
  intro w
  have hexclusive : Exclusive
      (handleAll builder built events (World.start runtime failpoints)).db.allocations :=
    handleAll_exclusive builder built events exclusive_nil
  have hbacked : Backed
      (handleAll builder built events (World.start runtime failpoints)).db.allocations
      (NetlinkRuntime.new ⟨chain, none⟩).state.allocations := by
    intro id allocation hlookup
    cases hlookup
  have hnoConflict : NoConflict (NetlinkRuntime.new ⟨chain, none⟩) := by
    intro rules hrules
    cases hrules
  have hfollows : Follows (netlinkService portRange applyTimeoutMs).runtime DesiredAs :=
    netlinkRuntime_follows
  have hstart : Conflictless out
      ((restoreAll (netlinkService portRange applyTimeoutMs) out timeoutMs).exec
        (World.opened
          (handleAll builder built events (World.start runtime failpoints)).db
          (NetlinkRuntime.new ⟨chain, none⟩))).2 := by
    have hinStep := restoreAll_inStep hfollows timeoutMs
      (World.opened
        (handleAll builder built events (World.start runtime failpoints)).db
        (NetlinkRuntime.new ⟨chain, none⟩))
      (fun _ => rfl) hfresh rfl hrestored
    have hrest : Ensures
        (restoreAll (netlinkService portRange applyTimeoutMs) out timeoutMs) _
        (World.opened
          (handleAll builder built events (World.start runtime failpoints)).db
          (NetlinkRuntime.new ⟨chain, none⟩)) :=
      restoreAll_noConflict rfl hexclusive hbacked hnoConflict
    refine ⟨hinStep, ?_, hrest.right⟩
    rw [hrest.left]
    exact hexclusive
  have hfinal : Conflictless out w :=
    performAll_invariant (effect_conflictless rfl hrepository hids) mutations hstart
  refine ⟨?_, hfinal.noConflict⟩
  have hreads : forall id, exists found, getAllocation id w.db = .ok found := by
    intro id
    rcases hfinal.inStep.agrees id with ⟨found, hget, _⟩
    exact ⟨found, hget⟩
  rcases listAllocations_of_getAllocation hreads with ⟨allocations, hlist⟩
  refine ⟨allocations, hlist, ?_⟩
  intro id
  exact hfinal.inStep.agrees.holds_of_get (getAllocation_eq_find? hlist id)

/-- The kernel accepts every ruleset up to a call and refuses those after it. -/
def refusingAfter (last : Nat) : Outside NftReply where
  clock := fun call => call
  newId := countedId
  repository := fun _ => none
  runtime := fun call =>
    if call ≤ last then .accepted else .refused (.apply "netlink busy") false

theorem store_agrees_with_netlink_after_refusal :
    let w := performAll (netlinkService ⟨1000, 1001⟩ 1000) (refusingAfter 8)
      [.createAllocation .both (some 80), .createAllocation .tcp none]
      ((restoreAll (netlinkService ⟨1000, 1001⟩ 1000) (refusingAfter 8) 1000).exec
        (World.opened
          (handleAll (netlinkService ⟨1000, 1001⟩ 1000) (refusingAfter 8) []
            (World.start (NetlinkRuntime.new ⟨[], none⟩) Failpoints.default)).db
          (NetlinkRuntime.new ⟨[], none⟩))).2
    (exists allocations, Storage.listAllocations w.db = .ok allocations ∧
      forall id, w.runtime.state.allocations.lookup id =
        allocations.find? (fun allocation => allocation.id = id)) ∧
    forall rules, w.runtime.kernel.accepted = some rules -> UniqueRules rules :=
  store_agrees_with_netlink (netlinkService ⟨1000, 1001⟩ 1000) (refusingAfter 8)
    (NetlinkRuntime.new ⟨[], none⟩) Failpoints.default [] ⟨1000, 1001⟩ 1000 1000 []
    (refusingAfter 8) (fun _ => rfl) countedId_injective (fun _ _ => ⟨rfl, rfl⟩)
    (by rfl) [.createAllocation .both (some 80), .createAllocation .tcp none]

end Service
end Relayd
