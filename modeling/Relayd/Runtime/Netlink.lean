import Mathlib.Data.String.Basic
import Relayd.Foundation.KeyedMap
import Relayd.Runtime.Facade

/-!
# The netlink runtime

`NetlinkRuntime` keeps the desired allocations in memory and hands the kernel a
whole ruleset on every change.  The kernel is modelled by the chain it runs and
by the ruleset last accepted; a refused ruleset may or may not have replaced the
chain.
-/

namespace Relayd
namespace Runtime

open Foundation

structure NftDnatRule where
  allocationId : String
  protocol : Protocol
  inPort : UInt16
  outHost : IpAddr
  outPort : UInt16
deriving DecidableEq, Repr

inductive NftBackendError where
  | apply (message : String)
deriving DecidableEq, Repr

def NftBackendError.toString : NftBackendError -> String
  | .apply message => message

structure Kernel where
  chain : List NftDnatRule
  accepted : Option (List NftDnatRule)
deriving DecidableEq, Repr

inductive NftReply where
  | accepted
  | refused (error : NftBackendError) (tookEffect : Bool)
deriving DecidableEq, Repr

def replaceRuleset (rules : List NftDnatRule) :
    NftReply -> Kernel -> Except NftBackendError Unit × Kernel
  | .accepted, _ => (.ok (), { chain := rules, accepted := some rules })
  | .refused error tookEffect, kernel =>
      (.error error, if tookEffect then { kernel with chain := rules } else kernel)

/-!
# The rules of a set of allocations
-/

abbrev Allocations := KeyMap String Allocation

def boundTarget (allocation : Allocation) : Option (IpAddr × UInt16) := do
  let host <- allocation.host
  let addr <- IpAddr.fromStr host
  let targetPort <- allocation.targetPort
  some (addr, targetPort)

def rulesForAllocation (allocation : Allocation) : List NftDnatRule :=
  match boundTarget allocation with
  | none => []
  | some (outHost, outPort) =>
      (protocolsFor allocation.protocol).map (fun protocol =>
        { allocationId := allocation.id
          protocol := protocol
          inPort := allocation.port
          outHost := outHost
          outPort := outPort })

def rulesForAllocations (allocations : Allocations) : List NftDnatRule :=
  (sortByKey Allocation.id ((values allocations).filter (fun allocation =>
    allocation.host.isSome && allocation.targetPort.isSome))).flatMap rulesForAllocation

structure NetlinkState where
  allocations : Allocations
  staleError : Option String
  initialized : Bool
  keyed : Keyed Allocation.id allocations

namespace NetlinkState

def default : NetlinkState where
  allocations := ∅
  staleError := none
  initialized := false
  keyed := keyed_empty Allocation.id

def insert (allocation : Allocation) (state : NetlinkState) : NetlinkState :=
  { state with
    allocations := state.allocations.insert allocation.id allocation
    keyed := state.keyed.insert allocation }

def remove (id : String) (state : NetlinkState) : NetlinkState :=
  { state with
    allocations := state.allocations.erase id
    keyed := state.keyed.erase id }

/-- The rules with the allocation in place; the map is put back as it was. -/
def projectUpsert (allocation : Allocation) (state : NetlinkState) :
    List NftDnatRule × NetlinkState :=
  let previous := state.allocations.lookup allocation.id
  let inserted := state.insert allocation
  let rules := rulesForAllocations inserted.allocations
  match previous with
  | some previous => (rules, inserted.insert previous)
  | none => (rules, inserted.remove allocation.id)

def projectDelete (id : String) (state : NetlinkState) :
    List NftDnatRule × NetlinkState :=
  let removed := state.allocations.lookup id
  let erased := state.remove id
  let rules := rulesForAllocations erased.allocations
  match removed with
  | some allocation => (rules, erased.insert allocation)
  | none => (rules, erased)

def markFresh (state : NetlinkState) : NetlinkState :=
  { state with staleError := none, initialized := true }

def markStale (error : NftBackendError) (state : NetlinkState) :
    RuntimeError × NetlinkState :=
  (.runtimeApplyFailed, { state with staleError := some error.toString })

end NetlinkState

/-!
# The facade operations
-/

structure NetlinkRuntime where
  state : NetlinkState
  kernel : Kernel

namespace NetlinkRuntime

def new (kernel : Kernel) : NetlinkRuntime := ⟨NetlinkState.default, kernel⟩

/-- Hand over the rules; `accepted` and `refused` say what the state becomes
before it is marked. -/
def applyRules (reply : NftReply) (rules : List NftDnatRule)
    (accepted refused : NetlinkState) (kernel : Kernel) :
    Except RuntimeError Unit × NetlinkRuntime :=
  let applied := replaceRuleset rules reply kernel
  match applied.1 with
  | .ok () => (.ok (), ⟨accepted.markFresh, applied.2⟩)
  | .error error =>
      let marked := refused.markStale error
      (.error marked.1, ⟨marked.2, applied.2⟩)

def initializeChain (reply : NftReply) (s : NetlinkRuntime) :
    Except RuntimeError Unit × NetlinkRuntime :=
  applyRules reply (rulesForAllocations s.state.allocations) s.state s.state s.kernel

/-- A create commits only when the kernel accepted the rules. -/
def create (reply : NftReply) (allocation : Allocation) (s : NetlinkRuntime) :
    Except RuntimeError Unit × NetlinkRuntime :=
  let projected := s.state.projectUpsert allocation
  applyRules reply projected.1 (projected.2.insert allocation) projected.2 s.kernel

/-- An update commits whatever the kernel said. -/
def update (reply : NftReply) (allocation : Allocation) (s : NetlinkRuntime) :
    Except RuntimeError Unit × NetlinkRuntime :=
  let projected := s.state.projectUpsert allocation
  applyRules reply projected.1 (projected.2.insert allocation)
    (projected.2.insert allocation) s.kernel

def delete (reply : NftReply) (id : String) (s : NetlinkRuntime) :
    Except RuntimeError Unit × NetlinkRuntime :=
  let projected := s.state.projectDelete id
  applyRules reply projected.1 (projected.2.remove id) projected.2 s.kernel

def restore (reply : NftReply) (allocation : Allocation) (s : NetlinkRuntime) :
    Except RuntimeError Unit × NetlinkRuntime :=
  let projected := s.state.projectUpsert allocation
  applyRules reply projected.1 (projected.2.insert allocation)
    (projected.2.insert allocation) s.kernel

def observedStateFor (allocation : Allocation) : ObservedState :=
  match boundTarget allocation with
  | some (host, port) =>
      { effectiveTargetPort := some port
        effectiveHost := some host.toString
        runtimeStatus := .active
        errorKind := none
        lastError := none }
  | none =>
      { effectiveTargetPort := allocation.targetPort
        effectiveHost := allocation.host
        runtimeStatus := .rejectingNoHost
        errorKind := none
        lastError := none }

def snapshot (id : String) (s : NetlinkRuntime) :
    Except RuntimeError (Option ObservedState) :=
  .ok ((s.state.allocations.lookup id).map (fun allocation =>
    if (boundTarget allocation).isNone then observedStateFor allocation
    else
      match s.state.staleError with
      | some error =>
          { effectiveTargetPort := allocation.targetPort
            effectiveHost := allocation.host
            runtimeStatus := .degradedApplyFailed
            errorKind := some .applyFailed
            lastError := some error }
      | none => observedStateFor allocation))

def facade : RuntimeFacade NetlinkRuntime NftReply where
  initializeRuntime := fun reply _ => initializeChain reply
  create := fun reply allocation _ => create reply allocation
  update := fun reply allocation _ => update reply allocation
  delete := fun reply id _ => delete reply id
  restore := fun reply allocation _ => restore reply allocation
  snapshot := snapshot

end NetlinkRuntime

/-!
# Rules do not depend on the order of the map
-/

theorem rulesForAllocations_congr {allocations allocations' : Allocations}
    (hkeyed : Keyed Allocation.id allocations)
    (h : SameLookups allocations allocations') :
    rulesForAllocations allocations = rulesForAllocations allocations' := by
  unfold rulesForAllocations
  rw [sortByKey_filter_eq hkeyed h]

theorem boundTarget_eq_some {allocation : Allocation} {target : IpAddr × UInt16}
    (h : boundTarget allocation = some target) :
    allocation.host.isSome = true ∧ allocation.targetPort.isSome = true := by
  unfold boundTarget at h
  cases hhost : allocation.host with
  | none =>
      rw [hhost] at h
      cases h
  | some host =>
      cases hport : allocation.targetPort with
      | none =>
          rw [hhost, hport] at h
          simp at h
      | some targetPort => exact ⟨rfl, rfl⟩

/-- A bound allocation has a rule for each of its transport protocols. -/
theorem mem_rulesForAllocations {allocations : Allocations} {id : String}
    {allocation : Allocation} {outHost : IpAddr} {outPort : UInt16}
    {protocol : Protocol} (hlookup : allocations.lookup id = some allocation)
    (hbound : boundTarget allocation = some (outHost, outPort))
    (hprotocol : protocol ∈ protocolsFor allocation.protocol) :
    { allocationId := allocation.id
      protocol := protocol
      inPort := allocation.port
      outHost := outHost
      outPort := outPort } ∈ rulesForAllocations allocations := by
  unfold rulesForAllocations
  rw [List.mem_flatMap]
  refine ⟨allocation, ?_, ?_⟩
  · rw [mem_sortByKey, List.mem_filter]
    refine ⟨mem_values.mpr ⟨id, hlookup⟩, ?_⟩
    rcases boundTarget_eq_some hbound with ⟨hhost, hport⟩
    rw [hhost, hport]
    rfl
  · unfold rulesForAllocation
    rw [hbound]
    exact List.mem_map.mpr ⟨protocol, hprotocol, rfl⟩

/-!
# Conflicts between rules
-/

/-- At most one rule for each transport protocol and listening port. -/
def UniqueRules (rules : List NftDnatRule) : Prop :=
  (rules.map (fun rule => (rule.protocol, rule.inPort))).Nodup

/-- No two allocations claim one port for one transport protocol. -/
def ExclusivePorts (allocations : Allocations) : Prop :=
  forall id other allocation allocation',
    allocations.lookup id = some allocation ->
    allocations.lookup other = some allocation' -> id ≠ other ->
    allocation.port = allocation'.port ->
    forall protocol, protocol ∈ protocolsFor allocation.protocol ->
      protocol ∉ protocolsFor allocation'.protocol

theorem nodup_protocolsFor (protocol : Protocol) : (protocolsFor protocol).Nodup := by
  cases protocol <;> decide

theorem uniqueRules_rulesForAllocation (allocation : Allocation) :
    UniqueRules (rulesForAllocation allocation) := by
  unfold UniqueRules rulesForAllocation
  cases boundTarget allocation with
  | none => exact List.nodup_nil
  | some target =>
      rw [List.map_map]
      apply (nodup_protocolsFor allocation.protocol).map
      intro left right h
      exact congrArg Prod.fst h

theorem mem_rulesForAllocation {allocation : Allocation} {rule : NftDnatRule}
    (h : rule ∈ rulesForAllocation allocation) :
    rule.protocol ∈ protocolsFor allocation.protocol ∧
      rule.inPort = allocation.port := by
  unfold rulesForAllocation at h
  cases hbound : boundTarget allocation with
  | none =>
      rw [hbound] at h
      cases h
  | some target =>
      rw [hbound] at h
      rcases List.mem_map.mp h with ⟨protocol, hprotocol, rfl⟩
      exact ⟨hprotocol, rfl⟩

theorem ExclusivePorts.uniqueRules {allocations : Allocations}
    (h : ExclusivePorts allocations) (hkeyed : Keyed Allocation.id allocations) :
    UniqueRules (rulesForAllocations allocations) := by
  unfold UniqueRules rulesForAllocations
  rw [List.map_flatMap, List.nodup_flatMap]
  constructor
  · intro allocation _
    exact uniqueRules_rulesForAllocation allocation
  · apply (nodup_sortByKey (hkeyed.nodup_values.filter _)).pairwise_of_forall_ne
    intro left hleft right hright hne
    have hleft' := (List.mem_filter.mp (mem_sortByKey.mp hleft)).left
    have hright' := (List.mem_filter.mp (mem_sortByKey.mp hright)).left
    rcases mem_values.mp hleft' with ⟨id, hid⟩
    rcases mem_values.mp hright' with ⟨other, hother⟩
    have hids : id ≠ other := by
      intro hsame
      rw [hsame, hother] at hid
      exact hne (Option.some.inj hid).symm
    intro key hkey hkey'
    rcases List.mem_map.mp hkey with ⟨rule, hrule, rfl⟩
    rcases List.mem_map.mp hkey' with ⟨rule', hrule', hsame⟩
    rcases mem_rulesForAllocation hrule with ⟨hprotocol, hport⟩
    rcases mem_rulesForAllocation hrule' with ⟨hprotocol', hport'⟩
    have hports : left.port = right.port := by
      rw [← hport, ← hport']
      exact (congrArg Prod.snd hsame).symm
    have hprotocols : rule'.protocol = rule.protocol := congrArg Prod.fst hsame
    rw [hprotocols] at hprotocol'
    exact h id other left right hid hother hids hports rule.protocol hprotocol hprotocol'

theorem ExclusivePorts.erase {allocations : Allocations} (h : ExclusivePorts allocations)
    (gone : String) : ExclusivePorts (allocations.erase gone) := by
  have hkept : forall {id allocation},
      (allocations.erase gone).lookup id = some allocation ->
      allocations.lookup id = some allocation := by
    intro id allocation hlookup
    rw [lookup_erase_eq] at hlookup
    split at hlookup
    · cases hlookup
    · exact hlookup
  intro id other allocation allocation' hid hother
  exact h id other allocation allocation' (hkept hid) (hkept hother)

/-- An allocation may join a map when it shares no protocol and port with the
allocations under other ids. -/
theorem ExclusivePorts.insert {allocations : Allocations} (h : ExclusivePorts allocations)
    {joining : Allocation}
    (hjoining : forall id allocation, allocations.lookup id = some allocation ->
      id ≠ joining.id -> allocation.port = joining.port ->
      forall protocol, protocol ∈ protocolsFor allocation.protocol ->
        protocol ∉ protocolsFor joining.protocol) :
    ExclusivePorts (allocations.insert joining.id joining) := by
  intro id other allocation allocation' hid hother hne hport protocol hprotocol
  rw [lookup_insert_eq] at hid hother
  by_cases hidJoins : id = joining.id
  · by_cases hotherJoins : other = joining.id
    · exact absurd (hidJoins.trans hotherJoins.symm) hne
    · rw [if_pos hidJoins] at hid
      rw [if_neg hotherJoins] at hother
      cases hid
      intro hprotocol'
      exact hjoining other allocation' hother hotherJoins hport.symm protocol
        hprotocol' hprotocol
  · rw [if_neg hidJoins] at hid
    by_cases hotherJoins : other = joining.id
    · rw [if_pos hotherJoins] at hother
      cases hother
      exact hjoining id allocation hid hidJoins hport protocol hprotocol
    · rw [if_neg hotherJoins] at hother
      exact h id other allocation allocation' hid hother hne hport protocol hprotocol

/-!
# One call
-/

namespace NetlinkState

theorem projectUpsert_fst (allocation : Allocation) (state : NetlinkState) :
    (state.projectUpsert allocation).1 =
      rulesForAllocations (state.insert allocation).allocations := by
  unfold projectUpsert
  cases state.allocations.lookup allocation.id <;> rfl

theorem projectDelete_fst (id : String) (state : NetlinkState) :
    (state.projectDelete id).1 =
      rulesForAllocations (state.remove id).allocations := by
  unfold projectDelete
  cases state.allocations.lookup id <;> rfl

/-- Projecting an upsert puts every entry back. -/
theorem projectUpsert_snd (allocation : Allocation) (state : NetlinkState) :
    SameLookups (state.projectUpsert allocation).2.allocations state.allocations := by
  intro id
  unfold projectUpsert
  cases hprevious : state.allocations.lookup allocation.id with
  | none =>
      show ((state.allocations.insert allocation.id allocation).erase
        allocation.id).lookup id = state.allocations.lookup id
      rw [lookup_erase_eq, lookup_insert_eq]
      split
      · rename_i hid
        rw [hid, hprevious]
      · rfl
  | some previous =>
      have hkey : previous.id = allocation.id := state.keyed _ _ hprevious
      show ((state.allocations.insert allocation.id allocation).insert
        previous.id previous).lookup id = state.allocations.lookup id
      rw [lookup_insert_eq, lookup_insert_eq, hkey]
      split
      · rename_i hid
        rw [hid, hprevious]
      · rfl

theorem projectDelete_snd (id : String) (state : NetlinkState) :
    SameLookups (state.projectDelete id).2.allocations state.allocations := by
  intro other
  unfold projectDelete
  cases hremoved : state.allocations.lookup id with
  | none =>
      show (state.allocations.erase id).lookup other = state.allocations.lookup other
      rw [lookup_erase_eq]
      split
      · rename_i hother
        rw [hother, hremoved]
      · rfl
  | some removed =>
      have hkey : removed.id = id := state.keyed _ _ hremoved
      show ((state.allocations.erase id).insert removed.id removed).lookup other =
        state.allocations.lookup other
      rw [lookup_insert_eq, lookup_erase_eq, hkey]
      split
      · rename_i hother
        rw [hother, hremoved]
      · rfl

end NetlinkState

theorem sameLookups_insert {allocations allocations' : Allocations}
    (h : SameLookups allocations allocations') (allocation : Allocation) :
    SameLookups (allocations.insert allocation.id allocation)
      (allocations'.insert allocation.id allocation) := by
  intro id
  rw [lookup_insert_eq, lookup_insert_eq, h id]

theorem sameLookups_erase {allocations allocations' : Allocations}
    (h : SameLookups allocations allocations') (gone : String) :
    SameLookups (allocations.erase gone) (allocations'.erase gone) := by
  intro id
  rw [lookup_erase_eq, lookup_erase_eq, h id]

namespace NetlinkRuntime

/-- The effect of a call that asks the kernel for the rules of `target` and keeps
`kept` when it is refused. -/
structure Replaces (reply : NftReply) (target kept : Allocations)
    (kernel : Kernel) (result : Except RuntimeError Unit)
    (s' : NetlinkRuntime) : Prop where
  accepted : reply = .accepted ->
    result = .ok () ∧ SameLookups s'.state.allocations target ∧
      s'.state.staleError = none ∧
      s'.kernel = ⟨rulesForAllocations target, some (rulesForAllocations target)⟩
  refused : forall error tookEffect, reply = .refused error tookEffect ->
    result = .error .runtimeApplyFailed ∧ SameLookups s'.state.allocations kept ∧
      s'.state.staleError = some error.toString ∧
      s'.kernel.accepted = kernel.accepted

theorem applyRules_replaces {rules : List NftDnatRule} {accepted refused : NetlinkState}
    {target kept : Allocations} (reply : NftReply) (kernel : Kernel)
    (hrules : rules = rulesForAllocations target)
    (haccepted : SameLookups accepted.allocations target)
    (hrefused : SameLookups refused.allocations kept) :
    Replaces reply target kept kernel
      (applyRules reply rules accepted refused kernel).1
      (applyRules reply rules accepted refused kernel).2 where
  accepted := by
    intro hreply
    rw [hreply, hrules]
    exact ⟨rfl, haccepted, rfl, rfl⟩
  refused := by
    intro error tookEffect hreply
    rw [hreply]
    refine ⟨rfl, hrefused, rfl, ?_⟩
    cases tookEffect <;> rfl

theorem initializeChain_replaces (reply : NftReply) (s : NetlinkRuntime) :
    Replaces reply s.state.allocations s.state.allocations s.kernel
      (initializeChain reply s).1 (initializeChain reply s).2 :=
  applyRules_replaces reply s.kernel rfl (fun _ => rfl) (fun _ => rfl)

theorem create_replaces (reply : NftReply) (allocation : Allocation)
    (s : NetlinkRuntime) :
    Replaces reply (s.state.allocations.insert allocation.id allocation)
      s.state.allocations s.kernel (create reply allocation s).1
      (create reply allocation s).2 :=
  applyRules_replaces reply s.kernel (s.state.projectUpsert_fst allocation)
    (sameLookups_insert (s.state.projectUpsert_snd allocation) allocation)
    (s.state.projectUpsert_snd allocation)

theorem update_replaces (reply : NftReply) (allocation : Allocation)
    (s : NetlinkRuntime) :
    Replaces reply (s.state.allocations.insert allocation.id allocation)
      (s.state.allocations.insert allocation.id allocation) s.kernel
      (update reply allocation s).1 (update reply allocation s).2 :=
  applyRules_replaces reply s.kernel (s.state.projectUpsert_fst allocation)
    (sameLookups_insert (s.state.projectUpsert_snd allocation) allocation)
    (sameLookups_insert (s.state.projectUpsert_snd allocation) allocation)

theorem delete_replaces (reply : NftReply) (id : String) (s : NetlinkRuntime) :
    Replaces reply (s.state.allocations.erase id) s.state.allocations s.kernel
      (delete reply id s).1 (delete reply id s).2 :=
  applyRules_replaces reply s.kernel (s.state.projectDelete_fst id)
    (sameLookups_erase (s.state.projectDelete_snd id) id)
    (s.state.projectDelete_snd id)

theorem restore_replaces (reply : NftReply) (allocation : Allocation)
    (s : NetlinkRuntime) :
    Replaces reply (s.state.allocations.insert allocation.id allocation)
      (s.state.allocations.insert allocation.id allocation) s.kernel
      (restore reply allocation s).1 (restore reply allocation s).2 :=
  update_replaces reply allocation s

theorem Replaces.target_of_ok {reply : NftReply} {target kept : Allocations}
    {kernel : Kernel} {result : Except RuntimeError Unit} {s' : NetlinkRuntime}
    (h : Replaces reply target kept kernel result s') (hok : result = .ok ()) :
    SameLookups s'.state.allocations target := by
  cases reply with
  | accepted => exact (h.accepted rfl).right.left
  | refused error tookEffect =>
      rw [(h.refused error tookEffect rfl).left] at hok
      cases hok

theorem Replaces.kept_of_error {reply : NftReply} {target kept : Allocations}
    {kernel : Kernel} {result : Except RuntimeError Unit} {s' : NetlinkRuntime}
    (h : Replaces reply target kept kernel result s')
    (herror : result.isOk = false) : SameLookups s'.state.allocations kept := by
  cases reply with
  | accepted =>
      rw [(h.accepted rfl).left] at herror
      cases herror
  | refused error tookEffect => exact (h.refused error tookEffect rfl).right.left

/-- A call that commits in both cases. -/
theorem Replaces.sameLookups {reply : NftReply} {target kept : Allocations}
    {kernel : Kernel} {result : Except RuntimeError Unit} {s' : NetlinkRuntime}
    (h : Replaces reply target kept kernel result s') (hkept : kept = target) :
    SameLookups s'.state.allocations target := by
  cases reply with
  | accepted => exact (h.accepted rfl).right.left
  | refused error tookEffect =>
      rw [← hkept]
      exact (h.refused error tookEffect rfl).right.left

/-- The ruleset last accepted is the old one or the one of the target. -/
theorem Replaces.accepted_cases {reply : NftReply} {target kept : Allocations}
    {kernel : Kernel} {result : Except RuntimeError Unit} {s' : NetlinkRuntime}
    (h : Replaces reply target kept kernel result s') :
    s'.kernel.accepted = kernel.accepted ∨
      s'.kernel.accepted = some (rulesForAllocations target) := by
  cases reply with
  | accepted =>
      rw [(h.accepted rfl).right.right.right]
      exact Or.inr rfl
  | refused error tookEffect =>
      exact Or.inl (h.refused error tookEffect rfl).right.right.right

/-!
# Sequences of calls

The stale marker is what keeps an active report honest: every call either sets
it or leaves the kernel with exactly the rules of the map it leaves behind.
-/

inductive Call where
  | initializeChain
  | create (allocation : Allocation)
  | update (allocation : Allocation)
  | delete (id : String)
  | restore (allocation : Allocation)
deriving DecidableEq, Repr

def perform : Call -> NftReply -> NetlinkRuntime -> NetlinkRuntime
  | .initializeChain, reply, s => (initializeChain reply s).2
  | .create allocation, reply, s => (create reply allocation s).2
  | .update allocation, reply, s => (update reply allocation s).2
  | .delete id, reply, s => (delete reply id s).2
  | .restore allocation, reply, s => (restore reply allocation s).2

def performAll (calls : List (Call × NftReply)) (s : NetlinkRuntime) :
    NetlinkRuntime :=
  calls.foldl (fun s call => perform call.1 call.2 s) s

/-- Unless the state is stale, the kernel runs the rules of the map; before the
first call nothing is held and the chain is whatever was there. -/
def Honest (s : NetlinkRuntime) : Prop :=
  s.state.staleError = none ->
    (forall id, s.state.allocations.lookup id = none) ∨
      s.kernel.chain = rulesForAllocations s.state.allocations

theorem honest_new (kernel : Kernel) : Honest (new kernel) := by
  intro _
  exact Or.inl (fun _ => rfl)

theorem Replaces.honest {reply : NftReply} {target kept : Allocations}
    {kernel : Kernel} {result : Except RuntimeError Unit} {s' : NetlinkRuntime}
    (h : Replaces reply target kept kernel result s') : Honest s' := by
  intro hfresh
  cases reply with
  | accepted =>
      rcases h.accepted rfl with ⟨_, hsame, _, hkernel⟩
      right
      rw [hkernel, rulesForAllocations_congr s'.state.keyed hsame]
  | refused error tookEffect =>
      rcases h.refused error tookEffect rfl with ⟨_, _, hstale, _⟩
      rw [hstale] at hfresh
      cases hfresh

theorem perform_honest (call : Call) (reply : NftReply) (s : NetlinkRuntime) :
    Honest (perform call reply s) := by
  cases call with
  | initializeChain => exact (initializeChain_replaces reply s).honest
  | create allocation => exact (create_replaces reply allocation s).honest
  | update allocation => exact (update_replaces reply allocation s).honest
  | delete id => exact (delete_replaces reply id s).honest
  | restore allocation => exact (restore_replaces reply allocation s).honest

theorem performAll_honest (calls : List (Call × NftReply)) {s : NetlinkRuntime}
    (h : Honest s) : Honest (performAll calls s) := by
  induction calls generalizing s with
  | nil => exact h
  | cons call rest ih => exact ih (perform_honest call.1 call.2 s)

/-- A snapshot is active only for a bound allocation in a fresh state. -/
theorem snapshot_active {id : String} {s : NetlinkRuntime} {observed : ObservedState}
    (h : snapshot id s = .ok (some observed))
    (hactive : observed.runtimeStatus = .active) :
    s.state.staleError = none ∧
      exists allocation outHost outPort,
        s.state.allocations.lookup id = some allocation ∧
        boundTarget allocation = some (outHost, outPort) ∧
        observed.effectiveHost = some outHost.toString ∧
        observed.effectiveTargetPort = some outPort := by
  unfold snapshot at h
  rcases Option.map_eq_some_iff.mp (Except.ok.inj h) with ⟨allocation, hlookup, hobserved⟩
  cases hbound : boundTarget allocation with
  | none =>
      simp only [hbound, Option.isNone_none, if_true] at hobserved
      rw [← hobserved] at hactive
      simp [observedStateFor, hbound] at hactive
  | some target =>
      rcases target with ⟨outHost, outPort⟩
      simp only [hbound, Option.isNone_some, Bool.false_eq_true, if_false] at hobserved
      cases hstale : s.state.staleError with
      | some error =>
          rw [hstale] at hobserved
          rw [← hobserved] at hactive
          cases hactive
      | none =>
          rw [hstale] at hobserved
          rw [← hobserved]
          exact ⟨rfl, allocation, outHost, outPort, hlookup, hbound,
            by simp [observedStateFor, hbound], by simp [observedStateFor, hbound]⟩

/-- Netlink never reports a false active: after any calls, a refused ruleset
taking effect or not, an active snapshot means that the kernel runs the rules of
the map, the reported target included; and a failed create or delete leaves the
map as it was. -/
theorem active_snapshot_is_applied (kernel : Kernel)
    (calls : List (Call × NftReply)) :
    let s := performAll calls (new kernel)
    (forall id observed host port, snapshot id s = .ok (some observed) ->
      observed.runtimeStatus = .active -> observed.effectiveHost = some host ->
      observed.effectiveTargetPort = some port ->
      s.kernel.chain = rulesForAllocations s.state.allocations ∧
      exists allocation, s.state.allocations.lookup id = some allocation ∧
        forall protocol, protocol ∈ protocolsFor allocation.protocol ->
          exists rule, rule ∈ s.kernel.chain ∧ rule.protocol = protocol ∧
            rule.inPort = allocation.port ∧ rule.outHost.toString = host ∧
            rule.outPort = port) ∧
    (forall reply allocation, (create reply allocation s).1.isOk = false ->
      SameLookups (create reply allocation s).2.state.allocations
        s.state.allocations) ∧
    forall reply id, (delete reply id s).1.isOk = false ->
      SameLookups (delete reply id s).2.state.allocations s.state.allocations := by
  intro s
  have hhonest : Honest s := performAll_honest calls (honest_new kernel)
  refine ⟨?_, ?_, ?_⟩
  · intro id observed host port hsnapshot hactive hhost hport
    rcases snapshot_active hsnapshot hactive with
      ⟨hfresh, allocation, outHost, outPort, hlookup, hbound, hhost', hport'⟩
    have hchain : s.kernel.chain = rulesForAllocations s.state.allocations := by
      rcases hhonest hfresh with hempty | hchain
      · rw [hempty id] at hlookup
        cases hlookup
      · exact hchain
    rw [hhost'] at hhost
    rw [hport'] at hport
    refine ⟨hchain, allocation, hlookup, ?_⟩
    intro protocol hprotocol
    have hrule := mem_rulesForAllocations hlookup hbound hprotocol
    rw [← hchain] at hrule
    exact ⟨_, hrule, rfl, rfl, Option.some.inj hhost, Option.some.inj hport⟩
  · intro reply allocation herror
    exact (create_replaces reply allocation s).kept_of_error herror
  · intro reply id herror
    exact (delete_replaces reply id s).kept_of_error herror

end NetlinkRuntime
end Runtime
end Relayd
