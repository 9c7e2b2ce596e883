import Relayd.Runtime.Netlink

/-!
# Projecting the rules

A candidate ruleset is computed by editing the live map, reading the rules off and
undoing the edit.  The rules depend on what the map holds and not on the order in which
it is walked, and the map is given back as it was.
-/

namespace Relayd
namespace Runtime

open Foundation

/-- A host that parses, and a target port. -/
def Targets (allocation : Allocation) (outHost : IpAddr) (outPort : UInt16) : Prop :=
  (exists host, allocation.host = some host ∧ IpAddr.fromStr host = some outHost) ∧
    allocation.targetPort = some outPort

/-- One rule for each concrete protocol, tcp first. -/
def concreteRules (allocation : Allocation) (outHost : IpAddr) (outPort : UInt16) :
    List NftDnatRule :=
  let rule := fun protocol : Protocol =>
    { allocationId := allocation.id
      protocol := protocol
      inPort := allocation.port
      outHost := outHost
      outPort := outPort : NftDnatRule }
  match allocation.protocol with
  | .tcp => [rule .tcp]
  | .udp => [rule .udp]
  | .both => [rule .tcp, rule .udp]

theorem boundTarget_eq_some_iff {allocation : Allocation} {outHost : IpAddr}
    {outPort : UInt16} :
    boundTarget allocation = some (outHost, outPort) <->
      Targets allocation outHost outPort := by
  unfold boundTarget Targets
  cases allocation.host with
  | none => simp
  | some host =>
      cases hparsed : IpAddr.fromStr host with
      | none => simp [hparsed]
      | some addr =>
          cases allocation.targetPort with
          | none => simp [hparsed]
          | some targetPort => simp [hparsed]

theorem rulesForAllocation_of_targets {allocation : Allocation} {outHost : IpAddr}
    {outPort : UInt16} (h : Targets allocation outHost outPort) :
    rulesForAllocation allocation = concreteRules allocation outHost outPort := by
  unfold rulesForAllocation concreteRules
  rw [boundTarget_eq_some_iff.mpr h]
  cases allocation.protocol <;> rfl

/-!
# The allocations with rules
-/

/-- What `rules_for_allocations` collects before it sorts. -/
def hasTarget (allocation : Allocation) : Bool :=
  allocation.host.isSome && allocation.targetPort.isSome

theorem rulesForAllocations_eq (allocations : Allocations) :
    rulesForAllocations allocations =
      (sortByKey Allocation.id ((values allocations).filter hasTarget)).flatMap
        rulesForAllocation := rfl

/-- The loop runs over the collected allocations in whatever way the sort arranged them. -/
theorem flatMap_arranged {allocations allocations' : Allocations}
    (hkeyed : Keyed Allocation.id allocations)
    (hsame : SameLookups allocations allocations') {arranged : List Allocation}
    (hperm : arranged.Perm ((values allocations').filter hasTarget))
    (hsorted : arranged.Pairwise (fun left right => left.id ≤ right.id)) :
    arranged.flatMap rulesForAllocation = rulesForAllocations allocations := by
  rw [rulesForAllocations_eq,
    eq_sortByKey hkeyed (hperm.trans ((values_perm hsame).filter hasTarget).symm) hsorted]

def boundAllocations (allocations : Allocations) : List Allocation :=
  (sortByKey Allocation.id ((values allocations).filter hasTarget)).filter
    (fun allocation => (boundTarget allocation).isSome)

theorem boundAllocations_strict {allocations : Allocations}
    (hkeyed : Keyed Allocation.id allocations) :
    (boundAllocations allocations).Pairwise (fun left right => left.id < right.id) :=
  (sortByKey_strict hkeyed hasTarget).filter _

theorem mem_boundAllocations {allocations : Allocations}
    (hkeyed : Keyed Allocation.id allocations) {allocation : Allocation} :
    allocation ∈ boundAllocations allocations <->
      allocations.lookup allocation.id = some allocation ∧
        exists outHost outPort, Targets allocation outHost outPort := by
  unfold boundAllocations
  rw [List.mem_filter, mem_sortByKey, List.mem_filter, mem_values, Option.isSome_iff_exists]
  constructor
  · intro h
    rcases h with ⟨⟨⟨id, hlookup⟩, _⟩, ⟨⟨outHost, outPort⟩, hbound⟩⟩
    have hid : allocation.id = id := hkeyed id allocation hlookup
    rw [hid]
    exact ⟨hlookup, outHost, outPort, boundTarget_eq_some_iff.mp hbound⟩
  · intro h
    rcases h with ⟨hlookup, outHost, outPort, htargets⟩
    have hbound := boundTarget_eq_some_iff.mpr htargets
    rcases boundTarget_eq_some hbound with ⟨hhost, hport⟩
    have hcollected : hasTarget allocation = true := by
      unfold hasTarget
      rw [hhost, hport]
      rfl
    exact ⟨⟨⟨allocation.id, hlookup⟩, hcollected⟩, (outHost, outPort), hbound⟩

/-- An allocation whose host does not parse adds nothing. -/
theorem flatMap_filter_bound (collected : List Allocation) :
    collected.flatMap rulesForAllocation =
      (collected.filter (fun allocation => (boundTarget allocation).isSome)).flatMap
        rulesForAllocation := by
  induction collected with
  | nil => rfl
  | cons allocation rest ih =>
      rw [List.flatMap_cons, ih]
      cases hbound : boundTarget allocation with
      | none =>
          have hnone : rulesForAllocation allocation = [] := by
            unfold rulesForAllocation
            rw [hbound]
          rw [List.filter_cons_of_neg (by simp [hbound]), hnone, List.nil_append]
      | some target =>
          rw [List.filter_cons_of_pos (by simp [hbound]), List.flatMap_cons]

/-- Each allocation of the list with the rules it contributes. -/
def Contributes (allocation : Allocation) (rules : List NftDnatRule) : Prop :=
  exists outHost outPort, Targets allocation outHost outPort ∧
    rules = concreteRules allocation outHost outPort

theorem contributes_boundAllocations {allocations : Allocations}
    (hkeyed : Keyed Allocation.id allocations) :
    List.Forall₂ Contributes (boundAllocations allocations)
      ((boundAllocations allocations).map rulesForAllocation) := by
  rw [List.forall₂_map_right_iff, List.forall₂_same]
  intro allocation hmem
  rcases (mem_boundAllocations hkeyed).mp hmem with ⟨_, outHost, outPort, htargets⟩
  exact ⟨outHost, outPort, htargets, rulesForAllocation_of_targets htargets⟩

theorem rulesForAllocations_eq_flatten (allocations : Allocations) :
    rulesForAllocations allocations =
      ((boundAllocations allocations).map rulesForAllocation).flatten := by
  rw [rulesForAllocations_eq, flatMap_filter_bound, List.flatMap_def]
  rfl

/-!
# The projection
-/

theorem rule_projection_canonical :
    (forall allocations : Allocations, Keyed Allocation.id allocations ->
      (forall allocations', SameLookups allocations allocations' ->
        rulesForAllocations allocations' = rulesForAllocations allocations) ∧
      (forall (allocations' : Allocations) (arranged : List Allocation),
        SameLookups allocations allocations' ->
        arranged.Perm ((values allocations').filter hasTarget) ->
        arranged.Pairwise (fun left right => left.id ≤ right.id) ->
        arranged.flatMap rulesForAllocation = rulesForAllocations allocations) ∧
      exists bound rules, bound.Pairwise (fun left right => left.id < right.id) ∧
        (forall allocation, allocation ∈ bound <->
          allocations.lookup allocation.id = some allocation ∧
            exists outHost outPort, Targets allocation outHost outPort) ∧
        List.Forall₂ Contributes bound rules ∧
        rulesForAllocations allocations = rules.flatten) ∧
    (forall (state : NetlinkState) (allocation : Allocation),
      (state.projectUpsert allocation).1 =
        rulesForAllocations (state.allocations.insert allocation.id allocation) ∧
      SameLookups (state.projectUpsert allocation).2.allocations state.allocations ∧
      (state.projectUpsert allocation).2.staleError = state.staleError ∧
      (state.projectUpsert allocation).2.initialized = state.initialized) ∧
    (forall (state : NetlinkState) (id : String),
      (state.projectDelete id).1 = rulesForAllocations (state.allocations.erase id) ∧
      SameLookups (state.projectDelete id).2.allocations state.allocations ∧
      (state.projectDelete id).2.staleError = state.staleError ∧
      (state.projectDelete id).2.initialized = state.initialized) := by
  refine ⟨?_, ?_, ?_⟩
  · intro allocations hkeyed
    refine ⟨?_, ?_, ?_⟩
    · intro allocations' hsame
      exact (rulesForAllocations_congr hkeyed hsame).symm
    · intro allocations' arranged hsame hperm hsorted
      exact flatMap_arranged hkeyed hsame hperm hsorted
    · exact ⟨boundAllocations allocations, _, boundAllocations_strict hkeyed,
        fun _ => mem_boundAllocations hkeyed, contributes_boundAllocations hkeyed,
        rulesForAllocations_eq_flatten allocations⟩
  · intro state allocation
    refine ⟨state.projectUpsert_fst allocation, state.projectUpsert_snd allocation, ?_, ?_⟩
    · unfold NetlinkState.projectUpsert
      cases state.allocations.lookup allocation.id <;> rfl
    · unfold NetlinkState.projectUpsert
      cases state.allocations.lookup allocation.id <;> rfl
  · intro state id
    refine ⟨state.projectDelete_fst id, state.projectDelete_snd id, ?_, ?_⟩
    · unfold NetlinkState.projectDelete
      cases state.allocations.lookup id <;> rfl
    · unfold NetlinkState.projectDelete
      cases state.allocations.lookup id <;> rfl

/-- Three allocations in an order no sort would give. -/
def scatteredState : NetlinkState :=
  let allocation := fun (id : String) (protocol : Protocol) (port : UInt16) (host : String) =>
    { id := id, protocol := protocol, port := port, targetPort := some 8080,
      host := some host, createdAtMs := 1, updatedAtMs := 1 : Allocation }
  ((NetlinkState.default.insert (allocation "m" .udp 10001 "localhost")).insert
    (allocation "a" .both 10000 "127.0.0.1")).insert (allocation "z" .tcp 10002 "::1")

theorem rule_projection_canonical_scattered :
    Keyed Allocation.id scatteredState.allocations ∧
    (exists bound rules, bound.Pairwise (fun left right => left.id < right.id) ∧
      List.Forall₂ Contributes bound rules ∧
      rulesForAllocations scatteredState.allocations = rules.flatten) ∧
    rulesForAllocations scatteredState.allocations =
      [⟨"a", .tcp, 10000, .v4 ⟨127, 0, 0, 1⟩, 8080⟩,
        ⟨"a", .udp, 10000, .v4 ⟨127, 0, 0, 1⟩, 8080⟩,
        ⟨"z", .tcp, 10002, .v6 ⟨0, 0, 0, 0, 0, 0, 0, 1⟩, 8080⟩] := by
  have h := rule_projection_canonical.1 scatteredState.allocations scatteredState.keyed
  rcases h.2.2 with ⟨bound, rules, hstrict, _, hcontributes, hrules⟩
  exact ⟨scatteredState.keyed, ⟨bound, rules, hstrict, hcontributes, hrules⟩, by rfl⟩

end Runtime
end Relayd
