import Mathlib.Data.List.Induction
import Relayd.Runtime.Netlink

/-!
# Detached allocations in the kernel

A snapshot of an allocation without a target says that its clients are rejected, also
while the ruleset in the kernel is an old one.  Here a refused ruleset leaves the
kernel as it was, so the kernel runs the rules of the map as it stood after the last
ruleset that was accepted.  Since then the map has changed only by updates and
restores, which are committed also when their ruleset is refused.
-/

namespace Relayd
namespace Runtime
namespace NetlinkRuntime

open Foundation

/-- Calls with the error of each, or none when its ruleset was accepted. -/
abbrev History := List (Call × Option NftBackendError)

def replyFor : Option NftBackendError -> NftReply
  | none => .accepted
  | some error => .refused error false

def performHistory (history : History) (s : NetlinkRuntime) : NetlinkRuntime :=
  performAll (history.map (fun call => (call.1, replyFor call.2))) s

def Call.allocation : Call -> Option Allocation
  | .create allocation => some allocation
  | .update allocation => some allocation
  | .restore allocation => some allocation
  | _ => none

/-- The map that the call asks the kernel to serve. -/
def Call.target : Call -> Allocations -> Allocations
  | .initializeChain, allocations => allocations
  | .create allocation, allocations => allocations.insert allocation.id allocation
  | .update allocation, allocations => allocations.insert allocation.id allocation
  | .delete id, allocations => allocations.erase id
  | .restore allocation, allocations => allocations.insert allocation.id allocation

/-- The map that the call leaves when the kernel refuses. -/
def Call.kept : Call -> Allocations -> Allocations
  | .update allocation, allocations => allocations.insert allocation.id allocation
  | .restore allocation, allocations => allocations.insert allocation.id allocation
  | _, allocations => allocations

def Mentions (history : History) (allocation : Allocation) : Prop :=
  exists call, call ∈ history ∧ call.1.allocation = some allocation

/-- Allocations of different ids share no protocol and port. -/
def DistinctPorts (history : History) : Prop :=
  forall left right, Mentions history left -> Mentions history right -> left.id ≠ right.id ->
    left.port = right.port ->
    forall protocol, protocol ∈ protocolsFor left.protocol ->
      protocol ∉ protocolsFor right.protocol

/-- An update or a restore of this allocation was refused, and no ruleset has been
accepted since. -/
def RefusedSince (history : History) (allocation : Allocation) : Prop :=
  exists before call error after, history = before ++ (call, some error) :: after ∧
    (call = .update allocation ∨ call = .restore allocation) ∧
    forall later, later ∈ after -> later.2 ≠ none

/-!
# One call
-/

theorem perform_replaces (call : Call) (reply : NftReply) (s : NetlinkRuntime) :
    exists result, Replaces reply (call.target s.state.allocations)
      (call.kept s.state.allocations) s.kernel result (perform call reply s) := by
  cases call with
  | initializeChain => exact ⟨_, initializeChain_replaces reply s⟩
  | create allocation => exact ⟨_, create_replaces reply allocation s⟩
  | update allocation => exact ⟨_, update_replaces reply allocation s⟩
  | delete id => exact ⟨_, delete_replaces reply id s⟩
  | restore allocation => exact ⟨_, restore_replaces reply allocation s⟩

theorem kernel_of_refused (call : Call) (error : NftBackendError) (s : NetlinkRuntime) :
    (perform call (.refused error false) s).kernel = s.kernel := by
  cases call <;> rfl

theorem performHistory_concat (history : History) (call : Call × Option NftBackendError)
    (s : NetlinkRuntime) :
    performHistory (history ++ [call]) s =
      perform call.1 (replyFor call.2) (performHistory history s) := by
  unfold performHistory performAll
  rw [List.map_append, List.foldl_append]
  rfl

theorem Mentions.concat {history : History} {allocation : Allocation}
    (h : Mentions history allocation) (call : Call × Option NftBackendError) :
    Mentions (history ++ [call]) allocation := by
  rcases h with ⟨earlier, hearlier, hallocation⟩
  exact ⟨earlier, List.mem_append_left _ hearlier, hallocation⟩

theorem RefusedSince.concat {history : History} {allocation : Allocation}
    (h : RefusedSince history allocation) (call : Call) (error : NftBackendError) :
    RefusedSince (history ++ [(call, some error)]) allocation := by
  rcases h with ⟨before, earlier, error', after, hhistory, hcall, hafter⟩
  refine ⟨before, earlier, error', after ++ [(call, some error)], ?_, hcall, ?_⟩
  · rw [hhistory, List.append_assoc]
    rfl
  · intro later hlater
    rcases List.mem_append.mp hlater with hold | hnew
    · exact hafter later hold
    · cases List.mem_singleton.mp hnew
      exact Option.some_ne_none error

/-!
# The kernel and the map
-/

/-- The allocations held are allocations of calls, each under its own id. -/
def Named (history : History) (allocations : Allocations) : Prop :=
  forall id allocation, allocations.lookup id = some allocation ->
    allocation.id = id ∧ Mentions history allocation

/-- The map when the ruleset that the kernel runs was accepted. -/
def AppliedLast (kernel : Kernel) (history : History) (applied : Allocations) : Prop :=
  exists before call after, history = before ++ (call, none) :: after ∧
    (forall later, later ∈ after -> later.2 ≠ none) ∧
    applied = (performHistory (before ++ [(call, none)]) (new kernel)).state.allocations

structure Follows (kernel : Kernel) (history : History) (applied : Allocations) : Prop where
  chain : (performHistory history (new kernel)).kernel.chain = rulesForAllocations applied
  last : AppliedLast kernel history applied
  named : Named history applied
  held : Named history (performHistory history (new kernel)).state.allocations
  since : forall id allocation,
    (performHistory history (new kernel)).state.allocations.lookup id = some allocation ->
    applied.lookup id = some allocation ∨ RefusedSince history allocation

theorem Named.mono {history history' : History} {allocations : Allocations}
    (h : Named history allocations)
    (hmentions : forall allocation, Mentions history allocation ->
      Mentions history' allocation) : Named history' allocations := by
  intro id allocation hlookup
  rcases h id allocation hlookup with ⟨hid, hmentioned⟩
  exact ⟨hid, hmentions allocation hmentioned⟩

theorem Named.congr {history : History} {allocations allocations' : Allocations}
    (h : Named history allocations) (hsame : SameLookups allocations' allocations) :
    Named history allocations' := by
  intro id allocation hlookup
  rw [hsame id] at hlookup
  exact h id allocation hlookup

theorem Named.insert {history : History} {allocations : Allocations}
    (h : Named history allocations) {allocation : Allocation}
    (hmentioned : Mentions history allocation) :
    Named history (allocations.insert allocation.id allocation) := by
  intro id found hlookup
  rw [lookup_insert_eq] at hlookup
  split at hlookup
  · next hid =>
    cases hlookup
    exact ⟨hid.symm, hmentioned⟩
  · exact h id found hlookup

theorem Named.erase {history : History} {allocations : Allocations}
    (h : Named history allocations) (gone : String) :
    Named history (allocations.erase gone) := by
  intro id found hlookup
  rw [lookup_erase_eq] at hlookup
  split at hlookup
  · cases hlookup
  · exact h id found hlookup

theorem mentions_last (history : History) {call : Call} {error : Option NftBackendError}
    {allocation : Allocation} (h : call.allocation = some allocation) :
    Mentions (history ++ [(call, error)]) allocation :=
  ⟨(call, error), List.mem_append_right _ (List.mem_singleton.mpr rfl), h⟩

theorem named_target {history : History} {allocations : Allocations} {call : Call}
    {error : Option NftBackendError} (h : Named (history ++ [(call, error)]) allocations) :
    Named (history ++ [(call, error)]) (call.target allocations) := by
  cases call with
  | initializeChain => exact h
  | create allocation => exact h.insert (mentions_last history rfl)
  | update allocation => exact h.insert (mentions_last history rfl)
  | delete id => exact h.erase id
  | restore allocation => exact h.insert (mentions_last history rfl)

theorem named_kept {history : History} {allocations : Allocations} {call : Call}
    {error : Option NftBackendError} (h : Named (history ++ [(call, error)]) allocations) :
    Named (history ++ [(call, error)]) (call.kept allocations) := by
  cases call with
  | update allocation => exact h.insert (mentions_last history rfl)
  | restore allocation => exact h.insert (mentions_last history rfl)
  | _ => exact h

/-- A refused call leaves an entry as it was, or it is the update or restore of it. -/
theorem lookup_kept (call : Call) (allocations : Allocations) (id : String) :
    (call.kept allocations).lookup id = allocations.lookup id ∨
      exists allocation, (call.kept allocations).lookup id = some allocation ∧
        (call = .update allocation ∨ call = .restore allocation) := by
  have hinsert : forall allocation : Allocation,
      (allocations.insert allocation.id allocation).lookup id = allocations.lookup id ∨
        (allocations.insert allocation.id allocation).lookup id = some allocation := by
    intro allocation
    rw [lookup_insert_eq]
    split
    · exact Or.inr rfl
    · exact Or.inl rfl
  cases call with
  | update allocation =>
      rcases hinsert allocation with hsame | hnew
      · exact Or.inl hsame
      · exact Or.inr ⟨allocation, hnew, Or.inl rfl⟩
  | restore allocation =>
      rcases hinsert allocation with hsame | hnew
      · exact Or.inl hsame
      · exact Or.inr ⟨allocation, hnew, Or.inr rfl⟩
  | _ => exact Or.inl rfl

/-- An accepted ruleset is the one of the map that the call leaves. -/
theorem follows_accepted {kernel : Kernel} {history : History}
    (hheld : Named history (performHistory history (new kernel)).state.allocations)
    (call : Call) :
    Follows kernel (history ++ [(call, none)])
      (performHistory (history ++ [(call, none)]) (new kernel)).state.allocations := by
  have hconcat : Named (history ++ [(call, none)])
      (performHistory history (new kernel)).state.allocations :=
    hheld.mono (fun _ hmentioned => hmentioned.concat _)
  rcases perform_replaces call .accepted (performHistory history (new kernel)) with
    ⟨result, hreplaces⟩
  rcases hreplaces.accepted rfl with ⟨_, hsame, _, hkernel⟩
  have hnamed := (named_target hconcat).congr hsame
  have hstep := performHistory_concat history (call, none) (new kernel)
  constructor
  · rw [hstep]
    show (perform call .accepted (performHistory history (new kernel))).kernel.chain = _
    rw [hkernel]
    exact (rulesForAllocations_congr
      (perform call .accepted (performHistory history (new kernel))).state.keyed hsame).symm
  · refine ⟨history, call, [], rfl, ?_, rfl⟩
    intro later hlater
    cases hlater
  · rw [hstep]
    exact hnamed
  · rw [hstep]
    exact hnamed
  · intro id allocation hlookup
    exact Or.inl hlookup

theorem AppliedLast.concat {kernel : Kernel} {history : History} {applied : Allocations}
    (h : AppliedLast kernel history applied) (call : Call) (error : NftBackendError) :
    AppliedLast kernel (history ++ [(call, some error)]) applied := by
  rcases h with ⟨before, accepted, after, hhistory, hafter, happlied⟩
  refine ⟨before, accepted, after ++ [(call, some error)], ?_, ?_, happlied⟩
  · rw [hhistory, List.append_assoc]
    rfl
  · intro later hlater
    rcases List.mem_append.mp hlater with hold | hnew
    · exact hafter later hold
    · cases List.mem_singleton.mp hnew
      exact Option.some_ne_none error

theorem Follows.refused {kernel : Kernel} {history : History} {applied : Allocations}
    (h : Follows kernel history applied) (call : Call) (error : NftBackendError) :
    Follows kernel (history ++ [(call, some error)]) applied := by
  have hheld : Named (history ++ [(call, some error)])
      (performHistory history (new kernel)).state.allocations :=
    h.held.mono (fun _ hmentioned => hmentioned.concat _)
  rcases perform_replaces call (.refused error false) (performHistory history (new kernel)) with
    ⟨result, hreplaces⟩
  rcases hreplaces.refused error false rfl with ⟨_, hsame, _, _⟩
  have hstep := performHistory_concat history (call, some error) (new kernel)
  constructor
  · rw [hstep]
    show (perform call (.refused error false) _).kernel.chain = _
    rw [kernel_of_refused, h.chain]
  · exact h.last.concat call error
  · exact h.named.mono (fun _ hmentioned => hmentioned.concat _)
  · rw [hstep]
    exact (named_kept hheld).congr hsame
  · intro id allocation hlookup
    rw [hstep] at hlookup
    have hkeptLookup := (hsame id).symm.trans hlookup
    rcases lookup_kept call (performHistory history (new kernel)).state.allocations id with
      hkept | ⟨updated, hnew, hcall⟩
    · rcases h.since id allocation (hkept.symm.trans hkeptLookup) with hsince | hrefused
      · exact Or.inl hsince
      · exact Or.inr (hrefused.concat call error)
    · right
      rw [hkeptLookup] at hnew
      cases hnew
      refine ⟨history, call, error, [], rfl, hcall, ?_⟩
      intro later hlater
      cases hlater

theorem follows_history (kernel : Kernel) (calls : History) :
    exists applied, Follows kernel ((.initializeChain, none) :: calls) applied := by
  induction calls using List.reverseRecOn with
  | nil =>
      refine ⟨_, @follows_accepted kernel [] ?_ .initializeChain⟩
      intro id allocation hlookup
      cases hlookup
  | append_singleton calls call ih =>
      rcases ih with ⟨applied, hfollows⟩
      rw [← List.cons_append]
      rcases call with ⟨call, error⟩
      cases error with
      | none => exact ⟨_, follows_accepted hfollows.held call⟩
      | some error => exact ⟨applied, hfollows.refused call error⟩

/-!
# What a rejecting snapshot says
-/

theorem rule_of_allocation {allocations : Allocations} {rule : NftDnatRule}
    (h : rule ∈ rulesForAllocations allocations) :
    exists id allocation, allocations.lookup id = some allocation ∧
      (boundTarget allocation).isSome = true ∧
      rule.protocol ∈ protocolsFor allocation.protocol ∧
      rule.inPort = allocation.port := by
  unfold rulesForAllocations at h
  rcases List.mem_flatMap.mp h with ⟨allocation, hallocation, hrule⟩
  rcases mem_values.mp (List.mem_filter.mp (mem_sortByKey.mp hallocation)).left with ⟨id, hlookup⟩
  refine ⟨id, allocation, hlookup, ?_, mem_rulesForAllocation hrule⟩
  unfold rulesForAllocation at hrule
  cases hbound : boundTarget allocation with
  | none =>
      rw [hbound] at hrule
      cases hrule
  | some target => rfl

theorem snapshot_rejecting {id : String} {s : NetlinkRuntime} {observed : ObservedState}
    (h : snapshot id s = .ok (some observed))
    (hrejecting : observed.runtimeStatus = .rejectingNoHost) :
    exists allocation, s.state.allocations.lookup id = some allocation ∧
      boundTarget allocation = none := by
  unfold snapshot at h
  rcases Option.map_eq_some_iff.mp (Except.ok.inj h) with ⟨allocation, hlookup, hobserved⟩
  refine ⟨allocation, hlookup, ?_⟩
  cases hbound : boundTarget allocation with
  | none => rfl
  | some target =>
      simp only [hbound, Option.isNone_some, Bool.false_eq_true, if_false] at hobserved
      cases hstale : s.state.staleError with
      | some error =>
          rw [hstale] at hobserved
          rw [← hobserved] at hrejecting
          cases hrejecting
      | none =>
          rw [hstale] at hobserved
          rw [← hobserved] at hrejecting
          simp [observedStateFor, hbound] at hrejecting

/-- The kernel may still forward for this allocation: it was bound when the ruleset in
the kernel was accepted, and every attempt to detach it since then was refused. -/
def DetachRefused (kernel : Kernel) (history : History) (allocation : Allocation) : Prop :=
  RefusedSince history allocation ∧
    exists applied previous, AppliedLast kernel history applied ∧
      applied.lookup allocation.id = some previous ∧ (boundTarget previous).isSome = true

/-- The rules of an allocation that a snapshot reports as rejecting. -/
def Forwarded (s : NetlinkRuntime) (allocation : Allocation) : Prop :=
  exists rule, rule ∈ s.kernel.chain ∧ rule.protocol ∈ protocolsFor allocation.protocol ∧
    rule.inPort = allocation.port

theorem mentions_after_start {calls : History} {allocation : Allocation}
    (h : Mentions ((.initializeChain, none) :: calls) allocation) :
    Mentions calls allocation := by
  rcases h with ⟨call, hcall, hallocation⟩
  cases hcall with
  | head => cases hallocation
  | tail _ hrest => exact ⟨call, hrest, hallocation⟩

/-- A rejecting snapshot means that the kernel has no rule for the allocation, unless
the update or restore that detached it was refused while an older ruleset serves it. -/
theorem rejecting_snapshot_detached (kernel : Kernel) (calls : History)
    (hports : DistinctPorts calls) (id : String) (observed : ObservedState)
    (hsnapshot : snapshot id
      (performHistory ((.initializeChain, none) :: calls) (new kernel)) = .ok (some observed))
    (hrejecting : observed.runtimeStatus = .rejectingNoHost)
    (_hkind : observed.errorKind = none) :
    exists allocation,
      (performHistory ((.initializeChain, none) :: calls) (new kernel)).state.allocations.lookup
        id = some allocation ∧ allocation.id = id ∧
      (¬ DetachRefused kernel ((.initializeChain, none) :: calls) allocation ->
        ¬ Forwarded (performHistory ((.initializeChain, none) :: calls) (new kernel))
          allocation) := by
  rcases snapshot_rejecting hsnapshot hrejecting with ⟨allocation, hlookup, hunbound⟩
  rcases follows_history kernel calls with ⟨applied, hfollows⟩
  rcases hfollows.held id allocation hlookup with ⟨hid, hmentioned⟩
  refine ⟨allocation, hlookup, hid, ?_⟩
  rintro hdetached ⟨rule, hrule, hprotocol, hport⟩
  rw [hfollows.chain] at hrule
  rcases rule_of_allocation hrule with
    ⟨other, served, hserved, hbound, hservedProtocol, hservedPort⟩
  rcases hfollows.named other served hserved with ⟨hother, hservedMentioned⟩
  -- A rule on this port is a rule of this id, since other ids use other ports.
  have hsameId : served.id = allocation.id := by
    by_contra hne
    exact hports served allocation (mentions_after_start hservedMentioned)
      (mentions_after_start hmentioned) hne (hservedPort.symm.trans hport) rule.protocol
      hservedProtocol hprotocol
  have hserved' : applied.lookup allocation.id = some served := by
    rw [← hsameId, hother]
    exact hserved
  rcases hfollows.since id allocation hlookup with hsame | hrefused
  · rw [hid, hsame] at hserved'
    cases hserved'
    rw [hunbound] at hbound
    cases hbound
  · exact hdetached ⟨hrefused, applied, served, hfollows.last, hserved', hbound⟩

def webAllocation (host : Option String) (targetPort : Option UInt16) : Allocation where
  id := "web"
  protocol := .tcp
  port := 10000
  targetPort := targetPort
  host := host
  createdAtMs := 0
  updatedAtMs := 0

/-- The allocation is served, and then its binding is deleted. -/
def servedThenDetached (error : Option NftBackendError) : History :=
  [(.create (webAllocation (some "127.0.0.1") (some 8080)), none),
    (.update (webAllocation none none), error)]

theorem distinctPorts_servedThenDetached (error : Option NftBackendError) :
    DistinctPorts (servedThenDetached error) := by
  have hid : forall allocation, Mentions (servedThenDetached error) allocation ->
      allocation.id = "web" := by
    rintro allocation ⟨call, hcall, hallocation⟩
    rcases List.mem_cons.mp hcall with rfl | hlast
    · cases hallocation
      rfl
    · cases List.mem_singleton.mp hlast
      cases hallocation
      rfl
  intro left right hleft hright hne
  exact absurd ((hid left hleft).trans (hid right hright).symm) hne

theorem rejecting_snapshot_after_detach :
    exists allocation,
      (performHistory ((.initializeChain, none) :: servedThenDetached none)
        (new ⟨[], none⟩)).state.allocations.lookup "web" = some allocation ∧
      allocation.id = "web" ∧
      (¬ DetachRefused ⟨[], none⟩ ((.initializeChain, none) :: servedThenDetached none)
          allocation ->
        ¬ Forwarded (performHistory ((.initializeChain, none) :: servedThenDetached none)
          (new ⟨[], none⟩)) allocation) :=
  rejecting_snapshot_detached ⟨[], none⟩ (servedThenDetached none)
    (distinctPorts_servedThenDetached none) "web"
    { effectiveTargetPort := none
      effectiveHost := none
      runtimeStatus := .rejectingNoHost
      errorKind := none
      lastError := none }
    (by rfl) rfl rfl

/-- The update is refused: the snapshot says rejecting while the kernel forwards. -/
theorem refused_detach_still_forwards :
    let history := servedThenDetached (some (.apply "netlink busy"))
    let s := performHistory ((.initializeChain, none) :: history) (new ⟨[], none⟩)
    DistinctPorts history ∧
    snapshot "web" s = .ok (some
      { effectiveTargetPort := none
        effectiveHost := none
        runtimeStatus := .rejectingNoHost
        errorKind := none
        lastError := none }) ∧
    s.state.allocations.lookup "web" = some (webAllocation none none) ∧
    Forwarded s (webAllocation none none) := by
  intro history s
  refine ⟨distinctPorts_servedThenDetached _, by rfl, by rfl, ?_⟩
  have hbound : boundTarget (webAllocation (some "127.0.0.1") (some 8080)) =
      some (.v4 ⟨127, 0, 0, 1⟩, 8080) := by decide
  have hserved : ((∅ : Allocations).insert "web"
      (webAllocation (some "127.0.0.1") (some 8080))).lookup "web" =
        some (webAllocation (some "127.0.0.1") (some 8080)) := by rfl
  exact ⟨_, mem_rulesForAllocations hserved hbound (List.mem_singleton.mpr rfl),
    List.mem_singleton.mpr rfl, rfl⟩

end NetlinkRuntime
end Runtime
end Relayd
