import Relayd.Foundation.IpText
import Relayd.Foundation.Transition
import Relayd.Runtime.InMemory
import Relayd.Runtime.Netlink
import Relayd.Runtime.Real

/-!
# Three runtimes behind one facade

The proxy, netlink and in-memory runtimes are given the same calls.  Each of them projects
an allocation to what it reports in its own way; the projections differ for an allocation
that has a target port without a host, or a host without a target port, and for no other.
-/

namespace Relayd
namespace Runtime

open Foundation Fallible

/-!
# Calls
-/

inductive FacadeCall where
  | create (allocation : Allocation)
  | update (allocation : Allocation)
  | restore (allocation : Allocation)
  | delete (id : String)
deriving DecidableEq, Repr

def FacadeCall.allocation : FacadeCall -> Option Allocation
  | .create allocation => some allocation
  | .update allocation => some allocation
  | .restore allocation => some allocation
  | .delete _ => none

def FacadeCall.perform {rt answer : Type} (facade : RuntimeFacade rt answer)
    (call : FacadeCall) (reply : answer) (timeoutMs : UInt32) (s : rt) :
    Except RuntimeError Unit × rt :=
  match call with
  | .create allocation => facade.create reply allocation timeoutMs s
  | .update allocation => facade.update reply allocation timeoutMs s
  | .restore allocation => facade.restore reply allocation timeoutMs s
  | .delete id => facade.delete reply id timeoutMs s

/-- A call with what the operating system and the kernel answer to it. -/
structure SharedCall where
  call : FacadeCall
  timeoutMs : UInt32
  binds : Binds
  reply : NftReply

structure Runtimes where
  real : RealRuntime
  netlink : NetlinkRuntime
  memory : InMemoryRuntime

namespace Runtimes

def new (bindHost : String) (kernel : Kernel) : Runtimes where
  real := RealRuntime.new bindHost
  netlink := NetlinkRuntime.new kernel
  memory := InMemoryRuntime.default

/-- All three runtimes are given the call; it counts when all three succeed. -/
def next (s : Runtimes) (shared : SharedCall) : Option Runtimes :=
  match shared.call.perform RealRuntime.facade shared.binds shared.timeoutMs s.real,
    shared.call.perform NetlinkRuntime.facade shared.reply shared.timeoutMs s.netlink,
    shared.call.perform InMemoryRuntime.facade () shared.timeoutMs s.memory with
  | (.ok (), real), (.ok (), netlink), (.ok (), memory) => some ⟨real, netlink, memory⟩
  | _, _, _ => none

/-- Hosts are missing or literals; an update is for an id that is present, under the
protocol it was opened with. -/
def proper (s : Runtimes) (shared : SharedCall) : Bool :=
  shared.call.allocation.all (fun allocation =>
    allocation.host.all (fun host => (IpAddr.fromStr host).isSome)) &&
  match shared.call with
  | .update allocation =>
      (s.memory.allocations.lookup allocation.id).any
        (fun present => present.protocol = allocation.protocol)
  | _ => true

def properNext : Runtimes -> SharedCall -> Option Runtimes :=
  guarded proper next

end Runtimes

/-!
# Agreement
-/

/-- Two reported hosts are both missing, or literals of one address. -/
def SameAddress : Option String -> Option String -> Prop
  | none, none => True
  | some host, some other =>
      exists addr, IpAddr.fromStr host = some addr ∧ IpAddr.fromStr other = some addr
  | _, _ => False

structure SameObserved (left right : ObservedState) : Prop where
  effectiveTargetPort : left.effectiveTargetPort = right.effectiveTargetPort
  effectiveHost : SameAddress left.effectiveHost right.effectiveHost
  runtimeStatus : left.runtimeStatus = right.runtimeStatus
  errorKind : left.errorKind = right.errorKind
  lastError : left.lastError = right.lastError

def Runtimes.Agree (s : Runtimes) : Prop :=
  forall id, exists real netlink memory,
    RealRuntime.snapshot id s.real = .ok real ∧
    NetlinkRuntime.snapshot id s.netlink = .ok netlink ∧
    InMemoryRuntime.snapshot id s.memory = .ok memory ∧
    Option.Rel SameObserved real netlink ∧ Option.Rel SameObserved real memory ∧
    Option.Rel SameObserved netlink memory

/-- A host comes with a target port and a target port with a host. -/
def Paired (allocation : Allocation) : Prop :=
  allocation.host.isSome = allocation.targetPort.isSome

/-!
# What the proxy shows
-/

namespace RealRuntime

theorem snapshot_congr {id : String} {s s' : RealRuntime}
    (hprotocol : s'.protocols.lookup id = s.protocols.lookup id)
    (htcp : s'.tcp.lookup id = s.tcp.lookup id) (hudp : s'.udp.lookup id = s.udp.lookup id) :
    snapshot id s' = snapshot id s := by
  unfold snapshot snapshotEntry
  rw [hprotocol, htcp, hudp]

/-- Listeners in one state are shown in that state. -/
theorem snapshot_of_entries {id : String} {s : RealRuntime} {protocol : Protocol}
    {state : EntryState} (hprotocol : s.protocols.lookup id = some protocol)
    (htcp : .tcp ∈ protocolsFor protocol ->
      (s.tcp.lookup id).map tcpEntryKind.state = some state)
    (hudp : .udp ∈ protocolsFor protocol ->
      (s.udp.lookup id).map udpEntryKind.state = some state) :
    snapshot id s = .ok (some state.observed) := by
  unfold snapshot snapshotEntry
  rw [hprotocol]
  cases protocol with
  | tcp =>
      rcases Option.map_eq_some_iff.mp (htcp (by decide)) with ⟨entry, hentry, hstate⟩
      simp only [hentry, Option.map_some, hstate]
  | udp =>
      rcases Option.map_eq_some_iff.mp (hudp (by decide)) with ⟨entry, hentry, hstate⟩
      simp only [hentry, Option.map_some, hstate]
  | both =>
      rcases Option.map_eq_some_iff.mp (htcp (by decide)) with ⟨tcp, hentry, hstate⟩
      rcases Option.map_eq_some_iff.mp (hudp (by decide)) with ⟨udp, hentry', hstate'⟩
      simp only [hentry, hentry', Option.map_some, hstate, hstate']
      exact congrArg Except.ok (if_pos rfl)

/-- One id is opened for an allocation, shown anew or taken away; the others are shown as
before. -/
structure Shows (id : String) (found : Option Allocation) (s s' : RealRuntime) : Prop where
  protocol : s'.protocols.lookup id = found.map Allocation.protocol
  protocols : forall other, other ≠ id -> s'.protocols.lookup other = s.protocols.lookup other
  self : snapshot id s' =
    .ok (found.map (fun allocation => (entryStateFor allocation).observed))
  frame : forall other, other ≠ id -> snapshot other s' = snapshot other s

theorem shows_of_entries {allocation : Allocation} {s s' : RealRuntime}
    (hprotocol : s'.protocols.lookup allocation.id = some allocation.protocol)
    (hprotocols : forall other, other ≠ allocation.id ->
      s'.protocols.lookup other = s.protocols.lookup other)
    (htcp : .tcp ∈ protocolsFor allocation.protocol ->
      (s'.tcp.lookup allocation.id).map tcpEntryKind.state = some (entryStateFor allocation))
    (hudp : .udp ∈ protocolsFor allocation.protocol ->
      (s'.udp.lookup allocation.id).map udpEntryKind.state = some (entryStateFor allocation))
    (htcpOthers : forall other, other ≠ allocation.id ->
      s'.tcp.lookup other = s.tcp.lookup other)
    (hudpOthers : forall other, other ≠ allocation.id ->
      s'.udp.lookup other = s.udp.lookup other) :
    Shows allocation.id (some allocation) s s' where
  protocol := hprotocol
  protocols := hprotocols
  self := snapshot_of_entries hprotocol htcp hudp
  frame := fun other hother => snapshot_congr (hprotocols other hother)
    (htcpOthers other hother) (hudpOthers other hother)

theorem state_insert {entry : Type} {kind : EntryKind entry} {entries : Entries entry}
    {id : String} {e : entry} {state : EntryState} (h : kind.state e = state) :
    ((entries.insert id e).lookup id).map kind.state = some state := by
  rw [AList.lookup_insert, Option.map_some, h]

theorem openProtocols_shows {failure : RuntimeError} {binds : Binds}
    {failed : RuntimeError -> RuntimeError} {allocation : Allocation} {s : RealRuntime} :
    Ensures (openProtocols (tcpOpen failure binds) (udpOpen failure binds) failed allocation)
      (fun result s' => result = .ok () -> Shows allocation.id (some allocation) s s') s := by
  refine ensures_mono ?_ (openProtocols_opens failure binds failed allocation s)
  intro result s' hopens hok
  cases hopens with
  | refused => cases hok
  | undone _ => cases hok
  | tcp hprotocol =>
      apply shows_of_entries
      · rw [hprotocol]
        exact AList.lookup_insert _
      · intro other hother
        exact AList.lookup_insert_ne hother
      · intro _
        exact state_insert (tcpEntryKind.state_bound allocation)
      · intro hmem
        rw [hprotocol] at hmem
        exact absurd hmem (by decide)
      · intro other hother
        exact AList.lookup_insert_ne hother
      · intro other _
        rfl
  | udp hprotocol =>
      apply shows_of_entries
      · rw [hprotocol]
        exact AList.lookup_insert _
      · intro other hother
        exact AList.lookup_insert_ne hother
      · intro hmem
        rw [hprotocol] at hmem
        exact absurd hmem (by decide)
      · intro _
        exact state_insert (udpEntryKind.state_bound allocation)
      · intro other _
        rfl
      · intro other hother
        exact AList.lookup_insert_ne hother
  | both hprotocol =>
      apply shows_of_entries
      · rw [hprotocol]
        exact AList.lookup_insert _
      · intro other hother
        exact AList.lookup_insert_ne hother
      · intro _
        exact state_insert (tcpEntryKind.state_bound allocation)
      · intro _
        exact state_insert (udpEntryKind.state_bound allocation)
      · intro other hother
        exact AList.lookup_insert_ne hother
      · intro other hother
        exact AList.lookup_insert_ne hother

theorem update_shows {allocation : Allocation} {s : RealRuntime}
    (hopened : s.protocols.lookup allocation.id = some allocation.protocol) :
    Ensures (update allocation)
      (fun result s' => result = .ok () -> Shows allocation.id (some allocation) s s') s := by
  unfold update tcpUpdate udpUpdate
  cases hprotocol : allocation.protocol with
  | tcp =>
      rw [ensures_onTcp]
      have hcases : updateEntry tcpEntryKind allocation s.tcp = _ ∨ _ :=
        updateEntry_cases allocation s.tcp
      rcases hcases with hupdate | ⟨found, hupdate⟩
      · rw [hupdate]
        intro h
        cases h
      · rw [hupdate]
        intro _
        apply shows_of_entries
        · exact hopened
        · intro other _
          rfl
        · intro _
          exact state_insert (tcpEntryKind.state_retargeted allocation found)
        · intro hmem
          rw [hprotocol] at hmem
          exact absurd hmem (by decide)
        · intro other hother
          exact AList.lookup_insert_ne hother
        · intro other _
          rfl
  | udp =>
      rw [ensures_onUdp]
      have hcases : updateEntry udpEntryKind allocation s.udp = _ ∨ _ :=
        updateEntry_cases allocation s.udp
      rcases hcases with hupdate | ⟨found, hupdate⟩
      · rw [hupdate]
        intro h
        cases h
      · rw [hupdate]
        intro _
        apply shows_of_entries
        · exact hopened
        · intro other _
          rfl
        · intro hmem
          rw [hprotocol] at hmem
          exact absurd hmem (by decide)
        · intro _
          exact state_insert (udpEntryKind.state_retargeted allocation found)
        · intro other _
          rfl
        · intro other hother
          exact AList.lookup_insert_ne hother
  | both =>
      rw [ensures_bind, ensures_onTcp]
      have htcp : updateEntry tcpEntryKind (asProtocol allocation .tcp) s.tcp = _ ∨ _ :=
        updateEntry_cases (asProtocol allocation .tcp) s.tcp
      rcases htcp with hupdate | ⟨found, hupdate⟩
      · rw [hupdate]
        intro h
        cases h
      · rw [hupdate, continues_ok, ensures_onUdp]
        have hudp : updateEntry udpEntryKind (asProtocol allocation .udp) s.udp = _ ∨ _ :=
          updateEntry_cases (asProtocol allocation .udp) s.udp
        rcases hudp with hupdate' | ⟨found', hupdate'⟩
        · rw [hupdate']
          intro h
          cases h
        · rw [hupdate']
          intro _
          apply shows_of_entries
          · exact hopened
          · intro other _
            rfl
          · intro _
            exact state_insert (tcpEntryKind.state_retargeted _ found)
          · intro _
            exact state_insert (udpEntryKind.state_retargeted _ found')
          · intro other hother
            exact AList.lookup_insert_ne hother
          · intro other hother
            exact AList.lookup_insert_ne hother

theorem lookup_deleteEntry_of_ne {entry : Type} {id other : String} (entries : Entries entry)
    (h : other ≠ id) : (deleteEntry id entries).2.lookup other = entries.lookup other := by
  unfold deleteEntry
  cases entries.lookup id with
  | none => rfl
  | some found => exact AList.lookup_erase_ne h

theorem delete_shows (id : String) (s : RealRuntime) :
    Ensures (delete id) (fun _ s' => Shows id none s s') s := by
  unfold delete
  simp only [ensures_bind, ensures_removeProtocol, continues_ok, ensures_attempt,
    ensures_tcpDelete, ensures_udpDelete, ensures_pure]
  have hgone : (s.protocols.erase id).lookup id = none := AList.lookup_erase _ _
  constructor
  · exact hgone
  · intro other hother
    exact AList.lookup_erase_ne hother
  · unfold snapshot
    simp only [hgone, Option.map_none]
  · intro other hother
    apply snapshot_congr
    · exact AList.lookup_erase_ne hother
    · exact lookup_deleteEntry_of_ne s.tcp hother
    · exact lookup_deleteEntry_of_ne s.udp hother

end RealRuntime

/-!
# The projections
-/

def LiteralHost (allocation : Allocation) : Prop :=
  forall host, allocation.host = some host -> exists addr, IpAddr.fromStr host = some addr

theorem sameObserved_of_paired {allocation : Allocation} (hliteral : LiteralHost allocation)
    (hpaired : Paired allocation) :
    SameObserved (entryStateFor allocation).observed
        (NetlinkRuntime.observedStateFor allocation) ∧
      SameObserved (entryStateFor allocation).observed
        (InMemoryRuntime.observedStateFor allocation) ∧
      SameObserved (NetlinkRuntime.observedStateFor allocation)
        (InMemoryRuntime.observedStateFor allocation) := by
  unfold entryStateFor NetlinkRuntime.observedStateFor InMemoryRuntime.observedStateFor
    boundTarget
  cases hhost : allocation.host with
  | none =>
      cases hport : allocation.targetPort with
      | none =>
          refine ⟨?_, ?_, ?_⟩ <;> exact ⟨rfl, trivial, rfl, rfl, rfl⟩
      | some port =>
          unfold Paired at hpaired
          rw [hhost, hport] at hpaired
          cases hpaired
  | some host =>
      cases hport : allocation.targetPort with
      | none =>
          unfold Paired at hpaired
          rw [hhost, hport] at hpaired
          cases hpaired
      | some port =>
          rcases hliteral host hhost with ⟨addr, haddr⟩
          have hprinted : SameAddress (some host) (some addr.toString) :=
            ⟨addr, haddr, fromStr_toString addr⟩
          have hsame : SameAddress (some host) (some host) := ⟨addr, haddr, haddr⟩
          have hread : SameAddress (some addr.toString) (some host) :=
            ⟨addr, fromStr_toString addr, haddr⟩
          simp only [Option.bind_eq_bind, Option.bind_some, haddr]
          exact ⟨⟨rfl, hprinted, rfl, rfl, rfl⟩, ⟨rfl, hsame, rfl, rfl, rfl⟩,
            ⟨rfl, hread, rfl, rfl, rfl⟩⟩

/-- A missing half makes the proxy drop the other one as well. -/
theorem paired_of_sameObserved {allocation : Allocation}
    (h : SameObserved (entryStateFor allocation).observed
      (InMemoryRuntime.observedStateFor allocation)) : Paired allocation := by
  unfold entryStateFor InMemoryRuntime.observedStateFor at h
  unfold Paired
  cases hhost : allocation.host with
  | none =>
      cases hport : allocation.targetPort with
      | none => rfl
      | some port =>
          have hports := h.effectiveTargetPort
          simp only [hhost, hport] at hports
          cases hports
  | some host =>
      cases hport : allocation.targetPort with
      | none =>
          have hhosts := h.effectiveHost
          simp only [hhost, hport] at hhosts
          exact hhosts.elim
      | some port => rfl

/-!
# In step
-/

/-- The three runtimes hold the allocations of the in-memory one. -/
structure Runtimes.InStep (s : Runtimes) : Prop where
  protocols : forall id, s.real.protocols.lookup id =
    (s.memory.allocations.lookup id).map Allocation.protocol
  real : forall id, RealRuntime.snapshot id s.real =
    .ok ((s.memory.allocations.lookup id).map
      (fun allocation => (entryStateFor allocation).observed))
  netlink : SameLookups s.netlink.state.allocations s.memory.allocations
  fresh : s.netlink.state.staleError = none
  literal : forall id allocation, s.memory.allocations.lookup id = some allocation ->
    LiteralHost allocation

theorem snapshot_of_fresh {id : String} {s : NetlinkRuntime}
    (h : s.state.staleError = none) :
    NetlinkRuntime.snapshot id s =
      .ok ((s.state.allocations.lookup id).map NetlinkRuntime.observedStateFor) := by
  unfold NetlinkRuntime.snapshot
  simp only [h, ite_self]

theorem Runtimes.InStep.agree_iff {s : Runtimes} (h : s.InStep) :
    s.Agree <-> forall id allocation, s.memory.allocations.lookup id = some allocation ->
      Paired allocation := by
  constructor
  · intro hagree id allocation hlookup
    rcases hagree id with ⟨real, netlink, memory, hreal, _, hmemory, _, hsame, _⟩
    rw [h.real id, hlookup] at hreal
    unfold InMemoryRuntime.snapshot at hmemory
    rw [hlookup] at hmemory
    cases hreal
    cases hmemory
    cases hsame with
    | some hsame => exact paired_of_sameObserved hsame
  · intro hpaired id
    have hnetlink : NetlinkRuntime.snapshot id s.netlink = _ := snapshot_of_fresh h.fresh
    rw [h.netlink id] at hnetlink
    refine ⟨_, _, _, h.real id, hnetlink, rfl, ?_⟩
    cases hlookup : s.memory.allocations.lookup id with
    | none => exact ⟨Option.Rel.none, Option.Rel.none, Option.Rel.none⟩
    | some allocation =>
        rcases sameObserved_of_paired (h.literal id allocation hlookup)
          (hpaired id allocation hlookup) with ⟨hprinted, hsame, hread⟩
        exact ⟨Option.Rel.some hprinted, Option.Rel.some hsame, Option.Rel.some hread⟩

theorem inStep_new (bindHost : String) (kernel : Kernel) :
    (Runtimes.new bindHost kernel).InStep where
  protocols := fun _ => rfl
  real := fun _ => rfl
  netlink := fun _ => rfl
  fresh := rfl
  literal := by
    intro id allocation hlookup
    cases hlookup

/-- What a call leaves in a map of allocations. -/
def FacadeCall.stored (call : FacadeCall) (allocations : KeyMap String Allocation) :
    KeyMap String Allocation :=
  match call with
  | .create allocation => allocations.insert allocation.id allocation
  | .update allocation => allocations.insert allocation.id allocation
  | .restore allocation => allocations.insert allocation.id allocation
  | .delete id => allocations.erase id

theorem memory_perform {call : FacadeCall} {timeoutMs : UInt32} {s s' : InMemoryRuntime}
    (h : call.perform InMemoryRuntime.facade () timeoutMs s = (.ok (), s')) :
    s'.allocations = call.stored s.allocations := by
  cases call with
  | create allocation =>
      simp only [FacadeCall.perform, InMemoryRuntime.facade, InMemoryRuntime.create] at h
      split at h
      · cases h
      · split at h
        · cases h
        · cases h
          rfl
  | update allocation =>
      simp only [FacadeCall.perform, InMemoryRuntime.facade, InMemoryRuntime.update] at h
      split at h
      · cases h
      · cases h
        rfl
  | restore allocation =>
      simp only [FacadeCall.perform, InMemoryRuntime.facade, InMemoryRuntime.restore] at h
      split at h
      · cases h
      · cases h
        rfl
  | delete id =>
      simp only [FacadeCall.perform, InMemoryRuntime.facade, InMemoryRuntime.delete] at h
      split at h
      · cases h
      · cases h
        rfl

theorem fresh_of_replaces {reply : NftReply} {target kept : Allocations} {kernel : Kernel}
    {outcome : Except RuntimeError Unit × NetlinkRuntime} {s' : NetlinkRuntime}
    (h : NetlinkRuntime.Replaces reply target kept kernel outcome.1 outcome.2)
    (houtcome : outcome = (.ok (), s')) :
    SameLookups s'.state.allocations target ∧ s'.state.staleError = none := by
  subst houtcome
  cases reply with
  | accepted =>
      rcases h.accepted rfl with ⟨_, hsame, hfresh, _⟩
      exact ⟨hsame, hfresh⟩
  | refused error tookEffect => cases (h.refused error tookEffect rfl).1

theorem netlink_perform {call : FacadeCall} {reply : NftReply} {timeoutMs : UInt32}
    {s s' : NetlinkRuntime}
    (h : call.perform NetlinkRuntime.facade reply timeoutMs s = (.ok (), s')) :
    SameLookups s'.state.allocations (call.stored s.state.allocations) ∧
      s'.state.staleError = none := by
  cases call with
  | create allocation =>
      exact fresh_of_replaces (NetlinkRuntime.create_replaces reply allocation s) h
  | update allocation =>
      exact fresh_of_replaces (NetlinkRuntime.update_replaces reply allocation s) h
  | restore allocation =>
      exact fresh_of_replaces (NetlinkRuntime.restore_replaces reply allocation s) h
  | delete id => exact fresh_of_replaces (NetlinkRuntime.delete_replaces reply id s) h

/-- An update keeps the protocol the id was opened with. -/
theorem real_perform {call : FacadeCall} {binds : Binds} {timeoutMs : UInt32}
    {s s' : RealRuntime}
    (hopened : forall allocation, call = .update allocation ->
      s.protocols.lookup allocation.id = some allocation.protocol)
    (h : call.perform RealRuntime.facade binds timeoutMs s = (.ok (), s')) :
    exists id, RealRuntime.Shows id call.allocation s s' ∧
      forall allocations other, (call.stored allocations).lookup other =
        if other = id then call.allocation else allocations.lookup other := by
  cases call with
  | create allocation =>
      have hshows : Ensures (RealRuntime.create binds allocation) _ s :=
        RealRuntime.openProtocols_shows
      have hexec : (RealRuntime.create binds allocation).exec s = (.ok (), s') := h
      rw [ensures_exec, hexec] at hshows
      exact ⟨allocation.id, hshows rfl, fun _ _ => lookup_insert_eq _ _ _ _⟩
  | update allocation =>
      have hshows := RealRuntime.update_shows (hopened allocation rfl)
      have hexec : (RealRuntime.update allocation).exec s = (.ok (), s') := h
      rw [ensures_exec, hexec] at hshows
      exact ⟨allocation.id, hshows rfl, fun _ _ => lookup_insert_eq _ _ _ _⟩
  | restore allocation =>
      have hshows : Ensures (RealRuntime.restore binds allocation) _ s :=
        RealRuntime.openProtocols_shows
      have hexec : (RealRuntime.restore binds allocation).exec s = (.ok (), s') := h
      rw [ensures_exec, hexec] at hshows
      exact ⟨allocation.id, hshows rfl, fun _ _ => lookup_insert_eq _ _ _ _⟩
  | delete id =>
      have hshows := RealRuntime.delete_shows id s
      have hexec : (RealRuntime.delete id).exec s = (.ok (), s') := h
      rw [ensures_exec, hexec] at hshows
      exact ⟨id, hshows, fun _ _ => lookup_erase_eq _ _ _⟩

theorem Runtimes.next_eq_some {s s' : Runtimes} {shared : SharedCall}
    (h : s.next shared = some s') :
    shared.call.perform RealRuntime.facade shared.binds shared.timeoutMs s.real =
        (.ok (), s'.real) ∧
      shared.call.perform NetlinkRuntime.facade shared.reply shared.timeoutMs s.netlink =
        (.ok (), s'.netlink) ∧
      shared.call.perform InMemoryRuntime.facade () shared.timeoutMs s.memory =
        (.ok (), s'.memory) := by
  unfold Runtimes.next at h
  split at h
  · next hreal hnetlink hmemory =>
    cases h
    exact ⟨hreal, hnetlink, hmemory⟩
  · cases h

theorem Runtimes.InStep.next {s s' : Runtimes} {shared : SharedCall} (h : s.InStep)
    (hnext : Runtimes.properNext s shared = some s') :
    s'.InStep ∧ s'.memory.allocations = shared.call.stored s.memory.allocations := by
  rcases guarded_eq_some hnext with ⟨hproper, hstep⟩
  rcases Runtimes.next_eq_some hstep with ⟨hreal, hnetlink, hmemory⟩
  unfold Runtimes.proper at hproper
  rw [Bool.and_eq_true] at hproper
  have hopened : forall allocation, shared.call = .update allocation ->
      s.real.protocols.lookup allocation.id = some allocation.protocol := by
    intro allocation hcall
    have hpresent := hproper.2
    rw [hcall] at hpresent
    rcases (Option.any_eq_true _ _).mp hpresent with ⟨present, hlookup, hprotocol⟩
    rw [h.protocols, hlookup, Option.map_some, of_decide_eq_true hprotocol]
  have hliteral : forall allocation, shared.call.allocation = some allocation ->
      LiteralHost allocation := by
    intro allocation hallocation host hhost
    have hhosts := hproper.1
    rw [hallocation, Option.all_some, hhost, Option.all_some] at hhosts
    exact Option.isSome_iff_exists.mp hhosts
  have hstored := memory_perform hmemory
  rcases real_perform hopened hreal with ⟨id, hshows, hlookup⟩
  rcases netlink_perform hnetlink with ⟨hsame, hfresh⟩
  have hmemoryLookup : forall other, s'.memory.allocations.lookup other =
      if other = id then shared.call.allocation else s.memory.allocations.lookup other := by
    intro other
    rw [hstored]
    exact hlookup s.memory.allocations other
  refine ⟨?_, hstored⟩
  constructor
  · intro other
    rw [hmemoryLookup other]
    by_cases hother : other = id
    · rw [if_pos hother, hother]
      exact hshows.protocol
    · rw [if_neg hother, hshows.protocols other hother]
      exact h.protocols other
  · intro other
    rw [hmemoryLookup other]
    by_cases hother : other = id
    · rw [if_pos hother, hother]
      exact hshows.self
    · rw [if_neg hother, hshows.frame other hother]
      exact h.real other
  · intro other
    rw [hsame other, hlookup, hmemoryLookup other, h.netlink other]
  · exact hfresh
  · intro other allocation hfound
    rw [hmemoryLookup other] at hfound
    split at hfound
    · exact hliteral allocation hfound
    · exact h.literal other allocation hfound

/-!
# Runs
-/

/-- A stored allocation was handed over by a call, and every call's allocation is stored
right after it. -/
theorem mem_calls_of_stored {call : FacadeCall} {allocations : KeyMap String Allocation}
    {id : String} {allocation : Allocation}
    (h : (call.stored allocations).lookup id = some allocation) :
    call.allocation = some allocation ∨ allocations.lookup id = some allocation := by
  cases call with
  | create given | update given | restore given =>
      rw [FacadeCall.stored, lookup_insert_eq] at h
      split at h
      · exact Or.inl h
      · exact Or.inr h
  | delete gone =>
      rw [FacadeCall.stored, lookup_erase_eq] at h
      split at h
      · cases h
      · exact Or.inr h

theorem stored_allocation {call : FacadeCall} {allocation : Allocation}
    (h : call.allocation = some allocation) (allocations : KeyMap String Allocation) :
    (call.stored allocations).lookup allocation.id = some allocation := by
  cases call with
  | create given | update given | restore given =>
      cases h
      exact AList.lookup_insert _
  | delete gone => cases h

def CallsPaired (calls : List SharedCall) : Prop :=
  forall shared allocation, shared ∈ calls -> shared.call.allocation = some allocation ->
    Paired allocation

/-- The runtimes are in step, and what they hold was handed over in these calls. -/
def HeldFrom (calls : List SharedCall) (s : Runtimes) : Prop :=
  s.InStep ∧ forall id allocation, s.memory.allocations.lookup id = some allocation ->
    exists shared, shared ∈ calls ∧ shared.call.allocation = some allocation

theorem heldFrom_run {bindHost : String} {kernel : Kernel} {calls : List SharedCall}
    {s : Runtimes}
    (hrun : run Runtimes.properNext calls (Runtimes.new bindHost kernel) = some s) :
    HeldFrom calls s := by
  refine run_history hrun ?_ ?_
  · refine ⟨inStep_new bindHost kernel, ?_⟩
    intro id allocation hlookup
    cases hlookup
  · intro past shared between after hinv hnext
    rcases hinv.1.next hnext with ⟨hinStep, hstored⟩
    refine ⟨hinStep, ?_⟩
    intro id allocation hlookup
    rw [hstored] at hlookup
    rcases mem_calls_of_stored hlookup with hgiven | hkept
    · exact ⟨shared, by simp, hgiven⟩
    · rcases hinv.2 id allocation hkept with ⟨earlier, hearlier, hgiven⟩
      exact ⟨earlier, List.mem_append_left _ hearlier, hgiven⟩

/-- In a run of calls that all three runtimes carry out, their snapshots agree in every
state reached exactly when every allocation handed over has a host together with its
target port. -/
theorem snapshots_agree_iff_paired (bindHost : String) (kernel : Kernel)
    (calls : List SharedCall) (s : Runtimes)
    (hrun : run Runtimes.properNext calls (Runtimes.new bindHost kernel) = some s) :
    (forall past future between, calls = past ++ future ->
      run Runtimes.properNext past (Runtimes.new bindHost kernel) = some between ->
      between.Agree) <->
    CallsPaired calls := by
  constructor
  · intro hagree shared allocation hmem hgiven
    -- in the state right after the call the allocation is present
    rcases List.append_of_mem hmem with ⟨past, future, hcalls⟩
    rw [hcalls] at hrun
    rcases run_append_split hrun with ⟨between, hpast, hrest⟩
    rcases run_cons.mp hrest with ⟨after, hnext, _⟩
    have hafter : run Runtimes.properNext (past ++ [shared])
        (Runtimes.new bindHost kernel) = some after :=
      run_append hpast (run_cons.mpr ⟨after, hnext, rfl⟩)
    have hstates := hagree (past ++ [shared]) future after (by rw [hcalls]; simp) hafter
    rcases (heldFrom_run hpast).1.next hnext with ⟨hinStep, hstored⟩
    apply hinStep.agree_iff.mp hstates allocation.id allocation
    rw [hstored]
    exact stored_allocation hgiven between.memory.allocations
  · intro hpaired past future between hcalls hpast
    rcases heldFrom_run hpast with ⟨hinStep, hgiven⟩
    apply hinStep.agree_iff.mpr
    intro id allocation hlookup
    rcases hgiven id allocation hlookup with ⟨shared, hmem, hcall⟩
    apply hpaired shared allocation _ hcall
    rw [hcalls]
    exact List.mem_append_left future hmem

/-- Everything the operating system and the kernel are asked for is granted. -/
def grantedCall (call : FacadeCall) : SharedCall where
  call := call
  timeoutMs := 500
  binds := ⟨fun _ => true, fun _ => true⟩
  reply := .accepted

/-- A reserved port with a target port and no host, as the ports route creates it. -/
def hostlessCreate : SharedCall :=
  grantedCall (.create ⟨"alloc-1", .tcp, 10000, some 8080, none, 0, 0⟩)

def boundCreate : SharedCall :=
  grantedCall (.create ⟨"alloc-1", .both, 10000, some 8080, some "2001:DB8::0:1", 0, 0⟩)

def loopbackRuntimes : Runtimes :=
  Runtimes.new "127.0.0.1" ⟨[], none⟩

/-- The proxy reports no target port where the other two report the configured one. -/
theorem hostless_snapshots_differ :
    exists s, run Runtimes.properNext [hostlessCreate] loopbackRuntimes = some s ∧
      ¬ s.Agree := by
  refine ⟨_, rfl, ?_⟩
  intro hagree
  rcases hagree "alloc-1" with ⟨real, netlink, memory, hreal, _, hmemory, _, hsame, _⟩
  cases hreal
  cases hmemory
  cases hsame with
  | some hsame =>
      have hports : (none : Option UInt16) = some 8080 := hsame.effectiveTargetPort
      cases hports

theorem bound_snapshots_agree :
    exists s, run Runtimes.properNext [boundCreate] loopbackRuntimes = some s ∧ s.Agree := by
  refine ⟨_, rfl, ?_⟩
  have hpaired : CallsPaired [boundCreate] := by
    intro shared allocation hmem hgiven
    rw [List.mem_singleton.mp hmem] at hgiven
    cases hgiven
    rfl
  exact (snapshots_agree_iff_paired "127.0.0.1" ⟨[], none⟩ [boundCreate] _ rfl).mpr hpaired
    [boundCreate] [] _ rfl rfl

end Runtime
end Relayd
