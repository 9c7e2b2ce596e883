import Mathlib.Data.List.AList
import Relayd.Foundation.Fallible
import Relayd.Runtime.Facade

/-!
# Listener tables

The tcp and the udp runtime keep one listener for each allocation id and differ
only in what a listener entry holds.  Here an entry is what the facade sees of
it: the bound port and the state the data plane reads its target from.  The
sessions behind an entry belong to the listener machines.
-/

namespace Relayd
namespace Runtime

open Foundation

/-- Two addresses are one key when all their fields agree. -/
inductive SocketAddr where
  | v4 (ip : Ipv4Addr) (port : UInt16)
  | v6 (ip : Ipv6Addr) (port : UInt16) (flowinfo scopeId : UInt32)
deriving DecidableEq, Repr

def SocketAddr.new : IpAddr -> UInt16 -> SocketAddr
  | .v4 ip, port => .v4 ip port
  | .v6 ip, port => .v6 ip port 0 0

structure EntryState where
  effectiveHost : Option String
  effectiveTargetPort : Option UInt16
  runtimeStatus : RuntimeStatus
  errorKind : Option ErrorKind
  lastError : Option String
deriving DecidableEq, Repr

structure Target where
  host : String
  port : UInt16
deriving DecidableEq, Repr

def EntryState.target (state : EntryState) : Option Target :=
  match state.effectiveHost, state.effectiveTargetPort with
  | some host, some port => some ⟨host, port⟩
  | _, _ => none

def entryStateFor (allocation : Allocation) : EntryState :=
  match allocation.host, allocation.targetPort with
  | some host, some targetPort =>
      { effectiveHost := some host
        effectiveTargetPort := some targetPort
        runtimeStatus := .active
        errorKind := none
        lastError := none }
  | _, _ =>
      { effectiveHost := none
        effectiveTargetPort := none
        runtimeStatus := .rejectingNoHost
        errorKind := none
        lastError := none }

def EntryState.observed (state : EntryState) : ObservedState where
  effectiveTargetPort := state.effectiveTargetPort
  effectiveHost := state.effectiveHost
  runtimeStatus := state.runtimeStatus
  errorKind := state.errorKind
  lastError := state.lastError

/-- What a listener serves: its port and the target it forwards to. -/
structure Listener where
  port : UInt16
  host : Option String
  targetPort : Option UInt16
deriving DecidableEq, Repr

def EntryState.listener (port : UInt16) (state : EntryState) : Listener where
  port := port
  host := state.effectiveHost
  targetPort := state.effectiveTargetPort

/-- The entries of one runtime: how they are made for an allocation and how an
update gives them a new target, which never moves them to another port. -/
structure EntryKind (entry : Type) where
  protocol : Protocol
  port : entry -> UInt16
  state : entry -> EntryState
  bound : Allocation -> entry
  retargeted : Allocation -> entry -> entry
  port_bound : forall allocation, port (bound allocation) = allocation.port
  state_bound : forall allocation, state (bound allocation) = entryStateFor allocation
  port_retargeted : forall allocation e, port (retargeted allocation e) = port e
  state_retargeted : forall allocation e,
    state (retargeted allocation e) = entryStateFor allocation

abbrev Entries (entry : Type) := AList (fun _ : String => entry)

section Operations

variable {entry : Type} (kind : EntryKind entry) (bindHost : String)
  (binds : SocketAddr -> Bool)

def bindAddr (port : UInt16) : Except RuntimeError SocketAddr :=
  match IpAddr.fromStr bindHost with
  | some ip => .ok (SocketAddr.new ip port)
  | none => .error .runtimeCreateFailed

/-- Bind the port of an allocation; `failure` is what the caller reports. -/
def bindEntry (failure : RuntimeError) (allocation : Allocation) :
    Except RuntimeError entry :=
  match bindAddr bindHost allocation.port with
  | .error _ => .error failure
  | .ok addr => if binds addr then .ok (kind.bound allocation) else .error failure

/-- The body shared by create and restore. -/
def openEntry (failure : RuntimeError) (allocation : Allocation)
    (entries : Entries entry) : Except RuntimeError Unit × Entries entry :=
  if allocation.protocol ≠ kind.protocol then (.ok (), entries)
  else
    match bindEntry kind bindHost binds failure allocation with
    | .error error => (.error error, entries)
    | .ok opened => (.ok (), entries.insert allocation.id opened)

def updateEntry (allocation : Allocation) (entries : Entries entry) :
    Except RuntimeError Unit × Entries entry :=
  match entries.lookup allocation.id with
  | none => (.error .runtimeUpdateFailed, entries)
  | some found =>
      (.ok (), entries.insert allocation.id (kind.retargeted allocation found))

def deleteEntry (id : String) (entries : Entries entry) :
    Except RuntimeError Unit × Entries entry :=
  match entries.lookup id with
  | none => (.ok (), entries)
  | some _ => (.ok (), entries.erase id)

def snapshotEntry (id : String) (entries : Entries entry) :
    Except RuntimeError (Option ObservedState) :=
  .ok ((entries.lookup id).map (fun found => (kind.state found).observed))

end Operations

/-!
# The listeners of a table
-/

section Listeners

variable {entry : Type} {kind : EntryKind entry} {bindHost : String}
  {binds : SocketAddr -> Bool}

def EntryKind.listenerAt (kind : EntryKind entry) (id : String)
    (entries : Entries entry) : Option Listener :=
  (entries.lookup id).map (fun found => (kind.state found).listener (kind.port found))

/-- The listener an allocation is served by. -/
def listenerOf (allocation : Allocation) : Listener :=
  (entryStateFor allocation).listener allocation.port

@[simp] theorem listenerAt_insert_self (id : String) (e : entry)
    (entries : Entries entry) :
    kind.listenerAt id (entries.insert id e) =
      some ((kind.state e).listener (kind.port e)) := by
  unfold EntryKind.listenerAt
  rw [AList.lookup_insert, Option.map_some]

theorem listenerAt_insert_of_ne {id other : String} (h : other ≠ id) (e : entry)
    (entries : Entries entry) :
    kind.listenerAt other (entries.insert id e) = kind.listenerAt other entries := by
  unfold EntryKind.listenerAt
  rw [AList.lookup_insert_ne h]

/-- A bind that is refused leaves the table alone, one that is granted adds an entry. -/
theorem openEntry_cases (bindHost : String)
    (binds : SocketAddr -> Bool) (failure : RuntimeError) {allocation : Allocation}
    (hprotocol : allocation.protocol = kind.protocol) (entries : Entries entry) :
    openEntry kind bindHost binds failure allocation entries = (.error failure, entries) ∨
      openEntry kind bindHost binds failure allocation entries =
        (.ok (), entries.insert allocation.id (kind.bound allocation)) := by
  unfold openEntry bindEntry
  simp only [ne_eq, hprotocol, not_true, if_false]
  cases bindAddr bindHost allocation.port with
  | error error => exact Or.inl rfl
  | ok addr =>
      cases hbinds : binds addr with
      | false => exact Or.inl (by simp [hbinds])
      | true => exact Or.inr (by simp [hbinds])

theorem listener_bound (kind : EntryKind entry) (allocation : Allocation) :
    (kind.state (kind.bound allocation)).listener (kind.port (kind.bound allocation)) =
      listenerOf allocation := by
  rw [kind.state_bound, kind.port_bound]
  rfl

theorem updateEntry_of_listener {allocation : Allocation} {listener : Listener}
    {entries : Entries entry}
    (h : kind.listenerAt allocation.id entries = some listener) :
    exists entries', updateEntry kind allocation entries = (.ok (), entries') ∧
      kind.listenerAt allocation.id entries' =
        some ((entryStateFor allocation).listener listener.port) ∧
      forall other, other ≠ allocation.id ->
        kind.listenerAt other entries' = kind.listenerAt other entries := by
  unfold EntryKind.listenerAt at h
  rcases Option.map_eq_some_iff.mp h with ⟨found, hfound, hlistener⟩
  refine ⟨entries.insert allocation.id (kind.retargeted allocation found), ?_, ?_, ?_⟩
  · unfold updateEntry
    rw [hfound]
  · rw [listenerAt_insert_self, kind.state_retargeted, kind.port_retargeted,
      ← hlistener]
    rfl
  · intro other hother
    exact listenerAt_insert_of_ne hother _ _

theorem updateEntry_cases (allocation : Allocation) (entries : Entries entry) :
    updateEntry kind allocation entries = (.error .runtimeUpdateFailed, entries) ∨
      exists found, updateEntry kind allocation entries =
        (.ok (), entries.insert allocation.id (kind.retargeted allocation found)) := by
  unfold updateEntry
  cases entries.lookup allocation.id with
  | none => exact Or.inl rfl
  | some found => exact Or.inr ⟨found, rfl⟩

theorem deleteEntry_fst (id : String) (entries : Entries entry) :
    (deleteEntry id entries).1 = .ok () := by
  unfold deleteEntry
  split <;> rfl

theorem listenerAt_deleteEntry (id other : String) (entries : Entries entry) :
    kind.listenerAt other (deleteEntry id entries).2 =
      if other = id then none else kind.listenerAt other entries := by
  unfold deleteEntry EntryKind.listenerAt
  by_cases hother : other = id
  · rw [if_pos hother, hother]
    cases hfound : entries.lookup id with
    | none => rw [hfound, Option.map_none]
    | some found => rw [AList.lookup_erase, Option.map_none]
  · rw [if_neg hother]
    cases hfound : entries.lookup id with
    | none => rfl
    | some found => rw [AList.lookup_erase_ne hother]

end Listeners

end Runtime
end Relayd
