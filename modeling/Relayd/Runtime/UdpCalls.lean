import Mathlib.Algebra.BigOperators.Group.Finset.Piecewise
import Mathlib.Data.Fintype.Basic
import Relayd.Runtime.UdpMoves

/-!
# A udp listener and the calls on it

Nothing in the entry keeps two calls on it apart.  Here any number of updates,
deletions and shutdowns work on one entry at the same time, each at its own place
in its code, while the loops run and the runtime may be dropped under them.
-/

namespace Relayd
namespace Runtime
namespace Udp

open Foundation

/-- `calls` says where each caller has come to; the runtime has been dropped when
`dropped` is set. -/
structure Attended (caller : Type) where
  listener : Listener
  calls : caller -> ControlPhase
  dropped : Bool

/-- A caller, or one of the loops, takes a step; or the entry is stopped with the runtime
and an abort of one of its loops takes effect.  `unlocked` lists the sessions whose
`reply_task` is not locked at that moment. -/
inductive Move (caller : Type) where
  | step (call : caller) (step : Step)
  | stopBestEffort (unlocked : List Nat)
  | receiveAborted
  | cleanupAborted

/-- `stop_entry_best_effort`, when the lock on the sessions is free. -/
def Listener.stopBestEffort (unlocked : List Nat) (s : Listener) : Listener :=
  let stopped := s.entry.table.ids.filter (fun id => id ∈ s.handles ∧ id ∈ unlocked)
  { s with
    entry := Listener.closeEach s.entry.drain.1 s.entry.drain.2
    handles := s.handles.filter (fun id => id ∉ stopped)
    aborted := stopped ++ s.aborted }

namespace Attended

variable {caller : Type}

def bound (allocation : Allocation) (maxSessions : Nat) : Attended caller where
  listener := Listener.bound allocation maxSessions
  calls := fun _ => .idle
  dropped := false

def table (s : Attended caller) : SessionTable := s.listener.entry.table

/-- The listener as the given caller meets it. -/
def facing (s : Attended caller) (call : caller) : Listener :=
  { s.listener with control := s.calls call }

variable [DecidableEq caller]

def next (s : Attended caller) : Move caller -> Option (Attended caller)
  | .step call step =>
      (Udp.next (s.facing call) step).map (fun listener =>
        { s with
          listener := listener
          calls := Function.update s.calls call listener.control })
  | .stopBestEffort unlocked =>
      some { s with listener := s.listener.stopBestEffort unlocked, dropped := true }
  | .receiveAborted =>
      if s.dropped then some { s with listener := { s.listener with receive := .ended } }
      else none
  | .cleanupAborted =>
      if s.dropped then some { s with listener := { s.listener with cleanup := .ended } }
      else none

end Attended

/-!
# Sessions by their number
-/

namespace SessionTable

theorem mem_ids {table : SessionTable} {id : Nat} :
    id ∈ table.ids <-> exists addr session, table.lookup addr = some session ∧
      session.id = id := by
  unfold ids
  rw [List.mem_map]
  constructor
  · intro h
    rcases h with ⟨session, hsession, hid⟩
    rcases mem_values.mp hsession with ⟨addr, hlookup⟩
    exact ⟨addr, session, hlookup, hid⟩
  · intro h
    rcases h with ⟨addr, session, hlookup, hid⟩
    exact ⟨session, mem_values.mpr ⟨addr, hlookup⟩, hid⟩

theorem nodup_ids (table : SessionTable) : table.ids.Nodup := by
  apply List.Nodup.map_on
  · intro session hsession other hother hid
    rcases mem_values.mp hsession with ⟨addr, hlookup⟩
    rcases mem_values.mp hother with ⟨addr', hlookup'⟩
    exact table.distinct addr addr' session other hlookup hlookup' hid
  · exact table.keyed.nodup_values

theorem lt_of_mem_ids {table : SessionTable} {id : Nat} (h : id ∈ table.ids) :
    id < table.nextSession := by
  rcases mem_ids.mp h with ⟨addr, session, hlookup, rfl⟩
  exact table.numbered addr session hlookup

theorem ids_clear (table : SessionTable) : table.clear.ids = [] := rfl

/-- The session that stood under an address is in the table no longer. -/
theorem not_mem_ids_erase {table : SessionTable} {addr : SocketAddr} {session : UdpSession}
    (h : table.lookup addr = some session) : session.id ∉ (table.erase addr).ids := by
  intro hmem
  rcases mem_ids.mp hmem with ⟨other, found, hlookup, hid⟩
  rw [lookup_erase] at hlookup
  split at hlookup
  · cases hlookup
  · next hne =>
    have hsame := table.distinct other addr found session hlookup h hid
    rw [hsame] at hlookup
    exact hne ((lookup_clientAddr hlookup).symm.trans (lookup_clientAddr h))

theorem not_mem_ids_insert {table : SessionTable} {addr : SocketAddr} {session : UdpSession}
    (h : table.lookup addr = some session) (generation : UInt64) (upstream : Target) :
    session.id ∉ (table.insert addr generation upstream).ids := by
  intro hmem
  rcases mem_ids.mp hmem with ⟨other, found, hlookup, hid⟩
  rw [lookup_insert] at hlookup
  split at hlookup
  · cases hlookup
    exact absurd hid (Nat.ne_of_gt (table.numbered addr session h))
  · next hne =>
    have hsame := table.distinct other addr found session hlookup h hid
    rw [hsame] at hlookup
    exact hne ((lookup_clientAddr hlookup).symm.trans (lookup_clientAddr h))

end SessionTable

/-- Only new sessions enter the table. -/
structure Renews (table table' : SessionTable) : Prop where
  next : table.nextSession <= table'.nextSession
  kept : forall id, id ∈ table'.ids -> id ∈ table.ids ∨ table.nextSession <= id

theorem renews_of_eq {table table' : SessionTable} (h : table' = table) :
    Renews table table' := by
  rw [h]
  exact ⟨Nat.le_refl _, fun _ hid => Or.inl hid⟩

theorem renews_clear (table : SessionTable) : Renews table table.clear :=
  ⟨Nat.le_refl _, fun _ hid => absurd hid List.not_mem_nil⟩

theorem Moves.renews {s s' : Listener} {step : Step} (h : Moves s step s') :
    Renews s.entry.table s'.entry.table := by
  cases h with
  | plain _ htable => exact renews_of_eq htable
  | recorded _ htable => exact renews_of_eq htable
  | drained _ htable =>
      rw [htable]
      exact renews_clear _
  | taken _ _ _ htable =>
      rw [htable]
      refine ⟨Nat.le_refl _, ?_⟩
      intro id hid
      rcases SessionTable.mem_ids.mp hid with ⟨addr, session, hlookup, rfl⟩
      rw [SessionTable.lookup_erase] at hlookup
      split at hlookup
      · cases hlookup
      · exact Or.inl (SessionTable.mem_ids.mpr ⟨addr, session, hlookup, rfl⟩)
  | inserted _ _ _ htable =>
      rw [htable]
      refine ⟨Nat.le_succ _, ?_⟩
      intro id hid
      rcases SessionTable.mem_ids.mp hid with ⟨addr, session, hlookup, rfl⟩
      rw [SessionTable.lookup_insert] at hlookup
      split at hlookup
      · cases hlookup
        exact Or.inr (Nat.le_refl _)
      · exact Or.inl (SessionTable.mem_ids.mpr ⟨addr, session, hlookup, rfl⟩)

end Udp
end Runtime
end Relayd
