import Relayd.Foundation.KeyedMap
import Relayd.Foundation.Transition
import Relayd.Runtime.Real

/-!
# The status of an id that has both listeners

The snapshot of such an id is the state of its two listeners when they are equal in
every field, and degraded otherwise.  The calls write the same state to both of them,
but tcp sessions also write to it: a session that could not connect or copy leaves its
error there.
-/

namespace Relayd
namespace Runtime

open Foundation Fallible

def EntryState.recordError (state : EntryState) (message : String) : EntryState :=
  { state with
    errorKind := some .applyFailed
    lastError := some message }

namespace RealRuntime

/-- Calls from the service, and the one thing that traffic does to what a snapshot
shows.  The session may have been spawned before the last update. -/
inductive Event where
  | create (binds : Binds) (allocation : Allocation)
  | restore (binds : Binds) (allocation : Allocation)
  | update (allocation : Allocation)
  | delete (id : String)
  | sessionFails (id : String) (message : String)

def next (s : RealRuntime) : Event -> Option RealRuntime
  | .create binds allocation => some ((create binds allocation).exec s).2
  | .restore binds allocation => some ((restore binds allocation).exec s).2
  | .update allocation => some ((update allocation).exec s).2
  | .delete id => some ((delete id).exec s).2
  | .sessionFails id message =>
      match s.tcp.lookup id with
      | some entry =>
          some
            { s with
              tcp := s.tcp.insert id { entry with state := entry.state.recordError message } }
      | none => none

/-!
# The states that entries have
-/

/-- As an allocation with a target writes it, or one without. -/
inductive Written : EntryState -> Prop where
  | active (host : String) (port : UInt16) :
      Written ⟨some host, some port, .active, none, none⟩
  | rejecting : Written ⟨none, none, .rejectingNoHost, none, none⟩

theorem written_entryStateFor (allocation : Allocation) :
    Written (entryStateFor allocation) := by
  unfold entryStateFor
  split
  · exact .active _ _
  · exact .rejecting

inductive Marked : EntryState -> Prop where
  | written {state : EntryState} (h : Written state) : Marked state
  | failed {state : EntryState} (h : Written state) (message : String) :
      Marked (state.recordError message)

theorem Marked.recordError {state : EntryState} (h : Marked state) (message : String) :
    Marked (state.recordError message) := by
  cases h with
  | written h => exact .failed h message
  | failed h earlier => exact .failed h message

/-- Only tcp entries are ever marked with an error. -/
structure Shaped (s : RealRuntime) : Prop where
  tcp : forall id entry, s.tcp.lookup id = some entry -> Marked entry.state
  udp : forall id entry, s.udp.lookup id = some entry -> Written entry.state

theorem shaped_new (bindHost : String) : Shaped (new bindHost) where
  tcp := by
    intro id entry h
    cases h
  udp := by
    intro id entry h
    cases h

section Tables

variable {entry : Type} (kind : EntryKind entry) {good : entry -> Prop}
  {entries : Entries entry}

theorem every_insert (h : forall id e, entries.lookup id = some e -> good e) {id : String}
    {e : entry} (hgood : good e) :
    forall other e', (entries.insert id e).lookup other = some e' -> good e' := by
  intro other e' hlookup
  rw [lookup_insert_eq] at hlookup
  split at hlookup
  · cases hlookup
    exact hgood
  · exact h other e' hlookup

theorem every_openEntry (h : forall id e, entries.lookup id = some e -> good e)
    (hbound : forall allocation, good (kind.bound allocation)) (bindHost : String)
    (binds : SocketAddr -> Bool) (failure : RuntimeError) (allocation : Allocation) :
    forall id e, (openEntry kind bindHost binds failure allocation entries).2.lookup id =
      some e -> good e := by
  unfold openEntry
  split
  · exact h
  · split
    · exact h
    · next opened hopened =>
      apply every_insert h
      unfold bindEntry at hopened
      split at hopened
      · cases hopened
      · split at hopened
        · cases hopened
          exact hbound allocation
        · cases hopened

theorem every_updateEntry (h : forall id e, entries.lookup id = some e -> good e)
    (hretargeted : forall allocation e, good (kind.retargeted allocation e))
    (allocation : Allocation) :
    forall id e, (updateEntry kind allocation entries).2.lookup id = some e -> good e := by
  unfold updateEntry
  split
  · exact h
  · exact every_insert h (hretargeted allocation _)

theorem every_deleteEntry (h : forall id e, entries.lookup id = some e -> good e)
    (gone : String) :
    forall id e, (deleteEntry gone entries).2.lookup id = some e -> good e := by
  unfold deleteEntry
  split
  · exact h
  · intro id e hlookup
    simp only [lookup_erase_eq] at hlookup
    split at hlookup
    · cases hlookup
    · exact h id e hlookup

end Tables

theorem shaped_tcpOpen (failure : RuntimeError) (binds : Binds) (allocation : Allocation) :
    Keeps Shaped (tcpOpen failure binds allocation) := by
  intro s h
  exact
    { h with
      tcp := every_openEntry tcpEntryKind h.tcp
        (fun allocation => .written (written_entryStateFor allocation)) _ _ _ _ }

theorem shaped_udpOpen (failure : RuntimeError) (binds : Binds) (allocation : Allocation) :
    Keeps Shaped (udpOpen failure binds allocation) := by
  intro s h
  exact
    { h with
      udp := every_openEntry udpEntryKind h.udp
        (fun allocation => written_entryStateFor allocation) _ _ _ _ }

theorem shaped_tcpUpdate (allocation : Allocation) :
    Keeps Shaped (tcpUpdate allocation) := by
  intro s h
  exact
    { h with
      tcp := every_updateEntry tcpEntryKind h.tcp
        (fun allocation _ => .written (written_entryStateFor allocation)) _ }

theorem shaped_udpUpdate (allocation : Allocation) :
    Keeps Shaped (udpUpdate allocation) := by
  intro s h
  exact
    { h with
      udp := every_updateEntry udpEntryKind h.udp
        (fun allocation _ => written_entryStateFor allocation) _ }

theorem shaped_tcpDelete (id : String) : Keeps Shaped (tcpDelete id) := by
  intro s h
  exact { h with tcp := every_deleteEntry h.tcp id }

theorem shaped_udpDelete (id : String) : Keeps Shaped (udpDelete id) := by
  intro s h
  exact { h with udp := every_deleteEntry h.udp id }

theorem shaped_insertProtocol (id : String) (protocol : Protocol) :
    Keeps Shaped (insertProtocol id protocol) :=
  fun _ h => { h with }

theorem shaped_removeProtocol (id : String) : Keeps Shaped (removeProtocol id) :=
  fun _ h => { h with }

theorem shaped_openProtocols {openTcp openUdp : Allocation -> RealM Unit}
    (htcp : forall allocation, Keeps Shaped (openTcp allocation))
    (hudp : forall allocation, Keeps Shaped (openUdp allocation))
    (failed : RuntimeError -> RuntimeError) (allocation : Allocation) :
    Keeps Shaped (openProtocols openTcp openUdp failed allocation) := by
  unfold openProtocols
  split
  · exact keeps_bind (htcp _) (fun _ => shaped_insertProtocol _ _)
  · exact keeps_bind (hudp _) (fun _ => shaped_insertProtocol _ _)
  · apply keeps_bind (htcp _)
    intro _
    apply keeps_bind (keeps_attempt (hudp _))
    intro opened
    cases opened with
    | error error =>
        exact keeps_bind (keeps_attempt (shaped_tcpDelete _)) (fun _ => keeps_throw _ _)
    | ok _ => exact shaped_insertProtocol _ _

theorem shaped_update (allocation : Allocation) : Keeps Shaped (update allocation) := by
  unfold update
  split
  · exact shaped_tcpUpdate _
  · exact shaped_udpUpdate _
  · exact keeps_bind (shaped_tcpUpdate _) (fun _ => shaped_udpUpdate _)

theorem shaped_delete (id : String) : Keeps Shaped (delete id) := by
  unfold delete
  apply keeps_bind (shaped_removeProtocol id)
  intro _
  apply keeps_bind (keeps_attempt (shaped_tcpDelete id))
  intro tcp
  apply keeps_bind (keeps_attempt (shaped_udpDelete id))
  intro udp
  cases tcp with
  | error error => exact keeps_throw _ _
  | ok _ =>
      cases udp with
      | error error => exact keeps_throw _ _
      | ok _ => exact keeps_pure _ _

theorem shaped_next {s s' : RealRuntime} {event : Event} (h : Shaped s)
    (hnext : next s event = some s') : Shaped s' := by
  cases event with
  | create binds allocation =>
      cases hnext
      exact shaped_openProtocols (shaped_tcpOpen _ binds) (shaped_udpOpen _ binds) _ _ s h
  | restore binds allocation =>
      cases hnext
      exact shaped_openProtocols (shaped_tcpOpen _ binds) (shaped_udpOpen _ binds) _ _ s h
  | update allocation =>
      cases hnext
      exact shaped_update allocation s h
  | delete id =>
      cases hnext
      exact shaped_delete id s h
  | sessionFails id message =>
      simp only [next] at hnext
      split at hnext
      · next hlookup =>
        cases hnext
        exact { h with tcp := every_insert h.tcp ((h.tcp _ _ hlookup).recordError message) }
      · cases hnext

theorem shaped_reachable {bindHost : String} {s : RealRuntime}
    (h : Reachable next (new bindHost) s) : Shaped s :=
  h.invariant (shaped_new bindHost) (fun _ _ _ hshaped hnext => shaped_next hshaped hnext)

/-!
# The aggregate
-/

/-- The state that a snapshot shows for an id. -/
def statusAt (id : String) (s : RealRuntime) : Option RuntimeStatus :=
  match snapshot id s with
  | .ok (some observed) => some observed.runtimeStatus
  | _ => none

def degraded : RuntimeStatus -> Bool
  | .degradedBindFailed => true
  | .degradedApplyFailed => true
  | .degradedCloseFailed => true
  | _ => false

/-- Both listeners forward to the same target. -/
def BothActive (tcp : Option TcpEntry) (udp : Option UdpEntry) : Prop :=
  exists t u, tcp = some t ∧ udp = some u ∧
    t.state.runtimeStatus = .active ∧ u.state.runtimeStatus = .active ∧
    t.state.effectiveHost = u.state.effectiveHost ∧
    t.state.effectiveTargetPort = u.state.effectiveTargetPort

def BothRejecting (tcp : Option TcpEntry) (udp : Option UdpEntry) : Prop :=
  exists t u, tcp = some t ∧ udp = some u ∧
    t.state.runtimeStatus = .rejectingNoHost ∧ u.state.runtimeStatus = .rejectingNoHost

/-- The status is what the two listeners make it. -/
structure Faithful (tcp : Option TcpEntry) (udp : Option UdpEntry)
    (status : Option RuntimeStatus) : Prop where
  active : status = some .active <-> BothActive tcp udp
  rejecting : ¬ BothActive tcp udp ->
    (status = some .rejectingNoHost <-> BothRejecting tcp udp)
  other : ¬ BothActive tcp udp -> ¬ BothRejecting tcp udp ->
    tcp.isSome ∨ udp.isSome -> exists found, status = some found ∧ degraded found = true

/-- No failed session has left its error in a tcp listener that otherwise has the state
of the udp listener. -/
def Unmarked (tcp : Option TcpEntry) (udp : Option UdpEntry) : Prop :=
  forall t u, tcp = some t -> udp = some u -> t.state.target = u.state.target ->
    t.state.errorKind = none

def aggregateStatus (tcp : Option TcpEntry) (udp : Option UdpEntry) : Option RuntimeStatus :=
  (aggregateSnapshot (tcp.map (fun t => t.state.observed))
    (udp.map (fun u => u.state.observed))).map ObservedState.runtimeStatus

theorem statusAt_both {id : String} {s : RealRuntime}
    (h : s.protocols.lookup id = some .both) :
    statusAt id s = aggregateStatus (s.tcp.lookup id) (s.udp.lookup id) := by
  have hsnapshot : snapshot id s =
      .ok (aggregateSnapshot ((s.tcp.lookup id).map (fun t => t.state.observed))
        ((s.udp.lookup id).map (fun u => u.state.observed))) := by
    unfold snapshot
    rw [h]
    rfl
  unfold statusAt aggregateStatus
  rw [hsnapshot]
  cases aggregateSnapshot ((s.tcp.lookup id).map (fun t => t.state.observed))
      ((s.udp.lookup id).map (fun u => u.state.observed)) with
  | none => rfl
  | some observed => rfl

/-- With a listener missing the status is degraded, whatever the other one says. -/
theorem faithful_of_missing {tcp : Option TcpEntry} {udp : Option UdpEntry}
    (h : tcp = none ∨ udp = none) : Faithful tcp udp (aggregateStatus tcp udp) := by
  have hactive : ¬ BothActive tcp udp := by
    intro h
    rcases h with ⟨t, u, ht, hu, _⟩
    rcases h with h | h <;> simp [h] at ht hu
  have hrejecting : ¬ BothRejecting tcp udp := by
    intro h
    rcases h with ⟨t, u, ht, hu, _⟩
    rcases h with h | h <;> simp [h] at ht hu
  have hstatus : aggregateStatus tcp udp = none ∧ tcp = none ∧ udp = none ∨
      aggregateStatus tcp udp = some .degradedApplyFailed := by
    cases tcp with
    | none =>
        cases udp with
        | none => exact Or.inl ⟨rfl, rfl, rfl⟩
        | some u => exact Or.inr rfl
    | some t =>
        cases udp with
        | none => exact Or.inr rfl
        | some u => simp at h
  rcases hstatus with ⟨hstatus, htcp, hudp⟩ | hstatus
  · constructor
    · simp [hstatus, hactive]
    · simp [hstatus, hrejecting]
    · simp [htcp, hudp]
  · constructor
    · simp [hstatus, hactive]
    · simp [hstatus, hrejecting]
    · intro _ _ _
      exact ⟨_, hstatus, rfl⟩

/-!
# Two listeners
-/

section Compare

variable {tcp udp : EntryState}

theorem observed_eq_iff (htcp : Marked tcp) (hudp : Written udp) :
    tcp.observed = udp.observed <-> tcp.target = udp.target ∧ tcp.errorKind = none := by
  cases htcp with
  | written hwritten =>
      cases hwritten <;> cases hudp <;> simp [EntryState.observed, EntryState.target, and_comm]
  | failed hwritten message =>
      cases hwritten <;> cases hudp <;> simp [EntryState.observed, EntryState.recordError]

/-- Listeners with the same target have the same status. -/
theorem status_of_target (htcp : Marked tcp) (hudp : Written udp)
    (h : tcp.target = udp.target) :
    (tcp.runtimeStatus = .active ∧ udp.runtimeStatus = .active ∧
      tcp.effectiveHost = udp.effectiveHost ∧
      tcp.effectiveTargetPort = udp.effectiveTargetPort) ∨
    (tcp.runtimeStatus = .rejectingNoHost ∧ udp.runtimeStatus = .rejectingNoHost) := by
  cases htcp with
  | written hwritten =>
      cases hwritten <;> cases hudp <;> simp_all [EntryState.target]
  | failed hwritten message =>
      cases hwritten <;> cases hudp <;> simp_all [EntryState.target, EntryState.recordError]

theorem target_of_rejecting (htcp : Marked tcp) (hudp : Written udp)
    (ht : tcp.runtimeStatus = .rejectingNoHost) (hu : udp.runtimeStatus = .rejectingNoHost) :
    tcp.target = udp.target := by
  cases htcp with
  | written hwritten =>
      cases hwritten <;> cases hudp <;> simp_all
  | failed hwritten message =>
      cases hwritten <;> cases hudp <;> simp_all [EntryState.target, EntryState.recordError]

end Compare

theorem aggregateStatus_some (t : TcpEntry) (u : UdpEntry) :
    aggregateStatus (some t) (some u) =
      some (if t.state.observed = u.state.observed then t.state.runtimeStatus
        else .degradedApplyFailed) := by
  unfold aggregateStatus aggregateSnapshot
  simp only [Option.map_some]
  split <;> rfl

theorem faithful_iff {t : TcpEntry} {u : UdpEntry} (ht : Marked t.state)
    (hu : Written u.state) :
    Faithful (some t) (some u) (aggregateStatus (some t) (some u)) <->
      Unmarked (some t) (some u) := by
  rw [aggregateStatus_some]
  constructor
  · intro h t' u' ht' hu' htarget
    cases ht'
    cases hu'
    by_contra herror
    -- The states differ in the error alone, which is enough to be called degraded.
    have hdiffer : ¬ t.state.observed = u.state.observed :=
      fun hsame => herror ((observed_eq_iff ht hu).mp hsame).2
    rw [if_neg hdiffer] at h
    rcases status_of_target ht hu htarget with ⟨hta, hua, hhost, hport⟩ | ⟨htr, hur⟩
    · have hactive := h.active.mpr ⟨t, u, rfl, rfl, hta, hua, hhost, hport⟩
      cases hactive
    · have hnot : ¬ BothActive (some t) (some u) := by
        intro h
        rcases h with ⟨t', u', ht', _, hta, _⟩
        cases ht'
        rw [htr] at hta
        cases hta
      have hrejecting := (h.rejecting hnot).mpr ⟨t, u, rfl, rfl, htr, hur⟩
      cases hrejecting
  · intro h
    by_cases htarget : t.state.target = u.state.target
    · rw [if_pos ((observed_eq_iff ht hu).mpr ⟨htarget, h t u rfl rfl htarget⟩)]
      rcases status_of_target ht hu htarget with ⟨hta, hua, hhost, hport⟩ | ⟨htr, hur⟩
      · have hactive : BothActive (some t) (some u) :=
          ⟨t, u, rfl, rfl, hta, hua, hhost, hport⟩
        rw [hta]
        exact ⟨iff_of_true rfl hactive, fun hnot => absurd hactive hnot,
          fun hnot => absurd hactive hnot⟩
      · have hrejecting : BothRejecting (some t) (some u) := ⟨t, u, rfl, rfl, htr, hur⟩
        have hnot : ¬ BothActive (some t) (some u) := by
          intro h
          rcases h with ⟨t', u', ht', _, hta, _⟩
          cases ht'
          rw [htr] at hta
          cases hta
        rw [htr]
        exact ⟨iff_of_false (by simp) hnot, fun _ => iff_of_true rfl hrejecting,
          fun _ hnone => absurd hrejecting hnone⟩
    · rw [if_neg (fun hsame => htarget ((observed_eq_iff ht hu).mp hsame).1)]
      have hnot : ¬ BothActive (some t) (some u) := by
        intro h
        rcases h with ⟨t', u', ht', hu', _, _, hhost, hport⟩
        cases ht'
        cases hu'
        apply htarget
        unfold EntryState.target
        rw [hhost, hport]
      have hnone : ¬ BothRejecting (some t) (some u) := by
        intro h
        rcases h with ⟨t', u', ht', hu', htr, hur⟩
        cases ht'
        cases hu'
        exact htarget (target_of_rejecting ht hu htr hur)
      exact ⟨iff_of_false (by simp) hnot, fun _ => iff_of_false (by simp) hnone,
        fun _ _ _ => ⟨_, rfl, rfl⟩⟩

/-- The aggregate is what the two listeners make it, unless a failed session has left
its error in the tcp listener. -/
theorem aggregate_faithful_iff {bindHost : String} {s : RealRuntime} {id : String}
    (h : Reachable next (new bindHost) s) (hboth : s.protocols.lookup id = some .both) :
    Faithful (s.tcp.lookup id) (s.udp.lookup id) (statusAt id s) <->
      Unmarked (s.tcp.lookup id) (s.udp.lookup id) := by
  have hshaped := shaped_reachable h
  rw [statusAt_both hboth]
  cases htcp : s.tcp.lookup id with
  | none =>
      apply iff_of_true (faithful_of_missing (Or.inl rfl))
      intro t u ht
      cases ht
  | some t =>
      cases hudp : s.udp.lookup id with
      | none =>
          apply iff_of_true (faithful_of_missing (Or.inr rfl))
          intro t u _ hu
          cases hu
      | some u => exact faithful_iff (hshaped.tcp id t htcp) (hshaped.udp id u hudp)

def sharedAllocation : Allocation where
  id := "game"
  protocol := .both
  port := 27015
  targetPort := some 27015
  host := some "10.0.0.1"
  createdAtMs := 0
  updatedAtMs := 0

def allBinds : Binds := ⟨fun _ => true, fun _ => true⟩

theorem aggregate_faithful_when_created :
    exists s, run next [.create allBinds sharedAllocation] (new "127.0.0.1") = some s ∧
      s.protocols.lookup "game" = some .both ∧ statusAt "game" s = some .active ∧
      Faithful (s.tcp.lookup "game") (s.udp.lookup "game") (statusAt "game" s) := by
  refine ⟨_, rfl, rfl, rfl, ?_⟩
  refine (aggregate_faithful_iff (Reachable.of_run [.create allBinds sharedAllocation] rfl)
    rfl).mpr ?_
  intro t u ht _ _
  cases ht
  rfl

/-- A client comes while the tcp upstream refuses connections. -/
theorem failed_connect_degrades_aggregate :
    exists s, run next
        [.create allBinds sharedAllocation, .sessionFails "game" "connection refused"]
        (new "127.0.0.1") = some s ∧
      s.protocols.lookup "game" = some .both ∧
      BothActive (s.tcp.lookup "game") (s.udp.lookup "game") ∧
      statusAt "game" s = some .degradedApplyFailed := by
  exact ⟨_, rfl, rfl, ⟨_, _, rfl, rfl, rfl, rfl, rfl, rfl⟩, rfl⟩

end RealRuntime
end Runtime
end Relayd
