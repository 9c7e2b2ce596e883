import Relayd.Runtime.UdpCalls

/-!
# The session cap

The receive loop checks the cap before it creates a session and inserts the session
later, without another check.  Nobody else inserts, so the room it found is still
there when it comes back; and under an address that is taken the new session replaces
the old one.
-/

namespace Relayd
namespace Runtime
namespace Udp

open Foundation

namespace SessionTable

theorem size_erase_le (table : SessionTable) (addr : SocketAddr) :
    (table.erase addr).size <= table.size :=
  (List.kerase_sublist addr table.sessions.entries).length_le

theorem size_insert_le (table : SessionTable) (addr : SocketAddr) (generation : UInt64)
    (upstream : Target) :
    (table.insert addr generation upstream).size <= table.size + 1 :=
  Nat.succ_le_succ (size_erase_le table addr)

theorem size_clear (table : SessionTable) : table.clear.size = 0 := rfl

/-- A client address stands in the table at most once. -/
theorem nodup_clientAddr (table : SessionTable) :
    ((values table.sessions).map UdpSession.clientAddr).Nodup := by
  apply List.Nodup.map_on
  · intro session hsession other hother haddr
    rcases mem_values.mp hsession with ⟨addr, hlookup⟩
    rcases mem_values.mp hother with ⟨addr', hlookup'⟩
    have hsame : addr = addr' := by
      rw [<- table.keyed addr session hlookup, <- table.keyed addr' other hlookup', haddr]
    rw [hsame, hlookup'] at hlookup
    exact (Option.some.inj hlookup).symm
  · exact table.keyed.nodup_values

end SessionTable

/-- The table keeps to the cap, and has room for the session being created. -/
structure Capped (entry : ListenerEntry) (receive : ReceivePhase) : Prop where
  size : entry.table.size <= entry.maxSessions
  room : forall batch addr, receive = .creating batch addr ->
    entry.table.size < entry.maxSessions

theorem Capped.shrunk {entry entry' : ListenerEntry} {receive receive' : ReceivePhase}
    (h : Capped entry receive) (hmax : entry'.maxSessions = entry.maxSessions)
    (hsize : entry'.table.size <= entry.table.size)
    (hcreating : forall batch addr, receive' = .creating batch addr ->
      receive = .creating batch addr ∨ entry.table.size < entry.maxSessions) :
    Capped entry' receive' := by
  have hcap := h.size
  constructor
  · lia
  · intro batch addr hreceive
    rcases hcreating batch addr hreceive with hbefore | hroom
    · have hroom := h.room batch addr hbefore
      lia
    · lia

theorem capped_moved {s s' : Listener} {step : Step} (h : Capped s.entry s.receive)
    (hmoved : Moved s step s') : Capped s'.entry s'.receive := by
  have hmax := hmoved.framed.maxSessions
  have hcreating := hmoved.framed.creating
  cases hmoved.moves with
  | plain _ htable => exact h.shrunk hmax (by rw [htable]) hcreating
  | recorded _ htable => exact h.shrunk hmax (by rw [htable]) hcreating
  | taken _ _ _ htable =>
      apply h.shrunk hmax _ hcreating
      rw [htable]
      exact SessionTable.size_erase_le _ _
  | drained _ htable =>
      apply h.shrunk hmax _ hcreating
      rw [htable, SessionTable.size_clear]
      exact Nat.zero_le _
  | @inserted batch addr _ hreceive hcreated htable =>
      -- the room that the lookup found is still there
      have hroom := h.room _ _ hreceive
      have hinsert := SessionTable.size_insert_le s.entry.table addr batch.generation
        batch.target
      constructor
      · rw [htable]
        lia
      · intro batch' addr' hcreating'
        exact absurd hcreating' (hcreated batch' addr')

namespace Attended

variable {caller : Type}

structure Within (maxSessions : Nat) (s : Attended caller) : Prop where
  keyed : Keyed (fun task => task.session.id) s.listener.replies
  maxSessions : s.listener.entry.maxSessions = maxSessions
  capped : Capped s.listener.entry s.listener.receive

theorem within_bound (allocation : Allocation) (maxSessions : Nat) :
    Within maxSessions (bound allocation maxSessions : Attended caller) where
  keyed := keyed_empty _
  maxSessions := rfl
  capped := ⟨Nat.zero_le _, fun _ _ hwaiting => nomatch hwaiting⟩

variable [DecidableEq caller]

theorem within_next {maxSessions : Nat} {s s' : Attended caller} {move : Move caller}
    (h : Within maxSessions s) (hnext : s.next move = some s') : Within maxSessions s' := by
  cases move with
  | step call step =>
      rcases Option.map_eq_some_iff.mp hnext with ⟨listener, hstep, rfl⟩
      have hmoved := moved_next (s := s.facing call) h.keyed hstep
      have hcapped : Capped (s.facing call).entry (s.facing call).receive := h.capped
      constructor
      · exact hmoved.framed.keyed h.keyed
      · exact hmoved.framed.maxSessions.trans h.maxSessions
      · exact capped_moved hcapped hmoved
  | stopBestEffort unlocked =>
      cases hnext
      have htable := (shrinks_closeEach s.listener.entry.drain.1 s.listener.entry.drain.2).2
      have hmax := closeEach_maxSessions s.listener.entry.drain.1 s.listener.entry.drain.2
      constructor
      · exact h.keyed
      · exact hmax.trans h.maxSessions
      · refine h.capped.shrunk hmax ?_ (fun batch addr => Or.inl)
        show (Listener.closeEach _ _).table.size <= _
        rw [htable]
        exact Nat.zero_le _
  | receiveAborted =>
      simp only [next] at hnext
      split at hnext
      · cases hnext
        exact ⟨h.keyed, h.maxSessions, h.capped.size, fun _ _ hended => nomatch hended⟩
      · cases hnext
  | cleanupAborted =>
      simp only [next] at hnext
      split at hnext
      · cases hnext
        exact ⟨h.keyed, h.maxSessions, h.capped⟩
      · cases hnext

theorem session_cap {allocation : Allocation} {maxSessions : Nat} {s : Attended caller}
    (h : Reachable next (bound allocation maxSessions) s) :
    s.table.size <= maxSessions ∧
      ((values s.table.sessions).map UdpSession.clientAddr).Nodup := by
  have hwithin : Within maxSessions s :=
    h.invariant (within_bound allocation maxSessions)
      (fun _ _ _ hbefore hnext => within_next hbefore hnext)
  constructor
  · have hsize := hwithin.capped.size
    rw [hwithin.maxSessions] at hsize
    exact hsize
  · exact SessionTable.nodup_clientAddr s.table

/-- A full table, and a client that finds no place in it. -/
def filledMoves : List (Move Unit) :=
  [.step () .readState, .step () (.lookupSession firstClient), .step () .insertSession,
    .step () .spawnReplyLoop, .step () .storeHandle,
    .step () (.lookupSession (.v4 ⟨127, 0, 0, 1⟩ 4001))]

def filledTable : Option (Attended Unit) :=
  run next filledMoves (bound (forwardedAllocation (some "10.0.0.1")) 1)

theorem session_cap_filled : exists s, filledTable = some s ∧
    s.table.lookup firstClient = some firstSession ∧ s.table.size = 1 ∧
      (s.table.size <= 1 ∧ ((values s.table.sessions).map UdpSession.clientAddr).Nodup) := by
  have hsome : filledTable.isSome = true := by rfl
  have hrun := Option.eq_some_of_isSome hsome
  refine ⟨filledTable.get hsome, hrun, by rfl, by rfl, ?_⟩
  exact session_cap (Reachable.of_run filledMoves hrun)

end Attended

end Udp
end Runtime
end Relayd
