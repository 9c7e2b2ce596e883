import Relayd.Runtime.UdpCalls

/-!
# Removal of sessions

A session leaves the table through expiry, an error on either side, its replacement by
a newer session of the same client, or the drain of an update, a deletion or a
shutdown.  Whoever takes it out is also the one to record it as removed; the others
find it gone and leave the table alone.
-/

namespace Relayd
namespace Runtime
namespace Udp

open Foundation

/-- How a removal is recorded: by `record_removal` with its reason, or by the count of
replaced sessions. -/
inductive Removal where
  | expired
  | dropReply
  | error
  | replaced
deriving DecidableEq, Repr

/-- What the step that takes a teardown further records when it comes to that. -/
def Step.removal : Step -> Removal
  | .cleanupRemove => .expired
  | .closeSession => .dropReply
  | .replaceSession => .replaced
  | _ => .error

namespace Attended

section Observers

variable {caller : Type}

/-- The sessions that are in the table before a move and not after it. -/
def departures (s s' : Attended caller) : List Nat :=
  s.table.ids.filter (fun id => id ∉ s'.table.ids)

/-- `counts` says whether a caller that stops the entry counts the sessions as dropped
replies, as a deletion does and a shutdown does not. -/
def skipsRecord (counts : caller -> Bool) (s : Attended caller) (call : caller) : Bool :=
  match s.calls call with
  | .closing true _ => !counts call
  | _ => false

def recordedBy (counts : caller -> Bool) (s : Attended caller) :
    Move caller -> List (Nat × Removal)
  | .step call step =>
      match tearing (s.facing call) step with
      | some ⟨session, .closing⟩ =>
          if step = .closeSession ∧ s.skipsRecord counts call then []
          else [(session.id, step.removal)]
      | _ => []
  | _ => []

/-- The session that a move is about to take out of the table or is taking down. -/
def requested (s : Attended caller) : Move caller -> Option UdpSession
  | .step call step =>
      match step, s.listener.receive with
      | .insertSession, .creating _ addr => s.table.lookup addr
      | _, _ => (tearing (s.facing call) step).map Teardown.session
  | _ => none

theorem count_departures {s s' : Attended caller} {id : Nat} (hbefore : id ∈ s.table.ids)
    (hafter : id ∉ s'.table.ids) : 1 <= (departures s s').count id := by
  apply List.one_le_count_iff.mpr
  apply List.mem_filter.mpr
  exact ⟨hbefore, decide_eq_true hafter⟩

theorem departures_nodup (s s' : Attended caller) : (departures s s').Nodup :=
  s.table.nodup_ids.filter _

theorem departures_clear {s s' : Attended caller} (h : s'.table = s.table.clear) :
    departures s s' = s.table.ids := by
  unfold departures
  rw [h, SessionTable.ids_clear]
  simp

theorem recordedBy_eq_nil {counts : caller -> Bool} {s : Attended caller} {call : caller}
    {step : Step} (h : forall teardown, tearing (s.facing call) step = some teardown ->
      teardown.stage ≠ .closing) : recordedBy counts s (.step call step) = [] := by
  unfold recordedBy
  simp only
  split
  · next session htearing => exact absurd rfl (h _ htearing)
  · rfl

theorem count_recordedBy_le (counts : caller -> Bool) (s : Attended caller) (call : caller)
    (step : Step) {session : UdpSession}
    (h : tearing (s.facing call) step = some ⟨session, .closing⟩) (id : Nat) :
    ((recordedBy counts s (.step call step)).map Prod.fst).count id <=
      if id = session.id then 1 else 0 := by
  unfold recordedBy
  simp only [h]
  split
  · exact Nat.zero_le _
  · rw [List.map_singleton, List.count_singleton]
    by_cases hid : id = session.id
    · simp [hid]
    · simp [hid, Ne.symm hid]

end Observers

/-!
# What is due over all calls
-/

section Balance

variable {caller : Type} [Fintype caller]

def due (s : Attended caller) (id : Nat) : Nat :=
  ({ s.listener with control := .idle } : Listener).due id +
    ∑ call, (s.calls call).due id

theorem due_bound (allocation : Allocation) (maxSessions : Nat) (id : Nat) :
    (bound allocation maxSessions : Attended caller).due id = 0 := by
  show 0 + ∑ call : caller, 0 = 0
  rw [Finset.sum_const_zero, Nat.zero_add]

variable [DecidableEq caller]

theorem sum_update (f : caller -> Nat) (call : caller) (n : Nat) :
    ∑ other, Function.update f call n other + f call = ∑ other, f other + n := by
  rw [Finset.sum_update_of_mem (Finset.mem_univ call),
    <- Finset.add_sum_erase Finset.univ f (Finset.mem_univ call),
    Finset.sdiff_singleton_eq_erase]
  lia

/-- What a caller's step makes due is due on the whole. -/
theorem due_step (s : Attended caller) (call : caller) (listener : Listener) (id : Nat) :
    due { s with
        listener := listener
        calls := Function.update s.calls call listener.control } id +
      (s.facing call).due id = s.due id + listener.due id := by
  have hsum := sum_update (fun other => (s.calls other).due id) call (listener.control.due id)
  have hupdate : (fun other => (Function.update s.calls call listener.control other).due id) =
      Function.update (fun other => (s.calls other).due id) call (listener.control.due id) := by
    funext other
    by_cases hother : other = call
    · rw [hother, Function.update_self, Function.update_self]
    · rw [Function.update_of_ne hother, Function.update_of_ne hother]
  unfold due facing
  rw [hupdate]
  simp only [Listener.due, ControlPhase.due, ControlPhase.pending, List.map_nil,
    List.sum_nil] at hsum ⊢
  lia

/-- Every record that is made or becomes due is that of a session that was due before
or leaves the table in the move. -/
theorem balance_step (counts : caller -> Bool) {s s' : Attended caller} {call : caller}
    {step : Step} (hkeyed : Keyed (fun task => task.session.id) s.listener.replies)
    (hnext : s.next (.step call step) = some s') (id : Nat) :
    s'.due id + ((recordedBy counts s (.step call step)).map Prod.fst).count id <=
      s.due id + (departures s s').count id := by
  rcases Option.map_eq_some_iff.mp hnext with ⟨listener, hstep, rfl⟩
  have hcalls := due_step s call listener id
  cases (moved_next (s := s.facing call) hkeyed hstep).moves with
  | plain htearing _ hdue =>
      have hid := hdue id
      rw [recordedBy_eq_nil htearing]
      simp only [List.map_nil, List.count_nil]
      lia
  | recorded htearing _ hdue =>
      have hid := hdue id
      have hrecorded := count_recordedBy_le counts s call step htearing id
      lia
  | @taken expected session htearing hlookup hsame htable hdue =>
      have hid := hdue id
      have hnone : recordedBy counts s (.step call step) = [] := by
        apply recordedBy_eq_nil
        intro teardown hteardown
        rw [htearing] at hteardown
        cases hteardown
        simp
      rw [hnone, List.map_nil, List.count_nil]
      by_cases hcase : id = session.id
      · have hleft : 1 <= (departures s { s with
            listener := listener
            calls := Function.update s.calls call listener.control }).count id := by
          apply count_departures
          · exact SessionTable.mem_ids.mpr ⟨_, session, hlookup, hcase.symm⟩
          · show id ∉ listener.entry.table.ids
            rw [htable, hcase]
            exact SessionTable.not_mem_ids_erase hlookup
        rw [if_pos hcase] at hid
        lia
      · rw [if_neg hcase] at hid
        lia
  | @inserted batch addr hinsert hreceive _ htable hdue =>
      have hid := hdue id
      have hnone : recordedBy counts s (.step call step) = [] := by
        apply recordedBy_eq_nil
        intro teardown hteardown
        rw [hinsert] at hteardown
        cases hteardown
      rw [hnone, List.map_nil, List.count_nil]
      cases hlookup : (s.facing call).entry.table.lookup addr with
      | none =>
          rw [hlookup, Option.map_none, owed_none] at hid
          lia
      | some session =>
          rw [hlookup, Option.map_some, owed_some, due_closing] at hid
          by_cases hcase : id = session.id
          · have hleft : 1 <= (departures s { s with
                listener := listener
                calls := Function.update s.calls call listener.control }).count id := by
              apply count_departures
              · exact SessionTable.mem_ids.mpr ⟨_, session, hlookup, hcase.symm⟩
              · show id ∉ listener.entry.table.ids
                rw [htable, hcase]
                exact SessionTable.not_mem_ids_insert hlookup _ _
            rw [if_pos hcase] at hid
            lia
          · rw [if_neg hcase] at hid
            lia
  | drained hdrain htable hdue =>
      have hid := hdue id
      have hnone : recordedBy counts s (.step call step) = [] := by
        apply recordedBy_eq_nil
        intro teardown hteardown
        rw [hdrain] at hteardown
        cases hteardown
      have hall : departures s { s with
          listener := listener
          calls := Function.update s.calls call listener.control } = s.table.ids := by
        apply departures_clear
        exact htable
      rw [hnone, List.map_nil, List.count_nil, hall]
      show _ + 0 <= s.due id + (s.facing call).entry.table.ids.count id
      lia

theorem table_stopBestEffort (unlocked : List Nat) (listener : Listener) :
    (listener.stopBestEffort unlocked).entry.table = listener.entry.table.clear :=
  (shrinks_closeEach listener.entry.drain.1 listener.entry.drain.2).2

theorem balance_next (counts : caller -> Bool) {s s' : Attended caller}
    {move : Move caller} (hkeyed : Keyed (fun task => task.session.id) s.listener.replies)
    (hnext : s.next move = some s') (id : Nat) :
    s'.due id + ((recordedBy counts s move).map Prod.fst).count id <=
      s.due id + (departures s s').count id := by
  cases move with
  | step call step => exact balance_step counts hkeyed hnext id
  | stopBestEffort unlocked =>
      cases hnext
      exact Nat.le_add_right _ _
  | receiveAborted =>
      simp only [next] at hnext
      split at hnext
      · cases hnext
        simp only [due, Listener.due, recordedBy, ReceivePhase.teardown, owed_none,
          List.map_nil, List.count_nil]
        lia
      · cases hnext
  | cleanupAborted =>
      simp only [next] at hnext
      split at hnext
      · cases hnext
        simp only [due, Listener.due, recordedBy, CleanupPhase.teardown, owed_none,
          List.map_nil, List.count_nil]
        lia
      · cases hnext

end Balance

/-!
# Whole runs
-/

section Runs

variable {caller : Type} [DecidableEq caller]

theorem keyed_next {s s' : Attended caller} {move : Move caller}
    (hkeyed : Keyed (fun task => task.session.id) s.listener.replies)
    (hnext : s.next move = some s') :
    Keyed (fun task => task.session.id) s'.listener.replies := by
  cases move with
  | step call step =>
      rcases Option.map_eq_some_iff.mp hnext with ⟨listener, hstep, rfl⟩
      exact (moved_next (s := s.facing call) hkeyed hstep).framed.keyed hkeyed
  | stopBestEffort unlocked =>
      cases hnext
      exact hkeyed
  | receiveAborted =>
      simp only [next] at hnext
      split at hnext
      · cases hnext
        exact hkeyed
      · cases hnext
  | cleanupAborted =>
      simp only [next] at hnext
      split at hnext
      · cases hnext
        exact hkeyed
      · cases hnext

theorem renews_next {s s' : Attended caller} {move : Move caller}
    (hkeyed : Keyed (fun task => task.session.id) s.listener.replies)
    (hnext : s.next move = some s') : Renews s.table s'.table := by
  cases move with
  | step call step =>
      rcases Option.map_eq_some_iff.mp hnext with ⟨listener, hstep, rfl⟩
      exact (moved_next (s := s.facing call) hkeyed hstep).moves.renews
  | stopBestEffort unlocked =>
      cases hnext
      show Renews s.table (s.listener.stopBestEffort unlocked).entry.table
      rw [table_stopBestEffort]
      exact renews_clear _
  | receiveAborted =>
      simp only [next] at hnext
      split at hnext
      · cases hnext
        exact renews_of_eq rfl
      · cases hnext
  | cleanupAborted =>
      simp only [next] at hnext
      split at hnext
      · cases hnext
        exact renews_of_eq rfl
      · cases hnext

/-- A move for the removal of a session takes no other session out of the table. -/
theorem targeted {s s' : Attended caller} {move : Move caller} {session : UdpSession}
    (hkeyed : Keyed (fun task => task.session.id) s.listener.replies)
    (hnext : s.next move = some s') (hrequested : s.requested move = some session)
    {addr : SocketAddr} {other : UdpSession} (hlookup : s.table.lookup addr = some other)
    (hother : other.id ≠ session.id) : s'.table.lookup addr = some other := by
  cases move with
  | step call step =>
      rcases Option.map_eq_some_iff.mp hnext with ⟨listener, hstep, rfl⟩
      show listener.entry.table.lookup addr = some other
      cases (moved_next (s := s.facing call) hkeyed hstep).moves with
      | plain _ htable =>
          rw [htable]
          exact hlookup
      | recorded _ htable =>
          rw [htable]
          exact hlookup
      | @taken expected found htearing hfound hid htable =>
          have hsession : session = expected := by
            unfold requested at hrequested
            simp only at hrequested
            split at hrequested
            · cases htearing
            · rw [htearing] at hrequested
              cases hrequested
              rfl
          rw [htable, SessionTable.lookup_erase, if_neg]
          · exact hlookup
          · intro haddr
            have hsame : some other = some found := by
              rw [<- hlookup, <- hfound, haddr]
              rfl
            cases hsame
            exact hother (hid.trans (congrArg UdpSession.id hsession.symm))
      | @inserted batch at' hinsert hreceive _ htable =>
          have hat : s.table.lookup at' = some session := by
            have hcreating : s.listener.receive = .creating batch at' := hreceive
            rw [hinsert] at hrequested
            simpa [requested, hcreating] using hrequested
          rw [htable, SessionTable.lookup_insert, if_neg]
          · exact hlookup
          · intro haddr
            rw [haddr, hat] at hlookup
            cases hlookup
            exact hother rfl
      | drained hdrain _ =>
          rw [hdrain] at hrequested
          cases hrequested
  | stopBestEffort unlocked => cases hrequested
  | receiveAborted => cases hrequested
  | cleanupAborted => cases hrequested

variable [Fintype caller]

/-- The sessions that have left and those recorded as removed, against what is due. -/
structure Accounted (departed recorded : List Nat) (s : Attended caller) : Prop where
  keyed : Keyed (fun task => task.session.id) s.listener.replies
  nodup : departed.Nodup
  gone : forall id, id ∈ departed -> id < s.table.nextSession ∧ id ∉ s.table.ids
  balance : forall id, s.due id + recorded.count id <= departed.count id

theorem accounted_next (counts : caller -> Bool) {departed recorded : List Nat}
    {s s' : Attended caller} {move : Move caller} (h : Accounted departed recorded s)
    (hnext : s.next move = some s') :
    Accounted (departed ++ departures s s')
      (recorded ++ (recordedBy counts s move).map Prod.fst) s' := by
  have hrenews := renews_next h.keyed hnext
  constructor
  · exact keyed_next h.keyed hnext
  · apply List.Nodup.append h.nodup (departures_nodup s s')
    intro id hold hnew
    exact (h.gone id hold).2 (List.mem_filter.mp hnew).1
  · intro id hid
    rcases List.mem_append.mp hid with hold | hnew
    · obtain ⟨hnumbered, hout⟩ := h.gone id hold
      constructor
      · exact Nat.lt_of_lt_of_le hnumbered hrenews.next
      · intro hback
        rcases hrenews.kept id hback with hmem | hfresh
        · exact hout hmem
        · exact absurd hfresh (Nat.not_le_of_lt hnumbered)
    · obtain ⟨hmem, hout⟩ := List.mem_filter.mp hnew
      constructor
      · exact Nat.lt_of_lt_of_le (SessionTable.lt_of_mem_ids hmem) hrenews.next
      · exact of_decide_eq_true hout
  · intro id
    have hstep := balance_next counts h.keyed hnext id
    have hbefore := h.balance id
    rw [List.count_append, List.count_append]
    lia

/-- The sessions that leave the table in a run of a new listener. -/
def departed (allocation : Allocation) (maxSessions : Nat) (moves : List (Move caller)) :
    List Nat :=
  observed next (fun s _ s' => departures s s') moves (bound allocation maxSessions)

/-- The removals that are recorded in a run of a new listener. -/
def recorded (counts : caller -> Bool) (allocation : Allocation) (maxSessions : Nat)
    (moves : List (Move caller)) : List (Nat × Removal) :=
  observed next (fun s move _ => recordedBy counts s move) moves
    (bound allocation maxSessions)

structure Tallied (counts : caller -> Bool) (allocation : Allocation) (maxSessions : Nat)
    (past : List (Move caller)) (s : Attended caller) : Prop where
  reached : run next past (bound allocation maxSessions) = some s
  accounted : Accounted (departed allocation maxSessions past)
    ((recorded counts allocation maxSessions past).map Prod.fst) s

theorem tallied_run (counts : caller -> Bool) {allocation : Allocation} {maxSessions : Nat}
    {moves : List (Move caller)} {s : Attended caller}
    (hrun : run next moves (bound allocation maxSessions) = some s) :
    Tallied counts allocation maxSessions moves s := by
  apply run_history hrun
  · constructor
    · rfl
    · constructor
      · exact keyed_empty _
      · exact List.nodup_nil
      · intro id hid
        cases hid
      · intro id
        rw [due_bound]
        exact Nat.le_refl _
  · intro past move s s' htallied hnext
    constructor
    · exact run_append htallied.reached (run_cons.mpr ⟨s', hnext, rfl⟩)
    · have hdeparted := observed_concat (fun s _ s' => departures s s') htallied.reached hnext
      have hrecorded := observed_concat (fun s move _ => recordedBy counts s move)
        htallied.reached hnext
      unfold departed recorded
      rw [hdeparted, hrecorded, List.map_append]
      exact accounted_next counts htallied.accounted hnext

theorem removal_once_and_targeted (counts : caller -> Bool) {allocation : Allocation}
    {maxSessions : Nat} {moves : List (Move caller)} {s : Attended caller}
    (hrun : run next moves (bound allocation maxSessions) = some s) :
    (departed allocation maxSessions moves).Nodup ∧
      ((recorded counts allocation maxSessions moves).map Prod.fst).Nodup ∧
      forall move s' session, s.next move = some s' -> s.requested move = some session ->
        forall addr other, s.table.lookup addr = some other -> other.id ≠ session.id ->
          s'.table.lookup addr = some other := by
  have haccounted := (tallied_run counts hrun).accounted
  constructor
  · exact haccounted.nodup
  constructor
  · apply List.nodup_iff_count_le_one.mpr
    intro id
    have hbalance := haccounted.balance id
    have honce := List.nodup_iff_count_le_one.mp haccounted.nodup id
    lia
  · intro move s' session hnext hrequested addr other hlookup hother
    exact targeted haccounted.keyed hnext hrequested hlookup hother

/-- A session expires while an update works on the same entry: the update finds the
table empty, and the cleanup loop alone records the removal. -/
def expiredDuringUpdate : List (Move Unit) :=
  [.readState, .lookupSession firstClient, .insertSession, .spawnReplyLoop, .storeHandle,
    .loadGeneration, .checkSession, .checkSession, .endPass, .collectSessions,
    .expireSession true, .publish (forwardedAllocation (some "10.0.0.2")), .cleanupRemove,
    .drain, .cleanupRemove, .finish].map (Move.step ())

def expiredListener : Option (Attended Unit) :=
  run next expiredDuringUpdate (bound (forwardedAllocation (some "10.0.0.1")) 4)

theorem removed_once_during_update : exists s, expiredListener = some s ∧
    departed (forwardedAllocation (some "10.0.0.1")) 4 expiredDuringUpdate = [0] ∧
    recorded (fun _ => true) (forwardedAllocation (some "10.0.0.1")) 4
      expiredDuringUpdate = [(0, .expired)] ∧
    (departed (forwardedAllocation (some "10.0.0.1")) 4 expiredDuringUpdate).Nodup := by
  have hsome : expiredListener.isSome = true := by rfl
  have hrun := Option.eq_some_of_isSome hsome
  refine ⟨expiredListener.get hsome, hrun, by rfl, by rfl, ?_⟩
  exact (removal_once_and_targeted (fun _ => true) hrun).1

end Runs

end Attended

end Udp
end Runtime
end Relayd
