import Relayd.Runtime.UdpTasks

/-!
# What a step does to the session table

Every step of a listener either leaves the table alone, takes one session out,
drains it or inserts a session.  A session that has been taken out is recorded as
removed at a later stage of its teardown; until then the record is due.
-/

namespace Relayd
namespace Runtime
namespace Udp

open Foundation

/-!
# Records that are due
-/

def ReplyTask.teardown : ReplyTask -> Option Teardown
  | ⟨session, .removing stage⟩ => some ⟨session, stage⟩
  | _ => none

/-- The teardown that a step takes one stage further. -/
def tearing (s : Listener) : Step -> Option Teardown
  | .replaceSession =>
      match s.receive with
      | .replacing _ _ replaced => some replaced
      | _ => none
  | .receiveRemove =>
      match s.receive with
      | .removing _ removal => some removal
      | _ => none
  | .cleanupRemove => s.cleanup.teardown
  | .replyRemove id => (s.replies.lookup id).bind ReplyTask.teardown
  | .closeSession => s.control.pending.head?
  | _ => none

def Teardown.due (teardown : Teardown) (id : Nat) : Nat :=
  if teardown.stage = .closing ∧ teardown.session.id = id then 1 else 0

def owed (teardown : Option Teardown) (id : Nat) : Nat :=
  teardown.elim 0 (fun teardown => teardown.due id)

def ControlPhase.due (control : ControlPhase) (id : Nat) : Nat :=
  (control.pending.map (fun teardown => teardown.due id)).sum

/-- The teardowns under way that have yet to record the session as removed. -/
def Listener.due (s : Listener) (id : Nat) : Nat :=
  owed s.receive.teardown id + owed s.cleanup.teardown id +
    owed ((s.replies.lookup id).bind ReplyTask.teardown) id + s.control.due id

def SessionTable.ids (table : SessionTable) : List Nat :=
  (values table.sessions).map UdpSession.id

@[simp] theorem owed_none (id : Nat) : owed none id = 0 := rfl

@[simp] theorem owed_some (teardown : Teardown) (id : Nat) :
    owed (some teardown) id = teardown.due id := rfl

theorem Teardown.due_of_stage {teardown : Teardown} (h : teardown.stage ≠ .closing)
    (id : Nat) : teardown.due id = 0 :=
  if_neg (fun hdue => h hdue.1)

theorem due_closing (session : UdpSession) (id : Nat) :
    Teardown.due ⟨session, .closing⟩ id = if id = session.id then 1 else 0 := by
  unfold Teardown.due
  by_cases hid : id = session.id
  · rw [if_pos hid, if_pos ⟨rfl, hid.symm⟩]
  · rw [if_neg hid, if_neg (fun h => hid h.2.symm)]

/-!
# The kinds of steps
-/

/-- What no step changes, and how the receive loop comes to create a session. -/
structure Framed (s s' : Listener) : Prop where
  maxSessions : s'.entry.maxSessions = s.entry.maxSessions
  keyed : Keyed (fun task => task.session.id) s.replies ->
    Keyed (fun task => task.session.id) s'.replies
  creating : forall batch addr, s'.receive = .creating batch addr ->
    s.receive = .creating batch addr ∨ s.entry.table.size < s.entry.maxSessions

inductive Moves (s : Listener) (step : Step) (s' : Listener) : Prop where
  | plain (htearing : forall teardown, tearing s step = some teardown ->
        teardown.stage ≠ .closing)
      (htable : s'.entry.table = s.entry.table)
      (hdue : forall id, s'.due id <= s.due id)
  | taken {expected session : UdpSession}
      (htearing : tearing s step = some ⟨expected, .locking⟩)
      (hlookup : s.entry.table.lookup expected.clientAddr = some session)
      (hid : session.id = expected.id)
      (htable : s'.entry.table = s.entry.table.erase expected.clientAddr)
      (hdue : forall id, s'.due id <= s.due id + if id = session.id then 1 else 0)
  | recorded {session : UdpSession}
      (htearing : tearing s step = some ⟨session, .closing⟩)
      (htable : s'.entry.table = s.entry.table)
      (hdue : forall id, s'.due id + (if id = session.id then 1 else 0) <= s.due id)
  | inserted {batch : Batch} {addr : SocketAddr} (hstep : step = .insertSession)
      (hreceive : s.receive = .creating batch addr)
      (hcreated : forall batch addr, s'.receive ≠ .creating batch addr)
      (htable : s'.entry.table = s.entry.table.insert addr batch.generation batch.target)
      (hdue : forall id, s'.due id <= s.due id +
        owed ((s.entry.table.lookup addr).map (fun session => ⟨session, .closing⟩)) id)
  | drained (hstep : step = .drain)
      (htable : s'.entry.table = s.entry.table.clear)
      (hdue : forall id, s'.due id <= s.due id + s.entry.table.ids.count id)

structure Moved (s : Listener) (step : Step) (s' : Listener) : Prop where
  framed : Framed s s'
  moves : Moves s step s'

section Parts

variable {s s' : Listener} {step : Step}

/-- Only the receive loop moves on, to a phase in which no record is due. -/
theorem moved_receive (htearing : tearing s step = none)
    (htable : s'.entry.table = s.entry.table)
    (hmax : s'.entry.maxSessions = s.entry.maxSessions)
    (hcleanup : s'.cleanup = s.cleanup) (hreplies : s'.replies = s.replies)
    (hcontrol : s'.control = s.control)
    (hcreating : forall batch addr, s'.receive = .creating batch addr ->
      s.receive = .creating batch addr ∨ s.entry.table.size < s.entry.maxSessions)
    (hdue : forall id, owed s'.receive.teardown id = 0) : Moved s step s' := by
  constructor
  · constructor
    · exact hmax
    · rw [hreplies]
      exact id
    · exact hcreating
  · apply Moves.plain
    · intro teardown h
      rw [htearing] at h
      cases h
    · exact htable
    · intro id
      unfold Listener.due
      rw [hcleanup, hreplies, hcontrol, hdue id]
      lia

/-- Only the cleanup loop moves on, to a phase in which no record is due. -/
theorem moved_cleanup (htearing : tearing s step = none) (hentry : s'.entry = s.entry)
    (hreceive : s'.receive = s.receive) (hreplies : s'.replies = s.replies)
    (hcontrol : s'.control = s.control)
    (hdue : forall id, owed s'.cleanup.teardown id = 0) : Moved s step s' := by
  constructor
  · constructor
    · rw [hentry]
    · rw [hreplies]
      exact id
    · intro batch addr h
      exact Or.inl (hreceive ▸ h)
  · apply Moves.plain
    · intro teardown h
      rw [htearing] at h
      cases h
    · rw [hentry]
    · intro id
      unfold Listener.due
      rw [hreceive, hreplies, hcontrol, hdue id]
      lia

/-- Only the reply loops move on. -/
theorem moved_reply (htearing : tearing s step = none)
    (htable : s'.entry.table = s.entry.table)
    (hmax : s'.entry.maxSessions = s.entry.maxSessions)
    (hreceive : s'.receive = s.receive) (hcleanup : s'.cleanup = s.cleanup)
    (hcontrol : s'.control = s.control)
    (hkeyed : Keyed (fun task => task.session.id) s.replies ->
      Keyed (fun task => task.session.id) s'.replies)
    (hdue : forall id, owed ((s'.replies.lookup id).bind ReplyTask.teardown) id <=
      owed ((s.replies.lookup id).bind ReplyTask.teardown) id) : Moved s step s' := by
  constructor
  · constructor
    · exact hmax
    · exact hkeyed
    · intro batch addr h
      exact Or.inl (hreceive ▸ h)
  · apply Moves.plain
    · intro teardown h
      rw [htearing] at h
      cases h
    · exact htable
    · intro id
      have hid := hdue id
      unfold Listener.due
      rw [hreceive, hcleanup, hcontrol]
      lia

/-- Only an update or a deletion moves on, without a session to close. -/
theorem moved_control (htearing : tearing s step = none)
    (htable : s'.entry.table = s.entry.table)
    (hmax : s'.entry.maxSessions = s.entry.maxSessions)
    (hreceive : s'.receive = s.receive) (hcleanup : s'.cleanup = s.cleanup)
    (hreplies : s'.replies = s.replies)
    (hdue : forall id, s'.control.due id = 0) : Moved s step s' := by
  constructor
  · constructor
    · exact hmax
    · rw [hreplies]
      exact id
    · intro batch addr h
      exact Or.inl (hreceive ▸ h)
  · apply Moves.plain
    · intro teardown h
      rw [htearing] at h
      cases h
    · exact htable
    · intro id
      unfold Listener.due
      rw [hreceive, hcleanup, hreplies, hdue id]
      lia

theorem keyed_setReply (session : UdpSession) (phase : ReplyPhase)
    (h : Keyed (fun task => task.session.id) s.replies) :
    Keyed (fun task => task.session.id) (s.setReply session phase).replies :=
  Keyed.insert h ⟨session, phase⟩

theorem keyed_endReply (id : Nat)
    (h : Keyed (fun task => task.session.id) s.replies) :
    Keyed (fun task => task.session.id) (s.endReply id).replies :=
  Keyed.erase h id

theorem owed_setReply (session : UdpSession) {phase : ReplyPhase}
    (hphase : phase ≠ .removing .closing) (id : Nat) :
    owed (((s.setReply session phase).replies.lookup id).bind ReplyTask.teardown) id <=
      owed ((s.replies.lookup id).bind ReplyTask.teardown) id := by
  rw [lookup_setReply]
  split
  · cases phase with
    | removing stage =>
        have hstage : stage ≠ .closing := fun h => hphase (congrArg _ h)
        simp [ReplyTask.teardown, Teardown.due, hstage]
    | _ => exact Nat.zero_le _
  · exact Nat.le_refl _

theorem owed_endReply (id other : Nat) :
    owed (((s.endReply id).replies.lookup other).bind ReplyTask.teardown) other <=
      owed ((s.replies.lookup other).bind ReplyTask.teardown) other := by
  unfold Listener.endReply
  rw [lookup_erase_eq]
  split
  · exact Nat.zero_le _
  · exact Nat.le_refl _

end Parts

/-!
# One more stage of any teardown
-/

section Advance

variable {s s' : Listener} {step : Step} {awaits : Bool} {teardown : Teardown}
  {rest : Option Teardown}

theorem advance_cases (h : s.advance awaits teardown = some (s', rest)) :
    (exists session, teardown.stage = .locking ∧
      s.entry.table.lookup teardown.session.clientAddr = some session ∧
      session.id = teardown.session.id ∧
      s' = { s with
        entry := { s.entry with table := s.entry.table.erase teardown.session.clientAddr } } ∧
      rest = some ⟨session, .closing⟩) ∨
    (teardown.stage = .closing ∧
      s' = { s with entry := s.entry.close teardown.session.id } ∧
      rest = some ⟨teardown.session, .aborting⟩) ∨
    (teardown.stage ≠ .closing ∧ (s' = s ∨ s' = s.abortReplyTask teardown.session.id) ∧
      forall id, owed rest id = 0) := by
  rcases teardown with ⟨session, stage⟩
  cases stage with
  | locking =>
      simp only [Listener.advance] at h
      cases hremoved : (s.entry.removeSession session).1 with
      | none =>
          rw [hremoved] at h
          cases h
          exact Or.inr (Or.inr ⟨by simp, Or.inl rfl, fun _ => rfl⟩)
      | some found =>
          rw [hremoved] at h
          cases h
          rcases removeSession_eq_some hremoved with ⟨hlookup, hid, hentry⟩
          rw [hentry]
          exact Or.inl ⟨found, rfl, hlookup, hid, rfl, rfl⟩
  | closing =>
      cases h
      exact Or.inr (Or.inl ⟨rfl, rfl, rfl⟩)
  | aborting =>
      apply Or.inr
      apply Or.inr
      simp only [Listener.advance] at h
      split at h
      · cases h
        refine ⟨by simp, Or.inr rfl, ?_⟩
        intro id
        cases awaits with
        | false => rfl
        | true => simp [Teardown.due]
      · cases h
        exact ⟨by simp, Or.inl rfl, fun _ => rfl⟩
  | awaiting =>
      simp only [Listener.advance] at h
      split at h
      · cases h
        exact Or.inr (Or.inr ⟨by simp, Or.inl rfl, fun _ => rfl⟩)
      · cases h

theorem advance_frame (h : s.advance awaits teardown = some (s', rest)) :
    s'.replies = s.replies ∧ s'.receive = s.receive ∧ s'.cleanup = s.cleanup ∧
      s'.control = s.control ∧ s'.entry.maxSessions = s.entry.maxSessions := by
  rcases advance_cases h with ⟨_, _, _, _, rfl, _⟩ | ⟨_, rfl, _⟩ | ⟨_, rfl | rfl, _⟩ <;>
    exact ⟨rfl, rfl, rfl, rfl, rfl⟩

/-- A step that takes a teardown further does to the table what the teardown does; what
is due then is due for the rest of it. -/
theorem moves_advance {s1 : Listener} (h : s.advance awaits teardown = some (s1, rest))
    (htearing : tearing s step = some teardown) (htable : s'.entry.table = s1.entry.table)
    (hdue : forall id, s'.due id + teardown.due id <= s.due id + owed rest id) :
    Moves s step s' := by
  rcases teardown with ⟨session, stage⟩
  rcases advance_cases h with ⟨found, hstage, hlookup, hid, hs1, hrest⟩ |
    ⟨hstage, hs1, hrest⟩ | ⟨hstage, hs1, hrest⟩
  · simp only at hstage
    subst hstage
    refine Moves.taken htearing hlookup hid (by rw [htable, hs1]) ?_
    intro id
    have hbefore := hdue id
    rw [hrest, owed_some, due_closing] at hbefore
    lia
  · simp only at hstage
    subst hstage
    refine Moves.recorded htearing (by rw [htable, hs1]; rfl) ?_
    intro id
    have hbefore := hdue id
    rw [hrest, owed_some, due_closing, Teardown.due_of_stage (by simp)] at hbefore
    lia
  · apply Moves.plain
    · intro teardown hteardown
      rw [htearing] at hteardown
      cases hteardown
      exact hstage
    · rcases hs1 with rfl | rfl
      · exact htable
      · exact htable
    · intro id
      have hbefore := hdue id
      rw [hrest id] at hbefore
      lia

end Advance

/-!
# Steps of the receive loop
-/

section Receive

variable {s s' : Listener}

/-- The receive loop goes on without a session to create or to take down. -/
theorem moved_proceed {step : Step} {entry : ListenerEntry} {handles : List Nat}
    {receive : ReceivePhase} (htearing : tearing s step = none)
    (htable : entry.table = s.entry.table) (hmax : entry.maxSessions = s.entry.maxSessions)
    (hcreating : forall batch addr, receive ≠ .creating batch addr)
    (hdue : forall id, owed receive.teardown id = 0) :
    Moved s step { s with entry := entry, handles := handles, receive := receive } := by
  refine moved_receive htearing htable hmax rfl rfl rfl ?_ ?_
  · intro batch addr h
    exact absurd h (hcreating batch addr)
  · exact hdue

/-- The receive loop takes a teardown of its own one stage further. -/
theorem moved_receive_advance {step : Step} {awaits : Bool} {teardown : Teardown}
    {rest : Option Teardown} {s1 : Listener} {receive : ReceivePhase}
    (hadvance : s.advance awaits teardown = some (s1, rest))
    (htearing : tearing s step = some teardown)
    (hbefore : s.receive.teardown = some teardown) (hrest : receive.teardown = rest)
    (hcreating : forall batch addr, receive ≠ .creating batch addr) :
    Moved s step { s1 with receive := receive } := by
  obtain ⟨hreplies, -, hcleanup, hcontrol, hmax⟩ := advance_frame hadvance
  constructor
  · refine ⟨hmax, ?_, fun batch addr h => absurd h (hcreating batch addr)⟩
    rw [hreplies]
    exact id
  · refine moves_advance hadvance htearing rfl ?_
    intro id
    simp only [Listener.due, hreplies, hcleanup, hcontrol, hbefore, hrest, owed_some]
    lia

theorem moved_readState (h : s.readState = some s') : Moved s .readState s' := by
  unfold Listener.readState at h
  split at h
  · next hreceive =>
    split at h
    · cases h
      refine moved_receive rfl rfl rfl rfl rfl rfl ?_ ?_
      · intro batch addr hcreating
        exact Or.inl hcreating
      · rw [hreceive]
        exact fun _ => rfl
    · cases h
      exact moved_proceed rfl rfl rfl (by simp) (fun _ => rfl)
  · cases h

theorem moved_lookupSession {addr : SocketAddr} (h : s.lookupSession addr = some s') :
    Moved s (.lookupSession addr) s' := by
  unfold Listener.lookupSession at h
  split at h
  · next batch hreceive =>
    cases hlookup : s.entry.lookupSession addr batch.generation with
    | found session =>
        rw [hlookup] at h
        cases h
        exact moved_proceed rfl rfl rfl (by simp) (fun _ => rfl)
    | full =>
        rw [hlookup] at h
        cases h
        refine moved_receive rfl rfl rfl rfl rfl rfl ?_ ?_
        · intro other addr' hcreating
          exact Or.inl hcreating
        · rw [hreceive]
          exact fun _ => rfl
    | vacant =>
        rw [hlookup] at h
        cases h
        refine moved_receive rfl rfl rfl rfl rfl rfl ?_ ?_
        · intro _ _ _
          apply Or.inr
          unfold ListenerEntry.lookupSession at hlookup
          split at hlookup
          · cases hlookup
          · split at hlookup
            · cases hlookup
            · next hroom => exact Nat.lt_of_not_le hroom
        · exact fun _ => rfl
  · cases h

theorem moved_createFailed (h : s.createFailed = some s') : Moved s .createFailed s' := by
  unfold Listener.createFailed at h
  split at h
  · cases h
    exact moved_proceed rfl rfl rfl (by simp) (fun _ => rfl)
  · cases h

theorem moved_insertSession (h : s.insertSession = some s') : Moved s .insertSession s' := by
  unfold Listener.insertSession at h
  split at h
  · next batch addr hreceive =>
    have hnone : forall id, owed s.receive.teardown id = 0 := by
      rw [hreceive]
      exact fun _ => rfl
    rcases insertSession_cases s.entry addr batch.generation batch.target with
      ⟨session, _, heq⟩ | ⟨_, _, heq⟩ | ⟨_, _, heq⟩
    · simp only [heq] at h
      cases h
      exact moved_proceed rfl rfl rfl (by simp) (fun _ => rfl)
    · simp only [heq] at h
      cases h
      exact moved_proceed rfl rfl rfl (by simp) (fun _ => rfl)
    · simp only [heq] at h
      cases hlookup : s.entry.table.lookup addr with
      | none =>
          rw [hlookup] at h
          cases h
          constructor
          · exact ⟨rfl, id, by simp⟩
          · refine Moves.inserted rfl hreceive (by simp) rfl ?_
            intro id
            unfold Listener.due
            rw [hnone id, hlookup]
            exact Nat.le_refl _
      | some replaced =>
          rw [hlookup] at h
          cases h
          constructor
          · exact ⟨rfl, id, by simp⟩
          · refine Moves.inserted rfl hreceive (by simp) rfl ?_
            intro id
            unfold Listener.due
            rw [hnone id, hlookup]
            simp only [ReceivePhase.teardown, Option.map_some]
            lia
  · cases h

theorem moved_replaceSession (h : s.replaceSession = some s') :
    Moved s .replaceSession s' := by
  rcases Listener.replaceSession_cases h with ⟨batch, session, replaced, hreceive, hrest⟩
  have htearing : tearing s .replaceSession = some replaced := by
    simp only [tearing, hreceive]
  have hteardown : s.receive.teardown = some replaced := by rw [hreceive]; rfl
  rcases hrest with ⟨s1, teardown, hadvance, rfl⟩ | ⟨s1, hadvance, rfl⟩
  · exact moved_receive_advance hadvance htearing hteardown rfl (by simp)
  · exact moved_receive_advance hadvance htearing hteardown rfl (by simp)

theorem moved_spawnReplyLoop (h : s.spawnReplyLoop = some s') :
    Moved s .spawnReplyLoop s' := by
  unfold Listener.spawnReplyLoop at h
  split at h
  · next batch session hreceive =>
    split at h
    · cases h
      exact moved_proceed rfl rfl rfl (by simp) (fun _ => rfl)
    · cases h
      have hspawned : Moved s .spawnReplyLoop (s.setReply session .looping) :=
        moved_reply rfl rfl rfl rfl rfl rfl (keyed_setReply session .looping)
          (owed_setReply session (by simp))
      constructor
      · exact ⟨rfl, hspawned.framed.keyed, by simp⟩
      · apply Moves.plain
        · intro teardown hteardown
          cases hteardown
        · rfl
        · intro id
          have hid := owed_setReply (s := s) session (show ReplyPhase.looping ≠ _ by simp) id
          simp only [Listener.due, hreceive, ReceivePhase.teardown]
          exact Nat.add_le_add_right (Nat.add_le_add_left hid _) _
  · cases h

theorem moved_storeHandle (h : s.storeHandle = some s') : Moved s .storeHandle s' := by
  unfold Listener.storeHandle at h
  split at h
  · cases h
    exact moved_proceed rfl rfl rfl (by simp) (fun _ => rfl)
  · cases h

theorem closeEach_maxSessions (sessions : List UdpSession) (entry : ListenerEntry) :
    (Listener.closeEach sessions entry).maxSessions = entry.maxSessions := by
  induction sessions generalizing entry with
  | nil => rfl
  | cons session rest ih => exact ih (entry.close session.id)

theorem moved_loadGeneration (h : s.loadGeneration = some s') :
    Moved s .loadGeneration s' := by
  unfold Listener.loadGeneration at h
  split at h
  · next batch _ =>
    split at h
    · cases h
      exact moved_proceed rfl rfl rfl (by simp) (fun _ => rfl)
    · cases h
      exact moved_proceed rfl (shrinks_closeEach batch.sessions s.entry).2
        (closeEach_maxSessions _ _) (by simp) (fun _ => rfl)
  · cases h

theorem moved_checkSession (h : s.checkSession = some s') : Moved s .checkSession s' := by
  unfold Listener.checkSession at h
  split at h
  · cases h
    exact moved_proceed rfl rfl rfl (by simp) (fun _ => rfl)
  · split at h
    · cases h
      exact moved_proceed rfl rfl rfl (by simp) (fun _ => rfl)
    · cases h
      exact moved_proceed rfl rfl rfl (by simp) (fun _ => rfl)
  · cases h

theorem moved_sendDatagram {session : UdpSession} (h : s.sendDatagram session = some s') :
    Moved s (.sendDatagram session) s' := by
  unfold Listener.sendDatagram at h
  split at h
  · next sessions hreceive =>
    split at h
    · cases h
      refine moved_receive rfl rfl rfl rfl rfl rfl ?_ ?_
      · intro batch addr hcreating
        exact Or.inl hcreating
      · rw [hreceive]
        exact fun _ => rfl
    · cases h
  · cases h

theorem moved_sendFailed {session : UdpSession} (h : s.sendFailed session = some s') :
    Moved s (.sendFailed session) s' := by
  unfold Listener.sendFailed at h
  split at h
  · split at h
    · cases h
      exact moved_proceed rfl rfl rfl (by simp) (fun _ => rfl)
    · cases h
  · cases h

theorem moved_receiveRemove (h : s.receiveRemove = some s') : Moved s .receiveRemove s' := by
  rcases Listener.receiveRemove_cases h with ⟨sessions, removal, hreceive, hrest⟩
  have htearing : tearing s .receiveRemove = some removal := by
    simp only [tearing, hreceive]
  have hteardown : s.receive.teardown = some removal := by rw [hreceive]; rfl
  rcases hrest with ⟨s1, teardown, hadvance, rfl⟩ | ⟨s1, hadvance, rfl⟩
  · exact moved_receive_advance hadvance htearing hteardown rfl (by simp)
  · exact moved_receive_advance hadvance htearing hteardown rfl (by simp)

theorem moved_endPass (h : s.endPass = some s') : Moved s .endPass s' := by
  unfold Listener.endPass at h
  split at h
  · cases h
    exact moved_proceed rfl rfl rfl (by simp) (fun _ => rfl)
  · cases h

theorem moved_receiveFailed (h : s.receiveFailed = some s') : Moved s .receiveFailed s' := by
  unfold Listener.receiveFailed at h
  split at h
  · cases h
    exact moved_proceed rfl rfl rfl (by simp) (fun _ => rfl)
  · cases h

end Receive

/-!
# Steps of the cleanup loop and of the reply loops
-/

section Loops

variable {s s' : Listener} {id : Nat}

theorem moved_collectSessions (h : s.collectSessions = some s') :
    Moved s .collectSessions s' := by
  unfold Listener.collectSessions at h
  split at h
  · cases h
    exact moved_cleanup rfl rfl rfl rfl rfl (fun _ => rfl)
  · cases h

theorem moved_expireSession {idle : Bool} (h : s.expireSession idle = some s') :
    Moved s (.expireSession idle) s' := by
  unfold Listener.expireSession at h
  split at h
  · cases h
    exact moved_cleanup rfl rfl rfl rfl rfl (fun _ => rfl)
  · split at h
    · cases h
      exact moved_cleanup rfl rfl rfl rfl rfl (fun _ => rfl)
    · cases h
      exact moved_cleanup rfl rfl rfl rfl rfl (fun _ => rfl)
  · cases h

theorem moved_cleanup_advance {awaits : Bool} {teardown : Teardown}
    {rest : Option Teardown} {s1 : Listener} {cleanup : CleanupPhase}
    (hadvance : s.advance awaits teardown = some (s1, rest))
    (hbefore : s.cleanup.teardown = some teardown) (hrest : cleanup.teardown = rest) :
    Moved s .cleanupRemove { s1 with cleanup := cleanup } := by
  obtain ⟨hreplies, hreceive, -, hcontrol, hmax⟩ := advance_frame hadvance
  constructor
  · refine ⟨hmax, ?_, fun batch addr h => Or.inl (hreceive ▸ h)⟩
    rw [hreplies]
    exact fun h => h
  · refine moves_advance hadvance hbefore rfl ?_
    intro id
    simp only [Listener.due, hreplies, hreceive, hcontrol, hbefore, hrest, owed_some]
    lia

theorem moved_cleanupRemove (h : s.cleanupRemove = some s') : Moved s .cleanupRemove s' := by
  rcases Listener.cleanupRemove_cases h with ⟨sessions, removal, hcleanup, hrest⟩
  have hbefore : s.cleanup.teardown = some removal := by rw [hcleanup]; rfl
  rcases hrest with ⟨s1, teardown, hadvance, rfl⟩ | ⟨s1, hadvance, rfl⟩
  · exact moved_cleanup_advance hadvance hbefore rfl
  · exact moved_cleanup_advance hadvance hbefore rfl

/-- A reply loop goes on to a phase in which no record is due. -/
theorem moved_setReply {step : Step} (session : UdpSession) {phase : ReplyPhase}
    (htearing : tearing s step = none) (hphase : phase ≠ .removing .closing) :
    Moved s step (s.setReply session phase) :=
  moved_reply htearing rfl rfl rfl rfl rfl (keyed_setReply session phase)
    (owed_setReply session hphase)

theorem moved_endReply {step : Step} (htearing : tearing s step = none) (id : Nat) :
    Moved s step (s.endReply id) :=
  moved_reply htearing rfl rfl rfl rfl rfl (keyed_endReply id) (owed_endReply id)

theorem moved_checkClosed (h : s.checkClosed id = some s') : Moved s (.checkClosed id) s' := by
  unfold Listener.checkClosed at h
  split at h
  · split at h
    · cases h
      exact moved_endReply rfl id
    · cases h
      exact moved_setReply _ rfl (by simp)
  · cases h

theorem moved_receiveReply (h : s.receiveReply id = some s') :
    Moved s (.receiveReply id) s' := by
  unfold Listener.receiveReply at h
  split at h
  · cases h
    exact moved_setReply _ rfl (by simp)
  · cases h

theorem moved_receiveReplyFailed (h : s.receiveReplyFailed id = some s') :
    Moved s (.receiveReplyFailed id) s' := by
  unfold Listener.receiveReplyFailed at h
  split at h
  · cases h
    exact moved_setReply _ rfl (by simp)
  · cases h

theorem moved_checkCurrent (h : s.checkCurrent id = some s') :
    Moved s (.checkCurrent id) s' := by
  unfold Listener.checkCurrent at h
  split at h
  · split at h
    · cases h
      exact moved_setReply _ rfl (by simp)
    · cases h
      exact moved_reply rfl rfl rfl rfl rfl rfl (keyed_endReply id) (owed_endReply id)
  · cases h

theorem moved_sendReply (h : s.sendReply id = some s') : Moved s (.sendReply id) s' := by
  unfold Listener.sendReply at h
  split at h
  · next session _ =>
    cases h
    exact moved_reply rfl rfl rfl rfl rfl rfl (keyed_setReply session .looping)
      (owed_setReply session (by simp))
  · cases h

theorem moved_sendReplyFailed (h : s.sendReplyFailed id = some s') :
    Moved s (.sendReplyFailed id) s' := by
  unfold Listener.sendReplyFailed at h
  split at h
  · cases h
    exact moved_setReply _ rfl (by simp)
  · cases h

theorem moved_cancel (h : s.cancel id = some s') : Moved s (.cancel id) s' := by
  unfold Listener.cancel at h
  split at h
  · cases h
    exact moved_endReply rfl id
  · cases h

/-- What is left of a teardown is about the session it started with. -/
theorem due_advanced {awaits : Bool} {teardown more : Teardown}
    (h : s.advance awaits teardown = some (s', some more)) (id : Nat) :
    Teardown.due ⟨teardown.session, more.stage⟩ id <= more.due id := by
  rcases advance_cases h with ⟨found, _, _, hfound, _, hrest⟩ | ⟨_, _, hrest⟩ | ⟨_, _, hrest⟩
  · cases hrest
    rw [due_closing, due_closing, hfound]
  · cases hrest
    exact Nat.le_refl _
  · have hstage : more.stage ≠ .closing := by
      intro hclosing
      have hnone := hrest more.session.id
      rw [owed_some, Teardown.due, if_pos ⟨hclosing, rfl⟩] at hnone
      cases hnone
    have hzero : Teardown.due ⟨teardown.session, more.stage⟩ id = 0 := by
      apply Teardown.due_of_stage
      exact hstage
    rw [hzero]
    exact Nat.zero_le _

/-- A task takes down its own session, which it is filed under. -/
theorem moved_replyRemove (hkeyed : Keyed (fun task => task.session.id) s.replies)
    (h : s.replyRemove id = some s') : Moved s (.replyRemove id) s' := by
  rcases Listener.replyRemove_cases h with ⟨session, stage, htask, hrest⟩
  have hid : session.id = id := hkeyed id _ htask
  have hbefore : (s.replies.lookup id).bind ReplyTask.teardown = some ⟨session, stage⟩ := by
    rw [htask]
    rfl
  have hother : forall other, other ≠ id -> Teardown.due ⟨session, stage⟩ other = 0 := by
    intro other hne
    apply if_neg
    intro hdue
    exact hne (hdue.2.symm.trans hid)
  rcases hrest with ⟨s1, more, hadvance, rfl⟩ | ⟨s1, hadvance, rfl⟩
  · obtain ⟨hreplies, hreceive, hcleanup, hcontrol, hmax⟩ := advance_frame hadvance
    constructor
    · refine ⟨hmax, ?_, fun batch addr hcreating => Or.inl (hreceive ▸ hcreating)⟩
      intro hkeyed
      exact keyed_setReply session _ (hreplies ▸ hkeyed)
    · refine moves_advance hadvance hbefore rfl ?_
      intro other
      show owed s1.receive.teardown other + owed s1.cleanup.teardown other +
        owed (((s1.setReply session _).replies.lookup other).bind ReplyTask.teardown) other +
          s1.control.due other + _ <= _
      rw [hreceive, hcleanup, hcontrol, lookup_setReply, hreplies, hid]
      unfold Listener.due
      by_cases hcase : other = id
      · have hmore := due_advanced hadvance other
        rw [if_pos hcase, hcase, hbefore, <- hcase, Option.bind_some]
        simp only [ReplyTask.teardown, owed_some]
        lia
      · rw [if_neg hcase, hother other hcase]
        lia
  · obtain ⟨hreplies, hreceive, hcleanup, hcontrol, hmax⟩ := advance_frame hadvance
    constructor
    · refine ⟨hmax, ?_, fun batch addr hcreating => Or.inl (hreceive ▸ hcreating)⟩
      intro hkeyed
      exact keyed_endReply id (hreplies ▸ hkeyed)
    · refine moves_advance hadvance hbefore rfl ?_
      intro other
      show owed s1.receive.teardown other + owed s1.cleanup.teardown other +
        owed (((s1.replies.erase id).lookup other).bind ReplyTask.teardown) other +
          s1.control.due other + _ <= _
      rw [hreceive, hcleanup, hcontrol, lookup_erase_eq, hreplies]
      unfold Listener.due
      by_cases hcase : other = id
      · rw [if_pos hcase, hcase, hbefore, Option.bind_none, owed_none, owed_some]
        lia
      · rw [if_neg hcase, hother other hcase]
        lia

end Loops

/-!
# Updates and deletion
-/

section Control

variable {s s' : Listener}

theorem moved_publish {allocation : Allocation} (h : s.publish allocation = some s') :
    Moved s (.publish allocation) s' := by
  unfold Listener.publish at h
  split at h
  · cases h
    exact moved_control rfl rfl rfl rfl rfl rfl (fun _ => rfl)
  · cases h

theorem moved_stop (h : s.stop = some s') : Moved s .stop s' := by
  unfold Listener.stop at h
  split at h
  · cases h
    exact moved_control rfl rfl rfl rfl rfl rfl (fun _ => rfl)
  · cases h

theorem moved_receiveStopped (h : s.receiveStopped = some s') :
    Moved s .receiveStopped s' := by
  unfold Listener.receiveStopped at h
  split at h
  · cases h
    constructor
    · exact ⟨rfl, id, by simp⟩
    · apply Moves.plain
      · intro teardown hteardown
        cases hteardown
      · rfl
      · intro id
        simp only [Listener.due, ReceivePhase.teardown, ControlPhase.due,
          ControlPhase.pending, owed_none, List.map_nil, List.sum_nil]
        lia
  · cases h

theorem moved_cleanupStopped (h : s.cleanupStopped = some s') :
    Moved s .cleanupStopped s' := by
  unfold Listener.cleanupStopped at h
  split at h
  · cases h
    constructor
    · exact ⟨rfl, id, fun batch addr hcreating => Or.inl hcreating⟩
    · apply Moves.plain
      · intro teardown hteardown
        cases hteardown
      · rfl
      · intro id
        simp only [Listener.due, CleanupPhase.teardown, ControlPhase.due,
          ControlPhase.pending, owed_none, List.map_nil, List.sum_nil]
        lia
  · cases h

theorem sum_due_closing (sessions : List UdpSession) (id : Nat) :
    ((sessions.map (fun session => (⟨session, .closing⟩ : Teardown))).map
      (fun teardown => teardown.due id)).sum = (sessions.map UdpSession.id).count id := by
  induction sessions with
  | nil => rfl
  | cons session rest ih =>
      rw [List.map_cons, List.map_cons, List.sum_cons, ih, List.map_cons, List.count_cons,
        due_closing]
      by_cases hid : id = session.id
      · rw [if_pos hid, if_pos (by simp [hid])]
        lia
      · rw [if_neg hid, if_neg (by simpa using fun h => hid h.symm)]
        lia

theorem moved_drain (h : s.drain = some s') : Moved s .drain s' := by
  have hinto : forall deleting, Moved s .drain (s.drainInto deleting) := by
    intro deleting
    constructor
    · exact ⟨rfl, id, fun batch addr hcreating => Or.inl hcreating⟩
    · refine Moves.drained rfl rfl ?_
      intro id
      have hpending : (s.drainInto deleting).control.due id = s.entry.table.ids.count id :=
        sum_due_closing _ id
      show _ + _ + _ + (s.drainInto deleting).control.due id <= _
      rw [hpending]
      unfold Listener.due Listener.drainInto
      lia
  unfold Listener.drain at h
  split at h
  · cases h
    exact hinto false
  · cases h
    exact hinto true
  · cases h

/-- A caller takes the first of its teardowns one stage further. -/
theorem moved_control_advance {step : Step} {awaits : Bool} {teardown : Teardown}
    {rest : Option Teardown} {s1 : Listener} {control : ControlPhase}
    (hadvance : s.advance awaits teardown = some (s1, rest))
    (htearing : tearing s step = some teardown)
    (hdue : forall id, control.due id + teardown.due id = s.control.due id + owed rest id) :
    Moved s step { s1 with control := control } := by
  obtain ⟨hreplies, hreceive, hcleanup, -, hmax⟩ := advance_frame hadvance
  constructor
  · refine ⟨hmax, ?_, fun batch addr hcreating => Or.inl (hreceive ▸ hcreating)⟩
    rw [hreplies]
    exact id
  · refine moves_advance hadvance htearing rfl ?_
    intro id
    have hid := hdue id
    simp only [Listener.due, hreplies, hreceive, hcleanup]
    lia

theorem moved_closeSession (h : s.closeSession = some s') : Moved s .closeSession s' := by
  rcases Listener.closeSession_cases h with ⟨deleting, teardown, rest, hcontrol, hrest⟩
  have htearing : tearing s .closeSession = some teardown := by
    simp only [tearing, hcontrol, ControlPhase.pending, List.head?_cons]
  rcases hrest with ⟨s1, more, hadvance, rfl⟩ | ⟨s1, hadvance, rfl⟩
  · apply moved_control_advance hadvance htearing
    intro id
    simp only [hcontrol, ControlPhase.due, ControlPhase.pending, List.map_cons,
      List.sum_cons, owed_some]
    lia
  · apply moved_control_advance hadvance htearing
    intro id
    simp only [hcontrol, ControlPhase.due, ControlPhase.pending, List.map_cons,
      List.sum_cons, owed_none]
    lia

theorem moved_finish (h : s.finish = some s') : Moved s .finish s' := by
  unfold Listener.finish at h
  split at h
  · cases h
    exact moved_control rfl rfl rfl rfl rfl rfl (fun _ => rfl)
  · cases h
    exact moved_control rfl rfl rfl rfl rfl rfl (fun _ => rfl)
  · cases h

end Control

theorem moved_next {s s' : Listener} {step : Step}
    (hkeyed : Keyed (fun task => task.session.id) s.replies)
    (hstep : next s step = some s') : Moved s step s' := by
  cases step with
  | readState => exact moved_readState hstep
  | lookupSession addr => exact moved_lookupSession hstep
  | createFailed => exact moved_createFailed hstep
  | insertSession => exact moved_insertSession hstep
  | replaceSession => exact moved_replaceSession hstep
  | spawnReplyLoop => exact moved_spawnReplyLoop hstep
  | storeHandle => exact moved_storeHandle hstep
  | loadGeneration => exact moved_loadGeneration hstep
  | checkSession => exact moved_checkSession hstep
  | sendDatagram session => exact moved_sendDatagram hstep
  | sendFailed session => exact moved_sendFailed hstep
  | receiveRemove => exact moved_receiveRemove hstep
  | endPass => exact moved_endPass hstep
  | receiveFailed => exact moved_receiveFailed hstep
  | collectSessions => exact moved_collectSessions hstep
  | expireSession idle => exact moved_expireSession hstep
  | cleanupRemove => exact moved_cleanupRemove hstep
  | checkClosed id => exact moved_checkClosed hstep
  | receiveReply id => exact moved_receiveReply hstep
  | receiveReplyFailed id => exact moved_receiveReplyFailed hstep
  | checkCurrent id => exact moved_checkCurrent hstep
  | sendReply id => exact moved_sendReply hstep
  | sendReplyFailed id => exact moved_sendReplyFailed hstep
  | replyRemove id => exact moved_replyRemove hkeyed hstep
  | cancel id => exact moved_cancel hstep
  | publish allocation => exact moved_publish hstep
  | stop => exact moved_stop hstep
  | receiveStopped => exact moved_receiveStopped hstep
  | cleanupStopped => exact moved_cleanupStopped hstep
  | drain => exact moved_drain hstep
  | closeSession => exact moved_closeSession hstep
  | finish => exact moved_finish hstep

end Udp
end Runtime
end Relayd
