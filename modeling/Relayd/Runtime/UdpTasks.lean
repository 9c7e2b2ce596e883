import Relayd.Runtime.UdpListener

/-!
# Where the sessions of a udp listener are

A session enters the table once.  After it has left, tasks may still hold on to it:
the receive loop in its batch, the cleanup loop in what it has collected, a reply loop
in its own, an update or a deletion in what it has drained.  Every session a task
holds has stood in the table, and one that is being taken down has left it for good.
-/

namespace Relayd
namespace Runtime
namespace Udp

open Foundation

/-!
# Sessions and the table
-/

def Holds (entry : ListenerEntry) (session : UdpSession) : Prop :=
  entry.table.lookup session.clientAddr = some session

/-- The session has left the table for good. -/
def Gone (entry : ListenerEntry) (session : UdpSession) : Prop :=
  Known entry session ∧ ¬ Holds entry session

theorem holds_of_lookup {entry : ListenerEntry} {addr : SocketAddr} {session : UdpSession}
    (h : entry.table.lookup addr = some session) : Holds entry session := by
  unfold Holds
  rw [SessionTable.lookup_clientAddr h]
  exact h

theorem Known.numbered {entry : ListenerEntry} {session : UdpSession}
    (h : Known entry session) : session.id < entry.table.nextSession := by
  rcases h with ⟨earlier, hlater, hsession⟩
  exact Nat.lt_of_lt_of_le (earlier.table.numbered _ session hsession) hlater.next

theorem Known.holds_later {entry entry' : ListenerEntry} {session : UdpSession}
    (h : Known entry session) (hlater : Later entry entry')
    (hholds : Holds entry' session) : Holds entry session := by
  rcases hlater.kept _ session hholds with hold | hnew
  · exact hold
  · exact absurd hnew (Nat.not_le_of_lt h.numbered)

theorem Gone.later {entry entry' : ListenerEntry} {session : UdpSession}
    (h : Gone entry session) (hlater : Later entry entry') : Gone entry' session :=
  ⟨h.1.later hlater, fun hholds => h.2 (h.1.holds_later hlater hholds)⟩

theorem Gone.ne_id {entry : ListenerEntry} {addr : SocketAddr} {gone session : UdpSession}
    (h : Gone entry gone) (hsession : entry.table.lookup addr = some session) :
    session.id ≠ gone.id := by
  intro hid
  have heq := (h.1.same_or_older hsession).1 hid.symm
  rw [← heq] at hsession
  exact h.2 (holds_of_lookup hsession)

/-- The table loses sessions or flags are set, and nothing else changes. -/
structure Shrinks (entry entry' : ListenerEntry) : Prop where
  later : Later entry entry'
  sessions : forall addr session, entry'.table.lookup addr = some session ->
    entry.table.lookup addr = some session
  closed : forall id, id ∈ entry.closed -> id ∈ entry'.closed
  generation : entry'.generation = entry.generation
  stateGeneration : entry'.stateGeneration = entry.stateGeneration

theorem shrinks_close (entry : ListenerEntry) (id : Nat) : Shrinks entry (entry.close id) where
  later := Later.of_table rfl
  sessions := fun _ _ h => h
  closed := fun _ h => List.mem_cons_of_mem _ h
  generation := rfl
  stateGeneration := rfl

theorem shrinks_closeEach (sessions : List UdpSession) (entry : ListenerEntry) :
    Shrinks entry (Listener.closeEach sessions entry) ∧
      (Listener.closeEach sessions entry).table = entry.table := by
  induction sessions generalizing entry with
  | nil => exact ⟨⟨later_refl _, fun _ _ h => h, fun _ h => h, rfl, rfl⟩, rfl⟩
  | cons session rest ih =>
      rcases ih (entry.close session.id) with ⟨hrest, htable⟩
      refine ⟨⟨Later.of_table htable, ?_, ?_, hrest.generation, hrest.stateGeneration⟩, htable⟩
      · intro addr found hfound
        exact hrest.sessions addr found hfound
      · intro id hid
        exact hrest.closed id (List.mem_cons_of_mem _ hid)

theorem removeSession_eq_some {entry : ListenerEntry} {expected session : UdpSession}
    (h : (entry.removeSession expected).1 = some session) :
    entry.table.lookup expected.clientAddr = some session ∧ session.id = expected.id ∧
      (entry.removeSession expected).2 =
        { entry with table := entry.table.erase expected.clientAddr } := by
  unfold ListenerEntry.removeSession at h ⊢
  split at h
  · next found hlookup =>
    split at h
    · next hid =>
      cases h
      exact ⟨hlookup, hid, by rw [if_pos hid]⟩
    · cases h
  · cases h

theorem shrinks_erase (entry : ListenerEntry) (addr : SocketAddr) :
    Shrinks entry { entry with table := entry.table.erase addr } := by
  have hsessions : forall other session,
      (entry.table.erase addr).lookup other = some session ->
        entry.table.lookup other = some session := by
    intro other session hsession
    rw [SessionTable.lookup_erase] at hsession
    split at hsession
    · cases hsession
    · exact hsession
  exact ⟨⟨Nat.le_refl _, fun other session h => Or.inl (hsessions other session h)⟩,
    hsessions, fun _ h => h, rfl, rfl⟩

/-!
# What each task carries
-/

def ReceivePhase.sessions : ReceivePhase -> List UdpSession
  | .resolving batch => batch.sessions
  | .creating batch _ => batch.sessions
  | .replacing batch session replaced => session :: replaced.session :: batch.sessions
  | .spawning batch session => session :: batch.sessions
  | .storing batch session => session :: batch.sessions
  | .checking _ unchecked checked => unchecked ++ checked
  | .forwarding sessions => sessions
  | .removing sessions removal => removal.session :: sessions
  | _ => []

/-- The session in the table whose reply loop has no handle yet. -/
def ReceivePhase.starting : ReceivePhase -> Option UdpSession
  | .replacing _ session _ => some session
  | .spawning _ session => some session
  | .storing _ session => some session
  | _ => none

def ReceivePhase.teardown : ReceivePhase -> Option Teardown
  | .replacing _ _ replaced => some replaced
  | .removing _ removal => some removal
  | _ => none

def CleanupPhase.sessions : CleanupPhase -> List UdpSession
  | .expiring sessions => sessions
  | .removing sessions removal => removal.session :: sessions
  | _ => []

def CleanupPhase.teardown : CleanupPhase -> Option Teardown
  | .removing _ removal => some removal
  | _ => none

def ControlPhase.pending : ControlPhase -> List Teardown
  | .closing _ pending => pending
  | _ => []

section Tasks

variable {s : Listener}

theorem lookup_setReply (session : UdpSession) (phase : ReplyPhase) (id : Nat) :
    (s.setReply session phase).replies.lookup id =
      if id = session.id then some ⟨session, phase⟩ else s.replies.lookup id :=
  lookup_insert_eq s.replies session.id id _

theorem lookup_endReply {id other : Nat} {task : ReplyTask}
    (h : (s.endReply id).replies.lookup other = some task) :
    s.replies.lookup other = some task := by
  unfold Listener.endReply at h
  rw [lookup_erase_eq] at h
  split at h
  · cases h
  · exact h

theorem known_add {batch : Batch} {session : UdpSession}
    (hbatch : forall found, found ∈ batch.sessions -> Known s.entry found)
    (hsession : Known s.entry session) :
    forall found, found ∈ (batch.add session).sessions -> Known s.entry found := by
  intro found hfound
  rcases List.mem_append.mp hfound with hold | hnew
  · exact hbatch found hold
  · rw [List.mem_singleton.mp hnew]
    exact hsession

theorem later_drain (entry : ListenerEntry) : Later entry entry.drain.2 where
  next := Nat.le_refl _
  kept := by
    intro addr session hsession
    cases hsession

end Tasks

/-!
# One more stage of a teardown
-/

/-- What `advance` does to a session that has stood in the table. -/
inductive Proceeds (awaits : Bool) (s : Listener) :
    Teardown -> Listener -> Option Teardown -> Prop where
  | taken {session : UdpSession} (h : Holds s.entry session) :
      Proceeds awaits s ⟨session, .locking⟩
        { s with
          entry := { s.entry with table := s.entry.table.erase session.clientAddr } }
        (some ⟨session, .closing⟩)
  | missed {session : UdpSession} (h : ¬ Holds s.entry session) :
      Proceeds awaits s ⟨session, .locking⟩ s none
  | closed {session : UdpSession} :
      Proceeds awaits s ⟨session, .closing⟩ { s with entry := s.entry.close session.id }
        (some ⟨session, .aborting⟩)
  | aborted {session : UdpSession} (h : session.id ∈ s.handles) :
      Proceeds awaits s ⟨session, .aborting⟩ (s.abortReplyTask session.id)
        (if awaits then some ⟨session, .awaiting⟩ else none)
  | unhandled {session : UdpSession} (h : session.id ∉ s.handles) :
      Proceeds awaits s ⟨session, .aborting⟩ s none
  | joined {session : UdpSession} (h : s.replies.lookup session.id = none) :
      Proceeds awaits s ⟨session, .awaiting⟩ s none

section Advance

variable {s s' : Listener} {awaits : Bool} {teardown : Teardown} {rest : Option Teardown}

theorem proceeds_of_advance (hknown : Known s.entry teardown.session)
    (h : s.advance awaits teardown = some (s', rest)) :
    Proceeds awaits s teardown s' rest := by
  rcases teardown with ⟨session, stage⟩
  cases stage with
  | locking =>
      simp only [Listener.advance] at h
      cases hremoved : (s.entry.removeSession session).1 with
      | none =>
          rw [hremoved] at h
          cases h
          apply Proceeds.missed
          intro hholds
          unfold Holds at hholds
          simp [ListenerEntry.removeSession, hholds] at hremoved
      | some found =>
          rw [hremoved] at h
          cases h
          rcases removeSession_eq_some hremoved with ⟨hlookup, hid, hentry⟩
          have hsame := (hknown.same_or_older hlookup).1 hid.symm
          rw [← hsame, hentry]
          rw [← hsame] at hlookup
          exact Proceeds.taken hlookup
  | closing =>
      cases h
      exact Proceeds.closed
  | aborting =>
      simp only [Listener.advance] at h
      split at h
      · next hhandle =>
        cases h
        exact Proceeds.aborted hhandle
      · next hhandle =>
        cases h
        exact Proceeds.unhandled hhandle
  | awaiting =>
      simp only [Listener.advance] at h
      split at h
      · next htask =>
        cases h
        exact Proceeds.joined htask
      · cases h

theorem not_holds_erase (entry : ListenerEntry) (session : UdpSession) :
    ¬ Holds { entry with table := entry.table.erase session.clientAddr } session := by
  intro hholds
  unfold Holds at hholds
  rw [SessionTable.lookup_erase, if_pos rfl] at hholds
  cases hholds

theorem Proceeds.shrinks (h : Proceeds awaits s teardown s' rest) :
    Shrinks s.entry s'.entry := by
  cases h with
  | taken => exact shrinks_erase s.entry _
  | closed => exact shrinks_close s.entry _
  | _ => exact ⟨later_refl _, fun _ _ h => h, fun _ h => h, rfl, rfl⟩

/-- Nothing but the table, the flags and the handles takes part. -/
theorem Proceeds.frame (h : Proceeds awaits s teardown s' rest) :
    s'.replies = s.replies ∧ s'.receive = s.receive ∧ s'.cleanup = s.cleanup ∧
      s'.control = s.control := by
  cases h with
  | _ => exact ⟨rfl, rfl, rfl, rfl⟩

/-- What is left of a teardown concerns the same session, which is gone. -/
theorem Proceeds.left (h : Proceeds awaits s teardown s' rest)
    (hknown : Known s.entry teardown.session)
    (hgone : teardown.stage ≠ .locking -> Gone s.entry teardown.session)
    {more : Teardown} (hmore : rest = some more) :
    more.session = teardown.session ∧ more.stage ≠ .locking ∧
      Gone s'.entry more.session := by
  have hlater := h.shrinks.later
  cases h with
  | taken =>
      cases hmore
      exact ⟨rfl, by simp, hknown.later hlater, not_holds_erase _ _⟩
  | closed =>
      cases hmore
      exact ⟨rfl, by simp, (hgone (by simp)).later hlater⟩
  | aborted =>
      split at hmore
      · cases hmore
        exact ⟨rfl, by simp, (hgone (by simp)).later hlater⟩
      · cases hmore
  | missed => cases hmore
  | unhandled => cases hmore
  | joined => cases hmore

end Advance

/-!
# Every session has its place
-/

structure Placed (s : Listener) : Prop where
  receiveKnown : forall session, session ∈ s.receive.sessions -> Known s.entry session
  receiveGone : forall teardown, s.receive.teardown = some teardown ->
    teardown.stage ≠ .locking -> Gone s.entry teardown.session
  cleanupKnown : forall session, session ∈ s.cleanup.sessions -> Known s.entry session
  cleanupGone : forall teardown, s.cleanup.teardown = some teardown ->
    teardown.stage ≠ .locking -> Gone s.entry teardown.session
  taskKnown : forall id task, s.replies.lookup id = some task ->
    task.session.id = id ∧ Known s.entry task.session
  taskGone : forall id session stage,
    s.replies.lookup id = some ⟨session, .removing stage⟩ ->
    stage ≠ .locking -> Gone s.entry session
  pendingGone : forall teardown, teardown ∈ s.control.pending ->
    teardown.stage ≠ .locking ∧ Gone s.entry teardown.session

section Changes

variable {s : Listener}

/-- The session that the receive loop takes down is one of those it knows. -/
theorem Placed.teardownKnown (h : Placed s) {teardown : Teardown}
    (hteardown : s.receive.teardown = some teardown) : Known s.entry teardown.session := by
  apply h.receiveKnown
  cases hreceive : s.receive with
  | replacing batch session replaced =>
      rw [hreceive] at hteardown
      cases hteardown
      exact List.mem_cons_of_mem _ List.mem_cons_self
  | removing sessions removal =>
      rw [hreceive] at hteardown
      cases hteardown
      exact List.mem_cons_self
  | _ =>
      rw [hreceive] at hteardown
      cases hteardown

theorem Placed.cleanupTeardownKnown (h : Placed s) {teardown : Teardown}
    (hteardown : s.cleanup.teardown = some teardown) : Known s.entry teardown.session := by
  apply h.cleanupKnown
  cases hcleanup : s.cleanup with
  | removing sessions removal =>
      rw [hcleanup] at hteardown
      cases hteardown
      exact List.mem_cons_self
  | _ =>
      rw [hcleanup] at hteardown
      cases hteardown

theorem Placed.withReceive (h : Placed s) {receive : ReceivePhase}
    (hknown : forall session, session ∈ receive.sessions -> Known s.entry session)
    (hgone : forall teardown, receive.teardown = some teardown ->
      teardown.stage ≠ .locking -> Gone s.entry teardown.session) :
    Placed { s with receive := receive } :=
  { h with
    receiveKnown := hknown
    receiveGone := hgone }

/-- The receive loop goes on with sessions it knows, and takes none down. -/
theorem Placed.proceed (h : Placed s) {receive : ReceivePhase}
    (hknown : forall session, session ∈ receive.sessions -> Known s.entry session)
    (hteardown : receive.teardown = none) : Placed { s with receive := receive } := by
  apply h.withReceive hknown
  intro teardown hsome
  rw [hteardown] at hsome
  cases hsome

theorem Placed.withCleanup (h : Placed s) {cleanup : CleanupPhase}
    (hknown : forall session, session ∈ cleanup.sessions -> Known s.entry session)
    (hgone : forall teardown, cleanup.teardown = some teardown ->
      teardown.stage ≠ .locking -> Gone s.entry teardown.session) :
    Placed { s with cleanup := cleanup } :=
  { h with
    cleanupKnown := hknown
    cleanupGone := hgone }

theorem Placed.withControl (h : Placed s) {control : ControlPhase}
    (hpending : forall teardown, teardown ∈ control.pending ->
      teardown.stage ≠ .locking ∧ Gone s.entry teardown.session) :
    Placed { s with control := control } :=
  { h with pendingGone := hpending }

theorem Placed.setReply (h : Placed s) {session : UdpSession} {phase : ReplyPhase}
    (hknown : Known s.entry session)
    (hgone : forall stage, phase = .removing stage -> stage ≠ .locking ->
      Gone s.entry session) : Placed (s.setReply session phase) :=
  { h with
    taskKnown := by
      intro id task htask
      rw [lookup_setReply] at htask
      split at htask
      · next hid =>
        cases htask
        exact ⟨hid.symm, hknown⟩
      · exact h.taskKnown id task htask
    taskGone := by
      intro id found stage htask hstage
      rw [lookup_setReply] at htask
      split at htask
      · cases htask
        exact hgone stage rfl hstage
      · exact h.taskGone id found stage htask hstage }

theorem Placed.endReply (h : Placed s) (id : Nat) : Placed (s.endReply id) :=
  { h with
    taskKnown := fun other task htask => h.taskKnown other task (lookup_endReply htask)
    taskGone := fun other session stage htask =>
      h.taskGone other session stage (lookup_endReply htask) }

theorem Placed.later (h : Placed s) {entry : ListenerEntry} (hlater : Later s.entry entry) :
    Placed { s with entry := entry } where
  receiveKnown := fun session hmem => (h.receiveKnown session hmem).later hlater
  receiveGone := fun teardown hsome hstage =>
    (h.receiveGone teardown hsome hstage).later hlater
  cleanupKnown := fun session hmem => (h.cleanupKnown session hmem).later hlater
  cleanupGone := fun teardown hsome hstage =>
    (h.cleanupGone teardown hsome hstage).later hlater
  taskKnown := fun id task htask =>
    ⟨(h.taskKnown id task htask).1, (h.taskKnown id task htask).2.later hlater⟩
  taskGone := fun id session stage htask hstage =>
    (h.taskGone id session stage htask hstage).later hlater
  pendingGone := fun teardown hmem =>
    ⟨(h.pendingGone teardown hmem).1, (h.pendingGone teardown hmem).2.later hlater⟩

theorem Placed.close (h : Placed s) (id : Nat) :
    Placed { s with entry := s.entry.close id } :=
  h.later (shrinks_close s.entry id).later

theorem Placed.advance (h : Placed s) {awaits : Bool} {s' : Listener} {teardown : Teardown}
    {rest : Option Teardown} (hadvance : Proceeds awaits s teardown s' rest) :
    Placed s' := by
  have hlater := hadvance.shrinks.later
  cases hadvance with
  | taken => exact h.later hlater
  | closed => exact h.later hlater
  | aborted => exact { h with }
  | missed => exact h
  | unhandled => exact h
  | joined => exact h

end Changes

/-!
# Steps of the receive loop
-/

section Receive

variable {s s' : Listener}

theorem placed_readState (h : Placed s) (hstep : s.readState = some s') : Placed s' := by
  unfold Listener.readState at hstep
  split at hstep
  · split at hstep
    · cases hstep
      exact h
    · cases hstep
      apply h.proceed _ rfl
      intro session hmem
      cases hmem
  · cases hstep

theorem placed_lookupSession (h : Placed s) {addr : SocketAddr}
    (hstep : s.lookupSession addr = some s') : Placed s' := by
  unfold Listener.lookupSession at hstep
  split at hstep
  · next batch hreceive =>
    have hbatch := h.receiveKnown
    rw [hreceive] at hbatch
    split at hstep
    · next session hfound =>
      cases hstep
      have hknown := Known.of_lookup (current_eq_some (lookupSession_eq_found hfound)).1
      exact h.proceed (known_add hbatch hknown) rfl
    · cases hstep
      exact h
    · cases hstep
      exact h.proceed hbatch rfl
  · cases hstep

theorem placed_createFailed (h : Placed s) (hstep : s.createFailed = some s') :
    Placed s' := by
  unfold Listener.createFailed at hstep
  split at hstep
  · next batch addr hreceive =>
    cases hstep
    have hbatch := h.receiveKnown
    rw [hreceive] at hbatch
    exact h.proceed hbatch rfl
  · cases hstep

/-- A session that an insertion replaces has left the table. -/
theorem gone_replaced {entry : ListenerEntry} {addr : SocketAddr} {replaced : UdpSession}
    (hlookup : entry.table.lookup addr = some replaced) (generation : UInt64)
    (upstream : Target) : Gone (entry.withSession addr generation upstream) replaced := by
  have hlater := later_withSession entry addr generation upstream
  have hnumbered := entry.table.numbered addr replaced hlookup
  constructor
  · exact (Known.of_lookup hlookup).later hlater
  · intro hholds
    unfold Holds at hholds
    rw [lookup_withSession, SessionTable.lookup_clientAddr hlookup, if_pos rfl] at hholds
    have hid := congrArg UdpSession.id (Option.some.inj hholds)
    exact absurd hid (Nat.ne_of_gt hnumbered)

theorem holds_fresh (entry : ListenerEntry) (addr : SocketAddr) (generation : UInt64)
    (upstream : Target) :
    Holds (entry.withSession addr generation upstream)
      (entry.table.fresh addr generation upstream) := by
  unfold Holds
  rw [lookup_withSession]
  exact if_pos rfl

theorem placed_insertSession (h : Placed s) (hstep : s.insertSession = some s') :
    Placed s' := by
  unfold Listener.insertSession at hstep
  split at hstep
  · next batch addr hreceive =>
    have hbatch := h.receiveKnown
    rw [hreceive] at hbatch
    rcases insertSession_cases s.entry addr batch.generation batch.target with
      ⟨session, hcurrent, heq⟩ | ⟨_, _, heq⟩ | ⟨_, _, heq⟩
    · simp only [heq] at hstep
      cases hstep
      have hknown := Known.of_lookup (current_eq_some hcurrent).1
      exact h.proceed (known_add hbatch hknown) rfl
    · simp only [heq] at hstep
      cases hstep
      exact h.proceed hbatch rfl
    · simp only [heq] at hstep
      have hlater := later_withSession s.entry addr batch.generation batch.target
      have hfresh := Known.of_lookup
        (holds_fresh s.entry addr batch.generation batch.target)
      cases hlookup : s.entry.table.lookup addr with
      | none =>
          rw [hlookup] at hstep
          cases hstep
          refine (h.later hlater).proceed ?_ rfl
          intro session hmem
          rcases List.mem_cons.mp hmem with hnew | hold
          · rw [hnew]
            exact hfresh
          · exact (hbatch session hold).later hlater
      | some replaced =>
          rw [hlookup] at hstep
          cases hstep
          have hgone := gone_replaced hlookup batch.generation batch.target
          apply (h.later hlater).withReceive
          · intro session hmem
            rcases List.mem_cons.mp hmem with hnew | hrest
            · rw [hnew]
              exact hfresh
            · rcases List.mem_cons.mp hrest with hreplaced | hold
              · rw [hreplaced]
                exact hgone.1
              · exact (hbatch session hold).later hlater
          · intro teardown hsome _
            cases hsome
            exact hgone
  · cases hstep

theorem placed_replaceSession (h : Placed s) (hstep : s.replaceSession = some s') :
    Placed s' := by
  rcases Listener.replaceSession_cases hstep with ⟨batch, session, replaced, hreceive, hrest⟩
  have hbefore : s.receive.teardown = some replaced := by rw [hreceive]; rfl
  have hreplaced := h.teardownKnown hbefore
  have hgone := h.receiveGone replaced hbefore
  rcases hrest with ⟨advanced, teardown, hadvance, rfl⟩ | ⟨advanced, hadvance, rfl⟩
  · have hdone := proceeds_of_advance hreplaced hadvance
    rcases hdone.left hreplaced hgone rfl with ⟨hsession, _, hmore⟩
    have hplaced := h.advance hdone
    have hknown := hplaced.receiveKnown
    rw [hdone.frame.2.1, hreceive] at hknown
    apply hplaced.withReceive
    · rw [ReceivePhase.sessions, hsession]
      exact hknown
    · intro found hfound _
      cases hfound
      exact hmore
  · have hdone := proceeds_of_advance hreplaced hadvance
    have hplaced := h.advance hdone
    have hknown := hplaced.receiveKnown
    rw [hdone.frame.2.1, hreceive] at hknown
    refine hplaced.proceed ?_ rfl
    intro found hfound
    apply hknown found
    rcases List.mem_cons.mp hfound with hsame | hold
    · exact List.mem_cons.mpr (Or.inl hsame)
    · exact List.mem_cons_of_mem _ (List.mem_cons_of_mem _ hold)

theorem placed_spawnReplyLoop (h : Placed s) (hstep : s.spawnReplyLoop = some s') :
    Placed s' := by
  unfold Listener.spawnReplyLoop at hstep
  split at hstep
  · next batch session hreceive =>
    have hknown := h.receiveKnown
    rw [hreceive] at hknown
    have hsession := hknown session List.mem_cons_self
    split at hstep
    · cases hstep
      refine h.proceed (known_add ?_ hsession) rfl
      exact fun found hfound => hknown found (List.mem_cons_of_mem _ hfound)
    · cases hstep
      exact (h.setReply hsession (by simp)).proceed hknown rfl
  · cases hstep

theorem placed_storeHandle (h : Placed s) (hstep : s.storeHandle = some s') :
    Placed s' := by
  unfold Listener.storeHandle at hstep
  split at hstep
  · next batch session hreceive =>
    have hknown := h.receiveKnown
    rw [hreceive] at hknown
    cases hstep
    have hstored : Placed { s with handles := session.id :: s.handles } := { h with }
    refine hstored.proceed (known_add ?_ (hknown session List.mem_cons_self)) rfl
    exact fun found hfound => hknown found (List.mem_cons_of_mem _ hfound)
  · cases hstep

theorem placed_loadGeneration (h : Placed s) (hstep : s.loadGeneration = some s') :
    Placed s' := by
  unfold Listener.loadGeneration at hstep
  split at hstep
  · next batch hreceive =>
    have hbatch := h.receiveKnown
    rw [hreceive] at hbatch
    split at hstep
    · cases hstep
      refine h.proceed ?_ rfl
      intro session hmem
      rw [ReceivePhase.sessions, List.append_nil] at hmem
      exact hbatch session hmem
    · cases hstep
      have hlater := (shrinks_closeEach batch.sessions s.entry).1.later
      refine (h.later hlater).proceed ?_ rfl
      intro session hmem
      cases hmem
  · cases hstep

theorem placed_checkSession (h : Placed s) (hstep : s.checkSession = some s') :
    Placed s' := by
  unfold Listener.checkSession at hstep
  split at hstep
  · next generation checked hreceive =>
    have hknown := h.receiveKnown
    rw [hreceive] at hknown
    cases hstep
    exact h.proceed hknown rfl
  · next generation session rest checked hreceive =>
    have hknown := h.receiveKnown
    rw [hreceive] at hknown
    split at hstep
    · cases hstep
      have hclosed := h.close session.id
      refine hclosed.proceed ?_ rfl
      intro found hfound
      have hold := hknown found (List.mem_cons_of_mem _ hfound)
      exact hold.later (shrinks_close s.entry session.id).later
    · cases hstep
      refine h.proceed ?_ rfl
      intro found hfound
      apply hknown found
      simp only [ReceivePhase.sessions, List.mem_append, List.mem_cons] at hfound ⊢
      tauto
  · cases hstep

theorem placed_sendDatagram (h : Placed s) {session : UdpSession}
    (hstep : s.sendDatagram session = some s') : Placed s' := by
  unfold Listener.sendDatagram at hstep
  split at hstep
  · split at hstep
    · cases hstep
      exact { h with }
    · cases hstep
  · cases hstep

theorem placed_sendFailed (h : Placed s) {session : UdpSession}
    (hstep : s.sendFailed session = some s') : Placed s' := by
  unfold Listener.sendFailed at hstep
  split at hstep
  · next sessions hreceive =>
    have hknown := h.receiveKnown
    rw [hreceive] at hknown
    split at hstep
    · next hmem =>
      cases hstep
      apply h.withReceive
      · intro found hfound
        rcases List.mem_cons.mp hfound with hsame | hold
        · rw [hsame]
          exact hknown session hmem
        · exact hknown found hold
      · intro teardown hsome hstage
        cases hsome
        exact absurd rfl hstage
    · cases hstep
  · cases hstep

theorem placed_receiveRemove (h : Placed s) (hstep : s.receiveRemove = some s') :
    Placed s' := by
  rcases Listener.receiveRemove_cases hstep with ⟨sessions, removal, hreceive, hrest⟩
  have hbefore : s.receive.teardown = some removal := by rw [hreceive]; rfl
  have hremoval := h.teardownKnown hbefore
  have hgone := h.receiveGone removal hbefore
  rcases hrest with ⟨advanced, teardown, hadvance, rfl⟩ | ⟨advanced, hadvance, rfl⟩
  · have hdone := proceeds_of_advance hremoval hadvance
    rcases hdone.left hremoval hgone rfl with ⟨hsession, _, hmore⟩
    have hplaced := h.advance hdone
    have hknown := hplaced.receiveKnown
    rw [hdone.frame.2.1, hreceive] at hknown
    apply hplaced.withReceive
    · rw [ReceivePhase.sessions, hsession]
      exact hknown
    · intro found hfound _
      cases hfound
      exact hmore
  · have hdone := proceeds_of_advance hremoval hadvance
    have hplaced := h.advance hdone
    have hknown := hplaced.receiveKnown
    rw [hdone.frame.2.1, hreceive] at hknown
    refine hplaced.proceed ?_ rfl
    exact fun found hfound => hknown found (List.mem_cons_of_mem _ hfound)

theorem placed_endPass (h : Placed s) (hstep : s.endPass = some s') : Placed s' := by
  unfold Listener.endPass at hstep
  split at hstep
  · cases hstep
    apply h.proceed _ rfl
    intro session hmem
    cases hmem
  · cases hstep

theorem Placed.receiveEnded (h : Placed s) : Placed { s with receive := .ended } := by
  apply h.proceed _ rfl
  intro session hmem
  cases hmem

theorem placed_receiveFailed (h : Placed s) (hstep : s.receiveFailed = some s') :
    Placed s' := by
  unfold Listener.receiveFailed at hstep
  split at hstep
  · cases hstep
    exact h.receiveEnded
  · cases hstep

end Receive

/-!
# Steps of the cleanup loop and of the reply loops
-/

section Loops

variable {s s' : Listener} {id : Nat}

theorem placed_collectSessions (h : Placed s) (hstep : s.collectSessions = some s') :
    Placed s' := by
  unfold Listener.collectSessions at hstep
  split at hstep
  · cases hstep
    apply h.withCleanup
    · intro session hmem
      rcases mem_values.mp hmem with ⟨addr, hlookup⟩
      exact Known.of_lookup hlookup
    · intro teardown hsome
      cases hsome
  · cases hstep

theorem placed_expireSession (h : Placed s) {idle : Bool}
    (hstep : s.expireSession idle = some s') : Placed s' := by
  unfold Listener.expireSession at hstep
  split at hstep
  · cases hstep
    apply h.withCleanup
    · intro session hmem
      cases hmem
    · intro teardown hsome
      cases hsome
  · next session rest hcleanup =>
    have hknown := h.cleanupKnown
    rw [hcleanup] at hknown
    split at hstep
    · cases hstep
      apply h.withCleanup
      · exact hknown
      · intro teardown hsome hstage
        cases hsome
        exact absurd rfl hstage
    · cases hstep
      apply h.withCleanup
      · exact fun found hfound => hknown found (List.mem_cons_of_mem _ hfound)
      · intro teardown hsome
        cases hsome
  · cases hstep

theorem placed_cleanupRemove (h : Placed s) (hstep : s.cleanupRemove = some s') :
    Placed s' := by
  rcases Listener.cleanupRemove_cases hstep with ⟨sessions, removal, hcleanup, hrest⟩
  have hbefore : s.cleanup.teardown = some removal := by rw [hcleanup]; rfl
  have hremoval := h.cleanupTeardownKnown hbefore
  have hgone := h.cleanupGone removal hbefore
  rcases hrest with ⟨advanced, teardown, hadvance, rfl⟩ | ⟨advanced, hadvance, rfl⟩
  · have hdone := proceeds_of_advance hremoval hadvance
    rcases hdone.left hremoval hgone rfl with ⟨hsession, _, hmore⟩
    have hplaced := h.advance hdone
    have hknown := hplaced.cleanupKnown
    rw [hdone.frame.2.2.1, hcleanup] at hknown
    apply hplaced.withCleanup
    · rw [CleanupPhase.sessions, hsession]
      exact hknown
    · intro found hfound _
      cases hfound
      exact hmore
  · have hdone := proceeds_of_advance hremoval hadvance
    have hplaced := h.advance hdone
    have hknown := hplaced.cleanupKnown
    rw [hdone.frame.2.2.1, hcleanup] at hknown
    apply hplaced.withCleanup
    · exact fun found hfound => hknown found (List.mem_cons_of_mem _ hfound)
    · intro teardown hsome
      cases hsome

/-- A reply loop goes on to a phase that takes nothing down. -/
theorem Placed.carryOn (h : Placed s) {session : UdpSession} {before phase : ReplyPhase}
    (htask : s.replies.lookup id = some ⟨session, before⟩)
    (hphase : forall stage, phase = .removing stage -> stage = .locking) :
    Placed (s.setReply session phase) := by
  apply h.setReply (h.taskKnown id _ htask).2
  intro stage hremoving hstage
  exact absurd (hphase stage hremoving) hstage

theorem placed_checkClosed (h : Placed s) (hstep : s.checkClosed id = some s') :
    Placed s' := by
  unfold Listener.checkClosed at hstep
  split at hstep
  · next session htask =>
    split at hstep
    · cases hstep
      exact h.endReply id
    · cases hstep
      exact h.carryOn htask (by simp)
  · cases hstep

theorem placed_receiveReply (h : Placed s) (hstep : s.receiveReply id = some s') :
    Placed s' := by
  unfold Listener.receiveReply at hstep
  split at hstep
  · next session htask =>
    cases hstep
    exact h.carryOn htask (by simp)
  · cases hstep

theorem placed_receiveReplyFailed (h : Placed s)
    (hstep : s.receiveReplyFailed id = some s') : Placed s' := by
  unfold Listener.receiveReplyFailed at hstep
  split at hstep
  · next session htask =>
    cases hstep
    exact h.carryOn htask (by simp)
  · cases hstep

theorem placed_checkCurrent (h : Placed s) (hstep : s.checkCurrent id = some s') :
    Placed s' := by
  unfold Listener.checkCurrent at hstep
  split at hstep
  · next session htask =>
    split at hstep
    · cases hstep
      exact h.carryOn htask (by simp)
    · cases hstep
      exact (h.close id).endReply id
  · cases hstep

theorem placed_sendReply (h : Placed s) (hstep : s.sendReply id = some s') :
    Placed s' := by
  unfold Listener.sendReply at hstep
  split at hstep
  · next session htask =>
    cases hstep
    have hlooping : Placed (s.setReply session .looping) := h.carryOn htask (by simp)
    exact { hlooping with }
  · cases hstep

theorem placed_sendReplyFailed (h : Placed s) (hstep : s.sendReplyFailed id = some s') :
    Placed s' := by
  unfold Listener.sendReplyFailed at hstep
  split at hstep
  · next session htask =>
    cases hstep
    exact h.carryOn htask (by simp)
  · cases hstep

theorem placed_replyRemove (h : Placed s) (hstep : s.replyRemove id = some s') :
    Placed s' := by
  rcases Listener.replyRemove_cases hstep with ⟨session, stage, htask, hrest⟩
  have hknown := (h.taskKnown id _ htask).2
  have hgone := h.taskGone id session stage htask
  rcases hrest with ⟨advanced, teardown, hadvance, rfl⟩ | ⟨advanced, hadvance, rfl⟩
  · have hdone := proceeds_of_advance hknown hadvance
    rcases hdone.left hknown hgone rfl with ⟨hsession, _, hmore⟩
    rw [hsession] at hmore
    apply (h.advance hdone).setReply hmore.1
    exact fun _ _ _ => hmore
  · exact (h.advance (proceeds_of_advance hknown hadvance)).endReply id

theorem placed_cancel (h : Placed s) (hstep : s.cancel id = some s') : Placed s' := by
  unfold Listener.cancel at hstep
  split at hstep
  · cases hstep
    exact h.endReply id
  · cases hstep

end Loops

/-!
# Updates and deletion
-/

section Control

variable {s s' : Listener}

/-- The control goes on without sessions to close. -/
theorem Placed.steer (h : Placed s) {control : ControlPhase} (hpending : control.pending = []) :
    Placed { s with control := control } := by
  apply h.withControl
  intro teardown hmem
  rw [hpending] at hmem
  cases hmem

theorem placed_publish (h : Placed s) {allocation : Allocation}
    (hstep : s.publish allocation = some s') : Placed s' := by
  unfold Listener.publish at hstep
  split at hstep
  · cases hstep
    have hlater : Later s.entry (s.entry.publish allocation) := Later.of_table rfl
    exact (h.later hlater).steer rfl
  · cases hstep

theorem placed_stop (h : Placed s) (hstep : s.stop = some s') : Placed s' := by
  unfold Listener.stop at hstep
  split at hstep
  · cases hstep
    exact h.steer rfl
  · cases hstep

theorem placed_receiveStopped (h : Placed s) (hstep : s.receiveStopped = some s') :
    Placed s' := by
  unfold Listener.receiveStopped at hstep
  split at hstep
  · cases hstep
    exact h.receiveEnded.steer rfl
  · cases hstep

theorem Placed.cleanupEnded (h : Placed s) : Placed { s with cleanup := .ended } := by
  apply h.withCleanup
  · intro session hmem
    cases hmem
  · intro teardown hsome
    cases hsome

theorem placed_cleanupStopped (h : Placed s) (hstep : s.cleanupStopped = some s') :
    Placed s' := by
  unfold Listener.cleanupStopped at hstep
  split at hstep
  · cases hstep
    exact h.cleanupEnded.steer rfl
  · cases hstep

theorem Placed.drainInto (h : Placed s) (deleting : Bool) : Placed (s.drainInto deleting) := by
  have hlater := later_drain s.entry
  apply (h.later hlater).withControl
  intro teardown hmem
  rcases List.mem_map.mp hmem with ⟨session, hvalue, rfl⟩
  rcases mem_values.mp hvalue with ⟨addr, hlookup⟩
  constructor
  · simp
  · constructor
    · exact (Known.of_lookup hlookup).later hlater
    · intro hholds
      cases hholds

theorem placed_drain (h : Placed s) (hstep : s.drain = some s') : Placed s' := by
  unfold Listener.drain at hstep
  split at hstep
  · cases hstep
    exact h.drainInto false
  · cases hstep
    exact h.drainInto true
  · cases hstep

theorem placed_closeSession (h : Placed s) (hstep : s.closeSession = some s') :
    Placed s' := by
  rcases Listener.closeSession_cases hstep with ⟨deleting, teardown, rest, hcontrol, hrest⟩
  have hpending := h.pendingGone
  rw [hcontrol] at hpending
  have hgone := (hpending teardown List.mem_cons_self).2
  rcases hrest with ⟨advanced, more, hadvance, rfl⟩ | ⟨advanced, hadvance, rfl⟩
  · have hdone := proceeds_of_advance hgone.1 hadvance
    rcases hdone.left hgone.1 (fun _ => hgone) rfl with ⟨_, hstage, hmore⟩
    have hplaced := h.advance hdone
    have hrest := hplaced.pendingGone
    rw [hdone.frame.2.2.2, hcontrol] at hrest
    apply hplaced.withControl
    intro found hfound
    rcases List.mem_cons.mp hfound with hsame | hold
    · rw [hsame]
      exact ⟨hstage, hmore⟩
    · exact hrest found (List.mem_cons_of_mem _ hold)
  · have hdone := proceeds_of_advance hgone.1 hadvance
    have hplaced := h.advance hdone
    have hrest := hplaced.pendingGone
    rw [hdone.frame.2.2.2, hcontrol] at hrest
    apply hplaced.withControl
    exact fun found hfound => hrest found (List.mem_cons_of_mem _ hfound)

theorem placed_finish (h : Placed s) (hstep : s.finish = some s') : Placed s' := by
  unfold Listener.finish at hstep
  split at hstep
  · cases hstep
    have hidle : Placed { s with control := .idle } := h.steer rfl
    exact { hidle with }
  · cases hstep
    exact h.steer rfl
  · cases hstep

end Control

theorem placed_next {s s' : Listener} {step : Step} (h : Placed s)
    (hstep : next s step = some s') : Placed s' := by
  cases step with
  | readState => exact placed_readState h hstep
  | lookupSession addr => exact placed_lookupSession h hstep
  | createFailed => exact placed_createFailed h hstep
  | insertSession => exact placed_insertSession h hstep
  | replaceSession => exact placed_replaceSession h hstep
  | spawnReplyLoop => exact placed_spawnReplyLoop h hstep
  | storeHandle => exact placed_storeHandle h hstep
  | loadGeneration => exact placed_loadGeneration h hstep
  | checkSession => exact placed_checkSession h hstep
  | sendDatagram session => exact placed_sendDatagram h hstep
  | sendFailed session => exact placed_sendFailed h hstep
  | receiveRemove => exact placed_receiveRemove h hstep
  | endPass => exact placed_endPass h hstep
  | receiveFailed => exact placed_receiveFailed h hstep
  | collectSessions => exact placed_collectSessions h hstep
  | expireSession idle => exact placed_expireSession h hstep
  | cleanupRemove => exact placed_cleanupRemove h hstep
  | checkClosed id => exact placed_checkClosed h hstep
  | receiveReply id => exact placed_receiveReply h hstep
  | receiveReplyFailed id => exact placed_receiveReplyFailed h hstep
  | checkCurrent id => exact placed_checkCurrent h hstep
  | sendReply id => exact placed_sendReply h hstep
  | sendReplyFailed id => exact placed_sendReplyFailed h hstep
  | replyRemove id => exact placed_replyRemove h hstep
  | cancel id => exact placed_cancel h hstep
  | publish allocation => exact placed_publish h hstep
  | stop => exact placed_stop h hstep
  | receiveStopped => exact placed_receiveStopped h hstep
  | cleanupStopped => exact placed_cleanupStopped h hstep
  | drain => exact placed_drain h hstep
  | closeSession => exact placed_closeSession h hstep
  | finish => exact placed_finish h hstep

theorem placed_bound (allocation : Allocation) (maxSessions : Nat) :
    Placed (Listener.bound allocation maxSessions) where
  receiveKnown := by intro session h; cases h
  receiveGone := by intro teardown h; cases h
  cleanupKnown := by intro session h; cases h
  cleanupGone := by intro teardown h; cases h
  taskKnown := by intro id task h; cases h
  taskGone := by intro id session stage h; cases h
  pendingGone := by intro teardown h; cases h

/-!
# Values for sample runs
-/

def forwardedAllocation (host : Option String) : Allocation where
  id := "forward"
  protocol := .udp
  port := 1000
  targetPort := some 53
  host := host
  createdAtMs := 0
  updatedAtMs := 0

def firstClient : SocketAddr := .v4 ⟨127, 0, 0, 1⟩ 4000

def firstSession : UdpSession := ⟨0, 0, firstClient, ⟨"10.0.0.1", 53⟩⟩

end Udp
end Runtime
end Relayd
