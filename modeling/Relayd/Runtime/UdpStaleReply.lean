import Relayd.Runtime.UdpTasks

/-!
# Replies of replaced sessions

A reply loop checks that its session is current and sends only afterwards.  What
makes this safe is that an update waits for the reply loops of the sessions it has
drained.  It cannot wait for one whose session has left the table in another way,
so the guarantee covers the runs in which no session does so while its loop is
about to send.
-/

namespace Relayd
namespace Runtime
namespace Udp

open Foundation

/-!
# What sending rests on
-/

/-- The sessions that datagrams may be sent through. -/
def ReceivePhase.checked : ReceivePhase -> List UdpSession
  | .checking _ _ checked => checked
  | .forwarding sessions => sessions
  | .removing sessions _ => sessions
  | _ => []

/-- The reply loop that an update or a deletion waits for. -/
def ControlPhase.awaited : ControlPhase -> Option Nat
  | .closing _ (⟨session, .awaiting⟩ :: _) => some session.id
  | _ => none

/-- A deletion has seen the end of the receive loop. -/
def ControlPhase.alone : ControlPhase -> Bool
  | .stoppingCleanup => true
  | .quiet => true
  | .closing deleting _ => deleting
  | .stopped => true
  | _ => false

/-- A deletion has emptied the table. -/
def ControlPhase.drained : ControlPhase -> Bool
  | .closing deleting _ => deleting
  | .stopped => true
  | _ => false

def Sending (replies : KeyMap Nat ReplyTask) (id : Nat) : Prop :=
  exists session, replies.lookup id = some ⟨session, .sending⟩

/-- A teardown past its critical section: nobody will find the session again, and its
loop is not about to send. -/
def Left (entry : ListenerEntry) (replies : KeyMap Nat ReplyTask) (teardown : Teardown) :
    Prop :=
  teardown.stage ≠ .locking ->
    Gone entry teardown.session ∧ ¬ Sending replies teardown.session.id

/-- While the session is in the table, its reply loop can be waited for. -/
def Ready (entry : ListenerEntry) (handles : List Nat) (session : UdpSession) : Prop :=
  Holds entry session -> session.id ∈ handles

/-- Every task knows the sessions it carries, and those past a removal are gone. -/
structure Tracked (s : Listener) : Prop where
  reachedKnown : forall session, session ∈ s.reached -> Known s.entry session
  receiveKnown : forall session, session ∈ s.receive.sessions -> Known s.entry session
  receiveLeft : forall teardown, s.receive.teardown = some teardown ->
    Left s.entry s.replies teardown ∧
      (s.receive.starting ≠ none -> teardown.stage ≠ .locking)
  cleanupKnown : forall session, session ∈ s.cleanup.sessions -> Known s.entry session
  cleanupLeft : forall teardown, s.cleanup.teardown = some teardown ->
    Left s.entry s.replies teardown
  tasks : forall id task, s.replies.lookup id = some task ->
    task.session.id = id ∧ Known s.entry task.session
  tornDown : forall id session stage,
    s.replies.lookup id = some ⟨session, .removing stage⟩ ->
    Left s.entry s.replies ⟨session, stage⟩

structure Safe (s : Listener) : Prop extends Tracked s where
  generations : s.entry.stateGeneration = s.entry.generation ∧
    s.returned <= s.entry.generation
  table : forall addr session, s.entry.table.lookup addr = some session ->
    s.returned <= session.generation ∧
      (s.control ≠ .published -> session.generation = s.entry.generation)
  started : forall addr session, s.entry.table.lookup addr = some session ->
    session.id ∈ s.handles ∨ session.id ∈ s.entry.closed ∨
      s.receive.starting = some session ∨ s.receive = .ended
  ready : forall session, session ∈ s.reached ++ s.receive.checked ->
    Ready s.entry s.handles session
  answered : forall id session phase, s.replies.lookup id = some ⟨session, phase⟩ ->
    phase = .received ∨ phase = .sending -> session ∈ s.reached
  covered : forall id session, s.replies.lookup id = some ⟨session, .sending⟩ ->
    Holds s.entry session ∨
      exists teardown, teardown ∈ s.control.pending ∧ teardown.session = session
  handled : forall id session, s.replies.lookup id = some ⟨session, .sending⟩ ->
    id ∈ s.handles ∨ s.control.awaited = some id
  pending : forall teardown, teardown ∈ s.control.pending ->
    teardown.stage ≠ .locking ∧ Gone s.entry teardown.session ∧
      s.returned <= teardown.session.generation
  alone : s.control.alone = true -> s.receive = .ended
  drained : s.control.drained = true -> forall addr, s.entry.table.lookup addr = none
  replied : forall reply, reply ∈ s.replied ->
    reply.returned <= reply.session.generation ∧ reply.stopped = false

/-- An upstream sends to the socket of a session only after a datagram was sent to it
through that session. -/
def answersSent (s : Listener) : Step -> Bool
  | .receiveReply id =>
      (s.replies.lookup id).all (fun task => decide (task.session ∈ s.reached))
  | _ => true

theorem Safe.ready_of_reached {s : Listener} (h : Safe s) {session : UdpSession}
    (hmem : session ∈ s.reached) : Ready s.entry s.handles session :=
  h.ready session (List.mem_append_left _ hmem)

theorem Safe.ready_of_checked {s : Listener} (h : Safe s) (session : UdpSession)
    (hmem : session ∈ s.receive.checked) : Ready s.entry s.handles session :=
  h.ready session (List.mem_append_right _ hmem)

/-!
# How the invariant moves on

One lemma for each kind of change; the steps are put together from these.
-/

section Changes

variable {s : Listener}

theorem Safe.withReceive (h : Safe s) {receive : ReceivePhase}
    (hstarting : forall session, s.receive.starting = some session ->
      session.id ∈ s.handles ∨ session.id ∈ s.entry.closed ∨
        receive.starting = some session ∨ receive = .ended)
    (hended : s.receive = .ended -> receive = .ended)
    (hchecked : forall session, session ∈ receive.checked ->
      Ready s.entry s.handles session)
    (hknown : forall session, session ∈ receive.sessions -> Known s.entry session)
    (hleft : forall teardown, receive.teardown = some teardown ->
      Left s.entry s.replies teardown ∧
        (receive.starting ≠ none -> teardown.stage ≠ .locking)) :
    Safe { s with receive := receive } :=
  { h with
    started := by
      intro addr session hsession
      rcases h.started addr session hsession with hhandle | hclosed | hstart | hend
      · exact Or.inl hhandle
      · exact Or.inr (Or.inl hclosed)
      · exact hstarting session hstart
      · exact Or.inr (Or.inr (Or.inr (hended hend)))
    ready := by
      intro session hmem
      rcases List.mem_append.mp hmem with hreached | hready
      · exact h.ready_of_reached hreached
      · exact hchecked session hready
    receiveKnown := hknown
    receiveLeft := hleft
    alone := fun halone => hended (h.alone halone) }

theorem Safe.withCleanup (h : Safe s) {cleanup : CleanupPhase}
    (hknown : forall session, session ∈ cleanup.sessions -> Known s.entry session)
    (hleft : forall teardown, cleanup.teardown = some teardown ->
      Left s.entry s.replies teardown) :
    Safe { s with cleanup := cleanup } :=
  { h with
    cleanupKnown := hknown
    cleanupLeft := hleft }

theorem Left.later {entry entry' : ListenerEntry} {replies : KeyMap Nat ReplyTask}
    {teardown : Teardown} (h : Left entry replies teardown) (hlater : Later entry entry') :
    Left entry' replies teardown :=
  fun hstage => ⟨(h hstage).1.later hlater, (h hstage).2⟩

theorem Tracked.later (h : Tracked s) {entry : ListenerEntry} (hlater : Later s.entry entry) :
    Tracked { s with entry := entry } where
  reachedKnown := fun session hmem => (h.reachedKnown session hmem).later hlater
  receiveKnown := fun session hmem => (h.receiveKnown session hmem).later hlater
  receiveLeft := fun teardown hsome =>
    ⟨(h.receiveLeft teardown hsome).1.later hlater, (h.receiveLeft teardown hsome).2⟩
  cleanupKnown := fun session hmem => (h.cleanupKnown session hmem).later hlater
  cleanupLeft := fun teardown hsome => (h.cleanupLeft teardown hsome).later hlater
  tasks := by
    intro id task htask
    exact ⟨(h.tasks id task htask).1, (h.tasks id task htask).2.later hlater⟩
  tornDown := fun id session stage htask => (h.tornDown id session stage htask).later hlater

theorem Ready.later {entry entry' : ListenerEntry} {handles : List Nat}
    {session : UdpSession} (h : Ready entry handles session) (hknown : Known entry session)
    (hlater : Later entry entry') : Ready entry' handles session :=
  fun hholds => h (hknown.holds_later hlater hholds)

/-- The table shrinks, and keeps the sessions whose loops are about to send. -/
theorem Safe.shrink (h : Safe s) {entry : ListenerEntry} (hshrinks : Shrinks s.entry entry)
    (hsending : forall id session, s.replies.lookup id = some ⟨session, .sending⟩ ->
      Holds s.entry session -> Holds entry session) :
    Safe { s with entry := entry } :=
  { h with
    toTracked := h.toTracked.later hshrinks.later
    generations := by
      rw [hshrinks.generation, hshrinks.stateGeneration]
      exact h.generations
    table := by
      intro addr session hsession
      rw [hshrinks.generation]
      exact h.table addr session (hshrinks.sessions addr session hsession)
    started := by
      intro addr session hsession
      rcases h.started addr session (hshrinks.sessions addr session hsession) with
        hhandle | hclosed | hstart
      · exact Or.inl hhandle
      · exact Or.inr (Or.inl (hshrinks.closed _ hclosed))
      · exact Or.inr (Or.inr hstart)
    ready := by
      intro session hmem hholds
      exact h.ready session hmem (hshrinks.sessions _ _ hholds)
    covered := by
      intro id session htask
      rcases h.covered id session htask with hholds | hpending
      · exact Or.inl (hsending id session htask hholds)
      · exact Or.inr hpending
    pending := by
      intro teardown hmem
      rcases h.pending teardown hmem with ⟨hstage, hgone, hreturned⟩
      exact ⟨hstage, hgone.later hshrinks.later, hreturned⟩
    drained := by
      intro hdrained addr
      cases hlookup : entry.table.lookup addr with
      | none => rfl
      | some session =>
          have hnone := h.drained hdrained addr
          rw [hshrinks.sessions addr session hlookup] at hnone
          cases hnone }

theorem Safe.close (h : Safe s) (id : Nat) : Safe { s with entry := s.entry.close id } :=
  h.shrink (shrinks_close s.entry id) (fun _ _ _ hholds => hholds)

/-- The handle of a session that has left the table is taken; should its loop be about
to send, it is waited for. -/
theorem Safe.abort (h : Safe s) {gone : UdpSession} (hgone : Gone s.entry gone)
    (hawaited : Sending s.replies gone.id -> s.control.awaited = some gone.id) :
    Safe (s.abortReplyTask gone.id) :=
  { h with
    started := by
      intro addr session hsession
      rcases h.started addr session hsession with hhandle | hrest
      · refine Or.inl (List.mem_filter.mpr ⟨hhandle, decide_eq_true ?_⟩)
        exact hgone.ne_id hsession
      · exact Or.inr hrest
    ready := by
      intro session hmem hholds
      refine List.mem_filter.mpr ⟨h.ready session hmem hholds, decide_eq_true ?_⟩
      exact hgone.ne_id hholds
    handled := by
      intro id session htask
      by_cases hid : id = gone.id
      · rw [hid] at htask ⊢
        exact Or.inr (hawaited ⟨session, htask⟩)
      · rcases h.handled id session htask with hhandle | hsome
        · exact Or.inl (List.mem_filter.mpr ⟨hhandle, decide_eq_true hid⟩)
        · exact Or.inr hsome }

/-- The phases a reply loop can be in without further ado. -/
structure Enters (s : Listener) (session : UdpSession) (phase : ReplyPhase) : Prop where
  known : Known s.entry session
  answered : phase = .received ∨ phase = .sending -> session ∈ s.reached
  sending : phase = .sending -> Holds s.entry session
  left : forall stage, phase = .removing stage -> stage ≠ .locking -> Gone s.entry session

theorem Left.setReply {teardown : Teardown} (h : Left s.entry s.replies teardown)
    {session : UdpSession} {phase : ReplyPhase}
    (hsending : phase = .sending -> Holds s.entry session) :
    Left s.entry (s.setReply session phase).replies teardown := by
  intro hstage
  rcases h hstage with ⟨hgone, hidle⟩
  refine ⟨hgone, ?_⟩
  intro h
  rcases h with ⟨found, htask⟩
  rw [lookup_setReply] at htask
  split at htask
  · next hid =>
    cases htask
    exact hgone.ne_id (hsending rfl) hid.symm
  · exact hidle ⟨found, htask⟩

theorem Safe.setReply (h : Safe s) {session : UdpSession} {phase : ReplyPhase}
    (henters : Enters s session phase) : Safe (s.setReply session phase) :=
  { h with
    receiveLeft := fun teardown hsome =>
      ⟨(h.receiveLeft teardown hsome).1.setReply henters.sending,
        (h.receiveLeft teardown hsome).2⟩
    cleanupLeft := fun teardown hsome =>
      (h.cleanupLeft teardown hsome).setReply henters.sending
    tasks := by
      intro id task htask
      rw [lookup_setReply] at htask
      split at htask
      · next hid =>
        cases htask
        exact ⟨hid.symm, henters.known⟩
      · exact h.tasks id task htask
    answered := by
      intro id found reached htask
      rw [lookup_setReply] at htask
      split at htask
      · cases htask
        exact henters.answered
      · exact h.answered id found reached htask
    tornDown := by
      intro id found stage htask
      rw [lookup_setReply] at htask
      split at htask
      · next hid =>
        cases htask
        intro hstage
        refine ⟨henters.left stage rfl hstage, ?_⟩
        intro h
        rcases h with ⟨other, hother⟩
        rw [lookup_setReply, if_pos rfl] at hother
        cases hother
      · exact (h.tornDown id found stage htask).setReply henters.sending
    covered := by
      intro id found htask
      rw [lookup_setReply] at htask
      split at htask
      · cases htask
        exact Or.inl (henters.sending rfl)
      · exact h.covered id found htask
    handled := by
      intro id found htask
      rw [lookup_setReply] at htask
      split at htask
      · next hid =>
        cases htask
        rw [hid]
        exact Or.inl (h.ready_of_reached (henters.answered (Or.inr rfl)) (henters.sending rfl))
      · exact h.handled id found htask }

theorem Left.endReply {teardown : Teardown} (h : Left s.entry s.replies teardown) (id : Nat) :
    Left s.entry (s.endReply id).replies teardown := by
  intro hstage
  refine ⟨(h hstage).1, ?_⟩
  intro h
  rcases h with ⟨session, htask⟩
  exact (h hstage).2 ⟨session, lookup_endReply htask⟩

theorem Safe.endReply (h : Safe s) (id : Nat) : Safe (s.endReply id) :=
  { h with
    receiveLeft := fun teardown hsome =>
      ⟨(h.receiveLeft teardown hsome).1.endReply id, (h.receiveLeft teardown hsome).2⟩
    cleanupLeft := fun teardown hsome => (h.cleanupLeft teardown hsome).endReply id
    tasks := fun other task htask => h.tasks other task (lookup_endReply htask)
    answered := fun other session phase htask =>
      h.answered other session phase (lookup_endReply htask)
    tornDown := fun other session stage htask =>
      (h.tornDown other session stage (lookup_endReply htask)).endReply id
    covered := fun other session htask => h.covered other session (lookup_endReply htask)
    handled := fun other session htask => h.handled other session (lookup_endReply htask) }

theorem ControlPhase.alone_of_drained {control : ControlPhase}
    (h : control.drained = true) : control.alone = true := by
  cases control with
  | closing deleting pending => exact h
  | stopped => rfl
  | _ => cases h

/-- A session is inserted, in place of one whose loop is not about to send. -/
theorem Safe.withSession (h : Safe s) {batch : Batch} {addr : SocketAddr}
    (hreceive : s.receive = .creating batch addr)
    (hgeneration : s.entry.generation = batch.generation)
    (hidle : forall replaced, s.entry.table.lookup addr = some replaced ->
      ¬ Sending s.replies replaced.id) {receive : ReceivePhase}
    (hstarting : receive.starting =
      some (s.entry.table.fresh addr batch.generation batch.target))
    (hchecked : receive.checked = [])
    (hsessions : forall session, session ∈ receive.sessions ->
      session = s.entry.table.fresh addr batch.generation batch.target ∨
        s.entry.table.lookup addr = some session ∨ session ∈ batch.sessions)
    (hteardown : forall teardown, receive.teardown = some teardown ->
      s.entry.table.lookup addr = some teardown.session ∧ teardown.stage ≠ .locking) :
    Safe
      { s with
        entry := s.entry.withSession addr batch.generation batch.target
        receive := receive } := by
  have hlater := later_withSession s.entry addr batch.generation batch.target
  have htracked := h.toTracked.later hlater
  have hcontrol : s.control.alone ≠ true := by
    intro halone
    have hended := h.alone halone
    rw [hreceive] at hended
    cases hended
  exact
    { h with
      table := by
        intro other session hsession
        rw [lookup_withSession] at hsession
        split at hsession
        · cases hsession
          refine ⟨?_, fun _ => hgeneration.symm⟩
          rw [SessionTable.fresh, ← hgeneration]
          exact h.generations.2
        · exact h.table other session hsession
      started := by
        intro other session hsession
        rw [lookup_withSession] at hsession
        split at hsession
        · cases hsession
          exact Or.inr (Or.inr (Or.inl hstarting))
        · rcases h.started other session hsession with hhandle | hclosed | hstart | hend
          · exact Or.inl hhandle
          · refine Or.inr (Or.inl (mem_closed_withSession.mpr ⟨hclosed, ?_⟩))
            exact Nat.ne_of_lt (s.entry.table.numbered other session hsession)
          · rw [hreceive] at hstart
            cases hstart
          · rw [hreceive] at hend
            cases hend
      ready := by
        intro session hmem
        rw [hchecked, List.append_nil] at hmem
        exact (h.ready_of_reached hmem).later (h.reachedKnown session hmem) hlater
      receiveKnown := by
        intro session hmem
        rcases hsessions session hmem with hfresh | hlookup | hbatch
        · rw [hfresh]
          exact Known.of_lookup (holds_fresh s.entry addr batch.generation batch.target)
        · exact (Known.of_lookup hlookup).later hlater
        · refine (h.receiveKnown session ?_).later hlater
          rw [hreceive]
          exact hbatch
      receiveLeft := by
        intro teardown hsome
        rcases hteardown teardown hsome with ⟨hlookup, hstage⟩
        constructor
        · intro _
          exact ⟨gone_replaced hlookup batch.generation batch.target, hidle _ hlookup⟩
        · exact fun _ => hstage
      reachedKnown := htracked.reachedKnown
      cleanupKnown := htracked.cleanupKnown
      cleanupLeft := htracked.cleanupLeft
      tasks := htracked.tasks
      tornDown := htracked.tornDown
      covered := by
        intro id session htask
        rcases h.covered id session htask with hholds | hpending
        · apply Or.inl
          unfold Holds at hholds ⊢
          rw [lookup_withSession]
          split
          · next haddr =>
            rw [haddr] at hholds
            have hid := (h.tasks id _ htask).1
            rw [← hid] at htask
            exact absurd ⟨session, htask⟩ (hidle session hholds)
          · exact hholds
        · exact Or.inr hpending
      pending := by
        intro teardown hmem
        rcases h.pending teardown hmem with ⟨hstage, hgone, hreturned⟩
        exact ⟨hstage, hgone.later hlater, hreturned⟩
      alone := fun halone => absurd halone hcontrol
      drained := fun hdrained => absurd (ControlPhase.alone_of_drained hdrained) hcontrol }

/-- What is left of a teardown after one more stage. -/
structure Advanced (s s' : Listener) (teardown : Teardown) (rest : Option Teardown) :
    Prop where
  safe : Safe s'
  receive : s'.receive = s.receive
  cleanup : s'.cleanup = s.cleanup
  left : forall more, rest = some more ->
    more.session = teardown.session ∧ more.stage ≠ .locking ∧
      Left s'.entry s'.replies more

theorem Safe.locked (h : Safe s) {expected session : UdpSession}
    (hknown : Known s.entry expected)
    (hremoved : (s.entry.removeSession expected).1 = some session)
    (hidle : ¬ Sending s.replies session.id) :
    Safe { s with entry := (s.entry.removeSession expected).2 } ∧
      session = expected ∧ Gone (s.entry.removeSession expected).2 expected := by
  rcases removeSession_eq_some hremoved with ⟨hlookup, hid, hentry⟩
  have hsame := (hknown.same_or_older hlookup).1 hid.symm
  rw [hentry]
  refine ⟨h.shrink (shrinks_erase _ _) ?_, hsame.symm, ?_, ?_⟩
  · intro id sending htask hholds
    unfold Holds at hholds ⊢
    rw [SessionTable.lookup_erase]
    split
    · next haddr =>
      rw [haddr, hlookup] at hholds
      cases hholds
      have hkey := (h.tasks id _ htask).1
      rw [← hkey] at htask
      exact absurd ⟨_, htask⟩ hidle
    · exact hholds
  · exact hknown.later (shrinks_erase _ _).later
  · intro hholds
    unfold Holds at hholds
    rw [SessionTable.lookup_erase, if_pos rfl] at hholds
    cases hholds

theorem Safe.advance (h : Safe s) {awaits : Bool} {teardown : Teardown}
    (hknown : Known s.entry teardown.session) (hleft : Left s.entry s.replies teardown)
    (hidle : teardown.stage = .locking -> forall session,
      (s.entry.removeSession teardown.session).1 = some session ->
        ¬ Sending s.replies session.id)
    {s' : Listener} {rest : Option Teardown}
    (hadvance : s.advance awaits teardown = some (s', rest)) :
    Advanced s s' teardown rest := by
  rcases teardown with ⟨session, stage⟩
  cases stage with
  | locking =>
      simp only [Listener.advance] at hadvance
      cases hremoved : (s.entry.removeSession session).1 with
      | none =>
          rw [hremoved] at hadvance
          cases hadvance
          refine ⟨h, rfl, rfl, ?_⟩
          intro more hmore
          cases hmore
      | some found =>
          rw [hremoved] at hadvance
          cases hadvance
          have hsending := hidle rfl found hremoved
          rcases h.locked hknown hremoved hsending with ⟨hsafe, hfound, hgone⟩
          refine ⟨hsafe, rfl, rfl, ?_⟩
          intro more hmore
          cases hmore
          rw [hfound] at hsending ⊢
          exact ⟨rfl, by simp, fun _ => ⟨hgone, hsending⟩⟩
  | closing =>
      cases hadvance
      refine ⟨h.close session.id, rfl, rfl, ?_⟩
      intro more hmore
      cases hmore
      have hlater := (shrinks_close s.entry session.id).later
      refine ⟨rfl, by simp, ?_⟩
      intro _
      rcases hleft (by simp) with ⟨hgone, hsending⟩
      exact ⟨hgone.later hlater, hsending⟩
  | aborting =>
      rcases hleft (by simp) with ⟨hgone, hsending⟩
      simp only [Listener.advance] at hadvance
      split at hadvance
      · cases hadvance
        refine ⟨h.abort hgone (fun hnow => absurd hnow hsending), rfl, rfl, ?_⟩
        intro more hmore
        split at hmore
        · cases hmore
          exact ⟨rfl, by simp, fun _ => ⟨hgone, hsending⟩⟩
        · cases hmore
      · cases hadvance
        refine ⟨h, rfl, rfl, ?_⟩
        intro more hmore
        cases hmore
  | awaiting =>
      simp only [Listener.advance] at hadvance
      split at hadvance
      · cases hadvance
        refine ⟨h, rfl, rfl, ?_⟩
        intro more hmore
        cases hmore
      · cases hadvance

end Changes

/-!
# Steps of the receive loop
-/

section Receive

variable {s s' : Listener}

/-- The receive loop goes on, without a teardown and with nothing to send yet. -/
theorem Safe.proceed (h : Safe s) {receive : ReceivePhase} (hrunning : s.receive ≠ .ended)
    (hstarting : forall session, s.receive.starting = some session ->
      session.id ∈ s.handles ∨ session.id ∈ s.entry.closed)
    (hchecked : receive.checked = []) (hteardown : receive.teardown = none)
    (hknown : forall session, session ∈ receive.sessions -> Known s.entry session) :
    Safe { s with receive := receive } := by
  refine h.withReceive ?_ ?_ ?_ hknown ?_
  · intro session hstart
    rcases hstarting session hstart with hhandle | hclosed
    · exact Or.inl hhandle
    · exact Or.inr (Or.inl hclosed)
  · intro hended
    exact absurd hended hrunning
  · intro session hmem
    rw [hchecked] at hmem
    cases hmem
  · intro teardown hsome
    rw [hteardown] at hsome
    cases hsome

/-- The receive loop goes on with the same session to start, if any. -/
theorem Safe.carryOn (h : Safe s) {receive : ReceivePhase} (hrunning : s.receive ≠ .ended)
    (hstarting : receive.starting = s.receive.starting)
    (hchecked : forall session, session ∈ receive.checked ->
      Ready s.entry s.handles session)
    (hknown : forall session, session ∈ receive.sessions -> Known s.entry session)
    (hleft : forall teardown, receive.teardown = some teardown ->
      Left s.entry s.replies teardown ∧
        (receive.starting ≠ none -> teardown.stage ≠ .locking)) :
    Safe { s with receive := receive } := by
  refine h.withReceive ?_ ?_ hchecked hknown hleft
  · intro session hstart
    exact Or.inr (Or.inr (Or.inl (hstarting.trans hstart)))
  · intro hended
    exact absurd hended hrunning

theorem safe_readState (h : Safe s) (hstep : s.readState = some s') : Safe s' := by
  unfold Listener.readState at hstep
  split at hstep
  · next hreceive =>
    split at hstep
    · cases hstep
      exact h
    · cases hstep
      refine h.proceed ?_ ?_ rfl rfl ?_
      · simp [hreceive]
      · simp [hreceive, ReceivePhase.starting]
      · intro session hmem
        cases hmem
  · cases hstep

theorem safe_lookupSession (h : Safe s) {addr : SocketAddr}
    (hstep : s.lookupSession addr = some s') : Safe s' := by
  unfold Listener.lookupSession at hstep
  split at hstep
  · next batch hreceive =>
    have hrunning : s.receive ≠ .ended := by simp [hreceive]
    have hstarting : forall session, s.receive.starting = some session ->
        session.id ∈ s.handles ∨ session.id ∈ s.entry.closed := by
      simp [hreceive, ReceivePhase.starting]
    have hbatch := h.receiveKnown
    rw [hreceive] at hbatch
    split at hstep
    · next session hfound =>
      cases hstep
      have hknown := Known.of_lookup (current_eq_some (lookupSession_eq_found hfound)).1
      exact h.proceed hrunning hstarting rfl rfl (known_add hbatch hknown)
    · cases hstep
      exact h
    · cases hstep
      exact h.proceed hrunning hstarting rfl rfl hbatch
  · cases hstep

theorem safe_createFailed (h : Safe s) (hstep : s.createFailed = some s') : Safe s' := by
  unfold Listener.createFailed at hstep
  split at hstep
  · next batch addr hreceive =>
    cases hstep
    have hbatch := h.receiveKnown
    rw [hreceive] at hbatch
    refine h.proceed ?_ ?_ rfl rfl hbatch
    · simp [hreceive]
    · simp [hreceive, ReceivePhase.starting]
  · cases hstep

theorem safe_insertSession (h : Safe s)
    (hidle : forall batch addr session replaced, s.receive = .creating batch addr ->
      (s.entry.insertSession addr batch.generation batch.target).1 =
        .inserted session (some replaced) -> ¬ Sending s.replies replaced.id)
    (hstep : s.insertSession = some s') : Safe s' := by
  unfold Listener.insertSession at hstep
  split at hstep
  · next batch addr hreceive =>
    have hrunning : s.receive ≠ .ended := by simp [hreceive]
    have hstarting : forall session, s.receive.starting = some session ->
        session.id ∈ s.handles ∨ session.id ∈ s.entry.closed := by
      simp [hreceive, ReceivePhase.starting]
    have hbatch := h.receiveKnown
    rw [hreceive] at hbatch
    have hinsert := hidle batch addr
    rcases insertSession_cases s.entry addr batch.generation batch.target with
      ⟨session, hcurrent, heq⟩ | ⟨_, _, heq⟩ | ⟨_, hgeneration, heq⟩
    · simp only [heq] at hstep
      cases hstep
      have hknown := Known.of_lookup (current_eq_some hcurrent).1
      exact h.proceed hrunning hstarting rfl rfl (known_add hbatch hknown)
    · simp only [heq] at hstep
      cases hstep
      exact h.proceed hrunning hstarting rfl rfl hbatch
    · simp only [heq] at hstep hinsert
      cases hlookup : s.entry.table.lookup addr with
      | none =>
          rw [hlookup] at hstep
          cases hstep
          refine h.withSession hreceive hgeneration ?_ rfl rfl ?_ ?_
          · intro replaced hreplaced
            rw [hlookup] at hreplaced
            cases hreplaced
          · intro session hmem
            rcases List.mem_cons.mp hmem with hfresh | hold
            · exact Or.inl hfresh
            · exact Or.inr (Or.inr hold)
          · intro teardown hsome
            cases hsome
      | some replaced =>
          rw [hlookup] at hstep hinsert
          cases hstep
          refine h.withSession hreceive hgeneration ?_ rfl rfl ?_ ?_
          · intro found hfound
            rw [hlookup] at hfound
            cases hfound
            exact hinsert _ replaced hreceive rfl
          · intro session hmem
            rcases List.mem_cons.mp hmem with hfresh | hrest
            · exact Or.inl hfresh
            · rcases List.mem_cons.mp hrest with hreplaced | hold
              · rw [hreplaced]
                exact Or.inr (Or.inl hlookup)
              · exact Or.inr (Or.inr hold)
          · intro teardown hsome
            cases hsome
            exact ⟨hlookup, by simp⟩
  · cases hstep

theorem safe_replaceSession (h : Safe s) (hstep : s.replaceSession = some s') :
    Safe s' := by
  rcases Listener.replaceSession_cases hstep with ⟨batch, session, replaced, hreceive, hrest⟩
  have hknown := h.receiveKnown
  have hleft := h.receiveLeft replaced (by rw [hreceive]; rfl)
  rw [hreceive] at hknown hleft
  have hstage := hleft.2 (by simp [ReceivePhase.starting])
  have hadvanced : forall {advanced rest}, s.advance true replaced = some (advanced, rest) ->
      Advanced s advanced replaced rest :=
    h.advance (hknown _ (by simp [ReceivePhase.sessions])) hleft.1
      (fun hlocking => absurd hlocking hstage)
  rcases hrest with ⟨advanced, teardown, hadvance, rfl⟩ | ⟨advanced, hadvance, rfl⟩
  · have hdone := hadvanced hadvance
    rcases hdone.left teardown rfl with ⟨hsession, hmore, hgone⟩
    have hknown' := hdone.safe.receiveKnown
    rw [hdone.receive, hreceive] at hknown'
    refine hdone.safe.carryOn ?_ ?_ ?_ ?_ ?_
    · simp [hdone.receive, hreceive]
    · simp [hdone.receive, hreceive, ReceivePhase.starting]
    · intro found hfound
      cases hfound
    · rw [ReceivePhase.sessions, hsession]
      exact hknown'
    · intro found hfound
      cases hfound
      exact ⟨hgone, fun _ => hmore⟩
  · have hdone := hadvanced hadvance
    have hknown' := hdone.safe.receiveKnown
    rw [hdone.receive, hreceive] at hknown'
    refine hdone.safe.carryOn ?_ ?_ ?_ ?_ ?_
    · simp [hdone.receive, hreceive]
    · simp [hdone.receive, hreceive, ReceivePhase.starting]
    · intro found hfound
      cases hfound
    · intro found hfound
      apply hknown' found
      rcases List.mem_cons.mp hfound with hsame | hold
      · exact List.mem_cons.mpr (Or.inl hsame)
      · exact List.mem_cons_of_mem _ (List.mem_cons_of_mem _ hold)
    · intro found hfound
      cases hfound

theorem safe_spawnReplyLoop (h : Safe s) (hstep : s.spawnReplyLoop = some s') :
    Safe s' := by
  unfold Listener.spawnReplyLoop at hstep
  split at hstep
  · next batch session hreceive =>
    have hknown := h.receiveKnown
    rw [hreceive] at hknown
    have hsession := hknown session (by simp [ReceivePhase.sessions])
    have hbatch : forall found, found ∈ batch.sessions -> Known s.entry found :=
      fun found hfound => hknown found (List.mem_cons_of_mem _ hfound)
    split at hstep
    · next hclosed =>
      cases hstep
      refine h.proceed ?_ ?_ rfl rfl (known_add hbatch hsession)
      · simp [hreceive]
      · intro found hfound
        rw [hreceive] at hfound
        cases hfound
        exact Or.inr hclosed
    · cases hstep
      have henters : Enters s session .looping := ⟨hsession, by simp, by simp, by simp⟩
      refine (h.setReply henters).carryOn ?_ ?_ ?_ hknown ?_
      · simp [Listener.setReply, hreceive]
      · simp [Listener.setReply, hreceive, ReceivePhase.starting]
      · intro found hfound
        cases hfound
      · intro found hfound
        cases hfound
  · cases hstep

theorem Safe.storeHandle (h : Safe s) (id : Nat) :
    Safe { s with handles := id :: s.handles } :=
  { h with
    started := by
      intro addr session hsession
      rcases h.started addr session hsession with hhandle | hrest
      · exact Or.inl (List.mem_cons_of_mem _ hhandle)
      · exact Or.inr hrest
    ready := fun session hmem hholds => List.mem_cons_of_mem _ (h.ready session hmem hholds)
    handled := by
      intro other session htask
      rcases h.handled other session htask with hhandle | hawaited
      · exact Or.inl (List.mem_cons_of_mem _ hhandle)
      · exact Or.inr hawaited }

theorem safe_storeHandle (h : Safe s) (hstep : s.storeHandle = some s') : Safe s' := by
  unfold Listener.storeHandle at hstep
  split at hstep
  · next batch session hreceive =>
    cases hstep
    have hknown := h.receiveKnown
    rw [hreceive] at hknown
    refine (h.storeHandle session.id).proceed ?_ ?_ rfl rfl ?_
    · simp [hreceive]
    · intro found hfound
      have hstart : s.receive.starting = some found := hfound
      rw [hreceive] at hstart
      cases hstart
      exact Or.inl List.mem_cons_self
    · exact known_add (fun found hfound => hknown found (List.mem_cons_of_mem _ hfound))
        (hknown session List.mem_cons_self)
  · cases hstep

theorem safe_loadGeneration (h : Safe s) (hstep : s.loadGeneration = some s') :
    Safe s' := by
  unfold Listener.loadGeneration at hstep
  split at hstep
  · next batch hreceive =>
    have hbatch := h.receiveKnown
    rw [hreceive] at hbatch
    split at hstep
    · cases hstep
      refine h.proceed ?_ ?_ rfl rfl ?_
      · simp [hreceive]
      · simp [hreceive, ReceivePhase.starting]
      · intro session hmem
        rw [ReceivePhase.sessions, List.append_nil] at hmem
        exact hbatch session hmem
    · cases hstep
      rcases shrinks_closeEach batch.sessions s.entry with ⟨hshrinks, htable⟩
      have hclosed := h.shrink hshrinks (by
        intro id session _ hholds
        unfold Holds
        rw [htable]
        exact hholds)
      refine hclosed.proceed ?_ ?_ rfl rfl ?_
      · simp [hreceive]
      · simp [hreceive, ReceivePhase.starting]
      · intro session hmem
        cases hmem
  · cases hstep

/-- A session found open has its handle stored. -/
theorem Safe.ready_of_open (h : Safe s) (hrunning : s.receive ≠ .ended)
    (hstarting : s.receive.starting = none) {session : UdpSession}
    (hopen : session.id ∉ s.entry.closed) : Ready s.entry s.handles session := by
  intro hholds
  rcases h.started _ session hholds with hhandle | hclosed | hstart | hended
  · exact hhandle
  · exact absurd hclosed hopen
  · rw [hstarting] at hstart
    cases hstart
  · exact absurd hended hrunning

theorem safe_checkSession (h : Safe s) (hstep : s.checkSession = some s') : Safe s' := by
  have hknown := h.receiveKnown
  have hchecked := h.ready_of_checked
  unfold Listener.checkSession at hstep
  split at hstep
  · next generation checked hreceive =>
    cases hstep
    rw [hreceive] at hknown hchecked
    refine h.carryOn ?_ ?_ hchecked hknown ?_
    · simp [hreceive]
    · simp [hreceive, ReceivePhase.starting]
    · intro teardown hsome
      cases hsome
  · next generation session rest checked hreceive =>
    have hrunning : s.receive ≠ .ended := by simp [hreceive]
    have hstarting : s.receive.starting = none := by simp [hreceive, ReceivePhase.starting]
    rw [hreceive] at hknown hchecked
    split at hstep
    · cases hstep
      have hlater := (shrinks_close s.entry session.id).later
      refine (h.close session.id).carryOn hrunning hstarting.symm hchecked ?_ ?_
      · intro found hfound
        exact (hknown found (List.mem_cons_of_mem _ hfound)).later hlater
      · intro teardown hsome
        cases hsome
    · next hopen =>
      cases hstep
      refine h.carryOn hrunning hstarting.symm ?_ ?_ ?_
      · intro found hfound
        rcases List.mem_append.mp hfound with hold | hnew
        · exact hchecked found hold
        · rw [List.mem_singleton.mp hnew]
          exact h.ready_of_open hrunning hstarting (not_or.mp hopen).2
      · intro found hfound
        apply hknown found
        simp only [ReceivePhase.sessions, List.mem_append, List.mem_cons,
          List.not_mem_nil, or_false] at hfound ⊢
        tauto
      · intro teardown hsome
        cases hsome
  · cases hstep

theorem safe_sendDatagram (h : Safe s) {session : UdpSession}
    (hstep : s.sendDatagram session = some s') : Safe s' := by
  unfold Listener.sendDatagram at hstep
  split at hstep
  · next sessions hreceive =>
    have hknown := h.receiveKnown
    have hchecked := h.ready_of_checked
    rw [hreceive] at hknown hchecked
    split at hstep
    · next hmem =>
      cases hstep
      exact
        { h with
          reachedKnown := by
            intro found hfound
            rcases List.mem_cons.mp hfound with hnew | hold
            · rw [hnew]
              exact hknown session hmem
            · exact h.reachedKnown found hold
          ready := by
            intro found hfound
            rcases List.mem_cons.mp hfound with hnew | hold
            · rw [hnew]
              exact hchecked session hmem
            · exact h.ready found hold
          answered := fun id found phase htask hphase =>
            List.mem_cons_of_mem _ (h.answered id found phase htask hphase) }
    · cases hstep
  · cases hstep

theorem safe_sendFailed (h : Safe s) {session : UdpSession}
    (hstep : s.sendFailed session = some s') : Safe s' := by
  unfold Listener.sendFailed at hstep
  split at hstep
  · next sessions hreceive =>
    have hknown := h.receiveKnown
    have hchecked := h.ready_of_checked
    rw [hreceive] at hknown hchecked
    split at hstep
    · next hmem =>
      cases hstep
      refine h.carryOn ?_ ?_ hchecked ?_ ?_
      · simp [hreceive]
      · simp [hreceive, ReceivePhase.starting]
      · intro found hfound
        rcases List.mem_cons.mp hfound with hsame | hold
        · rw [hsame]
          exact hknown session hmem
        · exact hknown found hold
      · intro teardown hsome
        cases hsome
        exact ⟨fun hstage => absurd rfl hstage, fun hstart => absurd rfl hstart⟩
    · cases hstep
  · cases hstep

theorem safe_receiveRemove (h : Safe s)
    (hidle : forall sessions session found, s.receive = .removing sessions ⟨session, .locking⟩ ->
      (s.entry.removeSession session).1 = some found -> ¬ Sending s.replies found.id)
    (hstep : s.receiveRemove = some s') : Safe s' := by
  rcases Listener.receiveRemove_cases hstep with ⟨sessions, removal, hreceive, hrest⟩
  have hknown := h.receiveKnown
  have hleft := h.receiveLeft removal (by rw [hreceive]; rfl)
  rw [hreceive] at hknown
  have hadvanced : forall {advanced rest}, s.advance false removal = some (advanced, rest) ->
      Advanced s advanced removal rest := by
    apply h.advance (hknown _ List.mem_cons_self) hleft.1
    intro hlocking found hfound
    refine hidle sessions removal.session found ?_ hfound
    rw [hreceive, ← hlocking]
  rcases hrest with ⟨advanced, teardown, hadvance, rfl⟩ | ⟨advanced, hadvance, rfl⟩
  · have hdone := hadvanced hadvance
    rcases hdone.left teardown rfl with ⟨hsession, hmore, hgone⟩
    have hknown' := hdone.safe.receiveKnown
    have hchecked' := hdone.safe.ready_of_checked
    rw [hdone.receive, hreceive] at hknown' hchecked'
    refine hdone.safe.carryOn ?_ ?_ hchecked' ?_ ?_
    · simp [hdone.receive, hreceive]
    · simp [hdone.receive, hreceive, ReceivePhase.starting]
    · rw [ReceivePhase.sessions, hsession]
      exact hknown'
    · intro found hfound
      cases hfound
      exact ⟨hgone, fun _ => hmore⟩
  · have hdone := hadvanced hadvance
    have hknown' := hdone.safe.receiveKnown
    have hchecked' := hdone.safe.ready_of_checked
    rw [hdone.receive, hreceive] at hknown' hchecked'
    refine hdone.safe.carryOn ?_ ?_ hchecked' ?_ ?_
    · simp [hdone.receive, hreceive]
    · simp [hdone.receive, hreceive, ReceivePhase.starting]
    · intro found hfound
      exact hknown' found (List.mem_cons_of_mem _ hfound)
    · intro found hfound
      cases hfound

theorem safe_endPass (h : Safe s) (hstep : s.endPass = some s') : Safe s' := by
  unfold Listener.endPass at hstep
  split at hstep
  · next sessions hreceive =>
    cases hstep
    refine h.proceed ?_ ?_ rfl rfl ?_
    · simp [hreceive]
    · simp [hreceive, ReceivePhase.starting]
    · intro session hmem
      cases hmem
  · cases hstep

/-- The receive loop ends wherever it is. -/
theorem Safe.receiveEnded (h : Safe s) : Safe { s with receive := .ended } := by
  refine h.withReceive ?_ ?_ ?_ ?_ ?_
  · intro session _
    exact Or.inr (Or.inr (Or.inr rfl))
  · intro _
    rfl
  · intro session hmem
    cases hmem
  · intro session hmem
    cases hmem
  · intro teardown hsome
    cases hsome

theorem safe_receiveFailed (h : Safe s) (hstep : s.receiveFailed = some s') : Safe s' := by
  unfold Listener.receiveFailed at hstep
  split at hstep
  · cases hstep
    exact h.receiveEnded
  · cases hstep

end Receive

/-!
# Steps of the cleanup loop
-/

section Cleanup

variable {s s' : Listener}

theorem safe_collectSessions (h : Safe s) (hstep : s.collectSessions = some s') :
    Safe s' := by
  unfold Listener.collectSessions at hstep
  split at hstep
  · cases hstep
    refine h.withCleanup ?_ ?_
    · intro session hmem
      rcases mem_values.mp hmem with ⟨addr, hlookup⟩
      exact Known.of_lookup hlookup
    · intro teardown hsome
      cases hsome
  · cases hstep

theorem safe_expireSession (h : Safe s) {idle : Bool}
    (hstep : s.expireSession idle = some s') : Safe s' := by
  have hknown := h.cleanupKnown
  unfold Listener.expireSession at hstep
  split at hstep
  · cases hstep
    refine h.withCleanup ?_ ?_
    · intro session hmem
      cases hmem
    · intro teardown hsome
      cases hsome
  · next session rest hcleanup =>
    rw [hcleanup] at hknown
    split at hstep
    · cases hstep
      refine h.withCleanup hknown ?_
      intro teardown hsome
      cases hsome
      exact fun hstage => absurd rfl hstage
    · cases hstep
      refine h.withCleanup ?_ ?_
      · intro found hfound
        exact hknown found (List.mem_cons_of_mem _ hfound)
      · intro teardown hsome
        cases hsome
  · cases hstep

theorem safe_cleanupRemove (h : Safe s)
    (hidle : forall sessions session found, s.cleanup = .removing sessions ⟨session, .locking⟩ ->
      (s.entry.removeSession session).1 = some found -> ¬ Sending s.replies found.id)
    (hstep : s.cleanupRemove = some s') : Safe s' := by
  rcases Listener.cleanupRemove_cases hstep with ⟨sessions, removal, hcleanup, hrest⟩
  have hknown := h.cleanupKnown
  have hleft := h.cleanupLeft removal (by rw [hcleanup]; rfl)
  rw [hcleanup] at hknown
  have hadvanced : forall {advanced rest}, s.advance false removal = some (advanced, rest) ->
      Advanced s advanced removal rest := by
    apply h.advance (hknown _ List.mem_cons_self) hleft
    intro hlocking found hfound
    refine hidle sessions removal.session found ?_ hfound
    rw [hcleanup, ← hlocking]
  rcases hrest with ⟨advanced, teardown, hadvance, rfl⟩ | ⟨advanced, hadvance, rfl⟩
  · have hdone := hadvanced hadvance
    rcases hdone.left teardown rfl with ⟨hsession, _, hgone⟩
    have hknown' := hdone.safe.cleanupKnown
    rw [hdone.cleanup, hcleanup] at hknown'
    refine hdone.safe.withCleanup ?_ ?_
    · rw [CleanupPhase.sessions, hsession]
      exact hknown'
    · intro found hfound
      cases hfound
      exact hgone
  · have hdone := hadvanced hadvance
    have hknown' := hdone.safe.cleanupKnown
    rw [hdone.cleanup, hcleanup] at hknown'
    refine hdone.safe.withCleanup ?_ ?_
    · intro found hfound
      exact hknown' found (List.mem_cons_of_mem _ hfound)
    · intro found hfound
      cases hfound

end Cleanup

/-!
# Steps of the reply loops
-/

section Replies

variable {s s' : Listener} {id : Nat}

theorem safe_checkClosed (h : Safe s) (hstep : s.checkClosed id = some s') : Safe s' := by
  unfold Listener.checkClosed at hstep
  split at hstep
  · next session htask =>
    have hknown := (h.tasks id _ htask).2
    split at hstep
    · cases hstep
      exact h.endReply id
    · cases hstep
      exact h.setReply ⟨hknown, by simp, by simp, by simp⟩
  · cases hstep

theorem safe_receiveReply (h : Safe s) (hanswers : answersSent s (.receiveReply id) = true)
    (hstep : s.receiveReply id = some s') : Safe s' := by
  unfold Listener.receiveReply at hstep
  split at hstep
  · next session htask =>
    have hknown := (h.tasks id _ htask).2
    have hreached : session ∈ s.reached := by
      simp only [answersSent] at hanswers
      rw [htask, Option.all_some] at hanswers
      exact of_decide_eq_true hanswers
    cases hstep
    exact h.setReply ⟨hknown, fun _ => hreached, by simp, by simp⟩
  · cases hstep

/-- A loop that gives up starts to remove its session. -/
theorem Safe.startRemoval (h : Safe s) {session : UdpSession} {phase : ReplyPhase}
    (htask : s.replies.lookup id = some ⟨session, phase⟩) :
    Safe (s.setReply session (.removing .locking)) := by
  have hknown := (h.tasks id _ htask).2
  refine h.setReply ⟨hknown, by simp, by simp, ?_⟩
  intro stage hphase hstage
  cases hphase
  exact absurd rfl hstage

theorem safe_receiveReplyFailed (h : Safe s) (hstep : s.receiveReplyFailed id = some s') :
    Safe s' := by
  unfold Listener.receiveReplyFailed at hstep
  split at hstep
  · next session htask =>
    cases hstep
    exact h.startRemoval htask
  · cases hstep

theorem holds_of_isCurrent {session : UdpSession} (hknown : Known s.entry session)
    (h : s.isCurrent session = true) : Holds s.entry session := by
  unfold Listener.isCurrent at h
  rw [Option.any_eq_true] at h
  rcases h with ⟨current, hlookup, hcurrent⟩
  rw [Bool.and_eq_true, decide_eq_true_iff] at hcurrent
  have hsame := (hknown.same_or_older hlookup).1 hcurrent.1.symm
  rw [← hsame] at hlookup
  exact hlookup

theorem safe_checkCurrent (h : Safe s) (hstep : s.checkCurrent id = some s') : Safe s' := by
  unfold Listener.checkCurrent at hstep
  split at hstep
  · next session htask =>
    have hknown := (h.tasks id _ htask).2
    have hreached := h.answered id session _ htask (Or.inl rfl)
    split at hstep
    · next hcurrent =>
      cases hstep
      exact h.setReply ⟨hknown, fun _ => hreached,
        fun _ => holds_of_isCurrent hknown hcurrent, by simp⟩
    · cases hstep
      exact (h.close id).endReply id
  · cases hstep

/-- A loop that is about to send has a session of the last returned update or of a
later one. -/
theorem Safe.sending_current (h : Safe s) {session : UdpSession}
    (htask : s.replies.lookup id = some ⟨session, .sending⟩) :
    s.returned <= session.generation ∧ s.control ≠ .stopped := by
  constructor
  · rcases h.covered id session htask with hholds | ⟨teardown, hmem, hsession⟩
    · exact (h.table _ session hholds).1
    · rw [← hsession]
      exact (h.pending teardown hmem).2.2
  · intro hstopped
    rcases h.covered id session htask with hholds | ⟨teardown, hmem, _⟩
    · have hnone := h.drained (by rw [hstopped]; rfl) session.clientAddr
      unfold Holds at hholds
      rw [hnone] at hholds
      cases hholds
    · rw [hstopped] at hmem
      cases hmem

theorem safe_sendReply (h : Safe s) (hstep : s.sendReply id = some s') : Safe s' := by
  unfold Listener.sendReply at hstep
  split at hstep
  · next session htask =>
    cases hstep
    have hknown := (h.tasks id _ htask).2
    rcases h.sending_current htask with ⟨hreturned, hrunning⟩
    have hsafe : Safe (s.setReply session .looping) :=
      h.setReply ⟨hknown, by simp, by simp, by simp⟩
    exact
      { hsafe with
        replied := by
          intro reply hreply
          rcases List.mem_cons.mp hreply with hnew | hold
          · rw [hnew]
            exact ⟨hreturned, decide_eq_false hrunning⟩
          · exact h.replied reply hold }
  · cases hstep

theorem safe_sendReplyFailed (h : Safe s) (hstep : s.sendReplyFailed id = some s') :
    Safe s' := by
  unfold Listener.sendReplyFailed at hstep
  split at hstep
  · next session htask =>
    cases hstep
    exact h.startRemoval htask
  · cases hstep

/-- A loop that removes its own session is not about to send. -/
theorem safe_replyRemove (h : Safe s) (hstep : s.replyRemove id = some s') : Safe s' := by
  rcases Listener.replyRemove_cases hstep with ⟨session, stage, htask, hrest⟩
  rcases h.tasks id _ htask with ⟨hid, hknown⟩
  have hleft := h.tornDown id session stage htask
  have hidle : ¬ Sending s.replies session.id := by
    intro h
    rcases h with ⟨found, hfound⟩
    rw [show session.id = id from hid, htask] at hfound
    cases hfound
  have hadvanced : forall {advanced rest},
      s.advance false ⟨session, stage⟩ = some (advanced, rest) ->
      Advanced s advanced ⟨session, stage⟩ rest := by
    apply h.advance hknown hleft
    intro _ found hfound
    rw [(removeSession_eq_some hfound).2.1]
    exact hidle
  rcases hrest with ⟨advanced, teardown, hadvance, rfl⟩ | ⟨advanced, hadvance, rfl⟩
  · have hdone := hadvanced hadvance
    rcases hdone.left teardown rfl with ⟨hsession, hmore, hgone⟩
    have hgone' := (hgone hmore).1
    rw [hsession] at hgone'
    exact hdone.safe.setReply ⟨hgone'.1, by simp, by simp, fun _ _ _ => hgone'⟩
  · exact (hadvanced hadvance).safe.endReply id

theorem safe_cancel (h : Safe s) (hstep : s.cancel id = some s') : Safe s' := by
  unfold Listener.cancel at hstep
  split at hstep
  · cases hstep
    exact h.endReply id
  · cases hstep

end Replies

/-!
# Steps of updates and deletion
-/

section Control

variable {s s' : Listener}

theorem ControlPhase.awaited_eq_none {control : ControlPhase}
    (h : control.pending = []) : control.awaited = none := by
  cases control with
  | closing deleting pending =>
      cases pending with
      | nil => rfl
      | cons teardown rest => cases h
  | _ => rfl

/-- With nothing to be closed a loop that is about to send has its session in the table
and its handle stored. -/
theorem Safe.sending_of_quiet (h : Safe s) (hbefore : s.control.pending = []) {id : Nat}
    {session : UdpSession} (htask : s.replies.lookup id = some ⟨session, .sending⟩) :
    Holds s.entry session ∧ id ∈ s.handles := by
  constructor
  · rcases h.covered id session htask with hholds | ⟨teardown, hmem, _⟩
    · exact hholds
    · rw [hbefore] at hmem
      cases hmem
  · rcases h.handled id session htask with hhandle | hawaited
    · exact hhandle
    · rw [ControlPhase.awaited_eq_none hbefore] at hawaited
      cases hawaited

theorem Safe.withControl (h : Safe s) {control : ControlPhase}
    (hbefore : s.control.pending = []) (hafter : control.pending = [])
    (hpublished : control = .published ∨ s.control ≠ .published)
    (halone : control.alone = true -> s.receive = .ended)
    (hdrained : control.drained = true -> s.control.drained = true) :
    Safe { s with control := control } :=
  { h with
    table := by
      intro addr session hsession
      rcases h.table addr session hsession with ⟨hreturned, hgeneration⟩
      refine ⟨hreturned, ?_⟩
      intro hcontrol
      rcases hpublished with hnow | hnot
      · exact absurd hnow hcontrol
      · exact hgeneration hnot
    covered := fun _ _ htask => Or.inl (h.sending_of_quiet hbefore htask).1
    handled := fun _ _ htask => Or.inl (h.sending_of_quiet hbefore htask).2
    pending := by
      intro teardown hmem
      have hnone : teardown ∈ control.pending := hmem
      rw [hafter] at hnone
      cases hnone
    alone := halone
    drained := fun hnow => h.drained (hdrained hnow) }

theorem le_saturatingSucc (generation : UInt64) : generation <= saturatingSucc generation := by
  unfold saturatingSucc
  split
  · next hroom =>
    rw [UInt64.le_iff_toNat_le, UInt64.toNat_add]
    have hone : (1 : UInt64).toNat = 1 := rfl
    rw [hone, Nat.mod_eq_of_lt hroom]
    exact Nat.le_succ _
  · exact UInt64.le_refl _

theorem Safe.publish (h : Safe s) (allocation : Allocation)
    (hcontrol : s.control = .published) :
    Safe { s with entry := s.entry.publish allocation } :=
  { h with
    toTracked := h.toTracked.later (Later.of_table rfl)
    generations := by
      refine ⟨rfl, UInt64.le_trans h.generations.2 ?_⟩
      rw [← h.generations.1]
      exact le_saturatingSucc s.entry.stateGeneration
    table := by
      intro addr session hsession
      refine ⟨(h.table addr session hsession).1, ?_⟩
      intro hnot
      exact absurd hcontrol hnot
    pending := by
      intro teardown hmem
      rw [hcontrol] at hmem
      cases hmem }

theorem safe_publish (h : Safe s) {allocation : Allocation}
    (hstep : s.publish allocation = some s') : Safe s' := by
  unfold Listener.publish at hstep
  split at hstep
  · next hcontrol =>
    cases hstep
    have hpublished : Safe { s with control := .published } := by
      refine h.withControl ?_ rfl (Or.inl rfl) ?_ ?_
      · rw [hcontrol]
        rfl
      · intro halone
        cases halone
      · intro hdrained
        cases hdrained
    exact hpublished.publish allocation rfl
  · cases hstep

theorem safe_stop (h : Safe s) (hstep : s.stop = some s') : Safe s' := by
  unfold Listener.stop at hstep
  split at hstep
  · next hcontrol =>
    cases hstep
    refine h.withControl ?_ rfl (Or.inr ?_) ?_ ?_
    · rw [hcontrol]
      rfl
    · simp [hcontrol]
    · intro halone
      cases halone
    · intro hdrained
      cases hdrained
  · cases hstep

theorem safe_receiveStopped (h : Safe s) (hstep : s.receiveStopped = some s') :
    Safe s' := by
  unfold Listener.receiveStopped at hstep
  split at hstep
  · next hcontrol =>
    cases hstep
    refine h.receiveEnded.withControl ?_ rfl (Or.inr ?_) ?_ ?_
    · rw [hcontrol]
      rfl
    · simp [hcontrol]
    · intro _
      rfl
    · intro hdrained
      cases hdrained
  · cases hstep

theorem safe_cleanupStopped (h : Safe s) (hstep : s.cleanupStopped = some s') :
    Safe s' := by
  unfold Listener.cleanupStopped at hstep
  split at hstep
  · next hcontrol =>
    cases hstep
    have hended : Safe { s with cleanup := .ended } := by
      refine h.withCleanup ?_ ?_
      · intro session hmem
        cases hmem
      · intro teardown hsome
        cases hsome
    refine hended.withControl ?_ rfl (Or.inr ?_) ?_ ?_
    · rw [hcontrol]
      rfl
    · simp [hcontrol]
    · intro _
      exact h.alone (by rw [hcontrol]; rfl)
    · intro hdrained
      cases hdrained
  · cases hstep

/-- The drained sessions are those to be closed and waited for. -/
theorem Safe.drainInto (h : Safe s) {deleting : Bool} (hbefore : s.control.pending = [])
    (halone : deleting = true -> s.receive = .ended) : Safe (s.drainInto deleting) := by
  have hlater := later_drain s.entry
  have htracked := h.toTracked.later hlater
  exact
    { h with
      toTracked := ⟨htracked.reachedKnown, htracked.receiveKnown, htracked.receiveLeft,
        htracked.cleanupKnown, htracked.cleanupLeft, htracked.tasks, htracked.tornDown⟩
      table := by
        intro addr session hsession
        cases hsession
      started := by
        intro addr session hsession
        cases hsession
      ready := by
        intro session _ hholds
        cases hholds
      covered := by
        intro id session htask
        have hholds := (h.sending_of_quiet hbefore htask).1
        refine Or.inr ⟨⟨session, .closing⟩, ?_, rfl⟩
        exact List.mem_map.mpr ⟨session, mem_values.mpr ⟨_, hholds⟩, rfl⟩
      handled := fun _ _ htask => Or.inl (h.sending_of_quiet hbefore htask).2
      pending := by
        intro teardown hmem
        rcases List.mem_map.mp hmem with ⟨session, hvalue, rfl⟩
        rcases mem_values.mp hvalue with ⟨addr, hlookup⟩
        refine ⟨by simp, ⟨(Known.of_lookup hlookup).later hlater, ?_⟩,
          (h.table addr session hlookup).1⟩
        intro hholds
        cases hholds
      alone := halone
      drained := fun _ _ => rfl }

theorem safe_drain (h : Safe s) (hstep : s.drain = some s') : Safe s' := by
  unfold Listener.drain at hstep
  split at hstep
  · next hcontrol =>
    cases hstep
    apply h.drainInto (by rw [hcontrol]; rfl)
    intro hdeleting
    cases hdeleting
  · next hcontrol =>
    cases hstep
    apply h.drainInto (by rw [hcontrol]; rfl)
    intro _
    exact h.alone (by rw [hcontrol]; rfl)
  · cases hstep

/-- The list of sessions to be closed changes: who leaves it is not about to send, and
nobody about to send was waited for. -/
theorem Safe.withPending (h : Safe s) {deleting : Bool} {pending pending' : List Teardown}
    (hcontrol : s.control = .closing deleting pending)
    (hawaited : forall id, s.control.awaited = some id -> ¬ Sending s.replies id)
    (hkept : forall teardown, teardown ∈ pending ->
      Sending s.replies teardown.session.id ->
      exists teardown', teardown' ∈ pending' ∧ teardown'.session = teardown.session)
    (hpending : forall teardown', teardown' ∈ pending' -> teardown'.stage ≠ .locking ∧
      exists teardown, teardown ∈ pending ∧ teardown'.session = teardown.session) :
    Safe { s with control := .closing deleting pending' } := by
  have hbefore := h.pending
  have hcovered := h.covered
  have halone := h.alone
  have hdrained := h.drained
  rw [hcontrol] at hbefore hcovered halone hdrained
  exact
    { h with
      table := by
        intro addr session hsession
        rcases h.table addr session hsession with ⟨hreturned, hgeneration⟩
        exact ⟨hreturned, fun _ => hgeneration (by simp [hcontrol])⟩
      covered := by
        intro id session htask
        rcases hcovered id session htask with hholds | ⟨teardown, hmem, hsession⟩
        · exact Or.inl hholds
        · rw [← hsession]
          refine Or.inr (hkept teardown hmem ⟨session, ?_⟩)
          rw [hsession, (h.tasks id _ htask).1]
          exact htask
      handled := by
        intro id session htask
        rcases h.handled id session htask with hhandle | hsome
        · exact Or.inl hhandle
        · exact absurd ⟨session, htask⟩ (hawaited id hsome)
      pending := by
        intro teardown' hmem
        rcases hpending teardown' hmem with ⟨hstage, teardown, hold, hsession⟩
        rw [hsession]
        exact ⟨hstage, (hbefore teardown hold).2⟩
      alone := halone
      drained := hdrained }

/-- The head of the sessions to be closed moves on to another stage. -/
theorem Safe.withStage (h : Safe s) {deleting : Bool} {session : UdpSession}
    {stage stage' : Stage} {rest : List Teardown}
    (hcontrol : s.control = .closing deleting (⟨session, stage⟩ :: rest))
    (hbefore : stage ≠ .awaiting) (hafter : stage' ≠ .locking) :
    Safe { s with control := .closing deleting (⟨session, stage'⟩ :: rest) } := by
  have hpending := h.pending
  rw [hcontrol] at hpending
  apply h.withPending hcontrol
  · intro id hawaited
    rw [hcontrol] at hawaited
    cases stage with
    | awaiting => exact absurd rfl hbefore
    | _ => cases hawaited
  · intro teardown hmem _
    rcases List.mem_cons.mp hmem with hhead | hrest
    · exact ⟨⟨session, stage'⟩, List.mem_cons_self, by rw [hhead]⟩
    · exact ⟨teardown, List.mem_cons_of_mem _ hrest, rfl⟩
  · intro teardown hmem
    rcases List.mem_cons.mp hmem with hhead | hrest
    · rw [hhead]
      exact ⟨hafter, _, List.mem_cons_self, rfl⟩
    · have hold := List.mem_cons_of_mem ⟨session, stage⟩ hrest
      exact ⟨(hpending teardown hold).1, teardown, hold, rfl⟩

/-- The head is done, and its loop is not about to send. -/
theorem Safe.closed (h : Safe s) {deleting : Bool} {teardown : Teardown}
    {rest : List Teardown} (hcontrol : s.control = .closing deleting (teardown :: rest))
    (hidle : ¬ Sending s.replies teardown.session.id) :
    Safe { s with control := .closing deleting rest } := by
  have hpending := h.pending
  rw [hcontrol] at hpending
  apply h.withPending hcontrol
  · intro id hawaited
    rcases teardown with ⟨session, stage⟩
    rw [hcontrol] at hawaited
    cases stage with
    | awaiting =>
        cases hawaited
        exact hidle
    | _ => cases hawaited
  · intro other hmem hsending
    rcases List.mem_cons.mp hmem with hhead | hrest
    · rw [hhead] at hsending
      exact absurd hsending hidle
    · exact ⟨other, hrest, rfl⟩
  · intro other hmem
    have hold := List.mem_cons_of_mem teardown hmem
    exact ⟨(hpending other hold).1, other, hold, rfl⟩

theorem safe_closeSession (h : Safe s) (hstep : s.closeSession = some s') : Safe s' := by
  unfold Listener.closeSession at hstep
  split at hstep
  · next deleting teardown rest hcontrol =>
    have hhead : teardown ∈ s.control.pending := by
      rw [hcontrol]
      exact List.mem_cons_self
    rcases h.pending teardown hhead with ⟨hstage, hgone, _⟩
    rcases teardown with ⟨session, stage⟩
    cases stage with
    | locking => exact absurd rfl hstage
    | closing =>
        cases hstep
        exact (h.close session.id).withStage hcontrol (by simp) (by simp)
    | aborting =>
        simp only [Listener.advance] at hstep
        by_cases hhandle : session.id ∈ s.handles
        · rw [if_pos hhandle] at hstep
          cases hstep
          have hawaiting :
              Safe { s with control := .closing deleting (⟨session, .awaiting⟩ :: rest) } :=
            h.withStage hcontrol (by simp) (by simp)
          exact hawaiting.abort hgone (fun _ => rfl)
        · rw [if_neg hhandle] at hstep
          cases hstep
          apply h.closed hcontrol
          -- Without a handle there is nothing to wait for, and nothing to fear.
          intro h
          rcases h with ⟨found, htask⟩
          rcases h.handled _ found htask with hstored | hawaited
          · exact hhandle hstored
          · rw [hcontrol] at hawaited
            cases hawaited
    | awaiting =>
        simp only [Listener.advance] at hstep
        cases htask : s.replies.lookup session.id with
        | some task =>
            rw [htask] at hstep
            cases hstep
        | none =>
            rw [htask] at hstep
            cases hstep
            apply h.closed hcontrol
            intro h
            rcases h with ⟨found, hsending⟩
            rw [htask] at hsending
            cases hsending
  · cases hstep

theorem safe_finish (h : Safe s) (hstep : s.finish = some s') : Safe s' := by
  unfold Listener.finish at hstep
  split at hstep
  · next hcontrol =>
    cases hstep
    have hidle : Safe { s with control := .idle } := by
      refine h.withControl ?_ rfl (Or.inr ?_) ?_ ?_
      · rw [hcontrol]
        rfl
      · simp [hcontrol]
      · intro halone
        cases halone
      · intro hdrained
        cases hdrained
    exact
      { hidle with
        generations := ⟨h.generations.1, UInt64.le_refl _⟩
        table := by
          intro addr session hsession
          have hgeneration := (h.table addr session hsession).2 (by simp [hcontrol])
          exact ⟨UInt64.le_of_eq hgeneration.symm, fun _ => hgeneration⟩
        pending := by
          intro teardown hmem
          cases hmem }
  · next hcontrol =>
    cases hstep
    refine h.withControl ?_ rfl (Or.inr ?_) ?_ ?_
    · rw [hcontrol]
      rfl
    · simp [hcontrol]
    · intro _
      exact h.alone (by rw [hcontrol]; rfl)
    · intro _
      rw [hcontrol]
      rfl
  · cases hstep

end Control

/-!
# Whole runs
-/

/-- The session that a step, other than a drain, takes out of the table. -/
def takesOut (s : Listener) : Step -> Option UdpSession
  | .insertSession =>
      match s.receive with
      | .creating batch addr =>
          match (s.entry.insertSession addr batch.generation batch.target).1 with
          | .inserted _ replaced => replaced
          | _ => none
      | _ => none
  | .receiveRemove =>
      match s.receive with
      | .removing _ ⟨session, .locking⟩ => (s.entry.removeSession session).1
      | _ => none
  | .cleanupRemove =>
      match s.cleanup with
      | .removing _ ⟨session, .locking⟩ => (s.entry.removeSession session).1
      | _ => none
  | _ => none

/-- The step takes no session out of the table whose reply loop is about to send. -/
def sparesSenders (s : Listener) (step : Step) : Bool :=
  (takesOut s step).all (fun session =>
    (s.replies.lookup session.id).all (fun task => task.phase ≠ .sending))

theorem not_sending {s : Listener} {step : Step} (h : sparesSenders s step = true)
    {session : UdpSession} (htaken : takesOut s step = some session) :
    ¬ Sending s.replies session.id := by
  intro h
  rcases h with ⟨found, htask⟩
  rw [sparesSenders, htaken, Option.all_some, htask, Option.all_some] at h
  exact absurd rfl (of_decide_eq_true h)

theorem safe_next {s s' : Listener} {step : Step} (h : Safe s)
    (hanswers : answersSent s step = true) (hspares : sparesSenders s step = true)
    (hstep : next s step = some s') : Safe s' := by
  cases step with
  | readState => exact safe_readState h hstep
  | lookupSession addr => exact safe_lookupSession h hstep
  | createFailed => exact safe_createFailed h hstep
  | insertSession =>
      refine safe_insertSession h ?_ hstep
      intro batch addr session replaced hreceive hinserted
      apply not_sending hspares
      simp only [takesOut, hreceive, hinserted]
  | replaceSession => exact safe_replaceSession h hstep
  | spawnReplyLoop => exact safe_spawnReplyLoop h hstep
  | storeHandle => exact safe_storeHandle h hstep
  | loadGeneration => exact safe_loadGeneration h hstep
  | checkSession => exact safe_checkSession h hstep
  | sendDatagram session => exact safe_sendDatagram h hstep
  | sendFailed session => exact safe_sendFailed h hstep
  | receiveRemove =>
      refine safe_receiveRemove h ?_ hstep
      intro sessions session found hreceive hremoved
      apply not_sending hspares
      simp only [takesOut, hreceive, hremoved]
  | endPass => exact safe_endPass h hstep
  | receiveFailed => exact safe_receiveFailed h hstep
  | collectSessions => exact safe_collectSessions h hstep
  | expireSession idle => exact safe_expireSession h hstep
  | cleanupRemove =>
      refine safe_cleanupRemove h ?_ hstep
      intro sessions session found hcleanup hremoved
      apply not_sending hspares
      simp only [takesOut, hcleanup, hremoved]
  | checkClosed id => exact safe_checkClosed h hstep
  | receiveReply id => exact safe_receiveReply h hanswers hstep
  | receiveReplyFailed id => exact safe_receiveReplyFailed h hstep
  | checkCurrent id => exact safe_checkCurrent h hstep
  | sendReply id => exact safe_sendReply h hstep
  | sendReplyFailed id => exact safe_sendReplyFailed h hstep
  | replyRemove id => exact safe_replyRemove h hstep
  | cancel id => exact safe_cancel h hstep
  | publish allocation => exact safe_publish h hstep
  | stop => exact safe_stop h hstep
  | receiveStopped => exact safe_receiveStopped h hstep
  | cleanupStopped => exact safe_cleanupStopped h hstep
  | drain => exact safe_drain h hstep
  | closeSession => exact safe_closeSession h hstep
  | finish => exact safe_finish h hstep

theorem safe_bound (allocation : Allocation) (maxSessions : Nat) :
    Safe (Listener.bound allocation maxSessions) where
  reachedKnown := by intro session h; cases h
  receiveKnown := by intro session h; cases h
  receiveLeft := by intro teardown h; cases h
  cleanupKnown := by intro session h; cases h
  cleanupLeft := by intro teardown h; cases h
  tasks := by intro id task h; cases h
  tornDown := by intro id session stage h; cases h
  generations := ⟨rfl, UInt64.le_refl _⟩
  table := by intro addr session h; cases h
  started := by intro addr session h; cases h
  ready := by intro session h; cases h
  answered := by intro id session phase h; cases h
  covered := by intro id session h; cases h
  handled := by intro id session h; cases h
  pending := by intro teardown h; cases h
  alone := by intro h; cases h
  drained := by intro h; cases h
  replied := by intro reply h; cases h

/-- No payload of a session of an earlier generation went out after an update had
returned, and none at all after a deletion had. -/
def NoStaleReply (s : Listener) : Prop :=
  forall reply, reply ∈ s.replied ->
    reply.returned <= reply.session.generation ∧ reply.stopped = false

/-- The listener between upstreams that only answer. -/
def answered : Listener -> Step -> Option Listener := guarded answersSent next

/-- In a run that takes no session out of the table, other than by a drain, while its
reply loop is about to send, no stale reply reaches a client. -/
theorem no_stale_reply (allocation : Allocation) (maxSessions : Nat) {s : Listener}
    (h : Reachable (guarded sparesSenders answered) (Listener.bound allocation maxSessions)
      s) :
    NoStaleReply s := by
  have hsafe : Safe s := by
    apply h.invariant (safe_bound allocation maxSessions)
    intro s step s' hsafe hnext
    rcases guarded_eq_some hnext with ⟨hspares, hanswered⟩
    rcases guarded_eq_some hanswered with ⟨hanswers, hstep⟩
    exact safe_next hsafe hanswers hspares hstep
  exact hsafe.replied

/-- A datagram goes out, and its answer has passed the check. -/
def untilChecked : List Step :=
  [.readState, .lookupSession firstClient, .insertSession, .spawnReplyLoop, .storeHandle,
    .loadGeneration, .checkSession, .checkSession, .sendDatagram firstSession, .endPass,
    .checkClosed 0, .receiveReply 0, .checkCurrent 0]

/-- The update finds the session in the table and waits for its reply loop. -/
def awaitedReply : List Step :=
  untilChecked ++ [.publish (forwardedAllocation none), .drain, .closeSession,
    .closeSession, .sendReply 0, .cancel 0, .closeSession, .finish]

theorem no_stale_reply_when_awaited :
    exists s, run (guarded sparesSenders answered) awaitedReply
        (Listener.bound (forwardedAllocation (some "10.0.0.1")) 4) = some s ∧
      s.replied = [⟨firstSession, 0, false⟩] ∧ NoStaleReply s :=
  ⟨_, rfl, rfl, no_stale_reply (forwardedAllocation (some "10.0.0.1")) 4
    (Reachable.of_run awaitedReply rfl)⟩

/-- The session expires between the check and the send, and an update that returns in
between knows nothing of its reply loop. -/
def expiredReply : List Step :=
  untilChecked ++ [.collectSessions, .expireSession true, .cleanupRemove, .cleanupRemove,
    .cleanupRemove, .publish (forwardedAllocation none), .drain, .finish, .sendReply 0]

theorem expired_session_replies_after_update :
    exists s, run answered expiredReply
        (Listener.bound (forwardedAllocation (some "10.0.0.1")) 4) = some s ∧
      ¬ NoStaleReply s := by
  refine ⟨_, rfl, ?_⟩
  intro h
  have hreply := (h ⟨firstSession, 1, false⟩ (List.mem_singleton.mpr rfl)).1
  exact absurd hreply (by decide)

end Udp
end Runtime
end Relayd
