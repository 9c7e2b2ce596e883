import Mathlib.Logic.Function.Basic
import Relayd.Runtime.Served
import Relayd.Runtime.UdpCalls

/-!
# Expiry in time

The tasks of a listener with a clock.  A session is seen when it is created, when a
datagram for it passes the checks of the receive loop and when a reply through it has
been sent.  The cleanup loop collects the sessions and then reads the clock, once for the
sweep, before it looks at any of them; a session that has not been seen for longer than
`session_ttl` before that moment is removed.
-/

namespace Relayd
namespace Runtime
namespace Udp

open Foundation

/-- `lastSeen` gives the time at which a session was seen last; `sweptAt` is the time that
the sweep under way has read, if it has. -/
structure Timed where
  listener : Listener
  clock : Nat
  lastSeen : Nat -> Nat
  sweptAt : Option Nat

/-- A session that is inserted was created a while before. -/
inductive TimedStep where
  | pass (ms : Nat)
  | readClock
  | insert (created : Nat)
  | act (step : Step)
deriving DecidableEq, Repr

def TimedStep.erase : TimedStep -> Option Step
  | .pass _ => none
  | .readClock => none
  | .insert _ => some .insertSession
  | .act step => some step

/-- The session that a step has seen; the first of several datagrams for it counts. -/
def Listener.touched (s : Listener) : Step -> Option Nat
  | .checkSession =>
      match s.receive with
      | .checking generation (session :: _) checked =>
          if session.generation ≠ generation ∨ session.id ∈ s.entry.closed ∨
              session ∈ checked then none
          else some session.id
      | _ => none
  | .sendReply id => (s.replies.lookup id).map (fun task => task.session.id)
  | _ => none

namespace Timed

def start (allocation : Allocation) (maxSessions : Nat) (clock : Nat) : Timed where
  listener := Listener.bound allocation maxSessions
  clock := clock
  lastSeen := fun _ => 0
  sweptAt := some clock

def table (t : Timed) : SessionTable := t.listener.entry.table

/-- Whether the session that the sweep looks at has been idle for too long.  A session seen
after the clock was read counts as not idle at all. -/
def idle (sessionTtl : Nat) (t : Timed) (now : Nat) : Bool :=
  match t.listener.cleanup with
  | .expiring (session :: _) => decide (sessionTtl < now - t.lastSeen session.id)
  | _ => false

def admits (sessionTtl : Nat) (t : Timed) : Step -> Bool
  | .insertSession => false
  | .expireSession idle => t.sweptAt.any (fun now => idle == t.idle sessionTtl now)
  | _ => true

def see (t : Timed) : Option Nat -> Nat -> Nat
  | none => t.lastSeen
  | some id => Function.update t.lastSeen id t.clock

def next (sessionTtl : Nat) (t : Timed) : TimedStep -> Option Timed
  | .pass ms => some { t with clock := t.clock + ms }
  | .readClock =>
      if t.sweptAt = none then some { t with sweptAt := some t.clock } else none
  | .insert created =>
      if created <= t.clock then
        t.listener.insertSession.map (fun listener =>
          { t with
            listener := listener
            lastSeen := Function.update t.lastSeen t.table.nextSession created })
      else none
  | .act step =>
      if t.admits sessionTtl step then
        (Udp.next t.listener step).map (fun listener =>
          { t with
            listener := listener
            lastSeen := t.see (t.listener.touched step)
            sweptAt := if step = .collectSessions then none else t.sweptAt })
      else none

end Timed

/-!
# What a step may do
-/

theorem Moves.later {s s' : Listener} {step : Step} (h : Moves s step s') :
    Later s.entry s'.entry := by
  cases h with
  | plain _ htable => exact Later.of_table htable
  | recorded _ htable => exact Later.of_table htable
  | drained _ htable =>
      constructor
      · rw [htable]
        exact Nat.le_refl _
      · intro addr session hlookup
        rw [htable] at hlookup
        cases hlookup
  | taken _ _ _ htable =>
      constructor
      · rw [htable]
        exact Nat.le_refl _
      · intro addr session hlookup
        rw [htable, SessionTable.lookup_erase] at hlookup
        split at hlookup
        · cases hlookup
        · exact Or.inl hlookup
  | inserted _ _ _ htable =>
      constructor
      · rw [htable]
        exact Nat.le_succ _
      · intro addr session hlookup
        rw [htable, SessionTable.lookup_insert] at hlookup
        split at hlookup
        · cases hlookup
          exact Or.inr (Nat.le_refl _)
        · exact Or.inl hlookup

/-- Once `remove_session` has had the lock, the session is not in the table. -/
theorem not_mem_ids_removeSession {entry : ListenerEntry} {expected : UdpSession}
    (hknown : Known entry expected) :
    expected.id ∉ (entry.removeSession expected).2.table.ids := by
  unfold ListenerEntry.removeSession
  cases hlookup : entry.table.lookup expected.clientAddr with
  | some found =>
      by_cases hid : found.id = expected.id
      · simp only [hid, if_true]
        rw [← hid]
        exact SessionTable.not_mem_ids_erase hlookup
      · simp only [hid, if_false]
        intro hmem
        rcases SessionTable.mem_ids.mp hmem with ⟨addr, other, hother, hsame⟩
        have heq := (hknown.same_or_older hother).left hsame.symm
        have haddr := SessionTable.lookup_clientAddr hother
        rw [← heq] at haddr hother
        rw [haddr, hother] at hlookup
        cases hlookup
        exact hid rfl
  | none =>
      intro hmem
      rcases SessionTable.mem_ids.mp hmem with ⟨addr, other, hother, hsame⟩
      have heq := (hknown.same_or_older hother).left hsame.symm
      have haddr := SessionTable.lookup_clientAddr hother
      rw [← heq] at haddr hother
      rw [haddr, hother] at hlookup
      cases hlookup

theorem removeSession_eq_none {entry : ListenerEntry} {expected : UdpSession}
    (h : (entry.removeSession expected).1 = none) :
    (entry.removeSession expected).2 = entry := by
  unfold ListenerEntry.removeSession at h ⊢
  cases hlookup : entry.table.lookup expected.clientAddr with
  | none => rfl
  | some found =>
      rw [hlookup] at h
      by_cases hid : found.id = expected.id
      · simp [hid] at h
      · simp [hid]

/-- The stages of `remove_session`, which does not wait for the task it aborts. -/
theorem remove_cases {s s' : Listener} {removal : Teardown} {rest : Option Teardown}
    (h : s.advance false removal = some (s', rest)) :
    (removal.stage = .locking ∧ s'.entry = (s.entry.removeSession removal.session).2 ∧
        forall teardown, rest = some teardown ->
          teardown.session.id = removal.session.id ∧ teardown.stage ≠ .locking) ∨
      (removal.stage ≠ .locking ∧ s'.entry.table = s.entry.table ∧
        forall teardown, rest = some teardown ->
          teardown.session.id = removal.session.id ∧ teardown.stage ≠ .locking) := by
  rcases removal with ⟨session, stage⟩
  cases stage with
  | locking =>
      left
      simp only [Listener.advance] at h
      cases hremoved : (s.entry.removeSession session).1 with
      | none =>
          rw [hremoved] at h
          cases h
          refine ⟨rfl, (removeSession_eq_none hremoved).symm, ?_⟩
          intro teardown hteardown
          cases hteardown
      | some found =>
          rw [hremoved] at h
          cases h
          refine ⟨rfl, rfl, ?_⟩
          intro teardown hteardown
          cases hteardown
          exact ⟨(removeSession_eq_some hremoved).right.left, by simp⟩
  | closing =>
      cases h
      refine Or.inr ⟨by simp, rfl, ?_⟩
      intro teardown hteardown
      cases hteardown
      exact ⟨rfl, by simp⟩
  | aborting =>
      right
      simp only [Listener.advance] at h
      split at h
      · cases h
        refine ⟨by simp, rfl, ?_⟩
        intro teardown hteardown
        cases hteardown
      · cases h
        refine ⟨by simp, rfl, ?_⟩
        intro teardown hteardown
        cases hteardown
  | awaiting =>
      right
      simp only [Listener.advance] at h
      split at h
      · cases h
        refine ⟨by simp, rfl, ?_⟩
        intro teardown hteardown
        cases hteardown
      · cases h

/-- The steps of the cleanup loop, and its end. -/
def Step.sweeps : Step -> Bool
  | .collectSessions => true
  | .expireSession _ => true
  | .cleanupRemove => true
  | .cleanupStopped => true
  | _ => false

theorem cleanup_next {s s' : Listener} {step : Step} (h : next s step = some s')
    (hstep : step.sweeps = false) : s'.cleanup = s.cleanup := by
  cases step with
  | collectSessions => cases hstep
  | expireSession idle => cases hstep
  | cleanupRemove => cases hstep
  | cleanupStopped => cases hstep
  | replaceSession =>
      rcases Listener.replaceSession_cases h with ⟨_, _, _, _, hrest⟩
      rcases hrest with ⟨_, _, hadvance, rfl⟩ | ⟨_, hadvance, rfl⟩
      · exact (advance_frame hadvance).right.right.left
      · exact (advance_frame hadvance).right.right.left
  | receiveRemove =>
      rcases Listener.receiveRemove_cases h with ⟨_, _, _, hrest⟩
      rcases hrest with ⟨_, _, hadvance, rfl⟩ | ⟨_, hadvance, rfl⟩
      · exact (advance_frame hadvance).right.right.left
      · exact (advance_frame hadvance).right.right.left
  | replyRemove id =>
      rcases Listener.replyRemove_cases h with ⟨_, _, _, hrest⟩
      rcases hrest with ⟨_, _, hadvance, rfl⟩ | ⟨_, hadvance, rfl⟩
      · exact (advance_frame hadvance).right.right.left
      · exact (advance_frame hadvance).right.right.left
  | closeSession =>
      rcases Listener.closeSession_cases h with ⟨_, _, _, _, hrest⟩
      rcases hrest with ⟨_, _, hadvance, rfl⟩ | ⟨_, hadvance, rfl⟩
      · exact (advance_frame hadvance).right.right.left
      · exact (advance_frame hadvance).right.right.left
  | readState | lookupSession | createFailed | insertSession | spawnReplyLoop | storeHandle
  | loadGeneration | checkSession | sendDatagram | sendFailed | endPass | receiveFailed =>
      simp only [next, Listener.readState, Listener.lookupSession, Listener.createFailed,
        Listener.insertSession, Listener.spawnReplyLoop, Listener.storeHandle,
        Listener.loadGeneration, Listener.checkSession, Listener.sendDatagram,
        Listener.sendFailed, Listener.endPass, Listener.receiveFailed] at h
      grind [Listener.setReply]
  | checkClosed | receiveReply | receiveReplyFailed | checkCurrent | sendReply
  | sendReplyFailed | cancel =>
      simp only [next, Listener.checkClosed, Listener.receiveReply,
        Listener.receiveReplyFailed, Listener.checkCurrent, Listener.sendReply,
        Listener.sendReplyFailed, Listener.cancel] at h
      grind [Listener.setReply, Listener.endReply]
  | publish | stop | receiveStopped | drain | finish =>
      simp only [next, Listener.publish, Listener.stop, Listener.receiveStopped,
        Listener.drain, Listener.finish] at h
      grind [Listener.drainInto]

theorem ended_cleanupStopped {s s' : Listener} (h : s.cleanupStopped = some s') :
    s'.cleanup = .ended := by
  unfold Listener.cleanupStopped at h
  grind

namespace Timed

section Moves

variable {sessionTtl : Nat} {t t' : Timed} {step : TimedStep}

/-- Reply tasks stand under their sessions' numbers, and nothing has been seen in the
future. -/
structure Sound (t : Timed) : Prop where
  keyed : Keyed (fun task => task.session.id) t.listener.replies
  past : forall id, t.lastSeen id <= t.clock

theorem sound_start (allocation : Allocation) (maxSessions clock : Nat) :
    Sound (start allocation maxSessions clock) where
  keyed := keyed_empty _
  past := fun _ => Nat.zero_le clock

/-- The listener stands still. -/
structure Waits (t t' : Timed) : Prop where
  listener : t'.listener = t.listener
  lastSeen : t'.lastSeen = t.lastSeen
  clock : t.clock <= t'.clock
  sweptAt : forall now, t.sweptAt = some now -> t'.sweptAt = some now

/-- What happens to the listener and to the times when one of its tasks moves. -/
structure Acts (sessionTtl : Nat) (t : Timed) (step : Step) (t' : Timed) : Prop where
  next : Udp.next t.listener step = some t'.listener
  clock : t'.clock = t.clock
  sweptAt : t'.sweptAt = if step = .collectSessions then none else t.sweptAt
  past : (forall id, t.lastSeen id <= t.clock) -> forall id, t'.lastSeen id <= t.clock
  seen : (forall id, t.lastSeen id <= t.clock) ->
    forall id, id < t.table.nextSession -> t.lastSeen id <= t'.lastSeen id
  idle : forall idle, step = .expireSession idle ->
    (exists now, t.sweptAt = some now ∧ idle = t.idle sessionTtl now) ∧
      t'.lastSeen = t.lastSeen

theorem see_cases (t : Timed) (touched : Option Nat) (id : Nat) :
    t.see touched id = t.lastSeen id ∨ t.see touched id = t.clock := by
  cases touched with
  | none => exact Or.inl rfl
  | some seen =>
      show Function.update t.lastSeen seen t.clock id = _ ∨
        Function.update t.lastSeen seen t.clock id = _
      by_cases hid : id = seen
      · rw [hid, Function.update_self]
        exact Or.inr rfl
      · rw [Function.update_of_ne hid]
        exact Or.inl rfl

theorem next_cases (h : next sessionTtl t step = some t') :
    (step.erase = none ∧ Waits t t') ∨
      exists act, step.erase = some act ∧ Acts sessionTtl t act t' := by
  cases step with
  | pass ms =>
      cases h
      exact Or.inl ⟨rfl, rfl, rfl, Nat.le_add_right t.clock ms, fun _ hnow => hnow⟩
  | readClock =>
      simp only [next] at h
      split at h
      · rename_i hunread
        cases h
        refine Or.inl ⟨rfl, rfl, rfl, Nat.le_refl t.clock, ?_⟩
        intro now hnow
        rw [hunread] at hnow
        cases hnow
      · cases h
  | insert created =>
      simp only [next] at h
      split at h
      · rename_i hcreated
        rcases Option.map_eq_some_iff.mp h with ⟨listener, hlistener, rfl⟩
        refine Or.inr ⟨.insertSession, rfl, hlistener, rfl, rfl, ?_, ?_, ?_⟩
        · intro hpast id
          show Function.update t.lastSeen t.table.nextSession created id <= t.clock
          by_cases hid : id = t.table.nextSession
          · rw [hid, Function.update_self]
            exact hcreated
          · rw [Function.update_of_ne hid]
            exact hpast id
        · intro _ id hid
          show t.lastSeen id <= Function.update t.lastSeen t.table.nextSession created id
          rw [Function.update_of_ne (Nat.ne_of_lt hid)]
        · intro idle hidle
          cases hidle
      · cases h
  | act step =>
      simp only [next] at h
      split at h
      · rename_i hadmits
        rcases Option.map_eq_some_iff.mp h with ⟨listener, hlistener, rfl⟩
        refine Or.inr ⟨step, rfl, hlistener, rfl, rfl, ?_, ?_, ?_⟩
        · intro hpast id
          show t.see (t.listener.touched step) id <= t.clock
          rcases see_cases t (t.listener.touched step) id with hsame | hnow
          · rw [hsame]
            exact hpast id
          · rw [hnow]
        · intro hpast id _
          show t.lastSeen id <= t.see (t.listener.touched step) id
          rcases see_cases t (t.listener.touched step) id with hsame | hnow
          · rw [hsame]
          · rw [hnow]
            exact hpast id
        · intro idle hidle
          rw [hidle] at hadmits ⊢
          rcases (Option.any_eq_true_iff_get _ _).mp hadmits with ⟨hread, hjudged⟩
          exact ⟨⟨t.sweptAt.get hread, (Option.some_get hread).symm, beq_iff_eq.mp hjudged⟩, rfl⟩
      · cases h

theorem sound_next (h : Sound t) (hnext : next sessionTtl t step = some t') : Sound t' := by
  rcases next_cases hnext with ⟨_, hwaits⟩ | ⟨act, _, hacts⟩
  · constructor
    · rw [hwaits.listener]
      exact h.keyed
    · intro id
      rw [hwaits.lastSeen]
      exact Nat.le_trans (h.past id) hwaits.clock
  · constructor
    · exact (moved_next h.keyed hacts.next).framed.keyed h.keyed
    · intro id
      rw [hacts.clock]
      exact hacts.past h.past id

/-- The time taken away, what is left is a run of the listener. -/
theorem run_erase {steps : List TimedStep} (hrun : run (next sessionTtl) steps t = some t') :
    run Udp.next (steps.filterMap TimedStep.erase) t.listener = some t'.listener := by
  induction steps generalizing t with
  | nil =>
      cases hrun
      rfl
  | cons step rest ih =>
      rcases run_cons.mp hrun with ⟨between, hnext, hrest⟩
      rcases next_cases hnext with ⟨herase, hwaits⟩ | ⟨act, herase, hacts⟩
      · have hlater := ih hrest
        rw [hwaits.listener] at hlater
        rw [List.filterMap_cons_none herase]
        exact hlater
      · rw [List.filterMap_cons_some herase]
        exact run_cons.mpr ⟨between.listener, hacts.next, ih hrest⟩

end Moves

/-!
# A sweep
-/

section Sweep

variable {sessionTtl : Nat} {found : List Nat} {reading t t' : Timed} {step : TimedStep}

/-- The sweep need not look at this session again. -/
def Passed (sessionTtl : Nat) (reading t : Timed) (id : Nat) : Prop :=
  id ∉ t.table.ids ∨ reading.clock <= t.lastSeen id + sessionTtl

/-- How far the sweep has come with the sessions it has collected. -/
def Swept (sessionTtl : Nat) (found : List Nat) (reading t : Timed) : CleanupPhase -> Prop
  | .sleeping => forall id, id ∈ found -> Passed sessionTtl reading t id
  | .expiring rest =>
      (forall session, session ∈ rest -> Known t.listener.entry session ∧
        session.id ∈ found) ∧
      forall id, id ∈ found ->
        id ∈ rest.map UdpSession.id ∨ Passed sessionTtl reading t id
  | .removing rest removal =>
      reading.lastSeen removal.session.id + sessionTtl < reading.clock ∧
      (removal.stage = .locking -> Known t.listener.entry removal.session) ∧
      (forall session, session ∈ rest -> Known t.listener.entry session ∧
        session.id ∈ found) ∧
      forall id, id ∈ found ->
        id ∈ rest.map UdpSession.id ∨ Passed sessionTtl reading t id ∨
          (id = removal.session.id ∧ removal.stage = .locking)
  | .ended => True

structure Sweeping (sessionTtl : Nat) (found : List Nat) (reading t : Timed) : Prop where
  sound : Sound t
  sweptAt : t.sweptAt = some reading.clock
  old : forall id, id ∈ found -> id < reading.table.nextSession
  next : reading.table.nextSession <= t.table.nextSession
  seen : forall id, id < reading.table.nextSession -> reading.lastSeen id <= t.lastSeen id
  swept : Swept sessionTtl found reading t t.listener.cleanup

theorem Passed.later {id : Nat} (h : Passed sessionTtl reading t id)
    (hid : id < t.table.nextSession) (hrenews : Renews t.table t'.table)
    (hseen : t.lastSeen id <= t'.lastSeen id) : Passed sessionTtl reading t' id := by
  rcases h with hgone | hseen'
  · left
    intro hmem
    rcases hrenews.kept id hmem with hold | hnew
    · exact hgone hold
    · lia
  · right
    lia

/-- A step that leaves the cleanup loop where it is. -/
theorem Swept.later {phase : CleanupPhase} (h : Swept sessionTtl found reading t phase)
    (hold : forall id, id ∈ found -> id < t.table.nextSession)
    (hlater : Later t.listener.entry t'.listener.entry) (hrenews : Renews t.table t'.table)
    (hseen : forall id, id < t.table.nextSession -> t.lastSeen id <= t'.lastSeen id) :
    Swept sessionTtl found reading t' phase := by
  have hpassed : forall id, id ∈ found -> Passed sessionTtl reading t id ->
      Passed sessionTtl reading t' id := by
    intro id hid hpassed
    exact hpassed.later (hold id hid) hrenews (hseen id (hold id hid))
  cases phase with
  | sleeping => exact fun id hid => hpassed id hid (h id hid)
  | ended => trivial
  | expiring rest =>
      rcases h with ⟨hknown, hrest⟩
      constructor
      · intro session hsession
        exact ⟨(hknown session hsession).left.later hlater, (hknown session hsession).right⟩
      · intro id hid
        rcases hrest id hid with hwaiting | hdone
        · exact Or.inl hwaiting
        · exact Or.inr (hpassed id hid hdone)
  | removing rest removal =>
      rcases h with ⟨hidle, hremoval, hknown, hrest⟩
      refine ⟨hidle, fun hlocking => (hremoval hlocking).later hlater, ?_, ?_⟩
      · intro session hsession
        exact ⟨(hknown session hsession).left.later hlater, (hknown session hsession).right⟩
      · intro id hid
        rcases hrest id hid with hwaiting | hdone | hlocking
        · exact Or.inl hwaiting
        · exact Or.inr (Or.inl (hpassed id hid hdone))
        · exact Or.inr (Or.inr hlocking)

theorem Sweeping.numbered (h : Sweeping sessionTtl found reading t) :
    forall id, id ∈ found -> id < t.table.nextSession :=
  fun id hid => Nat.lt_of_lt_of_le (h.old id hid) h.next

/-- The sweep has collected its sessions and has not read the clock. -/
structure Collected (found : List Nat) (t : Timed) : Prop where
  sound : Sound t
  unread : t.sweptAt = none
  old : forall id, id ∈ found -> id < t.table.nextSession
  waiting : t.listener.cleanup = .ended ∨
    exists sessions, t.listener.cleanup = .expiring sessions ∧
      sessions.map UdpSession.id = found ∧
      forall session, session ∈ sessions -> Known t.listener.entry session

theorem collected_collect (h : Sound t)
    (hnext : Timed.next sessionTtl t (.act .collectSessions) = some t') :
    Collected t.table.ids t' := by
  rcases next_cases hnext with ⟨herase, _⟩ | ⟨act, herase, hacts⟩
  · cases herase
  cases herase
  have hmoves := (moved_next h.keyed hacts.next).moves
  have hcollected : t'.listener.cleanup = .expiring (values t.table.sessions) := by
    have hlistener : t.listener.collectSessions = some t'.listener := hacts.next
    unfold Listener.collectSessions at hlistener
    split at hlistener
    · rw [← Option.some.inj hlistener]
      rfl
    · cases hlistener
  constructor
  · exact sound_next h hnext
  · rw [hacts.sweptAt, if_pos rfl]
  · intro id hid
    exact Nat.lt_of_lt_of_le (SessionTable.lt_of_mem_ids hid) hmoves.later.next
  · refine Or.inr ⟨_, hcollected, rfl, ?_⟩
    intro session hsession
    rcases mem_values.mp hsession with ⟨addr, hlookup⟩
    exact (Known.of_lookup hlookup).later hmoves.later

/-- Until the clock is read, the sweep looks at no session. -/
theorem Collected.stays (h : Collected found t) {act : Step}
    (hacts : Acts sessionTtl t act t') (hact : act ≠ .collectSessions) :
    t'.listener.cleanup = .ended ∨ t'.listener.cleanup = t.listener.cleanup := by
  cases hsweeps : act.sweeps with
  | false => exact Or.inr (cleanup_next hacts.next hsweeps)
  | true =>
      cases act with
      | collectSessions => exact absurd rfl hact
      | expireSession idle =>
          rcases (hacts.idle idle rfl).left with ⟨now, hnow, _⟩
          rw [h.unread] at hnow
          cases hnow
      | cleanupRemove =>
          rcases Listener.cleanupRemove_cases hacts.next with ⟨_, _, hremoving, _⟩
          rcases h.waiting with hended | ⟨_, hexpiring, _⟩
          · rw [hended] at hremoving
            cases hremoving
          · rw [hexpiring] at hremoving
            cases hremoving
      | cleanupStopped => exact Or.inl (ended_cleanupStopped hacts.next)
      | _ => cases hsweeps

theorem not_collects {act : Step} (herase : step.erase = some act)
    (hstep : step ≠ .act .collectSessions) : act ≠ .collectSessions := by
  intro hcollect
  rw [hcollect] at herase
  cases step with
  | pass ms => cases herase
  | readClock => cases herase
  | insert created => cases herase
  | act step =>
      cases herase
      exact hstep rfl

theorem collected_next (h : Collected found t)
    (hnext : Timed.next sessionTtl t step = some t') (hstep : step ≠ .act .collectSessions)
    (hread : step ≠ .readClock) : Collected found t' := by
  have hsound := sound_next h.sound hnext
  rcases next_cases hnext with ⟨herase, hwaits⟩ | ⟨act, herase, hacts⟩
  · have hunread : t'.sweptAt = none := by
      cases step with
      | pass ms =>
          cases hnext
          exact h.unread
      | readClock => exact absurd rfl hread
      | insert created => cases herase
      | act step => cases herase
    have htable : t'.table = t.table := congrArg (fun s => s.entry.table) hwaits.listener
    refine ⟨hsound, hunread, ?_, ?_⟩
    · rw [htable]
      exact h.old
    · rw [hwaits.listener]
      exact h.waiting
  · have hact := not_collects herase hstep
    have hlater := (moved_next h.sound.keyed hacts.next).moves.later
    refine ⟨hsound, ?_, ?_, ?_⟩
    · rw [hacts.sweptAt, if_neg hact]
      exact h.unread
    · intro id hid
      exact Nat.lt_of_lt_of_le (h.old id hid) hlater.next
    · rcases h.stays hacts hact with hended | hsame
      · exact Or.inl hended
      · rw [hsame]
        rcases h.waiting with hended | ⟨sessions, hexpiring, hfound, hknown⟩
        · exact Or.inl hended
        · exact Or.inr ⟨sessions, hexpiring, hfound,
            fun session hsession => (hknown session hsession).later hlater⟩

theorem collected_run {steps : List TimedStep} (h : Collected found t)
    (hsteps : .act .collectSessions ∉ steps) (hunread : .readClock ∉ steps)
    (hrun : run (Timed.next sessionTtl) steps t = some t') : Collected found t' := by
  induction steps generalizing t with
  | nil =>
      cases hrun
      exact h
  | cons step rest ih =>
      rcases run_cons.mp hrun with ⟨between, hnext, hrest⟩
      rw [List.mem_cons, not_or] at hsteps hunread
      exact ih (collected_next h hnext (Ne.symm hsteps.left) (Ne.symm hunread.left))
        hsteps.right hunread.right hrest

/-- The clock is read. -/
theorem sweeping_read (h : Collected found reading)
    (hnext : Timed.next sessionTtl reading .readClock = some t) :
    Sweeping sessionTtl found reading t := by
  have hsound := sound_next h.sound hnext
  unfold Timed.next at hnext
  rw [if_pos h.unread] at hnext
  cases hnext
  refine ⟨hsound, rfl, h.old, Nat.le_refl _, fun _ _ => Nat.le_refl _, ?_⟩
  show Swept sessionTtl found reading _ reading.listener.cleanup
  rcases h.waiting with hended | ⟨sessions, hexpiring, hfound, hknown⟩
  · rw [hended]
    trivial
  · rw [hexpiring]
    constructor
    · intro session hsession
      rw [← hfound]
      exact ⟨hknown session hsession, List.mem_map.mpr ⟨session, hsession, rfl⟩⟩
    · intro id hid
      rw [← hfound] at hid
      exact Or.inl hid

/-- The sweep looks at its next session. -/
theorem swept_expire {idle : Bool} (h : Sweeping sessionTtl found reading t)
    (hacts : Acts sessionTtl t (.expireSession idle) t')
    (hentry : t'.listener.entry = t.listener.entry) (hseen : t'.lastSeen = t.lastSeen)
    (hidle : exists now, t.sweptAt = some now ∧ idle = t.idle sessionTtl now) :
    Swept sessionTtl found reading t' t'.listener.cleanup := by
  have hlistener : t.listener.expireSession idle = some t'.listener := hacts.next
  have htable : t'.table = t.table := congrArg ListenerEntry.table hentry
  have hpassed : forall id, Passed sessionTtl reading t id -> Passed sessionTtl reading t' id := by
    intro id hpassed
    unfold Passed
    rw [htable, hseen]
    exact hpassed
  have hswept := h.swept
  unfold Listener.expireSession at hlistener
  cases hcleanup : t.listener.cleanup with
  | expiring rest =>
      rw [hcleanup] at hlistener hswept
      rcases hswept with ⟨hknown, hrest⟩
      cases rest with
      | nil =>
          rw [← Option.some.inj hlistener]
          intro id hid
          rcases hrest id hid with hnone | hdone
          · cases hnone
          · exact hpassed id hdone
      | cons session rest =>
          have hknown' : forall other, other ∈ rest -> Known t'.listener.entry other ∧
              other.id ∈ found := by
            intro other hother
            rw [hentry]
            exact hknown other (List.mem_cons_of_mem session hother)
          have hsession := hknown session List.mem_cons_self
          have hjudged :
              idle = decide (sessionTtl < reading.clock - t.lastSeen session.id) := by
            rcases hidle with ⟨now, hnow, hidle⟩
            rw [h.sweptAt] at hnow
            cases hnow
            rw [hidle]
            unfold Timed.idle
            rw [hcleanup]
          cases idle with
          | true =>
              have hlong := of_decide_eq_true hjudged.symm
              have hstart := h.seen session.id (h.old session.id hsession.right)
              rw [← Option.some.inj hlistener]
              refine ⟨?_, fun _ => hentry ▸ hsession.left, hknown', ?_⟩
              · show reading.lastSeen session.id + sessionTtl < reading.clock
                lia
              · intro id hid
                rcases hrest id hid with hwaiting | hdone
                · rcases List.mem_cons.mp hwaiting with hthis | hlater
                  · exact Or.inr (Or.inr ⟨hthis, rfl⟩)
                  · exact Or.inl hlater
                · exact Or.inr (Or.inl (hpassed id hdone))
          | false =>
              have hrecent := of_decide_eq_false hjudged.symm
              rw [← Option.some.inj hlistener]
              refine ⟨hknown', ?_⟩
              intro id hid
              rcases hrest id hid with hwaiting | hdone
              · rcases List.mem_cons.mp hwaiting with hthis | hlater
                · refine Or.inr (Or.inr ?_)
                  rw [hthis, hseen]
                  lia
                · exact Or.inl hlater
              · exact Or.inr (hpassed id hdone)
  | sleeping => simp [hcleanup] at hlistener
  | removing rest removal => simp [hcleanup] at hlistener
  | ended => simp [hcleanup] at hlistener

/-- The sweep takes a session down. -/
theorem swept_remove (h : Sweeping sessionTtl found reading t)
    (hacts : Acts sessionTtl t .cleanupRemove t')
    (hseen : forall id, id < t.table.nextSession -> t.lastSeen id <= t'.lastSeen id) :
    Swept sessionTtl found reading t' t'.listener.cleanup := by
  have hmoves := (moved_next h.sound.keyed hacts.next).moves
  have hswept := h.swept
  have hlistener : t.listener.cleanupRemove = some t'.listener := hacts.next
  rcases Listener.cleanupRemove_cases hlistener with ⟨rest, removal, hcleanup, htaken⟩
  rw [hcleanup] at hswept
  have hkept := hswept.later h.numbered hmoves.later hmoves.renews hseen
  rcases hkept with ⟨hidle, _, hothers, hrest⟩
  -- Past the lock, the session itself is among those that have been dealt with.
  have hpast : forall advanced more, t.listener.advance false removal = some (advanced, more) ->
      t'.listener.entry = advanced.entry -> forall id, id ∈ found ->
        id ∈ rest.map UdpSession.id ∨ Passed sessionTtl reading t' id := by
    intro advanced more hadvance hentry id hid
    rcases hrest id hid with hwaiting | hdone | ⟨hthis, hlocking⟩
    · exact Or.inl hwaiting
    · exact Or.inr hdone
    · right
      left
      rcases remove_cases hadvance with ⟨_, hremoved, _⟩ | ⟨hstage, _⟩
      · unfold Timed.table
        rw [hthis, hentry, hremoved]
        exact not_mem_ids_removeSession (hswept.right.left hlocking)
      · exact absurd hlocking hstage
  rcases htaken with ⟨advanced, teardown, hadvance, hnext⟩ | ⟨advanced, hadvance, hnext⟩
  · have hsame : teardown.session.id = removal.session.id ∧ teardown.stage ≠ .locking := by
      rcases remove_cases hadvance with ⟨_, _, hmore⟩ | ⟨_, _, hmore⟩
      · exact hmore teardown rfl
      · exact hmore teardown rfl
    have hdone := hpast advanced (some teardown) hadvance (by rw [hnext])
    have hcleanup' : t'.listener.cleanup = .removing rest teardown := by rw [hnext]
    rw [hcleanup']
    refine ⟨?_, fun hlocking => absurd hlocking hsame.right, hothers, ?_⟩
    · rw [hsame.left]
      exact hidle
    · intro id hid
      rcases hdone id hid with hwaiting | hpassed
      · exact Or.inl hwaiting
      · exact Or.inr (Or.inl hpassed)
  · have hdone := hpast advanced none hadvance (by rw [hnext])
    have hcleanup' : t'.listener.cleanup = .expiring rest := by rw [hnext]
    rw [hcleanup']
    exact ⟨hothers, hdone⟩

theorem sweeping_next (h : Sweeping sessionTtl found reading t)
    (hnext : Timed.next sessionTtl t step = some t') (hstep : step ≠ .act .collectSessions) :
    Sweeping sessionTtl found reading t' := by
  have hsound := sound_next h.sound hnext
  rcases next_cases hnext with ⟨_, hwaits⟩ | ⟨act, herase, hacts⟩
  · have hentry : t'.listener.entry = t.listener.entry :=
      congrArg Listener.entry hwaits.listener
    have htable : t'.table = t.table := congrArg ListenerEntry.table hentry
    refine ⟨hsound, hwaits.sweptAt reading.clock h.sweptAt, h.old, ?_, ?_, ?_⟩
    · rw [htable]
      exact h.next
    · rw [hwaits.lastSeen]
      exact h.seen
    · rw [hwaits.listener]
      exact h.swept.later h.numbered (Later.of_table htable) (renews_of_eq htable)
        (fun _ _ => by rw [hwaits.lastSeen])
  have hmoves := (moved_next h.sound.keyed hacts.next).moves
  have hseen := hacts.seen h.sound.past
  have hact := not_collects herase hstep
  refine ⟨hsound, ?_, h.old, Nat.le_trans h.next hmoves.later.next, ?_, ?_⟩
  · rw [hacts.sweptAt, if_neg hact]
    exact h.sweptAt
  · intro id hid
    exact Nat.le_trans (h.seen id hid) (hseen id (Nat.lt_of_lt_of_le hid h.next))
  · cases hsweeps : act.sweeps with
    | false =>
        rw [cleanup_next hacts.next hsweeps]
        exact h.swept.later h.numbered hmoves.later hmoves.renews hseen
    | true =>
        cases act with
        | collectSessions => exact absurd rfl hact
        | expireSession idle =>
            have hentry : t'.listener.entry = t.listener.entry := by
              have hlistener : t.listener.expireSession idle = some t'.listener := hacts.next
              unfold Listener.expireSession at hlistener
              grind
            rcases hacts.idle idle rfl with ⟨hidle, hsame⟩
            exact swept_expire h hacts hentry hsame hidle
        | cleanupRemove => exact swept_remove h hacts hseen
        | cleanupStopped =>
            rw [ended_cleanupStopped hacts.next]
            trivial
        | _ => cases hsweeps

theorem sweeping_run {steps : List TimedStep} (h : Sweeping sessionTtl found reading t)
    (hsteps : .act .collectSessions ∉ steps)
    (hrun : run (Timed.next sessionTtl) steps t = some t') : Sweeping sessionTtl found reading t' := by
  induction steps generalizing t with
  | nil =>
      cases hrun
      exact h
  | cons step rest ih =>
      rcases run_cons.mp hrun with ⟨between, hnext, hrest⟩
      rw [List.mem_cons, not_or] at hsteps
      exact ih (sweeping_next h hnext (Ne.symm hsteps.left)) hsteps.right hrest

end Sweep

/-- A sweep expires exactly the idle sessions.  Whatever the other tasks do meanwhile and
however the time passes, the run is one of the listener without a clock; a session that the
sweep takes down had not been seen for longer than `session_ttl` when the sweep read the
clock; and once it is over, every session that it found and that is still in the table has
been seen within `session_ttl` before that moment, or since. -/
theorem sweep_expires_idle_sessions (sessionTtl : Nat) (allocation : Allocation)
    (maxSessions clock : Nat) (before between during : List TimedStep)
    (began collected reading read t : Timed)
    (hbefore : run (Timed.next sessionTtl) before
      (Timed.start allocation maxSessions clock) = some began)
    (hcollect : Timed.next sessionTtl began (.act .collectSessions) = some collected)
    (hbetween : .act .collectSessions ∉ between ∧ .readClock ∉ between)
    (hwaiting : run (Timed.next sessionTtl) between collected = some reading)
    (hread : Timed.next sessionTtl reading .readClock = some read)
    (hduring : .act .collectSessions ∉ during)
    (hrun : run (Timed.next sessionTtl) during read = some t) :
    (exists steps, run Udp.next steps (Listener.bound allocation maxSessions) =
      some t.listener) ∧
    (forall rest removal, t.listener.cleanup = .removing rest removal ->
      reading.lastSeen removal.session.id + sessionTtl < reading.clock) ∧
    (t.listener.cleanup = .sleeping -> forall id, id ∈ began.table.ids ->
      id ∈ t.table.ids -> reading.clock <= t.lastSeen id + sessionTtl) := by
  have hsound : Sound began :=
    (Reachable.of_run before hbefore).invariant (sound_start allocation maxSessions clock)
      (fun _ _ _ hsound hnext => sound_next hsound hnext)
  have hcollected :=
    collected_run (collected_collect hsound hcollect) hbetween.left hbetween.right hwaiting
  have hswept := (sweeping_run (sweeping_read hcollected hread) hduring hrun).swept
  have hwhole := run_append hbefore (run_cons.mpr ⟨collected, hcollect,
    run_append hwaiting (run_cons.mpr ⟨read, hread, hrun⟩)⟩)
  refine ⟨⟨_, run_erase hwhole⟩, ?_, ?_⟩
  · intro rest removal hcleanup
    rw [hcleanup] at hswept
    exact hswept.left
  · intro hcleanup id hid hmem
    rw [hcleanup] at hswept
    rcases hswept id hid with hgone | hseen
    · exact absurd hmem hgone
    · exact hseen

/-- One client sends a datagram at time 10, another at time 70. -/
def twoClients : List TimedStep :=
  [.pass 10, .act .readState, .act (.lookupSession firstClient), .insert 10,
    .act .spawnReplyLoop, .act .storeHandle, .act .loadGeneration, .act .checkSession,
    .act .checkSession, .act .endPass, .pass 60, .act .readState,
    .act (.lookupSession (.v4 ⟨127, 0, 0, 1⟩ 4001)), .insert 70, .act .spawnReplyLoop,
    .act .storeHandle, .act .loadGeneration, .act .checkSession, .act .checkSession,
    .act .endPass]

/-- The sweep that reads the clock at time 71 expires the first session and keeps the
second. -/
def sweptOnce : List TimedStep :=
  [.act (.expireSession false), .act (.expireSession true), .act .cleanupRemove, .pass 5,
    .act .cleanupRemove, .act .cleanupRemove, .act (.expireSession false)]

theorem sweep_expires_the_first_client :
    exists began collected reading read t,
      run (Timed.next 50) twoClients
        (Timed.start (forwardedAllocation (some "10.0.0.1")) 4 0) = some began ∧
      Timed.next 50 began (.act .collectSessions) = some collected ∧
      run (Timed.next 50) [.pass 1] collected = some reading ∧
      Timed.next 50 reading .readClock = some read ∧
      run (Timed.next 50) sweptOnce read = some t ∧
      t.listener.cleanup = .sleeping ∧ began.table.ids = [1, 0] ∧ t.table.ids = [1] ∧
      reading.clock <= t.lastSeen 1 + 50 := by
  refine ⟨_, _, _, _, _, rfl, rfl, rfl, rfl, rfl, rfl, rfl, rfl, ?_⟩
  exact (sweep_expires_idle_sessions 50 (forwardedAllocation (some "10.0.0.1")) 4 0 twoClients
    [.pass 1] sweptOnce _ _ _ _ _ rfl rfl (by decide) rfl rfl (by decide) rfl).right.right
    rfl 1 (by decide) (by decide)

end Timed

end Udp
end Runtime
end Relayd
