import Relayd.Runtime.UdpTasks

/-!
# The generation of the session table

An update stores its generation before it drains the table, and a session is inserted
only under the generation stored.  Between the store and the drain the table may hold
sessions of the generation before; outside of it, every session in the table is of
the current generation, forwards to the current target and is open.  The generation
saturates, so this is about runs with fewer updates than there are generations.
-/

namespace Relayd
namespace Runtime
namespace Udp

open Foundation

/-- A datagram of the client may be sent through the session. -/
def Usable (entry : ListenerEntry) (session : UdpSession) : Prop :=
  session.generation = entry.generation ∧ session.id ∉ entry.closed ∧
    entry.state.target = some session.upstream

def ReceivePhase.batch : ReceivePhase -> Option Batch
  | .resolving batch => some batch
  | .creating batch _ => some batch
  | .replacing batch _ _ => some batch
  | .spawning batch _ => some batch
  | .storing batch _ => some batch
  | _ => none

/-- The generation that the receive loop works for, and the sessions found for it. -/
def ReceivePhase.found : ReceivePhase -> Option (UInt64 × List UdpSession)
  | .resolving batch => some (batch.generation, batch.sessions)
  | .creating batch _ => some (batch.generation, batch.sessions)
  | .replacing batch session _ => some (batch.generation, session :: batch.sessions)
  | .spawning batch session => some (batch.generation, session :: batch.sessions)
  | .storing batch session => some (batch.generation, session :: batch.sessions)
  | .checking generation unchecked _ => some (generation, unchecked)
  | _ => none

/-- What the receive loop has read is of the current generation or an earlier one. -/
structure Read (entry : ListenerEntry) (receive : ReceivePhase) : Prop where
  batch : forall batch, receive.batch = some batch ->
    batch.generation = entry.generation -> entry.state.target = some batch.target
  found : forall generation sessions, receive.found = some (generation, sessions) ->
    generation <= entry.generation ∧
      forall session, session ∈ sessions -> session.generation = generation

structure Fresh (s : Listener) : Prop extends Placed s where
  generations : s.entry.stateGeneration = s.entry.generation
  table : forall session, Holds s.entry session ->
    (session.generation < s.entry.generation ∧ s.control = .published) ∨
      Usable s.entry session
  read : Read s.entry s.receive

section Changes

variable {s s' : Listener}

theorem read_of_idle {entry : ListenerEntry} {receive : ReceivePhase}
    (hbatch : receive.batch = none) (hfound : receive.found = none) :
    Read entry receive where
  batch := by
    intro batch hsome
    rw [hbatch] at hsome
    cases hsome
  found := by
    intro generation sessions hsome
    rw [hfound] at hsome
    cases hsome

theorem Read.entry {entry entry' : ListenerEntry} {receive : ReceivePhase}
    (h : Read entry receive) (hgeneration : entry'.generation = entry.generation)
    (hstate : entry'.state = entry.state) : Read entry' receive where
  batch := by
    rw [hgeneration, hstate]
    exact h.batch
  found := by
    rw [hgeneration]
    exact h.found

/-- The table shrinks, and no flag is set on a session that can be used. -/
theorem Fresh.shrink (h : Fresh s) {entry : ListenerEntry} (hshrinks : Shrinks s.entry entry)
    (hstate : entry.state = s.entry.state)
    (hspares : forall session, Holds entry session -> Usable s.entry session ->
      session.id ∉ entry.closed) : Fresh { s with entry := entry } :=
  { h with
    toPlaced := h.toPlaced.later hshrinks.later
    generations := by
      rw [hshrinks.generation, hshrinks.stateGeneration]
      exact h.generations
    table := by
      intro session hholds
      rw [hshrinks.generation]
      rcases h.table session (hshrinks.sessions _ _ hholds) with hold | husable
      · exact Or.inl hold
      · apply Or.inr
        refine ⟨?_, hspares session hholds husable, ?_⟩
        · rw [hshrinks.generation]
          exact husable.1
        · rw [hstate]
          exact husable.2.2
    read := h.read.entry hshrinks.generation hstate }

theorem Fresh.close (h : Fresh s) {id : Nat}
    (hspares : forall session, Holds s.entry session -> Usable s.entry session ->
      session.id ≠ id) : Fresh { s with entry := s.entry.close id } := by
  apply h.shrink (shrinks_close s.entry id) rfl
  intro session hholds husable hclosed
  rcases List.mem_cons.mp hclosed with hid | hbefore
  · exact hspares session hholds husable hid
  · exact husable.2.1 hbefore

/-- A session of another generation, or one that has left the table, may be closed. -/
theorem Fresh.close_known (h : Fresh s) {old : UdpSession} (hknown : Known s.entry old)
    (hunusable : Holds s.entry old -> old.generation ≠ s.entry.generation) :
    Fresh { s with entry := s.entry.close old.id } := by
  apply h.close
  intro session hholds husable hid
  have hsame := (hknown.same_or_older hholds).1 hid.symm
  rw [← hsame] at hholds husable
  exact hunusable hholds husable.1

theorem Fresh.advance (h : Fresh s) {awaits : Bool} {teardown : Teardown}
    {rest : Option Teardown} (hadvance : Proceeds awaits s teardown s' rest)
    (hknown : Known s.entry teardown.session)
    (hgone : teardown.stage ≠ .locking -> Gone s.entry teardown.session) : Fresh s' := by
  cases hadvance with
  | taken =>
      apply h.shrink (shrinks_erase _ _) rfl
      intro session _ husable
      exact husable.2.1
  | closed =>
      apply h.close_known hknown
      intro hholds
      exact absurd hholds (hgone (by simp)).2
  | aborted => exact { h with }
  | missed => exact h
  | unhandled => exact h
  | joined => exact h

/-- Neither the entry, the receive loop nor the control takes part. -/
theorem Fresh.frame (h : Fresh s) (hplaced : Placed s') (hentry : s'.entry = s.entry)
    (hreceive : s'.receive = s.receive) (hcontrol : s'.control = s.control) :
    Fresh s' where
  toPlaced := hplaced
  generations := by
    rw [hentry]
    exact h.generations
  table := by
    rw [hentry, hcontrol]
    exact h.table
  read := by
    rw [hentry, hreceive]
    exact h.read

theorem Fresh.withReceive (h : Fresh s) {receive : ReceivePhase}
    (hplaced : Placed { s with receive := receive }) (hread : Read s.entry receive) :
    Fresh { s with receive := receive } :=
  { h with
    toPlaced := hplaced
    read := hread }

/-- Outside of an update's window, the control goes on. -/
theorem Fresh.withControl (h : Fresh s) {control : ControlPhase}
    (hplaced : Placed { s with control := control }) (hcontrol : s.control ≠ .published) :
    Fresh { s with control := control } :=
  { h with
    toPlaced := hplaced
    table := by
      intro session hholds
      rcases h.table session hholds with ⟨_, hpublished⟩ | husable
      · exact absurd hpublished hcontrol
      · exact Or.inr husable }

end Changes

/-!
# Steps of the receive loop
-/

section Receive

variable {s s' : Listener}

theorem fresh_readState (h : Fresh s) (hplaced : Placed s')
    (hstep : s.readState = some s') : Fresh s' := by
  unfold Listener.readState at hstep
  split at hstep
  · split at hstep
    · cases hstep
      exact h
    · next target htarget =>
      cases hstep
      refine h.withReceive hplaced ⟨?_, ?_⟩
      · intro batch hbatch _
        cases hbatch
        exact htarget
      · intro generation sessions hfound
        cases hfound
        refine ⟨UInt64.le_of_eq h.generations, ?_⟩
        intro session hmem
        cases hmem
  · cases hstep

/-- A session of the batch's generation joins the batch. -/
theorem Read.add {entry : ListenerEntry} {batch : Batch} {session : UdpSession}
    (hbatch : batch.generation = entry.generation -> entry.state.target = some batch.target)
    (hgeneration : batch.generation <= entry.generation)
    (hsessions : forall found, found ∈ session :: batch.sessions ->
      found.generation = batch.generation) : Read entry (.resolving (batch.add session)) where
  batch := by
    intro found hfound
    cases hfound
    exact hbatch
  found := by
    intro generation sessions hfound
    cases hfound
    refine ⟨hgeneration, ?_⟩
    intro found hmem
    apply hsessions
    rcases List.mem_append.mp hmem with hold | hnew
    · exact List.mem_cons_of_mem _ hold
    · rw [List.mem_singleton.mp hnew]
      exact List.mem_cons_self

/-- The receive loop goes on with a session found for its batch. -/
theorem Read.join {entry : ListenerEntry} {receive : ReceivePhase} (h : Read entry receive)
    {batch : Batch} (hbatch : receive.batch = some batch)
    (hfound : receive.found = some (batch.generation, batch.sessions)) {session : UdpSession}
    (hsession : session.generation = batch.generation) :
    Read entry (.resolving (batch.add session)) := by
  rcases h.found _ _ hfound with ⟨hle, hsessions⟩
  apply Read.add (h.batch batch hbatch) hle
  intro found hmem
  rcases List.mem_cons.mp hmem with hsame | hold
  · rw [hsame]
    exact hsession
  · exact hsessions found hold

theorem fresh_lookupSession (h : Fresh s) {addr : SocketAddr} (hplaced : Placed s')
    (hstep : s.lookupSession addr = some s') : Fresh s' := by
  unfold Listener.lookupSession at hstep
  split at hstep
  · next batch hreceive =>
    have hread := h.read
    rw [hreceive] at hread
    split at hstep
    · next session hfound =>
      cases hstep
      have hgeneration := (current_eq_some (lookupSession_eq_found hfound)).2
      exact h.withReceive hplaced (hread.join rfl rfl hgeneration)
    · cases hstep
      exact h
    · cases hstep
      exact h.withReceive hplaced ⟨hread.batch, hread.found⟩
  · cases hstep

theorem fresh_createFailed (h : Fresh s) (hplaced : Placed s')
    (hstep : s.createFailed = some s') : Fresh s' := by
  unfold Listener.createFailed at hstep
  split at hstep
  · next batch addr hreceive =>
    have hread := h.read
    rw [hreceive] at hread
    cases hstep
    exact h.withReceive hplaced ⟨hread.batch, hread.found⟩
  · cases hstep

/-- A new session is of the current generation and forwards to the current target. -/
theorem Fresh.withSession (h : Fresh s) {addr : SocketAddr} {batch : Batch}
    (hgeneration : s.entry.generation = batch.generation)
    (htarget : s.entry.state.target = some batch.target) {receive : ReceivePhase}
    (hplaced : Placed
      { s with
        entry := s.entry.withSession addr batch.generation batch.target
        receive := receive })
    (hread : Read s.entry receive) :
    Fresh
      { s with
        entry := s.entry.withSession addr batch.generation batch.target
        receive := receive } where
  toPlaced := hplaced
  generations := h.generations
  table := by
    intro session hholds
    unfold Holds at hholds
    rw [lookup_withSession] at hholds
    split at hholds
    · cases hholds
      refine Or.inr ⟨hgeneration.symm, ?_, htarget⟩
      rw [mem_closed_withSession]
      exact fun hclosed => hclosed.2 rfl
    · rcases h.table session hholds with hold | ⟨hcurrent, hopen, hupstream⟩
      · exact Or.inl hold
      · refine Or.inr ⟨hcurrent, ?_, hupstream⟩
        rw [mem_closed_withSession]
        exact fun hclosed => hopen hclosed.1
  read := hread.entry rfl rfl

theorem fresh_insertSession (h : Fresh s) (hplaced : Placed s')
    (hstep : s.insertSession = some s') : Fresh s' := by
  unfold Listener.insertSession at hstep
  split at hstep
  · next batch addr hreceive =>
    have hread := h.read
    rw [hreceive] at hread
    rcases insertSession_cases s.entry addr batch.generation batch.target with
      ⟨session, hcurrent, heq⟩ | ⟨_, _, heq⟩ | ⟨_, hgeneration, heq⟩
    · simp only [heq] at hstep
      cases hstep
      have hsession := (current_eq_some hcurrent).2
      exact h.withReceive hplaced (hread.join rfl rfl hsession)
    · simp only [heq] at hstep
      cases hstep
      exact h.withReceive hplaced ⟨hread.batch, hread.found⟩
    · simp only [heq] at hstep
      have htarget := hread.batch batch rfl hgeneration.symm
      rcases hread.found _ _ rfl with ⟨hle, hsessions⟩
      have hfound : forall generation sessions,
          some (batch.generation,
            s.entry.table.fresh addr batch.generation batch.target :: batch.sessions) =
              some (generation, sessions) ->
            generation <= s.entry.generation ∧
              forall session, session ∈ sessions -> session.generation = generation := by
        intro generation sessions hsome
        cases hsome
        refine ⟨hle, ?_⟩
        intro session hmem
        rcases List.mem_cons.mp hmem with hnew | hold
        · rw [hnew]
          rfl
        · exact hsessions session hold
      cases hlookup : s.entry.table.lookup addr with
      | none =>
          rw [hlookup] at hstep
          cases hstep
          exact h.withSession hgeneration htarget hplaced ⟨hread.batch, hfound⟩
      | some replaced =>
          rw [hlookup] at hstep
          cases hstep
          exact h.withSession hgeneration htarget hplaced ⟨hread.batch, hfound⟩
  · cases hstep

theorem fresh_replaceSession (h : Fresh s) (hplaced : Placed s')
    (hstep : s.replaceSession = some s') : Fresh s' := by
  rcases Listener.replaceSession_cases hstep with ⟨batch, session, replaced, hreceive, hrest⟩
  have hbefore : s.receive.teardown = some replaced := by rw [hreceive]; rfl
  have hreplaced := h.toPlaced.teardownKnown hbefore
  have hgone := h.receiveGone replaced hbefore
  rcases hrest with ⟨advanced, teardown, hadvance, rfl⟩ | ⟨advanced, hadvance, rfl⟩
  · have hdone := proceeds_of_advance hreplaced hadvance
    have hfresh := h.advance hdone hreplaced hgone
    have hread := hfresh.read
    rw [hdone.frame.2.1, hreceive] at hread
    exact hfresh.withReceive hplaced ⟨hread.batch, hread.found⟩
  · have hdone := proceeds_of_advance hreplaced hadvance
    have hfresh := h.advance hdone hreplaced hgone
    have hread := hfresh.read
    rw [hdone.frame.2.1, hreceive] at hread
    exact hfresh.withReceive hplaced ⟨hread.batch, hread.found⟩

theorem fresh_spawnReplyLoop (h : Fresh s) (hplaced : Placed s')
    (hstep : s.spawnReplyLoop = some s') : Fresh s' := by
  unfold Listener.spawnReplyLoop at hstep
  split at hstep
  · next batch session hreceive =>
    have hread := h.read
    rw [hreceive] at hread
    rcases hread.found _ _ rfl with ⟨hle, hsessions⟩
    split at hstep
    · cases hstep
      exact h.withReceive hplaced (Read.add (hread.batch batch rfl) hle hsessions)
    · cases hstep
      exact
        { h with
          toPlaced := hplaced
          read := ⟨hread.batch, hread.found⟩ }
  · cases hstep

theorem fresh_storeHandle (h : Fresh s) (hplaced : Placed s')
    (hstep : s.storeHandle = some s') : Fresh s' := by
  unfold Listener.storeHandle at hstep
  split at hstep
  · next batch session hreceive =>
    have hread := h.read
    rw [hreceive] at hread
    rcases hread.found _ _ rfl with ⟨hle, hsessions⟩
    cases hstep
    exact
      { h with
        toPlaced := hplaced
        read := Read.add (hread.batch batch rfl) hle hsessions }
  · cases hstep

theorem mem_closed_closeEach {sessions : List UdpSession} {entry : ListenerEntry} {id : Nat} :
    id ∈ (Listener.closeEach sessions entry).closed <->
      id ∈ entry.closed ∨ exists session, session ∈ sessions ∧ session.id = id := by
  induction sessions generalizing entry with
  | nil => simp [Listener.closeEach]
  | cons session rest ih =>
      have hcons : Listener.closeEach (session :: rest) entry =
          Listener.closeEach rest (entry.close session.id) := rfl
      rw [hcons, ih]
      simp only [ListenerEntry.close, List.mem_cons]
      grind

theorem state_closeEach (sessions : List UdpSession) (entry : ListenerEntry) :
    (Listener.closeEach sessions entry).state = entry.state := by
  induction sessions generalizing entry with
  | nil => rfl
  | cons session rest ih => exact ih (entry.close session.id)

/-- The flags are set on sessions of the generation the batch was read in, which is no
longer the current one. -/
theorem fresh_loadGeneration (h : Fresh s) (hplaced : Placed s')
    (hstep : s.loadGeneration = some s') : Fresh s' := by
  unfold Listener.loadGeneration at hstep
  split at hstep
  · next batch hreceive =>
    have hread := h.read
    have hknown := h.receiveKnown
    rw [hreceive] at hread hknown
    rcases hread.found _ _ rfl with ⟨hle, hsessions⟩
    split at hstep
    · cases hstep
      refine h.withReceive hplaced ⟨?_, ?_⟩
      · intro found hfound
        cases hfound
      · intro generation sessions hfound
        cases hfound
        exact ⟨hle, hsessions⟩
    · next hgeneration =>
      cases hstep
      have hshrinks := (shrinks_closeEach batch.sessions s.entry).1
      have hclosed : Fresh { s with entry := Listener.closeEach batch.sessions s.entry } := by
        apply h.shrink hshrinks (state_closeEach _ _)
        intro session hholds husable hclosed
        rcases mem_closed_closeEach.mp hclosed with hbefore | ⟨old, hmem, hid⟩
        · exact husable.2.1 hbefore
        · have hold := hknown old hmem
          have hsame := (hold.same_or_older (hshrinks.sessions _ _ hholds)).1 hid
          have hcurrent := husable.1
          rw [← hsame, hsessions old hmem] at hcurrent
          exact hgeneration hcurrent.symm
      exact hclosed.withReceive hplaced (read_of_idle rfl rfl)
  · cases hstep

theorem fresh_checkSession (h : Fresh s) (hplaced : Placed s')
    (hstep : s.checkSession = some s') : Fresh s' := by
  unfold Listener.checkSession at hstep
  split at hstep
  · cases hstep
    exact h.withReceive hplaced (read_of_idle rfl rfl)
  · next generation session rest checked hreceive =>
    have hread := h.read
    rw [hreceive] at hread
    rcases hread.found _ _ rfl with ⟨hle, hsessions⟩
    have hrest : forall checked, Read s.entry (.checking generation rest checked) := by
      intro checked
      constructor
      · intro batch hbatch
        cases hbatch
      · intro generation sessions hfound
        cases hfound
        exact ⟨hle, fun found hmem => hsessions found (List.mem_cons_of_mem _ hmem)⟩
    split at hstep
    · next hstale =>
      cases hstep
      -- The generation is the batch's own, so the flag is set already.
      have hset : session.id ∈ s.entry.closed := by
        rcases hstale with hgeneration | hset
        · exact absurd (hsessions session List.mem_cons_self) hgeneration
        · exact hset
      have hclosed : Fresh { s with entry := s.entry.close session.id } := by
        apply h.close
        intro found _ husable hid
        rw [← hid] at hset
        exact husable.2.1 hset
      exact hclosed.withReceive hplaced ((hrest checked).entry rfl rfl)
    · cases hstep
      exact h.withReceive hplaced (hrest _)
  · cases hstep

theorem fresh_sendDatagram (h : Fresh s) {session : UdpSession} (hplaced : Placed s')
    (hstep : s.sendDatagram session = some s') : Fresh s' := by
  unfold Listener.sendDatagram at hstep
  split at hstep
  · split at hstep
    · cases hstep
      exact h.frame hplaced rfl rfl rfl
    · cases hstep
  · cases hstep

theorem fresh_sendFailed (h : Fresh s) {session : UdpSession} (hplaced : Placed s')
    (hstep : s.sendFailed session = some s') : Fresh s' := by
  unfold Listener.sendFailed at hstep
  split at hstep
  · split at hstep
    · cases hstep
      exact h.withReceive hplaced (read_of_idle rfl rfl)
    · cases hstep
  · cases hstep

theorem fresh_receiveRemove (h : Fresh s) (hplaced : Placed s')
    (hstep : s.receiveRemove = some s') : Fresh s' := by
  rcases Listener.receiveRemove_cases hstep with ⟨sessions, removal, hreceive, hrest⟩
  have hbefore : s.receive.teardown = some removal := by rw [hreceive]; rfl
  have hremoval := h.toPlaced.teardownKnown hbefore
  have hgone := h.receiveGone removal hbefore
  rcases hrest with ⟨advanced, teardown, hadvance, rfl⟩ | ⟨advanced, hadvance, rfl⟩
  · have hdone := proceeds_of_advance hremoval hadvance
    exact (h.advance hdone hremoval hgone).withReceive hplaced (read_of_idle rfl rfl)
  · have hdone := proceeds_of_advance hremoval hadvance
    exact (h.advance hdone hremoval hgone).withReceive hplaced (read_of_idle rfl rfl)

theorem fresh_endPass (h : Fresh s) (hplaced : Placed s')
    (hstep : s.endPass = some s') : Fresh s' := by
  unfold Listener.endPass at hstep
  split at hstep
  · cases hstep
    exact h.withReceive hplaced (read_of_idle rfl rfl)
  · cases hstep

theorem fresh_receiveFailed (h : Fresh s) (hplaced : Placed s')
    (hstep : s.receiveFailed = some s') : Fresh s' := by
  unfold Listener.receiveFailed at hstep
  split at hstep
  · cases hstep
    exact h.withReceive hplaced (read_of_idle rfl rfl)
  · cases hstep

end Receive

/-!
# Steps of the other tasks
-/

section Loops

variable {s s' : Listener} {id : Nat}

theorem fresh_collectSessions (h : Fresh s) (hplaced : Placed s')
    (hstep : s.collectSessions = some s') : Fresh s' := by
  unfold Listener.collectSessions at hstep
  split at hstep
  · cases hstep
    exact h.frame hplaced rfl rfl rfl
  · cases hstep

theorem fresh_expireSession (h : Fresh s) {idle : Bool} (hplaced : Placed s')
    (hstep : s.expireSession idle = some s') : Fresh s' := by
  unfold Listener.expireSession at hstep
  split at hstep
  · cases hstep
    exact h.frame hplaced rfl rfl rfl
  · split at hstep
    · cases hstep
      exact h.frame hplaced rfl rfl rfl
    · cases hstep
      exact h.frame hplaced rfl rfl rfl
  · cases hstep

theorem fresh_cleanupRemove (h : Fresh s) (hplaced : Placed s')
    (hstep : s.cleanupRemove = some s') : Fresh s' := by
  rcases Listener.cleanupRemove_cases hstep with ⟨sessions, removal, hcleanup, hrest⟩
  have hbefore : s.cleanup.teardown = some removal := by rw [hcleanup]; rfl
  have hremoval := h.toPlaced.cleanupTeardownKnown hbefore
  have hgone := h.cleanupGone removal hbefore
  rcases hrest with ⟨advanced, teardown, hadvance, rfl⟩ | ⟨advanced, hadvance, rfl⟩
  · have hdone := proceeds_of_advance hremoval hadvance
    exact (h.advance hdone hremoval hgone).frame hplaced rfl rfl rfl
  · have hdone := proceeds_of_advance hremoval hadvance
    exact (h.advance hdone hremoval hgone).frame hplaced rfl rfl rfl

theorem fresh_checkClosed (h : Fresh s) (hplaced : Placed s')
    (hstep : s.checkClosed id = some s') : Fresh s' := by
  unfold Listener.checkClosed at hstep
  split at hstep
  · split at hstep
    · cases hstep
      exact h.frame hplaced rfl rfl rfl
    · cases hstep
      exact h.frame hplaced rfl rfl rfl
  · cases hstep

theorem fresh_receiveReply (h : Fresh s) (hplaced : Placed s')
    (hstep : s.receiveReply id = some s') : Fresh s' := by
  unfold Listener.receiveReply at hstep
  split at hstep
  · cases hstep
    exact h.frame hplaced rfl rfl rfl
  · cases hstep

theorem fresh_receiveReplyFailed (h : Fresh s) (hplaced : Placed s')
    (hstep : s.receiveReplyFailed id = some s') : Fresh s' := by
  unfold Listener.receiveReplyFailed at hstep
  split at hstep
  · cases hstep
    exact h.frame hplaced rfl rfl rfl
  · cases hstep

/-- A reply loop sets the flag of its session when the session is not in the table, or
is of an earlier generation. -/
theorem fresh_checkCurrent (h : Fresh s) (hplaced : Placed s')
    (hstep : s.checkCurrent id = some s') : Fresh s' := by
  unfold Listener.checkCurrent at hstep
  split at hstep
  · next session htask =>
    have hid : session.id = id := (h.taskKnown id _ htask).1
    have hknown : Known s.entry session := (h.taskKnown id _ htask).2
    split at hstep
    · cases hstep
      exact h.frame hplaced rfl rfl rfl
    · next hcurrent =>
      cases hstep
      have hclosed : Fresh { s with entry := s.entry.close session.id } := by
        apply h.close_known hknown
        intro hholds hgeneration
        apply hcurrent
        unfold Holds at hholds
        simp [Listener.isCurrent, hholds, hgeneration]
      exact hclosed.frame hplaced (by rw [hid]; rfl) rfl rfl
  · cases hstep

theorem fresh_sendReply (h : Fresh s) (hplaced : Placed s')
    (hstep : s.sendReply id = some s') : Fresh s' := by
  unfold Listener.sendReply at hstep
  split at hstep
  · cases hstep
    exact h.frame hplaced rfl rfl rfl
  · cases hstep

theorem fresh_sendReplyFailed (h : Fresh s) (hplaced : Placed s')
    (hstep : s.sendReplyFailed id = some s') : Fresh s' := by
  unfold Listener.sendReplyFailed at hstep
  split at hstep
  · cases hstep
    exact h.frame hplaced rfl rfl rfl
  · cases hstep

theorem fresh_replyRemove (h : Fresh s) (hplaced : Placed s')
    (hstep : s.replyRemove id = some s') : Fresh s' := by
  rcases Listener.replyRemove_cases hstep with ⟨session, stage, htask, hrest⟩
  have hknown := (h.taskKnown id _ htask).2
  have hgone := h.taskGone id session stage htask
  rcases hrest with ⟨advanced, teardown, hadvance, rfl⟩ | ⟨advanced, hadvance, rfl⟩
  · have hdone := proceeds_of_advance hknown hadvance
    exact (h.advance hdone hknown hgone).frame hplaced rfl rfl rfl
  · have hdone := proceeds_of_advance hknown hadvance
    exact (h.advance hdone hknown hgone).frame hplaced rfl rfl rfl

theorem fresh_cancel (h : Fresh s) (hplaced : Placed s')
    (hstep : s.cancel id = some s') : Fresh s' := by
  unfold Listener.cancel at hstep
  split at hstep
  · cases hstep
    exact h.frame hplaced rfl rfl rfl
  · cases hstep

end Loops

section Control

variable {s s' : Listener}

theorem toNat_saturatingSucc {generation : UInt64} (hroom : generation.toNat + 1 < 2 ^ 64) :
    (saturatingSucc generation).toNat = generation.toNat + 1 := by
  rw [saturatingSucc, if_pos hroom, UInt64.toNat_add]
  exact Nat.mod_eq_of_lt hroom

/-- An update that does not saturate leaves every session one generation behind. -/
theorem fresh_publish (h : Fresh s) {allocation : Allocation}
    (hroom : s.entry.generation.toNat + 1 < 2 ^ 64) (hplaced : Placed s')
    (hstep : s.publish allocation = some s') : Fresh s' := by
  unfold Listener.publish at hstep
  split at hstep
  · next hcontrol =>
    cases hstep
    have hlt : s.entry.generation < saturatingSucc s.entry.stateGeneration := by
      rw [h.generations, UInt64.lt_iff_toNat_lt, toNat_saturatingSucc hroom]
      exact Nat.lt_succ_self _
    exact
      { toPlaced := hplaced
        generations := rfl
        table := by
          intro session hholds
          apply Or.inl
          refine ⟨?_, rfl⟩
          rcases h.table session hholds with ⟨hold, _⟩ | husable
          · exact UInt64.lt_trans hold hlt
          · rw [husable.1]
            exact hlt
        read := by
          have hfound : forall generation sessions,
              s.receive.found = some (generation, sessions) ->
                generation < saturatingSucc s.entry.stateGeneration := by
            intro generation sessions hsome
            exact UInt64.lt_of_le_of_lt (h.read.found generation sessions hsome).1 hlt
          constructor
          · intro batch hbatch hgeneration
            have hbehind : batch.generation < saturatingSucc s.entry.stateGeneration := by
              cases hreceive : s.receive with
              | waiting => rw [hreceive] at hbatch; cases hbatch
              | checking => rw [hreceive] at hbatch; cases hbatch
              | forwarding => rw [hreceive] at hbatch; cases hbatch
              | removing => rw [hreceive] at hbatch; cases hbatch
              | ended => rw [hreceive] at hbatch; cases hbatch
              | _ =>
                  rw [hreceive] at hbatch hfound
                  cases hbatch
                  exact hfound _ _ rfl
            rw [hgeneration] at hbehind
            exact absurd hbehind (UInt64.lt_irrefl _)
          · intro generation sessions hsome
            refine ⟨UInt64.le_of_lt (hfound generation sessions hsome), ?_⟩
            exact (h.read.found generation sessions hsome).2 }
  · cases hstep

theorem fresh_stop (h : Fresh s) (hplaced : Placed s')
    (hstep : s.stop = some s') : Fresh s' := by
  unfold Listener.stop at hstep
  split at hstep
  · next hcontrol =>
    cases hstep
    exact h.withControl hplaced (by simp [hcontrol])
  · cases hstep

theorem fresh_receiveStopped (h : Fresh s) (hplaced : Placed s')
    (hstep : s.receiveStopped = some s') : Fresh s' := by
  unfold Listener.receiveStopped at hstep
  split at hstep
  · next hcontrol =>
    cases hstep
    have hended : Fresh { s with receive := .ended } :=
      h.withReceive h.toPlaced.receiveEnded (read_of_idle rfl rfl)
    exact hended.withControl hplaced (by simp [hcontrol])
  · cases hstep

theorem fresh_cleanupStopped (h : Fresh s) (hplaced : Placed s')
    (hstep : s.cleanupStopped = some s') : Fresh s' := by
  unfold Listener.cleanupStopped at hstep
  split at hstep
  · next hcontrol =>
    cases hstep
    exact
      { h with
        toPlaced := hplaced
        table := by
          intro session hholds
          rcases h.table session hholds with ⟨_, hpublished⟩ | husable
          · rw [hcontrol] at hpublished
            cases hpublished
          · exact Or.inr husable }
  · cases hstep

theorem Fresh.drainInto (h : Fresh s) {deleting : Bool}
    (hplaced : Placed (s.drainInto deleting)) : Fresh (s.drainInto deleting) where
  toPlaced := hplaced
  generations := h.generations
  table := by
    intro session hholds
    cases hholds
  read := h.read.entry rfl rfl

theorem fresh_drain (h : Fresh s) (hplaced : Placed s')
    (hstep : s.drain = some s') : Fresh s' := by
  unfold Listener.drain at hstep
  split at hstep
  · cases hstep
    exact h.drainInto hplaced
  · cases hstep
    exact h.drainInto hplaced
  · cases hstep

theorem fresh_closeSession (h : Fresh s) (hplaced : Placed s')
    (hstep : s.closeSession = some s') : Fresh s' := by
  rcases Listener.closeSession_cases hstep with ⟨deleting, teardown, rest, hcontrol, hrest⟩
  have hpending := h.pendingGone
  rw [hcontrol] at hpending
  have hgone := (hpending teardown List.mem_cons_self).2
  rcases hrest with ⟨advanced, more, hadvance, rfl⟩ | ⟨advanced, hadvance, rfl⟩
  · have hdone := proceeds_of_advance hgone.1 hadvance
    have hfresh := h.advance hdone hgone.1 (fun _ => hgone)
    exact hfresh.withControl hplaced (by simp [hdone.frame.2.2.2, hcontrol])
  · have hdone := proceeds_of_advance hgone.1 hadvance
    have hfresh := h.advance hdone hgone.1 (fun _ => hgone)
    exact hfresh.withControl hplaced (by simp [hdone.frame.2.2.2, hcontrol])

theorem fresh_finish (h : Fresh s) (hplaced : Placed s')
    (hstep : s.finish = some s') : Fresh s' := by
  unfold Listener.finish at hstep
  split at hstep
  · next hcontrol =>
    cases hstep
    have hidle : Fresh { s with control := .idle } :=
      h.withControl (h.toPlaced.steer rfl) (by simp [hcontrol])
    exact hidle.frame hplaced rfl rfl rfl
  · next hcontrol =>
    cases hstep
    exact h.withControl hplaced (by simp [hcontrol])
  · cases hstep

end Control

/-!
# Whole runs
-/

def Step.publishes : Step -> Bool
  | .publish _ => true
  | _ => false

theorem fresh_next {s s' : Listener} {step : Step} (h : Fresh s)
    (hroom : step.publishes = true -> s.entry.generation.toNat + 1 < 2 ^ 64)
    (hstep : next s step = some s') : Fresh s' := by
  have hplaced := placed_next h.toPlaced hstep
  cases step with
  | readState => exact fresh_readState h hplaced hstep
  | lookupSession addr => exact fresh_lookupSession h hplaced hstep
  | createFailed => exact fresh_createFailed h hplaced hstep
  | insertSession => exact fresh_insertSession h hplaced hstep
  | replaceSession => exact fresh_replaceSession h hplaced hstep
  | spawnReplyLoop => exact fresh_spawnReplyLoop h hplaced hstep
  | storeHandle => exact fresh_storeHandle h hplaced hstep
  | loadGeneration => exact fresh_loadGeneration h hplaced hstep
  | checkSession => exact fresh_checkSession h hplaced hstep
  | sendDatagram session => exact fresh_sendDatagram h hplaced hstep
  | sendFailed session => exact fresh_sendFailed h hplaced hstep
  | receiveRemove => exact fresh_receiveRemove h hplaced hstep
  | endPass => exact fresh_endPass h hplaced hstep
  | receiveFailed => exact fresh_receiveFailed h hplaced hstep
  | collectSessions => exact fresh_collectSessions h hplaced hstep
  | expireSession idle => exact fresh_expireSession h hplaced hstep
  | cleanupRemove => exact fresh_cleanupRemove h hplaced hstep
  | checkClosed id => exact fresh_checkClosed h hplaced hstep
  | receiveReply id => exact fresh_receiveReply h hplaced hstep
  | receiveReplyFailed id => exact fresh_receiveReplyFailed h hplaced hstep
  | checkCurrent id => exact fresh_checkCurrent h hplaced hstep
  | sendReply id => exact fresh_sendReply h hplaced hstep
  | sendReplyFailed id => exact fresh_sendReplyFailed h hplaced hstep
  | replyRemove id => exact fresh_replyRemove h hplaced hstep
  | cancel id => exact fresh_cancel h hplaced hstep
  | publish allocation => exact fresh_publish h (hroom rfl) hplaced hstep
  | stop => exact fresh_stop h hplaced hstep
  | receiveStopped => exact fresh_receiveStopped h hplaced hstep
  | cleanupStopped => exact fresh_cleanupStopped h hplaced hstep
  | drain => exact fresh_drain h hplaced hstep
  | closeSession => exact fresh_closeSession h hplaced hstep
  | finish => exact fresh_finish h hplaced hstep

theorem generation_advance {s s' : Listener} {awaits : Bool} {teardown : Teardown}
    {rest : Option Teardown} (h : s.advance awaits teardown = some (s', rest)) :
    s'.entry.generation = s.entry.generation := by
  simp only [Listener.advance] at h
  split at h
  · split at h
    · next session hremoved =>
      cases h
      rw [(removeSession_eq_some hremoved).2.2]
    · cases h
      rfl
  · cases h
    rfl
  · split at h
    · cases h
      rfl
    · cases h
      rfl
  · split at h
    · cases h
      rfl
    · cases h

theorem generation_insertSession (entry : ListenerEntry) (addr : SocketAddr)
    (generation : UInt64) (upstream : Target) :
    (entry.insertSession addr generation upstream).2.generation = entry.generation := by
  rcases insertSession_cases entry addr generation upstream with
    ⟨_, _, heq⟩ | ⟨_, _, heq⟩ | ⟨_, _, heq⟩
  · rw [heq]
  · rw [heq]
  · rw [heq]
    rfl

theorem generation_next {s s' : Listener} {step : Step} (hstep : next s step = some s')
    (hkeeps : step.publishes = false) : s'.entry.generation = s.entry.generation := by
  cases step with
  | publish allocation => cases hkeeps
  | insertSession =>
      simp only [next, Listener.insertSession] at hstep
      split at hstep
      · split at hstep
        · cases hstep
          rfl
        · cases hstep
          rfl
        · cases hstep
          exact generation_insertSession _ _ _ _
        · cases hstep
          exact generation_insertSession _ _ _ _
      · cases hstep
  | loadGeneration =>
      simp only [next, Listener.loadGeneration] at hstep
      split at hstep
      · split at hstep
        · cases hstep
          rfl
        · cases hstep
          exact (shrinks_closeEach _ s.entry).1.generation
      · cases hstep
  | replaceSession =>
      simp only [next, Listener.replaceSession] at hstep
      grind [generation_advance]
  | receiveRemove =>
      simp only [next, Listener.receiveRemove] at hstep
      grind [generation_advance]
  | cleanupRemove =>
      simp only [next, Listener.cleanupRemove] at hstep
      grind [generation_advance]
  | replyRemove id =>
      simp only [next, Listener.replyRemove] at hstep
      grind [generation_advance, Listener.setReply, Listener.endReply]
  | closeSession =>
      simp only [next, Listener.closeSession] at hstep
      grind [generation_advance]
  | _ =>
      simp only [next, Listener.readState, Listener.lookupSession, Listener.createFailed,
        Listener.spawnReplyLoop, Listener.storeHandle, Listener.checkSession,
        Listener.sendDatagram, Listener.sendFailed, Listener.endPass, Listener.receiveFailed,
        Listener.collectSessions, Listener.expireSession, Listener.checkClosed,
        Listener.receiveReply, Listener.receiveReplyFailed, Listener.checkCurrent,
        Listener.sendReply, Listener.sendReplyFailed, Listener.cancel, Listener.stop,
        Listener.receiveStopped, Listener.cleanupStopped, Listener.drain,
        Listener.finish] at hstep
      repeat' split at hstep
      all_goals cases hstep
      all_goals rfl

theorem fresh_bound (allocation : Allocation) (maxSessions : Nat) :
    Fresh (Listener.bound allocation maxSessions) where
  toPlaced := placed_bound allocation maxSessions
  generations := rfl
  table := by
    intro session hholds
    cases hholds
  read := read_of_idle rfl rfl

theorem generation_grows {s s' : Listener} {step : Step} (h : Fresh s)
    (hroom : step.publishes = true -> s.entry.generation.toNat + 1 < 2 ^ 64)
    (hstep : next s step = some s') :
    s'.entry.generation.toNat <=
      s.entry.generation.toNat + (if step.publishes then 1 else 0) := by
  cases hpublishes : step.publishes with
  | false =>
      rw [generation_next hstep hpublishes]
      exact Nat.le_add_right _ _
  | true =>
      cases step with
      | publish allocation =>
          simp only [next, Listener.publish] at hstep
          split at hstep
          · cases hstep
            have hsucc := toNat_saturatingSucc (hroom rfl)
            rw [← h.generations] at hsucc ⊢
            exact Nat.le_of_eq hsucc
          · cases hstep
      | _ => cases hpublishes

theorem fresh_run (allocation : Allocation) (maxSessions : Nat) {steps : List Step}
    {s : Listener} (hrun : run next steps (Listener.bound allocation maxSessions) = some s)
    (hupdates : steps.countP Step.publishes < 2 ^ 64 - 1) : Fresh s := by
  have hkeeps : forall s step s', Fresh s ->
      (step.publishes = true -> s.entry.generation.toNat < 2 ^ 64 - 1) ->
      next s step = some s' ->
        Fresh s' ∧ s'.entry.generation.toNat <=
          s.entry.generation.toNat + (if step.publishes then 1 else 0) := by
    intro s step s' hfresh hbelow hstep
    have hroom : step.publishes = true -> s.entry.generation.toNat + 1 < 2 ^ 64 := by
      intro hpublishes
      have hlt := hbelow hpublishes
      lia
    exact ⟨fresh_next hfresh hroom hstep, generation_grows hfresh hroom hstep⟩
  apply run_below hkeeps hrun (fresh_bound allocation maxSessions)
  have hzero : (Listener.bound allocation maxSessions).entry.generation.toNat = 0 := rfl
  rw [hzero, Nat.zero_add]
  exact Nat.le_of_lt hupdates

/-- A datagram of the client finds a session it can be sent through, or none. -/
def FindsUsable (entry : ListenerEntry) (addr : SocketAddr) : Prop :=
  match entry.lookupSession addr entry.stateGeneration with
  | .found session => Usable entry session
  | _ => entry.table.lookup addr = none

theorem findsUsable {entry : ListenerEntry}
    (hgenerations : entry.generation = entry.stateGeneration)
    (htable : forall session, Holds entry session -> Usable entry session)
    (addr : SocketAddr) : FindsUsable entry addr := by
  have hcurrent : entry.current addr entry.stateGeneration = entry.table.lookup addr := by
    unfold ListenerEntry.current
    cases hlookup : entry.table.lookup addr with
    | none => rfl
    | some session =>
        have husable := htable session (holds_of_lookup hlookup)
        rw [Option.filter_some, ← hgenerations, husable.1, decide_eq_true rfl, if_pos rfl]
  unfold FindsUsable ListenerEntry.lookupSession
  rw [hcurrent]
  cases hlookup : entry.table.lookup addr with
  | some session => exact htable session (holds_of_lookup hlookup)
  | none =>
      simp only
      split
      · next hfound => split at hfound <;> cases hfound
      · trivial

/-- Outside of the window between an update's generation store and its drain, the two
generations agree, every session in the table is current and open, and a datagram finds
a session for the current target or none. -/
theorem sessions_current (allocation : Allocation) (maxSessions : Nat) (steps : List Step)
    {s : Listener} (hrun : run next steps (Listener.bound allocation maxSessions) = some s)
    (hupdates : steps.countP Step.publishes < 2 ^ 64 - 1) (hdrained : s.control ≠ .published) :
    s.entry.generation = s.entry.stateGeneration ∧
      (forall addr session, s.entry.table.lookup addr = some session ->
        session.generation = s.entry.generation ∧ session.id ∉ s.entry.closed) ∧
      forall addr, FindsUsable s.entry addr := by
  have hfresh := fresh_run allocation maxSessions hrun hupdates
  have htable : forall session, Holds s.entry session -> Usable s.entry session := by
    intro session hholds
    rcases hfresh.table session hholds with ⟨_, hpublished⟩ | husable
    · exact absurd hpublished hdrained
    · exact husable
  refine ⟨hfresh.generations.symm, ?_, findsUsable hfresh.generations.symm htable⟩
  intro addr session hlookup
  have husable := htable session (holds_of_lookup hlookup)
  exact ⟨husable.1, husable.2.1⟩

/-- A session of generation 0 is in the table when an update publishes generation 1; a
datagram read after that replaces it, and the drain takes the new one as well.  The
next datagram of the client gets a session of its own. -/
def replacedByUpdate : List Step :=
  [.readState, .lookupSession firstClient, .insertSession, .spawnReplyLoop, .storeHandle,
    .loadGeneration, .checkSession, .checkSession, .endPass,
    .publish (forwardedAllocation (some "10.0.0.2")), .readState,
    .lookupSession firstClient, .insertSession, .drain, .closeSession, .closeSession,
    .finish, .replaceSession, .replaceSession, .checkClosed 0, .replaceSession,
    .spawnReplyLoop, .loadGeneration, .checkSession, .checkSession, .endPass, .readState,
    .lookupSession firstClient, .insertSession, .spawnReplyLoop, .storeHandle]

theorem sessions_current_after_update :
    exists s, run next replacedByUpdate
        (Listener.bound (forwardedAllocation (some "10.0.0.1")) 4) = some s ∧
      s.entry.table.lookup firstClient = some ⟨2, 1, firstClient, ⟨"10.0.0.2", 53⟩⟩ ∧
      s.entry.generation = s.entry.stateGeneration ∧ FindsUsable s.entry firstClient := by
  refine ⟨_, rfl, rfl, ?_⟩
  have hcurrent := sessions_current (forwardedAllocation (some "10.0.0.1")) 4
    replacedByUpdate rfl (by decide) (by decide)
  exact ⟨hcurrent.1, hcurrent.2.2 firstClient⟩

end Udp
end Runtime
end Relayd
