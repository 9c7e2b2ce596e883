import Mathlib.Data.Finset.Card
import Relayd.Runtime.UdpTasks

/-!
# Reply loops of sessions that are gone

A session that has left the table is forgotten; its reply loop has to end by itself or
be aborted.  Whoever takes a session out of the table sets its flag and then aborts the
task whose handle is stored.  The handle is stored only some time after the task was
spawned, so an abort may find none while the loop already waits for its upstream; and
a task that is stopped in the middle of a removal aborts nothing.  In the runs that
avoid both, no reply loop is left behind.
-/

namespace Relayd
namespace Runtime
namespace Udp

open Foundation

/-- Some task is in the middle of taking a session down. -/
def TearsDown (s : Listener) (teardown : Teardown) : Prop :=
  s.receive.teardown = some teardown ∨ s.cleanup.teardown = some teardown ∨
    teardown ∈ s.control.pending

/-- The session has been taken out of the table, and its reply task is still to be
aborted. -/
def Tearing (s : Listener) (session : UdpSession) : Prop :=
  exists stage, TearsDown s ⟨session, stage⟩ ∧ (stage = .closing ∨ stage = .aborting)

/-- The reply loop ends without another datagram from its upstream. -/
def Doomed (s : Listener) (id : Nat) (phase : ReplyPhase) : Prop :=
  id ∈ s.aborted ∨ (exists stage, phase = .removing stage) ∨
    (id ∈ s.entry.closed ∧ phase ≠ .receiving)

/-- The session in the table whose reply loop has not been spawned. -/
def ReceivePhase.unspawned : ReceivePhase -> Option UdpSession
  | .replacing _ session _ => some session
  | .spawning _ session => some session
  | _ => none

structure Owned (s : Listener) : Prop extends Placed s where
  flagged : forall session, TearsDown s ⟨session, .aborting⟩ ->
    session.id ∈ s.entry.closed
  unwaiting : forall id session, s.replies.lookup id ≠ some ⟨session, .removing .awaiting⟩
  unspawned : forall session, s.receive.unspawned = some session ->
    s.replies.lookup session.id = none ∧
      (Holds s.entry session ∨ session.id ∈ s.entry.closed ∨ Tearing s session)
  owned : forall id session phase, s.replies.lookup id = some ⟨session, phase⟩ ->
    Doomed s id phase ∨ Holds s.entry session ∨ Tearing s session

/-!
# How the invariant moves on
-/

/-- The reply loop of the session is taking the session out itself. -/
def Removing (s : Listener) (session : UdpSession) : Prop :=
  exists stage, s.replies.lookup session.id = some ⟨session, .removing stage⟩

/-- The teardown of the session is over, and its reply loop has been seen to. -/
def Settled (s : Listener) (session : UdpSession) : Prop :=
  session.id ∈ s.entry.closed ∧
    (session.id ∈ s.aborted ∨ forall task, s.replies.lookup session.id = some task ->
      task.phase ≠ .receiving)

/-- Flags and aborts stay, and a session that leaves the table is on its way out. -/
structure Keeps (s s' : Listener) : Prop where
  closed : forall id, id < s.entry.table.nextSession -> id ∈ s.entry.closed ->
    id ∈ s'.entry.closed
  aborted : forall id, id ∈ s.aborted -> id ∈ s'.aborted
  holds : forall session, Holds s.entry session ->
    Holds s'.entry session ∨ Tearing s' session ∨ Removing s session
  tearing : forall session, Tearing s session -> Tearing s' session ∨ Settled s' session

section Changes

variable {s s' : Listener}

theorem Keeps.doomed (h : Keeps s s') (hplaced : Placed s) {id : Nat} {session : UdpSession}
    {phase phase' : ReplyPhase} (htask : s.replies.lookup id = some ⟨session, phase⟩)
    (hdoomed : Doomed s id phase)
    (hremoving : forall stage, phase = .removing stage ->
      exists stage', phase' = .removing stage')
    (hreceiving : id ∈ s.entry.closed -> phase ≠ .receiving -> phase' ≠ .receiving) :
    Doomed s' id phase' := by
  rcases hdoomed with haborted | ⟨stage, hphase⟩ | ⟨hclosed, hphase⟩
  · exact Or.inl (h.aborted id haborted)
  · exact Or.inr (Or.inl (hremoving stage hphase))
  · have htracked := hplaced.taskKnown id _ htask
    have hnumbered := htracked.2.numbered
    rw [htracked.1] at hnumbered
    exact Or.inr (Or.inr ⟨h.closed id hnumbered hclosed, hreceiving hclosed hphase⟩)

/-- A task of the new state goes on from a task of the old one. -/
def Continues (s : Listener) (id : Nat) (session : UdpSession) (phase' : ReplyPhase) :
    Prop :=
  exists phase, s.replies.lookup id = some ⟨session, phase⟩ ∧
    (forall stage, phase = .removing stage -> exists stage', phase' = .removing stage') ∧
    (id ∈ s.entry.closed -> phase ≠ .receiving -> phase' ≠ .receiving)

theorem continues_same {id : Nat} {session : UdpSession} {phase : ReplyPhase}
    (h : s.replies.lookup id = some ⟨session, phase⟩) : Continues s id session phase :=
  ⟨phase, h, fun stage hstage => ⟨stage, hstage⟩, fun _ hphase => hphase⟩

theorem Owned.keep (h : Owned s) (hplaced : Placed s') (hkeeps : Keeps s s')
    (hflagged : forall session, TearsDown s' ⟨session, .aborting⟩ ->
      session.id ∈ s'.entry.closed)
    (hunwaiting : forall id session,
      s'.replies.lookup id ≠ some ⟨session, .removing .awaiting⟩)
    (hunspawned : forall session, s'.receive.unspawned = some session ->
      s'.replies.lookup session.id = none ∧
        (s.receive.unspawned = some session ∨ Holds s'.entry session))
    (htasks : forall id session phase, s'.replies.lookup id = some ⟨session, phase⟩ ->
      Continues s id session phase ∨ Holds s'.entry session ∨ Tearing s' session) :
    Owned s' where
  toPlaced := hplaced
  flagged := hflagged
  unwaiting := hunwaiting
  unspawned := by
    intro session hsession
    rcases hunspawned session hsession with ⟨hnone, hbefore | hholds⟩
    · refine ⟨hnone, ?_⟩
      rcases h.unspawned session hbefore with ⟨hnone', hholds | hclosed | htearing⟩
      · rcases hkeeps.holds session hholds with hstill | htearing | ⟨stage, htask⟩
        · exact Or.inl hstill
        · exact Or.inr (Or.inr htearing)
        · rw [hnone'] at htask
          cases htask
      · have hknown : Known s.entry session := by
          apply h.receiveKnown
          cases hreceive : s.receive with
          | replacing batch found replaced =>
              rw [hreceive] at hbefore
              cases hbefore
              exact List.mem_cons_self
          | spawning batch found =>
              rw [hreceive] at hbefore
              cases hbefore
              exact List.mem_cons_self
          | _ =>
              rw [hreceive] at hbefore
              cases hbefore
        exact Or.inr (Or.inl (hkeeps.closed _ hknown.numbered hclosed))
      · rcases hkeeps.tearing session htearing with hstill | hsettled
        · exact Or.inr (Or.inr hstill)
        · exact Or.inr (Or.inl hsettled.1)
    · exact ⟨hnone, Or.inl hholds⟩
  owned := by
    intro id session phase htask
    rcases htasks id session phase htask with ⟨before, hbefore, hremoving, hreceiving⟩ | hrest
    · have hdoomed : Doomed s id before -> Doomed s' id phase := by
        intro hdoomed
        exact hkeeps.doomed h.toPlaced hbefore hdoomed hremoving hreceiving
      have hid : session.id = id := (h.taskKnown id _ hbefore).1
      rcases h.owned id session before hbefore with hnow | hholds | htearing
      · exact Or.inl (hdoomed hnow)
      · rcases hkeeps.holds session hholds with hstill | htearing | ⟨stage, hown⟩
        · exact Or.inr (Or.inl hstill)
        · exact Or.inr (Or.inr htearing)
        · rw [hid, hbefore] at hown
          cases hown
          exact Or.inl (hdoomed (Or.inr (Or.inl ⟨stage, rfl⟩)))
      · rcases hkeeps.tearing session htearing with hstill | ⟨hclosed, hsettled⟩
        · exact Or.inr (Or.inr hstill)
        · rw [hid] at hclosed hsettled
          rcases hsettled with haborted | hidle
          · exact Or.inl (Or.inl haborted)
          · exact Or.inl (Or.inr (Or.inr ⟨hclosed, hidle _ htask⟩))
    · exact Or.inr hrest

/-- The table is the same, and no session is let go in the middle of its teardown. -/
theorem keeps_of_table (htable : s'.entry.table = s.entry.table)
    (hclosed : forall id, id ∈ s.entry.closed -> id ∈ s'.entry.closed)
    (haborted : forall id, id ∈ s.aborted -> id ∈ s'.aborted)
    (htearing : forall session, Tearing s session -> Tearing s' session) : Keeps s s' where
  closed := fun id _ => hclosed id
  aborted := haborted
  holds := by
    intro session hholds
    unfold Holds at hholds ⊢
    rw [htable]
    exact Or.inl hholds
  tearing := fun session hsession => Or.inl (htearing session hsession)

theorem Owned.withReceive (h : Owned s) {receive : ReceivePhase}
    (hplaced : Placed { s with receive := receive }) (hbefore : s.receive.teardown = none)
    (hafter : forall teardown, receive.teardown = some teardown ->
      teardown.stage = .locking) (hunspawned : receive.unspawned = none) :
    Owned { s with receive := receive } := by
  have htears : forall teardown, TearsDown s teardown ->
      TearsDown { s with receive := receive } teardown := by
    intro teardown hteardown
    rcases hteardown with hreceive | hrest
    · rw [hbefore] at hreceive
      cases hreceive
    · exact Or.inr hrest
  apply h.keep hplaced
  · refine keeps_of_table rfl (fun _ hid => hid) (fun _ hid => hid) ?_
    rintro session ⟨stage, hteardown, hstage⟩
    exact ⟨stage, htears _ hteardown, hstage⟩
  · intro session hteardown
    rcases hteardown with hreceive | hrest
    · have hlocking := hafter _ hreceive
      cases hlocking
    · exact h.flagged session (Or.inr hrest)
  · exact h.unwaiting
  · intro session hsession
    have hsome : receive.unspawned = some session := hsession
    rw [hunspawned] at hsome
    cases hsome
  · intro id session phase htask
    exact Or.inl (continues_same htask)

theorem Owned.close (h : Owned s) (id : Nat) : Owned { s with entry := s.entry.close id } := by
  apply h.keep (h.toPlaced.close id)
  · exact keeps_of_table rfl (fun _ hid => List.mem_cons_of_mem _ hid) (fun _ hid => hid)
      (fun _ hsession => hsession)
  · exact fun session hteardown => List.mem_cons_of_mem _ (h.flagged session hteardown)
  · exact h.unwaiting
  · exact fun session hsession => ⟨(h.unspawned session hsession).1, Or.inl hsession⟩
  · intro other session phase htask
    exact Or.inl (continues_same htask)

theorem Owned.closeEach (h : Owned s) (sessions : List UdpSession) :
    Owned { s with entry := Listener.closeEach sessions s.entry } := by
  induction sessions generalizing s with
  | nil => exact h
  | cons session rest ih => exact ih (h.close session.id)

/-- A reply loop goes on to another phase. -/
theorem Owned.setReply (h : Owned s) {id : Nat} {session : UdpSession}
    {before phase : ReplyPhase} (hplaced : Placed (s.setReply session phase))
    (htask : s.replies.lookup id = some ⟨session, before⟩)
    (hremoving : forall stage, before = .removing stage ->
      exists stage', phase = .removing stage')
    (hreceiving : id ∈ s.entry.closed -> before ≠ .receiving -> phase ≠ .receiving)
    (hunwaiting : phase ≠ .removing .awaiting) : Owned (s.setReply session phase) := by
  have hid : session.id = id := (h.taskKnown id _ htask).1
  have hkeeps : Keeps s (s.setReply session phase) :=
    keeps_of_table rfl (fun _ hclosed => hclosed) (fun _ haborted => haborted)
      (fun _ hsession => hsession)
  apply h.keep hplaced hkeeps
  · exact h.flagged
  · intro other found hfound
    rw [lookup_setReply] at hfound
    split at hfound
    · cases hfound
      exact hunwaiting rfl
    · exact h.unwaiting other found hfound
  · intro found hfound
    have hnone := (h.unspawned found hfound).1
    refine ⟨?_, Or.inl hfound⟩
    rw [lookup_setReply, if_neg]
    · exact hnone
    · intro hsame
      rw [hsame, hid, htask] at hnone
      cases hnone
  · intro other found after hfound
    rw [lookup_setReply] at hfound
    split at hfound
    · next hother =>
      cases hfound
      rw [hother, hid]
      exact Or.inl ⟨before, htask, hremoving, hreceiving⟩
    · exact Or.inl (continues_same hfound)

theorem Owned.endReply (h : Owned s) (id : Nat) : Owned (s.endReply id) := by
  have hkeeps : Keeps s (s.endReply id) :=
    keeps_of_table rfl (fun _ hclosed => hclosed) (fun _ haborted => haborted)
      (fun _ hsession => hsession)
  apply h.keep (h.toPlaced.endReply id) hkeeps
  · exact h.flagged
  · exact fun other found hfound => h.unwaiting other found (lookup_endReply hfound)
  · intro found hfound
    refine ⟨?_, Or.inl hfound⟩
    cases hlookup : (s.endReply id).replies.lookup found.id with
    | none => rfl
    | some task =>
        have hnone := (h.unspawned found hfound).1
        rw [lookup_endReply hlookup] at hnone
        cases hnone
  · intro other session phase htask
    exact Or.inl (continues_same (lookup_endReply htask))

theorem holds_erase {entry : ListenerEntry} {session taken : UdpSession}
    (h : Holds entry session) (htaken : Holds entry taken) :
    Holds { entry with table := entry.table.erase taken.clientAddr } session ∨
      session = taken := by
  unfold Holds at h htaken ⊢
  rw [SessionTable.lookup_erase]
  split
  · next haddr =>
    rw [haddr, htaken] at h
    exact Or.inr (Option.some.inj h).symm
  · exact Or.inl h

/-- The reply loop of the session waits for its upstream. -/
def waits (s : Listener) (session : UdpSession) : Bool :=
  (s.replies.lookup session.id).any (fun task => task.phase = .receiving)

theorem not_receiving {session : UdpSession} (h : waits s session = false) :
    forall task, s.replies.lookup session.id = some task -> task.phase ≠ .receiving := by
  intro task htask
  rw [waits, htask, Option.any_some] at h
  exact of_decide_eq_false h

/-- The handle that a teardown takes is stored, or its reply loop does not wait. -/
def findsHandle (s : Listener) (teardown : Teardown) : Bool :=
  teardown.stage ≠ .aborting || teardown.session.id ∈ s.handles ||
    !waits s teardown.session

/-- One more stage of a teardown: it ends only when the reply loop is seen to. -/
theorem Proceeds.tearing {awaits : Bool} {advanced : Listener} {teardown : Teardown}
    {rest : Option Teardown} (h : Proceeds awaits s teardown advanced rest)
    (hflagged : teardown.stage = .aborting -> teardown.session.id ∈ s.entry.closed)
    (hfinds : findsHandle s teardown = true)
    (hstage : teardown.stage = .closing ∨ teardown.stage = .aborting) :
    rest = some ⟨teardown.session, .aborting⟩ ∨ Settled advanced teardown.session := by
  cases h with
  | closed => exact Or.inl rfl
  | aborted => exact Or.inr ⟨hflagged rfl, Or.inl List.mem_cons_self⟩
  | unhandled hhandle =>
      refine Or.inr ⟨hflagged rfl, Or.inr (not_receiving ?_)⟩
      simpa [findsHandle, hhandle] using hfinds
  | taken => simp at hstage
  | missed => simp at hstage
  | joined => simp at hstage

theorem Owned.advance (h : Owned s) {awaits : Bool} {advanced : Listener}
    {teardown : Teardown} {rest : Option Teardown}
    (hadvance : Proceeds awaits s teardown advanced rest)
    (hheld : TearsDown s teardown) (hfinds : findsHandle s teardown = true)
    (hplaced : Placed s') (hentry : s'.entry = advanced.entry)
    (hreplies : s'.replies = s.replies) (haborted : s'.aborted = advanced.aborted)
    (hlost : forall found, TearsDown s found -> found = teardown ∨ TearsDown s' found)
    (hmore : forall more, rest = some more -> TearsDown s' more)
    (hnew : forall found, TearsDown s' found -> TearsDown s found ∨ rest = some found)
    (hunspawned : forall session, s'.receive.unspawned = some session ->
      s.receive.unspawned = some session) : Owned s' := by
  have hflag : teardown.stage = .aborting -> teardown.session.id ∈ s.entry.closed := by
    intro hstage
    apply h.flagged
    rw [← hstage]
    exact hheld
  have hshrinks := hadvance.shrinks
  rw [← hentry] at hshrinks
  have hkeeps : Keeps s s' := by
    constructor
    · exact fun id _ hclosed => hshrinks.closed id hclosed
    · intro id hid
      rw [haborted]
      cases hadvance with
      | aborted => exact List.mem_cons_of_mem _ hid
      | _ => exact hid
    · intro session hholds
      rw [hentry]
      cases hadvance with
      | taken htaken =>
          rcases holds_erase hholds htaken with hstill | hsame
          · exact Or.inl hstill
          · rw [hsame]
            exact Or.inr (Or.inl ⟨.closing, hmore _ rfl, Or.inl rfl⟩)
      | _ => exact Or.inl hholds
    · rintro session ⟨stage, hteardown, hstage⟩
      rcases hlost _ hteardown with hsame | hstill
      · have hsession : teardown.session = session := by rw [← hsame]
        have hstage' : teardown.stage = .closing ∨ teardown.stage = .aborting := by
          rw [← hsame]
          exact hstage
        rcases hadvance.tearing hflag hfinds hstage' with hrest | hsettled
        · rw [hsession] at hrest
          exact Or.inl ⟨.aborting, hmore _ hrest, Or.inr rfl⟩
        · rw [hsession] at hsettled
          have hframe := hadvance.frame.1
          apply Or.inr
          unfold Settled at hsettled ⊢
          rw [hentry, haborted, hreplies]
          rw [hframe] at hsettled
          exact hsettled
      · exact Or.inl ⟨stage, hstill, hstage⟩
  apply h.keep hplaced hkeeps
  · intro session hteardown
    rcases hnew _ hteardown with hbefore | hrest
    · exact hshrinks.closed _ (h.flagged session hbefore)
    · rw [hentry]
      cases hadvance with
      | closed =>
          cases hrest
          exact List.mem_cons_self
      | taken => cases hrest
      | aborted => split at hrest <;> cases hrest
      | missed => cases hrest
      | unhandled => cases hrest
      | joined => cases hrest
  · rw [hreplies]
    exact h.unwaiting
  · intro session hsession
    rw [hreplies]
    have hbefore := hunspawned session hsession
    exact ⟨(h.unspawned session hbefore).1, Or.inl hbefore⟩
  · intro id session phase htask
    rw [hreplies] at htask
    exact Or.inl (continues_same htask)

end Changes

/-!
# Steps of the receive loop
-/

section Receive

variable {s s' : Listener}

/-- The receive loop goes on, before and after without a teardown. -/
theorem Owned.proceed (h : Owned s) {receive : ReceivePhase}
    (hplaced : Placed { s with receive := receive }) (hbefore : s.receive.teardown = none)
    (hafter : receive.teardown = none) (hunspawned : receive.unspawned = none) :
    Owned { s with receive := receive } := by
  refine h.withReceive hplaced hbefore ?_ hunspawned
  intro teardown hsome
  rw [hafter] at hsome
  cases hsome

theorem owned_readState (h : Owned s) (hplaced : Placed s')
    (hstep : s.readState = some s') : Owned s' := by
  unfold Listener.readState at hstep
  split at hstep
  · next hreceive =>
    split at hstep
    · cases hstep
      exact h
    · cases hstep
      exact h.proceed hplaced (by rw [hreceive]; rfl) rfl rfl
  · cases hstep

theorem owned_lookupSession (h : Owned s) {addr : SocketAddr} (hplaced : Placed s')
    (hstep : s.lookupSession addr = some s') : Owned s' := by
  unfold Listener.lookupSession at hstep
  split at hstep
  · next batch hreceive =>
    have hbefore : s.receive.teardown = none := by rw [hreceive]; rfl
    split at hstep
    · cases hstep
      exact h.proceed hplaced hbefore rfl rfl
    · cases hstep
      exact h
    · cases hstep
      exact h.proceed hplaced hbefore rfl rfl
  · cases hstep

theorem owned_createFailed (h : Owned s) (hplaced : Placed s')
    (hstep : s.createFailed = some s') : Owned s' := by
  unfold Listener.createFailed at hstep
  split at hstep
  · next batch addr hreceive =>
    cases hstep
    exact h.proceed hplaced (by rw [hreceive]; rfl) rfl rfl
  · cases hstep

/-- A session that stood under the address is taken down by whoever inserts. -/
theorem Owned.withSession (h : Owned s) {addr : SocketAddr} {generation : UInt64}
    {upstream : Target} {receive : ReceivePhase}
    (hplaced : Placed
      { s with
        entry := s.entry.withSession addr generation upstream
        receive := receive })
    (hbefore : s.receive.teardown = none)
    (hreplaced : receive.teardown =
      (s.entry.table.lookup addr).map (fun replaced => ⟨replaced, .closing⟩))
    (hunspawned : receive.unspawned = some (s.entry.table.fresh addr generation upstream)) :
    Owned
      { s with
        entry := s.entry.withSession addr generation upstream
        receive := receive } := by
  have htears : forall found, TearsDown s found -> TearsDown
      { s with
        entry := s.entry.withSession addr generation upstream
        receive := receive } found := by
    intro found hfound
    rcases hfound with hreceive | hrest
    · rw [hbefore] at hreceive
      cases hreceive
    · exact Or.inr hrest
  apply h.keep hplaced
  · constructor
    · intro id hlt hclosed
      exact mem_closed_withSession.mpr ⟨hclosed, Nat.ne_of_lt hlt⟩
    · exact fun _ hid => hid
    · intro session hholds
      by_cases haddr : session.clientAddr = addr
      · refine Or.inr (Or.inl ⟨.closing, Or.inl ?_, Or.inl rfl⟩)
        unfold Holds at hholds
        rw [haddr] at hholds
        show receive.teardown = _
        rw [hreplaced, hholds]
        rfl
      · apply Or.inl
        unfold Holds at hholds ⊢
        rw [lookup_withSession, if_neg haddr]
        exact hholds
    · rintro session ⟨stage, hteardown, hstage⟩
      exact Or.inl ⟨stage, htears _ hteardown, hstage⟩
  · intro session hteardown
    have hflagged : session.id ∈ s.entry.closed := by
      rcases hteardown with hreceive | hrest
      · have hsome : receive.teardown = some ⟨session, .aborting⟩ := hreceive
        rw [hreplaced] at hsome
        rcases Option.map_eq_some_iff.mp hsome with ⟨found, _, hfound⟩
        cases hfound
      · exact h.flagged session (Or.inr hrest)
    have hknown : Known s.entry session := by
      rcases hteardown with hreceive | hcleanup | hpending
      · have hsome : receive.teardown = some ⟨session, .aborting⟩ := hreceive
        rw [hreplaced] at hsome
        rcases Option.map_eq_some_iff.mp hsome with ⟨found, _, hfound⟩
        cases hfound
      · exact (h.cleanupGone _ hcleanup (by simp)).1
      · exact (h.pendingGone _ hpending).2.1
    exact mem_closed_withSession.mpr ⟨hflagged, Nat.ne_of_lt hknown.numbered⟩
  · exact h.unwaiting
  · intro session hsession
    have hsome : receive.unspawned = some session := hsession
    rw [hunspawned] at hsome
    cases hsome
    refine ⟨?_, Or.inr (holds_fresh s.entry addr generation upstream)⟩
    cases hlookup : s.replies.lookup s.entry.table.nextSession with
    | none => exact hlookup
    | some task =>
        have htracked := h.taskKnown _ task hlookup
        have hnumbered := htracked.2.numbered
        rw [htracked.1] at hnumbered
        exact absurd hnumbered (Nat.lt_irrefl _)
  · intro id session phase htask
    exact Or.inl (continues_same htask)

theorem owned_insertSession (h : Owned s) (hplaced : Placed s')
    (hstep : s.insertSession = some s') : Owned s' := by
  unfold Listener.insertSession at hstep
  split at hstep
  · next batch addr hreceive =>
    have hbefore : s.receive.teardown = none := by rw [hreceive]; rfl
    rcases insertSession_cases s.entry addr batch.generation batch.target with
      ⟨session, _, heq⟩ | ⟨_, _, heq⟩ | ⟨_, _, heq⟩
    · simp only [heq] at hstep
      cases hstep
      exact h.proceed hplaced hbefore rfl rfl
    · simp only [heq] at hstep
      cases hstep
      exact h.proceed hplaced hbefore rfl rfl
    · simp only [heq] at hstep
      cases hlookup : s.entry.table.lookup addr with
      | none =>
          rw [hlookup] at hstep
          cases hstep
          exact h.withSession hplaced hbefore (by rw [hlookup]; rfl) rfl
      | some replaced =>
          rw [hlookup] at hstep
          cases hstep
          exact h.withSession hplaced hbefore (by rw [hlookup]; rfl) rfl
  · cases hstep

/-- One more stage of a teardown of the receive loop. -/
theorem Owned.advanceReceive (h : Owned s) {awaits : Bool} {advanced : Listener}
    {teardown : Teardown} {rest : Option Teardown} {receive : ReceivePhase}
    (hadvance : Proceeds awaits s teardown advanced rest)
    (hbefore : s.receive.teardown = some teardown) (hfinds : findsHandle s teardown = true)
    (hplaced : Placed { advanced with receive := receive })
    (hafter : receive.teardown = rest)
    (hunspawned : forall session, receive.unspawned = some session ->
      s.receive.unspawned = some session) : Owned { advanced with receive := receive } := by
  rcases hadvance.frame with ⟨hreplies, _, hcleanup, hcontrol⟩
  refine h.advance hadvance (Or.inl hbefore) hfinds hplaced rfl hreplies rfl ?_ ?_ ?_ hunspawned
  · intro found hfound
    rcases hfound with hreceive | hrest
    · rw [hbefore] at hreceive
      exact Or.inl (Option.some.inj hreceive).symm
    · apply Or.inr
      unfold TearsDown
      rw [hcleanup, hcontrol]
      exact Or.inr hrest
  · intro more hmore
    rw [hmore] at hafter
    exact Or.inl hafter
  · intro found hfound
    unfold TearsDown at hfound
    rw [hcleanup, hcontrol] at hfound
    rcases hfound with hreceive | hrest
    · exact Or.inr (hafter.symm.trans hreceive)
    · exact Or.inl (Or.inr hrest)

theorem owned_replaceSession (h : Owned s)
    (hfinds : s.receive.teardown.all (findsHandle s) = true) (hplaced : Placed s')
    (hstep : s.replaceSession = some s') : Owned s' := by
  rcases Listener.replaceSession_cases hstep with ⟨batch, session, replaced, hreceive, hrest⟩
  have hbefore : s.receive.teardown = some replaced := by rw [hreceive]; rfl
  have hreplaced := h.toPlaced.teardownKnown hbefore
  rw [hbefore] at hfinds
  rcases hrest with ⟨advanced, teardown, hadvance, rfl⟩ | ⟨advanced, hadvance, rfl⟩
  · refine h.advanceReceive (proceeds_of_advance hreplaced hadvance) hbefore hfinds hplaced
      rfl ?_
    intro found hfound
    rw [hreceive]
    exact hfound
  · refine h.advanceReceive (proceeds_of_advance hreplaced hadvance) hbefore hfinds hplaced
      rfl ?_
    intro found hfound
    rw [hreceive]
    exact hfound

theorem owned_spawnReplyLoop (h : Owned s) (hplaced : Placed s')
    (hstep : s.spawnReplyLoop = some s') : Owned s' := by
  unfold Listener.spawnReplyLoop at hstep
  split at hstep
  · next batch session hreceive =>
    have hbefore : s.receive.teardown = none := by rw [hreceive]; rfl
    have hunspawned := (h.unspawned session (by rw [hreceive]; rfl)).2
    split at hstep
    · cases hstep
      exact h.proceed hplaced hbefore rfl rfl
    · next hopen =>
      cases hstep
      have htears : forall found, TearsDown s found -> TearsDown
          { s.setReply session .looping with receive := .storing batch session } found := by
        intro found hfound
        rcases hfound with hsome | hrest
        · rw [hbefore] at hsome
          cases hsome
        · exact Or.inr hrest
      apply h.keep hplaced
      · refine keeps_of_table rfl (fun _ hid => hid) (fun _ hid => hid) ?_
        rintro found ⟨stage, hteardown, hstage⟩
        exact ⟨stage, htears _ hteardown, hstage⟩
      · intro found hteardown
        rcases hteardown with hsome | hrest
        · cases hsome
        · exact h.flagged found (Or.inr hrest)
      · intro id found hfound
        rw [lookup_setReply] at hfound
        split at hfound
        · cases hfound
        · exact h.unwaiting id found hfound
      · intro found hfound
        cases hfound
      · intro id found phase hfound
        rw [lookup_setReply] at hfound
        split at hfound
        · cases hfound
          rcases hunspawned with hholds | hclosed | ⟨stage, hteardown, hstage⟩
          · exact Or.inr (Or.inl hholds)
          · exact absurd hclosed hopen
          · exact Or.inr (Or.inr ⟨stage, htears _ hteardown, hstage⟩)
        · exact Or.inl (continues_same hfound)
  · cases hstep

theorem owned_storeHandle (h : Owned s) (hplaced : Placed s')
    (hstep : s.storeHandle = some s') : Owned s' := by
  unfold Listener.storeHandle at hstep
  split at hstep
  · next batch session hreceive =>
    cases hstep
    have hstored : Owned { s with handles := session.id :: s.handles } := { h with }
    exact hstored.proceed hplaced (by rw [hreceive]; rfl) rfl rfl
  · cases hstep

theorem owned_loadGeneration (h : Owned s) (hplaced : Placed s')
    (hstep : s.loadGeneration = some s') : Owned s' := by
  unfold Listener.loadGeneration at hstep
  split at hstep
  · next batch hreceive =>
    have hbefore : s.receive.teardown = none := by rw [hreceive]; rfl
    split at hstep
    · cases hstep
      exact h.proceed hplaced hbefore rfl rfl
    · cases hstep
      exact (h.closeEach batch.sessions).proceed hplaced hbefore rfl rfl
  · cases hstep

theorem owned_checkSession (h : Owned s) (hplaced : Placed s')
    (hstep : s.checkSession = some s') : Owned s' := by
  unfold Listener.checkSession at hstep
  split at hstep
  · next generation checked hreceive =>
    cases hstep
    exact h.proceed hplaced (by rw [hreceive]; rfl) rfl rfl
  · next generation session rest checked hreceive =>
    have hbefore : s.receive.teardown = none := by rw [hreceive]; rfl
    split at hstep
    · cases hstep
      exact (h.close session.id).proceed hplaced hbefore rfl rfl
    · cases hstep
      exact h.proceed hplaced hbefore rfl rfl
  · cases hstep

theorem owned_sendDatagram (h : Owned s) {session : UdpSession}
    (hstep : s.sendDatagram session = some s') : Owned s' := by
  unfold Listener.sendDatagram at hstep
  split at hstep
  · split at hstep
    · cases hstep
      exact { h with }
    · cases hstep
  · cases hstep

theorem owned_sendFailed (h : Owned s) {session : UdpSession} (hplaced : Placed s')
    (hstep : s.sendFailed session = some s') : Owned s' := by
  unfold Listener.sendFailed at hstep
  split at hstep
  · next sessions hreceive =>
    split at hstep
    · cases hstep
      refine h.withReceive hplaced (by rw [hreceive]; rfl) ?_ rfl
      intro teardown hsome
      cases hsome
      rfl
    · cases hstep
  · cases hstep

theorem owned_receiveRemove (h : Owned s)
    (hfinds : s.receive.teardown.all (findsHandle s) = true) (hplaced : Placed s')
    (hstep : s.receiveRemove = some s') : Owned s' := by
  rcases Listener.receiveRemove_cases hstep with ⟨sessions, removal, hreceive, hrest⟩
  have hbefore : s.receive.teardown = some removal := by rw [hreceive]; rfl
  have hremoval := h.toPlaced.teardownKnown hbefore
  rw [hbefore] at hfinds
  rcases hrest with ⟨advanced, teardown, hadvance, rfl⟩ | ⟨advanced, hadvance, rfl⟩
  · refine h.advanceReceive (proceeds_of_advance hremoval hadvance) hbefore hfinds hplaced
      rfl ?_
    intro found hfound
    cases hfound
  · refine h.advanceReceive (proceeds_of_advance hremoval hadvance) hbefore hfinds hplaced
      rfl ?_
    intro found hfound
    cases hfound

theorem owned_endPass (h : Owned s) (hplaced : Placed s')
    (hstep : s.endPass = some s') : Owned s' := by
  unfold Listener.endPass at hstep
  split at hstep
  · next sessions hreceive =>
    cases hstep
    exact h.proceed hplaced (by rw [hreceive]; rfl) rfl rfl
  · cases hstep

theorem owned_receiveFailed (h : Owned s) (hplaced : Placed s')
    (hstep : s.receiveFailed = some s') : Owned s' := by
  unfold Listener.receiveFailed at hstep
  split at hstep
  · next hreceive =>
    cases hstep
    exact h.proceed hplaced (by rw [hreceive]; rfl) rfl rfl
  · cases hstep

end Receive

/-!
# Steps of the cleanup loop and of the reply loops
-/

section Loops

variable {s s' : Listener} {id : Nat}

theorem Owned.withCleanup (h : Owned s) {cleanup : CleanupPhase}
    (hplaced : Placed { s with cleanup := cleanup }) (hbefore : s.cleanup.teardown = none)
    (hafter : forall teardown, cleanup.teardown = some teardown ->
      teardown.stage = .locking) : Owned { s with cleanup := cleanup } := by
  have htears : forall teardown, TearsDown s teardown ->
      TearsDown { s with cleanup := cleanup } teardown := by
    intro teardown hteardown
    rcases hteardown with hreceive | hcleanup | hpending
    · exact Or.inl hreceive
    · rw [hbefore] at hcleanup
      cases hcleanup
    · exact Or.inr (Or.inr hpending)
  apply h.keep hplaced
  · refine keeps_of_table rfl (fun _ hid => hid) (fun _ hid => hid) ?_
    rintro session ⟨stage, hteardown, hstage⟩
    exact ⟨stage, htears _ hteardown, hstage⟩
  · intro session hteardown
    rcases hteardown with hreceive | hcleanup | hpending
    · exact h.flagged session (Or.inl hreceive)
    · have hlocking := hafter _ hcleanup
      cases hlocking
    · exact h.flagged session (Or.inr (Or.inr hpending))
  · exact h.unwaiting
  · exact fun session hsession => ⟨(h.unspawned session hsession).1, Or.inl hsession⟩
  · intro id session phase htask
    exact Or.inl (continues_same htask)

theorem owned_collectSessions (h : Owned s) (hplaced : Placed s')
    (hstep : s.collectSessions = some s') : Owned s' := by
  unfold Listener.collectSessions at hstep
  split at hstep
  · next hcleanup =>
    cases hstep
    refine h.withCleanup hplaced (by rw [hcleanup]; rfl) ?_
    intro teardown hsome
    cases hsome
  · cases hstep

theorem owned_expireSession (h : Owned s) {idle : Bool} (hplaced : Placed s')
    (hstep : s.expireSession idle = some s') : Owned s' := by
  unfold Listener.expireSession at hstep
  split at hstep
  · next hcleanup =>
    cases hstep
    refine h.withCleanup hplaced (by rw [hcleanup]; rfl) ?_
    intro teardown hsome
    cases hsome
  · next session rest hcleanup =>
    have hbefore : s.cleanup.teardown = none := by rw [hcleanup]; rfl
    split at hstep
    · cases hstep
      refine h.withCleanup hplaced hbefore ?_
      intro teardown hsome
      cases hsome
      rfl
    · cases hstep
      refine h.withCleanup hplaced hbefore ?_
      intro teardown hsome
      cases hsome
  · cases hstep

/-- One more stage of a teardown of the cleanup loop. -/
theorem Owned.advanceCleanup (h : Owned s) {awaits : Bool} {advanced : Listener}
    {teardown : Teardown} {rest : Option Teardown} {cleanup : CleanupPhase}
    (hadvance : Proceeds awaits s teardown advanced rest)
    (hbefore : s.cleanup.teardown = some teardown) (hfinds : findsHandle s teardown = true)
    (hplaced : Placed { advanced with cleanup := cleanup })
    (hafter : cleanup.teardown = rest) : Owned { advanced with cleanup := cleanup } := by
  rcases hadvance.frame with ⟨hreplies, hreceive, _, hcontrol⟩
  refine h.advance hadvance (Or.inr (Or.inl hbefore)) hfinds hplaced rfl hreplies rfl ?_ ?_ ?_ ?_
  · intro found hfound
    unfold TearsDown
    rw [hreceive, hcontrol]
    rcases hfound with hloop | hcleanup | hpending
    · exact Or.inr (Or.inl hloop)
    · rw [hbefore] at hcleanup
      exact Or.inl (Option.some.inj hcleanup).symm
    · exact Or.inr (Or.inr (Or.inr hpending))
  · intro more hmore
    rw [hmore] at hafter
    exact Or.inr (Or.inl hafter)
  · intro found hfound
    unfold TearsDown at hfound
    rw [hreceive, hcontrol] at hfound
    rcases hfound with hloop | hcleanup | hpending
    · exact Or.inl (Or.inl hloop)
    · exact Or.inr (hafter.symm.trans hcleanup)
    · exact Or.inl (Or.inr (Or.inr hpending))
  · intro session hsession
    rw [← hreceive]
    exact hsession

theorem owned_cleanupRemove (h : Owned s)
    (hfinds : s.cleanup.teardown.all (findsHandle s) = true) (hplaced : Placed s')
    (hstep : s.cleanupRemove = some s') : Owned s' := by
  rcases Listener.cleanupRemove_cases hstep with ⟨sessions, removal, hcleanup, hrest⟩
  have hbefore : s.cleanup.teardown = some removal := by rw [hcleanup]; rfl
  have hremoval := h.toPlaced.cleanupTeardownKnown hbefore
  rw [hbefore] at hfinds
  rcases hrest with ⟨advanced, teardown, hadvance, rfl⟩ | ⟨advanced, hadvance, rfl⟩
  · exact h.advanceCleanup (proceeds_of_advance hremoval hadvance) hbefore hfinds hplaced rfl
  · exact h.advanceCleanup (proceeds_of_advance hremoval hadvance) hbefore hfinds hplaced rfl

/-- A reply loop that is not yet removing its session goes on. -/
theorem Owned.carryOn (h : Owned s) {session : UdpSession} {before phase : ReplyPhase}
    (hplaced : Placed (s.setReply session phase))
    (htask : s.replies.lookup id = some ⟨session, before⟩)
    (hbefore : forall stage, before ≠ .removing stage)
    (hreceiving : id ∈ s.entry.closed -> before ≠ .receiving -> phase ≠ .receiving)
    (hunwaiting : phase ≠ .removing .awaiting) : Owned (s.setReply session phase) := by
  refine h.setReply hplaced htask ?_ hreceiving hunwaiting
  intro stage hstage
  exact absurd hstage (hbefore stage)

theorem owned_checkClosed (h : Owned s) (hplaced : Placed s')
    (hstep : s.checkClosed id = some s') : Owned s' := by
  unfold Listener.checkClosed at hstep
  split at hstep
  · next session htask =>
    split at hstep
    · cases hstep
      exact h.endReply id
    · next hopen =>
      cases hstep
      exact h.carryOn hplaced htask (by simp) (fun hclosed => absurd hclosed hopen) (by simp)
  · cases hstep

theorem owned_receiveReply (h : Owned s) (hplaced : Placed s')
    (hstep : s.receiveReply id = some s') : Owned s' := by
  unfold Listener.receiveReply at hstep
  split at hstep
  · next session htask =>
    cases hstep
    exact h.carryOn hplaced htask (by simp) (by simp) (by simp)
  · cases hstep

theorem owned_receiveReplyFailed (h : Owned s) (hplaced : Placed s')
    (hstep : s.receiveReplyFailed id = some s') : Owned s' := by
  unfold Listener.receiveReplyFailed at hstep
  split at hstep
  · next session htask =>
    cases hstep
    exact h.carryOn hplaced htask (by simp) (by simp) (by simp)
  · cases hstep

theorem owned_checkCurrent (h : Owned s) (hplaced : Placed s')
    (hstep : s.checkCurrent id = some s') : Owned s' := by
  unfold Listener.checkCurrent at hstep
  split at hstep
  · next session htask =>
    split at hstep
    · cases hstep
      exact h.carryOn hplaced htask (by simp) (by simp) (by simp)
    · cases hstep
      exact (h.close id).endReply id
  · cases hstep

theorem owned_sendReply (h : Owned s) (hplaced : Placed s')
    (hstep : s.sendReply id = some s') : Owned s' := by
  unfold Listener.sendReply at hstep
  split at hstep
  · next session htask =>
    cases hstep
    have hplaced' : Placed (s.setReply session .looping) := { hplaced with }
    have hlooping := h.carryOn hplaced' htask (by simp) (by simp) (by simp)
    exact { hlooping with }
  · cases hstep

theorem owned_sendReplyFailed (h : Owned s) (hplaced : Placed s')
    (hstep : s.sendReplyFailed id = some s') : Owned s' := by
  unfold Listener.sendReplyFailed at hstep
  split at hstep
  · next session htask =>
    cases hstep
    exact h.carryOn hplaced htask (by simp) (by simp) (by simp)
  · cases hstep

theorem Owned.abort (h : Owned s) (gone : Nat) : Owned (s.abortReplyTask gone) := by
  have hplaced : Placed (s.abortReplyTask gone) := { h.toPlaced with }
  have hkeeps : Keeps s (s.abortReplyTask gone) :=
    keeps_of_table rfl (fun _ hid => hid) (fun _ hid => List.mem_cons_of_mem _ hid)
      (fun _ hsession => hsession)
  apply h.keep hplaced hkeeps
  · exact h.flagged
  · exact h.unwaiting
  · exact fun session hsession => ⟨(h.unspawned session hsession).1, Or.inl hsession⟩
  · intro other session phase htask
    exact Or.inl (continues_same htask)

/-- A reply loop takes its own session out of the table. -/
theorem Owned.removeOwn (h : Owned s) {session : UdpSession} {stage : Stage}
    (htask : s.replies.lookup id = some ⟨session, .removing stage⟩)
    (hholds : Holds s.entry session) :
    Owned
      { s with
        entry := { s.entry with table := s.entry.table.erase session.clientAddr } } := by
  have hid : session.id = id := (h.taskKnown id _ htask).1
  apply h.keep (h.toPlaced.later (shrinks_erase _ _).later)
  · constructor
    · exact fun _ _ hclosed => hclosed
    · exact fun _ haborted => haborted
    · intro found hfound
      rcases holds_erase hfound hholds with hstill | hsame
      · exact Or.inl hstill
      · rw [← hid, ← hsame] at htask
        exact Or.inr (Or.inr ⟨stage, htask⟩)
    · exact fun _ htearing => Or.inl htearing
  · exact h.flagged
  · exact h.unwaiting
  · exact fun found hfound => ⟨(h.unspawned found hfound).1, Or.inl hfound⟩
  · intro other found phase hfound
    exact Or.inl (continues_same hfound)

theorem owned_replyRemove (h : Owned s) (hplaced : Placed s')
    (hstep : s.replyRemove id = some s') : Owned s' := by
  rcases Listener.replyRemove_cases hstep with ⟨session, stage, htask, hrest⟩
  have hknown := (h.taskKnown id _ htask).2
  rcases hrest with ⟨advanced, teardown, hadvance, rfl⟩ | ⟨advanced, hadvance, rfl⟩
  · have hdone := proceeds_of_advance hknown hadvance
    cases hdone with
    | taken hholds =>
        exact (h.removeOwn htask hholds).setReply hplaced htask
          (fun _ _ => ⟨.closing, rfl⟩) (by simp) (by simp)
    | closed =>
        exact (h.close session.id).setReply hplaced htask (fun _ _ => ⟨.aborting, rfl⟩)
          (by simp) (by simp)
  · have hdone := proceeds_of_advance hknown hadvance
    generalize hrest : (none : Option Teardown) = rest at hdone
    cases hdone with
    | missed => exact h.endReply id
    | aborted => exact (h.abort session.id).endReply id
    | unhandled => exact h.endReply id
    | joined => exact absurd htask (h.unwaiting id session)
    | taken => cases hrest
    | closed => cases hrest

theorem owned_cancel (h : Owned s) (hstep : s.cancel id = some s') : Owned s' := by
  unfold Listener.cancel at hstep
  split at hstep
  · cases hstep
    exact h.endReply id
  · cases hstep

end Loops

/-!
# Updates and deletion
-/

section Control

variable {s s' : Listener}

/-- The control goes on, before and after without sessions to close. -/
theorem Owned.steer (h : Owned s) {control : ControlPhase} (hbefore : s.control.pending = [])
    (hafter : control.pending = []) : Owned { s with control := control } := by
  have htears : forall teardown, TearsDown { s with control := control } teardown <->
      TearsDown s teardown := by
    intro teardown
    unfold TearsDown
    rw [hbefore, hafter]
  apply h.keep (h.toPlaced.steer hafter)
  · refine keeps_of_table rfl (fun _ hid => hid) (fun _ hid => hid) ?_
    rintro session ⟨stage, hteardown, hstage⟩
    exact ⟨stage, (htears _).mpr hteardown, hstage⟩
  · exact fun session hteardown => h.flagged session ((htears _).mp hteardown)
  · exact h.unwaiting
  · exact fun session hsession => ⟨(h.unspawned session hsession).1, Or.inl hsession⟩
  · intro id session phase htask
    exact Or.inl (continues_same htask)

theorem owned_publish (h : Owned s) {allocation : Allocation}
    (hstep : s.publish allocation = some s') : Owned s' := by
  unfold Listener.publish at hstep
  split at hstep
  · next hcontrol =>
    cases hstep
    have hlater : Later s.entry (s.entry.publish allocation) := Later.of_table rfl
    have hpublished : Owned { s with entry := s.entry.publish allocation } := by
      apply h.keep (h.toPlaced.later hlater)
      · exact keeps_of_table rfl (fun _ hid => hid) (fun _ hid => hid)
          (fun _ hsession => hsession)
      · exact h.flagged
      · exact h.unwaiting
      · exact fun session hsession => ⟨(h.unspawned session hsession).1, Or.inl hsession⟩
      · intro id session phase htask
        exact Or.inl (continues_same htask)
    exact hpublished.steer (by rw [hcontrol]; rfl) rfl
  · cases hstep

theorem owned_stop (h : Owned s) (hstep : s.stop = some s') : Owned s' := by
  unfold Listener.stop at hstep
  split at hstep
  · next hcontrol =>
    cases hstep
    exact h.steer (by rw [hcontrol]; rfl) rfl
  · cases hstep

/-- A task may be stopped in the middle of a teardown if the flag is set and the reply
loop does not wait. -/
def leavesNothing (s : Listener) (teardown : Option Teardown) : Bool :=
  teardown.all (fun teardown =>
    match teardown.stage with
    | .closing => false
    | .aborting => !waits s teardown.session
    | _ => true)

theorem settled_of_leavesNothing (h : Owned s) {session : UdpSession} {stage : Stage}
    (hteardown : TearsDown s ⟨session, stage⟩)
    (hstage : stage = .closing ∨ stage = .aborting)
    (hleaves : leavesNothing s (some ⟨session, stage⟩) = true) : Settled s session := by
  rcases hstage with rfl | rfl
  · cases hleaves
  · refine ⟨h.flagged session hteardown, Or.inr (not_receiving ?_)⟩
    simpa [leavesNothing] using hleaves

theorem owned_receiveStopped (h : Owned s)
    (hleaves : leavesNothing s s.receive.teardown = true)
    (hstep : s.receiveStopped = some s') : Owned s' := by
  unfold Listener.receiveStopped at hstep
  split at hstep
  · next hcontrol =>
    cases hstep
    have hended : Owned { s with receive := .ended } := by
      apply h.keep h.toPlaced.receiveEnded
      · constructor
        · exact fun _ _ hid => hid
        · exact fun _ hid => hid
        · exact fun _ hholds => Or.inl hholds
        · rintro session ⟨stage, hteardown, hstage⟩
          rcases hteardown with hreceive | hrest
          · rw [hreceive] at hleaves
            exact Or.inr (settled_of_leavesNothing h (Or.inl hreceive) hstage hleaves)
          · exact Or.inl ⟨stage, Or.inr hrest, hstage⟩
      · intro session hteardown
        rcases hteardown with hreceive | hrest
        · cases hreceive
        · exact h.flagged session (Or.inr hrest)
      · exact h.unwaiting
      · intro session hsession
        cases hsession
      · intro id session phase htask
        exact Or.inl (continues_same htask)
    exact hended.steer (by rw [hcontrol]; rfl) rfl
  · cases hstep

theorem owned_cleanupStopped (h : Owned s)
    (hleaves : leavesNothing s s.cleanup.teardown = true)
    (hstep : s.cleanupStopped = some s') : Owned s' := by
  unfold Listener.cleanupStopped at hstep
  split at hstep
  · next hcontrol =>
    cases hstep
    have hended : Owned { s with cleanup := .ended } := by
      apply h.keep h.toPlaced.cleanupEnded
      · constructor
        · exact fun _ _ hid => hid
        · exact fun _ hid => hid
        · exact fun _ hholds => Or.inl hholds
        · rintro session ⟨stage, hteardown, hstage⟩
          rcases hteardown with hreceive | hcleanup | hpending
          · exact Or.inl ⟨stage, Or.inl hreceive, hstage⟩
          · rw [hcleanup] at hleaves
            exact Or.inr
              (settled_of_leavesNothing h (Or.inr (Or.inl hcleanup)) hstage hleaves)
          · exact Or.inl ⟨stage, Or.inr (Or.inr hpending), hstage⟩
      · intro session hteardown
        rcases hteardown with hreceive | hcleanup | hpending
        · exact h.flagged session (Or.inl hreceive)
        · cases hcleanup
        · exact h.flagged session (Or.inr (Or.inr hpending))
      · exact h.unwaiting
      · exact fun session hsession => ⟨(h.unspawned session hsession).1, Or.inl hsession⟩
      · intro id session phase htask
        exact Or.inl (continues_same htask)
    exact hended.steer (by rw [hcontrol]; rfl) rfl
  · cases hstep

/-- The drained sessions are those that are being taken down now. -/
theorem Owned.drainInto (h : Owned s) (deleting : Bool) (hbefore : s.control.pending = []) :
    Owned (s.drainInto deleting) := by
  apply h.keep (h.toPlaced.drainInto deleting)
  · constructor
    · exact fun _ _ hid => hid
    · exact fun _ hid => hid
    · intro session hholds
      refine Or.inr (Or.inl ⟨.closing, Or.inr (Or.inr ?_), Or.inl rfl⟩)
      exact List.mem_map.mpr ⟨session, mem_values.mpr ⟨_, hholds⟩, rfl⟩
    · rintro session ⟨stage, hteardown, hstage⟩
      rcases hteardown with hreceive | hcleanup | hpending
      · exact Or.inl ⟨stage, Or.inl hreceive, hstage⟩
      · exact Or.inl ⟨stage, Or.inr (Or.inl hcleanup), hstage⟩
      · rw [hbefore] at hpending
        cases hpending
  · intro session hteardown
    rcases hteardown with hreceive | hcleanup | hpending
    · exact h.flagged session (Or.inl hreceive)
    · exact h.flagged session (Or.inr (Or.inl hcleanup))
    · rcases List.mem_map.mp hpending with ⟨found, _, hfound⟩
      cases hfound
  · exact h.unwaiting
  · exact fun session hsession => ⟨(h.unspawned session hsession).1, Or.inl hsession⟩
  · intro id session phase htask
    exact Or.inl (continues_same htask)

theorem owned_drain (h : Owned s) (hstep : s.drain = some s') : Owned s' := by
  unfold Listener.drain at hstep
  split at hstep
  · next hcontrol =>
    cases hstep
    exact h.drainInto false (by rw [hcontrol]; rfl)
  · next hcontrol =>
    cases hstep
    exact h.drainInto true (by rw [hcontrol]; rfl)
  · cases hstep

/-- One more stage of closing what was drained. -/
theorem Owned.advancePending (h : Owned s) {awaits : Bool} {advanced : Listener}
    {teardown : Teardown} {rest : Option Teardown} {control : ControlPhase}
    {pending : List Teardown} (hadvance : Proceeds awaits s teardown advanced rest)
    (hbefore : s.control.pending = teardown :: pending)
    (hfinds : findsHandle s teardown = true)
    (hplaced : Placed { advanced with control := control })
    (hafter : control.pending = rest.toList ++ pending) :
    Owned { advanced with control := control } := by
  rcases hadvance.frame with ⟨hreplies, hreceive, hcleanup, _⟩
  have hheld : TearsDown s teardown := by
    refine Or.inr (Or.inr ?_)
    rw [hbefore]
    exact List.mem_cons_self
  refine h.advance hadvance hheld hfinds hplaced rfl hreplies rfl ?_ ?_ ?_ ?_
  · intro found hfound
    unfold TearsDown
    rw [hreceive, hcleanup, hafter]
    rcases hfound with hloop | hloop | hpending
    · exact Or.inr (Or.inl hloop)
    · exact Or.inr (Or.inr (Or.inl hloop))
    · rw [hbefore] at hpending
      rcases List.mem_cons.mp hpending with hsame | hold
      · exact Or.inl hsame
      · exact Or.inr (Or.inr (Or.inr (List.mem_append_right _ hold)))
  · intro more hmore
    refine Or.inr (Or.inr ?_)
    show more ∈ control.pending
    rw [hafter, hmore]
    exact List.mem_cons_self
  · intro found hfound
    unfold TearsDown at hfound
    rw [hreceive, hcleanup, hafter] at hfound
    rcases hfound with hloop | hloop | hpending
    · exact Or.inl (Or.inl hloop)
    · exact Or.inl (Or.inr (Or.inl hloop))
    · rcases List.mem_append.mp hpending with hmore | hold
      · exact Or.inr (Option.mem_toList.mp hmore)
      · refine Or.inl (Or.inr (Or.inr ?_))
        rw [hbefore]
        exact List.mem_cons_of_mem _ hold
  · intro session hsession
    rw [← hreceive]
    exact hsession

theorem owned_closeSession (h : Owned s)
    (hfinds : s.control.pending.head?.all (findsHandle s) = true) (hplaced : Placed s')
    (hstep : s.closeSession = some s') : Owned s' := by
  rcases Listener.closeSession_cases hstep with ⟨deleting, teardown, rest, hcontrol, hrest⟩
  have hbefore : s.control.pending = teardown :: rest := by rw [hcontrol]; rfl
  have hknown : Known s.entry teardown.session := by
    apply (h.pendingGone teardown _).2.1
    rw [hbefore]
    exact List.mem_cons_self
  rw [hbefore] at hfinds
  rcases hrest with ⟨advanced, more, hadvance, rfl⟩ | ⟨advanced, hadvance, rfl⟩
  · exact h.advancePending (proceeds_of_advance hknown hadvance) hbefore hfinds hplaced rfl
  · exact h.advancePending (proceeds_of_advance hknown hadvance) hbefore hfinds hplaced rfl

theorem owned_finish (h : Owned s) (hstep : s.finish = some s') : Owned s' := by
  unfold Listener.finish at hstep
  split at hstep
  · next hcontrol =>
    cases hstep
    have hidle : Owned { s with control := .idle } := h.steer (by rw [hcontrol]; rfl) rfl
    exact { hidle with }
  · next hcontrol =>
    cases hstep
    exact h.steer (by rw [hcontrol]; rfl) rfl
  · cases hstep

end Control

/-!
# Whole runs
-/

/-- Whoever takes a session down finds the handle of its reply loop, or a loop that does
not wait for its upstream; and no task is stopped before it has seen to the loop. -/
def keepsTrack (s : Listener) : Step -> Bool
  | .replaceSession => s.receive.teardown.all (findsHandle s)
  | .receiveRemove => s.receive.teardown.all (findsHandle s)
  | .cleanupRemove => s.cleanup.teardown.all (findsHandle s)
  | .closeSession => s.control.pending.head?.all (findsHandle s)
  | .receiveStopped => leavesNothing s s.receive.teardown
  | .cleanupStopped => leavesNothing s s.cleanup.teardown
  | _ => true

theorem owned_next {s s' : Listener} {step : Step} (h : Owned s)
    (hkeeps : keepsTrack s step = true) (hstep : next s step = some s') : Owned s' := by
  have hplaced := placed_next h.toPlaced hstep
  cases step with
  | readState => exact owned_readState h hplaced hstep
  | lookupSession addr => exact owned_lookupSession h hplaced hstep
  | createFailed => exact owned_createFailed h hplaced hstep
  | insertSession => exact owned_insertSession h hplaced hstep
  | replaceSession => exact owned_replaceSession h hkeeps hplaced hstep
  | spawnReplyLoop => exact owned_spawnReplyLoop h hplaced hstep
  | storeHandle => exact owned_storeHandle h hplaced hstep
  | loadGeneration => exact owned_loadGeneration h hplaced hstep
  | checkSession => exact owned_checkSession h hplaced hstep
  | sendDatagram session => exact owned_sendDatagram h hstep
  | sendFailed session => exact owned_sendFailed h hplaced hstep
  | receiveRemove => exact owned_receiveRemove h hkeeps hplaced hstep
  | endPass => exact owned_endPass h hplaced hstep
  | receiveFailed => exact owned_receiveFailed h hplaced hstep
  | collectSessions => exact owned_collectSessions h hplaced hstep
  | expireSession idle => exact owned_expireSession h hplaced hstep
  | cleanupRemove => exact owned_cleanupRemove h hkeeps hplaced hstep
  | checkClosed id => exact owned_checkClosed h hplaced hstep
  | receiveReply id => exact owned_receiveReply h hplaced hstep
  | receiveReplyFailed id => exact owned_receiveReplyFailed h hplaced hstep
  | checkCurrent id => exact owned_checkCurrent h hplaced hstep
  | sendReply id => exact owned_sendReply h hplaced hstep
  | sendReplyFailed id => exact owned_sendReplyFailed h hplaced hstep
  | replyRemove id => exact owned_replyRemove h hplaced hstep
  | cancel id => exact owned_cancel h hstep
  | publish allocation => exact owned_publish h hstep
  | stop => exact owned_stop h hstep
  | receiveStopped => exact owned_receiveStopped h hkeeps hstep
  | cleanupStopped => exact owned_cleanupStopped h hkeeps hstep
  | drain => exact owned_drain h hstep
  | closeSession => exact owned_closeSession h hkeeps hplaced hstep
  | finish => exact owned_finish h hstep

theorem owned_bound (allocation : Allocation) (maxSessions : Nat) :
    Owned (Listener.bound allocation maxSessions) where
  toPlaced := placed_bound allocation maxSessions
  flagged := by
    intro session hteardown
    rcases hteardown with hsome | hsome | hmem
    · cases hsome
    · cases hsome
    · cases hmem
  unwaiting := by intro id session h; cases h
  unspawned := by intro session h; cases h
  owned := by intro id session phase h; cases h

/-!
# Reply loops that end alone
-/

/-- What a reply loop can do without hearing from its upstream. -/
def aloneSteps (id : Nat) : List Step :=
  [.checkClosed id, .checkCurrent id, .sendReply id, .sendReplyFailed id, .replyRemove id,
    .cancel id]

def EndsAlone (s : Listener) (id : Nat) : Prop :=
  exists steps s', (forall step, step ∈ steps -> step ∈ aloneSteps id) ∧
    run next steps s = some s' ∧ s'.replies.lookup id = none

/-- Reply loops have ended, and nothing else has happened to the sessions in place. -/
structure Rests (s s' : Listener) : Prop where
  table : s'.entry.table = s.entry.table
  receive : s'.receive = s.receive
  cleanup : s'.cleanup = s.cleanup
  control : s'.control = s.control
  replies : forall id task, s'.replies.lookup id = some task ->
    s.replies.lookup id = some task

theorem rests_refl (s : Listener) : Rests s s := ⟨rfl, rfl, rfl, rfl, fun _ _ h => h⟩

theorem Rests.trans {s s' s'' : Listener} (h : Rests s s') (h' : Rests s' s'') :
    Rests s s'' where
  table := h'.table.trans h.table
  receive := h'.receive.trans h.receive
  cleanup := h'.cleanup.trans h.cleanup
  control := h'.control.trans h.control
  replies := fun id task htask => h.replies id task (h'.replies id task htask)

section Alone

variable {s : Listener} {id : Nat} {session : UdpSession}

theorem lookup_endReply_self (s : Listener) (id : Nat) :
    (s.endReply id).replies.lookup id = none := by
  unfold Listener.endReply
  rw [lookup_erase_eq, if_pos rfl]

theorem lookup_setReply_self {phase : ReplyPhase} (hid : session.id = id) :
    (s.setReply session phase).replies.lookup id = some ⟨session, phase⟩ := by
  rw [lookup_setReply, hid, if_pos rfl]

theorem rests_endReply (s : Listener) (id : Nat) : Rests s (s.endReply id) :=
  ⟨rfl, rfl, rfl, rfl, fun _ _ => lookup_endReply⟩

/-- One reply loop has run to its end. -/
def RunsOut (s : Listener) (id : Nat) : Prop :=
  exists steps s', (forall step, step ∈ steps -> step ∈ aloneSteps id) ∧
    run next steps s = some s' ∧ s'.replies.lookup id = none ∧ Rests s s'

theorem runsOut_of_step {step : Step} {s' : Listener} (hstep : step ∈ aloneSteps id)
    (hnext : next s step = some s') (hended : s'.replies.lookup id = none)
    (hrests : Rests s s') : RunsOut s id := by
  refine ⟨[step], s', ?_, ?_, hended, hrests⟩
  · intro found hfound
    rw [List.mem_singleton.mp hfound]
    exact hstep
  · exact run_cons.mpr ⟨s', hnext, rfl⟩

/-- The reply loop takes a step and runs out from there. -/
theorem RunsOut.after {step : Step} {phase : ReplyPhase} {s' : Listener}
    (hstep : step ∈ aloneSteps id) (hid : session.id = id)
    (hnext : next s step = some (s'.setReply session phase))
    (hrests : Rests s s')
    (hout : RunsOut (s'.setReply session phase) id) : RunsOut s id := by
  rcases hout with ⟨steps, last, hsteps, hrun, hended, hlast⟩
  refine ⟨step :: steps, last, ?_, run_cons.mpr ⟨_, hnext, hrun⟩, hended, ?_⟩
  · intro found hfound
    rcases List.mem_cons.mp hfound with hsame | hrest
    · rw [hsame]
      exact hstep
    · exact hsteps found hrest
  · refine ⟨hlast.table.trans hrests.table, hlast.receive.trans hrests.receive,
      hlast.cleanup.trans hrests.cleanup, hlast.control.trans hrests.control, ?_⟩
    intro other task htask
    by_cases hother : other = id
    · rw [hother, hended] at htask
      cases htask
    · have hbefore := hlast.replies other task htask
      rw [lookup_setReply, hid, if_neg hother] at hbefore
      exact hrests.replies other task hbefore

theorem runsOut_aborted (h : id ∈ s.aborted) : RunsOut s id := by
  have hnext : next s (.cancel id) = some (s.endReply id) := if_pos h
  exact runsOut_of_step (by simp [aloneSteps]) hnext (lookup_endReply_self s id)
    (rests_endReply s id)

theorem runsOut_looping (htask : s.replies.lookup id = some ⟨session, .looping⟩)
    (hclosed : id ∈ s.entry.closed) : RunsOut s id := by
  have hnext : next s (.checkClosed id) = some (s.endReply id) := by
    simp [next, Listener.checkClosed, htask, hclosed]
  exact runsOut_of_step (by simp [aloneSteps]) hnext (lookup_endReply_self s id)
    (rests_endReply s id)

theorem runsOut_received (hknown : Known s.entry session) (hgone : ¬ Holds s.entry session)
    (htask : s.replies.lookup id = some ⟨session, .received⟩) : RunsOut s id := by
  have hcurrent : s.isCurrent session = false := by
    unfold Listener.isCurrent
    cases hlookup : s.entry.table.lookup session.clientAddr with
    | none => rfl
    | some found =>
        have hdiffers : found.id ≠ session.id := Gone.ne_id ⟨hknown, hgone⟩ hlookup
        simp [hdiffers]
  have hnext : next s (.checkCurrent id) =
      some ({ s with entry := s.entry.close id }.endReply id) := by
    simp [next, Listener.checkCurrent, htask, hcurrent]
  refine runsOut_of_step (by simp [aloneSteps]) hnext (lookup_endReply_self _ id) ?_
  exact ⟨rfl, rfl, rfl, rfl, fun _ _ => lookup_endReply⟩

theorem runsOut_sending (hid : session.id = id)
    (htask : s.replies.lookup id = some ⟨session, .sending⟩)
    (hclosed : id ∈ s.entry.closed) : RunsOut s id := by
  have hnext : next s (.sendReply id) = some
      ({ s with
        replied := ⟨session, s.returned, decide (s.control = ControlPhase.stopped)⟩ :: s.replied
        }.setReply session .looping) := by
    simp [next, Listener.sendReply, htask, Listener.setReply]
  refine RunsOut.after (by simp [aloneSteps]) hid hnext ⟨rfl, rfl, rfl, rfl, fun _ _ h => h⟩ ?_
  exact runsOut_looping (lookup_setReply_self hid) hclosed

theorem runsOut_aborting (htask : s.replies.lookup id = some ⟨session, .removing .aborting⟩) :
    RunsOut s id := by
  by_cases hhandle : session.id ∈ s.handles
  · have hnext : next s (.replyRemove id) =
        some ((s.abortReplyTask session.id).endReply id) := by
      simp [next, Listener.replyRemove, htask, Listener.advance, hhandle]
    refine runsOut_of_step (by simp [aloneSteps]) hnext (lookup_endReply_self _ id) ?_
    exact ⟨rfl, rfl, rfl, rfl, fun _ _ => lookup_endReply⟩
  · have hnext : next s (.replyRemove id) = some (s.endReply id) := by
      simp [next, Listener.replyRemove, htask, Listener.advance, hhandle]
    exact runsOut_of_step (by simp [aloneSteps]) hnext (lookup_endReply_self _ id)
      (rests_endReply s id)

theorem runsOut_closing (hid : session.id = id)
    (htask : s.replies.lookup id = some ⟨session, .removing .closing⟩) : RunsOut s id := by
  have hnext : next s (.replyRemove id) = some
      ({ s with entry := s.entry.close session.id }.setReply session
        (.removing .aborting)) := by
    simp [next, Listener.replyRemove, htask, Listener.advance]
  refine RunsOut.after (by simp [aloneSteps]) hid hnext ⟨rfl, rfl, rfl, rfl, fun _ _ h => h⟩ ?_
  exact runsOut_aborting (lookup_setReply_self hid)

theorem runsOut_locking (hknown : Known s.entry session) (hgone : ¬ Holds s.entry session)
    (htask : s.replies.lookup id = some ⟨session, .removing .locking⟩) : RunsOut s id := by
  have hnone : (s.entry.removeSession session).1 = none := by
    cases hremoved : (s.entry.removeSession session).1 with
    | none => rfl
    | some found =>
        rcases removeSession_eq_some hremoved with ⟨hlookup, hid, _⟩
        exact absurd hid (Gone.ne_id ⟨hknown, hgone⟩ hlookup)
  have hnext : next s (.replyRemove id) = some (s.endReply id) := by
    simp [next, Listener.replyRemove, htask, Listener.advance, hnone]
  exact runsOut_of_step (by simp [aloneSteps]) hnext (lookup_endReply_self _ id)
    (rests_endReply s id)

theorem Owned.runsOut_removing (h : Owned s) {stage : Stage}
    (htask : s.replies.lookup id = some ⟨session, .removing stage⟩)
    (hgone : ¬ Holds s.entry session) : RunsOut s id := by
  have htracked := h.taskKnown id _ htask
  cases stage with
  | locking => exact runsOut_locking htracked.2 hgone htask
  | closing => exact runsOut_closing htracked.1 htask
  | aborting => exact runsOut_aborting htask
  | awaiting => exact absurd htask (h.unwaiting id session)

/-- The reply loop of a session that nobody is taking down any more ends alone. -/
theorem Owned.runsOut (h : Owned s) {phase : ReplyPhase}
    (htask : s.replies.lookup id = some ⟨session, phase⟩) (hgone : ¬ Holds s.entry session)
    (hidle : ¬ Tearing s session) : RunsOut s id := by
  have hid : session.id = id := (h.taskKnown id _ htask).1
  have hknown : Known s.entry session := (h.taskKnown id _ htask).2
  rcases h.owned id session phase htask with hdoomed | hholds | htearing
  · rcases hdoomed with haborted | ⟨stage, rfl⟩ | ⟨hclosed, hphase⟩
    · exact runsOut_aborted haborted
    · exact h.runsOut_removing htask hgone
    · cases phase with
      | looping => exact runsOut_looping htask hclosed
      | receiving => exact absurd rfl hphase
      | received => exact runsOut_received hknown hgone htask
      | sending => exact runsOut_sending hid htask hclosed
      | removing stage => exact h.runsOut_removing htask hgone
  · exact absurd hholds hgone
  · exact absurd htearing hidle

end Alone

/-!
# All of them
-/

theorem keepsTrack_alone {s : Listener} {id : Nat} {step : Step} (h : step ∈ aloneSteps id) :
    keepsTrack s step = true := by
  simp only [aloneSteps, List.mem_cons, List.not_mem_nil, or_false] at h
  rcases h with rfl | rfl | rfl | rfl | rfl | rfl <;> rfl

theorem Owned.alone {s s' : Listener} (h : Owned s) {steps : List Step}
    (hsteps : forall step, step ∈ steps -> exists id, step ∈ aloneSteps id)
    (hrun : run next steps s = some s') : Owned s' := by
  induction steps generalizing s with
  | nil =>
      cases hrun
      exact h
  | cons step rest ih =>
      rcases run_cons.mp hrun with ⟨between, hnext, hrest⟩
      rcases hsteps step List.mem_cons_self with ⟨id, hstep⟩
      refine ih (owned_next h (keepsTrack_alone hstep) hnext) ?_ hrest
      exact fun found hfound => hsteps found (List.mem_cons_of_mem _ hfound)

/-- No session is being taken down. -/
def AtRest (s : Listener) : Prop :=
  s.receive.teardown = none ∧ s.cleanup.teardown = none ∧ s.control.pending = []

theorem AtRest.not_tearing {s : Listener} (h : AtRest s) (session : UdpSession) :
    ¬ Tearing s session := by
  intro h
  rcases h with ⟨stage, hreceive | hcleanup | hpending, _⟩
  · rw [h.1] at hreceive
    cases hreceive
  · rw [h.2.1] at hcleanup
    cases hcleanup
  · rw [h.2.2] at hpending
    cases hpending

theorem AtRest.rests {s s' : Listener} (h : AtRest s) (hrests : Rests s s') : AtRest s' := by
  unfold AtRest
  rw [hrests.receive, hrests.cleanup, hrests.control]
  exact h

/-- The reply loops of the listed sessions run out, but for those in the table. -/
theorem Owned.settle {s : Listener} (h : Owned s) (hrest : AtRest s) (ids : List Nat) :
    exists steps s', (forall step, step ∈ steps -> exists id, step ∈ aloneSteps id) ∧
      run next steps s = some s' ∧ Rests s s' ∧
      forall id, id ∈ ids -> forall task, s'.replies.lookup id = some task ->
        Holds s'.entry task.session := by
  induction ids with
  | nil =>
      refine ⟨[], s, ?_, rfl, rests_refl s, ?_⟩
      · intro step hstep
        cases hstep
      · intro id hid
        cases hid
  | cons id rest ih =>
      rcases ih with ⟨steps, between, hsteps, hrun, hbetween, hdone⟩
      by_cases hleft : exists task, between.replies.lookup id = some task ∧
          ¬ Holds between.entry task.session
      · rcases hleft with ⟨⟨session, phase⟩, htask, hgone⟩
        have hidle := (hrest.rests hbetween).not_tearing session
        rcases (h.alone hsteps hrun).runsOut htask hgone hidle with
          ⟨more, s', hmore, hrun', hended, hlast⟩
        refine ⟨steps ++ more, s', ?_, run_append hrun hrun', hbetween.trans hlast, ?_⟩
        · intro step hstep
          rcases List.mem_append.mp hstep with hbefore | hafter
          · exact hsteps step hbefore
          · exact ⟨id, hmore step hafter⟩
        · intro other hother task hlookup
          unfold Holds
          rw [hlast.table]
          rcases List.mem_cons.mp hother with hsame | hold
          · rw [hsame, hended] at hlookup
            cases hlookup
          · exact hdone other hold task (hlast.replies other task hlookup)
      · refine ⟨steps, between, hsteps, hrun, hbetween, ?_⟩
        intro other hother task hlookup
        rcases List.mem_cons.mp hother with hsame | hold
        · by_contra hgone
          rw [hsame] at hlookup
          exact hleft ⟨task, hlookup, hgone⟩
        · exact hdone other hold task hlookup

/-!
# The gauge of active sessions

A session object is counted when it is made and uncounted when the last task lets go of
it; one that never enters the table comes and goes within `session_for`.
-/

/-- The sessions that the table or some task still refers to. -/
def live (s : Listener) : Finset Nat :=
  ((values s.entry.table.sessions ++ s.receive.sessions ++ s.cleanup.sessions ++
    s.control.pending.map Teardown.session).map UdpSession.id ++ s.replies.keys).toFinset

structure Metered where
  listener : Listener
  active : Int

namespace Metered

def bound (allocation : Allocation) (maxSessions : Nat) : Metered where
  listener := Listener.bound allocation maxSessions
  active := 0

def next (m : Metered) (step : Step) : Option Metered :=
  (Udp.next m.listener step).map (fun s =>
    { listener := s
      active := m.active + (live s \ live m.listener).card -
        (live m.listener \ live s).card })

/-- The gauge counts the sessions that are referred to. -/
def Counts (m : Metered) : Prop := m.active = (live m.listener).card

theorem next_eq_some {m m' : Metered} {step : Step} (h : m.next step = some m') :
    Udp.next m.listener step = some m'.listener := by
  rcases Option.map_eq_some_iff.mp h with ⟨s, hs, rfl⟩
  exact hs

theorem counts_next {m m' : Metered} {step : Step} (h : Counts m)
    (hstep : m.next step = some m') : Counts m' := by
  rcases Option.map_eq_some_iff.mp hstep with ⟨s, _, rfl⟩
  unfold Counts at h ⊢
  have hbefore := Finset.card_sdiff_add_card_inter (live m.listener) (live s)
  have hafter := Finset.card_sdiff_add_card_inter (live s) (live m.listener)
  rw [Finset.inter_comm] at hafter
  simp only [h]
  lia

theorem counts_bound (allocation : Allocation) (maxSessions : Nat) :
    Counts (bound allocation maxSessions) := rfl

theorem run_metered {s : Listener} {steps : List Step} {m : Metered}
    (hrun : run Udp.next steps m.listener = some s) (hcounts : Counts m) :
    exists m', run next steps m = some m' ∧ m'.listener = s ∧ Counts m' := by
  induction steps generalizing m with
  | nil =>
      cases hrun
      exact ⟨m, rfl, rfl, hcounts⟩
  | cons step rest ih =>
      rcases run_cons.mp hrun with ⟨between, hnext, hrest⟩
      have hmetered : m.next step = some
          { listener := between
            active := m.active + (live between \ live m.listener).card -
              (live m.listener \ live between).card } :=
        Option.map_eq_some_iff.mpr ⟨between, hnext, rfl⟩
      rcases ih hrest (counts_next hcounts hmetered) with ⟨m', hrun', hlistener, hlast⟩
      exact ⟨m', run_cons.mpr ⟨_, hmetered, hrun'⟩, hlistener, hlast⟩

end Metered

/-- Only the table and the reply loops refer to sessions. -/
def Quiet (s : Listener) : Prop :=
  s.receive.sessions = [] ∧ s.cleanup.sessions = [] ∧ s.control.pending = []

theorem Quiet.atRest {s : Listener} (h : Quiet s) : AtRest s := by
  refine ⟨?_, ?_, h.2.2⟩
  · have hsessions := h.1
    cases hreceive : s.receive with
    | replacing batch session replaced =>
        rw [hreceive] at hsessions
        cases hsessions
    | removing sessions removal =>
        rw [hreceive] at hsessions
        cases hsessions
    | _ => rfl
  · have hsessions := h.2.1
    cases hcleanup : s.cleanup with
    | removing sessions removal =>
        rw [hcleanup] at hsessions
        cases hsessions
    | _ => rfl

theorem card_ids (table : SessionTable) :
    ((values table.sessions).map UdpSession.id).toFinset.card = table.size := by
  have hnodup : ((values table.sessions).map UdpSession.id).Nodup := by
    refine List.Nodup.map_on ?_ table.keyed.nodup_values
    intro session hsession other hother hid
    rcases mem_values.mp hsession with ⟨addr, hlookup⟩
    rcases mem_values.mp hother with ⟨addr', hlookup'⟩
    exact table.distinct addr addr' session other hlookup hlookup' hid
  rw [List.toFinset_card_of_nodup hnodup, List.length_map]
  simp [values, SessionTable.size]

/-- With every reply loop that is left belonging to a session in the table, the sessions
referred to are those in the table. -/
theorem card_live {s : Listener} (hplaced : Placed s) (hquiet : Quiet s)
    (htasks : forall id task, s.replies.lookup id = some task -> Holds s.entry task.session) :
    (live s).card = s.entry.table.size := by
  rw [← card_ids]
  apply congrArg Finset.card
  unfold live
  rw [hquiet.1, hquiet.2.1, hquiet.2.2]
  ext id
  simp only [List.append_nil, List.map_nil, List.toFinset_append, Finset.mem_union,
    List.mem_toFinset, or_iff_left_iff_imp]
  intro hid
  rcases AList.lookup_isSome.mpr (AList.mem_keys.mpr hid) |> Option.isSome_iff_exists.mp with
    ⟨task, htask⟩
  refine List.mem_map.mpr ⟨task.session, ?_, (hplaced.taskKnown id task htask).1⟩
  exact mem_values.mpr ⟨_, htasks id task htask⟩

/-- The reply loop of every session that is not in the table has been aborted or ends
without another datagram from its upstream. -/
def NoneLeft (s : Listener) : Prop :=
  forall id session phase, s.replies.lookup id = some ⟨session, phase⟩ ->
    ¬ Holds s.entry session -> id ∈ s.aborted ∨ EndsAlone s id

/-- The reply loops that end alone bring the gauge down to the size of the table. -/
def GaugeSettles (m : Metered) : Prop :=
  exists steps m', (forall step, step ∈ steps -> exists id, step ∈ aloneSteps id) ∧
    run Metered.next steps m = some m' ∧
    m'.listener.entry.table = m.listener.entry.table ∧
    m'.active = m'.listener.entry.table.size

def Metered.tracked : Metered -> Step -> Option Metered :=
  guarded (fun m step => keepsTrack m.listener step) Metered.next

/-- In the runs that keep track of the reply loops, none is left behind, and the gauge is
never negative and settles at the number of sessions in the table. -/
theorem no_session_leaks (allocation : Allocation) (maxSessions : Nat) {m : Metered}
    (h : Reachable Metered.tracked (Metered.bound allocation maxSessions) m) :
    0 <= m.active ∧ (AtRest m.listener -> NoneLeft m.listener) ∧
      (Quiet m.listener -> GaugeSettles m) := by
  have hinv : Owned m.listener ∧ m.Counts := by
    apply Reachable.invariant h
      ⟨owned_bound allocation maxSessions, Metered.counts_bound allocation maxSessions⟩
    intro m step m' hinv hstep
    rcases guarded_eq_some hstep with ⟨hkeeps, hnext⟩
    exact ⟨owned_next hinv.1 hkeeps (Metered.next_eq_some hnext),
      Metered.counts_next hinv.2 hnext⟩
  rcases hinv with ⟨howned, hcounts⟩
  refine ⟨?_, ?_, ?_⟩
  · rw [hcounts]
    exact Int.natCast_nonneg _
  · intro hrest id session phase htask hgone
    rcases howned.runsOut htask hgone (hrest.not_tearing session) with
      ⟨steps, s', hsteps, hrun, hended, _⟩
    exact Or.inr ⟨steps, s', hsteps, hrun, hended⟩
  · intro hquiet
    rcases howned.settle hquiet.atRest m.listener.replies.keys with
      ⟨steps, s', hsteps, hrun, hrests, hdone⟩
    rcases Metered.run_metered hrun hcounts with ⟨m', hrun', rfl, hcounts'⟩
    refine ⟨steps, m', hsteps, hrun', hrests.table, ?_⟩
    rw [hcounts']
    have hquiet' : Quiet m'.listener := by
      unfold Quiet
      rw [hrests.receive, hrests.cleanup, hrests.control]
      exact hquiet
    rw [card_live (howned.alone hsteps hrun).toPlaced hquiet']
    intro id task htask
    apply hdone id _ task htask
    have hbefore := hrests.replies id task htask
    exact AList.mem_keys.mp (AList.lookup_isSome.mp (by rw [hbefore]; rfl))

/-- A session is inserted and its handle stored.  It expires while its reply loop waits,
and the abort has not taken effect yet. -/
def expiredInTime : List Step :=
  [.readState, .lookupSession firstClient, .insertSession, .spawnReplyLoop, .checkClosed 0,
    .storeHandle, .loadGeneration, .checkSession, .checkSession, .endPass, .collectSessions,
    .expireSession true, .cleanupRemove, .cleanupRemove, .cleanupRemove,
    .expireSession false]

theorem no_session_leaks_when_stored :
    exists m, run Metered.tracked expiredInTime
        (Metered.bound (forwardedAllocation (some "10.0.0.1")) 4) = some m ∧
      m.listener.replies.lookup 0 = some ⟨firstSession, .receiving⟩ ∧
      m.listener.entry.table.size = 0 ∧ m.active = 1 ∧ NoneLeft m.listener ∧
      GaugeSettles m := by
  refine ⟨_, rfl, rfl, rfl, by decide, ?_⟩
  have hleaks := no_session_leaks (forwardedAllocation (some "10.0.0.1")) 4
    (Reachable.of_run expiredInTime rfl)
  exact ⟨hleaks.2.1 ⟨rfl, rfl, rfl⟩, hleaks.2.2 ⟨rfl, rfl, rfl⟩⟩

/-- The reply loop is spawned and waits for its upstream; an update takes the session out
of the table and finds no handle; only then is the handle stored. -/
def closedTooEarly : List Step :=
  [.readState, .lookupSession firstClient, .insertSession, .spawnReplyLoop, .checkClosed 0,
    .publish (forwardedAllocation none), .drain, .closeSession, .closeSession, .finish,
    .storeHandle, .loadGeneration]

theorem not_endsAlone {s : Listener} {id : Nat} (session : UdpSession)
    (htask : s.replies.lookup id = some ⟨session, .receiving⟩) (haborted : id ∉ s.aborted) :
    ¬ EndsAlone s id := by
  intro h
  rcases h with ⟨steps, s', hsteps, hrun, hended⟩
  cases steps with
  | nil =>
      cases hrun
      rw [htask] at hended
      cases hended
  | cons step rest =>
      rcases run_cons.mp hrun with ⟨between, hnext, _⟩
      have hstep := hsteps step List.mem_cons_self
      simp only [aloneSteps, List.mem_cons, List.not_mem_nil, or_false] at hstep
      rcases hstep with rfl | rfl | rfl | rfl | rfl | rfl <;>
        simp [next, Listener.checkClosed, Listener.checkCurrent, Listener.sendReply,
          Listener.sendReplyFailed, Listener.replyRemove, Listener.cancel, htask,
          haborted] at hnext

theorem early_close_leaks_session :
    exists m, run Metered.next closedTooEarly
        (Metered.bound (forwardedAllocation (some "10.0.0.1")) 4) = some m ∧
      Quiet m.listener ∧ m.listener.entry.table.size = 0 ∧ m.active = 1 ∧
      ¬ NoneLeft m.listener := by
  refine ⟨_, rfl, ⟨rfl, rfl, rfl⟩, rfl, by decide, ?_⟩
  intro hnone
  rcases hnone 0 firstSession .receiving rfl (fun hholds => nomatch hholds) with
    haborted | halone
  · cases haborted
  · refine not_endsAlone firstSession rfl ?_ halone
    intro haborted
    cases haborted

end Udp
end Runtime
end Relayd
