import Relayd.Runtime.TcpTasks

/-!
# Deleting a tcp listener

A session that has not finished has its sender in the table, unless its channel has
resolved.  A deletion waits for the accept loop to end before it drains the table, and
an accept loop that has ended spawns nothing, so the drain reaches everything.

Ids are numbers in 64 bits: two sessions have the same id when `2 ^ 64` or a multiple of
it lie between their numbers.  The session that registers second takes the place of the
other's sender in the table, and the first of them to finish removes it.
-/

namespace Relayd
namespace Runtime
namespace TcpTasks

open Foundation

def SessionPhase.ended : SessionPhase -> Bool
  | .finished _ => true
  | _ => false

/-- Numbers and ids go together, a number is taken once, and a sender in the table is
the last that was registered under its id. -/
structure Numbered (s : Tasks) : Prop where
  counter : s.entry.nextSessionId = UInt64.ofNat s.issued
  taken : forall number id target, s.accept = .locking number id target ->
    id = UInt64.ofNat number ∧ number + 1 = s.issued ∧ s.spawned.lookup number = none
  spawned : forall number session, s.spawned.lookup number = some session ->
    session.id = UInt64.ofNat number ∧ number < s.issued
  senders : forall id number, s.entry.sessions.lookup id = some number ->
    id = UInt64.ofNat number ∧
      forall other session, s.spawned.lookup other = some session ->
        session.id = id -> other <= number

/-- A session that has not finished can still be reached, or has been. -/
def Caught (s : Tasks) : Prop :=
  forall number session, s.spawned.lookup number = some session ->
    session.phase.ended = false ->
    number ∈ s.signalled ∨ s.entry.sessions.lookup session.id = some number

def DeletionPhase.joined : DeletionPhase -> Bool
  | .closing => true
  | .returned => true
  | _ => false

structure Stopped (s : Tasks) : Prop where
  stored : s.deletion = .idle ∨ s.deletion = .unlisted ∨ s.deletion = .stopping ->
    s.entry.acceptTask = true
  ended : s.deletion.joined = true -> s.accept = .ended
  drained : s.deletion = .returned -> s.entry.sessions = ∅

structure Kept (s : Tasks) : Prop extends Numbered s, Stopped s where
  caught : Caught s

theorem kept_bound (config : TcpRuntimeConfig) (allocation : Allocation) :
    Kept (Tasks.bound config allocation) where
  counter := rfl
  taken := by
    intro number id target h
    cases h
  spawned := by
    intro number session h
    cases h
  senders := by
    intro id number h
    cases h
  stored := fun _ => rfl
  ended := by
    intro h
    cases h
  drained := by
    intro h
    cases h
  caught := by
    intro number session h
    cases h

/-!
# The accept loop
-/

/-- The loop goes from one await to another and has taken no id. -/
theorem Kept.goes {s : Tasks} (h : Kept s) {phase : AcceptPhase}
    (hphase : forall number id target, phase ≠ .locking number id target)
    (hended : s.accept = .ended -> phase = .ended) :
    Kept { s with accept := phase } :=
  { h with
    taken := fun number id target haccept => absurd haccept (hphase number id target)
    ended := fun hjoined => hended (h.ended hjoined) }

theorem Kept.takes {s : Tasks} (h : Kept s) (target : Target) (hphase : s.accept = .reading) :
    Kept
      { s with
        entry := { s.entry with nextSessionId := s.entry.nextSessionId + 1 }
        issued := s.issued + 1
        accept := .locking s.issued s.entry.nextSessionId target } :=
  { h with
    counter := by
      show s.entry.nextSessionId + 1 = UInt64.ofNat (s.issued + 1)
      rw [h.counter, UInt64.ofNat_add]
      rfl
    taken := by
      intro number id target' haccept
      cases haccept
      refine ⟨h.counter, rfl, ?_⟩
      cases hlookup : s.spawned.lookup s.issued with
      | none => rfl
      | some session => exact absurd (h.spawned _ _ hlookup).2 (Nat.lt_irrefl _)
    spawned := by
      intro number session hlookup
      have hspawned := h.spawned number session hlookup
      exact ⟨hspawned.1, Nat.lt_succ_of_lt hspawned.2⟩
    ended := by
      intro hjoined
      have hended := h.ended hjoined
      rw [hphase] at hended
      cases hended }

/-- A sender that leaves the table leaves its session signalled. -/
theorem caught_of_removed {s : Tasks} (h : Caught s) {sessions : KeyMap UInt64 Nat}
    {id : UInt64} (hsessions : forall other, other ≠ id ->
      sessions.lookup other = s.entry.sessions.lookup other)
    {number : Nat} {session : Session} (hlookup : s.spawned.lookup number = some session)
    (hended : session.phase.ended = false) :
    number ∈ (s.entry.sessions.lookup id).toList ++ s.signalled ∨
      sessions.lookup session.id = some number := by
  rcases h number session hlookup hended with hsignalled | hsender
  · exact Or.inl (List.mem_append_right _ hsignalled)
  · by_cases hid : session.id = id
    · rw [← hid, hsender]
      exact Or.inl (List.mem_append_left _ (List.mem_singleton.mpr rfl))
    · rw [hsessions _ hid]
      exact Or.inr hsender

theorem Kept.registers {s : Tasks} (h : Kept s) {number : Nat} {id : UInt64} {target : Target}
    (hphase : s.accept = .locking number id target) :
    Kept
      { s with
        entry := { s.entry with sessions := s.entry.sessions.insert id number }
        signalled := (s.entry.sessions.lookup id).toList ++ s.signalled
        spawned := s.spawned.insert number ⟨id, target, .connecting, 0, 0⟩
        accept := .waiting } := by
  rcases h.taken _ _ _ hphase with ⟨hid, hissued, _⟩
  have hnot : s.deletion.joined = true -> False := by
    intro hjoined
    have hended := h.ended hjoined
    rw [hphase] at hended
    cases hended
  exact
    { h with
      taken := by
        intro other id' target' haccept
        cases haccept
      spawned := by
        intro other session hlookup
        rw [lookup_insert_eq] at hlookup
        split at hlookup
        · next hother =>
          cases hlookup
          rw [hother]
          exact ⟨hid, by lia⟩
        · exact h.spawned other session hlookup
      senders := by
        intro other sender hlookup
        rw [lookup_insert_eq] at hlookup
        split at hlookup
        · next hother =>
          cases hlookup
          rw [hother]
          refine ⟨hid, ?_⟩
          intro number' session' hlookup' _
          rw [lookup_insert_eq] at hlookup'
          split at hlookup'
          · next hnumber => exact hnumber.le
          · have hlater := (h.spawned number' session' hlookup').2
            lia
        · next hother =>
          refine ⟨(h.senders other sender hlookup).1, ?_⟩
          intro number' session' hlookup' hid'
          rw [lookup_insert_eq] at hlookup'
          split at hlookup'
          · cases hlookup'
            exact absurd hid'.symm hother
          · exact (h.senders other sender hlookup).2 number' session' hlookup' hid'
      ended := fun hjoined => (hnot hjoined).elim
      drained := by
        intro hreturned
        refine (hnot ?_).elim
        show s.deletion.joined = true
        rw [show s.deletion = .returned from hreturned]
        rfl
      caught := by
        intro other session hlookup hended
        rw [lookup_insert_eq] at hlookup
        split at hlookup
        · next hother =>
          cases hlookup
          right
          rw [hother]
          exact AList.lookup_insert _
        · exact caught_of_removed h.caught
            (fun id' hid' => AList.lookup_insert_ne hid') hlookup hended }

theorem kept_acceptNext {s s' : Tasks} {step : AcceptStep} (h : Kept s)
    (hnext : acceptNext s step = some s') : Kept s' := by
  cases step with
  | observeShutdown =>
      simp only [acceptNext] at hnext
      split at hnext
      · split at hnext
        · cases hnext
          exact h.goes (by simp) (fun _ => rfl)
        · cases hnext
      · cases hnext
  | accept =>
      simp only [acceptNext] at hnext
      split at hnext
      · next hphase =>
        cases hnext
        exact h.goes (by simp) (by simp [hphase])
      · cases hnext
  | acceptFailed =>
      simp only [acceptNext] at hnext
      split at hnext
      · cases hnext
        exact h.goes (by simp) (fun _ => rfl)
      · cases hnext
  | readState =>
      simp only [acceptNext] at hnext
      split at hnext
      · next hphase =>
        split at hnext
        · cases hnext
          exact h.goes (by simp) (by simp [hphase])
        · cases hnext
          exact h.takes _ hphase
      · cases hnext
  | discard =>
      simp only [acceptNext] at hnext
      split at hnext
      · next hphase =>
        cases hnext
        exact h.goes (by simp) (by simp [hphase])
      · cases hnext
  | shutdownClient =>
      simp only [acceptNext] at hnext
      split at hnext
      · next hphase =>
        cases hnext
        exact h.goes (by simp) (by simp [hphase])
      · cases hnext
  | register =>
      simp only [acceptNext] at hnext
      split at hnext
      · next hphase =>
        cases hnext
        exact h.registers hphase
      · cases hnext
  | cancel =>
      simp only [acceptNext] at hnext
      split at hnext
      · split at hnext
        · cases hnext
        · cases hnext
          exact h.goes (by simp) (fun _ => rfl)
      · cases hnext

/-!
# Sessions
-/

theorem kept_effect {s s' : Tasks} {number : Nat} {session : Session} (h : Kept s)
    (hlookup : s.spawned.lookup number = some session)
    (heffect : SessionEffect s number session s') : Kept s' := by
  have htaken : forall after : Session, forall other id target,
      s.accept = .locking other id target ->
      id = UInt64.ofNat other ∧ other + 1 = s.issued ∧
        (s.spawned.insert number after).lookup other = none := by
    intro after other id target haccept
    rcases h.taken other id target haccept with ⟨hid, hissued, hnone⟩
    refine ⟨hid, hissued, ?_⟩
    rw [AList.lookup_insert_ne]
    · exact hnone
    · intro hother
      rw [hother, hlookup] at hnone
      cases hnone
  have hspawned : forall after : Session, after.id = session.id ->
      forall other session', (s.spawned.insert number after).lookup other = some session' ->
      session'.id = UInt64.ofNat other ∧ other < s.issued := by
    intro after hid other session' hother
    rw [lookup_insert_eq] at hother
    split at hother
    · next hnumber =>
      cases hother
      rw [hnumber, hid]
      exact h.spawned number session hlookup
    · exact h.spawned other session' hother
  have hsenders : forall after : Session, after.id = session.id ->
      forall id sender, s.entry.sessions.lookup id = some sender ->
      id = UInt64.ofNat sender ∧
        forall other session', (s.spawned.insert number after).lookup other = some session' ->
          session'.id = id -> other <= sender := by
    intro after hsame id sender hsender
    refine ⟨(h.senders id sender hsender).1, ?_⟩
    intro other session' hother hid
    rw [lookup_insert_eq] at hother
    split at hother
    · next hnumber =>
      cases hother
      rw [hnumber]
      exact (h.senders id sender hsender).2 number session hlookup (by rw [← hsame, hid])
    · exact (h.senders id sender hsender).2 other session' hother hid
  cases heffect with
  | forwards after state rx tx hid hphase =>
      have hbefore : session.phase.ended = false := by
        cases hsession : session.phase with
        | finished ending =>
            rw [hsession] at hphase
            cases hphase.1
        | _ => rfl
      exact
        { h with
          taken := htaken after
          spawned := hspawned after hid
          senders := hsenders after hid
          caught := by
            intro other session' hother hended
            rw [lookup_insert_eq] at hother
            split at hother
            · next hnumber =>
              cases hother
              rw [hnumber, hid]
              exact h.caught number session hlookup hbefore
            · exact h.caught other session' hother hended }
  | finishes ending hphase =>
      exact
        { h with
          taken := htaken _
          spawned := hspawned { session with phase := .finished ending } rfl
          senders := by
            intro id other hother
            rw [lookup_erase_eq] at hother
            split at hother
            · cases hother
            · exact hsenders { session with phase := .finished ending } rfl id other hother
          drained := by
            intro hreturned
            show s.entry.sessions.erase session.id = ∅
            rw [h.drained hreturned]
            rfl
          caught := by
            intro other session' hother hended
            change (s.spawned.insert number _).lookup other = some session' at hother
            rw [lookup_insert_eq] at hother
            split at hother
            · cases hother
              cases hended
            · exact caught_of_removed h.caught
                (fun id hid => AList.lookup_erase_ne hid) hother hended }

/-!
# Updates and deletion
-/

theorem caught_closeSessions {s : Tasks} (h : Caught s) : Caught s.closeSessions := by
  intro number session hlookup hended
  left
  rcases h number session hlookup hended with hsignalled | hsender
  · exact List.mem_append_right _ hsignalled
  · exact List.mem_append_left _ (mem_values.mpr ⟨_, hsender⟩)

theorem kept_closeSessions {s : Tasks} (h : Kept s) : Kept s.closeSessions :=
  { h with
    senders := by
      intro id number hlookup
      cases hlookup
    drained := fun _ => rfl
    caught := caught_closeSessions h.caught }

/-- The deletion has not come to the end of the accept loop yet. -/
theorem stopped_of_waiting {s : Tasks}
    (hstored : s.deletion = .idle ∨ s.deletion = .unlisted ∨ s.deletion = .stopping ->
      s.entry.acceptTask = true)
    (hwaiting : s.deletion.joined = false) : Stopped s where
  stored := hstored
  ended := by
    intro hjoined
    rw [hwaiting] at hjoined
    cases hjoined
  drained := by
    intro hreturned
    rw [hreturned] at hwaiting
    cases hwaiting

theorem stopped_of_joined {s : Tasks} (hjoined : s.deletion.joined = true)
    (hended : s.accept = .ended) (hdrained : s.deletion = .returned -> s.entry.sessions = ∅) :
    Stopped s where
  stored := by
    intro hearly
    rcases hearly with hearly | hearly | hearly
    · rw [hearly] at hjoined
      cases hjoined
    · rw [hearly] at hjoined
      cases hjoined
    · rw [hearly] at hjoined
      cases hjoined
  ended := fun _ => hended
  drained := hdrained

theorem kept_controlNext {s s' : Tasks} {step : ControlStep} (h : Kept s)
    (hnext : controlNext s step = some s') : Kept s' := by
  cases step with
  | findEntry update allocation =>
      simp only [controlNext] at hnext
      split at hnext
      · cases hnext
        exact { h with }
      · cases hnext
  | publish update =>
      simp only [controlNext] at hnext
      split at hnext
      · cases hnext
        exact { h with }
      · cases hnext
  | closeSessions update =>
      simp only [controlNext] at hnext
      split at hnext
      · cases hnext
        exact { kept_closeSessions h with }
      · cases hnext
  | unlist =>
      simp only [controlNext] at hnext
      split at hnext
      · next hidle =>
        cases hnext
        have hstored := h.stored (Or.inl hidle)
        exact { h with toStopped := stopped_of_waiting (fun _ => hstored) rfl }
      · cases hnext
  | stop =>
      simp only [controlNext] at hnext
      split at hnext
      · next hunlisted =>
        cases hnext
        have hstored := h.stored (Or.inr (Or.inl hunlisted))
        exact { h with toStopped := stopped_of_waiting (fun _ => hstored) rfl }
      · cases hnext
  | takeTask =>
      simp only [controlNext] at hnext
      split at hnext
      · next hstopping =>
        have hstored := h.stored (Or.inr (Or.inr hstopping))
        rw [if_pos hstored] at hnext
        cases hnext
        have hlate : ¬ (DeletionPhase.awaiting = .idle ∨ DeletionPhase.awaiting = .unlisted ∨
            DeletionPhase.awaiting = .stopping) := by decide
        exact { h with toStopped := stopped_of_waiting (fun hearly => absurd hearly hlate) rfl }
      · cases hnext
  | joinTask =>
      simp only [controlNext] at hnext
      split at hnext
      · next hended =>
        cases hnext
        have hclosing : DeletionPhase.closing ≠ .returned := by decide
        exact
          { h with
            toStopped := stopped_of_joined rfl hended (fun hreturned => absurd hreturned hclosing) }
      · cases hnext
  | closeAll =>
      simp only [controlNext] at hnext
      split at hnext
      · next hclosing =>
        cases hnext
        have hended : s.accept = .ended := by
          apply h.ended
          rw [hclosing]
          rfl
        exact
          { kept_closeSessions h with
            toStopped := stopped_of_joined rfl hended (fun _ => rfl) }
      · cases hnext

theorem kept_next {s s' : Tasks} {step : Step} (h : Kept s) (hnext : next s step = some s') :
    Kept s' := by
  cases step with
  | accept step => exact kept_acceptNext h hnext
  | session number step =>
      simp only [next] at hnext
      split at hnext
      · next hlookup => exact kept_effect h hlookup (sessionNext_effect hnext)
      · cases hnext
  | control step => exact kept_controlNext h hnext

theorem kept_reachable {config : TcpRuntimeConfig} {allocation : Allocation} {s : Tasks}
    (h : Reachable next (Tasks.bound config allocation) s) : Kept s :=
  h.invariant (kept_bound config allocation) (fun _ _ _ hkept hnext => kept_next hkept hnext)

/-!
# After the deletion
-/

/-- Whatever happens from here, no session is spawned that is not there already. -/
def NoFurtherSession (s : Tasks) : Prop :=
  forall s', Reachable next s s' -> forall number session,
    s'.spawned.lookup number = some session ->
    exists earlier, s.spawned.lookup number = some earlier

theorem acceptNext_of_ended {s s' : Tasks} {step : AcceptStep} (h : s.accept = .ended) :
    acceptNext s step ≠ some s' := by
  intro hnext
  cases step <;> simp [acceptNext, h] at hnext

theorem SessionEffect.accept_eq {s s' : Tasks} {number : Nat} {session : Session}
    (h : SessionEffect s number session s') : s'.accept = s.accept := by
  cases h <;> rfl

theorem SessionEffect.earlier {s s' : Tasks} {number : Nat} {session : Session}
    (heffect : SessionEffect s number session s')
    (hlookup : s.spawned.lookup number = some session) {other : Nat} {session' : Session}
    (h : s'.spawned.lookup other = some session') :
    exists earlier, s.spawned.lookup other = some earlier := by
  have hinsert : forall after : Session,
      (s.spawned.insert number after).lookup other = some session' ->
      exists earlier, s.spawned.lookup other = some earlier := by
    intro after hother
    rw [lookup_insert_eq] at hother
    split at hother
    · next hnumber =>
      rw [hnumber]
      exact ⟨session, hlookup⟩
    · exact ⟨session', hother⟩
  cases heffect with
  | forwards after state rx tx hid hphase => exact hinsert after h
  | finishes ending hphase => exact hinsert _ h

theorem ended_next {s s' : Tasks} {step : Step} (h : s.accept = .ended)
    (hnext : next s step = some s') :
    s'.accept = .ended ∧ forall number session, s'.spawned.lookup number = some session ->
      exists earlier, s.spawned.lookup number = some earlier := by
  cases step with
  | accept step => exact absurd hnext (acceptNext_of_ended h)
  | session number step =>
      simp only [next] at hnext
      split at hnext
      · next hlookup =>
        have heffect := sessionNext_effect hnext
        exact ⟨heffect.accept_eq.trans h, fun _ _ => heffect.earlier hlookup⟩
      · cases hnext
  | control step =>
      rcases controlNext_keeps hnext with ⟨haccept, hspawned⟩
      rw [haccept, hspawned]
      exact ⟨h, fun _ session hlookup => ⟨session, hlookup⟩⟩

theorem noFurtherSession_of_ended {s : Tasks} (h : s.accept = .ended) :
    NoFurtherSession s := by
  intro s' hreach
  have hinv : s'.accept = .ended ∧ forall number session,
      s'.spawned.lookup number = some session ->
      exists earlier, s.spawned.lookup number = some earlier := by
    apply hreach.invariant
    · exact ⟨h, fun _ session hlookup => ⟨session, hlookup⟩⟩
    · intro before step after hbefore hnext
      rcases ended_next hbefore.1 hnext with ⟨hended, hearlier⟩
      refine ⟨hended, ?_⟩
      intro number session hlookup
      rcases hearlier number session hlookup with ⟨earlier, hearlier⟩
      exact hbefore.2 number earlier hearlier
  exact hinv.2

/-- Only the table entry under the id of a session goes when it finishes. -/
theorem removed_of_finishes {s s' : Tasks} {number : Nat}
    (hnext : next s (.session number .removeSessionHandle) = some s') {id : UInt64}
    {other : Nat} (hlookup : s.entry.sessions.lookup id = some other)
    (hgone : s'.entry.sessions.lookup id ≠ some other) :
    exists session, s.spawned.lookup number = some session ∧ session.id = id := by
  simp only [next, sessionNext] at hnext
  split at hnext
  · next session hsession =>
    split at hnext
    · cases hnext
      refine ⟨session, hsession, ?_⟩
      by_contra hid
      apply hgone
      show (s.entry.sessions.erase session.id).lookup id = some other
      rw [AList.lookup_erase_ne (Ne.symm hid), hlookup]
    · cases hnext
  · cases hnext

theorem eq_or_lapped {number other : Nat} (h : UInt64.ofNat number = UInt64.ofNat other)
    (hle : number <= other) : other = number ∨ number + 2 ^ 64 <= other := by
  have hmod : number % 2 ^ 64 = other % 2 ^ 64 := by
    have hnat := congrArg UInt64.toNat h
    simpa [UInt64.toNat_ofNat'] using hnat
  lia

theorem delete_closes_everything (config : TcpRuntimeConfig) (allocation : Allocation)
    {s : Tasks} (h : Reachable next (Tasks.bound config allocation) s) :
    (s.deletion = .returned ->
      s.accept = .ended ∧ NoFurtherSession s ∧
        forall number session, s.spawned.lookup number = some session ->
          session.phase.ended = true ∨ number ∈ s.signalled) ∧
      forall number s', next s (.session number .removeSessionHandle) = some s' ->
        forall id other, s.entry.sessions.lookup id = some other ->
          s'.entry.sessions.lookup id ≠ some other ->
          other = number ∨ number + 2 ^ 64 <= other := by
  have hkept := kept_reachable h
  constructor
  · intro hreturned
    have hended : s.accept = .ended := by
      apply hkept.ended
      rw [hreturned]
      rfl
    refine ⟨hended, noFurtherSession_of_ended hended, ?_⟩
    intro number session hlookup
    cases hphase : session.phase.ended with
    | true => exact Or.inl rfl
    | false =>
        right
        rcases hkept.caught number session hlookup hphase with hsignalled | hsender
        · exact hsignalled
        · rw [hkept.drained hreturned] at hsender
          cases hsender
  · intro number s' hnext id other hother hgone
    rcases removed_of_finishes hnext hother hgone with ⟨session, hsession, hid⟩
    rcases hkept.senders id other hother with ⟨hsender, hlatest⟩
    have hnumber : id = UInt64.ofNat number := by
      rw [← hid]
      exact (hkept.spawned number session hsession).1
    exact eq_or_lapped (hnumber.symm.trans hsender) (hlatest number session hsession hid)

def forwardedAllocation : Allocation where
  id := "web"
  protocol := .tcp
  port := 8080
  targetPort := some 80
  host := some "10.0.0.1"
  createdAtMs := 0
  updatedAtMs := 0

/-- The loop is aborted while it waits to register a second session. -/
def deletedWhileAccepting : List Step :=
  [.accept .accept, .accept .readState, .accept .register, .accept .accept,
    .accept .readState, .control .unlist, .control .stop, .control .takeTask,
    .accept .cancel, .control .joinTask, .control .closeAll]

theorem delete_closes_first_session :
    exists s, run next deletedWhileAccepting
        (Tasks.bound ⟨true, false⟩ forwardedAllocation) = some s ∧
      s.deletion = .returned ∧ s.accept = .ended ∧ NoFurtherSession s ∧
      s.spawned.lookup 0 = some ⟨0, ⟨"10.0.0.1", 80⟩, .connecting, 0, 0⟩ ∧
      0 ∈ s.signalled := by
  refine ⟨_, rfl, rfl, ?_⟩
  have hclosed := (delete_closes_everything ⟨true, false⟩ forwardedAllocation
    (Reachable.of_run deletedWhileAccepting rfl)).1 rfl
  refine ⟨hclosed.1, hclosed.2.1, rfl, ?_⟩
  have hsession := hclosed.2.2 0 ⟨0, ⟨"10.0.0.1", 80⟩, .connecting, 0, 0⟩ rfl
  simpa only [SessionPhase.ended, Bool.false_eq_true, false_or] using hsession

/-!
# Taking every id

The first session goes on forwarding while others come and go, one for every other
number that 64 bits hold.  The next one to come has its id.
-/

/-- The first session is there with its sender, and `n` ids have been taken. -/
structure Lapping (n : Nat) (s : Tasks) : Prop where
  waiting : s.accept = .waiting
  target : s.entry.state.target = some ⟨"10.0.0.1", 80⟩
  buffered : s.entry.forceTcpCopyFallback = true
  counter : s.entry.nextSessionId = UInt64.ofNat n
  issued : s.issued = n
  first : s.spawned.lookup 0 = some ⟨0, ⟨"10.0.0.1", 80⟩, .connecting, 0, 0⟩
  sender : s.entry.sessions.lookup 0 = some 0

/-- A client comes and its session is spawned. -/
def Tasks.opened (s : Tasks) (target : Target) : Tasks :=
  { s with
    entry :=
      { s.entry with
        nextSessionId := s.entry.nextSessionId + 1
        sessions := s.entry.sessions.insert s.entry.nextSessionId s.issued }
    issued := s.issued + 1
    signalled := (s.entry.sessions.lookup s.entry.nextSessionId).toList ++ s.signalled
    spawned := s.spawned.insert s.issued ⟨s.entry.nextSessionId, target, .connecting, 0, 0⟩ }

theorem run_opened {s : Tasks} {target : Target} (hwaiting : s.accept = .waiting)
    (htarget : s.entry.state.target = some target) :
    run next [.accept .accept, .accept .readState, .accept .register] s =
      some (s.opened target) := by
  simp [run, next, acceptNext, hwaiting, htarget, Tasks.opened]

/-- A session connects, has nothing to copy and is gone. -/
def Tasks.passed (s : Tasks) (number : Nat) (session : Session) : Tasks :=
  { s with
    entry := { s.entry with sessions := s.entry.sessions.erase session.id }
    signalled := (s.entry.sessions.lookup session.id).toList ++ s.signalled
    spawned := s.spawned.insert number { session with phase := .finished .clean } }

theorem copyStreams_forced {entry : ListenerEntry} (h : entry.forceTcpCopyFallback = true)
    (splice : Except IoError SpliceCopyResult) (buffered : Except IoError (UInt64 × UInt64)) :
    copyStreams entry splice buffered = buffered := by
  unfold copyStreams
  rw [if_pos h]

section Passing

variable {s : Tasks} {number : Nat} {id : UInt64} {target : Target}

theorem run_copied (hlookup : s.spawned.lookup number = some ⟨id, target, .connecting, 0, 0⟩)
    (hbuffered : s.entry.forceTcpCopyFallback = true) :
    run next [.session number .connect,
        .session number (.copyEnds (.ok (none, none)) (.ok ()))] s =
      some (s.goOn number ⟨id, target, .connecting, 0, 0⟩ (.removing .clean)) := by
  have hforced := copyStreams_forced hbuffered
  simp [run, next, sessionNext, hlookup, Tasks.goOn, Session.copied, hforced, Except.map]

theorem next_passed :
    next (s.goOn number ⟨id, target, .connecting, 0, 0⟩ (.removing .clean))
        (.session number .removeSessionHandle) =
      some (s.passed number ⟨id, target, .connecting, 0, 0⟩) := by
  simp [next, sessionNext, Tasks.goOn, Tasks.passed]

end Passing

theorem ofNat_ne_zero {n : Nat} (hpos : 0 < n) (hlimit : n < 2 ^ 64) :
    (0 : UInt64) ≠ UInt64.ofNat n := by
  intro h
  have hnat := congrArg UInt64.toNat h
  rw [UInt64.toNat_ofNat', Nat.mod_eq_of_lt hlimit] at hnat
  exact hpos.ne hnat

theorem Lapping.lap {n : Nat} {s : Tasks} (h : Lapping n s) (hpos : 0 < n)
    (hlimit : n < 2 ^ 64) : exists s', Reachable next s s' ∧ Lapping (n + 1) s' := by
  have hopened := run_opened h.waiting h.target
  have hspawned : (s.opened ⟨"10.0.0.1", 80⟩).spawned.lookup n =
      some ⟨UInt64.ofNat n, ⟨"10.0.0.1", 80⟩, .connecting, 0, 0⟩ := by
    simp only [Tasks.opened, h.issued, h.counter]
    exact AList.lookup_insert _
  have hcopied := run_copied hspawned h.buffered
  refine ⟨_, (Reachable.of_run _ (run_append hopened hcopied)).step next_passed, ?_⟩
  exact
    { waiting := h.waiting
      target := h.target
      buffered := h.buffered
      counter := by
        show s.entry.nextSessionId + 1 = UInt64.ofNat (n + 1)
        rw [h.counter, UInt64.ofNat_add]
        rfl
      issued := by
        show s.issued + 1 = n + 1
        rw [h.issued]
      first := by
        simp only [Tasks.passed, Tasks.opened, h.issued]
        rw [AList.lookup_insert_ne hpos.ne, AList.lookup_insert_ne hpos.ne]
        exact h.first
      sender := by
        simp only [Tasks.passed, Tasks.opened, h.counter]
        rw [AList.lookup_erase_ne (ofNat_ne_zero hpos hlimit),
          AList.lookup_insert_ne (ofNat_ne_zero hpos hlimit)]
        exact h.sender }

theorem lapping_reachable {n : Nat} (hpos : 1 <= n) (hlimit : n <= 2 ^ 64) :
    exists s, Reachable next (Tasks.bound ⟨false, true⟩ forwardedAllocation) s ∧
      Lapping n s := by
  induction n, hpos using Nat.le_induction with
  | base =>
      refine ⟨_, Reachable.of_run _ (run_opened rfl rfl), ?_⟩
      exact ⟨rfl, rfl, rfl, rfl, rfl, rfl, rfl⟩
  | succ n hn ih =>
      rcases ih (Nat.le_of_succ_le hlimit) with ⟨s, hreach, hlapping⟩
      rcases hlapping.lap hn hlimit with ⟨s', hreach', hlapping'⟩
      exact ⟨s', hreach.trans hreach', hlapping'⟩

/-- Session 0 removes the handle of session `2 ^ 64`. -/
theorem finishing_removes_another_handle :
    exists s s', Reachable next (Tasks.bound ⟨false, true⟩ forwardedAllocation) s ∧
      next s (.session 0 .removeSessionHandle) = some s' ∧
      s.entry.sessions.lookup 0 = some (2 ^ 64) ∧ s'.entry.sessions.lookup 0 = none := by
  rcases lapping_reachable (n := 2 ^ 64) (by decide) (le_refl _) with ⟨s, hreach, hlapping⟩
  have hopened := run_opened hlapping.waiting hlapping.target
  have hzero : UInt64.ofNat (2 ^ 64) = 0 := by decide
  have hsender : (s.opened ⟨"10.0.0.1", 80⟩).entry.sessions.lookup 0 = some (2 ^ 64) := by
    simp only [Tasks.opened, hlapping.counter, hlapping.issued, hzero]
    exact AList.lookup_insert _
  have hfirst : (s.opened ⟨"10.0.0.1", 80⟩).spawned.lookup 0 =
      some ⟨0, ⟨"10.0.0.1", 80⟩, .connecting, 0, 0⟩ := by
    simp only [Tasks.opened, hlapping.issued]
    rw [AList.lookup_insert_ne (by decide)]
    exact hlapping.first
  have hcopied := run_copied hfirst hlapping.buffered
  have hreach' := hreach.trans (Reachable.of_run _ (run_append hopened hcopied))
  exact ⟨_, _, hreach', next_passed, hsender, AList.lookup_erase 0 _⟩

end TcpTasks
end Runtime
end Relayd
