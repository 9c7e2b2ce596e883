import Relayd.Runtime.TcpDelete

/-!
# Retargeting a tcp listener

An update publishes the new target and then drains the table of senders.  A client that
has read a target and waits for the table is in neither: whether its session is caught
is decided when it registers.
-/

namespace Relayd
namespace Runtime
namespace TcpTasks

open Foundation

/-- An update has published its target and is still to drain the table. -/
def Tasks.Draining (s : Tasks) : Prop :=
  UpdatePhase.published ∈ values s.updates

instance (s : Tasks) : Decidable s.Draining :=
  inferInstanceAs (Decidable (UpdatePhase.published ∈ values s.updates))

/-- A client registers in time: with the current target, or while the table is still to
be drained. -/
def registersInTime (s : Tasks) : Step -> Bool
  | .accept .register =>
      match s.accept with
      | .locking _ _ target => decide (s.entry.state.target = some target) || decide s.Draining
      | _ => true
  | _ => true

/-- Outside of an update, a session that was not told to stop forwards to the current
target; without a target there is no such session. -/
def Retargeted (s : Tasks) : Prop :=
  ¬ s.Draining ->
    (forall number session, s.spawned.lookup number = some session ->
      session.phase.forwarding = true -> number ∉ s.signalled ->
      s.entry.state.target = some session.target) ∧
    (s.entry.state.effectiveHost = none -> forall number session,
      s.spawned.lookup number = some session -> session.phase.forwarding = true ->
      number ∈ s.signalled)

/-- A session that goes on without being signalled has the current target, unless the
table is still to be drained. -/
def Current (s : Tasks) : Prop :=
  forall number session, s.spawned.lookup number = some session ->
    session.phase.forwarding = true ->
    number ∈ s.signalled ∨ s.entry.state.target = some session.target ∨ s.Draining

/-- Only sessions that were spawned are signalled or have a sender. -/
structure Known (s : Tasks) : Prop where
  signalled : forall number, number ∈ s.signalled ->
    exists session, s.spawned.lookup number = some session
  senders : forall id number, s.entry.sessions.lookup id = some number ->
    exists session, s.spawned.lookup number = some session

structure Followed (s : Tasks) : Prop where
  kept : Kept s
  known : Known s
  current : Current s

theorem followed_bound (config : TcpRuntimeConfig) (allocation : Allocation) :
    Followed (Tasks.bound config allocation) where
  kept := kept_bound config allocation
  known :=
    { signalled := by
        intro number h
        cases h
      senders := by
        intro id number h
        cases h }
  current := by
    intro number session h
    cases h

theorem Followed.retargeted {s : Tasks} (h : Followed s) : Retargeted s := by
  intro hdrained
  have hfollows : forall number session, s.spawned.lookup number = some session ->
      session.phase.forwarding = true -> number ∉ s.signalled ->
      s.entry.state.target = some session.target := by
    intro number session hsession hforwarding hunsignalled
    rcases h.current number session hsession hforwarding with hsignalled | htarget | hdraining
    · exact absurd hsignalled hunsignalled
    · exact htarget
    · exact absurd hdraining hdrained
  refine ⟨hfollows, ?_⟩
  intro hhost number session hsession hforwarding
  by_contra hunsignalled
  have htarget := hfollows number session hsession hforwarding hunsignalled
  unfold EntryState.target at htarget
  rw [hhost] at htarget
  cases htarget

/-!
# The accept loop
-/

/-- Apart from registering, the loop changes nothing that a session depends on. -/
theorem acceptNext_elsewhere {s s' : Tasks} {step : AcceptStep} (hstep : step ≠ .register)
    (h : acceptNext s step = some s') :
    s'.spawned = s.spawned ∧ s'.signalled = s.signalled ∧ s'.updates = s.updates ∧
      s'.entry.state = s.entry.state ∧ s'.entry.sessions = s.entry.sessions := by
  cases step with
  | register => exact absurd rfl hstep
  | readState | cancel | observeShutdown =>
      simp only [acceptNext] at h
      split at h
      · split at h <;> (cases h; try exact ⟨rfl, rfl, rfl, rfl, rfl⟩)
      · cases h
  | accept | acceptFailed | discard | shutdownClient =>
      simp only [acceptNext] at h
      split at h
      · cases h
        exact ⟨rfl, rfl, rfl, rfl, rfl⟩
      · cases h

/-- What registering does, and to whom. -/
theorem acceptNext_register {s s' : Tasks} (h : acceptNext s .register = some s') :
    exists number id target, s.accept = .locking number id target ∧
      s' =
        { s with
          entry := { s.entry with sessions := s.entry.sessions.insert id number }
          signalled := (s.entry.sessions.lookup id).toList ++ s.signalled
          spawned := s.spawned.insert number ⟨id, target, .connecting, 0, 0⟩
          accept := .waiting } := by
  simp only [acceptNext] at h
  split at h
  · next number id target hphase =>
    cases h
    exact ⟨number, id, target, hphase, rfl⟩
  · cases h

/-- A session stays in the list when others are added or go on. -/
theorem exists_lookup_insert {spawned : KeyMap Nat Session} {number : Nat} {after : Session}
    {other : Nat} (h : exists session, spawned.lookup other = some session) :
    exists session, (spawned.insert number after).lookup other = some session := by
  rw [lookup_insert_eq]
  split
  · exact ⟨after, rfl⟩
  · exact h

theorem mem_toList {found : Option Nat} {number : Nat} (h : number ∈ found.toList) :
    found = some number := by
  cases found with
  | none => cases h
  | some other =>
      cases List.mem_singleton.mp h
      rfl

theorem Known.registers {s : Tasks} (h : Known s) (number : Nat) (id : UInt64)
    (after : Session) {accept : AcceptPhase} :
    Known
      { s with
        entry := { s.entry with sessions := s.entry.sessions.insert id number }
        signalled := (s.entry.sessions.lookup id).toList ++ s.signalled
        spawned := s.spawned.insert number after
        accept := accept } where
  signalled := by
    intro other hother
    apply exists_lookup_insert
    rcases List.mem_append.mp hother with hreplaced | hbefore
    · exact h.senders id other (mem_toList hreplaced)
    · exact h.signalled other hbefore
  senders := by
    intro other sender hsender
    rw [lookup_insert_eq] at hsender
    split at hsender
    · cases hsender
      exact ⟨after, AList.lookup_insert _⟩
    · exact exists_lookup_insert (h.senders other sender hsender)

theorem followed_acceptNext {s s' : Tasks} {step : AcceptStep} (h : Followed s)
    (hintime : registersInTime s (.accept step) = true) (hnext : acceptNext s step = some s') :
    Followed s' := by
  have hkept := kept_acceptNext h.kept hnext
  by_cases hstep : step = .register
  · subst hstep
    rcases acceptNext_register hnext with ⟨number, id, target, hphase, rfl⟩
    simp only [registersInTime, hphase, Bool.or_eq_true, decide_eq_true_eq] at hintime
    refine ⟨hkept, h.known.registers number id _, ?_⟩
    intro other session hsession hforwarding
    rw [lookup_insert_eq] at hsession
    split at hsession
    · cases hsession
      exact Or.inr hintime
    · rcases h.current other session hsession hforwarding with hsignalled | hcurrent
      · exact Or.inl (List.mem_append_right _ hsignalled)
      · exact Or.inr hcurrent
  · rcases acceptNext_elsewhere hstep hnext with
      ⟨hspawned, hsignalled, hupdates, hstate, hsessions⟩
    refine ⟨hkept, ⟨?_, ?_⟩, ?_⟩
    · rw [hspawned, hsignalled]
      exact h.known.signalled
    · rw [hspawned, hsessions]
      exact h.known.senders
    · unfold Current Tasks.Draining
      rw [hspawned, hsignalled, hupdates, hstate]
      exact h.current

/-- A client that registers too late is a session that no update will reach. -/
theorem late_register {s s' : Tasks} {step : Step} (h : Followed s)
    (hlate : registersInTime s step = false) (hnext : next s step = some s') :
    ¬ Retargeted s' := by
  cases step with
  | session number step => cases hlate
  | control step => cases hlate
  | accept step =>
      cases step with
      | register =>
          rcases acceptNext_register hnext with ⟨number, id, target, hphase, rfl⟩
          simp only [registersInTime, hphase, Bool.or_eq_false_iff, decide_eq_false_iff_not]
            at hlate
          rcases h.kept.taken _ _ _ hphase with ⟨_, _, hnone⟩
          have hknown : forall other, (exists session, s.spawned.lookup other = some session) ->
              other ≠ number := by
            intro other hspawned hsame
            rcases hspawned with ⟨session, hspawned⟩
            rw [hsame, hnone] at hspawned
            cases hspawned
          intro hretargeted
          have htarget := (hretargeted hlate.right).left number
            ⟨id, target, .connecting, 0, 0⟩ (AList.lookup_insert _) rfl
          apply hlate.left
          apply htarget
          intro hsignalled
          rcases List.mem_append.mp hsignalled with hreplaced | hbefore
          · exact hknown number (h.known.senders id number (mem_toList hreplaced)) rfl
          · exact hknown number (h.known.signalled number hbefore) rfl
      | _ => cases hlate

/-!
# Sessions
-/

/-- A session keeps its target and leaves the current one as it is. -/
theorem sessionNext_targets {s s' : Tasks} {number : Nat} {session : Session}
    {step : SessionStep} (h : sessionNext s number session step = some s') :
    s'.updates = s.updates ∧ s'.entry.state.target = s.entry.state.target ∧
      exists after, s'.spawned = s.spawned.insert number after ∧
        after.target = session.target ∧
        (after.phase.forwarding = true -> session.phase.forwarding = true) := by
  cases step with
  | connect | connectFails error | copy fromClient fromUpstream | shutdownClient =>
      simp only [sessionNext] at h
      split at h
      · next hphase =>
        cases h
        exact ⟨rfl, rfl, _, rfl, rfl, fun _ => by simp [hphase, SessionPhase.forwarding]⟩
      · cases h
  | copyEnds splice buffered =>
      simp only [sessionNext] at h
      split at h
      · next hphase =>
        split at h <;>
          (cases h
           exact ⟨rfl, rfl, _, rfl, rfl, fun _ => by simp [hphase, SessionPhase.forwarding]⟩)
      · cases h
  | recordError =>
      simp only [sessionNext] at h
      split at h
      · next hphase =>
        cases h
        exact ⟨rfl, rfl, _, rfl, rfl, fun _ => by simp [hphase, SessionPhase.forwarding]⟩
      · next hphase =>
        cases h
        exact ⟨rfl, rfl, _, rfl, rfl, fun _ => by simp [hphase, SessionPhase.forwarding]⟩
      · cases h
  | observeShutdown =>
      simp only [sessionNext] at h
      split at h
      · cases h
        exact ⟨rfl, rfl, _, rfl, rfl, fun hforwarding => by cases hforwarding⟩
      · cases h
  | removeSessionHandle =>
      simp only [sessionNext] at h
      split at h
      · cases h
        exact ⟨rfl, rfl, _, rfl, rfl, fun hforwarding => by cases hforwarding⟩
      · cases h

/-- What a session may signal or take out is what the table has under its id. -/
theorem SessionEffect.senders {s s' : Tasks} {number : Nat} {session : Session}
    (h : SessionEffect s number session s') :
    (forall other, other ∈ s.signalled -> other ∈ s'.signalled) ∧
      (forall other, other ∈ s'.signalled ->
        other ∈ s.signalled ∨ s.entry.sessions.lookup session.id = some other) ∧
      forall id other, s'.entry.sessions.lookup id = some other ->
        s.entry.sessions.lookup id = some other := by
  cases h with
  | forwards after state rx tx hid hphase =>
      exact ⟨fun _ hother => hother, fun _ hother => Or.inl hother, fun _ _ hother => hother⟩
  | finishes ending hphase =>
      refine ⟨fun _ hother => List.mem_append_right _ hother, ?_, ?_⟩
      · intro other hother
        rcases List.mem_append.mp hother with hremoved | hbefore
        · exact Or.inr (mem_toList hremoved)
        · exact Or.inl hbefore
      · intro id other hother
        change (s.entry.sessions.erase session.id).lookup id = some other at hother
        rw [lookup_erase_eq] at hother
        split at hother
        · cases hother
        · exact hother

theorem followed_sessionNext {s s' : Tasks} {number : Nat} {session : Session}
    {step : SessionStep} (h : Followed s) (hlookup : s.spawned.lookup number = some session)
    (hnext : sessionNext s number session step = some s') : Followed s' := by
  have heffect := sessionNext_effect hnext
  rcases sessionNext_targets hnext with ⟨hupdates, htarget, after, hspawned, hsame, hbefore⟩
  rcases heffect.senders with ⟨hsignalled, hsignals, hsenders⟩
  refine ⟨kept_effect h.kept hlookup heffect, ⟨?_, ?_⟩, ?_⟩
  · intro other hother
    rw [hspawned]
    apply exists_lookup_insert
    rcases hsignals other hother with hold | hremoved
    · exact h.known.signalled other hold
    · exact h.known.senders _ other hremoved
  · intro id other hother
    rw [hspawned]
    exact exists_lookup_insert (h.known.senders id other (hsenders id other hother))
  · intro other session' hother hforwarding
    have hearlier : exists earlier, s.spawned.lookup other = some earlier ∧
        earlier.phase.forwarding = true ∧ earlier.target = session'.target := by
      rw [hspawned, lookup_insert_eq] at hother
      split at hother
      · next hnumber =>
        cases hother
        rw [hnumber]
        exact ⟨session, hlookup, hbefore hforwarding, hsame.symm⟩
      · exact ⟨session', hother, hforwarding, rfl⟩
    rcases hearlier with ⟨earlier, hearlier, hearlierForwarding, hearlierTarget⟩
    unfold Tasks.Draining
    rw [htarget, hupdates, ← hearlierTarget]
    rcases h.current other earlier hearlier hearlierForwarding with hold | hcurrent
    · exact Or.inl (hsignalled other hold)
    · exact Or.inr hcurrent

/-!
# Updates and deletion
-/

theorem known_closeSessions {s : Tasks} (h : Known s) : Known s.closeSessions where
  signalled := by
    intro number hnumber
    rcases List.mem_append.mp hnumber with hdrained | hbefore
    · rcases mem_values.mp hdrained with ⟨id, hid⟩
      exact h.senders id number hid
    · exact h.signalled number hbefore
  senders := by
    intro id number hnumber
    cases hnumber

theorem ended_of_forwarding {phase : SessionPhase} (h : phase.forwarding = true) :
    phase.ended = false := by
  cases phase with
  | finished ending => cases h
  | _ => rfl

/-- The drain reaches every session that still goes on. -/
theorem signalled_closeSessions {s : Tasks} (h : Caught s) {number : Nat} {session : Session}
    (hsession : s.spawned.lookup number = some session)
    (hforwarding : session.phase.forwarding = true) : number ∈ s.closeSessions.signalled := by
  rcases h number session hsession (ended_of_forwarding hforwarding) with hsignalled | hsender
  · exact List.mem_append_right _ hsignalled
  · exact List.mem_append_left _ (mem_values.mpr ⟨_, hsender⟩)


theorem followed_controlNext {s s' : Tasks} {step : ControlStep} (h : Followed s)
    (hnext : controlNext s step = some s') : Followed s' := by
  have hkept := kept_controlNext h.kept hnext
  have hdrained := known_closeSessions h.known
  cases step with
  | findEntry update allocation =>
      simp only [controlNext] at hnext
      split at hnext
      · next hnone =>
        cases hnext
        refine ⟨hkept, ⟨h.known.signalled, h.known.senders⟩, ?_⟩
        intro number session hsession hforwarding
        rcases h.current number session hsession hforwarding with
          hsignalled | htarget | hdraining
        · exact Or.inl hsignalled
        · exact Or.inr (Or.inl htarget)
        · -- The update that is draining is another one.
          rcases mem_values.mp hdraining with ⟨other, hother⟩
          have hne : other ≠ update := by
            intro hsame
            rw [hsame, hnone] at hother
            cases hother
          right
          right
          refine mem_values.mpr ⟨other, ?_⟩
          rw [AList.lookup_insert_ne hne, hother]
      · cases hnext
  | publish update =>
      simp only [controlNext] at hnext
      split at hnext
      · cases hnext
        refine ⟨hkept, ⟨h.known.signalled, h.known.senders⟩, ?_⟩
        intro number session _ _
        exact Or.inr (Or.inr (mem_values.mpr ⟨update, AList.lookup_insert _⟩))
      · cases hnext
  | closeSessions | closeAll =>
      simp only [controlNext] at hnext
      split at hnext
      · cases hnext
        refine ⟨hkept, ⟨hdrained.signalled, hdrained.senders⟩, ?_⟩
        intro number session hsession hforwarding
        exact Or.inl (signalled_closeSessions h.kept.caught hsession hforwarding)
      · cases hnext
  | takeTask =>
      simp only [controlNext] at hnext
      split at hnext
      · split at hnext <;>
          (cases hnext
           exact ⟨hkept, ⟨h.known.signalled, h.known.senders⟩, h.current⟩)
      · cases hnext
  | unlist | stop | joinTask =>
      simp only [controlNext] at hnext
      split at hnext
      · cases hnext
        exact ⟨hkept, ⟨h.known.signalled, h.known.senders⟩, h.current⟩
      · cases hnext

theorem followed_next {s s' : Tasks} {step : Step} (h : Followed s)
    (hintime : registersInTime s step = true) (hnext : next s step = some s') :
    Followed s' := by
  cases step with
  | accept step => exact followed_acceptNext h hintime hnext
  | session number step =>
      simp only [next] at hnext
      split at hnext
      · next hlookup => exact followed_sessionNext h hlookup hnext
      · cases hnext
  | control step => exact followed_controlNext h hnext

/-!
# Runs
-/

/-- No session survives a retarget in any state of a run, exactly when in that run every
client registers in time. -/
theorem sessions_follow_target (config : TcpRuntimeConfig) (allocation : Allocation)
    (steps : List Step) {s : Tasks}
    (h : run next steps (Tasks.bound config allocation) = some s) :
    (forall n between, run next (steps.take n) (Tasks.bound config allocation) = some between ->
      Retargeted between) <->
      run (guarded registersInTime next) steps (Tasks.bound config allocation) = some s := by
  have hkept : forall before step after, Followed before ->
      registersInTime before step = true -> next before step = some after -> Followed after := by
    intro before step after hfollowed hintime hnext
    exact followed_next hfollowed hintime hnext
  apply throughout_iff_guarded hkept
  · intro between hfollowed
    exact hfollowed.retargeted
  · intro before step after hfollowed hlate hnext
    exact late_register hfollowed hlate hnext
  · exact h
  · exact followed_bound config allocation

def relayedAllocation (host : Option String) : Allocation where
  id := "relay"
  protocol := .tcp
  port := 1000
  targetPort := some 80
  host := host
  createdAtMs := 0
  updatedAtMs := 0

/-- A client that registers before the target is taken away. -/
def earlyClient : List Step :=
  [.accept .accept, .accept .readState, .accept .register,
    .control (.findEntry 0 (relayedAllocation none)), .control (.publish 0),
    .control (.closeSessions 0)]

theorem sessions_follow_target_of_early_client :
    (exists s, run next earlyClient
      (Tasks.bound ⟨true, false⟩ (relayedAllocation (some "10.0.0.1"))) = some s) ∧
    forall n between, run next (earlyClient.take n)
      (Tasks.bound ⟨true, false⟩ (relayedAllocation (some "10.0.0.1"))) = some between ->
      Retargeted between :=
  ⟨⟨_, rfl⟩, (sessions_follow_target ⟨true, false⟩ (relayedAllocation (some "10.0.0.1"))
    earlyClient rfl).mpr rfl⟩

/-- A client that has read the target and registers after the update that took it
away has returned. -/
def lateClient : List Step :=
  [.accept .accept, .accept .readState, .control (.findEntry 0 (relayedAllocation none)),
    .control (.publish 0), .control (.closeSessions 0), .accept .register]

theorem late_client_survives_update :
    exists s, run next lateClient
        (Tasks.bound ⟨true, false⟩ (relayedAllocation (some "10.0.0.1"))) = some s ∧
      s.updates = ∅ ∧ ¬ Retargeted s := by
  refine ⟨_, rfl, rfl, ?_⟩
  intro h
  have hsignalled := (h (by decide)).right rfl 0
    ⟨0, ⟨"10.0.0.1", 80⟩, .connecting, 0, 0⟩ rfl rfl
  cases hsignalled

end TcpTasks
end Runtime
end Relayd
