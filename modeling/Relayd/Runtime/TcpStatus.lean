import Relayd.Runtime.TcpDelete

/-!
# Errors that a superseded session reports

An update replaces the state of the entry, and with it the error fields, before it closes
the sessions.  A session that was started for the old target may still fail then and write
its error into the new state: its forwarding and its shutdown channel meet in a `select!`
that takes either, and the session does not look at the state it writes to.
-/

namespace Relayd
namespace Runtime
namespace TcpTasks

open Foundation

/-- The connect or the copy has failed; the error waits for the lock on the state. -/
def SessionPhase.failed : SessionPhase -> Bool
  | .connectFailed _ => true
  | .copyFailed _ => true
  | _ => false

/-- The session may still write an error. -/
def SessionPhase.mayReport : SessionPhase -> Bool
  | .connecting => true
  | .copying => true
  | phase => phase.failed

theorem SessionPhase.mayReport_of_failed {phase : SessionPhase} (h : phase.failed = true) :
    phase.mayReport = true := by
  cases phase <;> first | rfl | cases h

def AcceptPhase.registering : AcceptPhase -> Bool
  | .locking _ _ _ => true
  | _ => false

/-- Every client that has read the state is done with it: none is about to be registered,
and no session has an error left to write. -/
structure Settled (s : Tasks) : Prop where
  accept : s.accept.registering = false
  sessions : forall number session, s.spawned.lookup number = some session ->
    session.phase.mayReport = false

/-!
# What happens after an update
-/

def publishes : Step -> Bool
  | .control (.publish _) => true
  | _ => false

def readsState : Step -> Bool
  | .accept .readState => true
  | _ => false

/-- The session that has been given its number with the state it has just read. -/
def readers (s : Tasks) (step : Step) (s' : Tasks) : List Nat :=
  if readsState step && decide (s'.issued = s.issued + 1) then [s.issued] else []

/-- The session whose connect or copy has just failed. -/
def failures (_ : Tasks) (step : Step) (s' : Tasks) : List Nat :=
  match step with
  | .session number _ =>
      match s'.spawned.lookup number with
      | some session => if session.phase.failed then [number] else []
      | none => []
  | _ => []

def Cleared (state : EntryState) : Prop :=
  state.errorKind = none ∧ state.lastError = none

theorem cleared_entryStateFor (allocation : Allocation) :
    Cleared (entryStateFor allocation) := by
  unfold entryStateFor
  split <;> exact ⟨rfl, rfl⟩

/-- There is no error, or one of the sessions that have read the state has failed. -/
def Blamed (read fails : List Nat) (state : EntryState) : Prop :=
  Cleared state ∨ exists number, number ∈ read ∧ number ∈ fails

/-- Whatever can still report an error has read the new state. -/
structure Accounted (read fails : List Nat) (s : Tasks) : Prop where
  accept : forall number id target, s.accept = .locking number id target -> number ∈ read
  sessions : forall number session, s.spawned.lookup number = some session ->
    session.phase.mayReport = true -> number ∈ read
  failed : forall number session, s.spawned.lookup number = some session ->
    session.phase.failed = true -> number ∈ fails
  blamed : Blamed read fails s.entry.state

theorem Blamed.mono {read fails read' fails' : List Nat} {state : EntryState}
    (h : Blamed read fails state) (hread : read ⊆ read') (hfails : fails ⊆ fails') :
    Blamed read' fails' state := by
  rcases h with hcleared | ⟨number, hnumber, hfailed⟩
  · exact Or.inl hcleared
  · exact Or.inr ⟨number, hread hnumber, hfails hfailed⟩

theorem accounted_of_settled {s : Tasks} (h : Settled s) (hcleared : Cleared s.entry.state) :
    Accounted [] [] s where
  accept := by
    intro number id target haccept
    have hsettled := h.accept
    rw [haccept] at hsettled
    cases hsettled
  sessions := by
    intro number session hlookup hphase
    rw [h.sessions number session hlookup] at hphase
    cases hphase
  failed := by
    intro number session hlookup hphase
    have hsettled := h.sessions number session hlookup
    rw [SessionPhase.mayReport_of_failed hphase] at hsettled
    cases hsettled
  blamed := Or.inl hcleared

/-!
# One step

The accept loop hands a number to a client that reads the state, and spawns its session
under that number.  A session only comes closer to its end.
-/

def AcceptReports (s : Tasks) (step : AcceptStep) (s' : Tasks) : Prop :=
  s'.entry.state = s.entry.state ∧
    ((s'.spawned = s.spawned ∧
        forall number id target, s'.accept = .locking number id target ->
          number ∈ readers s (.accept step) s') ∨
      exists number id target, s.accept = .locking number id target ∧
        s'.accept = .waiting ∧
        s'.spawned = s.spawned.insert number ⟨id, target, .connecting, 0, 0⟩)

theorem acceptReports_of_phase {s : Tasks} {step : AcceptStep} {phase : AcceptPhase}
    (hphase : phase.registering = false) :
    AcceptReports s step { s with accept := phase } := by
  refine ⟨rfl, Or.inl ⟨rfl, ?_⟩⟩
  intro number id target haccept
  have hlocking : phase = .locking number id target := haccept
  rw [hlocking] at hphase
  cases hphase

theorem acceptNext_reports {s s' : Tasks} {step : AcceptStep}
    (h : acceptNext s step = some s') : AcceptReports s step s' := by
  cases step with
  | readState =>
      simp only [acceptNext] at h
      split at h
      · split at h
        · cases h
          exact acceptReports_of_phase rfl
        · cases h
          refine ⟨rfl, Or.inl ⟨rfl, ?_⟩⟩
          intro number id target haccept
          cases haccept
          simp [readers, readsState]
      · cases h
  | register =>
      simp only [acceptNext] at h
      split at h
      · next number id target haccept =>
        cases h
        exact ⟨rfl, Or.inr ⟨number, id, target, haccept, rfl, rfl⟩⟩
      · cases h
  | observeShutdown =>
      simp only [acceptNext] at h
      split at h
      · split at h
        · cases h
          exact acceptReports_of_phase rfl
        · cases h
      · cases h
  | cancel =>
      simp only [acceptNext] at h
      split at h
      · split at h
        · cases h
        · cases h
          exact acceptReports_of_phase rfl
      · cases h
  | _ =>
      simp only [acceptNext] at h
      split at h
      · cases h
        exact acceptReports_of_phase rfl
      · cases h

theorem sessionNext_reports {s s' : Tasks} {number : Nat} {session : Session}
    {step : SessionStep} (h : sessionNext s number session step = some s') :
    s'.accept = s.accept ∧
      (s'.entry.state = s.entry.state ∨ session.phase.failed = true) ∧
      exists after, s'.spawned = s.spawned.insert number after ∧
        (after.phase.mayReport = true -> session.phase.mayReport = true) := by
  cases step <;> simp only [sessionNext] at h <;>
    grind [Tasks.goOn, SessionPhase.mayReport, SessionPhase.failed, SessionPhase.forwarding]

theorem controlNext_reports {s s' : Tasks} {step : ControlStep}
    (h : controlNext s step = some s') :
    s'.entry.state = s.entry.state ∨
      exists allocation, s'.entry.state = entryStateFor allocation := by
  cases step <;> simp only [controlNext] at h <;> grind [Tasks.closeSessions]

section Steps

variable {s s' : Tasks} {read fails : List Nat} (h : Accounted read fails s)

include h

theorem accounted_accept {step : AcceptStep} (hnext : acceptNext s step = some s') :
    Accounted (read ++ readers s (.accept step) s') fails s' := by
  rcases acceptNext_reports hnext with
    ⟨hstate, ⟨hspawned, hlocking⟩ | ⟨number, id, target, haccept, hwaiting, hspawned⟩⟩
  · exact
      { accept := by
          intro number id target haccept
          exact List.mem_append_right _ (hlocking number id target haccept)
        sessions := by
          intro number session hlookup hphase
          rw [hspawned] at hlookup
          exact List.mem_append_left _ (h.sessions number session hlookup hphase)
        failed := by
          intro number session hlookup hphase
          rw [hspawned] at hlookup
          exact h.failed number session hlookup hphase
        blamed := by
          rw [hstate]
          exact h.blamed.mono (List.subset_append_left _ _) (List.Subset.refl _) }
  · -- the new session has the number that its client took with the state
    have hnumber := h.accept number id target haccept
    exact
      { accept := by
          intro other id target hlocking
          rw [hwaiting] at hlocking
          cases hlocking
        sessions := by
          intro other session hlookup hphase
          rw [hspawned, lookup_insert_eq] at hlookup
          split at hlookup
          · next hself =>
            rw [hself]
            exact List.mem_append_left _ hnumber
          · exact List.mem_append_left _ (h.sessions other session hlookup hphase)
        failed := by
          intro other session hlookup hphase
          rw [hspawned, lookup_insert_eq] at hlookup
          split at hlookup
          · cases hlookup
            cases hphase
          · exact h.failed other session hlookup hphase
        blamed := by
          rw [hstate]
          exact h.blamed.mono (List.subset_append_left _ _) (List.Subset.refl _) }

theorem accounted_session {number : Nat} {session : Session} {step : SessionStep}
    (hsession : s.spawned.lookup number = some session)
    (hnext : sessionNext s number session step = some s') :
    Accounted read (fails ++ failures s (.session number step) s') s' := by
  rcases sessionNext_reports hnext with ⟨haccept, hstate, after, hspawned, hphases⟩
  have hself : s'.spawned.lookup number = some after := by
    rw [hspawned]
    exact AList.lookup_insert _
  have hfails : fails ⊆ fails ++ failures s (.session number step) s' :=
    List.subset_append_left _ _
  exact
    { accept := by
        rw [haccept]
        exact h.accept
      sessions := by
        intro other session' hlookup hphase
        by_cases hother : other = number
        · rw [hother, hself] at hlookup
          cases hlookup
          rw [hother]
          exact h.sessions number session hsession (hphases hphase)
        · rw [hspawned, AList.lookup_insert_ne hother] at hlookup
          exact h.sessions other session' hlookup hphase
      failed := by
        intro other session' hlookup hphase
        by_cases hother : other = number
        · rw [hother, hself] at hlookup
          cases hlookup
          have hfailed : failures s (.session number step) s' = [number] := by
            simp only [failures, hself, hphase, if_true]
          rw [hother, hfailed]
          exact List.mem_append_right _ List.mem_cons_self
        · rw [hspawned, AList.lookup_insert_ne hother] at hlookup
          exact hfails (h.failed other session' hlookup hphase)
      blamed := by
        rcases hstate with hsame | hfailed
        · rw [hsame]
          exact h.blamed.mono (List.Subset.refl _) hfails
        · have hread := h.sessions number session hsession
            (SessionPhase.mayReport_of_failed hfailed)
          exact Or.inr ⟨number, hread, hfails (h.failed number session hsession hfailed)⟩ }

theorem accounted_control {step : ControlStep} (hnext : controlNext s step = some s') :
    Accounted read fails s' := by
  rcases controlNext_keeps hnext with ⟨haccept, hspawned⟩
  exact
    { accept := by
        rw [haccept]
        exact h.accept
      sessions := by
        rw [hspawned]
        exact h.sessions
      failed := by
        rw [hspawned]
        exact h.failed
      blamed := by
        rcases controlNext_reports hnext with hsame | ⟨allocation, hnew⟩
        · rw [hsame]
          exact h.blamed
        · rw [hnew]
          exact Or.inl (cleared_entryStateFor allocation) }

theorem accounted_next {step : Step} (hnext : next s step = some s') :
    Accounted (read ++ readers s step s') (fails ++ failures s step s') s' := by
  cases step with
  | accept step =>
      have hfails : failures s (.accept step) s' = [] := rfl
      rw [hfails, List.append_nil]
      exact accounted_accept h hnext
  | session number step =>
      have hread : readers s (.session number step) s' = [] := rfl
      rw [hread, List.append_nil]
      simp only [next] at hnext
      split at hnext
      · next session hsession => exact accounted_session h hsession hnext
      · cases hnext
  | control step =>
      have hread : readers s (.control step) s' = [] := rfl
      have hfails : failures s (.control step) s' = [] := rfl
      rw [hread, hfails, List.append_nil, List.append_nil]
      exact accounted_control h hnext

end Steps

theorem accounted_run {s s' : Tasks} {read fails : List Nat} {labels : List Step}
    (h : Accounted read fails s) (hrun : run next labels s = some s') :
    Accounted (read ++ observed next readers labels s)
      (fails ++ observed next failures labels s) s' := by
  induction labels generalizing s read fails with
  | nil =>
      cases hrun
      simpa only [observed, List.append_nil] using h
  | cons step rest ih =>
      rcases run_cons.mp hrun with ⟨between, hnext, hrest⟩
      have hafter := ih (accounted_next h hnext) hrest
      simpa only [observed, hnext, List.append_assoc] using hafter

/-!
# A session that is left

It fails and writes its error, and no client reads the state meanwhile.
-/

/-- The steps of one session, and no others. -/
def OfSession (number : Nat) (labels : List Step) : Prop :=
  forall step, step ∈ labels -> exists sessionStep, step = .session number sessionStep

/-- Both ways to copy end with this error. -/
theorem copied_error (session : Session) (entry : ListenerEntry) (message : String) :
    session.copied entry (.ok (some ⟨.other, message⟩, none)) (.error ⟨.other, message⟩) =
      .error ⟨.other, message⟩ := by
  unfold Session.copied copyStreams
  split
  · rfl
  · split <;> rfl

theorem next_recordError {s : Tasks} {number : Nat} {session : Session}
    (hsession : s.spawned.lookup number = some session)
    (hfailed : session.phase.failed = true) :
    exists s', next s (.session number .recordError) = some s' ∧
      s'.entry.state.errorKind = some .applyFailed := by
  simp only [next, hsession, sessionNext]
  cases hphase : session.phase with
  | connectFailed error => exact ⟨_, rfl, rfl⟩
  | copyFailed error => exact ⟨_, rfl, rfl⟩
  | _ =>
      rw [hphase] at hfailed
      cases hfailed

theorem next_fails {s : Tasks} {number : Nat} {session : Session}
    (hsession : s.spawned.lookup number = some session)
    (hphase : session.phase = .connecting ∨ session.phase = .copying) :
    exists step s' after, next s (.session number step) = some s' ∧
      s'.spawned.lookup number = some after ∧ after.phase.failed = true := by
  rcases hphase with hphase | hphase
  · refine ⟨.connectFails ⟨.other, "connection refused"⟩,
      s.goOn number session (.connectFailed ⟨.other, "connection refused"⟩), _, ?_,
      AList.lookup_insert _, rfl⟩
    simp only [next, hsession, sessionNext, hphase]
  · refine ⟨.copyEnds (.ok (some ⟨.other, "timed out"⟩, none)) (.error ⟨.other, "timed out"⟩),
      s.goOn number session (.copyFailed ⟨.other, "timed out"⟩), _, ?_,
      AList.lookup_insert _, rfl⟩
    simp only [next, hsession, sessionNext, hphase, copied_error]

theorem run_reports {s : Tasks} {number : Nat} {session : Session}
    (hsession : s.spawned.lookup number = some session)
    (hphase : session.phase.mayReport = true) :
    exists labels s', run next labels s = some s' ∧ OfSession number labels ∧
      s'.entry.state.errorKind = some .applyFailed := by
  by_cases hfailed : session.phase.failed = true
  · rcases next_recordError hsession hfailed with ⟨s', hnext, hkind⟩
    refine ⟨[.session number .recordError], s', run_cons.mpr ⟨s', hnext, rfl⟩, ?_, hkind⟩
    intro step hstep
    exact ⟨.recordError, List.mem_singleton.mp hstep⟩
  · have hwaiting : session.phase = .connecting ∨ session.phase = .copying := by
      revert hphase hfailed
      cases session.phase <;> simp [SessionPhase.mayReport, SessionPhase.failed]
    rcases next_fails hsession hwaiting with ⟨fails, between, after, hfails, hafter, hfailed⟩
    rcases next_recordError hafter hfailed with ⟨s', hnext, hkind⟩
    refine ⟨[.session number fails, .session number .recordError], s',
      run_cons.mpr ⟨between, hfails, run_cons.mpr ⟨s', hnext, rfl⟩⟩, ?_, hkind⟩
    intro step hstep
    rcases List.mem_cons.mp hstep with hfirst | hrest
    · exact ⟨fails, hfirst⟩
    · exact ⟨.recordError, List.mem_singleton.mp hrest⟩

theorem next_register {s : Tasks} (h : s.accept.registering = true) :
    exists s' number session, next s (.accept .register) = some s' ∧
      s'.spawned.lookup number = some session ∧ session.phase.mayReport = true := by
  simp only [next, acceptNext]
  cases hphase : s.accept with
  | locking number id target =>
      exact ⟨_, number, _, rfl, AList.lookup_insert _, rfl⟩
  | _ =>
      rw [hphase] at h
      cases h

/-- From a state that is not settled an error is reached, though no client reads the state
and no update writes it. -/
theorem run_of_not_settled {s : Tasks} (h : ¬ Settled s) :
    exists labels s', run next labels s = some s' ∧
      (forall step, step ∈ labels -> publishes step = false ∧ readsState step = false) ∧
      s'.entry.state.errorKind = some .applyFailed := by
  by_cases haccept : s.accept.registering = true
  · rcases next_register haccept with ⟨between, number, session, hnext, hsession, hphase⟩
    rcases run_reports hsession hphase with ⟨labels, s', hrun, hlabels, hkind⟩
    refine ⟨.accept .register :: labels, s', run_cons.mpr ⟨between, hnext, hrun⟩, ?_, hkind⟩
    intro step hstep
    rcases List.mem_cons.mp hstep with rfl | hrest
    · exact ⟨rfl, rfl⟩
    · rcases hlabels step hrest with ⟨sessionStep, rfl⟩
      exact ⟨rfl, rfl⟩
  · have hleft : exists number session, s.spawned.lookup number = some session ∧
        session.phase.mayReport = true := by
      by_contra hnone
      push Not at hnone
      apply h
      constructor
      · exact Bool.eq_false_of_not_eq_true haccept
      · intro number session hlookup
        exact Bool.eq_false_of_not_eq_true (hnone number session hlookup)
    rcases hleft with ⟨number, session, hsession, hphase⟩
    rcases run_reports hsession hphase with ⟨labels, s', hrun, hlabels, hkind⟩
    refine ⟨labels, s', hrun, ?_, hkind⟩
    intro step hstep
    rcases hlabels step hstep with ⟨sessionStep, rfl⟩
    exact ⟨rfl, rfl⟩

theorem observed_readers_eq_nil {labels : List Step} {s : Tasks}
    (h : forall step, step ∈ labels -> readsState step = false) :
    observed next readers labels s = [] := by
  induction labels generalizing s with
  | nil => rfl
  | cons step rest ih =>
      simp only [observed]
      split
      · rfl
      · next between _ =>
        have hrest := ih (s := between) (fun step hstep => h step (List.mem_cons_of_mem _ hstep))
        have hread : readers s step between = [] := by
          unfold readers
          rw [h step List.mem_cons_self, Bool.false_and]
          rfl
        rw [hread, hrest]
        rfl

/-!
# The status of a binding
-/

theorem publish_effect {s s' : Tasks} {update : Nat}
    (h : next s (.control (.publish update)) = some s') :
    Cleared s'.entry.state ∧ (Settled s' <-> Settled s) := by
  have hcontrol : controlNext s (.publish update) = some s' := h
  rcases controlNext_keeps hcontrol with ⟨haccept, hspawned⟩
  constructor
  · simp only [controlNext] at hcontrol
    split at hcontrol
    · cases hcontrol
      exact cleared_entryStateFor _
    · cases hcontrol
  · constructor
    · intro hsettled
      constructor
      · rw [<- haccept]
        exact hsettled.accept
      · rw [<- hspawned]
        exact hsettled.sessions
    · intro hsettled
      constructor
      · rw [haccept]
        exact hsettled.accept
      · rw [hspawned]
        exact hsettled.sessions

/-- An update has written its state.  Until the next update does, and whatever happens in
between, the error fields stay empty until a session that has read this state fails: this
is so exactly if no client of an earlier state had its error left to report. -/
theorem status_follows_binding_iff (before after : Tasks) (update : Nat)
    (hpublish : next before (.control (.publish update)) = some after) :
    (forall labels s, run next labels after = some s ->
      (forall step, step ∈ labels -> publishes step = false) ->
      Blamed (observed next readers labels after) (observed next failures labels after)
        s.entry.state) <-> Settled before := by
  rcases publish_effect hpublish with ⟨hcleared, hsettled⟩
  rw [<- hsettled]
  constructor
  · intro hblamed
    by_contra hleft
    rcases run_of_not_settled hleft with ⟨labels, s, hrun, hlabels, hkind⟩
    have hread := observed_readers_eq_nil (s := after) (fun step hstep => (hlabels step hstep).right)
    rcases hblamed labels s hrun (fun step hstep => (hlabels step hstep).left) with
      hnone | ⟨number, hnumber, _⟩
    · rw [hnone.left] at hkind
      cases hkind
    · rw [hread] at hnumber
      cases hnumber
  · intro hsettled labels s hrun _
    exact (accounted_run (accounted_of_settled hsettled hcleared) hrun).blamed

/-!
# One session and one update

A client is accepted, its session cannot connect, and the binding gets another host.
-/

def refused : IoError := ⟨.other, "Connection refused (os error 111)"⟩

def rehosted : Allocation := { forwardedAllocation with host := some "10.0.0.2" }

def refusedClient : List Step :=
  [.accept .accept, .accept .readState, .accept .register,
    .session 0 (.connectFails refused)]

/-- The session has reported its error before the update comes. -/
def reportedEarly : List Step :=
  refusedClient ++ [.session 0 .recordError, .control (.findEntry 0 rehosted)]

theorem status_after_early_report :
    exists before after,
      run next reportedEarly (Tasks.bound ⟨true, false⟩ forwardedAllocation) = some before ∧
      before.entry.state.errorKind = some .applyFailed ∧
      next before (.control (.publish 0)) = some after ∧
      forall labels s, run next labels after = some s ->
        (forall step, step ∈ labels -> publishes step = false) ->
        Blamed (observed next readers labels after) (observed next failures labels after)
          s.entry.state := by
  have hbefore : exists before after,
      run next reportedEarly (Tasks.bound ⟨true, false⟩ forwardedAllocation) = some before ∧
      before.entry.state.errorKind = some .applyFailed ∧
      next before (.control (.publish 0)) = some after ∧ Settled before := by
    refine ⟨_, _, rfl, rfl, rfl, rfl, ?_⟩
    intro number session hlookup
    cases number with
    | zero =>
        cases hlookup
        rfl
    | succ number => cases hlookup
  rcases hbefore with ⟨before, after, hrun, hkind, hpublish, hsettled⟩
  exact ⟨before, after, hrun, hkind, hpublish,
    (status_follows_binding_iff before after 0 hpublish).mpr hsettled⟩

/-- The session waits for the lock while the update writes its state and closes the
sessions; its error then stands beside the new target. -/
theorem old_session_pollutes_status :
    exists before after s,
      run next (refusedClient ++ [.control (.findEntry 0 rehosted)])
        (Tasks.bound ⟨true, false⟩ forwardedAllocation) = some before ∧
      next before (.control (.publish 0)) = some after ∧
      run next [.control (.closeSessions 0), .session 0 .recordError] after = some s ∧
      s.entry.state.effectiveHost = some "10.0.0.2" ∧
      s.entry.state.errorKind = some .applyFailed ∧
      s.entry.state.lastError = some "Connection refused (os error 111)" ∧
      ¬ Blamed
        (observed next readers [.control (.closeSessions 0), .session 0 .recordError] after)
        (observed next failures [.control (.closeSessions 0), .session 0 .recordError] after)
        s.entry.state := by
  refine ⟨_, _, _, rfl, rfl, rfl, rfl, rfl, rfl, ?_⟩
  rintro (hcleared | ⟨number, hread, _⟩)
  · cases hcleared.left
  · cases hread

end TcpTasks
end Runtime
end Relayd
