import Relayd.Runtime.TcpTasks
import Relayd.Runtime.UdpTasks

/-!
# Which listeners are served

A tcp listener is served by its accept loop and a udp listener by its receive loop.
Both loops leave at the first error that the socket reports, and neither of them says
so in the state that a snapshot is made from.  As long as nobody stops the listener,
this is the only way for its loop to end.
-/

namespace Relayd
namespace Runtime

open Foundation

/-- The listener is reported as present, and nothing is said to be wrong with it. -/
def Healthy (observed : ObservedState) : Prop :=
  (observed.runtimeStatus = .active ∨ observed.runtimeStatus = .rejectingNoHost) ∧
    observed.errorKind = none

/-!
# The accept loop
-/

namespace TcpTasks

/-- While the entry is listed nothing but a failed accept has ended the loop. -/
def Serving (past : List Step) (s : Tasks) : Prop :=
  s.deletion = .idle ->
    s.entry.shutdown = false ∧ s.aborted = false ∧
      (s.accept = .ended <-> Step.accept .acceptFailed ∈ past)

theorem serving_bound (config : TcpRuntimeConfig) (allocation : Allocation) :
    Serving [] (Tasks.bound config allocation) := by
  intro _
  refine ⟨rfl, rfl, ?_⟩
  constructor
  · intro hended
    cases hended
  · intro hfailed
    cases hfailed

theorem acceptNext_keeps {s s' : Tasks} {step : AcceptStep}
    (h : acceptNext s step = some s') :
    s'.deletion = s.deletion ∧ s'.entry.shutdown = s.entry.shutdown ∧
      s'.aborted = s.aborted := by
  cases step <;> simp only [acceptNext] at h <;> grind

/-- The loop ends by an error, or because it was told to stop. -/
theorem acceptNext_ended {s s' : Tasks} {step : AcceptStep}
    (h : acceptNext s step = some s') (hshutdown : s.entry.shutdown = false)
    (haborted : s.aborted = false) :
    s'.accept = .ended <-> s.accept = .ended ∨ step = .acceptFailed := by
  cases step <;> simp only [acceptNext] at h <;> grind

theorem SessionEffect.keeps {s s' : Tasks} {number : Nat} {session : Session}
    (h : SessionEffect s number session s') :
    s'.deletion = s.deletion ∧ s'.entry.shutdown = s.entry.shutdown ∧
      s'.aborted = s.aborted ∧ s'.accept = s.accept := by
  cases h <;> exact ⟨rfl, rfl, rfl, rfl⟩

theorem serving_next {past : List Step} {s s' : Tasks} {step : Step} (h : Serving past s)
    (hnext : next s step = some s') : Serving (past ++ [step]) s' := by
  intro hidle
  cases step with
  | accept step =>
      rcases acceptNext_keeps hnext with ⟨hdeletion, hshutdown, haborted⟩
      rcases h (hdeletion.symm.trans hidle) with ⟨hopen, hrunning, hended⟩
      refine ⟨hshutdown.trans hopen, haborted.trans hrunning, ?_⟩
      rw [acceptNext_ended hnext hopen hrunning, hended, List.mem_append,
        List.mem_singleton, Step.accept.injEq, eq_comm (a := step)]
  | session number step =>
      simp only [next] at hnext
      split at hnext
      · rcases (sessionNext_effect hnext).keeps with ⟨hdeletion, hshutdown, haborted, haccept⟩
        rcases h (hdeletion.symm.trans hidle) with ⟨hopen, hrunning, hended⟩
        refine ⟨hshutdown.trans hopen, haborted.trans hrunning, ?_⟩
        rw [haccept, hended]
        simp
      · cases hnext
  | control step =>
      rcases controlNext_listed hnext hidle with ⟨hlisted, hshutdown, haborted⟩
      rcases h hlisted with ⟨hopen, hrunning, hended⟩
      refine ⟨hshutdown.trans hopen, haborted.trans hrunning, ?_⟩
      rw [(controlNext_keeps hnext).1, hended]
      simp

theorem serving_run {config : TcpRuntimeConfig} {allocation : Allocation}
    {steps : List Step} {s : Tasks}
    (hrun : run next steps (Tasks.bound config allocation) = some s) : Serving steps s :=
  run_history hrun (serving_bound config allocation)
    (fun _ _ _ _ hserving hnext => serving_next hserving hnext)

end TcpTasks

/-!
# The receive loop
-/

namespace Udp

/-- A deletion has begun; an update has not. -/
def ControlPhase.deleting : ControlPhase -> Bool
  | .idle => false
  | .published => false
  | .closing deleting _ => deleting
  | _ => true

theorem advance_keeps {awaits : Bool} {s s' : Listener} {teardown : Teardown}
    {rest : Option Teardown} (h : s.advance awaits teardown = some (s', rest)) :
    s'.receive = s.receive ∧ s'.control = s.control := by
  simp only [Listener.advance] at h
  split at h
  · split at h
    · cases h
      exact ⟨rfl, rfl⟩
    · cases h
      exact ⟨rfl, rfl⟩
  · cases h
    exact ⟨rfl, rfl⟩
  · split at h
    · cases h
      exact ⟨rfl, rfl⟩
    · cases h
      exact ⟨rfl, rfl⟩
  · split at h
    · cases h
      exact ⟨rfl, rfl⟩
    · cases h

/-- While the entry is listed nothing but a failed receive has ended the loop. -/
def Serving (past : List Step) (s : Listener) : Prop :=
  s.control.deleting = false -> (s.receive = .ended <-> Step.receiveFailed ∈ past)

theorem receive_next {s s' : Listener} {step : Step} (h : next s step = some s')
    (hlisted : s'.control.deleting = false) :
    s.control.deleting = false ∧
      (s'.receive = .ended <-> s.receive = .ended ∨ step = .receiveFailed) := by
  cases step with
  -- The receive loop, which is at none of these steps once it has ended.
  | readState | lookupSession | createFailed | insertSession | spawnReplyLoop | storeHandle
  | loadGeneration | checkSession | sendDatagram | sendFailed | endPass | receiveFailed =>
      simp only [next, Listener.readState, Listener.lookupSession, Listener.createFailed,
        Listener.insertSession, Listener.spawnReplyLoop, Listener.storeHandle,
        Listener.loadGeneration, Listener.checkSession, Listener.sendDatagram,
        Listener.sendFailed, Listener.endPass, Listener.receiveFailed] at h
      grind [Listener.setReply]
  | replaceSession =>
      rcases Listener.replaceSession_cases h with ⟨_, _, _, hbefore, hrest⟩
      rcases hrest with ⟨_, _, hadvance, rfl⟩ | ⟨_, hadvance, rfl⟩
      · grind [advance_keeps hadvance]
      · grind [advance_keeps hadvance]
  | receiveRemove =>
      rcases Listener.receiveRemove_cases h with ⟨_, _, hbefore, hrest⟩
      rcases hrest with ⟨_, _, hadvance, rfl⟩ | ⟨_, hadvance, rfl⟩
      · grind [advance_keeps hadvance]
      · grind [advance_keeps hadvance]
  -- The other loops, which leave it alone.
  | collectSessions | expireSession =>
      simp only [next, Listener.collectSessions, Listener.expireSession] at h
      grind
  | cleanupRemove =>
      rcases Listener.cleanupRemove_cases h with ⟨_, _, hbefore, hrest⟩
      rcases hrest with ⟨_, _, hadvance, rfl⟩ | ⟨_, hadvance, rfl⟩
      · grind [advance_keeps hadvance]
      · grind [advance_keeps hadvance]
  | checkClosed | receiveReply | receiveReplyFailed | checkCurrent | sendReply
  | sendReplyFailed | cancel =>
      simp only [next, Listener.checkClosed, Listener.receiveReply,
        Listener.receiveReplyFailed, Listener.checkCurrent, Listener.sendReply,
        Listener.sendReplyFailed, Listener.cancel] at h
      grind [Listener.setReply, Listener.endReply]
  | replyRemove =>
      rcases Listener.replyRemove_cases h with ⟨_, _, hbefore, hrest⟩
      rcases hrest with ⟨_, _, hadvance, rfl⟩ | ⟨_, hadvance, rfl⟩
      · grind [advance_keeps hadvance, Listener.setReply]
      · grind [advance_keeps hadvance, Listener.endReply]
  -- Updates and the deletion; a deletion that has begun goes on to its end.
  | publish | stop | receiveStopped | cleanupStopped | drain | finish =>
      simp only [next, Listener.publish, Listener.stop, Listener.receiveStopped,
        Listener.cleanupStopped, Listener.drain, Listener.finish] at h
      grind [ControlPhase.deleting, Listener.drainInto]
  | closeSession =>
      rcases Listener.closeSession_cases h with ⟨_, _, _, hclosing, hrest⟩
      rcases hrest with ⟨_, _, hadvance, rfl⟩ | ⟨_, hadvance, rfl⟩
      · rw [hclosing, (advance_keeps hadvance).1]
        exact ⟨hlisted, by simp⟩
      · rw [hclosing, (advance_keeps hadvance).1]
        exact ⟨hlisted, by simp⟩

theorem serving_bound (allocation : Allocation) (maxSessions : Nat) :
    Serving [] (Listener.bound allocation maxSessions) := by
  intro _
  constructor
  · intro hended
    cases hended
  · intro hfailed
    cases hfailed

theorem serving_next {past : List Step} {s s' : Listener} {step : Step}
    (h : Serving past s) (hnext : next s step = some s') : Serving (past ++ [step]) s' := by
  intro hlisted
  rcases receive_next hnext hlisted with ⟨hbefore, hended⟩
  rw [hended, h hbefore, List.mem_append, List.mem_singleton, eq_comm (a := step)]

theorem serving_run {allocation : Allocation} {maxSessions : Nat} {steps : List Step}
    {s : Listener} (hrun : run next steps (Listener.bound allocation maxSessions) = some s) :
    Serving steps s :=
  run_history hrun (serving_bound allocation maxSessions)
    (fun _ _ _ _ hserving hnext => serving_next hserving hnext)

end Udp

/-!
# Both
-/

/-- A listener that is reported as present is served exactly as long as its socket has
reported no error. -/
theorem listed_served_iff (config : TcpTasks.TcpRuntimeConfig) (allocation : Allocation)
    (maxSessions : Nat) (tcpSteps : List TcpTasks.Step) (udpSteps : List Udp.Step)
    (tcp : TcpTasks.Tasks) (udp : Udp.Listener)
    (htcp : run TcpTasks.next tcpSteps (TcpTasks.Tasks.bound config allocation) = some tcp)
    (htcpListed : tcp.deletion = .idle) (_ : Healthy tcp.entry.state.observed)
    (hudp : run Udp.next udpSteps (Udp.Listener.bound allocation maxSessions) = some udp)
    (hudpListed : udp.control.deleting = false) (_ : Healthy udp.entry.state.observed) :
    (tcp.accept ≠ .ended <-> TcpTasks.Step.accept .acceptFailed ∉ tcpSteps) ∧
      (udp.receive ≠ .ended <-> Udp.Step.receiveFailed ∉ udpSteps) := by
  constructor
  · exact not_congr (TcpTasks.serving_run htcp htcpListed).2.2
  · exact not_congr (Udp.serving_run hudp hudpListed)

/-- A client comes, and an update takes the target away. -/
def tcpUpdated : List TcpTasks.Step :=
  [.accept .accept, .accept .readState, .accept .register,
    .control (.findEntry 0 (Udp.forwardedAllocation none)), .control (.publish 0),
    .control (.closeSessions 0)]

def udpUpdated : List Udp.Step :=
  [.publish (Udp.forwardedAllocation none), .drain, .finish, .readState]

theorem listed_served_after_update :
    exists tcp udp, run TcpTasks.next tcpUpdated
        (TcpTasks.Tasks.bound ⟨true, false⟩ (Udp.forwardedAllocation (some "10.0.0.1"))) =
          some tcp ∧
      run Udp.next udpUpdated
        (Udp.Listener.bound (Udp.forwardedAllocation (some "10.0.0.1")) 4) = some udp ∧
      Healthy tcp.entry.state.observed ∧ tcp.accept ≠ .ended ∧
      Healthy udp.entry.state.observed ∧ udp.receive ≠ .ended := by
  have hhealthy : Healthy (entryStateFor (Udp.forwardedAllocation none)).observed :=
    ⟨Or.inr rfl, rfl⟩
  have hiff := listed_served_iff ⟨true, false⟩ (Udp.forwardedAllocation (some "10.0.0.1")) 4
    tcpUpdated udpUpdated _ _ rfl rfl hhealthy rfl rfl hhealthy
  refine ⟨_, _, rfl, rfl, hhealthy, ?_, hhealthy, ?_⟩
  · exact hiff.left.mpr (by simp [tcpUpdated])
  · exact hiff.right.mpr (by simp [udpUpdated])

/-- The first accept and the first receive fail; both listeners are still reported as
forwarding. -/
theorem failed_socket_reported_active :
    (exists s, run TcpTasks.next [.accept .acceptFailed]
        (TcpTasks.Tasks.bound ⟨true, false⟩ (Udp.forwardedAllocation (some "10.0.0.1"))) =
          some s ∧
      s.deletion = .idle ∧ Healthy s.entry.state.observed ∧
      s.entry.state.observed.runtimeStatus = .active ∧ s.accept = .ended) ∧
    (exists s, run Udp.next [.receiveFailed]
        (Udp.Listener.bound (Udp.forwardedAllocation (some "10.0.0.1")) 4) = some s ∧
      s.control.deleting = false ∧ Healthy s.entry.state.observed ∧
      s.entry.state.observed.runtimeStatus = .active ∧ s.receive = .ended) := by
  constructor
  · exact ⟨_, rfl, rfl, ⟨Or.inl rfl, rfl⟩, rfl, rfl⟩
  · exact ⟨_, rfl, rfl, ⟨Or.inl rfl, rfl⟩, rfl, rfl⟩

end Runtime
end Relayd
