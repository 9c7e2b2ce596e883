import Relayd.Foundation.KeyedMap
import Relayd.Foundation.Transition
import Relayd.Runtime.Listener

/-!
# The tasks of a tcp listener

A listener entry with its accept loop, the sessions it has spawned, the updates that
are under way and its deletion, each of them at one of its awaits.  Every step runs one
task from an await to the next.  The session table holds the sending end of a session's
shutdown channel; a session sees its channel resolved when something is sent and also
when the sending end is dropped.

The guard on the state that a session holds while it shuts its client down is left
out: it only delays other tasks.
-/

namespace Relayd
namespace Runtime

open Foundation

namespace TcpTasks

/-- The kinds of i/o error that the source tells apart. -/
inductive IoErrorKind where
  | brokenPipe
  | connectionReset
  | notConnected
  | writeZero
  | other
deriving DecidableEq, Repr

structure IoError where
  kind : IoErrorKind
  message : String
deriving DecidableEq, Repr

structure SpliceCopyResult where
  fromClient : UInt64
  fromUpstream : UInt64
  clientError : Option IoError
  upstreamError : Option IoError
deriving DecidableEq, Repr

/-- The table of senders gives the number of the session that each of them belongs
to. -/
structure ListenerEntry where
  state : EntryState
  rx : UInt64
  tx : UInt64
  shutdown : Bool
  acceptTask : Bool
  sessions : KeyMap UInt64 Nat
  nextSessionId : UInt64
  tcpSpliceEnabled : Bool
  forceTcpCopyFallback : Bool

/-- Where the accept loop waits.  Sessions are numbered in the order in which their ids
are taken; the id is the number in 64 bits. -/
inductive AcceptPhase where
  | waiting
  | reading
  | discarding
  | shuttingDown
  | locking (number : Nat) (id : UInt64) (target : Target)
  | ended
deriving DecidableEq, Repr

inductive Ending where
  | clean
  | failed
  | interrupted
deriving DecidableEq, Repr

inductive SessionPhase where
  | connecting
  | copying
  | connectFailed (error : IoError)
  | copyFailed (error : IoError)
  | shuttingDown
  | removing (ending : Ending)
  | finished (ending : Ending)
deriving DecidableEq, Repr

/-- The byte counts are what has been copied so far, counted or not. -/
structure Session where
  id : UInt64
  target : Target
  phase : SessionPhase
  fromClient : Nat
  fromUpstream : Nat
deriving DecidableEq, Repr

inductive UpdatePhase where
  | found (allocation : Allocation)
  | published
deriving DecidableEq, Repr

inductive DeletionPhase where
  | idle
  | unlisted
  | stopping
  | awaiting
  | closing
  | returned
deriving DecidableEq, Repr

structure Tasks where
  entry : ListenerEntry
  accept : AcceptPhase
  aborted : Bool
  issued : Nat
  spawned : KeyMap Nat Session
  signalled : List Nat
  updates : KeyMap Nat UpdatePhase
  deletion : DeletionPhase

structure TcpRuntimeConfig where
  tcpSpliceEnabled : Bool
  forceTcpCopyFallback : Bool
deriving DecidableEq, Repr

def Tasks.bound (config : TcpRuntimeConfig) (allocation : Allocation) : Tasks where
  entry :=
    { state := entryStateFor allocation
      rx := 0
      tx := 0
      shutdown := false
      acceptTask := true
      sessions := ∅
      nextSessionId := 0
      tcpSpliceEnabled := config.tcpSpliceEnabled
      forceTcpCopyFallback := config.forceTcpCopyFallback }
  accept := .waiting
  aborted := false
  issued := 0
  spawned := ∅
  signalled := []
  updates := ∅
  deletion := .idle

/-!
# The accept loop
-/

inductive AcceptStep where
  | observeShutdown
  | accept
  | acceptFailed
  | readState
  | discard
  | shutdownClient
  | register
  | cancel
deriving DecidableEq, Repr

def acceptNext (s : Tasks) : AcceptStep -> Option Tasks
  | .observeShutdown =>
      match s.accept with
      | .waiting => if s.entry.shutdown then some { s with accept := .ended } else none
      | _ => none
  | .accept =>
      match s.accept with
      | .waiting => some { s with accept := .reading }
      | _ => none
  | .acceptFailed =>
      match s.accept with
      | .waiting => some { s with accept := .ended }
      | _ => none
  | .readState =>
      match s.accept with
      | .reading =>
          match s.entry.state.target with
          | none => some { s with accept := .discarding }
          | some target =>
              some
                { s with
                  entry := { s.entry with nextSessionId := s.entry.nextSessionId + 1 }
                  issued := s.issued + 1
                  accept := .locking s.issued s.entry.nextSessionId target }
      | _ => none
  | .discard =>
      match s.accept with
      | .discarding => some { s with accept := .shuttingDown }
      | _ => none
  | .shutdownClient =>
      match s.accept with
      | .shuttingDown => some { s with accept := .waiting }
      | _ => none
  -- No await lies between the insertion and the spawn.  A sender that was in the table
  -- under the same id is dropped.
  | .register =>
      match s.accept with
      | .locking number id target =>
          some
            { s with
              entry := { s.entry with sessions := s.entry.sessions.insert id number }
              signalled := (s.entry.sessions.lookup id).toList ++ s.signalled
              spawned := s.spawned.insert number ⟨id, target, .connecting, 0, 0⟩
              accept := .waiting }
      | _ => none
  -- An aborted task stops at whichever await it has reached.
  | .cancel =>
      if s.aborted then
        match s.accept with
        | .ended => none
        | _ => some { s with accept := .ended }
      else none

/-!
# Sessions
-/

def spliceErrorIsCleanClose (error : IoError) : Bool :=
  match error.kind with
  | .brokenPipe => true
  | .connectionReset => true
  | .notConnected => true
  | .writeZero => true
  | .other => false

/-- What a session is told, given how the two ways to copy end. -/
def copyStreams (entry : ListenerEntry) (splice : Except IoError SpliceCopyResult)
    (buffered : Except IoError (UInt64 × UInt64)) : Except IoError (UInt64 × UInt64) :=
  if entry.forceTcpCopyFallback then buffered
  else if !entry.tcpSpliceEnabled then buffered
  else
    match splice with
    | .ok result =>
        match [result.clientError, result.upstreamError].reduceOption.find?
            (fun error => !spliceErrorIsCleanClose error) with
        | some error => .error error
        | none => .ok (result.fromClient, result.fromUpstream)
    -- The pipes could not be made and nothing has been copied yet.
    | .error _ => buffered

inductive SessionStep where
  | connect
  | connectFails (error : IoError)
  | copy (fromClient fromUpstream : Nat)
  | copyEnds (splice : Except IoError (Option IoError × Option IoError))
      (buffered : Except IoError Unit)
  | recordError
  | shutdownClient
  | observeShutdown
  | removeSessionHandle

/-- The `select!` of a session is still waiting for both of its branches. -/
def SessionPhase.forwarding : SessionPhase -> Bool
  | .removing _ => false
  | .finished _ => false
  | _ => true

def Tasks.goOn (s : Tasks) (number : Nat) (session : Session) (phase : SessionPhase) :
    Tasks :=
  { s with spawned := s.spawned.insert number { session with phase := phase } }

def ListenerEntry.recordError (entry : ListenerEntry) (error : IoError) : ListenerEntry :=
  { entry with
    state :=
      { entry.state with
        errorKind := some .applyFailed
        lastError := some error.message } }

/-- Both ways to copy report what they have copied. -/
def Session.copied (session : Session) (entry : ListenerEntry)
    (splice : Except IoError (Option IoError × Option IoError))
    (buffered : Except IoError Unit) : Except IoError (UInt64 × UInt64) :=
  copyStreams entry
    (splice.map (fun errors =>
      ⟨.ofNat session.fromClient, .ofNat session.fromUpstream, errors.1, errors.2⟩))
    (buffered.map (fun _ => (.ofNat session.fromClient, .ofNat session.fromUpstream)))

def sessionNext (s : Tasks) (number : Nat) (session : Session) :
    SessionStep -> Option Tasks
  | .connect =>
      match session.phase with
      | .connecting => some (s.goOn number session .copying)
      | _ => none
  | .connectFails error =>
      match session.phase with
      | .connecting => some (s.goOn number session (.connectFailed error))
      | _ => none
  | .copy fromClient fromUpstream =>
      match session.phase with
      | .copying =>
          some
            { s with
              spawned := s.spawned.insert number
                { session with
                  fromClient := session.fromClient + fromClient
                  fromUpstream := session.fromUpstream + fromUpstream } }
      | _ => none
  | .copyEnds splice buffered =>
      match session.phase with
      | .copying =>
          match session.copied s.entry splice buffered with
          | .ok (fromClient, fromUpstream) =>
              some
                { s.goOn number session (.removing .clean) with
                  entry :=
                    { s.entry with
                      tx := s.entry.tx + fromClient
                      rx := s.entry.rx + fromUpstream } }
          | .error error => some (s.goOn number session (.copyFailed error))
      | _ => none
  | .recordError =>
      match session.phase with
      | .connectFailed error =>
          some { s.goOn number session .shuttingDown with entry := s.entry.recordError error }
      | .copyFailed error =>
          some
            { s.goOn number session (.removing .failed) with
              entry := s.entry.recordError error }
      | _ => none
  | .shutdownClient =>
      match session.phase with
      | .shuttingDown => some (s.goOn number session (.removing .failed))
      | _ => none
  | .observeShutdown =>
      if session.phase.forwarding && decide (number ∈ s.signalled) then
        some (s.goOn number session (.removing .interrupted))
      else none
  | .removeSessionHandle =>
      match session.phase with
      | .removing ending =>
          some
            { s.goOn number session (.finished ending) with
              entry := { s.entry with sessions := s.entry.sessions.erase session.id }
              signalled := (s.entry.sessions.lookup session.id).toList ++ s.signalled }
      | _ => none

/-- A session goes on by itself, touching the state and the counters, until it removes
its sender from the table. -/
inductive SessionEffect (s : Tasks) (number : Nat) (session : Session) : Tasks -> Prop where
  | forwards (after : Session) (state : EntryState) (rx tx : UInt64)
      (hid : after.id = session.id)
      (hphase : session.phase.forwarding = true ∧ forall ending, after.phase ≠ .finished ending) :
      SessionEffect s number session
        { s with
          entry := { s.entry with state := state, rx := rx, tx := tx }
          spawned := s.spawned.insert number after }
  | finishes (ending : Ending) (hphase : session.phase = .removing ending) :
      SessionEffect s number session
        { s.goOn number session (.finished ending) with
          entry := { s.entry with sessions := s.entry.sessions.erase session.id }
          signalled := (s.entry.sessions.lookup session.id).toList ++ s.signalled }

theorem sessionNext_effect {s s' : Tasks} {number : Nat} {session : Session}
    {step : SessionStep} (h : sessionNext s number session step = some s') :
    SessionEffect s number session s' := by
  cases step with
  | connect =>
      simp only [sessionNext] at h
      split at h
      · next hphase =>
        cases h
        exact .forwards _ s.entry.state s.entry.rx s.entry.tx rfl (by simp [hphase,
          SessionPhase.forwarding])
      · cases h
  | connectFails error =>
      simp only [sessionNext] at h
      split at h
      · next hphase =>
        cases h
        exact .forwards _ s.entry.state s.entry.rx s.entry.tx rfl (by simp [hphase,
          SessionPhase.forwarding])
      · cases h
  | copy fromClient fromUpstream =>
      simp only [sessionNext] at h
      split at h
      · next hphase =>
        cases h
        exact .forwards _ s.entry.state s.entry.rx s.entry.tx rfl (by simp [hphase,
          SessionPhase.forwarding])
      · cases h
  | copyEnds splice buffered =>
      simp only [sessionNext] at h
      split at h
      · next hphase =>
        split at h
        · cases h
          exact .forwards _ s.entry.state _ _ rfl (by simp [hphase, SessionPhase.forwarding])
        · cases h
          exact .forwards _ s.entry.state s.entry.rx s.entry.tx rfl (by simp [hphase,
            SessionPhase.forwarding])
      · cases h
  | recordError =>
      simp only [sessionNext] at h
      split at h
      · next hphase =>
        cases h
        exact .forwards _ _ s.entry.rx s.entry.tx rfl (by simp [hphase,
          SessionPhase.forwarding])
      · next hphase =>
        cases h
        exact .forwards _ _ s.entry.rx s.entry.tx rfl (by simp [hphase,
          SessionPhase.forwarding])
      · cases h
  | shutdownClient =>
      simp only [sessionNext] at h
      split at h
      · next hphase =>
        cases h
        exact .forwards _ s.entry.state s.entry.rx s.entry.tx rfl (by simp [hphase,
          SessionPhase.forwarding])
      · cases h
  | observeShutdown =>
      simp only [sessionNext] at h
      split at h
      · next hsignalled =>
        cases h
        rw [Bool.and_eq_true] at hsignalled
        exact .forwards _ s.entry.state s.entry.rx s.entry.tx rfl ⟨hsignalled.1, by simp⟩
      · cases h
  | removeSessionHandle =>
      simp only [sessionNext] at h
      split at h
      · next hphase =>
        cases h
        exact .finishes _ hphase
      · cases h

/-!
# Updates and deletion
-/

inductive ControlStep where
  | findEntry (update : Nat) (allocation : Allocation)
  | publish (update : Nat)
  | closeSessions (update : Nat)
  | unlist
  | stop
  | takeTask
  | joinTask
  | closeAll
deriving DecidableEq, Repr

/-- Drain the table and signal every session in it. -/
def Tasks.closeSessions (s : Tasks) : Tasks :=
  { s with
    entry := { s.entry with sessions := ∅ }
    signalled := values s.entry.sessions ++ s.signalled }

def controlNext (s : Tasks) : ControlStep -> Option Tasks
  | .findEntry update allocation =>
      match s.deletion, s.updates.lookup update with
      | .idle, none => some { s with updates := s.updates.insert update (.found allocation) }
      | _, _ => none
  | .publish update =>
      match s.updates.lookup update with
      | some (.found allocation) =>
          some
            { s with
              entry := { s.entry with state := entryStateFor allocation }
              updates := s.updates.insert update .published }
      | _ => none
  | .closeSessions update =>
      match s.updates.lookup update with
      | some .published => some { s.closeSessions with updates := s.updates.erase update }
      | _ => none
  -- The entry leaves the table at once with its shutdown flag being set when it is
  -- deleted, and earlier when everything is shut down.
  | .unlist =>
      match s.deletion with
      | .idle => some { s with deletion := .unlisted }
      | _ => none
  | .stop =>
      match s.deletion with
      | .unlisted =>
          some { s with entry := { s.entry with shutdown := true }, deletion := .stopping }
      | _ => none
  | .takeTask =>
      match s.deletion with
      | .stopping =>
          if s.entry.acceptTask then
            some
              { s with
                entry := { s.entry with acceptTask := false }
                aborted := true
                deletion := .awaiting }
          else some { s with deletion := .closing }
      | _ => none
  | .joinTask =>
      match s.deletion, s.accept with
      | .awaiting, .ended => some { s with deletion := .closing }
      | _, _ => none
  | .closeAll =>
      match s.deletion with
      | .closing => some { s.closeSessions with deletion := .returned }
      | _ => none

/-- Updates and the deletion leave the tasks to themselves. -/
theorem controlNext_keeps {s s' : Tasks} {step : ControlStep}
    (h : controlNext s step = some s') :
    s'.accept = s.accept ∧ s'.spawned = s.spawned := by
  cases step with
  | takeTask =>
      simp only [controlNext] at h
      split at h
      · split at h <;> (cases h; exact ⟨rfl, rfl⟩)
      · cases h
  | _ =>
      simp only [controlNext] at h
      split at h
      · cases h
        exact ⟨rfl, rfl⟩
      · cases h

theorem controlNext_counters {s s' : Tasks} {step : ControlStep}
    (h : controlNext s step = some s') :
    s'.entry.rx = s.entry.rx ∧ s'.entry.tx = s.entry.tx := by
  cases step <;> simp only [controlNext] at h <;> grind [Tasks.closeSessions]

/-- Only the deletion stops the accept loop, and it unlists the entry first. -/
theorem controlNext_listed {s s' : Tasks} {step : ControlStep}
    (h : controlNext s step = some s') (hidle : s'.deletion = .idle) :
    s.deletion = .idle ∧ s'.entry.shutdown = s.entry.shutdown ∧ s'.aborted = s.aborted := by
  cases step <;> simp only [controlNext] at h <;> grind [Tasks.closeSessions]

inductive Step where
  | accept (step : AcceptStep)
  | session (number : Nat) (step : SessionStep)
  | control (step : ControlStep)

def next (s : Tasks) : Step -> Option Tasks
  | .accept step => acceptNext s step
  | .session number step =>
      match s.spawned.lookup number with
      | some session => sessionNext s number session step
      | none => none
  | .control step => controlNext s step

end TcpTasks
end Runtime
end Relayd
