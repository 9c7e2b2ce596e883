import Relayd.Foundation.Transition
import Relayd.Runtime.UdpSessions

/-!
# The tasks of a udp listener

One listener entry at the granularity of its awaits: the receive loop, the cleanup
loop, one reply loop for each session, and updates or a deletion, one at a time.
Which clients send, which sessions have been idle for too long and how sockets
answer is left open, as is the order in which the tasks run.

An aborted task may run on until its next await, so an abort alone stops nothing;
only a task that has ended takes no more steps.
-/

namespace Relayd
namespace Runtime
namespace Udp

open Foundation

/-- Where `remove_session`, or the closing of a session, has come to. -/
inductive Stage where
  | locking
  | closing
  | aborting
  | awaiting
deriving DecidableEq, Repr

structure Teardown where
  session : UdpSession
  stage : Stage
deriving DecidableEq, Repr

/-- `sending` is between the currency check and the end of `send_to`. -/
inductive ReplyPhase where
  | looping
  | receiving
  | received
  | sending
  | removing (stage : Stage)
deriving DecidableEq, Repr

structure ReplyTask where
  session : UdpSession
  phase : ReplyPhase
deriving DecidableEq, Repr

/-- What the receive loop has read for a batch, and the sessions found so far. -/
structure Batch where
  target : Target
  generation : UInt64
  sessions : List UdpSession
deriving DecidableEq, Repr

def Batch.add (batch : Batch) (session : UdpSession) : Batch :=
  { batch with sessions := batch.sessions ++ [session] }

inductive ReceivePhase where
  | waiting
  | resolving (batch : Batch)
  | creating (batch : Batch) (addr : SocketAddr)
  | replacing (batch : Batch) (session : UdpSession) (replaced : Teardown)
  | spawning (batch : Batch) (session : UdpSession)
  | storing (batch : Batch) (session : UdpSession)
  | checking (generation : UInt64) (unchecked checked : List UdpSession)
  | forwarding (sessions : List UdpSession)
  | removing (sessions : List UdpSession) (removal : Teardown)
  | ended
deriving DecidableEq, Repr

inductive CleanupPhase where
  | sleeping
  | expiring (sessions : List UdpSession)
  | removing (sessions : List UdpSession) (removal : Teardown)
  | ended
deriving DecidableEq, Repr

/-- An update goes from `idle` through `published`, a deletion through the stops of
the two loops; both then close the sessions they have drained. -/
inductive ControlPhase where
  | idle
  | published
  | stoppingReceive
  | stoppingCleanup
  | quiet
  | closing (deleting : Bool) (pending : List Teardown)
  | stopped
deriving DecidableEq, Repr

/-- A payload sent to a client, with the generation of the last update that had
returned and whether a deletion had. -/
structure Reply where
  session : UdpSession
  returned : UInt64
  stopped : Bool
deriving DecidableEq, Repr

/-- `handles` lists the sessions whose `reply_task` holds a handle, `reached` those
through which a datagram has been sent. -/
structure Listener where
  entry : ListenerEntry
  replies : KeyMap Nat ReplyTask
  handles : List Nat
  aborted : List Nat
  reached : List UdpSession
  receive : ReceivePhase
  cleanup : CleanupPhase
  control : ControlPhase
  returned : UInt64
  replied : List Reply

def Listener.bound (allocation : Allocation) (maxSessions : Nat) : Listener where
  entry := ListenerEntry.bound allocation maxSessions
  replies := ∅
  handles := []
  aborted := []
  reached := []
  receive := .waiting
  cleanup := .sleeping
  control := .idle
  returned := 0
  replied := []

namespace Listener

def setReply (s : Listener) (session : UdpSession) (phase : ReplyPhase) : Listener :=
  { s with replies := s.replies.insert session.id ⟨session, phase⟩ }

def endReply (s : Listener) (id : Nat) : Listener :=
  { s with replies := s.replies.erase id }

/-- Takes the handle and aborts the task. -/
def abortReplyTask (s : Listener) (id : Nat) : Listener :=
  { s with
    handles := s.handles.filter (fun handle => handle ≠ id)
    aborted := id :: s.aborted }

/-- The next stage of a teardown, or none when it is done; `awaits` says whether the
aborted task is waited for. -/
def advance (awaits : Bool) (s : Listener) (teardown : Teardown) :
    Option (Listener × Option Teardown) :=
  match teardown.stage with
  | .locking =>
      let removal := s.entry.removeSession teardown.session
      match removal.1 with
      | some session => some ({ s with entry := removal.2 }, some ⟨session, .closing⟩)
      | none => some (s, none)
  | .closing =>
      some ({ s with entry := s.entry.close teardown.session.id },
        some ⟨teardown.session, .aborting⟩)
  | .aborting =>
      if teardown.session.id ∈ s.handles then
        some (s.abortReplyTask teardown.session.id,
          if awaits then some ⟨teardown.session, .awaiting⟩ else none)
      else some (s, none)
  | .awaiting =>
      match s.replies.lookup teardown.session.id with
      | none => some (s, none)
      | some _ => none

/-!
# The receive loop
-/

def readState (s : Listener) : Option Listener :=
  match s.receive with
  | .waiting =>
      match s.entry.state.target with
      | none => some s
      | some target =>
          some { s with receive := .resolving ⟨target, s.entry.stateGeneration, []⟩ }
  | _ => none

def lookupSession (addr : SocketAddr) (s : Listener) : Option Listener :=
  match s.receive with
  | .resolving batch =>
      match s.entry.lookupSession addr batch.generation with
      | .found session => some { s with receive := .resolving (batch.add session) }
      | .full => some s
      | .vacant => some { s with receive := .creating batch addr }
  | _ => none

def createFailed (s : Listener) : Option Listener :=
  match s.receive with
  | .creating batch _ => some { s with receive := .resolving batch }
  | _ => none

def insertSession (s : Listener) : Option Listener :=
  match s.receive with
  | .creating batch addr =>
      -- The lock on the table is held over the checks and the insertion.
      let insertion := s.entry.insertSession addr batch.generation batch.target
      match insertion.1 with
      | .existing session => some { s with receive := .resolving (batch.add session) }
      | .stale => some { s with receive := .resolving batch }
      | .inserted session none =>
          some { s with entry := insertion.2, receive := .spawning batch session }
      | .inserted session (some replaced) =>
          some
            { s with
              entry := insertion.2
              receive := .replacing batch session ⟨replaced, .closing⟩ }
  | _ => none

def replaceSession (s : Listener) : Option Listener :=
  match s.receive with
  | .replacing batch session replaced =>
      match s.advance true replaced with
      | none => none
      | some (s', some teardown) =>
          some { s' with receive := .replacing batch session teardown }
      | some (s', none) => some { s' with receive := .spawning batch session }
  | _ => none

def spawnReplyLoop (s : Listener) : Option Listener :=
  match s.receive with
  | .spawning batch session =>
      if session.id ∈ s.entry.closed then
        some { s with receive := .resolving (batch.add session) }
      else some { s.setReply session .looping with receive := .storing batch session }
  | _ => none

def storeHandle (s : Listener) : Option Listener :=
  match s.receive with
  | .storing batch session =>
      some
        { s with
          handles := session.id :: s.handles
          receive := .resolving (batch.add session) }
  | _ => none

def closeEach (sessions : List UdpSession) (entry : ListenerEntry) : ListenerEntry :=
  sessions.foldl (fun entry session => entry.close session.id) entry

def loadGeneration (s : Listener) : Option Listener :=
  match s.receive with
  | .resolving batch =>
      if s.entry.generation = batch.generation then
        some { s with receive := .checking batch.generation batch.sessions [] }
      else
        some { s with entry := closeEach batch.sessions s.entry, receive := .waiting }
  | _ => none

def checkSession (s : Listener) : Option Listener :=
  match s.receive with
  | .checking _ [] checked => some { s with receive := .forwarding checked }
  | .checking generation (session :: rest) checked =>
      if session.generation ≠ generation ∨ session.id ∈ s.entry.closed then
        some
          { s with
            entry := s.entry.close session.id
            receive := .checking generation rest checked }
      else some { s with receive := .checking generation rest (checked ++ [session]) }
  | _ => none

def sendDatagram (session : UdpSession) (s : Listener) : Option Listener :=
  match s.receive with
  | .forwarding sessions =>
      if session ∈ sessions then some { s with reached := session :: s.reached } else none
  | _ => none

def sendFailed (session : UdpSession) (s : Listener) : Option Listener :=
  match s.receive with
  | .forwarding sessions =>
      if session ∈ sessions then
        some { s with receive := .removing sessions ⟨session, .locking⟩ }
      else none
  | _ => none

def receiveRemove (s : Listener) : Option Listener :=
  match s.receive with
  | .removing sessions removal =>
      match s.advance false removal with
      | none => none
      | some (s', some teardown) => some { s' with receive := .removing sessions teardown }
      | some (s', none) => some { s' with receive := .forwarding sessions }
  | _ => none

def endPass (s : Listener) : Option Listener :=
  match s.receive with
  | .forwarding _ => some { s with receive := .waiting }
  | _ => none

def receiveFailed (s : Listener) : Option Listener :=
  match s.receive with
  | .waiting => some { s with receive := .ended }
  | _ => none

/-!
# The cleanup loop
-/

def collectSessions (s : Listener) : Option Listener :=
  match s.cleanup with
  | .sleeping => some { s with cleanup := .expiring (values s.entry.table.sessions) }
  | _ => none

/-- The next collected session, which has been idle for too long or has not. -/
def expireSession (idle : Bool) (s : Listener) : Option Listener :=
  match s.cleanup with
  | .expiring [] => some { s with cleanup := .sleeping }
  | .expiring (session :: rest) =>
      if idle then some { s with cleanup := .removing rest ⟨session, .locking⟩ }
      else some { s with cleanup := .expiring rest }
  | _ => none

def cleanupRemove (s : Listener) : Option Listener :=
  match s.cleanup with
  | .removing sessions removal =>
      match s.advance false removal with
      | none => none
      | some (s', some teardown) => some { s' with cleanup := .removing sessions teardown }
      | some (s', none) => some { s' with cleanup := .expiring sessions }
  | _ => none

/-!
# The reply loops
-/

def checkClosed (id : Nat) (s : Listener) : Option Listener :=
  match s.replies.lookup id with
  | some ⟨session, .looping⟩ =>
      if id ∈ s.entry.closed then some (s.endReply id)
      else some (s.setReply session .receiving)
  | _ => none

def receiveReply (id : Nat) (s : Listener) : Option Listener :=
  match s.replies.lookup id with
  | some ⟨session, .receiving⟩ => some (s.setReply session .received)
  | _ => none

def receiveReplyFailed (id : Nat) (s : Listener) : Option Listener :=
  match s.replies.lookup id with
  | some ⟨session, .receiving⟩ => some (s.setReply session (.removing .locking))
  | _ => none

/-- The session is still in the table and of the current generation. -/
def isCurrent (s : Listener) (session : UdpSession) : Bool :=
  (s.entry.table.lookup session.clientAddr).any (fun current =>
    current.id = session.id && current.generation = s.entry.generation)

def checkCurrent (id : Nat) (s : Listener) : Option Listener :=
  match s.replies.lookup id with
  | some ⟨session, .received⟩ =>
      if s.isCurrent session then some (s.setReply session .sending)
      else some ({ s with entry := s.entry.close id }.endReply id)
  | _ => none

def sendReply (id : Nat) (s : Listener) : Option Listener :=
  match s.replies.lookup id with
  | some ⟨session, .sending⟩ =>
      some
        { s.setReply session .looping with
          replied := ⟨session, s.returned, decide (s.control = .stopped)⟩ :: s.replied }
  | _ => none

def sendReplyFailed (id : Nat) (s : Listener) : Option Listener :=
  match s.replies.lookup id with
  | some ⟨session, .sending⟩ => some (s.setReply session (.removing .locking))
  | _ => none

def replyRemove (id : Nat) (s : Listener) : Option Listener :=
  match s.replies.lookup id with
  | some ⟨session, .removing stage⟩ =>
      match s.advance false ⟨session, stage⟩ with
      | none => none
      | some (s', some teardown) => some (s'.setReply session (.removing teardown.stage))
      | some (s', none) => some (s'.endReply id)
  | _ => none

/-- An abort takes effect. -/
def cancel (id : Nat) (s : Listener) : Option Listener :=
  if id ∈ s.aborted then some (s.endReply id) else none

/-!
# Updates and deletion
-/

def publish (allocation : Allocation) (s : Listener) : Option Listener :=
  match s.control with
  | .idle => some { s with entry := s.entry.publish allocation, control := .published }
  | _ => none

def stop (s : Listener) : Option Listener :=
  match s.control with
  | .idle => some { s with control := .stoppingReceive }
  | _ => none

def receiveStopped (s : Listener) : Option Listener :=
  match s.control with
  | .stoppingReceive => some { s with receive := .ended, control := .stoppingCleanup }
  | _ => none

def cleanupStopped (s : Listener) : Option Listener :=
  match s.control with
  | .stoppingCleanup => some { s with cleanup := .ended, control := .quiet }
  | _ => none

def drainInto (deleting : Bool) (s : Listener) : Listener :=
  { s with
    entry := s.entry.drain.2
    control := .closing deleting (s.entry.drain.1.map (fun session => ⟨session, .closing⟩)) }

def drain (s : Listener) : Option Listener :=
  match s.control with
  | .published => some (s.drainInto false)
  | .quiet => some (s.drainInto true)
  | _ => none

def closeSession (s : Listener) : Option Listener :=
  match s.control with
  | .closing deleting (teardown :: rest) =>
      match s.advance true teardown with
      | none => none
      | some (s', some teardown') =>
          some { s' with control := .closing deleting (teardown' :: rest) }
      | some (s', none) => some { s' with control := .closing deleting rest }
  | _ => none

def finish (s : Listener) : Option Listener :=
  match s.control with
  | .closing false [] => some { s with control := .idle, returned := s.entry.generation }
  | .closing true [] => some { s with control := .stopped }
  | _ => none

/-!
# Steps of a teardown

Each of the five loops that tear a session down takes one stage of it, and goes on with the
rest of the teardown or with what comes after it.
-/

theorem advanced_cases {taken : Option (Listener × Option Teardown)} {s : Listener}
    {goesOn : Listener -> Teardown -> Listener} {isDone : Listener -> Listener}
    (h : (match taken with
      | none => none
      | some (advanced, some teardown) => some (goesOn advanced teardown)
      | some (advanced, none) => some (isDone advanced)) = some s) :
    (exists advanced teardown, taken = some (advanced, some teardown) ∧
        s = goesOn advanced teardown) ∨
      exists advanced, taken = some (advanced, none) ∧ s = isDone advanced := by
  split at h
  · cases h
  · next advanced teardown =>
    cases h
    exact Or.inl ⟨advanced, teardown, rfl, rfl⟩
  · next advanced =>
    cases h
    exact Or.inr ⟨advanced, rfl, rfl⟩

theorem replaceSession_cases {s s' : Listener} (h : s.replaceSession = some s') :
    exists batch session replaced, s.receive = .replacing batch session replaced ∧
      ((exists advanced teardown, s.advance true replaced = some (advanced, some teardown) ∧
          s' = { advanced with receive := .replacing batch session teardown }) ∨
        exists advanced, s.advance true replaced = some (advanced, none) ∧
          s' = { advanced with receive := .spawning batch session }) := by
  unfold replaceSession at h
  split at h
  · next batch session replaced hbefore => exact ⟨batch, session, replaced, hbefore, advanced_cases h⟩
  · cases h

theorem receiveRemove_cases {s s' : Listener} (h : s.receiveRemove = some s') :
    exists sessions removal, s.receive = .removing sessions removal ∧
      ((exists advanced teardown, s.advance false removal = some (advanced, some teardown) ∧
          s' = { advanced with receive := .removing sessions teardown }) ∨
        exists advanced, s.advance false removal = some (advanced, none) ∧
          s' = { advanced with receive := .forwarding sessions }) := by
  unfold receiveRemove at h
  split at h
  · next sessions removal hbefore => exact ⟨sessions, removal, hbefore, advanced_cases h⟩
  · cases h

theorem cleanupRemove_cases {s s' : Listener} (h : s.cleanupRemove = some s') :
    exists sessions removal, s.cleanup = .removing sessions removal ∧
      ((exists advanced teardown, s.advance false removal = some (advanced, some teardown) ∧
          s' = { advanced with cleanup := .removing sessions teardown }) ∨
        exists advanced, s.advance false removal = some (advanced, none) ∧
          s' = { advanced with cleanup := .expiring sessions }) := by
  unfold cleanupRemove at h
  split at h
  · next sessions removal hbefore => exact ⟨sessions, removal, hbefore, advanced_cases h⟩
  · cases h

theorem replyRemove_cases {s s' : Listener} {id : Nat} (h : s.replyRemove id = some s') :
    exists session stage, s.replies.lookup id = some ⟨session, .removing stage⟩ ∧
      ((exists advanced teardown, s.advance false ⟨session, stage⟩ = some (advanced, some teardown) ∧
          s' = advanced.setReply session (.removing teardown.stage)) ∨
        exists advanced, s.advance false ⟨session, stage⟩ = some (advanced, none) ∧
          s' = advanced.endReply id) := by
  unfold replyRemove at h
  split at h
  · next session stage hbefore => exact ⟨session, stage, hbefore, advanced_cases h⟩
  · cases h

theorem closeSession_cases {s s' : Listener} (h : s.closeSession = some s') :
    exists deleting pending rest, s.control = .closing deleting (pending :: rest) ∧
      ((exists advanced teardown, s.advance true pending = some (advanced, some teardown) ∧
          s' = { advanced with control := .closing deleting (teardown :: rest) }) ∨
        exists advanced, s.advance true pending = some (advanced, none) ∧
          s' = { advanced with control := .closing deleting rest }) := by
  unfold closeSession at h
  split at h
  · next deleting pending rest hbefore => exact ⟨deleting, pending, rest, hbefore, advanced_cases h⟩
  · cases h

end Listener

inductive Step where
  | readState
  | lookupSession (addr : SocketAddr)
  | createFailed
  | insertSession
  | replaceSession
  | spawnReplyLoop
  | storeHandle
  | loadGeneration
  | checkSession
  | sendDatagram (session : UdpSession)
  | sendFailed (session : UdpSession)
  | receiveRemove
  | endPass
  | receiveFailed
  | collectSessions
  | expireSession (idle : Bool)
  | cleanupRemove
  | checkClosed (id : Nat)
  | receiveReply (id : Nat)
  | receiveReplyFailed (id : Nat)
  | checkCurrent (id : Nat)
  | sendReply (id : Nat)
  | sendReplyFailed (id : Nat)
  | replyRemove (id : Nat)
  | cancel (id : Nat)
  | publish (allocation : Allocation)
  | stop
  | receiveStopped
  | cleanupStopped
  | drain
  | closeSession
  | finish
deriving DecidableEq, Repr

def next (s : Listener) : Step -> Option Listener
  | .readState => s.readState
  | .lookupSession addr => s.lookupSession addr
  | .createFailed => s.createFailed
  | .insertSession => s.insertSession
  | .replaceSession => s.replaceSession
  | .spawnReplyLoop => s.spawnReplyLoop
  | .storeHandle => s.storeHandle
  | .loadGeneration => s.loadGeneration
  | .checkSession => s.checkSession
  | .sendDatagram session => s.sendDatagram session
  | .sendFailed session => s.sendFailed session
  | .receiveRemove => s.receiveRemove
  | .endPass => s.endPass
  | .receiveFailed => s.receiveFailed
  | .collectSessions => s.collectSessions
  | .expireSession idle => s.expireSession idle
  | .cleanupRemove => s.cleanupRemove
  | .checkClosed id => s.checkClosed id
  | .receiveReply id => s.receiveReply id
  | .receiveReplyFailed id => s.receiveReplyFailed id
  | .checkCurrent id => s.checkCurrent id
  | .sendReply id => s.sendReply id
  | .sendReplyFailed id => s.sendReplyFailed id
  | .replyRemove id => s.replyRemove id
  | .cancel id => s.cancel id
  | .publish allocation => s.publish allocation
  | .stop => s.stop
  | .receiveStopped => s.receiveStopped
  | .cleanupStopped => s.cleanupStopped
  | .drain => s.drain
  | .closeSession => s.closeSession
  | .finish => s.finish

end Udp
end Runtime
end Relayd
