import Relayd.Runtime.UdpSessions

/-!
# One pass of the udp receive loop

A pass resolves the session of each datagram of a received batch, drops what has
become stale, and sends the rest grouped by session.  Before every step of its
own that reads shared data, the pass lets the other tasks of the listener act:
`Around` says what they do, and how binds, connects and sends end.

The three counters that account for lost datagrams are kept together with the
index of the datagram each increment stands for.
-/

namespace Relayd
namespace Runtime
namespace Udp

open Foundation

structure Datagram where
  peer : SocketAddr
  payload : List UInt8
deriving DecidableEq, Repr

/-- What an update, the cleanup loop or a reply loop does to the shared data. -/
inductive Interference where
  | publish (allocation : Allocation)
  | drain
  | removeSession (session : UdpSession)
  | close (session : Nat)
deriving DecidableEq, Repr

def Interference.act : Interference -> ListenerEntry -> ListenerEntry
  | .publish allocation, entry => entry.publish allocation
  | .drain, entry => entry.drain.2
  | .removeSession session, entry => (entry.removeSession session).2
  | .close session, entry => entry.close session

/-- How a send ends: `sent extra` is a system call that took `extra + 1`
datagrams, or all that were left. -/
inductive SendReply where
  | failed
  | sent (extra : Nat)
deriving DecidableEq, Repr

structure Around where
  interference : Nat -> List Interference
  bindUpstream : Nat -> Bool
  connect : Nat -> Bool
  send : Nat -> SendReply

inductive LossCounter where
  | rejectedNoHost
  | udpDrop
  | udpReplyStale
deriving DecidableEq, Repr

structure Loss where
  index : Nat
  counter : LossCounter
deriving DecidableEq, Repr

structure Delivery where
  session : UdpSession
  index : Nat
  payload : List UInt8
deriving DecidableEq, Repr

structure Counters where
  udpPacketsInTotal : Nat
  udpBytesInTotal : Nat
  listenerRx : Nat
  rejectedNoHostTotal : Nat
  udpDropTotal : Nat
  udpReplyStaleTotal : Nat
  udpReplyDropTotal : Nat
  udpSendErrorsTotal : Nat
  udpSessionCreateTotal : Nat
deriving DecidableEq, Repr

def Counters.zero : Counters := ⟨0, 0, 0, 0, 0, 0, 0, 0, 0⟩

/-- The shared entry, and what the receive loop has done so far. -/
structure Pass where
  entry : ListenerEntry
  tick : Nat
  counters : Counters
  losses : List Loss
  deliveries : List Delivery

def Pass.start (entry : ListenerEntry) : Pass where
  entry := entry
  tick := 0
  counters := Counters.zero
  losses := []
  deliveries := []

namespace Pass

def interfere (around : Around) (p : Pass) : Pass :=
  { p with
    entry := (around.interference p.tick).foldl (fun entry i => i.act entry) p.entry
    tick := p.tick + 1 }

def count (counter : LossCounter) (n : Nat) (c : Counters) : Counters :=
  match counter with
  | .rejectedNoHost => { c with rejectedNoHostTotal := c.rejectedNoHostTotal + n }
  | .udpDrop => { c with udpDropTotal := c.udpDropTotal + n }
  | .udpReplyStale => { c with udpReplyStaleTotal := c.udpReplyStaleTotal + n }

/-- Add one to the counter for each of the datagrams. -/
def lose (counter : LossCounter) (indexes : List Nat) (p : Pass) : Pass :=
  { p with
    counters := count counter indexes.length p.counters
    losses := p.losses ++ indexes.map (fun index => ⟨index, counter⟩) }

def close (session : Nat) (p : Pass) : Pass :=
  { p with entry := p.entry.close session }

def countSendError (p : Pass) : Pass :=
  { p with
    counters := { p.counters with udpSendErrorsTotal := p.counters.udpSendErrorsTotal + 1 } }

def countSession (p : Pass) : Pass :=
  { p with
    counters :=
      { p.counters with udpSessionCreateTotal := p.counters.udpSessionCreateTotal + 1 } }

def countReplyDrop (p : Pass) : Pass :=
  { p with
    counters := { p.counters with udpReplyDropTotal := p.counters.udpReplyDropTotal + 1 } }

end Pass

/-!
# Resolving sessions
-/

section Resolving

variable (around : Around)

def createSession (index : Nat) (p : Pass) : Bool × Pass :=
  if around.bindUpstream p.tick then
    let bound := p.interfere around
    if around.connect bound.tick then (true, bound.countSession)
    else (false, bound.countSendError.lose .udpDrop [index])
  else (false, p.countSendError.lose .udpDrop [index])

def replaceSession (replaced : Option UdpSession) (p : Pass) : Pass :=
  match replaced with
  | none => p
  | some session => (p.close session.id).countReplyDrop

def sessionFor (target : Target) (generation : UInt64) (index : Nat) (addr : SocketAddr)
    (p : Pass) : Option UdpSession × Pass :=
  let looked := p.interfere around
  match looked.entry.lookupSession addr generation with
  | .found session => (some session, looked)
  | .full => (none, looked.lose .udpDrop [index])
  | .vacant =>
      let created := createSession around index looked
      if created.1 then
        let locked := created.2.interfere around
        let insertion := locked.entry.insertSession addr generation target
        let stored := { locked with entry := insertion.2 }
        match insertion.1 with
        | .existing session => (some session, stored)
        | .stale => (none, stored.lose .udpReplyStale [index])
        | .inserted session replaced => (some session, replaceSession replaced stored)
      else (none, created.2)

/-- The session of the first earlier datagram of the same peer. -/
def earlierSession (seen : List (SocketAddr × Option UdpSession)) (peer : SocketAddr) :
    Option UdpSession :=
  (seen.find? (fun earlier => earlier.1 = peer)).bind Prod.snd

def resolveSession (target : Target) (generation : UInt64)
    (seen : List (SocketAddr × Option UdpSession)) (peer : SocketAddr) (p : Pass) :
    Option UdpSession × Pass :=
  match earlierSession seen peer with
  | some session => (some session, p)
  | none => sessionFor around target generation seen.length peer p

def resolveAll (target : Target) (generation : UInt64) :
    List SocketAddr -> List (SocketAddr × Option UdpSession) -> Pass ->
    List (SocketAddr × Option UdpSession) × Pass
  | [], seen, p => (seen, p)
  | peer :: rest, seen, p =>
      let resolved := resolveSession around target generation seen peer p
      resolveAll target generation rest (seen ++ [(peer, resolved.1)]) resolved.2

/-- The last look at one session before its datagrams are sent. -/
def checkSession (generation : UInt64) (index : Nat) (session : Option UdpSession)
    (p : Pass) : Option UdpSession × Pass :=
  match session with
  | none => (none, p)
  | some session =>
      let looked := p.interfere around
      if session.generation ≠ generation ∨ session.id ∈ looked.entry.closed then
        (none, (looked.close session.id).lose .udpReplyStale [index])
      else (some session, looked)

def checkAll (generation : UInt64) :
    List (Option UdpSession) -> List (Option UdpSession) -> Pass ->
    List (Option UdpSession) × Pass
  | [], checked, p => (checked, p)
  | session :: rest, checked, p =>
      let outcome := checkSession around generation checked.length session p
      checkAll generation rest (checked ++ [outcome.1]) outcome.2

def closeAll (sessions : List (Option UdpSession)) (p : Pass) : Pass :=
  sessions.foldl (fun p session =>
    match session with
    | none => p
    | some session => p.close session.id) p

def sessionAt (sessions : List (Option UdpSession)) (index : Nat) : Option UdpSession :=
  sessions[index]?.join

/-- The indexes of the datagrams that have a session. -/
def resolvedIndexes (sessions : List (Option UdpSession)) : List Nat :=
  (List.range sessions.length).filter (fun index => (sessionAt sessions index).isSome)

/-- The preparation for the target that was read. -/
def prepareFor (batch : List Datagram) (target : Target) (read : Pass) :
    List (Option UdpSession) × Pass :=
  let generation := read.entry.stateGeneration
  let resolved := resolveAll around target generation (batch.map Datagram.peer) [] read
  let sessions := resolved.1.map Prod.snd
  let loaded := resolved.2.interfere around
  if loaded.entry.generation = generation then checkAll around generation sessions [] loaded
  else
    (batch.map (fun _ => none),
      (closeAll sessions loaded).lose .udpReplyStale (resolvedIndexes sessions))

def prepareDatagramBatch (batch : List Datagram) (p : Pass) :
    List (Option UdpSession) × Pass :=
  let read := p.interfere around
  match read.entry.state.target with
  | none =>
      (batch.map (fun _ => none), read.lose .rejectedNoHost (List.range batch.length))
  | some target => prepareFor around batch target read

end Resolving

/-!
# Sending
-/

section Sending

variable (around : Around) (batch : List Datagram)

def delivery (session : UdpSession) (index : Nat) : Delivery where
  session := session
  index := index
  payload := (batch[index]?.map Datagram.payload).getD []

def deliver (session : UdpSession) (indexes : List Nat) (p : Pass) : Pass :=
  { p with deliveries := p.deliveries ++ indexes.map (delivery batch session) }

/-- Sends one by one; the error carries how many were sent. -/
def sendIndividually (session : UdpSession) : Nat -> List Nat -> Pass -> Option Nat × Pass
  | _, [], p => (none, p)
  | sent, index :: rest, p =>
      let ready := p.interfere around
      match around.send p.tick with
      | .failed => (some sent, ready)
      | .sent _ =>
          sendIndividually session (sent + 1) rest (deliver batch session [index] ready)

/-- Sends as many as each system call takes. -/
def sendBatch (session : UdpSession) (sent : Nat) (remaining : List Nat) (p : Pass) :
    Option Nat × Pass :=
  match remaining with
  | [] => (none, p)
  | index :: rest =>
      let ready := p.interfere around
      match around.send p.tick with
      | .failed => (some sent, ready)
      | .sent extra =>
          let count := min (extra + 1) (index :: rest).length
          sendBatch session (sent + count) (rest.drop extra)
            (deliver batch session ((index :: rest).take count) ready)
termination_by remaining.length
decreasing_by
  simp only [List.length_drop, List.length_cons]
  lia

def sendIndexes (batchEnabled : Bool) (session : UdpSession) (indexes : List Nat)
    (p : Pass) : Option Nat × Pass :=
  if batchEnabled && indexes.length > 1 then sendBatch around batch session 0 indexes p
  else sendIndividually around batch session 0 indexes p

def removeSession (session : UdpSession) (p : Pass) : Pass :=
  let locked := p.interfere around
  let removal := locked.entry.removeSession session
  let removed := { locked with entry := removal.2 }
  match removal.1 with
  | none => removed
  | some session => removed.close session.id

def sendGroup (batchEnabled : Bool) (session : UdpSession) (indexes : List Nat)
    (p : Pass) : Pass :=
  let sent := sendIndexes around batch batchEnabled session indexes p
  match sent.1 with
  | none => sent.2
  | some count =>
      removeSession around session
        (sent.2.countSendError.lose .udpDrop (indexes.drop count))

/-- The datagrams from `first` on that go through the same session. -/
def groupIndexes (sessions : List (Option UdpSession)) (first : Nat)
    (session : UdpSession) : List Nat :=
  (List.range' first (sessions.length - first)).filter (fun index =>
    (sessionAt sessions index).any (fun candidate => candidate.id = session.id))

def forwardAll (batchEnabled : Bool) (sessions : List (Option UdpSession)) :
    List Nat -> List Nat -> Pass -> Pass
  | [], _, p => p
  | first :: rest, grouped, p =>
      match sessionAt sessions first with
      | none => forwardAll batchEnabled sessions rest grouped p
      | some session =>
          if first ∈ grouped then forwardAll batchEnabled sessions rest grouped p
          else
            let indexes := groupIndexes sessions first session
            forwardAll batchEnabled sessions rest (grouped ++ indexes)
              (sendGroup around batch batchEnabled session indexes p)

end Sending

/-!
# The pass
-/

def payloadBytes (batch : List Datagram) : Nat :=
  (batch.map (fun datagram => datagram.payload.length)).sum

def countReceived (batch : List Datagram) (p : Pass) : Pass :=
  { p with
    counters :=
      { p.counters with
        udpPacketsInTotal := p.counters.udpPacketsInTotal + batch.length
        udpBytesInTotal := p.counters.udpBytesInTotal + payloadBytes batch
        listenerRx := p.counters.listenerRx + payloadBytes batch } }

def receiveBatch (around : Around) (batchEnabled : Bool) (batch : List Datagram)
    (p : Pass) : Pass :=
  let prepared := prepareDatagramBatch around batch (countReceived batch p)
  forwardAll around batch batchEnabled prepared.1 (List.range batch.length) [] prepared.2

/-!
# The ledger

Every counted loss names its datagram.
-/

def Counters.lossTotal (c : Counters) : LossCounter -> Nat
  | .rejectedNoHost => c.rejectedNoHostTotal
  | .udpDrop => c.udpDropTotal
  | .udpReplyStale => c.udpReplyStaleTotal

/-- Each counter is as high as the number of datagrams lost to it. -/
def Balanced (p : Pass) : Prop :=
  forall counter, p.counters.lossTotal counter =
    (p.losses.filter (fun loss => loss.counter = counter)).length

/-- What a part of the pass did: the datagrams it lost and those it sent. -/
structure Accounts (p p' : Pass) (lost : List Nat) (sent : List Delivery) : Prop where
  losses : p'.losses.map Loss.index = p.losses.map Loss.index ++ lost
  deliveries : p'.deliveries = p.deliveries ++ sent
  balanced : Balanced p -> Balanced p'

theorem Accounts.trans {p p' p'' : Pass} {lost lost' : List Nat} {sent sent' : List Delivery}
    (h : Accounts p p' lost sent) (h' : Accounts p' p'' lost' sent') :
    Accounts p p'' (lost ++ lost') (sent ++ sent') where
  losses := by rw [h'.losses, h.losses, List.append_assoc]
  deliveries := by rw [h'.deliveries, h.deliveries, List.append_assoc]
  balanced := fun hbalanced => h'.balanced (h.balanced hbalanced)

theorem Accounts.quiet {p p' p'' : Pass} {lost : List Nat} {sent : List Delivery}
    (h : Accounts p p' lost sent) (h' : Accounts p' p'' [] []) : Accounts p p'' lost sent := by
  have htotal := h.trans h'
  rw [List.append_nil, List.append_nil] at htotal
  exact htotal

/-- A step that touches neither the ledger nor the three counters. -/
theorem Accounts.of_same {p p' : Pass} (hlosses : p'.losses = p.losses)
    (hdeliveries : p'.deliveries = p.deliveries)
    (hcounters : forall counter,
      p'.counters.lossTotal counter = p.counters.lossTotal counter) :
    Accounts p p' [] [] where
  losses := by rw [hlosses, List.append_nil]
  deliveries := by rw [hdeliveries, List.append_nil]
  balanced := by
    intro hbalanced counter
    rw [hlosses, hcounters]
    exact hbalanced counter

theorem accounts_refl (p : Pass) : Accounts p p [] [] :=
  Accounts.of_same rfl rfl (fun _ => rfl)

theorem accounts_interfere (around : Around) (p : Pass) :
    Accounts p (p.interfere around) [] [] :=
  Accounts.of_same rfl rfl (fun _ => rfl)

theorem accounts_close (session : Nat) (p : Pass) :
    Accounts p (p.close session) [] [] :=
  Accounts.of_same rfl rfl (fun _ => rfl)

theorem accounts_entry (p : Pass) (entry : ListenerEntry) :
    Accounts p { p with entry := entry } [] [] :=
  Accounts.of_same rfl rfl (fun _ => rfl)

theorem accounts_removeSession (around : Around) (session : UdpSession) (p : Pass) :
    Accounts p (removeSession around session p) [] [] := by
  unfold removeSession
  simp only
  split
  · exact Accounts.of_same rfl rfl (fun _ => rfl)
  · exact Accounts.of_same rfl rfl (fun _ => rfl)

theorem accounts_countSendError (p : Pass) : Accounts p p.countSendError [] [] := by
  refine Accounts.of_same rfl rfl ?_
  intro counter
  cases counter <;> rfl

theorem accounts_countSession (p : Pass) : Accounts p p.countSession [] [] := by
  refine Accounts.of_same rfl rfl ?_
  intro counter
  cases counter <;> rfl

theorem accounts_countReplyDrop (p : Pass) : Accounts p p.countReplyDrop [] [] := by
  refine Accounts.of_same rfl rfl ?_
  intro counter
  cases counter <;> rfl

theorem lossTotal_count (counter other : LossCounter) (n : Nat) (c : Counters) :
    (Pass.count counter n c).lossTotal other =
      c.lossTotal other + if other = counter then n else 0 := by
  cases counter <;> cases other <;> rfl

theorem losses_of_other {counter other : LossCounter} (indexes : List Nat) :
    ((indexes.map (fun index => Loss.mk index counter)).filter
      (fun loss => loss.counter = other)).length =
      if other = counter then indexes.length else 0 := by
  rw [List.filter_map, List.length_map]
  by_cases hother : other = counter
  · rw [if_pos hother, List.filter_eq_self.mpr]
    intro index _
    exact decide_eq_true hother.symm
  · rw [if_neg hother, List.length_eq_zero_iff, List.filter_eq_nil_iff]
    intro index _ hcounter
    exact hother (of_decide_eq_true hcounter).symm

theorem accounts_lose (counter : LossCounter) (indexes : List Nat) (p : Pass) :
    Accounts p (p.lose counter indexes) indexes [] where
  losses := by
    unfold Pass.lose
    rw [List.map_append, List.map_map]
    congr 1
    exact List.map_id indexes
  deliveries := by rw [List.append_nil]; rfl
  balanced := by
    intro hbalanced other
    show (Pass.count counter indexes.length p.counters).lossTotal other = _
    rw [lossTotal_count, hbalanced other]
    unfold Pass.lose
    rw [List.filter_append, List.length_append, losses_of_other]

theorem accounts_deliver (batch : List Datagram) (session : UdpSession)
    (indexes : List Nat) (p : Pass) :
    Accounts p (deliver batch session indexes p) []
      (indexes.map (delivery batch session)) where
  losses := by rw [List.append_nil]; rfl
  deliveries := rfl
  balanced := fun hbalanced => hbalanced

end Udp
end Runtime
end Relayd
