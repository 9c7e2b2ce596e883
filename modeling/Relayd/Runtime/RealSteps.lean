import Relayd.Runtime.Real

/-!
# The proxy runtime, await by await

A call of `RealRuntime` changes its tables in several steps with awaits between them.
The future of a call can be dropped at any of these awaits; the steps that are left are
then not taken.  A listener is bound and serves from the moment its task is spawned, but
it enters the table only after further awaits; and it leaves the table before its loops are
awaited and its sessions closed.  In between it is not listed.
-/

namespace Relayd
namespace Runtime
namespace RealSteps

open Foundation Fallible

/-- How far the teardown of a listener has come: some of its loops have not been awaited
yet, or its session table is drained and some of these sessions are not closed yet. -/
inductive Teardown where
  | loops (running : Nat)
  | sessions (open_ : Nat)
deriving DecidableEq, Repr

/-- A listener outside of its table: bound by a create and not listed yet, or taken out by
a delete, told to shut down and not taken down yet. -/
inductive Unlisted where
  | serving (listener : Listener)
  | stopping (listener : Listener) (teardown : Teardown)
deriving DecidableEq, Repr

def Unlisted.listener : Unlisted -> Listener
  | .serving listener => listener
  | .stopping listener _ => listener

/-- What the tables do not tell: the listeners outside of them, and how many sessions a
udp listener turns out to have when its session table is drained. -/
structure Outlying where
  tcpUnlisted : List Unlisted
  udpUnlisted : List Unlisted
  udpSessions : String -> Nat

structure Proxy extends Outlying where
  runtime : RealRuntime

/-- A call under way; `left` is the number of steps before it is dropped. -/
structure Running where
  proxy : Proxy
  left : Option Nat

abbrev StepM := Fallible Running RuntimeError

/-- What runs between two awaits.  A dropped call has no result; the error stands for
the end of it, and nothing comes of what the code would do with it. -/
def step {value : Type} (effect : Proxy -> Except RuntimeError value × Proxy) : StepM value :=
  act (fun r =>
    match r.left with
    | some 0 => (.error .timeout, r)
    | left => ((effect r.proxy).1, ⟨(effect r.proxy).2, left.map (fun n => n - 1)⟩))

def onRuntime {value : Type} (program : RealRuntime.RealM value) : StepM value :=
  step (fun p => ((program.exec p.runtime).1, { p with runtime := (program.exec p.runtime).2 }))

/-!
# The steps of the tcp and the udp runtime
-/

/-- Bind the port and spawn the accept loop. -/
def bindTcp (failure : RuntimeError) (binds : Binds) (allocation : Allocation) :
    StepM TcpEntry :=
  step (fun p =>
    match bindEntry tcpEntryKind p.runtime.bindHost binds.tcp failure allocation with
    | .error error => (.error error, p)
    | .ok entry =>
        (.ok entry, { p with tcpUnlisted := .serving (listenerOf allocation) :: p.tcpUnlisted }))

/-- Put the listener that was bound last into the table. -/
def listTcp (allocation : Allocation) (entry : TcpEntry) : StepM Unit :=
  step (fun p =>
    (.ok (),
      { p with
        runtime := { p.runtime with tcp := p.runtime.tcp.insert allocation.id entry }
        tcpUnlisted := p.tcpUnlisted.tail }))

def tcpOpen (failure : RuntimeError) (binds : Binds) (allocation : Allocation) : StepM Unit :=
  if allocation.protocol ≠ .tcp then pure ()
  else do
    let entry <- bindTcp failure binds allocation
    listTcp allocation entry

/-- Bind the port and spawn the receive and the cleanup loop. -/
def bindUdp (failure : RuntimeError) (binds : Binds) (allocation : Allocation) :
    StepM UdpEntry :=
  step (fun p =>
    match bindEntry udpEntryKind p.runtime.bindHost binds.udp failure allocation with
    | .error error => (.error error, p)
    | .ok entry =>
        (.ok entry, { p with udpUnlisted := .serving (listenerOf allocation) :: p.udpUnlisted }))

def listUdp (allocation : Allocation) (entry : UdpEntry) : StepM Unit :=
  step (fun p =>
    (.ok (),
      { p with
        runtime := { p.runtime with udp := p.runtime.udp.insert allocation.id entry }
        udpUnlisted := p.udpUnlisted.tail }))

def udpOpen (failure : RuntimeError) (binds : Binds) (allocation : Allocation) : StepM Unit :=
  if allocation.protocol ≠ .udp then pure ()
  else do
    let entry <- bindUdp failure binds allocation
    listUdp allocation entry

/-- The state of an entry is written in one step; its sessions are closed later. -/
def tcpUpdate (allocation : Allocation) : StepM Unit :=
  onRuntime (RealRuntime.tcpUpdate allocation)

def udpUpdate (allocation : Allocation) : StepM Unit :=
  onRuntime (RealRuntime.udpUpdate allocation)

/-!
# The steps of a teardown

The entry leaves its table and is told to shut down in one step.  What follows awaits its
loops and closes its sessions; a delete that is dropped there leaves the rest of it.
-/

def onTcpUnlisted (change : List Unlisted -> List Unlisted) : StepM Unit :=
  step (fun p => (.ok (), { p with tcpUnlisted := change p.tcpUnlisted }))

def onUdpUnlisted (change : List Unlisted -> List Unlisted) : StepM Unit :=
  step (fun p => (.ok (), { p with udpUnlisted := change p.udpUnlisted }))

def removeTcp (id : String) : StepM (Option Listener) :=
  step (fun p =>
    match tcpEntryKind.listenerAt id p.runtime.tcp with
    | none => (.ok none, p)
    | some listener =>
        (.ok (some listener),
          { p with
            runtime := { p.runtime with tcp := p.runtime.tcp.erase id }
            tcpUnlisted := .stopping listener (.loops 1) :: p.tcpUnlisted }))

/-- Await the accept loop, then drain the sessions and signal them in one step. -/
def stopTcpEntry (listener : Listener) : StepM Unit := do
  onTcpUnlisted (fun unlisted => .stopping listener (.loops 0) :: unlisted.tail)
  onTcpUnlisted List.tail

def tcpDelete (id : String) : StepM Unit := do
  let removed <- removeTcp id
  match removed with
  | none => pure ()
  | some listener => stopTcpEntry listener

def removeUdp (id : String) : StepM (Option Listener) :=
  step (fun p =>
    match udpEntryKind.listenerAt id p.runtime.udp with
    | none => (.ok none, p)
    | some listener =>
        (.ok (some listener),
          { p with
            runtime := { p.runtime with udp := p.runtime.udp.erase id }
            udpUnlisted := .stopping listener (.loops 2) :: p.udpUnlisted }))

/-- The reply loops of its sessions are the last to hold the entry, and with it the
socket; without a session it is gone. -/
def heldBy (listener : Listener) (sessions : Nat) (unlisted : List Unlisted) : List Unlisted :=
  if sessions = 0 then unlisted else .stopping listener (.sessions sessions) :: unlisted

def drainUdp (id : String) (listener : Listener) : StepM Nat :=
  step (fun p =>
    (.ok (p.udpSessions id),
      { p with udpUnlisted := heldBy listener (p.udpSessions id) p.udpUnlisted.tail }))

/-- The reply tasks are aborted and awaited one after the other. -/
def closeUdpSessions (listener : Listener) : Nat -> StepM Unit
  | 0 => pure ()
  | sessions + 1 => do
      onUdpUnlisted (fun unlisted => heldBy listener sessions unlisted.tail)
      closeUdpSessions listener sessions

/-- Await the receive loop and the cleanup loop, then close the sessions. -/
def stopUdpEntry (id : String) (listener : Listener) : StepM Unit := do
  onUdpUnlisted (fun unlisted => .stopping listener (.loops 1) :: unlisted.tail)
  onUdpUnlisted (fun unlisted => .stopping listener (.loops 0) :: unlisted.tail)
  let sessions <- drainUdp id listener
  closeUdpSessions listener sessions

def udpDelete (id : String) : StepM Unit := do
  let removed <- removeUdp id
  match removed with
  | none => pure ()
  | some listener => stopUdpEntry id listener

/-!
# The facade operations
-/

def insertProtocol (id : String) (protocol : Protocol) : StepM Unit :=
  onRuntime (RealRuntime.insertProtocol id protocol)

def removeProtocol (id : String) : StepM Unit := onRuntime (RealRuntime.removeProtocol id)

def openProtocols (openTcp openUdp : Allocation -> StepM Unit)
    (failed : RuntimeError -> RuntimeError) (allocation : Allocation) : StepM Unit :=
  match allocation.protocol with
  | .tcp => do
      openTcp allocation
      insertProtocol allocation.id .tcp
  | .udp => do
      openUdp allocation
      insertProtocol allocation.id .udp
  | .both => do
      openTcp (RealRuntime.asProtocol allocation .tcp)
      let opened <- attempt (openUdp (RealRuntime.asProtocol allocation .udp))
      match opened with
      | .error error => do
          let _ <- attempt (tcpDelete allocation.id)
          throw (failed error)
      | .ok () => insertProtocol allocation.id .both

def create (binds : Binds) (allocation : Allocation) : StepM Unit :=
  openProtocols (tcpOpen .runtimeCreateFailed binds) (udpOpen .runtimeCreateFailed binds)
    (fun error => error) allocation

def update (allocation : Allocation) : StepM Unit :=
  match allocation.protocol with
  | .tcp => tcpUpdate allocation
  | .udp => udpUpdate allocation
  | .both => do
      tcpUpdate (RealRuntime.asProtocol allocation .tcp)
      udpUpdate (RealRuntime.asProtocol allocation .udp)

/-- `tcp.and(udp)`. -/
def resultAnd (tcp udp : Except RuntimeError Unit) : StepM Unit :=
  match tcp with
  | .error error => throw error
  | .ok () =>
      match udp with
      | .error error => throw error
      | .ok () => pure ()

def delete (id : String) : StepM Unit := do
  removeProtocol id
  let tcp <- attempt (tcpDelete id)
  let udp <- attempt (udpDelete id)
  resultAnd tcp udp

def restore (binds : Binds) (allocation : Allocation) : StepM Unit :=
  openProtocols (tcpOpen .runtimeRestoreFailed binds) (udpOpen .runtimeRestoreFailed binds)
    (fun _ => .runtimeRestoreFailed) allocation

/-- A call that is dropped after some steps, or not at all. -/
def call {value : Type} (program : StepM value) (left : Option Nat) (p : Proxy) :
    Except RuntimeError value × Proxy :=
  ((program.exec ⟨p, left⟩).1, (program.exec ⟨p, left⟩).2.proxy)

def facade : RuntimeFacade Proxy (Binds × Option Nat) where
  initializeRuntime := fun _ _ p => (.ok (), p)
  create := fun reply allocation _ => call (create reply.1 allocation) reply.2
  update := fun reply allocation _ => call (update allocation) reply.2
  delete := fun reply id _ => call (delete id) reply.2
  restore := fun reply allocation _ => call (restore reply.1 allocation) reply.2
  snapshot := fun id p => RealRuntime.snapshot id p.runtime

/-!
# Without a drop

The steps of a call that is not dropped come to what the call does as one.
-/

def Undropped (outlying : Outlying) (r : Running) (s : RealRuntime) : Prop :=
  r = ⟨⟨outlying, s⟩, none⟩

section Undropped

variable {outlying : Outlying}

theorem simulates_onRuntime {value : Type} (whole : RealRuntime.RealM value) :
    Simulates (Undropped outlying) (onRuntime whole) whole := by
  rintro r s rfl
  exact ⟨rfl, rfl⟩

theorem exec_step {value : Type} (effect : Proxy -> Except RuntimeError value × Proxy)
    (p : Proxy) :
    (step effect).exec ⟨p, none⟩ = ((effect p).1, ⟨(effect p).2, none⟩) := rfl

theorem simulates_tcpOpen (failure : RuntimeError) (binds : Binds) (allocation : Allocation) :
    Simulates (Undropped outlying) (tcpOpen failure binds allocation)
      (RealRuntime.tcpOpen failure binds allocation) := by
  rintro r s rfl
  have hwhole : (RealRuntime.tcpOpen failure binds allocation).exec s =
      ((openEntry tcpEntryKind s.bindHost binds.tcp failure allocation s.tcp).1,
        { s with
          tcp := (openEntry tcpEntryKind s.bindHost binds.tcp failure allocation
            s.tcp).2 }) := rfl
  rw [hwhole]
  unfold tcpOpen openEntry
  by_cases hprotocol : allocation.protocol = .tcp
  · have hkind : ¬ allocation.protocol ≠ tcpEntryKind.protocol := not_not_intro hprotocol
    rw [if_neg (not_not_intro hprotocol), if_neg hkind, exec_bind]
    unfold bindTcp
    rw [exec_step]
    cases hbind : bindEntry tcpEntryKind s.bindHost binds.tcp failure allocation with
    | error error => exact ⟨rfl, rfl⟩
    | ok entry => exact ⟨rfl, rfl⟩
  · have hkind : allocation.protocol ≠ tcpEntryKind.protocol := hprotocol
    rw [if_pos hprotocol, if_pos hkind]
    exact ⟨rfl, rfl⟩

theorem simulates_udpOpen (failure : RuntimeError) (binds : Binds) (allocation : Allocation) :
    Simulates (Undropped outlying) (udpOpen failure binds allocation)
      (RealRuntime.udpOpen failure binds allocation) := by
  rintro r s rfl
  have hwhole : (RealRuntime.udpOpen failure binds allocation).exec s =
      ((openEntry udpEntryKind s.bindHost binds.udp failure allocation s.udp).1,
        { s with
          udp := (openEntry udpEntryKind s.bindHost binds.udp failure allocation
            s.udp).2 }) := rfl
  rw [hwhole]
  unfold udpOpen openEntry
  by_cases hprotocol : allocation.protocol = .udp
  · have hkind : ¬ allocation.protocol ≠ udpEntryKind.protocol := not_not_intro hprotocol
    rw [if_neg (not_not_intro hprotocol), if_neg hkind, exec_bind]
    unfold bindUdp
    rw [exec_step]
    cases hbind : bindEntry udpEntryKind s.bindHost binds.udp failure allocation with
    | error error => exact ⟨rfl, rfl⟩
    | ok entry => exact ⟨rfl, rfl⟩
  · have hkind : allocation.protocol ≠ udpEntryKind.protocol := hprotocol
    rw [if_pos hprotocol, if_pos hkind]
    exact ⟨rfl, rfl⟩

/-- A delete of an entry that is not there changes nothing. -/
theorem deleteEntry_snd {entry : Type} (kind : EntryKind entry) (id : String)
    (entries : Entries entry) :
    (deleteEntry id entries).2 =
      match kind.listenerAt id entries with
      | none => entries
      | some _ => entries.erase id := by
  unfold deleteEntry EntryKind.listenerAt
  cases entries.lookup id with
  | none => rfl
  | some found => rfl

theorem exec_tcpDelete (id : String) (p : Proxy) :
    (tcpDelete id).exec ⟨p, none⟩ =
      (.ok (), ⟨{ p with runtime :=
        { p.runtime with tcp := (deleteEntry id p.runtime.tcp).2 } }, none⟩) := by
  unfold tcpDelete removeTcp
  rw [exec_bind, exec_step, deleteEntry_snd tcpEntryKind]
  cases tcpEntryKind.listenerAt id p.runtime.tcp with
  | none => rfl
  | some listener => rfl

theorem exec_closeUdpSessions (listener : Listener) (unlisted : List Unlisted) (sessions : Nat) :
    forall p : Proxy, p.udpUnlisted = heldBy listener sessions unlisted ->
      (closeUdpSessions listener sessions).exec ⟨p, none⟩ =
        (.ok (), ⟨{ p with udpUnlisted := unlisted }, none⟩) := by
  induction sessions with
  | zero =>
      intro p hunlisted
      have hnone : heldBy listener 0 unlisted = unlisted := if_pos rfl
      rw [hnone] at hunlisted
      rw [← hunlisted]
      rfl
  | succ sessions ih =>
      intro p hunlisted
      have hone : heldBy listener (sessions + 1) unlisted =
          .stopping listener (.sessions (sessions + 1)) :: unlisted :=
        if_neg (Nat.succ_ne_zero sessions)
      unfold closeUdpSessions onUdpUnlisted
      rw [exec_bind, exec_step, hunlisted, hone]
      exact ih _ rfl

theorem exec_stopUdpEntry (id : String) (listener : Listener) (p : Proxy) :
    (stopUdpEntry id listener).exec ⟨p, none⟩ =
      (.ok (), ⟨{ p with udpUnlisted := p.udpUnlisted.tail }, none⟩) := by
  show (closeUdpSessions listener (p.udpSessions id)).exec
    ⟨{ p with udpUnlisted := heldBy listener (p.udpSessions id) p.udpUnlisted.tail }, none⟩ = _
  exact exec_closeUdpSessions listener p.udpUnlisted.tail (p.udpSessions id) _ rfl

theorem exec_udpDelete (id : String) (p : Proxy) :
    (udpDelete id).exec ⟨p, none⟩ =
      (.ok (), ⟨{ p with runtime :=
        { p.runtime with udp := (deleteEntry id p.runtime.udp).2 } }, none⟩) := by
  unfold udpDelete removeUdp
  rw [exec_bind, exec_step, deleteEntry_snd udpEntryKind]
  cases udpEntryKind.listenerAt id p.runtime.udp with
  | none => rfl
  | some listener => exact exec_stopUdpEntry id listener _

theorem simulates_tcpDelete (id : String) :
    Simulates (Undropped outlying) (tcpDelete id) (RealRuntime.tcpDelete id) := by
  rintro r s rfl
  have hwhole : (RealRuntime.tcpDelete id).exec s =
      ((deleteEntry id s.tcp).1, { s with tcp := (deleteEntry id s.tcp).2 }) := rfl
  rw [exec_tcpDelete, hwhole, deleteEntry_fst]
  exact ⟨rfl, rfl⟩

theorem simulates_udpDelete (id : String) :
    Simulates (Undropped outlying) (udpDelete id) (RealRuntime.udpDelete id) := by
  rintro r s rfl
  have hwhole : (RealRuntime.udpDelete id).exec s =
      ((deleteEntry id s.udp).1, { s with udp := (deleteEntry id s.udp).2 }) := rfl
  rw [exec_udpDelete, hwhole, deleteEntry_fst]
  exact ⟨rfl, rfl⟩

theorem simulates_openProtocols {openTcp openUdp : Allocation -> StepM Unit}
    {wholeTcp wholeUdp : Allocation -> RealRuntime.RealM Unit}
    (htcp : forall allocation,
      Simulates (Undropped outlying) (openTcp allocation) (wholeTcp allocation))
    (hudp : forall allocation,
      Simulates (Undropped outlying) (openUdp allocation) (wholeUdp allocation))
    (failed : RuntimeError -> RuntimeError) (allocation : Allocation) :
    Simulates (Undropped outlying) (openProtocols openTcp openUdp failed allocation)
      (RealRuntime.openProtocols wholeTcp wholeUdp failed allocation) := by
  unfold openProtocols RealRuntime.openProtocols
  cases allocation.protocol with
  | tcp => exact simulates_bind (htcp allocation) (fun _ => simulates_onRuntime _)
  | udp => exact simulates_bind (hudp allocation) (fun _ => simulates_onRuntime _)
  | both =>
      apply simulates_bind (htcp _)
      intro _
      apply simulates_bind (simulates_attempt (hudp _))
      intro opened
      cases opened with
      | error error =>
          exact simulates_bind (simulates_attempt (simulates_tcpDelete _))
            (fun _ => simulates_throw _)
      | ok _ => exact simulates_onRuntime _

theorem simulates_create (binds : Binds) (allocation : Allocation) :
    Simulates (Undropped outlying) (create binds allocation)
      (RealRuntime.create binds allocation) :=
  simulates_openProtocols (simulates_tcpOpen _ binds) (simulates_udpOpen _ binds) _ allocation

theorem simulates_restore (binds : Binds) (allocation : Allocation) :
    Simulates (Undropped outlying) (restore binds allocation)
      (RealRuntime.restore binds allocation) :=
  simulates_openProtocols (simulates_tcpOpen _ binds) (simulates_udpOpen _ binds) _ allocation

theorem simulates_update (allocation : Allocation) :
    Simulates (Undropped outlying) (update allocation) (RealRuntime.update allocation) := by
  unfold update RealRuntime.update
  cases allocation.protocol with
  | tcp => exact simulates_onRuntime _
  | udp => exact simulates_onRuntime _
  | both => exact simulates_bind (simulates_onRuntime _) (fun _ => simulates_onRuntime _)

theorem simulates_delete (id : String) :
    Simulates (Undropped outlying) (delete id) (RealRuntime.delete id) := by
  unfold delete RealRuntime.delete
  apply simulates_bind (simulates_onRuntime _)
  intro _
  apply simulates_bind (simulates_attempt (simulates_tcpDelete id))
  intro tcp
  apply simulates_bind (simulates_attempt (simulates_udpDelete id))
  intro udp
  cases tcp with
  | error error => exact simulates_throw error
  | ok _ =>
      cases udp with
      | error error => exact simulates_throw error
      | ok _ => exact simulates_pure ()

end Undropped

theorem call_none {value : Type} {program : StepM value} {whole : RealRuntime.RealM value}
    (h : forall outlying, Simulates (Undropped outlying) program whole) (p : Proxy) :
    call program none p =
      ((whole.exec p.runtime).1, { p with runtime := (whole.exec p.runtime).2 }) := by
  rcases h p.toOutlying ⟨p, none⟩ p.runtime rfl with ⟨hresult, hstate⟩
  unfold call
  rw [hresult, show (program.exec ⟨p, none⟩).2 = _ from hstate]

/-!
# The listeners that are left
-/

/-- The listeners and their targets, in the tables and outside of them, and the protocol
under which an id is looked up for a snapshot. -/
structure Listeners where
  protocol : String -> Option Protocol
  tcp : String -> Option Listener
  udp : String -> Option Listener
  tcpUnlisted : List Unlisted
  udpUnlisted : List Unlisted

def Proxy.listeners (p : Proxy) : Listeners where
  protocol := fun id => p.runtime.protocols.lookup id
  tcp := fun id => tcpEntryKind.listenerAt id p.runtime.tcp
  udp := fun id => udpEntryKind.listenerAt id p.runtime.udp
  tcpUnlisted := p.tcpUnlisted
  udpUnlisted := p.udpUnlisted

/-- At most the listeners of this allocation have been added, of which one may be outside
of its table. -/
structure Opening (allocation : Allocation) (before after : Listeners) : Prop where
  protocol : forall id, after.protocol id = before.protocol id ∨
    (id = allocation.id ∧ after.protocol id = some allocation.protocol)
  tcp : forall id, after.tcp id = before.tcp id ∨ (allocation.protocol ≠ .udp ∧
    id = allocation.id ∧ after.tcp id = some (listenerOf allocation))
  udp : forall id, after.udp id = before.udp id ∨ (allocation.protocol ≠ .tcp ∧
    id = allocation.id ∧ after.udp id = some (listenerOf allocation))
  tcpUnlisted : after.tcpUnlisted = before.tcpUnlisted ∨ (allocation.protocol ≠ .udp ∧
    exists unlisted, unlisted.listener = listenerOf allocation ∧
      after.tcpUnlisted = unlisted :: before.tcpUnlisted)
  udpUnlisted : after.udpUnlisted = before.udpUnlisted ∨ (allocation.protocol ≠ .tcp ∧
    exists unlisted, unlisted.listener = listenerOf allocation ∧
      after.udpUnlisted = unlisted :: before.udpUnlisted)
  single : after.tcpUnlisted = before.tcpUnlisted ∨ after.udpUnlisted = before.udpUnlisted

/-- Each listener of this id is as before or as after, all others are as before. -/
structure Between (id : String) (before after dropped : Listeners) : Prop where
  protocol : dropped.protocol id = before.protocol id ∨ dropped.protocol id = after.protocol id
  tcp : dropped.tcp id = before.tcp id ∨ dropped.tcp id = after.tcp id
  udp : dropped.udp id = before.udp id ∨ dropped.udp id = after.udp id
  others : forall other, other ≠ id ->
    dropped.protocol other = before.protocol other ∧ dropped.tcp other = before.tcp other ∧
      dropped.udp other = before.udp other
  tcpUnlisted : dropped.tcpUnlisted = before.tcpUnlisted
  udpUnlisted : dropped.udpUnlisted = before.udpUnlisted

/-- Each listener of this id is as before or has left its table, all others are as before.
One that has left its table may not be taken down yet. -/
structure Removing (id : String) (before dropped : Listeners) : Prop where
  protocol : dropped.protocol id = before.protocol id ∨ dropped.protocol id = none
  tcp : dropped.tcp id = before.tcp id ∨ dropped.tcp id = none
  udp : dropped.udp id = before.udp id ∨ dropped.udp id = none
  others : forall other, other ≠ id ->
    dropped.protocol other = before.protocol other ∧ dropped.tcp other = before.tcp other ∧
      dropped.udp other = before.udp other
  tcpUnlisted : dropped.tcpUnlisted = before.tcpUnlisted ∨
    exists listener teardown, before.tcp id = some listener ∧ dropped.tcp id = none ∧
      dropped.tcpUnlisted = .stopping listener teardown :: before.tcpUnlisted
  udpUnlisted : dropped.udpUnlisted = before.udpUnlisted ∨
    exists listener teardown, before.udp id = some listener ∧ dropped.udp id = none ∧
      dropped.udpUnlisted = .stopping listener teardown :: before.udpUnlisted
  single : dropped.tcpUnlisted = before.tcpUnlisted ∨ dropped.udpUnlisted = before.udpUnlisted

theorem opening_refl (allocation : Allocation) (before : Listeners) :
    Opening allocation before before where
  protocol := fun _ => Or.inl rfl
  tcp := fun _ => Or.inl rfl
  udp := fun _ => Or.inl rfl
  tcpUnlisted := Or.inl rfl
  udpUnlisted := Or.inl rfl
  single := Or.inl rfl

theorem between_before (id : String) (before after : Listeners) :
    Between id before after before where
  protocol := Or.inl rfl
  tcp := Or.inl rfl
  udp := Or.inl rfl
  others := fun _ _ => ⟨rfl, rfl, rfl⟩
  tcpUnlisted := rfl
  udpUnlisted := rfl

theorem removing_refl (id : String) (before : Listeners) : Removing id before before where
  protocol := Or.inl rfl
  tcp := Or.inl rfl
  udp := Or.inl rfl
  others := fun _ _ => ⟨rfl, rfl, rfl⟩
  tcpUnlisted := Or.inl rfl
  udpUnlisted := Or.inl rfl
  single := Or.inl rfl

/-!
# Dropped calls
-/

/-- Nothing happens any more in a call that has been dropped. -/
theorem keeps_step {value : Type} (effect : Proxy -> Except RuntimeError value × Proxy)
    (p : Proxy) : Keeps (fun r => r = ⟨p, some 0⟩) (step effect) := by
  rintro r rfl
  rfl

theorem keeps_onRuntime {value : Type} (whole : RealRuntime.RealM value) (p : Proxy) :
    Keeps (fun r => r = ⟨p, some 0⟩) (onRuntime whole) :=
  keeps_step _ p

theorem keeps_tcpOpen (failure : RuntimeError) (binds : Binds) (allocation : Allocation)
    (p : Proxy) : Keeps (fun r => r = ⟨p, some 0⟩) (tcpOpen failure binds allocation) := by
  unfold tcpOpen
  split
  · exact keeps_pure _ _
  · exact keeps_bind (keeps_step _ p) (fun _ => keeps_step _ p)

theorem keeps_udpOpen (failure : RuntimeError) (binds : Binds) (allocation : Allocation)
    (p : Proxy) : Keeps (fun r => r = ⟨p, some 0⟩) (udpOpen failure binds allocation) := by
  unfold udpOpen
  split
  · exact keeps_pure _ _
  · exact keeps_bind (keeps_step _ p) (fun _ => keeps_step _ p)

theorem keeps_tcpDelete (id : String) (p : Proxy) :
    Keeps (fun r => r = ⟨p, some 0⟩) (tcpDelete id) := by
  unfold tcpDelete
  apply keeps_bind (keeps_step _ p)
  intro removed
  cases removed with
  | none => exact keeps_pure _ _
  | some listener => exact keeps_bind (keeps_step _ p) (fun _ => keeps_step _ p)

theorem keeps_closeUdpSessions (listener : Listener) (sessions : Nat) (p : Proxy) :
    Keeps (fun r => r = ⟨p, some 0⟩) (closeUdpSessions listener sessions) := by
  induction sessions with
  | zero => exact keeps_pure _ _
  | succ sessions ih => exact keeps_bind (keeps_step _ p) (fun _ => ih)

theorem keeps_udpDelete (id : String) (p : Proxy) :
    Keeps (fun r => r = ⟨p, some 0⟩) (udpDelete id) := by
  unfold udpDelete
  apply keeps_bind (keeps_step _ p)
  intro removed
  cases removed with
  | none => exact keeps_pure _ _
  | some listener =>
      apply keeps_bind (keeps_step _ p)
      intro _
      apply keeps_bind (keeps_step _ p)
      intro _
      apply keeps_bind (keeps_step _ p)
      intro sessions
      exact keeps_closeUdpSessions listener sessions p

theorem keeps_openProtocols {openTcp openUdp : Allocation -> StepM Unit} {p : Proxy}
    (htcp : forall allocation, Keeps (fun r => r = ⟨p, some 0⟩) (openTcp allocation))
    (hudp : forall allocation, Keeps (fun r => r = ⟨p, some 0⟩) (openUdp allocation))
    (failed : RuntimeError -> RuntimeError) (allocation : Allocation) :
    Keeps (fun r => r = ⟨p, some 0⟩) (openProtocols openTcp openUdp failed allocation) := by
  unfold openProtocols
  cases allocation.protocol with
  | tcp => exact keeps_bind (htcp _) (fun _ => keeps_onRuntime _ p)
  | udp => exact keeps_bind (hudp _) (fun _ => keeps_onRuntime _ p)
  | both =>
      apply keeps_bind (htcp _)
      intro _
      apply keeps_bind (keeps_attempt (hudp _))
      intro opened
      cases opened with
      | error error =>
          exact keeps_bind (keeps_attempt (keeps_tcpDelete _ p)) (fun _ => keeps_throw _ _)
      | ok _ => exact keeps_onRuntime _ p

theorem keeps_create (binds : Binds) (allocation : Allocation) (p : Proxy) :
    Keeps (fun r => r = ⟨p, some 0⟩) (create binds allocation) :=
  keeps_openProtocols (fun allocation => keeps_tcpOpen _ binds allocation p)
    (fun allocation => keeps_udpOpen _ binds allocation p) _ allocation

theorem keeps_restore (binds : Binds) (allocation : Allocation) (p : Proxy) :
    Keeps (fun r => r = ⟨p, some 0⟩) (restore binds allocation) :=
  keeps_openProtocols (fun allocation => keeps_tcpOpen _ binds allocation p)
    (fun allocation => keeps_udpOpen _ binds allocation p) _ allocation

theorem keeps_update (allocation : Allocation) (p : Proxy) :
    Keeps (fun r => r = ⟨p, some 0⟩) (update allocation) := by
  unfold update
  cases allocation.protocol with
  | tcp => exact keeps_onRuntime _ p
  | udp => exact keeps_onRuntime _ p
  | both => exact keeps_bind (keeps_onRuntime _ p) (fun _ => keeps_onRuntime _ p)

theorem keeps_delete (id : String) (p : Proxy) :
    Keeps (fun r => r = ⟨p, some 0⟩) (delete id) := by
  unfold delete
  apply keeps_bind (keeps_onRuntime _ p)
  intro _
  apply keeps_bind (keeps_attempt (keeps_tcpDelete id p))
  intro tcp
  apply keeps_bind (keeps_attempt (keeps_udpDelete id p))
  intro udp
  unfold resultAnd
  cases tcp with
  | error error => exact keeps_throw _ _
  | ok _ =>
      cases udp with
      | error error => exact keeps_throw _ _
      | ok _ => exact keeps_pure _ _

theorem call_zero {value : Type} {program : StepM value} {p : Proxy}
    (h : Keeps (fun r => r = ⟨p, some 0⟩) program) : (call program (some 0) p).2 = p :=
  congrArg Running.proxy (h ⟨p, some 0⟩ rfl)

theorem ensures_step {value : Type} {effect : Proxy -> Except RuntimeError value × Proxy}
    {post : Except RuntimeError value -> Running -> Prop} {r : Running}
    (hdropped : post (.error .timeout) ⟨r.proxy, some 0⟩)
    (htaken : forall left, post (effect r.proxy).1 ⟨(effect r.proxy).2, left⟩) :
    Ensures (step effect) post r := by
  unfold step
  rw [ensures_act]
  rcases r with ⟨p, left⟩
  cases left with
  | none => exact htaken none
  | some n =>
      cases n with
      | zero => exact hdropped
      | succ n => exact htaken (some n)

theorem ensures_onRuntime {value : Type} {whole : RealRuntime.RealM value}
    {post : Except RuntimeError value -> Running -> Prop} {r : Running}
    (hdropped : post (.error .timeout) ⟨r.proxy, some 0⟩)
    (htaken : forall left, post (whole.exec r.proxy.runtime).1
      ⟨{ r.proxy with runtime := (whole.exec r.proxy.runtime).2 }, left⟩) :
    Ensures (onRuntime whole) post r :=
  ensures_step hdropped htaken

theorem bindEntry_eq_ok {entry : Type} {kind : EntryKind entry} {bindHost : String}
    {binds : SocketAddr -> Bool} {failure : RuntimeError} {allocation : Allocation} {e : entry}
    (h : bindEntry kind bindHost binds failure allocation = .ok e) : e = kind.bound allocation := by
  unfold bindEntry at h
  split at h
  · cases h
  · split at h
    · cases h
      rfl
    · cases h

theorem listenerAt_bound {entry : Type} (kind : EntryKind entry) (allocation : Allocation)
    (id : String) (entries : Entries entry) :
    kind.listenerAt id (entries.insert allocation.id (kind.bound allocation)) =
      if id = allocation.id then some (listenerOf allocation) else kind.listenerAt id entries := by
  by_cases hid : id = allocation.id
  · rw [if_pos hid, hid, listenerAt_insert_self, kind.state_bound, kind.port_bound]
    rfl
  · rw [if_neg hid, listenerAt_insert_of_ne hid]

/-- Where opening a tcp listener can stop: nothing was bound, the listener is bound but
not in the table, or it is in the table. -/
theorem ensures_tcpOpen {failure : RuntimeError} {binds : Binds} {allocation : Allocation}
    {post : Except RuntimeError Unit -> Running -> Prop} {r : Running}
    (hprotocol : allocation.protocol = .tcp)
    (hnothing : forall error left, post (.error error) ⟨r.proxy, left⟩)
    (hbound : post (.error .timeout)
      ⟨{ r.proxy with
          tcpUnlisted := .serving (listenerOf allocation) :: r.proxy.tcpUnlisted }, some 0⟩)
    (hlisted : forall left, post (.ok ())
      ⟨{ r.proxy with
          runtime :=
            { r.proxy.runtime with
              tcp := r.proxy.runtime.tcp.insert allocation.id
                (tcpEntryKind.bound allocation) } }, left⟩) :
    Ensures (tcpOpen failure binds allocation) post r := by
  unfold tcpOpen
  rw [if_neg (not_not_intro hprotocol), ensures_bind]
  apply ensures_step
  · exact hnothing _ _
  · intro left
    cases hbind : bindEntry tcpEntryKind r.proxy.runtime.bindHost binds.tcp failure
        allocation with
    | error error => exact hnothing error left
    | ok entry =>
        cases bindEntry_eq_ok hbind
        apply ensures_step
        · exact hbound
        · exact hlisted

theorem ensures_udpOpen {failure : RuntimeError} {binds : Binds} {allocation : Allocation}
    {post : Except RuntimeError Unit -> Running -> Prop} {r : Running}
    (hprotocol : allocation.protocol = .udp)
    (hnothing : forall error left, post (.error error) ⟨r.proxy, left⟩)
    (hbound : post (.error .timeout)
      ⟨{ r.proxy with
          udpUnlisted := .serving (listenerOf allocation) :: r.proxy.udpUnlisted }, some 0⟩)
    (hlisted : forall left, post (.ok ())
      ⟨{ r.proxy with
          runtime :=
            { r.proxy.runtime with
              udp := r.proxy.runtime.udp.insert allocation.id
                (udpEntryKind.bound allocation) } }, left⟩) :
    Ensures (udpOpen failure binds allocation) post r := by
  unfold udpOpen
  rw [if_neg (not_not_intro hprotocol), ensures_bind]
  apply ensures_step
  · exact hnothing _ _
  · intro left
    cases hbind : bindEntry udpEntryKind r.proxy.runtime.bindHost binds.udp failure
        allocation with
    | error error => exact hnothing error left
    | ok entry =>
        cases bindEntry_eq_ok hbind
        apply ensures_step
        · exact hbound
        · exact hlisted

/-- Where a delete can stop: nothing was done, the entry has left its table and is not
taken down, or it is. -/
theorem ensures_tcpDelete {id : String} {post : Except RuntimeError Unit -> Running -> Prop}
    {r : Running} (hnothing : post (.error .timeout) ⟨r.proxy, some 0⟩)
    (hstopping : forall listener teardown,
      tcpEntryKind.listenerAt id r.proxy.runtime.tcp = some listener ->
      post (.error .timeout)
        ⟨{ r.proxy with
            runtime :=
              { r.proxy.runtime with tcp := (deleteEntry id r.proxy.runtime.tcp).2 }
            tcpUnlisted := .stopping listener teardown :: r.proxy.tcpUnlisted }, some 0⟩)
    (hremoved : forall left, post (.ok ())
      ⟨{ r.proxy with
          runtime :=
            { r.proxy.runtime with tcp := (deleteEntry id r.proxy.runtime.tcp).2 } }, left⟩) :
    Ensures (tcpDelete id) post r := by
  rw [deleteEntry_snd tcpEntryKind] at hstopping hremoved
  unfold tcpDelete
  rw [ensures_bind]
  apply ensures_step
  · exact hnothing
  intro left
  cases hlistener : tcpEntryKind.listenerAt id r.proxy.runtime.tcp with
  | none =>
      rw [hlistener] at hremoved
      exact hremoved left
  | some listener =>
      rw [hlistener] at hremoved hstopping
      rw [continues_ok]
      unfold stopTcpEntry
      rw [ensures_bind]
      apply ensures_step
      · exact hstopping listener (.loops 1) rfl
      intro left
      rw [continues_ok]
      apply ensures_step
      · exact hstopping listener (.loops 0) rfl
      · exact hremoved

theorem ensures_closeUdpSessions {listener : Listener} {unlisted : List Unlisted}
    {sessions : Nat} {post : Except RuntimeError Unit -> Running -> Prop} :
    forall (p : Proxy) (left : Option Nat),
      (forall left, post (.error .timeout)
        ⟨{ p with udpUnlisted := .stopping listener (.sessions left) :: unlisted }, some 0⟩) ->
      (forall left, post (.ok ()) ⟨{ p with udpUnlisted := unlisted }, left⟩) ->
      Ensures (closeUdpSessions listener sessions) post
        ⟨{ p with udpUnlisted := heldBy listener sessions unlisted }, left⟩ := by
  induction sessions with
  | zero =>
      intro p left _ hclosed
      exact hclosed left
  | succ sessions ih =>
      intro p left hstopping hclosed
      have hone : heldBy listener (sessions + 1) unlisted =
          .stopping listener (.sessions (sessions + 1)) :: unlisted :=
        if_neg (Nat.succ_ne_zero sessions)
      unfold closeUdpSessions
      rw [hone, ensures_bind]
      apply ensures_step
      · exact hstopping (sessions + 1)
      intro left
      exact ih p left hstopping hclosed

theorem ensures_udpDelete {id : String} {post : Except RuntimeError Unit -> Running -> Prop}
    {r : Running} (hnothing : post (.error .timeout) ⟨r.proxy, some 0⟩)
    (hstopping : forall listener teardown,
      udpEntryKind.listenerAt id r.proxy.runtime.udp = some listener ->
      post (.error .timeout)
        ⟨{ r.proxy with
            runtime :=
              { r.proxy.runtime with udp := (deleteEntry id r.proxy.runtime.udp).2 }
            udpUnlisted := .stopping listener teardown :: r.proxy.udpUnlisted }, some 0⟩)
    (hremoved : forall left, post (.ok ())
      ⟨{ r.proxy with
          runtime :=
            { r.proxy.runtime with udp := (deleteEntry id r.proxy.runtime.udp).2 } }, left⟩) :
    Ensures (udpDelete id) post r := by
  rw [deleteEntry_snd udpEntryKind] at hstopping hremoved
  unfold udpDelete
  rw [ensures_bind]
  apply ensures_step
  · exact hnothing
  intro left
  cases hlistener : udpEntryKind.listenerAt id r.proxy.runtime.udp with
  | none =>
      rw [hlistener] at hremoved
      exact hremoved left
  | some listener =>
      rw [hlistener] at hremoved hstopping
      have hopen : forall teardown, post (.error .timeout)
          ⟨{ r.proxy with
              runtime := { r.proxy.runtime with udp := r.proxy.runtime.udp.erase id }
              udpUnlisted := .stopping listener teardown :: r.proxy.udpUnlisted }, some 0⟩ :=
        fun teardown => hstopping listener teardown rfl
      rw [continues_ok]
      unfold stopUdpEntry
      rw [ensures_bind]
      apply ensures_step
      · exact hopen (.loops 2)
      intro left
      rw [continues_ok, ensures_bind]
      apply ensures_step
      · exact hopen (.loops 1)
      intro left
      rw [continues_ok, ensures_bind]
      apply ensures_step
      · exact hopen (.loops 0)
      intro left
      rw [continues_ok]
      apply ensures_closeUdpSessions
        { r.proxy with runtime := { r.proxy.runtime with udp := r.proxy.runtime.udp.erase id } }
      · exact fun left => hopen (.sessions left)
      · exact hremoved

/-!
# Opening, retargeting and removing
-/

section Tables

variable {entry : Type} (kind : EntryKind entry) {entries : Entries entry}
  {before : String -> Option Listener}

/-- A table that has at most gained the listener of an allocation gains it. -/
theorem gained_insert {allocation : Allocation} {serves : Prop} (hserves : serves)
    (h : forall id, kind.listenerAt id entries = before id ∨ (serves ∧ id = allocation.id ∧
      kind.listenerAt id entries = some (listenerOf allocation))) (id : String) :
    let listed := kind.listenerAt id (entries.insert allocation.id (kind.bound allocation))
    listed = before id ∨
      (serves ∧ id = allocation.id ∧ listed = some (listenerOf allocation)) := by
  intro listed
  have hlisted : listed = if id = allocation.id then some (listenerOf allocation)
      else kind.listenerAt id entries := listenerAt_bound kind allocation id entries
  rw [hlisted]
  by_cases hid : id = allocation.id
  · exact Or.inr ⟨hserves, hid, if_pos hid⟩
  · rw [if_neg hid]
    exact h id

/-- A table that has at most gained the listener of an allocation loses it again. -/
theorem gained_delete {allocation : Allocation} {serves : Prop}
    (hbefore : before allocation.id = none)
    (h : forall id, kind.listenerAt id entries = before id ∨ (serves ∧ id = allocation.id ∧
      kind.listenerAt id entries = some (listenerOf allocation))) (id : String) :
    let left := kind.listenerAt id (deleteEntry allocation.id entries).2
    left = before id ∨ (serves ∧ id = allocation.id ∧ left = some (listenerOf allocation)) := by
  intro left
  have hleft : left = if id = allocation.id then none else kind.listenerAt id entries :=
    listenerAt_deleteEntry ..
  rw [hleft]
  by_cases hid : id = allocation.id
  · rw [if_pos hid, hid, hbefore]
    exact Or.inl rfl
  · rw [if_neg hid]
    exact h id

theorem listenerAt_deleteEntry_self (id : String) :
    kind.listenerAt id (deleteEntry id entries).2 = none := by
  rw [listenerAt_deleteEntry, if_pos rfl]

theorem listenerAt_deleteEntry_of_ne {id other : String} (hother : other ≠ id) :
    kind.listenerAt other (deleteEntry id entries).2 = kind.listenerAt other entries := by
  rw [listenerAt_deleteEntry, if_neg hother]

end Tables

section Openings

variable {allocation : Allocation} {before : Listeners} {p : Proxy}

theorem Opening.listTcp (h : Opening allocation before p.listeners)
    (hprotocol : allocation.protocol ≠ .udp) :
    Opening allocation before
      { p with
        runtime :=
          { p.runtime with
            tcp := p.runtime.tcp.insert allocation.id
              (tcpEntryKind.bound allocation) } }.listeners := by
  constructor
  · exact h.protocol
  · exact gained_insert tcpEntryKind hprotocol h.tcp
  · exact h.udp
  · exact h.tcpUnlisted
  · exact h.udpUnlisted
  · exact h.single

theorem Opening.listUdp (h : Opening allocation before p.listeners)
    (hprotocol : allocation.protocol ≠ .tcp) :
    Opening allocation before
      { p with
        runtime :=
          { p.runtime with
            udp := p.runtime.udp.insert allocation.id
              (udpEntryKind.bound allocation) } }.listeners := by
  constructor
  · exact h.protocol
  · exact h.tcp
  · exact gained_insert udpEntryKind hprotocol h.udp
  · exact h.tcpUnlisted
  · exact h.udpUnlisted
  · exact h.single

theorem Opening.bindTcp (h : Opening allocation before p.listeners)
    (hprotocol : allocation.protocol ≠ .udp) (htcp : p.tcpUnlisted = before.tcpUnlisted)
    (hudp : p.udpUnlisted = before.udpUnlisted) :
    Opening allocation before
      { p with
        tcpUnlisted := .serving (listenerOf allocation) :: p.tcpUnlisted }.listeners := by
  have hbound := congrArg (List.cons (Unlisted.serving (listenerOf allocation))) htcp
  constructor
  · exact h.protocol
  · exact h.tcp
  · exact h.udp
  · exact Or.inr ⟨hprotocol, _, rfl, hbound⟩
  · exact h.udpUnlisted
  · exact Or.inr hudp

theorem Opening.bindUdp (h : Opening allocation before p.listeners)
    (hprotocol : allocation.protocol ≠ .tcp) (htcp : p.tcpUnlisted = before.tcpUnlisted)
    (hudp : p.udpUnlisted = before.udpUnlisted) :
    Opening allocation before
      { p with
        udpUnlisted := .serving (listenerOf allocation) :: p.udpUnlisted }.listeners := by
  have hbound := congrArg (List.cons (Unlisted.serving (listenerOf allocation))) hudp
  constructor
  · exact h.protocol
  · exact h.tcp
  · exact h.udp
  · exact h.tcpUnlisted
  · exact Or.inr ⟨hprotocol, _, rfl, hbound⟩
  · exact Or.inl htcp

theorem Opening.deleteTcp (h : Opening allocation before p.listeners)
    (hbefore : before.tcp allocation.id = none) :
    Opening allocation before
      { p with
        runtime :=
          { p.runtime with tcp := (deleteEntry allocation.id p.runtime.tcp).2 } }.listeners := by
  constructor
  · exact h.protocol
  · exact gained_delete tcpEntryKind hbefore h.tcp
  · exact h.udp
  · exact h.tcpUnlisted
  · exact h.udpUnlisted
  · exact h.single

/-- The listener that is stopped is the one that was opened. -/
theorem Opening.stopTcp (h : Opening allocation before p.listeners)
    (hbefore : before.tcp allocation.id = none) {listener : Listener} (teardown : Teardown)
    (hlistener : p.listeners.tcp allocation.id = some listener)
    (htcp : p.tcpUnlisted = before.tcpUnlisted) (hudp : p.udpUnlisted = before.udpUnlisted) :
    Opening allocation before
      { p with
        runtime := { p.runtime with tcp := (deleteEntry allocation.id p.runtime.tcp).2 }
        tcpUnlisted := .stopping listener teardown :: p.tcpUnlisted }.listeners := by
  have hdeleted := h.deleteTcp hbefore
  have hstopping := congrArg (List.cons (Unlisted.stopping listener teardown)) htcp
  constructor
  · exact hdeleted.protocol
  · exact hdeleted.tcp
  · exact hdeleted.udp
  · right
    rcases h.tcp allocation.id with hsame | ⟨hprotocol, _, hopened⟩
    · rw [hlistener, hbefore] at hsame
      cases hsame
    · rw [hlistener] at hopened
      exact ⟨hprotocol, .stopping listener teardown, Option.some.inj hopened, hstopping⟩
  · exact hdeleted.udpUnlisted
  · exact Or.inr hudp

theorem Opening.register (h : Opening allocation before p.listeners) {protocol : Protocol}
    (hprotocol : allocation.protocol = protocol) :
    Opening allocation before
      { p with
        runtime :=
          { p.runtime with
            protocols := p.runtime.protocols.insert allocation.id protocol } }.listeners := by
  constructor
  · intro id
    show (p.runtime.protocols.insert _ _).lookup id = _ ∨
      (_ ∧ (p.runtime.protocols.insert _ _).lookup id = _)
    by_cases hid : id = allocation.id
    · rw [hid, AList.lookup_insert, hprotocol]
      exact Or.inr ⟨rfl, rfl⟩
    · rw [AList.lookup_insert_ne hid]
      exact h.protocol id
  · exact h.tcp
  · exact h.udp
  · exact h.tcpUnlisted
  · exact h.udpUnlisted
  · exact h.single

end Openings

/-- However far a create or a restore comes, it leaves at most listeners of its own
allocation behind. -/
theorem openProtocols_opening {failure : RuntimeError} {binds : Binds}
    {failed : RuntimeError -> RuntimeError} {allocation : Allocation} {p : Proxy}
    (hunserved : p.listeners.tcp allocation.id = none) (left : Option Nat) :
    Ensures (openProtocols (tcpOpen failure binds) (udpOpen failure binds) failed allocation)
      (fun _ r => Opening allocation p.listeners r.proxy.listeners) ⟨p, left⟩ := by
  have hstart := opening_refl allocation p.listeners
  unfold openProtocols
  cases hprotocol : allocation.protocol with
  | tcp =>
      have htcp : allocation.protocol ≠ .udp := by
        rw [hprotocol]
        decide
      rw [ensures_bind]
      apply ensures_tcpOpen hprotocol
      · intro error left
        exact hstart
      · exact hstart.bindTcp htcp rfl rfl
      · intro left
        rw [continues_ok]
        apply ensures_onRuntime
        · exact hstart.listTcp htcp
        · intro left
          exact (hstart.listTcp htcp).register hprotocol
  | udp =>
      have hudp : allocation.protocol ≠ .tcp := by
        rw [hprotocol]
        decide
      rw [ensures_bind]
      apply ensures_udpOpen hprotocol
      · intro error left
        exact hstart
      · exact hstart.bindUdp hudp rfl rfl
      · intro left
        rw [continues_ok]
        apply ensures_onRuntime
        · exact hstart.listUdp hudp
        · intro left
          exact (hstart.listUdp hudp).register hprotocol
  | both =>
      have htcp : allocation.protocol ≠ .udp := by
        rw [hprotocol]
        decide
      have hudp : allocation.protocol ≠ .tcp := by
        rw [hprotocol]
        decide
      rw [ensures_bind]
      apply ensures_tcpOpen rfl
      · intro error left
        exact hstart
      · exact hstart.bindTcp htcp rfl rfl
      · intro left
        have hlisted := hstart.listTcp htcp
        rw [continues_ok, ensures_bind, ensures_attempt]
        apply ensures_udpOpen rfl
        · intro error left
          rw [continues_ok, ensures_bind, ensures_attempt]
          apply ensures_tcpDelete
          · exact hlisted
          · intro listener teardown hlistener
            exact hlisted.stopTcp hunserved teardown hlistener rfl rfl
          · intro left
            exact hlisted.deleteTcp hunserved
        · rw [continues_ok, ensures_bind, ensures_attempt]
          have hbound := hlisted.bindUdp hudp rfl rfl
          -- Dropped while udp was bound: the rollback is not run.
          refine ensures_mono ?_ (keeps_tcpDelete allocation.id _ _ rfl)
          rintro result r rfl
          exact hbound
        · intro left
          rw [continues_ok]
          apply ensures_onRuntime
          · exact hlisted.listUdp hudp
          · intro left
            exact (hlisted.listUdp hudp).register hprotocol

theorem create_opening (binds : Binds) {allocation : Allocation} {p : Proxy}
    (hunserved : p.listeners.tcp allocation.id = none) (left : Option Nat) :
    Opening allocation p.listeners (call (create binds allocation) left p).2.listeners :=
  openProtocols_opening hunserved left

/-- A create that fails takes down what it opened. -/
theorem create_error {binds : Binds} {allocation : Allocation} {p p' : Proxy}
    {error : RuntimeError}
    (hunserved : RealRuntime.servedAt allocation.id p.runtime = RealRuntime.servedFor none)
    (h : call (create binds allocation) none p = (.error error, p')) :
    p'.listeners = p.listeners ∧
      forall id, RealRuntime.servedAt id p'.runtime = RealRuntime.servedAt id p.runtime := by
  rw [call_none (fun _ => simulates_create binds allocation)] at h
  have hreserves := RealRuntime.create_reserves binds hunserved
  rw [ensures_exec] at hreserves
  rcases hcreate : (RealRuntime.create binds allocation).exec p.runtime with ⟨result, s⟩
  rw [hcreate] at h hreserves
  cases h
  have hserved : forall id, RealRuntime.servedAt id s = RealRuntime.servedAt id p.runtime := by
    intro id
    by_cases hid : id = allocation.id
    · rw [hid, hreserves.self, hunserved]
    · exact hreserves.frame id hid
  constructor
  · unfold Proxy.listeners
    congr 1
    · funext id
      exact congrArg RealRuntime.Served.protocol (hserved id)
    · funext id
      exact congrArg RealRuntime.Served.tcp (hserved id)
    · funext id
      exact congrArg RealRuntime.Served.udp (hserved id)
  · exact hserved

theorem listenerAt_updateEntry {entry : Type} {kind : EntryKind entry} {allocation : Allocation}
    {other : String} (hother : other ≠ allocation.id) (entries : Entries entry) :
    kind.listenerAt other (updateEntry kind allocation entries).2 =
      kind.listenerAt other entries := by
  unfold updateEntry
  cases entries.lookup allocation.id with
  | none => rfl
  | some found => exact listenerAt_insert_of_ne hother _ _

theorem between_after {id : String} {before after : Listeners}
    (hothers : forall other, other ≠ id ->
      after.protocol other = before.protocol other ∧ after.tcp other = before.tcp other ∧
        after.udp other = before.udp other)
    (htcp : after.tcpUnlisted = before.tcpUnlisted)
    (hudp : after.udpUnlisted = before.udpUnlisted) : Between id before after after where
  protocol := Or.inr rfl
  tcp := Or.inr rfl
  udp := Or.inr rfl
  others := hothers
  tcpUnlisted := htcp
  udpUnlisted := hudp

/-- A call of one step is taken or not. -/
theorem call_onRuntime {value : Type} (whole : RealRuntime.RealM value) (left : Option Nat)
    (p : Proxy) :
    (call (onRuntime whole) left p).2 = p ∨
      (call (onRuntime whole) left p).2 = (call (onRuntime whole) none p).2 := by
  cases left with
  | none => exact Or.inr rfl
  | some n =>
      cases n with
      | zero => exact Or.inl rfl
      | succ n => exact Or.inr rfl

def Proxy.withTcp (tcp : Entries TcpEntry) (p : Proxy) : Proxy :=
  { p with runtime := { p.runtime with tcp := tcp } }

def Proxy.withUdp (udp : Entries UdpEntry) (p : Proxy) : Proxy :=
  { p with runtime := { p.runtime with udp := udp } }

theorem between_of_single {id : String} {whole : RealRuntime.RealM Unit} {p : Proxy}
    (hothers : forall other, other ≠ id ->
      (call (onRuntime whole) none p).2.listeners.protocol other = p.listeners.protocol other ∧
        (call (onRuntime whole) none p).2.listeners.tcp other = p.listeners.tcp other ∧
        (call (onRuntime whole) none p).2.listeners.udp other = p.listeners.udp other)
    (left : Option Nat) :
    Between id p.listeners (call (onRuntime whole) none p).2.listeners
      (call (onRuntime whole) left p).2.listeners := by
  rcases call_onRuntime whole left p with hleft | hleft
  · rw [hleft]
    exact between_before _ _ _
  · rw [hleft]
    exact between_after hothers rfl rfl

/-- The states in which an update of both protocols can stop: tcp comes first, and udp
only when tcp was found. -/
theorem updateBoth_cases (tcp udp : Allocation) (p : Proxy) :
    let both := do
      tcpUpdate tcp
      udpUpdate udp
    let retargeted := p.withTcp (updateEntry tcpEntryKind tcp p.runtime.tcp).2
    ((call both none p).2 = retargeted ∨
        (call both none p).2 =
          retargeted.withUdp (updateEntry udpEntryKind udp p.runtime.udp).2) ∧
      forall left, (call both left p).2 = p ∨ (call both left p).2 = retargeted ∨
        (call both left p).2 = (call both none p).2 := by
  intro both retargeted
  have hcall : forall left, (call both left p).2 =
      ((tcpUpdate tcp >>= fun _ => udpUpdate udp).exec ⟨p, left⟩).2.proxy := fun _ => rfl
  have hnone : (tcpUpdate tcp).exec ⟨p, none⟩ =
      ((updateEntry tcpEntryKind tcp p.runtime.tcp).1, ⟨retargeted, none⟩) := rfl
  have hsucc : forall n, (tcpUpdate tcp).exec ⟨p, some (n + 1)⟩ =
      ((updateEntry tcpEntryKind tcp p.runtime.tcp).1, ⟨retargeted, some n⟩) := fun _ => rfl
  cases hupdate : (updateEntry tcpEntryKind tcp p.runtime.tcp).1 with
  | error error =>
      have hfull : (call both none p).2 = retargeted := by
        rw [hcall, exec_bind, hnone, hupdate]
      have hcut : forall n, (call both (some (n + 1)) p).2 = retargeted := by
        intro n
        rw [hcall, exec_bind, hsucc, hupdate]
      constructor
      · exact Or.inl hfull
      · intro left
        cases left with
        | none => exact Or.inr (Or.inl hfull)
        | some n =>
            cases n with
            | zero => exact Or.inl rfl
            | succ n => exact Or.inr (Or.inl (hcut n))
  | ok _ =>
      have hfull : (call both none p).2 =
          retargeted.withUdp (updateEntry udpEntryKind udp p.runtime.udp).2 := by
        rw [hcall, exec_bind, hnone, hupdate]
        rfl
      have hone : (call both (some 1) p).2 = retargeted := by
        rw [hcall, exec_bind, hsucc, hupdate]
        rfl
      have hmore : forall n, (call both (some (n + 2)) p).2 =
          retargeted.withUdp (updateEntry udpEntryKind udp p.runtime.udp).2 := by
        intro n
        rw [hcall, exec_bind, hsucc, hupdate]
        rfl
      constructor
      · exact Or.inr hfull
      · intro left
        match left with
        | none => exact Or.inr (Or.inr rfl)
        | some 0 => exact Or.inl rfl
        | some 1 => exact Or.inr (Or.inl hone)
        | some (n + 2) => exact Or.inr (Or.inr ((hmore n).trans hfull.symm))

/-- However far an update comes, each listener has its old or its new target. -/
theorem update_between (allocation : Allocation) (p : Proxy) (left : Option Nat) :
    Between allocation.id p.listeners (call (update allocation) none p).2.listeners
      (call (update allocation) left p).2.listeners := by
  unfold update
  cases allocation.protocol with
  | tcp =>
      apply between_of_single
      intro other hother
      exact ⟨rfl, listenerAt_updateEntry hother p.runtime.tcp, rfl⟩
  | udp =>
      apply between_of_single
      intro other hother
      exact ⟨rfl, rfl, listenerAt_updateEntry hother p.runtime.udp⟩
  | both =>
      rcases updateBoth_cases (RealRuntime.asProtocol allocation .tcp)
        (RealRuntime.asProtocol allocation .udp) p with ⟨hfull, hleft⟩
      have htcpOther : forall other, other ≠ allocation.id ->
          tcpEntryKind.listenerAt other (updateEntry tcpEntryKind
            (RealRuntime.asProtocol allocation .tcp) p.runtime.tcp).2 =
              p.listeners.tcp other :=
        fun other hother => listenerAt_updateEntry hother p.runtime.tcp
      have hudpOther : forall other, other ≠ allocation.id ->
          udpEntryKind.listenerAt other (updateEntry udpEntryKind
            (RealRuntime.asProtocol allocation .udp) p.runtime.udp).2 =
              p.listeners.udp other :=
        fun other hother => listenerAt_updateEntry hother p.runtime.udp
      rcases hleft left with hnone | htcp | hdone
      · rw [hnone]
        exact between_before _ _ _
      · rw [htcp]
        constructor
        · exact Or.inl rfl
        · right
          rcases hfull with hfull | hfull
          · rw [hfull]
          · rw [hfull]
            rfl
        · exact Or.inl rfl
        · intro other hother
          exact ⟨rfl, htcpOther other hother, rfl⟩
        · rfl
        · rfl
      · rw [hdone]
        rcases hfull with hfull | hfull
        · rw [hfull]
          exact between_after (fun other hother => ⟨rfl, htcpOther other hother, rfl⟩) rfl rfl
        · rw [hfull]
          exact between_after (fun other hother =>
            ⟨rfl, htcpOther other hother, hudpOther other hother⟩) rfl rfl

section Removals

variable {id : String} {before : Listeners} {p : Proxy}

/-- What is still listed was listed before. -/
theorem before_of_listed {before left : Option Listener} {listener : Listener}
    (h : left = before ∨ left = none) (hlistener : left = some listener) :
    before = some listener := by
  rcases h with hkept | hnone
  · rw [← hkept]
    exact hlistener
  · rw [hlistener] at hnone
    cases hnone

theorem Removing.unregister (h : Removing id before p.listeners) :
    Removing id before
      { p with
        runtime :=
          { p.runtime with protocols := p.runtime.protocols.erase id } }.listeners := by
  constructor
  · right
    show AList.lookup id (p.runtime.protocols.erase id) = none
    exact AList.lookup_erase _ _
  · exact h.tcp
  · exact h.udp
  · intro other hother
    rcases h.others other hother with ⟨hprotocol, htcp, hudp⟩
    constructor
    · show AList.lookup other (p.runtime.protocols.erase id) = _
      rw [AList.lookup_erase_ne hother]
      exact hprotocol
    · exact ⟨htcp, hudp⟩
  · exact h.tcpUnlisted
  · exact h.udpUnlisted
  · exact h.single

theorem Removing.deleteTcp (h : Removing id before p.listeners) :
    Removing id before
      { p with
        runtime := { p.runtime with tcp := (deleteEntry id p.runtime.tcp).2 } }.listeners := by
  have hgone : tcpEntryKind.listenerAt id (deleteEntry id p.runtime.tcp).2 = none :=
    listenerAt_deleteEntry_self tcpEntryKind id
  constructor
  · exact h.protocol
  · exact Or.inr hgone
  · exact h.udp
  · intro other hother
    rcases h.others other hother with ⟨hprotocol, htcp, hudp⟩
    exact ⟨hprotocol, (listenerAt_deleteEntry_of_ne tcpEntryKind hother).trans htcp, hudp⟩
  · rcases h.tcpUnlisted with hkept | ⟨listener, teardown, hbefore, _, hstopping⟩
    · exact Or.inl hkept
    · exact Or.inr ⟨listener, teardown, hbefore, hgone, hstopping⟩
  · exact h.udpUnlisted
  · exact h.single

theorem Removing.stopTcp (h : Removing id before p.listeners) {listener : Listener}
    (teardown : Teardown) (hlistener : p.listeners.tcp id = some listener)
    (htcp : p.tcpUnlisted = before.tcpUnlisted) (hudp : p.udpUnlisted = before.udpUnlisted) :
    Removing id before
      { p with
        runtime := { p.runtime with tcp := (deleteEntry id p.runtime.tcp).2 }
        tcpUnlisted := .stopping listener teardown :: p.tcpUnlisted }.listeners := by
  have hdeleted := h.deleteTcp
  have hgone : tcpEntryKind.listenerAt id (deleteEntry id p.runtime.tcp).2 = none :=
    listenerAt_deleteEntry_self tcpEntryKind id
  have hstopping := congrArg (List.cons (Unlisted.stopping listener teardown)) htcp
  have hbefore : before.tcp id = some listener := before_of_listed h.tcp hlistener
  constructor
  · exact hdeleted.protocol
  · exact hdeleted.tcp
  · exact hdeleted.udp
  · exact hdeleted.others
  · exact Or.inr ⟨listener, teardown, hbefore, hgone, hstopping⟩
  · exact hdeleted.udpUnlisted
  · exact Or.inr hudp

theorem Removing.deleteUdp (h : Removing id before p.listeners) :
    Removing id before
      { p with
        runtime := { p.runtime with udp := (deleteEntry id p.runtime.udp).2 } }.listeners := by
  have hgone : udpEntryKind.listenerAt id (deleteEntry id p.runtime.udp).2 = none :=
    listenerAt_deleteEntry_self udpEntryKind id
  constructor
  · exact h.protocol
  · exact h.tcp
  · exact Or.inr hgone
  · intro other hother
    rcases h.others other hother with ⟨hprotocol, htcp, hudp⟩
    exact ⟨hprotocol, htcp, (listenerAt_deleteEntry_of_ne udpEntryKind hother).trans hudp⟩
  · exact h.tcpUnlisted
  · rcases h.udpUnlisted with hkept | ⟨listener, teardown, hbefore, _, hstopping⟩
    · exact Or.inl hkept
    · exact Or.inr ⟨listener, teardown, hbefore, hgone, hstopping⟩
  · exact h.single

theorem Removing.stopUdp (h : Removing id before p.listeners) {listener : Listener}
    (teardown : Teardown) (hlistener : p.listeners.udp id = some listener)
    (htcp : p.tcpUnlisted = before.tcpUnlisted) (hudp : p.udpUnlisted = before.udpUnlisted) :
    Removing id before
      { p with
        runtime := { p.runtime with udp := (deleteEntry id p.runtime.udp).2 }
        udpUnlisted := .stopping listener teardown :: p.udpUnlisted }.listeners := by
  have hdeleted := h.deleteUdp
  have hgone : udpEntryKind.listenerAt id (deleteEntry id p.runtime.udp).2 = none :=
    listenerAt_deleteEntry_self udpEntryKind id
  have hstopping := congrArg (List.cons (Unlisted.stopping listener teardown)) hudp
  have hbefore : before.udp id = some listener := before_of_listed h.udp hlistener
  constructor
  · exact hdeleted.protocol
  · exact hdeleted.tcp
  · exact hdeleted.udp
  · exact hdeleted.others
  · exact hdeleted.tcpUnlisted
  · exact Or.inr ⟨listener, teardown, hbefore, hgone, hstopping⟩
  · exact Or.inl htcp

end Removals

/-- However far a delete comes, each listener is still in its table, on its way to be taken
down or gone. -/
theorem delete_removing (id : String) (p : Proxy) (left : Option Nat) :
    Removing id p.listeners (call (delete id) left p).2.listeners := by
  have hend : forall {tcp udp : Except RuntimeError Unit} {r : Running},
      Removing id p.listeners r.proxy.listeners ->
      Ensures (resultAnd tcp udp) (fun _ r => Removing id p.listeners r.proxy.listeners) r := by
    intro tcp udp r h
    cases tcp with
    | error error => exact h
    | ok _ =>
        cases udp with
        | error error => exact h
        | ok _ => exact h
  -- Dropped in the tcp runtime: the delete of the udp listener is not run.
  have hdropped : forall {tcp : Except RuntimeError Unit} {p' : Proxy},
      Removing id p.listeners p'.listeners ->
      Ensures (attempt (udpDelete id) >>= resultAnd tcp)
        (fun _ r => Removing id p.listeners r.proxy.listeners) ⟨p', some 0⟩ := by
    intro tcp p' h
    rw [ensures_bind, ensures_attempt]
    refine ensures_mono ?_ (keeps_udpDelete id p' _ rfl)
    rintro udp r rfl
    exact hend h
  have hstart := removing_refl id p.listeners
  show Ensures (delete id) (fun _ r => Removing id p.listeners r.proxy.listeners) ⟨p, left⟩
  unfold delete
  rw [ensures_bind]
  apply ensures_onRuntime
  · exact hstart
  intro left
  have hunregistered := hstart.unregister
  change Continues _ _ (.ok ()) _
  rw [continues_ok, ensures_bind, ensures_attempt]
  apply ensures_tcpDelete
  · exact hdropped hunregistered
  · intro listener teardown hlistener
    exact hdropped (hunregistered.stopTcp teardown hlistener rfl rfl)
  intro left
  have hremoved := hunregistered.deleteTcp
  rw [continues_ok, ensures_bind, ensures_attempt]
  apply ensures_udpDelete
  · exact hend hremoved
  · intro listener teardown hlistener
    exact hend (hremoved.stopUdp teardown hlistener rfl rfl)
  · intro left
    exact hend hremoved.deleteUdp

end RealSteps
end Runtime
end Relayd
