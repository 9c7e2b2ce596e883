import Relayd.Runtime.Listener

/-!
# The proxy runtime

`RealRuntime` runs the tcp and the udp listeners of an allocation and remembers
the protocol an id was opened with.  Creating or restoring for both protocols
opens tcp first and takes it down again when udp cannot be opened.
-/

namespace Relayd
namespace Runtime

open Foundation Fallible

/-!
# The tcp and the udp runtime behind the facade
-/

structure TcpEntry where
  port : UInt16
  state : EntryState
deriving DecidableEq, Repr

def tcpEntryKind : EntryKind TcpEntry where
  protocol := .tcp
  port := TcpEntry.port
  state := TcpEntry.state
  bound := fun allocation => ⟨allocation.port, entryStateFor allocation⟩
  retargeted := fun allocation e => { e with state := entryStateFor allocation }
  port_bound := fun _ => rfl
  state_bound := fun _ => rfl
  port_retargeted := fun _ _ => rfl
  state_retargeted := fun _ _ => rfl

structure UdpEntry where
  port : UInt16
  state : EntryState
  generation : UInt64
deriving DecidableEq, Repr

def saturatingSucc (generation : UInt64) : UInt64 :=
  if generation.toNat + 1 < 2 ^ 64 then generation + 1 else generation

def udpEntryKind : EntryKind UdpEntry where
  protocol := .udp
  port := UdpEntry.port
  state := UdpEntry.state
  bound := fun allocation => ⟨allocation.port, entryStateFor allocation, 0⟩
  retargeted := fun allocation e =>
    { e with
      state := entryStateFor allocation
      generation := saturatingSucc e.generation }
  port_bound := fun _ => rfl
  state_bound := fun _ => rfl
  port_retargeted := fun _ _ => rfl
  state_retargeted := fun _ _ => rfl

structure RealRuntime where
  bindHost : String
  tcp : Entries TcpEntry
  udp : Entries UdpEntry
  protocols : AList (fun _ : String => Protocol)

/-- The binds the operating system grants during one call. -/
structure Binds where
  tcp : SocketAddr -> Bool
  udp : SocketAddr -> Bool

namespace RealRuntime

def new (bindHost : String) : RealRuntime := ⟨bindHost, ∅, ∅, ∅⟩

abbrev RealM := Fallible RealRuntime RuntimeError

def onTcp (call : String -> Entries TcpEntry -> Except RuntimeError Unit × Entries TcpEntry) :
    RealM Unit :=
  act (fun s =>
    let outcome := call s.bindHost s.tcp
    (outcome.1, { s with tcp := outcome.2 }))

def onUdp (call : String -> Entries UdpEntry -> Except RuntimeError Unit × Entries UdpEntry) :
    RealM Unit :=
  act (fun s =>
    let outcome := call s.bindHost s.udp
    (outcome.1, { s with udp := outcome.2 }))

def tcpOpen (failure : RuntimeError) (binds : Binds) (allocation : Allocation) :
    RealM Unit :=
  onTcp (fun bindHost =>
    openEntry tcpEntryKind bindHost binds.tcp failure allocation)

def tcpCreate : Binds -> Allocation -> RealM Unit := tcpOpen .runtimeCreateFailed

def tcpRestore : Binds -> Allocation -> RealM Unit := tcpOpen .runtimeRestoreFailed

def tcpUpdate (allocation : Allocation) : RealM Unit :=
  onTcp (fun _ => updateEntry tcpEntryKind allocation)

def tcpDelete (id : String) : RealM Unit :=
  onTcp (fun _ => deleteEntry id)

def udpOpen (failure : RuntimeError) (binds : Binds) (allocation : Allocation) :
    RealM Unit :=
  onUdp (fun bindHost =>
    openEntry udpEntryKind bindHost binds.udp failure allocation)

def udpCreate : Binds -> Allocation -> RealM Unit := udpOpen .runtimeCreateFailed

def udpRestore : Binds -> Allocation -> RealM Unit := udpOpen .runtimeRestoreFailed

def udpUpdate (allocation : Allocation) : RealM Unit :=
  onUdp (fun _ => updateEntry udpEntryKind allocation)

def udpDelete (id : String) : RealM Unit :=
  onUdp (fun _ => deleteEntry id)

/-!
# The facade operations
-/

def asProtocol (allocation : Allocation) (protocol : Protocol) : Allocation :=
  { allocation with protocol := protocol }

def insertProtocol (id : String) (protocol : Protocol) : RealM Unit :=
  act (fun s => (.ok (), { s with protocols := s.protocols.insert id protocol }))

def removeProtocol (id : String) : RealM Unit :=
  act (fun s => (.ok (), { s with protocols := s.protocols.erase id }))

/-- The body shared by create and restore; `failed` is what is reported when udp
could not be opened after tcp. -/
def openProtocols (openTcp openUdp : Allocation -> RealM Unit)
    (failed : RuntimeError -> RuntimeError) (allocation : Allocation) :
    RealM Unit :=
  match allocation.protocol with
  | .tcp => do
      openTcp allocation
      insertProtocol allocation.id .tcp
  | .udp => do
      openUdp allocation
      insertProtocol allocation.id .udp
  | .both => do
      openTcp (asProtocol allocation .tcp)
      let opened <- attempt (openUdp (asProtocol allocation .udp))
      match opened with
      | .error error => do
          let _ <- attempt (tcpDelete allocation.id)
          throw (failed error)
      | .ok () => insertProtocol allocation.id .both

def create (binds : Binds) (allocation : Allocation) : RealM Unit :=
  openProtocols (tcpCreate binds) (udpCreate binds) (fun error => error) allocation

def update (allocation : Allocation) : RealM Unit :=
  match allocation.protocol with
  | .tcp => tcpUpdate allocation
  | .udp => udpUpdate allocation
  | .both => do
      tcpUpdate (asProtocol allocation .tcp)
      udpUpdate (asProtocol allocation .udp)

def delete (id : String) : RealM Unit := do
  removeProtocol id
  let tcp <- attempt (tcpDelete id)
  let udp <- attempt (udpDelete id)
  -- `tcp.and(udp)`
  match tcp with
  | .error error => throw error
  | .ok () =>
      match udp with
      | .error error => throw error
      | .ok () => pure ()

def restore (binds : Binds) (allocation : Allocation) : RealM Unit :=
  openProtocols (tcpRestore binds) (udpRestore binds)
    (fun _ => .runtimeRestoreFailed) allocation

def degradedFrom (state : ObservedState) (message : String) : ObservedState :=
  { state with
    runtimeStatus := .degradedApplyFailed
    errorKind := some .applyFailed
    lastError := some message }

def aggregateSnapshot : Option ObservedState -> Option ObservedState ->
    Option ObservedState
  | some tcp, some udp =>
      if tcp = udp then some tcp
      else some (degradedFrom tcp "divergent tcp/udp runtime state")
  | some tcp, none => some (degradedFrom tcp "missing udp runtime state")
  | none, some udp => some (degradedFrom udp "missing tcp runtime state")
  | none, none => none

def snapshot (id : String) (s : RealRuntime) :
    Except RuntimeError (Option ObservedState) :=
  match s.protocols.lookup id with
  | some .tcp => snapshotEntry tcpEntryKind id s.tcp
  | some .udp => snapshotEntry udpEntryKind id s.udp
  | some .both => do
      let tcp <- snapshotEntry tcpEntryKind id s.tcp
      let udp <- snapshotEntry udpEntryKind id s.udp
      .ok (aggregateSnapshot tcp udp)
  | none => .ok none

/-- `RealRuntime` as the service drives it; no operation looks at its timeout. -/
def facade : RuntimeFacade RealRuntime Binds where
  initializeRuntime := fun _ _ s => (.ok (), s)
  create := fun binds allocation _ => (create binds allocation).exec
  update := fun _ allocation _ => (update allocation).exec
  delete := fun _ id _ => (delete id).exec
  restore := fun binds allocation _ => (restore binds allocation).exec
  snapshot := snapshot

/-!
# What an id is served by
-/

/-- The three maps of the runtime, read at one id. -/
structure Served where
  protocol : Option Protocol
  tcp : Option Listener
  udp : Option Listener
deriving DecidableEq, Repr

def servedAt (id : String) (s : RealRuntime) : Served where
  protocol := s.protocols.lookup id
  tcp := tcpEntryKind.listenerAt id s.tcp
  udp := udpEntryKind.listenerAt id s.udp

/-- What an id has to be served by when this allocation, or none, is stored
under it. -/
def servedFor : Option Allocation -> Served
  | none => ⟨none, none, none⟩
  | some allocation =>
      { protocol := some allocation.protocol
        tcp :=
          if .tcp ∈ protocolsFor allocation.protocol then some (listenerOf allocation)
          else none
        udp :=
          if .udp ∈ protocolsFor allocation.protocol then some (listenerOf allocation)
          else none }

/-- One id is served anew, every other id as before. -/
structure Reserves (id : String) (found : Option Allocation)
    (s s' : RealRuntime) : Prop where
  self : servedAt id s' = servedFor found
  frame : forall other, other ≠ id -> servedAt other s' = servedAt other s

/-!
# Rules for the parts
-/

@[simp] theorem ensures_onTcp
    (call : String -> Entries TcpEntry -> Except RuntimeError Unit × Entries TcpEntry)
    (post : Except RuntimeError Unit -> RealRuntime -> Prop) (s : RealRuntime) :
    Ensures (onTcp call) post s =
      post (call s.bindHost s.tcp).1 { s with tcp := (call s.bindHost s.tcp).2 } := rfl

@[simp] theorem ensures_onUdp
    (call : String -> Entries UdpEntry -> Except RuntimeError Unit × Entries UdpEntry)
    (post : Except RuntimeError Unit -> RealRuntime -> Prop) (s : RealRuntime) :
    Ensures (onUdp call) post s =
      post (call s.bindHost s.udp).1 { s with udp := (call s.bindHost s.udp).2 } := rfl

@[simp] theorem ensures_tcpDelete (id : String) (s : RealRuntime)
    (post : Except RuntimeError Unit -> RealRuntime -> Prop) :
    Ensures (tcpDelete id) post s =
      post (.ok ()) { s with tcp := (deleteEntry id s.tcp).2 } := by
  unfold tcpDelete
  rw [ensures_onTcp, deleteEntry_fst]

@[simp] theorem ensures_udpDelete (id : String) (s : RealRuntime)
    (post : Except RuntimeError Unit -> RealRuntime -> Prop) :
    Ensures (udpDelete id) post s =
      post (.ok ()) { s with udp := (deleteEntry id s.udp).2 } := by
  unfold udpDelete
  rw [ensures_onUdp, deleteEntry_fst]

@[simp] theorem ensures_insertProtocol (id : String) (protocol : Protocol)
    (s : RealRuntime) (post : Except RuntimeError Unit -> RealRuntime -> Prop) :
    Ensures (insertProtocol id protocol) post s =
      post (.ok ()) { s with protocols := s.protocols.insert id protocol } := rfl

@[simp] theorem ensures_removeProtocol (id : String) (s : RealRuntime)
    (post : Except RuntimeError Unit -> RealRuntime -> Prop) :
    Ensures (removeProtocol id) post s =
      post (.ok ()) { s with protocols := s.protocols.erase id } := rfl

/-!
# The operations
-/

/-- What opening the listeners of an allocation comes to: a listener that cannot be bound
leaves everything as it was, except that the tcp listener of a pair has been inserted and
deleted when the udp listener fails. -/
inductive Opens (failure : RuntimeError) (failed : RuntimeError -> RuntimeError)
    (allocation : Allocation) (s : RealRuntime) :
    Except RuntimeError Unit -> RealRuntime -> Prop where
  | refused : Opens failure failed allocation s (.error failure) s
  | undone (hprotocol : allocation.protocol = .both) :
      Opens failure failed allocation s (.error (failed failure))
        { s with
          tcp := (deleteEntry allocation.id
            (s.tcp.insert allocation.id (tcpEntryKind.bound allocation))).2 }
  | tcp (hprotocol : allocation.protocol = .tcp) :
      Opens failure failed allocation s (.ok ())
        { s with
          tcp := s.tcp.insert allocation.id (tcpEntryKind.bound allocation)
          protocols := s.protocols.insert allocation.id .tcp }
  | udp (hprotocol : allocation.protocol = .udp) :
      Opens failure failed allocation s (.ok ())
        { s with
          udp := s.udp.insert allocation.id (udpEntryKind.bound allocation)
          protocols := s.protocols.insert allocation.id .udp }
  | both (hprotocol : allocation.protocol = .both) :
      Opens failure failed allocation s (.ok ())
        { s with
          tcp := s.tcp.insert allocation.id (tcpEntryKind.bound allocation)
          udp := s.udp.insert allocation.id (udpEntryKind.bound allocation)
          protocols := s.protocols.insert allocation.id .both }

theorem openProtocols_opens (failure : RuntimeError) (binds : Binds)
    (failed : RuntimeError -> RuntimeError) (allocation : Allocation) (s : RealRuntime) :
    Ensures (openProtocols (tcpOpen failure binds) (udpOpen failure binds) failed allocation)
      (Opens failure failed allocation s) s := by
  unfold openProtocols tcpOpen udpOpen
  cases hprotocol : allocation.protocol with
  | tcp =>
      have htcp : allocation.protocol = tcpEntryKind.protocol := hprotocol
      rw [ensures_bind, ensures_onTcp]
      rcases openEntry_cases s.bindHost binds.tcp failure htcp s.tcp with hopen | hopen
      · rw [hopen]
        exact Opens.refused
      · rw [hopen, continues_ok, ensures_insertProtocol]
        exact Opens.tcp hprotocol
  | udp =>
      have hudp : allocation.protocol = udpEntryKind.protocol := hprotocol
      rw [ensures_bind, ensures_onUdp]
      rcases openEntry_cases s.bindHost binds.udp failure hudp s.udp with hopen | hopen
      · rw [hopen]
        exact Opens.refused
      · rw [hopen, continues_ok, ensures_insertProtocol]
        exact Opens.udp hprotocol
  | both =>
      have htcp : (asProtocol allocation .tcp).protocol = tcpEntryKind.protocol := rfl
      have hudp : (asProtocol allocation .udp).protocol = udpEntryKind.protocol := rfl
      rw [ensures_bind, ensures_onTcp]
      rcases openEntry_cases s.bindHost binds.tcp failure htcp s.tcp with hopen | hopen
      · rw [hopen]
        exact Opens.refused
      · rw [hopen, continues_ok, ensures_bind, ensures_attempt, ensures_onUdp]
        rcases openEntry_cases s.bindHost binds.udp failure hudp s.udp with hopen' | hopen'
        · simp only [hopen', continues_ok, ensures_bind, ensures_attempt, ensures_tcpDelete,
            ensures_throw]
          exact Opens.undone hprotocol
        · simp only [hopen', continues_ok, ensures_insertProtocol]
          exact Opens.both hprotocol

/-- An id that was not served is served when opening succeeds and not served
when it fails, the half-opened case included. -/
theorem openProtocols_reserves {failure : RuntimeError} {binds : Binds}
    {failed : RuntimeError -> RuntimeError} {allocation : Allocation}
    {s : RealRuntime} (habsent : servedAt allocation.id s = servedFor none) :
    Ensures (openProtocols (tcpOpen failure binds) (udpOpen failure binds) failed
        allocation)
      (fun result s' =>
        match result with
        | .ok () => Reserves allocation.id (some allocation) s s'
        | .error _ => Reserves allocation.id none s s') s := by
  have hprotocols : s.protocols.lookup allocation.id = none :=
    congrArg Served.protocol habsent
  have htcp : tcpEntryKind.listenerAt allocation.id s.tcp = none :=
    congrArg Served.tcp habsent
  have hudp : udpEntryKind.listenerAt allocation.id s.udp = none :=
    congrArg Served.udp habsent
  refine ensures_mono ?_ (openProtocols_opens failure binds failed allocation s)
  intro result s' hopens
  cases hopens with
  | refused => exact ⟨habsent, fun _ _ => rfl⟩
  | undone _ =>
      constructor
      · simp [servedAt, servedFor, listenerAt_deleteEntry, hprotocols, hudp]
      · intro other hother
        simp [servedAt, listenerAt_deleteEntry, hother, listenerAt_insert_of_ne hother]
  | tcp hprotocol =>
      constructor
      · simp [servedAt, servedFor, protocolsFor, hprotocol, listener_bound, hudp]
      · intro other hother
        simp [servedAt, AList.lookup_insert_ne hother, listenerAt_insert_of_ne hother]
  | udp hprotocol =>
      constructor
      · simp [servedAt, servedFor, protocolsFor, hprotocol, listener_bound, htcp]
      · intro other hother
        simp [servedAt, AList.lookup_insert_ne hother, listenerAt_insert_of_ne hother]
  | both hprotocol =>
      constructor
      · simp [servedAt, servedFor, protocolsFor, hprotocol, listener_bound]
      · intro other hother
        simp [servedAt, AList.lookup_insert_ne hother, listenerAt_insert_of_ne hother]

theorem create_reserves (binds : Binds) {allocation : Allocation} {s : RealRuntime}
    (habsent : servedAt allocation.id s = servedFor none) :
    Ensures (create binds allocation)
      (fun result s' =>
        match result with
        | .ok () => Reserves allocation.id (some allocation) s s'
        | .error _ => Reserves allocation.id none s s') s :=
  openProtocols_reserves habsent

theorem restore_reserves (binds : Binds) {allocation : Allocation} {s : RealRuntime}
    (habsent : servedAt allocation.id s = servedFor none) :
    Ensures (restore binds allocation)
      (fun result s' =>
        match result with
        | .ok () => Reserves allocation.id (some allocation) s s'
        | .error _ => Reserves allocation.id none s s') s :=
  openProtocols_reserves habsent

theorem ensures_tcpUpdate {allocation : Allocation} {listener : Listener}
    {s : RealRuntime} {post : Except RuntimeError Unit -> RealRuntime -> Prop}
    (hlistener : tcpEntryKind.listenerAt allocation.id s.tcp = some listener)
    (hport : listener.port = allocation.port)
    (hupdated : forall tcp,
      tcpEntryKind.listenerAt allocation.id tcp = some (listenerOf allocation) ->
      (forall other, other ≠ allocation.id ->
        tcpEntryKind.listenerAt other tcp = tcpEntryKind.listenerAt other s.tcp) ->
      post (.ok ()) { s with tcp := tcp }) :
    Ensures (tcpUpdate allocation) post s := by
  rcases updateEntry_of_listener hlistener with ⟨tcp, hupdate, hself, hframe⟩
  unfold tcpUpdate
  rw [ensures_onTcp, hupdate]
  rw [hport] at hself
  exact hupdated tcp hself hframe

theorem ensures_udpUpdate {allocation : Allocation} {listener : Listener}
    {s : RealRuntime} {post : Except RuntimeError Unit -> RealRuntime -> Prop}
    (hlistener : udpEntryKind.listenerAt allocation.id s.udp = some listener)
    (hport : listener.port = allocation.port)
    (hupdated : forall udp,
      udpEntryKind.listenerAt allocation.id udp = some (listenerOf allocation) ->
      (forall other, other ≠ allocation.id ->
        udpEntryKind.listenerAt other udp = udpEntryKind.listenerAt other s.udp) ->
      post (.ok ()) { s with udp := udp }) :
    Ensures (udpUpdate allocation) post s := by
  rcases updateEntry_of_listener hlistener with ⟨udp, hupdate, hself, hframe⟩
  unfold udpUpdate
  rw [ensures_onUdp, hupdate]
  rw [hport] at hself
  exact hupdated udp hself hframe

/-- An update of a served id always succeeds and serves the new target. -/
theorem update_reserves {old allocation : Allocation} {s : RealRuntime}
    (hserved : servedAt allocation.id s = servedFor (some old))
    (hsame : old.protocol = allocation.protocol) (hport : old.port = allocation.port) :
    Ensures (update allocation)
      (fun result s' => result = .ok () ∧
        Reserves allocation.id (some allocation) s s') s := by
  have hprotocols : s.protocols.lookup allocation.id = some allocation.protocol := by
    rw [← hsame]
    exact congrArg Served.protocol hserved
  have htcp := congrArg Served.tcp hserved
  have hudp := congrArg Served.udp hserved
  simp only [servedAt, servedFor, hsame] at htcp hudp
  unfold update
  cases hprotocol : allocation.protocol with
  | tcp =>
      simp only [hprotocol, protocolsFor, List.mem_singleton, if_true,
        reduceCtorEq, if_false] at htcp hudp
      apply ensures_tcpUpdate htcp hport
      intro tcp hself hframe
      refine ⟨rfl, ?_, ?_⟩
      · simp [servedAt, servedFor, protocolsFor, hprotocol, hself, hudp, hprotocols]
      · intro other hother
        simp [servedAt, hframe other hother]
  | udp =>
      simp only [hprotocol, protocolsFor, List.mem_singleton, if_true,
        reduceCtorEq, if_false] at htcp hudp
      apply ensures_udpUpdate hudp hport
      intro udp hself hframe
      refine ⟨rfl, ?_, ?_⟩
      · simp [servedAt, servedFor, protocolsFor, hprotocol, hself, htcp, hprotocols]
      · intro other hother
        simp [servedAt, hframe other hother]
  | both =>
      simp only [hprotocol, protocolsFor, List.mem_cons, true_or, or_true,
        if_true] at htcp hudp
      rw [ensures_bind]
      apply ensures_tcpUpdate htcp hport
      intro tcp hself hframe
      rw [continues_ok]
      have hudpOld : udpEntryKind.listenerAt (asProtocol allocation .udp).id s.udp =
          some (listenerOf old) := hudp
      refine ensures_udpUpdate hudpOld hport ?_
      intro udp hself' hframe'
      have htcpSelf : tcpEntryKind.listenerAt allocation.id tcp =
          some (listenerOf allocation) := hself
      have hudpSelf : udpEntryKind.listenerAt allocation.id udp =
          some (listenerOf allocation) := hself'
      refine ⟨rfl, ?_, ?_⟩
      · simp [servedAt, servedFor, protocolsFor, hprotocol, htcpSelf, hudpSelf,
          hprotocols]
      · intro other hother
        have htcpOther := hframe other hother
        have hudpOther := hframe' other hother
        simp [servedAt, htcpOther, hudpOther]

/-- A delete always succeeds and leaves the id unserved. -/
theorem delete_reserves (id : String) (s : RealRuntime) :
    Ensures (delete id)
      (fun result s' => result = .ok () ∧ Reserves id none s s') s := by
  unfold delete
  simp only [ensures_bind, ensures_removeProtocol, continues_ok, ensures_attempt,
    ensures_tcpDelete, ensures_udpDelete, ensures_pure]
  refine ⟨trivial, ?_, ?_⟩
  · simp [servedAt, servedFor, listenerAt_deleteEntry]
  · intro other hother
    simp [servedAt, listenerAt_deleteEntry, hother, AList.lookup_erase_ne hother]

end RealRuntime
end Runtime
end Relayd
