import Relayd.Foundation.Bytes
import Relayd.Runtime.UdpBuffers

/-!
# The peer of a datagram

The kernel writes the address of a sender as bytes.  The standard library decodes them
for the first datagram of a batch, the relay itself for the others.  The session of a
client is found by its address, so the two decoders have to agree on every field.
-/

namespace Relayd
namespace Runtime
namespace Udp

open Foundation

def afInet : UInt16 := 2

def afInet6 : UInt16 := 10

structure SockaddrStorage where
  bytes : Vector UInt8 128
deriving DecidableEq, Repr

/-- `sockaddr_in`, the fields in the byte order the kernel left them in. -/
structure SockaddrIn where
  sinPort : UInt16
  sAddr : UInt32
deriving DecidableEq, Repr

structure SockaddrIn6 where
  sin6Port : UInt16
  sin6Flowinfo : UInt32
  s6Addr : Vector UInt8 16
  sin6ScopeId : UInt32
deriving DecidableEq, Repr

def ipv4OfOctets (octets : Vector UInt8 4) : Ipv4Addr :=
  ⟨octets[0], octets[1], octets[2], octets[3]⟩

def ipv6OfOctets (octets : Vector UInt8 16) : Ipv6Addr :=
  ⟨ofNeBytes16 .big octets[0] octets[1], ofNeBytes16 .big octets[2] octets[3],
    ofNeBytes16 .big octets[4] octets[5], ofNeBytes16 .big octets[6] octets[7],
    ofNeBytes16 .big octets[8] octets[9], ofNeBytes16 .big octets[10] octets[11],
    ofNeBytes16 .big octets[12] octets[13], ofNeBytes16 .big octets[14] octets[15]⟩

namespace SockaddrStorage

variable (endian : Endian) (storage : SockaddrStorage)

def ssFamily : UInt16 :=
  ofNeBytes16 endian storage.bytes[0] storage.bytes[1]

/-- The storage read as a `sockaddr_in`. -/
def asIn : SockaddrIn where
  sinPort := ofNeBytes16 endian storage.bytes[2] storage.bytes[3]
  sAddr := ofNeBytes32 endian storage.bytes[4] storage.bytes[5] storage.bytes[6]
    storage.bytes[7]

/-- The sixteen bytes of the address, in no word order. -/
def s6Addr : Vector UInt8 16 :=
  Vector.ofFn (fun position => storage.bytes.get ⟨8 + position.val, by lia⟩)

def asIn6 : SockaddrIn6 where
  sin6Port := ofNeBytes16 endian storage.bytes[2] storage.bytes[3]
  sin6Flowinfo := ofNeBytes32 endian storage.bytes[4] storage.bytes[5] storage.bytes[6]
    storage.bytes[7]
  s6Addr := storage.s6Addr
  sin6ScopeId := ofNeBytes32 endian storage.bytes[24] storage.bytes[25] storage.bytes[26]
    storage.bytes[27]

end SockaddrStorage

def socketAddrFromStorage (endian : Endian) (storage : SockaddrStorage) :
    Except RecvError SocketAddr :=
  if storage.ssFamily endian = afInet then
    let address := storage.asIn endian
    .ok (SocketAddr.new (.v4 (ipv4OfOctets (toNeBytes32 endian address.sAddr)))
      (fromBe16 endian address.sinPort))
  else if storage.ssFamily endian = afInet6 then
    let address := storage.asIn6 endian
    .ok (.v6 (ipv6OfOctets address.s6Addr) (fromBe16 endian address.sin6Port)
      (fromBe32 endian address.sin6Flowinfo) address.sin6ScopeId)
  else
    .error (.failed ("unsupported UDP address family " ++
      toString (storage.ssFamily endian)))

/-- What `recv_from` of the standard library makes of the same bytes: the port from network
order, the address bytes, flow info and scope id as stored. -/
def recvFromAddr (endian : Endian) (storage : SockaddrStorage) :
    Except RecvError SocketAddr :=
  let port := ofNeBytes16 .big storage.bytes[2] storage.bytes[3]
  if storage.ssFamily endian = afInet then
    .ok (.v4 ⟨storage.bytes[4], storage.bytes[5], storage.bytes[6], storage.bytes[7]⟩ port)
  else if storage.ssFamily endian = afInet6 then
    .ok (.v6 (ipv6OfOctets storage.s6Addr) port
      (ofNeBytes32 endian storage.bytes[4] storage.bytes[5] storage.bytes[6]
        storage.bytes[7])
      (ofNeBytes32 endian storage.bytes[24] storage.bytes[25] storage.bytes[26]
        storage.bytes[27]))
  else .error (.failed "invalid argument")

/-- The sender of a message that `recvmmsg` filled in. -/
def senderOf (endian : Endian) (storage : SockaddrStorage) : Sender :=
  match socketAddrFromStorage endian storage with
  | .ok addr => .known addr
  | .error _ => .unsupported (storage.ssFamily endian).toNat

/-!
# Where the decoders agree
-/

/-- The flow info is not there, not converted, or the same in both byte orders. -/
def FlowinfoUnaffected (endian : Endian) (storage : SockaddrStorage) : Prop :=
  storage.ssFamily endian = afInet ∨ endian = .big ∨
    (storage.bytes[4] = storage.bytes[7] ∧ storage.bytes[5] = storage.bytes[6])

instance (endian : Endian) (storage : SockaddrStorage) :
    Decidable (FlowinfoUnaffected endian storage) :=
  inferInstanceAs (Decidable (storage.ssFamily endian = afInet ∨ endian = .big ∨
    (storage.bytes[4] = storage.bytes[7] ∧ storage.bytes[5] = storage.bytes[6])))

theorem socketAddrFromStorage_v4 {endian : Endian} {storage : SockaddrStorage}
    (h : storage.ssFamily endian = afInet) :
    socketAddrFromStorage endian storage = recvFromAddr endian storage := by
  unfold socketAddrFromStorage recvFromAddr
  rw [if_pos h, if_pos h]
  simp only [SockaddrStorage.asIn]
  rw [toNeBytes32_ofNeBytes32, fromBe16_ofNeBytes16]
  rfl

theorem decoders_agree_iff {endian : Endian} {storage : SockaddrStorage}
    (h : storage.ssFamily endian = afInet ∨ storage.ssFamily endian = afInet6) :
    socketAddrFromStorage endian storage = recvFromAddr endian storage <->
      FlowinfoUnaffected endian storage := by
  unfold FlowinfoUnaffected
  by_cases hfamily : storage.ssFamily endian = afInet
  · constructor
    · intro _
      exact Or.inl hfamily
    · intro _
      exact socketAddrFromStorage_v4 hfamily
  · have hsix : storage.ssFamily endian = afInet6 := h.resolve_left hfamily
    rw [<- fromBe32_eq_self_iff]
    unfold socketAddrFromStorage recvFromAddr
    rw [if_neg hfamily, if_neg hfamily, if_pos hsix, if_pos hsix]
    simp only [SockaddrStorage.asIn6]
    rw [fromBe16_ofNeBytes16]
    constructor
    · intro hsame
      exact Or.inr (SocketAddr.v6.inj (Except.ok.inj hsame)).2.2.1
    · intro hkept
      rw [hkept.resolve_left hfamily]

/-!
# One client, one session
-/

/-- What the preparation keeps are sessions that were resolved for the peers of the batch. -/
theorem prepareFor_resolved (around : Around) (batch : List Datagram) (target : Target)
    (p : Pass) :
    exists seen entry, Resolved seen entry ∧ seen.map Prod.fst = batch.map Datagram.peer ∧
      forall index session,
        sessionAt (prepareFor around batch target p).1 index = some session ->
          sessionAt (seen.map Prod.snd) index = some session := by
  let generation := p.entry.stateGeneration
  let resolved := resolveAll around target generation (batch.map Datagram.peer) [] p
  let loaded := resolved.2.interfere around
  rcases resolveAll_spec around target generation (batch.map Datagram.peer) [] p p
    (resolved_nil _) (accounts_refl p) with ⟨hpeers, hresolved, _⟩
  refine ⟨resolved.1, resolved.2.entry, hresolved, hpeers, ?_⟩
  intro index session hsession
  by_cases hgeneration : loaded.entry.generation = generation
  · rw [prepareFor, if_pos hgeneration] at hsession
    rcases checkAll_spec around generation (resolved.1.map Prod.snd) [] [] loaded loaded
      (checked_nil loaded) with ⟨hkept, _⟩
    exact hkept.sessions index session hsession
  · rw [prepareFor, if_neg hgeneration, sessionAt_none] at hsession
    cases hsession

/-- The session of the first datagram of a peer is the session of all the others. -/
theorem Resolved.shares_first {seen : List (SocketAddr × Option UdpSession)}
    {entry : ListenerEntry} (h : Resolved seen entry) {peer : SocketAddr}
    {session session' : UdpSession} {index : Nat}
    (hfirst : seen[0]? = some (peer, some session))
    (hlater : seen[index]? = some (peer, some session')) : session' = session := by
  have hearlier : earlierSession seen peer = some session := by
    cases seen with
    | nil => cases hfirst
    | cons first rest =>
        rw [List.getElem?_cons_zero] at hfirst
        cases hfirst
        unfold earlierSession
        rw [List.find?_cons_of_pos (by simp)]
        rfl
  have hshared := h.shared peer session hearlier _ (List.mem_of_getElem? hlater) rfl
  exact Option.some.inj hshared

theorem prepareDatagramBatch_shares (around : Around) {batch : List Datagram} {p : Pass}
    {peer : SocketAddr} {index : Nat} {session session' : UdpSession}
    (hfirst : batch[0]?.map Datagram.peer = some peer)
    (hlater : batch[index]?.map Datagram.peer = some peer)
    (hsession : sessionAt (prepareDatagramBatch around batch p).1 0 = some session)
    (hsession' : sessionAt (prepareDatagramBatch around batch p).1 index = some session') :
    session = session' := by
  rw [prepareDatagramBatch] at hsession hsession'
  cases htarget : (p.interfere around).entry.state.target with
  | none =>
      rw [htarget] at hsession
      simp only [sessionAt_none] at hsession
      cases hsession
  | some target =>
      rw [htarget] at hsession hsession'
      rcases prepareFor_resolved around batch target (p.interfere around) with
        ⟨seen, entry, hresolved, hpeers, hkept⟩
      have hpeer : forall (position : Nat) (found : SocketAddr × Option UdpSession),
          seen[position]? = some found ->
            batch[position]?.map Datagram.peer = some found.1 := by
        intro position found hfound
        rw [<- List.getElem?_map, <- hpeers, List.getElem?_map, hfound]
        rfl
      rcases sessionAt_map_snd (hkept 0 session hsession) with ⟨addr, hget⟩
      rcases sessionAt_map_snd (hkept index session' hsession') with ⟨addr', hget'⟩
      have haddr := hpeer 0 _ hget
      have haddr' := hpeer index _ hget'
      rw [hfirst] at haddr
      rw [hlater] at haddr'
      cases haddr
      cases haddr'
      exact (hresolved.shares_first hget hget').symm

/-- Whenever a batch starts with a datagram of a client and holds another of the same
client, the sessions they are sent through are one. -/
def SharesSession (endian : Endian) (storage : SockaddrStorage) : Prop :=
  forall (around : Around) (peer : SocketAddr) (payload payload' : List UInt8)
    (arrivals : List Arrival) (batch batch' : UdpReceiveBatch) (count index : Nat) (p : Pass)
    (session session' : UdpSession),
    recvFromAddr endian storage = .ok peer ->
    (arrived true ⟨peer, payload⟩ (.ok arrivals) batch)[index + 1]? =
      some ⟨senderOf endian storage, payload'⟩ ->
    recvBatch (.ok ⟨peer, payload⟩) (.ok arrivals) batch = .ok (count, batch') ->
    sessionAt (prepareDatagramBatch around (batch'.datagrams count) p).1 0 = some session ->
    sessionAt (prepareDatagramBatch around (batch'.datagrams count) p).1 (index + 1) =
      some session' ->
    session = session'

theorem sharesSession_of_agree {endian : Endian} {storage : SockaddrStorage}
    (h : socketAddrFromStorage endian storage = recvFromAddr endian storage) :
    SharesSession endian storage := by
  intro around peer payload payload' arrivals batch batch' count index p session session'
    hpeer hlater hrecv hsession hsession'
  have hsender : senderOf endian storage = .known peer := by
    unfold senderOf
    rw [h, hpeer]
  have hrecv' : recv true (.ok ⟨peer, payload⟩) (.ok arrivals) batch = .ok (count, batch') :=
    hrecv
  rcases recv_datagrams hrecv' (show _ = some ⟨.known peer, payload⟩ from
    List.getElem?_cons_zero) with ⟨first, hfirst, hat⟩
  rcases recv_datagrams hrecv' hlater with ⟨later, hknown, hat'⟩
  rw [hsender] at hknown
  cases hfirst
  cases hknown
  have hkey : (batch'.datagrams count)[0]?.map Datagram.peer = some peer := by
    rw [hat]
    rfl
  have hkey' : (batch'.datagrams count)[index + 1]?.map Datagram.peer = some peer := by
    rw [hat']
    rfl
  exact prepareDatagramBatch_shares around hkey hkey' hsession hsession'

/-!
# Two keys, two sessions
-/

/-- An entry with a target, no session yet and room for two. -/
def roomForTwo : ListenerEntry where
  state :=
    { effectiveHost := some "10.0.0.1"
      effectiveTargetPort := some 53
      runtimeStatus := .active
      errorKind := none
      lastError := none }
  stateGeneration := 0
  generation := 0
  table := SessionTable.empty
  closed := []
  maxSessions := 2

theorem roomForTwo_steady : Steady roomForTwo := by
  refine ⟨rfl, ?_, ?_⟩
  · intro addr session h
    cases h
  · intro addr session h
    cases h

theorem assignAll_roomForTwo (target : Target) {peer other : SocketAddr} (h : peer ≠ other) :
    exists session session',
      (assignAll target [peer, other] roomForTwo).1.map Assignment.session =
        [some session, some session'] := by
  have hnone : (roomForTwo.withSession peer 0 target).table.lookup other = none := by
    rw [lookup_withSession, if_neg h.symm]
    rfl
  refine ⟨roomForTwo.table.fresh peer 0 target,
    (roomForTwo.withSession peer 0 target).table.fresh other 0 target, ?_⟩
  have hfirst : assign target peer roomForTwo =
      (.opened (roomForTwo.table.fresh peer 0 target), roomForTwo.withSession peer 0 target) :=
    rfl
  have hsecond : (assign target other (roomForTwo.withSession peer 0 target)).1 =
      .opened ((roomForTwo.withSession peer 0 target).table.fresh other 0 target) := by
    unfold assign
    rw [hnone]
    rfl
  rw [assignAll, hfirst, assignAll, assignAll, List.map_cons, List.map_cons, hsecond]
  rfl

/-- Datagrams under two keys are sent through two sessions. -/
theorem separate_sessions (batch : List Datagram) {peer other : SocketAddr} (h : peer ≠ other)
    (hpeers : batch.map Datagram.peer = [peer, other]) :
    exists session session',
      sessionAt (prepareDatagramBatch allSucceed batch (Pass.start roomForTwo)).1 0 =
        some session ∧
      sessionAt (prepareDatagramBatch allSucceed batch (Pass.start roomForTwo)).1 1 =
        some session' ∧ session ≠ session' := by
  have hprepared : prepareDatagramBatch allSucceed batch (Pass.start roomForTwo) =
      prepareFor allSucceed batch ⟨"10.0.0.1", 53⟩
        ((Pass.start roomForTwo).interfere allSucceed) := rfl
  have hsteady : Steady ((Pass.start roomForTwo).interfere allSucceed).entry :=
    roomForTwo_steady
  have hsessions := (prepareFor_calm allSucceed_calm batch ⟨"10.0.0.1", 53⟩ hsteady).1
  rcases assignAll_roomForTwo ⟨"10.0.0.1", 53⟩ h with ⟨session, session', hassigned⟩
  rw [hpeers] at hsessions
  have hgroupable := (prepareDatagramBatch_spec allSucceed batch
    (Pass.start roomForTwo)).groupable
  rw [hprepared] at hgroupable ⊢
  rw [hsessions.trans hassigned] at hgroupable ⊢
  refine ⟨session, session', rfl, rfl, ?_⟩
  intro hsame
  have hfirst := hgroupable.owned 0 session rfl
  have hsecond := hgroupable.owned 1 session' rfl
  rw [<- List.getElem?_map, hpeers] at hfirst hsecond
  apply h
  rw [Option.some.inj hfirst, Option.some.inj hsecond, hsame]

theorem not_sharesSession {endian : Endian} {storage : SockaddrStorage}
    {peer other : SocketAddr} (hpeer : recvFromAddr endian storage = .ok peer)
    (hother : socketAddrFromStorage endian storage = .ok other) (h : peer ≠ other) :
    ¬ SharesSession endian storage := by
  intro hshares
  have hsender : senderOf endian storage = .known other := by
    unfold senderOf
    rw [hother]
  let arrivals : List Arrival := [⟨senderOf endian storage, []⟩]
  let filled := ((UdpReceiveBatch.new.write 0 []).note 0 0 peer).write 1 []
  have hrecv : recvBatch (.ok ⟨peer, []⟩) (.ok arrivals) UdpReceiveBatch.new =
      .ok (2, filled.note 1 0 other) := by
    show recvBatch _ (.ok [⟨senderOf endian storage, []⟩]) _ = _
    rw [hsender]
    rfl
  have hpeers : ((filled.note 1 0 other).datagrams 2).map Datagram.peer = [peer, other] := by
    rfl
  rcases separate_sessions _ h hpeers with ⟨session, session', hsession, hsession', hne⟩
  exact hne (hshares allSucceed peer [] [] arrivals UdpReceiveBatch.new _ 2 0 _ session
    session' hpeer rfl hrecv hsession hsession')

/-!
# The two decoders
-/

theorem decoded_of_family {endian : Endian} {storage : SockaddrStorage}
    (h : storage.ssFamily endian = afInet ∨ storage.ssFamily endian = afInet6) :
    (exists peer, recvFromAddr endian storage = .ok peer) ∧
      exists other, socketAddrFromStorage endian storage = .ok other := by
  unfold recvFromAddr socketAddrFromStorage
  by_cases hfamily : storage.ssFamily endian = afInet
  · rw [if_pos hfamily, if_pos hfamily]
    exact ⟨⟨_, rfl⟩, _, rfl⟩
  · have hsix := h.resolve_left hfamily
    rw [if_neg hfamily, if_neg hfamily, if_pos hsix, if_pos hsix]
    exact ⟨⟨_, rfl⟩, _, rfl⟩

theorem sharesSession_iff {endian : Endian} {storage : SockaddrStorage}
    (h : storage.ssFamily endian = afInet ∨ storage.ssFamily endian = afInet6) :
    SharesSession endian storage <-> FlowinfoUnaffected endian storage := by
  rw [<- decoders_agree_iff h]
  constructor
  · intro hshares
    rcases decoded_of_family h with ⟨⟨peer, hpeer⟩, other, hother⟩
    by_cases hsame : peer = other
    · rw [hpeer, hother, hsame]
    · exact absurd hshares (not_sharesSession hpeer hother hsame)
  · exact sharesSession_of_agree

/-- The decoders agree, and a client keeps one session, exactly where the conversion of the
flow info changes nothing. -/
theorem peer_decoders_agree_iff (endian : Endian) (storage : SockaddrStorage)
    (h : storage.ssFamily endian = afInet ∨ storage.ssFamily endian = afInet6) :
    (socketAddrFromStorage endian storage = recvFromAddr endian storage <->
      FlowinfoUnaffected endian storage) ∧
    (SharesSession endian storage <-> FlowinfoUnaffected endian storage) :=
  ⟨decoders_agree_iff h, sharesSession_iff h⟩

/-- The kernel writes no flow info: it leaves zero there for every datagram that a socket
receives. -/
def NoFlowinfo (endian : Endian) (storage : SockaddrStorage) : Prop :=
  storage.ssFamily endian = afInet6 ->
    storage.bytes[4] = 0 ∧ storage.bytes[5] = 0 ∧ storage.bytes[6] = 0 ∧ storage.bytes[7] = 0

/-- For every address that the kernel fills in, the decoders agree and a client keeps one
session. -/
theorem peer_decoders_agree (endian : Endian) (storage : SockaddrStorage)
    (h : storage.ssFamily endian = afInet ∨ storage.ssFamily endian = afInet6)
    (hkernel : NoFlowinfo endian storage) :
    socketAddrFromStorage endian storage = recvFromAddr endian storage ∧
      SharesSession endian storage := by
  have hflow : FlowinfoUnaffected endian storage := by
    rcases h with hfour | hsix
    · exact Or.inl hfour
    · rcases hkernel hsix with ⟨h4, h5, h6, h7⟩
      refine Or.inr (Or.inr ⟨?_, ?_⟩)
      · rw [h4, h7]
      · rw [h5, h6]
  have hiff := peer_decoders_agree_iff endian storage h
  exact ⟨hiff.1.mpr hflow, hiff.2.mpr hflow⟩

/-- `[::1]:53` on a little-endian host. -/
def loopbackStorage : SockaddrStorage where
  bytes := Vector.ofFn (fun position =>
    match position.val with
    | 0 => 10
    | 3 => 53
    | 23 => 1
    | _ => 0)

theorem peer_decoders_agree_loopback :
    loopbackStorage.ssFamily .little = afInet6 ∧ NoFlowinfo .little loopbackStorage ∧
    recvFromAddr .little loopbackStorage = .ok (.v6 ⟨0, 0, 0, 0, 0, 0, 0, 1⟩ 53 0 0) ∧
    socketAddrFromStorage .little loopbackStorage = recvFromAddr .little loopbackStorage ∧
    SharesSession .little loopbackStorage := by
  have hfamily : loopbackStorage.ssFamily .little = afInet6 := by decide
  have hkernel : NoFlowinfo .little loopbackStorage := fun _ => ⟨rfl, rfl, rfl, rfl⟩
  exact ⟨hfamily, hkernel, by decide,
    peer_decoders_agree .little loopbackStorage (Or.inr hfamily) hkernel⟩

end Udp
end Runtime
end Relayd
