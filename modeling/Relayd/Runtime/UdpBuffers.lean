import Mathlib.Data.List.TakeDrop
import Relayd.Runtime.UdpBatching

/-!
# Receiving into buffers

The receive loop keeps its datagrams in buffers of a fixed size, next to the length and
the peer of each.  The operating system stores as much of a datagram as the buffer
holds and reports how much that was.  What a pass forwards is read back from the
buffers, and so are the replies of an upstream.
-/

namespace Relayd
namespace Runtime
namespace Udp

open Foundation

def udpDatagramBufferBytes : Nat := 2048

def udpInitialReceiveBatchSize : Nat := 16

def udpMaxReceiveBatchSize : Nat := 64

abbrev Buffer := Vector UInt8 udpDatagramBufferBytes

def Buffer.zero : Buffer := Vector.replicate udpDatagramBufferBytes 0

/-- The operating system writes a datagram to a buffer. -/
def Buffer.receive (payload : List UInt8) (buffer : Buffer) : Buffer :=
  Vector.ofFn (fun position => payload[position.val]?.getD (buffer.get position))

def reportedLength (payload : List UInt8) : Nat :=
  min udpDatagramBufferBytes payload.length

structure UdpReceiveBatch where
  buffers : List Buffer
  lengths : List Nat
  peers : List (Option SocketAddr)
  buffers_pos : 0 < buffers.length
  buffers_le : buffers.length <= udpMaxReceiveBatchSize
  lengths_length : lengths.length = udpMaxReceiveBatchSize
  peers_length : peers.length = udpMaxReceiveBatchSize

inductive RecvError where
  | wouldBlock
  | failed (message : String)
deriving DecidableEq, Repr

/-- What the kernel writes to a socket address. -/
inductive Sender where
  | known (addr : SocketAddr)
  | unsupported (family : Nat)
deriving DecidableEq, Repr

structure Arrival where
  sender : Sender
  payload : List UInt8
deriving DecidableEq, Repr

namespace UdpReceiveBatch

def new : UdpReceiveBatch where
  buffers := List.replicate udpInitialReceiveBatchSize Buffer.zero
  lengths := List.replicate udpMaxReceiveBatchSize 0
  peers := List.replicate udpMaxReceiveBatchSize none
  buffers_pos := by decide
  buffers_le := by decide
  lengths_length := List.length_replicate
  peers_length := List.length_replicate

/-- The buffer at an index receives a datagram. -/
def write (index : Nat) (payload : List UInt8) (batch : UdpReceiveBatch) : UdpReceiveBatch :=
  { batch with
    buffers := batch.buffers.modify index (Buffer.receive payload)
    buffers_pos := by
      rw [List.length_modify]
      exact batch.buffers_pos
    buffers_le := by
      rw [List.length_modify]
      exact batch.buffers_le }

def note (index length : Nat) (peer : SocketAddr) (batch : UdpReceiveBatch) :
    UdpReceiveBatch :=
  { batch with
    lengths := batch.lengths.set index length
    peers := batch.peers.set index (some peer)
    lengths_length := by
      rw [List.length_set]
      exact batch.lengths_length
    peers_length := by
      rw [List.length_set]
      exact batch.peers_length }

def growIfSaturated (received : Nat) (batch : UdpReceiveBatch) : UdpReceiveBatch :=
  if received < batch.buffers.length ∨ batch.buffers.length >= udpMaxReceiveBatchSize then batch
  else
    { batch with
      buffers := batch.buffers ++ List.replicate
        (min (batch.buffers.length * 2) udpMaxReceiveBatchSize - batch.buffers.length)
        Buffer.zero
      buffers_pos := by
        rw [List.length_append]
        exact Nat.add_pos_left batch.buffers_pos _
      buffers_le := by
        have hle := batch.buffers_le
        rw [List.length_append, List.length_replicate]
        lia }

/-- The datagram that is read back from a slot. -/
def datagramAt (batch : UdpReceiveBatch) (index : Nat) : Option Datagram :=
  match batch.peers[index]?.join, batch.lengths[index]?, batch.buffers[index]? with
  | some peer, some length, some buffer => some ⟨peer, buffer.toList.take length⟩
  | _, _, _ => none

def datagrams (batch : UdpReceiveBatch) (count : Nat) : List Datagram :=
  (List.range count).filterMap batch.datagramAt

end UdpReceiveBatch

/-!
# Receiving
-/

def recvOne (first : Except RecvError Datagram) (batch : UdpReceiveBatch) :
    Except RecvError (Nat × UdpReceiveBatch) :=
  match first with
  | .error error => .error error
  | .ok datagram =>
      .ok (1, (batch.write 0 datagram.payload).note 0 (reportedLength datagram.payload)
        datagram.peer)

/-- The kernel fills the buffers from an index on. -/
def fill : Nat -> List Arrival -> UdpReceiveBatch -> UdpReceiveBatch
  | _, [], batch => batch
  | index, arrival :: rest, batch => fill (index + 1) rest (batch.write index arrival.payload)

def noteAll : Nat -> List Arrival -> UdpReceiveBatch -> Except RecvError UdpReceiveBatch
  | _, [], batch => .ok batch
  | index, arrival :: rest, batch =>
      match arrival.sender with
      | .known peer =>
          noteAll (index + 1) rest (batch.note index (reportedLength arrival.payload) peer)
      | .unsupported family =>
          .error (.failed ("unsupported UDP address family " ++ toString family))

/-- `more` is how the second system call ends, which takes what is waiting already. -/
def recvBatch (first : Except RecvError Datagram) (more : Except RecvError (List Arrival))
    (batch : UdpReceiveBatch) : Except RecvError (Nat × UdpReceiveBatch) :=
  match recvOne first batch with
  | .error error => .error error
  | .ok (count, batch) =>
      match more with
      | .error .wouldBlock => .ok (count, batch)
      | .error (.failed message) => .error (.failed message)
      | .ok arrivals =>
          let taken := arrivals.take (batch.buffers.length - 1)
          match noteAll 1 taken (fill 1 taken batch) with
          | .error error => .error error
          | .ok batch => .ok (count + taken.length, batch)

def recv (batchEnabled : Bool) (first : Except RecvError Datagram)
    (more : Except RecvError (List Arrival)) (batch : UdpReceiveBatch) :
    Except RecvError (Nat × UdpReceiveBatch) :=
  if batchEnabled then recvBatch first more batch else recvOne first batch

/-- One turn of the receive loop, or none when it breaks. -/
def receiveTurn (around : Around) (batchEnabled : Bool) (first : Except RecvError Datagram)
    (more : Except RecvError (List Arrival)) (batch : UdpReceiveBatch) (p : Pass) :
    Option (UdpReceiveBatch × Pass) :=
  match recv batchEnabled first more batch with
  | .error _ => none
  | .ok (count, batch) =>
      some (batch.growIfSaturated count,
        receiveBatch around batchEnabled (batch.datagrams count) p)

/-- One turn of a reply loop: what is sent to the client, if anything is. -/
def replyTurn (buffer : Buffer) (received : Except RecvError (List UInt8))
    (current sends : Bool) : Option (List UInt8) :=
  match received with
  | .error _ => none
  | .ok payload =>
      if current && sends then
        some ((buffer.receive payload).toList.take (reportedLength payload))
      else none

/-!
# What the buffers hold
-/

/-- The buffer holds as much of the payload as fits. -/
def Stored (buffer : Buffer) (payload : List UInt8) : Prop :=
  buffer.toList.take (reportedLength payload) = payload.take udpDatagramBufferBytes

theorem stored_receive (payload : List UInt8) (buffer : Buffer) :
    Stored (buffer.receive payload) payload := by
  unfold Stored
  apply List.ext_getElem?
  intro position
  rw [List.getElem?_take, List.getElem?_take]
  unfold reportedLength
  by_cases hfits : position < udpDatagramBufferBytes
  · by_cases hpayload : position < payload.length
    · rw [if_pos (Nat.lt_min.mpr ⟨hfits, hpayload⟩), if_pos hfits]
      have hlength : position < (buffer.receive payload).toList.length := by
        rw [Vector.length_toList]
        exact hfits
      rw [List.getElem?_eq_getElem hlength, List.getElem?_eq_getElem hpayload,
        Vector.getElem_toList]
      unfold Buffer.receive
      rw [Vector.getElem_ofFn, List.getElem?_eq_getElem hpayload]
      rfl
    · rw [if_neg (fun h => hpayload (Nat.lt_min.mp h).2), if_pos hfits,
        List.getElem?_eq_none (Nat.le_of_not_lt hpayload)]
  · rw [if_neg (fun h => hfits (Nat.lt_min.mp h).1), if_neg hfits]

/-- A slot has been filled with an arrival whose sender is known. -/
structure Filled (batch : UdpReceiveBatch) (index : Nat) (peer : SocketAddr)
    (payload : List UInt8) : Prop where
  peer : batch.peers[index]? = some (some peer)
  length : batch.lengths[index]? = some (reportedLength payload)
  buffer : exists buffer, batch.buffers[index]? = some buffer ∧ Stored buffer payload

theorem Filled.datagramAt {batch : UdpReceiveBatch} {index : Nat} {peer : SocketAddr}
    {payload : List UInt8} (h : Filled batch index peer payload) :
    batch.datagramAt index = some ⟨peer, payload.take udpDatagramBufferBytes⟩ := by
  rcases h.buffer with ⟨buffer, hbuffer, hstored⟩
  unfold UdpReceiveBatch.datagramAt
  rw [h.peer, h.length, hbuffer]
  exact congrArg (fun stored => some (Datagram.mk peer stored)) hstored

/-- Slots before the index are as they were. -/
structure KeepsBefore (index : Nat) (batch batch' : UdpReceiveBatch) : Prop where
  buffers : forall i, i < index -> batch'.buffers[i]? = batch.buffers[i]?
  lengths : forall i, i < index -> batch'.lengths[i]? = batch.lengths[i]?
  peers : forall i, i < index -> batch'.peers[i]? = batch.peers[i]?
  capacity : batch'.buffers.length = batch.buffers.length

theorem fill_keeps (arrivals : List Arrival) (index : Nat) (batch : UdpReceiveBatch) :
    KeepsBefore index batch (fill index arrivals batch) ∧
      (fill index arrivals batch).lengths = batch.lengths ∧
      (fill index arrivals batch).peers = batch.peers := by
  induction arrivals generalizing index batch with
  | nil => exact ⟨⟨fun _ _ => rfl, fun _ _ => rfl, fun _ _ => rfl, rfl⟩, rfl, rfl⟩
  | cons arrival rest ih =>
      rcases ih (index + 1) (batch.write index arrival.payload) with ⟨hkeeps, hlengths, hpeers⟩
      refine ⟨⟨?_, ?_, ?_, ?_⟩, hlengths, hpeers⟩
      · intro i hi
        rw [fill, hkeeps.buffers i (Nat.lt_succ_of_lt hi)]
        exact List.getElem?_modify_ne _ _ (Nat.ne_of_gt hi)
      · intro i hi
        exact hkeeps.lengths i (Nat.lt_succ_of_lt hi)
      · intro i hi
        exact hkeeps.peers i (Nat.lt_succ_of_lt hi)
      · rw [fill, hkeeps.capacity]
        exact List.length_modify ..

theorem fill_stores {arrivals : List Arrival} (index : Nat) (batch : UdpReceiveBatch)
    (hroom : index + arrivals.length <= batch.buffers.length) {offset : Nat}
    {arrival : Arrival} (h : arrivals[offset]? = some arrival) :
    exists buffer, (fill index arrivals batch).buffers[index + offset]? = some buffer ∧
      Stored buffer arrival.payload := by
  induction arrivals generalizing index batch offset with
  | nil => cases h
  | cons first rest ih =>
      rw [List.length_cons] at hroom
      cases offset with
      | zero =>
          rw [List.getElem?_cons_zero] at h
          cases h
          have hindex : index < batch.buffers.length := by lia
          refine ⟨_, ?_, stored_receive arrival.payload (batch.buffers.get ⟨index, hindex⟩)⟩
          show (fill (index + 1) rest (batch.write index arrival.payload)).buffers[index]? = _
          rw [(fill_keeps rest (index + 1) _).1.buffers index (Nat.lt_succ_self index)]
          show (batch.buffers.modify index (Buffer.receive arrival.payload))[index]? = _
          rw [List.getElem?_modify_eq, List.getElem?_eq_getElem hindex]
          rfl
      | succ offset =>
          have hwritten : (batch.write index first.payload).buffers.length =
              batch.buffers.length := List.length_modify ..
          have hrest := ih (index + 1) (batch.write index first.payload)
            (by rw [hwritten]; lia) h
          rw [fill, show index + (offset + 1) = index + 1 + offset by lia]
          exact hrest

theorem noteAll_keeps {arrivals : List Arrival} (index : Nat) (batch : UdpReceiveBatch)
    {batch' : UdpReceiveBatch} (h : noteAll index arrivals batch = .ok batch') :
    KeepsBefore index batch batch' ∧ batch'.buffers = batch.buffers := by
  induction arrivals generalizing index batch with
  | nil =>
      cases h
      exact ⟨⟨fun _ _ => rfl, fun _ _ => rfl, fun _ _ => rfl, rfl⟩, rfl⟩
  | cons arrival rest ih =>
      rw [noteAll] at h
      split at h
      · rcases ih (index + 1) _ h with ⟨hkeeps, hbuffers⟩
        refine ⟨⟨?_, ?_, ?_, ?_⟩, hbuffers⟩
        · intro i _
          rw [hbuffers]
          rfl
        · intro i hi
          rw [hkeeps.lengths i (Nat.lt_succ_of_lt hi)]
          exact List.getElem?_set_ne (Nat.ne_of_gt hi)
        · intro i hi
          rw [hkeeps.peers i (Nat.lt_succ_of_lt hi)]
          exact List.getElem?_set_ne (Nat.ne_of_gt hi)
        · rw [hbuffers]
          rfl
      · cases h

theorem noteAll_notes {arrivals : List Arrival} (index : Nat) (batch : UdpReceiveBatch)
    {batch' : UdpReceiveBatch} (h : noteAll index arrivals batch = .ok batch')
    (hroom : index + arrivals.length <= udpMaxReceiveBatchSize) {offset : Nat}
    {arrival : Arrival} (harrival : arrivals[offset]? = some arrival) :
    exists peer, arrival.sender = .known peer ∧
      batch'.peers[index + offset]? = some (some peer) ∧
      batch'.lengths[index + offset]? = some (reportedLength arrival.payload) := by
  induction arrivals generalizing index batch offset with
  | nil => cases harrival
  | cons first rest ih =>
      rw [List.length_cons] at hroom
      rw [noteAll] at h
      split at h
      · next peer hsender =>
        cases offset with
        | zero =>
            rw [List.getElem?_cons_zero] at harrival
            cases harrival
            have hkeeps := (noteAll_keeps (index + 1) _ h).1
            refine ⟨peer, hsender, ?_, ?_⟩
            · rw [Nat.add_zero, hkeeps.peers index (Nat.lt_succ_self index)]
              apply List.getElem?_set_self
              rw [batch.peers_length]
              lia
            · rw [Nat.add_zero, hkeeps.lengths index (Nat.lt_succ_self index)]
              apply List.getElem?_set_self
              rw [batch.lengths_length]
              lia
        | succ offset =>
            rw [show index + (offset + 1) = index + 1 + offset by lia]
            exact ih (index + 1) _ h (by lia) harrival
      · cases h

/-- What the operating system has handed over in a turn. -/
def arrived (batchEnabled : Bool) (first : Datagram) (more : Except RecvError (List Arrival))
    (batch : UdpReceiveBatch) : List Arrival :=
  ⟨.known first.peer, first.payload⟩ ::
    match batchEnabled, more with
    | true, .ok arrivals => arrivals.take (batch.buffers.length - 1)
    | _, _ => []

/-- The first datagram is in the first slot. -/
theorem filled_recvOne (first : Datagram) (batch : UdpReceiveBatch) :
    Filled ((batch.write 0 first.payload).note 0 (reportedLength first.payload) first.peer) 0
      first.peer first.payload where
  peer := by
    apply List.getElem?_set_self
    rw [(batch.write 0 first.payload).peers_length]
    decide
  length := by
    apply List.getElem?_set_self
    rw [(batch.write 0 first.payload).lengths_length]
    decide
  buffer := by
    refine ⟨_, ?_, stored_receive first.payload (batch.buffers.get ⟨0, batch.buffers_pos⟩)⟩
    show (batch.buffers.modify 0 (Buffer.receive first.payload))[0]? = _
    rw [List.getElem?_modify_eq, List.getElem?_eq_getElem batch.buffers_pos]
    rfl

theorem Filled.kept {batch batch' : UdpReceiveBatch} {index : Nat} {peer : SocketAddr}
    {payload : List UInt8} (h : Filled batch index peer payload) {limit : Nat}
    (hkeeps : KeepsBefore limit batch batch') (hindex : index < limit) :
    Filled batch' index peer payload where
  peer := by rw [hkeeps.peers index hindex, h.peer]
  length := by rw [hkeeps.lengths index hindex, h.length]
  buffer := by
    rw [hkeeps.buffers index hindex]
    exact h.buffer

theorem KeepsBefore.trans {limit : Nat} {batch batch' batch'' : UdpReceiveBatch}
    (h : KeepsBefore limit batch batch') (h' : KeepsBefore limit batch' batch'') :
    KeepsBefore limit batch batch'' where
  buffers := fun i hi => (h'.buffers i hi).trans (h.buffers i hi)
  lengths := fun i hi => (h'.lengths i hi).trans (h.lengths i hi)
  peers := fun i hi => (h'.peers i hi).trans (h.peers i hi)
  capacity := h'.capacity.trans h.capacity

/-- The second call fills the slots after the first. -/
theorem filled_rest {batch batch' : UdpReceiveBatch} {taken : List Arrival}
    (hroom : 1 + taken.length <= batch.buffers.length)
    (h : noteAll 1 taken (fill 1 taken batch) = .ok batch') {offset : Nat}
    {arrival : Arrival} (harrival : taken[offset]? = some arrival) :
    exists peer, arrival.sender = .known peer ∧
      Filled batch' (1 + offset) peer arrival.payload := by
  have hlimit := batch.buffers_le
  rcases noteAll_notes 1 _ h (by lia) harrival with ⟨peer, hsender, hpeer, hlength⟩
  refine ⟨peer, hsender, hpeer, hlength, ?_⟩
  rw [(noteAll_keeps 1 _ h).2]
  exact fill_stores 1 batch hroom harrival

/-- Every slot that is counted holds what arrived for it. -/
theorem recv_filled {batchEnabled : Bool} {first : Datagram}
    {more : Except RecvError (List Arrival)} {batch batch' : UdpReceiveBatch} {count : Nat}
    (h : recv batchEnabled (.ok first) more batch = .ok (count, batch')) :
    count = (arrived batchEnabled first more batch).length ∧
      forall index arrival, (arrived batchEnabled first more batch)[index]? = some arrival ->
        exists peer, arrival.sender = .known peer ∧
          Filled batch' index peer arrival.payload := by
  have hfirst := filled_recvOne first batch
  have honly : forall index arrival,
      [(⟨.known first.peer, first.payload⟩ : Arrival)][index]? = some arrival ->
      exists peer, arrival.sender = .known peer ∧
        Filled ((batch.write 0 first.payload).note 0 (reportedLength first.payload) first.peer)
          index peer arrival.payload := by
    intro index arrival harrival
    cases index with
    | zero =>
        rw [List.getElem?_cons_zero] at harrival
        cases harrival
        exact ⟨first.peer, rfl, hfirst⟩
    | succ index => cases harrival
  cases batchEnabled with
  | false =>
      cases h
      exact ⟨rfl, honly⟩
  | true =>
      simp only [recv, if_true, recvBatch, recvOne] at h
      split at h
      · cases h
        exact ⟨rfl, honly⟩
      · cases h
      · next arrivals =>
        split at h
        · cases h
        · next noted hnoted =>
          cases h
          have hcapacity : ((batch.write 0 first.payload).note 0 (reportedLength first.payload)
              first.peer).buffers.length = batch.buffers.length := List.length_modify ..
          rw [hcapacity] at hnoted ⊢
          refine ⟨Nat.add_comm _ _, ?_⟩
          intro index arrival harrival
          cases index with
          | zero =>
              cases harrival
              have hkeeps := (fill_keeps _ 1 _).1.trans (noteAll_keeps 1 _ hnoted).1
              exact ⟨first.peer, rfl, hfirst.kept hkeeps Nat.one_pos⟩
          | succ offset =>
              have hpos := batch.buffers_pos
              have htaken : (arrivals.take (batch.buffers.length - 1)).length <=
                  batch.buffers.length - 1 := List.length_take_le _ _
              rw [Nat.add_comm offset 1]
              exact filled_rest (by rw [hcapacity]; lia) hnoted harrival

theorem filterMap_range {value : Type} {f : Nat -> Option value} {count : Nat}
    (h : forall index, index < count -> (f index).isSome) :
    ((List.range count).filterMap f).length = count ∧
      forall index, index < count -> ((List.range count).filterMap f)[index]? = f index := by
  induction count with
  | zero => exact ⟨rfl, fun index hindex => absurd hindex (Nat.not_lt_zero index)⟩
  | succ count ih =>
      rcases ih (fun index hindex => h index (Nat.lt_succ_of_lt hindex)) with ⟨hlength, hget⟩
      rcases Option.isSome_iff_exists.mp (h count (Nat.lt_succ_self count)) with ⟨last, hlast⟩
      rw [List.range_succ, List.filterMap_append, List.filterMap_cons_some hlast,
        List.filterMap_nil]
      refine ⟨by rw [List.length_append, hlength, List.length_singleton], ?_⟩
      intro index hindex
      rcases Nat.lt_succ_iff_lt_or_eq.mp hindex with hbefore | hhere
      · rw [List.getElem?_append_left (by rw [hlength]; exact hbefore), hget index hbefore]
      · rw [hhere, hlast, List.getElem?_append_right hlength.le, hlength, Nat.sub_self]
        rfl

/-- A pass works on what arrived, cut to the size of a buffer. -/
theorem recv_datagrams {batchEnabled : Bool} {first : Datagram}
    {more : Except RecvError (List Arrival)} {batch batch' : UdpReceiveBatch} {count : Nat}
    (h : recv batchEnabled (.ok first) more batch = .ok (count, batch')) {index : Nat}
    {arrival : Arrival}
    (harrival : (arrived batchEnabled first more batch)[index]? = some arrival) :
    exists peer, arrival.sender = .known peer ∧ (batch'.datagrams count)[index]? =
      some ⟨peer, arrival.payload.take udpDatagramBufferBytes⟩ := by
  rcases recv_filled h with ⟨hcount, hfilled⟩
  have hsome : forall i, i < count -> (batch'.datagramAt i).isSome := by
    intro i hi
    rw [hcount] at hi
    rcases hfilled i _ (List.getElem?_eq_getElem hi) with ⟨peer, _, hslot⟩
    rw [hslot.datagramAt]
    rfl
  have hindex : index < count := by
    rw [hcount]
    exact (List.getElem?_eq_some_iff.mp harrival).1
  rcases hfilled index arrival harrival with ⟨peer, hsender, hslot⟩
  refine ⟨peer, hsender, ?_⟩
  rw [← hslot.datagramAt]
  exact (filterMap_range hsome).2 index hindex

/-!
# Payloads
-/

/-- Whenever a datagram with this payload arrives from a client, what is sent for it has
the same payload. -/
def KeptFromClient (payload : List UInt8) : Prop :=
  forall (around : Around) (batchEnabled : Bool) (first : Datagram)
    (more : Except RecvError (List Arrival)) (batch batch' : UdpReceiveBatch)
    (entry : ListenerEntry) (p : Pass),
    receiveTurn around batchEnabled (.ok first) more batch (Pass.start entry) =
      some (batch', p) ->
    forall sending arrival, sending ∈ p.deliveries ->
      (arrived batchEnabled first more batch)[sending.index]? = some arrival ->
      arrival.payload = payload -> sending.payload = payload

def KeptFromUpstream (payload : List UInt8) : Prop :=
  forall (buffer : Buffer) (current sends : Bool) (sent : List UInt8),
    replyTurn buffer (.ok payload) current sends = some sent -> sent = payload

/-- What is sent for a datagram is as much of it as fits a buffer. -/
theorem sending_payload {around : Around} {batchEnabled : Bool} {first : Datagram}
    {more : Except RecvError (List Arrival)} {batch batch' : UdpReceiveBatch}
    {entry : ListenerEntry} {p : Pass}
    (h : receiveTurn around batchEnabled (.ok first) more batch (Pass.start entry) =
      some (batch', p)) {sending : Delivery} (hsending : sending ∈ p.deliveries)
    {arrival : Arrival}
    (harrival : (arrived batchEnabled first more batch)[sending.index]? = some arrival) :
    sending.payload = arrival.payload.take udpDatagramBufferBytes := by
  unfold receiveTurn at h
  split at h
  · cases h
  · next count filled hrecv =>
    cases h
    rcases recv_datagrams hrecv harrival with ⟨peer, _, hdatagram⟩
    rcases receiveBatch_spec around batchEnabled (filled.datagrams count)
      (Pass.start entry) with ⟨lost, sent, hreceived⟩
    have hdeliveries := hreceived.accounts.deliveries
    rw [hdeliveries] at hsending
    have hsent := hreceived.datagram (show sending ∈ sent from hsending)
    rw [hdatagram] at hsent
    exact (congrArg Datagram.payload (Option.some.inj hsent)).symm

theorem replyTurn_payload {buffer : Buffer} {payload sent : List UInt8} {current sends : Bool}
    (h : replyTurn buffer (.ok payload) current sends = some sent) :
    sent = payload.take udpDatagramBufferBytes := by
  unfold replyTurn at h
  simp only at h
  split at h
  · cases h
    exact stored_receive payload buffer
  · cases h

/-- One datagram of a client that has a session, and nothing fails. -/
theorem turn_of_one (batchEnabled : Bool) (payload : List UInt8) :
    exists batch' p,
      receiveTurn allSucceed batchEnabled (.ok ⟨clientAt 4000, payload⟩) (.error .wouldBlock)
        UdpReceiveBatch.new (Pass.start oneSession) = some (batch', p) ∧
      p.deliveries = [⟨⟨0, 0, clientAt 4000, ⟨"10.0.0.1", 53⟩⟩, 0,
        payload.take udpDatagramBufferBytes⟩] := by
  let filled := (UdpReceiveBatch.new.write 0 payload).note 0 (reportedLength payload)
    (clientAt 4000)
  have hrecv : recv batchEnabled (.ok ⟨clientAt 4000, payload⟩) (.error .wouldBlock)
      UdpReceiveBatch.new = .ok (1, filled) := by
    cases batchEnabled <;> rfl
  have hslot := (filled_recvOne ⟨clientAt 4000, payload⟩ UdpReceiveBatch.new).datagramAt
  have hdatagrams : filled.datagrams 1 =
      [⟨clientAt 4000, payload.take udpDatagramBufferBytes⟩] := by
    unfold UdpReceiveBatch.datagrams
    rw [List.range_one, List.filterMap_cons_some hslot, List.filterMap_nil]
  refine ⟨_, _, by unfold receiveTurn; rw [hrecv], ?_⟩
  rw [hdatagrams]
  cases batchEnabled <;> rfl

theorem keptFromClient_iff (payload : List UInt8) :
    KeptFromClient payload <-> payload.length <= udpDatagramBufferBytes := by
  constructor
  · intro hkept
    rcases turn_of_one true payload with ⟨batch', p, hturn, hdeliveries⟩
    have hsent := hkept allSucceed true ⟨clientAt 4000, payload⟩ (.error .wouldBlock)
      UdpReceiveBatch.new batch' oneSession p hturn _
      ⟨.known (clientAt 4000), payload⟩ (by rw [hdeliveries]; exact List.mem_singleton_self _)
      rfl rfl
    exact (List.take_eq_self_iff _).mp hsent
  · intro hfits around batchEnabled first more batch batch' entry p hturn sending arrival
      hsending harrival hpayload
    rw [sending_payload hturn hsending harrival, hpayload]
    exact (List.take_eq_self_iff _).mpr hfits

theorem keptFromUpstream_iff (payload : List UInt8) :
    KeptFromUpstream payload <-> payload.length <= udpDatagramBufferBytes := by
  constructor
  · intro hkept
    have hsent := hkept Buffer.zero true true _ rfl
    exact (List.take_eq_self_iff _).mp ((stored_receive payload Buffer.zero).symm.trans hsent)
  · intro hfits buffer current sends sent hturn
    rw [replyTurn_payload hturn]
    exact (List.take_eq_self_iff _).mpr hfits

theorem payload_kept_iff (payload : List UInt8) :
    (KeptFromClient payload <-> payload.length <= udpDatagramBufferBytes) ∧
      (KeptFromUpstream payload <-> payload.length <= udpDatagramBufferBytes) := by
  constructor
  · exact keptFromClient_iff payload
  · exact keptFromUpstream_iff payload

/-- Of 2049 bytes, 2048 arrive, on either side and with batching or without. -/
theorem long_payload_cut :
    (forall batchEnabled, exists batch' p,
      receiveTurn allSucceed batchEnabled (.ok ⟨clientAt 4000, List.replicate 2049 7⟩)
        (.error .wouldBlock) UdpReceiveBatch.new (Pass.start oneSession) = some (batch', p) ∧
      p.deliveries.map Delivery.payload = [List.replicate 2048 7]) ∧
    replyTurn Buffer.zero (.ok (List.replicate 2049 7)) true true =
      some (List.replicate 2048 7) := by
  have hcut : (List.replicate 2049 (7 : UInt8)).take udpDatagramBufferBytes =
      List.replicate 2048 7 := List.take_replicate
  constructor
  · intro batchEnabled
    rcases turn_of_one batchEnabled (List.replicate 2049 7) with
      ⟨batch', p, hturn, hdeliveries⟩
    refine ⟨batch', p, hturn, ?_⟩
    rw [hdeliveries, hcut]
    rfl
  · have hsent := stored_receive (List.replicate 2049 7) Buffer.zero
    rw [← hcut, ← hsent]
    rfl

end Udp
end Runtime
end Relayd
