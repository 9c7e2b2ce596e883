import Relayd.Runtime.TcpDelete
import Relayd.Runtime.UdpBuffers

/-!
# The byte counters of a listener

`rx` is to count what clients send to the listener and `tx` what is sent back to them.
A tcp session adds its bytes when its copy has ended without an error and at no other
time, and it adds what came from the client to `tx` and what came from the upstream to
`rx`.  A udp listener counts on receiving and on replying; a receive call that fails
after it has taken datagrams from the socket leaves these out.
-/

namespace Relayd
namespace Runtime

open Foundation

/-!
# Tcp
-/

namespace TcpTasks

def Session.clean (session : Session) : Bool :=
  match session.phase with
  | .removing .clean => true
  | .finished .clean => true
  | _ => false

/-- The bytes of a session whose copy has ended without an error. -/
def Session.cleanly (bytes : Session -> Nat) (session : Session) : Nat :=
  if session.clean then bytes session else 0

/-- Bytes copied from clients, over all sessions. -/
def Tasks.fromClients (s : Tasks) : Nat := total Session.fromClient s.spawned

/-- Bytes copied to clients, over all sessions. -/
def Tasks.toClients (s : Tasks) : Nat := total Session.fromUpstream s.spawned

def Tasks.cleanlyFromClients (s : Tasks) : Nat :=
  total (Session.cleanly Session.fromClient) s.spawned

def Tasks.cleanlyToClients (s : Tasks) : Nat :=
  total (Session.cleanly Session.fromUpstream) s.spawned

/-- The counters are the bytes of the clean sessions, each under the other name. -/
structure Counted (s : Tasks) : Prop where
  rx : s.entry.rx = UInt64.ofNat s.cleanlyToClients
  tx : s.entry.tx = UInt64.ofNat s.cleanlyFromClients

theorem copied_eq_ok {session : Session} {entry : ListenerEntry}
    {splice : Except IoError (Option IoError × Option IoError)}
    {buffered : Except IoError Unit} {counts : UInt64 × UInt64}
    (h : session.copied entry splice buffered = .ok counts) :
    counts = (UInt64.ofNat session.fromClient, UInt64.ofNat session.fromUpstream) := by
  have hbuffered : buffered.map (fun _ =>
      (UInt64.ofNat session.fromClient, UInt64.ofNat session.fromUpstream)) = .ok counts ->
      counts = (UInt64.ofNat session.fromClient, UInt64.ofNat session.fromUpstream) := by
    intro hok
    cases buffered with
    | error error => cases hok
    | ok ended =>
        cases hok
        rfl
  unfold Session.copied copyStreams at h
  split at h
  · exact hbuffered h
  · split at h
    · exact hbuffered h
    · cases splice with
      | error error => exact hbuffered h
      | ok errors =>
          simp only [Except.map] at h
          split at h
          · cases h
          · cases h
            rfl

/-- A step of a session changes the counters by what it makes countable. -/
structure Adds (s s' : Tasks) (number : Nat) (session after : Session) : Prop where
  spawned : s'.spawned = s.spawned.insert number after
  rx : s'.entry.rx + UInt64.ofNat (session.cleanly Session.fromUpstream) =
    s.entry.rx + UInt64.ofNat (after.cleanly Session.fromUpstream)
  tx : s'.entry.tx + UInt64.ofNat (session.cleanly Session.fromClient) =
    s.entry.tx + UInt64.ofNat (after.cleanly Session.fromClient)

theorem cleanly_of_not {session : Session} (h : session.clean = false)
    (bytes : Session -> Nat) : session.cleanly bytes = 0 := by
  unfold Session.cleanly
  rw [h]
  rfl

/-- Neither before nor after the step is the session countable. -/
theorem Adds.nothing {s s' : Tasks} {number : Nat} {session after : Session}
    (hspawned : s'.spawned = s.spawned.insert number after)
    (hrx : s'.entry.rx = s.entry.rx) (htx : s'.entry.tx = s.entry.tx)
    (hbefore : session.clean = false) (hafter : after.clean = false) :
    Adds s s' number session after where
  spawned := hspawned
  rx := by rw [hrx, cleanly_of_not hbefore, cleanly_of_not hafter]
  tx := by rw [htx, cleanly_of_not hbefore, cleanly_of_not hafter]

theorem clean_of_forwarding {session : Session} (h : session.phase.forwarding = true) :
    session.clean = false := by
  unfold Session.clean
  cases hphase : session.phase with
  | removing ending =>
      rw [hphase] at h
      cases h
  | finished ending =>
      rw [hphase] at h
      cases h
  | _ => rfl

theorem sessionNext_adds {s s' : Tasks} {number : Nat} {session : Session}
    {step : SessionStep} (h : sessionNext s number session step = some s') :
    exists after, Adds s s' number session after := by
  cases step with
  | copyEnds splice buffered =>
      simp only [sessionNext] at h
      split at h
      · next hphase =>
        have hbefore : session.clean = false := by
          unfold Session.clean
          rw [hphase]
        split at h
        · next fromClient fromUpstream hcopied =>
          cases copied_eq_ok hcopied
          cases h
          refine ⟨{ session with phase := .removing .clean }, rfl, ?_, ?_⟩
          · rw [cleanly_of_not hbefore]
            exact UInt64.add_zero _
          · rw [cleanly_of_not hbefore]
            exact UInt64.add_zero _
        · cases h
          exact ⟨_, Adds.nothing rfl rfl rfl hbefore rfl⟩
      · cases h
  | recordError =>
      simp only [sessionNext] at h
      split at h
      · next hphase =>
        cases h
        exact ⟨_, Adds.nothing rfl rfl rfl (by simp [Session.clean, hphase]) rfl⟩
      · next hphase =>
        cases h
        exact ⟨_, Adds.nothing rfl rfl rfl (by simp [Session.clean, hphase]) rfl⟩
      · cases h
  | observeShutdown =>
      simp only [sessionNext] at h
      split at h
      · next hsignalled =>
        cases h
        rw [Bool.and_eq_true] at hsignalled
        exact ⟨_, Adds.nothing rfl rfl rfl (clean_of_forwarding hsignalled.1) rfl⟩
      · cases h
  -- The session is as countable as it was.
  | removeSessionHandle =>
      simp only [sessionNext] at h
      split at h
      · next ending hphase =>
        cases h
        have hclean : ({ session with phase := .finished ending } : Session).clean =
            session.clean := by
          unfold Session.clean
          rw [hphase]
          cases ending <;> rfl
        refine ⟨{ session with phase := .finished ending }, rfl, ?_, ?_⟩
        · unfold Session.cleanly
          rw [hclean]
        · unfold Session.cleanly
          rw [hclean]
      · cases h
  | copy fromClient fromUpstream =>
      simp only [sessionNext] at h
      split at h
      · next hphase =>
        cases h
        exact ⟨_, Adds.nothing rfl rfl rfl (by simp [Session.clean, hphase])
          (by simp [Session.clean, hphase])⟩
      · cases h
  | _ =>
      simp only [sessionNext] at h
      split at h
      · next hphase =>
        cases h
        exact ⟨_, Adds.nothing rfl rfl rfl (by simp [Session.clean, hphase]) rfl⟩
      · cases h

theorem Counted.adds {s s' : Tasks} {number : Nat} {session after : Session} (h : Counted s)
    (hlookup : s.spawned.lookup number = some session)
    (hadds : Adds s s' number session after) : Counted s' where
  rx := by
    have htotal := total_insert_of_some hlookup (Session.cleanly Session.fromUpstream) after
    have hsum := congrArg UInt64.ofNat htotal
    rw [UInt64.ofNat_add, UInt64.ofNat_add, ← hadds.spawned] at hsum
    have hrx := hadds.rx
    rw [h.rx] at hrx
    exact (UInt64.add_left_inj _).mp (hrx.trans hsum.symm)
  tx := by
    have htotal := total_insert_of_some hlookup (Session.cleanly Session.fromClient) after
    have hsum := congrArg UInt64.ofNat htotal
    rw [UInt64.ofNat_add, UInt64.ofNat_add, ← hadds.spawned] at hsum
    have htx := hadds.tx
    rw [h.tx] at htx
    exact (UInt64.add_left_inj _).mp (htx.trans hsum.symm)

/-- The accept loop counts nothing, and the sessions it spawns have copied nothing. -/
theorem counted_acceptNext {s s' : Tasks} {step : AcceptStep} (hkept : Kept s)
    (h : Counted s) (hnext : acceptNext s step = some s') : Counted s' := by
  cases step with
  | register =>
      simp only [acceptNext] at hnext
      split at hnext
      · next number id target hphase =>
        cases hnext
        have hfresh := (hkept.taken number id target hphase).2.2
        constructor
        · show s.entry.rx = UInt64.ofNat (total _ (s.spawned.insert number _))
          rw [total_insert_of_none hfresh]
          exact h.rx
        · show s.entry.tx = UInt64.ofNat (total _ (s.spawned.insert number _))
          rw [total_insert_of_none hfresh]
          exact h.tx
      · cases hnext
  | observeShutdown =>
      simp only [acceptNext] at hnext
      split at hnext
      · split at hnext
        · cases hnext
          exact ⟨h.rx, h.tx⟩
        · cases hnext
      · cases hnext
  | readState =>
      simp only [acceptNext] at hnext
      split at hnext
      · split at hnext
        · cases hnext
          exact ⟨h.rx, h.tx⟩
        · cases hnext
          exact ⟨h.rx, h.tx⟩
      · cases hnext
  | cancel =>
      simp only [acceptNext] at hnext
      split at hnext
      · split at hnext
        · cases hnext
        · cases hnext
          exact ⟨h.rx, h.tx⟩
      · cases hnext
  | _ =>
      simp only [acceptNext] at hnext
      split at hnext
      · cases hnext
        exact ⟨h.rx, h.tx⟩
      · cases hnext

theorem counted_next {s s' : Tasks} {step : Step} (hkept : Kept s) (h : Counted s)
    (hnext : next s step = some s') : Counted s' := by
  cases step with
  | accept step => exact counted_acceptNext hkept h hnext
  | session number step =>
      simp only [next] at hnext
      split at hnext
      · next hlookup =>
        rcases sessionNext_adds hnext with ⟨after, hadds⟩
        exact h.adds hlookup hadds
      · cases hnext
  | control step =>
      rcases controlNext_counters hnext with ⟨hrx, htx⟩
      have hspawned := (controlNext_keeps hnext).2
      constructor
      · unfold Tasks.cleanlyToClients
        rw [hrx, hspawned]
        exact h.rx
      · unfold Tasks.cleanlyFromClients
        rw [htx, hspawned]
        exact h.tx

theorem counted_reachable {config : TcpRuntimeConfig} {allocation : Allocation} {s : Tasks}
    (h : Reachable next (Tasks.bound config allocation) s) : Counted s := by
  have hinv : Kept s ∧ Counted s := by
    apply h.invariant
    · exact ⟨kept_bound config allocation, rfl, rfl⟩
    · intro before step after hbefore hnext
      exact ⟨kept_next hbefore.1 hnext, counted_next hbefore.1 hbefore.2 hnext⟩
  exact hinv.2

/-- Every session that was spawned has finished. -/
def NoLiveSession (s : Tasks) : Prop :=
  forall number session, s.spawned.lookup number = some session -> session.phase.ended = true

/-- The counters mean what they are documented to mean. -/
def AsDocumented (s : Tasks) : Prop :=
  s.entry.rx.toNat = s.fromClients ∧ s.entry.tx.toNat = s.toClients

/-- Only sessions that ended cleanly have copied anything, and in all they have copied
as many bytes in one direction as in the other. -/
structure Mirrored (s : Tasks) : Prop where
  clean : forall number session, s.spawned.lookup number = some session ->
    session.clean = false -> session.fromClient = 0 ∧ session.fromUpstream = 0
  even : s.fromClients = s.toClients
  fits : s.fromClients < 2 ^ 64

theorem cleanly_le (bytes : Session -> Nat) (session : Session) :
    session.cleanly bytes <= bytes session := by
  unfold Session.cleanly
  split
  · exact Nat.le_refl _
  · exact Nat.zero_le _

theorem cleanly_eq_of_clean {bytes : Session -> Nat} {session : Session}
    (h : session.clean = false -> bytes session = 0) : session.cleanly bytes = bytes session := by
  cases hclean : session.clean with
  | true =>
      unfold Session.cleanly
      rw [if_pos hclean]
  | false => rw [cleanly_of_not hclean, h hclean]

theorem eq_zero_of_cleanly_eq {bytes : Session -> Nat} {session : Session}
    (h : session.cleanly bytes = bytes session) (hclean : session.clean = false) :
    bytes session = 0 := by
  rw [← h]
  exact cleanly_of_not hclean bytes

theorem asDocumented_iff_mirrored {config : TcpRuntimeConfig} {allocation : Allocation}
    {s : Tasks} (h : Reachable next (Tasks.bound config allocation) s) :
    AsDocumented s <-> Mirrored s := by
  have hcounted := counted_reachable h
  have hfrom := total_le_total (m := s.spawned) (cleanly_le Session.fromClient)
  have hto := total_le_total (m := s.spawned) (cleanly_le Session.fromUpstream)
  unfold AsDocumented
  rw [hcounted.rx, hcounted.tx, UInt64.toNat_ofNat', UInt64.toNat_ofNat']
  unfold Tasks.cleanlyToClients Tasks.cleanlyFromClients
  constructor
  · intro hdocumented
    -- What is counted in one direction bounds the other direction, both ways round.
    have hrx := Nat.mod_le (total (Session.cleanly Session.fromUpstream) s.spawned) (2 ^ 64)
    have htx := Nat.mod_le (total (Session.cleanly Session.fromClient) s.spawned) (2 ^ 64)
    have hlimit := Nat.mod_lt (total (Session.cleanly Session.fromUpstream) s.spawned)
      (Nat.two_pow_pos 64)
    unfold Tasks.fromClients Tasks.toClients at hdocumented
    refine ⟨?_, ?_, ?_⟩
    · intro number session hlookup hclean
      constructor
      · exact eq_zero_of_cleanly_eq (hfrom.2 (by lia) number session hlookup) hclean
      · exact eq_zero_of_cleanly_eq (hto.2 (by lia) number session hlookup) hclean
    · unfold Tasks.fromClients Tasks.toClients
      lia
    · unfold Tasks.fromClients
      lia
  · intro hmirrored
    have hfits := hmirrored.fits
    have heven := hmirrored.even
    have hclient : total (Session.cleanly Session.fromClient) s.spawned = s.fromClients :=
      total_eq_of_eq (fun number session hlookup =>
        cleanly_eq_of_clean (fun hclean => (hmirrored.clean number session hlookup hclean).1))
    have hupstream : total (Session.cleanly Session.fromUpstream) s.spawned = s.toClients :=
      total_eq_of_eq (fun number session hlookup =>
        cleanly_eq_of_clean (fun hclean => (hmirrored.clean number session hlookup hclean).2))
    rw [hclient, hupstream, Nat.mod_eq_of_lt hfits, Nat.mod_eq_of_lt (by lia)]
    exact ⟨heven.symm, heven⟩

end TcpTasks

/-!
# Udp
-/

namespace Udp

/-- What the two counters see of a listener: turns of the receive loop and turns of
reply loops, in any order. -/
inductive Traffic where
  | receive (first : Except RecvError Datagram) (more : Except RecvError (List Arrival))
  | reply (buffer : Buffer) (received : Except RecvError (List UInt8)) (current sends : Bool)

/-- `received` and `sentBack` are what has passed the listener socket; `uncounted` is
the part of it that a receive call had taken that then failed. -/
structure Meter where
  batch : UdpReceiveBatch
  receiving : Bool
  rx : UInt64
  tx : UInt64
  received : Nat
  uncounted : Nat
  sentBack : Nat

def Meter.zero : Meter where
  batch := UdpReceiveBatch.new
  receiving := true
  rx := 0
  tx := 0
  received := 0
  uncounted := 0
  sentBack := 0

def reportedBytes (arrivals : List Arrival) : Nat :=
  (arrivals.map (fun arrival => reportedLength arrival.payload)).sum

/-- The payload bytes that a receive call takes from the socket. -/
def takenBytes (batchEnabled : Bool) (first : Except RecvError Datagram)
    (more : Except RecvError (List Arrival)) (batch : UdpReceiveBatch) : Nat :=
  match first with
  | .error _ => 0
  | .ok datagram => reportedBytes (arrived batchEnabled datagram more batch)

def meterNext (batchEnabled : Bool) (s : Meter) : Traffic -> Option Meter
  | .receive first more =>
      if s.receiving then
        let taken := takenBytes batchEnabled first more s.batch
        match recv batchEnabled first more s.batch with
        | .ok (count, batch) =>
            some
              { s with
                batch := batch.growIfSaturated count
                rx := s.rx + UInt64.ofNat (batch.lengths.take count).sum
                received := s.received + taken }
        | .error _ =>
            some
              { s with
                receiving := false
                received := s.received + taken
                uncounted := s.uncounted + taken }
      else none
  | .reply buffer received current sends =>
      match replyTurn buffer received current sends with
      | some sent =>
          some
            { s with
              tx := s.tx + UInt64.ofNat sent.length
              sentBack := s.sentBack + sent.length }
      | none => some s

/-- The lengths that are added up are those of what arrived. -/
theorem lengths_of_recv {batchEnabled : Bool} {first : Except RecvError Datagram}
    {more : Except RecvError (List Arrival)} {batch batch' : UdpReceiveBatch} {count : Nat}
    (h : recv batchEnabled first more batch = .ok (count, batch')) :
    (batch'.lengths.take count).sum = takenBytes batchEnabled first more batch := by
  cases first with
  | error error => cases batchEnabled <;> cases h
  | ok datagram =>
      rcases recv_filled h with ⟨hcount, hfilled⟩
      unfold takenBytes reportedBytes
      congr 1
      apply List.ext_getElem?
      intro index
      rw [List.getElem?_take, List.getElem?_map]
      by_cases hindex : index < count
      · rw [if_pos hindex]
        rw [hcount] at hindex
        rcases hfilled index _ (List.getElem?_eq_getElem hindex) with ⟨peer, _, hslot⟩
        rw [hslot.length, List.getElem?_eq_getElem hindex]
        rfl
      · rw [if_neg hindex]
        rw [hcount] at hindex
        rw [List.getElem?_eq_none (Nat.le_of_not_lt hindex)]
        rfl

structure Accounted (s : Meter) : Prop where
  rx : s.rx = UInt64.ofNat (s.received - s.uncounted)
  tx : s.tx = UInt64.ofNat s.sentBack
  part : s.uncounted <= s.received

theorem accounted_zero : Accounted Meter.zero :=
  ⟨rfl, rfl, Nat.le_refl 0⟩

theorem accounted_next {batchEnabled : Bool} {s s' : Meter} {traffic : Traffic}
    (h : Accounted s) (hnext : meterNext batchEnabled s traffic = some s') : Accounted s' := by
  have hpart := h.part
  cases traffic with
  | receive first more =>
      simp only [meterNext] at hnext
      split at hnext
      · split at hnext
        · next count batch hrecv =>
          cases hnext
          refine ⟨?_, h.tx, ?_⟩
          · show s.rx + UInt64.ofNat (batch.lengths.take count).sum =
              UInt64.ofNat (s.received + takenBytes batchEnabled first more s.batch -
                s.uncounted)
            rw [lengths_of_recv hrecv, Nat.sub_add_comm hpart, UInt64.ofNat_add, h.rx]
          · show s.uncounted <= s.received + _
            lia
        · cases hnext
          refine ⟨?_, h.tx, ?_⟩
          · show s.rx = UInt64.ofNat (s.received + _ - (s.uncounted + _))
            rw [Nat.add_sub_add_right]
            exact h.rx
          · exact Nat.add_le_add_right hpart _
      · cases hnext
  | reply buffer received current sends =>
      simp only [meterNext] at hnext
      split at hnext
      · next sent hsent =>
        cases hnext
        refine { h with tx := ?_ }
        show s.tx + UInt64.ofNat sent.length = UInt64.ofNat (s.sentBack + sent.length)
        rw [h.tx, UInt64.ofNat_add]
      · cases hnext
        exact h

theorem accounted_reachable {batchEnabled : Bool} {s : Meter}
    (h : Reachable (meterNext batchEnabled) Meter.zero s) : Accounted s :=
  h.invariant accounted_zero (fun _ _ _ haccounted hnext => accounted_next haccounted hnext)

def AsDocumented (s : Meter) : Prop :=
  s.rx.toNat = s.received ∧ s.tx.toNat = s.sentBack

/-- Every receive call that had taken payload bytes from the socket has returned them,
and the counters have not wrapped. -/
structure AllCounted (s : Meter) : Prop where
  counted : s.uncounted = 0
  receivedFits : s.received < 2 ^ 64
  sentFits : s.sentBack < 2 ^ 64

theorem asDocumented_iff_allCounted {batchEnabled : Bool} {s : Meter}
    (h : Reachable (meterNext batchEnabled) Meter.zero s) :
    AsDocumented s <-> AllCounted s := by
  have haccounted := accounted_reachable h
  have hpart := haccounted.part
  unfold AsDocumented
  rw [haccounted.rx, haccounted.tx, UInt64.toNat_ofNat', UInt64.toNat_ofNat']
  constructor
  · intro hdocumented
    have hrx := Nat.mod_le (s.received - s.uncounted) (2 ^ 64)
    have hrxLimit := Nat.mod_lt (s.received - s.uncounted) (Nat.two_pow_pos 64)
    have htxLimit := Nat.mod_lt s.sentBack (Nat.two_pow_pos 64)
    exact ⟨by lia, by lia, by lia⟩
  · intro hall
    rw [hall.counted, Nat.sub_zero, Nat.mod_eq_of_lt hall.receivedFits,
      Nat.mod_eq_of_lt hall.sentFits]
    exact ⟨rfl, rfl⟩

end Udp

/-!
# Both
-/

theorem byte_counters_iff (config : TcpTasks.TcpRuntimeConfig) (allocation : Allocation)
    (batchEnabled : Bool) (s : TcpTasks.Tasks) (m : Udp.Meter)
    (htcp : Reachable TcpTasks.next (TcpTasks.Tasks.bound config allocation) s)
    (_ : TcpTasks.NoLiveSession s)
    (hudp : Reachable (Udp.meterNext batchEnabled) Udp.Meter.zero m) :
    (TcpTasks.AsDocumented s <-> TcpTasks.Mirrored s) ∧
      (Udp.AsDocumented m <-> Udp.AllCounted m) := by
  constructor
  · exact TcpTasks.asDocumented_iff_mirrored htcp
  · exact Udp.asDocumented_iff_allCounted hudp

/-- One session that copies as many bytes as given and ends cleanly. -/
def tcpExchange (fromClient fromUpstream : Nat) : List TcpTasks.Step :=
  [.accept .accept, .accept .readState, .accept .register, .session 0 .connect,
    .session 0 (.copy fromClient fromUpstream),
    .session 0 (.copyEnds (.ok (none, none)) (.ok ())), .session 0 .removeSessionHandle]

def udpRequest : Except Udp.RecvError Udp.Datagram := .ok ⟨Udp.clientAt 4000, [1, 2, 3]⟩

/-- The reply comes too late to be sent. -/
def udpExchange : List Udp.Traffic :=
  [.receive udpRequest (.error .wouldBlock), .reply Udp.Buffer.zero (.ok [4, 5]) false true]

theorem byte_counters_of_echo :
    exists s m, run TcpTasks.next (tcpExchange 4 4)
        (TcpTasks.Tasks.bound ⟨false, false⟩ TcpTasks.forwardedAllocation) = some s ∧
      run (Udp.meterNext true) udpExchange Udp.Meter.zero = some m ∧
      s.fromClients = 4 ∧ TcpTasks.AsDocumented s ∧ m.received = 3 ∧ Udp.AsDocumented m := by
  have htcp : exists s, run TcpTasks.next (tcpExchange 4 4)
      (TcpTasks.Tasks.bound ⟨false, false⟩ TcpTasks.forwardedAllocation) = some s ∧
      TcpTasks.NoLiveSession s ∧ s.fromClients = 4 ∧ TcpTasks.Mirrored s := by
    refine ⟨_, rfl, ?_, rfl, ?_, rfl, ?_⟩
    · intro number session hlookup
      cases List.mem_singleton.mp (mem_values.mpr ⟨number, hlookup⟩)
      rfl
    · intro number session hlookup hclean
      cases List.mem_singleton.mp (mem_values.mpr ⟨number, hlookup⟩)
      cases hclean
    · exact (show 4 < 2 ^ 64 by decide)
  have hudp : exists m, run (Udp.meterNext true) udpExchange Udp.Meter.zero = some m ∧
      m.received = 3 ∧ Udp.AllCounted m :=
    ⟨_, rfl, rfl, rfl, (show 3 < 2 ^ 64 by decide), (show 0 < 2 ^ 64 by decide)⟩
  rcases htcp with ⟨s, hrun, hlive, hfromClients, hmirrored⟩
  rcases hudp with ⟨m, hmeter, hreceived, hcounted⟩
  have hiff := byte_counters_iff ⟨false, false⟩ TcpTasks.forwardedAllocation true s m
    (Reachable.of_run (tcpExchange 4 4) hrun) hlive (Reachable.of_run udpExchange hmeter)
  exact ⟨s, m, hrun, hmeter, hfromClients, hiff.left.mpr hmirrored, hreceived,
    hiff.right.mpr hcounted⟩

/-- Three bytes go from the client to the upstream and none come back; they are counted
as sent to the client.  Three bytes of a datagram are not counted at all, because the
call that took it goes on to look for more and fails. -/
theorem byte_counters_swapped_or_lost :
    (exists s, run TcpTasks.next (tcpExchange 3 0)
        (TcpTasks.Tasks.bound ⟨false, false⟩ TcpTasks.forwardedAllocation) = some s ∧
      TcpTasks.NoLiveSession s ∧ s.fromClients = 3 ∧ s.toClients = 0 ∧
      s.entry.rx = 0 ∧ s.entry.tx = 3) ∧
    (exists s, run (Udp.meterNext true) [.receive udpRequest (.error (.failed "ENOMEM"))]
        Udp.Meter.zero = some s ∧ s.received = 3 ∧ s.rx = 0) := by
  constructor
  · refine ⟨_, rfl, ?_, rfl, rfl, rfl, rfl⟩
    intro number session hlookup
    cases List.mem_singleton.mp (mem_values.mpr ⟨number, hlookup⟩)
    rfl
  · exact ⟨_, rfl, rfl, rfl⟩

end Runtime
end Relayd
