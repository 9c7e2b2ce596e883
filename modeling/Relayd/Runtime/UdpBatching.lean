import Mathlib.Algebra.Group.Basic
import Relayd.Runtime.UdpConservation

/-!
# Batched and unbatched forwarding

While nothing fails and nobody else acts, the receive loop forwards each datagram
through the session of its client.  This module states that behaviour on its own,
datagram by datagram, shows that a pass over a whole batch amounts to it, and
concludes that the split into batches cannot be observed.
-/

namespace Relayd
namespace Runtime
namespace Udp

open Foundation

/-!
# Adding counters
-/

def Counters.add (c d : Counters) : Counters where
  udpPacketsInTotal := c.udpPacketsInTotal + d.udpPacketsInTotal
  udpBytesInTotal := c.udpBytesInTotal + d.udpBytesInTotal
  listenerRx := c.listenerRx + d.listenerRx
  rejectedNoHostTotal := c.rejectedNoHostTotal + d.rejectedNoHostTotal
  udpDropTotal := c.udpDropTotal + d.udpDropTotal
  udpReplyStaleTotal := c.udpReplyStaleTotal + d.udpReplyStaleTotal
  udpReplyDropTotal := c.udpReplyDropTotal + d.udpReplyDropTotal
  udpSendErrorsTotal := c.udpSendErrorsTotal + d.udpSendErrorsTotal
  udpSessionCreateTotal := c.udpSessionCreateTotal + d.udpSessionCreateTotal

instance : Add Counters := ⟨Counters.add⟩

instance : Zero Counters := ⟨Counters.zero⟩

theorem Counters.add_eq (c d : Counters) : c + d = c.add d := rfl

theorem Counters.zero_eq : (0 : Counters) = Counters.zero := rfl

instance : AddCommMonoid Counters where
  add_assoc := by
    intro a b c
    simp only [Counters.add_eq, Counters.add, Nat.add_assoc]
  zero_add := by
    intro a
    simp only [Counters.add_eq, Counters.zero_eq, Counters.add, Counters.zero, Nat.zero_add]
  add_zero := by
    intro a
    rfl
  add_comm := by
    intro a b
    simp only [Counters.add_eq, Counters.add, Nat.add_comm]
  nsmul := nsmulRec

def received (batch : List Datagram) : Counters :=
  { Counters.zero with
    udpPacketsInTotal := batch.length
    udpBytesInTotal := payloadBytes batch
    listenerRx := payloadBytes batch }

def lost (counter : LossCounter) (n : Nat) : Counters :=
  Pass.count counter n Counters.zero

def created : Counters := { Counters.zero with udpSessionCreateTotal := 1 }

theorem received_cons (datagram : Datagram) (rest : List Datagram) :
    received (datagram :: rest) = received [datagram] + received rest := by
  simp only [received, payloadBytes, Counters.add_eq, Counters.add, Counters.zero,
    List.length_cons, List.length_nil, List.map_cons, List.map_nil, List.sum_cons,
    List.sum_nil, Nat.add_zero, Nat.zero_add, Nat.add_comm]

theorem lost_add (counter : LossCounter) (m n : Nat) :
    lost counter (m + n) = lost counter m + lost counter n := by
  cases counter <;>
    simp only [lost, Pass.count, Counters.add_eq, Counters.add, Counters.zero, Nat.zero_add]

theorem count_eq (counter : LossCounter) (n : Nat) (c : Counters) :
    Pass.count counter n c = c + lost counter n := by
  cases counter <;>
    simp only [lost, Pass.count, Counters.add_eq, Counters.add, Counters.zero, Nat.zero_add,
      Nat.add_zero]

/-!
# Forwarding datagram by datagram
-/

inductive Assignment where
  | known (session : UdpSession)
  | opened (session : UdpSession)
  | refused
deriving DecidableEq, Repr

def Assignment.session : Assignment -> Option UdpSession
  | .known session => some session
  | .opened session => some session
  | .refused => none

def Assignment.counted : Assignment -> Counters
  | .known _ => 0
  | .opened _ => created
  | .refused => lost .udpDrop 1

/-- The session of a client: the one it has, or a new one while there is room. -/
def assign (target : Target) (addr : SocketAddr) (entry : ListenerEntry) :
    Assignment × ListenerEntry :=
  match entry.table.lookup addr with
  | some session => (.known session, entry)
  | none =>
      if entry.table.size >= entry.maxSessions then (.refused, entry)
      else
        (.opened (entry.table.fresh addr entry.stateGeneration target),
          entry.withSession addr entry.stateGeneration target)

/-- What forwarding leaves: the entry, what it adds to the counters, and the
payloads in the order they leave. -/
structure Relayed where
  entry : ListenerEntry
  counters : Counters
  sent : List (UdpSession × List UInt8)

def relayOne (datagram : Datagram) (entry : ListenerEntry) : Relayed :=
  match entry.state.target with
  | none => ⟨entry, received [datagram] + lost .rejectedNoHost 1, []⟩
  | some target =>
      let assigned := assign target datagram.peer entry
      { entry := assigned.2
        counters := received [datagram] + assigned.1.counted
        sent := (assigned.1.session.map (fun session => (session, datagram.payload))).toList }

def relay : List Datagram -> ListenerEntry -> Relayed
  | [], entry => ⟨entry, 0, []⟩
  | datagram :: rest, entry =>
      let one := relayOne datagram entry
      let more := relay rest one.entry
      { entry := more.entry
        counters := one.counters + more.counters
        sent := one.sent ++ more.sent }

theorem relay_append (left right : List Datagram) (entry : ListenerEntry) :
    relay (left ++ right) entry =
      { entry := (relay right (relay left entry).entry).entry
        counters := (relay left entry).counters +
          (relay right (relay left entry).entry).counters
        sent := (relay left entry).sent ++ (relay right (relay left entry).entry).sent } := by
  induction left generalizing entry with
  | nil =>
      simp only [List.nil_append, relay, zero_add]
  | cons datagram rest ih =>
      simp only [List.cons_append, relay, ih, List.append_assoc, add_assoc]

/-- Assigns sessions to a whole batch. -/
def assignAll (target : Target) : List SocketAddr -> ListenerEntry ->
    List Assignment × ListenerEntry
  | [], entry => ([], entry)
  | peer :: rest, entry =>
      let assigned := assign target peer entry
      let more := assignAll target rest assigned.2
      (assigned.1 :: more.1, more.2)

def countedAll (assigned : List Assignment) : Counters :=
  (assigned.map Assignment.counted).sum

/-- The payloads of a batch beside the sessions they go through. -/
def sendings (batch : List Datagram) (sessions : List (Option UdpSession)) :
    List (UdpSession × List UInt8) :=
  (batch.zip sessions).filterMap (fun pair =>
    pair.2.map (fun session => (session, pair.1.payload)))

theorem assign_state (target : Target) (addr : SocketAddr) (entry : ListenerEntry) :
    (assign target addr entry).2.state = entry.state ∧
      (assign target addr entry).2.stateGeneration = entry.stateGeneration ∧
      (assign target addr entry).2.generation = entry.generation := by
  unfold assign
  split
  · exact ⟨rfl, rfl, rfl⟩
  · split
    · exact ⟨rfl, rfl, rfl⟩
    · exact ⟨rfl, rfl, rfl⟩

theorem relay_no_target (batch : List Datagram) {entry : ListenerEntry}
    (h : entry.state.target = none) :
    relay batch entry =
      ⟨entry, received batch + lost .rejectedNoHost batch.length, []⟩ := by
  induction batch with
  | nil => rfl
  | cons datagram rest ih =>
      have hone : relayOne datagram entry =
          ⟨entry, received [datagram] + lost .rejectedNoHost 1, []⟩ := by
        rw [relayOne, h]
      rw [relay, hone, ih, received_cons datagram rest, List.length_cons, Nat.add_comm rest.length,
        lost_add, add_add_add_comm]
      rfl

theorem relay_target (batch : List Datagram) {entry : ListenerEntry} {target : Target}
    (h : entry.state.target = some target) :
    relay batch entry =
      { entry := (assignAll target (batch.map Datagram.peer) entry).2
        counters := received batch +
          countedAll (assignAll target (batch.map Datagram.peer) entry).1
        sent := sendings batch
          ((assignAll target (batch.map Datagram.peer) entry).1.map Assignment.session) } := by
  induction batch generalizing entry with
  | nil => rfl
  | cons datagram rest ih =>
      have hone : relayOne datagram entry =
          { entry := (assign target datagram.peer entry).2
            counters := received [datagram] + (assign target datagram.peer entry).1.counted
            sent := ((assign target datagram.peer entry).1.session.map
              (fun session => (session, datagram.payload))).toList } := by
        rw [relayOne, h]
      have hstate : (assign target datagram.peer entry).2.state.target = some target := by
        rw [(assign_state target datagram.peer entry).1, h]
      rw [relay, hone, ih hstate, received_cons datagram rest, add_add_add_comm]
      simp only [List.map_cons, assignAll, countedAll, List.sum_cons, sendings,
        List.zip_cons_cons, List.filterMap_cons]
      cases (assign target datagram.peer entry).1.session <;> rfl

/-!
# Quiet passes
-/

/-- Nobody else acts, and every bind, connect and send succeeds. -/
structure Calm (around : Around) : Prop where
  interference : forall tick, around.interference tick = []
  bindUpstream : forall tick, around.bindUpstream tick = true
  connect : forall tick, around.connect tick = true
  send : forall tick, around.send tick ≠ .failed

/-- Every session is open and of the current generation. -/
structure Steady (entry : ListenerEntry) : Prop where
  generation : entry.generation = entry.stateGeneration
  current : forall addr session, entry.table.lookup addr = some session ->
    session.generation = entry.generation
  unclosed : forall addr session, entry.table.lookup addr = some session ->
    session.id ∉ entry.closed

/-- What a part of a quiet pass does to the entry and the counters. -/
structure Advances (p p' : Pass) (entry : ListenerEntry) (added : Counters) : Prop where
  entry : p'.entry = entry
  counters : p'.counters = p.counters + added
  deliveries : p'.deliveries = p.deliveries

theorem Advances.trans {p p' p'' : Pass} {entry entry' : ListenerEntry}
    {added added' : Counters} (h : Advances p p' entry added)
    (h' : Advances p' p'' entry' added') : Advances p p'' entry' (added + added') where
  entry := h'.entry
  counters := by rw [h'.counters, h.counters, add_assoc]
  deliveries := h'.deliveries.trans h.deliveries

theorem advances_refl (p : Pass) : Advances p p p.entry 0 := ⟨rfl, (add_zero _).symm, rfl⟩

theorem advances_lose (counter : LossCounter) (indexes : List Nat) (p : Pass) :
    Advances p (p.lose counter indexes) p.entry (lost counter indexes.length) :=
  ⟨rfl, count_eq counter indexes.length p.counters, rfl⟩

theorem advances_countReceived (batch : List Datagram) (p : Pass) :
    Advances p (countReceived batch p) p.entry (received batch) := ⟨rfl, rfl, rfl⟩

/-- Nothing but the deliveries changes. -/
structure Undisturbed (p p' : Pass) : Prop where
  entry : p'.entry = p.entry
  counters : p'.counters = p.counters
  losses : p'.losses = p.losses

theorem undisturbed_refl (p : Pass) : Undisturbed p p := ⟨rfl, rfl, rfl⟩

theorem Undisturbed.trans {p p' p'' : Pass} (h : Undisturbed p p')
    (h' : Undisturbed p' p'') : Undisturbed p p'' :=
  ⟨h'.entry.trans h.entry, h'.counters.trans h.counters, h'.losses.trans h.losses⟩

theorem Steady.withSession {entry : ListenerEntry} (h : Steady entry) (addr : SocketAddr)
    (target : Target) : Steady (entry.withSession addr entry.stateGeneration target) where
  generation := h.generation
  current := by
    intro other session hsession
    rw [lookup_withSession] at hsession
    split at hsession
    · cases hsession
      exact h.generation.symm
    · exact h.current other session hsession
  unclosed := by
    intro other session hsession hclosed
    rw [lookup_withSession] at hsession
    rw [mem_closed_withSession] at hclosed
    split at hsession
    · cases hsession
      exact hclosed.2 rfl
    · exact h.unclosed other session hsession hclosed.1

theorem Steady.assign {entry : ListenerEntry} (h : Steady entry) (target : Target)
    (addr : SocketAddr) : Steady (assign target addr entry).2 := by
  unfold Udp.assign
  split
  · exact h
  · split
    · exact h
    · exact h.withSession addr target

theorem Steady.lookup_current {entry : ListenerEntry} (h : Steady entry)
    (addr : SocketAddr) :
    entry.current addr entry.stateGeneration = entry.table.lookup addr := by
  unfold ListenerEntry.current
  cases hlookup : entry.table.lookup addr with
  | none => rfl
  | some session =>
      have hcurrent := (h.current addr session hlookup).trans h.generation
      rw [Option.filter_some, if_pos (decide_eq_true hcurrent)]

theorem assign_keeps (target : Target) (addr other : SocketAddr) {entry : ListenerEntry}
    {session : UdpSession} (h : entry.table.lookup other = some session) :
    (assign target addr entry).2.table.lookup other = some session := by
  unfold assign
  split
  · exact h
  · next hnone =>
    split
    · exact h
    · rw [lookup_withSession]
      split
      · next heq =>
        rw [heq, hnone] at h
        cases h
      · exact h

theorem assign_session {target : Target} {addr : SocketAddr} {entry : ListenerEntry}
    {session : UdpSession} (h : (assign target addr entry).1.session = some session) :
    (assign target addr entry).2.table.lookup addr = some session := by
  unfold assign at h ⊢
  split at h
  · next found hlookup =>
    cases h
    simp only [hlookup]
  · next hnone =>
    split at h
    · cases h
    · next hroom =>
      cases h
      simp only [if_neg hroom]
      rw [lookup_withSession, if_pos rfl]

/-- The sessions found so far are those of the table. -/
def InTable (seen : List (SocketAddr × Option UdpSession)) (entry : ListenerEntry) : Prop :=
  forall peer session, (peer, some session) ∈ seen ->
    entry.table.lookup peer = some session

theorem inTable_nil (entry : ListenerEntry) : InTable [] entry := by
  intro peer session hmem
  cases hmem

theorem InTable.assign {seen : List (SocketAddr × Option UdpSession)}
    {entry : ListenerEntry} (h : InTable seen entry) (target : Target) (addr : SocketAddr) :
    InTable (seen ++ [(addr, (assign target addr entry).1.session)])
      (assign target addr entry).2 := by
  intro peer session hmem
  rw [List.mem_append, List.mem_singleton] at hmem
  rcases hmem with hold | hnew
  · exact assign_keeps target addr peer (h peer session hold)
  · rw [Prod.mk.injEq] at hnew
    rw [hnew.1]
    exact assign_session hnew.2.symm

section Quiet

variable {around : Around} (hcalm : Calm around)

include hcalm

theorem interfere_calm (p : Pass) : p.interfere around = { p with tick := p.tick + 1 } := by
  unfold Pass.interfere
  rw [hcalm.interference]
  rfl

theorem advances_interfere_calm (p : Pass) : Advances p (p.interfere around) p.entry 0 := by
  rw [interfere_calm hcalm]
  exact ⟨rfl, (add_zero _).symm, rfl⟩

theorem createSession_calm (index : Nat) (p : Pass) :
    (createSession around index p).1 = true ∧
      Advances p (createSession around index p).2 p.entry created := by
  rw [createSession, if_pos (hcalm.bindUpstream _), if_pos (hcalm.connect _)]
  refine ⟨rfl, ?_⟩
  have hcounted : Advances (p.interfere around) (p.interfere around).countSession
      (p.interfere around).entry created := ⟨rfl, rfl, rfl⟩
  have htotal := (advances_interfere_calm hcalm p).trans hcounted
  rw [interfere_calm hcalm, zero_add] at htotal
  rw [interfere_calm hcalm]
  exact htotal

theorem sessionFor_calm (target : Target) (index : Nat) (addr : SocketAddr) {p : Pass}
    (h : Steady p.entry) :
    let outcome := sessionFor around target p.entry.stateGeneration index addr p
    outcome.1 = (assign target addr p.entry).1.session ∧
      Advances p outcome.2 (assign target addr p.entry).2
        (assign target addr p.entry).1.counted := by
  have hlooked := advances_interfere_calm hcalm p
  have hcurrent := h.lookup_current addr
  rw [sessionFor, ListenerEntry.lookupSession, hlooked.entry, hcurrent, assign]
  cases hlookup : p.entry.table.lookup addr with
  | some session => exact ⟨rfl, hlooked⟩
  | none =>
      rw [hlookup] at hcurrent
      by_cases hfull : p.entry.table.size >= p.entry.maxSessions
      · simp only [if_pos hfull]
        have hrefused := hlooked.trans (advances_lose .udpDrop [index] _)
        rw [zero_add, hlooked.entry] at hrefused
        exact ⟨rfl, hrefused⟩
      · simp only [if_neg hfull]
        rcases createSession_calm hcalm index (p.interfere around) with ⟨hdone, hcreated⟩
        have hlocked := (hlooked.trans hcreated).trans (advances_interfere_calm hcalm _)
        rw [zero_add, add_zero, hcreated.entry, hlooked.entry] at hlocked
        rw [hlocked.entry, if_pos hdone, ListenerEntry.insertSession, hcurrent,
          if_neg (not_not_intro h.generation), hlookup]
        exact ⟨rfl, rfl, hlocked.counters, hlocked.deliveries⟩

/-- A session that an earlier datagram of the peer has is the one in the table. -/
theorem resolveSession_calm (target : Target) {p : Pass} (h : Steady p.entry)
    {seen : List (SocketAddr × Option UdpSession)}
    (hseen : InTable seen p.entry) (peer : SocketAddr) :
    let outcome := resolveSession around target p.entry.stateGeneration seen peer p
    outcome.1 = (assign target peer p.entry).1.session ∧
      Advances p outcome.2 (assign target peer p.entry).2
        (assign target peer p.entry).1.counted := by
  rw [resolveSession]
  cases hearlier : earlierSession seen peer with
  | none => exact sessionFor_calm hcalm target seen.length peer h
  | some session =>
      have hlookup := hseen peer session (earlierSession_mem hearlier)
      have hknown : assign target peer p.entry = (.known session, p.entry) := by
        rw [assign, hlookup]
      rw [hknown]
      exact ⟨rfl, advances_refl p⟩

theorem resolveAll_calm (target : Target) (generation : UInt64) (peers : List SocketAddr)
    {seen : List (SocketAddr × Option UdpSession)} {p : Pass} (h : Steady p.entry)
    (hgeneration : p.entry.stateGeneration = generation)
    (hseen : InTable seen p.entry) :
    let resolved := resolveAll around target generation peers seen p
    resolved.1.map Prod.snd = seen.map Prod.snd ++
        (assignAll target peers p.entry).1.map Assignment.session ∧
      Advances p resolved.2 (assignAll target peers p.entry).2
        (countedAll (assignAll target peers p.entry).1) ∧
      Steady resolved.2.entry ∧ resolved.2.entry.stateGeneration = generation ∧
      InTable resolved.1 resolved.2.entry := by
  induction peers generalizing seen p with
  | nil =>
      rw [resolveAll]
      refine ⟨?_, advances_refl p, h, hgeneration, hseen⟩
      rw [assignAll, List.map_nil, List.append_nil]
  | cons peer rest ih =>
      rcases resolveSession_calm hcalm target h hseen peer with ⟨hsession, hadvances⟩
      rw [hgeneration] at hsession hadvances
      rw [resolveAll, assignAll]
      have hsteady := h.assign target peer
      have hstate := (assign_state target peer p.entry).2.1
      have htable := hseen.assign target peer
      rw [← hadvances.entry] at hsteady hstate htable
      rw [← hsession] at htable
      have hnext := ih hsteady (hstate.trans hgeneration) htable
      rw [List.map_append, List.append_assoc, hadvances.entry] at hnext
      rcases hnext with ⟨hsessions, hmore, hrest⟩
      refine ⟨?_, hadvances.trans hmore, hrest⟩
      rw [hsessions, hsession]
      rfl

theorem checkAll_calm {generation : UInt64} (rest checked : List (Option UdpSession))
    {p : Pass} (h : forall session, some session ∈ rest ->
      session.generation = generation ∧ session.id ∉ p.entry.closed) :
    (checkAll around generation rest checked p).1 = checked ++ rest ∧
      Advances p (checkAll around generation rest checked p).2 p.entry 0 := by
  induction rest generalizing checked p with
  | nil => exact ⟨(List.append_nil _).symm, advances_refl p⟩
  | cons session rest ih =>
      have hone : (checkSession around generation checked.length session p).1 = session ∧
          Advances p (checkSession around generation checked.length session p).2 p.entry 0 := by
        cases session with
        | none => exact ⟨rfl, advances_refl p⟩
        | some session =>
            rcases h session List.mem_cons_self with ⟨hgeneration, hopen⟩
            have hlooked := advances_interfere_calm hcalm p
            rw [← hlooked.entry] at hopen
            rw [checkSession, if_neg (by simp [hgeneration, hopen])]
            exact ⟨rfl, hlooked⟩
      rcases hone with ⟨hsame, hadvances⟩
      rw [checkAll, hsame]
      have hnext := ih (checked ++ [session])
        (p := (checkSession around generation checked.length session p).2) (by
          intro other hother
          rw [hadvances.entry]
          exact h other (List.mem_cons_of_mem _ hother))
      rw [List.append_assoc, hadvances.entry] at hnext
      refine ⟨hnext.1, ?_⟩
      have htotal := hadvances.trans hnext.2
      rw [add_zero] at htotal
      exact htotal

theorem prepareFor_calm (batch : List Datagram) (target : Target) {p : Pass}
    (h : Steady p.entry) :
    let prepared := prepareFor around batch target p
    let assigned := assignAll target (batch.map Datagram.peer) p.entry
    prepared.1 = assigned.1.map Assignment.session ∧
      Advances p prepared.2 assigned.2 (countedAll assigned.1) ∧ Steady assigned.2 := by
  intro prepared assigned
  rcases resolveAll_calm hcalm target p.entry.stateGeneration (batch.map Datagram.peer) h rfl
    (inTable_nil p.entry) with ⟨hsessions, hresolved, hsteady, hgeneration, htable⟩
  have hloaded := advances_interfere_calm hcalm
    (resolveAll around target p.entry.stateGeneration (batch.map Datagram.peer) [] p).2
  have hcurrent := hsteady.generation.trans hgeneration
  rw [← hloaded.entry] at hcurrent
  have hopen : forall session,
      some session ∈ (resolveAll around target p.entry.stateGeneration
        (batch.map Datagram.peer) [] p).1.map Prod.snd ->
      session.generation = p.entry.stateGeneration ∧
        session.id ∉ ((resolveAll around target p.entry.stateGeneration
          (batch.map Datagram.peer) [] p).2.interfere around).entry.closed := by
    intro session hmem
    rcases List.mem_map.mp hmem with ⟨⟨peer, found⟩, hfound, heq⟩
    cases heq
    have hlookup := htable peer session hfound
    rw [hloaded.entry]
    exact ⟨(hsteady.current peer session hlookup).trans
      (hsteady.generation.trans hgeneration), hsteady.unclosed peer session hlookup⟩
  rcases checkAll_calm hcalm _ [] hopen with ⟨hchecked, hkept⟩
  have hprepared : prepared = checkAll around p.entry.stateGeneration _ [] _ :=
    if_pos hcurrent
  rw [hresolved.entry] at hsteady
  refine ⟨?_, ?_, hsteady⟩
  · rw [hprepared, hchecked, List.nil_append, hsessions]
    rfl
  · have htotal := (hresolved.trans hloaded).trans hkept
    rw [add_zero, add_zero, hloaded.entry, hresolved.entry] at htotal
    rw [hprepared]
    exact htotal

/-!
# Quiet sending
-/

theorem sent_calm (tick : Nat) : exists extra, around.send tick = .sent extra := by
  cases hsend : around.send tick with
  | failed => exact absurd hsend (hcalm.send tick)
  | sent extra => exact ⟨extra, rfl⟩

theorem undisturbed_send_calm (batch : List Datagram) (session : UdpSession)
    (indexes : List Nat) (p : Pass) :
    Undisturbed p (deliver batch session indexes (p.interfere around)) := by
  rw [interfere_calm hcalm]
  exact ⟨rfl, rfl, rfl⟩

theorem sendIndividually_calm (batch : List Datagram) (session : UdpSession) (sent : Nat)
    (indexes : List Nat) (p : Pass) :
    let outcome := sendIndividually around batch session sent indexes p
    outcome.1 = none ∧ Undisturbed p outcome.2 := by
  induction indexes generalizing sent p with
  | nil => exact ⟨rfl, undisturbed_refl p⟩
  | cons index rest ih =>
      rcases sent_calm hcalm p.tick with ⟨extra, hsend⟩
      rw [sendIndividually, hsend]
      rcases ih (sent + 1) (deliver batch session [index] (p.interfere around)) with
        ⟨hnone, hmore⟩
      exact ⟨hnone, (undisturbed_send_calm hcalm batch session [index] p).trans hmore⟩

theorem sendBatch_calm (batch : List Datagram) (session : UdpSession) (sent : Nat)
    (indexes : List Nat) (p : Pass) :
    let outcome := sendBatch around batch session sent indexes p
    outcome.1 = none ∧ Undisturbed p outcome.2 := by
  fun_induction sendBatch around batch session sent indexes p with
  | case1 sent p => exact ⟨rfl, undisturbed_refl p⟩
  | case2 sent p index rest ready hsend => exact absurd hsend (hcalm.send p.tick)
  | case3 sent p index rest ready extra hsend taken ih =>
      exact ⟨ih.1, (undisturbed_send_calm hcalm batch session _ p).trans ih.2⟩

theorem sendGroup_calm (batch : List Datagram) (batchEnabled : Bool)
    (session : UdpSession) (indexes : List Nat) (p : Pass) :
    Undisturbed p (sendGroup around batch batchEnabled session indexes p) := by
  have hsent : (sendIndexes around batch batchEnabled session indexes p).1 = none ∧
      Undisturbed p (sendIndexes around batch batchEnabled session indexes p).2 := by
    unfold sendIndexes
    split
    · exact sendBatch_calm hcalm batch session 0 indexes p
    · exact sendIndividually_calm hcalm batch session 0 indexes p
  rw [sendGroup, hsent.1]
  exact hsent.2

theorem forwardAll_calm (batch : List Datagram) (batchEnabled : Bool)
    (sessions : List (Option UdpSession)) (rest grouped : List Nat) (p : Pass) :
    Undisturbed p (forwardAll around batch batchEnabled sessions rest grouped p) := by
  induction rest generalizing grouped p with
  | nil => exact undisturbed_refl p
  | cons first rest ih =>
      rw [forwardAll]
      cases sessionAt sessions first with
      | none => exact ih grouped p
      | some session =>
          simp only
          split
          · exact ih grouped p
          · exact (sendGroup_calm hcalm batch batchEnabled session _ p).trans (ih _ _)

end Quiet

/-!
# What each client's upstream receives
-/

def Delivery.sending (sending : Delivery) : UdpSession × List UInt8 :=
  (sending.session, sending.payload)

/-- The sessions and payloads of one client, in the order they leave. -/
def sentTo (addr : SocketAddr) (sent : List (UdpSession × List UInt8)) :
    List (UdpSession × List UInt8) :=
  sent.filter (fun sending => sending.1.clientAddr = addr)

/-- The deliveries of a batch in the order of its datagrams. -/
def inOrder (batch : List Datagram) (sessions : List (Option UdpSession)) : List Delivery :=
  (List.range batch.length).filterMap (fun index =>
    (sessionAt sessions index).map (fun session => delivery batch session index))

theorem inOrder_sorted (batch : List Datagram) (sessions : List (Option UdpSession)) :
    (inOrder batch sessions).Pairwise (fun before after => before.index < after.index) := by
  refine List.Pairwise.filterMap _ ?_ List.pairwise_lt_range
  intro index other hlt before hbefore after hafter
  rw [Option.map_eq_some_iff] at hbefore hafter
  rcases hbefore with ⟨session, _, rfl⟩
  rcases hafter with ⟨session', _, rfl⟩
  exact hlt

theorem inOrder_sendings {batch : List Datagram} {sessions : List (Option UdpSession)}
    (h : sessions.length = batch.length) :
    (inOrder batch sessions).map Delivery.sending = sendings batch sessions := by
  unfold inOrder sendings
  rw [List.map_filterMap]
  simp only [Option.map_map]
  induction batch generalizing sessions with
  | nil => rfl
  | cons datagram rest ih =>
      cases sessions with
      | nil => cases h
      | cons session more =>
          have hmore := ih (Nat.succ.inj h)
          rw [List.length_cons, List.range_succ_eq_map, List.filterMap_cons,
            List.filterMap_map, List.zip_cons_cons, List.filterMap_cons, ← hmore]
          cases session <;> rfl

section Order

variable {batch : List Datagram} {sessions : List (Option UdpSession)} {sent : List Delivery}
  (hthrough : forall sending, sending ∈ sent ->
    sending = delivery batch sending.session sending.index ∧
      sessionAt sessions sending.index = some sending.session)

include hthrough

/-- Deliveries through the sessions of the batch are given by their indexes. -/
theorem sent_eq_filterMap :
    sent = (sent.map Delivery.index).filterMap (fun index =>
      (sessionAt sessions index).map (fun session => delivery batch session index)) := by
  rw [List.filterMap_map]
  symm
  refine (List.filterMap_congr ?_).trans List.filterMap_some
  intro sending hsending
  rcases hthrough sending hsending with ⟨hdelivery, hsession⟩
  simp only [Function.comp_apply, hsession, Option.map_some, ← hdelivery]

theorem sent_perm_inOrder (hlength : sessions.length = batch.length)
    (hcovers : (sent.map Delivery.index).Perm (resolvedIndexes sessions)) :
    sent.Perm (inOrder batch sessions) := by
  have hresolved : inOrder batch sessions = (resolvedIndexes sessions).filterMap
      (fun index => (sessionAt sessions index).map
        (fun session => delivery batch session index)) := by
    unfold resolvedIndexes inOrder
    rw [List.filterMap_filter, hlength]
    congr 1
    funext index
    cases sessionAt sessions index <;> rfl
  rw [hresolved, sent_eq_filterMap hthrough]
  exact hcovers.filterMap _

/-- Deliveries that cover the batch and keep each peer's order are, for each client,
the deliveries in order. -/
theorem sentTo_eq (hlength : sessions.length = batch.length)
    (hcovers : (sent.map Delivery.index).Perm (resolvedIndexes sessions))
    (hordered : sent.Pairwise (fun before after =>
      before.session.clientAddr = after.session.clientAddr -> before.index < after.index))
    (addr : SocketAddr) :
    sentTo addr (sent.map Delivery.sending) = sentTo addr (sendings batch sessions) := by
  have hperm := sent_perm_inOrder hthrough hlength hcovers
  have hfiltered : sent.filter (fun sending => sending.session.clientAddr = addr) =
      (inOrder batch sessions).filter (fun sending => sending.session.clientAddr = addr) := by
    refine List.Perm.eq_of_pairwise ?_ ?_ ((inOrder_sorted batch sessions).filter _)
      (hperm.filter _)
    · intro before after _ _ hlt hgt
      exact absurd hgt (Nat.lt_asymm hlt)
    · apply (hordered.filter _).imp_of_mem
      intro before after hbefore hafter hlt
      have haddr := of_decide_eq_true (List.mem_filter.mp hbefore).2
      have haddr' := of_decide_eq_true (List.mem_filter.mp hafter).2
      exact hlt (haddr.trans haddr'.symm)
  rw [← inOrder_sendings hlength]
  unfold sentTo
  rw [List.filter_map, List.filter_map]
  exact congrArg (List.map Delivery.sending) hfiltered

end Order

/-!
# A pass forwards its datagrams one by one
-/

structure Relays (p p' : Pass) (relayed : Relayed) : Prop where
  entry : p'.entry = relayed.entry
  counters : p'.counters = p.counters + relayed.counters
  sent : forall addr, sentTo addr (p'.deliveries.map Delivery.sending) =
    sentTo addr (p.deliveries.map Delivery.sending) ++ sentTo addr relayed.sent
  steady : Steady relayed.entry

section Passes

variable {around : Around} (hcalm : Calm around)

include hcalm

theorem prepareDatagramBatch_calm (batch : List Datagram) {p : Pass} (h : Steady p.entry) :
    let prepared := prepareDatagramBatch around batch (countReceived batch p)
    let relayed := relay batch p.entry
    Advances p prepared.2 relayed.entry relayed.counters ∧ Steady relayed.entry ∧
      sendings batch prepared.1 = relayed.sent := by
  have hread : Advances p ((countReceived batch p).interfere around) p.entry
      (received batch) := by
    have htotal := (advances_countReceived batch p).trans
      (advances_interfere_calm hcalm (countReceived batch p))
    rw [add_zero] at htotal
    exact htotal
  rw [prepareDatagramBatch, hread.entry]
  cases htarget : p.entry.state.target with
  | none =>
      have hlost := hread.trans (advances_lose .rejectedNoHost (List.range batch.length) _)
      rw [hread.entry, List.length_range] at hlost
      rw [relay_no_target batch htarget]
      refine ⟨hlost, h, ?_⟩
      rw [sendings, List.filterMap_eq_nil_iff]
      intro pair hpair
      have hsnd := List.of_mem_zip hpair
      rcases List.mem_map.mp hsnd.2 with ⟨_, _, hnone⟩
      rw [← hnone]
      rfl
  | some target =>
      have hsteady := h
      rw [← hread.entry] at hsteady
      rcases prepareFor_calm hcalm batch target hsteady with
        ⟨hsessions, hprepared, hdone⟩
      rw [hread.entry] at hsessions hprepared hdone
      rw [relay_target batch htarget]
      refine ⟨hread.trans hprepared, hdone, ?_⟩
      show sendings batch (prepareFor around batch target _).1 = _
      rw [hsessions]

theorem receiveBatch_calm (batchEnabled : Bool) (batch : List Datagram) {p : Pass}
    (h : Steady p.entry) :
    Relays p (receiveBatch around batchEnabled batch p) (relay batch p.entry) := by
  rcases prepareDatagramBatch_calm hcalm batch h with ⟨hprepared, hsteady, hsendings⟩
  have hgroupable := (prepareDatagramBatch_spec around batch (countReceived batch p)).groupable
  have hstart := forwarded_start batch
    (prepareDatagramBatch around batch (countReceived batch p)).1
    (prepareDatagramBatch around batch (countReceived batch p)).2
  rcases forwardAll_spec around batch batchEnabled hgroupable batch.length hstart with
    ⟨grouped, lost, sent, hforwarded⟩
  rw [← List.range_eq_range'] at hforwarded
  have hquiet := forwardAll_calm hcalm batch batchEnabled
    (prepareDatagramBatch around batch (countReceived batch p)).1
    (List.range batch.length) [] (prepareDatagramBatch around batch (countReceived batch p)).2
  have hlost : lost = [] := by
    have hlosses := hforwarded.accounts.losses
    rw [hquiet.losses] at hlosses
    exact List.self_eq_append_right.mp hlosses
  refine ⟨hquiet.entry.trans hprepared.entry, hquiet.counters.trans hprepared.counters,
    ?_, hsteady⟩
  intro addr
  have hmember := hforwarded.member
  rw [Nat.zero_add, ← hgroupable.length] at hmember
  have hcovers := hforwarded.handled.trans (grouped_perm hforwarded.nodup hmember)
  rw [hlost, List.nil_append] at hcovers
  have hsent := sentTo_eq hforwarded.through hgroupable.length hcovers hforwarded.ordered addr
  have hdeliveries := hforwarded.accounts.deliveries
  rw [hprepared.deliveries] at hdeliveries
  rw [← hsendings, ← hsent, receiveBatch, hdeliveries, List.map_append, sentTo, sentTo,
    sentTo, List.filter_append]

end Passes

theorem Relays.trans {p p' p'' : Pass} {left right : List Datagram}
    (h : Relays p p' (relay left p.entry)) (h' : Relays p' p'' (relay right p'.entry)) :
    Relays p p'' (relay (left ++ right) p.entry) := by
  rw [h.entry] at h'
  rw [relay_append]
  refine ⟨h'.entry, ?_, ?_, h'.steady⟩
  · rw [h'.counters, h.counters, add_assoc]
  · intro addr
    rw [h'.sent addr, h.sent addr, sentTo, sentTo, sentTo, sentTo, List.filter_append,
      List.append_assoc]

/-!
# The split into batches
-/

def receiveAll (around : Around) (batchEnabled : Bool) (batches : List (List Datagram))
    (p : Pass) : Pass :=
  batches.foldl (fun p batch => receiveBatch around batchEnabled batch p) p

theorem receiveAll_calm {around : Around} (hcalm : Calm around) (batchEnabled : Bool)
    (batches : List (List Datagram)) {p : Pass} (h : Steady p.entry) :
    Relays p (receiveAll around batchEnabled batches p) (relay batches.flatten p.entry) := by
  induction batches generalizing p with
  | nil =>
      refine ⟨rfl, (add_zero _).symm, ?_, h⟩
      intro addr
      exact (List.append_nil _).symm
  | cons batch rest ih =>
      have hbatch := receiveBatch_calm hcalm batchEnabled batch h
      have hsteady := hbatch.steady
      rw [← hbatch.entry] at hsteady
      exact hbatch.trans (ih hsteady)

/-- Batches with batching on and single datagrams with batching off leave the same
table and counters, and send each client's upstream the same payloads. -/
theorem batching_transparent {batched single : Around} (hbatched : Calm batched)
    (hsingle : Calm single) {entry : ListenerEntry} (hsteady : Steady entry)
    (batches : List (List Datagram)) :
    let together := receiveAll batched true batches (Pass.start entry)
    let apart := receiveAll single false (batches.flatten.map (fun datagram => [datagram]))
      (Pass.start entry)
    (forall addr, sentTo addr (together.deliveries.map Delivery.sending) =
        sentTo addr (apart.deliveries.map Delivery.sending)) ∧
      together.entry.table = apart.entry.table ∧ together.counters = apart.counters := by
  intro together apart
  have htogether : Relays (Pass.start entry) together (relay batches.flatten entry) :=
    receiveAll_calm hbatched true batches hsteady
  have hapart : Relays (Pass.start entry) apart (relay batches.flatten entry) := by
    have hrelays := receiveAll_calm hsingle false
      (batches.flatten.map (fun datagram => [datagram])) (p := Pass.start entry) hsteady
    rw [← List.flatMap_def, List.flatMap_singleton'] at hrelays
    exact hrelays
  refine ⟨?_, ?_, ?_⟩
  · intro addr
    rw [htogether.sent addr, hapart.sent addr]
  · rw [htogether.entry, hapart.entry]
  · rw [htogether.counters, hapart.counters]

def allSucceed : Around where
  interference := fun _ => []
  bindUpstream := fun _ => true
  connect := fun _ => true
  send := fun _ => .sent 0

theorem allSucceed_calm : Calm allSucceed :=
  ⟨fun _ => rfl, fun _ => rfl, fun _ => rfl, fun _ h => SendReply.noConfusion h⟩

def clientAt (port : UInt16) : SocketAddr := .v4 ⟨127, 0, 0, 1⟩ port

/-- An entry with a target, one session and room for one more. -/
def oneSession : ListenerEntry :=
  ListenerEntry.withSession
    { state :=
        { effectiveHost := some "10.0.0.1"
          effectiveTargetPort := some 53
          runtimeStatus := .active
          errorKind := none
          lastError := none }
      stateGeneration := 0
      generation := 0
      table := SessionTable.empty
      closed := []
      maxSessions := 2 }
    (clientAt 4000) 0 ⟨"10.0.0.1", 53⟩

theorem oneSession_steady : Steady oneSession := by
  refine Steady.withSession ⟨rfl, ?_, ?_⟩ (clientAt 4000) ⟨"10.0.0.1", 53⟩
  · intro addr session h
    cases h
  · intro addr session h
    cases h

/-- Three clients, of which the table takes two. -/
theorem batching_transparent_when_full :
    let batches : List (List Datagram) :=
      [[⟨clientAt 4001, [1]⟩, ⟨clientAt 4000, [2]⟩, ⟨clientAt 4001, [3]⟩],
        [⟨clientAt 4002, [4]⟩, ⟨clientAt 4000, [5]⟩]]
    let together := receiveAll allSucceed true batches (Pass.start oneSession)
    let apart := receiveAll allSucceed false
      (batches.flatten.map (fun datagram => [datagram])) (Pass.start oneSession)
    (forall addr, sentTo addr (together.deliveries.map Delivery.sending) =
        sentTo addr (apart.deliveries.map Delivery.sending)) ∧
      together.entry.table = apart.entry.table ∧ together.counters = apart.counters :=
  batching_transparent allSucceed_calm allSucceed_calm oneSession_steady _

end Udp
end Runtime
end Relayd
