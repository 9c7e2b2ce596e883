import Relayd.Runtime.UdpPass

/-!
# Conservation of datagrams

Every datagram of a received batch is lost to one counter or sent once, through a
session of its own peer, and the datagrams of one peer leave in the order in
which they came.
-/

namespace Relayd
namespace Runtime
namespace Udp

open Foundation

/-!
# The other tasks
-/

theorem later_act (i : Interference) (entry : ListenerEntry) : Later entry (i.act entry) := by
  cases i with
  | publish allocation => exact Later.of_table rfl
  | drain =>
      refine ⟨Nat.le_refl _, ?_⟩
      intro addr session hsession
      cases hsession
  | removeSession session => exact later_removeSession entry session
  | close session => exact Later.of_table rfl

theorem later_acts (acts : List Interference) (entry : ListenerEntry) :
    Later entry (acts.foldl (fun entry i => i.act entry) entry) := by
  induction acts generalizing entry with
  | nil => exact later_refl entry
  | cons i rest ih => exact (later_act i entry).trans (ih (i.act entry))

theorem later_interfere (around : Around) (p : Pass) :
    Later p.entry (p.interfere around).entry :=
  later_acts (around.interference p.tick) p.entry

/-!
# Resolving one session
-/

/-- What `session_for` hands out was in the table while it ran, or the datagram is
lost. -/
structure SessionFor (p p' : Pass) (index : Nat) (addr : SocketAddr)
    (session : Option UdpSession) : Prop where
  later : Later p.entry p'.entry
  accounts : Accounts p p' (if session.isNone then [index] else []) []
  looked : forall found, session = some found ->
    exists entry, Later p.entry entry ∧ Later entry p'.entry ∧
      entry.table.lookup addr = some found

section Resolving

variable (around : Around)

theorem createSession_spec (index : Nat) (p : Pass) :
    Later p.entry (createSession around index p).2.entry ∧
      Accounts p (createSession around index p).2
        (if (createSession around index p).1 then [] else [index]) [] := by
  have hinterfere := accounts_interfere around p
  by_cases hbind : around.bindUpstream p.tick
  · by_cases hconnect : around.connect (p.interfere around).tick
    · rw [createSession, if_pos hbind, if_pos hconnect]
      exact ⟨later_interfere around p, hinterfere.trans (accounts_countSession _)⟩
    · rw [createSession, if_pos hbind, if_neg hconnect]
      refine ⟨later_interfere around p, ?_⟩
      exact hinterfere.trans ((accounts_countSendError _).trans (accounts_lose _ _ _))
  · rw [createSession, if_neg hbind]
    exact ⟨later_refl _, (accounts_countSendError _).trans (accounts_lose _ _ _)⟩

theorem accounts_replaceSession (replaced : Option UdpSession) (p : Pass) :
    Accounts p (replaceSession replaced p) [] [] := by
  cases replaced with
  | none => exact accounts_refl p
  | some session => exact (accounts_close _ _).trans (accounts_countReplyDrop _)

theorem replaceSession_table (replaced : Option UdpSession) (p : Pass) :
    (replaceSession replaced p).entry.table = p.entry.table := by
  cases replaced <;> rfl

theorem sessionFor_spec (target : Target) (generation : UInt64) (index : Nat)
    (addr : SocketAddr) (p : Pass) :
    SessionFor p (sessionFor around target generation index addr p).2 index addr
      (sessionFor around target generation index addr p).1 := by
  have hlooked := later_interfere around p
  have hledger := accounts_interfere around p
  unfold sessionFor
  cases hlookup : (p.interfere around).entry.lookupSession addr generation with
  | found session =>
      simp only [hlookup]
      refine ⟨hlooked, hledger, ?_⟩
      intro found hfound
      cases hfound
      have hcurrent := current_eq_some (lookupSession_eq_found hlookup)
      exact ⟨_, hlooked, later_refl _, hcurrent.1⟩
  | full =>
      simp only [hlookup]
      exact ⟨hlooked, hledger.trans (accounts_lose _ _ _), by intro found h; cases h⟩
  | vacant =>
      simp only [hlookup]
      rcases createSession_spec around index (p.interfere around) with ⟨hcreated, hcost⟩
      cases hdone : (createSession around index (p.interfere around)).1 with
      | false =>
          rw [hdone] at hcost
          simp only [Bool.false_eq_true, if_false]
          exact ⟨hlooked.trans hcreated, hledger.trans hcost, by intro found h; cases h⟩
      | true =>
          rw [hdone] at hcost
          simp only [if_true]
          let locked := (createSession around index (p.interfere around)).2.interfere around
          have hlocked : Later p.entry locked.entry :=
            (hlooked.trans hcreated).trans (later_interfere around _)
          have hspent : Accounts p locked [] [] :=
            (hledger.trans hcost).trans (accounts_interfere around _)
          rcases insertSession_cases locked.entry addr generation target with
            ⟨session, hcurrent, hinsert⟩ | ⟨_, _, hinsert⟩ | ⟨_, _, hinsert⟩
          · simp only [locked] at hinsert
            simp only [hinsert]
            refine ⟨hlocked, hspent, ?_⟩
            intro found hfound
            cases hfound
            exact ⟨_, hlocked, later_refl _, (current_eq_some hcurrent).1⟩
          · simp only [locked] at hinsert
            simp only [hinsert]
            exact ⟨hlocked, hspent.trans (accounts_lose _ _ _), by intro found h; cases h⟩
          · have hinserted := later_insertSession locked.entry addr generation target
            rw [hinsert] at hinserted
            simp only [locked] at hinsert
            simp only [hinsert]
            have hreplaced : Later p.entry _ := hlocked.trans hinserted
            refine ⟨hreplaced.trans (Later.of_table (replaceSession_table _ _)), ?_, ?_⟩
            · exact (hspent.trans (accounts_entry _ _)).trans (accounts_replaceSession _ _)
            · intro found hfound
              cases hfound
              refine ⟨_, hreplaced, Later.of_table (replaceSession_table _ _), ?_⟩
              rw [lookup_withSession, if_pos rfl]

end Resolving

/-!
# Resolving the batch
-/

def unresolvedIndexes (sessions : List (Option UdpSession)) : List Nat :=
  (List.range sessions.length).filter (fun index => (sessionAt sessions index).isNone)

theorem sessionAt_append_left {sessions : List (Option UdpSession)} {index : Nat}
    (h : index < sessions.length) (more : List (Option UdpSession)) :
    sessionAt (sessions ++ more) index = sessionAt sessions index := by
  unfold sessionAt
  rw [List.getElem?_append_left h]

theorem sessionAt_append_length (sessions : List (Option UdpSession))
    (session : Option UdpSession) :
    sessionAt (sessions ++ [session]) sessions.length = session := by
  unfold sessionAt
  rw [List.getElem?_concat_length]
  rfl

theorem sessionAt_eq_some_lt {sessions : List (Option UdpSession)} {index : Nat}
    {session : UdpSession} (h : sessionAt sessions index = some session) :
    index < sessions.length := by
  unfold sessionAt at h
  rw [Option.join_eq_some_iff] at h
  exact (List.getElem?_eq_some_iff.mp h).1

theorem unresolvedIndexes_concat (sessions : List (Option UdpSession))
    (session : Option UdpSession) :
    unresolvedIndexes (sessions ++ [session]) =
      unresolvedIndexes sessions ++ if session.isNone then [sessions.length] else [] := by
  unfold unresolvedIndexes
  rw [List.length_append, List.length_singleton, List.range_succ, List.filter_append]
  congr 1
  · apply List.filter_congr
    intro index hindex
    rw [sessionAt_append_left (List.mem_range.mp hindex)]
  · rw [List.filter_singleton, sessionAt_append_length]
    cases session <;> rfl

/-- Of two sessions of one batch, the one of the later datagram is the same or a
newer one. -/
def InOrder (session session' : UdpSession) : Prop :=
  (session.id = session'.id -> session = session') ∧
    (session.clientAddr = session'.clientAddr -> session.id <= session'.id)

structure Resolved (seen : List (SocketAddr × Option UdpSession)) (entry : ListenerEntry) :
    Prop where
  owned : forall resolved, resolved ∈ seen -> forall session,
    resolved.2 = some session -> session.clientAddr = resolved.1
  known : forall resolved, resolved ∈ seen -> forall session,
    resolved.2 = some session -> Known entry session
  identified : forall resolved, resolved ∈ seen -> forall other, other ∈ seen ->
    forall session session', resolved.2 = some session -> other.2 = some session' ->
    session.id = session'.id -> session = session'
  ordered : seen.Pairwise (fun before after => forall session session',
    before.2 = some session -> after.2 = some session' ->
    session.clientAddr = session'.clientAddr -> session.id <= session'.id)
  shared : forall peer session, earlierSession seen peer = some session ->
    forall resolved, resolved ∈ seen -> resolved.1 = peer -> resolved.2 = some session

theorem resolved_nil (entry : ListenerEntry) : Resolved [] entry where
  owned := by
    intro resolved h
    cases h
  known := by
    intro resolved h
    cases h
  identified := by
    intro resolved h
    cases h
  ordered := List.Pairwise.nil
  shared := by
    intro peer session _ resolved h
    cases h

theorem earlierSession_mem {seen : List (SocketAddr × Option UdpSession)}
    {peer : SocketAddr} {session : UdpSession}
    (h : earlierSession seen peer = some session) : (peer, some session) ∈ seen := by
  unfold earlierSession at h
  rw [Option.bind_eq_some_iff] at h
  rcases h with ⟨⟨addr, found⟩, hfind, hsession⟩
  have haddr := List.find?_some hfind
  cases of_decide_eq_true haddr
  cases hsession
  exact List.mem_of_find?_eq_some hfind

theorem shared_concat {seen : List (SocketAddr × Option UdpSession)}
    {entry : ListenerEntry} (h : Resolved seen entry) (peer : SocketAddr)
    (session : Option UdpSession)
    (hearlier : forall found, earlierSession seen peer = some found ->
      session = some found) (other : SocketAddr) (found : UdpSession)
    (hfound : earlierSession (seen ++ [(peer, session)]) other = some found) :
    forall resolved, resolved ∈ seen ++ [(peer, session)] -> resolved.1 = other ->
      resolved.2 = some found := by
  intro resolved hresolved hpeer
  have hold := h.shared other found
  unfold earlierSession at hfound hold
  rw [List.find?_append] at hfound
  rw [List.mem_append, List.mem_singleton] at hresolved
  cases hfind : seen.find? (fun earlier => earlier.1 = other) with
  | some first =>
      rw [hfind] at hfound hold
      rcases hresolved with hmem | hnew
      · exact hold hfound resolved hmem hpeer
      · cases hnew
        apply hearlier found
        unfold earlierSession
        rw [show peer = other from hpeer, hfind]
        exact hfound
  | none =>
      -- No earlier datagram of this peer: the new one is the first.
      rw [hfind, Option.none_or] at hfound
      rcases hresolved with hmem | hnew
      · have hnone := List.find?_eq_none.mp hfind resolved hmem
        exact absurd (decide_eq_true hpeer) hnone
      · cases hnew
        rw [List.find?_singleton, if_pos (decide_eq_true hpeer)] at hfound
        exact hfound

theorem Resolved.concat {seen : List (SocketAddr × Option UdpSession)}
    {entry entry' : ListenerEntry} {peer : SocketAddr} {session : Option UdpSession}
    (h : Resolved seen entry) (hlater : Later entry entry')
    (howned : forall found, session = some found -> found.clientAddr = peer)
    (hknown : forall found, session = some found -> Known entry' found)
    (hordered : forall before, before ∈ seen -> forall older found,
      before.2 = some older -> session = some found -> InOrder older found)
    (hearlier : forall found, earlierSession seen peer = some found ->
      session = some found) :
    Resolved (seen ++ [(peer, session)]) entry' where
  owned := by
    intro resolved hresolved found hfound
    rw [List.mem_append, List.mem_singleton] at hresolved
    rcases hresolved with hmem | hnew
    · exact h.owned resolved hmem found hfound
    · cases hnew
      exact howned found hfound
  known := by
    intro resolved hresolved found hfound
    rw [List.mem_append, List.mem_singleton] at hresolved
    rcases hresolved with hmem | hnew
    · exact (h.known resolved hmem found hfound).later hlater
    · cases hnew
      exact hknown found hfound
  identified := by
    intro resolved hresolved other hother found found' hfound hfound' hid
    rw [List.mem_append, List.mem_singleton] at hresolved hother
    rcases hresolved with hmem | hnew
    · rcases hother with hmem' | hnew'
      · exact h.identified resolved hmem other hmem' found found' hfound hfound' hid
      · cases hnew'
        exact (hordered resolved hmem found found' hfound hfound').1 hid
    · cases hnew
      rcases hother with hmem' | hnew'
      · exact ((hordered other hmem' found' found hfound' hfound).1 hid.symm).symm
      · cases hnew'
        exact Option.some.inj (hfound.symm.trans hfound')
  ordered := by
    rw [List.pairwise_append]
    refine ⟨h.ordered, List.pairwise_singleton _ _, ?_⟩
    intro before hbefore after hafter older found holder hfound
    rw [List.mem_singleton] at hafter
    cases hafter
    exact (hordered before hbefore older found holder hfound).2
  shared := shared_concat h peer session hearlier

/-- When an earlier datagram of a peer has a session, that peer has no other one in
the batch yet. -/
theorem Resolved.inOrder_earlier {seen : List (SocketAddr × Option UdpSession)}
    {entry : ListenerEntry} (h : Resolved seen entry) {peer : SocketAddr}
    {session older : UdpSession} (hsession : earlierSession seen peer = some session)
    {before : SocketAddr × Option UdpSession} (hbefore : before ∈ seen)
    (holder : before.2 = some older) : InOrder older session := by
  have hmem := earlierSession_mem hsession
  have hpeer := h.owned _ hmem session rfl
  constructor
  · exact h.identified before hbefore _ hmem older session holder rfl
  · intro haddr
    have howned := h.owned before hbefore older holder
    have hsame := h.shared peer session hsession before hbefore
      (howned.symm.trans (haddr.trans hpeer))
    rw [holder] at hsame
    cases hsame
    exact Nat.le_refl _

section Batch

variable (around : Around) (target : Target) (generation : UInt64)

theorem resolveSession_spec {seen : List (SocketAddr × Option UdpSession)} {p : Pass}
    (h : Resolved seen p.entry) (peer : SocketAddr) :
    let resolved := resolveSession around target generation seen peer p
    Resolved (seen ++ [(peer, resolved.1)]) resolved.2.entry ∧
      Accounts p resolved.2 (if resolved.1.isNone then [seen.length] else []) [] := by
  unfold resolveSession
  cases hearlier : earlierSession seen peer with
  | some session =>
      refine ⟨?_, accounts_refl p⟩
      have hmem := earlierSession_mem hearlier
      apply h.concat (later_refl _)
      · intro found hfound
        cases hfound
        exact h.owned _ hmem session rfl
      · intro found hfound
        cases hfound
        exact h.known _ hmem session rfl
      · intro before hbefore older found holder hfound
        cases hfound
        exact h.inOrder_earlier hearlier hbefore holder
      · intro found hfound
        rw [hearlier] at hfound
        exact hfound
  | none =>
      have hspec := sessionFor_spec around target generation seen.length peer p
      refine ⟨?_, hspec.accounts⟩
      apply h.concat hspec.later
      · intro found hfound
        rcases hspec.looked found hfound with ⟨entry, _, _, hlookup⟩
        exact SessionTable.lookup_clientAddr hlookup
      · intro found hfound
        rcases hspec.looked found hfound with ⟨entry, _, hafter, hlookup⟩
        exact (Known.of_lookup hlookup).later hafter
      · intro before hbefore older found holder hfound
        rcases hspec.looked found hfound with ⟨entry, hbetween, _, hlookup⟩
        have hknown := (h.known before hbefore older holder).later hbetween
        have hpeer := SessionTable.lookup_clientAddr hlookup
        rw [← hpeer] at hlookup
        exact hknown.same_or_older hlookup
      · intro found hfound
        rw [hearlier] at hfound
        cases hfound

theorem resolveAll_spec (peers : List SocketAddr)
    (seen : List (SocketAddr × Option UdpSession)) (p start : Pass)
    (h : Resolved seen p.entry)
    (haccounts : Accounts start p (unresolvedIndexes (seen.map Prod.snd)) []) :
    let resolved := resolveAll around target generation peers seen p
    resolved.1.map Prod.fst = seen.map Prod.fst ++ peers ∧
      Resolved resolved.1 resolved.2.entry ∧
      Accounts start resolved.2 (unresolvedIndexes (resolved.1.map Prod.snd)) [] := by
  induction peers generalizing seen p with
  | nil => exact ⟨(List.append_nil _).symm, h, haccounts⟩
  | cons peer rest ih =>
      rcases resolveSession_spec around target generation h peer with ⟨hresolved, hcost⟩
      have hnext := ih _ _ hresolved (by
        rw [List.map_append, List.map_singleton, unresolvedIndexes_concat, List.length_map]
        exact haccounts.trans hcost)
      rw [List.map_append, List.append_assoc] at hnext
      exact hnext

end Batch

/-!
# The sessions a batch is sent through
-/

/-- What grouping and sending rely on. -/
structure Groupable (batch : List Datagram) (sessions : List (Option UdpSession)) : Prop where
  length : sessions.length = batch.length
  owned : forall index session, sessionAt sessions index = some session ->
    (batch[index]?).map Datagram.peer = some session.clientAddr
  identified : forall index other session session',
    sessionAt sessions index = some session -> sessionAt sessions other = some session' ->
    session.id = session'.id -> session = session'
  ordered : forall index other session session', index < other ->
    sessionAt sessions index = some session -> sessionAt sessions other = some session' ->
    session.clientAddr = session'.clientAddr -> session.id <= session'.id

/-- Some of the sessions are given up, the others stay. -/
structure Kept (before after : List (Option UdpSession)) : Prop where
  length : after.length = before.length
  sessions : forall index session, sessionAt after index = some session ->
    sessionAt before index = some session

theorem Groupable.kept {batch : List Datagram} {before after : List (Option UdpSession)}
    (h : Groupable batch before) (hkept : Kept before after) : Groupable batch after where
  length := hkept.length.trans h.length
  owned := by
    intro index session hsession
    exact h.owned index session (hkept.sessions index session hsession)
  identified := by
    intro index other session session' hsession hsession'
    exact h.identified index other session session' (hkept.sessions _ _ hsession)
      (hkept.sessions _ _ hsession')
  ordered := by
    intro index other session session' hlt hsession hsession'
    exact h.ordered index other session session' hlt (hkept.sessions _ _ hsession)
      (hkept.sessions _ _ hsession')

theorem sessionAt_map_snd {seen : List (SocketAddr × Option UdpSession)} {index : Nat}
    {session : UdpSession} (h : sessionAt (seen.map Prod.snd) index = some session) :
    exists peer, seen[index]? = some (peer, some session) := by
  unfold sessionAt at h
  rw [Option.join_eq_some_iff, List.getElem?_map, Option.map_eq_some_iff] at h
  rcases h with ⟨⟨peer, found⟩, hget, hfound⟩
  cases hfound
  exact ⟨peer, hget⟩

theorem Resolved.groupable {batch : List Datagram}
    {seen : List (SocketAddr × Option UdpSession)} {entry : ListenerEntry}
    (h : Resolved seen entry) (hpeers : seen.map Prod.fst = batch.map Datagram.peer) :
    Groupable batch (seen.map Prod.snd) where
  length := by
    have hlength := congrArg List.length hpeers
    rw [List.length_map, List.length_map] at hlength
    rw [List.length_map, hlength]
  owned := by
    intro index session hsession
    rcases sessionAt_map_snd hsession with ⟨peer, hget⟩
    rw [← List.getElem?_map, ← hpeers, List.getElem?_map, hget,
      h.owned _ (List.mem_of_getElem? hget) session rfl]
    rfl
  identified := by
    intro index other session session' hsession hsession'
    rcases sessionAt_map_snd hsession with ⟨peer, hget⟩
    rcases sessionAt_map_snd hsession' with ⟨peer', hget'⟩
    exact h.identified _ (List.mem_of_getElem? hget) _ (List.mem_of_getElem? hget')
      session session' rfl rfl
  ordered := by
    intro index other session session' hlt hsession hsession'
    rcases sessionAt_map_snd hsession with ⟨peer, hget⟩
    rcases sessionAt_map_snd hsession' with ⟨peer', hget'⟩
    rcases List.getElem?_eq_some_iff.mp hget with ⟨hindex, heq⟩
    rcases List.getElem?_eq_some_iff.mp hget' with ⟨hother, heq'⟩
    have hpair := List.pairwise_iff_getElem.mp h.ordered index other hindex hother hlt
    exact hpair session session' (by rw [heq]) (by rw [heq'])

theorem sessionAt_none (batch : List Datagram) (index : Nat) :
    sessionAt (batch.map (fun _ => none)) index = none := by
  unfold sessionAt
  rw [List.getElem?_map]
  cases batch[index]? <;> rfl

theorem groupable_none (batch : List Datagram) :
    Groupable batch (batch.map (fun _ => none)) := by
  refine ⟨List.length_map _, ?_, ?_, ?_⟩
  · intro index session hsession
    rw [sessionAt_none] at hsession
    cases hsession
  · intro index other session session' hsession
    rw [sessionAt_none] at hsession
    cases hsession
  · intro index other session session' _ hsession
    rw [sessionAt_none] at hsession
    cases hsession

theorem unresolvedIndexes_none (batch : List Datagram) :
    unresolvedIndexes (batch.map (fun _ => none)) = List.range batch.length := by
  unfold unresolvedIndexes
  rw [List.length_map, List.filter_eq_self]
  intro index _
  rw [sessionAt_none]
  rfl

theorem unresolved_resolved_perm (sessions : List (Option UdpSession)) :
    (unresolvedIndexes sessions ++ resolvedIndexes sessions).Perm
      (List.range sessions.length) := by
  have hperm := List.filter_append_perm
    (fun index => (sessionAt sessions index).isNone) (List.range sessions.length)
  simp only [Option.not_isNone] at hperm
  exact hperm

/-!
# The last check
-/

section Checking

variable (around : Around)

theorem checkSession_spec (generation : UInt64) (index : Nat)
    (session : Option UdpSession) (p : Pass) :
    let checked := checkSession around generation index session p
    (checked.1 = session ∧ Accounts p checked.2 [] []) ∨
      (session.isSome ∧ checked.1 = none ∧ Accounts p checked.2 [index] []) := by
  cases session with
  | none => exact Or.inl ⟨rfl, accounts_refl p⟩
  | some session =>
      have hledger := accounts_interfere around p
      simp only [checkSession]
      split
      · refine Or.inr ⟨rfl, rfl, ?_⟩
        exact hledger.trans ((accounts_close _ _).trans (accounts_lose _ _ _))
      · exact Or.inl ⟨rfl, hledger⟩

theorem Kept.concat {before after : List (Option UdpSession)} (h : Kept before after)
    {session session' : Option UdpSession}
    (hsession : session' = session ∨ session' = none) :
    Kept (before ++ [session]) (after ++ [session']) where
  length := by
    rw [List.length_append, List.length_append, h.length]
    rfl
  sessions := by
    intro index found hfound
    have hlt := sessionAt_eq_some_lt hfound
    rw [List.length_append, List.length_singleton] at hlt
    rcases Nat.lt_succ_iff_lt_or_eq.mp hlt with hold | hnew
    · rw [sessionAt_append_left hold] at hfound
      rw [sessionAt_append_left (h.length ▸ hold)]
      exact h.sessions index found hfound
    · rw [hnew, sessionAt_append_length] at hfound
      rw [hnew, h.length, sessionAt_append_length]
      rcases hsession with hsame | hnone
      · rw [← hsame, hfound]
      · rw [hnone] at hfound
        cases hfound

/-- What has been checked so far: the sessions given up are the datagrams lost. -/
structure Checked (start p : Pass) (before checked : List (Option UdpSession)) : Prop where
  kept : Kept before checked
  ledger : exists lost, Accounts start p lost [] ∧
    (unresolvedIndexes before ++ lost).Perm (unresolvedIndexes checked)

theorem checked_nil (p : Pass) : Checked p p [] [] :=
  ⟨⟨rfl, fun _ _ h => h⟩, [], accounts_refl p, List.Perm.refl _⟩

theorem Checked.step {start p : Pass} {before checked : List (Option UdpSession)}
    (h : Checked start p before checked) (generation : UInt64)
    (session : Option UdpSession) :
    let outcome := checkSession around generation checked.length session p
    Checked start outcome.2 (before ++ [session]) (checked ++ [outcome.1]) := by
  intro outcome
  rcases h with ⟨hkept, lost, haccounts, hperm⟩
  have hlength := hkept.length
  rcases checkSession_spec around generation checked.length session p with
    ⟨hsame, hcost⟩ | ⟨hsome, hnone, hcost⟩
  · refine ⟨hkept.concat (Or.inl hsame), lost, ?_, ?_⟩
    · exact haccounts.quiet hcost
    · rw [show outcome.1 = session from hsame, unresolvedIndexes_concat,
        unresolvedIndexes_concat, hlength, List.append_assoc]
      apply (List.perm_append_comm.append_left _).trans
      rw [← List.append_assoc]
      exact hperm.append_right _
  · refine ⟨hkept.concat (Or.inr hnone), lost ++ [checked.length],
      haccounts.trans hcost, ?_⟩
    rw [show outcome.1 = none from hnone, unresolvedIndexes_concat,
      unresolvedIndexes_concat, Option.isNone_eq_false_iff.mpr hsome]
    simp only [Bool.false_eq_true, if_false, List.append_nil, Option.isNone_none, if_true]
    rw [← List.append_assoc]
    exact hperm.append_right _

theorem checkAll_spec (generation : UInt64) (rest before checked : List (Option UdpSession))
    (start p : Pass) (h : Checked start p before checked) :
    let outcome := checkAll around generation rest checked p
    Checked start outcome.2 (before ++ rest) outcome.1 := by
  induction rest generalizing before checked p with
  | nil =>
      rw [List.append_nil]
      exact h
  | cons session rest ih =>
      have hnext := ih _ _ _ (h.step around generation session)
      rw [List.append_assoc] at hnext
      exact hnext

theorem accounts_closeAll (sessions : List (Option UdpSession)) (p : Pass) :
    Accounts p (closeAll sessions p) [] [] := by
  induction sessions generalizing p with
  | nil => exact accounts_refl p
  | cons session rest ih =>
      cases session with
      | none => exact ih p
      | some session => exact (accounts_close session.id p).trans (ih _)

/-- After the preparation every datagram without a session is a counted loss. -/
structure Prepared (batch : List Datagram) (p p' : Pass)
    (sessions : List (Option UdpSession)) : Prop where
  groupable : Groupable batch sessions
  ledger : exists lost, Accounts p p' lost [] ∧ lost.Perm (unresolvedIndexes sessions)

theorem prepareFor_spec (batch : List Datagram) (target : Target) (p : Pass) :
    Prepared batch p (prepareFor around batch target p).2
      (prepareFor around batch target p).1 := by
  let generation := p.entry.stateGeneration
  let resolved := resolveAll around target generation (batch.map Datagram.peer) [] p
  let sessions := resolved.1.map Prod.snd
  let loaded := resolved.2.interfere around
  rcases resolveAll_spec around target generation (batch.map Datagram.peer) [] p p
    (resolved_nil _) (accounts_refl p) with ⟨hpeers, hresolved, hledger⟩
  have hgroupable : Groupable batch sessions := hresolved.groupable hpeers
  have hloaded : Accounts p loaded (unresolvedIndexes sessions) [] :=
    hledger.quiet (accounts_interfere around resolved.2)
  by_cases hgeneration : loaded.entry.generation = generation
  · rw [prepareFor, if_pos hgeneration]
    rcases checkAll_spec around generation sessions [] [] loaded loaded
      (checked_nil loaded) with ⟨hkept, lost, hcost, hperm⟩
    exact ⟨hgroupable.kept hkept, _, hloaded.trans hcost, hperm⟩
  · rw [prepareFor, if_neg hgeneration]
    refine ⟨groupable_none batch, _,
      hloaded.trans ((accounts_closeAll _ _).trans (accounts_lose _ _ _)), ?_⟩
    rw [unresolvedIndexes_none, ← hgroupable.length]
    exact unresolved_resolved_perm sessions

theorem prepareDatagramBatch_spec (batch : List Datagram) (p : Pass) :
    Prepared batch p (prepareDatagramBatch around batch p).2
      (prepareDatagramBatch around batch p).1 := by
  have hread := accounts_interfere around p
  rw [prepareDatagramBatch]
  cases htarget : (p.interfere around).entry.state.target with
  | none =>
      simp only
      refine ⟨groupable_none batch, _, hread.trans (accounts_lose _ _ _), ?_⟩
      rw [unresolvedIndexes_none]
      exact List.Perm.refl _
  | some target =>
      simp only
      rcases prepareFor_spec around batch target (p.interfere around) with
        ⟨hgroupable, lost, hcost, hperm⟩
      exact ⟨hgroupable, lost, hread.trans hcost, hperm⟩

end Checking

/-!
# Sending one group

A send delivers a first part of its datagrams, and the error tells how many.
-/

section Sending

variable (around : Around) (batch : List Datagram)

structure Sends (session : UdpSession) (indexes : List Nat) (p p' : Pass) (count : Nat) :
    Prop where
  bounded : count <= indexes.length
  accounts : Accounts p p' [] ((indexes.take count).map (delivery batch session))

/-- How the count of a send shows in its result. -/
def Reports (error : Option Nat) (sent count : Nat) (indexes : List Nat) : Prop :=
  (error = none ∧ count = indexes.length) ∨
    (error = some (sent + count) ∧ count < indexes.length)

theorem sends_nothing (session : UdpSession) (indexes : List Nat) {p p' : Pass}
    (h : Accounts p p' [] []) : Sends batch session indexes p p' 0 :=
  ⟨Nat.zero_le _, h⟩

/-- A send goes on with what an earlier part left. -/
theorem sends_more {session : UdpSession} {indexes : List Nat} {p p' p'' : Pass}
    {first count : Nat} (hfirst : first <= indexes.length)
    (h : Accounts p p' [] ((indexes.take first).map (delivery batch session)))
    (hrest : Sends batch session (indexes.drop first) p' p'' count) :
    Sends batch session indexes p p'' (first + count) where
  bounded := by
    have hbound := hrest.bounded
    rw [List.length_drop] at hbound
    lia
  accounts := by
    rw [List.take_add, List.map_append]
    exact h.trans hrest.accounts

theorem Reports.more {error : Option Nat} {sent first count : Nat} {indexes : List Nat}
    (hfirst : first <= indexes.length)
    (h : Reports error (sent + first) count (indexes.drop first)) :
    Reports error sent (first + count) indexes := by
  unfold Reports at h ⊢
  rw [List.length_drop] at h
  rcases h with ⟨hnone, hall⟩ | ⟨hsome, hpart⟩
  · exact Or.inl ⟨hnone, by lia⟩
  · exact Or.inr ⟨by rw [hsome, Nat.add_assoc], by lia⟩

theorem accounts_send {session : UdpSession} (indexes : List Nat) (p : Pass) :
    Accounts p (deliver batch session indexes (p.interfere around)) []
      (indexes.map (delivery batch session)) :=
  (accounts_interfere around p).trans (accounts_deliver batch session indexes _)

theorem sendIndividually_spec (session : UdpSession) (sent : Nat) (indexes : List Nat)
    (p : Pass) :
    let outcome := sendIndividually around batch session sent indexes p
    exists count, Sends batch session indexes p outcome.2 count ∧
      Reports outcome.1 sent count indexes := by
  induction indexes generalizing sent p with
  | nil => exact ⟨0, sends_nothing batch session [] (accounts_refl p), Or.inl ⟨rfl, rfl⟩⟩
  | cons index rest ih =>
      rw [sendIndividually]
      cases hsend : around.send p.tick with
      | failed =>
          simp only
          exact ⟨0, sends_nothing batch session _ (accounts_interfere around p),
            Or.inr ⟨rfl, Nat.zero_lt_succ _⟩⟩
      | sent extra =>
          simp only
          have hfirst : 1 <= (index :: rest).length := Nat.succ_le_succ (Nat.zero_le _)
          rcases ih (sent + 1) (deliver batch session [index] (p.interfere around)) with
            ⟨count, hrest, hreports⟩
          exact ⟨1 + count, sends_more batch hfirst (accounts_send around batch [index] p) hrest,
            Reports.more hfirst hreports⟩

theorem sendBatch_spec (session : UdpSession) (sent : Nat) (indexes : List Nat) (p : Pass) :
    let outcome := sendBatch around batch session sent indexes p
    exists count, Sends batch session indexes p outcome.2 count ∧
      Reports outcome.1 sent count indexes := by
  fun_induction sendBatch around batch session sent indexes p with
  | case1 sent p =>
      exact ⟨0, sends_nothing batch session [] (accounts_refl p), Or.inl ⟨rfl, rfl⟩⟩
  | case2 sent p index rest ready hsend =>
      exact ⟨0, sends_nothing batch session _ (accounts_interfere around p),
        Or.inr ⟨rfl, Nat.zero_lt_succ _⟩⟩
  | case3 sent p index rest ready extra hsend taken ih =>
      have hfirst : taken <= (index :: rest).length := Nat.min_le_right _ _
      have hdrop : (index :: rest).drop (extra + 1) = (index :: rest).drop taken :=
        List.drop_eq_drop_min
      rw [List.drop_succ_cons] at hdrop
      rw [hdrop] at ih ⊢
      rcases ih with ⟨count, hrest, hreports⟩
      exact ⟨taken + count, sends_more batch hfirst (accounts_send around batch _ p) hrest,
        Reports.more hfirst hreports⟩

theorem sendIndexes_spec (batchEnabled : Bool) (session : UdpSession)
    (indexes : List Nat) (p : Pass) :
    let outcome := sendIndexes around batch batchEnabled session indexes p
    exists count, Sends batch session indexes p outcome.2 count ∧
      Reports outcome.1 0 count indexes := by
  unfold sendIndexes
  split
  · exact sendBatch_spec around batch session 0 indexes p
  · exact sendIndividually_spec around batch session 0 indexes p

theorem sendIndexes_error_lt {batchEnabled : Bool} {session : UdpSession}
    {indexes : List Nat} {p : Pass} {count : Nat}
    (h : (sendIndexes around batch batchEnabled session indexes p).1 = some count) :
    count < indexes.length := by
  rcases sendIndexes_spec around batch batchEnabled session indexes p with
    ⟨sent, _, ⟨hnone, _⟩ | ⟨hsome, hpart⟩⟩
  · rw [h] at hnone
    cases hnone
  · rw [h, Nat.zero_add] at hsome
    cases hsome
    exact hpart

/-- What a group does not send, it loses. -/
theorem sendGroup_spec (batchEnabled : Bool) (session : UdpSession) (indexes : List Nat)
    (p : Pass) :
    exists count, Accounts p (sendGroup around batch batchEnabled session indexes p)
      (indexes.drop count) ((indexes.take count).map (delivery batch session)) := by
  rcases sendIndexes_spec around batch batchEnabled session indexes p with
    ⟨count, hsends, ⟨hnone, hall⟩ | ⟨hsome, _⟩⟩
  · refine ⟨count, ?_⟩
    rw [sendGroup, hnone, hall, List.drop_length]
    rw [hall] at hsends
    exact hsends.accounts
  · refine ⟨count, ?_⟩
    rw [Nat.zero_add] at hsome
    rw [sendGroup, hsome]
    have hlost := (hsends.accounts.quiet (accounts_countSendError _)).trans
      (accounts_lose .udpDrop (indexes.drop count) _)
    rw [List.append_nil, List.nil_append] at hlost
    exact hlost.quiet (accounts_removeSession around session _)

/-!
# Sending group by group
-/

theorem mem_groupIndexes {sessions : List (Option UdpSession)} {first index : Nat}
    {session : UdpSession} :
    index ∈ groupIndexes sessions first session <->
      first <= index ∧ exists candidate, sessionAt sessions index = some candidate ∧
        candidate.id = session.id := by
  unfold groupIndexes
  rw [List.mem_filter, List.mem_range'_1, Option.any_eq_true]
  constructor
  · intro h
    rcases h with ⟨⟨hfirst, _⟩, candidate, hcandidate, hid⟩
    exact ⟨hfirst, candidate, hcandidate, of_decide_eq_true hid⟩
  · intro h
    rcases h with ⟨hfirst, candidate, hcandidate, hid⟩
    have hlt := sessionAt_eq_some_lt hcandidate
    exact ⟨⟨hfirst, by lia⟩, candidate, hcandidate, decide_eq_true hid⟩

theorem groupIndexes_sorted (sessions : List (Option UdpSession)) (first : Nat)
    (session : UdpSession) : (groupIndexes sessions first session).Pairwise (· < ·) :=
  (List.pairwise_lt_range' 1).filter _

/-- The datagrams whose group is done: those that share a session with one of the
first `passed` datagrams. -/
def Grouped (sessions : List (Option UdpSession)) (passed index : Nat) : Prop :=
  exists first session, first < passed ∧ sessionAt sessions first = some session ∧
    sessionAt sessions index = some session

theorem Grouped.mono {sessions : List (Option UdpSession)} {passed index : Nat}
    (h : Grouped sessions passed index) : Grouped sessions (passed + 1) index := by
  rcases h with ⟨first, session, hlt, hfirst, hindex⟩
  exact ⟨first, session, Nat.lt_succ_of_lt hlt, hfirst, hindex⟩

/-- Another datagram of a session that is done is done as well. -/
theorem Grouped.same {sessions : List (Option UdpSession)} {passed index other : Nat}
    {session : UdpSession} (h : Grouped sessions passed index)
    (hindex : sessionAt sessions index = some session)
    (hother : sessionAt sessions other = some session) : Grouped sessions passed other := by
  rcases h with ⟨first, found, hlt, hfirst, hfound⟩
  rw [hindex] at hfound
  cases hfound
  exact ⟨first, session, hlt, hfirst, hother⟩

theorem grouped_succ {sessions : List (Option UdpSession)} {passed index : Nat}
    (h : Grouped sessions (passed + 1) index) :
    Grouped sessions passed index ∨ exists session,
      sessionAt sessions passed = some session ∧ sessionAt sessions index = some session := by
  rcases h with ⟨first, session, hlt, hfirst, hindex⟩
  rcases Nat.lt_succ_iff_lt_or_eq.mp hlt with hold | hnew
  · exact Or.inl ⟨first, session, hold, hfirst, hindex⟩
  · cases hnew
    exact Or.inr ⟨session, hfirst, hindex⟩

/-- What holds between two groups. -/
structure Forwarded (sessions : List (Option UdpSession)) (start p : Pass) (passed : Nat)
    (grouped lost : List Nat) (sent : List Delivery) : Prop where
  accounts : Accounts start p lost sent
  member : forall index, index ∈ grouped <-> Grouped sessions passed index
  nodup : grouped.Nodup
  handled : (lost ++ sent.map Delivery.index).Perm grouped
  through : forall sending, sending ∈ sent ->
    sending = delivery batch sending.session sending.index ∧
      sessionAt sessions sending.index = some sending.session
  ordered : sent.Pairwise (fun before after =>
    before.session.clientAddr = after.session.clientAddr -> before.index < after.index)

theorem forwarded_start (sessions : List (Option UdpSession)) (p : Pass) :
    Forwarded batch sessions p p 0 [] [] [] where
  accounts := accounts_refl p
  member := by
    intro index
    constructor
    · intro hmem
      cases hmem
    · intro h
      rcases h with ⟨first, _, hlt, _⟩
      exact absurd hlt (Nat.not_lt_zero first)
  nodup := List.nodup_nil
  handled := List.Perm.refl _
  through := by
    intro sending hmem
    cases hmem
  ordered := List.Pairwise.nil

theorem Forwarded.skip {sessions : List (Option UdpSession)} {start p : Pass}
    {passed : Nat} {grouped lost : List Nat} {sent : List Delivery}
    (h : Forwarded batch sessions start p passed grouped lost sent)
    (hdone : forall session, sessionAt sessions passed = some session -> passed ∈ grouped) :
    Forwarded batch sessions start p (passed + 1) grouped lost sent :=
  { h with
    member := by
      intro index
      rw [h.member index]
      constructor
      · exact Grouped.mono
      · intro hgrouped
        rcases grouped_succ hgrouped with hold | ⟨session, hpassed, hindex⟩
        · exact hold
        · exact ((h.member passed).mp (hdone session hpassed)).same hpassed hindex }

section Group

variable {batch} {sessions : List (Option UdpSession)} {start p : Pass} {passed : Nat}
  {grouped lost : List Nat} {sent : List Delivery} {session : UdpSession}

/-- A new group holds every datagram of its session. -/
theorem Forwarded.mem_group (h : Forwarded batch sessions start p passed grouped lost sent)
    (hgroupable : Groupable batch sessions)
    (hsession : sessionAt sessions passed = some session) (hnew : passed ∉ grouped)
    (index : Nat) :
    index ∈ groupIndexes sessions passed session <->
      sessionAt sessions index = some session := by
  rw [mem_groupIndexes]
  constructor
  · intro h
    rcases h with ⟨_, candidate, hcandidate, hid⟩
    cases hgroupable.identified index passed candidate session hcandidate hsession hid
    exact hcandidate
  · intro hindex
    refine ⟨Nat.not_lt.mp ?_, session, hindex, rfl⟩
    intro hlt
    exact hnew ((h.member passed).mpr ⟨index, session, hlt, hindex, hsession⟩)

theorem Forwarded.group_fresh (h : Forwarded batch sessions start p passed grouped lost sent)
    (hsession : sessionAt sessions passed = some session) (hnew : passed ∉ grouped)
    {index : Nat} (hindex : sessionAt sessions index = some session) : index ∉ grouped := by
  intro hmem
  exact hnew ((h.member passed).mpr (((h.member index).mp hmem).same hindex hsession))

/-- What went out to a peer before a new group of its was received before it. -/
theorem Forwarded.before_group (h : Forwarded batch sessions start p passed grouped lost sent)
    (hgroupable : Groupable batch sessions)
    (hsession : sessionAt sessions passed = some session) (hnew : passed ∉ grouped)
    {sending : Delivery} (hsending : sending ∈ sent)
    (haddr : sending.session.clientAddr = session.clientAddr) {index : Nat}
    (hindex : sessionAt sessions index = some session) : sending.index < index := by
  have hthrough := (h.through sending hsending).2
  have hmem : sending.index ∈ grouped :=
    h.handled.subset (List.mem_append_right _ (List.mem_map_of_mem hsending))
  rcases (h.member sending.index).mp hmem with ⟨first, found, hlt, hfirst, hfound⟩
  rw [hthrough] at hfound
  cases hfound
  have holder := hgroupable.ordered first passed _ _ hlt hfirst hsession haddr
  rcases Nat.lt_trichotomy sending.index index with hbefore | hsame | hafter
  · exact hbefore
  · rw [hsame] at hmem
    exact absurd hmem (h.group_fresh hsession hnew hindex)
  · -- A later datagram of the peer would have a newer session, not an older one.
    have hnewer := hgroupable.ordered index sending.index _ _ hafter hindex hthrough haddr.symm
    have hid := Nat.le_antisymm holder hnewer
    have heq := hgroupable.identified first passed _ _ hfirst hsession hid
    rw [heq] at hfirst
    exact absurd ((h.member passed).mpr ⟨first, session, hlt, hfirst, hsession⟩) hnew

theorem map_index_delivery (session : UdpSession) (indexes : List Nat) :
    (indexes.map (delivery batch session)).map Delivery.index = indexes := by
  rw [List.map_map]
  exact List.map_id indexes

theorem Forwarded.group (h : Forwarded batch sessions start p passed grouped lost sent)
    (hgroupable : Groupable batch sessions)
    (hsession : sessionAt sessions passed = some session) (hnew : passed ∉ grouped)
    {p' : Pass} {count : Nat}
    (hsent : Accounts p p' ((groupIndexes sessions passed session).drop count)
      (((groupIndexes sessions passed session).take count).map (delivery batch session))) :
    Forwarded batch sessions start p' (passed + 1)
      (grouped ++ groupIndexes sessions passed session)
      (lost ++ (groupIndexes sessions passed session).drop count)
      (sent ++ ((groupIndexes sessions passed session).take count).map
        (delivery batch session)) := by
  have hmem := h.mem_group hgroupable hsession hnew
  have hsorted := groupIndexes_sorted sessions passed session
  generalize groupIndexes sessions passed session = indexes at hmem hsorted hsent ⊢
  have htaken : forall sending, sending ∈ (indexes.take count).map (delivery batch session) ->
      exists index, sending = delivery batch session index ∧
        sessionAt sessions index = some session := by
    intro sending hsending
    rcases List.mem_map.mp hsending with ⟨index, hindex, hdelivery⟩
    exact ⟨index, hdelivery.symm, (hmem index).mp (List.mem_of_mem_take hindex)⟩
  refine ⟨h.accounts.trans hsent, ?_, ?_, ?_, ?_, ?_⟩
  · intro index
    rw [List.mem_append, hmem, h.member]
    constructor
    · rintro (hold | hindex)
      · exact hold.mono
      · exact ⟨passed, session, Nat.lt_succ_self _, hsession, hindex⟩
    · intro hgrouped
      rcases grouped_succ hgrouped with hold | ⟨found, hfound, hindex⟩
      · exact Or.inl hold
      · rw [hsession] at hfound
        cases hfound
        exact Or.inr hindex
  · rw [List.nodup_append]
    refine ⟨h.nodup, hsorted.imp (fun hlt => Nat.ne_of_lt hlt), ?_⟩
    intro index hgrouped other hother heq
    rw [heq] at hgrouped
    exact h.group_fresh hsession hnew ((hmem other).mp hother) hgrouped
  · have hsplit : (indexes.drop count ++ indexes.take count).Perm indexes := by
      apply List.perm_append_comm.trans
      rw [List.take_append_drop]
    rw [List.map_append, map_index_delivery]
    refine List.Perm.trans ?_ (h.handled.append hsplit)
    rw [List.append_assoc, List.append_assoc]
    apply List.Perm.append_left _
    rw [← List.append_assoc, ← List.append_assoc]
    exact List.perm_append_comm.append_right _
  · intro sending hsending
    rcases List.mem_append.mp hsending with hold | hgroup
    · exact h.through sending hold
    · rcases htaken sending hgroup with ⟨index, hdelivery, hindex⟩
      rw [hdelivery]
      exact ⟨rfl, hindex⟩
  · rw [List.pairwise_append]
    refine ⟨h.ordered, ?_, ?_⟩
    · rw [List.pairwise_map]
      apply (hsorted.sublist (List.take_sublist count indexes)).imp
      intro before after hlt _
      exact hlt
    · intro before hbefore after hafter haddr
      rcases htaken after hafter with ⟨index, hdelivery, hindex⟩
      rw [hdelivery] at haddr ⊢
      exact h.before_group hgroupable hsession hnew hbefore haddr hindex

end Group

theorem forwardAll_spec (batchEnabled : Bool) {sessions : List (Option UdpSession)}
    (hgroupable : Groupable batch sessions) (remaining : Nat) {start p : Pass}
    {passed : Nat} {grouped lost : List Nat} {sent : List Delivery}
    (h : Forwarded batch sessions start p passed grouped lost sent) :
    exists grouped' lost' sent', Forwarded batch sessions start
      (forwardAll around batch batchEnabled sessions (List.range' passed remaining) grouped p)
      (passed + remaining) grouped' lost' sent' := by
  induction remaining generalizing p passed grouped lost sent with
  | zero => exact ⟨grouped, lost, sent, h⟩
  | succ remaining ih =>
      rw [List.range'_succ, forwardAll, Nat.add_comm remaining 1, ← Nat.add_assoc]
      cases hsession : sessionAt sessions passed with
      | none =>
          refine ih (h.skip batch ?_)
          intro session hsome
          rw [hsession] at hsome
          cases hsome
      | some session =>
          simp only
          split
          · next hmem => exact ih (h.skip batch (fun _ _ => hmem))
          · next hnew =>
            rcases sendGroup_spec around batch batchEnabled session
              (groupIndexes sessions passed session) p with ⟨count, hsent⟩
            exact ih (h.group hgroupable hsession hnew hsent)

end Sending

/-!
# The whole pass
-/

/-- The outcome of a pass relative to its start: `sessions` are those the batch was
sent through. -/
structure Received (batch : List Datagram) (sessions : List (Option UdpSession))
    (p p' : Pass) (lost : List Nat) (sent : List Delivery) : Prop where
  groupable : Groupable batch sessions
  accounts : Accounts p p' lost sent
  handled : (lost ++ sent.map Delivery.index).Perm (List.range batch.length)
  through : forall sending, sending ∈ sent ->
    sending = delivery batch sending.session sending.index ∧
      sessionAt sessions sending.index = some sending.session
  ordered : sent.Pairwise (fun before after =>
    before.session.clientAddr = after.session.clientAddr -> before.index < after.index)

theorem accounts_countReceived (batch : List Datagram) (p : Pass) :
    Accounts p (countReceived batch p) [] [] := by
  refine Accounts.of_same rfl rfl ?_
  intro counter
  cases counter <;> rfl

theorem grouped_perm {sessions : List (Option UdpSession)} {grouped : List Nat}
    (hnodup : grouped.Nodup)
    (hmember : forall index, index ∈ grouped <-> Grouped sessions sessions.length index) :
    grouped.Perm (resolvedIndexes sessions) := by
  unfold resolvedIndexes
  rw [List.perm_ext_iff_of_nodup hnodup (List.nodup_range.filter _)]
  intro index
  rw [hmember, List.mem_filter, List.mem_range, Option.isSome_iff_exists]
  constructor
  · intro h
    rcases h with ⟨first, session, _, _, hindex⟩
    exact ⟨sessionAt_eq_some_lt hindex, session, hindex⟩
  · intro h
    rcases h with ⟨hlt, session, hindex⟩
    exact ⟨index, session, hlt, hindex, hindex⟩

theorem receiveBatch_spec (around : Around) (batchEnabled : Bool) (batch : List Datagram)
    (p : Pass) :
    exists lost sent, Received batch
      (prepareDatagramBatch around batch (countReceived batch p)).1 p
      (receiveBatch around batchEnabled batch p) lost sent := by
  rcases prepareDatagramBatch_spec around batch (countReceived batch p) with
    ⟨hgroupable, unresolved, hprepared, hunresolved⟩
  have hstart := forwarded_start batch
    (prepareDatagramBatch around batch (countReceived batch p)).1
    (prepareDatagramBatch around batch (countReceived batch p)).2
  rcases forwardAll_spec around batch batchEnabled hgroupable batch.length hstart with
    ⟨grouped, lost, sent, hforwarded⟩
  rw [← List.range_eq_range'] at hforwarded
  refine ⟨unresolved ++ lost, sent, hgroupable, ?_, ?_, hforwarded.through,
    hforwarded.ordered⟩
  · exact ((accounts_countReceived batch p).trans hprepared).trans hforwarded.accounts
  · have hmember := hforwarded.member
    rw [Nat.zero_add, ← hgroupable.length] at hmember
    have hresolved := hforwarded.handled.trans (grouped_perm hforwarded.nodup hmember)
    rw [List.append_assoc, ← hgroupable.length]
    exact (hunresolved.append hresolved).trans (unresolved_resolved_perm _)

theorem length_by_counter (losses : List Loss) :
    (losses.filter (fun loss => loss.counter = .rejectedNoHost)).length +
        (losses.filter (fun loss => loss.counter = .udpDrop)).length +
        (losses.filter (fun loss => loss.counter = .udpReplyStale)).length =
      losses.length := by
  induction losses with
  | nil => rfl
  | cons loss rest ih =>
      rcases loss with ⟨index, counter⟩
      cases counter <;> simp <;> lia

/-- The peer and the payload of a delivery are those of its datagram. -/
theorem Received.datagram {batch : List Datagram} {sessions : List (Option UdpSession)}
    {p p' : Pass} {lost : List Nat} {sent : List Delivery}
    (h : Received batch sessions p p' lost sent) {sending : Delivery}
    (hsending : sending ∈ sent) :
    batch[sending.index]? = some ⟨sending.session.clientAddr, sending.payload⟩ := by
  rcases h.through sending hsending with ⟨hdelivery, hsession⟩
  have hpeer := h.groupable.owned _ _ hsession
  rw [Option.map_eq_some_iff] at hpeer
  rcases hpeer with ⟨⟨peer, payload⟩, hget, hpeer⟩
  have hpayload : sending.payload = payload := by
    rw [hdelivery]
    show (batch[sending.index]?.map Datagram.payload).getD [] = payload
    rw [hget]
    rfl
  rw [hget, ← hpeer, hpayload]

/-- Each datagram of a batch is sent once, through a session of its peer, or adds one
to one of the three loss counters, and each peer's datagrams leave in order. -/
theorem datagrams_conserved (around : Around) (batchEnabled : Bool)
    (batch : List Datagram) (entry : ListenerEntry) :
    let p := receiveBatch around batchEnabled batch (Pass.start entry)
    (p.losses.map Loss.index ++ p.deliveries.map Delivery.index).Perm
        (List.range batch.length) ∧
      (forall counter, p.counters.lossTotal counter =
        (p.losses.filter (fun loss => loss.counter = counter)).length) ∧
      p.counters.rejectedNoHostTotal + p.counters.udpDropTotal +
        p.counters.udpReplyStaleTotal + p.deliveries.length = batch.length ∧
      (forall sending, sending ∈ p.deliveries ->
        batch[sending.index]? = some ⟨sending.session.clientAddr, sending.payload⟩) ∧
      p.deliveries.Pairwise (fun before after =>
        before.session.clientAddr = after.session.clientAddr ->
          before.index < after.index) ∧
      (forall session indexes reached sent,
        (sendIndexes around batch batchEnabled session indexes reached).1 = some sent ->
          sent < indexes.length) := by
  intro p
  rcases receiveBatch_spec around batchEnabled batch (Pass.start entry) with
    ⟨lost, sent, hreceived⟩
  have hlosses : p.losses.map Loss.index = lost := hreceived.accounts.losses
  have hdeliveries : p.deliveries = sent := hreceived.accounts.deliveries
  have hbalanced : Balanced p := by
    apply hreceived.accounts.balanced
    intro counter
    cases counter <;> rfl
  have hhandled := hreceived.handled
  rw [← hlosses, ← hdeliveries] at hhandled
  refine ⟨hhandled, hbalanced, ?_, ?_, ?_, ?_⟩
  · have hlength := hhandled.length_eq
    rw [List.length_append, List.length_map, List.length_map, List.length_range,
      ← length_by_counter, ← hbalanced, ← hbalanced, ← hbalanced] at hlength
    exact hlength
  · intro sending hsending
    rw [hdeliveries] at hsending
    exact hreceived.datagram hsending
  · rw [hdeliveries]
    exact hreceived.ordered
  · intro session indexes reached count herror
    exact sendIndexes_error_lt around batch herror

end Udp
end Runtime
end Relayd
