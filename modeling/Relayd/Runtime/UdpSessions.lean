import Relayd.Foundation.KeyedMap
import Relayd.Runtime.Real

/-!
# The session table of a udp listener

The table maps a client address to its session.  A session is an object with an
identity: it is numbered when it enters the table, and the table never holds two
objects with one number.  The operations here are the critical sections of the
receive loop, of session removal and of an update; who runs them in which order
is left to the modules that use them.
-/

namespace Relayd
namespace Runtime
namespace Udp

open Foundation

structure UdpSession where
  id : Nat
  generation : UInt64
  clientAddr : SocketAddr
  upstream : Target
deriving DecidableEq, Repr

structure SessionTable where
  sessions : KeyMap SocketAddr UdpSession
  nextSession : Nat
  keyed : Keyed UdpSession.clientAddr sessions
  numbered : forall addr session, sessions.lookup addr = some session ->
    session.id < nextSession
  distinct : forall addr other session session',
    sessions.lookup addr = some session -> sessions.lookup other = some session' ->
    session.id = session'.id -> session = session'

/-- The shared part of a listener entry: `stateGeneration` is the generation in
the locked state, `generation` the atomic beside it.  `closed` lists the sessions
whose flag is set. -/
structure ListenerEntry where
  state : EntryState
  stateGeneration : UInt64
  generation : UInt64
  table : SessionTable
  closed : List Nat
  maxSessions : Nat

namespace SessionTable

def empty : SessionTable where
  sessions := ∅
  nextSession := 0
  keyed := keyed_empty _
  numbered := by
    intro addr session h
    cases h
  distinct := by
    intro addr other session session' h
    cases h

def lookup (table : SessionTable) (addr : SocketAddr) : Option UdpSession :=
  table.sessions.lookup addr

def size (table : SessionTable) : Nat := table.sessions.entries.length

def erase (table : SessionTable) (addr : SocketAddr) : SessionTable where
  sessions := table.sessions.erase addr
  nextSession := table.nextSession
  keyed := table.keyed.erase addr
  numbered := by
    intro other session h
    rw [lookup_erase_eq] at h
    split at h
    · cases h
    · exact table.numbered other session h
  distinct := by
    intro left right session session' h h'
    rw [lookup_erase_eq] at h h'
    split at h
    · cases h
    · split at h'
      · cases h'
      · exact table.distinct left right session session' h h'

def clear (table : SessionTable) : SessionTable where
  sessions := ∅
  nextSession := table.nextSession
  keyed := keyed_empty _
  numbered := by
    intro addr session h
    cases h
  distinct := by
    intro addr other session session' h
    cases h

/-- The session that the next insertion puts under an address. -/
def fresh (table : SessionTable) (addr : SocketAddr) (generation : UInt64)
    (upstream : Target) : UdpSession where
  id := table.nextSession
  generation := generation
  clientAddr := addr
  upstream := upstream

def insert (table : SessionTable) (addr : SocketAddr) (generation : UInt64)
    (upstream : Target) : SessionTable where
  sessions := table.sessions.insert addr (table.fresh addr generation upstream)
  nextSession := table.nextSession + 1
  keyed := table.keyed.insert (table.fresh addr generation upstream)
  numbered := by
    intro other session h
    rw [lookup_insert_eq] at h
    split at h
    · cases h
      exact Nat.lt_succ_self _
    · exact Nat.lt_succ_of_lt (table.numbered other session h)
  distinct := by
    intro left right session session' h h' hid
    rw [lookup_insert_eq] at h h'
    split at h
    · cases h
      split at h'
      · cases h'
        rfl
      · have hlt := table.numbered right session' h'
        rw [← hid] at hlt
        exact absurd hlt (Nat.lt_irrefl _)
    · split at h'
      · cases h'
        have hlt := table.numbered left session h
        rw [hid] at hlt
        exact absurd hlt (Nat.lt_irrefl _)
      · exact table.distinct left right session session' h h' hid

theorem lookup_erase (table : SessionTable) (addr other : SocketAddr) :
    (table.erase addr).lookup other =
      if other = addr then none else table.lookup other :=
  lookup_erase_eq table.sessions addr other

theorem lookup_insert (table : SessionTable) (addr other : SocketAddr)
    (generation : UInt64) (upstream : Target) :
    (table.insert addr generation upstream).lookup other =
      if other = addr then some (table.fresh addr generation upstream)
      else table.lookup other :=
  lookup_insert_eq table.sessions addr other _

theorem lookup_clientAddr {table : SessionTable} {addr : SocketAddr}
    {session : UdpSession} (h : table.lookup addr = some session) :
    session.clientAddr = addr :=
  table.keyed addr session h

end SessionTable

/-!
# Critical sections
-/

inductive Lookup where
  | found (session : UdpSession)
  | full
  | vacant
deriving DecidableEq, Repr

inductive Insertion where
  | existing (session : UdpSession)
  | stale
  | inserted (session : UdpSession) (replaced : Option UdpSession)
deriving DecidableEq, Repr

namespace ListenerEntry

def bound (allocation : Allocation) (maxSessions : Nat) : ListenerEntry where
  state := entryStateFor allocation
  stateGeneration := 0
  generation := 0
  table := SessionTable.empty
  closed := []
  maxSessions := maxSessions

/-- The session under an address, when it is of the given generation. -/
def current (entry : ListenerEntry) (addr : SocketAddr) (generation : UInt64) :
    Option UdpSession :=
  (entry.table.lookup addr).filter (fun session => session.generation = generation)

/-- The first critical section of `session_for`. -/
def lookupSession (entry : ListenerEntry) (addr : SocketAddr) (generation : UInt64) :
    Lookup :=
  match entry.current addr generation with
  | some session => .found session
  | none => if entry.table.size >= entry.maxSessions then .full else .vacant

/-- The entry with a new session under an address; its flag is not set. -/
def withSession (entry : ListenerEntry) (addr : SocketAddr) (generation : UInt64)
    (upstream : Target) : ListenerEntry :=
  { entry with
    table := entry.table.insert addr generation upstream
    closed := entry.closed.filter (fun session => session ≠ entry.table.nextSession) }

/-- The second critical section of `session_for`. -/
def insertSession (entry : ListenerEntry) (addr : SocketAddr) (generation : UInt64)
    (upstream : Target) : Insertion × ListenerEntry :=
  match entry.current addr generation with
  | some existing => (.existing existing, entry)
  | none =>
      if entry.generation ≠ generation then (.stale, entry)
      else
        (.inserted (entry.table.fresh addr generation upstream) (entry.table.lookup addr),
          entry.withSession addr generation upstream)

def close (entry : ListenerEntry) (session : Nat) : ListenerEntry :=
  { entry with closed := session :: entry.closed }

/-- The critical section of `remove_session`: only the expected session is taken
out. -/
def removeSession (entry : ListenerEntry) (expected : UdpSession) :
    Option UdpSession × ListenerEntry :=
  match entry.table.lookup expected.clientAddr with
  | some session =>
      if session.id = expected.id then
        (some session, { entry with table := entry.table.erase expected.clientAddr })
      else (none, entry)
  | none => (none, entry)

/-- The state write of an update, generation included. -/
def publish (entry : ListenerEntry) (allocation : Allocation) : ListenerEntry :=
  { entry with
    state := entryStateFor allocation
    stateGeneration := saturatingSucc entry.stateGeneration
    generation := saturatingSucc entry.stateGeneration }

/-- The critical section of `close_sessions`. -/
def drain (entry : ListenerEntry) : List UdpSession × ListenerEntry :=
  (values entry.table.sessions, { entry with table := entry.table.clear })

end ListenerEntry

theorem current_eq_some {entry : ListenerEntry} {addr : SocketAddr} {generation : UInt64}
    {session : UdpSession} (h : entry.current addr generation = some session) :
    entry.table.lookup addr = some session ∧ session.generation = generation := by
  unfold ListenerEntry.current at h
  rw [Option.filter_eq_some_iff] at h
  exact ⟨h.1, of_decide_eq_true h.2⟩

theorem lookupSession_eq_found {entry : ListenerEntry} {addr : SocketAddr}
    {generation : UInt64} {session : UdpSession}
    (h : entry.lookupSession addr generation = .found session) :
    entry.current addr generation = some session := by
  unfold ListenerEntry.lookupSession at h
  split at h
  · next hcurrent =>
    cases h
    exact hcurrent
  · split at h <;> cases h

theorem insertSession_cases (entry : ListenerEntry) (addr : SocketAddr)
    (generation : UInt64) (upstream : Target) :
    (exists session, entry.current addr generation = some session ∧
      entry.insertSession addr generation upstream = (.existing session, entry)) ∨
    (entry.current addr generation = none ∧ entry.generation ≠ generation ∧
      entry.insertSession addr generation upstream = (.stale, entry)) ∨
    (entry.current addr generation = none ∧ entry.generation = generation ∧
      entry.insertSession addr generation upstream =
        (.inserted (entry.table.fresh addr generation upstream) (entry.table.lookup addr),
          entry.withSession addr generation upstream)) := by
  unfold ListenerEntry.insertSession
  cases hcurrent : entry.current addr generation with
  | some session => exact Or.inl ⟨session, rfl, rfl⟩
  | none =>
      by_cases hgeneration : entry.generation = generation
      · exact Or.inr (Or.inr ⟨rfl, hgeneration, by simp [hgeneration]⟩)
      · exact Or.inr (Or.inl ⟨rfl, hgeneration, by simp [hgeneration]⟩)

/-!
# How the table moves on

A session enters the table with a new number and never comes back once it has
left, so the sessions met under one address come in the order of their numbers.
-/

structure Later (entry entry' : ListenerEntry) : Prop where
  next : entry.table.nextSession <= entry'.table.nextSession
  kept : forall addr session, entry'.table.lookup addr = some session ->
    entry.table.lookup addr = some session ∨ entry.table.nextSession <= session.id

theorem Later.of_table {entry entry' : ListenerEntry} (h : entry'.table = entry.table) :
    Later entry entry' where
  next := by rw [h]
  kept := by
    intro addr session hsession
    rw [h] at hsession
    exact Or.inl hsession

theorem later_refl (entry : ListenerEntry) : Later entry entry := Later.of_table rfl

theorem Later.trans {entry entry' entry'' : ListenerEntry} (h : Later entry entry')
    (h' : Later entry' entry'') : Later entry entry'' where
  next := Nat.le_trans h.next h'.next
  kept := by
    intro addr session hsession
    rcases h'.kept addr session hsession with hold | hnew
    · exact h.kept addr session hold
    · exact Or.inr (Nat.le_trans h.next hnew)

theorem later_removeSession (entry : ListenerEntry) (expected : UdpSession) :
    Later entry (entry.removeSession expected).2 := by
  unfold ListenerEntry.removeSession
  split
  · split
    · refine ⟨Nat.le_refl _, ?_⟩
      intro addr session hsession
      rw [SessionTable.lookup_erase] at hsession
      split at hsession
      · cases hsession
      · exact Or.inl hsession
    · exact later_refl entry
  · exact later_refl entry

theorem lookup_withSession (entry : ListenerEntry) (addr other : SocketAddr)
    (generation : UInt64) (upstream : Target) :
    (entry.withSession addr generation upstream).table.lookup other =
      if other = addr then some (entry.table.fresh addr generation upstream)
      else entry.table.lookup other :=
  SessionTable.lookup_insert entry.table addr other generation upstream

theorem mem_closed_withSession {entry : ListenerEntry} {addr : SocketAddr}
    {generation : UInt64} {upstream : Target} {id : Nat} :
    id ∈ (entry.withSession addr generation upstream).closed <->
      id ∈ entry.closed ∧ id ≠ entry.table.nextSession := by
  unfold ListenerEntry.withSession
  rw [List.mem_filter, decide_eq_true_iff]

theorem later_withSession (entry : ListenerEntry) (addr : SocketAddr)
    (generation : UInt64) (upstream : Target) :
    Later entry (entry.withSession addr generation upstream) where
  next := Nat.le_succ _
  kept := by
    intro other session hsession
    rw [lookup_withSession] at hsession
    split at hsession
    · cases hsession
      exact Or.inr (Nat.le_refl _)
    · exact Or.inl hsession

theorem later_insertSession (entry : ListenerEntry) (addr : SocketAddr)
    (generation : UInt64) (upstream : Target) :
    Later entry (entry.insertSession addr generation upstream).2 := by
  unfold ListenerEntry.insertSession
  split
  · exact later_refl entry
  · split
    · exact later_refl entry
    · exact later_withSession entry addr generation upstream

/-- The session stood in the table at some time up to now. -/
def Known (entry : ListenerEntry) (session : UdpSession) : Prop :=
  exists earlier, Later earlier entry ∧
    earlier.table.lookup session.clientAddr = some session

theorem Known.later {entry entry' : ListenerEntry} {session : UdpSession}
    (h : Known entry session) (hlater : Later entry entry') : Known entry' session := by
  rcases h with ⟨earlier, hearlier, hsession⟩
  exact ⟨earlier, hearlier.trans hlater, hsession⟩

theorem Known.of_lookup {entry : ListenerEntry} {addr : SocketAddr} {session : UdpSession}
    (h : entry.table.lookup addr = some session) : Known entry session := by
  refine ⟨entry, later_refl entry, ?_⟩
  rw [SessionTable.lookup_clientAddr h]
  exact h

theorem Known.same_or_older {entry : ListenerEntry} {session session' : UdpSession}
    {addr : SocketAddr} (h : Known entry session)
    (hlookup : entry.table.lookup addr = some session') :
    (session.id = session'.id -> session = session') ∧
      (session.clientAddr = addr -> session.id <= session'.id) := by
  rcases h with ⟨earlier, hlater, hsession⟩
  rcases hlater.kept addr session' hlookup with hold | hnew
  · constructor
    · exact earlier.table.distinct _ _ session session' hsession hold
    · intro haddr
      rw [haddr, hold] at hsession
      cases hsession
      exact Nat.le_refl _
  · have hnumbered := earlier.table.numbered _ session hsession
    constructor
    · intro hid
      lia
    · intro _
      lia

end Udp
end Runtime
end Relayd
