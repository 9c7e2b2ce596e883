import Mathlib.Logic.Function.Basic
import Relayd.Service.StoredResults
import Relayd.Service.Views
import Relayd.Storage.Migration

/-!
# The allocation table

What the service is for, without rows, columns and joins: a table that gives every id its
allocation and its binding.  A database shows a table when each of its readers reads what
the table has.  Each operation of the service moves the table in the one way that its
arguments, the table and the answers to its calls leave open.  The answers are those of the
run: what an operation does to the table is told together with the runtime as it stands and
with the number of calls that have been made to the outside.
-/

namespace Relayd
namespace Service

open Foundation Fallible Relayd.Runtime Storage

structure Entry where
  allocation : Allocation
  binding : Option Binding

abbrev Table := String -> Option Entry

/-- The allocation has the id it stands under and the target of its binding. -/
structure Entry.Coherent (id : String) (entry : Entry) : Prop where
  id_eq : entry.allocation.id = id
  target : entry.allocation.targetPort = entry.binding.map Binding.targetPort

def Table.Coherent (table : Table) : Prop :=
  forall id entry, table id = some entry -> entry.Coherent id

structure Shows (db : Database) (table : Table) : Prop where
  allocation : forall id, getAllocation id db = .ok ((table id).map Entry.allocation)
  binding : forall id, getBinding id db = .ok ((table id).bind Entry.binding)

/-- Every allocation of the table once, in some order. -/
structure Lists (table : Table) (allocations : List Allocation) : Prop where
  ids : (allocations.map Allocation.id).Nodup
  listed : forall allocation, allocation ∈ allocations <->
    exists id entry, table id = some entry ∧ entry.allocation = allocation

section Reading

variable {db db' : Database} {table : Table}

theorem Shows.joined (h : Shows db table) (id : String) :
    getAllocationWithBinding id db =
      .ok ((table id).map (fun entry => (entry.allocation, entry.binding))) := by
  have hallocation := h.allocation id
  cases hentry : table id with
  | none =>
      rw [hentry] at hallocation
      exact getAllocationWithBinding_eq_none.mpr (getAllocation_eq_none.mp hallocation)
  | some entry =>
      rw [hentry] at hallocation
      rcases except_map_eq_ok.mp (fst_getAllocationWithBinding_eq_ok.mpr hallocation) with
        ⟨found, hfound, hfst⟩
      cases found with
      | none => cases hfst
      | some found =>
          have hbinding := h.binding id
          rw [getBinding_of_getAllocationWithBinding hfound, hentry] at hbinding
          rcases found with ⟨allocation, joined⟩
          have hsame : allocation = entry.allocation := Option.some.inj hfst
          have hjoined : joined = entry.binding := Except.ok.inj hbinding
          rw [hfound, hsame, hjoined]
          rfl

theorem Shows.find_none (h : Shows db table) {id : String} :
    table id = none <-> findAllocation id db = none := by
  rw [← getAllocation_eq_none, h.allocation id]
  cases table id <;> simp

theorem Shows.owned (h : Shows db table) : Owned db := by
  intro id hnone
  have hbinding := h.binding id
  rw [h.find_none.mpr hnone] at hbinding
  cases hfind : findBinding id db with
  | none => rfl
  | some row =>
      have hrel := getBinding_eq_ok.mp hbinding
      rw [hfind] at hrel
      cases hrel

theorem Shows.id_eq (h : Shows db table) {id : String} {entry : Entry}
    (hentry : table id = some entry) : entry.allocation.id = id := by
  have hallocation := h.allocation id
  rw [hentry] at hallocation
  exact getAllocation_id hallocation

theorem Shows.row (h : Shows db table) {row : AllocationRow} (hrow : row ∈ db.allocations) :
    exists entry, table row.id = some entry := by
  cases hentry : table row.id with
  | some entry => exact ⟨entry, rfl⟩
  | none =>
      have hnone := h.find_none.mp hentry
      rw [findAllocation_of_mem hrow] at hnone
      cases hnone

theorem Shows.lists (h : Shows db table) :
    exists allocations, Storage.listAllocations db = .ok allocations ∧
      Lists table allocations := by
  have hrows : forall row, row ∈ db.allocations ->
      exists allocation, getAllocation row.id db = .ok (some allocation) := by
    intro row hrow
    rcases h.row hrow with ⟨entry, hentry⟩
    exact ⟨entry.allocation, by rw [h.allocation, hentry]; rfl⟩
  rcases listAllocations_succeeds.mpr hrows with ⟨allocations, hlist⟩
  have hforall := listAllocations_eq_ok.mp hlist
  have hperm := List.perm_insertionSort AllocationRow.listedBefore db.allocations
  generalize db.allocations.insertionSort AllocationRow.listedBefore = rows at hforall hperm
  -- Row by row the listing is what the table has under the row's id.
  have hids : rows.map AllocationRow.id = allocations.map Allocation.id := by
    rw [← List.forall₂_eq_eq_eq, List.forall₂_map_left_iff, List.forall₂_map_right_iff]
    exact hforall.imp (fun _ _ hget => (getAllocation_id hget).symm)
  have hfound : rows.map (fun row => (table row.id).map Entry.allocation) =
      allocations.map some := by
    rw [← List.forall₂_eq_eq_eq, List.forall₂_map_left_iff, List.forall₂_map_right_iff]
    refine hforall.imp ?_
    intro row allocation hget
    rw [h.allocation] at hget
    exact Except.ok.inj hget
  refine ⟨allocations, hlist, ?_, ?_⟩
  · rw [← hids]
    exact ((hperm.map AllocationRow.id).nodup_iff).mpr db.allocationIds
  · intro allocation
    have hmem : allocation ∈ allocations <-> some allocation ∈ allocations.map some := by
      rw [List.mem_map_of_injective (Option.some_injective Allocation)]
    rw [hmem, ← hfound, List.mem_map]
    constructor
    · intro hrow
      rcases hrow with ⟨row, _, hrow⟩
      rcases Option.map_eq_some_iff.mp hrow with ⟨entry, hentry, hallocation⟩
      exact ⟨row.id, entry, hentry, hallocation⟩
    · intro hentry
      rcases hentry with ⟨id, entry, hentry, hallocation⟩
      cases hfind : findAllocation id db with
      | none =>
          rw [h.find_none.mpr hfind] at hentry
          cases hentry
      | some row =>
          rcases findAllocation_some hfind with ⟨hrow, hid⟩
          refine ⟨row, hperm.mem_iff.mpr hrow, ?_⟩
          rw [hid, hentry, ← hallocation]
          rfl

/-- The stored row and the binding of an entry of the table. -/
theorem Shows.hydrates (h : Shows db table) {id : String} {entry : Entry}
    (hentry : table id = some entry) :
    exists row, findAllocation id db = some row ∧
      Hydrates row (findBinding id db) entry.allocation ∧
      Option.Rel DecodesBinding (findBinding id db) entry.binding := by
  have hallocation := h.allocation id
  have hbinding := h.binding id
  rw [hentry] at hallocation hbinding
  rcases getAllocation_eq_some.mp hallocation with ⟨row, hrow, hhydrates⟩
  exact ⟨row, hrow, hhydrates, getBinding_eq_ok.mp hbinding⟩

/-- The entries of a database that has been opened are coherent. -/
theorem Shows.coherent (h : Shows (openDatabase db) table) : table.Coherent := by
  intro id entry hentry
  have hjoined := h.joined id
  rw [hentry] at hjoined
  rcases target_of_getAllocationWithBinding hjoined with ⟨htarget, _⟩
  rcases h.hydrates hentry with ⟨row, hrow, hhydrates, hdecodes⟩
  refine ⟨h.id_eq hentry, ?_⟩
  cases hbinding : entry.binding with
  | some binding => exact htarget binding hbinding
  | none =>
      rw [hbinding] at hdecodes
      have hnone : findBinding id (openDatabase db) = none := by
        cases hfind : findBinding id (openDatabase db) with
        | none => rfl
        | some stored =>
            rw [hfind] at hdecodes
            cases hdecodes
      have htargetPort := hhydrates.targetPort
      rw [hnone] at htargetPort
      rcases findAllocation_some hrow with ⟨hmem, hid⟩
      rw [← hid] at hnone
      by_cases hpositive : row.targetPort > 0
      · exact absurd ⟨hmem, hpositive, hnone⟩ (not_needsBinding_migrateLegacyBindings db row)
      · simp only [TargetPortOf, if_neg hpositive] at htargetPort
        exact htargetPort

/-- Where the entries are coherent there is nothing to migrate. -/
theorem Shows.openDatabase_eq (h : Shows db table) (hcoherent : table.Coherent) :
    openDatabase db = db := by
  have hnone : legacyBindings db = [] := by
    rw [List.eq_nil_iff_forall_not_mem]
    intro binding hbinding
    rcases mem_legacyBindings.mp hbinding with ⟨row, ⟨hrow, htarget, hmissing⟩, _⟩
    rcases h.row hrow with ⟨entry, hentry⟩
    rcases h.hydrates hentry with ⟨found, hfound, hhydrates, hdecodes⟩
    rw [findAllocation_of_mem hrow] at hfound
    cases hfound
    have htargetPort := hhydrates.targetPort
    have hsame := (hcoherent row.id entry hentry).target
    rw [hmissing] at htargetPort hdecodes
    simp only [TargetPortOf, if_pos htarget] at htargetPort
    cases hbinding : entry.binding with
    | some binding =>
        rw [hbinding] at hdecodes
        cases hdecodes
    | none =>
        rw [hsame, hbinding] at htargetPort
        cases htargetPort
  exact Database.eq_of_tables rfl
    (by rw [openDatabase, migrateLegacyBindings_bindings, hnone, List.append_nil])

/-- One id reads anew, every other id as before. -/
theorem Shows.moves (h : Shows db table) {id : String} {entry : Option Entry}
    (hallocation : getAllocation id db' = .ok (entry.map Entry.allocation))
    (hbinding : getBinding id db' = .ok (entry.bind Entry.binding))
    (hothers : forall other, other ≠ id -> ReadsSame other db db') :
    Shows db' (Function.update table id entry) := by
  constructor
  · intro other
    by_cases hother : other = id
    · rw [hother, Function.update_self]
      exact hallocation
    · rw [Function.update_of_ne hother, (hothers other hother).left]
      exact h.allocation other
  · intro other
    by_cases hother : other = id
    · rw [hother, Function.update_self]
      exact hbinding
    · rw [Function.update_of_ne hother, (hothers other hother).right]
      exact h.binding other

end Reading

/-!
# What the operations do to the table
-/

/-- No allocation of the table holds the port against the protocol. -/
def Table.Free (table : Table) (protocol : Protocol) (port : UInt16) : Prop :=
  forall id entry, table id = some entry ->
    conflictsWith protocol entry.allocation.protocol = true -> entry.allocation.port ≠ port

def Entry.created (allocation : Allocation) : Entry where
  allocation := allocation
  binding := allocation.targetPort.map (allocationBinding allocation)

/-- The binding that an assignment at a given time gives to an entry. -/
def Entry.assigned (entry : Entry) (targetPort : UInt16) (host : Option String) (now : Int) :
    Binding where
  allocationId := entry.allocation.id
  targetPort := targetPort
  host := host
  createdAtMs := (entry.binding.map Binding.createdAtMs).getD now
  updatedAtMs := now

def Entry.bound (entry : Entry) (targetPort : UInt16) (host : Option String) (now : Int) :
    Entry where
  allocation := allocationWithBinding entry.allocation (entry.assigned targetPort host now)
  binding := some (entry.assigned targetPort host now)

def Entry.unbound (entry : Entry) (now : Int) : Entry where
  allocation := allocationWithoutBinding entry.allocation now
  binding := none

/-- The table, the runtime as it stands, and how many calls the outside has answered. -/
structure Standing (rt : Type) where
  table : Table
  runtime : rt
  calls : Nat

section Standing

variable {rt answer value : Type}

/-- After calls that neither of the two stores sees. -/
def Standing.later (n : Nat) (s : Standing rt) : Standing rt :=
  { s with calls := s.calls + n }

def Standing.holding (id : String) (entry : Option Entry) (s : Standing rt) : Standing rt :=
  { s with table := Function.update s.table id entry }

/-- The runtime is asked as it stands, and the outside gives the reply it has for the
call. -/
def Standing.ask (out : Outside answer)
    (call : answer -> rt -> Except RuntimeError value × rt) (s : Standing rt) :
    Except RuntimeError value × Standing rt :=
  ((call (out.runtime s.calls) s.runtime).1,
    { s with
      runtime := (call (out.runtime s.calls) s.runtime).2
      calls := s.calls + 1 })

def World.standing (table : Table) (w : World rt) : Standing rt :=
  ⟨table, w.runtime, w.calls⟩

end Standing

section Specifications

variable {rt answer : Type} (svc : Service rt answer) (out : Outside answer)

/-- What a create asks the runtime for after a scan, the time and a generated id. -/
def Standing.proposal (protocol : Protocol) (targetPort : Option UInt16) (port : UInt16)
    (s : Standing rt) : Allocation where
  id := out.newId (s.calls + 2)
  protocol := protocol
  port := port
  targetPort := targetPort
  host := none
  createdAtMs := out.clock (s.calls + 1)
  updatedAtMs := out.clock (s.calls + 1)

def Standing.propose (protocol : Protocol) (targetPort : Option UInt16) (port : UInt16)
    (s : Standing rt) : Except RuntimeError Unit × Standing rt :=
  (s.later 3).ask out (fun reply =>
    svc.runtime.create reply (s.proposal out protocol targetPort port) svc.applyTimeoutMs)

/-- The runtime has been asked for these ports, one after the other, and has turned each of
them down. -/
inductive TurnsDown (protocol : Protocol) (targetPort : Option UInt16) (before : Standing rt) :
    List UInt16 -> Standing rt -> Prop where
  | none : TurnsDown protocol targetPort before [] before
  | next {ports : List UInt16} {s : Standing rt} {port : UInt16}
      (hearlier : TurnsDown protocol targetPort before ports s)
      (hfailed : (s.propose svc out protocol targetPort port).1 =
        .error .runtimeCreateFailed) :
      TurnsDown protocol targetPort before (ports ++ [port])
        (s.propose svc out protocol targetPort port).2

/-- The ports are the free ones of the range in their order, up to a bound. -/
structure FreeBelow (table : Table) (protocol : Protocol) (below : UInt16 -> Prop)
    (ports : List UInt16) : Prop where
  ascending : ports.Pairwise (fun port later => port < later)
  exact : forall port, port ∈ ports <->
    (svc.portRange.start ≤ port ∧ port ≤ svc.portRange.end) ∧ below port ∧
      table.Free protocol port

/-- The lowest free port that the runtime does not turn down. -/
structure Settles (protocol : Protocol) (targetPort : Option UInt16) (before tried : Standing rt)
    (port : UInt16) : Prop where
  inRange : svc.portRange.start ≤ port ∧ port ≤ svc.portRange.end
  free : before.table.Free protocol port
  turnedDown : exists ports, TurnsDown svc out protocol targetPort before ports tried ∧
    FreeBelow svc before.table protocol (fun other => other < port) ports

/-- A new allocation at the port the runtime grants, no port when it turns down every free
one, or its first other error. -/
def Creates (protocol : Protocol) (targetPort : Option UInt16) (before after : Standing rt) :
    Except ServiceError Allocation -> Prop
  | .ok allocation =>
      exists port tried, Settles svc out protocol targetPort before tried port ∧
        allocation = tried.proposal out protocol targetPort port ∧
        before.table allocation.id = none ∧
        (tried.propose svc out protocol targetPort port).1 = .ok () ∧
        after = ((tried.propose svc out protocol targetPort port).2.later 1).holding
          allocation.id (some (.created allocation))
  | .error .noAvailablePort =>
      exists ports tried, TurnsDown svc out protocol targetPort before ports tried ∧
        FreeBelow svc before.table protocol (fun _ => True) ports ∧
        (after = tried ∨ after = tried.later 1)
  | .error (.runtime error) =>
      error ≠ .runtimeCreateFailed ∧
        exists port tried, Settles svc out protocol targetPort before tried port ∧
          tried.propose svc out protocol targetPort port = (.error error, after)
  | .error _ => False

/-- The entry moves, then the runtime is asked to follow; what it answers is returned. -/
def Assigns {value : Type} (id : String) (entry : Entry) (returned : value)
    (before after : Standing rt) (result : Except ServiceError value) : Prop :=
  let asked := ((before.later 1).holding id (some entry)).ask out (fun reply =>
    svc.runtime.update reply entry.allocation svc.applyTimeoutMs)
  after = asked.2 ∧ result = (asked.1.map (fun _ => returned)).mapError .runtime

def Puts (id host : String) (targetPort : UInt16) (before after : Standing rt)
    (result : Except ServiceError Binding) : Prop :=
  if (parseIpLiteral host).isOk then
    match before.table id with
    | none => result = .error .notFound ∧ after = before.later 1
    | some entry =>
        let now := out.clock (before.calls + 1)
        Assigns svc out id (entry.bound targetPort (some host) now)
          (entry.assigned targetPort (some host) now) (before.later 2) after result
  else result = .error .invalidHost ∧ after = before

/-- What an update leaves out is taken from the entry; a target can only be left out where
there is a binding. -/
def Updates (id : String) (targetPort : Option UInt16) (host : Option String)
    (before after : Standing rt) (result : Except ServiceError Allocation) : Prop :=
  match before.table id with
  | none => result = .error .notFound ∧ after = before.later 1
  | some entry =>
      if (host.map (fun host => (parseIpLiteral host).isOk)).getD true then
        match targetPort.or (entry.binding.map Binding.targetPort) with
        | none => result = .error .notFound ∧ after = before.later 1
        | some resolved =>
            let bound := entry.bound resolved (host.or entry.allocation.host)
              (out.clock (before.calls + 1))
            Assigns svc out id bound bound.allocation (before.later 2) after result
      else result = .error .invalidHost ∧ after = before.later 1

def Unbinds (id : String) (before after : Standing rt) (result : Except ServiceError Unit) :
    Prop :=
  match before.table id with
  | none => result = .error .notFound ∧ after = before.later 1
  | some entry =>
      if entry.binding.isSome then
        Assigns svc out id (entry.unbound (out.clock (before.calls + 1))) () (before.later 2)
          after result
      else result = .error .notFound ∧ after = before.later 1

/-- What the runtime does not let go of stays. -/
def Releases (id : String) (after : Standing rt) (result : Except ServiceError Unit) :
    Except RuntimeError Unit × Standing rt -> Prop
  | (.error error, asked) => result = .error (.runtime error) ∧ after = asked
  | (.ok (), asked) => result = .ok () ∧ after = (asked.later 1).holding id none

def Deletes (id : String) (before after : Standing rt) (result : Except ServiceError Unit) :
    Prop :=
  match before.table id with
  | none => result = .error .notFound ∧ after = before.later 1
  | some _ =>
      Releases id after result ((before.later 1).ask out (fun reply =>
        svc.runtime.delete reply id svc.applyTimeoutMs))

variable {svc out}

/-- What the runtime turns down leaves the table. -/
theorem TurnsDown.table_eq {protocol : Protocol} {targetPort : Option UInt16}
    {ports : List UInt16} {before tried : Standing rt}
    (h : TurnsDown svc out protocol targetPort before ports tried) :
    tried.table = before.table := by
  induction h with
  | none => rfl
  | next _ _ ih => exact ih

theorem Settles.table_eq {protocol : Protocol} {targetPort : Option UInt16} {port : UInt16}
    {before tried : Standing rt} (h : Settles svc out protocol targetPort before tried port) :
    tried.table = before.table := by
  rcases h.turnedDown with ⟨_, hturned, _⟩
  exact hturned.table_eq

end Specifications

/-!
# The operations meet their specifications
-/

section Operations

variable {rt answer value : Type} {svc : Service rt answer} {out : Outside answer}
  {w w' : World rt} {table table' : Table}

/-- The database shows the table, and the ids to come are new. -/
structure Ready (out : Outside answer) (w : World rt) (table : Table) : Prop where
  shows : Shows w.db table
  fresh : FreshIds out w.calls w.db
  failpoints : w.failpoints = Failpoints.default
  exclusive : Exclusive w.db.allocations

/-- Any runtime follows the store as far as nothing is asked about it. -/
theorem follows_anything (facade : RuntimeFacade rt answer) :
    Follows facade (fun _ _ _ => True) where
  initialized := fun _ => trivial
  create_ok := fun _ _ => ⟨trivial, fun _ _ _ _ => trivial⟩
  create_error := fun _ _ => ⟨trivial, fun _ _ _ _ => trivial⟩
  update := fun _ _ _ _ => ⟨trivial, fun _ _ _ _ => trivial⟩
  delete_ok := fun _ => ⟨trivial, fun _ _ _ _ => trivial⟩
  delete_error := fun _ _ => ⟨trivial, fun _ _ _ _ => trivial⟩
  restore_ok := fun _ _ => ⟨trivial, fun _ _ _ _ => trivial⟩

theorem Ready.after (h : Ready out w table)
    (hrepository : forall call, out.repository call = none)
    (hids : Function.Injective out.newId) (heffects : Effects svc out w w')
    (hshows : Shows w'.db table') : Ready out w' table' := by
  have hstep : InStep (fun _ _ _ => True) out w := by
    refine ⟨?_, h.fresh, h.failpoints⟩
    intro id
    exact ⟨_, h.shows.allocation id, trivial⟩
  have hboth : InStep (fun _ _ _ => True) out w' ∧ Exclusive w'.db.allocations := by
    clear hshows
    induction heffects with
    | refl => exact ⟨hstep, h.exclusive⟩
    | tail _ heffect ih =>
        exact ⟨effect_inStep (follows_anything svc.runtime) hrepository hids _ _ ih.left heffect,
          effect_exclusive _ _ ih.right heffect⟩
  exact ⟨hshows, hboth.left.fresh, hboth.left.failpoints, hboth.right⟩

/-- A program moves the table as it is to when it does so with its rows, by effects. -/
theorem Ready.moves {program : ServiceM rt value}
    {spec : Standing rt -> Except ServiceError value -> Prop} (h : Ready out w table)
    (hrepository : forall call, out.repository call = none)
    (hids : Function.Injective out.newId)
    (heffects : Ensures program (fun _ w' => Effects svc out w w') w)
    (hspec : Ensures program (fun result w' => exists table', Shows w'.db table' ∧
      spec (w'.standing table') result) w) :
    Ensures program (fun result w' => exists table', Ready out w' table' ∧
      spec (w'.standing table') result) w := by
  rcases hspec with ⟨table', hshows, hspec⟩
  exact ⟨table', h.after hrepository hids heffects hshows, hspec⟩

theorem ensures_read {query : Database -> Except RepositoryError value} {found : value}
    {post : Except ServiceError value -> World rt -> Prop}
    (hrepository : forall call, out.repository call = none) (hquery : query w.db = .ok found)
    (hpost : post (.ok found) w.afterCall) : Ensures (repoRead out query) post w := by
  unfold repoRead
  rw [ensures_act, hrepository, hquery]
  exact hpost

theorem ensures_write
    {transaction : Database -> Except RepositoryError (value × Database)}
    {outcome : value × Database} {post : Except ServiceError value -> World rt -> Prop}
    (hrepository : forall call, out.repository call = none)
    (htransaction : transaction w.db = .ok outcome)
    (hpost : post (.ok outcome.1) { w.afterCall with db := outcome.2 }) :
    Ensures (repoWrite out transaction) post w := by
  unfold repoWrite
  rw [ensures_act, hrepository, htransaction]
  exact hpost

theorem Shows.bound (h : Shows w.db table) {id : String} {entry : Entry}
    (hentry : table id = some entry) (targetPort : UInt16) (host : Option String) (now : Int) :
    Shows (Storage.putBinding (entry.assigned targetPort host now) w.db)
      (Function.update table id (some (entry.bound targetPort host now))) := by
  have hid : (entry.assigned targetPort host now).allocationId = id := h.id_eq hentry
  have hallocation := h.allocation id
  have hbinding := h.binding id
  rw [hentry] at hallocation hbinding
  apply h.moves
  · rw [← hid] at hallocation
    have hput := getAllocation_putBinding_self hallocation
    rw [hid] at hput
    exact hput
  · rw [← hid] at hbinding
    have hput := getBinding_putBinding_self hbinding (by
      intro old hold
      simp only [Option.bind_some] at hold
      simp [Entry.assigned, hold])
    rw [hid] at hput
    exact hput
  · intro other hother
    rw [← hid] at hother
    exact ⟨getAllocation_putBinding_of_ne hother,
      getBinding_congr (findBinding_putBinding_of_ne hother)⟩

theorem assigns_of_answer {id : String} {entry : Entry} {returned : value}
    {before after : Standing rt} {answered : Except RuntimeError Unit}
    {result : Except ServiceError value}
    (h : (svc.runtime.update (out.runtime (before.calls + 1)) entry.allocation
      svc.applyTimeoutMs before.runtime).1 = answered)
    (hafter : after = (((before.later 1).holding id (some entry)).ask out (fun reply =>
      svc.runtime.update reply entry.allocation svc.applyTimeoutMs)).2)
    (hresult : result = (answered.map (fun _ => returned)).mapError .runtime) :
    Assigns svc out id entry returned before after result := by
  cases h
  exact ⟨hafter, hresult⟩

/-- Only what is returned differs. -/
theorem Assigns.map {id : String} {entry : Entry} {returned : value} {before after : Standing rt}
    {result : Except ServiceError value} (h : Assigns svc out id entry returned before after result)
    {other : Type} (shown : other) :
    Assigns svc out id entry shown before after (result.map (fun _ => shown)) := by
  rcases h with ⟨hafter, rfl⟩
  refine ⟨hafter, ?_⟩
  generalize Prod.fst _ = answered
  cases answered with
  | error error => rfl
  | ok _ => rfl

theorem assignBinding_assigns (hrepository : forall call, out.repository call = none)
    (h : Shows w.db table) (hfailpoints : w.failpoints = Failpoints.default) {id : String}
    {entry : Entry} (hentry : table id = some entry) (targetPort : UInt16)
    (host : Option String) (now : Int) :
    Ensures (assignBinding svc out entry.allocation (entry.assigned targetPort host now))
      (fun result w' => exists table', Shows w'.db table' ∧
        Assigns svc out id (entry.bound targetPort host now)
          (entry.bound targetPort host now).allocation (w.standing table)
          (w'.standing table') result) w := by
  have hshows := h.bound hentry targetPort host now
  unfold assignBinding
  rw [ensures_bind]
  apply ensures_write hrepository rfl
  simp only [continues_ok, ensures_bind, ensures_readFailpoints]
  split
  · rename_i htimeout
    have hfalse : w.failpoints.updateTimeout = true := htimeout
    rw [hfailpoints] at hfalse
    cases hfalse
  · simp only [ensures_bind, ensures_callRuntime, continues_ok]
    apply ensures_orRuntimeError
    · intro error hanswer
      exact ⟨_, hshows, assigns_of_answer hanswer rfl rfl⟩
    · intro _ hanswer
      exact ⟨_, hshows, assigns_of_answer hanswer rfl rfl⟩

theorem putBinding_puts (hrepository : forall call, out.repository call = none)
    (hids : Function.Injective out.newId) (h : Ready out w table) (id host : String)
    (targetPort : UInt16) :
    Ensures (putBinding svc out id host targetPort)
      (fun result w' => exists table', Ready out w' table' ∧
        Puts svc out id host targetPort (w.standing table) (w'.standing table') result) w := by
  apply h.moves hrepository hids (putBinding_effects id host targetPort w)
  unfold putBinding Puts
  cases parseIpLiteral host with
  | error _ => exact ⟨table, h.shows, rfl, rfl⟩
  | ok _ =>
      rw [ensures_bind]
      apply ensures_read hrepository (h.shows.joined id)
      simp only [World.standing]
      cases hentry : table id with
      | none => exact ⟨table, h.shows, rfl, rfl⟩
      | some entry =>
          simp only [continues_ok, Option.map_some, ensures_bind, ensures_currentTimeMs]
          have hid := h.shows.id_eq hentry
          subst hid
          refine ensures_mono ?_ (assignBinding_assigns (w := w.afterCall.afterCall) hrepository
            h.shows h.failpoints hentry targetPort (some host) (out.clock w.afterCall.calls))
          intro result w' hassigns
          rcases hassigns with ⟨table', hshows, hassigns⟩
          have hreturned := hassigns.map (entry.assigned targetPort (some host)
            (out.clock w.afterCall.calls))
          cases result with
          | ok updated => exact ⟨table', hshows, hreturned⟩
          | error error => exact ⟨table', hshows, hreturned⟩

theorem updateAllocation_updates (hrepository : forall call, out.repository call = none)
    (hids : Function.Injective out.newId) (h : Ready out w table) (id : String)
    (targetPort : Option UInt16) (host : Option String) :
    Ensures (updateAllocation svc out id targetPort host)
      (fun result w' => exists table', Ready out w' table' ∧
        Updates svc out id targetPort host (w.standing table) (w'.standing table') result) w := by
  apply h.moves hrepository hids (updateAllocation_effects id targetPort host w)
  have hjoined := h.shows.joined id
  unfold updateAllocation Updates
  rw [ensures_bind]
  apply ensures_read hrepository hjoined
  simp only [World.standing]
  cases hentry : table id with
  | none => exact ⟨table, h.shows, rfl, rfl⟩
  | some entry =>
      rw [hentry] at hjoined
      have hkept := (target_of_getAllocationWithBinding hjoined).right
      have hid := h.shows.id_eq hentry
      subst hid
      simp only [continues_ok, Option.map_some]
      split
      · cases hresolved : targetPort.or (entry.binding.map Binding.targetPort) with
        | none => exact ⟨table, h.shows, rfl, rfl⟩
        | some resolved =>
          simp only [ensures_bind, ensures_currentTimeMs, continues_ok]
          rw [Option.or_assoc, hkept]
          refine ensures_mono ?_ (assignBinding_assigns (w := w.afterCall.afterCall)
            hrepository h.shows h.failpoints hentry resolved (host.or entry.allocation.host)
            (out.clock w.afterCall.calls))
          intro result w' hassigns
          rcases hassigns with ⟨table', hshows, hassigns⟩
          exact ⟨table', hshows, hassigns⟩
      · exact ⟨table, h.shows, rfl, rfl⟩

theorem Shows.unbound (h : Shows w.db table) {id : String} {entry : Entry}
    (hentry : table id = some entry) {binding : Binding} (hbinding : entry.binding = some binding)
    (now : Int) :
    Shows (Storage.deleteBinding id now w.db).2
      (Function.update table id (some (entry.unbound now))) := by
  have hjoined := h.joined id
  rw [hentry, Option.map_some, hbinding] at hjoined
  rcases findBinding_of_getAllocationWithBinding hjoined with ⟨row, hrow⟩
  apply h.moves
  · exact getAllocation_deleteBinding_self hrow
      (getAllocation_of_getAllocationWithBinding hjoined)
  · have hnone : findBinding id (Storage.deleteBinding id now w.db).2 = none := by
      rw [deleteBinding_snd hrow, findBinding_updateTargetColumns,
        findBinding_deleteBindingRows, if_pos rfl]
    rw [getBinding_eq_ok, hnone]
    exact Option.Rel.none
  · intro other hother
    refine ⟨getAllocation_deleteBinding_of_ne hrow hother, getBinding_congr ?_⟩
    rw [deleteBinding_snd hrow, findBinding_updateTargetColumns,
      findBinding_deleteBindingRows, if_neg hother]

theorem deleteBinding_unbinds (hrepository : forall call, out.repository call = none)
    (hids : Function.Injective out.newId) (h : Ready out w table) (id : String) :
    Ensures (deleteBinding svc out id)
      (fun result w' => exists table', Ready out w' table' ∧
        Unbinds svc out id (w.standing table) (w'.standing table') result) w := by
  apply h.moves hrepository hids (deleteBinding_effects id w)
  have hjoined := h.shows.joined id
  unfold deleteBinding Unbinds
  rw [ensures_bind]
  apply ensures_read hrepository hjoined
  simp only [World.standing]
  cases hentry : table id with
  | none => exact ⟨table, h.shows, rfl, rfl⟩
  | some entry =>
      simp only [continues_ok, Option.map_some]
      cases hbinding : entry.binding with
      | none => exact ⟨table, h.shows, rfl, rfl⟩
      | some binding =>
          simp only [ensures_bind, ensures_currentTimeMs, continues_ok, Option.isSome_some,
            if_true]
          rw [hentry, Option.map_some, hbinding] at hjoined
          rcases findBinding_of_getAllocationWithBinding hjoined with ⟨row, hrow⟩
          have hshows := h.shows.unbound hentry hbinding (out.clock w.afterCall.calls)
          have hchanged : (Storage.deleteBinding id (out.clock w.afterCall.calls)
              w.afterCall.afterCall.db).1 = true := deleteBinding_fst hrow
          refine ensures_write hrepository rfl ?_
          simp only [hchanged, continues_ok, if_true, ensures_bind, ensures_readFailpoints]
          split
          · rename_i htimeout
            have hfalse : w.failpoints.updateTimeout = true := htimeout
            rw [h.failpoints] at hfalse
            cases hfalse
          · simp only [ensures_bind, ensures_callRuntime, continues_ok]
            apply ensures_orRuntimeError
            · intro error hanswer
              exact ⟨_, hshows, assigns_of_answer hanswer rfl rfl⟩
            · intro _ hanswer
              exact ⟨_, hshows, assigns_of_answer hanswer rfl rfl⟩

theorem Shows.deleted (h : Shows w.db table) (id : String) :
    Shows (Storage.deleteAllocation id w.db).2 (Function.update table id none) := by
  apply h.moves
  · exact getAllocation_deleteAllocation_self id w.db
  · have hnone : findBinding id (Storage.deleteAllocation id w.db).2 = none := by
      rw [deleteAllocation_snd, findBinding_deleteAllocationRows,
        findBinding_deleteBindingRows, if_pos rfl]
    rw [getBinding_eq_ok, hnone]
    exact Option.Rel.none
  · intro other hother
    refine ⟨getAllocation_deleteAllocation_of_ne hother, getBinding_congr ?_⟩
    rw [deleteAllocation_snd, findBinding_deleteAllocationRows,
      findBinding_deleteBindingRows, if_neg hother]

theorem releases_error {id : String} {asked : Except RuntimeError Unit × Standing rt}
    {error : RuntimeError} (h : asked.1 = .error error) :
    Releases id asked.2 (.error (.runtime error)) asked := by
  rcases asked with ⟨answered, s⟩
  cases h
  exact ⟨rfl, rfl⟩

theorem releases_ok {id : String} {asked : Except RuntimeError Unit × Standing rt}
    (h : asked.1 = .ok ()) :
    Releases id ((asked.2.later 1).holding id none) (.ok ()) asked := by
  rcases asked with ⟨answered, s⟩
  cases h
  exact ⟨rfl, rfl⟩

theorem deleteAllocation_deletes (hrepository : forall call, out.repository call = none)
    (hids : Function.Injective out.newId) (h : Ready out w table) (id : String) :
    Ensures (deleteAllocation svc out id)
      (fun result w' => exists table', Ready out w' table' ∧
        Deletes svc out id (w.standing table) (w'.standing table') result) w := by
  apply h.moves hrepository hids (deleteAllocation_effects id w)
  unfold deleteAllocation Deletes
  rw [ensures_bind]
  apply ensures_read hrepository (h.shows.allocation id)
  simp only [World.standing]
  cases hentry : table id with
  | none => exact ⟨table, h.shows, rfl, rfl⟩
  | some entry =>
      have hrow : exists row, findAllocation id w.db = some row := by
        cases hfind : findAllocation id w.db with
        | some row => exact ⟨row, rfl⟩
        | none =>
            rw [h.shows.find_none.mpr hfind] at hentry
            cases hentry
      rcases hrow with ⟨row, hrow⟩
      simp only [continues_ok, Option.map_some, ensures_bind, ensures_readFailpoints]
      split
      · rename_i htimeout
        have hfalse : w.failpoints.deleteTimeout = true := htimeout
        rw [h.failpoints] at hfalse
        cases hfalse
      · simp only [ensures_bind, ensures_callRuntime, continues_ok]
        apply ensures_orRuntimeError
        · intro error hanswer
          exact ⟨table, h.shows, releases_error hanswer⟩
        · intro _ hanswer
          simp only [continues_ok, ensures_bind, ensures_readFailpoints]
          split
          · rename_i hfailure
            have hfalse : w.failpoints.deleteDbFailure = true := hfailure
            rw [h.failpoints] at hfalse
            cases hfalse
          · rw [ensures_bind]
            refine ensures_write hrepository rfl ?_
            have hremoved : (Storage.deleteAllocation id w.afterCall.db).1 = true :=
              deleteAllocation_fst hrow
            simp only [hremoved, continues_ok, if_true]
            exact ⟨_, h.shows.deleted id, releases_ok hanswer⟩

theorem freePort_iff_free (h : Ready out w table) {protocol : Protocol} {port : UInt16} :
    FreePort protocol w.db port <-> table.Free protocol port := by
  -- A row and the entry under its id tell the same protocol and the same port.
  have hsame : forall row entry, row ∈ w.db.allocations -> table row.id = some entry ->
      occupies protocol row = conflictsWith protocol entry.allocation.protocol ∧
        row.port = i32FromU16 entry.allocation.port := by
    intro row entry hrow hentry
    have hget := h.shows.allocation row.id
    rw [hentry] at hget
    rcases getAllocation_eq_some.mp hget with ⟨found, hfound, hhydrates⟩
    rw [findAllocation_of_mem hrow] at hfound
    cases hfound
    rcases h.exclusive.written row hrow with ⟨held, hheld⟩
    have hprotocol := hhydrates.protocol
    rw [hheld, Protocol.fromStr_asStr] at hprotocol
    cases hprotocol
    exact ⟨occupies_asStr protocol _ hheld, hhydrates.port.symm⟩
  constructor
  · intro hfree id entry hentry hconflict hport
    cases hfind : findAllocation id w.db with
    | none =>
        rw [h.shows.find_none.mpr hfind] at hentry
        cases hentry
    | some row =>
        rcases findAllocation_some hfind with ⟨hrow, hid⟩
        rw [← hid] at hentry
        rcases hsame row entry hrow hentry with ⟨hoccupies, hrowPort⟩
        rw [← hoccupies] at hconflict
        rw [hport] at hrowPort
        exact hfree row hrow hconflict hrowPort
  · intro hfree row hrow hoccupies hport
    rcases h.shows.row hrow with ⟨entry, hentry⟩
    rcases hsame row entry hrow hentry with ⟨hconflict, hrowPort⟩
    rw [hconflict] at hoccupies
    rw [hrowPort] at hport
    exact hfree row.id entry hentry hoccupies (i32FromU16_inj.mp hport)

theorem Shows.created (h : Shows w.db table) {allocation : Allocation} {db : Database}
    (hunbound : allocation.host = none) (hpersist : persistCreated allocation w.db = .ok db) :
    Shows db (Function.update table allocation.id (some (.created allocation))) := by
  rcases persistCreated_inserted hpersist with ⟨row, bindings, hinserted, htarget⟩
  have hnone := h.owned _ hinserted.findAllocation_fresh
  apply h.moves
  · exact getAllocation_persistCreated_self hunbound hnone hpersist
  · have hstored : findBinding allocation.id db =
        bindings.find? (fun binding => decide (binding.allocationId = allocation.id)) := by
      unfold findBinding at hnone ⊢
      rw [hinserted.bindings, List.find?_append, hnone]
      rfl
    rw [getBinding_eq_ok, hstored]
    unfold Entry.created
    cases hport : allocation.targetPort with
    | none =>
        rw [hport] at htarget
        rw [htarget.right]
        exact Option.Rel.none
    | some targetPort =>
        rw [hport] at htarget
        rw [htarget.right]
        simp only [List.find?_cons, decide_true, Option.map_some, Option.bind_some]
        exact Option.Rel.some ⟨rfl, rfl, rfl, rfl, rfl⟩
  · intro other hother
    exact readsSame_persistCreated hother hpersist

/-- An attempt is the proposal of its round. -/
theorem Attempt.propose_eq {protocol : Protocol} {targetPort : Option UInt16} {start : UInt16}
    {allocation : Allocation} {created : Except RuntimeError Unit} {runtime : rt}
    (h : Attempt svc out protocol targetPort start w allocation created runtime)
    (table : Table) :
    allocation = (w.standing table).proposal out protocol targetPort allocation.port ∧
      (w.standing table).propose svc out protocol targetPort allocation.port =
        (created, ⟨table, runtime, w.calls + 4⟩) := by
  have hsame : allocation =
      (w.standing table).proposal out protocol targetPort allocation.port := by
    rcases allocation with ⟨id, protocol', port, targetPort', host, createdAtMs, updatedAtMs⟩
    have hid := h.id_eq
    have hprotocol := h.protocol_eq
    have htarget := h.targetPort_eq
    have hhost := h.unbound
    have hcreatedAt := h.createdAtMs_eq
    have hupdatedAt := h.updatedAtMs_eq
    dsimp only at hid hprotocol htarget hhost hcreatedAt hupdatedAt
    subst hid hprotocol htarget hhost hcreatedAt hupdatedAt
    rfl
  constructor
  · exact hsame
  · have hcreate := h.create_eq
    unfold Standing.propose
    rw [← hsame]
    show ((svc.runtime.create (out.runtime (w.calls + 3)) allocation svc.applyTimeoutMs
      w.runtime).1, _) = _
    rw [hcreate]
    show (created, (⟨table, (svc.runtime.create (out.runtime (w.calls + 3)) allocation
      svc.applyTimeoutMs w.runtime).2, w.calls + 4⟩ : Standing rt)) = _
    rw [hcreate]

/-- The ports that are turned down before the loop asks for `nextPort` and above. -/
abbrev Passed (svc : Service rt answer) (table : Table) (protocol : Protocol)
    (nextPort : Option UInt16) (ports : List UInt16) : Prop :=
  FreeBelow svc table protocol
    (fun port => forall start, nextPort = some start -> port < start) ports

theorem FreeBelow.congr {protocol : Protocol} {below below' : UInt16 -> Prop}
    {ports : List UInt16} (h : FreeBelow svc table protocol below ports)
    (hsame : forall port, svc.portRange.start ≤ port -> port ≤ svc.portRange.end ->
      table.Free protocol port -> (below port <-> below' port)) :
    FreeBelow svc table protocol below' ports := by
  refine ⟨h.ascending, ?_⟩
  intro port
  rw [h.exact port]
  constructor
  · intro hport
    rcases hport with ⟨hrange, hbelow, hfree⟩
    exact ⟨hrange, (hsame port hrange.left hrange.right hfree).mp hbelow, hfree⟩
  · intro hport
    rcases hport with ⟨hrange, hbelow, hfree⟩
    exact ⟨hrange, (hsame port hrange.left hrange.right hfree).mpr hbelow, hfree⟩

/-- What a round settles on is the lowest free port that has not been passed. -/
theorem Attempt.below {protocol : Protocol} {targetPort : Option UInt16} {start : UInt16}
    {allocation : Allocation} {created : Except RuntimeError Unit} {runtime : rt}
    {ports : List UInt16}
    (hattempt : Attempt svc out protocol targetPort start w allocation created runtime)
    (h : Ready out w table) (hports : Passed svc table protocol (some start) ports) :
    FreeBelow svc table protocol (fun port => port < allocation.port) ports := by
  rcases hattempt.free with ⟨_, hsome, hrange, _⟩
  cases hsome
  apply hports.congr
  intro port _ hend hfree
  constructor
  · intro hstart
    exact UInt16.lt_of_lt_of_le (hstart start rfl) hrange.left
  · rintro hlt _ ⟨⟩
    apply UInt16.not_le.mp
    intro hle
    have hleast := hattempt.least port ⟨start, rfl, ⟨hle, hend⟩, (freePort_iff_free h).mpr hfree⟩
    exact absurd hlt (UInt16.not_lt.mpr hleast)

/-- Only the port itself is not below its successor, be there one or not. -/
theorem eq_of_checkedSucc {port tried : UInt16} (hle : tried ≤ port)
    (hnext : forall next, checkedSucc tried = some next -> port < next) : port = tried := by
  have hle' := UInt16.le_iff_toNat_le.mp hle
  have hlt : port.toNat < 65536 := port.toNat_lt
  apply UInt16.toNat_inj.mp
  cases hsucc : checkedSucc tried with
  | some next =>
      have hbelow := UInt16.lt_iff_toNat_lt.mp (hnext next hsucc)
      rw [toNat_checkedSucc hsucc] at hbelow
      lia
  | none =>
      unfold checkedSucc at hsucc
      split at hsucc
      · cases hsucc
      · lia

/-- With the port of a round the free ports up to it have been passed. -/
theorem Attempt.passed {protocol : Protocol} {targetPort : Option UInt16} {start : UInt16}
    {allocation : Allocation} {created : Except RuntimeError Unit} {runtime : rt}
    {ports : List UInt16}
    (hattempt : Attempt svc out protocol targetPort start w allocation created runtime)
    (hlow : svc.portRange.start ≤ start) (h : Ready out w table)
    (hports : Passed svc table protocol (some start) ports) :
    Passed svc table protocol (checkedSucc allocation.port) (ports ++ [allocation.port]) := by
  have hbelow := hattempt.below h hports
  have hcandidate := hattempt.candidate hlow
  have hfree : table.Free protocol allocation.port := by
    rcases hattempt.free with ⟨_, _, _, hfree⟩
    exact (freePort_iff_free h).mp hfree
  have hsucc : forall next, checkedSucc allocation.port = some next ->
      allocation.port < next := by
    intro next hnext
    have hnat := toNat_checkedSucc hnext
    rw [UInt16.lt_iff_toNat_lt]
    lia
  constructor
  · rw [List.pairwise_append]
    refine ⟨hbelow.ascending, List.pairwise_singleton _ _, ?_⟩
    intro port hport other hother
    cases List.mem_singleton.mp hother
    exact ((hbelow.exact port).mp hport).2.1
  · intro port
    rw [List.mem_append, hbelow.exact port, List.mem_singleton]
    constructor
    · intro hport
      rcases hport with ⟨hrange, hlt, hfree⟩ | rfl
      · exact ⟨hrange, fun next hnext => UInt16.lt_trans hlt (hsucc next hnext), hfree⟩
      · exact ⟨hcandidate.inRange, hsucc, hfree⟩
    · intro hport
      rcases hport with ⟨hrange, hnext, hfree⟩
      by_cases hlt : port < allocation.port
      · exact Or.inl ⟨hrange, hlt, hfree⟩
      · exact Or.inr (eq_of_checkedSucc (UInt16.not_lt.mp hlt) hnext)

theorem createLoop_creates (hrepository : forall call, out.repository call = none)
    (protocol : Protocol) (targetPort : Option UInt16) (before : Standing rt) :
    forall (fuel : Nat) (nextPort : Option UInt16) (hfuel : remainingPorts nextPort ≤ fuel)
      (w : World rt) (ports : List UInt16), Ready out w before.table ->
      (forall start, nextPort = some start -> svc.portRange.start ≤ start) ->
      TurnsDown svc out protocol targetPort before ports (w.standing before.table) ->
      Passed svc before.table protocol nextPort ports ->
      Ensures (createLoop svc out protocol targetPort fuel nextPort hfuel)
        (fun result w' => exists table', Shows w'.db table' ∧
          Creates svc out protocol targetPort before (w'.standing table') result) w := by
  intro fuel
  -- On the ports that are left; a round that is turned down adds its port to `ports`.
  induction fuel with
  | zero =>
      intro nextPort hfuel w ports h _ hturned hports
      cases nextPort with
      | none =>
          refine ⟨before.table, h.shows, ports, _, hturned, hports.congr ?_, Or.inl rfl⟩
          intro port _ _ _
          simp
      | some start => exact absurd hfuel (not_remainingPorts_some_le_zero start)
  | succ fuel ih =>
      intro nextPort hfuel w ports h hstart hturned hports
      cases nextPort with
      | none =>
          refine ⟨before.table, h.shows, ports, _, hturned, hports.congr ?_, Or.inl rfl⟩
          intro port _ _ _
          simp
      | some start =>
          have hlow : svc.portRange.start ≤ start := hstart start rfl
          have hsettles : forall {allocation created runtime},
              Attempt svc out protocol targetPort start w allocation created runtime ->
              Settles svc out protocol targetPort before (w.standing before.table)
                allocation.port := by
            intro allocation created runtime hattempt
            constructor
            · exact (hattempt.candidate hlow).inRange
            · rcases hattempt.free with ⟨_, _, _, hfree⟩
              exact (freePort_iff_free h).mp hfree
            · exact ⟨ports, hturned, hattempt.below h hports⟩
          apply ensures_createLoop_succ
          · intro error hfails
            exact absurd hfails (not_repositoryFails hrepository)
          · intro hnone
            refine ⟨before.table, h.shows, ports, _, hturned, hports.congr ?_, Or.inr rfl⟩
            intro port _ hend hfree
            rw [iff_true]
            rintro _ ⟨⟩
            apply UInt16.not_le.mp
            intro hle
            exact hnone port ⟨start, rfl, ⟨hle, hend⟩, (freePort_iff_free h).mpr hfree⟩
          · intro allocation runtime hattempt
            have hpropose := (hattempt.propose_eq before.table).right
            have hnext : TurnsDown svc out protocol targetPort before
                (ports ++ [allocation.port]) ((w.standing before.table).propose svc out protocol
                  targetPort allocation.port).2 :=
              hturned.next (by rw [hpropose])
            rw [hpropose] at hnext
            refine ih _ _ _ _ ?_ ?_ hnext (hattempt.passed hlow h hports)
            · exact ⟨h.shows, h.fresh.calls (Nat.le_add_right _ _), h.failpoints, h.exclusive⟩
            · intro next hsucc
              exact hattempt.le_checkedSucc hlow hsucc
          · intro allocation error runtime herror hattempt
            exact ⟨before.table, h.shows, herror, allocation.port, _, hsettles hattempt,
              (hattempt.propose_eq before.table).right⟩
          · intro allocation runtime error db hattempt hfails
            rcases h.fresh _ (Nat.le_add_right w.calls 2) with ⟨hrow, hbinding⟩
            rw [← hattempt.id_eq] at hrow hbinding
            rcases persistCreated_of_fresh (hattempt.candidate hlow) hrow hbinding with
              ⟨_, hpersist⟩
            rcases hfails with ⟨⟨_, herror⟩, _⟩ | ⟨fault, hfault, _⟩
            · rw [hpersist] at herror
              cases herror
            · rw [hrepository] at hfault
              cases hfault
          · intro allocation runtime db hattempt hpersist
            rcases hattempt.propose_eq before.table with ⟨hproposal, hpropose⟩
            rcases persistCreated_inserted hpersist with ⟨_, _, hinserted, _⟩
            refine ⟨_, h.shows.created hattempt.unbound hpersist, allocation.port, _,
              hsettles hattempt, hproposal, ?_, ?_, ?_⟩
            · exact h.shows.find_none.mpr hinserted.findAllocation_fresh
            · rw [hpropose]
            · rw [hpropose]
              rfl

theorem createAllocation_creates (hrepository : forall call, out.repository call = none)
    (hids : Function.Injective out.newId) (h : Ready out w table) (protocol : Protocol)
    (targetPort : Option UInt16) :
    Ensures (createAllocation svc out protocol targetPort)
      (fun result w' => exists table', Ready out w' table' ∧
        Creates svc out protocol targetPort (w.standing table) (w'.standing table') result)
      w := by
  apply h.moves hrepository hids (createAllocation_effects protocol targetPort w)
  unfold createAllocation
  simp only [ensures_bind, ensures_readFailpoints, continues_ok]
  split
  · rename_i htimeout
    rw [h.failpoints] at htimeout
    cases htimeout
  · apply createLoop_creates hrepository protocol targetPort (w.standing table) _ _ _ w [] h
    · intro start hstart
      cases hstart
      exact UInt16.le_refl _
    · exact .none
    · refine ⟨List.Pairwise.nil, ?_⟩
      intro port
      simp only [List.not_mem_nil, false_iff]
      intro hport
      rcases hport with ⟨hrange, hlt, _⟩
      exact absurd hrange.left (UInt16.not_le.mpr (hlt _ rfl))

/-!
# The reads
-/

theorem Ready.afterCall (h : Ready out w table) : Ready out w.afterCall table :=
  ⟨h.shows, h.fresh.calls (Nat.le_succ _), h.failpoints, h.exclusive⟩

theorem listAllocationResources_lists (hrepository : forall call, out.repository call = none)
    (h : Ready out w table) :
    Ensures (listAllocationResources out) (fun result w' => Ready out w' table ∧
      w' = w.afterCall ∧ exists allocations, Lists table allocations ∧
        result = .ok (allocations.map allocationResource)) w := by
  rcases h.shows.lists with ⟨allocations, hlist, hlists⟩
  unfold listAllocationResources
  rw [ensures_bind]
  exact ensures_read hrepository hlist ⟨h.afterCall, rfl, allocations, hlists, rfl⟩

theorem getAllocationResource_gets (hrepository : forall call, out.repository call = none)
    (h : Ready out w table) (id : String) :
    Ensures (getAllocationResource out id) (fun result w' => Ready out w' table ∧
      w' = w.afterCall ∧
      result = .ok ((table id).map (fun entry => allocationResource entry.allocation))) w := by
  unfold getAllocationResource
  rw [ensures_bind]
  apply ensures_read hrepository (h.shows.allocation id)
  refine ⟨h.afterCall, rfl, ?_⟩
  cases table id <;> rfl

/-- What is stored beside what the runtime observes, or the error it answers with. -/
def viewed {view : Type} (svc : Service rt answer) (runtime : rt) (id : String)
    (viewOf : Option ObservedState -> view) : Except ServiceError view :=
  ((svc.runtime.snapshot id runtime).map viewOf).mapError .runtime

theorem ensures_snapshot {id : String}
    {post : Except ServiceError (Option ObservedState) -> World rt -> Prop}
    (hanswer : post ((svc.runtime.snapshot id w.runtime).mapError .runtime) w) :
    Ensures (snapshot svc id) post w := by
  unfold snapshot
  simp only [ensures_bind, ensures_act, continues_ok]
  apply ensures_orRuntimeError
  · intro error herror
    rw [herror] at hanswer
    exact hanswer
  · intro observed hobserved
    rw [hobserved] at hanswer
    exact hanswer

theorem allocationViewFor_views (allocation : Allocation) :
    Ensures (allocationViewFor svc allocation) (fun result w' => w' = w ∧
      result = viewed svc w.runtime allocation.id (allocationView allocation)) w := by
  unfold allocationViewFor viewed
  rw [ensures_bind]
  apply ensures_snapshot
  cases svc.runtime.snapshot allocation.id w.runtime with
  | error error => exact ⟨rfl, rfl⟩
  | ok observed => exact ⟨rfl, rfl⟩

theorem bindingViewFor_views (binding : Binding) :
    Ensures (bindingViewFor svc binding) (fun result w' => w' = w ∧
      result = viewed svc w.runtime binding.allocationId (bindingView binding)) w := by
  unfold bindingViewFor viewed
  rw [ensures_bind]
  apply ensures_snapshot
  cases svc.runtime.snapshot binding.allocationId w.runtime with
  | error error => exact ⟨rfl, rfl⟩
  | ok observed => exact ⟨rfl, rfl⟩

/-- One view for each allocation, or the first error. -/
def viewedEach (svc : Service rt answer) (runtime : rt) :
    List Allocation -> Except ServiceError (List AllocationView)
  | [] => .ok []
  | allocation :: rest => do
      let view <- viewed svc runtime allocation.id (allocationView allocation)
      let views <- viewedEach svc runtime rest
      pure (view :: views)

theorem viewEach_views (allocations : List Allocation) :
    Ensures (viewEach svc allocations)
      (fun result w' => w' = w ∧ result = viewedEach svc w.runtime allocations) w := by
  induction allocations with
  | nil => exact ⟨rfl, rfl⟩
  | cons allocation rest ih =>
      unfold viewEach viewedEach
      rw [ensures_bind]
      refine ensures_mono ?_ (allocationViewFor_views allocation)
      rintro result w' ⟨rfl, rfl⟩
      cases viewed svc w'.runtime allocation.id (allocationView allocation) with
      | error error => exact ⟨rfl, rfl⟩
      | ok view =>
          rw [continues_ok, ensures_bind]
          refine ensures_mono ?_ ih
          rintro results w'' ⟨rfl, rfl⟩
          cases viewedEach svc w''.runtime rest with
          | error error => exact ⟨rfl, rfl⟩
          | ok views => exact ⟨rfl, rfl⟩

theorem listAllocations_views (hrepository : forall call, out.repository call = none)
    (h : Ready out w table) :
    Ensures (svc.listAllocations out) (fun result w' => Ready out w' table ∧
      w' = w.afterCall ∧ exists allocations, Lists table allocations ∧
        result = viewedEach svc w.runtime allocations) w := by
  rcases h.shows.lists with ⟨allocations, hlist, hlists⟩
  unfold Service.listAllocations
  rw [ensures_bind]
  apply ensures_read hrepository hlist
  rw [continues_ok]
  refine ensures_mono ?_ (viewEach_views allocations)
  rintro result w' ⟨rfl, hviews⟩
  exact ⟨h.afterCall, rfl, allocations, hlists, hviews⟩

theorem getBindingView_views (hrepository : forall call, out.repository call = none)
    (h : Ready out w table) (id : String) :
    Ensures (getBindingView svc out id) (fun result w' => Ready out w' table ∧
      w' = w.afterCall ∧
      result = match (table id).bind Entry.binding with
        | none => .ok none
        | some binding => (viewed svc w.runtime binding.allocationId
            (bindingView binding)).map some) w := by
  unfold getBindingView
  rw [ensures_bind]
  apply ensures_read hrepository (h.shows.binding id)
  rw [continues_ok]
  cases (table id).bind Entry.binding with
  | none => exact ⟨h.afterCall, rfl, rfl⟩
  | some binding =>
      simp only [ensures_bind]
      refine ensures_mono ?_ (bindingViewFor_views binding)
      rintro result w' ⟨rfl, rfl⟩
      show Continues _ _ (viewed svc w.runtime binding.allocationId (bindingView binding)) _
      cases viewed svc w.runtime binding.allocationId (bindingView binding) with
      | error error => exact ⟨h.afterCall, rfl, rfl⟩
      | ok view => exact ⟨h.afterCall, rfl, rfl⟩

end Operations

end Service
end Relayd
