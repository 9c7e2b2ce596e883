import Mathlib.Data.List.Dedup
import Mathlib.Order.Bounds.Defs
import Relayd.Storage.Sqlite

/-!
# Finding a free port

The scan looks at the start of the range and at the successors of occupied
ports only, and takes the least of them that is not occupied itself.  Which rows
occupy a port depends on the requested protocol: the three queries differ in
their filter and in nothing else.
-/

namespace Relayd
namespace Storage

def occupies (requested : Protocol) (row : AllocationRow) : Bool :=
  match requested with
  | .tcp => row.protocol = "tcp" || row.protocol = "both"
  | .udp => row.protocol = "udp" || row.protocol = "both"
  | .both => true

def occupiedPorts (requested : Protocol) (start «end» : Int)
    (rows : List AllocationRow) : List Int :=
  (((rows.filter (occupies requested)).map AllocationRow.port).filter
    (fun port => start ≤ port ∧ port ≤ «end»)).dedup

def candidatePorts (start «end» : Int) (occupied : List Int) : List Int :=
  (if start ≤ «end» then [start] else []) ++
    (occupied.filter (fun port => port < «end»)).map (fun port => port + 1)

def firstFreePort (requested : Protocol) (start «end» : Int)
    (rows : List AllocationRow) : Option Int :=
  let occupied := occupiedPorts requested start «end» rows
  ((candidatePorts start «end» occupied).filter
    (fun port => port ∉ occupied)).min?

theorem mem_occupiedPorts {requested : Protocol} {start «end» port : Int}
    {rows : List AllocationRow} :
    port ∈ occupiedPorts requested start «end» rows <->
      (exists row, row ∈ rows ∧ occupies requested row = true ∧
        row.port = port) ∧ start ≤ port ∧ port ≤ «end» := by
  simp [occupiedPorts, and_assoc]

theorem mem_candidatePorts {start «end» port : Int} {occupied : List Int} :
    port ∈ candidatePorts start «end» occupied <->
      (start ≤ «end» ∧ port = start) ∨
        exists previous, previous ∈ occupied ∧ previous < «end» ∧
          previous + 1 = port := by
  unfold candidatePorts
  split <;> simp_all [and_assoc]

/-- A candidate never leaves the scanned range. -/
theorem candidatePorts_inRange {requested : Protocol} {start «end» port : Int}
    {rows : List AllocationRow}
    (h : port ∈ candidatePorts start «end»
      (occupiedPorts requested start «end» rows)) :
    start ≤ port ∧ port ≤ «end» := by
  rcases mem_candidatePorts.mp h with ⟨hle, hport⟩ | ⟨previous, hprev, hlt, hport⟩
  · exact ⟨le_of_eq hport.symm, hport ▸ hle⟩
  · have hrange := (mem_occupiedPorts.mp hprev).right
    lia

theorem firstFreePort_some {requested : Protocol} {start «end» port : Int}
    {rows : List AllocationRow}
    (h : firstFreePort requested start «end» rows = some port) :
    (start ≤ port ∧ port ≤ «end») ∧
      forall row, row ∈ rows -> occupies requested row = true ->
        row.port ≠ port := by
  unfold firstFreePort at h
  have hmem := List.min?_mem h
  rcases List.mem_filter.mp hmem with ⟨hcandidate, hfree⟩
  have hrange := candidatePorts_inRange hcandidate
  refine ⟨hrange, ?_⟩
  intro row hrow hocc hport
  have hoccupied : port ∈ occupiedPorts requested start «end» rows :=
    mem_occupiedPorts.mpr ⟨⟨row, hrow, hocc, hport⟩, hrange⟩
  exact of_decide_eq_true hfree hoccupied

/-- Below every free port of the range there is a candidate that is free: going down
from the port, the first free one stands at the start or right above an occupied one. -/
theorem exists_free_candidate {requested : Protocol} {start «end» port : Int}
    {rows : List AllocationRow} (hstart : start ≤ port) (hend : port ≤ «end»)
    (hfree : port ∉ occupiedPorts requested start «end» rows) :
    exists candidate, candidate ≤ port ∧
      candidate ∈ candidatePorts start «end» (occupiedPorts requested start «end» rows) ∧
      candidate ∉ occupiedPorts requested start «end» rows := by
  induction hdistance : (port - start).toNat generalizing port with
  | zero =>
      have hport : port = start := by lia
      exact ⟨port, le_refl _, mem_candidatePorts.mpr (Or.inl ⟨by lia, hport⟩), hfree⟩
  | succ distance ih =>
      by_cases hbelow : port - 1 ∈ occupiedPorts requested start «end» rows
      · refine ⟨port, le_refl _, mem_candidatePorts.mpr (Or.inr ?_), hfree⟩
        exact ⟨port - 1, hbelow, by lia, by lia⟩
      · obtain ⟨candidate, hle, hmem, hout⟩ :=
          ih (show start ≤ port - 1 by lia) (by lia) hbelow (by lia)
        exact ⟨candidate, by lia, hmem, hout⟩

theorem firstFreePort_le {requested : Protocol} {start «end» port : Int}
    {rows : List AllocationRow} (hstart : start ≤ port) (hend : port ≤ «end»)
    (hfree : forall row, row ∈ rows -> occupies requested row = true -> row.port ≠ port) :
    exists first, firstFreePort requested start «end» rows = some first ∧ first ≤ port := by
  have hout : port ∉ occupiedPorts requested start «end» rows := by
    intro hmem
    obtain ⟨⟨row, hrow, hocc, hport⟩, _⟩ := mem_occupiedPorts.mp hmem
    exact hfree row hrow hocc hport
  obtain ⟨candidate, hle, hmem, hcandidate⟩ := exists_free_candidate hstart hend hout
  have hlisted : candidate ∈ (candidatePorts start «end»
      (occupiedPorts requested start «end» rows)).filter
        (fun port => port ∉ occupiedPorts requested start «end» rows) :=
    List.mem_filter.mpr ⟨hmem, decide_eq_true hcandidate⟩
  unfold firstFreePort
  simp only
  cases hmin : ((candidatePorts start «end»
      (occupiedPorts requested start «end» rows)).filter
        (fun port => port ∉ occupiedPorts requested start «end» rows)).min? with
  | none =>
      rw [List.min?_eq_none_iff.mp hmin] at hlisted
      cases hlisted
  | some first =>
      have hfirst := (List.min?_eq_some_iff.mp hmin).2 candidate hlisted
      exact ⟨first, rfl, le_trans hfirst hle⟩

/-!
# Ports as columns
-/

theorem portFromI32_i32FromU16 (field : String) (port : UInt16) :
    portFromI32 field (i32FromU16 port) = .ok port := by
  have hlt : port.toNat < 65536 := port.toNat_lt
  have hneg : ¬ ((port.toNat : Int) < 0) := by lia
  have hbound : (port.toNat : Int) < 65536 := by lia
  simp [portFromI32, i32FromU16, hneg, hbound]

theorem portFromI32_ok {field : String} {value : Int} {port : UInt16}
    (h : portFromI32 field value = .ok port) : i32FromU16 port = value := by
  unfold portFromI32 at h
  split at h
  · cases h
  · split at h
    · cases h
      simp only [i32FromU16, UInt16.toNat_ofNat']
      lia
    · cases h

theorem portFromI32_eq_ok {field : String} {value : Int} {port : UInt16} :
    portFromI32 field value = .ok port <-> i32FromU16 port = value := by
  constructor
  · exact portFromI32_ok
  · intro h
    rw [← h]
    exact portFromI32_i32FromU16 field port

theorem i32FromU16_le {left right : UInt16} :
    i32FromU16 left ≤ i32FromU16 right <-> left ≤ right := by
  rw [UInt16.le_iff_toNat_le]
  exact Int.ofNat_le

theorem i32FromU16_inj {left right : UInt16} :
    i32FromU16 left = i32FromU16 right <-> left = right := by
  constructor
  · intro h
    exact UInt16.toNat_inj.mp (Int.ofNat_inj.mp h)
  · intro h
    rw [h]

/-!
# The query

The result carries the bounds of the scan, which is what lets the caller's
retry loop make progress.
-/

abbrev PortBetween (start «end» : UInt16) : Type :=
  { port : UInt16 // start ≤ port ∧ port ≤ «end» }

def findAvailableAllocationPort (requested : Protocol) (start «end» : UInt16)
    (db : Database) :
    Except RepositoryError (Option (PortBetween start «end»)) :=
  match hscan : firstFreePort requested (i32FromU16 start) (i32FromU16 «end»)
      db.allocations with
  | none => .ok none
  | some value =>
      match hport : portFromI32 "port" value with
      | .error error => .error error
      | .ok port =>
          .ok (some ⟨port, by
            have hvalue := portFromI32_ok hport
            have hrange := (firstFreePort_some hscan).left
            rw [← hvalue] at hrange
            exact ⟨i32FromU16_le.mp hrange.left, i32FromU16_le.mp hrange.right⟩⟩)

theorem findAvailableAllocationPort_some {requested : Protocol}
    {start «end» : UInt16} {db : Database} {port : PortBetween start «end»}
    (h : findAvailableAllocationPort requested start «end» db =
      .ok (some port)) :
    forall row, row ∈ db.allocations -> occupies requested row = true ->
      row.port ≠ i32FromU16 port.val := by
  unfold findAvailableAllocationPort at h
  split at h
  · cases h
  · rename_i value hscan
    split at h
    · cases h
    · rename_i found hport
      cases h
      intro row hrow hocc
      rw [portFromI32_ok hport]
      exact (firstFreePort_some hscan).right row hrow hocc

/-- No row of the table reserves the port for the protocol. -/
def FreePort (requested : Protocol) (db : Database) (port : UInt16) : Prop :=
  forall row, row ∈ db.allocations -> occupies requested row = true ->
    row.port ≠ i32FromU16 port

/-- The scan finds the least free port of its range, and fails to find one only when
there is none. -/
theorem findAvailableAllocationPort_spec (requested : Protocol) (start «end» : UInt16)
    (db : Database) :
    (findAvailableAllocationPort requested start «end» db = .ok none ∧
      forall port, start ≤ port -> port ≤ «end» -> ¬ FreePort requested db port) ∨
    (exists port : PortBetween start «end»,
      findAvailableAllocationPort requested start «end» db = .ok (some port) ∧
      FreePort requested db port.val ∧
      forall other, start ≤ other -> other ≤ «end» -> FreePort requested db other ->
        port.val ≤ other) := by
  have hleast : forall other, start ≤ other -> other ≤ «end» ->
      FreePort requested db other -> exists first,
        firstFreePort requested (i32FromU16 start) (i32FromU16 «end») db.allocations =
          some first ∧ first ≤ i32FromU16 other := by
    intro other hstart hend hfree
    exact firstFreePort_le (i32FromU16_le.mpr hstart) (i32FromU16_le.mpr hend) hfree
  cases hresult : findAvailableAllocationPort requested start «end» db with
  | error error =>
      -- a free port lies between two columns that hold a `u16`
      unfold findAvailableAllocationPort at hresult
      split at hresult
      · cases hresult
      · rename_i value hscan
        split at hresult
        · rename_i conversion hport
          have hrange := (firstFreePort_some hscan).left
          have hstart : (0 : Int) ≤ i32FromU16 start := Int.natCast_nonneg _
          have hend : i32FromU16 «end» < 65536 := by
            have hlt := «end».toNat_lt
            unfold i32FromU16
            lia
          unfold portFromI32 at hport
          rw [if_neg (by lia), if_pos (by lia)] at hport
          cases hport
        · cases hresult
  | ok found =>
      cases found with
      | none =>
          apply Or.inl
          refine ⟨rfl, ?_⟩
          intro port hstart hend hfree
          obtain ⟨first, hfirst, _⟩ := hleast port hstart hend hfree
          unfold findAvailableAllocationPort at hresult
          split at hresult
          · rename_i hscan
            rw [hscan] at hfirst
            cases hfirst
          · split at hresult <;> cases hresult
      | some port =>
          apply Or.inr
          refine ⟨port, rfl, findAvailableAllocationPort_some hresult, ?_⟩
          intro other hstart hend hfree
          obtain ⟨first, hfirst, hle⟩ := hleast other hstart hend hfree
          unfold findAvailableAllocationPort at hresult
          split at hresult
          · cases hresult
          · rename_i value hscan
            split at hresult
            · cases hresult
            · rename_i found hport
              cases hresult
              rw [hscan] at hfirst
              cases hfirst
              rw [<- portFromI32_ok hport] at hle
              exact i32FromU16_le.mp hle

/-!
# The naive scan

What the query stands for: go through the range port by port and stop at the first one
that no row conflicts with.
-/

/-- A reservation for both protocols conflicts with every other, one for a single
protocol with itself and with both. -/
def conflictsWith : Protocol -> Protocol -> Bool
  | .tcp, held => held = .tcp || held = .both
  | .udp, held => held = .udp || held = .both
  | .both, _ => true

/-- The column holds what `Protocol::as_str` writes. -/
def WrittenProtocols (db : Database) : Prop :=
  forall row, row ∈ db.allocations -> exists held : Protocol, row.protocol = held.asStr

def AllocationRow.conflicts (requested : Protocol) (port : Nat) (row : AllocationRow) : Bool :=
  match Protocol.fromStr row.protocol with
  | .ok held => conflictsWith requested held && row.port = port
  | .error _ => false

def unconflicted (requested : Protocol) (db : Database) (port : Nat) : Bool :=
  !db.allocations.any (AllocationRow.conflicts requested port)

def naiveScan (requested : Protocol) (start «end» : UInt16) (db : Database) : Option Nat :=
  (List.range' start.toNat («end».toNat + 1 - start.toNat)).find?
    (unconflicted requested db)

theorem occupies_asStr (requested held : Protocol) {row : AllocationRow}
    (h : row.protocol = held.asStr) :
    occupies requested row = conflictsWith requested held := by
  unfold occupies
  rw [h]
  cases requested <;> cases held <;> decide

theorem conflicts_eq_true {requested : Protocol} {port : Nat} {row : AllocationRow}
    {held : Protocol} (h : row.protocol = held.asStr) :
    row.conflicts requested port = true <->
      occupies requested row = true ∧ row.port = port := by
  unfold AllocationRow.conflicts
  rw [occupies_asStr requested held h, h, Protocol.fromStr_asStr]
  simp

/-- On a column written by the program, the filter of the query is the conflict. -/
theorem unconflicted_iff_freePort {requested : Protocol} {db : Database}
    (h : WrittenProtocols db) (port : UInt16) :
    unconflicted requested db port.toNat = true <-> FreePort requested db port := by
  unfold unconflicted FreePort
  rw [Bool.not_eq_true', List.any_eq_false]
  constructor
  · intro hnone row hrow hocc hport
    rcases h row hrow with ⟨held, hheld⟩
    exact hnone row hrow ((conflicts_eq_true hheld).mpr ⟨hocc, hport⟩)
  · intro hfree row hrow hconflict
    rcases h row hrow with ⟨held, hheld⟩
    rcases (conflicts_eq_true hheld).mp hconflict with ⟨hocc, hport⟩
    exact hfree row hrow hocc hport

theorem exists_toNat_eq {port : Nat} {bound : UInt16} (h : port ≤ bound.toNat) :
    exists value : UInt16, value.toNat = port := by
  have hbound := bound.toNat_lt
  exact ⟨UInt16.ofNat port, UInt16.toNat_ofNat_of_lt' (by lia)⟩

theorem naiveScan_eq_some {requested : Protocol} {start «end» port : UInt16}
    {db : Database}
    (hleast : IsLeast { port : UInt16 | start ≤ port ∧ port ≤ «end» ∧
      unconflicted requested db port.toNat = true } port) :
    naiveScan requested start «end» db = some port.toNat := by
  rcases hleast with ⟨⟨hstart, hend, hfree⟩, hlower⟩
  rw [UInt16.le_iff_toNat_le] at hstart hend
  unfold naiveScan
  rw [List.find?_range'_eq_some, List.mem_range'_1]
  refine ⟨hfree, ⟨hstart, by lia⟩, ?_⟩
  intro other hother hlt
  rcases exists_toNat_eq (show other ≤ port.toNat by lia) with ⟨value, rfl⟩
  cases hvalue : unconflicted requested db value.toNat with
  | false => rfl
  | true =>
      have hle := hlower (show value ∈ { port : UInt16 | _ } from
        ⟨UInt16.le_iff_toNat_le.mpr hother, UInt16.le_iff_toNat_le.mpr (by lia), hvalue⟩)
      rw [UInt16.le_iff_toNat_le] at hle
      lia

theorem naiveScan_eq_none {requested : Protocol} {start «end» : UInt16} {db : Database}
    (hnone : forall port : UInt16, start ≤ port -> port ≤ «end» ->
      unconflicted requested db port.toNat = false) :
    naiveScan requested start «end» db = none := by
  unfold naiveScan
  rw [List.find?_range'_eq_none]
  intro port hstart hend
  rcases exists_toNat_eq (show port ≤ «end».toNat by lia) with ⟨value, rfl⟩
  rw [hnone value (UInt16.le_iff_toNat_le.mpr hstart)
    (UInt16.le_iff_toNat_le.mpr (by lia))]
  rfl

/-- The query finds what the naive scan finds, and what it finds is a port. -/
theorem gap_query_eq_naive_scan {db : Database} (h : WrittenProtocols db)
    (requested : Protocol) (start «end» : UInt16) :
    exists found : Option (PortBetween start «end»),
      findAvailableAllocationPort requested start «end» db = .ok found ∧
      naiveScan requested start «end» db = found.map (fun port => port.val.toNat) ∧
      (forall port : UInt16, found.map Subtype.val = some port <->
        IsLeast { port : UInt16 | start ≤ port ∧ port ≤ «end» ∧
          unconflicted requested db port.toNat = true } port) ∧
      (found = none <-> forall port : UInt16, start ≤ port -> port ≤ «end» ->
        unconflicted requested db port.toNat = false) := by
  rcases findAvailableAllocationPort_spec requested start «end» db with
    ⟨hresult, hnone⟩ | ⟨first, hresult, hfree, hlower⟩
  · have htaken : forall port : UInt16, start ≤ port -> port ≤ «end» ->
        unconflicted requested db port.toNat = false := by
      intro port hstart hend
      rw [<- Bool.not_eq_true, unconflicted_iff_freePort h]
      exact hnone port hstart hend
    refine ⟨none, hresult, naiveScan_eq_none htaken, ?_, ?_⟩
    · intro port
      constructor
      · intro hsome
        cases hsome
      · intro h
        rcases h with ⟨⟨hstart, hend, hport⟩, _⟩
        rw [htaken port hstart hend] at hport
        cases hport
    · exact ⟨fun _ => htaken, fun _ => rfl⟩
  · have hleast : IsLeast { port : UInt16 | start ≤ port ∧ port ≤ «end» ∧
        unconflicted requested db port.toNat = true } first.val := by
      constructor
      · exact ⟨first.property.1, first.property.2,
          (unconflicted_iff_freePort h first.val).mpr hfree⟩
      · rintro other ⟨hstart, hend, hother⟩
        exact hlower other hstart hend ((unconflicted_iff_freePort h other).mp hother)
    refine ⟨some first, hresult, naiveScan_eq_some hleast, ?_, ?_⟩
    · intro port
      rw [Option.map_some, Option.some_inj]
      constructor
      · intro hport
        exact hport ▸ hleast
      · intro hport
        exact UInt16.le_antisymm (hleast.2 hport.1) (hport.2 hleast.1)
    · constructor
      · intro hnone
        cases hnone
      · intro htaken
        have hfirst := hleast.1.2.2
        rw [htaken first.val first.property.1 first.property.2] at hfirst
        cases hfirst

/-- One reservation of each kind on neighbouring ports. -/
def reservedDatabase : Database where
  allocations :=
    [{ id := "tcp", protocol := "tcp", port := 10000, targetPort := 0, host := none,
       createdAtMs := 1, updatedAtMs := 1 },
     { id := "udp", protocol := "udp", port := 10001, targetPort := 0, host := none,
       createdAtMs := 1, updatedAtMs := 1 },
     { id := "both", protocol := "both", port := 10002, targetPort := 0, host := none,
       createdAtMs := 1, updatedAtMs := 1 }]
  bindings := []
  allocationIds := by decide
  protocolPorts := by decide
  bindingIds := List.nodup_nil

theorem gap_query_eq_naive_scan_reserved :
    WrittenProtocols reservedDatabase ∧
    (exists found : Option (PortBetween 10000 10003),
      findAvailableAllocationPort .tcp 10000 10003 reservedDatabase = .ok found ∧
      some 10001 = found.map (fun port => port.val.toNat)) ∧
    exists found : Option (PortBetween 10000 10002),
      findAvailableAllocationPort .both 10000 10002 reservedDatabase = .ok found ∧
      none = found.map (fun port => port.val.toNat) := by
  have hwritten : WrittenProtocols reservedDatabase := by
    intro row hrow
    simp only [reservedDatabase, List.mem_cons, List.not_mem_nil, or_false] at hrow
    rcases hrow with rfl | rfl | rfl
    · exact ⟨.tcp, rfl⟩
    · exact ⟨.udp, rfl⟩
    · exact ⟨.both, rfl⟩
  have htcp : naiveScan .tcp 10000 10003 reservedDatabase = some 10001 := by decide
  have hboth : naiveScan .both 10000 10002 reservedDatabase = none := by decide
  rcases gap_query_eq_naive_scan hwritten .tcp 10000 10003 with ⟨found, hfound, hnaive, _⟩
  rcases gap_query_eq_naive_scan hwritten .both 10000 10002 with
    ⟨missing, hmissing, hnone, _⟩
  rw [htcp] at hnaive
  rw [hboth] at hnone
  exact ⟨hwritten, ⟨found, hfound, hnaive⟩, missing, hmissing, hnone⟩

end Storage
end Relayd
