import Relayd.Service.Effects

/-!
# Port reservation

The unique index over protocol and port does not keep a tcp row and a both row
apart.  What keeps them apart is that a port is only ever taken after the scan
for the requested protocol found it free, and that no later write touches the
protocol or the port of a row.
-/

namespace Relayd
namespace Service

open Foundation Fallible Relayd.Runtime Storage

/-- The transport protocols a stored row occupies on its port. -/
def concreteProtocols (row : AllocationRow) : List Protocol :=
  match Protocol.fromStr row.protocol with
  | .ok protocol => protocolsFor protocol
  | .error _ => []

/-- No two rows claim one port for one transport protocol. -/
structure Exclusive (rows : List AllocationRow) : Prop where
  written : forall row, row ∈ rows ->
    exists protocol : Protocol, row.protocol = protocol.asStr
  disjoint : forall row other, row ∈ rows -> other ∈ rows -> row.id ≠ other.id ->
    row.port = other.port ->
    forall protocol, protocol ∈ concreteProtocols row ->
      protocol ∉ concreteProtocols other

structure Reserved (range : PortRange) (rows : List AllocationRow) : Prop where
  exclusive : Exclusive rows
  inRange : forall row, row ∈ rows ->
    i32FromU16 range.start ≤ row.port ∧ row.port ≤ i32FromU16 range.end

theorem concreteProtocols_asStr {row : AllocationRow} {protocol : Protocol}
    (h : row.protocol = protocol.asStr) :
    concreteProtocols row = protocolsFor protocol := by
  unfold concreteProtocols
  rw [h, Protocol.fromStr_asStr]

theorem exclusive_nil : Exclusive [] where
  written := by
    intro row hrow
    cases hrow
  disjoint := by
    intro row other hrow
    cases hrow

theorem reserved_nil (range : PortRange) : Reserved range [] where
  exclusive := exclusive_nil
  inRange := by
    intro row hrow
    cases hrow

/-- Keeping a part of the rows, with their keys, keeps them exclusive. -/
theorem Exclusive.of_keysFrom {db db' : Database} (h : Exclusive db.allocations)
    (hkeys : KeysFrom db db') : Exclusive db'.allocations where
  written := by
    intro row' hrow'
    rcases hkeys row' hrow' with ⟨row, hrow, _, hprotocol, _⟩
    rw [hprotocol]
    exact h.written row hrow
  disjoint := by
    intro row' other' hrow' hother' hne hport protocol hprotocol
    rcases hkeys row' hrow' with ⟨row, hrow, hid, hproto, hp⟩
    rcases hkeys other' hother' with ⟨other, hother, hid', hproto', hp'⟩
    have hconcrete : concreteProtocols row' = concreteProtocols row := by
      unfold concreteProtocols
      rw [hproto]
    have hconcrete' : concreteProtocols other' = concreteProtocols other := by
      unfold concreteProtocols
      rw [hproto']
    rw [hid, hid'] at hne
    rw [hp, hp'] at hport
    rw [hconcrete] at hprotocol
    rw [hconcrete']
    exact h.disjoint row other hrow hother hne hport protocol hprotocol

theorem Reserved.of_keysFrom {range : PortRange} {db db' : Database}
    (h : Reserved range db.allocations) (hkeys : KeysFrom db db') :
    Reserved range db'.allocations where
  exclusive := h.exclusive.of_keysFrom hkeys
  inRange := by
    intro row' hrow'
    rcases hkeys row' hrow' with ⟨row, hrow, _, _, hport⟩
    rw [hport]
    exact h.inRange row hrow

/-- Rows the scan for a protocol does not see share no concrete protocol with
it. -/
theorem disjoint_of_not_occupies {requested : Protocol} {row : AllocationRow}
    {stored : Protocol} (hstored : row.protocol = stored.asStr)
    (hfree : occupies requested row = false) :
    forall protocol, protocol ∈ concreteProtocols row ->
      protocol ∉ protocolsFor requested := by
  rw [concreteProtocols_asStr hstored]
  cases requested <;> cases stored <;>
    simp_all [occupies, protocolsFor, Protocol.asStr]

theorem Exclusive.append {rows : List AllocationRow} {row : AllocationRow}
    {protocol : Protocol} (h : Exclusive rows)
    (hprotocol : row.protocol = protocol.asStr)
    (hfree : forall other, other ∈ rows -> occupies protocol other = true ->
      other.port ≠ row.port) :
    Exclusive (rows ++ [row]) := by
  have hdisjoint : forall other, other ∈ rows -> other.port = row.port ->
      forall concrete, concrete ∈ concreteProtocols other ->
        concrete ∉ concreteProtocols row := by
    intro other hother hsame concrete hconcrete
    rw [concreteProtocols_asStr hprotocol]
    rcases h.written other hother with ⟨stored, hstored⟩
    apply disjoint_of_not_occupies hstored _ concrete hconcrete
    cases hocc : occupies protocol other with
    | false => rfl
    | true => exact absurd hsame (hfree other hother hocc)
  constructor
  · intro other hother
    rcases List.mem_append.mp hother with hold | hnew
    · exact h.written other hold
    · rw [List.mem_singleton.mp hnew]
      exact ⟨protocol, hprotocol⟩
  · intro left right hleft hright hne hsame concrete hconcrete
    rcases List.mem_append.mp hleft with hleftOld | hleftNew
    · rcases List.mem_append.mp hright with hrightOld | hrightNew
      · exact h.disjoint left right hleftOld hrightOld hne hsame concrete hconcrete
      · rw [List.mem_singleton.mp hrightNew] at hsame ⊢
        exact hdisjoint left hleftOld hsame concrete hconcrete
    · rcases List.mem_append.mp hright with hrightOld | hrightNew
      · rw [List.mem_singleton.mp hleftNew] at hsame hconcrete
        intro hother
        exact hdisjoint right hrightOld hsame.symm concrete hother hconcrete
      · rw [List.mem_singleton.mp hleftNew, List.mem_singleton.mp hrightNew] at hne
        exact absurd rfl hne

/-!
# Runs
-/

/-- What the create transaction leaves behind. -/
theorem persistCreated_inserted {allocation : Allocation} {db db' : Database}
    (h : persistCreated allocation db = .ok db') :
    exists row bindings, Inserted allocation row bindings db db' ∧
      match allocation.targetPort with
      | none => row.targetPort = 0 ∧ bindings = []
      | some targetPort =>
          row.targetPort = i32FromU16 targetPort ∧
          bindings =
            [{ allocationId := allocation.id
               targetPort := i32FromU16 targetPort
               host := allocation.host
               createdAtMs := allocation.createdAtMs
               updatedAtMs := allocation.updatedAtMs }] := by
  unfold persistCreated at h
  cases htarget : allocation.targetPort with
  | none =>
      rw [htarget] at h
      rcases insertAllocation_inserted h with ⟨row, hinserted, hport⟩
      rw [htarget] at hport
      exact ⟨row, [], hinserted, hport, rfl⟩
  | some targetPort =>
      rw [htarget] at h
      rcases insertAllocationWithBinding_inserted rfl rfl h with
        ⟨row, binding, hinserted, hport, hbinding⟩
      exact ⟨row, [binding], hinserted, hport, by rw [hbinding]; rfl⟩

section Runs

variable {rt answer : Type}

def World.start (runtime : rt) (failpoints : Failpoints) : World rt where
  db := Database.empty
  runtime := runtime
  failpoints := failpoints
  calls := 0

theorem exclusive_of_persistCreated {svc : Service rt answer} {w : World rt}
    {allocation : Allocation} {db : Database} (h : Exclusive w.db.allocations)
    (hcandidate : Candidate svc w allocation)
    (hpersist : persistCreated allocation w.db = .ok db) :
    Exclusive db.allocations := by
  rcases persistCreated_inserted hpersist with ⟨row, bindings, hinserted, _⟩
  rw [hinserted.allocations]
  apply h.append hinserted.protocol
  intro other hother hoccupies
  rw [hinserted.port]
  exact hcandidate.free other hother hoccupies

theorem reserved_of_persistCreated {svc : Service rt answer} {w : World rt}
    {allocation : Allocation} {db : Database}
    (h : Reserved svc.portRange w.db.allocations)
    (hcandidate : Candidate svc w allocation)
    (hpersist : persistCreated allocation w.db = .ok db) :
    Reserved svc.portRange db.allocations where
  exclusive := exclusive_of_persistCreated h.exclusive hcandidate hpersist
  inRange := by
    rcases persistCreated_inserted hpersist with ⟨row, bindings, hinserted, _⟩
    intro other hother
    rw [hinserted.allocations] at hother
    rcases List.mem_append.mp hother with hold | hnew
    · exact h.inRange other hold
    · rw [List.mem_singleton.mp hnew, hinserted.port]
      exact ⟨i32FromU16_le.mpr hcandidate.inRange.left,
        i32FromU16_le.mpr hcandidate.inRange.right⟩

/-- A property of the rows that a new candidate row and a loss of rows keep is
kept by every effect. -/
theorem effect_rows {svc : Service rt answer} {out : Outside answer}
    {inv : List AllocationRow -> Prop} {w w' : World rt}
    (hcreated : forall allocation db, Candidate svc w allocation ->
      persistCreated allocation w.db = .ok db -> inv db.allocations)
    (hkeys : forall db, KeysFrom w.db db -> inv db.allocations)
    (heffect : Effect svc out w w') : inv w'.db.allocations := by
  have hsame : inv w.db.allocations := by
    apply hkeys
    intro row hrow
    exact ⟨row, hrow, rfl, rfl, rfl⟩
  cases heffect with
  | quiet | createRefused | deleteRefused | deleteRestored | deleteUnpersisted =>
      exact hsame
  | created hcandidate _ _ hpersist => exact hcreated _ _ hcandidate hpersist
  | createUndone hcandidate _ _ hpersist =>
      rcases hpersist with ⟨_, hdb⟩ | ⟨_, hdb | hpersist⟩
      · rw [hdb]
        exact hsame
      · rw [hdb]
        exact hsame
      · exact hcreated _ _ hcandidate hpersist
  | bindingApplied | bindingUnapplied =>
      exact hkeys _ (keysFrom_putBinding _ w.db)
  | unbindingApplied | unbindingUnapplied =>
      exact hkeys _ (keysFrom_deleteBinding _ _ w.db)
  | deleted => exact hkeys _ (keysFrom_deleteAllocation _ w.db)

theorem effect_exclusive {svc : Service rt answer} {out : Outside answer}
    (w w' : World rt) (h : Exclusive w.db.allocations)
    (heffect : Effect svc out w w') : Exclusive w'.db.allocations := by
  refine effect_rows ?_ ?_ heffect
  · intro allocation db hcandidate hpersist
    exact exclusive_of_persistCreated h hcandidate hpersist
  · intro db hkeys
    exact h.of_keysFrom hkeys

theorem effect_reserved {svc : Service rt answer} {out : Outside answer}
    (w w' : World rt) (h : Reserved svc.portRange w.db.allocations)
    (heffect : Effect svc out w w') :
    Reserved svc.portRange w'.db.allocations := by
  refine effect_rows ?_ ?_ heffect
  · intro allocation db hcandidate hpersist
    exact reserved_of_persistCreated h hcandidate hpersist
  · intro db hkeys
    exact h.of_keysFrom hkeys

theorem performAll_reserved {svc : Service rt answer} {out : Outside answer}
    (mutations : List Mutation) {w : World rt}
    (h : Reserved svc.portRange w.db.allocations) :
    Reserved svc.portRange (performAll svc out mutations w).db.allocations :=
  performAll_invariant effect_reserved mutations h

/-- Port reservation: after any run from an empty repository, whatever the
runtime answered and whichever repository calls failed, two distinct rows never
share a port and a concrete protocol, and every port is in the configured
range. -/
theorem ports_reserved (svc : Service rt answer) (out : Outside answer)
    (runtime : rt) (failpoints : Failpoints) (mutations : List Mutation) :
    let rows := (performAll svc out mutations
      (World.start runtime failpoints)).db.allocations
    (forall row other, row ∈ rows -> other ∈ rows -> row ≠ other ->
      row.port = other.port ->
      forall protocol, protocol ∈ concreteProtocols row ->
        protocol ∉ concreteProtocols other) ∧
      forall row, row ∈ rows ->
        (exists protocol, Protocol.fromStr row.protocol = .ok protocol) ∧
        i32FromU16 svc.portRange.start ≤ row.port ∧
        row.port ≤ i32FromU16 svc.portRange.end := by
  intro rows
  have hreserved : Reserved svc.portRange rows :=
    performAll_reserved mutations (reserved_nil svc.portRange)
  constructor
  · intro row other hrow hother hne
    apply hreserved.exclusive.disjoint row other hrow hother
    intro hid
    have hfound := findAllocation_of_mem hrow
    rw [hid, findAllocation_of_mem hother] at hfound
    exact hne (Option.some.inj hfound).symm
  · intro row hrow
    rcases hreserved.exclusive.written row hrow with ⟨protocol, hprotocol⟩
    refine ⟨⟨protocol, ?_⟩, hreserved.inRange row hrow⟩
    rw [hprotocol, Protocol.fromStr_asStr]

end Runs

end Service
end Relayd
