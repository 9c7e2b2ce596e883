import Relayd.Service.StoredResults

/-!
# A listing is read in two parts

`list_allocations` selects the allocations and then the bindings, outside any transaction
and without the mutation lock, while the readers of a single id use one join.  Mutations
may commit between the two queries.  A row that is assembled from both is what its id
read as at one instant as long as the target of its binding has not moved in between.
-/

namespace Relayd
namespace Service

open Foundation Fallible Relayd.Runtime Storage

def selectAllocations (db : Database) : List AllocationRow :=
  db.allocations.insertionSort AllocationRow.listedBefore

/-- The rows of the first query with the bindings that the second query finds. -/
def assembleListing (rows : List AllocationRow) (db : Database) :
    Except RepositoryError (List Allocation) :=
  rows.mapM (fun row => modelToAllocation row (findBinding row.id db))

theorem listAllocations_eq_assembleListing (db : Database) :
    Storage.listAllocations db = assembleListing (selectAllocations db) db := rfl

/-!
# One row and two bindings
-/

/-- A row with a binding stands for the target of the binding; the binding's host may be
missing, the row's is taken then.  Without a binding it stands for its own columns. -/
def Unmoved (row : AllocationRow) : Option BindingRow -> Option BindingRow -> Prop
  | none, none => True
  | some binding, none =>
      0 < row.targetPort ∧ row.targetPort = binding.targetPort ∧
        binding.host.or row.host = row.host
  | none, some binding =>
      0 < row.targetPort ∧ row.targetPort = binding.targetPort ∧
        binding.host.or row.host = row.host
  | some before, some after =>
      after.targetPort = before.targetPort ∧
        after.host.or row.host = before.host.or row.host

theorem targetPortOf_none {row : AllocationRow} {targetPort : Option UInt16} {port : Int}
    (h : targetPort.map i32FromU16 = some port) :
    TargetPortOf row none targetPort <-> 0 < row.targetPort ∧ row.targetPort = port := by
  unfold TargetPortOf
  by_cases hpos : row.targetPort > 0
  · rw [if_pos hpos, h, Option.some_inj]
    constructor
    · intro heq
      exact ⟨hpos, heq.symm⟩
    · intro heq
      exact heq.right.symm
  · rw [if_neg hpos]
    constructor
    · intro hnone
      rw [hnone] at h
      cases h
    · intro heq
      exact absurd heq.left hpos

theorem targetPortOf_congr {row : AllocationRow} {before after : Option BindingRow}
    {targetPort : Option UInt16} {host : Option String}
    (htarget : TargetPortOf row after targetPort)
    (hhost : host = (after.bind BindingRow.host).or row.host) :
    TargetPortOf row before targetPort ∧ host = (before.bind BindingRow.host).or row.host <->
      Unmoved row before after := by
  subst hhost
  cases before with
  | none =>
      cases after with
      | none => exact ⟨fun _ => True.intro, fun _ => ⟨htarget, rfl⟩⟩
      | some after => rw [targetPortOf_none htarget, and_assoc]; rfl
  | some before =>
      cases after with
      | none =>
          constructor
          · intro h
            have hcolumns := (targetPortOf_none h.left).mp htarget
            exact ⟨hcolumns.left, hcolumns.right, h.right.symm⟩
          · intro h
            have hport : targetPort.map i32FromU16 = some row.targetPort := by
              unfold TargetPortOf at htarget
              rw [if_pos h.left] at htarget
              exact htarget
            rw [h.right.left] at hport
            exact ⟨hport, h.right.right.symm⟩
      | some after =>
          have hafter : targetPort.map i32FromU16 = some after.targetPort := htarget
          show (targetPort.map i32FromU16 = some before.targetPort ∧ _) <-> _
          rw [hafter, Option.some_inj]
          rfl

/-- What was assembled with the one binding would have been assembled with the other. -/
theorem hydrates_iff_unmoved {row : AllocationRow} {before after : Option BindingRow}
    {allocation : Allocation} (h : Hydrates row after allocation) :
    Hydrates row before allocation <-> Unmoved row before after := by
  rw [<- targetPortOf_congr h.targetPort h.host]
  constructor
  · intro hbefore
    exact ⟨hbefore.targetPort, hbefore.host⟩
  · intro hbefore
    exact
      { id := h.id
        protocol := h.protocol
        port := h.port
        targetPort := hbefore.left
        host := hbefore.right
        createdAtMs := h.createdAtMs
        updatedAtMs := h.updatedAtMs }

/-!
# Two queries in a run

The mutations of the run are those that commit during the call; the queries fall at two
of its positions.  A mutation commits at most one transaction, so the tables take no
other values than those at its positions.
-/

section Interleaving

variable {rt answer : Type} (svc : Service rt answer) (out : Outside answer)
  (mutations : List Mutation) (w : World rt)

def tablesAt (instant : Nat) : Database :=
  (performAll svc out (mutations.take instant) w).db

def listedBetween (first second : Nat) : Except RepositoryError (List Allocation) :=
  assembleListing (selectAllocations (tablesAt svc out mutations w first))
    (tablesAt svc out mutations w second)

/-- At one instant of the call the id reads with this target and this update time. -/
def ReadAtOnce (allocation : Allocation) : Prop :=
  exists instant, instant ≤ mutations.length ∧
    exists found, getAllocation allocation.id (tablesAt svc out mutations w instant) =
        .ok (some found) ∧
      found.targetPort = allocation.targetPort ∧ found.host = allocation.host ∧
      found.updatedAtMs = allocation.updatedAtMs

def UnmovedBetween (id : String) (first second : Nat) : Prop :=
  exists row, findAllocation id (tablesAt svc out mutations w first) = some row ∧
    Unmoved row (findBinding id (tablesAt svc out mutations w first))
      (findBinding id (tablesAt svc out mutations w second))

/-- The update time of the id names its rows: at no other instant does another row or
another binding carry it. -/
def TimeNotReused (id : String) (first : Nat) : Prop :=
  forall instant row row', instant ≤ mutations.length ->
    findAllocation id (tablesAt svc out mutations w first) = some row ->
    findAllocation id (tablesAt svc out mutations w instant) = some row' ->
    row'.updatedAtMs = row.updatedAtMs ->
    row' = row ∧ findBinding id (tablesAt svc out mutations w instant) =
      findBinding id (tablesAt svc out mutations w first)

variable {svc} {out} {mutations} {w}

theorem listedBetween_hydrates {first second : Nat} {allocations : List Allocation}
    {allocation : Allocation}
    (hlisted : listedBetween svc out mutations w first second = .ok allocations)
    (hmem : allocation ∈ allocations) :
    exists row, findAllocation allocation.id (tablesAt svc out mutations w first) = some row ∧
      Hydrates row (findBinding allocation.id (tablesAt svc out mutations w second))
        allocation := by
  rcases exists_left_of_forall₂ (mapM_eq_ok.mp hlisted) hmem with ⟨row, hrow, hassembled⟩
  have hhydrates := modelToAllocation_eq_ok.mp hassembled
  have hstored : row ∈ (tablesAt svc out mutations w first).allocations :=
    (List.mem_insertionSort _).mp hrow
  rw [hhydrates.id]
  exact ⟨row, findAllocation_of_mem hstored, hhydrates⟩

/-- However mutations commit around the two queries, a listed allocation whose binding
has not moved between them is what its id read as at the first one.  If update times are
not reused, no other listed allocation was ever read. -/
theorem listing_read_at_once (svc : Service rt answer) (out : Outside answer)
    (mutations : List Mutation) (w : World rt) (first second : Nat) (horder : first ≤ second)
    (hsecond : second ≤ mutations.length) (allocations : List Allocation)
    (hlisted : listedBetween svc out mutations w first second = .ok allocations)
    (allocation : Allocation) (hmem : allocation ∈ allocations) :
    (UnmovedBetween svc out mutations w allocation.id first second ->
      ReadAtOnce svc out mutations w allocation) ∧
    (TimeNotReused svc out mutations w allocation.id first ->
      (ReadAtOnce svc out mutations w allocation <->
        UnmovedBetween svc out mutations w allocation.id first second)) := by
  rcases listedBetween_hydrates hlisted hmem with ⟨row, hrow, hhydrates⟩
  have hunmoved : UnmovedBetween svc out mutations w allocation.id first second ->
      ReadAtOnce svc out mutations w allocation := by
    intro h
    rcases h with ⟨row', hrow', hbinding⟩
    rw [hrow] at hrow'
    cases hrow'
    have hfirst := getAllocation_eq_some.mpr
      ⟨row, hrow, (hydrates_iff_unmoved hhydrates).mpr hbinding⟩
    exact ⟨first, le_trans horder hsecond, allocation, hfirst, rfl, rfl, rfl⟩
  constructor
  · exact hunmoved
  · intro htime
    constructor
    · intro h
      rcases h with ⟨instant, hinstant, found, hfound, htarget, hhost, hupdated⟩
      rcases getAllocation_eq_some.mp hfound with ⟨row', hrow', hread⟩
      -- the update time identifies the row that was read with the listed one
      have hsame : row'.updatedAtMs = row.updatedAtMs := by
        rw [<- hread.updatedAtMs, hupdated, hhydrates.updatedAtMs]
      rcases htime instant row row' hinstant hrow hrow' hsame with ⟨hrows, hbindings⟩
      rw [hrows, hbindings] at hread
      have htargetPort := hread.targetPort
      rw [htarget] at htargetPort
      have hhosts := hread.host
      rw [hhost] at hhosts
      exact ⟨row, hrow,
        (targetPortOf_congr hhydrates.targetPort hhydrates.host).mp ⟨htargetPort, hhosts⟩⟩
    · exact hunmoved

end Interleaving

/-!
# Two runs

The allocation has the target `10.0.0.1:80`.
-/

def refreshedListing : Except RepositoryError (List Allocation) :=
  listedBetween (proxyService loopbackRange 1000) (bindingOutside true)
    [.updateAllocation (countedId 2) (some 80) none] hostedWorld 0 1

def hostedAllocation : Allocation where
  id := countedId 2
  protocol := .both
  port := 1000
  targetPort := some 80
  host := some "10.0.0.1"
  createdAtMs := 1
  updatedAtMs := 6

theorem refreshed_listing_read_at_once :
    refreshedListing = .ok [hostedAllocation] ∧
      ReadAtOnce (proxyService loopbackRange 1000) (bindingOutside true)
        [.updateAllocation (countedId 2) (some 80) none] hostedWorld hostedAllocation := by
  have hlisted : refreshedListing = .ok [hostedAllocation] := by rfl
  constructor
  · exact hlisted
  · apply (listing_read_at_once _ _ _ _ 0 1 (by decide) (by decide) [hostedAllocation]
      hlisted hostedAllocation List.mem_cons_self).1
    exact ⟨_, rfl, rfl, rfl⟩

/-- The binding is deleted, and the allocation is then given port 90 without a host. -/
def rehoming : List Mutation :=
  [.deleteBinding (countedId 2), .updateAllocation (countedId 2) (some 90) none]

def mixedAllocation : Allocation :=
  { hostedAllocation with targetPort := some 90 }

/-- The new port is listed with the host that was deleted before it was set. -/
theorem mixed_target_listed :
    listedBetween (proxyService loopbackRange 1000) (bindingOutside true) rehoming
        hostedWorld 0 2 = .ok [mixedAllocation] ∧
      ¬ ReadAtOnce (proxyService loopbackRange 1000) (bindingOutside true) rehoming
        hostedWorld mixedAllocation := by
  constructor
  · rfl
  · intro h
    rcases h with ⟨instant, hinstant, found, hfound, htarget, hhost, _⟩
    have hlength : instant ≤ 2 := hinstant
    have hinstants : instant = 0 ∨ instant = 1 ∨ instant = 2 := by omega
    rcases hinstants with rfl | rfl | rfl
    · cases hfound
      cases htarget
    · cases hfound
      cases htarget
    · cases hfound
      cases hhost

end Service
end Relayd
