import Relayd.Service.PortReservation
import Relayd.Storage.Mirror

/-!
# Restarts

A run of the daemon alternates mutations with restarts: the process goes away
with its runtime, and the next one opens the same file, which migrates legacy
bindings again.  The mirror invariant survives both, so no open ever has
anything to migrate.
-/

namespace Relayd
namespace Service

open Foundation Fallible Relayd.Runtime Storage

section Restart

variable {rt answer : Type} {svc : Service rt answer} {out : Outside answer}

inductive Event (rt : Type) where
  | mutate (mutation : Mutation)
  | reopen (runtime : rt)

/-- A restart opens the stored tables and starts over with another runtime. -/
def World.reopen (runtime : rt) (w : World rt) : World rt :=
  { w with db := openDatabase w.db, runtime := runtime }

def handle (svc : Service rt answer) (out : Outside answer) :
    Event rt -> World rt -> World rt
  | .mutate mutation, w => perform svc out mutation w
  | .reopen runtime, w => w.reopen runtime

def handleAll (svc : Service rt answer) (out : Outside answer)
    (events : List (Event rt)) (w : World rt) : World rt :=
  events.foldl (fun w event => handle svc out event w) w

/-- A property that no effect and no restart breaks holds after every run with
restarts. -/
theorem handleAll_invariant {inv : World rt -> Prop}
    (hstep : forall w w', inv w -> Effect svc out w w' -> inv w')
    (hreopen : forall runtime w, inv w -> inv (w.reopen runtime))
    (events : List (Event rt)) {w : World rt} (h : inv w) :
    inv (handleAll svc out events w) := by
  induction events generalizing w with
  | nil => exact h
  | cons event rest ih =>
      apply ih
      cases event with
      | mutate mutation => exact performAll_invariant hstep [mutation] h
      | reopen runtime => exact hreopen runtime w h

/-!
# The mirror invariant
-/

theorem mirrored_of_persistCreated {db db' : Database} {allocation : Allocation}
    (h : Mirrored db) (hpersist : persistCreated allocation db = .ok db') :
    Mirrored db' := by
  rcases persistCreated_inserted hpersist with ⟨row, bindings, hinserted, htarget⟩
  apply h.inserted hinserted
  cases hport : allocation.targetPort with
  | none =>
      rw [hport] at htarget
      rcases htarget with ⟨hzero, hnil⟩
      exact Or.inl ⟨hnil, by rw [hzero]⟩
  | some targetPort =>
      rw [hport] at htarget
      rcases htarget with ⟨hsame, hbindings⟩
      refine Or.inr ⟨_, hbindings, rfl, ?_⟩
      exact ⟨hsame, hinserted.host, hinserted.updatedAtMs⟩

theorem mirrored_of_putBinding {db : Database} {binding : Binding}
    {allocation : Allocation} {existing : Option Binding} (h : Mirrored db)
    (hget : getAllocationWithBinding binding.allocationId db =
      .ok (some (allocation, existing))) :
    Mirrored (Storage.putBinding binding db) := by
  rcases findAllocation_of_getAllocationWithBinding hget with ⟨row, hrow⟩
  exact h.putBinding hrow

theorem mirrored_of_deleteBinding {db : Database} {id : String} {now : Int}
    {allocation : Allocation} {existing : Binding} (h : Mirrored db)
    (hget : getAllocationWithBinding id db =
      .ok (some (allocation, some existing))) :
    Mirrored (Storage.deleteBinding id now db).2 := by
  rcases findBinding_of_getAllocationWithBinding hget with ⟨stored, hstored⟩
  exact h.deleteBinding hstored

theorem effect_mirrored (w w' : World rt) (h : Mirrored w.db)
    (heffect : Effect svc out w w') : Mirrored w'.db := by
  cases heffect with
  | quiet | createRefused | deleteRefused | deleteRestored | deleteUnpersisted =>
      exact h
  | created _ _ _ hpersist => exact mirrored_of_persistCreated h hpersist
  | createUndone _ _ _ hpersist =>
      rcases hpersist with ⟨_, hdb⟩ | ⟨_, hdb | hpersist⟩
      · rw [hdb]
        exact h
      · rw [hdb]
        exact h
      · exact mirrored_of_persistCreated h hpersist
  | bindingApplied _ hget | bindingUnapplied _ hget =>
      exact mirrored_of_putBinding h hget
  | unbindingApplied _ hget | unbindingUnapplied _ hget =>
      exact mirrored_of_deleteBinding h hget
  | deleted => exact h.deleteAllocation _

theorem handleAll_mirrored (events : List (Event rt)) {w : World rt}
    (h : Mirrored w.db) : Mirrored (handleAll svc out events w).db := by
  have hreopen : forall (runtime : rt) (w : World rt), Mirrored w.db ->
      Mirrored (w.reopen runtime).db := by
    intro _ _ hmirrored
    exact hmirrored.openDatabase
  exact handleAll_invariant effect_mirrored hreopen events h

/-- Restart transparency: after any mix of mutations and restarts from an empty
database an open changes neither table, and the two copies of every binding
agree. -/
theorem restart_transparent (svc : Service rt answer) (out : Outside answer)
    (runtime : rt) (failpoints : Failpoints) (events : List (Event rt)) :
    let db := (handleAll svc out events (World.start runtime failpoints)).db
    ((openDatabase db).allocations = db.allocations ∧
      (openDatabase db).bindings = db.bindings) ∧
    (forall binding, binding ∈ db.bindings ->
      exists row, row ∈ db.allocations ∧ row.id = binding.allocationId) ∧
    (forall row, row ∈ db.allocations -> row.targetPort > 0 ->
      exists binding, binding ∈ db.bindings ∧ binding.allocationId = row.id) ∧
    forall row binding, row ∈ db.allocations -> binding ∈ db.bindings ->
      row.id = binding.allocationId ->
      row.targetPort = binding.targetPort ∧ row.host = binding.host ∧
        row.updatedAtMs = binding.updatedAtMs := by
  intro db
  have hmirrored : Mirrored db := handleAll_mirrored events mirrored_empty
  refine ⟨⟨openDatabase_allocations db, hmirrored.openDatabase_bindings⟩, ?_, ?_, ?_⟩
  · intro binding hbinding
    rcases hmirrored.owned hbinding with ⟨row, hrow, hid, _⟩
    exact ⟨row, hrow, hid⟩
  · intro row hrow htarget
    exact hmirrored.bound hrow htarget
  · intro row binding hrow hbinding hid
    have hat := hmirrored row.id
    rw [findAllocation_of_mem hrow, hid, findBinding_of_mem hbinding] at hat
    exact hat

end Restart

end Service
end Relayd
