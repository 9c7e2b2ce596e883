import Mathlib.Logic.Relation
import Relayd.Service.CreateLoop
import Relayd.Storage.Writes

/-!
# What a mutation can do to the two stores

`Effect` lists the moves of the repository and the runtime that the mutations
are made of, with the checks that were passed on the way and the reason a move
was left half done.  Every mutation is a sequence of such moves: the create loop
takes one for each port it tries, every other mutation at most one.  Invariants
of the service are proved about `Effect` and transferred to runs at the end.
-/

namespace Relayd
namespace Service

open Foundation Fallible Relayd.Runtime Storage

section Effects

variable {rt answer : Type} (svc : Service rt answer) (out : Outside answer)

/-- An allocation the create loop may hand to the runtime. -/
structure Candidate (w : World rt) (allocation : Allocation) : Prop where
  inRange : svc.portRange.start ≤ allocation.port ∧
    allocation.port ≤ svc.portRange.end
  free : forall row, row ∈ w.db.allocations ->
    occupies allocation.protocol row = true ->
    row.port ≠ i32FromU16 allocation.port
  unbound : allocation.host = none

/-- The id was generated by a call between the two worlds. -/
def GeneratedBetween (w : World rt) (calls : Nat) (id : String) : Prop :=
  exists call, w.calls ≤ call ∧ call < calls ∧ id = out.newId call

inductive Effect : World rt -> World rt -> Prop where
  | quiet {w : World rt} {calls : Nat} (hcalls : w.calls ≤ calls) :
      Effect w { w with calls := calls }
  | createRefused {w : World rt} {calls : Nat} {allocation : Allocation}
      {reply : answer} {error : RuntimeError} {runtime : rt}
      (hcandidate : Candidate svc w allocation)
      (hid : GeneratedBetween out w calls allocation.id)
      (hcreate : svc.runtime.create reply allocation svc.applyTimeoutMs w.runtime =
        (.error error, runtime)) :
      Effect w { w with runtime := runtime, calls := calls }
  | created {w : World rt} {calls : Nat} {allocation : Allocation}
      {reply : answer} {runtime : rt} {db : Database}
      (hcandidate : Candidate svc w allocation)
      (hid : GeneratedBetween out w calls allocation.id)
      (hcreate : svc.runtime.create reply allocation svc.applyTimeoutMs w.runtime =
        (.ok (), runtime))
      (hpersist : persistCreated allocation w.db = .ok db) :
      Effect w { w with db := db, runtime := runtime, calls := calls }
  | createUndone {w : World rt} {calls : Nat} {allocation : Allocation}
      {reply reply' : answer} {runtime runtime' : rt} {db : Database}
      {deleted : Except RuntimeError Unit}
      (hcandidate : Candidate svc w allocation)
      (hid : GeneratedBetween out w calls allocation.id)
      (hcreate : svc.runtime.create reply allocation svc.applyTimeoutMs w.runtime =
        (.ok (), runtime))
      (hpersist : ((exists error, persistCreated allocation w.db = .error error) ∧
          db = w.db) ∨
        (RepositoryFails out ∧
          (db = w.db ∨ persistCreated allocation w.db = .ok db)))
      (hdelete : svc.runtime.delete reply' allocation.id svc.applyTimeoutMs runtime =
        (deleted, runtime')) :
      Effect w { w with db := db, runtime := runtime', calls := calls }
  | bindingApplied {w : World rt} {calls : Nat} {allocation : Allocation}
      {existing : Option Binding} {binding : Binding} {reply : answer}
      {updated : Except RuntimeError Unit} {runtime : rt}
      (hcalls : w.calls ≤ calls)
      (hget : getAllocationWithBinding binding.allocationId w.db =
        .ok (some (allocation, existing)))
      (hupdate : svc.runtime.update reply (allocationWithBinding allocation binding)
        svc.applyTimeoutMs w.runtime = (updated, runtime)) :
      Effect w
        { w with
          db := Storage.putBinding binding w.db
          runtime := runtime
          calls := calls }
  | bindingUnapplied {w : World rt} {calls : Nat} {allocation : Allocation}
      {existing : Option Binding} {binding : Binding}
      (hcalls : w.calls ≤ calls)
      (hget : getAllocationWithBinding binding.allocationId w.db =
        .ok (some (allocation, existing)))
      (hreason : w.failpoints.updateTimeout = true ∨ RepositoryFails out) :
      Effect w
        { w with db := Storage.putBinding binding w.db, calls := calls }
  | unbindingApplied {w : World rt} {calls : Nat} {id : String} {now : Int}
      {allocation : Allocation} {existing : Binding} {reply : answer}
      {updated : Except RuntimeError Unit} {runtime : rt}
      (hcalls : w.calls ≤ calls)
      (hget : getAllocationWithBinding id w.db =
        .ok (some (allocation, some existing)))
      (hupdate : svc.runtime.update reply (allocationWithoutBinding allocation now)
        svc.applyTimeoutMs w.runtime = (updated, runtime)) :
      Effect w
        { w with
          db := (Storage.deleteBinding id now w.db).2
          runtime := runtime
          calls := calls }
  | unbindingUnapplied {w : World rt} {calls : Nat} {id : String} {now : Int}
      {allocation : Allocation} {existing : Binding}
      (hcalls : w.calls ≤ calls)
      (hget : getAllocationWithBinding id w.db =
        .ok (some (allocation, some existing)))
      (hreason : w.failpoints.updateTimeout = true ∨ RepositoryFails out) :
      Effect w
        { w with
          db := (Storage.deleteBinding id now w.db).2
          calls := calls }
  | deleteRefused {w : World rt} {calls : Nat} {id : String}
      {allocation : Allocation} {reply : answer} {error : RuntimeError}
      {runtime : rt}
      (hcalls : w.calls ≤ calls)
      (hget : getAllocation id w.db = .ok (some allocation))
      (hdelete : svc.runtime.delete reply id svc.applyTimeoutMs w.runtime =
        (.error error, runtime)) :
      Effect w { w with runtime := runtime, calls := calls }
  | deleteRestored {w : World rt} {calls : Nat} {id : String}
      {allocation : Allocation} {reply reply' : answer} {runtime runtime' : rt}
      {restored : Except RuntimeError Unit}
      (hcalls : w.calls ≤ calls)
      (hget : getAllocation id w.db = .ok (some allocation))
      (hfailpoint : w.failpoints.deleteDbFailure = true)
      (hdelete : svc.runtime.delete reply id svc.applyTimeoutMs w.runtime =
        (.ok (), runtime))
      (hrestore : svc.runtime.restore reply' allocation svc.applyTimeoutMs runtime =
        (restored, runtime')) :
      Effect w { w with runtime := runtime', calls := calls }
  | deleted {w : World rt} {calls : Nat} {id : String}
      {allocation : Allocation} {reply : answer} {runtime : rt}
      (hcalls : w.calls ≤ calls)
      (hget : getAllocation id w.db = .ok (some allocation))
      (hdelete : svc.runtime.delete reply id svc.applyTimeoutMs w.runtime =
        (.ok (), runtime)) :
      Effect w
        { w with
          db := (Storage.deleteAllocation id w.db).2
          runtime := runtime
          calls := calls }
  | deleteUnpersisted {w : World rt} {calls : Nat} {id : String}
      {allocation : Allocation} {reply : answer} {runtime : rt}
      (hcalls : w.calls ≤ calls)
      (hget : getAllocation id w.db = .ok (some allocation))
      (hdelete : svc.runtime.delete reply id svc.applyTimeoutMs w.runtime =
        (.ok (), runtime))
      (hfails : RepositoryFails out) :
      Effect w { w with runtime := runtime, calls := calls }

abbrev Effects : World rt -> World rt -> Prop :=
  Relation.ReflTransGen (Effect svc out)

end Effects

/-!
# Mutations as sequences of effects
-/

section Refinement

variable {rt answer : Type} {svc : Service rt answer} {out : Outside answer}

theorem Effects.quiet {w : World rt} {calls : Nat} (h : w.calls ≤ calls) :
    Effects svc out w { w with calls := calls } :=
  Relation.ReflTransGen.single (Effect.quiet h)

section Attempts

variable {protocol : Protocol} {targetPort : Option UInt16} {start : UInt16} {w : World rt}
  {allocation : Allocation} {created : Except RuntimeError Unit} {runtime : rt}
  (h : Attempt svc out protocol targetPort start w allocation created runtime)

include h

theorem Attempt.candidate (hlow : svc.portRange.start ≤ start) :
    Candidate svc w allocation := by
  rcases h.free with ⟨_, hsome, hrange, hfree⟩
  cases hsome
  constructor
  · exact ⟨UInt16.le_trans hlow hrange.left, hrange.right⟩
  · rw [h.protocol_eq]
    exact hfree
  · exact h.unbound

theorem Attempt.generated {calls : Nat} (hcalls : w.calls + 3 < calls) :
    GeneratedBetween out w calls allocation.id :=
  ⟨w.calls + 2, by lia, by lia, h.id_eq⟩

/-- The next round starts higher. -/
theorem Attempt.le_checkedSucc (hlow : svc.portRange.start ≤ start) {next : UInt16}
    (hnext : checkedSucc allocation.port = some next) : svc.portRange.start ≤ next := by
  have hsucc := toNat_checkedSucc hnext
  have hport := UInt16.le_iff_toNat_le.mp (h.candidate hlow).inRange.left
  rw [UInt16.le_iff_toNat_le]
  lia

end Attempts

theorem PersistenceFails.reason {w : World rt} {allocation : Allocation} {db : Database}
    (h : PersistenceFails out w allocation db) :
    ((exists error, persistCreated allocation w.db = .error error) ∧ db = w.db) ∨
      (RepositoryFails out ∧ (db = w.db ∨ persistCreated allocation w.db = .ok db)) := by
  rcases h with hrefused | ⟨fault, hfault, ⟨_, hlost⟩ | ⟨_, hkept⟩⟩
  · exact Or.inl hrefused
  · exact Or.inr ⟨⟨_, fault, hfault⟩, Or.inl hlost⟩
  · exact Or.inr ⟨⟨_, fault, hfault⟩, Or.inr hkept⟩

theorem createLoop_effects (protocol : Protocol) (targetPort : Option UInt16) :
    forall (fuel : Nat) (nextPort : Option UInt16)
      (hfuel : remainingPorts nextPort ≤ fuel) (w : World rt),
      (forall start, nextPort = some start -> svc.portRange.start ≤ start) ->
      Ensures (createLoop svc out protocol targetPort fuel nextPort hfuel)
        (fun _ w' => Effects svc out w w') w := by
  intro fuel
  induction fuel with
  | zero =>
      intro nextPort hfuel w _
      cases nextPort with
      | none => exact Relation.ReflTransGen.refl
      | some start => exact absurd hfuel (not_remainingPorts_some_le_zero start)
  | succ fuel ih =>
      intro nextPort hfuel w hstart
      cases nextPort with
      | none => exact Relation.ReflTransGen.refl
      | some start =>
          have hlow : svc.portRange.start ≤ start := hstart start rfl
          apply ensures_createLoop_succ
          · intro error _
            exact Effects.quiet (Nat.le_succ _)
          · intro _
            exact Effects.quiet (Nat.le_succ _)
          · intro allocation runtime h
            have hrefused : Effect svc out w
                { w with runtime := runtime, calls := w.calls + 4 } :=
              Effect.createRefused (h.candidate hlow) (h.generated (by lia)) h.create_eq
            refine ensures_mono ?_ (ih _ _ _ ?_)
            · intro _ w' heffects
              exact Relation.ReflTransGen.head hrefused heffects
            · intro next hnext
              exact h.le_checkedSucc hlow hnext
          · intro allocation error runtime _ h
            exact Relation.ReflTransGen.single
              (Effect.createRefused (h.candidate hlow) (h.generated (by lia)) h.create_eq)
          · intro allocation runtime error db h hfails
            exact Relation.ReflTransGen.single
              (Effect.createUndone (h.candidate hlow) (h.generated (by lia)) h.create_eq
                hfails.reason rfl)
          · intro allocation runtime db h hpersist
            exact Relation.ReflTransGen.single
              (Effect.created (h.candidate hlow) (h.generated (by lia)) h.create_eq hpersist)

theorem createAllocation_effects (protocol : Protocol)
    (targetPort : Option UInt16) (w : World rt) :
    Ensures (createAllocation svc out protocol targetPort)
      (fun _ w' => Effects svc out w w') w := by
  unfold createAllocation
  simp only [ensures_bind, ensures_readFailpoints, continues_ok]
  split
  · exact Relation.ReflTransGen.refl
  · apply createLoop_effects
    intro start hstart
    cases hstart
    exact UInt16.le_refl _

/-- Shared by the two ways of assigning a binding. -/
theorem assignBinding_effects {allocation : Allocation}
    {existing : Option Binding} {binding : Binding} {w : World rt} {calls : Nat}
    (hcalls : w.calls ≤ calls)
    (hget : getAllocationWithBinding binding.allocationId w.db =
      .ok (some (allocation, existing))) :
    Ensures (assignBinding svc out allocation binding)
      (fun _ w' => Effects svc out w w') { w with calls := calls } := by
  unfold assignBinding
  rw [ensures_bind]
  apply ensures_repoWrite
  · intro error h
    cases h
  · intro fault hfault
    exact Effects.quiet (Nat.le_succ_of_le hcalls)
  · intro fault result db hfault h
    cases h
    exact Relation.ReflTransGen.single
      (Effect.bindingUnapplied (Nat.le_succ_of_le hcalls) hget
        (Or.inr ⟨_, _, hfault⟩))
  · intro result db h
    cases h
    simp only [continues_ok, ensures_bind, ensures_readFailpoints]
    split
    · rename_i htimeout
      exact Relation.ReflTransGen.single
        (Effect.bindingUnapplied (Nat.le_succ_of_le hcalls) hget
          (Or.inl htimeout))
    · simp only [ensures_bind, ensures_callRuntime, continues_ok]
      have happlied : Effects svc out w
          { w with
            db := Storage.putBinding binding w.db
            runtime := (svc.runtime.update (out.runtime (calls + 1))
              (allocationWithBinding allocation binding) svc.applyTimeoutMs
              w.runtime).2
            calls := calls + 2 } :=
        Relation.ReflTransGen.single
          (Effect.bindingApplied (by lia) hget rfl)
      apply ensures_orRuntimeError
      · intro error _
        exact happlied
      · intro _ _
        exact happlied

theorem putBinding_effects (id host : String) (targetPort : UInt16)
    (w : World rt) :
    Ensures (putBinding svc out id host targetPort)
      (fun _ w' => Effects svc out w w') w := by
  unfold putBinding
  cases parseIpLiteral host with
  | error _ => exact Relation.ReflTransGen.refl
  | ok _ =>
      rw [ensures_bind]
      apply ensures_repoRead
      · intro error
        exact Effects.quiet (Nat.le_succ _)
      intro found hget
      cases found with
      | none => exact Effects.quiet (Nat.le_succ _)
      | some found =>
          rcases found with ⟨allocation, existing⟩
          simp only [continues_ok, ensures_bind, ensures_currentTimeMs]
          refine ensures_mono ?_
            (assignBinding_effects (w := w) (Nat.le_add_right w.calls 2) hget)
          intro result w' heffects
          cases result with
          | error _ => exact heffects
          | ok _ => exact heffects

theorem updateAllocation_effects (id : String) (targetPort : Option UInt16)
    (host : Option String) (w : World rt) :
    Ensures (updateAllocation svc out id targetPort host)
      (fun _ w' => Effects svc out w w') w := by
  unfold updateAllocation
  rw [ensures_bind]
  apply ensures_repoRead
  · intro error
    exact Effects.quiet (Nat.le_succ _)
  intro found hget
  cases found with
  | none => exact Effects.quiet (Nat.le_succ _)
  | some found =>
      rcases found with ⟨allocation, existing⟩
      simp only [continues_ok]
      split
      · split
        · exact Effects.quiet (Nat.le_succ _)
        · simp only [ensures_bind, ensures_currentTimeMs, continues_ok]
          exact assignBinding_effects (Nat.le_add_right w.calls 2) hget
      · exact Effects.quiet (Nat.le_succ _)

theorem deleteBinding_effects (id : String) (w : World rt) :
    Ensures (deleteBinding svc out id) (fun _ w' => Effects svc out w w') w := by
  unfold deleteBinding
  rw [ensures_bind]
  apply ensures_repoRead
  · intro error
    exact Effects.quiet (Nat.le_succ _)
  intro found hget
  match found, hget with
  | none, _ => exact Effects.quiet (Nat.le_succ _)
  | some (_, none), _ => exact Effects.quiet (Nat.le_succ _)
  | some (allocation, some existing), hget =>
      simp only [continues_ok, ensures_bind, ensures_currentTimeMs]
      -- The join found a binding row, so the delete finds it too.
      have hchanged : (Storage.deleteBinding id (out.clock (w.calls + 1)) w.db).1 =
          true := by
        rcases findBinding_of_getAllocationWithBinding hget with ⟨stored, hrow⟩
        exact deleteBinding_fst hrow
      apply ensures_repoWrite
      · intro error h
        cases h
      · intro fault hfault
        exact Effects.quiet (Nat.le_add_right w.calls 3)
      · intro fault result db hfault h
        have hsnd : (Storage.deleteBinding id (out.clock (w.calls + 1)) w.db).2 = db :=
          congrArg Prod.snd (Except.ok.inj h)
        rw [← hsnd]
        exact Relation.ReflTransGen.single
          (Effect.unbindingUnapplied (Nat.le_add_right w.calls 3) hget
            (Or.inr ⟨_, _, hfault⟩))
      · intro result db h
        have hfst : true = result :=
          hchanged.symm.trans (congrArg Prod.fst (Except.ok.inj h))
        have hsnd : (Storage.deleteBinding id (out.clock (w.calls + 1)) w.db).2 = db :=
          congrArg Prod.snd (Except.ok.inj h)
        rw [← hfst, ← hsnd, continues_ok, if_pos rfl]
        simp only [ensures_bind, ensures_readFailpoints, continues_ok]
        split
        · rename_i htimeout
          exact Relation.ReflTransGen.single
            (Effect.unbindingUnapplied (Nat.le_add_right w.calls 3) hget
              (Or.inl htimeout))
        · simp only [ensures_bind, ensures_callRuntime, continues_ok]
          have happlied : Effects svc out w
              { w with
                db := (Storage.deleteBinding id (out.clock (w.calls + 1)) w.db).2
                runtime := (svc.runtime.update (out.runtime (w.calls + 3))
                  (allocationWithoutBinding allocation (out.clock (w.calls + 1)))
                  svc.applyTimeoutMs w.runtime).2
                calls := w.calls + 4 } :=
            Relation.ReflTransGen.single
              (Effect.unbindingApplied (by lia) hget rfl)
          apply ensures_orRuntimeError
          · intro error _
            exact happlied
          · intro _ _
            exact happlied

theorem deleteAllocation_effects (id : String) (w : World rt) :
    Ensures (deleteAllocation svc out id)
      (fun _ w' => Effects svc out w w') w := by
  unfold deleteAllocation
  rw [ensures_bind]
  apply ensures_repoRead
  · intro error
    exact Effects.quiet (Nat.le_succ _)
  intro found hget
  cases found with
  | none => exact Effects.quiet (Nat.le_succ _)
  | some allocation =>
      simp only [continues_ok, ensures_bind, ensures_readFailpoints]
      split
      · exact Effects.quiet (Nat.le_succ _)
      · simp only [ensures_bind, ensures_callRuntime, continues_ok]
        rcases hdelete : svc.runtime.delete (out.runtime w.afterCall.calls) id
            svc.applyTimeoutMs w.afterCall.runtime with ⟨deleted, runtime⟩
        apply ensures_orRuntimeError
        · intro error herror
          cases herror
          exact Relation.ReflTransGen.single
            (Effect.deleteRefused (Nat.le_add_right w.calls 2) hget hdelete)
        · intro done hdone
          cases hdone
          simp only [continues_ok, ensures_bind, ensures_readFailpoints]
          split
          · rename_i hfailpoint
            simp only [ensures_bind, ensures_callRuntime, continues_ok]
            have hrestored : Effects svc out w
                { w with
                  runtime := (svc.runtime.restore (out.runtime (w.calls + 2))
                    allocation svc.applyTimeoutMs runtime).2
                  calls := w.calls + 3 } :=
              Relation.ReflTransGen.single
                (Effect.deleteRestored (by lia) hget hfailpoint hdelete rfl)
            apply ensures_orRuntimeError
            · intro error _
              exact hrestored
            · intro _ _
              exact hrestored
          · rw [ensures_bind]
            apply ensures_repoWrite
            · intro error h
              cases h
            · intro fault hfault
              exact Relation.ReflTransGen.single
                (Effect.deleteUnpersisted (Nat.le_add_right w.calls 3) hget
                  hdelete ⟨_, _, hfault⟩)
            · intro fault result db hfault h
              cases h
              exact Relation.ReflTransGen.single
                (Effect.deleted (Nat.le_add_right w.calls 3) hget hdelete)
            · intro result db h
              cases h
              rw [continues_ok]
              split
              · exact Relation.ReflTransGen.single
                  (Effect.deleted (Nat.le_add_right w.calls 3) hget hdelete)
              · exact Relation.ReflTransGen.single
                  (Effect.deleted (Nat.le_add_right w.calls 3) hget hdelete)

/-- Every mutation is a sequence of effects. -/
theorem perform_effects (mutation : Mutation) (w : World rt) :
    Effects svc out w (perform svc out mutation w) := by
  cases mutation with
  | createAllocation protocol targetPort =>
      exact createAllocation_effects protocol targetPort w
  | putBinding id host targetPort => exact putBinding_effects id host targetPort w
  | deleteBinding id => exact deleteBinding_effects id w
  | updateAllocation id targetPort host =>
      exact updateAllocation_effects id targetPort host w
  | setTarget id host => exact updateAllocation_effects id none (some host) w
  | deleteAllocation id => exact deleteAllocation_effects id w

theorem performAll_effects (mutations : List Mutation) (w : World rt) :
    Effects svc out w (performAll svc out mutations w) := by
  induction mutations generalizing w with
  | nil => exact Relation.ReflTransGen.refl
  | cons mutation rest ih =>
      exact (perform_effects mutation w).trans (ih (perform svc out mutation w))

/-- A property that no effect breaks holds after every run. -/
theorem performAll_invariant {inv : World rt -> Prop}
    (hstep : forall w w', inv w -> Effect svc out w w' -> inv w')
    (mutations : List Mutation) {w : World rt} (h : inv w) :
    inv (performAll svc out mutations w) := by
  have heffects : Effects svc out w (performAll svc out mutations w) :=
    performAll_effects mutations w
  generalize performAll svc out mutations w = final at heffects
  induction heffects with
  | refl => exact h
  | tail _ heffect ih => exact hstep _ _ ih heffect

end Refinement

end Service
end Relayd
