import Relayd.Foundation.Fallible

/-!
# Programs that are dropped on the way

A program is compared with the run of it that is dropped at some point.  The dropped
run does what the completed one does as long as the state is live; from then on it is
idle, it changes nothing that is seen of the state.  The rules take the comparison
apart along the structure of the program, as those for `Ensures` do.
-/

namespace Relayd
namespace Foundation
namespace Fallible

section Interruption

variable {state error value result view : Type} (live : state -> Prop) (seen : state -> view)

/-- Once dropped, the program changes nothing that is seen. -/
def Idle (program : Fallible state error value) : Prop :=
  forall v, Keeps (fun s => ¬ live s ∧ seen s = v) program

/-- The dropped run is the completed one, or it was dropped on the way and what is seen
of it stands in the relation `left` to what is seen of the completed run. -/
def Interrupted (completed dropped : Fallible state error value)
    (left : view -> view -> Prop) (s : state) : Prop :=
  (dropped.exec s = completed.exec s ∧ live (completed.exec s).2) ∨
    (¬ live (dropped.exec s).2 ∧
      left (seen (completed.exec s).2) (seen (dropped.exec s).2))

variable {live} {seen}

theorem idle_pure (a : value) : Idle live seen (pure a : Fallible state error value) :=
  fun _ => keeps_pure _ a

theorem idle_throw (e : error) : Idle live seen (throw e : Fallible state error value) :=
  fun _ => keeps_throw _ e

theorem idle_attempt {program : Fallible state error value} (h : Idle live seen program) :
    Idle live seen (attempt program) :=
  fun v => keeps_attempt (h v)

theorem idle_bind {program : Fallible state error value}
    {next : value -> Fallible state error result} (h : Idle live seen program)
    (hnext : forall a, Idle live seen (next a)) : Idle live seen (program >>= next) :=
  fun v => keeps_bind (h v) (fun a => hnext a v)

theorem interrupted_bind {completed dropped : Fallible state error value}
    {next next' : value -> Fallible state error result} {left left' : view -> view -> Prop}
    {s : state} (h : Interrupted live seen completed dropped left s)
    (hidle : forall a, Idle live seen (next' a))
    (hstop : forall v, left (seen (completed.exec s).2) v -> left' (seen (completed.exec s).2) v)
    (hgoOn : forall a v, left (seen (completed.exec s).2) v ->
      left' (seen ((next a).exec (completed.exec s).2).2) v)
    (hnext : forall a, (completed.exec s).1 = .ok a -> live (completed.exec s).2 ->
      Interrupted live seen (next a) (next' a) left' (completed.exec s).2) :
    Interrupted live seen (completed >>= next) (dropped >>= next') left' s := by
  rcases h with ⟨hsame, hlive⟩ | ⟨hdropped, hleft⟩
  · unfold Interrupted
    rw [exec_bind, exec_bind, hsame]
    rcases hcompleted : completed.exec s with ⟨r, s'⟩
    rw [hcompleted] at hlive
    cases r with
    | error e => exact Or.inl ⟨rfl, hlive⟩
    | ok a =>
        rw [hcompleted] at hnext
        exact hnext a rfl hlive
  · -- The dropped run may still go through its second half, to no effect.
    have hrest : ¬ live ((dropped >>= next').exec s).2 ∧
        seen ((dropped >>= next').exec s).2 = seen (dropped.exec s).2 := by
      rw [exec_bind]
      rcases hrun : dropped.exec s with ⟨r, s'⟩
      rw [hrun] at hdropped
      cases r with
      | error e => exact ⟨hdropped, rfl⟩
      | ok a => exact hidle a (seen s') s' ⟨hdropped, rfl⟩
    right
    constructor
    · exact hrest.left
    · rw [hrest.right, exec_bind]
      rcases hrun : completed.exec s with ⟨r, s'⟩
      rw [hrun] at hstop hgoOn hleft
      cases r with
      | error e => exact hstop _ hleft
      | ok a => exact hgoOn a _ hleft

/-!
# Programs with a cut

The two runs of a program are followed together: `reached` is what is known of the
state at the point they have come to.
-/

variable (live) (seen)

structure Cut (completed dropped : Fallible state error value) (left : view -> view -> Prop)
    (reached : Prop) (s : state) : Prop where
  idle : Idle live seen dropped
  outcome : reached -> live s -> Interrupted live seen completed dropped left s

variable {live} {seen}

section Rules

variable {completed dropped : Fallible state error value} {left left' : view -> view -> Prop}
  {reached reached' : Prop} {s : state}

theorem cut_pure (a : value) :
    Cut live seen (pure a : Fallible state error value) (pure a) left reached s where
  idle := idle_pure a
  outcome := fun _ hlive => Or.inl ⟨rfl, hlive⟩

theorem cut_throw (e : error) :
    Cut live seen (throw e : Fallible state error value) (throw e) left reached s where
  idle := idle_throw e
  outcome := fun _ hlive => Or.inl ⟨rfl, hlive⟩

theorem Cut.mono (h : Cut live seen completed dropped left reached s)
    (hreached : reached' -> reached)
    (hleft : reached' -> forall v v', left v v' -> left' v v') :
    Cut live seen completed dropped left' reached' s where
  idle := h.idle
  outcome := by
    intro hr hlive
    rcases h.outcome (hreached hr) hlive with hsame | ⟨hdropped, hrelated⟩
    · exact Or.inl hsame
    · exact Or.inr ⟨hdropped, hleft hr _ _ hrelated⟩

theorem Cut.attempt (h : Cut live seen completed dropped left reached s) :
    Cut live seen (attempt completed) (attempt dropped) left reached s where
  idle := idle_attempt h.idle
  outcome := by
    intro hr hlive
    rcases h.outcome hr hlive with ⟨hsame, hlive⟩ | ⟨hdropped, hleft⟩
    · left
      constructor
      · show (Except.ok (dropped.exec s).1, (dropped.exec s).2) =
          (Except.ok (completed.exec s).1, (completed.exec s).2)
        rw [hsame]
      · exact hlive
    · exact Or.inr ⟨hdropped, hleft⟩

/-- Dropped in its first half, the dropped run stays as it is, while the completed one
goes on with its second half. -/
theorem Cut.bind {next next' : value -> Fallible state error result}
    (h : Cut live seen completed dropped left reached s)
    (hstop : reached -> forall v,
      left (seen (completed.exec s).2) v -> left' (seen (completed.exec s).2) v)
    (hgoOn : reached -> forall a v, left (seen (completed.exec s).2) v ->
      left' (seen ((next a).exec (completed.exec s).2).2) v)
    (hnext : forall a, Cut live seen (next a) (next' a) left'
      (reached ∧ (completed.exec s).1 = .ok a) (completed.exec s).2) :
    Cut live seen (completed >>= next) (dropped >>= next') left' reached s where
  idle := idle_bind h.idle (fun a => (hnext a).idle)
  outcome := by
    intro hr hlive
    apply interrupted_bind (h.outcome hr hlive)
    · exact fun a => (hnext a).idle
    · exact hstop hr
    · exact hgoOn hr
    · intro a ha hlive
      exact (hnext a).outcome ⟨hr, ha⟩ hlive

/-- A first half that changes nothing that is seen. -/
theorem Cut.bind_quiet {next next' : value -> Fallible state error result}
    (h : Cut live seen completed dropped (fun _ v => v = seen s) reached s)
    (hbefore : reached -> forall v, left v (seen s))
    (hnext : forall a, Cut live seen (next a) (next' a) left
      (reached ∧ (completed.exec s).1 = .ok a) (completed.exec s).2) :
    Cut live seen (completed >>= next) (dropped >>= next') left reached s := by
  apply h.bind
  · rintro hr v rfl
    exact hbefore hr _
  · rintro hr a v rfl
    exact hbefore hr _
  · exact hnext

end Rules

/-!
# Conclusions

What a program does last is often only to turn a result into its own.
-/

/-- However the program ends, it leaves the state as it is. -/
def Concludes (finish : value -> Fallible state error result) : Prop :=
  forall a s, ((finish a).exec s).2 = s

theorem concludes_pure {f : value -> result} :
    Concludes (fun a => (pure (f a) : Fallible state error result)) :=
  fun _ _ => rfl

theorem concludes_bind {last : Type} {finish : value -> Fallible state error result}
    {next : value -> result -> Fallible state error last} (h : Concludes finish)
    (hnext : forall a, Concludes (next a)) : Concludes (fun a => finish a >>= next a) := by
  intro a s
  have hstate := h a s
  show ((finish a >>= next a).exec s).2 = s
  rw [exec_bind]
  rcases hrun : (finish a).exec s with ⟨r, s'⟩
  rw [hrun] at hstate
  cases r with
  | error e => exact hstate
  | ok b => exact (hnext a b s').trans hstate

theorem keeps_of_concludes {finish : value -> Fallible state error result}
    (h : Concludes finish) (inv : state -> Prop) (a : value) : Keeps inv (finish a) := by
  intro s hinv
  rw [ensures_exec, h]
  exact hinv

theorem cut_of_concludes {finish : value -> Fallible state error result}
    {left : view -> view -> Prop} {reached : Prop} {s : state} (h : Concludes finish)
    (a : value) : Cut live seen (finish a) (finish a) left reached s where
  idle := fun _ => keeps_of_concludes h _ a
  outcome := by
    intro _ hlive
    left
    rw [h]
    exact ⟨rfl, hlive⟩

/-- A first half that both runs have in common and that only looks at the state. -/
theorem cut_bind_of_concludes {last : Type} {look : value -> Fallible state error result}
    {next next' : result -> Fallible state error last} {left : view -> view -> Prop}
    {reached : Prop} {s : state} (h : Concludes look) (a : value)
    (hnext : forall b, Cut live seen (next b) (next' b) left
      (reached ∧ ((look a).exec s).1 = .ok b) s) :
    Cut live seen (look a >>= next) (look a >>= next') left reached s := by
  have hlook : Cut live seen (look a) (look a) (fun _ _ => False) reached s :=
    cut_of_concludes h a
  apply hlook.bind
  · intro _ _ hleft
    cases hleft
  · intro _ _ _ hleft
    cases hleft
  · intro b
    rw [h]
    exact hnext b

theorem Cut.bind_concludes {completed dropped : Fallible state error value}
    {finish : value -> Fallible state error result} {left : view -> view -> Prop}
    {reached : Prop} {s : state} (h : Cut live seen completed dropped left reached s)
    (hfinish : Concludes finish) :
    Cut live seen (completed >>= finish) (dropped >>= finish) left reached s := by
  apply h.bind
  · intro _ v hleft
    exact hleft
  · intro _ a v hleft
    rw [hfinish]
    exact hleft
  · intro a
    exact cut_of_concludes hfinish a

end Interruption

end Fallible
end Foundation
end Relayd
