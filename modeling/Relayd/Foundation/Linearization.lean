import Mathlib.Data.List.Basic
import Mathlib.Logic.Function.Basic
import Relayd.Foundation.Transition

/-!
# Linearizable objects

Calls of a shared object overlap: each is invoked, takes effect at one step of the
system, and returns.  A history of such calls is linearizable when the effects, taken in
the order in which they happened, are calls made one after the other of the sequential
object, with the same results.  `Simulation` is the rule by which a system is shown to
produce only such histories.
-/

namespace Relayd
namespace Foundation

variable {state label op result obj : Type}

inductive Mark (op result : Type) where
  | invoked (call : Nat) (operation : op)
  | effect (call : Nat) (operation : op) (answer : result)
  | returned (call : Nat) (answer : result)

namespace Mark

def call : Mark op result -> Nat
  | .invoked call _ => call
  | .effect call _ _ => call
  | .returned call _ => call

/-- Where a mark stands among those of its call. -/
def rank : Mark op result -> Nat
  | .invoked _ _ => 0
  | .effect _ _ _ => 1
  | .returned _ _ => 2

/-- What the callers see of a mark. -/
def visible : Mark op result -> Bool
  | .effect _ _ _ => false
  | _ => true

end Mark

structure Effect (op result : Type) where
  call : Nat
  operation : op
  answer : result

def effectOf : Mark op result -> Option (Effect op result)
  | .effect call operation answer => some ⟨call, operation, answer⟩
  | _ => none

/-- The invocations and the returns of a log. -/
def history (log : List (Mark op result)) : List (Mark op result) :=
  log.filter Mark.visible

def effects (log : List (Mark op result)) : List (Effect op result) :=
  log.filterMap effectOf

def marksOf (call : Nat) (log : List (Mark op result)) : List (Mark op result) :=
  log.filter (fun mark => mark.call == call)

/-!
# Sequential and concurrent histories
-/

/-- The calls made one after the other of the sequential object. -/
inductive Sequential (spec : obj -> op -> result -> obj -> Prop) :
    obj -> List (Effect op result) -> obj -> Prop where
  | nil (s : obj) : Sequential spec s [] s
  | snoc {s s' s'' : obj} {done : List (Effect op result)} {next : Effect op result} :
      Sequential spec s done s' -> spec s' next.operation next.answer s'' ->
      Sequential spec s (done ++ [next]) s''

/-- The one comes before the other. -/
def Before {alpha : Type} (xs : List alpha) (x y : alpha) : Prop :=
  List.Sublist [x, y] xs

/-- The calls of the history, put in this order, are calls of the sequential object: every
call that returned is there with its result, none is there twice or was never invoked,
and a call that had returned before another was invoked comes before it. -/
structure Linearizes (spec : obj -> op -> result -> obj -> Prop) (start : obj)
    (calls : List (Mark op result)) (order : List (Effect op result)) (final : obj) :
    Prop where
  sequential : Sequential spec start order final
  once : (order.map Effect.call).Nodup
  invoked : forall e, e ∈ order -> Mark.invoked e.call e.operation ∈ calls
  returned : forall call answer, Mark.returned call answer ∈ calls ->
    exists operation, ⟨call, operation, answer⟩ ∈ order
  ordered : forall call answer other operation,
    Before calls (.returned call answer) (.invoked other operation) ->
    forall e e', e ∈ order -> e' ∈ order -> e.call = call -> e'.call = other ->
      Before order e e'

theorem Sequential.mono {spec spec' : obj -> op -> result -> obj -> Prop}
    (hspec : forall s operation answer s', spec s operation answer s' ->
      spec' s operation answer s') {s s' : obj} {done : List (Effect op result)}
    (h : Sequential spec s done s') : Sequential spec' s done s' := by
  induction h with
  | nil => exact Sequential.nil _
  | snoc _ hnext ih => exact ih.snoc (hspec _ _ _ _ hnext)

theorem Linearizes.mono {spec spec' : obj -> op -> result -> obj -> Prop} {start final : obj}
    {calls : List (Mark op result)} {order : List (Effect op result)}
    (h : Linearizes spec start calls order final)
    (hspec : forall s operation answer s', spec s operation answer s' ->
      spec' s operation answer s') : Linearizes spec' start calls order final :=
  { h with sequential := h.sequential.mono hspec }

/-!
# Logs in which every call takes effect between its invocation and its return
-/

inductive Progress (op result : Type) where
  | idle
  | invoked (operation : op)
  | effective (operation : op) (answer : result)
  | returned (operation : op) (answer : result)

/-- The marks a call has left behind. -/
def Progress.marks (call : Nat) : Progress op result -> List (Mark op result)
  | .idle => []
  | .invoked operation => [.invoked call operation]
  | .effective operation answer =>
      [.invoked call operation, .effect call operation answer]
  | .returned operation answer =>
      [.invoked call operation, .effect call operation answer, .returned call answer]

def Tracks (progress : Nat -> Progress op result) (log : List (Mark op result)) : Prop :=
  forall call, marksOf call log = (progress call).marks call

theorem marksOf_append (call : Nat) (log log' : List (Mark op result)) :
    marksOf call (log ++ log') = marksOf call log ++ marksOf call log' :=
  List.filter_append log log'

theorem mem_marksOf {call : Nat} {mark : Mark op result} {log : List (Mark op result)} :
    mark ∈ marksOf call log <-> mark ∈ log ∧ mark.call = call := by
  unfold marksOf
  rw [List.mem_filter, beq_iff_eq]

theorem Tracks.snoc {progress : Nat -> Progress op result} {log : List (Mark op result)}
    (h : Tracks progress log) (mark : Mark op result) {moved : Progress op result}
    (hmoved : moved.marks mark.call = (progress mark.call).marks mark.call ++ [mark]) :
    Tracks (Function.update progress mark.call moved) (log ++ [mark]) := by
  intro call
  rw [marksOf_append, h call]
  by_cases hcall : call = mark.call
  · rw [hcall, Function.update_self, hmoved]
    simp only [marksOf, List.filter_cons, beq_self_eq_true, if_true, List.filter_nil]
  · rw [Function.update_of_ne hcall]
    unfold marksOf
    rw [List.filter_cons_of_neg, List.filter_nil, List.append_nil]
    intro hsame
    exact hcall (beq_iff_eq.mp hsame).symm

section Tracks

variable {progress : Nat -> Progress op result} {log : List (Mark op result)}

theorem Tracks.mem_marks (h : Tracks progress log) {mark : Mark op result}
    (hmem : mark ∈ log) : mark ∈ (progress mark.call).marks mark.call := by
  rw [← h mark.call]
  exact mem_marksOf.mpr ⟨hmem, rfl⟩

theorem Progress.pairwise_marks (call : Nat) (progress : Progress op result) :
    (progress.marks call).Pairwise (fun mark mark' => mark.rank < mark'.rank) := by
  cases progress <;> simp [Progress.marks, Mark.rank]

/-- The marks of one call come in their order. -/
theorem Tracks.pairwise (h : Tracks progress log) :
    log.Pairwise (fun mark mark' => mark.call = mark'.call -> mark.rank < mark'.rank) := by
  rw [List.pairwise_iff_forall_sublist]
  intro mark mark' hsublist hcall
  have hmarks : List.Sublist [mark, mark'] (marksOf mark.call log) := by
    have hfiltered := hsublist.filter (fun m : Mark op result => m.call == mark.call)
    simpa [marksOf, hcall] using hfiltered
  rw [h mark.call] at hmarks
  exact List.pairwise_iff_forall_sublist.mp
    (Progress.pairwise_marks mark.call (progress mark.call)) hmarks

theorem effects_concat (log : List (Mark op result)) (mark : Mark op result) :
    effects (log ++ [mark]) = effects log ++ (effectOf mark).toList := by
  unfold effects
  rw [List.filterMap_append]
  cases mark <;> rfl

theorem mem_effects {e : Effect op result} :
    e ∈ effects log <-> Mark.effect e.call e.operation e.answer ∈ log := by
  unfold effects
  rw [List.mem_filterMap]
  constructor
  · intro h
    rcases h with ⟨mark, hmem, hmark⟩
    cases mark with
    | effect call operation answer =>
        cases hmark
        exact hmem
    | invoked call operation => cases hmark
    | returned call answer => cases hmark
  · intro h
    exact ⟨_, h, rfl⟩

/-- A call that took effect was invoked with that operation. -/
theorem Tracks.invoked_of_effect (h : Tracks progress log) {call : Nat} {operation : op}
    {answer : result} (hmem : Mark.effect call operation answer ∈ log) :
    Mark.invoked call operation ∈ log := by
  have hmarks := h.mem_marks hmem
  apply (mem_marksOf.mp _).left
  · exact call
  rw [h call]
  simp only [Mark.call] at hmarks
  cases hprogress : progress call with
  | idle => simp [hprogress, Progress.marks] at hmarks
  | invoked other => simp [hprogress, Progress.marks] at hmarks
  | effective other answer' =>
      simp [hprogress, Progress.marks] at hmarks
      simp [Progress.marks, hmarks.left]
  | returned other answer' =>
      simp [hprogress, Progress.marks] at hmarks
      simp [Progress.marks, hmarks.left]

/-- A call that returned had taken effect with that result. -/
theorem Tracks.effect_of_returned (h : Tracks progress log) {call : Nat} {answer : result}
    (hmem : Mark.returned call answer ∈ log) :
    exists operation, Mark.effect call operation answer ∈ log := by
  have hmarks := h.mem_marks hmem
  simp only [Mark.call] at hmarks
  cases hprogress : progress call with
  | idle => simp [hprogress, Progress.marks] at hmarks
  | invoked operation => simp [hprogress, Progress.marks] at hmarks
  | effective operation answer' => simp [hprogress, Progress.marks] at hmarks
  | returned operation answer' =>
      simp [hprogress, Progress.marks] at hmarks
      refine ⟨operation, (mem_marksOf.mp (?_ : _ ∈ marksOf call log)).left⟩
      rw [h call, hprogress, hmarks]
      simp [Progress.marks]

/-- Of two marks in a row, any mark of the first's call that ranks below it comes before
any mark of the second's call that ranks above it. -/
theorem Tracks.before (h : Tracks progress log) {mark mark' low high : Mark op result}
    (hbefore : Before log mark mark') (hlow : low ∈ log) (hhigh : high ∈ log)
    (hlowCall : low.call = mark.call) (hhighCall : high.call = mark'.call)
    (hlowRank : low.rank < mark.rank) (hhighRank : mark'.rank < high.rank) :
    Before log low high := by
  rcases List.cons_sublist_iff.mp hbefore with ⟨front, back, hlog, hmark, hrest⟩
  have hmark' : mark' ∈ back := List.singleton_sublist.mp hrest
  have hpairwise := h.pairwise
  rw [hlog] at hlow hhigh hpairwise ⊢
  have hacross := (List.pairwise_append.mp hpairwise).right.right
  have hlowFront : low ∈ front := by
    rcases List.mem_append.mp hlow with hfront | hback
    · exact hfront
    · have := hacross mark hmark low hback hlowCall.symm
      lia
  have hhighBack : high ∈ back := by
    rcases List.mem_append.mp hhigh with hfront | hback
    · have := hacross high hfront mark' hmark' hhighCall
      lia
    · exact hback
  exact (List.singleton_sublist.mpr hlowFront).append (List.singleton_sublist.mpr hhighBack)

theorem Tracks.nodup_effects (h : Tracks progress log) :
    ((effects log).map Effect.call).Nodup := by
  unfold effects List.Nodup
  rw [List.pairwise_map, List.pairwise_filterMap]
  apply h.pairwise.imp
  intro mark mark' hrank e he e' he' hcall
  cases mark with
  | effect call operation answer =>
      cases mark' with
      | effect call' operation' answer' =>
          cases he
          cases he'
          have := hrank hcall
          simp [Mark.rank] at this
      | invoked call' operation' => cases he'
      | returned call' answer' => cases he'
  | invoked call operation => cases he
  | returned call answer => cases he

/-- What a log in which every call takes effect in its time says about its history. -/
theorem Tracks.linearizes (h : Tracks progress log)
    {spec : obj -> op -> result -> obj -> Prop} {start final : obj}
    (hsequential : Sequential spec start (effects log) final) :
    Linearizes spec start (history log) (effects log) final where
  sequential := hsequential
  once := h.nodup_effects
  invoked := by
    intro e he
    unfold history
    rw [List.mem_filter]
    exact ⟨h.invoked_of_effect (mem_effects.mp he), rfl⟩
  returned := by
    intro call answer hreturned
    unfold history at hreturned
    rcases h.effect_of_returned (List.mem_filter.mp hreturned).left with ⟨operation, hmem⟩
    exact ⟨operation, mem_effects.mpr hmem⟩
  ordered := by
    intro call answer other operation hbefore e e' he he' hcall hother
    have hlog : Before log (.returned call answer) (.invoked other operation) :=
      List.Sublist.trans hbefore List.filter_sublist
    have heffects := h.before hlog (mem_effects.mp he) (mem_effects.mp he') hcall hother
      (by simp [Mark.rank]) (by simp [Mark.rank])
    exact List.Sublist.filterMap effectOf heffects

end Tracks

/-!
# Systems whose calls take effect at one step
-/

/-- What a step with this mark does to the calls under way and to the sequential object. -/
inductive Accounts (spec : obj -> op -> result -> obj -> Prop)
    (before after : Nat -> Progress op result) (o : obj) :
    Option (Mark op result) -> obj -> Prop where
  | silent : after = before -> Accounts spec before after o none o
  | invoked {call : Nat} {operation : op} : before call = .idle ->
      after = Function.update before call (.invoked operation) ->
      Accounts spec before after o (some (.invoked call operation)) o
  | effect {call : Nat} {operation : op} {answer : result} {o' : obj} :
      before call = .invoked operation ->
      after = Function.update before call (.effective operation answer) ->
      spec o operation answer o' ->
      Accounts spec before after o (some (.effect call operation answer)) o'
  | returned {call : Nat} {operation : op} {answer : result} :
      before call = .effective operation answer ->
      after = Function.update before call (.returned operation answer) ->
      Accounts spec before after o (some (.returned call answer)) o

/-- The mark a call leaves when it goes on from one progress to the other. -/
def Progress.mark (call : Nat) :
    Progress op result -> Progress op result -> Option (Mark op result)
  | .idle, .invoked operation => some (.invoked call operation)
  | .invoked _, .effective operation answer => some (.effect call operation answer)
  | .effective _ _, .returned _ answer => some (.returned call answer)
  | _, _ => none

section Accounts

variable {spec : obj -> op -> result -> obj -> Prop}
  {before after : Nat -> Progress op result} {o o' : obj} {call : Nat} {operation : op}
  {answer : result}

theorem Accounts.of_same (hafter : after = before) :
    Accounts spec before after o ((before call).mark call (after call)) o := by
  have hmark : (before call).mark call (after call) = none := by
    rw [hafter]
    cases before call <;> rfl
  rw [hmark]
  exact Accounts.silent hafter

theorem Accounts.of_invoked (hbefore : before call = .idle)
    (hafter : after = Function.update before call (.invoked operation)) :
    Accounts spec before after o ((before call).mark call (after call)) o := by
  have hmark : (before call).mark call (after call) = some (.invoked call operation) := by
    rw [hafter, hbefore, Function.update_self]
    rfl
  rw [hmark]
  exact Accounts.invoked hbefore hafter

theorem Accounts.of_effect (hbefore : before call = .invoked operation)
    (hafter : after = Function.update before call (.effective operation answer))
    (hspec : spec o operation answer o') :
    Accounts spec before after o ((before call).mark call (after call)) o' := by
  have hmark : (before call).mark call (after call) =
      some (.effect call operation answer) := by
    rw [hafter, hbefore, Function.update_self]
    rfl
  rw [hmark]
  exact Accounts.effect hbefore hafter hspec

theorem Accounts.of_returned (hbefore : before call = .effective operation answer)
    (hafter : after = Function.update before call (.returned operation answer)) :
    Accounts spec before after o ((before call).mark call (after call)) o := by
  have hmark : (before call).mark call (after call) = some (.returned call answer) := by
    rw [hafter, hbefore, Function.update_self]
    rfl
  rw [hmark]
  exact Accounts.returned hbefore hafter

end Accounts

/-- Every step of the system accounts for itself on the object its state stands for. -/
def Simulation (next : state -> label -> Option state)
    (mark : state -> label -> state -> Option (Mark op result))
    (spec : obj -> op -> result -> obj -> Prop)
    (progress : state -> Nat -> Progress op result) (related : state -> obj -> Prop) :
    Prop :=
  forall s l s' o, related s o -> next s l = some s' ->
    exists o', Accounts spec (progress s) (progress s') o (mark s l s') o' ∧ related s' o'

/-- The marks of a run. -/
def marks (next : state -> label -> Option state)
    (mark : state -> label -> state -> Option (Mark op result)) (labels : List label)
    (s : state) : List (Mark op result) :=
  observed next (fun s l s' => (mark s l s').toList) labels s

section Simulation

variable {next : state -> label -> Option state}
  {mark : state -> label -> state -> Option (Mark op result)}
  {spec : obj -> op -> result -> obj -> Prop}
  {progress : state -> Nat -> Progress op result} {related : state -> obj -> Prop}

/-- The log so far accounts for the calls and for the object. -/
def Explained (spec : obj -> op -> result -> obj -> Prop)
    (progress : state -> Nat -> Progress op result) (related : state -> obj -> Prop)
    (start : obj) (log : List (Mark op result)) (s : state) : Prop :=
  Tracks (progress s) log ∧
    exists o, Sequential spec start (effects log) o ∧ related s o

theorem Simulation.step (h : Simulation next mark spec progress related) {start : obj}
    {log : List (Mark op result)} {s s' : state} {l : label}
    (hlog : Explained spec progress related start log s) (hnext : next s l = some s') :
    Explained spec progress related start (log ++ (mark s l s').toList) s' := by
  rcases hlog with ⟨htracks, o, hsequential, hrelated⟩
  rcases h s l s' o hrelated hnext with ⟨o', haccounts, hrelated'⟩
  generalize mark s l s' = m at haccounts ⊢
  cases haccounts with
  | silent hprogress =>
      rw [Option.toList_none, List.append_nil]
      exact ⟨hprogress ▸ htracks, o, hsequential, hrelated'⟩
  | @invoked call operation hbefore hprogress =>
      rw [Option.toList_some]
      refine ⟨?_, o, ?_, hrelated'⟩
      · rw [hprogress]
        exact htracks.snoc (.invoked call operation) (hbefore ▸ rfl)
      · rw [effects_concat]
        exact (List.append_nil _).symm ▸ hsequential
  | @effect call operation answer _ hbefore hprogress hspec =>
      rw [Option.toList_some]
      refine ⟨?_, o', ?_, hrelated'⟩
      · rw [hprogress]
        exact htracks.snoc (.effect call operation answer) (hbefore ▸ rfl)
      · rw [effects_concat]
        exact hsequential.snoc hspec
  | @returned call operation answer hbefore hprogress =>
      rw [Option.toList_some]
      refine ⟨?_, o, ?_, hrelated'⟩
      · rw [hprogress]
        exact htracks.snoc (.returned call answer) (hbefore ▸ rfl)
      · rw [effects_concat]
        exact (List.append_nil _).symm ▸ hsequential

/-- Every run of the system linearizes: its effects, in the order they happened, lead the
sequential object to one that the state it ends in stands for. -/
theorem Simulation.linearizes (h : Simulation next mark spec progress related)
    {start s : state} {o : obj} {labels : List label} (hstart : related start o)
    (hidle : forall call, progress start call = .idle)
    (hrun : run next labels start = some s) :
    exists final, Linearizes spec o (history (marks next mark labels start))
      (effects (marks next mark labels start)) final ∧ related s final := by
  have hexplained : run next labels start = some s ∧
      Explained spec progress related o (marks next mark labels start) s := by
    apply run_history hrun
    · refine ⟨rfl, ?_, o, Sequential.nil o, hstart⟩
      intro call
      rw [hidle call]
      rfl
    · intro past l s s' hpast hnext
      rcases hpast with ⟨hpast, hlog⟩
      constructor
      · exact run_append hpast (run_cons.mpr ⟨s', hnext, rfl⟩)
      · unfold marks
        rw [observed_concat _ hpast hnext]
        exact h.step hlog hnext
  rcases hexplained.right with ⟨htracks, final, hsequential, hrelated⟩
  exact ⟨final, htracks.linearizes hsequential, hrelated⟩

end Simulation

/-!
# Locks

A lock names the task that holds it; whether a task holds it is told by the phase the
task has come to.
-/

section Owned

variable {phase : Type} {holds : phase -> Bool} {phases : Nat -> phase} {lock : Option Nat}

def Owned (holds : phase -> Bool) (phases : Nat -> phase) (lock : Option Nat) : Prop :=
  forall task, lock = some task <-> holds (phases task) = true

theorem Owned.keep (h : Owned holds phases lock) {task : Nat} {moved : phase}
    (hmoved : holds moved = holds (phases task)) :
    Owned holds (Function.update phases task moved) lock := by
  intro other
  by_cases hother : other = task
  · rw [hother, Function.update_self, hmoved]
    exact h task
  · rw [Function.update_of_ne hother]
    exact h other

theorem Owned.take (h : Owned holds phases none) {task : Nat} {moved : phase}
    (hmoved : holds moved = true) :
    Owned holds (Function.update phases task moved) (some task) := by
  intro other
  by_cases hother : other = task
  · rw [hother, Function.update_self, hmoved]
    exact ⟨fun _ => rfl, fun _ => rfl⟩
  · rw [Function.update_of_ne hother]
    constructor
    · intro hsame
      exact absurd (Option.some.inj hsame).symm hother
    · intro hholds
      cases (h other).mpr hholds

theorem Owned.release (h : Owned holds phases lock) {task : Nat} {moved : phase}
    (hholds : holds (phases task) = true) (hmoved : holds moved = false) :
    Owned holds (Function.update phases task moved) none := by
  intro other
  by_cases hother : other = task
  · rw [hother, Function.update_self, hmoved]
    exact ⟨nofun, nofun⟩
  · rw [Function.update_of_ne hother]
    constructor
    · intro hnone
      cases hnone
    · intro hholds'
      have hsame := ((h other).mpr hholds').symm.trans ((h task).mpr hholds)
      exact absurd (Option.some.inj hsame) hother

/-- Two tasks do not hold the lock at once. -/
theorem Owned.unique (h : Owned holds phases lock) {task other : Nat}
    (hholds : holds (phases task) = true) (hholds' : holds (phases other) = true) :
    task = other :=
  Option.some.inj (((h task).mpr hholds).symm.trans ((h other).mpr hholds'))

/-- The phase of the task that holds the lock. -/
def holderPhase (free : phase) (phases : Nat -> phase) (lock : Option Nat) : phase :=
  (lock.map phases).getD free

theorem Owned.holderPhase_eq (h : Owned holds phases lock) {task : Nat}
    (hholds : holds (phases task) = true) (free : phase) :
    holderPhase free phases lock = phases task := by
  rw [(h task).mpr hholds]
  rfl

theorem Owned.holderPhase_update (h : Owned holds phases lock) {task : Nat}
    (hholds : holds (phases task) = true) (free moved : phase) :
    holderPhase free (Function.update phases task moved) lock = moved := by
  rw [(h task).mpr hholds]
  exact Function.update_self task moved phases

/-- A task that does not hold the lock may move without the holder. -/
theorem Owned.holderPhase_bystander (h : Owned holds phases lock) {task : Nat}
    (hholds : holds (phases task) = false) (free moved : phase) :
    holderPhase free (Function.update phases task moved) lock =
      holderPhase free phases lock := by
  cases hlock : lock with
  | none => rfl
  | some other =>
      have hne : other ≠ task := by
        intro hsame
        rw [(h task).mp (hsame ▸ hlock)] at hholds
        cases hholds
      exact Function.update_of_ne hne moved phases

end Owned

/-- A task that has begun is not among those to come. -/
theorem update_beyond {phase : Type} {phases : Nat -> phase} {idle : phase} {tasks : Nat}
    (h : forall n, tasks <= n -> phases n = idle) {task : Nat} (htask : phases task ≠ idle)
    (moved : phase) : forall n, tasks <= n -> Function.update phases task moved n = idle := by
  intro n hn
  have hne : n ≠ task := by
    intro hsame
    exact htask (hsame ▸ h n hn)
  rw [Function.update_of_ne hne]
  exact h n hn

end Foundation
end Relayd
