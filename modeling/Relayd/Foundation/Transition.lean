import Mathlib.Logic.Relation

/-!
# Labelled transition systems

A system takes a step when its label is enabled.  `Reachable` is closure under
steps, `run` executes a list of labels, and `guarded` keeps only the steps that
pass a test on the state they are taken in.
-/

namespace Relayd
namespace Foundation

variable {state label : Type}

def run (next : state -> label -> Option state) (labels : List label) (s : state) :
    Option state :=
  labels.foldlM next s

def Reachable (next : state -> label -> Option state) (start s : state) : Prop :=
  Relation.ReflTransGen (fun s s' => exists l, next s l = some s') start s

theorem Reachable.step {next : state -> label -> Option state} {start s s' : state}
    (h : Reachable next start s) {l : label} (hnext : next s l = some s') :
    Reachable next start s' :=
  Relation.ReflTransGen.tail h ⟨l, hnext⟩

/-- A property of the start that every step keeps holds of every reachable
state. -/
theorem Reachable.invariant {next : state -> label -> Option state} {start s : state}
    {inv : state -> Prop} (h : Reachable next start s) (hstart : inv start)
    (hstep : forall s l s', inv s -> next s l = some s' -> inv s') : inv s := by
  induction h with
  | refl => exact hstart
  | tail _ hnext ih =>
      rcases hnext with ⟨l, hnext⟩
      exact hstep _ l _ ih hnext

theorem run_cons {next : state -> label -> Option state} {l : label} {labels : List label}
    {s s' : state} : run next (l :: labels) s = some s' <->
      exists between, next s l = some between ∧ run next labels between = some s' := by
  unfold run
  rw [List.foldlM_cons]
  exact Option.bind_eq_some_iff

theorem run_append {next : state -> label -> Option state} {labels labels' : List label}
    {s s' s'' : state} (h : run next labels s = some s')
    (h' : run next labels' s' = some s'') : run next (labels ++ labels') s = some s'' := by
  unfold run at h h' ⊢
  rw [List.foldlM_append, h]
  exact h'

theorem run_append_split {next : state -> label -> Option state}
    {labels labels' : List label} {s s'' : state}
    (h : run next (labels ++ labels') s = some s'') :
    exists s', run next labels s = some s' ∧ run next labels' s' = some s'' := by
  unfold run at h ⊢
  rw [List.foldlM_append] at h
  exact Option.bind_eq_some_iff.mp h

theorem Reachable.of_run {next : state -> label -> Option state} {start s : state}
    (labels : List label) (h : run next labels start = some s) :
    Reachable next start s := by
  suffices hfrom : forall s0, Reachable next start s0 ->
      run next labels s0 = some s -> Reachable next start s from
    hfrom start Relation.ReflTransGen.refl h
  clear h
  induction labels with
  | nil =>
      intro s0 hreach hrun
      cases hrun
      exact hreach
  | cons l rest ih =>
      intro s0 hreach hrun
      rcases run_cons.mp hrun with ⟨s1, hnext, hrest⟩
      exact ih s1 (hreach.step hnext) hrest

/-- What holds of the start and no labels, and is kept as a step adds its label, holds
after every run of its labels. -/
theorem run_history {next : state -> label -> Option state} {inv : List label -> state -> Prop}
    {start s : state} {labels : List label} (hrun : run next labels start = some s)
    (hstart : inv [] start)
    (hstep : forall past l s s', inv past s -> next s l = some s' -> inv (past ++ [l]) s') :
    inv labels s := by
  suffices hfrom : forall past between, inv past between ->
      run next labels between = some s -> inv (past ++ labels) s from
    hfrom [] start hstart hrun
  clear hrun
  induction labels with
  | nil =>
      intro past between hinv hrun
      cases hrun
      rw [List.append_nil]
      exact hinv
  | cons l rest ih =>
      intro past between hinv hrun
      rcases run_cons.mp hrun with ⟨after, hnext, hrest⟩
      have hafter := ih (past ++ [l]) after (hstep past l between after hinv hnext) hrest
      rw [List.append_assoc] at hafter
      exact hafter

/-- What an observer of each step has written down after a run. -/
def observed {observation : Type} (next : state -> label -> Option state)
    (observe : state -> label -> state -> List observation) :
    List label -> state -> List observation
  | [], _ => []
  | l :: rest, s =>
      match next s l with
      | none => []
      | some s' => observe s l s' ++ observed next observe rest s'

theorem observed_concat {observation : Type} {next : state -> label -> Option state}
    (observe : state -> label -> state -> List observation) {labels : List label}
    {l : label} {start s s' : state} (hrun : run next labels start = some s)
    (hnext : next s l = some s') :
    observed next observe (labels ++ [l]) start =
      observed next observe labels start ++ observe s l s' := by
  induction labels generalizing start with
  | nil =>
      cases hrun
      simp only [List.nil_append, observed, hnext, List.append_nil]
  | cons first rest ih =>
      rcases run_cons.mp hrun with ⟨between, hfirst, hrest⟩
      simp only [List.cons_append, observed, hfirst, ih hrest, List.append_assoc]

/-- An invariant that some labels keep only below a limit, where each of them comes one
closer to it, holds after any run with few enough of them. -/
theorem run_below {next : state -> label -> Option state} {inv : state -> Prop}
    {counts : label -> Bool} {size : state -> Nat} {limit : Nat}
    (hstep : forall s l s', inv s -> (counts l = true -> size s < limit) ->
      next s l = some s' -> inv s' ∧ size s' <= size s + (if counts l then 1 else 0))
    {labels : List label} {s s' : state} (hrun : run next labels s = some s')
    (hinv : inv s) (hlimit : size s + labels.countP counts <= limit) : inv s' := by
  induction labels generalizing s with
  | nil =>
      cases hrun
      exact hinv
  | cons l rest ih =>
      rcases run_cons.mp hrun with ⟨between, hnext, hrest⟩
      rw [List.countP_cons] at hlimit
      have hroom : counts l = true -> size s < limit := by
        intro hcounts
        rw [if_pos hcounts] at hlimit
        lia
      rcases hstep s l between hinv hroom hnext with ⟨hkept, hsize⟩
      exact ih hrest hkept (by lia)

def guarded (allowed : state -> label -> Bool) (next : state -> label -> Option state)
    (s : state) (l : label) : Option state :=
  if allowed s l then next s l else none

theorem guarded_eq_some {allowed : state -> label -> Bool}
    {next : state -> label -> Option state} {s s' : state} {l : label}
    (h : guarded allowed next s l = some s') :
    allowed s l = true ∧ next s l = some s' := by
  unfold guarded at h
  split at h
  · rename_i hallowed
    exact ⟨hallowed, h⟩
  · cases h

/-- Where a step that is not allowed is seen to break what is wanted, and allowed steps
never do, exactly the runs of allowed steps have what is wanted throughout. -/
theorem throughout_iff_guarded {allowed : state -> label -> Bool}
    {next : state -> label -> Option state} {inv wanted : state -> Prop}
    (hinv : forall s l s', inv s -> allowed s l = true -> next s l = some s' -> inv s')
    (hwanted : forall s, inv s -> wanted s)
    (hbroken : forall s l s', inv s -> allowed s l = false -> next s l = some s' -> ¬ wanted s')
    {labels : List label} {start s : state} (hrun : run next labels start = some s)
    (hstart : inv start) :
    (forall n between, run next (labels.take n) start = some between -> wanted between) <->
      run (guarded allowed next) labels start = some s := by
  induction labels generalizing start with
  | nil =>
      constructor
      · intro _
        exact hrun
      · intro _ n between hbetween
        rw [List.take_nil] at hbetween
        cases hbetween
        exact hwanted start hstart
  | cons l rest ih =>
      rcases run_cons.mp hrun with ⟨after, hnext, hrest⟩
      constructor
      · intro hall
        have hafter : wanted after := hall 1 after (run_cons.mpr ⟨after, hnext, rfl⟩)
        cases hallowed : allowed start l with
        | false => exact absurd hafter (hbroken start l after hstart hallowed hnext)
        | true =>
            refine run_cons.mpr ⟨after, ?_, ?_⟩
            · unfold guarded
              rw [if_pos hallowed]
              exact hnext
            · apply (ih hrest (hinv start l after hstart hallowed hnext)).mp
              intro n between hbetween
              exact hall (n + 1) between (run_cons.mpr ⟨after, hnext, hbetween⟩)
      · intro hguarded
        rcases run_cons.mp hguarded with ⟨after', hstep, hguarded⟩
        rcases guarded_eq_some hstep with ⟨hallowed, hsame⟩
        rw [hnext] at hsame
        cases hsame
        intro n between hbetween
        cases n with
        | zero =>
            cases hbetween
            exact hwanted start hstart
        | succ n =>
            rcases run_cons.mp hbetween with ⟨after', hsame, hbetween⟩
            rw [hnext] at hsame
            cases hsame
            exact (ih hrest (hinv start l after hstart hallowed hnext)).mpr hguarded n between
              hbetween

end Foundation
end Relayd
