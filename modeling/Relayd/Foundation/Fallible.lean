import Mathlib.Control.Basic
import Mathlib.Data.List.Forall2

/-!
# Programs that change a state and may fail

A fallible program threads a state through and ends with a value or an error;
an error keeps the state reached so far, as an early return with `?` does.
`Ensures` is the weakest-precondition reading of such a program, and the rules
below take it apart along the program's own structure.
-/

namespace Relayd
namespace Foundation

variable {state error value result : Type}

/-!
# Results
-/

theorem except_bind_eq_ok {r : Except error value}
    {next : value -> Except error result} {b : result} :
    (r >>= next) = .ok b <-> exists a, r = .ok a ∧ next a = .ok b := by
  cases r with
  | ok a =>
      constructor
      · intro h
        exact ⟨a, rfl, h⟩
      · intro h
        rcases h with ⟨a', ha, h⟩
        cases ha
        exact h
  | error e =>
      constructor
      · intro h
        cases h
      · intro h
        rcases h with ⟨a', ha, _⟩
        cases ha

theorem except_map_eq_ok {r : Except error value} {f : value -> result}
    {b : result} : (f <$> r) = .ok b <-> exists a, r = .ok a ∧ f a = b := by
  cases r with
  | ok a =>
      constructor
      · intro h
        cases h
        exact ⟨a, rfl, rfl⟩
      · intro h
        rcases h with ⟨a', ha, h⟩
        cases ha
        cases h
        rfl
  | error e =>
      constructor
      · intro h
        cases h
      · intro h
        rcases h with ⟨a', ha, _⟩
        cases ha

theorem mapM_eq_ok {f : value -> Except error result} {xs : List value}
    {ys : List result} :
    xs.mapM f = .ok ys <-> List.Forall₂ (fun x y => f x = .ok y) xs ys := by
  induction xs generalizing ys with
  | nil =>
      rw [List.mapM_nil, List.forall₂_nil_left_iff]
      constructor
      · intro h
        cases h
        rfl
      · intro h
        rw [h]
        rfl
  | cons x xs ih =>
      simp only [List.mapM_cons, except_bind_eq_ok, List.forall₂_cons_left_iff, ih]
      constructor
      · intro h
        rcases h with ⟨y, hy, rest, hrest, h⟩
        cases h
        exact ⟨y, rest, hy, hrest, rfl⟩
      · intro h
        rcases h with ⟨y, rest, hy, hrest, h⟩
        exact ⟨y, hy, rest, hrest, by rw [h]; rfl⟩

/-!
# Programs
-/

abbrev Fallible (state error value : Type) :=
  ExceptT error (StateM state) value

namespace Fallible

def exec (program : Fallible state error value) (s : state) :
    Except error value × state :=
  program.run.run s

/-- A single action given by its effect. -/
def act (effect : state -> Except error value × state) :
    Fallible state error value :=
  ExceptT.mk effect

/-- Run a program and hand its outcome on as a value. -/
def attempt (program : Fallible state error value) :
    Fallible state error (Except error value) :=
  act (fun s => (.ok (program.exec s).1, (program.exec s).2))

/-- The post-condition holds of the outcome and the state a program ends in. -/
def Ensures (program : Fallible state error value)
    (post : Except error value -> state -> Prop) (s : state) : Prop :=
  post (program.exec s).1 (program.exec s).2

theorem ensures_exec (program : Fallible state error value)
    (post : Except error value -> state -> Prop) (s : state) :
    Ensures program post s =
      post (program.exec s).1 (program.exec s).2 := rfl

theorem exec_act (effect : state -> Except error value × state) (s : state) :
    (act effect).exec s = effect s := rfl

theorem exec_bind (program : Fallible state error value)
    (next : value -> Fallible state error result) (s : state) :
    (program >>= next).exec s =
      match program.exec s with
      | (.ok a, s') => (next a).exec s'
      | (.error e, s') => (.error e, s') := by
  show (ExceptT.bindCont next (program.exec s).1) (program.exec s).2 = _
  rcases program.exec s with ⟨r, s'⟩
  cases r with
  | ok a => rfl
  | error e => rfl

@[simp] theorem ensures_pure (a : value)
    (post : Except error value -> state -> Prop) (s : state) :
    Ensures (pure a) post s = post (.ok a) s := rfl

@[simp] theorem ensures_throw (e : error)
    (post : Except error value -> state -> Prop) (s : state) :
    Ensures (throw e) post s = post (.error e) s := rfl

@[simp] theorem ensures_act (effect : state -> Except error value × state)
    (post : Except error value -> state -> Prop) (s : state) :
    Ensures (act effect) post s = post (effect s).1 (effect s).2 := rfl

@[simp] theorem ensures_attempt (program : Fallible state error value)
    (post : Except error (Except error value) -> state -> Prop) (s : state) :
    Ensures (attempt program) post s =
      Ensures program (fun r s' => post (.ok r) s') s := rfl

/-- The post-condition of the first half of a sequential composition: a value
continues with the second half, an error ends the program. -/
def Continues (next : value -> Fallible state error result)
    (post : Except error result -> state -> Prop) :
    Except error value -> state -> Prop
  | .ok a, s => Ensures (next a) post s
  | .error e, s => post (.error e) s

@[simp] theorem continues_ok (next : value -> Fallible state error result)
    (post : Except error result -> state -> Prop) (a : value) (s : state) :
    Continues next post (.ok a) s = Ensures (next a) post s := rfl

@[simp] theorem ensures_bind (program : Fallible state error value)
    (next : value -> Fallible state error result)
    (post : Except error result -> state -> Prop) (s : state) :
    Ensures (program >>= next) post s =
      Ensures program (Continues next post) s := by
  unfold Ensures
  rw [exec_bind]
  rcases program.exec s with ⟨r, s'⟩
  cases r with
  | ok a => rfl
  | error e => rfl

theorem ensures_mono {program : Fallible state error value}
    {post post' : Except error value -> state -> Prop} {s : state}
    (hpost : forall r s', post r s' -> post' r s')
    (h : Ensures program post s) : Ensures program post' s :=
  hpost _ _ h

/-!
# Programs that keep an invariant

However the program ends, the state it ends in satisfies the invariant.
-/

def Keeps (inv : state -> Prop) (program : Fallible state error value) : Prop :=
  forall s, inv s -> Ensures program (fun _ s' => inv s') s

theorem keeps_pure (inv : state -> Prop) (a : value) :
    Keeps inv (pure a : Fallible state error value) :=
  fun _ hinv => hinv

theorem keeps_throw (inv : state -> Prop) (e : error) :
    Keeps inv (throw e : Fallible state error value) :=
  fun _ hinv => hinv

theorem keeps_attempt {inv : state -> Prop} {program : Fallible state error value}
    (h : Keeps inv program) : Keeps inv (attempt program) :=
  h

theorem keeps_bind {inv : state -> Prop} {program : Fallible state error value}
    {next : value -> Fallible state error result} (h : Keeps inv program)
    (hnext : forall a, Keeps inv (next a)) : Keeps inv (program >>= next) := by
  intro s hinv
  rw [ensures_bind]
  refine ensures_mono ?_ (h s hinv)
  intro r s' hkept
  cases r with
  | ok a => exact hnext a s' hkept
  | error e => exact hkept

/-!
# Programs over related states

Two programs that start in related states end with the same outcome in related states.
-/

section Simulation

variable {state' : Type} {related : state -> state' -> Prop}

def Simulates (related : state -> state' -> Prop) (program : Fallible state error value)
    (other : Fallible state' error value) : Prop :=
  forall s t, related s t ->
    (program.exec s).1 = (other.exec t).1 ∧ related (program.exec s).2 (other.exec t).2

theorem simulates_pure (a : value) :
    Simulates related (pure a : Fallible state error value) (pure a) :=
  fun _ _ h => ⟨rfl, h⟩

theorem simulates_throw (e : error) :
    Simulates related (throw e : Fallible state error value) (throw e) :=
  fun _ _ h => ⟨rfl, h⟩

theorem simulates_attempt {program : Fallible state error value}
    {other : Fallible state' error value} (h : Simulates related program other) :
    Simulates related (attempt program) (attempt other) := by
  intro s t hrelated
  rcases h s t hrelated with ⟨hresult, hstate⟩
  exact ⟨congrArg Except.ok hresult, hstate⟩

theorem simulates_bind {program : Fallible state error value}
    {other : Fallible state' error value} {next : value -> Fallible state error result}
    {next' : value -> Fallible state' error result} (h : Simulates related program other)
    (hnext : forall a, Simulates related (next a) (next' a)) :
    Simulates related (program >>= next) (other >>= next') := by
  intro s t hrelated
  rcases h s t hrelated with ⟨hresult, hstate⟩
  rw [exec_bind, exec_bind]
  rcases hprogram : program.exec s with ⟨r, s'⟩
  rcases hother : other.exec t with ⟨r', t'⟩
  rw [hprogram, hother] at hresult hstate
  cases hresult
  cases r with
  | ok a => exact hnext a s' t' hstate
  | error e => exact ⟨rfl, hstate⟩

end Simulation

end Fallible
end Foundation
end Relayd
