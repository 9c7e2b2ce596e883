import Relayd.Foundation.Fallible
import Relayd.Foundation.Linearization

/-!
# Programs that are suspended between their steps

A suspended program is what is left of a fallible program at one of its awaits: it is
done, or it takes one step on the state and goes on with what that step has read.  A
state that one lock protects is changed by such programs, one at a time; readers of a
part of the state do not take the lock.  When each program writes that part at most
once, the programs and the readers together are linearizable.
-/

namespace Relayd
namespace Foundation

variable {state error value result view : Type}

inductive Suspended (state error value : Type) where
  | done (outcome : Except error value)
  | await (effect : state -> state) (resume : state -> Suspended state error value)

namespace Suspended

/-- Run to the end with no other task in between. -/
def exec : Suspended state error value -> state -> Except error value × state
  | .done outcome, s => (outcome, s)
  | .await effect resume, s => exec (resume s) (effect s)

def act (effect : state -> Except error value × state) : Suspended state error value :=
  .await (fun s => (effect s).2) (fun s => .done (effect s).1)

def attempt : Suspended state error value -> Suspended state error (Except error value)
  | .done outcome => .done (.ok outcome)
  | .await effect resume => .await effect (fun s => attempt (resume s))

def andThen (next : value -> Suspended state error result) :
    Suspended state error value -> Suspended state error result
  | .done (.ok a) => next a
  | .done (.error e) => .done (.error e)
  | .await effect resume => .await effect (fun s => andThen next (resume s))

instance : Monad (Suspended state error) where
  pure a := .done (.ok a)
  bind program next := andThen next program

theorem exec_andThen (program : Suspended state error value)
    (next : value -> Suspended state error result) (s : state) :
    (program >>= next).exec s =
      match program.exec s with
      | (.ok a, s') => (next a).exec s'
      | (.error e, s') => (.error e, s') := by
  show (andThen next program).exec s = _
  induction program generalizing s with
  | done outcome => cases outcome <;> rfl
  | await effect resume ih => exact ih s (effect s)

theorem exec_attempt (program : Suspended state error value) (s : state) :
    program.attempt.exec s = (.ok (program.exec s).1, (program.exec s).2) := by
  induction program generalizing s with
  | done outcome => rfl
  | await effect resume ih => exact ih s (effect s)

/-!
# The program that is suspended
-/

/-- Uninterrupted, the suspended program is the given one. -/
def Denotes (suspended : Suspended state error value)
    (program : Fallible state error value) : Prop :=
  forall s, suspended.exec s = program.exec s

theorem denotes_pure (a : value) :
    Denotes (pure a : Suspended state error value) (pure a) := fun _ => rfl

theorem denotes_throw (e : error) :
    Denotes (.done (.error e) : Suspended state error value) (throw e) := fun _ => rfl

theorem denotes_attempt {suspended : Suspended state error value}
    {program : Fallible state error value} (h : Denotes suspended program) :
    Denotes suspended.attempt (Fallible.attempt program) := by
  intro s
  rw [exec_attempt, h s]
  rfl

theorem denotes_bind {suspended : Suspended state error value}
    {program : Fallible state error value}
    {next : value -> Suspended state error result}
    {next' : value -> Fallible state error result} (h : Denotes suspended program)
    (hnext : forall a, Denotes (next a) (next' a)) :
    Denotes (suspended >>= next) (program >>= next') := by
  intro s
  rw [exec_andThen, Fallible.exec_bind, h s]
  rcases program.exec s with ⟨r, s'⟩
  cases r with
  | ok a => exact hnext a s'
  | error e => rfl

/-!
# Programs that change what is seen at most once
-/

/-- No step changes what is seen. -/
def Settled (seen : state -> view) : Suspended state error value -> Prop
  | .done _ => True
  | .await effect resume =>
      forall s, seen (effect s) = seen s ∧ Settled seen (resume s)

def Once (seen : state -> view) : Suspended state error value -> Prop
  | .done _ => True
  | .await effect resume =>
      forall s, Settled seen (resume s) ∨ (seen (effect s) = seen s ∧ Once seen (resume s))

variable {seen : state -> view}

theorem Settled.once {program : Suspended state error value} (h : Settled seen program) :
    Once seen program := by
  cases program with
  | done outcome => trivial
  | await effect resume => exact fun s => Or.inl (h s).right

theorem Settled.seen_exec {program : Suspended state error value}
    (h : Settled seen program) (s : state) : seen (program.exec s).2 = seen s := by
  induction program generalizing s with
  | done outcome => rfl
  | await effect resume ih => exact (ih s (h s).right (effect s)).trans (h s).left

theorem settled_act {effect : state -> Except error value × state}
    (h : forall s, seen (effect s).2 = seen s) : Settled seen (act effect) :=
  fun s => ⟨h s, trivial⟩

theorem once_act (effect : state -> Except error value × state) : Once seen (act effect) :=
  fun _ => Or.inl trivial

theorem settled_bind {program : Suspended state error value}
    {next : value -> Suspended state error result} (h : Settled seen program)
    (hnext : forall a, Settled seen (next a)) : Settled seen (program >>= next) := by
  show Settled seen (andThen next program)
  induction program with
  | done outcome =>
      cases outcome with
      | ok a => exact hnext a
      | error e => trivial
  | await effect resume ih => exact fun s => ⟨(h s).left, ih s (h s).right⟩

/-- The write may come after the first half. -/
theorem once_bind_right {program : Suspended state error value}
    {next : value -> Suspended state error result} (h : Settled seen program)
    (hnext : forall a, Once seen (next a)) : Once seen (program >>= next) := by
  show Once seen (andThen next program)
  induction program with
  | done outcome =>
      cases outcome with
      | ok a => exact hnext a
      | error e => trivial
  | await effect resume ih => exact fun s => Or.inr ⟨(h s).left, ih s (h s).right⟩

/-- The write may come within the first half. -/
theorem once_bind_left {program : Suspended state error value}
    {next : value -> Suspended state error result} (h : Once seen program)
    (hnext : forall a, Settled seen (next a)) : Once seen (program >>= next) := by
  show Once seen (andThen next program)
  induction program with
  | done outcome =>
      cases outcome with
      | ok a => exact (hnext a).once
      | error e => trivial
  | await effect resume ih =>
      intro s
      rcases h s with hsettled | ⟨hsame, honce⟩
      · exact Or.inl (settled_bind hsettled hnext)
      · exact Or.inr ⟨hsame, ih s honce⟩

theorem settled_attempt {program : Suspended state error value}
    (h : Settled seen program) : Settled seen program.attempt := by
  induction program with
  | done outcome => trivial
  | await effect resume ih => exact fun s => ⟨(h s).left, ih s (h s).right⟩

theorem once_attempt {program : Suspended state error value} (h : Once seen program) :
    Once seen program.attempt := by
  induction program with
  | done outcome => trivial
  | await effect resume ih =>
      intro s
      rcases h s with hsettled | ⟨hsame, honce⟩
      · exact Or.inl (settled_attempt hsettled)
      · exact Or.inr ⟨hsame, ih s honce⟩

end Suspended

/-!
# A state behind one lock

`change` is carried out by a suspended program that holds the lock; `ask` reads what is
seen of the state in one step, whoever holds the lock.
-/

/-- The programs of the changes, and the answers to the questions; `fault` is what the
outside adds to an answer. -/
structure Locked (state error value view op query fault found : Type) where
  program : op -> Suspended state error value
  seen : state -> view
  lookUp : query -> fault -> view -> found

namespace Locked

variable {op query fault found : Type}

inductive Request (op query : Type) where
  | change (operation : op)
  | ask (question : query)
deriving DecidableEq, Repr

inductive Answer (error value found : Type) where
  | changed (outcome : Except error value)
  | found (result : found)

/-- Where a task has come to.  A change that is refused at once does not take the lock.
`foretold` is the outcome of a change whose write has been
made: nothing the other tasks do can alter it any more. -/
inductive Phase (state error value op query found : Type) where
  | idle
  | waiting (operation : op)
  | working (operation : op) (rest : Suspended state error value)
      (foretold : Option (Except error value))
  | finished (operation : op) (outcome : Except error value)
  | refused (operation : op) (outcome : Except error value)
  | asking (question : query)
  | asked (question : query) (result : found)
  | returned (request : Request op query) (answer : Answer error value found)

structure Machine (state error value op query found : Type) where
  shared : state
  lock : Option Nat
  calls : Nat
  phase : Nat -> Phase state error value op query found

def Machine.start (s : state) : Machine state error value op query found where
  shared := s
  lock := none
  calls := 0
  phase := fun _ => .idle

def Machine.moveTo (m : Machine state error value op query found) (n : Nat)
    (phase : Phase state error value op query found) :
    Machine state error value op query found :=
  { m with phase := Function.update m.phase n phase }

inductive Step (op query fault : Type) where
  | invoke (request : Request op query)
  | advance (n : Nat)
  | look (n : Nat) (fault : fault)
deriving DecidableEq, Repr

def entryPhase : Request op query -> Phase state error value op query found
  | .change operation => .waiting operation
  | .ask question => .asking question

section Machine

variable [DecidableEq view] (locked : Locked state error value view op query fault found)

/-- The outcome is settled once what is seen has changed. -/
def foretell (before after : state) (rest : Suspended state error value) :
    Option (Except error value) -> Option (Except error value)
  | some outcome => some outcome
  | none =>
      if locked.seen after = locked.seen before then none else some (rest.exec after).1

def next (m : Machine state error value op query found) :
    Step op query fault -> Option (Machine state error value op query found)
  | .invoke request =>
      some ({ m with calls := m.calls + 1 }.moveTo m.calls (entryPhase request))
  | .advance n =>
      match m.phase n with
      | .waiting operation =>
          match locked.program operation with
          | .done outcome => some (m.moveTo n (.refused operation outcome))
          | .await effect resume =>
              if m.lock = none then
                some ({ m with lock := some n }.moveTo n
                  (.working operation (.await effect resume) none))
              else none
      | .refused operation outcome =>
          some (m.moveTo n (.returned (.change operation) (.changed outcome)))
      | .working operation (.await effect resume) foretold =>
          some ({ m with shared := effect m.shared }.moveTo n
            (.working operation (resume m.shared)
              (foretell locked m.shared (effect m.shared) (resume m.shared) foretold)))
      | .working operation (.done outcome) _ =>
          some (m.moveTo n (.finished operation outcome))
      | .finished operation outcome =>
          some ({ m with lock := none }.moveTo n
            (.returned (.change operation) (.changed outcome)))
      | .asked question result =>
          some (m.moveTo n (.returned (.ask question) (.found result)))
      | _ => none
  | .look n fault =>
      match m.phase n with
      | .asking question =>
          some (m.moveTo n
            (.asked question (locked.lookUp question fault (locked.seen m.shared))))
      | _ => none

/-- One request, with no other under way. -/
def Answers (s : state) : Request op query -> Answer error value found -> state -> Prop
  | .change operation, answer, s' =>
      s' = ((locked.program operation).exec s).2 ∧
        answer = .changed ((locked.program operation).exec s).1
  | .ask question, answer, s' =>
      s' = s ∧ exists fault, answer = .found (locked.lookUp question fault (locked.seen s))

end Machine

def Phase.progress : Phase state error value op query found ->
    Progress (Request op query) (Answer error value found)
  | .idle => .idle
  | .waiting operation => .invoked (.change operation)
  | .working operation _ none => .invoked (.change operation)
  | .working operation _ (some outcome) => .effective (.change operation) (.changed outcome)
  | .finished operation outcome => .effective (.change operation) (.changed outcome)
  | .refused operation outcome => .effective (.change operation) (.changed outcome)
  | .asking question => .invoked (.ask question)
  | .asked question result => .effective (.ask question) (.found result)
  | .returned request answer => .returned request answer

def progress (m : Machine state error value op query found) :
    Nat -> Progress (Request op query) (Answer error value found) :=
  Phase.progress ∘ m.phase

def Machine.caller (m : Machine state error value op query found) :
    Step op query fault -> Nat
  | .invoke _ => m.calls
  | .advance n => n
  | .look n _ => n

def mark (m : Machine state error value op query found) (step : Step op query fault)
    (m' : Machine state error value op query found) :
    Option (Mark (Request op query) (Answer error value found)) :=
  (progress m (m.caller step)).mark (m.caller step) (progress m' (m.caller step))

/-!
# The state and the sequential one
-/

def Phase.holds : Phase state error value op query found -> Bool
  | .working _ _ _ => true
  | .finished _ _ => true
  | _ => false

/-- How the state stands to the sequential one, by what the holder of the lock has left
to do. -/
def Shows (locked : Locked state error value view op query fault found) (o shared : state) :
    Phase state error value op query found -> Prop
  | .working operation rest none =>
      rest.Once locked.seen ∧ rest.exec shared = (locked.program operation).exec o ∧
        locked.seen shared = locked.seen o
  | .working _ rest (some outcome) =>
      rest.Settled locked.seen ∧ rest.exec shared = (outcome, o) ∧
        locked.seen shared = locked.seen o
  | _ => shared = o

structure Related (locked : Locked state error value view op query fault found)
    (m : Machine state error value op query found) (o : state) : Prop where
  owned : Owned Phase.holds m.phase m.lock
  fresh : forall n, m.calls <= n -> m.phase n = .idle
  shows : Shows locked o m.shared (holderPhase .idle m.phase m.lock)

section Moves

variable {locked : Locked state error value view op query fault found}
  {m : Machine state error value op query found} {o o' : state} {n : Nat}
  {phase : Phase state error value op query found}

theorem related_start (s : state) :
    Related locked (Machine.start s : Machine state error value op query found) s where
  owned := fun _ => ⟨nofun, nofun⟩
  fresh := fun _ _ => rfl
  shows := rfl

theorem Related.shows_holder (h : Related locked m o) (hholds : (m.phase n).holds = true) :
    Shows locked o m.shared (m.phase n) :=
  h.owned.holderPhase_eq hholds .idle ▸ h.shows

/-- What is seen is always what the sequential state shows. -/
theorem Related.seen_eq (h : Related locked m o) : locked.seen m.shared = locked.seen o := by
  have hshows := h.shows
  cases hholder : holderPhase .idle m.phase m.lock with
  | working operation rest foretold =>
      rw [hholder] at hshows
      cases foretold with
      | none => exact hshows.right.right
      | some outcome => exact hshows.right.right
  | _ =>
      rw [hholder] at hshows
      exact congrArg locked.seen hshows

/-- The holder of the lock goes on with it. -/
theorem Related.holder_moves (h : Related locked m o) (hholds : (m.phase n).holds = true)
    (hholds' : phase.holds = true) {shared : state} (hshows : Shows locked o' shared phase) :
    Related locked (Machine.moveTo { m with shared := shared } n phase) o' where
  owned := h.owned.keep (hholds'.trans hholds.symm)
  fresh := by
    apply update_beyond h.fresh
    intro hidle
    rw [hidle] at hholds
    cases hholds
  shows := (h.owned.holderPhase_update hholds .idle phase).symm ▸ hshows

/-- A task without the lock goes on without it. -/
theorem Related.bystander_moves (h : Related locked m o) (hidle : m.phase n ≠ .idle)
    (hholds : (m.phase n).holds = false) (hholds' : phase.holds = false) :
    Related locked (m.moveTo n phase) o where
  owned := h.owned.keep (hholds'.trans hholds.symm)
  fresh := update_beyond h.fresh hidle phase
  shows := (h.owned.holderPhase_bystander hholds .idle phase).symm ▸ h.shows

theorem progress_moveTo {m' : Machine state error value op query found}
    (hphase : m'.phase = m.phase) :
    progress (m'.moveTo n phase) = Function.update (progress m) n phase.progress := by
  unfold progress
  rw [← hphase]
  exact Function.comp_update Phase.progress m'.phase n phase

theorem progress_moveTo_same {m' : Machine state error value op query found}
    (hphase : m'.phase = m.phase) (hsame : phase.progress = (m.phase n).progress) :
    progress (m'.moveTo n phase) = progress m := by
  rw [progress_moveTo hphase, hsame]
  exact Function.update_eq_self n (progress m)

end Moves

/-!
# Every step
-/

section Steps

variable {locked : Locked state error value view op query fault found}
  {m m' : Machine state error value op query found} {o : state} {n : Nat}

theorem invoke_accounts (h : Related locked m o) (request : Request op query) :
    let m' := Machine.moveTo { m with calls := m.calls + 1 } m.calls (entryPhase request)
    Accounts (Answers locked) (progress m) (progress m') o
        (mark m (.invoke request : Step op query fault) m') o ∧
      Related locked m' o := by
  intro m'
  have hidle : m.phase m.calls = .idle := h.fresh m.calls (Nat.le_refl _)
  have hfree : (m.phase m.calls).holds = false := congrArg Phase.holds hidle
  have hholds : (entryPhase request : Phase state error value op query found).holds =
      (m.phase m.calls).holds := by
    rw [hidle]
    cases request <;> rfl
  constructor
  · have hbefore : progress m m.calls = .idle := congrArg Phase.progress hidle
    have hprogress : progress m' = Function.update (progress m) m.calls (.invoked request) := by
      rw [progress_moveTo rfl]
      cases request <;> rfl
    exact Accounts.of_invoked hbefore hprogress
  · constructor
    · exact h.owned.keep hholds
    · intro k hk
      have hne : k ≠ m.calls := by
        have : m.calls + 1 <= k := hk
        lia
      show Function.update m.phase m.calls (entryPhase request) k = .idle
      rw [Function.update_of_ne hne]
      exact h.fresh k (Nat.le_of_succ_le hk)
    · exact (h.owned.holderPhase_bystander hfree .idle _).symm ▸ h.shows

theorem look_accounts (h : Related locked m o) {question : query}
    (hphase : m.phase n = .asking question) (fault : fault) :
    let m' := m.moveTo n
      (.asked question (locked.lookUp question fault (locked.seen m.shared)))
    Accounts (Answers locked) (progress m) (progress m') o
        (mark m (.look n fault : Step op query _) m') o ∧
      Related locked m' o := by
  intro m'
  constructor
  · have hbefore : progress m n = .invoked (.ask question) := congrArg Phase.progress hphase
    refine Accounts.of_effect hbefore (progress_moveTo rfl) ⟨rfl, fault, ?_⟩
    rw [h.seen_eq]
  · exact h.bystander_moves (by rw [hphase]; nofun) (by rw [hphase]; rfl) rfl

/-- A step of the program that holds the lock: it takes effect if the write is made. -/
theorem work_accounts [DecidableEq view] (h : Related locked m o) {operation : op}
    {effect : state -> state} {resume : state -> Suspended state error value}
    {foretold : Option (Except error value)}
    (hphase : m.phase n = .working operation (.await effect resume) foretold) :
    let m' := Machine.moveTo { m with shared := effect m.shared } n
      (.working operation (resume m.shared)
        (foretell locked m.shared (effect m.shared) (resume m.shared) foretold))
    exists o', Accounts (Answers locked) (progress m) (progress m') o
        (mark m (.advance n : Step op query fault) m') o' ∧
      Related locked m' o' := by
  intro m'
  have hshows := h.shows_holder (n := n) (by rw [hphase]; rfl)
  rw [hphase] at hshows
  have hholds : (m.phase n).holds = true := by rw [hphase]; rfl
  cases foretold with
  | some outcome =>
      rcases hshows with ⟨hsettled, hexec, hseen⟩
      have hstep := hsettled m.shared
      refine ⟨o, Accounts.of_same (progress_moveTo_same rfl (by rw [hphase]; rfl)), ?_⟩
      exact h.holder_moves hholds rfl ⟨hstep.right, hexec, hstep.left.trans hseen⟩
  | none =>
      rcases hshows with ⟨honce, hexec, hseen⟩
      by_cases hsame : locked.seen (effect m.shared) = locked.seen m.shared
      · have hforetell : foretell locked m.shared (effect m.shared) (resume m.shared) none =
            none := if_pos hsame
        have hrest : (resume m.shared).Once locked.seen := by
          rcases honce m.shared with hsettled | hgoesOn
          · exact hsettled.once
          · exact hgoesOn.right
        refine ⟨o, Accounts.of_same (progress_moveTo_same rfl (by rw [hforetell, hphase]; rfl)), ?_⟩
        apply h.holder_moves hholds rfl
        rw [hforetell]
        exact ⟨hrest, hexec, hsame.trans hseen⟩
      · -- What is seen has changed, so the rest of the program leaves it alone.
        have hsettled : (resume m.shared).Settled locked.seen := by
          rcases honce m.shared with hsettled | hgoesOn
          · exact hsettled
          · exact absurd hgoesOn.left hsame
        have hforetell : foretell locked m.shared (effect m.shared) (resume m.shared) none =
            some ((resume m.shared).exec (effect m.shared)).1 := if_neg hsame
        have hbefore : progress m n = .invoked (.change operation) :=
          congrArg Phase.progress hphase
        have hprogress : progress m' = Function.update (progress m) n
            (.effective (.change operation)
              (.changed ((resume m.shared).exec (effect m.shared)).1)) := by
          rw [progress_moveTo rfl, hforetell]
          rfl
        have hwhole : (resume m.shared).exec (effect m.shared) =
            (locked.program operation).exec o := hexec
        refine ⟨((locked.program operation).exec o).2,
          Accounts.of_effect hbefore hprogress ⟨rfl, by rw [hwhole]⟩, ?_⟩
        apply h.holder_moves hholds rfl
        rw [hforetell]
        refine ⟨hsettled, by rw [hwhole], ?_⟩
        rw [← hwhole]
        exact (hsettled.seen_exec _).symm

/-- The program has come to its end; one that has written nothing takes effect here. -/
theorem done_accounts (h : Related locked m o) {operation : op}
    {outcome : Except error value} {foretold : Option (Except error value)}
    (hphase : m.phase n = .working operation (.done outcome) foretold) :
    exists o', Accounts (Answers locked) (progress m)
        (progress (m.moveTo n (.finished operation outcome))) o
        (mark m (.advance n : Step op query fault) (m.moveTo n (.finished operation outcome))) o' ∧
      Related locked (m.moveTo n (.finished operation outcome)) o' := by
  have hshows := h.shows_holder (n := n) (by rw [hphase]; rfl)
  rw [hphase] at hshows
  have hholds : (m.phase n).holds = true := by rw [hphase]; rfl
  cases foretold with
  | some outcome' =>
      rcases hshows with ⟨_, hexec, _⟩
      cases hexec
      exact ⟨m.shared, Accounts.of_same (progress_moveTo_same rfl (by rw [hphase]; rfl)),
        h.holder_moves hholds rfl rfl⟩
  | none =>
      rcases hshows with ⟨_, hexec, _⟩
      have hbefore : progress m n = .invoked (.change operation) :=
        congrArg Phase.progress hphase
      have hwhole : (locked.program operation).exec o = (outcome, m.shared) := hexec.symm
      exact ⟨m.shared,
        Accounts.of_effect hbefore (progress_moveTo rfl) (by rw [Answers, hwhole]; exact ⟨rfl, rfl⟩),
        h.holder_moves hholds rfl rfl⟩

theorem release_accounts (h : Related locked m o) {operation : op}
    {outcome : Except error value} (hphase : m.phase n = .finished operation outcome) :
    let m' := Machine.moveTo { m with lock := none } n
      (.returned (.change operation) (.changed outcome))
    Accounts (Answers locked) (progress m) (progress m') o
        (mark m (.advance n : Step op query fault) m') o ∧
      Related locked m' o := by
  intro m'
  have hholds : (m.phase n).holds = true := by rw [hphase]; rfl
  constructor
  · have hbefore : progress m n = .effective (.change operation) (.changed outcome) :=
      congrArg Phase.progress hphase
    exact Accounts.of_returned hbefore (progress_moveTo rfl)
  · constructor
    · exact h.owned.release hholds rfl
    · exact update_beyond h.fresh (by rw [hphase]; nofun) _
    · have hshows := h.shows_holder hholds
      rw [hphase] at hshows
      exact hshows

theorem refuse_accounts (h : Related locked m o) {operation : op}
    {outcome : Except error value} (hprogram : locked.program operation = .done outcome)
    (hphase : m.phase n = .waiting operation) :
    Accounts (Answers locked) (progress m)
        (progress (m.moveTo n (.refused operation outcome))) o
        (mark m (.advance n : Step op query fault) (m.moveTo n (.refused operation outcome))) o ∧
      Related locked (m.moveTo n (.refused operation outcome)) o := by
  have hbefore : progress m n = .invoked (.change operation) := congrArg Phase.progress hphase
  constructor
  · refine Accounts.of_effect hbefore (progress_moveTo rfl) ?_
    rw [Answers, hprogram]
    exact ⟨rfl, rfl⟩
  · exact h.bystander_moves (by rw [hphase]; nofun) (by rw [hphase]; rfl) rfl

theorem take_accounts (h : Related locked m o) {operation : op}
    (honce : (locked.program operation).Once locked.seen)
    (hphase : m.phase n = .waiting operation) (hfree : m.lock = none) :
    let m' := Machine.moveTo { m with lock := some n } n
      (.working operation (locked.program operation) none)
    Accounts (Answers locked) (progress m) (progress m') o
        (mark m (.advance n : Step op query fault) m') o ∧
      Related locked m' o := by
  intro m'
  constructor
  · exact Accounts.of_same (progress_moveTo_same rfl (by rw [hphase]; rfl))
  · have hshows := h.shows
    have howned := h.owned
    rw [hfree] at hshows howned
    have hshared : m.shared = o := hshows
    constructor
    · exact howned.take rfl
    · exact update_beyond h.fresh (by rw [hphase]; nofun) _
    · show Shows locked o m.shared (Function.update m.phase n _ n)
      rw [Function.update_self, hshared]
      exact ⟨honce, rfl, rfl⟩

variable [DecidableEq view]

theorem simulation (honce : forall operation, (locked.program operation).Once locked.seen) :
    Simulation (next locked) mark (Answers locked) progress (Related locked) := by
  intro m step m' o hrelated hnext
  cases step with
  | invoke request =>
      cases hnext
      exact ⟨o, invoke_accounts hrelated request⟩
  | look n fault =>
      simp only [next] at hnext
      cases hphase : m.phase n with
      | asking question =>
          rw [hphase] at hnext
          cases hnext
          exact ⟨o, look_accounts hrelated hphase fault⟩
      | _ => simp [hphase] at hnext
  | advance n =>
      simp only [next] at hnext
      cases hphase : m.phase n with
      | waiting operation =>
          simp only [hphase] at hnext
          cases hprogram : locked.program operation with
          | done outcome =>
              rw [hprogram] at hnext
              cases hnext
              exact ⟨o, refuse_accounts hrelated hprogram hphase⟩
          | await effect resume =>
              simp only [hprogram] at hnext
              split at hnext
              · rename_i hfree
                cases hnext
                rw [← hprogram]
                exact ⟨o, take_accounts hrelated (honce operation) hphase hfree⟩
              · cases hnext
      | refused operation outcome =>
          simp only [hphase] at hnext
          cases hnext
          have hbefore : progress m n = .effective (.change operation) (.changed outcome) :=
            congrArg Phase.progress hphase
          exact ⟨o, Accounts.of_returned hbefore (progress_moveTo rfl),
            hrelated.bystander_moves (by rw [hphase]; nofun) (by rw [hphase]; rfl) rfl⟩
      | working operation rest foretold =>
          cases rest with
          | done outcome =>
              simp only [hphase] at hnext
              cases hnext
              exact done_accounts hrelated hphase
          | await effect resume =>
              simp only [hphase] at hnext
              cases hnext
              exact work_accounts hrelated hphase
      | finished operation outcome =>
          simp only [hphase] at hnext
          cases hnext
          exact ⟨o, release_accounts hrelated hphase⟩
      | asked question result =>
          simp only [hphase] at hnext
          cases hnext
          have hbefore : progress m n = .effective (.ask question) (.found result) :=
            congrArg Phase.progress hphase
          exact ⟨o, Accounts.of_returned hbefore (progress_moveTo rfl),
            hrelated.bystander_moves (by rw [hphase]; nofun) (by rw [hphase]; rfl) rfl⟩
      | _ => simp [hphase] at hnext

/-- Changes that hold one lock and write what is seen at most once, and questions that do
not take the lock, are linearizable together. -/
theorem linearizes (honce : forall operation, (locked.program operation).Once locked.seen)
    {s : state} {steps : List (Step op query fault)}
    (hrun : run (next locked) steps (Machine.start s) = some m) :
    let log := marks (next locked) mark steps (Machine.start s)
    exists final, Linearizes (Answers locked) s (history log) (effects log) final ∧
      locked.seen m.shared = locked.seen final ∧ (m.lock = none -> m.shared = final) := by
  intro log
  rcases (simulation honce).linearizes (related_start s) (fun _ => rfl) hrun with
    ⟨final, hlinearizes, hrelated⟩
  refine ⟨final, hlinearizes, hrelated.seen_eq, ?_⟩
  intro hfree
  have hshows := hrelated.shows
  rw [hfree] at hshows
  exact hshows

end Steps

end Locked
end Foundation
end Relayd
