import Relayd.Foundation.Interruption
import Relayd.Runtime.RealSteps
import Relayd.Service.ProxyAgreement
import Relayd.Service.Simulation

/-!
# Mutations that are dropped

A handler's future is dropped when its client goes away, and with it the mutation it
was running.  Nothing is undone then: the two stores keep what has been done to them up
to the await at which the mutation was dropped.  The mutations are the ones of the
service; only the outside decides here that from some call on nothing happens.
-/

namespace Relayd
namespace Service

open Foundation Fallible Relayd.Runtime Relayd.Runtime.RealSteps Storage

/-!
# Where a mutation is dropped
-/

/-- The call during which the mutation is dropped.  A transaction that is under way
then is committed as a whole or not at all; a call of the runtime has made some of its
steps. -/
structure Drop where
  call : Nat
  commits : Bool
  steps : Nat
deriving DecidableEq, Repr

/-- Whether a transaction with this outcome was committed. -/
def committed : Option RepositoryFault -> Bool
  | none => true
  | some fault => fault.committed

section Dropping

variable (out : Outside Binds) (d : Drop)

/-- No call is dropped. -/
def Outside.completed : Outside (Binds × Option Nat) where
  clock := out.clock
  newId := out.newId
  repository := out.repository
  runtime := fun call => (out.runtime call, none)

/-- Only the transaction under way when the mutation is dropped may still commit. -/
def Drop.repository (call : Nat) : Option RepositoryFault :=
  if call < d.call then out.repository call
  else some ⟨.db, decide (call = d.call) && (d.commits && committed (out.repository call))⟩

def Drop.left (call : Nat) : Option Nat :=
  if call < d.call then none else if call = d.call then some d.steps else some 0

def Outside.dropped : Outside (Binds × Option Nat) where
  clock := out.clock
  newId := out.newId
  repository := d.repository out
  runtime := fun call => (out.runtime call, d.left call)

end Dropping

def stepService (portRange : PortRange) (applyTimeoutMs : UInt32) :
    Service Proxy (Binds × Option Nat) where
  runtime := RealSteps.facade
  portRange := portRange
  applyTimeoutMs := applyTimeoutMs

/-- The repository, and the listeners with their targets. -/
structure Pair where
  db : Database
  listeners : Listeners

def pairOf (w : World Proxy) : Pair := ⟨w.db, w.runtime.listeners⟩

def Live (d : Drop) (w : World Proxy) : Prop := w.calls ≤ d.call

/-!
# The calls
-/

section Calls

variable {value : Type} {out : Outside Binds} {d : Drop} {w : World Proxy}

theorem repository_of_lt {call : Nat} (h : call < d.call) :
    d.repository out call = out.repository call := if_pos h

theorem repository_of_not_lt {call : Nat} (h : ¬ call < d.call) :
    d.repository out call =
      some ⟨.db, decide (call = d.call) && (d.commits && committed (out.repository call))⟩ := if_neg h

theorem left_of_lt {call : Nat} (h : call < d.call) : d.left call = none := if_pos h

theorem left_of_gt {call : Nat} (h : d.call < call) : d.left call = some 0 := by
  unfold Drop.left
  rw [if_neg (by omega), if_neg (by omega)]

theorem not_live_succ {w' : World Proxy} (h : ¬ Live d w) (hcalls : w'.calls = w.calls + 1) :
    ¬ Live d w' := by
  unfold Live at h ⊢
  omega

/-- A transaction of a dropped mutation is not committed. -/
theorem idle_repoWrite (transaction : Database -> Except RepositoryError (value × Database)) :
    Idle (Live d) pairOf (repoWrite (out.dropped d) transaction) := by
  rintro v w ⟨hlive, hpair⟩
  have hgt : d.call < w.calls := by
    unfold Live at hlive
    omega
  have hcalls : ¬ Live d w.afterCall := not_live_succ hlive rfl
  have hfault : (out.dropped d).repository w.calls = some ⟨.db, false⟩ := by
    show d.repository out w.calls = _
    rw [repository_of_not_lt (by omega), decide_eq_false (by omega), Bool.false_and]
  unfold repoWrite
  rw [ensures_act, hfault]
  cases transaction w.db with
  | error error => exact ⟨hcalls, hpair⟩
  | ok outcome => exact ⟨hcalls, hpair⟩

theorem idle_callRuntime {call : Binds × Option Nat -> Proxy -> Except RuntimeError value × Proxy}
    (hcall : forall binds p, (call (binds, some 0) p).2 = p) :
    Idle (Live d) pairOf (callRuntime (out.dropped d) call) := by
  rintro v w ⟨hlive, hpair⟩
  have hgt : d.call < w.calls := by
    unfold Live at hlive
    omega
  have hreply : (out.dropped d).runtime w.calls = (out.runtime w.calls, some 0) := by
    show (out.runtime w.calls, d.left w.calls) = _
    rw [left_of_gt hgt]
  rw [ensures_callRuntime, hreply]
  constructor
  · exact not_live_succ hlive rfl
  · show (⟨w.db, (call (out.runtime w.calls, some 0) w.runtime).2.listeners⟩ : Pair) = v
    rw [hcall]
    exact hpair

/-!
# A call under way when the mutation is dropped
-/

theorem live_succ {w' : World Proxy} (h : w.calls < d.call) (hcalls : w'.calls = w.calls + 1) :
    Live d w' := by
  unfold Live
  omega

theorem not_live_of_last {w' : World Proxy} (h : ¬ w.calls < d.call)
    (hcalls : w'.calls = w.calls + 1) : ¬ Live d w' := by
  unfold Live
  omega

/-- A call that changes neither store, whether the mutation is dropped or not. -/
theorem cut_of_afterCall {completed dropped : ServiceM Proxy value} {reached : Prop}
    (hcompleted : forall w, (completed.exec w).2 = w.afterCall)
    (hdropped : forall w, (dropped.exec w).2 = w.afterCall)
    (hsame : w.calls < d.call -> dropped.exec w = completed.exec w) :
    Cut (Live d) pairOf completed dropped (fun _ v => v = pairOf w) reached w where
  idle := by
    rintro v w ⟨hlive, hpair⟩
    rw [ensures_exec, hdropped]
    exact ⟨not_live_succ hlive rfl, hpair⟩
  outcome := by
    intro _ _
    by_cases hlt : w.calls < d.call
    · left
      rw [hcompleted]
      exact ⟨hsame hlt, live_succ hlt rfl⟩
    · right
      rw [hdropped]
      exact ⟨not_live_of_last hlt rfl, rfl⟩

theorem cut_currentTimeMs {reached : Prop} :
    Cut (Live d) pairOf (currentTimeMs out.completed) (currentTimeMs (out.dropped d))
      (fun _ v => v = pairOf w) reached w :=
  cut_of_afterCall (fun _ => rfl) (fun _ => rfl) (fun _ => rfl)

theorem cut_generateId {reached : Prop} :
    Cut (Live d) pairOf (generateId out.completed) (generateId (out.dropped d))
      (fun _ v => v = pairOf w) reached w :=
  cut_of_afterCall (fun _ => rfl) (fun _ => rfl) (fun _ => rfl)

theorem exec_repoRead {answer : Type} (out : Outside answer)
    (query : Database -> Except RepositoryError value) (w : World Proxy) :
    ((repoRead out query).exec w).2 = w.afterCall := by
  show Ensures (repoRead out query) (fun _ w' => w' = w.afterCall) w
  apply ensures_repoRead
  · intro error
    rfl
  · intro result _
    rfl

theorem repoRead_ok {answer : Type} {out : Outside answer}
    {query : Database -> Except RepositoryError value} {w : World Proxy} {a : value}
    (h : ((repoRead out query).exec w).1 = .ok a) : query w.db = .ok a := by
  revert h
  show Ensures (repoRead out query) (fun r _ => r = .ok a -> query w.db = .ok a) w
  apply ensures_repoRead
  · intro error h
    cases h
  · intro found hfound h
    cases h
    exact hfound

theorem cut_repoRead {reached : Prop} (query : Database -> Except RepositoryError value) :
    Cut (Live d) pairOf (repoRead out.completed query) (repoRead (out.dropped d) query)
      (fun _ v => v = pairOf w) reached w := by
  apply cut_of_afterCall (exec_repoRead _ query) (exec_repoRead _ query)
  intro hlt
  have hrepository : (out.dropped d).repository w.calls = out.completed.repository w.calls :=
    repository_of_lt hlt
  unfold repoRead
  simp only [exec_act, hrepository]

theorem exec_repoWrite {answer : Type} (out : Outside answer)
    {transaction : Database -> Except RepositoryError (value × Database)} {w : World Proxy}
    {result : value} {db : Database} (h : transaction w.db = .ok (result, db)) :
    ((repoWrite out transaction).exec w).2 =
      if committed (out.repository w.calls) then { w.afterCall with db := db }
      else w.afterCall := by
  show Ensures (repoWrite out transaction) (fun _ w' => w' = _) w
  unfold repoWrite
  rw [ensures_act, h]
  cases out.repository w.calls with
  | none => rfl
  | some fault => rfl

theorem exec_repoWrite_refused {answer : Type} (out : Outside answer)
    {transaction : Database -> Except RepositoryError (value × Database)} {w : World Proxy}
    {error : RepositoryError} (h : transaction w.db = .error error) :
    ((repoWrite out transaction).exec w).2 = w.afterCall := by
  show Ensures (repoWrite out transaction) (fun _ w' => w' = _) w
  unfold repoWrite
  rw [ensures_act, h]
  rfl

/-- Whatever becomes of a transaction, the runtime does not see it. -/
theorem repoWrite_frame {answer : Type} (out : Outside answer)
    (transaction : Database -> Except RepositoryError (value × Database)) (w : World Proxy) :
    ((repoWrite out transaction).exec w).2.calls = w.calls + 1 ∧
      ((repoWrite out transaction).exec w).2.runtime = w.runtime := by
  show Ensures (repoWrite out transaction)
    (fun _ w' => w'.calls = w.calls + 1 ∧ w'.runtime = w.runtime) w
  apply ensures_repoWrite
  · intro error _
    exact ⟨rfl, rfl⟩
  · intro fault _
    exact ⟨rfl, rfl⟩
  · intro fault result db _ _
    exact ⟨rfl, rfl⟩
  · intro result db _
    exact ⟨rfl, rfl⟩

theorem repoWrite_of_lt (hlt : w.calls < d.call)
    (transaction : Database -> Except RepositoryError (value × Database)) :
    (repoWrite (out.dropped d) transaction).exec w =
      (repoWrite out.completed transaction).exec w := by
  have hrepository : (out.dropped d).repository w.calls = out.completed.repository w.calls :=
    repository_of_lt hlt
  unfold repoWrite
  simp only [exec_act, hrepository]

/-- The transaction is committed, as the completed run commits it, or it is not. -/
theorem cut_repoWrite {reached : Prop}
    (transaction : Database -> Except RepositoryError (value × Database)) :
    Cut (Live d) pairOf (repoWrite out.completed transaction)
      (repoWrite (out.dropped d) transaction)
      (fun vc v => vc.listeners = w.runtime.listeners ∧ (v = pairOf w ∨ v = vc)) reached w where
  idle := idle_repoWrite transaction
  outcome := by
    intro _ _
    by_cases hlt : w.calls < d.call
    · left
      constructor
      · exact repoWrite_of_lt hlt transaction
      · exact live_succ hlt (repoWrite_frame out.completed transaction w).left
    right
    constructor
    · exact not_live_of_last hlt (repoWrite_frame (out.dropped d) transaction w).left
    cases htransaction : transaction w.db with
    | error error =>
        rw [exec_repoWrite_refused _ htransaction, exec_repoWrite_refused _ htransaction]
        exact ⟨rfl, Or.inl rfl⟩
    | ok outcome =>
        have hfault : (out.dropped d).repository w.calls =
            some ⟨.db, decide (w.calls = d.call) &&
              (d.commits && committed (out.repository w.calls))⟩ :=
          repository_of_not_lt hlt
        have hcompleted : out.completed.repository w.calls = out.repository w.calls := rfl
        rw [exec_repoWrite _ htransaction, exec_repoWrite _ htransaction, hfault, hcompleted]
        cases hcommits : committed (out.repository w.calls) with
        | false =>
            rw [Bool.and_false, Bool.and_false]
            exact ⟨rfl, Or.inl rfl⟩
        | true =>
            rw [if_pos rfl]
            by_cases hdropped : committed (some ⟨RepositoryError.db,
                decide (w.calls = d.call) && (d.commits && true)⟩) = true
            · rw [if_pos hdropped]
              exact ⟨rfl, Or.inr rfl⟩
            · rw [if_neg hdropped]
              exact ⟨rfl, Or.inl rfl⟩

theorem exec_callRuntime {answer : Type} (out : Outside answer)
    (call : answer -> Proxy -> Except RuntimeError value × Proxy) (w : World Proxy) :
    (callRuntime out call).exec w =
      (.ok (call (out.runtime w.calls) w.runtime).1,
        { w with
          runtime := (call (out.runtime w.calls) w.runtime).2
          calls := w.calls + 1 }) := rfl

/-- The call has made some of its steps. -/
theorem cut_callRuntime {reached : Prop}
    {call : Binds × Option Nat -> Proxy -> Except RuntimeError value × Proxy}
    (hcall : forall binds p, (call (binds, some 0) p).2 = p) :
    Cut (Live d) pairOf (callRuntime out.completed call) (callRuntime (out.dropped d) call)
      (fun vc v => vc = ⟨w.db, (call (out.runtime w.calls, none) w.runtime).2.listeners⟩ ∧
        exists left, v = ⟨w.db, (call (out.runtime w.calls, left) w.runtime).2.listeners⟩)
      reached w where
  idle := idle_callRuntime hcall
  outcome := by
    intro _ _
    by_cases hlt : w.calls < d.call
    · have hreply : (out.dropped d).runtime w.calls = out.completed.runtime w.calls := by
        show (out.runtime w.calls, d.left w.calls) = (out.runtime w.calls, none)
        rw [left_of_lt hlt]
      left
      constructor
      · rw [exec_callRuntime, exec_callRuntime, hreply]
      · exact live_succ hlt rfl
    · right
      exact ⟨not_live_of_last hlt rfl, rfl, d.left w.calls, rfl⟩

/-!
# Sequences that begin with a read
-/

section Sequences

variable {result : Type} {left : Pair -> Pair -> Prop} {reached : Prop}

theorem cut_bind_repoRead {query : Database -> Except RepositoryError value}
    {next next' : value -> ServiceM Proxy result}
    (hbefore : reached -> forall vc, left vc (pairOf w))
    (hnext : forall a, Cut (Live d) pairOf (next a) (next' a) left
      (reached ∧ query w.db = .ok a) w.afterCall) :
    Cut (Live d) pairOf (repoRead out.completed query >>= next)
      (repoRead (out.dropped d) query >>= next') left reached w := by
  apply (cut_repoRead query).bind_quiet hbefore
  intro a
  rw [exec_repoRead]
  apply (hnext a).mono
  · intro h
    rcases h with ⟨hreached, hread⟩
    exact ⟨hreached, repoRead_ok hread⟩
  · intro _ _ _ hleft
    exact hleft

theorem cut_bind_currentTimeMs {next next' : Int -> ServiceM Proxy result}
    (hbefore : reached -> forall vc, left vc (pairOf w))
    (hnext : forall now, Cut (Live d) pairOf (next now) (next' now) left reached w.afterCall) :
    Cut (Live d) pairOf (currentTimeMs out.completed >>= next)
      (currentTimeMs (out.dropped d) >>= next') left reached w := by
  apply cut_currentTimeMs.bind_quiet hbefore
  intro now
  exact (hnext now).mono And.left (fun _ _ _ hleft => hleft)

theorem cut_bind_generateId {next next' : String -> ServiceM Proxy result}
    (hbefore : reached -> forall vc, left vc (pairOf w))
    (hnext : forall id, Cut (Live d) pairOf (next id) (next' id) left
      (reached ∧ id = out.newId w.calls) w.afterCall) :
    Cut (Live d) pairOf (generateId out.completed >>= next)
      (generateId (out.dropped d) >>= next') left reached w := by
  apply cut_generateId.bind_quiet hbefore
  intro id
  apply (hnext id).mono
  · intro h
    rcases h with ⟨hreached, hid⟩
    cases hid
    exact ⟨hreached, rfl⟩
  · intro _ _ _ hleft
    exact hleft

theorem cut_bind_readFailpoints {next next' : Failpoints -> ServiceM Proxy result}
    (hnext : forall failpoints, Cut (Live d) pairOf (next failpoints) (next' failpoints) left
      (reached ∧ w.failpoints = failpoints) w) :
    Cut (Live d) pairOf (readFailpoints >>= next) (readFailpoints >>= next') left reached w := by
  have hlook : Concludes (fun _ : Unit => (readFailpoints : ServiceM Proxy Failpoints)) :=
    fun _ _ => rfl
  apply cut_bind_of_concludes hlook ()
  intro failpoints
  apply (hnext failpoints).mono
  · intro h
    rcases h with ⟨hreached, hread⟩
    cases hread
    exact ⟨hreached, rfl⟩
  · intro _ _ _ hleft
    exact hleft

theorem concludes_orRuntimeError :
    Concludes (orRuntimeError : Except RuntimeError value -> ServiceM Proxy value) := by
  intro result w
  cases result with
  | error error => rfl
  | ok a => rfl

theorem cut_bind_orRuntimeError {answered : Except RuntimeError value}
    {next next' : value -> ServiceM Proxy result}
    (hnext : forall a, Cut (Live d) pairOf (next a) (next' a) left reached w) :
    Cut (Live d) pairOf (orRuntimeError answered >>= next) (orRuntimeError answered >>= next')
      left reached w := by
  apply cut_bind_of_concludes concludes_orRuntimeError answered
  intro a
  exact (hnext a).mono And.left (fun _ _ _ hleft => hleft)

end Sequences

end Calls

/-!
# Without a drop

A completed mutation is the mutation over `RealRuntime`: the listeners outside of the
tables stay what they were.
-/

/-- The same world, with what the tables do not tell. -/
def World.withOutlying (outlying : Outlying) (w : World RealRuntime) : World Proxy where
  db := w.db
  runtime := ⟨outlying, w.runtime⟩
  failpoints := w.failpoints
  calls := w.calls

section Completed

variable {outlying : Outlying} {portRange : PortRange} {applyTimeoutMs : UInt32}
  {out : Outside Binds}

theorem call_alike {value : Type} {program : StepM value} {whole : RealRuntime.RealM value}
    (h : forall outlying, Simulates (Undropped outlying) program whole) (s : RealRuntime) :
    AnswerAlike (fun p s => p = (⟨outlying, s⟩ : Proxy)) (call program none ⟨outlying, s⟩)
      (whole.exec s) := by
  rw [call_none h]
  exact ⟨rfl, rfl⟩

theorem facadesAlike_completed :
    FacadesAlike (fun reply binds => reply = (binds, none))
      (fun p s => p = (⟨outlying, s⟩ : Proxy)) RealSteps.facade RealRuntime.facade where
  create := by
    rintro _ binds _ s rfl rfl allocation _
    exact call_alike (fun _ => simulates_create binds allocation) s
  update := by
    rintro _ binds _ s rfl rfl allocation _
    exact call_alike (fun _ => simulates_update allocation) s
  delete := by
    rintro _ binds _ s rfl rfl id _
    exact call_alike (fun _ => simulates_delete id) s
  restore := by
    rintro _ binds _ s rfl rfl allocation _
    exact call_alike (fun _ => simulates_restore binds allocation) s

theorem sameOutside_completed :
    SameOutside (fun reply binds => reply = (binds, none)) out.completed out where
  clock := fun _ => rfl
  newId := fun _ => rfl
  repository := fun _ => rfl
  runtime := fun _ => rfl

theorem perform_completed (mutation : Mutation) (w : World RealRuntime) :
    perform (stepService portRange applyTimeoutMs) out.completed mutation
        (w.withOutlying outlying) =
      (perform (proxyService portRange applyTimeoutMs) out mutation w).withOutlying
        outlying := by
  have halike : Alike (fun p s => p = (⟨outlying, s⟩ : Proxy))
      (perform (stepService portRange applyTimeoutMs) out.completed mutation
        (w.withOutlying outlying))
      (perform (proxyService portRange applyTimeoutMs) out mutation w) :=
    perform_alike facadesAlike_completed sameOutside_completed mutation ⟨rfl, rfl, rfl, rfl⟩
  generalize perform (stepService portRange applyTimeoutMs) out.completed mutation _ = w'
    at halike
  rcases w' with ⟨db, runtime, failpoints, calls⟩
  rcases halike with ⟨rfl, rfl, rfl, rfl⟩
  rfl

end Completed

end Service
end Relayd
