import Relayd.Foundation.Linearization
import Relayd.Runtime.Netlink

/-!
# Concurrent calls of the netlink runtime

Every change of the desired rules holds `mutation_lock` from its beginning to its
return.  The state has a lock of its own, which a change takes twice: to work out the
rules, with the candidate in the map, and to commit once the kernel has answered.  In
between the map is as it was, so a snapshot, which takes the state lock alone, runs
while the kernel is at work.

A step is one task between two of its lock operations, or one write under the state
lock.  Calls are numbered in the order in which they are made.
-/

namespace Relayd
namespace Runtime
namespace NetlinkCalls

open Foundation NetlinkRuntime

/-!
# The pieces of a change
-/

/-- The map while its rules are worked out. -/
def candidate : Call -> NetlinkState -> NetlinkState
  | .initializeChain, state => state
  | .create allocation, state => state.insert allocation
  | .update allocation, state => state.insert allocation
  | .delete id, state => state.remove id
  | .restore allocation, state => state.insert allocation

/-- The entry that the candidate displaces. -/
def displaced : Call -> NetlinkState -> Option Allocation
  | .initializeChain, _ => none
  | .create allocation, state => state.allocations.lookup allocation.id
  | .update allocation, state => state.allocations.lookup allocation.id
  | .delete id, state => state.allocations.lookup id
  | .restore allocation, state => state.allocations.lookup allocation.id

def withdrawUpsert (allocation : Allocation) (previous : Option Allocation)
    (state : NetlinkState) : NetlinkState :=
  match previous with
  | some previous => state.insert previous
  | none => state.remove allocation.id

def withdrawDelete (removed : Option Allocation) (state : NetlinkState) : NetlinkState :=
  match removed with
  | some allocation => state.insert allocation
  | none => state

/-- The map is put back. -/
def withdraw : Call -> Option Allocation -> NetlinkState -> NetlinkState
  | .initializeChain, _, state => state
  | .create allocation, previous, state => withdrawUpsert allocation previous state
  | .update allocation, previous, state => withdrawUpsert allocation previous state
  | .delete _, removed, state => withdrawDelete removed state
  | .restore allocation, previous, state => withdrawUpsert allocation previous state

/-- What is written to the map once the kernel has answered. -/
def commit : Call -> Except NftBackendError Unit -> NetlinkState -> NetlinkState
  | .initializeChain, _, state => state
  | .create allocation, .ok (), state => state.insert allocation
  | .create _, .error _, state => state
  | .update allocation, _, state => state.insert allocation
  | .delete id, .ok (), state => state.remove id
  | .delete _, .error _, state => state
  | .restore allocation, _, state => state.insert allocation

def markResult : Except NftBackendError Unit -> NetlinkState ->
    Except RuntimeError Unit × NetlinkState
  | .ok (), state => (.ok (), state.markFresh)
  | .error error, state =>
      let marked := state.markStale error
      (.error marked.1, marked.2)

/-!
# The machine
-/

inductive Request where
  | change (call : Call)
  | snapshot (id : String)
deriving DecidableEq, Repr

inductive Answer where
  | changed (result : Except RuntimeError Unit)
  | observed (result : Except RuntimeError (Option ObservedState))
deriving DecidableEq, Repr

inductive Phase where
  | idle
  | called (call : Call)
  | guarded (call : Call)
  | projecting (call : Call)
  | projected (call : Call) (previous : Option Allocation)
  | applying (call : Call) (rules : List NftDnatRule)
  | applied (call : Call) (result : Except NftBackendError Unit)
  | committing (call : Call) (result : Except NftBackendError Unit)
  | committed (call : Call) (result : Except NftBackendError Unit)
  | marked (call : Call) (result : Except RuntimeError Unit)
  | asked (id : String)
  | looking (id : String)
  | looked (id : String) (result : Except RuntimeError (Option ObservedState))
  | returned (request : Request) (answer : Answer)

structure Machine where
  state : NetlinkState
  kernel : Kernel
  mutationLock : Option Nat
  stateLock : Option Nat
  calls : Nat
  phase : Nat -> Phase

def Machine.new (kernel : Kernel) : Machine where
  state := NetlinkState.default
  kernel := kernel
  mutationLock := none
  stateLock := none
  calls := 0
  phase := fun _ => .idle

def Machine.moveTo (m : Machine) (n : Nat) (phase : Phase) : Machine :=
  { m with phase := Function.update m.phase n phase }

inductive Step where
  | invoke (request : Request)
  | advance (n : Nat)
  | answer (n : Nat) (reply : NftReply)
deriving DecidableEq, Repr

def entryPhase : Request -> Phase
  | .change call => .called call
  | .snapshot id => .asked id

/-- One step of a task up to its next lock operation; the guard on the state is dropped at
the end of the block it was taken in. -/
def advance (m : Machine) (n : Nat) : Option Machine :=
  match m.phase n with
  | .called call =>
      if m.mutationLock = none then
        some ({ m with mutationLock := some n }.moveTo n (.guarded call))
      else none
  | .guarded call =>
      if m.stateLock = none then
        some ({ m with stateLock := some n }.moveTo n (.projecting call))
      else none
  | .projecting call =>
      some ({ m with state := candidate call m.state }.moveTo n
        (.projected call (displaced call m.state)))
  | .projected call previous =>
      some ({ m with state := withdraw call previous m.state, stateLock := none }.moveTo n
        (.applying call (rulesForAllocations m.state.allocations)))
  | .applied call result =>
      if m.stateLock = none then
        some ({ m with stateLock := some n }.moveTo n (.committing call result))
      else none
  | .committing call result =>
      some ({ m with state := commit call result m.state }.moveTo n (.committed call result))
  | .committed call result =>
      some ({ m with state := (markResult result m.state).2, stateLock := none }.moveTo n
        (.marked call (markResult result m.state).1))
  | .marked call result =>
      some ({ m with mutationLock := none }.moveTo n
        (.returned (.change call) (.changed result)))
  | .asked id =>
      if m.stateLock = none then
        some ({ m with stateLock := some n }.moveTo n (.looking id))
      else none
  | .looking id =>
      some ({ m with stateLock := none }.moveTo n
        (.looked id (snapshot id ⟨m.state, m.kernel⟩)))
  | .looked id result =>
      some (m.moveTo n (.returned (.snapshot id) (.observed result)))
  | .idle => none
  | .applying _ _ => none
  | .returned _ _ => none

def next (m : Machine) : Step -> Option Machine
  | .invoke request =>
      some ({ m with calls := m.calls + 1 }.moveTo m.calls (entryPhase request))
  | .advance n => advance m n
  | .answer n reply =>
      match m.phase n with
      | .applying call rules =>
          let applied := replaceRuleset rules reply m.kernel
          some ({ m with kernel := applied.2 }.moveTo n (.applied call applied.1))
      | _ => none

/-!
# The sequential runtime
-/

def respond : Call -> NftReply -> NetlinkRuntime -> Except RuntimeError Unit × NetlinkRuntime
  | .initializeChain, reply, s => initializeChain reply s
  | .create allocation, reply, s => create reply allocation s
  | .update allocation, reply, s => update reply allocation s
  | .delete id, reply, s => delete reply id s
  | .restore allocation, reply, s => restore reply allocation s

/-- One call of the runtime, with no other under way. -/
def Answers (s : NetlinkRuntime) : Request -> Answer -> NetlinkRuntime -> Prop
  | .change call, answer, s' =>
      exists reply, s' = (respond call reply s).2 ∧ answer = .changed (respond call reply s).1
  | .snapshot id, answer, s' => s' = s ∧ answer = .observed (snapshot id s)

def Phase.progress : Phase -> Progress Request Answer
  | .idle => .idle
  | .called call => .invoked (.change call)
  | .guarded call => .invoked (.change call)
  | .projecting call => .invoked (.change call)
  | .projected call _ => .invoked (.change call)
  | .applying call _ => .invoked (.change call)
  | .applied call _ => .invoked (.change call)
  | .committing call _ => .invoked (.change call)
  | .committed call _ => .invoked (.change call)
  | .marked call result => .effective (.change call) (.changed result)
  | .asked id => .invoked (.snapshot id)
  | .looking id => .invoked (.snapshot id)
  | .looked id result => .effective (.snapshot id) (.observed result)
  | .returned request answer => .returned request answer

def progress (m : Machine) : Nat -> Progress Request Answer := Phase.progress ∘ m.phase

/-- The call that takes the step. -/
def Machine.caller (m : Machine) : Step -> Nat
  | .invoke _ => m.calls
  | .advance n => n
  | .answer n _ => n

/-- A change takes effect when it marks the state, a snapshot when it looks. -/
def mark (m : Machine) (step : Step) (m' : Machine) : Option (Mark Request Answer) :=
  (progress m (m.caller step)).mark (m.caller step) (progress m' (m.caller step))

/-!
# What the holder of the mutation lock has done so far
-/

def project : Call -> NetlinkState -> List NftDnatRule × NetlinkState
  | .initializeChain, state => (rulesForAllocations state.allocations, state)
  | .create allocation, state => state.projectUpsert allocation
  | .update allocation, state => state.projectUpsert allocation
  | .delete id, state => state.projectDelete id
  | .restore allocation, state => state.projectUpsert allocation

theorem projectUpsert_eq (allocation : Allocation) (state : NetlinkState) :
    state.projectUpsert allocation =
      (rulesForAllocations (state.insert allocation).allocations,
        withdrawUpsert allocation (state.allocations.lookup allocation.id)
          (state.insert allocation)) := by
  unfold NetlinkState.projectUpsert withdrawUpsert
  cases state.allocations.lookup allocation.id <;> rfl

theorem projectDelete_eq (id : String) (state : NetlinkState) :
    state.projectDelete id =
      (rulesForAllocations (state.remove id).allocations,
        withdrawDelete (state.allocations.lookup id) (state.remove id)) := by
  unfold NetlinkState.projectDelete withdrawDelete
  cases state.allocations.lookup id <;> rfl

/-- The three steps under the state lock are the projection. -/
theorem project_eq (call : Call) (state : NetlinkState) :
    project call state =
      (rulesForAllocations (candidate call state).allocations,
        withdraw call (displaced call state) (candidate call state)) := by
  cases call with
  | initializeChain => rfl
  | create allocation => exact projectUpsert_eq allocation state
  | update allocation => exact projectUpsert_eq allocation state
  | delete id => exact projectDelete_eq id state
  | restore allocation => exact projectUpsert_eq allocation state

theorem project_snd (call : Call) (state : NetlinkState) :
    SameLookups (project call state).2.allocations state.allocations := by
  cases call with
  | initializeChain => exact fun _ => rfl
  | create allocation => exact state.projectUpsert_snd allocation
  | update allocation => exact state.projectUpsert_snd allocation
  | delete id => exact state.projectDelete_snd id
  | restore allocation => exact state.projectUpsert_snd allocation

theorem staleError_project (call : Call) (state : NetlinkState) :
    (project call state).2.staleError = state.staleError := by
  rw [project_eq]
  cases call with
  | initializeChain => rfl
  | create allocation =>
      unfold withdraw withdrawUpsert
      cases displaced (.create allocation) state <;> rfl
  | update allocation =>
      unfold withdraw withdrawUpsert
      cases displaced (.update allocation) state <;> rfl
  | delete id =>
      unfold withdraw withdrawDelete
      cases displaced (.delete id) state <;> rfl
  | restore allocation =>
      unfold withdraw withdrawUpsert
      cases displaced (.restore allocation) state <;> rfl

/-- A call by itself goes through the same steps. -/
theorem respond_eq (call : Call) (reply : NftReply) (s : NetlinkRuntime) :
    let projected := project call s.state
    let applied := replaceRuleset projected.1 reply s.kernel
    let marked := markResult applied.1 (commit call applied.1 projected.2)
    respond call reply s = (marked.1, ⟨marked.2, applied.2⟩) := by
  cases call <;> cases reply <;> rfl

/-!
# The machine and the sequential runtime
-/

/-- The phases in which a call holds `mutation_lock`. -/
def Phase.guards : Phase -> Bool
  | .guarded _ => true
  | .projecting _ => true
  | .projected _ _ => true
  | .applying _ _ => true
  | .applied _ _ => true
  | .committing _ _ => true
  | .committed _ _ => true
  | .marked _ _ => true
  | _ => false

/-- The phases in which a call holds the lock of the state. -/
def Phase.locks : Phase -> Bool
  | .projecting _ => true
  | .projected _ _ => true
  | .committing _ _ => true
  | .committed _ _ => true
  | .looking _ => true
  | _ => false

/-- How the map and the kernel stand to the sequential runtime, by the phase of the call
that holds `mutation_lock`. -/
def Shows (o : NetlinkRuntime) (state : NetlinkState) (kernel : Kernel) : Phase -> Prop
  | .projected call previous =>
      state = candidate call o.state ∧ previous = displaced call o.state ∧ kernel = o.kernel
  | .applying call rules =>
      state = (project call o.state).2 ∧ rules = (project call o.state).1 ∧
        kernel = o.kernel
  | .applied call result =>
      state = (project call o.state).2 ∧ exists reply,
        replaceRuleset (project call o.state).1 reply o.kernel = (result, kernel)
  | .committing call result =>
      state = (project call o.state).2 ∧ exists reply,
        replaceRuleset (project call o.state).1 reply o.kernel = (result, kernel)
  | .committed call result =>
      state = commit call result (project call o.state).2 ∧ exists reply,
        replaceRuleset (project call o.state).1 reply o.kernel = (result, kernel)
  | _ => state = o.state ∧ kernel = o.kernel

structure Related (m : Machine) (o : NetlinkRuntime) : Prop where
  mutation : Owned Phase.guards m.phase m.mutationLock
  state : Owned Phase.locks m.phase m.stateLock
  fresh : forall n, m.calls <= n -> m.phase n = .idle
  shows : Shows o m.state m.kernel (holderPhase .idle m.phase m.mutationLock)

theorem related_new (kernel : Kernel) : Related (Machine.new kernel) (new kernel) where
  mutation := fun _ => ⟨nofun, nofun⟩
  state := fun _ => ⟨nofun, nofun⟩
  fresh := fun _ _ => rfl
  shows := ⟨rfl, rfl⟩

section Moves

variable {m : Machine} {o o' : NetlinkRuntime} {n : Nat} {phase : Phase}

theorem Related.shows_holder (h : Related m o) (hguards : (m.phase n).guards = true) :
    Shows o m.state m.kernel (m.phase n) :=
  h.mutation.holderPhase_eq hguards .idle ▸ h.shows

/-- The holder of `mutation_lock` goes on to another phase in which it holds it. -/
theorem Related.holder_moves (h : Related m o) (hguards : (m.phase n).guards = true)
    (hguards' : phase.guards = true) {state : NetlinkState} {kernel : Kernel}
    {stateLock : Option Nat}
    (hlock : Owned Phase.locks (Function.update m.phase n phase) stateLock)
    (hshows : Shows o' state kernel phase) :
    Related (Machine.moveTo
      { m with state := state, kernel := kernel, stateLock := stateLock } n phase) o' where
  mutation := h.mutation.keep (hguards'.trans hguards.symm)
  state := hlock
  fresh := by
    apply update_beyond h.fresh
    intro hidle
    rw [hidle] at hguards
    cases hguards
  shows := (h.mutation.holderPhase_update hguards .idle phase).symm ▸ hshows

/-- A call that does not hold `mutation_lock` goes on without it. -/
theorem Related.bystander_moves (h : Related m o) (hidle : m.phase n ≠ .idle)
    (hguards : (m.phase n).guards = false) (hguards' : phase.guards = false)
    {stateLock : Option Nat}
    (hlock : Owned Phase.locks (Function.update m.phase n phase) stateLock) :
    Related (Machine.moveTo { m with stateLock := stateLock } n phase) o where
  mutation := h.mutation.keep (hguards'.trans hguards.symm)
  state := hlock
  fresh := update_beyond h.fresh hidle phase
  shows := (h.mutation.holderPhase_bystander hguards .idle phase).symm ▸ h.shows

theorem progress_moveTo {m' : Machine} (hphase : m'.phase = m.phase) :
    progress (m'.moveTo n phase) = Function.update (progress m) n phase.progress := by
  unfold progress
  rw [← hphase]
  exact Function.comp_update Phase.progress m'.phase n phase

/-- A move between two phases that look the same from outside. -/
theorem progress_moveTo_same {m' : Machine} (hphase : m'.phase = m.phase)
    (hsame : phase.progress = (m.phase n).progress) :
    progress (m'.moveTo n phase) = progress m := by
  rw [progress_moveTo hphase, hsame]
  exact Function.update_eq_self n (progress m)

/-- While no change is inside the state lock, a snapshot sees the sequential runtime. -/
theorem Related.snapshot_eq (h : Related m o) (hlooks : (m.phase n).locks = true)
    (hguards : (m.phase n).guards = false) (id : String) :
    snapshot id ⟨m.state, m.kernel⟩ = snapshot id o := by
  suffices hsame : SameLookups m.state.allocations o.state.allocations ∧
      m.state.staleError = o.state.staleError by
    unfold snapshot
    rw [hsame.left id, hsame.right]
  have hshows := h.shows
  cases hlock : m.mutationLock with
  | none =>
      rw [hlock] at hshows
      rw [hshows.left]
      exact ⟨fun _ => rfl, rfl⟩
  | some k =>
      have hholder : (m.phase k).guards = true := (h.mutation k).mp hlock
      have hfree : (m.phase k).locks = false := by
        cases hlocks : (m.phase k).locks with
        | false => rfl
        | true =>
            rw [h.state.unique hlocks hlooks, hguards] at hholder
            cases hholder
      have hshows' := h.shows_holder hholder
      cases hphase : m.phase k with
      | applying call rules =>
          rw [hphase] at hshows'
          rw [hshows'.left]
          exact ⟨project_snd call o.state, staleError_project call o.state⟩
      | applied call result =>
          rw [hphase] at hshows'
          rw [hshows'.left]
          exact ⟨project_snd call o.state, staleError_project call o.state⟩
      | guarded call =>
          rw [hphase] at hshows'
          rw [hshows'.left]
          exact ⟨fun _ => rfl, rfl⟩
      | marked call result =>
          rw [hphase] at hshows'
          rw [hshows'.left]
          exact ⟨fun _ => rfl, rfl⟩
      | _ => simp [hphase, Phase.guards, Phase.locks] at hholder hfree

theorem accounts_silent {m' : Machine} {step : Step} (hphase : m'.phase = m.phase)
    (hsame : phase.progress = (m.phase n).progress) :
    Accounts Answers (progress m) (progress (m'.moveTo n phase)) o
      (mark m step (m'.moveTo n phase)) o :=
  Accounts.of_same (progress_moveTo_same hphase hsame)

theorem accounts_effect {m' : Machine} {request : Request} {answer : Answer}
    (hphase : m'.phase = m.phase) (hbefore : (m.phase n).progress = .invoked request)
    (hafter : phase.progress = .effective request answer)
    (hanswers : Answers o request answer o') :
    Accounts Answers (progress m) (progress (m'.moveTo n phase)) o
      (mark m (.advance n) (m'.moveTo n phase)) o' := by
  have hprogress : progress (m'.moveTo n phase) =
      Function.update (progress m) n (.effective request answer) := by
    rw [progress_moveTo hphase, hafter]
  exact Accounts.of_effect hbefore hprogress hanswers

theorem accounts_returned {m' : Machine} {request : Request} {answer : Answer}
    (hphase : m'.phase = m.phase)
    (hbefore : (m.phase n).progress = .effective request answer) :
    Accounts Answers (progress m) (progress (m'.moveTo n (.returned request answer))) o
      (mark m (.advance n) (m'.moveTo n (.returned request answer))) o :=
  Accounts.of_returned hbefore (progress_moveTo hphase)

end Moves

/-!
# Every step
-/

section Steps

variable {m m' : Machine} {o : NetlinkRuntime} {n : Nat}

theorem invoke_accounts (h : Related m o) (request : Request) :
    let m' := Machine.moveTo { m with calls := m.calls + 1 } m.calls (entryPhase request)
    Accounts Answers (progress m) (progress m') o (mark m (.invoke request) m') o ∧
      Related m' o := by
  intro m'
  have hidle : m.phase m.calls = .idle := h.fresh m.calls (Nat.le_refl _)
  have hfree : (m.phase m.calls).guards = false := congrArg Phase.guards hidle
  have hguards : (entryPhase request).guards = (m.phase m.calls).guards := by
    rw [hidle]
    cases request <;> rfl
  have hlocks : (entryPhase request).locks = (m.phase m.calls).locks := by
    rw [hidle]
    cases request <;> rfl
  constructor
  · have hbefore : progress m m.calls = .idle := congrArg Phase.progress hidle
    have hprogress : progress m' = Function.update (progress m) m.calls (.invoked request) := by
      rw [progress_moveTo rfl]
      cases request <;> rfl
    exact Accounts.of_invoked hbefore hprogress
  · constructor
    · exact h.mutation.keep hguards
    · exact h.state.keep hlocks
    · intro k hk
      have hne : k ≠ m.calls := by
        have : m.calls + 1 <= k := hk
        lia
      show Function.update m.phase m.calls (entryPhase request) k = .idle
      rw [Function.update_of_ne hne]
      exact h.fresh k (Nat.le_of_succ_le hk)
    · exact (h.mutation.holderPhase_bystander hfree .idle _).symm ▸ h.shows

theorem answer_accounts (h : Related m o) {reply : NftReply}
    (hnext : next m (.answer n reply) = some m') :
    Accounts Answers (progress m) (progress m') o (mark m (.answer n reply) m') o ∧
      Related m' o := by
  simp only [next] at hnext
  cases hphase : m.phase n with
  | applying call rules =>
      rw [hphase] at hnext
      cases hnext
      have hshows := h.shows_holder (n := n) (by rw [hphase]; rfl)
      rw [hphase] at hshows
      rcases hshows with ⟨hstate, hrules, hkernel⟩
      constructor
      · exact accounts_silent rfl (by rw [hphase]; rfl)
      · apply h.holder_moves (by rw [hphase]; rfl) rfl
        · exact h.state.keep (by rw [hphase]; rfl)
        · refine ⟨hstate, reply, ?_⟩
          rw [← hrules, ← hkernel]
  | _ => simp [hphase] at hnext

theorem take_mutation_lock (h : Related m o) {call : Call} (hphase : m.phase n = .called call)
    (hfree : m.mutationLock = none) :
    Related (Machine.moveTo { m with mutationLock := some n } n (.guarded call)) o where
  mutation := by
    have hmutation := h.mutation
    rw [hfree] at hmutation
    exact hmutation.take rfl
  state := h.state.keep (by rw [hphase]; rfl)
  fresh := update_beyond h.fresh (by rw [hphase]; nofun) _
  shows := by
    have hshows := h.shows
    rw [hfree] at hshows
    show Shows o m.state m.kernel (Function.update m.phase n (.guarded call) n)
    rw [Function.update_self]
    exact hshows

theorem drop_mutation_lock (h : Related m o) {call : Call} {result : Except RuntimeError Unit}
    (hphase : m.phase n = .marked call result) :
    Related (Machine.moveTo { m with mutationLock := none } n
      (.returned (.change call) (.changed result))) o where
  mutation := h.mutation.release (by rw [hphase]; rfl) rfl
  state := h.state.keep (by rw [hphase]; rfl)
  fresh := update_beyond h.fresh (by rw [hphase]; nofun) _
  shows := by
    have hshows := h.shows_holder (n := n) (by rw [hphase]; rfl)
    rw [hphase] at hshows
    exact hshows

/-- The state lock is taken when it is free. -/
theorem Related.locked (h : Related m o) (hfree : m.stateLock = none) {phase : Phase}
    (hlocks : phase.locks = true) :
    Owned Phase.locks (Function.update m.phase n phase) (some n) := by
  have hstate := h.state
  rw [hfree] at hstate
  exact hstate.take hlocks

theorem advance_accounts (h : Related m o) (hnext : advance m n = some m') :
    exists o', Accounts Answers (progress m) (progress m') o (mark m (.advance n) m') o' ∧
      Related m' o' := by
  unfold advance at hnext
  cases hphase : m.phase n with
  | idle => simp [hphase] at hnext
  | applying call rules => simp [hphase] at hnext
  | returned request answer => simp [hphase] at hnext
  | called call =>
      simp only [hphase] at hnext
      split at hnext
      · rename_i hfree
        cases hnext
        exact ⟨o, accounts_silent rfl (by rw [hphase]; rfl),
          take_mutation_lock h hphase hfree⟩
      · cases hnext
  | guarded call =>
      simp only [hphase] at hnext
      split at hnext
      · rename_i hfree
        cases hnext
        have hshows := h.shows_holder (n := n) (by rw [hphase]; rfl)
        rw [hphase] at hshows
        exact ⟨o, accounts_silent rfl (by rw [hphase]; rfl),
          h.holder_moves (by rw [hphase]; rfl) rfl (h.locked hfree rfl) hshows⟩
      · cases hnext
  | projecting call =>
      simp only [hphase] at hnext
      cases hnext
      have hshows := h.shows_holder (n := n) (by rw [hphase]; rfl)
      rw [hphase] at hshows
      rcases hshows with ⟨hstate, hkernel⟩
      refine ⟨o, accounts_silent rfl (by rw [hphase]; rfl),
        h.holder_moves (by rw [hphase]; rfl) rfl (h.state.keep (by rw [hphase]; rfl)) ?_⟩
      rw [hstate]
      exact ⟨rfl, rfl, hkernel⟩
  | projected call previous =>
      simp only [hphase] at hnext
      cases hnext
      have hshows := h.shows_holder (n := n) (by rw [hphase]; rfl)
      rw [hphase] at hshows
      rcases hshows with ⟨hstate, hprevious, hkernel⟩
      refine ⟨o, accounts_silent rfl (by rw [hphase]; rfl),
        h.holder_moves (by rw [hphase]; rfl) rfl (h.state.release (by rw [hphase]; rfl) rfl) ?_⟩
      have hproject := project_eq call o.state
      rw [hstate, hprevious]
      exact ⟨(congrArg Prod.snd hproject).symm, (congrArg Prod.fst hproject).symm, hkernel⟩
  | applied call result =>
      simp only [hphase] at hnext
      split at hnext
      · rename_i hfree
        cases hnext
        have hshows := h.shows_holder (n := n) (by rw [hphase]; rfl)
        rw [hphase] at hshows
        exact ⟨o, accounts_silent rfl (by rw [hphase]; rfl),
          h.holder_moves (by rw [hphase]; rfl) rfl (h.locked hfree rfl) hshows⟩
      · cases hnext
  | committing call result =>
      simp only [hphase] at hnext
      cases hnext
      have hshows := h.shows_holder (n := n) (by rw [hphase]; rfl)
      rw [hphase] at hshows
      rcases hshows with ⟨hstate, hreply⟩
      refine ⟨o, accounts_silent rfl (by rw [hphase]; rfl),
        h.holder_moves (by rw [hphase]; rfl) rfl (h.state.keep (by rw [hphase]; rfl)) ?_⟩
      rw [hstate]
      exact ⟨rfl, hreply⟩
  | committed call result =>
      simp only [hphase] at hnext
      cases hnext
      have hshows := h.shows_holder (n := n) (by rw [hphase]; rfl)
      rw [hphase] at hshows
      rcases hshows with ⟨hstate, reply, hreply⟩
      have hrespond : respond call reply o =
          ((markResult result m.state).1, ⟨(markResult result m.state).2, m.kernel⟩) := by
        rw [respond_eq, hreply, hstate]
      refine ⟨(respond call reply o).2, accounts_effect rfl (by rw [hphase]; rfl) rfl ?_,
        h.holder_moves (by rw [hphase]; rfl) rfl (h.state.release (by rw [hphase]; rfl) rfl) ?_⟩
      · exact ⟨reply, rfl, by rw [hrespond]⟩
      · rw [hrespond]
        exact ⟨rfl, rfl⟩
  | marked call result =>
      simp only [hphase] at hnext
      cases hnext
      exact ⟨o, accounts_returned rfl (by rw [hphase]; rfl), drop_mutation_lock h hphase⟩
  | asked id =>
      simp only [hphase] at hnext
      split at hnext
      · rename_i hfree
        cases hnext
        exact ⟨o, accounts_silent rfl (by rw [hphase]; rfl),
          h.bystander_moves (by rw [hphase]; nofun) (by rw [hphase]; rfl) rfl
            (h.locked hfree rfl)⟩
      · cases hnext
  | looking id =>
      simp only [hphase] at hnext
      cases hnext
      have hlooks : (m.phase n).locks = true := by rw [hphase]; rfl
      have hguards : (m.phase n).guards = false := by rw [hphase]; rfl
      refine ⟨o, accounts_effect rfl (by rw [hphase]; rfl) rfl ⟨rfl, ?_⟩,
        h.bystander_moves (by rw [hphase]; nofun) hguards rfl (h.state.release hlooks rfl)⟩
      rw [h.snapshot_eq hlooks hguards]
  | looked id result =>
      simp only [hphase] at hnext
      cases hnext
      exact ⟨o, accounts_returned rfl (by rw [hphase]; rfl),
        h.bystander_moves (by rw [hphase]; nofun) (by rw [hphase]; rfl) rfl
          (h.state.keep (by rw [hphase]; rfl))⟩

theorem simulation : Simulation next mark Answers progress Related := by
  intro m step m' o hrelated hnext
  cases step with
  | invoke request =>
      cases hnext
      exact ⟨o, invoke_accounts hrelated request⟩
  | advance n => exact advance_accounts hrelated hnext
  | answer n reply => exact ⟨o, answer_accounts hrelated hnext⟩

end Steps

/-- However the calls of the runtime overlap, they are linearizable: each took effect at
one moment between its invocation and its return, and in the order of these moments the
answers are those of the calls made one after the other.  A snapshot taken while a
change is under way is among them, so it never shows a candidate.  Whenever no change is
under way, the map and the kernel are the ones the calls in that order leave behind. -/
theorem overlapping_calls_linearize (kernel : Kernel) (steps : List Step) (m : Machine)
    (hrun : run next steps (Machine.new kernel) = some m) :
    let log := marks next mark steps (Machine.new kernel)
    exists final, Linearizes Answers (new kernel) (history log) (effects log) final ∧
      (m.mutationLock = none -> m.state = final.state ∧ m.kernel = final.kernel) := by
  intro log
  rcases simulation.linearizes (related_new kernel) (fun _ => rfl) hrun with
    ⟨final, hlinearizes, hrelated⟩
  refine ⟨final, hlinearizes, ?_⟩
  intro hfree
  have hshows := hrelated.shows
  rw [hfree] at hshows
  exact hshows

def boundAllocation : Allocation where
  id := "a"
  protocol := .tcp
  port := 4000
  targetPort := some 80
  host := some "10.0.0.1"
  createdAtMs := 0
  updatedAtMs := 0

/-- A snapshot is asked for and answered while the kernel works on a create. -/
def snapshotWithinCreate : List Step :=
  [.invoke (.change (.create boundAllocation)), .advance 0, .advance 0, .advance 0,
    .invoke (.snapshot "a"), .advance 0, .advance 1, .advance 1, .advance 1,
    .answer 0 .accepted, .advance 0, .advance 0, .advance 0, .advance 0]

theorem snapshot_within_create_linearizes :
    exists m, run next snapshotWithinCreate (Machine.new ⟨[], none⟩) = some m ∧
      m.mutationLock = none ∧
      let log := marks next mark snapshotWithinCreate (Machine.new ⟨[], none⟩)
      exists final, Linearizes Answers (new ⟨[], none⟩) (history log) (effects log) final ∧
        (m.mutationLock = none -> m.state = final.state ∧ m.kernel = final.kernel) :=
  ⟨_, rfl, rfl, overlapping_calls_linearize ⟨[], none⟩ snapshotWithinCreate _ rfl⟩

/-!
# Every call returns

The two locks are always taken in the same order, and the lock of the state is never
held while the kernel is at work.
-/

/-- The steps a call has yet to take. -/
def Phase.remaining : Phase -> Nat
  | .idle => 0
  | .called _ => 9
  | .guarded _ => 8
  | .projecting _ => 7
  | .projected _ _ => 6
  | .applying _ _ => 5
  | .applied _ _ => 4
  | .committing _ _ => 3
  | .committed _ _ => 2
  | .marked _ _ => 1
  | .asked _ => 3
  | .looking _ => 2
  | .looked _ _ => 1
  | .returned _ _ => 0

def Machine.work (m : Machine) : Nat :=
  ((List.range m.calls).map (fun n => (m.phase n).remaining)).sum

def Step.invokes : Step -> Bool
  | .invoke _ => true
  | _ => false

section Work

variable {m m' : Machine} {o : NetlinkRuntime} {n : Nat}

theorem sum_map_update {phases : Nat -> Phase} {phase : Phase} {calls : Nat}
    (hn : n < calls) (hremaining : phase.remaining + 1 = (phases n).remaining) :
    ((List.range calls).map (fun k => (Function.update phases n phase k).remaining)).sum + 1 =
      ((List.range calls).map (fun k => (phases k).remaining)).sum := by
  induction calls with
  | zero => lia
  | succ calls ih =>
      rw [List.range_succ, List.map_append, List.map_append, List.sum_append, List.sum_append]
      simp only [List.map_cons, List.map_nil, List.sum_cons, List.sum_nil]
      by_cases hlast : n = calls
      · have hfront : (List.range calls).map (fun k =>
            (Function.update phases n phase k).remaining) =
            (List.range calls).map (fun k => (phases k).remaining) := by
          apply List.map_congr_left
          intro k hk
          have hne : k ≠ n := by
            have := List.mem_range.mp hk
            lia
          rw [Function.update_of_ne hne]
        rw [hfront, ← hlast, Function.update_self]
        lia
      · have hrest := ih (by lia)
        rw [Function.update_of_ne (Ne.symm hlast)]
        lia

theorem Related.lt_calls (h : Related m o) (hbusy : (m.phase n).remaining ≠ 0) :
    n < m.calls := by
  by_contra hge
  rw [h.fresh n (Nat.le_of_not_lt hge)] at hbusy
  exact hbusy rfl

theorem work_moveTo (h : Related m o) {phase : Phase} {after : Machine}
    (hphase : after.phase = m.phase) (hcalls : after.calls = m.calls)
    (hremaining : phase.remaining + 1 = (m.phase n).remaining) :
    (after.moveTo n phase).work + 1 = m.work := by
  unfold Machine.work
  show ((List.range after.calls).map (fun k =>
    (Function.update after.phase n phase k).remaining)).sum + 1 = _
  rw [hphase, hcalls]
  exact sum_map_update (h.lt_calls (by lia)) hremaining

theorem advance_work (h : Related m o) (hnext : advance m n = some m') :
    m'.work + 1 = m.work := by
  unfold advance at hnext
  cases hphase : m.phase n <;> simp only [hphase] at hnext <;>
    first
      | cases hnext
        exact work_moveTo h rfl rfl (by rw [hphase]; rfl)
      | (split at hnext
         · cases hnext
           exact work_moveTo h rfl rfl (by rw [hphase]; rfl)
         · cases hnext)
      | cases hnext

theorem next_work (h : Related m o) {step : Step} (hstep : step.invokes = false)
    (hnext : next m step = some m') : m'.work + 1 = m.work := by
  cases step with
  | invoke request => cases hstep
  | advance n => exact advance_work h hnext
  | answer n reply =>
      simp only [next] at hnext
      cases hphase : m.phase n with
      | applying call rules =>
          rw [hphase] at hnext
          cases hnext
          exact work_moveTo h rfl rfl (by rw [hphase]; rfl)
      | _ => simp [hphase] at hnext

/-- A call that is inside the state lock is never held up. -/
theorem advance_of_locks (hlocks : (m.phase n).locks = true) :
    exists m', advance m n = some m' := by
  unfold advance
  cases hphase : m.phase n <;> simp [hphase, Phase.locks] at hlocks ⊢

/-- With the state lock free, a call that does not wait for `mutation_lock` is not held
up. -/
theorem next_of_free (hbusy : (m.phase n).remaining ≠ 0) (hstate : m.stateLock = none)
    (hmutation : (m.phase n).guards = false -> m.mutationLock = none) :
    exists step m', step.invokes = false ∧ next m step = some m' := by
  cases hphase : m.phase n with
  | applying call rules =>
      refine ⟨.answer n .accepted, ?_⟩
      simp [next, hphase, Step.invokes]
  | called call =>
      have hfree : m.mutationLock = none := hmutation (by rw [hphase]; rfl)
      refine ⟨.advance n, ?_⟩
      simp [next, advance, hphase, hfree, Step.invokes]
  | idle => simp [hphase, Phase.remaining] at hbusy
  | returned request answer => simp [hphase, Phase.remaining] at hbusy
  | _ =>
      refine ⟨.advance n, ?_⟩
      simp [next, advance, hphase, hstate, Step.invokes]

theorem remaining_of_guards (hguards : (m.phase n).guards = true) :
    (m.phase n).remaining ≠ 0 := by
  cases hphase : m.phase n <;> simp [hphase, Phase.guards, Phase.remaining] at hguards ⊢

theorem next_of_busy (h : Related m o) (hbusy : (m.phase n).remaining ≠ 0) :
    exists step m', step.invokes = false ∧ next m step = some m' := by
  cases hstate : m.stateLock with
  | some k =>
      rcases advance_of_locks ((h.state k).mp hstate) with ⟨m', hnext⟩
      exact ⟨.advance k, m', rfl, hnext⟩
  | none =>
      cases hmutation : m.mutationLock with
      | none => exact next_of_free hbusy hstate (fun _ => hmutation)
      | some k =>
          have hguards : (m.phase k).guards = true := (h.mutation k).mp hmutation
          apply next_of_free (remaining_of_guards hguards) hstate
          intro hidle
          rw [hguards] at hidle
          cases hidle

theorem Related.work_eq_zero (h : Related m o) :
    m.work = 0 <-> forall n, (m.phase n).remaining = 0 := by
  unfold Machine.work
  rw [List.sum_eq_zero_iff_forall_eq_nat]
  constructor
  · intro hzero n
    by_contra hbusy
    exact hbusy (hzero _ (List.mem_map.mpr
      ⟨n, List.mem_range.mpr (h.lt_calls hbusy), rfl⟩))
  · intro hzero k hk
    rcases List.mem_map.mp hk with ⟨n, _, hn⟩
    rw [← hn]
    exact hzero n

theorem related_reachable {kernel : Kernel} (hreach : Reachable next (Machine.new kernel) m) :
    exists o, Related m o := by
  apply hreach.invariant ⟨new kernel, related_new kernel⟩
  intro s l s' hrelated hnext
  rcases hrelated with ⟨o, hrelated⟩
  rcases simulation s l s' o hrelated hnext with ⟨o', _, hrelated'⟩
  exact ⟨o', hrelated'⟩

theorem run_work {steps : List Step} (h : Related m o)
    (hsteps : forall step, step ∈ steps -> step.invokes = false)
    (hrun : run next steps m = some m') : m'.work + steps.length = m.work := by
  induction steps generalizing m o with
  | nil =>
      cases hrun
      rfl
  | cons step rest ih =>
      rcases run_cons.mp hrun with ⟨between, hnext, hrest⟩
      rcases simulation m step between o h hnext with ⟨o', _, hrelated⟩
      have hfirst := next_work h (hsteps step List.mem_cons_self) hnext
      have hlater := ih hrelated (fun l hl => hsteps l (List.mem_cons_of_mem step hl)) hrest
      rw [List.length_cons]
      lia

/-- No call is ever stuck: from any state that overlapping calls can reach, however the
calls under way are scheduled, they return after exactly as many steps as `work` counts,
and until then one of them can take a step. -/
theorem overlapping_calls_return (kernel : Kernel) (m : Machine)
    (hreach : Reachable next (Machine.new kernel) m) (steps : List Step)
    (hsteps : forall step, step ∈ steps -> step.invokes = false) (m' : Machine)
    (hrun : run next steps m = some m') :
    steps.length <= m.work ∧
      (steps.length = m.work ->
        forall n, m'.phase n = .idle ∨ exists request answer,
          m'.phase n = .returned request answer) ∧
      (steps.length < m.work ->
        exists step m'', step.invokes = false ∧ next m' step = some m'') := by
  rcases related_reachable hreach with ⟨o, hrelated⟩
  have hwork := run_work hrelated hsteps hrun
  have hreach' : Reachable next (Machine.new kernel) m' :=
    Relation.ReflTransGen.trans hreach (Reachable.of_run steps hrun)
  rcases related_reachable hreach' with ⟨o', hrelated'⟩
  refine ⟨by lia, ?_, ?_⟩
  · intro hall n
    have hdone : (m'.phase n).remaining = 0 := hrelated'.work_eq_zero.mp (by lia) n
    cases hphase : m'.phase n with
    | idle => exact Or.inl rfl
    | returned request answer => exact Or.inr ⟨request, answer, rfl⟩
    | _ => simp [hphase, Phase.remaining] at hdone
  · intro hless
    have hbusy : ¬ forall n, (m'.phase n).remaining = 0 := by
      intro hzero
      have := hrelated'.work_eq_zero.mpr hzero
      lia
    rcases not_forall.mp hbusy with ⟨n, hn⟩
    exact next_of_busy hrelated' hn

/-- The steps of a change from its call to its return. -/
def changing (n : Nat) : List Step :=
  [.advance n, .advance n, .advance n, .advance n, .answer n .accepted, .advance n, .advance n,
    .advance n, .advance n]

/-- A second change waits for the first, and both return. -/
theorem waiting_change_returns :
    exists m m' done, Reachable next (Machine.new ⟨[], none⟩) m ∧ m.work = 17 ∧
      next m (.advance 1) = none ∧
      (run next [.advance 0] m = some m' ∧
        exists step m'', step.invokes = false ∧ next m' step = some m'') ∧
      (run next ((changing 0).tail ++ changing 1) m = some done ∧
        forall n, done.phase n = .idle ∨
          exists request answer, done.phase n = .returned request answer) ∧
      done.phase 0 = .returned (.change (.create boundAllocation)) (.changed (.ok ())) ∧
      done.phase 1 = .returned (.change (.delete "a")) (.changed (.ok ())) := by
  have hreach : Reachable next (Machine.new ⟨[], none⟩) _ :=
    Reachable.of_run [.invoke (.change (.create boundAllocation)), .advance 0,
      .invoke (.change (.delete "a"))] rfl
  have hgoesOn := overlapping_calls_return ⟨[], none⟩ _ hreach [.advance 0]
    (by simp [Step.invokes]) _ rfl
  have hreturns := overlapping_calls_return ⟨[], none⟩ _ hreach
    ((changing 0).tail ++ changing 1) (by simp [changing, Step.invokes]) _ rfl
  exact ⟨_, _, _, hreach, rfl, rfl, ⟨rfl, hgoesOn.right.right (by decide)⟩,
    ⟨rfl, hreturns.right.left rfl⟩, rfl, rfl⟩

end Work

end NetlinkCalls
end Runtime
end Relayd
