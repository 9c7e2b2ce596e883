import Relayd.Runtime.TcpDelete

/-!
# The meters of the tcp listeners

All listeners of the runtime share one set of counters; each of them counts its open
connections besides.  A session opens its guard when the upstream has been reached and
the guard is dropped with the copy, be it over, failed or cut short by a signal.  Counters
are read and compared here while every task stands at an await.

Counters of the facade's calls are left out: the sessions do not touch them.
-/

namespace Relayd
namespace Runtime

open Foundation

namespace TcpTasks

structure Metrics where
  rejectedNoHostTotal : UInt64
  tcpListenerAcceptTotal : UInt64
  tcpUpstreamConnectTotal : UInt64
  tcpUpstreamConnectFailTotal : UInt64
  tcpSessionCreateTotal : UInt64
  tcpSessionCloseTotal : UInt64
  tcpActiveSessions : UInt64
  tcpCopyFallbackTotal : UInt64
  tcpSpliceAttemptTotal : UInt64
  tcpSpliceSuccessTotal : UInt64
  tcpSpliceFastPathTotal : UInt64
  tcpSpliceHardFailureTotal : UInt64
  tcpSpliceFallbackTotal : UInt64
  tcpSpliceFallbackForcedTotal : UInt64
  tcpSpliceFallbackUnsupportedTotal : UInt64
deriving DecidableEq, Repr

namespace Metrics

def zero : Metrics := ⟨0, 0, 0, 0, 0, 0, 0, 0, 0, 0, 0, 0, 0, 0, 0⟩

/-- `ActiveSessionGuard::new`. -/
def openGuard (metrics : Metrics) : Metrics :=
  { metrics with
    tcpSessionCreateTotal := metrics.tcpSessionCreateTotal + 1
    tcpActiveSessions := metrics.tcpActiveSessions + 1 }

def dropGuard (metrics : Metrics) : Metrics :=
  { metrics with
    tcpActiveSessions := metrics.tcpActiveSessions - 1
    tcpSessionCloseTotal := metrics.tcpSessionCloseTotal + 1 }

def recordCopyFallback (metrics : Metrics) (forced : Bool) : Metrics :=
  { metrics with
    tcpCopyFallbackTotal := metrics.tcpCopyFallbackTotal + 1
    tcpSpliceFallbackTotal := metrics.tcpSpliceFallbackTotal + 1
    tcpSpliceFallbackForcedTotal :=
      if forced then metrics.tcpSpliceFallbackForcedTotal + 1
      else metrics.tcpSpliceFallbackForcedTotal
    tcpSpliceFallbackUnsupportedTotal :=
      if forced then metrics.tcpSpliceFallbackUnsupportedTotal
      else metrics.tcpSpliceFallbackUnsupportedTotal + 1 }

/-- `copy_streams` up to its first await.  The pipes for splicing are made without one, or
cannot be made. -/
def copyStarts (metrics : Metrics) (entry : ListenerEntry) (prepared : Bool) : Metrics :=
  if entry.forceTcpCopyFallback then metrics.recordCopyFallback true
  else if !entry.tcpSpliceEnabled then
    { metrics with tcpCopyFallbackTotal := metrics.tcpCopyFallbackTotal + 1 }
  else
    let attempted :=
      { metrics with tcpSpliceAttemptTotal := metrics.tcpSpliceAttemptTotal + 1 }
    if prepared then attempted else attempted.recordCopyFallback false

/-- Splicing has ended, with these errors of the two directions. -/
def spliceEnds (metrics : Metrics) (errors : Option IoError × Option IoError) : Metrics :=
  match [errors.1, errors.2].reduceOption.find?
      (fun error => !spliceErrorIsCleanClose error) with
  | some _ =>
      { metrics with
        tcpSpliceHardFailureTotal := metrics.tcpSpliceHardFailureTotal + 1 }
  | none =>
      { metrics with
        tcpSpliceSuccessTotal := metrics.tcpSpliceSuccessTotal + 1
        tcpSpliceFastPathTotal := metrics.tcpSpliceFastPathTotal + 1 }

end Metrics

/-- How `copy_streams` copies for a session.  What is dropped while it splices stays
so. -/
inductive CopyPath where
  | buffered
  | splicing
  | returned
deriving DecidableEq, Repr

def copyPath (entry : ListenerEntry) (prepared : Bool) : CopyPath :=
  if entry.forceTcpCopyFallback then .buffered
  else if !entry.tcpSpliceEnabled then .buffered
  else if prepared then .splicing
  else .buffered

structure Listening where
  tasks : Tasks
  active : UInt64
  paths : KeyMap Nat CopyPath

/-- The listeners that have ever been bound; a deleted one may still have sessions. -/
structure Metered where
  listeners : KeyMap Nat Listening
  bound : Nat
  metrics : Metrics

def Metered.start : Metered := ⟨∅, 0, .zero⟩

/-- The guard lives as long as the copy and what is done about its error. -/
def SessionPhase.guarded : SessionPhase -> Bool
  | .copying => true
  | .copyFailed _ => true
  | _ => false

def Tasks.guards (s : Tasks) (number : Nat) : Bool :=
  (s.spawned.lookup number).any (fun session => session.phase.guarded)

/-- Whether a step ends with a guard dropped. -/
def Tasks.drops (s s' : Tasks) : Step -> Bool
  | .session number _ => s.guards number && !s'.guards number
  | _ => false

inductive MeterStep where
  | bind (allocation : Allocation)
  | connect (listener number : Nat) (prepared : Bool)
  | task (listener : Nat) (step : Step)

/-- The copy ends the way it has been going. -/
def Listening.admits (listening : Listening) : Step -> Bool
  | .session _ .connect => false
  | .session number (.copyEnds splice _) =>
      match splice with
      | .ok _ => listening.paths.lookup number == some .splicing
      | .error _ => listening.paths.lookup number == some .buffered
  | _ => true

def Tasks.counts (s : Tasks) (metrics : Metrics) : Step -> Metrics
  | .accept .accept =>
      { metrics with tcpListenerAcceptTotal := metrics.tcpListenerAcceptTotal + 1 }
  | .accept .readState =>
      if s.entry.state.target = none then
        { metrics with rejectedNoHostTotal := metrics.rejectedNoHostTotal + 1 }
      else metrics
  | .control (.findEntry _ allocation) =>
      if (entryStateFor allocation).runtimeStatus = .rejectingNoHost then
        { metrics with rejectedNoHostTotal := metrics.rejectedNoHostTotal + 1 }
      else metrics
  | .session _ (.connectFails _) =>
      { metrics with
        tcpUpstreamConnectFailTotal := metrics.tcpUpstreamConnectFailTotal + 1 }
  | .session _ (.copyEnds splice _) =>
      match splice with
      | .ok errors => metrics.spliceEnds errors
      | .error _ => metrics
  | _ => metrics

def Listening.walks (paths : KeyMap Nat CopyPath) : Step -> KeyMap Nat CopyPath
  | .session number (.copyEnds _ _) => paths.insert number .returned
  | _ => paths

namespace Metered

def connect (m : Metered) (listener : Nat) (listening : Listening) (number : Nat)
    (prepared : Bool) : Option Metered :=
  (TcpTasks.next listening.tasks (.session number .connect)).map (fun tasks =>
    let connected :=
      { m.metrics with
        tcpUpstreamConnectTotal := m.metrics.tcpUpstreamConnectTotal + 1 }
    { m with
      listeners := m.listeners.insert listener
        { tasks := tasks
          active := listening.active + 1
          paths := listening.paths.insert number
            (copyPath listening.tasks.entry prepared) }
      metrics := connected.openGuard.copyStarts listening.tasks.entry prepared })

def task (m : Metered) (listener : Nat) (listening : Listening) (step : Step) :
    Option Metered :=
  if listening.admits step then
    (TcpTasks.next listening.tasks step).map (fun tasks =>
      let counted := listening.tasks.counts m.metrics step
      let dropped := listening.tasks.drops tasks step
      { m with
        listeners := m.listeners.insert listener
          { tasks := tasks
            active := if dropped then listening.active - 1 else listening.active
            paths := Listening.walks listening.paths step }
        metrics := if dropped then counted.dropGuard else counted })
  else none

def next (config : TcpRuntimeConfig) (m : Metered) : MeterStep -> Option Metered
  | .bind allocation =>
      some
        { m with
          listeners := m.listeners.insert m.bound ⟨Tasks.bound config allocation, 0, ∅⟩
          bound := m.bound + 1 }
  | .connect listener number prepared =>
      (m.listeners.lookup listener).bind (fun listening =>
        m.connect listener listening number prepared)
  | .task listener step =>
      (m.listeners.lookup listener).bind (fun listening => m.task listener listening step)

end Metered

/-!
# The books
-/

/-- How the shared counters hang together while `splicing` sessions splice, or were cut
short when they did. -/
structure Metrics.Balanced (metrics : Metrics) (splicing : Nat) : Prop where
  created : metrics.tcpSessionCreateTotal =
    metrics.tcpSessionCloseTotal + metrics.tcpActiveSessions
  connected : metrics.tcpUpstreamConnectTotal = metrics.tcpSessionCreateTotal
  copied : metrics.tcpCopyFallbackTotal + metrics.tcpSpliceAttemptTotal =
    metrics.tcpSessionCreateTotal + metrics.tcpSpliceFallbackUnsupportedTotal
  fellBack : metrics.tcpSpliceFallbackTotal =
    metrics.tcpSpliceFallbackForcedTotal + metrics.tcpSpliceFallbackUnsupportedTotal
  succeeded : metrics.tcpSpliceSuccessTotal = metrics.tcpSpliceFastPathTotal
  attempted : metrics.tcpSpliceAttemptTotal =
    metrics.tcpSpliceSuccessTotal + metrics.tcpSpliceHardFailureTotal +
      metrics.tcpSpliceFallbackUnsupportedTotal + UInt64.ofNat splicing

def CopyPath.splices (path : CopyPath) : Nat :=
  if path = .splicing then 1 else 0

namespace Metrics

variable {metrics : Metrics} {splicing : Nat}

theorem balanced_zero : zero.Balanced 0 := by
  constructor <;> rfl

theorem Balanced.connects (h : metrics.Balanced splicing) (entry : ListenerEntry)
    (prepared : Bool) :
    (copyStarts (openGuard { metrics with
        tcpUpstreamConnectTotal := metrics.tcpUpstreamConnectTotal + 1 })
      entry prepared).Balanced (splicing + (copyPath entry prepared).splices) := by
  have hone : UInt64.ofNat (splicing + 1) = UInt64.ofNat splicing + 1 := UInt64.ofNat_add _ _
  rcases h with ⟨hcreated, hconnected, hcopied, hfellBack, hsucceeded, hattempted⟩
  cases hforced : entry.forceTcpCopyFallback with
  | true =>
      simp only [copyStarts, copyPath, hforced, if_true]
      constructor <;> simp only [recordCopyFallback, openGuard, CopyPath.splices] <;> grind
  | false =>
      cases henabled : entry.tcpSpliceEnabled with
      | false =>
          simp only [copyStarts, copyPath, hforced, henabled]
          constructor <;> simp only [openGuard, CopyPath.splices] <;> grind
      | true =>
          simp only [copyStarts, copyPath, hforced, henabled]
          cases prepared with
          | true => constructor <;> simp only [openGuard, CopyPath.splices] <;> grind
          | false =>
              constructor <;>
                simp only [recordCopyFallback, openGuard, CopyPath.splices] <;> grind

theorem Balanced.drops (h : metrics.Balanced splicing) : metrics.dropGuard.Balanced splicing :=
  { h with
    created := by
      have hcreated := h.created
      simp only [dropGuard]
      grind }

theorem Balanced.spliceEnds (h : metrics.Balanced (splicing + 1))
    (errors : Option IoError × Option IoError) :
    (metrics.spliceEnds errors).Balanced splicing := by
  have hone : UInt64.ofNat (splicing + 1) = UInt64.ofNat splicing + 1 := UInt64.ofNat_add _ _
  rcases h with ⟨hcreated, hconnected, hcopied, hfellBack, hsucceeded, hattempted⟩
  unfold Metrics.spliceEnds
  split
  · constructor <;> grind
  · constructor <;> grind

end Metrics

/-!
# Guards
-/

def Session.guard (session : Session) : Nat :=
  if session.phase.guarded then 1 else 0

/-- The sessions of a listener whose guard is alive. -/
def Tasks.connections (s : Tasks) : Nat := total Session.guard s.spawned

/-- A session leaves `connecting` with its first step and opens its guard by connecting
only. -/
structure Turns (s s' : Tasks) (number : Nat) (session after : Session) (step : SessionStep) :
    Prop where
  spawned : s'.spawned = s.spawned.insert number after
  left : after.phase ≠ .connecting
  connects : step = .connect -> session.phase = .connecting ∧ after.phase = .copying
  opens : step ≠ .connect -> session.phase.guarded = false -> after.phase.guarded = false

theorem sessionNext_turns {s s' : Tasks} {number : Nat} {session : Session}
    {step : SessionStep} (h : sessionNext s number session step = some s') :
    exists after, Turns s s' number session after step := by
  cases step with
  | connect =>
      simp only [sessionNext] at h
      split at h
      · next hphase =>
        cases h
        exact ⟨_, rfl, by simp, fun _ => ⟨hphase, rfl⟩, fun hstep => absurd rfl hstep⟩
      · cases h
  | copyEnds splice buffered =>
      simp only [sessionNext] at h
      split at h
      · next hphase =>
        split at h
        · cases h
          exact ⟨_, rfl, by simp, by simp, fun _ _ => rfl⟩
        · cases h
          exact ⟨_, rfl, by simp, by simp, by simp [hphase, SessionPhase.guarded]⟩
      · cases h
  | recordError =>
      simp only [sessionNext] at h
      split at h
      · cases h
        exact ⟨_, rfl, by simp, by simp, fun _ _ => rfl⟩
      · cases h
        exact ⟨_, rfl, by simp, by simp, fun _ _ => rfl⟩
      · cases h
  | copy fromClient fromUpstream =>
      simp only [sessionNext] at h
      split at h
      · next hphase =>
        cases h
        exact ⟨_, rfl, by simp [hphase], by simp, fun _ hguarded => hguarded⟩
      · cases h
  | _ =>
      simp only [sessionNext] at h
      split at h
      · cases h
        exact ⟨_, rfl, by simp, by simp, fun _ _ => rfl⟩
      · cases h

theorem guards_insert {s : Tasks} {number : Nat} {after : Session} {s' : Tasks}
    (h : s'.spawned = s.spawned.insert number after) :
    s'.guards number = after.phase.guarded := by
  unfold Tasks.guards
  rw [h, AList.lookup_insert]
  rfl

/-- The accept loop and the calls on the runtime spawn sessions that are connecting, and
touch no other. -/
theorem spawned_next {s s' : Tasks} {step : Step} (hkept : Kept s)
    (hnext : next s step = some s') :
    (s'.spawned = s.spawned ∧ s.drops s' step = false) ∨
      (exists number session, s.spawned.lookup number = none ∧
        s'.spawned = s.spawned.insert number session ∧ session.phase = .connecting ∧
        s.drops s' step = false) ∨
      exists number session step' after, step = .session number step' ∧
        s.spawned.lookup number = some session ∧
        Turns s s' number session after step' := by
  cases step with
  | control step => exact Or.inl ⟨(controlNext_keeps hnext).right, rfl⟩
  | session number step' =>
      simp only [next] at hnext
      split at hnext
      · next session hlookup =>
        rcases sessionNext_turns hnext with ⟨after, hturns⟩
        exact Or.inr (Or.inr ⟨number, session, step', after, rfl, hlookup, hturns⟩)
      · cases hnext
  | accept step =>
      have haccept : acceptNext s step = some s' := hnext
      cases step with
      | register =>
          simp only [acceptNext] at haccept
          split at haccept
          · next number id target hphase =>
            cases haccept
            exact Or.inr (Or.inl ⟨number, _, (hkept.taken number id target hphase).2.2, rfl,
              rfl, rfl⟩)
          · cases haccept
      | observeShutdown =>
          simp only [acceptNext] at haccept
          split at haccept
          · split at haccept
            · cases haccept
              exact Or.inl ⟨rfl, rfl⟩
            · cases haccept
          · cases haccept
      | readState =>
          simp only [acceptNext] at haccept
          split at haccept
          · split at haccept
            · cases haccept
              exact Or.inl ⟨rfl, rfl⟩
            · cases haccept
              exact Or.inl ⟨rfl, rfl⟩
          · cases haccept
      | cancel =>
          simp only [acceptNext] at haccept
          split at haccept
          · split at haccept
            · cases haccept
            · cases haccept
              exact Or.inl ⟨rfl, rfl⟩
          · cases haccept
      | _ =>
          simp only [acceptNext] at haccept
          split at haccept
          · cases haccept
            exact Or.inl ⟨rfl, rfl⟩
          · cases haccept

theorem connections_next {s s' : Tasks} {step : Step} (hkept : Kept s)
    (hnext : next s step = some s') (hstep : forall number, step ≠ .session number .connect) :
    s'.connections + (if s.drops s' step then 1 else 0) = s.connections := by
  unfold Tasks.connections
  rcases spawned_next hkept hnext with ⟨hsame, hdrops⟩ | ⟨number, session, hfresh, hspawned,
    hphase, hdrops⟩ | ⟨number, session, step', after, rfl, hlookup, hturns⟩
  · rw [hsame, hdrops]
    rfl
  · rw [hspawned, hdrops, total_insert_of_none hfresh]
    simp [Session.guard, hphase, SessionPhase.guarded]
  · have htotal := total_insert_of_some hlookup Session.guard after
    have hopens := hturns.opens (by rintro rfl; exact hstep number rfl)
    have hbefore : s.guards number = session.phase.guarded := by
      unfold Tasks.guards
      rw [hlookup]
      rfl
    have hdrops : s.drops s' (.session number step') =
        (session.phase.guarded && !after.phase.guarded) := by
      show (s.guards number && !s'.guards number) = _
      rw [hbefore, guards_insert hturns.spawned]
    rw [hdrops, hturns.spawned]
    unfold Session.guard at htotal ⊢
    cases hguarded : session.phase.guarded with
    | false =>
        rw [hguarded, hopens hguarded] at htotal
        exact htotal
    | true =>
        rw [hguarded] at htotal
        cases hafter : after.phase.guarded with
        | true =>
            rw [hafter] at htotal
            exact Nat.succ.inj htotal
        | false =>
            rw [hafter] at htotal
            exact htotal

theorem connections_connect {s s' : Tasks} {number : Nat}
    (hnext : next s (.session number .connect) = some s') :
    s'.connections = s.connections + 1 ∧
      exists session after, s.spawned.lookup number = some session ∧
        session.phase = .connecting ∧ after.phase ≠ .connecting ∧
        s'.spawned = s.spawned.insert number after := by
  simp only [next] at hnext
  split at hnext
  · next session hlookup =>
    rcases sessionNext_turns hnext with ⟨after, hturns⟩
    rcases hturns.connects rfl with ⟨hbefore, hafter⟩
    have htotal := total_insert_of_some hlookup Session.guard after
    simp only [Session.guard, hbefore, hafter, SessionPhase.guarded] at htotal
    refine ⟨?_, session, after, hlookup, hbefore, hturns.left, hturns.spawned⟩
    unfold Tasks.connections
    rw [hturns.spawned]
    exact htotal
  · cases hnext

/-!
# Whole runs
-/

def Listening.splicing (listening : Listening) : Nat := total CopyPath.splices listening.paths

structure Listening.Sound (config : TcpRuntimeConfig) (listening : Listening) : Prop where
  reachable : exists allocation,
    Reachable next (Tasks.bound config allocation) listening.tasks
  active : listening.active = UInt64.ofNat listening.tasks.connections
  walked : forall number path, listening.paths.lookup number = some path ->
    exists session, listening.tasks.spawned.lookup number = some session ∧
      session.phase ≠ .connecting

theorem Listening.Sound.kept {config : TcpRuntimeConfig} {listening : Listening}
    (h : listening.Sound config) : Kept listening.tasks := by
  rcases h.reachable with ⟨allocation, hreach⟩
  exact kept_reachable hreach

/-- Once connected, never connecting again. -/
theorem connected_next {s s' : Tasks} {step : Step} (hkept : Kept s)
    (hnext : next s step = some s') {number : Nat}
    (h : exists session, s.spawned.lookup number = some session ∧
      session.phase ≠ .connecting) :
    exists session, s'.spawned.lookup number = some session ∧ session.phase ≠ .connecting := by
  rcases h with ⟨session, hlookup, hphase⟩
  rcases spawned_next hkept hnext with ⟨hsame, _⟩ | ⟨other, registered, hfresh, hspawned, _⟩ |
    ⟨other, _, _, after, _, _, hturns⟩
  · rw [hsame]
    exact ⟨session, hlookup, hphase⟩
  · rw [hspawned, lookup_insert_eq]
    split
    · next hother =>
      rw [hother, hfresh] at hlookup
      cases hlookup
    · exact ⟨session, hlookup, hphase⟩
  · rw [hturns.spawned, lookup_insert_eq]
    split
    · exact ⟨after, rfl, hturns.left⟩
    · exact ⟨session, hlookup, hphase⟩

theorem active_counts (s : Tasks) (metrics : Metrics) (step : Step) :
    (s.counts metrics step).tcpActiveSessions = metrics.tcpActiveSessions := by
  unfold Tasks.counts Metrics.spliceEnds
  grind

/-- A step that is admitted keeps the books, a splice that ends being taken off the list. -/
theorem Listening.balanced_counts {listening : Listening} {metrics : Metrics} {step : Step}
    {splicing splicing' : Nat} (h : metrics.Balanced splicing)
    (hadmits : listening.admits step = true)
    (hsplicing : splicing' + listening.splicing =
      splicing + total CopyPath.splices (walks listening.paths step)) :
    (listening.tasks.counts metrics step).Balanced splicing' := by
  have hsame : total CopyPath.splices (walks listening.paths step) = listening.splicing ->
      splicing' = splicing := by
    intro hwalks
    lia
  cases step with
  | accept step =>
      rw [hsame rfl]
      cases step with
      | accept => exact { h with }
      | readState =>
          simp only [Tasks.counts]
          split
          · exact { h with }
          · exact h
      | _ => exact h
  | control step =>
      rw [hsame rfl]
      cases step with
      | findEntry update allocation =>
          simp only [Tasks.counts]
          split
          · exact { h with }
          · exact h
      | _ => exact h
  | session number step =>
      cases step with
      | connectFails error =>
          rw [hsame rfl]
          exact { h with }
      | copyEnds splice buffered =>
          cases splice with
          | error error =>
              have hlookup : listening.paths.lookup number = some .buffered :=
                beq_iff_eq.mp hadmits
              rw [hsame (total_insert_of_some hlookup CopyPath.splices .returned)]
              exact h
          | ok errors =>
              have hlookup : listening.paths.lookup number = some .splicing :=
                beq_iff_eq.mp hadmits
              have htotal : total CopyPath.splices (listening.paths.insert number .returned) +
                  1 = listening.splicing :=
                total_insert_of_some hlookup CopyPath.splices .returned
              have hone : splicing = splicing' + 1 := by
                simp only [walks] at hsplicing
                lia
              rw [hone] at h
              exact h.spliceEnds errors
      | _ =>
          rw [hsame rfl]
          exact h

/-- A path is walked on, never begun, by a step that is admitted. -/
theorem Listening.walks_begun {listening : Listening} {step : Step}
    (hadmits : listening.admits step = true) {number : Nat} {path : CopyPath}
    (h : (walks listening.paths step).lookup number = some path) :
    exists path', listening.paths.lookup number = some path' := by
  cases step with
  | accept step => exact ⟨path, h⟩
  | control step => exact ⟨path, h⟩
  | session other step =>
      cases step with
      | copyEnds splice buffered =>
          simp only [walks] at h
          rw [lookup_insert_eq] at h
          split at h
          · next hother =>
            rw [hother]
            cases splice with
            | ok errors => exact ⟨_, beq_iff_eq.mp hadmits⟩
            | error error => exact ⟨_, beq_iff_eq.mp hadmits⟩
          · exact ⟨path, h⟩
      | _ => exact ⟨path, h⟩

/-- A gauge that counts `count` things, one of which may just have gone. -/
theorem gauge_ofNat {gauge : UInt64} {dropped : Bool} {count count' : Nat}
    (hgauge : gauge = UInt64.ofNat count)
    (hcount : count' + (if dropped then 1 else 0) = count) :
    (if dropped then gauge - 1 else gauge) = UInt64.ofNat count' := by
  rw [hgauge, ← hcount, UInt64.ofNat_add]
  cases dropped with
  | true => exact UInt64.add_sub_cancel _ _
  | false => exact UInt64.add_zero _

namespace Metered

variable {config : TcpRuntimeConfig} {m m' : Metered}

def connections (m : Metered) : Nat :=
  total (fun listening => listening.tasks.connections) m.listeners

def splicing (m : Metered) : Nat := total Listening.splicing m.listeners

structure AddsUp (config : TcpRuntimeConfig) (m : Metered) : Prop where
  fresh : forall listener, m.bound <= listener -> m.listeners.lookup listener = none
  sound : forall listener listening, m.listeners.lookup listener = some listening ->
    listening.Sound config
  gauge : m.metrics.tcpActiveSessions = UInt64.ofNat m.connections
  balanced : m.metrics.Balanced m.splicing

theorem addsUp_start : AddsUp config start where
  fresh := fun _ _ => rfl
  sound := by
    intro listener listening h
    cases h
  gauge := rfl
  balanced := Metrics.balanced_zero

theorem AddsUp.binds (h : AddsUp config m) (allocation : Allocation) :
    AddsUp config
      { m with
        listeners := m.listeners.insert m.bound ⟨Tasks.bound config allocation, 0, ∅⟩
        bound := m.bound + 1 } := by
  have hfresh := h.fresh m.bound (Nat.le_refl _)
  constructor
  · intro listener hle
    show (m.listeners.insert m.bound _).lookup listener = none
    rw [lookup_insert_eq, if_neg (by lia)]
    exact h.fresh listener (Nat.le_of_succ_le hle)
  · intro listener listening hlookup
    replace hlookup : (m.listeners.insert m.bound _).lookup listener = some listening := hlookup
    rw [lookup_insert_eq] at hlookup
    split at hlookup
    · cases hlookup
      refine ⟨⟨allocation, Relation.ReflTransGen.refl⟩, rfl, ?_⟩
      intro number path hpath
      cases hpath
    · exact h.sound listener listening hlookup
  · unfold connections
    rw [total_insert_of_none hfresh]
    exact h.gauge
  · unfold splicing
    rw [total_insert_of_none hfresh]
    exact h.balanced

/-- A listener is put in the place of what it was before a step. -/
theorem AddsUp.put (h : AddsUp config m) {listener : Nat} {before after : Listening}
    {metrics : Metrics} (hlookup : m.listeners.lookup listener = some before)
    (hsound : after.Sound config)
    (hgauge : forall count,
      count + before.tasks.connections = m.connections + after.tasks.connections ->
      metrics.tcpActiveSessions = UInt64.ofNat count)
    (hbalanced : forall splicing, splicing + before.splicing = m.splicing + after.splicing ->
      metrics.Balanced splicing) :
    AddsUp config
      { m with listeners := m.listeners.insert listener after, metrics := metrics } := by
  constructor
  · intro other hle
    show (m.listeners.insert listener after).lookup other = none
    rw [lookup_insert_eq]
    split
    · next hother =>
      rw [← hother, h.fresh other hle] at hlookup
      cases hlookup
    · exact h.fresh other hle
  · intro other listening hother
    replace hother : (m.listeners.insert listener after).lookup other = some listening := hother
    rw [lookup_insert_eq] at hother
    split at hother
    · cases hother
      exact hsound
    · exact h.sound other listening hother
  · exact hgauge _ (total_insert_of_some hlookup _ after)
  · exact hbalanced _ (total_insert_of_some hlookup _ after)

theorem AddsUp.connects (h : AddsUp config m) {listener number : Nat} {listening : Listening}
    {prepared : Bool} (hlookup : m.listeners.lookup listener = some listening)
    (hconnect : m.connect listener listening number prepared = some m') :
    AddsUp config m' := by
  have hsound := h.sound listener listening hlookup
  rcases Option.map_eq_some_iff.mp hconnect with ⟨tasks, hnext, rfl⟩
  rcases connections_connect hnext with ⟨hcount, session, after, hsession, hphase, hafter,
    hspawned⟩
  have hpath : listening.paths.lookup number = none := by
    cases hpath : listening.paths.lookup number with
    | none => rfl
    | some path =>
        rcases hsound.walked number path hpath with ⟨other, hother, hne⟩
        rw [hsession] at hother
        cases hother
        exact absurd hphase hne
  apply h.put hlookup
  · refine ⟨?_, ?_, ?_⟩
    · rcases hsound.reachable with ⟨allocation, hreach⟩
      exact ⟨allocation, hreach.step hnext⟩
    · rw [hcount, UInt64.ofNat_add, ← hsound.active]
      rfl
    · intro other path hother
      rw [lookup_insert_eq] at hother
      split at hother
      · next hsame =>
        exact ⟨after, by rw [hspawned, hsame, AList.lookup_insert], hafter⟩
      · exact connected_next hsound.kept hnext (hsound.walked other path hother)
  · intro count hadds
    have hone : count = m.connections + 1 := by
      rw [hcount] at hadds
      lia
    rw [hone, UInt64.ofNat_add, ← h.gauge]
    unfold Metrics.copyStarts
    grind [Metrics.openGuard, Metrics.recordCopyFallback]
  · intro splicing hadds
    have hpaths := total_insert_of_none hpath CopyPath.splices
      (copyPath listening.tasks.entry prepared)
    have hmore : splicing = m.splicing + (copyPath listening.tasks.entry prepared).splices := by
      unfold Listening.splicing at hadds
      lia
    rw [hmore]
    exact h.balanced.connects listening.tasks.entry prepared

theorem AddsUp.tasks (h : AddsUp config m) {listener : Nat} {listening : Listening}
    {step : Step} (hlookup : m.listeners.lookup listener = some listening)
    (htask : m.task listener listening step = some m') : AddsUp config m' := by
  have hsound := h.sound listener listening hlookup
  unfold Metered.task at htask
  split at htask
  · rename_i hadmits
    rcases Option.map_eq_some_iff.mp htask with ⟨tasks, hnext, rfl⟩
    have hstep : forall number, step ≠ .session number .connect := by
      intro number hstep
      rw [hstep] at hadmits
      cases hadmits
    have hcount := connections_next hsound.kept hnext hstep
    apply h.put hlookup
    · refine ⟨?_, ?_, ?_⟩
      · rcases hsound.reachable with ⟨allocation, hreach⟩
        exact ⟨allocation, hreach.step hnext⟩
      · exact gauge_ofNat hsound.active hcount
      · intro number path hpath
        rcases Listening.walks_begun hadmits hpath with ⟨path', hpath'⟩
        exact connected_next hsound.kept hnext (hsound.walked number path' hpath')
    · intro count hadds
      have hgauge : (listening.tasks.counts m.metrics step).tcpActiveSessions =
          UInt64.ofNat m.connections := (active_counts _ _ _).trans h.gauge
      have hdropped : (if listening.tasks.drops tasks step then
          (listening.tasks.counts m.metrics step).tcpActiveSessions - 1
          else (listening.tasks.counts m.metrics step).tcpActiveSessions) =
          UInt64.ofNat count := gauge_ofNat hgauge (by lia)
      rw [← hdropped]
      split
      · rfl
      · rfl
    · intro splicing hadds
      have hbalanced := Listening.balanced_counts h.balanced hadmits hadds
      split
      · exact hbalanced.drops
      · exact hbalanced
  · cases htask

theorem addsUp_next (h : AddsUp config m) {step : MeterStep}
    (hnext : next config m step = some m') : AddsUp config m' := by
  cases step with
  | bind allocation =>
      cases hnext
      exact h.binds allocation
  | connect listener number prepared =>
      rcases Option.bind_eq_some_iff.mp hnext with ⟨listening, hlookup, hconnect⟩
      exact h.connects hlookup hconnect
  | task listener step =>
      rcases Option.bind_eq_some_iff.mp hnext with ⟨listening, hlookup, htask⟩
      exact h.tasks hlookup htask

end Metered

/-- The meters add up, whatever becomes of the sessions: every listener's gauge is the
number of its connections, the shared gauge is their sum over all listeners, and the
shared counters hang together. -/
theorem meters_add_up (config : TcpRuntimeConfig) (steps : List MeterStep) (m : Metered)
    (hrun : run (Metered.next config) steps Metered.start = some m) :
    (forall listener listening, m.listeners.lookup listener = some listening ->
      (exists allocation, Reachable next (Tasks.bound config allocation) listening.tasks) ∧
      listening.active = UInt64.ofNat listening.tasks.connections) ∧
    m.metrics.tcpActiveSessions = UInt64.ofNat
      (total (fun listening => listening.tasks.connections) m.listeners) ∧
    m.metrics.Balanced (total Listening.splicing m.listeners) := by
  have hadds : m.AddsUp config :=
    (Reachable.of_run steps hrun).invariant Metered.addsUp_start
      (fun _ _ _ hadds hnext => Metered.addsUp_next hadds hnext)
  refine ⟨?_, hadds.gauge, hadds.balanced⟩
  intro listener listening hlookup
  have hsound := hadds.sound listener listening hlookup
  exact ⟨hsound.reachable, hsound.active⟩

/-- Two clients connect; the first one is spliced and goes on, for the second no pipes can
be made and its copy ends. -/
def twoConnections : List MeterStep :=
  [.bind forwardedAllocation, .task 0 (.accept .accept), .task 0 (.accept .readState),
    .task 0 (.accept .register), .connect 0 0 true, .task 0 (.accept .accept),
    .task 0 (.accept .readState), .task 0 (.accept .register), .connect 0 1 false,
    .task 0 (.session 1 (.copyEnds (.error ⟨.other, "no pipes"⟩) (.ok ())))]

theorem meters_of_two_connections :
    exists m, run (Metered.next ⟨true, false⟩) twoConnections Metered.start = some m ∧
      m.connections = 1 ∧ m.splicing = 1 ∧ m.metrics.tcpSessionCreateTotal = 2 ∧
      m.metrics.tcpSpliceFallbackUnsupportedTotal = 1 ∧
      m.metrics.tcpActiveSessions = UInt64.ofNat m.connections ∧
      m.metrics.Balanced m.splicing := by
  have hread : (run (Metered.next ⟨true, false⟩) twoConnections Metered.start).map (fun m =>
      (m.connections, m.splicing, m.metrics.tcpSessionCreateTotal,
        m.metrics.tcpSpliceFallbackUnsupportedTotal)) = some (1, 1, 2, 1) := by
    decide +kernel
  rcases Option.map_eq_some_iff.mp hread with ⟨m, hrun, hm⟩
  simp only [Prod.mk.injEq] at hm
  rcases hm with ⟨hconnections, hsplicing, hcreated, hunsupported⟩
  rcases meters_add_up ⟨true, false⟩ twoConnections m hrun with ⟨_, hgauge, hbalanced⟩
  exact ⟨m, hrun, hconnections, hsplicing, hcreated, hunsupported, hgauge, hbalanced⟩

end TcpTasks
end Runtime
end Relayd
