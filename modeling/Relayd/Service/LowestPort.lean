import Relayd.Runtime.Real
import Relayd.Service.Agreement
import Relayd.Service.Simulation

/-!
# The port a create settles on

The create loop walks the free ports of the range from below.  What it does is
fixed by what the runtime answers at each port: it goes on after a port that could
not be created and stops at any other answer.
-/

namespace Relayd
namespace Service

open Foundation Fallible Relayd.Runtime Storage

/-!
# Searching upwards
-/

section Search

variable {outcome : UInt16 -> Except RuntimeError Unit}

/-- A candidate that the search comes to: everything below it could not be created. -/
def Reached (candidate : UInt16 -> Prop) (outcome : UInt16 -> Except RuntimeError Unit)
    (port : UInt16) : Prop :=
  candidate port ∧ forall lower, candidate lower -> lower < port ->
    outcome lower = .error .runtimeCreateFailed

/-- The result of a search and the ports it has tried, in order. -/
structure Searched (candidate : UInt16 -> Prop)
    (outcome : UInt16 -> Except RuntimeError Unit) (tried : List UInt16)
    (result : Except ServiceError Allocation) : Prop where
  ascending : tried.Pairwise (fun lower higher => lower < higher)
  mem_tried : forall port, port ∈ tried <-> Reached candidate outcome port
  ok_iff : forall port, (exists allocation, result = .ok allocation ∧
    allocation.port = port) <-> Reached candidate outcome port ∧ outcome port = .ok ()
  none_iff : result = .error .noAvailablePort <-> forall port, candidate port ->
    outcome port = .error .runtimeCreateFailed
  error_iff : forall error, result = .error (.runtime error) <->
    error ≠ .runtimeCreateFailed ∧ exists port, Reached candidate outcome port ∧
      outcome port = .error error

theorem searched_nothing {candidate : UInt16 -> Prop} (h : forall port, ¬ candidate port) :
    Searched candidate outcome [] (.error .noAvailablePort) where
  ascending := List.Pairwise.nil
  mem_tried := by
    intro port
    constructor
    · intro hmem
      cases hmem
    · intro hreached
      exact absurd hreached.1 (h port)
  ok_iff := by
    intro port
    constructor
    · intro h
      rcases h with ⟨_, hresult, _⟩
      cases hresult
    · intro hreached
      exact absurd hreached.1.1 (h port)
  none_iff := by
    constructor
    · intro _ port hport
      exact absurd hport (h port)
    · intro _
      rfl
  error_iff := by
    intro error
    constructor
    · intro hresult
      cases hresult
    · intro h
      rcases h with ⟨_, port, hreached, _⟩
      exact absurd hreached.1 (h port)

/-- The least candidate and the candidates above it. -/
structure Splits (candidate rest : UInt16 -> Prop) (least : UInt16) : Prop where
  iff : forall port, candidate port <-> port = least ∨ rest port
  above : forall port, rest port -> least < port

theorem Splits.least_mem {candidate rest : UInt16 -> Prop} {least : UInt16}
    (h : Splits candidate rest least) : candidate least :=
  (h.iff least).mpr (Or.inl rfl)

theorem Splits.reached_least {candidate rest : UInt16 -> Prop} {least : UInt16}
    (h : Splits candidate rest least) : Reached candidate outcome least := by
  refine ⟨h.least_mem, ?_⟩
  intro lower hlower hlt
  rcases (h.iff lower).mp hlower with rfl | hrest
  · exact absurd hlt (UInt16.lt_irrefl _)
  · exact absurd (h.above lower hrest) (UInt16.lt_asymm hlt)

/-- The search goes past the least candidate when that could not be created. -/
theorem Splits.reached_iff {candidate rest : UInt16 -> Prop} {least port : UInt16}
    (h : Splits candidate rest least) :
    Reached candidate outcome port <-> port = least ∨
      (outcome least = .error .runtimeCreateFailed ∧ Reached rest outcome port) := by
  constructor
  · intro h
    rcases h with ⟨hport, hbelow⟩
    rcases (h.iff port).mp hport with hleast | hrest
    · exact Or.inl hleast
    · apply Or.inr
      refine ⟨hbelow least h.least_mem (h.above port hrest), hrest, ?_⟩
      intro lower hlower hlt
      exact hbelow lower ((h.iff lower).mpr (Or.inr hlower)) hlt
  · rintro (rfl | ⟨hleast, hrest, hbelow⟩)
    · exact h.reached_least
    · refine ⟨(h.iff port).mpr (Or.inr hrest), ?_⟩
      intro lower hlower hlt
      rcases (h.iff lower).mp hlower with rfl | hlower
      · exact hleast
      · exact hbelow lower hlower hlt

theorem searched_further {candidate rest : UInt16 -> Prop} {least : UInt16}
    {tried : List UInt16} {result : Except ServiceError Allocation}
    (hsplits : Splits candidate rest least)
    (hleast : outcome least = .error .runtimeCreateFailed)
    (h : Searched rest outcome tried result) :
    Searched candidate outcome (least :: tried) result where
  ascending := by
    apply List.pairwise_cons.mpr
    refine ⟨?_, h.ascending⟩
    intro port hport
    exact hsplits.above port ((h.mem_tried port).mp hport).1
  mem_tried := by
    intro port
    rw [List.mem_cons, hsplits.reached_iff, h.mem_tried]
    simp [hleast]
  ok_iff := by
    intro port
    rw [h.ok_iff, hsplits.reached_iff]
    constructor
    · intro h
      rcases h with ⟨hreached, hok⟩
      exact ⟨Or.inr ⟨hleast, hreached⟩, hok⟩
    · intro h
      rcases h with ⟨rfl | ⟨_, hreached⟩, hok⟩
      · rw [hleast] at hok
        cases hok
      · exact ⟨hreached, hok⟩
  none_iff := by
    rw [h.none_iff]
    constructor
    · intro hall port hport
      rcases (hsplits.iff port).mp hport with rfl | hrest
      · exact hleast
      · exact hall port hrest
    · intro hall port hport
      exact hall port ((hsplits.iff port).mpr (Or.inr hport))
  error_iff := by
    intro error
    rw [h.error_iff]
    constructor
    · intro h
      rcases h with ⟨hother, port, hreached, herror⟩
      exact ⟨hother, port, hsplits.reached_iff.mpr (Or.inr ⟨hleast, hreached⟩), herror⟩
    · intro h
      rcases h with ⟨hother, port, hreached, herror⟩
      rcases hsplits.reached_iff.mp hreached with rfl | ⟨_, hrest⟩
      · rw [hleast] at herror
        cases herror
        exact absurd rfl hother
      · exact ⟨hother, port, hrest, herror⟩

/-- The search stops at the first port that answers anything else. -/
theorem Splits.reached_only {candidate rest : UInt16 -> Prop} {least port : UInt16}
    (h : Splits candidate rest least)
    (hleast : outcome least ≠ .error .runtimeCreateFailed) :
    Reached candidate outcome port <-> port = least := by
  rw [h.reached_iff]
  constructor
  · rintro (hport | ⟨hfailed, _⟩)
    · exact hport
    · exact absurd hfailed hleast
  · exact Or.inl

theorem searched_created {candidate rest : UInt16 -> Prop} {allocation : Allocation}
    (hsplits : Splits candidate rest allocation.port)
    (hleast : outcome allocation.port = .ok ()) :
    Searched candidate outcome [allocation.port] (.ok allocation) := by
  have honly : forall port, Reached candidate outcome port <-> port = allocation.port :=
    fun port => hsplits.reached_only (by rw [hleast]; simp)
  constructor
  · exact List.pairwise_singleton _ _
  · intro port
    rw [honly, List.mem_singleton]
  · intro port
    rw [honly]
    constructor
    · intro h
      rcases h with ⟨found, hfound, hport⟩
      cases hfound
      rw [<- hport]
      exact ⟨rfl, hleast⟩
    · intro h
      rcases h with ⟨rfl, _⟩
      exact ⟨allocation, rfl, rfl⟩
  · constructor
    · intro hresult
      cases hresult
    · intro hall
      have hfailed := hall _ hsplits.least_mem
      rw [hleast] at hfailed
      cases hfailed
  · intro error
    constructor
    · intro hresult
      cases hresult
    · intro h
      rcases h with ⟨_, port, hreached, herror⟩
      rw [(honly port).mp hreached, hleast] at herror
      cases herror

theorem searched_stopped {candidate rest : UInt16 -> Prop} {least : UInt16}
    {error : RuntimeError} (hsplits : Splits candidate rest least)
    (hleast : outcome least = .error error) (hother : error ≠ .runtimeCreateFailed) :
    Searched candidate outcome [least] (.error (.runtime error)) := by
  have honly : forall port, Reached candidate outcome port <-> port = least := by
    intro port
    apply hsplits.reached_only
    rw [hleast]
    intro hsame
    cases hsame
    exact hother rfl
  constructor
  · exact List.pairwise_singleton _ _
  · intro port
    rw [honly, List.mem_singleton]
  · intro port
    rw [honly]
    constructor
    · intro h
      rcases h with ⟨_, hresult, _⟩
      cases hresult
    · intro h
      rcases h with ⟨rfl, hok⟩
      rw [hleast] at hok
      cases hok
  · constructor
    · intro hresult
      cases hresult
    · intro hall
      have hfailed := hall _ hsplits.least_mem
      rw [hleast] at hfailed
      cases hfailed
      exact absurd rfl hother
  · intro other
    constructor
    · intro hresult
      cases hresult
      exact ⟨hother, least, hsplits.reached_least, hleast⟩
    · intro h
      rcases h with ⟨_, port, hreached, herror⟩
      rw [(honly port).mp hreached, hleast] at herror
      cases herror
      rfl

end Search

/-!
# The creates of a run

The service is run once more over a runtime that answers as its own does and keeps what
its creates are asked and answered.
-/

/-- A create: the port it was asked for and what it was answered. -/
structure Asked where
  port : UInt16
  answer : Except RuntimeError Unit

section Recording

variable {rt answer : Type}

/-- A call that is not kept. -/
def unrecorded (call : rt -> Except RuntimeError Unit × rt) (s : rt × List Asked) :
    Except RuntimeError Unit × (rt × List Asked) :=
  ((call s.1).1, (call s.1).2, s.2)

def recording (facade : RuntimeFacade rt answer) : RuntimeFacade (rt × List Asked) answer where
  initializeRuntime := fun reply timeoutMs =>
    unrecorded (facade.initializeRuntime reply timeoutMs)
  create := fun reply allocation timeoutMs s =>
    let outcome := facade.create reply allocation timeoutMs s.1
    (outcome.1, outcome.2, s.2 ++ [⟨allocation.port, outcome.1⟩])
  update := fun reply allocation timeoutMs =>
    unrecorded (facade.update reply allocation timeoutMs)
  delete := fun reply id timeoutMs => unrecorded (facade.delete reply id timeoutMs)
  restore := fun reply allocation timeoutMs =>
    unrecorded (facade.restore reply allocation timeoutMs)
  snapshot := fun id s => facade.snapshot id s.1

def recordingService (svc : Service rt answer) : Service (rt × List Asked) answer :=
  ⟨recording svc.runtime, svc.portRange, svc.applyTimeoutMs⟩

def World.recorded (w : World rt) : World (rt × List Asked) :=
  ⟨w.db, (w.runtime, []), w.failpoints, w.calls⟩

/-- What the create loop asks the runtime, in order, and what it is answered. -/
def creates (svc : Service rt answer) (out : Outside answer) (protocol : Protocol)
    (targetPort : Option UInt16) (w : World rt) : List Asked :=
  ((createAllocation (recordingService svc) out protocol targetPort).exec
    w.recorded).2.runtime.2

theorem facadesAlike_recording (facade : RuntimeFacade rt answer) :
    FacadesAlike Eq (fun r s => r = s.1) facade (recording facade) where
  create := by
    rintro reply _ _ s rfl rfl allocation timeoutMs
    exact ⟨rfl, rfl⟩
  update := by
    rintro reply _ _ s rfl rfl allocation timeoutMs
    exact ⟨rfl, rfl⟩
  delete := by
    rintro reply _ _ s rfl rfl id timeoutMs
    exact ⟨rfl, rfl⟩
  restore := by
    rintro reply _ _ s rfl rfl allocation timeoutMs
    exact ⟨rfl, rfl⟩

/-- The run over the recording runtime is the run. -/
theorem createAllocation_recording (svc : Service rt answer) (out : Outside answer)
    (protocol : Protocol) (targetPort : Option UInt16) (w : World rt) :
    ((createAllocation svc out protocol targetPort).exec w).1 =
        ((createAllocation (recordingService svc) out protocol targetPort).exec w.recorded).1 ∧
      Alike (fun r s => r = s.1) ((createAllocation svc out protocol targetPort).exec w).2
        ((createAllocation (recordingService svc) out protocol targetPort).exec
          w.recorded).2 := by
  have hout : SameOutside Eq out out := ⟨fun _ => rfl, fun _ => rfl, fun _ => rfl, fun _ => rfl⟩
  have halike : Alike (fun r s => r = s.1) w w.recorded := ⟨rfl, rfl, rfl, rfl⟩
  exact simulates_createAllocation (facadesAlike_recording svc.runtime) hout protocol
    targetPort w w.recorded halike

end Recording

/-!
# The loop
-/

/-- No repository call fails, and no generated id is taken. -/
structure Persists {answer : Type} (out : Outside answer) (db : Database) : Prop where
  reliable : forall call, out.repository call = none
  fresh : forall call, findAllocation (out.newId call) db = none ∧
    findBinding (out.newId call) db = none

theorem splits_freeFrom {protocol : Protocol} {db : Database} {start «end» port : UInt16}
    (hport : FreeFrom protocol db «end» (some start) port)
    (hleast : forall other, FreeFrom protocol db «end» (some start) other -> port ≤ other) :
    Splits (FreeFrom protocol db «end» (some start))
      (FreeFrom protocol db «end» (checkedSucc port)) port where
  iff := by
    intro other
    constructor
    · intro hfree
      have hle := UInt16.le_iff_toNat_le.mp (hleast other hfree)
      rcases hfree with ⟨_, hsome, ⟨hstart, hend⟩, hother⟩
      cases hsome
      by_cases hsame : other = port
      · exact Or.inl hsame
      · apply Or.inr
        have hne : other.toNat ≠ port.toNat := fun h => hsame (UInt16.toNat_inj.mp h)
        have hlt := other.toNat_lt
        have hsucc : checkedSucc port = some (port + 1) := if_pos (by lia)
        refine ⟨port + 1, hsucc, ⟨?_, hend⟩, hother⟩
        rw [UInt16.le_iff_toNat_le, toNat_checkedSucc hsucc]
        lia
    · rintro (rfl | ⟨next, hnext, ⟨habove, hend⟩, hother⟩)
      · exact hport
      · rcases hport with ⟨_, hsome, ⟨hstart, _⟩, _⟩
        cases hsome
        have hsucc := toNat_checkedSucc hnext
        refine ⟨start, rfl, ⟨?_, hend⟩, hother⟩
        rw [UInt16.le_iff_toNat_le] at hstart habove ⊢
        lia
  above := by
    rintro other ⟨next, hnext, ⟨habove, _⟩, _⟩
    have hsucc := toNat_checkedSucc hnext
    rw [UInt16.le_iff_toNat_le] at habove
    rw [UInt16.lt_iff_toNat_lt]
    lia

section Loop

variable {rt answer : Type} {svc : Service rt answer} {out : Outside answer}
  {outcome : UInt16 -> Except RuntimeError Unit} {db : Database} {protocol : Protocol}
  {targetPort : Option UInt16}

theorem Attempt.splits {start : UInt16} {w : World rt} {allocation : Allocation}
    {created : Except RuntimeError Unit} {runtime : rt}
    (h : Attempt svc out protocol targetPort start w allocation created runtime) :
    Splits (FreeFrom protocol w.db svc.portRange.end (some start))
      (FreeFrom protocol w.db svc.portRange.end (checkedSucc allocation.port))
      allocation.port :=
  splits_freeFrom h.free h.least

/-- What a round adds to the record. -/
theorem Attempt.asked {start : UInt16} {w : World (rt × List Asked)} {allocation : Allocation}
    {created : Except RuntimeError Unit} {runtime : rt × List Asked}
    (h : Attempt (recordingService svc) out protocol targetPort start w allocation created
      runtime) :
    runtime.2 = w.runtime.2 ++ [⟨allocation.port, created⟩] := by
  have hcreate := h.create_eq
  rcases runtime with ⟨r, asked⟩
  cases hcreate
  rfl

/-- With nothing in the way of the write, it succeeds. -/
theorem Attempt.persists {start : UInt16} {w : World rt} {allocation : Allocation}
    {created : Except RuntimeError Unit} {runtime : rt}
    (h : Attempt svc out protocol targetPort start w allocation created runtime)
    (hstart : svc.portRange.start ≤ start) (hpersists : Persists out w.db) :
    exists db, persistCreated allocation w.db = .ok db := by
  rcases h.free with ⟨_, hsome, hrange, hfree⟩
  cases hsome
  have hcandidate : Candidate svc w allocation :=
    { inRange := ⟨UInt16.le_trans hstart hrange.1, hrange.2⟩
      free := h.protocol_eq ▸ hfree
      unbound := h.unbound }
  have hfresh := hpersists.fresh (w.calls + 2)
  rw [<- h.id_eq] at hfresh
  exact persistCreated_of_fresh hcandidate hfresh.1 hfresh.2

/-- The answers are those that `outcome` gives by the port. -/
def AnsweredBy (outcome : UInt16 -> Except RuntimeError Unit) (asked : List Asked) : Prop :=
  forall create, create ∈ asked -> create.answer = outcome create.port

/-- What a scan from `nextPort` adds to the record, and what it ends with if the answers
it has got depend on the port alone. -/
def Scans (svc : Service rt answer) (protocol : Protocol) (db : Database)
    (outcome : UInt16 -> Except RuntimeError Unit) (nextPort : Option UInt16)
    (before after : List Asked) (result : Except ServiceError Allocation) : Prop :=
  exists asked, after = before ++ asked ∧
    (AnsweredBy outcome asked ->
      Searched (FreeFrom protocol db svc.portRange.end nextPort) outcome
        (asked.map Asked.port) result)

theorem scans_nothing {nextPort : Option UInt16} {before : List Asked}
    (hempty : forall port, ¬ FreeFrom protocol db svc.portRange.end nextPort port) :
    Scans svc protocol db outcome nextPort before before (.error .noAvailablePort) :=
  ⟨[], (List.append_nil _).symm, fun _ => searched_nothing hempty⟩

/-- A round that goes on. -/
theorem Attempt.scans_further {start : UInt16} {w : World (rt × List Asked)}
    {allocation : Allocation} {runtime : rt × List Asked} {after : List Asked}
    {result : Except ServiceError Allocation}
    (h : Attempt (recordingService svc) out protocol targetPort start w allocation
      (.error .runtimeCreateFailed) runtime)
    (hrest : Scans svc protocol w.db outcome (checkedSucc allocation.port) runtime.2 after
      result) :
    Scans svc protocol w.db outcome (some start) w.runtime.2 after result := by
  rcases hrest with ⟨asked, hafter, hsearched⟩
  refine ⟨⟨allocation.port, .error .runtimeCreateFailed⟩ :: asked, ?_, ?_⟩
  · rw [hafter, h.asked, List.append_assoc]
    rfl
  · intro hanswered
    rcases List.forall_mem_cons.mp hanswered with ⟨hleast, hothers⟩
    exact searched_further h.splits hleast.symm (hsearched hothers)

/-- A round that is the last one. -/
theorem Attempt.scans_last {start : UInt16} {w : World (rt × List Asked)}
    {allocation : Allocation} {created : Except RuntimeError Unit} {runtime : rt × List Asked}
    {result : Except ServiceError Allocation}
    (h : Attempt (recordingService svc) out protocol targetPort start w allocation created
      runtime)
    (hsearched : outcome allocation.port = created ->
      Searched (FreeFrom protocol w.db svc.portRange.end (some start)) outcome
        [allocation.port] result) :
    Scans svc protocol w.db outcome (some start) w.runtime.2 runtime.2 result := by
  refine ⟨[⟨allocation.port, created⟩], h.asked, ?_⟩
  intro hanswered
  exact hsearched (hanswered _ List.mem_cons_self).symm

theorem createLoop_scans (hpersists : Persists out db) :
    forall (fuel : Nat) (nextPort : Option UInt16)
      (hfuel : remainingPorts nextPort ≤ fuel) (w : World (rt × List Asked)), w.db = db ->
      (forall start, nextPort = some start -> svc.portRange.start ≤ start) ->
      Ensures (createLoop (recordingService svc) out protocol targetPort fuel nextPort hfuel)
        (fun result w' => Scans svc protocol db outcome nextPort w.runtime.2 w'.runtime.2
          result) w := by
  have hreliable : ¬ RepositoryFails out := by
    intro h
    rcases h with ⟨call, fault, hfault⟩
    rw [hpersists.reliable call] at hfault
    cases hfault
  intro fuel
  induction fuel with
  | zero =>
      intro nextPort hfuel w _ _
      cases nextPort with
      | none => exact scans_nothing (fun _ => not_freeFrom_none)
      | some start => exact absurd hfuel (not_remainingPorts_some_le_zero start)
  | succ fuel ih =>
      intro nextPort hfuel w hdb hstart
      cases nextPort with
      | none => exact scans_nothing (fun _ => not_freeFrom_none)
      | some start =>
          have hlow : svc.portRange.start ≤ start := hstart start rfl
          subst hdb
          apply ensures_createLoop_succ
          · intro error hfails
            exact absurd hfails hreliable
          · intro hempty
            exact scans_nothing hempty
          · intro allocation runtime hattempt
            have hnext : forall next, checkedSucc allocation.port = some next ->
                svc.portRange.start ≤ next := by
              intro next hnext
              have hsucc := toNat_checkedSucc hnext
              rcases hattempt.free with ⟨_, hsome, hrange, _⟩
              cases hsome
              have hport := UInt16.le_iff_toNat_le.mp hrange.1
              rw [UInt16.le_iff_toNat_le] at hlow ⊢
              lia
            have hrest := ih _ (hattempt.remaining hfuel)
              { w with runtime := runtime, calls := w.calls + 4 } rfl hnext
            exact ensures_mono (fun _ _ => hattempt.scans_further) hrest
          · intro allocation error runtime hother hattempt
            exact hattempt.scans_last
              (fun hleast => searched_stopped hattempt.splits hleast hother)
          · intro allocation runtime error db hattempt hfails
            obtain ⟨stored, hstored⟩ := hattempt.persists hlow hpersists
            rcases hfails with ⟨⟨refused, hrefused⟩, _⟩ | ⟨fault, hfault, _⟩
            · rw [hstored] at hrefused
              cases hrefused
            · exact absurd ⟨_, fault, hfault⟩ hreliable
          · intro allocation runtime stored hattempt hstored
            exact hattempt.scans_last (searched_created hattempt.splits)

/-- The ports a create may settle on. -/
def FreeInRange (svc : Service rt answer) (protocol : Protocol) (db : Database)
    (port : UInt16) : Prop :=
  (svc.portRange.start ≤ port ∧ port ≤ svc.portRange.end) ∧ FreePort protocol db port

theorem freeFrom_start (db : Database) :
    FreeFrom protocol db svc.portRange.end (some svc.portRange.start) =
      FreeInRange svc protocol db := by
  funext port
  apply propext
  constructor
  · intro h
    rcases h with ⟨_, hsome, hport⟩
    cases hsome
    exact hport
  · intro hport
    exact ⟨_, rfl, hport⟩

theorem createAllocation_scans {w : World rt} (hpersists : Persists out w.db)
    (hfailpoint : w.failpoints.createTimeout = false) :
    Ensures (createAllocation (recordingService svc) out protocol targetPort)
      (fun result w' => Scans svc protocol w.db outcome (some svc.portRange.start) []
        w'.runtime.2 result) w.recorded := by
  unfold createAllocation
  simp only [ensures_bind, ensures_readFailpoints, continues_ok]
  have hoff : w.recorded.failpoints.createTimeout = false := hfailpoint
  rw [hoff, if_neg (by simp)]
  apply createLoop_scans hpersists _ _ _ w.recorded rfl
  intro start hstart
  cases hstart
  exact UInt16.le_refl _

theorem create_lowest_port {w : World rt} (protocol : Protocol) (targetPort : Option UInt16)
    (hanswered : AnsweredBy outcome (creates svc out protocol targetPort w))
    (hpersists : Persists out w.db) (hfailpoint : w.failpoints.createTimeout = false) :
    Searched (FreeInRange svc protocol w.db) outcome
      ((creates svc out protocol targetPort w).map Asked.port)
      ((createAllocation svc out protocol targetPort).exec w).1 := by
  have hscans : Scans svc protocol w.db outcome (some svc.portRange.start) []
      (creates svc out protocol targetPort w)
      ((createAllocation (recordingService svc) out protocol targetPort).exec w.recorded).1 :=
    createAllocation_scans hpersists hfailpoint
  rcases hscans with ⟨asked, hasked, hsearched⟩
  rw [freeFrom_start] at hsearched
  rw [(createAllocation_recording svc out protocol targetPort w).left]
  rw [hasked, List.nil_append] at hanswered ⊢
  exact hsearched hanswered

end Loop

/-!
# A range that ends with the port space
-/

def boundAt : SocketAddr -> UInt16
  | .v4 _ port => port
  | .v6 _ port _ _ => port

/-- The last port of all can be bound, the one below it cannot. -/
def lastPortOnly : Outside Binds where
  clock := fun _ => 0
  newId := fun _ => "created"
  repository := fun _ => none
  runtime := fun _ => ⟨fun addr => boundAt addr == 65535, fun addr => boundAt addr == 65535⟩

def lastPortService : Service RealRuntime Binds where
  runtime := RealRuntime.facade
  portRange := ⟨65534, 65535⟩
  applyTimeoutMs := 1000

def newWorld : World RealRuntime where
  db := Database.empty
  runtime := RealRuntime.new "0.0.0.0"
  failpoints := Failpoints.default
  calls := 0

theorem creates_lastPortService :
    creates lastPortService lastPortOnly .tcp none newWorld =
      [⟨65534, .error .runtimeCreateFailed⟩, ⟨65535, .ok ()⟩] :=
  rfl

def lastPortAnswers (port : UInt16) : Except RuntimeError Unit :=
  if port = 65535 then .ok () else .error .runtimeCreateFailed

theorem create_lowest_port_at_end :
    (creates lastPortService lastPortOnly .tcp none newWorld).map Asked.port = [65534, 65535] ∧
      exists allocation, ((createAllocation lastPortService lastPortOnly .tcp none).exec
        newWorld).1 = .ok allocation ∧ allocation.port = 65535 := by
  have hanswered : AnsweredBy lastPortAnswers
      (creates lastPortService lastPortOnly .tcp none newWorld) := by
    rw [creates_lastPortService]
    intro create hcreate
    rcases List.mem_cons.mp hcreate with rfl | hcreate
    · rfl
    · cases List.mem_singleton.mp hcreate
      rfl
  have hpersists : Persists lastPortOnly newWorld.db :=
    ⟨fun _ => rfl, fun _ => ⟨rfl, rfl⟩⟩
  have hsearched := create_lowest_port .tcp none hanswered hpersists rfl
  constructor
  · rw [creates_lastPortService]
    rfl
  · apply (hsearched.ok_iff 65535).mpr
    have hreached := (hsearched.mem_tried 65535).mp (by
      rw [creates_lastPortService]
      exact List.mem_cons_of_mem _ List.mem_cons_self)
    exact ⟨hreached, rfl⟩


end Service
end Relayd
