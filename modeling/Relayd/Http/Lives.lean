import Relayd.Http.ReadBack
import Relayd.Service.Restart

/-!
# The daemon over its restarts

A start opens the database, restores what it holds over a fresh runtime, and serves requests
until the process goes away; a restore that fails ends the process before it serves.  The
next start finds the same file, another runtime and maybe another configuration.
-/

namespace Relayd
namespace Http

open Foundation Fallible Relayd.Runtime Relayd.Service Storage

/-- One start of the process: its configuration, its runtime, what it is asked and what the
calls outside of it answer.  The ids are generated the same way in every process. -/
structure Life (metrics : Type) where
  rt : Type
  answer : Type
  app : AppState rt answer
  runtime : rt
  metrics : metrics
  clock : Nat -> Int
  repository : Nat -> Option RepositoryFault
  answers : Nat -> answer
  restoreSweepTimeoutMs : UInt32
  requests : List Request

/-- No call of the repository fails. -/
def Life.Reliable {metrics : Type} (life : Life metrics) : Prop :=
  forall call, life.repository call = none

/-- A request and its answer, under the configuration it met. -/
structure Exchange (metrics : Type) where
  rt : Type
  answer : Type
  app : AppState rt answer
  request : Request
  response : Response metrics

section Running

variable {metrics : Type} (newId : Nat -> String) (lib : Libraries)

def Life.outside (life : Life metrics) : Service.Outside life.answer where
  clock := life.clock
  newId := newId
  repository := life.repository
  runtime := life.answers

/-- The process opens the file; the calls of earlier processes have been counted. -/
def Life.opened (life : Life metrics) (db : Database) (calls : Nat) : World life.rt :=
  { World.opened (openDatabase db) life.runtime with calls := calls }

def Life.daemon (life : Life metrics) (world : World life.rt) : Daemon life.rt metrics where
  world := world
  metrics := life.metrics
  prometheusRates := .default
  performed := []

def Life.exchanges (life : Life metrics) (responses : List (Response metrics)) :
    List (Exchange metrics) :=
  List.zipWith (fun request response => ⟨life.rt, life.answer, life.app, request, response⟩)
    life.requests responses

/-- `run_with_runtime`, up to when the process goes away. -/
def runWithRuntime (life : Life metrics) (db : Database) (calls : Nat) :
    List (Exchange metrics) × Database × Nat :=
  match (restoreAll life.app.service (life.outside newId) life.restoreSweepTimeoutMs).exec
      (life.opened db calls) with
  | (.error _, world) => ([], world.db, world.calls)
  | (.ok (), world) =>
      let served := serveAll life.app (life.outside newId) lib life.requests
        (life.daemon world)
      (life.exchanges served.1, served.2.world.db, served.2.world.calls)

def runLives : List (Life metrics) -> Database -> Nat ->
    List (Exchange metrics) × Database × Nat
  | [], db, calls => ([], db, calls)
  | life :: lives, db, calls =>
      let first := runWithRuntime newId lib life db calls
      let rest := runLives lives first.2.1 first.2.2
      (first.1 ++ rest.1, rest.2)

end Running

/-!
# The table over the restarts
-/

section Over

variable {metrics : Type} {newId : Nat -> String} {lib : Libraries} {db : Database}
  {calls : Nat} {table table' : Table}

/-- The table allows the answer, with some runtime beside it. -/
def Exchange.Moves (lib : Libraries) (exchange : Exchange metrics) (table table' : Table) :
    Prop :=
  exists (out : Service.Outside exchange.answer) (before after : Front exchange.rt metrics),
    before.table = table ∧ after.table = table' ∧
      Allows exchange.app out lib exchange.request before after exchange.response

/-- The table allows the answers of one exchange after the other. -/
inductive History (lib : Libraries) : Table -> List (Exchange metrics) -> Table -> Prop where
  | nil (table : Table) : History lib table [] table
  | cons {table table' last : Table} {exchange : Exchange metrics}
      {exchanges : List (Exchange metrics)} :
      exchange.Moves lib table table' -> History lib table' exchanges last ->
      History lib table (exchange :: exchanges) last

theorem History.append {first second : List (Exchange metrics)} {middle last : Table}
    (h : History lib table first middle) (h' : History lib middle second last) :
    History lib table (first ++ second) last := by
  induction h with
  | nil => exact h'
  | cons hallows _ ih => exact .cons hallows (ih h')

theorem History.split {first second : List (Exchange metrics)} {last : Table}
    (h : History lib table (first ++ second) last) :
    exists middle, History lib table first middle ∧ History lib middle second last := by
  induction first generalizing table with
  | nil => exact ⟨table, .nil table, h⟩
  | cons exchange first ih =>
      cases h with
      | cons hallows hrest =>
          rcases ih hrest with ⟨middle, hfirst, hsecond⟩
          exact ⟨middle, .cons hallows hfirst, hsecond⟩

theorem History.head {exchange : Exchange metrics} {exchanges : List (Exchange metrics)}
    (h : History lib table (exchange :: exchanges) table') :
    exists middle, exchange.Moves lib table middle ∧ History lib middle exchanges table' := by
  cases h with
  | cons hallows hrest => exact ⟨_, hallows, hrest⟩

theorem Conversation.history {rt answer : Type} {app : AppState rt answer}
    {out : Service.Outside answer} {before after : Front rt metrics} {requests : List Request}
    {responses : List (Response metrics)}
    (h : Conversation app out lib before requests responses after) :
    History lib before.table (List.zipWith (fun request response =>
      (⟨rt, answer, app, request, response⟩ : Exchange metrics)) requests responses)
      after.table := by
  induction h with
  | nil front => exact .nil front.table
  | cons hallows _ ih => exact .cons ⟨out, _, _, rfl, rfl, hallows⟩ ih

/-- What a process finds in its file, once it has been opened. -/
structure Stored (newId : Nat -> String) (db : Database) (calls : Nat) (table : Table) :
    Prop where
  shows : Shows (openDatabase db) table
  fresh : forall call, calls ≤ call ->
    findAllocation (newId call) (openDatabase db) = none ∧
      findBinding (newId call) (openDatabase db) = none
  exclusive : Exclusive db.allocations

theorem Stored.opened (h : Stored newId db calls table) (life : Life metrics) :
    Ready (life.outside newId) (life.opened db calls) table where
  shows := h.shows
  fresh := h.fresh
  failpoints := rfl
  exclusive := h.exclusive

theorem Ready.stored {life : Life metrics} {world : World life.rt}
    (h : Ready (life.outside newId) world table)
    (hcoherent : table.Coherent) :
    Stored newId world.db world.calls table := by
  have hopened : openDatabase world.db = world.db := h.shows.openDatabase_eq hcoherent
  constructor
  · rw [hopened]
    exact h.shows
  · rw [hopened]
    exact h.fresh
  · exact h.exclusive

theorem restoreAll_ready (h : Stored newId db calls table) (life : Life metrics) :
    Ensures (restoreAll life.app.service (life.outside newId) life.restoreSweepTimeoutMs)
      (fun _ world => Ready (life.outside newId) world table) (life.opened db calls) := by
  have hruntime : forall (world : World life.rt) (runtime : life.rt),
      Ready (life.outside newId) world table ->
      Ready (life.outside newId) { world with runtime := runtime, calls := world.calls + 1 }
        table := by
    intro world runtime hready
    exact ⟨hready.shows, hready.fresh.calls (Nat.le_succ _), hready.failpoints,
      hready.exclusive⟩
  apply restoreAll_invariant (h.opened life)
  · intro world hready
    exact hready.afterCall
  · intro world hready
    exact hruntime world _ hready
  · intro allocation world _ hready
    exact hruntime world _ hready

theorem Exchange.Moves.coherent {exchange : Exchange metrics}
    (h : exchange.Moves lib table table') (hcoherent : table.Coherent) : table'.Coherent := by
  rcases h with ⟨out, before, after, rfl, rfl, hallows⟩
  exact allows_coherent hallows hcoherent

theorem Exchange.Moves.keeps {exchange : Exchange metrics} {id : String} {entry : Entry}
    (h : exchange.Moves lib table table') (hcoherent : table.Coherent)
    (hspares : Spares metrics exchange.app lib id exchange.request)
    (hentry : table id = some entry) : table' id = some entry := by
  rcases h with ⟨out, before, after, rfl, rfl, hallows⟩
  exact allows_keeps hallows hcoherent hspares hentry

theorem Exchange.Moves.tells {exchange : Exchange metrics} {resource : AllocationResource}
    (h : exchange.Moves lib table table') (hcoherent : table'.Coherent)
    (htells : exchange.response.Tells resource) : Holds table' resource := by
  rcases h with ⟨out, before, after, rfl, rfl, hallows⟩
  exact allows_tells hallows hcoherent htells

theorem History.coherent {exchanges : List (Exchange metrics)}
    (h : History lib table exchanges table')
    (hcoherent : table.Coherent) : table'.Coherent := by
  induction h with
  | nil => exact hcoherent
  | cons hmoves _ ih => exact ih (hmoves.coherent hcoherent)

theorem runWithRuntime_history (hids : Function.Injective newId)
    (h : Stored newId db calls table) {life : Life metrics} (hreliable : life.Reliable) :
    let ran := runWithRuntime newId lib life db calls
    exists table', History lib table ran.1 table' ∧ Stored newId ran.2.1 ran.2.2 table' := by
  intro ran
  have hcoherent : table.Coherent := h.shows.coherent
  have hready := restoreAll_ready h life
  unfold Ensures at hready
  show exists table', History lib table (runWithRuntime newId lib life db calls).1 table' ∧
    Stored newId (runWithRuntime newId lib life db calls).2.1
      (runWithRuntime newId lib life db calls).2.2 table'
  unfold runWithRuntime
  generalize Fallible.exec _ _ = restored at hready ⊢
  rcases restored with ⟨result, world⟩
  cases result with
  | error error => exact ⟨table, .nil table, Ready.stored hready hcoherent⟩
  | ok _ =>
      have hrepository : forall call, (life.outside newId).repository call = none := hreliable
      rcases serveAll_allows life.app lib hrepository hids life.requests
        (life.daemon world) hready with ⟨table', hafter, hconversation⟩
      have hhistory := hconversation.history
      exact ⟨table', hhistory, Ready.stored hafter (hhistory.coherent hcoherent)⟩

/-- One table allows what is answered over any number of processes. -/
theorem runLives_history (hids : Function.Injective newId) (lives : List (Life metrics))
    (hreliable : forall life, life ∈ lives -> life.Reliable)
    (h : Stored newId db calls table) :
    let ran := runLives newId lib lives db calls
    exists table', History lib table ran.1 table' ∧ Stored newId ran.2.1 ran.2.2 table' := by
  induction lives generalizing db calls table with
  | nil => exact ⟨table, .nil table, h⟩
  | cons life lives ih =>
      rcases List.forall_mem_cons.mp hreliable with ⟨hlife, hothers⟩
      rcases runWithRuntime_history hids h hlife with ⟨middle, hfirst, hmiddle⟩
      rcases ih hothers hmiddle with ⟨table', hrest, hlast⟩
      exact ⟨table', hfirst.append hrest, hlast⟩

/-!
# Reading back
-/

theorem History.keeps {exchanges : List (Exchange metrics)} {id : String} {entry : Entry}
    (h : History lib table exchanges table') (hcoherent : table.Coherent)
    (hspares : forall exchange, exchange ∈ exchanges ->
      Spares metrics exchange.app lib id exchange.request)
    (hentry : table id = some entry) : table' id = some entry := by
  induction h with
  | nil => exact hentry
  | cons hmoves _ ih =>
      rcases List.forall_mem_cons.mp hspares with ⟨hfirst, hothers⟩
      exact ih (hmoves.coherent hcoherent) hothers (hmoves.keeps hcoherent hfirst hentry)

/-- What an answer tells of an allocation is what is read back, listed and told after any
number of requests and restarts, as long as no request is to change it and no call of the
repository fails. -/
theorem answers_survive_restarts (lib : Libraries) (hids : Function.Injective newId)
    (lives : List (Life metrics)) (hreliable : forall life, life ∈ lives -> life.Reliable)
    (h : Stored newId db calls table)
    (before between after : List (Exchange metrics)) (first last : Exchange metrics)
    (hran : (runLives newId lib lives db calls).1 =
      before ++ first :: (between ++ last :: after))
    (resource : AllocationResource) (htells : first.response.Tells resource)
    (hspares : forall exchange, exchange ∈ between ->
      Spares metrics exchange.app lib resource.id exchange.request) :
    (Asks metrics last.app lib last.request (.get resource.id) ->
      last.response = jsonResponse .ok (.resource resource)) ∧
    (Asks metrics last.app lib last.request .list -> exists resources,
      resource ∈ resources ∧ last.response = jsonResponse .ok (.resources resources)) ∧
    (Spares metrics last.app lib resource.id last.request -> forall other,
      last.response.Tells other -> other.id = resource.id -> other = resource) := by
  rcases runLives_history hids lives hreliable h with ⟨table', hhistory, _⟩
  rw [hran] at hhistory
  rcases hhistory.split with ⟨start, hbefore, hrest⟩
  rcases hrest.head with ⟨told, hfirst, hrest⟩
  rcases hrest.split with ⟨read, hbetween, hrest⟩
  rcases hrest.head with ⟨final, hlast, _⟩
  have htold : told.Coherent := hfirst.coherent (hbefore.coherent h.shows.coherent)
  have hread : read.Coherent := hbetween.coherent htold
  rcases hfirst.tells htold htells with ⟨entry, hentry, hresource⟩
  have hstays : read resource.id = some entry := hbetween.keeps htold hspares hentry
  refine ⟨?_, ?_, ?_⟩
  · intro hasks
    rcases hlast with ⟨out, front, _, rfl, _, hallows⟩
    rcases meets_of_asks hallows hasks with ⟨_, _, hresponse⟩
    rw [hresponse, hstays, ← hresource]
    rfl
  · intro hasks
    rcases hlast with ⟨out, front, _, rfl, _, hallows⟩
    rcases meets_of_asks hallows hasks with ⟨_, _, allocations, hlists, hresponse⟩
    refine ⟨_, ?_, hresponse⟩
    rw [← hresource]
    exact List.mem_map_of_mem ((hlists.listed _).mpr ⟨_, entry, hstays, rfl⟩)
  · intro hlastSpares other htellsOther hid
    have hkept := hlast.keeps hread hlastSpares hstays
    have hother : Holds final other := hlast.tells (hlast.coherent hread) htellsOther
    exact holds_unique ⟨entry, hkept, hresource⟩ hother hid

end Over

/-!
# A restart between a write and a read
-/

def sampleLife (requests : List Request) : Life Unit where
  rt := RealRuntime
  answer := Binds
  app := sampleApp
  runtime := RealRuntime.new "127.0.0.1"
  metrics := ()
  clock := fun call => call
  repository := fun _ => none
  answers := (bindingOutside true).runtime
  restoreSweepTimeoutMs := 1000
  requests := requests

def sampleLives : List (Life Unit) :=
  [sampleLife [createRequest, getRequest "bb"], sampleLife [shortTokenRequest, getRequest "aaaa"]]

theorem stored_empty : Stored countedId Database.empty 0 (fun _ => none) where
  shows := ⟨fun _ => rfl, fun _ => rfl⟩
  fresh := fun _ _ => ⟨rfl, rfl⟩
  exclusive := exclusive_nil

theorem sampleLives_reliable : forall life, life ∈ sampleLives -> life.Reliable := by
  intro life hlife
  rcases List.mem_cons.mp hlife with rfl | hlife
  · exact fun _ => rfl
  · cases List.mem_singleton.mp hlife
    exact fun _ => rfl

def sampleExchange (request : Request) (response : Response Unit) : Exchange Unit :=
  ⟨RealRuntime, Binds, sampleApp, request, response⟩

theorem sample_spares (response response' : Response Unit) (id : String) : forall exchange,
    exchange ∈ [sampleExchange (getRequest "bb") response,
      sampleExchange shortTokenRequest response'] ->
      Spares Unit exchange.app segmentLibraries id exchange.request := by
  intro exchange hexchange call hasks
  rcases List.mem_cons.mp hexchange with rfl | hexchange
  · have hright : Endpoint.call segmentLibraries (getRequest "bb")
        (endpointFor segmentLibraries (getRequest "bb")) =
          (.ok call : Except (Response Unit) Call) := hasks.right
    have hcall : (.ok (.get "bb") : Except (Response Unit) Call) = .ok call := hright
    cases hcall
    exact (Option.some_ne_none _).symm
  · cases List.mem_singleton.mp hexchange
    cases hasks.left

/-- A reservation made by one process is read back from the next one. -/
theorem sample_restart :
    exists made missing refused read,
      (runLives countedId segmentLibraries sampleLives Database.empty 0).1 =
        [sampleExchange createRequest made, sampleExchange (getRequest "bb") missing,
          sampleExchange shortTokenRequest refused, sampleExchange (getRequest "aaaa") read] ∧
      read = jsonResponse .ok (.resource ⟨"aaaa", .tcp, 1000, 3, 3⟩) := by
  refine ⟨_, _, _, _, rfl, ?_⟩
  rcases answers_survive_restarts segmentLibraries countedId_injective sampleLives
    sampleLives_reliable stored_empty []
    [sampleExchange (getRequest "bb") _, sampleExchange shortTokenRequest _] []
    (sampleExchange createRequest _) (sampleExchange (getRequest "aaaa") _) rfl
    ⟨"aaaa", .tcp, 1000, 3, 3⟩ (by decide +kernel) (sample_spares _ _ _) with ⟨hread, _, _⟩
  exact hread ⟨rfl, rfl⟩

end Http
end Relayd
