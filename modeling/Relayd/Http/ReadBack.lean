import Relayd.Http.Api

/-!
# Reading back

What an answer shows of an allocation is what the table has, and a call moves no entry but
the one it names, so an answer stays true until a request asks for a change under its id.
-/

namespace Relayd
namespace Http

open Foundation Fallible Relayd.Runtime Relayd.Service

/-!
# What a call does to the table
-/

/-- The id under which a call asks for a change. -/
def Call.names : Call -> Option String
  | .delete id => some id
  | .putBinding id _ _ => some id
  | .deleteBinding id => some id
  | .setTarget id _ => some id
  | .update id _ _ => some id
  | _ => none

/-- A call leaves the table, puts an entry where there is none, or moves the one it names. -/
inductive Moved (table : Table) (named : Option String) : Table -> Prop where
  | stays : Moved table named table
  | places {id : String} {entry : Entry} (hfree : table id = none) (hentry : entry.Coherent id) :
      Moved table named (Function.update table id (some entry))
  | writes {id : String} {entry : Entry} (hnamed : named = some id) (hentry : entry.Coherent id) :
      Moved table named (Function.update table id (some entry))
  | removes {id : String} (hnamed : named = some id) :
      Moved table named (Function.update table id none)

section Moves

variable {rt answer metrics value : Type} {svc : Service rt answer}
  {app : AppState rt answer} {out : Service.Outside answer} {before after : Standing rt}
  {table table' : Table} {named : Option String} {id : String}

theorem moved_of_eq (h : table' = table) : Moved table named table' := by
  rw [h]
  exact .stays

theorem moved_of_later {calls : Nat} (h : after = before.later calls) :
    Moved before.table named after.table := by
  rw [h]
  exact .stays

theorem coherent_created (allocation : Allocation) :
    (Entry.created allocation).Coherent allocation.id := by
  refine ⟨rfl, ?_⟩
  unfold Entry.created
  cases allocation.targetPort <;> rfl

theorem coherent_bound {entry : Entry} (h : entry.Coherent id) (targetPort : UInt16)
    (host : Option String) (now : Int) : (entry.bound targetPort host now).Coherent id :=
  ⟨h.id_eq, rfl⟩

theorem coherent_unbound {entry : Entry} (h : entry.Coherent id) (now : Int) :
    (entry.unbound now).Coherent id :=
  ⟨h.id_eq, rfl⟩

theorem creates_ok {protocol : Protocol} {targetPort : Option UInt16} {allocation : Allocation}
    (h : Creates svc out protocol targetPort before after (.ok allocation)) :
    before.table allocation.id = none ∧
      after.table = Function.update before.table allocation.id (some (.created allocation)) := by
  rcases h with ⟨port, tried, hsettles, _, hfresh, _, rfl⟩
  refine ⟨hfresh, ?_⟩
  show Function.update tried.table _ _ = _
  rw [hsettles.table_eq]

theorem creates_moved {protocol : Protocol} {targetPort : Option UInt16}
    {result : Except ServiceError Allocation}
    (h : Creates svc out protocol targetPort before after result) :
    Moved before.table named after.table := by
  cases result with
  | ok allocation =>
      rcases creates_ok h with ⟨hfresh, htable⟩
      rw [htable]
      exact .places hfresh (coherent_created allocation)
  | error error =>
      cases error with
      | noAvailablePort =>
          rcases h with ⟨ports, tried, hturned, _, rfl | rfl⟩
          · exact moved_of_eq hturned.table_eq
          · exact moved_of_eq hturned.table_eq
      | runtime error =>
          rcases h with ⟨_, port, tried, hsettles, hpropose⟩
          apply moved_of_eq
          rw [← hsettles.table_eq]
          exact (congrArg (fun outcome => outcome.2.table) hpropose).symm
      | _ => exact False.elim h

theorem assigns_moved {entry : Entry} {returned : value} {result : Except ServiceError value}
    (h : Assigns svc out id entry returned before after result) (hentry : entry.Coherent id) :
    Moved before.table (some id) after.table := by
  rw [h.left]
  exact .writes rfl hentry

theorem puts_moved {host : String} {targetPort : UInt16} {result : Except ServiceError Binding}
    (h : Puts svc out id host targetPort before after result)
    (hcoherent : before.table.Coherent) : Moved before.table (some id) after.table := by
  unfold Puts at h
  split at h
  · split at h
    · exact moved_of_later h.right
    · rename_i entry hentry
      have hbound := coherent_bound (hcoherent id entry hentry) targetPort (some host)
        (out.clock (before.calls + 1))
      have hmoved := assigns_moved h hbound
      exact hmoved
  · exact moved_of_eq (congrArg Standing.table h.right)

theorem updates_moved {host : Option String} {targetPort : Option UInt16}
    {result : Except ServiceError Allocation}
    (h : Updates svc out id targetPort host before after result)
    (hcoherent : before.table.Coherent) : Moved before.table (some id) after.table := by
  unfold Updates at h
  split at h
  · exact moved_of_later h.right
  · rename_i entry hentry
    split at h
    · split at h
      · exact moved_of_later h.right
      · rename_i resolved _
        have hbound := coherent_bound (hcoherent id entry hentry) resolved
          (host.or entry.allocation.host) (out.clock (before.calls + 1))
        have hmoved := assigns_moved h hbound
        exact hmoved
    · exact moved_of_later h.right

theorem unbinds_moved {result : Except ServiceError Unit}
    (h : Unbinds svc out id before after result) (hcoherent : before.table.Coherent) :
    Moved before.table (some id) after.table := by
  unfold Unbinds at h
  split at h
  · exact moved_of_later h.right
  · rename_i entry hentry
    split at h
    · have hunbound := coherent_unbound (hcoherent id entry hentry)
        (out.clock (before.calls + 1))
      have hmoved := assigns_moved h hunbound
      exact hmoved
    · exact moved_of_later h.right

theorem deletes_moved {result : Except ServiceError Unit}
    (h : Deletes svc out id before after result) :
    Moved before.table (some id) after.table := by
  unfold Deletes at h
  split at h
  · exact moved_of_later h.right
  · unfold Releases at h
    split at h
    · rename_i heq
      apply moved_of_eq
      rw [h.right]
      exact (congrArg (fun outcome => outcome.2.table) heq).symm
    · rename_i asked heq
      rw [h.right]
      have htable : asked.table = before.table :=
        (congrArg (fun outcome => outcome.2.table) heq).symm
      show Moved before.table (some id) (Function.update asked.table id none)
      rw [htable]
      exact .removes rfl

theorem handles_moved {response : Response metrics} {call : Call}
    (h : Handles app out before after response call) (hcoherent : before.table.Coherent) :
    Moved before.table call.names after.table := by
  cases call with
  | scrape => exact False.elim h
  | metrics => exact False.elim h
  | list => exact moved_of_later h.left
  | create protocol =>
      rcases h with ⟨_, hcreates, _⟩
      exact creates_moved hcreates
  | get id => exact moved_of_later h.left
  | delete id =>
      rcases h with ⟨_, hdeletes, _⟩
      exact deletes_moved hdeletes
  | getBinding id => exact moved_of_later h.left
  | putBinding id host targetPort =>
      rcases h with ⟨_, hputs, _⟩
      exact puts_moved hputs hcoherent
  | deleteBinding id =>
      rcases h with ⟨_, hunbinds, _⟩
      exact unbinds_moved hunbinds hcoherent
  | views => exact moved_of_later h.left
  | createPort protocol targetPort =>
      rcases h with ⟨_, hcreates, _⟩
      exact creates_moved hcreates
  | setTarget id host =>
      rcases h with ⟨_, hupdates, _⟩
      exact updates_moved hupdates hcoherent
  | update id targetPort host =>
      rcases h with ⟨_, hupdates, _⟩
      exact updates_moved hupdates hcoherent
  | unknown => exact moved_of_eq (congrArg Standing.table h.left)

theorem Moved.keeps {entry : Entry} (h : Moved table named table') (hnamed : named ≠ some id)
    (hentry : table id = some entry) : table' id = some entry := by
  cases h with
  | stays => exact hentry
  | places hfree _ =>
      rw [Function.update_of_ne, hentry]
      rintro rfl
      rw [hfree] at hentry
      cases hentry
  | writes hid _ =>
      rw [Function.update_of_ne, hentry]
      rintro rfl
      exact hnamed hid
  | removes hid =>
      rw [Function.update_of_ne, hentry]
      rintro rfl
      exact hnamed hid

theorem coherent_update {moved : Option Entry} (h : table.Coherent)
    (hmoved : forall entry, moved = some entry -> entry.Coherent id) :
    Table.Coherent (Function.update table id moved) := by
  intro other entry hentry
  by_cases hother : other = id
  · rw [hother, Function.update_self] at hentry
    rw [hother]
    exact hmoved entry hentry
  · rw [Function.update_of_ne hother] at hentry
    exact h other entry hentry

theorem Moved.coherent (h : Moved table named table') (hcoherent : table.Coherent) :
    table'.Coherent := by
  cases h with
  | stays => exact hcoherent
  | places _ hentry =>
      apply coherent_update hcoherent
      intro entry hsame
      cases hsame
      exact hentry
  | writes _ hentry =>
      apply coherent_update hcoherent
      intro entry hsame
      cases hsame
      exact hentry
  | removes _ =>
      apply coherent_update hcoherent
      intro entry hnone
      cases hnone

end Moves

/-!
# What an answer tells
-/

section Telling

variable {rt answer metrics value : Type} {svc : Service rt answer}
  {app : AppState rt answer} {out : Service.Outside answer} {before after : Standing rt}
  {table : Table}

def viewResource (view : AllocationView) : AllocationResource where
  id := view.id
  protocol := view.protocol
  port := view.port
  createdAtMs := view.createdAtMs
  updatedAtMs := view.updatedAtMs

/-- The allocations that are shown, alone or in a listing, as records or as views. -/
def Content.told : Content metrics -> List AllocationResource
  | .resource record => [record]
  | .resources records => records
  | .allocationView view => [viewResource view]
  | .allocationViews views => views.map viewResource
  | _ => []

abbrev Response.Tells (response : Response metrics) (resource : AllocationResource) : Prop :=
  resource ∈ response.content.told

def Holds (table : Table) (resource : AllocationResource) : Prop :=
  exists entry, table resource.id = some entry ∧
    allocationResource entry.allocation = resource

theorem not_tells_serviceErrorResponse (error : ServiceError) (resource : AllocationResource) :
    ¬ (serviceErrorResponse error : Response metrics).Tells resource := by
  unfold serviceErrorResponse
  split <;> exact List.not_mem_nil

theorem holds_of_entry (hcoherent : table.Coherent)
    {id : String} {entry : Entry} (hentry : table id = some entry) :
    Holds table (allocationResource entry.allocation) := by
  have hid : (allocationResource entry.allocation).id = id :=
    (hcoherent id entry hentry).id_eq
  exact ⟨entry, by rw [hid, hentry], rfl⟩

theorem Lists.holds {allocations : List Allocation} (h : Lists table allocations)
    (hcoherent : table.Coherent)
    {resource : AllocationResource} (hmem : resource ∈ allocations.map allocationResource) :
    Holds table resource := by
  rcases List.mem_map.mp hmem with ⟨allocation, hallocation, rfl⟩
  rcases (h.listed allocation).mp hallocation with ⟨id, entry, hentry, rfl⟩
  exact holds_of_entry hcoherent hentry

theorem not_tells_noContent (resource : AllocationResource) :
    ¬ (⟨.noContent, .empty⟩ : Response metrics).Tells resource := List.not_mem_nil

theorem not_tells_answered {respond : value -> Response metrics}
    {result : Except ServiceError value} {resource : AllocationResource}
    (h : forall value, ¬ (respond value).Tells resource) :
    ¬ (answered respond result).Tells resource := by
  cases result with
  | error error => exact not_tells_serviceErrorResponse error resource
  | ok value => exact h value

/-- The views of a listing are views of its allocations. -/
theorem resources_of_views {runtime : rt} {allocations : List Allocation}
    {views : List AllocationView} (h : viewedEach svc runtime allocations = .ok views) :
    views.map viewResource = allocations.map allocationResource := by
  induction allocations generalizing views with
  | nil =>
      cases h
      rfl
  | cons allocation rest ih =>
      unfold viewedEach viewed at h
      cases hsnapshot : svc.runtime.snapshot allocation.id runtime with
      | error error =>
          rw [hsnapshot] at h
          cases h
      | ok observed =>
          rw [hsnapshot] at h
          cases hrest : viewedEach svc runtime rest with
          | error error =>
              rw [hrest] at h
              cases h
          | ok others =>
              rw [hrest] at h
              cases h
              rw [List.map_cons, List.map_cons, ih hrest]
              rfl

theorem allocationShown_resource {runtime : rt} {allocation : Allocation}
    {view : AllocationView} (h : allocationShown app runtime allocation = .ok view) :
    viewResource view = allocationResource allocation := by
  unfold allocationShown viewed at h
  cases hsnapshot : app.service.runtime.snapshot allocation.id runtime with
  | error error =>
      rw [hsnapshot] at h
      cases h
  | ok observed =>
      rw [hsnapshot] at h
      cases h
      rfl

theorem shown_tells {status : StatusCode} {runtime : rt}
    {result : Except ServiceError Allocation} {resource : AllocationResource}
    (htells : (shown (allocationShown app runtime)
      (fun view => (jsonResponse status (.allocationView view) : Response metrics))
      result).Tells resource) :
    exists allocation, result = .ok allocation ∧ allocationResource allocation = resource := by
  cases result with
  | error error => exact absurd htells (not_tells_serviceErrorResponse error resource)
  | ok allocation =>
      change (answered _ (allocationShown app runtime allocation)).Tells resource at htells
      cases hview : allocationShown app runtime allocation with
      | error error =>
          rw [hview] at htells
          exact absurd htells (not_tells_serviceErrorResponse error resource)
      | ok view =>
          rw [hview] at htells
          refine ⟨allocation, rfl, ?_⟩
          rw [← allocationShown_resource hview]
          exact (List.mem_singleton.mp htells).symm

theorem creates_holds {protocol : Protocol} {targetPort : Option UInt16}
    {allocation : Allocation}
    (h : Creates svc out protocol targetPort before after (.ok allocation)) :
    Holds after.table (allocationResource allocation) := by
  refine ⟨.created allocation, ?_, rfl⟩
  rw [(creates_ok h).right]
  exact Function.update_self _ _ _

theorem assigns_returned {id : String} {entry : Entry} {returned allocation : value}
    (h : Assigns svc out id entry returned before after (.ok allocation)) :
    allocation = returned := by
  have hresult := h.right
  generalize Prod.fst _ = answered at hresult
  cases answered with
  | error error => cases hresult
  | ok _ => exact Except.ok.inj hresult

theorem updates_holds {id : String} {host : Option String} {targetPort : Option UInt16}
    {allocation : Allocation}
    (h : Updates svc out id targetPort host before after (.ok allocation))
    (hcoherent : after.table.Coherent) :
    Holds after.table (allocationResource allocation) := by
  unfold Updates at h
  split at h
  · cases h.left
  · split at h
    · split at h
      · cases h.left
      · have hreturned := assigns_returned h
        rw [hreturned]
        apply holds_of_entry hcoherent
        rw [h.left]
        exact Function.update_self _ _ _
    · cases h.left

theorem handles_tells {response : Response metrics} {call : Call}
    (h : Handles app out before after response call) (hcoherent : after.table.Coherent)
    {resource : AllocationResource} (htells : response.Tells resource) :
    Holds after.table resource := by
  cases call with
  | scrape => exact False.elim h
  | metrics => exact False.elim h
  | list =>
      rcases h with ⟨rfl, allocations, hlists, rfl⟩
      exact Lists.holds hlists hcoherent htells
  | create protocol =>
      rcases h with ⟨result, hcreates, rfl⟩
      cases result with
      | ok allocation =>
          rw [List.mem_singleton.mp htells]
          exact creates_holds hcreates
      | error error => exact absurd htells (not_tells_serviceErrorResponse error resource)
  | get id =>
      rcases h with ⟨rfl, rfl⟩
      cases hentry : before.table id with
      | none =>
          rw [hentry] at htells
          exact absurd htells List.not_mem_nil
      | some entry =>
          rw [hentry] at htells
          rw [List.mem_singleton.mp htells]
          exact holds_of_entry hcoherent hentry
  | delete id =>
      rcases h with ⟨result, _, rfl⟩
      exact absurd htells (not_tells_answered (fun _ => not_tells_noContent resource))
  | getBinding id =>
      rcases h with ⟨_, rfl⟩
      cases hbinding : (before.table id).bind Entry.binding with
      | none =>
          rw [hbinding] at htells
          exact absurd htells List.not_mem_nil
      | some binding =>
          rw [hbinding] at htells
          exact absurd htells (not_tells_answered (fun _ => List.not_mem_nil))
  | putBinding id host targetPort =>
      rcases h with ⟨result, _, rfl⟩
      cases result with
      | error error => exact absurd htells (not_tells_serviceErrorResponse error resource)
      | ok binding => exact absurd htells (not_tells_answered (fun _ => List.not_mem_nil))
  | deleteBinding id =>
      rcases h with ⟨result, _, rfl⟩
      exact absurd htells (not_tells_answered (fun _ => not_tells_noContent resource))
  | views =>
      rcases h with ⟨rfl, allocations, hlists, rfl⟩
      cases hviews : viewedEach app.service before.runtime allocations with
      | error error =>
          rw [hviews] at htells
          exact absurd htells (not_tells_serviceErrorResponse error resource)
      | ok views =>
          rw [hviews] at htells
          apply Lists.holds hlists hcoherent
          rw [← resources_of_views hviews]
          exact htells
  | createPort protocol targetPort =>
      rcases h with ⟨result, hcreates, rfl⟩
      rcases shown_tells htells with ⟨allocation, rfl, rfl⟩
      exact creates_holds hcreates
  | setTarget id host =>
      rcases h with ⟨result, hupdates, rfl⟩
      rcases shown_tells htells with ⟨allocation, rfl, rfl⟩
      exact updates_holds hupdates hcoherent
  | update id targetPort host =>
      rcases h with ⟨result, hupdates, rfl⟩
      rcases shown_tells htells with ⟨allocation, rfl, rfl⟩
      exact updates_holds hupdates hcoherent
  | unknown =>
      rw [h.right] at htells
      exact absurd htells List.not_mem_nil

/-- Either the call is handled over the table, or it leaves the table and tells nothing
of it. -/
theorem meets_cases {front front' : Front rt metrics} {response : Response metrics}
    {call : Call} (h : Meets app out front front' response call) :
    Handles app out front.toStanding front'.toStanding response call ∨
      (front'.table = front.table ∧ forall resource, ¬ response.Tells resource) := by
  cases call with
  | scrape =>
      right
      change Scrapes out front front' response (app.listenerMetrics front.runtime) at h
      cases hrows : app.listenerMetrics front.runtime with
      | error error =>
          rw [hrows] at h
          rcases h with ⟨rfl, rfl⟩
          exact ⟨rfl, not_tells_serviceErrorResponse _⟩
      | ok rows =>
          rw [hrows] at h
          rcases h with ⟨rfl, rfl⟩
          exact ⟨rfl, fun _ => List.not_mem_nil⟩
  | metrics =>
      rcases h with ⟨rfl, rfl⟩
      exact Or.inr ⟨rfl, fun _ => List.not_mem_nil⟩
  | _ => exact Or.inl h.right

theorem meets_moved {front front' : Front rt metrics} {response : Response metrics}
    {call : Call} (h : Meets app out front front' response call)
    (hcoherent : front.table.Coherent) : Moved front.table call.names front'.table := by
  rcases meets_cases h with hhandles | ⟨hsame, _⟩
  · exact handles_moved hhandles hcoherent
  · exact moved_of_eq hsame

theorem meets_tells {front front' : Front rt metrics} {response : Response metrics}
    {call : Call} (h : Meets app out front front' response call)
    (hcoherent : front'.table.Coherent) {resource : AllocationResource}
    (htells : response.Tells resource) : Holds front'.table resource := by
  rcases meets_cases h with hhandles | ⟨_, hnothing⟩
  · exact handles_tells hhandles hcoherent htells
  · exact absurd htells (hnothing resource)

end Telling

/-!
# Between two answers
-/

section Between

variable {rt answer metrics value result : Type} {app : AppState rt answer} {lib : Libraries}
  {out : Service.Outside answer} {before after : Front rt metrics} {table : Table}

/-- A request that is let in and asks for a call. -/
def Asks (metrics : Type) (app : AppState rt answer) (lib : Libraries) (request : Request)
    (call : Call) : Prop :=
  Authed.fromRequestParts app.authToken request = .ok () ∧
    (endpointFor lib request).call lib request = (.ok call : Except (Response metrics) Call)

/-- The request is no request to change the entry of an id. -/
def Spares (metrics : Type) (app : AppState rt answer) (lib : Libraries) (id : String)
    (request : Request) : Prop :=
  forall call, Asks metrics app lib request call -> call.names ≠ some id

/-- Whatever is refused before a call is refused with a text. -/
def RefusesWithText (read : Except (Response metrics) value) : Prop :=
  forall refusal, read = .error refusal ->
    exists status body, refusal = textResponse status body

theorem refusesWithText_ok (a : value) :
    RefusesWithText (.ok a : Except (Response metrics) value) := by
  intro refusal h
  cases h

theorem refusesWithText_refuseText (read : Except HttpTextError value) :
    RefusesWithText (refuseText read : Except (Response metrics) value) := by
  intro refusal h
  cases read with
  | ok value => cases h
  | error error =>
      cases h
      exact ⟨_, _, rfl⟩

theorem refusesWithText_refuse (read : Except (StatusCode × String) value) :
    RefusesWithText (refuse read : Except (Response metrics) value) := by
  intro refusal h
  cases read with
  | ok value => cases h
  | error rejection =>
      cases h
      exact ⟨_, _, rfl⟩

theorem refusesWithText_bind {read : Except (Response metrics) value}
    {next : value -> Except (Response metrics) result} (hread : RefusesWithText read)
    (hnext : forall a, RefusesWithText (next a)) : RefusesWithText (read >>= next) := by
  intro refusal h
  cases read with
  | ok a => exact hnext a refusal h
  | error response =>
      cases h
      exact hread _ rfl

theorem refusesWithText_map {read : Except (Response metrics) value} (f : value -> result)
    (hread : RefusesWithText read) : RefusesWithText (f <$> read) := by
  intro refusal h
  cases read with
  | ok a => cases h
  | error response =>
      cases h
      exact hread _ rfl

theorem refusesWithText_call (endpoint : Endpoint) (request : Request) :
    RefusesWithText (endpoint.call lib request : Except (Response metrics) Call) := by
  have hport : forall targetPort,
      RefusesWithText (refuseText (parseRequestPort targetPort) :
        Except (Response metrics) UInt16) := fun _ => refusesWithText_refuseText _
  cases endpoint with
  | prometheusMetrics => exact refusesWithText_ok _
  | jsonMetrics => exact refusesWithText_ok _
  | listAllocations => exact refusesWithText_ok _
  | createAllocation =>
      apply refusesWithText_bind (refusesWithText_refuseText _)
      intro body
      exact refusesWithText_bind (refusesWithText_refuseText _) (fun _ => refusesWithText_ok _)
  | getAllocation => exact refusesWithText_map _ (refusesWithText_refuse _)
  | deleteAllocation => exact refusesWithText_map _ (refusesWithText_refuse _)
  | getBinding => exact refusesWithText_map _ (refusesWithText_refuse _)
  | putBinding =>
      apply refusesWithText_bind (refusesWithText_refuse _)
      intro id
      apply refusesWithText_bind (refusesWithText_refuseText _)
      intro body
      exact refusesWithText_bind (refusesWithText_refuseText _) (fun _ => refusesWithText_ok _)
  | deleteBinding => exact refusesWithText_map _ (refusesWithText_refuse _)
  | listPorts => exact refusesWithText_ok _
  | createPort =>
      apply refusesWithText_bind (refusesWithText_refuseText _)
      intro body
      apply refusesWithText_bind (refusesWithText_refuseText _)
      intro protocol
      exact refusesWithText_bind (refusesWithText_refuseText _) (fun _ => refusesWithText_ok _)
  | setTarget =>
      exact refusesWithText_bind (refusesWithText_refuseText _) (fun _ => refusesWithText_ok _)
  | updatePort =>
      apply refusesWithText_bind (refusesWithText_refuse _)
      intro id
      apply refusesWithText_bind (refusesWithText_refuseText _)
      intro body
      apply refusesWithText_bind (refusesWithText_refuseText _)
      intro targetPort refusal h
      split at h
      · cases h
        exact ⟨_, _, rfl⟩
      · cases h
  | deletePort => exact refusesWithText_map _ (refusesWithText_refuse _)
  | notFound => exact refusesWithText_ok _

/-- Either the request asks for a call, or it is refused before. -/
theorem allows_cases {request : Request} {response : Response metrics}
    (h : Allows app out lib request before after response) :
    (exists call, Asks metrics app lib request call ∧
      Meets app out before after response call) ∨
    (after = before ∧ exists status body, response = textResponse status body) := by
  unfold Allows at h
  split at h
  · exact Or.inr ⟨h.left, _, _, h.right⟩
  · rename_i refusal _ hcall
    rcases refusesWithText_call _ request refusal hcall with ⟨status, body, hrefusal⟩
    exact Or.inr ⟨h.left, status, body, by rw [h.right, hrefusal]⟩
  · rename_i call hauth hcall
    exact Or.inl ⟨call, ⟨hauth, hcall⟩, h⟩

theorem meets_of_asks {request : Request} {call : Call} {response : Response metrics}
    (h : Allows app out lib request before after response)
    (hasks : Asks metrics app lib request call) :
    Meets app out before after response call := by
  unfold Allows at h
  rw [hasks.left, hasks.right] at h
  exact h

theorem allows_moved {request : Request} {response : Response metrics}
    (h : Allows app out lib request before after response) (hcoherent : before.table.Coherent) :
    exists named, Moved before.table named after.table ∧
      forall id, Spares metrics app lib id request -> named ≠ some id := by
  rcases allows_cases h with ⟨call, hasks, hmeets⟩ | ⟨rfl, _⟩
  · exact ⟨call.names, meets_moved hmeets hcoherent, fun _ hspares => hspares call hasks⟩
  · exact ⟨none, .stays, fun _ _ => (Option.some_ne_none _).symm⟩

theorem allows_coherent {request : Request} {response : Response metrics}
    (h : Allows app out lib request before after response) (hcoherent : before.table.Coherent) :
    after.table.Coherent := by
  rcases allows_moved h hcoherent with ⟨_, hmoved, _⟩
  exact hmoved.coherent hcoherent

theorem allows_keeps {id : String} {entry : Entry} {request : Request}
    {response : Response metrics} (h : Allows app out lib request before after response)
    (hcoherent : before.table.Coherent) (hspares : Spares metrics app lib id request)
    (hentry : before.table id = some entry) : after.table id = some entry := by
  rcases allows_moved h hcoherent with ⟨_, hmoved, hnamed⟩
  exact hmoved.keeps (hnamed id hspares) hentry

theorem allows_tells {request : Request} {response : Response metrics}
    {resource : AllocationResource} (h : Allows app out lib request before after response)
    (hcoherent : after.table.Coherent)
    (htells : response.Tells resource) : Holds after.table resource := by
  rcases allows_cases h with ⟨call, _, hmeets⟩ | ⟨_, status, body, rfl⟩
  · exact meets_tells hmeets hcoherent htells
  · exact absurd htells List.not_mem_nil

theorem holds_unique {resource other : AllocationResource} (h : Holds table resource)
    (hother : Holds table other) (hid : other.id = resource.id) : other = resource := by
  rcases h with ⟨entry, hentry, rfl⟩
  rcases hother with ⟨found, hfound, rfl⟩
  rw [hid, hentry] at hfound
  cases hfound
  rfl

end Between

end Http
end Relayd
