import Relayd.Http.Authentication
import Relayd.Service.Table

/-!
# The interface and the table

What a request asks for, told from its path, its method and its body, and what the answer
to it says about the allocation table and does to it, given what the runtime answers on the
way.  Every conversation with the control plane is one that the table allows.
-/

namespace Relayd
namespace Http

open Foundation Fallible Relayd.Runtime Relayd.Prometheus Relayd.Service

/-!
# What a request asks for
-/

/-- The handlers of the route table. -/
inductive Endpoint where
  | prometheusMetrics
  | jsonMetrics
  | listAllocations
  | createAllocation
  | getAllocation
  | deleteAllocation
  | getBinding
  | putBinding
  | deleteBinding
  | listPorts
  | createPort
  | setTarget
  | updatePort
  | deletePort
  | notFound
deriving DecidableEq, Repr

def endpoints : List (String × List (Method × Endpoint)) :=
  [("/metrics", [(.get, .prometheusMetrics)]),
    ("/v1/metrics", [(.get, .jsonMetrics)]),
    ("/v1/allocations", [(.get, .listAllocations), (.post, .createAllocation)]),
    ("/v1/allocations/\x7bid\x7d", [(.get, .getAllocation), (.delete, .deleteAllocation)]),
    ("/v1/allocations/\x7bid\x7d/binding",
      [(.get, .getBinding), (.put, .putBinding), (.delete, .deleteBinding)]),
    ("/v1/ports", [(.get, .listPorts), (.post, .createPort)]),
    ("/v1/ports/target", [(.post, .setTarget)]),
    ("/v1/ports/\x7bid\x7d", [(.post, .updatePort), (.delete, .deletePort)])]

/-- An unknown path and a method that a path does not take are both not found. -/
def endpointFor (lib : Libraries) (request : Request) : Endpoint :=
  ((lib.matchPath (endpoints.map Prod.fst) request.path).bind (fun pattern =>
    (endpoints.find? (fun route => route.1 = pattern)).bind (fun route =>
      (route.2.find? (fun method => method.1.accepts request.method)).map Prod.snd))).getD
    .notFound

inductive Call where
  | scrape
  | metrics
  | list
  | create (protocol : Protocol)
  | get (id : String)
  | delete (id : String)
  | getBinding (id : String)
  | putBinding (id host : String) (targetPort : UInt16)
  | deleteBinding (id : String)
  | views
  | createPort (protocol : Protocol) (targetPort : UInt16)
  | setTarget (id host : String)
  | update (id : String) (targetPort : Option UInt16) (host : Option String)
  | unknown
deriving DecidableEq, Repr

section Asking

variable {metrics value : Type} (lib : Libraries) (request : Request)

def refuseText (result : Except HttpTextError value) : Except (Response metrics) value :=
  result.mapError HttpTextError.intoResponse

def refuse (result : Except (StatusCode × String) value) : Except (Response metrics) value :=
  result.mapError (fun rejection => textResponse rejection.1 rejection.2)

/-- What is asked of the service, or how the request is refused before. -/
def Endpoint.call : Endpoint -> Except (Response metrics) Call
  | .prometheusMetrics => .ok .scrape
  | .jsonMetrics => .ok .metrics
  | .listAllocations => .ok .list
  | .createAllocation => do
      let body <- refuseText (readJson lib.allocationCreateRequest request)
      let protocol <- refuseText (parseProtocol body.protocol)
      pure (.create protocol)
  | .getAllocation => .get <$> refuse (lib.pathParam request.path)
  | .deleteAllocation => .delete <$> refuse (lib.pathParam request.path)
  | .getBinding => .getBinding <$> refuse (lib.pathParam request.path)
  | .putBinding => do
      let id <- refuse (lib.pathParam request.path)
      let body <- refuseText (readJson lib.bindingPutRequest request)
      let targetPort <- refuseText (parseRequestPort body.targetPort)
      pure (.putBinding id body.host targetPort)
  | .deleteBinding => .deleteBinding <$> refuse (lib.pathParam request.path)
  | .listPorts => .ok .views
  | .createPort => do
      let body <- refuseText (readJson lib.portCreateRequest request)
      let protocol <- refuseText (parseProtocol body.protocol)
      let targetPort <- refuseText (parseRequestPort body.targetPort)
      pure (.createPort protocol targetPort)
  | .setTarget => do
      let body <- refuseText (readJson lib.targetRequest request)
      pure (.setTarget body.id body.host)
  | .updatePort => do
      let id <- refuse (lib.pathParam request.path)
      let body <- refuseText (readJson lib.updateRequest request)
      let targetPort <- refuseText (body.targetPort.mapM parseRequestPort)
      if targetPort.isNone && body.host.isNone then
        .error (textResponse .badRequest "empty update")
      else pure (.update id targetPort body.host)
  | .deletePort => .delete <$> refuse (lib.pathParam request.path)
  | .notFound => .ok .unknown

end Asking

/-!
# What may be answered
-/

/-- What a request meets: the table with the runtime, and what stands behind the two
metrics pages. -/
structure Front (rt metrics : Type) extends Standing rt where
  metrics : metrics
  prometheusRates : RateCalculator

section Answering

variable {rt answer metrics value : Type} (app : AppState rt answer)
  (out : Service.Outside answer)

def answered (respond : value -> Response metrics) :
    Except ServiceError value -> Response metrics
  | .ok value => respond value
  | .error error => serviceErrorResponse error

def orNotFound (respond : value -> Response metrics) : Option value -> Response metrics
  | some value => respond value
  | none => textResponse .notFound "NotFound"

/-- The answer of a call whose result is shown as a view of what the runtime observes. -/
def shown {view : Type} (viewFor : value -> Except ServiceError view)
    (respond : view -> Response metrics) : Except ServiceError value -> Response metrics
  | .ok value => answered respond (viewFor value)
  | .error error => serviceErrorResponse error

def bindingShown (runtime : rt) (binding : Binding) : Except ServiceError BindingView :=
  viewed app.service runtime binding.allocationId (bindingView binding)

def allocationShown (runtime : rt) (allocation : Allocation) :
    Except ServiceError AllocationView :=
  viewed app.service runtime allocation.id (allocationView allocation)

/-- What a call answers and what becomes of the table and the runtime. -/
def Handles (before after : Standing rt) (response : Response metrics) : Call -> Prop
  | .list =>
      after = before.later 1 ∧ exists allocations, Lists before.table allocations ∧
        response = jsonResponse .ok (.resources (allocations.map allocationResource))
  | .create protocol =>
      exists result, Creates app.service out protocol none before after result ∧
        response = answered (fun allocation =>
          jsonResponse .created (.resource (allocationResource allocation))) result
  | .get id =>
      after = before.later 1 ∧
        response = orNotFound (fun entry =>
          jsonResponse .ok (.resource (allocationResource entry.allocation))) (before.table id)
  | .delete id =>
      exists result, Deletes app.service out id before after result ∧
        response = answered (fun _ => ⟨.noContent, .empty⟩) result
  | .getBinding id =>
      after = before.later 1 ∧
        response = orNotFound (fun binding =>
          answered (fun view => jsonResponse .ok (.bindingView view))
            (bindingShown app before.runtime binding))
          ((before.table id).bind Entry.binding)
  | .putBinding id host targetPort =>
      exists result, Puts app.service out id host targetPort before after result ∧
        response = shown (bindingShown app after.runtime)
          (fun view => jsonResponse .ok (.bindingView view)) result
  | .deleteBinding id =>
      exists result, Unbinds app.service out id before after result ∧
        response = answered (fun _ => ⟨.noContent, .empty⟩) result
  | .views =>
      after = before.later 1 ∧ exists allocations, Lists before.table allocations ∧
        response = answered (fun views => jsonResponse .ok (.allocationViews views))
          (viewedEach app.service before.runtime allocations)
  | .createPort protocol targetPort =>
      exists result, Creates app.service out protocol (some targetPort) before after result ∧
        response = shown (allocationShown app after.runtime)
          (fun view => jsonResponse .created (.allocationView view)) result
  | .setTarget id host =>
      exists result, Updates app.service out id none (some host) before after result ∧
        response = shown (allocationShown app after.runtime)
          (fun view => jsonResponse .ok (.allocationView view)) result
  | .update id targetPort host =>
      exists result, Updates app.service out id targetPort host before after result ∧
        response = shown (allocationShown app after.runtime)
          (fun view => jsonResponse .ok (.allocationView view)) result
  | .unknown => after = before ∧ response = textResponse .notFound "not found"
  | .scrape | .metrics => False

/-- A scrape rates what the runtime tells of its listeners against what was told before. -/
def Scrapes (before after : Front rt metrics) (response : Response metrics) :
    Except RuntimeError (List ListenerMetricsSnapshot) -> Prop
  | .error error => after = before ∧ response = serviceErrorResponse (.runtime error)
  | .ok rows =>
      let calculated := before.prometheusRates.calculate (fun a b => a / b) rows
        (out.clock before.calls)
      after = { before with
        toStanding := before.toStanding.later 1
        prometheusRates := calculated.2 } ∧ response = ⟨.ok, .rates calculated.1⟩

def Meets (before after : Front rt metrics) (response : Response metrics) : Call -> Prop
  | .scrape => Scrapes out before after response (app.listenerMetrics before.runtime)
  | .metrics => after = before ∧ response = jsonResponse .ok (.metrics before.metrics)
  | call =>
      after = { before with toStanding := after.toStanding } ∧
        Handles app out before.toStanding after.toStanding response call

/-- A request that is not let in, or asks for nothing that can be done, changes nothing. -/
def Allows (lib : Libraries) (request : Request) (before after : Front rt metrics)
    (response : Response metrics) : Prop :=
  match Authed.fromRequestParts app.authToken request,
    (endpointFor lib request).call lib request with
  | .error rejection, _ =>
      after = before ∧ response = textResponse rejection.1 rejection.2
  | .ok (), .error refusal => after = before ∧ response = refusal
  | .ok (), .ok call => Meets app out before after response call

end Answering

/-!
# The handlers
-/

section Serving

variable {rt answer metrics value result : Type} {app : AppState rt answer}
  {out : Service.Outside answer} {lib : Libraries} {request : Request}
  {daemon : Daemon rt metrics} {table : Table}

def Endpoint.handler (app : AppState rt answer) (out : Service.Outside answer)
    (lib : Libraries) : Endpoint -> Handler rt metrics
  | .prometheusMetrics => Http.prometheusMetrics app out
  | .jsonMetrics => Http.jsonMetrics app
  | .listAllocations => Http.listAllocations app out
  | .createAllocation => Http.createAllocation app out lib
  | .getAllocation => Http.getAllocation app out lib
  | .deleteAllocation => Http.deleteAllocation app out lib
  | .getBinding => Http.getBinding app out lib
  | .putBinding => Http.putBinding app out lib
  | .deleteBinding => Http.deleteBinding app out lib
  | .listPorts => Http.listPorts app out
  | .createPort => Http.createPort app out lib
  | .setTarget => Http.setTarget app out lib
  | .updatePort => Http.updatePort app out lib
  | .deletePort => Http.deletePort app out lib
  | .notFound => Http.notFound app

theorem handlerFor_eq (app : AppState rt answer) (out : Service.Outside answer)
    (lib : Libraries) (request : Request) :
    ((router app out lib : Router rt metrics).handlerFor lib request) =
      (endpointFor lib request).handler app out lib := by
  have hroutes : (router app out lib : Router rt metrics).routes =
      endpoints.map (fun route => (route.1, route.2.map (fun method =>
        (method.1, method.2.handler app out lib)))) := rfl
  have hpatterns : (router app out lib : Router rt metrics).routes.map Prod.fst =
      endpoints.map Prod.fst := rfl
  unfold Router.handlerFor endpointFor
  rw [hpatterns]
  cases lib.matchPath (endpoints.map Prod.fst) request.path with
  | none => rfl
  | some pattern =>
      simp only [Option.bind_some, hroutes, List.find?_map, Function.comp_def]
      cases endpoints.find? (fun route => decide (route.1 = pattern)) with
      | none => rfl
      | some route =>
          simp only [Option.bind_some, Option.map_some, List.find?_map, Function.comp_def]
          cases route.2.find? (fun method => method.1.accepts request.method) with
          | none => rfl
          | some method => rfl

/-- What a handler does once it knows what is asked for. -/
def Call.perform (app : AppState rt answer) (out : Service.Outside answer) :
    Call -> HttpM rt metrics (Response metrics)
  | .scrape => do
      let rows <- invoke .snapshotListenerMetrics
        (Service.snapshotListenerMetrics app.listenerMetrics)
      let timestampMs <- currentTimeMs out
      let rates <- calculateRates rows timestampMs
      pure ⟨.ok, .rates rates⟩
  | .metrics => do
      let snapshot <- Fallible.act (fun daemon => (.ok daemon.metrics, daemon))
      pure (jsonResponse .ok (.metrics snapshot))
  | .list => do
      let resources <- invoke .listAllocationResources (Service.listAllocationResources out)
      pure (jsonResponse .ok (.resources resources))
  | .create protocol => do
      let allocation <- invoke (.createAllocation protocol none)
        (Service.createAllocation app.service out protocol none)
      pure (jsonResponse .created (.resource (allocationResource allocation)))
  | .get id => do
      let found <- invoke (.getAllocationResource id) (Service.getAllocationResource out id)
      pure (orNotFound (fun resource => jsonResponse .ok (.resource resource)) found)
  | .delete id => do
      let () <- invoke (.deleteAllocation id) (Service.deleteAllocation app.service out id)
      pure ⟨.noContent, .empty⟩
  | .getBinding id => do
      let found <- invoke (.getBindingView id) (Service.getBindingView app.service out id)
      pure (orNotFound (fun view => jsonResponse .ok (.bindingView view)) found)
  | .putBinding id host targetPort => do
      let binding <- invoke (.putBinding id host targetPort)
        (Service.putBinding app.service out id host targetPort)
      let view <- invoke (.bindingViewFor binding)
        (Service.bindingViewFor app.service binding)
      pure (jsonResponse .ok (.bindingView view))
  | .deleteBinding id => do
      let () <- invoke (.deleteBinding id) (Service.deleteBinding app.service out id)
      pure ⟨.noContent, .empty⟩
  | .views => do
      let views <- invoke .listAllocations (app.service.listAllocations out)
      pure (jsonResponse .ok (.allocationViews views))
  | .createPort protocol targetPort => do
      let allocation <- invoke (.createAllocation protocol (some targetPort))
        (Service.createAllocation app.service out protocol (some targetPort))
      aggregateView app allocation .created
  | .setTarget id host => do
      let allocation <- invoke (.setTarget id host)
        (Service.setTarget app.service out id host)
      aggregateView app allocation .ok
  | .update id targetPort host => do
      let allocation <- invoke (.updateAllocation id targetPort host)
        (Service.updateAllocation app.service out id targetPort host)
      aggregateView app allocation .ok
  | .unknown => pure (textResponse .notFound "not found")

def orRefuse : Except (Response metrics) value -> HttpM rt metrics value
  | .ok value => pure value
  | .error response => throw response

theorem orTextError_eq (result : Except HttpTextError value) :
    (orTextError result : HttpM rt metrics value) = orRefuse (refuseText result) := by
  cases result with
  | ok value => rfl
  | error error => rfl

theorem orReject_eq (result : Except (StatusCode × String) value) :
    (orReject result : HttpM rt metrics value) = orRefuse (refuse result) := by
  cases result with
  | ok value => rfl
  | error rejection => rfl

theorem orRefuse_bind {next : value -> Except (Response metrics) result}
    (read : Except (Response metrics) value) :
    (orRefuse (read >>= next) : HttpM rt metrics result) =
      orRefuse read >>= fun value => orRefuse (next value) := by
  cases read with
  | ok value => rfl
  | error response => rfl

theorem orRefuse_map (f : value -> result) (read : Except (Response metrics) value) :
    (orRefuse (f <$> read) : HttpM rt metrics result) =
      orRefuse read >>= fun value => pure (f value) := by
  cases read with
  | ok value => rfl
  | error response => rfl

/-- Every handler asks for the token, reads what is asked for, and does it. -/
theorem handler_eq (endpoint : Endpoint) :
    (endpoint.handler app out lib : Handler rt metrics) request =
      authed app request >>= fun _ =>
        orRefuse (endpoint.call lib request) >>= Call.perform app out := by
  have hpure : forall {read : Type} (a : read),
      (orRefuse (pure a) : HttpM rt metrics read) = pure a := fun _ => rfl
  cases endpoint with
  | prometheusMetrics => rfl
  | jsonMetrics => rfl
  | listAllocations => rfl
  | createAllocation =>
      simp only [Endpoint.handler, createAllocation, Endpoint.call, orTextError_eq,
        orRefuse_bind, bind_assoc, hpure, pure_bind]
      rfl
  | getAllocation =>
      simp only [Endpoint.handler, getAllocation, Endpoint.call, orReject_eq,
        orRefuse_map, bind_assoc, pure_bind]
      apply bind_congr
      intro _
      apply bind_congr
      intro id
      apply bind_congr
      intro found
      cases found with
      | some _ => rfl
      | none => rfl
  | deleteAllocation =>
      simp only [Endpoint.handler, deleteAllocation, Endpoint.call, orReject_eq,
        orRefuse_map, bind_assoc, pure_bind]
      rfl
  | getBinding =>
      simp only [Endpoint.handler, getBinding, Endpoint.call, orReject_eq,
        orRefuse_map, bind_assoc, pure_bind]
      apply bind_congr
      intro _
      apply bind_congr
      intro id
      apply bind_congr
      intro found
      cases found with
      | some _ => rfl
      | none => rfl
  | putBinding =>
      simp only [Endpoint.handler, putBinding, Endpoint.call, orTextError_eq, orReject_eq,
        orRefuse_bind, bind_assoc, hpure, pure_bind]
      rfl
  | deleteBinding =>
      simp only [Endpoint.handler, deleteBinding, Endpoint.call, orReject_eq,
        orRefuse_map, bind_assoc, pure_bind]
      rfl
  | listPorts => rfl
  | createPort =>
      simp only [Endpoint.handler, createPort, Endpoint.call, orTextError_eq,
        orRefuse_bind, bind_assoc, hpure, pure_bind]
      rfl
  | setTarget =>
      simp only [Endpoint.handler, setTarget, Endpoint.call, orTextError_eq,
        orRefuse_bind, bind_assoc, hpure, pure_bind]
      rfl
  | updatePort =>
      simp only [Endpoint.handler, updatePort, Endpoint.call, orTextError_eq, orReject_eq,
        orRefuse_bind, bind_assoc]
      apply bind_congr
      intro _
      apply bind_congr
      intro id
      apply bind_congr
      intro body
      apply bind_congr
      intro targetPort
      split
      · rfl
      · rfl
  | deletePort =>
      simp only [Endpoint.handler, deletePort, Endpoint.call, orReject_eq,
        orRefuse_map, bind_assoc, pure_bind]
      rfl
  | notFound => rfl

/-- What is sent, whichever way the handler ended. -/
def sent : Except (Response metrics) (Response metrics) -> Response metrics
  | .ok response => response
  | .error response => response

def Daemon.front (table : Table) (daemon : Daemon rt metrics) : Front rt metrics :=
  ⟨daemon.world.standing table, daemon.metrics, daemon.prometheusRates⟩

/-- The daemon is left with a table, and the table stands as specified. -/
def Answers (out : Service.Outside answer)
    (spec : Front rt metrics -> Response metrics -> Prop)
    (result : Except (Response metrics) (Response metrics)) (daemon : Daemon rt metrics) :
    Prop :=
  exists table', Ready out daemon.world table' ∧ spec (daemon.front table') (sent result)

theorem ensures_invoke {call : ServiceCall} {program : ServiceM rt value}
    {post : Except (Response metrics) value -> Daemon rt metrics -> Prop}
    (h : Ensures program (fun result world => post (result.mapError serviceErrorResponse)
      { daemon with world := world, performed := daemon.performed ++ [call] })
      daemon.world) :
    Ensures (invoke call program) post daemon := by
  unfold invoke
  rw [ensures_act]
  unfold Ensures at h
  dsimp only
  generalize program.exec daemon.world = outcome at h ⊢
  rcases outcome with ⟨result, world⟩
  cases result with
  | ok value => exact h
  | error error => exact h

/-- A handler that answers with what one call has returned. -/
theorem answers_invoke {call : ServiceCall} {program : ServiceM rt value}
    {respond : value -> Response metrics}
    {moves : Standing rt -> Except ServiceError value -> Prop}
    {spec : Front rt metrics -> Response metrics -> Prop}
    (hprogram : Ensures program (fun result world =>
      exists table', Ready out world table' ∧ moves (world.standing table') result)
      daemon.world)
    (hspec : forall standing result, moves standing result ->
      spec ⟨standing, daemon.metrics, daemon.prometheusRates⟩ (answered respond result)) :
    Ensures (invoke call program >>= fun returned => pure (respond returned))
      (Answers out spec) daemon := by
  rw [ensures_bind]
  apply ensures_invoke
  refine ensures_mono ?_ hprogram
  intro result world hmoves
  rcases hmoves with ⟨table', hready, hmoves⟩
  have hanswered := hspec _ result hmoves
  cases result with
  | ok returned => exact ⟨table', hready, hanswered⟩
  | error error => exact ⟨table', hready, hanswered⟩

/-- A handler that answers with what one read has returned. -/
theorem answers_read {call : ServiceCall} {program : ServiceM rt value}
    {respond : value -> Response metrics} {tells : Except ServiceError value -> Prop}
    {spec : Front rt metrics -> Response metrics -> Prop}
    (hprogram : Ensures program (fun result world => Ready out world table ∧
      world = daemon.world.afterCall ∧ tells result) daemon.world)
    (hspec : forall result, tells result ->
      spec ⟨(daemon.world.standing table).later 1, daemon.metrics, daemon.prometheusRates⟩
        (answered respond result)) :
    Ensures (invoke call program >>= fun returned => pure (respond returned))
      (Answers out spec) daemon := by
  rw [ensures_bind]
  apply ensures_invoke
  refine ensures_mono ?_ hprogram
  rintro result world ⟨hready, rfl, htells⟩
  have hanswered := hspec result htells
  cases result with
  | ok returned => exact ⟨table, hready, hanswered⟩
  | error error => exact ⟨table, hready, hanswered⟩

/-- A handler that shows what one call has returned as a view. -/
theorem answers_shown {view : Type} {call : ServiceCall} {viewCall : value -> ServiceCall}
    {program : ServiceM rt value} {viewFor : value -> ServiceM rt view}
    {viewOf : rt -> value -> Except ServiceError view} {respond : view -> Response metrics}
    {moves : Standing rt -> Except ServiceError value -> Prop}
    {spec : Front rt metrics -> Response metrics -> Prop}
    (hprogram : Ensures program (fun result world =>
      exists table', Ready out world table' ∧ moves (world.standing table') result)
      daemon.world)
    (hviews : forall returned world, Ensures (viewFor returned)
      (fun result world' => world' = world ∧ result = viewOf world.runtime returned) world)
    (hspec : forall standing result, moves standing result ->
      spec ⟨standing, daemon.metrics, daemon.prometheusRates⟩
        (shown (viewOf standing.runtime) respond result)) :
    Ensures (invoke call program >>= fun returned =>
      invoke (viewCall returned) (viewFor returned) >>= fun view => pure (respond view))
      (Answers out spec) daemon := by
  rw [ensures_bind]
  apply ensures_invoke
  refine ensures_mono ?_ hprogram
  intro result world hmoves
  rcases hmoves with ⟨table', hready, hmoves⟩
  have hspecified := hspec _ result hmoves
  cases result with
  | error error => exact ⟨table', hready, hspecified⟩
  | ok returned =>
      show Ensures (invoke (viewCall returned) (viewFor returned) >>= _) (Answers out spec) _
      rw [ensures_bind]
      apply ensures_invoke
      refine ensures_mono ?_ (hviews returned world)
      rintro result world' ⟨rfl, rfl⟩
      change spec _ (answered respond (viewOf world'.runtime returned)) at hspecified
      cases hview : viewOf world'.runtime returned with
      | ok view =>
          rw [hview] at hspecified
          exact ⟨table', hready, hspecified⟩
      | error error =>
          rw [hview] at hspecified
          exact ⟨table', hready, hspecified⟩

theorem bindingViewFor_shown (app : AppState rt answer) (binding : Binding) (w : World rt) :
    Ensures (bindingViewFor app.service binding) (fun result w' => w' = w ∧
      result = bindingShown app w.runtime binding) w :=
  bindingViewFor_views binding

theorem allocationViewFor_shown (app : AppState rt answer) (allocation : Allocation)
    (w : World rt) :
    Ensures (allocationViewFor app.service allocation) (fun result w' => w' = w ∧
      result = allocationShown app w.runtime allocation) w :=
  allocationViewFor_views allocation

theorem perform_meets (hrepository : forall call, out.repository call = none)
    (hids : Function.Injective out.newId) (h : Ready out daemon.world table) (call : Call) :
    Ensures (call.perform app out)
      (Answers out (fun after response =>
        Meets app out (daemon.front table) after response call)) daemon := by
  cases call with
  | scrape =>
      simp only [Call.perform]
      rw [ensures_bind]
      apply ensures_invoke
      unfold snapshotListenerMetrics
      simp only [ensures_bind, ensures_act, continues_ok]
      apply ensures_orRuntimeError
      · intro error herror
        refine ⟨table, h, ?_⟩
        show Scrapes out _ _ _ (app.listenerMetrics daemon.world.runtime)
        rw [herror]
        exact ⟨rfl, rfl⟩
      · intro rows hrows
        refine ⟨table, h.afterCall, ?_⟩
        show Scrapes out (daemon.front table) _ _ (app.listenerMetrics daemon.world.runtime)
        rw [hrows]
        exact ⟨rfl, rfl⟩
  | metrics => exact ⟨table, h, rfl, rfl⟩
  | list =>
      apply answers_read (listAllocationResources_lists hrepository h)
      rintro result ⟨allocations, hlists, rfl⟩
      exact ⟨rfl, rfl, allocations, hlists, rfl⟩
  | create protocol =>
      apply answers_invoke (createAllocation_creates hrepository hids h protocol none)
      intro standing result hcreates
      exact ⟨rfl, result, hcreates, rfl⟩
  | get id =>
      apply answers_read (getAllocationResource_gets hrepository h id)
      rintro result rfl
      refine ⟨rfl, rfl, ?_⟩
      show _ = orNotFound _ (table id)
      cases table id with
      | none => rfl
      | some entry => rfl
  | delete id =>
      apply answers_invoke (deleteAllocation_deletes hrepository hids h id)
      intro standing result hdeletes
      exact ⟨rfl, result, hdeletes, rfl⟩
  | getBinding id =>
      apply answers_read (getBindingView_views hrepository h id)
      rintro result rfl
      refine ⟨rfl, rfl, ?_⟩
      show _ = orNotFound _ ((table id).bind Entry.binding)
      cases (table id).bind Entry.binding with
      | none => rfl
      | some binding =>
          show answered _ (Except.map some (bindingShown app daemon.world.runtime binding)) =
            answered _ (bindingShown app daemon.world.runtime binding)
          cases bindingShown app daemon.world.runtime binding with
          | error error => rfl
          | ok view => rfl
  | putBinding id host targetPort =>
      apply answers_shown (putBinding_puts hrepository hids h id host targetPort)
        (bindingViewFor_shown app)
      intro standing result hputs
      exact ⟨rfl, result, hputs, rfl⟩
  | deleteBinding id =>
      apply answers_invoke (deleteBinding_unbinds hrepository hids h id)
      intro standing result hunbinds
      exact ⟨rfl, result, hunbinds, rfl⟩
  | views =>
      apply answers_read (listAllocations_views hrepository h)
      rintro result ⟨allocations, hlists, rfl⟩
      exact ⟨rfl, rfl, allocations, hlists, rfl⟩
  | createPort protocol targetPort =>
      apply answers_shown
        (createAllocation_creates hrepository hids h protocol (some targetPort))
        (allocationViewFor_shown app)
      intro standing result hcreates
      exact ⟨rfl, result, hcreates, rfl⟩
  | setTarget id host =>
      apply answers_shown (updateAllocation_updates hrepository hids h id none (some host))
        (allocationViewFor_shown app)
      intro standing result hupdates
      exact ⟨rfl, result, hupdates, rfl⟩
  | update id targetPort host =>
      apply answers_shown (updateAllocation_updates hrepository hids h id targetPort host)
        (allocationViewFor_shown app)
      intro standing result hupdates
      exact ⟨rfl, result, hupdates, rfl⟩
  | unknown => exact ⟨table, h, rfl, rfl, rfl⟩

theorem serve_eq (app : AppState rt answer) (out : Service.Outside answer) (lib : Libraries)
    (request : Request) (daemon : Daemon rt metrics) :
    serve app out lib request daemon =
      let outcome := (authed app request >>= fun _ =>
        orRefuse ((endpointFor lib request).call lib request) >>=
          Call.perform app out).exec daemon
      (sent outcome.1, outcome.2) := by
  unfold serve
  rw [handlerFor_eq, handler_eq]
  generalize Fallible.exec _ daemon = outcome
  rcases outcome with ⟨result, left⟩
  cases result with
  | ok response => rfl
  | error response => rfl

theorem serve_allows (app : AppState rt answer) (lib : Libraries)
    (hrepository : forall call, out.repository call = none)
    (hids : Function.Injective out.newId) (h : Ready out daemon.world table)
    (request : Request) :
    let served := serve app out lib request daemon
    exists table', Ready out served.2.world table' ∧
      Allows app out lib request (daemon.front table) (served.2.front table') served.1 := by
  intro served
  show exists table', Ready out (serve app out lib request daemon).2.world table' ∧
    Allows app out lib request (daemon.front table)
      ((serve app out lib request daemon).2.front table')
      (serve app out lib request daemon).1
  rw [serve_eq]
  unfold authed Allows
  cases Authed.fromRequestParts app.authToken request with
  | error rejection => exact ⟨table, h, rfl, rfl⟩
  | ok token =>
      cases token
      cases (endpointFor lib request).call lib request with
      | error refusal => exact ⟨table, h, rfl, rfl⟩
      | ok call => exact perform_meets hrepository hids h call

/-!
# Conversations
-/

/-- The requests are answered one after the other. -/
def serveAll (app : AppState rt answer) (out : Service.Outside answer) (lib : Libraries) :
    List Request -> Daemon rt metrics -> List (Response metrics) × Daemon rt metrics
  | [], daemon => ([], daemon)
  | request :: requests, daemon =>
      let served := serve app out lib request daemon
      let rest := serveAll app out lib requests served.2
      (served.1 :: rest.1, rest.2)

/-- The table allows the answers to the requests, one after the other. -/
inductive Conversation (app : AppState rt answer) (out : Service.Outside answer)
    (lib : Libraries) : Front rt metrics -> List Request -> List (Response metrics) ->
    Front rt metrics -> Prop where
  | nil (front : Front rt metrics) : Conversation app out lib front [] [] front
  | cons {before between after : Front rt metrics} {request : Request}
      {requests : List Request} {response : Response metrics}
      {responses : List (Response metrics)} :
      Allows app out lib request before between response ->
      Conversation app out lib between requests responses after ->
      Conversation app out lib before (request :: requests) (response :: responses) after

theorem serveAll_allows (app : AppState rt answer) (lib : Libraries)
    (hrepository : forall call, out.repository call = none)
    (hids : Function.Injective out.newId) (requests : List Request)
    (daemon : Daemon rt metrics) (h : Ready out daemon.world table) :
    let served := serveAll app out lib requests daemon
    exists table', Ready out served.2.world table' ∧
      Conversation app out lib (daemon.front table) requests served.1
        (served.2.front table') := by
  induction requests generalizing daemon table with
  | nil => exact ⟨table, h, .nil _⟩
  | cons request requests ih =>
      rcases serve_allows app lib hrepository hids h request with ⟨middle, hmiddle, hallows⟩
      rcases ih _ hmiddle with ⟨last, hlast, hrest⟩
      exact ⟨last, hlast, .cons hallows hrest⟩

end Serving

/-!
# A conversation
-/

def segmentMatches (pattern segment : List Char) : Bool :=
  pattern.head? == some '\x7b' || pattern == segment

/-- Paths are matched segment by segment, and one body decodes. -/
def segmentLibraries : Libraries where
  matchPath patterns path := patterns.find? (fun pattern =>
    let expected := pattern.toList.splitOn '/'
    let given := path.toList.splitOn '/'
    expected.length == given.length && (expected.zip given).all (fun pair =>
      segmentMatches pair.1 pair.2))
  pathParam path := .ok (String.ofList ((path.toList.splitOn '/').getD 3 []))
  allocationCreateRequest body :=
    if body = asBytes "\x7b\"protocol\":\"tcp\"\x7d" then some ⟨"tcp"⟩ else none
  bindingPutRequest _ := none
  portCreateRequest _ := none
  targetRequest _ := none
  updateRequest _ := none

def createRequest : Request :=
  { tokenRequest with
    method := .post
    path := "/v1/allocations"
    body := some (asBytes "\x7b\"protocol\":\"tcp\"\x7d") }

def getRequest (id : String) : Request :=
  { tokenRequest with path := "/v1/allocations/" ++ id }

end Http
end Relayd
