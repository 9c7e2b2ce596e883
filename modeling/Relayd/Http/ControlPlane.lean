import Relayd.Service.Views

/-!
# The control plane

A request is matched against the route table by path and then by method; whatever is
chosen, a route's handler or one of the two fallbacks, runs its extractors from left to
right and answers with the rejection of the first one that refuses.  What the web
framework and the JSON library decide (which pattern a path matches, what a path parameter
or a body decodes to) is left to parameters.  `performed` records the calls the handlers
have made into the service.
-/

namespace Relayd
namespace Http

open Foundation Relayd.Runtime Relayd.Prometheus

abbrev Bytes := List UInt8

def asBytes (text : String) : Bytes :=
  text.toUTF8.data.toList

inductive Method where
  | get
  | head
  | post
  | put
  | delete
  | options
  | patch
  | trace
  | connect
  | extension (name : String)
deriving DecidableEq, Repr

/-- Header names are held in lower case; a body that cannot be read to its end is `none`. -/
structure Request where
  method : Method
  path : String
  headers : List (String × Bytes)
  body : Option Bytes

/-- `HeaderMap::get`: the first value under a name. -/
def Request.header (request : Request) (name : String) : Option Bytes :=
  (request.headers.find? (fun header => header.1 = name)).map Prod.snd

structure StatusCode where
  code : Nat
deriving DecidableEq, Repr

namespace StatusCode

def ok : StatusCode := ⟨200⟩
def created : StatusCode := ⟨201⟩
def noContent : StatusCode := ⟨204⟩
def badRequest : StatusCode := ⟨400⟩
def unauthorized : StatusCode := ⟨401⟩
def notFound : StatusCode := ⟨404⟩
def conflict : StatusCode := ⟨409⟩
def internalServerError : StatusCode := ⟨500⟩
def serviceUnavailable : StatusCode := ⟨503⟩

end StatusCode

/-- What a response carries, before it is rendered. -/
inductive Content (metrics : Type) where
  | empty
  | text (body : String)
  | resource (resource : Service.AllocationResource)
  | resources (resources : List Service.AllocationResource)
  | allocationView (view : Service.AllocationView)
  | allocationViews (views : List Service.AllocationView)
  | bindingView (view : Service.BindingView)
  | metrics (snapshot : metrics)
  | rates (rates : List ListenerMetricsRate)

structure Response (metrics : Type) where
  status : StatusCode
  content : Content metrics

/-!
# Authentication
-/

/-- The loop that accumulates differing bits. -/
def constantTimeEq (a b : Bytes) : Bool :=
  if a.length ≠ b.length then false
  else (a.zip b).foldl (fun diff pair => diff ||| (pair.1 ^^^ pair.2)) (0 : UInt8) == 0

def visibleAscii (byte : UInt8) : Bool :=
  (32 ≤ byte && byte < 127) || byte == 9

/-- `HeaderValue::to_str`. -/
def toStr (value : Bytes) : Option Bytes :=
  if value.all visibleAscii then some value else none

def rejection : StatusCode × String :=
  (StatusCode.unauthorized, "unauthorized")

def Authed.fromRequestParts (authToken : String) (request : Request) :
    Except (StatusCode × String) Unit :=
  match (request.header "authorization").bind toStr with
  | none => .error rejection
  | some value =>
      match (asBytes "Bearer ").isPrefixOf? value with
      | none => .error rejection
      | some provided =>
          if constantTimeEq provided (asBytes authToken) then .ok ()
          else .error rejection

/-!
# Handlers
-/

structure AllocationCreateRequest where
  protocol : String

structure BindingPutRequest where
  host : String
  targetPort : UInt32

structure PortCreateRequest where
  protocol : String
  targetPort : UInt32

structure TargetRequest where
  id : String
  host : String

structure UpdateRequest where
  targetPort : Option UInt32
  host : Option String

/-- The decisions of the libraries. -/
structure Libraries where
  /-- The pattern among those registered that a path matches. -/
  matchPath : List String -> String -> Option String
  /-- The parameter of a matched path, or the rejection of its extractor. -/
  pathParam : String -> Except (StatusCode × String) String
  allocationCreateRequest : Bytes -> Option AllocationCreateRequest
  bindingPutRequest : Bytes -> Option BindingPutRequest
  portCreateRequest : Bytes -> Option PortCreateRequest
  targetRequest : Bytes -> Option TargetRequest
  updateRequest : Bytes -> Option UpdateRequest

inductive ServiceCall where
  | snapshotListenerMetrics
  | listAllocationResources
  | createAllocation (protocol : Protocol) (targetPort : Option UInt16)
  | getAllocationResource (id : String)
  | deleteAllocation (id : String)
  | getBindingView (id : String)
  | putBinding (id host : String) (targetPort : UInt16)
  | bindingViewFor (binding : Binding)
  | deleteBinding (id : String)
  | allocationViewFor (allocation : Allocation)
  | listAllocations
  | setTarget (id host : String)
  | updateAllocation (id : String) (targetPort : Option UInt16) (host : Option String)
deriving DecidableEq, Repr

structure AppState (rt answer : Type) where
  service : Service rt answer
  listenerMetrics : rt -> Except RuntimeError (List ListenerMetricsSnapshot)
  authToken : String

/-- What requests share and can change. -/
structure Daemon (rt metrics : Type) where
  world : Service.World rt
  metrics : metrics
  prometheusRates : RateCalculator
  performed : List ServiceCall

section Handlers

variable {rt answer metrics value : Type}

/-- An early return of a handler is an error here, its last expression a value. -/
abbrev HttpM (rt metrics value : Type) :=
  Fallible (Daemon rt metrics) (Response metrics) value

def textResponse (status : StatusCode) (body : String) : Response metrics :=
  ⟨status, .text body⟩

def jsonResponse (status : StatusCode) (content : Content metrics) : Response metrics :=
  ⟨status, content⟩

structure HttpTextError where
  status : StatusCode
  body : String

def HttpTextError.intoResponse (error : HttpTextError) : Response metrics :=
  textResponse error.status error.body

def parseProtocol (value : String) : Except HttpTextError Protocol :=
  match Protocol.fromStr value with
  | .ok protocol => .ok protocol
  | .error _ => .error ⟨.badRequest, "invalid protocol"⟩

def parseRequestPort (port : UInt32) : Except HttpTextError UInt16 :=
  match parsePort (String.ofList (Nat.toDigits 10 port.toNat)) with
  | .ok port => .ok port
  | .error _ => .error ⟨.badRequest, "invalid port"⟩

def serviceErrorResponse : Service.ServiceError -> Response metrics
  | .notFound => textResponse .notFound "NotFound"
  | .noAvailablePort => textResponse .conflict "NoAvailablePort"
  | .invalidHost => textResponse .badRequest "InvalidHost"
  | .timeout => textResponse .serviceUnavailable "Timeout"
  | .runtime .runtimeCreateFailed => textResponse .serviceUnavailable "RuntimeCreateFailed"
  | .runtime .runtimeUpdateFailed => textResponse .serviceUnavailable "RuntimeUpdateFailed"
  | .runtime .runtimeDeleteFailed => textResponse .serviceUnavailable "RuntimeDeleteFailed"
  | .runtime .runtimeRestoreFailed => textResponse .serviceUnavailable "RuntimeRestoreFailed"
  | .runtime .runtimeApplyFailed => textResponse .serviceUnavailable "RuntimeApplyFailed"
  | .runtime .timeout => textResponse .serviceUnavailable "Timeout"
  | .deletePersistenceFailed =>
      textResponse .internalServerError "DeletePersistenceFailed"
  | .repository _ => textResponse .internalServerError "internal server error"

/-- A call into the service; its error is answered with the text for it. -/
def invoke (call : ServiceCall) (program : Service.ServiceM rt value) :
    HttpM rt metrics value :=
  Fallible.act (fun daemon =>
    let outcome := program.exec daemon.world
    let daemon :=
      { daemon with world := outcome.2, performed := daemon.performed ++ [call] }
    match outcome.1 with
    | .ok value => (.ok value, daemon)
    | .error error => (.error (serviceErrorResponse error), daemon))

def orTextError : Except HttpTextError value -> HttpM rt metrics value
  | .ok value => pure value
  | .error error => throw error.intoResponse

/-- An extractor that refuses answers with its rejection. -/
def orReject : Except (StatusCode × String) value -> HttpM rt metrics value
  | .ok value => pure value
  | .error (status, body) => throw (textResponse status body)

def readJson (decode : Bytes -> Option value) (request : Request) :
    Except HttpTextError value :=
  match request.body with
  | none => .error ⟨.badRequest, "invalid request body"⟩
  | some bytes =>
      if 4096 < bytes.length then .error ⟨.badRequest, "invalid request body"⟩
      else
        match decode bytes with
        | none => .error ⟨.badRequest, "invalid request body"⟩
        | some value => .ok value

abbrev Handler (rt metrics : Type) := Request -> HttpM rt metrics (Response metrics)

variable (app : AppState rt answer) (out : Service.Outside answer) (lib : Libraries)

/-- The first extractor of every handler. -/
def authed (request : Request) : HttpM rt metrics Unit :=
  orReject (Authed.fromRequestParts app.authToken request)

def currentTimeMs : HttpM rt metrics Int :=
  Fallible.act (fun daemon =>
    (.ok (out.clock daemon.world.calls),
      { daemon with world := { daemon.world with calls := daemon.world.calls + 1 } }))

def calculateRates (rows : List ListenerMetricsSnapshot) (timestampMs : Int) :
    HttpM rt metrics (List ListenerMetricsRate) :=
  Fallible.act (fun daemon =>
    let calculated := daemon.prometheusRates.calculate (fun a b => a / b) rows timestampMs
    (.ok calculated.1, { daemon with prometheusRates := calculated.2 }))

def prometheusMetrics : Handler rt metrics := fun request => do
  let () <- authed app request
  let rows <- invoke .snapshotListenerMetrics
    (Service.snapshotListenerMetrics app.listenerMetrics)
  let timestampMs <- currentTimeMs out
  let rates <- calculateRates rows timestampMs
  pure ⟨.ok, .rates rates⟩

def jsonMetrics : Handler rt metrics := fun request => do
  let () <- authed app request
  let snapshot <- Fallible.act (fun daemon => (.ok daemon.metrics, daemon))
  pure (jsonResponse .ok (.metrics snapshot))

def listAllocations : Handler rt metrics := fun request => do
  let () <- authed app request
  let resources <- invoke .listAllocationResources (Service.listAllocationResources out)
  pure (jsonResponse .ok (.resources resources))

def createAllocation : Handler rt metrics := fun request => do
  let () <- authed app request
  let body <- orTextError (readJson lib.allocationCreateRequest request)
  let protocol <- orTextError (parseProtocol body.protocol)
  let allocation <- invoke (.createAllocation protocol none)
    (Service.createAllocation app.service out protocol none)
  pure (jsonResponse .created (.resource (Service.allocationResource allocation)))

def getAllocation : Handler rt metrics := fun request => do
  let () <- authed app request
  let id <- orReject (lib.pathParam request.path)
  let found <- invoke (.getAllocationResource id) (Service.getAllocationResource out id)
  match found with
  | some resource => pure (jsonResponse .ok (.resource resource))
  | none => pure (textResponse .notFound "NotFound")

def deleteAllocation : Handler rt metrics := fun request => do
  let () <- authed app request
  let id <- orReject (lib.pathParam request.path)
  let () <- invoke (.deleteAllocation id) (Service.deleteAllocation app.service out id)
  pure ⟨.noContent, .empty⟩

def getBinding : Handler rt metrics := fun request => do
  let () <- authed app request
  let id <- orReject (lib.pathParam request.path)
  let found <- invoke (.getBindingView id) (Service.getBindingView app.service out id)
  match found with
  | some view => pure (jsonResponse .ok (.bindingView view))
  | none => pure (textResponse .notFound "NotFound")

def putBinding : Handler rt metrics := fun request => do
  let () <- authed app request
  let id <- orReject (lib.pathParam request.path)
  let body <- orTextError (readJson lib.bindingPutRequest request)
  let targetPort <- orTextError (parseRequestPort body.targetPort)
  let binding <- invoke (.putBinding id body.host targetPort)
    (Service.putBinding app.service out id body.host targetPort)
  let view <- invoke (.bindingViewFor binding) (Service.bindingViewFor app.service binding)
  pure (jsonResponse .ok (.bindingView view))

def deleteBinding : Handler rt metrics := fun request => do
  let () <- authed app request
  let id <- orReject (lib.pathParam request.path)
  let () <- invoke (.deleteBinding id) (Service.deleteBinding app.service out id)
  pure ⟨.noContent, .empty⟩

def aggregateView (allocation : Allocation) (status : StatusCode) :
    HttpM rt metrics (Response metrics) := do
  let view <- invoke (.allocationViewFor allocation)
    (Service.allocationViewFor app.service allocation)
  pure (jsonResponse status (.allocationView view))

def listPorts : Handler rt metrics := fun request => do
  let () <- authed app request
  let views <- invoke .listAllocations (app.service.listAllocations out)
  pure (jsonResponse .ok (.allocationViews views))

def createPort : Handler rt metrics := fun request => do
  let () <- authed app request
  let body <- orTextError (readJson lib.portCreateRequest request)
  let protocol <- orTextError (parseProtocol body.protocol)
  let targetPort <- orTextError (parseRequestPort body.targetPort)
  let allocation <- invoke (.createAllocation protocol (some targetPort))
    (Service.createAllocation app.service out protocol (some targetPort))
  aggregateView app allocation .created

def setTarget : Handler rt metrics := fun request => do
  let () <- authed app request
  let body <- orTextError (readJson lib.targetRequest request)
  let allocation <- invoke (.setTarget body.id body.host)
    (Service.setTarget app.service out body.id body.host)
  aggregateView app allocation .ok

def updatePort : Handler rt metrics := fun request => do
  let () <- authed app request
  let id <- orReject (lib.pathParam request.path)
  let body <- orTextError (readJson lib.updateRequest request)
  let targetPort <- orTextError (body.targetPort.mapM parseRequestPort)
  if targetPort.isNone && body.host.isNone then throw (textResponse .badRequest "empty update")
  else do
    let allocation <- invoke (.updateAllocation id targetPort body.host)
      (Service.updateAllocation app.service out id targetPort body.host)
    aggregateView app allocation .ok

def deletePort : Handler rt metrics := fun request => do
  let () <- authed app request
  let id <- orReject (lib.pathParam request.path)
  let () <- invoke (.deleteAllocation id) (Service.deleteAllocation app.service out id)
  pure ⟨.noContent, .empty⟩

def notFound : Handler rt metrics := fun request => do
  let () <- authed app request
  pure (textResponse .notFound "not found")

/-!
# Routing
-/

structure Router (rt metrics : Type) where
  routes : List (String × List (Method × Handler rt metrics))
  fallback : Handler rt metrics
  methodNotAllowedFallback : Handler rt metrics

def router : Router rt metrics where
  routes :=
    [("/metrics", [(.get, prometheusMetrics app out)]),
      ("/v1/metrics", [(.get, jsonMetrics app)]),
      ("/v1/allocations",
        [(.get, listAllocations app out), (.post, createAllocation app out lib)]),
      ("/v1/allocations/\x7bid\x7d",
        [(.get, getAllocation app out lib), (.delete, deleteAllocation app out lib)]),
      ("/v1/allocations/\x7bid\x7d/binding",
        [(.get, getBinding app out lib), (.put, putBinding app out lib),
          (.delete, deleteBinding app out lib)]),
      ("/v1/ports", [(.get, listPorts app out), (.post, createPort app out lib)]),
      ("/v1/ports/target", [(.post, setTarget app out lib)]),
      ("/v1/ports/\x7bid\x7d",
        [(.post, updatePort app out lib), (.delete, deletePort app out lib)])]
  fallback := notFound app
  methodNotAllowedFallback := notFound app

/-- A handler registered for `GET` also takes `HEAD`. -/
def Method.accepts (registered method : Method) : Bool :=
  registered == method || (registered == .get && method == .head)

def Router.handlerFor (router : Router rt metrics) (request : Request) :
    Handler rt metrics :=
  match lib.matchPath (router.routes.map Prod.fst) request.path with
  | none => router.fallback
  | some pattern =>
      match router.routes.find? (fun route => route.1 = pattern) with
      | none => router.fallback
      | some (_, methods) =>
          match methods.find? (fun route => route.1.accepts request.method) with
          | none => router.methodNotAllowedFallback
          | some (_, handler) => handler

/-- The answer to a request and what is left behind. -/
def serve (request : Request) (daemon : Daemon rt metrics) :
    Response metrics × Daemon rt metrics :=
  match ((router app out lib).handlerFor lib request request).exec daemon with
  | (.ok response, daemon) => (response, daemon)
  | (.error response, daemon) => (response, daemon)

end Handlers

end Http
end Relayd
