import Relayd.Http.ControlPlane
import Relayd.Service.ProxyAgreement

/-!
# Authentication gates the control plane

Every handler of the router, both fallbacks included, starts with the extractor that
compares the bearer token, so a request without the token never gets past it.
-/

namespace Relayd
namespace Http

open Foundation Fallible Relayd.Runtime

/-!
# The comparison
-/

/-- The accumulator stays zero exactly as long as the bytes agree. -/
theorem foldl_xor_eq_zero {a b : Bytes} (hlength : a.length = b.length) (diff : UInt8) :
    (a.zip b).foldl (fun diff pair => diff ||| (pair.1 ^^^ pair.2)) diff = 0 <->
      diff = 0 ∧ a = b := by
  induction a generalizing b diff with
  | nil =>
      cases b with
      | nil => simp
      | cons y b => cases hlength
  | cons x a ih =>
      cases b with
      | nil => cases hlength
      | cons y b =>
          rw [List.zip_cons_cons, List.foldl_cons, ih (Nat.succ.inj hlength),
            UInt8.or_eq_zero_iff, UInt8.xor_eq_zero_iff, List.cons.injEq, and_assoc]

theorem constantTimeEq_iff (a b : Bytes) : constantTimeEq a b = true <-> a = b := by
  unfold constantTimeEq
  by_cases hlength : a.length = b.length
  · rw [if_neg (not_not.mpr hlength), beq_iff_eq, foldl_xor_eq_zero hlength]
    simp
  · rw [if_pos hlength]
    constructor
    · intro h
      cases h
    · intro h
      exact absurd (congrArg List.length h) hlength

/-!
# The extractor
-/

/-- No authorization header, one that is not visible ASCII, or one that is not the token's. -/
def Unauthenticated (authToken : String) (request : Request) : Prop :=
  forall value, request.header "authorization" = some value ->
    value.all visibleAscii = true -> value ≠ asBytes "Bearer " ++ asBytes authToken

theorem fromRequestParts_of_unauthenticated {authToken : String} {request : Request}
    (h : Unauthenticated authToken request) :
    Authed.fromRequestParts authToken request = .error rejection := by
  unfold Authed.fromRequestParts
  cases hheader : request.header "authorization" with
  | none => rfl
  | some value =>
      cases hvisible : value.all visibleAscii with
      | false => simp [toStr, hvisible]
      | true =>
          simp only [Option.bind_some, toStr, hvisible, if_true]
          cases hstripped : (asBytes "Bearer ").isPrefixOf? value with
          | none => rfl
          | some provided =>
              have hvalue : asBytes "Bearer " ++ provided = value :=
                List.isPrefixOf?_eq_some_iff_append_eq.mp hstripped
              have hne : ¬ constantTimeEq provided (asBytes authToken) = true := by
                rw [constantTimeEq_iff]
                intro hprovided
                apply h value hheader hvisible
                rw [<- hvalue, hprovided]
              exact if_neg hne

theorem fromRequestParts_of_token {authToken : String} {request : Request}
    (hheader : request.header "authorization" =
      some (asBytes "Bearer " ++ asBytes authToken))
    (hvisible : (asBytes authToken).all visibleAscii = true) :
    Authed.fromRequestParts authToken request = .ok () := by
  have hbearer : (asBytes "Bearer ").all visibleAscii = true := by decide
  have hstripped : (asBytes "Bearer ").isPrefixOf? (asBytes "Bearer " ++ asBytes authToken) =
      some (asBytes authToken) := List.isPrefixOf?_eq_some_iff_append_eq.mpr rfl
  have heq : constantTimeEq (asBytes authToken) (asBytes authToken) = true :=
    (constantTimeEq_iff _ _).mpr rfl
  unfold Authed.fromRequestParts
  rw [hheader]
  simp only [Option.bind_some, toStr, List.all_append, hbearer, hvisible, Bool.and_self,
    if_true, hstripped, heq]

/-!
# Every handler
-/

section Gate

variable {rt answer metrics : Type}

/-- The handler asks for the token before it does anything else. -/
def Guarded (app : AppState rt answer) (handler : Handler rt metrics) : Prop :=
  exists rest : Handler rt metrics, forall request,
    handler request = authed app request >>= fun _ => rest request

theorem guarded_routes (app : AppState rt answer) (out : Service.Outside answer)
    (lib : Libraries) :
    forall route, route ∈ (router app out lib : Router rt metrics).routes ->
      forall entry, entry ∈ route.2 -> Guarded app entry.2 := by
  intro route hroute entry hentry
  simp only [router, List.mem_cons, List.not_mem_nil, or_false] at hroute
  rcases hroute with rfl | rfl | rfl | rfl | rfl | rfl | rfl | rfl <;>
    simp only [List.mem_cons, List.not_mem_nil, or_false] at hentry
  · subst hentry
    exact ⟨_, fun _ => rfl⟩
  · subst hentry
    exact ⟨_, fun _ => rfl⟩
  · rcases hentry with rfl | rfl
    · exact ⟨_, fun _ => rfl⟩
    · exact ⟨_, fun _ => rfl⟩
  · rcases hentry with rfl | rfl
    · exact ⟨_, fun _ => rfl⟩
    · exact ⟨_, fun _ => rfl⟩
  · rcases hentry with rfl | rfl | rfl
    · exact ⟨_, fun _ => rfl⟩
    · exact ⟨_, fun _ => rfl⟩
    · exact ⟨_, fun _ => rfl⟩
  · rcases hentry with rfl | rfl
    · exact ⟨_, fun _ => rfl⟩
    · exact ⟨_, fun _ => rfl⟩
  · subst hentry
    exact ⟨_, fun _ => rfl⟩
  · rcases hentry with rfl | rfl
    · exact ⟨_, fun _ => rfl⟩
    · exact ⟨_, fun _ => rfl⟩

theorem guarded_handlerFor (app : AppState rt answer) (out : Service.Outside answer)
    (lib : Libraries) (request : Request) :
    Guarded app ((router app out lib : Router rt metrics).handlerFor lib request) := by
  have hfallback : Guarded app (notFound app : Handler rt metrics) := ⟨_, fun _ => rfl⟩
  unfold Router.handlerFor
  split
  · exact hfallback
  · split
    · exact hfallback
    · next hroute =>
      split
      · exact hfallback
      · next hentry =>
        exact guarded_routes app out lib _ (List.mem_of_find?_eq_some hroute) _
          (List.mem_of_find?_eq_some hentry)

theorem serve_of_unauthenticated {app : AppState rt answer} {out : Service.Outside answer}
    {lib : Libraries} {request : Request} (h : Unauthenticated app.authToken request)
    (daemon : Daemon rt metrics) :
    serve app out lib request daemon =
      (textResponse StatusCode.unauthorized "unauthorized", daemon) := by
  have hguarded : Guarded app ((router app out lib : Router rt metrics).handlerFor lib request) :=
    guarded_handlerFor app out lib request
  rcases hguarded with ⟨rest, hrest⟩
  unfold serve
  rw [hrest request, authed, fromRequestParts_of_unauthenticated h]
  rfl

/-- Without the token every request is answered with the same rejection and changes and
calls nothing; with it the extractor accepts; and the comparison is equality. -/
theorem authentication_gates_everything (app : AppState rt answer)
    (out : Service.Outside answer) (lib : Libraries) :
    (forall request (daemon : Daemon rt metrics), Unauthenticated app.authToken request ->
      serve app out lib request daemon = (textResponse ⟨401⟩ "unauthorized", daemon)) ∧
    (forall request request' (daemon daemon' : Daemon rt metrics),
      Unauthenticated app.authToken request -> Unauthenticated app.authToken request' ->
      (serve app out lib request daemon).1 = (serve app out lib request' daemon').1) ∧
    (forall request, app.authToken ≠ "" -> (asBytes app.authToken).all visibleAscii = true ->
      request.header "authorization" = some (asBytes "Bearer " ++ asBytes app.authToken) ->
      Authed.fromRequestParts app.authToken request = .ok ()) ∧
    forall a b, constantTimeEq a b = true <-> a = b := by
  refine ⟨?_, ?_, ?_, constantTimeEq_iff⟩
  · intro request daemon h
    exact serve_of_unauthenticated h daemon
  · intro request request' daemon daemon' h h'
    rw [serve_of_unauthenticated h, serve_of_unauthenticated h']
  · intro request _ hvisible hheader
    exact fromRequestParts_of_token hheader hvisible

end Gate

/-- Paths are matched as they are written and no body decodes. -/
def plainLibraries : Libraries where
  matchPath patterns path := patterns.find? (fun pattern => pattern = path)
  pathParam path := .ok path
  allocationCreateRequest _ := none
  bindingPutRequest _ := none
  portCreateRequest _ := none
  targetRequest _ := none
  updateRequest _ := none

def sampleApp : AppState RealRuntime Binds where
  service := Service.proxyService Service.loopbackRange 1000
  listenerMetrics _ := .ok []
  authToken := "secret-token"

def sampleDaemon : Daemon RealRuntime Unit where
  world := Service.World.opened Storage.Database.empty (RealRuntime.new "127.0.0.1")
  metrics := ()
  prometheusRates := .default
  performed := []

/-- A listing with the token cut short by one byte. -/
def shortTokenRequest : Request where
  method := .get
  path := "/v1/ports"
  headers := [("authorization", asBytes "Bearer secret-toke")]
  body := some []

def tokenRequest : Request :=
  { shortTokenRequest with headers := [("authorization", asBytes "Bearer secret-token")] }

theorem short_token_refused :
    serve sampleApp (Service.bindingOutside true) plainLibraries shortTokenRequest
      sampleDaemon = (textResponse ⟨401⟩ "unauthorized", sampleDaemon) ∧
    Authed.fromRequestParts sampleApp.authToken tokenRequest = .ok () := by
  rcases authentication_gates_everything sampleApp (Service.bindingOutside true)
    plainLibraries with ⟨hrefused, _, haccepted, _⟩
  constructor
  · apply hrefused
    intro value hvalue _
    cases hvalue
    decide
  · exact haccepted tokenRequest (by decide) (by decide) rfl

end Http
end Relayd
