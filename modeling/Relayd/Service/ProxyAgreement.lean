import Relayd.Runtime.Real
import Relayd.Service.Agreement

/-!
# The store and the proxy runtime

`RealRuntime` follows the store: what its three maps say about an id is what the
row of that id asks for.  The daemon exits when the restore at its start fails,
so a run that serves requests always begins with a completed one.
-/

namespace Relayd
namespace Service

open Foundation Fallible Relayd.Runtime Storage

/-- The three maps of the proxy runtime hold for an id what is stored for it. -/
def ServedAs (id : String) (found : Option Allocation) (s : RealRuntime) : Prop :=
  RealRuntime.servedAt id s = RealRuntime.servedFor found

theorem moves_of_reserves {id : String} {found : Option Allocation}
    {s s' : RealRuntime} (h : RealRuntime.Reserves id found s s') :
    Moves ServedAs id found s s' where
  self := h.self
  frame := by
    intro other found' hother hserved
    exact (h.frame other hother).trans hserved

theorem realRuntime_follows : Follows RealRuntime.facade ServedAs where
  initialized := fun h => h
  create_ok := by
    intro binds allocation timeoutMs s s' hcreate habsent
    have hreserves := RealRuntime.create_reserves binds habsent
    rw [ensures_exec, show (RealRuntime.create binds allocation).exec s = _ from hcreate]
      at hreserves
    exact moves_of_reserves hreserves
  create_error := by
    intro binds allocation timeoutMs s error s' hcreate habsent
    have hreserves := RealRuntime.create_reserves binds habsent
    rw [ensures_exec, show (RealRuntime.create binds allocation).exec s = _ from hcreate]
      at hreserves
    exact moves_of_reserves hreserves
  update := by
    intro binds old allocation timeoutMs s updated s' hupdate hserved hprotocol hport
    have hreserves := RealRuntime.update_reserves hserved hprotocol hport
    rw [ensures_exec, show (RealRuntime.update allocation).exec s = _ from hupdate]
      at hreserves
    exact moves_of_reserves hreserves.right
  delete_ok := by
    intro binds id timeoutMs s s' hdelete
    have hreserves := RealRuntime.delete_reserves id s
    rw [ensures_exec, show (RealRuntime.delete id).exec s = _ from hdelete] at hreserves
    exact moves_of_reserves hreserves.right
  delete_error := by
    intro binds id timeoutMs found s error s' hdelete
    have hreserves := RealRuntime.delete_reserves id s
    rw [ensures_exec, show (RealRuntime.delete id).exec s = _ from hdelete] at hreserves
    cases hreserves.left
  restore_ok := by
    intro binds allocation timeoutMs s s' hrestore habsent
    have hreserves := RealRuntime.restore_reserves binds habsent
    rw [ensures_exec, show (RealRuntime.restore binds allocation).exec s = _ from hrestore]
      at hreserves
    exact moves_of_reserves hreserves

/-!
# Runs over the proxy runtime
-/

def proxyService (portRange : PortRange) (applyTimeoutMs : UInt32) :
    Service RealRuntime Binds where
  runtime := RealRuntime.facade
  portRange := portRange
  applyTimeoutMs := applyTimeoutMs

theorem servedAs_none_new (bindHost id : String) :
    ServedAs id none (RealRuntime.new bindHost) := rfl

/-- Store and proxy runtime agree after every run that begins with a completed
restore, whichever binds fail later. -/
theorem store_agrees_with_proxy (portRange : PortRange)
    (applyTimeoutMs timeoutMs : UInt32) (bindHost : String) (out : Outside Binds)
    (db : Database) (hrepository : forall call, out.repository call = none)
    (hids : Function.Injective out.newId) (hfresh : FreshIds out 0 db)
    (hrestored : ((restoreAll (proxyService portRange applyTimeoutMs) out
      timeoutMs).exec (World.opened db (RealRuntime.new bindHost))).1 = .ok ())
    (mutations : List Mutation) :
    let w := performAll (proxyService portRange applyTimeoutMs) out mutations
      ((restoreAll (proxyService portRange applyTimeoutMs) out timeoutMs).exec
        (World.opened db (RealRuntime.new bindHost))).2
    forall id, exists found, getAllocation id w.db = .ok found ∧
      RealRuntime.servedAt id w.runtime = RealRuntime.servedFor found := by
  intro w
  have hfollows : Follows (proxyService portRange applyTimeoutMs).runtime ServedAs :=
    realRuntime_follows
  have hinStep : InStep ServedAs out w :=
    performAll_inStep hfollows hrepository hids (servedAs_none_new bindHost) hfresh
      rfl hrestored mutations
  exact hinStep.agrees

def loopbackRange : PortRange := ⟨1000, 1001⟩

/-- Every repository call succeeds; binds succeed as given. -/
def bindingOutside (granted : Bool) : Outside Binds where
  clock := fun call => call
  newId := countedId
  repository := fun _ => none
  runtime := fun _ => ⟨fun _ => granted, fun _ => granted⟩

theorem store_agrees_with_proxy_after_create :
    let w := performAll (proxyService loopbackRange 1000) (bindingOutside true)
      [.createAllocation .both (some 80)]
      ((restoreAll (proxyService loopbackRange 1000) (bindingOutside true) 1000).exec
        (World.opened Database.empty (RealRuntime.new "127.0.0.1"))).2
    forall id, exists found, getAllocation id w.db = .ok found ∧
      RealRuntime.servedAt id w.runtime = RealRuntime.servedFor found :=
  store_agrees_with_proxy loopbackRange 1000 1000 "127.0.0.1" (bindingOutside true)
    Database.empty (fun _ => rfl) countedId_injective (fun _ _ => ⟨rfl, rfl⟩)
    (by rfl) [.createAllocation .both (some 80)]

def reservedDatabase : Database where
  allocations :=
    [{ id := "kept"
       protocol := "tcp"
       port := 1000
       targetPort := 0
       host := none
       createdAtMs := 0
       updatedAtMs := 0 }]
  bindings := []
  allocationIds := by decide
  protocolPorts := by decide
  bindingIds := by decide

/-- The port of a stored allocation is taken: the restore fails, and the row is
left without a listener. -/
theorem failed_restore_leaves_row_unserved :
    let w := ((restoreAll (proxyService loopbackRange 1000) (bindingOutside false)
      1000).exec (World.opened reservedDatabase (RealRuntime.new "127.0.0.1"))).2
    (forall call, (bindingOutside false).repository call = none) ∧
    Function.Injective (bindingOutside false).newId ∧
    FreshIds (bindingOutside false) 0 reservedDatabase ∧
    ¬ forall id, exists found, getAllocation id w.db = .ok found ∧
      RealRuntime.servedAt id w.runtime = RealRuntime.servedFor found := by
  intro w
  refine ⟨fun _ => rfl, countedId_injective, ?_, ?_⟩
  · intro call _
    have hne : "kept" ≠ countedId call := by
      intro h
      have hlists : ['k', 'e', 'p', 't'] = List.replicate call 'a' :=
        String.ofList_injective h
      cases call with
      | zero => cases hlists
      | succ call => cases hlists
    refine ⟨?_, rfl⟩
    simp [findAllocation, reservedDatabase, bindingOutside, hne]
  · intro h
    rcases h "kept" with ⟨found, hget, hserved⟩
    have hstored : getAllocation "kept" reservedDatabase =
        .ok (some
          { id := "kept"
            protocol := .tcp
            port := 1000
            targetPort := none
            host := none
            createdAtMs := 0
            updatedAtMs := 0 }) := by decide
    have hdb : w.db = reservedDatabase := rfl
    rw [hdb, hstored] at hget
    cases hget
    have hprotocol : none = some Protocol.tcp := congrArg RealRuntime.Served.protocol hserved
    cases hprotocol

end Service
end Relayd
