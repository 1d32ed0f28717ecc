import Unoc.Base.Least
import Unoc.Status.Upstream

/-!
# Default routes of a router

What the trace makes of the default routes of a router's VRF: it keeps those that leave through an
interface of the router, fails on the first of these that is admin-down or has no next hop, and
follows the least of them by distance, metric and id.
-/

namespace Unoc.Status

open Unoc.Base Unoc.Model

variable {t : Topology} {dev p : DeviceView} {r : Route} {routes : List Route}

/-- The interface row that a route leaves through. -/
def routeEgress (t : Topology) (r : Route) : Option Interface := r.interfaceId.bind t.getInterface

/-- Routes that leave through an interface of a device. -/
def routesVia (t : Topology) (dev : DeviceView) (routes : List Route) : List Route :=
  routes.filter (fun r ↦ (routeEgress t r).map Interface.deviceId = some dev.id)

/-- The default routes of the VRF of a router. -/
def defaultRoutes (t : Topology) (dev : DeviceView) : List Route :=
  t.routes.filter (fun r ↦ some r.vrfId = dev.vrfId ∧ r.pfx = "0.0.0.0/0")

/-- The failure of a trace on a default route. -/
def routeFault (t : Topology) (r : Route) : Option TraceReason :=
  if (routeEgress t r).map Interface.adminStatus ≠ some .up then some .egressAdminDown
  else if truthy r.nextHop = none then some .noNextHop
  else none

/-- A route via a device leaves over an interface of it. -/
theorem mem_routesVia :
    r ∈ routesVia t dev routes ↔
      r ∈ routes ∧ ∃ i, r.interfaceId = some i.id ∧ t.getInterface i.id = some i ∧
        i.deviceId = dev.id := by
  rw [routesVia, List.mem_filter, decide_eq_true_iff]
  simp only [routeEgress, Option.map_eq_some_iff, Option.bind_eq_some_iff]
  apply and_congr_right'
  constructor
  · rintro ⟨i, ⟨id, hr, hi⟩, hdev⟩
    obtain ⟨_, rfl⟩ := Topology.getInterface_eq_some.mp hi
    exact ⟨i, hr, hi, hdev⟩
  · rintro ⟨i, hr, hi, hdev⟩
    exact ⟨i, ⟨i.id, hr, hi⟩, hdev⟩

/-- A default route is a route. -/
theorem mem_routes_of_via (hr : r ∈ routesVia t dev (defaultRoutes t dev)) : r ∈ t.routes :=
  List.mem_of_mem_filter (mem_routesVia.mp hr).1

/-- Routes have distinct ids, so their keys are distinct. -/
theorem routeKey_inj (hids : (t.routes.map Route.id).Nodup) {r' : Route} (hr : r ∈ t.routes)
    (hr' : r' ∈ t.routes) (heq : routeKey r = routeKey r') : r = r' := by
  simp only [routeKey, EmbeddingLike.apply_eq_iff_eq, Prod.mk.injEq] at heq
  exact List.inj_on_of_nodup_map hids hr hr' heq.2.2

/-- A route has no fault if and only if its egress is up and it has a next hop. -/
theorem routeFault_eq_none :
    routeFault t r = none ↔
      (routeEgress t r).map Interface.adminStatus = some .up ∧ truthy r.nextHop ≠ none := by
  unfold routeFault
  split_ifs with hup hhop
  · simp [hup]
  · simp [hhop]
  · exact ⟨fun _ ↦ ⟨not_not.mp hup, hhop⟩, fun _ ↦ rfl⟩

/-- The check fails with the first fault of a route of the device, else it keeps all of these. -/
theorem eligibleRoutes_eq (routes : List Route) :
    eligibleRoutes t dev routes =
      ((routesVia t dev routes).findSome? (routeFault t)).elim
        (.ok (routesVia t dev routes)) .error := by
  induction routes with
  | nil => rfl
  | cons r routes ih =>
    unfold eligibleRoutes
    split
    · next hnone =>
      have hvia : routesVia t dev (r :: routes) = routesVia t dev routes :=
        List.filter_cons_of_neg (by simp [routeEgress, hnone])
      rw [hvia]
      exact ih
    · next egress hegress =>
      have hr : routeEgress t r = some egress := hegress
      by_cases hdev : egress.deviceId = dev.id
      · have hvia : routesVia t dev (r :: routes) = r :: routesVia t dev routes :=
          List.filter_cons_of_pos (by simp [hr, hdev])
        rw [if_neg (not_not.mpr hdev), hvia, List.findSome?_cons]
        split_ifs with hup hhop
        · simp [routeFault, hr, hup]
        · simp [routeFault, hr, not_not.mp hup, hhop]
        · have hfault : routeFault t r = none :=
            routeFault_eq_none.mpr ⟨by simp [hr, not_not.mp hup], hhop⟩
          rw [hfault, ih]
          cases (routesVia t dev routes).findSome? (routeFault t) <;> rfl
      · have hvia : routesVia t dev (r :: routes) = routesVia t dev routes :=
          List.filter_cons_of_neg (by simp [hr, hdev])
        rw [if_pos hdev, hvia]
        exact ih

/-- The eligible routes are those via the device if none of these is faulty. -/
theorem eligibleRoutes_eq_ok {candidates : List Route} :
    eligibleRoutes t dev routes = .ok candidates ↔
      candidates = routesVia t dev routes ∧ ∀ r ∈ routesVia t dev routes, routeFault t r = none := by
  rw [eligibleRoutes_eq, ← List.findSome?_eq_none_iff]
  cases (routesVia t dev routes).findSome? (routeFault t) with
  | none => simp [eq_comm]
  | some reason => simp

/-- A router fails on the first fault of its default routes, else it follows the least of them. -/
theorem routerUpstream_eq (t : Topology) (dev : DeviceView) :
    routerUpstream t dev =
      if defaultRoutes t dev = [] then .error .noDefaultRoute
      else ((routesVia t dev (defaultRoutes t dev)).findSome? (routeFault t)).elim
        ((leastBy routeKey (routesVia t dev (defaultRoutes t dev))).elim
          (.error .noEligibleRoute) (fun r ↦
            (resolvePeerViaIf t (r.interfaceId.getD "") (r.nextHop.getD "")).elim
              (.error .peerUnresolved) .ok)) .error := by
  have hdef : t.routes.filter (fun r ↦ some r.vrfId = dev.vrfId ∧ r.pfx = "0.0.0.0/0") =
      defaultRoutes t dev := rfl
  unfold routerUpstream
  rw [hdef]
  cases hroutes : defaultRoutes t dev with
  | nil => rfl
  | cons route routes =>
    rw [if_neg (List.cons_ne_nil route routes)]
    simp only [eligibleRoutes_eq, leastBy]
    cases (routesVia t dev (route :: routes)).findSome? (routeFault t) with
    | some reason => rfl
    | none =>
      simp only [Option.elim, bind, Except.bind]
      cases (routesVia t dev (route :: routes)).insertionSort
          (fun a b ↦ routeKey a ≤ routeKey b) with
      | nil => rfl
      | cons chosen rest =>
        simp only [List.head?_cons]
        cases resolvePeerViaIf t (chosen.interfaceId.getD "") (chosen.nextHop.getD "") <;> rfl

/-- A router goes on if none of its default routes has a fault and the least leads to a peer. -/
theorem routerUpstream_eq_ok :
    routerUpstream t dev = .ok p ↔
      (∀ r ∈ routesVia t dev (defaultRoutes t dev), routeFault t r = none) ∧
        ∃ r, leastBy routeKey (routesVia t dev (defaultRoutes t dev)) = some r ∧
          resolvePeerViaIf t (r.interfaceId.getD "") (r.nextHop.getD "") = some p := by
  rw [routerUpstream_eq, ← List.findSome?_eq_none_iff]
  by_cases hroutes : defaultRoutes t dev = []
  · simp [hroutes, routesVia, leastBy]
  · rw [if_neg hroutes]
    cases (routesVia t dev (defaultRoutes t dev)).findSome? (routeFault t) with
    | some reason => simp
    | none =>
      cases leastBy routeKey (routesVia t dev (defaultRoutes t dev)) with
      | none => simp
      | some r =>
        simp only [Option.elim, Option.some.injEq, exists_eq_left', true_and]
        cases resolvePeerViaIf t (r.interfaceId.getD "") (r.nextHop.getD "") <;> simp

end Unoc.Status
