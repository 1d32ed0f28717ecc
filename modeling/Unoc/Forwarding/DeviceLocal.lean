import Unoc.Forwarding.Router

/-!
# Device-local longest prefix match

The step of a router against the routes of its VRF whose interface it has itself.
-/

namespace Unoc.Forwarding

open Unoc.Base
open Unoc.Model
open Unoc.Devices.Delete (Neighbor)

variable {A : Type} (ip : IpLibrary A) (db : Tables) (dev : Device) (ingress : Option String)
  (dst : String)

/-! ### The law -/

/-- An interface of the router. -/
def OnRouter (i : String) : Prop := ∃ x ∈ db.interfaces, x.id = i ∧ x.deviceId = dev.id

/-- A route of the router's VRF over one of its interfaces. -/
def LocalRoute (r : Route) : Prop :=
  r ∈ db.routes ∧ dev.vrfId = some r.vrfId ∧ ∃ i, r.interfaceId = some i ∧ OnRouter db dev i

/-- The destination is an address that the prefix of a route contains, of this length. -/
def Matches (r : Route) (n : Nat) : Prop :=
  ∃ target, ip.ipAddress dst = some target ∧ matchLength ip target r = some n

/-- A longest prefix match among the routes of the router. -/
def BestLocal (r : Route) : Prop :=
  LocalRoute db dev r ∧ ∃ n, Matches ip dst r n ∧
    ∀ r', LocalRoute db dev r' → ∀ m, Matches ip dst r' m → m ≤ n

/-- Directly connected, or with an entry for the next hop on the interface. -/
def Usable (r : Route) : Prop :=
  present r.nextHop = none ∨ ∃ i nextHop, r.interfaceId = some i ∧ r.nextHop = some nextHop ∧
    ∃ n ∈ db.neighbors, n.interfaceId = i ∧ n.ipAddress = nextHop

/-- If some longest prefix match of the router is usable, the step forwards out of the interface of
one. -/
def ForwardsLocally : Prop :=
  (∃ r, BestLocal ip db dev dst r ∧ Usable db r) →
    ∃ i deliverHere metaAction r, step ip db dev.id ingress dst = .forward i deliverHere metaAction ∧
      BestLocal ip db dev dst r ∧ r.interfaceId = some i

/-! ### When it holds -/

/-- The first longest prefix match in the whole VRF leads out of an interface, directly or over a
neighbor with an address. -/
def VrfDecides (target : A) (i : String) : Prop :=
  ∃ vrfId n g, dev.vrfId = some vrfId ∧
    FirstBest (matchLength ip target) (db.routesOf vrfId) n g ∧ present g.interfaceId = some i ∧
      (present g.nextHop = none ∨ ∃ x ∈ db.neighbors, x.interfaceId = i ∧
        present g.nextHop = some x.ipAddress ∧ x.macAddress ≠ "")

/-- The first longest prefix match of the local search leads out of an interface. -/
def LocalDecides (target : A) (i : String) : Prop :=
  ∃ n l, FirstBest (matchLength ip target) (localRoutes db dev) n l ∧
    present l.interfaceId = some i ∧
      (present l.nextHop = none ∨ ∃ x ∈ db.neighbors, x.interfaceId = i ∧
        present l.nextHop = some x.ipAddress)

variable {ip db dev ingress dst}

private theorem present_eq_some {text : Option String} {s : String} :
    present text = some s ↔ text = some s ∧ s ≠ "" := by
  simp [present, Option.filter_eq_some_iff]

private theorem getInterface_any {i : String} :
    (db.getInterface i).any (fun x ↦ x.deviceId = dev.id) = true ↔ OnRouter db dev i := by
  simp only [Option.any_eq_true, Tables.getInterface, find?_key_eq_some db.interfaces_nodup,
    OnRouter, decide_eq_true_eq, and_assoc]

private theorem neighbor_eq_some {i nextHop : String} {n : Neighbor} :
    db.neighbor i nextHop = some n ↔
      n ∈ db.neighbors ∧ n.interfaceId = i ∧ n.ipAddress = nextHop := by
  have hkey := @find?_key_eq_some _ _ _ _ _ db.neighbors_nodup (i, nextHop) n
  simp only [Prod.mk.injEq] at hkey
  exact hkey

private theorem decideRoute_forward_iff {g : Route} {i : String} :
    (∃ mac, decideRoute db g = .forward i mac) ↔ present g.interfaceId = some i ∧
      (present g.nextHop = none ∨ ∃ x ∈ db.neighbors, x.interfaceId = i ∧
        present g.nextHop = some x.ipAddress ∧ x.macAddress ≠ "") := by
  unfold decideRoute
  cases hi : present g.interfaceId with
  | none => cases present g.nextHop <;> simp
  | some j =>
    cases hnext : present g.nextHop with
    | none => simp
    | some nextHop =>
      simp only [Option.some.injEq, reduceCtorEq, false_or]
      cases hmac : present (resolveNextHopMac db j nextHop) with
      | none =>
        simp only [reduceCtorEq, exists_false, false_iff, not_and]
        rintro rfl ⟨x, hx, hi, rfl, hne⟩
        have hsome : present (resolveNextHopMac db j x.ipAddress) = some x.macAddress := by
          rw [present_eq_some, resolveNextHopMac, neighbor_eq_some.mpr ⟨hx, hi, rfl⟩]
          exact ⟨rfl, hne⟩
        rw [hmac] at hsome
        cases hsome
      | some mac =>
        obtain ⟨hsome, hne⟩ := present_eq_some.mp hmac
        obtain ⟨x, hx, rfl⟩ := Option.map_eq_some_iff.mp hsome
        obtain ⟨hmem, hxi, hxip⟩ := neighbor_eq_some.mp hx
        constructor
        · rintro ⟨_, heq⟩
          cases heq
          exact ⟨rfl, x, hmem, hxi, hxip.symm, hne⟩
        · rintro ⟨rfl, _⟩
          exact ⟨_, rfl⟩

/-- What the decision forwards out of. -/
theorem getForwardingDecision_forward_iff (hdev : db.getDevice dev.id = some dev) {i : String} :
    (∃ mac, getForwardingDecision ip db dev.id dst = .forward i mac) ↔
      ∃ target, ip.ipAddress dst = some target ∧ VrfDecides ip db dev target i := by
  unfold getForwardingDecision
  by_cases hempty : dst = ""
  · rw [hempty, ip.ipAddress_empty]
    simp
  · rw [if_neg hempty, hdev, Option.bind_some]
    cases hvrf : dev.vrfId with
    | none => simp [VrfDecides, hvrf]
    | some vrfId =>
      simp only [longestPrefixMatch]
      cases htarget : ip.ipAddress dst with
      | none => simp
      | some target =>
        simp only [Option.some.injEq, exists_eq_left', VrfDecides, hvrf]
        cases hbest : firstBest (matchLength ip target) (db.routesOf vrfId) with
        | none =>
          simp only [Option.map_none, reduceCtorEq, exists_false, false_iff]
          rintro ⟨_, n, g, rfl, hfirst, _⟩
          rw [firstBest_eq_some.mpr hfirst] at hbest
          cases hbest
        | some best =>
          obtain ⟨n, g⟩ := best
          rw [Option.map_some, decideRoute_forward_iff]
          constructor
          · intro hdecides
            exact ⟨vrfId, n, g, rfl, firstBest_eq_some.mp hbest, hdecides⟩
          · rintro ⟨_, m, g', rfl, hfirst, hdecides⟩
            rw [firstBest_eq_some.mpr hfirst] at hbest
            cases hbest
            exact hdecides

private theorem stepLocalRoute_forward_iff {l : Route} {i : String} :
    (∃ d m, stepLocalRoute db l = .forward i d m) ↔ present l.interfaceId = some i ∧
      (present l.nextHop = none ∨ ∃ x ∈ db.neighbors, x.interfaceId = i ∧
        present l.nextHop = some x.ipAddress) := by
  unfold stepLocalRoute
  cases hi : present l.interfaceId with
  | none => simp
  | some j =>
    cases hnext : present l.nextHop with
    | none => simp
    | some nextHop =>
      simp only [Option.some.injEq, reduceCtorEq, false_or]
      constructor
      · rintro ⟨d, m, h⟩
        split at h
        · next hsome =>
          cases h
          obtain ⟨x, hx⟩ := Option.isSome_iff_exists.mp hsome
          obtain ⟨hmem, hxi, hxip⟩ := neighbor_eq_some.mp hx
          exact ⟨rfl, x, hmem, hxi, hxip.symm⟩
        · cases h
      · rintro ⟨rfl, x, hx, hxi, rfl⟩
        rw [neighbor_eq_some.mpr ⟨hx, hxi, rfl⟩]
        exact ⟨_, _, rfl⟩

/-- What the local search forwards out of. -/
theorem stepLocal_forward_iff {i : String} :
    (∃ d m, stepLocal ip db dev dst = .forward i d m) ↔
      ∃ target, ip.ipAddress dst = some target ∧ LocalDecides ip db dev target i := by
  unfold stepLocal
  cases htarget : ip.ipAddress dst with
  | none => simp
  | some target =>
    simp only [Option.some.injEq, exists_eq_left', LocalDecides]
    cases hbest : firstBest (matchLength ip target) (localRoutes db dev) with
    | none =>
      simp only [reduceCtorEq, exists_false, false_iff]
      rintro ⟨n, l, hfirst, _⟩
      rw [firstBest_eq_some.mpr hfirst] at hbest
      cases hbest
    | some best =>
      obtain ⟨n, l⟩ := best
      dsimp only
      rw [stepLocalRoute_forward_iff]
      constructor
      · intro hdecides
        exact ⟨n, l, firstBest_eq_some.mp hbest, hdecides⟩
      · rintro ⟨m, l', hfirst, hdecides⟩
        rw [firstBest_eq_some.mpr hfirst] at hbest
        cases hbest
        exact hdecides

/-- What the step of a router forwards out of. -/
theorem stepRouter_forward_iff (hdev : db.getDevice dev.id = some dev) {e : String} :
    (∃ d m, stepRouter ip db dev dst = .forward e d m) ↔
      ∃ target i, ip.ipAddress dst = some target ∧ VrfDecides ip db dev target i ∧
        (OnRouter db dev i ∧ e = i ∨ ¬ OnRouter db dev i ∧ LocalDecides ip db dev target e) := by
  have hdecision := fun i ↦ @getForwardingDecision_forward_iff _ ip db dev dst hdev i
  unfold stepRouter
  cases hd : getForwardingDecision ip db dev.id dst with
  | drop reason =>
    simp only [hd] at hdecision
    simp only [reduceCtorEq, exists_false, false_iff]
    rintro ⟨target, i, htarget, hvrf, _⟩
    obtain ⟨mac, hmac⟩ := (hdecision i).mpr ⟨target, htarget, hvrf⟩
    cases hmac
  | forward j mac =>
    simp only [hd, ForwardDecision.forward.injEq] at hdecision
    obtain ⟨target, htarget, hvrf⟩ := (hdecision j).mp ⟨mac, rfl, rfl⟩
    have hunique : ∀ i, VrfDecides ip db dev target i → i = j := by
      intro i hi
      obtain ⟨_, hij, _⟩ := (hdecision i).mpr ⟨target, htarget, hi⟩
      exact hij.symm
    have hne : j ≠ "" := by
      obtain ⟨_, _, _, _, _, hpresent, _⟩ := hvrf
      exact (present_eq_some.mp hpresent).2
    simp only [hne, if_false, htarget, Option.some.injEq]
    by_cases hon : OnRouter db dev j
    · rw [if_pos (getInterface_any.mpr hon)]
      constructor
      · rintro ⟨d, m, h⟩
        cases h
        exact ⟨target, e, rfl, hvrf, .inl ⟨hon, rfl⟩⟩
      · rintro ⟨_, i, rfl, hi, ⟨_, he⟩ | ⟨hoff, _⟩⟩
        · rw [he, hunique i hi]
          exact ⟨_, _, rfl⟩
        · rw [hunique i hi] at hoff
          exact absurd hon hoff
    · rw [if_neg (fun h ↦ hon (getInterface_any.mp h)), stepLocal_forward_iff]
      constructor
      · rintro ⟨target', htarget', hlocal⟩
        rw [htarget] at htarget'
        cases htarget'
        exact ⟨target, j, rfl, hvrf, .inr ⟨hon, hlocal⟩⟩
      · rintro ⟨_, i, rfl, hi, ⟨honi, _⟩ | ⟨_, hlocal⟩⟩
        · rw [hunique i hi] at honi
          exact absurd honi hon
        · exact ⟨target, htarget, hlocal⟩

/-- The best route of the VRF, if it is over an interface of the router, is a best one of the
router. -/
theorem VrfDecides.exists_bestLocal {target : A} {i : String} (htarget : ip.ipAddress dst = some target)
    (h : VrfDecides ip db dev target i) (hon : OnRouter db dev i) :
    ∃ r, BestLocal ip db dev dst r ∧ r.interfaceId = some i := by
  obtain ⟨vrfId, n, g, hvrf, hfirst, hpresent, _⟩ := h
  have hi := (present_eq_some.mp hpresent).1
  have hroutes : ∀ r, r ∈ db.routesOf vrfId ↔ r ∈ db.routes ∧ dev.vrfId = some r.vrfId := by
    intro r
    simp [Tables.routesOf, hvrf, eq_comm]
  obtain ⟨hg, hgvrf⟩ := (hroutes g).mp hfirst.mem
  refine ⟨g, ⟨⟨hg, hgvrf, i, hi, hon⟩, n, ⟨target, htarget, hfirst.score_eq⟩, ?_⟩, hi⟩
  rintro r' ⟨hr', hvrf', _⟩ m ⟨target', htarget', hm⟩
  rw [htarget] at htarget'
  cases htarget'
  exact hfirst.le ((hroutes r').mpr ⟨hr', hvrf'⟩) hm

private theorem mem_ifIds {i : String} : i ∈ db.ifIds dev.id ↔ OnRouter db dev i := by
  simp only [Tables.ifIds, List.mem_map, List.mem_filter, decide_eq_true_eq, OnRouter]
  constructor
  · rintro ⟨x, ⟨hx, hdevice⟩, hid⟩
    exact ⟨x, hx, hid, hdevice⟩
  · rintro ⟨x, hx, hid, hdevice⟩
    exact ⟨x, ⟨hx, hdevice⟩, hid⟩

/-- With a VRF id that is not 0 the local search finds best routes of the router only. -/
theorem LocalDecides.exists_bestLocal {target : A} {e : String} {vrfId : Int}
    (htarget : ip.ipAddress dst = some target) (h : LocalDecides ip db dev target e)
    (hvrf : dev.vrfId = some vrfId) (hne : vrfId ≠ 0) :
    ∃ r, BestLocal ip db dev dst r ∧ r.interfaceId = some e := by
  obtain ⟨n, l, hfirst, hpresent, _⟩ := h
  have he := (present_eq_some.mp hpresent).1
  have hroutes : ∀ r, r ∈ localRoutes db dev ↔
      (r ∈ db.routes ∧ r.vrfId = vrfId) ∧ OnRouter db dev (r.interfaceId.getD "") := by
    intro r
    have hfilter : dev.vrfId.filter (fun v ↦ v ≠ 0) = some vrfId := by
      rw [hvrf, Option.filter_some, if_pos (by simpa using hne)]
    simp only [localRoutes, Tables.routesOf, hfilter, Option.getD_some, List.mem_filter,
      decide_eq_true_eq, mem_ifIds]
  obtain ⟨⟨hl, hlvrf⟩, hon⟩ := (hroutes l).mp hfirst.mem
  rw [he, Option.getD_some] at hon
  refine ⟨l, ⟨⟨hl, by rw [hvrf, hlvrf], e, he, hon⟩, n, ⟨target, htarget, hfirst.score_eq⟩, ?_⟩, he⟩
  rintro r' ⟨hr', hvrf', i, hi, hon'⟩ m ⟨target', htarget', hm⟩
  rw [htarget] at htarget'
  cases htarget'
  rw [hvrf] at hvrf'
  refine hfirst.le ((hroutes r').mpr ⟨⟨hr', (Option.some.inj hvrf').symm⟩, ?_⟩) hm
  rw [hi]
  exact hon'

/-- A router forwards locally exactly if it has no usable longest prefix match of its own, or the first
one of the whole VRF leads out of an interface, and that is one of the router or the local search leads
out of the interface of a longest prefix match of the router. -/
theorem forwardsLocally_iff (hdev : db.getDevice dev.id = some dev) (hrouter : isRouter dev.type) :
    ForwardsLocally ip db dev ingress dst ↔
      (¬ ∃ r, BestLocal ip db dev dst r ∧ Usable db r) ∨
        ∃ target i, ip.ipAddress dst = some target ∧ VrfDecides ip db dev target i ∧
          (OnRouter db dev i ∨ ∃ e r, LocalDecides ip db dev target e ∧
            BestLocal ip db dev dst r ∧ r.interfaceId = some e) := by
  have hstep : step ip db dev.id ingress dst = stepRouter ip db dev dst := by
    rw [step, hdev]
    exact if_pos hrouter
  unfold ForwardsLocally
  rw [hstep]
  by_cases husable : ∃ r, BestLocal ip db dev dst r ∧ Usable db r
  · simp only [husable, true_imp_iff, not_true_eq_false, false_or]
    constructor
    · rintro ⟨e, d, m, r, hforward, hbest, hr⟩
      obtain ⟨target, i, htarget, hvrf, ⟨hon, rfl⟩ | ⟨_, hlocal⟩⟩ :=
        (stepRouter_forward_iff hdev).mp ⟨d, m, hforward⟩
      · exact ⟨target, e, htarget, hvrf, .inl hon⟩
      · exact ⟨target, i, htarget, hvrf, .inr ⟨e, r, hlocal, hbest, hr⟩⟩
    · rintro ⟨target, i, htarget, hvrf, hcase⟩
      by_cases hon : OnRouter db dev i
      · obtain ⟨d, m, hforward⟩ := (stepRouter_forward_iff hdev).mpr
          ⟨target, i, htarget, hvrf, .inl ⟨hon, rfl⟩⟩
        obtain ⟨r, hbest, hr⟩ := hvrf.exists_bestLocal htarget hon
        exact ⟨i, d, m, r, hforward, hbest, hr⟩
      · obtain ⟨e, r, hlocal, hbest, hr⟩ := hcase.resolve_left hon
        obtain ⟨d, m, hforward⟩ := (stepRouter_forward_iff hdev).mpr
          ⟨target, i, htarget, hvrf, .inr ⟨hon, hlocal⟩⟩
        exact ⟨e, d, m, r, hforward, hbest, hr⟩
  · refine iff_of_true (fun h ↦ absurd h husable) (.inl husable)

/-! ### Another router's route -/

/-- The address and the prefixes of `sharedVrf`. -/
def smallIp : IpLibrary Nat where
  ipAddress s := [("172.16.1.5", 0xAC100105)].lookup s
  ipNetwork s := [
    ("172.16.0.0/16", ⟨16, fun a ↦ a / 2 ^ 16 = 0xAC10⟩),
    ("172.16.1.0/24", ⟨24, fun a ↦ a / 2 ^ 8 = 0xAC1001⟩)].lookup s
  ipAddress_empty := rfl

/-- A router. -/
def r1 : Device := { id := "r1", type := .edgeRouter, vrfId := some 1 }

/-- A router with a connected network and a router in the same VRF with a longer prefix over a next hop
that has no entry. -/
def sharedVrf : Tables where
  devices := [r1, { id := "r2", type := .edgeRouter, vrfId := some 1 }]
  interfaces := [
    { id := "r1-eth1", deviceId := "r1", name := "eth1" },
    { id := "r2-eth1", deviceId := "r2", name := "eth1" }]
  routes := [
    { id := 1, vrfId := 1, pfx := "172.16.0.0/16", interfaceId := some "r1-eth1" },
    { id := 2, vrfId := 1, pfx := "172.16.1.0/24", interfaceId := some "r2-eth1",
      nextHop := some "10.9.9.9" }]

/-- The connected network of the router. -/
def connected : Route := { id := 1, vrfId := 1, pfx := "172.16.0.0/16", interfaceId := some "r1-eth1" }

/-- The router has a connected network, and another router's longer prefix makes it drop the packet.
-/
theorem sharedVrf_not_forwardsLocally :
    step smallIp sharedVrf r1.id none "172.16.1.5" = .drop "next_hop_unresolved" "l3_drop" ∧
      ¬ ForwardsLocally smallIp sharedVrf r1 none "172.16.1.5" := by
  have hstep : step smallIp sharedVrf r1.id none "172.16.1.5" =
      .drop "next_hop_unresolved" "l3_drop" := by
    decide +kernel
  have honly : ∀ r, LocalRoute sharedVrf r1 r → r = connected := by
    rintro r ⟨hr, _, i, hi, x, hx, rfl, hdevice⟩
    rcases List.mem_cons.mp hr with rfl | hr
    · rfl
    · obtain rfl := List.mem_singleton.mp hr
      have hx2 : x.id = "r2-eth1" := (Option.some.inj hi).symm
      revert hdevice hx2
      revert x
      decide +kernel
  have hlocal : LocalRoute sharedVrf r1 connected :=
    ⟨List.mem_cons_self, rfl, "r1-eth1", rfl, _, List.mem_cons_self, rfl, rfl⟩
  have hmatches : Matches smallIp "172.16.1.5" connected 16 := ⟨0xAC100105, rfl, by decide +kernel⟩
  have hbest : BestLocal smallIp sharedVrf r1 "172.16.1.5" connected := by
    refine ⟨hlocal, 16, hmatches, ?_⟩
    rintro r' hr' m ⟨target, htarget, hm⟩
    rw [honly r' hr'] at hm
    cases htarget
    have hlength : matchLength smallIp 0xAC100105 connected = some 16 := by decide +kernel
    rw [hlength] at hm
    exact Nat.le_of_eq (Option.some.inj hm).symm
  refine ⟨hstep, fun hlaw ↦ ?_⟩
  obtain ⟨_, _, _, _, hforward, _⟩ := hlaw ⟨connected, hbest, .inl rfl⟩
  rw [hstep] at hforward
  cases hforward

/-- The router alone. -/
def ownVrf : Tables where
  devices := [r1]
  interfaces := [{ id := "r1-eth1", deviceId := "r1", name := "eth1" }]
  routes := [connected]

/-- The router alone forwards, and with the other router it does not. -/
theorem forwardsLocally_iff_sharedVrf :
    ForwardsLocally smallIp ownVrf r1 none "172.16.1.5" ∧
    sharedVrf.getDevice r1.id = some r1 ∧ isRouter r1.type = true ∧
      (ForwardsLocally smallIp sharedVrf r1 none "172.16.1.5" ↔
        (¬ ∃ r, BestLocal smallIp sharedVrf r1 "172.16.1.5" r ∧ Usable sharedVrf r) ∨
          ∃ target i, smallIp.ipAddress "172.16.1.5" = some target ∧
            VrfDecides smallIp sharedVrf r1 target i ∧
              (OnRouter sharedVrf r1 i ∨ ∃ e r, LocalDecides smallIp sharedVrf r1 target e ∧
                BestLocal smallIp sharedVrf r1 "172.16.1.5" r ∧ r.interfaceId = some e)) := by
  have hdev : sharedVrf.getDevice r1.id = some r1 := by decide +kernel
  have hown : ownVrf.getDevice r1.id = some r1 := by decide +kernel
  have hbest : FirstBest (matchLength smallIp 0xAC100105) (ownVrf.routesOf 1) 16 connected :=
    firstBest_eq_some.mp (by decide +kernel)
  refine ⟨(forwardsLocally_iff hown rfl).mpr (.inr ?_), hdev, rfl, forwardsLocally_iff hdev rfl⟩
  exact ⟨0xAC100105, "r1-eth1", rfl, ⟨1, 16, connected, rfl, hbest, rfl, .inl rfl⟩,
    .inl ⟨_, List.mem_cons_self, rfl, rfl⟩⟩

end Unoc.Forwarding
