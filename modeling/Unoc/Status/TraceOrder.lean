import Unoc.Status.TraceSoundness

/-!
# Choices of the L3 trace

The trace commits itself to one peer at each access device and to one route at each router. Its
answer is free of the row order where an access device has one peer of the preferred class and a
router has default routes of one fault. It succeeds where each choice open to it does.
-/

namespace Unoc.Status

open Unoc.Base Unoc.Model

variable {t t' : Topology} {dev p q : DeviceView} {r : Route}

/-- The same rows, read in another order. -/
structure ReorderedRows (t t' : Topology) : Prop where
  devices : t'.devices.Perm t.devices
  interfaces : t'.interfaces.Perm t.interfaces
  links : t'.links.Perm t.links
  routes : t'.routes.Perm t.routes
  interfaceAddresses : t'.interfaceAddresses.Perm t.interfaceAddresses

/-- A device at which the trace has one way to go on, or one reason to fail. -/
structure Unambiguous (t : Topology) (dev : DeviceView) : Prop where
  upstream : routerClass dev.type = false → ∀ p q, UpstreamCandidate t dev p →
    UpstreamCandidate t dev q → p = q
  fault : dev.type = .coreRouter ∨ dev.type = .edgeRouter →
    ∀ r ∈ routesVia t dev (defaultRoutes t dev), ∀ r' ∈ routesVia t dev (defaultRoutes t dev),
      ∀ reason reason', routeFault t r = some reason → routeFault t r' = some reason' →
        reason = reason'

/-! ### Steps of a trace -/

/-- A trace keeps the chain that it starts with. -/
theorem traceStep_chain (fuel : Nat) : ∀ (visited chain : List String) (dev : DeviceView)
    {id : String}, id ∈ chain → id ∈ (traceStep t fuel visited chain dev).chain := by
  induction fuel with
  | zero => exact fun _ _ _ _ hid ↦ hid
  | succ fuel ih =>
    intro visited chain dev id hid
    unfold traceStep
    split_ifs
    · exact hid
    · exact hid
    · exact hid
    · exact hid
    · cases nextHop t dev with
      | error reason => exact hid
      | ok peer => exact ih _ _ _ (List.mem_append_left _ hid)

/-! ### Row order -/

/-- Links have distinct ids, so the first by id is the same in every row order. -/
theorem firstById_perm {links links' : List Link} (hperm : links'.Perm links)
    (hsub : links ⊆ t.links) : firstById links' = firstById links := by
  have hleast : leastBy Link.id links = leastBy Link.id links' :=
    leastBy_perm hperm.symm fun x hx y hy heq ↦
      List.inj_on_of_nodup_map t.links_nodup (hsub hx) (hsub hy) heq
  exact hleast.symm

namespace ReorderedRows

variable (h : ReorderedRows t t')

include h

private theorem getDevice_eq (id : String) : t'.getDevice id = t.getDevice id :=
  find?_key_of_perm t.devices_nodup h.devices id

private theorem getInterface_eq (id : String) : t'.getInterface id = t.getInterface id :=
  find?_key_of_perm t.interfaces_nodup h.interfaces id

private theorem interfaceDevice_eq (id : String) :
    interfaceDevice t' id = interfaceDevice t id := by
  have hget : t'.getDevice = t.getDevice := funext h.getDevice_eq
  simp only [interfaceDevice, getDeviceIf, h.getInterface_eq, hget]

private theorem traceLinkPassable_eq (l : Link) :
    traceLinkPassable t' l = traceLinkPassable t l := by
  simp only [traceLinkPassable, h.interfaceDevice_eq]

private theorem passableLinks_perm (id : String) : (passableLinks t' id).Perm
    (passableLinks t id) := by
  have hpass : traceLinkPassable t' = traceLinkPassable t := funext h.traceLinkPassable_eq
  unfold passableLinks
  rw [hpass]
  exact (h.links.filter _).filter _

private theorem hasAddress_eq (id ip : String) : hasAddress t' id ip = hasAddress t id ip := by
  rw [Bool.eq_iff_iff]
  simp only [hasAddress, List.any_eq_true, h.interfaceAddresses.mem_iff]

private theorem mem_accessPeers_iff : p ∈ accessPeers t' dev ↔ p ∈ accessPeers t dev := by
  simp only [mem_accessPeers, h.interfaces.mem_iff, (h.passableLinks_perm _).mem_iff,
    h.interfaceDevice_eq]

private theorem upstreamCandidate_iff : UpstreamCandidate t' dev p ↔ UpstreamCandidate t dev p := by
  simp only [UpstreamCandidate, h.mem_accessPeers_iff]

/-- With one candidate an access device goes on to it in every row order. -/
theorem accessUpstream_eq (hone : ∀ p q, UpstreamCandidate t dev p → UpstreamCandidate t dev q →
    p = q) : accessUpstream t' dev = accessUpstream t dev := by
  cases ht : accessUpstream t dev with
  | none =>
    rw [accessUpstream_eq_none, List.eq_nil_iff_forall_not_mem] at ht ⊢
    exact fun p hp ↦ ht p (h.mem_accessPeers_iff.mp hp)
  | some p =>
    have hp := upstreamCandidate_of_accessUpstream ht
    cases ht' : accessUpstream t' dev with
    | none =>
      rw [accessUpstream_eq_none] at ht'
      have hmem := h.mem_accessPeers_iff.mpr hp.1
      rw [ht'] at hmem
      cases hmem
    | some q =>
      have hq := h.upstreamCandidate_iff.mp (upstreamCandidate_of_accessUpstream ht')
      rw [hone q p hq hp]

private theorem resolvePeerViaIf_eq (id ip : String) :
    resolvePeerViaIf t' id ip = resolvePeerViaIf t id ip := by
  have hsub : passableLinks t id ⊆ t.links := fun l hl ↦ (mem_passableLinks.mp hl).1
  have hperm := h.passableLinks_perm id
  have hfilter : ∀ P : Link → Bool, firstById ((passableLinks t' id).filter P) =
      firstById ((passableLinks t id).filter P) :=
    fun P ↦ firstById_perm (hperm.filter P) (fun _ hl ↦ hsub (List.mem_of_mem_filter hl))
  unfold resolvePeerViaIf
  simp only [h.hasAddress_eq, h.interfaceDevice_eq, firstById_perm hperm hsub, hfilter]

private theorem routeEgress_eq (r : Route) : routeEgress t' r = routeEgress t r := by
  have hget : t'.getInterface = t.getInterface := funext h.getInterface_eq
  simp only [routeEgress, hget]

private theorem routeFault_eq (r : Route) : routeFault t' r = routeFault t r := by
  simp only [routeFault, h.routeEgress_eq]

private theorem defaultRoutes_perm (dev : DeviceView) :
    (defaultRoutes t' dev).Perm (defaultRoutes t dev) := h.routes.filter _

private theorem routesVia_perm (dev : DeviceView) :
    (routesVia t' dev (defaultRoutes t' dev)).Perm (routesVia t dev (defaultRoutes t dev)) := by
  simp only [routesVia, h.routeEgress_eq]
  exact (h.defaultRoutes_perm dev).filter _

private theorem routerUpstream_eq (hids : (t.routes.map Route.id).Nodup)
    (hone : ∀ r ∈ routesVia t dev (defaultRoutes t dev),
      ∀ r' ∈ routesVia t dev (defaultRoutes t dev), ∀ reason reason',
        routeFault t r = some reason → routeFault t r' = some reason' → reason = reason') :
    routerUpstream t' dev = routerUpstream t dev := by
  have hperm := h.routesVia_perm dev
  have hfault : routeFault t' = routeFault t := funext h.routeFault_eq
  have hnil : defaultRoutes t' dev = [] ↔ defaultRoutes t dev = [] := by
    rw [← List.length_eq_zero_iff, (h.defaultRoutes_perm dev).length_eq, List.length_eq_zero_iff]
  have hleast : leastBy routeKey (routesVia t' dev (defaultRoutes t' dev)) =
      leastBy routeKey (routesVia t dev (defaultRoutes t dev)) :=
    leastBy_perm hperm fun x hx y hy heq ↦
      routeKey_inj hids (mem_routes_of_via (hperm.mem_iff.mp hx))
        (mem_routes_of_via (hperm.mem_iff.mp hy)) heq
  simp only [Status.routerUpstream_eq, hnil, hfault, findSome?_perm hperm hone, hleast,
    h.resolvePeerViaIf_eq]

/-- An unambiguous device has the same next hop in every row order. -/
theorem nextHop_eq (hids : (t.routes.map Route.id).Nodup) (hdev : Unambiguous t dev)
    (htype : dev.type ≠ .backboneGateway) : nextHop t' dev = nextHop t dev := by
  have hall : t'.interfaces.all (fun i ↦ decide (i.deviceId ≠ dev.id)) =
      t.interfaces.all (fun i ↦ decide (i.deviceId ≠ dev.id)) := by
    rw [Bool.eq_iff_iff]
    simp only [List.all_eq_true, h.interfaces.mem_iff]
  unfold nextHop
  rw [hall]
  cases hclass : routerClass dev.type with
  | true =>
    have hrouter : dev.type = .coreRouter ∨ dev.type = .edgeRouter := by
      cases hdtype : dev.type <;> simp_all [routerClass]
    rw [h.routerUpstream_eq hids (hdev.fault hrouter)]
    rfl
  | false =>
    rw [h.accessUpstream_eq (hdev.upstream hclass)]
    rfl

private theorem traceStep_eq (hids : (t.routes.map Route.id).Nodup) (fuel : Nat) :
    ∀ {visited chain : List String} {dev : DeviceView}, dev ∈ t.devices → dev.id ∈ chain →
      (∀ x ∈ t.devices, x.id ∈ (traceStep t fuel visited chain dev).chain → Unambiguous t x) →
        traceStep t' fuel visited chain dev = traceStep t fuel visited chain dev := by
  induction fuel with
  | zero => exact fun _ _ _ ↦ rfl
  | succ fuel ih =>
    intro visited chain dev hdev hchain hclear
    have hhere : Unambiguous t dev :=
      hclear dev hdev (traceStep_chain (fuel + 1) visited chain dev hchain)
    unfold traceStep at hclear ⊢
    split_ifs at hclear ⊢ with _ _ htype
    · rfl
    · rfl
    · rfl
    · rfl
    · rw [h.nextHop_eq hids hhere htype]
      cases hnext : nextHop t dev with
      | error reason => rfl
      | ok peer =>
        simp only [hnext] at hclear
        exact ih (peer_of_nextHop hnext).mem (by simp) hclear

/-- A trace over unambiguous devices has the same answer in every row order. -/
theorem traceL3PathToAnchor_eq (hids : (t.routes.map Route.id).Nodup) (hdev : dev ∈ t.devices)
    (hclear : ∀ x ∈ t.devices, x.id ∈ (traceL3PathToAnchor t dev).chain → Unambiguous t x) :
    traceL3PathToAnchor t' dev = traceL3PathToAnchor t dev := by
  unfold traceL3PathToAnchor at hclear ⊢
  rw [h.devices.length_eq]
  split_ifs at hclear ⊢
  · rfl
  · rfl
  · exact h.traceStep_eq hids _ hdev (List.mem_singleton_self _) hclear

end ReorderedRows

/-! ### Choices that succeed -/

/-- Neither end of a usable link is forced DOWN. -/
theorem Peer.up (h : Peer t dev p) (hdev : dev ∈ t.devices) :
    dev.forcedDown = false ∧ p.forcedDown = false := by
  have hends : ∀ {a b : String}, (a, b) ∈ usableEdges t →
      a ∈ recordIds (fun _ ↦ true) (deviceRecords t) ∧
        b ∈ recordIds (fun _ ↦ true) (deviceRecords t) := by
    intro a b hab
    obtain ⟨r, hr, heq⟩ := List.mem_map.mp hab
    obtain ⟨rfl, rfl⟩ := Prod.mk.inj heq
    obtain ⟨l, _, hrecord⟩ := List.mem_filterMap.mp hr
    obtain ⟨_, _, _, ha, hb, _⟩ := linkRecord_eq_some.mp hrecord
    exact ⟨ha, hb⟩
  rw [← mem_recordIds_iff_up hdev, ← mem_recordIds_iff_up h.mem]
  rcases h.adjacent with hadj | hadj
  · exact hends hadj
  · exact (hends hadj).symm

private theorem isAnchor_routerClass (h : IsAnchor dev) : routerClass dev.type = true := by
  simp [routerClass, h.2]

/-- A device whose next device traces to an anchor does so too. -/
theorem trace_ok_of_next (hdev : dev ∈ t.devices) (hnext : traceNext t dev = some p)
    (hok : (traceL3PathToAnchor t p).ok = true) : (traceL3PathToAnchor t dev).ok = true := by
  have hp : p ∈ t.devices := (peer_of_nextHop (traceNext_eq_some.mp hnext).2.2).mem
  obtain ⟨path, hpath⟩ := (trace_ok_iff hp).mp hok
  by_cases hanchor : IsAnchor dev
  · exact (trace_ok_iff hdev).mpr ⟨[dev], .goal hanchor⟩
  · exact (trace_ok_iff hdev).mpr ⟨dev :: path, .step hanchor hnext hpath⟩

/-- An access device traces to an anchor if its candidates do. -/
theorem trace_ok_of_candidates (hdev : dev ∈ t.devices) (hclass : routerClass dev.type = false)
    (hsome : ∃ p, UpstreamCandidate t dev p)
    (hall : ∀ p, UpstreamCandidate t dev p → (traceL3PathToAnchor t p).ok = true) :
    (traceL3PathToAnchor t dev).ok = true := by
  cases hup : accessUpstream t dev with
  | none =>
    obtain ⟨p, hp, _⟩ := hsome
    rw [accessUpstream_eq_none.mp hup] at hp
    cases hp
  | some p =>
    have hp := upstreamCandidate_of_accessUpstream hup
    obtain ⟨hdevUp, hpUp⟩ := (peer_of_accessPeers hp.1).up hdev
    have hvrf : needsVrf dev = false := by
      cases htype : dev.type <;> simp_all [needsVrf, routerClass]
    have hnext : traceNext t dev = some p :=
      traceNext_eq_some.mpr ⟨hdevUp, hvrf, nextHop_eq_ok.mpr ⟨hpUp, Or.inr ⟨hclass, hup⟩⟩⟩
    exact trace_ok_of_next hdev hnext (hall p hp)

/-- Where an access device traces to an anchor, one of its candidates does. -/
theorem exists_candidate_of_trace_ok (hdev : dev ∈ t.devices)
    (hclass : routerClass dev.type = false) (hok : (traceL3PathToAnchor t dev).ok = true) :
    ∃ p, UpstreamCandidate t dev p ∧ (traceL3PathToAnchor t p).ok = true := by
  obtain ⟨path, hpath⟩ := (trace_ok_iff hdev).mp hok
  cases hpath with
  | goal hanchor =>
    rw [isAnchor_routerClass hanchor] at hclass
    cases hclass
  | @step _ p _ _ hnext hpath =>
    obtain ⟨_, _, hhop⟩ := traceNext_eq_some.mp hnext
    have hp : p ∈ t.devices := (peer_of_nextHop hhop).mem
    rcases (nextHop_eq_ok.mp hhop).2 with ⟨hrouter, _⟩ | ⟨_, hup⟩
    · rw [hclass] at hrouter
      cases hrouter
    · exact ⟨p, upstreamCandidate_of_accessUpstream hup, (trace_ok_iff hp).mpr ⟨_, hpath⟩⟩

/-- A router without a faulty default route traces to an anchor if its least default route leads to
one. -/
theorem trace_ok_of_leastDefault (hids : (t.routes.map Route.id).Nodup) (hdev : dev ∈ t.devices)
    (hclass : routerClass dev.type = true)
    (hclear : ∀ r ∈ routesVia t dev (defaultRoutes t dev), routeFault t r = none)
    (hr : LeastDefault t dev r)
    (hpeer : resolvePeerViaIf t (r.interfaceId.getD "") (r.nextHop.getD "") = some p)
    (hok : (traceL3PathToAnchor t p).ok = true) : (traceL3PathToAnchor t dev).ok = true := by
  have hleast : leastBy routeKey (routesVia t dev (defaultRoutes t dev)) = some r := by
    refine leastBy_eq_some hr.mem fun r' hr' hne ↦ lt_of_le_of_ne (hr.le r' hr') fun heq ↦ hne ?_
    exact (routeKey_inj hids (mem_routes_of_via hr.mem) (mem_routes_of_via hr') heq).symm
  have hup : routerUpstream t dev = .ok p := routerUpstream_eq_ok.mpr ⟨hclear, r, hleast, hpeer⟩
  obtain ⟨hdevUp, hpUp⟩ := (peer_of_routerUpstream hup).up hdev
  have hvrf : dev.vrfId ≠ none := by
    intro hnone
    have hdefault := List.of_mem_filter (mem_routesVia.mp hr.mem).1
    simp [hnone] at hdefault
  have hnext : traceNext t dev = some p :=
    traceNext_eq_some.mpr ⟨hdevUp, by simp [needsVrf, hvrf],
      nextHop_eq_ok.mpr ⟨hpUp, Or.inl ⟨hclass, hup⟩⟩⟩
  exact trace_ok_of_next hdev hnext hok

/-- The answer of a trace does not depend on the row order where the reported devices are unambiguous.
An access device traces to an anchor if all of its candidates do, and only if one does. A router
without a faulty default route does if its least one leads to a device that does. -/
theorem traceL3PathToAnchor_choices (db : Database) (hids : (db.routes.map Route.id).Nodup)
    (d : Device) (hd : d ∈ db.devices) :
    (∀ db', ReorderedRows (topology db) (topology db') →
        (∀ x ∈ db.devices, x.id ∈ (traceL3PathToAnchor (topology db) (deviceView d)).chain →
          Unambiguous (topology db) (deviceView x)) →
        traceL3PathToAnchor (topology db') (deviceView d) =
          traceL3PathToAnchor (topology db) (deviceView d)) ∧
      (routerClass d.type = false →
        ((∃ p, UpstreamCandidate (topology db) (deviceView d) p) →
          (∀ p, UpstreamCandidate (topology db) (deviceView d) p →
            (traceL3PathToAnchor (topology db) p).ok = true) →
          (traceL3PathToAnchor (topology db) (deviceView d)).ok = true) ∧
        ((traceL3PathToAnchor (topology db) (deviceView d)).ok = true →
          ∃ p, UpstreamCandidate (topology db) (deviceView d) p ∧
            (traceL3PathToAnchor (topology db) p).ok = true)) ∧
      (routerClass d.type = true →
        (∀ r ∈ routesVia (topology db) (deviceView d) (defaultRoutes (topology db) (deviceView d)),
          routeFault (topology db) r = none) →
        ∀ r p, LeastDefault (topology db) (deviceView d) r →
          resolvePeerViaIf (topology db) (r.interfaceId.getD "") (r.nextHop.getD "") = some p →
          (traceL3PathToAnchor (topology db) p).ok = true →
          (traceL3PathToAnchor (topology db) (deviceView d)).ok = true) := by
  have hdev : deviceView d ∈ (topology db).devices := List.mem_map_of_mem hd
  refine ⟨?_, ?_, ?_⟩
  · intro db' hrows hclear
    refine hrows.traceL3PathToAnchor_eq hids hdev ?_
    intro x hx hid
    obtain ⟨y, hy, rfl⟩ := List.mem_map.mp hx
    exact hclear y hy hid
  · intro hclass
    exact ⟨fun hsome hall ↦ trace_ok_of_candidates hdev hclass hsome hall,
      fun hok ↦ exists_candidate_of_trace_ok hdev hclass hok⟩
  · intro hclass hclear r p hr hpeer hok
    exact trace_ok_of_leastDefault hids hdev hclass hclear hr hpeer hok

/-- The network of one OLT below an EDGE router, with its interfaces in the other order. -/
def tracedNetworkReversed : Database :=
  { tracedNetwork with
    interfaces := tracedNetwork.interfaces.reverse
    interfaces_nodup := by decide }

private theorem candidate_tracedNetwork {p : DeviceView}
    (hp : UpstreamCandidate (topology tracedNetwork) (deviceView { id := "olt", type := .olt }) p) :
    p = deviceView { id := "edge", type := .edgeRouter, vrfId := some 1 } := by
  have hpeers : ∀ p ∈ accessPeers (topology tracedNetwork) (deviceView { id := "olt", type := .olt }),
      p = deviceView { id := "edge", type := .edgeRouter, vrfId := some 1 } := by
    decide +kernel
  exact hpeers p hp.1

private theorem routeFault_tracedNetwork : ∀ x ∈ tracedNetwork.devices,
    ∀ r ∈ routesVia (topology tracedNetwork) (deviceView x)
      (defaultRoutes (topology tracedNetwork) (deviceView x)),
        routeFault (topology tracedNetwork) r = none := by
  decide +kernel

private theorem unambiguous_tracedNetwork {x : Device} (hx : x ∈ tracedNetwork.devices) :
    Unambiguous (topology tracedNetwork) (deviceView x) := by
  refine ⟨fun hclass p q hp hq ↦ ?_, fun _ r hr r' _ reason reason' hreason _ ↦ ?_⟩
  · have holt : ∀ x ∈ tracedNetwork.devices, routerClass x.type = false →
        x = { id := "olt", type := .olt } := by
      decide
    obtain rfl := holt x hx hclass
    rw [candidate_tracedNetwork hp, candidate_tracedNetwork hq]
  · rw [routeFault_tracedNetwork x hx r hr] at hreason
    cases hreason

/-- The rows in reverse order give the same trace. -/
theorem traceL3PathToAnchor_choices_tracedNetwork :
    traceL3PathToAnchor (topology tracedNetworkReversed) (deviceView { id := "olt", type := .olt }) =
        traceL3PathToAnchor (topology tracedNetwork) (deviceView { id := "olt", type := .olt }) ∧
      (traceL3PathToAnchor (topology tracedNetwork)
        (deviceView { id := "olt", type := .olt })).ok = true ∧
      (traceL3PathToAnchor (topology tracedNetwork)
        (deviceView { id := "edge", type := .edgeRouter, vrfId := some 1 })).ok = true := by
  have hrows : ReorderedRows (topology tracedNetwork) (topology tracedNetworkReversed) :=
    ⟨.refl _, List.reverse_perm _, .refl _, .refl _, .refl _⟩
  have hedge : (traceL3PathToAnchor (topology tracedNetwork)
      (deviceView { id := "edge", type := .edgeRouter, vrfId := some 1 })).ok = true :=
    (traceL3PathToAnchor_choices tracedNetwork (by decide)
      { id := "edge", type := .edgeRouter, vrfId := some 1 } (by decide)).2.2 rfl
        (routeFault_tracedNetwork _ (by decide))
        { id := 1, vrfId := 1, pfx := "0.0.0.0/0", nextHop := some "10.0.0.1",
          interfaceId := some "edge-0" }
        (deviceView { id := "gw", type := .backboneGateway })
        ⟨by decide +kernel, by decide +kernel⟩ (by decide +kernel) (by decide +kernel)
  obtain ⟨horder, haccess, _⟩ := traceL3PathToAnchor_choices tracedNetwork (by decide)
    { id := "olt", type := .olt } (by decide)
  refine ⟨horder _ hrows (fun x hx _ ↦ unambiguous_tracedNetwork hx), (haccess rfl).1 ?_ ?_, hedge⟩
  · exact ⟨deviceView { id := "edge", type := .edgeRouter, vrfId := some 1 },
      by decide +kernel, Or.inl rfl⟩
  · intro p hp
    rw [candidate_tracedNetwork hp]
    exact hedge

/-- A router with a good default route and one on an interface that is admin-down; an OLT next to this
router and to the anchor; a switch next to the router and the OLT. -/
def greedyNetwork : Database where
  devices := [{ id := "gw", type := .backboneGateway },
    { id := "edge", type := .edgeRouter, vrfId := some 1 },
    { id := "olt", type := .olt }, { id := "switch", type := .aonSwitch }]
  interfaces := [{ id := "gw-0", deviceId := "gw", name := "0" },
    { id := "gw-1", deviceId := "gw", name := "1" },
    { id := "edge-0", deviceId := "edge", name := "0" },
    { id := "edge-1", deviceId := "edge", name := "1", adminStatus := .down },
    { id := "edge-2", deviceId := "edge", name := "2" },
    { id := "edge-3", deviceId := "edge", name := "3" },
    { id := "olt-0", deviceId := "olt", name := "0" },
    { id := "olt-1", deviceId := "olt", name := "1" },
    { id := "olt-2", deviceId := "olt", name := "2" },
    { id := "switch-0", deviceId := "switch", name := "0" },
    { id := "switch-1", deviceId := "switch", name := "1" }]
  links := [{ id := "l0", aInterfaceId := "gw-0", bInterfaceId := "edge-0" },
    { id := "l1", aInterfaceId := "edge-2", bInterfaceId := "olt-0" },
    { id := "l2", aInterfaceId := "gw-1", bInterfaceId := "olt-1" },
    { id := "l3", aInterfaceId := "edge-3", bInterfaceId := "switch-0" },
    { id := "l4", aInterfaceId := "olt-2", bInterfaceId := "switch-1" }]
  routes := [
    { id := 1, vrfId := 1, pfx := "0.0.0.0/0", nextHop := some "10.0.0.1",
      interfaceId := some "edge-0" },
    { id := 2, vrfId := 1, pfx := "0.0.0.0/0", nextHop := some "10.0.0.9",
      interfaceId := some "edge-1", metric := 5 }]

/-- The same network with its interfaces in the other order. -/
def greedyNetworkReversed : Database :=
  { greedyNetwork with
    interfaces := greedyNetwork.interfaces.reverse
    interfaces_nodup := by decide }

/-- The row order decides which of two routers the OLT goes on to. The switch goes on to the router,
which fails, although the OLT next to it traces to the anchor. The router fails on its worse route,
although its best usable one leads to the anchor. -/
theorem traceL3PathToAnchor_choices_fail :
    (ReorderedRows (topology greedyNetwork) (topology greedyNetworkReversed) ∧
      (traceL3PathToAnchor (topology greedyNetwork)
        (deviceView { id := "olt", type := .olt })).ok = false ∧
      (traceL3PathToAnchor (topology greedyNetworkReversed)
        (deviceView { id := "olt", type := .olt })).ok = true) ∧
    (deviceView { id := "olt", type := .olt } ∈ accessPeers (topology greedyNetworkReversed)
        (deviceView { id := "switch", type := .aonSwitch }) ∧
      traceL3PathToAnchor (topology greedyNetworkReversed)
        (deviceView { id := "olt", type := .olt }) = ⟨true, none, ["olt", "gw"]⟩ ∧
      (traceL3PathToAnchor (topology greedyNetworkReversed)
        (deviceView { id := "switch", type := .aonSwitch })).ok = false) ∧
    ((routesVia (topology greedyNetwork)
        (deviceView { id := "edge", type := .edgeRouter, vrfId := some 1 })
        (defaultRoutes (topology greedyNetwork)
          (deviceView { id := "edge", type := .edgeRouter, vrfId := some 1 }))).map
            (fun r ↦ (r.id, routeFault (topology greedyNetwork) r)) =
          [(1, none), (2, some .egressAdminDown)] ∧
      resolvePeerViaIf (topology greedyNetwork) "edge-0" "10.0.0.1" =
        some (deviceView { id := "gw", type := .backboneGateway }) ∧
      (traceL3PathToAnchor (topology greedyNetwork)
        (deviceView { id := "gw", type := .backboneGateway })).ok = true ∧
      (traceL3PathToAnchor (topology greedyNetwork)
        (deviceView { id := "edge", type := .edgeRouter, vrfId := some 1 })).ok = false) := by
  refine ⟨⟨⟨.refl _, List.reverse_perm _, .refl _, .refl _, .refl _⟩, ?_, ?_⟩, ⟨?_, ?_, ?_⟩,
    ?_, ?_, ?_, ?_⟩ <;> decide +kernel

end Unoc.Status
