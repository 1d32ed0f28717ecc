import Unoc.Status.TracePath

/-!
# Soundness of the L3 trace

Every hop of a successful trace crosses a passable link, at a router through the egress of its least
default route. The chain therefore names a path of running devices from the device to a backbone
gateway.
-/

namespace Unoc.Status

open Unoc.Base Unoc.Model

variable {t : Topology} {dev peer p : DeviceView} {path : List DeviceView}

/-- A passable link between two interfaces. -/
structure PassableBetween (t : Topology) (i j : Interface) (l : Link) : Prop where
  mem : l ∈ t.links
  passable : traceLinkPassable t l = true
  joins : (l.aInterfaceId = i.id ∧ l.bInterfaceId = j.id) ∨
    (l.aInterfaceId = j.id ∧ l.bInterfaceId = i.id)

/-- A least route by distance, metric and id among the default routes of the VRF of a router that
leave through its interfaces. -/
structure LeastDefault (t : Topology) (dev : DeviceView) (r : Route) : Prop where
  mem : r ∈ routesVia t dev (defaultRoutes t dev)
  le : ∀ r' ∈ routesVia t dev (defaultRoutes t dev), routeKey r ≤ routeKey r'

/-- A peer of the class that an access device prefers: a router, or any peer if none is a router. -/
def UpstreamCandidate (t : Topology) (dev p : DeviceView) : Prop :=
  p ∈ accessPeers t dev ∧
    (routerClass p.type = true ∨ ∀ q ∈ accessPeers t dev, routerClass q.type = false)

/-- The upstream of an access device is a candidate. -/
theorem upstreamCandidate_of_accessUpstream (h : accessUpstream t dev = some p) :
    UpstreamCandidate t dev p := by
  refine ⟨mem_of_accessUpstream h, ?_⟩
  unfold accessUpstream at h
  rcases Option.or_eq_some_iff.mp h with h | ⟨hnone, _⟩
  · exact Or.inl (by simpa using List.find?_some h)
  · refine Or.inr fun q hq ↦ ?_
    simpa using List.find?_eq_none.mp hnone q hq

/-- An access device without peers has no upstream. -/
theorem accessUpstream_eq_none : accessUpstream t dev = none ↔ accessPeers t dev = [] := by
  unfold accessUpstream
  rw [Option.or_eq_none_iff, List.head?_eq_none_iff]
  constructor
  · exact fun h ↦ h.2
  · intro h
    simp [h]

/-- A hop over a passable link, at a router through the egress of its least default route. -/
def TraceHop (t : Topology) (dev peer : DeviceView) : Prop :=
  ∃ i ∈ t.interfaces, ∃ j ∈ t.interfaces, ∃ l, i.deviceId = dev.id ∧ j.deviceId = peer.id ∧
    PassableBetween t i j l ∧
      (routerClass dev.type = true → ∃ r, LeastDefault t dev r ∧ r.interfaceId = some i.id)

/-- The devices of a chain that a trace may report. -/
structure SoundPath (t : Topology) (dev : DeviceView) (path : List DeviceView) : Prop where
  rows : ∀ x ∈ path, x ∈ t.devices
  head : path.head? = some dev
  last : ∃ anchor, path.getLast? = some anchor ∧ anchor.type = .backboneGateway
  nodup : (path.map DeviceView.id).Nodup
  up : ∀ x ∈ path, x.forcedDown = false
  vrf : ∀ x ∈ path.dropLast, x.type = .coreRouter ∨ x.type = .edgeRouter → x.vrfId ≠ none
  hops : path.IsChain (TraceHop t)

/-- The far end of a passable link is an interface of the device found there. -/
theorem exists_passableBetween {i : Interface} {l : Link} (hl : l ∈ passableLinks t i.id)
    (hpeer : interfaceDevice t (peerInterface i.id l) = some peer) :
    ∃ j ∈ t.interfaces, j.deviceId = peer.id ∧ PassableBetween t i j l := by
  obtain ⟨hmem, hend, hpass⟩ := mem_passableLinks.mp hl
  obtain ⟨j, hj, hid, _⟩ := interfaceDevice_eq_some.mp hpeer
  obtain ⟨hjmem, hjid⟩ := Topology.getInterface_eq_some.mp hj
  refine ⟨j, hjmem, eq_of_truthy hid, hmem, hpass, ?_⟩
  unfold peerInterface at hjid
  split at hjid
  · next hla => exact Or.inl ⟨hla, hjid.symm⟩
  · next hla => exact Or.inr ⟨hjid.symm, hend.resolve_left hla⟩

/-- The upstream of a router is a hop of the trace. -/
theorem traceHop_of_routerUpstream (h : routerUpstream t dev = .ok peer) : TraceHop t dev peer := by
  obtain ⟨_, r, hr, hpeer⟩ := routerUpstream_eq_ok.mp h
  obtain ⟨hmem, hle⟩ := leastBy_spec hr
  obtain ⟨_, i, hri, hget, hdev⟩ := mem_routesVia.mp hmem
  rw [hri, Option.getD_some] at hpeer
  obtain ⟨l, hl, hpeer⟩ := link_of_resolvePeerViaIf hpeer
  have hi : i ∈ t.interfaces := (Topology.getInterface_eq_some.mp hget).1
  obtain ⟨j, hj, hjdev, hbetween⟩ := exists_passableBetween hl hpeer
  exact ⟨i, hi, j, hj, l, hdev, hjdev, hbetween, fun _ ↦ ⟨r, ⟨hmem, hle⟩, hri⟩⟩

private theorem traceHop_of_nextHop (h : nextHop t dev = .ok peer) : TraceHop t dev peer := by
  rcases (nextHop_eq_ok.mp h).2 with ⟨_, hup⟩ | ⟨hclass, hup⟩
  · exact traceHop_of_routerUpstream hup
  · obtain ⟨i, hi, hdev, l, hl, _, hpeer⟩ := mem_accessPeers.mp (mem_of_accessUpstream hup)
    obtain ⟨j, hj, hjdev, hbetween⟩ := exists_passableBetween hl hpeer
    refine ⟨i, hi, j, hj, l, hdev, hjdev, hbetween, fun hrouter ↦ ?_⟩
    rw [hclass] at hrouter
    cases hrouter

private theorem vrf_of_needsVrf (h : needsVrf dev = false)
    (htype : dev.type = .coreRouter ∨ dev.type = .edgeRouter) : dev.vrfId ≠ none := by
  intro hvrf
  simp [needsVrf, htype, hvrf] at h

/-- The path of a trace is sound. -/
theorem TracePath.soundPath (h : TracePath t dev path) (hdev : dev ∈ t.devices) :
    SoundPath t dev path := by
  obtain ⟨init, anchor, hsplit, hanchor, _⟩ := h.exists_concat
  have hlive : ∀ x ∈ init, x.forcedDown = false ∧ needsVrf x = false := by
    intro x hx
    obtain ⟨y, hxy⟩ := h.exists_next hsplit hx
    obtain ⟨hup, hvrf, _⟩ := traceNext_eq_some.mp hxy
    exact ⟨hup, hvrf⟩
  refine ⟨h.mem_devices hdev, h.head?, ⟨anchor, by simp [hsplit], hanchor.2⟩, h.nodup_ids hdev,
    ?_, ?_, ?_⟩
  · intro x hx
    rw [hsplit] at hx
    rcases List.mem_append.mp hx with hx | hx
    · exact (hlive x hx).1
    · rw [List.mem_singleton.mp hx]
      exact hanchor.1
  · intro x hx
    rw [hsplit, List.dropLast_concat] at hx
    exact vrf_of_needsVrf (hlive x hx).2
  · exact h.isChain.imp fun _ _ hstep ↦ traceHop_of_nextHop (traceNext_eq_some.mp hstep).2.2

/-- The trace of every device ends, and a chain that it reports as a path to an anchor is one. -/
theorem traceL3PathToAnchor_sound (db : Database) (d : Device) (hd : d ∈ db.devices) :
    StepReturns (topology db) [] [d.id] (deviceView d)
        (traceStep (topology db) (db.devices.length + 2) [] [d.id] (deviceView d)) ∧
      ((traceL3PathToAnchor (topology db) (deviceView d)).ok = true →
        ∃ path, (traceL3PathToAnchor (topology db) (deviceView d)).chain = path.map DeviceView.id ∧
          SoundPath (topology db) (deviceView d) path) := by
  have hdev : deviceView d ∈ (topology db).devices := List.mem_map_of_mem hd
  have hlen : (topology db).devices.length = db.devices.length := List.length_map _
  constructor
  · rw [← hlen]
    exact stepReturns_traceL3PathToAnchor hdev
  · intro hok
    obtain ⟨path, hpath, htrace⟩ := tracePath_of_ok hdev hok
    exact ⟨path, by rw [htrace], hpath.soundPath hdev⟩

/-- An OLT below an EDGE router with two default routes, and the anchor behind the better one. -/
def tracedNetwork : Database where
  devices := [{ id := "gw", type := .backboneGateway },
    { id := "edge", type := .edgeRouter, vrfId := some 1 },
    { id := "olt", type := .olt }]
  interfaces := [{ id := "gw-0", deviceId := "gw", name := "0" },
    { id := "edge-0", deviceId := "edge", name := "0" },
    { id := "edge-1", deviceId := "edge", name := "1" },
    { id := "olt-0", deviceId := "olt", name := "0" }]
  links := [{ id := "l0", aInterfaceId := "gw-0", bInterfaceId := "edge-0" },
    { id := "l1", aInterfaceId := "olt-0", bInterfaceId := "edge-1" }]
  routes := [
    { id := 2, vrfId := 1, pfx := "0.0.0.0/0", nextHop := some "10.0.0.9",
      interfaceId := some "edge-1", metric := 5 },
    { id := 1, vrfId := 1, pfx := "0.0.0.0/0", nextHop := some "10.0.0.1",
      interfaceId := some "edge-0" }]

/-- The chain of an OLT behind a router. -/
theorem traceL3PathToAnchor_sound_tracedNetwork :
    ∃ path, (traceL3PathToAnchor (topology tracedNetwork)
        (deviceView { id := "olt", type := .olt })).chain = path.map DeviceView.id ∧
      SoundPath (topology tracedNetwork)
        (deviceView { id := "olt", type := .olt }) path :=
  (traceL3PathToAnchor_sound tracedNetwork { id := "olt", type := .olt }
    (by decide)).2 (by decide)

end Unoc.Status
