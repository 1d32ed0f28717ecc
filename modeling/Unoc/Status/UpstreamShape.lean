import Unoc.Status.UpstreamChain

/-!
# Shape of an upstream chain

A shortest path of the logical graph to a router and the trace of that router share no device but
the router. A router on both would be a nearer entry. An access device on the trace comes right
after a router, so it has a router among its peers and goes on to one, over a link that is also an
edge of the logical graph, and that router would be a nearer entry.
-/

namespace Unoc.Status

open Unoc.Base Unoc.Model

variable {t : Topology} {dev p q : DeviceView} {path : List DeviceView} {a b : String}

/-! ### Access devices on a trace -/

private theorem PassableBetween.symm {i j : Interface} {l : Link} (h : PassableBetween t i j l) :
    PassableBetween t j i l :=
  ⟨h.mem, h.passable, h.joins.symm⟩

private theorem PassableBetween.peerInterface_eq {i j : Interface} {l : Link}
    (h : PassableBetween t i j l) : peerInterface i.id l = j.id := by
  unfold peerInterface
  rcases h.joins with ⟨ha, hb⟩ | ⟨ha, hb⟩
  · rw [if_pos ha, hb]
  · split
    · next hai => rw [hb, ← hai, ha]
    · exact ha

/-- Both interfaces of a passable link have their device rows. -/
theorem PassableBetween.interfaceDevice_eq {i j : Interface} {l : Link}
    (h : PassableBetween t i j l) (hi : i ∈ t.interfaces) (hdev : dev ∈ t.devices)
    (hid : i.deviceId = dev.id) : interfaceDevice t i.id = some dev := by
  obtain ⟨x, y, hx, hy, _⟩ := traceLinkPassable_iff.mp h.passable
  have hsome : ∃ d, interfaceDevice t i.id = some d := by
    rcases h.joins with ⟨ha, _⟩ | ⟨_, hb⟩
    · exact ⟨x, ha ▸ hx⟩
    · exact ⟨y, hb ▸ hy⟩
  obtain ⟨d, hd⟩ := hsome
  have hget : t.getInterface i.id = some i := Topology.getInterface_eq_some.mpr ⟨hi, rfl⟩
  obtain ⟨_, _, _, hmem⟩ := interfaceDevice_eq_some.mp hd
  have heq : d.id = dev.id := (deviceId_of_interfaceDevice hget hd).trans hid
  rw [hd, Topology.device_unique hmem hdev heq]

/-- A router is a peer of the device that it goes on to. -/
theorem mem_accessPeers_of_routerUpstream (hroutes : ∀ r ∈ t.routes, r.interfaceId ≠ some "")
    (hdev : dev ∈ t.devices) (hclass : routerClass dev.type = true)
    (h : routerUpstream t dev = .ok p) : dev ∈ accessPeers t p := by
  obtain ⟨i, hi, j, hj, l, hidev, hjdev, hbetween, hegress⟩ := traceHop_of_routerUpstream h
  obtain ⟨r, hr, hri⟩ := hegress hclass
  have hne : i.id ≠ "" := fun heq ↦ hroutes r (mem_routes_of_via hr.mem) (by rw [hri, heq])
  have hback := hbetween.symm
  have hlink : l ∈ passableLinks t j.id :=
    mem_passableLinks.mpr ⟨hback.mem, hback.joins.imp And.left And.right, hback.passable⟩
  refine mem_accessPeers.mpr ⟨j, hj, hjdev, l, hlink, ?_, ?_⟩
  · rwa [hback.peerInterface_eq]
  · rw [hback.peerInterface_eq]
    exact hbetween.interfaceDevice_eq hi hdev hidev

/-- An access device with a router among its peers goes on to a router. -/
theorem routerClass_of_accessUpstream (h : accessUpstream t dev = some p)
    (hq : q ∈ accessPeers t dev) (hrouter : routerClass q.type = true) :
    routerClass p.type = true := by
  rcases (upstreamCandidate_of_accessUpstream h).2 with hp | hnone
  · exact hp
  · rw [hnone q hq] at hrouter
    cases hrouter

/-- On the trace of a router each access device is followed by a router. -/
theorem TracePath.alternates (hroutes : ∀ r ∈ t.routes, r.interfaceId ≠ some "")
    (h : TracePath t dev path) : dev ∈ t.devices →
      (routerClass dev.type = true ∨ ∃ q ∈ accessPeers t dev, routerClass q.type = true) →
        ∀ x ∈ path, routerClass x.type = true ∨
          ¬ IsAnchor x ∧ ∃ y, traceNext t x = some y ∧ routerClass y.type = true := by
  induction h with
  | @goal dev h =>
    intro _ _ x hx
    obtain rfl := List.mem_singleton.mp hx
    exact Or.inl (by simp [routerClass, h.2])
  | @step dev b path hgoal hnext _ ih =>
    intro hdev hstart
    obtain ⟨_, _, hhop⟩ := traceNext_eq_some.mp hnext
    have hb : b ∈ t.devices := (peer_of_nextHop hhop).mem
    rcases (nextHop_eq_ok.mp hhop).2 with ⟨hclass, hup⟩ | ⟨hclass, hup⟩
    · have hpeers := mem_accessPeers_of_routerUpstream hroutes hdev hclass hup
      exact List.forall_mem_cons.mpr ⟨Or.inl hclass, ih hb (Or.inr ⟨dev, hpeers, hclass⟩)⟩
    · obtain ⟨q, hq, hrouter⟩ := hstart.resolve_left (by simp [hclass])
      have hbclass := routerClass_of_accessUpstream hup hq hrouter
      exact List.forall_mem_cons.mpr ⟨Or.inr ⟨hgoal, b, hnext, hbclass⟩, ih hb (Or.inl hbclass)⟩

/-! ### Nodes of the logical graph -/

private theorem recordIds_mono {P Q : DeviceType → Bool}
    (hPQ : ∀ type, P type = true → Q type = true)
    (h : a ∈ recordIds P (deviceRecords t)) : a ∈ recordIds Q (deviceRecords t) := by
  obtain ⟨d, hd, hid, hup, hP⟩ := mem_recordIds.mp h
  exact mem_recordIds.mpr ⟨d, hd, hid, hup, hPQ _ hP⟩

private theorem logicalActive_of_routerClass (type : DeviceType) (h : routerClass type = true) :
    logicalActive type = true := by
  cases type <;> first | rfl | cases h

private theorem logicalActive_of_ontClass (type : DeviceType) (h : ontClass type = true) :
    logicalActive type = true := by
  cases type <;> first | rfl | cases h

/-- Edges of the logical graph join its nodes. -/
theorem mem_logicalEdges (h : (a, b) ∈ logicalEdges (deviceRecords t) (linkRecords t)) :
    a ∈ recordIds logicalActive (deviceRecords t) ∧
      b ∈ recordIds logicalActive (deviceRecords t) := by
  rcases List.mem_append.mp h with h | h
  · obtain ⟨ha, hb, _⟩ := mem_recordEdges.mp h
    exact ⟨ha, hb⟩
  · obtain ⟨hont, holt⟩ := mem_collapsedEdges.mp h
    refine ⟨recordIds_mono logicalActive_of_ontClass hont, ?_⟩
    refine recordIds_mono (fun type htype ↦ ?_) (shortestOpticalOlt_mem holt)
    simp [logicalActive, of_decide_eq_true htype]

/-- A walk from a node of the logical graph ends in one. -/
theorem mem_of_logicalWalk {w : List String} (h : Walk (LogicalAdjacent t) a b w)
    (ha : a ∈ recordIds logicalActive (deviceRecords t)) :
    b ∈ recordIds logicalActive (deviceRecords t) := by
  cases h with
  | root => exact ha
  | step _ hstep =>
    rcases hstep with hstep | hstep
    · exact (mem_logicalEdges hstep).2
    · exact (mem_logicalEdges hstep).1

/-- A usable FIBER or P2P link between nodes of the logical graph is an edge of it. -/
theorem logicalAdjacent_of_usable (hkinds : ∀ l ∈ t.links, l.kind = .fiber ∨ l.kind = .p2p)
    (h : Adjacent (usableEdges t) a b) (ha : a ∈ recordIds logicalActive (deviceRecords t))
    (hb : b ∈ recordIds logicalActive (deviceRecords t)) : LogicalAdjacent t a b := by
  have hedge : ∀ {a b}, (a, b) ∈ usableEdges t → a ∈ recordIds logicalActive (deviceRecords t) →
      b ∈ recordIds logicalActive (deviceRecords t) →
        (a, b) ∈ logicalEdges (deviceRecords t) (linkRecords t) := by
    intro a b hab ha hb
    obtain ⟨r, hr, heq⟩ := List.mem_map.mp hab
    obtain ⟨rfl, rfl⟩ := Prod.mk.inj heq
    obtain ⟨l, hl, hrecord⟩ := List.mem_filterMap.mp hr
    have hkind : r.kind = l.kind := (linkRecord_eq_some.mp hrecord).2.2.2.2.2.2
    refine List.mem_append_left _ (mem_recordEdges.mpr ⟨ha, hb, r, hr, ?_, rfl, rfl⟩)
    simpa [hkind] using hkinds l hl
  exact h.imp (fun h ↦ hedge h ha hb) (fun h ↦ hedge h hb ha)

/-! ### The chain -/

/-- A device row of a router, where a logical path may go over into a trace. -/
def RouterRow (t : Topology) (r : DeviceView) : Prop := r ∈ t.devices ∧ routerClass r.type = true

/-- A logical path from a device to a router and the path of the router's trace. -/
abbrev Continued (t : Topology) :=
  Joined (LogicalAdjacent t) DeviceView.id (RouterRow t) (traceNext t) IsAnchor

private theorem concatenation_iff {deviceId : String} {c : List String} :
    Concatenation t deviceId c ↔
      ∃ r w path, Continued t deviceId r w path ∧ c = w ++ path.tail.map DeviceView.id := by
  constructor
  · rintro ⟨r, hr, hclass, hok, w, hw, rfl⟩
    obtain ⟨path, hpath, htrace⟩ := tracePath_of_ok hr hok
    exact ⟨r, w, path, ⟨⟨hr, hclass⟩, hw, hpath⟩, by rw [htrace, List.map_tail]⟩
  · rintro ⟨r, w, path, h, rfl⟩
    obtain ⟨hr, hclass⟩ := h.entry
    have htrace := TracePath.trace_eq h.path hr
    exact ⟨r, hr, hclass, by rw [htrace], w, h.walk, by rw [htrace, List.map_tail]⟩

/-- A device that a logical path and a trace share is a router or next to the following router. -/
theorem shortcut_of_walk (hkinds : ∀ l ∈ t.links, l.kind = .fiber ∨ l.kind = .p2p)
    (hroutes : ∀ r ∈ t.routes, r.interfaceId ≠ some "")
    (ha : a ∈ recordIds logicalActive (deviceRecords t)) (h : TracePath t dev path)
    (hdev : RouterRow t dev) {x : DeviceView} (hx : x ∈ path) {w : List String}
    (hw : Walk (LogicalAdjacent t) a x.id w) :
    Shortcut (LogicalAdjacent t) DeviceView.id (RouterRow t) (traceNext t) IsAnchor x := by
  have hmem := h.mem_devices hdev.1 x hx
  rcases h.alternates hroutes hdev.1 (Or.inl hdev.2) x hx with hclass | ⟨hgoal, y, hnext, hclass⟩
  · exact Or.inl ⟨hmem, hclass⟩
  · obtain ⟨_, _, hhop⟩ := traceNext_eq_some.mp hnext
    have hpeer := peer_of_nextHop hhop
    have hy : y.id ∈ recordIds logicalActive (deviceRecords t) :=
      mem_recordIds.mpr ⟨y, hpeer.mem, rfl, (nextHop_eq_ok.mp hhop).1,
        logicalActive_of_routerClass _ hclass⟩
    refine Or.inr ⟨hgoal, y, hnext, ⟨hpeer.mem, hclass⟩, ?_⟩
    exact logicalAdjacent_of_usable hkinds hpeer.adjacent (mem_of_logicalWalk hw ha) hy

/-- A shortest concatenation goes from the device to a backbone gateway and repeats no device. -/
theorem shape_of_shortest (hkinds : ∀ l ∈ t.links, l.kind = .fiber ∨ l.kind = .p2p)
    (hroutes : ∀ r ∈ t.routes, r.interfaceId ≠ some "")
    (ha : a ∈ recordIds logicalActive (deviceRecords t)) {c : List String}
    (hc : Concatenation t a c) (hmin : ∀ c', Concatenation t a c' → c.length ≤ c'.length) :
    c.head? = some a ∧ c.Nodup ∧
      ∃ g ∈ t.devices, g.type = .backboneGateway ∧ c.getLast? = some g.id := by
  obtain ⟨r, w, path, h, rfl⟩ := concatenation_iff.mp hc
  have hsound := TracePath.soundPath h.path h.entry.1
  obtain ⟨hhead, hlast, _⟩ := Walk.iff_isChain.mp h.walk
  refine ⟨?_, ?_, ?_⟩
  · rw [List.head?_append, hhead]
    rfl
  · apply h.nodup_of_shortest hsound.nodup
    · intro x hx q hq
      exact shortcut_of_walk hkinds hroutes ha h.path h.entry (List.mem_of_mem_tail hx) hq
    · intro r' w' path' h'
      exact hmin _ (concatenation_iff.mpr ⟨r', w', path', h', rfl⟩)
  · obtain ⟨g, hg, htype⟩ := hsound.last
    refine ⟨g, hsound.rows g (List.mem_of_mem_getLast? hg), htype, ?_⟩
    obtain ⟨rest, rfl⟩ := h.path.exists_cons
    rw [List.tail_cons, List.getLast?_append, hlast, List.getLast?_map]
    cases rest with
    | nil =>
      rw [List.getLast?_singleton, Option.some.injEq] at hg
      rw [hg]
      rfl
    | cons y rest =>
      rw [List.getLast?_cons_cons] at hg
      rw [hg]
      rfl

/-- The shape of a reported upstream: from the device to the reported anchor, a backbone gateway,
without repetition and of least length. -/
structure UpstreamShape (db : Database) (deviceId : String) (res : UpstreamL3Chain) : Prop where
  head : res.chain.head? = some deviceId
  anchor : ∃ g ∈ db.devices, g.type = .backboneGateway ∧ res.anchor = some g.id ∧
    res.chain.getLast? = some g.id
  nodup : res.chain.Nodup
  concatenation : Concatenation (topology db) deviceId res.chain
  shortest : ∀ c, Concatenation (topology db) deviceId c → res.chain.length ≤ c.length

/-- The upstream of every access device has this shape, where no route leaves through an interface
whose id is empty. -/
theorem hasUpstreamL3OrAnchorChain_shape (db : Database) (d : Device)
    (shortestPath : List (String × String) → String → String → Option (List String))
    (hshortest : FindsShortest (topology db) shortestPath d.id)
    (hkinds : ∀ l ∈ db.links, l.kind = .fiber ∨ l.kind = .p2p)
    (hroutes : ∀ r ∈ db.routes, r.interfaceId ≠ some "") (hclass : routerClass d.type = false)
    (hok : (hasUpstreamL3OrAnchorChain (topology db) shortestPath (deviceView d)).ok = true) :
    UpstreamShape db d.id
      (hasUpstreamL3OrAnchorChain (topology db) shortestPath (deviceView d)) := by
  obtain ⟨hd, best, hbest, hres⟩ := leastCandidate_of_ok hclass hok
  obtain ⟨hconcat, hmin⟩ := shortest_of_leastCandidate hshortest hbest
  obtain ⟨hhead, hnodup, g, hg, htype, hlast⟩ := shape_of_shortest hkinds hroutes hd hconcat hmin
  obtain ⟨g', hg', rfl⟩ := List.mem_map.mp hg
  rw [hres]
  exact ⟨hhead, ⟨g', hg', htype, by rw [hlast]; rfl, hlast⟩, hnodup, hconcat, hmin⟩

/-! ### Two networks -/

/-- Shortest paths from a source that is next to all it reaches. -/
def neighborPath (_ : List (String × String)) (source target : String) : Option (List String) :=
  some (if target = source then [source] else [source, target])

private theorem findsShortest_neighborPath
    (h : ∀ target ∈ affectedIds (logicalEdges (deviceRecords t) (linkRecords t)) [a],
      target = a ∨ target ∈ neighbors (logicalEdges (deviceRecords t) (linkRecords t)) a) :
    FindsShortest t neighborPath a := by
  intro target hreach
  have hmem := mem_affectedIds.mpr ⟨a, List.mem_singleton_self a, hreach⟩
  by_cases heq : target = a
  · subst heq
    refine ⟨[target], by simp [neighborPath], .root, fun q hq ↦ ?_⟩
    exact hq.length_pos
  · have hadj : LogicalAdjacent t a target := mem_neighbors.mp ((h target hmem).resolve_left heq)
    refine ⟨[a, target], by simp [neighborPath, heq], Walk.root.step hadj, fun q hq ↦ ?_⟩
    obtain ⟨hhead, hlast, _⟩ := Walk.iff_isChain.mp hq
    match q with
    | [x] =>
      simp only [List.head?_cons, List.getLast?_singleton, Option.some.injEq] at hhead hlast
      exact absurd (hlast.symm.trans hhead) heq
    | _ :: _ :: _ => simp

/-- An OLT below an EDGE router whose default route leads to the anchor through an ODF. -/
def routedNetwork : Database where
  devices := [{ id := "gw", type := .backboneGateway },
    { id := "edge", type := .edgeRouter, vrfId := some 1 },
    { id := "olt", type := .olt }, { id := "odf", type := .odf }]
  interfaces := [{ id := "gw-0", deviceId := "gw", name := "0" },
    { id := "edge-0", deviceId := "edge", name := "0" },
    { id := "edge-1", deviceId := "edge", name := "1" },
    { id := "olt-0", deviceId := "olt", name := "0" },
    { id := "odf-0", deviceId := "odf", name := "0" },
    { id := "odf-1", deviceId := "odf", name := "1" }]
  links := [{ id := "l0", aInterfaceId := "edge-0", bInterfaceId := "olt-0" },
    { id := "l1", aInterfaceId := "edge-1", bInterfaceId := "odf-1" },
    { id := "l2", aInterfaceId := "odf-0", bInterfaceId := "gw-0" }]
  routes := [{ id := 1, vrfId := 1, pfx := "0.0.0.0/0", nextHop := some "10.0.0.1",
               interfaceId := some "edge-1" }]

/-- The answer for an OLT behind a router. -/
theorem hasUpstreamL3OrAnchorChain_shape_routedNetwork :
    UpstreamShape routedNetwork "olt"
      (hasUpstreamL3OrAnchorChain (topology routedNetwork) neighborPath
        (deviceView { id := "olt", type := .olt })) :=
  hasUpstreamL3OrAnchorChain_shape routedNetwork { id := "olt", type := .olt } neighborPath
    (findsShortest_neighborPath (by decide +kernel)) (by decide) (by decide) rfl
    (by decide +kernel)

/-- A router whose default route leaves through an interface without an id, to an OLT that goes on
through an ODF. -/
def unnamedEgressNetwork : Database where
  devices := [{ id := "gw", type := .backboneGateway },
    { id := "edge", type := .edgeRouter, vrfId := some 1 },
    { id := "olt", type := .olt }, { id := "odf", type := .odf }]
  interfaces := [{ id := "gw-0", deviceId := "gw", name := "0" },
    { id := "", deviceId := "edge", name := "0" },
    { id := "olt-0", deviceId := "olt", name := "0" },
    { id := "olt-1", deviceId := "olt", name := "1" },
    { id := "odf-0", deviceId := "odf", name := "0" },
    { id := "odf-1", deviceId := "odf", name := "1" }]
  links := [{ id := "l0", aInterfaceId := "", bInterfaceId := "olt-0" },
    { id := "l1", aInterfaceId := "olt-1", bInterfaceId := "odf-1" },
    { id := "l2", aInterfaceId := "odf-0", bInterfaceId := "gw-0" }]
  routes := [{ id := 1, vrfId := 1, pfx := "0.0.0.0/0", nextHop := some "10.0.0.1",
               interfaceId := some "" }]

/-- The OLT does not see the router behind the interface without an id as a peer, so the trace of the
router comes back through the OLT. -/
theorem hasUpstreamL3OrAnchorChain_repeats :
    { id := "olt", type := .olt } ∈ unnamedEgressNetwork.devices ∧ routerClass .olt = false ∧
      FindsShortest (topology unnamedEgressNetwork) neighborPath "olt" ∧
      (∀ l ∈ unnamedEgressNetwork.links, l.kind = .fiber ∨ l.kind = .p2p) ∧
      hasUpstreamL3OrAnchorChain (topology unnamedEgressNetwork) neighborPath
          (deviceView { id := "olt", type := .olt }) =
        ⟨true, some "gw", ["olt", "edge", "olt", "odf", "gw"], []⟩ ∧
      ¬ UpstreamShape unnamedEgressNetwork "olt"
        (hasUpstreamL3OrAnchorChain (topology unnamedEgressNetwork) neighborPath
          (deviceView { id := "olt", type := .olt })) := by
  have hres : hasUpstreamL3OrAnchorChain (topology unnamedEgressNetwork) neighborPath
      (deviceView { id := "olt", type := .olt }) =
        ⟨true, some "gw", ["olt", "edge", "olt", "odf", "gw"], []⟩ := by
    decide +kernel
  refine ⟨by decide, rfl, findsShortest_neighborPath (by decide +kernel), by decide, hres,
    fun h ↦ ?_⟩
  have hnodup := h.nodup
  rw [hres] at hnodup
  exact absurd hnodup (by decide)

end Unoc.Status
