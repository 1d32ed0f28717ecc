import Unoc.Traffic.Adjacency

/-!
# What the adjacency graph says about the cache

The graph that `BuildAdjacency` leaves behind, whatever order its loops took: neighbours are the
devices joined by a passable link, and a pair holds the last passable link that some interface
lists for it.
-/

namespace Unoc.Traffic

open Unoc.Model

/-! ### Passable links -/

/-- Device that owns an interface, as `IfaceDevice` reads. -/
def ifaceDevice (cache : TopologyCache) (interfaceID : String) : String :=
  ((cache.interfaceByID.lookup interfaceID).map Interface.deviceId).getD ""

/-- A device is forced down by its admin override. -/
def forcedDown (cache : TopologyCache) (deviceID : String) : Bool :=
  (cache.deviceByID.lookup deviceID).any (fun d ↦ d.adminOverrideStatus = some .down)

/-- A link that `BuildAdjacency` turns into an edge. -/
def passable (cache : TopologyCache) (ln : Link) : Bool :=
  (match ln.adminOverrideStatus with
    | some status => status = .up
    | none => !forcedDown cache (ifaceDevice cache ln.aInterfaceId) &&
      !forcedDown cache (ifaceDevice cache ln.bInterfaceId) && ln.status = .up) &&
  ifaceDevice cache ln.aInterfaceId ≠ "" && ifaceDevice cache ln.bInterfaceId ≠ ""

/-- The pair of devices a link joins. -/
def pairKey (cache : TopologyCache) (ln : Link) : String :=
  makePairKey (ifaceDevice cache ln.aInterfaceId) (ifaceDevice cache ln.bInterfaceId)

/-- A link joins two devices, in either direction. -/
def Joins (cache : TopologyCache) (ln : Link) (u v : String) : Prop :=
  (ifaceDevice cache ln.aInterfaceId = u ∧ ifaceDevice cache ln.bInterfaceId = v) ∨
    (ifaceDevice cache ln.aInterfaceId = v ∧ ifaceDevice cache ln.bInterfaceId = u)

/-- Two devices are joined by a passable link that some interface lists. -/
def Adjacent (cache : TopologyCache) (u v : String) : Prop :=
  ∃ i links ln, cache.linksByInterface.lookup i = some links ∧ ln ∈ links ∧
    passable cache ln = true ∧ Joins cache ln u v

/-- The links that decide the entry of one pair. -/
def decides (cache : TopologyCache) (key : String) (ln : Link) : Bool :=
  passable cache ln && pairKey cache ln = key

/-- The last link of one interface that decides a pair, by its id. -/
def lastListed (cache : TopologyCache) (key interfaceID : String) : Option String :=
  ((((cache.linksByInterface.lookup interfaceID).getD []).filter (decides cache key)).getLast?).map
    Link.id

/-! ### One link -/

/-- The graph under construction resolves interfaces and overrides as the cache does. -/
structure Reads (cache : TopologyCache) (deviceOverrides : GoMap String Status)
    (g : AdjacencyGraph) : Prop where
  deviceOf : ∀ i, g.deviceOf i = ifaceDevice cache i
  overrides : ∀ d, deviceOverrides.lookup d =
    (cache.deviceByID.lookup d).bind Device.adminOverrideStatus

/-- The graph with the edge of a link. -/
def addEdge (cache : TopologyCache) (g : AdjacencyGraph) (ln : Link) : AdjacencyGraph :=
  let a := ifaceDevice cache ln.aInterfaceId
  let b := ifaceDevice cache ln.bInterfaceId
  let g := (g.addNeighbor a b).addNeighbor b a
  { g with linkByPair := g.linkByPair.insert (pairKey cache ln) ln.id }

private theorem Reads.forcedDown {cache : TopologyCache} {ov : GoMap String Status}
    {g : AdjacencyGraph} (h : Reads cache ov g) (i : String) :
    ov.lookup (g.deviceOf i) = some .down ↔
      Traffic.forcedDown cache (ifaceDevice cache i) = true := by
  rw [h.deviceOf, h.overrides, Traffic.forcedDown, Option.any_eq_true]
  simp [Option.bind_eq_some_iff]

/-- The body of the link loop adds exactly the passable links. -/
theorem addLink_eq {cache : TopologyCache} {ov : GoMap String Status} {g : AdjacencyGraph}
    (h : Reads cache ov g) (ln : Link) :
    addLink ov g ln = if passable cache ln then addEdge cache g ln else g := by
  have ha := h.forcedDown ln.aInterfaceId
  have hb := h.forcedDown ln.bInterfaceId
  have hstatus : (inlineLinkStatus g ov ln = .up) ↔
      (match ln.adminOverrideStatus with
        | some status => decide (status = .up)
        | none => !forcedDown cache (ifaceDevice cache ln.aInterfaceId) &&
          !forcedDown cache (ifaceDevice cache ln.bInterfaceId) &&
            decide (ln.status = .up)) = true := by
    unfold inlineLinkStatus
    cases ln.adminOverrideStatus with
    | some status => simp
    | none =>
      simp only [ha, hb]
      cases forcedDown cache (ifaceDevice cache ln.aInterfaceId) <;>
        cases forcedDown cache (ifaceDevice cache ln.bInterfaceId) <;> simp
  unfold addLink passable
  rw [h.deviceOf, h.deviceOf]
  by_cases hs : inlineLinkStatus g ov ln = .up
  · rw [if_neg (not_not_intro hs), hstatus.mp hs]
    by_cases hda : ifaceDevice cache ln.aInterfaceId = ""
    · simp [hda]
    · by_cases hdb : ifaceDevice cache ln.bInterfaceId = ""
      · simp [hdb]
      · simp only [hda, hdb, or_self, if_false, ne_eq, not_false_eq_true, decide_true,
          Bool.and_self, if_true]
        rfl
  · rw [if_pos hs, Bool.eq_false_iff.mpr (fun hm ↦ hs (hstatus.mpr hm))]
    rfl

private theorem lookup_addNeighbor (g : AdjacencyGraph) (a b u v : String) :
    v ∈ ((g.addNeighbor a b).neighbors.lookup u).getD ∅ ↔
      v ∈ (g.neighbors.lookup u).getD ∅ ∨ (a = u ∧ b = v) := by
  unfold AdjacencyGraph.addNeighbor
  by_cases h : u = a
  · subst h
    rw [AList.lookup_insert, Option.getD_some, Finset.mem_insert]
    constructor
    · rintro (rfl | hv)
      · exact Or.inr ⟨rfl, rfl⟩
      · exact Or.inl hv
    · rintro (hv | ⟨_, rfl⟩)
      · exact Or.inr hv
      · exact Or.inl rfl
  · rw [AList.lookup_insert_ne h]
    exact ⟨Or.inl, fun hv ↦ hv.elim id (fun hab ↦ absurd hab.1.symm h)⟩

private theorem mem_neighbors_addEdge (cache : TopologyCache) (g : AdjacencyGraph) (ln : Link)
    (u v : String) : v ∈ ((addEdge cache g ln).neighbors.lookup u).getD ∅ ↔
      v ∈ (g.neighbors.lookup u).getD ∅ ∨ Joins cache ln u v := by
  change v ∈ (((g.addNeighbor _ _).addNeighbor _ _).neighbors.lookup u).getD ∅ ↔ _
  rw [lookup_addNeighbor, lookup_addNeighbor, Joins, or_assoc,
    and_comm (a := ifaceDevice cache ln.bInterfaceId = u)]

/-! ### All links -/

section Fold

variable {cache : TopologyCache} {ov : GoMap String Status}

private theorem Reads.addEdge {g : AdjacencyGraph} (h : Reads cache ov g) (ln : Link) :
    Reads cache ov (Traffic.addEdge cache g ln) := ⟨h.deviceOf, h.overrides⟩

/-- Folding in links joins their devices. -/
theorem mem_neighbors_foldl (links : List Link) {g : AdjacencyGraph} (h : Reads cache ov g)
    (u v : String) : v ∈ ((links.foldl (addLink ov) g).neighbors.lookup u).getD ∅ ↔
      v ∈ (g.neighbors.lookup u).getD ∅ ∨
        ∃ ln ∈ links, passable cache ln = true ∧ Joins cache ln u v := by
  induction links generalizing g with
  | nil => simp
  | cons ln rest ih =>
    rw [List.foldl_cons, addLink_eq h]
    split
    · next hp =>
      rw [ih (h.addEdge ln), mem_neighbors_addEdge, or_assoc]
      simp [hp]
    · next hp =>
      rw [ih h]
      simp [hp]

/-- Folding in links leaves the last deciding link at every pair. -/
theorem lookup_linkByPair_foldl (links : List Link) {g : AdjacencyGraph} (h : Reads cache ov g)
    (key : String) : (links.foldl (addLink ov) g).linkByPair.lookup key =
      (((links.filter (decides cache key)).getLast?).map Link.id).or
        (g.linkByPair.lookup key) := by
  induction links generalizing g with
  | nil => rfl
  | cons ln rest ih =>
    rw [List.foldl_cons, addLink_eq h]
    by_cases hp : passable cache ln = true
    · rw [if_pos hp, ih (h.addEdge ln)]
      by_cases hk : pairKey cache ln = key
      · have hd : decides cache key ln = true := by simp [decides, hp, hk]
        have hlookup : (addEdge cache g ln).linkByPair.lookup key = some ln.id := by
          rw [← hk]; exact AList.lookup_insert _
        rw [hlookup, List.filter_cons_of_pos hd, List.getLast?_cons]
        cases (rest.filter (decides cache key)).getLast? <;> rfl
      · have hd : ¬ decides cache key ln = true := by simp [decides, hk]
        have hlookup : (addEdge cache g ln).linkByPair.lookup key = g.linkByPair.lookup key :=
          AList.lookup_insert_ne (Ne.symm hk)
        rw [hlookup, List.filter_cons_of_neg hd]
    · have hd : ¬ decides cache key ln = true := by simp [decides, hp]
      rw [if_neg hp, ih h, List.filter_cons_of_neg hd]

end Fold

/-! ### The finished graph -/

private theorem reads_init (o : AdjacencyOrders) (cache : TopologyCache) :
    Reads cache (buildDeviceOverrides o cache) { ifaceDevice := buildIfaceDevice o cache } where
  deviceOf i := by
    rw [AdjacencyGraph.deviceOf, ifaceDevice]
    congr 1
    have hfill := lookup_fill cache.interfaceByID o.interfaces (fun _ i ↦ some i.deviceId) i
    exact hfill.trans Option.map_eq_bind.symm
  overrides d := lookup_fill cache.deviceByID o.devices (fun _ d ↦ d.adminOverrideStatus) d

/-- A visited link is listed at an interface. -/
theorem mem_visitedLinks {o : AdjacencyOrders} {cache : TopologyCache} {ln : Link} :
    ln ∈ visitedLinks o cache ↔
      ∃ i links, cache.linksByInterface.lookup i = some links ∧ ln ∈ links := by
  simp only [visitedLinks, List.mem_flatMap, Prod.exists, GoMap.mem_range]

/-- Whatever the order, the neighbours of a device are the devices joined to it. -/
theorem mem_neighbors_buildAdjacency (o : AdjacencyOrders) (cache : TopologyCache)
    (u v : String) : v ∈ ((buildAdjacency o cache).neighbors.lookup u).getD ∅ ↔
      Adjacent cache u v := by
  rw [buildAdjacency, mem_neighbors_foldl _ (reads_init o cache)]
  simp only [AList.lookup_empty, Option.getD_none, Finset.notMem_empty, false_or,
    mem_visitedLinks, Adjacent]
  constructor
  · rintro ⟨ln, ⟨i, links, hi, hln⟩, hp, hj⟩
    exact ⟨i, links, ln, hi, hln, hp, hj⟩
  · rintro ⟨i, links, ln, hi, hln, hp, hj⟩
    exact ⟨ln, ⟨i, links, hi, hln⟩, hp, hj⟩

/-- The pair entry is the last deciding link in visiting order. -/
theorem lookup_linkByPair_buildAdjacency (o : AdjacencyOrders) (cache : TopologyCache)
    (key : String) : (buildAdjacency o cache).linkByPair.lookup key =
      (((visitedLinks o cache).filter (decides cache key)).getLast?).map Link.id := by
  rw [buildAdjacency, lookup_linkByPair_foldl _ (reads_init o cache), AList.lookup_empty,
    Option.or_none]

end Unoc.Traffic
