import Mathlib.Algebra.BigOperators.Ring.Finset
import Unoc.Traffic.AnchorPath

/-!
# Conservation of traffic

The result of a tick against the paths of its flows. Where the adjacency graph holds one link for
every pair it joins, the path of a flow enters and leaves a device over two different links, so
that a device through which traffic only passes sees all of it twice on the links around it.
-/

namespace Unoc.Traffic

open Unoc.Model Unoc.Base

/-! ### Links around a device -/

/-- A link of the topology ends at a device. -/
def incident (cache : TopologyCache) (linkID deviceID : String) : Bool :=
  (cache.linkByID.lookup linkID).any (fun ln ↦ ifaceDevice cache ln.aInterfaceId = deviceID ∨
    ifaceDevice cache ln.bInterfaceId = deviceID)

/-- The links that end at a device. -/
def incidentLinks (cache : TopologyCache) (deviceID : String) : Finset String :=
  cache.linkByID.keySet.filter (fun linkID ↦ incident cache linkID deviceID = true)

/-- A link id names a link that joins two devices and nothing else. -/
def JoinsPair (cache : TopologyCache) (linkID u v : String) : Prop :=
  linkID ≠ "" ∧ ∃ ln, cache.linkByID.lookup linkID = some ln ∧ Joins cache ln u v

/-- The graph maps every pair of neighbours to a link that joins exactly that pair. -/
def PairLinks (g : AdjacencyGraph) (cache : TopologyCache) : Prop :=
  ∀ u v, v ∈ (g.neighbors.lookup u).getD ∅ → JoinsPair cache (g.getLinkBetween u v) u v

private theorem JoinsPair.incident_iff {cache : TopologyCache} {linkID u v : String}
    (h : JoinsPair cache linkID u v) (x : String) :
    incident cache linkID x = true ↔ x = u ∨ x = v := by
  obtain ⟨_, ln, hln, hjoins⟩ := h
  simp only [incident, hln, Option.any_some, decide_eq_true_eq]
  rcases hjoins with ⟨ha, hb⟩ | ⟨ha, hb⟩
  · rw [ha, hb, eq_comm, @eq_comm _ v]
  · rw [ha, hb, eq_comm, @eq_comm _ u, or_comm]

private theorem mem_incidentLinks {cache : TopologyCache} {linkID deviceID : String} :
    linkID ∈ incidentLinks cache deviceID ↔ incident cache linkID deviceID = true := by
  unfold incidentLinks
  rw [Finset.mem_filter, and_iff_right_iff_imp]
  intro h
  obtain ⟨ln, hln, _⟩ := (Option.any_eq_true _ _).mp h
  rw [GoMap.keySet, List.mem_toFinset]
  exact AList.lookup_isSome.mp (by rw [hln]; rfl)

/-! ### The path of a flow -/

/-- A flow runs over different devices from its leaf, and every hop takes its link. -/
structure Routed (g : AdjacencyGraph) (f : Flow) : Prop where
  nodup : f.pathNodes.Nodup
  head : f.pathNodes.head? = some f.leafID
  links : f.pathLinks = (steps f.pathNodes).map (fun hop ↦ g.getLinkBetween hop.1 hop.2)
  hops : ∀ hop ∈ steps f.pathNodes, hop.2 ∈ (g.neighbors.lookup hop.1).getD ∅

section Routed

variable {g : AdjacencyGraph} {cache : TopologyCache} {f : Flow}

/-- Shaping leaves the path of a flow alone. -/
theorem Routed.shrunk {f' : Flow} (h : Routed g f) (hf : f.Shrunk f') : Routed g f' where
  nodup := hf.pathNodes ▸ h.nodup
  head := by rw [hf.pathNodes, hf.leafID, h.head]
  links := by rw [hf.pathLinks, hf.pathNodes, h.links]
  hops := hf.pathNodes ▸ h.hops

variable (hpairs : PairLinks g cache) (h : Routed g f)
include hpairs h

private theorem incident_hop (hop : String × String) (hhop : hop ∈ steps f.pathNodes) (x : String) :
    incident cache (g.getLinkBetween hop.1 hop.2) x = true ↔ x = hop.1 ∨ x = hop.2 :=
  (hpairs hop.1 hop.2 (h.hops hop hhop)).incident_iff x

/-- A flow crosses a link once at most. -/
theorem Routed.nodup_pathLinks : f.pathLinks.Nodup := by
  rw [h.links]
  exact nodup_labels (fun l x ↦ incident cache l x = true) (incident_hop hpairs h) h.nodup

/-- A flow passes both ends of every link it crosses. -/
theorem Routed.mem_pathNodes {linkID deviceID : String} (hlink : linkID ∈ f.pathLinks)
    (hend : incident cache linkID deviceID = true) : deviceID ∈ f.pathNodes := by
  rw [h.links] at hlink
  exact mem_of_touches (fun l x ↦ incident cache l x = true) (incident_hop hpairs h) hlink hend

/-- A flow crosses two of the links around a device on its way, and none around other devices. -/
theorem Routed.sum_count_incidentLinks {deviceID : String} (hhead : f.leafID ≠ deviceID)
    (hlast : f.pathNodes.getLast? ≠ some deviceID) :
    ∑ l ∈ incidentLinks cache deviceID, f.pathLinks.count l = 2 * f.pathNodes.count deviceID := by
  rw [sum_count_eq_countP]
  simp only [mem_incidentLinks]
  rw [h.links]
  refine countP_touches (fun l x ↦ incident cache l x = true) (incident_hop hpairs h) h.nodup ?_
    hlast
  rw [h.head]
  exact fun heq ↦ hhead (Option.some.inj heq)

end Routed

/-- Every collected flow is routed. -/
theorem routed_of_mem_collectFlows {o : GenerationOrders} {oa : AdjacencyOrders}
    {cache : TopologyCache} {tick randomSeed : Int}
    (hpairs : PairLinks (buildAdjacency oa cache) cache) {f : Flow}
    (hf : f ∈ collectFlows o cache (buildAdjacency oa cache) tick randomSeed) :
    Routed (buildAdjacency oa cache) f := by
  obtain ⟨deviceID, _, hf⟩ := List.mem_filterMap.mp hf
  simp only [collectFlow, Option.bind_eq_bind, Option.bind_eq_some_iff,
    Option.ite_none_left_eq_some, Option.some.injEq] at hf
  obtain ⟨device, _, tariff, _, hlength, rfl⟩ := hf
  rcases bfsPickAnchor_best (o.neighbors deviceID) oa cache device.id with
    ⟨halone, _⟩ | ⟨nodes, ⟨anchor, rank, hroute, hbest⟩, hresult⟩
  · rw [halone] at hlength
    exact absurd (le_refl 1) hlength
  · have hlinks := fun u v (hadj : Adjacent cache u v) ↦
      (hpairs u v ((mem_neighbors_buildAdjacency oa cache u v).mpr hadj)).1
    obtain ⟨hhead, _, hchain⟩ := Walk.iff_isChain.mp hroute.walk
    constructor
    · rw [hresult]
      apply hroute.walk.nodup_of_shortest
      intro q hq
      exact ((hbest anchor rank q ⟨hq, hroute.rank⟩).resolve_left (Nat.lt_irrefl rank)).2
    · rw [hresult]
      exact hhead
    · rw [hresult]
      exact pathLinksOf_eq hlinks hroute.walk
    · rw [hresult]
      intro hop hhop
      exact (mem_neighbors_buildAdjacency oa cache _ _).mpr (rel_of_mem_steps hchain hhop).2.1

/-! ### Sums over the flows -/

/-- Traffic of one entry of a metrics map, zero where there is none. -/
def traffic (m : GoMap String FlowMetrics) (id : String) (d : Direction) : ℚ :=
  ((m.lookup id).getD {}).get d

/-- What the flows whose path contains `id` amount to, each of them counted once. -/
def carried (flows : List Flow) (path : Flow → List String) (amount : Flow → ℚ) (id : String) : ℚ :=
  ((flows.filter (fun f ↦ id ∈ path f)).map amount).sum

/-- What the flows amount to, each of them counted for every occurrence of `id` on its path. -/
def crossings (flows : List Flow) (path : Flow → List String) (amount : Flow → ℚ) (id : String) : ℚ :=
  (flows.map (fun f ↦ ((path f).count id : ℚ) * amount f)).sum

/-- Without repetitions on the paths the two counts agree. -/
theorem crossings_eq_carried {flows : List Flow} {path : Flow → List String}
    (hpath : ∀ f ∈ flows, (path f).Nodup) (amount : Flow → ℚ) (id : String) :
    crossings flows path amount id = carried flows path amount id := by
  unfold crossings carried
  induction flows with
  | nil => rfl
  | cons f rest ih =>
    have hrest := ih (fun f hf ↦ hpath f (List.mem_cons_of_mem _ hf))
    rw [List.map_cons, List.sum_cons, hrest]
    by_cases hmem : id ∈ path f
    · rw [List.filter_cons, if_pos (decide_eq_true hmem), List.map_cons, List.sum_cons,
        List.count_eq_one_of_mem (hpath f List.mem_cons_self) hmem, Nat.cast_one, one_mul]
    · rw [List.filter_cons, if_neg (by simpa using hmem), List.count_eq_zero_of_not_mem hmem,
        Nat.cast_zero, zero_mul, zero_add]

private theorem crossings_mono {flows : List Flow} {path : Flow → List String}
    {amount amount' : Flow → ℚ}
    (hle : ∀ f ∈ flows, amount f ≤ amount' f) (id : String) :
    crossings flows path amount id ≤ crossings flows path amount' id :=
  List.sum_le_sum (fun f hf ↦ mul_le_mul_of_nonneg_left (hle f hf) (Nat.cast_nonneg _))

section Crossings

variable {g : AdjacencyGraph} {cache : TopologyCache} {flows : List Flow}
  (hpairs : PairLinks g cache) (hrouted : ∀ f ∈ flows, Routed g f) {amount : Flow → ℚ}
include hpairs hrouted

/-- A link carries at most what the devices at its ends carry. -/
theorem crossings_link_le (hamount : ∀ f ∈ flows, 0 ≤ amount f) {linkID deviceID : String}
    (hend : incident cache linkID deviceID = true) :
    crossings flows Flow.pathLinks amount linkID ≤
      crossings flows Flow.pathNodes amount deviceID := by
  refine List.sum_le_sum (fun f hf ↦ mul_le_mul_of_nonneg_right ?_ (hamount f hf))
  have hr := hrouted f hf
  rw [Nat.cast_le]
  by_cases hlink : linkID ∈ f.pathLinks
  · rw [List.count_eq_one_of_mem (hr.nodup_pathLinks hpairs) hlink]
    exact List.count_pos_iff.mpr (hr.mem_pathNodes hpairs hlink hend)
  · rw [List.count_eq_zero_of_not_mem hlink]
    exact Nat.zero_le _

/-- The links around a device carry twice what passes through it. -/
theorem sum_crossings_incidentLinks {deviceID : String} (htransit : ∀ f ∈ flows,
      f.leafID ≠ deviceID ∧ f.pathNodes.getLast? ≠ some deviceID) :
    ∑ l ∈ incidentLinks cache deviceID, crossings flows Flow.pathLinks amount l =
      2 * crossings flows Flow.pathNodes amount deviceID := by
  unfold crossings
  induction flows with
  | nil => simp
  | cons f rest ih =>
    have hrest := ih (fun f hf ↦ hrouted f (List.mem_cons_of_mem _ hf))
      (fun f hf ↦ htransit f (List.mem_cons_of_mem _ hf))
    have hr := hrouted f List.mem_cons_self
    obtain ⟨hhead, hlast⟩ := htransit f List.mem_cons_self
    simp only [List.map_cons, List.sum_cons, Finset.sum_add_distrib, hrest]
    rw [← Finset.sum_mul, ← Nat.cast_sum, hr.sum_count_incidentLinks hpairs hhead hlast]
    push_cast
    ring

end Crossings

/-! ### The result of a tick -/

/-- The result of a tick accounts for the flows. -/
structure Conserves (cache : TopologyCache) (flows : List Flow) (r : GenerationResult) : Prop where
  /-- A device carries the flows through it, each of them once. -/
  device : ∀ id d,
    traffic r.deviceMetrics id d = carried flows Flow.pathNodes (fun f ↦ f.delivered d) id ∧
    traffic r.deviceDemand id d = carried flows Flow.pathNodes (fun f ↦ f.demand d) id
  /-- A link carries the flows across it, each of them once. -/
  link : ∀ id d,
    traffic r.linkMetrics id d = carried flows Flow.pathLinks (fun f ↦ f.delivered d) id ∧
    traffic r.linkDemand id d = carried flows Flow.pathLinks (fun f ↦ f.demand d) id
  delivered_le : ∀ id d, traffic r.deviceMetrics id d ≤ traffic r.deviceDemand id d ∧
    traffic r.linkMetrics id d ≤ traffic r.linkDemand id d
  link_le : ∀ linkID deviceID d, incident cache linkID deviceID = true →
    traffic r.linkMetrics linkID d ≤ traffic r.deviceMetrics deviceID d ∧
    traffic r.linkDemand linkID d ≤ traffic r.deviceDemand deviceID d
  /-- Where no flow starts or ends, the links around a device carry its traffic twice. -/
  transit : ∀ deviceID d,
    (∀ f ∈ flows, f.leafID ≠ deviceID ∧ f.pathNodes.getLast? ≠ some deviceID) →
    ∑ l ∈ incidentLinks cache deviceID, traffic r.linkMetrics l d =
      2 * traffic r.deviceMetrics deviceID d ∧
    ∑ l ∈ incidentLinks cache deviceID, traffic r.linkDemand l d =
      2 * traffic r.deviceDemand deviceID d

private theorem traffic_aggregateFlows (flows : List Flow) (enabled : Bool) (id : String)
    (d : Direction) :
    traffic (aggregateFlows flows enabled).deviceMetrics id d =
      crossings flows Flow.pathNodes (fun f ↦ f.delivered d) id ∧
    traffic (aggregateFlows flows enabled).deviceDemand id d =
      crossings flows Flow.pathNodes (fun f ↦ f.demand d) id ∧
    traffic (aggregateFlows flows enabled).linkMetrics id d =
      crossings flows Flow.pathLinks (fun f ↦ f.delivered d) id ∧
    traffic (aggregateFlows flows enabled).linkDemand id d =
      crossings flows Flow.pathLinks (fun f ↦ f.demand d) id := by
  obtain ⟨h1, h2, h3, h4⟩ := aggregateFlows_maps flows enabled
  simp only [traffic, h1, h2, h3, h4, get_foldl_flows, crossings]
  cases d <;> simp [FlowMetrics.get]

/-- Every flow of a tick shrank from a collected one. -/
theorem exists_of_mem_shapedFlows {o : GenerationOrders} {cache : TopologyCache}
    {adjacency : AdjacencyGraph} {tick randomSeed : Int} {enabled : Bool} {f' : Flow}
    (hf' : f' ∈ shapedFlows o cache adjacency tick randomSeed enabled) :
    ∃ f ∈ collectFlows o cache adjacency tick randomSeed, f.Shrunk f' := by
  unfold shapedFlows at hf'
  split at hf'
  · have hfresh : ∀ f ∈ collectFlows o cache adjacency tick randomSeed, f.Fresh :=
      fun f hf ↦ fresh_of_mem_collectFlows hf
    obtain ⟨f, hf, hs⟩ := exists_of_forall₂ (shapeFlows_spec o.flowLinks cache hfresh).1 hf'
    exact ⟨f, hf, hs.shrunk⟩
  · exact ⟨f', hf', .refl f'⟩

/-- A device that generates traffic: an eligible leaf with a route to an anchor. -/
structure Generates (cache : TopologyCache) (id : String) : Prop where
  leaf : id ∈ leafKeys cache
  eligible : ∃ device, cache.deviceByID.lookup id = some device ∧
    (eligibleTariff cache device).isSome = true
  route : ∃ p, BestRoute cache id p

/-- Shaping keeps the leaves of the flows. -/
theorem map_leafID_shapedFlows {o : GenerationOrders} {cache : TopologyCache}
    {adjacency : AdjacencyGraph} {tick randomSeed : Int} {enabled : Bool} :
    (shapedFlows o cache adjacency tick randomSeed enabled).map Flow.leafID =
      (collectFlows o cache adjacency tick randomSeed).map Flow.leafID := by
  unfold shapedFlows
  split
  · have hkept : ∀ {cache : TopologyCache} {raw flows flows' : List Flow},
        List.Forall₂ (ShapedFrom cache raw) flows flows' →
          flows'.map Flow.leafID = flows.map Flow.leafID := by
      intro cache raw flows flows' h
      induction h with
      | nil => rfl
      | cons hf _ ih => rw [List.map_cons, List.map_cons, ih, hf.shrunk.leafID]
    exact hkept (shapeFlows_spec o.flowLinks cache (fun f hf ↦ fresh_of_mem_collectFlows hf)).1
  · rfl

private theorem collectFlow_isSome_iff {o : GenerationOrders} {oa : AdjacencyOrders}
    {cache : TopologyCache} {tick randomSeed : Int} {id : String} {device : Device}
    (hlookup : cache.deviceByID.lookup id = some device) (hid : device.id = id) :
    (collectFlow (o.neighbors id) cache (buildAdjacency oa cache) tick randomSeed id).isSome = true ↔
      (eligibleTariff cache device).isSome = true ∧ ∃ p, BestRoute cache id p := by
  have hroute : 1 < (bfsPickAnchor (o.neighbors id) id (buildAdjacency oa cache) cache).1.length ↔
      ∃ p, BestRoute cache id p := by
    rcases bfsPickAnchor_best (o.neighbors id) oa cache id with ⟨halone, hnone⟩ | ⟨p, hbest, hresult⟩
    · rw [halone]
      exact iff_of_false (Nat.lt_irrefl 1) (fun ⟨p, hp⟩ ↦ hnone p hp)
    · rw [hresult]
      refine iff_of_true ?_ ⟨p, hbest⟩
      obtain ⟨anchor, rank, hp, _⟩ := hbest
      exact hp.one_lt_length
  subst hid
  rw [← hroute]
  unfold collectFlow
  rw [hlookup]
  cases htariff : eligibleTariff cache device with
  | none => simp [htariff]
  | some tariff => simp [htariff]

/-- Where devices are filed under their ids, as a build does (`lookup_deviceByID`), the leaves that
generate traffic have one flow each, and no other device has one. -/
theorem mem_leafID_shapedFlows {cache : TopologyCache}
    (hkeyed : ∀ id device, cache.deviceByID.lookup id = some device → device.id = id)
    (o : GenerationOrders) (oa : AdjacencyOrders) (tick randomSeed : Int) (enabled : Bool) :
    ((shapedFlows o cache (buildAdjacency oa cache) tick randomSeed enabled).map
        Flow.leafID).Nodup ∧
      ∀ id, id ∈ (shapedFlows o cache (buildAdjacency oa cache) tick randomSeed enabled).map
        Flow.leafID ↔ Generates cache id := by
  have hleaf : ∀ id, (collectFlow (o.neighbors id) cache (buildAdjacency oa cache) tick randomSeed
      id).map Flow.leafID = Option.guard (fun id ↦ (collectFlow (o.neighbors id) cache
        (buildAdjacency oa cache) tick randomSeed id).isSome) id := by
    intro id
    cases hf : collectFlow (o.neighbors id) cache (buildAdjacency oa cache) tick randomSeed id with
    | none => simp [Option.guard, hf]
    | some f =>
      have hf' := hf
      simp only [collectFlow, Option.bind_eq_bind, Option.bind_eq_some_iff,
        Option.ite_none_left_eq_some, Option.some.injEq] at hf'
      obtain ⟨device, hlookup, tariff, _, _, rfl⟩ := hf'
      simp [Option.guard, hf, hkeyed id device hlookup]
  have hleaves : (shapedFlows o cache (buildAdjacency oa cache) tick randomSeed enabled).map
      Flow.leafID = (o.leaves.sortedKeys (leafKeys cache)).filter (fun id ↦
        (collectFlow (o.neighbors id) cache (buildAdjacency oa cache) tick randomSeed id).isSome) := by
    rw [map_leafID_shapedFlows, collectFlows, List.map_filterMap]
    simp only [hleaf]
    rw [List.filterMap_eq_filter]
  rw [hleaves]
  constructor
  · have hperm := List.perm_insertionSort (· ≤ ·) (o.leaves.keys (leafKeys cache))
    exact (hperm.nodup_iff.mpr (o.leaves.nodup _)).filter _
  · intro id
    rw [List.mem_filter, RangeOrder.mem_sortedKeys]
    constructor
    · intro h
      obtain ⟨f, hf⟩ := Option.isSome_iff_exists.mp h.2
      have hf' := hf
      simp only [collectFlow, Option.bind_eq_bind, Option.bind_eq_some_iff] at hf'
      obtain ⟨device, hlookup, _⟩ := hf'
      obtain ⟨heligible, hroute⟩ :=
        (collectFlow_isSome_iff hlookup (hkeyed id device hlookup)).mp h.2
      exact ⟨h.1, ⟨device, hlookup, heligible⟩, hroute⟩
    · intro h
      obtain ⟨device, hlookup, heligible⟩ := h.eligible
      exact ⟨h.leaf,
        (collectFlow_isSome_iff hlookup (hkeyed id device hlookup)).mpr ⟨heligible, h.route⟩⟩

/-- A flow that shrank from a fresh one delivers at most its demand. -/
theorem Flow.Fresh.delivered_le {f f' : Flow} (h : f.Fresh) (hs : f.Shrunk f') (d : Direction) :
    0 ≤ f'.delivered d ∧ f'.delivered d ≤ f'.demand d := by
  have hsound := h.sound d
  have hpos := hs.scale_pos d hsound.2
  have hle : f'.scale d ≤ 1 := h.scale_eq_one d ▸ hs.scale_le d hsound.2
  have hdemand : 0 ≤ f'.demand d := hs.demand d ▸ hsound.1
  exact ⟨mul_nonneg hdemand hpos.le, mul_le_of_le_one_right hdemand hle⟩

/-- Traffic conservation: on a topology whose adjacency graph maps every pair of neighbours to a link that
joins exactly that pair, the result of every tick accounts for the flows of its eligible leaves. -/
theorem generateFlowsWithShaping_conserves (o : GenerationOrders) (oa : AdjacencyOrders)
    (cache : TopologyCache) (hpairs : PairLinks (buildAdjacency oa cache) cache)
    (tick randomSeed : Int) (shapingEnabled : Bool) :
    Conserves cache (shapedFlows o cache (buildAdjacency oa cache) tick randomSeed shapingEnabled)
      (generateFlowsWithShaping o cache (buildAdjacency oa cache) tick randomSeed shapingEnabled) := by
  set flows := shapedFlows o cache (buildAdjacency oa cache) tick randomSeed shapingEnabled
    with hflows
  have hrouted : ∀ f ∈ flows, Routed (buildAdjacency oa cache) f := by
    intro f' hf'
    obtain ⟨f, hf, hs⟩ := exists_of_mem_shapedFlows hf'
    exact (routed_of_mem_collectFlows hpairs hf).shrunk hs
  have hle : ∀ d, ∀ f ∈ flows, 0 ≤ f.delivered d ∧ f.delivered d ≤ f.demand d := by
    intro d f' hf'
    obtain ⟨f, hf, hs⟩ := exists_of_mem_shapedFlows hf'
    exact (fresh_of_mem_collectFlows hf).delivered_le hs d
  have hdemand := fun d f hf ↦ (hle d f hf).1.trans (hle d f hf).2
  have htraffic := traffic_aggregateFlows flows shapingEnabled
  constructor
  · intro id d
    obtain ⟨hdelivered, hrequested, _, _⟩ := htraffic id d
    have hnodup : ∀ f ∈ flows, f.pathNodes.Nodup := fun f hf ↦ (hrouted f hf).nodup
    exact ⟨hdelivered.trans (crossings_eq_carried hnodup _ id),
      hrequested.trans (crossings_eq_carried hnodup _ id)⟩
  · intro id d
    obtain ⟨_, _, hdelivered, hrequested⟩ := htraffic id d
    have hnodup : ∀ f ∈ flows, f.pathLinks.Nodup := fun f hf ↦ (hrouted f hf).nodup_pathLinks hpairs
    exact ⟨hdelivered.trans (crossings_eq_carried hnodup _ id),
      hrequested.trans (crossings_eq_carried hnodup _ id)⟩
  · intro id d
    obtain ⟨h1, h2, h3, h4⟩ := htraffic id d
    rw [generateFlowsWithShaping, ← hflows, h1, h2, h3, h4]
    exact ⟨crossings_mono (fun f hf ↦ (hle d f hf).2) id,
      crossings_mono (fun f hf ↦ (hle d f hf).2) id⟩
  · intro linkID deviceID d hend
    obtain ⟨_, _, hlink, hlinkDemand⟩ := htraffic linkID d
    obtain ⟨hdevice, hdeviceDemand, _, _⟩ := htraffic deviceID d
    rw [generateFlowsWithShaping, ← hflows, hlink, hlinkDemand, hdevice, hdeviceDemand]
    exact ⟨crossings_link_le hpairs hrouted (fun f hf ↦ (hle d f hf).1) hend,
      crossings_link_le hpairs hrouted (hdemand d) hend⟩
  · intro deviceID d htransit
    obtain ⟨hdevice, hdeviceDemand, _, _⟩ := htraffic deviceID d
    rw [generateFlowsWithShaping, ← hflows, hdevice, hdeviceDemand]
    simp only [fun l ↦ (htraffic l d).2.2.1, fun l ↦ (htraffic l d).2.2.2]
    exact ⟨sum_crossings_incidentLinks hpairs hrouted htransit,
      sum_crossings_incidentLinks hpairs hrouted htransit⟩

/-- The port of a core router carries what its subscriber receives. -/
theorem generateFlowsWithShaping_conserves_slowPort :
    Conserves slowPortCache
      (shapedFlows ascendingOrders slowPortCache
        (buildAdjacency ⟨.ascending, .ascending, .ascending⟩ slowPortCache) 3 42 true)
      (generateFlowsWithShaping ascendingOrders slowPortCache
        (buildAdjacency ⟨.ascending, .ascending, .ascending⟩ slowPortCache) 3 42 true) := by
  refine generateFlowsWithShaping_conserves _ _ _ (fun u v hv ↦ ?_) _ _ _
  obtain ⟨i, links, ln, hi, hln, _, hjoins⟩ := (mem_neighbors_buildAdjacency _ _ u v).mp hv
  rw [List.mem_singleton.mp (listed_buildTopologyCacheWithCatalog hi hln)] at hjoins
  rcases hjoins with ⟨rfl, rfl⟩ | ⟨rfl, rfl⟩
  · exact ⟨by decide +kernel, _, by decide +kernel, Or.inl ⟨rfl, rfl⟩⟩
  · exact ⟨by decide +kernel, _, by decide +kernel, Or.inr ⟨rfl, rfl⟩⟩

end Unoc.Traffic
