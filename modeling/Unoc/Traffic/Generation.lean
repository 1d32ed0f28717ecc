import Mathlib.Algebra.Order.Field.Basic
import Mathlib.Data.Finset.Filter
import Mathlib.Tactic.NormNum
import Mathlib.Tactic.Positivity
import Unoc.Traffic.Adjacency
import Unoc.Traffic.Shaping

/-!
# Flow generation of the traffic tick

`engine-go/internal/traffic/generation.go`: eligible leaves, their deterministic demand, the path
to the preferred anchor, and the aggregation of delivered and requested traffic. Loops over Go
maps take the order of their `range`; float arithmetic is exact.
-/

namespace Unoc.Traffic

open Unoc.Model

/-- `LeafTypes`; `generation.go:13–17`. -/
def leafTypes : DeviceType → Bool
  | .ont | .businessOnt | .aonCpe => true
  | _ => false

/-- `anchorTypes`; `generation.go:112–117`. -/
def anchorTypes : DeviceType → Bool
  | .backboneGateway | .pop | .coreSite | .coreRouter => true
  | _ => false

/-- Go conversion of an `int` to `uint64`. -/
def toUInt64 (n : Int) : UInt64 := UInt64.ofNat (n % 2 ^ 64).toNat

/-- The hash of `deterministicRandom`, over the code points of the id; `generation.go:257–264`. -/
def deterministicHash (seed tick : Int) (deviceID : String) : UInt64 :=
  let hash := toUInt64 seed ^^^ toUInt64 tick
  let hash := deviceID.toList.foldl (fun hash c ↦ hash * 31 + c.val.toUInt64) hash
  (hash * 1103515245 + 12345) &&& 0x7fffffff

/-- `deterministicRandom`; `generation.go:255–269`. -/
def deterministicRandom (seed tick : Int) (deviceID : String) : ℚ :=
  let normalized : ℚ := (deterministicHash seed tick deviceID).toNat / 0x7fffffff
  8 / 10 + normalized * (2 / 10)

/-! ### Path to an anchor -/

/-- `parentInfo`; `generation.go:280–283`. -/
structure ParentInfo where
  deviceID : String := ""
  linkID : String := ""
  deriving DecidableEq, Repr

/-- The anchor variables of `bfsPickAnchor`, empty while unset; `generation.go:295`. -/
structure Anchors where
  backboneAnchor : String := ""
  coreAnchor : String := ""
  popAnchor : String := ""
  anyAnchor : String := ""
  deriving DecidableEq, Repr

/-- The local variables of `bfsPickAnchor`; `generation.go:284–295`. -/
structure BfsState where
  parents : GoMap String ParentInfo
  queue : List String
  visited : Finset String
  anchors : Anchors := {}

/-- The variables before the queue loop; `generation.go:285–292`. -/
def BfsState.init (startID : String) : BfsState :=
  { parents := AList.insert startID {} ∅, queue := [startID], visited := {startID} }

/-- Keep an anchor that is already set. -/
def firstAnchor (anchor currentID : String) : String := if anchor = "" then currentID else anchor

/-- The anchor bookkeeping of one dequeued device; `generation.go:307–327`. -/
def trackAnchor (startID currentID : String) (currentDevice : Device) (a : Anchors) : Anchors :=
  if anchorTypes currentDevice.type ∧ currentID ≠ startID then
    match currentDevice.type with
    | .backboneGateway => { a with backboneAnchor := firstAnchor a.backboneAnchor currentID }
    | .coreRouter | .coreSite => { a with coreAnchor := firstAnchor a.coreAnchor currentID }
    | .pop => { a with popAnchor := firstAnchor a.popAnchor currentID }
    | _ => { a with anyAnchor := firstAnchor a.anyAnchor currentID }
  else a

/-- One iteration of the neighbour loop: only known devices that are up are entered;
`generation.go:331–356`. -/
def exploreNeighbor (cache : TopologyCache) (adjacency : AdjacencyGraph) (currentID : String)
    (st : BfsState) (neighborID : String) : BfsState :=
  if neighborID ∈ st.visited then st
  else match cache.deviceByID.lookup neighborID with
    | none => st
    | some neighborDevice =>
      if neighborDevice.effectiveStatus ≠ .up then st
      else
        { st with
          visited := insert neighborID st.visited
          parents := st.parents.insert neighborID
            ⟨currentID, adjacency.getLinkBetween currentID neighborID⟩
          queue := st.queue ++ [neighborID] }

/-- The queue loop from position `head`. Every device enters the queue once, so one unit of fuel
for every device and one for the start are enough; `generation.go:297–357`. -/
def bfsLoop (neighborOrder : String → RangeOrder String) (cache : TopologyCache)
    (adjacency : AdjacencyGraph) (startID : String) : Nat → Nat → BfsState → BfsState
  | 0, _, st => st
  | fuel + 1, head, st =>
    match st.queue[head]? with
    | none => st
    | some currentID =>
      match cache.deviceByID.lookup currentID with
      | none => bfsLoop neighborOrder cache adjacency startID fuel (head + 1) st
      | some currentDevice =>
        bfsLoop neighborOrder cache adjacency startID fuel (head + 1)
          ((adjacency.getNeighbors (neighborOrder currentID) currentID).foldl
            (exploreNeighbor cache adjacency currentID)
            { st with anchors := trackAnchor startID currentID currentDevice st.anchors })

/-- Preference order of the anchors; `generation.go:360–369`. -/
def Anchors.anchorID (a : Anchors) : String :=
  firstAnchor (firstAnchor (firstAnchor a.backboneAnchor a.coreAnchor) a.popAnchor) a.anyAnchor

/-- The backtracking loop, from an anchor to the start; `generation.go:378–389`. -/
def backtrack (parents : GoMap String ParentInfo) : Nat → String → List String × List String
  | 0, _ => ([], [])
  | fuel + 1, current =>
    if current = "" then ([], [])
    else
      let parent := (parents.lookup current).getD {}
      let rest := backtrack parents fuel parent.deviceID
      (current :: rest.1, if parent.linkID = "" then rest.2 else parent.linkID :: rest.2)

/-- `bfsPickAnchor`; `generation.go:273–400`. -/
def bfsPickAnchor (neighborOrder : String → RangeOrder String) (startID : String)
    (adjacency : AdjacencyGraph) (cache : TopologyCache) : List String × List String :=
  let st := bfsLoop neighborOrder cache adjacency startID (cache.deviceByID.keys.length + 1) 0
    (.init startID)
  if st.anchors.anchorID = "" then ([startID], [])
  else
    let path := backtrack st.parents st.queue.length st.anchors.anchorID
    (path.1.reverse, path.2.reverse)

/-! ### Flows of the eligible leaves -/

/-- The orders of the `range` loops of one tick after `BuildAdjacency`. The neighbour loop runs
once for every leaf and dequeued device. -/
structure GenerationOrders where
  leaves : RangeOrder String
  neighbors : String → String → RangeOrder String
  flowLinks : RangeOrder String

/-- Keys of the leaf devices; `generation.go:124–129`. -/
def leafKeys (cache : TopologyCache) : Finset String :=
  cache.deviceByID.keySet.filter (fun k ↦
    (cache.deviceByID.lookup k).any (fun device ↦ leafTypes device.type))

/-- The checks that a leaf passes before it asks for a path, and its tariff;
`generation.go:145–167`. -/
def eligibleTariff (cache : TopologyCache) (device : Device) : Option Tariff :=
  if device.provisioned = false then none
  else if device.effectiveStatus ≠ .up then none
  else device.tariffId.bind (fun id ↦ cache.tariffByID.lookup id)

/-- The flow of one leaf, if it generates traffic; `generation.go:134–198`. -/
def collectFlow (neighborOrder : String → RangeOrder String) (cache : TopologyCache)
    (adjacency : AdjacencyGraph) (tick randomSeed : Int) (deviceID : String) : Option Flow := do
  let device ← cache.deviceByID.lookup deviceID
  let tariff ← eligibleTariff cache device
  let randomFactor := deterministicRandom randomSeed tick device.id
  let path := bfsPickAnchor neighborOrder device.id adjacency cache
  if path.1.length ≤ 1 then none
  else
    some {
      leafID := device.id
      demandUpBps := max tariff.maxUpMbps 0 * 1000000 * randomFactor
      demandDownBps := max tariff.maxDownMbps 0 * 1000000 * randomFactor
      pathNodes := path.1
      pathLinks := path.2 }

/-- `collectFlows`; `generation.go:105–201`. -/
def collectFlows (o : GenerationOrders) (cache : TopologyCache) (adjacency : AdjacencyGraph)
    (tick randomSeed : Int) : List Flow :=
  (o.leaves.sortedKeys (leafKeys cache)).filterMap (fun deviceID ↦
    collectFlow (o.neighbors deviceID) cache adjacency tick randomSeed deviceID)

/-! ### Aggregation -/

/-- `FlowMetrics`; `generation.go:20–23`. -/
structure FlowMetrics where
  upBps : ℚ := 0
  downBps : ℚ := 0
  deriving DecidableEq, Repr

/-- One direction of the metrics. -/
def FlowMetrics.get (m : FlowMetrics) : Direction → ℚ
  | .up => m.upBps
  | .down => m.downBps

/-- `LeafShaping`; `generation.go:45–49`. -/
structure LeafShaping where
  scaleUp : ℚ
  scaleDown : ℚ
  throttled : Bool
  deriving DecidableEq, Repr

/-- `GenerationResult` without its debug map; `generation.go:52–61`. -/
structure GenerationResult where
  deviceMetrics : GoMap String FlowMetrics := ∅
  linkMetrics : GoMap String FlowMetrics := ∅
  deviceDemand : GoMap String FlowMetrics := ∅
  linkDemand : GoMap String FlowMetrics := ∅
  leafShaping : GoMap String LeafShaping := ∅
  shapingEnabled : Bool
  leavesCount : Nat

/-- `ThrottleScaleThreshold`; `shaping.go:20`. -/
def throttleScaleThreshold : ℚ := 98 / 100

/-- Add traffic to one entry, which is made on demand; `generation.go:222–229,233–240`. -/
def addMetrics (up down : ℚ) (m : GoMap String FlowMetrics) (id : String) :
    GoMap String FlowMetrics :=
  let old := (m.lookup id).getD {}
  m.insert id ⟨old.upBps + up, old.downBps + down⟩

/-- The body of the flow loop; `generation.go:217–248`. -/
def aggregateFlow (result : GenerationResult) (flow : Flow) : GenerationResult :=
  let delivered := addMetrics (flow.delivered .up) (flow.delivered .down)
  let demand := addMetrics flow.demandUpBps flow.demandDownBps
  { result with
    deviceMetrics := flow.pathNodes.foldl delivered result.deviceMetrics
    deviceDemand := flow.pathNodes.foldl demand result.deviceDemand
    linkMetrics := flow.pathLinks.foldl delivered result.linkMetrics
    linkDemand := flow.pathLinks.foldl demand result.linkDemand
    leafShaping := result.leafShaping.insert flow.leafID
      ⟨flow.scaleUp, flow.scaleDown,
        flow.scaleUp < throttleScaleThreshold || flow.scaleDown < throttleScaleThreshold⟩ }

/-- `aggregateFlows`; `generation.go:205–251`. -/
def aggregateFlows (flows : List Flow) (shapingEnabled : Bool) : GenerationResult :=
  flows.foldl aggregateFlow { shapingEnabled := shapingEnabled, leavesCount := flows.length }

/-- The flows of one tick after optional shaping; `generation.go:84–88`. -/
def shapedFlows (o : GenerationOrders) (cache : TopologyCache) (adjacency : AdjacencyGraph)
    (tick randomSeed : Int) (shapingEnabled : Bool) : List Flow :=
  let flows := collectFlows o cache adjacency tick randomSeed
  if shapingEnabled then shapeFlows o.flowLinks flows cache else flows

/-- `GenerateFlowsWithShaping`; `generation.go:77–100`. -/
def generateFlowsWithShaping (o : GenerationOrders) (cache : TopologyCache)
    (adjacency : AdjacencyGraph) (tick randomSeed : Int) (shapingEnabled : Bool) :
    GenerationResult :=
  aggregateFlows (shapedFlows o cache adjacency tick randomSeed shapingEnabled) shapingEnabled

/-! ### Reported metrics -/

/-- Adding traffic to some entries adds it to an entry once for every occurrence. -/
theorem get_foldl_addMetrics (up down : ℚ) (ids : List String) (m : GoMap String FlowMetrics)
    (id : String) (d : Direction) :
    (((ids.foldl (addMetrics up down) m).lookup id).getD {}).get d =
      ((m.lookup id).getD {}).get d + ids.count id * FlowMetrics.get ⟨up, down⟩ d := by
  induction ids generalizing m with
  | nil => simp
  | cons i rest ih =>
    rw [List.foldl_cons, ih]
    by_cases h : id = i
    · subst h
      rw [addMetrics, AList.lookup_insert, List.count_cons_self]
      cases d <;> simp only [Option.getD_some, FlowMetrics.get] <;> push_cast <;> ring
    · rw [addMetrics, AList.lookup_insert_ne h, List.count_cons_of_ne (Ne.symm h)]

/-- Aggregating some flows adds to an entry what each of them puts there. -/
theorem get_foldl_flows (ids : Flow → List String) (up down : Flow → ℚ) (flows : List Flow)
    (m : GoMap String FlowMetrics) (id : String) (d : Direction) :
    (((flows.foldl (fun m f ↦ (ids f).foldl (addMetrics (up f) (down f)) m) m).lookup id).getD
      {}).get d = ((m.lookup id).getD {}).get d +
        (flows.map (fun f ↦ ((ids f).count id : ℚ) * FlowMetrics.get ⟨up f, down f⟩ d)).sum := by
  induction flows generalizing m with
  | nil => simp
  | cons f rest ih =>
    rw [List.foldl_cons, ih, get_foldl_addMetrics, List.map_cons, List.sum_cons, add_assoc]

/-- Each of the four maps is filled by itself. -/
theorem aggregateFlows_maps (flows : List Flow) (enabled : Bool) :
    let delivered := fun f : Flow ↦ addMetrics (f.delivered .up) (f.delivered .down)
    let demand := fun f : Flow ↦ addMetrics (f.demand .up) (f.demand .down)
    let r := aggregateFlows flows enabled
    r.deviceMetrics = flows.foldl (fun m f ↦ f.pathNodes.foldl (delivered f) m) ∅ ∧
    r.deviceDemand = flows.foldl (fun m f ↦ f.pathNodes.foldl (demand f) m) ∅ ∧
    r.linkMetrics = flows.foldl (fun m f ↦ f.pathLinks.foldl (delivered f) m) ∅ ∧
    r.linkDemand = flows.foldl (fun m f ↦ f.pathLinks.foldl (demand f) m) ∅ :=
  ⟨(List.foldl_hom GenerationResult.deviceMetrics (fun _ _ ↦ rfl)).symm,
    (List.foldl_hom GenerationResult.deviceDemand (fun _ _ ↦ rfl)).symm,
    (List.foldl_hom GenerationResult.linkMetrics (fun _ _ ↦ rfl)).symm,
    (List.foldl_hom GenerationResult.linkDemand (fun _ _ ↦ rfl)).symm⟩

/-- The reported traffic of a link is the sum over the flows that cross it. -/
theorem linkMetrics_aggregateFlows (flows : List Flow) (enabled : Bool) (l : String)
    (d : Direction) :
    (((aggregateFlows flows enabled).linkMetrics.lookup l).getD {}).get d =
      sumDelivered flows l d := by
  rw [(aggregateFlows_maps flows enabled).2.2.1, get_foldl_flows, sumDelivered_eq]
  cases d <;> simp [FlowMetrics.get]

private theorem deterministicRandom_nonneg (seed tick : Int) (deviceID : String) :
    0 ≤ deterministicRandom seed tick deviceID := by
  unfold deterministicRandom
  positivity

/-- Every collected flow starts fresh. -/
theorem fresh_of_mem_collectFlows {o : GenerationOrders} {cache : TopologyCache}
    {adjacency : AdjacencyGraph} {tick randomSeed : Int} {f : Flow}
    (h : f ∈ collectFlows o cache adjacency tick randomSeed) : f.Fresh := by
  obtain ⟨deviceID, _, hf⟩ := List.mem_filterMap.mp h
  simp only [collectFlow, Option.bind_eq_bind, Option.bind_eq_some_iff,
    Option.ite_none_left_eq_some, Option.some.injEq] at hf
  obtain ⟨device, _, tariff, _, _, rfl⟩ := hf
  have hr := deterministicRandom_nonneg randomSeed tick device.id
  refine ⟨fun d ↦ ?_, fun d ↦ by cases d <;> rfl⟩
  cases d
  · exact mul_nonneg (mul_nonneg (le_max_right _ _) (by norm_num)) hr
  · exact mul_nonneg (mul_nonneg (le_max_right _ _) (by norm_num)) hr

/-- Shaping of fresh flows keeps every link of positive capacity within it, keeps every scale in
`(0, 1]`, and leaves a direction alone that crosses no overloaded link; so no reported link traffic
exceeds the effective capacity. -/
theorem delivered_within_capacity (cache : TopologyCache) :
    (∀ (order : RangeOrder String) (flows : List Flow), (∀ f ∈ flows, f.Fresh) →
      (∀ l d, 0 < capacityBps cache l →
        ((flowsByLink (shapeFlows order flows cache) l).map (fun f ↦ f.delivered d)).sum ≤
          capacityBps cache l) ∧
      List.Forall₂ (fun f f' : Flow ↦
        f'.leafID = f.leafID ∧ f'.pathLinks = f.pathLinks ∧ (∀ d, f'.demand d = f.demand d) ∧
        ∀ d, 0 < f'.scale d ∧ f'.scale d ≤ 1 ∧
          ((∀ l ∈ f.pathLinks, 0 < capacityBps cache l →
            rawDemand flows l d ≤ capacityBps cache l) → f'.scale d = 1))
        flows (shapeFlows order flows cache)) ∧
    (∀ (o : GenerationOrders) (adjacency : AdjacencyGraph) (tick randomSeed : Int) (l : String)
      (m : FlowMetrics) (d : Direction),
      0 < effectiveLinkCapacityMbps (cache.linkByID.lookup l) cache →
      (generateFlowsWithShaping o cache adjacency tick randomSeed true).linkMetrics.lookup l =
        some m →
      m.get d ≤ effectiveLinkCapacityMbps (cache.linkByID.lookup l) cache * 1000000) := by
  constructor
  · intro order flows hfresh
    obtain ⟨hsh, hcap⟩ := shapeFlows_spec order cache hfresh
    refine ⟨hcap, ?_⟩
    refine ((List.forall₂_and_left _ _).mpr ⟨hfresh, hsh⟩).imp ?_
    rintro f f' ⟨hff, hs⟩
    refine ⟨hs.shrunk.leafID, hs.shrunk.pathLinks, hs.shrunk.demand, fun d ↦ ?_⟩
    have hone := hff.scale_eq_one d
    have hpos : 0 < f.scale d := by rw [hone]; exact one_pos
    exact ⟨hs.shrunk.scale_pos d hpos, hone ▸ hs.shrunk.scale_le d hpos,
      fun hl ↦ (hs.keeps d hl).trans hone⟩
  · intro o adjacency tick randomSeed l m d hcap hm
    have hsum := linkMetrics_aggregateFlows
      (shapedFlows o cache adjacency tick randomSeed true) true l d
    rw [generateFlowsWithShaping] at hm
    rw [hm, Option.getD_some] at hsum
    rw [hsum]
    exact (shapeFlows_spec o.flowLinks cache (fun f hf ↦ fresh_of_mem_collectFlows hf)).2 l d
      (mul_pos hcap (by norm_num))

/-- One subscriber with a 20 Mbps tariff behind a 10 Mbps port of a core router. -/
def slowPortCache : TopologyCache :=
  buildTopologyCacheWithCatalog
    [{ id := "core1", type := .coreRouter },
      { id := "ont1", type := .ont, provisioned := true, tariffId := some 1 }]
    [{ id := "link1", aInterfaceId := "core1-if0", bInterfaceId := "ont1-if0" }]
    [{ id := "core1-if0", deviceId := "core1", name := "if0", capacity := some 10 },
      { id := "ont1-if0", deviceId := "ont1", name := "if0" }]
    [{ id := 1, maxUpMbps := 5, maxDownMbps := 20 }] [] []

/-- Every `range` of a tick by ascending keys. -/
def ascendingOrders : GenerationOrders :=
  ⟨.ascending, fun _ _ ↦ .ascending, .ascending⟩

/-- Two flows that ask for 16 Mbps of the same 10 Mbps link, one of them crossing it twice. -/
def sharedPortFlows : List Flow :=
  [{ leafID := "a", demandUpBps := 2000000, demandDownBps := 8000000, pathNodes := ["a", "core1"],
      pathLinks := ["link1"] },
    { leafID := "b", demandUpBps := 1000000, demandDownBps := 8000000, pathNodes := ["b", "core1"],
      pathLinks := ["link1", "link1"] }]

/-- The flows behind a port of 10 Mbps, and what a tick puts on its link. -/
theorem delivered_within_capacity_slow_port :
    ((flowsByLink (shapeFlows .ascending sharedPortFlows slowPortCache) "link1").map
      (fun f ↦ f.delivered .down)).sum ≤ 10 * 1000000 ∧
    ∃ m, (generateFlowsWithShaping ascendingOrders slowPortCache
        (buildAdjacency ⟨.ascending, .ascending, .ascending⟩ slowPortCache)
        3 42 true).linkMetrics.lookup "link1" = some m ∧ m.get .down ≤ 10 * 1000000 := by
  have hcap : effectiveLinkCapacityMbps (slowPortCache.linkByID.lookup "link1") slowPortCache =
      10 := by decide +kernel
  have hfresh : ∀ f ∈ sharedPortFlows, f.Fresh := by
    intro f hf
    simp only [sharedPortFlows, List.mem_cons, List.not_mem_nil, or_false] at hf
    rcases hf with rfl | rfl
    all_goals exact ⟨fun d ↦ by cases d <;> decide, fun d ↦ by cases d <;> rfl⟩
  have h := delivered_within_capacity slowPortCache
  constructor
  · have hlink := (h.1 .ascending sharedPortFlows hfresh).1 "link1" .down
    rw [capacityBps, hcap] at hlink
    exact hlink (by norm_num)
  · have hm : (generateFlowsWithShaping ascendingOrders slowPortCache
        (buildAdjacency ⟨.ascending, .ascending, .ascending⟩ slowPortCache)
        3 42 true).linkMetrics.lookup "link1" =
          some ⟨9001618518000000 / 2147483647, 10000000⟩ := by decide +kernel
    have hle := h.2 ascendingOrders _ 3 42 "link1" _ .down (by rw [hcap]; norm_num) hm
    exact ⟨_, hm, hcap ▸ hle⟩

end Unoc.Traffic
