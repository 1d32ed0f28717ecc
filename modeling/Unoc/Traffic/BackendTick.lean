import Unoc.Status.UpstreamChain
import Unoc.Traffic.CatalogEffective
import Unoc.Traffic.LeafRoutes

/-!
# Ticks of the backend's traffic engine

`TrafficEngine.run_tick` of `backend/services/traffic/v2_engine.py` with its phases: the adjacency and
the paths, which are kept under the version of the topology, the demand of the leaves along their
paths, the metrics that are published, the zeros for what became inactive, and the snapshot. Float
arithmetic is exact. Segments and congestion have states of their own.
-/

namespace Unoc.Traffic.Backend

open Unoc.Base
open Unoc.Model
open Unoc.Forwarding (FlowPath)
open Unoc.Traffic.CatalogEffective (Catalog getEffectiveDeviceCapacityMbps linkCapMbps ifCap)
open Unoc.Status (topology isLinkPassable truthy UpstreamL3Chain UpstreamReason)

/-! ### Demand -/

/-- `_xorshift64star`; `rand.py:1–6`. -/
def xorshift64star (x : UInt64) : UInt64 :=
  let x := x ^^^ (x >>> 12)
  let x := x ^^^ (x <<< 25)
  let x := x ^^^ (x >>> 27)
  x * 0x2545F4914F6CDD1D

/-- `deterministic_rand01`; `rand.py:9–16`. -/
def deterministicRand01 (baseSeed tickSeq : Int) (deviceId : String) : ℚ :=
  let h := deviceId.toUTF8.toList.foldl (fun h ch ↦ (h ^^^ ch.toUInt64) * 0x100000001B3)
    (0xCBF29CE484222325 : UInt64)
  ((xorshift64star (toUInt64 baseSeed ^^^ toUInt64 tickSeq ^^^ h) >>> 11).toNat : ℚ) / 2 ^ 53

/-- What a tick reads: the rows, the status and the upstream of a device (none if the resolver
raises), paths of flows, and the version of the topology. -/
structure TickInput where
  catalog : Catalog
  tariffs : List Tariff := []
  status : String → Status
  upstream : String → Option UpstreamL3Chain
  resolve : Forwarding.Flow → FlowPath
  version : Nat

/-- `backbone_present`; `v2_engine.py:163`. -/
def TickInput.backbonePresent (inp : TickInput) : Bool :=
  inp.catalog.devices.any (fun d ↦ d.type = .backboneGateway)

/-- `tolerated`; `v2_path.py:34`. -/
def tolerated : UpstreamReason → Bool
  | .noRouterPath | .routersNoL3 => true
  | _ => false

/-- `has_upstream_ok`; `v2_path.py:14–40`. -/
def hasUpstreamOk (inp : TickInput) (device : Device) : Bool :=
  match inp.upstream device.id with
  | none => true
  | some up =>
    if up.ok then true
    else if inp.backbonePresent then false
    else if up.reasons = [] then false
    else up.reasons.all tolerated

/-- `gated_leaves`; `v2_engine.py:159,271`. -/
def TickInput.gatedLeaves (inp : TickInput) : List Device :=
  (inp.catalog.devices.filter (fun d ↦ leafTypes d.type && d.tariffId.isSome)).filter (hasUpstreamOk inp)

/-- `tariff_by_id.get`; `v2_tick.py:54,65–70`. -/
def TickInput.tariffOf (inp : TickInput) (d : Device) : Option Tariff :=
  d.tariffId.bind ((inp.tariffs.foldl (fun m t ↦ m.insert t.id t) (∅ : Dict Int Tariff)).lookup ·)

/-! ### Paths -/

/-- `build_adjacency` of the rows; `v2_engine.py:226–228`. -/
def TickInput.adjacency (inp : TickInput) : Adjacency :=
  buildAdjacency inp.catalog.interfaces inp.catalog.links
    (isLinkPassable (topology inp.catalog.toDatabase)) (deviceOverrideMap inp.catalog.devices)

/-- The arguments of `bfs_pick_anchor` with an adjacency. -/
def TickInput.pathsOver (inp : TickInput) (adjacency : Adjacency) : Paths where
  deviceNeighbors := adjacency.deviceNeighbors
  linkByPair := adjacency.linkByPair
  allowedDeviceIds := allowedDeviceIds inp.catalog.devices
  devTypeById := devTypeById inp.catalog.devices
  anchorTypes := anchorTypes

/-- The path over the chain of the dependency resolver, if it reaches an anchor; `v2_tick.py:119–139`. -/
def chainPath (g : Paths) (upstream : Option UpstreamL3Chain) (leafId : String) :
    Option (List String × List String) :=
  match upstream with
  | none => none
  | some up =>
    let nodes := up.chain.filter (fun x ↦ x ∈ g.allowedDeviceIds)
    if up.ok ∧ 1 < up.chain.length ∧ nodes.any (g.isTrueAnchor leafId) then
      some (nodes, ((steps nodes).map (fun e ↦ g.linkByPair.lookup {e.1, e.2})).foldl Paths.addLinkId [])
    else none

/-- The path of a leaf, from the cache if it has one; `v2_tick.py:85–141`. -/
def leafPath (g : Paths) (inp : TickInput) (cached : Option (List String × List String))
    (leafId : String) : List String × List String :=
  let path := cached.getD (g.bfsPickAnchor inp.resolve leafId)
  if path.1.length ≤ 1 then (chainPath g (inp.upstream leafId) leafId).getD path else path

/-! ### Generation -/

/-- The variables of the leaf loop; `v2_tick.py:48–55`. -/
structure Generated where
  pathCache : Dict String (List String × List String)
  deviceTotals : Dict String ℚ := ∅
  deviceDownTotals : Dict String ℚ := ∅
  linkTotals : Dict String ℚ := ∅
  linkDownTotals : Dict String ℚ := ∅
  leavesCount : Nat := 0

/-- `totals[id] += bps` on a `defaultdict(float)`. -/
def addTotal (bps : ℚ) (totals : Dict String ℚ) (id : String) : Dict String ℚ :=
  totals.update id 0 (· + bps)

/-- The demand of a leaf in one direction; `v2_tick.py:74–75`. -/
def pendingBps (maxMbps : ℚ) (r : ℚ) : ℚ := max maxMbps 0 * 1000000 * r

/-- The body of the leaf loop; `v2_tick.py:60–191`. -/
def addLeaf (g : Paths) (inp : TickInput) (seed : Int) (tick : Nat) (st : Generated) (d : Device) :
    Generated :=
  if inp.status d.id ≠ .up then st
  else
    match inp.tariffOf d with
    | none => st
    | some tf =>
      let r := deterministicRand01 seed tick d.id
      let path := leafPath g inp (st.pathCache.lookup d.id) d.id
      if path.1.length ≤ 1 then st
      else
        { pathCache := st.pathCache.insert d.id path
          deviceTotals := path.1.foldl (addTotal (pendingBps tf.maxUpMbps r)) st.deviceTotals
          deviceDownTotals := path.1.foldl (addTotal (pendingBps tf.maxDownMbps r)) st.deviceDownTotals
          linkTotals := path.2.foldl (addTotal (pendingBps tf.maxUpMbps r)) st.linkTotals
          linkDownTotals := path.2.foldl (addTotal (pendingBps tf.maxDownMbps r)) st.linkDownTotals
          leavesCount := st.leavesCount + 1 }

/-- `generate_flows_for_leaves`; `v2_tick.py:19–200`. -/
def generateFlowsForLeaves (g : Paths) (inp : TickInput) (seed : Int) (tick : Nat)
    (pathCache : Dict String (List String × List String)) : Generated :=
  inp.gatedLeaves.foldl (addLeaf g inp seed tick) { pathCache := pathCache }

/-! ### Metrics -/

/-- The values of an item of `device_changes`; `v2_aggregation.py:50–60`. -/
structure DeviceMetrics where
  bps : ℚ
  utilization : WithTop ℚ
  upstreamBps : ℚ
  downstreamBps : ℚ
  deriving DecidableEq

/-- The values of an item of `link_changes`; `v2_aggregation.py:92`. -/
structure LinkMetrics where
  bps : ℚ
  utilization : WithTop ℚ
  deriving DecidableEq

/-- Utilization against a capacity that may be missing; `v2_aggregation.py:46–49,115–118`. -/
def utilizationOf (bps : ℚ) (capMbps : Option Int) : WithTop ℚ :=
  match capMbps with
  | none => if bps ≤ 0 then 0 else ⊤
  | some cap => if cap ≤ 0 then if bps ≤ 0 then 0 else ⊤ else ((bps / (cap * 1000000) : ℚ) : WithTop ℚ)

/-- `allow_metrics`; `v2_aggregation.py:29–43`. -/
def allowMetrics (db : Catalog) (did : String) : Bool :=
  (db.getDevice did).all (fun d ↦ d.adminOverrideStatus ≠ some .down)

/-- One entry of `compute_device_changes`; `v2_aggregation.py:25–60`. -/
def deviceChange (db : Catalog) (downTotals : Dict String ℚ) (did : String) (bps : ℚ) :
    DeviceMetrics :=
  let eff := if allowMetrics db did then bps else 0
  { bps := eff
    utilization := utilizationOf eff ((db.getDevice did).bind (getEffectiveDeviceCapacityMbps db))
    upstreamBps := eff
    downstreamBps := if allowMetrics db did then (downTotals.lookup did).getD 0 else 0 }

/-- `compute_device_changes`; `v2_aggregation.py:14–61`. -/
def computeDeviceChanges (db : Catalog) (totals downTotals : Dict String ℚ) :
    List (String × DeviceMetrics) :=
  totals.entries.map (fun e ↦ (e.1, deviceChange db downTotals e.1 e.2))

/-- `cap_mbps` of a link id; `v2_aggregation.py:79–90`. -/
def capMbpsOf (db : Catalog) (lid : String) : ℚ := ((db.getLink lid).map (linkCapMbps db)).getD 1000

/-- `link_changes` of `compute_link_changes`; `v2_aggregation.py:85–92`. -/
def computeLinkChanges (db : Catalog) (totals : Dict String ℚ) : List (String × LinkMetrics) :=
  totals.entries.map (fun e ↦
    (e.1, ⟨e.2, ((if capMbpsOf db e.1 ≤ 0 ∧ e.2 ≤ 0 then 0
      else e.2 / (capMbpsOf db e.1 * 1000000) : ℚ) : WithTop ℚ)⟩))

/-- `per_iface_bps`; `v2_aggregation.py:94–98`. -/
def perIfaceBps (db : Catalog) (totals downTotals : Dict String ℚ) : Dict String ℚ :=
  totals.entries.foldl (fun m e ↦
    let totalBps := e.2 + (downTotals.lookup e.1).getD 0
    let ends := ((db.getLink e.1).map (fun ln ↦ [ln.aInterfaceId, ln.bInterfaceId])).getD []
    (ends.filter (fun i ↦ i ≠ "")).foldl (addTotal totalBps) m) ∅

/-! ### The engine -/

/-- A value of `dev_map`; `v2_snapshot.py:8–16`. -/
structure DeviceEntry where
  bps : ℚ
  utilization : ℚ
  version : Int := 0
  upstreamBps : ℚ
  downstreamBps : ℚ
  deriving DecidableEq

/-- A value of `link_map` or of a map of ports; `v2_snapshot.py:17–24`, `v2_aggregation.py:120–124`. -/
structure LinkEntry where
  bps : ℚ
  utilization : ℚ
  version : Int := 0
  deriving DecidableEq

/-- `1e9 if u == float("inf") else u`. -/
def finiteUtilization (u : WithTop ℚ) : ℚ := WithTop.untopD 1000000000 u

/-- The entry of a device in a snapshot; `v2_snapshot.py:10–16`. -/
def DeviceMetrics.entry (m : DeviceMetrics) : DeviceEntry where
  bps := m.bps
  utilization := finiteUtilization m.utilization
  upstreamBps := m.upstreamBps
  downstreamBps := m.downstreamBps

/-- The entry of a link in a snapshot; `v2_snapshot.py:19–24`. -/
def LinkMetrics.entry (m : LinkMetrics) : LinkEntry where
  bps := m.bps
  utilization := finiteUtilization m.utilization

/-- The metrics of an inactive device; `v2_phases.py:49–55`. -/
def DeviceMetrics.zero : DeviceMetrics := ⟨0, 0, 0, 0⟩

/-- The metrics of an inactive link; `v2_phases.py:76`. -/
def LinkMetrics.zero : LinkMetrics := ⟨0, 0⟩

/-- A published event. -/
inductive MetricsEvent where
  | deviceMetricsUpdated (devices : List (String × DeviceMetrics)) (tick : Nat)
  | linkMetricsUpdated (links : List (String × LinkMetrics)) (tick : Nat)
  deriving DecidableEq

/-- The fields of `TrafficEngine`; `v2_engine.py:52–108`. -/
structure Engine where
  tickSeq : Nat := 0
  randomSeed : Int := 0xAA55AA55
  pathCache : Dict String (List String × List String) := ∅
  pathCacheTopoV : Option Nat := none
  adjacencyCache : Option Adjacency := none
  adjacencyCacheValid : Bool := false
  adjacencyTopoVersion : Option Nat := none
  prevActiveDevices : Finset String := ∅
  prevActiveLinks : Finset String := ∅
  lastDevices : Dict String DeviceEntry := ∅
  lastLinks : Dict String LinkEntry := ∅
  lastPorts : Dict String (Dict String LinkEntry) := ∅
  lastTick : Nat := 0

/-- The cached adjacency, if it may be used; `v2_engine.py:209–216`. -/
def Engine.cachedAdjacency (engine : Engine) (version : Nat) : Option Adjacency :=
  if engine.adjacencyCacheValid ∧ engine.adjacencyTopoVersion = some version then engine.adjacencyCache
  else none

/-- The path cache after it is cleared for another version; `v2_engine.py:283–289`. -/
def Engine.pathCacheAt (engine : Engine) (version : Nat) :
    Dict String (List String × List String) :=
  if engine.pathCacheTopoV ≠ some version then ∅ else engine.pathCache

/-- The entries of what was active before and is not now; `v2_phases.py:45–56,73–76`. -/
def zeroItems {V : Type} (zero : V) (prevActive currentActive : Finset String) : List (String × V) :=
  (RangeOrder.ascending.keys (prevActive \ currentActive)).map (fun id ↦ (id, zero))

/-- The ids of some items. -/
def itemIds {V : Type} (items : List (String × V)) : Finset String := (items.map Prod.fst).toFinset

/-- A map of a snapshot with its zero entries; `v2_snapshot.py:4–25`, `v2_engine.py:449–466`. -/
def snapshotMap {V E : Type} (entry : V → E) (changes zeros : List (String × V)) : Dict String E :=
  (zeros.filter (fun e ↦ e.1 ≠ "")).foldl (fun m e ↦ m.insert e.1 (entry e.2))
    (changes.foldl (fun m e ↦ m.insert e.1 (entry e.2)) ∅)

/-- `ports_map`; `v2_aggregation.py:100–124`. -/
def portsMap (db : Catalog) (perIface : Dict String ℚ) : Dict String (Dict String LinkEntry) :=
  perIface.entries.foldl (fun m e ↦
    match truthy ((db.getInterface e.1).map Interface.deviceId) with
    | none => m
    | some devId => m.update devId ∅ (fun dmap ↦ dmap.insert e.1
        { bps := e.2, utilization := finiteUtilization (utilizationOf e.2 (ifCap db e.1)) })) ∅

/-- The publication of some items, if there are any. -/
def publishIf {V : Type} (event : List (String × V) → Nat → MetricsEvent) (items : List (String × V))
    (tick : Nat) : List MetricsEvent :=
  if items = [] then [] else [event items tick]

/-- The generation phase of `run_tick`; `v2_engine.py:131–329`. -/
def Engine.generate (engine : Engine) (inp : TickInput) : Generated :=
  generateFlowsForLeaves
    (inp.pathsOver ((engine.cachedAdjacency inp.version).getD inp.adjacency))
    inp engine.randomSeed engine.tickSeq (engine.pathCacheAt inp.version)

/-- `run_tick`, with what it publishes; `v2_engine.py:129–525`. -/
def Engine.runTick (engine : Engine) (inp : TickInput) : Engine × List MetricsEvent :=
  let gen := engine.generate inp
  let deviceChanges := computeDeviceChanges inp.catalog gen.deviceTotals gen.deviceDownTotals
  let linkChanges := computeLinkChanges inp.catalog gen.linkTotals
  let zeros := zeroItems DeviceMetrics.zero engine.prevActiveDevices (itemIds deviceChanges)
  let linkZeros := zeroItems LinkMetrics.zero engine.prevActiveLinks (itemIds linkChanges)
  ({ engine with
      tickSeq := engine.tickSeq + 1
      pathCache := gen.pathCache
      pathCacheTopoV := some inp.version
      adjacencyCache := some ((engine.cachedAdjacency inp.version).getD inp.adjacency)
      adjacencyCacheValid := true
      adjacencyTopoVersion := some inp.version
      prevActiveDevices := itemIds deviceChanges
      prevActiveLinks := itemIds linkChanges
      lastDevices := snapshotMap DeviceMetrics.entry deviceChanges zeros
      lastLinks := snapshotMap LinkMetrics.entry linkChanges linkZeros
      lastPorts := portsMap inp.catalog (perIfaceBps inp.catalog gen.linkTotals gen.linkDownTotals)
      lastTick := engine.tickSeq },
    publishIf .deviceMetricsUpdated deviceChanges engine.tickSeq ++
      publishIf .linkMetricsUpdated linkChanges engine.tickSeq ++
      publishIf .deviceMetricsUpdated zeros engine.tickSeq ++
      publishIf .linkMetricsUpdated linkZeros engine.tickSeq)

/-- The engine after some ticks, with what they published. -/
def Engine.run (engine : Engine) : List TickInput → Engine × List MetricsEvent
  | [] => (engine, [])
  | inp :: ticks =>
    let next := engine.runTick inp
    let rest := next.1.run ticks
    (rest.1, next.2 ++ rest.2)

end Unoc.Traffic.Backend
