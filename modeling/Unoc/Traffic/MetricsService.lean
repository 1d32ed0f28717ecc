import Unoc.Status.Upstream
import Unoc.Traffic.CatalogEffective

/-!
# The metrics service

`backend/services/metrics_service.py`: leaf samples of a tick are added up along shortest paths to
their nearest anchors, and readings that changed enough replace those of the last snapshot. Numbers
are rationals with an infinity; the topology is that of one database state.
-/

namespace Unoc.Traffic.MetricsService

open Unoc.Base Unoc.Model
open Unoc.Status (DeviceRecord LinkRecord recordIds logicalActive)
open Unoc.Traffic.CatalogEffective

/-! ### Utilization -/

/-- A utilization, where 1 is the whole capacity; `math.inf` without a capacity. -/
inductive Utilization where
  | finite (fraction : ℚ)
  | infinite
  deriving DecidableEq, Repr

/-- `EPSILON_METRICS_DELTA`; `constants/metrics.py:10`. -/
def epsilonMetricsDelta : ℚ := 1 / 100

/-- `utilization_bucket`; `constants/metrics.py:17–31`. -/
def utilizationBucket (u : Utilization) : Nat :=
  let pct := match u with
    | .infinite => 100
    | .finite fraction => fraction * 100
  if pct ≤ 50 then 0
  else if pct ≤ 70 then 1
  else if pct ≤ 90 then 2
  else if pct ≤ 100 then 3
  else 4

/-- `abs(u - prev) >= EPSILON_METRICS_DELTA`; `inf - inf` is not a number, which compares false. -/
def deltaReached : Utilization → Utilization → Bool
  | .finite u, .finite prev => epsilonMetricsDelta ≤ |u - prev|
  | .infinite, .infinite => false
  | _, _ => true

/-- `0.0 if bps <= 0 else inf` without a capacity, else the share of the capacity;
`metrics_service.py:177–180,226–229`. -/
def utilizationOf (bps : ℚ) (capMbps : Option ℚ) : Utilization :=
  match capMbps.filter (fun cap ↦ 0 < cap) with
  | none => if bps ≤ 0 then .finite 0 else .infinite
  | some cap => .finite (bps / (cap * 1000000))

/-! ### Snapshots -/

/-- An entry of `_last` or `_last_links`; `metrics_service.py:44–48`. -/
structure Reading where
  bps : ℚ
  utilization : Utilization
  bucket : Nat
  deriving DecidableEq, Repr

/-- The state of the service; `metrics_service.py:42–48`. -/
structure MetricsState where
  last : Dict String Reading := ∅
  lastTick : Int := 0
  lastLinks : Dict String Reading := ∅

/-- What a tick measures for a device or a link, and an item of its events. -/
structure Measure where
  id : String
  bps : ℚ
  utilization : Utilization
  deriving DecidableEq, Repr

/-- The reading of a measure. -/
def Measure.reading (m : Measure) : Reading :=
  ⟨m.bps, m.utilization, utilizationBucket m.utilization⟩

/-- The entry that replaces `prev`, if any does, and whether it is emitted;
`metrics_service.py:187–202,231–246`. -/
def replacement (prev : Option Reading) (m : Measure) : Option (Reading × Bool) :=
  match prev with
  | none =>
    if 0 < m.bps then some (m.reading, true)
    else some (⟨0, .finite 0, utilizationBucket (.finite 0)⟩, false)
  | some prev =>
    if utilizationBucket m.utilization ≠ prev.bucket ∨
        deltaReached m.utilization prev.utilization then
      some (m.reading, true)
    else none

/-- One iteration of the diff loops over devices and links. -/
def diff (acc : Dict String Reading × List Measure) (m : Measure) :
    Dict String Reading × List Measure :=
  match replacement (acc.1.lookup m.id) m with
  | none => acc
  | some (reading, emitted) =>
    (acc.1.insert m.id reading, if emitted then acc.2 ++ [m] else acc.2)

/-- An event of a tick. -/
inductive MetricsEvent where
  | deviceMetricsUpdated (devices : List Measure) (tick : Int)
  | linkMetricsUpdated (links : List Measure) (tick : Int)
  deriving DecidableEq, Repr

/-! ### Totals -/

/-- A dictionary of sums, in order of insertion. -/
abbrev Totals := List (String × ℚ)

/-- `totals[id] = totals.get(id, 0.0) + bps`. -/
def Totals.bump (id : String) (bps : ℚ) : Totals → Totals
  | [] => [(id, bps)]
  | (k, sum) :: rest =>
    if k = id then (k, sum + bps) :: rest else (k, sum) :: Totals.bump id bps rest

/-- `totals.get(id)`. -/
def Totals.get? (totals : Totals) (id : String) : Option ℚ :=
  (totals.find? (fun e ↦ e.1 = id)).map Prod.snd

/-- One tick: its samples and its number. -/
structure Tick where
  samples : List (String × ℚ)
  tick : Int
  deriving DecidableEq, Repr

/-- `base`; `metrics_service.py:119–121`. -/
def base (t : Tick) : Totals := t.samples.foldl (fun totals s ↦ totals.bump s.1 s.2) []

/-! ### The logical graph -/

/-- The device of an interface id, by its suffix; `metrics_service.py:93–103`. -/
def endDevice (interfaceId : String) : String :=
  if "-if0".toList <:+ interfaceId.toList then
    String.ofList (interfaceId.toList.take (interfaceId.toList.length - 4))
  else interfaceId

section Graph

variable (db : Catalog)

/-- `d_recs`; `metrics_service.py:90`. -/
def deviceRecords : List DeviceRecord := db.devices.map (fun d ↦ ⟨d.id, d.type⟩)

/-- `l_recs`; `metrics_service.py:91–106`. -/
def linkRecords : List LinkRecord :=
  db.links.map (fun l ↦ ⟨l.id, endDevice l.aInterfaceId, endDevice l.bInterfaceId, l.kind⟩)

/-- `g.has_node`. -/
def hasNode (id : String) : Bool := id ∈ recordIds logicalActive (deviceRecords db)

/-- `anchors`; `metrics_service.py:130–134`. -/
def anchors : List String :=
  recordIds (fun type ↦ type = .backboneGateway ∨ type = .coreRouter) (deviceRecords db)

/-- The `id` of an edge that is not synthetic: of the last link between two nodes, because the graph
keeps one edge and a later link overwrites its attributes; `pathfinding.py:177–203`. -/
def edgeLinkId (u v : String) : Option String :=
  let joins := fun l : LinkRecord ↦
    (l.kind = .fiber ∨ l.kind = .p2p) ∧ hasNode db l.aDeviceId ∧ hasNode db l.bDeviceId ∧
      ((l.aDeviceId, l.bDeviceId) = (u, v) ∨ (l.aDeviceId, l.bDeviceId) = (v, u))
  ((linkRecords db).reverse.find? joins).map LinkRecord.id

/-! ### One tick -/

variable (shortestPath : String → String → Option (List String))

/-- The path to the nearest anchor, the first of equally near ones; `metrics_service.py:138–150`. -/
def bestPath (leaf : String) : Option (List String) :=
  (anchors db).foldl (fun best anchor ↦
    match shortestPath leaf anchor, best with
    | none, _ => best
    | some path, none => some path
    | some path, some shortest => if path.length < shortest.length then some path else best) none

/-- The path along which a leaf counts; `metrics_service.py:135–152`. -/
def leafPath (leaf : String) : List String :=
  if hasNode db leaf then
    match bestPath db shortestPath leaf with
    | some path => if path.length < 2 then [] else path
    | none => []
  else []

/-- `totals` after the loop over the leaves; `metrics_service.py:126,153–155`. -/
def totals (t : Tick) : Totals :=
  (base t).foldl (fun totals leaf ↦
    ((leafPath db shortestPath leaf.1).drop 1).foldl (fun totals node ↦ totals.bump node leaf.2)
      totals) (base t)

/-- `link_totals` after the loop over the leaves; `metrics_service.py:128,156–162`. -/
def linkTotals (t : Tick) : Totals :=
  (base t).foldl (fun totals leaf ↦
    let path := leafPath db shortestPath leaf.1
    ((path.zip (path.drop 1)).filterMap (fun e ↦ edgeLinkId db e.1 e.2)).foldl
      (fun totals linkId ↦ totals.bump linkId leaf.2) totals) []

/-- What a tick measures for a device; `metrics_service.py:165–180`. -/
def deviceMeasure (t : Tick) (d : Device) : Measure :=
  let bps := ((totals db shortestPath t).get? d.id).getD 0
  ⟨d.id, bps, utilizationOf bps ((getEffectiveDeviceCapacityMbps db d).map (fun cap ↦ (cap : ℚ)))⟩

/-- The capacity of a link by its id, 1000 Mbps without a row; `metrics_service.py:205–225`. -/
def linkCapacity (linkId : String) : ℚ := ((db.getLink linkId).map (linkCapMbps db)).getD 1000

/-- What a tick measures for a link that carries traffic; `metrics_service.py:219–230`. -/
def linkMeasure (linkId : String) (bps : ℚ) : Measure :=
  ⟨linkId, bps, utilizationOf bps (some (linkCapacity db linkId))⟩

/-- `process_tick`: the state after it and the events that it publishes;
`metrics_service.py:111–254`. -/
def processTick (st : MetricsState) (t : Tick) : MetricsState × List MetricsEvent :=
  let devices := (db.devices.map (deviceMeasure db shortestPath t)).foldl diff (st.last, [])
  let links := ((linkTotals db shortestPath t).map (fun e ↦ linkMeasure db e.1 e.2)).foldl diff
    (st.lastLinks, [])
  (⟨devices.1, t.tick, links.1⟩,
    (if devices.2 = [] then [] else [.deviceMetricsUpdated devices.2 t.tick]) ++
      if links.2 = [] then [] else [.linkMetricsUpdated links.2 t.tick])

end Graph

/-! ### The snapshot -/

/-- An entry of the snapshot; `metrics_service.py:262–269`. -/
structure SnapshotEntry where
  bps : ℚ
  utilization : ℚ
  version : Int := 0
  deriving DecidableEq, Repr

/-- Infinity is clamped; `metrics_service.py:264,268`. -/
def Reading.entry (r : Reading) : SnapshotEntry where
  bps := r.bps
  utilization :=
    match r.utilization with
    | .infinite => 1000000000
    | .finite fraction => fraction

/-- The result of `get_snapshot`. -/
structure MetricsSnapshot where
  lastTick : Int
  devices : String → Option SnapshotEntry
  links : String → Option SnapshotEntry

/-- `get_snapshot`; `metrics_service.py:256–270`. -/
def getSnapshot (st : MetricsState) : MetricsSnapshot where
  lastTick := st.lastTick
  devices := fun id ↦ (st.last.lookup id).map Reading.entry
  links := fun id ↦ (st.lastLinks.lookup id).map Reading.entry

end Unoc.Traffic.MetricsService
