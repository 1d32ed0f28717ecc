import Unoc.Base.Flags
import Unoc.Traffic.Generation

/-!
# Congestion detection

`engine-go/internal/traffic/congestion.go`. One call visits the devices and the links that carry
traffic and are in the cache, and builds the next state from nothing: an entity that it does not
visit is in no map of the new state and has no event.
-/

namespace Unoc.Traffic

open Unoc.Base Unoc.Base.Flags Unoc.Model

/-- `CongestionThresholdHigh`; `congestion.go:10`. -/
def congestionThresholdHigh : ℚ := 90 / 100

/-- `CongestionThresholdLow`; `congestion.go:13`. -/
def congestionThresholdLow : ℚ := 85 / 100

/-- `EntityType` of an event. -/
inductive EntityType where
  | device
  | link
  deriving DecidableEq, Repr

/-- `CongestionEvent`; `congestion.go:41–47`. -/
structure CongestionEvent where
  entityType : EntityType
  entityID : String
  oldState : Bool
  newState : Bool
  utilization : ℚ
  deriving DecidableEq, Repr

/-- The maps that `CongestionState` keeps for one type of entity. -/
structure EntityCongestion where
  congested : GoMap String Bool := ∅
  utilization : GoMap String ℚ := ∅
  capacityMbps : GoMap String ℚ := ∅

/-- `CongestionState`, with `DeviceCongested`, `DeviceUtilization` and `DeviceCapacityMbps` as the
maps of `devices` and likewise for `links`; `congestion.go:17–38`. -/
structure CongestionState where
  devices : EntityCongestion := {}
  links : EntityCongestion := {}
  congestionEvents : List CongestionEvent := []

/-- `NewCongestionState`; `congestion.go:50–60`. -/
def newCongestionState : CongestionState := {}

/-- `device.IsLeaf()`; `device.go:94–100`. -/
def isLeaf (device : Device) : Bool :=
  match device.type with
  | .ont | .businessOnt | .aonCpe => true
  | _ => false

/-! ### One entity -/

/-- What a tick reads of an entity that carries traffic and is in the cache. -/
structure Reading where
  capacityMbps : ℚ
  utilization : ℚ
  /-- Whether shaping throttled a leaf; other entities have none. -/
  leafThrottled : Option Bool
  deriving DecidableEq, Repr

/-- The device with its metrics; `congestion.go:71–78,88–99`. -/
def deviceReading (result : GenerationResult) (cache : TopologyCache) (devID : String)
    (metrics : FlowMetrics) : Option Reading :=
  (cache.deviceByID.lookup devID).map (fun device ↦
    let capacityMbps := effectiveDeviceCapacityMbps device cache
    { capacityMbps
      utilization := fullDuplexUtilization metrics.upBps metrics.downBps capacityMbps
      leafThrottled :=
        if isLeaf device then some ((result.leafShaping.lookup devID).any LeafShaping.throttled)
        else none })

/-- The link with its metrics; `congestion.go:139–146`. -/
def linkReading (cache : TopologyCache) (linkID : String) (metrics : FlowMetrics) : Option Reading :=
  (cache.linkByID.lookup linkID).map (fun link ↦
    let capacityMbps := effectiveLinkCapacityMbps (some link) cache
    { capacityMbps
      utilization := fullDuplexUtilization metrics.upBps metrics.downBps capacityMbps
      leafThrottled := none })

/-- The verdict on an entity: shaping decides on a leaf, nothing without capacity is congested, and
the rest has hysteresis; `congestion.go:87–123,155–182`. -/
def Reading.isCongested (r : Reading) (wasCongested : Bool) : Bool :=
  match r.leafThrottled with
  | some throttled => throttled
  | none =>
    if r.capacityMbps ≤ 0 then false
    else if wasCongested then !decide (r.utilization < congestionThresholdLow)
    else decide (congestionThresholdHigh ≤ r.utilization)

/-- The event of an entity whose state changed; `congestion.go:127–135,185–193`. -/
def transition (entityType : EntityType) (id : String) (r : Reading) (wasCongested : Bool) :
    List CongestionEvent :=
  if r.isCongested wasCongested ≠ wasCongested then
    [{ entityType
       entityID := id
       oldState := wasCongested
       newState := r.isCongested wasCongested
       utilization := r.utilization }]
  else []

/-- `prevState.…Congested[id]`. -/
def flag (congested : GoMap String Bool) (id : String) : Bool := (congested.lookup id).getD false

/-! ### One tick -/

/-- The body of both loops, with the maps and the events of the new state; `congestion.go:71–136`,
`congestion.go:139–194`. -/
def visit (entityType : EntityType) (read : String → FlowMetrics → Option Reading)
    (prev : GoMap String Bool) (new : EntityCongestion × List CongestionEvent)
    (e : String × FlowMetrics) : EntityCongestion × List CongestionEvent :=
  match read e.1 e.2 with
  | none => new
  | some r =>
    let wasCongested := flag prev e.1
    ({ congested := new.1.congested.insert e.1 (r.isCongested wasCongested)
       utilization := new.1.utilization.insert e.1 r.utilization
       capacityMbps := new.1.capacityMbps.insert e.1 r.capacityMbps },
      new.2 ++ transition entityType e.1 r wasCongested)

/-- The orders of the two `range` loops. -/
structure DetectionOrders where
  devices : RangeOrder String
  links : RangeOrder String

/-- `DetectCongestion`; a nil state has no congested entity; `congestion.go:63–221`. -/
def detectCongestion (o : DetectionOrders) (result : GenerationResult) (cache : TopologyCache)
    (prevState : Option CongestionState) : CongestionState :=
  let prev := prevState.getD newCongestionState
  let devices := (result.deviceMetrics.range o.devices).foldl
    (visit .device (deviceReading result cache) prev.devices.congested) ({}, [])
  let links := (result.linkMetrics.range o.links).foldl
    (visit .link (linkReading cache) prev.links.congested) ({}, devices.2)
  { devices := devices.1, links := links.1, congestionEvents := links.2 }

/-- The ids of one type in a `range` over the flags; `congestion.go:228–238`. -/
def congestedIds (o : RangeOrder String) (congested : GoMap String Bool) : List String :=
  ((congested.range o).filter (fun e ↦ e.2)).map Prod.fst

/-- `GetCongestedEntities`; `congestion.go:224–241`. -/
def CongestionState.getCongestedEntities (cs : CongestionState) (o : DetectionOrders) :
    List String × List String :=
  (congestedIds o.devices cs.devices.congested, congestedIds o.links cs.links.congested)

end Unoc.Traffic
