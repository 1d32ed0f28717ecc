import Unoc.Base.System
import Unoc.Traffic.CongestionRuns

/-!
# Concurrent ticks

`engine-go/internal/api/handlers.go`. Any number of `tickHandler` requests run at once. They share
the tick counter, the congestion state and the latest snapshot, and each access to one of these is
one atomic operation or one locked section, so a request is a sequence of actions that other
requests interleave with. `snapshotHandler` reads the latest snapshot at any time.
-/

namespace Unoc.Api

open Unoc.Base Unoc.Model Unoc.Traffic

/-! ### Requests and snapshots -/

/-- `TickRequest`; `handlers.go:33–36`. -/
structure TickRequest where
  tick : Int64 := 0
  randomSeed : Int := 0

/-- The default seed; `handlers.go:106,122`. -/
def defaultSeed : Int := 0xAA55AA55

/-- The request after binding, with the defaults where the body does not bind;
`handlers.go:102–107`. -/
def bindRequest (req : Option TickRequest) : TickRequest :=
  req.getD { tick := 0, randomSeed := defaultSeed }

/-- `DeviceMetrics` of a snapshot; `handlers.go:64–79`. -/
structure DeviceMetrics where
  upBps : ℚ
  downBps : ℚ
  upMbps : ℚ
  downMbps : ℚ
  demandUpBps : ℚ
  demandDownBps : ℚ
  demandUpMbps : ℚ
  demandDownMbps : ℚ
  scaleUp : ℚ
  scaleDown : ℚ
  throttled : Bool
  capacityMbps : ℚ
  utilization : ℚ
  congested : Bool
  deriving DecidableEq, Repr

/-- `LinkMetrics` of a snapshot; `handlers.go:84–94`. -/
structure LinkMetrics where
  upBps : ℚ
  downBps : ℚ
  trafficMbps : ℚ
  demandUpBps : ℚ
  demandDownBps : ℚ
  demandMbps : ℚ
  capacityMbps : ℚ
  utilization : ℚ
  congested : Bool
  deriving DecidableEq, Repr

/-- `SnapshotResponse`; `handlers.go:53–59`. -/
structure SnapshotResponse where
  tick : Int64
  timestamp : String
  deviceMetrics : GoMap String DeviceMetrics
  linkMetrics : GoMap String LinkMetrics
  leavesCount : Nat

/-- `TickResponse` of a completed tick, without its time fields; `handlers.go:39–50`. -/
structure TickResponse where
  tick : Int64
  leavesCount : Nat
  devicesWithTraffic : Nat
  linksWithTraffic : Nat
  congestedDevices : Nat
  congestedLinks : Nat
  deriving DecidableEq, Repr

/-- Delivered over requested traffic, or one where nothing was requested; `handlers.go:233,240–245`. -/
def deliveredRatio (delivered demand : ℚ) : ℚ := if 0 < demand then delivered / demand else 1

/-- One device of a snapshot; `handlers.go:218–265`. -/
def snapshotDevice (result : GenerationResult) (cs : CongestionState) (devID : String)
    (metrics : FlowMetrics) : DeviceMetrics :=
  let demand := (result.deviceDemand.lookup devID).getD metrics
  let shaping := (result.leafShaping.lookup devID).getD
    (let scaleUp := deliveredRatio metrics.upBps demand.upBps
     let scaleDown := deliveredRatio metrics.downBps demand.downBps
     ⟨scaleUp, scaleDown, scaleUp < throttleScaleThreshold || scaleDown < throttleScaleThreshold⟩)
  { upBps := metrics.upBps
    downBps := metrics.downBps
    upMbps := metrics.upBps / 1000000
    downMbps := metrics.downBps / 1000000
    demandUpBps := demand.upBps
    demandDownBps := demand.downBps
    demandUpMbps := demand.upBps / 1000000
    demandDownMbps := demand.downBps / 1000000
    scaleUp := shaping.scaleUp
    scaleDown := shaping.scaleDown
    throttled := shaping.throttled
    capacityMbps := (cs.devices.capacityMbps.lookup devID).getD 0
    utilization := (cs.devices.utilization.lookup devID).getD 0
    congested := flag cs.devices.congested devID }

/-- One link of a snapshot; `handlers.go:267–291`. -/
def snapshotLink (result : GenerationResult) (cs : CongestionState) (linkID : String)
    (metrics : FlowMetrics) : LinkMetrics :=
  let demand := (result.linkDemand.lookup linkID).getD metrics
  { upBps := metrics.upBps
    downBps := metrics.downBps
    trafficMbps := (metrics.upBps + metrics.downBps) / 1000000
    demandUpBps := demand.upBps
    demandDownBps := demand.downBps
    demandMbps := (demand.upBps + demand.downBps) / 1000000
    capacityMbps := (cs.links.capacityMbps.lookup linkID).getD 0
    utilization := (cs.links.utilization.lookup linkID).getD 0
    congested := flag cs.links.congested linkID }

/-- The snapshot that a request builds from its result and the congestion state it finds;
`handlers.go:208–292`. -/
def buildSnapshot (o : DetectionOrders) (tick : Int64) (timestamp : String)
    (result : GenerationResult) (cs : CongestionState) : SnapshotResponse where
  tick := tick
  timestamp := timestamp
  deviceMetrics := (result.deviceMetrics.range o.devices).foldl
    (fun m e ↦ m.insert e.1 (snapshotDevice result cs e.1 e.2)) ∅
  linkMetrics := (result.linkMetrics.range o.links).foldl
    (fun m e ↦ m.insert e.1 (snapshotLink result cs e.1 e.2)) ∅
  leavesCount := result.leavesCount

/-! ### The server -/

/-- The rows that a request fetches, one table after the other; `handlers.go:131–189`. -/
structure Rows where
  devices : List Device := []
  links : List Link := []
  interfaces : List Interface := []
  tariffs : List Tariff := []
  hardwareModels : List HardwareModel := []
  portProfiles : List PortProfile := []

/-- Where a request stands. `detection` is what its own `DetectCongestion` call returned, which the
handler itself does not keep. -/
inductive Phase where
  | started (tick : Int64) (randomSeed : Int)
  | generated (tick : Int64) (cache : TopologyCache) (result : GenerationResult)
  | detected (tick : Int64) (result : GenerationResult) (detection : CongestionState)
  | built (snapshot : SnapshotResponse) (result : GenerationResult) (detection : CongestionState)
  | counted (snapshot : SnapshotResponse) (response : TickResponse) (detection : CongestionState)
  | responded (response : TickResponse)
  | failed

/-- A stored snapshot with the detection of the request that stored it. -/
structure Publication where
  snapshot : SnapshotResponse
  detection : CongestionState

/-- The global state and the requests in the order in which they reached the counter;
`handlers.go:19–30`. -/
structure Server where
  tickCounter : Int64 := 0
  congestionState : CongestionState := newCongestionState
  latestSnapshot : Option Publication := none
  requests : List Phase := []
  /-- Ticks that snapshot reads returned, oldest first. -/
  observed : List Int64 := []

/-- One atomic step of a request or of a snapshot read. -/
inductive Action where
  | receive (req : Option TickRequest)
  | fail (i : Nat)
  | generate (i : Nat) (rows : Rows) (adjacency : AdjacencyOrders) (flows : GenerationOrders)
      (shapingEnabled : Bool)
  | detect (i : Nat) (o : DetectionOrders)
  | build (i : Nat) (o : DetectionOrders) (timestamp : String)
  | count (i : Nat) (o : DetectionOrders)
  | publish (i : Nat)
  | read

/-- The result of a request's own computation; `handlers.go:191–198`. -/
def generate (rows : Rows) (adjacency : AdjacencyOrders) (flows : GenerationOrders)
    (shapingEnabled : Bool) (tick : Int64) (randomSeed : Int) : TopologyCache × GenerationResult :=
  let cache := buildTopologyCacheWithCatalog rows.devices rows.links rows.interfaces rows.tariffs
    rows.hardwareModels rows.portProfiles
  (cache, generateFlowsWithShaping flows cache (buildAdjacency adjacency cache) tick.toInt randomSeed
    shapingEnabled)

namespace Server

variable (s : Server)

/-- Move a request to its next phase. -/
def advance (i : Nat) (phase : Phase) : Server := { s with requests := s.requests.set i phase }

/-- The counter after a request, which is also its tick; `handlers.go:110–118`. -/
def nextTick (req : TickRequest) : Int64 := if 0 < req.tick then req.tick else s.tickCounter + 1

/-- One step, where it is enabled. -/
def act : Action → Option Server
  | .receive req =>
    let req := bindRequest req
    let randomSeed := if req.randomSeed = 0 then defaultSeed else req.randomSeed
    some { s with
      tickCounter := s.nextTick req
      requests := s.requests ++ [.started (s.nextTick req) randomSeed] }
  | .fail i =>
    match s.requests[i]? with
    | some (.started _ _) => some (s.advance i .failed)
    | _ => none
  | .generate i rows adjacency flows shapingEnabled =>
    match s.requests[i]? with
    | some (.started tick randomSeed) =>
      let generated := generate rows adjacency flows shapingEnabled tick randomSeed
      some (s.advance i (.generated tick generated.1 generated.2))
    | _ => none
  | .detect i o =>
    match s.requests[i]? with
    | some (.generated tick cache result) =>
      let detection := detectCongestion o result cache (some s.congestionState)
      some { s.advance i (.detected tick result detection) with congestionState := detection }
    | _ => none
  | .build i o timestamp =>
    match s.requests[i]? with
    | some (.detected tick result detection) =>
      let snapshot := buildSnapshot o tick timestamp result s.congestionState
      some (s.advance i (.built snapshot result detection))
    | _ => none
  | .count i o =>
    match s.requests[i]? with
    | some (.built snapshot result detection) =>
      let congested := s.congestionState.getCongestedEntities o
      some (s.advance i (.counted snapshot
        { tick := snapshot.tick
          leavesCount := result.leavesCount
          devicesWithTraffic := result.deviceMetrics.keys.length
          linksWithTraffic := result.linkMetrics.keys.length
          congestedDevices := congested.1.length
          congestedLinks := congested.2.length }
        detection))
    | _ => none
  | .publish i =>
    match s.requests[i]? with
    | some (.counted snapshot response detection) =>
      some { s.advance i (.responded response) with latestSnapshot := some ⟨snapshot, detection⟩ }
    | _ => none
  | .read =>
    match s.latestSnapshot with
    | some publication => some { s with observed := s.observed ++ [publication.snapshot.tick] }
    | none => some s

end Server

/-- All interleavings of tick requests and snapshot reads. -/
def ticks : System Server Action := System.ofAct (· = {}) Server.act

end Unoc.Api
