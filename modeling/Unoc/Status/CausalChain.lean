import Unoc.Base.Dict
import Unoc.Base.Frontier
import Unoc.Status.Affected
import Unoc.Traffic.Cache

/-!
# Causal chains

The devices that a change affects, as `engine-go/internal/status/` finds them and as the fallback in
`backend/services/status_service.py` does. The fallback asks whether a device propagates when it
leaves the queue, the engine when a neighbour enters it.
-/

namespace Unoc.Status

open Unoc.Base Unoc.Model

/-! ### The fallback -/

/-- `CausalChainResult`, without the links, which neither side fills in. -/
structure CausalChain where
  affectedDevices : List String
  dependencyPaths : Dict String (List String)

/-- `interface_to_device`; `status_service.py:362–376`. -/
def interfaceToDevice (db : Database) : Dict String String :=
  db.devices.foldl (fun m device ↦
    (db.interfaces.filter (fun i ↦ i.deviceId = device.id)).foldl
      (fun m i ↦ m.insert i.id device.id) m) ∅

/-- The body of the link loop; `status_service.py:381–400`. -/
def addDependency (db : Database) (graph : Dict String (List String)) (link : Link) :
    Dict String (List String) :=
  if isLinkPassable (topology db) link then
    match truthy ((interfaceToDevice db).lookup link.aInterfaceId),
      truthy ((interfaceToDevice db).lookup link.bInterfaceId) with
    | some a, some b =>
      (graph.update a [] (fun ids ↦ ids ++ [b])).update b [] (fun ids ↦ ids ++ [a])
    | _, _ => graph
  else graph

/-- `_build_dependency_graph_python`; `status_service.py:347–402`. -/
def buildDependencyGraphPython (db : Database) : Dict String (List String) :=
  db.links.foldl (addDependency db) ∅

/-- `_is_device_up_candidate_python`; `status_service.py:405–426`. -/
def isDeviceUpCandidatePython (device : Device) : Bool :=
  device.adminOverrideStatus = none && !(device.deriveRole = .active && !device.provisioned)

/-- The ids that a dequeued id looks at; `status_service.py:324–334`. -/
def downstreamPython (db : Database) (id : String) : List String :=
  match db.getDevice id with
  | none => []
  | some device =>
    if isDeviceUpCandidatePython device then ((buildDependencyGraphPython db).lookup id).getD []
    else []

/-- The queue loop; `status_service.py:317–338`. -/
def causalLoop (downstream : String → List String) :
    Nat → List String → List String → Dict String (List String) → CausalChain
  | 0, _, visited, paths => ⟨visited, paths⟩
  | _ + 1, [], visited, paths => ⟨visited, paths⟩
  | fuel + 1, id :: queue, visited, paths =>
    if id ∈ visited then causalLoop downstream fuel queue visited paths
    else
      let fresh := (downstream id).filter (fun x ↦ x ∉ id :: visited)
      causalLoop downstream fuel (queue ++ fresh) (id :: visited)
        (fresh.foldl (fun m x ↦ m.insert x ((m.lookup id).getD [] ++ [x])) paths)

/-- `detect_causal_chain_python`; the loop runs at most once for each changed id and once for each
entry of the graph; `status_service.py:274–344`. -/
def detectCausalChainPython (db : Database) (changedDeviceIds : List String) : CausalChain :=
  let graph := buildDependencyGraphPython db
  let fuel := changedDeviceIds.length +
    (graph.keys.map (fun id ↦ (downstreamPython db id).length)).sum
  causalLoop (downstreamPython db) fuel changedDeviceIds []
    (changedDeviceIds.foldl (fun m id ↦ m.insert id [id]) ∅)

/-! ### The engine -/

namespace Engine

open Unoc.Traffic (GoMap RangeOrder)

/-- `DeviceRecord`; `causalchain.go:55–63`. -/
structure DeviceRecord where
  id : String
  role : DeviceRole
  adminOverrideStatus : Option Status
  provisioned : Bool
  parentContainerId : Option String
  deriving DecidableEq, Repr

/-- `LinkRecord`; `causalchain.go:66–73`. -/
structure LinkRecord where
  id : String
  aDeviceId : String
  bDeviceId : String
  status : Status
  adminOverrideStatus : Option Status
  physicallyViable : Bool
  deriving DecidableEq, Repr

/-- `deriveDeviceRole`; there is no constant for CORE_SITE; `service.go:484–499`. -/
def deriveDeviceRole : DeviceType → DeviceRole
  | .odf | .splitter | .hop | .nvt => .passive
  | .backboneGateway | .pop => .alwaysOnline
  | _ => .active

/-- One device of `fetchTopologyData`; `service.go:259–291`. -/
def deviceRecord (d : Device) : DeviceRecord where
  id := d.id
  role := deriveDeviceRole d.type
  adminOverrideStatus := d.adminOverrideStatus
  provisioned := d.provisioned
  parentContainerId := d.parentContainerId

/-- `PhysicallyViable`; `service.go:349–358`. -/
def physicallyViable (link : Link) : Bool :=
  if link.adminOverrideStatus = some .up then true
  else if link.adminOverrideStatus = some .down then false
  else link.status = .up

/-- One row of the link query, joined with both interfaces; `service.go:304–361`. -/
def linkRecord (db : Database) (link : Link) : Option LinkRecord :=
  if link.adminOverrideStatus = some .down then none
  else do
    let ia ← db.getInterface link.aInterfaceId
    let ib ← db.getInterface link.bInterfaceId
    return ⟨link.id, ia.deviceId, ib.deviceId, link.status, link.adminOverrideStatus,
      physicallyViable link⟩

/-- `fetchTopologyData`, without the interface map, which the search does not read;
`service.go:234–404`. -/
def fetchTopologyData (db : Database) : List DeviceRecord × List LinkRecord :=
  ((db.devices.insertionSort (fun a b ↦ a.id ≤ b.id)).map deviceRecord,
    (db.links.insertionSort (fun a b ↦ a.id ≤ b.id)).filterMap (linkRecord db))

/-- `DependencyGraph`, as far as the search reads it; `causalchain.go:76–91`. -/
structure DependencyGraph where
  downstreamEdges : GoMap String (Finset String) := ∅
  devices : GoMap String DeviceRecord := ∅

namespace DependencyGraph

variable (g : DependencyGraph)

/-- `g.DownstreamEdges[id]`, made on demand. -/
def downstream (id : String) : Finset String := (g.downstreamEdges.lookup id).getD ∅

/-- `g.DownstreamEdges[a][b] = true`. -/
def addEdge (a b : String) : DependencyGraph :=
  { g with downstreamEdges := g.downstreamEdges.insert a (insert b (g.downstream a)) }

/-- `AddDevice`; `causalchain.go:121–134`. -/
def addDevice (dev : DeviceRecord) : DependencyGraph where
  downstreamEdges := g.downstreamEdges.insert dev.id (g.downstream dev.id)
  devices := g.devices.insert dev.id dev

/-- `AddLink` in both directions; `causalchain.go:137–170`. -/
def addLink (link : LinkRecord) : DependencyGraph :=
  (g.addEdge link.aDeviceId link.bDeviceId).addEdge link.bDeviceId link.aDeviceId

/-- `AddContainmentEdge`; `causalchain.go:173–194`. -/
def addContainmentEdge (parentId childId : String) : DependencyGraph :=
  (g.addEdge parentId childId).addEdge childId parentId

/-- `IsDeviceUpCandidate`; `causalchain.go:228–250`. -/
def isDeviceUpCandidate (deviceId : String) : Bool :=
  match g.devices.lookup deviceId with
  | none => false
  | some dev =>
    if dev.adminOverrideStatus = some .down then false
    else match dev.role with
      | .alwaysOnline => true
      | .passive => true
      | .active => dev.provisioned

end DependencyGraph

/-- A device whose container is set; `causalchain.go:393–397`. -/
def addContainer (g : DependencyGraph) (dev : DeviceRecord) : DependencyGraph :=
  match truthy dev.parentContainerId with
  | none => g
  | some parent => g.addContainmentEdge parent dev.id

/-- `BuildDependencyGraphFromTopology`; `causalchain.go:369–400`. -/
def buildDependencyGraphFromTopology (devices : List DeviceRecord) (links : List LinkRecord) :
    DependencyGraph :=
  let g := devices.foldl DependencyGraph.addDevice {}
  let g := (links.filter LinkRecord.physicallyViable).foldl DependencyGraph.addLink g
  devices.foldl addContainer g

/-- The graph of a request; `service.go:50–75`. -/
def dependencyGraph (db : Database) : DependencyGraph :=
  buildDependencyGraphFromTopology (fetchTopologyData db).1 (fetchTopologyData db).2

/-- `queueItem`; `causalchain.go:285–289`. -/
structure QueueItem where
  deviceId : String
  path : List String
  depth : Nat

/-- The variables of the search and the result under construction. -/
structure Search where
  queue : List QueueItem := []
  visited : Finset String := ∅
  affectedDevices : List String := []
  dependencyPaths : GoMap String (List String) := ∅
  depths : GoMap String Nat := ∅

namespace Search

variable (st : Search)

/-- Mark, record and queue a device. -/
def add (item : QueueItem) : Search where
  queue := st.queue ++ [item]
  visited := insert item.deviceId st.visited
  affectedDevices := st.affectedDevices ++ [item.deviceId]
  dependencyPaths := st.dependencyPaths.insert item.deviceId item.path
  depths := st.depths.insert item.deviceId item.depth

/-- A changed id; `causalchain.go:293–306`. -/
def addSeed (g : DependencyGraph) (deviceId : String) : Search :=
  if (g.devices.lookup deviceId).isSome then st.add ⟨deviceId, [deviceId], 0⟩ else st

/-- A neighbour of a dequeued device; `causalchain.go:325–356`. -/
def visit (g : DependencyGraph) (item : QueueItem) (neighborId : String) : Search :=
  if neighborId ∈ st.visited then st
  else if g.isDeviceUpCandidate neighborId then
    st.add ⟨neighborId, item.path ++ [neighborId], item.depth + 1⟩
  else st

end Search

/-- The queue loop, with the order that `range` takes in each iteration; `causalchain.go:309–359`. -/
def searchLoop (g : DependencyGraph) (orders : Nat → RangeOrder String) : Nat → Search → Search
  | 0, st => st
  | fuel + 1, st =>
    match st.queue with
    | [] => st
    | item :: rest =>
      searchLoop g orders fuel
        (((orders fuel).keys (g.downstream item.deviceId)).foldl (fun st id ↦ st.visit g item id)
          { st with queue := rest })

/-- `DetectCausalChain`; each changed id and each device is queued once; `causalchain.go:264–365`. -/
def detectCausalChain (g : DependencyGraph) (orders : Nat → RangeOrder String)
    (changedDeviceIds : List String) : Search :=
  searchLoop g orders (changedDeviceIds.length + g.devices.keys.length)
    (changedDeviceIds.foldl (fun st id ↦ st.addSeed g id) {})

end Engine

end Unoc.Status
