import Mathlib.Data.Finset.Insert
import Unoc.Traffic.Cache

/-!
# Device adjacency of the traffic engine

`engine-go/internal/graph/adjacency.go`. Neighbours are sets, and a pair of devices keeps the
link that was written last. Ids that a map does not hold read as the empty string.
-/

namespace Unoc.Traffic

open Unoc.Model

/-- `AdjacencyGraph`; `adjacency.go:9–13`. -/
structure AdjacencyGraph where
  neighbors : GoMap String (Finset String) := ∅
  linkByPair : GoMap String String := ∅
  ifaceDevice : GoMap String String := ∅

/-- `makePairKey`; `adjacency.go:105–110`. -/
def makePairKey (devA devB : String) : String :=
  if devA < devB then devA ++ "|" ++ devB else devB ++ "|" ++ devA

namespace AdjacencyGraph

/-- `graph.IfaceDevice[interfaceID]`. -/
def deviceOf (g : AdjacencyGraph) (interfaceID : String) : String :=
  (g.ifaceDevice.lookup interfaceID).getD ""

/-- `graph.Neighbors[a][b] = true`, with the inner map made on demand; `adjacency.go:78–85`. -/
def addNeighbor (g : AdjacencyGraph) (a b : String) : AdjacencyGraph :=
  { g with neighbors := g.neighbors.insert a (insert b ((g.neighbors.lookup a).getD ∅)) }

/-- `GetNeighbors`, in the order of its `range`; `adjacency.go:113–125`. -/
def getNeighbors (g : AdjacencyGraph) (order : RangeOrder String) (deviceID : String) :
    List String :=
  match g.neighbors.lookup deviceID with
  | none => []
  | some neighbors => order.keys neighbors

/-- `GetLinkBetween`; `adjacency.go:128–130`. -/
def getLinkBetween (g : AdjacencyGraph) (devA devB : String) : String :=
  (g.linkByPair.lookup (makePairKey devA devB)).getD ""

end AdjacencyGraph

/-- The inline link status of `BuildAdjacency`: the link's override wins, then a forced-down
endpoint device, then the stored status; `adjacency.go:45–60`. -/
def inlineLinkStatus (g : AdjacencyGraph) (deviceOverrides : GoMap String Status) (ln : Link) :
    Status :=
  match ln.adminOverrideStatus with
  | some status => status
  | none =>
    if deviceOverrides.lookup (g.deviceOf ln.aInterfaceId) = some .down then .down
    else if deviceOverrides.lookup (g.deviceOf ln.bInterfaceId) = some .down then .down
    else ln.status

/-- The body of the link loop; `adjacency.go:44–91`. -/
def addLink (deviceOverrides : GoMap String Status) (g : AdjacencyGraph) (ln : Link) :
    AdjacencyGraph :=
  if inlineLinkStatus g deviceOverrides ln ≠ .up then g
  else
    let aDevID := g.deviceOf ln.aInterfaceId
    let bDevID := g.deviceOf ln.bInterfaceId
    if aDevID = "" ∨ bDevID = "" then g
    else
      let g := (g.addNeighbor aDevID bDevID).addNeighbor bDevID aDevID
      { g with linkByPair := g.linkByPair.insert (makePairKey aDevID bDevID) ln.id }

/-- The orders of the three `range` loops of `BuildAdjacency`. -/
structure AdjacencyOrders where
  interfaces : RangeOrder String
  devices : RangeOrder String
  links : RangeOrder String

/-- Interface-to-device mapping; `adjacency.go:26–28`. -/
def buildIfaceDevice (o : AdjacencyOrders) (cache : TopologyCache) : GoMap String String :=
  (cache.interfaceByID.range o.interfaces).foldl (fun m e ↦ m.insert e.1 e.2.deviceId) ∅

/-- Device override map; `adjacency.go:31–36`. -/
def buildDeviceOverrides (o : AdjacencyOrders) (cache : TopologyCache) : GoMap String Status :=
  (cache.deviceByID.range o.devices).foldl
    (fun m e ↦ GoMap.insertValid m e.1 e.2.adminOverrideStatus) ∅

/-- Every listed link, in the order the two link loops reach it; `adjacency.go:42–43`. -/
def visitedLinks (o : AdjacencyOrders) (cache : TopologyCache) : List Link :=
  (cache.linksByInterface.range o.links).flatMap (fun e ↦ e.2)

/-- `BuildAdjacency`; `adjacency.go:18–102`. -/
def buildAdjacency (o : AdjacencyOrders) (cache : TopologyCache) : AdjacencyGraph :=
  (visitedLinks o cache).foldl (addLink (buildDeviceOverrides o cache))
    { ifaceDevice := buildIfaceDevice o cache }

end Unoc.Traffic
