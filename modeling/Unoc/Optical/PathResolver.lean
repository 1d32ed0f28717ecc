import Unoc.Optical.PathFinder
import Unoc.Status.Upstream

/-!
# The path resolver of the backend

`backend/services/optical_path_resolver.py` builds the optical projection of
`backend/services/pathfinding.py` and hands it to `networkx`. The graph and the results are read
without the caches that the topology version clears.
-/

namespace Unoc.Optical.PathResolver

open Unoc.Base Unoc.Model Unoc.Status

/-- `FIBER_TYPES`, as attenuation rates; `constants/optical.py:20–28`. -/
def fiberTypes : List (String × ℚ) := [
  ("SMF_G652D", 0.35),
  ("SMF_G657A1", 0.35),
  ("SMF_G657A2", 0.35),
  ("MMF_OM3", 3.5),
  ("MMF_OM4", 3.0)]

/-! ### The graph -/

/-- A `networkx.Graph`: types of nodes, and link ids of edges in both directions. -/
structure Graph where
  nodes : Dict String DeviceType
  edges : Dict (String × String) String

/-- `_build_records`, the devices; `optical_path_resolver.py:65–69`. -/
def deviceRecords (db : Database) : List DeviceRecord := db.devices.map (fun d ↦ ⟨d.id, d.type⟩)

/-- The record of a link row, unless one of its ends is unknown; `optical_path_resolver.py:72–101`. -/
def linkRecord (db : Database) (l : Link) : Option LinkRecord := do
  let aDev ← recordEnd (topology db) l.aInterfaceId
  let bDev ← recordEnd (topology db) l.bInterfaceId
  return ⟨l.id, aDev, bDev, l.kind⟩

/-- `_build_records`, the links; `optical_path_resolver.py:70–102`. -/
def linkRecords (db : Database) : List LinkRecord := db.links.filterMap (linkRecord db)

/-- The nodes of `build_optical_graph`; `pathfinding.py:135–138`. -/
def opticalNodes (devices : List DeviceRecord) : Dict String DeviceType :=
  (devices.filter (fun d ↦ opticalType d.type)).foldl (fun m d ↦ m.insert d.id d.type) ∅

/-- `build_optical_graph`. A raw kind is no semantic class, and two optical nodes pass the check of
their types; `pathfinding.py:133–165`. -/
def buildOpticalGraph (devices : List DeviceRecord) (links : List LinkRecord) : Graph :=
  let nodes := opticalNodes devices
  { nodes := nodes
    edges := (links.filter (fun l ↦ l.aDeviceId ∈ nodes ∧ l.bDeviceId ∈ nodes ∧ l.kind = .fiber)).foldl
      (Dict.connect LinkRecord.aDeviceId LinkRecord.bDeviceId LinkRecord.id LinkRecord.id) ∅ }

/-! ### Weights -/

section Weights

variable (db : Database) (g : Graph)

/-- The link row of an edge with an id that is not empty. -/
def edgeLink (u v : String) : Option Link := (truthy (g.edges.lookup (u, v))).bind db.getLink

/-- `fiber_loss` of a link row; `optical_path_resolver.py:124–134`. -/
def fiberLoss (l : Link) : ℚ :=
  match l.lengthKm, (l.physicalMediumId.bind db.getPhysicalMedium).map PhysicalMedium.code with
  | some lengthKm, some code => lengthKm * (fiberTypes.lookup code).getD 0
  | _, _ => 0

/-- `_edge_loss_db`; `optical_path_resolver.py:108–134`. -/
def edgeLossDb (u v : String) : ℚ := ((edgeLink db g u v).map (fiberLoss db)).getD 0

/-- The insertion loss of a passive node; `optical_path_resolver.py:211–218`. -/
def insertionLoss (v : String) : ℚ :=
  match g.nodes.lookup v with
  | some type =>
    if passiveInline type then ((db.getDevice v).bind Device.insertionLossDb).getD 0 else 0
  | none => 0

/-- `weight_fn` on the edges; `optical_path_resolver.py:209–219`. -/
def weightFn (u v : String) : Option ℚ :=
  (g.edges.lookup (u, v)).map (fun _ ↦ edgeLossDb db g u v + insertionLoss db g v)

/-- `_path_total_length_km`; `optical_path_resolver.py:153–172`. -/
def pathTotalLengthKm (path : List String) : ℚ :=
  ((path.zip path.tail).map (fun hop ↦
    ((edgeLink db g hop.1 hop.2).bind Link.lengthKm).getD 0)).sum

/-- `_segments`; `optical_path_resolver.py:175–182`. -/
def segments (path : List String) : List PathSegment :=
  (path.zip path.tail).map (fun hop ↦
    ⟨hop.1, hop.2, g.edges.lookup hop, edgeLossDb db g hop.1 hop.2⟩)

end Weights

/-! ### Resolution -/

/-- `networkx.single_source_dijkstra` on a weighted graph. -/
abbrev SingleSourceDijkstra :=
  (weight : String → String → Option ℚ) → (neighbors : String → List String) →
    (nodes : List String) → (source : String) → Dict String ℚ × Dict String (List String)

/-- On weights that are not negative, `networkx` returns shortest simple paths to all reachable
nodes. -/
def SingleSourceDijkstra.Correct (nx : SingleSourceDijkstra) : Prop :=
  ∀ weight neighbors nodes source, (∀ u v w, weight u v = some w → v ∈ neighbors u) → nodes.Nodup →
    (∀ u, u ∉ nodes → neighbors u = []) → Dijkstra.NonnegFrom weight source →
      Dijkstra.Solution weight source (nx weight neighbors nodes source).1
        (nx weight neighbors nodes source).2

/-- `OpticalPathResult`; `optical_path_resolver.py:48–52`. -/
structure OpticalPathResult where
  oltId : String
  totalAttenuationDb : ℚ
  segments : List PathSegment
  deriving DecidableEq, Repr

/-- Neighbours of a node. -/
def Graph.neighbors (g : Graph) (id : String) : List String :=
  (g.edges.keys.filter (fun k ↦ k.1 = id)).map Prod.snd

/-- `_is_olt`; `optical_path_resolver.py:185–187`. -/
def isOlt (g : Graph) (id : String) : Bool := g.nodes.lookup id = some .olt

/-- `resolve_optical_path`; `optical_path_resolver.py:190–269`. -/
def resolveOpticalPath (nx : SingleSourceDijkstra) (db : Database) (ontId : String) :
    Option OpticalPathResult :=
  let g := buildOpticalGraph (deviceRecords db) (linkRecords db)
  if ontId ∉ g.nodes then none
  else
    let (distances, paths) := nx (weightFn db g) g.neighbors g.nodes.keys ontId
    (PathFinder.bestCandidate
      (PathFinder.candidates (isOlt g) (pathTotalLengthKm db g) distances paths)).map (fun best ↦ {
        oltId := best.oltId
        totalAttenuationDb := best.distance
        segments := segments db g best.path })

end Unoc.Optical.PathResolver
