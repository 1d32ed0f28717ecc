import Mathlib.Data.Prod.Lex
import Mathlib.Tactic.NormNum
import Unoc.Base.Dijkstra
import Unoc.Optical.SignalBudget

/-!
# The path finder of the Go engine

`engine-go/internal/optical/pathfinder.go` builds a graph of all devices and all links and looks
for the OLT of least attenuation. Neighbours are listed in the order of a Go map, and the heap pops
some item of least distance.
-/

namespace Unoc.Optical.PathFinder

open Unoc.Base Unoc.Model

/-- `FiberAttenuationDB`; `pathfinder.go:17–23`. -/
def fiberAttenuationDb : List (String × ℚ) := [
  ("SM_G652D", 0.35),
  ("SM_G657A", 0.30),
  ("MM_OM3", 3.00),
  ("MM_OM4", 2.50),
  ("FIBER_DEFAULT", 0.35)]

/-- The rate of a medium, with the default for an unknown code; `pathfinder.go:186–190`. -/
def attenuationRate (code : String) : ℚ :=
  (fiberAttenuationDb.lookup code).getD ((fiberAttenuationDb.lookup "FIBER_DEFAULT").getD 0)

/-- `IsPassive`; `types.go:30–37`. -/
def isPassive : DeviceType → Bool
  | .splitter | .hop | .nvt | .odf => true
  | _ => false

/-! ### The graph -/

/-- `Node`; `types.go:45–50`. -/
structure Node where
  id : String
  type : DeviceType
  insertionLossDb : ℚ
  hasInsertionLoss : Bool
  deriving DecidableEq, Repr

/-- `Edge`; `types.go:53–62`. -/
structure Edge where
  linkId : String
  sourceId : String
  targetId : String
  fiberLossDb : ℚ
  hasFiberLoss : Bool
  lengthKm : ℚ
  hasLengthKm : Bool
  physicalMedium : String
  deriving DecidableEq, Repr

/-- `Graph`, with the nested maps of edges as one map of pairs; `types.go:66–69`. -/
structure Graph where
  nodes : Dict String Node
  edges : Dict (String × String) Edge

/-- The edge in the other direction; `types.go:111–120`. -/
def Edge.reverse (e : Edge) : Edge := { e with sourceId := e.targetId, targetId := e.sourceId }

/-- `AddEdge`; `types.go:88–127`. -/
def Graph.addEdge (g : Graph) (e : Edge) : Except String Graph :=
  if e.sourceId = "" ∨ e.targetId = "" then .error "edge missing source or target ID"
  else if e.sourceId ∉ g.nodes then .error ("source node " ++ e.sourceId ++ " not found in graph")
  else if e.targetId ∉ g.nodes then .error ("target node " ++ e.targetId ++ " not found in graph")
  else .ok { g with edges := Dict.connect Edge.sourceId Edge.targetId id Edge.reverse g.edges e }

/-- The node of a device row; `pathfinder.go:89–107`. -/
def makeNode (d : Device) : Node where
  id := d.id
  type := d.type
  insertionLossDb := d.insertionLossDb.getD 0
  hasInsertionLoss := d.insertionLossDb.isSome

/-- A legacy interface id without its suffix `-if0`. -/
def trimIf0 (interfaceId : String) : Option String :=
  if "-if0".toList <:+ interfaceId.toList then
    some (String.ofList (interfaceId.toList.take (interfaceId.toList.length - 4)))
  else none

section Build

variable (db : Database)

/-- The device id at an interface id; `pathfinder.go:165–177`. -/
def linkEnd (interfaceId : String) : Option String :=
  ((db.getInterface interfaceId).map Interface.deviceId).or (trimIf0 interfaceId)

/-- `pm.code` of the left join; `pathfinder.go:132–143`. -/
def mediumCode (l : Link) : Option String :=
  (l.physicalMediumId.bind db.getPhysicalMedium).map PhysicalMedium.code

/-- `fiberLoss`; `pathfinder.go:183–193`. -/
def fiberLoss (l : Link) : ℚ :=
  match l.lengthKm, mediumCode db l with
  | some lengthKm, some code => lengthKm * attenuationRate code
  | _, _ => 0

/-- The edge of a link row, unless one of its ends is unknown; `pathfinder.go:165–212`. -/
def linkEdge (l : Link) : Option Edge := do
  let aDevice ← linkEnd db l.aInterfaceId
  let bDevice ← linkEnd db l.bInterfaceId
  return {
    linkId := l.id
    sourceId := aDevice
    targetId := bDevice
    fiberLossDb := fiberLoss db l
    hasFiberLoss := l.lengthKm.isSome && (mediumCode db l).isSome
    lengthKm := l.lengthKm.getD 0
    hasLengthKm := l.lengthKm.isSome
    physicalMedium := (mediumCode db l).getD "" }

/-- `buildGraph`; `pathfinder.go:76–223`. -/
def buildGraph : Except String Graph :=
  (db.links.filterMap (linkEdge db)).foldlM (fun g e ↦
      match g.addEdge e with
      | .ok g => .ok g
      | .error message => .error ("failed to add edge " ++ e.linkId ++ ": " ++ message))
    { nodes := db.devices.foldl (fun m d ↦ m.insert d.id (makeNode d)) ∅, edges := ∅ }

end Build

/-! ### Dijkstra -/

section Search

variable (g : Graph)

/-- The targets of a node's edges. -/
def Graph.targets (id : String) : List String :=
  (g.edges.keys.filter (fun k ↦ k.1 = id)).map Prod.snd

/-- The order in which Go ranges over the edges of a node; `types.go:130–136`. -/
structure MapOrder where
  getNeighbors : Graph → String → List String
  perm : ∀ g id, (getNeighbors g id).Perm (g.targets id)

/-- The insertion loss on entering a node; `pathfinder.go:268–273`. -/
def enteringLoss (v : String) : ℚ :=
  match g.nodes.lookup v with
  | some node => if isPassive node.type && node.hasInsertionLoss then node.insertionLossDb else 0
  | none => 0

/-- `edgeWeight`; `pathfinder.go:261–274`. -/
def edgeWeight (u v : String) : Option ℚ :=
  (g.edges.lookup (u, v)).map (fun edge ↦ edge.fiberLossDb + enteringLoss g v)

/-- `dijkstra`; a node without an entry has an infinite distance; `pathfinder.go:227–286`. -/
def dijkstra (q : Dijkstra.PriorityQueue String ℚ) (order : MapOrder) (startNodeId : String) :
    Dijkstra.State q :=
  Dijkstra.run q (edgeWeight g) (order.getNeighbors g) (g.edges.keys.map Prod.fst).dedup startNodeId

/-- Physical length of a path; `pathfinder.go:329–336`. -/
def pathLengthKm (path : List String) : ℚ :=
  ((path.zip path.tail).map (fun hop ↦
    ((g.edges.lookup hop).map (fun edge ↦ if edge.hasLengthKm then edge.lengthKm else 0)).getD 0)).sum

end Search

/-! ### Candidates -/

/-- A reached OLT; `pathfinder.go:309–316`, `optical_path_resolver.py:236–248`. -/
structure Candidate where
  distance : ℚ
  lengthKm : ℚ
  hopCount : Nat
  oltId : String
  signature : String
  path : List String
  deriving DecidableEq, Repr

/-- Attenuation, length, hops, OLT id, signature. -/
def Candidate.key (c : Candidate) : ℚ ×ₗ ℚ ×ₗ Nat ×ₗ String ×ₗ String :=
  toLex (c.distance, toLex (c.lengthKm, toLex (c.hopCount, toLex (c.oltId, c.signature))))

/-- The candidate of a node with its distance, if the node is an OLT with a path. -/
def candidate (isOlt : String → Bool) (lengthKm : List String → ℚ) (paths : Dict String (List String))
    (node : String) (distance : ℚ) : Option Candidate :=
  if isOlt node then
    match paths.lookup node with
    | none | some [] => none
    | some path =>
      some ⟨distance, lengthKm path, path.length - 1, node, ",".intercalate path, path⟩
  else none

/-- The candidates among the reached nodes; `pathfinder.go:318–349`,
`optical_path_resolver.py:236–248`. -/
def candidates (isOlt : String → Bool) (lengthKm : List String → ℚ) (distances : Dict String ℚ)
    (paths : Dict String (List String)) : List Candidate :=
  distances.entries.filterMap (fun entry ↦ candidate isOlt lengthKm paths entry.1 entry.2)

/-- The first candidate after sorting. The keys differ in the OLT id, so no order of the candidates
matters; `pathfinder.go:355–374`, `optical_path_resolver.py:257–259`. -/
def bestCandidate (cs : List Candidate) : Option Candidate :=
  (cs.insertionSort (fun a b ↦ a.key ≤ b.key)).head?

/-! ### Resolution -/

/-- `OpticalPathResult`; `types.go:159–165`. -/
structure OpticalPathResult where
  oltId : String
  totalAttenuationDb : ℚ
  segments : List PathSegment
  totalLengthKm : ℚ
  hopCount : Nat
  deriving DecidableEq, Repr

/-- `segments`; `pathfinder.go:376–388`. -/
def segments (g : Graph) (path : List String) : List PathSegment :=
  (path.zip path.tail).map (fun hop ↦
    match g.edges.lookup hop with
    | some edge => ⟨hop.1, hop.2, some edge.linkId, edge.fiberLossDb⟩
    | none => ⟨hop.1, hop.2, none, 0⟩)

/-- `IsOLT` of a node. -/
def isOlt (g : Graph) (id : String) : Bool :=
  match g.nodes.lookup id with
  | some node => node.type = .olt
  | none => false

/-- `ResolveOpticalPath`; `pathfinder.go:290–397`. -/
def resolveOpticalPath (q : Dijkstra.PriorityQueue String ℚ) (order : MapOrder) (db : Database)
    (ontId : String) : Except String (Option OpticalPathResult) :=
  match buildGraph db with
  | .error message => .error ("failed to build graph: " ++ message)
  | .ok g =>
    if ontId ∉ g.nodes then .ok none
    else
      let st := dijkstra g q order ontId
      .ok ((bestCandidate (candidates (isOlt g) (pathLengthKm g) st.distances st.paths)).map
        (fun best ↦ {
          oltId := best.oltId
          totalAttenuationDb := best.distance
          segments := segments g best.path
          totalLengthKm := best.lengthKm
          hopCount := best.hopCount }))

end Unoc.Optical.PathFinder
