import Unoc.Base.QueuedOnce
import Unoc.Optical.PathFinder

/-!
# The resolver of the Go engine

`engine-go/internal/optical/dijkstra.go` and `resolver.go`. The search queues each node once: a node whose
distance is lowered while it waits keeps its place in the queue, and its edges are skipped when it is
popped. Nodes behind it may be missed or reached on a detour.
-/

namespace Unoc.Optical.Resolver

open Unoc.Base Unoc.Model
open Unoc.Optical.PathFinder (Node Edge Graph MapOrder enteringLoss candidates bestCandidate
  pathLengthKm)
open Unoc.Base.Dijkstra (PriorityQueue)

/-! ### Graphs that are built -/

/-- A graph of `AddNode` and `AddEdge`: nodes and edges are stored under their own ids, edges join nodes
and are stored in both directions; `types.go:66–127`. -/
structure OpticalGraph extends Graph where
  node_id : ∀ id n, nodes.lookup id = some n → n.id = id
  edge_ends : ∀ u v e, edges.lookup (u, v) = some e →
    e.sourceId = u ∧ e.targetId = v ∧ u ∈ nodes ∧ v ∈ nodes
  edge_symm : ∀ u v e, edges.lookup (u, v) = some e → edges.lookup (v, u) = some e.reverse

private theorem reverse_reverse (e : Edge) : e.reverse.reverse = e := rfl

private theorem reverse_eq_self {e : Edge} (h : e.sourceId = e.targetId) : e.reverse = e := by
  cases e
  simp only at h
  simp [Edge.reverse, h]

/-- The edges after `AddEdge`. -/
theorem lookup_connect (m : Dict (String × String) Edge) (e : Edge) (u v : String) :
    (Dict.connect Edge.sourceId Edge.targetId id Edge.reverse m e).lookup (u, v) =
      if (u, v) = (e.targetId, e.sourceId) then some e.reverse
      else if (u, v) = (e.sourceId, e.targetId) then some e
      else m.lookup (u, v) := by
  unfold Dict.connect
  by_cases hback : (u, v) = (e.targetId, e.sourceId)
  · rw [if_pos hback, hback, AList.lookup_insert]
  · rw [if_neg hback, AList.lookup_insert_ne hback]
    by_cases hfwd : (u, v) = (e.sourceId, e.targetId)
    · rw [if_pos hfwd, hfwd, AList.lookup_insert]
      rfl
    · rw [if_neg hfwd, AList.lookup_insert_ne hfwd]

/-- An edge is added between two nodes. -/
theorem addEdge_eq_ok {g g' : Graph} {e : Edge} (h : g.addEdge e = .ok g') :
    e.sourceId ∈ g.nodes ∧ e.targetId ∈ g.nodes ∧ g' =
      { g with edges := Dict.connect Edge.sourceId Edge.targetId id Edge.reverse g.edges e } := by
  unfold Graph.addEdge at h
  split at h
  · cases h
  · split at h
    · cases h
    · next hs =>
      split at h
      · cases h
      · next ht =>
        cases h
        exact ⟨not_not.mp hs, not_not.mp ht, rfl⟩

namespace OpticalGraph

/-- `NewGraph`; `types.go:72–77`. -/
def newGraph : OpticalGraph where
  nodes := ∅
  edges := ∅
  node_id _ _ h := by cases h
  edge_ends _ _ _ h := by cases h
  edge_symm _ _ _ h := by cases h

/-- `AddNode`; `types.go:80–85`. -/
def addNode (g : OpticalGraph) (n : Node) : OpticalGraph where
  nodes := g.nodes.insert n.id n
  edges := g.edges
  node_id id m h := by
    by_cases hid : id = n.id
    · rw [hid, AList.lookup_insert, Option.some.injEq] at h
      rw [hid, h]
    · rw [AList.lookup_insert_ne hid] at h
      exact g.node_id id m h
  edge_ends u v e h := by
    obtain ⟨hs, ht, hu, hv⟩ := g.edge_ends u v e h
    exact ⟨hs, ht, (AList.mem_insert _).mpr (Or.inr hu), (AList.mem_insert _).mpr (Or.inr hv)⟩
  edge_symm := g.edge_symm

/-- The graph with an edge between two of its nodes. -/
def connect (g : OpticalGraph) (e : Edge) (hs : e.sourceId ∈ g.nodes) (ht : e.targetId ∈ g.nodes) :
    OpticalGraph where
  nodes := g.nodes
  edges := Dict.connect Edge.sourceId Edge.targetId id Edge.reverse g.edges e
  node_id := g.node_id
  edge_ends u v x h := by
    rw [lookup_connect] at h
    split at h
    · next huv =>
      cases h
      cases huv
      exact ⟨rfl, rfl, ht, hs⟩
    · split at h
      · next huv =>
        cases h
        cases huv
        exact ⟨rfl, rfl, hs, ht⟩
      · exact g.edge_ends u v x h
  edge_symm u v x h := by
    rw [lookup_connect] at h ⊢
    by_cases hback : (u, v) = (e.targetId, e.sourceId)
    · rw [if_pos hback, Option.some.injEq] at h
      obtain ⟨rfl, rfl⟩ := Prod.mk.inj hback
      subst h
      by_cases hloop : (e.sourceId, e.targetId) = (e.targetId, e.sourceId)
      · rw [if_pos hloop, reverse_reverse, reverse_eq_self (Prod.mk.inj hloop).1]
      · rw [if_neg hloop, if_pos rfl, reverse_reverse]
    · rw [if_neg hback] at h
      by_cases hfwd : (u, v) = (e.sourceId, e.targetId)
      · rw [if_pos hfwd, Option.some.injEq] at h
        obtain ⟨rfl, rfl⟩ := Prod.mk.inj hfwd
        subst h
        rw [if_pos rfl]
      · rw [if_neg hfwd] at h
        have hback' : ¬ (v, u) = (e.targetId, e.sourceId) := by
          intro heq
          obtain ⟨rfl, rfl⟩ := Prod.mk.inj heq
          exact hfwd rfl
        have hfwd' : ¬ (v, u) = (e.sourceId, e.targetId) := by
          intro heq
          obtain ⟨rfl, rfl⟩ := Prod.mk.inj heq
          exact hback rfl
        rw [if_neg hback', if_neg hfwd']
        exact g.edge_symm u v x h

/-- `AddEdge`; `types.go:88–127`. -/
def addEdge (g : OpticalGraph) (e : Edge) : Except String OpticalGraph :=
  match h : g.toGraph.addEdge e with
  | .ok _ => .ok (g.connect e (addEdge_eq_ok h).1 (addEdge_eq_ok h).2.1)
  | .error message => .error message

/-- The graph of a list of nodes and a list of edges. -/
def build (nodes : List Node) (edges : List Edge) : Except String OpticalGraph :=
  edges.foldlM addEdge (nodes.foldl addNode newGraph)

end OpticalGraph

/-! ### Weights -/

/-- `computeEdgeWeight`; `dijkstra.go:164–181`. -/
def computeEdgeWeight (g : Graph) (sourceId targetId : String) : ℚ :=
  ((g.edges.lookup (sourceId, targetId)).map (fun edge ↦
    if edge.hasFiberLoss then edge.fiberLossDb else 0)).getD 0 + enteringLoss g targetId

/-- The weights of the edges of a graph. -/
def edgeCost (g : Graph) (weightFn : Graph → String → String → ℚ) (u v : String) : Option ℚ :=
  (g.edges.lookup (u, v)).map (fun _ ↦ weightFn g u v)

/-! ### Dijkstra -/

/-- `dijkstraResult`; `dijkstra.go:14–17`. -/
structure DijkstraResult where
  distances : Dict String ℚ
  paths : Dict String (List String)

/-- `dijkstra`. A node without an entry has an infinite distance, so that none has to be removed at the
end; each node is popped at most once; `dijkstra.go:66–160`. -/
def dijkstra (q : PriorityQueue String ℚ) (order : MapOrder) (g : Graph) (sourceId : String)
    (weightFn : Graph → String → String → ℚ) : Except String DijkstraResult :=
  if sourceId ∉ g.nodes then .error ("source node " ++ sourceId ++ " not found in graph")
  else
    let st := QueuedOnce.run q (edgeCost g weightFn) (order.getNeighbors g) g.nodes.keys sourceId
    .ok ⟨st.distances, st.paths⟩

/-! ### Resolution -/

/-- `buildPathSegments`; `resolver.go:141–171`. -/
def buildPathSegments (g : Graph) (path : List String) : List PathSegment :=
  (path.zip path.tail).map (fun hop ↦
    ⟨hop.1, hop.2, ((g.edges.lookup hop).map Edge.linkId).filter (· ≠ ""),
      computeEdgeWeight g hop.1 hop.2⟩)

/-- `ResolveOpticalPath`, with `none` for `nil`; `resolver.go:20–123`. -/
def resolveOpticalPath (q : PriorityQueue String ℚ) (order : MapOrder) (g : Graph) (ontId : String) :
    Except String (Option PathFinder.OpticalPathResult) :=
  if ontId ∉ g.nodes then .error ("ONT node " ++ ontId ++ " not found in graph")
  else
    match dijkstra q order g ontId computeEdgeWeight with
    | .error message => .error ("dijkstra failed: " ++ message)
    | .ok result =>
      .ok ((bestCandidate
          (candidates (PathFinder.isOlt g) (pathLengthKm g) result.distances result.paths)).map
        (fun best ↦ {
          oltId := best.oltId
          totalAttenuationDb := best.distance
          segments := buildPathSegments g best.path
          totalLengthKm := best.lengthKm
          hopCount := best.hopCount }))

/-! ### Correctness -/

section Correctness

variable (q : PriorityQueue String ℚ) (order : MapOrder) (g : OpticalGraph)

/-- The cost of an edge is its weight. -/
theorem edgeCost_eq_some {g : Graph} {weightFn : Graph → String → String → ℚ} {u v : String} {w : ℚ} :
    edgeCost g weightFn u v = some w ↔
      ∃ e, g.edges.lookup (u, v) = some e ∧ weightFn g u v = w := by
  simp [edgeCost, Option.map_eq_some_iff]

/-- An edge leads to a node. -/
theorem mem_keys_of_edgeCost {weightFn : Graph → String → String → ℚ} (u v : String) (w : ℚ)
    (h : edgeCost g.toGraph weightFn u v = some w) : v ∈ g.nodes.keys := by
  obtain ⟨e, he, _⟩ := edgeCost_eq_some.mp h
  exact AList.mem_keys.mp (g.edge_ends u v e he).2.2.2

/-- An edge leads to a neighbour. -/
theorem mem_getNeighbors_of_edgeCost {g : Graph} {weightFn : Graph → String → String → ℚ}
    (u v : String) (w : ℚ) (h : edgeCost g weightFn u v = some w) : v ∈ order.getNeighbors g u := by
  obtain ⟨e, he, _⟩ := edgeCost_eq_some.mp h
  have hkey : (u, v) ∈ g.edges.keys := AList.mem_keys.mp (AList.lookup_isSome.mp (by simp [he]))
  rw [(order.perm g u).mem_iff, Graph.targets]
  exact List.mem_map.mpr ⟨(u, v), List.mem_filter.mpr ⟨hkey, by simp⟩, rfl⟩

/-- The nodes that a search pops after their distance was lowered, and whose edges it skips. -/
def outdatedNodes (sourceId : String) (weightFn : Graph → String → String → ℚ) : List String :=
  QueuedOnce.skippedIn q (edgeCost g.toGraph weightFn) (order.getNeighbors g.toGraph) g.nodes.keys
    sourceId

/-- The loop ends: the queue is empty after one iteration a node. -/
theorem dijkstra_queue_empty {sourceId : String} (hs : sourceId ∈ g.nodes)
    {weightFn : Graph → String → String → ℚ}
    (hnonneg : ∀ u v w, edgeCost g.toGraph weightFn u v = some w → 0 ≤ w) :
    q.items (QueuedOnce.run q (edgeCost g.toGraph weightFn) (order.getNeighbors g.toGraph) g.nodes.keys
      sourceId).queue = [] :=
  (QueuedOnce.inv_run (fun _ u _ _ v w hw ↦ hnonneg u v w hw) (mem_keys_of_edgeCost g)
    (mem_getNeighbors_of_edgeCost order) q (AList.mem_keys.mp hs)).2

private theorem exists_correct_iff {sourceId : String} (hs : sourceId ∈ g.nodes) :
    (∃ result, dijkstra q order g.toGraph sourceId computeEdgeWeight = .ok result ∧
      QueuedOnce.Correct (edgeCost g.toGraph computeEdgeWeight) sourceId result.distances
        result.paths) ↔
      QueuedOnce.Correct (edgeCost g.toGraph computeEdgeWeight) sourceId
        (QueuedOnce.run q (edgeCost g.toGraph computeEdgeWeight) (order.getNeighbors g.toGraph)
          g.nodes.keys sourceId).distances
        (QueuedOnce.run q (edgeCost g.toGraph computeEdgeWeight) (order.getNeighbors g.toGraph)
          g.nodes.keys sourceId).paths := by
  unfold dijkstra
  rw [if_neg (not_not.mpr hs)]
  simp

/-- Where all simple walks from the source to a node weigh the same, no node is outdated, and the search
is right. -/
theorem dijkstra_correct_of_equalWays {sourceId : String} (hs : sourceId ∈ g.nodes)
    (hnonneg : ∀ u v w, edgeCost g.toGraph computeEdgeWeight u v = some w → 0 ≤ w)
    (hways : QueuedOnce.EqualWays (edgeCost g.toGraph computeEdgeWeight) sourceId) :
    ∃ result, dijkstra q order g.toGraph sourceId computeEdgeWeight = .ok result ∧
      QueuedOnce.Correct (edgeCost g.toGraph computeEdgeWeight) sourceId result.distances
        result.paths := by
  rw [exists_correct_iff q order g hs]
  exact QueuedOnce.run_correct_of_equalWays hways (fun _ u _ _ v w hw ↦ hnonneg u v w hw)
    (mem_keys_of_edgeCost g) (mem_getNeighbors_of_edgeCost order) (AList.mem_keys.mp hs)

/-- The search finds the nodes in reach, the least weights of the walks to them and walks that attain
these, exactly if outdated nodes can be avoided on the way to each node. -/
theorem dijkstra_correct_iff {sourceId : String} (hs : sourceId ∈ g.nodes)
    (hnonneg : ∀ u v w, edgeCost g.toGraph computeEdgeWeight u v = some w → 0 ≤ w) :
    (∃ result, dijkstra q order g.toGraph sourceId computeEdgeWeight = .ok result ∧
      QueuedOnce.Correct (edgeCost g.toGraph computeEdgeWeight) sourceId result.distances
        result.paths) ↔
      QueuedOnce.Avoidable (edgeCost g.toGraph computeEdgeWeight) sourceId
        (outdatedNodes q order g sourceId computeEdgeWeight) := by
  have hrun := QueuedOnce.run_correct_iff (q := q) (fun _ u _ _ v w hw ↦ hnonneg u v w hw)
    (mem_keys_of_edgeCost g) (mem_getNeighbors_of_edgeCost order) (AList.mem_keys.mp hs)
  rw [outdatedNodes, ← hrun]
  exact exists_correct_iff q order g hs

end Correctness

/-! ### A shorter detour -/

/-- A node without insertion loss. -/
def plainNode (id : String) (type : DeviceType) : Node := ⟨id, type, 0, false⟩

/-- An edge with a fiber loss. -/
def fiberEdge (linkId sourceId targetId : String) (fiberLossDb : ℚ) : Edge where
  linkId := linkId
  sourceId := sourceId
  targetId := targetId
  fiberLossDb := fiberLossDb
  hasFiberLoss := true
  lengthKm := 1
  hasLengthKm := true
  physicalMedium := "SM_G652D"

/-- The built graph of nodes and edges that fit. -/
def graphOf (nodes : List Node) (edges : List Edge) : OpticalGraph :=
  (OpticalGraph.build nodes edges).toOption.getD .newGraph

/-- The way to `odf` over `hop` is shorter than the link to it; the OLT is behind `odf`. -/
def detour : OpticalGraph :=
  graphOf [plainNode "ont" .ont, plainNode "odf" .odf, plainNode "hop" .hop, plainNode "olt" .olt]
    [fiberEdge "l1" "ont" "odf" 10, fiberEdge "l2" "ont" "hop" 1, fiberEdge "l3" "hop" "odf" 1,
      fiberEdge "l4" "odf" "olt" 1]

/-- The same nodes in a line. -/
def line : OpticalGraph :=
  graphOf [plainNode "ont" .ont, plainNode "odf" .odf, plainNode "hop" .hop, plainNode "olt" .olt]
    [fiberEdge "l1" "ont" "odf" 1, fiberEdge "l2" "odf" "hop" 1, fiberEdge "l3" "hop" "olt" 1]

/-- A map order that starts with the last entry. -/
def reversedOrder : MapOrder := ⟨fun g id ↦ (g.targets id).reverse, fun _ _ ↦ List.reverse_perm _⟩

/-- The weights of finitely many edges. -/
theorem nonneg_of_keys {g : Graph} {weightFn : Graph → String → String → ℚ}
    (h : ∀ k ∈ g.edges.keys, 0 ≤ weightFn g k.1 k.2) (u v : String) (w : ℚ)
    (hw : edgeCost g weightFn u v = some w) : 0 ≤ w := by
  obtain ⟨e, he, rfl⟩ := edgeCost_eq_some.mp hw
  exact h (u, v) (AList.mem_keys.mp (AList.lookup_isSome.mp (by simp [he])))

/-- The OLT behind the detour is not reached. -/
theorem dijkstra_misses_olt : "ont" ∈ detour.nodes ∧
    (∀ u v w, edgeCost detour.toGraph computeEdgeWeight u v = some w → 0 ≤ w) ∧
    ¬ ∃ result, dijkstra (Dijkstra.listQueue String ℚ) reversedOrder detour.toGraph "ont"
        computeEdgeWeight = .ok result ∧
      QueuedOnce.Correct (edgeCost detour.toGraph computeEdgeWeight) "ont" result.distances
        result.paths := by
  refine ⟨by decide +kernel, nonneg_of_keys (by decide +kernel), ?_⟩
  rintro ⟨result, hresult, hcorrect⟩
  have hwalk : Dijkstra.Walk (edgeCost detour.toGraph computeEdgeWeight) "ont"
      ["ont", "odf", "olt"] "olt" (0 + 10 + 1) :=
    (Dijkstra.Walk.nil.snoc (by decide +kernel : edgeCost detour.toGraph computeEdgeWeight "ont" "odf" =
      some 10)).snoc (by decide +kernel : edgeCost detour.toGraph computeEdgeWeight "odf" "olt" =
      some 1)
  have hmissing : (dijkstra (Dijkstra.listQueue String ℚ) reversedOrder detour.toGraph "ont"
      computeEdgeWeight).toOption.all (fun r ↦ (r.distances.lookup "olt").isNone) = true := by
    decide +kernel
  have hreached := AList.lookup_isSome.mpr ((hcorrect.reached "olt").mpr ⟨_, _, hwalk⟩)
  rw [hresult] at hmissing
  have hnone : (result.distances.lookup "olt").isNone = true := hmissing
  rw [Option.isNone_iff_eq_none.mp hnone] at hreached
  cases hreached

/-- Without detours nothing is outdated. -/
theorem dijkstra_correct_line : ∃ result,
    dijkstra (Dijkstra.listQueue String ℚ) reversedOrder line.toGraph "ont" computeEdgeWeight =
        .ok result ∧
      QueuedOnce.Correct (edgeCost line.toGraph computeEdgeWeight) "ont" result.distances
        result.paths := by
  have hnone : outdatedNodes (Dijkstra.listQueue String ℚ) reversedOrder line "ont" computeEdgeWeight =
      [] := by
    decide +kernel
  refine (dijkstra_correct_iff _ _ line (by decide +kernel) (nonneg_of_keys (by decide +kernel))).mpr ?_
  rw [hnone]
  exact QueuedOnce.avoidable_nil

end Unoc.Optical.Resolver
