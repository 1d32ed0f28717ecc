import Unoc.Base.Worklist
import Unoc.Status.Topology

/-!
# Affected devices

The incremental part of `recompute_dirty`: seeds are the dirty devices and the ends of dirty links,
and a breadth-first search over the cached device adjacency expands them. The adjacency is rebuilt
unless the cache holds one of the same version and with the same number of overrides.
-/

namespace Unoc.Status

open Unoc.Base Unoc.Model

/-! ### Adjacency -/

/-- A device id that Python takes as true. -/
def truthy (id : Option String) : Option String := id.filter (fun s ↦ s ≠ "")

/-- A text that is not empty is kept. -/
theorem truthy_some {s : String} (h : s ≠ "") : truthy (some s) = some s := by
  simp [truthy, Option.filter_some, h]

/-- What is kept of a text is the text. -/
theorem eq_of_truthy {s id : String} (h : truthy (some s) = some id) : s = id := by
  simp only [truthy, Option.filter_some] at h
  split at h
  · exact Option.some.inj h
  · cases h

/-- `if_to_dev.get(id)`, where it is not empty. -/
def ifToDev (t : Topology) (interfaceId : String) : Option String :=
  truthy ((t.getInterface interfaceId).map Interface.deviceId)

/-- The edge of a passable and viable link; `status_recompute.py:127–139`. -/
def linkEdge (t : Topology) (link : Link) : Option (String × String) :=
  if isLinkPassable t link ∧ isLinkPhysicallyViable t link then do
    let aDev ← ifToDev t link.aInterfaceId
    let bDev ← ifToDev t link.bInterfaceId
    return (aDev, bDev)
  else none

/-- The edge to a container; `status_recompute.py:142–146`. -/
def containerEdge (d : DeviceView) : Option (String × String) :=
  (truthy d.parentContainerId).map (fun parent ↦ (d.id, parent))

/-- The undirected edges of the adjacency; `status_recompute.py:116–146`. -/
def adjacencyEdges (t : Topology) : List (String × String) :=
  t.links.filterMap (linkEdge t) ++ t.devices.filterMap containerEdge

/-- `_override_fp`: forced-UP and forced-DOWN devices and links; `status_recompute.py:69–101`. -/
def overrideFp (t : Topology) : Nat × Nat × Nat × Nat :=
  (t.devices.countP (fun d ↦ d.adminOverrideStatus = some .up),
    t.devices.countP (fun d ↦ d.adminOverrideStatus = some .down),
    t.links.countP (fun l ↦ l.adminOverrideStatus = some .up),
    t.links.countP (fun l ↦ l.adminOverrideStatus = some .down))

/-- A filled `_GRAPH_CACHE`; `status_recompute.py:39–52`. -/
structure GraphCache where
  version : Int
  overrideFp : Nat × Nat × Nat × Nat
  edges : List (String × String)
  deviceIds : List String

/-- `_ensure_graph_cache`; `status_recompute.py:55–157`. -/
def ensureGraphCache (cache : Option GraphCache) (version : Int) (t : Topology) : GraphCache :=
  match cache with
  | some c => if c.version = version ∧ c.overrideFp = overrideFp t then c else rebuilt
  | none => rebuilt
where
  /-- The cache rebuilt from the current rows. -/
  rebuilt : GraphCache := ⟨version, overrideFp t, adjacencyEdges t, t.devices.map DeviceView.id⟩

/-- `sorted(adjacency.get(id, ()))`. -/
def neighbors (edges : List (String × String)) (id : String) : List String :=
  sortedSet (edges.flatMap (fun e ↦
    (if e.1 = id then [e.2] else []) ++ (if e.2 = id then [e.1] else [])))

/-! ### Seeds -/

/-- The device ids at the ends of a link; `status_service.py:152–158`. -/
def endpointIds (t : Topology) (link : Link) : List String :=
  (ifToDev t link.aInterfaceId).toList ++ (ifToDev t link.bInterfaceId).toList

/-- Seeds of dirty devices and links; `status_service.py:140–164`. -/
def dirtySeeds (t : Topology) (devices links : List String) : List String :=
  sortedSet (devices ++ (t.links.filter (fun l ↦ l.id ∈ links)).flatMap (endpointIds t))

/-! ### The search -/

/-- `queue.append(nb)`, with the queue sorted when its last two ids are out of order;
`status_service.py:195–197`. -/
def pushSorted (queue : List String) (id : String) : List String :=
  match queue.getLast? with
  | none => [id]
  | some last =>
    if id < last then (queue ++ [id]).insertionSort (fun a b ↦ a ≤ b) else queue ++ [id]

/-- Ids that occur in an adjacency. -/
def edgeIds (edges : List (String × String)) : List String :=
  (edges.flatMap (fun e ↦ [e.1, e.2])).dedup

/-- `affected`; the loop runs at most once for each seed and once for each neighbour of an id;
`status_service.py:185–199`. -/
def affectedIds (edges : List (String × String)) (seeds : List String) : List String :=
  let fuel := seeds.length + ((edgeIds edges).map (fun id ↦ (neighbors edges id).length)).sum
  (Worklist.loop (neighbors edges) pushSorted fuel seeds []).insertionSort (fun a b ↦ a ≤ b)

/-- Two ids are adjacent. -/
def Adjacent (edges : List (String × String)) (a b : String) : Prop :=
  (a, b) ∈ edges ∨ (b, a) ∈ edges

/-- Neighbours are adjacent. -/
theorem mem_neighbors {edges : List (String × String)} {a b : String} :
    b ∈ neighbors edges a ↔ Adjacent edges a b := by
  simp only [neighbors, mem_sortedSet, List.mem_flatMap, List.mem_append, Adjacent]
  constructor
  · rintro ⟨⟨x, y⟩, he, h | h⟩
    · by_cases hx : x = a
      · simp [hx] at h
        exact Or.inl (by rw [h, ← hx]; exact he)
      · simp [hx] at h
    · by_cases hy : y = a
      · simp [hy] at h
        exact Or.inr (by rw [h, ← hy]; exact he)
      · simp [hy] at h
  · rintro (h | h)
    · exact ⟨(a, b), h, by simp⟩
    · exact ⟨(b, a), h, by simp⟩

private theorem pushSorted_perm (queue : List String) (id : String) :
    (pushSorted queue id).Perm (id :: queue) := by
  unfold pushSorted
  split
  · next h => simp [List.getLast?_eq_none_iff.mp h]
  · split
    · exact (List.perm_insertionSort _ _).trans List.perm_append_comm
    · exact List.perm_append_comm

/-- An id without edges has no neighbours. -/
theorem neighbors_eq_nil {edges : List (String × String)} {id : String}
    (h : id ∉ edgeIds edges) : neighbors edges id = [] := by
  apply List.eq_nil_iff_forall_not_mem.mpr
  intro b hb
  apply h
  simp only [edgeIds, List.mem_dedup, List.mem_flatMap]
  rcases mem_neighbors.mp hb with he | he
  · exact ⟨(id, b), he, by simp⟩
  · exact ⟨(b, id), he, by simp⟩

/-- The ids of the edges are distinct. -/
theorem nodup_edgeIds (edges : List (String × String)) : (edgeIds edges).Nodup :=
  List.nodup_dedup _

/-- The affected ids are those that a seed reaches along the adjacency. -/
theorem mem_affectedIds {edges : List (String × String)} {seeds : List String} {id : String} :
    id ∈ affectedIds edges seeds ↔ ∃ s ∈ seeds, Relation.ReflTransGen (Adjacent edges) s id := by
  unfold affectedIds
  rw [List.mem_insertionSort,
    Worklist.mem_loop_iff pushSorted_perm (nodup_edgeIds edges) (fun _ h ↦ neighbors_eq_nil h) (Nat.le_refl _)]
  simp only [mem_neighbors]

end Unoc.Status
