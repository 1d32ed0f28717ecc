import Unoc.Base.ExchangeSort
import Unoc.Base.Frontier
import Unoc.Optical.Resolver
import Unoc.Traffic.Cache

/-!
# Affected ONTs

`engine-go/internal/optical/affectedonts.go` searches from the ends of changed links and from changed
devices. What it finds are the ONTs of the components that these belong to, and a change in the loss of
a link or a device cannot matter to any other ONT.
-/

namespace Unoc.Optical.AffectedOnts

open Unoc.Base Unoc.Model
open Unoc.Optical.PathFinder (Graph Node Edge enteringLoss)
open Unoc.Optical.Resolver
open Unoc.Traffic (RangeOrder)
open Relation (ReflTransGen)

/-! ### The search -/

/-- The orders in which one call ranges over its maps: the edges scanned for each changed link, the
start nodes, the neighbors and the sources of edges in each iteration, and the affected ONTs. -/
structure Ranges where
  linkSources : Nat → RangeOrder String
  linkTargets : Nat → String → RangeOrder String
  startNodes : RangeOrder String
  neighbors : Nat → RangeOrder String
  sources : Nat → RangeOrder String
  affectedOnts : RangeOrder String

/-- The outer keys of `g.Edges`. -/
def edgeSources (g : Graph) : Finset String := (g.edges.keys.map Prod.fst).toFinset

/-- The keys of `g.Edges[srcID]`. -/
def edgeTargets (g : Graph) (srcId : String) : Finset String := (g.targets srcId).toFinset

/-- `Type == NodeTypeONT || Type == NodeTypeBusinessONT`; `affectedonts.go:81`. -/
def isOntType (t : DeviceType) : Bool := t = .ont || t = .businessOnt

/-- The first edge found under a link id, with the scan that breaks at it; `affectedonts.go:37–51`. -/
def Ranges.findLink (r : Ranges) (i : Nat) (g : Graph) (linkId : String) : Option (String × String) :=
  ((r.linkSources i).keys (edgeSources g)).findSome? (fun srcId ↦
    (((r.linkTargets i srcId).keys (edgeTargets g srcId)).find? (fun dstId ↦
      (g.edges.lookup (srcId, dstId)).any (fun edge ↦ edge.linkId = linkId))).map
        (fun dstId ↦ (srcId, dstId)))

/-- `startNodes` of changed links; `affectedonts.go:34–52`. -/
def Ranges.linkEnds (r : Ranges) (g : Graph) (changedLinkIds : List String) : Finset String :=
  ((changedLinkIds.zipIdx.filterMap (fun x ↦ r.findLink x.2 g x.1)).flatMap
    (fun hop ↦ [hop.1, hop.2])).toFinset

/-- `startNodes` of changed devices; `affectedonts.go:150–155`. -/
def devicesIn (g : Graph) (changedDeviceIds : List String) : Finset String :=
  (changedDeviceIds.filter (fun deviceId ↦ (g.nodes.lookup deviceId).isSome)).toFinset

/-- The nodes looked at after a node is dequeued: the targets of its edges, then the sources of edges
to it; `affectedonts.go:87–109`. -/
def Ranges.adjacent (r : Ranges) (g : Graph) (iteration : Nat) (currentId : String) : List String :=
  (r.neighbors iteration).keys (edgeTargets g currentId) ++
    ((r.sources iteration).keys (edgeSources g)).filter (fun srcId ↦
      srcId ≠ currentId && (g.edges.lookup (srcId, currentId)).isSome)

/-- The variables of the search; `affectedonts.go:60–68`. -/
structure Search where
  queue : List String
  visited : List String
  affectedOnts : Finset String

/-- The queue loop; `affectedonts.go:71–110`, `affectedonts.go:173–212`. -/
def Ranges.search (r : Ranges) (g : Graph) : Nat → Search → Search
  | 0, st => st
  | fuel + 1, st =>
    match st.queue with
    | [] => st
    | currentId :: rest =>
      match g.nodes.lookup currentId with
      | none => r.search g fuel { st with queue := rest }
      | some currentNode =>
        let found := (r.adjacent g fuel currentId).foldl Frontier.enter (rest, st.visited)
        r.search g fuel {
          queue := found.1
          visited := found.2
          affectedOnts :=
            if isOntType currentNode.type then insert currentId st.affectedOnts else st.affectedOnts }

/-- The search from start nodes with the sorted result. Each start node and each node is queued at most
once; `affectedonts.go:54–130`, `affectedonts.go:157–228`. -/
def Ranges.affectedFrom (r : Ranges) (g : Graph) (startNodes : Finset String) : List String :=
  if startNodes.card = 0 then []
  else
    let queue := r.startNodes.keys startNodes
    exchangeSort (r.affectedOnts.keys
      (r.search g (queue.length + g.nodes.keys.length) ⟨queue, queue, ∅⟩).affectedOnts)

/-- `FindAffectedONTs`, with `none` for a nil graph; `affectedonts.go:29–130`. -/
def findAffectedOnts (r : Ranges) (g : Option Graph) (changedLinkIds : List String) :
    Except String (List String) :=
  match g with
  | none => .error "graph is nil"
  | some g => .ok (r.affectedFrom g (r.linkEnds g changedLinkIds))

/-- `FindAffectedONTsByDevices`; `affectedonts.go:144–229`. -/
def findAffectedOntsByDevices (r : Ranges) (g : Option Graph) (changedDeviceIds : List String) :
    Except String (List String) :=
  match g with
  | none => .error "graph is nil"
  | some g => .ok (r.affectedFrom g (devicesIn g changedDeviceIds))

/-- The orders of a combined call. -/
structure CombinedRanges where
  fromLinks : Ranges
  fromDevices : Ranges
  affectedSet : RangeOrder String

/-- An error under a text, as `fmt.Errorf` wraps it. -/
def wrapError {α : Type} (text : String) : Except String α → Except String α
  | .ok a => .ok a
  | .error message => .error (text ++ message)

/-- `FindAffectedONTsCombined`; `affectedonts.go:239–285`. -/
def findAffectedOntsCombined (r : CombinedRanges) (g : Option Graph)
    (changedLinkIds changedDeviceIds : List String) : Except String (List String) :=
  match g with
  | none => .error "graph is nil"
  | some g => do
    let ontsFromLinks ←
      if changedLinkIds.length > 0 then
        wrapError "failed to find ONTs from links: "
          (findAffectedOnts r.fromLinks (some g) changedLinkIds)
      else .ok []
    let ontsFromDevices ←
      if changedDeviceIds.length > 0 then
        wrapError "failed to find ONTs from devices: "
          (findAffectedOntsByDevices r.fromDevices (some g) changedDeviceIds)
      else .ok []
    return exchangeSort (r.affectedSet.keys (ontsFromLinks.toFinset ∪ ontsFromDevices.toFinset))

/-! ### What the search finds -/

/-- The nodes are joined by an edge. -/
def Linked (g : Graph) (u v : String) : Prop := (g.edges.lookup (u, v)).isSome

/-- The nodes are in one component. -/
def Connected (g : Graph) : String → String → Prop := ReflTransGen (Linked g)

/-- A node of the graph that is an ONT. -/
def IsOnt (g : Graph) (id : String) : Prop := ∃ n, g.nodes.lookup id = some n ∧ isOntType n.type

/-- A link id labels at most one pair of nodes. -/
def LabelsOnePair (g : Graph) (linkId : String) : Prop :=
  ∀ u v e u' v' e', g.edges.lookup (u, v) = some e → e.linkId = linkId →
    g.edges.lookup (u', v') = some e' → e'.linkId = linkId →
      (u', v') = (u, v) ∨ (u', v') = (v, u)

/-- An end of an edge under a link id. -/
def IsLinkEnd (g : Graph) (linkId id : String) : Prop :=
  ∃ u v e, g.edges.lookup (u, v) = some e ∧ e.linkId = linkId ∧ (id = u ∨ id = v)

section Graphs

variable {g : Graph} {u v : String}

private theorem mem_edges_keys : (u, v) ∈ g.edges.keys ↔ Linked g u v := by
  rw [Linked, AList.lookup_isSome, AList.mem_keys]

private theorem mem_edgeTargets : v ∈ edgeTargets g u ↔ Linked g u v := by
  rw [edgeTargets, List.mem_toFinset, Graph.targets, ← mem_edges_keys]
  simp

private theorem mem_edgeSources_of_linked (h : Linked g u v) : u ∈ edgeSources g := by
  rw [edgeSources, List.mem_toFinset]
  exact List.mem_map.mpr ⟨(u, v), mem_edges_keys.mpr h, rfl⟩

private theorem mem_devicesIn {ids : List String} :
    v ∈ devicesIn g ids ↔ v ∈ ids ∧ v ∈ g.nodes := by
  rw [devicesIn, List.mem_toFinset, List.mem_filter, AList.lookup_isSome]

end Graphs

section Components

variable (g : OpticalGraph) {u v : String}

private theorem linked_symm (h : Linked g.toGraph u v) : Linked g.toGraph v u := by
  obtain ⟨e, he⟩ := Option.isSome_iff_exists.mp h
  rw [Linked, g.edge_symm u v e he]
  rfl

private theorem linked_mem_nodes (h : Linked g.toGraph u v) : u ∈ g.nodes ∧ v ∈ g.nodes := by
  obtain ⟨e, he⟩ := Option.isSome_iff_exists.mp h
  exact (g.edge_ends u v e he).2.2

private theorem connected_symm (h : Connected g.toGraph u v) : Connected g.toGraph v u :=
  have : Std.Symm (Linked g.toGraph) := ⟨fun _ _ ↦ linked_symm g⟩
  Relation.ReflTransGen.stdSymm.symm _ _ h

end Components

/-! ### Start nodes -/

section Starts

variable (r : Ranges) {g : Graph}

/-- The scan finds an edge under the link id. -/
theorem findLink_eq_some {i : Nat} {linkId u v : String} (h : r.findLink i g linkId = some (u, v)) :
    ∃ e, g.edges.lookup (u, v) = some e ∧ e.linkId = linkId := by
  obtain ⟨srcId, _, hsrc⟩ := List.exists_of_findSome?_eq_some h
  obtain ⟨dstId, hdst, hpair⟩ := Option.map_eq_some_iff.mp hsrc
  obtain ⟨rfl, rfl⟩ := Prod.mk.inj hpair
  have hlabel := List.find?_some hdst
  rw [Option.any_eq_true] at hlabel
  obtain ⟨e, he, hid⟩ := hlabel
  exact ⟨e, he, of_decide_eq_true hid⟩

/-- The scan misses no edge under the link id. -/
theorem findLink_isSome {i : Nat} {linkId u v : String} {e : Edge}
    (he : g.edges.lookup (u, v) = some e) (hid : e.linkId = linkId) :
    (r.findLink i g linkId).isSome := by
  have hlinked : Linked g u v := by rw [Linked, he]; rfl
  rw [Ranges.findLink, List.findSome?_isSome_iff]
  refine ⟨u, ((r.linkSources i).mem_keys _ u).mpr (mem_edgeSources_of_linked hlinked), ?_⟩
  rw [Option.isSome_map, List.find?_isSome]
  refine ⟨v, ((r.linkTargets i u).mem_keys _ v).mpr (mem_edgeTargets.mpr hlinked), ?_⟩
  rw [he]
  simpa using hid

/-- The start nodes of changed links are the ends of the edges under their ids. -/
theorem mem_linkEnds {ids : List String} (hlabels : ∀ linkId ∈ ids, LabelsOnePair g linkId)
    {id : String} : id ∈ r.linkEnds g ids ↔ ∃ linkId ∈ ids, IsLinkEnd g linkId id := by
  rw [Ranges.linkEnds, List.mem_toFinset, List.mem_flatMap]
  constructor
  · rintro ⟨⟨u, v⟩, hhop, hid⟩
    obtain ⟨⟨linkId, i⟩, hx, hfind⟩ := List.mem_filterMap.mp hhop
    obtain ⟨e, he, hlabel⟩ := findLink_eq_some r hfind
    exact ⟨linkId, List.fst_mem_of_mem_zipIdx hx, u, v, e, he, hlabel, by simpa using hid⟩
  · rintro ⟨linkId, hmem, u, v, e, he, hlabel, hid⟩
    obtain ⟨i, hi⟩ := List.getElem?_of_mem hmem
    obtain ⟨⟨u', v'⟩, hfind⟩ := Option.isSome_iff_exists.mp (findLink_isSome r (i := i) he hlabel)
    obtain ⟨e', he', hlabel'⟩ := findLink_eq_some r hfind
    have hx : (linkId, i) ∈ ids.zipIdx := List.mem_zipIdx_iff_getElem?.mpr hi
    refine ⟨(u', v'), List.mem_filterMap.mpr ⟨(linkId, i), hx, hfind⟩, ?_⟩
    -- the pair that the scan meets first is the labelled one, in some direction
    rcases hlabels linkId hmem u v e u' v' e' he hlabel he' hlabel' with hpair | hpair <;>
      obtain ⟨rfl, rfl⟩ := Prod.mk.inj hpair
    · simpa using hid
    · simpa using hid.symm

end Starts

/-! ### The queue loop -/

section Loop

variable (r : Ranges) (g : OpticalGraph)

private theorem mem_adjacent {iteration : Nat} {u v : String} :
    v ∈ r.adjacent g.toGraph iteration u ↔ Linked g.toGraph u v := by
  rw [Ranges.adjacent, List.mem_append, (r.neighbors iteration).mem_keys, mem_edgeTargets,
    List.mem_filter, (r.sources iteration).mem_keys]
  constructor
  · rintro (h | ⟨_, h⟩)
    · exact h
    · rw [Bool.and_eq_true] at h
      exact linked_symm g h.2
  · exact Or.inl

/-- What holds between iterations: a node is queued once, and of the nodes that left the queue the ONTs
were recorded. -/
structure Recorded (st : Search) : Prop where
  nodup : st.queue.Nodup
  queued : ∀ id ∈ st.queue, id ∈ st.visited
  exist : ∀ id ∈ st.visited, id ∈ g.nodes
  affected : ∀ id, id ∈ st.affectedOnts ↔ id ∈ st.visited ∧ id ∉ st.queue ∧ IsOnt g.toGraph id

/-- An iteration records the node that it takes and queues nodes that were not visited. -/
theorem Recorded.next {st : Search} (h : Recorded g st) {currentId : String}
    {rest fresh : List String} {n : Node} (hq : st.queue = currentId :: rest)
    (hn : g.nodes.lookup currentId = some n) (hnodup : fresh.Nodup)
    (hfresh : ∀ id ∈ fresh, id ∈ g.nodes ∧ id ∉ st.visited) :
    Recorded g {
      queue := rest ++ fresh
      visited := st.visited ++ fresh
      affectedOnts :=
        if isOntType n.type then insert currentId st.affectedOnts else st.affectedOnts } := by
  have hrest : ∀ id ∈ rest, id ∈ st.visited := fun id hid ↦
    h.queued id (hq ▸ List.mem_cons_of_mem currentId hid)
  have hnodup' := h.nodup
  rw [hq, List.nodup_cons] at hnodup'
  constructor
  case nodup =>
    refine List.nodup_append.mpr ⟨hnodup'.2, hnodup, ?_⟩
    rintro a ha b hb rfl
    exact (hfresh a hb).2 (hrest a ha)
  case queued =>
    intro id hid
    rcases List.mem_append.mp hid with hid | hid
    · exact List.mem_append_left _ (hrest id hid)
    · exact List.mem_append_right _ hid
  case exist =>
    intro id hid
    rcases List.mem_append.mp hid with hid | hid
    · exact h.exist id hid
    · exact (hfresh id hid).1
  case affected =>
    intro id
    have hont : IsOnt g.toGraph currentId ↔ isOntType n.type = true := by
      simp [IsOnt, hn]
    have haff := h.affected id
    rw [hq, List.mem_cons] at haff
    rw [List.mem_append, List.mem_append]
    by_cases hid : id = currentId
    · subst hid
      have hvisited : id ∈ st.visited := h.queued id (hq ▸ List.mem_cons_self)
      have hgone : id ∉ rest ∧ id ∉ fresh :=
        ⟨hnodup'.1, fun hf ↦ (hfresh id hf).2 hvisited⟩
      rw [hont]
      split <;> simp_all
    · have hold : id ∈ fresh → id ∉ st.visited := fun hf ↦ (hfresh id hf).2
      split
      · rw [Finset.mem_insert]
        tauto
      · tauto

/-- The search from a state: where it ends, its queue is empty, its nodes are those that the frontier
marks, and their ONTs are recorded. -/
theorem search_spec (fuel : Nat) {st : Search} (h : Recorded g st)
    (hfuel : Frontier.potential g.nodes.keys.toFinset st.queue st.visited ≤ fuel) :
    let last := r.search g.toGraph fuel st
    last.queue = [] ∧ Recorded g last ∧
      last.visited = Frontier.loop (r.adjacent g.toGraph) fuel st.queue st.visited := by
  induction fuel generalizing st with
  | zero =>
    have hnil : st.queue = [] := by
      unfold Frontier.potential at hfuel
      exact List.length_eq_zero_iff.mp (by omega)
    exact ⟨hnil, h, rfl⟩
  | succ fuel ih =>
    dsimp only
    rw [Ranges.search]
    cases hq : st.queue with
    | nil => exact ⟨hq, h, rfl⟩
    | cons currentId rest =>
      have hcurrent : currentId ∈ st.queue := hq ▸ List.mem_cons_self
      obtain ⟨n, hn⟩ := Option.isSome_iff_exists.mp
        (AList.lookup_isSome.mpr (h.exist currentId (h.queued currentId hcurrent)))
      obtain ⟨fresh, heq, hnodup, hmem⟩ :=
        Frontier.foldl_enter (r.adjacent g.toGraph fuel currentId) rest st.visited
      have hfresh : ∀ id ∈ fresh, id ∈ g.nodes ∧ id ∉ st.visited := by
        intro id hid
        obtain ⟨hadj, hnew⟩ := (hmem id).mp hid
        exact ⟨(linked_mem_nodes g ((mem_adjacent r g).mp hadj)).2, hnew⟩
      simp only [hn, heq, Frontier.loop]
      apply ih
      · exact h.next g hq hn hnodup hfresh
      · apply Nat.le_of_succ_le_succ
        refine (Frontier.potential_enter (v := currentId) hnodup ?_).trans (hq ▸ hfuel)
        intro id hid
        exact ⟨List.mem_toFinset.mpr (AList.mem_keys.mp (hfresh id hid).1), (hfresh id hid).2⟩

/-- The search from start nodes returns the ONTs of their components. -/
theorem mem_affectedFrom {startNodes : Finset String} (hstart : ∀ s ∈ startNodes, s ∈ g.nodes)
    {id : String} : id ∈ r.affectedFrom g.toGraph startNodes ↔
      IsOnt g.toGraph id ∧ ∃ s ∈ startNodes, Connected g.toGraph s id := by
  rw [Ranges.affectedFrom]
  split
  · next hempty =>
    rw [Finset.card_eq_zero.mp hempty]
    simp
  · have hmem := r.startNodes.mem_keys startNodes
    have hfuel : (r.startNodes.keys startNodes).length + g.nodes.keys.toFinset.card ≤
        (r.startNodes.keys startNodes).length + g.nodes.keys.length :=
      Nat.add_le_add_left (List.toFinset_card_le _) _
    have hpotential : Frontier.potential g.nodes.keys.toFinset (r.startNodes.keys startNodes)
        (r.startNodes.keys startNodes) ≤
          (r.startNodes.keys startNodes).length + g.nodes.keys.length := by
      refine (Nat.add_le_add_left (Finset.card_le_card Finset.sdiff_subset) _).trans hfuel
    have hbegin : Recorded g ⟨r.startNodes.keys startNodes, r.startNodes.keys startNodes, ∅⟩ :=
      ⟨r.startNodes.nodup startNodes, fun _ hid ↦ hid, fun s hs ↦ hstart s ((hmem s).mp hs),
        fun s ↦ by simp; tauto⟩
    obtain ⟨hidle, hrecorded, hvisited⟩ := search_spec r g _ hbegin hpotential
    have hadjacent : ∀ n u v, v ∈ r.adjacent g.toGraph n u ↔ Linked g.toGraph u v :=
      fun _ _ _ ↦ mem_adjacent r g
    have hin : ∀ u v, Linked g.toGraph u v → v ∈ g.nodes.keys.toFinset :=
      fun _ _ h ↦ List.mem_toFinset.mpr (AList.mem_keys.mp (linked_mem_nodes g h).2)
    have hreached := Frontier.mem_loop_iff hadjacent hin hfuel (x := id)
    rw [mem_exchangeSort, r.affectedOnts.mem_keys, hrecorded.affected, hidle, hvisited, hreached]
    simp only [List.not_mem_nil, not_false_eq_true, true_and]
    rw [and_comm]
    simp [Reached, hmem, Connected]

end Loop

/-! ### The combined call -/

section Combined

variable (r : CombinedRanges) (g : OpticalGraph)

/-- An end of a listed link, or a listed device. -/
def IsStart (g : Graph) (changedLinkIds changedDeviceIds : List String) (s : String) : Prop :=
  (∃ linkId ∈ changedLinkIds, IsLinkEnd g linkId s) ∨ (s ∈ changedDeviceIds ∧ s ∈ g.nodes)

/-- The ids of both searches, sorted. -/
theorem findAffectedOntsCombined_eq (links devices : List String) :
    findAffectedOntsCombined r (some g.toGraph) links devices =
      .ok (exchangeSort (r.affectedSet.keys
        ((r.fromLinks.affectedFrom g.toGraph (r.fromLinks.linkEnds g.toGraph links)).toFinset ∪
          (r.fromDevices.affectedFrom g.toGraph (devicesIn g.toGraph devices)).toFinset))) := by
  cases links <;> cases devices <;> rfl

private theorem findAffectedOntsCombined_spec (links devices : List String)
    (hlabels : ∀ linkId ∈ links, LabelsOnePair g.toGraph linkId) :
    ∃ result, findAffectedOntsCombined r (some g.toGraph) links devices = .ok result ∧
      result.Pairwise (· < ·) ∧ ∀ id, id ∈ result ↔
        IsOnt g.toGraph id ∧ ∃ s, IsStart g.toGraph links devices s ∧ Connected g.toGraph s id := by
  refine ⟨_, findAffectedOntsCombined_eq r g links devices,
    exchangeSort_strict (r.affectedSet.nodup _), ?_⟩
  have hends : ∀ s ∈ r.fromLinks.linkEnds g.toGraph links, s ∈ g.nodes := by
    intro s hs
    obtain ⟨_, _, u, v, e, he, _, hend⟩ := (mem_linkEnds r.fromLinks hlabels).mp hs
    obtain ⟨_, _, hu, hv⟩ := g.edge_ends u v e he
    rcases hend with rfl | rfl
    · exact hu
    · exact hv
  have hdevices : ∀ s ∈ devicesIn g.toGraph devices, s ∈ g.nodes :=
    fun s hs ↦ (mem_devicesIn.mp hs).2
  intro id
  rw [mem_exchangeSort, r.affectedSet.mem_keys, Finset.mem_union, List.mem_toFinset,
    List.mem_toFinset, mem_affectedFrom r.fromLinks g hends,
    mem_affectedFrom r.fromDevices g hdevices, ← and_or_left, ← exists_or]
  simp only [mem_linkEnds r.fromLinks hlabels, mem_devicesIn, ← or_and_right, IsStart]

end Combined

/-! ### Attenuations -/

/-- The attenuations of the ways from a node to the OLTs. -/
def attenuations (g : Graph) (id : String) : Set ℚ :=
  {w | ∃ p v, PathFinder.isOlt g v ∧ Dijkstra.Walk (edgeCost g computeEdgeWeight) id p v w}

/-- The minimum attenuation from a node to an OLT, if there is one, is another in the second graph. -/
def MinAttenuationDiffers (g g' : Graph) (id : String) : Prop :=
  ¬ ∀ w, IsLeast (attenuations g id) w ↔ IsLeast (attenuations g' id) w

/-- The graphs agree but for the edge between two nodes. -/
structure DifferInEdge (g g' : Graph) (a b : String) : Prop where
  nodes : ∀ id, g'.nodes.lookup id = g.nodes.lookup id
  edges : ∀ u v, (u, v) ≠ (a, b) → (u, v) ≠ (b, a) →
    g'.edges.lookup (u, v) = g.edges.lookup (u, v)

/-- The graphs agree but for the insertion loss of a node. -/
structure DifferInInsertionLoss (g g' : Graph) (x : String) : Prop where
  edges : ∀ u v, g'.edges.lookup (u, v) = g.edges.lookup (u, v)
  nodes : ∀ id, id ≠ x → g'.nodes.lookup id = g.nodes.lookup id
  type : (g'.nodes.lookup x).map Node.type = (g.nodes.lookup x).map Node.type

section Attenuation

variable {g g' : Graph} {id : String}

/-- The ends of walks are in the component of their start. -/
theorem connected_of_walk {p : List String} {v : String} {w : ℚ}
    (h : Dijkstra.Walk (edgeCost g computeEdgeWeight) id p v w) : Connected g id v := by
  induction h with
  | nil => exact .refl
  | snoc _ hw ih =>
    obtain ⟨e, he, _⟩ := edgeCost_eq_some.mp hw
    exact ih.tail (by rw [Linked, he]; rfl)

/-- Attenuations are those of the component. -/
theorem attenuations_congr (hcost : ∀ u, Connected g id u → ∀ v,
      edgeCost g' computeEdgeWeight u v = edgeCost g computeEdgeWeight u v)
    (holt : ∀ v, PathFinder.isOlt g' v = PathFinder.isOlt g v) :
    attenuations g' id = attenuations g id := by
  have hwalks : ∀ p v w, Dijkstra.Walk (edgeCost g' computeEdgeWeight) id p v w ↔
      Dijkstra.Walk (edgeCost g computeEdgeWeight) id p v w := fun p v w ↦
    Dijkstra.walk_iff_of_agree (fun _ u _ hwalk ↦ hcost u (connected_of_walk hwalk))
  ext w
  simp only [attenuations, Set.mem_ofPred_eq, hwalks, holt]

/-- An edge of another component does not matter. -/
theorem DifferInEdge.attenuations_eq {a b : String} (h : DifferInEdge g g' a b)
    (ha : ¬ Connected g id a) (hb : ¬ Connected g id b) :
    attenuations g' id = attenuations g id := by
  apply attenuations_congr
  · intro u hu v
    have hua : u ≠ a := fun heq ↦ ha (heq ▸ hu)
    have hub : u ≠ b := fun heq ↦ hb (heq ▸ hu)
    have hedge := h.edges u v (fun heq ↦ hua (Prod.mk.inj heq).1) (fun heq ↦ hub (Prod.mk.inj heq).1)
    simp only [edgeCost, computeEdgeWeight, enteringLoss, hedge, h.nodes]
  · intro v
    simp only [PathFinder.isOlt, h.nodes]

/-- The loss of a node of another component does not matter. -/
theorem DifferInInsertionLoss.attenuations_eq {x : String} (h : DifferInInsertionLoss g g' x)
    (hx : ¬ Connected g id x) : attenuations g' id = attenuations g id := by
  apply attenuations_congr
  · intro u hu v
    unfold edgeCost
    rw [h.edges]
    cases he : g.edges.lookup (u, v) with
    | none => rfl
    | some e =>
      have hvx : v ≠ x := by
        rintro rfl
        exact hx (hu.tail (by rw [Linked, he]; rfl))
      simp only [computeEdgeWeight, enteringLoss, h.edges, h.nodes v hvx]
  · intro v
    by_cases hvx : v = x
    · subst hvx
      have htype := h.type
      unfold PathFinder.isOlt
      cases hn : g.nodes.lookup v <;> cases hn' : g'.nodes.lookup v <;> simp_all
    · simp only [PathFinder.isOlt, h.nodes v hvx]

private theorem MinAttenuationDiffers.ne (h : MinAttenuationDiffers g g' id) :
    attenuations g' id ≠ attenuations g id := by
  intro heq
  apply h
  intro w
  rw [heq]

end Attenuation

/-- The combined call returns, sorted and without duplicates, the ONTs of the components of the listed
links and devices. ONTs whose least attenuation depends on an edge are returned for its link, and those
whose least attenuation depends on a device for the device. -/
theorem findAffectedOntsCombined_exact (r : CombinedRanges) (g : OpticalGraph)
    (hlabels : ∀ linkId, LabelsOnePair g.toGraph linkId) :
    (∀ links devices, ∃ result,
      findAffectedOntsCombined r (some g.toGraph) links devices = .ok result ∧
        result.Pairwise (· < ·) ∧ ∀ id, id ∈ result ↔
          IsOnt g.toGraph id ∧
            ∃ s, IsStart g.toGraph links devices s ∧ Connected g.toGraph s id) ∧
    (∀ (g' : OpticalGraph) (a b : String) (e : Edge), g.edges.lookup (a, b) = some e →
      DifferInEdge g.toGraph g'.toGraph a b → ∃ result,
        findAffectedOntsCombined r (some g.toGraph) [e.linkId] [] = .ok result ∧
          ∀ id, IsOnt g.toGraph id → MinAttenuationDiffers g.toGraph g'.toGraph id → id ∈ result) ∧
    ∀ (g' : OpticalGraph) (x : String), x ∈ g.nodes →
      DifferInInsertionLoss g.toGraph g'.toGraph x → ∃ result,
        findAffectedOntsCombined r (some g.toGraph) [] [x] = .ok result ∧
          ∀ id, IsOnt g.toGraph id → MinAttenuationDiffers g.toGraph g'.toGraph id → id ∈ result := by
  refine ⟨fun links devices ↦
    findAffectedOntsCombined_spec r g links devices (fun linkId _ ↦ hlabels linkId), ?_, ?_⟩
  · intro g' a b e he hdiffer
    obtain ⟨result, hresult, _, hmem⟩ := findAffectedOntsCombined_spec r g [e.linkId] []
      (fun linkId _ ↦ hlabels linkId)
    refine ⟨result, hresult, ?_⟩
    intro id hont hmin
    by_contra hmissing
    have hapart : ∀ s, (s = a ∨ s = b) → ¬ Connected g.toGraph id s := by
      intro s hs hconnected
      refine hmissing ((hmem id).mpr ⟨hont, s, Or.inl ⟨e.linkId, by simp, ?_⟩,
        connected_symm g hconnected⟩)
      exact ⟨a, b, e, he, rfl, hs⟩
    exact hmin.ne (hdiffer.attenuations_eq (hapart a (Or.inl rfl)) (hapart b (Or.inr rfl)))
  · intro g' x hx hdiffer
    obtain ⟨result, hresult, _, hmem⟩ := findAffectedOntsCombined_spec r g [] [x]
      (fun linkId _ ↦ hlabels linkId)
    refine ⟨result, hresult, ?_⟩
    intro id hont hmin
    by_contra hmissing
    have hapart : ¬ Connected g.toGraph id x := by
      intro hconnected
      exact hmissing ((hmem id).mpr ⟨hont, x, Or.inr ⟨by simp, hx⟩, connected_symm g hconnected⟩)
    exact hmin.ne (hdiffer.attenuations_eq hapart)

/-! ### Two networks -/

/-- Labels of finitely many edges. -/
theorem labelsOnePair_of_keys {g : Graph} (h : ∀ k ∈ g.edges.keys, ∀ k' ∈ g.edges.keys,
      (g.edges.lookup k).map Edge.linkId = (g.edges.lookup k').map Edge.linkId →
        k' = k ∨ k' = k.swap) (linkId : String) : LabelsOnePair g linkId := by
  intro u v e u' v' e' he hid he' hid'
  apply h (u, v) (mem_edges_keys.mpr (by rw [Linked, he]; rfl)) (u', v')
    (mem_edges_keys.mpr (by rw [Linked, he']; rfl))
  rw [he, he', Option.map_some, Option.map_some, hid, hid']

/-- Two OLTs with an ONT each. -/
def twoNetworks : OpticalGraph :=
  graphOf [plainNode "ont1" .ont, plainNode "olt1" .olt, plainNode "ont2" .ont, plainNode "olt2" .olt]
    [fiberEdge "l1" "ont1" "olt1" 1, fiberEdge "l2" "ont2" "olt2" 1]

/-- Ranges in ascending order. -/
def ascendingRanges : Ranges where
  linkSources _ := .ascending
  linkTargets _ _ := .ascending
  startNodes := .ascending
  neighbors _ := .ascending
  sources _ := .ascending
  affectedOnts := .ascending

/-- The ONT at a changed link is returned. -/
theorem findAffectedOntsCombined_twoNetworks : ∃ result,
    findAffectedOntsCombined ⟨ascendingRanges, ascendingRanges, .ascending⟩ (some twoNetworks.toGraph)
      ["l1"] [] = .ok result ∧ result.Pairwise (· < ·) ∧ "ont1" ∈ result := by
  have hlabels := labelsOnePair_of_keys (g := twoNetworks.toGraph) (by decide +kernel)
  obtain ⟨result, hresult, hsorted, hmem⟩ := (findAffectedOntsCombined_exact
    ⟨ascendingRanges, ascendingRanges, .ascending⟩ twoNetworks hlabels).1 ["l1"] []
  refine ⟨result, hresult, hsorted, (hmem "ont1").mpr
    ⟨⟨plainNode "ont1" .ont, by decide +kernel, rfl⟩, "ont1", Or.inl ⟨"l1", by simp, "ont1", "olt1",
      fiberEdge "l1" "ont1" "olt1" 1, by decide +kernel, rfl, Or.inl rfl⟩, .refl⟩⟩

example : findAffectedOntsCombined ⟨ascendingRanges, ascendingRanges, .ascending⟩
    (some twoNetworks.toGraph) ["l1", "l9"] ["olt2", "olt9"] = .ok ["ont1", "ont2"] := by
  decide +kernel

end Unoc.Optical.AffectedOnts
