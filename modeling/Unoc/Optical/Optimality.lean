import Unoc.Optical.Agreement
import Unoc.Optical.Resolver

/-!
# Optimality of the path finder

On a graph without negative losses `ResolveOpticalPath` answers with a path of edges from the ONT to an
OLT whose fiber and insertion losses add up to the least possible, in every order of the maps.
-/

namespace Unoc.Optical.PathFinder

open Unoc.Base Unoc.Base.Dijkstra Unoc.Model

/-! ### Resolution in a graph -/

/-- The order in which Go ranges over the distances; `pathfinder.go:319`. -/
structure DistanceOrder where
  range : Dict String ℚ → List (Sigma fun _ : String ↦ ℚ)
  perm : ∀ distances, (range distances).Perm distances.entries

/-- `ResolveOpticalPath` after `buildGraph`; `pathfinder.go:296–397`. -/
def resolveInGraph (q : PriorityQueue String ℚ) (order : MapOrder) (ranging : DistanceOrder) (g : Graph)
    (ontId : String) : Option OpticalPathResult :=
  if ontId ∉ g.nodes then none
  else
    let st := dijkstra g q order ontId
    let candidates := (ranging.range st.distances).filterMap (fun entry ↦
      candidate (isOlt g) (pathLengthKm g) st.paths entry.1 entry.2)
    (bestCandidate candidates).map (fun best ↦ {
      oltId := best.oltId
      totalAttenuationDb := best.distance
      segments := segments g best.path
      totalLengthKm := best.lengthKm
      hopCount := best.hopCount })

section Ranging

variable {isOlt : String → Bool} {lengthKm : List String → ℚ} {distances : Dict String ℚ}
  {paths : Dict String (List String)}

private theorem candidate_oltId {node : String} {distance : ℚ} {c : Candidate}
    (h : candidate isOlt lengthKm paths node distance = some c) : c.oltId = node := by
  unfold candidate at h
  split at h
  · split at h
    · cases h
    · cases h
    · cases h
      rfl
  · cases h

/-- Candidates differ in their OLTs. -/
theorem nodup_candidates :
    ((candidates isOlt lengthKm distances paths).map Candidate.oltId).Nodup := by
  have hsub : ((candidates isOlt lengthKm distances paths).map Candidate.oltId).Sublist
      distances.keys := by
    unfold candidates AList.keys List.keys
    induction distances.entries with
    | nil => exact List.Sublist.refl _
    | cons entry entries ih =>
      cases hc : candidate isOlt lengthKm paths entry.1 entry.2 with
      | none =>
        simp only [List.filterMap_cons, hc, List.map_cons]
        exact ih.cons _
      | some c =>
        simp only [List.filterMap_cons, hc, List.map_cons, candidate_oltId hc]
        exact ih.cons_cons _
  exact hsub.nodup distances.nodupKeys

/-- No order of the candidates matters. -/
theorem bestCandidate_perm {cs cs' : List Candidate} (hperm : cs.Perm cs')
    (hnodup : (cs'.map Candidate.oltId).Nodup) : bestCandidate cs = bestCandidate cs' := by
  cases hb : bestCandidate cs with
  | none =>
    have hnil : cs' = [] := (bestCandidate_eq_none hb ▸ hperm).symm.eq_nil
    rw [hnil]
    rfl
  | some c =>
    obtain ⟨hc, hmin⟩ := bestCandidate_eq_some hb
    cases hb' : bestCandidate cs' with
    | none =>
      rw [bestCandidate_eq_none hb'] at hperm
      rw [hperm.eq_nil] at hc
      cases hc
    | some c' =>
      obtain ⟨hc', hmin'⟩ := bestCandidate_eq_some hb'
      have hkey : c.key = c'.key :=
        le_antisymm (hmin c' (hperm.mem_iff.mpr hc')) (hmin' c (hperm.mem_iff.mp hc))
      have hid : c.oltId = c'.oltId := by
        simp only [Candidate.key, EmbeddingLike.apply_eq_iff_eq, Prod.mk.injEq] at hkey
        exact hkey.2.2.2.1
      rw [List.inj_on_of_nodup_map hnodup (hperm.mem_iff.mp hc) hc' hid]

end Ranging

variable (q : PriorityQueue String ℚ) (order : MapOrder) (ranging : DistanceOrder)

/-- The best candidate in a graph. -/
def bestIn (g : Graph) (ontId : String) : Option Candidate :=
  bestCandidate (candidates (isOlt g) (pathLengthKm g) (dijkstra g q order ontId).distances
    (dijkstra g q order ontId).paths)

/-- The order of the distances does not matter. -/
theorem resolveInGraph_eq (g : Graph) (ontId : String) :
    resolveInGraph q order ranging g ontId =
      if ontId ∉ g.nodes then none
      else (bestIn q order g ontId).map (fun best ↦ {
        oltId := best.oltId
        totalAttenuationDb := best.distance
        segments := segments g best.path
        totalLengthKm := best.lengthKm
        hopCount := best.hopCount }) := by
  have hbest : bestCandidate ((ranging.range (dijkstra g q order ontId).distances).filterMap
      (fun entry ↦ candidate (isOlt g) (pathLengthKm g) (dijkstra g q order ontId).paths entry.1
        entry.2)) = bestIn q order g ontId :=
    bestCandidate_perm ((ranging.perm _).filterMap _) nodup_candidates
  unfold resolveInGraph
  simp only [hbest]

/-- `ResolveOpticalPath` builds the graph of the rows and resolves in it. -/
theorem resolveOpticalPath_eq (db : Database) (ontId : String) :
    resolveOpticalPath q order db ontId =
      ((buildGraph db).mapError (fun message ↦ "failed to build graph: " ++ message)).map
        (fun g ↦ resolveInGraph q order ranging g ontId) := by
  unfold resolveOpticalPath
  cases buildGraph db with
  | error message => rfl
  | ok g =>
    show _ = Except.ok (resolveInGraph q order ranging g ontId)
    rw [resolveInGraph_eq]
    show (if ontId ∉ g.nodes then Except.ok none else _) = _
    split
    · rfl
    · rfl

/-! ### Paths of segments -/

/-- Segments that lead from a node to another along edges of the graph. -/
inductive SegmentPath (g : Graph) (start : String) : List PathSegment → String → Prop
  | nil : SegmentPath g start [] start
  | snoc {path : List PathSegment} {u v : String} {edge : Edge} : SegmentPath g start path u →
      g.edges.lookup (u, v) = some edge →
      SegmentPath g start (path ++ [⟨u, v, some edge.linkId, edge.fiberLossDb⟩]) v

/-- The fiber losses of the segments and the insertion losses of the passive nodes that they enter. -/
def pathLossDb (g : Graph) (path : List PathSegment) : ℚ :=
  (path.map PathSegment.attenuationDb).sum + (path.map (fun segment ↦ enteringLoss g segment.dst)).sum

/-- Neither a fiber nor a node amplifies. -/
structure NonnegLosses (g : Graph) : Prop where
  fiber : ∀ u v edge, g.edges.lookup (u, v) = some edge → 0 ≤ edge.fiberLossDb
  insertion : ∀ id node, g.nodes.lookup id = some node → 0 ≤ node.insertionLossDb

section Segments

variable {g : Graph} {start : String}

private theorem pathLossDb_nil : pathLossDb g [] = 0 := by simp [pathLossDb]

private theorem pathLossDb_concat (path : List PathSegment) (segment : PathSegment) :
    pathLossDb g (path ++ [segment]) =
      pathLossDb g path + (segment.attenuationDb + enteringLoss g segment.dst) := by
  simp only [pathLossDb, List.map_append, List.map_cons, List.map_nil, List.sum_append,
    List.sum_singleton]
  exact add_add_add_comm _ _ _ _

private theorem segments_concat (path : List String) (u v : String) {edge : Edge}
    (hedge : g.edges.lookup (u, v) = some edge) :
    segments g (path ++ [u] ++ [v]) =
      segments g (path ++ [u]) ++ [⟨u, v, some edge.linkId, edge.fiberLossDb⟩] := by
  unfold segments
  rw [zip_tail_concat, List.map_append, List.map_cons, List.map_nil, hedge]

/-- The segments of a walk have its weight, and it visits the ends of its segments. -/
theorem segmentPath_of_walk {path : List String} {v : String} {d : ℚ}
    (hwalk : Walk (edgeWeight g) start path v d) :
    SegmentPath g start (segments g path) v ∧ pathLossDb g (segments g path) = d ∧
      start :: (segments g path).map PathSegment.dst = path := by
  induction hwalk with
  | nil => exact ⟨.nil, pathLossDb_nil, rfl⟩
  | @snoc path u v d w hwalk hw ih =>
    obtain ⟨hpath, hloss, hnodes⟩ := ih
    obtain ⟨edge, hedge, rfl⟩ := Option.map_eq_some_iff.mp hw
    obtain ⟨front, rfl⟩ := List.getLast?_eq_some_iff.mp hwalk.getLast?
    rw [segments_concat front u v hedge]
    refine ⟨hpath.snoc hedge, ?_, ?_⟩
    · rw [pathLossDb_concat, hloss]
    · rw [List.map_append, List.map_cons, List.map_nil, ← List.cons_append, hnodes]

private theorem walk_of_segmentPath {path : List PathSegment} {v : String}
    (hpath : SegmentPath g start path v) :
    Walk (edgeWeight g) start (start :: path.map PathSegment.dst) v (pathLossDb g path) := by
  induction hpath with
  | nil =>
    rw [pathLossDb_nil]
    exact Walk.nil
  | @snoc path u v edge hpath hedge ih =>
    have hw : edgeWeight g u v = some (edge.fiberLossDb + enteringLoss g v) := by
      rw [edgeWeight, hedge, Option.map_some]
    have hwalk := ih.snoc hw
    rw [pathLossDb_concat, List.map_append]
    exact hwalk

/-- Entering a device costs no negative loss. -/
theorem NonnegLosses.enteringLoss (h : NonnegLosses g) (v : String) :
    0 ≤ PathFinder.enteringLoss g v := by
  unfold PathFinder.enteringLoss
  split
  · next node hnode =>
    split
    · exact h.insertion v node hnode
    · exact le_refl 0
  · exact le_refl 0

/-- Without negative losses no weight is negative. -/
theorem NonnegLosses.nonnegFrom (h : NonnegLosses g) : NonnegFrom (edgeWeight g) start := by
  intro _ u _ _ v w hw
  obtain ⟨edge, hedge, rfl⟩ := Option.map_eq_some_iff.mp hw
  exact add_nonneg (h.fiber u v edge hedge) (h.enteringLoss v)

end Segments

/-! ### Optimality -/

/-- The best candidate is a shortest path to the nearest OLT. -/
theorem bestIn_eq_some {g : Graph} (hloss : NonnegLosses g) {ontId : String} {c : Candidate}
    (h : bestIn q order g ontId = some c) :
    ShortestCandidate (edgeWeight g) ontId (isOlt g) (pathLengthKm g) c ∧
      Nearest (edgeWeight g) ontId (isOlt g) c.oltId c.distance := by
  have hsolution := dijkstra_solution q order g (hloss.nonnegFrom : NonnegFrom _ ontId)
  exact ⟨shortest_of_mem_candidates hsolution (bestCandidate_eq_some h).1,
    nearest_of_best hsolution h⟩

/-- There is no best path exactly if no path leads to an OLT. -/
theorem bestIn_eq_none {g : Graph} (hloss : NonnegLosses g) {ontId : String} :
    bestIn q order g ontId = none ↔
      ∀ path olt, SegmentPath g ontId path olt → isOlt g olt = false := by
  have hsolution := dijkstra_solution q order g (hloss.nonnegFrom : NonnegFrom _ ontId)
  constructor
  · intro hnone path olt hpath
    by_contra holt
    have hcandidate : ∃ c ∈ candidates (isOlt g) (pathLengthKm g) _ _, c.oltId = olt :=
      exists_candidate hsolution (by simpa using holt) (walk_of_segmentPath hpath)
    obtain ⟨c, hc, _⟩ := hcandidate
    rw [bestCandidate_eq_none hnone] at hc
    cases hc
  · intro hall
    cases hb : bestIn q order g ontId with
    | none => rfl
    | some c =>
      have hcand := (bestIn_eq_some q order hloss hb).1
      have hpath := (segmentPath_of_walk hcand.shortest.walk).1
      have holt := hcand.olt
      rw [hall _ _ hpath] at holt
      cases holt

/-- Without negative losses, in every order of the maps, the answer is `nil` if and only if the id is
absent or no OLT is connected to it, and else a path of edges to an OLT with the sum of its losses, which
is the least of all paths to an OLT. -/
theorem resolveInGraph_optimal (g : Graph) (hloss : NonnegLosses g) (ontId : String) :
    (resolveInGraph q order ranging g ontId = none ↔
      ontId ∉ g.nodes ∨ ¬ ∃ path olt, SegmentPath g ontId path olt ∧ isOlt g olt = true) ∧
    ∀ r, resolveInGraph q order ranging g ontId = some r →
      SegmentPath g ontId r.segments r.oltId ∧ isOlt g r.oltId = true ∧
        (ontId :: r.segments.map PathSegment.dst).Nodup ∧
          r.totalAttenuationDb = pathLossDb g r.segments ∧
            ∀ path olt, SegmentPath g ontId path olt → isOlt g olt = true →
              r.totalAttenuationDb ≤ pathLossDb g path := by
  rw [resolveInGraph_eq]
  by_cases hnode : ontId ∈ g.nodes
  · rw [if_neg (not_not.mpr hnode)]
    constructor
    · rw [Option.map_eq_none_iff, bestIn_eq_none q order hloss]
      simp [hnode]
    · intro r hr
      obtain ⟨c, hc, rfl⟩ := Option.map_eq_some_iff.mp hr
      obtain ⟨hcand, hnearest⟩ := bestIn_eq_some q order hloss hc
      obtain ⟨hpath, hsum, hnodes⟩ := segmentPath_of_walk hcand.shortest.walk
      refine ⟨hpath, hcand.olt, ?_, hsum.symm, ?_⟩
      · rw [hnodes]
        exact hcand.shortest.simple
      · intro path olt hpath' holt
        exact hnearest.least olt _ _ holt (walk_of_segmentPath hpath')
  · rw [if_pos hnode]
    refine ⟨iff_of_true rfl (Or.inl hnode), ?_⟩
    intro r hr
    cases hr

/-- The order in which distances were stored. -/
def storedOrder : DistanceOrder := ⟨AList.entries, fun _ ↦ .refl _⟩

/-- Losses that are not negative entry by entry. -/
theorem nonnegLosses_of_entries {g : Graph}
    (hfiber : ∀ k ∈ g.edges.keys, ∀ edge ∈ g.edges.lookup k, 0 ≤ edge.fiberLossDb)
    (hinsertion : ∀ id ∈ g.nodes.keys, ∀ node ∈ g.nodes.lookup id, 0 ≤ node.insertionLossDb) :
    NonnegLosses g := by
  constructor
  · intro u v edge hedge
    exact hfiber (u, v) (AList.mem_keys.mp (AList.lookup_isSome.mp (by simp [hedge]))) edge hedge
  · intro id node hnode
    exact hinsertion id (AList.mem_keys.mp (AList.lookup_isSome.mp (by simp [hnode]))) node hnode

/-- No loss of the detour is negative. -/
theorem nonnegLosses_detour : NonnegLosses Resolver.detour.toGraph :=
  nonnegLosses_of_entries (by decide +kernel) (by decide +kernel)

/-- The path over the detour is found, and no path is shorter. -/
theorem resolveInGraph_detour :
    (resolveInGraph (listQueue String ℚ) addedOrder storedOrder Resolver.detour.toGraph "ont").map
        OpticalPathResult.totalAttenuationDb = some 3 ∧
      ∀ path olt, SegmentPath Resolver.detour.toGraph "ont" path olt →
        isOlt Resolver.detour.toGraph olt = true → 3 ≤ pathLossDb Resolver.detour.toGraph path := by
  have htotal : (resolveInGraph (listQueue String ℚ) addedOrder storedOrder Resolver.detour.toGraph
      "ont").map OpticalPathResult.totalAttenuationDb = some 3 := by
    decide +kernel
  obtain ⟨r, hr, hthree⟩ := Option.map_eq_some_iff.mp htotal
  obtain ⟨_, _, _, _, hleast⟩ := (resolveInGraph_optimal (listQueue String ℚ) addedOrder storedOrder
    Resolver.detour.toGraph nonnegLosses_detour "ont").2 r hr
  rw [hthree] at hleast
  exact ⟨htotal, hleast⟩

end Unoc.Optical.PathFinder
