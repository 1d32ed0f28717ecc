import Unoc.Base.Hops
import Unoc.Traffic.Routing

/-!
# The path to an anchor

`bfsPickAnchor` in terms of its result: a repetition-free path over devices that are up to a nearest anchor
of the best class in reach, with the link of every hop.
-/

namespace Unoc.Traffic

open Unoc.Model Unoc.Base

/-- Devices from a start to an end, each a neighbour of the one before it and up. -/
structure UpPath (g : AdjacencyGraph) (cache : TopologyCache) (start last : String)
    (nodes : List String) : Prop where
  head : nodes.head? = some start
  last : nodes.getLast? = some last
  hops : nodes.IsChain (fun u v ↦ v ∈ (g.neighbors.lookup u).getD ∅ ∧ usable cache v = true)

/-- Every link that an interface lists has an id. -/
def LinkIds (cache : TopologyCache) : Prop :=
  ∀ i links, cache.linksByInterface.lookup i = some links → ∀ ln ∈ links, ln.id ≠ ""

section Paths

variable {o : AdjacencyOrders} {cache : TopologyCache} {start last : String} {nodes : List String}

/-- From a known device the search enters exactly the paths over devices that are up. -/
theorem upPath_iff_walk (hstart : (cache.deviceByID.lookup start).isSome = true) :
    UpPath (buildAdjacency o cache) cache start last nodes ↔
      Walk (Enters cache) start last nodes := by
  have hknown : ∀ {u}, usable cache u = true → (cache.deviceByID.lookup u).isSome = true := by
    intro u hu
    unfold usable at hu
    cases hd : cache.deviceByID.lookup u with
    | none => simp [hd] at hu
    | some _ => rfl
  constructor
  · rintro ⟨hhead, hlast, hchain⟩
    have hwalk := Walk.iff_isChain.mpr ⟨hhead, hlast, hchain⟩
    clear hhead hlast hchain
    induction hwalk with
    | root => exact .root
    | @step u v p hw hs ih =>
      refine ih.step ⟨?_, (mem_neighbors_buildAdjacency o cache u v).mp hs.1, hs.2⟩
      cases hw with
      | root => exact hstart
      | step _ hs' => exact hknown hs'.2
  · intro hwalk
    obtain ⟨hhead, hlast, hchain⟩ := Walk.iff_isChain.mp (hwalk.mono (fun u v h ↦
      (⟨(mem_neighbors_buildAdjacency o cache u v).mpr h.2.1, h.2.2⟩ :
        v ∈ ((buildAdjacency o cache).neighbors.lookup u).getD ∅ ∧ usable cache v = true)))
    exact ⟨hhead, hlast, hchain⟩

/-- The key of a pair does not depend on its order. -/
theorem makePairKey_comm (a b : String) : makePairKey a b = makePairKey b a := by
  unfold makePairKey
  rcases lt_trichotomy a b with hlt | rfl | hlt
  · rw [if_pos hlt, if_neg (not_lt.mpr hlt.le)]
  · rfl
  · rw [if_neg (not_lt.mpr hlt.le), if_pos hlt]

/-- Neighbours have a link between them. -/
theorem getLinkBetween_ne_empty (hids : LinkIds cache) {u v : String} (h : Adjacent cache u v) :
    (buildAdjacency o cache).getLinkBetween u v ≠ "" := by
  obtain ⟨i, links, ln, hi, hln, hpass, hjoins⟩ := h
  have hkey : pairKey cache ln = makePairKey u v := by
    unfold pairKey
    rcases hjoins with ⟨ha, hb⟩ | ⟨ha, hb⟩
    · rw [ha, hb]
    · rw [ha, hb, makePairKey_comm]
  have hmem : ln ∈ (visitedLinks o cache).filter (decides cache (makePairKey u v)) :=
    List.mem_filter.mpr ⟨mem_visitedLinks.mpr ⟨i, links, hi, hln⟩, by simp [decides, hpass, hkey]⟩
  unfold AdjacencyGraph.getLinkBetween
  rw [lookup_linkByPair_buildAdjacency]
  cases hlast : ((visitedLinks o cache).filter (decides cache (makePairKey u v))).getLast? with
  | none =>
    rw [List.getLast?_eq_none_iff.mp hlast] at hmem
    cases hmem
  | some ln' =>
    have hmem' := (List.mem_filter.mp (List.mem_of_getLast? hlast)).1
    obtain ⟨i', links', hi', hln'⟩ := mem_visitedLinks.mp hmem'
    exact hids i' links' hi' ln' hln'

/-- Every hop of a path is recorded with its link. -/
theorem pathLinksOf_eq
    (hlinks : ∀ u v, Adjacent cache u v → (buildAdjacency o cache).getLinkBetween u v ≠ "")
    (hwalk : Walk (Enters cache) start last nodes) :
    pathLinksOf (buildAdjacency o cache) nodes =
      (steps nodes).map (fun hop ↦ (buildAdjacency o cache).getLinkBetween hop.1 hop.2) := by
  rw [pathLinksOf, List.filter_eq_self]
  intro l hl
  obtain ⟨hop, hhop, rfl⟩ := List.mem_map.mp hl
  obtain ⟨_, _, hchain⟩ := Walk.iff_isChain.mp hwalk
  exact decide_eq_true (hlinks _ _ (rel_of_mem_steps hchain hhop).2.1)

end Paths

/-! ### Best routes exist -/

/-- Where there is a route, there is a best one. -/
theorem exists_bestRoute {cache : TopologyCache} {start anchor : String} {rank : Nat} {p : List String}
    (h : Route cache start anchor rank p) : ∃ p, BestRoute cache start p := by
  classical
  have hrank : ∃ r a p, Route cache start a r p := ⟨rank, anchor, p, h⟩
  obtain ⟨a₀, p₀, h₀⟩ := Nat.find_spec hrank
  have hlength : ∃ n a p, Route cache start a (Nat.find hrank) p ∧ p.length = n :=
    ⟨p₀.length, a₀, p₀, h₀, rfl⟩
  obtain ⟨a, p', hp', hlen⟩ := Nat.find_spec hlength
  refine ⟨p', a, Nat.find hrank, hp', ?_⟩
  intro a' r' q hq
  rcases Nat.lt_or_eq_of_le (Nat.find_min' hrank ⟨a', q, hq⟩) with hlt | rfl
  · exact Or.inl hlt
  · right
    refine ⟨rfl, ?_⟩
    rw [hlen]
    exact Nat.find_min' hlength ⟨a', q, hq, rfl⟩

/-! ### The result -/

/-- A path to an anchor of the best class in reach with the fewest hops in that class, without repetition
and with the link of every hop. -/
structure AnchorPath (g : AdjacencyGraph) (cache : TopologyCache) (start : String) (nodes links : List String) :
    Prop where
  nodup : nodes.Nodup
  best : ∃ anchor rank, UpPath g cache start anchor nodes ∧ rankOf cache start anchor = some rank ∧
    ∀ anchor' rank' nodes', UpPath g cache start anchor' nodes' →
      rankOf cache start anchor' = some rank' →
        rank < rank' ∨ (rank = rank' ∧ nodes.length ≤ nodes'.length)
  up : ∀ v ∈ nodes.tail, usable cache v = true
  length : links.length = nodes.length - 1
  link : ∀ i u v, nodes[i]? = some u → nodes[i + 1]? = some v →
    links[i]? = some (g.getLinkBetween u v)

section Result

variable (order : String → RangeOrder String) (o : AdjacencyOrders) {cache : TopologyCache}
  {start : String}

private theorem usable_of_mem_tail {last v : String} {nodes : List String}
    (hwalk : Walk (Enters cache) start last nodes) (hv : v ∈ nodes.tail) : usable cache v = true := by
  induction hwalk with
  | root => cases hv
  | @step u w p hw hs ih =>
    obtain ⟨p', rfl⟩ := hw.exists_concat
    rw [List.tail_append_of_ne_nil (by simp), List.mem_append] at hv
    rcases hv with hv | hv
    · exact ih hv
    · rw [List.mem_singleton.mp hv]
      exact hs.2.2

/-- A best route and its links. -/
theorem anchorPath_of_bestRoute (hids : LinkIds cache)
    (hstart : (cache.deviceByID.lookup start).isSome = true) {nodes : List String}
    (h : BestRoute cache start nodes) :
    AnchorPath (buildAdjacency o cache) cache start nodes (pathLinksOf (buildAdjacency o cache) nodes) := by
  obtain ⟨anchor, rank, hroute, hbest⟩ := h
  rw [pathLinksOf_eq (fun _ _ ↦ getLinkBetween_ne_empty hids) hroute.walk]
  constructor
  · apply hroute.walk.nodup_of_shortest
    intro q hq
    exact ((hbest anchor rank q ⟨hq, hroute.rank⟩).resolve_left (Nat.lt_irrefl rank)).2
  · refine ⟨anchor, rank, (upPath_iff_walk hstart).mpr hroute.walk, hroute.rank, ?_⟩
    intro anchor' rank' nodes' hpath hrank
    exact hbest anchor' rank' nodes' ⟨(upPath_iff_walk hstart).mp hpath, hrank⟩
  · intro v hv
    exact usable_of_mem_tail hroute.walk hv
  · rw [List.length_map, length_steps]
  · intro i u v hu hv
    rw [List.getElem?_map, getElem?_steps nodes i hu hv, Option.map_some]

/-- From a leaf, `bfsPickAnchor` returns the leaf alone if and only if no other anchor is reached over
devices that are up, and else a shortest path to an anchor of the best class, with its links. -/
theorem bfsPickAnchor_anchorPath (hids : LinkIds cache)
    (hleaf : (cache.deviceByID.lookup start).any (fun d ↦ leafTypes d.type) = true) :
    (bfsPickAnchor order start (buildAdjacency o cache) cache = ([start], []) ↔
      ∀ anchor nodes, UpPath (buildAdjacency o cache) cache start anchor nodes →
        rankOf cache start anchor = none) ∧
    ((∃ anchor nodes, UpPath (buildAdjacency o cache) cache start anchor nodes ∧
        (rankOf cache start anchor).isSome = true) →
      AnchorPath (buildAdjacency o cache) cache start
        (bfsPickAnchor order start (buildAdjacency o cache) cache).1
        (bfsPickAnchor order start (buildAdjacency o cache) cache).2) := by
  have hstart : (cache.deviceByID.lookup start).isSome = true := by
    obtain ⟨d, hd, _⟩ := (Option.any_eq_true _ _).mp hleaf
    rw [hd]
    rfl
  have hroutes : ∀ {anchor rank nodes}, UpPath (buildAdjacency o cache) cache start anchor nodes →
      rankOf cache start anchor = some rank → Route cache start anchor rank nodes :=
    fun hpath hrank ↦ ⟨(upPath_iff_walk hstart).mp hpath, hrank⟩
  rcases bfsPickAnchor_best order o cache start with ⟨halone, hnone⟩ | ⟨p, hbest, hresult⟩
  · have hno : ∀ anchor nodes, UpPath (buildAdjacency o cache) cache start anchor nodes →
        rankOf cache start anchor = none := by
      intro anchor nodes hpath
      cases hrank : rankOf cache start anchor with
      | none => rfl
      | some rank =>
        obtain ⟨p, hp⟩ := exists_bestRoute (hroutes hpath hrank)
        exact absurd hp (hnone p)
    refine ⟨iff_of_true halone hno, ?_⟩
    rintro ⟨anchor, nodes, hpath, hrank⟩
    rw [hno anchor nodes hpath] at hrank
    cases hrank
  · have hpath := anchorPath_of_bestRoute o hids hstart hbest
    rw [hresult]
    refine ⟨iff_of_false ?_ ?_, fun _ ↦ hpath⟩
    · intro halone
      obtain ⟨rfl, _⟩ := Prod.mk.inj halone
      obtain ⟨anchor, rank, hroute, _⟩ := hbest
      obtain rfl : anchor = start := hroute.walk.eq_of_singleton
      have hrank := hroute.rank
      simp [rankOf] at hrank
    · intro hall
      obtain ⟨anchor, rank, hup, hrank, _⟩ := hpath.best
      rw [hall anchor p hup] at hrank
      cases hrank

end Result

/-! ### One hop -/

private theorem linkIds_slowPort : LinkIds slowPortCache := by
  intro i links hi ln hln
  rw [List.mem_singleton.mp (listed_buildTopologyCacheWithCatalog hi hln)]
  decide

/-- The leaf reaches the core router over one hop. -/
theorem anchorPath_slowPort :
    AnchorPath (buildAdjacency ⟨.ascending, .ascending, .ascending⟩ slowPortCache) slowPortCache "ont1"
      (bfsPickAnchor (fun _ ↦ .ascending) "ont1"
        (buildAdjacency ⟨.ascending, .ascending, .ascending⟩ slowPortCache) slowPortCache).1
      (bfsPickAnchor (fun _ ↦ .ascending) "ont1"
        (buildAdjacency ⟨.ascending, .ascending, .ascending⟩ slowPortCache) slowPortCache).2 := by
  refine (bfsPickAnchor_anchorPath _ _ linkIds_slowPort (by decide)).2
    ⟨"core1", ["ont1", "core1"], ⟨rfl, rfl, ?_⟩, by decide⟩
  exact (List.isChain_pair).mpr ⟨by decide +kernel, by decide⟩

end Unoc.Traffic
