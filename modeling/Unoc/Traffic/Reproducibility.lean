import Unoc.Traffic.Routing

/-!
# Reproducibility of the traffic tick

`generation.go:121–123` asks for bit-identical output for identical topology, tick and seed. Leaves
and links are sorted, but the neighbour loop and the last writer of a pair still follow the order
of a Go map. The output is the same for all orders exactly when no leaf has a choice of route or
of link.
-/

namespace Unoc.Traffic

open Unoc.Model Unoc.Base

/-- All orders of one tick. -/
structure TickOrders where
  adjacency : AdjacencyOrders
  generation : GenerationOrders

/-- The flows of a tick before shaping. -/
def tickFlows (o : TickOrders) (cache : TopologyCache) (tick randomSeed : Int) : List Flow :=
  collectFlows o.generation cache (buildAdjacency o.adjacency cache) tick randomSeed

/-- `BuildAdjacency` followed by `GenerateFlowsWithShaping`. -/
def tickResult (o : TickOrders) (cache : TopologyCache) (tick randomSeed : Int)
    (shapingEnabled : Bool) : GenerationResult :=
  generateFlowsWithShaping o.generation cache (buildAdjacency o.adjacency cache) tick randomSeed
    shapingEnabled

/-- Any two orders of the maps give the same flows and the same result. -/
def Reproducible (cache : TopologyCache) (tick randomSeed : Int) (shapingEnabled : Bool) : Prop :=
  ∀ o o' : TickOrders,
    tickFlows o cache tick randomSeed = tickFlows o' cache tick randomSeed ∧
      tickResult o cache tick randomSeed shapingEnabled =
        tickResult o' cache tick randomSeed shapingEnabled

/-- A leaf that asks for a route. -/
structure Eligible (cache : TopologyCache) (k : String) (d : Device) : Prop where
  leaf : k ∈ leafKeys cache
  device : cache.deviceByID.lookup k = some d
  tariff : (eligibleTariff cache d).isSome = true

/-- No leaf has a choice: one best route, and between two devices of it all interfaces that list a
deciding link end with the same one. -/
structure Determined (cache : TopologyCache) : Prop where
  route : ∀ k d, Eligible cache k d → ∀ p q, BestRoute cache d.id p → BestRoute cache d.id q →
    p = q
  link : ∀ k d, Eligible cache k d → ∀ p, BestRoute cache d.id p → ∀ e ∈ steps p, ∀ i j x y,
    lastListed cache (makePairKey e.1 e.2) i = some x →
    lastListed cache (makePairKey e.1 e.2) j = some y → x = y

/-- Listed links with one id have the same ends, as the primary key of the link table gives. -/
def UniqueLinkIds (cache : TopologyCache) : Prop :=
  ∀ i j links links' ln ln', cache.linksByInterface.lookup i = some links → ln ∈ links →
    cache.linksByInterface.lookup j = some links' → ln' ∈ links' → ln.id = ln'.id →
      ln.aInterfaceId = ln'.aInterfaceId ∧ ln.bInterfaceId = ln'.bInterfaceId

/-! ### The last writer of a pair -/

private theorem getLast?_filter_flatMap {α β : Type} (f : α → List β) (q : β → Bool)
    (l : List α) : ((l.flatMap f).filter q).getLast? =
      (l.filterMap (fun a ↦ ((f a).filter q).getLast?)).getLast? := by
  induction l using List.reverseRecOn with
  | nil => rfl
  | append_singleton l a ih =>
    rw [List.flatMap_append, List.flatMap_singleton, List.filter_append, List.filterMap_append,
      List.getLast?_append, List.getLast?_append, ih]
    cases h : ((f a).filter q).getLast? <;>
      simp only [List.filterMap_cons, List.filterMap_nil, h] <;> rfl

/-- The entry of a pair is the last deciding link of some interface, the last one visited that has
any. -/
theorem lookup_linkByPair_eq (o : AdjacencyOrders) (cache : TopologyCache) (key : String) :
    (buildAdjacency o cache).linkByPair.lookup key =
      ((o.links.keys cache.linksByInterface.keySet).filterMap (lastListed cache key)).getLast? := by
  rw [lookup_linkByPair_buildAdjacency, visitedLinks, getLast?_filter_flatMap, GoMap.range,
    List.filterMap_filterMap]
  rw [← List.getLast?_map, List.map_filterMap]
  congr 2
  funext i
  unfold lastListed
  cases cache.linksByInterface.lookup i <;> rfl

/-- A pair entry is what some interface lists last for it. -/
private theorem exists_lastListed {o : AdjacencyOrders} {cache : TopologyCache} {key x : String}
    (h : (buildAdjacency o cache).linkByPair.lookup key = some x) :
    ∃ i, lastListed cache key i = some x := by
  rw [lookup_linkByPair_eq] at h
  obtain ⟨i, _, hi⟩ := List.mem_filterMap.mp (List.mem_of_getLast? h)
  exact ⟨i, hi⟩

private theorem mem_keySet_of_lastListed {cache : TopologyCache} {key i x : String}
    (h : lastListed cache key i = some x) : i ∈ cache.linksByInterface.keySet := by
  refine List.mem_toFinset.mpr (AList.mem_keys.mp (AList.lookup_isSome.mp ?_))
  unfold lastListed at h
  cases hl : cache.linksByInterface.lookup i with
  | none => rw [hl] at h; cases h
  | some links => rfl

private theorem lookup_isSome_of_lastListed {cache : TopologyCache} {key i x : String}
    (h : lastListed cache key i = some x) (o : AdjacencyOrders) :
    ((buildAdjacency o cache).linkByPair.lookup key).isSome = true := by
  rw [lookup_linkByPair_eq, List.getLast?_isSome]
  exact List.ne_nil_of_mem (List.mem_filterMap.mpr
    ⟨i, (o.links.mem_keys _ i).mpr (mem_keySet_of_lastListed h), h⟩)

/-- Interfaces that agree on a pair fix its link for every order. -/
theorem getLinkBetween_eq_of_agree (o o' : AdjacencyOrders) {cache : TopologyCache} {u v : String}
    (h : ∀ i j x y, lastListed cache (makePairKey u v) i = some x →
      lastListed cache (makePairKey u v) j = some y → x = y) :
    (buildAdjacency o cache).getLinkBetween u v = (buildAdjacency o' cache).getLinkBetween u v := by
  unfold AdjacencyGraph.getLinkBetween
  congr 1
  cases hx : (buildAdjacency o cache).linkByPair.lookup (makePairKey u v) with
  | none =>
    cases hy : (buildAdjacency o' cache).linkByPair.lookup (makePairKey u v) with
    | none => rfl
    | some y =>
      obtain ⟨j, hj⟩ := exists_lastListed hy
      have := lookup_isSome_of_lastListed hj o
      rw [hx] at this
      cases this
  | some x =>
    obtain ⟨i, hi⟩ := exists_lastListed hx
    have := lookup_isSome_of_lastListed hi o'
    obtain ⟨y, hy⟩ := Option.isSome_iff_exists.mp this
    obtain ⟨j, hj⟩ := exists_lastListed hy
    rw [hy, h i j x y hi hj]

/-- Visit one key last. -/
def RangeOrder.last {K : Type} [DecidableEq K] (o : RangeOrder K) (k : K) : RangeOrder K where
  keys s := if k ∈ s then (o.keys s).erase k ++ [k] else o.keys s
  nodup s := by
    split
    · refine List.nodup_append.mpr ⟨(o.nodup s).erase k, List.nodup_singleton k, ?_⟩
      rintro x hx y hy rfl
      exact (o.nodup s).not_mem_erase (List.mem_singleton.mp hy ▸ hx)
    · exact o.nodup s
  mem_keys s x := by
    split
    · next h =>
      by_cases hx : x = k
      · simp [hx, h]
      · rw [List.mem_append, List.mem_erase_of_ne hx, o.mem_keys]
        simp [hx]
    · exact o.mem_keys s x

/-- The interface that is visited last decides a pair it lists a link for. -/
theorem getLinkBetween_of_last {o : AdjacencyOrders} {cache : TopologyCache} {u v i x : String}
    {base : RangeOrder String} (ho : o.links = base.last i)
    (h : lastListed cache (makePairKey u v) i = some x) :
    (buildAdjacency o cache).getLinkBetween u v = x := by
  unfold AdjacencyGraph.getLinkBetween
  rw [lookup_linkByPair_eq, ho, RangeOrder.last]
  simp only [if_pos (mem_keySet_of_lastListed h), List.filterMap_append, List.filterMap_cons, h,
    List.filterMap_nil, List.getLast?_concat]
  rfl

/-! ### The flow of one leaf -/

/-- The flow of a leaf along a path. -/
def leafFlow (tick randomSeed : Int) (d : Device) (tariff : Tariff)
    (path : List String × List String) : Flow where
  leafID := d.id
  demandUpBps := max tariff.maxUpMbps 0 * 1000000 * deterministicRandom randomSeed tick d.id
  demandDownBps := max tariff.maxDownMbps 0 * 1000000 * deterministicRandom randomSeed tick d.id
  pathNodes := path.1
  pathLinks := path.2

private theorem one_lt_length_of_bestRoute {cache : TopologyCache} {start : String}
    {p : List String}
    (h : BestRoute cache start p) : 1 < p.length := by
  obtain ⟨a, r, hroute, _⟩ := h
  have hrank := hroute.rank
  cases hroute.walk with
  | root => simp [rankOf] at hrank
  | step hw _ =>
    have := hw.length_pos
    rw [List.length_append, List.length_singleton]
    omega

section Leaf

variable (order : String → RangeOrder String) (o : AdjacencyOrders) {cache : TopologyCache}
  (tick randomSeed : Int) {k : String} {d : Device} {tariff : Tariff}
  (hd : cache.deviceByID.lookup k = some d) (ht : eligibleTariff cache d = some tariff)
include hd ht

private theorem collectFlow_of_path {path : List String × List String}
    (hp : bfsPickAnchor order d.id (buildAdjacency o cache) cache = path) :
    collectFlow order cache (buildAdjacency o cache) tick randomSeed k =
      if path.1.length ≤ 1 then none else some (leafFlow tick randomSeed d tariff path) := by
  subst hp
  simp only [collectFlow, hd, ht, Option.bind_eq_bind, Option.bind_some]
  rfl

private theorem collectFlow_of_bestRoute {p : List String} (h : BestRoute cache d.id p)
    (hp : bfsPickAnchor order d.id (buildAdjacency o cache) cache =
      (p, pathLinksOf (buildAdjacency o cache) p)) :
    collectFlow order cache (buildAdjacency o cache) tick randomSeed k =
      some (leafFlow tick randomSeed d tariff (p, pathLinksOf (buildAdjacency o cache) p)) := by
  rw [collectFlow_of_path order o tick randomSeed hd ht hp,
    if_neg (Nat.not_le.mpr (one_lt_length_of_bestRoute h))]

/-- An eligible leaf sends a flow along a best route, if there is one. -/
theorem collectFlow_cases :
    (collectFlow order cache (buildAdjacency o cache) tick randomSeed k = none ∧
      ∀ p, ¬ BestRoute cache d.id p) ∨
    ∃ p, BestRoute cache d.id p ∧
      collectFlow order cache (buildAdjacency o cache) tick randomSeed k =
        some (leafFlow tick randomSeed d tariff (p, pathLinksOf (buildAdjacency o cache) p)) := by
  rcases bfsPickAnchor_best order o cache d.id with ⟨hp, hnone⟩ | ⟨p, hbest, hp⟩
  · left
    refine ⟨?_, hnone⟩
    rw [collectFlow_of_path order o tick randomSeed hd ht hp]
    rfl
  · exact .inr ⟨p, hbest, collectFlow_of_bestRoute order o tick randomSeed hd ht hbest hp⟩

end Leaf

/-- A leaf key that fails a check sends no flow. -/
private theorem collectFlow_of_not_eligible {order : String → RangeOrder String}
    {g : AdjacencyGraph} {cache : TopologyCache} {tick randomSeed : Int} {k : String}
    (hk : k ∈ leafKeys cache) (h : ∀ d, ¬ Eligible cache k d) :
    collectFlow order cache g tick randomSeed k = none := by
  unfold collectFlow
  cases hd : cache.deviceByID.lookup k with
  | none => rfl
  | some d =>
    cases ht : eligibleTariff cache d with
    | none => simp [ht]
    | some tariff => exact absurd ⟨hk, hd, by rw [ht]; rfl⟩ (h d)

/-! ### Whole ticks -/

private theorem filterMap_inj {α β : Type} {f g : α → Option β} {l : List α}
    (hs : ∀ a ∈ l, (f a).isSome = (g a).isSome) (h : l.filterMap f = l.filterMap g) :
    ∀ a ∈ l, f a = g a := by
  induction l with
  | nil => simp
  | cons a rest ih =>
    have hrest := fun b hb ↦ hs b (List.mem_cons_of_mem _ hb)
    have ha := hs a List.mem_cons_self
    rw [List.filterMap_cons, List.filterMap_cons] at h
    cases hf : f a <;> cases hg : g a <;> simp only [hf, hg] at h ha
    · exact List.forall_mem_cons.mpr ⟨hf.trans hg.symm, ih hrest h⟩
    · cases ha
    · cases ha
    · obtain ⟨hab, hr⟩ := List.cons.inj h
      exact List.forall_mem_cons.mpr ⟨by rw [hf, hg, hab], ih hrest hr⟩

/-- Whether a leaf sends a flow does not depend on the orders. -/
private theorem isSome_collectFlow (order order' : String → RangeOrder String)
    (o o' : AdjacencyOrders) (cache : TopologyCache) (tick randomSeed : Int) {k : String}
    (hk : k ∈ leafKeys cache) :
    (collectFlow order cache (buildAdjacency o cache) tick randomSeed k).isSome =
      (collectFlow order' cache (buildAdjacency o' cache) tick randomSeed k).isSome := by
  by_cases h : ∃ d, Eligible cache k d
  · obtain ⟨d, _, hd, ht⟩ := h
    obtain ⟨tariff, ht⟩ := Option.isSome_iff_exists.mp ht
    rcases collectFlow_cases order o tick randomSeed hd ht with ⟨he, hn⟩ | ⟨p, hp, he⟩ <;>
      rcases collectFlow_cases order' o' tick randomSeed hd ht with ⟨he', hn'⟩ | ⟨p', hp', he'⟩
    · rw [he, he']
    · exact absurd hp' (hn p')
    · exact absurd hp (hn' p)
    · rw [he, he']; rfl
  · rw [collectFlow_of_not_eligible hk (not_exists.mp h),
      collectFlow_of_not_eligible hk (not_exists.mp h)]

private theorem pathLinksOf_congr {g g' : AdjacencyGraph} {p : List String}
    (h : ∀ e ∈ steps p, g.getLinkBetween e.1 e.2 = g'.getLinkBetween e.1 e.2) :
    pathLinksOf g p = pathLinksOf g' p := by
  rw [pathLinksOf, pathLinksOf, List.map_congr_left h]

/-- A leaf without a choice sends the same flow for all orders. -/
theorem collectFlow_eq_of_determined {cache : TopologyCache} (hdet : Determined cache)
    (order order' : String → RangeOrder String) (o o' : AdjacencyOrders) (tick randomSeed : Int)
    {k : String} (hk : k ∈ leafKeys cache) :
    collectFlow order cache (buildAdjacency o cache) tick randomSeed k =
      collectFlow order' cache (buildAdjacency o' cache) tick randomSeed k := by
  by_cases h : ∃ d, Eligible cache k d
  · obtain ⟨d, he⟩ := h
    obtain ⟨tariff, ht⟩ := Option.isSome_iff_exists.mp he.tariff
    rcases collectFlow_cases order o tick randomSeed he.device ht with ⟨hf, hn⟩ | ⟨p, hp, hf⟩ <;>
      rcases collectFlow_cases order' o' tick randomSeed he.device ht with ⟨hf', hn'⟩ | ⟨p', hp', hf'⟩
    · rw [hf, hf']
    · exact absurd hp' (hn p')
    · exact absurd hp (hn' p)
    · obtain rfl := hdet.route k d he p p' hp hp'
      have hlinks := pathLinksOf_congr (fun e hm ↦
        getLinkBetween_eq_of_agree o o' (hdet.link k d he p hp e hm))
      rw [hf, hf', hlinks]
  · rw [collectFlow_of_not_eligible hk (not_exists.mp h),
      collectFlow_of_not_eligible hk (not_exists.mp h)]

/-- Without a choice for any leaf, the tick is reproducible. -/
theorem reproducible_of_determined {cache : TopologyCache} (hdet : Determined cache)
    (tick randomSeed : Int) (shapingEnabled : Bool) :
    Reproducible cache tick randomSeed shapingEnabled := by
  intro o o'
  have hflows : tickFlows o cache tick randomSeed = tickFlows o' cache tick randomSeed := by
    unfold tickFlows collectFlows
    rw [o.generation.leaves.sortedKeys_eq o'.generation.leaves]
    exact List.filterMap_congr (fun k hk ↦ collectFlow_eq_of_determined hdet _ _ _ _ _ _
      (RangeOrder.mem_sortedKeys.mp hk))
  refine ⟨hflows, ?_⟩
  unfold tickFlows at hflows
  simp only [tickResult, generateFlowsWithShaping, shapedFlows, hflows,
    shapeFlows_order o.generation.flowLinks o'.generation.flowLinks]

private theorem collectFlow_eq_of_reproducible {cache : TopologyCache} {tick randomSeed : Int}
    {shapingEnabled : Bool} (h : Reproducible cache tick randomSeed shapingEnabled)
    (o o' : TickOrders) {k : String} (hk : k ∈ leafKeys cache) :
    collectFlow (o.generation.neighbors k) cache (buildAdjacency o.adjacency cache) tick
        randomSeed k =
      collectFlow (o'.generation.neighbors k) cache (buildAdjacency o'.adjacency cache) tick
        randomSeed k := by
  have hflows := (h o o').1
  unfold tickFlows collectFlows at hflows
  rw [o.generation.leaves.sortedKeys_eq o'.generation.leaves] at hflows
  refine filterMap_inj (fun k hk ↦ ?_) hflows k (RangeOrder.mem_sortedKeys.mpr hk)
  exact isSome_collectFlow _ _ _ _ _ _ _ (RangeOrder.mem_sortedKeys.mp hk)

/-- Ascending keys in every loop of `BuildAdjacency` but the link loop. -/
def linkLoopOrders (links : RangeOrder String) : AdjacencyOrders :=
  ⟨.ascending, .ascending, links⟩

/-- Ascending keys in every loop after `BuildAdjacency` but the neighbour loops. -/
def neighborLoopOrders (neighbors : String → RangeOrder String) : GenerationOrders :=
  ⟨.ascending, fun _ ↦ neighbors, .ascending⟩

/-- Two best routes, each with any order of the link loop, have the same devices and links in a
reproducible tick. -/
private theorem path_eq_of_reproducible {cache : TopologyCache} {tick randomSeed : Int}
    {shapingEnabled : Bool} (h : Reproducible cache tick randomSeed shapingEnabled) {k : String}
    {d : Device} (he : Eligible cache k d) (links links' : RangeOrder String)
    {p p' : List String} (hp : BestRoute cache d.id p) (hp' : BestRoute cache d.id p') :
    p = p' ∧ pathLinksOf (buildAdjacency (linkLoopOrders links) cache) p =
      pathLinksOf (buildAdjacency (linkLoopOrders links') cache) p' := by
  obtain ⟨tariff, ht⟩ := Option.isSome_iff_exists.mp he.tariff
  obtain ⟨order, horder⟩ :=
    exists_order_of_bestRoute (linkLoopOrders links) cache (fun _ ↦ links) hp
  obtain ⟨order', horder'⟩ :=
    exists_order_of_bestRoute (linkLoopOrders links') cache (fun _ ↦ links) hp'
  have hflow := collectFlow_eq_of_reproducible h
    ⟨linkLoopOrders links, neighborLoopOrders order⟩
    ⟨linkLoopOrders links', neighborLoopOrders order'⟩ he.leaf
  have hleaf := collectFlow_of_bestRoute _ _ tick randomSeed he.device ht hp horder
  have hleaf' := collectFlow_of_bestRoute _ _ tick randomSeed he.device ht hp' horder'
  have hsame := Option.some.inj (hleaf.symm.trans (hflow.trans hleaf'))
  exact ⟨congrArg Flow.pathNodes hsame, congrArg Flow.pathLinks hsame⟩

private theorem exists_listed {cache : TopologyCache} {key i x : String}
    (h : lastListed cache key i = some x) : ∃ links ln,
      cache.linksByInterface.lookup i = some links ∧ ln ∈ links ∧ ln.id = x ∧
        pairKey cache ln = key := by
  unfold lastListed at h
  cases hl : cache.linksByInterface.lookup i with
  | none => rw [hl] at h; cases h
  | some links =>
    rw [hl, Option.getD_some] at h
    obtain ⟨ln, hln, rfl⟩ := Option.map_eq_some_iff.mp h
    obtain ⟨hmem, hd⟩ := List.mem_filter.mp (List.mem_of_getLast? hln)
    simp only [decides, Bool.and_eq_true, decide_eq_true_eq] at hd
    exact ⟨links, ln, rfl, hmem, rfl, hd.2⟩

/-- An id decides at most one pair. -/
private theorem key_eq_of_lastListed {cache : TopologyCache} (hu : UniqueLinkIds cache)
    {key key' i j x : String} (h : lastListed cache key i = some x)
    (h' : lastListed cache key' j = some x) : key = key' := by
  obtain ⟨links, ln, hi, hln, hx, hk⟩ := exists_listed h
  obtain ⟨links', ln', hj, hln', hx', hk'⟩ := exists_listed h'
  obtain ⟨ha, hb⟩ := hu i j links links' ln ln' hi hln hj hln' (hx.trans hx'.symm)
  rw [← hk, ← hk', pairKey, pairKey, ha, hb]

/-- A proper id that interface `i` puts between two devices of a path is also the id that
interface `j` puts there, if the path has the same links for both. -/
private theorem eq_of_pathLinksOf_eq {cache : TopologyCache} (hu : UniqueLinkIds cache)
    {o o' : AdjacencyOrders} {base : RangeOrder String} {p : List String} {e : String × String}
    (he : e ∈ steps p) {i j x y : String} (hi : lastListed cache (makePairKey e.1 e.2) i = some x)
    (hj : lastListed cache (makePairKey e.1 e.2) j = some y) (ho : o.links = base.last i)
    (ho' : o'.links = base.last j) (hx : x ≠ "")
    (h : pathLinksOf (buildAdjacency o cache) p = pathLinksOf (buildAdjacency o' cache) p) :
    x = y := by
  have hmem : x ∈ pathLinksOf (buildAdjacency o' cache) p := by
    rw [← h, pathLinksOf, List.mem_filter]
    refine ⟨List.mem_map.mpr ⟨e, he, getLinkBetween_of_last ho hi⟩, decide_eq_true hx⟩
  obtain ⟨e', _, hx'⟩ := List.mem_map.mp (List.mem_filter.mp hmem).1
  obtain ⟨i', hi'⟩ : ∃ i', lastListed cache (makePairKey e'.1 e'.2) i' = some x := by
    unfold AdjacencyGraph.getLinkBetween at hx'
    cases hl : (buildAdjacency o' cache).linkByPair.lookup (makePairKey e'.1 e'.2) with
    | none => rw [hl] at hx'; exact absurd hx'.symm hx
    | some z =>
      rw [hl] at hx'
      exact exists_lastListed (o := o') (hl.trans (congrArg some hx'))
  have hkey := key_eq_of_lastListed hu hi hi'
  have hy := getLinkBetween_of_last ho' hj
  unfold AdjacencyGraph.getLinkBetween at hx' hy
  rw [← hkey] at hx'
  exact hx'.symm.trans hy

/-- A tick that is reproducible leaves no leaf a choice. -/
theorem determined_of_reproducible {cache : TopologyCache} (hu : UniqueLinkIds cache)
    {tick randomSeed : Int} {shapingEnabled : Bool}
    (h : Reproducible cache tick randomSeed shapingEnabled) : Determined cache where
  route k d he p q hp hq :=
    (path_eq_of_reproducible h he .ascending .ascending hp hq).1
  link k d he p hp e hm i j x y hi hj := by
    have hpath := (path_eq_of_reproducible h he (RangeOrder.ascending.last i)
      (RangeOrder.ascending.last j) hp hp).2
    by_cases hx : x = ""
    · by_cases hy : y = ""
      · rw [hx, hy]
      · exact (eq_of_pathLinksOf_eq hu hm hj hi rfl rfl hy hpath.symm).symm
    · exact eq_of_pathLinksOf_eq hu hm hi hj rfl rfl hx hpath

/-- The tick is reproducible for a cache in which no leaf has a choice, and, links having unique
ids, for no other. -/
theorem reproducible_iff_determined (cache : TopologyCache) (tick randomSeed : Int)
    (shapingEnabled : Bool) :
    (Determined cache → Reproducible cache tick randomSeed shapingEnabled) ∧
    (UniqueLinkIds cache → Reproducible cache tick randomSeed shapingEnabled →
      Determined cache) :=
  ⟨fun h ↦ reproducible_of_determined h tick randomSeed shapingEnabled,
    fun hu h ↦ determined_of_reproducible hu h⟩

/-! ### Caches built from rows -/

section Build

variable {devices : List Device} {links : List Link} {interfaces : List Interface}
  {tariffs : List Tariff} {hardwareModels : List HardwareModel} {portProfiles : List PortProfile}

/-- Rows with distinct primary keys build a cache with unique link ids. -/
theorem uniqueLinkIds_buildTopologyCacheWithCatalog (h : (links.map Link.id).Nodup) :
    UniqueLinkIds (buildTopologyCacheWithCatalog devices links interfaces tariffs hardwareModels
      portProfiles) := by
  intro i j l l' ln ln' hi hln hj hln' hid
  have hmem := listed_buildTopologyCacheWithCatalog hi hln
  have hmem' := listed_buildTopologyCacheWithCatalog hj hln'
  rw [List.inj_on_of_nodup_map h hmem hmem' hid]
  exact ⟨rfl, rfl⟩

end Build

/-! ### Concrete caches -/

private theorem enters_slowPort {u v : String} (h : Enters slowPortCache u v) :
    (u = "core1" ∧ v = "ont1") ∨ (u = "ont1" ∧ v = "core1") := by
  obtain ⟨_, ⟨i, links, ln, hi, hln, _, hj⟩, _⟩ := h
  obtain rfl := List.mem_singleton.mp (listed_buildTopologyCacheWithCatalog hi hln)
  have ha : ifaceDevice slowPortCache "core1-if0" = "core1" := by decide
  have hb : ifaceDevice slowPortCache "ont1-if0" = "ont1" := by decide
  rcases hj with ⟨rfl, rfl⟩ | ⟨rfl, rfl⟩
  · exact .inl ⟨ha, hb⟩
  · exact .inr ⟨hb, ha⟩

private theorem bestRoute_slowPort {p : List String} (h : BestRoute slowPortCache "ont1" p) :
    p = ["ont1", "core1"] := by
  obtain ⟨a, r, hroute, hbest⟩ := h
  have henters : Enters slowPortCache "ont1" "core1" := by
    refine ⟨by decide, ⟨"ont1-if0", _, _, rfl, List.mem_singleton.mpr rfl, by decide, ?_⟩,
      by decide⟩
    exact .inr ⟨by decide, by decide⟩
  have hrank := hroute.rank
  cases hroute.walk with
  | root => simp [rankOf] at hrank
  | @step u _ q hw he =>
    rcases enters_slowPort he with ⟨_, rfl⟩ | ⟨rfl, rfl⟩
    · simp [rankOf] at hrank
    · have hone : rankOf slowPortCache "ont1" "core1" = some 1 := by decide
      obtain rfl : 1 = r := Option.some.inj (hone.symm.trans hrank)
      have hlen := ((hbest _ _ _ ⟨.step .root henters, hone⟩).resolve_left (Nat.lt_irrefl 1)).2
      have hpos := hw.length_pos
      simp only [List.length_append, List.length_cons, List.length_nil] at hlen
      obtain ⟨q', rfl⟩ := hw.exists_concat
      obtain rfl : q' = [] := by
        rw [List.length_append, List.length_singleton] at hlen
        exact List.length_eq_zero_iff.mp (by omega)
      rfl

private theorem determined_slowPort : Determined slowPortCache := by
  have hleaf {k : String} {d : Device} (he : Eligible slowPortCache k d) : d.id = "ont1" := by
    have hk : leafKeys slowPortCache = {"ont1"} := by decide
    have hmem := he.leaf
    rw [hk, Finset.mem_singleton] at hmem
    have hd := he.device
    subst hmem
    exact (Option.some.inj hd) ▸ rfl
  constructor
  · intro k d he p q hp hq
    rw [hleaf he] at hp hq
    rw [bestRoute_slowPort hp, bestRoute_slowPort hq]
  · intro k d _ p _ e _ i j x y hx hy
    obtain ⟨l, ln, hi, hln, rfl, _⟩ := exists_listed hx
    obtain ⟨l', ln', hj, hln', rfl, _⟩ := exists_listed hy
    rw [List.mem_singleton.mp (listed_buildTopologyCacheWithCatalog hi hln),
      List.mem_singleton.mp (listed_buildTopologyCacheWithCatalog hj hln')]

/-- One subscriber with one route. -/
theorem reproducible_iff_determined_slow_port :
    Reproducible slowPortCache 3 42 true ∧ UniqueLinkIds slowPortCache ∧
      Determined slowPortCache := by
  have hu : UniqueLinkIds slowPortCache := uniqueLinkIds_buildTopologyCacheWithCatalog (by decide)
  have hr := (reproducible_iff_determined slowPortCache 3 42 true).1 determined_slowPort
  exact ⟨hr, hu, (reproducible_iff_determined slowPortCache 3 42 true).2 hu hr⟩

/-- A subscriber joined to two core routers, so with two best routes. -/
def twoCoresCache : TopologyCache :=
  buildTopologyCacheWithCatalog
    [{ id := "core1", type := .coreRouter }, { id := "core2", type := .coreRouter },
      { id := "ont1", type := .ont, provisioned := true, tariffId := some 1 }]
    [{ id := "link1", aInterfaceId := "core1-if0", bInterfaceId := "ont1-if0" },
      { id := "link2", aInterfaceId := "core2-if0", bInterfaceId := "ont1-if1" }]
    [{ id := "core1-if0", deviceId := "core1", name := "if0" },
      { id := "core2-if0", deviceId := "core2", name := "if0" },
      { id := "ont1-if0", deviceId := "ont1", name := "if0" },
      { id := "ont1-if1", deviceId := "ont1", name := "if1" }]
    [{ id := 1, maxUpMbps := 5, maxDownMbps := 20 }] [] []

/-- Two orders of one neighbour loop send the same subscriber to different core routers, at the
same tick and seed. -/
theorem not_reproducible_two_cores : ¬ Reproducible twoCoresCache 3 42 true := by
  intro h
  have hflows := (h
    ⟨linkLoopOrders .ascending, neighborLoopOrders (fun _ ↦ .ascending)⟩
    ⟨linkLoopOrders .ascending, neighborLoopOrders (fun _ ↦ .descending)⟩).1
  revert hflows
  decide +kernel

end Unoc.Traffic
