import Unoc.Base.Bfs
import Unoc.Traffic.Generation
import Unoc.Traffic.Topology

/-!
# The route a leaf takes

`bfsPickAnchor` against its purpose: a shortest route through devices that are up to an anchor of
the preferred class. Every result is such a best route, and every best route is the result for
some order of the neighbour loops.
-/

namespace Unoc.Traffic

open Unoc.Model Unoc.Base

/-- A device that the search may enter. -/
def usable (cache : TopologyCache) (deviceID : String) : Bool :=
  (cache.deviceByID.lookup deviceID).any (fun d ↦ d.effectiveStatus = .up)

/-- The search goes from a known device to a usable device joined to it. -/
def Enters (cache : TopologyCache) (u v : String) : Prop :=
  (cache.deviceByID.lookup u).isSome = true ∧ Adjacent cache u v ∧ usable cache v = true

/-- Preference among anchors, lower first: backbone, core, POP; `generation.go:360–366`. -/
def anchorRank : DeviceType → Option Nat
  | .backboneGateway => some 0
  | .coreRouter | .coreSite => some 1
  | .pop => some 2
  | _ => none

/-- Rank of a device as an anchor for the leaf `start`. -/
def rankOf (cache : TopologyCache) (start v : String) : Option Nat :=
  if v = start then none else (cache.deviceByID.lookup v).bind (fun d ↦ anchorRank d.type)

/-- A route from a leaf to an anchor of some rank. -/
structure Route (cache : TopologyCache) (start anchor : String) (rank : Nat) (p : List String) :
    Prop where
  walk : Walk (Enters cache) start anchor p
  rank : rankOf cache start anchor = some rank

/-- A route that no other beats in rank, nor in length at its rank. -/
def BestRoute (cache : TopologyCache) (start : String) (p : List String) : Prop :=
  ∃ anchor rank, Route cache start anchor rank p ∧
    ∀ anchor' rank' p', Route cache start anchor' rank' p' →
      rank < rank' ∨ (rank = rank' ∧ p.length ≤ p'.length)

/-! ### The lists that the search expands -/

section Next

variable (order : String → RangeOrder String) (o : AdjacencyOrders) (cache : TopologyCache)

/-- The devices that `bfsPickAnchor` enters from a dequeued device if they are new. -/
def nextDevices (u : String) : List String :=
  if (cache.deviceByID.lookup u).isSome then
    ((buildAdjacency o cache).getNeighbors (order u) u).filter (usable cache)
  else []

private theorem mem_getNeighbors {u v : String} :
    v ∈ (buildAdjacency o cache).getNeighbors (order u) u ↔ Adjacent cache u v := by
  rw [← mem_neighbors_buildAdjacency o cache, AdjacencyGraph.getNeighbors]
  cases (buildAdjacency o cache).neighbors.lookup u with
  | none => simp
  | some s => exact (order u).mem_keys s v

private theorem nodup_getNeighbors (u : String) :
    ((buildAdjacency o cache).getNeighbors (order u) u).Nodup := by
  rw [AdjacencyGraph.getNeighbors]
  split
  · exact List.nodup_nil
  · exact (order u).nodup _

private theorem mem_nextDevices {u v : String} :
    v ∈ nextDevices order o cache u ↔ Enters cache u v := by
  unfold nextDevices Enters
  split
  · next h => simp [h, mem_getNeighbors]
  · next h => simp [h]

private theorem nodup_nextDevices (u : String) : (nextDevices order o cache u).Nodup := by
  unfold nextDevices
  split
  · exact (nodup_getNeighbors order o cache u).filter _
  · exact List.nodup_nil

/-- The search walks exactly along `Enters`. -/
theorem walk_nextDevices_iff {s v : String} {p : List String} :
    Walk (fun u v ↦ v ∈ nextDevices order o cache u) s v p ↔ Walk (Enters cache) s v p :=
  ⟨Walk.mono (fun _ _ ↦ (mem_nextDevices order o cache).mp),
    Walk.mono (fun _ _ ↦ (mem_nextDevices order o cache).mpr)⟩

end Next

/-- Entered devices carry a proper id. -/
theorem ne_empty_of_enters {cache : TopologyCache} {u v : String} (h : Enters cache u v) :
    u ≠ "" ∧ v ≠ "" := by
  obtain ⟨_, ⟨_, _, ln, _, _, hp, hj⟩, _⟩ := h
  simp only [passable, Bool.and_eq_true, decide_eq_true_eq] at hp
  obtain ⟨⟨_, ha⟩, hb⟩ := hp
  rcases hj with ⟨rfl, rfl⟩ | ⟨rfl, rfl⟩
  · exact ⟨ha, hb⟩
  · exact ⟨hb, ha⟩

/-! ### The neighbour loop -/

/-- What the neighbour loop adds: the usable neighbours that are new, with their parent and
link. -/
structure Explored (g : AdjacencyGraph) (u : String) (new : List String)
    (st st' : BfsState) : Prop where
  queue : st'.queue = st.queue ++ new
  visited : ∀ v, v ∈ st'.visited ↔ v ∈ st.visited ∨ v ∈ new
  parents : ∀ v, st'.parents.lookup v =
    if v ∈ new then some ⟨u, g.getLinkBetween u v⟩ else st.parents.lookup v
  anchors : st'.anchors = st.anchors

/-- A neighbour that the loop enters. -/
def isNew (cache : TopologyCache) (st : BfsState) (v : String) : Bool :=
  v ∉ st.visited && usable cache v

/-- The state after a neighbour is entered. -/
def enter (g : AdjacencyGraph) (u : String) (st : BfsState) (v : String) : BfsState :=
  { st with
    visited := insert v st.visited
    parents := st.parents.insert v ⟨u, g.getLinkBetween u v⟩
    queue := st.queue ++ [v] }

private theorem exploreNeighbor_eq (cache : TopologyCache) (g : AdjacencyGraph) (u : String)
    (st : BfsState) (v : String) : exploreNeighbor cache g u st v =
      if isNew cache st v = true then enter g u st v else st := by
  unfold exploreNeighbor isNew usable
  by_cases hv : v ∈ st.visited
  · simp [hv]
  · cases hd : cache.deviceByID.lookup v with
    | none => simp [hv]
    | some d =>
      by_cases hs : d.effectiveStatus = .up
      · simp [hv, hs, enter]
      · simp [hv, hs]

/-- The neighbour loop, as a whole. -/
theorem explored_foldl (cache : TopologyCache) (g : AdjacencyGraph) (u : String)
    (neighbors : List String) (hn : neighbors.Nodup) (st : BfsState) :
    Explored g u (neighbors.filter (isNew cache st)) st
      (neighbors.foldl (exploreNeighbor cache g u) st) := by
  induction neighbors generalizing st with
  | nil => exact ⟨by simp, by simp, by simp, rfl⟩
  | cons v rest ih =>
    obtain ⟨hv, hrest⟩ := List.nodup_cons.mp hn
    rw [List.foldl_cons, exploreNeighbor_eq]
    by_cases hnew : isNew cache st v = true
    · rw [if_pos hnew, List.filter_cons_of_pos hnew]
      -- entering `v` does not change which later neighbours are new
      have hsame : rest.filter (isNew cache (enter g u st v)) =
          rest.filter (isNew cache st) := by
        refine List.filter_congr (fun w hw ↦ ?_)
        have hwv : w ≠ v := fun h ↦ hv (h ▸ hw)
        simp [isNew, enter, hwv]
      have h := ih hrest (enter g u st v)
      rw [hsame] at h
      refine ⟨?_, fun w ↦ ?_, fun w ↦ ?_, h.anchors⟩
      · rw [h.queue]
        simp [enter]
      · rw [h.visited w, List.mem_cons]
        simp only [enter, Finset.mem_insert]
        tauto
      · rw [h.parents w]
        by_cases hwv : w = v
        · subst hwv
          have hnot : w ∉ rest.filter (isNew cache st) :=
            fun hw ↦ hv (List.mem_of_mem_filter hw)
          rw [if_neg hnot, if_pos List.mem_cons_self]
          exact AList.lookup_insert _
        · have hlookup : (enter g u st v).parents.lookup w = st.parents.lookup w :=
            AList.lookup_insert_ne hwv
          simp only [hlookup, List.mem_cons, hwv, false_or]
    · rw [if_neg hnew, List.filter_cons_of_neg hnew]
      exact ih hrest st

/-! ### The queue loop -/

/-- Parent devices that the map records, the start having none. -/
def parentOf (st : BfsState) (v : String) : Option String :=
  (st.parents.lookup v).bind (fun i ↦ if i.deviceID = "" then none else some i.deviceID)

/-- Anchors found among dequeued devices. -/
def anchorsOf (cache : TopologyCache) (start : String) (dequeued : List String) : Anchors :=
  dequeued.foldl (fun a v ↦ match cache.deviceByID.lookup v with
    | none => a
    | some d => trackAnchor start v d a) {}

/-- The loop of `bfsPickAnchor` at queue position `head`. -/
structure LoopInv (order : String → RangeOrder String) (o : AdjacencyOrders)
    (cache : TopologyCache) (start : String) (head : Nat) (st : BfsState) : Prop where
  search : Bfs.Inv (nextDevices order o cache) start st.queue head (parentOf st)
  bound : head ≤ st.queue.length
  visited : ∀ v, v ∈ st.visited ↔ v ∈ st.queue
  usable : ∀ v ∈ st.queue, v ≠ start → usable cache v = true
  link : ∀ v u, parentOf st v = some u →
    st.parents.lookup v = some ⟨u, (buildAdjacency o cache).getLinkBetween u v⟩
  root : st.parents.lookup start = some {}
  anchors : st.anchors = anchorsOf cache start (st.queue.take head)

section Loop

variable {order : String → RangeOrder String} {o : AdjacencyOrders} {cache : TopologyCache}
  {start : String}

private theorem parentOf_init : parentOf (.init start) = fun _ ↦ none := by
  funext v
  unfold parentOf BfsState.init
  by_cases hv : v = start
  · rw [hv, AList.lookup_insert]; rfl
  · rw [AList.lookup_insert_ne hv]; rfl

private theorem loopInv_init : LoopInv order o cache start 0 (.init start) where
  search := by
    rw [parentOf_init]
    exact Bfs.inv_init _ _
  bound := Nat.zero_le _
  visited v := by simp [BfsState.init]
  usable v hv hne := absurd (List.mem_singleton.mp hv) hne
  link v u h := by rw [parentOf_init] at h; cases h
  root := AList.lookup_insert _
  anchors := rfl

/-- Neighbours that are new and usable are the fresh vertices of the search. -/
private theorem filter_isNew {head : Nat} {st : BfsState}
    (h : LoopInv order o cache start head st) {u : String}
    (hu : (cache.deviceByID.lookup u).isSome = true) (a : Anchors) :
    ((buildAdjacency o cache).getNeighbors (order u) u).filter
      (isNew cache { st with anchors := a }) =
      Bfs.fresh (nextDevices order o cache) st.queue u := by
  rw [Bfs.fresh, nextDevices, if_pos hu, List.filter_filter]
  refine List.filter_congr (fun v _ ↦ ?_)
  have hv := h.visited v
  simp only [isNew, hv]

private theorem anchorsOf_succ {queue : List String} {head : Nat} {u : String}
    (hu : queue[head]? = some u) : anchorsOf cache start (queue.take (head + 1)) =
      match cache.deviceByID.lookup u with
      | none => anchorsOf cache start (queue.take head)
      | some d => trackAnchor start u d (anchorsOf cache start (queue.take head)) := by
  rw [List.take_add_one, hu, anchorsOf, List.foldl_append]
  rfl

/-- A dequeued device that is not in the cache changes nothing. -/
theorem LoopInv.skip {head : Nat} {st : BfsState} (h : LoopInv order o cache start head st)
    {u : String} (hu : st.queue[head]? = some u) (hd : cache.deviceByID.lookup u = none) :
    LoopInv order o cache start (head + 1) st where
  search := h.search.skip hu (by rw [nextDevices, hd]; rfl)
  bound := (List.getElem?_eq_some_iff.mp hu).1
  visited := h.visited
  usable := h.usable
  link := h.link
  root := h.root
  anchors := by rw [h.anchors, anchorsOf_succ hu, hd]

/-- One iteration of the queue loop keeps the invariant. -/
theorem LoopInv.step {head : Nat} {st : BfsState} (h : LoopInv order o cache start head st)
    {u : String} (hu : st.queue[head]? = some u) {d : Device}
    (hd : cache.deviceByID.lookup u = some d) :
    LoopInv order o cache start (head + 1)
      (((buildAdjacency o cache).getNeighbors (order u) u).foldl
        (exploreNeighbor cache (buildAdjacency o cache) u)
        { st with anchors := trackAnchor start u d st.anchors }) := by
  have hsome : (cache.deviceByID.lookup u).isSome = true := by rw [hd]; rfl
  have he := explored_foldl cache (buildAdjacency o cache) u _ (nodup_getNeighbors order o cache u)
    { st with anchors := trackAnchor start u d st.anchors }
  rw [filter_isNew h hsome] at he
  generalize ((buildAdjacency o cache).getNeighbors (order u) u).foldl _ _ = st' at he ⊢
  have hfresh (v : String) (hv : v ∈ Bfs.fresh (nextDevices order o cache) st.queue u) :
      Enters cache u v := (mem_nextDevices order o cache).mp (Bfs.mem_fresh.mp hv).1
  have hparent : parentOf st' = Bfs.adopt (nextDevices order o cache) st.queue u (parentOf st) := by
    funext v
    rw [parentOf, he.parents, Bfs.adopt]
    split
    · next hv => simp [(ne_empty_of_enters (hfresh v hv)).1]
    · rfl
  constructor
  · rw [hparent, he.queue]
    exact h.search.step hu (nodup_nextDevices order o cache u)
  · have hlt := (List.getElem?_eq_some_iff.mp hu).1
    rw [he.queue, List.length_append]
    exact Nat.le_add_right_of_le hlt
  · intro v
    rw [he.visited, he.queue, List.mem_append]
    exact or_congr_left (h.visited v)
  · intro v hv hne
    rw [he.queue] at hv
    rcases List.mem_append.mp hv with hv | hv
    · exact h.usable v hv hne
    · exact (hfresh v hv).2.2
  · intro v p hp
    rw [hparent, Bfs.adopt] at hp
    rw [he.parents]
    split at hp
    · next hv =>
      rw [if_pos hv, Option.some.inj hp]
    · next hv =>
      rw [if_neg hv]
      exact h.link v p hp
  · rw [he.parents, if_neg (fun hv ↦ (Bfs.mem_fresh.mp hv).2 (List.mem_of_head? h.search.start))]
    exact h.root
  · have hlt := (List.getElem?_eq_some_iff.mp hu).1
    rw [he.anchors, he.queue, List.take_append_of_le_length hlt, anchorsOf_succ hu, hd, ← h.anchors]

/-- Every queued device but the start is in the cache, so the queue is bounded. -/
theorem LoopInv.queue_length_le {head : Nat} {st : BfsState}
    (h : LoopInv order o cache start head st) :
    st.queue.length ≤ cache.deviceByID.keys.length + 1 := by
  have hsub : st.queue ⊆ start :: cache.deviceByID.keys := by
    intro v hv
    by_cases hvs : v = start
    · exact hvs ▸ List.mem_cons_self
    · have hu := h.usable v hv hvs
      refine List.mem_cons_of_mem _ (AList.mem_keys.mp (AList.lookup_isSome.mp ?_))
      unfold Traffic.usable at hu
      cases hd : cache.deviceByID.lookup v with
      | none => rw [hd] at hu; cases hu
      | some d => rfl
  simpa using (List.subperm_of_subset h.search.nodup hsub).length_le

/-- With fuel for the devices that may still be queued, the loop runs until the queue is done. -/
theorem loopInv_bfsLoop (fuel : Nat) : ∀ {head : Nat} {st : BfsState},
    LoopInv order o cache start head st → cache.deviceByID.keys.length + 1 ≤ fuel + head →
    LoopInv order o cache start
      (bfsLoop order cache (buildAdjacency o cache) start fuel head st).queue.length
      (bfsLoop order cache (buildAdjacency o cache) start fuel head st) := by
  induction fuel with
  | zero =>
    intro head st h hfuel
    have hle := h.queue_length_le
    have hb := h.bound
    obtain rfl : head = st.queue.length := by omega
    exact h
  | succ fuel ih =>
    intro head st h hfuel
    unfold bfsLoop
    cases hu : st.queue[head]? with
    | none =>
      have hge := List.getElem?_eq_none_iff.mp hu
      obtain rfl : head = st.queue.length := Nat.le_antisymm h.bound hge
      exact h
    | some u =>
      cases hd : cache.deviceByID.lookup u with
      | none =>
        simp only [hd]
        exact ih (h.skip hu hd) (by omega)
      | some d =>
        simp only [hd]
        exact ih (h.step hu hd) (by omega)

end Loop

/-! ### The chosen anchor -/

section Anchors

variable {cache : TopologyCache} {start : String}

/-- The anchor variable of a rank. -/
def Anchors.get (a : Anchors) : Nat → String
  | 0 => a.backboneAnchor
  | 1 => a.coreAnchor
  | 2 => a.popAnchor
  | _ => a.anyAnchor

private theorem get_trackAnchor (v : String) {d : Device} (hd : cache.deviceByID.lookup v = some d)
    (a : Anchors) (r : Nat) : (trackAnchor start v d a).get r =
      if rankOf cache start v = some r then firstAnchor (a.get r) v else a.get r := by
  unfold trackAnchor rankOf
  by_cases hv : v = start
  · simp [hv]
  · rw [if_neg hv, hd, Option.bind_some]
    cases d.type <;> simp [anchorTypes, anchorRank, hv] <;>
      (rcases r with _ | _ | _ | r <;> simp [Anchors.get])

/-- Each anchor variable holds the first dequeued device of its rank. -/
theorem get_anchorsOf (l : List String)
    (hl : ∀ v ∈ l, (rankOf cache start v).isSome = true → v ≠ "") (r : Nat) :
    (anchorsOf cache start l).get r =
      (l.find? (fun v ↦ rankOf cache start v = some r)).getD "" := by
  induction l using List.reverseRecOn with
  | nil => rcases r with _ | _ | _ | r <;> rfl
  | append_singleton l v ih =>
    have ih' := ih (fun w hw ↦ hl w (List.mem_append_left _ hw))
    rw [anchorsOf, List.foldl_append, List.find?_append]
    change (match cache.deviceByID.lookup v with
      | none => anchorsOf cache start l
      | some d => trackAnchor start v d (anchorsOf cache start l)).get r = _
    cases hd : cache.deviceByID.lookup v with
    | none =>
      have hr : rankOf cache start v = none := by
        unfold rankOf
        rw [hd]
        split <;> rfl
      rw [ih']
      simp [hr]
    | some d =>
      rw [get_trackAnchor v hd, ih']
      by_cases hr : rankOf cache start v = some r
      · rw [if_pos hr]
        cases hf : l.find? (fun v ↦ rankOf cache start v = some r) with
        | none => simp [hr, firstAnchor]
        | some w =>
          have hw : w ≠ "" := by
            refine hl w (List.mem_append_left _ (List.mem_of_find?_eq_some hf)) ?_
            have := List.find?_some hf
            rw [of_decide_eq_true this]
            rfl
          simp [firstAnchor, hw]
      · simp [hr]

private theorem rankOf_lt {v : String} {r : Nat} (h : rankOf cache start v = some r) : r < 3 := by
  unfold rankOf at h
  split at h
  · cases h
  · obtain ⟨d, _, hr⟩ := Option.bind_eq_some_iff.mp h
    cases hd : d.type <;> simp [anchorRank, hd] at hr <;> omega

/-- The chosen anchor is the first dequeued device of the best rank that was dequeued. -/
theorem anchorID_anchorsOf (l : List String)
    (hl : ∀ v ∈ l, (rankOf cache start v).isSome = true → v ≠ "") :
    ((anchorsOf cache start l).anchorID = "" ∧ ∀ v ∈ l, rankOf cache start v = none) ∨
    ∃ r a, (anchorsOf cache start l).anchorID = a ∧ a ≠ "" ∧
      l.find? (fun v ↦ rankOf cache start v = some r) = some a ∧
      ∀ v ∈ l, ∀ r', rankOf cache start v = some r' → r ≤ r' := by
  have hget := get_anchorsOf l hl
  have hnone (r : Nat) (hr : l.find? (fun v ↦ rankOf cache start v = some r) = none) (v : String)
      (hv : v ∈ l) (r' : Nat) (hr' : rankOf cache start v = some r') : r' ≠ r := by
    rintro rfl
    exact List.find?_eq_none.mp hr v hv (decide_eq_true hr')
  have hne (r : Nat) (a : String)
      (hr : l.find? (fun v ↦ rankOf cache start v = some r) = some a) : a ≠ "" := by
    refine hl a (List.mem_of_find?_eq_some hr) ?_
    rw [of_decide_eq_true (List.find?_some (p := fun v ↦ decide (rankOf cache start v = some r)) hr)]
    rfl
  have hid : (anchorsOf cache start l).anchorID =
      firstAnchor (firstAnchor (firstAnchor ((anchorsOf cache start l).get 0)
        ((anchorsOf cache start l).get 1)) ((anchorsOf cache start l).get 2))
        ((anchorsOf cache start l).get 3) := rfl
  have h3 : l.find? (fun v ↦ rankOf cache start v = some 3) = none := by
    refine List.find?_eq_none.mpr (fun v _ hv ↦ ?_)
    exact absurd (rankOf_lt (of_decide_eq_true hv)) (Nat.lt_irrefl _)
  rw [hid, hget 0, hget 1, hget 2, hget 3, h3]
  cases h0 : l.find? (fun v ↦ rankOf cache start v = some 0) with
  | some a => exact .inr ⟨0, a, by simp [firstAnchor, hne 0 a h0], hne 0 a h0, h0, by simp⟩
  | none =>
    cases h1 : l.find? (fun v ↦ rankOf cache start v = some 1) with
    | some a =>
      refine .inr ⟨1, a, by simp [firstAnchor, hne 1 a h1], hne 1 a h1, h1, fun v hv r hr ↦ ?_⟩
      have := hnone 0 h0 v hv r hr
      omega
    | none =>
      cases h2 : l.find? (fun v ↦ rankOf cache start v = some 2) with
      | some a =>
        refine .inr ⟨2, a, by simp [firstAnchor, hne 2 a h2], hne 2 a h2, h2, fun v hv r hr ↦ ?_⟩
        have := hnone 0 h0 v hv r hr
        have := hnone 1 h1 v hv r hr
        omega
      | none =>
        refine .inl ⟨rfl, fun v hv ↦ Option.eq_none_iff_forall_ne_some.mpr (fun r hr ↦ ?_)⟩
        have := rankOf_lt hr
        have := hnone 0 h0 v hv r hr
        have := hnone 1 h1 v hv r hr
        have := hnone 2 h2 v hv r hr
        omega

end Anchors

/-! ### The recorded path -/

/-- The links of a path, without the pairs that hold no link id. -/
def pathLinksOf (g : AdjacencyGraph) (p : List String) : List String :=
  ((steps p).map (fun e ↦ g.getLinkBetween e.1 e.2)).filter (fun l ↦ l ≠ "")

private theorem walk_ne_empty {cache : TopologyCache} {s v : String} {p : List String}
    (h : Walk (Enters cache) s v p) : p = [s] ∨ ∀ x ∈ p, x ≠ "" := by
  induction h with
  | root => exact .inl rfl
  | @step u v p hw he ih =>
    right
    obtain ⟨hu, hv⟩ := ne_empty_of_enters he
    intro x hx
    rcases List.mem_append.mp hx with hx | hx
    · rcases ih with rfl | ih
      · rw [List.mem_singleton.mp hx, ← hw.eq_of_singleton]
        exact hu
      · exact ih x hx
    · exact List.mem_singleton.mp hx ▸ hv

private theorem backtrack_empty (parents : GoMap String ParentInfo) (fuel : Nat) :
    backtrack parents fuel "" = ([], []) := by
  cases fuel <;> rfl

/-- Backtracking reads off the path along the parents, last device first. -/
theorem backtrack_eq {order : String → RangeOrder String} {o : AdjacencyOrders}
    {cache : TopologyCache} {start : String} {head : Nat} {st : BfsState}
    (h : LoopInv order o cache start head st) {v : String} {p : List String}
    (hp : Bfs.TreeWalk (parentOf st) start v p) (hne : ∀ x ∈ p, x ≠ "") {fuel : Nat}
    (hfuel : p.length ≤ fuel) : backtrack st.parents fuel v =
      (p.reverse, (pathLinksOf (buildAdjacency o cache) p).reverse) := by
  induction hp generalizing fuel with
  | root =>
    obtain ⟨fuel, rfl⟩ : ∃ n, fuel = n + 1 := ⟨fuel - 1, by simp at hfuel; omega⟩
    rw [backtrack, if_neg (hne start (by simp)), h.root, Option.getD_some]
    simp only [backtrack_empty]
    rfl
  | @step u v p hw hv ih =>
    rw [List.length_append, List.length_singleton] at hfuel
    obtain ⟨fuel, rfl⟩ : ∃ n, fuel = n + 1 := ⟨fuel - 1, by omega⟩
    have hrest := ih (fun x hx ↦ hne x (List.mem_append_left _ hx)) (show p.length ≤ fuel by omega)
    rw [backtrack, if_neg (hne v (by simp)), h.link v u hv, Option.getD_some]
    simp only [hrest]
    obtain ⟨p', rfl⟩ := hw.exists_concat
    have hlinks : pathLinksOf (buildAdjacency o cache) (p' ++ [u] ++ [v]) =
        pathLinksOf (buildAdjacency o cache) (p' ++ [u]) ++
          [(buildAdjacency o cache).getLinkBetween u v].filter (fun l ↦ l ≠ "") := by
      rw [pathLinksOf, steps_concat, List.map_append, List.filter_append]
      rfl
    rw [hlinks]
    by_cases hl : (buildAdjacency o cache).getLinkBetween u v = "" <;> simp [hl]

/-! ### Best routes -/

section Best

variable (order : String → RangeOrder String) (o : AdjacencyOrders) (cache : TopologyCache)
  (start : String)

/-- The variables of `bfsPickAnchor` when its queue is done. -/
def finalState : BfsState :=
  bfsLoop order cache (buildAdjacency o cache) start (cache.deviceByID.keys.length + 1) 0
    (.init start)

private theorem bfsPickAnchor_eq : bfsPickAnchor order start (buildAdjacency o cache) cache =
    if (finalState order o cache start).anchors.anchorID = "" then ([start], [])
    else
      ((backtrack (finalState order o cache start).parents
          (finalState order o cache start).queue.length
          (finalState order o cache start).anchors.anchorID).1.reverse,
        (backtrack (finalState order o cache start).parents
          (finalState order o cache start).queue.length
          (finalState order o cache start).anchors.anchorID).2.reverse) := rfl

private theorem loopInv_finalState : LoopInv order o cache start
    (finalState order o cache start).queue.length (finalState order o cache start) :=
  loopInv_bfsLoop _ loopInv_init (Nat.le_refl _)

private theorem ranked_ne_empty {v : String} (hv : v ∈ (finalState order o cache start).queue)
    (hr : (rankOf cache start v).isSome = true) : v ≠ "" := by
  have h := loopInv_finalState order o cache start
  have hvs : v ≠ start := by
    rintro rfl
    simp [rankOf] at hr
  obtain ⟨u, hu⟩ := h.search.has_parent v hv hvs
  have hnext := (h.search.parent_spec v u hu).2.2.1
  exact (ne_empty_of_enters ((mem_nextDevices order o cache).mp hnext)).2

/-- The devices that the search dequeues are the ones that a walk reaches. -/
theorem mem_queue_iff {v : String} : v ∈ (finalState order o cache start).queue ↔
    ∃ p, Walk (Enters cache) start v p := by
  have h := (loopInv_finalState order o cache start).search
  constructor
  · intro hv
    obtain ⟨p, hp⟩ := h.exists_treeWalk hv
    exact ⟨p, (walk_nextDevices_iff order o cache).mp (h.walk_of_treeWalk hp)⟩
  · rintro ⟨p, hp⟩
    exact (h.shortest ((walk_nextDevices_iff order o cache).mpr hp)).1

/-- The anchor variables of the finished search cover its whole queue. -/
private theorem anchors_finalState : (finalState order o cache start).anchors =
    anchorsOf cache start (finalState order o cache start).queue := by
  have h := (loopInv_finalState order o cache start).anchors
  rwa [List.take_length] at h

/-- The result is the recorded path of the chosen anchor. -/
private theorem bfsPickAnchor_of_treeWalk {a : String} {p : List String}
    (ha : (finalState order o cache start).anchors.anchorID = a) (hne : a ≠ "")
    (hp : Bfs.TreeWalk (parentOf (finalState order o cache start)) start a p)
    (has : a ≠ start) :
    bfsPickAnchor order start (buildAdjacency o cache) cache =
      (p, pathLinksOf (buildAdjacency o cache) p) := by
  have h := loopInv_finalState order o cache start
  have hwalk := (walk_nextDevices_iff order o cache).mp (h.search.walk_of_treeWalk hp)
  have hpne : ∀ x ∈ p, x ≠ "" := by
    refine (walk_ne_empty hwalk).resolve_left ?_
    rintro rfl
    exact has hwalk.eq_of_singleton
  have hlen := h.search.treeWalk_length_le hp ((mem_queue_iff order o cache start).mpr ⟨p, hwalk⟩)
  rw [bfsPickAnchor_eq, ha, if_neg hne, backtrack_eq h hp hpne hlen]
  simp only [List.reverse_reverse]

/-- The search knows no anchor where there is no route; else it chooses the first dequeued anchor of
the best rank that a route has. -/
private theorem anchor_cases :
    ((finalState order o cache start).anchors.anchorID = "" ∧
      ∀ a r p, ¬ Route cache start a r p) ∨
    ∃ r a, (finalState order o cache start).anchors.anchorID = a ∧ a ≠ "" ∧
      (finalState order o cache start).queue.find?
        (fun v ↦ rankOf cache start v = some r) = some a ∧
      ∀ a' r' p', Route cache start a' r' p' → r ≤ r' := by
  have hmem {a : String} {r : Nat} {p : List String} (hp : Route cache start a r p) :=
    (mem_queue_iff order o cache start).mpr ⟨p, hp.walk⟩
  rw [anchors_finalState]
  rcases anchorID_anchorsOf (finalState order o cache start).queue
    (fun v hv ↦ ranked_ne_empty order o cache start hv) with ⟨he, hnone⟩ | ⟨r, a, ha, hne, hf, hr⟩
  · exact .inl ⟨he, fun a r p hp ↦ nomatch (hnone a (hmem hp)).symm.trans hp.rank⟩
  · exact .inr ⟨r, a, ha, hne, hf, fun a' r' p' hp' ↦ hr a' (hmem hp') r' hp'.rank⟩

private theorem rank_of_find? {l : List String} {r : Nat} {a : String}
    (h : l.find? (fun v ↦ rankOf cache start v = some r) = some a) :
    rankOf cache start a = some r :=
  of_decide_eq_true (List.find?_some (p := fun v ↦ decide (rankOf cache start v = some r)) h)

private theorem ne_start_of_rank {v : String} {r : Nat} (h : rankOf cache start v = some r) :
    v ≠ start := by
  rintro rfl
  simp [rankOf] at h

private theorem idxOf_find?_le (q : String → Bool) (l : List String) {a v : String}
    (h : l.find? q = some a) (hv : q v = true) (hmem : v ∈ l) : l.idxOf a ≤ l.idxOf v := by
  induction l with
  | nil => cases hmem
  | cons x rest ih =>
    by_cases hx : q x = true
    · rw [List.find?_cons_of_pos hx] at h
      obtain rfl := Option.some.inj h
      rw [List.idxOf_cons_self]
      exact Nat.zero_le _
    · rw [List.find?_cons_of_neg hx] at h
      have hxv : x ≠ v := fun he ↦ hx (he ▸ hv)
      have hxa : x ≠ a := fun he ↦ hx (he ▸ List.find?_some h)
      rw [List.idxOf_cons_ne _ hxv, List.idxOf_cons_ne _ hxa]
      exact Nat.succ_le_succ (ih h ((List.mem_cons.mp hmem).resolve_left (Ne.symm hxv)))

/-- The recorded path of the chosen anchor beats every route of its rank. -/
private theorem length_le_of_route {r : Nat} {a : String} {p : List String}
    (hf : (finalState order o cache start).queue.find?
      (fun v ↦ rankOf cache start v = some r) = some a)
    (hp : Bfs.TreeWalk (parentOf (finalState order o cache start)) start a p)
    {a' : String} {p' : List String} (h' : Route cache start a' r p') :
    p.length ≤ p'.length := by
  have h := (loopInv_finalState order o cache start).search
  have hmem := (mem_queue_iff order o cache start).mpr ⟨p', h'.walk⟩
  obtain ⟨q, hq⟩ := h.exists_treeWalk hmem
  have hidx := idxOf_find?_le _ _ hf (decide_eq_true h'.rank) hmem
  exact (h.treeWalk_mono hp hq hidx).trans
    ((h.shortest ((walk_nextDevices_iff order o cache).mpr h'.walk)).2 q hq)

/-- The recorded path of the chosen anchor is a route to it. -/
private theorem route_of_find? {r : Nat} {a : String} {p : List String}
    (hf : (finalState order o cache start).queue.find?
      (fun v ↦ rankOf cache start v = some r) = some a)
    (hp : Bfs.TreeWalk (parentOf (finalState order o cache start)) start a p) :
    Route cache start a r p :=
  ⟨(walk_nextDevices_iff order o cache).mp
    ((loopInv_finalState order o cache start).search.walk_of_treeWalk hp),
    rank_of_find? cache start hf⟩

/-- A route leaves its start. -/
theorem Route.one_lt_length {cache : TopologyCache} {start anchor : String} {rank : Nat}
    {p : List String} (h : Route cache start anchor rank p) : 1 < p.length := by
  obtain ⟨hhead, hlast, _⟩ := Walk.iff_isChain.mp h.walk
  have hne := ne_start_of_rank cache start h.rank
  match p with
  | [] => cases hhead
  | [x] =>
    simp only [List.head?_cons, Option.some.injEq, List.getLast?_singleton] at hhead hlast
    exact absurd (hlast.symm.trans hhead) hne
  | _ :: _ :: _ => simp

/-- `bfsPickAnchor` returns a best route with its links, or the start alone where there is no
route. -/
theorem bfsPickAnchor_best :
    (bfsPickAnchor order start (buildAdjacency o cache) cache = ([start], []) ∧
      ∀ p, ¬ BestRoute cache start p) ∨
    ∃ p, BestRoute cache start p ∧ bfsPickAnchor order start (buildAdjacency o cache) cache =
      (p, pathLinksOf (buildAdjacency o cache) p) := by
  rcases anchor_cases order o cache start with ⟨hid, hnone⟩ | ⟨r, a, ha, hne, hf, hr⟩
  · left
    refine ⟨by rw [bfsPickAnchor_eq, if_pos hid], ?_⟩
    rintro p ⟨a, r, hp, _⟩
    exact hnone a r p hp
  · right
    obtain ⟨p, hp⟩ := (loopInv_finalState order o cache start).search.exists_treeWalk
      (List.mem_of_find?_eq_some hf)
    have hroute := route_of_find? order o cache start hf hp
    refine ⟨p, ⟨a, r, hroute, fun a' r' p' hp' ↦ ?_⟩,
      bfsPickAnchor_of_treeWalk order o cache start ha hne hp
        (ne_start_of_rank cache start hroute.rank)⟩
    rcases Nat.lt_or_eq_of_le (hr a' r' p' hp') with hlt | rfl
    · exact .inl hlt
    · exact .inr ⟨rfl, length_le_of_route order o cache start hf hp hp'⟩

end Best

/-! ### Realizing a best route -/

/-- Visit one key first. -/
def RangeOrder.first {K : Type} [DecidableEq K] (o : RangeOrder K) (k : K) : RangeOrder K where
  keys s := if k ∈ s then k :: (o.keys s).erase k else o.keys s
  nodup s := by
    split
    · exact List.nodup_cons.mpr ⟨fun h ↦ (o.nodup s).not_mem_erase h, (o.nodup s).erase k⟩
    · exact o.nodup s
  mem_keys s x := by
    split
    · next h =>
      by_cases hx : x = k
      · simp [hx, h]
      · rw [List.mem_cons, List.mem_erase_of_ne hx, o.mem_keys]
        simp [hx]
    · exact o.mem_keys s x

/-- A device that a neighbour loop visits first is expanded first. -/
theorem head?_nextDevices {order : String → RangeOrder String} (o : AdjacencyOrders)
    {cache : TopologyCache} {u v : String} (h : Enters cache u v) {base : RangeOrder String}
    (hu : order u = base.first v) : (nextDevices order o cache u).head? = some v := by
  have hv : v ∈ (buildAdjacency o cache).getNeighbors (order u) u :=
    (mem_getNeighbors order o cache).mpr h.2.1
  unfold nextDevices
  rw [if_pos h.1]
  unfold AdjacencyGraph.getNeighbors at hv ⊢
  cases hl : (buildAdjacency o cache).neighbors.lookup u with
  | none => rw [hl] at hv; cases hv
  | some s =>
    rw [hl] at hv
    have hs : v ∈ s := ((order u).mem_keys s v).mp hv
    simp only [hu, RangeOrder.first, if_pos hs]
    rw [List.filter_cons_of_pos h.2.2]
    rfl

private theorem nextDevices_congr {order order' : String → RangeOrder String}
    (o : AdjacencyOrders) (cache : TopologyCache) {u : String} (h : order' u = order u) :
    nextDevices order' o cache u = nextDevices order o cache u := by
  rw [nextDevices, nextDevices, h]

/-- Some order of the neighbour loops lists a shortest walk first at every device of it. -/
theorem exists_order_first (o : AdjacencyOrders) (cache : TopologyCache)
    (base : String → RangeOrder String) {s v : String} {p : List String}
    (hp : Walk (Enters cache) s v p)
    (hmin : ∀ q, Walk (Enters cache) s v q → p.length ≤ q.length) :
    ∃ order : String → RangeOrder String,
      Walk (fun u v ↦ (nextDevices order o cache u).head? = some v) s v p := by
  induction hp with
  | root => exact ⟨base, .root⟩
  | @step u v p hw he ih =>
    have hmin' : ∀ q, Walk (Enters cache) s u q → p.length ≤ q.length := by
      intro q hq
      simpa using hmin _ (.step hq he)
    obtain ⟨order, horder⟩ := ih hmin'
    refine ⟨Function.update order u ((order u).first v), .step (horder.congr ?_) ?_⟩
    · -- a shortest walk leaves `u` only at its end
      intro x hx y hxy
      have hxu : x ≠ u := by
        rintro rfl
        obtain ⟨q, hq, hlt⟩ := hw.exists_shorter hx
        exact absurd (hmin' q hq) (Nat.not_le.mpr hlt)
      rwa [nextDevices_congr o cache (Function.update_of_ne hxu _ _)]
    · exact head?_nextDevices o he (Function.update_self _ _ _)

/-- Every best route is what `bfsPickAnchor` returns for some order of its neighbour loops. -/
theorem exists_order_of_bestRoute (o : AdjacencyOrders) (cache : TopologyCache)
    (base : String → RangeOrder String) {start : String} {p : List String}
    (hp : BestRoute cache start p) :
    ∃ order : String → RangeOrder String,
      bfsPickAnchor order start (buildAdjacency o cache) cache =
        (p, pathLinksOf (buildAdjacency o cache) p) := by
  obtain ⟨a, r, hroute, hbest⟩ := hp
  have hmin : ∀ q, Walk (Enters cache) start a q → p.length ≤ q.length := fun q hq ↦
    ((hbest a r q ⟨hq, hroute.rank⟩).resolve_left (Nat.lt_irrefl r)).2
  obtain ⟨order, horder⟩ := exists_order_first o cache base hroute.walk hmin
  refine ⟨order, ?_⟩
  have h := (loopInv_finalState order o cache start).search
  obtain ⟨htree, hfirst⟩ := h.treeWalk_of_first horder
    (fun q hq ↦ hmin q ((walk_nextDevices_iff order o cache).mp hq))
  rcases anchor_cases order o cache start with ⟨_, hnone⟩ | ⟨r', a', ha, hne, hf, hr⟩
  · exact absurd hroute (hnone a r p)
  · -- the chosen anchor has the rank and the length of the route, and `a` comes first there
    obtain ⟨p', hp'⟩ := h.exists_treeWalk (List.mem_of_find?_eq_some hf)
    have hroute' := route_of_find? order o cache start hf hp'
    obtain rfl : r' = r := by
      have hle := hr a r p hroute
      rcases hbest a' r' p' hroute' with hlt | ⟨heq, _⟩ <;> omega
    have hlen : p'.length = p.length := by
      have hle := length_le_of_route order o cache start hf hp' hroute
      rcases hbest a' r' p' hroute' with hlt | ⟨_, hge⟩ <;> omega
    have hmem := (mem_queue_iff order o cache start).mpr ⟨p, hroute.walk⟩
    have hidx := idxOf_find?_le _ _ hf (decide_eq_true hroute.rank) hmem
    obtain rfl : a = a' := (List.idxOf_inj hmem).mp
      (Nat.le_antisymm (hfirst a' p' hp' hlen) hidx)
    exact bfsPickAnchor_of_treeWalk order o cache start ha hne htree
      (ne_start_of_rank cache start hroute.rank)

end Unoc.Traffic
