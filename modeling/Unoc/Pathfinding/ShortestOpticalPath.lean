import Unoc.Pathfinding.CollapsedAccess

/-!
# Shortest optical paths

`_shortest_optical_path` of `backend/services/pathfinding.py:229–262` returns the device ids on the
least path to any candidate, or nothing where it reaches none. It is a closure over the optical
nodes and the adjacency that `build_logical_graph` collects.
-/

namespace Unoc.Pathfinding.Collapse

open Unoc.Base Unoc.Model
open Unoc.Status (DeviceRecord recordIds opticalType Adjacent neighbors edgeIds opticalSearchLoop
  searchStart searchPotential opticalSearchLoop_fuel_irrelevant exhaustive_search
  shortestOpticalOlt shortestOpticalOlt_eq_some_iff exists_leastWalkTo IsTarget)

/-- `optical_nodes` and `opt_adj`, which has entries for optical nodes only. -/
structure OpticalAdjacency where
  opticalNodes : List String
  optAdj : List (String × String)
  edge_nodes : ∀ a b, Adjacent optAdj a b → a ∈ opticalNodes

/-- The adjacency of `build_logical_graph`; `pathfinding.py:211–227`. -/
def opticalAdjacency (devices : List DeviceRecord) (links : List LinkRecord) :
    OpticalAdjacency where
  opticalNodes := recordIds opticalType devices
  optAdj := optAdj devices links
  edge_nodes := by
    have hnode : ∀ id type, nodeType devices opticalType id = some type →
        id ∈ recordIds opticalType devices := by
      intro id type h
      have ⟨d, hd, hkeep, hid, _⟩ := nodeType_eq_some h
      exact List.mem_map.mpr ⟨d, List.mem_filter.mpr ⟨hd, hkeep⟩, hid⟩
    have hedge : ∀ a b, (a, b) ∈ optAdj devices links →
        a ∈ recordIds opticalType devices ∧ b ∈ recordIds opticalType devices := by
      intro a b h
      have ⟨l, hl, heq⟩ := List.mem_map.mp h
      have ⟨ha, hb⟩ := Prod.mk.inj heq
      have hcond := (List.mem_filter.mp hl).2
      split at hcond
      next aType bType haType hbType =>
        rw [ha] at haType
        rw [hb] at hbType
        exact ⟨hnode a aType haType, hnode b bType hbType⟩
      next => cases hcond
    intro a b h
    rcases h with h | h
    · exact (hedge a b h).1
    · exact (hedge b a h).2

namespace OpticalAdjacency

section Search

variable (g : OpticalAdjacency) (src : String) (dstCandidates : List String)

/-- `target_paths` after the loop; every push is for one edge direction; `pathfinding.py:234–258`. -/
def targetPaths : List (Nat × List String) :=
  let fuel := 1 + ((edgeIds g.optAdj).map (fun id ↦ (neighbors g.optAdj id).length)).sum
  opticalSearchLoop g.optAdj dstCandidates src fuel
    { heap := [⟨0, [src], src⟩], bestPaths := AList.singleton src (0, [src]) }

/-- `_shortest_optical_path`; `pathfinding.py:229–262`. -/
def shortestOpticalPath : Option (List String) :=
  if src ∉ g.opticalNodes then none
  else
    (((g.targetPaths src dstCandidates).insertionSort (fun a b ↦ toLex a ≤ toLex b)).head?).map
      Prod.snd

end Search

variable {g : OpticalAdjacency} {src v : String} {dstCandidates p : List String}

/-- The loop runs out within its fuel. -/
theorem targetPaths_eq : g.targetPaths src dstCandidates =
    opticalSearchLoop g.optAdj dstCandidates src (searchPotential g.optAdj (searchStart src))
      (searchStart src) := by
  symm
  apply opticalSearchLoop_fuel_irrelevant
  · exact Nat.le_refl _
  · simp [searchPotential, Worklist.potential, searchStart]

/-- A source that is no optical node reaches itself only. -/
theorem eq_of_walk (hsrc : src ∉ g.opticalNodes) (h : Walk (Adjacent g.optAdj) src v p) :
    v = src := by
  induction h with
  | root => rfl
  | step _ hedge ih =>
    rw [ih] at hedge
    exact absurd (g.edge_nodes _ _ hedge) hsrc

/-- The path that is returned is the least walk to a candidate other than the source. -/
theorem shortestOpticalPath_eq_some : g.shortestOpticalPath src dstCandidates = some p ↔
    LeastWalkTo (Adjacent g.optAdj) src (IsTarget dstCandidates src) p := by
  unfold shortestOpticalPath
  split
  next hsrc =>
    simp only [reduceCtorEq, false_iff]
    intro hp
    have ⟨v, hv, hwalk⟩ := hp.walk
    exact hv.1 (eq_of_walk hsrc hwalk)
  next =>
    have hsearch := exhaustive_search g.optAdj dstCandidates src
    rw [← targetPaths_eq] at hsearch
    rw [Option.map_eq_some_iff]
    constructor
    · intro ⟨x, hx, heq⟩
      rw [← heq]
      exact (hsearch.leastBy_eq_some_iff.mp hx).1
    · intro hp
      exact ⟨(p.length - 1, p), hsearch.leastBy_eq_some_iff.mpr ⟨hp, rfl⟩, rfl⟩

/-- No path is returned exactly if no candidate other than the source is reachable. -/
theorem shortestOpticalPath_eq_none : g.shortestOpticalPath src dstCandidates = none ↔
    ¬ ∃ v, IsTarget dstCandidates src v ∧ Relation.ReflTransGen (Adjacent g.optAdj) src v := by
  rw [Option.eq_none_iff_forall_ne_some]
  constructor
  · rintro hnone ⟨v, hv, hreach⟩
    have ⟨q, hq⟩ := Walk.exists_iff.mpr hreach
    have ⟨p, hp⟩ := exists_leastWalkTo hv hq
    exact hnone p (shortestOpticalPath_eq_some.mpr hp)
  · intro hnone p hp
    have ⟨v, hv, hwalk⟩ := (shortestOpticalPath_eq_some.mp hp).walk
    exact hnone ⟨v, hv, Walk.exists_iff.mp ⟨p, hwalk⟩⟩

/-- The search finds nothing where no candidate is reachable, and otherwise the path with the fewest
hops, of these the least by the ids on it. -/
theorem shortestOpticalPath_least (g : OpticalAdjacency) (src : String)
    (dstCandidates : List String) :
    (g.shortestOpticalPath src dstCandidates = none ↔
      ¬ ∃ v, IsTarget dstCandidates src v ∧ Relation.ReflTransGen (Adjacent g.optAdj) src v) ∧
    ∀ p, g.shortestOpticalPath src dstCandidates = some p ↔
      LeastWalkTo (Adjacent g.optAdj) src (IsTarget dstCandidates src) p ∧ p.Nodup := by
  apply And.intro shortestOpticalPath_eq_none
  intro p
  rw [shortestOpticalPath_eq_some]
  exact (and_iff_left_of_imp LeastWalkTo.nodup).symm

/-- A path that is returned is never trivial; `pathfinding.py:270`. -/
theorem two_le_length (h : g.shortestOpticalPath src dstCandidates = some p) : 2 ≤ p.length := by
  have ⟨v, hv, hwalk⟩ := (shortestOpticalPath_eq_some.mp h).walk
  cases hwalk with
  | root => exact absurd rfl hv.1
  | step hpre _ =>
    have hpos := hpre.length_pos
    rw [List.length_append, List.length_singleton]
    omega

private theorem shortestOpticalOlt_eq_getLast? : shortestOpticalOlt g.optAdj dstCandidates src =
    (g.shortestOpticalPath src dstCandidates).bind List.getLast? := by
  apply Option.ext
  intro olt
  simp only [shortestOpticalOlt_eq_some_iff, Option.bind_eq_some_iff, shortestOpticalPath_eq_some]

end OpticalAdjacency

/-- The collapsed edge of an ONT goes to the end of its shortest optical path;
`pathfinding.py:267–287`. -/
theorem addCollapsed_eq (devices : List DeviceRecord) (links : List LinkRecord)
    (g : List (String × String)) (ont : String) : addCollapsed devices links g ont =
      match ((opticalAdjacency devices links).shortestOpticalPath ont (oltIds devices)).bind
        List.getLast? with
      | none => g
      | some olt => if mayJoin devices g ont olt then g ++ [(ont, olt)] else g := by
  rw [← OpticalAdjacency.shortestOpticalOlt_eq_getLast?]
  rfl

end Unoc.Pathfinding.Collapse
