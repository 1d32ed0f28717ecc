import Unoc.Status.Affected

/-!
# Freshness of the cached adjacency

`_ensure_graph_cache` answers from its cache when the version and the numbers of forced-UP and
forced-DOWN devices and links have not changed since the cache was built. Different overrides can
have the same numbers.
-/

namespace Unoc.Status

open Unoc.Base Unoc.Model

/-! ### What the adjacency holds -/

/-- An open link runs from one device to another: passable, viable, both device ids not empty. -/
def OpenLink (t : Topology) (a b : String) : Prop :=
  ∃ link ∈ t.links, isLinkPassable t link = true ∧ isLinkPhysicallyViable t link = true ∧
    ifToDev t link.aInterfaceId = some a ∧ ifToDev t link.bInterfaceId = some b

/-- A device is in a container. -/
def InContainer (t : Topology) (a b : String) : Prop :=
  ∃ d ∈ t.devices, d.id = a ∧ d.parentContainerId = some b ∧ b ≠ ""

/-- Two ids are joined by an open link or as device and container. -/
def JoinedRows (t : Topology) (a b : String) : Prop :=
  OpenLink t a b ∨ OpenLink t b a ∨ InContainer t a b ∨ InContainer t b a

private theorem mem_linkEdges {t : Topology} {a b : String} :
    (a, b) ∈ t.links.filterMap (linkEdge t) ↔ OpenLink t a b := by
  simp only [List.mem_filterMap, OpenLink, linkEdge, Option.bind_eq_bind,
    Option.ite_none_right_eq_some, Option.bind_eq_some_iff, Option.pure_def, Option.some.injEq,
    Prod.mk.injEq]
  constructor
  · rintro ⟨link, hlink, ⟨hpass, hviable⟩, aDev, ha, bDev, hb, rfl, rfl⟩
    exact ⟨link, hlink, hpass, hviable, ha, hb⟩
  · rintro ⟨link, hlink, hpass, hviable, ha, hb⟩
    exact ⟨link, hlink, ⟨hpass, hviable⟩, a, ha, b, hb, rfl, rfl⟩

private theorem mem_containerEdges {t : Topology} {a b : String} :
    (a, b) ∈ t.devices.filterMap containerEdge ↔ InContainer t a b := by
  simp only [List.mem_filterMap, InContainer, containerEdge, truthy, Option.map_eq_some_iff,
    Option.filter_eq_some_iff, Prod.mk.injEq, decide_eq_true_eq]
  constructor
  · rintro ⟨d, hd, parent, ⟨hparent, hne⟩, rfl, rfl⟩
    exact ⟨d, hd, rfl, hparent, hne⟩
  · rintro ⟨d, hd, rfl, hparent, hne⟩
    exact ⟨d, hd, b, ⟨hparent, hne⟩, rfl, rfl⟩

private theorem adjacent_adjacencyEdges {t : Topology} {a b : String} :
    Adjacent (adjacencyEdges t) a b ↔ JoinedRows t a b := by
  simp only [Adjacent, adjacencyEdges, List.mem_append, mem_linkEdges,
      mem_containerEdges, JoinedRows]
  tauto

/-- Two edge lists are the same dictionary of sets if they join the same ids. -/
theorem neighbors_eq_iff {edges edges' : List (String × String)} :
    (∀ id, neighbors edges id = neighbors edges' id) ↔
      ∀ a b, Adjacent edges a b ↔ Adjacent edges' a b := by
  constructor
  · intro h a b
    rw [← mem_neighbors, ← mem_neighbors, h a]
  · intro h id
    unfold neighbors
    apply sortedSet_congr
    intro b
    have hb := h id b
    rw [← mem_neighbors, ← mem_neighbors] at hb
    simpa only [neighbors, mem_sortedSet] using hb

/-! ### Calls -/

/-- A call of `_ensure_graph_cache`: the version in force and the rows of the session. -/
structure GraphCall where
  version : Int
  rows : Topology

/-- A call with the cache that the calls before it left. -/
def GraphCall.run (cache : Option GraphCache) (call : GraphCall) : GraphCache :=
  ensureGraphCache cache call.version call.rows

/-- What a sequence of calls returns. -/
def runGraphCalls (cache : Option GraphCache) : List GraphCall → List GraphCache
  | [] => []
  | call :: calls => call.run cache :: runGraphCalls (some (call.run cache)) calls

/-- The returned adjacency is the one that a rebuild from the rows gives. -/
def GraphCache.Fresh (c : GraphCache) (rows : Topology) : Prop :=
  ∀ id, neighbors c.edges id = neighbors (adjacencyEdges rows) id

/-- Two calls that do not share a version and override numbers, or whose rows join the same ids. -/
def GraphCall.Separated (call call' : GraphCall) : Prop :=
  call.version ≠ call'.version ∨ overrideFp call.rows ≠ overrideFp call'.rows ∨
    ∀ a b, JoinedRows call.rows a b ↔ JoinedRows call'.rows a b

/-- A cache that a call left, whose adjacency was fresh then. -/
structure GraphCache.Answers (c : GraphCache) (call : GraphCall) : Prop where
  version : c.version = call.version
  overrideFp : c.overrideFp = Status.overrideFp call.rows
  fresh : c.Fresh call.rows

/-- Every call leaves its version and its override numbers. -/
theorem run_key (cache : Option GraphCache) (call : GraphCall) :
    (call.run cache).version = call.version ∧
      (call.run cache).overrideFp = overrideFp call.rows := by
  unfold GraphCall.run ensureGraphCache ensureGraphCache.rebuilt
  cases cache with
  | none => exact ⟨rfl, rfl⟩
  | some c =>
    by_cases hhit : c.version = call.version ∧ c.overrideFp = overrideFp call.rows
    · simp only [if_pos hhit]
      exact hhit
    · simp only [if_neg hhit]
      exact ⟨trivial, trivial⟩

private theorem run_fresh_of_empty (call : GraphCall) :
    (call.run none).Fresh call.rows := fun _ ↦ rfl

/-- After a fresh answer, the next one is fresh exactly if the calls are separated. -/
theorem run_fresh_iff {c : GraphCache} {call call' : GraphCall} (h : c.Answers call) :
    (call'.run (some c)).Fresh call'.rows ↔ call.Separated call' := by
  unfold GraphCall.Separated
  rw [← h.version, ← h.overrideFp]
  by_cases hhit : c.version = call'.version ∧ c.overrideFp = overrideFp call'.rows
  · have hrun : call'.run (some c) = c := if_pos hhit
    have hsame : c.Fresh call'.rows ↔ ∀ a b, JoinedRows call.rows a b ↔
        JoinedRows call'.rows a b := by
      unfold GraphCache.Fresh
      simp only [h.fresh _, neighbors_eq_iff, adjacent_adjacencyEdges]
    rw [hrun, hsame]
    simp only [hhit.1, hhit.2, ne_eq, not_true_eq_false, false_or]
  · have hrun : (call'.run (some c)).edges = adjacencyEdges call'.rows := by
      show (ite _ _ _ : GraphCache).edges = _
      rw [if_neg hhit]
      rfl
    have hfresh : (call'.run (some c)).Fresh call'.rows := fun id ↦ by rw [hrun]
    have hkeys : c.version ≠ call'.version ∨ c.overrideFp ≠ overrideFp call'.rows :=
      not_and_or.mp hhit
    tauto

/-- The answers of a run that follows a fresh answer. -/
theorem runGraphCalls_fresh_iff {c : GraphCache} {call : GraphCall} (h : c.Answers call)
    (calls : List GraphCall) :
    (∀ p ∈ calls.zip (runGraphCalls (some c) calls), p.2.Fresh p.1.rows) ↔
      (call :: calls).IsChain GraphCall.Separated := by
  induction calls generalizing c call with
  | nil => simp [runGraphCalls]
  | cons call' calls ih =>
    rw [runGraphCalls, List.zip_cons_cons, List.forall_mem_cons, List.isChain_cons_cons,
      ← run_fresh_iff h]
    apply and_congr_right
    intro hfresh
    obtain ⟨hversion, hfp⟩ := run_key (some c) call'
    exact ih ⟨hversion, hfp, hfresh⟩

/-- Every call of a run returns a fresh adjacency exactly if any two successive calls differ in
version or override numbers, or join the same devices. -/
theorem ensureGraphCache_fresh_iff (calls : List GraphCall) :
    (∀ p ∈ calls.zip (runGraphCalls none calls), p.2.Fresh p.1.rows) ↔
      calls.IsChain GraphCall.Separated := by
  cases calls with
  | nil => simp
  | cons call calls =>
    obtain ⟨hversion, hfp⟩ := run_key none call
    have hanswers : (call.run none).Answers call := ⟨hversion, hfp, run_fresh_of_empty call⟩
    rw [runGraphCalls, List.zip_cons_cons, List.forall_mem_cons, ← runGraphCalls_fresh_iff hanswers]
    exact and_iff_right (run_fresh_of_empty call)

/-- Two gateways behind a router, one of the links forced DOWN. -/
def oneLinkDown (first second : Option Status) : Topology where
  devices := [{ id := "core", type := .coreRouter }, { id := "gw-1", type := .backboneGateway },
    { id := "gw-2", type := .backboneGateway }]
  interfaces := [{ id := "core-1", deviceId := "core", name := "1" },
    { id := "core-2", deviceId := "core", name := "2" },
    { id := "gw-1-0", deviceId := "gw-1", name := "0" },
    { id := "gw-2-0", deviceId := "gw-2", name := "0" }]
  links := [
    { id := "l1", aInterfaceId := "core-1", bInterfaceId := "gw-1-0"
      adminOverrideStatus := first },
    { id := "l2", aInterfaceId := "core-2", bInterfaceId := "gw-2-0"
      adminOverrideStatus := second }]
  links_nodup := by simp

/-- Moving the override from one link to the other leaves the adjacency of the first state. -/
theorem ensureGraphCache_stale_moved_override :
    ¬ ((GraphCall.mk 7 (oneLinkDown none (some .down))).run
        (some ((GraphCall.mk 7 (oneLinkDown (some .down) none)).run none))).Fresh
          (oneLinkDown none (some .down)) := by
  intro h
  exact absurd (h "core") (by decide +kernel)

end Unoc.Status
