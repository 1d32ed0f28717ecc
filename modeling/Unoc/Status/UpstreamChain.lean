import Unoc.Status.LogicalGraph
import Unoc.Status.TraceSoundness

/-!
# Chains of upstream evaluation

`has_upstream_l3_or_anchor` with the anchor and the chain that it reports: a shortest path of the
logical graph to a router, continued along the L3 trace of that router, and among these the least
by length and ids.
-/

namespace Unoc.Status

open Unoc.Base Unoc.Model

variable {t : Topology} {dev peer r : DeviceView} {path : List DeviceView}

/-- `UpstreamL3Result` with its anchor and chain; `dependency_resolver_core.py:37–47`. -/
structure UpstreamL3Chain where
  ok : Bool
  anchor : Option String
  chain : List String
  reasons : List UpstreamReason
  deriving DecidableEq, Repr

/-- The chains over the routers that a device reaches, where `shortestPath` is
`networkx.shortest_path`; `dependency_resolver_core.py:275–301`. -/
def upstreamCandidates (t : Topology)
    (shortestPath : List (String × String) → String → String → Option (List String))
    (deviceId : String) : List (List String) :=
  ((routerNodes t deviceId).insertionSort (fun a b ↦ a ≤ b)).filterMap (fun rId ↦ do
    let rDev ← t.getDevice rId
    let rr := traceL3PathToAnchor t rDev
    if rr.ok then
      let devToR ← shortestPath (logicalEdges (deviceRecords t) (linkRecords t)) deviceId rId
      return devToR ++ rr.chain.tail
    else none)

/-- `has_upstream_l3_or_anchor` with its chain; `dependency_resolver_core.py:209–327`. -/
def hasUpstreamL3OrAnchorChain (t : Topology)
    (shortestPath : List (String × String) → String → String → Option (List String))
    (device : DeviceView) : UpstreamL3Chain :=
  if routerClass device.type then
    let res := traceL3PathToAnchor t device
    { ok := res.ok
      anchor := if res.ok then res.chain.getLast? else none
      chain := if res.chain = [] then [device.id] else res.chain
      reasons := if res.ok then [] else (res.reason.map UpstreamReason.trace).toList }
  else if device.id ∉ recordIds logicalActive (deviceRecords t) then
    ⟨false, none, [device.id], [.deviceNotInGraph]⟩
  else if routerNodes t device.id = [] then ⟨false, none, [device.id], [.noRouterPath]⟩
  else
    match leastBy (fun c ↦ toLex (c.length, c)) (upstreamCandidates t shortestPath device.id) with
    | none => ⟨false, none, [device.id], [.routersNoL3]⟩
    | some best => ⟨true, some (best.getLast?.getD ""), best, []⟩

/-- Adjacency in the logical graph. -/
abbrev LogicalAdjacent (t : Topology) : String → String → Prop :=
  Adjacent (logicalEdges (deviceRecords t) (linkRecords t))

/-- `networkx.shortest_path` finds a shortest path to every node that the source reaches. -/
def FindsShortest (t : Topology)
    (shortestPath : List (String × String) → String → String → Option (List String))
    (source : String) : Prop :=
  ∀ target, Relation.ReflTransGen (LogicalAdjacent t) source target →
    ∃ p, shortestPath (logicalEdges (deviceRecords t) (linkRecords t)) source target = some p ∧
      Walk (LogicalAdjacent t) source target p ∧
        ∀ q, Walk (LogicalAdjacent t) source target q → p.length ≤ q.length

/-- A path of the logical graph from a device to a router, continued along the successful trace of
the router. -/
def Concatenation (t : Topology) (deviceId : String) (c : List String) : Prop :=
  ∃ r ∈ t.devices, routerClass r.type = true ∧ (traceL3PathToAnchor t r).ok = true ∧
    ∃ p, Walk (LogicalAdjacent t) deviceId r.id p ∧ c = p ++ (traceL3PathToAnchor t r).chain.tail

/-! ### Candidates -/

private theorem reaches_of_walk {a b : String} {p : List String}
    (h : Walk (LogicalAdjacent t) a b p) :
    Relation.ReflTransGen (LogicalAdjacent t) a b := by
  induction h with
  | root => exact .refl
  | step _ hstep ih => exact ih.tail hstep

/-- A router that traces to an anchor is a node of the logical graph. -/
theorem up_of_trace_ok (hr : r ∈ t.devices) (hok : (traceL3PathToAnchor t r).ok = true) :
    r.forcedDown = false := by
  obtain ⟨path, hpath, _⟩ := tracePath_of_ok hr hok
  exact (hpath.soundPath hr).up r (List.mem_of_head? hpath.head?)

private theorem mem_upstreamCandidates
    {shortestPath : List (String × String) → String → String → Option (List String)}
    {deviceId : String} {c : List String} :
    c ∈ upstreamCandidates t shortestPath deviceId ↔
      ∃ r ∈ t.devices, routerClass r.type = true ∧ (traceL3PathToAnchor t r).ok = true ∧
        Relation.ReflTransGen (LogicalAdjacent t) deviceId r.id ∧
          ∃ p, shortestPath (logicalEdges (deviceRecords t) (linkRecords t)) deviceId r.id = some p ∧
            c = p ++ (traceL3PathToAnchor t r).chain.tail := by
  simp only [upstreamCandidates, List.mem_filterMap, List.mem_insertionSort, routerNodes,
    List.mem_filter, mem_recordIds, hasPath_iff]
  constructor
  · rintro ⟨rId, ⟨⟨r, hr, rfl, hup, hclass⟩, hreach⟩, hc⟩
    rw [Topology.getDevice_eq_some.mpr ⟨hr, rfl⟩] at hc
    simp only [Option.bind_eq_bind, Option.bind_some] at hc
    split at hc
    · next hok =>
      obtain ⟨p, hp, hc⟩ := Option.bind_eq_some_iff.mp hc
      exact ⟨r, hr, hclass, hok, hreach, p, hp, (Option.some.inj hc).symm⟩
    · cases hc
  · rintro ⟨r, hr, hclass, hok, hreach, p, hp, rfl⟩
    refine ⟨r.id, ⟨⟨r, hr, rfl, up_of_trace_ok hr hok, hclass⟩, hreach⟩, ?_⟩
    rw [Topology.getDevice_eq_some.mpr ⟨hr, rfl⟩]
    simp [hok, hp]

section Shortest

variable {shortestPath : List (String × String) → String → String → Option (List String)}
  (hshortest : FindsShortest t shortestPath dev.id)

include hshortest

private theorem concatenation_of_candidate {c : List String}
    (h : c ∈ upstreamCandidates t shortestPath dev.id) : Concatenation t dev.id c := by
  obtain ⟨r, hr, hclass, hok, hreach, p, hp, rfl⟩ := mem_upstreamCandidates.mp h
  obtain ⟨p', hp', hwalk, _⟩ := hshortest r.id hreach
  rw [hp, Option.some.injEq] at hp'
  exact ⟨r, hr, hclass, hok, p', hwalk, by rw [hp']⟩

/-- Every concatenation is as long as one of the candidates, or longer. -/
theorem exists_candidate_le {c : List String} (h : Concatenation t dev.id c) :
    ∃ c' ∈ upstreamCandidates t shortestPath dev.id, c'.length ≤ c.length := by
  obtain ⟨r, hr, hclass, hok, q, hq, rfl⟩ := h
  have hreach := reaches_of_walk hq
  obtain ⟨p, hp, _, hmin⟩ := hshortest r.id hreach
  refine ⟨_, mem_upstreamCandidates.mpr ⟨r, hr, hclass, hok, hreach, p, hp, rfl⟩, ?_⟩
  rw [List.length_append, List.length_append]
  exact Nat.add_le_add_right (hmin q hq) _

/-- There is a candidate if and only if some router in reach traces to an anchor. -/
theorem leastCandidate_isSome :
    (leastBy (fun c ↦ toLex (c.length, c)) (upstreamCandidates t shortestPath dev.id)).isSome =
      (routerNodes t dev.id).any (fun r ↦
        ((t.getDevice r).map (fun d ↦ (traceL3PathToAnchor t d).ok)).getD false) := by
  rw [Bool.eq_iff_iff, ← Option.ne_none_iff_isSome, Ne, leastBy_eq_none,
    List.any_eq_true]
  constructor
  · intro hne
    obtain ⟨c, hc⟩ := List.exists_mem_of_ne_nil _ hne
    obtain ⟨r, hr, hclass, hok, hreach, _⟩ := mem_upstreamCandidates.mp hc
    refine ⟨r.id, ?_, ?_⟩
    · rw [routerNodes, List.mem_filter, mem_recordIds, hasPath_iff]
      exact ⟨⟨r, hr, rfl, up_of_trace_ok hr hok, hclass⟩, hreach⟩
    · rw [Topology.getDevice_eq_some.mpr ⟨hr, rfl⟩]
      exact hok
  · rintro ⟨rId, hrId, hok⟩
    rw [routerNodes, List.mem_filter, mem_recordIds, hasPath_iff] at hrId
    obtain ⟨⟨r, hr, rfl, _, hclass⟩, hreach⟩ := hrId
    rw [Topology.getDevice_eq_some.mpr ⟨hr, rfl⟩] at hok
    obtain ⟨p, hp, _⟩ := hshortest r.id hreach
    exact List.ne_nil_of_mem (mem_upstreamCandidates.mpr ⟨r, hr, hclass, hok, hreach, p, hp, rfl⟩)

/-- The evaluation with a chain is the evaluation without it. -/
theorem hasUpstreamL3OrAnchorChain_eq :
    UpstreamL3Result.mk (hasUpstreamL3OrAnchorChain t shortestPath dev).ok
      (hasUpstreamL3OrAnchorChain t shortestPath dev).reasons = hasUpstreamL3OrAnchor t dev := by
  have hsome := leastCandidate_isSome hshortest
  unfold hasUpstreamL3OrAnchorChain hasUpstreamL3OrAnchor
  split_ifs with hclass hid hnodes
  · rfl
  · rw [hnodes]
  · obtain ⟨rId, rIds, hcons⟩ := List.exists_cons_of_ne_nil hnodes
    rw [hcons] at hsome ⊢
    simp only [← hsome]
    cases leastBy (fun c ↦ toLex (c.length, c)) (upstreamCandidates t shortestPath dev.id) with
    | none => rfl
    | some best => rfl
  · rfl

omit hshortest in
/-- A successful evaluation reports the least candidate and its last device. -/
theorem leastCandidate_of_ok (hclass : routerClass dev.type = false)
    (hok : (hasUpstreamL3OrAnchorChain t shortestPath dev).ok = true) :
    dev.id ∈ recordIds logicalActive (deviceRecords t) ∧
      ∃ best, leastBy (fun c ↦ toLex (c.length, c)) (upstreamCandidates t shortestPath dev.id) =
          some best ∧
        hasUpstreamL3OrAnchorChain t shortestPath dev =
          ⟨true, some (best.getLast?.getD ""), best, []⟩ := by
  unfold hasUpstreamL3OrAnchorChain at hok ⊢
  rw [hclass] at hok ⊢
  simp only [Bool.false_eq_true, if_false] at hok ⊢
  split_ifs at hok ⊢ with hid hnodes
  · cases hleast : leastBy (fun c ↦ toLex (c.length, c))
        (upstreamCandidates t shortestPath dev.id) with
    | none =>
      rw [hleast] at hok
      cases hok
    | some best => exact ⟨hid, best, rfl, rfl⟩

/-- A successful evaluation reports a shortest concatenation. -/
theorem shortest_of_leastCandidate {best : List String}
    (h : leastBy (fun c ↦ toLex (c.length, c)) (upstreamCandidates t shortestPath dev.id) =
      some best) :
    Concatenation t dev.id best ∧ ∀ c, Concatenation t dev.id c → best.length ≤ c.length := by
  obtain ⟨hmem, hle⟩ := leastBy_spec h
  refine ⟨concatenation_of_candidate hshortest hmem, fun c hc ↦ ?_⟩
  obtain ⟨c', hc', hlen⟩ := exists_candidate_le hshortest hc
  rcases Prod.Lex.toLex_le_toLex.mp (hle c' hc') with hlt | ⟨heq, _⟩
  · exact hlt.le.trans hlen
  · exact heq.le.trans hlen

end Shortest

end Unoc.Status
