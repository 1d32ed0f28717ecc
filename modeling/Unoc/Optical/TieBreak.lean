import Unoc.Base.Eager
import Unoc.Optical.Optimality

/-!
# The documented tie-break

The resolvers order their candidates by attenuation, length, hops, OLT id and signature, and promise
the path that is least in this order. They compare one path for each OLT only, the one that their search
kept: of several paths of one attenuation to the same OLT it is the search that decides.
-/

namespace Unoc.Optical

open Unoc.Base Unoc.Base.Dijkstra Unoc.Model Unoc.Optical.PathFinder

/-! ### Routes -/

/-- A simple path from an ONT to an OLT with its attenuation. -/
structure Route (weight : String → String → Option ℚ) (ontId : String) (isOlt : String → Bool)
    (path : List String) (oltId : String) (attenuationDb : ℚ) : Prop where
  olt : isOlt oltId = true
  walk : Walk weight ontId path oltId attenuationDb
  simple : path.Nodup

/-- Attenuation, length, hops, OLT id, path signature; `optical_path_resolver.py:8–13`,
`pathfinder.go:355–374`, `resolver.go:69–101`. -/
def routeKey (lengthKm : List String → ℚ) (path : List String) (oltId : String) (attenuationDb : ℚ) :
    ℚ ×ₗ ℚ ×ₗ Nat ×ₗ String ×ₗ String :=
  toLex (attenuationDb, toLex (lengthKm path, toLex (path.length - 1,
    toLex (oltId, ",".intercalate path))))

/-- A route that is least in the documented order among all routes. -/
structure LeastRoute (weight : String → String → Option ℚ) (ontId : String) (isOlt : String → Bool)
    (lengthKm : List String → ℚ) (path : List String) (oltId : String) (attenuationDb : ℚ) : Prop where
  route : Route weight ontId isOlt path oltId attenuationDb
  least : ∀ path' oltId' attenuationDb', Route weight ontId isOlt path' oltId' attenuationDb' →
    routeKey lengthKm path oltId attenuationDb ≤ routeKey lengthKm path' oltId' attenuationDb'

/-- The OLT, the attenuation and the segments of an answer are those of a least route. -/
def ChoosesLeast (weight : String → String → Option ℚ) (ontId : String) (isOlt : String → Bool)
    (lengthKm : List String → ℚ) (answer : Option (String × ℚ × List PathSegment)) : Prop :=
  ∃ oltId attenuationDb segments, answer = some (oltId, attenuationDb, segments) ∧
    LeastRoute weight ontId isOlt lengthKm (ontId :: segments.map PathSegment.dst) oltId attenuationDb

section Choice

variable {weight : String → String → Option ℚ} {s : String} {isOlt : String → Bool}
  {lengthKm : List String → ℚ} {distances : Dict String ℚ} {paths : Dict String (List String)}

private theorem routeKey_inj {path path' : List String} {oltId oltId' : String} {d d' : ℚ}
    (h : routeKey lengthKm path oltId d = routeKey lengthKm path' oltId' d') :
    oltId = oltId' ∧ d = d' := by
  simp only [routeKey, EmbeddingLike.apply_eq_iff_eq, Prod.mk.injEq] at h
  exact ⟨h.2.2.2.1, h.1⟩

private theorem le_of_routeKey_le {path path' : List String} {oltId oltId' : String} {d d' : ℚ}
    (h : routeKey lengthKm path oltId d ≤ routeKey lengthKm path' oltId' d') : d ≤ d' := by
  unfold routeKey at h
  rw [Prod.Lex.toLex_le_toLex] at h
  exact h.elim (fun hlt ↦ hlt.le) (fun heq ↦ heq.1.le)

private theorem LeastRoute.eq {path path' : List String} {oltId oltId' : String} {d d' : ℚ}
    (h : LeastRoute weight s isOlt lengthKm path oltId d)
    (h' : LeastRoute weight s isOlt lengthKm path' oltId' d') :
    routeKey lengthKm path oltId d = routeKey lengthKm path' oltId' d' :=
  le_antisymm (h.least _ _ _ h'.route) (h'.least _ _ _ h.route)

/-- The path of a least route has the least weight. -/
theorem LeastRoute.shortest {path : List String} {oltId : String} {d : ℚ}
    (h : LeastRoute weight s isOlt lengthKm path oltId d) {path' : List String} {d' : ℚ}
    (hshort : Shortest weight s path' oltId d') : d' = d :=
  le_antisymm (hshort.least _ _ h.route.walk)
    (le_of_routeKey_le (h.least _ _ _ ⟨h.route.olt, hshort.walk, hshort.simple⟩))

/-- A search that keeps simple paths with their weights. -/
def KeepsWalks (weight : String → String → Option ℚ) (s : String) (distances : Dict String ℚ)
    (paths : Dict String (List String)) : Prop :=
  ∀ v d, distances.lookup v = some d →
    ∃ p, paths.lookup v = some p ∧ Walk weight s p v d ∧ p.Nodup

private theorem keepsWalks_of_solution (h : Solution weight s distances paths) :
    KeepsWalks weight s distances paths := by
  intro v d hd
  obtain ⟨p, hp, hshort⟩ := h.sound v d hd
  exact ⟨p, hp, hshort.walk, hshort.simple⟩

private theorem entries_of_mem_candidates {c : Candidate}
    (hc : c ∈ candidates isOlt lengthKm distances paths) :
    isOlt c.oltId = true ∧ distances.lookup c.oltId = some c.distance ∧
      paths.lookup c.oltId = some c.path ∧ c.key = routeKey lengthKm c.path c.oltId c.distance := by
  obtain ⟨⟨node, distance⟩, hentry, hc⟩ := List.mem_filterMap.mp hc
  unfold candidate at hc
  split at hc
  · next holt =>
    split at hc
    · cases hc
    · cases hc
    · next path _ hpath =>
      cases hc
      exact ⟨holt, AList.mem_lookup_iff.mpr hentry, hpath, rfl⟩
  · cases hc

private theorem mem_candidates_of_entries (lengthKm : List String → ℚ) {o : String}
    {p : List String} {d : ℚ}
    (holt : isOlt o = true) (hd : distances.lookup o = some d) (hp : paths.lookup o = some p) (hne : p ≠ []) :
    ⟨d, lengthKm p, p.length - 1, o, ",".intercalate p, p⟩ ∈
      candidates isOlt lengthKm distances paths := by
  refine List.mem_filterMap.mpr ⟨⟨o, d⟩, AList.mem_lookup_iff.mp hd, ?_⟩
  cases p with
  | nil => exact absurd rfl hne
  | cons x xs => simp [candidate, holt, hp]

private theorem KeepsWalks.route (h : KeepsWalks weight s distances paths) {c : Candidate}
    (hc : c ∈ candidates isOlt lengthKm distances paths) :
    Route weight s isOlt c.path c.oltId c.distance := by
  obtain ⟨holt, hd, hp, _⟩ := entries_of_mem_candidates hc
  obtain ⟨p, hp', hwalk, hsimple⟩ := h _ _ hd
  obtain rfl : c.path = p := Option.some.inj (hp.symm.trans hp')
  exact ⟨holt, hwalk, hsimple⟩

/-- The best candidate is a least route if and only if the search kept one for its OLT. -/
theorem best_least_iff (h : KeepsWalks weight s distances paths) {p : List String} {o : String} {d : ℚ}
    (hleast : LeastRoute weight s isOlt lengthKm p o d) :
    (∃ c, bestCandidate (candidates isOlt lengthKm distances paths) = some c ∧
        LeastRoute weight s isOlt lengthKm c.path c.oltId c.distance) ↔
      ∃ p', distances.lookup o = some d ∧ paths.lookup o = some p' ∧
        routeKey lengthKm p' o d = routeKey lengthKm p o d := by
  constructor
  · rintro ⟨c, hc, hcleast⟩
    obtain ⟨_, hd, hp, _⟩ := entries_of_mem_candidates (bestCandidate_eq_some hc).1
    have hkey := hcleast.eq hleast
    obtain ⟨ho, hd'⟩ := routeKey_inj hkey
    rw [ho, hd'] at hkey
    rw [ho] at hp hd
    exact ⟨c.path, hd' ▸ hd, hp, hkey⟩
  · rintro ⟨p', hd, hp, hkey⟩
    obtain ⟨p'', hp'', hwalk, _⟩ := h o d hd
    obtain rfl : p' = p'' := Option.some.inj (hp.symm.trans hp'')
    have hmem := mem_candidates_of_entries lengthKm hleast.route.olt hd hp hwalk.ne_nil
    cases hb : bestCandidate (candidates isOlt lengthKm distances paths) with
    | none =>
      rw [bestCandidate_eq_none hb] at hmem
      cases hmem
    | some c =>
      obtain ⟨hc, hmin⟩ := bestCandidate_eq_some hb
      obtain ⟨_, _, _, hckey⟩ := entries_of_mem_candidates hc
      have hle : routeKey lengthKm c.path c.oltId c.distance ≤ routeKey lengthKm p o d := by
        rw [← hkey, ← hckey]
        exact hmin _ hmem
      exact ⟨c, rfl, h.route hc, fun path' oltId' d' hroute ↦
        hle.trans (hleast.least path' oltId' d' hroute)⟩

/-- A solution has the distance of a least route. -/
theorem LeastRoute.lookup {p : List String} {o : String} {d : ℚ}
    (hleast : LeastRoute weight s isOlt lengthKm p o d) (h : Solution weight s distances paths) :
    distances.lookup o = some d ∧ ∃ p', paths.lookup o = some p' ∧ Shortest weight s p' o d := by
  obtain ⟨d', hd'⟩ := h.complete _ _ _ hleast.route.walk
  obtain ⟨p', hp', hshort⟩ := h.sound o d' hd'
  obtain rfl : d' = d := hleast.shortest hshort
  exact ⟨hd', p', hp', hshort⟩

/-- Where some search finds shortest paths, least routes have the least weight of all walks. -/
theorem LeastRoute.least_walk {p : List String} {o : String} {d : ℚ}
    (hleast : LeastRoute weight s isOlt lengthKm p o d) (h : Solution weight s distances paths)
    {p' : List String} {d' : ℚ} (hwalk : Walk weight s p' o d') : d ≤ d' := by
  obtain ⟨_, _, _, hshort⟩ := hleast.lookup h
  exact hshort.least p' d' hwalk

/-- A route starts at a node, as OLTs and the sources of edges are nodes. -/
theorem Route.start_mem {nodes : String → Prop} {p : List String} {o : String} {d : ℚ}
    (h : Route weight s isOlt p o d) (hedge : ∀ u v w, weight u v = some w → nodes u)
    (holt : ∀ o, isOlt o = true → nodes o) : nodes s := by
  rcases h.walk.eq_or_edge with rfl | ⟨u, w, hw⟩
  · exact holt _ h.olt
  · exact hedge s u w hw

/-- The nodes of a walk are its source and the ends of its hops. -/
theorem nodes_of_hops {p : List String} {v : String} {d : ℚ} (hwalk : Walk weight s p v d) :
    s :: (p.zip p.tail).map Prod.snd = p := by
  induction hwalk with
  | nil => rfl
  | @snoc p u v d w hwalk hw ih =>
    obtain ⟨front, rfl⟩ := List.getLast?_eq_some_iff.mp hwalk.getLast?
    rw [zip_tail_concat, List.map_append, ← List.cons_append, ih]
    rfl

/-- An answer with the segments of the best candidate is a least route if and only if the candidate
is. -/
theorem choosesLeast_iff (h : KeepsWalks weight s distances paths)
    (segments : List String → List PathSegment)
    (hsegments : ∀ p, (segments p).map PathSegment.dst = (p.zip p.tail).map Prod.snd) :
    ChoosesLeast weight s isOlt lengthKm ((bestCandidate (candidates isOlt lengthKm distances
        paths)).map (fun best ↦ (best.oltId, best.distance, segments best.path))) ↔
      ∃ c, bestCandidate (candidates isOlt lengthKm distances paths) = some c ∧
        LeastRoute weight s isOlt lengthKm c.path c.oltId c.distance := by
  have hnodes : ∀ c, bestCandidate (candidates isOlt lengthKm distances paths) = some c →
      s :: (segments c.path).map PathSegment.dst = c.path := by
    intro c hc
    rw [hsegments]
    exact nodes_of_hops (h.route (bestCandidate_eq_some hc).1).walk
  constructor
  · rintro ⟨oltId, d, segs, hanswer, hleast⟩
    obtain ⟨c, hc, heq⟩ := Option.map_eq_some_iff.mp hanswer
    cases heq
    rw [hnodes c hc] at hleast
    exact ⟨c, hc, hleast⟩
  · rintro ⟨c, hc, hleast⟩
    refine ⟨c.oltId, c.distance, segments c.path, by rw [hc, Option.map_some], ?_⟩
    rw [hnodes c hc]
    exact hleast

private theorem not_choosesLeast_none : ¬ ChoosesLeast weight s isOlt lengthKm none := by
  rintro ⟨_, _, _, h, _⟩
  cases h

end Choice

/-! ### The path finder of the engine -/

section Engine

variable (q : PriorityQueue String ℚ) (order : MapOrder) (ranging : DistanceOrder)

/-- The answer of `PathFinder.ResolveOpticalPath` in a graph. -/
def pathFinderAnswer (g : Graph) (ontId : String) : Option (String × ℚ × List PathSegment) :=
  (resolveInGraph q order ranging g ontId).map (fun r ↦ (r.oltId, r.totalAttenuationDb, r.segments))

private theorem mem_nodes_of_route {g : Resolver.OpticalGraph} {weight : String → String → Option ℚ}
    (hweight : ∀ u v w, weight u v = some w → ∃ e, g.edges.lookup (u, v) = some e)
    {ontId oltId : String} {path : List String} {d : ℚ}
    (h : Route weight ontId (PathFinder.isOlt g.toGraph) path oltId d) : ontId ∈ g.nodes := by
  refine h.start_mem (fun u v w hw ↦ ?_) (fun o holt ↦ ?_)
  · obtain ⟨e, he⟩ := hweight u v w hw
    exact (g.edge_ends u v e he).2.2.1
  · unfold PathFinder.isOlt at holt
    cases hnode : g.nodes.lookup o with
    | none =>
      rw [hnode] at holt
      cases holt
    | some node => exact AList.lookup_isSome.mp (by rw [hnode]; rfl)

private theorem exists_edge_of_edgeWeight {g : Graph} (u v : String) (w : ℚ)
    (h : edgeWeight g u v = some w) :
    ∃ e, g.edges.lookup (u, v) = some e := by
  obtain ⟨e, he, _⟩ := Option.map_eq_some_iff.mp h
  exact ⟨e, he⟩

private theorem segments_dst (g : Graph) (path : List String) :
    (segments g path).map PathSegment.dst = (path.zip path.tail).map Prod.snd := by
  unfold segments
  rw [List.map_map]
  apply List.map_congr_left
  intro hop _
  simp only [Function.comp_apply]
  split <;> rfl

/-- The path finder chooses a least route if and only if its search keeps one. -/
theorem pathFinder_chooses_iff (g : Resolver.OpticalGraph) (hloss : NonnegLosses g.toGraph)
    (ontId : String) :
    ChoosesLeast (edgeWeight g.toGraph) ontId (PathFinder.isOlt g.toGraph) (pathLengthKm g.toGraph)
        (pathFinderAnswer q order ranging g.toGraph ontId) ↔
      ∃ c, bestIn q order g.toGraph ontId = some c ∧
        LeastRoute (edgeWeight g.toGraph) ontId (PathFinder.isOlt g.toGraph) (pathLengthKm g.toGraph)
          c.path c.oltId c.distance := by
  have hkeeps := keepsWalks_of_solution
    (dijkstra_solution q order g.toGraph (hloss.nonnegFrom : NonnegFrom _ ontId))
  unfold pathFinderAnswer
  rw [resolveInGraph_eq]
  by_cases hont : ontId ∈ g.nodes
  · rw [if_neg (not_not.mpr hont), Option.map_map]
    exact choosesLeast_iff hkeeps (segments g.toGraph) (segments_dst g.toGraph)
  · rw [if_pos hont]
    refine iff_of_false not_choosesLeast_none ?_
    rintro ⟨c, _, hleast⟩
    exact hont (mem_nodes_of_route exists_edge_of_edgeWeight hleast.route)

/-- In every order of the maps the path finder chooses a least route, if and only if all eager paths to the
OLT of a least route are as short, in as many hops and with the same signature. -/
theorem pathFinder_least_iff (g : Resolver.OpticalGraph) (hloss : NonnegLosses g.toGraph)
    (ontId : String) :
    (∀ q order ranging, ChoosesLeast (edgeWeight g.toGraph) ontId (PathFinder.isOlt g.toGraph)
        (pathLengthKm g.toGraph) (pathFinderAnswer q order ranging g.toGraph ontId)) ↔
      ∃ path oltId d, LeastRoute (edgeWeight g.toGraph) ontId (PathFinder.isOlt g.toGraph)
          (pathLengthKm g.toGraph) path oltId d ∧
        ∀ path', Eager (edgeWeight g.toGraph) ontId path' oltId d →
          routeKey (pathLengthKm g.toGraph) path' oltId d =
            routeKey (pathLengthKm g.toGraph) path oltId d := by
  have hnonneg : NonnegFrom (edgeWeight g.toGraph) ontId := hloss.nonnegFrom
  have hsolution := fun q order ↦ dijkstra_solution q order g.toGraph hnonneg
  simp only [pathFinder_chooses_iff _ _ _ g hloss]
  constructor
  · intro hall
    obtain ⟨c, hc, hleast⟩ := hall (listQueue String ℚ) addedOrder storedOrder
    refine ⟨c.path, c.oltId, c.distance, hleast, ?_⟩
    intro path' heager
    obtain ⟨p', _, hp', hkey⟩ := (best_least_iff (keepsWalks_of_solution (hsolution
      (rankedQueue ℚ path'.idxOf) addedOrder)) hleast).mp (hall _ addedOrder storedOrder)
    have hkept := run_ranked hnonneg (mem_getNeighbors addedOrder g.toGraph) (List.nodup_dedup _)
      (getNeighbors_eq_nil addedOrder g.toGraph) heager
    obtain rfl : path' = p' := Option.some.inj (hkept.symm.trans hp')
    exact hkey
  · rintro ⟨path, oltId, d, hleast, heager⟩ q order ranging
    obtain ⟨hd, _⟩ := hleast.lookup (hsolution q order)
    obtain ⟨p', hp', heager'⟩ := run_eager hnonneg (mem_getNeighbors order g.toGraph)
      (List.nodup_dedup _) (getNeighbors_eq_nil order g.toGraph) hd
    exact (best_least_iff (keepsWalks_of_solution (hsolution q order)) hleast).mpr
      ⟨p', hd, hp', heager p' heager'⟩

end Engine

/-! ### The resolver of the engine -/

section Resolver

variable (q : PriorityQueue String ℚ) (order : MapOrder) (g : Resolver.OpticalGraph)

/-- The weights of the resolver. -/
abbrev resolverWeight (g : Graph) : String → String → Option ℚ :=
  Resolver.edgeCost g Resolver.computeEdgeWeight

/-- The answer of `ResolveOpticalPath`. -/
def resolverAnswer (g : Graph) (ontId : String) : Option (String × ℚ × List PathSegment) :=
  (Resolver.resolveOpticalPath q order g ontId).toOption.join.map (fun r ↦
    (r.oltId, r.totalAttenuationDb, r.segments))

private theorem exists_edge_of_resolverWeight {g : Graph} (u v : String) (w : ℚ)
    (h : resolverWeight g u v = some w) : ∃ e, g.edges.lookup (u, v) = some e := by
  obtain ⟨e, he, _⟩ := Resolver.edgeCost_eq_some.mp h
  exact ⟨e, he⟩

variable {g} (hloss : NonnegLosses g.toGraph) {ontId : String}

include hloss

private theorem resolverWeight_nonneg (u v : String) (w : ℚ)
    (h : resolverWeight g.toGraph u v = some w) :
    0 ≤ w := by
  obtain ⟨e, he, rfl⟩ := Resolver.edgeCost_eq_some.mp h
  unfold Resolver.computeEdgeWeight
  rw [he, Option.map_some, Option.getD_some]
  refine add_nonneg ?_ (hloss.enteringLoss v)
  split
  · exact hloss.fiber u v e he
  · exact le_refl 0

/-- What the resolver's search keeps. -/
theorem resolver_keepsWalks (hont : ontId ∈ g.nodes) :
    KeepsWalks (resolverWeight g.toGraph) ontId
      (QueuedOnce.run q (resolverWeight g.toGraph) (order.getNeighbors g.toGraph) g.nodes.keys
        ontId).distances
      (QueuedOnce.run q (resolverWeight g.toGraph) (order.getNeighbors g.toGraph) g.nodes.keys
        ontId).paths := by
  intro v d hd
  obtain ⟨⟨t, hinv⟩, _⟩ := QueuedOnce.inv_run
    (fun _ u _ _ v w hw ↦ resolverWeight_nonneg hloss u v w hw)
    (Resolver.mem_keys_of_edgeCost g) (Resolver.mem_getNeighbors_of_edgeCost order) q
    (AList.mem_keys.mp hont)
  obtain ⟨p, hp, hwalk, _⟩ := hinv.walk v d hd
  exact ⟨p, hp, hwalk, (QueuedOnce.simplePaths_run _ _ _ _ _ v p hp).1⟩

/-- Where all paths of least attenuation to the OLT of a least route tie with it, the resolver chooses a
least route if and only if some walk of least attenuation to that OLT avoids the outdated nodes. -/
theorem resolver_least_iff {path : List String} {oltId : String} {d : ℚ}
    (hleast : LeastRoute (resolverWeight g.toGraph) ontId (PathFinder.isOlt g.toGraph)
      (pathLengthKm g.toGraph) path oltId d)
    (hties : ∀ path', Shortest (resolverWeight g.toGraph) ontId path' oltId d →
      routeKey (pathLengthKm g.toGraph) path' oltId d =
        routeKey (pathLengthKm g.toGraph) path oltId d) :
    ChoosesLeast (resolverWeight g.toGraph) ontId (PathFinder.isOlt g.toGraph) (pathLengthKm g.toGraph)
        (resolverAnswer q order g.toGraph ontId) ↔
      ∃ path', Walk (resolverWeight g.toGraph) ontId path' oltId d ∧
        ∀ x ∈ path'.dropLast, x ∉ Resolver.outdatedNodes q order g ontId Resolver.computeEdgeWeight := by
  have hont : ontId ∈ g.nodes := mem_nodes_of_route exists_edge_of_resolverWeight hleast.route
  have hnonneg : NonnegFrom (resolverWeight g.toGraph) ontId :=
    fun _ u _ _ v w hw ↦ resolverWeight_nonneg hloss u v w hw
  have hkeeps := resolver_keepsWalks q order hloss hont
  have hanswer : ChoosesLeast (resolverWeight g.toGraph) ontId (PathFinder.isOlt g.toGraph)
      (pathLengthKm g.toGraph) (resolverAnswer q order g.toGraph ontId) ↔
        ∃ c, bestCandidate (candidates (PathFinder.isOlt g.toGraph) (pathLengthKm g.toGraph)
            (QueuedOnce.run q (resolverWeight g.toGraph) (order.getNeighbors g.toGraph) g.nodes.keys
              ontId).distances
            (QueuedOnce.run q (resolverWeight g.toGraph) (order.getNeighbors g.toGraph) g.nodes.keys
              ontId).paths) = some c ∧
          LeastRoute (resolverWeight g.toGraph) ontId (PathFinder.isOlt g.toGraph)
            (pathLengthKm g.toGraph) c.path c.oltId c.distance := by
    unfold resolverAnswer Resolver.resolveOpticalPath Resolver.dijkstra
    rw [if_neg (not_not.mpr hont), if_neg (not_not.mpr hont)]
    simp only [Except.toOption, Option.join_some, Option.map_map]
    exact choosesLeast_iff hkeeps (Resolver.buildPathSegments g.toGraph)
      (fun path ↦ by simp [Resolver.buildPathSegments])
  rw [hanswer, best_least_iff hkeeps hleast]
  obtain ⟨⟨t, hinv⟩, _⟩ := QueuedOnce.inv_run hnonneg (Resolver.mem_keys_of_edgeCost g)
    (Resolver.mem_getNeighbors_of_edgeCost order) q (AList.mem_keys.mp hont)
  constructor
  · rintro ⟨p', hd, hp, _⟩
    obtain ⟨p'', _, hwalk, hinner⟩ := hinv.walk oltId d hd
    exact ⟨p'', hwalk, fun x hx ↦ (hinner x hx).2⟩
  · rintro ⟨path', hwalk, hinner⟩
    have hsolution : Solution (resolverWeight g.toGraph) ontId _ _ :=
      run_solution (q := listQueue String ℚ) hnonneg (Resolver.mem_getNeighbors_of_edgeCost order)
        (List.nodup_dedup _) (getNeighbors_eq_nil order g.toGraph)
    obtain ⟨d', hd', hle⟩ := QueuedOnce.le_of_avoids hnonneg (Resolver.mem_keys_of_edgeCost g)
      (Resolver.mem_getNeighbors_of_edgeCost order) (AList.mem_keys.mp hont) hwalk hinner
    obtain ⟨p', hp', hwalk', hsimple⟩ := hkeeps oltId d' hd'
    obtain rfl : d' = d := le_antisymm hle (hleast.least_walk hsolution hwalk')
    exact ⟨p', hd', hp', hties p' ⟨hwalk', hsimple, fun _ _ ↦ hleast.least_walk hsolution⟩⟩

end Resolver

/-! ### The resolver of the backend -/

section Backend

variable {db : Database} {ontId : String}

/-- The weights of the backend's graph. -/
abbrev backendWeight (db : Database) : String → String → Option ℚ :=
  PathResolver.weightFn db (PathResolver.graph db)

/-- The OLTs of the backend's graph. -/
abbrev backendOlt (db : Database) : String → Bool := PathResolver.isOlt (PathResolver.graph db)

/-- The lengths of paths in the backend's graph. -/
abbrev backendLengthKm (db : Database) : List String → ℚ :=
  PathResolver.pathTotalLengthKm db (PathResolver.graph db)

/-- What `networkx` returns for the backend's graph. -/
def nxResult (nx : PathResolver.SingleSourceDijkstra) (db : Database) (ontId : String) :
    Dict String ℚ × Dict String (List String) :=
  nx (backendWeight db) (PathResolver.graph db).neighbors (PathResolver.graph db).nodes.keys ontId

/-- The answer of the backend's `resolve_optical_path`. -/
def backendAnswer (nx : PathResolver.SingleSourceDijkstra) (db : Database) (ontId : String) :
    Option (String × ℚ × List PathSegment) :=
  (PathResolver.resolveOpticalPath nx db ontId).map (fun r ↦
    (r.oltId, r.totalAttenuationDb, r.segments))

private theorem backendAnswer_eq (nx : PathResolver.SingleSourceDijkstra) :
    backendAnswer nx db ontId = if ontId ∉ (PathResolver.graph db).nodes then none else
      (bestCandidate (candidates (backendOlt db) (backendLengthKm db) (nxResult nx db ontId).1
        (nxResult nx db ontId).2)).map (fun best ↦
          (best.oltId, best.distance, PathResolver.segments db (PathResolver.graph db) best.path)) := by
  unfold backendAnswer PathResolver.resolveOpticalPath
  show Option.map _ (if ontId ∉ (PathResolver.graph db).nodes then none else Option.map _ _) = _
  split
  · rfl
  · rw [Option.map_map]
    rfl

variable (hnonneg : NonnegFrom (backendWeight db) ontId)

include hnonneg

/-- The backend chooses a least route if and only if `networkx` keeps one. -/
theorem backend_chooses_iff {nx : PathResolver.SingleSourceDijkstra} (hnx : nx.Correct) :
    ChoosesLeast (backendWeight db) ontId (backendOlt db) (backendLengthKm db)
        (backendAnswer nx db ontId) ↔
      ∃ c, bestCandidate (candidates (backendOlt db) (backendLengthKm db) (nxResult nx db ontId).1
          (nxResult nx db ontId).2) = some c ∧
        LeastRoute (backendWeight db) ontId (backendOlt db) (backendLengthKm db) c.path c.oltId
          c.distance := by
  have hkeeps := keepsWalks_of_solution (PathResolver.nx_solution hnx hnonneg)
  rw [backendAnswer_eq]
  by_cases hont : ontId ∈ (PathResolver.graph db).nodes
  · rw [if_neg (not_not.mpr hont)]
    exact choosesLeast_iff hkeeps (PathResolver.segments db (PathResolver.graph db))
      (fun path ↦ by simp [PathResolver.segments])
  · rw [if_pos hont]
    refine iff_of_false not_choosesLeast_none ?_
    rintro ⟨c, _, hleast⟩
    apply hont
    refine hleast.route.start_mem (fun u v w hw ↦ ?_) (fun o holt ↦ ?_)
    · obtain ⟨linkId, hedge, _⟩ := Option.map_eq_some_iff.mp hw
      exact PathResolver.mem_nodes_of_edge hedge
    · exact AList.lookup_isSome.mp (by rw [of_decide_eq_true holt]; rfl)

omit hnonneg in
/-- For every shortest path some correct `networkx` keeps this one. -/
theorem exists_correct_keeping {weight : String → String → Option ℚ} {path : List String}
    {oltId : String} {d : ℚ} (hshort : Shortest weight ontId path oltId d) :
    ∃ nx : PathResolver.SingleSourceDijkstra, nx.Correct ∧
      ∀ neighbors nodes, (nx weight neighbors nodes ontId).2.lookup oltId = some path := by
  classical
  refine ⟨fun weight' neighbors nodes source ↦
    if Shortest weight' source path oltId d then
      ((listDijkstra weight' neighbors nodes source).1,
        (listDijkstra weight' neighbors nodes source).2.insert oltId path)
    else listDijkstra weight' neighbors nodes source, ?_, ?_⟩
  · intro weight' neighbors nodes source hnext hnodup hout hnonneg
    have hsolution := listDijkstra_correct weight' neighbors nodes source hnext hnodup hout hnonneg
    show Solution weight' source (ite _ _ _ : _ × _).1 (ite _ _ _ : _ × _).2
    split
    · next hshort =>
      refine ⟨fun v d' hd' ↦ ?_, hsolution.complete⟩
      obtain ⟨p, hp, hpshort⟩ := hsolution.sound v d' hd'
      by_cases hv : v = oltId
      · subst hv
        exact ⟨path, AList.lookup_insert _, hpshort.unique hshort ▸ hshort⟩
      · exact ⟨p, (AList.lookup_insert_ne hv).trans hp, hpshort⟩
    · exact hsolution
  · intro neighbors nodes
    simp only [if_pos hshort]
    exact AList.lookup_insert _

/-- With every correct `networkx` the backend chooses a least route, if and only if all paths of least
attenuation to the OLT of a least route are as short, in as many hops and with the same signature. -/
theorem backend_least_iff :
    (∀ nx : PathResolver.SingleSourceDijkstra, nx.Correct →
      ChoosesLeast (backendWeight db) ontId (backendOlt db) (backendLengthKm db)
        (backendAnswer nx db ontId)) ↔
      ∃ path oltId d, LeastRoute (backendWeight db) ontId (backendOlt db) (backendLengthKm db) path
          oltId d ∧
        ∀ path', Shortest (backendWeight db) ontId path' oltId d →
          routeKey (backendLengthKm db) path' oltId d = routeKey (backendLengthKm db) path oltId d := by
  have hsolution := fun {nx : PathResolver.SingleSourceDijkstra} (hnx : nx.Correct) ↦
    PathResolver.nx_solution hnx hnonneg
  constructor
  · intro hall
    obtain ⟨c, _, hleast⟩ := (backend_chooses_iff hnonneg listDijkstra_correct).mp
      (hall listDijkstra listDijkstra_correct)
    refine ⟨c.path, c.oltId, c.distance, hleast, ?_⟩
    intro path' hshort
    obtain ⟨nx, hnx, hkept⟩ := exists_correct_keeping hshort
    obtain ⟨p', _, hp', hkey⟩ := (best_least_iff (keepsWalks_of_solution (hsolution hnx)) hleast).mp
      ((backend_chooses_iff hnonneg hnx).mp (hall nx hnx))
    obtain rfl : path' = p' := Option.some.inj ((hkept _ _).symm.trans hp')
    exact hkey
  · rintro ⟨path, oltId, d, hleast, hties⟩ nx hnx
    obtain ⟨hd, p', hp', hshort⟩ := hleast.lookup (hsolution hnx)
    exact (backend_chooses_iff hnonneg hnx).mpr ((best_least_iff
      (keepsWalks_of_solution (hsolution hnx)) hleast).mpr ⟨p', hd, hp', hties p' hshort⟩)

end Backend

/-! ### All resolvers -/

/-- Where no loss is negative, the resolvers choose a least route in all of their runs exactly under these
conditions: the path finder if the eager paths to the OLT of a least route tie with it, the backend if all
paths of least attenuation to it do, and the resolver of the engine, where these tie, if some of them avoids
its outdated nodes. -/
theorem least_route_iff (g : Resolver.OpticalGraph) (hloss : NonnegLosses g.toGraph) (db : Database)
    (ontId : String) (hdb : NonnegFrom (backendWeight db) ontId) :
    ((∀ q order ranging, ChoosesLeast (edgeWeight g.toGraph) ontId (PathFinder.isOlt g.toGraph)
        (pathLengthKm g.toGraph) (pathFinderAnswer q order ranging g.toGraph ontId)) ↔
      ∃ path oltId d, LeastRoute (edgeWeight g.toGraph) ontId (PathFinder.isOlt g.toGraph)
          (pathLengthKm g.toGraph) path oltId d ∧
        ∀ path', Eager (edgeWeight g.toGraph) ontId path' oltId d →
          routeKey (pathLengthKm g.toGraph) path' oltId d =
            routeKey (pathLengthKm g.toGraph) path oltId d) ∧
    (∀ path oltId d, LeastRoute (resolverWeight g.toGraph) ontId (PathFinder.isOlt g.toGraph)
        (pathLengthKm g.toGraph) path oltId d →
      (∀ path', Shortest (resolverWeight g.toGraph) ontId path' oltId d →
        routeKey (pathLengthKm g.toGraph) path' oltId d =
          routeKey (pathLengthKm g.toGraph) path oltId d) →
      ∀ q order, ChoosesLeast (resolverWeight g.toGraph) ontId (PathFinder.isOlt g.toGraph)
          (pathLengthKm g.toGraph) (resolverAnswer q order g.toGraph ontId) ↔
        ∃ path', Walk (resolverWeight g.toGraph) ontId path' oltId d ∧ ∀ x ∈ path'.dropLast,
          x ∉ Resolver.outdatedNodes q order g ontId Resolver.computeEdgeWeight) ∧
    ((∀ nx : PathResolver.SingleSourceDijkstra, nx.Correct →
        ChoosesLeast (backendWeight db) ontId (backendOlt db) (backendLengthKm db)
          (backendAnswer nx db ontId)) ↔
      ∃ path oltId d, LeastRoute (backendWeight db) ontId (backendOlt db) (backendLengthKm db) path
          oltId d ∧
        ∀ path', Shortest (backendWeight db) ontId path' oltId d →
          routeKey (backendLengthKm db) path' oltId d = routeKey (backendLengthKm db) path oltId d) :=
  ⟨pathFinder_least_iff g hloss ontId,
    fun _ _ _ hleast hties q order ↦ resolver_least_iff q order hloss hleast hties,
    backend_least_iff hdb⟩

/-- An ODF with an ONT and two OLTs, each at the end of a kilometre of fiber. -/
def twoOlts : Database where
  devices := [{ id := "ont", type := .ont }, { id := "odf", type := .odf },
    { id := "olt-a", type := .olt }, { id := "olt-b", type := .olt }]
  interfaces := [{ id := "ont-p1", deviceId := "ont", name := "p1" },
    { id := "odf-p1", deviceId := "odf", name := "p1" },
    { id := "odf-p2", deviceId := "odf", name := "p2" },
    { id := "odf-p3", deviceId := "odf", name := "p3" },
    { id := "olt-a-p1", deviceId := "olt-a", name := "p1" },
    { id := "olt-b-p1", deviceId := "olt-b", name := "p1" }]
  links := [
    { id := "drop", aInterfaceId := "ont-p1", bInterfaceId := "odf-p1", lengthKm := some 1
      physicalMediumId := some 1 },
    { id := "feeder-b", aInterfaceId := "odf-p2", bInterfaceId := "olt-b-p1", lengthKm := some 1
      physicalMediumId := some 1 },
    { id := "feeder-a", aInterfaceId := "odf-p3", bInterfaceId := "olt-a-p1", lengthKm := some 1
      physicalMediumId := some 1 }]
  physicalMedia := [{ id := 1, code := "SMF_G652D", kind := "optical" }]

/-- The edges of the backend's graph of these rows. -/
def twoOltsEdges : List (String × String × ℚ) :=
  [("ont", "odf", 7 / 20), ("odf", "ont", 7 / 20), ("odf", "olt-a", 7 / 20), ("olt-a", "odf", 7 / 20),
    ("odf", "olt-b", 7 / 20), ("olt-b", "odf", 7 / 20)]

/-- The simple walks over these edges from the ONT. -/
def twoOltsWalks : List (List String × String × ℚ) :=
  [(["ont"], "ont", 0), (["ont", "odf"], "odf", 7 / 20),
    (["ont", "odf", "olt-a"], "olt-a", 7 / 10), (["ont", "odf", "olt-b"], "olt-b", 7 / 10)]

/-- An edge with a weight is in the list. -/
theorem edges_twoOlts (u v : String) (w : ℚ) (h : backendWeight twoOlts u v = some w) :
    (u, v, w) ∈ twoOltsEdges := by
  have hkeys : ∀ k ∈ (PathResolver.graph twoOlts).edges.keys,
      (backendWeight twoOlts k.1 k.2).all (fun w ↦ (k.1, k.2, w) ∈ twoOltsEdges) = true := by
    decide +kernel
  obtain ⟨linkId, hedge, _⟩ := Option.map_eq_some_iff.mp h
  have hw := hkeys (u, v) (AList.mem_keys.mp (AList.lookup_isSome.mp (by rw [hedge]; rfl)))
  rw [h] at hw
  exact of_decide_eq_true hw

/-- A route is one of the walks. -/
theorem routes_twoOlts {path : List String} {oltId : String} {d : ℚ}
    (h : Route (backendWeight twoOlts) "ont" (backendOlt twoOlts) path oltId d) :
    (path, oltId, d) ∈ twoOltsWalks :=
  h.walk.mem_of_closed edges_twoOlts (by decide +kernel) (by decide +kernel) h.simple

/-- Between two OLTs of one attenuation, length and number of hops the backend takes the first id. -/
theorem least_route_to_first_olt :
    ChoosesLeast (backendWeight twoOlts) "ont" (backendOlt twoOlts) (backendLengthKm twoOlts)
      (backendAnswer listDijkstra twoOlts "ont") := by
  have hwalk : Walk (backendWeight twoOlts) "ont" ["ont", "odf", "olt-a"] "olt-a"
      (0 + 7 / 20 + 7 / 20) :=
    (Walk.nil.snoc (by decide +kernel : backendWeight twoOlts "ont" "odf" = some (7 / 20))).snoc
      (by decide +kernel : backendWeight twoOlts "odf" "olt-a" = some (7 / 20))
  have hroute : Route (backendWeight twoOlts) "ont" (backendOlt twoOlts) ["ont", "odf", "olt-a"] "olt-a"
      (0 + 7 / 20 + 7 / 20) :=
    ⟨by decide +kernel, hwalk, by decide⟩
  have hleast : ∀ x ∈ twoOltsWalks, backendOlt twoOlts x.2.1 = true →
      routeKey (backendLengthKm twoOlts) ["ont", "odf", "olt-a"] "olt-a" (0 + 7 / 20 + 7 / 20) ≤
          routeKey (backendLengthKm twoOlts) x.1 x.2.1 x.2.2 ∧
        (x.2.1 = "olt-a" → x.1 = ["ont", "odf", "olt-a"]) := by
    decide +kernel
  have hnonneg : ∀ e ∈ twoOltsEdges, 0 ≤ e.2.2 := by decide +kernel
  refine (least_route_iff Resolver.detour nonnegLosses_detour twoOlts "ont"
    (fun _ _ _ _ _ _ hw ↦ hnonneg _ (edges_twoOlts _ _ _ hw))).2.2.mpr ⟨_, _, _, ⟨hroute, ?_⟩, ?_⟩
      listDijkstra listDijkstra_correct
  · intro path' oltId' d' hroute'
    exact (hleast _ (routes_twoOlts hroute') hroute'.olt).1
  · intro path' hshort
    have hother := routes_twoOlts ⟨hroute.olt, hshort.walk, hshort.simple⟩
    have hpath : path' = ["ont", "odf", "olt-a"] := (hleast _ hother hroute.olt).2 rfl
    rw [hpath]

/-! ### Two ways of one attenuation -/

/-- Two ways of three decibels to the OLT: a long one over a near node and a short one over a far node. -/
def twoWays : Resolver.OpticalGraph :=
  Resolver.graphOf
    [Resolver.plainNode "ont" .ont, Resolver.plainNode "near" .hop, Resolver.plainNode "far" .hop,
      Resolver.plainNode "olt" .olt]
    [{ Resolver.fiberEdge "l1" "ont" "near" 1 with lengthKm := 10 },
      { Resolver.fiberEdge "l2" "near" "olt" 2 with lengthKm := 10 },
      Resolver.fiberEdge "l3" "ont" "far" 2, Resolver.fiberEdge "l4" "far" "olt" 1]

/-- Two ways of two decibels, alike but for their links. -/
def twins : Resolver.OpticalGraph :=
  Resolver.graphOf
    [Resolver.plainNode "ont" .ont, Resolver.plainNode "left" .hop, Resolver.plainNode "right" .hop,
      Resolver.plainNode "olt" .olt]
    [Resolver.fiberEdge "l1" "ont" "left" 1, Resolver.fiberEdge "l2" "left" "olt" 1,
      Resolver.fiberEdge "r1" "ont" "right" 1, Resolver.fiberEdge "r2" "right" "olt" 1]

private theorem not_choosesLeast {weight : String → String → Option ℚ} {s : String}
    {isOlt : String → Bool}
    {lengthKm : List String → ℚ} {answer : Option (String × ℚ × List PathSegment)}
    {path : List String} {oltId : String} {d : ℚ} (hroute : Route weight s isOlt path oltId d)
    (hbetter : answer.all (fun r ↦ routeKey lengthKm path oltId d <
      routeKey lengthKm (s :: r.2.2.map PathSegment.dst) r.1 r.2.1) = true) :
    ¬ ChoosesLeast weight s isOlt lengthKm answer := by
  rintro ⟨oltId', d', segments, rfl, hleast⟩
  exact absurd (hleast.least _ _ _ hroute) (not_le.mpr (of_decide_eq_true hbetter))

/-- Both resolvers of the engine choose the long way, and the order of the neighbours decides between
twins. -/
theorem long_way_chosen : NonnegLosses twoWays.toGraph ∧
    Route (edgeWeight twoWays.toGraph) "ont" (PathFinder.isOlt twoWays.toGraph) ["ont", "far", "olt"]
      "olt" 3 ∧
    ¬ ChoosesLeast (edgeWeight twoWays.toGraph) "ont" (PathFinder.isOlt twoWays.toGraph)
      (pathLengthKm twoWays.toGraph)
      (pathFinderAnswer (listQueue String ℚ) addedOrder storedOrder twoWays.toGraph "ont") ∧
    ¬ ChoosesLeast (resolverWeight twoWays.toGraph) "ont" (PathFinder.isOlt twoWays.toGraph)
      (pathLengthKm twoWays.toGraph)
      (resolverAnswer (listQueue String ℚ) addedOrder twoWays.toGraph "ont") ∧
    pathFinderAnswer (listQueue String ℚ) addedOrder storedOrder twins.toGraph "ont" ≠
      pathFinderAnswer (listQueue String ℚ) Resolver.reversedOrder storedOrder twins.toGraph "ont" := by
  have hroute : ∀ weight, weight "ont" "far" = some (2 : ℚ) → weight "far" "olt" = some 1 →
      Route weight "ont" (PathFinder.isOlt twoWays.toGraph) ["ont", "far", "olt"] "olt" 3 := by
    intro weight hfar holt
    have hwalk := (Walk.nil.snoc hfar).snoc holt
    exact ⟨by decide +kernel, by norm_num at hwalk; exact hwalk, by decide⟩
  refine ⟨nonnegLosses_of_entries (by decide +kernel) (by decide +kernel),
    hroute _ (by decide +kernel) (by decide +kernel), ?_, ?_, by decide +kernel⟩
  · exact not_choosesLeast (hroute _ (by decide +kernel) (by decide +kernel)) (by decide +kernel)
  · exact not_choosesLeast (hroute _ (by decide +kernel) (by decide +kernel)) (by decide +kernel)

end Unoc.Optical
