import Unoc.Optical.LastLinks

/-!
# Agreement of the two path finders

The Go engine and the backend resolve the path of an ONT from graphs that they build on their own.
Where the last links at the devices that the ONT reaches without passing an OLT are FIBER between
optical devices and priced alike, the two graphs have the same walks up to the first OLT, and both
answer with the same attenuation and the same OLT, unless a tie between OLTs depends on the paths
that were found.
-/

namespace Unoc.Optical

open Unoc.Base Unoc.Base.Dijkstra Unoc.Model Unoc.Status Unoc.Optical.PathFinder

/-! ### The best candidate -/

/-- What decides between candidates of one attenuation: length, hops and OLT id. -/
def tieKey (lengthKm : List String → ℚ) (path : List String) (oltId : String) :
    ℚ ×ₗ Nat ×ₗ String :=
  toLex (lengthKm path, toLex (path.length - 1, oltId))

section Candidates

variable {weight : String → String → Option ℚ} {s : String} {isOlt : String → Bool}
  {lengthKm : List String → ℚ} {distances : Dict String ℚ} {paths : Dict String (List String)}

/-- Without a best candidate there is none. -/
theorem bestCandidate_eq_none {cs : List Candidate} (h : bestCandidate cs = none) : cs = [] := by
  have hperm := List.perm_insertionSort (fun a b : Candidate ↦ a.key ≤ b.key) cs
  rw [bestCandidate, List.head?_eq_none_iff] at h
  exact (h ▸ hperm).symm.eq_nil

/-- The best candidate is one of least key. -/
theorem bestCandidate_eq_some {cs : List Candidate} {c : Candidate} (h : bestCandidate cs = some c) :
    c ∈ cs ∧ ∀ c' ∈ cs, c.key ≤ c'.key := by
  obtain ⟨rest, hsort⟩ := List.head?_eq_some_iff.mp h
  constructor
  · rw [← List.mem_insertionSort (fun a b : Candidate ↦ a.key ≤ b.key), hsort]
    exact List.mem_cons_self
  · intro c' hc'
    exact le_of_insertionSort hsort hc'

/-- A candidate is an OLT with a shortest path. -/
structure ShortestCandidate (weight : String → String → Option ℚ) (s : String) (isOlt : String → Bool)
    (lengthKm : List String → ℚ) (c : Candidate) : Prop where
  olt : isOlt c.oltId = true
  shortest : Shortest weight s c.path c.oltId c.distance
  length : c.lengthKm = lengthKm c.path
  hops : c.hopCount = c.path.length - 1

/-- Every candidate of a solution has a shortest path. -/
theorem shortest_of_mem_candidates (h : Solution weight s distances paths) {c : Candidate}
    (hc : c ∈ candidates isOlt lengthKm distances paths) :
    ShortestCandidate weight s isOlt lengthKm c := by
  obtain ⟨⟨node, distance⟩, hentry, hc⟩ := List.mem_filterMap.mp hc
  obtain ⟨p, hp, hshort⟩ := h.sound node distance (AList.mem_lookup_iff.mpr hentry)
  unfold candidate at hc
  split at hc
  · next holt =>
    rw [hp] at hc
    cases p with
    | nil => cases hc
    | cons x xs =>
      cases hc
      exact ⟨holt, hshort, rfl, rfl⟩
  · cases hc

/-- An OLT that a walk reaches is a candidate. -/
theorem exists_candidate (h : Solution weight s distances paths) {o : String} {p : List String}
    {d : ℚ} (holt : isOlt o = true) (hwalk : Walk weight s p o d) :
    ∃ c ∈ candidates isOlt lengthKm distances paths, c.oltId = o := by
  obtain ⟨d', hd'⟩ := h.complete p o d hwalk
  obtain ⟨p', hp', hshort⟩ := h.sound o d' hd'
  have hne := hshort.walk.ne_nil
  cases hp'' : p' with
  | nil => exact absurd hp'' hne
  | cons x xs =>
    refine ⟨⟨d', lengthKm p', p'.length - 1, o, ",".intercalate p', p'⟩, ?_, rfl⟩
    refine List.mem_filterMap.mpr ⟨⟨o, d'⟩, AList.mem_lookup_iff.mp hd', ?_⟩
    simp [candidate, holt, hp', hp'']

private theorem key_lt {c c' : Candidate} (hc : ShortestCandidate weight s isOlt lengthKm c)
    (hc' : ShortestCandidate weight s isOlt lengthKm c') (hd : c.distance = c'.distance)
    (htie : tieKey lengthKm c.path c.oltId < tieKey lengthKm c'.path c'.oltId) :
    c.key < c'.key := by
  unfold tieKey at htie
  unfold Candidate.key
  rw [hc.length, hc'.length, hc.hops, hc'.hops, hd]
  simp only [Prod.Lex.toLex_lt_toLex] at htie ⊢
  tauto

private theorem distance_le_of_key_le {c c' : Candidate} (h : c.key ≤ c'.key) :
    c.distance ≤ c'.distance := by
  unfold Candidate.key at h
  rw [Prod.Lex.toLex_le_toLex] at h
  rcases h with h | h
  · exact h.le
  · exact h.1.le

/-! ### Ties -/

/-- An OLT of least attenuation. -/
structure Nearest (weight : String → String → Option ℚ) (s : String) (isOlt : String → Bool)
    (o : String) (d : ℚ) : Prop where
  olt : isOlt o = true
  reached : ∃ p, Shortest weight s p o d
  least : ∀ o' p' d', isOlt o' = true → Walk weight s p' o' d' → d ≤ d'

/-- An OLT that comes before every other nearest one, whichever shortest paths are found; it is
reached without passing another OLT. -/
structure Wins (weight : String → String → Option ℚ) (s : String) (isOlt : String → Bool)
    (lengthKm : List String → ℚ) (o : String) (d : ℚ) : Prop where
  nearest : Nearest weight s isOlt o d
  first : ∃ p, p.Nodup ∧ Walk (stopAt isOlt weight) s p o d
  before : ∀ o', o' ≠ o → Nearest weight s isOlt o' d → ∀ p p', Shortest weight s p o d →
    Shortest weight s p' o' d → tieKey lengthKm p o < tieKey lengthKm p' o'

/-- If an OLT is reached at all, one of them wins. -/
def TiesDecided (weight : String → String → Option ℚ) (s : String) (isOlt : String → Bool)
    (lengthKm : List String → ℚ) : Prop :=
  ∀ o p d, isOlt o = true → Walk weight s p o d → ∃ o d, Wins weight s isOlt lengthKm o d

/-- The nearest OLTs are equally near. -/
theorem Nearest.unique {o o' : String} {d d' : ℚ} (h : Nearest weight s isOlt o d)
    (h' : Nearest weight s isOlt o' d') : d = d' := by
  obtain ⟨p, hp⟩ := h.reached
  obtain ⟨p', hp'⟩ := h'.reached
  exact le_antisymm (h.least o' p' d' h'.olt hp'.walk) (h'.least o p d h.olt hp.walk)

/-- Every solution has a candidate for an OLT that a walk reaches, at its distance. -/
theorem exists_candidate_at (lengthKm : List String → ℚ) (h : Solution weight s distances paths)
    {o : String} {p : List String} {d : ℚ} (holt : isOlt o = true) (hshort : Shortest weight s p o d) :
    ∃ c ∈ candidates isOlt lengthKm distances paths,
      ShortestCandidate weight s isOlt lengthKm c ∧ c.oltId = o ∧ c.distance = d := by
  obtain ⟨c, hc, rfl⟩ := exists_candidate h holt hshort.walk
  have hcand := shortest_of_mem_candidates h hc
  exact ⟨c, hc, hcand, rfl, hcand.shortest.unique hshort⟩

/-- The best candidate is a nearest OLT. -/
theorem nearest_of_best (h : Solution weight s distances paths) {c : Candidate}
    (hc : bestCandidate (candidates isOlt lengthKm distances paths) = some c) :
    Nearest weight s isOlt c.oltId c.distance := by
  obtain ⟨hmem, hmin⟩ := bestCandidate_eq_some hc
  have hcand := shortest_of_mem_candidates h hmem
  refine ⟨hcand.olt, ⟨c.path, hcand.shortest⟩, ?_⟩
  intro o' p' d' holt hwalk
  obtain ⟨c', hc', rfl⟩ := exists_candidate h holt hwalk
  exact (distance_le_of_key_le (hmin c' hc')).trans
    ((shortest_of_mem_candidates h hc').shortest.least p' d' hwalk)

/-- Every solution chooses the OLT that wins. -/
theorem best_of_wins (h : Solution weight s distances paths) {o : String} {d : ℚ}
    (hwins : Wins weight s isOlt lengthKm o d) :
    (bestCandidate (candidates isOlt lengthKm distances paths)).map (fun c ↦
      (c.oltId, c.distance)) = some (o, d) := by
  obtain ⟨p, hp⟩ := hwins.nearest.reached
  obtain ⟨c', hc', hcand', rfl, rfl⟩ := exists_candidate_at lengthKm h hwins.nearest.olt hp
  cases hb : bestCandidate (candidates isOlt lengthKm distances paths) with
  | none =>
    rw [bestCandidate_eq_none hb] at hc'
    cases hc'
  | some c =>
    obtain ⟨hmem, hmin⟩ := bestCandidate_eq_some hb
    have hcand := shortest_of_mem_candidates h hmem
    have hnearest := nearest_of_best h hb
    have hd : c.distance = c'.distance := hnearest.unique hwins.nearest
    have hid : c.oltId = c'.oltId := by
      by_contra hne
      have htie := hwins.before c.oltId hne (hd ▸ hnearest) c'.path c.path hcand'.shortest
        (hd ▸ hcand.shortest)
      exact absurd (hmin c' hc') (not_le.mpr (key_lt hcand' hcand hd.symm htie))
    simp [hd, hid]

/-- Without a walk to an OLT, no solution chooses one. -/
theorem best_eq_none (h : Solution weight s distances paths)
    (hnone : ∀ o p d, isOlt o = true → ¬ Walk weight s p o d) :
    bestCandidate (candidates isOlt lengthKm distances paths) = none := by
  cases hb : bestCandidate (candidates isOlt lengthKm distances paths) with
  | none => rfl
  | some c =>
    have hcand := shortest_of_mem_candidates h (bestCandidate_eq_some hb).1
    exact absurd hcand.shortest.walk (hnone _ _ _ hcand.olt)

/-- A single OLT wins. -/
theorem TiesDecided.of_single (h : Solution weight s distances paths)
    (hsingle : ∀ o o', isOlt o = true → isOlt o' = true → o = o') :
    TiesDecided weight s isOlt lengthKm := by
  intro o p d holt hwalk
  obtain ⟨d', hd'⟩ := h.complete p o d hwalk
  obtain ⟨p', _, hshort⟩ := h.sound o d' hd'
  refine ⟨o, d', ⟨holt, ⟨p', hshort⟩, ?_⟩, ⟨p', hshort.simple, ?_⟩, ?_⟩
  · intro o' q e ho' hq
    rw [hsingle o' o ho' holt] at hq
    exact hshort.least q e hq
  · exact hshort.walk.to_stopAt hshort.simple (fun x _ hx ↦ hsingle x o hx holt)
  · intro o' hne ho'
    exact absurd (hsingle o' o ho'.olt holt) hne

/-- Where two graphs have the same walks up to the first OLT, with the same lengths, their winners
are the same and equally near. -/
theorem Wins.agree {weight' : String → String → Option ℚ} {lengthKm' : List String → ℚ}
    (hwalk : ∀ p v d, Walk (stopAt isOlt weight') s p v d ↔ Walk (stopAt isOlt weight) s p v d)
    (hlength : ∀ p v d, Walk (stopAt isOlt weight) s p v d → lengthKm' p = lengthKm p)
    {o o' : String} {d d' : ℚ} (h : Wins weight s isOlt lengthKm o d)
    (h' : Wins weight' s isOlt lengthKm' o' d') : (o, d) = (o', d') := by
  obtain ⟨p, hp, hfirst⟩ := h.first
  obtain ⟨p', hp', hfirst'⟩ := h'.first
  have hto := (hwalk p o d).mpr hfirst
  have hfrom := (hwalk p' o' d').mp hfirst'
  have hd : d = d' := le_antisymm (h.nearest.least o' p' d' h'.nearest.olt hfrom.of_stopAt)
    (h'.nearest.least o p d h.nearest.olt hto.of_stopAt)
  subst hd
  -- each winner is a nearest OLT of the other graph, by the walk that stops there
  have hshort : Shortest weight s p o d := ⟨hfirst.of_stopAt, hp, fun q e hq ↦
    h.nearest.least o q e h.nearest.olt hq⟩
  have hshort' : Shortest weight' s p' o' d := ⟨hfirst'.of_stopAt, hp', fun q e hq ↦
    h'.nearest.least o' q e h'.nearest.olt hq⟩
  have hcross : Shortest weight s p' o' d := ⟨hfrom.of_stopAt, hp', fun q e hq ↦
    h.nearest.least o' q e h'.nearest.olt hq⟩
  have hcross' : Shortest weight' s p o d := ⟨hto.of_stopAt, hp, fun q e hq ↦
    h'.nearest.least o q e h.nearest.olt hq⟩
  have hid : o = o' := by
    by_contra hne
    have hlt := h.before o' (Ne.symm hne)
      ⟨h'.nearest.olt, ⟨p', hcross⟩, h.nearest.least⟩ p p' hshort hcross
    have hlt' := h'.before o hne ⟨h.nearest.olt, ⟨p, hcross'⟩, h'.nearest.least⟩ p' p hshort' hcross'
    unfold tieKey at hlt hlt'
    rw [hlength p o d hfirst, hlength p' o' d hfrom] at hlt'
    exact absurd hlt (lt_asymm hlt')
  rw [hid]

end Candidates

/-! ### The search of the engine -/

/-- The neighbours of a device include the ends of its edges. -/
theorem PathFinder.mem_getNeighbors (order : MapOrder) (g : Graph) (u v : String) (w : ℚ)
    (hw : edgeWeight g u v = some w) : v ∈ order.getNeighbors g u := by
  rw [(order.perm _ u).mem_iff]
  obtain ⟨edge, hedge, _⟩ := Option.map_eq_some_iff.mp hw
  have hkey : (u, v) ∈ g.edges.keys :=
    AList.mem_keys.mp (AList.lookup_isSome.mp (by rw [hedge]; rfl))
  exact List.mem_map.mpr ⟨(u, v), List.mem_filter.mpr ⟨hkey, by simp⟩, rfl⟩

/-- A device without edges has no neighbours. -/
theorem PathFinder.getNeighbors_eq_nil (order : MapOrder) (g : Graph) (u : String)
    (hu : u ∉ (g.edges.keys.map Prod.fst).dedup) : order.getNeighbors g u = [] := by
  have htargets : g.targets u = [] := by
    rw [Graph.targets, List.map_eq_nil_iff, List.filter_eq_nil_iff]
    intro k hk hku
    apply hu
    rw [List.mem_dedup, ← of_decide_eq_true hku]
    exact List.mem_map_of_mem hk
  exact List.Perm.eq_nil (htargets ▸ order.perm _ u)

/-- In every map order the engine's search solves the walks over the edges of its graph. -/
theorem PathFinder.dijkstra_solution (q : PriorityQueue String ℚ) (order : MapOrder) (g : Graph)
    {startNodeId : String} (hnonneg : NonnegFrom (edgeWeight g) startNodeId) :
    Solution (edgeWeight g) startNodeId (dijkstra g q order startNodeId).distances
      (dijkstra g q order startNodeId).paths :=
  run_solution hnonneg (mem_getNeighbors order g) (List.nodup_dedup _) (getNeighbors_eq_nil order g)

/-- A correct `networkx` solves the walks over the edges of the backend's graph. -/
theorem PathResolver.nx_solution {nx : PathResolver.SingleSourceDijkstra} (hnx : nx.Correct)
    {db : Database} {ontId : String}
    (hnonneg : NonnegFrom (PathResolver.weightFn db (PathResolver.graph db)) ontId) :
    Solution (PathResolver.weightFn db (PathResolver.graph db)) ontId
      (nx (PathResolver.weightFn db (PathResolver.graph db)) (PathResolver.graph db).neighbors
        (PathResolver.graph db).nodes.keys ontId).1
      (nx (PathResolver.weightFn db (PathResolver.graph db)) (PathResolver.graph db).neighbors
        (PathResolver.graph db).nodes.keys ontId).2 := by
  refine hnx _ _ _ _ ?_ (AList.keys_nodup _) ?_ hnonneg
  · intro u v w hw
    obtain ⟨linkId, hedge, _⟩ := Option.map_eq_some_iff.mp hw
    have hkey : (u, v) ∈ (PathResolver.graph db).edges.keys :=
      AList.mem_keys.mp (AList.lookup_isSome.mp (by rw [hedge]; rfl))
    exact List.mem_map.mpr ⟨(u, v), List.mem_filter.mpr ⟨hkey, by simp⟩, rfl⟩
  · intro u hu
    rw [PathResolver.Graph.neighbors, List.map_eq_nil_iff, List.filter_eq_nil_iff]
    rintro ⟨a, b⟩ hk hku
    apply hu
    obtain ⟨linkId, hedge⟩ := Option.isSome_iff_exists.mp
      (AList.lookup_isSome.mpr (AList.mem_keys.mpr hk))
    have hau : a = u := of_decide_eq_true hku
    subst hau
    exact AList.mem_keys.mp (PathResolver.mem_nodes_of_edge hedge)

/-! ### Both resolvers -/

/-- A walk over the last links leads from one device to another and passes no OLT. -/
def Reaches (db : Database) (s u : String) : Prop :=
  ∃ p d, Walk (stopAt (isOlt db) (attenuation db)) s p u d

/-- The optics between an ONT and the OLTs it comes to are alike on both sides: the engine's graph
builds, the ONT is an optical device, every last link that leaves a device reached without passing
an OLT is a FIBER link to an optical device with a price that both sides know, and in either graph
no weight is negative and the choice between nearest OLTs does not depend on the paths that are
found. -/
structure SameOptics (db : Database) (ontId : String) : Prop where
  buildable : Buildable db
  start : ∀ d, db.getDevice ontId = some d → opticalType d.type = true
  link : ∀ u v l, Reaches db ontId u → isOlt db u = false → lastLink db u v = some l →
    l.id ≠ "" ∧ l.kind = .fiber ∧ SamePrice db l ∧
      ∀ d, db.getDevice v = some d → opticalType d.type = true
  nonneg : NonnegFrom (attenuation db) ontId
  backendNonneg : NonnegFrom (PathResolver.weightFn db (PathResolver.graph db)) ontId
  ties : TiesDecided (attenuation db) ontId (isOlt db) (pathLength db)
  backendTies : TiesDecided (PathResolver.weightFn db (PathResolver.graph db)) ontId (isOlt db)
    (PathResolver.pathTotalLengthKm db (PathResolver.graph db))

/-- Both find no path, or both find paths of one attenuation to one OLT. -/
def Agree (go : Except String (Option PathFinder.OpticalPathResult))
    (python : Option PathResolver.OpticalPathResult) : Prop :=
  ∃ r, go = .ok r ∧ r.map (fun r ↦ (r.oltId, r.totalAttenuationDb)) =
    python.map (fun r ↦ (r.oltId, r.totalAttenuationDb))

namespace SameOptics

variable {db : Database} {ontId : String} (h : SameOptics db ontId)

include h

/-- A device row that the ONT reaches is optical. -/
theorem optical {u : String} (hu : Reaches db ontId u) {d : Device}
    (hd : db.getDevice u = some d) : opticalType d.type = true := by
  obtain ⟨p, w, hwalk⟩ := hu
  cases hwalk with
  | nil => exact h.start d hd
  | @snoc p' x _ w' _ hpre hw =>
    obtain ⟨holt, hw⟩ := stopAt_eq_some.mp hw
    obtain ⟨l, hl, _⟩ := Option.map_eq_some_iff.mp hw
    exact (h.link x u l ⟨p', w', hpre⟩ holt hl).2.2.2 d hd

private theorem alike {u v : String} (hu : Reaches db ontId u) (holt : isOlt db u = false)
    {l : Link}
    (hl : lastLink db u v = some l) : PathResolver.Alike db u v l := by
  obtain ⟨hid, hkind, hprice, hv⟩ := h.link u v l hu holt hl
  have hends : (db.getDevice u).isSome ∧ (db.getDevice v).isSome := by
    obtain ⟨hmem, hjoins⟩ := joins_of_lastLink hl
    rcases hjoins with ⟨ha, hb⟩ | ⟨hb, ha⟩
    · exact ⟨(h.buildable l hmem _ _ ha hb).1.2, (h.buildable l hmem _ _ ha hb).2.2⟩
    · exact ⟨(h.buildable l hmem _ _ ha hb).2.2, (h.buildable l hmem _ _ ha hb).1.2⟩
  obtain ⟨du, hdu⟩ := Option.isSome_iff_exists.mp hends.1
  obtain ⟨dv, hdv⟩ := Option.isSome_iff_exists.mp hends.2
  exact ⟨hid, hkind, hprice, PathResolver.mem_nodes.mpr ⟨du, hdu, h.optical hu hdu⟩,
    PathResolver.mem_nodes.mpr ⟨dv, hdv, hv dv hdv⟩⟩

/-- Up to the first OLT both graphs have the same walks from the ONT. -/
theorem walk_iff (p : List String) (v : String) (d : ℚ) :
    Walk (stopAt (isOlt db) (PathResolver.weightFn db (PathResolver.graph db))) ontId p v d ↔
      Walk (stopAt (isOlt db) (attenuation db)) ontId p v d := by
  apply walk_iff_of_agree
  intro p u d hwalk v
  unfold stopAt
  cases holt : isOlt db u with
  | true => rfl
  | false => exact PathResolver.weightFn_eq h.buildable (fun l hl ↦ h.alike ⟨p, d, hwalk⟩ holt hl)

/-- Up to the first OLT both sides measure paths alike. -/
theorem pathTotalLengthKm_eq {p : List String} {v : String} {d : ℚ}
    (hwalk : Walk (stopAt (isOlt db) (attenuation db)) ontId p v d) :
    PathResolver.pathTotalLengthKm db (PathResolver.graph db) p = pathLength db p := by
  apply PathResolver.pathTotalLengthKm_eq h.buildable
  intro hop hmem l hl
  obtain ⟨p', d', w, hpre, hw⟩ := hwalk.hops hop hmem
  exact h.alike ⟨p', d', hpre⟩ (stopAt_eq_some.mp hw).1 hl

/-- The engine's search solves the walks over the last links. -/
theorem go_solution (q : PriorityQueue String ℚ) (order : MapOrder) :
    Solution (attenuation db) ontId
      (dijkstra ⟨nodes db, edges db⟩ q order ontId).distances
      (dijkstra ⟨nodes db, edges db⟩ q order ontId).paths := by
  rw [← edgeWeight_eq]
  apply dijkstra_solution
  rw [edgeWeight_eq]
  exact h.nonneg

/-- If the engine reaches no OLT, neither does the backend, and the other way round. -/
theorem reachesOlt_iff :
    (∃ o p d, isOlt db o = true ∧ Walk (attenuation db) ontId p o d) ↔
      ∃ o p d, isOlt db o = true ∧
        Walk (PathResolver.weightFn db (PathResolver.graph db)) ontId p o d := by
  constructor
  · rintro ⟨o, p, d, holt, hwalk⟩
    obtain ⟨p', o', d', holt', hfirst, _⟩ := hwalk.exists_first h.nonneg holt
    exact ⟨o', p', d', holt', ((h.walk_iff p' o' d').mpr hfirst).of_stopAt⟩
  · rintro ⟨o, p, d, holt, hwalk⟩
    obtain ⟨p', o', d', holt', hfirst, _⟩ := hwalk.exists_first h.backendNonneg holt
    exact ⟨o', p', d', holt', ((h.walk_iff p' o' d').mp hfirst).of_stopAt⟩

/-- All solutions of the two graphs choose the same OLT at the same attenuation. -/
theorem best_agree {distances distances' : Dict String ℚ} {paths paths' : Dict String (List String)}
    (hgo : Solution (attenuation db) ontId distances paths)
    (hpython : Solution (PathResolver.weightFn db (PathResolver.graph db)) ontId distances' paths') :
    (bestCandidate (candidates (isOlt db) (pathLength db) distances paths)).map (fun c ↦
        (c.oltId, c.distance)) =
      (bestCandidate (candidates (isOlt db)
        (PathResolver.pathTotalLengthKm db (PathResolver.graph db)) distances' paths')).map (fun c ↦
        (c.oltId, c.distance)) := by
  by_cases hreach : ∃ o p d, isOlt db o = true ∧ Walk (attenuation db) ontId p o d
  · obtain ⟨o, p, d, holt, hwalk⟩ := hreach
    obtain ⟨o', p', d', holt', hwalk'⟩ := h.reachesOlt_iff.mp ⟨o, p, d, holt, hwalk⟩
    obtain ⟨winner, least, hwins⟩ := h.ties o p d holt hwalk
    obtain ⟨winner', least', hwins'⟩ := h.backendTies o' p' d' holt' hwalk'
    rw [best_of_wins hgo hwins, best_of_wins hpython hwins']
    exact congrArg some (hwins.agree h.walk_iff (fun p v d ↦ h.pathTotalLengthKm_eq) hwins')
  · have hreach' := fun hbackend ↦ hreach (h.reachesOlt_iff.mpr hbackend)
    rw [best_eq_none hgo (fun o p d holt hwalk ↦ hreach ⟨o, p, d, holt, hwalk⟩),
      best_eq_none hpython (fun o p d holt hwalk ↦ hreach' ⟨o, p, d, holt, hwalk⟩)]

end SameOptics

/-- Where the optics between an ONT and its OLTs are alike, the Go engine and the backend resolve it to the
same OLT at the same attenuation, in every map order and with every priority queue. -/
theorem resolvers_agree_of_sameOptics (q : PriorityQueue String ℚ) (order : MapOrder)
    (nx : PathResolver.SingleSourceDijkstra) (hnx : nx.Correct) (db : Database) (ontId : String)
    (h : SameOptics db ontId) :
    Agree (PathFinder.resolveOpticalPath q order db ontId)
      (PathResolver.resolveOpticalPath nx db ontId) := by
  have hnode : ontId ∈ nodes db ↔ ontId ∈ (PathResolver.graph db).nodes := by
    rw [mem_nodes, PathResolver.mem_nodes, Option.isSome_iff_exists]
    exact ⟨fun ⟨d, hd⟩ ↦ ⟨d, hd, h.start d hd⟩, fun ⟨d, hd, _⟩ ↦ ⟨d, hd⟩⟩
  have holt : PathFinder.isOlt ⟨nodes db, edges db⟩ = isOlt db := funext PathFinder.isOlt_eq
  have holt' : PathResolver.isOlt (PathResolver.graph db) = isOlt db := funext PathResolver.isOlt_eq
  have hlength : pathLengthKm ⟨nodes db, edges db⟩ = pathLength db := funext pathLengthKm_eq
  have hgo := h.go_solution q order
  have hbest := h.best_agree hgo (PathResolver.nx_solution hnx h.backendNonneg)
  unfold PathFinder.resolveOpticalPath PathResolver.resolveOpticalPath
  rw [buildGraph_eq h.buildable]
  by_cases hmem : ontId ∈ nodes db
  · have hmem' : ontId ∈ (PathResolver.graph db).nodes := hnode.mp hmem
    refine ⟨_, if_neg (not_not.mpr hmem), ?_⟩
    show Option.map _ (Option.map _ (bestCandidate (candidates
      (PathFinder.isOlt ⟨nodes db, edges db⟩) (pathLengthKm ⟨nodes db, edges db⟩) _ _))) =
      Option.map _ (if ontId ∉ (PathResolver.graph db).nodes then none else _)
    rw [if_neg (not_not.mpr hmem'), holt, hlength, Option.map_map]
    show _ = Option.map _ (Option.map _ (bestCandidate (candidates
      (PathResolver.isOlt (PathResolver.graph db)) _ _ _)))
    rw [holt', Option.map_map]
    exact hbest
  · have hmem' : ontId ∉ (PathResolver.graph db).nodes := fun hn ↦ hmem (hnode.mpr hn)
    refine ⟨none, if_pos hmem, ?_⟩
    show none = Option.map _ (if ontId ∉ (PathResolver.graph db).nodes then none else _)
    rw [if_pos hmem']
    rfl

/-! ### One fiber -/

/-- Dijkstra with a list as its queue, in the place of `networkx`. -/
def listDijkstra : PathResolver.SingleSourceDijkstra := fun weight neighbors nodes source ↦
  ((run (listQueue String ℚ) weight neighbors nodes source).distances,
    (run (listQueue String ℚ) weight neighbors nodes source).paths)

/-- Dijkstra with a list as its queue is correct. -/
theorem listDijkstra_correct : listDijkstra.Correct :=
  fun _ _ _ _ hnext hnodup hout hnonneg ↦ run_solution hnonneg hnext hnodup hout

/-- The order in which edges were added. -/
def addedOrder : MapOrder := ⟨fun g id ↦ g.targets id, fun _ _ ↦ .refl _⟩

/-- An ONT and an OLT, joined by a kilometre of fiber. -/
def oneFiber (code : String) : Database where
  devices := [{ id := "ont", type := .ont }, { id := "olt", type := .olt }]
  interfaces := [{ id := "ont-p1", deviceId := "ont", name := "p1" },
    { id := "olt-p1", deviceId := "olt", name := "p1" }]
  links := [{
    id := "fiber"
    aInterfaceId := "ont-p1"
    bInterfaceId := "olt-p1"
    lengthKm := some 1
    physicalMediumId := some 1 }]
  physicalMedia := [{ id := 1, code := code, kind := "optical" }]

/-- Single-mode fiber has the same price on both sides. -/
theorem sameOptics_oneFiber : SameOptics (oneFiber "SMF_G652D") "ont" := by
  have hdevices : ∀ d ∈ (oneFiber "SMF_G652D").devices,
      opticalType d.type = true ∧ PathFinder.isPassive d.type = false ∧
        (d.type = .olt → d.id = "olt") := by
    decide
  have hoptical : ∀ v d, (oneFiber "SMF_G652D").getDevice v = some d →
      opticalType d.type = true := by
    intro v d hd
    exact (hdevices d (Database.getDevice_eq_some.mp hd).1).1
  have hlinks : ∀ l ∈ (oneFiber "SMF_G652D").links,
      (l.id ≠ "" ∧ l.kind = .fiber ∧
        PathFinder.mediumCode (oneFiber "SMF_G652D") l = some "SMF_G652D") ∧
      (PathFinder.linkEnd (oneFiber "SMF_G652D") l.aInterfaceId = some "ont" ∧
        PathFinder.linkEnd (oneFiber "SMF_G652D") l.bInterfaceId = some "olt") ∧
      0 ≤ PathFinder.fiberLoss (oneFiber "SMF_G652D") l := by
    decide +kernel
  have holt : ∀ o, isOlt (oneFiber "SMF_G652D") o = true → o = "olt" := by
    intro o ho
    unfold isOlt at ho
    cases hd : (oneFiber "SMF_G652D").getDevice o with
    | none =>
      rw [hd] at ho
      cases ho
    | some d =>
      rw [hd] at ho
      obtain ⟨hmem, rfl⟩ := Database.getDevice_eq_some.mp hd
      exact (hdevices d hmem).2.2 (of_decide_eq_true ho)
  have hsingle : ∀ o o', isOlt (oneFiber "SMF_G652D") o = true →
      isOlt (oneFiber "SMF_G652D") o' = true → o = o' :=
    fun o o' ho ho' ↦ (holt o ho).trans (holt o' ho').symm
  have hbuild : Buildable (oneFiber "SMF_G652D") := by
    intro l hl a b ha hb
    obtain ⟨_, ⟨ha', hb'⟩, _⟩ := hlinks l hl
    rw [ha'] at ha
    rw [hb'] at hb
    cases ha
    cases hb
    decide
  have hprice : ∀ u v l, lastLink (oneFiber "SMF_G652D") u v = some l →
      l.id ≠ "" ∧ l.kind = .fiber ∧ SamePrice (oneFiber "SMF_G652D") l := by
    intro u v l hl
    obtain ⟨⟨hid, hkind, hcode⟩, _, _⟩ := hlinks l (joins_of_lastLink hl).1
    refine ⟨hid, hkind, ?_⟩
    right
    right
    intro code hcode'
    rw [hcode] at hcode'
    cases hcode'
    decide
  have hnonneg : ∀ u v w, attenuation (oneFiber "SMF_G652D") u v = some w → 0 ≤ w := by
    intro u v w hw
    obtain ⟨l, hl, rfl⟩ := Option.map_eq_some_iff.mp hw
    have hloss : insertionLoss (oneFiber "SMF_G652D") v = 0 := by
      unfold insertionLoss
      split
      · next d hd =>
        rw [(hdevices d (Database.getDevice_eq_some.mp hd).1).2.1]
        rfl
      · rfl
    rw [hloss, add_zero]
    exact (hlinks l (joins_of_lastLink hl).1).2.2
  -- the only fiber joins two optical devices, so both graphs are the same
  have hnodes : "ont" ∈ (PathResolver.graph (oneFiber "SMF_G652D")).nodes ∧
      "olt" ∈ (PathResolver.graph (oneFiber "SMF_G652D")).nodes :=
    ⟨PathResolver.mem_nodes.mpr ⟨{ id := "ont", type := .ont }, rfl, rfl⟩,
      PathResolver.mem_nodes.mpr ⟨{ id := "olt", type := .olt }, rfl, rfl⟩⟩
  have hsame : PathResolver.weightFn (oneFiber "SMF_G652D")
      (PathResolver.graph (oneFiber "SMF_G652D")) = attenuation (oneFiber "SMF_G652D") := by
    funext u v
    apply PathResolver.weightFn_eq hbuild
    intro l hl
    obtain ⟨hid, hkind, hsameprice⟩ := hprice u v l hl
    obtain ⟨hmem, hjoins⟩ := joins_of_lastLink hl
    obtain ⟨_, ⟨ha, hb⟩, _⟩ := hlinks l hmem
    rw [JoinsDevices, ha, hb, Option.some.injEq, Option.some.injEq, Option.some.injEq,
      Option.some.injEq] at hjoins
    rcases hjoins with ⟨rfl, rfl⟩ | ⟨rfl, rfl⟩
    · exact ⟨hid, hkind, hsameprice, hnodes.1, hnodes.2⟩
    · exact ⟨hid, hkind, hsameprice, hnodes.2, hnodes.1⟩
  have hfrom : NonnegFrom (edgeWeight ⟨nodes (oneFiber "SMF_G652D"), edges (oneFiber "SMF_G652D")⟩)
      "ont" := by
    rw [edgeWeight_eq]
    exact fun p u d _ v w hw ↦ hnonneg u v w hw
  have hgo := dijkstra_solution (listQueue String ℚ) addedOrder _ hfrom
  rw [edgeWeight_eq] at hgo
  constructor
  · exact hbuild
  · exact hoptical "ont"
  · intro u v l _ _ hl
    obtain ⟨hid, hkind, hsameprice⟩ := hprice u v l hl
    exact ⟨hid, hkind, hsameprice, hoptical v⟩
  · exact fun p u d _ v w hw ↦ hnonneg u v w hw
  · rw [hsame]
    exact fun p u d _ v w hw ↦ hnonneg u v w hw
  · exact TiesDecided.of_single hgo hsingle
  · rw [hsame]
    exact TiesDecided.of_single hgo hsingle

/-- One fiber of a kind that both sides price alike. -/
theorem resolvers_agree_on_single_mode :
    SameOptics (oneFiber "SMF_G652D") "ont" ∧
      Agree (PathFinder.resolveOpticalPath (listQueue String ℚ) addedOrder (oneFiber "SMF_G652D")
          "ont")
        (PathResolver.resolveOpticalPath listDijkstra (oneFiber "SMF_G652D") "ont") :=
  ⟨sameOptics_oneFiber, resolvers_agree_of_sameOptics (listQueue String ℚ) addedOrder listDijkstra
    listDijkstra_correct _ _ sameOptics_oneFiber⟩

/-- Multi-mode fiber has a price on one side and the default price on the other. -/
theorem resolvers_disagree_on_multimode :
    listDijkstra.Correct ∧
      ¬ Agree (PathFinder.resolveOpticalPath (listQueue String ℚ) addedOrder (oneFiber "MMF_OM3")
          "ont")
        (PathResolver.resolveOpticalPath listDijkstra (oneFiber "MMF_OM3") "ont") := by
  refine ⟨listDijkstra_correct, ?_⟩
  rintro ⟨r, hgo, hagree⟩
  have hengine : (match PathFinder.resolveOpticalPath (listQueue String ℚ) addedOrder
      (oneFiber "MMF_OM3") "ont" with
      | .ok r => r.map PathFinder.OpticalPathResult.totalAttenuationDb
      | .error _ => none) = some (7 / 20) := by
    decide +kernel
  have hbackend : (PathResolver.resolveOpticalPath listDijkstra (oneFiber "MMF_OM3") "ont").map
      PathResolver.OpticalPathResult.totalAttenuationDb = some (7 / 2) := by
    decide +kernel
  have hsame := congrArg (Option.map Prod.snd) hagree
  rw [Option.map_map, Option.map_map] at hsame
  rw [hgo] at hengine
  have hdiff : some (7 / 20 : ℚ) = some (7 / 2) := hengine.symm.trans (hsame.trans hbackend)
  rw [Option.some.injEq] at hdiff
  norm_num at hdiff

end Unoc.Optical
