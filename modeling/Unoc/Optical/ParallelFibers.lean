import Unoc.Optical.Optimality
import Unoc.Optical.Resolver

/-!
# Parallel fibers

`buildGraph` keeps one edge for two devices, that of the last link row. The attenuation that is reported is
the least over the routes of single link rows, in every order of the rows, if and only if some route of
least attenuation has no dearer row next to one of its own.
-/

namespace Unoc.Optical

open Unoc.Base Unoc.Base.Dijkstra Unoc.Model Unoc.Optical.PathFinder

/-! ### Routes of link rows -/

/-- A link row that is passed from one device to another. -/
structure Hop where
  src : String
  link : Link
  dst : String

/-- Link rows that lead from an ONT to a device, with their attenuation. -/
inductive LinkRoute (db : Database) (ontId : String) : List Hop → String → ℚ → Prop
  | nil : LinkRoute db ontId [] ontId 0
  | snoc {route : List Hop} {u v : String} {l : Link} {d : ℚ} : LinkRoute db ontId route u d →
      l ∈ db.links → JoinsDevices db u v l →
      LinkRoute db ontId (route ++ [⟨u, l, v⟩]) v (d + (fiberLoss db l + insertionLoss db v))

/-- A route of link rows to an OLT with the least attenuation of all of these. -/
structure LeastLinkRoute (db : Database) (ontId : String) (route : List Hop) (oltId : String) (d : ℚ) :
    Prop where
  route : LinkRoute db ontId route oltId d
  olt : isOlt db oltId = true
  least : ∀ route' oltId' d', LinkRoute db ontId route' oltId' d' → isOlt db oltId' = true → d ≤ d'

/-- An answer without an error reports the least attenuation over link rows, or that no OLT is in reach. -/
def ReportsLeast (db : Database) (ontId : String)
    (answer : Except String (Option PathFinder.OpticalPathResult)) : Prop :=
  ∀ r, answer = .ok r →
    (∀ result, r = some result →
      ∃ route oltId, LeastLinkRoute db ontId route oltId result.totalAttenuationDb) ∧
    (r = none → ∀ route oltId d, LinkRoute db ontId route oltId d → isOlt db oltId = false)

/-- The same rows, with the links in another order. -/
structure Reordered (db db' : Database) : Prop where
  devices : db'.devices = db.devices
  interfaces : db'.interfaces = db.interfaces
  media : db'.physicalMedia = db.physicalMedia
  links : db'.links.Perm db.links

/-- No row of the same two devices is dearer than the one that a hop passes. -/
def NoDearer (db : Database) (hop : Hop) : Prop :=
  ∀ l ∈ db.links, JoinsDevices db hop.src hop.dst l → fiberLoss db l ≤ fiberLoss db hop.link

/-- Neither a length nor an insertion loss is negative. -/
structure NonnegRows (db : Database) : Prop where
  length : ∀ l ∈ db.links, ∀ km ∈ l.lengthKm, 0 ≤ km
  insertion : ∀ d ∈ db.devices, ∀ loss ∈ d.insertionLossDb, 0 ≤ loss

/-! ### Other orders -/

section Reorder

variable {db db' : Database} (h : Reordered db db')

include h

private theorem Reordered.joinsDevices : JoinsDevices db' = JoinsDevices db := by
  unfold JoinsDevices linkEnd Database.getInterface
  rw [h.interfaces]

private theorem Reordered.fiberLoss : PathFinder.fiberLoss db' = PathFinder.fiberLoss db := by
  funext l
  unfold PathFinder.fiberLoss mediumCode Database.getPhysicalMedium
  rw [h.media]

private theorem Reordered.insertionLoss : Optical.insertionLoss db' = Optical.insertionLoss db := by
  funext v
  unfold Optical.insertionLoss Database.getDevice
  rw [h.devices]

private theorem Reordered.isOlt : Optical.isOlt db' = Optical.isOlt db := by
  funext v
  unfold Optical.isOlt Database.getDevice
  rw [h.devices]

private theorem Reordered.symm : Reordered db' db :=
  ⟨h.devices.symm, h.interfaces.symm, h.media.symm, h.links.symm⟩

private theorem Reordered.linkRoute {ontId v : String} {route : List Hop} {d : ℚ}
    (hroute : LinkRoute db ontId route v d) : LinkRoute db' ontId route v d := by
  induction hroute with
  | nil => exact .nil
  | snoc _ hl hjoins ih =>
    have hstep := ih.snoc (h.links.mem_iff.mpr hl) (h.joinsDevices ▸ hjoins)
    rw [h.fiberLoss, h.insertionLoss] at hstep
    exact hstep

private theorem Reordered.buildable (hbuild : Buildable db) : Buildable db' := by
  intro l hl a b ha hb
  have hget : db'.getDevice = db.getDevice := by
    unfold Database.getDevice
    rw [h.devices]
  unfold linkEnd Database.getInterface at ha hb
  rw [h.interfaces] at ha hb
  rw [hget]
  exact hbuild l (h.links.mem_iff.mp hl) a b ha hb

private theorem Reordered.nonnegRows (hrows : NonnegRows db) : NonnegRows db' :=
  ⟨fun l hl ↦ hrows.length l (h.links.mem_iff.mp hl),
    fun d hd ↦ hrows.insertion d (h.devices ▸ hd)⟩

end Reorder

/-! ### Routes and walks over last links -/

section Routes

variable {db : Database} {ontId : String}

/-- The last links of a walk are a route. -/
theorem linkRoute_of_walk {path : List String} {v : String} {d : ℚ}
    (hwalk : Walk (attenuation db) ontId path v d) :
    ∃ route, LinkRoute db ontId route v d ∧ ∀ hop ∈ route, lastLink db hop.src hop.dst = some hop.link := by
  induction hwalk with
  | nil => exact ⟨[], .nil, fun hop hmem ↦ by cases hmem⟩
  | @snoc path u v d w _ hw ih =>
    obtain ⟨route, hroute, hlast⟩ := ih
    obtain ⟨l, hl, rfl⟩ := Option.map_eq_some_iff.mp hw
    obtain ⟨hmem, hjoins⟩ := joins_of_lastLink hl
    refine ⟨route ++ [⟨u, l, v⟩], hroute.snoc hmem hjoins, ?_⟩
    intro hop hhop
    rcases List.mem_append.mp hhop with hhop | hhop
    · exact hlast hop hhop
    · rw [List.mem_singleton.mp hhop]
      exact hl

private theorem exists_lastLink {u v : String} {l : Link} (hl : l ∈ db.links)
    (hjoins : JoinsDevices db u v l) :
    ∃ l', lastLink db u v = some l' := by
  apply Option.isSome_iff_exists.mp
  rw [lastLink, List.find?_isSome]
  exact ⟨l, List.mem_reverse.mpr hl, decide_eq_true hjoins⟩

/-- Along every route there is a walk over the last links. -/
theorem exists_walk_of_linkRoute {route : List Hop} {v : String} {d : ℚ}
    (hroute : LinkRoute db ontId route v d) : ∃ path d', Walk (attenuation db) ontId path v d' := by
  induction hroute with
  | nil => exact ⟨[ontId], 0, .nil⟩
  | @snoc route u v l d _ hl hjoins ih =>
    obtain ⟨path, d', hwalk⟩ := ih
    obtain ⟨l', hl'⟩ := exists_lastLink hl hjoins
    have hw : attenuation db u v = some (fiberLoss db l' + insertionLoss db v) := by
      rw [attenuation, hl', Option.map_some]
    exact ⟨_, _, hwalk.snoc hw⟩

/-- It is no dearer where the route has no dearer rows next to its own. -/
theorem walk_of_linkRoute {route : List Hop} {v : String} {d : ℚ}
    (hroute : LinkRoute db ontId route v d) (hdearer : ∀ hop ∈ route, NoDearer db hop) :
    ∃ path d', Walk (attenuation db) ontId path v d' ∧ d' ≤ d := by
  induction hroute with
  | nil => exact ⟨[ontId], 0, .nil, le_refl 0⟩
  | @snoc route u v l d _ hl hjoins ih =>
    obtain ⟨path, d', hwalk, hle⟩ := ih (fun hop hmem ↦ hdearer hop (List.mem_append_left _ hmem))
    obtain ⟨l', hl'⟩ := exists_lastLink hl hjoins
    obtain ⟨hmem, hjoins'⟩ := joins_of_lastLink hl'
    have hw : attenuation db u v = some (fiberLoss db l' + insertionLoss db v) := by
      rw [attenuation, hl', Option.map_some]
    have hlast : fiberLoss db l' ≤ fiberLoss db l := hdearer ⟨u, l, v⟩ (by simp) l' hmem hjoins'
    exact ⟨_, _, hwalk.snoc hw, by gcongr⟩

end Routes

/-! ### What is reported -/

section Report

variable {db : Database} {ontId : String}

private theorem attenuationRate_nonneg (code : String) : 0 ≤ attenuationRate code := by
  have htable : ∀ entry ∈ fiberAttenuationDb, 0 ≤ entry.2 := by decide +kernel
  have hdefault : 0 ≤ (fiberAttenuationDb.lookup "FIBER_DEFAULT").getD 0 := by decide +kernel
  unfold attenuationRate
  cases hlookup : fiberAttenuationDb.lookup code with
  | none => exact hdefault
  | some rate =>
    obtain ⟨front, back, htab, _⟩ := List.lookup_eq_some_iff.mp hlookup
    exact htable (code, rate) (by rw [htab]; simp)

private theorem NonnegRows.fiberLoss (hrows : NonnegRows db) {l : Link} (hl : l ∈ db.links) :
    0 ≤ PathFinder.fiberLoss db l := by
  unfold PathFinder.fiberLoss
  split
  · next km code hkm _ => exact mul_nonneg (hrows.length l hl km hkm) (attenuationRate_nonneg code)
  · exact le_refl 0

private theorem NonnegRows.nonnegLosses (hrows : NonnegRows db) :
    NonnegLosses ⟨nodes db, edges db⟩ := by
  constructor
  · intro u v edge hedge
    have hmap : ((edges db).lookup (u, v)).map Edge.fiberLossDb =
        ((lastLink db u v).bind (linkEdge db)).map Edge.fiberLossDb :=
      lookup_edges_map Edge.fiberLossDb (fun _ ↦ rfl) u v
    rw [hedge, Option.map_some] at hmap
    obtain ⟨edge', hbind, hloss⟩ := Option.map_eq_some_iff.mp hmap.symm
    obtain ⟨l, hl, hle⟩ := Option.bind_eq_some_iff.mp hbind
    rw [← hloss, (linkEdge_eq_some hle).2.2.1]
    exact hrows.fiberLoss (joins_of_lastLink hl).1
  · intro id node hnode
    have hlookup : (nodes db).lookup id = some node := hnode
    rw [lookup_nodes] at hlookup
    obtain ⟨d, hd, rfl⟩ := Option.map_eq_some_iff.mp hlookup
    unfold makeNode
    cases hloss : d.insertionLossDb with
    | none => exact le_refl 0
    | some loss => exact hrows.insertion d (Database.getDevice_eq_some.mp hd).1 loss hloss

/-- An edge that was added has ends among the nodes, which stay as they are. -/
theorem ends_of_addEdge {g g' : Graph} {e : Edge} (h : g.addEdge e = .ok g') :
    (e.sourceId ≠ "" ∧ e.sourceId ∈ g.nodes) ∧ (e.targetId ≠ "" ∧ e.targetId ∈ g.nodes) ∧
      g'.nodes = g.nodes := by
  obtain ⟨hs, ht, rfl⟩ := Resolver.addEdge_eq_ok h
  have hempty : ¬ (e.sourceId = "" ∨ e.targetId = "") := by
    intro hempty
    rw [Graph.addEdge, if_pos hempty] at h
    cases h
  rw [not_or] at hempty
  exact ⟨⟨hempty.1, hs⟩, ⟨hempty.2, ht⟩, rfl⟩

/-- The graph only builds where every link end is a device row. -/
theorem buildable_of_buildGraph {g : Graph} (h : buildGraph db = .ok g) : Buildable db := by
  have hfold : ∀ (add : Graph → Edge → Except String Graph),
      (∀ g e g', add g e = .ok g' → g.addEdge e = .ok g') →
      ∀ (es : List Edge) (g g' : Graph), es.foldlM add g = .ok g' → ∀ e ∈ es,
        (e.sourceId ≠ "" ∧ e.sourceId ∈ g.nodes) ∧ e.targetId ≠ "" ∧ e.targetId ∈ g.nodes := by
    intro add hadd es
    induction es with
    | nil =>
      intro g g' _ e he
      cases he
    | cons x es ih =>
      intro g g' hg e he
      rw [List.foldlM_cons] at hg
      cases hx : add g x with
      | error message =>
        rw [hx] at hg
        cases hg
      | ok g₁ =>
        rw [hx] at hg
        obtain ⟨hs, ht, hnodes⟩ := ends_of_addEdge (hadd g x g₁ hx)
        rcases List.mem_cons.mp he with rfl | he
        · exact ⟨hs, ht⟩
        · rw [← hnodes]
          exact ih g₁ g' hg e he
  have hends := hfold _ (fun g e g' hadd ↦ ?_) _ _ _ h
  · intro l hl a b ha hb
    obtain ⟨e, he⟩ := exists_linkEdge (Or.inl ⟨ha, hb⟩)
    obtain ⟨ha', hb', _⟩ := linkEdge_eq_some he
    obtain ⟨⟨hane, hamem⟩, hbne, hbmem⟩ := hends e (List.mem_filterMap.mpr ⟨l, hl, he⟩)
    obtain rfl : a = e.sourceId := Option.some.inj (ha.symm.trans ha')
    obtain rfl : b = e.targetId := Option.some.inj (hb.symm.trans hb')
    exact ⟨⟨hane, mem_nodes.mp hamem⟩, hbne, mem_nodes.mp hbmem⟩
  · split at hadd
    · next heq => exact heq.trans hadd
    · cases hadd

variable (hbuild : Buildable db)

include hbuild

private theorem resolveOpticalPath_of_buildable (q : PriorityQueue String ℚ) (order : MapOrder) :
    PathFinder.resolveOpticalPath q order db ontId =
      .ok (resolveInGraph q order storedOrder ⟨nodes db, edges db⟩ ontId) := by
  rw [resolveOpticalPath_eq q order storedOrder, buildGraph_eq hbuild]
  rfl

variable (hrows : NonnegRows db)

include hrows

/-- A reported attenuation is the least of the walks over last links to OLTs. -/
theorem reported_eq_some {q : PriorityQueue String ℚ} {order : MapOrder}
    {r : PathFinder.OpticalPathResult}
    (h : PathFinder.resolveOpticalPath q order db ontId = .ok (some r)) :
    isOlt db r.oltId = true ∧
      (∃ path, Walk (attenuation db) ontId path r.oltId r.totalAttenuationDb) ∧
        ∀ path oltId d, Walk (attenuation db) ontId path oltId d → isOlt db oltId = true →
          r.totalAttenuationDb ≤ d := by
  have holt : PathFinder.isOlt ⟨nodes db, edges db⟩ = isOlt db := funext PathFinder.isOlt_eq
  rw [resolveOpticalPath_of_buildable hbuild, Except.ok.injEq, resolveInGraph_eq] at h
  split at h
  · cases h
  · obtain ⟨c, hc, rfl⟩ := Option.map_eq_some_iff.mp h
    obtain ⟨hcand, hnearest⟩ := bestIn_eq_some q order hrows.nonnegLosses hc
    rw [edgeWeight_eq, holt] at hcand hnearest
    exact ⟨hcand.olt, ⟨c.path, hcand.shortest.walk⟩,
      fun path oltId d hwalk holt ↦ hnearest.least oltId path d holt hwalk⟩

/-- No attenuation is reported only if no walk over last links leads to an OLT. -/
theorem reported_eq_none {q : PriorityQueue String ℚ} {order : MapOrder}
    (h : PathFinder.resolveOpticalPath q order db ontId = .ok none) {path : List String}
    {oltId : String} {d : ℚ} (hwalk : Walk (attenuation db) ontId path oltId d) :
    isOlt db oltId = false := by
  rw [resolveOpticalPath_of_buildable hbuild, Except.ok.injEq, resolveInGraph_eq] at h
  rw [← PathFinder.isOlt_eq]
  split at h
  · next hont =>
    by_contra holt
    have hdevice : (db.getDevice ontId).isSome := by
      rcases hwalk.eq_or_edge with rfl | ⟨u, w, hw⟩
      · rw [PathFinder.isOlt_eq, isOlt] at holt
        cases hd : db.getDevice oltId with
        | none => simp [hd] at holt
        | some _ => rfl
      · obtain ⟨l, hl, _⟩ := Option.map_eq_some_iff.mp hw
        obtain ⟨hmem, ⟨ha, hb⟩ | ⟨hb, ha⟩⟩ := joins_of_lastLink hl
        · exact (hbuild l hmem _ _ ha hb).1.2
        · exact (hbuild l hmem _ _ ha hb).2.2
    exact hont (mem_nodes.mpr hdevice)
  · rw [Option.map_eq_none_iff, bestIn_eq_none q order hrows.nonnegLosses] at h
    rw [← edgeWeight_eq] at hwalk
    exact h _ _ (segmentPath_of_walk hwalk).1

end Report

/-! ### Every order of the rows -/

section Orders

variable {db : Database}

private theorem fiberLoss_trans : IsTrans Link (fun a b ↦ fiberLoss db a ≤ fiberLoss db b) :=
  ⟨fun _ _ _ hab hbc ↦ le_trans hab hbc⟩

/-- The links with the dearest last. -/
def dearestLast (db : Database) : Database :=
  { db with
    links := db.links.insertionSort (fun a b ↦ fiberLoss db a ≤ fiberLoss db b)
    links_nodup := ((List.perm_insertionSort _ _).map Link.id).nodup_iff.mpr db.links_nodup }

private theorem reordered_dearestLast : Reordered db (dearestLast db) :=
  ⟨rfl, rfl, rfl, List.perm_insertionSort _ _⟩

/-- Where the dearest links come last, the last link of two devices is a dearest one. -/
theorem le_of_lastLink_dearestLast {u v : String} {l l' : Link}
    (hl : lastLink (dearestLast db) u v = some l) (hl' : l' ∈ db.links)
    (hjoins : JoinsDevices db u v l') : fiberLoss db l' ≤ fiberLoss db l := by
  have hsorted : (dearestLast db).links.reverse.Pairwise (fun a b ↦ fiberLoss db b ≤ fiberLoss db a) := by
    rw [List.pairwise_reverse]
    have : IsTrans Link (fun a b ↦ fiberLoss db a ≤ fiberLoss db b) := fiberLoss_trans
    have : Std.Total (fun a b : Link ↦ fiberLoss db a ≤ fiberLoss db b) := ⟨fun a b ↦ le_total _ _⟩
    exact List.pairwise_insertionSort _ _
  obtain ⟨_, front, back, hsplit, hfront⟩ := List.find?_eq_some_iff_append.mp hl
  have hmem : l' ∈ (dearestLast db).links.reverse :=
    List.mem_reverse.mpr ((List.perm_insertionSort _ _).mem_iff.mpr hl')
  rw [hsplit] at hmem hsorted
  rcases List.mem_append.mp hmem with hmem | hmem
  · have hjoins' : JoinsDevices (dearestLast db) u v l' := by
      rw [reordered_dearestLast.joinsDevices]
      exact hjoins
    have hno := hfront l' hmem
    simp [hjoins'] at hno
  · rcases List.mem_cons.mp hmem with rfl | hmem
    · exact le_refl _
    · exact List.rel_of_pairwise_cons (List.pairwise_append.mp hsorted).2.1 hmem

variable (hrows : NonnegRows db)

include hrows

/-- With a route of least attenuation next to which no row is dearer, every order of the rows reports the
least attenuation. -/
theorem reportsLeast_of_noDearer {ontId : String}
    (hroute : Buildable db → (∃ route oltId d, LinkRoute db ontId route oltId d ∧ isOlt db oltId = true) →
      ∃ route oltId d, LeastLinkRoute db ontId route oltId d ∧ ∀ hop ∈ route, NoDearer db hop)
    {db' : Database} (h : Reordered db db') (q : PriorityQueue String ℚ) (order : MapOrder) :
    ReportsLeast db ontId (PathFinder.resolveOpticalPath q order db' ontId) := by
  intro r hr
  have hbuild' : Buildable db' := by
    rw [resolveOpticalPath_eq q order storedOrder] at hr
    cases hg : buildGraph db' with
    | ok g => exact buildable_of_buildGraph hg
    | error message =>
      rw [hg] at hr
      cases hr
  have hbuild : Buildable db := h.symm.buildable hbuild'
  have hrows' := h.nonnegRows hrows
  constructor
  · rintro result rfl
    obtain ⟨holt, ⟨path, hwalk⟩, hleast⟩ := reported_eq_some hbuild' hrows' hr
    rw [h.isOlt] at holt hleast
    obtain ⟨route, hroute', _⟩ := linkRoute_of_walk hwalk
    refine ⟨route, result.oltId, h.symm.linkRoute hroute', holt, ?_⟩
    intro route₁ oltId₁ d₁ hroute₁ holt₁
    obtain ⟨route₂, oltId₂, d₂, hleast₂, hdearer⟩ := hroute hbuild ⟨_, _, _, hroute₁, holt₁⟩
    have hdearer' : ∀ hop ∈ route₂, NoDearer db' hop := by
      intro hop hmem l hl hjoins
      rw [h.fiberLoss]
      rw [h.joinsDevices] at hjoins
      exact hdearer hop hmem l (h.links.mem_iff.mp hl) hjoins
    obtain ⟨_, d₃, hwalk₃, hle⟩ := walk_of_linkRoute (h.linkRoute hleast₂.route) hdearer'
    calc result.totalAttenuationDb ≤ d₃ := hleast _ _ _ hwalk₃ hleast₂.olt
      _ ≤ d₂ := hle
      _ ≤ d₁ := hleast₂.least _ _ _ hroute₁ holt₁
  · rintro rfl route oltId d hroute'
    obtain ⟨_, _, hwalk⟩ := exists_walk_of_linkRoute (h.linkRoute hroute')
    rw [← h.isOlt]
    exact reported_eq_none hbuild' hrows' hr hwalk

/-- The order with the dearest links last reports the least attenuation only with such a route. -/
theorem noDearer_of_reportsLeast {ontId : String} {q : PriorityQueue String ℚ} {order : MapOrder}
    (h : ReportsLeast db ontId (PathFinder.resolveOpticalPath q order (dearestLast db) ontId))
    (hbuild : Buildable db)
    (hex : ∃ route oltId d, LinkRoute db ontId route oltId d ∧ isOlt db oltId = true) :
    ∃ route oltId d, LeastLinkRoute db ontId route oltId d ∧ ∀ hop ∈ route, NoDearer db hop := by
  have hre : Reordered db (dearestLast db) := reordered_dearestLast
  have hbuild' := hre.buildable hbuild
  have hrows' := hre.nonnegRows hrows
  have hanswer : PathFinder.resolveOpticalPath q order (dearestLast db) ontId =
      .ok (resolveInGraph q order storedOrder ⟨nodes (dearestLast db), edges (dearestLast db)⟩
        ontId) := resolveOpticalPath_of_buildable hbuild' q order
  obtain ⟨hsome, hnone⟩ := h _ hanswer
  cases hr : resolveInGraph q order storedOrder ⟨nodes (dearestLast db), edges (dearestLast db)⟩ ontId with
  | none =>
    obtain ⟨route, oltId, d, hroute, holt⟩ := hex
    rw [hnone hr route oltId d hroute] at holt
    cases holt
  | some result =>
    rw [hr] at hanswer
    obtain ⟨holt, ⟨path, hwalk⟩, _⟩ := reported_eq_some hbuild' hrows' hanswer
    obtain ⟨route, hroute, hlast⟩ := linkRoute_of_walk hwalk
    obtain ⟨_, _, hleast⟩ := hsome result hr
    refine ⟨route, result.oltId, result.totalAttenuationDb,
      ⟨hre.symm.linkRoute hroute, hre.isOlt ▸ holt, hleast.least⟩, ?_⟩
    intro hop hmem l hl hjoins
    exact le_of_lastLink_dearestLast (hlast hop hmem) hl hjoins

/-- Every order of the link rows reports the least attenuation of the routes of single rows, if and only if
the ONT has no such route or some least one has no dearer row next to one of its own. -/
theorem reportsLeast_iff (ontId : String) :
    (∀ db', Reordered db db' → ∀ q order,
      ReportsLeast db ontId (PathFinder.resolveOpticalPath q order db' ontId)) ↔
    (Buildable db → (∃ route oltId d, LinkRoute db ontId route oltId d ∧ isOlt db oltId = true) →
      ∃ route oltId d, LeastLinkRoute db ontId route oltId d ∧ ∀ hop ∈ route, NoDearer db hop) := by
  constructor
  · intro hall hbuild hex
    exact noDearer_of_reportsLeast hrows
      (hall _ reordered_dearestLast (listQueue String ℚ) addedOrder) hbuild hex
  · intro hroute db' h q order
    exact reportsLeast_of_noDearer hrows hroute h q order

end Orders

/-! ### Two fibers -/

/-- Prices that no row undercuts are below the attenuation of each route. -/
theorem LinkRoute.price_le {db : Database} {ontId v : String} (price : String → ℚ)
    (hont : price ontId ≤ 0)
    (hrows : ∀ l ∈ db.links, ∀ u v, JoinsDevices db u v l →
      price v ≤ price u + (fiberLoss db l + insertionLoss db v))
    {route : List Hop} {d : ℚ} (h : LinkRoute db ontId route v d) : price v ≤ d := by
  induction h with
  | nil => exact hont
  | snoc _ hl hjoins ih => exact (hrows _ hl _ _ hjoins).trans (by gcongr)

/-- An ODF with two fibers of one length to an OLT, and a longer one to another OLT. -/
def evenFibers : Database where
  devices := [{ id := "ont", type := .ont }, { id := "odf", type := .odf }, { id := "olt", type := .olt },
    { id := "far", type := .olt }]
  interfaces := [{ id := "ont-p1", deviceId := "ont", name := "p1" },
    { id := "odf-p1", deviceId := "odf", name := "p1" },
    { id := "odf-p2", deviceId := "odf", name := "p2" },
    { id := "odf-p3", deviceId := "odf", name := "p3" },
    { id := "odf-p4", deviceId := "odf", name := "p4" },
    { id := "olt-p1", deviceId := "olt", name := "p1" },
    { id := "olt-p2", deviceId := "olt", name := "p2" },
    { id := "far-p1", deviceId := "far", name := "p1" }]
  links := [
    { id := "drop", aInterfaceId := "ont-p1", bInterfaceId := "odf-p1", lengthKm := some 1
      physicalMediumId := some 1 },
    { id := "first", aInterfaceId := "odf-p2", bInterfaceId := "olt-p1", lengthKm := some 1
      physicalMediumId := some 1 },
    { id := "second", aInterfaceId := "odf-p3", bInterfaceId := "olt-p2", lengthKm := some 1
      physicalMediumId := some 1 },
    { id := "long", aInterfaceId := "odf-p4", bInterfaceId := "far-p1", lengthKm := some 10
      physicalMediumId := some 1 }]
  physicalMedia := [{ id := 1, code := "SMF_G652D", kind := "optical" }]

private theorem price_evenFibers {route : List Hop} {v : String} {d : ℚ}
    (h : LinkRoute evenFibers "ont" route v d) :
    (if v = "ont" then 0 else if v = "odf" then 7 / 20 else 7 / 10) ≤ d := by
  have hends : ∀ l ∈ evenFibers.links, ∀ a ∈ linkEnd evenFibers l.aInterfaceId,
      ∀ b ∈ linkEnd evenFibers l.bInterfaceId, ∀ e ∈ [(a, b), (b, a)],
        (if e.2 = "ont" then 0 else if e.2 = "odf" then (7 / 20 : ℚ) else 7 / 10) ≤
          (if e.1 = "ont" then 0 else if e.1 = "odf" then 7 / 20 else 7 / 10) +
            (fiberLoss evenFibers l + insertionLoss evenFibers e.2) := by
    decide +kernel
  refine h.price_le (fun v ↦ if v = "ont" then 0 else if v = "odf" then 7 / 20 else 7 / 10)
    (le_refl 0) ?_
  intro l hl u v hjoins
  rcases hjoins with ⟨hu, hv⟩ | ⟨hu, hv⟩
  · exact hends l hl u hu v hv (u, v) List.mem_cons_self
  · exact hends l hl v hv u hu (u, v) (by simp)

/-- The same rows, with the links from the last to the first. -/
def evenFibersReversed : Database :=
  { evenFibers with
    links := evenFibers.links.reverse
    links_nodup := by
      rw [List.map_reverse]
      exact List.nodup_reverse.mpr evenFibers.links_nodup }

/-- Two fibers of one length: the least attenuation is reported, here with the rows in reverse. -/
theorem reportsLeast_evenFibers :
    ReportsLeast evenFibers "ont"
      (PathFinder.resolveOpticalPath (listQueue String ℚ) addedOrder evenFibersReversed "ont") := by
  obtain ⟨drop, hdrop, hjoins, hdropLoss, hdropOnly⟩ : ∃ l ∈ evenFibers.links,
      JoinsDevices evenFibers "ont" "odf" l ∧ fiberLoss evenFibers l = 7 / 20 ∧
        ∀ l' ∈ evenFibers.links, JoinsDevices evenFibers "ont" "odf" l' →
          fiberLoss evenFibers l' ≤ 7 / 20 := by
    decide +kernel
  obtain ⟨feeder, hfeeder, hjoins', hfeederLoss, hfeederEven⟩ : ∃ l ∈ evenFibers.links,
      JoinsDevices evenFibers "odf" "olt" l ∧ fiberLoss evenFibers l = 7 / 20 ∧
        ∀ l' ∈ evenFibers.links, JoinsDevices evenFibers "odf" "olt" l' →
          fiberLoss evenFibers l' ≤ 7 / 20 := by
    decide +kernel
  have hloss : insertionLoss evenFibers "odf" = 0 ∧ insertionLoss evenFibers "olt" = 0 := by
    decide +kernel
  have hroute := ((LinkRoute.nil : LinkRoute evenFibers "ont" [] "ont" 0).snoc hdrop hjoins).snoc
    hfeeder hjoins'
  have hrows : NonnegRows evenFibers := ⟨by decide +kernel, by decide +kernel⟩
  have horder : Reordered evenFibers evenFibersReversed := ⟨rfl, rfl, rfl, List.reverse_perm _⟩
  refine (reportsLeast_iff hrows "ont").mpr (fun _ _ ↦ ?_) _ horder _ _
  refine ⟨_, "olt", _, ⟨hroute, by decide +kernel, ?_⟩, ?_⟩
  · intro route' oltId' d' hroute' holt'
    have hprice := price_evenFibers hroute'
    have hont : oltId' ≠ "ont" := by
      rintro rfl
      exact absurd holt' (by decide +kernel)
    have hodf : oltId' ≠ "odf" := by
      rintro rfl
      exact absurd holt' (by decide +kernel)
    rw [if_neg hont, if_neg hodf] at hprice
    rw [hdropLoss, hfeederLoss, hloss.1, hloss.2]
    exact le_trans (by norm_num) hprice
  · intro hop hmem
    rcases List.mem_cons.mp hmem with rfl | hmem
    · intro l' hl' hjoins''
      exact (hdropOnly l' hl' hjoins'').trans hdropLoss.ge
    · obtain rfl := List.mem_singleton.mp hmem
      intro l' hl' hjoins''
      exact (hfeederEven l' hl' hjoins'').trans hfeederLoss.ge

/-- An ODF with a short and a long fiber to the OLT; the row of the long one comes last. -/
def shortAndLong : Database where
  devices := [{ id := "ont", type := .ont }, { id := "odf", type := .odf }, { id := "olt", type := .olt }]
  interfaces := [{ id := "ont-p1", deviceId := "ont", name := "p1" },
    { id := "odf-p1", deviceId := "odf", name := "p1" },
    { id := "odf-p2", deviceId := "odf", name := "p2" },
    { id := "odf-p3", deviceId := "odf", name := "p3" },
    { id := "olt-p1", deviceId := "olt", name := "p1" },
    { id := "olt-p2", deviceId := "olt", name := "p2" }]
  links := [
    { id := "drop", aInterfaceId := "ont-p1", bInterfaceId := "odf-p1", lengthKm := some 1
      physicalMediumId := some 1 },
    { id := "short", aInterfaceId := "odf-p2", bInterfaceId := "olt-p1", lengthKm := some 1
      physicalMediumId := some 1 },
    { id := "long", aInterfaceId := "odf-p3", bInterfaceId := "olt-p2", lengthKm := some 10
      physicalMediumId := some 1 }]
  physicalMedia := [{ id := 1, code := "SMF_G652D", kind := "optical" }]

/-- The attenuation over the long fiber is reported. -/
theorem long_fiber_reported : NonnegRows shortAndLong ∧
    ¬ ReportsLeast shortAndLong "ont"
      (PathFinder.resolveOpticalPath (listQueue String ℚ) addedOrder shortAndLong "ont") := by
  refine ⟨⟨by decide +kernel, by decide +kernel⟩, ?_⟩
  intro hreports
  have htotal : (PathFinder.resolveOpticalPath (listQueue String ℚ) addedOrder shortAndLong
      "ont").toOption.join.map PathFinder.OpticalPathResult.totalAttenuationDb = some (77 / 20) := by
    decide +kernel
  obtain ⟨drop, hdrop, hjoins, hdropLoss⟩ : ∃ l ∈ shortAndLong.links,
      JoinsDevices shortAndLong "ont" "odf" l ∧ fiberLoss shortAndLong l = 7 / 20 := by decide +kernel
  obtain ⟨short, hshort, hjoins', hshortLoss⟩ : ∃ l ∈ shortAndLong.links,
      JoinsDevices shortAndLong "odf" "olt" l ∧ fiberLoss shortAndLong l = 7 / 20 := by decide +kernel
  have hroute := ((LinkRoute.nil : LinkRoute shortAndLong "ont" [] "ont" 0).snoc hdrop hjoins).snoc
    hshort hjoins'
  have hloss : insertionLoss shortAndLong "odf" = 0 ∧ insertionLoss shortAndLong "olt" = 0 := by
    decide +kernel
  cases hanswer : PathFinder.resolveOpticalPath (listQueue String ℚ) addedOrder shortAndLong "ont" with
  | error message =>
    rw [hanswer] at htotal
    cases htotal
  | ok r =>
    rw [hanswer] at htotal
    obtain ⟨result, hresult, hvalue⟩ := Option.map_eq_some_iff.mp htotal
    obtain ⟨_, _, hleast⟩ := (hreports r hanswer).1 result hresult
    have hle := hleast.least _ _ _ hroute (by decide +kernel)
    rw [hvalue, hdropLoss, hshortLoss, hloss.1, hloss.2] at hle
    exact absurd hle (by norm_num)

end Unoc.Optical
