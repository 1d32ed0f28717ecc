import Unoc.Status.OpticalSearch

/-!
# Collapsed access edges

`build_logical_graph` of `backend/services/pathfinding.py:168–290` joins every ONT to the OLT at the
end of its least path over a second optical adjacency, which takes any link between optical devices
and any optical device between the ends.
-/

namespace Unoc.Pathfinding.Collapse

open Unoc.Base Unoc.Model
open Unoc.Status (DeviceRecord recordIds logicalActive opticalType ontClass passiveInline Adjacent
  shortestOpticalOlt shortestOpticalOlt_eq_some_iff exists_leastWalkTo IsTarget)

/-! ### Records -/

/-- `LinkRecord`, whose kind may be a raw kind or a class; `pathfinding.py:67–74`. -/
structure LinkRecord where
  id : String
  aDeviceId : String
  bDeviceId : String
  kind : String
  deriving DecidableEq, Repr

/-- `OPTICAL_EDGE_CLASSES`; `pathfinding.py:49`. -/
def opticalEdgeClasses : List String := ["optical_segment", "optical_termination"]

/-- `LOGICAL_EDGE_CLASSES`; `pathfinding.py:50`. -/
def logicalEdgeClasses : List String := ["routed_p2p", "access_edge", "access_optical_term"]

/-- `LOGICAL_ANCHORS`; `pathfinding.py:38`. -/
def logicalAnchor (type : DeviceType) : Bool := type = .backboneGateway || type = .coreRouter

section Graphs

variable (devices : List DeviceRecord) (links : List LinkRecord)

/-- The type of a node among records of some types; of equal ids the last record counts. -/
def nodeType (keep : DeviceType → Bool) (id : String) : Option DeviceType :=
  ((devices.filter (fun d ↦ keep d.type && d.id = id)).getLast?).map DeviceRecord.type

/-- The links whose ends are nodes of types that `accept` admits, as edges. -/
def edgesWhere (keep : DeviceType → Bool) (accept : String → DeviceType → DeviceType → Bool) :
    List (String × String) :=
  (links.filter (fun l ↦
    match nodeType devices keep l.aDeviceId, nodeType devices keep l.bDeviceId with
    | some aType, some bType => accept l.kind aType bType
    | _, _ => false)).map (fun l ↦ (l.aDeviceId, l.bDeviceId))

/-- A link that the optical graph accepts; `pathfinding.py:145–164`. -/
def acceptsOptical (kind : String) (aType bType : DeviceType) : Bool :=
  kind ∈ opticalEdgeClasses ||
    (kind = "FIBER" && (((aType = .olt || bType = .olt) && (ontClass aType || ontClass bType)) ||
      (opticalType aType && opticalType bType)))

/-- The edges of `build_optical_graph`; `pathfinding.py:133–165`. -/
def buildOpticalGraph : List (String × String) :=
  edgesWhere devices links opticalType acceptsOptical

/-- A link that the logical graph accepts; `pathfinding.py:180–203`. -/
def acceptsLogical (kind : String) (aType bType : DeviceType) : Bool :=
  kind ∈ logicalEdgeClasses ||
    (kind = "FIBER" && (logicalActive aType || logicalAnchor aType) &&
      (logicalActive bType || logicalAnchor bType)) ||
    kind = "P2P"

/-- The edges of links; `pathfinding.py:171–203`. -/
def directEdges : List (String × String) := edgesWhere devices links logicalActive acceptsLogical

/-- `opt_adj`: "treat all qualifying raw kinds as usable"; `pathfinding.py:211–227`. -/
def optAdj : List (String × String) := edgesWhere devices links opticalType (fun _ _ _ ↦ true)

/-- `olt_ids`; `pathfinding.py:265`. -/
def oltIds : List String :=
  (recordIds opticalType devices).filter (fun id ↦ nodeType devices opticalType id = some .olt)

/-- The ids of `optical_nodes` with the type of an ONT; `pathfinding.py:267–268`. -/
def ontIds : List String :=
  (recordIds opticalType devices).filter (fun id ↦ (nodeType devices opticalType id).any ontClass)

/-- `g.has_edge` over `g.nodes`, before an edge is added; `pathfinding.py:273–278`. -/
def mayJoin (g : List (String × String)) (ont olt : String) : Bool :=
  ont ∈ recordIds logicalActive devices && olt ∈ recordIds logicalActive devices &&
    !(g.contains (ont, olt) || g.contains (olt, ont))

/-- The edge of one ONT, if its search finds an OLT; `pathfinding.py:267–287`. -/
def addCollapsed (g : List (String × String)) (ont : String) : List (String × String) :=
  match shortestOpticalOlt (optAdj devices links) (oltIds devices) ont with
  | none => g
  | some olt => if mayJoin devices g ont olt then g ++ [(ont, olt)] else g

/-- The edges of `build_logical_graph` with `relaxed=False`; `pathfinding.py:168–290`. -/
def buildLogicalGraph : List (String × String) :=
  (ontIds devices).foldl (addCollapsed devices links) (directEdges devices links)

/-! ### The rule -/

/-- A path over links of the optical graph from a device to an OLT, between which all devices are
passive inline. -/
structure OpticalPath (ont : String) (p : List String) : Prop where
  walk : ∃ olt, IsTarget (oltIds devices) ont olt ∧
      Walk (Adjacent (buildOpticalGraph devices links)) ont olt p
  inline : ∀ x ∈ p.tail.dropLast, (nodeType devices opticalType x).any passiveInline = true

/-- The shortest of these paths, and the lexicographically least among the shortest. -/
structure LeastOpticalPath (ont : String) (p : List String) : Prop where
  path : OpticalPath devices links ont p
  least : ∀ q, OpticalPath devices links ont q → pathRank p ≤ pathRank q

/-- An ONT without a link edge to an OLT. -/
structure Collapses (ont : String) : Prop where
  member : ont ∈ ontIds devices
  indirect : ∀ olt ∈ oltIds devices, ¬ Adjacent (directEdges devices links) ont olt

/-- The rule: the ONT is joined to an OLT if it has an optical path, and then to the end of the
least. -/
structure FollowsRule (ont : String) : Prop where
  joined_iff : (∃ olt ∈ oltIds devices, Adjacent (buildLogicalGraph devices links) ont olt) ↔
    ∃ p, OpticalPath devices links ont p
  chosen : ∀ olt ∈ oltIds devices, Adjacent (buildLogicalGraph devices links) ont olt →
    ∃ p, LeastOpticalPath devices links ont p ∧ p.getLast? = some olt

/-- The least path over all links between optical devices is an optical path, or ends where the
least optical path does. -/
def LeastConforms (ont : String) : Prop :=
  ∀ p, LeastWalkTo (Adjacent (optAdj devices links)) ont (IsTarget (oltIds devices) ont) p →
    OpticalPath devices links ont p ∨
      ∃ q, LeastOpticalPath devices links ont q ∧ q.getLast? = p.getLast?

end Graphs

/-! ### Edges -/

variable {devices : List DeviceRecord} {links : List LinkRecord} {ont olt a b : String}

private theorem edgesWhere_mono {keep : DeviceType → Bool}
    {accept accept' : String → DeviceType → DeviceType → Bool}
    (h : ∀ kind aType bType, accept kind aType bType = true → accept' kind aType bType = true)
    (hadj : Adjacent (edgesWhere devices links keep accept) a b) :
    Adjacent (edgesWhere devices links keep accept') a b := by
  have hsub : ∀ e, e ∈ edgesWhere devices links keep accept →
      e ∈ edgesWhere devices links keep accept' := by
    intro e he
    apply List.map_subset _ _ he
    intro l hl
    rw [List.mem_filter] at hl ⊢
    apply And.intro hl.1
    have hcond := hl.2
    split at hcond
    next aType bType _ _ => exact h _ _ _ hcond
    next => cases hcond
  exact hadj.imp (hsub _) (hsub _)

/-- The second adjacency has the links of the optical graph. -/
theorem adjacent_optAdj (h : Adjacent (buildOpticalGraph devices links) a b) :
    Adjacent (optAdj devices links) a b :=
  edgesWhere_mono (fun _ _ _ _ ↦ rfl) h

/-- A node is a device of a kept type. -/
theorem nodeType_eq_some {keep : DeviceType → Bool} {id : String} {type : DeviceType}
    (h : nodeType devices keep id = some type) :
    ∃ d ∈ devices, keep d.type ∧ d.id = id ∧ d.type = type := by
  have ⟨d, hd, htype⟩ := Option.map_eq_some_iff.mp h
  have hmem := List.mem_of_getLast? hd
  rw [List.mem_filter, Bool.and_eq_true, decide_eq_true_eq] at hmem
  exact ⟨d, hmem.1, hmem.2.1, hmem.2.2, htype⟩

private theorem mem_recordIds_of_nodeType {id : String} {type : DeviceType}
    (h : nodeType devices opticalType id = some type) (hactive : logicalActive type = true) :
    id ∈ recordIds logicalActive devices := by
  have ⟨d, hd, _, hid, htype⟩ := nodeType_eq_some h
  apply List.mem_map.mpr
  exact ⟨d, List.mem_filter.mpr ⟨hd, by rw [htype]; exact hactive⟩, hid⟩

private theorem mem_ontIds (h : ont ∈ ontIds devices) :
    ∃ type, nodeType devices opticalType ont = some type ∧ ontClass type = true := by
  have hany := (List.mem_filter.mp h).2
  cases htype : nodeType devices opticalType ont with
  | none =>
    rw [htype] at hany
    cases hany
  | some type =>
    rw [htype] at hany
    exact ⟨type, rfl, hany⟩

private theorem mem_oltIds (h : olt ∈ oltIds devices) :
    nodeType devices opticalType olt = some .olt :=
  of_decide_eq_true (List.mem_filter.mp h).2

private theorem ne_of_ont_olt (hont : ont ∈ ontIds devices) (holt : olt ∈ oltIds devices) :
    ont ≠ olt := by
  intro heq
  have ⟨type, htype, hclass⟩ := mem_ontIds hont
  rw [heq, mem_oltIds holt] at htype
  cases htype
  cases hclass

/-- The search of an ONT finds OLTs only. -/
theorem shortestOpticalOlt_mem_oltIds
    (h : shortestOpticalOlt (optAdj devices links) (oltIds devices) ont = some olt) :
    olt ∈ oltIds devices := Status.shortestOpticalOlt_mem h

/-- An edge is added exactly for the OLT that the search of the ONT finds. -/
theorem adjacent_addCollapsed (hont : ont ∈ ontIds devices) (g : List (String × String)) :
    Adjacent (addCollapsed devices links g ont) a b ↔ Adjacent g a b ∨
      ∃ olt, shortestOpticalOlt (optAdj devices links) (oltIds devices) ont = some olt ∧
        (a = ont ∧ b = olt ∨ a = olt ∧ b = ont) := by
  unfold addCollapsed
  split
  next hnone => simp [hnone]
  next olt holt =>
    have ⟨type, htype, hclass⟩ := mem_ontIds hont
    have hactive : logicalActive type = true := by
      revert hclass
      cases type <;> decide
    have hontActive : ont ∈ recordIds logicalActive devices :=
      mem_recordIds_of_nodeType htype hactive
    have holtActive : olt ∈ recordIds logicalActive devices :=
      mem_recordIds_of_nodeType (mem_oltIds (shortestOpticalOlt_mem_oltIds holt)) rfl
    have hsingle : (∃ olt', some olt = some olt' ∧ (a = ont ∧ b = olt' ∨ a = olt' ∧ b = ont)) ↔
        (a = ont ∧ b = olt ∨ a = olt ∧ b = ont) := by simp
    rw [holt, hsingle]
    split
    next => simp [Adjacent, or_assoc, or_left_comm, and_comm]
    next hno =>
      -- the edge is there already
      have hthere : (ont, olt) ∈ g ∨ (olt, ont) ∈ g := by
        simpa [mayJoin, hontActive, holtActive, or_iff_not_imp_left] using hno
      apply (or_iff_left_of_imp _).symm
      rintro (⟨ha, hb⟩ | ⟨ha, hb⟩)
      · rw [ha, hb]
        exact hthere
      · rw [ha, hb]
        exact hthere.symm

private theorem adjacent_foldl_addCollapsed (onts : List String) : ∀ g : List (String × String),
    (∀ x ∈ onts, x ∈ ontIds devices) →
      (Adjacent (onts.foldl (addCollapsed devices links) g) a b ↔ Adjacent g a b ∨
        ∃ x ∈ onts, ∃ olt, shortestOpticalOlt (optAdj devices links) (oltIds devices) x = some olt ∧
          (a = x ∧ b = olt ∨ a = olt ∧ b = x)) := by
  induction onts with
  | nil => simp
  | cons x onts ih =>
    intro g honts
    rw [List.foldl_cons, ih _ (fun y hy ↦ honts y (List.mem_cons_of_mem x hy)),
      adjacent_addCollapsed (honts x List.mem_cons_self), or_assoc]
    simp only [List.mem_cons, exists_eq_or_imp]

/-- An ONT without a link edge to an OLT is joined to the OLT that its search finds. -/
theorem adjacent_buildLogicalGraph (h : Collapses devices links ont) (holt : olt ∈ oltIds devices) :
    Adjacent (buildLogicalGraph devices links) ont olt ↔
      shortestOpticalOlt (optAdj devices links) (oltIds devices) ont = some olt := by
  rw [buildLogicalGraph, adjacent_foldl_addCollapsed _ _ (fun _ hx ↦ hx),
    or_iff_right (h.indirect olt holt)]
  constructor
  · rintro ⟨x, hx, olt', hfound, ⟨hxont, holt'⟩ | ⟨hontolt, hxolt⟩⟩
    · rw [hxont, holt']
      exact hfound
    · exact absurd hxolt.symm (ne_of_ont_olt hx holt)
  · intro hfound
    exact ⟨ont, h.member, olt, hfound, .inl ⟨rfl, rfl⟩⟩

/-! ### The law -/

/-- An optical path is a walk of the second adjacency. -/
theorem OpticalPath.walk_optAdj {p : List String} (h : OpticalPath devices links ont p) :
    ∃ olt, IsTarget (oltIds devices) ont olt ∧
        Walk (Adjacent (optAdj devices links)) ont olt p := by
  have ⟨olt, htarget, hwalk⟩ := h.walk
  exact ⟨olt, htarget, hwalk.mono fun _ _ ↦ adjacent_optAdj⟩

/-- A least path that is an optical path is the least optical path. -/
theorem OpticalPath.least {p : List String} (h : OpticalPath devices links ont p)
    (hleast : LeastWalkTo (Adjacent (optAdj devices links)) ont (IsTarget (oltIds devices) ont) p) :
    LeastOpticalPath devices links ont p where
  path := h
  least q hq := by
    have ⟨olt, htarget, hwalk⟩ := hq.walk_optAdj
    exact hleast.least olt q htarget hwalk

/-- The access edge of an ONT follows the rule exactly when the least path over all links
conforms. -/
theorem buildLogicalGraph_followsRule_iff (devices : List DeviceRecord) (links : List LinkRecord)
    (ont : String) :
    (Collapses devices links ont → FollowsRule devices links ont) ↔
      (Collapses devices links ont → LeastConforms devices links ont) := by
  apply imp_congr_right
  intro hcollapses
  have hjoined : ∀ olt ∈ oltIds devices, Adjacent (buildLogicalGraph devices links) ont olt ↔
      ∃ p, LeastWalkTo (Adjacent (optAdj devices links)) ont (IsTarget (oltIds devices) ont) p ∧
        p.getLast? = some olt := by
    intro olt holt
    rw [adjacent_buildLogicalGraph hcollapses holt, shortestOpticalOlt_eq_some_iff]
  have hend : ∀ p, LeastWalkTo (Adjacent (optAdj devices links)) ont
      (IsTarget (oltIds devices) ont) p →
      ∃ olt ∈ oltIds devices, p.getLast? = some olt := by
    intro p hp
    have ⟨olt, htarget, hwalk⟩ := hp.walk
    have ⟨p', hp'⟩ := hwalk.exists_concat
    exact ⟨olt, htarget.2, by rw [hp', List.getLast?_concat]⟩
  constructor
  · intro hrule p hp
    have ⟨olt, holt, hlast⟩ := hend p hp
    have ⟨q, hq, hqlast⟩ := hrule.chosen olt holt ((hjoined olt holt).mpr ⟨p, hp, hlast⟩)
    exact .inr ⟨q, hq, hqlast.trans hlast.symm⟩
  · intro hconforms
    have hleast : ∀ p, LeastWalkTo (Adjacent (optAdj devices links)) ont
        (IsTarget (oltIds devices) ont) p →
        ∃ q, LeastOpticalPath devices links ont q ∧ q.getLast? = p.getLast? := by
      intro p hp
      rcases hconforms p hp with hpath | hq
      · exact ⟨p, hpath.least hp, rfl⟩
      · exact hq
    constructor
    · constructor
      · intro ⟨olt, holt, hadj⟩
        have ⟨p, hp, _⟩ := (hjoined olt holt).mp hadj
        have ⟨q, hq, _⟩ := hleast p hp
        exact ⟨q, hq.path⟩
      · intro ⟨q, hq⟩
        have ⟨v, htarget, hwalk⟩ := hq.walk_optAdj
        have ⟨p, hp⟩ := exists_leastWalkTo htarget hwalk
        have ⟨olt, holt, hlast⟩ := hend p hp
        exact ⟨olt, holt, (hjoined olt holt).mpr ⟨p, hp, hlast⟩⟩
    · intro olt holt hadj
      have ⟨p, hp, hlast⟩ := (hjoined olt holt).mp hadj
      have ⟨q, hq, hqlast⟩ := hleast p hp
      exact ⟨q, hq, hqlast.trans hlast⟩

/-! ### A management link on the way -/

/-- An ONT, a splitter and an OLT. -/
def accessDevices : List DeviceRecord := [⟨"ont", .ont⟩, ⟨"split", .splitter⟩, ⟨"olt", .olt⟩]

/-- The ONT is joined to the splitter by a management link only. -/
def mgmtLinks : List LinkRecord := [⟨"l1", "ont", "split", "MGMT"⟩, ⟨"l2", "split", "olt", "FIBER"⟩]

/-- An ONT without any optical path gets an access edge. -/
theorem buildLogicalGraph_joins_mgmt : Collapses accessDevices mgmtLinks "ont" ∧
    ¬ FollowsRule accessDevices mgmtLinks "ont" := by
  have hont : Collapses accessDevices mgmtLinks "ont" := by
    constructor
    · decide
    · intro olt _ hadj
      have hnone : directEdges accessDevices mgmtLinks = [] := by decide
      rw [hnone] at hadj
      exact hadj.elim List.not_mem_nil List.not_mem_nil
  apply And.intro hont
  intro hrule
  have hadj : Adjacent (buildLogicalGraph accessDevices mgmtLinks) "ont" "olt" := by
    left
    decide +kernel
  have ⟨p, hp⟩ := hrule.joined_iff.mp ⟨"olt", by decide, hadj⟩
  have ⟨olt, htarget, hwalk⟩ := hp.walk
  have hstay : ∀ v q, Walk (Adjacent (buildOpticalGraph accessDevices mgmtLinks)) "ont" v q →
      v = "ont" := by
    intro v q hq
    induction hq with
    | root => rfl
    | step _ hedge ih =>
      have hedges : buildOpticalGraph accessDevices mgmtLinks = [("split", "olt")] := by decide
      rw [ih, hedges] at hedge
      simp [Adjacent] at hedge
  exact htarget.1 (hstay olt p hwalk)

end Unoc.Pathfinding.Collapse
