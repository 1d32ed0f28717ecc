import Unoc.Optical.PathResolver

/-!
# Both optical graphs in terms of link rows

Adding an edge overwrites the one that was there, so both graphs hold the last link row that joins
two devices: the engine's graph of all rows, the backend's of the FIBER rows between optical
devices. The weights and lengths of both are read off these rows.
-/

namespace Unoc.Optical

open Unoc.Base Unoc.Model Unoc.Status

variable {db : Database}

/-! ### Rows -/

/-- The ends that the engine finds for a link row are two devices. -/
def JoinsDevices (db : Database) (u v : String) (l : Link) : Prop :=
  (PathFinder.linkEnd db l.aInterfaceId = some u ∧ PathFinder.linkEnd db l.bInterfaceId = some v) ∨
    (PathFinder.linkEnd db l.bInterfaceId = some u ∧ PathFinder.linkEnd db l.aInterfaceId = some v)

/-- Whether a row joins two devices compares its ends. -/
instance (db : Database) (u v : String) (l : Link) : Decidable (JoinsDevices db u v l) :=
  inferInstanceAs (Decidable (_ ∨ _))

/-- The last link row that joins two devices. -/
def lastLink (db : Database) (u v : String) : Option Link :=
  db.links.reverse.find? (fun l ↦ JoinsDevices db u v l)

/-- The insertion loss of a passive device. -/
def insertionLoss (db : Database) (v : String) : ℚ :=
  match db.getDevice v with
  | some d => if PathFinder.isPassive d.type then d.insertionLossDb.getD 0 else 0
  | none => 0

/-- The attenuation from one device into another, over their last link. -/
def attenuation (db : Database) (u v : String) : Option ℚ :=
  (lastLink db u v).map (fun l ↦ PathFinder.fiberLoss db l + insertionLoss db v)

/-- The length of a path over the last links. -/
def pathLength (db : Database) (path : List String) : ℚ :=
  ((path.zip path.tail).map (fun hop ↦
    ((lastLink db hop.1 hop.2).bind Link.lengthKm).getD 0)).sum

/-- Whether a device row is an OLT. -/
def isOlt (db : Database) (id : String) : Bool := (db.getDevice id).any (fun d ↦ d.type = .olt)

/-- Every end that the engine finds for a link whose other end it finds too is a device row. -/
def Buildable (db : Database) : Prop :=
  ∀ l ∈ db.links, ∀ a b, PathFinder.linkEnd db l.aInterfaceId = some a →
    PathFinder.linkEnd db l.bInterfaceId = some b →
      (a ≠ "" ∧ (db.getDevice a).isSome) ∧ b ≠ "" ∧ (db.getDevice b).isSome

/-! ### The graph of the engine -/

namespace PathFinder

/-- The nodes of the engine's graph. -/
def nodes (db : Database) : Dict String Node :=
  db.devices.foldl (fun m d ↦ m.insert d.id (makeNode d)) ∅

/-- The node of a device row. -/
theorem lookup_nodes (id : String) : (nodes db).lookup id = (db.getDevice id).map makeNode := by
  have hrev : db.devices.reverse.find? (fun d ↦ d.id = id) = db.getDevice id :=
    find?_key_of_perm db.devices_nodup db.devices.reverse_perm id
  rw [nodes, Dict.lookup_foldl_insert, hrev]
  simp

/-- The nodes are the devices. -/
theorem mem_nodes {id : String} : id ∈ nodes db ↔ (db.getDevice id).isSome := by
  rw [← AList.lookup_isSome, lookup_nodes, Option.isSome_map]

/-- The edges of the engine's graph. -/
def edges (db : Database) : Dict (String × String) Edge :=
  (db.links.filterMap (linkEdge db)).foldl
    (Dict.connect Edge.sourceId Edge.targetId id Edge.reverse) ∅

/-- What an edge takes over from its link row. -/
theorem linkEdge_eq_some {l : Link} {e : Edge} (h : linkEdge db l = some e) :
    linkEnd db l.aInterfaceId = some e.sourceId ∧ linkEnd db l.bInterfaceId = some e.targetId ∧
      e.fiberLossDb = fiberLoss db l ∧ e.hasLengthKm = l.lengthKm.isSome ∧
        e.lengthKm = l.lengthKm.getD 0 := by
  unfold linkEdge at h
  cases ha : linkEnd db l.aInterfaceId with
  | none => simp [ha] at h
  | some a =>
    cases hb : linkEnd db l.bInterfaceId with
    | none => simp [ha, hb] at h
    | some b =>
      simp only [ha, hb, Option.bind_eq_bind, Option.bind_some, Option.pure_def,
        Option.some.injEq] at h
      rw [← h]
      exact ⟨rfl, rfl, rfl, rfl, rfl⟩

/-- The engine's graph builds where every link end is a device row. -/
theorem buildGraph_eq (h : Buildable db) : buildGraph db = .ok ⟨nodes db, edges db⟩ := by
  have hfold : ∀ (add : Graph → Edge → Except String Graph),
      (∀ g e g', g.addEdge e = .ok g' → add g e = .ok g') →
      ∀ (es : List Edge) (m : Dict (String × String) Edge),
      (∀ e ∈ es, (e.sourceId ≠ "" ∧ e.sourceId ∈ nodes db) ∧ e.targetId ≠ "" ∧ e.targetId ∈ nodes db) →
      es.foldlM add ⟨nodes db, m⟩ =
        .ok ⟨nodes db, es.foldl (Dict.connect Edge.sourceId Edge.targetId id Edge.reverse) m⟩ := by
    intro add hok es
    induction es with
    | nil => intro m _; rfl
    | cons e es ih =>
      intro m hes
      obtain ⟨⟨hs, hsn⟩, ht, htn⟩ := hes e List.mem_cons_self
      have hadd : (Graph.mk (nodes db) m).addEdge e =
          .ok ⟨nodes db, Dict.connect Edge.sourceId Edge.targetId id Edge.reverse m e⟩ := by
        simp [Graph.addEdge, hs, ht, hsn, htn]
      rw [List.foldlM_cons, hok _ _ _ hadd]
      exact ih _ (fun x hx ↦ hes x (List.mem_cons_of_mem e hx))
  apply hfold
  · intro g e g' hadd
    rw [hadd]
  intro e he
  obtain ⟨l, hl, hle⟩ := List.mem_filterMap.mp he
  obtain ⟨ha, hb, _⟩ := linkEdge_eq_some hle
  obtain ⟨⟨hs, hsn⟩, ht, htn⟩ := h l hl _ _ ha hb
  exact ⟨⟨hs, mem_nodes.mpr hsn⟩, ht, mem_nodes.mpr htn⟩

/-- A row that joins two devices has an edge. -/
theorem exists_linkEdge {u v : String} {l : Link} (h : JoinsDevices db u v l) :
    ∃ e, linkEdge db l = some e := by
  apply Option.isSome_iff_exists.mp
  rcases h with ⟨ha, hb⟩ | ⟨hb, ha⟩ <;> simp [linkEdge, ha, hb]

private theorem any_linkEdge (u v : String) (l : Link) :
    (linkEdge db l).any (fun e ↦ decide (Dict.Joins Edge.sourceId Edge.targetId e u v)) =
      decide (JoinsDevices db u v l) := by
  cases he : linkEdge db l with
  | none =>
    have hjoins : ¬ JoinsDevices db u v l := by
      intro h
      obtain ⟨e, he'⟩ := exists_linkEdge h
      rw [he] at he'
      cases he'
    simp [hjoins]
  | some e =>
    obtain ⟨ha, hb, _⟩ := linkEdge_eq_some he
    simp only [Option.any_some, decide_eq_decide]
    simp [JoinsDevices, Dict.Joins, ha, hb]

/-- What both directions of an edge share is read off the last link of the two devices. -/
theorem lookup_edges_map {β : Type} (f : Edge → β) (hf : ∀ e, f e.reverse = f e) (u v : String) :
    ((edges db).lookup (u, v)).map f = ((lastLink db u v).bind (linkEdge db)).map f := by
  have hfind : (db.links.filterMap (linkEdge db)).reverse.find? (fun e ↦
      decide (Dict.Joins Edge.sourceId Edge.targetId e u v)) =
        (lastLink db u v).bind (linkEdge db) := by
    rw [← List.filterMap_reverse, List.find?_filterMap]
    simp only [any_linkEdge]
    rfl
  rw [edges, Dict.lookup_foldl_connect, hfind]
  cases (lastLink db u v).bind (linkEdge db) with
  | none => rfl
  | some e =>
    simp only [Option.map_some, Option.some_or, Option.some.injEq]
    split
    · exact hf e
    · rfl

/-- The last link of two devices joins them. -/
theorem joins_of_lastLink {u v : String} {l : Link} (h : lastLink db u v = some l) :
    l ∈ db.links ∧ JoinsDevices db u v l :=
  ⟨List.mem_reverse.mp (List.mem_of_find?_eq_some h), by simpa using List.find?_some h⟩

private theorem enteringLoss_eq (v : String) :
    enteringLoss ⟨nodes db, edges db⟩ v = insertionLoss db v := by
  unfold enteringLoss insertionLoss
  rw [lookup_nodes]
  cases db.getDevice v with
  | none => rfl
  | some d => cases hloss : d.insertionLossDb <;> simp [makeNode, hloss]

/-- The engine weighs its edges by the attenuation over the last links. -/
theorem edgeWeight_eq : edgeWeight ⟨nodes db, edges db⟩ = attenuation db := by
  funext u v
  unfold edgeWeight attenuation
  rw [enteringLoss_eq, lookup_edges_map (fun e ↦ e.fiberLossDb + insertionLoss db v) (fun _ ↦ rfl)]
  cases hl : lastLink db u v with
  | none => rfl
  | some l =>
    obtain ⟨e, he⟩ := exists_linkEdge (joins_of_lastLink hl).2
    obtain ⟨_, _, hloss, _⟩ := linkEdge_eq_some he
    simp [he, hloss]

/-- The engine adds up the lengths of the last links. -/
theorem pathLengthKm_eq (path : List String) :
    pathLengthKm ⟨nodes db, edges db⟩ path = pathLength db path := by
  unfold pathLengthKm pathLength
  congr 1
  apply List.map_congr_left
  rintro ⟨u, v⟩ _
  rw [lookup_edges_map (fun e ↦ if e.hasLengthKm then e.lengthKm else 0) (fun _ ↦ rfl)]
  cases hl : lastLink db u v with
  | none => rfl
  | some l =>
    obtain ⟨e, he⟩ := exists_linkEdge (joins_of_lastLink hl).2
    obtain ⟨_, _, _, hhas, hlength⟩ := linkEdge_eq_some he
    cases hkm : l.lengthKm <;> simp [he, hhas, hlength, hkm]

/-- The engine knows OLTs by their type. -/
theorem isOlt_eq (id : String) : isOlt ⟨nodes db, edges db⟩ id = Optical.isOlt db id := by
  unfold isOlt Optical.isOlt
  rw [lookup_nodes]
  cases db.getDevice id with
  | none => rfl
  | some d => simp [makeNode]

end PathFinder

/-! ### Prices -/

/-- The fiber codes that both sides price alike. -/
def commonCodes : List String := ["SMF_G652D", "SMF_G657A1", "SMF_G657A2"]

/-- A link without length, of length zero, without a medium row, or of a common fiber. -/
def SamePrice (db : Database) (l : Link) : Prop :=
  l.lengthKm = none ∨ l.lengthKm = some 0 ∨
    ∀ code, PathFinder.mediumCode db l = some code → code ∈ commonCodes

/-- The codes of both tables. -/
def knownCodes : List String :=
  PathFinder.fiberAttenuationDb.map Prod.fst ++ PathResolver.fiberTypes.map Prod.fst

private theorem rate_eq_iff (code : String) :
    PathFinder.attenuationRate code = (PathResolver.fiberTypes.lookup code).getD 0 ↔
      code ∈ commonCodes := by
  have hknown : ∀ c ∈ knownCodes,
      (PathFinder.attenuationRate c = (PathResolver.fiberTypes.lookup c).getD 0 ↔
        c ∈ commonCodes) := by decide +kernel
  by_cases hcode : code ∈ knownCodes
  · exact hknown code hcode
  · -- An unknown code costs the default on one side and nothing on the other.
    have hnone : ∀ {table : List (String × ℚ)}, (∀ c ∈ table.map Prod.fst, c ∈ knownCodes) →
        table.lookup code = none := by
      intro table htable
      rw [List.lookup_eq_none_iff]
      intro entry hentry
      apply bne_iff_ne.mpr
      rintro rfl
      exact hcode (htable _ (List.mem_map_of_mem hentry))
    have hcommon : code ∉ commonCodes := by
      intro h
      have hsub : ∀ c ∈ commonCodes, c ∈ knownCodes := by decide
      exact hcode (hsub code h)
    have hdefault : (PathFinder.fiberAttenuationDb.lookup "FIBER_DEFAULT").getD 0 ≠ 0 := by
      decide +kernel
    rw [PathFinder.attenuationRate, hnone (fun c hc ↦ List.mem_append_left _ hc),
      hnone (fun c hc ↦ List.mem_append_right _ hc)]
    exact iff_of_false hdefault hcommon

/-- The two sides price a link alike if and only if it is one of these. -/
theorem fiberLoss_eq_iff (l : Link) :
    PathFinder.fiberLoss db l = PathResolver.fiberLoss db l ↔ SamePrice db l := by
  have hcode : (l.physicalMediumId.bind db.getPhysicalMedium).map PhysicalMedium.code =
      PathFinder.mediumCode db l := rfl
  unfold PathFinder.fiberLoss PathResolver.fiberLoss SamePrice
  rw [hcode]
  cases l.lengthKm with
  | none => simp
  | some km =>
    cases PathFinder.mediumCode db l with
    | none => simp
    | some code =>
      have hmul : km * PathFinder.attenuationRate code =
          km * (PathResolver.fiberTypes.lookup code).getD 0 ↔ km = 0 ∨ code ∈ commonCodes := by
        rw [mul_eq_mul_left_iff, rate_eq_iff, or_comm]
      simpa using hmul

/-! ### The graph of the backend -/

namespace PathResolver

/-- The graph that the backend builds. -/
def graph (db : Database) : Graph := buildOpticalGraph (deviceRecords db) (linkRecords db)

private theorem lookup_nodes (id : String) :
    (graph db).nodes.lookup id =
      (db.getDevice id).bind (fun d ↦ if opticalType d.type then some d.type else none) := by
  have hnodup : ((((deviceRecords db).filter (fun d ↦ opticalType d.type)).reverse).map
      DeviceRecord.id).Nodup := by
    rw [List.map_reverse, List.nodup_reverse]
    apply List.Sublist.nodup (List.filter_sublist.map DeviceRecord.id)
    simpa [deviceRecords, Function.comp_def] using db.devices_nodup
  have hlookup : (graph db).nodes.lookup id =
      (((deviceRecords db).filter (fun d ↦ opticalType d.type)).reverse.find? (fun r ↦
        r.id = id)).map DeviceRecord.type := by
    show (opticalNodes (deviceRecords db)).lookup id = _
    rw [opticalNodes, Dict.lookup_foldl_insert]
    simp
  rw [hlookup]
  apply Option.ext
  intro type
  simp only [Option.map_eq_some_iff, Option.bind_eq_some_iff, find?_key_eq_some hnodup,
    List.mem_reverse, List.mem_filter, Database.getDevice_eq_some]
  simp only [deviceRecords, List.mem_map]
  constructor
  · rintro ⟨_, ⟨⟨⟨d, hd, rfl⟩, hopt⟩, rfl⟩, rfl⟩
    exact ⟨d, ⟨hd, rfl⟩, if_pos hopt⟩
  · rintro ⟨d, ⟨hd, rfl⟩, htype⟩
    split at htype
    · next hopt =>
      cases htype
      exact ⟨⟨d.id, d.type⟩, ⟨⟨⟨d, hd, rfl⟩, hopt⟩, rfl⟩, rfl⟩
    · cases htype

/-- The nodes of the backend are the optical devices. -/
theorem mem_nodes {id : String} :
    id ∈ (graph db).nodes ↔ ∃ d, db.getDevice id = some d ∧ opticalType d.type = true := by
  rw [← AList.lookup_isSome, lookup_nodes]
  cases db.getDevice id with
  | none => simp
  | some d => by_cases hopt : opticalType d.type = true <;> simp [hopt]

/-! ### Links that the backend takes -/

/-- The backend drops empty device ids where the engine does not. -/
theorem recordEnd_eq (interfaceId : String) :
    recordEnd (topology db) interfaceId =
      (truthy ((db.getInterface interfaceId).map Interface.deviceId)).or
        (truthy (PathFinder.trimIf0 interfaceId)) := by
  have hlegacy : legacyDevice interfaceId = truthy (PathFinder.trimIf0 interfaceId) := by
    unfold legacyDevice PathFinder.trimIf0
    split <;> rfl
  unfold recordEnd
  rw [hlegacy]
  rfl

private theorem linkEnd_of_recordEnd {interfaceId id : String}
    (h : recordEnd (topology db) interfaceId = some id) :
    ∃ id', PathFinder.linkEnd db interfaceId = some id' := by
  rw [recordEnd_eq] at h
  unfold PathFinder.linkEnd
  cases hi : (db.getInterface interfaceId).map Interface.deviceId with
  | some id' => exact ⟨id', rfl⟩
  | none =>
    cases ht : PathFinder.trimIf0 interfaceId with
    | some id' => exact ⟨id', rfl⟩
    | none => simp [hi, ht, truthy] at h

private theorem recordEnd_of_linkEnd {interfaceId id : String}
    (h : PathFinder.linkEnd db interfaceId = some id) (hid : id ≠ "") :
    recordEnd (topology db) interfaceId = some id := by
  rw [recordEnd_eq]
  unfold PathFinder.linkEnd at h
  cases hi : (db.getInterface interfaceId).map Interface.deviceId with
  | some id' =>
    rw [hi, Option.some_or] at h
    rw [h, truthy_some hid]
    rfl
  | none =>
    rw [hi, Option.none_or] at h
    rw [h, truthy_some hid]
    rfl

/-- The record of a link row that the optical graph takes. -/
def opticalRecord (db : Database) (l : Link) : Option LinkRecord :=
  (linkRecord db l).filter (fun r ↦
    r.aDeviceId ∈ (graph db).nodes ∧ r.bDeviceId ∈ (graph db).nodes ∧ r.kind = .fiber)

private theorem graph_edges :
    (graph db).edges = (db.links.filterMap (opticalRecord db)).foldl
      (Dict.connect LinkRecord.aDeviceId LinkRecord.bDeviceId LinkRecord.id LinkRecord.id) ∅ := by
  show ((linkRecords db).filter _).foldl _ ∅ = _
  rw [linkRecords, List.filter_filterMap]
  rfl

private theorem opticalRecord_eq_some {l : Link} {r : LinkRecord} :
    opticalRecord db l = some r ↔
      recordEnd (topology db) l.aInterfaceId = some r.aDeviceId ∧
        recordEnd (topology db) l.bInterfaceId = some r.bDeviceId ∧ r.id = l.id ∧
        r.kind = l.kind ∧ r.aDeviceId ∈ (graph db).nodes ∧ r.bDeviceId ∈ (graph db).nodes ∧
        l.kind = .fiber := by
  unfold opticalRecord linkRecord
  cases recordEnd (topology db) l.aInterfaceId with
  | none => simp
  | some a =>
    cases recordEnd (topology db) l.bInterfaceId with
    | none => simp
    | some b =>
      obtain ⟨id, aDev, bDev, kind⟩ := r
      simp only [Option.bind_eq_bind, Option.bind_some, Option.pure_def, Option.filter_some]
      grind

section Buildable

variable (hbuild : Buildable db)

include hbuild

/-- Where the engine's graph builds, both sides find the same ends of a link that the backend
takes. -/
theorem linkEnds_of_opticalRecord {l : Link} (hl : l ∈ db.links) {r : LinkRecord}
    (h : opticalRecord db l = some r) :
    PathFinder.linkEnd db l.aInterfaceId = some r.aDeviceId ∧
      PathFinder.linkEnd db l.bInterfaceId = some r.bDeviceId := by
  obtain ⟨ha, hb, _⟩ := opticalRecord_eq_some.mp h
  obtain ⟨a, ha'⟩ := linkEnd_of_recordEnd ha
  obtain ⟨b, hb'⟩ := linkEnd_of_recordEnd hb
  obtain ⟨⟨hane, _⟩, hbne, _⟩ := hbuild l hl a b ha' hb'
  rw [recordEnd_of_linkEnd ha' hane, Option.some.injEq] at ha
  rw [recordEnd_of_linkEnd hb' hbne, Option.some.injEq] at hb
  rw [ha', hb', ha, hb]
  exact ⟨rfl, rfl⟩

private theorem joins_of_opticalRecord {u v : String} {l : Link} (hl : l ∈ db.links)
    (h : (opticalRecord db l).any (fun r ↦
      decide (Dict.Joins LinkRecord.aDeviceId LinkRecord.bDeviceId r u v)) = true) :
    JoinsDevices db u v l := by
  obtain ⟨r, hr, hjoins⟩ := (Option.any_eq_true _ _).mp h
  obtain ⟨ha, hb⟩ := linkEnds_of_opticalRecord hbuild hl hr
  rcases of_decide_eq_true hjoins with ⟨hu, hv⟩ | ⟨hu, hv⟩
  · exact Or.inl ⟨by rw [ha, hu], by rw [hb, hv]⟩
  · exact Or.inr ⟨by rw [hb, hu], by rw [ha, hv]⟩

/-- The backend takes a FIBER link between two optical devices. -/
theorem opticalRecord_of_joins {u v : String} {l : Link} (hl : l ∈ db.links)
    (hjoins : JoinsDevices db u v l) (hkind : l.kind = .fiber) (hu : u ∈ (graph db).nodes)
    (hv : v ∈ (graph db).nodes) :
    ∃ r, opticalRecord db l = some r ∧ r.id = l.id ∧
      Dict.Joins LinkRecord.aDeviceId LinkRecord.bDeviceId r u v := by
  rcases hjoins with ⟨ha, hb⟩ | ⟨hb, ha⟩
  · obtain ⟨⟨hane, _⟩, hbne, _⟩ := hbuild l hl _ _ ha hb
    refine ⟨⟨l.id, u, v, l.kind⟩, opticalRecord_eq_some.mpr ?_, rfl, Or.inl ⟨rfl, rfl⟩⟩
    exact ⟨recordEnd_of_linkEnd ha hane, recordEnd_of_linkEnd hb hbne, rfl, rfl, hu, hv, hkind⟩
  · obtain ⟨⟨hane, _⟩, hbne, _⟩ := hbuild l hl _ _ ha hb
    refine ⟨⟨l.id, v, u, l.kind⟩, opticalRecord_eq_some.mpr ?_, rfl, Or.inr ⟨rfl, rfl⟩⟩
    exact ⟨recordEnd_of_linkEnd ha hane, recordEnd_of_linkEnd hb hbne, rfl, rfl, hv, hu, hkind⟩

omit hbuild in
private theorem find?_eq_find?_of_imp {α : Type} {p q : α → Bool} (xs : List α)
    (himp : ∀ x ∈ xs, p x = true → q x = true) (hfound : ∀ x, xs.find? q = some x → p x = true) :
    xs.find? p = xs.find? q := by
  induction xs with
  | nil => rfl
  | cons x xs ih =>
    cases hq : q x with
    | true =>
      have hp : p x = true := hfound x (List.find?_cons_of_pos hq)
      rw [List.find?_cons_of_pos hp, List.find?_cons_of_pos hq]
    | false =>
      have hp : p x = false := by
        by_contra hne
        have hqx := himp x List.mem_cons_self (by simpa using hne)
        rw [hq] at hqx
        cases hqx
      have hskip : (x :: xs).find? q = xs.find? q := List.find?_cons_of_neg (by simp [hq])
      rw [List.find?_cons_of_neg (by simp [hp]), hskip]
      apply ih (fun y hy ↦ himp y (List.mem_cons_of_mem x hy))
      intro y hy
      exact hfound y (hskip.trans hy)

/-- Where the last link between two devices is FIBER between optical devices, the backend's edge
is of the same row. -/
theorem lookup_edges {u v : String}
    (h : ∀ l, lastLink db u v = some l →
      l.kind = .fiber ∧ u ∈ (graph db).nodes ∧ v ∈ (graph db).nodes) :
    (graph db).edges.lookup (u, v) = (lastLink db u v).map Link.id := by
  have hfind : db.links.reverse.find? (fun l ↦ (opticalRecord db l).any (fun r ↦
      decide (Dict.Joins LinkRecord.aDeviceId LinkRecord.bDeviceId r u v))) = lastLink db u v := by
    apply find?_eq_find?_of_imp
    · intro l hl hany
      exact decide_eq_true (joins_of_opticalRecord hbuild (List.mem_reverse.mp hl) hany)
    · intro l hl
      obtain ⟨hmem, hjoins⟩ := PathFinder.joins_of_lastLink hl
      obtain ⟨hkind, hu, hv⟩ := h l hl
      obtain ⟨r, hr, _, hrjoins⟩ := opticalRecord_of_joins hbuild hmem hjoins hkind hu hv
      rw [hr]
      exact decide_eq_true hrjoins
  rw [graph_edges, Dict.lookup_foldl_connect, ← List.filterMap_reverse, List.find?_filterMap, hfind]
  cases hl : lastLink db u v with
  | none => rfl
  | some l =>
    obtain ⟨hmem, hjoins⟩ := PathFinder.joins_of_lastLink hl
    obtain ⟨hkind, hu, hv⟩ := h l hl
    obtain ⟨r, hr, hid, _⟩ := opticalRecord_of_joins hbuild hmem hjoins hkind hu hv
    simp [hr, hid]

/-- A last link that the backend takes and prices as the engine does. -/
structure Alike (db : Database) (u v : String) (l : Link) : Prop where
  id_ne : l.id ≠ ""
  kind : l.kind = .fiber
  price : SamePrice db l
  src : u ∈ (graph db).nodes
  dst : v ∈ (graph db).nodes

variable {u v : String} (h : ∀ l, lastLink db u v = some l → Alike db u v l)

include h

private theorem lookup_edges_of_alike : (graph db).edges.lookup (u, v) =
    (lastLink db u v).map Link.id :=
  lookup_edges hbuild (fun l hl ↦ ⟨(h l hl).kind, (h l hl).src, (h l hl).dst⟩)

private theorem edgeLink_eq : edgeLink db (graph db) u v = lastLink db u v := by
  unfold edgeLink
  rw [lookup_edges_of_alike hbuild h]
  cases hl : lastLink db u v with
  | none => rfl
  | some l =>
    have hget : db.getLink l.id = some l :=
      Database.getLink_eq_some.mpr ⟨(PathFinder.joins_of_lastLink hl).1, rfl⟩
    rw [Option.map_some, truthy_some (h l hl).id_ne]
    exact hget

/-- The backend weighs the edge by the attenuation over the last link. -/
theorem weightFn_eq : weightFn db (graph db) u v = attenuation db u v := by
  have hloss : insertionLoss db (graph db) v = Optical.insertionLoss db v := by
    unfold insertionLoss Optical.insertionLoss
    rw [lookup_nodes]
    cases hd : db.getDevice v with
    | none => rfl
    | some d => cases htype : d.type <;> simp [opticalType, ontClass, passiveInline,
        PathFinder.isPassive, htype]
  unfold weightFn attenuation edgeLossDb
  rw [lookup_edges_of_alike hbuild h, edgeLink_eq hbuild h, hloss]
  cases hl : lastLink db u v with
  | none => rfl
  | some l => simp [← (fiberLoss_eq_iff l).mpr (h l hl).price]

end Buildable

/-- The backend adds up the same lengths where its links are alike. -/
theorem pathTotalLengthKm_eq (hbuild : Buildable db) {path : List String}
    (h : ∀ hop ∈ path.zip path.tail, ∀ l, lastLink db hop.1 hop.2 = some l →
      Alike db hop.1 hop.2 l) :
    pathTotalLengthKm db (graph db) path = pathLength db path := by
  unfold pathTotalLengthKm pathLength
  congr 1
  apply List.map_congr_left
  intro hop hmem
  rw [edgeLink_eq hbuild (h hop hmem)]

/-- The backend knows OLTs by their type. -/
theorem isOlt_eq (id : String) : isOlt (graph db) id = Optical.isOlt db id := by
  unfold isOlt Optical.isOlt
  rw [lookup_nodes]
  cases hd : db.getDevice id with
  | none => rfl
  | some d => cases htype : d.type <;> simp [opticalType, ontClass, passiveInline, htype]

/-- An edge of the backend's graph leaves one of its nodes. -/
theorem mem_nodes_of_edge {u v linkId : String}
    (h : (graph db).edges.lookup (u, v) = some linkId) : u ∈ (graph db).nodes := by
  rw [graph_edges, Dict.lookup_foldl_connect] at h
  cases hfind : (db.links.filterMap (opticalRecord db)).reverse.find? (fun r ↦
      decide (Dict.Joins LinkRecord.aDeviceId LinkRecord.bDeviceId r u v)) with
  | none => simp [hfind] at h
  | some r =>
    have hmem := List.mem_reverse.mp (List.mem_of_find?_eq_some hfind)
    obtain ⟨l, _, hr⟩ := List.mem_filterMap.mp hmem
    obtain ⟨_, _, _, _, ha, hb, _⟩ := opticalRecord_eq_some.mp hr
    have hjoins : Dict.Joins LinkRecord.aDeviceId LinkRecord.bDeviceId r u v := by
      simpa using List.find?_some hfind
    rcases hjoins with ⟨hu, _⟩ | ⟨hu, _⟩
    · exact hu ▸ ha
    · exact hu ▸ hb

end PathResolver

end Unoc.Optical
