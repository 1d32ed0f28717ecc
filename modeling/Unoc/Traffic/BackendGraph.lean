import Unoc.Base.Dict
import Unoc.Status.Affected
import Unoc.Traffic.Topology

/-!
# Device adjacency of the backend

`backend/services/traffic/v2_graph.py`. The backend asks `is_link_passable` about every link and
then decides on its own status once more. The Go engine decides once, and both come to the same
neighbours wherever the ends of the links exist.
-/

namespace Unoc.Traffic.Backend

open Unoc.Base Unoc.Model Unoc.Status

/-- The mappings that `build_adjacency` returns; a pair of devices is a frozen set. -/
structure Adjacency where
  deviceNeighbors : Dict String (Finset String) := ∅
  linkByPair : Dict (Finset String) String := ∅
  ifaceToDevice : Dict String String := ∅

/-- An interface whose device has the override DOWN; `v2_graph.py:39–44`. -/
def endForcedDown (ifaceToDevice : Dict String String)
    (deviceOverrideMap : Dict String (Option Status)) (interfaceId : String) : Bool :=
  (truthy (ifaceToDevice.lookup interfaceId)).any (fun id ↦
    (deviceOverrideMap.lookup id).join = some .down)

/-- `eff`; `v2_graph.py:34–44`. -/
def effectiveStatus (ifaceToDevice : Dict String String)
    (deviceOverrideMap : Dict String (Option Status)) (ln : Link) : Status :=
  match ln.adminOverrideStatus with
  | some override => override
  | none =>
    if endForcedDown ifaceToDevice deviceOverrideMap ln.aInterfaceId then .down
    else if endForcedDown ifaceToDevice deviceOverrideMap ln.bInterfaceId then .down
    else ln.status

/-- `device_neighbors.setdefault(a, set()).add(b)`. -/
def addNeighbor (neighbors : Dict String (Finset String)) (a b : String) :
    Dict String (Finset String) :=
  neighbors.update a ∅ (fun s ↦ insert b s)

/-- The body of the link loop; `v2_graph.py:28–58`. -/
def addLink (isLinkPassable : Link → Bool) (deviceOverrideMap : Dict String (Option Status))
    (g : Adjacency) (ln : Link) : Adjacency :=
  if isLinkPassable ln = false then g
  else if effectiveStatus g.ifaceToDevice deviceOverrideMap ln ≠ .up then g
  else
    match truthy (g.ifaceToDevice.lookup ln.aInterfaceId),
      truthy (g.ifaceToDevice.lookup ln.bInterfaceId) with
    | some aDev, some bDev =>
      { g with
        deviceNeighbors := addNeighbor (addNeighbor g.deviceNeighbors aDev bDev) bDev aDev
        linkByPair := g.linkByPair.insert {aDev, bDev} ln.id }
    | _, _ => g

/-- `build_adjacency`; `v2_graph.py:8–60`. -/
def buildAdjacency (ifaces : List Interface) (links : List Link) (isLinkPassable : Link → Bool)
    (deviceOverrideMap : Dict String (Option Status)) : Adjacency :=
  links.foldl (addLink isLinkPassable deviceOverrideMap)
    { ifaceToDevice := ifaces.foldl (fun m i ↦ m.insert i.id i.deviceId) ∅ }

/-- `device_override_map`; `v2_engine.py:191–193`. -/
def deviceOverrideMap (devices : List Device) : Dict String (Option Status) :=
  devices.foldl (fun m d ↦ m.insert d.id d.adminOverrideStatus) ∅

/-! ### Edges -/

/-- Two ids are the ends of an edge, in either direction. -/
def Joins (e : String × String) (u v : String) : Prop := (e.1 = u ∧ e.2 = v) ∨ (e.2 = u ∧ e.1 = v)

section Edges

variable (isLinkPassable : Link → Bool) (overrides : Dict String (Option Status))

/-- The edge of a link that the loop does not skip. -/
def edge (ifaceToDevice : Dict String String) (ln : Link) : Option (String × String) :=
  if isLinkPassable ln = true ∧ effectiveStatus ifaceToDevice overrides ln = .up then do
    let aDev ← truthy (ifaceToDevice.lookup ln.aInterfaceId)
    let bDev ← truthy (ifaceToDevice.lookup ln.bInterfaceId)
    return (aDev, bDev)
  else none

/-- One more neighbour of a device. -/
theorem mem_addNeighbor {neighbors : Dict String (Finset String)} {a b u v : String} :
    v ∈ ((addNeighbor neighbors a b).lookup u).getD ∅ ↔
      v ∈ (neighbors.lookup u).getD ∅ ∨ (a = u ∧ b = v) := by
  unfold addNeighbor
  by_cases h : u = a
  · subst h
    rw [Dict.lookup_update_self, Option.getD_some, Finset.mem_insert]
    constructor
    · rintro (rfl | hold)
      · exact Or.inr ⟨rfl, rfl⟩
      · exact Or.inl hold
    · rintro (hold | ⟨_, rfl⟩)
      · exact Or.inr hold
      · exact Or.inl rfl
  · rw [Dict.lookup_update_of_ne _ _ _ h]
    constructor
    · exact Or.inl
    · rintro (hold | ⟨rfl, _⟩)
      · exact hold
      · exact absurd rfl h

/-- A link without edge changes nothing. -/
theorem addLink_of_none {g : Adjacency} {ln : Link}
    (h : edge isLinkPassable overrides g.ifaceToDevice ln = none) :
    addLink isLinkPassable overrides g ln = g := by
  unfold edge at h
  unfold addLink
  split
  · rfl
  · next hpass =>
    split
    · rfl
    · next hup =>
      rw [if_pos ⟨Bool.eq_true_of_not_eq_false hpass, not_not.mp hup⟩] at h
      cases ha : truthy (g.ifaceToDevice.lookup ln.aInterfaceId) with
      | none => rfl
      | some a =>
        cases hb : truthy (g.ifaceToDevice.lookup ln.bInterfaceId) with
        | none => rfl
        | some b => simp [ha, hb] at h

/-- A link with an edge joins its two devices. -/
theorem addLink_of_some {g : Adjacency} {ln : Link} {e : String × String}
    (h : edge isLinkPassable overrides g.ifaceToDevice ln = some e) :
    addLink isLinkPassable overrides g ln =
      { g with
        deviceNeighbors := addNeighbor (addNeighbor g.deviceNeighbors e.1 e.2) e.2 e.1
        linkByPair := g.linkByPair.insert {e.1, e.2} ln.id } := by
  unfold edge at h
  split at h
  · next hboth =>
    obtain ⟨a, ha, h⟩ := Option.bind_eq_some_iff.mp h
    obtain ⟨b, hb, h⟩ := Option.bind_eq_some_iff.mp h
    cases h
    unfold addLink
    rw [if_neg (by simp [hboth.1]), if_neg (not_not.mpr hboth.2), ha, hb]
  · cases h

/-- The neighbours after the loop are the ends of the edges of the links. -/
theorem mem_neighbors_foldl (links : List Link) (g : Adjacency) (u v : String) :
    v ∈ ((links.foldl (addLink isLinkPassable overrides) g).deviceNeighbors.lookup u).getD ∅ ↔
      v ∈ (g.deviceNeighbors.lookup u).getD ∅ ∨
        ∃ ln ∈ links, ∃ e, edge isLinkPassable overrides g.ifaceToDevice ln = some e ∧
          Joins e u v := by
  induction links generalizing g with
  | nil => simp
  | cons ln links ih =>
    rw [List.foldl_cons, List.exists_mem_cons_iff]
    cases he : edge isLinkPassable overrides g.ifaceToDevice ln with
    | none =>
      rw [addLink_of_none isLinkPassable overrides he, ih]
      simp
    | some e =>
      rw [addLink_of_some isLinkPassable overrides he, ih]
      dsimp only
      rw [mem_addNeighbor, mem_addNeighbor]
      simp only [Joins, Option.some.injEq, exists_eq_left', or_assoc]

end Edges

/-! ### One link -/

/-- The override of a link decides, else its status and the overrides of both ends. -/
def openLink (ln : Link) (aDown bDown : Bool) : Bool :=
  match ln.adminOverrideStatus with
  | some override => override = .up
  | none => ln.status = .up && !aDown && !bDown

/-- The device of an interface and whether it is forced down, for an end that exists. -/
structure End (db : Database) (interfaceId deviceId : String) (down : Bool) : Prop where
  interface : (db.getInterface interfaceId).map Interface.deviceId = some deviceId
  device : (db.getDevice deviceId).map (fun d ↦ decide (d.adminOverrideStatus = some .down)) =
    some down

private theorem End.unique {db : Database} {interfaceId d d' : String} {down down' : Bool}
    (h : End db interfaceId d down) (h' : End db interfaceId d' down') : d = d' ∧ down = down' := by
  have hd : d = d' := Option.some.inj (h.interface.symm.trans h'.interface)
  subst hd
  exact ⟨rfl, Option.some.inj (h.device.symm.trans h'.device)⟩

/-- The two ends of a link whose interfaces and devices exist. -/
theorem exists_ends {db : Database} {ln : Link} (h : (linkEnds (topology db) ln).isSome) :
    ∃ a b aDown bDown, End db ln.aInterfaceId a aDown ∧ End db ln.bInterfaceId b bDown ∧
      isLinkPassable (topology db) ln = openLink ln aDown bDown := by
  obtain ⟨⟨aDev, bDev⟩, hends⟩ := Option.isSome_iff_exists.mp h
  have hpass : isLinkPassable (topology db) ln = openLink ln aDev.forcedDown bDev.forcedDown := by
    unfold isLinkPassable openLink
    rw [hends]
    cases ln.adminOverrideStatus with
    | some override => rfl
    | none => rw [Bool.and_assoc]
  obtain ⟨aIf, haIf, hends⟩ := Option.bind_eq_some_iff.mp hends
  obtain ⟨bIf, hbIf, hends⟩ := Option.bind_eq_some_iff.mp hends
  obtain ⟨a, ha, hends⟩ := Option.bind_eq_some_iff.mp hends
  obtain ⟨b, hb, hends⟩ := Option.bind_eq_some_iff.mp hends
  cases hends
  rw [topology_getDevice] at ha hb
  obtain ⟨aRow, haRow, rfl⟩ := Option.map_eq_some_iff.mp ha
  obtain ⟨bRow, hbRow, rfl⟩ := Option.map_eq_some_iff.mp hb
  exact ⟨aIf.deviceId, bIf.deviceId, _, _,
    ⟨Option.map_eq_some_iff.mpr ⟨aIf, haIf, rfl⟩, Option.map_eq_some_iff.mpr ⟨aRow, haRow, rfl⟩⟩,
    ⟨Option.map_eq_some_iff.mpr ⟨bIf, hbIf, rfl⟩, Option.map_eq_some_iff.mpr ⟨bRow, hbRow, rfl⟩⟩,
    hpass⟩

section OneLink

variable {db : Database} {ln : Link} {a b : String} {aDown bDown : Bool}
  (ha : End db ln.aInterfaceId a aDown) (hb : End db ln.bInterfaceId b bDown)

include ha hb

/-- The edge that the backend makes of a link. -/
theorem edge_eq {ifaceToDevice : Dict String String} {overrides : Dict String (Option Status)}
    (hiface : ∀ id, ifaceToDevice.lookup id = (db.getInterface id).map Interface.deviceId)
    (hoverride : ∀ id, overrides.lookup id = (db.getDevice id).map Device.adminOverrideStatus)
    (hpass : isLinkPassable (topology db) ln = openLink ln aDown bDown) :
    edge (isLinkPassable (topology db)) overrides ifaceToDevice ln =
      if openLink ln aDown bDown = true ∧ a ≠ "" ∧ b ≠ "" then some (a, b) else none := by
  have hdown : ∀ {interfaceId deviceId : String} {down : Bool}, End db interfaceId deviceId down →
      deviceId ≠ "" → endForcedDown ifaceToDevice overrides interfaceId = down := by
    intro interfaceId deviceId down hend hne
    obtain ⟨d, hd, rfl⟩ := Option.map_eq_some_iff.mp hend.device
    unfold endForcedDown
    rw [hiface, hend.interface, truthy_some hne, Option.any_some, hoverride, hd]
    rfl
  unfold edge
  rw [hiface, hiface, ha.interface, hb.interface, hpass]
  by_cases hane : a = ""
  · simp [hane, truthy, Option.filter_some]
  · by_cases hbne : b = ""
    · simp [hbne, truthy, Option.filter_some]
    · have hstatus : openLink ln aDown bDown = true →
          effectiveStatus ifaceToDevice overrides ln = .up := by
        unfold openLink effectiveStatus
        rw [hdown ha hane, hdown hb hbne]
        cases ln.adminOverrideStatus with
        | some override => simp
        | none => cases aDown <;> cases bDown <;> simp
      rw [truthy_some hane, truthy_some hbne]
      by_cases hopen : openLink ln aDown bDown = true
      · simp [hopen, hstatus hopen, hane, hbne]
      · simp [hopen]

/-- The engine passes a link exactly where the backend makes an edge of it. -/
theorem passable_eq {cache : TopologyCache}
    (hiface : ∀ id, cache.interfaceByID.lookup id = db.getInterface id)
    (hdevice : ∀ id, cache.deviceByID.lookup id = db.getDevice id) :
    passable cache ln = (openLink ln aDown bDown && a ≠ "" && b ≠ "") := by
  have hdown : ∀ {interfaceId deviceId : String} {down : Bool}, End db interfaceId deviceId down →
      ifaceDevice cache interfaceId = deviceId ∧ forcedDown cache deviceId = down := by
    intro interfaceId deviceId down hend
    obtain ⟨d, hd, rfl⟩ := Option.map_eq_some_iff.mp hend.device
    constructor
    · rw [ifaceDevice, hiface, hend.interface]
      rfl
    · rw [forcedDown, hdevice, hd]
      rfl
  obtain ⟨haDev, haDown⟩ := hdown ha
  obtain ⟨hbDev, hbDown⟩ := hdown hb
  unfold passable openLink
  rw [haDev, hbDev, haDown, hbDown]
  cases ln.adminOverrideStatus with
  | some override => rfl
  | none => cases aDown <;> cases bDown <;> simp

private theorem joins_iff {cache : TopologyCache} {u v : String}
    (hiface : ∀ id, cache.interfaceByID.lookup id = db.getInterface id) :
    Traffic.Joins cache ln u v ↔ Joins (a, b) u v := by
  unfold Traffic.Joins Joins ifaceDevice
  rw [hiface, hiface, ha.interface, hb.interface, and_comm (a := b = u)]
  rfl

end OneLink

/-! ### Agreement with the engine -/

/-- The neighbours of a device in the backend's graph. -/
def Adjacency.neighbors (g : Adjacency) (deviceId : String) : Finset String :=
  (g.deviceNeighbors.lookup deviceId).getD ∅

/-- The neighbours of a device in the engine's graph. -/
def engineNeighbors (g : AdjacencyGraph) (deviceId : String) : Finset String :=
  (g.neighbors.lookup deviceId).getD ∅

/-- Two devices are joined by a link that both builders pass. -/
def Linked (db : Database) (u v : String) : Prop :=
  ∃ ln ∈ db.links, ∃ a b aDown bDown, End db ln.aInterfaceId a aDown ∧
    End db ln.bInterfaceId b bDown ∧ (openLink ln aDown bDown = true ∧ a ≠ "" ∧ b ≠ "") ∧
      Joins (a, b) u v

private theorem Linked.symm {db : Database} {u v : String} (h : Linked db u v) : Linked db v u := by
  obtain ⟨ln, hln, a, b, aDown, bDown, ha, hb, hopen, hjoins⟩ := h
  exact ⟨ln, hln, a, b, aDown, bDown, ha, hb, hopen, hjoins.symm.imp And.symm And.symm⟩

section Builders

variable {db : Database} (hends : ∀ ln ∈ db.links, (linkEnds (topology db) ln).isSome)
  {devices : List Device} {interfaces : List Interface} {links : List Link}
  (hdevices : devices.Perm db.devices) (hinterfaces : interfaces.Perm db.interfaces)
  (hlinks : links.Perm db.links)

include hends hdevices hinterfaces hlinks

/-- The backend's neighbours are the linked devices. -/
theorem mem_neighbors_backend (u v : String) :
    v ∈ (buildAdjacency interfaces links (isLinkPassable (topology db))
        (deviceOverrideMap devices)).neighbors u ↔ Linked db u v := by
  have hiface := lookup_foldl_rows Interface.deviceId db.interfaces_nodup hinterfaces
  have hoverride : ∀ id, (deviceOverrideMap devices).lookup id =
      (db.getDevice id).map Device.adminOverrideStatus :=
    lookup_foldl_rows Device.adminOverrideStatus db.devices_nodup hdevices
  unfold Adjacency.neighbors buildAdjacency
  rw [mem_neighbors_foldl]
  simp only [AList.lookup_empty, Option.getD_none, Finset.notMem_empty, false_or]
  constructor
  · rintro ⟨ln, hln, e, he, hjoins⟩
    have hmem := hlinks.mem_iff.mp hln
    obtain ⟨a, b, aDown, bDown, ha, hb, hpass⟩ := exists_ends (hends ln hmem)
    rw [edge_eq ha hb hiface hoverride hpass] at he
    obtain ⟨hopen, he⟩ := Option.ite_none_right_eq_some.mp he
    cases he
    exact ⟨ln, hmem, a, b, aDown, bDown, ha, hb, hopen, hjoins⟩
  · rintro ⟨ln, hmem, a, b, aDown, bDown, ha, hb, hopen, hjoins⟩
    obtain ⟨a', b', aDown', bDown', ha', hb', hpass⟩ := exists_ends (hends ln hmem)
    obtain ⟨rfl, rfl⟩ := ha.unique ha'
    obtain ⟨rfl, rfl⟩ := hb.unique hb'
    refine ⟨ln, hlinks.mem_iff.mpr hmem, (a, b), ?_, hjoins⟩
    rw [edge_eq ha hb hiface hoverride hpass, if_pos hopen]

private theorem mem_neighbors_engine (o : AdjacencyOrders) (tariffs : List Tariff)
    (hardwareModels : List HardwareModel) (portProfiles : List PortProfile) (u v : String) :
    v ∈ engineNeighbors (Traffic.buildAdjacency o (buildTopologyCacheWithCatalog devices links
        interfaces tariffs hardwareModels portProfiles)) u ↔ Linked db u v := by
  have hdevice : ∀ id, (buildTopologyCacheWithCatalog devices links interfaces tariffs
      hardwareModels portProfiles).deviceByID.lookup id = db.getDevice id :=
    lookup_deviceByID hdevices
  have hiface : ∀ id, (buildTopologyCacheWithCatalog devices links interfaces tariffs
      hardwareModels portProfiles).interfaceByID.lookup id = db.getInterface id :=
    lookup_interfaceByID hinterfaces
  unfold engineNeighbors
  rw [mem_neighbors_buildAdjacency]
  constructor
  · rintro ⟨i, listed, ln, hi, hln, hpassable, hjoins⟩
    have hmem := hlinks.mem_iff.mp (listed_buildTopologyCacheWithCatalog hi hln)
    obtain ⟨a, b, aDown, bDown, ha, hb, _⟩ := exists_ends (hends ln hmem)
    rw [passable_eq ha hb hiface hdevice] at hpassable
    refine ⟨ln, hmem, a, b, aDown, bDown, ha, hb, by simpa [and_assoc] using hpassable, ?_⟩
    rw [joins_iff ha hb hiface] at hjoins
    exact hjoins
  · rintro ⟨ln, hmem, a, b, aDown, bDown, ha, hb, hopen, hjoins⟩
    obtain ⟨i, listed, hi, hln⟩ := exists_listed_buildTopologyCacheWithCatalog
      (hlinks.mem_iff.mpr hmem)
    refine ⟨i, listed, ln, hi, hln, ?_, ?_⟩
    · rw [passable_eq ha hb hiface hdevice]
      simpa [and_assoc] using hopen
    · rw [joins_iff ha hb hiface]
      exact hjoins

end Builders

/-- Where the interfaces and devices of all links exist, both builders give every device the same
neighbours, in whatever order the rows are processed, and both relations are symmetric. -/
theorem adjacency_builders_agree (db : Database)
    (hends : ∀ ln ∈ db.links, (linkEnds (topology db) ln).isSome)
    {devices devices' : List Device} (hdevices : devices.Perm db.devices)
    (hdevices' : devices'.Perm db.devices) {interfaces interfaces' : List Interface}
    (hinterfaces : interfaces.Perm db.interfaces) (hinterfaces' : interfaces'.Perm db.interfaces)
    {links links' : List Link} (hlinks : links.Perm db.links) (hlinks' : links'.Perm db.links)
    (o : AdjacencyOrders) (tariffs : List Tariff) (hardwareModels : List HardwareModel)
    (portProfiles : List PortProfile) {go : AdjacencyGraph} {python : Adjacency}
    (hgo : go = Traffic.buildAdjacency o (buildTopologyCacheWithCatalog devices links interfaces
      tariffs hardwareModels portProfiles))
    (hpython : python = buildAdjacency interfaces' links' (isLinkPassable (topology db))
      (deviceOverrideMap devices')) :
    (∀ u, engineNeighbors go u = python.neighbors u) ∧
      (∀ u v, v ∈ engineNeighbors go u → u ∈ engineNeighbors go v) ∧
        ∀ u v, v ∈ python.neighbors u → u ∈ python.neighbors v := by
  have hengine : ∀ u v, v ∈ engineNeighbors go u ↔ Linked db u v := by
    rw [hgo]
    exact mem_neighbors_engine hends hdevices hinterfaces hlinks o tariffs hardwareModels
      portProfiles
  have hbackend : ∀ u v, v ∈ python.neighbors u ↔ Linked db u v := by
    rw [hpython]
    exact mem_neighbors_backend hends hdevices' hinterfaces' hlinks'
  refine ⟨?_, ?_, ?_⟩
  · intro u
    ext v
    rw [hengine, hbackend]
  · intro u v hv
    exact (hengine v u).mpr ((hengine u v).mp hv).symm
  · intro u v hv
    exact (hbackend v u).mpr ((hbackend u v).mp hv).symm

/-- An OLT that is forced down, with one link that is forced up and one that is not. -/
def forcedDownOlt : Database where
  devices := [{ id := "core", type := .coreRouter },
    { id := "olt", type := .olt, adminOverrideStatus := some .down },
    { id := "ont", type := .ont }]
  interfaces := [{ id := "core-p1", deviceId := "core", name := "p1" },
    { id := "olt-p1", deviceId := "olt", name := "p1" },
    { id := "olt-p2", deviceId := "olt", name := "p2" },
    { id := "ont-p1", deviceId := "ont", name := "p1" }]
  links := [{ id := "uplink", aInterfaceId := "core-p1", bInterfaceId := "olt-p1",
              adminOverrideStatus := some .up },
    { id := "drop", aInterfaceId := "olt-p2", bInterfaceId := "ont-p1" }]

/-- An OLT that is forced down has no neighbours on either side. -/
theorem adjacency_builders_agree_forced_down_olt :
    engineNeighbors (Traffic.buildAdjacency ⟨.ascending, .descending, .descending⟩
        (buildTopologyCacheWithCatalog forcedDownOlt.devices forcedDownOlt.links
          forcedDownOlt.interfaces [] [] [])) "olt" =
      (buildAdjacency forcedDownOlt.interfaces.reverse forcedDownOlt.links.reverse
        (isLinkPassable (topology forcedDownOlt))
          (deviceOverrideMap forcedDownOlt.devices)).neighbors "olt" ∧
    engineNeighbors (Traffic.buildAdjacency ⟨.ascending, .descending, .descending⟩
        (buildTopologyCacheWithCatalog forcedDownOlt.devices forcedDownOlt.links
          forcedDownOlt.interfaces [] [] [])) "olt" = {"core"} := by
  have hends : ∀ ln ∈ forcedDownOlt.links, (linkEnds (topology forcedDownOlt) ln).isSome := by
    decide
  refine ⟨(adjacency_builders_agree forcedDownOlt hends (.refl _) (.refl _) (.refl _)
    (List.reverse_perm _) (.refl _) (List.reverse_perm _) ⟨.ascending, .descending, .descending⟩
    [] [] [] rfl rfl).1 "olt", ?_⟩
  decide +kernel

end Unoc.Traffic.Backend
