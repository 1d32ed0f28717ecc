import Unoc.Base.Components
import Unoc.Model.Database
import Unoc.Status.Affected

/-!
# The graph index

`GraphIndex` of `backend/services/graph_index.py` reads the interfaces, links and devices once and
keeps the neighbors of every device together with the id of its region, a connected component of the
device adjacency.
-/

namespace Unoc.Regions

open Unoc.Base Unoc.Model
open Unoc.Status (truthy)

/-! ### Sets by key -/

/-- `m.get(key, set())`; a set is the list of its members. -/
def members (m : Dict String (List String)) (key : String) : List String :=
  (m.lookup key).getD []

/-- `m.setdefault(key, set()).add(x)`. -/
def addTo (m : Dict String (List String)) (key x : String) : Dict String (List String) :=
  m.update key [] (List.insert x)

/-- `m.setdefault(key, set())`. -/
def setDefault (m : Dict String (List String)) (key : String) : Dict String (List String) :=
  m.update key [] id

section Sets

variable {m : Dict String (List String)} {key k x y : String}

private theorem mem_members_addTo : x ∈ members
    (addTo m key y) k ↔ x ∈ members m k ∨ k = key ∧ x = y := by
  unfold members addTo
  by_cases hk : k = key
  · rw [hk, Dict.lookup_update_self, Option.getD_some, List.mem_insert_iff]
    simp [or_comm]
  · rw [Dict.lookup_update_of_ne _ _ _ hk]
    simp [hk]

private theorem members_setDefault : members (setDefault m key) k = members m k := by
  unfold members setDefault
  by_cases hk : k = key
  · rw [hk, Dict.lookup_update_self]
    rfl
  · rw [Dict.lookup_update_of_ne _ _ _ hk]

private theorem mem_setDefault : k ∈ setDefault m key ↔ k = key ∨ k ∈ m := AList.mem_insert m

/-- A member belongs to a key. -/
theorem mem_of_mem_members (h : x ∈ members m key) : key ∈ m := by
  unfold members at h
  cases hlookup : m.lookup key with
  | none =>
    rw [hlookup] at h
    cases h
  | some xs => exact AList.lookup_isSome.mp (by rw [hlookup]; rfl)

end Sets

/-! ### The adjacency -/

/-- `device_neighbors`: neighbors in both directions. -/
structure DeviceNeighbors where
  sets : Dict String (List String) := ∅
  symm : ∀ a b, b ∈ members sets a → a ∈ members sets b := by
    intro a b h
    cases h

namespace DeviceNeighbors

variable (g : DeviceNeighbors)

/-- Both directions of a link; `graph_index.py:81–83`. -/
def join (a b : String) : DeviceNeighbors where
  sets := addTo (addTo g.sets a b) b a
  symm x y h := by
    simp only [mem_members_addTo] at h ⊢
    rcases h with (h | ⟨hx, hy⟩) | ⟨hx, hy⟩
    · exact .inl (.inl (g.symm x y h))
    · exact .inr ⟨hy, hx⟩
    · exact .inl (.inr ⟨hy, hx⟩)

/-- A device without neighbors so far; `graph_index.py:88`. -/
def ensure (id : String) : DeviceNeighbors where
  sets := setDefault g.sets id
  symm x y h := by
    rw [members_setDefault] at h ⊢
    exact g.symm x y h

/-- The visiting order of `_compute_regions`: sorted neighbors; `graph_index.py:105`. -/
def next (id : String) : List String := sortedSet (members g.sets id)

/-- `sorted(self.device_neighbors.keys())`; `graph_index.py:95`. -/
def deviceIds : List String := sortedSet g.sets.keys

end DeviceNeighbors

/-! ### The index -/

/-- What `build` collects from links and devices; `graph_index.py:53–55`. -/
structure DeviceMaps where
  linkEndpoints : Dict String (String × String) := ∅
  linksByDevice : Dict String (List String) := ∅
  deviceNeighbors : DeviceNeighbors := {}

/-- `GraphIndex`; `graph_index.py:47–56`. -/
structure GraphIndex extends DeviceMaps where
  deviceByIface : Dict String String := ∅
  regionOfDevice : Dict String String := ∅

/-- The devices at the ends of a link, if both are set; `graph_index.py:74–77`. -/
def endpoints (deviceByIface : Dict String String) (ln : Link) : Option (String × String) := do
  let aDev ← truthy (deviceByIface.lookup ln.aInterfaceId)
  let bDev ← truthy (deviceByIface.lookup ln.bInterfaceId)
  return (aDev, bDev)

/-- The body of the link loop; `graph_index.py:73–83`. -/
def addLink (deviceByIface : Dict String String) (maps : DeviceMaps) (ln : Link) : DeviceMaps :=
  match endpoints deviceByIface ln with
  | none => maps
  | some (aDev, bDev) =>
    { linkEndpoints := maps.linkEndpoints.insert ln.id (aDev, bDev)
      linksByDevice := addTo (addTo maps.linksByDevice aDev ln.id) bDev ln.id
      deviceNeighbors := maps.deviceNeighbors.join aDev bDev }

/-- The body of the device loop; `graph_index.py:86–88`. -/
def addDevice (maps : DeviceMaps) (dev : Device) : DeviceMaps :=
  { maps with
    linksByDevice := setDefault maps.linksByDevice dev.id
    deviceNeighbors := maps.deviceNeighbors.ensure dev.id }

/-- The name of a region, by its first device and its size. -/
def regionName (first : String) (size : Nat) : String := "r:" ++ first ++ ":" ++ toString size

/-- `region_id`; a component has a first device; `graph_index.py:110`. -/
def regionId (component : List String) : String :=
  regionName (component.headD "") component.length

/-- `_compute_regions`; every device is queued at most once; `graph_index.py:93–112`. -/
def computeRegions (neighbors : DeviceNeighbors) (regionOfDevice : Dict String String) :
    Dict String String :=
  Components.sweep neighbors.next neighbors.deviceIds.length (Components.assign regionId)
    neighbors.deviceIds regionOfDevice

/-- Every map without its entries; `graph_index.py:61–65`. -/
def GraphIndex.clear (_ : GraphIndex) : GraphIndex where
  deviceByIface := ∅
  linkEndpoints := ∅
  linksByDevice := ∅
  deviceNeighbors := {}
  regionOfDevice := ∅

namespace GraphIndex

variable (gi : GraphIndex)

/-- `build`; `graph_index.py:58–91`. -/
def build (db : Database) : GraphIndex :=
  let gi := gi.clear
  let deviceByIface := db.interfaces.foldl (fun m i ↦ m.insert i.id i.deviceId) gi.deviceByIface
  let maps := db.links.foldl (addLink deviceByIface) gi.toDeviceMaps
  let maps := db.devices.foldl addDevice maps
  { maps with
    deviceByIface := deviceByIface
    regionOfDevice := computeRegions maps.deviceNeighbors gi.regionOfDevice }

/-- `neighbors_device`; `graph_index.py:116–117`. -/
def neighborsDevice (deviceId : String) : List String :=
  members gi.deviceNeighbors.sets deviceId

/-- `region_id_of_device`; `graph_index.py:123–124`. -/
def regionIdOfDevice (deviceId : String) : String :=
  (gi.regionOfDevice.lookup deviceId).getD (regionName deviceId 1)

end GraphIndex

/-! ### What the rows say -/

/-- An interface row has a device id, which is not empty. -/
def BelongsTo (db : Database) (interfaceId id : String) : Prop :=
  id ≠ "" ∧ ∃ i ∈ db.interfaces, i.id = interfaceId ∧ i.deviceId = id

/-- A link row joins two devices. -/
def Linked (db : Database) (a b : String) : Prop :=
  ∃ ln ∈ db.links, BelongsTo db ln.aInterfaceId a ∧ BelongsTo db ln.bInterfaceId b ∨
    BelongsTo db ln.aInterfaceId b ∧ BelongsTo db ln.bInterfaceId a

/-- Links have no direction. -/
theorem Linked.symm {db : Database} {a b : String} (h : Linked db a b) : Linked db b a := by
  have ⟨ln, hln, hends⟩ := h
  exact ⟨ln, hln, hends.symm⟩

/-- Links have no direction. -/
instance (db : Database) : Std.Symm (Linked db) := ⟨fun _ _ ↦ Linked.symm⟩

section Build

variable {deviceByIface : Dict String String} {maps : DeviceMaps} {ln : Link} {links : List Link}
  {devices : List Device} {gi : GraphIndex} {db : Database} {a b : String}

/-- The devices of a link are neighbors. -/
theorem mem_members_addLink :
    b ∈ members (addLink deviceByIface maps ln).deviceNeighbors.sets a ↔
      b ∈ members maps.deviceNeighbors.sets a ∨ endpoints deviceByIface ln = some (a, b) ∨
        endpoints deviceByIface ln = some (b, a) := by
  unfold addLink
  split
  next hnone => simp [hnone]
  next aDev bDev hsome =>
    simp only [hsome, DeviceNeighbors.join, mem_members_addTo, Option.some.injEq, Prod.mk.injEq,
      or_assoc]
    grind

private theorem mem_members_foldl_addLink :
    b ∈ members (links.foldl (addLink deviceByIface) maps).deviceNeighbors.sets a ↔
      b ∈ members maps.deviceNeighbors.sets a ∨
        ∃ ln ∈ links, endpoints deviceByIface ln = some (a, b) ∨
          endpoints deviceByIface ln = some (b, a) := by
  induction links generalizing maps with
  | nil => simp
  | cons ln links ih =>
    rw [List.foldl_cons, ih, mem_members_addLink, or_assoc]
    simp only [List.mem_cons, exists_eq_or_imp]

private theorem members_foldl_addDevice :
    members (devices.foldl addDevice maps).deviceNeighbors.sets a =
      members maps.deviceNeighbors.sets a := by
  induction devices generalizing maps with
  | nil => rfl
  | cons dev devices ih =>
    rw [List.foldl_cons, ih]
    exact members_setDefault

/-- Every device has an entry. -/
theorem mem_foldl_addDevice : a ∈ (devices.foldl addDevice maps).deviceNeighbors.sets ↔
    a ∈ maps.deviceNeighbors.sets ∨ ∃ dev ∈ devices, dev.id = a := by
  induction devices generalizing maps with
  | nil => simp
  | cons dev devices ih =>
    have hstep : a ∈ (addDevice maps dev).deviceNeighbors.sets ↔
        a = dev.id ∨ a ∈ maps.deviceNeighbors.sets := mem_setDefault
    rw [List.foldl_cons, ih, hstep]
    simp only [List.mem_cons, exists_eq_or_imp]
    grind

private theorem truthy_lookup {interfaceId : String} :
    truthy ((db.interfaces.foldl (fun m i ↦ m.insert i.id i.deviceId) (∅ : Dict String String)).lookup
      interfaceId) = some a ↔ BelongsTo db interfaceId a := by
  rw [lookup_foldl_rows Interface.deviceId db.interfaces_nodup (List.Perm.refl _)]
  simp only [truthy, Option.filter_eq_some_iff, Option.map_eq_some_iff,
    find?_key_eq_some db.interfaces_nodup, BelongsTo, decide_eq_true_eq, and_assoc]
  exact and_comm

/-- The endpoints of a link are the devices of its interfaces. -/
theorem endpoints_eq_some :
    endpoints (db.interfaces.foldl (fun m i ↦ m.insert i.id i.deviceId) ∅) ln = some (a, b) ↔
      BelongsTo db ln.aInterfaceId a ∧ BelongsTo db ln.bInterfaceId b := by
  rw [← truthy_lookup, ← truthy_lookup]
  simp [endpoints, Option.bind_eq_some_iff]

/-- The neighbors of a device are those that a link row joins to it. -/
theorem mem_neighborsDevice : b ∈ (gi.build db).neighborsDevice a ↔ Linked db a b := by
  have hbuild : (gi.build db).neighborsDevice a = members (db.devices.foldl addDevice
      (db.links.foldl (addLink (db.interfaces.foldl (fun m i ↦ m.insert i.id i.deviceId) ∅))
        {})).deviceNeighbors.sets a := rfl
  rw [hbuild, members_foldl_addDevice, mem_members_foldl_addLink]
  simp only [endpoints_eq_some]
  exact or_iff_right List.not_mem_nil

end Build

end Unoc.Regions
