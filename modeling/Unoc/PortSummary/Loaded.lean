import Mathlib.Data.Finset.Card
import Unoc.PortSummary.Tables

/-!
# The tables of a database state

What a successful `LoadInitialState` leaves, in terms of the rows that it has read: the lookups by
id, the interfaces of a device in the order in which the `range` visits them, and the number of ONTs
that are counted on a PON port.
-/

namespace Unoc.PortSummary

open Unoc.Base Unoc.Model Unoc.Traffic

/-- The tables after a load from a database state. -/
def loadedFrom (orders : Orders) (db : Database) : Tables :=
  loadInitialState orders db.devices db.interfaces db.links

/-- The tables that `computeOpticalPaths` reads. -/
def indexedFrom (orders : Orders) (db : Database) : Tables :=
  (((({} : Tables).loadDevices db.devices).loadInterfaces db.interfaces).loadLinks
    db.links).buildIndexes orders

/-- The PON port that `computeOpticalPaths` stores for a device. -/
def Tables.opticalPath (t : Tables) (device : Device) : Option String :=
  if device.type ≠ .ont then none
  else ((Tables.opticalInterface (t.interfacesOf device.id)).bind
    (fun i ↦ t.traceToPON i.id)).filter (· ≠ "")

/-- The ONTs that are counted on a port. -/
def countedOnts (orders : Orders) (db : Database) (ponInterfaceId : String) : Nat :=
  db.devices.countP (fun d ↦
    d.provisioned ∧ (indexedFrom orders db).opticalPath d = some ponInterfaceId)

/-- The interfaces of a device in the order of the `range` over all interfaces. -/
def visitedInterfaces (orders : Orders) (db : Database) (deviceId : String) : List Interface :=
  ((orders.interfaces.keys (db.interfaces.map Interface.id).toFinset).filterMap
    db.getInterface).filter (fun i ↦ i.deviceId = deviceId)

/-! ### Tables by key -/

section Rows

variable {α : Type} {key : α → String} {rows : List α} (hnodup : (rows.map key).Nodup)

include hnodup

/-- A table filled by key finds what a query by key finds. -/
theorem lookup_rows (id : String) :
    (rows.foldl (fun m r ↦ m.insert (key r) r) (∅ : GoMap String α)).lookup id =
      rows.find? (fun r ↦ key r = id) := by
  refine (lookup_foldl_rows (fun r ↦ r) hnodup (List.Perm.refl _) id).trans ?_
  rw [Option.map_id']

private theorem keySet_rows :
    (rows.foldl (fun m r ↦ m.insert (key r) r) (∅ : GoMap String α)).keySet =
      (rows.map key).toFinset := by
  ext id
  rw [GoMap.keySet, List.mem_toFinset, ← AList.mem_keys, ← AList.lookup_isSome, lookup_rows hnodup,
    List.mem_toFinset, List.mem_map, Option.isSome_iff_exists]
  simp only [find?_key_eq_some hnodup]

/-- Rows with distinct keys are all in the map. -/
theorem length_keys_rows :
    (rows.foldl (fun m r ↦ m.insert (key r) r) (∅ : GoMap String α)).keys.length = rows.length := by
  have hcard := congrArg Finset.card (keySet_rows hnodup)
  rw [GoMap.keySet, List.toFinset_card_of_nodup (AList.keys_nodup _),
    List.toFinset_card_of_nodup hnodup, List.length_map] at hcard
  exact hcard

/-- The `range` over a table visits its rows in the order of their keys. -/
theorem range_rows (order : RangeOrder String) :
    ((rows.foldl (fun m r ↦ m.insert (key r) r) (∅ : GoMap String α)).range order).map Prod.snd =
      (order.keys (rows.map key).toFinset).filterMap
          (fun id ↦ rows.find? (fun r ↦ key r = id)) := by
  rw [GoMap.range, keySet_rows hnodup, List.map_filterMap]
  refine List.filterMap_congr (fun id _ ↦ ?_)
  rw [lookup_rows hnodup, Option.map_map]
  exact Option.map_id'

end Rows

variable (orders : Orders) (db : Database)

/-- The loaded devices are the rows. -/
theorem lookup_loaded_devices (id : String) :
    (loadedFrom orders db).devices.lookup id = db.getDevice id :=
  lookup_rows db.devices_nodup id

private theorem lookup_indexed_devices (id : String) :
    (indexedFrom orders db).devices.lookup id = db.getDevice id :=
  lookup_loaded_devices orders db id

/-- The indexed interfaces are the rows. -/
theorem lookup_indexed_interfaces (id : String) :
    (indexedFrom orders db).interfaces.lookup id = db.getInterface id :=
  lookup_rows db.interfaces_nodup id

private theorem range_indexed_interfaces :
    ((indexedFrom orders db).interfaces.range orders.interfaces).map Prod.snd =
      (orders.interfaces.keys (db.interfaces.map Interface.id).toFinset).filterMap
        db.getInterface :=
  range_rows db.interfaces_nodup orders.interfaces

/-- The links are visited in the order of the map. -/
theorem range_indexed_links :
    ((indexedFrom orders db).links.range orders.links).map Prod.snd =
      (orders.links.keys (db.links.map Link.id).toFinset).filterMap db.getLink :=
  range_rows db.links_nodup orders.links

/-- The index lists the interfaces of a device in the order of the `range`. -/
theorem interfacesOf_loaded (deviceId : String) :
    (loadedFrom orders db).interfacesOf deviceId = visitedInterfaces orders db deviceId := by
  have h := Dict.lookup_foldl_collect (fun e : String × Interface ↦ some e.2.deviceId) Prod.snd
    ((indexedFrom orders db).interfaces.range orders.interfaces) deviceId
  refine h.trans ?_
  rw [visitedInterfaces, ← range_indexed_interfaces, List.filter_map]
  congr 1
  refine List.filter_congr (fun e _ ↦ ?_)
  simp

/-- The visited interfaces of a device are its rows. -/
theorem mem_visitedInterfaces {deviceId : String} {iface : Interface} :
    iface ∈ visitedInterfaces orders db deviceId ↔
      iface ∈ db.interfaces.filter (fun i ↦ i.deviceId = deviceId) := by
  simp only [visitedInterfaces, List.mem_filter, List.mem_filterMap, orders.interfaces.mem_keys,
    Database.getInterface_eq_some, List.mem_toFinset, List.mem_map]
  constructor
  · rintro ⟨⟨id, _, hmem, _⟩, hdevice⟩
    exact ⟨hmem, hdevice⟩
  · rintro ⟨hmem, hdevice⟩
    exact ⟨⟨iface.id, ⟨iface, hmem, rfl⟩, hmem, rfl⟩, hdevice⟩

private theorem nodup_visitedInterfaces (deviceId : String) :
    (visitedInterfaces orders db deviceId).Nodup := by
  refine List.Nodup.filter _ ((orders.interfaces.nodup _).filterMap ?_)
  intro id id' iface h h'
  rw [Option.mem_def, Database.getInterface_eq_some] at h h'
  exact h.2.symm.trans h'.2

/-- The visited interfaces are the rows of the device. -/
theorem visitedInterfaces_perm (deviceId : String) :
    (visitedInterfaces orders db deviceId).Perm
      (db.interfaces.filter (fun i ↦ i.deviceId = deviceId)) := by
  rw [List.perm_ext_iff_of_nodup (nodup_visitedInterfaces orders db deviceId)
    (List.Nodup.filter _ (List.Nodup.of_map _ db.interfaces_nodup))]
  intro iface
  exact mem_visitedInterfaces orders db

/-! ### ONTs on a PON port -/

private theorem addOpticalPath_eq (t : Tables) (paths : GoMap String String) (device : Device) :
    t.addOpticalPath paths device =
      GoMap.insertValid paths device.id (t.opticalPath device) := by
  rw [Tables.addOpticalPath, Tables.opticalPath]
  split
  · rfl
  · split
    · next pon hpon =>
      rw [hpon]
      by_cases hempty : pon = ""
      · rw [if_pos hempty, Option.filter_some_neg (by simpa using hempty)]
        rfl
      · rw [if_neg hempty, Option.filter_some_pos (by simpa using hempty)]
        rfl
    · next hnone =>
      rw [hnone]
      rfl

/-- The path of each device, under its id. -/
theorem lookup_opticalPaths (id : String) :
    ((indexedFrom orders db).computeOpticalPaths orders).opticalPaths.lookup id =
      (db.getDevice id).bind (indexedFrom orders db).opticalPath := by
  have hfill := lookup_fill (indexedFrom orders db).devices orders.devices
    (fun _ d ↦ (indexedFrom orders db).opticalPath d) id
  rw [lookup_indexed_devices] at hfill
  refine Eq.trans (congrArg (AList.lookup id) ?_) hfill
  refine List.foldl_ext _ _ _ (fun paths e he ↦ ?_)
  have hdevice : e.2.id = e.1 := by
    have hlookup := GoMap.mem_range.mp he
    rw [lookup_indexed_devices, Database.getDevice_eq_some] at hlookup
    exact hlookup.2
  rw [addOpticalPath_eq, hdevice]

/-- The port under which an entry of `opticalPaths` is counted. -/
private def countKey (e : String × String) : Option (String × String) :=
  (db.getInterface e.2).bind (fun pon ↦
    if (db.getDevice e.1).any Device.provisioned then some (pon.deviceId, e.2) else none)

private theorem countOnt_eq (occupancy : GoMap (String × String) Nat) (e : String × String) :
    ((indexedFrom orders db).computeOpticalPaths orders).countOnt occupancy e.1 e.2 =
      Dict.count (countKey db) occupancy e := by
  have hinterface : ((indexedFrom orders db).computeOpticalPaths orders).interfaces.lookup e.2 =
      db.getInterface e.2 := lookup_indexed_interfaces orders db e.2
  have hdevice : ((indexedFrom orders db).computeOpticalPaths orders).devices.lookup e.1 =
      db.getDevice e.1 := lookup_indexed_devices orders db e.1
  rw [Dict.count, Dict.accumulate, countKey, Tables.countOnt, hinterface, hdevice]
  cases db.getInterface e.2 with
  | none => rfl
  | some pon =>
    by_cases hprovisioned : (db.getDevice e.1).any Device.provisioned
    · simp only [hprovisioned, Option.bind_some, if_true]
      rfl
    · simp only [hprovisioned, Option.bind_some, if_false, Bool.false_eq_true]

/-- The occupancy under a key counts the paths with this key. -/
private theorem ponOccupancy_eq_length (port : String × String) :
    ((loadedFrom orders db).ponOccupancy.lookup port).getD 0 =
      ((((indexedFrom orders db).computeOpticalPaths orders).opticalPaths.range
        orders.opticalPaths).filter (fun e ↦ countKey db e = some port)).length := by
  have hfold : (loadedFrom orders db).ponOccupancy =
      (((indexedFrom orders db).computeOpticalPaths orders).opticalPaths.range
        orders.opticalPaths).foldl (Dict.count (countKey db)) ∅ :=
    List.foldl_ext _ _ _ (fun occupancy e _ ↦ countOnt_eq orders db occupancy e)
  rw [hfold, Dict.lookup_foldl_count, List.countP_eq_length_filter]

/-- Only ports of the database are counted. -/
theorem ponOccupancy_of_no_port {port : String × String}
    (h : ∀ iface ∈ db.interfaces, (iface.deviceId, iface.id) ≠ port) :
    ((loadedFrom orders db).ponOccupancy.lookup port).getD 0 = 0 := by
  rw [ponOccupancy_eq_length, List.length_eq_zero_iff, List.filter_eq_nil_iff]
  intro e _ hkey
  rw [decide_eq_true_eq, countKey, Option.bind_eq_some_iff] at hkey
  obtain ⟨pon, hpon, hif⟩ := hkey
  split at hif
  · have hrow := Database.getInterface_eq_some.mp hpon
    apply h pon hrow.1
    rw [hrow.2]
    exact Option.some.inj hif
  · cases hif

/-- The occupancy of a port is the number of ONTs counted on it. -/
theorem lookup_ponOccupancy {iface : Interface} (hiface : iface ∈ db.interfaces) :
    ((loadedFrom orders db).ponOccupancy.lookup (iface.deviceId, iface.id)).getD 0 =
      countedOnts orders db iface.id := by
  rw [ponOccupancy_eq_length, countedOnts, List.countP_eq_length_filter]
  -- both lists name the counted ONTs, each once
  have hperm : ((((indexedFrom orders db).computeOpticalPaths orders).opticalPaths.range
      orders.opticalPaths).filter
        (fun e ↦ countKey db e = some (iface.deviceId, iface.id))).map Prod.fst |>.Perm
      ((db.devices.filter (fun d ↦
        d.provisioned ∧ (indexedFrom orders db).opticalPath d = some iface.id)).map Device.id) := by
    rw [List.perm_ext_iff_of_nodup
      ((GoMap.nodup_range _ _).sublist (List.filter_sublist.map _))
      (db.devices_nodup.sublist (List.filter_sublist.map _))]
    intro id
    simp only [List.mem_map, List.mem_filter, decide_eq_true_eq]
    constructor
    · rintro ⟨⟨id', port⟩, ⟨hmem, hkey⟩, rfl⟩
      rw [GoMap.mem_range, lookup_opticalPaths, Option.bind_eq_some_iff] at hmem
      obtain ⟨device, hdevice, hpath⟩ := hmem
      simp only [countKey, hdevice, Option.bind_eq_some_iff, Option.any_some] at hkey
      obtain ⟨pon, _, hif⟩ := hkey
      split at hif
      · next hprovisioned =>
        obtain rfl : port = iface.id := congrArg Prod.snd (Option.some.inj hif)
        have hrow := Database.getDevice_eq_some.mp hdevice
        exact ⟨device, ⟨hrow.1, hprovisioned, hpath⟩, hrow.2⟩
      · cases hif
    · rintro ⟨device, ⟨hmem, hprovisioned, hpath⟩, rfl⟩
      have hdevice : db.getDevice device.id = some device :=
        Database.getDevice_eq_some.mpr ⟨hmem, rfl⟩
      have hport : db.getInterface iface.id = some iface :=
        Database.getInterface_eq_some.mpr ⟨hiface, rfl⟩
      refine ⟨(device.id, iface.id), ⟨?_, ?_⟩, rfl⟩
      · rw [GoMap.mem_range, lookup_opticalPaths, hdevice]
        exact hpath
      · simp only [countKey, hport, hdevice, Option.bind_some, Option.any_some,
            hprovisioned, if_true]
  simpa using hperm.length_eq

end Unoc.PortSummary
