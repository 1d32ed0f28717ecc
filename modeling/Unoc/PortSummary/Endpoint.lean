import Unoc.PortSummary.Loaded
import Unoc.Status.Passability
import Unoc.Subscriber.Resolver
import Unoc.Traffic.Segments

/-!
# The port summary endpoint

`get_port_summary` of `backend/api/endpoints/ports.py`: rows of the Go service, patched with the
subscriber model, or rows that are computed from the database when the service gives none. The two
take status and capacity from different places: an interface gets the same row only where the
subscriber model has an AON subscriber on it, or where it is a PON port of an OLT with 128 places.
-/

namespace Unoc.PortSummary

open Unoc.Base Unoc.Model Unoc.Status Unoc.Subscriber Unoc.Traffic
open Unoc.Traffic.Segments (strip)

/-! ### Rows -/

/-- `InterfaceSummaryOut`; `api/schemas.py:319–329`. -/
structure PortRow where
  id : String
  name : String
  portRole : Option PortRole := none
  effectiveStatus : String
  occupancy : Int
  capacity : Option Int := none
  provisionedOntsCount : Option Nat := none
  provisionedCpesCount : Option Nat := none
  maxCapacity : Option Int := none
  utilization : Option ℚ := none
  deriving DecidableEq, Repr

/-- `Status.value`; `models_pkg/device.py:28–32`. -/
def statusValue : Model.Status → String
  | .up => "UP"
  | .down => "DOWN"
  | .degraded => "DEGRADED"
  | .blocking => "BLOCKING"

/-- The text of column `admin_status`: an enumeration is stored by the names of its members. -/
def adminStatusName : AdminStatus → String
  | .up => "UP"
  | .down => "DOWN"

/-- The PON subscribers of a row, a dictionary or an object; `ports.py:95–100, 112–117`. -/
def ponRow (isDict : Bool) (model : SubscriberModel) (deviceId : String) (row : PortRow) : PortRow :=
  match model.ponOccupancy.lookup (deviceId, row.id) with
  | none => row
  | some occ =>
    let state := model.ponPorts (deviceId, row.id)
    let default := if isDict then row.capacity else some (row.capacity.getD 0)
    let maxCapacity := (state.map (fun s ↦ some (s.maxCapacity : Int))).getD default
    { row with
      occupancy := occ
      provisionedOntsCount := some ((state.map PortState.count).getD occ)
      maxCapacity := if isDict then maxCapacity else maxCapacity.filter (· ≠ 0)
      utilization := state.map PortState.utilization }

/-- The AON subscribers of a row, a dictionary or an object; `ports.py:101–108, 118–125`. -/
def aonRow (isDict : Bool) (model : SubscriberModel) (deviceId : String) (row : PortRow) : PortRow :=
  match model.aonAccessOccupancy.lookup (deviceId, row.id) with
  | none => row
  | some occ =>
    let state := model.aonAccessPorts (deviceId, row.id)
    let default := if isDict then row.capacity else some ((row.capacity.filter (· ≠ 0)).getD 1)
    { row with
      portRole := some .access
      occupancy := occ
      provisionedCpesCount := some ((state.map PortState.count).getD occ)
      maxCapacity := some ((state.map (fun s ↦ (s.maxCapacity : Int))).getD 1)
      capacity := (state.map (fun s ↦ some (s.maxCapacity : Int))).getD default
      utilization := state.map PortState.utilization }

/-- One row of `_with_canonical_subscribers`; `ports.py:91–127`. -/
def canonicalRow (isDict : Bool) (model : SubscriberModel) (deviceId : String) (row : PortRow) :
    PortRow :=
  aonRow isDict model deviceId (ponRow isDict model deviceId row)

/-- `_with_canonical_subscribers`. -/
def withCanonicalSubscribers (isDict : Bool) (deviceId : String) (rows : List PortRow)
    (model : SubscriberModel) : List PortRow :=
  rows.map (canonicalRow isDict model deviceId)

/-! ### The Go service -/

/-- The dictionary of one interface of the response; `port_summary_client.py:142–161`. -/
def clientRow (s : Tables.InterfaceSummary) : PortRow where
  id := s.id
  name := s.name
  portRole := some (s.portRole.getD .trunk)
  effectiveStatus := adminStatusName s.effectiveStatus
  occupancy := s.occupancy
  capacity := s.capacity

/-- What the client returns; the service refuses an empty id; `port_summary_client.py:106–173`,
`service.go:401–414`. -/
def clientSummary (orders : Orders) (db : Database) (deviceId : String) : Option (List PortRow) :=
  if deviceId = "" then none
  else some (((loadedFrom orders db).buildPortSummaryLocked deviceId).map clientRow)

/-! ### The fallback -/

/-- `profile_cap_map`; `ports.py:350–362`. -/
def profileCapMap (profiles : List PortProfile) (device : Device) : Dict (List Char) Int :=
  match device.hardwareModelId with
  | none => ∅
  | some model =>
    (profiles.filter (fun p ↦ p.hardwareModelId = model)).foldl
      (fun m p ↦
        match p.portRole, p.maxSubscribers with
        | some .pon, some n => if strip p.name = [] then m else m.insert (strip p.name) n
        | _, _ => m) ∅

/-- The capacity of a PON port by its profile; `ports.py:452–455`. -/
def profileCapacity (profiles : List PortProfile) (device : Device) (iface : Interface) :
    Option Int :=
  let base := strip (iface.profileName.getD "")
  if base = [] then none else (profileCapMap profiles device).lookup base

/-- `links_by_if[id]` for an interface of the device; `ports.py:369–384`. -/
def linksByIf (db : Database) (interfaceId : String) : List Link :=
  db.links.flatMap (fun ln ↦
    (if ln.aInterfaceId = interfaceId then [ln] else []) ++
      (if ln.bInterfaceId = interfaceId then [ln] else []))

/-- `_effective_interface_status`; `ports.py:390–399`. -/
def effectiveInterfaceStatus (db : Database) (device : Device) (iface : Interface) : String :=
  if (linksByIf db iface.id).any (fun ln ↦ evaluateLinkStatus (topology db) ln = .down) then "DOWN"
  else statusValue (evaluateDeviceStatus (topology db) (deviceView device))

/-- Occupancy and capacity of an interface; `ports.py:445–465`. -/
def interfaceUse (profiles : List PortProfile) (db : Database) (device : Device)
    (iface : Interface) : Int × Option Int :=
  if iface.portRole = some .pon ∧ device.type = .olt then
    ((((resolveSubscriberModel db).ponOccupancy.lookup (device.id, iface.id)).getD 0 : Nat),
      profileCapacity profiles device iface)
  else if iface.portRole = some .access then ((linksByIf db iface.id).length, none)
  else (min 1 (linksByIf db iface.id).length, some 1)

/-- One row of the fallback; `ports.py:445–477`. -/
def fallbackRow (profiles : List PortProfile) (db : Database) (device : Device)
    (iface : Interface) : PortRow where
  id := iface.id
  name := iface.name
  portRole := iface.portRole
  effectiveStatus := effectiveInterfaceStatus db device iface
  occupancy := (interfaceUse profiles db device iface).1
  capacity := (interfaceUse profiles db device iface).2

/-- `_role_key`; `ports.py:480–486`. -/
def roleKey : Option PortRole → String
  | none => ""
  | some .access => "ACCESS"
  | some .uplink => "UPLINK"
  | some .pon => "PON"
  | some .trunk => "TRUNK"

/-- The sort key of a row; `ports.py:489`. -/
def PortRow.sortKey (row : PortRow) : String ×ₗ String ×ₗ String :=
  toLex (roleKey row.portRole, toLex (row.name, row.id))

/-- The rows of the fallback; `ports.py:345–502`. -/
def fallbackSummary (profiles : List PortProfile) (db : Database) (device : Device) :
    List PortRow :=
  let rows := (db.interfaces.filter (fun i ↦ i.deviceId = device.id)).map
    (fallbackRow profiles db device)
  (withCanonicalSubscribers false device.id rows (resolveSubscriberModel db)).insertionSort
    (fun a b ↦ a.sortKey ≤ b.sortKey)

/-- `get_port_summary` with the rows that the Go client gives, if any; `ports.py:311–502`. -/
def getPortSummary (summary : Option (List PortRow)) (profiles : List PortProfile) (db : Database)
    (device : Device) : List PortRow :=
  match summary with
  | some (row :: rows) =>
    withCanonicalSubscribers true device.id (row :: rows) (resolveSubscriberModel db)
  | _ => fallbackSummary profiles db device

/-! ### What the client sees of a row -/

/-- The columns that the two paths both fill. -/
def PortRow.compared (row : PortRow) : String × Option PortRole × String × Int × Option Int :=
  (row.id, row.portRole, row.effectiveStatus, row.occupancy, row.capacity)

section Rows

variable (orders : Orders) (profiles : List PortProfile) (db : Database) (device : Device)

/-- The AON subscribers that the model has on an interface. -/
def aonSubscribers (iface : Interface) : Option Nat :=
  (resolveSubscriberModel db).aonAccessOccupancy.lookup (device.id, iface.id)

/-- The PON subscribers that the model has on an interface. -/
def ponSubscribers (iface : Interface) : Option Nat :=
  (resolveSubscriberModel db).ponOccupancy.lookup (device.id, iface.id)

/-- A row of the fast path. -/
def fastRow (iface : Interface) : PortRow :=
  canonicalRow true (resolveSubscriberModel db) device.id
    (clientRow ((loadedFrom orders db).summary iface))

/-- A row of the fallback with its subscribers. -/
def slowRow (iface : Interface) : PortRow :=
  canonicalRow false (resolveSubscriberModel db) device.id (fallbackRow profiles db device iface)

/-- The status that the interface's own column names is the one that the evaluation gives. -/
def StatusAgrees (iface : Interface) : Prop :=
  match iface.adminStatus with
  | .up =>
    evaluateDeviceStatus (topology db) (deviceView device) = .up ∧
      ∀ ln ∈ linksByIf db iface.id, evaluateLinkStatus (topology db) ln ≠ .down
  | .down =>
    evaluateDeviceStatus (topology db) (deviceView device) = .down ∨
      ∃ ln ∈ linksByIf db iface.id, evaluateLinkStatus (topology db) ln = .down

/-- A PON port of an OLT whose profile has 128 places, with subscribers of the model or without any
that the Go service traces to it (or with 2³² of them). -/
structure PonAgrees (iface : Interface) : Prop where
  role : iface.portRole = some .pon
  olt : device.type = .olt
  places : profileCapacity profiles device iface = some 128
  traced : (ponSubscribers db device iface).isSome ∨ 2 ^ 32 ∣ countedOnts orders db iface.id

/-- The condition for equal rows. -/
def PortAgrees (iface : Interface) : Prop :=
  StatusAgrees db device iface ∧
    ((aonSubscribers db device iface).isSome ∨ PonAgrees orders profiles db device iface)

/-- PON subscribers override the occupancy. -/
theorem ponRow_compared (isDict : Bool) {row : PortRow} {iface : Interface}
    (hid : row.id = iface.id) :
    (ponRow isDict (resolveSubscriberModel db) device.id row).compared =
      (iface.id, row.portRole, row.effectiveStatus,
        ((ponSubscribers db device iface).map (fun n : Nat ↦ (n : Int))).getD row.occupancy,
        row.capacity) := by
  rw [ponRow, ponSubscribers, ← hid]
  split
  · next hpon =>
    rw [hpon]
    rfl
  · next hpon =>
    rw [hpon]
    rfl

/-- An AON subscriber overrides role, occupancy and capacity. -/
theorem aonRow_compared_of_some {isDict : Bool} {row : PortRow} {iface : Interface} {occ : Nat}
    (hid : row.id = iface.id) (haon : aonSubscribers db device iface = some occ) :
    (aonRow isDict (resolveSubscriberModel db) device.id row).compared =
      (iface.id, some .access, row.effectiveStatus, (occ : Int), some 1) := by
  have hports : (resolveSubscriberModel db).aonAccessPorts (device.id, iface.id) =
      (aonSubscribers db device iface).map (fun count ↦ ⟨count, 1, count, subscriberSource⟩) := rfl
  rw [haon, Option.map_some] at hports
  rw [aonSubscribers] at haon
  rw [aonRow, hid, haon, hports]
  simp [PortRow.compared]

private theorem aonRow_of_none {isDict : Bool} {row : PortRow} {iface : Interface}
    (hid : row.id = iface.id) (haon : aonSubscribers db device iface = none) :
    aonRow isDict (resolveSubscriberModel db) device.id row = row := by
  rw [aonSubscribers] at haon
  rw [aonRow, hid, haon]

/-- The two statuses are the same text. -/
theorem effectiveInterfaceStatus_eq_iff (iface : Interface) :
    adminStatusName iface.adminStatus = effectiveInterfaceStatus db device iface ↔
      StatusAgrees db device iface := by
  have hup : ∀ st, "UP" = statusValue st ↔ st = .up := by
    intro st
    cases st <;> decide
  have hdown : ∀ st, "DOWN" = statusValue st ↔ st = .down := by
    intro st
    cases st <;> decide
  unfold effectiveInterfaceStatus StatusAgrees
  split
  · next hany =>
    obtain ⟨ln, hln, hst⟩ := List.any_eq_true.mp hany
    have hst : evaluateLinkStatus (topology db) ln = .down := by simpa using hst
    cases iface.adminStatus with
    | up =>
      refine iff_of_false (by decide) ?_
      rintro ⟨_, hall⟩
      exact hall ln hln hst
    | down => exact iff_of_true rfl (Or.inr ⟨ln, hln, hst⟩)
  · next hany =>
    have hall : ∀ ln ∈ linksByIf db iface.id, evaluateLinkStatus (topology db) ln ≠ .down := by
      simpa using hany
    cases iface.adminStatus with
    | up =>
      refine (hup _).trans ?_
      exact ⟨fun h ↦ ⟨h, hall⟩, fun h ↦ h.1⟩
    | down =>
      refine (hdown _).trans ⟨Or.inl, ?_⟩
      rintro (h | ⟨ln, hln, hst⟩)
      · exact h
      · exact absurd hst (hall ln hln)

private theorem int32_eq_zero_iff (n : Nat) : Tables.int32 n = 0 ↔ 2 ^ 32 ∣ n := by
  have hmod : ∀ m : Nat, (n : Int).bmod m = 0 ↔ m ∣ n := by
    intro m
    rw [← Int.dvd_iff_bmod_eq_zero, Int.natCast_dvd_natCast]
  exact hmod (2 ^ 32)

private theorem canonicalRow_compared_of_aon {isDict : Bool} {row : PortRow} (iface : Interface)
    {occ : Nat}
    (hid : row.id = iface.id) (haon : aonSubscribers db device iface = some occ) :
    (canonicalRow isDict (resolveSubscriberModel db) device.id row).compared =
      (iface.id, some .access, row.effectiveStatus, (occ : Int), some 1) := by
  have hpon := ponRow_compared db device isDict hid
  simp only [PortRow.compared, Prod.mk.injEq] at hpon
  rw [canonicalRow, aonRow_compared_of_some db device hpon.1 haon, hpon.2.2.1]

private theorem canonicalRow_compared_of_no_aon {isDict : Bool} {row : PortRow} (iface : Interface)
    (hid : row.id = iface.id) (haon : aonSubscribers db device iface = none) :
    (canonicalRow isDict (resolveSubscriberModel db) device.id row).compared =
      (iface.id, row.portRole, row.effectiveStatus,
        ((ponSubscribers db device iface).map (fun n : Nat ↦ (n : Int))).getD row.occupancy,
        row.capacity) := by
  have hpon := ponRow_compared db device isDict hid
  rw [canonicalRow, aonRow_of_none db device (congrArg Prod.fst hpon) haon, hpon]

/-- Role, occupancy and capacity of an interface without AON subscriber. -/
theorem use_eq_iff {iface : Interface} (hiface : iface ∈ db.interfaces) :
    (some (iface.portRole.getD .trunk) = iface.portRole ∧
      ((ponSubscribers db device iface).map (fun n : Nat ↦ (n : Int))).getD
          ((loadedFrom orders db).computeOccupancy iface) =
        ((ponSubscribers db device iface).map (fun n : Nat ↦ (n : Int))).getD
          (interfaceUse profiles db device iface).1 ∧
      Tables.getCapacity iface.portRole = (interfaceUse profiles db device iface).2) ↔
      PonAgrees orders profiles db device iface := by
  by_cases hpon : iface.portRole = some .pon ∧ device.type = .olt
  · obtain ⟨hrole, holt⟩ := hpon
    have hcount := lookup_ponOccupancy orders db hiface
    have huse : interfaceUse profiles db device iface =
        ((((ponSubscribers db device iface).getD 0 : Nat) : Int),
          profileCapacity profiles device iface) := by
      rw [interfaceUse, if_pos ⟨hrole, holt⟩, ponSubscribers]
    have hocc : (loadedFrom orders db).computeOccupancy iface =
        Tables.int32 (countedOnts orders db iface.id) := by
      rw [Tables.computeOccupancy, hrole, hcount]
    rw [huse, hocc, hrole]
    constructor
    · rintro ⟨_, hoccupancy, hcapacity⟩
      refine ⟨hrole, holt, hcapacity.symm, ?_⟩
      cases hsubs : ponSubscribers db device iface with
      | some n => exact Or.inl rfl
      | none =>
        rw [hsubs, Option.map_none, Option.getD_none, Option.getD_none, Option.getD_none,
          Nat.cast_zero, int32_eq_zero_iff] at hoccupancy
        exact Or.inr hoccupancy
    · rintro ⟨_, _, hplaces, htraced⟩
      refine ⟨rfl, ?_, hplaces.symm⟩
      cases hsubs : ponSubscribers db device iface with
      | some n => rw [Option.map_some, Option.getD_some, Option.getD_some]
      | none =>
        rw [hsubs] at htraced
        rw [Option.map_none, Option.getD_none, Option.getD_none, Option.getD_none, Nat.cast_zero,
          int32_eq_zero_iff]
        rcases htraced with htraced | htraced
        · cases htraced
        · exact htraced
  · -- every other role has a capacity in one of the two paths only, or two different ones
    refine iff_of_false ?_ (fun h ↦ hpon ⟨h.role, h.olt⟩)
    rintro ⟨hrole, _, hcapacity⟩
    rw [interfaceUse, if_neg hpon] at hcapacity
    cases hport : iface.portRole with
    | none => simp [hport] at hrole
    | some role => cases role <;> simp [hport, Tables.getCapacity] at hcapacity

/-- The two rows of an interface. -/
theorem compared_eq_iff {iface : Interface} (hiface : iface ∈ db.interfaces) :
    (fastRow orders db device iface).compared = (slowRow profiles db device iface).compared ↔
      PortAgrees orders profiles db device iface := by
  rw [PortAgrees, fastRow, slowRow, ← effectiveInterfaceStatus_eq_iff]
  cases haon : aonSubscribers db device iface with
  | some occ =>
    rw [canonicalRow_compared_of_aon db device iface rfl haon,
      canonicalRow_compared_of_aon db device iface rfl haon]
    simp [clientRow, fallbackRow, Tables.summary]
  | none =>
    rw [canonicalRow_compared_of_no_aon db device iface rfl haon,
      canonicalRow_compared_of_no_aon db device iface rfl haon,
      ← use_eq_iff orders profiles db device hiface]
    simp only [clientRow, fallbackRow, Tables.summary, Prod.mk.injEq, true_and]
    simp only [Option.isSome_none, Bool.false_eq_true, false_or]
    tauto

/-! ### Order -/

/-- The sort key of an interface: an AON subscriber makes its role ACCESS. -/
def portSortKey (iface : Interface) : String ×ₗ String ×ₗ String :=
  toLex (roleKey (if (aonSubscribers db device iface).isSome then some .access else iface.portRole),
    toLex (iface.name, iface.id))

private theorem canonicalRow_name (isDict : Bool) (model : SubscriberModel) (deviceId : String)
    (row : PortRow) : (canonicalRow isDict model deviceId row).name = row.name := by
  have hpon : (ponRow isDict model deviceId row).name = row.name := by
    unfold ponRow
    split <;> rfl
  rw [canonicalRow, aonRow]
  split
  · exact hpon
  · exact hpon

private theorem slowRow_sortKey (iface : Interface) :
    (slowRow profiles db device iface).sortKey = portSortKey db device iface := by
  have hname := canonicalRow_name false (resolveSubscriberModel db) device.id
    (fallbackRow profiles db device iface)
  rw [PortRow.sortKey, portSortKey, slowRow, hname]
  cases haon : aonSubscribers db device iface with
  | some occ =>
    have hrow : (canonicalRow false (resolveSubscriberModel db) device.id
        (fallbackRow profiles db device iface)).compared = _ :=
      canonicalRow_compared_of_aon db device iface rfl haon
    simp only [PortRow.compared, Prod.mk.injEq] at hrow
    rw [hrow.1, hrow.2.1]
    rfl
  | none =>
    have hrow : (canonicalRow false (resolveSubscriberModel db) device.id
        (fallbackRow profiles db device iface)).compared = _ :=
      canonicalRow_compared_of_no_aon db device iface rfl haon
    simp only [PortRow.compared, Prod.mk.injEq] at hrow
    rw [hrow.1, hrow.2.1]
    rfl

/-- The interfaces of the device by their sort keys. -/
def orderedInterfaces : List Interface :=
  (db.interfaces.filter (fun i ↦ i.deviceId = device.id)).insertionSort
    (fun a b ↦ portSortKey db device a ≤ portSortKey db device b)

private theorem fallbackSummary_eq :
    fallbackSummary profiles db device =
      (orderedInterfaces db device).map (slowRow profiles db device) := by
  have hsort := List.map_insertionSort (r := fun a b ↦ portSortKey db device a ≤ portSortKey db device b)
    (s := fun a b ↦ a.sortKey ≤ b.sortKey) (slowRow profiles db device)
    (db.interfaces.filter (fun i ↦ i.deviceId = device.id))
    (fun a _ b _ ↦ by rw [slowRow_sortKey, slowRow_sortKey])
  rw [orderedInterfaces, hsort, fallbackSummary, withCanonicalSubscribers, List.map_map]
  rfl

private theorem orderedInterfaces_perm :
    (orderedInterfaces db device).Perm (visitedInterfaces orders db device.id) :=
  (List.perm_insertionSort _ _).trans (visitedInterfaces_perm orders db device.id).symm

/-- The order of the `range` is that of the sort exactly when it is ascending. -/
theorem visitedInterfaces_eq_iff :
    visitedInterfaces orders db device.id = orderedInterfaces db device ↔
      (visitedInterfaces orders db device.id).Pairwise
        (fun a b ↦ portSortKey db device a ≤ portSortKey db device b) := by
  have hsorted : (orderedInterfaces db device).Pairwise
      (fun a b ↦ portSortKey db device a ≤ portSortKey db device b) :=
    List.pairwise_insertionSort _ _
  constructor
  · intro h
    rw [h]
    exact hsorted
  · intro h
    refine (orderedInterfaces_perm orders db device).symm.eq_of_pairwise ?_ h hsorted
    intro a b ha hb hab hba
    -- ids are unique and part of the key
    have hkey := le_antisymm hab hba
    have hid : a.id = b.id := by
      have hsnd := congrArg (fun k ↦ (ofLex (ofLex k).2).2) hkey
      exact hsnd
    have hmem : ∀ {i}, i ∈ visitedInterfaces orders db device.id → i ∈ db.interfaces := fun hi ↦
      (List.mem_filter.mp ((visitedInterfaces_perm orders db device.id).subset hi)).1
    exact List.inj_on_of_nodup_map db.interfaces_nodup (hmem ha)
      (hmem ((orderedInterfaces_perm orders db device).subset hb)) hid

/-! ### Agreement -/

/-- The rows of the fast path for a device that the service knows. -/
theorem clientSummary_eq (hdevice : device ∈ db.devices) (hid : device.id ≠ "") :
    clientSummary orders db device.id =
      some ((visitedInterfaces orders db device.id).map
        (fun i ↦ clientRow ((loadedFrom orders db).summary i))) := by
  have hlookup : (loadedFrom orders db).devices.lookup device.id = some device := by
    rw [lookup_loaded_devices]
    exact Database.getDevice_eq_some.mpr ⟨hdevice, rfl⟩
  rw [clientSummary, if_neg hid, Tables.buildPortSummaryLocked, hlookup, interfacesOf_loaded]
  simp only [List.map_map, Function.comp_def]

/-- A row is compared under the id of its interface. -/
theorem compared_fst (iface : Interface) :
    (fastRow orders db device iface).compared.1 = iface.id ∧
      (slowRow profiles db device iface).compared.1 = iface.id := by
  cases haon : aonSubscribers db device iface with
  | some occ =>
    rw [fastRow, slowRow, canonicalRow_compared_of_aon db device iface rfl haon,
      canonicalRow_compared_of_aon db device iface rfl haon]
    exact ⟨rfl, rfl⟩
  | none =>
    rw [fastRow, slowRow, canonicalRow_compared_of_no_aon db device iface rfl haon,
      canonicalRow_compared_of_no_aon db device iface rfl haon]
    exact ⟨rfl, rfl⟩

/-- Two lists of the device's interfaces with the same ids are the same. -/
theorem eq_of_map_id {xs ys : List Interface} (hxs : ∀ i ∈ xs, i ∈ db.interfaces)
    (hys : ∀ i ∈ ys, i ∈ db.interfaces) (h : xs.map Interface.id = ys.map Interface.id) :
    xs = ys := by
  have hback : ∀ zs : List Interface, (∀ i ∈ zs, i ∈ db.interfaces) →
      (zs.map Interface.id).filterMap db.getInterface = zs := by
    intro zs hzs
    rw [List.filterMap_map]
    refine (List.filterMap_congr (fun i hi ↦ ?_)).trans List.filterMap_some
    exact Database.getInterface_eq_some.mpr ⟨hzs i hi, rfl⟩
  rw [← hback xs hxs, h, hback ys hys]

/-- The rows of the two paths, in their orders. -/
theorem rows_eq_iff :
    (visitedInterfaces orders db device.id).map (fun i ↦ (fastRow orders db device i).compared) =
        (orderedInterfaces db device).map (fun i ↦ (slowRow profiles db device i).compared) ↔
      (∀ i ∈ visitedInterfaces orders db device.id,
        (fastRow orders db device i).compared = (slowRow profiles db device i).compared) ∧
      visitedInterfaces orders db device.id = orderedInterfaces db device := by
  have hmem : ∀ i ∈ visitedInterfaces orders db device.id, i ∈ db.interfaces := fun i hi ↦
    (List.mem_filter.mp ((visitedInterfaces_perm orders db device.id).subset hi)).1
  constructor
  · intro h
    have heq : visitedInterfaces orders db device.id = orderedInterfaces db device := by
      refine eq_of_map_id db hmem
        (fun i hi ↦ hmem i ((orderedInterfaces_perm orders db device).subset hi)) ?_
      have hfst := congrArg (List.map Prod.fst) h
      simpa [Function.comp_def, (compared_fst orders profiles db device _).1,
        (compared_fst orders profiles db device _).2] using hfst
    rw [← heq, List.map_inj_left] at h
    exact ⟨h, heq⟩
  · rintro ⟨hrows, heq⟩
    rw [← heq]
    exact List.map_congr_left hrows

end Rows

/-- The rows of the two paths agree exactly when each interface of the device has the same status in
its own column as in the evaluation and is occupied by an AON subscriber or is a PON port as above,
and the `range` of the Go service visits the interfaces in the order of the sort. -/
theorem getPortSummary_agrees_iff (orders : Orders) (profiles : List PortProfile) (db : Database)
    (device : Device) (hdevice : device ∈ db.devices) :
    (getPortSummary (clientSummary orders db device.id) profiles db device).map PortRow.compared =
        (getPortSummary none profiles db device).map PortRow.compared ↔
      device.id = "" ∨
        (∀ iface ∈ db.interfaces, iface.deviceId = device.id →
          PortAgrees orders profiles db device iface) ∧
        (visitedInterfaces orders db device.id).Pairwise
          (fun a b ↦ portSortKey db device a ≤ portSortKey db device b) := by
  by_cases hid : device.id = ""
  · -- the service refuses the id, and the endpoint falls back
    rw [hid, clientSummary, if_pos rfl]
    simp
  · have hslow : (getPortSummary none profiles db device).map PortRow.compared =
        (orderedInterfaces db device).map (fun i ↦ (slowRow profiles db device i).compared) := by
      refine (congrArg (List.map PortRow.compared) (fallbackSummary_eq profiles db device)).trans ?_
      rw [List.map_map]
      rfl
    have hfast : (getPortSummary (clientSummary orders db device.id) profiles db device).map
          PortRow.compared =
        (visitedInterfaces orders db device.id).map
          (fun i ↦ (fastRow orders db device i).compared) := by
      rw [clientSummary_eq orders db device hdevice hid]
      cases hvisited : visitedInterfaces orders db device.id with
      | nil =>
        -- no interfaces: the empty answer leads to the fallback, which has none either
        have hnone : orderedInterfaces db device = [] :=
          List.perm_nil.mp (hvisited ▸ orderedInterfaces_perm orders db device)
        exact hslow.trans (by rw [hnone]; rfl)
      | cons iface rest =>
        rw [List.map_cons, getPortSummary, withCanonicalSubscribers]
        simp only [List.map_cons, List.map_map, Function.comp_def]
        rfl
    rw [hfast, hslow, rows_eq_iff, visitedInterfaces_eq_iff]
    simp only [hid, false_or, mem_visitedInterfaces, List.mem_filter, decide_eq_true_eq, and_imp]
    refine and_congr_left (fun _ ↦ ?_)
    constructor
    · intro h iface hiface hdev
      exact (compared_eq_iff orders profiles db device hiface).mp (h iface hiface hdev)
    · intro h iface hiface hdev
      exact (compared_eq_iff orders profiles db device hiface).mpr (h iface hiface hdev)

/-- A device that is forced UP. -/
def forcedUp (id : String) (type : DeviceType) : Device where
  id := id
  type := type
  adminOverrideStatus := some .up
  hardwareModelId := some 1

/-- An OLT with two PON ports and an ONT behind an ODF at the first one. -/
def ponOlt : Database where
  devices := [forcedUp "olt" .olt, forcedUp "odf" .odf,
    { forcedUp "ont" .ont with provisioned := true }]
  interfaces := [{ id := "pon0", deviceId := "olt", name := "pon0", portRole := some .pon,
                   profileName := some "GPON" },
    { id := "pon1", deviceId := "olt", name := "pon1", portRole := some .pon,
      profileName := some "GPON" },
    { id := "odf0", deviceId := "odf", name := "p0" },
    { id := "odf1", deviceId := "odf", name := "p1" },
    { id := "ont0", deviceId := "ont", name := "eth0" }]
  links := [{ id := "feeder", aInterfaceId := "odf0", bInterfaceId := "pon0" },
    { id := "drop", aInterfaceId := "odf1", bInterfaceId := "ont0" }]

/-- The profile of its port. -/
def gponProfile : PortProfile where
  hardwareModelId := 1
  name := "GPON"
  portRole := some .pon
  maxSubscribers := some 128

/-- The PON ports have the same rows on both paths, with the ONT and without. -/
theorem getPortSummary_agrees_on_pon_port :
    (getPortSummary (clientSummary ascendingOrders ponOlt "olt") [gponProfile] ponOlt
        (forcedUp "olt" .olt)).map PortRow.compared =
      (getPortSummary none [gponProfile] ponOlt (forcedUp "olt" .olt)).map PortRow.compared := by
  refine (getPortSummary_agrees_iff ascendingOrders [gponProfile] ponOlt (forcedUp "olt" .olt)
    List.mem_cons_self).mpr (Or.inr ⟨?_, by decide +kernel⟩)
  have hstatus : evaluateDeviceStatus (topology ponOlt) (deviceView (forcedUp "olt" .olt)) = .up := rfl
  have hlinks : ∀ iface ∈ ponOlt.interfaces, ∀ ln ∈ linksByIf ponOlt iface.id,
      evaluateLinkStatus (topology ponOlt) ln ≠ .down := by
    decide +kernel
  have hplaces : ∀ iface ∈ ponOlt.interfaces, iface.deviceId = "olt" →
      iface.adminStatus = .up ∧ iface.portRole = some .pon ∧
        profileCapacity [gponProfile] (forcedUp "olt" .olt) iface = some 128 := by
    decide +kernel
  have htraced : ∀ iface ∈ ponOlt.interfaces, iface.deviceId = "olt" →
      (ponSubscribers ponOlt (forcedUp "olt" .olt) iface).isSome ∨
        2 ^ 32 ∣ countedOnts ascendingOrders ponOlt iface.id := by
    decide +kernel
  intro iface hiface hdev
  obtain ⟨hadmin, hrole, hcapacity⟩ := hplaces iface hiface hdev
  refine ⟨?_, .inr ⟨hrole, rfl, hcapacity, htraced iface hiface hdev⟩⟩
  rw [StatusAgrees, hadmin]
  exact ⟨hstatus, hlinks iface hiface⟩

/-- An AON switch with one access port. -/
def aonSwitch : Database where
  devices := [forcedUp "switch" .aonSwitch]
  interfaces := [{ id := "port", deviceId := "switch", name := "port", portRole := some .access }]
  links := []
  links_nodup := List.nodup_nil

/-- Without a subscriber, the service gives the access port a capacity of 1 and the fallback gives it
none. -/
theorem getPortSummary_differs_on_access_port :
    (getPortSummary (clientSummary ascendingOrders aonSwitch "switch") [] aonSwitch
        (forcedUp "switch" .aonSwitch)).map PortRow.compared ≠
      (getPortSummary none [] aonSwitch (forcedUp "switch" .aonSwitch)).map PortRow.compared := by
  have hfast : (getPortSummary (clientSummary ascendingOrders aonSwitch "switch") [] aonSwitch
      (forcedUp "switch" .aonSwitch)).map PortRow.compared =
        [("port", some .access, "UP", 0, some 1)] := by decide
  have hslow : (getPortSummary none [] aonSwitch
      (forcedUp "switch" .aonSwitch)).map PortRow.compared =
        [("port", some .access, "UP", 0, none)] := by decide
  rw [hfast, hslow]
  decide

end Unoc.PortSummary
