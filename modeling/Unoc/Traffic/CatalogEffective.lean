import Mathlib.Data.Rat.Floor
import Unoc.Status.Affected
import Unoc.Traffic.Capacity

/-!
# Effective capacity of the backend

`backend/services/catalog_effective.py` and the link capacity of `traffic/v2_aggregation.py`, against the
engine's `capacity.go`. Both read overrides, hardware models, port profiles and roles in the same order;
they round, trim names and default differently.
-/

namespace Unoc.Traffic.CatalogEffective

open Unoc.Model
open Unoc.Status (truthy)

/-- A state of the tables with its port profiles; `models_pkg/hardware.py:13–52`. -/
structure Catalog extends Database where
  portProfiles : List PortProfile := []
  hardwareModels_nodup : (hardwareModels.map HardwareModel.id).Nodup := by decide
  portProfiles_nodup : (portProfiles.map (fun p ↦ (p.hardwareModelId, p.name))).Nodup := by decide

/-! ### Numbers and names -/

/-- `int` of a float, which drops the fraction. -/
def truncate (x : ℚ) : Int := if 0 ≤ x then ⌊x⌋ else ⌈x⌉

/-- The code points with the digit property of Unicode. -/
def digitRanges : List (Nat × Nat) := [
  (0x30, 0x39), (0xb2, 0xb3), (0xb9, 0xb9), (0x660, 0x669), (0x6f0, 0x6f9), (0x7c0, 0x7c9),
  (0x966, 0x96f), (0x9e6, 0x9ef), (0xa66, 0xa6f), (0xae6, 0xaef), (0xb66, 0xb6f), (0xbe6, 0xbef),
  (0xc66, 0xc6f), (0xce6, 0xcef), (0xd66, 0xd6f), (0xde6, 0xdef), (0xe50, 0xe59), (0xed0, 0xed9),
  (0xf20, 0xf29), (0x1040, 0x1049), (0x1090, 0x1099), (0x1369, 0x1371), (0x17e0, 0x17e9),
  (0x1810, 0x1819), (0x1946, 0x194f), (0x19d0, 0x19da), (0x1a80, 0x1a89), (0x1a90, 0x1a99),
  (0x1b50, 0x1b59), (0x1bb0, 0x1bb9), (0x1c40, 0x1c49), (0x1c50, 0x1c59), (0x2070, 0x2070),
  (0x2074, 0x2079), (0x2080, 0x2089), (0x2460, 0x2468), (0x2474, 0x247c), (0x2488, 0x2490),
  (0x24ea, 0x24ea), (0x24f5, 0x24fd), (0x24ff, 0x24ff), (0x2776, 0x277e), (0x2780, 0x2788),
  (0x278a, 0x2792), (0xa620, 0xa629), (0xa8d0, 0xa8d9), (0xa900, 0xa909), (0xa9d0, 0xa9d9),
  (0xa9f0, 0xa9f9), (0xaa50, 0xaa59), (0xabf0, 0xabf9), (0xff10, 0xff19), (0x104a0, 0x104a9),
  (0x10a40, 0x10a43), (0x10d30, 0x10d39), (0x10e60, 0x10e68), (0x11052, 0x1105a),
  (0x11066, 0x1106f), (0x110f0, 0x110f9), (0x11136, 0x1113f), (0x111d0, 0x111d9),
  (0x112f0, 0x112f9), (0x11450, 0x11459), (0x114d0, 0x114d9), (0x11650, 0x11659),
  (0x116c0, 0x116c9), (0x11730, 0x11739), (0x118e0, 0x118e9), (0x11950, 0x11959),
  (0x11c50, 0x11c59), (0x11d50, 0x11d59), (0x11da0, 0x11da9), (0x11f50, 0x11f59),
  (0x16a60, 0x16a69), (0x16ac0, 0x16ac9), (0x16b50, 0x16b59), (0x1d7ce, 0x1d7ff),
  (0x1e140, 0x1e149), (0x1e2f0, 0x1e2f9), (0x1e4f0, 0x1e4f9), (0x1e950, 0x1e959),
  (0x1f100, 0x1f10a), (0x1fbf0, 0x1fbf9)]

/-- `str.isdigit` of a character. -/
def isDigit (c : Char) : Bool := digitRanges.any (fun r ↦ r.1 ≤ c.toNat && c.toNat ≤ r.2)

/-- `_base_from_name`; `catalog_effective.py:74–79`. -/
def baseFromName (name : String) : String :=
  let base := dropEndWhile isDigit name.toList
  if base = [] then name else String.ofList base

/-! ### Capacities -/

/-- `DEFAULT_DEVICE_CAPACITY_MBPS`, with `none` for a type without an entry;
`catalog_effective.py:13–29`. -/
def defaultDeviceCapacityMbps : DeviceType → Option Int
  | .backboneGateway => some 100000
  | .pop => some 10000
  | .coreRouter => some 40000
  | .edgeRouter => some 10000
  | .aonSwitch => some 10000
  | .olt => some 10000
  | .ont => some 1000
  | .businessOnt => some 1000
  | .aonCpe => some 1000
  | .splitter => some 1000000
  | .hop => some 1000000
  | .nvt => some 1000000
  | .odf => some 1000000
  | .coreSite => none

section Backend

variable (db : Catalog)

/-- `_get_model`; `catalog_effective.py:32–35`. -/
def getModel (device : Device) : Option HardwareModel :=
  device.hardwareModelId.bind (fun id ↦ db.hardwareModels.find? (fun m ↦ m.id = id))

/-- `get_effective_device_capacity_mbps`; `catalog_effective.py:56–71`. -/
def getEffectiveDeviceCapacityMbps (device : Device) : Option Int :=
  match device.capacity with
  | some cap => some cap
  | none =>
    match (getModel db device).bind HardwareModel.capacityGbps with
    | some capacityGbps => some (truncate (capacityGbps * 1000))
    | none => defaultDeviceCapacityMbps device.type

/-- The profile of a name for the hardware model of an interface's device;
`catalog_effective.py:90–98`. -/
def profileNamed (iface : Interface) (name : String) : Option PortProfile :=
  ((db.getDevice iface.deviceId).bind Device.hardwareModelId).bind (fun modelId ↦
    db.portProfiles.find? (fun p ↦ (p.hardwareModelId, p.name) = (modelId, name)))

/-- The profile of an interface's own profile name, and else of a base name. -/
def profileFor (iface : Interface) (base : Option String) : Option PortProfile :=
  (truthy iface.profileName).bind (profileNamed db iface) <|> base.bind (profileNamed db iface)

/-- `get_effective_interface_capacity_mbps`; `catalog_effective.py:82–122`. -/
def getEffectiveInterfaceCapacityMbps (iface : Interface) : Option Int :=
  match iface.capacity with
  | some cap => some cap
  | none =>
    match (profileFor db iface (some (baseFromName iface.name))).bind PortProfile.speedGbps with
    | some speedGbps => some (truncate (speedGbps * 1000))
    | none =>
      match iface.role with
      | some .access => some 1000
      | some .p2pUplink => some 10000
      | some .management => some 1000
      | none => none

/-- `if_cap.get`; `v2_aggregation.py:75–78`. -/
def ifCap (interfaceId : String) : Option Int :=
  (db.getInterface interfaceId).bind (getEffectiveInterfaceCapacityMbps db)

/-- `cap_mbps` of a link; `v2_aggregation.py:83–90`. -/
def linkCapMbps (link : Link) : ℚ :=
  let caps := ([ifCap db link.aInterfaceId, ifCap db link.bInterfaceId].filterMap (fun cap ↦ cap)).filter
    (fun cap ↦ 0 < cap)
  match caps.min? with
  | some cap => cap
  | none => 1000

end Backend

/-! ### Agreement -/

/-- A capacity of the backend, where none or one that is not positive counts as zero. -/
def counted (cap : Option Int) : ℚ := positiveOrZero (cap.getD 0)

/-- Rows as the engine loads them, in some order; `db/repository.go`. -/
structure LoadedRows (db : Catalog) where
  devices : List Device
  devices_perm : devices.Perm db.devices
  interfaces : List Interface
  interfaces_perm : interfaces.Perm db.interfaces
  links : List Link
  hardwareModels : List HardwareModel
  hardwareModels_perm : hardwareModels.Perm db.hardwareModels
  portProfiles : List PortProfile
  portProfiles_perm : portProfiles.Perm db.portProfiles
  tariffs : List Tariff

/-- The cache of the engine. -/
def LoadedRows.cache {db : Catalog} (rows : LoadedRows db) : TopologyCache :=
  buildTopologyCacheWithCatalog rows.devices rows.links rows.interfaces rows.tariffs
    rows.hardwareModels rows.portProfiles

/-- The speed of the profile that the engine's names select. -/
def engineSpeedGbps (db : Catalog) (iface : Interface) : Option ℚ :=
  (profileFor db iface (truthy (some (Traffic.baseFromName iface.name)))).bind PortProfile.speedGbps

/-- The engine knows a capacity of the interface. -/
def HasCapacity (db : Catalog) (iface : Interface) : Prop :=
  match iface.capacity with
  | some cap => 0 < cap
  | none =>
    match engineSpeedGbps db iface with
    | some speedGbps => 0 < speedGbps
    | none => iface.role ≠ none ∨ iface.portRole = some .access ∨ iface.portRole = some .uplink

section Devices

variable {db : Catalog} (rows : LoadedRows db)

end Devices

/-! ### Interfaces -/

section Interfaces

variable {db : Catalog} (rows : LoadedRows db) (iface : Interface)

end Interfaces

/-! ### Links -/

section Links

variable {db : Catalog} (rows : LoadedRows db)

end Links

end Unoc.Traffic.CatalogEffective
