import Mathlib.Data.Rat.Defs

/-!
# Table rows

The enumerations and rows of `backend/models_pkg/`, mirrored field by field by
`engine-go/internal/models/`. Nullable columns are options; floating-point columns are exact
rationals. Columns that no modelled function reads are left out.
-/

namespace Unoc.Model

/-- `DeviceType`; `models_pkg/device.py:11–25`. -/
inductive DeviceType where
  | backboneGateway
  | pop
  | coreSite
  | coreRouter
  | edgeRouter
  | aonSwitch
  | olt
  | ont
  | aonCpe
  | splitter
  | hop
  | nvt
  | odf
  | businessOnt
  deriving DecidableEq, Repr

/-- `Status`; `models_pkg/device.py:28–32`. -/
inductive Status where
  | up
  | down
  | degraded
  | blocking
  deriving DecidableEq, Repr

/-- `DeviceRole`; `models_pkg/device.py:35–38`. -/
inductive DeviceRole where
  | active
  | passive
  | alwaysOnline
  deriving DecidableEq, Repr

/-- `Device.SignalStatus`; `models_pkg/device.py:61–65`. -/
inductive SignalStatus where
  | ok
  | warning
  | critical
  | noSignal
  deriving DecidableEq, Repr

/-- `LinkType`; `models_pkg/link.py:13–16`. -/
inductive LinkType where
  | fiber
  | p2p
  | mgmt
  deriving DecidableEq, Repr

/-- `InterfaceRole`; `models_pkg/interface.py:11–14`. -/
inductive InterfaceRole where
  | management
  | p2pUplink
  | access
  deriving DecidableEq, Repr

/-- `PortRole`; `models_pkg/interface.py:17–21`. -/
inductive PortRole where
  | access
  | uplink
  | pon
  | trunk
  deriving DecidableEq, Repr

/-- `AdminStatus`; `models_pkg/interface.py:24–26`. -/
inductive AdminStatus where
  | up
  | down
  deriving DecidableEq, Repr

/-- Row of table `device`; `models_pkg/device.py:41–79`. -/
structure Device where
  id : String
  type : DeviceType
  status : Status := .up
  provisioned : Bool := false
  adminOverrideStatus : Option Status := none
  txPowerDbm : Option ℚ := none
  sensitivityMinDbm : Option ℚ := none
  insertionLossDb : Option ℚ := none
  capacity : Option Int := none
  signalPowerDbm : Option ℚ := none
  signalMarginDb : Option ℚ := none
  attenuationDb : Option ℚ := none
  signalStatus : Option SignalStatus := none
  parentContainerId : Option String := none
  tariffId : Option Int := none
  vrfId : Option Int := none
  hardwareModelId : Option Int := none
  deriving DecidableEq, Repr

/-- Row of table `interface`; `models_pkg/interface.py:29–48`. -/
structure Interface where
  id : String
  deviceId : String
  name : String
  role : Option InterfaceRole := none
  adminStatus : AdminStatus := .up
  capacity : Option Int := none
  portRole : Option PortRole := none
  profileName : Option String := none
  deriving DecidableEq, Repr

/-- Row of table `link`; `models_pkg/link.py:19–37`. -/
structure Link where
  id : String
  aInterfaceId : String
  bInterfaceId : String
  status : Status := .up
  kind : LinkType := .fiber
  adminOverrideStatus : Option Status := none
  lengthKm : Option ℚ := none
  physicalMediumId : Option Int := none
  deriving DecidableEq, Repr

/-- Row of table `hardwaremodel`; `models_pkg/hardware.py:13–26`. -/
structure HardwareModel where
  id : Int
  capacityGbps : Option ℚ := none
  txPowerDbm : Option ℚ := none
  sensitivityMinDbm : Option ℚ := none
  deriving DecidableEq, Repr

/-- Row of table `portprofile`; `models_pkg/hardware.py:35–45`. -/
structure PortProfile where
  hardwareModelId : Int
  name : String
  speedGbps : Option ℚ := none
  media : Option String := none
  portRole : Option PortRole := none
  maxSubscribers : Option Int := none
  deriving DecidableEq, Repr

/-- Row of table `tariff`; `engine-go/internal/models/tariff.go:13–20`. -/
structure Tariff where
  id : Int
  maxUpMbps : ℚ
  maxDownMbps : ℚ
  deriving DecidableEq, Repr

/-- Row of table `physicalmedium`; `models_pkg/physical.py:7–14`. -/
structure PhysicalMedium where
  id : Int
  code : String
  kind : String
  maxRangeKm : Option ℚ := none
  deriving DecidableEq, Repr

/-- Row of table `route`; `models_pkg/l3.py:7–20`. -/
structure Route where
  id : Int
  vrfId : Int
  pfx : String
  nextHop : Option String := none
  interfaceId : Option String := none
  adminDistance : Int := 1
  metric : Int := 0
  deriving DecidableEq, Repr

/-- Row of table `interfaceaddress`, as the L3 trace reads it. -/
structure InterfaceAddress where
  interfaceId : String
  ip : String
  deriving DecidableEq, Repr

/-- `derive_role`, the same in both languages; `models_pkg/device.py:81–88`,
`models/device.go:72–87`. -/
def Device.deriveRole (d : Device) : DeviceRole :=
  match d.type with
  | .splitter | .hop | .nvt | .odf => .passive
  | .backboneGateway | .pop | .coreSite => .alwaysOnline
  | _ => .active

/-- `EffectiveStatus`: the admin override if set, else the stored status;
`models/device.go:98–104`. -/
def Device.effectiveStatus (d : Device) : Status := d.adminOverrideStatus.getD d.status

end Unoc.Model
