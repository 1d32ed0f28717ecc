import Mathlib.Algebra.Order.Ring.Rat
import Unoc.Traffic.Cache

/-!
# Effective capacity

`engine-go/internal/traffic/capacity.go`. Precedence for an interface: its override, then the port
profile matched by name, then the role default; a link takes the smaller known end. Precedence for
a device: its override, then its hardware model, then the default of its type.
-/

namespace Unoc.Traffic

open Unoc.Model

/-- `positiveOrZero`; `capacity.go:179–184`. -/
def positiveOrZero (value : ℚ) : ℚ := if 0 < value then value else 0

/-- `DefaultDeviceCapacityMbps`, with zero for a type without an entry; `capacity.go:13–27`. -/
def defaultDeviceCapacityMbps : DeviceType → ℚ
  | .backboneGateway => 100000
  | .pop => 10000
  | .coreRouter => 40000
  | .edgeRouter => 10000
  | .aonSwitch => 10000
  | .olt => 10000
  | .ont => 1000
  | .businessOnt => 1000
  | .aonCpe => 1000
  | .splitter => 1000000
  | .hop => 1000000
  | .nvt => 1000000
  | .odf => 1000000
  | .coreSite => 0

/-- `EffectiveDeviceCapacityMbps`; `capacity.go:32–46`. -/
def effectiveDeviceCapacityMbps (device : Device) (cache : TopologyCache) : ℚ :=
  match device.capacity with
  | some capacity => positiveOrZero capacity
  | none =>
    match (device.hardwareModelId.bind cache.hardwareModelByID.lookup).bind
      HardwareModel.capacityGbps with
    | some capacityGbps => positiveOrZero (capacityGbps * 1000)
    | none => positiveOrZero (defaultDeviceCapacityMbps device.type)

/-- `FullDuplexUtilization`; `capacity.go:92–97`. -/
def fullDuplexUtilization (upBps downBps capacityMbps : ℚ) : ℚ :=
  if capacityMbps ≤ 0 then 0 else max upBps downBps / (capacityMbps * 1000000)

/-- Go `unicode.IsSpace`, the characters `strings.TrimSpace` removes. -/
def isSpace (c : Char) : Bool :=
  let n := c.toNat
  (0x09 ≤ n && n ≤ 0x0d) || n == 0x20 || n == 0x85 || n == 0xa0 || n == 0x1680 ||
    (0x2000 ≤ n && n ≤ 0x200a) || n == 0x2028 || n == 0x2029 || n == 0x202f || n == 0x205f ||
    n == 0x3000

/-- Drop the longest suffix of characters that satisfy `p`. -/
def dropEndWhile (p : Char → Bool) (cs : List Char) : List Char :=
  (cs.reverse.dropWhile p).reverse

/-- `baseFromName`: the trimmed name without its trailing digits, or the trimmed name when it is
all digits; `capacity.go:136–150`. -/
def baseFromName (name : String) : String :=
  let trimmed := dropEndWhile isSpace (name.toList.dropWhile isSpace)
  let base := dropEndWhile (fun c ↦ '0' ≤ c && c ≤ '9') trimmed
  String.ofList (if base = [] then trimmed else base)

/-- `findProfileByName`; `capacity.go:124–134`. -/
def findProfileByName (profiles : List PortProfile) (name : String) : Option PortProfile :=
  if name = "" then none else profiles.find? (fun p ↦ p.name == name)

/-- `matchingPortProfile`: the interface's own profile name first, then the base of its name;
`capacity.go:108–122`. -/
def matchingPortProfile (iface : Interface) (device : Option Device) (cache : TopologyCache) :
    Option PortProfile := do
  let device ← device
  let modelId ← device.hardwareModelId
  let profiles := (cache.portProfilesByHardwareModel.lookup modelId).getD []
  let named := match iface.profileName with
    | none => none
    | some profileName => findProfileByName profiles profileName
  named <|> findProfileByName profiles (baseFromName iface.name)

/-- `roleDefaultCapacityMbps`: the interface role decides before the port role;
`capacity.go:152–177`. -/
def roleDefaultCapacityMbps (iface : Interface) : ℚ :=
  match iface.role with
  | some .access | some .management => 1000
  | some .p2pUplink => 10000
  | none =>
    match iface.portRole with
    | some .access => 1000
    | some .uplink => 10000
    | _ => 0

/-- `EffectiveInterfaceCapacityMbps`; `capacity.go:51–63`. -/
def effectiveInterfaceCapacityMbps (iface : Interface) (device : Option Device)
    (cache : TopologyCache) : ℚ :=
  match iface.capacity with
  | some capacity => positiveOrZero capacity
  | none =>
    match (matchingPortProfile iface device cache).bind PortProfile.speedGbps with
    | some speedGbps => positiveOrZero (speedGbps * 1000)
    | none => roleDefaultCapacityMbps iface

/-- `endpointInterfaceCapacityMbps`; `capacity.go:99–106`. -/
def endpointInterfaceCapacityMbps (interfaceID : String) (cache : TopologyCache) : ℚ :=
  match cache.interfaceByID.lookup interfaceID with
  | none => 0
  | some iface =>
    effectiveInterfaceCapacityMbps iface (cache.deviceByID.lookup iface.deviceId) cache

/-- `EffectiveLinkCapacityMbps`; `capacity.go:68–86`. A missing link has no capacity. -/
def effectiveLinkCapacityMbps (link : Option Link) (cache : TopologyCache) : ℚ :=
  match link with
  | none => 0
  | some link =>
    let aCap := endpointInterfaceCapacityMbps link.aInterfaceId cache
    let bCap := endpointInterfaceCapacityMbps link.bInterfaceId cache
    if 0 < aCap ∧ 0 < bCap then min aCap bCap
    else if 0 < aCap then aCap
    else if 0 < bCap then bCap
    else if link.kind = .fiber then 10000
    else 1000

end Unoc.Traffic
