import Mathlib.Algebra.Order.Ring.Rat
import Unoc.Model.Database

/-!
# Topology

What status evaluation reads of a database state: device rows without their stored status, the
links with their own status, and the L3 tables. Whether a link can be traversed is decided by
`backend/services/status_link.py` and `backend/services/link_validator_service.py`.
-/

namespace Unoc.Status

open Unoc.Model

/-- The columns of a device row that status evaluation reads; the stored status is none of them. -/
structure DeviceView where
  id : String
  type : DeviceType
  provisioned : Bool := false
  adminOverrideStatus : Option Status := none
  signalStatus : Option SignalStatus := none
  parentContainerId : Option String := none
  vrfId : Option Int := none
  deriving DecidableEq, Repr

/-- The view of a device row. -/
def deviceView (d : Device) : DeviceView where
  id := d.id
  type := d.type
  provisioned := d.provisioned
  adminOverrideStatus := d.adminOverrideStatus
  signalStatus := d.signalStatus
  parentContainerId := d.parentContainerId
  vrfId := d.vrfId

/-- `derive_role`; `models_pkg/device.py:81–88`. -/
def DeviceView.deriveRole (d : DeviceView) : DeviceRole :=
  match d.type with
  | .splitter | .hop | .nvt | .odf => .passive
  | .backboneGateway | .pop | .coreSite => .alwaysOnline
  | _ => .active

/-- Whether a device is administratively forced DOWN. -/
def DeviceView.forcedDown (d : DeviceView) : Bool := d.adminOverrideStatus = some .down

/-- The tables that status evaluation reads, and `AON_ETHERNET_MAX_RANGE_KM`. -/
structure Topology where
  devices : List DeviceView := []
  interfaces : List Interface := []
  links : List Link := []
  routes : List Route := []
  interfaceAddresses : List InterfaceAddress := []
  physicalMedia : List PhysicalMedium := []
  ethernetMaxRangeKm : ℚ := 10
  devices_nodup : (devices.map DeviceView.id).Nodup := by decide
  interfaces_nodup : (interfaces.map Interface.id).Nodup := by decide
  links_nodup : (links.map Link.id).Nodup := by decide

/-- The topology of a database state. -/
def topology (db : Database) : Topology where
  devices := db.devices.map deviceView
  interfaces := db.interfaces
  links := db.links
  routes := db.routes
  interfaceAddresses := db.interfaceAddresses
  physicalMedia := db.physicalMedia
  devices_nodup := by simpa [Function.comp_def, deviceView] using db.devices_nodup
  interfaces_nodup := db.interfaces_nodup
  links_nodup := db.links_nodup

namespace Topology

variable (t : Topology)

/-- `session.get(Device, id)`. -/
def getDevice (id : String) : Option DeviceView := t.devices.find? (fun d ↦ d.id = id)

/-- `session.get(Interface, id)`. -/
def getInterface (id : String) : Option Interface := t.interfaces.find? (fun i ↦ i.id = id)

/-- `session.get(Link, id)`. -/
def getLink (id : String) : Option Link := t.links.find? (fun l ↦ l.id = id)

/-- `session.get(PhysicalMedium, id)`. -/
def getPhysicalMedium (id : Int) : Option PhysicalMedium :=
  t.physicalMedia.find? (fun m ↦ m.id = id)

variable {t}

/-- A device is found by its id. -/
theorem getDevice_eq_some {id : String} {d : DeviceView} :
    t.getDevice id = some d ↔ d ∈ t.devices ∧ d.id = id :=
  find?_key_eq_some t.devices_nodup

/-- Device rows with one id are one row. -/
theorem device_unique {d d' : DeviceView} (hd : d ∈ t.devices) (hd' : d' ∈ t.devices)
    (hid : d.id = d'.id) : d = d' :=
  List.inj_on_of_nodup_map t.devices_nodup hd hd' hid

/-- An interface is found by its id. -/
theorem getInterface_eq_some {id : String} {i : Interface} :
    t.getInterface id = some i ↔ i ∈ t.interfaces ∧ i.id = id :=
  find?_key_eq_some t.interfaces_nodup

/-- A link is found by its id. -/
theorem getLink_eq_some {id : String} {l : Link} :
    t.getLink id = some l ↔ l ∈ t.links ∧ l.id = id :=
  find?_key_eq_some t.links_nodup

end Topology

/-- The devices of a topology are the rows. -/
theorem topology_getDevice (db : Database) (id : String) :
    (topology db).getDevice id = (db.getDevice id).map deviceView := by
  simp only [Topology.getDevice, topology, Database.getDevice, List.find?_map]
  rfl

/-! ### Passable links -/

/-- The device rows at both ends of a link, if all rows exist. -/
def linkEnds (t : Topology) (link : Link) : Option (DeviceView × DeviceView) := do
  let aIf ← t.getInterface link.aInterfaceId
  let bIf ← t.getInterface link.bInterfaceId
  let aDev ← t.getDevice aIf.deviceId
  let bDev ← t.getDevice bIf.deviceId
  return (aDev, bDev)

/-- `is_link_passable`; `status_link.py:72–144`. -/
def isLinkPassable (t : Topology) (link : Link) : Bool :=
  match link.adminOverrideStatus with
  | some override => override = .up
  | none =>
    link.status = .up &&
      match linkEnds t link with
      | none => false
      | some (aDev, bDev) => !aDev.forcedDown && !bDev.forcedDown

/-! ### Link classes -/

/-- `ROUTER_CLASS`; `link_rules.py:13–17`. -/
def routerClass : DeviceType → Bool
  | .backboneGateway | .coreRouter | .edgeRouter => true
  | _ => false

/-- `PASSIVE_INLINE`; `link_rules.py:18`. -/
def passiveInline : DeviceType → Bool
  | .splitter | .hop | .nvt | .odf => true
  | _ => false

/-- `ONT_CLASS`; `link_rules.py:19`. -/
def ontClass : DeviceType → Bool
  | .ont | .businessOnt => true
  | _ => false

/-- The `link_class` of a rule. -/
inductive LinkClass where
  | routedP2p
  | opticalSegment
  | opticalTermination
  | accessEdge
  | accessUplinkAon
  | accessUplinkOlt
  | mixedInvalid
  | peerInvalid
  | reverseInvalid
  deriving DecidableEq, Repr

/-- A rule that matches its two sides in either order. -/
def matchEither (p q : DeviceType → Bool) (a b : DeviceType) : Bool := (p a && q b) || (p b && q a)

/-- `RULES` with their classes, in order; `link_rules.py:98–110`. -/
def linkRules : List (LinkClass × (DeviceType → DeviceType → Bool)) := [
  (.routedP2p, fun a b ↦ routerClass a && routerClass b),
  (.opticalSegment, matchEither (· = .olt) passiveInline),
  (.opticalSegment, fun a b ↦ passiveInline a && passiveInline b),
  (.opticalTermination, matchEither passiveInline ontClass),
  (.opticalSegment, matchEither (· = .olt) ontClass),
  (.accessEdge, matchEither (· = .aonSwitch) (· = .aonCpe)),
  (.accessUplinkAon, matchEither (· = .aonSwitch) routerClass),
  (.accessUplinkOlt, matchEither (· = .olt) routerClass),
  (.mixedInvalid, matchEither passiveInline (fun d ↦ routerClass d || d = .aonSwitch || d = .aonCpe)),
  (.peerInvalid, fun a b ↦ ontClass a && ontClass b)]

/-- `classify_link`, as the class it assigns; `link_rules.py:113–117`. -/
def classifyLink (a b : DeviceType) : LinkClass :=
  match linkRules.find? (fun rule ↦ rule.2 a b) with
  | some rule => rule.1
  | none => .reverseInvalid

/-- `allowed_media_codes_for_class`; `link_rules.py:123–143`. -/
def allowedMediaCodesForClass : LinkClass → List String
  | .routedP2p | .accessUplinkOlt => ["SMF_G652D", "SMF_G657A1", "SMF_G657A2"]
  | .opticalSegment | .opticalTermination =>
    ["SMF_G652D", "SMF_G657A1", "SMF_G657A2", "MMF_OM3", "MMF_OM4"]
  | .accessEdge => ["CAT6A_UTP"]
  | .accessUplinkAon =>
    ["SMF_G652D", "SMF_G657A1", "SMF_G657A2", "MMF_OM3", "MMF_OM4", "CAT6A_UTP"]
  | _ => []

/-! ### Viable links -/

/-- `float(length) <= float(bound)`, with an unknown length in range. -/
def withinRange (length : Option ℚ) (bound : ℚ) : Bool :=
  match length with
  | none => true
  | some km => km ≤ bound

/-- `_is_optical_context`; `link_validator_service.py:37–52`. -/
def isOpticalContext (t : Topology) (link : Link) : Bool :=
  match linkEnds t link with
  | none => false
  | some (aDev, bDev) => ontClass aDev.type || ontClass bDev.type

/-- `is_link_physically_viable`; `link_validator_service.py:55–104`. -/
def isLinkPhysicallyViable (t : Topology) (link : Link) : Bool :=
  match link.physicalMediumId with
  | some mediumId =>
    match t.getPhysicalMedium mediumId, linkEnds t link with
    | some medium, some (aDev, bDev) =>
      medium.code ∈ allowedMediaCodesForClass (classifyLink aDev.type bDev.type) &&
        match medium.maxRangeKm with
        | none => true
        | some bound => medium.kind = "optical" || withinRange link.lengthKm bound
    | _, _ => false
  | none => isOpticalContext t link || withinRange link.lengthKm t.ethernetMaxRangeKm

end Unoc.Status
