import Unoc.Subscriber.Accounts

/-!
# Count semantics

`backend/services/count_semantics.py` states three counts for each device and PON port: physical
elements, provisioned elements and the authoritative count. The physical count of an anchor comes
from traces of its own, in row order and without crossing CPEs; the other two come from the
subscriber model.
-/

namespace Unoc.Subscriber

open Unoc.Base Unoc.Model

/-! ### Physical traces -/

section Traces

variable (db : Database)

/-- `ifaces_by_device[deviceId]`, in row order; `count_semantics.py:96–98`. -/
def ifacesByDevice (deviceId : String) : List Interface :=
  db.interfaces.filter (fun i ↦ i.deviceId = deviceId)

/-- `links_by_if[interfaceId]`, in row order; `count_semantics.py:34–37`. -/
def linksByIf (interfaceId : String) : List Link :=
  db.links.flatMap (fun l ↦
    (if l.aInterfaceId = interfaceId then [l] else []) ++
      (if l.bInterfaceId = interfaceId then [l] else []))

/-- The other end of a link at an interface; `count_semantics.py:48,78`. -/
def peerId (interfaceId : String) (link : Link) : String :=
  if link.aInterfaceId = interfaceId then link.bInterfaceId else link.aInterfaceId

/-- The AON switch and its port, if a peer interface is one; `count_semantics.py:49–52`. -/
def aonSwitchPort (peerId : String) : Option (String × String) := do
  let peer ← db.getInterface peerId
  let peerDevice ← db.getDevice peer.deviceId
  if peerDevice.type = .aonSwitch then some (peer.deviceId, peer.id) else none

/-- `_direct_cpe_anchor`; `count_semantics.py:41–53`. -/
def directCpeAnchor (device : Device) : Option (String × String) :=
  ((ifacesByDevice db device.id).flatMap (fun i ↦ (linksByIf db i.id).map (peerId i.id))).findSome?
    (aonSwitchPort db)

/-- The ids that an interface of a device pushes: far ends, then siblings where it can be crossed;
`count_semantics.py:76–86`. -/
def physicalNext (device : Device) (iface : Interface) : List String :=
  ((linksByIf db iface.id).map (peerId iface.id)).filter (· ≠ "") ++
    if passiveTypes device.type || ontTypes device.type then
      (ifacesByDevice db device.id).map Interface.id
    else []

/-- The queue loop of `_trace_olt_anchor`; `count_semantics.py:65–87`. -/
def traceOltLoop : Nat → TraceState → Option (String × String)
  | 0, _ => none
  | fuel + 1, st =>
    match st.queue with
    | [] => none
    | ifaceId :: rest =>
      match db.getInterface ifaceId with
      | none => traceOltLoop fuel { st with queue := rest }
      | some iface =>
        match db.getDevice iface.deviceId with
        | none => traceOltLoop fuel { st with queue := rest }
        | some current =>
          if current.type = .olt ∧ iface.portRole = some .pon then some (current.id, iface.id)
          else
            traceOltLoop fuel
              ((physicalNext db current iface).foldl pushNext { st with queue := rest })

/-- `_trace_olt_anchor`; `count_semantics.py:56–87`. -/
def traceOltAnchor (device : Device) : Option (String × String) :=
  let queue := (ifacesByDevice db device.id).map Interface.id
  traceOltLoop db (traceUniverse db).length { queue := queue, visited := queue }

/-- The PON port that an ONT is attributed to physically; `count_semantics.py:114–119`. -/
def physicalOntKey (d : Device) : Option (String × String) :=
  if ontTypes d.type then traceOltAnchor db d else none

/-- The AON port that a CPE is attributed to physically; `count_semantics.py:120–124`. -/
def physicalCpeKey (d : Device) : Option (String × String) :=
  if cpeTypes d.type then directCpeAnchor db d else none

/-- The AON port that a provisioned CPE is attributed to; `count_semantics.py:125–126`. -/
def provisionedCpeKey (d : Device) : Option (String × String) :=
  if d.provisioned then physicalCpeKey db d else none

end Traces

/-! ### Entries -/

/-- `COUNT_SOURCE`; `count_semantics.py:17`. -/
def countSource : String := "DEVICE_COUNT_MODEL"

/-- `device_type` of an entry: that of a device, or `"PON"`. -/
inductive EntryType where
  | device (type : DeviceType)
  | pon
  deriving DecidableEq, Repr

/-- A `PHYSICAL_PROVISIONING_MISMATCH`; `count_semantics.py:168–176`. -/
structure Mismatch where
  code : String := "PHYSICAL_PROVISIONING_MISMATCH"
  deviceId : String
  deviceType : DeviceType
  physicalCount : Nat
  provisionedCount : Nat
  mismatchDelta : Int
  severity : Nat := 60
  deriving DecidableEq, Repr

/-- One entry of `count_model`; `count_semantics.py:155–165,194–207`. -/
structure CountEntry where
  deviceId : String
  deviceType : EntryType
  parentDeviceId : Option String := none
  physicalCount : Nat
  provisionedCount : Nat
  effectiveCount : Nat
  maxCapacity : Option Nat := none
  utilization : Option ℚ := none
  mismatchDelta : Int
  countSource : String := Subscriber.countSource
  effectiveSource : String
  warnings : List Mismatch := []
  deriving DecidableEq, Repr

/-- One entry of `orphaned_devices`; a leaf without decision has no reason;
`count_semantics.py:182–189`. -/
structure OrphanedDevice where
  deviceId : String
  deviceType : DeviceType
  reason : Option Reason
  mappedPortId : Option String
  deriving DecidableEq, Repr

/-- Whether a device is an ONT or a CPE. -/
def isLeaf (d : Device) : Bool := ontTypes d.type || cpeTypes d.type

/-- `counted_decisions.get(id)`; `count_semantics.py:102–106`. -/
def countedDecision (m : SubscriberModel) (id : String) : Option Decision :=
  if id = "" then none else m.mappingDecisions.reverse.find? (fun dec ↦ dec.subscriberId = id)

/-- `sum` over the ports of a device in a dictionary by device and port. -/
def sumOverPorts (m : Dict (String × String) Nat) (deviceId : String) : Nat :=
  ((m.entries.filter (fun e ↦ e.1.1 = deviceId)).map Sigma.snd).sum

/-- The subscribers of a node, 0 without node; `count_semantics.py:137`. -/
def nodeSubscribers (m : SubscriberModel) (id : String) : Nat :=
  ((m.resolvedSubscribers.find? (fun n ↦ n.id = id)).map Node.subscribers).getD 0

/-- `physical_count` of a device; the sets of physical elements hold distinct device ids;
`count_semantics.py:135,139,143`. -/
def physicalCount (db : Database) (d : Device) : Nat :=
  match d.type with
  | .olt => db.devices.countP (fun x ↦ (physicalOntKey db x).map Prod.fst = some d.id)
  | .aonSwitch => db.devices.countP (fun x ↦ (physicalCpeKey db x).map Prod.fst = some d.id)
  | _ => if isLeaf d then 1 else (ifacesByDevice db d.id).length

/-- `provisioned_count` of a device; `count_semantics.py:136,140,144`. -/
def provisionedCount (db : Database) (m : SubscriberModel) (d : Device) : Nat :=
  match d.type with
  | .olt => sumOverPorts m.ponOccupancy d.id
  | .aonSwitch => db.devices.countP (fun x ↦ (provisionedCpeKey db x).map Prod.fst = some d.id)
  | _ => if isLeaf d ∧ d.provisioned then 1 else 0

/-- `effective_count` of a device; `count_semantics.py:137,141,145–150`. -/
def effectiveCount (m : SubscriberModel) (d : Device) : Nat :=
  if isLeaf d then
    if (countedDecision m d.id).bind Decision.counted = some true then 1 else 0
  else
    match d.type with
    | .olt | .aonSwitch => nodeSubscribers m d.id
    | _ => 0

/-- The warnings of an entry; `count_semantics.py:167–178`. -/
def deviceMismatches (db : Database) (m : SubscriberModel) (d : Device) : List Mismatch :=
  if physicalCount db d = provisionedCount db m d then []
  else [{
    deviceId := d.id, deviceType := d.type
    physicalCount := physicalCount db d, provisionedCount := provisionedCount db m d
    mismatchDelta := physicalCount db d - provisionedCount db m d }]

/-- The entry of a device; `count_semantics.py:133–165`. -/
def deviceEntry (db : Database) (m : SubscriberModel) (d : Device) : CountEntry where
  deviceId := d.id
  deviceType := .device d.type
  physicalCount := physicalCount db d
  provisionedCount := provisionedCount db m d
  effectiveCount := effectiveCount m d
  mismatchDelta := physicalCount db d - provisionedCount db m d
  effectiveSource :=
    if isLeaf d ∨ d.type = .olt ∨ d.type = .aonSwitch then subscriberSource else "not_applicable"
  warnings := deviceMismatches db m d

/-- The orphan of a device, if it is one; `count_semantics.py:180–189`. -/
def orphanOf (m : SubscriberModel) (d : Device) : Option OrphanedDevice :=
  if isLeaf d ∧ d.provisioned ∧ (countedDecision m d.id).bind Decision.counted ≠ some true then
    some ⟨d.id, d.type, (countedDecision m d.id).map Decision.reason,
      (countedDecision m d.id).bind Decision.anchorInterfaceId⟩
  else none

/-- ONTs that a PON port is attributed physically; `count_semantics.py:195`. -/
def physicalPon (db : Database) (k : String × String) : Nat :=
  db.devices.countP (fun x ↦ physicalOntKey db x = some k)

/-- The entry of a PON port; `count_semantics.py:193–207`. -/
def ponEntry (db : Database) (k : String × String) (state : PortState) : CountEntry where
  deviceId := k.2
  deviceType := .pon
  parentDeviceId := some k.1
  physicalCount := physicalPon db k
  provisionedCount := state.count
  effectiveCount := state.count
  maxCapacity := some state.maxCapacity
  utilization := some state.utilization
  mismatchDelta := physicalPon db k - state.count
  effectiveSource := subscriberSource

/-- The PON ports of a model, by device and port. -/
def ponPortKeys (m : SubscriberModel) : List (String × String) :=
  m.ponOccupancy.keys.insertionSort (fun a b ↦ toLex a ≤ toLex b)

/-- The entries of the PON ports; `count_semantics.py:193–207`. -/
def ponEntries (db : Database) (m : SubscriberModel) : List CountEntry :=
  (ponPortKeys m).filterMap (fun k ↦ (m.ponPorts k).map (ponEntry db k))

/-- `count_model`; an entry replaces one of the same id; `count_semantics.py:130–207`. -/
def countModel (db : Database) (m : SubscriberModel) : Dict String CountEntry :=
  ((sortedDevices db).map (deviceEntry db m) ++ ponEntries db m).foldl
    (fun model entry ↦ model.insert entry.deviceId entry) ∅

/-- Sum of a count over the entries of leaves; `count_semantics.py:226–227`. -/
def sumLeaves (model : Dict String CountEntry) (count : CountEntry → Nat) : Nat :=
  (((model.entries.map Sigma.snd).filter (fun e ↦
    match e.deviceType with
    | .device type => ontTypes type || cpeTypes type
    | .pon => false)).map count).sum

/-- The result of `build_count_semantics`; its constant labels are left out;
`count_semantics.py:215–235`. -/
structure CountSemantics where
  physicalByType : DeviceType → Nat
  provisionedByType : DeviceType → Nat
  globalPhysicalCount : Nat
  globalProvisionedCount : Nat
  globalEffectiveCount : Nat
  devices : Dict String CountEntry
  mismatches : List Mismatch
  oversubscriptionMapping : List Decision
  orphanedDevices : List OrphanedDevice

/-- `build_count_semantics`; `count_semantics.py:90–235`. -/
def buildCountSemantics (db : Database) : CountSemantics :=
  let m := resolveSubscriberModel db
  let model := countModel db m
  { physicalByType := fun type ↦ db.devices.countP (fun d ↦ d.type = type)
    provisionedByType := fun type ↦ db.devices.countP (fun d ↦ d.type = type ∧ d.provisioned)
    globalPhysicalCount := sumLeaves model CountEntry.physicalCount
    globalProvisionedCount := sumLeaves model CountEntry.provisionedCount
    globalEffectiveCount := m.subscriber.total
    devices := model
    mismatches := (sortedDevices db).flatMap (deviceMismatches db m)
    oversubscriptionMapping := m.mappingDecisions.filter (fun dec ↦
      dec.reason = .aonAccessPortOversubscribedOneToOne)
    orphanedDevices := (sortedDevices db).filterMap (orphanOf m) }

end Unoc.Subscriber
