import Mathlib.Algebra.Order.Ring.Rat
import Mathlib.Data.Prod.Lex
import Unoc.Base.Dict
import Unoc.Model.Database

/-!
# Subscriber aggregation

`backend/services/subscriber_model.py`. Provisioned leaves are traced to an OLT or to an AON
switch port; an AON access port serves one CPE, so its candidates are arbitrated in a second pass
that rewrites their decisions. Nested dictionaries by device and port are keyed by the pair.
-/

namespace Unoc.Subscriber

open Unoc.Base Unoc.Model

/-- `ONT_TYPES`; `subscriber_model.py:12`. -/
def ontTypes : DeviceType → Bool
  | .ont | .businessOnt => true
  | _ => false

/-- `CPE_TYPES`; `subscriber_model.py:13`. -/
def cpeTypes : DeviceType → Bool
  | .aonCpe => true
  | _ => false

/-- `PASSIVE_TYPES`; `subscriber_model.py:14`. -/
def passiveTypes : DeviceType → Bool
  | .odf | .nvt | .splitter | .hop => true
  | _ => false

/-- `SUBSCRIBER_SOURCE`; `subscriber_model.py:15`. -/
def subscriberSource : String := "L4_PROVISIONING_GRAPH"

/-- `PON_DEFAULT_CAPACITY`; `subscriber_model.py:16`. -/
def ponDefaultCapacity : Nat := 128

/-- `subscriber_domain`. -/
inductive Domain where
  | olt
  | aon
  deriving DecidableEq, Repr

/-- The `reason` of a mapping decision. -/
inductive Reason where
  | notProvisioned
  | noDirectAonAccessPort
  | noReachableAnchor
  | firstReachableOltPon
  | firstReachableAonSwitch
  | directL4CpeAccessPort
  | directL4CpeAccessPortOneToOne
  | aonAccessPortOversubscribedOneToOne
  deriving DecidableEq, Repr

/-- One entry of `per_node`; `subscriber_model.py:55–65`. -/
structure Node where
  id : String
  type : DeviceType
  subscribers : Nat := 0
  subscriberIds : List String := []
  subscriberDomain : Option Domain := none
  aggregationSource : String := subscriberSource
  deriving DecidableEq, Repr

/-- One entry of `mapping_decisions`; keys that a decision lacks read as `none`. -/
structure Decision where
  subscriberId : String
  subscriberType : DeviceType
  counted : Option Bool
  domain : Option Domain := none
  source : String := subscriberSource
  anchorDeviceId : Option String := none
  anchorInterfaceId : Option String := none
  reason : Reason
  deriving DecidableEq, Repr

/-- Result of a trace: anchor device, its interface, and the reason. -/
structure Anchor where
  deviceId : String
  interfaceId : String
  reason : Reason
  deriving DecidableEq, Repr

/-! ### Lookup structures -/

/-- Sort key of interfaces; `subscriber_model.py:41`. -/
def interfaceKey (i : Interface) : String ×ₗ String ×ₗ String :=
  toLex (i.deviceId, toLex (i.name, i.id))

/-- Interfaces in the order of their sort key. -/
def sortedInterfaces (db : Database) : List Interface :=
  db.interfaces.insertionSort (fun a b ↦ interfaceKey a ≤ interfaceKey b)

/-- `interfaces_by_device[deviceId]`; `subscriber_model.py:40–42`. -/
def interfacesByDevice (db : Database) (deviceId : String) : List Interface :=
  (sortedInterfaces db).filter (fun i ↦ i.deviceId = deviceId)

/-- The far ends that one link adds to an interface; `subscriber_model.py:45–48`. -/
def linkFarEnds (interfaceId : String) (link : Link) : List String :=
  if link.aInterfaceId = "" ∨ link.bInterfaceId = "" then []
  else
    (if link.aInterfaceId = interfaceId then [link.bInterfaceId] else []) ++
      (if link.bInterfaceId = interfaceId then [link.aInterfaceId] else [])

/-- `sorted(link_neighbors.get(interfaceId, set()))`; `subscriber_model.py:44–48,97,106`. -/
def linkNeighbors (db : Database) (interfaceId : String) : List String :=
  sortedSet (db.links.flatMap (linkFarEnds interfaceId))

/-- `sibling_ids`; `subscriber_model.py:71–78`. -/
def siblingIds (db : Database) (iface : Interface) : List String :=
  match db.getDevice iface.deviceId with
  | none => []
  | some device =>
    if passiveTypes device.type || ontTypes device.type || cpeTypes device.type then
      ((interfacesByDevice db iface.deviceId).map Interface.id).filter (fun id ↦ id ≠ iface.id)
    else []

/-! ### Traces -/

/-- The queue and the visited set of `trace_anchor`. -/
structure TraceState where
  queue : List String
  visited : List String

/-- One iteration of the push loop; `subscriber_model.py:98–101`. -/
def pushNext (st : TraceState) (nextId : String) : TraceState :=
  if nextId ∈ st.visited then st
  else { queue := st.queue ++ [nextId], visited := nextId :: st.visited }

/-- The anchor that an interface of a device is, if any; `subscriber_model.py:91–95`. -/
def anchorAt (domain : Domain) (device : Device) (iface : Interface) : Option Anchor :=
  if domain = .olt ∧ device.type = .olt ∧ iface.portRole = some .pon then
    some ⟨device.id, iface.id, .firstReachableOltPon⟩
  else if domain = .aon ∧ device.type = .aonSwitch then
    some ⟨device.id, iface.id, .firstReachableAonSwitch⟩
  else none

/-- The queue loop of `trace_anchor`; `subscriber_model.py:83–102`. -/
def traceLoop (db : Database) (domain : Domain) : Nat → TraceState → Option Anchor
  | 0, _ => none
  | fuel + 1, st =>
    match st.queue with
    | [] => none
    | ifaceId :: rest =>
      match db.getInterface ifaceId with
      | none => traceLoop db domain fuel { st with queue := rest }
      | some iface =>
        match db.getDevice iface.deviceId with
        | none => traceLoop db domain fuel { st with queue := rest }
        | some device =>
          match anchorAt domain device iface with
          | some anchor => some anchor
          | none =>
            traceLoop db domain fuel
              ((linkNeighbors db ifaceId ++ siblingIds db iface).foldl pushNext
                { st with queue := rest })

/-- Interface ids that a trace may queue: those of interfaces and of link ends. -/
def traceUniverse (db : Database) : List String :=
  db.interfaces.map Interface.id ++
    db.links.flatMap (fun l ↦ [l.aInterfaceId, l.bInterfaceId])

/-- `trace_anchor`; every id is queued once, so the ids that can be queued bound the loop;
`subscriber_model.py:80–102`. -/
def traceAnchor (db : Database) (start : Device) (domain : Domain) : Option Anchor :=
  let queue := (interfacesByDevice db start.id).map Interface.id
  traceLoop db domain (traceUniverse db).length { queue := queue, visited := queue }

/-- The AON switch port behind a peer interface, if it is one; `subscriber_model.py:107–112`. -/
def directAonPeer (db : Database) (peerId : String) : Option Anchor := do
  let peerIface ← db.getInterface peerId
  let peerDevice ← db.getDevice peerIface.deviceId
  if peerDevice.type = .aonSwitch then
    some ⟨peerDevice.id, peerIface.id, .directL4CpeAccessPort⟩
  else none

/-- `trace_direct_aon_anchor`; `subscriber_model.py:104–113`. -/
def traceDirectAonAnchor (db : Database) (start : Device) : Option Anchor :=
  ((interfacesByDevice db start.id).flatMap (fun i ↦ linkNeighbors db i.id)).findSome?
    (directAonPeer db)

/-! ### First pass -/

/-- The accumulators of `resolve_subscriber_model`; `subscriber_model.py:55–69`. -/
structure Tally where
  perNode : List Node
  ponOccupancy : Dict (String × String) Nat := ∅
  aonAccessOccupancy : Dict (String × String) Nat := ∅
  aonPortCandidates : Dict (String × String) (List String) := ∅
  decisions : List Decision := []

/-- Update `per_node[id]`. -/
def updateNode (nodes : List Node) (id : String) (f : Node → Node) : List Node :=
  nodes.map (fun n ↦ if n.id = id then f n else n)

/-- `occupancy[device][port] += 1` on a defaulting dictionary. -/
def increment {K : Type} [DecidableEq K] (m : Dict K Nat) (k : K) : Dict K Nat :=
  m.update k 0 (· + 1)

/-- `candidates[device][port].append(id)` on a defaulting dictionary. -/
def appendCandidate (m : Dict (String × String) (List String)) (k : String × String)
    (id : String) : Dict (String × String) (List String) :=
  m.update k [] (· ++ [id])

/-- Python `list.sort`. -/
def sortIds (ids : List String) : List String := ids.insertionSort (fun a b ↦ a ≤ b)

/-- The node of a provisioned leaf; `subscriber_model.py:132–135`. -/
def leafNode (id : String) (domain : Domain) (n : Node) : Node :=
  { n with subscribers := 1, subscriberIds := [id], subscriberDomain := some domain }

/-- The node of an OLT that gains a subscriber; `subscriber_model.py:184–188`. -/
def gainSubscriber (id : String) (domain : Domain) (n : Node) : Node :=
  if id ∈ n.subscriberIds then n
  else
    let ids := sortIds (n.subscriberIds ++ [id])
    { n with subscriberIds := ids, subscribers := ids.length, subscriberDomain := some domain }

/-- The AON branch of a provisioned leaf; `subscriber_model.py:137–166`. -/
def tallyCpe (db : Database) (t : Tally) (device : Device) : Tally :=
  match traceDirectAonAnchor db device with
  | none =>
    { t with decisions := t.decisions ++ [{
        subscriberId := device.id, subscriberType := device.type, counted := some false,
        domain := some .aon, reason := .noDirectAonAccessPort }] }
  | some anchor =>
    { t with
      aonPortCandidates :=
        if anchor.interfaceId = "" then t.aonPortCandidates
        else appendCandidate t.aonPortCandidates (anchor.deviceId, anchor.interfaceId) device.id
      decisions := t.decisions ++ [{
        subscriberId := device.id, subscriberType := device.type, counted := none,
        domain := some .aon, anchorDeviceId := some anchor.deviceId,
        anchorInterfaceId := some anchor.interfaceId, reason := anchor.reason }] }

/-- The OLT branch of a provisioned leaf; `subscriber_model.py:168–206`. -/
def tallyOnt (db : Database) (t : Tally) (device : Device) : Tally :=
  match traceAnchor db device .olt with
  | none =>
    { t with decisions := t.decisions ++ [{
        subscriberId := device.id, subscriberType := device.type, counted := some false,
        domain := some .olt, reason := .noReachableAnchor }] }
  | some anchor =>
    { t with
      perNode := updateNode t.perNode anchor.deviceId (gainSubscriber device.id .olt)
      ponOccupancy :=
        if anchor.interfaceId = "" then t.ponOccupancy
        else increment t.ponOccupancy (anchor.deviceId, anchor.interfaceId)
      decisions := t.decisions ++ [{
        subscriberId := device.id, subscriberType := device.type, counted := some true,
        domain := some .olt, anchorDeviceId := some anchor.deviceId,
        anchorInterfaceId := some anchor.interfaceId, reason := anchor.reason }] }

/-- The body of the device loop; `subscriber_model.py:115–206`. -/
def tallyDevice (db : Database) (t : Tally) (device : Device) : Tally :=
  if ontTypes device.type = false ∧ cpeTypes device.type = false then t
  else if device.provisioned = false then
    { t with decisions := t.decisions ++ [{
        subscriberId := device.id, subscriberType := device.type, counted := some false,
        reason := .notProvisioned }] }
  else
    let domain : Domain := if ontTypes device.type then .olt else .aon
    let t := { t with perNode := updateNode t.perNode device.id (leafNode device.id domain) }
    match domain with
    | .aon => tallyCpe db t device
    | .olt => tallyOnt db t device

/-! ### Second pass -/

/-- The decision of a candidate after its port is arbitrated; `subscriber_model.py:219–227`. -/
def arbitrate (interfaceId countedId : String) (sortedCpes : List String) (d : Decision) :
    Decision :=
  if d.domain ≠ some .aon ∨ d.anchorInterfaceId ≠ some interfaceId then d
  else if d.subscriberId = countedId then
    { d with counted := some true, reason := .directL4CpeAccessPortOneToOne }
  else if d.subscriberId ∈ sortedCpes then
    { d with counted := some false, reason := .aonAccessPortOversubscribedOneToOne }
  else d

/-- The node of an AON switch that gains a subscriber; `subscriber_model.py:213–216`. -/
def gainAonSubscriber (id : String) (n : Node) : Node :=
  { n with
    subscriberIds :=
      if id ∈ n.subscriberIds then n.subscriberIds else sortIds (n.subscriberIds ++ [id])
    subscriberDomain := some .aon }

/-- The body of the port loop; candidate lists are never empty; `subscriber_model.py:210–227`. -/
def tallyPort (anchorId : String) (t : Tally) (interfaceId : String) : Tally :=
  match sortIds ((t.aonPortCandidates.lookup (anchorId, interfaceId)).getD []) with
  | [] => t
  | countedId :: others =>
    { t with
      perNode := updateNode t.perNode anchorId (gainAonSubscriber countedId)
      aonAccessOccupancy := t.aonAccessOccupancy.insert (anchorId, interfaceId) 1
      decisions := t.decisions.map (arbitrate interfaceId countedId (countedId :: others)) }

/-- The ports of one anchor with candidates, sorted. -/
def candidatePorts (t : Tally) (anchorId : String) : List String :=
  sortedSet ((t.aonPortCandidates.keys.filter (fun k ↦ k.1 = anchorId)).map Prod.snd)

/-- The body of the anchor loop; `subscriber_model.py:208–229`. -/
def tallyAnchor (t : Tally) (anchorId : String) : Tally :=
  let t := (candidatePorts t anchorId).foldl (tallyPort anchorId) t
  { t with perNode := updateNode t.perNode anchorId (fun n ↦
      { n with subscribers := n.subscriberIds.length }) }

/-- `per_node` before the first pass; `subscriber_model.py:55–65`. -/
def initialNodes (db : Database) : List Node :=
  db.devices.map (fun d ↦ { id := d.id, type := d.type })

/-- Devices by id; `subscriber_model.py:115`. -/
def sortedDevices (db : Database) : List Device :=
  db.devices.insertionSort (fun a b ↦ a.id ≤ b.id)

/-- The accumulators after the first pass. -/
def firstPass (db : Database) : Tally :=
  (sortedDevices db).foldl (tallyDevice db) { perNode := initialNodes db }

/-- The accumulators after the second pass. -/
def secondPass (t : Tally) : Tally :=
  (sortedSet (t.aonPortCandidates.keys.map Prod.fst)).foldl tallyAnchor t

/-! ### Result -/

/-- `model["global"]["subscriber"]`; `subscriber_model.py:247–263`. -/
structure GlobalSubscribers where
  total : Nat
  source : String := subscriberSource
  provisionedTotal : Nat
  provisionedOltDomain : Nat
  provisionedAonDomain : Nat
  oltDomain : Nat
  aonDomain : Nat
  resolvedOltDomain : Nat
  resolvedAonDomain : Nat
  resolvedTotal : Nat

/-- One entry of `pon_ports` or `aon_access_ports`; `subscriber_model.py:268–295`. -/
structure PortState where
  count : Nat
  maxCapacity : Nat
  utilization : ℚ
  source : String := subscriberSource

/-- The result of `resolve_subscriber_model`; `subscriber_model.py:242–297`. -/
structure SubscriberModel where
  rawByType : DeviceType → Nat
  provisionedByType : DeviceType → Nat
  subscriber : GlobalSubscribers
  resolvedSubscribers : List Node
  ponOccupancy : Dict (String × String) Nat
  ponPorts : (String × String) → Option PortState
  aonAccessOccupancy : Dict (String × String) Nat
  aonAccessPorts : (String × String) → Option PortState
  mappingDecisions : List Decision

/-- `olt_total` and `aon_total`; `subscriber_model.py:231–240`. -/
def domainTotal (nodes : List Node) (domain : Domain) (type : DeviceType) : Nat :=
  ((nodes.filter (fun n ↦ n.subscriberDomain = some domain ∧ n.type = type)).map
    Node.subscribers).sum

/-- `resolve_subscriber_model`; `subscriber_model.py:33–297`. -/
def resolveSubscriberModel (db : Database) : SubscriberModel :=
  let t := secondPass (firstPass db)
  let raw := fun type ↦ db.devices.countP (fun d ↦ d.type = type)
  let provisioned := fun type ↦ db.devices.countP (fun d ↦ d.type = type ∧ d.provisioned)
  let oltTotal := domainTotal t.perNode .olt .olt
  let aonTotal := domainTotal t.perNode .aon .aonSwitch
  { rawByType := raw
    provisionedByType := provisioned
    subscriber := {
      total := oltTotal + aonTotal
      provisionedTotal := provisioned .ont + provisioned .businessOnt + provisioned .aonCpe
      provisionedOltDomain := provisioned .ont + provisioned .businessOnt
      provisionedAonDomain := provisioned .aonCpe
      oltDomain := oltTotal
      aonDomain := aonTotal
      resolvedOltDomain := oltTotal
      resolvedAonDomain := aonTotal
      resolvedTotal := oltTotal + aonTotal }
    resolvedSubscribers := t.perNode
    ponOccupancy := t.ponOccupancy
    ponPorts := fun k ↦ (t.ponOccupancy.lookup k).map (fun count ↦
      ⟨count, ponDefaultCapacity, count / ponDefaultCapacity, subscriberSource⟩)
    aonAccessOccupancy := t.aonAccessOccupancy
    aonAccessPorts := fun k ↦ (t.aonAccessOccupancy.lookup k).map (fun count ↦
      ⟨count, 1, count, subscriberSource⟩)
    mappingDecisions := t.decisions }

end Unoc.Subscriber
