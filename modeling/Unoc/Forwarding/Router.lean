import Unoc.Base.FirstBest
import Unoc.Devices.Delete

/-!
# Router steps

`get_forwarding_decision` of `backend/services/l3_service.py`, `process_frame` of
`backend/services/l2_service.py` and `_step` of `backend/services/forwarding_service.py`. A router asks
for the best route of its VRF, which other routers share, and searches its own routes only if that one
leads out of an interface that is not its own.
-/

namespace Unoc.Forwarding

open Unoc.Base
open Unoc.Model
open Unoc.Devices.Delete (InterfaceRow Neighbor MacAddressEntry BridgeDomain)

/-! ### Tables -/

/-- The tables that a step reads. -/
structure Tables where
  devices : List Device := []
  interfaces : List InterfaceRow := []
  routes : List Route := []
  neighbors : List Neighbor := []
  bridgeDomains : List BridgeDomain := []
  macAddressEntries : List MacAddressEntry := []
  devices_nodup : (devices.map Device.id).Nodup := by decide
  interfaces_nodup : (interfaces.map (·.id)).Nodup := by decide
  neighbors_nodup : (neighbors.map (fun n ↦ (n.interfaceId, n.ipAddress))).Nodup := by decide

/-- An `ip_network`: its `prefixlen` and its test for addresses. -/
structure IpNetwork (A : Type) where
  prefixlen : Nat
  contains : A → Bool

/-- `ipaddress.ip_address` and `ipaddress.ip_network` with `strict=False`, for both versions; `none` is
a `ValueError`. -/
structure IpLibrary (A : Type) where
  ipAddress : String → Option A
  ipNetwork : String → Option (IpNetwork A)
  ipAddress_empty : ipAddress "" = none

variable {A : Type} (ip : IpLibrary A) (db : Tables)

/-- `session.get(Device, id)`. -/
def Tables.getDevice (id : String) : Option Device := db.devices.find? (fun d ↦ d.id = id)

/-- `session.get(Interface, id)`. -/
def Tables.getInterface (id : String) : Option InterfaceRow :=
  db.interfaces.find? (fun i ↦ i.id = id)

/-- The query for a neighbor. -/
def Tables.neighbor (interfaceId ipAddress : String) : Option Neighbor :=
  db.neighbors.find? (fun n ↦ n.interfaceId = interfaceId ∧ n.ipAddress = ipAddress)

/-- The routes of a VRF. -/
def Tables.routesOf (vrfId : Int) : List Route := db.routes.filter (fun r ↦ r.vrfId = vrfId)

/-- A text that is there and not empty. -/
def present (text : Option String) : Option String := text.filter (fun s ↦ s ≠ "")

/-! ### Decisions of a VRF -/

/-- The length of the prefix of a route, if it contains an address. -/
def matchLength (target : A) (r : Route) : Option Nat :=
  (ip.ipNetwork r.pfx).bind (fun net ↦ if net.contains target then some net.prefixlen else none)

/-- `_longest_prefix_match`; `l3_service.py:24–43`. -/
def longestPrefixMatch (vrfId : Int) (dstIp : String) : Option Route :=
  match ip.ipAddress dstIp with
  | none => none
  | some target => (firstBest (matchLength ip target) (db.routesOf vrfId)).map Prod.snd

/-- `_resolve_next_hop_mac`; `l3_service.py:46–53`. -/
def resolveNextHopMac (interfaceId nextHopIp : String) : Option String :=
  (db.neighbor interfaceId nextHopIp).map Neighbor.macAddress

/-- `ForwardDecision`; `l3_service.py:17–21`. -/
inductive ForwardDecision where
  | drop (reason : String)
  | forward (egressInterfaceId : String) (nextHopMac : Option String)
  deriving DecidableEq, Repr

/-- The decision for a route; `l3_service.py:83–102`. -/
def decideRoute (route : Route) : ForwardDecision :=
  match present route.interfaceId, present route.nextHop with
  | some i, none => .forward i none
  | some i, some nextHop =>
    match present (resolveNextHopMac db i nextHop) with
    | none => .drop "next_hop_unresolved"
    | some mac => .forward i (some mac)
  | none, some _ => .drop "egress_interface_unknown"
  | none, none => .drop "invalid_route"

/-- `get_forwarding_decision`; `l3_service.py:62–102`. -/
def getForwardingDecision (deviceId dst : String) : ForwardDecision :=
  if dst = "" then .drop "invalid_packet"
  else
    match (db.getDevice deviceId).bind Device.vrfId with
    | none => .drop "no_device_vrf"
    | some vrfId =>
      match longestPrefixMatch ip db vrfId dst with
      | none => .drop "no_route_found"
      | some route => decideRoute db route

/-! ### Steps -/

/-- What `_step` returns: a reason, or an egress interface and whether the packet is delivered there;
last the action for the metadata. -/
inductive StepResult where
  | drop (reason metaAction : String)
  | forward (egressIf : String) (deliverHere : Bool) (metaAction : String)
  deriving DecidableEq, Repr

/-- The ids of the interfaces of a device. -/
def Tables.ifIds (deviceId : String) : List String :=
  (db.interfaces.filter (fun i ↦ i.deviceId = deviceId)).map (·.id)

/-- `local_routes`; `forwarding_service.py:149–157`. -/
def localRoutes (dev : Device) : List Route :=
  (db.routesOf ((dev.vrfId.filter (fun v ↦ v ≠ 0)).getD (-1))).filter
    (fun r ↦ r.interfaceId.getD "" ∈ db.ifIds dev.id)

/-- The step along a local route; `forwarding_service.py:175–190`. -/
def stepLocalRoute (r : Route) : StepResult :=
  match present r.interfaceId with
  | none => .drop "egress_interface_unknown" "l3_drop"
  | some i =>
    match present r.nextHop with
    | none => .forward i true "l3_route"
    | some nextHop =>
      if (db.neighbor i nextHop).isSome then .forward i false "l3_route"
      else .drop "next_hop_unresolved" "l3_drop"

/-- The search of local routes; `forwarding_service.py:147–190`. -/
def stepLocal (dev : Device) (dst : String) : StepResult :=
  match ip.ipAddress dst with
  | none => .drop "invalid_packet" "l3_drop"
  | some target =>
    match firstBest (matchLength ip target) (localRoutes db dev) with
    | none => .drop "no_route_found" "l3_drop"
    | some (_, r) => stepLocalRoute db r

/-- The branch of `_step` for routers; `forwarding_service.py:128–193`. -/
def stepRouter (dev : Device) (dst : String) : StepResult :=
  match getForwardingDecision ip db dev.id dst with
  | .drop reason => .drop (if reason = "" then "l3_drop" else reason) "l3_drop"
  | .forward egressIf nextHopMac =>
    if egressIf = "" then .drop "no_egress_interface" "l3_drop"
    else if (db.getInterface egressIf).any (fun i ↦ i.deviceId = dev.id) then
      .forward egressIf nextHopMac.isNone "l3_route"
    else stepLocal ip db dev dst

/-- What `process_frame` returns. -/
inductive FrameResult where
  | drop (reason : String)
  | forward (egressInterfaceId : String)
  | flood (egressInterfaceIds : List String)
  deriving DecidableEq, Repr

/-- `process_frame`, for a destination in lower case. It learns the interface of the source, which
decides only about frames to that source; `l2_service.py:42–102`. -/
def processFrame (deviceId ingress dst : String) : FrameResult :=
  match db.bridgeDomains.find? (fun b ↦ b.deviceId = deviceId ∧ b.name = "default") with
  | none => .drop "no_bridge_domain"
  | some bd =>
    let others := ((db.interfaces.filter (fun i ↦ i.bridgeDomainId = some bd.id)).map (·.id)).filter
      (fun i ↦ i ≠ ingress)
    if dst = "ff:ff:ff:ff:ff:ff" then .flood others
    else
      match db.macAddressEntries.find? (fun m ↦ m.bridgeDomainId = bd.id ∧ m.macAddress = dst) with
      | some m => .forward m.interfaceId
      | none => .flood others

/-- The branch of `_step` for switches; `forwarding_service.py:194–213`. -/
def stepSwitch (dev : Device) (ingress : Option String) : StepResult :=
  match processFrame db dev.id (ingress.getD "") "ff:ff:ff:ff:ff:ff" with
  | .forward i => if i = "" then .drop "l2_no_egress" "l2_drop" else .forward i false "l2_forward"
  | .flood [i] => .forward i false "l2_flood_single"
  | .flood _ => .drop "l2_ambiguous_flood" "l2_drop"
  | .drop reason => .drop reason "l2_drop"

/-- The types that forward by routes. -/
def isRouter : DeviceType → Bool
  | .coreRouter | .edgeRouter | .backboneGateway => true
  | _ => false

/-- `_step` at a device, with the interface where the packet came in;
`forwarding_service.py:118–215`. -/
def step (deviceId : String) (ingress : Option String) (dst : String) : StepResult :=
  match db.getDevice deviceId with
  | none => .drop "device_not_found" "error"
  | some dev =>
    if isRouter dev.type then stepRouter ip db dev dst
    else if dev.type = .aonSwitch then stepSwitch db dev ingress
    else .drop "unsupported_device_type" "error"

end Unoc.Forwarding
