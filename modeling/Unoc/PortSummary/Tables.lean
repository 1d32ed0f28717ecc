import Unoc.Model.Database
import Unoc.Traffic.Cache

/-!
# The tables of the port summary service

`engine-go/cmd/port-summary-service/service.go`: the maps that a reload fills, the indexes and the
PON occupancy derived from them, and the summary of a device. Each `range` over a map takes its
order as an argument.
-/

namespace Unoc.PortSummary

open Unoc.Model Unoc.Traffic

/-- The in-memory state of `PortSummaryService`; the occupancy of an OLT's port is keyed by the
pair; `service.go:47–65`. -/
structure Tables where
  devices : GoMap String Device := ∅
  interfaces : GoMap String Interface := ∅
  links : GoMap String Link := ∅
  ponOccupancy : GoMap (String × String) Nat := ∅
  opticalPaths : GoMap String String := ∅
  deviceInterfaces : GoMap String (List Interface) := ∅
  interfaceLinks : GoMap String (List Link) := ∅

/-- The orders of the loops over maps. -/
structure Orders where
  interfaces : RangeOrder String
  links : RangeOrder String
  devices : RangeOrder String
  opticalPaths : RangeOrder String

/-- All loops in ascending order. -/
def ascendingOrders : Orders := ⟨.ascending, .ascending, .ascending, .ascending⟩

namespace Tables

variable (t : Tables)

/-- `loadDevices`, on the rows that could be scanned; `service.go:130–147`. -/
def loadDevices (rows : List Device) : Tables :=
  { t with devices := rows.foldl (fun m d ↦ m.insert d.id d) t.devices }

/-- `loadInterfaces`; `service.go:150–167`. -/
def loadInterfaces (rows : List Interface) : Tables :=
  { t with interfaces := rows.foldl (fun m i ↦ m.insert i.id i) t.interfaces }

/-- `loadLinks`; `service.go:170–187`. -/
def loadLinks (rows : List Link) : Tables :=
  { t with links := rows.foldl (fun m l ↦ m.insert l.id l) t.links }

/-- `buildIndexes`; `service.go:190–205`. -/
def buildIndexes (orders : Orders) : Tables :=
  { t with
    deviceInterfaces := (t.interfaces.range orders.interfaces).foldl
      (fun m e ↦ GoMap.appendAt m e.2.deviceId e.2) t.deviceInterfaces
    interfaceLinks := (t.links.range orders.links).foldl
      (fun m e ↦ GoMap.appendAt (GoMap.appendAt m e.2.aInterfaceId e.2) e.2.bInterfaceId e.2)
      t.interfaceLinks }

/-- `s.deviceInterfaces[id]`. -/
def interfacesOf (deviceId : String) : List Interface :=
  (t.deviceInterfaces.lookup deviceId).getD []

/-- `s.interfaceLinks[id]`. -/
def linksOf (interfaceId : String) : List Link := (t.interfaceLinks.lookup interfaceId).getD []

/-- The interface that a link adds to the queue, empty if none; `service.go:333–339`. -/
def peerInterfaceId (interfaceId : String) (link : Link) : String :=
  if link.aInterfaceId = interfaceId then link.bInterfaceId
  else if link.bInterfaceId = interfaceId then link.aInterfaceId
  else ""

/-- The queue and the visited set of `traceToPON`. -/
structure TraceState where
  queue : List String
  visited : List String

/-- One iteration of a push loop; `service.go:341–344, 351–354`. -/
def push (st : TraceState) (id : String) : TraceState :=
  if id ∈ st.visited then st else ⟨st.queue ++ [id], id :: st.visited⟩

/-- What an interface pushes: far ends of its links, then its siblings; `service.go:330–355`. -/
def pushed (iface : Interface) : List String :=
  (((t.linksOf iface.id).map (peerInterfaceId iface.id)).filter (· ≠ "")) ++
    ((t.interfacesOf iface.deviceId).map Interface.id).filter (· ≠ iface.id)

/-- The loop of `traceToPON`; `service.go:316–358`. -/
def traceLoop : Nat → TraceState → Option String
  | 0, _ => none
  | fuel + 1, st =>
    match st.queue with
    | [] => none
    | id :: rest =>
      match t.interfaces.lookup id with
      | none => traceLoop fuel { st with queue := rest }
      | some iface =>
        if iface.portRole = some .pon then some id
        else traceLoop fuel ((t.pushed iface).foldl push { st with queue := rest })

/-- `traceToPON`; every id is queued once, so the ids of interfaces and link ends bound the loop;
`service.go:311–359`. -/
def traceToPON (start : String) : Option String :=
  t.traceLoop (t.interfaces.keys.length + 2 * t.links.keys.length + 1) ⟨[start], [start]⟩

/-- The optical interface of an ONT: the first without role, else the first; no interface has the
role OPTICAL; `service.go:283–296`. -/
def opticalInterface (ifaces : List Interface) : Option Interface :=
  (ifaces.find? (fun i ↦ i.portRole = none)).or ifaces.head?

/-- One iteration of `computeOpticalPaths`; `service.go:271–304`. -/
def addOpticalPath (paths : GoMap String String) (device : Device) : GoMap String String :=
  if device.type ≠ .ont then paths
  else
    match (opticalInterface (t.interfacesOf device.id)).bind (fun i ↦ t.traceToPON i.id) with
    | some pon => if pon = "" then paths else paths.insert device.id pon
    | none => paths

/-- `computeOpticalPaths`; `service.go:265–308`. -/
def computeOpticalPaths (orders : Orders) : Tables :=
  { t with
    opticalPaths := (t.devices.range orders.devices).foldl
      (fun paths e ↦ t.addOpticalPath paths e.2) ∅ }

/-- One iteration of `computePONOccupancy`; `service.go:367–383`. -/
def countOnt (occupancy : GoMap (String × String) Nat) (ontId ponInterfaceId : String) :
    GoMap (String × String) Nat :=
  match t.interfaces.lookup ponInterfaceId with
  | none => occupancy
  | some pon =>
    if (t.devices.lookup ontId).any Device.provisioned then
      occupancy.insert (pon.deviceId, ponInterfaceId)
        ((occupancy.lookup (pon.deviceId, ponInterfaceId)).getD 0 + 1)
    else occupancy

/-- `computePONOccupancy`; `service.go:362–398`. -/
def computePONOccupancy (orders : Orders) : Tables :=
  { t with
    ponOccupancy := (t.opticalPaths.range orders.opticalPaths).foldl
      (fun occupancy e ↦ t.countOnt occupancy e.1 e.2) ∅ }

/-- What follows the three loads; `service.go:104–110`. -/
def derive (orders : Orders) : Tables :=
  ((t.buildIndexes orders).computeOpticalPaths orders).computePONOccupancy orders

/-- A conversion to `int32`. -/
def int32 (n : Nat) : Int := (n : Int).bmod (2 ^ 32)

/-- `computeOccupancy`; `service.go:223–261`. -/
def computeOccupancy (iface : Interface) : Int :=
  match iface.portRole with
  | some .pon => int32 ((t.ponOccupancy.lookup (iface.deviceId, iface.id)).getD 0)
  | some .access => int32 (t.linksOf iface.id).length
  | some .uplink => if (t.linksOf iface.id).length > 0 then 1 else 0
  | some .trunk | none => 0

/-- `getCapacity`; `service.go:461–485`. -/
def getCapacity : Option PortRole → Option Int
  | some .pon => some 128
  | some .access => some 1
  | _ => none

/-- `InterfaceSummary`; an empty role is `none`. -/
structure InterfaceSummary where
  id : String
  name : String
  portRole : Option PortRole
  effectiveStatus : AdminStatus
  occupancy : Int
  capacity : Option Int
  deriving DecidableEq, Repr

/-- The summary of one interface; `service.go:436–455`. -/
def summary (iface : Interface) : InterfaceSummary where
  id := iface.id
  name := iface.name
  portRole := iface.portRole
  effectiveStatus := iface.adminStatus
  occupancy := t.computeOccupancy iface
  capacity := getCapacity iface.portRole

/-- `buildPortSummaryLocked`; `service.go:416–458`. -/
def buildPortSummaryLocked (deviceId : String) : List InterfaceSummary :=
  match t.devices.lookup deviceId with
  | none => []
  | some _ => (t.interfacesOf deviceId).map t.summary

end Tables

/-- `LoadInitialState` without failures, on the rows of its three queries; `service.go:82–117`. -/
def loadInitialState (orders : Orders) (devices : List Device) (interfaces : List Interface)
    (links : List Link) : Tables :=
  ((((({} : Tables).loadDevices devices).loadInterfaces interfaces).loadLinks links).derive orders)

end Unoc.PortSummary
