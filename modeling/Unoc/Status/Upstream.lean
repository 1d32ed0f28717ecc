import Mathlib.Data.Prod.Lex
import Mathlib.Data.List.Lex
import Mathlib.Order.Lex
import Unoc.Base.Dict
import Unoc.Status.Affected

/-!
# Upstream connectivity

`backend/services/dependency_resolver_trace.py` follows one deterministic L3 path from a device to
a backbone gateway; `backend/services/dependency_resolver_core.py` asks for a router that a device
reaches in the logical graph of `backend/services/pathfinding.py` and that has such a path. The
memo maps are bound to the topology version and hold the values computed here.
-/

namespace Unoc.Status

open Unoc.Base Unoc.Model

/-! ### The L3 trace -/

/-- The `reason` of a failed trace. -/
inductive TraceReason where
  | selfForcedDown
  | noVrf
  | loop
  | forcedDown
  | noInterfaces
  | noUpstreamRouter
  | peerForcedDown
  | noDefaultRoute
  | egressAdminDown
  | noNextHop
  | noEligibleRoute
  | peerUnresolved
  deriving DecidableEq, Repr

/-- `DependencyCheckResult`; `dependency_resolver_core.py:25–34`. -/
structure DependencyCheckResult where
  ok : Bool
  reason : Option TraceReason := none
  chain : List String
  deriving DecidableEq, Repr

/-- `session.get(Device, id) if id else None`. -/
def getDeviceIf (t : Topology) (id : String) : Option DeviceView :=
  (truthy (some id)).bind t.getDevice

/-- The row behind an interface. -/
def interfaceDevice (t : Topology) (interfaceId : String) : Option DeviceView :=
  (t.getInterface interfaceId).bind (fun i ↦ getDeviceIf t i.deviceId)

/-- The override of a link decides, else its status. -/
def linkUp (link : Link) : Bool := link.adminOverrideStatus.getD link.status = .up

/-- `_link_passable` of the trace; `dependency_resolver_trace.py:24–49`. -/
def traceLinkPassable (t : Topology) (link : Link) : Bool :=
  linkUp link &&
    match interfaceDevice t link.aInterfaceId, interfaceDevice t link.bInterfaceId with
    | some aDev, some bDev => !aDev.forcedDown && !bDev.forcedDown
    | _, _ => false

/-- Passable links at an interface. -/
def passableLinks (t : Topology) (interfaceId : String) : List Link :=
  (t.links.filter (fun l ↦ l.aInterfaceId = interfaceId ∨ l.bInterfaceId = interfaceId)).filter
    (traceLinkPassable t)

/-- The interface at the other end of a link. -/
def peerInterface (interfaceId : String) (link : Link) : String :=
  if link.aInterfaceId = interfaceId then link.bInterfaceId else link.aInterfaceId

/-- The first link by id. -/
def firstById (links : List Link) : Option Link :=
  (links.insertionSort (fun a b ↦ a.id ≤ b.id)).head?

/-- Whether an interface has an address; `dependency_resolver_trace.py:84–90`. -/
def hasAddress (t : Topology) (interfaceId ip : String) : Bool :=
  t.interfaceAddresses.any (fun a ↦ a.interfaceId = interfaceId ∧ a.ip = ip)

/-- `_resolve_peer_via_if` with an expected next hop; `dependency_resolver_trace.py:67–104`. -/
def resolvePeerViaIf (t : Topology) (interfaceId expectIp : String) : Option DeviceView :=
  let links := passableLinks t interfaceId
  let matching := links.filter (fun l ↦
    peerInterface interfaceId l ≠ "" ∧ hasAddress t (peerInterface interfaceId l) expectIp)
  ((firstById matching).or (firstById links)).bind (fun l ↦
    interfaceDevice t (peerInterface interfaceId l))

/-- Peers of a device over passable links; `dependency_resolver_trace.py:135–157`. -/
def accessPeers (t : Topology) (dev : DeviceView) : List DeviceView :=
  (t.interfaces.filter (fun i ↦ i.deviceId = dev.id)).flatMap (fun i ↦
    (passableLinks t i.id).filterMap (fun l ↦
      (truthy (some (peerInterface i.id l))).bind (interfaceDevice t)))

/-- The upstream of an access device: the first router, else the first peer;
`dependency_resolver_trace.py:159–176`. -/
def accessUpstream (t : Topology) (dev : DeviceView) : Option DeviceView :=
  ((accessPeers t dev).find? (fun p ↦ routerClass p.type)).or (accessPeers t dev).head?

/-- The default routes with an egress on the device, checked in row order;
`dependency_resolver_trace.py:197–216`. -/
def eligibleRoutes (t : Topology) (dev : DeviceView) : List Route → Except TraceReason (List Route)
  | [] => .ok []
  | r :: routes =>
    match r.interfaceId.bind t.getInterface with
    | none => eligibleRoutes t dev routes
    | some egress =>
      if egress.deviceId ≠ dev.id then eligibleRoutes t dev routes
      else if egress.adminStatus ≠ .up then .error .egressAdminDown
      else if truthy r.nextHop = none then .error .noNextHop
      else (eligibleRoutes t dev routes).map (fun rs ↦ r :: rs)

/-- Routes by distance, metric and id. -/
def routeKey (r : Route) : Int ×ₗ Int ×ₗ Int := toLex (r.adminDistance, toLex (r.metric, r.id))

/-- The upstream of a router over its default route; `dependency_resolver_trace.py:190–232`. -/
def routerUpstream (t : Topology) (dev : DeviceView) : Except TraceReason DeviceView :=
  match t.routes.filter (fun r ↦ some r.vrfId = dev.vrfId ∧ r.pfx = "0.0.0.0/0") with
  | [] => .error .noDefaultRoute
  | routes => do
    let candidates ← eligibleRoutes t dev routes
    match candidates.insertionSort (fun a b ↦ routeKey a ≤ routeKey b) with
    | [] => .error .noEligibleRoute
    | chosen :: _ =>
      match resolvePeerViaIf t (chosen.interfaceId.getD "") (chosen.nextHop.getD "") with
      | none => .error .peerUnresolved
      | some peer => .ok peer

/-- CORE and EDGE routers, which need a VRF. -/
def needsVrf (d : DeviceView) : Bool :=
  (d.type = .coreRouter ∨ d.type = .edgeRouter) ∧ d.vrfId = none

/-- The next device of a trace; `dependency_resolver_trace.py:106–240`. -/
def nextHop (t : Topology) (dev : DeviceView) : Except TraceReason DeviceView := do
  let peer ←
    if routerClass dev.type then routerUpstream t dev
    else if t.interfaces.all (fun i ↦ i.deviceId ≠ dev.id) then .error .noInterfaces
    else match accessUpstream t dev with
      | none => .error .noUpstreamRouter
      | some peer => .ok peer
  if peer.forcedDown then .error .peerForcedDown else .ok peer

/-- `_step`; a device is visited once, so the rows bound the recursion;
`dependency_resolver_trace.py:106–240`. -/
def traceStep (t : Topology) :
    Nat → List String → List String → DeviceView → DependencyCheckResult
  | 0, _, chain, _ => ⟨false, some .loop, chain⟩
  | fuel + 1, visited, chain, dev =>
    if dev.id ∈ visited then ⟨false, some .loop, chain⟩
    else if dev.forcedDown then ⟨false, some .forcedDown, chain⟩
    else if dev.type = .backboneGateway then ⟨true, none, chain⟩
    else if needsVrf dev then ⟨false, some .noVrf, chain⟩
    else match nextHop t dev with
      | .error reason => ⟨false, some reason, chain⟩
      | .ok peer => traceStep t fuel (dev.id :: visited) (chain ++ [peer.id]) peer

/-- `trace_l3_path_to_anchor`; `dependency_resolver_trace.py:16–244`. -/
def traceL3PathToAnchor (t : Topology) (device : DeviceView) : DependencyCheckResult :=
  if device.forcedDown then ⟨false, some .selfForcedDown, [device.id]⟩
  else if needsVrf device then ⟨false, some .noVrf, [device.id]⟩
  else traceStep t (t.devices.length + 2) [] [device.id] device

/-! ### Records -/

/-- `DeviceRecord`; `pathfinding.py:62–65`. -/
structure DeviceRecord where
  id : String
  type : DeviceType
  deriving DecidableEq, Repr

/-- `LinkRecord`; `pathfinding.py:68–75`. -/
structure LinkRecord where
  id : String
  aDeviceId : String
  bDeviceId : String
  kind : LinkType
  deriving DecidableEq, Repr

/-- The device of a legacy interface id with the suffix `-if0`. -/
def legacyDevice (interfaceId : String) : Option String :=
  if "-if0".toList <:+ interfaceId.toList then
    truthy (some (String.ofList (interfaceId.toList.take (interfaceId.toList.length - 4))))
  else none

/-- The device id at an interface id; `dependency_resolver_core.py:107–123`. -/
def recordEnd (t : Topology) (interfaceId : String) : Option String :=
  (ifToDev t interfaceId).or (legacyDevice interfaceId)

/-- Devices that are not forced DOWN; `dependency_resolver_core.py:81–84`. -/
def deviceRecords (t : Topology) : List DeviceRecord :=
  (t.devices.filter (fun d ↦ !d.forcedDown)).map (fun d ↦ ⟨d.id, d.type⟩)

/-- The record of a usable link; `dependency_resolver_core.py:89–131`. -/
def linkRecord (t : Topology) (link : Link) : Option LinkRecord :=
  if linkUp link then do
    let aDev ← recordEnd t link.aInterfaceId
    let bDev ← recordEnd t link.bInterfaceId
    if aDev ∈ (deviceRecords t).map DeviceRecord.id ∧ bDev ∈ (deviceRecords t).map DeviceRecord.id then
      return ⟨link.id, aDev, bDev, link.kind⟩
    else none
  else none

/-- The link records of `_collect_devices_links`; `dependency_resolver_core.py:64–143`. -/
def linkRecords (t : Topology) : List LinkRecord := t.links.filterMap (linkRecord t)

/-! ### The logical graph -/

/-- `LOGICAL_ACTIVE`; `pathfinding.py:37–45`. -/
def logicalActive : DeviceType → Bool
  | .backboneGateway | .coreRouter | .edgeRouter | .olt | .aonSwitch | .aonCpe | .ont
  | .businessOnt => true
  | _ => false

/-- Types of the optical projection; `pathfinding.py:33–35`. -/
def opticalType (type : DeviceType) : Bool := type = .olt || ontClass type || passiveInline type

/-- Ids of records of some types. -/
def recordIds (p : DeviceType → Bool) (devices : List DeviceRecord) : List String :=
  (devices.filter (fun d ↦ p d.type)).map DeviceRecord.id

/-- The endpoints of records whose ends both satisfy a condition. -/
def recordEdges (ids : List String) (keep : LinkRecord → Bool) (links : List LinkRecord) :
    List (String × String) :=
  (links.filter (fun l ↦ keep l ∧ l.aDeviceId ∈ ids ∧ l.bDeviceId ∈ ids)).map
    (fun l ↦ (l.aDeviceId, l.bDeviceId))

/-- Edges of raw FIBER and P2P links between logical nodes; `pathfinding.py:177–206`. -/
def directEdges (devices : List DeviceRecord) (links : List LinkRecord) : List (String × String) :=
  recordEdges (recordIds logicalActive devices) (fun l ↦ l.kind = .fiber ∨ l.kind = .p2p) links

/-- `opt_adj`, as edges; `pathfinding.py:214–232`. -/
def opticalEdges (devices : List DeviceRecord) (links : List LinkRecord) : List (String × String) :=
  recordEdges (recordIds opticalType devices) (fun _ ↦ true) links

/-- An entry of the heap: distance, path and node. -/
structure HeapEntry where
  dist : Nat
  path : List String
  node : String
  deriving DecidableEq, Repr

/-- The order of `heapq` on entries. -/
def HeapEntry.key (e : HeapEntry) : Nat ×ₗ List String ×ₗ String :=
  toLex (e.dist, toLex (e.path, e.node))

/-- The state of `_shortest_optical_path`; `pathfinding.py:239–245`. -/
structure OpticalSearch where
  heap : List HeapEntry
  visited : List String := []
  bestPaths : Dict String (Nat × List String)
  targetPaths : List (Nat × List String) := []

/-- Relaxation of one neighbour; `pathfinding.py:253–263`. -/
def relaxNeighbor (e : HeapEntry) (st : OpticalSearch) (nb : String) : OpticalSearch :=
  if nb ∈ st.visited then st
  else
    let cand := (e.dist + 1, e.path ++ [nb])
    let improves := match st.bestPaths.lookup nb with
      | none => true
      | some prev => decide (toLex cand < toLex prev)
    if improves then
      { st with
        bestPaths := st.bestPaths.insert nb cand
        heap := ⟨cand.1, cand.2, nb⟩ :: st.heap }
    else st

/-- The heap loop of `_shortest_optical_path`; `pathfinding.py:246–263`. -/
def opticalSearchLoop (edges : List (String × String)) (olts : List String) (src : String) :
    Nat → OpticalSearch → List (Nat × List String)
  | 0, st => st.targetPaths
  | fuel + 1, st =>
    match st.heap.insertionSort (fun a b ↦ a.key ≤ b.key) with
    | [] => st.targetPaths
    | e :: rest =>
      if e.node ∈ st.visited then opticalSearchLoop edges olts src fuel { st with heap := rest }
      else
        let st := { st with
          heap := rest
          visited := e.node :: st.visited
          targetPaths :=
            if e.node ≠ src ∧ e.node ∈ olts then st.targetPaths ++ [(e.dist, e.path)]
            else st.targetPaths }
        opticalSearchLoop edges olts src fuel
          ((neighbors edges e.node).foldl (relaxNeighbor e) st)

/-- The OLT at the end of `_shortest_optical_path`; every push is for one edge direction;
`pathfinding.py:234–267`. -/
def shortestOpticalOlt (edges : List (String × String)) (olts : List String) (src : String) :
    Option String :=
  let fuel := 1 + ((edgeIds edges).map (fun id ↦ (neighbors edges id).length)).sum
  let targets := opticalSearchLoop edges olts src fuel
    { heap := [⟨0, [src], src⟩], bestPaths := AList.singleton src (0, [src]) }
  ((targets.insertionSort (fun a b ↦ toLex a ≤ toLex b)).head?).bind (fun p ↦ p.2.getLast?)

/-- The collapsed optical edges; `pathfinding.py:270–292`. -/
def collapsedEdges (devices : List DeviceRecord) (links : List LinkRecord) :
    List (String × String) :=
  let olts := recordIds (· = .olt) devices
  (recordIds ontClass devices).filterMap (fun ont ↦
    (shortestOpticalOlt (opticalEdges devices links) olts ont).map (fun olt ↦ (ont, olt)))

/-- The edges of `build_logical_graph` with `relaxed=False`; `pathfinding.py:168–292`. -/
def logicalEdges (devices : List DeviceRecord) (links : List LinkRecord) :
    List (String × String) :=
  directEdges devices links ++ collapsedEdges devices links

/-! ### Upstream evaluation -/

/-- `networkx.has_path`. -/
def hasPath (edges : List (String × String)) (a b : String) : Bool := b ∈ affectedIds edges [a]

/-- The `reasons` of a failed upstream evaluation. -/
inductive UpstreamReason where
  | trace (reason : TraceReason)
  | deviceNotInGraph
  | noRouterPath
  | routersNoL3
  deriving DecidableEq, Repr

/-- `UpstreamL3Result` without its diagnostic chain. -/
structure UpstreamL3Result where
  ok : Bool
  reasons : List UpstreamReason := []
  deriving DecidableEq, Repr

/-- Routers that a device reaches in the logical graph; `dependency_resolver_core.py:262–274`. -/
def routerNodes (t : Topology) (deviceId : String) : List String :=
  (recordIds routerClass (deviceRecords t)).filter
    (hasPath (logicalEdges (deviceRecords t) (linkRecords t)) deviceId)

/-- `has_upstream_l3_or_anchor`; `dependency_resolver_core.py:209–327`. -/
def hasUpstreamL3OrAnchor (t : Topology) (device : DeviceView) : UpstreamL3Result :=
  if routerClass device.type then
    let res := traceL3PathToAnchor t device
    ⟨res.ok, if res.ok then [] else (res.reason.map UpstreamReason.trace).toList⟩
  else if device.id ∉ recordIds logicalActive (deviceRecords t) then ⟨false, [.deviceNotInGraph]⟩
  else
    match routerNodes t device.id with
    | [] => ⟨false, [.noRouterPath]⟩
    | routers =>
      if routers.any (fun r ↦ ((t.getDevice r).map (fun d ↦ (traceL3PathToAnchor t d).ok)).getD false)
      then ⟨true, []⟩
      else ⟨false, [.routersNoL3]⟩

end Unoc.Status
