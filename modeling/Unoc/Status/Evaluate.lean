import Unoc.Status.Upstream

/-!
# Status evaluation

`evaluate_device_status` of `backend/services/status_service.py`: the admin override wins,
always-online devices are UP, passive devices need an upstream and a terminator in their inline
chain (`backend/services/status_service_passive.py`), and active devices need L3 connectivity.
-/

namespace Unoc.Status

open Unoc.Base Unoc.Model

/-! ### Passive devices -/

/-- Types that can be the upstream end of a passive chain; `status_service_passive.py:46–51`. -/
def chainUpstream : DeviceType → Bool
  | .olt | .aonSwitch | .coreRouter | .edgeRouter => true
  | _ => false

/-- Types that terminate a passive chain; `status_service_passive.py:53`. -/
def chainTerminator : DeviceType → Bool
  | .ont | .businessOnt | .aonCpe => true
  | _ => false

/-- Whether an interface belongs to a device. -/
def ownsInterface (t : Topology) (deviceId interfaceId : String) : Bool :=
  t.interfaces.any (fun i ↦ i.deviceId = deviceId ∧ i.id = interfaceId)

/-- The other end of a link at a device; `status_service_passive.py:26–34`. -/
def otherInterface (t : Topology) (deviceId : String) (link : Link) : Option Interface :=
  if ownsInterface t deviceId link.aInterfaceId then t.getInterface link.bInterfaceId
  else if ownsInterface t deviceId link.bInterfaceId then t.getInterface link.aInterfaceId
  else none

/-- Ids of the devices at the other ends of a device's links, whatever the links' status. -/
def rawNeighborIds (t : Topology) (deviceId : String) : List String :=
  t.links.filterMap (fun l ↦ (otherInterface t deviceId l).map Interface.deviceId)

/-- The rows of those devices, in link order. -/
def rawNeighbors (t : Topology) (deviceId : String) : List DeviceView :=
  (rawNeighborIds t deviceId).filterMap t.getDevice

/-- The stack loop for an upstream end; the top of the stack is the head of the list;
`status_service_passive.py:61–99`. -/
def chainUpstreamLoop (t : Topology) (candidates : List DeviceView) :
    Nat → List DeviceView → List String → Bool
  | 0, _, _ => false
  | _ + 1, [], _ => false
  | fuel + 1, cur :: stack, checked =>
    if cur.id ∈ checked then chainUpstreamLoop t candidates fuel stack checked
    else if cur ∈ candidates ∧ (hasUpstreamL3OrAnchor t cur).ok then true
    else
      let others := (rawNeighbors t cur.id).filter (fun d ↦ d.id ∉ cur.id :: checked)
      if others.any (fun d ↦ chainUpstream d.type && (hasUpstreamL3OrAnchor t d).ok) then true
      else
        chainUpstreamLoop t candidates fuel
          ((others.filter (fun d ↦ passiveInline d.type)).foldl (fun s d ↦ d :: s) stack)
          (cur.id :: checked)

/-- The queue loop for a terminator; `status_service_passive.py:103–140`. -/
def chainTerminatorLoop (t : Topology) : Nat → List DeviceView → List String → Bool
  | 0, _, _ => false
  | _ + 1, [], _ => false
  | fuel + 1, cur :: queue, visited =>
    if cur.id ∈ visited then chainTerminatorLoop t fuel queue visited
    else if (rawNeighbors t cur.id).any (fun d ↦ chainTerminator d.type) then true
    else
      chainTerminatorLoop t fuel
        (queue ++ (rawNeighbors t cur.id).filter (fun d ↦
          passiveInline d.type ∧ d.id ∉ cur.id :: visited))
        (cur.id :: visited)

/-- Iterations of the chain loops from a list of devices. -/
def chainFuel (t : Topology) (start : List DeviceView) : Nat :=
  start.length + (t.devices.map (fun d ↦ (rawNeighbors t d.id).length)).sum + 1

/-- `eval_passive_status`; the set of neighbours is visited in id order;
`status_service_passive.py:10–144`. -/
def evalPassiveStatus (t : Topology) (device : DeviceView) : Status :=
  let neighborIds := sortedSet (rawNeighborIds t device.id)
  if neighborIds.length < 2 then .down
  else
    let rows := neighborIds.filterMap t.getDevice
    let candidates := rows.filter (fun d ↦ chainUpstream d.type)
    let passives := rows.filter (fun d ↦ passiveInline d.type)
    let stack := (candidates ++ passives).reverse
    if chainUpstreamLoop t candidates (chainFuel t stack) stack [] = false then .down
    else if rows.any (fun d ↦ chainTerminator d.type) then .up
    else if chainTerminatorLoop t (chainFuel t passives) passives [] then .up
    else .down

/-! ### All devices -/

/-- UP or DOWN. -/
def upIf (ok : Bool) : Status := if ok then .up else .down

/-- `evaluate_device_status`; `status_service.py:32–98`. -/
def evaluateDeviceStatus (t : Topology) (device : DeviceView)
    (upstreamCache : Option (Dict String Bool) := none) : Status :=
  match device.adminOverrideStatus with
  | some override => override
  | none =>
    match device.deriveRole with
    | .alwaysOnline => .up
    | .passive => evalPassiveStatus t device
    | .active =>
      if device.provisioned = false then .down
      else if ontClass device.type ∧ device.signalStatus = some .noSignal then .down
      else
        match upstreamCache.bind (fun c ↦ c.lookup device.id) with
        | some ok => upIf ok
        | none =>
          if routerClass device.type then upIf (traceL3PathToAnchor t device).ok
          else upIf (hasUpstreamL3OrAnchor t device).ok

/-- A memo of upstream results evaluates as without it. -/
theorem evaluateDeviceStatus_of_cache {t : Topology} {device : DeviceView} {c : Dict String Bool}
    (h : ∀ ok, c.lookup device.id = some ok → ok = (hasUpstreamL3OrAnchor t device).ok) :
    evaluateDeviceStatus t device (some c) = evaluateDeviceStatus t device := by
  have hrouter : routerClass device.type = true →
      (hasUpstreamL3OrAnchor t device).ok = (traceL3PathToAnchor t device).ok := by
    intro hr
    simp [hasUpstreamL3OrAnchor, hr]
  unfold evaluateDeviceStatus
  cases hc : c.lookup device.id with
  | none => simp [hc]
  | some ok =>
    simp only [Option.bind_some, hc, h ok hc, Option.bind_none]
    grind

end Unoc.Status
