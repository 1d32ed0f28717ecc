import Mathlib.Data.Finset.Image
import Unoc.Base.Orbit
import Unoc.Forwarding.DeviceLocal
import Unoc.Forwarding.MacLearning
import Unoc.Links.Rules

/-!
# Paths of flows

`resolve_flow_path` of `backend/services/forwarding_service.py:97–326`: a flow is stepped from device
to device over the links of its egress interfaces, for as many hops as its TTL. A switch on the way
learns, which changes no answer. A TTL above the number of interfaces tells a loop from a path.
-/

namespace Unoc.Forwarding

open Unoc.Base
open Unoc.Model
open Unoc.Devices.Delete (InterfaceRow)
open Unoc.Links (typeName)

/-! ### Flows -/

/-- `Flow`; `forwarding_service.py:13–17`. -/
structure Flow where
  sourceIp : String
  destinationIp : String
  currentDeviceId : String
  currentInterfaceId : Option String := none
  deriving DecidableEq, Repr

/-- An entry of `hop_metadata`. -/
structure HopMetadata where
  deviceId : String
  deviceType : String
  action : String
  egressInterfaceId : Option String
  deliverHere : Bool
  reason : Option String
  linkIdToNext : Option String
  deriving DecidableEq, Repr

/-- The value of `outcome`. -/
inductive Outcome where
  | delivered
  | drop
  deriving DecidableEq, Repr

/-- What `resolve_flow_path` returns. -/
structure FlowPath where
  outcome : Outcome
  reason : Option String
  hops : List Flow
  hopMetadata : List HopMetadata
  finalDeviceId : String
  finalInterfaceId : Option String
  deriving DecidableEq, Repr

/-- The tables with the links. -/
structure Network extends Tables where
  links : List Link := []

variable {A : Type} (lc : LowerCase) (ip : IpLibrary A) (net : Network)

/-! ### One hop -/

/-- The ends of a link, the other one last. -/
def peerOf (l : Link) (egress : String) : String :=
  if l.aInterfaceId = egress then l.bInterfaceId else l.aInterfaceId

/-- `_find_peer_interface`: the interface behind the first link of an egress interface, and the link;
`forwarding_service.py:72–94`. -/
def findPeerInterface (egress : String) : Option (InterfaceRow × Link) :=
  match net.links.find? (fun l ↦ l.aInterfaceId = egress || l.bInterfaceId = egress) with
  | none => none
  | some l =>
    if l.status = .up then (net.getInterface (peerOf l egress)).map (fun peer ↦ (peer, l)) else none

/-- The frame of a switch hop; `forwarding_service.py:196–198`. -/
def placeholderFrame : Frame := ⟨"00:00:00:00:00:00", "ff:ff:ff:ff:ff:ff"⟩

/-- What a frame's result means for the step; `forwarding_service.py:200–213`. -/
def stepOfFrame : FrameResult → StepResult
  | .forward i => if i = "" then .drop "l2_no_egress" "l2_drop" else .forward i false "l2_forward"
  | .flood [i] => .forward i false "l2_flood_single"
  | .flood _ => .drop "l2_ambiguous_flood" "l2_drop"
  | .drop reason => .drop reason "l2_drop"

/-- `_step` with the table of addresses; `forwarding_service.py:118–215`. -/
def stepLearning (t : MacTable) (flow : Flow) : StepResult × MacTable :=
  match net.getDevice flow.currentDeviceId with
  | none => (.drop "device_not_found" "error", t)
  | some dev =>
    if isRouter dev.type then (stepRouter ip net.toTables dev flow.destinationIp, t)
    else if dev.type = .aonSwitch then
      let (result, learned) := learnAndProcess lc net.toTables t
        ⟨dev.id, flow.currentInterfaceId.getD "", placeholderFrame⟩
      (stepOfFrame result, learned)
    else (.drop "unsupported_device_type" "error", t)

/-- The entry for a hop; `forwarding_service.py:224–226`. -/
def hopMetadata (flow : Flow) (action : String) : HopMetadata where
  deviceId := flow.currentDeviceId
  deviceType := ((net.getDevice flow.currentDeviceId).map (fun d ↦ typeName d.type)).getD "UNKNOWN"
  action := action
  egressInterfaceId := none
  deliverHere := false
  reason := none
  linkIdToNext := none

/-- One pass of the loop: the entry of the hop, and the next flow or the end of the path: outcome,
reason, and the flow that is delivered. -/
inductive HopResult where
  | ended (entry : HopMetadata) (outcome : Outcome) (reason : Option String) (delivered : Option Flow)
  | moved (entry : HopMetadata) (next : Flow)
  deriving DecidableEq, Repr

/-- The end of a path at an egress interface; `forwarding_service.py:249–270,274–296`. -/
def deliver (flow : Flow) (egress action : String) : HopResult :=
  .ended { hopMetadata net flow action with egressInterfaceId := some egress, deliverHere := true }
    .delivered none (some { flow with currentInterfaceId := some egress })

/-- What a step means for the path; `forwarding_service.py:227–316`. -/
def hopOf (flow : Flow) : StepResult → HopResult
  | .drop reason action =>
    .ended { hopMetadata net flow action with
      reason := some (if reason = "" then "unknown" else reason) } .drop
      (some (if reason = "" then "unknown" else reason)) none
  | .forward egress deliverHere action =>
    if egress = "" then
      .ended { hopMetadata net flow action with
        egressInterfaceId := some egress, deliverHere := deliverHere, reason := some "unknown" } .drop
        (some "unknown") none
    else if deliverHere then deliver net flow egress action
    else
      match findPeerInterface net egress with
      | none => deliver net flow egress action
      | some (peer, l) =>
        if peer.id = "" || peer.deviceId = "" then deliver net flow egress action
        else
          .moved { hopMetadata net flow action with
              egressInterfaceId := some egress, linkIdToNext := some l.id }
            { flow with currentDeviceId := peer.deviceId, currentInterfaceId := some peer.id }

/-! ### The loop -/

/-- The answer at the end of a path. -/
def FlowPath.ended (hops : List Flow) (entries : List HopMetadata) (current : Flow)
    (entry : HopMetadata) (outcome : Outcome) (reason : Option String) (delivered : Option Flow) :
    FlowPath where
  outcome := outcome
  reason := reason
  hops := hops ++ delivered.toList
  hopMetadata := entries ++ [entry]
  finalDeviceId := current.currentDeviceId
  finalInterfaceId := (delivered.getD current).currentInterfaceId

/-- The answer when the TTL is used up; `forwarding_service.py:318–326`. -/
def FlowPath.ttlExceeded (hops : List Flow) (entries : List HopMetadata) (current : Flow) :
    FlowPath where
  outcome := .drop
  reason := some "ttl_exceeded"
  hops := hops
  hopMetadata := entries
  finalDeviceId := current.currentDeviceId
  finalInterfaceId := current.currentInterfaceId

/-- The loop, at the last of the hops so far; `forwarding_service.py:217–326`. -/
def resolveLoop (current : Flow) (hops : List Flow) (entries : List HopMetadata) (t : MacTable) :
    Nat → FlowPath × MacTable
  | 0 => (.ttlExceeded hops entries current, t)
  | remaining + 1 =>
    match hopOf net current (stepLearning lc ip net t current).1 with
    | .ended entry outcome reason delivered =>
      (.ended hops entries current entry outcome reason delivered, (stepLearning lc ip net t current).2)
    | .moved entry next =>
      resolveLoop next (hops ++ [next]) (entries ++ [entry]) (stepLearning lc ip net t current).2 remaining

/-- `resolve_flow_path`; `forwarding_service.py:97–326`. -/
def resolveFlowPath (t : MacTable) (initialFlow : Flow) (ttl : Int) : FlowPath × MacTable :=
  resolveLoop lc ip net initialFlow [initialFlow] [] t ttl.toNat

/-! ### Hops without tables of addresses -/

/-- The hop of a flow that forgets what switches learn. -/
def hop (flow : Flow) : HopResult :=
  hopOf net flow (step ip net.toTables flow.currentDeviceId flow.currentInterfaceId flow.destinationIp)

/-- The flow after a hop that does not end the path. -/
def nextFlow (flow : Flow) : Option Flow :=
  match hop ip net flow with
  | .moved _ next => some next
  | .ended _ _ _ _ => none

variable {lc ip net} {flow next : Flow} {t t' : MacTable}

private theorem processFrame_broadcast (t : MacTable) (deviceId ingress : String) :
    processFrame (net.withMacs t) deviceId ingress "ff:ff:ff:ff:ff:ff" =
      processFrame net.toTables deviceId ingress "ff:ff:ff:ff:ff:ff" := by
  unfold processFrame Tables.withMacs
  dsimp only
  split
  · rfl
  · rw [if_pos rfl, if_pos rfl]

/-- A broadcast is answered alike whatever the switch has learned. -/
theorem stepLearning_fst (t : MacTable) (flow : Flow) : (stepLearning lc ip net t flow).1 =
    step ip net.toTables flow.currentDeviceId flow.currentInterfaceId flow.destinationIp := by
  unfold stepLearning step
  cases hdev : net.getDevice flow.currentDeviceId with
  | none => rfl
  | some dev =>
    dsimp only
    split
    · rfl
    · split
      · change stepOfFrame (learnAndProcess lc net.toTables t _).1 =
          stepOfFrame (processFrame net.toTables dev.id (flow.currentInterfaceId.getD "")
            "ff:ff:ff:ff:ff:ff")
        congr 1
        unfold learnAndProcess
        dsimp only
        cases hbd : defaultBd net.toTables dev.id with
        | none =>
          have hfind : net.bridgeDomains.find?
              (fun b ↦ b.deviceId = dev.id ∧ b.name = "default") = none := hbd
          rw [processFrame, hfind]
        | some bd =>
          dsimp only
          rw [show lc.lower placeholderFrame.destinationMac = "ff:ff:ff:ff:ff:ff" from lc.broadcast.1,
            processFrame_broadcast]
      · rfl

/-- One pass of the loop. -/
theorem resolveLoop_succ (hops : List Flow) (entries : List HopMetadata) (n : Nat) :
    resolveLoop lc ip net flow hops entries t (n + 1) =
      match hop ip net flow with
      | .ended entry outcome reason delivered =>
        (.ended hops entries flow entry outcome reason delivered, (stepLearning lc ip net t flow).2)
      | .moved entry next =>
        resolveLoop lc ip net next (hops ++ [next]) (entries ++ [entry])
          (stepLearning lc ip net t flow).2 n := by
  rw [resolveLoop, stepLearning_fst]
  rfl

/-! ### The TTL -/

private theorem getForwardingDecision_drop {deviceId dst reason : String}
    (h : getForwardingDecision ip net.toTables deviceId dst = .drop reason) :
    reason ≠ "ttl_exceeded" := by
  unfold getForwardingDecision decideRoute at h
  split at h
  · cases h
    decide
  · split at h
    · cases h
      decide
    · split at h
      · cases h
        decide
      · split at h
        · cases h
        · split at h
          · cases h
            decide
          · cases h
        · cases h
          decide
        · cases h
          decide

private theorem stepLocal_drop {dev : Device} {dst reason action : String}
    (h : stepLocal ip net.toTables dev dst = .drop reason action) : reason ≠ "ttl_exceeded" := by
  unfold stepLocal stepLocalRoute at h
  split at h
  · cases h
    decide
  · split at h
    · cases h
      decide
    · split at h
      · cases h
        decide
      · split at h
        · cases h
        · split at h
          · cases h
          · cases h
            decide

private theorem stepRouter_drop {dev : Device} {dst reason action : String}
    (h : stepRouter ip net.toTables dev dst = .drop reason action) : reason ≠ "ttl_exceeded" := by
  unfold stepRouter at h
  split at h
  · next hdecision =>
    cases h
    split
    · decide
    · exact getForwardingDecision_drop hdecision
  · split at h
    · cases h
      decide
    · split at h
      · cases h
      · exact stepLocal_drop h

private theorem stepSwitch_drop {dev : Device} {ingress : Option String} {reason action : String}
    (h : stepSwitch net.toTables dev ingress = .drop reason action) : reason ≠ "ttl_exceeded" := by
  unfold stepSwitch at h
  split at h
  · split at h
    · cases h
      decide
    · cases h
  · cases h
  · cases h
    decide
  · next hframe =>
    cases h
    unfold processFrame at hframe
    split at hframe
    · cases hframe
      decide
    · rw [if_pos rfl] at hframe
      cases hframe

/-- No step gives the reason of an exceeded TTL. -/
theorem step_drop {deviceId dst reason action : String} {ingress : Option String}
    (h : step ip net.toTables deviceId ingress dst = .drop reason action) :
    reason ≠ "ttl_exceeded" := by
  unfold step at h
  split at h
  · cases h
    decide
  · split at h
    · exact stepRouter_drop h
    · split at h
      · exact stepSwitch_drop h
      · cases h
        decide

private theorem hop_ended_reason {entry : HopMetadata} {outcome : Outcome} {reason : Option String}
    {delivered : Option Flow} (h : hop ip net flow = .ended entry outcome reason delivered) :
    reason ≠ some "ttl_exceeded" := by
  unfold hop hopOf deliver at h
  split at h
  · next r action hstep =>
    cases h
    split
    · decide
    · exact fun heq ↦ step_drop hstep (Option.some.inj heq)
  · split at h
    · cases h
      decide
    · split at h
      · cases h
        decide
      · split at h
        · cases h
          decide
        · split at h
          · cases h
            decide
          · cases h

/-- The TTL is exceeded exactly if that many hops move the flow on. -/
theorem resolveLoop_reason (n : Nat) (flow : Flow) (hops : List Flow) (entries : List HopMetadata)
    (t : MacTable) : (resolveLoop lc ip net flow hops entries t n).1.reason = some "ttl_exceeded" ↔
      (orbit (nextFlow ip net) flow n).isSome = true := by
  induction n generalizing flow hops entries t with
  | zero => exact iff_of_true rfl rfl
  | succ n ih =>
    rw [resolveLoop_succ, orbit_succ, nextFlow]
    cases hhop : hop ip net flow with
    | ended entry outcome reason delivered =>
      exact iff_of_false (hop_ended_reason hhop) Bool.false_ne_true
    | moved entry next => exact ih next _ _ _

/-- A path that ends within its TTL is the same for every larger TTL, and for every table. -/
theorem resolveLoop_add (k n : Nat) (flow : Flow) (hops : List Flow) (entries : List HopMetadata)
    (t t' : MacTable)
    (h : (resolveLoop lc ip net flow hops entries t n).1.reason ≠ some "ttl_exceeded") :
    (resolveLoop lc ip net flow hops entries t' (n + k)).1 =
      (resolveLoop lc ip net flow hops entries t n).1 := by
  induction n generalizing flow hops entries t t' with
  | zero => exact absurd rfl h
  | succ n ih =>
    rw [Nat.succ_add, resolveLoop_succ]
    rw [resolveLoop_succ] at h ⊢
    cases hhop : hop ip net flow with
    | ended entry outcome reason delivered => rfl
    | moved entry next =>
      rw [hhop] at h
      exact ih next _ _ _ _ h

/-- The flows at the interfaces. -/
def arrivals (net : Network) (flow : Flow) : Finset Flow :=
  (net.interfaces.map (fun i ↦
    { flow with currentDeviceId := i.deviceId, currentInterfaceId := some i.id })).toFinset

private theorem card_arrivals_le (net : Network) (flow : Flow) :
    (arrivals net flow).card ≤ net.interfaces.length := by
  unfold arrivals
  exact (List.toFinset_card_le _).trans (List.length_map _).le

private theorem findPeerInterface_mem {egress : String} {peer : InterfaceRow} {l : Link}
    (h : findPeerInterface net egress = some (peer, l)) :
    peer ∈ net.interfaces ∧ peer.id = peerOf l egress ∧ l ∈ net.links ∧ l.status = .up ∧
      (l.aInterfaceId = egress ∨ l.bInterfaceId = egress) := by
  unfold findPeerInterface at h
  split at h
  · cases h
  · next l' hfind =>
    split at h
    · next hup =>
      have ⟨peer', hpeer, heq⟩ := Option.map_eq_some_iff.mp h
      cases heq
      have hend := List.find?_some hfind
      have ⟨hmem, hid⟩ := (find?_key_eq_some net.interfaces_nodup).mp hpeer
      exact ⟨hmem, hid, List.mem_of_find?_eq_some hfind, hup, by simpa using hend⟩
    · cases h

/-- A hop moves a flow over an active link from its egress interface to the interface at the other
end. -/
structure Moves (net : Network) (flow : Flow) (entry : HopMetadata) (next : Flow) : Prop where
  device : entry.deviceId = flow.currentDeviceId
  addresses : next.sourceIp = flow.sourceIp ∧ next.destinationIp = flow.destinationIp
  link : ∃ l ∈ net.links, ∃ peer ∈ net.interfaces, ∃ egress, l.status = .up ∧
    entry.linkIdToNext = some l.id ∧ entry.egressInterfaceId = some egress ∧
    (l.aInterfaceId = egress ∧ l.bInterfaceId = peer.id ∨
      l.bInterfaceId = egress ∧ l.aInterfaceId = peer.id) ∧
    next.currentInterfaceId = some peer.id ∧ next.currentDeviceId = peer.deviceId

private theorem hop_moved {entry : HopMetadata} (h : hop ip net flow = .moved entry next) :
    Moves net flow entry next ∧ next ∈ arrivals net flow := by
  unfold hop hopOf deliver at h
  split at h
  · cases h
  · split at h
    · cases h
    · split at h
      · cases h
      · split at h
        · cases h
        · next egress _ _ _ _ _ _ peer l hpeer =>
          split at h
          · cases h
          · cases h
            have ⟨hmem, hid, hl, hup, hend⟩ := findPeerInterface_mem hpeer
            constructor
            · refine ⟨rfl, ⟨rfl, rfl⟩, l, hl, peer, hmem, egress, hup, rfl, rfl, ?_, rfl, rfl⟩
              rw [hid, peerOf]
              split
              · next ha => exact Or.inl ⟨ha, rfl⟩
              · next ha => exact Or.inr ⟨hend.resolve_left ha, rfl⟩
            · exact List.mem_toFinset.mpr (List.mem_map.mpr ⟨peer, hmem, rfl⟩)

private theorem nextFlow_eq_some (h : nextFlow ip net flow = some next) :
    ∃ entry, hop ip net flow = .moved entry next := by
  unfold nextFlow at h
  split at h
  · next hhop =>
    cases h
    exact ⟨_, hhop⟩
  · cases h

/-- With a TTL above the number of interfaces, an exceeded TTL is a loop. -/
theorem orbit_of_interfaces {m : Nat} (hm : net.interfaces.length < m)
    (h : (orbit (nextFlow ip net) flow m).isSome = true) (n : Nat) :
    (orbit (nextFlow ip net) flow n).isSome = true := by
  refine orbit_isSome_of_card (S := arrivals net flow)
    (P := fun y ↦ y.sourceIp = flow.sourceIp ∧ y.destinationIp = flow.destinationIp) ⟨rfl, rfl⟩ ?_
    (Nat.lt_of_le_of_lt (card_arrivals_le net flow) hm) h n
  intro y z hy hyz
  have ⟨entry, hhop⟩ := nextFlow_eq_some hyz
  have ⟨hmoves, hmem⟩ := hop_moved hhop
  constructor
  · exact ⟨hmoves.addresses.1.trans hy.1, hmoves.addresses.2.trans hy.2⟩
  · unfold arrivals at hmem ⊢
    rw [hy.1, hy.2] at hmem
    exact hmem

/-- A path that ends within its TTL is the answer for every larger TTL and every table of addresses. A
TTL above the number of interfaces is exceeded only by a flow that exceeds every TTL. -/
theorem resolveFlowPath_ttl (lc : LowerCase) (ip : IpLibrary A) (net : Network) (flow : Flow)
    (t t' : MacTable) (ttl ttl' : Int) :
    ((resolveFlowPath lc ip net t flow ttl).1.reason ≠ some "ttl_exceeded" → ttl ≤ ttl' →
      (resolveFlowPath lc ip net t' flow ttl').1 = (resolveFlowPath lc ip net t flow ttl).1) ∧
    ((resolveFlowPath lc ip net t flow ttl).1.reason = some "ttl_exceeded" →
      net.interfaces.length < ttl →
      (resolveFlowPath lc ip net t' flow ttl').1.reason = some "ttl_exceeded") := by
  constructor
  · intro hends hle
    have ⟨k, hk⟩ := Nat.exists_eq_add_of_le (Int.toNat_le_toNat hle)
    unfold resolveFlowPath at hends ⊢
    rw [hk]
    exact resolveLoop_add k _ flow _ _ t t' hends
  · intro hexceeded hlarge
    have hlt : net.interfaces.length < ttl.toNat := by omega
    have hloop := (resolveLoop_reason _ flow _ _ t).mp hexceeded
    exact (resolveLoop_reason _ flow _ _ t').mpr (orbit_of_interfaces hlt hloop _)

/-- `str.lower`, on the letters of ASCII. -/
def asciiLower : LowerCase := ⟨String.toLower, by decide +kernel⟩

/-- Two routers, each with a route to the other one for the addresses of `sharedVrf`. -/
def routingLoop : Network where
  devices := [{ id := "west", type := .edgeRouter, vrfId := some 1 },
    { id := "east", type := .edgeRouter, vrfId := some 2 }]
  interfaces := [{ id := "west-eth1", deviceId := "west", name := "eth1" },
    { id := "east-eth1", deviceId := "east", name := "eth1" }]
  routes := [
    { id := 1, vrfId := 1, pfx := "172.16.0.0/16", interfaceId := some "west-eth1",
      nextHop := some "10.0.0.2" },
    { id := 2, vrfId := 2, pfx := "172.16.0.0/16", interfaceId := some "east-eth1",
      nextHop := some "10.0.0.1" }]
  neighbors := [⟨1, "west-eth1", "10.0.0.2", "02:00:00:00:00:02"⟩,
    ⟨2, "east-eth1", "10.0.0.1", "02:00:00:00:00:01"⟩]
  links := [{ id := "l", aInterfaceId := "west-eth1", bInterfaceId := "east-eth1" }]

/-- A flow that the two routers pass to and fro, and one that no route takes. -/
theorem resolveFlowPath_ttl_routingLoop :
    (resolveFlowPath asciiLower smallIp routingLoop {} ⟨"10.0.0.1", "172.16.1.5", "west", none⟩
        64).1.reason = some "ttl_exceeded" ∧
      (resolveFlowPath asciiLower smallIp routingLoop {} ⟨"10.0.0.1", "10.9.9.9", "west", none⟩ 64).1 =
        (resolveFlowPath asciiLower smallIp routingLoop {} ⟨"10.0.0.1", "10.9.9.9", "west", none⟩ 1).1 :=
  ⟨(resolveFlowPath_ttl asciiLower smallIp routingLoop _ {} {} 3 64).2 (by decide +kernel)
      (by decide),
    (resolveFlowPath_ttl asciiLower smallIp routingLoop _ {} {} 1 64).1 (by decide +kernel)
      (by decide)⟩

/-! ### The hops -/

/-- The hops behind a flow, with their entries, and the last flow. -/
inductive Walk (net : Network) : Flow → List Flow → List HopMetadata → Flow → Prop where
  | nil (flow : Flow) : Walk net flow [] [] flow
  | cons {flow next last : Flow} {entry : HopMetadata} {hops : List Flow} {entries : List HopMetadata}
      (h : Moves net flow entry next) (rest : Walk net next hops entries last) :
      Walk net flow (next :: hops) (entry :: entries) last

/-- A flow leaves the network at an egress interface: it is delivered there, or no active link leads
on. -/
def LeavesAt (ip : IpLibrary A) (net : Network) (flow : Flow) (egress : String) : Prop :=
  egress ≠ "" ∧ ∃ deliverHere action,
    step ip net.toTables flow.currentDeviceId flow.currentInterfaceId flow.destinationIp =
      .forward egress deliverHere action ∧
    (deliverHere = true ∨ ∀ peer l, findPeerInterface net egress = some (peer, l) →
      peer.id = "" ∨ peer.deviceId = "")

/-- How a path ends at its last flow. -/
structure EndsAt (ip : IpLibrary A) (net : Network) (last : Flow) (entry : HopMetadata)
    (outcome : Outcome) (reason : Option String) (delivered : Option Flow) : Prop where
  device : entry.deviceId = last.currentDeviceId
  noLink : entry.linkIdToNext = none
  reason_eq : reason = entry.reason
  dropped : outcome = .drop → delivered = none ∧ entry.reason.isSome = true
  leaves : outcome = .delivered → ∃ egress, LeavesAt ip net last egress ∧
    entry.egressInterfaceId = some egress ∧ entry.deliverHere = true ∧
    delivered = some { last with currentInterfaceId := some egress }

private theorem deliver_ended {egress action : String} {entry : HopMetadata} {outcome : Outcome}
    {reason : Option String} {delivered : Option Flow} (hleaves : LeavesAt ip net flow egress)
    (h : deliver net flow egress action = .ended entry outcome reason delivered) :
    EndsAt ip net flow entry outcome reason delivered := by
  cases h
  refine ⟨rfl, rfl, rfl, ?_, ?_⟩
  · intro houtcome
    cases houtcome
  · intro _
    exact ⟨egress, hleaves, rfl, rfl, rfl⟩

private theorem hop_ended {entry : HopMetadata} {outcome : Outcome} {reason : Option String}
    {delivered : Option Flow} (h : hop ip net flow = .ended entry outcome reason delivered) :
    EndsAt ip net flow entry outcome reason delivered := by
  unfold hop hopOf at h
  split at h
  · cases h
    refine ⟨rfl, rfl, rfl, fun _ ↦ ⟨rfl, rfl⟩, ?_⟩
    intro houtcome
    cases houtcome
  · next egress deliverHere action hstep =>
    split at h
    · cases h
      refine ⟨rfl, rfl, rfl, fun _ ↦ ⟨rfl, rfl⟩, ?_⟩
      intro houtcome
      cases houtcome
    · next hne =>
      split at h
      · next hhere => exact deliver_ended ⟨hne, _, _, hstep, Or.inl hhere⟩ h
      · split at h
        · next hnone =>
          refine deliver_ended ⟨hne, _, _, hstep, Or.inr ?_⟩ h
          intro peer l hpeer
          rw [hnone] at hpeer
          cases hpeer
        · next peer l hpeer =>
          split at h
          · next hempty =>
            refine deliver_ended ⟨hne, _, _, hstep, Or.inr ?_⟩ h
            intro peer' l' hpeer'
            rw [hpeer] at hpeer'
            cases hpeer'
            simpa using hempty
          · cases h

/-- A path from its first flow: the hops over links, and its end. -/
inductive IsPath (ip : IpLibrary A) (net : Network) (flow : Flow) (ttl : Nat) (p : FlowPath) : Prop where
  | ttlExceeded {hops : List Flow} {entries : List HopMetadata} {last : Flow}
      (walk : Walk net flow hops entries last) (length : hops.length = ttl)
      (eq : p = .ttlExceeded (flow :: hops) entries last)
  | ended {hops : List Flow} {entries : List HopMetadata} {last : Flow} {entry : HopMetadata}
      {outcome : Outcome} {reason : Option String} {delivered : Option Flow}
      (walk : Walk net flow hops entries last) (length : hops.length < ttl)
      (ends : EndsAt ip net last entry outcome reason delivered)
      (eq : p = .ended (flow :: hops) entries last entry outcome reason delivered)

/-- The loop behind the hops so far. -/
theorem resolveLoop_walk (lc : LowerCase) (ip : IpLibrary A) (net : Network) (n : Nat)
    (flow : Flow) (before : List Flow) (entriesBefore : List HopMetadata) (t : MacTable) :
    ∃ hops entries last, Walk net flow hops entries last ∧
      ((hops.length = n ∧ (resolveLoop lc ip net flow before entriesBefore t n).1 =
          .ttlExceeded (before ++ hops) (entriesBefore ++ entries) last) ∨
        hops.length < n ∧ ∃ entry outcome reason delivered,
          EndsAt ip net last entry outcome reason delivered ∧
          (resolveLoop lc ip net flow before entriesBefore t n).1 =
            .ended (before ++ hops) (entriesBefore ++ entries) last entry outcome reason delivered) := by
  induction n generalizing flow before entriesBefore t with
  | zero =>
    refine ⟨[], [], flow, .nil flow, Or.inl ⟨rfl, ?_⟩⟩
    rw [List.append_nil, List.append_nil]
    rfl
  | succ n ih =>
    rw [resolveLoop_succ]
    cases hhop : hop ip net flow with
    | ended entry outcome reason delivered =>
      refine ⟨[], [], flow, .nil flow, Or.inr ⟨Nat.succ_pos n, entry, outcome, reason, delivered,
        hop_ended hhop, ?_⟩⟩
      rw [List.append_nil, List.append_nil]
    | moved entry next =>
      have ⟨hops, entries, last, hwalk, hend⟩ :=
        ih next (before ++ [next]) (entriesBefore ++ [entry]) (stepLearning lc ip net t flow).2
      simp only [List.append_assoc, List.singleton_append] at hend
      refine ⟨next :: hops, entry :: entries, last, .cons (hop_moved hhop).1 hwalk, ?_⟩
      simp only [List.length_cons, Nat.succ_lt_succ_iff, Nat.succ_inj]
      exact hend

/-- Every answer is a walk of at most `ttl` hops over active links, with one entry for each hop, and
ends where the TTL is used up, where the flow is dropped, or where it leaves the network. -/
theorem resolveFlowPath_isPath (lc : LowerCase) (ip : IpLibrary A) (net : Network) (flow : Flow)
    (t : MacTable) (ttl : Int) :
    IsPath ip net flow ttl.toNat (resolveFlowPath lc ip net t flow ttl).1 := by
  have ⟨hops, entries, last, hwalk, hend⟩ :=
    resolveLoop_walk lc ip net ttl.toNat flow [flow] [] t
  rcases hend with ⟨hlength, heq⟩ | ⟨hlength, entry, outcome, reason, delivered, hends, heq⟩
  · exact .ttlExceeded hwalk hlength heq
  · exact .ended hwalk hlength hends heq

end Unoc.Forwarding
