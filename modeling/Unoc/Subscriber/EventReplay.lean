import Unoc.Subscriber.Accounts

/-!
# Event-log replay

`backend/services/simulation_event_engine.py`. The log of a database state lists its rows and its
mapping decisions; the replay rebuilds the projections from the log alone. An event's type is the
constructor of its payload, so unsupported types cannot be built.
-/

namespace Unoc.Subscriber

open Unoc.Base Unoc.Model

/-! ### Events -/

/-- Payload of `DEVICE_CREATED`; `simulation_event_engine.py:71–80`. -/
structure DeviceCreated where
  deviceId : String
  deviceType : DeviceType
  status : Status
  provisioned : Bool
  deriving DecidableEq, Repr

/-- Payload of `PORT_CONNECTED`; `simulation_event_engine.py:82–92`. -/
structure PortConnected where
  portId : String
  deviceId : String
  name : String
  portRole : Option PortRole
  capacity : Option Int
  deriving DecidableEq, Repr

/-- Payload of `DEVICE_LINKED`; `simulation_event_engine.py:94–108`. -/
structure DeviceLinked where
  linkId : String
  aInterfaceId : String
  bInterfaceId : String
  aDeviceId : Option String
  bDeviceId : Option String
  kind : LinkType
  status : Status
  deriving DecidableEq, Repr

/-- Payload of `CPE_PROVISIONED` and `ONT_ASSIGNED`; `simulation_event_engine.py:114–138`. -/
structure Assignment where
  subscriberId : String
  subscriberType : DeviceType
  anchorDeviceId : Option String
  anchorInterfaceId : Option String
  counted : Option Bool
  reason : Reason
  deriving DecidableEq, Repr

/-- Payload of `SERVICE_BOUND`; `simulation_event_engine.py:140–151`. -/
structure Binding where
  subscriberId : String
  subscriberType : DeviceType
  domain : Option Domain
  anchorDeviceId : Option String
  anchorInterfaceId : Option String
  sourceEventSequence : Int
  deriving DecidableEq, Repr

/-- `SIMULATION_EVENT_TYPES` with their payloads; `simulation_event_engine.py:20–27`. -/
inductive Payload where
  | deviceCreated (p : DeviceCreated)
  | portConnected (p : PortConnected)
  | deviceLinked (p : DeviceLinked)
  | cpeProvisioned (p : Assignment)
  | ontAssigned (p : Assignment)
  | serviceBound (p : Binding)
  deriving DecidableEq, Repr

/-- `SimulationEvent`; `simulation_event_engine.py:30–35`. -/
structure SimulationEvent where
  sequence : Nat
  payload : Payload
  source : String := "CANONICAL_DB_SNAPSHOT"
  deriving DecidableEq, Repr

/-! ### The log -/

/-- `append`; `simulation_event_engine.py:66–69`. -/
def appendEvent (events : List SimulationEvent) (payload : Payload) : List SimulationEvent :=
  events ++ [{ sequence := events.length, payload := payload }]

/-- `DEVICE_CREATED` of a row. -/
def createdPayload (d : Device) : Payload :=
  .deviceCreated ⟨d.id, d.type, d.status, d.provisioned⟩

/-- `PORT_CONNECTED` of a row. -/
def connectedPayload (i : Interface) : Payload :=
  .portConnected ⟨i.id, i.deviceId, i.name, i.portRole, i.capacity⟩

/-- `DEVICE_LINKED` of a row. -/
def linkedPayload (db : Database) (l : Link) : Payload :=
  .deviceLinked ⟨l.id, l.aInterfaceId, l.bInterfaceId,
    (db.getInterface l.aInterfaceId).map Interface.deviceId,
    (db.getInterface l.bInterfaceId).map Interface.deviceId, l.kind, l.status⟩

/-- The assignment that a decision reports. -/
def Decision.assignment (dec : Decision) : Assignment :=
  ⟨dec.subscriberId, dec.subscriberType, dec.anchorDeviceId, dec.anchorInterfaceId, dec.counted,
    dec.reason⟩

/-- The binding that a counted decision reports. -/
def Decision.binding (dec : Decision) (sourceEventSequence : Int) : Binding :=
  ⟨dec.subscriberId, dec.subscriberType, dec.domain, dec.anchorDeviceId, dec.anchorInterfaceId,
    sourceEventSequence⟩

/-- The body of the decision loop; `simulation_event_engine.py:110–151`. -/
def appendDecision (events : List SimulationEvent) (dec : Decision) : List SimulationEvent :=
  let events :=
    if dec.subscriberType = .aonCpe then appendEvent events (.cpeProvisioned dec.assignment)
    else if dec.subscriberType = .ont ∨ dec.subscriberType = .businessOnt then
      appendEvent events (.ontAssigned dec.assignment)
    else events
  if dec.counted = some true then
    appendEvent events (.serviceBound (dec.binding (events.length - 1)))
  else events

/-- The events of the rows, before those of the decisions. -/
def rowPayloads (db : Database) : List Payload :=
  (sortedDevices db).map createdPayload ++ (sortedInterfaces db).map connectedPayload ++
    (db.links.insertionSort (fun a b ↦ a.id ≤ b.id)).map (linkedPayload db)

/-- Mapping decisions by subscriber id. -/
def sortedDecisions (m : SubscriberModel) : List Decision :=
  m.mappingDecisions.insertionSort (fun a b ↦ a.subscriberId ≤ b.subscriberId)

/-- `build_simulation_event_log`; `simulation_event_engine.py:56–152`. -/
def buildSimulationEventLog (db : Database) : List SimulationEvent :=
  (sortedDecisions (resolveSubscriberModel db)).foldl appendDecision
    ((rowPayloads db).foldl appendEvent [])

/-! ### The replay -/

/-- `physical`. -/
structure PhysicalProjection where
  devices : Dict String DeviceCreated := ∅
  ports : Dict String PortConnected := ∅
  links : Dict String DeviceLinked := ∅

/-- `service`. -/
structure ServiceProjection where
  ontAssignments : Dict String Assignment := ∅
  cpeProvisioning : Dict String Assignment := ∅
  serviceBindings : List Binding := []
  oversubscriptions : List Assignment := []

/-- One entry of `analytics["pon_ports"]`. -/
structure PonPort where
  effectiveCount : Nat := 0
  maxCapacity : Nat := ponDefaultCapacity
  deriving DecidableEq, Repr

/-- The accumulators of `replay_simulation_events`; `simulation_event_engine.py:156–169`. -/
structure Replay where
  physical : PhysicalProjection := {}
  service : ServiceProjection := {}
  deviceCounts : Dict DeviceType Nat := ∅
  oltSubscribers : Dict (Option String) Nat := ∅
  aonSubscribers : Dict (Option String) Nat := ∅
  ponPorts : Dict (Option String) PonPort := ∅
  traces : Dict String (List Nat) := ∅

/-- `traces[key].append(sequence)` for each of the keys. -/
def Replay.trace (r : Replay) (sequence : Nat) (keys : List String) : Replay :=
  { r with traces := keys.foldl (fun m k ↦ m.update k [] (· ++ [sequence])) r.traces }

/-- Ids that are neither missing nor empty. -/
def truthy (ids : List (Option String)) : List String :=
  (ids.filterMap id).filter (fun s ↦ s ≠ "")

/-- The analytics of a binding; `simulation_event_engine.py:195–203`. -/
def Replay.bind (r : Replay) (b : Binding) : Replay :=
  let service := { r.service with serviceBindings := r.service.serviceBindings ++ [b] }
  match b.domain with
  | some .olt =>
    { r with
      service := service
      oltSubscribers := increment r.oltSubscribers b.anchorDeviceId
      ponPorts := r.ponPorts.update b.anchorInterfaceId {} (fun s ↦
        { s with effectiveCount := s.effectiveCount + 1 }) }
  | some .aon =>
    { r with service := service, aonSubscribers := increment r.aonSubscribers b.anchorDeviceId }
  | none => { r with service := service }

/-- The body of the replay loop; `simulation_event_engine.py:171–206`. -/
def replayEvent (r : Replay) (event : SimulationEvent) : Replay :=
  match event.payload with
  | .deviceCreated p =>
    { r with
      physical := { r.physical with devices := r.physical.devices.insert p.deviceId p }
      deviceCounts := increment r.deviceCounts p.deviceType }.trace event.sequence [p.deviceId]
  | .portConnected p =>
    { r with physical := { r.physical with ports := r.physical.ports.insert p.portId p } }.trace
      event.sequence [p.deviceId]
  | .deviceLinked p =>
    { r with physical := { r.physical with links := r.physical.links.insert p.linkId p } }.trace
      event.sequence (truthy [p.aDeviceId, p.bDeviceId])
  | .ontAssigned p =>
    { r with service := { r.service with
        ontAssignments := r.service.ontAssignments.insert p.subscriberId p } }.trace
      event.sequence [p.subscriberId]
  | .cpeProvisioned p =>
    { r with service := { r.service with
        cpeProvisioning := r.service.cpeProvisioning.insert p.subscriberId p
        oversubscriptions :=
          if p.counted = some false then r.service.oversubscriptions ++ [p]
          else r.service.oversubscriptions } }.trace event.sequence [p.subscriberId]
  | .serviceBound p =>
    (r.bind p).trace event.sequence (p.subscriberId :: truthy [p.anchorDeviceId])

/-- `analytics_snapshot["pon_ports"]` of one port. -/
structure PonPortSnapshot where
  effectiveCount : Nat
  maxCapacity : Nat
  utilization : ℚ

/-- The result of `replay_simulation_events`; its constant labels are left out. -/
structure ReplayResult where
  eventCount : Nat
  lastSequence : Option Nat
  physicalProjection : PhysicalProjection
  serviceProjection : ServiceProjection
  deviceCounts : Dict DeviceType Nat
  oltSubscribers : Dict (Option String) Nat
  aonSubscribers : Dict (Option String) Nat
  ponPorts : Option String → Option PonPortSnapshot
  effectiveSubscriberCount : Nat
  eventTraces : Dict String (List Nat)

/-- `replay_simulation_events`; `simulation_event_engine.py:155–231`. -/
def replaySimulationEvents (events : List SimulationEvent) : ReplayResult :=
  let r := events.foldl replayEvent {}
  { eventCount := events.length
    lastSequence := events.getLast?.map SimulationEvent.sequence
    physicalProjection := r.physical
    serviceProjection := r.service
    deviceCounts := r.deviceCounts
    oltSubscribers := r.oltSubscribers
    aonSubscribers := r.aonSubscribers
    ponPorts := fun port ↦ (r.ponPorts.lookup port).map (fun s ↦
      ⟨s.effectiveCount, s.maxCapacity, s.effectiveCount / s.maxCapacity⟩)
    effectiveSubscriberCount := r.service.serviceBindings.length
    eventTraces := r.traces }

/-! ### Bindings of a log -/

/-- The binding of a `SERVICE_BOUND` event. -/
def SimulationEvent.binding (e : SimulationEvent) : Option Binding :=
  match e.payload with
  | .serviceBound b => some b
  | _ => none

/-- The device on which a binding of a domain counts. -/
def Binding.anchorIn (domain : Domain) (b : Binding) : Option (Option String) :=
  if b.domain = some domain then some b.anchorDeviceId else none

/-- The port on which a binding of the OLT domain counts. -/
def Binding.ponPort (b : Binding) : Option (Option String) :=
  if b.domain = some .olt then some b.anchorInterfaceId else none

/-- A binding without the sequence of its source event. -/
def Binding.erased (b : Binding) : Binding := { b with sourceEventSequence := 0 }

/-- The fields that count bindings agree. -/
structure SameCounts (r r' : Replay) : Prop where
  serviceBindings : r.service.serviceBindings = r'.service.serviceBindings
  oltSubscribers : r.oltSubscribers = r'.oltSubscribers
  aonSubscribers : r.aonSubscribers = r'.aonSubscribers
  ponPorts : r.ponPorts = r'.ponPorts

/-- Only bindings move the counts. -/
theorem sameCounts_replayEvent (r : Replay) (e : SimulationEvent) :
    SameCounts (replayEvent r e) (e.binding.elim r r.bind) := by
  unfold replayEvent SimulationEvent.binding
  cases e.payload <;> exact ⟨rfl, rfl, rfl, rfl⟩

private theorem replayEvent_serviceBindings (r : Replay) (e : SimulationEvent) :
    (replayEvent r e).service.serviceBindings =
      r.service.serviceBindings ++ e.binding.toList := by
  rw [(sameCounts_replayEvent r e).serviceBindings]
  cases e.binding with
  | none => simp
  | some b => cases hb : b.domain with
    | none => simp [Replay.bind, hb]
    | some domain => cases domain <;> simp [Replay.bind, hb]

/-- The key under which an event counts a device of a domain. -/
def SimulationEvent.anchorIn (domain : Domain) (e : SimulationEvent) : Option (Option String) :=
  e.binding.bind (Binding.anchorIn domain)

private theorem replayEvent_oltSubscribers (r : Replay) (e : SimulationEvent) :
    (replayEvent r e).oltSubscribers =
      Dict.count (SimulationEvent.anchorIn .olt) r.oltSubscribers e := by
  rw [(sameCounts_replayEvent r e).oltSubscribers]
  unfold Dict.count Dict.accumulate SimulationEvent.anchorIn
  cases e.binding with
  | none => rfl
  | some b => cases hb : b.domain with
    | none => simp [Replay.bind, hb, Binding.anchorIn]
    | some domain => cases domain <;> simp [Replay.bind, hb, Binding.anchorIn, increment]

private theorem replayEvent_aonSubscribers (r : Replay) (e : SimulationEvent) :
    (replayEvent r e).aonSubscribers =
      Dict.count (SimulationEvent.anchorIn .aon) r.aonSubscribers e := by
  rw [(sameCounts_replayEvent r e).aonSubscribers]
  unfold Dict.count Dict.accumulate SimulationEvent.anchorIn
  cases e.binding with
  | none => rfl
  | some b => cases hb : b.domain with
    | none => simp [Replay.bind, hb, Binding.anchorIn]
    | some domain => cases domain <;> simp [Replay.bind, hb, Binding.anchorIn, increment]

/-- The key under which an event counts a PON port. -/
def SimulationEvent.ponPort (e : SimulationEvent) : Option (Option String) :=
  e.binding.bind Binding.ponPort

private theorem replayEvent_ponPorts (r : Replay) (e : SimulationEvent) :
    (replayEvent r e).ponPorts =
      Dict.accumulate SimulationEvent.ponPort {}
        (fun s _ ↦ { s with effectiveCount := s.effectiveCount + 1 }) r.ponPorts e := by
  rw [(sameCounts_replayEvent r e).ponPorts]
  unfold Dict.accumulate SimulationEvent.ponPort
  cases e.binding with
  | none => rfl
  | some b => cases hb : b.domain with
    | none => simp [Replay.bind, hb, Binding.ponPort]
    | some domain => cases domain <;> simp [Replay.bind, hb, Binding.ponPort]

section Log

variable (events : List SimulationEvent)

/-- The replay counts every binding. -/
theorem replay_effectiveSubscriberCount :
    (replaySimulationEvents events).effectiveSubscriberCount =
      events.countP (fun e ↦ e.binding.isSome) := by
  have hfield := field_foldl (fun r : Replay ↦ r.service.serviceBindings)
    (fun bs e ↦ bs ++ e.binding.toList) replayEvent_serviceBindings events {}
  unfold replaySimulationEvents
  simp only [hfield, foldl_append_toList, List.nil_append]
  exact List.length_filterMap_eq_countP

/-- The replay counts the bindings of each OLT. -/
theorem replay_oltSubscribers :
    (replaySimulationEvents events).oltSubscribers =
      events.foldl (Dict.count (SimulationEvent.anchorIn .olt)) ∅ :=
  field_foldl Replay.oltSubscribers _ replayEvent_oltSubscribers events {}

/-- The replay counts the bindings of each AON switch. -/
theorem replay_aonSubscribers :
    (replaySimulationEvents events).aonSubscribers =
      events.foldl (Dict.count (SimulationEvent.anchorIn .aon)) ∅ :=
  field_foldl Replay.aonSubscribers _ replayEvent_aonSubscribers events {}

private theorem foldl_effectiveCount (es : List SimulationEvent) (s : PonPort) :
    es.foldl (fun s _ ↦ { s with effectiveCount := s.effectiveCount + 1 }) s =
      { s with effectiveCount := s.effectiveCount + es.length } := by
  induction es generalizing s with
  | nil => rfl
  | cons e es ih =>
    rw [List.foldl_cons, ih, List.length_cons]
    simp only [PonPort.mk.injEq, and_true]
    omega

/-- The replay counts the bindings of each PON port. -/
theorem replay_ponPorts (port : Option String) :
    ((replaySimulationEvents events).ponPorts port).map PonPortSnapshot.effectiveCount =
      if events.any (fun e ↦ e.ponPort = some port) then
        some (events.countP (fun e ↦ e.ponPort = some port))
      else none := by
  have hfield := field_foldl Replay.ponPorts _ replayEvent_ponPorts events {}
  unfold replaySimulationEvents
  simp only [hfield, Dict.lookup_foldl_accumulate, foldl_effectiveCount,
    List.countP_eq_length_filter]
  split <;> simp

end Log

/-! ### Bindings of the log of a database -/

section BuiltLog

variable (p : Binding → Bool)

@[simp]
private theorem countP_appendEvent (events : List SimulationEvent) (payload : Payload) :
    (appendEvent events payload).countP (fun e ↦ e.binding.any p) =
      events.countP (fun e ↦ e.binding.any p) +
        (match payload with
          | .serviceBound b => if p b then 1 else 0
          | _ => 0) := by
  unfold appendEvent SimulationEvent.binding
  cases payload <;> simp

private theorem countP_rowEvents (payloads : List Payload)
    (hrows : ∀ x ∈ payloads, ∀ b, x ≠ .serviceBound b) (events : List SimulationEvent) :
    (payloads.foldl appendEvent events).countP (fun e ↦ e.binding.any p) =
      events.countP (fun e ↦ e.binding.any p) := by
  induction payloads generalizing events with
  | nil => rfl
  | cons x xs ih =>
    have hx := hrows x List.mem_cons_self
    rw [List.foldl_cons, ih (fun y hy ↦ hrows y (List.mem_cons_of_mem x hy)), countP_appendEvent]
    cases x with
    | serviceBound b => exact absurd rfl (hx b)
    | _ => rfl

/-- A decision adds its binding, if it is counted. -/
private theorem countP_appendDecision (hp : ∀ b, p b.erased = p b)
    (events : List SimulationEvent) (dec : Decision) :
    (appendDecision events dec).countP (fun e ↦ e.binding.any p) =
      events.countP (fun e ↦ e.binding.any p) +
        (if dec.counted = some true ∧ p (dec.binding 0) then 1 else 0) := by
  have hbind : ∀ sequence, p (dec.binding sequence) = p (dec.binding 0) := by
    intro sequence
    rw [← hp (dec.binding sequence), ← hp (dec.binding 0)]
    rfl
  unfold appendDecision
  by_cases hc : dec.counted = some true
  · simp only [hc, if_true, countP_appendEvent, hbind, true_and]
    split
    · simp
    · split <;> simp
  · simp only [hc, if_false, false_and]
    split
    · simp
    · split <;> simp

private theorem countP_decisionEvents (hp : ∀ b, p b.erased = p b) (decs : List Decision)
    (events : List SimulationEvent) :
    (decs.foldl appendDecision events).countP (fun e ↦ e.binding.any p) =
      events.countP (fun e ↦ e.binding.any p) +
        decs.countP (fun dec ↦ dec.counted = some true ∧ p (dec.binding 0)) := by
  induction decs generalizing events with
  | nil => simp
  | cons dec decs ih =>
    rw [List.foldl_cons, ih, countP_appendDecision p hp, List.countP_cons]
    simp only [decide_eq_true_eq]
    omega

/-- The bindings of the log are the counted decisions. -/
theorem countP_buildSimulationEventLog (hp : ∀ b, p b.erased = p b) (db : Database) :
    (buildSimulationEventLog db).countP (fun e ↦ e.binding.any p) =
      (resolveSubscriberModel db).mappingDecisions.countP
        (fun dec ↦ dec.counted = some true ∧ p (dec.binding 0)) := by
  have hrows : ∀ x ∈ rowPayloads db, ∀ b, x ≠ .serviceBound b := by
    intro x hx b
    simp only [rowPayloads, List.mem_append, List.mem_map] at hx
    rintro rfl
    rcases hx with (⟨d, _, hd⟩ | ⟨i, _, hi⟩) | ⟨l, _, hl⟩
    · cases hd
    · cases hi
    · cases hl
  unfold buildSimulationEventLog
  rw [countP_decisionEvents p hp, countP_rowEvents p _ hrows]
  simp only [List.countP_nil, Nat.zero_add]
  exact (List.perm_insertionSort _ _).countP_eq _

end BuiltLog

end Unoc.Subscriber
