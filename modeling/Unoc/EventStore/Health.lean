import Unoc.EventStore.Backfill
import Unoc.Links.Create

/-!
# Health of the event store

`build_event_store_health` of `backend/services/event_store_health.py:196–276`. Writes of the API append
records of their own, which the replay leaves out: after the backfill, the projection stays what it was,
and the lag, taken between the replay and its own input, is always zero.
-/

namespace Unoc.EventStore

open Unoc.Base Unoc.Model
open Unoc.Subscriber (SimulationEvent Decision Domain ReplayResult buildSimulationEventLog
  replaySimulationEvents resolveSubscriberModel)

/-! ### What a replay projects -/

/-- The id of a device that an event creates. -/
def createdId : Subscriber.Payload → Option String
  | .deviceCreated p => some p.deviceId
  | _ => none

/-- The id of a link that an event creates. -/
def linkedId : Subscriber.Payload → Option String
  | .deviceLinked p => some p.linkId
  | _ => none

private theorem mem_devices_replayEvent (r : Subscriber.Replay) (e : SimulationEvent)
    (id : String) :
    id ∈ (Subscriber.replayEvent r e).physical.devices ↔
      id ∈ r.physical.devices ∨ createdId e.payload = some id := by
  unfold Subscriber.replayEvent
  cases e.payload with
  | deviceCreated p => simp [Subscriber.Replay.trace, createdId, AList.mem_insert, or_comm, eq_comm]
  | serviceBound b =>
    cases hb : b.domain with
    | none => simp [Subscriber.Replay.trace, Subscriber.Replay.bind, hb, createdId]
    | some domain =>
      cases domain <;> simp [Subscriber.Replay.trace, Subscriber.Replay.bind, hb, createdId]
  | _ => simp [Subscriber.Replay.trace, createdId]

private theorem mem_links_replayEvent (r : Subscriber.Replay) (e : SimulationEvent) (id : String) :
    id ∈ (Subscriber.replayEvent r e).physical.links ↔
      id ∈ r.physical.links ∨ linkedId e.payload = some id := by
  unfold Subscriber.replayEvent
  cases e.payload with
  | deviceLinked p => simp [Subscriber.Replay.trace, linkedId, AList.mem_insert, or_comm, eq_comm]
  | serviceBound b =>
    cases hb : b.domain with
    | none => simp [Subscriber.Replay.trace, Subscriber.Replay.bind, hb, linkedId]
    | some domain =>
      cases domain <;> simp [Subscriber.Replay.trace, Subscriber.Replay.bind, hb, linkedId]
  | _ => simp [Subscriber.Replay.trace, linkedId]

/-- A loop whose body adds at most one key adds the keys of its elements. -/
theorem mem_foldl_of_step {σ α : Type} (P : σ → String → Prop) {step : σ → α → σ}
    {key : α → Option String}
    (hstep : ∀ s x id, P (step s x) id ↔ P s id ∨ key x = some id) (xs : List α) (s : σ) (id : String) :
    P (xs.foldl step s) id ↔ P s id ∨ ∃ x ∈ xs, key x = some id := by
  induction xs generalizing s with
  | nil => simp
  | cons x xs ih => simp [ih, hstep, or_assoc]

private theorem mem_replay_devices (events : List SimulationEvent) (id : String) :
    id ∈ (replaySimulationEvents events).physicalProjection.devices ↔
      ∃ e ∈ events, createdId e.payload = some id := by
  have h := mem_foldl_of_step (fun (r : Subscriber.Replay) id ↦ id ∈ r.physical.devices)
    mem_devices_replayEvent events {} id
  exact h.trans (or_iff_right (AList.notMem_empty id))

private theorem mem_replay_links (events : List SimulationEvent) (id : String) :
    id ∈ (replaySimulationEvents events).physicalProjection.links ↔
      ∃ e ∈ events, linkedId e.payload = some id := by
  have h := mem_foldl_of_step (fun (r : Subscriber.Replay) id ↦ id ∈ r.physical.links)
    mem_links_replayEvent events {} id
  exact h.trans (or_iff_right (AList.notMem_empty id))

/-- A replay does not read the source of an event. -/
theorem replay_numbered (source source' : String) (ps : List Subscriber.Payload) :
    replaySimulationEvents (numbered source ps) = replaySimulationEvents (numbered source' ps) := by
  have hmap : numbered source ps =
      (numbered source' ps).map (fun e ↦ { e with source := source }) := by
    simp [numbered, Function.comp_def]
  have hevent : ∀ (r : Subscriber.Replay) (e : SimulationEvent),
      Subscriber.replayEvent r { e with source := source } = Subscriber.replayEvent r e :=
    fun _ _ ↦ rfl
  rw [hmap]
  simp only [replaySimulationEvents, List.foldl_map, hevent, List.length_map, List.getLast?_map,
    Option.map_map, Function.comp_def]

/-! ### What a log projects -/

/-- Decisions create neither devices nor links. -/
theorem exists_appendDecision {key : Subscriber.Payload → Option String}
    (hassign : ∀ a, key (.cpeProvisioned a) = none ∧ key (.ontAssigned a) = none)
    (hbound : ∀ b, key (.serviceBound b) = none) (events : List SimulationEvent) (dec : Decision)
    (id : String) : (∃ e ∈ Subscriber.appendDecision events dec, key e.payload = some id) ↔
      ∃ e ∈ events, key e.payload = some id := by
  have happend : ∀ (es : List SimulationEvent) (p : Subscriber.Payload), key p = none →
      ((∃ e ∈ Subscriber.appendEvent es p, key e.payload = some id) ↔
        ∃ e ∈ es, key e.payload = some id) := by
    intro es p hp
    simp [Subscriber.appendEvent, or_and_right, exists_or, hp]
  have hfirst : ∀ es : List SimulationEvent,
      (∃ e ∈ (if dec.subscriberType = .aonCpe then
          Subscriber.appendEvent es (.cpeProvisioned dec.assignment)
        else if dec.subscriberType = .ont ∨ dec.subscriberType = .businessOnt then
          Subscriber.appendEvent es (.ontAssigned dec.assignment)
        else es), key e.payload = some id) ↔ ∃ e ∈ es, key e.payload = some id := by
    intro es
    split
    · exact happend es _ (hassign _).1
    · split
      · exact happend es _ (hassign _).2
      · exact Iff.rfl
  unfold Subscriber.appendDecision
  simp only
  split
  · rw [happend _ _ (hbound _), hfirst]
  · exact hfirst events

/-- The ids of a kind in a log are those of the rows. -/
theorem exists_buildSimulationEventLog {key : Subscriber.Payload → Option String}
    (hassign : ∀ a, key (.cpeProvisioned a) = none ∧ key (.ontAssigned a) = none)
    (hbound : ∀ b, key (.serviceBound b) = none) (db : Database) (id : String) :
    (∃ e ∈ buildSimulationEventLog db, key e.payload = some id) ↔
      ∃ p ∈ Subscriber.rowPayloads db, key p = some id := by
  let logged := fun (es : List SimulationEvent) id ↦ ∃ e ∈ es, key e.payload = some id
  have hrow : ∀ es p id, logged (Subscriber.appendEvent es p) id ↔ logged es id ∨ key p = some id := by
    intro es p id
    simp [logged, Subscriber.appendEvent, or_and_right, exists_or]
  have hdecision : ∀ es dec id, logged (Subscriber.appendDecision es dec) id ↔
      logged es id ∨ (none : Option String) = some id := by
    intro es dec id
    simp [logged, exists_appendDecision hassign hbound]
  have hrows := mem_foldl_of_step logged hrow (Subscriber.rowPayloads db) [] id
  have hdecisions := mem_foldl_of_step logged hdecision
    (Subscriber.sortedDecisions (resolveSubscriberModel db))
    ((Subscriber.rowPayloads db).foldl Subscriber.appendEvent []) id
  exact (hdecisions.trans (or_congr_left hrows)).trans (by simp [logged])

private theorem mem_devices_log (db : Database) (id : String) :
    id ∈ (replaySimulationEvents (buildSimulationEventLog db)).physicalProjection.devices ↔
      ∃ d ∈ db.devices, d.id = id := by
  rw [mem_replay_devices, exists_buildSimulationEventLog (fun _ ↦ ⟨rfl, rfl⟩) (fun _ ↦ rfl)]
  simp [Subscriber.rowPayloads, Subscriber.createdPayload, Subscriber.connectedPayload,
    Subscriber.linkedPayload, createdId, or_and_right, exists_or, Subscriber.sortedDevices]

private theorem mem_links_log (db : Database) (id : String) :
    id ∈ (replaySimulationEvents (buildSimulationEventLog db)).physicalProjection.links ↔
      ∃ l ∈ db.links, l.id = id := by
  rw [mem_replay_links, exists_buildSimulationEventLog (fun _ ↦ ⟨rfl, rfl⟩) (fun _ ↦ rfl)]
  simp [Subscriber.rowPayloads, Subscriber.createdPayload, Subscriber.connectedPayload,
    Subscriber.linkedPayload, linkedId, or_and_right, exists_or]

/-- Subscribers of a domain that count on a device, by the mapping decisions. -/
def countedOn (db : Database) (domain : Domain) (anchor : Option String) : Nat :=
  (resolveSubscriberModel db).mappingDecisions.countP
    (fun dec ↦ dec.counted = some true ∧ dec.domain = some domain ∧ dec.anchorDeviceId = anchor)

/-- Subscribers that count. -/
def countedTotal (db : Database) : Nat :=
  (resolveSubscriberModel db).mappingDecisions.countP (fun dec ↦ dec.counted = some true)

private theorem countP_anchorIn_log (db : Database) (domain : Domain) (anchor : Option String) :
    (buildSimulationEventLog db).countP (fun e ↦ e.anchorIn domain = some anchor) =
      countedOn db domain anchor := by
  have hlog := Subscriber.countP_buildSimulationEventLog (fun b ↦ b.anchorIn domain = some anchor)
    (fun _ ↦ rfl) db
  have hevent : ∀ e : SimulationEvent,
      e.binding.any (fun b ↦ b.anchorIn domain = some anchor) =
        decide (e.anchorIn domain = some anchor) := by
    intro e
    unfold SimulationEvent.anchorIn
    cases e.binding <;> simp
  simp only [hevent, decide_eq_true_eq] at hlog
  have hanchor : ∀ dec : Decision, (dec.binding 0).anchorIn domain = some anchor ↔
      dec.domain = some domain ∧ dec.anchorDeviceId = anchor := by
    intro dec
    by_cases hdomain : dec.domain = some domain <;>
      simp [Subscriber.Binding.anchorIn, Subscriber.Decision.binding, hdomain]
  simp only [hlog, hanchor, countedOn]

private theorem effectiveSubscriberCount_log (db : Database) :
    (replaySimulationEvents (buildSimulationEventLog db)).effectiveSubscriberCount =
      countedTotal db := by
  have hlog := Subscriber.countP_buildSimulationEventLog (fun _ ↦ true) (fun _ ↦ rfl) db
  have hevent : ∀ e : SimulationEvent, e.binding.any (fun _ ↦ true) = e.binding.isSome := by
    intro e
    cases e.binding <;> rfl
  simp only [hevent] at hlog
  rw [Subscriber.replay_effectiveSubscriberCount, hlog]
  simp [countedTotal]

/-- An entry of a counting loop. -/
theorem lookup_count_eq {α K : Type} [DecidableEq K] (key : α → Option K) (xs : List α) (k : K) :
    (xs.foldl (Dict.count key) ∅).lookup k =
      if xs.countP (fun x ↦ decide (key x = some k)) = 0 then none
      else some (xs.countP (fun x ↦ decide (key x = some k))) := by
  have hcount := Dict.lookup_foldl_count key xs k
  have hmem := Dict.mem_foldl_count key xs k
  split
  · next hzero =>
    rw [List.countP_eq_zero] at hzero
    rw [AList.lookup_eq_none, hmem]
    rintro ⟨x, hx, hkey⟩
    exact hzero x hx (by simpa using hkey)
  · next hpos =>
    obtain ⟨x, hx, hkey⟩ := List.countP_pos_iff.mp (Nat.pos_of_ne_zero hpos)
    obtain ⟨n, hn⟩ := Option.isSome_iff_exists.mp
      (AList.lookup_isSome.mpr (hmem.mpr ⟨x, hx, by simpa using hkey⟩))
    rw [hn, Option.getD_some] at hcount
    rw [hn, hcount]

/-! ### The same projection -/

/-- Two replays have the same devices, links and subscriber counts. -/
structure SameProjection (r r' : ReplayResult) : Prop where
  devices : ∀ id, id ∈ r.physicalProjection.devices ↔ id ∈ r'.physicalProjection.devices
  links : ∀ id, id ∈ r.physicalProjection.links ↔ id ∈ r'.physicalProjection.links
  effectiveSubscriberCount : r.effectiveSubscriberCount = r'.effectiveSubscriberCount
  oltSubscribers : ∀ k, r.oltSubscribers.lookup k = r'.oltSubscribers.lookup k
  aonSubscribers : ∀ k, r.aonSubscribers.lookup k = r'.aonSubscribers.lookup k

/-- Two databases have the same devices and links, and the same subscribers count on the same
devices. -/
structure SameTopology (db db' : Database) : Prop where
  devices : ∀ id, (∃ d ∈ db.devices, d.id = id) ↔ ∃ d ∈ db'.devices, d.id = id
  links : ∀ id, (∃ l ∈ db.links, l.id = id) ↔ ∃ l ∈ db'.links, l.id = id
  countedTotal : countedTotal db = countedTotal db'
  countedOn : ∀ domain anchor, countedOn db domain anchor = countedOn db' domain anchor

private theorem SameTopology.refl (db : Database) : SameTopology db db :=
  ⟨fun _ ↦ Iff.rfl, fun _ ↦ Iff.rfl, rfl, fun _ _ ↦ rfl⟩

private theorem SameTopology.trans {db db' db'' : Database} (h : SameTopology db db')
    (h' : SameTopology db' db'') : SameTopology db db'' :=
  ⟨fun id ↦ (h.devices id).trans (h'.devices id), fun id ↦ (h.links id).trans (h'.links id),
    h.countedTotal.trans h'.countedTotal,
    fun domain anchor ↦ (h.countedOn domain anchor).trans (h'.countedOn domain anchor)⟩

private theorem SameTopology.sameProjection {db db' : Database} (h : SameTopology db db') :
    SameProjection (replaySimulationEvents (buildSimulationEventLog db))
      (replaySimulationEvents (buildSimulationEventLog db')) where
  devices id := by rw [mem_devices_log, mem_devices_log, h.devices]
  links id := by rw [mem_links_log, mem_links_log, h.links]
  effectiveSubscriberCount := by
    rw [effectiveSubscriberCount_log, effectiveSubscriberCount_log, h.countedTotal]
  oltSubscribers k := by
    rw [Subscriber.replay_oltSubscribers, Subscriber.replay_oltSubscribers, lookup_count_eq,
      lookup_count_eq, countP_anchorIn_log, countP_anchorIn_log, h.countedOn]
  aonSubscribers k := by
    rw [Subscriber.replay_aonSubscribers, Subscriber.replay_aonSubscribers, lookup_count_eq,
      lookup_count_eq, countP_anchorIn_log, countP_anchorIn_log, h.countedOn]

/-! ### Writes and health calls -/

/-- The database and the event store behind the API. -/
structure Service where
  db : Database
  table : EventTable := {}

/-- A record that a write appends, before its defaults; `event_store.py:85–116`. -/
structure DomainEvent where
  eventType : DomainEventType
  entityId : String
  payload : Payload := []
  correlationId : Option String := none

/-- `append_domain_event`; `event_store.py:85–116`. -/
def EventTable.appendDomainEvent (now : Nat → String) (table : EventTable) (e : DomainEvent) :
    EventTable :=
  let timestamp := now table.nextSequence
  table.append e.eventType
    (.fields ((e.payload.setDefault "entity_id" e.entityId).setDefault "timestamp" timestamp))
    "WRITE_PATH" timestamp e.correlationId (fun h ↦ absurd h (by decide))

/-- `consistency_status`; `event_store_health.py:55–60`. -/
inductive ConsistencyStatus where
  | pythonAuthoritativeGoNotGuardedNoGoWrites
  | partiallyEnforcedWithBlockers
  | migrationIncomplete
  deriving DecidableEq, Repr

/-- The result of `build_event_store_health`; its constant entries are left out. -/
structure HealthReport where
  totalEvents : Nat
  lastSequence : Option Nat
  projectionLag : Int
  writePathEventsRecorded : Nat
  legacyRuntimeEventsRecorded : Nat
  consistencyStatus : ConsistencyStatus
  eventsAddedThisCall : Nat
  backfilledEventsTotal : Nat
  projections : ReplayResult

/-- `build_event_store_health`, with the table that it leaves; no Go service has active guarded writes;
`event_store_health.py:196–276`. -/
def buildEventStoreHealth (now : Nat → String) (enforcementEnabled : Bool) (s : Service) :
    HealthReport × EventTable :=
  let table := s.table.ensureBackfilled now s.db
  let replayableEvents := recordsToSimulationEvents table
  let projections := replaySimulationEvents replayableEvents
  let projectionLag : Int := replayableEvents.length - projections.eventCount
  let ofSource := fun source ↦ table.rows.countP (·.source = source)
  ({ totalEvents := table.rows.length
     lastSequence := table.rows.getLast?.map EventRow.sequence
     projectionLag := projectionLag
     writePathEventsRecorded := ofSource "WRITE_PATH"
     legacyRuntimeEventsRecorded := ofSource "RUNTIME_EVENT_BUS"
     consistencyStatus :=
       if projectionLag ≠ 0 then .partiallyEnforcedWithBlockers
       else if enforcementEnabled then .pythonAuthoritativeGoNotGuardedNoGoWrites
       else .migrationIncomplete
     eventsAddedThisCall := table.rows.length - s.table.rows.length
     backfilledEventsTotal := ofSource backfillSource
     projections := projections }, table)

/-- The lag is taken between the replay and its own input. -/
theorem projectionLag_eq_zero (now : Nat → String) (enforcementEnabled : Bool) (s : Service) :
    (buildEventStoreHealth now enforcementEnabled s).1.projectionLag = 0 :=
  sub_self _

/-- A covered write, which changes the tables and appends its domain events in one transaction, or a
call of `build_event_store_health`. -/
inductive ServiceAction where
  | write (db : Database) (events : List DomainEvent)
  | health

/-- One request. -/
def Service.act (now : Nat → String) (enforcementEnabled : Bool) (s : Service) :
    ServiceAction → Option Service
  | .write db events => some ⟨db, events.foldl (EventTable.appendDomainEvent now) s.table⟩
  | .health => some { s with table := (buildEventStoreHealth now enforcementEnabled s).2 }

/-- Writes and health calls in any order, from an event store without a backfill. -/
def requests (now : Nat → String) (enforcementEnabled : Bool) : System Service ServiceAction :=
  System.ofAct (fun s ↦ s.table.hasBackfill = false) (Service.act now enforcementEnabled)

/-- A write after the backfill changes nothing that is projected. -/
def writeKeepsTopology (s : Service) : ServiceAction → Prop
  | .write db _ => s.table.hasBackfill → SameTopology s.db db
  | .health => True

private theorem backfilled_appendDomainEvents (now : Nat → String) (events : List DomainEvent)
    (table : EventTable) :
    (events.foldl (EventTable.appendDomainEvent now) table).backfilled = table.backfilled := by
  induction events generalizing table with
  | nil => rfl
  | cons e events ih =>
    have hone : (table.appendDomainEvent now e).backfilled = table.backfilled := by
      have hsource : "WRITE_PATH" ≠ backfillSource := by decide
      simp [EventTable.backfilled, EventTable.appendDomainEvent, EventTable.append,
        EventRow.replayed, hsource]
    rw [List.foldl_cons, ih, hone]

/-- A backfill holds the log of a database with the topology of the current one. -/
def BackfillCurrent (s : Service) : Prop :=
  s.table.hasBackfill → ∃ db, s.table.backfilled = logPayloads db ∧ SameTopology db s.db

/-- What a health call finds and leaves behind. -/
theorem BackfillCurrent.ensureBackfilled {s : Service} (h : BackfillCurrent s) (now : Nat → String) :
    ∃ db, (s.table.ensureBackfilled now s.db).backfilled = logPayloads db ∧ SameTopology db s.db := by
  rw [EventTable.backfilled_ensureBackfilled]
  split
  · next hback => exact h hback
  · exact ⟨s.db, rfl, .refl s.db⟩

private theorem backfillCurrent_of_reachable {now : Nat → String} {enforcementEnabled : Bool}
    {s : Service}
    (h : ((requests now enforcementEnabled).restrict writeKeepsTopology).Reachable s) :
    BackfillCurrent s := by
  refine System.Reachable.invariant ?_ ?_ h
  · intro s hinit hback
    cases hback.symm.trans hinit
  · rintro s a s' hcurrent ⟨hok, hact⟩
    cases a with
    | write db events =>
      cases hact
      intro hback
      have hsame := backfilled_appendDomainEvents now events s.table
      have hbefore : s.table.hasBackfill := by
        rw [EventTable.hasBackfill_iff, ← hsame, ← EventTable.hasBackfill_iff]
        exact hback
      obtain ⟨db₀, hlog, htopology⟩ := hcurrent hbefore
      exact ⟨db₀, hsame.trans hlog, htopology.trans (hok hbefore)⟩
    | health =>
      cases hact
      exact fun _ ↦ hcurrent.ensureBackfilled now

/-- The projections of a report are those of the log that was backfilled. -/
theorem projections_of_backfilled {now : Nat → String} {s : Service} (db : Database)
    (h : (s.table.ensureBackfilled now s.db).backfilled = logPayloads db)
    (enforcementEnabled : Bool) :
    (buildEventStoreHealth now enforcementEnabled s).1.projections =
      replaySimulationEvents (buildSimulationEventLog db) := by
  show replaySimulationEvents (numbered backfillSource _) = _
  rw [h, replay_numbered backfillSource snapshotSource, logPayloads,
    ← numbered_buildSimulationEventLog db]

/-- In runs whose writes after the backfill change nothing that is projected, a report without lag is
about the current database. -/
theorem health_truthful_of_writes {now : Nat → String} {enforcementEnabled : Bool} {s : Service}
    (h : ((requests now enforcementEnabled).restrict writeKeepsTopology).Reachable s) :
    (buildEventStoreHealth now enforcementEnabled s).1.projectionLag = 0 →
      SameProjection (buildEventStoreHealth now enforcementEnabled s).1.projections
        (replaySimulationEvents (buildSimulationEventLog s.db)) := by
  intro _
  obtain ⟨db, hlog, htopology⟩ := (backfillCurrent_of_reachable h).ensureBackfilled now
  rw [projections_of_backfilled _ hlog]
  exact htopology.sameProjection

/-- The devices of `twoDevices`, one of them down. -/
def twoDevicesDown : Database where
  devices := [{ id := "olt", type := .olt, status := .down }, { id := "pop", type := .pop }]
  interfaces := []
  links := []
  interfaces_nodup := List.nodup_nil
  links_nodup := List.nodup_nil

/-- An event store after the backfill. -/
def backfilledService (db : Database) : Service :=
  ⟨db, (buildEventStoreHealth (fun _ ↦ "") true ⟨db, {}⟩).2⟩

/-- A write after the backfill. -/
def Service.written (s : Service) (db : Database) (events : List DomainEvent) : Service :=
  ⟨db, events.foldl (EventTable.appendDomainEvent (fun _ ↦ "")) s.table⟩

/-- A status update after the backfill. -/
theorem health_truthful_statusUpdate :
    SameProjection (buildEventStoreHealth (fun _ ↦ "") true ((backfilledService twoDevices).written
        twoDevicesDown [{ eventType := .deviceUpdated, entityId := "olt" }])).1.projections
      (replaySimulationEvents (buildSimulationEventLog twoDevicesDown)) := by
  have hsame : SameTopology twoDevices twoDevicesDown := by
    have hnone : (resolveSubscriberModel twoDevices).mappingDecisions = [] := by decide +kernel
    have hnone' : (resolveSubscriberModel twoDevicesDown).mappingDecisions = [] := by decide +kernel
    refine ⟨fun id ↦ ?_, fun id ↦ Iff.rfl, ?_, fun domain anchor ↦ ?_⟩
    · simp [twoDevices, twoDevicesDown]
    · rw [countedTotal, countedTotal, hnone, hnone']
    · rw [countedOn, countedOn, hnone, hnone']
  have hinit : ((requests (fun _ ↦ "") true).restrict writeKeepsTopology).Reachable
      ⟨twoDevices, {}⟩ := .init rfl
  have hhealth : ((requests (fun _ ↦ "") true).restrict writeKeepsTopology).Reachable
      (backfilledService twoDevices) :=
    .step (a := .health) hinit ⟨trivial, rfl⟩
  have hwrite : ((requests (fun _ ↦ "") true).restrict writeKeepsTopology).Reachable
      ((backfilledService twoDevices).written twoDevicesDown
        [{ eventType := .deviceUpdated, entityId := "olt" }]) :=
    .step (a := .write _ _) hhealth ⟨fun _ ↦ hsame, rfl⟩
  exact health_truthful_of_writes hwrite (projectionLag_eq_zero _ _ _)

/-- A link that `create_link_impl` has created after the backfill is not in the projection of a report
without lag. -/
theorem health_misses_created_link :
    ∃ store, Links.createLinkImpl Links.constantRuntime Links.accessNetwork
        (Links.linkRequest "olt-if0" "odf-if0") = .ok store ∧
      ∃ s : Service, (requests (fun _ ↦ "") true).Reachable s ∧ s.db = store.db ∧
        (buildEventStoreHealth (fun _ ↦ "") true s).1.projectionLag = 0 ∧
        ¬ SameProjection (buildEventStoreHealth (fun _ ↦ "") true s).1.projections
          (replaySimulationEvents (buildSimulationEventLog s.db)) := by
  have hlinks : (Links.createLinkImpl Links.constantRuntime Links.accessNetwork
      (Links.linkRequest "olt-if0" "odf-if0")).toOption.any (fun store ↦ store.db.links ≠ []) := by
    decide +kernel
  obtain ⟨store, hstore, hne⟩ := (Option.any_eq_true _ _).mp hlinks
  obtain ⟨l, hl⟩ := List.exists_mem_of_ne_nil _ (of_decide_eq_true hne)
  refine ⟨store, Links.toOption_eq_some.mp hstore,
    (backfilledService Links.accessNetwork.db).written store.db
      [{ eventType := .linkCreated, entityId := l.id }], ?_, rfl, projectionLag_eq_zero _ _ _, ?_⟩
  · exact .run (Service.act (fun _ ↦ "") true) (fun _ _ _ h ↦ h)
      [.health, .write store.db [{ eventType := .linkCreated, entityId := l.id }]]
      (s := ⟨Links.accessNetwork.db, {}⟩) (.init rfl) rfl
  · intro hprojection
    have hmem := (hprojection.links l.id).mpr ((mem_links_log _ _).mpr ⟨l, hl, rfl⟩)
    have hempty : Links.accessNetwork.db.links = [] := rfl
    have hback : (backfilledService Links.accessNetwork.db).table.backfilled =
        logPayloads Links.accessNetwork.db :=
      EventTable.backfilled_ensureBackfilled _ _ _
    have hne : logPayloads Links.accessNetwork.db ≠ [] := by decide +kernel
    -- the second call finds the records of the first one and adds nothing
    rw [projections_of_backfilled Links.accessNetwork.db, mem_links_log, hempty] at hmem
    · simp at hmem
    · rw [EventTable.backfilled_ensureBackfilled, if_pos]
      · exact (backfilled_appendDomainEvents _ _ _).trans hback
      · rw [EventTable.hasBackfill_iff]
        exact ((backfilled_appendDomainEvents _ _ _).trans hback).symm ▸ hne

end Unoc.EventStore
