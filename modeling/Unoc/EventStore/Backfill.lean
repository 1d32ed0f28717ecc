import Unoc.EventStore.Log
import Unoc.Subscriber.EventReplay

/-!
# Backfill of the event store

`ensure_backfilled_event_store` and `_records_to_simulation_events` of
`backend/services/event_store_health.py:22–52`. The backfill writes the simulation log of the database,
one commit per event; its guard only asks whether some record of a backfill exists.
-/

namespace Unoc.EventStore

open Unoc.Model
open Unoc.Subscriber (SimulationEvent buildSimulationEventLog replaySimulationEvents)

/-! ### Rows -/

/-- `BACKFILL_SOURCE`; `event_store_health.py:19`. -/
def backfillSource : String := "BACKFILL_DB_SNAPSHOT"

/-- `event.type` of a simulation event. -/
def simulationType : Subscriber.Payload → String
  | .deviceCreated _ => "DEVICE_CREATED"
  | .portConnected _ => "PORT_CONNECTED"
  | .deviceLinked _ => "DEVICE_LINKED"
  | .cpeProvisioned _ => "CPE_PROVISIONED"
  | .ontAssigned _ => "ONT_ASSIGNED"
  | .serviceBound _ => "SERVICE_BOUND"

/-- The members of `SIMULATION_EVENT_TYPES`; `simulation_event_engine.py:20–27`. -/
def simulationEventTypes : List DomainEventType :=
  [.deviceCreated, .portConnected, .deviceLinked, .cpeProvisioned, .ontAssigned, .serviceBound]

/-- The JSON object of a row: that of a simulation event, or any other. -/
inductive RowPayload where
  | simulation (p : Subscriber.Payload)
  | fields (p : Payload)
  deriving DecidableEq

/-- `event_type` that `append_event` stores for a name; `event_store.py:46–47`. -/
def storedType (name : String) : DomainEventType := (DomainEventType.ofName name).getD .runtimeEvent

/-- A row of the event store; `models_pkg/event_store.py:8–15`. -/
structure EventRow where
  sequence : Nat
  eventType : DomainEventType
  payload : RowPayload
  source : String
  createdAt : String
  correlationId : Option String := none
  /-- The backfill is the only writer of its source. -/
  of_backfill : source = backfillSource →
    ∃ p, payload = .simulation p ∧ eventType = storedType (simulationType p)

/-- The rows in the order of their sequence, which is unique. -/
structure EventTable where
  rows : List EventRow := []
  ordered : rows.Pairwise (fun r r' ↦ r.sequence < r'.sequence) := by exact List.Pairwise.nil

namespace EventTable

/-- An empty table is in order. -/
theorem ordered_nil : ([] : List EventRow).Pairwise (fun r r' ↦ r.sequence < r'.sequence) := .nil

/-- `_next_sequence`; `event_store.py:31–35`. -/
def nextSequence (table : EventTable) : Nat :=
  match table.rows.getLast? with
  | none => 0
  | some r => r.sequence + 1

private theorem lt_nextSequence (table : EventTable) :
    ∀ r ∈ table.rows, r.sequence < table.nextSequence := by
  intro r hr
  unfold nextSequence
  rcases List.eq_nil_or_concat' table.rows with hnil | ⟨init, last, hrows⟩
  · rw [hnil] at hr
    cases hr
  · have hordered := table.ordered
    rw [hrows] at hr hordered ⊢
    rw [List.getLast?_concat]
    rcases List.mem_append.mp hr with hinit | hlast
    · exact Nat.lt_succ_of_lt ((List.pairwise_append.mp hordered).2.2 r hinit last (by simp))
    · rw [List.mem_singleton.mp hlast]
      exact Nat.lt_succ_self _

/-- Insert a row with the next sequence. -/
def append (table : EventTable) (eventType : DomainEventType) (payload : RowPayload)
    (source createdAt : String) (correlationId : Option String)
    (h : source = backfillSource →
      ∃ p, payload = .simulation p ∧ eventType = storedType (simulationType p)) : EventTable where
  rows := table.rows ++
    [⟨table.nextSequence, eventType, payload, source, createdAt, correlationId, h⟩]
  ordered := by
    refine List.pairwise_append.mpr ⟨table.ordered, List.pairwise_singleton _ _, ?_⟩
    intro r hr r' hr'
    rw [List.mem_singleton.mp hr']
    exact table.lt_nextSequence r hr

/-- `append_event` of the backfill; `event_store.py:38–59`. -/
def appendBackfill (now : Nat → String) (table : EventTable) (p : Subscriber.Payload) : EventTable :=
  table.append (storedType (simulationType p)) (.simulation p) backfillSource
    (now table.nextSequence) none (fun _ ↦ ⟨p, rfl, rfl⟩)

/-- `existing is not None`; `event_store_health.py:23–27`. -/
def hasBackfill (table : EventTable) : Bool := table.rows.any (·.source = backfillSource)

/-- `ensure_backfilled_event_store`, stopped after some number of its commits;
`event_store_health.py:22–32`. -/
def backfillUpTo (now : Nat → String) (db : Database) (n : Nat) (table : EventTable) : EventTable :=
  if table.hasBackfill then table
  else ((buildSimulationEventLog db).take n).foldl (fun t e ↦ t.appendBackfill now e.payload) table

/-- `ensure_backfilled_event_store`; `event_store_health.py:22–32`. -/
def ensureBackfilled (now : Nat → String) (db : Database) (table : EventTable) : EventTable :=
  if table.hasBackfill then table
  else (buildSimulationEventLog db).foldl (fun t e ↦ t.appendBackfill now e.payload) table

end EventTable

/-! ### The events of a backfill -/

/-- The payload of a row that is replayed; `event_store_health.py:38–42`. -/
def EventRow.replayed (r : EventRow) : Option Subscriber.Payload :=
  if r.source ≠ backfillSource then none
  else if r.eventType ∉ simulationEventTypes then none
  else match r.payload with
    | .simulation p => some p
    | .fields _ => none

/-- Events numbered from zero. -/
def numbered (source : String) (payloads : List Subscriber.Payload) : List SimulationEvent :=
  payloads.zipIdx.map (fun x ↦ ⟨x.2, x.1, source⟩)

/-- The payloads of the rows that are replayed. -/
def EventTable.backfilled (table : EventTable) : List Subscriber.Payload :=
  table.rows.filterMap EventRow.replayed

/-- `_records_to_simulation_events`; `event_store_health.py:35–52`. -/
def recordsToSimulationEvents (table : EventTable) : List SimulationEvent :=
  numbered backfillSource table.backfilled

/-- The payloads of the log of a database. -/
def logPayloads (db : Database) : List Subscriber.Payload :=
  (buildSimulationEventLog db).map SimulationEvent.payload

private theorem length_logPayloads (db : Database) :
    (logPayloads db).length = (buildSimulationEventLog db).length := List.length_map _

private theorem storedType_mem (p : Subscriber.Payload) :
    storedType (simulationType p) ∈ simulationEventTypes := by
  have hstored : ∀ name ∈ ["DEVICE_CREATED", "PORT_CONNECTED", "DEVICE_LINKED", "CPE_PROVISIONED",
      "ONT_ASSIGNED", "SERVICE_BOUND"], storedType name ∈ simulationEventTypes := by
    decide
  apply hstored
  cases p <;> simp [simulationType]

namespace EventRow

private theorem replayed_eq_none {r : EventRow} (h : r.source ≠ backfillSource) :
    r.replayed = none :=
  if_pos h

/-- Every row of a backfill is replayed. -/
theorem replayed_isSome {r : EventRow} (h : r.source = backfillSource) : r.replayed.isSome := by
  obtain ⟨p, hpayload, htype⟩ := r.of_backfill h
  simp [replayed, h, hpayload, htype, storedType_mem p]

end EventRow

namespace EventTable

/-- There is a backfill if some row was backfilled. -/
theorem hasBackfill_iff (table : EventTable) : table.hasBackfill ↔ table.backfilled ≠ [] := by
  rw [hasBackfill, List.any_eq_true, backfilled, ne_eq, List.filterMap_eq_nil_iff, not_forall]
  constructor
  · rintro ⟨r, hr, hsource⟩
    refine ⟨r, fun h ↦ ?_⟩
    have hsome := EventRow.replayed_isSome (of_decide_eq_true hsource)
    rw [h hr] at hsome
    cases hsome
  · rintro ⟨r, hr⟩
    obtain ⟨hmem, hsome⟩ := Classical.not_imp.mp hr
    refine ⟨r, hmem, decide_eq_true ?_⟩
    by_contra hsource
    exact hsome (EventRow.replayed_eq_none hsource)

@[simp]
private theorem backfilled_appendBackfill (now : Nat → String) (table : EventTable)
    (p : Subscriber.Payload) :
    (table.appendBackfill now p).backfilled = table.backfilled ++ [p] := by
  simp [backfilled, appendBackfill, append, EventRow.replayed, storedType_mem p]

private theorem backfilled_foldl (now : Nat → String) (events : List SimulationEvent)
    (table : EventTable) :
    (events.foldl (fun t e ↦ t.appendBackfill now e.payload) table).backfilled =
      table.backfilled ++ events.map SimulationEvent.payload := by
  induction events generalizing table with
  | nil => simp
  | cons e events ih => rw [List.foldl_cons, ih, backfilled_appendBackfill]; simp

/-- A backfill that stops writes a first part of the log, or nothing if there was one before. -/
theorem backfilled_backfillUpTo (now : Nat → String) (db : Database) (n : Nat) (table : EventTable) :
    (table.backfillUpTo now db n).backfilled =
      if table.hasBackfill then table.backfilled
      else (logPayloads db).take n := by
  unfold backfillUpTo
  split
  · rfl
  · next h =>
    have hnil : table.backfilled = [] := not_not.mp (mt (hasBackfill_iff table).mpr h)
    rw [backfilled_foldl, hnil, List.nil_append, List.map_take, ← logPayloads]

/-- A backfill that is not stopped writes the log, or nothing if there was one before. -/
theorem backfilled_ensureBackfilled (now : Nat → String) (db : Database) (table : EventTable) :
    (table.ensureBackfilled now db).backfilled =
      if table.hasBackfill then table.backfilled else logPayloads db := by
  have hall : table.ensureBackfilled now db =
      table.backfillUpTo now db (buildSimulationEventLog db).length := by
    rw [ensureBackfilled, backfillUpTo, List.take_length]
  rw [hall, backfilled_backfillUpTo, ← length_logPayloads, List.take_length]

end EventTable

/-! ### Numbering -/

private theorem map_payload_numbered (source : String) (ps : List Subscriber.Payload) :
    (numbered source ps).map SimulationEvent.payload = ps := by
  simp [numbered, Function.comp_def]

private theorem map_sequence_numbered (source : String) (ps : List Subscriber.Payload) :
    (numbered source ps).map SimulationEvent.sequence = List.range ps.length := by
  simp [numbered, Function.comp_def, List.range_eq_range']

private theorem numbered_concat (source : String) (ps : List Subscriber.Payload)
    (p : Subscriber.Payload) :
    numbered source (ps ++ [p]) = numbered source ps ++ [⟨ps.length, p, source⟩] := by
  simp [numbered, List.zipIdx_append]

/-- The source of the events of a log. -/
def snapshotSource : String := "CANONICAL_DB_SNAPSHOT"

/-- The sequence of an event is its place. -/
def Numbered (events : List SimulationEvent) : Prop :=
  events = numbered snapshotSource (events.map SimulationEvent.payload)

private theorem Numbered.appendEvent {events : List SimulationEvent} (h : Numbered events)
    (p : Subscriber.Payload) : Numbered (Subscriber.appendEvent events p) := by
  unfold Numbered Subscriber.appendEvent
  rw [List.map_append, List.map_cons, List.map_nil, numbered_concat, ← h, List.length_map]
  rfl

private theorem Numbered.foldl {α : Type} {step : List SimulationEvent → α → List SimulationEvent}
    (hstep : ∀ events x, Numbered events → Numbered (step events x)) (xs : List α)
    {events : List SimulationEvent} (h : Numbered events) : Numbered (xs.foldl step events) := by
  induction xs generalizing events with
  | nil => exact h
  | cons x xs ih => exact ih (hstep events x h)

/-- The events of a built log are numbered from zero. -/
theorem numbered_buildSimulationEventLog (db : Database) : Numbered (buildSimulationEventLog db) := by
  apply Numbered.foldl
  · intro events dec h
    unfold Subscriber.appendDecision
    split
    · split
      · exact (h.appendEvent _).appendEvent _
      · exact h.appendEvent _
    · split
      · split
        · exact (h.appendEvent _).appendEvent _
        · exact h.appendEvent _
      · split
        · exact h.appendEvent _
        · exact h
  · exact Numbered.foldl (fun _ p h ↦ h.appendEvent p) _ rfl

/-! ### Crashes -/

/-- The replayed events are the log: the same payloads, in order and numbered the same. -/
def IsLog (db : Database) (events : List SimulationEvent) : Prop :=
  events.map SimulationEvent.payload = (buildSimulationEventLog db).map SimulationEvent.payload ∧
    events.map SimulationEvent.sequence = (buildSimulationEventLog db).map SimulationEvent.sequence

private theorem isLog_records_iff (db : Database) (table : EventTable) :
    IsLog db (recordsToSimulationEvents table) ↔ table.backfilled = logPayloads db := by
  rw [IsLog, recordsToSimulationEvents, map_payload_numbered, map_sequence_numbered]
  refine ⟨And.left, fun h ↦ ⟨h, ?_⟩⟩
  have hlog := numbered_buildSimulationEventLog db
  rw [h, hlog, map_sequence_numbered, ← logPayloads]

/-- What is left after a crash and a second run: the second run writes only where the first one has
written nothing. -/
theorem EventTable.backfilled_after_crash (now now' : Nat → String) (db : Database)
    (table : EventTable) (n : Nat) :
    ((table.backfillUpTo now db n).ensureBackfilled now' db).backfilled =
      if table.hasBackfill then table.backfilled
      else if (logPayloads db).take n = [] then logPayloads db
      else (logPayloads db).take n := by
  have hfirst := backfilled_backfillUpTo now db n table
  have hagain := hasBackfill_iff (table.backfillUpTo now db n)
  rw [backfilled_ensureBackfilled]
  by_cases htable : table.hasBackfill
  · rw [if_pos htable] at hfirst ⊢
    rw [hfirst] at hagain ⊢
    rw [if_pos (hagain.mpr ((hasBackfill_iff table).mp htable))]
  · rw [if_neg htable] at hfirst ⊢
    rw [hfirst] at hagain ⊢
    by_cases hnil : (logPayloads db).take n = []
    · rw [if_neg (fun h ↦ hagain.mp h hnil), if_pos hnil]
    · rw [if_pos (hagain.mpr hnil), if_neg hnil]

/-- A second run after a crash restores the log if and only if the first one stopped before its first
commit or after its last; records of an earlier backfill are left as they are. -/
theorem backfill_after_crash_iff (now now' : Nat → String) (db : Database) (table : EventTable)
    (n : Nat) :
    IsLog db (recordsToSimulationEvents
        ((table.backfillUpTo now db n).ensureBackfilled now' db)) ↔
      if table.hasBackfill then IsLog db (recordsToSimulationEvents table)
      else n = 0 ∨ (buildSimulationEventLog db).length ≤ n := by
  rw [isLog_records_iff, isLog_records_iff, EventTable.backfilled_after_crash,
    ← length_logPayloads]
  by_cases htable : table.hasBackfill
  · rw [if_pos htable, if_pos htable]
  rw [if_neg htable, if_neg htable]
  by_cases hnil : (logPayloads db).take n = []
  · rw [if_pos hnil]
    refine iff_of_true rfl ?_
    rcases List.take_eq_nil_iff.mp hnil with hn | hlog
    · exact Or.inl hn
    · exact Or.inr (by simp [hlog])
  · have hn : n ≠ 0 := by
      rintro rfl
      exact hnil rfl
    rw [if_neg hnil, List.take_eq_self_iff, or_iff_right hn]

/-- Two devices without ports. -/
def twoDevices : Database where
  devices := [{ id := "olt", type := .olt }, { id := "pop", type := .pop }]
  interfaces := []
  links := []
  interfaces_nodup := List.nodup_nil
  links_nodup := List.nodup_nil

/-- After a crash between the two events, the second one is missing for good. -/
theorem backfill_crash_loses_event :
    ¬ IsLog twoDevices (recordsToSimulationEvents
        ((({} : EventTable).backfillUpTo (fun _ ↦ "") twoDevices 1).ensureBackfilled (fun _ ↦ "")
          twoDevices)) := by
  rw [isLog_records_iff, EventTable.backfilled_after_crash]
  decide +kernel

end Unoc.EventStore
