import Mathlib.Tactic.NormNum
import Unoc.Traffic.Congestion

/-!
# Congestion over whole runs

The state after each tick of a run that starts from an empty state. A flag is a latch that the high
threshold sets and the low threshold holds; the events tell of every change of a flag but not of
flags that are lost with their entity.
-/

namespace Unoc.Traffic

open Unoc.Base Unoc.Base.Flags Unoc.Model

/-- What one tick gives to `DetectCongestion`. -/
structure Tick where
  orders : DetectionOrders
  result : GenerationResult
  cache : TopologyCache

/-- The maps of one type of entity. -/
def CongestionState.entities (cs : CongestionState) : EntityType → EntityCongestion
  | .device => cs.devices
  | .link => cs.links

/-- Whether a state marks an entity as congested. -/
def CongestionState.marked (cs : CongestionState) (entity : EntityType × String) : Bool :=
  flag (cs.entities entity.1).congested entity.2

namespace Tick

/-- What a tick reads of an entity, if the entity is in its metrics and in its cache. -/
def reading (t : Tick) (entity : EntityType × String) : Option Reading :=
  match entity.1 with
  | .device => (t.result.deviceMetrics.lookup entity.2).bind (deviceReading t.result t.cache entity.2)
  | .link => (t.result.linkMetrics.lookup entity.2).bind (linkReading t.cache entity.2)

/-- The state after a tick. -/
def detect (t : Tick) (prev : CongestionState) : CongestionState :=
  detectCongestion t.orders t.result t.cache (some prev)

end Tick

/-- The state after each tick of a run. -/
def history (ticks : Nat → Tick) : Nat → CongestionState
  | 0 => (ticks 0).detect newCongestionState
  | n + 1 => (ticks (n + 1)).detect (history ticks n)

/-- All events up to a tick of a run. -/
def emitted (ticks : Nat → Tick) : Nat → List CongestionEvent :=
  upTo (fun n ↦ (history ticks n).congestionEvents)

/-! ### One loop -/

section Loop

variable (entityType : EntityType) (read : String → FlowMetrics → Option Reading)
  (prev : GoMap String Bool)

private theorem congested_visit (new : EntityCongestion × List CongestionEvent)
    (e : String × FlowMetrics) :
    (visit entityType read prev new e).1.congested =
      GoMap.insertValid new.1.congested e.1
        ((read e.1 e.2).map (fun r ↦ r.isCongested (flag prev e.1))) := by
  unfold visit
  cases read e.1 e.2 <;> rfl

/-- The event of one entry of the metrics. -/
def entryEvents (e : String × FlowMetrics) : List CongestionEvent :=
  ((read e.1 e.2).map (fun r ↦ transition entityType e.1 r (flag prev e.1))).getD []

private theorem events_visit (new : EntityCongestion × List CongestionEvent)
    (e : String × FlowMetrics) :
    (visit entityType read prev new e).2 = new.2 ++ entryEvents entityType read prev e := by
  unfold visit entryEvents
  cases read e.1 e.2 with
  | none => exact (List.append_nil _).symm
  | some r => rfl

private theorem congested_foldl_visit (es : List (String × FlowMetrics))
    (new : EntityCongestion × List CongestionEvent) :
    (es.foldl (visit entityType read prev) new).1.congested =
      es.foldl (fun m e ↦ GoMap.insertValid m e.1
        ((read e.1 e.2).map (fun r ↦ r.isCongested (flag prev e.1)))) new.1.congested := by
  induction es generalizing new with
  | nil => rfl
  | cons e es ih => rw [List.foldl_cons, ih, congested_visit, List.foldl_cons]

private theorem lookup_congested_foldl_visit (m : GoMap String FlowMetrics) (o : RangeOrder String)
    (events : List CongestionEvent) (id : String) :
    ((m.range o).foldl (visit entityType read prev) ({}, events)).1.congested.lookup id =
      ((m.lookup id).bind (read id)).map (fun r ↦ r.isCongested (flag prev id)) := by
  have hfill := lookup_fill m o (fun k v ↦ (read k v).map (fun r ↦ r.isCongested (flag prev k))) id
  rw [congested_foldl_visit]
  refine hfill.trans ?_
  cases m.lookup id <;> rfl

private theorem events_foldl_visit (es : List (String × FlowMetrics))
    (new : EntityCongestion × List CongestionEvent) :
    (es.foldl (visit entityType read prev) new).2 =
      new.2 ++ es.flatMap (entryEvents entityType read prev) := by
  induction es generalizing new with
  | nil => exact (List.append_nil _).symm
  | cons e es ih => rw [List.foldl_cons, ih, events_visit, List.flatMap_cons, List.append_assoc]

end Loop

/-! ### One tick -/

private theorem marked_newCongestionState (entity : EntityType × String) :
    newCongestionState.marked entity = false := by
  unfold CongestionState.marked CongestionState.entities
  cases entity.1 <;> rfl

/-- A tick marks an entity by what it reads of it and by its old mark, and forgets the entities
that it does not read. -/
theorem marked_detect (t : Tick) (prev : CongestionState) (entity : EntityType × String) :
    (t.detect prev).marked entity =
      ((t.reading entity).map (fun r ↦ r.isCongested (prev.marked entity))).getD false := by
  obtain ⟨entityType, id⟩ := entity
  cases entityType with
  | device =>
    exact congrArg (Option.getD · false) (lookup_congested_foldl_visit .device
      (deviceReading t.result t.cache) prev.devices.congested t.result.deviceMetrics
      t.orders.devices [] id)
  | link =>
    exact congrArg (Option.getD · false) (lookup_congested_foldl_visit .link
      (linkReading t.cache) prev.links.congested t.result.linkMetrics t.orders.links _ id)

/-! ### Hysteresis -/

/-- A reading that marks an entity whatever its old mark. -/
def Reading.Triggers (r : Reading) : Prop :=
  r.leafThrottled = some true ∨
    (r.leafThrottled = none ∧ 0 < r.capacityMbps ∧ congestionThresholdHigh ≤ r.utilization)

/-- A reading that keeps the mark of an entity. -/
def Reading.Holds (r : Reading) : Prop :=
  r.leafThrottled = none ∧ 0 < r.capacityMbps ∧ congestionThresholdLow ≤ r.utilization

private theorem thresholdLow_le_high : congestionThresholdLow ≤ congestionThresholdHigh := by
  unfold congestionThresholdLow congestionThresholdHigh
  norm_num

private theorem Reading.isCongested_iff (r : Reading) (wasCongested : Bool) :
    r.isCongested wasCongested = true ↔ r.Triggers ∨ (wasCongested = true ∧ r.Holds) := by
  unfold isCongested Triggers Holds
  cases r.leafThrottled with
  | some throttled => simp
  | none =>
    rcases lt_or_ge 0 r.capacityMbps with hpos | hle
    · have hlow := thresholdLow_le_high
      cases wasCongested with
      | false => simp [hpos]
      | true =>
        simp only [not_le.mpr hpos, if_false, if_true, hpos, true_and, Bool.not_eq_true',
          decide_eq_false_iff_not, not_lt, reduceCtorEq, false_or]
        constructor
        · exact Or.inr
        · rintro (hhigh | hlow')
          · exact hlow.trans hhigh
          · exact hlow'
    · simp [hle, not_lt.mpr hle]

/-! ### Closed form -/

/-- An entity is in the metrics and in the cache, is no leaf, and has a positive capacity and at
least a given utilization. -/
def Tick.Loaded (t : Tick) (entity : EntityType × String) (threshold : ℚ) : Prop :=
  ∃ r, t.reading entity = some r ∧ r.leafThrottled = none ∧ 0 < r.capacityMbps ∧
    threshold ≤ r.utilization

/-- A leaf is in the metrics and in the cache, and shaping throttled it. -/
def Tick.Throttled (t : Tick) (entity : EntityType × String) : Prop :=
  ∃ r, t.reading entity = some r ∧ r.leafThrottled = some true

/-- The utilization reached the high threshold at some tick, and since then the entity was in the
metrics and in the cache with a positive capacity and at least the low threshold. -/
def Sustained (ticks : Nat → Tick) (entity : EntityType × String) (n : Nat) : Prop :=
  ∃ k ≤ n, (∃ r, (ticks k).reading entity = some r ∧ congestionThresholdHigh ≤ r.utilization) ∧
    ∀ j, k ≤ j → j ≤ n → ∃ r, (ticks j).reading entity = some r ∧ 0 < r.capacityMbps ∧
      congestionThresholdLow ≤ r.utilization

/-- A tick marks an entity that it triggers, or that was marked and that it holds. -/
theorem marked_detect_iff (t : Tick) (prev : CongestionState) (entity : EntityType × String) :
    (t.detect prev).marked entity = true ↔
      (t.Loaded entity congestionThresholdHigh ∨ t.Throttled entity) ∨
        (prev.marked entity = true ∧ t.Loaded entity congestionThresholdLow) := by
  rw [marked_detect]
  unfold Tick.Loaded Tick.Throttled
  cases t.reading entity with
  | none => simp
  | some r =>
    rw [Option.map_some, Option.getD_some, Reading.isCongested_iff]
    unfold Reading.Triggers Reading.Holds
    simp only [Option.some.injEq, exists_eq_left']
    rw [or_comm (a := r.leafThrottled = some true)]

/-- An entity is marked after a tick if some tick triggered it and all later ticks held it. -/
theorem marked_history_iff (ticks : Nat → Tick) (entity : EntityType × String) (n : Nat) :
    (history ticks n).marked entity = true ↔
      ∃ k ≤ n, ((ticks k).Loaded entity congestionThresholdHigh ∨ (ticks k).Throttled entity) ∧
        ∀ j, k < j → j ≤ n → (ticks j).Loaded entity congestionThresholdLow := by
  apply latched_iff (fun n ↦ (history ticks n).marked entity = true)
    (fun k ↦ (ticks k).Loaded entity congestionThresholdHigh ∨ (ticks k).Throttled entity)
    (fun j ↦ (ticks j).Loaded entity congestionThresholdLow)
  · show ((ticks 0).detect newCongestionState).marked entity = true ↔ _
    rw [marked_detect_iff, marked_newCongestionState]
    simp
  · intro n
    exact marked_detect_iff (ticks (n + 1)) (history ticks n) entity

private theorem leafThrottled_link {t : Tick} {id : String} {r : Reading}
    (h : t.reading (.link, id) = some r) : r.leafThrottled = none := by
  obtain ⟨metrics, _, hread⟩ := Option.bind_eq_some_iff.mp h
  obtain ⟨link, _, rfl⟩ := Option.map_eq_some_iff.mp hread
  rfl

private theorem sustained_link_iff (ticks : Nat → Tick) (id : String) (n : Nat) :
    Sustained ticks (.link, id) n ↔
      ∃ k ≤ n, ((ticks k).Loaded (.link, id) congestionThresholdHigh ∨
          (ticks k).Throttled (.link, id)) ∧
        ∀ j, k < j → j ≤ n → (ticks j).Loaded (.link, id) congestionThresholdLow := by
  unfold Sustained Tick.Loaded Tick.Throttled
  constructor
  · rintro ⟨k, hk, ⟨r, hr, hhigh⟩, hheld⟩
    obtain ⟨r', hr', hpos, _⟩ := hheld k (le_refl k) hk
    rw [hr] at hr'
    cases hr'
    refine ⟨k, hk, Or.inl ⟨r, hr, leafThrottled_link hr, hpos, hhigh⟩, ?_⟩
    intro j hj hjn
    obtain ⟨s, hs, hpos, hlow⟩ := hheld j hj.le hjn
    exact ⟨s, hs, leafThrottled_link hs, hpos, hlow⟩
  · rintro ⟨k, hk, ⟨r, hr, _, hpos, hhigh⟩ | ⟨r, hr, hleaf⟩, hheld⟩
    · refine ⟨k, hk, ⟨r, hr, hhigh⟩, ?_⟩
      intro j hj hjn
      rcases Nat.eq_or_lt_of_le hj with rfl | hlt
      · exact ⟨r, hr, hpos, thresholdLow_le_high.trans hhigh⟩
      · obtain ⟨s, hs, _, hpos, hlow⟩ := hheld j hlt hjn
        exact ⟨s, hs, hpos, hlow⟩
    · rw [leafThrottled_link hr] at hleaf
      cases hleaf

/-- The marks after every tick of every run: a link is marked as long as it stays above the low
threshold after reaching the high one, a device that is no leaf likewise or after a leaf of its id
was throttled, a leaf while it is throttled, and nothing else without capacity. -/
theorem congested_closed_form (ticks : Nat → Tick) (n : Nat) :
    (∀ id r, (ticks n).reading (.link, id) = some r →
      ((history ticks n).marked (.link, id) = true ↔ Sustained ticks (.link, id) n)) ∧
    (∀ id r, (ticks n).reading (.device, id) = some r → r.leafThrottled = none →
      ((history ticks n).marked (.device, id) = true ↔
        ∃ k ≤ n, ((ticks k).Loaded (.device, id) congestionThresholdHigh ∨
            (ticks k).Throttled (.device, id)) ∧
          ∀ j, k < j → j ≤ n → (ticks j).Loaded (.device, id) congestionThresholdLow)) ∧
    (∀ id r throttled, (ticks n).reading (.device, id) = some r →
      r.leafThrottled = some throttled →
        ((history ticks n).marked (.device, id) = true ↔ throttled = true)) ∧
    ∀ entity r, (ticks n).reading entity = some r → r.capacityMbps ≤ 0 →
      r.leafThrottled ≠ some true → (history ticks n).marked entity = false := by
  have hlast : ∃ prev, history ticks n = (ticks n).detect prev := by
    cases n with
    | zero => exact ⟨newCongestionState, rfl⟩
    | succ n => exact ⟨history ticks n, rfl⟩
  obtain ⟨prev, hprev⟩ := hlast
  refine ⟨?_, ?_, ?_, ?_⟩
  · intro id r _
    rw [marked_history_iff, sustained_link_iff]
  · intro id r _ _
    exact marked_history_iff ticks (.device, id) n
  · intro id r throttled hr hleaf
    rw [hprev, marked_detect, hr, Option.map_some, Option.getD_some, Reading.isCongested, hleaf]
  · intro entity r hr hcap hleaf
    rw [hprev, marked_detect, hr, Option.map_some, Option.getD_some, Reading.isCongested]
    cases hthrottled : r.leafThrottled with
    | none => exact if_pos hcap
    | some throttled =>
      cases throttled with
      | false => rfl
      | true => exact absurd hthrottled hleaf

/-- One device with downstream traffic. -/
def deviceTick (type : DeviceType) (downBps : ℚ) (throttled : Bool) : Tick where
  orders := ⟨.ascending, .ascending⟩
  result := {
    deviceMetrics := AList.singleton "x" ⟨0, downBps⟩
    leafShaping := AList.singleton "x" ⟨1, 1 / 2, throttled⟩
    shapingEnabled := true
    leavesCount := 1 }
  cache := { deviceByID := AList.singleton "x" { id := "x", type := type } }

/-- A throttled ONT is replaced by an OLT of the same id at 86 %. -/
def reusedId : Nat → Tick
  | 0 => deviceTick .ont 100000000 true
  | _ + 1 => deviceTick .olt 8600000000 false

/-- An id that a device of another capacity takes over. -/
theorem congested_closed_form_reused_id :
    (reusedId 1).reading (.device, "x") = some ⟨10000, 86 / 100, none⟩ ∧
      ∃ k ≤ 1, ((reusedId k).Loaded (.device, "x") congestionThresholdHigh ∨
          (reusedId k).Throttled (.device, "x")) ∧
        ∀ j, k < j → j ≤ 1 → (reusedId j).Loaded (.device, "x") congestionThresholdLow := by
  have hread : (reusedId 1).reading (.device, "x") = some ⟨10000, 86 / 100, none⟩ := by
    decide +kernel
  have hmarked : (history reusedId 1).marked (.device, "x") = true := by
    decide +kernel
  exact ⟨hread, ((congested_closed_form reusedId 1).2.1 "x" _ hread rfl).mp hmarked⟩

/-- The OLT inherits the mark of the leaf and keeps it, although it never reached 90 %. -/
theorem reused_id_keeps_mark :
    (reusedId 1).reading (.device, "x") = some ⟨10000, 86 / 100, none⟩ ∧
      (history reusedId 1).marked (.device, "x") = true ∧
        ¬ Sustained reusedId (.device, "x") 1 := by
  have hfirst : (reusedId 0).reading (.device, "x") = some ⟨1000, 1 / 10, some true⟩ := by
    decide +kernel
  have hsecond : (reusedId 1).reading (.device, "x") = some ⟨10000, 86 / 100, none⟩ := by
    decide +kernel
  refine ⟨hsecond, by decide +kernel, ?_⟩
  rintro ⟨k, hk, ⟨r, hr, hhigh⟩, _⟩
  unfold congestionThresholdHigh at hhigh
  rcases Nat.le_one_iff_eq_zero_or_eq_one.mp hk with rfl | rfl
  · rw [hfirst] at hr
    cases hr
    norm_num at hhigh
  · rw [hsecond] at hr
    cases hr
    norm_num at hhigh

/-! ### Events -/

/-- What an event tells of its entity. -/
def CongestionEvent.change (e : CongestionEvent) : Change (EntityType × String) :=
  ⟨(e.entityType, e.entityID), e.newState⟩

/-- The entities that `GetCongestedEntities` returns. -/
def CongestionState.reported (cs : CongestionState) (o : DetectionOrders) :
    Finset (EntityType × String) :=
  ((cs.getCongestedEntities o).1.map (fun id ↦ (EntityType.device, id)) ++
    (cs.getCongestedEntities o).2.map (fun id ↦ (EntityType.link, id))).toFinset

private theorem mem_congestedIds {o : RangeOrder String} {congested : GoMap String Bool}
    {id : String} :
    id ∈ congestedIds o congested ↔ flag congested id = true := by
  have hids : id ∈ congestedIds o congested ↔ (id, true) ∈ congested.range o := by
    simp [congestedIds]
  rw [hids, GoMap.mem_range, flag]
  cases congested.lookup id <;> simp

private theorem mem_reported {cs : CongestionState} {o : DetectionOrders}
    {entity : EntityType × String} :
    entity ∈ cs.reported o ↔ cs.marked entity = true := by
  obtain ⟨entityType, id⟩ := entity
  unfold CongestionState.reported CongestionState.getCongestedEntities
  cases entityType with
  | device =>
    show _ ↔ flag cs.devices.congested id = true
    simpa using mem_congestedIds
  | link =>
    show _ ↔ flag cs.links.congested id = true
    simpa using mem_congestedIds

section Log

variable {entityType : EntityType} {read : String → FlowMetrics → Option Reading}
  {prev : GoMap String Bool}

private theorem key_of_mem_entryEvents {e : String × FlowMetrics} {c : Change (EntityType × String)}
    (hc : c ∈ (entryEvents entityType read prev e).map CongestionEvent.change) :
    c.key = (entityType, e.1) := by
  obtain ⟨event, hevent, rfl⟩ := List.mem_map.mp hc
  unfold entryEvents at hevent
  cases hread : read e.1 e.2 with
  | none =>
    rw [hread] at hevent
    cases hevent
  | some r =>
    rw [hread, Option.map_some, Option.getD_some, transition] at hevent
    split at hevent
    · rw [List.mem_singleton.mp hevent]
      rfl
    · cases hevent

/-- One loop logs nothing for entities of the other type. -/
theorem flagsOf_entryEvents_of_ne {other : EntityType} (h : entityType ≠ other)
    (es : List (String × FlowMetrics)) (id : String) :
    flagsOf ((es.flatMap (entryEvents entityType read prev)).map CongestionEvent.change)
      (other, id) = [] := by
  rw [List.map_flatMap]
  apply flagsOf_eq_nil
  intro c hc heq
  obtain ⟨e, _, hce⟩ := List.mem_flatMap.mp hc
  rw [key_of_mem_entryEvents hce, Prod.mk.injEq] at heq
  exact h heq.1

/-- One loop logs the new flag of an entity that it reads, if the flag changes. -/
theorem flagsOf_entryEvents (m : GoMap String FlowMetrics) (o : RangeOrder String) (id : String) :
    flagsOf (((m.range o).flatMap (entryEvents entityType read prev)).map CongestionEvent.change)
        (entityType, id) =
      (((m.lookup id).bind (read id)).map (fun r ↦
        if r.isCongested (flag prev id) ≠ flag prev id then [r.isCongested (flag prev id)]
        else [])).getD [] := by
  rw [List.map_flatMap]
  cases hm : m.lookup id with
  | none =>
    apply flagsOf_eq_nil
    intro c hc heq
    obtain ⟨e, he, hce⟩ := List.mem_flatMap.mp hc
    rw [key_of_mem_entryEvents hce, Prod.mk.injEq] at heq
    have hlookup : m.lookup e.1 = some e.2 := GoMap.mem_range.mp he
    rw [heq.2, hm] at hlookup
    cases hlookup
  | some metrics =>
    have hmem : (id, metrics) ∈ m.range o := GoMap.mem_range.mpr hm
    have hnodup : ((m.range o).map (fun e ↦ (entityType, e.1))).Nodup := by
      have hpair := (m.nodup_range o).map (Prod.mk_right_injective entityType)
      rwa [List.map_map] at hpair
    rw [flagsOf_flatMap hnodup (fun e _ c ↦ key_of_mem_entryEvents) hmem, Option.bind_some]
    unfold entryEvents transition
    dsimp only
    cases read id metrics with
    | none => rfl
    | some r =>
      simp only [Option.map_some, Option.getD_some]
      split
      · simp [flagsOf, CongestionEvent.change]
      · rfl

end Log

private theorem flagsOf_detect (t : Tick) (prev : CongestionState) (entity : EntityType × String) :
    flagsOf ((t.detect prev).congestionEvents.map CongestionEvent.change) entity =
      ((t.reading entity).map (fun r ↦
        if r.isCongested (prev.marked entity) ≠ prev.marked entity then
          [r.isCongested (prev.marked entity)]
        else [])).getD [] := by
  have hevents : (t.detect prev).congestionEvents =
      (t.result.deviceMetrics.range t.orders.devices).flatMap
          (entryEvents .device (deviceReading t.result t.cache) prev.devices.congested) ++
        (t.result.linkMetrics.range t.orders.links).flatMap
          (entryEvents .link (linkReading t.cache) prev.links.congested) := by
    refine (events_foldl_visit _ _ _ _ _).trans ?_
    rw [events_foldl_visit, List.nil_append]
    rfl
  obtain ⟨entityType, id⟩ := entity
  rw [hevents, List.map_append, flagsOf_append]
  cases entityType with
  | device =>
    have hother : EntityType.link ≠ .device := by decide
    rw [flagsOf_entryEvents, flagsOf_entryEvents_of_ne hother, List.append_nil]
    rfl
  | link =>
    have hother : EntityType.device ≠ .link := by decide
    rw [flagsOf_entryEvents, flagsOf_entryEvents_of_ne hother, List.nil_append]
    rfl

/-- The events of a tick track the entities that it reads. -/
theorem tracks_detect (t : Tick) (prev : CongestionState) (o o' : DetectionOrders) :
    Tracks ((t.detect prev).congestionEvents.map CongestionEvent.change)
      (fun entity ↦ (t.reading entity).isSome) (prev.reported o) ((t.detect prev).reported o') := by
  constructor
  · intro entity hread
    obtain ⟨r, hr⟩ := Option.isSome_iff_exists.mp hread
    have hwas : entity ∈ prev.reported o ↔ prev.marked entity = true := mem_reported
    have his : entity ∈ (t.detect prev).reported o' ↔
        r.isCongested (prev.marked entity) = true := by
      rw [mem_reported, marked_detect, hr]
      rfl
    rw [flagsOf_detect, hr, Option.map_some, Option.getD_some]
    cases hold : prev.marked entity <;> cases hnew : r.isCongested (prev.marked entity) <;>
      simp_all
  · intro entity hread
    rw [flagsOf_detect, Option.not_isSome_iff_eq_none.mp hread]
    rfl
  · intro entity hmem
    rw [mem_reported, marked_detect] at hmem
    cases hr : t.reading entity with
    | none =>
      rw [hr] at hmem
      cases hmem
    | some r => rfl

/-- In a run, the replayed events are the congested entities after every tick if and only if every
tick finds the entities that were congested before it in its metrics and in its cache. -/
theorem events_complete_iff (ticks : Nat → Tick) (o : Nat → DetectionOrders) :
    (∀ n, replay ∅ ((emitted ticks n).map CongestionEvent.change) =
        (history ticks n).reported (o n)) ↔
      ∀ n entity, (history ticks n).marked entity = true →
        ((ticks (n + 1)).reading entity).isSome := by
  have hempty : newCongestionState.reported (o 0) = ∅ := by
    ext entity
    rw [mem_reported, marked_newCongestionState]
    simp
  have hzero := tracks_detect (ticks 0) newCongestionState (o 0) (o 0)
  rw [hempty] at hzero
  have hsucc := fun n ↦ tracks_detect (ticks (n + 1)) (history ticks n) (o n) (o (n + 1))
  have hrun := replay_upTo_iff
    (fun n ↦ (history ticks n).congestionEvents.map CongestionEvent.change)
    (fun n ↦ (history ticks n).reported (o n))
    (fun n entity ↦ ((ticks n).reading entity).isSome) hzero hsucc
  simp only [emitted, map_upTo]
  rw [hrun]
  simp only [mem_reported]

/-- A congested OLT carries no traffic in the next tick. -/
def silenced : Nat → Tick
  | 0 => deviceTick .olt 9500000000 false
  | _ + 1 => { deviceTick .olt 0 false with result := { shapingEnabled := true, leavesCount := 0 } }

/-- It is not congested any more, and no event says so. -/
theorem events_incomplete_silenced :
    (history silenced 1).reported ⟨.ascending, .ascending⟩ = ∅ ∧
      replay ∅ ((emitted silenced 1).map CongestionEvent.change) = {(.device, "x")} := by
  decide +kernel

end Unoc.Traffic
