import Mathlib.Algebra.Order.Ring.Rat
import Mathlib.Order.WithBot
import Unoc.Base.Flags
import Unoc.Traffic.Congestion

/-!
# Congestion handlers of the backend

`backend/services/traffic/v2_congestion.py`. The handlers for devices and links differ in the type
of their events only. One call compares the changes of a tick with the entities that were
congested, and publishes an event for every entity that enters or leaves, also for one that
vanishes from the changes.
-/

namespace Unoc.Traffic

open Unoc.Base Unoc.Base.Flags

/-- An item of a tick's change list; a utilization of `inf` stands for no capacity. -/
structure MetricChange where
  id : String
  bps : ℚ
  utilization : Option (WithTop ℚ) := none
  deriving DecidableEq

/-- `item.get("utilization", 0.0)`. -/
def MetricChange.util (item : MetricChange) : WithTop ℚ := item.utilization.getD 0

/-- `capacity_bps`; `v2_congestion.py:18,44,74,100`. -/
def MetricChange.capacityBps (item : MetricChange) : ℚ :=
  match item.util with
  | none => 0
  | some u => if 0 < u then item.bps / u else item.bps

/-- `overload_pct`; `v2_congestion.py:25,81`. -/
def overloadPct : WithTop ℚ → WithTop ℚ
  | none => ⊤
  | some u => ((u - 1) * 100 : ℚ)

/-- The payload of an event `device.congestion.…` or `link.congestion.…`. -/
inductive CongestionPayload where
  | detected (id : String) (aggregatedBps capacityBps : ℚ) (overloadPercentage : WithTop ℚ)
      (tick : Int)
  | cleared (id : String) (aggregatedBps capacityBps : ℚ) (tick : Int)
  deriving DecidableEq

/-- A published congestion event. -/
structure CongestionNotice where
  entityType : EntityType
  payload : CongestionPayload
  deriving DecidableEq

/-- What an event tells of its entity. -/
def CongestionNotice.change (e : CongestionNotice) : Change String :=
  match e.payload with
  | .detected id _ _ _ _ => ⟨id, true⟩
  | .cleared id _ _ _ => ⟨id, false⟩

/-- What one tick gives to a handler. The order is that of the set of congested entities. -/
structure ChangeTick where
  changes : List MetricChange
  tick : Int
  order : RangeOrder String

section Handler

variable (entityType : EntityType) (detectThreshold clearThreshold : ℚ)

/-- The event of an entity that enters; `v2_congestion.py:26–37,82–93`. -/
def detectedNotice (tick : Int) (item : MetricChange) : CongestionNotice :=
  ⟨entityType, .detected item.id item.bps item.capacityBps (overloadPct item.util) tick⟩

/-- The event of an entity that leaves, with zeros for one that vanished;
`v2_congestion.py:40–58,96–114`. -/
def clearedNotice (t : ChangeTick) (id : String) : CongestionNotice :=
  match t.changes.find? (fun x ↦ x.id = id) with
  | some item => ⟨entityType, .cleared id item.bps item.capacityBps t.tick⟩
  | none => ⟨entityType, .cleared id 0 0 t.tick⟩

/-- The body of the loop over the changes; `v2_congestion.py:14–37,70–93`. -/
def handleItem (tick : Int) (prev : Finset String) (acc : Finset String × List CongestionNotice)
    (item : MetricChange) : Finset String × List CongestionNotice :=
  if item.id ∈ prev then
    if clearThreshold ≤ item.util then (insert item.id acc.1, acc.2) else acc
  else if detectThreshold ≤ item.util then
    (insert item.id acc.1, acc.2 ++ [detectedNotice entityType tick item])
  else acc

/-- Both handlers: the congested entities after a tick and the published events. -/
def handleCongestion (prev : Finset String) (t : ChangeTick) :
    Finset String × List CongestionNotice :=
  let acc := t.changes.foldl (handleItem entityType detectThreshold clearThreshold t.tick prev)
    (∅, [])
  (acc.1, acc.2 ++ ((t.order.keys prev).filter (fun id ↦ id ∉ acc.1)).map
    (clearedNotice entityType t))

end Handler

/-- `handle_device_congestion`; `v2_congestion.py:6–59`. -/
def handleDeviceCongestion : ℚ → ℚ → Finset String → ChangeTick →
    Finset String × List CongestionNotice :=
  handleCongestion .device

/-- `handle_link_congestion`; `v2_congestion.py:62–115`. -/
def handleLinkCongestion : ℚ → ℚ → Finset String → ChangeTick →
    Finset String × List CongestionNotice :=
  handleCongestion .link

/-! ### One tick -/

section Tick

variable (entityType : EntityType) (detectThreshold clearThreshold : ℚ) (prev : Finset String)

/-- An item that puts its entity among the congested ones. -/
def MetricChange.Stays (item : MetricChange) : Prop :=
  if item.id ∈ prev then clearThreshold ≤ item.util else detectThreshold ≤ item.util

/-- Whether an entity stays is checked on its item. -/
instance (item : MetricChange) : Decidable (item.Stays detectThreshold clearThreshold prev) :=
  inferInstanceAs (Decidable (ite _ _ _))

/-- The event of one item. -/
def itemNotices (tick : Int) (item : MetricChange) : List CongestionNotice :=
  if item.id ∉ prev ∧ detectThreshold ≤ item.util then [detectedNotice entityType tick item] else []

private theorem handleItem_eq (tick : Int) (acc : Finset String × List CongestionNotice)
    (item : MetricChange) :
    handleItem entityType detectThreshold clearThreshold tick prev acc item =
      (if item.Stays detectThreshold clearThreshold prev then insert item.id acc.1 else acc.1,
        acc.2 ++ itemNotices entityType detectThreshold prev tick item) := by
  unfold handleItem MetricChange.Stays itemNotices
  by_cases hprev : item.id ∈ prev
  · by_cases hclear : clearThreshold ≤ item.util <;> simp [hprev, hclear]
  · by_cases hdetect : detectThreshold ≤ item.util <;> simp [hprev, hdetect]

private theorem foldl_handleItem (tick : Int) (items : List MetricChange)
    (acc : Finset String × List CongestionNotice) :
    (items.foldl (handleItem entityType detectThreshold clearThreshold tick prev) acc).2 =
        acc.2 ++ items.flatMap (itemNotices entityType detectThreshold prev tick) ∧
      ∀ id, id ∈ (items.foldl
          (handleItem entityType detectThreshold clearThreshold tick prev) acc).1 ↔
        id ∈ acc.1 ∨ ∃ item ∈ items, item.id = id ∧
          item.Stays detectThreshold clearThreshold prev := by
  induction items generalizing acc with
  | nil => simp
  | cons item items ih =>
    rw [List.foldl_cons, handleItem_eq]
    obtain ⟨hlog, hmem⟩ := ih (if item.Stays detectThreshold clearThreshold prev
      then insert item.id acc.1 else acc.1,
        acc.2 ++ itemNotices entityType detectThreshold prev tick item)
    constructor
    · rw [hlog, List.flatMap_cons, List.append_assoc]
    · intro id
      rw [hmem, List.exists_mem_cons_iff]
      dsimp only
      split
      · next hstays =>
        rw [Finset.mem_insert, eq_comm (a := id)]
        tauto
      · next hstays => tauto

private theorem mem_handleCongestion {t : ChangeTick} {id : String} :
    id ∈ (handleCongestion entityType detectThreshold clearThreshold prev t).1 ↔
      ∃ item ∈ t.changes, item.id = id ∧ item.Stays detectThreshold clearThreshold prev := by
  refine ((foldl_handleItem entityType detectThreshold clearThreshold prev t.tick t.changes
    (∅, [])).2 id).trans ?_
  simp

private theorem notices_handleCongestion (t : ChangeTick) :
    (handleCongestion entityType detectThreshold clearThreshold prev t).2 =
      t.changes.flatMap (itemNotices entityType detectThreshold prev t.tick) ++
        ((t.order.keys prev).filter (fun id ↦
          id ∉ (handleCongestion entityType detectThreshold clearThreshold prev t).1)).map
            (clearedNotice entityType t) := by
  have hlog := (foldl_handleItem entityType detectThreshold clearThreshold prev t.tick t.changes
    (∅, [])).1
  exact congrArg (· ++ _) hlog

private theorem change_clearedNotice (t : ChangeTick) (id : String) :
    (clearedNotice entityType t id).change = ⟨id, false⟩ := by
  unfold clearedNotice
  split <;> rfl

/-- The items log the entities that enter. -/
theorem flagsOf_itemNotices {t : ChangeTick} (hnodup : (t.changes.map MetricChange.id).Nodup)
    (id : String) :
    flagsOf ((t.changes.flatMap (itemNotices entityType detectThreshold prev t.tick)).map
        CongestionNotice.change) id =
      if id ∉ prev ∧ id ∈ (handleCongestion entityType detectThreshold clearThreshold prev t).1
      then [true] else [] := by
  have hkey : ∀ item ∈ t.changes, ∀ c ∈ (itemNotices entityType detectThreshold prev t.tick
      item).map CongestionNotice.change, c.key = item.id := by
    intro item _ c hc
    obtain ⟨notice, hnotice, rfl⟩ := List.mem_map.mp hc
    unfold itemNotices at hnotice
    split at hnotice
    · rw [List.mem_singleton.mp hnotice]
      rfl
    · cases hnotice
  rw [List.map_flatMap]
  by_cases hmem : ∃ item ∈ t.changes, item.id = id
  · obtain ⟨item, hitem, rfl⟩ := hmem
    have hcurrent : item.id ∈
        (handleCongestion entityType detectThreshold clearThreshold prev t).1 ↔
          item.Stays detectThreshold clearThreshold prev := by
      rw [mem_handleCongestion]
      constructor
      · rintro ⟨x, hx, hid, hstays⟩
        rwa [← List.inj_on_of_nodup_map hnodup hx hitem hid]
      · intro hstays
        exact ⟨item, hitem, rfl, hstays⟩
    rw [flagsOf_flatMap hnodup hkey hitem]
    unfold itemNotices
    unfold MetricChange.Stays at hcurrent
    by_cases hprev : item.id ∈ prev
    · simp [hprev, flagsOf]
    · by_cases hdetect : detectThreshold ≤ item.util
      · simp [hprev, hdetect, hcurrent, flagsOf, detectedNotice, CongestionNotice.change]
      · simp [hprev, hdetect, hcurrent, flagsOf]
  · have hnone : flagsOf (t.changes.flatMap (fun item ↦ (itemNotices entityType detectThreshold prev
        t.tick item).map CongestionNotice.change)) id = [] := by
      apply flagsOf_eq_nil
      intro c hc heq
      obtain ⟨item, hitem, hci⟩ := List.mem_flatMap.mp hc
      exact hmem ⟨item, hitem, (hkey item hitem c hci).symm.trans heq⟩
    rw [hnone, if_neg]
    rintro ⟨_, hcurrent⟩
    obtain ⟨item, hitem, hid, _⟩ := (mem_handleCongestion _ _ _ _).mp hcurrent
    exact hmem ⟨item, hitem, hid⟩

/-- The loop over the old set logs the entities that leave. -/
theorem flagsOf_clearedNotices (t : ChangeTick) (current : Finset String) (id : String) :
    flagsOf ((((t.order.keys prev).filter (fun id ↦ id ∉ current)).map
        (clearedNotice entityType t)).map CongestionNotice.change) id =
      if id ∈ prev ∧ id ∉ current then [false] else [] := by
  have hlog : (((t.order.keys prev).filter (fun id ↦ id ∉ current)).map
      (clearedNotice entityType t)).map CongestionNotice.change =
        ((t.order.keys prev).filter (fun id ↦ id ∉ current)).flatMap
          (fun id ↦ [(⟨id, false⟩ : Change String)]) := by
    rw [List.map_map, List.map_eq_flatMap]
    apply List.flatMap_congr
    intro id _
    rw [Function.comp_apply, change_clearedNotice]
  have hleaves : id ∈ (t.order.keys prev).filter (fun id ↦ id ∉ current) ↔
      id ∈ prev ∧ id ∉ current := by
    rw [List.mem_filter, t.order.mem_keys, decide_eq_true_iff]
  rw [hlog]
  split
  · next hleft =>
    have hnodup : (((t.order.keys prev).filter (fun id ↦ id ∉ current)).map
        (fun id ↦ id)).Nodup := by
      rw [List.map_id']
      exact (t.order.nodup prev).filter _
    rw [flagsOf_flatMap hnodup (by simp) (hleaves.mpr hleft)]
    simp [flagsOf]
  · next hleft =>
    apply flagsOf_eq_nil
    intro c hc heq
    obtain ⟨x, hx, hcx⟩ := List.mem_flatMap.mp hc
    rw [List.mem_singleton.mp hcx] at heq
    subst heq
    exact hleft (hleaves.mp hx)

/-- A call publishes one event for every entity that enters or leaves, and no other. -/
theorem records_handleCongestion {t : ChangeTick}
    (hnodup : (t.changes.map MetricChange.id).Nodup) :
    Records ((handleCongestion entityType detectThreshold clearThreshold prev t).2.map
        CongestionNotice.change) prev
      (handleCongestion entityType detectThreshold clearThreshold prev t).1 := by
  intro id
  rw [notices_handleCongestion, List.map_append, flagsOf_append,
    flagsOf_itemNotices entityType detectThreshold clearThreshold prev hnodup,
    flagsOf_clearedNotices]
  by_cases hprev : id ∈ prev <;>
    by_cases hcurrent : id ∈
      (handleCongestion entityType detectThreshold clearThreshold prev t).1 <;>
    simp [hprev, hcurrent]

end Tick

/-! ### Runs -/

section Run

/-- The handler of an entity type. -/
def handler : EntityType → ℚ → ℚ → Finset String → ChangeTick →
    Finset String × List CongestionNotice
  | .device => handleDeviceCongestion
  | .link => handleLinkCongestion

variable (entityType : EntityType) (detectThreshold clearThreshold : ℚ) (ticks : Nat → ChangeTick)

/-- The set that a tick returns, which is the `prev` of the next; `v2_engine.py:422–438`. -/
def congestedAfter : Nat → Finset String
  | 0 => (handler entityType detectThreshold clearThreshold ∅ (ticks 0)).1
  | n + 1 => (handler entityType detectThreshold clearThreshold (congestedAfter n) (ticks (n + 1))).1

/-- The events that a tick publishes. -/
def noticesAt : Nat → List CongestionNotice
  | 0 => (handler entityType detectThreshold clearThreshold ∅ (ticks 0)).2
  | n + 1 => (handler entityType detectThreshold clearThreshold
      (congestedAfter entityType detectThreshold clearThreshold ticks n) (ticks (n + 1))).2

private theorem handler_eq : handler entityType = handleCongestion entityType := by
  cases entityType <;> rfl

/-- After a tick those entities are congested that carry at least the clear threshold, or, if they
were not congested before, at least the detect threshold. -/
theorem mem_congestedAfter_succ {n : Nat} {id : String} :
    id ∈ congestedAfter entityType detectThreshold clearThreshold ticks (n + 1) ↔
      ∃ item ∈ (ticks (n + 1)).changes, item.id = id ∧
        (if id ∈ congestedAfter entityType detectThreshold clearThreshold ticks n
          then clearThreshold else detectThreshold) ≤ item.util := by
  rw [congestedAfter, handler_eq, mem_handleCongestion]
  apply exists_congr
  intro item
  unfold MetricChange.Stays
  constructor
  · rintro ⟨hitem, rfl, hstays⟩
    split at hstays <;> simp_all
  · rintro ⟨hitem, rfl, hstays⟩
    split at hstays <;> simp_all

/-- In a tick an entity is detected exactly if it was not congested and reaches the detect threshold,
and cleared exactly if it was congested and is below the clear threshold or not listed. -/
theorem flagsOf_noticesAt_succ {n : Nat}
    (hnodup : ((ticks (n + 1)).changes.map MetricChange.id).Nodup) (id : String) :
    (flagsOf ((noticesAt entityType detectThreshold clearThreshold ticks (n + 1)).map
        CongestionNotice.change) id = [true] ↔
      id ∉ congestedAfter entityType detectThreshold clearThreshold ticks n ∧
        ∃ item ∈ (ticks (n + 1)).changes, item.id = id ∧ detectThreshold ≤ item.util) ∧
    (flagsOf ((noticesAt entityType detectThreshold clearThreshold ticks (n + 1)).map
        CongestionNotice.change) id = [false] ↔
      id ∈ congestedAfter entityType detectThreshold clearThreshold ticks n ∧
        ∀ item ∈ (ticks (n + 1)).changes, item.id = id → item.util < clearThreshold) := by
  have hrecords := records_handleCongestion entityType detectThreshold clearThreshold
    (congestedAfter entityType detectThreshold clearThreshold ticks n) hnodup id
  have hmem := @mem_congestedAfter_succ entityType detectThreshold clearThreshold ticks n id
  rw [congestedAfter, handler_eq] at hmem
  rw [noticesAt, handler_eq, hrecords]
  by_cases hprev : id ∈ congestedAfter entityType detectThreshold clearThreshold ticks n
  · rw [if_pos hprev] at hmem
    simp only [hprev, hmem]
    split
    · next hstays => simp_all
    · next hstays => simp_all
  · rw [if_neg hprev] at hmem
    simp only [hprev, hmem]
    split <;> simp_all

/-- After every tick of a run with distinct ids in each change list, the replayed events are the
congested entities, the events of an entity alternate from a detection on, and a congested entity
that vanishes is cleared once. -/
theorem congestion_events_complete
    (hnodup : ∀ n, ((ticks n).changes.map MetricChange.id).Nodup) (n : Nat) :
    replay ∅ ((upTo (noticesAt entityType detectThreshold clearThreshold ticks) n).map
        CongestionNotice.change) = congestedAfter entityType detectThreshold clearThreshold ticks n ∧
    (∀ id, ∃ next, Alternates true
      (flagsOf ((upTo (noticesAt entityType detectThreshold clearThreshold ticks) n).map
        CongestionNotice.change) id) next) ∧
    ∀ id ∈ congestedAfter entityType detectThreshold clearThreshold ticks n,
      id ∉ (ticks (n + 1)).changes.map MetricChange.id →
        flagsOf ((noticesAt entityType detectThreshold clearThreshold ticks (n + 1)).map
          CongestionNotice.change) id = [false] := by
  have hrecords : ∀ prev t, (t.changes.map MetricChange.id).Nodup →
      Records ((handler entityType detectThreshold clearThreshold prev t).2.map
          CongestionNotice.change) prev
        (handler entityType detectThreshold clearThreshold prev t).1 := by
    intro prev t ht
    rw [handler_eq]
    exact records_handleCongestion entityType detectThreshold clearThreshold prev ht
  have hzero := hrecords ∅ (ticks 0) (hnodup 0)
  have hsucc := fun n ↦ hrecords (congestedAfter entityType detectThreshold clearThreshold ticks n)
    (ticks (n + 1)) (hnodup (n + 1))
  rw [map_upTo]
  refine ⟨replay_upTo hzero hsucc n, ?_, ?_⟩
  · intro id
    exact ⟨_, alternates_upTo hzero hsucc n id⟩
  · intro id hid hgone
    have hleft : id ∉ (handler entityType detectThreshold clearThreshold
        (congestedAfter entityType detectThreshold clearThreshold ticks n) (ticks (n + 1))).1 := by
      intro hmem
      rw [handler_eq, mem_handleCongestion] at hmem
      obtain ⟨item, hitem, rfl, _⟩ := hmem
      exact hgone (List.mem_map_of_mem hitem)
    refine (hsucc n id).trans ?_
    simp [hid, hleft]

/-- A link at its capacity that carries nothing in the next tick. -/
def vanishingLink : Nat → ChangeTick
  | 0 => ⟨[{ id := "l", bps := 1000, utilization := some (1 : ℚ) }], 0, .ascending⟩
  | n + 1 => ⟨[], n + 1, .ascending⟩

/-- A device at its capacity, between the thresholds and below them. -/
def coolingDevice : Nat → ChangeTick
  | 0 => ⟨[{ id := "d", bps := 1000, utilization := some (1 : ℚ) }], 0, .ascending⟩
  | 1 => ⟨[{ id := "d", bps := 970, utilization := some (97 / 100 : ℚ) }], 1, .ascending⟩
  | n + 2 => ⟨[{ id := "d", bps := 900, utilization := some (9 / 10 : ℚ) }], n + 2, .ascending⟩

/-- A link that vanishes is cleared, and a device that cools down is cleared below the second
threshold. -/
theorem congestion_events_complete_vanishing_link :
    congestedAfter .link 1 (95 / 100) vanishingLink 0 = {"l"} ∧
      flagsOf ((noticesAt .link 1 (95 / 100) vanishingLink 1).map CongestionNotice.change) "l" =
        [false] ∧
      replay ∅ ((upTo (noticesAt .device 1 (95 / 100) coolingDevice) 1).map
        CongestionNotice.change) = {"d"} ∧
      replay ∅ ((upTo (noticesAt .device 1 (95 / 100) coolingDevice) 2).map
        CongestionNotice.change) = ∅ := by
  have hnodup : ∀ n, ((vanishingLink n).changes.map MetricChange.id).Nodup := by
    intro n
    cases n with
    | zero => exact List.nodup_singleton "l"
    | succ n => exact List.nodup_nil
  have hnodup' : ∀ n, ((coolingDevice n).changes.map MetricChange.id).Nodup := by
    intro n
    match n with
    | 0 => exact List.nodup_singleton "d"
    | 1 => exact List.nodup_singleton "d"
    | n + 2 => exact List.nodup_singleton "d"
  have hcongested : congestedAfter .link 1 (95 / 100) vanishingLink 0 = {"l"} := by
    decide +kernel
  refine ⟨hcongested, ?_, ?_, ?_⟩
  · apply (congestion_events_complete .link 1 (95 / 100) vanishingLink hnodup 0).2.2
    · rw [hcongested]
      exact Finset.mem_singleton_self "l"
    · exact List.not_mem_nil
  · rw [(congestion_events_complete .device 1 (95 / 100) coolingDevice hnodup' 1).1]
    decide +kernel
  · rw [(congestion_events_complete .device 1 (95 / 100) coolingDevice hnodup' 2).1]
    decide +kernel

end Run

end Unoc.Traffic
