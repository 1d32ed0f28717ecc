import Unoc.Model.Database
import Unoc.Realtime.RunnerEvents

/-!
# Metric events of the Python engine

`run_tick` of `backend/services/traffic/v2_engine.py` publishes the active devices and, through
`emit_zero_metrics` of `backend/services/traffic/v2_phases.py`, the devices that became inactive in
two events. The outbox keeps one of them if both are pending. The client misses nothing in runs
where each event lists the devices of the pending event that it replaces.
-/

namespace Unoc.Realtime

open Unoc.Base

variable {γ : Type}

/-! ### The engine -/

/-- An entry of `device_changes`; `v2_aggregation.py:50–60`. -/
structure DeviceChange where
  id : String
  bps : Float
  utilization : Float
  upstreamBps : Float
  downstreamBps : Float
  deriving DecidableEq

/-- The item that the client reads. -/
def DeviceChange.item (c : DeviceChange) : MetricItem where
  id := c.id
  bps := c.bps
  utilization := c.utilization
  fields := { upstreamBps := some c.upstreamBps, downstreamBps := some c.downstreamBps }

/-- `{item["id"] for item in device_changes}`. -/
def currentActive (changes : List DeviceChange) : List String := changes.map DeviceChange.id

/-- An entry of an inactive device; `v2_phases.py:48–56`. -/
def zeroChange (did : String) : DeviceChange := ⟨did, 0, 0, 0, 0⟩

/-- The devices of `emit_zero_metrics`; `v2_phases.py:44–56`. -/
def zeroEvents (prevActive : List String) (changes : List DeviceChange) : List DeviceChange :=
  (Model.sortedSet (prevActive.filter (· ∉ currentActive changes))).map zeroChange

/-- What one call of `run_tick` computes and publishes besides its device events. -/
structure Tick (γ : Type) where
  deviceChanges : List DeviceChange
  /-- The entries come from a dictionary by device id. -/
  nodup : (currentActive deviceChanges).Nodup
  /-- Segment and link events, before the zero entries. -/
  between : List (OtherMessage γ) := []
  /-- Zero entries of links and congestion events. -/
  rest : List (OtherMessage γ) := []

/-- The fields of the engine that its device events need. -/
structure Engine where
  tickSeq : Nat := 0
  prevActiveDevices : List String := []

/-- `events.publish` of a device event, if there is anything to publish. -/
def deviceEvent (tick : Nat) (changes : List DeviceChange) : List (Message (Payload γ)) :=
  if changes = [] then []
  else [metricsMessage { devices := changes.map DeviceChange.item, tick := some (Float.ofNat tick) }]

/-- The messages of `run_tick`; `v2_engine.py:365–410`, `v2_phases.py:57–63`. -/
def Engine.tickMessages (engine : Engine) (t : Tick γ) : List (Message (Payload γ)) :=
  deviceEvent engine.tickSeq t.deviceChanges ++ t.between.map otherMessage ++
    deviceEvent engine.tickSeq (zeroEvents engine.prevActiveDevices t.deviceChanges) ++
    t.rest.map otherMessage

/-- The engine after `run_tick`; `v2_engine.py:131–132`, `v2_phases.py:64`. -/
def Engine.runTick (engine : Engine) (t : Tick γ) : Engine where
  tickSeq := engine.tickSeq + 1
  prevActiveDevices := currentActive t.deviceChanges

/-- The messages of a sequence of ticks. -/
def Engine.published (engine : Engine) : List (Tick γ) → List (Message (Payload γ))
  | [] => []
  | t :: ticks => engine.tickMessages t ++ (engine.runTick t).published ticks

/-- The metric events among messages. -/
def metricsIn (ms : List (Message (Payload γ))) : List MetricsPayload :=
  ms.filterMap Message.metrics?

/-- An event as the engine publishes it. -/
structure Partial (p : MetricsPayload) : Prop where
  authoritative : p.authoritative = false
  nodup : (p.devices.map MetricItem.id).Nodup
  items : ∀ it ∈ p.devices, ∃ c : DeviceChange, it = c.item

private theorem nodup_zeroEvents (prevActive : List String) (changes : List DeviceChange) :
    (currentActive (zeroEvents prevActive changes)).Nodup := by
  have hid : DeviceChange.id ∘ zeroChange = id := rfl
  rw [currentActive, zeroEvents, List.map_map, hid, List.map_id]
  exact Model.nodup_sortedSet _

private theorem partial_of_mem_deviceEvent {tick : Nat} {changes : List DeviceChange}
    (hchanges : (currentActive changes).Nodup) {msg : Message (Payload γ)} {p : MetricsPayload}
    (hmsg : msg ∈ deviceEvent tick changes) (hp : msg.metrics? = some p) : Partial p := by
  unfold deviceEvent at hmsg
  split at hmsg
  · cases hmsg
  · obtain rfl := List.mem_singleton.mp hmsg
    obtain rfl := Option.some.inj hp
    refine ⟨rfl, ?_, ?_⟩
    · rw [List.map_map]
      exact hchanges
    · intro it hit
      obtain ⟨c, _, rfl⟩ := List.mem_map.mp hit
      exact ⟨c, rfl⟩

private theorem metrics?_otherMessage (msg : OtherMessage γ) :
    (otherMessage msg).metrics? = none := by
  have htype : (otherMessage msg).type ≠ "deviceMetricsUpdated" := msg.2
  rw [Message.metrics?, if_neg htype]

/-- Every metric event of the engine lists distinct devices, without versions. -/
theorem partial_of_mem_published {engine : Engine} {ticks : List (Tick γ)} {p : MetricsPayload}
    (h : p ∈ metricsIn (engine.published ticks)) : Partial p := by
  induction ticks generalizing engine with
  | nil => cases h
  | cons t ticks ih =>
    obtain ⟨msg, hmsg, hp⟩ := List.mem_filterMap.mp h
    rcases List.mem_append.mp hmsg with hmsg | hmsg
    · simp only [Engine.tickMessages, List.mem_append, List.mem_map] at hmsg
      rcases hmsg with ((hmsg | ⟨other, _, rfl⟩) | hmsg) | ⟨other, _, rfl⟩
      · exact partial_of_mem_deviceEvent t.nodup hmsg hp
      · rw [metrics?_otherMessage] at hp
        cases hp
      · exact partial_of_mem_deviceEvent (nodup_zeroEvents _ _) hmsg hp
      · rw [metrics?_otherMessage] at hp
        cases hp
    · exact ih (List.mem_filterMap.mpr ⟨msg, hmsg, hp⟩)

/-! ### One device in the store -/

/-- The store can have a property of an id: the name is not empty, and not inherited. -/
def Usable (id : String) (cell : Option DeviceMetric) : Prop :=
  id ≠ "" ∧ (cell = none → id ∉ objectPrototypeKeys)

/-- Whether a cell is usable is checked on its value. -/
instance (id : String) (cell : Option DeviceMetric) : Decidable (Usable id cell) :=
  inferInstanceAs (Decidable (_ ∧ _))

/-- The metric after an item without version. -/
def take (cell : Option DeviceMetric) (it : MetricItem) : DeviceMetric :=
  match cell with
  | none => it.over (0 + 1) {}
  | some cur =>
    if cur.version + 1 > cur.version then it.over (cur.version + 1) cur.fields else cur

/-- A store whose prototype is `Object.prototype`. -/
def Plain (store : MetricsStore) : Prop := store.byId.proto = none

private theorem Plain.read {store : MetricsStore} (h : Plain store) {id : String}
    (hown : store.byId.own.lookup id = none) :
    store.byId.read id = if id ∈ objectPrototypeKeys then .other else .falsy := by
  unfold ById.read
  rw [hown, h]

private theorem Plain.stored {store : MetricsStore} (h : Plain store) {it : MetricItem}
    (hversion : it.version = none) :
    (stored store.byId it).or (store.byId.own.lookup it.id) =
      if Usable it.id (store.byId.own.lookup it.id) then
        some (take (store.byId.own.lookup it.id) it)
      else store.byId.own.lookup it.id := by
  unfold Realtime.stored Usable
  by_cases hempty : it.id = ""
  · simp [hempty]
  by_cases hproto : it.id = "__proto__"
  · have hown : store.byId.own.lookup it.id = none := hproto ▸ store.byId.own_proto
    have hkey : "__proto__" ∈ objectPrototypeKeys := by decide
    simp [hown, hproto, hkey]
  rw [if_neg (not_or.mpr ⟨hempty, hproto⟩)]
  cases hown : store.byId.own.lookup it.id with
  | none =>
    have hread := h.read hown
    by_cases hkey : it.id ∈ objectPrototypeKeys
    · simp [incoming, hread, hkey]
    · simp [incoming, hread, hkey, hempty, hversion, take]
  | some cur =>
    have hread := read_of_own_some hown
    simp only [incoming, hread, hversion, Option.getD_none, take, ne_eq, hempty,
      not_false_eq_true, true_and, reduceCtorEq, false_implies, if_true]
    by_cases hgrows : cur.version + 1 > cur.version <;> simp [hgrows]

/-- Nothing is ever assigned to `__proto__`. -/
theorem Plain.deviceMetricsUpdated {store : MetricsStore} (h : Plain store) (p : MetricsPayload)
    (hp : Partial p) : Plain (store.deviceMetricsUpdated p) := by
  have hitem : ∀ (next : Option ById) (it : MetricItem), (next.getD store.byId.spread).proto = none →
      ((applyItem store.byId next it).getD store.byId.spread).proto = none := by
    intro next it hnext
    unfold applyItem
    by_cases hproto : it.id = "__proto__"
    · have hread := h.read (hproto ▸ store.byId.own_proto)
      have hkey : it.id ∈ objectPrototypeKeys := by simp [hproto, objectPrototypeKeys]
      simpa [incoming, hread, hkey] using hnext
    · split
      · exact hnext
      · cases incoming store.byId it <;> simpa [ById.assign, hproto] using hnext
  have hitems : ∀ (items : List MetricItem) (next : Option ById),
      (next.getD store.byId.spread).proto = none →
        ((items.foldl (applyItem store.byId) next).getD store.byId.spread).proto = none := by
    intro items
    induction items with
    | nil => exact fun _ hnext ↦ hnext
    | cons it items ih => exact fun next hnext ↦ ih _ (hitem next it hnext)
  have hnext := hitems p.devices none rfl
  unfold Plain
  simp only [MetricsStore.deviceMetricsUpdated, hp.authoritative, Bool.false_eq_true, if_false]
  cases hfold : p.devices.foldl (applyItem store.byId) none with
  | none => exact h
  | some next => simpa [hfold] using hnext

/-- The items of a device, event by event. -/
def itemsOf (id : String) (events : List MetricsPayload) : List MetricItem :=
  events.filterMap (fun p ↦ p.devices.find? (fun it ↦ it.id = id))

private theorem itemsOf_cons_of_none {id : String} {p : MetricsPayload}
    {events : List MetricsPayload}
    (h : p.devices.find? (fun it ↦ it.id = id) = none) :
    itemsOf id (p :: events) = itemsOf id events := List.filterMap_cons_none h

private theorem itemsOf_cons_of_some {id : String} {p : MetricsPayload}
    {events : List MetricsPayload}
    {it : MetricItem} (h : p.devices.find? (fun it ↦ it.id = id) = some it) :
    itemsOf id (p :: events) = it :: itemsOf id events := List.filterMap_cons_some h

/-- Each device of the store sees its own items only. -/
theorem Plain.lookup_applyAll {store : MetricsStore} (h : Plain store) {events : List MetricsPayload}
    (hevents : ∀ p ∈ events, Partial p) (id : String) :
    (store.applyAll events).byId.own.lookup id =
      if Usable id (store.byId.own.lookup id) then
        (itemsOf id events).foldl (fun cell it ↦ some (take cell it)) (store.byId.own.lookup id)
      else store.byId.own.lookup id := by
  induction events generalizing store with
  | nil => simp [MetricsStore.applyAll, itemsOf]
  | cons p events ih =>
    have hp := hevents p List.mem_cons_self
    have hrest := ih (h.deviceMetricsUpdated p hp) (fun q hq ↦ hevents q (List.mem_cons_of_mem _ hq))
    have hone := lookup_deviceMetricsUpdated store p hp.nodup id
    rw [hp.authoritative, if_neg (by simp)] at hone
    rw [MetricsStore.applyAll] at hrest ⊢
    rw [List.foldl_cons, hrest, hone]
    cases hfind : p.devices.find? (fun it ↦ decide (it.id = id)) with
    | none => rw [itemsOf_cons_of_none hfind, Option.bind_none, Option.none_or]
    | some it =>
      rw [itemsOf_cons_of_some hfind]
      obtain rfl : it.id = id := by simpa using List.find?_some hfind
      obtain ⟨c, rfl⟩ := hp.items it (List.mem_of_find?_eq_some hfind)
      rw [Option.bind_some, h.stored rfl]
      by_cases husable : Usable c.item.id (store.byId.own.lookup c.item.id)
      · have hnext : Usable c.item.id (some (take (store.byId.own.lookup c.item.id) c.item)) :=
          ⟨husable.1, fun hnone ↦ by cases hnone⟩
        rw [if_pos husable, if_pos hnext, if_pos husable]
        rfl
      · rw [if_neg husable, if_neg husable, if_neg husable]

/-! ### The value of a device -/

/-- A metric without its version. -/
def DeviceMetric.value (m : DeviceMetric) : Float × Float × OptionalFields :=
  (m.bps, m.utilization, m.fields)

/-- The version after one more item. -/
def nextVersion (version : Option Float) : Option Float :=
  some (match version with
    | none => 0 + 1
    | some v => v + 1)

/-- The versions of a device grow over so many items. -/
def VersionsGrow (version : Option Float) (n : Nat) : Prop :=
  ∀ k < n, ∀ v, nextVersion^[k] version = some v → v + 1 > v

private theorem VersionsGrow.mono {version : Option Float} {m n : Nat} (h : VersionsGrow version n)
    (hmn : m ≤ n) : VersionsGrow version m :=
  fun k hk ↦ h k (Nat.lt_of_lt_of_le hk hmn)

/-- The optional fields of a device, all missing without a metric. -/
def fieldsOf (cell : Option DeviceMetric) : OptionalFields := (cell.map DeviceMetric.fields).getD {}

private theorem take_of_grows {cell : Option DeviceMetric}
    (h : ∀ v, cell.map DeviceMetric.version = some v → v + 1 > v) (it : MetricItem) :
    some (take cell it).version = nextVersion (cell.map DeviceMetric.version) ∧
      (take cell it).value = (it.bps, it.utilization, it.fields.orElse (fieldsOf cell)) := by
  cases cell with
  | none => exact ⟨rfl, rfl⟩
  | some cur =>
    rw [take, if_pos (h cur.version rfl)]
    exact ⟨rfl, rfl⟩

/-- An item of the engine overwrites the fields that an earlier one set. -/
theorem orElse_orElse (c c' : DeviceChange) (fields : OptionalFields) :
    c.item.fields.orElse (c'.item.fields.orElse fields) = c.item.fields.orElse fields := by
  simp [OptionalFields.orElse, DeviceChange.item]

/-- As long as versions grow, the last item decides. -/
theorem value_foldl_take {items : List MetricItem} (hitems : ∀ it ∈ items, ∃ c, it = DeviceChange.item c)
    {cell : Option DeviceMetric}
    (h : VersionsGrow (cell.map DeviceMetric.version) items.length) :
    (items.foldl (fun cell it ↦ some (take cell it)) cell).map DeviceMetric.value =
      match items.getLast? with
      | none => cell.map DeviceMetric.value
      | some it => some (it.bps, it.utilization, it.fields.orElse (fieldsOf cell)) := by
  induction items generalizing cell with
  | nil => rfl
  | cons it items ih =>
    obtain ⟨hversion, hvalue⟩ := take_of_grows (h 0 (Nat.succ_pos _)) it
    have hgrows : VersionsGrow ((some (take cell it)).map DeviceMetric.version) items.length := by
      intro k hk v hv
      refine h (k + 1) (Nat.succ_lt_succ hk) v ?_
      rw [Function.iterate_succ_apply, ← hversion]
      exact hv
    rw [List.foldl_cons, ih (fun x hx ↦ hitems x (List.mem_cons_of_mem _ hx)) hgrows]
    cases hlast : items.getLast? with
    | none =>
      obtain rfl := List.getLast?_eq_none_iff.mp hlast
      simpa using hvalue
    | some last =>
      have hfields : (take cell it).fields = it.fields.orElse (fieldsOf cell) :=
        congrArg (fun x ↦ x.2.2) hvalue
      obtain ⟨c, rfl⟩ := hitems it List.mem_cons_self
      obtain ⟨c', rfl⟩ := hitems last (List.mem_cons_of_mem _ (List.mem_of_getLast? hlast))
      rw [List.getLast?_cons, hlast]
      simp [fieldsOf, hfields, orElse_orElse]

/-! ### Coalescing -/

open BoundedCoalescingQueue History

private theorem coalesceKey_of_metrics? {msg : Message (Payload γ)} {p : MetricsPayload}
    (h : msg.metrics? = some p) : coalesceKey msg = some "metrics:device" := by
  have htype : msg.type = "deviceMetricsUpdated" := by
    by_contra hne
    rw [Message.metrics?, if_neg hne] at h
    cases h
  simp [coalesceKey, htype]

private theorem metricsOf_append (ms ms' : List (Nat × Message (Payload γ))) :
    metricsOf (ms ++ ms') = metricsOf ms ++ metricsOf ms' := List.filterMap_append

private theorem metricsOf_cons (m : Nat × Message (Payload γ))
    (ms : List (Nat × Message (Payload γ))) :
    metricsOf (m :: ms) = m.2.metrics?.toList ++ metricsOf ms := by
  rw [metricsOf, List.filterMap_cons]
  cases m.2.metrics? <;> rfl

private theorem metricsOf_eq_nil {ms : List (Nat × Message (Payload γ))}
    (h : ∀ m ∈ ms, keyOf m ≠ some "metrics:device") : metricsOf ms = [] := by
  rw [metricsOf, List.filterMap_eq_nil_iff]
  intro m hm
  by_contra hne
  obtain ⟨p, hp⟩ := Option.ne_none_iff_exists'.mp hne
  exact h m hm (coalesceKey_of_metrics? hp)

/-- Metric events are the messages of their key. -/
theorem metricsOf_ofKey (ms : List (Nat × Message (Payload γ))) :
    metricsOf (ofKey keyOf (some "metrics:device") ms) = metricsOf ms := by
  induction ms with
  | nil => rfl
  | cons m ms ih =>
    by_cases hkey : keyOf m = some "metrics:device"
    · rw [ofKey_cons_self keyOf hkey, metricsOf_cons, metricsOf_cons, ih]
    · have hnone : metricsOf [m] = [] :=
        metricsOf_eq_nil (fun x hx ↦ List.mem_singleton.mp hx ▸ hkey)
      rw [ofKey_cons_of_ne keyOf hkey, ih, ← List.singleton_append, metricsOf_append, hnone,
        List.nil_append]

/-- The last entry of a device. -/
def lastItem (id : String) (events : List MetricsPayload) : Option MetricItem :=
  (itemsOf id events).getLast?

private theorem lastItem_concat (id : String) (events : List MetricsPayload) (p : MetricsPayload) :
    lastItem id (events ++ [p]) =
      (p.devices.find? (fun it ↦ it.id = id)).or (lastItem id events) := by
  have happend : itemsOf id (events ++ [p]) =
      itemsOf id events ++ (p.devices.find? (fun it ↦ it.id = id)).toList := by
    rw [itemsOf, List.filterMap_append, List.filterMap_cons]
    cases p.devices.find? (fun it ↦ decide (it.id = id)) <;> rfl
  rw [lastItem, happend]
  cases p.devices.find? (fun it ↦ decide (it.id = id)) with
  | none => simp [lastItem]
  | some it => simp

/-- An event that lists the devices of another one may stand in its place. -/
theorem lastItem_concat_of_covers (id : String) (events : List MetricsPayload)
    {p q : MetricsPayload} (h : ∀ it ∈ q.devices, ∃ it' ∈ p.devices, it'.id = it.id) :
    lastItem id (events ++ [p]) =
      (p.devices.find? (fun it ↦ it.id = id)).or (lastItem id (events ++ [q])) := by
  rw [lastItem_concat, lastItem_concat]
  cases hfind : p.devices.find? (fun it ↦ decide (it.id = id)) with
  | some it => rfl
  | none =>
    have hqfind : q.devices.find? (fun it ↦ decide (it.id = id)) = none := by
      rw [List.find?_eq_none] at hfind ⊢
      intro it hit hid
      obtain ⟨it', hit', hid'⟩ := h it hit
      exact hfind it' hit' (by simpa [hid'] using hid)
    rw [hqfind]
    rfl

/-- A put of a metric event lists the devices of the event that it finds pending. -/
def CoversPending (maxsize : Int) (ops : List (Op (Payload γ))) : Prop :=
  ∀ pre msg post, ops = pre ++ .put msg :: post → ∀ p, msg.metrics? = some p →
    ∀ q ∈ metricsOf (run maxsize pre).queue.dq, ∀ it ∈ q.devices, ∃ it' ∈ p.devices, it'.id = it.id

/-- No message is dropped as the oldest one. -/
def NoOverflow (maxsize : Int) (ops : List (Op (Payload γ))) : Prop :=
  ∀ m, ¬ Evicted maxsize ops m

/-- Only metric events have their key. -/
def WellTyped (ops : List (Op (Payload γ))) : Prop :=
  ∀ msg ∈ ops.filterMap Op.msg?, coalesceKey msg = some "metrics:device" →
    ∃ p, msg.metrics? = some p

private theorem CoversPending.of_concat {maxsize : Int} {ops : List (Op (Payload γ))}
    {op : Op (Payload γ)}
    (h : CoversPending maxsize (ops ++ [op])) : CoversPending maxsize ops := by
  rintro pre msg post rfl
  exact h pre msg (post ++ [op]) (by simp)

private theorem NoOverflow.of_concat {maxsize : Int} {ops : List (Op (Payload γ))}
    {op : Op (Payload γ)}
    (h : NoOverflow maxsize (ops ++ [op])) : NoOverflow maxsize ops :=
  fun m hm ↦ h m (hm.mono op)

private theorem WellTyped.of_concat {ops : List (Op (Payload γ))} {op : Op (Payload γ)}
    (h : WellTyped (ops ++ [op])) : WellTyped ops := by
  intro msg hmsg
  refine h msg ?_
  rw [List.filterMap_append]
  exact List.mem_append_left _ hmsg

/-- Without overflow a put appends its message or replaces one of its key. -/
theorem NoOverflow.put_cases {maxsize : Int} {ops : List (Op (Payload γ))}
    {msg : Message (Payload γ)} (h : NoOverflow maxsize (ops ++ [.put msg])) :
    (run maxsize (ops ++ [.put msg])).queue.dq =
        (run maxsize ops).queue.dq ++ [((run maxsize ops).puts.length, msg)] ∨
      ∃ pre old post k, (run maxsize ops).queue.dq = pre ++ old :: post ∧ coalesceKey msg = some k ∧
        keyOf old = some k ∧ (∀ m ∈ post, keyOf m ≠ some k) ∧
        (run maxsize (ops ++ [.put msg])).queue.dq =
          pre ++ ((run maxsize ops).puts.length, msg) :: post := by
  have hinv := inv_run maxsize ops
  have hstep := putDq_step keyOf (run maxsize ops).queue.maxsize (run maxsize ops).queue.dq
    ((run maxsize ops).puts.length, msg)
  have hdq : (run maxsize (ops ++ [.put msg])).queue.dq = putDq keyOf (run maxsize ops).queue.maxsize
      (run maxsize ops).queue.dq ((run maxsize ops).puts.length, msg) := by
    rw [run_concat]
    rfl
  generalize hdq' : putDq keyOf (run maxsize ops).queue.maxsize (run maxsize ops).queue.dq
    ((run maxsize ops).puts.length, msg) = dq' at hstep hdq
  cases hstep with
  | append _ _ => exact Or.inl hdq
  | replace pre old post k hold hmsg hkey hpost =>
    exact Or.inr ⟨pre, old, post, k, hold, hmsg, hkey, hpost, hdq⟩
  | evict hfull _ =>
    have hpos : 1 ≤ (run maxsize ops).queue.maxsize := by
      rw [hinv.maxsize_eq]
      omega
    cases hhead : (run maxsize ops).queue.dq with
    | nil =>
      rw [hhead, List.length_nil] at hfull
      omega
    | cons first rest =>
      refine absurd ⟨ops, msg, [], rfl, Nat.le_antisymm hinv.bounded hfull, ?_, hdq'⟩ (h first)
      rw [hhead]
      rfl

/-- A message that is no metric event replaces none. -/
theorem metrics?_of_replaced {msg old : Message (Payload γ)} {k : String}
    (htyped : coalesceKey msg = some "metrics:device" → ∃ p, msg.metrics? = some p)
    (hkey : coalesceKey msg = some k) (hold : coalesceKey old = some k)
    (hmsg : msg.metrics? = none) : old.metrics? = none := by
  by_contra hsome
  obtain ⟨q, hq⟩ := Option.ne_none_iff_exists'.mp hsome
  rw [coalesceKey_of_metrics? hq, ← hkey] at hold
  obtain ⟨p, hp⟩ := htyped hold.symm
  rw [hmsg] at hp
  cases hp

/-- What is delivered or pending has the last entry of each device. -/
theorem lastItem_run {maxsize : Int} {ops : List (Op (Payload γ))} (hcover : CoversPending maxsize ops)
    (hover : NoOverflow maxsize ops) (htyped : WellTyped ops) (id : String) :
    lastItem id (metricsOf ((run maxsize ops).delivered ++ (run maxsize ops).queue.dq)) =
      lastItem id (metricsOf (run maxsize ops).puts) := by
  induction ops using List.reverseRecOn with
  | nil => rfl
  | append_singleton ops op ih =>
    have ih := ih hcover.of_concat hover.of_concat htyped.of_concat
    cases op with
    | get =>
      rw [run_concat, delivered_append_queue_get]
      exact ih
    | put msg =>
      have hputs : metricsOf (run maxsize (ops ++ [.put msg])).puts =
          metricsOf (run maxsize ops).puts ++ msg.metrics?.toList := by
        rw [run_concat, step, metricsOf_append, metricsOf_cons]
        simp [metricsOf]
      have hdelivered : (run maxsize (ops ++ [.put msg])).delivered = (run maxsize ops).delivered := by
        rw [run_concat]
        rfl
      rw [hputs, hdelivered]
      rcases hover.put_cases with hdq | ⟨pre, old, post, k, hpending, hkey, hold, hpost, hdq⟩
      · -- appended: both sequences grow by the same event
        rw [hdq, ← List.append_assoc, metricsOf_append, metricsOf_cons]
        cases hp : msg.metrics? with
        | none => simpa [metricsOf, hp] using ih
        | some p =>
          have hnil : metricsOf ([] : List (Nat × Message (Payload γ))) = [] := rfl
          simp only [Option.toList_some, hnil, List.append_nil]
          rw [lastItem_concat, lastItem_concat, ih]
      · rw [hpending, ← List.append_assoc, metricsOf_append, metricsOf_cons] at ih
        rw [hdq, ← List.append_assoc, metricsOf_append, metricsOf_cons]
        cases hp : msg.metrics? with
        | none =>
          -- a replacement of another key leaves the metric events alone
          rw [metrics?_of_replaced (htyped msg (by simp [Op.msg?])) hkey hold hp] at ih
          simpa [hp] using ih
        | some p =>
          obtain rfl : k = "metrics:device" := by
            rw [coalesceKey_of_metrics? hp, Option.some.injEq] at hkey
            exact hkey.symm
          rw [metricsOf_eq_nil hpost, List.append_nil] at ih ⊢
          simp only [Option.toList_some]
          cases hq : old.2.metrics? with
          | none =>
            rw [hq, Option.toList_none, List.append_nil] at ih
            rw [lastItem_concat, lastItem_concat, ih]
          | some q =>
            have hmem : q ∈ metricsOf (run maxsize ops).queue.dq := by
              rw [hpending, metricsOf_append, metricsOf_cons, hq]
              simp
            rw [hq, Option.toList_some] at ih
            rw [lastItem_concat_of_covers _ _ (hcover ops msg [] rfl p hp q hmem), ih,
              ← lastItem_concat]

/-- A run with fewer operations than places does not overflow. -/
theorem noOverflow_of_length_lt {maxsize : Int} {ops : List (Op (Payload γ))}
    (h : (ops.length : Int) < maxsize) : NoOverflow maxsize ops := by
  rintro m ⟨pre, msg, post, rfl, hfull, _⟩
  have hlength := length_queue_le maxsize pre
  rw [(inv_run maxsize pre).maxsize_eq] at hfull
  rw [List.length_append, List.length_cons] at h
  omega

/-! ### Transparency -/

private theorem type_of_coalesceKey {msg : Message (Payload γ)}
    (h : coalesceKey msg = some "metrics:device") : msg.type = "deviceMetricsUpdated" := by
  have hdev : ∀ d suffix : String, "dev:" ++ d ++ suffix ≠ "metrics:device" := by
    intro d suffix heq
    have hhead := congrArg (fun s ↦ s.toList.head?) heq
    simp at hhead
  by_contra htype
  simp only [coalesceKey, htype, if_false] at h
  split at h
  · obtain ⟨d, _, hd⟩ := Option.map_eq_some_iff.mp h
    exact hdev d _ hd
  · split at h
    · obtain ⟨d, _, hd⟩ := Option.map_eq_some_iff.mp h
      exact hdev d _ hd
    · split at h
      · simp at h
      · cases h

/-- A message of the engine is a metric event, or of another type. -/
theorem metrics?_of_mem_published {engine : Engine} {ticks : List (Tick γ)}
    {msg : Message (Payload γ)} (h : msg ∈ engine.published ticks)
    (htype : msg.type = "deviceMetricsUpdated") : ∃ p, msg.metrics? = some p := by
  induction ticks generalizing engine with
  | nil => cases h
  | cons t ticks ih =>
    have hevent : ∀ tick changes, msg ∈ deviceEvent tick changes → ∃ p, msg.metrics? = some p := by
      intro tick changes hmsg
      unfold deviceEvent at hmsg
      split at hmsg
      · cases hmsg
      · obtain rfl := List.mem_singleton.mp hmsg
        exact ⟨_, rfl⟩
    rcases List.mem_append.mp h with h | h
    · simp only [Engine.tickMessages, List.mem_append, List.mem_map] at h
      rcases h with ((h | ⟨other, _, rfl⟩) | h) | ⟨other, _, rfl⟩
      · exact hevent _ _ h
      · exact absurd htype other.2
      · exact hevent _ _ h
      · exact absurd htype other.2
    · exact ih h

/-- The client's values of a device. -/
def clientValue (store : MetricsStore) (id : String) : Option (Float × Float × OptionalFields) :=
  (store.byId.own.lookup id).map DeviceMetric.value

/-- As long as versions grow, the last entry of a device decides its value. -/
theorem Plain.clientValue_applyAll {store : MetricsStore} (h : Plain store)
    {events : List MetricsPayload} (hevents : ∀ p ∈ events, Partial p) {id : String}
    (hversions : VersionsGrow ((store.byId.own.lookup id).map DeviceMetric.version)
      (itemsOf id events).length) :
    clientValue (store.applyAll events) id =
      if Usable id (store.byId.own.lookup id) then
        match lastItem id events with
        | none => clientValue store id
        | some it => some (it.bps, it.utilization,
            it.fields.orElse (fieldsOf (store.byId.own.lookup id)))
      else clientValue store id := by
  have hitems : ∀ it ∈ itemsOf id events, ∃ c, it = DeviceChange.item c := by
    intro it hit
    obtain ⟨p, hp, hfind⟩ := List.mem_filterMap.mp hit
    exact (hevents p hp).items it (List.mem_of_find?_eq_some hfind)
  unfold clientValue
  rw [h.lookup_applyAll hevents]
  split
  · rw [value_foldl_take hitems hversions]
    rfl
  · rfl

/-- Without overflow, a drained outbox leaves the client with the values of all published events, if
each event that replaces a pending one lists its devices. -/
theorem coalescing_transparent (maxsize : Int) (engine : Engine) (ticks : List (Tick γ))
    (ops : List (Op (Payload γ))) (store : MetricsStore)
    (hops : ops.filterMap Op.msg? = engine.published ticks)
    (hdrained : (run maxsize ops).queue.dq = []) (hover : NoOverflow maxsize ops)
    (hcover : CoversPending maxsize ops) (hplain : Plain store)
    (hversions : ∀ id, VersionsGrow ((store.byId.own.lookup id).map DeviceMetric.version)
      (itemsOf id (metricsIn (engine.published ticks))).length) (id : String) :
    clientValue (store.applyAll (metricsOf (run maxsize ops).delivered)) id =
      clientValue (store.applyAll (metricsIn (engine.published ticks))) id := by
  have hputs : metricsOf (run maxsize ops).puts = metricsIn (engine.published ticks) := by
    rw [← hops, ← map_snd_puts maxsize, metricsIn, List.filterMap_map]
    rfl
  have hsub : (metricsOf (run maxsize ops).delivered).Sublist (metricsIn (engine.published ticks)) := by
    have hordered := (inv_run maxsize ops).ordered (some "metrics:device")
    rw [hdrained, List.append_nil] at hordered
    rw [← hputs, ← metricsOf_ofKey (run maxsize ops).delivered, ← metricsOf_ofKey (run maxsize ops).puts]
    exact hordered.filterMap _
  have hpublished : ∀ p ∈ metricsIn (engine.published ticks), Partial p :=
    fun p hp ↦ partial_of_mem_published hp
  have htyped : WellTyped ops := by
    intro msg hmsg hkey
    rw [hops] at hmsg
    exact metrics?_of_mem_published hmsg (type_of_coalesceKey hkey)
  have hlast := lastItem_run hcover hover htyped id
  rw [hdrained, List.append_nil, hputs] at hlast
  have hfewer : (itemsOf id (metricsOf (run maxsize ops).delivered)).length ≤
      (itemsOf id (metricsIn (engine.published ticks))).length := (hsub.filterMap _).length_le
  rw [hplain.clientValue_applyAll (fun p hp ↦ hpublished p (hsub.subset hp))
    ((hversions id).mono hfewer), hplain.clientValue_applyAll hpublished (hversions id), hlast]

/-- A tick with one active device. -/
def activeDevice (did : String) : Tick Unit where
  deviceChanges := [⟨did, 5, 1, 5, 0⟩]
  nodup := List.nodup_singleton did

/-- The event of such a tick. -/
def activeEvent (tick : Nat) (did : String) : Message (Payload Unit) :=
  metricsMessage { devices := [DeviceChange.item ⟨did, 5, 1, 5, 0⟩], tick := some (Float.ofNat tick) }

/-- A device that stays active: its second event may replace the first one. -/
theorem coalescing_transparent_steady_device :
    clientValue (MetricsStore.applyAll {} (metricsOf (run 8
        [.put (activeEvent 0 "ont"), .put (activeEvent 1 "ont"), .get]).delivered)) "ont" =
      clientValue (MetricsStore.applyAll {} (metricsIn
        (Engine.published {} [activeDevice "ont", activeDevice "ont"]))) "ont" := by
  refine coalescing_transparent 8 {} [activeDevice "ont", activeDevice "ont"] _ {} rfl rfl
    (noOverflow_of_length_lt (by decide)) ?_ rfl ?_ "ont"
  · intro pre msg post hops p hp q hq it hit
    rcases pre with _ | ⟨op, _ | ⟨op', pre⟩⟩
    · cases hq
    · obtain ⟨rfl, hmsg, _⟩ : .put (activeEvent 0 "ont") = op ∧
          .put (activeEvent 1 "ont") = Op.put msg ∧ [Op.get] = post := by simpa using hops
      obtain rfl := Op.put.inj hmsg
      obtain rfl := Option.some.inj hp
      obtain rfl := List.mem_singleton.mp hq
      exact ⟨it, hit, rfl⟩
    · have hget : Op.put msg ∈ [(Op.get : Op (Payload Unit))] := by
        have hrest : [Op.get] = pre ++ Op.put msg :: post := by
          simpa using congrArg (List.drop 2) hops
        rw [hrest]
        exact List.mem_append_right _ List.mem_cons_self
      simp at hget
  · intro id k hk v hv
    have hlength : (itemsOf id (metricsIn
        (Engine.published {} [activeDevice "ont", activeDevice "ont"]))).length ≤ 2 :=
      List.length_filterMap_le _ _
    rcases k with _ | _ | k
    · cases hv
    · obtain rfl := Option.some.inj hv
      change (0 + 1 : Float) + 1 > 0 + 1
      decide
    · omega

/-- Device `ont1` becomes active as `ont0` falls silent: the zero entry of `ont0` replaces the event
that lists `ont1`. -/
theorem coalescing_loses_active_device :
    let ticks := [activeDevice "ont0", activeDevice "ont1"]
    let ops : List (Op (Payload Unit)) := [.put (activeEvent 0 "ont0"), .get,
      .put (activeEvent 1 "ont1"),
      .put (metricsMessage { devices := [(zeroChange "ont0").item], tick := some (Float.ofNat 1) }),
      .get]
    ops.filterMap Op.msg? = Engine.published {} ticks ∧ (run 1024 ops).queue.dq = [] ∧
      NoOverflow 1024 ops ∧
      clientValue (MetricsStore.applyAll {} (metricsOf (run 1024 ops).delivered)) "ont1" ≠
        clientValue (MetricsStore.applyAll {} (metricsIn (Engine.published {} ticks))) "ont1" := by
  refine ⟨rfl, rfl, noOverflow_of_length_lt (by decide), ?_⟩
  decide

end Unoc.Realtime
