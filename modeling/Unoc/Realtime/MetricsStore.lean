import Unoc.Base.Dict

/-!
# The metrics store of the client

`useMetricsStore` of `unoc-frontend-v2/src/stores/metricsStore.ts`. Numbers are binary64 floats, and
the store is a plain JavaScript object: a property that it does not have itself may be inherited from
its prototype, and an assignment to `__proto__` replaces the prototype.
-/

namespace Unoc.Realtime

open Unoc.Base

/-! ### Metrics -/

/-- The fields that an item may leave out. -/
structure OptionalFields where
  upstreamBps : Option Float := none
  downstreamBps : Option Float := none
  congested : Option Bool := none
  capacityMbps : Option Float := none
  demandUpBps : Option Float := none
  demandDownBps : Option Float := none
  scaleUp : Option Float := none
  scaleDown : Option Float := none
  throttled : Option Bool := none
  deriving DecidableEq

/-- `a ?? b` on each field; `metricsStore.ts:83–97`. -/
def OptionalFields.orElse (a b : OptionalFields) : OptionalFields where
  upstreamBps := a.upstreamBps.or b.upstreamBps
  downstreamBps := a.downstreamBps.or b.downstreamBps
  congested := a.congested.or b.congested
  capacityMbps := a.capacityMbps.or b.capacityMbps
  demandUpBps := a.demandUpBps.or b.demandUpBps
  demandDownBps := a.demandDownBps.or b.demandDownBps
  scaleUp := a.scaleUp.or b.scaleUp
  scaleDown := a.scaleDown.or b.scaleDown
  throttled := a.throttled.or b.throttled

/-- `DeviceMetric`; `metricsStore.ts:4–19`. -/
structure DeviceMetric where
  bps : Float
  utilization : Float
  version : Float
  fields : OptionalFields
  deriving DecidableEq

/-- An item of the payload; `metricsStore.ts:53–66`. -/
structure MetricItem where
  id : String
  bps : Float
  utilization : Float
  version : Option Float := none
  fields : OptionalFields := {}
  deriving DecidableEq

/-- The payload of `deviceMetricsUpdated`; `metricsStore.ts:52–69`. -/
structure MetricsPayload where
  devices : List MetricItem
  tick : Option Float := none
  authoritative : Bool := false
  deriving DecidableEq

/-! ### Objects -/

/-- `Record<string, DeviceMetric>`; without `proto` the prototype is `Object.prototype`. -/
structure ById where
  own : Dict String DeviceMetric := ∅
  proto : Option DeviceMetric := none
  /-- An assignment never makes `__proto__` a property of the object itself. -/
  own_proto : own.lookup "__proto__" = none := by rfl

/-- The properties of `Object.prototype`, all of them objects or functions. -/
def objectPrototypeKeys : List String :=
  ["constructor", "__defineGetter__", "__defineSetter__", "hasOwnProperty", "__lookupGetter__",
    "__lookupSetter__", "isPrototypeOf", "propertyIsEnumerable", "toString", "valueOf",
    "toLocaleString", "__proto__"]

/-- `Boolean(x)` of a number. -/
def truthyNumber (x : Float) : Bool := !(x == 0) && x == x

/-- Whether a metric has a truthy property of a name. -/
def DeviceMetric.hasTruthy (m : DeviceMetric) (name : String) : Bool :=
  match name with
  | "bps" => truthyNumber m.bps
  | "utilization" => truthyNumber m.utilization
  | "version" => truthyNumber m.version
  | "upstream_bps" => m.fields.upstreamBps.any truthyNumber
  | "downstream_bps" => m.fields.downstreamBps.any truthyNumber
  | "congested" => m.fields.congested = some true
  | "capacity_mbps" => m.fields.capacityMbps.any truthyNumber
  | "demand_up_bps" => m.fields.demandUpBps.any truthyNumber
  | "demand_down_bps" => m.fields.demandDownBps.any truthyNumber
  | "scale_up" => m.fields.scaleUp.any truthyNumber
  | "scale_down" => m.fields.scaleDown.any truthyNumber
  | "throttled" => m.fields.throttled = some true
  | _ => false

/-- What a read of a property gives; falsy values other than a metric do not matter. -/
inductive Property where
  | falsy
  | metric (m : DeviceMetric)
  /-- Something truthy without a `version`. -/
  | other

namespace ById

private theorem lookup_erase_eq_none {own : Dict String DeviceMetric} {k : String}
    (h : own.lookup k = none) (k' : String) : (own.erase k').lookup k = none := by
  by_cases hk : k = k'
  · subst hk
    exact AList.lookup_erase _ _
  · rw [AList.lookup_erase_ne hk, h]

/-- `byId[id]`. -/
def read (byId : ById) (id : String) : Property :=
  match byId.own.lookup id, byId.proto with
  | some m, _ => .metric m
  | none, none => if id ∈ objectPrototypeKeys then .other else .falsy
  | none, some p =>
    if id = "__proto__" then .metric p
    else if p.hasTruthy id || id ∈ objectPrototypeKeys then .other
    else .falsy

/-- `{ ...byId }`. -/
def spread (byId : ById) : ById := { own := byId.own, own_proto := byId.own_proto }

/-- `next[id] = metric`. -/
def assign (byId : ById) (id : String) (m : DeviceMetric) : ById :=
  if h : id = "__proto__" then { byId with proto := some m }
  else
    { byId with
      own := byId.own.insert id m
      own_proto := (AList.lookup_insert_ne (Ne.symm h)).trans byId.own_proto }

/-- `delete next[id]`. -/
def delete (byId : ById) (id : String) : ById :=
  { byId with
    own := byId.own.erase id
    own_proto := lookup_erase_eq_none byId.own_proto id }

end ById

/-! ### The handler -/

/-- The metric that an item stores over the current one. -/
def MetricItem.over (it : MetricItem) (version : Float) (cur : OptionalFields) : DeviceMetric :=
  ⟨it.bps, it.utilization, version, it.fields.orElse cur⟩

/-- The metric that replaces the current one, if the version check passes; a comparison with the
missing version of another object fails; `metricsStore.ts:77–98`. -/
def incoming (byId : ById) (it : MetricItem) : Option DeviceMetric :=
  match byId.read it.id with
  | .falsy => some (it.over (it.version.getD (0 + 1)) {})
  | .metric cur =>
    let version := it.version.getD (cur.version + 1)
    if version > cur.version then some (it.over version cur.fields) else none
  | .other => none

/-- `useMetricsStore`, without the ports, which events leave alone; `metricsStore.ts:27–34`. -/
structure MetricsStore where
  byId : ById := {}
  lastTick : Float := 0

/-- One iteration over the items; `metricsStore.ts:75–106`. -/
def applyItem (byId : ById) (next : Option ById) (it : MetricItem) : Option ById :=
  if it.id = "" then next
  else match incoming byId it with
    | some m => some ((next.getD byId.spread).assign it.id m)
    | none => next

/-- One iteration over the keys of the store; `metricsStore.ts:108–113`. -/
def dropKey (byId : ById) (incomingIds : List String) (next : Option ById) (id : String) :
    Option ById :=
  if id ∈ incomingIds then next else some ((next.getD byId.spread).delete id)

/-- `incomingIds`. -/
def MetricsPayload.incomingIds (p : MetricsPayload) : List String :=
  (p.devices.map MetricItem.id).filter (· ≠ "")

/-- The handler of `deviceMetricsUpdated`; `metricsStore.ts:37–118`. -/
def MetricsStore.deviceMetricsUpdated (store : MetricsStore) (p : MetricsPayload) : MetricsStore :=
  let next := p.devices.foldl (applyItem store.byId) none
  let next :=
    if p.authoritative then store.byId.own.keys.foldl (dropKey store.byId p.incomingIds) next
    else next
  { byId := next.getD store.byId, lastTick := p.tick.getD store.lastTick }

/-! ### The properties after an event -/

/-- The metric that an item leaves as a property of the store itself. -/
def stored (byId : ById) (it : MetricItem) : Option DeviceMetric :=
  if it.id = "" ∨ it.id = "__proto__" then none else incoming byId it

private theorem own_applyItem (byId : ById) (next : Option ById) (it : MetricItem) :
    ((applyItem byId next it).getD byId.spread).own =
      match stored byId it with
      | some m => (next.getD byId.spread).own.insert it.id m
      | none => (next.getD byId.spread).own := by
  unfold applyItem stored
  by_cases hempty : it.id = ""
  · simp [hempty]
  · rw [if_neg hempty]
    by_cases hproto : it.id = "__proto__"
    · rw [if_pos (Or.inr hproto)]
      cases incoming byId it <;> simp [ById.assign, hproto]
    · rw [if_neg (not_or.mpr ⟨hempty, hproto⟩)]
      cases incoming byId it <;> simp [ById.assign, hproto]

private theorem lookup_applyItem_self {byId : ById} {it : MetricItem} (next : Option ById) :
    ((applyItem byId next it).getD byId.spread).own.lookup it.id =
      (stored byId it).or ((next.getD byId.spread).own.lookup it.id) := by
  rw [own_applyItem]
  cases stored byId it with
  | some m => exact AList.lookup_insert _
  | none => rfl

private theorem lookup_applyItem_of_ne {byId : ById} {it : MetricItem} (next : Option ById)
    {id : String}
    (h : id ≠ it.id) : ((applyItem byId next it).getD byId.spread).own.lookup id =
      (next.getD byId.spread).own.lookup id := by
  rw [own_applyItem]
  cases stored byId it with
  | some m => exact AList.lookup_insert_ne h
  | none => rfl

private theorem lookup_foldl_applyItem (byId : ById) (items : List MetricItem)
    (hitems : (items.map MetricItem.id).Nodup) (next : Option ById) (id : String) :
    ((items.foldl (applyItem byId) next).getD byId.spread).own.lookup id =
      ((items.find? (fun it ↦ it.id = id)).bind (stored byId)).or
        ((next.getD byId.spread).own.lookup id) := by
  induction items generalizing next with
  | nil => rfl
  | cons it items ih =>
    obtain ⟨hit, hitems⟩ := List.nodup_cons.mp hitems
    rw [List.foldl_cons, ih hitems, List.find?_cons]
    by_cases hid : it.id = id
    · subst hid
      have hnone : items.find? (fun it' ↦ decide (it'.id = it.id)) = none := by
        rw [List.find?_eq_none]
        intro it' hit' heq
        exact hit (List.mem_map.mpr ⟨it', hit', by simpa using heq⟩)
      rw [hnone, lookup_applyItem_self]
      simp
    · rw [lookup_applyItem_of_ne next (Ne.symm hid)]
      simp [hid]

private theorem lookup_foldl_dropKey (byId : ById) (ids : List String) (keys : List String)
    (next : Option ById) (id : String) :
    ((keys.foldl (dropKey byId ids) next).getD byId.spread).own.lookup id =
      if id ∈ keys ∧ id ∉ ids then none else (next.getD byId.spread).own.lookup id := by
  induction keys generalizing next with
  | nil => simp
  | cons key keys ih =>
    rw [List.foldl_cons, ih]
    by_cases hkey : key ∈ ids
    · have hne : id ∉ ids → id ≠ key := fun h heq ↦ h (heq ▸ hkey)
      simp only [dropKey, if_pos hkey, List.mem_cons]
      by_cases hid : id ∈ ids
      · simp [hid]
      · simp [hne hid]
    · simp only [dropKey, if_neg hkey, Option.getD_some, ById.delete, List.mem_cons]
      by_cases hid : id = key
      · subst hid
        simp [hkey]
      · simp [hid]

/-- The incoming ids are those of the devices, without empty ones. -/
theorem mem_incomingIds (p : MetricsPayload) (id : String) :
    id ∈ p.incomingIds ↔ id ≠ "" ∧ ∃ it ∈ p.devices, it.id = id := by
  simp [MetricsPayload.incomingIds, and_comm]

/-- The store after an event with distinct ids. -/
theorem lookup_deviceMetricsUpdated (store : MetricsStore) (p : MetricsPayload)
    (hp : (p.devices.map MetricItem.id).Nodup) (id : String) :
    (store.deviceMetricsUpdated p).byId.own.lookup id =
      if p.authoritative ∧ id ∉ p.incomingIds then none
      else ((p.devices.find? (fun it ↦ it.id = id)).bind (stored store.byId)).or
        (store.byId.own.lookup id) := by
  -- `{ ...byId }` has the same own properties, so the default of `next` does not matter
  have hspread : ∀ next : Option ById, (next.getD store.byId).own =
      (next.getD store.byId.spread).own := by
    intro next
    cases next <;> rfl
  have hitems := lookup_foldl_applyItem store.byId p.devices hp none id
  simp only [MetricsStore.deviceMetricsUpdated, hspread]
  cases hauth : p.authoritative with
  | false => simpa [ById.spread] using hitems
  | true =>
    simp only [if_true, true_and, lookup_foldl_dropKey, hitems]
    by_cases hid : id ∈ p.incomingIds
    · simp [hid, ById.spread]
    · by_cases hkey : id ∈ store.byId.own.keys
      · simp [hid, hkey]
      · have hown : store.byId.own.lookup id = none := AList.lookup_eq_none.mpr hkey
        have hstored : (p.devices.find? (fun it ↦ it.id = id)).bind (stored store.byId) = none := by
          rw [Option.bind_eq_none_iff]
          intro it hit
          have hid' : it.id = id := by simpa using List.find?_some hit
          have hempty : it.id = "" := by
            by_contra hne
            exact hid ((mem_incomingIds p id).mpr
              ⟨hid' ▸ hne, it, List.mem_of_find?_eq_some hit, hid'⟩)
          rw [stored, if_pos (Or.inl hempty)]
        simp [hid, hkey, hown, hstored, ById.spread]

end Unoc.Realtime
