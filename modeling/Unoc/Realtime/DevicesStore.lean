import Mathlib.Data.List.Induction
import Mathlib.Tactic.NormNum
import Unoc.Realtime.ClientVersions

/-!
# The devices store of the client

The handlers of `device.status.changed` and `device.optical.updated`;
`unoc-frontend-v2/src/stores/devicesStore.ts:71–206`. Both drop an event that is older than the last one
applied to the device, of either kind, although most of their fields are disjoint: an event that is
overtaken by an event of the other kind is lost.
-/

namespace Unoc.Realtime

open Unoc.Base

/-! ### Devices and events -/

/-- A JSON value; an array or an object is its text. -/
inductive JsonValue where
  | null
  | bool (b : Bool)
  | number (x : ℚ)
  | string (s : String)
  | composite (text : String)
  deriving DecidableEq

/-- The fields of a device that the handlers write; `devicesStore.ts:27–39`. -/
inductive DeviceField where
  | status
  | effectiveStatus
  | adminOverrideStatus
  | signalStatus
  | signalPowerDbm
  | signalMarginDb
  | txPowerDbm
  | sensitivityMinDbm
  | totalPathAttenuationDb
  deriving DecidableEq

/-- `DeviceOutX`; a field without a value is `undefined`. -/
structure DeviceOutX where
  id : String
  fields : DeviceField → Option JsonValue

/-- The payload of `device.status.changed`; `devicesStore.ts:80–89`. -/
structure StatusPayload where
  id : String
  status : Option JsonValue := none
  effectiveStatus : Option JsonValue := none
  adminOverrideStatus : Option JsonValue := none
  signalStatus : Option JsonValue := none
  signalPowerDbm : Option JsonValue := none
  signalMarginDb : Option JsonValue := none

/-- The payload of `device.optical.updated`; `devicesStore.ts:154–165`. -/
structure OpticalPayload where
  id : String
  signalStatus : Option JsonValue := none
  signalPowerDbm : Option JsonValue := none
  signalMarginDb : Option JsonValue := none
  receivedDbm : Option JsonValue := none
  marginDb : Option JsonValue := none
  attenuationDb : Option JsonValue := none
  txPowerDbm : Option JsonValue := none
  sensitivityMinDbm : Option JsonValue := none
  totalPathAttenuationDb : Option JsonValue := none

/-- `normalize`; `devicesStore.ts:110–113`. -/
def normalize : JsonValue → Option String
  | .string s =>
    some (if "Status.".toList <+: s.toList then String.ofList (s.toList.drop "Status.".length) else s)
  | _ => none

/-- A string or `null`. -/
def ofNullable : Option String → JsonValue
  | some s => .string s
  | none => .null

/-- The fields that a status event assigns; `devicesStore.ts:114–123`. -/
def StatusPayload.assigned (p : StatusPayload) : DeviceField → Option JsonValue
  -- an empty status is falsy and leaves the field alone
  | .status => ((p.status.bind normalize).filter (· ≠ "")).map .string
  | .effectiveStatus => p.effectiveStatus.map (fun s ↦ ofNullable (normalize s))
  | .adminOverrideStatus => p.adminOverrideStatus.map (fun s ↦ ofNullable (normalize s))
  | .signalStatus => p.signalStatus
  | .signalPowerDbm => p.signalPowerDbm
  | .signalMarginDb => p.signalMarginDb
  | _ => none

/-- The fields that an optical event assigns; `devicesStore.ts:187–204`. -/
def OpticalPayload.assigned (p : OpticalPayload) : DeviceField → Option JsonValue
  | .signalStatus => p.signalStatus
  | .signalPowerDbm => p.signalPowerDbm.or p.receivedDbm
  | .signalMarginDb => p.signalMarginDb.or p.marginDb
  | .txPowerDbm => p.txPowerDbm
  | .sensitivityMinDbm => p.sensitivityMinDbm
  | .totalPathAttenuationDb => p.totalPathAttenuationDb.or p.attenuationDb
  | _ => none

/-- The two kinds of events that write to a device. -/
inductive DeviceEventKind where
  | status
  | optical
  deriving DecidableEq

/-- An envelope of the event bus. -/
inductive DeviceEvent where
  | statusChanged (topo : Option ℚ) (payload : StatusPayload)
  | opticalUpdated (topo : Option ℚ) (payload : OpticalPayload)

namespace DeviceEvent

/-- The kind of an event. -/
def kind : DeviceEvent → DeviceEventKind
  | statusChanged _ _ => .status
  | opticalUpdated _ _ => .optical

/-- The topology version of an event. -/
def topo : DeviceEvent → Option ℚ
  | statusChanged v _ => v
  | opticalUpdated v _ => v

/-- The device of an event. -/
def id : DeviceEvent → String
  | statusChanged _ p => p.id
  | opticalUpdated _ p => p.id

/-- The fields that an event assigns. -/
def assigned : DeviceEvent → DeviceField → Option JsonValue
  | statusChanged _ p => p.assigned
  | opticalUpdated _ p => p.assigned

/-- Both events have a version, and the first one's is lower. -/
def OlderThan (e e' : DeviceEvent) : Prop := ∃ v ∈ e.topo, ∃ w ∈ e'.topo, v < w

end DeviceEvent

/-- The events whose fields these are: a status event may carry signal fields, but only an optical
event has all of them. -/
def DeviceField.owner : DeviceField → DeviceEventKind
  | .status | .effectiveStatus | .adminOverrideStatus => .status
  | _ => .optical

/-! ### The handlers -/

/-- The assignments to a copy of the device. -/
def DeviceOutX.assign (d : DeviceOutX) (assigned : DeviceField → Option JsonValue) : DeviceOutX :=
  { d with fields := fun f ↦ (assigned f).or (d.fields f) }

/-- The part of `useDevicesStore` that the handlers use; `devicesStore.ts:41–48`. -/
structure DevicesStore where
  devices : List DeviceOutX := []
  lastTopoByDevice : LastTopo := {}

namespace DevicesStore

/-- `byId`; `devicesStore.ts:68`. -/
def byId (store : DevicesStore) (id : String) : Option DeviceOutX :=
  store.devices.find? (·.id = id)

/-- A value of a device. -/
def value (store : DevicesStore) (id : String) (f : DeviceField) : Option JsonValue :=
  (store.byId id).bind (·.fields f)

/-- What both handlers do with their payload; `devicesStore.ts:90–126,166–205`. -/
def merge (store : DevicesStore) (id : String) (topo : Option ℚ)
    (assigned : DeviceField → Option JsonValue) : DevicesStore :=
  if id = "" then store
  else if store.lastTopoByDevice.IsStale id topo then store
  else match store.devices.findIdx? (·.id = id) with
    | none => store
    | some idx =>
      { devices := store.devices.modify idx (·.assign assigned)
        lastTopoByDevice := store.lastTopoByDevice.note id topo }

/-- The handler of `device.status.changed`; `devicesStore.ts:73–144`. -/
def statusChanged (store : DevicesStore) (topo : Option ℚ) (p : StatusPayload) : DevicesStore :=
  store.merge p.id topo p.assigned

/-- The handler of `device.optical.updated`; `devicesStore.ts:147–206`. -/
def opticalUpdated (store : DevicesStore) (topo : Option ℚ) (p : OpticalPayload) : DevicesStore :=
  store.merge p.id topo p.assigned

/-- The delivery of an event by the bus. -/
def deliver (store : DevicesStore) : DeviceEvent → DevicesStore
  | .statusChanged topo p => store.statusChanged topo p
  | .opticalUpdated topo p => store.opticalUpdated topo p

private theorem deliver_eq_merge (store : DevicesStore) (e : DeviceEvent) :
    store.deliver e = store.merge e.id e.topo e.assigned := by
  cases e <;> rfl

end DevicesStore

/-! ### One delivery -/

private theorem find?_modify_findIdx? {devices : List DeviceOutX} {id : String} {idx : Nat}
    (h : devices.findIdx? (·.id = id) = some idx) (u : DeviceField → Option JsonValue) :
    (devices.modify idx (·.assign u)).find? (·.id = id) =
      (devices.find? (·.id = id)).map (·.assign u) := by
  induction devices generalizing idx with
  | nil => cases h
  | cons d devices ih =>
    rw [List.findIdx?_cons] at h
    by_cases hd : d.id = id
    · simp only [hd, decide_true, if_true, Option.some.injEq] at h
      subst h
      simp [DeviceOutX.assign, hd]
    · simp only [hd, decide_false, Bool.false_eq_true, if_false, Option.map_eq_some_iff] at h
      obtain ⟨n, hn, rfl⟩ := h
      simp [hd, ih hn]

namespace DevicesStore

/-- A device of the store takes the assigned values and its version is recorded, unless the event is
dropped. -/
theorem merge_of_byId {store : DevicesStore} {id : String} {d : DeviceOutX}
    (hd : store.byId id = some d) (topo : Option ℚ) (u : DeviceField → Option JsonValue) :
    (id = "" ∨ store.lastTopoByDevice.IsStale id topo → store.merge id topo u = store) ∧
    (¬ (id = "" ∨ store.lastTopoByDevice.IsStale id topo) →
      (store.merge id topo u).byId id = some (d.assign u) ∧
      (store.merge id topo u).lastTopoByDevice = store.lastTopoByDevice.note id topo) := by
  constructor
  · rintro (hempty | hstale)
    · rw [merge, if_pos hempty]
    · rw [merge, if_pos hstale, ite_self]
  · intro hkeep
    obtain ⟨hempty, hstale⟩ := not_or.mp hkeep
    unfold byId at hd ⊢
    have hidx : (store.devices.findIdx? (·.id = id)).isSome := by
      rw [List.findIdx?_isSome, List.any_eq_true]
      exact ⟨d, List.mem_of_find?_eq_some hd, by simpa using List.find?_some hd⟩
    obtain ⟨idx, hidx⟩ := Option.isSome_iff_exists.mp hidx
    simp only [merge, if_neg hempty, if_neg hstale, hidx, and_true]
    rw [find?_modify_findIdx? hidx u, hd, Option.map_some]

/-- The deliveries of the bus, in order. -/
def deliverAll (store : DevicesStore) (events : List DeviceEvent) : DevicesStore :=
  events.foldl deliver store

private theorem deliverAll_concat (store : DevicesStore) (events : List DeviceEvent)
    (e : DeviceEvent) :
    store.deliverAll (events ++ [e]) = (store.deliverAll events).deliver e := by
  simp [deliverAll]

/-! ### Deliveries in any order -/

/-- The event is without an id, or a newer version of the device is recorded or was delivered
before it. -/
def Overtaken (last : LastTopo) (id : String) (before : List DeviceEvent) (e : DeviceEvent) : Prop :=
  id = "" ∨ id ≠ "__proto__" ∧ (last.IsStale id e.topo ∨ ∃ e' ∈ before, e.OlderThan e')

/-- The event is delivered at a place where nothing has overtaken it. -/
def InTime (last : LastTopo) (id : String) (events : List DeviceEvent) (i : Nat) (e : DeviceEvent) :
    Prop :=
  events[i]? = some e ∧ ¬ Overtaken last id (events.take i) e

/-- What is older than an overtaken event is overtaken. -/
theorem Overtaken.of_olderThan {last : LastTopo} {id : String} {before : List DeviceEvent}
    {e e' : DeviceEvent} (h : Overtaken last id before e) (hlt : e'.OlderThan e) :
    Overtaken last id before e' := by
  obtain ⟨v', hv', v, hv, hlt⟩ := hlt
  rcases h with hempty | ⟨hproto, hnewer⟩
  · exact Or.inl hempty
  refine Or.inr ⟨hproto, ?_⟩
  rcases hnewer with ⟨w, hw, r, hr, hwr⟩ | ⟨x, hx, w, hw, r, hr, hwr⟩
  · obtain rfl := Option.mem_unique hv hw
    exact Or.inl ⟨v', hv', r, hr, hlt.trans hwr⟩
  · obtain rfl := Option.mem_unique hv hw
    exact Or.inr ⟨x, hx, v', hv', r, hr, hlt.trans hwr⟩

private theorem overtaken_concat (last : LastTopo) (id : String) (before : List DeviceEvent)
    (e e' : DeviceEvent) : Overtaken last id (before ++ [e]) e' ↔
      Overtaken last id before e' ∨ id ≠ "__proto__" ∧ e'.OlderThan e := by
  simp only [Overtaken, List.mem_append, List.mem_singleton, or_and_right, exists_or,
    exists_eq_left]
  rw [or_assoc, ← and_or_left, or_assoc]

/-- The device is still there and an event would be dropped if it is overtaken. -/
theorem deliverAll_record {store : DevicesStore} {id : String} {d : DeviceOutX}
    (hd : store.byId id = some d) {events : List DeviceEvent} (hid : ∀ e ∈ events, e.id = id) :
    ((store.deliverAll events).byId id).isSome ∧
      ∀ e : DeviceEvent, id = "" ∨ (store.deliverAll events).lastTopoByDevice.IsStale id e.topo ↔
        Overtaken store.lastTopoByDevice id events e := by
  induction events using List.reverseRecOn with
  | nil =>
    refine ⟨by simp [deliverAll, hd], fun e ↦ or_congr_right ?_⟩
    simp only [deliverAll, List.foldl_nil, List.not_mem_nil, false_and, exists_false, or_false]
    refine ⟨fun h ↦ ⟨?_, h⟩, And.right⟩
    rintro rfl
    exact LastTopo.not_isStale_proto _ _ h
  | append_singleton events e ih =>
    obtain ⟨hsome, hdrop⟩ := ih (fun e' he' ↦ hid e' (List.mem_append_left _ he'))
    obtain ⟨d', hd'⟩ := Option.isSome_iff_exists.mp hsome
    obtain ⟨hdropped, happlied⟩ := merge_of_byId hd' e.topo e.assigned
    have hide : e.id = id := hid e (by simp)
    rw [deliverAll_concat, deliver_eq_merge, hide]
    simp only [overtaken_concat]
    by_cases hover : Overtaken store.lastTopoByDevice id events e
    · rw [hdropped ((hdrop e).mpr hover)]
      refine ⟨hsome, fun e' ↦ ?_⟩
      rw [hdrop e', iff_self_or]
      exact fun h ↦ hover.of_olderThan h.2
    · have hkeep := mt (hdrop e).mp hover
      obtain ⟨hbyId, hnote⟩ := happlied hkeep
      refine ⟨by simp [hbyId], fun e' ↦ ?_⟩
      rw [hnote, ← hdrop e', or_assoc]
      refine or_congr_right ?_
      by_cases hproto : id = "__proto__"
      · subst hproto
        simp [LastTopo.not_isStale_proto]
      · rw [LastTopo.isStale_note hproto (not_or.mp hkeep).2]
        simp [hproto, DeviceEvent.OlderThan]

private theorem inTime_concat (last : LastTopo) (id : String) (events : List DeviceEvent)
    (e : DeviceEvent) (i : Nat) (e' : DeviceEvent) : InTime last id (events ++ [e]) i e' ↔
      InTime last id events i e' ∨
        (i = events.length ∧ e' = e ∧ ¬ Overtaken last id events e) := by
  rcases lt_trichotomy i events.length with hlt | heq | hgt
  · have htake : (events ++ [e]).take i = events.take i := List.take_append_of_le_length hlt.le
    simp [InTime, List.getElem?_append_left hlt, htake, hlt.ne]
  · subst heq
    simp only [InTime, List.getElem?_concat_length, Option.some.injEq, List.take_left,
      List.getElem?_eq_none le_rfl, reduceCtorEq, false_and, false_or, true_and]
    constructor
    · rintro ⟨rfl, h⟩
      exact ⟨rfl, h⟩
    · rintro ⟨rfl, h⟩
      exact ⟨rfl, h⟩
  · have hnone : (events ++ [e])[i]? = none := by
      rw [List.getElem?_eq_none_iff, List.length_append]
      exact hgt
    simp [InTime, hnone, List.getElem?_eq_none hgt.le, hgt.ne']

/-- Of the events in time that set a field, the last one sets it to a value, or there are none and the
device has the value already. -/
def LastSetTo (store : DevicesStore) (id : String) (events : List DeviceEvent) (f : DeviceField)
    (v : JsonValue) : Prop :=
  (∃ i e, InTime store.lastTopoByDevice id events i e ∧ e.assigned f = some v ∧
    ∀ j e', i < j → InTime store.lastTopoByDevice id events j e' → e'.assigned f = none) ∨
  ((∀ i e, InTime store.lastTopoByDevice id events i e → e.assigned f = none) ∧
    store.value id f = some v)

private theorem lastSetTo_concat_of_overtaken {store : DevicesStore} {id : String}
    {events : List DeviceEvent} {e : DeviceEvent}
    (h : Overtaken store.lastTopoByDevice id events e) (f : DeviceField) (v : JsonValue) :
    LastSetTo store id (events ++ [e]) f v ↔ LastSetTo store id events f v := by
  simp [LastSetTo, inTime_concat, h]

private theorem lastSetTo_concat_of_none {store : DevicesStore} {id : String}
    {events : List DeviceEvent}
    {e : DeviceEvent} {f : DeviceField} (h : e.assigned f = none) (v : JsonValue) :
    LastSetTo store id (events ++ [e]) f v ↔ LastSetTo store id events f v := by
  have hold : ∀ i x, InTime store.lastTopoByDevice id events i x →
      InTime store.lastTopoByDevice id (events ++ [e]) i x :=
    fun i x hx ↦ (inTime_concat _ _ _ _ _ _).mpr (Or.inl hx)
  have hnew : ∀ i x, InTime store.lastTopoByDevice id (events ++ [e]) i x →
      InTime store.lastTopoByDevice id events i x ∨ x.assigned f = none := by
    intro i x hx
    rcases (inTime_concat _ _ _ _ _ _).mp hx with hin | ⟨_, rfl, _⟩
    · exact Or.inl hin
    · exact Or.inr h
  constructor
  · rintro (⟨i, x, hx, hxv, hafter⟩ | ⟨hnone, hv⟩)
    · have hin := (hnew i x hx).resolve_right (by simp [hxv])
      exact Or.inl ⟨i, x, hin, hxv, fun j y hj hy ↦ hafter j y hj (hold j y hy)⟩
    · exact Or.inr ⟨fun i x hx ↦ hnone i x (hold i x hx), hv⟩
  · rintro (⟨i, x, hx, hxv, hafter⟩ | ⟨hnone, hv⟩)
    · exact Or.inl ⟨i, x, hold i x hx, hxv, fun j y hj hy ↦ (hnew j y hy).elim (hafter j y hj) (fun h ↦ h)⟩
    · exact Or.inr ⟨fun i x hx ↦ (hnew i x hx).elim (hnone i x) (fun h ↦ h), hv⟩

private theorem lastSetTo_concat_of_some {store : DevicesStore} {id : String}
    {events : List DeviceEvent}
    {e : DeviceEvent} (hover : ¬ Overtaken store.lastTopoByDevice id events e) {f : DeviceField}
    {w : JsonValue} (h : e.assigned f = some w) (v : JsonValue) :
    LastSetTo store id (events ++ [e]) f v ↔ w = v := by
  have hlast : InTime store.lastTopoByDevice id (events ++ [e]) events.length e :=
    (inTime_concat _ _ _ _ _ _).mpr (Or.inr ⟨rfl, rfl, hover⟩)
  constructor
  · rintro (⟨i, x, hx, hxv, hafter⟩ | ⟨hnone, _⟩)
    · rcases (inTime_concat _ _ _ _ _ _).mp hx with hin | ⟨_, rfl, _⟩
      · have hlt : i < events.length := (List.getElem?_eq_some_iff.mp hin.1).1
        cases h.symm.trans (hafter _ _ hlt hlast)
      · exact Option.some.inj (h.symm.trans hxv)
    · cases h.symm.trans (hnone _ _ hlast)
  · rintro rfl
    refine Or.inl ⟨events.length, e, hlast, h, fun j x hj hx ↦ ?_⟩
    rcases (inTime_concat _ _ _ _ _ _).mp hx with hin | ⟨rfl, _, _⟩
    · exact absurd (List.getElem?_eq_some_iff.mp hin.1).1 hj.not_gt
    · exact absurd hj (lt_irrefl _)

/-- The values of a device after all deliveries. -/
theorem value_deliverAll_iff {store : DevicesStore} {id : String} {d : DeviceOutX}
    (hd : store.byId id = some d) {events : List DeviceEvent} (hid : ∀ e ∈ events, e.id = id)
    (f : DeviceField) (v : JsonValue) :
    (store.deliverAll events).value id f = some v ↔ LastSetTo store id events f v := by
  induction events using List.reverseRecOn with
  | nil => simp [deliverAll, LastSetTo, InTime]
  | append_singleton events e ih =>
    have hids : ∀ e' ∈ events, e'.id = id := fun e' he' ↦ hid e' (List.mem_append_left _ he')
    have ih := ih hids
    obtain ⟨hsome, hdrop⟩ := deliverAll_record hd hids
    obtain ⟨d', hd'⟩ := Option.isSome_iff_exists.mp hsome
    obtain ⟨hdropped, happlied⟩ := merge_of_byId hd' e.topo e.assigned
    rw [deliverAll_concat, deliver_eq_merge, hid e (by simp)]
    by_cases hover : Overtaken store.lastTopoByDevice id events e
    · rw [hdropped ((hdrop e).mpr hover), ih, lastSetTo_concat_of_overtaken hover]
    · obtain ⟨hbyId, _⟩ := happlied (mt (hdrop e).mp hover)
      have hvalue : ((store.deliverAll events).merge id e.topo e.assigned).value id f =
          (e.assigned f).or ((store.deliverAll events).value id f) := by
        simp [value, hbyId, hd', DeviceOutX.assign]
      rw [hvalue]
      cases hset : e.assigned f with
      | none => rw [Option.none_or, ih, lastSetTo_concat_of_none hset]
      | some w => rw [Option.some_or, Option.some.injEq, lastSetTo_concat_of_some hover hset]

/-- No event of the same kind is newer. -/
def Newest (events : List DeviceEvent) (top : DeviceEvent) : Prop :=
  top ∈ events ∧ ∀ e ∈ events, e.kind = top.kind → ¬ top.OlderThan e

/-- Each field of the device is that of the newest event of its kind, if this event sets it. -/
def Converged (id : String) (events : List DeviceEvent) (store : DevicesStore) : Prop :=
  ∀ top, Newest events top → ∀ f : DeviceField, f.owner = top.kind → ∀ v, top.assigned f = some v →
    store.value id f = some v

/-- Events with versions, no two of them equal. -/
def DistinctVersions (events : List DeviceEvent) : Prop :=
  events.Pairwise (fun e e' ↦ e.OlderThan e' ∨ e'.OlderThan e)

/-- The client converges on a delivery order if and only if each field that the newest event of its kind
sets is last set, by the events that nothing has overtaken, to the value of that event. -/
theorem deliverAll_converged_iff {store : DevicesStore} {id : String} {d : DeviceOutX}
    (hd : store.byId id = some d) {events : List DeviceEvent} (hid : ∀ e ∈ events, e.id = id) :
    Converged id events (store.deliverAll events) ↔
      ∀ top, Newest events top → ∀ f : DeviceField, f.owner = top.kind →
        ∀ v, top.assigned f = some v → LastSetTo store id events f v := by
  simp only [Converged, value_deliverAll_iff hd hid]

/-- Only status events set the fields of a status event. -/
theorem assigned_eq_none_of_owner {e : DeviceEvent} {f : DeviceField} (hf : f.owner = .status)
    (he : e.kind ≠ .status) : e.assigned f = none := by
  cases e with
  | statusChanged => exact absurd rfl he
  | opticalUpdated => cases f <;> first | rfl | cases hf

/-- The client converges where the newest event of each kind is in time and no status event that is
newer than the newest optical event carries its fields. -/
theorem deliverAll_converged {store : DevicesStore} {id : String} {d : DeviceOutX}
    (hd : store.byId id = some d) {events : List DeviceEvent} (hid : ∀ e ∈ events, e.id = id)
    (hproto : id ≠ "__proto__") (hdistinct : DistinctVersions events)
    (htop : ∀ top i, Newest events top → events[i]? = some top →
      InTime store.lastTopoByDevice id events i top)
    (hcarry : ∀ top, Newest events top → top.kind = .optical → ∀ e ∈ events, top.OlderThan e →
      ∀ f : DeviceField, f.owner = .optical → top.assigned f ≠ none → e.assigned f = none) :
    Converged id events (store.deliverAll events) := by
  simp only [Converged, value_deliverAll_iff hd hid]
  intro top hnewest f howner v hv
  obtain ⟨i, hi⟩ := List.mem_iff_getElem?.mp hnewest.1
  refine Or.inl ⟨i, top, htop top i hnewest hi, hv, fun j e hij he ↦ ?_⟩
  obtain ⟨hj, hover⟩ := he
  have hmem : e ∈ events := List.mem_of_getElem? hj
  -- an event in time after the newest one of a kind is newer, so it is of the other kind
  have holder : ¬ e.OlderThan top := by
    intro hlt
    apply hover
    refine Or.inr ⟨hproto, Or.inr ⟨top, ?_, hlt⟩⟩
    exact List.mem_of_getElem? ((List.getElem?_take_of_lt hij).trans hi)
  have hnewer : top.OlderThan e := by
    obtain ⟨hilt, rfl⟩ := List.getElem?_eq_some_iff.mp hi
    obtain ⟨hjlt, rfl⟩ := List.getElem?_eq_some_iff.mp hj
    exact ((List.pairwise_iff_getElem.mp hdistinct) i j hilt hjlt hij).resolve_right holder
  have hkind : e.kind ≠ top.kind := fun h ↦ hnewest.2 e hmem h hnewer
  cases hk : top.kind with
  | status => exact assigned_eq_none_of_owner (howner.trans hk) (hk ▸ hkind)
  | optical => exact hcarry top hnewest hk e hmem hnewer f (howner.trans hk) (by simp [hv])

/-! ### An overtaken status event -/

/-- A client with one device. -/
def oneDevice (status : String) : DevicesStore where
  devices := [{ id := "ont1", fields := fun f ↦ if f = .status then some (.string status) else none }]

/-- An optical update overtakes the status change that the server sent before it. -/
def overtakenStatus : List DeviceEvent :=
  [.opticalUpdated (some 2) { id := "ont1", signalStatus := some (.string "NO_SIGNAL") },
    .statusChanged (some 1) { id := "ont1", status := some (.string "DOWN") }]

/-- A status event that a newer one has overtaken leaves its fields unset. -/
theorem overtakenStatus_not_converged :
    ((oneDevice "UP").byId "ont1").isSome ∧ (∀ e ∈ overtakenStatus, e.id = "ont1") ∧
      DistinctVersions overtakenStatus ∧
      ¬ Converged "ont1" overtakenStatus ((oneDevice "UP").deliverAll overtakenStatus) := by
  refine ⟨rfl, by simp [overtakenStatus, DeviceEvent.id], ?_, fun h ↦ ?_⟩
  · simp [DistinctVersions, overtakenStatus, DeviceEvent.OlderThan, DeviceEvent.topo]
  · have hnewest : Newest overtakenStatus
        (.statusChanged (some 1) { id := "ont1", status := some (.string "DOWN") }) := by
      simp [Newest, overtakenStatus, DeviceEvent.OlderThan, DeviceEvent.topo, DeviceEvent.kind]
    have hdown := h _ hnewest .status rfl (.string "DOWN") rfl
    revert hdown
    decide

/-- The same events in the order of their versions. -/
theorem overtakenStatus_reverse_converged :
    Converged "ont1" overtakenStatus.reverse
      ((oneDevice "UP").deliverAll overtakenStatus.reverse) := by
  refine (deliverAll_converged_iff rfl (by simp [overtakenStatus, DeviceEvent.id])).mpr ?_
  rintro top ⟨hmem, -⟩ f howner v hv
  simp only [overtakenStatus, List.reverse_cons, List.reverse_nil, List.nil_append,
    List.cons_append, List.mem_cons, List.not_mem_nil, or_false] at hmem
  rcases hmem with rfl | rfl
  · refine Or.inl ⟨0, _, ⟨rfl, ?_⟩, hv, fun j e hj he ↦ ?_⟩
    · simp [Overtaken, oneDevice, LastTopo.IsStale, LastTopo.read]
    · obtain ⟨he, -⟩ := he
      rcases j with _ | _ | j
      · exact absurd hj (Nat.lt_irrefl _)
      · cases he
        exact assigned_eq_none_of_owner howner (by decide)
      · cases he
  · refine Or.inl ⟨1, _, ⟨rfl, ?_⟩, hv, fun j e hj he ↦ ?_⟩
    · simp [Overtaken, oneDevice, LastTopo.IsStale, LastTopo.read, overtakenStatus,
        DeviceEvent.OlderThan, DeviceEvent.topo]
    · obtain ⟨he, -⟩ := he
      rcases j with _ | _ | j
      · exact absurd hj (Nat.not_lt_zero _)
      · exact absurd hj (Nat.lt_irrefl _)
      · cases he

end DevicesStore

end Unoc.Realtime
