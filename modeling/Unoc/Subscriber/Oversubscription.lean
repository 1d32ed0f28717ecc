import Unoc.Subscriber.CountSemantics
import Unoc.Subscriber.EventReplay

/-!
# Two views of oversubscription

The replay of the event log reports every CPE whose decision is not counted
(`simulation_event_engine.py:190–191`); the count semantics report the CPEs that lost the
arbitration of their access port (`count_semantics.py:209–213`).
-/

namespace Unoc.Subscriber

open Unoc.Base Unoc.Model

variable {db : Database}

/-! ### The view of the replay -/

/-- What an event adds to `oversubscriptions`; `simulation_event_engine.py:187–191`. -/
def SimulationEvent.oversubscription (e : SimulationEvent) : Option Assignment :=
  match e.payload with
  | .cpeProvisioned p => if p.counted = some false then some p else none
  | _ => none

private theorem replayEvent_oversubscriptions (r : Replay) (e : SimulationEvent) :
    (replayEvent r e).service.oversubscriptions =
      r.service.oversubscriptions ++ e.oversubscription.toList := by
  unfold replayEvent SimulationEvent.oversubscription
  cases e.payload with
  | cpeProvisioned p =>
    simp only [Replay.trace]
    split <;> simp
  | serviceBound b =>
    cases hb : b.domain with
    | none => simp [Replay.trace, Replay.bind, hb]
    | some domain => cases domain <;> simp [Replay.trace, Replay.bind, hb]
  | _ => simp [Replay.trace]

/-- The replay reports the uncounted CPEs of the log, in order. -/
theorem replay_oversubscriptions (events : List SimulationEvent) :
    (replaySimulationEvents events).serviceProjection.oversubscriptions =
      events.filterMap SimulationEvent.oversubscription := by
  have hfield := field_foldl (fun r : Replay ↦ r.service.oversubscriptions)
    (fun ps e ↦ ps ++ e.oversubscription.toList) replayEvent_oversubscriptions events {}
  unfold replaySimulationEvents
  simp only [hfield, foldl_append_toList, List.nil_append]

/-- The assignment that a decision adds to the oversubscriptions. -/
def Decision.oversubscription (dec : Decision) : Option Assignment :=
  if dec.subscriberType = .aonCpe ∧ dec.counted = some false then some dec.assignment else none

private theorem oversubscription_appendEvent (events : List SimulationEvent) (payload : Payload) :
    (appendEvent events payload).filterMap SimulationEvent.oversubscription =
      events.filterMap SimulationEvent.oversubscription ++
        (SimulationEvent.oversubscription ⟨0, payload, ""⟩).toList := by
  unfold appendEvent
  rw [List.filterMap_append, List.filterMap_cons, List.filterMap_nil]
  cases payload with
  | cpeProvisioned p =>
    by_cases hp : p.counted = some false <;> simp [SimulationEvent.oversubscription, hp]
  | _ => simp [SimulationEvent.oversubscription]

private theorem oversubscription_appendDecision (events : List SimulationEvent) (dec : Decision) :
    (appendDecision events dec).filterMap SimulationEvent.oversubscription =
      events.filterMap SimulationEvent.oversubscription ++ dec.oversubscription.toList := by
  unfold appendDecision Decision.oversubscription
  by_cases hcpe : dec.subscriberType = .aonCpe
  · by_cases hcounted : dec.counted = some true
    · simp [hcpe, hcounted, oversubscription_appendEvent, SimulationEvent.oversubscription,
        Decision.assignment]
    · simp only [hcpe, hcounted, if_true, if_false, oversubscription_appendEvent, true_and]
      rfl
  · simp only [hcpe, if_false, false_and, Option.toList_none, List.append_nil]
    split <;> split <;> simp [oversubscription_appendEvent, SimulationEvent.oversubscription]

private theorem oversubscription_decisions (decs : List Decision) (events : List SimulationEvent) :
    (decs.foldl appendDecision events).filterMap SimulationEvent.oversubscription =
      events.filterMap SimulationEvent.oversubscription ++
        decs.filterMap Decision.oversubscription := by
  induction decs generalizing events with
  | nil => simp
  | cons dec decs ih =>
    rw [List.foldl_cons, ih, oversubscription_appendDecision, List.append_assoc,
      List.filterMap_cons]
    congr 1
    cases dec.oversubscription <;> rfl

private theorem oversubscription_rows (payloads : List Payload)
    (hrows : ∀ x ∈ payloads, SimulationEvent.oversubscription ⟨0, x, ""⟩ = none)
    (events : List SimulationEvent) :
    (payloads.foldl appendEvent events).filterMap SimulationEvent.oversubscription =
      events.filterMap SimulationEvent.oversubscription := by
  induction payloads generalizing events with
  | nil => rfl
  | cons x xs ih =>
    rw [List.foldl_cons, ih (fun y hy ↦ hrows y (List.mem_cons_of_mem x hy)),
      oversubscription_appendEvent, hrows x List.mem_cons_self]
    simp

/-- The log of a database state reports its uncounted CPEs. -/
theorem mem_replay_oversubscriptions {p : Assignment} :
    p ∈ (replaySimulationEvents (buildSimulationEventLog db)).serviceProjection.oversubscriptions ↔
      ∃ dec ∈ (resolveSubscriberModel db).mappingDecisions, dec.oversubscription = some p := by
  have hrows : ∀ x ∈ rowPayloads db, SimulationEvent.oversubscription ⟨0, x, ""⟩ = none := by
    intro x hx
    simp only [rowPayloads, List.mem_append, List.mem_map] at hx
    rcases hx with (⟨d, _, rfl⟩ | ⟨i, _, rfl⟩) | ⟨l, _, rfl⟩ <;> rfl
  rw [replay_oversubscriptions, buildSimulationEventLog, oversubscription_decisions,
    oversubscription_rows _ hrows]
  simp [sortedDecisions]

/-! ### Both views by device -/

private theorem mem_mappingDecisions {dec : Decision} :
    dec ∈ (resolveSubscriberModel db).mappingDecisions ↔
      ∃ d ∈ db.devices, finalDecision db d = some dec := by
  show dec ∈ (secondPass (firstPass db)).decisions ↔ _
  rw [secondPass_decisions, List.mem_filterMap]
  simp only [mem_sortedDevices]

private theorem finalDecision_ids {d : Device} {dec : Decision}
    (h : finalDecision db d = some dec) :
    dec.subscriberId = d.id ∧ dec.subscriberType = d.type := by
  unfold finalDecision initialDecision at h
  grind

/-- A CPE is not counted exactly if it serves no access port. -/
theorem exists_uncounted_iff {d : Device} :
    (∃ dec, finalDecision db d = some dec ∧ dec.subscriberType = .aonCpe ∧
        dec.counted = some false) ↔ d.type = .aonCpe ∧ wonKey db d = none := by
  constructor
  · rintro ⟨dec, hdec, htype, hcounted⟩
    refine ⟨(finalDecision_ids hdec).2.symm.trans htype, ?_⟩
    cases (finalDecision_cases hdec).2 with
    | uncounted _ hw _ => exact hw
    | ont _ _ hw _ => exact hw
    | cpe _ _ _ h => rw [h] at hcounted; cases hcounted
  · rintro ⟨htype, hw⟩
    cases hdec : finalDecision db d with
    | none =>
      have hi : initialDecision db d = none := by simpa [finalDecision] using hdec
      unfold initialDecision at hi
      simp [htype, ontTypes, cpeTypes] at hi
      grind
    | some dec =>
      refine ⟨dec, rfl, (finalDecision_ids hdec).2.trans htype, ?_⟩
      cases (finalDecision_cases hdec).2 with
      | uncounted _ _ h => exact h
      | ont k ho _ _ => simp [ontKey, htype, ontTypes] at ho
      | cpe k _ h _ => rw [hw] at h; cases h

private theorem reason_traceAnchor {d : Device} {a : Anchor}
    (h : traceAnchor db d .olt = some a) : a.reason = .firstReachableOltPon := by
  unfold traceAnchor at h
  rw [traceLoop_eq_searchLoop] at h
  obtain ⟨iface, device, _, _, _, hfound⟩ :=
    searchLoop_eq_some (P := fun _ ↦ True) (fun _ _ _ _ ↦ trivial) _ (fun _ _ ↦ trivial) h
  rw [(anchorAt_olt hfound).2]

private theorem reason_traceDirectAonAnchor {d : Device} {a : Anchor}
    (h : traceDirectAonAnchor db d = some a) : a.reason = .directL4CpeAccessPort := by
  obtain ⟨peerId, _, hp⟩ := List.exists_of_findSome?_eq_some h
  simp only [directAonPeer, Option.bind_eq_bind, Option.bind_eq_some_iff,
    Option.ite_none_right_eq_some, Option.some.injEq] at hp
  obtain ⟨iface, _, device, _, _, rfl⟩ := hp
  rfl

/-- The first pass leaves open which CPE an access port serves. -/
theorem initialDecision_reason {d : Device} {dec : Decision} (h : initialDecision db d = some dec) :
    dec.reason ≠ .aonAccessPortOversubscribedOneToOne := by
  have holt : ∀ a, traceAnchor db d .olt = some a → a.reason = .firstReachableOltPon :=
    fun a ha ↦ reason_traceAnchor ha
  have haon : ∀ a, traceDirectAonAnchor db d = some a → a.reason = .directL4CpeAccessPort :=
    fun a ha ↦ reason_traceDirectAonAnchor ha
  unfold initialDecision at h
  grind

/-- A decision names an oversubscribed port exactly if the CPE is a candidate that lost it. -/
theorem exists_oversubscribed_iff {d : Device} :
    (∃ dec, finalDecision db d = some dec ∧ dec.reason = .aonAccessPortOversubscribedOneToOne) ↔
      cpeKey db d ≠ none ∧ wonKey db d = none := by
  cases hc : cpeKey db d with
  | none =>
    have hfinal : finalDecision db d = initialDecision db d := by simp [finalDecision, hc]
    rw [hfinal]
    constructor
    · rintro ⟨dec, hdec, hreason⟩
      exact absurd hreason (initialDecision_reason hdec)
    · rintro ⟨hne, _⟩
      exact absurd rfl hne
  | some k =>
    obtain ⟨reason, hinit⟩ := initialDecision_of_cpeKey hc
    by_cases hwin : winner db k = some d.id
    · simp [finalDecision, wonKey, hinit, hc, hwin]
    · simp [finalDecision, wonKey, hinit, hc, hwin]

/-! ### CPEs on an access port -/

/-- A link joins an interface of the device to an interface of an AON switch. -/
def DirectlyOnSwitch (db : Database) (d : Device) : Prop :=
  ∃ i ∈ db.interfaces, i.deviceId = d.id ∧ ∃ l ∈ db.links, ∃ peer,
    (l.aInterfaceId = i.id ∧ l.bInterfaceId = peer ∨
      l.bInterfaceId = i.id ∧ l.aInterfaceId = peer) ∧
    i.id ≠ "" ∧ peer ≠ "" ∧ ∃ pi, db.getInterface peer = some pi ∧
      ∃ pd, db.getDevice pi.deviceId = some pd ∧ pd.type = .aonSwitch

private theorem directAonPeer_ne_none {peerId : String} :
    directAonPeer db peerId ≠ none ↔ ∃ pi, db.getInterface peerId = some pi ∧
      ∃ pd, db.getDevice pi.deviceId = some pd ∧ pd.type = .aonSwitch := by
  unfold directAonPeer
  cases hi : db.getInterface peerId with
  | none => simp
  | some pi =>
    cases hd : db.getDevice pi.deviceId with
    | none => simp [hd]
    | some pd => simp [hd]

private theorem mem_linkNeighbors {interfaceId id : String} :
    id ∈ linkNeighbors db interfaceId ↔ ∃ l ∈ db.links,
      (l.aInterfaceId = interfaceId ∧ l.bInterfaceId = id ∨
        l.bInterfaceId = interfaceId ∧ l.aInterfaceId = id) ∧ interfaceId ≠ "" ∧ id ≠ "" := by
  unfold linkNeighbors
  simp only [mem_sortedSet, List.mem_flatMap]
  constructor
  · rintro ⟨l, hl, hid⟩
    refine ⟨l, hl, ?_⟩
    unfold linkFarEnds at hid
    grind
  · rintro ⟨l, hl, hid⟩
    refine ⟨l, hl, ?_⟩
    unfold linkFarEnds
    grind

private theorem type_of_cpeKey {d : Device} (h : cpeKey db d ≠ none) : d.type = .aonCpe := by
  unfold cpeKey at h
  cases htype : d.type <;> simp_all [cpeTypes]

/-- A CPE has an access port exactly if it is provisioned and on an AON switch. -/
theorem cpeKey_ne_none {d : Device} (htype : d.type = .aonCpe) :
    cpeKey db d ≠ none ↔ d.provisioned = true ∧ DirectlyOnSwitch db d := by
  have htrace : traceDirectAonAnchor db d ≠ none ↔ DirectlyOnSwitch db d := by
    unfold traceDirectAonAnchor DirectlyOnSwitch
    rw [← Option.isSome_iff_ne_none, List.findSome?_isSome_iff]
    simp only [Option.isSome_iff_ne_none, directAonPeer_ne_none, List.mem_flatMap,
      mem_interfacesByDevice, mem_linkNeighbors]
    constructor
    · rintro ⟨peer, ⟨i, ⟨hi, hd⟩, l, hl, hends, hne, hpeer⟩, hswitch⟩
      exact ⟨i, hi, hd, l, hl, peer, hends, hne, hpeer, hswitch⟩
    · rintro ⟨i, hi, hd, l, hl, peer, hends, hne, hpeer, hswitch⟩
      exact ⟨peer, ⟨i, ⟨hi, hd⟩, l, hl, hends, hne, hpeer⟩, hswitch⟩
  rw [← htrace]
  unfold cpeKey
  by_cases hp : d.provisioned = true <;> simp [htype, hp, cpeTypes]

/-! ### Agreement -/

/-- The two views name the same subscribers. -/
def ViewsAgree (db : Database) : Prop :=
  ∀ id : String,
    (∃ p ∈
        (replaySimulationEvents (buildSimulationEventLog db)).serviceProjection.oversubscriptions,
        p.subscriberId = id) ↔
      ∃ dec ∈ (buildCountSemantics db).oversubscriptionMapping, dec.subscriberId = id

private theorem exists_replay_iff {id : String} :
    (∃ p ∈
        (replaySimulationEvents (buildSimulationEventLog db)).serviceProjection.oversubscriptions,
        p.subscriberId = id) ↔
      ∃ d ∈ db.devices, d.id = id ∧ d.type = .aonCpe ∧ wonKey db d = none := by
  simp only [mem_replay_oversubscriptions, mem_mappingDecisions]
  constructor
  · rintro ⟨p, ⟨dec, ⟨d, hd, hdec⟩, hover⟩, hid⟩
    unfold Decision.oversubscription at hover
    split at hover
    · next hc =>
      cases hover
      exact ⟨d, hd, (finalDecision_ids hdec).1.symm.trans hid,
        exists_uncounted_iff.mp ⟨dec, hdec, hc.1, hc.2⟩⟩
    · cases hover
  · rintro ⟨d, hd, hid, hcpe⟩
    obtain ⟨dec, hdec, htype, hcounted⟩ := exists_uncounted_iff.mpr hcpe
    refine ⟨dec.assignment, ⟨dec, ⟨d, hd, hdec⟩, ?_⟩, (finalDecision_ids hdec).1.trans hid⟩
    exact if_pos ⟨htype, hcounted⟩

private theorem exists_mapping_iff {id : String} :
    (∃ dec ∈ (buildCountSemantics db).oversubscriptionMapping, dec.subscriberId = id) ↔
      ∃ d ∈ db.devices, d.id = id ∧ cpeKey db d ≠ none ∧ wonKey db d = none := by
  simp only [buildCountSemantics, List.mem_filter, mem_mappingDecisions, decide_eq_true_eq]
  constructor
  · rintro ⟨dec, ⟨⟨d, hd, hdec⟩, hreason⟩, hid⟩
    exact ⟨d, hd, (finalDecision_ids hdec).1.symm.trans hid,
      exists_oversubscribed_iff.mp ⟨dec, hdec, hreason⟩⟩
  · rintro ⟨d, hd, hid, hlost⟩
    obtain ⟨dec, hdec, hreason⟩ := exists_oversubscribed_iff.mpr hlost
    exact ⟨dec, ⟨⟨d, hd, hdec⟩, hreason⟩, (finalDecision_ids hdec).1.trans hid⟩

/-- The views agree exactly if every CPE is provisioned and linked to an AON switch: the replay
also reports the CPEs that never compete for a port. -/
theorem oversubscriptionViews_agree_iff (db : Database) :
    ViewsAgree db ↔
      ∀ d ∈ db.devices, d.type = .aonCpe → d.provisioned = true ∧ DirectlyOnSwitch db d := by
  unfold ViewsAgree
  simp only [exists_replay_iff, exists_mapping_iff]
  constructor
  · intro h d hd htype
    rw [← cpeKey_ne_none htype]
    cases hw : wonKey db d with
    | some k => simp [(wonKey_eq_some.mp hw).1]
    | none =>
      obtain ⟨d', hd', hid, hkey, _⟩ := (h d.id).mp ⟨d, hd, rfl, htype, hw⟩
      rwa [List.inj_on_of_nodup_map db.devices_nodup hd' hd hid] at hkey
  · intro h id
    constructor
    · rintro ⟨d, hd, hid, htype, hw⟩
      exact ⟨d, hd, hid, (cpeKey_ne_none htype).mpr (h d hd htype), hw⟩
    · rintro ⟨d, hd, hid, hkey, hw⟩
      exact ⟨d, hd, hid, type_of_cpeKey hkey, hw⟩

/-- One AON CPE that is not provisioned, and nothing else. -/
def idleCpe : Database where
  devices := [{ id := "cpe", type := .aonCpe }]
  interfaces := []
  links := []
  devices_nodup := by decide
  interfaces_nodup := List.nodup_nil
  links_nodup := List.nodup_nil

/-- The replay reports a CPE that was never provisioned; the count semantics do not. -/
theorem oversubscriptionViews_differ_idleCpe : ¬ ViewsAgree idleCpe := by
  intro h
  have hreplay : ∃ p ∈ (replaySimulationEvents
      (buildSimulationEventLog idleCpe)).serviceProjection.oversubscriptions,
      p.subscriberId = "cpe" :=
    ⟨⟨"cpe", .aonCpe, none, none, some false, .notProvisioned⟩, by decide +kernel, rfl⟩
  obtain ⟨dec, hdec, _⟩ := (h "cpe").mp hreplay
  have hempty : (buildCountSemantics idleCpe).oversubscriptionMapping = [] := by decide +kernel
  rw [hempty] at hdec
  cases hdec

end Unoc.Subscriber
