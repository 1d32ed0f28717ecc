import Mathlib.Algebra.Order.BigOperators.Group.List
import Unoc.Subscriber.NearestPorts

/-!
# The order of the three counts

The provisioned count of a PON port comes from the trace of the subscriber model, its physical count
from the trace of the count semantics. Both take a nearest port, but the first follows sorted ids
and also crosses CPEs, the second follows the order of the rows. The same holds for the switch that
a CPE is attributed to. So the counts are ordered exactly if no port gains more ONTs from the one order
than it spares in the other, and likewise for switches.
-/

namespace Unoc.Subscriber

open Unoc.Base Unoc.Model

variable {db : Database}

/-! ### Entries by id -/

/-- The ONTs that count on a PON port. -/
def provisionedPon (db : Database) (k : String × String) : Nat :=
  db.devices.countP (fun d ↦ ontKey db d = some k)

/-- The state of a PON port with ONTs. -/
def ponState (db : Database) (k : String × String) : PortState :=
  ⟨provisionedPon db k, ponDefaultCapacity, provisionedPon db k / ponDefaultCapacity,
    subscriberSource⟩

/-- Some ONT counts on a PON port. -/
def Occupied (db : Database) (k : String × String) : Prop := ∃ d ∈ db.devices, ontKey db d = some k

private theorem Occupied.eq_of_snd {k k' : String × String} (h : Occupied db k)
    (h' : Occupied db k')
    (hs : k.2 = k'.2) : k = k' := by
  obtain ⟨_, _, hk⟩ := h
  obtain ⟨_, _, hk'⟩ := h'
  exact (isPort_ontKey hk).eq_of_snd (isPort_ontKey hk') hs

private theorem mem_ponOccupancy {k : String × String} :
    k ∈ (resolveSubscriberModel db).ponOccupancy ↔ Occupied db k := by
  rw [resolve_ponOccupancy, Dict.mem_foldl_count]
  simp only [mem_sortedDevices, Occupied]

private theorem countP_sortedDevices (p : Device → Bool) :
    (sortedDevices db).countP p = db.devices.countP p :=
  (List.perm_insertionSort _ db.devices).countP_eq p

private theorem lookup_ponOccupancy_getD (k : String × String) :
    ((resolveSubscriberModel db).ponOccupancy.lookup k).getD 0 = provisionedPon db k := by
  rw [resolve_ponOccupancy, Dict.lookup_foldl_count, countP_sortedDevices]
  rfl

private theorem ponPorts_of_occupied {k : String × String} (hk : Occupied db k) :
    (resolveSubscriberModel db).ponPorts k = some (ponState db k) := by
  obtain ⟨count, hcount⟩ := Option.isSome_iff_exists.mp
    (AList.lookup_isSome.mpr (mem_ponOccupancy.mpr hk))
  have hvalue := @lookup_ponOccupancy_getD db k
  rw [hcount, Option.getD_some] at hvalue
  show ((resolveSubscriberModel db).ponOccupancy.lookup k).map _ = _
  rw [hcount, hvalue]
  rfl

private theorem mem_ponEntries {e : CountEntry} :
    e ∈ ponEntries db (resolveSubscriberModel db) ↔
      ∃ k, Occupied db k ∧ e = ponEntry db k (ponState db k) := by
  simp only [ponEntries, ponPortKeys, List.mem_filterMap, List.mem_insertionSort]
  constructor
  · rintro ⟨k, hk, he⟩
    have hocc := mem_ponOccupancy.mp (AList.mem_keys.mpr hk)
    rw [ponPorts_of_occupied hocc] at he
    exact ⟨k, hocc, (Option.some.inj he).symm⟩
  · rintro ⟨k, hocc, rfl⟩
    refine ⟨k, AList.mem_keys.mp (mem_ponOccupancy.mpr hocc), ?_⟩
    rw [ponPorts_of_occupied hocc]
    rfl

private theorem find?_eq_some_of_unique {α : Type} {p : α → Bool} {xs : List α} {x : α}
    (hmem : x ∈ xs) (hx : p x = true) (hunique : ∀ y ∈ xs, p y = true → y = x) :
    xs.find? p = some x := by
  cases hf : xs.find? p with
  | none => exact absurd hx (List.find?_eq_none.mp hf x hmem)
  | some y => rw [hunique y (List.mem_of_find?_eq_some hf) (List.find?_some hf)]

private theorem lookup_countModel (id : String) :
    (buildCountSemantics db).devices.lookup id =
      ((ponEntries db (resolveSubscriberModel db)).reverse.find? (fun e ↦ e.deviceId = id)).or
        (((sortedDevices db).map (deviceEntry db (resolveSubscriberModel db))).reverse.find?
          (fun e ↦ e.deviceId = id)) := by
  show (countModel db (resolveSubscriberModel db)).lookup id = _
  unfold countModel
  rw [Dict.lookup_foldl_insert CountEntry.deviceId (fun e ↦ e), List.reverse_append,
    List.find?_append]
  simp

/-- The entry of an occupied PON port. -/
theorem lookup_of_occupied {k : String × String} (hk : Occupied db k) :
    (buildCountSemantics db).devices.lookup k.2 = some (ponEntry db k (ponState db k)) := by
  have hfind : (ponEntries db (resolveSubscriberModel db)).reverse.find?
      (fun e ↦ e.deviceId = k.2) =
      some (ponEntry db k (ponState db k)) := by
    apply find?_eq_some_of_unique
    · exact List.mem_reverse.mpr (mem_ponEntries.mpr ⟨k, hk, rfl⟩)
    · simp [ponEntry]
    · intro e he hid
      obtain ⟨k', hk', rfl⟩ := mem_ponEntries.mp (List.mem_reverse.mp he)
      rw [hk'.eq_of_snd hk (of_decide_eq_true hid)]
  rw [lookup_countModel, hfind]
  rfl

/-- The entry of a device whose id is not that of an occupied PON port. -/
theorem lookup_of_device {d : Device} (hd : d ∈ db.devices)
    (hfree : ∀ k, Occupied db k → k.2 ≠ d.id) :
    (buildCountSemantics db).devices.lookup d.id =
      some (deviceEntry db (resolveSubscriberModel db) d) := by
  have hnone : (ponEntries db (resolveSubscriberModel db)).reverse.find?
      (fun e ↦ e.deviceId = d.id) = none := by
    apply List.find?_eq_none.mpr
    intro e he
    obtain ⟨k, hk, rfl⟩ := mem_ponEntries.mp (List.mem_reverse.mp he)
    exact fun hid ↦ hfree k hk (of_decide_eq_true hid)
  have hfind : ((sortedDevices db).map (deviceEntry db (resolveSubscriberModel db))).reverse.find?
      (fun e ↦ e.deviceId = d.id) = some (deviceEntry db (resolveSubscriberModel db) d) := by
    apply find?_eq_some_of_unique
    · exact List.mem_reverse.mpr (List.mem_map_of_mem (mem_sortedDevices.mpr hd))
    · simp [deviceEntry]
    · intro e he hid
      obtain ⟨x, hx, rfl⟩ := List.mem_map.mp (List.mem_reverse.mp he)
      have hxd : x.id = d.id := of_decide_eq_true hid
      rw [List.inj_on_of_nodup_map db.devices_nodup (mem_sortedDevices.mp hx) hd hxd]
  rw [lookup_countModel, hnone, hfind]
  rfl

/-- Every entry is that of an occupied PON port or of a device. -/
theorem entry_cases {id : String} {e : CountEntry}
    (h : (buildCountSemantics db).devices.lookup id = some e) :
    (∃ k, Occupied db k ∧ e = ponEntry db k (ponState db k)) ∨
      ∃ d ∈ db.devices, (∀ k, Occupied db k → k.2 ≠ d.id) ∧
        e = deviceEntry db (resolveSubscriberModel db) d := by
  by_cases hport : ∃ k, Occupied db k ∧ k.2 = id
  · obtain ⟨k, hk, rfl⟩ := hport
    rw [lookup_of_occupied hk] at h
    exact Or.inl ⟨k, hk, (Option.some.inj h).symm⟩
  · right
    rw [lookup_countModel, Option.or_eq_some_iff] at h
    cases h with
    | inl hfind =>
      have hid : e.deviceId = id := by simpa using List.find?_some hfind
      obtain ⟨k, hk, rfl⟩ := mem_ponEntries.mp
          (List.mem_reverse.mp (List.mem_of_find?_eq_some hfind))
      exact absurd ⟨k, hk, hid⟩ hport
    | inr hfind =>
      have hid : e.deviceId = id := by simpa using List.find?_some hfind.2
      obtain ⟨d, hd, rfl⟩ :=
        List.mem_map.mp (List.mem_reverse.mp (List.mem_of_find?_eq_some hfind.2))
      exact ⟨d, mem_sortedDevices.mp hd, fun k hk hkd ↦ hport ⟨k, hk, hkd.trans hid⟩, rfl⟩

/-! ### The counts of an anchor -/

private theorem isLeaf_olt {d : Device} (ht : d.type = .olt) : isLeaf d = false := by
  simp [isLeaf, ht, ontTypes, cpeTypes]

private theorem isLeaf_aonSwitch {d : Device} (ht : d.type = .aonSwitch) : isLeaf d = false := by
  simp [isLeaf, ht, ontTypes, cpeTypes]

/-- The subscribers of an anchor are the leaves that count on it. -/
theorem nodeSubscribers_anchor {e : Device} (he : e ∈ db.devices) (domain : Domain)
    (ht : e.type = anchorType domain) :
    nodeSubscribers (resolveSubscriberModel db) e.id =
      db.devices.countP (fun d ↦ (boundKey db domain d).map Prod.fst = some e.id) := by
  have hnodes : (resolveSubscriberModel db).resolvedSubscribers = db.devices.map (finalNode db) :=
    secondPass_perNode
  have hfind : (resolveSubscriberModel db).resolvedSubscribers.find? (fun n ↦ n.id = e.id) =
      some (finalNode db e) := by
    rw [hnodes]
    apply find?_eq_some_of_unique (List.mem_map_of_mem he)
    · simp
    · intro n hn hid
      obtain ⟨x, hx, rfl⟩ := List.mem_map.mp hn
      rw [List.inj_on_of_nodup_map db.devices_nodup hx he (by simpa using hid)]
  unfold nodeSubscribers
  rw [hfind, Option.map_some, Option.getD_some, (lists_finalNode he domain ht).subscribers, idsOn,
    List.length_map, ← List.countP_eq_length_filter, countP_sortedDevices]

private theorem sumOverPorts_eq (a : String) :
    ∃ ks : List (String × String), ks.Nodup ∧ (∀ k, k ∈ ks ↔ Occupied db k ∧ k.1 = a) ∧
      sumOverPorts (resolveSubscriberModel db).ponOccupancy a =
        (ks.map (provisionedPon db)).sum := by
  generalize hm : (resolveSubscriberModel db).ponOccupancy = m
  refine ⟨(m.entries.filter (fun e ↦ e.1.1 = a)).map Sigma.fst, ?_, ?_, ?_⟩
  · exact m.keys_nodup.sublist (List.filter_sublist.map _)
  · intro k
    rw [← mem_ponOccupancy, hm, AList.mem_keys]
    simp only [AList.keys, List.keys, List.mem_map, List.mem_filter, decide_eq_true_eq]
    constructor
    · rintro ⟨e, ⟨he, hea⟩, rfl⟩
      exact ⟨⟨e, he, rfl⟩, hea⟩
    · rintro ⟨⟨e, he, rfl⟩, hea⟩
      exact ⟨e, ⟨he, hea⟩, rfl⟩
  · unfold sumOverPorts
    rw [List.map_map]
    congr 1
    apply List.map_congr_left
    rintro ⟨k, count⟩ he
    have hlookup : m.lookup k = some count := AList.mem_lookup_iff.mpr (List.mem_of_mem_filter he)
    have hvalue := @lookup_ponOccupancy_getD db k
    rw [hm, hlookup, Option.getD_some] at hvalue
    exact hvalue

/-- The ports of an OLT add up to the ONTs that count on it. -/
theorem sumOverPorts_ponOccupancy (a : String) :
    sumOverPorts (resolveSubscriberModel db).ponOccupancy a =
      db.devices.countP (fun d ↦ (ontKey db d).map Prod.fst = some a) := by
  obtain ⟨ks, hnodup, hmem, hsum⟩ := @sumOverPorts_eq db a
  rw [hsum]
  unfold provisionedPon
  rw [Dict.sum_countP_mem hnodup]
  apply List.countP_congr
  intro d hd
  simp only [decide_eq_true_eq, hmem, Option.map_eq_some_iff]
  constructor
  · rintro ⟨k, ⟨_, hka⟩, hk⟩
    exact ⟨k, hk, hka⟩
  · rintro ⟨k, hk, hka⟩
    exact ⟨k, ⟨⟨d, hd, hk⟩, hka⟩, hk⟩

/-- If no port has more provisioned than physical ONTs, no OLT has. -/
theorem sumOverPorts_le_physical
    (h : ∀ k, provisionedPon db k ≤ physicalPon db k) (a : String) :
    sumOverPorts (resolveSubscriberModel db).ponOccupancy a ≤
      db.devices.countP (fun d ↦ (physicalOntKey db d).map Prod.fst = some a) := by
  obtain ⟨ks, hnodup, hmem, hsum⟩ := @sumOverPorts_eq db a
  have hports : (ks.map (provisionedPon db)).sum ≤ (ks.map (physicalPon db)).sum :=
    List.sum_le_sum (fun k _ ↦ h k)
  have hphysical : (ks.map (physicalPon db)).sum ≤
      db.devices.countP (fun d ↦ (physicalOntKey db d).map Prod.fst = some a) := by
    unfold physicalPon
    rw [Dict.sum_countP_mem hnodup]
    apply List.countP_mono_left
    intro d _ hd
    obtain ⟨k, hk, hdk⟩ := of_decide_eq_true hd
    simpa [hdk] using ((hmem k).mp hk).2
  rw [hsum]
  exact hports.trans hphysical

/-! ### The order of the counts -/

/-- Whether an entry is that of an OLT, an AON switch or a PON port. -/
def CountEntry.IsAnchor (e : CountEntry) : Prop :=
  e.deviceType = .device .olt ∨ e.deviceType = .device .aonSwitch ∨ e.deviceType = .pon

/-- The counts of an entry are ordered. -/
def CountEntry.Ordered (e : CountEntry) : Prop :=
  e.effectiveCount ≤ e.provisionedCount ∧ e.provisionedCount ≤ e.physicalCount

private theorem ordered_ponEntry {k : String × String} :
    (ponEntry db k (ponState db k)).Ordered ↔ provisionedPon db k ≤ physicalPon db k :=
  and_iff_right (le_refl _)

/-- The entry of an OLT counts its provisioned ONTs twice. -/
theorem ordered_oltEntry {e : Device} (he : e ∈ db.devices) (ht : e.type = .olt) :
    (deviceEntry db (resolveSubscriberModel db) e).Ordered ↔
      sumOverPorts (resolveSubscriberModel db).ponOccupancy e.id ≤
        db.devices.countP (fun d ↦ (physicalOntKey db d).map Prod.fst = some e.id) := by
  have heffective : effectiveCount (resolveSubscriberModel db) e =
      sumOverPorts (resolveSubscriberModel db).ponOccupancy e.id := by
    simp only [effectiveCount, isLeaf_olt ht, ht]
    rw [sumOverPorts_ponOccupancy]
    exact nodeSubscribers_anchor he .olt ht
  simp only [CountEntry.Ordered, deviceEntry, heffective, provisionedCount, physicalCount, ht]
  exact and_iff_right (le_refl _)

/-- The provisioned CPEs of a switch are among its physical ones. -/
theorem ordered_aonEntry {e : Device} (he : e ∈ db.devices) (ht : e.type = .aonSwitch) :
    (deviceEntry db (resolveSubscriberModel db) e).Ordered ↔
      db.devices.countP (fun d ↦ (wonKey db d).map Prod.fst = some e.id) ≤
        db.devices.countP (fun d ↦ (provisionedCpeKey db d).map Prod.fst = some e.id) := by
  have heffective : effectiveCount (resolveSubscriberModel db) e =
      db.devices.countP (fun d ↦ (wonKey db d).map Prod.fst = some e.id) := by
    simp only [effectiveCount, isLeaf_aonSwitch ht, ht]
    exact nodeSubscribers_anchor he .aon ht
  have hphysical : db.devices.countP (fun d ↦ (provisionedCpeKey db d).map Prod.fst = some e.id) ≤
      db.devices.countP (fun d ↦ (physicalCpeKey db d).map Prod.fst = some e.id) := by
    apply List.countP_mono_left
    intro d _ hd
    unfold provisionedCpeKey at hd
    split at hd
    · exact hd
    · simp at hd
  simp only [CountEntry.Ordered, deviceEntry, heffective, provisionedCount, physicalCount, ht]
  exact and_iff_left hphysical

/-- The counts of every OLT, AON switch and PON port are ordered. -/
def CountsOrdered (db : Database) : Prop :=
  ∀ id e, (buildCountSemantics db).devices.lookup id = some e → e.IsAnchor → e.Ordered

/-- The counts are ordered where no port or switch has more provisioned than physical leaves. -/
private theorem counts_ordered_iff_keys :
    CountsOrdered db ↔ (∀ k, provisionedPon db k ≤ physicalPon db k) ∧
      ∀ s ∈ db.devices, s.type = .aonSwitch → (∀ k, Occupied db k → k.2 ≠ s.id) →
        db.devices.countP (fun d ↦ (wonKey db d).map Prod.fst = some s.id) ≤
          db.devices.countP (fun d ↦ (provisionedCpeKey db d).map Prod.fst = some s.id) := by
  unfold CountsOrdered
  constructor
  · intro h
    constructor
    · intro k
      by_cases hk : Occupied db k
      · have hordered := h k.2 _ (lookup_of_occupied hk) (Or.inr (Or.inr rfl))
        exact ordered_ponEntry.mp hordered
      · have hzero : provisionedPon db k = 0 := by
          apply List.countP_eq_zero.mpr
          intro d hd hdk
          exact hk ⟨d, hd, of_decide_eq_true hdk⟩
        omega
    · intro s hs ht hfree
      have hordered := h s.id _ (lookup_of_device hs hfree)
        (Or.inr (Or.inl (by simp [deviceEntry, ht])))
      exact (ordered_aonEntry hs ht).mp hordered
  · rintro ⟨hpon, haon⟩ id e he hanchor
    cases entry_cases he with
    | inl hport =>
      obtain ⟨k, _, rfl⟩ := hport
      exact ordered_ponEntry.mpr (hpon k)
    | inr hdevice =>
      obtain ⟨d, hd, hfree, rfl⟩ := hdevice
      simp only [CountEntry.IsAnchor, deviceEntry, EntryType.device.injEq, reduceCtorEq,
        or_false] at hanchor
      cases hanchor with
      | inl ht => exact (ordered_oltEntry hd ht).mpr (sumOverPorts_le_physical hpon d.id)
      | inr ht => exact (ordered_aonEntry hd ht).mpr (haon d hd ht hfree)

/-! ### Where the attributions differ -/

/-- A provisioned ONT whose nearest port is another one by rows than by names and ids. -/
def Gains (db : Database) (port : String) (d : Device) : Prop :=
  ontTypes d.type = true ∧ d.provisioned = true ∧ NearestPort db .ids d port ∧
    ¬ NearestPort db .rows d port

/-- An ONT on a port by rows that the subscriber model does not count there: it is not provisioned, or
another port is nearest by names and ids. -/
def Spares (db : Database) (port : String) (d : Device) : Prop :=
  ontTypes d.type = true ∧ NearestPort db .rows d port ∧
    ¬ (d.provisioned = true ∧ NearestPort db .ids d port)

/-- A port of a switch that is the first one of some provisioned CPE by names and ids. -/
def Serves (db : Database) (switch : String) (port : Interface) : Prop :=
  port.deviceId = switch ∧ ∃ d ∈ db.devices, cpeTypes d.type = true ∧ d.provisioned = true ∧
    FirstSwitchPort db .ids d port.id

/-- A provisioned CPE whose first switch port by rows is one of a switch. -/
def Attached (db : Database) (switch : String) (d : Device) : Prop :=
  cpeTypes d.type = true ∧ d.provisioned = true ∧
    ∃ i ∈ db.interfaces, i.deviceId = switch ∧ FirstSwitchPort db .rows d i.id

open Classical in
/-- The two orders agree well enough: each PON port spares as many ONTs as it gains, and each switch
whose id is not that of a nearest PON port has as many CPEs attached as ports that serve one. -/
structure OrdersFit (db : Database) : Prop where
  pon : ∀ i ∈ db.interfaces, isPonPort db i.id = true →
    db.devices.countP (fun d ↦ Gains db i.id d) ≤ db.devices.countP (fun d ↦ Spares db i.id d)
  aon : ∀ s ∈ db.devices, s.type = .aonSwitch →
    (∀ d ∈ db.devices, ontTypes d.type = true → d.provisioned = true →
      ¬ NearestPort db .ids d s.id) →
    db.interfaces.countP (fun i ↦ Serves db s.id i) ≤
      db.devices.countP (fun d ↦ Attached db s.id d)

private theorem countP_le_iff_diff {α : Type} (P Q : α → Prop) [DecidablePred P] [DecidablePred Q]
    (xs : List α) :
    xs.countP P ≤ xs.countP Q ↔
      xs.countP (fun x ↦ P x ∧ ¬ Q x) ≤ xs.countP (fun x ↦ Q x ∧ ¬ P x) := by
  have hsplit : ∀ (P Q : α → Prop) [DecidablePred P] [DecidablePred Q], xs.countP P =
      xs.countP (fun x ↦ P x ∧ Q x) + xs.countP (fun x ↦ P x ∧ ¬ Q x) := by
    intro P Q _ _
    rw [List.countP_eq_countP_filter_add xs (fun x ↦ decide (P x)) (fun x ↦ decide (Q x)),
      List.countP_filter, List.countP_filter]
    simp
  have hboth : xs.countP (fun x ↦ P x ∧ Q x) = xs.countP (fun x ↦ Q x ∧ P x) := by
    simp only [and_comm]
  rw [hsplit P Q, hsplit Q P, hboth]
  omega

private theorem sum_map_ite {α : Type} (P : α → Prop) [DecidablePred P] (xs : List α) :
    (xs.map (fun x ↦ if P x then 1 else 0)).sum = xs.countP P := by
  induction xs with
  | nil => rfl
  | cons x xs ih =>
    rw [List.map_cons, List.sum_cons, ih, List.countP_cons, Nat.add_comm]
    simp only [decide_eq_true_eq]

section Classical

open Classical

/-- A port has no more provisioned than physical ONTs exactly if it spares as many as it gains. -/
private theorem provisionedPon_le_iff {k : String × String} (hport : IsPort db .olt k) :
    provisionedPon db k ≤ physicalPon db k ↔
      db.devices.countP (fun d ↦ Gains db k.2 d) ≤ db.devices.countP (fun d ↦ Spares db k.2 d) := by
  have hprovisioned : provisionedPon db k = db.devices.countP (fun d ↦
      ontTypes d.type = true ∧ d.provisioned = true ∧ NearestPort db .ids d k.2) := by
    unfold provisionedPon
    simp only [ontKey_eq_some_iff, hport, true_and]
  have hphysical : physicalPon db k = db.devices.countP (fun d ↦
      ontTypes d.type = true ∧ NearestPort db .rows d k.2) := by
    unfold physicalPon
    simp only [physicalOntKey_eq_some_iff, hport, true_and]
  rw [hprovisioned, hphysical, countP_le_iff_diff]
  have hgains : ∀ d, ((ontTypes d.type = true ∧ d.provisioned = true ∧ NearestPort db .ids d k.2) ∧
      ¬ (ontTypes d.type = true ∧ NearestPort db .rows d k.2)) ↔ Gains db k.2 d := by
    intro d
    unfold Gains
    tauto
  have hspares : ∀ d, ((ontTypes d.type = true ∧ NearestPort db .rows d k.2) ∧
      ¬ (ontTypes d.type = true ∧ d.provisioned = true ∧ NearestPort db .ids d k.2)) ↔
        Spares db k.2 d := by
    intro d
    unfold Spares
    tauto
  simp only [hgains, hspares]

private theorem pon_fits_iff :
    (∀ k, provisionedPon db k ≤ physicalPon db k) ↔
      ∀ i ∈ db.interfaces, isPonPort db i.id = true →
        db.devices.countP (fun d ↦ Gains db i.id d) ≤ db.devices.countP (fun d ↦ Spares db i.id d) := by
  constructor
  · intro h i _ hi
    obtain ⟨j, _, _, hport⟩ := isPort_of_isPonPort hi
    exact (provisionedPon_le_iff hport).mp (h _)
  · intro h k
    by_cases hk : Occupied db k
    · obtain ⟨d, _, hdk⟩ := hk
      obtain ⟨_, _, hport, hnearest⟩ := ontKey_eq_some_iff.mp hdk
      obtain ⟨i, hi, hid, _⟩ := isPort_of_isPonPort hnearest.goal_eq
      have hcount := h i hi (by rw [hid]; exact hnearest.goal_eq)
      rw [hid] at hcount
      exact (provisionedPon_le_iff hport).mpr hcount
    · have hzero : provisionedPon db k = 0 := by
        apply List.countP_eq_zero.mpr
        intro d hd hdk
        exact hk ⟨d, hd, of_decide_eq_true hdk⟩
      omega

/-- A switch has a CPE counted for each port that serves one. -/
private theorem countP_wonKey_switch (s : String) :
    db.devices.countP (fun d ↦ (wonKey db d).map Prod.fst = some s) =
      db.interfaces.countP (fun i ↦ Serves db s i) := by
  have hnodup : ((db.interfaces.filter (fun i ↦ i.deviceId = s)).map (fun i ↦ (s, i.id))).Nodup := by
    have hids : ((db.interfaces.filter (fun i ↦ i.deviceId = s)).map Interface.id).Nodup :=
      db.interfaces_nodup.sublist (List.filter_sublist.map _)
    rw [show (fun i : Interface ↦ (s, i.id)) = (fun id ↦ (s, id)) ∘ Interface.id from rfl,
      ← List.map_map]
    exact hids.map (fun _ _ h ↦ (Prod.mk.inj h).2)
  have hone : ∀ i : Interface, db.devices.countP (fun d ↦ wonKey db d = some (s, i.id)) =
      if ∃ d ∈ db.devices, cpeKey db d = some (s, i.id) then 1 else 0 := by
    intro i
    split
    · next h =>
      obtain ⟨d, hd, hdk⟩ := h
      rw [← countP_sortedDevices]
      exact countP_wonKey hd hdk
    · next h =>
      apply List.countP_eq_zero.mpr
      intro d hd hdk
      exact h ⟨d, hd, (wonKey_eq_some.mp (of_decide_eq_true hdk)).1⟩
  have hkeys : ∀ d ∈ db.devices, (decide ((wonKey db d).map Prod.fst = some s) = true ↔
      @decide (∃ k ∈ (db.interfaces.filter (fun i ↦ i.deviceId = s)).map (fun i ↦ (s, i.id)),
        wonKey db d = some k) (List.decidableBEx _ _) = true) := by
    intro d _
    simp only [decide_eq_true_eq, Option.map_eq_some_iff]
    constructor
    · rintro ⟨k, hk, rfl⟩
      obtain ⟨_, _, i, hi, _, _, hdev, hid⟩ := isPort_cpeKey (wonKey_eq_some.mp hk).1
      refine ⟨k, List.mem_map.mpr ⟨i, List.mem_filter.mpr ⟨hi, by simpa using hdev⟩, ?_⟩, hk⟩
      exact Prod.ext rfl hid
    · rintro ⟨k, hk, hdk⟩
      obtain ⟨i, _, rfl⟩ := List.mem_map.mp hk
      exact ⟨_, hdk, rfl⟩
  have hsum := Dict.sum_countP_mem hnodup (wonKey db) db.devices
  refine ((List.countP_congr hkeys).trans hsum.symm).trans ?_
  rw [List.map_map]
  have hmap : ((fun k ↦ db.devices.countP (fun d ↦ decide (wonKey db d = some k))) ∘
      fun i : Interface ↦ (s, i.id)) =
      fun i ↦ if ∃ d ∈ db.devices, cpeKey db d = some (s, i.id) then 1 else 0 := funext hone
  rw [hmap, sum_map_ite, List.countP_filter]
  apply List.countP_congr
  intro i hi
  simp only [Bool.and_eq_true, decide_eq_true_eq]
  simp only [Serves, cpeKey_eq_some_iff]
  constructor
  · rintro ⟨⟨d, hd, hcpe, hprov, _, hfirst⟩, hs⟩
    exact ⟨hs, d, hd, hcpe, hprov, hfirst⟩
  · rintro ⟨rfl, d, hd, hcpe, hprov, hfirst⟩
    obtain ⟨j, hj, hji, hport⟩ := isPort_of_isSwitchPort (List.find?_some hfirst)
    have hji : j = i := List.inj_on_of_nodup_map db.interfaces_nodup hj hi hji
    exact ⟨⟨d, hd, hcpe, hprov, hji ▸ hport, hfirst⟩, rfl⟩

/-- The provisioned CPEs of a switch are those attached to it. -/
private theorem countP_provisionedCpeKey (s : String) :
    db.devices.countP (fun d ↦ (provisionedCpeKey db d).map Prod.fst = some s) =
      db.devices.countP (fun d ↦ Attached db s d) := by
  apply List.countP_congr
  intro d _
  simp only [decide_eq_true_eq, Option.map_eq_some_iff, provisionedCpeKey,
    Option.ite_none_right_eq_some, physicalCpeKey_eq_some_iff]
  constructor
  · rintro ⟨k, ⟨hprov, hcpe, ⟨_, _, i, hi, _, _, hdev, hid⟩, hfirst⟩, rfl⟩
    exact ⟨hcpe, hprov, i, hi, hdev, hid ▸ hfirst⟩
  · rintro ⟨hcpe, hprov, i, hi, rfl, hfirst⟩
    obtain ⟨j, hj, hji, hport⟩ := isPort_of_isSwitchPort (List.find?_some hfirst)
    have hji : j = i := List.inj_on_of_nodup_map db.interfaces_nodup hj hi hji
    exact ⟨_, ⟨hprov, hcpe, hji ▸ hport, hfirst⟩, rfl⟩

end Classical

/-- The id of a device is that of an occupied port exactly if it is that of a nearest one. -/
private theorem free_iff (id : String) : (∀ k, Occupied db k → k.2 ≠ id) ↔
    ∀ d ∈ db.devices, ontTypes d.type = true → d.provisioned = true →
      ¬ NearestPort db .ids d id := by
  constructor
  · intro h d hd hont hprov hnearest
    obtain ⟨i, _, _, hport⟩ := isPort_of_isPonPort hnearest.goal_eq
    exact h _ ⟨d, hd, ontKey_eq_some_iff.mpr ⟨hont, hprov, hport, hnearest⟩⟩ rfl
  · rintro h k ⟨d, hd, hdk⟩ rfl
    obtain ⟨hont, hprov, _, hnearest⟩ := ontKey_eq_some_iff.mp hdk
    exact h d hd hont hprov hnearest

/-- The counts of every anchor are ordered exactly if the two orders in which the traces follow the rows
agree well enough. -/
theorem counts_ordered_iff (db : Database) : CountsOrdered db ↔ OrdersFit db := by
  rw [counts_ordered_iff_keys, pon_fits_iff]
  constructor
  · rintro ⟨hpon, haon⟩
    refine ⟨hpon, fun s hs ht hfree ↦ ?_⟩
    have hcount := haon s hs ht ((free_iff s.id).mpr hfree)
    rwa [countP_wonKey_switch, countP_provisionedCpeKey] at hcount
  · rintro ⟨hpon, haon⟩
    refine ⟨hpon, fun s hs ht hfree ↦ ?_⟩
    rw [countP_wonKey_switch, countP_provisionedCpeKey]
    exact haon s hs ht ((free_iff s.id).mp hfree)

open Classical in
/-- The orders differ on ties only: they agree where each provisioned ONT has one nearest port by rows, the
one by names and ids, and each provisioned CPE has its first switch ports on one switch. -/
theorem OrdersFit.of_single
    (hont : ∀ d ∈ db.devices, ontTypes d.type = true → d.provisioned = true →
      ∀ port, NearestPort db .ids d port → OnlyNearestPort db .rows d port)
    (hcpe : ∀ d ∈ db.devices, cpeTypes d.type = true → d.provisioned = true →
      ∀ i ∈ db.interfaces, FirstSwitchPort db .ids d i.id →
        ∃ j ∈ db.interfaces, j.deviceId = i.deviceId ∧ FirstSwitchPort db .rows d j.id) :
    OrdersFit db := by
  constructor
  · intro i _ _
    rw [List.countP_eq_zero.mpr]
    · exact Nat.zero_le _
    · intro d hd hgains
      obtain ⟨htype, hprov, hids, hrows⟩ := of_decide_eq_true hgains
      exact hrows (hont d hd htype hprov i.id hids).nearest
  · intro s _ _ _
    rw [← countP_wonKey_switch]
    apply List.countP_mono_left
    intro d hd hwon
    obtain ⟨k, hk, hks⟩ := Option.map_eq_some_iff.mp (of_decide_eq_true hwon)
    obtain ⟨htype, hprov, ⟨_, _, i, hi, _, _, hdev, hid⟩, hfirst⟩ :=
      cpeKey_eq_some_iff.mp (wonKey_eq_some.mp hk).1
    obtain ⟨j, hj, hji, hrows⟩ := hcpe d hd htype hprov i hi (hid ▸ hfirst)
    exact decide_eq_true ⟨htype, hprov, j, hj, hji.trans (hdev.trans hks), hrows⟩

/-- A provisioned ONT on a splitter with uplinks to two PON ports of one OLT; port `p10` sorts
before `p2` but has the later row. -/
def twoUplinks : Database where
  devices := [{ id := "olt", type := .olt }, { id := "splitter", type := .splitter },
    { id := "ont", type := .ont, provisioned := true }]
  interfaces := [{ id := "olt-2", deviceId := "olt", name := "2", portRole := some .pon },
    { id := "olt-10", deviceId := "olt", name := "10", portRole := some .pon },
    { id := "splitter-p1", deviceId := "splitter", name := "p1" },
    { id := "splitter-p2", deviceId := "splitter", name := "p2" },
    { id := "splitter-p10", deviceId := "splitter", name := "p10" },
    { id := "ont-0", deviceId := "ont", name := "0" }]
  links := [{ id := "l1", aInterfaceId := "ont-0", bInterfaceId := "splitter-p1" },
    { id := "l2", aInterfaceId := "splitter-p2", bInterfaceId := "olt-2" },
    { id := "l3", aInterfaceId := "splitter-p10", bInterfaceId := "olt-10" }]

/-- The subscriber model counts the ONT on port 10, the count semantics on port 2. -/
theorem counts_not_ordered_twoUplinks : ¬ CountsOrdered twoUplinks := by
  intro h
  have hkey : ontKey twoUplinks { id := "ont", type := .ont, provisioned := true } =
      some ("olt", "olt-10") := by decide +kernel
  have hoccupied : Occupied twoUplinks ("olt", "olt-10") := ⟨_, by decide, hkey⟩
  have hordered := ordered_ponEntry.mp (h _ _ (lookup_of_occupied hoccupied) (Or.inr (Or.inr rfl)))
  have hphysical : physicalPon twoUplinks ("olt", "olt-10") = 0 := by decide +kernel
  have hont : { id := "ont", type := .ont, provisioned := true } ∈ twoUplinks.devices := by decide
  have hprovisioned : 0 < provisionedPon twoUplinks ("olt", "olt-10") :=
    List.countP_pos_iff.mpr ⟨_, hont, by simpa using hkey⟩
  omega

end Unoc.Subscriber
