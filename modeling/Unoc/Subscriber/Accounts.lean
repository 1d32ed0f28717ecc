import Unoc.Subscriber.SecondPass

/-!
# The accounts of subscriber aggregation

Every account of the result counts the same leaves: the ONTs that have a PON port, and the CPEs
that won their AON port.
-/

namespace Unoc.Subscriber

open Unoc.Base Unoc.Model

variable {db : Database}

/-! ### The CPE that a port serves -/

/-- The CPEs on an AON port. -/
def candidateIds (db : Database) (k : String × String) : List String :=
  ((sortedDevices db).filter (fun d ↦ cpeKey db d = some k)).map Device.id

/-- The CPE that an AON port serves: the first by id. -/
def winner (db : Database) (k : String × String) : Option String :=
  (sortIds (candidateIds db k)).head?

/-- The AON port on which a CPE counts. -/
def wonKey (db : Database) (d : Device) : Option (String × String) :=
  (cpeKey db d).filter (fun k ↦ winner db k = some d.id)

/-- A CPE wins its port if it comes first among the candidates. -/
theorem wonKey_eq_some {d : Device} {k : String × String} :
    wonKey db d = some k ↔ cpeKey db d = some k ∧ winner db k = some d.id := by
  simp [wonKey, Option.filter_eq_some_iff]

private theorem mem_candidateIds {k : String × String} {id : String} :
    id ∈ candidateIds db k ↔ ∃ d ∈ db.devices, cpeKey db d = some k ∧ d.id = id := by
  simp [candidateIds, mem_sortedDevices, and_assoc]

/-- The served CPE is on the port. -/
theorem exists_of_winner {k : String × String} {id : String} (h : winner db k = some id) :
    ∃ d ∈ db.devices, cpeKey db d = some k ∧ d.id = id := by
  apply mem_candidateIds.mp
  exact (perm_sortIds _).mem_iff.mp (List.mem_of_mem_head? h)

/-- A port with a CPE serves one. -/
theorem exists_winner {d : Device} {k : String × String} (hd : d ∈ db.devices)
    (hk : cpeKey db d = some k) : ∃ id, winner db k = some id := by
  have hmem : d.id ∈ sortIds (candidateIds db k) :=
    (perm_sortIds _).mem_iff.mpr (mem_candidateIds.mpr ⟨d, hd, hk, rfl⟩)
  cases hs : sortIds (candidateIds db k) with
  | nil => simp [hs] at hmem
  | cons id ids => exact ⟨id, by simp [winner, hs]⟩

/-- An id belongs to one device. -/
theorem countP_id {d : Device} (hd : d ∈ db.devices) :
    (sortedDevices db).countP (fun x ↦ x.id = d.id) = 1 := by
  have hone := List.count_eq_one_of_mem nodup_sortedDevices
    (List.mem_map.mpr ⟨d, mem_sortedDevices.mpr hd, rfl⟩)
  rw [List.count_eq_countP, List.countP_map] at hone
  simpa [Function.comp_def, beq_eq_decide] using hone

/-- A port serves exactly one CPE. -/
theorem countP_wonKey {d : Device} {k : String × String} (hd : d ∈ db.devices)
    (hk : cpeKey db d = some k) : (sortedDevices db).countP (fun d ↦ wonKey db d = some k) = 1 := by
  obtain ⟨id, hid⟩ := exists_winner hd hk
  obtain ⟨w, hw, hwk, rfl⟩ := exists_of_winner hid
  have hiff : ∀ x ∈ sortedDevices db,
      decide (wonKey db x = some k) = true ↔ decide (x.id = w.id) = true := by
    intro x hx
    simp only [decide_eq_true_eq, wonKey_eq_some, hid, Option.some.injEq]
    constructor
    · exact fun h ↦ h.2.symm
    · intro h
      have hxw : x = w :=
        List.inj_on_of_nodup_map db.devices_nodup (mem_sortedDevices.mp hx) hw h
      exact ⟨hxw ▸ hwk, h.symm⟩
  rw [List.countP_congr hiff]
  exact countP_id hw

/-! ### Decisions -/

/-- The decision of a device in the result. -/
def finalDecision (db : Database) (d : Device) : Option Decision :=
  (initialDecision db d).map (fun dec ↦
    match cpeKey db d with
    | none => dec
    | some k =>
      if winner db k = some d.id then
        { dec with counted := some true, reason := .directL4CpeAccessPortOneToOne }
      else
        { dec with counted := some false, reason := .aonAccessPortOversubscribedOneToOne })

private theorem ontTypes_eq_false {type : DeviceType} (h : cpeTypes type = true) :
    ontTypes type = false := by
  cases type <;> simp_all [ontTypes, cpeTypes]

/-- The first pass leaves the decision of a candidate open. -/
theorem initialDecision_of_cpeKey {d : Device} {k : String × String} (h : cpeKey db d = some k) :
    ∃ reason, initialDecision db d = some
      { subscriberId := d.id, subscriberType := d.type, counted := none, domain := some .aon,
        anchorDeviceId := some k.1, anchorInterfaceId := some k.2, reason := reason } := by
  unfold cpeKey at h
  split at h
  · next hc =>
    obtain ⟨a, ha, rfl⟩ := Option.map_eq_some_iff.mp h
    exact ⟨a.reason, by simp [initialDecision, hc.1, hc.2, ontTypes_eq_false hc.1, ha]⟩
  · cases h

/-- The first pass settles the decision of an ONT. -/
theorem initialDecision_of_ontKey {d : Device} {k : String × String} (h : ontKey db d = some k) :
    ∃ reason, initialDecision db d = some
      { subscriberId := d.id, subscriberType := d.type, counted := some true, domain := some .olt,
        anchorDeviceId := some k.1, anchorInterfaceId := some k.2, reason := reason } := by
  unfold ontKey at h
  split at h
  · next hc =>
    obtain ⟨a, ha, rfl⟩ := Option.map_eq_some_iff.mp h
    exact ⟨a.reason, by simp [initialDecision, hc.1, hc.2, ha]⟩
  · cases h

/-- A leaf without a port has a decision that counts nothing and names no port. -/
theorem initialDecision_of_none {d : Device} {dec : Decision} (ho : ontKey db d = none)
    (hc : cpeKey db d = none) (h : initialDecision db d = some dec) :
    dec.subscriberId = d.id ∧ dec.counted = some false ∧ dec.anchorInterfaceId = none := by
  unfold initialDecision at h
  unfold ontKey at ho
  unfold cpeKey at hc
  grind

private theorem cpeKey_eq_none_of_ontKey {d : Device} {k : String × String}
    (h : ontKey db d = some k) :
    cpeKey db d = none := by
  unfold ontKey at h
  unfold cpeKey
  split at h
  · next ho =>
    apply if_neg
    intro hc
    rw [ontTypes_eq_false hc.1] at ho
    exact absurd ho.1 (by simp)
  · cases h

/-- Where a leaf counts, and what its decision then says. -/
inductive LeafCase (db : Database) (d : Device) (dec : Decision) : Prop where
  | uncounted (ho : ontKey db d = none) (hw : wonKey db d = none)
      (hcounted : dec.counted = some false)
  | ont (k : String × String) (ho : ontKey db d = some k) (hw : wonKey db d = none)
      (hcounted : dec.counted = some true) (hdomain : dec.domain = some .olt)
      (hdev : dec.anchorDeviceId = some k.1) (hif : dec.anchorInterfaceId = some k.2)
  | cpe (k : String × String) (ho : ontKey db d = none) (hw : wonKey db d = some k)
      (hcounted : dec.counted = some true) (hdomain : dec.domain = some .aon)
      (hdev : dec.anchorDeviceId = some k.1) (hif : dec.anchorInterfaceId = some k.2)

/-- The decision of a leaf names it and says where it counts. -/
theorem finalDecision_cases {d : Device} {dec : Decision} (h : finalDecision db d = some dec) :
    dec.subscriberId = d.id ∧ LeafCase db d dec := by
  obtain ⟨init, hi, hdec⟩ := Option.map_eq_some_iff.mp h
  cases hc : cpeKey db d with
  | none =>
    have hw : wonKey db d = none := by simp [wonKey, hc]
    simp only [hc] at hdec
    subst hdec
    cases ho : ontKey db d with
    | none =>
      obtain ⟨hid, hcounted, _⟩ := initialDecision_of_none ho hc hi
      exact ⟨hid, .uncounted ho hw hcounted⟩
    | some k =>
      obtain ⟨reason, heq⟩ := initialDecision_of_ontKey ho
      rw [hi, Option.some.injEq] at heq
      subst heq
      exact ⟨rfl, .ont k ho hw rfl rfl rfl rfl⟩
  | some k =>
    have ho : ontKey db d = none := by
      cases ho : ontKey db d with
      | none => rfl
      | some k' => rw [cpeKey_eq_none_of_ontKey ho] at hc; cases hc
    obtain ⟨reason, heq⟩ := initialDecision_of_cpeKey hc
    rw [hi, Option.some.injEq] at heq
    subst heq
    simp only [hc] at hdec
    by_cases hwin : winner db k = some d.id
    · rw [if_pos hwin] at hdec
      subst hdec
      exact ⟨rfl, .cpe k ho (wonKey_eq_some.mpr ⟨hc, hwin⟩) rfl rfl rfl rfl⟩
    · rw [if_neg hwin] at hdec
      subst hdec
      exact ⟨rfl, .uncounted ho (by simp [wonKey, hc, hwin]) rfl⟩

/-- A device without a decision counts nowhere. -/
theorem keys_eq_none_of_finalDecision {d : Device} (h : finalDecision db d = none) :
    ontKey db d = none ∧ wonKey db d = none := by
  have hi : initialDecision db d = none := by simpa [finalDecision] using h
  constructor
  · cases ho : ontKey db d with
    | none => rfl
    | some k =>
      obtain ⟨reason, heq⟩ := initialDecision_of_ontKey ho
      rw [hi] at heq
      cases heq
  · cases hc : cpeKey db d with
    | none => simp [wonKey, hc]
    | some k =>
      obtain ⟨reason, heq⟩ := initialDecision_of_cpeKey hc
      rw [hi] at heq
      cases heq

/-- The key on which a leaf of a domain counts. -/
def boundKey (db : Database) : Domain → Device → Option (String × String)
  | .olt => ontKey db
  | .aon => wonKey db

private theorem wonKey_eq_none_of_ontKey {d : Device} {k : String × String}
    (h : ontKey db d = some k) : wonKey db d = none := by
  simp [wonKey, cpeKey_eq_none_of_ontKey h]

/-- A leaf counts at most once. -/
theorem boundKey_unique {domain domain' : Domain} {d : Device} {k k' : String × String}
    (h : boundKey db domain d = some k) (h' : boundKey db domain' d = some k') :
    domain = domain' ∧ k = k' := by
  cases domain <;> cases domain'
  · exact ⟨rfl, Option.some.inj (h.symm.trans h')⟩
  · exact absurd (h'.symm.trans (wonKey_eq_none_of_ontKey h)) (by simp)
  · exact absurd (h.symm.trans (wonKey_eq_none_of_ontKey h')) (by simp)
  · exact ⟨rfl, Option.some.inj (h.symm.trans h')⟩

/-- Counted decisions are those that bind in one of the domains, and none binds in both. -/
theorem counted_finalDecision {d : Device} {dec : Decision} (h : finalDecision db d = some dec) :
    (if dec.counted = some true then 1 else 0) =
      (if (ontKey db d).isSome then 1 else 0) + (if (wonKey db d).isSome then 1 else 0) := by
  cases (finalDecision_cases h).2 with
  | uncounted ho hw hcounted => simp [ho, hw, hcounted]
  | ont k ho hw hcounted => simp [ho, hw, hcounted]
  | cpe k ho hw hcounted => simp [ho, hw, hcounted]

/-- Decisions of leaves that are on no AON port are left alone. -/
private theorem foldl_arbitrateAt_of_none {d : Device} {dec : Decision} {c : Candidates}
    (hc : cpeKey db d = none) (hi : initialDecision db d = some dec)
    (ks : List (String × String)) : ks.foldl (arbitrateAt c) dec = dec := by
  have hother : dec.domain ≠ some .aon ∨ dec.anchorInterfaceId = none := by
    cases ho : ontKey db d with
    | none => exact Or.inr (initialDecision_of_none ho hc hi).2.2
    | some k =>
      obtain ⟨reason, heq⟩ := initialDecision_of_ontKey ho
      rw [hi, Option.some.injEq] at heq
      left
      simp [heq]
  apply List.foldl_fixed'
  intro k
  apply arbitrateAt_of_other
  apply hother.imp_right
  intro h
  simp [h]

private theorem sorted_firstPass (k : String × String) :
    Candidates.sorted (firstPass db).aonPortCandidates k = sortIds (candidateIds db k) := by
  unfold Candidates.sorted
  rw [firstPass_aonPortCandidates, Dict.lookup_foldl_collect]
  rfl

private theorem winner_firstPass (k : String × String) :
    Candidates.winner (firstPass db).aonPortCandidates k = winner db k := by
  unfold Candidates.winner winner
  rw [sorted_firstPass]

private theorem mem_firstPass_aonPortCandidates {k : String × String} :
    k ∈ (firstPass db).aonPortCandidates ↔ ∃ d ∈ db.devices, cpeKey db d = some k := by
  rw [firstPass_aonPortCandidates, Dict.mem_foldl_collect]
  simp only [mem_sortedDevices]

private theorem arbitrateAt_own {d : Device} {k : String × String} {reason : Reason}
    (hd : d ∈ db.devices) (hk : cpeKey db d = some k) (dec : Decision)
    (hdec : dec = { subscriberId := d.id, subscriberType := d.type, counted := none,
                    domain := some .aon, anchorDeviceId := some k.1,
                    anchorInterfaceId := some k.2, reason := reason }) :
    arbitrateAt (firstPass db).aonPortCandidates dec k =
      if winner db k = some d.id then
        { dec with counted := some true, reason := .directL4CpeAccessPortOneToOne }
      else { dec with counted := some false, reason := .aonAccessPortOversubscribedOneToOne } := by
  have hmem : d.id ∈ sortIds (candidateIds db k) :=
    (perm_sortIds _).mem_iff.mpr (mem_candidateIds.mpr ⟨d, hd, hk, rfl⟩)
  unfold arbitrateAt winner
  rw [sorted_firstPass]
  cases hs : sortIds (candidateIds db k) with
  | nil => simp [hs] at hmem
  | cons id ids =>
    rw [hs] at hmem
    subst hdec
    by_cases hi : d.id = id
    · simp [arbitrate, hi]
    · have hmem' : d.id ∈ ids := by simpa [hi] using hmem
      simp [arbitrate, hi, Ne.symm hi, hmem']

/-- The decisions of the result. -/
theorem secondPass_decisions :
    (secondPass (firstPass db)).decisions = (sortedDevices db).filterMap (finalDecision db) := by
  rw [(sweep_secondPass (firstPass db)).decisions, firstPass_decisions, List.map_filterMap]
  apply List.filterMap_congr
  intro d hd
  have hd := mem_sortedDevices.mp hd
  unfold finalDecision
  cases hi : initialDecision db d with
  | none => rfl
  | some dec =>
    simp only [Option.map_some, Option.some.injEq]
    cases hc : cpeKey db d with
    | none => exact foldl_arbitrateAt_of_none hc hi _
    | some k =>
      obtain ⟨reason, heq⟩ := initialDecision_of_cpeKey hc
      rw [hi, Option.some.injEq] at heq
      have hmem : k ∈ portKeys (firstPass db).aonPortCandidates :=
        mem_portKeys.mpr ((mem_firstPass_aonPortCandidates).mpr ⟨d, hd, hc⟩)
      have hinj : ∀ k' ∈ portKeys (firstPass db).aonPortCandidates, k'.2 = k.2 → k' = k := by
        intro k' hk' hsnd
        obtain ⟨d', _, hd'⟩ := (mem_firstPass_aonPortCandidates).mp (mem_portKeys.mp hk')
        exact (isPort_cpeKey hd').eq_of_snd (isPort_cpeKey hc) hsnd
      rw [foldl_arbitrateAt (by rw [heq]) nodup_portKeys hmem hinj]
      exact arbitrateAt_own hd hc dec heq

/-! ### Nodes -/

/-- The type of the devices that anchor a domain. -/
def anchorType : Domain → DeviceType
  | .olt => .olt
  | .aon => .aonSwitch

/-- A bound key is a port of the anchor's type. -/
theorem isPort_boundKey {domain : Domain} {d : Device} {k : String × String}
    (h : boundKey db domain d = some k) : IsPort db (anchorType domain) k := by
  cases domain with
  | olt => exact isPort_ontKey h
  | aon => exact isPort_cpeKey (wonKey_eq_some.mp h).1

/-- The node of a device in the result. -/
def finalNode (db : Database) (e : Device) : Node :=
  (anchorsOf (firstPass db).aonPortCandidates).foldl (settleAt (firstPass db).aonPortCandidates)
    ((sortedDevices db).foldl (visitNode db) { id := e.id, type := e.type })

/-- The nodes after both passes. -/
theorem secondPass_perNode :
    (secondPass (firstPass db)).perNode = db.devices.map (finalNode db) := by
  rw [(sweep_secondPass (firstPass db)).perNode, firstPass_perNode, initialNodes, List.map_map,
    List.map_map]
  rfl

private theorem foldl_visitNode_id (ds : List Device) (n : Node) :
    (ds.foldl (visitNode db) n).id = n.id := by
  induction ds generalizing n with
  | nil => rfl
  | cons d ds ih => rw [List.foldl_cons, ih, visitNode_id]

private theorem foldl_visitNode_type (ds : List Device) (n : Node) :
    (ds.foldl (visitNode db) n).type = n.type := by
  induction ds generalizing n with
  | nil => rfl
  | cons d ds ih => rw [List.foldl_cons, ih, visitNode_type]

private theorem finalNode_eq (e : Device) :
    finalNode db e =
      let n := (sortedDevices db).foldl (visitNode db) { id := e.id, type := e.type }
      if e.id ∈ anchorsOf (firstPass db).aonPortCandidates then
        settleAt (firstPass db).aonPortCandidates n e.id
      else n := by
  unfold finalNode
  rw [foldl_settleAt _ nodup_anchorsOf, foldl_visitNode_id]

/-- Both passes keep the ids of nodes. -/
@[simp]
theorem finalNode_id (e : Device) : (finalNode db e).id = e.id := by
  rw [finalNode_eq]
  split
  · rw [settleAt_id, foldl_visitNode_id]
  · exact foldl_visitNode_id _ _

/-- Both passes keep the types of nodes. -/
@[simp]
theorem finalNode_type (e : Device) : (finalNode db e).type = e.type := by
  rw [finalNode_eq]
  split
  · rw [settleAt_type, foldl_visitNode_type]
  · exact foldl_visitNode_type _ _

private theorem Lists.of_perm {domain : Domain} {ids ids' : List String} {n : Node}
    (h : Lists domain ids n) (hp : ids.Perm ids') : Lists domain ids' n where
  subscriberIds := h.subscriberIds.trans hp
  subscribers := h.subscribers.trans hp.length_eq
  subscriberDomain := by
    have hnil : ids = [] ↔ ids' = [] :=
      ⟨fun h ↦ List.nil_perm.mp (h ▸ hp), fun h ↦ List.perm_nil.mp (h ▸ hp)⟩
    simp only [h.subscriberDomain, hnil]

private theorem nodup_idsOn (key : Device → Option (String × String)) (a : String) :
    (idsOn key a (sortedDevices db)).Nodup :=
  nodup_sortedDevices.sublist (List.filter_sublist.map _)

/-- The ids on an anchor are those of devices with a port of it. -/
theorem mem_idsOn {key : Device → Option (String × String)} {a id : String} :
    id ∈ idsOn key a (sortedDevices db) ↔
      ∃ d ∈ db.devices, d.id = id ∧ ∃ k, key d = some k ∧ k.1 = a := by
  simp only [idsOn, List.mem_map, List.mem_filter, mem_sortedDevices, decide_eq_true_eq,
    Option.map_eq_some_iff]
  constructor
  · rintro ⟨d, ⟨hd, hk⟩, hid⟩
    exact ⟨d, hd, hid, hk⟩
  · rintro ⟨d, hd, hid, hk⟩
    exact ⟨d, ⟨hd, hk⟩, hid⟩

private theorem sum_filter_and {α : Type} (p q : α → Bool) (f : α → Nat) (xs : List α)
    (h : ∀ x ∈ xs, q x = true → p x = false → f x = 0) :
    ((xs.filter (fun x ↦ p x && q x)).map f).sum = ((xs.filter q).map f).sum := by
  induction xs with
  | nil => rfl
  | cons x xs ih =>
    have ih := ih (fun y hy ↦ h y (List.mem_cons_of_mem x hy))
    have hx := h x List.mem_cons_self
    cases hq : q x <;> cases hp : p x <;> simp_all

/-- The switches with candidates are AON switches. -/
theorem exists_of_mem_anchorsOf {a : String}
    (h : a ∈ anchorsOf (firstPass db).aonPortCandidates) :
    ∃ e ∈ db.devices, e.type = .aonSwitch ∧ e.id = a := by
  obtain ⟨k, hk, rfl⟩ := List.mem_map.mp (mem_sortedSet.mp h)
  obtain ⟨d, _, hd⟩ := (mem_firstPass_aonPortCandidates).mp (AList.mem_keys.mpr hk)
  obtain ⟨e, he, _, _, ht, hek, _⟩ := isPort_cpeKey hd
  exact ⟨e, he, ht, hek⟩

/-- The CPEs served by a switch's ports, port by port or CPE by CPE. -/
theorem perm_winners (a : String) :
    ((portsOf (firstPass db).aonPortCandidates a).filterMap
      (Candidates.winner (firstPass db).aonPortCandidates)).Perm
        (idsOn (wonKey db) a (sortedDevices db)) := by
  have hwinner : Candidates.winner (firstPass db).aonPortCandidates = winner db := by
    ext1 k
    exact winner_firstPass k
  rw [hwinner]
  have hnodup : ((portsOf (firstPass db).aonPortCandidates a).filterMap (winner db)).Nodup := by
    apply (nodup_portsOf a).filterMap
    intro k k' id hk hk'
    obtain ⟨d, hd, hdk, hdi⟩ := exists_of_winner hk
    obtain ⟨d', hd', hdk', hdi'⟩ := exists_of_winner hk'
    have hdd : d = d' :=
      List.inj_on_of_nodup_map db.devices_nodup hd hd' (hdi.trans hdi'.symm)
    rw [hdd, hdk'] at hdk
    exact (Option.some.inj hdk).symm
  rw [List.perm_ext_iff_of_nodup hnodup (nodup_idsOn _ _)]
  intro id
  rw [mem_idsOn]
  simp only [List.mem_filterMap, mem_portsOf, mem_firstPass_aonPortCandidates]
  constructor
  · rintro ⟨k, ⟨hka, _⟩, hk⟩
    obtain ⟨d, hd, hdk, rfl⟩ := exists_of_winner hk
    exact ⟨d, hd, rfl, k, wonKey_eq_some.mpr ⟨hdk, hk⟩, hka⟩
  · rintro ⟨d, hd, rfl, k, hk, hka⟩
    obtain ⟨hdk, hkw⟩ := wonKey_eq_some.mp hk
    exact ⟨k, ⟨hka, d, hd, hdk⟩, hkw⟩

/-- In the result the node of an anchor lists the leaves that count on it. -/
theorem lists_finalNode {e : Device} (he : e ∈ db.devices) (domain : Domain)
    (ht : e.type = anchorType domain) :
    Lists domain (idsOn (boundKey db domain) e.id (sortedDevices db)) (finalNode db e) := by
  rw [finalNode_eq]
  cases domain with
  | olt =>
    have hnot : e.id ∉ anchorsOf (firstPass db).aonPortCandidates := by
      intro hmem
      obtain ⟨e', he', ht', hid'⟩ := exists_of_mem_anchorsOf hmem
      rw [List.inj_on_of_nodup_map db.devices_nodup he' he hid', ht] at ht'
      cases ht'
    simp only [if_neg hnot]
    exact lists_olt he ht
  | aon =>
    have hn := foldl_visitNode_aonSwitch he ht (sortedDevices db) (fun d ↦ mem_sortedDevices.mp)
      { id := e.id, type := e.type } rfl
    have hperm := @perm_winners db e.id
    simp only [hn]
    by_cases hmem : e.id ∈ anchorsOf (firstPass db).aonPortCandidates
    · rw [if_pos hmem]
      have hnd := hperm.nodup_iff.mpr (nodup_idsOn _ _)
      exact (lists_settleAt (n := { id := e.id, type := e.type }) rfl rfl hnd).of_perm hperm
    · have hnone : portsOf (firstPass db).aonPortCandidates e.id = [] := by
        apply List.eq_nil_iff_forall_not_mem.mpr
        intro k hk
        obtain ⟨hka, hkc⟩ := mem_portsOf.mp hk
        apply hmem
        exact mem_sortedSet.mpr (List.mem_map.mpr ⟨k, AList.mem_keys.mp hkc, hka⟩)
      rw [hnone] at hperm
      rw [if_neg hmem]
      exact Lists.of_perm ⟨List.Perm.refl _, rfl, rfl⟩ hperm

/-! ### Totals -/

/-- The leaves that count in a domain. -/
def countedLeaves (db : Database) (domain : Domain) : Nat :=
  (sortedDevices db).countP (fun d ↦ (boundKey db domain d).isSome)

/-- The nodes of a domain's anchors add up to its counted leaves. -/
theorem sum_subscribers (domain : Domain) :
    ((db.devices.filter (fun e ↦ e.type = anchorType domain)).map
      (fun e ↦ (finalNode db e).subscribers)).sum = countedLeaves db domain := by
  have hsubscribers : ∀ e ∈ db.devices.filter (fun e ↦ e.type = anchorType domain),
      (finalNode db e).subscribers = (sortedDevices db).countP
        (fun d ↦ decide ((boundKey db domain d).map Prod.fst = some e.id)) := by
    intro e he
    obtain ⟨he, ht⟩ := List.mem_filter.mp he
    rw [(lists_finalNode he domain (by simpa using ht)).subscribers, idsOn, List.length_map,
      ← List.countP_eq_length_filter]
  have hnodup : ((db.devices.filter (fun e ↦ e.type = anchorType domain)).map Device.id).Nodup :=
    db.devices_nodup.sublist (List.filter_sublist.map _)
  have hkey : ∀ d ∈ sortedDevices db, ∀ a, (boundKey db domain d).map Prod.fst = some a →
      a ∈ (db.devices.filter (fun e ↦ e.type = anchorType domain)).map Device.id := by
    intro d _ a ha
    obtain ⟨k, hk, rfl⟩ := Option.map_eq_some_iff.mp ha
    obtain ⟨e, he, _, _, ht, hek, _⟩ := isPort_boundKey hk
    exact List.mem_map.mpr ⟨e, List.mem_filter.mpr ⟨he, by simpa using ht⟩, hek⟩
  have hsum := Dict.sum_countP_eq hnodup _ (sortedDevices db) hkey
  rw [List.map_congr_left hsubscribers]
  simpa only [countedLeaves, List.map_map, Function.comp_def, Option.isSome_map] using hsum

/-- Nodes of another domain, or of none, hold no subscribers of this one. -/
theorem domainTotal_secondPass (domain : Domain) :
    domainTotal (secondPass (firstPass db)).perNode domain (anchorType domain) =
      countedLeaves db domain := by
  rw [← sum_subscribers domain, secondPass_perNode]
  unfold domainTotal
  rw [List.filter_map, List.map_map]
  simp only [Function.comp_def, finalNode_type, Bool.decide_and]
  apply sum_filter_and
  intro e he ht hdom
  have hlists := lists_finalNode he domain (by simpa using ht)
  rw [hlists.subscribers]
  by_contra hne
  have hids : idsOn (boundKey db domain) e.id (sortedDevices db) ≠ [] := by
    intro h
    simp [h] at hne
  simp [hlists.subscriberDomain, hids] at hdom

/-- The PON occupancy counts the ONTs of each port. -/
theorem resolve_ponOccupancy :
    (resolveSubscriberModel db).ponOccupancy =
      (sortedDevices db).foldl (Dict.count (ontKey db)) ∅ :=
  (sweep_secondPass (firstPass db)).ponOccupancy.trans (firstPass_ponOccupancy)

/-- The PON occupancy adds up to the counted ONTs. -/
theorem total_ponOccupancy : (secondPass (firstPass db)).ponOccupancy.total =
    countedLeaves db .olt := by
  rw [(sweep_secondPass (firstPass db)).ponOccupancy, firstPass_ponOccupancy,
    Dict.total_eq_sum (AList.keys_nodup _) (fun k ↦ AList.mem_keys)]
  simp only [Dict.lookup_foldl_count]
  apply Dict.sum_countP_eq (AList.keys_nodup _)
  intro d hd k hk
  exact AList.mem_keys.mp ((Dict.mem_foldl_count _ _ _).mpr ⟨d, hd, hk⟩)

private theorem lookup_aonAccessOccupancy (k : String × String) :
    (secondPass (firstPass db)).aonAccessOccupancy.lookup k =
      if k ∈ portKeys (firstPass db).aonPortCandidates then some 1 else none := by
  rw [(sweep_secondPass (firstPass db)).aonAccessOccupancy, firstPass_aonAccessOccupancy,
    lookup_foldl_occupyAt _ _ (fun k ↦ mem_portKeys.mp)]
  · simp
  · intro k hk hnil
    rw [sorted_firstPass] at hnil
    obtain ⟨d, hd, hdk⟩ := (mem_firstPass_aonPortCandidates).mp hk
    obtain ⟨id, hwin⟩ := exists_winner hd hdk
    simp [winner, hnil] at hwin

/-- The access occupancy adds up to the counted CPEs. -/
theorem total_aonAccessOccupancy : (secondPass (firstPass db)).aonAccessOccupancy.total =
    countedLeaves db .aon := by
  have hmem : ∀ k, k ∈ (secondPass (firstPass db)).aonAccessOccupancy ↔
      k ∈ portKeys (firstPass db).aonPortCandidates := by
    intro k
    rw [← AList.lookup_isSome, lookup_aonAccessOccupancy]
    split <;> simp_all
  have hone : ∀ k ∈ portKeys (firstPass db).aonPortCandidates,
      ((secondPass (firstPass db)).aonAccessOccupancy.lookup k).getD 0 =
        (sortedDevices db).countP (fun d ↦ wonKey db d = some k) := by
    intro k hk
    obtain ⟨d, hd, hdk⟩ := (mem_firstPass_aonPortCandidates).mp (mem_portKeys.mp hk)
    rw [lookup_aonAccessOccupancy, if_pos hk, countP_wonKey hd hdk]
    rfl
  rw [Dict.total_eq_sum nodup_portKeys hmem, List.map_congr_left hone]
  apply Dict.sum_countP_eq nodup_portKeys
  intro d hd k hk
  apply mem_portKeys.mpr
  exact (mem_firstPass_aonPortCandidates).mpr
    ⟨d, mem_sortedDevices.mp hd, (wonKey_eq_some.mp hk).1⟩

end Unoc.Subscriber
