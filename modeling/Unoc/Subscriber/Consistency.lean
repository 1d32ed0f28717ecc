import Unoc.Subscriber.EventReplay

/-!
# Consistency of subscriber accounting

The totals, the port counters, the nodes, the decisions and the replayed event log of one database
state agree, and none of them depends on the order of the rows.
-/

namespace Unoc.Subscriber

open Unoc.Base Unoc.Model

/-! ### Row order -/

/-- Models of the same rows: equal decisions, port counters and totals, and the same nodes. -/
structure SameModel (m m' : SubscriberModel) : Prop where
  mappingDecisions : m'.mappingDecisions = m.mappingDecisions
  ponOccupancy : m'.ponOccupancy = m.ponOccupancy
  aonAccessOccupancy : m'.aonAccessOccupancy = m.aonAccessOccupancy
  resolvedSubscribers : m'.resolvedSubscribers.Perm m.resolvedSubscribers
  total : m'.subscriber.total = m.subscriber.total

section RowOrder

variable {db db' : Database} (h : SameRows db db')

include h

private theorem getDevice_eq : db.getDevice = db'.getDevice := by
  ext id d
  rw [Database.getDevice_eq_some, Database.getDevice_eq_some, h.devices.mem_iff]

private theorem getInterface_eq : db.getInterface = db'.getInterface := by
  ext id i
  rw [Database.getInterface_eq_some, Database.getInterface_eq_some, h.interfaces.mem_iff]

private theorem sortedInterfaces_eq : sortedInterfaces db = sortedInterfaces db' := by
  have hp : (sortedInterfaces db).Perm (sortedInterfaces db') :=
    (List.perm_insertionSort _ _).trans (h.interfaces.trans (List.perm_insertionSort _ _).symm)
  apply hp.eq_of_pairwise _ (List.pairwise_insertionSort _ _) (List.pairwise_insertionSort _ _)
  intro i j hi hj hij hji
  have hkey : interfaceKey i = interfaceKey j := le_antisymm hij hji
  have hid : i.id = j.id := by
    simp only [interfaceKey, toLex_inj, Prod.mk.injEq] at hkey
    exact hkey.2.2
  apply List.inj_on_of_nodup_map db.interfaces_nodup _ _ hid
  · simpa [sortedInterfaces] using hi
  · simpa [sortedInterfaces] using hp.mem_iff.mpr hj

private theorem interfacesByDevice_eq : interfacesByDevice db = interfacesByDevice db' := by
  ext1 id
  unfold interfacesByDevice
  rw [sortedInterfaces_eq h]

private theorem linkNeighbors_eq : linkNeighbors db = linkNeighbors db' := by
  ext1 id
  apply sortedSet_congr
  intro x
  simp only [List.mem_flatMap, h.links.mem_iff]

private theorem siblingIds_eq : siblingIds db = siblingIds db' := by
  ext1 i
  unfold siblingIds
  rw [getDevice_eq h, interfacesByDevice_eq h]

private theorem traceLoop_eq (domain : Domain) (fuel : Nat) (st : TraceState) :
    traceLoop db domain fuel st = traceLoop db' domain fuel st := by
  induction fuel generalizing st with
  | zero => rfl
  | succ fuel ih =>
    unfold traceLoop
    rw [getInterface_eq h, getDevice_eq h, linkNeighbors_eq h, siblingIds_eq h]
    simp only [ih]

private theorem traceAnchor_eq : traceAnchor db = traceAnchor db' := by
  ext1 d
  ext1 domain
  have hlen : (traceUniverse db).length = (traceUniverse db').length := by
    apply List.Perm.length_eq
    exact (h.interfaces.map _).append (h.links.flatMap_right _)
  unfold traceAnchor
  rw [interfacesByDevice_eq h, hlen, traceLoop_eq h]

private theorem traceDirectAonAnchor_eq : traceDirectAonAnchor db = traceDirectAonAnchor db' := by
  have hpeer : directAonPeer db = directAonPeer db' := by
    ext1 id
    unfold directAonPeer
    rw [getInterface_eq h, getDevice_eq h]
  ext1 d
  unfold traceDirectAonAnchor
  rw [interfacesByDevice_eq h, linkNeighbors_eq h, hpeer]

private theorem sortedDevices_eq : sortedDevices db = sortedDevices db' := by
  have hp : (sortedDevices db).Perm (sortedDevices db') :=
    (List.perm_insertionSort _ _).trans (h.devices.trans (List.perm_insertionSort _ _).symm)
  apply hp.eq_of_pairwise _ (List.pairwise_insertionSort _ _) (List.pairwise_insertionSort _ _)
  intro d e hd he hde hed
  apply List.inj_on_of_nodup_map db.devices_nodup _ _ (le_antisymm hde hed)
  · exact mem_sortedDevices.mp hd
  · exact mem_sortedDevices.mp (hp.mem_iff.mpr he)

private theorem ontKey_eq : ontKey db = ontKey db' := by
  ext1 d
  unfold ontKey
  rw [traceAnchor_eq h]

private theorem cpeKey_eq : cpeKey db = cpeKey db' := by
  ext1 d
  unfold cpeKey
  rw [traceDirectAonAnchor_eq h]

private theorem initialDecision_eq : initialDecision db = initialDecision db' := by
  ext1 d
  unfold initialDecision
  rw [traceAnchor_eq h, traceDirectAonAnchor_eq h]

private theorem visitNode_eq : visitNode db = visitNode db' := by
  ext1 n
  ext1 d
  unfold visitNode
  rw [ontKey_eq h]

private theorem firstPass_perm : (firstPass db').perNode.Perm (firstPass db).perNode := by
  rw [firstPass_perNode, firstPass_perNode, sortedDevices_eq h, visitNode_eq h]
  exact (h.devices.symm.map _).map _

/-- The order of the rows only moves the nodes. -/
theorem sameModel_of_sameRows :
    SameModel (resolveSubscriberModel db) (resolveSubscriberModel db') := by
  have hdecs : (firstPass db').decisions = (firstPass db).decisions := by
    rw [firstPass_decisions, firstPass_decisions, sortedDevices_eq h, initialDecision_eq h]
  have hpon : (firstPass db').ponOccupancy = (firstPass db).ponOccupancy := by
    rw [firstPass_ponOccupancy, firstPass_ponOccupancy, sortedDevices_eq h, ontKey_eq h]
  have hcands : (firstPass db').aonPortCandidates = (firstPass db).aonPortCandidates := by
    rw [firstPass_aonPortCandidates, firstPass_aonPortCandidates, sortedDevices_eq h,
      cpeKey_eq h]
  have hsweep := sweep_secondPass (firstPass db)
  have hsweep' := sweep_secondPass (firstPass db')
  rw [hcands] at hsweep'
  have hnodes : (secondPass (firstPass db')).perNode.Perm (secondPass (firstPass db)).perNode := by
    rw [hsweep'.perNode, hsweep.perNode]
    exact (firstPass_perm h).map _
  have htotal : ∀ domain type, domainTotal (secondPass (firstPass db')).perNode domain type =
      domainTotal (secondPass (firstPass db)).perNode domain type := by
    intro domain type
    exact ((hnodes.filter _).map _).sum_eq
  refine ⟨?_, ?_, ?_, hnodes, ?_⟩
  · exact hsweep'.decisions.trans (hdecs ▸ hsweep.decisions.symm)
  · exact hsweep'.ponOccupancy.trans (hpon.trans hsweep.ponOccupancy.symm)
  · have hempty : (firstPass db').aonAccessOccupancy = (firstPass db).aonAccessOccupancy := by
      rw [firstPass_aonAccessOccupancy, firstPass_aonAccessOccupancy]
    exact hsweep'.aonAccessOccupancy.trans (hempty ▸ hsweep.aonAccessOccupancy.symm)
  · show domainTotal _ _ _ + domainTotal _ _ _ = domainTotal _ _ _ + domainTotal _ _ _
    rw [htotal, htotal]

end RowOrder

/-! ### What the log counts -/

/-- Nodes that anchor subscribers. -/
def Node.isAnchor (n : Node) : Bool := n.type = .olt ∨ n.type = .aonSwitch

section Counts

variable {db : Database}

/-- The bindings of a domain's anchors are the leaves that count on them. -/
private theorem any_anchorIn (domain : Domain) (k : Option String) (d : Device) :
    (finalDecision db d).any (fun dec ↦ dec.counted = some true ∧
        (dec.binding 0).anchorIn domain = some k) =
      decide ((boundKey db domain d).map (fun p ↦ some p.1) = some k) := by
  cases h : finalDecision db d with
  | none =>
    have hkeys := keys_eq_none_of_finalDecision h
    cases domain <;> simp [boundKey, hkeys]
  | some dec =>
    cases (finalDecision_cases h).2 with
    | uncounted ho hw hcounted => cases domain <;> simp [boundKey, ho, hw, hcounted]
    | ont p ho hw hcounted hdomain hdev hif =>
      cases domain <;>
        simp [boundKey, ho, hw, hcounted, hdomain, hdev, Decision.binding, Binding.anchorIn]
    | cpe p ho hw hcounted hdomain hdev hif =>
      cases domain <;>
        simp [boundKey, ho, hw, hcounted, hdomain, hdev, Decision.binding, Binding.anchorIn]

/-- The bindings of a PON port are the ONTs that count on it. -/
private theorem any_ponPort (k : Option String) (d : Device) :
    (finalDecision db d).any (fun dec ↦ dec.counted = some true ∧
        (dec.binding 0).ponPort = some k) =
      decide ((ontKey db d).map (fun p ↦ some p.2) = some k) := by
  cases h : finalDecision db d with
  | none => simp [keys_eq_none_of_finalDecision h]
  | some dec =>
    cases (finalDecision_cases h).2 with
    | uncounted ho hw hcounted => simp [ho, hcounted]
    | ont p ho hw hcounted hdomain hdev hif =>
      simp [ho, hcounted, hdomain, hif, Decision.binding, Binding.ponPort]
    | cpe p ho hw hcounted hdomain hdev hif =>
      simp [ho, hcounted, hdomain, Decision.binding, Binding.ponPort]

private theorem mem_resolvedSubscribers {n : Node} :
    n ∈ (resolveSubscriberModel db).resolvedSubscribers ↔ ∃ e ∈ db.devices, finalNode db e = n := by
  have hnodes : (resolveSubscriberModel db).resolvedSubscribers = db.devices.map (finalNode db) :=
    secondPass_perNode
  rw [hnodes, List.mem_map]

private theorem countP_mappingDecisions (q : Decision → Bool) :
    (resolveSubscriberModel db).mappingDecisions.countP q =
      (sortedDevices db).countP (fun d ↦ (finalDecision db d).any q) := by
  show (secondPass (firstPass db)).decisions.countP q = _
  rw [secondPass_decisions, List.countP_filterMap]
  congr 1
  ext1 d
  cases finalDecision db d <;> rfl

private theorem countP_anchorIn (domain : Domain) (k : Option String) :
    (buildSimulationEventLog db).countP (fun e ↦ e.anchorIn domain = some k) =
      (sortedDevices db).countP (fun d ↦ (boundKey db domain d).map (fun p ↦ some p.1) = some k) := by
  have hlog := countP_buildSimulationEventLog (fun b ↦ b.anchorIn domain = some k)
    (fun _ ↦ rfl) db
  have hevent : ∀ e : SimulationEvent,
      e.binding.any (fun b ↦ b.anchorIn domain = some k) = decide (e.anchorIn domain = some k) := by
    intro e
    unfold SimulationEvent.anchorIn
    cases e.binding <;> simp
  simp only [hevent, decide_eq_true_eq] at hlog
  rw [hlog, countP_mappingDecisions]
  simp only [any_anchorIn]

private theorem countP_ponPort (k : Option String) :
    (buildSimulationEventLog db).countP (fun e ↦ e.ponPort = some k) =
      (sortedDevices db).countP (fun d ↦ (ontKey db d).map (fun p ↦ some p.2) = some k) := by
  have hlog := countP_buildSimulationEventLog (fun b ↦ b.ponPort = some k) (fun _ ↦ rfl) db
  have hevent : ∀ e : SimulationEvent,
      e.binding.any (fun b ↦ b.ponPort = some k) = decide (e.ponPort = some k) := by
    intro e
    unfold SimulationEvent.ponPort
    cases e.binding <;> simp
  simp only [hevent, decide_eq_true_eq] at hlog
  rw [hlog, countP_mappingDecisions]
  simp only [any_ponPort]

private theorem total_eq_countedLeaves :
    (resolveSubscriberModel db).subscriber.total = countedLeaves db .olt + countedLeaves db .aon := by
  have holt := @domainTotal_secondPass db .olt
  have haon := @domainTotal_secondPass db .aon
  show domainTotal _ .olt .olt + domainTotal _ .aon .aonSwitch = _
  rw [← holt, ← haon]
  rfl

private theorem countP_counted :
    (resolveSubscriberModel db).mappingDecisions.countP (fun d ↦ d.counted = some true) =
      countedLeaves db .olt + countedLeaves db .aon := by
  rw [countP_mappingDecisions]
  unfold countedLeaves boundKey
  induction sortedDevices db with
  | nil => rfl
  | cons d ds ih =>
    rw [List.countP_cons, List.countP_cons, List.countP_cons, ih]
    cases h : finalDecision db d with
    | none => simp [keys_eq_none_of_finalDecision h]
    | some dec =>
      have hone := counted_finalDecision h
      simp only [Option.any_some, decide_eq_true_eq]
      omega

/-- Every leaf has exactly one decision. -/
private theorem countP_subscriberId {d : Device} (hd : d ∈ db.devices)
    (hleaf : ontTypes d.type ∨ cpeTypes d.type) :
    (resolveSubscriberModel db).mappingDecisions.countP (fun dec ↦ dec.subscriberId = d.id) = 1 := by
  rw [countP_mappingDecisions, ← countP_id hd]
  apply List.countP_congr
  intro x hx
  cases hf : finalDecision db x with
  | some dec => simp [(finalDecision_cases hf).1]
  | none =>
    -- `x` is then no leaf, so it is not `d`
    simp only [Option.any_none, Bool.false_eq_true, decide_eq_true_eq, false_iff]
    intro hxd
    have heq : x = d :=
      List.inj_on_of_nodup_map db.devices_nodup (mem_sortedDevices.mp hx) hd hxd
    rw [heq] at hf
    have hi : initialDecision db d = none := by simpa [finalDecision] using hf
    unfold initialDecision at hi
    grind

/-- The anchor that lists a leaf is the one it counts on. -/
private theorem exists_boundKey {d e : Device} (hd : d ∈ db.devices) (he : e ∈ db.devices)
    (hanchor : (finalNode db e).isAnchor) (hmem : d.id ∈ (finalNode db e).subscriberIds) :
    ∃ domain k, boundKey db domain d = some k ∧ k.1 = e.id := by
  have htype : ∃ domain, e.type = anchorType domain := by
    simp only [Node.isAnchor, finalNode_type, decide_eq_true_eq] at hanchor
    rcases hanchor with h | h
    · exact ⟨.olt, h⟩
    · exact ⟨.aon, h⟩
  obtain ⟨domain, ht⟩ := htype
  have hlists := lists_finalNode he domain ht
  obtain ⟨x, hx, hxd, k, hk, hke⟩ := mem_idsOn.mp (hlists.subscriberIds.mem_iff.mp hmem)
  rw [List.inj_on_of_nodup_map db.devices_nodup hx hd hxd] at hk
  exact ⟨domain, k, hk, hke⟩

private theorem sum_anchors :
    ((((resolveSubscriberModel db).resolvedSubscribers).filter Node.isAnchor).map
      Node.subscribers).sum = countedLeaves db .olt + countedLeaves db .aon := by
  rw [← sum_subscribers .olt, ← sum_subscribers .aon]
  show (((secondPass (firstPass db)).perNode.filter Node.isAnchor).map Node.subscribers).sum = _
  rw [secondPass_perNode]
  induction db.devices with
  | nil => rfl
  | cons e es ih =>
    simp only [List.map_cons, List.filter_cons, Node.isAnchor, finalNode_type, anchorType] at ih ⊢
    by_cases ho : e.type = .olt
    · simp [ho] at ih ⊢
      omega
    · by_cases ha : e.type = .aonSwitch
      · simp [ha] at ih ⊢
        omega
      · simpa [ho, ha] using ih

/-- The node of an anchor counts the bindings that name it. -/
private theorem countP_log_eq_subscribers {n : Node}
    (hn : n ∈ (resolveSubscriberModel db).resolvedSubscribers) (domain : Domain)
    (ht : n.type = anchorType domain) :
    (buildSimulationEventLog db).countP (fun x ↦ x.anchorIn domain = some (some n.id)) =
      n.subscribers := by
  obtain ⟨e, he, rfl⟩ := mem_resolvedSubscribers.mp hn
  rw [finalNode_type] at ht
  rw [countP_anchorIn, (lists_finalNode he domain ht).subscribers, idsOn, List.length_map,
    List.countP_eq_length_filter, finalNode_id]
  congr 2
  ext1 d
  cases boundKey db domain d <;> simp

/-- A device that a binding names is an anchor of its domain. -/
private theorem exists_of_anchorIn {domain : Domain} {k : Option String} {x : SimulationEvent}
    (hx : x ∈ buildSimulationEventLog db) (hk : x.anchorIn domain = some k) :
    ∃ n ∈ (resolveSubscriberModel db).resolvedSubscribers,
      n.type = anchorType domain ∧ k = some n.id := by
  have hpos : 0 < (buildSimulationEventLog db).countP (fun x ↦ x.anchorIn domain = some k) :=
    List.countP_pos_iff.mpr ⟨x, hx, by simpa using hk⟩
  rw [countP_anchorIn] at hpos
  obtain ⟨d, _, hd⟩ := List.countP_pos_iff.mp hpos
  obtain ⟨p, hp, rfl⟩ := Option.map_eq_some_iff.mp (of_decide_eq_true hd)
  obtain ⟨e, he, _, _, ht, hek, _⟩ := isPort_boundKey hp
  exact ⟨finalNode db e, mem_resolvedSubscribers.mpr ⟨e, he, rfl⟩, by rw [finalNode_type, ht],
    by rw [finalNode_id, hek]⟩

/-- A PON port counts the bindings that name it. -/
private theorem replay_pon_of_lookup {k : String × String} {count : Nat}
    (hk : (resolveSubscriberModel db).ponOccupancy.lookup k = some count) :
    ((replaySimulationEvents (buildSimulationEventLog db)).ponPorts (some k.2)).map
      PonPortSnapshot.effectiveCount = some count := by
  rw [resolve_ponOccupancy] at hk
  obtain ⟨d, hd, hdk⟩ := (Dict.mem_foldl_count (ontKey db) (sortedDevices db) k).mp
    (AList.lookup_isSome.mp (by rw [hk]; rfl))
  have hcount : (sortedDevices db).countP (fun x ↦ ontKey db x = some k) = count := by
    rw [← Dict.lookup_foldl_count, hk]
    rfl
  have hlog : (buildSimulationEventLog db).countP (fun e ↦ e.ponPort = some (some k.2)) = count := by
    rw [countP_ponPort, ← hcount]
    apply List.countP_congr
    intro x _
    simp only [decide_eq_true_eq, Option.map_eq_some_iff, Option.some.injEq]
    constructor
    · rintro ⟨p, hp, hpk⟩
      rw [hp, (isPort_ontKey hp).eq_of_snd (isPort_ontKey hdk) hpk]
    · intro hx
      exact ⟨k, hx, rfl⟩
  have hpos : 0 < (sortedDevices db).countP (fun x ↦ ontKey db x = some k) :=
    List.countP_pos_iff.mpr ⟨d, hd, by simpa using hdk⟩
  rw [hcount, ← hlog] at hpos
  obtain ⟨x, hx, hxk⟩ := List.countP_pos_iff.mp hpos
  rw [replay_ponPorts, if_pos (List.any_eq_true.mpr ⟨x, hx, hxk⟩), hlog]

private theorem exists_of_ponPort {port : Option String} {x : SimulationEvent}
    (hx : x ∈ buildSimulationEventLog db) (hp : x.ponPort = some port) :
    ∃ k ∈ (resolveSubscriberModel db).ponOccupancy, port = some k.2 := by
  have hpos : 0 < (buildSimulationEventLog db).countP (fun x ↦ x.ponPort = some port) :=
    List.countP_pos_iff.mpr ⟨x, hx, by simpa using hp⟩
  rw [countP_ponPort] at hpos
  obtain ⟨d, hd, hdk⟩ := List.countP_pos_iff.mp hpos
  obtain ⟨k, hk, rfl⟩ := Option.map_eq_some_iff.mp (of_decide_eq_true hdk)
  rw [resolve_ponOccupancy]
  exact ⟨k, (Dict.mem_foldl_count _ _ _).mpr ⟨d, hd, hk⟩, rfl⟩

end Counts

/-! ### Agreement -/

/-- The accounts of a model and of a replayed log agree. -/
structure AccountsAgree (db : Database) (m : SubscriberModel) (r : ReplayResult) : Prop where
  total_eq_counted : m.subscriber.total = m.mappingDecisions.countP (fun d ↦ d.counted = some true)
  total_eq_occupancy : m.subscriber.total = m.ponOccupancy.total + m.aonAccessOccupancy.total
  total_eq_nodes : m.subscriber.total =
    ((m.resolvedSubscribers.filter Node.isAnchor).map Node.subscribers).sum
  one_decision : ∀ d ∈ db.devices, d.provisioned = true → ontTypes d.type ∨ cpeTypes d.type →
    m.mappingDecisions.countP (fun dec ↦ dec.subscriberId = d.id) = 1
  one_anchor : ∀ d ∈ db.devices, d.provisioned = true → ontTypes d.type ∨ cpeTypes d.type →
    ∀ n ∈ m.resolvedSubscribers, ∀ n' ∈ m.resolvedSubscribers, n.isAnchor → n'.isAnchor →
      d.id ∈ n.subscriberIds → d.id ∈ n'.subscriberIds → n = n'
  replay_total : r.effectiveSubscriberCount = m.subscriber.total
  replay_olt : ∀ n ∈ m.resolvedSubscribers, n.type = .olt →
    (r.oltSubscribers.lookup (some n.id)).getD 0 = n.subscribers
  replay_olt_keys : ∀ k ∈ r.oltSubscribers, ∃ n ∈ m.resolvedSubscribers,
    n.type = .olt ∧ k = some n.id
  replay_aon : ∀ n ∈ m.resolvedSubscribers, n.type = .aonSwitch →
    (r.aonSubscribers.lookup (some n.id)).getD 0 = n.subscribers
  replay_aon_keys : ∀ k ∈ r.aonSubscribers, ∃ n ∈ m.resolvedSubscribers,
    n.type = .aonSwitch ∧ k = some n.id
  replay_pon : ∀ k count, m.ponOccupancy.lookup k = some count →
    (r.ponPorts (some k.2)).map PonPortSnapshot.effectiveCount = some count
  replay_pon_keys : ∀ port, (r.ponPorts port).isSome → ∃ k ∈ m.ponOccupancy, port = some k.2

private theorem accountsAgree {db : Database} :
    AccountsAgree db (resolveSubscriberModel db)
      (replaySimulationEvents (buildSimulationEventLog db)) where
  total_eq_counted := by rw [total_eq_countedLeaves, countP_counted]
  total_eq_occupancy := by
    rw [total_eq_countedLeaves, ← total_ponOccupancy, ← total_aonAccessOccupancy]
    rfl
  total_eq_nodes := by rw [total_eq_countedLeaves, sum_anchors]
  one_decision := fun d hd _ hleaf ↦ countP_subscriberId hd hleaf
  one_anchor := by
    intro d hd _ _ n hn n' hn' ha ha' hmem hmem'
    obtain ⟨e, he, rfl⟩ := mem_resolvedSubscribers.mp hn
    obtain ⟨e', he', rfl⟩ := mem_resolvedSubscribers.mp hn'
    obtain ⟨domain, k, hk, hke⟩ := exists_boundKey hd he ha hmem
    obtain ⟨domain', k', hk', hke'⟩ := exists_boundKey hd he' ha' hmem'
    have hkk := (boundKey_unique hk hk').2
    have hee : e = e' :=
      List.inj_on_of_nodup_map db.devices_nodup he he' (by rw [← hke, ← hke', hkk])
    rw [hee]
  replay_total := by
    rw [replay_effectiveSubscriberCount, total_eq_countedLeaves, ← countP_counted]
    have hlog := countP_buildSimulationEventLog (fun _ ↦ true) (fun _ ↦ rfl) db
    simpa using hlog
  replay_olt := by
    intro n hn ht
    rw [replay_oltSubscribers, Dict.lookup_foldl_count]
    exact countP_log_eq_subscribers hn .olt ht
  replay_olt_keys := by
    intro k hk
    rw [replay_oltSubscribers, Dict.mem_foldl_count] at hk
    obtain ⟨x, hx, hxk⟩ := hk
    exact exists_of_anchorIn hx hxk
  replay_aon := by
    intro n hn ht
    rw [replay_aonSubscribers, Dict.lookup_foldl_count]
    exact countP_log_eq_subscribers hn .aon ht
  replay_aon_keys := by
    intro k hk
    rw [replay_aonSubscribers, Dict.mem_foldl_count] at hk
    obtain ⟨x, hx, hxk⟩ := hk
    exact exists_of_anchorIn hx hxk
  replay_pon := fun _ _ hk ↦ replay_pon_of_lookup hk
  replay_pon_keys := by
    intro port hport
    have hcount : (((replaySimulationEvents (buildSimulationEventLog db)).ponPorts port).map
        PonPortSnapshot.effectiveCount).isSome := by simpa using hport
    rw [replay_ponPorts] at hcount
    split at hcount
    · next hany =>
      obtain ⟨x, hx, hxp⟩ := List.any_eq_true.mp hany
      exact exists_of_ponPort hx (of_decide_eq_true hxp)
    · cases hcount

/-- All accounts of a database state agree, whatever the order of its rows. -/
theorem subscriber_accounts_agree (db : Database) :
    AccountsAgree db (resolveSubscriberModel db)
        (replaySimulationEvents (buildSimulationEventLog db)) ∧
      ∀ db', SameRows db db' →
        SameModel (resolveSubscriberModel db) (resolveSubscriberModel db') :=
  ⟨accountsAgree, fun _ h ↦ sameModel_of_sameRows h⟩

/-- Two CPEs on one AON access port, and an ONT on a PON port. -/
def sharedAccessPort : Database where
  devices := [
    { id := "olt", type := .olt, provisioned := true },
    { id := "ont", type := .ont, provisioned := true },
    { id := "switch", type := .aonSwitch, provisioned := true },
    { id := "cpe1", type := .aonCpe, provisioned := true },
    { id := "cpe2", type := .aonCpe, provisioned := true }]
  interfaces := [
    { id := "olt-pon", deviceId := "olt", name := "pon0", portRole := some .pon },
    { id := "ont-up", deviceId := "ont", name := "up0" },
    { id := "switch-acc", deviceId := "switch", name := "acc0", portRole := some .access },
    { id := "cpe1-up", deviceId := "cpe1", name := "up0" },
    { id := "cpe2-up", deviceId := "cpe2", name := "up0" }]
  links := [
    { id := "l1", aInterfaceId := "ont-up", bInterfaceId := "olt-pon" },
    { id := "l2", aInterfaceId := "cpe1-up", bInterfaceId := "switch-acc" },
    { id := "l3", aInterfaceId := "cpe2-up", bInterfaceId := "switch-acc" }]

/-- Two subscribers, one of them on a shared access port. -/
theorem subscriber_accounts_agree_sharedAccessPort :
    (resolveSubscriberModel sharedAccessPort).subscriber.total = 2 ∧
      AccountsAgree sharedAccessPort (resolveSubscriberModel sharedAccessPort)
        (replaySimulationEvents (buildSimulationEventLog sharedAccessPort)) :=
  ⟨by decide +kernel, (subscriber_accounts_agree sharedAccessPort).1⟩

end Unoc.Subscriber
