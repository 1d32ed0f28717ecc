import Unoc.Base.FirstGoal
import Unoc.Subscriber.CountSemantics

/-!
# Nearest ports

Which port a leaf is attributed to, on the rows. An ONT belongs to the PON port that is the fewest hops
away, and of several such ports to the one that comes first. The subscriber model follows names and
ids, across passive devices, ONTs and CPEs; the count semantics follow the rows, across passive devices
and ONTs. A CPE belongs to the first port of an AON switch at the far end of its links, in either order.
-/

namespace Unoc.Subscriber

open Unoc.Base Unoc.Model

variable {A : Type} {db : Database}

/-! ### Queue loops as searches -/

/-- What an interface is found as, if its rows exist. -/
def foundAt (db : Database) (found : Device → Interface → Option A) (id : String) : Option A :=
  (db.getInterface id).bind (fun iface ↦
    (db.getDevice iface.deviceId).bind (fun device ↦ found device iface))

/-- The ids one hop from an interface; none if its rows do not exist. -/
def hopsFrom (db : Database) (next : Device → Interface → List String) (id : String) : List String :=
  ((db.getInterface id).bind (fun iface ↦
    (db.getDevice iface.deviceId).map (fun device ↦ next device iface))).getD []

private theorem foldl_pushNext (ids : List String) (st : TraceState) {marked : List String}
    (h : ∀ x, x ∈ st.visited ↔ x ∈ marked) :
    (ids.foldl pushNext st).queue = (ids.foldl Frontier.enter (st.queue, marked)).1 ∧
      ∀ x, x ∈ (ids.foldl pushNext st).visited ↔
        x ∈ (ids.foldl Frontier.enter (st.queue, marked)).2 := by
  induction ids generalizing st marked with
  | nil => exact ⟨rfl, h⟩
  | cons id ids ih =>
    rw [List.foldl_cons, List.foldl_cons]
    by_cases hid : id ∈ st.visited
    · rw [pushNext, if_pos hid, Frontier.enter, if_pos ((h id).mp hid)]
      exact ih st h
    · rw [pushNext, if_neg hid, Frontier.enter, if_neg (fun hmem ↦ hid ((h id).mpr hmem))]
      apply ih ⟨st.queue ++ [id], id :: st.visited⟩
      intro x
      simp only [List.mem_cons, List.mem_append, List.not_mem_nil, or_false, h x]
      exact or_comm

private theorem searchLoop_eq_search {found : Device → Interface → Option A}
    {next : Device → Interface → List String} (fuel : Nat) {st : TraceState} {marked : List String}
    (h : ∀ x, x ∈ st.visited ↔ x ∈ marked) :
    searchLoop db found next fuel st =
      (Frontier.search (hopsFrom db next) (fun id ↦ (foundAt db found id).isSome) fuel st.queue
        marked).bind (foundAt db found) := by
  induction fuel generalizing st marked with
  | zero => rfl
  | succ fuel ih =>
    obtain ⟨queue, visited⟩ := st
    cases queue with
    | nil => rfl
    | cons ifaceId rest =>
      rw [searchLoop, Frontier.search]
      cases hi : db.getInterface ifaceId with
      | none =>
        have hfound : foundAt db found ifaceId = none := by rw [foundAt, hi]; rfl
        have hnext : hopsFrom db next ifaceId = [] := by rw [hopsFrom, hi]; rfl
        simp only [hi, hfound, hnext, Option.isSome_none, Bool.false_eq_true, if_false, List.foldl_nil]
        exact @ih ⟨rest, visited⟩ marked h
      | some iface =>
        cases hd : db.getDevice iface.deviceId with
        | none =>
          have hfound : foundAt db found ifaceId = none := by
            rw [foundAt, hi, Option.bind_some, hd]
            rfl
          have hnext : hopsFrom db next ifaceId = [] := by
            rw [hopsFrom, hi, Option.bind_some, hd]
            rfl
          simp only [hi, hd, hfound, hnext, Option.isSome_none, Bool.false_eq_true, if_false,
            List.foldl_nil]
          exact @ih ⟨rest, visited⟩ marked h
        | some device =>
          have hfound : foundAt db found ifaceId = found device iface := by
            rw [foundAt, hi, Option.bind_some, hd, Option.bind_some]
          have hnext : hopsFrom db next ifaceId = next device iface := by
            rw [hopsFrom, hi, Option.bind_some, hd]
            rfl
          cases ha : found device iface with
          | some a =>
            simp only [hi, hd, ha, hfound, Option.isSome_some, if_true, Option.bind_some]
          | none =>
            obtain ⟨hqueue, hvisited⟩ :=
              foldl_pushNext (next device iface) ⟨rest, visited⟩ h
            simp only [hi, hd, ha, hfound, hnext, Option.isSome_none, Bool.false_eq_true, if_false]
            rw [ih hvisited, hqueue]

/-- The loop finds what the first goal of its layers is. -/
theorem searchLoop_eq_some_iff {found : Device → Interface → Option A}
    {next : Device → Interface → List String}
    (hnext : ∀ iface ∈ db.interfaces, ∀ device, next device iface ⊆ traceUniverse db)
    {seeds : List String} (hnodup : seeds.Nodup) {fuel : Nat}
    (hfuel : seeds.length + (traceUniverse db).length ≤ fuel) {a : A} :
    searchLoop db found next fuel ⟨seeds, seeds⟩ = some a ↔
      ∃ id, FirstGoal (hopsFrom db next) (fun id ↦ (foundAt db found id).isSome) seeds id ∧
        foundAt db found id = some a := by
  have hin : ∀ id, ∀ x ∈ hopsFrom db next id, x ∈ (traceUniverse db).toFinset := by
    intro id x hx
    rw [hopsFrom] at hx
    cases hi : db.getInterface id with
    | none => simp [hi] at hx
    | some iface =>
      cases hd : db.getDevice iface.deviceId with
      | none => simp [hi, hd] at hx
      | some device =>
        simp only [hi, hd, Option.bind_some, Option.map_some, Option.getD_some] at hx
        exact List.mem_toFinset.mpr (hnext iface (Database.getInterface_eq_some.mp hi).1 device hx)
  have hcard := List.toFinset_card_le (traceUniverse db)
  rw [searchLoop_eq_search fuel (fun _ ↦ Iff.rfl), Option.bind_eq_some_iff]
  simp only [Frontier.search_eq_some_iff hin hnodup (le_trans (Nat.add_le_add_left hcard _) hfuel)]

/-! ### The physical trace ends -/

private theorem traceOltLoop_eq_searchLoop (fuel : Nat) (st : TraceState) :
    traceOltLoop db fuel st =
      searchLoop db (fun current iface ↦
        if current.type = .olt ∧ iface.portRole = some .pon then some (current.id, iface.id)
        else none)
        (physicalNext db) fuel st := by
  induction fuel generalizing st with
  | zero => rfl
  | succ fuel ih =>
    unfold traceOltLoop searchLoop
    cases st.queue with
    | nil => rfl
    | cons ifaceId rest =>
      cases hi : db.getInterface ifaceId with
      | none => simp only [hi, ih]
      | some iface =>
        simp only [hi, ih]
        cases hd : db.getDevice iface.deviceId with
        | none => simp only
        | some current =>
          by_cases hport : current.type = .olt ∧ iface.portRole = some .pon
          · simp only [if_pos hport]
          · simp only [if_neg hport]

private theorem ifacesByDevice_subset (deviceId : String) :
    (ifacesByDevice db deviceId).map Interface.id ⊆ traceUniverse db := by
  intro id hmem
  obtain ⟨i, hi, rfl⟩ := List.mem_map.mp hmem
  exact List.mem_append_left _ (List.mem_map_of_mem (List.mem_of_mem_filter hi))

private theorem physicalNext_subset (device : Device) (iface : Interface) :
    physicalNext db device iface ⊆ traceUniverse db := by
  apply List.append_subset.mpr
  constructor
  · intro id hmem
    obtain ⟨l, hl, rfl⟩ := List.mem_map.mp (List.mem_of_mem_filter hmem)
    obtain ⟨l', hl', hmem⟩ := List.mem_flatMap.mp hl
    have heq : l = l' := by grind
    apply List.mem_append_right
    apply List.mem_flatMap.mpr
    refine ⟨l', hl', ?_⟩
    unfold peerId
    grind
  · split
    · exact ifacesByDevice_subset device.id
    · exact List.nil_subset _

/-- The loop of a physical trace ends: more iterations find nothing else. -/
theorem traceOltAnchor_eq_of_fuel (device : Device) {fuel : Nat}
    (hfuel : (traceUniverse db).length ≤ fuel) :
    traceOltAnchor db device =
      traceOltLoop db fuel
        { queue := (ifacesByDevice db device.id).map Interface.id
          visited := (ifacesByDevice db device.id).map Interface.id } := by
  have hnodup : ((ifacesByDevice db device.id).map Interface.id).Nodup :=
    db.interfaces_nodup.sublist (List.filter_sublist.map _)
  unfold traceOltAnchor
  rw [traceOltLoop_eq_searchLoop, traceOltLoop_eq_searchLoop]
  exact searchLoop_of_fuel (fun iface _ device ↦ physicalNext_subset device iface) hnodup
    (ifacesByDevice_subset device.id) hfuel

/-! ### Ports -/

/-- In which order rows are followed. -/
inductive Order where
  /-- By names and ids: the subscriber model. -/
  | ids
  /-- As the queries return them: the count semantics. -/
  | rows
  deriving DecidableEq, Repr

/-- The interfaces of a device. -/
def Order.interfaces (db : Database) : Order → String → List Interface
  | .ids => interfacesByDevice db
  | .rows => ifacesByDevice db

/-- What is one hop from an interface: the far ends of its links, then its siblings if its device can be
crossed; `subscriber_model.py:71–78, 97`, `count_semantics.py:76–86`. -/
def Order.next (db : Database) : Order → Device → Interface → List String
  | .ids => fun _ iface ↦ linkNeighbors db iface.id ++ siblingIds db iface
  | .rows => physicalNext db

/-- The far ends of the links of a device. -/
def Order.farEnds (db : Database) : Order → String → List String
  | .ids => fun deviceId ↦ (interfacesByDevice db deviceId).flatMap (fun i ↦ linkNeighbors db i.id)
  | .rows => fun deviceId ↦ (ifacesByDevice db deviceId).flatMap (fun i ↦
      (linksByIf db i.id).map (peerId i.id))

/-- A PON port of an OLT. -/
def isPonPort (db : Database) (id : String) : Bool :=
  (db.getInterface id).any (fun iface ↦ iface.portRole = some .pon &&
    (db.getDevice iface.deviceId).any (fun device ↦ device.type = .olt))

/-- An interface of an AON switch. -/
def isSwitchPort (db : Database) (id : String) : Bool :=
  (db.getInterface id).any (fun iface ↦
    (db.getDevice iface.deviceId).any (fun device ↦ device.type = .aonSwitch))

/-- The PON port that is the fewest hops from a device, the first one in the order of the hops if there
are several. -/
def NearestPort (db : Database) (order : Order) (d : Device) (port : String) : Prop :=
  FirstGoal (hopsFrom db (order.next db)) (isPonPort db)
    ((order.interfaces db d.id).map Interface.id) port

/-- The only PON port among those that are the fewest hops away. -/
def OnlyNearestPort (db : Database) (order : Order) (d : Device) (port : String) : Prop :=
  ∃ n, (∀ m < n, ∀ id ∈ layer (hopsFrom db (order.next db))
      ((order.interfaces db d.id).map Interface.id) m, isPonPort db id = false) ∧
    isPonPort db port = true ∧
    port ∈ layer (hopsFrom db (order.next db)) ((order.interfaces db d.id).map Interface.id) n ∧
    ∀ id ∈ layer (hopsFrom db (order.next db)) ((order.interfaces db d.id).map Interface.id) n,
      isPonPort db id = true → id = port

/-- A port that is the only nearest one is so whatever the order of the rows. -/
theorem OnlyNearestPort.nearest {order : Order} {d : Device} {port : String}
    (h : OnlyNearestPort db order d port) : NearestPort db order d port := by
  obtain ⟨n, hnone, hport, hmem, honly⟩ := h
  refine ⟨n, hnone, ?_⟩
  cases hfind : (layer (hopsFrom db (order.next db))
      ((order.interfaces db d.id).map Interface.id) n).find? (isPonPort db) with
  | none => exact absurd hport (List.find?_eq_none.mp hfind port hmem)
  | some id => rw [honly id (List.mem_of_find?_eq_some hfind) (List.find?_some hfind)]

/-- The first port of an AON switch at the far ends of a device. -/
def FirstSwitchPort (db : Database) (order : Order) (d : Device) (port : String) : Prop :=
  (order.farEnds db d.id).find? (isSwitchPort db) = some port

/-- A PON port is an interface of an OLT. -/
theorem isPort_of_isPonPort {id : String} (h : isPonPort db id = true) :
    ∃ i ∈ db.interfaces, i.id = id ∧ IsPort db .olt (i.deviceId, id) := by
  obtain ⟨i, hi, h⟩ := (Option.any_eq_true _ _).mp h
  obtain ⟨device, hd, htype⟩ := (Option.any_eq_true _ _).mp (Bool.and_eq_true_iff.mp h).2
  obtain ⟨hmem, hid⟩ := Database.getInterface_eq_some.mp hi
  have hport := isPort_of_get hi hd
  rw [of_decide_eq_true htype, (Database.getDevice_eq_some.mp hd).2, hid] at hport
  exact ⟨i, hmem, hid, hport⟩

/-- A switch port is an interface of an AON switch. -/
theorem isPort_of_isSwitchPort {id : String} (h : isSwitchPort db id = true) :
    ∃ i ∈ db.interfaces, i.id = id ∧ IsPort db .aonSwitch (i.deviceId, id) := by
  obtain ⟨i, hi, h⟩ := (Option.any_eq_true _ _).mp h
  obtain ⟨device, hd, htype⟩ := (Option.any_eq_true _ _).mp h
  obtain ⟨hmem, hid⟩ := Database.getInterface_eq_some.mp hi
  have hport := isPort_of_get hi hd
  rw [of_decide_eq_true htype, (Database.getDevice_eq_some.mp hd).2, hid] at hport
  exact ⟨i, hmem, hid, hport⟩

/-! ### Attributions -/

/-- The device and the id of a port that is found at an interface. -/
private theorem foundAt_port {found : Device → Interface → Option A} {p : Device → Interface → Bool}
    {key : A → String × String} (hkey : ∀ device iface a, found device iface = some a →
      key a = (device.id, iface.id))
    (hp : ∀ device iface, (found device iface).isSome = p device iface) (id : String) :
    ((foundAt db found id).isSome =
      (db.getInterface id).any (fun iface ↦ (db.getDevice iface.deviceId).any (fun device ↦
        p device iface))) ∧
      ∀ a, foundAt db found id = some a → (key a).2 = id := by
  unfold foundAt
  cases hi : db.getInterface id with
  | none => exact ⟨rfl, fun a ha ↦ by cases ha⟩
  | some iface =>
    have hid := (Database.getInterface_eq_some.mp hi).2
    cases hd : db.getDevice iface.deviceId with
    | none => simp [hd]
    | some device =>
      simp only [Option.bind_some, hd, Option.any_some]
      exact ⟨hp device iface, fun a ha ↦ by rw [hkey device iface a ha, hid]⟩

private theorem isPonPort_eq (id : String) :
    isPonPort db id = (db.getInterface id).any (fun iface ↦
      (db.getDevice iface.deviceId).any (fun device ↦
        decide (device.type = .olt ∧ iface.portRole = some .pon))) := by
  unfold isPonPort
  congr 1
  funext iface
  cases db.getDevice iface.deviceId with
  | none => simp
  | some device => simp [Bool.and_comm]

/-- What the search of a trace finds is the key of the nearest port. -/
private theorem searchLoop_nearest {found : Device → Interface → Option A}
    {key : A → String × String} (order : Order)
    (hkey : ∀ device iface a, found device iface = some a → key a = (device.id, iface.id))
    (hfound : ∀ device iface, (found device iface).isSome =
      decide (device.type = .olt ∧ iface.portRole = some .pon))
    (hnext : ∀ iface ∈ db.interfaces, ∀ device, order.next db device iface ⊆ traceUniverse db)
    {d : Device} (hnodup : ((order.interfaces db d.id).map Interface.id).Nodup) {fuel : Nat}
    (hfuel : ((order.interfaces db d.id).map Interface.id).length + (traceUniverse db).length ≤ fuel)
    {k : String × String} :
    (searchLoop db found (order.next db) fuel ⟨(order.interfaces db d.id).map Interface.id,
      (order.interfaces db d.id).map Interface.id⟩).map key = some k ↔
      IsPort db .olt k ∧ NearestPort db order d k.2 := by
  have hgoal : (fun id ↦ (foundAt db found id).isSome) = isPonPort db := by
    funext id
    rw [isPonPort_eq]
    exact (foundAt_port hkey hfound id).1
  rw [Option.map_eq_some_iff]
  simp only [searchLoop_eq_some_iff hnext hnodup hfuel, hgoal]
  have hport : ∀ id a, foundAt db found id = some a → IsPort db .olt (key a) ∧ (key a).2 = id := by
    intro id a ha
    refine ⟨?_, (foundAt_port hkey hfound id).2 a ha⟩
    obtain ⟨iface, hi, ha⟩ := Option.bind_eq_some_iff.mp ha
    obtain ⟨device, hd, ha⟩ := Option.bind_eq_some_iff.mp ha
    have htype : device.type = .olt := by
      have hsome := hfound device iface
      rw [ha] at hsome
      exact (of_decide_eq_true hsome.symm).1
    rw [hkey device iface a ha, ← htype]
    exact isPort_of_get hi hd
  constructor
  · rintro ⟨a, ⟨id, hfirst, ha⟩, rfl⟩
    obtain ⟨hk, hid⟩ := hport id a ha
    exact ⟨hk, by rw [NearestPort, hid]; exact hfirst⟩
  · rintro ⟨hk, hnearest⟩
    have hsome : (foundAt db found k.2).isSome = true := by
      rw [congrFun hgoal k.2]
      exact hnearest.goal_eq
    obtain ⟨a, ha⟩ := Option.isSome_iff_exists.mp hsome
    obtain ⟨hk', hid⟩ := hport k.2 a ha
    exact ⟨a, ⟨k.2, hnearest, ha⟩, hk'.eq_of_snd hk hid⟩

/-- The subscriber model counts a provisioned ONT on its nearest port by names and ids. -/
theorem ontKey_eq_some_iff {d : Device} {k : String × String} :
    ontKey db d = some k ↔ ontTypes d.type = true ∧ d.provisioned = true ∧ IsPort db .olt k ∧
      NearestPort db .ids d k.2 := by
  have hnodup : ((interfacesByDevice db d.id).map Interface.id).Nodup := by
    have hsorted : ((sortedInterfaces db).map Interface.id).Nodup :=
      ((List.perm_insertionSort _ db.interfaces).map _).nodup_iff.mpr db.interfaces_nodup
    exact hsorted.sublist (List.filter_sublist.map _)
  have htrace : (traceAnchor db d .olt).map (fun a ↦ (a.deviceId, a.interfaceId)) = some k ↔
      IsPort db .olt k ∧ NearestPort db .ids d k.2 := by
    rw [traceAnchor_eq_of_fuel d .olt (Nat.le_add_left _ _), traceLoop_eq_searchLoop]
    apply searchLoop_nearest .ids
    · intro device iface a ha
      rw [(anchorAt_olt ha).2]
    · intro device iface
      unfold anchorAt
      by_cases hport : device.type = .olt ∧ iface.portRole = some .pon <;> simp [hport]
    · exact fun iface _ _ ↦ nextIds_subset iface.id iface
    · exact hnodup
    · exact Nat.le_refl _
  unfold ontKey
  split
  · next hont => simp [hont, htrace]
  · next hont =>
    simp only [reduceCtorEq, false_iff]
    exact fun h ↦ hont ⟨h.1, h.2.1⟩

/-- The count semantics attribute an ONT to its nearest port by rows. -/
theorem physicalOntKey_eq_some_iff {d : Device} {k : String × String} :
    physicalOntKey db d = some k ↔ ontTypes d.type = true ∧ IsPort db .olt k ∧
      NearestPort db .rows d k.2 := by
  have hnodup : ((ifacesByDevice db d.id).map Interface.id).Nodup :=
    db.interfaces_nodup.sublist (List.filter_sublist.map _)
  have htrace : traceOltAnchor db d = some k ↔ IsPort db .olt k ∧ NearestPort db .rows d k.2 := by
    have hid : traceOltAnchor db d = (traceOltAnchor db d).map id := (Option.map_id_apply).symm
    rw [hid, traceOltAnchor_eq_of_fuel d (Nat.le_add_left _ _), traceOltLoop_eq_searchLoop]
    apply searchLoop_nearest .rows
    · intro device iface a ha
      split at ha
      · exact (Option.some.inj ha).symm
      · cases ha
    · intro device iface
      split <;> simp_all
    · exact fun iface _ device ↦ physicalNext_subset device iface
    · exact hnodup
    · exact Nat.le_refl _
  unfold physicalOntKey
  split
  · next hont => simp [hont, htrace]
  · next hont => simp [hont]

/-- What the first far end that is a switch port is found as. -/
private theorem findSome_firstSwitchPort {find : String → Option A} {key : A → String × String}
    {ids : List String} (hport : ∀ id, (find id).isSome = isSwitchPort db id)
    (hkey : ∀ id a, find id = some a → IsPort db .aonSwitch (key a) ∧ (key a).2 = id)
    {k : String × String} :
    (ids.findSome? find).map key = some k ↔
      IsPort db .aonSwitch k ∧ ids.find? (isSwitchPort db) = some k.2 := by
  induction ids with
  | nil => simp
  | cons id ids ih =>
    rw [List.findSome?_cons, List.find?_cons, ← hport id]
    cases ha : find id with
    | none => exact ih
    | some a =>
      obtain ⟨hk, hid⟩ := hkey id a ha
      simp only [Option.map_some, Option.some.injEq, Option.isSome_some]
      constructor
      · rintro rfl
        exact ⟨hk, hid.symm⟩
      · rintro ⟨hk', rfl⟩
        exact hk.eq_of_snd hk' hid

/-- The subscriber model makes a provisioned CPE a candidate for the first switch port by names and ids. -/
theorem cpeKey_eq_some_iff {d : Device} {k : String × String} :
    cpeKey db d = some k ↔ cpeTypes d.type = true ∧ d.provisioned = true ∧
      IsPort db .aonSwitch k ∧ FirstSwitchPort db .ids d k.2 := by
  have htrace : (traceDirectAonAnchor db d).map (fun a ↦ (a.deviceId, a.interfaceId)) = some k ↔
      IsPort db .aonSwitch k ∧ FirstSwitchPort db .ids d k.2 := by
    apply findSome_firstSwitchPort
    · intro id
      unfold directAonPeer isSwitchPort
      cases db.getInterface id with
      | none => rfl
      | some iface =>
        cases hd : db.getDevice iface.deviceId with
        | none => simp [hd]
        | some device => by_cases ht : device.type = .aonSwitch <;> simp [hd, ht]
    · intro id a ha
      simp only [directAonPeer, Option.bind_eq_bind, Option.bind_eq_some_iff,
        Option.ite_none_right_eq_some, Option.some.injEq] at ha
      obtain ⟨iface, hi, device, hd, ht, rfl⟩ := ha
      exact ⟨ht ▸ isPort_of_get hi hd, (Database.getInterface_eq_some.mp hi).2⟩
  unfold cpeKey
  split
  · next hcpe => simp [hcpe, htrace]
  · next hcpe =>
    simp only [reduceCtorEq, false_iff]
    exact fun h ↦ hcpe ⟨h.1, h.2.1⟩

/-- The count semantics attribute a CPE to the first switch port by rows. -/
theorem physicalCpeKey_eq_some_iff {d : Device} {k : String × String} :
    physicalCpeKey db d = some k ↔ cpeTypes d.type = true ∧ IsPort db .aonSwitch k ∧
      FirstSwitchPort db .rows d k.2 := by
  have htrace : directCpeAnchor db d = some k ↔
      IsPort db .aonSwitch k ∧ FirstSwitchPort db .rows d k.2 := by
    have hid : directCpeAnchor db d = (directCpeAnchor db d).map id := (Option.map_id_apply).symm
    rw [hid]
    apply findSome_firstSwitchPort
    · intro id
      unfold aonSwitchPort isSwitchPort
      cases db.getInterface id with
      | none => rfl
      | some iface =>
        cases hd : db.getDevice iface.deviceId with
        | none => simp [hd]
        | some device => by_cases ht : device.type = .aonSwitch <;> simp [hd, ht]
    · intro id a ha
      simp only [aonSwitchPort, Option.bind_eq_bind, Option.bind_eq_some_iff,
        Option.ite_none_right_eq_some, Option.some.injEq] at ha
      obtain ⟨iface, hi, device, hd, ht, rfl⟩ := ha
      have hport := isPort_of_get hi hd
      rw [(Database.getDevice_eq_some.mp hd).2] at hport
      exact ⟨ht ▸ hport, (Database.getInterface_eq_some.mp hi).2⟩
  unfold physicalCpeKey
  split
  · next hcpe => simp [hcpe, htrace]
  · next hcpe => simp [hcpe]

end Unoc.Subscriber
