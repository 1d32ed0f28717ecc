import Unoc.Base.FirstGoal
import Unoc.PortSummary.Loaded
import Unoc.Status.Topology

/-!
# Chains to a PON port

The ONTs that a reload counts on PON ports, against the chains of links and passive devices between
ONTs and OLTs. The search of a reload starts at one interface of an ONT, takes links and crosses
devices of every type, and stops at the first interface with the role PON.
-/

namespace Unoc.PortSummary

open Unoc.Base Unoc.Model Unoc.Traffic
open Unoc.Status (passiveInline ontClass)

/-! ### Chains -/

/-- A link joins two interfaces. -/
def JoinedByLink (db : Database) (i j : Interface) : Prop :=
  i ∈ db.interfaces ∧ j ∈ db.interfaces ∧ ∃ l ∈ db.links,
    l.aInterfaceId = i.id ∧ l.bInterfaceId = j.id ∨ l.bInterfaceId = i.id ∧ l.aInterfaceId = j.id

/-- The interfaces at the far ends of chains that start at any interface of a device and cross
passive devices only. -/
inductive Chain (db : Database) (d : Device) : Interface → Prop where
  | link {i j : Interface} (hi : i.deviceId = d.id) (hij : JoinedByLink db i j) : Chain db d j
  | pass {p : Device} {j k m : Interface} (hj : Chain db d j) (hp : p ∈ db.devices)
      (hpj : p.id = j.deviceId) (hpassive : passiveInline p.type = true) (hk : k.deviceId = p.id)
      (hkm : JoinedByLink db k m) : Chain db d m

/-- A chain ends at a PON port of an OLT, the first one on it as passive devices are no OLTs. -/
structure ChainEnd (db : Database) (d : Device) (port : Interface) : Prop where
  chain : Chain db d port
  role : port.portRole = some .pon
  olt : ∃ olt ∈ db.devices, olt.id = port.deviceId ∧ olt.type = .olt

/-! ### Counted devices -/

/-- The port under which `computePONOccupancy` counts a device. -/
def countedAt (orders : Orders) (db : Database) (d : Device) : Option Interface :=
  if d.provisioned then
    ((loadedFrom orders db).opticalPaths.lookup d.id).bind
      (loadedFrom orders db).interfaces.lookup
  else none

/-- Each provisioned ONT or BUSINESS_ONT with a chain is counted once, at the end of a chain, and a
device without a chain is counted nowhere. -/
structure CountsChains (orders : Orders) (db : Database) : Prop where
  occupancy : ∀ port, ((loadedFrom orders db).ponOccupancy.lookup port).getD 0 =
    db.devices.countP (fun d ↦
      (countedAt orders db d).map (fun i ↦ (i.deviceId, i.id)) = some port)
  counted : ∀ d ∈ db.devices, d.provisioned = true → ontClass d.type = true →
    (∃ port, ChainEnd db d port) → ∃ port, ChainEnd db d port ∧ countedAt orders db d = some port
  nowhere : ∀ d ∈ db.devices, (¬ ∃ port, ChainEnd db d port) → countedAt orders db d = none

/-! ### Hops -/

/-- The links at an interface in the order of the `range` over all links; a link with both ends
there counts twice. -/
def visitedLinks (orders : Orders) (db : Database) (interfaceId : String) : List Link :=
  ((orders.links.keys (db.links.map Link.id).toFinset).filterMap db.getLink).flatMap (fun l ↦
    ([l.aInterfaceId, l.bInterfaceId].filter (· = interfaceId)).map (fun _ ↦ l))

/-- One hop: the far ends of the links at an interface, then the other interfaces of its device,
whatever the type of the device. -/
def hops (orders : Orders) (db : Database) (id : String) : List String :=
  match db.getInterface id with
  | none => []
  | some iface =>
    (((visitedLinks orders db id).map (Tables.peerInterfaceId id)).filter (· ≠ "")) ++
      ((visitedInterfaces orders db iface.deviceId).map Interface.id).filter (· ≠ id)

/-- The interface has the role PON, on a device of any type. -/
def hasPonRole (db : Database) (id : String) : Bool :=
  (db.getInterface id).any (fun i ↦ i.portRole = some .pon)

/-- The interface with the role PON that is the fewest hops away, the first one in the order of the
hops if there are several; an empty id means none. -/
structure NearestPon (orders : Orders) (db : Database) (start port : Interface) : Prop where
  mem : port ∈ db.interfaces
  named : port.id ≠ ""
  first : FirstGoal (hops orders db) (hasPonRole db) [start.id] port.id

/-- No BUSINESS_ONT with a chain; for an ONT, the nearest interface with the role PON is the end of
a chain, and there is one if there is a chain. -/
structure WellTraced (orders : Orders) (db : Database) (d : Device) : Prop where
  business : d.type = .businessOnt → ¬ ∃ port, ChainEnd db d port
  ont : d.type = .ont → ∀ start,
    Tables.opticalInterface (visitedInterfaces orders db d.id) = some start →
      (∀ port, NearestPon orders db start port → ChainEnd db d port) ∧
        ((∃ port, ChainEnd db d port) → ∃ port, NearestPon orders db start port)

variable (orders : Orders) (db : Database)

/-! ### Indexes -/

/-- The entries that a link adds to the index by interface. -/
private def linkEntries (l : Link) : List (String × Link) :=
  [(l.aInterfaceId, l), (l.bInterfaceId, l)]

/-- The index lists the links of an interface in the order of the `range`. -/
theorem linksOf_indexed (id : String) :
    (indexedFrom orders db).linksOf id = visitedLinks orders db id := by
  have hindex : (indexedFrom orders db).interfaceLinks =
      ((((indexedFrom orders db).links.range orders.links).map Prod.snd).flatMap linkEntries).foldl
        (Dict.collect (fun e ↦ some e.1) Prod.snd) ∅ := by
    rw [List.foldl_flatMap, List.foldl_map]
    rfl
  rw [Tables.linksOf, hindex, Dict.lookup_foldl_collect, range_indexed_links, visitedLinks,
    List.filter_flatMap, List.map_flatMap]
  refine List.flatMap_congr (fun l _ ↦ ?_)
  by_cases ha : l.aInterfaceId = id <;> by_cases hb : l.bInterfaceId = id <;>
    simp [linkEntries, ha, hb]

private theorem mem_visitedLinks {id : String} {l : Link} :
    l ∈ visitedLinks orders db id ↔ l ∈ db.links ∧ (l.aInterfaceId = id ∨ l.bInterfaceId = id) := by
  have hrows : l ∈ (orders.links.keys (db.links.map Link.id).toFinset).filterMap db.getLink ↔
      l ∈ db.links := by
    simp only [List.mem_filterMap, orders.links.mem_keys, Database.getLink_eq_some,
      List.mem_toFinset, List.mem_map]
    constructor
    · rintro ⟨_, _, hmem, _⟩
      exact hmem
    · intro hmem
      exact ⟨l.id, ⟨l, hmem, rfl⟩, hmem, rfl⟩
  rw [visitedLinks, List.mem_flatMap, ← hrows]
  constructor
  · rintro ⟨l', hl', hmem⟩
    obtain ⟨e, he, rfl⟩ := List.mem_map.mp hmem
    rw [List.mem_filter, List.mem_pair, decide_eq_true_eq] at he
    refine ⟨hl', ?_⟩
    rcases he with ⟨rfl | rfl, heq⟩
    · exact Or.inl heq
    · exact Or.inr heq
  · rintro ⟨hl, hend⟩
    refine ⟨l, hl, List.mem_map.mpr ?_⟩
    rcases hend with ha | hb
    · exact ⟨l.aInterfaceId, List.mem_filter.mpr ⟨by simp, by simpa using ha⟩, rfl⟩
    · exact ⟨l.bInterfaceId, List.mem_filter.mpr ⟨by simp, by simpa using hb⟩, rfl⟩

/-- What `traceToPON` pushes are the hops. -/
theorem pushed_indexed {iface : Interface} (hiface : iface ∈ db.interfaces) :
    (indexedFrom orders db).pushed iface = hops orders db iface.id := by
  have hget : db.getInterface iface.id = some iface :=
    Database.getInterface_eq_some.mpr ⟨hiface, rfl⟩
  have hsiblings : (indexedFrom orders db).interfacesOf iface.deviceId =
      visitedInterfaces orders db iface.deviceId := interfacesOf_loaded orders db iface.deviceId
  simp only [Tables.pushed, hops, hget, linksOf_indexed, hsiblings]

/-! ### The search -/

/-- Interfaces and link ends of the database. -/
def ends : Finset String :=
  (db.interfaces.map Interface.id ++ (db.links.map Link.aInterfaceId ++
    db.links.map Link.bInterfaceId)).toFinset

private theorem hops_mem_ends (id : String) : ∀ w ∈ hops orders db id, w ∈ ends db := by
  intro w hw
  unfold hops at hw
  rw [ends, List.mem_toFinset, List.mem_append, List.mem_append]
  split at hw
  · cases hw
  · rcases List.mem_append.mp hw with hw | hw
    · obtain ⟨hw, hne⟩ := List.mem_filter.mp hw
      obtain ⟨l, hl, rfl⟩ := List.mem_map.mp hw
      have hrow := ((mem_visitedLinks orders db).mp hl).1
      right
      rw [Tables.peerInterfaceId] at hne ⊢
      split at hne
      · next ha =>
        rw [if_pos ha]
        exact Or.inr (List.mem_map_of_mem hrow)
      · next ha =>
        split at hne
        · next hb =>
          rw [if_neg ha, if_pos hb]
          exact Or.inl (List.mem_map_of_mem hrow)
        · simp at hne
    · obtain ⟨i, hi, rfl⟩ := List.mem_map.mp (List.mem_filter.mp hw).1
      exact Or.inl (List.mem_map_of_mem
        (List.mem_filter.mp ((mem_visitedInterfaces orders db).mp hi)).1)

/-- The fuel of `traceToPON` bounds the interfaces and link ends. -/
theorem card_ends_lt : (ends db).card <
    (indexedFrom orders db).interfaces.keys.length + 2 * (indexedFrom orders db).links.keys.length +
      1 := by
  have hinterfaces : (indexedFrom orders db).interfaces.keys.length = db.interfaces.length :=
    length_keys_rows db.interfaces_nodup
  have hlinks : (indexedFrom orders db).links.keys.length = db.links.length :=
    length_keys_rows db.links_nodup
  have hcard : (ends db).card ≤ _ := List.toFinset_card_le _
  rw [List.length_append, List.length_append, List.length_map, List.length_map,
    List.length_map] at hcard
  omega

private theorem foldl_push (ws : List String) {st : Tables.TraceState} {marked : List String}
    (h : ∀ x, x ∈ st.visited ↔ x ∈ marked) :
    (ws.foldl Tables.push st).queue = (ws.foldl Frontier.enter (st.queue, marked)).1 ∧
      ∀ x, x ∈ (ws.foldl Tables.push st).visited ↔
        x ∈ (ws.foldl Frontier.enter (st.queue, marked)).2 := by
  induction ws generalizing st marked with
  | nil => exact ⟨rfl, h⟩
  | cons w ws ih =>
    rw [List.foldl_cons, List.foldl_cons, Tables.push, Frontier.enter]
    by_cases hw : w ∈ st.visited
    · rw [if_pos hw, if_pos ((h w).mp hw)]
      exact ih h
    · rw [if_neg hw, if_neg (fun hm ↦ hw ((h w).mpr hm))]
      apply ih
      intro x
      rw [List.mem_cons, List.mem_append, List.mem_singleton, h, or_comm]

/-- The loop of `traceToPON` is a queue search along the hops. -/
theorem traceLoop_eq_search (fuel : Nat) {st : Tables.TraceState} {marked : List String}
    (h : ∀ x, x ∈ st.visited ↔ x ∈ marked) :
    (indexedFrom orders db).traceLoop fuel st =
      Frontier.search (hops orders db) (hasPonRole db) fuel st.queue marked := by
  induction fuel generalizing st marked with
  | zero => rfl
  | succ fuel ih =>
    obtain ⟨queue, visited⟩ := st
    cases queue with
    | nil => rfl
    | cons id rest =>
      simp only [Tables.traceLoop, Frontier.search, lookup_indexed_interfaces]
      cases hget : db.getInterface id with
      | none =>
        have hgoal : hasPonRole db id = false := by rw [hasPonRole, hget]; rfl
        have hhops : hops orders db id = [] := by rw [hops, hget]
        rw [hgoal, hhops]
        exact ih h
      | some iface =>
        obtain ⟨hmem, rfl⟩ := Database.getInterface_eq_some.mp hget
        have hgoal : hasPonRole db iface.id = decide (iface.portRole = some .pon) := by
          rw [hasPonRole, hget]
          rfl
        rw [hgoal]
        by_cases hrole : iface.portRole = some .pon
        · simp only [hrole, decide_true, if_true]
        · simp only [hrole, decide_false, if_false, Bool.false_eq_true,
              pushed_indexed orders db hmem]
          have hpush : _ ∧ _ := foldl_push (hops orders db iface.id)
            (show ∀ x, x ∈ (⟨rest, visited⟩ : Tables.TraceState).visited ↔ x ∈ marked from h)
          rw [ih hpush.2, hpush.1]

/-- `traceToPON` finds the first interface with the role PON. -/
theorem traceToPON_eq_some_iff {start port : String} :
    (indexedFrom orders db).traceToPON start = some port ↔
      FirstGoal (hops orders db) (hasPonRole db) [start] port := by
  have hsame : ∀ x, x ∈ (⟨[start], [start]⟩ : Tables.TraceState).visited ↔ x ∈ [start] :=
    fun _ ↦ Iff.rfl
  rw [Tables.traceToPON, traceLoop_eq_search orders db _ hsame]
  apply Frontier.search_eq_some_iff (hops_mem_ends orders db) (List.nodup_singleton start)
  have hcard := card_ends_lt orders db
  rw [List.length_singleton]
  omega

/-! ### Counts -/

private theorem lookup_opticalPaths_of_mem {d : Device} (hd : d ∈ db.devices) :
    (loadedFrom orders db).opticalPaths.lookup d.id = (indexedFrom orders db).opticalPath d := by
  have hpath := lookup_opticalPaths orders db d.id
  rw [Database.getDevice_eq_some.mpr ⟨hd, rfl⟩] at hpath
  exact hpath

/-- A device is counted at a port if its path ends there. -/
theorem countedAt_eq_some_iff_path {d : Device} (hd : d ∈ db.devices) {port : Interface} :
    countedAt orders db d = some port ↔ d.provisioned = true ∧ port ∈ db.interfaces ∧
      (indexedFrom orders db).opticalPath d = some port.id := by
  have hlookup : (loadedFrom orders db).interfaces.lookup = db.getInterface :=
    funext (lookup_indexed_interfaces orders db)
  rw [countedAt, lookup_opticalPaths_of_mem orders db hd, hlookup]
  by_cases hprovisioned : d.provisioned = true
  · rw [if_pos hprovisioned, Option.bind_eq_some_iff]
    constructor
    · rintro ⟨id, hpath, hget⟩
      obtain ⟨hmem, rfl⟩ := Database.getInterface_eq_some.mp hget
      exact ⟨hprovisioned, hmem, hpath⟩
    · rintro ⟨_, hmem, hpath⟩
      exact ⟨port.id, hpath, Database.getInterface_eq_some.mpr ⟨hmem, rfl⟩⟩
  · rw [if_neg hprovisioned]
    constructor
    · intro h
      cases h
    · intro h
      exact absurd h.1 hprovisioned

/-- A provisioned ONT is counted at the nearest interface with the role PON. -/
theorem countedAt_eq_some_iff {d : Device} (hd : d ∈ db.devices) {port : Interface} :
    countedAt orders db d = some port ↔ d.provisioned = true ∧ d.type = .ont ∧ ∃ start,
      Tables.opticalInterface (visitedInterfaces orders db d.id) = some start ∧
        NearestPon orders db start port := by
  have hifaces : (indexedFrom orders db).interfacesOf d.id = visitedInterfaces orders db d.id :=
    interfacesOf_loaded orders db d.id
  rw [countedAt_eq_some_iff_path orders db hd, Tables.opticalPath, hifaces]
  refine and_congr_right (fun _ ↦ ?_)
  by_cases htype : d.type = .ont
  · rw [if_neg (not_not.mpr htype), Option.filter_eq_some_iff, Option.bind_eq_some_iff]
    constructor
    · rintro ⟨hmem, ⟨start, hstart, htrace⟩, hnamed⟩
      exact ⟨htype, start, hstart, hmem, by simpa using hnamed,
        (traceToPON_eq_some_iff orders db).mp htrace⟩
    · rintro ⟨_, start, hstart, hmem, hnamed, hfirst⟩
      exact ⟨hmem, ⟨start, hstart, (traceToPON_eq_some_iff orders db).mpr hfirst⟩,
        by simpa using hnamed⟩
  · rw [if_pos htype]
    simp [htype]

/-- Each port's occupancy is the number of devices that are counted at it. -/
theorem ponOccupancy_eq_countP (port : String × String) :
    ((loadedFrom orders db).ponOccupancy.lookup port).getD 0 = db.devices.countP (fun d ↦
      (countedAt orders db d).map (fun i ↦ (i.deviceId, i.id)) = some port) := by
  by_cases hport : ∃ iface ∈ db.interfaces, (iface.deviceId, iface.id) = port
  · obtain ⟨iface, hiface, rfl⟩ := hport
    rw [lookup_ponOccupancy orders db hiface, countedOnts]
    refine List.countP_congr (fun d hd ↦ ?_)
    rw [decide_eq_true_eq, decide_eq_true_eq, Option.map_eq_some_iff]
    constructor
    · rintro ⟨hprovisioned, hpath⟩
      exact ⟨iface, (countedAt_eq_some_iff_path orders db hd).mpr
          ⟨hprovisioned, hiface, hpath⟩, rfl⟩
    · rintro ⟨i, hi, heq⟩
      obtain ⟨hprovisioned, _, hpath⟩ := (countedAt_eq_some_iff_path orders db hd).mp hi
      have hid : i.id = iface.id := congrArg Prod.snd heq
      rw [hid] at hpath
      exact ⟨hprovisioned, hpath⟩
  · have hnone : ∀ iface ∈ db.interfaces, (iface.deviceId, iface.id) ≠ port :=
      fun iface hiface heq ↦ hport ⟨iface, hiface, heq⟩
    rw [ponOccupancy_of_no_port orders db hnone, eq_comm, List.countP_eq_zero]
    intro d hd
    rw [decide_eq_true_eq, Option.map_eq_some_iff]
    rintro ⟨i, hi, heq⟩
    exact hnone i ((countedAt_eq_some_iff_path orders db hd).mp hi).2.1 heq

private theorem Chain.exists_interface {d : Device} {j : Interface} (h : Chain db d j) :
    ∃ i ∈ db.interfaces, i.deviceId = d.id := by
  induction h with
  | link hi hij => exact ⟨_, hij.1, hi⟩
  | pass _ _ _ _ _ _ ih => exact ih

/-- A device with a chain has an optical interface. -/
theorem exists_opticalInterface {d : Device} {port : Interface} (h : ChainEnd db d port) :
    ∃ start, Tables.opticalInterface (visitedInterfaces orders db d.id) = some start := by
  obtain ⟨i, hi, hdevice⟩ := h.chain.exists_interface
  have hmem : i ∈ visitedInterfaces orders db d.id :=
    (mem_visitedInterfaces orders db).mpr (List.mem_filter.mpr ⟨hi, by simpa using hdevice⟩)
  rw [Tables.opticalInterface, ← Option.isSome_iff_exists, Option.isSome_or, Bool.or_eq_true]
  right
  cases hifaces : visitedInterfaces orders db d.id with
  | nil =>
    rw [hifaces] at hmem
    cases hmem
  | cons => rfl

/-! ### Chains along the hops -/

/-- The hops reach the other interfaces of a device. -/
theorem reached_sibling {i k : Interface} (hi : i ∈ db.interfaces) (hk : k ∈ db.interfaces)
    (hdevice : k.deviceId = i.deviceId) :
    Relation.ReflTransGen (fun u w ↦ w ∈ hops orders db u) i.id k.id := by
  by_cases hid : k.id = i.id
  · rw [hid]
  · have hget : db.getInterface i.id = some i := Database.getInterface_eq_some.mpr ⟨hi, rfl⟩
    apply Relation.ReflTransGen.single
    rw [hops, hget]
    refine List.mem_append_right _
        (List.mem_filter.mpr ⟨List.mem_map_of_mem ?_, by simpa using hid⟩)
    exact (mem_visitedInterfaces orders db).mpr (List.mem_filter.mpr ⟨hk, by simpa using hdevice⟩)

/-- A hop leads over a link, unless the far id is empty. -/
theorem mem_hops_of_joined {i j : Interface} (h : JoinedByLink db i j) (hnamed : j.id ≠ "") :
    j.id ∈ hops orders db i.id := by
  obtain ⟨hi, _, l, hl, hends⟩ := h
  have hget : db.getInterface i.id = some i := Database.getInterface_eq_some.mpr ⟨hi, rfl⟩
  have hpeer : Tables.peerInterfaceId i.id l = j.id := by
    unfold Tables.peerInterfaceId
    rcases hends with ⟨ha, hb⟩ | ⟨hb, ha⟩
    · rw [if_pos ha, hb]
    · by_cases hself : l.aInterfaceId = i.id
      · rw [if_pos hself, hb, ← hself, ha]
      · rw [if_neg hself, if_pos hb, ha]
  have hvisited : l ∈ visitedLinks orders db i.id :=
    (mem_visitedLinks orders db).mpr ⟨hl, hends.imp And.left And.left⟩
  rw [hops, hget]
  refine List.mem_append_left _ (List.mem_filter.mpr ⟨?_, by simpa using hnamed⟩)
  rw [← hpeer]
  exact List.mem_map_of_mem hvisited

/-- The hops from any interface of a device reach what its chains reach. -/
theorem reached_of_chain (hnamed : ∀ i ∈ db.interfaces, i.id ≠ "") {d : Device} {start : Interface}
    (hstart : start ∈ db.interfaces) (hdevice : start.deviceId = d.id) {j : Interface}
    (h : Chain db d j) :
    j ∈ db.interfaces ∧ Relation.ReflTransGen (fun u w ↦ w ∈ hops orders db u) start.id j.id := by
  induction h with
  | link hi hij =>
    have hsibling := reached_sibling orders db hstart hij.1 (hi.trans hdevice.symm)
    exact ⟨hij.2.1, hsibling.tail (mem_hops_of_joined orders db hij (hnamed _ hij.2.1))⟩
  | pass _ _ hpj _ hk hkm ih =>
    have hsibling := reached_sibling orders db ih.1 hkm.1 (hk.trans hpj)
    exact ⟨hkm.2.1, (ih.2.trans hsibling).tail
      (mem_hops_of_joined orders db hkm (hnamed _ hkm.2.1))⟩

/-- Where every interface has an id, a chain gives a nearest interface with the role PON. -/
theorem exists_nearestPon (hnamed : ∀ i ∈ db.interfaces, i.id ≠ "") {d : Device}
    {start port : Interface}
    (hstart : Tables.opticalInterface (visitedInterfaces orders db d.id) = some start)
    (h : ChainEnd db d port) : ∃ port', NearestPon orders db start port' := by
  have hmem : start ∈ visitedInterfaces orders db d.id := by
    rcases Option.or_eq_some_iff.mp hstart with hfind | ⟨_, hhead⟩
    · exact List.mem_of_find?_eq_some hfind
    · exact List.mem_of_head? hhead
  obtain ⟨hrow, hdevice⟩ := List.mem_filter.mp ((mem_visitedInterfaces orders db).mp hmem)
  obtain ⟨hport, hreached⟩ :=
    reached_of_chain orders db hnamed hrow (by simpa using hdevice) h.chain
  have hgoal : hasPonRole db port.id = true := by
    rw [hasPonRole, Database.getInterface_eq_some.mpr ⟨hport, rfl⟩]
    simpa using h.role
  obtain ⟨id, hid⟩ := exists_firstGoal hgoal (Reached.singleton_iff.mpr hreached)
  obtain ⟨port', hget, _⟩ := (Option.any_eq_true _ _).mp hid.goal_eq
  obtain ⟨hport', rfl⟩ := Database.getInterface_eq_some.mp hget
  exact ⟨port', hport', hnamed port' hport', hid⟩

/-- Where every interface has an id, a device is traced well if it is no BUSINESS_ONT with a chain,
or an ONT whose nearest interface with the role PON, if there is one, is the end of a chain. -/
theorem wellTraced_iff_of_named (hnamed : ∀ i ∈ db.interfaces, i.id ≠ "") (d : Device) :
    WellTraced orders db d ↔ (d.type = .businessOnt → ¬ ∃ port, ChainEnd db d port) ∧
      (d.type = .ont → ∀ start port,
        Tables.opticalInterface (visitedInterfaces orders db d.id) = some start →
          NearestPon orders db start port → ChainEnd db d port) := by
  constructor
  · intro h
    exact ⟨h.business, fun htype start port hstart ↦ (h.ont htype start hstart).1 port⟩
  · rintro ⟨hbusiness, hont⟩
    refine ⟨hbusiness, fun htype start hstart ↦ ⟨fun port ↦ hont htype start port hstart, ?_⟩⟩
    rintro ⟨port, hport⟩
    exact exists_nearestPon orders db hnamed hstart hport

/-! ### Loads -/

/-- A load counts the chains exactly if every provisioned device is traced well. -/
theorem loaded_countsChains_iff :
    CountsChains orders db ↔ ∀ d ∈ db.devices, d.provisioned = true → WellTraced orders db d := by
  constructor
  · intro h d hd hprovisioned
    refine ⟨fun htype hchain ↦ ?_, fun htype start hstart ↦ ⟨fun port hport ↦ ?_, fun hchain ↦ ?_⟩⟩
    · obtain ⟨port, _, hcounted⟩ := h.counted d hd hprovisioned (by rw [htype]; rfl) hchain
      have hont := ((countedAt_eq_some_iff orders db hd).mp hcounted).2.1
      rw [htype] at hont
      cases hont
    · have hcounted : countedAt orders db d = some port :=
        (countedAt_eq_some_iff orders db hd).mpr ⟨hprovisioned, htype, start, hstart, hport⟩
      by_cases hchain : ∃ port, ChainEnd db d port
      · obtain ⟨port', hend, hcounted'⟩ := h.counted d hd hprovisioned (by rw [htype]; rfl) hchain
        rw [hcounted] at hcounted'
        rwa [Option.some.inj hcounted']
      · rw [h.nowhere d hd hchain] at hcounted
        cases hcounted
    · obtain ⟨port, _, hcounted⟩ := h.counted d hd hprovisioned (by rw [htype]; rfl) hchain
      obtain ⟨_, _, start', hstart', hport⟩ := (countedAt_eq_some_iff orders db hd).mp hcounted
      rw [hstart] at hstart'
      rw [Option.some.inj hstart']
      exact ⟨port, hport⟩
  · intro h
    refine ⟨ponOccupancy_eq_countP orders db, fun d hd hprovisioned hclass hchain ↦ ?_,
      fun d hd hchain ↦ ?_⟩
    · obtain ⟨port, hend⟩ := hchain
      have htype : d.type = .ont := by
        cases htype : d.type with
        | ont => rfl
        | businessOnt => exact absurd ⟨port, hend⟩ ((h d hd hprovisioned).business htype)
        | _ => rw [htype] at hclass; cases hclass
      obtain ⟨start, hstart⟩ := exists_opticalInterface orders db hend
      obtain ⟨hright, hfound⟩ := (h d hd hprovisioned).ont htype start hstart
      obtain ⟨port', hport'⟩ := hfound ⟨port, hend⟩
      exact ⟨port', hright port' hport', (countedAt_eq_some_iff orders db hd).mpr
        ⟨hprovisioned, htype, start, hstart, hport'⟩⟩
    · rw [Option.eq_none_iff_forall_ne_some]
      intro port hcounted
      obtain ⟨hprovisioned, htype, start, hstart, hport⟩ :=
        (countedAt_eq_some_iff orders db hd).mp hcounted
      exact hchain ⟨port, ((h d hd hprovisioned).ont htype start hstart).1 port hport⟩

/-- A BUSINESS_ONT behind an ODF at the PON port of an OLT, and an ONT behind an ODF at an OLT without
PON ports. A router joins the two OLTs. -/
def routedOnt : Database where
  devices := [{ id := "olt", type := .olt }, { id := "plain", type := .olt },
    { id := "router", type := .edgeRouter }, { id := "odf1", type := .odf },
    { id := "odf2", type := .odf }, { id := "business", type := .businessOnt, provisioned := true },
    { id := "ont", type := .ont, provisioned := true }]
  interfaces := [{ id := "olt-pon", deviceId := "olt", name := "pon0", portRole := some .pon },
    { id := "olt-up", deviceId := "olt", name := "up0", portRole := some .uplink },
    { id := "plain-0", deviceId := "plain", name := "eth0" },
    { id := "plain-1", deviceId := "plain", name := "eth1" },
    { id := "router-0", deviceId := "router", name := "eth0" },
    { id := "router-1", deviceId := "router", name := "eth1" },
    { id := "odf1-0", deviceId := "odf1", name := "p0" },
    { id := "odf1-1", deviceId := "odf1", name := "p1" },
    { id := "odf2-0", deviceId := "odf2", name := "p0" },
    { id := "odf2-1", deviceId := "odf2", name := "p1" },
    { id := "business-0", deviceId := "business", name := "eth0" },
    { id := "ont-0", deviceId := "ont", name := "eth0" }]
  links := [{ id := "l1", aInterfaceId := "odf1-0", bInterfaceId := "olt-pon" },
    { id := "l2", aInterfaceId := "business-0", bInterfaceId := "odf1-1" },
    { id := "l3", aInterfaceId := "odf2-0", bInterfaceId := "plain-0" },
    { id := "l4", aInterfaceId := "ont-0", bInterfaceId := "odf2-1" },
    { id := "l5", aInterfaceId := "plain-1", bInterfaceId := "router-0" },
    { id := "l6", aInterfaceId := "olt-up", bInterfaceId := "router-1" }]

/-- The BUSINESS_ONT is not counted. -/
theorem routedOnt_miscounted : ¬ CountsChains ascendingOrders routedOnt := by
  intro h
  let business : Device := { id := "business", type := .businessOnt, provisioned := true }
  let pon : Interface := { id := "olt-pon", deviceId := "olt", name := "pon0", portRole := some .pon }
  have hdrop : JoinedByLink routedOnt { id := "business-0", deviceId := "business", name := "eth0" }
      { id := "odf1-1", deviceId := "odf1", name := "p1" } :=
    ⟨by decide, by decide, _, List.mem_cons_of_mem _ List.mem_cons_self, Or.inl ⟨rfl, rfl⟩⟩
  have hfeeder : JoinedByLink routedOnt { id := "odf1-0", deviceId := "odf1", name := "p0" } pon :=
    ⟨by decide, by decide, _, List.mem_cons_self, Or.inl ⟨rfl, rfl⟩⟩
  have hodf : ({ id := "odf1", type := .odf } : Device) ∈ routedOnt.devices := by decide
  have hchain : Chain routedOnt business pon := .pass (.link rfl hdrop) hodf rfl rfl rfl hfeeder
  have hend : ChainEnd routedOnt business pon := ⟨hchain, rfl, _, List.mem_cons_self, rfl, rfl⟩
  obtain ⟨port, _, hcounted⟩ := h.counted business (by decide) rfl rfl ⟨_, hend⟩
  rw [countedAt_eq_some_iff ascendingOrders routedOnt (by decide)] at hcounted
  cases hcounted.2.1

-- The ONT has no chain, but its OLT and the router are crossed.
example : (routedOnt.devices.map
    (fun d ↦ (countedAt ascendingOrders routedOnt d).map Interface.id)) =
    [none, none, none, none, none, none, some "olt-pon"] := by decide +kernel

end Unoc.PortSummary
