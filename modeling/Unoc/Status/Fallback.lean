import Unoc.Base.Worklist
import Unoc.Status.CausalPaths

/-!
# The fallback against the engine

Both searches as closures of one step relation each: the fallback leaves devices that propagate over
passable links, the engine enters devices that it accepts over viable links and containment. They
find the same devices exactly if neither leaves what the steps that both take reach.
-/

namespace Unoc.Status

open Unoc.Base Unoc.Model

/-! ### Steps -/

/-- A link joins two devices by its interface rows, in either direction. -/
def LinkJoins (db : Database) (link : Link) (u v : String) : Prop :=
  ∃ ia ib, db.getInterface link.aInterfaceId = some ia ∧
    db.getInterface link.bInterfaceId = some ib ∧
    ((ia.deviceId = u ∧ ib.deviceId = v) ∨ (ib.deviceId = u ∧ ia.deviceId = v))

/-- Device rows with ids, joined by a passable link. -/
def PassableEdge (db : Database) (u v : String) : Prop :=
  ((db.getDevice u).isSome ∧ u ≠ "") ∧ ((db.getDevice v).isSome ∧ v ≠ "") ∧
    ∃ link ∈ db.links, isLinkPassable (topology db) link = true ∧ LinkJoins db link u v

/-- The fallback goes on from a device. -/
def Propagates (db : Database) (u : String) : Prop :=
  ∃ d, db.getDevice u = some d ∧ isDeviceUpCandidatePython d = true

/-- A step of the fallback. -/
def FallbackStep (db : Database) (u v : String) : Prop := Propagates db u ∧ PassableEdge db u v

variable {db : Database}

/-! ### The graph of the fallback -/

/-- The interface rows in the order in which the map receives them. -/
def ownedInterfaces (db : Database) : List Interface :=
  db.devices.flatMap (fun d ↦ db.interfaces.filter (fun i ↦ i.deviceId = d.id))

private theorem mem_ownedInterfaces {i : Interface} :
    i ∈ ownedInterfaces db ↔ i ∈ db.interfaces ∧ (db.getDevice i.deviceId).isSome := by
  simp only [ownedInterfaces, List.mem_flatMap, List.mem_filter, decide_eq_true_eq,
    Option.isSome_iff_exists, Database.getDevice_eq_some]
  constructor
  · rintro ⟨d, hd, hi, hid⟩
    exact ⟨hi, d, hd, hid.symm⟩
  · rintro ⟨hi, d, hd, hid⟩
    exact ⟨d, hd, hi, hid.symm⟩

private theorem interfaceToDevice_eq (db : Database) :
    interfaceToDevice db =
      (ownedInterfaces db).foldl (fun m i ↦ m.insert i.id i.deviceId) ∅ := by
  unfold interfaceToDevice ownedInterfaces
  rw [List.foldl_flatMap]
  congr 1
  funext m d
  apply List.foldl_ext
  intro m i hi
  rw [of_decide_eq_true (List.mem_filter.mp hi).2]

/-- The interface map holds the interfaces of the device rows. -/
theorem lookup_interfaceToDevice {interfaceId id : String} :
    (interfaceToDevice db).lookup interfaceId = some id ↔
      ∃ i, db.getInterface interfaceId = some i ∧ i.deviceId = id ∧ (db.getDevice id).isSome := by
  rw [interfaceToDevice_eq, Dict.lookup_foldl_insert, AList.lookup_empty, Option.or_none,
    Option.map_eq_some_iff]
  constructor
  · rintro ⟨i, hi, rfl⟩
    have hkey : i.id = interfaceId := by simpa using List.find?_some hi
    obtain ⟨hmem, hdev⟩ :=
      mem_ownedInterfaces.mp (List.mem_reverse.mp (List.mem_of_find?_eq_some hi))
    exact ⟨i, Database.getInterface_eq_some.mpr ⟨hmem, hkey⟩, rfl, hdev⟩
  · rintro ⟨i, hi, rfl, hdev⟩
    obtain ⟨hmem, rfl⟩ := Database.getInterface_eq_some.mp hi
    have howned : i ∈ (ownedInterfaces db).reverse :=
      List.mem_reverse.mpr (mem_ownedInterfaces.mpr ⟨hmem, hdev⟩)
    cases hf : (ownedInterfaces db).reverse.find? (fun x ↦ decide (x.id = i.id)) with
    | none => simpa using List.find?_eq_none.mp hf i howned
    | some j =>
      have hkey : j.id = i.id := by simpa using List.find?_some hf
      have hj := (mem_ownedInterfaces.mp (List.mem_reverse.mp (List.mem_of_find?_eq_some hf))).1
      rw [List.inj_on_of_nodup_map db.interfaces_nodup hj hmem hkey]
      exact ⟨i, rfl, rfl⟩

/-- The devices that the fallback takes for the ends of a link. -/
def dependencyEnds (db : Database) (link : Link) : Option (String × String) :=
  if isLinkPassable (topology db) link then do
    let a ← truthy ((interfaceToDevice db).lookup link.aInterfaceId)
    let b ← truthy ((interfaceToDevice db).lookup link.bInterfaceId)
    return (a, b)
  else none

/-- The ends of a link are device rows with ids. -/
theorem dependencyEnds_eq_some {link : Link} {a b : String} :
    dependencyEnds db link = some (a, b) ↔
      isLinkPassable (topology db) link = true ∧ ((db.getDevice a).isSome ∧ a ≠ "") ∧
        ((db.getDevice b).isSome ∧ b ≠ "") ∧
        ∃ ia ib, db.getInterface link.aInterfaceId = some ia ∧
          db.getInterface link.bInterfaceId = some ib ∧ ia.deviceId = a ∧ ib.deviceId = b := by
  have htruthy : ∀ {interfaceId id : String},
      truthy ((interfaceToDevice db).lookup interfaceId) = some id ↔
        ((db.getDevice id).isSome ∧ id ≠ "") ∧
          ∃ i, db.getInterface interfaceId = some i ∧ i.deviceId = id := by
    intro interfaceId id
    rw [truthy, Option.filter_eq_some_iff, lookup_interfaceToDevice]
    constructor
    · rintro ⟨⟨i, hi, hid, hdev⟩, hne⟩
      exact ⟨⟨hdev, by simpa using hne⟩, i, hi, hid⟩
    · rintro ⟨⟨hdev, hne⟩, i, hi, hid⟩
      exact ⟨⟨i, hi, hid, hdev⟩, by simpa using hne⟩
  unfold dependencyEnds
  split
  · next hpass =>
    simp only [Option.bind_eq_bind, Option.bind_eq_some_iff, Option.pure_def, Option.some.injEq,
      Prod.mk.injEq, htruthy, hpass, true_and]
    constructor
    · rintro ⟨x, ⟨hx, ia, hia, hiax⟩, y, ⟨hy, ib, hib, hiby⟩, rfl, rfl⟩
      exact ⟨hx, hy, ia, ib, hia, hib, hiax, hiby⟩
    · rintro ⟨hx, hy, ia, ib, hia, hib, hiax, hiby⟩
      exact ⟨a, ⟨hx, ia, hia, hiax⟩, b, ⟨hy, ib, hib, hiby⟩, rfl, rfl⟩
  · next hpass => simp [hpass]

private theorem addDependency_of_none {link : Link} (h : dependencyEnds db link = none)
    (graph : Dict String (List String)) : addDependency db graph link = graph := by
  unfold dependencyEnds at h
  unfold addDependency
  split
  · next hpass =>
    rw [if_pos hpass] at h
    cases ha : truthy ((interfaceToDevice db).lookup link.aInterfaceId) with
    | none => rfl
    | some a =>
      cases hb : truthy ((interfaceToDevice db).lookup link.bInterfaceId) with
      | none => rfl
      | some b => simp [ha, hb] at h
  · rfl

private theorem addDependency_of_some {link : Link} {a b : String}
    (h : dependencyEnds db link = some (a, b)) (graph : Dict String (List String)) :
    addDependency db graph link =
      (graph.update a [] (fun ids ↦ ids ++ [b])).update b [] (fun ids ↦ ids ++ [a]) := by
  unfold dependencyEnds at h
  split at h
  · next hpass =>
    obtain ⟨x, hx, h⟩ := Option.bind_eq_some_iff.mp h
    obtain ⟨y, hy, h⟩ := Option.bind_eq_some_iff.mp h
    cases h
    unfold addDependency
    rw [if_pos hpass, hx, hy]
  · cases h

/-- `graph[a].append(b)` adds one neighbour. -/
theorem mem_update_append {graph : Dict String (List String)} {a b u v : String} :
    v ∈ ((graph.update a [] (fun ids ↦ ids ++ [b])).lookup u).getD [] ↔
      v ∈ (graph.lookup u).getD [] ∨ (a = u ∧ b = v) := by
  by_cases h : u = a
  · subst h
    rw [Dict.lookup_update_self]
    simp [eq_comm]
  · rw [Dict.lookup_update_of_ne _ _ _ h]
    simp [Ne.symm h]

/-- The neighbours after the link loop are the other ends of the links. -/
theorem mem_foldl_addDependency (links : List Link) (graph : Dict String (List String))
    (u v : String) :
    v ∈ ((links.foldl (addDependency db) graph).lookup u).getD [] ↔
      v ∈ (graph.lookup u).getD [] ∨
        ∃ link ∈ links, ∃ a b, dependencyEnds db link = some (a, b) ∧
          ((a = u ∧ b = v) ∨ (b = u ∧ a = v)) := by
  induction links generalizing graph with
  | nil => simp
  | cons link links ih =>
    rw [List.foldl_cons, ih, List.exists_mem_cons_iff]
    cases he : dependencyEnds db link with
    | none =>
      rw [addDependency_of_none he]
      simp
    | some e =>
      obtain ⟨a, b⟩ := e
      rw [addDependency_of_some he, mem_update_append, mem_update_append]
      grind

/-- A device's list in the graph holds what passable links join it to. -/
theorem mem_dependencyGraphPython {u v : String} :
    v ∈ ((buildDependencyGraphPython db).lookup u).getD [] ↔ PassableEdge db u v := by
  rw [buildDependencyGraphPython, mem_foldl_addDependency]
  simp only [AList.lookup_empty, Option.getD_none, List.not_mem_nil, false_or]
  constructor
  · rintro ⟨link, hl, a, b, hends, hjoin⟩
    obtain ⟨hpass, ha, hb, ia, ib, hia, hib, hda, hdb⟩ := dependencyEnds_eq_some.mp hends
    rcases hjoin with ⟨rfl, rfl⟩ | ⟨rfl, rfl⟩
    · exact ⟨ha, hb, link, hl, hpass, ia, ib, hia, hib, Or.inl ⟨hda, hdb⟩⟩
    · exact ⟨hb, ha, link, hl, hpass, ia, ib, hia, hib, Or.inr ⟨hdb, hda⟩⟩
  · rintro ⟨hu, hv, link, hl, hpass, ia, ib, hia, hib, ⟨hda, hdb⟩ | ⟨hdb, hda⟩⟩
    · exact ⟨link, hl, u, v, dependencyEnds_eq_some.mpr ⟨hpass, hu, hv, ia, ib, hia, hib, hda, hdb⟩,
        Or.inl ⟨rfl, rfl⟩⟩
    · exact ⟨link, hl, v, u, dependencyEnds_eq_some.mpr ⟨hpass, hv, hu, ia, ib, hia, hib, hda, hdb⟩,
        Or.inr ⟨rfl, rfl⟩⟩

private theorem mem_downstreamPython {u v : String} :
    v ∈ downstreamPython db u ↔ FallbackStep db u v := by
  unfold downstreamPython FallbackStep Propagates
  cases hd : db.getDevice u with
  | none => simp
  | some d =>
    dsimp only
    split
    · next hcand => simp [mem_dependencyGraphPython, hcand]
    · next hcand => simp [hcand]

/-! ### The search of the fallback -/

/-- The visited ids, whatever the recorded paths. -/
theorem affectedDevices_causalLoop (downstream : String → List String) (fuel : Nat)
    (queue visited : List String) (paths : Dict String (List String)) :
    (causalLoop downstream fuel queue visited paths).affectedDevices =
      Worklist.loop downstream (fun queue id ↦ queue ++ [id]) fuel queue visited := by
  induction fuel generalizing queue visited paths with
  | zero => rfl
  | succ fuel ih =>
    cases queue with
    | nil => rfl
    | cons id queue =>
      rw [causalLoop, Worklist.loop]
      split
      · exact ih _ _ _
      · rw [ih, List.foldl_append_eq_append (f := fun id ↦ [id]), ← List.flatMap_def,
          List.flatMap_singleton']

/-- The fallback finds what its steps reach. -/
theorem mem_detectCausalChainPython {changed : List String} {id : String} :
    id ∈ (detectCausalChainPython db changed).affectedDevices ↔
      Reached (FallbackStep db) changed id := by
  have hpush : ∀ (queue : List String) (x : String), (queue ++ [x]).Perm (x :: queue) :=
    fun queue x ↦ List.perm_append_comm
  have hout : ∀ x, x ∉ (buildDependencyGraphPython db).keys → downstreamPython db x = [] := by
    intro x hx
    apply List.eq_nil_iff_forall_not_mem.mpr
    intro y hy
    have hmem := mem_dependencyGraphPython.mpr (mem_downstreamPython.mp hy).2
    rw [AList.lookup_eq_none.mpr (fun h ↦ hx (AList.mem_keys.mp h))] at hmem
    cases hmem
  rw [detectCausalChainPython, affectedDevices_causalLoop,
    Worklist.mem_loop_iff hpush (AList.keys_nodup _) hout (Nat.le_refl _)]
  simp only [mem_downstreamPython]
  rfl

namespace Engine

open Unoc.Traffic (GoMap RangeOrder)

/-! ### The graph of the engine -/

/-- A device row has another as its container. -/
def Contains (db : Database) (parent child : String) : Prop :=
  ∃ d ∈ db.devices, truthy d.parentContainerId = some parent ∧ d.id = child

/-- Devices joined by a viable link or by containment. -/
def Edge (db : Database) (u v : String) : Prop :=
  (∃ link ∈ db.links, physicallyViable link = true ∧ LinkJoins db link u v) ∨
    Contains db u v ∨ Contains db v u

/-- The engine enters a device. -/
def Accepts (db : Database) (v : String) : Prop :=
  ∃ d, db.getDevice v = some d ∧ d.adminOverrideStatus ≠ some .down ∧
    (deriveDeviceRole d.type = .active → d.provisioned = true)

/-- A step of the engine. -/
def Step (db : Database) (u v : String) : Prop := Edge db u v ∧ Accepts db v

namespace DependencyGraph

variable {g : DependencyGraph}

private theorem mem_downstream_addEdge {a b u v : String} :
    v ∈ (g.addEdge a b).downstream u ↔ v ∈ g.downstream u ∨ (a = u ∧ b = v) := by
  unfold addEdge downstream
  by_cases h : u = a
  · subst h
    simp [eq_comm, or_comm]
  · simp [AList.lookup_insert_ne h, Ne.symm h]

private theorem downstream_addDevice (dev : DeviceRecord) (u : String) :
    (g.addDevice dev).downstream u = g.downstream u := by
  unfold addDevice downstream
  by_cases h : u = dev.id
  · subst h
    simp
  · simp [AList.lookup_insert_ne h]

/-- A loop whose iterations add edges adds those of all its elements. -/
theorem mem_downstream_foldl {α : Type} {f : DependencyGraph → α → DependencyGraph}
    {edge : α → String → String → Prop}
    (hf : ∀ g x u v, v ∈ (f g x).downstream u ↔ v ∈ g.downstream u ∨ edge x u v) (xs : List α)
    (g : DependencyGraph) (u v : String) :
    v ∈ (xs.foldl f g).downstream u ↔ v ∈ g.downstream u ∨ ∃ x ∈ xs, edge x u v := by
  induction xs generalizing g with
  | nil => simp
  | cons x xs ih =>
    rw [List.foldl_cons, ih, hf, List.exists_mem_cons_iff, or_assoc]

private theorem devices_foldl {α : Type} {f : DependencyGraph → α → DependencyGraph}
    (hf : ∀ g x, (f g x).devices = g.devices) (xs : List α) (g : DependencyGraph) :
    (xs.foldl f g).devices = g.devices := by
  induction xs generalizing g with
  | nil => rfl
  | cons x xs ih => rw [List.foldl_cons, ih, hf]

private theorem devices_addLink (g : DependencyGraph) (l : LinkRecord) :
    (g.addLink l).devices = g.devices := rfl

private theorem devices_foldl_addDevice (ds : List DeviceRecord) (g : DependencyGraph) :
    (ds.foldl addDevice g).devices = ds.foldl (fun m d ↦ m.insert d.id d) g.devices := by
  induction ds generalizing g with
  | nil => rfl
  | cons d ds ih => rw [List.foldl_cons, ih]; rfl

private theorem downstream_foldl_addDevice (ds : List DeviceRecord) (g : DependencyGraph)
    (u : String) :
    (ds.foldl addDevice g).downstream u = g.downstream u := by
  induction ds generalizing g with
  | nil => rfl
  | cons d ds ih => rw [List.foldl_cons, ih, downstream_addDevice]

private theorem mem_downstream_addLink (g : DependencyGraph) (l : LinkRecord) (u v : String) :
    v ∈ (g.addLink l).downstream u ↔
      v ∈ g.downstream u ∨ (l.aDeviceId = u ∧ l.bDeviceId = v) ∨
        (l.bDeviceId = u ∧ l.aDeviceId = v) := by
  rw [addLink, mem_downstream_addEdge, mem_downstream_addEdge, or_assoc]

end DependencyGraph

private theorem mem_downstream_addContainer (g : DependencyGraph) (dev : DeviceRecord)
    (u v : String) :
    v ∈ (addContainer g dev).downstream u ↔
      v ∈ g.downstream u ∨ ∃ parent, truthy dev.parentContainerId = some parent ∧
        ((parent = u ∧ dev.id = v) ∨ (dev.id = u ∧ parent = v)) := by
  unfold addContainer
  cases truthy dev.parentContainerId with
  | none => simp
  | some parent =>
    simp only [DependencyGraph.addContainmentEdge, DependencyGraph.mem_downstream_addEdge,
      Option.some.injEq, exists_eq_left', or_assoc]

private theorem devices_addContainer (g : DependencyGraph) (dev : DeviceRecord) :
    (addContainer g dev).devices = g.devices := by
  unfold addContainer
  cases truthy dev.parentContainerId <;> rfl

private theorem linkRecord_eq_some {link : Link} {r : LinkRecord}
    (h : linkRecord db link = some r) :
    r.physicallyViable = physicallyViable link ∧
      ∃ ia ib, db.getInterface link.aInterfaceId = some ia ∧
        db.getInterface link.bInterfaceId = some ib ∧
        r.aDeviceId = ia.deviceId ∧ r.bDeviceId = ib.deviceId := by
  unfold linkRecord at h
  split at h
  · cases h
  · obtain ⟨ia, hia, h⟩ := Option.bind_eq_some_iff.mp h
    obtain ⟨ib, hib, h⟩ := Option.bind_eq_some_iff.mp h
    cases h
    exact ⟨rfl, ia, ib, hia, hib, rfl, rfl⟩

private theorem exists_linkRecord {link : Link} (hviable : physicallyViable link = true)
    {ia ib : Interface}
    (hia : db.getInterface link.aInterfaceId = some ia)
    (hib : db.getInterface link.bInterfaceId = some ib) :
    ∃ r, linkRecord db link = some r := by
  have hdown : link.adminOverrideStatus ≠ some .down := by
    intro h
    simp [physicallyViable, h] at hviable
  simp [linkRecord, hdown, hia, hib]

/-- The viable records of the link query are those of viable links. -/
theorem exists_viable_record {u v : String} :
    (∃ r ∈ (fetchTopologyData db).2.filter LinkRecord.physicallyViable,
        (r.aDeviceId = u ∧ r.bDeviceId = v) ∨ (r.bDeviceId = u ∧ r.aDeviceId = v)) ↔
      ∃ link ∈ db.links, physicallyViable link = true ∧ LinkJoins db link u v := by
  simp only [fetchTopologyData, List.mem_filter, List.mem_filterMap, List.mem_insertionSort]
  constructor
  · rintro ⟨r, ⟨⟨link, hl, hr⟩, hviable⟩, hjoin⟩
    obtain ⟨hv, ia, ib, hia, hib, ha, hb⟩ := linkRecord_eq_some hr
    rw [hv] at hviable
    rw [ha, hb] at hjoin
    exact ⟨link, hl, hviable, ia, ib, hia, hib, hjoin⟩
  · rintro ⟨link, hl, hviable, ia, ib, hia, hib, hjoin⟩
    obtain ⟨r, hr⟩ := exists_linkRecord hviable hia hib
    obtain ⟨hv, ia', ib', hia', hib', ha, hb⟩ := linkRecord_eq_some hr
    rw [hia] at hia'
    rw [hib] at hib'
    cases hia'
    cases hib'
    rw [← ha, ← hb] at hjoin
    exact ⟨r, ⟨⟨link, hl, hr⟩, hv.trans hviable⟩, hjoin⟩

/-- The records with a container are those of contained devices. -/
theorem exists_contained_record {u v : String} :
    (∃ dev ∈ (fetchTopologyData db).1, ∃ parent, truthy dev.parentContainerId = some parent ∧
        ((parent = u ∧ dev.id = v) ∨ (dev.id = u ∧ parent = v))) ↔
      Contains db u v ∨ Contains db v u := by
  simp only [fetchTopologyData, List.mem_map, List.mem_insertionSort]
  constructor
  · rintro ⟨_, ⟨d, hd, rfl⟩, parent, hparent, ⟨rfl, rfl⟩ | ⟨rfl, rfl⟩⟩
    · exact Or.inl ⟨d, hd, hparent, rfl⟩
    · exact Or.inr ⟨d, hd, hparent, rfl⟩
  · rintro (⟨d, hd, hparent, rfl⟩ | ⟨d, hd, hparent, rfl⟩)
    · exact ⟨_, ⟨d, hd, rfl⟩, u, hparent, Or.inl ⟨rfl, rfl⟩⟩
    · exact ⟨_, ⟨d, hd, rfl⟩, v, hparent, Or.inr ⟨rfl, rfl⟩⟩

/-- The edges of a request's graph are the viable links and containment. -/
theorem mem_downstream_dependencyGraph {u v : String} :
    v ∈ (dependencyGraph db).downstream u ↔ Edge db u v := by
  rw [dependencyGraph, buildDependencyGraphFromTopology,
    DependencyGraph.mem_downstream_foldl mem_downstream_addContainer,
    DependencyGraph.mem_downstream_foldl DependencyGraph.mem_downstream_addLink,
    DependencyGraph.downstream_foldl_addDevice, exists_viable_record, exists_contained_record]
  simp [DependencyGraph.downstream, Edge]

/-- The records of a request's graph are those of the device rows. -/
theorem lookup_devices_dependencyGraph (id : String) :
    (dependencyGraph db).devices.lookup id = (db.getDevice id).map deviceRecord := by
  have hperm : (fetchTopologyData db).1.Perm (db.devices.map deviceRecord) :=
    (List.perm_insertionSort _ _).map _
  have hnodup : ((db.devices.map deviceRecord).map DeviceRecord.id).Nodup := by
    simpa [Function.comp_def, deviceRecord] using db.devices_nodup
  rw [dependencyGraph, buildDependencyGraphFromTopology,
    DependencyGraph.devices_foldl devices_addContainer,
    DependencyGraph.devices_foldl DependencyGraph.devices_addLink,
    DependencyGraph.devices_foldl_addDevice, lookup_foldl_rows (fun d ↦ d) hnodup hperm,
    List.find?_map, Option.map_id']
  rfl

private theorem isDeviceUpCandidate_iff {v : String} :
    (dependencyGraph db).isDeviceUpCandidate v = true ↔ Accepts db v := by
  unfold DependencyGraph.isDeviceUpCandidate Accepts
  rw [lookup_devices_dependencyGraph]
  cases db.getDevice v with
  | none => simp
  | some d =>
    simp only [Option.map_some, Option.some.injEq, exists_eq_left', deviceRecord]
    split
    · next hdown => simp [hdown]
    · next hdown =>
      cases deriveDeviceRole d.type <;> simp [hdown]

/-! ### The search of the engine -/

/-- A step leads along an edge of the request's graph to a device that may be up. -/
theorem leads_dependencyGraph {u v : String} : Leads (dependencyGraph db) u v ↔ Step db u v := by
  rw [Leads, mem_downstream_dependencyGraph, isDeviceUpCandidate_iff, Step]

/-- The engine finds what its steps reach. -/
theorem mem_detectCausalChain {orders : Nat → RangeOrder String} {changed : List String}
    (hexist : ∀ id ∈ changed, (db.getDevice id).isSome) {id : String} :
    id ∈ (detectCausalChain (dependencyGraph db) orders changed).affectedDevices ↔
      Reached (Step db) changed id := by
  have hseeds : seeds (dependencyGraph db) changed = changed := by
    rw [seeds, List.filter_eq_self]
    intro id hid
    rw [lookup_devices_dependencyGraph, Option.isSome_map]
    exact hexist id hid
  rw [mem_affectedDevices_iff, hseeds]
  exact ⟨Reached.mono (fun _ _ ↦ leads_dependencyGraph.mp),
    Reached.mono (fun _ _ ↦ leads_dependencyGraph.mpr)⟩

end Engine

/-! ### Agreement -/

/-- The fallback's edges are edges of the engine. -/
theorem edge_of_passableEdge {u v : String} (h : PassableEdge db u v) : Engine.Edge db u v := by
  obtain ⟨_, _, link, hl, hpass, hjoin⟩ := h
  refine Or.inl ⟨link, hl, ?_, hjoin⟩
  unfold isLinkPassable at hpass
  unfold Engine.physicallyViable
  cases hov : link.adminOverrideStatus with
  | some override =>
    rw [hov] at hpass
    simp [of_decide_eq_true hpass]
  | none =>
    rw [hov, Bool.and_eq_true] at hpass
    simpa using hpass.1

/-- Devices that the changed ones reach by steps of both searches. -/
def ReachedByBoth (db : Database) (changed : List String) (u : String) : Prop :=
  Reached (Common (FallbackStep db) (Engine.Step db)) changed u

/-- The two searches agree on the steps from a device. -/
structure StepsAgree (db : Database) (changed : List String) (u : String) : Prop where
  /-- A passable link from a device that propagates leads to a changed device or to one that the
  engine accepts. -/
  fallback : ∀ v, Propagates db u → PassableEdge db u v → v ∈ changed ∨ Engine.Accepts db v
  /-- A device that the engine accepts over a link or containment is reached by steps of both, if
  the fallback does not go there as well. -/
  engine : ∀ v, Engine.Edge db u v → Engine.Accepts db v →
    ¬ (Propagates db u ∧ PassableEdge db u v) → ReachedByBoth db changed v

/-- The fallback and the engine return the same devices exactly if they agree on every step from a
device that the changed ones reach by steps of both. -/
theorem causal_chains_agree_iff {changed : List String}
    (hexist : ∀ id ∈ changed, (db.getDevice id).isSome)
    (orders : Nat → Traffic.RangeOrder String) :
    (∀ id, id ∈ (detectCausalChainPython db changed).affectedDevices ↔
        id ∈ (Engine.detectCausalChain (Engine.dependencyGraph db) orders changed).affectedDevices)
      ↔ ∀ u, ReachedByBoth db changed u → StepsAgree db changed u := by
  have henter : ∀ u v w, FallbackStep db u v → Engine.Step db w v → Engine.Step db u v :=
    fun u v w hp hq ↦ ⟨edge_of_passableEdge hp.2, hq.2⟩
  simp only [mem_detectCausalChainPython, Engine.mem_detectCausalChain hexist,
    reached_iff_reached henter]
  constructor
  · intro h u hu
    refine ⟨?_, ?_⟩
    · intro v hprop hedge
      rcases (h u hu).1 v ⟨hprop, hedge⟩ with hstep | hmem
      · exact Or.inr hstep.2
      · exact Or.inl hmem
    · intro v hedge hacc hno
      exact ((h u hu).2 v ⟨hedge, hacc⟩).resolve_left hno
  · intro h u hu
    refine ⟨?_, ?_⟩
    · intro v hstep
      rcases (h u hu).fallback v hstep.1 hstep.2 with hmem | hacc
      · exact Or.inr hmem
      · exact Or.inl ⟨edge_of_passableEdge hstep.2, hacc⟩
    · intro v hstep
      by_cases hboth : Propagates db u ∧ PassableEdge db u v
      · exact Or.inl hboth
      · exact Or.inr ((h u hu).engine v hstep.1 hstep.2 hboth)

/-- A provisioned OLT with an ONT on an UP link. -/
def accessLine (provisioned : Bool) : Database where
  devices := [{ id := "olt", type := .olt, provisioned := true },
    { id := "ont", type := .ont, provisioned := provisioned }]
  interfaces := [{ id := "olt-p1", deviceId := "olt", name := "p1" },
    { id := "ont-p1", deviceId := "ont", name := "p1" }]
  links := [{ id := "drop", aInterfaceId := "olt-p1", bInterfaceId := "ont-p1" }]
  devices_nodup := by simp

/-- The engine does not enter an ONT that is not provisioned, the fallback does. -/
theorem causal_chains_differ_unprovisioned_ont :
    ((accessLine false).getDevice "olt").isSome = true ∧
      (detectCausalChainPython (accessLine false) ["olt"]).affectedDevices = ["ont", "olt"] ∧
      (Engine.detectCausalChain (Engine.dependencyGraph (accessLine false)) (fun _ ↦ .ascending)
        ["olt"]).affectedDevices = ["olt"] ∧
      ¬ ∀ id, id ∈ (detectCausalChainPython (accessLine false) ["olt"]).affectedDevices ↔
        id ∈ (Engine.detectCausalChain (Engine.dependencyGraph (accessLine false))
          (fun _ ↦ .ascending) ["olt"]).affectedDevices := by
  have hpython : (detectCausalChainPython (accessLine false) ["olt"]).affectedDevices =
      ["ont", "olt"] := by
    decide +kernel
  have hengine : (Engine.detectCausalChain (Engine.dependencyGraph (accessLine false))
      (fun _ ↦ .ascending) ["olt"]).affectedDevices = ["olt"] := by
    decide +kernel
  refine ⟨by decide +kernel, hpython, hengine, ?_⟩
  rw [hpython, hengine]
  intro h
  exact absurd ((h "ont").mp List.mem_cons_self) (by decide)

/-- With a provisioned ONT both return the OLT and the ONT, so that their steps agree. -/
theorem causal_chains_agree_provisioned_ont :
    (∀ id, id ∈ (detectCausalChainPython (accessLine true) ["olt"]).affectedDevices ↔
        id ∈ (Engine.detectCausalChain (Engine.dependencyGraph (accessLine true))
          (fun _ ↦ .ascending) ["olt"]).affectedDevices) ∧
      ∀ u, ReachedByBoth (accessLine true) ["olt"] u → StepsAgree (accessLine true) ["olt"] u := by
  have hexist : ∀ id ∈ ["olt"], ((accessLine true).getDevice id).isSome := by
    decide +kernel
  have hpython : (detectCausalChainPython (accessLine true) ["olt"]).affectedDevices =
      ["ont", "olt"] := by
    decide +kernel
  have hengine : (Engine.detectCausalChain (Engine.dependencyGraph (accessLine true))
      (fun _ ↦ .ascending) ["olt"]).affectedDevices = ["olt", "ont"] := by
    decide +kernel
  have hsame : ∀ id, id ∈ (detectCausalChainPython (accessLine true) ["olt"]).affectedDevices ↔
      id ∈ (Engine.detectCausalChain (Engine.dependencyGraph (accessLine true))
        (fun _ ↦ .ascending) ["olt"]).affectedDevices := by
    intro id
    rw [hpython, hengine]
    simp [or_comm]
  exact ⟨hsame, (causal_chains_agree_iff hexist (fun _ ↦ .ascending)).mp hsame⟩

end Unoc.Status
