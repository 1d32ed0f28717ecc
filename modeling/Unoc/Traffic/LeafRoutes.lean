import Unoc.Base.Hops
import Unoc.Forwarding.DeviceLocal
import Unoc.Traffic.BackendPath

/-!
# Routes of leaves in the database

`TrafficEngine.run_tick` of `backend/services/traffic/v2_engine.py` takes the arguments of
`bfs_pick_anchor` from the rows of devices, interfaces and links. In terms of these rows a leaf's path
is the least one over open links, through devices that are not forced down, to an anchor of the best
class, and the links of the path are open links between its devices.
-/

namespace Unoc.Traffic.Backend

open Unoc.Base
open Unoc.Model
open Unoc.Status (topology linkEnds isLinkPassable truthy truthy_some)

/-- `ANCHOR_TYPES`; `v2_engine.py:256–259`. -/
def anchorTypes : DeviceType → Bool
  | .backboneGateway | .pop => true
  | _ => false

/-- `allowed_device_ids`; `v2_engine.py:244–246`. -/
def allowedDeviceIds (devices : List Device) : Finset String :=
  ((devices.filter (fun d ↦ d.adminOverrideStatus ≠ some .down)).map Device.id).toFinset

/-- `dev_type_by_id`; `v2_engine.py:173`. -/
def devTypeById (devices : List Device) : Dict String DeviceType :=
  devices.foldl (fun m d ↦ m.insert d.id d.type) ∅

/-- What `run_tick` hands to `bfs_pick_anchor`; `v2_engine.py:173–259`. -/
def tickPaths (db : Database) (devices : List Device) (interfaces : List Interface)
    (links : List Link) : Paths where
  deviceNeighbors := (buildAdjacency interfaces links (isLinkPassable (topology db))
    (deviceOverrideMap devices)).deviceNeighbors
  linkByPair := (buildAdjacency interfaces links (isLinkPassable (topology db))
    (deviceOverrideMap devices)).linkByPair
  allowedDeviceIds := allowedDeviceIds devices
  devTypeById := devTypeById devices
  anchorTypes := anchorTypes

/-! ### Routes -/

/-- A hop over an open link to a device that is not forced down. -/
def Hop (db : Database) (u v : String) : Prop :=
  Linked db u v ∧ ∃ d, db.getDevice v = some d ∧ d.adminOverrideStatus ≠ some .down

/-- Preference among anchors, lower first: backbone, core, POP. -/
def classOf : DeviceType → Option Nat
  | .backboneGateway => some 0
  | .coreSite | .coreRouter => some 1
  | .pop => some 2
  | _ => none

/-- The class of a device as an anchor for another. -/
def anchorRankOf (db : Database) (s v : String) : Option Nat :=
  if v = s ∨ v = "" then none else (db.getDevice v).bind (fun d ↦ classOf d.type)

/-- An open link with an id joins two devices. -/
def JoinedBy (db : Database) (e : String × String) (id : String) : Prop :=
  ∃ ln ∈ db.links, ln.id = id ∧ ∃ a b aDown bDown, End db ln.aInterfaceId a aDown ∧
    End db ln.bInterfaceId b bDown ∧ (openLink ln aDown bDown = true ∧ a ≠ "" ∧ b ≠ "") ∧
      Joins (a, b) e.1 e.2

/-! ### The links of the adjacency -/

private theorem pair_eq_iff_joins {e : String × String} {u v : String} :
    ({u, v} : Finset String) = {e.1, e.2} ↔ Joins e u v := by
  rw [← Finset.coe_inj, Finset.coe_pair, Finset.coe_pair, Set.pair_eq_pair_iff]
  unfold Joins
  constructor
  · intro h
    cases h with
    | inl h => exact .inl ⟨h.1.symm, h.2.symm⟩
    | inr h => exact .inr ⟨h.1.symm, h.2.symm⟩
  · intro h
    cases h with
    | inl h => exact .inl ⟨h.1.symm, h.2.symm⟩
    | inr h => exact .inr ⟨h.1.symm, h.2.symm⟩

/-- The pair of two neighbours has the id of a link whose edge joins them. -/
theorem linkByPair_foldl (isLinkPassable : Link → Bool) (overrides : Dict String (Option Status))
    (links rows : List Link) (hsub : links ⊆ rows) (g : Adjacency)
    (hg : ∀ u v, v ∈ (g.deviceNeighbors.lookup u).getD ∅ → ∃ ln ∈ rows, ∃ e,
      edge isLinkPassable overrides g.ifaceToDevice ln = some e ∧ Joins e u v ∧
        g.linkByPair.lookup {u, v} = some ln.id) {u v : String}
    (hv : v ∈ ((links.foldl (addLink isLinkPassable overrides) g).deviceNeighbors.lookup u).getD ∅) :
    ∃ ln ∈ rows, ∃ e, edge isLinkPassable overrides g.ifaceToDevice ln = some e ∧ Joins e u v ∧
      (links.foldl (addLink isLinkPassable overrides) g).linkByPair.lookup {u, v} = some ln.id := by
  induction links generalizing g with
  | nil => exact hg u v hv
  | cons ln links ih =>
    rw [List.foldl_cons] at hv ⊢
    have hrest : links ⊆ rows := fun l hl ↦ hsub (List.mem_cons_of_mem ln hl)
    cases he : edge isLinkPassable overrides g.ifaceToDevice ln with
    | none =>
      rw [addLink_of_none isLinkPassable overrides he] at hv ⊢
      exact ih hrest g hg hv
    | some e =>
      rw [addLink_of_some isLinkPassable overrides he] at hv ⊢
      refine ih hrest { g with
          deviceNeighbors := addNeighbor (addNeighbor g.deviceNeighbors e.1 e.2) e.2 e.1
          linkByPair := g.linkByPair.insert {e.1, e.2} ln.id } ?_ hv
      intro u v huv
      dsimp only at huv ⊢
      by_cases hjoins : Joins e u v
      · refine ⟨ln, hsub List.mem_cons_self, e, he, hjoins, ?_⟩
        rw [pair_eq_iff_joins.mpr hjoins, AList.lookup_insert]
      · have hold : v ∈ (g.deviceNeighbors.lookup u).getD ∅ := by
          rw [mem_addNeighbor, mem_addNeighbor] at huv
          unfold Joins at hjoins
          tauto
        have ⟨ln', hln', e', he', hjoins', hlookup⟩ := hg u v hold
        refine ⟨ln', hln', e', he', hjoins', ?_⟩
        rw [AList.lookup_insert_ne (fun heq ↦ hjoins (pair_eq_iff_joins.mp heq)), hlookup]

/-! ### The rows -/

section Rows

variable {db : Database} (hends : ∀ ln ∈ db.links, (linkEnds (topology db) ln).isSome)
  {devices : List Device} {interfaces : List Interface} {links : List Link}
  (hdevices : devices.Perm db.devices) (hinterfaces : interfaces.Perm db.interfaces)
  (hlinks : links.Perm db.links)

include hdevices in
private theorem mem_allowedDeviceIds (id : String) : id ∈ allowedDeviceIds devices ↔
    ∃ d, db.getDevice id = some d ∧ d.adminOverrideStatus ≠ some .down := by
  unfold allowedDeviceIds
  rw [List.mem_toFinset, List.mem_map]
  constructor
  · intro h
    have ⟨d, hd, hid⟩ := h
    have ⟨hmem, hup⟩ := List.mem_filter.mp hd
    exact ⟨d, Database.getDevice_eq_some.mpr ⟨hdevices.mem_iff.mp hmem, hid⟩, of_decide_eq_true hup⟩
  · intro h
    have ⟨d, hd, hup⟩ := h
    have ⟨hmem, hid⟩ := Database.getDevice_eq_some.mp hd
    exact ⟨d, List.mem_filter.mpr ⟨hdevices.mem_iff.mpr hmem, decide_eq_true hup⟩, hid⟩

include hdevices in
private theorem rankOf_tickPaths (s : String) :
    (tickPaths db devices interfaces links).rankOf s = anchorRankOf db s := by
  funext v
  have htype : (devTypeById devices).lookup v = (db.getDevice v).map Device.type :=
    lookup_foldl_rows Device.type db.devices_nodup hdevices v
  unfold Paths.rankOf anchorRankOf
  split
  · rfl
  · change ((devTypeById devices).lookup v).bind _ = _
    rw [htype]
    cases db.getDevice v with
    | none => rfl
    | some d =>
      change Paths.anchorClass _ d.type = classOf d.type
      unfold Paths.anchorClass
      change (if anchorTypes d.type ∧ _ then _ else if _ then _ else if anchorTypes d.type ∧ _ then _
        else if anchorTypes d.type then _ else _) = _
      cases d.type <;> rfl

include hends hdevices hinterfaces hlinks

private theorem enters_tickPaths : (tickPaths db devices interfaces links).Enters = Hop db := by
  funext u v
  apply propext
  unfold Paths.Enters Hop
  exact and_congr (mem_neighbors_backend hends hdevices hinterfaces hlinks u v)
    (mem_allowedDeviceIds hdevices v)

/-- Two neighbours are joined by the open link of their pair. -/
theorem exists_joinedBy {u v : String} (h : Hop db u v) : ∃ id,
    (tickPaths db devices interfaces links).linkByPair.lookup {u, v} = some id ∧
      JoinedBy db (u, v) id := by
  have hiface := lookup_foldl_rows Interface.deviceId db.interfaces_nodup hinterfaces
  have hoverride : ∀ id, (deviceOverrideMap devices).lookup id =
      (db.getDevice id).map Device.adminOverrideStatus :=
    lookup_foldl_rows Device.adminOverrideStatus db.devices_nodup hdevices
  have hv := (mem_neighbors_backend hends hdevices hinterfaces hlinks u v).mpr h.1
  have ⟨ln, hln, e, he, hjoins, hlookup⟩ := linkByPair_foldl (isLinkPassable (topology db))
    (deviceOverrideMap devices) links links (fun _ hl ↦ hl)
    { ifaceToDevice := interfaces.foldl (fun m i ↦ m.insert i.id i.deviceId) ∅ }
    (fun u v hnone ↦ by simp at hnone) hv
  have hmem := hlinks.mem_iff.mp hln
  have ⟨a, b, aDown, bDown, ha, hb, hpass⟩ := exists_ends (hends ln hmem)
  rw [edge_eq ha hb hiface hoverride hpass] at he
  have ⟨hopen, heq⟩ := Option.ite_none_right_eq_some.mp he
  cases heq
  exact ⟨ln.id, hlookup, ln, hmem, rfl, a, b, aDown, bDown, ha, hb, hopen, hjoins⟩

/-- The links of a walk are open links between its devices. -/
theorem pathLinks_of_hops (hops : List (String × String)) (h : ∀ e ∈ hops, Hop db e.1 e.2) :
    ∃ ids, List.Forall₂ (JoinedBy db) hops ids ∧
      hops.filterMap (tickPaths db devices interfaces links).linkOf = ids.filter (fun id ↦ id ≠ "") := by
  induction hops with
  | nil => exact ⟨[], .nil, rfl⟩
  | cons e hops ih =>
    have ⟨ids, hids, hrest⟩ := ih (fun e' he' ↦ h e' (List.mem_cons_of_mem e he'))
    have ⟨id, hlookup, hjoined⟩ := exists_joinedBy hends hdevices hinterfaces hlinks
      (h e List.mem_cons_self)
    refine ⟨id :: ids, .cons hjoined hids, ?_⟩
    have hlink : (tickPaths db devices interfaces links).linkOf e =
        if id = "" then none else some id := by
      unfold Paths.linkOf
      rw [hlookup]
      by_cases hid : id = ""
      · rw [if_pos hid, hid]
        rfl
      · rw [if_neg hid, truthy_some hid]
    rw [List.filterMap_cons, hlink, hrest]
    by_cases hid : id = ""
    · simp [hid]
    · simp [hid]

variable {A : Type} (lc : Forwarding.LowerCase) (ip : Forwarding.IpLibrary A)
  (net : Forwarding.Network) (t : Forwarding.MacTable)
  (hnet : ∀ id, net.getDevice id = db.getDevice id)
include hnet

/-- The path of a leaf: the best walk with the links of its hops, or the leaf alone. -/
theorem leafPath_cases {leaf : Device} (hmem : leaf ∈ db.devices) (hleaf : leafTypes leaf.type = true) :
    ((tickPaths db devices interfaces links).bfsPickAnchor (Paths.resolveFlow lc ip net t) leaf.id =
        ([leaf.id], []) ∧ ∀ v p, Walk (Hop db) leaf.id v p → anchorRankOf db leaf.id v = none) ∨
      ∃ r p ids, BestWalk (Hop db) (anchorRankOf db leaf.id) leaf.id r p ∧
        List.Forall₂ (JoinedBy db) (steps p) ids ∧
        (tickPaths db devices interfaces links).bfsPickAnchor (Paths.resolveFlow lc ip net t) leaf.id =
          (p, ids.filter (fun id ↦ id ≠ "")) := by
  have hbest := (tickPaths db devices interfaces links).bfsPickAnchor_best
    (Paths.resolveFlow lc ip net t) leaf.id
  rw [enters_tickPaths hends hdevices hinterfaces hlinks, rankOf_tickPaths hdevices] at hbest
  cases hbest with
  | inl hnone =>
    left
    refine ⟨?_, hnone.2⟩
    rw [hnone.1]
    apply Paths.fallback_leaf
    intro d hd
    rw [hnet, Database.getDevice_eq_some.mpr ⟨hmem, rfl⟩] at hd
    cases hd
    exact hleaf
  | inr hsome =>
    right
    have ⟨r, p, hwalk, hpath⟩ := hsome
    have ⟨v, _, hpv⟩ := hwalk.least.walk
    have hchain := (Walk.iff_isChain.mp hpv).2.2
    have ⟨ids, hids, hlinks'⟩ := pathLinks_of_hops hends hdevices hinterfaces hlinks (steps p)
      (fun e he ↦ rel_of_mem_steps hchain he)
    refine ⟨r, p, ids, hwalk, hids, ?_⟩
    rw [hpath]
    unfold Paths.pathLinks
    rw [hlinks']

end Rows

/-- Where the interfaces and devices of all links exist, a tick sends a leaf along the least path of
the best class, over open links, or nowhere if no anchor can be reached; and along the same devices
in whatever order the rows are read. -/
theorem leaf_takes_least_route (db : Database)
    (hends : ∀ ln ∈ db.links, (linkEnds (topology db) ln).isSome)
    {devices devices' : List Device} (hdevices : devices.Perm db.devices)
    (hdevices' : devices'.Perm db.devices) {interfaces interfaces' : List Interface}
    (hinterfaces : interfaces.Perm db.interfaces) (hinterfaces' : interfaces'.Perm db.interfaces)
    {links links' : List Link} (hlinks : links.Perm db.links) (hlinks' : links'.Perm db.links)
    {A : Type} (lc : Forwarding.LowerCase) (ip : Forwarding.IpLibrary A) (net : Forwarding.Network)
    (t : Forwarding.MacTable) (hnet : ∀ id, net.getDevice id = db.getDevice id) {leaf : Device}
    (hmem : leaf ∈ db.devices) (hleaf : leafTypes leaf.type = true) :
    (((tickPaths db devices interfaces links).bfsPickAnchor (Paths.resolveFlow lc ip net t) leaf.id =
        ([leaf.id], []) ∧ ∀ v p, Walk (Hop db) leaf.id v p → anchorRankOf db leaf.id v = none) ∨
      ∃ r p ids, BestWalk (Hop db) (anchorRankOf db leaf.id) leaf.id r p ∧
        List.Forall₂ (JoinedBy db) (steps p) ids ∧
        (tickPaths db devices interfaces links).bfsPickAnchor (Paths.resolveFlow lc ip net t) leaf.id =
          (p, ids.filter (fun id ↦ id ≠ ""))) ∧
    ((tickPaths db devices' interfaces' links').bfsPickAnchor (Paths.resolveFlow lc ip net t)
        leaf.id).1 =
      ((tickPaths db devices interfaces links).bfsPickAnchor (Paths.resolveFlow lc ip net t)
        leaf.id).1 := by
  have hcases := leafPath_cases hends hdevices hinterfaces hlinks lc ip net t hnet hmem hleaf
  have hcases' := leafPath_cases hends hdevices' hinterfaces' hlinks' lc ip net t hnet hmem hleaf
  refine ⟨hcases, ?_⟩
  cases hcases with
  | inl hnone =>
    cases hcases' with
    | inl hnone' => rw [hnone.1, hnone'.1]
    | inr hsome' =>
      obtain ⟨r, p, ids, hwalk, _⟩ := hsome'
      obtain ⟨v, hrank, hp⟩ := hwalk.least.walk
      rw [hnone.2 v p hp] at hrank
      cases hrank
  | inr hsome =>
    obtain ⟨r, p, ids, hwalk, _, hpath⟩ := hsome
    cases hcases' with
    | inl hnone' =>
      obtain ⟨v, hrank, hp⟩ := hwalk.least.walk
      rw [hnone'.2 v p hp] at hrank
      cases hrank
    | inr hsome' =>
      obtain ⟨r', p', ids', hwalk', _, hpath'⟩ := hsome'
      rw [hpath, hpath', (hwalk.unique hwalk').2]

/-- An ONT below an OLT, which is joined to a core router and, over an edge router, to a backbone
gateway. -/
def twoUplinks : Database where
  devices := [{ id := "ont", type := .ont }, { id := "olt", type := .olt },
    { id := "core", type := .coreRouter }, { id := "edge", type := .edgeRouter },
    { id := "bb", type := .backboneGateway }]
  interfaces := [{ id := "ont-0", deviceId := "ont", name := "0" },
    { id := "olt-0", deviceId := "olt", name := "0" }, { id := "olt-1", deviceId := "olt", name := "1" },
    { id := "olt-2", deviceId := "olt", name := "2" }, { id := "core-0", deviceId := "core", name := "0" },
    { id := "edge-0", deviceId := "edge", name := "0" }, { id := "edge-1", deviceId := "edge", name := "1" },
    { id := "bb-0", deviceId := "bb", name := "0" }]
  links := [{ id := "l1", aInterfaceId := "ont-0", bInterfaceId := "olt-0" },
    { id := "l2", aInterfaceId := "olt-1", bInterfaceId := "core-0" },
    { id := "l3", aInterfaceId := "olt-2", bInterfaceId := "edge-0" },
    { id := "l4", aInterfaceId := "bb-0", bInterfaceId := "edge-1" }]

/-- The backbone is preferred although the core router is nearer. -/
theorem leaf_takes_least_route_twoUplinks :
    ((tickPaths twoUplinks twoUplinks.devices.reverse twoUplinks.interfaces twoUplinks.links).bfsPickAnchor
        (Paths.resolveFlow Forwarding.asciiLower Forwarding.smallIp { devices := twoUplinks.devices } {})
          "ont").1 = ["ont", "olt", "edge", "bb"] := by
  have h := (leaf_takes_least_route twoUplinks (by decide) (.refl _) (List.reverse_perm _) (.refl _)
    (.refl _) (.refl _) (.refl _) Forwarding.asciiLower Forwarding.smallIp
    { devices := twoUplinks.devices } {} (fun _ ↦ rfl)
    (show ({ id := "ont", type := .ont } : Device) ∈ twoUplinks.devices by decide) rfl).2
  rw [h]
  decide +kernel

end Unoc.Traffic.Backend
