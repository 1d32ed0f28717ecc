import Unoc.Base.Rendering
import Unoc.Regions.GraphIndex

/-!
# Region ids

The id of a region names its least device and its number of devices. Both depend on what is
connected only, and the first of them is read back from the id, whatever characters device ids have.
-/

namespace Unoc.Regions

open Unoc.Base Unoc.Model
open Unoc.Base.Components (IsPartition)

variable {db db' : Database} {gi gi' : GraphIndex} {a b d x : String}

/-- Devices with a path of links between them. -/
abbrev Connected (db : Database) (a b : String) : Prop := Relation.ReflTransGen (Linked db) a b

/-- The devices of the region around a device. -/
def region (db : Database) (d : String) : Set String := {v | Connected db d v}

/-- An id names the least device of a region and its size. -/
def NamesRegion (db : Database) (d x : String) : Prop :=
  ∃ first, IsLeast (region db d) first ∧ x = regionName first (region db d).ncard

/-! ### Names -/

private theorem regionName_inj {m n : Nat} (h : regionName a m = regionName b n) :
    a = b ∧ m = n := by
  have ⟨hpart, hnumber⟩ := append_colon_toString_inj h
  exact ⟨(String.append_right_inj "r:").mp hpart, hnumber⟩

private theorem region_eq_of_connected (h : Connected db a b) : region db a = region db b := by
  have hback : Connected db b a := symm_of (Relation.ReflTransGen (Linked db)) h
  ext v
  exact ⟨hback.trans, h.trans⟩

/-- Two regions have one name exactly if they are one region. -/
theorem NamesRegion.eq_iff (ha : NamesRegion db a x) {y : String} (hb : NamesRegion db b y) :
    x = y ↔ Connected db a b := by
  have ⟨first, hfirst, hx⟩ := ha
  have ⟨first', hfirst', hy⟩ := hb
  constructor
  · intro heq
    rw [hx, hy] at heq
    have hshared : first = first' := (regionName_inj heq).1
    have hback : Connected db first b :=
      symm_of (Relation.ReflTransGen (Linked db)) (hshared ▸ hfirst'.1)
    exact hfirst.1.trans hback
  · intro hconnected
    rw [region_eq_of_connected hconnected] at hfirst hx
    rw [hx, hy, hfirst.unique hfirst']

/-! ### The computed ids -/

/-- `_compute_regions` names the components of the device adjacency. -/
theorem regionOfDevice_build : ∃ cs : List (List String),
    (gi.build db).regionOfDevice = cs.foldl (Components.assign regionId) ∅ ∧
      IsPartition (Linked db) cs ∧
        ∀ v, v ∈ cs.flatten ↔ v ∈ (gi.build db).deviceNeighbors.sets := by
  have hnext : ∀ v w, w ∈ (gi.build db).deviceNeighbors.next v ↔ Linked db v w := by
    intro v w
    rw [DeviceNeighbors.next, mem_sortedSet]
    exact mem_neighborsDevice
  have hkeys : ∀ v, v ∈ (gi.build db).deviceNeighbors.deviceIds ↔
      v ∈ (gi.build db).deviceNeighbors.sets := by
    intro v
    rw [DeviceNeighbors.deviceIds, mem_sortedSet, AList.mem_keys]
  have hin : ∀ v w, Linked db v w → w ∈ (gi.build db).deviceNeighbors.deviceIds := by
    intro v w hlinked
    rw [hkeys]
    exact mem_of_mem_members (mem_neighborsDevice.mpr hlinked.symm)
  have ⟨cs, heq, hpartition, hcovers⟩ := Components.sweep_spec (Components.assign regionId) ∅ hnext hin
    (Nat.le_refl _) (List.pairwise_insertionSort _ _)
  apply Exists.intro cs
  apply And.intro heq
  apply And.intro hpartition
  intro v
  rw [hcovers, hkeys]

/-- The id of an entry names its region. -/
theorem namesRegion_of_lookup (h : (gi.build db).regionOfDevice.lookup d = some x) :
    NamesRegion db d x := by
  have ⟨cs, heq, hpartition, _⟩ := @regionOfDevice_build db gi
  rw [heq, Components.lookup_foldl_assign hpartition.nodup] at h
  have ⟨c, hc, hd, hx⟩ := h
  have ⟨first, hhead, hleast⟩ := hpartition.isLeast hc hd
  apply Exists.intro first
  apply And.intro hleast
  have hlength : c.length = (region db d).ncard := hpartition.length_eq hc hd
  rw [← hx, regionId, hlength, List.headD_eq_head?_getD, hhead]
  rfl

/-- Every device that is in the index has an id. -/
theorem isSome_lookup_iff : ((gi.build db).regionOfDevice.lookup d).isSome ↔
    d ∈ (gi.build db).deviceNeighbors.sets := by
  have ⟨cs, heq, hpartition, hcovers⟩ := @regionOfDevice_build db gi
  rw [← hcovers, List.mem_flatten, heq, Option.isSome_iff_exists]
  simp only [Components.lookup_foldl_assign hpartition.nodup]
  grind

/-- An id that is asked for names the region around the device, also where it is the default. -/
theorem namesRegion_regionIdOfDevice : NamesRegion db d ((gi.build db).regionIdOfDevice d) := by
  unfold GraphIndex.regionIdOfDevice
  cases hlookup : (gi.build db).regionOfDevice.lookup d with
  | some x => exact namesRegion_of_lookup hlookup
  | none =>
    have halone : region db d = {d} := by
      ext v
      rw [Set.mem_singleton_iff]
      constructor
      · intro hv
        rcases Relation.ReflTransGen.cases_head hv with heq | ⟨w, hlinked, _⟩
        · exact heq.symm
        · have hentry : d ∈ (gi.build db).deviceNeighbors.sets :=
            mem_of_mem_members (mem_neighborsDevice.mpr hlinked)
          rw [← isSome_lookup_iff, hlookup] at hentry
          cases hentry
      · intro hv
        rw [hv]
        exact .refl
    apply Exists.intro d
    rw [halone, Set.ncard_singleton]
    exact ⟨isLeast_singleton, rfl⟩

/-! ### The order of the rows -/

private theorem linked_iff_of_sameRows (h : SameRows db db') : Linked db a b ↔ Linked db' a b := by
  have hbelongs : ∀ interfaceId id, BelongsTo db interfaceId id ↔ BelongsTo db' interfaceId id := by
    intro interfaceId id
    simp only [BelongsTo, h.interfaces.mem_iff]
  simp only [Linked, hbelongs, h.links.mem_iff]

/-- The region around a device does not depend on the order of the rows. -/
theorem region_eq_of_sameRows (h : SameRows db db') : region db d = region db' d := by
  have hlinked : Linked db = Linked db' := by
    ext a b
    exact linked_iff_of_sameRows h
  unfold region Connected
  rw [hlinked]

private theorem NamesRegion.unique {y : String} (hx : NamesRegion db d x)
    (hy : NamesRegion db d y) :
    x = y := (hx.eq_iff hy).mpr .refl

private theorem regionIdOfDevice_eq_of_sameRows (h : SameRows db db') :
    (gi.build db).regionIdOfDevice d = (gi'.build db').regionIdOfDevice d := by
  have hother : NamesRegion db d ((gi'.build db').regionIdOfDevice d) := by
    unfold NamesRegion
    rw [region_eq_of_sameRows h]
    exact namesRegion_regionIdOfDevice
  exact namesRegion_regionIdOfDevice.unique hother

/-- After a build, whatever the index held before, every device row has a region id, two ids have one
region id exactly if they are connected, neighbors are the devices that a link row joins, in both
directions, and region ids do not depend on the order of the rows. -/
theorem build_regions (gi : GraphIndex) (db : Database) :
    (∀ dev ∈ db.devices, ((gi.build db).regionOfDevice.lookup dev.id).isSome) ∧
      (∀ a b, (gi.build db).regionIdOfDevice a = (gi.build db).regionIdOfDevice b ↔
        Connected db a b) ∧
      (∀ a b, b ∈ (gi.build db).neighborsDevice a ↔ Linked db a b) ∧
      (∀ a b, b ∈ (gi.build db).neighborsDevice a ↔ a ∈ (gi.build db).neighborsDevice b) ∧
      ∀ (gi' : GraphIndex) (db' : Database), SameRows db db' →
        ∀ d, (gi.build db).regionIdOfDevice d = (gi'.build db').regionIdOfDevice d := by
  refine ⟨?_, ?_, ?_, ?_, ?_⟩
  · intro dev hdev
    rw [isSome_lookup_iff]
    exact mem_foldl_addDevice.mpr (.inr ⟨dev, hdev, rfl⟩)
  · intro a b
    exact namesRegion_regionIdOfDevice.eq_iff namesRegion_regionIdOfDevice
  · intro a b
    exact mem_neighborsDevice
  · intro a b
    exact ⟨(gi.build db).deviceNeighbors.symm a b, (gi.build db).deviceNeighbors.symm b a⟩
  · intro gi' db' h d
    exact regionIdOfDevice_eq_of_sameRows h

/-- Two linked devices and one that stands alone. -/
def linkedAndAlone : Database where
  devices := [{ id := "ont", type := .ont }, { id := "core", type := .coreRouter },
    { id := "olt", type := .olt }]
  interfaces := [{ id := "olt-pon0", deviceId := "olt", name := "pon0" },
    { id := "ont-if0", deviceId := "ont", name := "if0" }]
  links := [{ id := "l1", aInterfaceId := "ont-if0", bInterfaceId := "olt-pon0" }]

/-- The rows in reverse order. -/
def reversed (db : Database) : Database where
  devices := db.devices.reverse
  interfaces := db.interfaces.reverse
  links := db.links.reverse
  devices_nodup := (db.devices.reverse_perm.map Device.id).nodup_iff.mpr db.devices_nodup
  interfaces_nodup := (db.interfaces.reverse_perm.map Interface.id).nodup_iff.mpr
    db.interfaces_nodup
  links_nodup := (db.links.reverse_perm.map Link.id).nodup_iff.mpr db.links_nodup

private theorem sameRows_reversed : SameRows db (reversed db) where
  devices := db.devices.reverse_perm.symm
  interfaces := db.interfaces.reverse_perm.symm
  links := db.links.reverse_perm.symm

example : ((({} : GraphIndex).build linkedAndAlone).regionOfDevice.keys.map
    (({} : GraphIndex).build (reversed linkedAndAlone)).regionIdOfDevice) =
      ["r:olt:2", "r:olt:2", "r:core:1"] := by decide +kernel

/-- The devices of one link have one region id, in both orders of the rows. -/
theorem build_regions_linkedAndAlone :
    ((({} : GraphIndex).build linkedAndAlone).regionOfDevice.lookup "core").isSome ∧
      (({} : GraphIndex).build linkedAndAlone).regionIdOfDevice "ont" =
        (({} : GraphIndex).build (reversed linkedAndAlone)).regionIdOfDevice "ont" :=
  have h := build_regions {} linkedAndAlone
  ⟨h.1 { id := "core", type := .coreRouter } (by decide),
    h.2.2.2.2 {} (reversed linkedAndAlone) sameRows_reversed "ont"⟩

end Unoc.Regions
