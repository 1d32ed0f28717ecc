import Mathlib.Data.List.Dedup
import Mathlib.Data.List.Nodup
import Mathlib.Data.List.Perm.Basic
import Mathlib.Data.List.Sort
import Mathlib.Data.String.Basic
import Unoc.Base.Dict
import Unoc.Model.Rows

/-!
# Database states

The tables that the backend services read, each with its primary key. A query without an order
returns the rows in table order; `session.get` and the dictionaries that services build by id are
the same lookup.
-/

namespace Unoc.Model

/-- One state of the tables, with unique primary keys. -/
structure Database where
  devices : List Device := []
  interfaces : List Interface := []
  links : List Link := []
  routes : List Route := []
  interfaceAddresses : List InterfaceAddress := []
  physicalMedia : List PhysicalMedium := []
  hardwareModels : List HardwareModel := []
  devices_nodup : (devices.map Device.id).Nodup := by decide
  interfaces_nodup : (interfaces.map Interface.id).Nodup := by decide
  links_nodup : (links.map Link.id).Nodup := by decide

namespace Database

variable (db : Database)

/-- `session.get(Device, id)`. -/
def getDevice (id : String) : Option Device := db.devices.find? (fun d ↦ d.id = id)

/-- `session.get(Interface, id)`. -/
def getInterface (id : String) : Option Interface := db.interfaces.find? (fun i ↦ i.id = id)

/-- `session.get(Link, id)`. -/
def getLink (id : String) : Option Link := db.links.find? (fun l ↦ l.id = id)

/-- `session.get(PhysicalMedium, id)`. -/
def getPhysicalMedium (id : Int) : Option PhysicalMedium :=
  db.physicalMedia.find? (fun m ↦ m.id = id)

end Database

/-- Python `sorted` over a set of strings. -/
def sortedSet (xs : List String) : List String := xs.dedup.insertionSort (fun a b ↦ a ≤ b)

/-- A sorted set has the items of its list. -/
theorem mem_sortedSet {xs : List String} {x : String} : x ∈ sortedSet xs ↔ x ∈ xs := by
  simp [sortedSet]

/-- A sorted set has no item twice. -/
theorem nodup_sortedSet (xs : List String) : (sortedSet xs).Nodup :=
  (List.perm_insertionSort _ _).nodup_iff.mpr (List.nodup_dedup xs)

/-- A sorted set only depends on its members. -/
theorem sortedSet_congr {xs ys : List String} (h : ∀ x, x ∈ xs ↔ x ∈ ys) :
    sortedSet xs = sortedSet ys := by
  have hp : (sortedSet xs).Perm (sortedSet ys) := by
    rw [List.perm_ext_iff_of_nodup (nodup_sortedSet xs) (nodup_sortedSet ys)]
    intro x
    rw [mem_sortedSet, mem_sortedSet, h]
  exact hp.eq_of_pairwise' (List.pairwise_insertionSort _ _) (List.pairwise_insertionSort _ _)

/-! ### Lookups by primary key -/

/-- A lookup by a unique key finds the row with that key. -/
theorem find?_key_eq_some {α K : Type} [DecidableEq K] {key : α → K} {rows : List α}
    (h : (rows.map key).Nodup) {id : K} {row : α} :
    rows.find? (fun r ↦ key r = id) = some row ↔ row ∈ rows ∧ key row = id := by
  constructor
  · intro hf
    exact ⟨List.mem_of_find?_eq_some hf, by simpa using List.find?_some hf⟩
  · rintro ⟨hmem, rfl⟩
    cases hf : rows.find? (fun r ↦ key r = key row) with
    | none => simpa using List.find?_eq_none.mp hf row hmem
    | some r =>
      have hkey : key r = key row := by simpa using List.find?_some hf
      rw [List.inj_on_of_nodup_map h (List.mem_of_find?_eq_some hf) hmem hkey]

/-- A lookup by a unique key does not depend on the order of the rows. -/
theorem find?_key_of_perm {α K : Type} [DecidableEq K] {key : α → K} {rows rows' : List α}
    (h : (rows'.map key).Nodup) (hperm : rows.Perm rows') (id : K) :
    rows.find? (fun r ↦ key r = id) = rows'.find? (fun r ↦ key r = id) := by
  have hnodup : (rows.map key).Nodup := (hperm.map key).nodup_iff.mpr h
  apply Option.ext
  intro row
  rw [find?_key_eq_some hnodup, find?_key_eq_some h, hperm.mem_iff]

/-- A map filled with rows of unique keys, in any order, holds what a lookup of the row gives. -/
theorem lookup_foldl_rows {α K V : Type} [DecidableEq K] {key : α → K} {rows rows' : List α}
    (f : α → V) (h : (rows'.map key).Nodup) (hperm : rows.Perm rows') (id : K) :
    (rows.foldl (fun m r ↦ m.insert (key r) (f r)) (∅ : Base.Dict K V)).lookup id =
      (rows'.find? (fun r ↦ key r = id)).map f := by
  rw [Base.Dict.lookup_foldl_insert, find?_key_of_perm h (rows.reverse_perm.trans hperm)]
  simp

namespace Database

variable {db : Database}

/-- A device is found by its id. -/
theorem getDevice_eq_some {id : String} {d : Device} :
    db.getDevice id = some d ↔ d ∈ db.devices ∧ d.id = id :=
  find?_key_eq_some db.devices_nodup

/-- An interface is found by its id. -/
theorem getInterface_eq_some {id : String} {i : Interface} :
    db.getInterface id = some i ↔ i ∈ db.interfaces ∧ i.id = id :=
  find?_key_eq_some db.interfaces_nodup

/-- A link is found by its id. -/
theorem getLink_eq_some {id : String} {l : Link} :
    db.getLink id = some l ↔ l ∈ db.links ∧ l.id = id :=
  find?_key_eq_some db.links_nodup

end Database

/-- Two database states with the same devices, interfaces and links, in any order. -/
structure SameRows (db db' : Database) : Prop where
  devices : db.devices.Perm db'.devices
  interfaces : db.interfaces.Perm db'.interfaces
  links : db.links.Perm db'.links

end Unoc.Model
