import Mathlib.Data.Finset.Dedup
import Mathlib.Data.List.AList
import Mathlib.Data.List.Sort
import Mathlib.Data.String.Basic
import Unoc.Model.Database

/-!
# The Go topology cache

`engine-go/internal/models/topology_cache.go`. Go maps are association lists with unique keys;
their entry order carries no meaning, and each `range` over one takes the order of its keys as
an explicit argument.
-/

namespace Unoc.Traffic

open Unoc.Model

/-- A Go `map[K]V`. -/
abbrev GoMap (K V : Type) := AList (fun _ : K ↦ V)

/-- One choice of the order in which a Go `range` visits the keys of a map, for every key set. -/
structure RangeOrder (K : Type) where
  keys : Finset K → List K
  nodup : ∀ s, (keys s).Nodup
  mem_keys : ∀ s k, k ∈ keys s ↔ k ∈ s

/-- `sort.Strings` over the keys of a map; Go sorts by bytes of UTF-8, which is the order of the
code points. -/
def RangeOrder.sortedKeys (o : RangeOrder String) (s : Finset String) : List String :=
  (o.keys s).insertionSort (· ≤ ·)

/-- The order of the keys by a total relation, an order that a `range` may take. -/
def RangeOrder.sorting {K : Type} (r : K → K → Prop) [DecidableRel r] [IsTrans K r]
    [Std.Antisymm r] [Std.Total r] : RangeOrder K where
  keys s := Quotient.liftOn s.val (fun l ↦ l.insertionSort r) (fun l l' h ↦
    ((List.perm_insertionSort r l).trans
      (h.trans (List.perm_insertionSort r l').symm)).eq_of_pairwise'
        (List.pairwise_insertionSort r l) (List.pairwise_insertionSort r l'))
  nodup s := by
    obtain ⟨l, hl⟩ := s
    induction l using Quotient.inductionOn with
    | h l => exact (List.perm_insertionSort r l).nodup_iff.mpr hl
  mem_keys s k := by
    obtain ⟨l, hl⟩ := s
    induction l using Quotient.inductionOn with
    | h l => exact List.mem_insertionSort r

/-- Ascending keys. -/
def RangeOrder.ascending : RangeOrder String := .sorting (fun a b ↦ a ≤ b)

/-- Descending keys. -/
def RangeOrder.descending : RangeOrder String := .sorting (fun a b ↦ b ≤ a)

/-- The key set of a map. -/
def GoMap.keySet {K V : Type} [DecidableEq K] (m : GoMap K V) : Finset K := m.keys.toFinset

/-- The entries of a map in the order its `range` visits them. -/
def GoMap.range {K V : Type} [DecidableEq K] (m : GoMap K V) (o : RangeOrder K) : List (K × V) :=
  (o.keys m.keySet).filterMap (fun k ↦ (m.lookup k).map (fun v ↦ (k, v)))

/-- `TopologyCache`; `topology_cache.go:6–14`. -/
structure TopologyCache where
  deviceByID : GoMap String Device := ∅
  linkByID : GoMap String Link := ∅
  linksByInterface : GoMap String (List Link) := ∅
  interfaceByID : GoMap String Interface := ∅
  tariffByID : GoMap Int Tariff := ∅
  hardwareModelByID : GoMap Int HardwareModel := ∅
  portProfilesByHardwareModel : GoMap Int (List PortProfile) := ∅

/-- `m[k] = v` under a check that there is a value. -/
def GoMap.insertValid {K V : Type} [DecidableEq K] (m : GoMap K V) (k : K) :
    Option V → GoMap K V
  | some v => m.insert k v
  | none => m

/-- Go `m[k] = append(m[k], v)`. -/
def GoMap.appendAt {K V : Type} [DecidableEq K] (m : GoMap K (List V)) (k : K) (v : V) :
    GoMap K (List V) :=
  m.insert k ((m.lookup k).getD [] ++ [v])

/-- Index one link by its id and under both of its interfaces; `topology_cache.go:67–71`. -/
def indexLink (cache : TopologyCache) (link : Link) : TopologyCache :=
  { cache with
    linkByID := cache.linkByID.insert link.id link
    linksByInterface :=
      GoMap.appendAt (GoMap.appendAt cache.linksByInterface link.aInterfaceId link)
        link.bInterfaceId link }

/-- `BuildTopologyCacheWithCatalog`; `topology_cache.go:22–83`. -/
def buildTopologyCacheWithCatalog (devices : List Device) (links : List Link)
    (interfaces : List Interface) (tariffs : List Tariff) (hardwareModels : List HardwareModel)
    (portProfiles : List PortProfile) : TopologyCache :=
  links.foldl indexLink
    { deviceByID := devices.foldl (fun m d ↦ m.insert d.id d) ∅
      interfaceByID := interfaces.foldl (fun m i ↦ m.insert i.id i) ∅
      tariffByID := tariffs.foldl (fun m t ↦ m.insert t.id t) ∅
      hardwareModelByID := hardwareModels.foldl (fun m h ↦ m.insert h.id h) ∅
      portProfilesByHardwareModel :=
        portProfiles.foldl (fun m p ↦ GoMap.appendAt m p.hardwareModelId p) ∅ }

/-! ### Order of a `range` -/

/-- A map's `range` visits exactly its entries. -/
theorem GoMap.mem_range {K V : Type} [DecidableEq K] {m : GoMap K V} {o : RangeOrder K} {k : K}
    {v : V} : (k, v) ∈ m.range o ↔ m.lookup k = some v := by
  simp only [GoMap.range, List.mem_filterMap, Option.map_eq_some_iff, Prod.mk.injEq,
    o.mem_keys, GoMap.keySet, List.mem_toFinset]
  constructor
  · rintro ⟨k', _, v', hv, rfl, rfl⟩
    exact hv
  · intro h
    have hk : k ∈ m := AList.lookup_isSome.mp (by rw [h]; rfl)
    exact ⟨k, AList.mem_keys.mp hk, v, h, rfl, rfl⟩

/-- A map's `range` visits each key once. -/
theorem GoMap.nodup_range {K V : Type} [DecidableEq K] (m : GoMap K V) (o : RangeOrder K) :
    ((m.range o).map Prod.fst).Nodup := by
  have hsublist : ((m.range o).map Prod.fst).Sublist (o.keys m.keySet) := by
    unfold GoMap.range
    induction o.keys m.keySet with
    | nil => exact List.Sublist.refl _
    | cons k ks ih =>
      cases hk : m.lookup k with
      | none =>
        rw [List.filterMap_cons_none (by rw [hk]; rfl)]
        exact ih.cons k
      | some v =>
        rw [List.filterMap_cons_some (b := (k, v)) (by rw [hk]; rfl)]
        exact ih.cons_cons k
  exact hsublist.nodup (o.nodup _)

/-- Two orders visit the same keys. -/
theorem RangeOrder.keys_perm {K : Type} (o o' : RangeOrder K) (s : Finset K) :
    (o.keys s).Perm (o'.keys s) := by
  rw [List.perm_ext_iff_of_nodup (o.nodup s) (o'.nodup s)]
  intro k
  rw [o.mem_keys, o'.mem_keys]

/-- Sorting the keys removes the dependence on the order of the `range`. -/
theorem RangeOrder.sortedKeys_eq (o o' : RangeOrder String) (s : Finset String) :
    o.sortedKeys s = o'.sortedKeys s := by
  have hp : (o.sortedKeys s).Perm (o'.sortedKeys s) :=
    (List.perm_insertionSort _ _).trans
      ((o.keys_perm o' s).trans (List.perm_insertionSort _ _).symm)
  exact hp.eq_of_pairwise' (List.pairwise_insertionSort _ _) (List.pairwise_insertionSort _ _)

/-- Sorting keeps the keys of the set. -/
theorem RangeOrder.mem_sortedKeys {o : RangeOrder String} {s : Finset String} {k : String} :
    k ∈ o.sortedKeys s ↔ k ∈ s := by
  rw [sortedKeys, List.mem_insertionSort, o.mem_keys]

/-! ### Maps filled from a `range` -/

private theorem lookup_foldl_insert {K V W : Type} [DecidableEq K] (m : GoMap K W)
    (f : K → W → Option V) (k : K) (es : List (K × W)) (acc : GoMap K V)
    (hes : ∀ e ∈ es, m.lookup e.1 = some e.2)
    (hacc : acc.lookup k = none ∨ acc.lookup k = (m.lookup k).bind (f k))
    (hk : acc.lookup k = (m.lookup k).bind (f k) ∨ ∃ e ∈ es, e.1 = k) :
    (es.foldl (fun acc e ↦ GoMap.insertValid acc e.1 (f e.1 e.2)) acc).lookup k =
      (m.lookup k).bind (f k) := by
  induction es generalizing acc with
  | nil =>
    rcases hk with hk | ⟨e, he, _⟩
    · exact hk
    · cases he
  | cons e rest ih =>
    rw [List.foldl_cons]
    have hrest : ∀ e ∈ rest, m.lookup e.1 = some e.2 :=
      fun e' he' ↦ hes e' (List.mem_cons_of_mem _ he')
    by_cases hek : e.1 = k
    · -- this entry decides the key, and later entries of the key agree with it
      have hm : m.lookup k = some e.2 := hek ▸ hes e List.mem_cons_self
      have hlookup : (GoMap.insertValid acc e.1 (f e.1 e.2)).lookup k = (m.lookup k).bind (f k) := by
        rw [hm, Option.bind_some, hek]
        cases hf : f k e.2 with
        | some v => exact AList.lookup_insert _
        | none =>
          rw [hm, Option.bind_some, hf] at hacc
          exact hacc.elim id id
      exact ih _ hrest (Or.inr hlookup) (Or.inl hlookup)
    · have hlookup : (GoMap.insertValid acc e.1 (f e.1 e.2)).lookup k = acc.lookup k := by
        cases f e.1 e.2 with
        | some v => exact AList.lookup_insert_ne (Ne.symm hek)
        | none => rfl
      refine ih _ hrest (hlookup ▸ hacc) ?_
      rw [hlookup]
      refine hk.imp_right ?_
      rintro ⟨e', he', rfl⟩
      exact ⟨e', (List.mem_cons.mp he').resolve_left (fun h ↦ hek (h ▸ rfl)), rfl⟩

/-- A map filled from the `range` of another holds the images of its entries. -/
theorem lookup_fill {K V W : Type} [DecidableEq K] (m : GoMap K W) (o : RangeOrder K)
    (f : K → W → Option V) (k : K) :
    ((m.range o).foldl (fun acc e ↦ GoMap.insertValid acc e.1 (f e.1 e.2)) (∅ : GoMap K V)).lookup k =
      (m.lookup k).bind (f k) := by
  refine lookup_foldl_insert m f k _ ∅ (fun e he ↦ GoMap.mem_range.mp he) (Or.inl rfl) ?_
  cases hm : m.lookup k with
  | none => exact Or.inl rfl
  | some w => exact Or.inr ⟨(k, w), GoMap.mem_range.mpr hm, rfl⟩

/-! ### Caches built from rows -/

private theorem mem_appendAt {K V : Type} [DecidableEq K] {m : GoMap K (List V)} {k i : K}
    {v w : V} {l : List V} (h : (GoMap.appendAt m k v).lookup i = some l) (hw : w ∈ l) :
    w = v ∨ ∃ l', m.lookup i = some l' ∧ w ∈ l' := by
  unfold GoMap.appendAt at h
  by_cases hik : i = k
  · subst hik
    rw [AList.lookup_insert] at h
    obtain rfl := Option.some.inj h
    rcases List.mem_append.mp hw with hw | hw
    · cases hm : m.lookup i with
      | none => rw [hm] at hw; cases hw
      | some l' => rw [hm] at hw; exact .inr ⟨l', rfl, hw⟩
    · exact .inl (List.mem_singleton.mp hw)
  · rw [AList.lookup_insert_ne hik] at h
    exact .inr ⟨l, h, hw⟩

private theorem mem_appendAt_of_mem {K V : Type} [DecidableEq K] {m : GoMap K (List V)} {i : K}
    {w : V} {l : List V} (k : K) (v : V) (h : m.lookup i = some l) (hw : w ∈ l) :
    ∃ l', (GoMap.appendAt m k v).lookup i = some l' ∧ w ∈ l' := by
  unfold GoMap.appendAt
  by_cases hik : i = k
  · subst hik
    rw [AList.lookup_insert, h]
    exact ⟨_, rfl, List.mem_append_left _ hw⟩
  · rw [AList.lookup_insert_ne hik]
    exact ⟨l, h, hw⟩

private theorem listed_foldl_indexLink (links : List Link) {cache : TopologyCache} {i : String}
    {listed : List Link} {ln : Link}
    (h : (links.foldl indexLink cache).linksByInterface.lookup i = some listed)
    (hln : ln ∈ listed) :
    ln ∈ links ∨ ∃ l, cache.linksByInterface.lookup i = some l ∧ ln ∈ l := by
  induction links generalizing cache with
  | nil => exact .inr ⟨listed, h, hln⟩
  | cons link rest ih =>
    rcases ih h with hmem | ⟨l, hl, hmem⟩
    · exact .inl (List.mem_cons_of_mem _ hmem)
    · rcases mem_appendAt hl hmem with rfl | ⟨l', hl', hmem'⟩
      · exact .inl List.mem_cons_self
      · rcases mem_appendAt hl' hmem' with rfl | hold
        · exact .inl List.mem_cons_self
        · exact .inr hold

section Build

variable {devices : List Device} {links : List Link} {interfaces : List Interface}
  {tariffs : List Tariff} {hardwareModels : List HardwareModel} {portProfiles : List PortProfile}

/-- The built cache lists only links of the table. -/
theorem listed_buildTopologyCacheWithCatalog {i : String} {listed : List Link} {ln : Link}
    (h : (buildTopologyCacheWithCatalog devices links interfaces tariffs hardwareModels
      portProfiles).linksByInterface.lookup i = some listed) (hln : ln ∈ listed) : ln ∈ links := by
  rcases listed_foldl_indexLink links h hln with hmem | ⟨l, hl, _⟩
  · exact hmem
  · cases hl

/-- Every link of the table is listed under its interfaces. -/
theorem exists_listed_buildTopologyCacheWithCatalog {ln : Link} (h : ln ∈ links) :
    ∃ i listed, (buildTopologyCacheWithCatalog devices links interfaces tariffs hardwareModels
      portProfiles).linksByInterface.lookup i = some listed ∧ ln ∈ listed := by
  have hkeep : ∀ (rest : List Link) (cache : TopologyCache) (i : String) (listed : List Link),
      cache.linksByInterface.lookup i = some listed → ln ∈ listed →
        ∃ listed', (rest.foldl indexLink cache).linksByInterface.lookup i = some listed' ∧
          ln ∈ listed' := by
    intro rest
    induction rest with
    | nil =>
      intro cache i listed hi hmem
      exact ⟨listed, hi, hmem⟩
    | cons link rest ih =>
      intro cache i listed hi hmem
      obtain ⟨first, hfirst, hmem⟩ := mem_appendAt_of_mem link.aInterfaceId link hi hmem
      obtain ⟨second, hsecond, hmem⟩ := mem_appendAt_of_mem link.bInterfaceId link hfirst hmem
      exact ih (indexLink cache link) i second hsecond hmem
  obtain ⟨before, after, rfl⟩ := List.append_of_mem h
  unfold buildTopologyCacheWithCatalog
  rw [List.foldl_append, List.foldl_cons]
  refine ⟨ln.bInterfaceId, ?_⟩
  apply hkeep after _ _ _ (AList.lookup_insert _)
  exact List.mem_append_right _ (List.mem_singleton_self ln)

/-- Links only change what is indexed by links. -/
theorem foldl_indexLink_rows (links : List Link) (cache : TopologyCache) :
    (links.foldl indexLink cache).deviceByID = cache.deviceByID ∧
      (links.foldl indexLink cache).interfaceByID = cache.interfaceByID ∧
      (links.foldl indexLink cache).hardwareModelByID = cache.hardwareModelByID ∧
      (links.foldl indexLink cache).portProfilesByHardwareModel =
        cache.portProfilesByHardwareModel := by
  induction links generalizing cache with
  | nil => exact ⟨rfl, rfl, rfl, rfl⟩
  | cons link rest ih => exact ih (indexLink cache link)

/-- A cache that was built from the rows of a state, in any order, has its devices. -/
theorem lookup_deviceByID {db : Database} (h : devices.Perm db.devices) (id : String) :
    (buildTopologyCacheWithCatalog devices links interfaces tariffs hardwareModels
      portProfiles).deviceByID.lookup id = db.getDevice id := by
  have hlookup := lookup_foldl_rows (fun d : Device ↦ d) db.devices_nodup h id
  rw [Option.map_id'] at hlookup
  unfold buildTopologyCacheWithCatalog
  rw [(foldl_indexLink_rows links _).1]
  exact hlookup

/-- The cached interfaces are the rows. -/
theorem lookup_interfaceByID {db : Database} (h : interfaces.Perm db.interfaces) (id : String) :
    (buildTopologyCacheWithCatalog devices links interfaces tariffs hardwareModels
      portProfiles).interfaceByID.lookup id = db.getInterface id := by
  have hlookup := lookup_foldl_rows (fun i : Interface ↦ i) db.interfaces_nodup h id
  rw [Option.map_id'] at hlookup
  unfold buildTopologyCacheWithCatalog
  rw [(foldl_indexLink_rows links _).2.1]
  exact hlookup

end Build

end Unoc.Traffic
