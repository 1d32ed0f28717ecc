import Unoc.Traffic.AnchorPath

/-!
# Pairs of devices as keys

`makePairKey` joins two sorted device ids with a bar. An id may contain a bar itself, so that two
pairs of devices may share one entry of `LinkByPair`.
-/

namespace Unoc.Traffic

open Unoc.Model

/-! ### Lookups -/

section Defs

variable (o : AdjacencyOrders) (cache : TopologyCache)

/-- An id under which the cache knows a device, or which an interface gives for its device. -/
def IsDevice (id : String) : Prop :=
  (cache.deviceByID.lookup id).isSome = true ∨
    ∃ i iface, cache.interfaceByID.lookup i = some iface ∧ iface.deviceId = id

/-- A link between two devices that some interface lists and that can be passed. -/
structure PassableBetween (ln : Link) (a b : String) : Prop where
  listed : ∃ i links, cache.linksByInterface.lookup i = some links ∧ ln ∈ links
  passable : passable cache ln = true
  joins : Joins cache ln a b

/-- What `GetLinkBetween` answers for a pair of devices is a link between them, and nothing for
devices that are no neighbours. -/
structure LinkLookup (g : AdjacencyGraph) (a b : String) : Prop where
  comm : g.getLinkBetween a b = g.getLinkBetween b a
  neighbors : b ∈ (g.neighbors.lookup a).getD ∅ →
    ∃ ln, PassableBetween cache ln a b ∧ g.getLinkBetween a b = ln.id
  others : b ∉ (g.neighbors.lookup a).getD ∅ → g.getLinkBetween a b = ""

/-- The link whose id the entry of its pair keeps. -/
def LastOfKey (ln : Link) : Prop :=
  ((visitedLinks o cache).filter (decides cache (pairKey cache ln))).getLast? = some ln

/-- A link that keeps an entry joins every pair of devices with this key, or its id is no wrong
answer for the pair. -/
def KeysApart : Prop :=
  ∀ ln, LastOfKey o cache ln → ∀ a b, IsDevice cache a → IsDevice cache b →
    makePairKey a b = pairKey cache ln →
      Joins cache ln a b ∨ (∃ m, PassableBetween cache m a b ∧ m.id = ln.id) ∨
        ¬ Adjacent cache a b ∧ ln.id = ""

end Defs

variable {o : AdjacencyOrders} {cache : TopologyCache} {a b : String} {ln : Link}

private theorem adjacent_iff : Adjacent cache a b ↔ ∃ ln, PassableBetween cache ln a b := by
  constructor
  · rintro ⟨i, links, ln, hi, hln, hpass, hjoins⟩
    exact ⟨ln, ⟨i, links, hi, hln⟩, hpass, hjoins⟩
  · rintro ⟨ln, ⟨i, links, hi, hln⟩, hpass, hjoins⟩
    exact ⟨i, links, ln, hi, hln, hpass, hjoins⟩

/-- A link has the key of the pair that it joins. -/
theorem pairKey_of_joins (h : Joins cache ln a b) : pairKey cache ln = makePairKey a b := by
  unfold pairKey
  rcases h with ⟨ha, hb⟩ | ⟨ha, hb⟩
  · rw [ha, hb]
  · rw [ha, hb, makePairKey_comm]

private theorem getLinkBetween_comm (g : AdjacencyGraph) (a b : String) :
    g.getLinkBetween a b = g.getLinkBetween b a := by
  rw [AdjacencyGraph.getLinkBetween, AdjacencyGraph.getLinkBetween, makePairKey_comm]

/-- The entry of a pair is the id of the last passable link with its key. -/
theorem getLinkBetween_eq (o : AdjacencyOrders) (cache : TopologyCache) (a b : String) :
    (buildAdjacency o cache).getLinkBetween a b =
      (((visitedLinks o cache).filter (decides cache (makePairKey a b))).getLast?.map Link.id).getD
        "" := by
  rw [AdjacencyGraph.getLinkBetween, lookup_linkByPair_buildAdjacency]

/-- The last passable link with a key keeps the entry. -/
theorem lastOfKey_of_getLast?
    (h : ((visitedLinks o cache).filter (decides cache (makePairKey a b))).getLast? = some ln) :
    LastOfKey o cache ln ∧ passable cache ln = true ∧ pairKey cache ln = makePairKey a b ∧
      ∃ i links, cache.linksByInterface.lookup i = some links ∧ ln ∈ links := by
  obtain ⟨hvisited, hdecides⟩ := List.mem_filter.mp (List.mem_of_getLast? h)
  obtain ⟨hpass, hkey⟩ : passable cache ln = true ∧ pairKey cache ln = makePairKey a b := by
    simpa [decides] using hdecides
  refine ⟨?_, hpass, hkey, mem_visitedLinks.mp hvisited⟩
  rw [LastOfKey, hkey]
  exact h

/-- Neighbours have a last link with their key. -/
theorem exists_getLast?_of_adjacent (h : Adjacent cache a b) :
    ∃ ln, ((visitedLinks o cache).filter (decides cache (makePairKey a b))).getLast? = some ln := by
  obtain ⟨m, hlisted, hpass, hjoins⟩ := adjacent_iff.mp h
  have hmem : m ∈ (visitedLinks o cache).filter (decides cache (makePairKey a b)) := by
    rw [List.mem_filter]
    refine ⟨mem_visitedLinks.mpr hlisted, ?_⟩
    simp [decides, hpass, pairKey_of_joins hjoins]
  exact ⟨_, List.getLast?_eq_some_getLast (List.ne_nil_of_mem hmem)⟩

/-- The lookups of all pairs are right exactly if no two pairs get into each other's way. -/
theorem getLinkBetween_right_iff :
    (∀ a b, IsDevice cache a → IsDevice cache b →
      LinkLookup cache (buildAdjacency o cache) a b) ↔ KeysApart o cache := by
  constructor
  · intro h ln hlast a b ha hb hkey
    have hlookup : (buildAdjacency o cache).getLinkBetween a b = ln.id := by
      rw [getLinkBetween_eq, hkey, hlast]
      rfl
    by_cases hadj : Adjacent cache a b
    · have hnb := (mem_neighbors_buildAdjacency o cache a b).mpr hadj
      obtain ⟨m, hm, hid⟩ := (h a b ha hb).neighbors hnb
      exact .inr (.inl ⟨m, hm, hid.symm.trans hlookup⟩)
    · have hnb := mt (mem_neighbors_buildAdjacency o cache a b).mp hadj
      exact .inr (.inr ⟨hadj, hlookup.symm.trans ((h a b ha hb).others hnb)⟩)
  · intro h a b ha hb
    refine ⟨getLinkBetween_comm _ a b, fun hnb ↦ ?_, fun hnb ↦ ?_⟩
    · have hadj := (mem_neighbors_buildAdjacency o cache a b).mp hnb
      obtain ⟨ln, hln⟩ := exists_getLast?_of_adjacent (o := o) hadj
      obtain ⟨hlast, hpass, hkey, hlisted⟩ := lastOfKey_of_getLast? hln
      have hlookup : (buildAdjacency o cache).getLinkBetween a b = ln.id := by
        rw [getLinkBetween_eq, hln]
        rfl
      rcases h ln hlast a b ha hb hkey.symm with hjoins | ⟨m, hm, hid⟩ | ⟨hnot, _⟩
      · exact ⟨ln, ⟨hlisted, hpass, hjoins⟩, hlookup⟩
      · exact ⟨m, hm, hlookup.trans hid.symm⟩
      · exact absurd hadj hnot
    · have hadj := mt (mem_neighbors_buildAdjacency o cache a b).mpr hnb
      rw [getLinkBetween_eq]
      cases hln : ((visitedLinks o cache).filter (decides cache (makePairKey a b))).getLast? with
      | none => rfl
      | some ln =>
        obtain ⟨hlast, hpass, hkey, hlisted⟩ := lastOfKey_of_getLast? hln
        rcases h ln hlast a b ha hb hkey.symm with hjoins | ⟨m, hm, _⟩ | ⟨_, hid⟩
        · exact absurd (adjacent_iff.mpr ⟨ln, hlisted, hpass, hjoins⟩) hadj
        · exact absurd (adjacent_iff.mpr ⟨m, hm⟩) hadj
        · exact hid

/-- Among links with ids of their own that are not empty, each link that keeps an entry has to join
every pair of devices with its key. -/
theorem keysApart_iff_joins
    (hunique : ∀ ln ∈ visitedLinks o cache, ∀ m ∈ visitedLinks o cache, ln.id = m.id → ln = m)
    (hnamed : ∀ ln ∈ visitedLinks o cache, ln.id ≠ "") :
    KeysApart o cache ↔ ∀ ln, LastOfKey o cache ln → ∀ a b, IsDevice cache a → IsDevice cache b →
      makePairKey a b = pairKey cache ln → Joins cache ln a b := by
  constructor
  · intro h ln hlast a b ha hb hkey
    have hln : ln ∈ visitedLinks o cache := (List.mem_filter.mp (List.mem_of_getLast? hlast)).1
    rcases h ln hlast a b ha hb hkey with hjoins | ⟨m, hm, hid⟩ | ⟨_, hid⟩
    · exact hjoins
    · rw [← hunique m (mem_visitedLinks.mpr hm.listed) ln hln hid]
      exact hm.joins
    · exact absurd hid (hnamed ln hln)
  · intro h ln hlast a b ha hb hkey
    exact .inl (h ln hlast a b ha hb hkey)

/-! ### Ids without a bar -/

/-- A bar separates two ids that do not contain it. -/
theorem append_bar_inj {a b c d : String} (ha : '|' ∉ a.toList) (hb : '|' ∉ b.toList)
    (h : a ++ "|" ++ b = c ++ "|" ++ d) : a = c ∧ b = d := by
  have hchars : a.toList ++ '|' :: b.toList = c.toList ++ '|' :: d.toList := by
    simpa [String.toList_append] using congrArg String.toList h
  obtain ⟨hac, _, hbd⟩ := (List.append_cons_inj_of_notMem ha hb).mp hchars
  exact ⟨String.toList_inj.mp hac, String.toList_inj.mp hbd⟩

/-- A pair of ids without a bar is read back from the key. -/
theorem makePairKey_inj {a b c d : String} (ha : '|' ∉ a.toList) (hb : '|' ∉ b.toList)
    (h : makePairKey a b = makePairKey c d) :
    (a = c ∧ b = d) ∨ (a = d ∧ b = c) := by
  unfold makePairKey at h
  split at h <;> split at h
  · exact .inl (append_bar_inj ha hb h)
  · exact .inr (append_bar_inj ha hb h)
  · exact .inr (append_bar_inj hb ha h).symm
  · exact .inl (append_bar_inj hb ha h).symm

/-- Without a bar in the ids no two pairs get into each other's way, in any order of the links. -/
theorem keysApart_of_no_bar (h : ∀ id, IsDevice cache id → '|' ∉ id.toList) :
    KeysApart o cache := by
  intro ln _ a b ha hb hkey
  rcases makePairKey_inj (h a ha) (h b hb) hkey with
    ⟨rfl, rfl⟩ | ⟨rfl, rfl⟩
  · exact .inl (.inl ⟨rfl, rfl⟩)
  · exact .inl (.inr ⟨rfl, rfl⟩)

/-! ### A shared key -/

/-- `a|b` is linked to `c`, and `a` to `b|c`. -/
def barredCache : TopologyCache :=
  buildTopologyCacheWithCatalog
    [{ id := "a|b", type := .edgeRouter }, { id := "c", type := .coreRouter },
      { id := "a", type := .edgeRouter }, { id := "b|c", type := .coreRouter }]
    [{ id := "l1", aInterfaceId := "i1", bInterfaceId := "i2" },
      { id := "l2", aInterfaceId := "i3", bInterfaceId := "i4" }]
    [{ id := "i1", deviceId := "a|b", name := "eth0" },
      { id := "i2", deviceId := "c", name := "eth0" },
      { id := "i3", deviceId := "a", name := "eth0" },
      { id := "i4", deviceId := "b|c", name := "eth0" }] [] [] []

/-- Ascending keys in all loops. -/
def ascendingAdjacency : AdjacencyOrders := ⟨.ascending, .ascending, .ascending⟩

/-- Between `a|b` and `c` the link of the other pair is found. -/
theorem barredCache_wrongLink :
    ¬ ∀ a b, IsDevice barredCache a → IsDevice barredCache b →
      LinkLookup barredCache (buildAdjacency ascendingAdjacency barredCache) a b := by
  intro h
  have hlookup := h "a|b" "c" (.inl (by decide +kernel)) (.inl (by decide +kernel))
  obtain ⟨ln, ⟨hlisted, _, hjoins⟩, hid⟩ := hlookup.neighbors (by decide +kernel)
  have hall : ∀ m ∈ visitedLinks ascendingAdjacency barredCache,
      m.id = (buildAdjacency ascendingAdjacency barredCache).getLinkBetween "a|b" "c" →
        ifaceDevice barredCache m.aInterfaceId ≠ "a|b" ∧
          ifaceDevice barredCache m.bInterfaceId ≠ "a|b" := by
    decide +kernel
  obtain ⟨ha, hb⟩ := hall ln (mem_visitedLinks.mpr hlisted) hid.symm
  rcases hjoins with ⟨hA, _⟩ | ⟨_, hB⟩
  · exact ha hA
  · exact hb hB

end Unoc.Traffic
