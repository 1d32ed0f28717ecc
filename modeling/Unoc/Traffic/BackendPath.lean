import Unoc.Base.SortedBfs
import Unoc.Forwarding.FlowPath
import Unoc.Traffic.BackendGraph
import Unoc.Traffic.Generation

/-!
# Paths of the backend's leaves

`bfs_pick_anchor` of `backend/services/traffic/v2_path.py:43–185`: a search over sorted neighbours
that goes on until its queue is empty, the preferred anchor among the devices that it has seen, and
the path along the parents. Where it has seen no anchor, the forwarding tables are asked. Its path
is the least one to an anchor of the best class, whatever the order of the rows; and a leaf never
gets a path from the forwarding tables.
-/

namespace Unoc.Traffic.Backend

open Unoc.Base
open Unoc.Model
open Unoc.Forwarding (FlowPath HopMetadata)
open Unoc.Status (topology linkEnds isLinkPassable truthy truthy_some)

/-! ### The search -/

/-- The anchors that were found, empty while unset; `v2_path.py:68–71`. -/
structure Found where
  anchor : String := ""
  core : String := ""
  backbone : String := ""
  pop : String := ""
  deriving DecidableEq, Repr

/-- `anchor_to_use`; `v2_path.py:100`. -/
def Found.anchorToUse (f : Found) : String :=
  firstAnchor (firstAnchor (firstAnchor f.backbone f.core) f.pop) f.anchor

/-- The variables of the queue loop; `v2_path.py:66–71`. -/
structure Search where
  parents : Dict String (Option String)
  q : List String
  found : Found := {}

/-- The arguments of `bfs_pick_anchor` but for the start; `v2_path.py:43–50`. -/
structure Paths where
  deviceNeighbors : Dict String (Finset String)
  linkByPair : Dict (Finset String) String
  allowedDeviceIds : Finset String
  devTypeById : Dict String DeviceType
  anchorTypes : DeviceType → Bool

namespace Paths

variable (g : Paths)

/-- The anchors after a device is dequeued; `v2_path.py:75–89`. -/
def track (startId : String) (f : Found) (cur : String) : Found :=
  match g.devTypeById.lookup cur with
  | none => f
  | some dt =>
    if cur = startId then f
    else
      { anchor := if g.anchorTypes dt then firstAnchor f.anchor cur else f.anchor
        core := if dt = .coreSite ∨ dt = .coreRouter then firstAnchor f.core cur else f.core
        backbone := if g.anchorTypes dt ∧ dt = .backboneGateway then firstAnchor f.backbone cur
          else f.backbone
        pop := if g.anchorTypes dt ∧ dt = .pop then firstAnchor f.pop cur else f.pop }

/-- The body of the neighbour loop; `v2_path.py:91–97`. -/
def visit (cur : String) (st : Search) (nb : String) : Search :=
  if (st.parents.lookup nb).isSome then st
  else if nb ∉ g.allowedDeviceIds then st
  else { st with parents := st.parents.insert nb (some cur), q := st.q ++ [nb] }

/-- `sorted(device_neighbors.get(cur, set()))`. -/
def sortedNeighbors (cur : String) : List String :=
  RangeOrder.ascending.keys ((g.deviceNeighbors.lookup cur).getD ∅)

/-- The queue loop. A device is queued once; `v2_path.py:73–97`. -/
def searchLoop (startId : String) : Nat → Search → Search
  | 0, st => st
  | fuel + 1, st =>
    match st.q with
    | [] => st
    | cur :: rest =>
      searchLoop startId fuel ((g.sortedNeighbors cur).foldl (g.visit cur)
        { st with q := rest, found := g.track startId st.found cur })

/-- The variables when the loop ends. -/
def search (startId : String) : Search :=
  g.searchLoop startId (g.allowedDeviceIds.card + 1)
    { parents := AList.insert startId none ∅, q := [startId] }

/-- The loop over the parents, last device first; `v2_path.py:166–169`. -/
def backwards (parents : Dict String (Option String)) : Nat → Option String → List String
  | 0, _ => []
  | _ + 1, none => []
  | fuel + 1, some x => x :: backwards parents fuel (parents.lookup x).join

/-- `path_nodes2`; `v2_path.py:164–175`. -/
def pathNodes (startId : String) (st : Search) : List String :=
  let path := (backwards st.parents st.parents.keys.length (some st.found.anchorToUse)).reverse
  if path.head? = some startId then path
  else if path.getLast? = some startId then path.reverse
  else [startId]

/-- The link between two devices, if it has an id. -/
def linkOf (e : String × String) : Option String := truthy (g.linkByPair.lookup {e.1, e.2})

/-- `path_links2`; `v2_path.py:177–183`. -/
def pathLinks (path : List String) : List String := (steps path).filterMap g.linkOf

/-! ### The forwarding tables -/

/-- Note a device id that is allowed and new; `v2_path.py:123–125,131–133`. -/
def addDevice (pathNodes : List String) (devId : String) : List String :=
  if devId ≠ "" ∧ devId ∈ g.allowedDeviceIds ∧ devId ∉ pathNodes then pathNodes ++ [devId]
  else pathNodes

/-- Note a link id that is new; `v2_path.py:134–136,157–159`. -/
def addLinkId (pathLinks : List String) (lid : Option String) : List String :=
  match truthy lid with
  | none => pathLinks
  | some l => if l ∈ pathLinks then pathLinks else pathLinks ++ [l]

/-- A device of an anchor type other than the start. -/
def isTrueAnchor (startId id : String) : Bool :=
  (g.devTypeById.lookup id).any g.anchorTypes && id ≠ startId

/-- The path that forwarding gives, if it may be taken; `v2_path.py:104–149`. -/
def forwardingPath (resolve : Forwarding.Flow → FlowPath) (startId : String) : List String × List String :=
  let res := resolve ⟨"10.0.0.1", "192.0.2.1", startId, some (startId ++ "-if0")⟩
  let nodes := (res.hops.map Forwarding.Flow.currentDeviceId).foldl g.addDevice [startId]
  let nodes := (res.hopMetadata.map HopMetadata.deviceId).foldl g.addDevice nodes
  let links := (res.hopMetadata.map HopMetadata.linkIdToNext).foldl addLinkId []
  if nodes.any (g.isTrueAnchor startId) then (nodes, links)
  else if g.devTypeById.entries.any (fun e ↦ g.anchorTypes e.2) then ([startId], [])
  else (nodes, links)

/-- The answer without an anchor; `v2_path.py:102–162`. -/
def fallback (resolve : Forwarding.Flow → FlowPath) (startId : String) : List String × List String :=
  let path := g.forwardingPath resolve startId
  (path.1, ((steps path.1).map (fun e ↦ g.linkByPair.lookup {e.1, e.2})).foldl addLinkId path.2)

/-- `bfs_pick_anchor`; `v2_path.py:43–185`. -/
def bfsPickAnchor (resolve : Forwarding.Flow → FlowPath) (startId : String) : List String × List String :=
  if (g.search startId).found.anchorToUse = "" then g.fallback resolve startId
  else
    let path := pathNodes startId (g.search startId)
    (path, g.pathLinks path)

/-! ### What the search is for -/

/-- The search goes from a device to an allowed neighbour. -/
def Enters (u v : String) : Prop :=
  v ∈ (g.deviceNeighbors.lookup u).getD ∅ ∧ v ∈ g.allowedDeviceIds

/-- The class of an anchor, lower first: backbone, core, POP, any other. -/
def anchorClass (dt : DeviceType) : Option Nat :=
  if g.anchorTypes dt ∧ dt = .backboneGateway then some 0
  else if dt = .coreSite ∨ dt = .coreRouter then some 1
  else if g.anchorTypes dt ∧ dt = .pop then some 2
  else if g.anchorTypes dt then some 3
  else none

/-- The class of a device as an anchor for another. -/
def rankOf (startId v : String) : Option Nat :=
  if v = startId ∨ v = "" then none else (g.devTypeById.lookup v).bind g.anchorClass

variable {g} {startId : String}

/-! ### The neighbour loop -/

/-- The devices that are entered from a device. -/
def next (g : Paths) (u : String) : List String :=
  (g.sortedNeighbors u).filter (fun v ↦ v ∈ g.allowedDeviceIds)

private theorem mem_next {u v : String} : v ∈ g.next u ↔ g.Enters u v := by
  unfold next Enters sortedNeighbors
  rw [List.mem_filter, RangeOrder.ascending.mem_keys]
  simp

private theorem pairwise_ascending (ids : Finset String) :
    (RangeOrder.ascending.keys ids).Pairwise (· ≤ ·) := by
  cases ids with
  | mk l hl =>
    induction l using Quotient.inductionOn with
    | h l => exact List.pairwise_insertionSort _ l

private theorem sorted_next (u : String) : (g.next u).Pairwise (· < ·) := by
  have hnodup := RangeOrder.ascending.nodup ((g.deviceNeighbors.lookup u).getD ∅)
  have hboth := (pairwise_ascending ((g.deviceNeighbors.lookup u).getD ∅)).and hnodup
  exact (hboth.imp (fun h ↦ lt_of_le_of_ne h.1 h.2)).filter _

/-- The neighbour loop queues the allowed neighbours that are new, below the dequeued device. -/
theorem foldl_visit (cur : String) (nbs : List String) (hnodup : nbs.Nodup) (st : Search) :
    (nbs.foldl (g.visit cur) st).q = st.q ++ nbs.filter (fun v ↦
        v ∈ g.allowedDeviceIds ∧ st.parents.lookup v = none) ∧
      (∀ v, (nbs.foldl (g.visit cur) st).parents.lookup v =
        if v ∈ nbs ∧ v ∈ g.allowedDeviceIds ∧ st.parents.lookup v = none then some (some cur)
        else st.parents.lookup v) ∧
      (nbs.foldl (g.visit cur) st).found = st.found := by
  induction nbs generalizing st with
  | nil => simp
  | cons nb nbs ih =>
    have ⟨hnb, hnbs⟩ := List.nodup_cons.mp hnodup
    rw [List.foldl_cons]
    have ⟨hq, hparents, hfound⟩ := ih hnbs (g.visit cur st nb)
    rw [hq, hfound]
    by_cases hnew : nb ∈ g.allowedDeviceIds ∧ st.parents.lookup nb = none
    · have hvisit : g.visit cur st nb =
          { st with parents := st.parents.insert nb (some cur), q := st.q ++ [nb] } := by
        unfold visit
        rw [hnew.2, if_neg (by simp), if_neg (not_not.mpr hnew.1)]
      rw [hvisit] at hparents ⊢
      refine ⟨?_, ?_, rfl⟩
      · rw [List.filter_cons_of_pos (by simpa using hnew), List.append_assoc]
        rw [List.singleton_append]
        congr 2
        apply List.filter_congr
        intro v hv
        dsimp only
        have hne : v ≠ nb := fun heq ↦ hnb (heq ▸ hv)
        rw [AList.lookup_insert_ne hne]
      · intro v
        rw [hparents]
        by_cases hv : v = nb
        · subst hv
          simp [AList.lookup_insert, hnew]
        · rw [AList.lookup_insert_ne hv]
          simp [hv]
    · have hvisit : g.visit cur st nb = st := by
        unfold visit
        split
        · rfl
        · next hknown =>
          rw [if_pos]
          intro hallowed
          exact hnew ⟨hallowed, Option.not_isSome_iff_eq_none.mp hknown⟩
      rw [hvisit] at hparents ⊢
      refine ⟨?_, ?_, rfl⟩
      · rw [List.filter_cons_of_neg (by simpa using hnew)]
      · intro v
        rw [hparents]
        by_cases hv : v = nb
        · subst hv
          rw [if_neg (fun h ↦ hnew h.2), if_neg (fun h ↦ hnew h.2)]
        · simp [hv]

/-! ### The queue loop -/

/-- The loop after some devices have left the queue. -/
structure SearchInv (g : Paths) (startId : String) (popped : List String) (st : Search) : Prop where
  search : Bfs.Inv g.next startId (popped ++ st.q) popped.length (fun v ↦ (st.parents.lookup v).join)
  known : ∀ v, (st.parents.lookup v).isSome ↔ v ∈ popped ++ st.q
  allowed : ∀ v ∈ popped ++ st.q, v ≠ startId → v ∈ g.allowedDeviceIds
  found : st.found = popped.foldl (g.track startId) {}

private theorem searchInv_start (g : Paths) (startId : String) :
    g.SearchInv startId [] { parents := AList.insert startId none ∅, q := [startId] } where
  search := by
    have hparent : (fun v ↦ ((AList.insert startId none ∅ : Dict String (Option String)).lookup
        v).join) = fun _ ↦ none := by
      funext v
      by_cases hv : v = startId
      · rw [hv, AList.lookup_insert]
        rfl
      · rw [AList.lookup_insert_ne hv]
        rfl
    rw [hparent]
    exact Bfs.inv_init _ _
  known v := by
    rw [AList.lookup_isSome, AList.mem_insert]
    simp
  allowed v hv hne := by
    simp only [List.nil_append, List.mem_singleton] at hv
    exact absurd hv hne
  found := rfl

private theorem SearchInv.step {popped rest : List String} {cur : String} {st : Search}
    (h : g.SearchInv startId popped st) (hq : st.q = cur :: rest) :
    g.SearchInv startId (popped ++ [cur]) ((g.sortedNeighbors cur).foldl (g.visit cur)
      { st with q := rest, found := g.track startId st.found cur }) := by
  have ⟨hq', hparents, hfound⟩ := foldl_visit (g := g) cur (g.sortedNeighbors cur)
    (RangeOrder.ascending.nodup _) { st with q := rest, found := g.track startId st.found cur }
  generalize (g.sortedNeighbors cur).foldl (g.visit cur) _ = st' at hq' hparents hfound ⊢
  dsimp only at hq' hparents hfound
  have hnew : ∀ v, st.parents.lookup v = none ↔ v ∉ popped ++ st.q := by
    intro v
    rw [← h.known, Option.not_isSome_iff_eq_none]
  have hfresh : (g.sortedNeighbors cur).filter (fun v ↦
      v ∈ g.allowedDeviceIds ∧ st.parents.lookup v = none) =
        Bfs.fresh g.next (popped ++ st.q) cur := by
    unfold Bfs.fresh next
    rw [List.filter_filter]
    apply List.filter_congr
    intro v _
    rw [Bool.eq_iff_iff]
    simp only [hnew, decide_eq_true_eq, Bool.and_eq_true]
    exact and_comm
  have horder : popped ++ [cur] ++ st'.q = popped ++ st.q ++ Bfs.fresh g.next (popped ++ st.q) cur := by
    rw [hq', hfresh, hq]
    simp
  have hmem : ∀ v, v ∈ Bfs.fresh g.next (popped ++ st.q) cur ↔
      v ∈ g.sortedNeighbors cur ∧ v ∈ g.allowedDeviceIds ∧ st.parents.lookup v = none := by
    intro v
    rw [← hfresh]
    simp
  have hhead : (popped ++ st.q)[popped.length]? = some cur := by
    rw [hq]
    simp
  constructor
  · have hparent : (fun v ↦ (st'.parents.lookup v).join) =
        Bfs.adopt g.next (popped ++ st.q) cur (fun v ↦ (st.parents.lookup v).join) := by
      funext v
      rw [hparents, Bfs.adopt]
      by_cases hv : v ∈ Bfs.fresh g.next (popped ++ st.q) cur
      · rw [if_pos hv, if_pos ((hmem v).mp hv)]
        rfl
      · rw [if_neg hv, if_neg (fun hcond ↦ hv ((hmem v).mpr hcond))]
    rw [horder, hparent, List.length_append, List.length_singleton]
    exact h.search.step hhead ((sorted_next cur).imp (fun hlt ↦ ne_of_lt hlt))
  · intro v
    rw [horder, hparents, List.mem_append, hmem, ← h.known]
    split
    · next hcond => simp [hcond]
    · next hcond => simp [hcond]
  · intro v hv hne
    rw [horder] at hv
    cases List.mem_append.mp hv with
    | inl hv => exact h.allowed v hv hne
    | inr hv => exact ((hmem v).mp hv).2.1
  · rw [hfound, h.found, List.foldl_append]
    rfl

/-- A device is queued once, and but for the start only if it is allowed. -/
theorem SearchInv.length_le {popped : List String} {st : Search} (h : g.SearchInv startId popped st) :
    (popped ++ st.q).length ≤ g.allowedDeviceIds.card + 1 := by
  have hsub : (popped ++ st.q).toFinset ⊆ insert startId g.allowedDeviceIds := by
    intro v hv
    rw [List.mem_toFinset] at hv
    by_cases hne : v = startId
    · rw [hne]
      exact Finset.mem_insert_self _ _
    · exact Finset.mem_insert_of_mem (h.allowed v hv hne)
  have hcard := Finset.card_le_card hsub
  rw [List.toFinset_card_of_nodup h.search.nodup] at hcard
  exact hcard.trans (Finset.card_insert_le _ _)

private theorem SearchInv.run (fuel : Nat) : ∀ {popped : List String} {st : Search},
    g.SearchInv startId popped st → g.allowedDeviceIds.card + 1 ≤ fuel + popped.length →
      ∃ order, g.SearchInv startId order (g.searchLoop startId fuel st) ∧
        (g.searchLoop startId fuel st).q = [] := by
  induction fuel with
  | zero =>
    intro popped st h hfuel
    have hle := h.length_le
    rw [List.length_append] at hle
    have hnil : st.q.length = 0 := by omega
    exact ⟨popped, h, List.length_eq_zero_iff.mp hnil⟩
  | succ fuel ih =>
    intro popped st h hfuel
    unfold searchLoop
    cases hq : st.q with
    | nil => exact ⟨popped, h, hq⟩
    | cons cur rest =>
      apply ih (h.step hq)
      rw [List.length_append, List.length_singleton]
      omega

/-- The search ends with an empty queue. -/
theorem exists_searchInv (g : Paths) (startId : String) :
    ∃ order, Bfs.Inv g.next startId order order.length
        (fun v ↦ ((g.search startId).parents.lookup v).join) ∧
      (∀ v, ((g.search startId).parents.lookup v).isSome ↔ v ∈ order) ∧
      (g.search startId).found = order.foldl (g.track startId) {} := by
  have ⟨order, h, hq⟩ := (searchInv_start g startId).run (g.allowedDeviceIds.card + 1) (by simp)
  have hsearch := h.search
  have hknown := h.known
  rw [hq, List.append_nil] at hsearch hknown
  exact ⟨order, hsearch, hknown, h.found⟩

/-! ### The chosen anchor -/

/-- A loop that keeps the first device it meets of a kind. -/
theorem foldl_firstAnchor (keep : String → Bool) (ids : List String) (a : String) :
    ids.foldl (fun a v ↦ if keep v then firstAnchor a v else a) a =
      firstAnchor a ((ids.find? (fun v ↦ keep v && v ≠ "")).getD "") := by
  induction ids generalizing a with
  | nil =>
    unfold firstAnchor
    split
    · next h => simp [h]
    · rfl
  | cons v ids ih =>
    rw [List.foldl_cons, ih]
    by_cases hkeep : keep v = true
    · rw [if_pos hkeep]
      by_cases hv : v = ""
      · rw [List.find?_cons_of_neg (by simp [hv])]
        subst hv
        unfold firstAnchor
        split <;> simp_all
      · rw [List.find?_cons_of_pos (by simp [hkeep, hv])]
        unfold firstAnchor
        split <;> simp_all
    · rw [if_neg hkeep, List.find?_cons_of_neg (by simp [hkeep])]

/-- A device other than the start whose type satisfies a test. -/
def isKind (g : Paths) (startId : String) (kind : DeviceType → Bool) (v : String) : Bool :=
  v ≠ startId && (g.devTypeById.lookup v).any kind

/-- The first device of a kind that has a proper id. -/
def firstOfKind (g : Paths) (startId : String) (kind : DeviceType → Bool) (ids : List String) :
    String :=
  (ids.find? (fun v ↦ g.isKind startId kind v && v ≠ "")).getD ""

private theorem foldl_track (ids : List String) : ids.foldl (g.track startId) {} =
    { anchor := g.firstOfKind startId g.anchorTypes ids
      core := g.firstOfKind startId (fun dt ↦ dt = .coreSite ∨ dt = .coreRouter) ids
      backbone := g.firstOfKind startId (fun dt ↦ g.anchorTypes dt ∧ dt = .backboneGateway) ids
      pop := g.firstOfKind startId (fun dt ↦ g.anchorTypes dt ∧ dt = .pop) ids } := by
  have htrack : ∀ (f : Found) (v : String), g.track startId f v =
      { anchor := if g.isKind startId g.anchorTypes v then firstAnchor f.anchor v else f.anchor
        core := if g.isKind startId (fun dt ↦ dt = .coreSite ∨ dt = .coreRouter) v
          then firstAnchor f.core v else f.core
        backbone := if g.isKind startId (fun dt ↦ g.anchorTypes dt ∧ dt = .backboneGateway) v
          then firstAnchor f.backbone v else f.backbone
        pop := if g.isKind startId (fun dt ↦ g.anchorTypes dt ∧ dt = .pop) v
          then firstAnchor f.pop v else f.pop } := by
    intro f v
    unfold track isKind
    cases g.devTypeById.lookup v with
    | none => simp
    | some dt =>
      by_cases hv : v = startId
      · simp [hv]
      · simp [hv]
  have hfields : ∀ f : Found, ids.foldl (g.track startId) f =
      { anchor := ids.foldl (fun a v ↦ if g.isKind startId g.anchorTypes v then firstAnchor a v
          else a) f.anchor
        core := ids.foldl (fun a v ↦
          if g.isKind startId (fun dt ↦ dt = .coreSite ∨ dt = .coreRouter) v
            then firstAnchor a v else a) f.core
        backbone := ids.foldl (fun a v ↦
          if g.isKind startId (fun dt ↦ g.anchorTypes dt ∧ dt = .backboneGateway) v
            then firstAnchor a v else a) f.backbone
        pop := ids.foldl (fun a v ↦ if g.isKind startId (fun dt ↦ g.anchorTypes dt ∧ dt = .pop) v
          then firstAnchor a v else a) f.pop } := by
    induction ids with
    | nil => exact fun _ ↦ rfl
    | cons v ids ih =>
      intro f
      rw [List.foldl_cons, ih, htrack]
      rfl
  have hunset : ∀ a : String, firstAnchor "" a = a := fun a ↦ if_pos rfl
  rw [hfields]
  simp only [foldl_firstAnchor, hunset]
  rfl

/-- The kind of an anchor class. -/
def kindOf (g : Paths) : Nat → DeviceType → Bool
  | 0 => fun dt ↦ g.anchorTypes dt ∧ dt = .backboneGateway
  | 1 => fun dt ↦ dt = .coreSite ∨ dt = .coreRouter
  | 2 => fun dt ↦ g.anchorTypes dt ∧ dt = .pop
  | _ => g.anchorTypes

/-- A device is of a class if it is of its kind and of no better one. -/
theorem rankOf_eq_some {v : String} {r : Nat} (hr : r < 4) : g.rankOf startId v = some r ↔
    v ≠ "" ∧ g.isKind startId (g.kindOf r) v = true ∧
      ∀ r' < r, g.isKind startId (g.kindOf r') v = false := by
  unfold rankOf isKind
  by_cases hstart : v = startId
  · simp [hstart]
  · by_cases hempty : v = ""
    · simp [hempty]
    · rw [if_neg (by simp [hstart, hempty])]
      cases g.devTypeById.lookup v with
      | none => simp
      | some dt =>
        have hclass : g.anchorClass dt = some r ↔
            g.kindOf r dt = true ∧ ∀ r' < r, g.kindOf r' dt = false := by
          unfold anchorClass
          have hcases : r = 0 ∨ r = 1 ∨ r = 2 ∨ r = 3 := by omega
          rcases hcases with rfl | rfl | rfl | rfl
          all_goals simp only [Nat.forall_lt_succ_right, Nat.not_lt_zero, false_implies, implies_true,
            true_and, kindOf]
          all_goals cases hanchor : g.anchorTypes dt
          all_goals cases dt <;> simp
        simp [hstart, hempty, hclass]

private theorem rankOf_lt {v : String} {r : Nat} (h : g.rankOf startId v = some r) : r < 4 := by
  unfold rankOf at h
  split at h
  · cases h
  · have ⟨dt, _, hclass⟩ := Option.bind_eq_some_iff.mp h
    unfold anchorClass at hclass
    split at hclass
    · cases hclass
      decide
    · split at hclass
      · cases hclass
        decide
      · split at hclass
        · cases hclass
          decide
        · split at hclass
          · cases hclass
            decide
          · cases hclass

/-- Tests that agree on the elements of a list find the same one. -/
theorem find?_congr_mem {p q : String → Bool} {ids : List String} (h : ∀ v ∈ ids, p v = q v) :
    ids.find? p = ids.find? q := by
  induction ids with
  | nil => rfl
  | cons v ids ih =>
    rw [List.find?_cons, List.find?_cons, h v List.mem_cons_self,
      ih (fun w hw ↦ h w (List.mem_cons_of_mem v hw))]

/-- No device of a list is of an anchor class. -/
def NoneOf (g : Paths) (startId : String) (ids : List String) (r : Nat) : Prop :=
  ∀ v ∈ ids, v ≠ "" → g.isKind startId (g.kindOf r) v = false

private theorem firstOfKind_cases (ids : List String) {r : Nat} (hr : r < 4)
    (hbelow : ∀ r' < r, g.NoneOf startId ids r') :
    (g.firstOfKind startId (g.kindOf r) ids = "" ∧ g.NoneOf startId ids r) ∨
      g.firstOfKind startId (g.kindOf r) ids ≠ "" ∧
        ids.find? (fun v ↦ g.rankOf startId v = some r) =
          some (g.firstOfKind startId (g.kindOf r) ids) := by
  have hcongr : ids.find? (fun v ↦ g.rankOf startId v = some r) =
      ids.find? (fun v ↦ g.isKind startId (g.kindOf r) v && v ≠ "") := by
    apply find?_congr_mem
    intro v hv
    rw [Bool.eq_iff_iff, decide_eq_true_eq, rankOf_eq_some hr]
    simp only [Bool.and_eq_true, decide_eq_true_eq]
    constructor
    · intro h
      exact ⟨h.2.1, h.1⟩
    · intro h
      exact ⟨h.2, h.1, fun r' hr' ↦ hbelow r' hr' v hv h.2⟩
  unfold firstOfKind
  rw [hcongr]
  cases hfind : ids.find? (fun v ↦ g.isKind startId (g.kindOf r) v && v ≠ "") with
  | none =>
    left
    refine ⟨rfl, ?_⟩
    intro v hv hne
    have hnot := List.find?_eq_none.mp hfind v hv
    simpa [hne] using hnot
  | some a =>
    right
    have hfound := List.find?_some hfind
    rw [Bool.and_eq_true, decide_eq_true_eq] at hfound
    exact ⟨hfound.2, rfl⟩

private theorem le_of_rankOf {ids : List String} {r : Nat}
    (hbelow : ∀ r' < r, g.NoneOf startId ids r')
    {v : String} (hv : v ∈ ids) {r' : Nat} (h : g.rankOf startId v = some r') : r ≤ r' := by
  by_contra hlt
  have ⟨hne, hkind, _⟩ := (rankOf_eq_some (rankOf_lt h)).mp h
  rw [hbelow r' (by omega) v hv hne] at hkind
  cases hkind

/-- The search knows no anchor if it has seen none, else the first one of the best class seen. -/
theorem anchorToUse_cases (ids : List String) :
    ((ids.foldl (g.track startId) {}).anchorToUse = "" ∧ ∀ v ∈ ids, g.rankOf startId v = none) ∨
    ∃ r, (ids.foldl (g.track startId) {}).anchorToUse ≠ "" ∧
      ids.find? (fun v ↦ g.rankOf startId v = some r) =
        some (ids.foldl (g.track startId) {}).anchorToUse ∧
      ∀ v ∈ ids, ∀ r', g.rankOf startId v = some r' → r ≤ r' := by
  have hanchor : (ids.foldl (g.track startId) {}).anchorToUse =
      firstAnchor (firstAnchor (firstAnchor (g.firstOfKind startId (g.kindOf 0) ids)
        (g.firstOfKind startId (g.kindOf 1) ids)) (g.firstOfKind startId (g.kindOf 2) ids))
          (g.firstOfKind startId (g.kindOf 3) ids) := by
    rw [foldl_track]
    rfl
  rw [hanchor]
  have hunset : ∀ a : String, firstAnchor "" a = a := fun a ↦ if_pos rfl
  have hset : ∀ {a : String} (b : String), a ≠ "" → firstAnchor a b = a := fun b h ↦ if_neg h
  have hbelow0 : ∀ r' < 0, g.NoneOf startId ids r' := fun r' h ↦ absurd h (Nat.not_lt_zero r')
  -- class by class: as long as there is none of a class, the next one is looked for
  cases firstOfKind_cases ids (r := 0) (by decide) hbelow0 with
  | inr h0 =>
    right
    refine ⟨0, ?_⟩
    rw [hset _ h0.1, hset _ h0.1, hset _ h0.1]
    exact ⟨h0.1, h0.2, fun v hv r' h ↦ le_of_rankOf hbelow0 hv h⟩
  | inl h0 =>
    have hbelow1 : ∀ r' < 1, g.NoneOf startId ids r' := by
      intro r' h
      rw [Nat.lt_one_iff.mp h]
      exact h0.2
    rw [h0.1, hunset]
    cases firstOfKind_cases ids (r := 1) (by decide) hbelow1 with
    | inr h1 =>
      right
      refine ⟨1, ?_⟩
      rw [hset _ h1.1, hset _ h1.1]
      exact ⟨h1.1, h1.2, fun v hv r' h ↦ le_of_rankOf hbelow1 hv h⟩
    | inl h1 =>
      have hbelow2 : ∀ r' < 2, g.NoneOf startId ids r' := by
        intro r' h
        cases Nat.lt_succ_iff_lt_or_eq.mp h with
        | inl hlt => exact hbelow1 r' hlt
        | inr heq => exact heq ▸ h1.2
      rw [h1.1, hunset]
      cases firstOfKind_cases ids (r := 2) (by decide) hbelow2 with
      | inr h2 =>
        right
        refine ⟨2, ?_⟩
        rw [hset _ h2.1]
        exact ⟨h2.1, h2.2, fun v hv r' h ↦ le_of_rankOf hbelow2 hv h⟩
      | inl h2 =>
        have hbelow3 : ∀ r' < 3, g.NoneOf startId ids r' := by
          intro r' h
          cases Nat.lt_succ_iff_lt_or_eq.mp h with
          | inl hlt => exact hbelow2 r' hlt
          | inr heq => exact heq ▸ h2.2
        rw [h2.1, hunset]
        cases firstOfKind_cases ids (r := 3) (by decide) hbelow3 with
        | inr h3 =>
          right
          exact ⟨3, h3.1, h3.2, fun v hv r' h ↦ le_of_rankOf hbelow3 hv h⟩
        | inl h3 =>
          left
          refine ⟨h3.1, ?_⟩
          intro v hv
          cases hrank : g.rankOf startId v with
          | none => rfl
          | some r =>
            have hlt := rankOf_lt hrank
            have ⟨hne, hkind, _⟩ := (rankOf_eq_some hlt).mp hrank
            have hnone : g.NoneOf startId ids r := by
              cases Nat.lt_succ_iff_lt_or_eq.mp hlt with
              | inl hlt => exact hbelow3 r hlt
              | inr heq => exact heq ▸ h3.2
            rw [hnone v hv hne] at hkind
            cases hkind

/-! ### The path -/

/-- The loop over the parents reads off the path along them. -/
theorem backwards_eq {parents : Dict String (Option String)}
    (hroot : (parents.lookup startId).join = none) {v : String} {p : List String}
    (hp : Bfs.TreeWalk (fun v ↦ (parents.lookup v).join) startId v p) {fuel : Nat}
    (hfuel : p.length ≤ fuel) : backwards parents fuel (some v) = p.reverse := by
  induction hp generalizing fuel with
  | root =>
    cases fuel with
    | zero => cases hfuel
    | succ fuel =>
      rw [backwards, hroot]
      cases fuel <;> rfl
  | @step u v p hp hv ih =>
    rw [List.length_append, List.length_singleton] at hfuel
    cases fuel with
    | zero => cases hfuel
    | succ fuel =>
      have hparent : (parents.lookup v).join = some u := hv
      rw [backwards, hparent, ih (by omega), List.reverse_append]
      rfl

/-- `bfs_pick_anchor` returns the best walk with its links where one leads to an anchor, and asks the
forwarding tables where none does. -/
theorem bfsPickAnchor_best (g : Paths) (resolve : Forwarding.Flow → FlowPath) (startId : String) :
    (g.bfsPickAnchor resolve startId = g.fallback resolve startId ∧
      ∀ v p, Walk g.Enters startId v p → g.rankOf startId v = none) ∨
    ∃ r p, BestWalk g.Enters (g.rankOf startId) startId r p ∧
      g.bfsPickAnchor resolve startId = (p, g.pathLinks p) := by
  have ⟨order, hinv, hknown, hfound⟩ := exists_searchInv g startId
  have henters : (fun u v ↦ v ∈ g.next u) = g.Enters := by
    funext u v
    exact propext mem_next
  unfold bfsPickAnchor
  rw [hfound]
  cases @anchorToUse_cases g startId order with
  | inl hnone =>
    left
    rw [if_pos hnone.1]
    refine ⟨rfl, ?_⟩
    intro v p hp
    rw [← henters] at hp
    exact hnone.2 v (hinv.shortest hp).1
  | inr hsome =>
    right
    have ⟨r, hne, hfind, hbest⟩ := hsome
    rw [if_neg hne]
    have hmem := List.mem_of_find?_eq_some hfind
    have ⟨p, hp⟩ := hinv.exists_treeWalk hmem
    have hwalk := hinv.walk_of_treeWalk hp
    have hfuel : p.length ≤ (g.search startId).parents.keys.length := by
      have hsub : order ⊆ (g.search startId).parents.keys := by
        intro v hv
        exact AList.mem_keys.mp (AList.lookup_isSome.mp ((hknown v).mpr hv))
      exact (hinv.treeWalk_length_le hp hmem).trans
        (List.subperm_of_subset hinv.nodup hsub).length_le
    have hpath : pathNodes startId (g.search startId) = p := by
      unfold pathNodes
      rw [hfound, backwards_eq hinv.root hp hfuel, List.reverse_reverse,
        if_pos (Walk.iff_isChain.mp hwalk).1]
    refine ⟨r, p, ?_, by rw [hpath]⟩
    rw [← henters]
    exact hinv.bestWalk sorted_next hfind hbest hp

/-! ### Leaves -/

section Leaves

variable {A : Type} (lc : Forwarding.LowerCase) (ip : Forwarding.IpLibrary A)
  (net : Forwarding.Network) (t : Forwarding.MacTable)

/-- `resolve_flow_path` with its default TTL; `forwarding_service.py:97`. -/
def resolveFlow (flow : Forwarding.Flow) : FlowPath :=
  (Forwarding.resolveFlowPath lc ip net t flow 16).1

private theorem leaf_does_not_forward {dt : DeviceType} (h : leafTypes dt = true) :
    Forwarding.isRouter dt = false ∧ dt ≠ .aonSwitch := by
  revert h
  cases dt <;> decide

/-- A device that does not forward ends the path of a flow at once. -/
theorem resolveFlow_of_leaf {flow : Forwarding.Flow}
    (hleaf : ∀ d, net.getDevice flow.currentDeviceId = some d → leafTypes d.type = true) :
    ∃ reason action, resolveFlow lc ip net t flow = .ended [flow] [] flow
      { Forwarding.hopMetadata net flow action with reason := some reason } .drop (some reason)
        none := by
  have hstep : ∃ reason, reason ≠ "" ∧ Forwarding.step ip net.toTables flow.currentDeviceId
      flow.currentInterfaceId flow.destinationIp = .drop reason "error" := by
    unfold Forwarding.step
    cases hd : net.getDevice flow.currentDeviceId with
    | none => exact ⟨_, by decide, rfl⟩
    | some d =>
      have htype := hleaf d hd
      dsimp only
      have ⟨hrouter, hswitch⟩ := leaf_does_not_forward htype
      rw [if_neg (by simp [hrouter]), if_neg hswitch]
      exact ⟨_, by decide, rfl⟩
  have ⟨reason, hne, hstep⟩ := hstep
  refine ⟨reason, "error", ?_⟩
  unfold resolveFlow Forwarding.resolveFlowPath
  change (Forwarding.resolveLoop lc ip net flow [flow] [] t (15 + 1)).1 = _
  rw [Forwarding.resolveLoop_succ, Forwarding.hop, hstep, Forwarding.hopOf]
  simp only [if_neg hne]

/-- The forwarding tables never give a leaf a path. -/
theorem fallback_leaf (g : Paths) {startId : String}
    (hleaf : ∀ d, net.getDevice startId = some d → leafTypes d.type = true) :
    g.fallback (resolveFlow lc ip net t) startId = ([startId], []) := by
  have ⟨reason, action, hresolve⟩ := resolveFlow_of_leaf lc ip net t
    (show ∀ d, net.getDevice (⟨"10.0.0.1", "192.0.2.1", startId, some (startId ++ "-if0")⟩ :
      Forwarding.Flow).currentDeviceId = some d → leafTypes d.type = true from hleaf)
  have hadd : g.addDevice [startId] startId = [startId] := by
    unfold addDevice
    rw [if_neg]
    intro h
    exact h.2.2 (List.mem_singleton.mpr rfl)
  have hpath : g.forwardingPath (resolveFlow lc ip net t) startId = ([startId], []) := by
    unfold forwardingPath
    rw [hresolve]
    simp only [FlowPath.ended, Forwarding.hopMetadata, Option.toList_none, List.append_nil,
      List.nil_append, List.map_cons, List.map_nil, List.foldl_cons, List.foldl_nil, hadd,
      addLinkId, truthy, Option.filter_none]
    split
    · rfl
    · split <;> rfl
  unfold fallback
  rw [hpath]
  rfl

end Leaves

end Paths

end Unoc.Traffic.Backend
