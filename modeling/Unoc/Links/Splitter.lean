import Mathlib.Algebra.Order.BigOperators.Group.List
import Unoc.Base.Worklist
import Unoc.Links.Rules

/-!
# Splitter usage

`backend/services/splitter_service.py`: the OUT ports of a splitter and the ONTs below them. The
searches follow links from interface to interface and do not cross a device.
-/

namespace Unoc.Links

open Unoc.Base
open Unoc.Model
open Unoc.Status (ontClass)

variable (db : Database)

/-! ### Ports -/

/-- `str(name).lower()`. No character outside ASCII has a lower case in the two names that are
compared, so that only ASCII letters are lowered. -/
def lower (name : String) : List Char := name.toList.map Char.toLower

/-- The interfaces of a device. -/
def interfacesOf (deviceId : String) : List Interface :=
  db.interfaces.filter (fun i ↦ i.deviceId = deviceId)

/-- The interfaces of a device whose name starts with `out`. -/
def namedOuts (deviceId : String) : List Interface :=
  (interfacesOf db deviceId).filter (fun i ↦ "out".toList <+: lower i.name)

/-- `out_ifaces`: the interfaces named so, else all but the one named `in`;
`splitter_service.py:66–69`. -/
def outInterfaces (splitterId : String) : List Interface :=
  if namedOuts db splitterId = [] then
    (interfacesOf db splitterId).filter (fun i ↦ lower i.name ≠ "in".toList)
  else namedOuts db splitterId

/-! ### Searches -/

/-- `_iter_counterparts`; `splitter_service.py:49–54`. -/
def counterparts (interfaceId : String) : List String :=
  db.links.filterMap (fun l ↦
    if l.aInterfaceId = interfaceId then some l.bInterfaceId
    else if l.bInterfaceId = interfaceId then some l.aInterfaceId
    else none)

/-- The ids of all interfaces with a link. -/
def linkedInterfaceIds : List String :=
  (db.links.map Link.aInterfaceId ++ db.links.map Link.bInterfaceId).dedup

/-- `dev_by_if.get`, where an empty id counts as none. -/
def deviceIdOf (interfaceId : String) : Option String :=
  ((db.getInterface interfaceId).map Interface.deviceId).filter (fun id ↦ id ≠ "")

/-- The device of an interface, if it is of ONT class. -/
def ontOf (interfaceId : String) : Option String :=
  (deviceIdOf db interfaceId).filter (fun id ↦ (db.getDevice id).any (fun d ↦ ontClass d.type))

/-- The counterparts that the search for ONTs queues. -/
def knownCounterparts (interfaceId : String) : List String :=
  (counterparts db interfaceId).filter (fun nb ↦ (deviceIdOf db nb).isSome)

/-- The loop of `has_ont_reachable`: the interfaces dequeued and the ONTs seen on queueing;
`splitter_service.py:101–120`. -/
def ontSearch : Nat → List String → List String → List String → List String × List String
  | 0, _, visited, seen => (visited, seen)
  | _ + 1, [], visited, seen => (visited, seen)
  | fuel + 1, cur :: rest, visited, seen =>
    if cur ∈ visited then ontSearch fuel rest visited seen
    else
      let found := (knownCounterparts db cur).filter (fun nb ↦ nb ∉ cur :: visited)
      ontSearch fuel (rest ++ found) (cur :: visited) (seen ++ found.filterMap (ontOf db))

/-- Every interface is queued once from the start and once for each counterpart. -/
def searchFuel : Nat :=
  1 + ((linkedInterfaceIds db).map (fun v ↦ (counterparts db v).length)).sum

/-- The ONTs that a search from an interface sees. -/
def ontsFrom (interfaceId : String) : List String :=
  (ontSearch db (searchFuel db) [interfaceId] [] []).2

/-- `out_interface_has_ont`; `splitter_service.py:176–224`. -/
def outInterfaceHasOnt (outInterfaceId : String) : Bool := ontsFrom db outInterfaceId ≠ []

/-- `_reaches`; `splitter_service.py:155–168`. -/
def reachesInterface (startId goalId : String) : Bool :=
  goalId ∈ Worklist.loop (counterparts db) (fun queue nb ↦ queue ++ [nb]) (searchFuel db) [startId] []

/-- `find_out_interface_reaching`; `splitter_service.py:132–173`. -/
def findOutInterfaceReaching (splitter : Device) (targetId : String) : Option Interface :=
  if splitter.type = .splitter then
    (outInterfaces db splitter.id).find? (fun out ↦ reachesInterface db out.id targetId)
  else none

/-- What `compute_splitter_usage` returns. -/
structure SplitterUsage where
  portsTotal : Nat
  portsUsed : Nat
  downstreamOnts : Nat
  deriving DecidableEq, Repr

/-- `compute_splitter_usage`; `splitter_service.py:57–129`. -/
def computeSplitterUsage (splitter : Device) : SplitterUsage :=
  let outs := outInterfaces db splitter.id
  if splitter.type ≠ .splitter ∨ outs = [] then ⟨0, 0, 0⟩
  else
    { portsTotal := outs.length
      portsUsed := (outs.filter (fun out ↦ ontsFrom db out.id ≠ [])).length
      downstreamOnts := (outs.flatMap (fun out ↦ ontsFrom db out.id)).dedup.length }

/-! ### What a search sees -/

variable {db : Database}

/-- The counterparts of an interface are the other ends of its links. -/
theorem mem_counterparts {x y : String} :
    y ∈ counterparts db x ↔ ∃ l ∈ db.links, (l.aInterfaceId = x ∧ l.bInterfaceId = y) ∨
      (l.aInterfaceId ≠ x ∧ l.bInterfaceId = x ∧ l.aInterfaceId = y) := by
  simp only [counterparts, List.mem_filterMap]
  refine exists_congr (fun l ↦ and_congr_right (fun _ ↦ ?_))
  by_cases ha : l.aInterfaceId = x
  · simp [ha]
  · by_cases hb : l.bInterfaceId = x <;> simp [ha, hb]

private theorem push_perm (queue : List String) (nb : String) :
    (queue ++ [nb]).Perm (nb :: queue) := List.perm_append_singleton nb queue

private theorem foldl_push (found queue : List String) :
    found.foldl (fun queue nb ↦ queue ++ [nb]) queue = queue ++ found := by
  induction found generalizing queue with
  | nil => simp
  | cons nb found ih => rw [List.foldl_cons, ih, List.append_assoc, List.singleton_append]

/-- The interfaces dequeued are those of the plain search. -/
private theorem ontSearch_visited (fuel : Nat) : ∀ queue visited seen : List String,
    (ontSearch db fuel queue visited seen).1 =
      Worklist.loop (knownCounterparts db) (fun queue nb ↦ queue ++ [nb]) fuel queue visited := by
  induction fuel with
  | zero => intro queue visited seen; rfl
  | succ fuel ih =>
    intro queue visited seen
    cases queue with
    | nil => rfl
    | cons cur rest =>
      unfold ontSearch Worklist.loop
      split
      · exact ih rest visited seen
      · rw [foldl_push]
        exact ih _ _ _

private theorem ontSearch_seen_mono (fuel : Nat) : ∀ queue visited seen : List String,
    ∀ d ∈ seen, d ∈ (ontSearch db fuel queue visited seen).2 := by
  induction fuel with
  | zero => intro queue visited seen d hd; exact hd
  | succ fuel ih =>
    intro queue visited seen d hd
    cases queue with
    | nil => exact hd
    | cons cur rest =>
      unfold ontSearch
      split
      · exact ih _ _ _ d hd
      · exact ih _ _ _ d (List.mem_append_left _ hd)

/-- The ONT of every interface dequeued after it was found is seen. -/
private theorem ontSearch_complete (fuel : Nat) : ∀ queue visited seen : List String,
    ∀ nb ∈ (ontSearch db fuel queue visited seen).1, nb ∈ visited ∨ nb ∈ queue ∨
      ∀ d, ontOf db nb = some d → d ∈ (ontSearch db fuel queue visited seen).2 := by
  induction fuel with
  | zero => intro queue visited seen nb hnb; exact Or.inl hnb
  | succ fuel ih =>
    intro queue visited seen nb hnb
    cases queue with
    | nil => exact Or.inl hnb
    | cons cur rest =>
      unfold ontSearch at hnb ⊢
      split at hnb
      · next hcur =>
        rw [if_pos hcur]
        rcases ih _ _ _ nb hnb with hv | hq | hd
        · exact Or.inl hv
        · exact Or.inr (Or.inl (List.mem_cons_of_mem _ hq))
        · exact Or.inr (Or.inr hd)
      · next hcur =>
        rw [if_neg hcur]
        rcases ih _ _ _ nb hnb with hv | hq | hd
        · rcases List.mem_cons.mp hv with rfl | hv
          · exact Or.inr (Or.inl List.mem_cons_self)
          · exact Or.inl hv
        · rcases List.mem_append.mp hq with hq | hfound
          · exact Or.inr (Or.inl (List.mem_cons_of_mem _ hq))
          · right; right
            intro d hd
            apply ontSearch_seen_mono
            exact List.mem_append_right _ (List.mem_filterMap.mpr ⟨nb, hfound, hd⟩)
        · exact Or.inr (Or.inr hd)

/-- An ONT is only seen on an interface that was not dequeued before. -/
private theorem ontSearch_sound (fuel : Nat) : ∀ queue visited seen : List String,
    ∀ d ∈ (ontSearch db fuel queue visited seen).2, d ∈ seen ∨ ∃ nb ∉ visited,
      ontOf db nb = some d ∧
        ∃ q ∈ queue, Relation.ReflTransGen (fun x y ↦ y ∈ knownCounterparts db x) q nb := by
  induction fuel with
  | zero => intro queue visited seen d hd; exact Or.inl hd
  | succ fuel ih =>
    intro queue visited seen d hd
    cases queue with
    | nil => exact Or.inl hd
    | cons cur rest =>
      unfold ontSearch at hd
      split at hd
      · rcases ih _ _ _ d hd with hs | ⟨nb, hnb, hont, q, hq, hqnb⟩
        · exact Or.inl hs
        · exact Or.inr ⟨nb, hnb, hont, q, List.mem_cons_of_mem _ hq, hqnb⟩
      · rcases ih _ _ _ d hd with hs | ⟨nb, hnb, hont, q, hq, hqnb⟩
        · rcases List.mem_append.mp hs with hs | hs
          · exact Or.inl hs
          · obtain ⟨nb, hfound, hont⟩ := List.mem_filterMap.mp hs
            obtain ⟨hnext, hfresh⟩ := List.mem_filter.mp hfound
            refine Or.inr ⟨nb, ?_, hont, cur, List.mem_cons_self, .single hnext⟩
            intro hv
            simp [hv] at hfresh
        · refine Or.inr ⟨nb, fun hv ↦ hnb (List.mem_cons_of_mem _ hv), hont, ?_⟩
          rcases List.mem_append.mp hq with hq | hfound
          · exact ⟨q, List.mem_cons_of_mem _ hq, hqnb⟩
          · exact ⟨cur, List.mem_cons_self, .head (List.mem_of_mem_filter hfound) hqnb⟩

private theorem counterparts_eq_nil {v : String} (h : v ∉ linkedInterfaceIds db) :
    counterparts db v = [] := by
  rw [List.eq_nil_iff_forall_not_mem]
  intro y hy
  obtain ⟨l, hl, ⟨ha, _⟩ | ⟨_, hb, _⟩⟩ := mem_counterparts.mp hy
  · exact h (List.mem_dedup.mpr (List.mem_append_left _ (List.mem_map.mpr ⟨l, hl, ha⟩)))
  · exact h (List.mem_dedup.mpr (List.mem_append_right _ (List.mem_map.mpr ⟨l, hl, hb⟩)))

/-- The search ends with an empty queue and has seen the ONTs that links lead to. -/
theorem mem_ontsFrom {start d : String} :
    d ∈ ontsFrom db start ↔ ∃ nb ≠ start, ontOf db nb = some d ∧
      Relation.ReflTransGen (fun x y ↦ y ∈ knownCounterparts db x) start nb := by
  constructor
  · intro hd
    have hd' : d ∈ (ontSearch db (1 + _) [start] [] []).2 := hd
    rw [Nat.add_comm] at hd'
    simp only [ontSearch, List.not_mem_nil, if_false] at hd'
    rcases ontSearch_sound _ _ _ _ d hd' with hs | ⟨nb, hnb, hont, q, hq, hqnb⟩
    · obtain ⟨nb, hfound, hont⟩ := List.mem_filterMap.mp hs
      obtain ⟨hnext, hfresh⟩ := List.mem_filter.mp hfound
      exact ⟨nb, by simpa using hfresh, hont, .single hnext⟩
    · rw [List.nil_append] at hq
      exact ⟨nb, by simpa using hnb, hont, .head (List.mem_of_mem_filter hq) hqnb⟩
  · rintro ⟨nb, hne, hont, hreach⟩
    have hfuel : [start].length +
        ((linkedInterfaceIds db).map (fun v ↦ (knownCounterparts db v).length)).sum ≤
          searchFuel db := by
      apply Nat.add_le_add_left
      apply List.sum_le_sum
      intro v _
      exact List.length_filter_le _ _
    have hvisited : nb ∈ (ontSearch db (searchFuel db) [start] [] []).1 := by
      rw [ontSearch_visited]
      refine (Worklist.mem_loop_iff push_perm (List.nodup_dedup _) ?_ hfuel).mpr
        ⟨start, List.mem_singleton_self start, hreach⟩
      intro v hv
      rw [knownCounterparts, counterparts_eq_nil hv, List.filter_nil]
    rcases ontSearch_complete _ _ _ _ nb hvisited with hv | hq | hd
    · cases hv
    · exact absurd (List.mem_singleton.mp hq) hne
    · exact hd d hont

end Unoc.Links
