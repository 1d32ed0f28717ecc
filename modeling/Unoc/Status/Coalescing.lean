import Unoc.Status.Affected

/-!
# Coalesced recomputation

`backend/services/recompute_coalescer.py`: requests within one debounce window are merged into one
run, which resolves their keys to devices and links. If a key resolves, the run is incremental, and
if none does it is full; the choice is made once for the merged keys.
-/

namespace Unoc.Status

open Unoc.Base Unoc.Model

/-- A `schedule(scope, key)` request. -/
structure Request where
  scope : String := "global"
  key : Option String := none
  deriving DecidableEq, Repr

/-- `_STATE.pending_keys`, in the order in which they are resolved;
`recompute_coalescer.py:152,196–199`. -/
def pendingKeys (requests : List Request) : List String :=
  sortedSet (requests.filterMap (fun r ↦ truthy r.key))

section Run

variable (cache : Option GraphCache) (version : Int) (t : Topology)

/-- The devices that `recompute_dirty` re-evaluates; `status_service.py:139–253`. -/
def dirtyIds (devices links : List String) : List String :=
  match dirtySeeds t devices links with
  | [] => t.devices.map DeviceView.id
  | seeds =>
    (affectedIds (ensureGraphCache cache version t).edges seeds).filter
      (fun id ↦ (t.getDevice id).isSome)

/-- Keys that resolve to a device; `recompute_coalescer.py:152–154`. -/
def dirtyDevices (keys : List String) : List String := keys.filter (fun k ↦ (t.getDevice k).isSome)

/-- Keys that resolve to a link and not to a device; `recompute_coalescer.py:155–156`. -/
def dirtyLinks (keys : List String) : List String :=
  keys.filter (fun k ↦ (t.getDevice k).isNone ∧ (t.getLink k).isSome)

/-- The devices that `_run_consolidated_recompute` re-evaluates;
`recompute_coalescer.py:132–185`. -/
def consolidatedIds (keys : List String) : List String :=
  if dirtyDevices t keys ≠ [] ∨ dirtyLinks t keys ≠ [] then
    dirtyIds cache version t (dirtyDevices t keys) (dirtyLinks t keys)
  else t.devices.map DeviceView.id

/-- The devices that `_execute_now` re-evaluates; `recompute_coalescer.py:90–129`. -/
def executeNow (enabled : Bool) (requests : List Request) : List String :=
  if enabled then consolidatedIds cache version t (pendingKeys requests) else []

end Run

/-! ### Seeds of requests -/

/-- The seeds of one key. -/
def keySeeds (t : Topology) (key : String) : List String :=
  match t.getDevice key, t.getLink key with
  | some _, _ => [key]
  | none, some link => endpointIds t link
  | none, none => []

/-- The seeds of one request; none without a key, or if the key resolves to nothing. -/
def requestSeeds (t : Topology) (r : Request) : List String :=
  match truthy r.key with
  | none => []
  | some key => keySeeds t key

variable {cache : Option GraphCache} {version : Int} {t : Topology}

private theorem mem_dirtySeeds {keys : List String} {id : String} :
    id ∈ dirtySeeds t (dirtyDevices t keys) (dirtyLinks t keys) ↔
      ∃ k ∈ keys, id ∈ keySeeds t k := by
  simp only [dirtySeeds, mem_sortedSet, List.mem_append, dirtyDevices, dirtyLinks, List.mem_filter,
    List.mem_flatMap, decide_eq_true_eq]
  constructor
  · rintro (⟨hk, hd⟩ | ⟨l, ⟨hl, hk, hd, _⟩, hid⟩)
    · obtain ⟨d, hd⟩ := Option.isSome_iff_exists.mp hd
      exact ⟨id, hk, by simp [keySeeds, hd]⟩
    · have hlink : t.getLink l.id = some l := Topology.getLink_eq_some.mpr ⟨hl, rfl⟩
      rw [Option.isNone_iff_eq_none] at hd
      exact ⟨l.id, hk, by simpa [keySeeds, hd, hlink] using hid⟩
  · rintro ⟨k, hk, hid⟩
    cases hd : t.getDevice k with
    | some d =>
      have hidk : id = k := by simpa [keySeeds, hd] using hid
      subst hidk
      exact Or.inl ⟨hk, by simp [hd]⟩
    | none =>
      cases hlink : t.getLink k with
      | none => simp [keySeeds, hd, hlink] at hid
      | some link =>
        obtain ⟨hmem, rfl⟩ := Topology.getLink_eq_some.mp hlink
        have hend : id ∈ endpointIds t link := by simpa [keySeeds, hd, hlink] using hid
        exact Or.inr ⟨link, ⟨hmem, hk, by simp [hd], by simp [hlink]⟩, hend⟩

private theorem mem_pendingKeys {requests : List Request} {k : String} :
    k ∈ pendingKeys requests ↔ ∃ r ∈ requests, truthy r.key = some k := by
  simp [pendingKeys, mem_sortedSet]

/-- The merged seeds are the seeds of the requests. -/
theorem mem_mergedSeeds {requests : List Request} {id : String} :
    id ∈ dirtySeeds t (dirtyDevices t (pendingKeys requests))
        (dirtyLinks t (pendingKeys requests)) ↔
      ∃ r ∈ requests, id ∈ requestSeeds t r := by
  rw [mem_dirtySeeds]
  simp only [mem_pendingKeys]
  constructor
  · rintro ⟨k, ⟨r, hr, hk⟩, hid⟩
    exact ⟨r, hr, by simpa [requestSeeds, hk] using hid⟩
  · rintro ⟨r, hr, hid⟩
    unfold requestSeeds at hid
    split at hid
    · cases hid
    · next k hk => exact ⟨k, ⟨r, hr, hk⟩, hid⟩

/-! ### What a run re-evaluates -/

/-- A device row that a seed of the requests reaches along the adjacency. -/
def ReachedBy (cache : Option GraphCache) (version : Int) (t : Topology) (requests : List Request)
    (id : String) : Prop :=
  ∃ r ∈ requests, ∃ s ∈ requestSeeds t r,
    Relation.ReflTransGen (Adjacent (ensureGraphCache cache version t).edges) s id

private theorem mem_dirtyIds {devices links : List String} {id : String} :
    id ∈ dirtyIds cache version t devices links ↔
      id ∈ t.devices.map DeviceView.id ∧
        (dirtySeeds t devices links = [] ∨ ∃ s ∈ dirtySeeds t devices links,
          Relation.ReflTransGen (Adjacent (ensureGraphCache cache version t).edges) s id) := by
  have hget : (t.getDevice id).isSome ↔ id ∈ t.devices.map DeviceView.id := by
    rw [Option.isSome_iff_exists]
    simp only [Topology.getDevice_eq_some, List.mem_map]
  cases hs : dirtySeeds t devices links with
  | nil => simp [dirtyIds, hs]
  | cons s ss =>
    simp only [dirtyIds, hs, List.mem_filter, mem_affectedIds, hget, reduceCtorEq, false_or]
    exact and_comm

/-- Without a resolved key there is no seed, so both branches agree. -/
private theorem consolidatedIds_eq (keys : List String) :
    consolidatedIds cache version t keys =
      dirtyIds cache version t (dirtyDevices t keys) (dirtyLinks t keys) := by
  unfold consolidatedIds
  split
  · rfl
  · next h =>
    push Not at h
    have hnone : dirtySeeds t [] [] = [] := by simp [dirtySeeds, sortedSet]
    rw [h.1, h.2, dirtyIds, hnone]

/-- An enabled run re-evaluates the device rows that its seeds reach, or all without seeds. -/
theorem mem_executeNow {requests : List Request} {id : String} :
    id ∈ executeNow cache version t true requests ↔
      id ∈ t.devices.map DeviceView.id ∧
        ((∀ r ∈ requests, requestSeeds t r = []) ∨ ReachedBy cache version t requests id) := by
  have hnil : dirtySeeds t (dirtyDevices t (pendingKeys requests))
      (dirtyLinks t (pendingKeys requests)) = [] ↔ ∀ r ∈ requests, requestSeeds t r = [] := by
    simp only [List.eq_nil_iff_forall_not_mem, mem_mergedSeeds]
    constructor
    · intro h r hr s hs
      exact h s ⟨r, hr, hs⟩
    · rintro h s ⟨r, hr, hs⟩
      exact h r hr s hs
  have hreach : (∃ s ∈ dirtySeeds t (dirtyDevices t (pendingKeys requests))
      (dirtyLinks t (pendingKeys requests)),
        Relation.ReflTransGen (Adjacent (ensureGraphCache cache version t).edges) s id) ↔
      ReachedBy cache version t requests id := by
    simp only [mem_mergedSeeds, ReachedBy]
    constructor
    · rintro ⟨s, ⟨r, hr, hs⟩, hsid⟩
      exact ⟨r, hr, s, hs, hsid⟩
    · rintro ⟨r, hr, s, hs, hsid⟩
      exact ⟨s, ⟨r, hr, hs⟩, hsid⟩
  show id ∈ consolidatedIds cache version t (pendingKeys requests) ↔ _
  rw [consolidatedIds_eq, mem_dirtyIds, hnil, hreach]

/-! ### Coalescing -/

/-- A merged run covers the runs of its requests if and only if the coalescer is disabled, all
requests have seeds, none has, or the merged seeds reach every device row. -/
theorem coalesced_run_covers_iff (cache : Option GraphCache) (version : Int) (t : Topology)
    (enabled : Bool) (requests : List Request) :
    (∀ r ∈ requests, executeNow cache version t enabled [r] ⊆
        executeNow cache version t enabled requests) ↔
      enabled = false ∨ (∀ r ∈ requests, requestSeeds t r ≠ []) ∨
        (∀ r ∈ requests, requestSeeds t r = []) ∨
        ∀ d ∈ t.devices, ReachedBy cache version t requests d.id := by
  cases enabled with
  | false => simp [executeNow]
  | true =>
    simp only [Bool.true_eq_false, false_or]
    constructor
    · intro hcover
      by_cases hall : ∀ r ∈ requests, requestSeeds t r ≠ []
      · exact Or.inl hall
      · -- a request without seeds alone is a full run
        push Not at hall
        obtain ⟨r, hr, hnil⟩ := hall
        right
        by_cases hnone : ∀ r ∈ requests, requestSeeds t r = []
        · exact Or.inl hnone
        · right
          intro d hd
          have hid : d.id ∈ t.devices.map DeviceView.id := List.mem_map_of_mem hd
          have halone : d.id ∈ executeNow cache version t true [r] :=
            mem_executeNow.mpr ⟨hid, Or.inl (by simpa using hnil)⟩
          rcases (mem_executeNow.mp (hcover r hr halone)).2 with h | h
          · exact absurd h hnone
          · exact h
    · intro h r hr id hid
      obtain ⟨hrow, halone⟩ := mem_executeNow.mp hid
      apply mem_executeNow.mpr
      refine ⟨hrow, ?_⟩
      rcases h with hall | hnone | hreach
      · rcases halone with hnil | ⟨r', hr', s, hs, hsid⟩
        · exact absurd (hnil r (by simp)) (hall r hr)
        · rw [List.mem_singleton] at hr'
          exact Or.inr ⟨r, hr, s, hr' ▸ hs, hsid⟩
      · exact Or.inl hnone
      · obtain ⟨d, hd, rfl⟩ := List.mem_map.mp hrow
        exact Or.inr (hreach d hd)

/-- Two devices that no link joins. -/
def twoIslands : Topology where
  devices := [{ id := "core", type := .coreRouter }, { id := "edge", type := .edgeRouter }]
  interfaces := []
  links := []
  interfaces_nodup := List.nodup_nil
  links_nodup := List.nodup_nil

/-- A keyless request, as a route change schedules it, loses its full run to a device request. -/
theorem coalesced_run_loses_keyless_request :
    ¬ ∀ r ∈ ([{ key := some "core" }, { scope := "routing" }] : List Request),
      executeNow none 0 twoIslands true [r] ⊆
        executeNow none 0 twoIslands true [{ key := some "core" }, { scope := "routing" }] := by
  intro h
  have hmem := h { scope := "routing" } (by simp)
    (show "edge" ∈ executeNow none 0 twoIslands true [{ scope := "routing" }] by decide +kernel)
  exact absurd hmem (by decide +kernel)

end Unoc.Status
