import Unoc.Status.Coalescing
import Unoc.Status.LogicalGraph

/-!
# Completeness of the incremental recomputation

One override or link change disturbs the devices that reach it over usable links, and the passive
devices whose inline chain ends at one of those. `recompute_dirty` revisits what the adjacency
after the change links to the seeds, which a forced DOWN takes apart.
-/

namespace Unoc.Status

open Unoc.Base Unoc.Model

variable {t : Topology} {e : Edit}

/-! ### Inline chains -/

@[simp] private theorem rawNeighborIds_apply (id : String) :
    rawNeighborIds (e.apply t) id = rawNeighborIds t id := by
  simp only [rawNeighborIds, Edit.apply_links, List.filterMap_map]
  rfl

private theorem filterMap_getDevice_apply (ids : List String) :
    ids.filterMap (e.apply t).getDevice = (ids.filterMap t.getDevice).map e.device := by
  rw [List.map_filterMap]
  apply List.filterMap_congr
  intro id _
  exact Edit.getDevice_apply id

private theorem rawNeighbors_apply (id : String) :
    rawNeighbors (e.apply t) id = (rawNeighbors t id).map e.device := by
  unfold rawNeighbors
  rw [rawNeighborIds_apply, filterMap_getDevice_apply]

private theorem mem_of_rawNeighbors {id : String} {d : DeviceView} (h : d ∈ rawNeighbors t id) :
    d ∈ t.devices := by
  obtain ⟨_, _, hd⟩ := List.mem_filterMap.mp h
  exact (Topology.getDevice_eq_some.mp hd).1

/-- The rows at the other ends of a device's links, in id order. -/
def chainRows (t : Topology) (d : DeviceView) : List DeviceView :=
  (sortedSet (rawNeighborIds t d.id)).filterMap t.getDevice

private theorem mem_chainRows {d n : DeviceView} : n ∈ chainRows t d ↔ n ∈ rawNeighbors t d.id := by
  simp [chainRows, rawNeighbors, mem_sortedSet]

/-- Whether the inline chain of a device has a fed upstream end. -/
def chainFed (t : Topology) (d : DeviceView) : Bool :=
  let candidates := (chainRows t d).filter (fun n ↦ chainUpstream n.type)
  let stack := (candidates ++ (chainRows t d).filter (fun n ↦ passiveInline n.type)).reverse
  chainUpstreamLoop t candidates (chainFuel t stack) stack []

/-- Whether the inline chain of a device has a terminator. -/
def chainTerminated (t : Topology) (d : DeviceView) : Bool :=
  let passives := (chainRows t d).filter (fun n ↦ passiveInline n.type)
  (chainRows t d).any (fun n ↦ chainTerminator n.type) ||
    chainTerminatorLoop t (chainFuel t passives) passives []

/-- A passive device is UP if it has two neighbours, a fed end and a terminator. -/
theorem evalPassiveStatus_eq (d : DeviceView) :
    evalPassiveStatus t d =
      upIf (decide (2 ≤ (sortedSet (rawNeighborIds t d.id)).length) && chainFed t d &&
        chainTerminated t d) := by
  show (if (sortedSet (rawNeighborIds t d.id)).length < 2 then Status.down
    else if chainFed t d = false then .down
    else if (chainRows t d).any (fun n ↦ chainTerminator n.type) then .up
    else if chainTerminatorLoop t
        (chainFuel t ((chainRows t d).filter (fun n ↦ passiveInline n.type)))
        ((chainRows t d).filter (fun n ↦ passiveInline n.type)) [] then .up
    else .down) = _
  unfold chainTerminated upIf
  by_cases hlen : (sortedSet (rawNeighborIds t d.id)).length < 2
  · simp [hlen, Nat.not_le.mpr hlen]
  · simp only [hlen, Nat.not_lt.mp hlen, if_false, decide_true, Bool.true_and]
    grind

private theorem chainFuel_apply (start : List DeviceView) :
    chainFuel (e.apply t) (start.map e.device) = chainFuel t start := by
  simp [chainFuel, rawNeighbors_apply, Function.comp_def]

private theorem chainTerminatorLoop_apply (fuel : Nat) : ∀ (queue : List DeviceView)
    (visited : List String),
    chainTerminatorLoop (e.apply t) fuel (queue.map e.device) visited =
      chainTerminatorLoop t fuel queue visited := by
  induction fuel with
  | zero => intro queue visited; rfl
  | succ fuel ih =>
    intro queue visited
    cases queue with
    | nil => rfl
    | cons cur queue =>
      rw [List.map_cons]
      unfold chainTerminatorLoop
      rw [Edit.device_id, rawNeighbors_apply, List.any_map, List.filter_map, ← List.map_append, ih, ih]
      rfl

private theorem chainRows_apply (d : DeviceView) :
    chainRows (e.apply t) (e.device d) = (chainRows t d).map e.device := by
  unfold chainRows
  rw [Edit.device_id, rawNeighborIds_apply, filterMap_getDevice_apply]

private theorem chainTerminated_apply (d : DeviceView) :
    chainTerminated (e.apply t) (e.device d) = chainTerminated t d := by
  unfold chainTerminated
  simp only [chainRows_apply, List.filter_map, List.any_map, chainFuel_apply,
    chainTerminatorLoop_apply]
  rfl

/-- Rows at the other ends of a device's links that the search has not checked. -/
def uncheckedNeighbors (t : Topology) (id : String) (checked : List String) : List DeviceView :=
  (rawNeighbors t id).filter (fun d ↦ d.id ∉ id :: checked)

private theorem chainUpstreamLoop_cons {candidates stack : List DeviceView} {fuel : Nat}
    {cur : DeviceView}
    {checked : List String} :
    chainUpstreamLoop t candidates (fuel + 1) (cur :: stack) checked =
      if cur.id ∈ checked then chainUpstreamLoop t candidates fuel stack checked
      else if cur ∈ candidates ∧ (hasUpstreamL3OrAnchor t cur).ok then true
      else if (uncheckedNeighbors t cur.id checked).any (fun d ↦
          chainUpstream d.type && (hasUpstreamL3OrAnchor t d).ok) then true
      else
        chainUpstreamLoop t candidates fuel
          (((uncheckedNeighbors t cur.id checked).filter (fun d ↦ passiveInline d.type)).foldl
            (fun s d ↦ d :: s) stack)
          (cur.id :: checked) := rfl

private theorem uncheckedNeighbors_apply (id : String) (checked : List String) :
    uncheckedNeighbors (e.apply t) id checked = (uncheckedNeighbors t id checked).map e.device := by
  unfold uncheckedNeighbors
  rw [rawNeighbors_apply, List.filter_map]
  rfl

/-- A step of the search for an upstream end. -/
def ChainStep (t : Topology) (a b : DeviceView) : Prop :=
  b ∈ rawNeighbors t a.id ∧ passiveInline b.type = true

/-- The rows that the search for an upstream end of a device visits. -/
def ChainNode (t : Topology) (d n : DeviceView) : Prop :=
  ∃ s ∈ rawNeighbors t d.id, (chainUpstream s.type = true ∨ passiveInline s.type = true) ∧
    Relation.ReflTransGen (ChainStep t) s n

/-- The rows whose upstream the search asks for. -/
def ChainEnd (t : Topology) (d y : DeviceView) : Prop :=
  chainUpstream y.type = true ∧
    (y ∈ rawNeighbors t d.id ∨ ∃ n, ChainNode t d n ∧ y ∈ rawNeighbors t n.id)

private theorem mem_of_chainEnd {d y : DeviceView} (h : ChainEnd t d y) : y ∈ t.devices := by
  rcases h.2 with hy | ⟨n, _, hy⟩
  · exact mem_of_rawNeighbors hy
  · exact mem_of_rawNeighbors hy

/-- An edit keeps the upstream of a row. -/
def KeepsUpstream (e : Edit) (t : Topology) (y : DeviceView) : Prop :=
  (hasUpstreamL3OrAnchor (e.apply t) (e.device y)).ok = (hasUpstreamL3OrAnchor t y).ok

private theorem device_mem_map_iff {rows : List DeviceView} (hrows : ∀ r ∈ rows, r ∈ t.devices)
    {d : DeviceView} (hd : d ∈ t.devices) : e.device d ∈ rows.map e.device ↔ d ∈ rows := by
  constructor
  · intro h
    obtain ⟨r, hr, hrd⟩ := List.mem_map.mp h
    have hid : (e.device r).id = (e.device d).id := by rw [hrd]
    rwa [← Topology.device_unique (hrows r hr) hd hid]
  · exact List.mem_map_of_mem

section ChainSearch

variable {candidates : List DeviceView} {Q : DeviceView → Prop}
  (hcand : ∀ c ∈ candidates, c ∈ t.devices ∧ KeepsUpstream e t c)
  (hends : ∀ d, Q d → ∀ y ∈ rawNeighbors t d.id, chainUpstream y.type = true → KeepsUpstream e t y)
  (hstep : ∀ a b, Q a → ChainStep t a b → Q b)

include hcand hends hstep

/-- The search for an upstream end runs in lockstep on the edited rows. -/
theorem chainUpstreamLoop_apply (fuel : Nat) :
    ∀ (stack : List DeviceView) (checked : List String), (∀ d ∈ stack, d ∈ t.devices ∧ Q d) →
      chainUpstreamLoop (e.apply t) (candidates.map e.device) fuel (stack.map e.device) checked =
        chainUpstreamLoop t candidates fuel stack checked := by
  induction fuel with
  | zero => intro stack checked _; rfl
  | succ fuel ih =>
    intro stack checked hstack
    cases stack with
    | nil => rfl
    | cons cur stack =>
      obtain ⟨hcur, hQ⟩ := hstack cur List.mem_cons_self
      have hrest : ∀ d ∈ stack, d ∈ t.devices ∧ Q d :=
        fun d hd ↦ hstack d (List.mem_cons_of_mem cur hd)
      have hcandidate : (e.device cur ∈ candidates.map e.device ∧
          (hasUpstreamL3OrAnchor (e.apply t) (e.device cur)).ok = true) ↔
            (cur ∈ candidates ∧ (hasUpstreamL3OrAnchor t cur).ok = true) := by
        rw [device_mem_map_iff (fun c hc ↦ (hcand c hc).1) hcur]
        apply and_congr_right
        intro hc
        rw [(hcand cur hc).2]
      have hany : (uncheckedNeighbors (e.apply t) cur.id checked).any (fun d ↦
            chainUpstream d.type && (hasUpstreamL3OrAnchor (e.apply t) d).ok) =
          (uncheckedNeighbors t cur.id checked).any (fun d ↦
            chainUpstream d.type && (hasUpstreamL3OrAnchor t d).ok) := by
        rw [uncheckedNeighbors_apply, List.any_map, Bool.eq_iff_iff, List.any_eq_true,
          List.any_eq_true]
        apply exists_congr
        intro d
        apply and_congr_right
        intro hd
        simp only [Function.comp_apply, Edit.device_type, Bool.and_eq_true]
        apply and_congr_right
        intro hup
        rw [hends cur hQ d (List.mem_of_mem_filter hd) hup]
      have hpushed : ∀ d ∈ ((uncheckedNeighbors t cur.id checked).filter (fun d ↦
          passiveInline d.type)).foldl (fun s d ↦ d :: s) stack, d ∈ t.devices ∧ Q d := by
        intro d hd
        rw [List.foldl_flip_cons_eq_append', List.mem_append, List.mem_reverse] at hd
        rcases hd with hd | hd
        · obtain ⟨hraw, hpassive⟩ := List.mem_filter.mp hd
          have hraw := List.mem_of_mem_filter hraw
          exact ⟨mem_of_rawNeighbors hraw, hstep cur d hQ ⟨hraw, hpassive⟩⟩
        · exact hrest d hd
      have hpush : ((uncheckedNeighbors (e.apply t) cur.id checked).filter (fun d ↦
            passiveInline d.type)).foldl (fun s d ↦ d :: s) (stack.map e.device) =
          (((uncheckedNeighbors t cur.id checked).filter (fun d ↦
            passiveInline d.type)).foldl (fun s d ↦ d :: s) stack).map e.device := by
        rw [uncheckedNeighbors_apply, List.filter_map, List.foldl_flip_cons_eq_append',
          List.foldl_flip_cons_eq_append', List.map_append, List.map_reverse]
        rfl
      rw [List.map_cons, chainUpstreamLoop_cons, chainUpstreamLoop_cons, Edit.device_id, hany, hpush,
        ih stack checked hrest, ih _ _ hpushed]
      simp only [hcandidate]

end ChainSearch

/-- A chain whose ends keep their upstream is fed as before. -/
theorem chainFed_apply {d : DeviceView} (h : ∀ y, ChainEnd t d y → KeepsUpstream e t y) :
    chainFed (e.apply t) (e.device d) = chainFed t d := by
  have hrow : ∀ {n : DeviceView} {p : DeviceView → Bool}, n ∈ (chainRows t d).filter p →
      n ∈ rawNeighbors t d.id ∧ p n = true := by
    intro n p hn
    obtain ⟨hn, hp⟩ := List.mem_filter.mp hn
    exact ⟨mem_chainRows.mp hn, hp⟩
  unfold chainFed
  simp only [chainRows_apply, List.filter_map, ← List.map_append, ← List.map_reverse,
    chainFuel_apply]
  apply chainUpstreamLoop_apply (Q := ChainNode t d)
  · intro c hc
    obtain ⟨hraw, hup⟩ := hrow hc
    exact ⟨mem_of_rawNeighbors hraw, h c ⟨hup, Or.inl hraw⟩⟩
  · intro n hn y hy hup
    exact h y ⟨hup, Or.inr ⟨n, hn, hy⟩⟩
  · rintro a b ⟨s, hs, htype, hpath⟩ hab
    exact ⟨s, hs, htype, hpath.tail hab⟩
  · intro n hn
    rw [List.mem_reverse, List.mem_append] at hn
    rcases hn with hn | hn
    · obtain ⟨hraw, hup⟩ := hrow hn
      exact ⟨mem_of_rawNeighbors hraw, n, hraw, Or.inl hup, .refl⟩
    · obtain ⟨hraw, hpassive⟩ := hrow hn
      exact ⟨mem_of_rawNeighbors hraw, n, hraw, Or.inr hpassive, .refl⟩

/-! ### Devices that follow a change -/

namespace Edit

variable (e)

/-- The ids at which an edit flips a flag that connectivity reads. -/
def disturbed (t : Topology) : List String :=
  (t.devices.filter (fun d ↦ (e.device d).forcedDown ≠ d.forcedDown)).map DeviceView.id ++
    (t.links.filter (fun l ↦ linkUp (e.link l) ≠ linkUp l)).flatMap (fun l ↦
      (recordEnd t l.aInterfaceId).toList ++ (recordEnd t l.bInterfaceId).toList)

/-- The ids that usable links, before or after an edit, connect with a disturbed one. -/
def dependents (t : Topology) : List String :=
  affectedIds (usableEdges t ++ usableEdges (e.apply t)) (e.disturbed t)

end Edit

/-- A device whose status follows connectivity at the given ids. -/
def Follows (t : Topology) (ids : List String) (d : DeviceView) : Prop :=
  d.adminOverrideStatus = none ∧
    match d.deriveRole with
    | .alwaysOnline => False
    | .active =>
      d.provisioned = true ∧ ¬ (ontClass d.type = true ∧ d.signalStatus = some .noSignal) ∧
        d.id ∈ ids
    | .passive =>
      2 ≤ (sortedSet (rawNeighborIds t d.id)).length ∧ chainTerminated t d = true ∧
        ∃ y, ChainEnd t d y ∧ y.id ∈ ids

private theorem mem_dependents_of_disturbed {id : String} (h : id ∈ e.disturbed t) :
    id ∈ e.dependents t :=
  mem_affectedIds.mpr ⟨id, h, .refl⟩

/-- Usable links never leave the dependents. -/
theorem dependents_closed {a b : String}
    (h : Adjacent (usableEdges t ++ usableEdges (e.apply t)) a b) :
    a ∉ e.dependents t ↔ b ∉ e.dependents t := by
  apply not_congr
  simp only [Edit.dependents, mem_affectedIds]
  constructor
  · rintro ⟨s, hs, hpath⟩
    exact ⟨s, hs, hpath.tail h⟩
  · rintro ⟨s, hs, hpath⟩
    exact ⟨s, hs, hpath.tail h.symm⟩

private theorem undisturbed_dependents (e : Edit) (t : Topology) :
    Undisturbed e t (fun id ↦ id ∉ e.dependents t) where
  device := by
    intro d hd hid
    by_contra hne
    apply hid
    apply mem_dependents_of_disturbed
    apply List.mem_append_left
    exact List.mem_map.mpr ⟨d, List.mem_filter.mpr ⟨hd, decide_eq_true hne⟩, rfl⟩
  link := by
    intro l hl hne id hend hid
    apply hid
    apply mem_dependents_of_disturbed
    apply List.mem_append_right
    refine List.mem_flatMap.mpr ⟨l, List.mem_filter.mpr ⟨hl, decide_eq_true hne⟩, ?_⟩
    simpa [Option.mem_toList] using hend
  before := by
    intro a b hab
    exact dependents_closed (hab.imp (List.mem_append_left _) (List.mem_append_left _))
  after := by
    intro a b hab
    exact dependents_closed (hab.imp (List.mem_append_right _) (List.mem_append_right _))

/-- A device that does not follow the dependents of an edit is evaluated as before. -/
theorem evaluateDeviceStatus_apply {d : DeviceView} (hd : d ∈ t.devices)
    (hoverride : e.override d = d.adminOverrideStatus)
    (hfollows : ¬ Follows t (e.dependents t) d) :
    evaluateDeviceStatus (e.apply t) (e.device d) = evaluateDeviceStatus t d := by
  have hund := undisturbed_dependents e t
  have hsame : e.device d = d := by
    unfold Edit.device
    rw [hoverride]
  rw [hsame]
  unfold evaluateDeviceStatus
  cases hadmin : d.adminOverrideStatus with
  | some override => rfl
  | none =>
    cases hrole : d.deriveRole with
    | alwaysOnline => rfl
    | passive =>
      simp only []
      rw [evalPassiveStatus_eq, evalPassiveStatus_eq, rawNeighborIds_apply]
      have hterm : chainTerminated (e.apply t) (e.device d) = chainTerminated t d :=
        chainTerminated_apply d
      rw [hsame] at hterm
      rw [hterm]
      by_cases hlen : 2 ≤ (sortedSet (rawNeighborIds t d.id)).length
      · cases hend : chainTerminated t d with
        | false => simp
        | true =>
          have hfed : chainFed (e.apply t) (e.device d) = chainFed t d := by
            apply chainFed_apply
            intro y hy
            apply hund.hasUpstream_apply (mem_of_chainEnd hy)
            intro hmem
            apply hfollows
            simp only [Follows, hadmin, hrole]
            exact ⟨trivial, hlen, hend, y, hy, hmem⟩
          rw [hsame] at hfed
          rw [hfed]
      · simp [hlen]
    | active =>
      simp only [Option.bind_none]
      by_cases hprov : d.provisioned = false
      · simp [hprov]
      · by_cases hsignal : ontClass d.type = true ∧ d.signalStatus = some .noSignal
        · simp [hsignal]
        · have hid : d.id ∉ e.dependents t := by
            intro hmem
            apply hfollows
            simp only [Follows, hadmin, hrole]
            exact ⟨trivial, by simpa using hprov, hsignal, hmem⟩
          have htrace := hund.traceL3PathToAnchor_apply hd hid
          have hup := hund.hasUpstream_apply hd hid
          rw [hsame] at htrace hup
          rw [htrace, hup]

/-! ### One change -/

/-- A new override of a device, or a new override and status of a link. -/
inductive Change where
  | deviceOverride (id : String) (override : Option Status)
  | link (id : String) (override : Option Status) (status : Status)
  deriving DecidableEq, Repr

namespace Change

/-- The edit of the row with the changed id. -/
def edit : Change → Edit
  | .deviceOverride id override =>
    ⟨fun d ↦ if d.id = id then override else d.adminOverrideStatus, Link.adminOverrideStatus,
      Link.status⟩
  | .link id override status =>
    ⟨DeviceView.adminOverrideStatus, fun l ↦ if l.id = id then override else l.adminOverrideStatus,
      fun l ↦ if l.id = id then status else l.status⟩

/-- `dirty.devices` of a change. -/
def dirtyDevices : Change → List String
  | .deviceOverride id _ => [id]
  | .link _ _ _ => []

/-- `dirty.links` of a change. -/
def dirtyLinks : Change → List String
  | .deviceOverride _ _ => []
  | .link id _ _ => [id]

section

variable (cache : Option GraphCache) (version : Int) (t : Topology) (c : Change)

/-- The topology after the change. -/
def after : Topology := c.edit.apply t

/-- The seeds that `recompute_dirty` finds after the change. -/
def seeds : List String := dirtySeeds (c.after t) c.dirtyDevices c.dirtyLinks

/-- The devices that `recompute_dirty` revisits after the change. -/
def revisited : List String := dirtyIds cache version (c.after t) c.dirtyDevices c.dirtyLinks

/-- Every device whose evaluation the change moves is revisited. -/
def Complete : Prop :=
  ∀ d ∈ t.devices,
    evaluateDeviceStatus (c.after t) (c.edit.device d) ≠ evaluateDeviceStatus t d →
      d.id ∈ c.revisited cache version t

/-- The adjacency after the change links a device to a seed, or there is no seed. -/
def Linked (id : String) : Prop :=
  c.seeds t = [] ∨ ∃ s ∈ c.seeds t,
    Relation.ReflTransGen (Adjacent (ensureGraphCache cache version (c.after t)).edges) s id

/-- The adjacency after the change links every device that follows the change. -/
def Covered : Prop :=
  ∀ d ∈ t.devices, Follows t (c.edit.dependents t) d → c.Linked cache version t d.id

end

variable {cache : Option GraphCache} {version : Int} {t : Topology} {c : Change}

private theorem mem_revisited {d : DeviceView} (hd : d ∈ t.devices) :
    d.id ∈ c.revisited cache version t ↔ c.Linked cache version t d.id := by
  have hrow : ((c.after t).getDevice d.id).isSome = true := by
    rw [after, Edit.getDevice_apply, Topology.getDevice_eq_some.mpr ⟨hd, rfl⟩]
    rfl
  unfold revisited dirtyIds Linked seeds
  cases hs : dirtySeeds (c.after t) c.dirtyDevices c.dirtyLinks with
  | nil =>
    have hmem : d.id ∈ (c.after t).devices.map DeviceView.id := by
      rw [after, Edit.apply_devices, List.map_map]
      exact List.mem_map.mpr ⟨d, hd, rfl⟩
    simpa using hmem
  | cons s ss => simp [List.mem_filter, mem_affectedIds, hrow]

/-- A device that the change gives another override is a seed. -/
theorem mem_seeds_of_override {d : DeviceView} (h : c.edit.override d ≠ d.adminOverrideStatus) :
    d.id ∈ c.seeds t := by
  cases c with
  | deviceOverride id override =>
    by_cases hid : d.id = id
    · simp [seeds, dirtySeeds, dirtyDevices, mem_sortedSet, hid]
    · simp [edit, hid] at h
  | link id override status => exact absurd rfl h

/-- A change that flips no flag is covered. -/
theorem covered_of_disturbed_eq_nil (h : c.edit.disturbed t = []) : c.Covered cache version t := by
  have hnone : ∀ id, id ∉ c.edit.dependents t := by
    intro id hid
    obtain ⟨s, hs, _⟩ := mem_affectedIds.mp hid
    rw [h] at hs
    cases hs
  rintro d _ ⟨_, hrole⟩
  split at hrole
  · exact hrole.elim
  · exact absurd hrole.2.2 (hnone _)
  · obtain ⟨_, _, y, _, hy⟩ := hrole
    exact absurd hy (hnone _)

end Change

/-- The incremental recomputation reaches every device that one change moves, if the adjacency
after the change links to a seed each device that follows the change. -/
theorem incremental_complete_of_covered (cache : Option GraphCache) (version : Int) (t : Topology)
    (c : Change) (hcovered : c.Covered cache version t) : c.Complete cache version t := by
  intro d hd hmoved
  rw [Change.mem_revisited hd]
  by_cases hoverride : c.edit.override d = d.adminOverrideStatus
  · by_cases hfollows : Follows t (c.edit.dependents t) d
    · exact hcovered d hd hfollows
    · exact absurd (evaluateDeviceStatus_apply hd hoverride hfollows) hmoved
  · exact Or.inr ⟨d.id, Change.mem_seeds_of_override hoverride, .refl⟩

/-- A gateway with the given override, and an OLT behind it. -/
def gatewayAndOlt (override : Option Status) : Topology where
  devices := [{ id := "gw", type := .backboneGateway, adminOverrideStatus := override },
    { id := "olt", type := .olt, provisioned := true }]
  interfaces := [{ id := "gw-p1", deviceId := "gw", name := "p1" },
    { id := "olt-p1", deviceId := "olt", name := "p1" }]
  links := [{ id := "uplink", aInterfaceId := "gw-p1", bInterfaceId := "olt-p1" }]
  devices_nodup := by simp

/-- The row of the OLT. -/
def oltRow : DeviceView := { id := "olt", type := .olt, provisioned := true }

/-- Releasing the gateway moves the OLT, which is revisited. -/
theorem incremental_reaches_released_olt :
    evaluateDeviceStatus ((Change.deviceOverride "gw" none).after (gatewayAndOlt (some .down)))
        oltRow ≠ evaluateDeviceStatus (gatewayAndOlt (some .down)) oltRow ∧
      "olt" ∈ (Change.deviceOverride "gw" none).revisited none 1 (gatewayAndOlt (some .down)) := by
  have hmoved : evaluateDeviceStatus
      ((Change.deviceOverride "gw" none).after (gatewayAndOlt (some .down))) oltRow ≠
        evaluateDeviceStatus (gatewayAndOlt (some .down)) oltRow := by decide +kernel
  have hcovered : (Change.deviceOverride "gw" none).Covered none 1 (gatewayAndOlt (some .down)) := by
    intro d hd _
    refine Or.inr ⟨"gw", by decide +kernel, ?_⟩
    rcases List.mem_cons.mp hd with rfl | hd
    · exact .refl
    · rw [List.mem_singleton.mp hd]
      exact .single (Or.inl (by decide +kernel))
  exact ⟨hmoved, incremental_complete_of_covered none 1 _ _ hcovered oltRow (by decide) hmoved⟩

/-- Forcing the gateway DOWN moves the OLT, which is not revisited. -/
theorem incremental_misses_forced_down :
    ¬ Change.Complete none 1 (gatewayAndOlt none) (.deviceOverride "gw" (some .down)) := by
  intro h
  have hmem := h oltRow (by decide) (by decide +kernel)
  exact absurd hmem (by decide +kernel)

end Unoc.Status
