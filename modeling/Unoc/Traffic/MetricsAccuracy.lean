import Mathlib.Data.List.Induction
import Unoc.Traffic.MetricsService

/-!
# Accuracy of the metrics snapshot

An entry is replaced when the bucket changes or the utilization moves by `EPSILON_METRICS_DELTA`, so
an entry that is compared in every tick stays close to the measured value. Devices are compared in
every tick; a link is compared only in the ticks in which it carries traffic.
-/

namespace Unoc.Traffic.MetricsService

open Unoc.Base Unoc.Model
open Unoc.Traffic.CatalogEffective

/-! ### Close utilizations -/

/-- Same bucket and less than `EPSILON_METRICS_DELTA` apart, or both infinite. -/
def CloseTo : Utilization → Utilization → Prop
  | .finite u, .finite v =>
    utilizationBucket (.finite u) = utilizationBucket (.finite v) ∧ |u - v| < epsilonMetricsDelta
  | .infinite, .infinite => True
  | _, _ => False

/-- Whether two utilizations are close compares their numbers. -/
instance (u v : Utilization) : Decidable (CloseTo u v) :=
  match u, v with
  | .finite _, .finite _ => inferInstanceAs (Decidable (_ ∧ _))
  | .infinite, .infinite => .isTrue trivial
  | .finite _, .infinite => .isFalse id
  | .infinite, .finite _ => .isFalse id

private theorem CloseTo.refl (u : Utilization) : CloseTo u u := by
  cases u with
  | finite u => simp [CloseTo, epsilonMetricsDelta]
  | infinite => trivial

/-- A value that is not replaced is close. -/
theorem closeTo_of_not_reached {u prev : Utilization}
    (hbucket : utilizationBucket u = utilizationBucket prev)
    (hdelta : deltaReached u prev = false) :
    CloseTo prev u := by
  cases u with
  | finite u =>
    cases prev with
    | finite prev =>
      refine ⟨hbucket.symm, ?_⟩
      rw [abs_sub_comm]
      simpa [deltaReached] using hdelta
    | infinite => cases hdelta
  | infinite =>
    cases prev with
    | finite prev => cases hdelta
    | infinite => trivial

private theorem utilizationOf_zero (capMbps : Option ℚ) : utilizationOf 0 capMbps = .finite 0 := by
  unfold utilizationOf
  cases capMbps.filter (fun cap ↦ 0 < cap) <;> simp

/-! ### One comparison -/

/-- The entry after a comparison with a measure. -/
def compared (prev : Option Reading) (m : Measure) : Option Reading :=
  match replacement prev m with
  | none => prev
  | some (reading, _) => some reading

private theorem lookup_diff (acc : Dict String Reading × List Measure) (m : Measure) (id : String) :
    (diff acc m).1.lookup id =
      if m.id = id then compared (acc.1.lookup id) m else acc.1.lookup id := by
  unfold diff compared
  by_cases hid : m.id = id
  · subst hid
    cases replacement (acc.1.lookup m.id) m with
    | none => simp
    | some r => simp
  · cases replacement (acc.1.lookup m.id) m with
    | none => simp [hid]
    | some r => simp [hid, AList.lookup_insert_ne (Ne.symm hid)]

/-- The loop compares each entry with the measure of its id. -/
theorem lookup_foldl_diff (ms : List Measure) (hnodup : (ms.map Measure.id).Nodup)
    (acc : Dict String Reading × List Measure) (id : String) :
    (ms.foldl diff acc).1.lookup id =
      match ms.find? (fun m ↦ m.id = id) with
      | none => acc.1.lookup id
      | some m => compared (acc.1.lookup id) m := by
  induction ms generalizing acc with
  | nil => rfl
  | cons m ms ih =>
    obtain ⟨hnew, hnodup⟩ := List.nodup_cons.mp hnodup
    rw [List.foldl_cons, ih hnodup, lookup_diff]
    by_cases hid : m.id = id
    · have hnone : ms.find? (fun m ↦ m.id = id) = none := by
        apply List.find?_eq_none.mpr
        intro m' hm' hid'
        apply hnew
        rw [hid, ← of_decide_eq_true hid']
        exact List.mem_map_of_mem hm'
      simp [hnone, hid]
    · simp [hid]

/-- After a comparison the entry is the reading of a value measured so far, close to the last. -/
theorem compared_close {measures : List Measure} {prev : Option Reading} {m : Measure}
    (hprev : ∀ r, prev = some r → ∃ m' ∈ measures, r = m'.reading)
    (hfirst : prev = none → 0 ≤ m.bps) (hzero : m.bps = 0 → m.utilization = .finite 0) :
    ∃ m' ∈ measures ++ [m], compared prev m = some m'.reading ∧
      CloseTo m'.utilization m.utilization := by
  have hself : ∃ m' ∈ measures ++ [m], some m.reading = some m'.reading ∧
      CloseTo m'.utilization m.utilization :=
    ⟨m, by simp, rfl, CloseTo.refl _⟩
  cases prev with
  | none =>
    by_cases hpos : 0 < m.bps
    · simpa [compared, replacement, hpos] using hself
    · have hbps : m.bps = 0 := le_antisymm (not_lt.mp hpos) (hfirst rfl)
      have hreading : m.reading = ⟨0, .finite 0, utilizationBucket (.finite 0)⟩ := by
        simp [Measure.reading, hbps, hzero hbps]
      simpa [compared, replacement, hpos, hreading] using hself
  | some r =>
    obtain ⟨m', hm', rfl⟩ := hprev r rfl
    by_cases hchange : utilizationBucket m.utilization ≠ m'.reading.bucket ∨
        deltaReached m.utilization m'.reading.utilization = true
    · simpa [compared, replacement, hchange] using hself
    · obtain ⟨hbucket, hdelta⟩ := not_or.mp hchange
      refine ⟨m', List.mem_append_left _ hm', by simp [compared, replacement, hchange], ?_⟩
      exact closeTo_of_not_reached (not_not.mp hbucket) (Bool.eq_false_iff.mpr hdelta)

/-- What a tick does to the entry of one device or link. -/
inductive EntryStep (prev next : Option Reading) (m : Measure) : Prop where
  | compared (hnext : next = compared prev m) (hfirst : prev = none → 0 ≤ m.bps)
  | idle (hnext : next = prev) (hbps : m.bps = 0)
      (hclose : ∀ r, prev = some r → CloseTo r.utilization (.finite 0))

/-- The entry is that of a value measured so far and close to the last one, or there is none and
nothing has been measured. -/
def EntryClose (measures : List Measure) (m : Measure) (entry : Option Reading) : Prop :=
  (entry = none ∧ m.bps = 0) ∨
    ∃ m' ∈ measures, entry = some m'.reading ∧ CloseTo m'.utilization m.utilization

private theorem EntryStep.close {measures : List Measure} {prev next : Option Reading} {m : Measure}
    (h : EntryStep prev next m) (hprev : ∀ r, prev = some r → ∃ m' ∈ measures, r = m'.reading)
    (hzero : m.bps = 0 → m.utilization = .finite 0) : EntryClose (measures ++ [m]) m next := by
  cases h with
  | compared hnext hfirst =>
    rw [hnext]
    exact Or.inr (compared_close hprev hfirst hzero)
  | idle hnext hbps hclose =>
    rw [hnext]
    cases prev with
    | none => exact Or.inl ⟨rfl, hbps⟩
    | some r =>
      obtain ⟨m', hm', rfl⟩ := hprev r rfl
      have hclose := hclose _ rfl
      rw [← hzero hbps] at hclose
      exact Or.inr ⟨m', List.mem_append_left _ hm', rfl, hclose⟩

/-! ### One tick -/

private theorem mem_keys_bump {totals : Totals} {id k : String} {bps : ℚ} :
    k ∈ (totals.bump id bps).map Prod.fst ↔ k ∈ totals.map Prod.fst ∨ k = id := by
  induction totals with
  | nil => simp [Totals.bump]
  | cons e rest ih =>
    obtain ⟨k', sum⟩ := e
    by_cases hk : k' = id
    · subst hk
      simp only [Totals.bump, if_true, List.map_cons, List.mem_cons]
      tauto
    · simp only [Totals.bump, if_neg hk, List.map_cons, List.mem_cons, ih]
      tauto

private theorem nodup_bump {totals : Totals} (h : (totals.map Prod.fst).Nodup) (id : String)
    (bps : ℚ) :
    ((totals.bump id bps).map Prod.fst).Nodup := by
  induction totals with
  | nil => simp [Totals.bump]
  | cons e rest ih =>
    obtain ⟨k', sum⟩ := e
    obtain ⟨hnew, hrest⟩ := List.nodup_cons.mp h
    by_cases hk : k' = id
    · simpa [Totals.bump, hk] using h
    · simp only [Totals.bump, if_neg hk, List.map_cons, List.nodup_cons]
      refine ⟨?_, ih hrest⟩
      rw [mem_keys_bump]
      intro hmem
      cases hmem with
      | inl hmem => exact hnew hmem
      | inr heq => exact hk heq

private theorem nodup_foldl_bump {α : Type} (key : α → String) (bps : α → ℚ) (xs : List α)
    {totals : Totals} (h : (totals.map Prod.fst).Nodup) :
    ((xs.foldl (fun totals x ↦ totals.bump (key x) (bps x)) totals).map Prod.fst).Nodup := by
  induction xs generalizing totals with
  | nil => exact h
  | cons x xs ih => exact ih (nodup_bump h _ _)

section Service

variable {db : Catalog} {shortestPath : String → String → Option (List String)}

private theorem nodup_linkTotals (t : Tick) :
    ((linkTotals db shortestPath t).map Prod.fst).Nodup := by
  have hleaves : ∀ (leaves : Totals) (totals : Totals), (totals.map Prod.fst).Nodup →
      ((leaves.foldl (fun totals leaf ↦
        let path := leafPath db shortestPath leaf.1
        ((path.zip (path.drop 1)).filterMap (fun e ↦ edgeLinkId db e.1 e.2)).foldl
          (fun totals linkId ↦ totals.bump linkId leaf.2) totals) totals).map Prod.fst).Nodup := by
    intro leaves
    induction leaves with
    | nil => exact fun totals h ↦ h
    | cons leaf leaves ih =>
      exact fun totals h ↦ ih _ (nodup_foldl_bump (fun linkId ↦ linkId) (fun _ ↦ leaf.2) _ h)
  exact hleaves _ [] List.nodup_nil

variable (db shortestPath)

/-- What is true of a link in a tick: its measure if it carries traffic, else nothing. -/
def trueLink (t : Tick) (linkId : String) : Measure :=
  match (linkTotals db shortestPath t).get? linkId with
  | some bps => linkMeasure db linkId bps
  | none => ⟨linkId, 0, .finite 0⟩

/-- A link carries traffic in a tick. -/
def Carries (t : Tick) (linkId : String) : Prop :=
  ((linkTotals db shortestPath t).get? linkId).isSome = true

/-- Whether a link carries traffic is checked on the paths of the flows. -/
instance (t : Tick) (linkId : String) : Decidable (Carries db shortestPath t linkId) :=
  inferInstanceAs (Decidable (_ = true))

variable {db shortestPath}

/-- Every device is compared in every tick. -/
theorem lookup_last (st : MetricsState) (t : Tick) {d : Device} (hd : d ∈ db.devices) :
    (processTick db shortestPath st t).1.last.lookup d.id =
      compared (st.last.lookup d.id) (deviceMeasure db shortestPath t d) := by
  have hids : (db.devices.map (deviceMeasure db shortestPath t)).map Measure.id =
      db.devices.map Device.id := by
    rw [List.map_map]
    rfl
  have hfind : (db.devices.map (deviceMeasure db shortestPath t)).find? (fun m ↦ m.id = d.id) =
      some (deviceMeasure db shortestPath t d) := by
    rw [List.find?_map]
    show (db.devices.find? (fun x ↦ x.id = d.id)).map _ = _
    rw [(find?_key_eq_some db.devices_nodup).mpr ⟨hd, rfl⟩]
    rfl
  show ((db.devices.map (deviceMeasure db shortestPath t)).foldl diff (st.last, [])).1.lookup _ = _
  rw [lookup_foldl_diff _ (hids ▸ db.devices_nodup), hfind]

/-- A link is compared in the ticks in which it carries traffic. -/
theorem lookup_lastLinks (st : MetricsState) (t : Tick) (linkId : String) :
    (processTick db shortestPath st t).1.lastLinks.lookup linkId =
      match (linkTotals db shortestPath t).get? linkId with
      | some bps => compared (st.lastLinks.lookup linkId) (linkMeasure db linkId bps)
      | none => st.lastLinks.lookup linkId := by
  have hids : ((linkTotals db shortestPath t).map (fun e ↦ linkMeasure db e.1 e.2)).map Measure.id =
      (linkTotals db shortestPath t).map Prod.fst := by
    rw [List.map_map]
    rfl
  have hfind : ((linkTotals db shortestPath t).map (fun e ↦ linkMeasure db e.1 e.2)).find?
      (fun m ↦ m.id = linkId) =
        ((linkTotals db shortestPath t).get? linkId).map (linkMeasure db linkId) := by
    rw [List.find?_map]
    show ((linkTotals db shortestPath t).find? (fun e ↦ e.1 = linkId)).map _ = _
    unfold Totals.get?
    cases hf : (linkTotals db shortestPath t).find? (fun e ↦ e.1 = linkId) with
    | none => rfl
    | some e =>
      have he : e.1 = linkId := by simpa using List.find?_some hf
      simp [he]
  show (((linkTotals db shortestPath t).map (fun e ↦ linkMeasure db e.1 e.2)).foldl diff
    (st.lastLinks, [])).1.lookup _ = _
  rw [lookup_foldl_diff _ (hids ▸ nodup_linkTotals t), hfind]
  cases (linkTotals db shortestPath t).get? linkId <;> rfl

/-! ### Runs -/

variable (db shortestPath)

/-- The state after a sequence of ticks. -/
def runTicks (ticks : List Tick) : MetricsState :=
  ticks.foldl (fun st t ↦ (processTick db shortestPath st t).1) {}

/-- The condition on a tick: nothing is seen for the first time with a negative rate, and a link
with an entry carries traffic, unless its entry is close to none. -/
structure StepMeets (st : MetricsState) (t : Tick) : Prop where
  device : ∀ d ∈ db.devices, st.last.lookup d.id = none →
    0 ≤ (deviceMeasure db shortestPath t d).bps
  link : ∀ l ∈ db.links, st.lastLinks.lookup l.id = none → 0 ≤ (trueLink db shortestPath t l.id).bps
  idle : ∀ l ∈ db.links, ∀ r ∈ st.lastLinks.lookup l.id,
    Carries db shortestPath t l.id ∨ CloseTo r.utilization (.finite 0)

/-- Every tick of a sequence meets the condition in the state before it. -/
inductive RunMeets : List Tick → Prop where
  | nil : RunMeets []
  | concat {ticks : List Tick} {t : Tick} (h : RunMeets ticks)
      (hstep : StepMeets db shortestPath (runTicks db shortestPath ticks) t) :
          RunMeets (ticks ++ [t])

/-- A snapshot entry is that of a value measured so far whose utilization is close to the last. -/
def AccurateEntry (ticks : List Tick) (last : Tick) (measure : Tick → Measure) (e : SnapshotEntry) :
    Prop :=
  ∃ t ∈ ticks, e = (measure t).reading.entry ∧
    CloseTo (measure t).utilization (measure last).utilization

/-- The snapshot after a tick; a link without an entry reads as one without traffic. -/
structure AccurateSnapshot (ticks : List Tick) (last : Tick)
    (snapshot : MetricsSnapshot) : Prop where
  lastTick : snapshot.lastTick = last.tick
  devices : ∀ d ∈ db.devices, ∃ e, snapshot.devices d.id = some e ∧
    AccurateEntry ticks last (fun t ↦ deviceMeasure db shortestPath t d) e
  links : ∀ l ∈ db.links,
    AccurateEntry ticks last (fun t ↦ trueLink db shortestPath t l.id)
      ((snapshot.links l.id).getD ⟨0, 0, 0⟩)

variable {db shortestPath}

private theorem runTicks_concat (ticks : List Tick) (t : Tick) :
    runTicks db shortestPath (ticks ++ [t]) =
      (processTick db shortestPath (runTicks db shortestPath ticks) t).1 := by
  unfold runTicks
  rw [List.foldl_append]
  rfl

private theorem RunMeets.of_concat {ticks : List Tick} {t : Tick}
    (h : RunMeets db shortestPath (ticks ++ [t])) :
    RunMeets db shortestPath ticks ∧
        StepMeets db shortestPath (runTicks db shortestPath ticks) t := by
  generalize hrun : ticks ++ [t] = run at h
  cases h with
  | nil => simp at hrun
  | concat h hstep =>
    obtain ⟨rfl, ht⟩ := List.append_inj' hrun rfl
    cases ht
    exact ⟨h, hstep⟩

/-- An entry that every tick compares or leaves idle is close to what the last tick measures. -/
theorem entry_close (entry : MetricsState → Option Reading) (measure : Tick → Measure)
    (hempty : entry {} = none)
    (hzero : ∀ t, (measure t).bps = 0 → (measure t).utilization = .finite 0)
    (hstep : ∀ st t, StepMeets db shortestPath st t →
      EntryStep (entry st) (entry (processTick db shortestPath st t).1) (measure t))
    (ticks : List Tick) (t : Tick) (h : RunMeets db shortestPath (ticks ++ [t])) :
    EntryClose ((ticks ++ [t]).map measure) (measure t)
      (entry (runTicks db shortestPath (ticks ++ [t]))) := by
  induction ticks using List.reverseRecOn generalizing t with
  | nil =>
    have hnone : entry (runTicks db shortestPath []) = none := hempty
    obtain ⟨_, hmeets⟩ := h.of_concat
    rw [runTicks_concat]
    have hprev : ∀ r, entry (runTicks db shortestPath []) = some r →
        ∃ m ∈ ([] : List Measure), r = m.reading := by
      intro r hr
      rw [hnone] at hr
      cases hr
    exact (hstep _ t hmeets).close hprev (hzero t)
  | append_singleton ticks t₀ ih =>
    obtain ⟨hbefore, hmeets⟩ := h.of_concat
    rw [runTicks_concat, List.map_append]
    apply (hstep _ t hmeets).close _ (hzero t)
    intro r hr
    cases ih t₀ hbefore with
    | inl hnone => rw [hnone.1] at hr; cases hr
    | inr hsome =>
      obtain ⟨m, hm, hentry, _⟩ := hsome
      rw [hentry] at hr
      exact ⟨m, hm, (Option.some.inj hr).symm⟩

private theorem utilization_deviceMeasure {t : Tick} {d : Device}
    (h : (deviceMeasure db shortestPath t d).bps = 0) :
    (deviceMeasure db shortestPath t d).utilization = .finite 0 := by
  unfold deviceMeasure at h ⊢
  simp only at h ⊢
  rw [h, utilizationOf_zero]

private theorem utilization_trueLink {t : Tick} {linkId : String}
    (h : (trueLink db shortestPath t linkId).bps = 0) :
    (trueLink db shortestPath t linkId).utilization = .finite 0 := by
  unfold trueLink at h ⊢
  split
  · next bps hbps =>
    rw [hbps] at h
    have hbps : bps = 0 := h
    subst hbps
    exact utilizationOf_zero _
  · rfl

/-- A tick compares every device. -/
theorem device_step {st : MetricsState} {t : Tick} (h : StepMeets db shortestPath st t)
    {d : Device} (hd : d ∈ db.devices) :
    EntryStep (st.last.lookup d.id) ((processTick db shortestPath st t).1.last.lookup d.id)
      (deviceMeasure db shortestPath t d) :=
  .compared (lookup_last st t hd) (h.device d hd)

/-- A tick compares the links that carry traffic. -/
theorem link_step {st : MetricsState} {t : Tick} (h : StepMeets db shortestPath st t) {l : Link}
    (hl : l ∈ db.links) :
    EntryStep (st.lastLinks.lookup l.id)
        ((processTick db shortestPath st t).1.lastLinks.lookup l.id)
      (trueLink db shortestPath t l.id) := by
  have hnext := @lookup_lastLinks db shortestPath st t l.id
  have hfirst := h.link l hl
  have hidle := h.idle l hl
  unfold Carries at hidle
  unfold trueLink at hfirst ⊢
  cases hcarries : (linkTotals db shortestPath t).get? l.id with
  | some bps =>
    simp only [hcarries] at hnext hfirst ⊢
    exact .compared hnext hfirst
  | none =>
    simp only [hcarries] at hnext hidle ⊢
    apply EntryStep.idle hnext rfl
    intro r hr
    simpa using hidle r hr

/-- In a run whose ticks meet the condition the snapshot is accurate after every tick. -/
theorem getSnapshot_accurate (db : Catalog) (shortestPath : String → String → Option (List String))
    (ticks : List Tick) (t : Tick) (h : RunMeets db shortestPath (ticks ++ [t])) :
    AccurateSnapshot db shortestPath (ticks ++ [t]) t
      (getSnapshot (runTicks db shortestPath (ticks ++ [t]))) where
  lastTick := by
    rw [runTicks_concat]
    rfl
  devices := by
    intro d hd
    have hclose := entry_close (fun st ↦ st.last.lookup d.id)
      (fun t ↦ deviceMeasure db shortestPath t d) rfl
      (fun _ ↦ utilization_deviceMeasure) (fun st t hmeets ↦ device_step hmeets hd) ticks t h
    cases hclose with
    | inl hnone =>
      -- a comparison always leaves an entry
      have hlookup := hnone.1
      rw [runTicks_concat, lookup_last _ _ hd] at hlookup
      unfold compared at hlookup
      cases hprev : (runTicks db shortestPath ticks).last.lookup d.id with
      | none =>
        rw [hprev] at hlookup
        unfold replacement at hlookup
        split at hlookup <;> simp_all
      | some r =>
        rw [hprev] at hlookup
        cases hr : replacement (some r) (deviceMeasure db shortestPath t d) <;> simp_all
    | inr hsome =>
      obtain ⟨m, hm, hentry, hclose⟩ := hsome
      obtain ⟨t', ht', rfl⟩ := List.mem_map.mp hm
      refine ⟨_, ?_, t', ht', rfl, hclose⟩
      show ((runTicks db shortestPath (ticks ++ [t])).last.lookup d.id).map Reading.entry = _
      rw [hentry]
      rfl
  links := by
    intro l hl
    have hclose := entry_close (fun st ↦ st.lastLinks.lookup l.id)
      (fun t ↦ trueLink db shortestPath t l.id) rfl
      (fun _ ↦ utilization_trueLink) (fun st t hmeets ↦ link_step hmeets hl) ticks t h
    show AccurateEntry _ _ _
      ((((runTicks db shortestPath (ticks ++ [t])).lastLinks.lookup l.id).map Reading.entry).getD _)
    cases hclose with
    | inl hnone =>
      refine ⟨t, by simp, ?_, CloseTo.refl _⟩
      rw [hnone.1]
      simp [Reading.entry, Measure.reading, hnone.2, utilization_trueLink hnone.2]
    | inr hsome =>
      obtain ⟨m, hm, hentry, hclose⟩ := hsome
      obtain ⟨t', ht', rfl⟩ := List.mem_map.mp hm
      refine ⟨t', ht', ?_, hclose⟩
      rw [hentry]
      rfl

end Service

/-- An ONT behind an OLT and a core router, all ports at 1000 Mbps. -/
def leafNetwork : Catalog where
  devices := [{ id := "core1", type := .coreRouter }, { id := "olt1", type := .olt },
    { id := "ont1", type := .ont }]
  interfaces := [{ id := "core1-if0", deviceId := "core1", name := "if0", capacity := some 1000 },
    { id := "olt1-if0", deviceId := "olt1", name := "if0", capacity := some 1000 },
    { id := "ont1-if0", deviceId := "ont1", name := "if0", capacity := some 1000 }]
  links := [{ id := "l_core", aInterfaceId := "olt1-if0", bInterfaceId := "core1-if0" },
    { id := "l_ont1", aInterfaceId := "ont1-if0", bInterfaceId := "olt1-if0" }]
  hardwareModels := []
  portProfiles := []
  hardwareModels_nodup := List.nodup_nil
  portProfiles_nodup := List.nodup_nil

/-- The shortest paths from the ONT in its graph. -/
def leafPaths (source target : String) : Option (List String) :=
  if (source, target) = ("ont1", "core1") then some ["ont1", "olt1", "core1"] else none

/-- The traffic of the ONT stays the same in the second tick. -/
theorem getSnapshot_accurate_steady :
    AccurateSnapshot leafNetwork leafPaths
      [⟨[("ont1", 50000000)], 7⟩, ⟨[("ont1", 50000000)], 8⟩] ⟨[("ont1", 50000000)], 8⟩
      (getSnapshot (runTicks leafNetwork leafPaths
        [⟨[("ont1", 50000000)], 7⟩, ⟨[("ont1", 50000000)], 8⟩])) := by
  have hfirst : RunMeets leafNetwork leafPaths ([] ++ [⟨[("ont1", 50000000)], 7⟩]) :=
    RunMeets.nil.concat ⟨by decide +kernel, by decide +kernel, by decide +kernel⟩
  exact getSnapshot_accurate leafNetwork leafPaths [⟨[("ont1", 50000000)], 7⟩] _
    (hfirst.concat ⟨by decide +kernel, by decide +kernel, by decide +kernel⟩)

/-- The traffic of the ONT stops in the second tick, and its link keeps the rate of the first. -/
theorem getSnapshot_stale_link :
    ¬ AccurateSnapshot leafNetwork leafPaths [⟨[("ont1", 50000000)], 7⟩, ⟨[], 8⟩] ⟨[], 8⟩
      (getSnapshot (runTicks leafNetwork leafPaths [⟨[("ont1", 50000000)], 7⟩, ⟨[], 8⟩])) := by
  intro h
  have hentry : (getSnapshot (runTicks leafNetwork leafPaths
      [⟨[("ont1", 50000000)], 7⟩, ⟨[], 8⟩])).links "l_ont1" = some ⟨50000000, 1 / 20, 0⟩ := by
    decide +kernel
  have hfar : ∀ t ∈ [⟨[("ont1", 50000000)], 7⟩, ⟨[], 8⟩],
      ⟨50000000, 1 / 20, 0⟩ = (trueLink leafNetwork leafPaths t "l_ont1").reading.entry →
        ¬ CloseTo (trueLink leafNetwork leafPaths t "l_ont1").utilization
          (trueLink leafNetwork leafPaths ⟨[], 8⟩ "l_ont1").utilization := by
    decide +kernel
  obtain ⟨t, ht, he, hclose⟩ := h.links
    { id := "l_ont1", aInterfaceId := "ont1-if0", bInterfaceId := "olt1-if0" } (by decide)
  rw [hentry] at he
  exact hfar t ht he hclose

end Unoc.Traffic.MetricsService
