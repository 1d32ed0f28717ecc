import Unoc.Base.System
import Unoc.Optical.SignalBudget

/-!
# Runs of the signal recomputation

Calls of `recompute_optical_paths_for_affected_onts` between edits of the topology. A call compares
each ONT with its row, not with its last event: it loads the rows, writes the new budget to each in
the session and publishes the rows that moved by a threshold. A commit writes the others as well.
-/

namespace Unoc.Optical

open Unoc.Base Unoc.Model

/-! ### Calls and edits -/

/-- A database state and the last `device.optical.updated` event of each device. -/
structure SignalState where
  db : Database
  lastPublished : String → Option OpticalUpdated

/-- The last events after more events. -/
def publishEvents (lastPublished : String → Option OpticalUpdated) (events : List OpticalUpdated)
    (id : String) : Option OpticalUpdated :=
  (events.reverse.find? (fun e ↦ e.id = id)).or (lastPublished id)

private theorem recomputedRow_id (db : Database) (resolve : String → Option OpticalPathResult)
    (backend : String → Backend) (d : Device) : (recomputedRow db resolve backend d).id = d.id := by
  unfold recomputedRow applyAnswer
  split
  · split <;> rfl
  · rfl

private theorem recomputed_ids (db : Database) (resolve : String → Option OpticalPathResult)
    (backend : String → Backend) :
    (recomputeOpticalPathsForAffectedOnts db resolve backend).devices.map Device.id =
      db.devices.map Device.id := by
  unfold recomputeOpticalPathsForAffectedOnts
  split
  · rfl
  · rw [List.map_map]
    exact List.map_congr_left (fun d _ ↦ recomputedRow_id db resolve backend d)

/-- The state after a call. -/
def SignalState.recompute (s : SignalState) (resolve : String → Option OpticalPathResult)
    (backend : String → Backend) : SignalState where
  db := { s.db with
    devices := (recomputeOpticalPathsForAffectedOnts s.db resolve backend).devices
    devices_nodup := by rw [recomputed_ids]; exact s.db.devices_nodup }
  lastPublished := publishEvents s.lastPublished
    (recomputeOpticalPathsForAffectedOnts s.db resolve backend).published

/-- A row whose signal was never computed. -/
def Fresh (d : Device) : Prop :=
  d.signalPowerDbm = none ∧ d.signalMarginDb = none ∧ d.signalStatus = none ∧ d.attenuationDb = none

/-- Nothing but the recomputation writes the signal fields of an ONT; a new row has none. -/
def KeepsSignals (db db' : Database) : Prop :=
  ∀ d' ∈ db'.devices, isOnt d' = true →
    Fresh d' ∨ ∃ d ∈ db.devices, isOnt d = true ∧ signalFields d' = signalFields d

/-- A call, with the paths and the backends that answer it, or an edit of the tables. -/
inductive SignalAction where
  | recompute (resolve : String → Option OpticalPathResult) (backend : String → Backend)
  | edit (db : Database)

/-- A row without computed signal, or one that holds what was published last. -/
def RowPublished (s : SignalState) (d : Device) : Prop :=
  d.signalStatus = none ∨ ∃ e, s.lastPublished d.id = some e ∧
    e.signalStatus = d.signalStatus ∧ e.signalPowerDbm = d.signalPowerDbm ∧
      e.attenuationDb = d.attenuationDb

/-- Runs start where the computed signals of ONTs are those that were published last. -/
def signalRuns : System SignalState SignalAction where
  init s := ∀ d ∈ s.db.devices, isOnt d = true → RowPublished s d
  step s action s' :=
    match action with
    | .recompute resolve backend => s' = s.recompute resolve backend
    | .edit db' => KeepsSignals s.db db' ∧ s' = { s with db := db' }

/-! ### What a call should leave -/

/-- Two values that are both missing or less than a bound apart. -/
def Within (bound : ℚ) : Option ℚ → Option ℚ → Prop
  | some x, some y => |x - y| < bound
  | none, none => True
  | _, _ => False

/-- Equal status, power within 0.1 dB and attenuation within 0.01 dB. -/
structure WithinThresholds (e : OpticalUpdated) (computed : Device) : Prop where
  signalStatus : e.signalStatus = computed.signalStatus
  signalPowerDbm : Within (1 / 10) e.signalPowerDbm computed.signalPowerDbm
  attenuationDb : Within (1 / 100) e.attenuationDb computed.attenuationDb

/-- After a call an ONT without a path has no signal values, and what was published last for an ONT
is within the thresholds of what the call computed. -/
structure NotStale (s : SignalState) (resolve : String → Option OpticalPathResult)
    (backend : String → Backend) : Prop where
  noPath : ∀ d ∈ (s.recompute resolve backend).db.devices, isOnt d = true →
    (getPath (backend d.id) d.id (resolve d.id)).pathExists = false →
      d.signalPowerDbm = none ∧ d.signalMarginDb = none ∧ d.attenuationDb = none ∧
        d.signalStatus = some .noSignal
  published : ∀ d ∈ s.db.devices, isOnt d = true →
    ∃ e, (s.recompute resolve backend).lastPublished d.id = some e ∧
      WithinThresholds e (recomputedRow s.db resolve backend d)

/-- The stored power and attenuation of an ONT are exactly those of an answer. -/
def ExactFor (db : Database) (ont : Device) (path : Option OpticalPathResult)
    (b : Backend) : Prop :=
  ∀ p, path = some p → ont.signalPowerDbm = some (pathTx db b p - answerLoss b p) ∧
    ont.attenuationDb = some (answerLoss b p)

/-- The condition on a call: no ONT without a path has an attenuation, and if some ONT is not
settled for its answer, those that are settled hold exactly theirs. -/
structure CallMeets (db : Database) (resolve : String → Option OpticalPathResult)
    (backend : String → Backend) : Prop where
  noPath : ∀ d ∈ db.devices, isOnt d = true → resolve d.id = none → d.attenuationDb = none
  settled : ∀ moved ∈ db.devices, isOnt moved = true →
    ¬ SettledFor db moved (resolve moved.id) (backend moved.id) →
      ∀ d ∈ db.devices, isOnt d = true → SettledFor db d (resolve d.id) (backend d.id) →
        ExactFor db d (resolve d.id) (backend d.id)

/-- The condition on the calls of a run; edits have none. -/
def ActionMeets (s : SignalState) : SignalAction → Prop
  | .recompute resolve backend => CallMeets s.db resolve backend
  | .edit _ => True

/-! ### One call -/

variable {s : SignalState} {resolve : String → Option OpticalPathResult}
    {backend : String → Backend}

private theorem pathExists_eq_false_iff (b : Backend) (id : String)
    (path : Option OpticalPathResult) :
    (getPath b id path).pathExists = false ↔ path = none := by
  cases path with
  | none => cases b <;> simp [getPath, goGetPath, serviceGetPath, pythonGetPath]
  | some p =>
    have hpos : 0 < p.segments.length := List.length_pos_iff.mpr p.segments_ne
    cases b <;> simp [getPath, goGetPath, serviceGetPath, pythonGetPath, hpos]

private theorem recomputedRow_ont {d : Device} (h : isOnt d = true) :
    recomputedRow s.db resolve backend d =
      applyAnswer s.db d (getPath (backend d.id) d.id (resolve d.id)) := if_pos h

private theorem isOnt_recomputedRow (d : Device) :
    isOnt (recomputedRow s.db resolve backend d) = isOnt d := by
  unfold recomputedRow applyAnswer
  split
  · split <;> rfl
  · rfl

private theorem within_self {bound : ℚ} (hbound : 0 < bound) (x : Option ℚ) : Within bound x x := by
  cases x with
  | none => trivial
  | some x => simpa [Within] using hbound

private theorem withinThresholds_self (d : Device) : WithinThresholds (signalFields d) d :=
  ⟨rfl, within_self (by norm_num) _, within_self (by norm_num) _⟩

private theorem within_of_movedBy {bound : ℚ} {prev next : Option ℚ}
    (hnone : prev.isNone = next.isNone) (hmoved : movedBy bound prev next = false) :
    Within bound prev next := by
  cases prev <;> cases next <;> simp_all [Within, movedBy]

/-- A row that did not change meaningfully is within the thresholds of the computed one. -/
theorem withinThresholds_of_unchanged {prev next : Device} (h : changed prev next = false) :
    WithinThresholds (signalFields prev) next := by
  simp only [changed, Bool.or_eq_false_iff, decide_eq_false_iff_not, not_not, bne_eq_false_iff_eq,
    ne_eq] at h
  obtain ⟨⟨⟨⟨⟨hstatus, hpower⟩, _⟩, hloss⟩, hpowerMoved⟩, hlossMoved⟩ := h
  exact ⟨hstatus, within_of_movedBy hpower hpowerMoved, within_of_movedBy hloss hlossMoved⟩

private theorem mem_updatedOnts_iff {d : Device} :
    d ∈ updatedOnts s.db resolve backend ↔ d ∈ s.db.devices ∧ isOnt d = true ∧
      changed d (recomputedRow s.db resolve backend d) = true := by
  simp only [updatedOnts, List.mem_filter, and_assoc]

/-- The last event of an ONT after a call: of the call, if it changed. -/
theorem lastPublished_recompute {d : Device} (hd : d ∈ s.db.devices) (hont : isOnt d = true) :
    (s.recompute resolve backend).lastPublished d.id =
      if changed d (recomputedRow s.db resolve backend d) = true then
        some (signalFields (recomputedRow s.db resolve backend d))
      else s.lastPublished d.id := by
  have hpublished : (recomputeOpticalPathsForAffectedOnts s.db resolve backend).published =
      (updatedOnts s.db resolve backend).map
        (fun d ↦ signalFields (recomputedRow s.db resolve backend d)) := by
    unfold recomputeOpticalPathsForAffectedOnts
    split
    · next h => rw [h, List.map_nil]
    · rfl
  have hid : ∀ x, (signalFields (recomputedRow s.db resolve backend x)).id = x.id :=
    fun x ↦ recomputedRow_id s.db resolve backend x
  show publishEvents _ _ _ = _
  unfold publishEvents
  rw [hpublished, ← List.map_reverse, List.find?_map]
  simp only [Function.comp_def, hid]
  cases hf : (updatedOnts s.db resolve backend).reverse.find? (fun x ↦ decide (x.id = d.id)) with
  | none =>
    have hnot : ¬ changed d (recomputedRow s.db resolve backend d) = true := by
      intro hchanged
      have hmem := List.mem_reverse.mpr (mem_updatedOnts_iff.mpr ⟨hd, hont, hchanged⟩)
      simpa using List.find?_eq_none.mp hf d hmem
    rw [if_neg hnot]
    rfl
  | some x =>
    have hmem := mem_updatedOnts_iff.mp (List.mem_reverse.mp (List.mem_of_find?_eq_some hf))
    have hxd : x.id = d.id := by simpa using List.find?_some hf
    have hx : x = d := List.inj_on_of_nodup_map s.db.devices_nodup hmem.1 hd hxd
    subst hx
    rw [if_pos hmem.2.2]
    rfl

/-- What a call stores: nothing if no ONT changed, else every computed row. -/
theorem mem_recompute {d' : Device} (h : d' ∈ (s.recompute resolve backend).db.devices) :
    ∃ d ∈ s.db.devices,
      (d' = d ∧ ∀ x ∈ s.db.devices, isOnt x = true →
        changed x (recomputedRow s.db resolve backend x) = false) ∨
      (d' = recomputedRow s.db resolve backend d ∧ ∃ moved ∈ s.db.devices, isOnt moved = true ∧
        changed moved (recomputedRow s.db resolve backend moved) = true) := by
  have h' : d' ∈ (recomputeOpticalPathsForAffectedOnts s.db resolve backend).devices := h
  unfold recomputeOpticalPathsForAffectedOnts at h'
  cases hupdated : updatedOnts s.db resolve backend with
  | nil =>
    rw [hupdated] at h'
    refine ⟨d', h', Or.inl ⟨rfl, ?_⟩⟩
    intro x hx hont
    by_contra hchanged
    have hmem := mem_updatedOnts_iff.mpr ⟨hx, hont, Bool.not_eq_false _ ▸ hchanged⟩
    rw [hupdated] at hmem
    cases hmem
  | cons moved rest =>
    rw [hupdated] at h'
    obtain ⟨d, hd, rfl⟩ := List.mem_map.mp h'
    have hmoved : moved ∈ updatedOnts s.db resolve backend := by
      rw [hupdated]
      exact List.mem_cons_self
    exact ⟨d, hd, Or.inr ⟨rfl, moved, mem_updatedOnts_iff.mp hmoved⟩⟩

/-- An unchanged ONT is settled for its answer. -/
theorem settledFor_of_unchanged {d : Device} (hont : isOnt d = true)
    (h : changed d (recomputedRow s.db resolve backend d) = false) :
    SettledFor s.db d (resolve d.id) (backend d.id) := by
  rw [recomputedRow_ont hont] at h
  exact (changed_eq_false_iff _ _ _).mp h

private theorem not_settledFor_of_changed {d : Device} (hont : isOnt d = true)
    (h : changed d (recomputedRow s.db resolve backend d) = true) :
    ¬ SettledFor s.db d (resolve d.id) (backend d.id) := by
  rw [recomputedRow_ont hont] at h
  rw [← changed_eq_false_iff, h]
  decide

private theorem signalStatus_ne_none {d : Device} {path : Option OpticalPathResult} {b : Backend}
    (h : SettledFor s.db d path b) : d.signalStatus ≠ none := by
  cases path with
  | none => rw [h.1]; simp
  | some p => rw [h.1]; simp

/-- The event of an unchanged ONT. -/
theorem event_of_unchanged {d : Device} (hont : isOnt d = true) (hrow : RowPublished s d)
    (h : changed d (recomputedRow s.db resolve backend d) = false) :
    ∃ e, s.lastPublished d.id = some e ∧ e.signalStatus = d.signalStatus ∧
      e.signalPowerDbm = d.signalPowerDbm ∧ e.attenuationDb = d.attenuationDb :=
  hrow.resolve_left (signalStatus_ne_none (settledFor_of_unchanged hont h))

/-- A settled ONT that holds exactly its answer keeps its values. -/
theorem recomputedRow_of_exact {d : Device} (hont : isOnt d = true)
    (h : changed d (recomputedRow s.db resolve backend d) = false)
    (hexact : ExactFor s.db d (resolve d.id) (backend d.id)) :
    (recomputedRow s.db resolve backend d).signalStatus = d.signalStatus ∧
      (recomputedRow s.db resolve backend d).signalPowerDbm = d.signalPowerDbm ∧
      (recomputedRow s.db resolve backend d).attenuationDb = d.attenuationDb := by
  have hsettled := settledFor_of_unchanged hont h
  rw [recomputedRow_ont hont]
  cases hp : resolve d.id with
  | none =>
    rw [hp] at hsettled
    rw [applyAnswer_none]
    exact ⟨hsettled.1.symm, hsettled.2.1.symm, rfl⟩
  | some p =>
    rw [hp] at hsettled
    obtain ⟨hpower, hloss⟩ := hexact p hp
    rw [applyAnswer_some]
    exact ⟨hsettled.1.symm, hpower.symm, hloss.symm⟩

/-- A call that meets the condition leaves nothing stale, if the rows were published before. -/
theorem notStale_of_meets (hrows : ∀ d ∈ s.db.devices, isOnt d = true → RowPublished s d)
    (h : CallMeets s.db resolve backend) : NotStale s resolve backend where
  noPath := by
    intro d' hd' hont hpath
    have hnone := (pathExists_eq_false_iff _ _ _).mp hpath
    obtain ⟨d, hd, hkept | hcomputed⟩ := mem_recompute hd'
    · obtain ⟨rfl, hunchanged⟩ := hkept
      have hsettled := settledFor_of_unchanged hont (hunchanged d' hd hont)
      rw [hnone] at hsettled
      exact ⟨hsettled.2.1, hsettled.2.2, h.noPath d' hd hont hnone, hsettled.1⟩
    · obtain ⟨rfl, _⟩ := hcomputed
      rw [isOnt_recomputedRow] at hont
      rw [recomputedRow_id] at hnone
      rw [recomputedRow_ont hont, hnone, applyAnswer_none]
      exact ⟨rfl, rfl, h.noPath d hd hont hnone, rfl⟩
  published := by
    intro d hd hont
    rw [lastPublished_recompute hd hont]
    by_cases hchanged : changed d (recomputedRow s.db resolve backend d) = true
    · rw [if_pos hchanged]
      exact ⟨_, rfl, withinThresholds_self _⟩
    · rw [if_neg hchanged]
      have hunchanged := Bool.eq_false_iff.mpr hchanged
      obtain ⟨e, he, hstatus, hpower, hloss⟩ :=
        event_of_unchanged hont (hrows d hd hont) hunchanged
      have hwithin := withinThresholds_of_unchanged hunchanged
      refine ⟨e, he, ?_, ?_, ?_⟩
      · rw [hstatus]
        exact hwithin.signalStatus
      · rw [hpower]
        exact hwithin.signalPowerDbm
      · rw [hloss]
        exact hwithin.attenuationDb

/-- A call that meets the condition leaves every row as it was published. -/
theorem rowPublished_recompute (hrows : ∀ d ∈ s.db.devices, isOnt d = true → RowPublished s d)
    (h : CallMeets s.db resolve backend) :
    ∀ d ∈ (s.recompute resolve backend).db.devices, isOnt d = true →
      RowPublished (s.recompute resolve backend) d := by
  intro d' hd' hont
  obtain ⟨d, hd, hkept | hcomputed⟩ := mem_recompute hd'
  · obtain ⟨rfl, hunchanged⟩ := hkept
    unfold RowPublished
    rw [lastPublished_recompute hd hont, hunchanged d' hd hont]
    exact hrows d' hd hont
  · obtain ⟨rfl, moved, hmoved, hmovedOnt, hmovedChanged⟩ := hcomputed
    rw [isOnt_recomputedRow] at hont
    right
    rw [recomputedRow_id, lastPublished_recompute hd hont]
    by_cases hchanged : changed d (recomputedRow s.db resolve backend d) = true
    · rw [if_pos hchanged]
      exact ⟨_, rfl, rfl, rfl, rfl⟩
    · rw [if_neg hchanged]
      have hunchanged := Bool.eq_false_iff.mpr hchanged
      obtain ⟨e, he, hstatus, hpower, hloss⟩ :=
        event_of_unchanged hont (hrows d hd hont) hunchanged
      have hexact := h.settled moved hmoved hmovedOnt
        (not_settledFor_of_changed hmovedOnt hmovedChanged) d hd hont
        (settledFor_of_unchanged hont hunchanged)
      obtain ⟨hstatus', hpower', hloss'⟩ := recomputedRow_of_exact hont hunchanged hexact
      exact ⟨e, he, hstatus.trans hstatus'.symm, hpower.trans hpower'.symm,
        hloss.trans hloss'.symm⟩

/-! ### Runs -/

/-- An edit keeps the rows as they were published. -/
theorem rowPublished_edit {db' : Database}
    (hrows : ∀ d ∈ s.db.devices, isOnt d = true → RowPublished s d) (h : KeepsSignals s.db db') :
    ∀ d ∈ db'.devices, isOnt d = true → RowPublished { s with db := db' } d := by
  intro d' hd' hont
  cases h d' hd' hont with
  | inl hfresh => exact Or.inl hfresh.2.2.1
  | inr hkept =>
    obtain ⟨d, hd, hdont, hfields⟩ := hkept
    simp only [signalFields, OpticalUpdated.mk.injEq] at hfields
    obtain ⟨hid, hpower, _, hstatus, hloss⟩ := hfields
    unfold RowPublished
    rw [hid, hpower, hstatus, hloss]
    exact hrows d hd hdont

/-- In a run whose calls meet the condition, the rows of ONTs are as they were published. -/
theorem rowPublished_of_reachable (h : (signalRuns.restrict ActionMeets).Reachable s) :
    ∀ d ∈ s.db.devices, isOnt d = true → RowPublished s d := by
  refine System.Reachable.invariant (fun s hinit ↦ hinit) ?_ h
  intro s action s' hrows hstep
  obtain ⟨hmeets, hstep⟩ := hstep
  cases action with
  | recompute resolve backend =>
    cases hstep
    exact rowPublished_recompute hrows hmeets
  | edit db' =>
    obtain ⟨hkeeps, rfl⟩ := hstep
    exact rowPublished_edit hrows hkeeps

/-- In a run whose calls meet the condition, no call leaves stale signals. -/
theorem recompute_notStale {s : SignalState} (h : (signalRuns.restrict ActionMeets).Reachable s)
    (resolve : String → Option OpticalPathResult) (backend : String → Backend)
    (hcall : CallMeets s.db resolve backend) : NotStale s resolve backend :=
  notStale_of_meets (rowPublished_of_reachable h) hcall

/-- An OLT and two ONTs whose signals were never computed. -/
def newOnts : SignalState where
  db := {
    devices := [{ id := "olt", type := .olt, txPowerDbm := some 5 },
      { id := "ont-a", type := .ont }, { id := "ont-b", type := .ont }]
    interfaces := []
    links := []
    interfaces_nodup := List.nodup_nil
    links_nodup := List.nodup_nil }
  lastPublished := fun _ ↦ none

/-- The ONTs behind fibres of some loss, if any. -/
def fibrePaths (lossA lossB : Option ℚ) (ontId : String) : Option OpticalPathResult :=
  (if ontId = "ont-a" then lossA else if ontId = "ont-b" then lossB else none).map (fun loss ↦
    { oltId := "olt", totalAttenuationDb := loss, segments := [⟨ontId, "olt", none, loss⟩]
      segments_ne := by simp })

/-- The state after one more call that the Go service answers. -/
def SignalState.recomputeGo (s : SignalState) (lossA lossB : Option ℚ) : SignalState :=
  s.recompute (fibrePaths lossA lossB) (fun _ ↦ .go)

/-- The first call for new ONTs. -/
theorem recompute_notStale_newOnts :
    NotStale newOnts (fibrePaths (some 10) (some 20)) (fun _ ↦ .go) := by
  have hnew : ∀ d ∈ newOnts.db.devices, d.signalStatus = none := by decide
  have hinit : (signalRuns.restrict ActionMeets).Reachable newOnts :=
    .init (fun d hd _ ↦ Or.inl (hnew d hd))
  apply recompute_notStale hinit
  constructor
  · decide
  · intro moved _ _ _ d hd _ hsettled
    exact absurd (hnew d hd) (signalStatus_ne_none hsettled)

/-- An ONT that loses its path keeps its attenuation, and an ONT whose attenuation drifts by 0.006
dB in two calls is not published when the other ONT makes the first of them commit. -/
theorem recompute_stale_lost_path_or_drift :
    ¬ NotStale (newOnts.recomputeGo (some 10) (some 20)) (fibrePaths none (some 20)) (fun _ ↦ .go) ∧
      ¬ NotStale ((newOnts.recomputeGo (some 10) (some 20)).recomputeGo
          (some (10006 / 1000)) (some 30))
        (fibrePaths (some (10012 / 1000)) (some 30)) (fun _ ↦ .go) := by
  constructor
  · intro h
    have hnull : ∀ d ∈ ((newOnts.recomputeGo (some 10) (some 20)).recomputeGo none
        (some 20)).db.devices,
        isOnt d = true → (getPath .go d.id (fibrePaths none (some 20) d.id)).pathExists = false →
          d.attenuationDb = none :=
      fun d hd hont hpath ↦ (h.noPath d hd hont hpath).2.2.1
    revert hnull
    decide +kernel
  · intro h
    have hlast : (((newOnts.recomputeGo (some 10) (some 20)).recomputeGo
        (some (10006 / 1000)) (some 30)).recomputeGo
          (some (10012 / 1000)) (some 30)).lastPublished "ont-a" =
        some ⟨"ont-a", some (-5), some 25, some .ok, some 10⟩ := by
      decide +kernel
    have hcomputed : ∃ d ∈ ((newOnts.recomputeGo (some 10) (some 20)).recomputeGo
        (some (10006 / 1000)) (some 30)).db.devices, d.id = "ont-a" ∧ isOnt d = true ∧
          (recomputedRow ((newOnts.recomputeGo (some 10) (some 20)).recomputeGo
            (some (10006 / 1000)) (some 30)).db (fibrePaths (some (10012 / 1000)) (some 30))
              (fun _ ↦ .go) d).attenuationDb = some (10012 / 1000) := by
      decide +kernel
    obtain ⟨d, hd, hid, hont, hloss⟩ := hcomputed
    obtain ⟨e, he, hwithin⟩ := h.published d hd hont
    rw [hid] at he
    cases Option.some.inj (he.symm.trans hlast)
    have hnear := hwithin.attenuationDb
    rw [hloss] at hnear
    norm_num [Within, abs_lt] at hnear

end Unoc.Optical
