import Mathlib.Algebra.Order.Ring.Rat
import Mathlib.Logic.Function.Basic
import Mathlib.Tactic.NormNum
import Unoc.Model.Database

/-!
# Signal budget of ONTs

`backend/services/optical_service.py` asks the optical client for the path of each ONT and derives
the received power from it. The client answers from the Go service or from its Python fallback
(`backend/clients/go_services/optical_client.py`); both adapt the same resolved path to one
dictionary shape. The status recomputation that follows the commit writes no signal field.
-/

namespace Unoc.Optical

open Unoc.Model

/-! ### Paths and answers -/

/-- `PathSegment`; `optical_path_resolver.py:40–45`. -/
structure PathSegment where
  src : String
  dst : String
  linkId : Option String
  attenuationDb : ℚ
  deriving DecidableEq, Repr

/-- `OpticalPathResult`. An ONT is no OLT, so its path to one has a segment;
`optical_path_resolver.py:49–52`, `types.go:159–165`. -/
structure OpticalPathResult where
  oltId : String
  totalAttenuationDb : ℚ
  segments : List PathSegment
  segments_ne : segments ≠ [] := by decide

/-- The backends that answer `get_path`. -/
inductive Backend where
  | go
  | python
  deriving DecidableEq, Repr

/-- The `OpticalPath` message; `optical.proto:71–90`. -/
structure OpticalPath where
  oltId : String := ""
  segments : List PathSegment := []
  totalAttenuationDb : ℚ := 0

/-- `Service.GetPath` without an error; `service.go:64–120`. -/
def serviceGetPath (path : Option OpticalPathResult) : OpticalPath :=
  match path with
  | none => {}
  | some p =>
    { oltId := p.oltId
      segments := p.segments.map (fun s ↦ { s with linkId := some (s.linkId.getD "") })
      totalAttenuationDb := p.totalAttenuationDb }

/-- One entry of `segments` in an answer; the two adapters use different keys. -/
inductive AnswerSegment where
  | go (linkId fromDeviceId fromDeviceType toDeviceId toDeviceType : String) (attenuationDb : ℚ)
  | python (deviceId deviceType linkId : String) (lossDb : ℚ)
  deriving DecidableEq, Repr

/-- The dictionary that `get_path` returns; keys that an adapter leaves out read as `none`. -/
structure PathAnswer where
  ontId : String
  oltId : Option String
  pathExists : Bool
  totalAttenuationDb : Option ℚ := none
  totalLossDb : Option ℚ := none
  segments : List AnswerSegment
  backend : Backend

/-- `get_path` on a response of the Go service; `optical_client.py:225–249`. -/
def goGetPath (ontId : String) (response : OpticalPath) : PathAnswer :=
  { ontId := ontId
    oltId := if response.oltId = "" then none else some response.oltId
    pathExists := 0 < response.segments.length
    totalAttenuationDb := some response.totalAttenuationDb
    segments := response.segments.map (fun s ↦
      .go (s.linkId.getD "") s.src "" s.dst "" s.attenuationDb)
    backend := .go }

/-- `_python_get_path` where the resolver raises no error; `optical_client.py:297–334`. -/
def pythonGetPath (ontId : String) (path : Option OpticalPathResult) : PathAnswer :=
  match path with
  | none =>
    { ontId := ontId, oltId := none, pathExists := false, totalLossDb := some 0, segments := [],
      backend := .python }
  | some p =>
    { ontId := ontId
      oltId := some p.oltId
      pathExists := true
      totalLossDb := some p.totalAttenuationDb
      segments := p.segments.map (fun s ↦
        .python s.src "unknown" (s.linkId.getD "") s.attenuationDb)
      backend := .python }

/-- `get_path` as one of the backends answers it. -/
def getPath (backend : Backend) (ontId : String) (path : Option OpticalPathResult) : PathAnswer :=
  match backend with
  | .go => goGetPath ontId (serviceGetPath path)
  | .python => pythonGetPath ontId path

/-! ### Budget of one ONT -/

/-- `_get_model`; `catalog_effective.py:31–34`. -/
def getModel (db : Database) (d : Device) : Option HardwareModel :=
  d.hardwareModelId.bind (fun id ↦ db.hardwareModels.find? (fun m ↦ m.id = id))

/-- `get_effective_tx_power_dbm`; `catalog_effective.py:37–44`. -/
def getEffectiveTxPowerDbm (db : Database) (olt : Device) : ℚ :=
  match olt.txPowerDbm with
  | some tx => tx
  | none => ((getModel db olt).bind HardwareModel.txPowerDbm).getD 0

/-- `get_effective_sensitivity_dbm`; `catalog_effective.py:47–53`. -/
def getEffectiveSensitivityDbm (db : Database) (ont : Device) : ℚ :=
  match ont.sensitivityMinDbm with
  | some sensitivity => sensitivity
  | none => ((getModel db ont).bind HardwareModel.sensitivityMinDbm).getD (-30)

/-- Classification of a margin; `optical_service.py:127–135`. -/
def classify (margin : ℚ) : SignalStatus :=
  if margin < 0 then .noSignal
  else if margin < 3 then .critical
  else if margin < 6 then .warning
  else .ok

/-- Transmit power of the device an answer names; `optical_service.py:109–110`. -/
def answerTx (db : Database) (oltId : Option String) : ℚ :=
  match oltId.bind db.getDevice with
  | some olt => getEffectiveTxPowerDbm db olt
  | none => 0

/-- The ONT after its answer; `optical_service.py:94–140`. -/
def applyAnswer (db : Database) (ont : Device) (result : PathAnswer) : Device :=
  if result.pathExists = false then
    { ont with signalPowerDbm := none, signalMarginDb := none, signalStatus := some .noSignal }
  else
    let totalLoss := result.totalAttenuationDb.getD 0
    let received := answerTx db result.oltId - totalLoss
    let margin := received - getEffectiveSensitivityDbm db ont
    { ont with
      signalPowerDbm := some received
      signalMarginDb := some margin
      signalStatus := some (classify margin)
      attenuationDb := some totalLoss }

/-- `abs(prev - next) >= bound` of two present values. -/
def movedBy (bound : ℚ) (prev next : Option ℚ) : Bool :=
  match prev, next with
  | some p, some n => bound ≤ |p - n|
  | _, _ => false

/-- `changed`; `optical_service.py:157–174`. -/
def changed (prev ont : Device) : Bool :=
  prev.signalStatus ≠ ont.signalStatus ||
    prev.signalPowerDbm.isNone != ont.signalPowerDbm.isNone ||
    prev.signalMarginDb.isNone != ont.signalMarginDb.isNone ||
    prev.attenuationDb.isNone != ont.attenuationDb.isNone ||
    movedBy (1 / 10) prev.signalPowerDbm ont.signalPowerDbm ||
    movedBy (1 / 100) prev.attenuationDb ont.attenuationDb

/-! ### The recomputation -/

/-- ONTs and business ONTs; `optical_service.py:68–72`. -/
def isOnt (d : Device) : Bool := d.type = .ont ∨ d.type = .businessOnt

/-- Payload of `device.optical.updated`; `optical_service.py:198–210`. -/
structure OpticalUpdated where
  id : String
  signalPowerDbm : Option ℚ
  signalMarginDb : Option ℚ
  signalStatus : Option SignalStatus
  attenuationDb : Option ℚ
  deriving DecidableEq, Repr

/-- The signal fields of a row. -/
def signalFields (d : Device) : OpticalUpdated :=
  ⟨d.id, d.signalPowerDbm, d.signalMarginDb, d.signalStatus, d.attenuationDb⟩

/-- The device rows and the events that a recomputation leaves. -/
structure Recomputed where
  devices : List Device
  published : List OpticalUpdated

section Recompute

variable (db : Database) (resolve : String → Option OpticalPathResult) (backend : String → Backend)

/-- A row in the session after the loop. -/
def recomputedRow (d : Device) : Device :=
  if isOnt d then applyAnswer db d (getPath (backend d.id) d.id (resolve d.id)) else d

/-- The ONTs that changed meaningfully. -/
def updatedOnts : List Device :=
  (db.devices.filter isOnt).filter (fun d ↦ changed d (recomputedRow db resolve backend d))

/-- `recompute_optical_paths_for_affected_onts`: the session holds every recomputed row, and a
commit, which writes all of them, only follows a meaningful change; `optical_service.py:47–223`. -/
def recomputeOpticalPathsForAffectedOnts : Recomputed :=
  match updatedOnts db resolve backend with
  | [] => ⟨db.devices, []⟩
  | updated =>
    ⟨db.devices.map (recomputedRow db resolve backend),
      updated.map (fun d ↦ signalFields (recomputedRow db resolve backend d))⟩

end Recompute

/-! ### What an answer amounts to -/

/-- The attenuation that the budget reads from an answer: the fallback names its key otherwise. -/
def answerLoss : Backend → OpticalPathResult → ℚ
  | .go, p => p.totalAttenuationDb
  | .python, _ => 0

/-- The transmit power that the budget reads for an answer: the Go adapter drops an empty id. -/
def pathTx (db : Database) : Backend → OpticalPathResult → ℚ
  | .go, p => if p.oltId = "" then 0 else answerTx db (some p.oltId)
  | .python, p => answerTx db (some p.oltId)

variable {db : Database} {resolve : String → Option OpticalPathResult}

/-- Without a path an ONT has no signal. -/
theorem applyAnswer_none (b : Backend) (ont : Device) :
    applyAnswer db ont (getPath b ont.id none) =
      { ont with signalPowerDbm := none, signalMarginDb := none, signalStatus := some .noSignal } := by
  cases b <;> rfl

/-- What a path means for the signal of an ONT. -/
theorem applyAnswer_some (b : Backend) (ont : Device) (p : OpticalPathResult) :
    applyAnswer db ont (getPath b ont.id (some p)) =
      let received := pathTx db b p - answerLoss b p
      let margin := received - getEffectiveSensitivityDbm db ont
      { ont with
        signalPowerDbm := some received
        signalMarginDb := some margin
        signalStatus := some (classify margin)
        attenuationDb := some (answerLoss b p) } := by
  cases b with
  | python => rfl
  | go =>
    have hpos : 0 < p.segments.length := List.length_pos_iff.mpr p.segments_ne
    by_cases hid : p.oltId = ""
    · simp [applyAnswer, getPath, goGetPath, serviceGetPath, hpos, hid, answerLoss, pathTx, answerTx]
    · simp [applyAnswer, getPath, goGetPath, serviceGetPath, hpos, hid, answerLoss, pathTx]

/-- The stored signal fields of an ONT are those of an answer, up to the reporting thresholds. -/
def SettledFor (db : Database) (ont : Device) (path : Option OpticalPathResult) (b : Backend) :
    Prop :=
  match path with
  | none =>
    ont.signalStatus = some .noSignal ∧ ont.signalPowerDbm = none ∧ ont.signalMarginDb = none
  | some p =>
    let received := pathTx db b p - answerLoss b p
    ont.signalStatus = some (classify (received - getEffectiveSensitivityDbm db ont)) ∧
      (∃ power, ont.signalPowerDbm = some power ∧ |power - received| < 1 / 10) ∧
      ont.signalMarginDb ≠ none ∧
      ∃ loss, ont.attenuationDb = some loss ∧ |loss - answerLoss b p| < 1 / 100

private theorem movedBy_none (bound : ℚ) (prev : Option ℚ) : movedBy bound prev none = false := by
  cases prev <;> rfl

private theorem movedBy_self {bound : ℚ} (hbound : 0 < bound) (x : Option ℚ) :
    movedBy bound x x = false := by
  cases x with
  | none => rfl
  | some x => simpa [movedBy] using hbound

/-- An answer changes an ONT exactly if the ONT is not settled for it. -/
theorem changed_eq_false_iff (b : Backend) (ont : Device) (path : Option OpticalPathResult) :
    changed ont (applyAnswer db ont (getPath b ont.id path)) = false ↔ SettledFor db ont path b := by
  cases path with
  | none =>
    have hkeep : movedBy (1 / 100) ont.attenuationDb ont.attenuationDb = false :=
      movedBy_self (by norm_num) _
    rw [applyAnswer_none]
    simp only [changed, movedBy_none, hkeep, SettledFor]
    cases ont.signalPowerDbm <;> cases ont.signalMarginDb <;> simp
  | some p =>
    rw [applyAnswer_some]
    simp only [changed, SettledFor]
    cases hp : ont.signalPowerDbm with
    | none => simp
    | some power =>
      cases hm : ont.signalMarginDb with
      | none => simp
      | some margin =>
        cases ha : ont.attenuationDb with
        | none => simp
        | some loss => simp [movedBy, and_assoc]

/-! ### Independence of the backend -/

/-- The other backend. -/
def Backend.other : Backend → Backend
  | .go => .python
  | .python => .go

/-- The signal fields that a recomputation stores. -/
def storedSignals (db : Database) (resolve : String → Option OpticalPathResult)
    (backend : String → Backend) : List OpticalUpdated :=
  (recomputeOpticalPathsForAffectedOnts db resolve backend).devices.map signalFields

/-- Both backends give a path the same budget: its attenuation is zero, and the OLT is named by the
empty id only if that transmits at 0 dBm. -/
def LosslessPath (db : Database) (p : OpticalPathResult) : Prop :=
  p.totalAttenuationDb = 0 ∧ (p.oltId = "" → answerTx db (some "") = 0)

private theorem pathTx_eq_of_lossless {p : OpticalPathResult} (h : LosslessPath db p)
    (b b' : Backend) :
    pathTx db b p = pathTx db b' p ∧ answerLoss b p = answerLoss b' p := by
  have htx : pathTx db .go p = pathTx db .python p := by
    unfold pathTx
    by_cases hid : p.oltId = ""
    · simp [hid, h.2 hid]
    · simp [hid]
  cases b <;> cases b' <;> simp [htx, answerLoss, h.1]

private theorem lossless_of_eq {p : OpticalPathResult} {ont : Device} {b : Backend}
    (h : signalFields (applyAnswer db ont (getPath b ont.id (some p))) =
      signalFields (applyAnswer db ont (getPath b.other ont.id (some p)))) : LosslessPath db p := by
  rw [applyAnswer_some, applyAnswer_some] at h
  simp only [signalFields, OpticalUpdated.mk.injEq, Option.some.injEq, true_and] at h
  obtain ⟨hpower, _, _, hloss⟩ := h
  rw [hloss] at hpower
  have htx : pathTx db b p = pathTx db b.other p := sub_left_inj.mp hpower
  constructor
  · cases b <;> simpa [answerLoss, Backend.other, eq_comm] using hloss
  · intro hid
    cases b <;> simpa [pathTx, Backend.other, hid, eq_comm] using htx

private theorem signalFields_ne_of_changed {prev next : Device} (h : changed prev next = true) :
    signalFields next ≠ signalFields prev := by
  intro heq
  simp only [signalFields, OpticalUpdated.mk.injEq] at heq
  obtain ⟨_, hpower, hmargin, hstatus, hloss⟩ := heq
  have hkeepPower := movedBy_self (show (0 : ℚ) < 1 / 10 by norm_num) prev.signalPowerDbm
  have hkeepLoss := movedBy_self (show (0 : ℚ) < 1 / 100 by norm_num) prev.attenuationDb
  simp only [changed, hpower, hmargin, hstatus, hloss, hkeepPower, hkeepLoss] at h
  simp at h

/-- Without a meaningful change nothing is stored. -/
theorem storedSignals_of_none {backend : String → Backend}
    (h : updatedOnts db resolve backend = []) :
    storedSignals db resolve backend = db.devices.map signalFields := by
  unfold storedSignals recomputeOpticalPathsForAffectedOnts
  rw [h]

/-- One meaningful change stores every recomputed ONT. -/
theorem storedSignals_of_some {backend : String → Backend}
    (h : updatedOnts db resolve backend ≠ []) :
    storedSignals db resolve backend =
      db.devices.map (fun d ↦ signalFields (recomputedRow db resolve backend d)) := by
  unfold storedSignals recomputeOpticalPathsForAffectedOnts
  split
  · next hnil => exact absurd hnil h
  · simp [Function.comp_def]

private theorem mem_updatedOnts {backend : String → Backend} {ont : Device} :
    ont ∈ updatedOnts db resolve backend ↔
      ont ∈ db.devices ∧ isOnt ont = true ∧ ¬ SettledFor db ont (resolve ont.id) (backend ont.id) := by
  simp only [updatedOnts, List.mem_filter, and_assoc]
  constructor
  · rintro ⟨hmem, hont, hchanged⟩
    refine ⟨hmem, hont, ?_⟩
    rw [← changed_eq_false_iff]
    simpa [recomputedRow, hont] using hchanged
  · rintro ⟨hmem, hont, hsettled⟩
    rw [← changed_eq_false_iff] at hsettled
    exact ⟨hmem, hont, by simpa [recomputedRow, hont] using hsettled⟩

/-- If one ONT changes whatever the backend, the rows of the others show which backend answered. -/
private theorem lossless_of_independent
    (h : ∀ backend backend', storedSignals db resolve backend = storedSignals db resolve backend')
    {moved : Device} {c : Backend} (hmoved : moved ∈ updatedOnts db resolve (fun _ ↦ c))
    {ont : Device} (hont : ont ∈ db.devices) (hisOnt : isOnt ont = true)
    {p : OpticalPathResult} (hp : resolve ont.id = some p) : LosslessPath db p := by
  have hcommit : updatedOnts db resolve (fun _ ↦ c) ≠ [] := List.ne_nil_of_mem hmoved
  have heq := h (fun _ ↦ c) (Function.update (fun _ ↦ c) ont.id c.other)
  rw [storedSignals_of_some hcommit] at heq
  by_cases hother : updatedOnts db resolve (Function.update (fun _ ↦ c) ont.id c.other) = []
  · -- no commit in the second run, so the moved ONT would have kept its fields in the first
    rw [storedSignals_of_none hother, List.map_inj_left] at heq
    obtain ⟨hmem, hm, hchanged⟩ := mem_updatedOnts.mp hmoved
    rw [← changed_eq_false_iff, Bool.not_eq_false] at hchanged
    have hkeep := heq moved hmem
    simp only [recomputedRow, hm, if_true] at hkeep
    exact absurd hkeep (signalFields_ne_of_changed hchanged)
  · rw [storedSignals_of_some hother, List.map_inj_left] at heq
    have hrow := heq ont hont
    simp only [recomputedRow, hisOnt, if_true, Function.update_self, hp] at hrow
    exact lossless_of_eq hrow

private theorem recomputedRow_eq
    (h : ∀ ont ∈ db.devices, isOnt ont = true → ∀ p, resolve ont.id = some p → LosslessPath db p)
    (backend backend' : String → Backend) {d : Device} (hd : d ∈ db.devices) :
    recomputedRow db resolve backend d = recomputedRow db resolve backend' d := by
  unfold recomputedRow
  split
  · next hont =>
    cases hp : resolve d.id with
    | none => rw [applyAnswer_none, applyAnswer_none]
    | some p =>
      obtain ⟨htx, hloss⟩ :=
        pathTx_eq_of_lossless (h d hd hont p hp) (backend d.id) (backend' d.id)
      rw [applyAnswer_some, applyAnswer_some, htx, hloss]
  · rfl

private theorem storedSignals_eq
    (h : ∀ ont ∈ db.devices, isOnt ont = true → ∀ p, resolve ont.id = some p → LosslessPath db p)
    (backend backend' : String → Backend) :
    storedSignals db resolve backend = storedSignals db resolve backend' := by
  have hrow := fun {d : Device} (hd : d ∈ db.devices) ↦ recomputedRow_eq h backend backend' hd
  have hupdated : updatedOnts db resolve backend = updatedOnts db resolve backend' := by
    apply List.filter_congr
    intro d hd
    rw [hrow (List.mem_of_mem_filter hd)]
  by_cases hnil : updatedOnts db resolve backend = []
  · rw [storedSignals_of_none hnil, storedSignals_of_none (hupdated ▸ hnil)]
  · rw [storedSignals_of_some hnil, storedSignals_of_some (hupdated ▸ hnil), List.map_inj_left]
    intro d hd
    rw [hrow hd]

/-- The stored budgets do not depend on the backends that answered if and only if every resolved
path of an ONT is lossless, or every ONT is settled for the answers of both backends. -/
theorem stored_signals_independent_iff (db : Database)
    (resolve : String → Option OpticalPathResult) :
    (∀ backend backend', storedSignals db resolve backend = storedSignals db resolve backend') ↔
      (∀ ont ∈ db.devices, isOnt ont = true → ∀ p, resolve ont.id = some p → LosslessPath db p) ∨
        ∀ ont ∈ db.devices, isOnt ont = true → ∀ b, SettledFor db ont (resolve ont.id) b := by
  constructor
  · intro h
    by_cases hsettled : ∀ ont ∈ db.devices, isOnt ont = true →
        ∀ b, SettledFor db ont (resolve ont.id) b
    · exact Or.inr hsettled
    · left
      push Not at hsettled
      obtain ⟨moved, hmem, hm, c, hc⟩ := hsettled
      have hmoved : moved ∈ updatedOnts db resolve (fun _ ↦ c) := mem_updatedOnts.mpr ⟨hmem, hm, hc⟩
      intro ont hont hisOnt p hp
      exact lossless_of_independent h hmoved hont hisOnt hp
  · rintro (hlossless | hsettled) backend backend'
    · exact storedSignals_eq hlossless backend backend'
    · have hnone : ∀ backend, updatedOnts db resolve backend = [] := by
        intro backend
        apply List.eq_nil_iff_forall_not_mem.mpr
        intro ont hont
        obtain ⟨hmem, hm, hchanged⟩ := mem_updatedOnts.mp hont
        exact hchanged (hsettled ont hmem hm _)
      rw [storedSignals_of_none (hnone backend), storedSignals_of_none (hnone backend')]

/-- One ONT behind 40 dB of fibre, with no signal stored yet. -/
def distantOnt : Database where
  devices := [
    { id := "olt", type := .olt, txPowerDbm := some 5 },
    { id := "ont", type := .ont, sensitivityMinDbm := some (-28) }]

/-- The path of that ONT, as both backends resolve it. -/
def distantPath (ontId : String) : Option OpticalPathResult :=
  if ontId = "ont" then
    some { oltId := "olt", totalAttenuationDb := 40, segments := [⟨"ont", "olt", some "l1", 40⟩] }
  else none

/-- The Go answer leaves the ONT without signal, the fallback's gives it a margin of 33 dB. -/
theorem stored_signals_depend_on_backend :
    ¬ ∀ backend backend', storedSignals distantOnt distantPath backend =
      storedSignals distantOnt distantPath backend' := by
  intro h
  have hgo : (storedSignals distantOnt distantPath (fun _ ↦ .go)).map OpticalUpdated.signalStatus =
      [none, some .noSignal] := by decide +kernel
  have hpython : (storedSignals distantOnt distantPath (fun _ ↦ .python)).map
      OpticalUpdated.signalStatus = [none, some .ok] := by decide +kernel
  rw [h (fun _ ↦ .go) (fun _ ↦ .python), hpython] at hgo
  exact absurd hgo (by decide)

end Unoc.Optical
