import Unoc.Base.Flags
import Unoc.Optical.PathResolver
import Unoc.Traffic.Cache

/-!
# PON segments

`backend/services/traffic/v2_segments.py`. The ONTs with demand are assigned to segments, a segment
being a PON port with the device behind it. A tick builds its segments from nothing and keeps, for
the next tick, the ids of those that are congested.
-/

namespace Unoc.Traffic.Segments

open Unoc.Base Unoc.Base.Flags Unoc.Model Unoc.Optical

/-- The caches of the engine that a tick reads; `v2_engine.py:81–95`. -/
structure Caches where
  ifaceById : Dict String Interface := ∅
  neighByIf : Dict String (Finset String) := ∅
  oltPonIfacesByOlt : Dict String (List Interface) := ∅
  devTypeById : Dict String DeviceType := ∅
  devHwModelById : Dict String (Option Int) := ∅
  opticalPathCache : Dict String (Option PathResolver.OpticalPathResult) := ∅
  profilesByHwModel : Dict Int (List PortProfile) := ∅

/-! ### PON capacity -/

/-- Python `str.isspace`, the characters that `str.strip` removes. -/
def isSpace (c : Char) : Bool :=
  let n := c.toNat
  (0x09 ≤ n && n ≤ 0x0d) || (0x1c ≤ n && n ≤ 0x20) || n == 0x85 || n == 0xa0 || n == 0x1680 ||
    (0x2000 ≤ n && n ≤ 0x200a) || n == 0x2028 || n == 0x2029 || n == 0x202f || n == 0x205f ||
    n == 0x3000

/-- `str.strip`. -/
def strip (s : String) : List Char :=
  (((s.toList.dropWhile isSpace).reverse).dropWhile isSpace).reverse

/-- `pattern in text.lower()` for a pattern of the letters g, n, o, p, s and x, which are lower-case
forms of ASCII letters only. -/
def containsLower (text pattern : String) : Bool := pattern.toList <:+: text.toList.map Char.toLower

/-- What `_pon_caps` returns. -/
structure PonCaps where
  downBps : ℚ := 2500000000
  upBps : ℚ := 1250000000
  maxSubs : Option Int := none
  deriving DecidableEq, Repr

/-- The profile of a PON port: by name, else by role; `v2_segments.py:24–31`. -/
def ponProfile (c : Caches) (oltDevId : String) (iface : Interface) : Option PortProfile :=
  let profs := match (c.devHwModelById.lookup oltDevId).join with
    | some hw => if hw = 0 then [] else (c.profilesByHwModel.lookup hw).getD []
    | none => []
  (profs.find? (fun p ↦ strip p.name = strip (iface.profileName.getD ""))).or
    (profs.find? (fun p ↦ p.portRole = some .pon))

/-- `_pon_caps`; `v2_segments.py:15–55`. -/
def ponCaps (c : Caches) (oltDevId : String) (iface : Interface) : PonCaps :=
  match ponProfile c oltDevId iface with
  | none => {}
  | some p =>
    match p.speedGbps with
    | none => { maxSubs := p.maxSubscribers }
    | some sp =>
      let media := p.media.getD ""
      let downBps := sp * 1000000000
      if containsLower media "xgs" || containsLower p.name "xgs" then
        { downBps, upBps := downBps, maxSubs := p.maxSubscribers }
      else if containsLower media "xg" || containsLower p.name "xgpon" then
        { downBps, upBps := 2500000000, maxSubs := p.maxSubscribers }
      else { downBps, maxSubs := p.maxSubscribers }

/-! ### Assignment of ONTs -/

/-- What one tick gives to `compute_segments_map`. The caches may have been rebuilt since the last
tick, and `resolve` stands for `resolve_optical_path`, with no path for an exception. -/
structure Tick where
  caches : Caches := {}
  resolve : String → Option PathResolver.OpticalPathResult
  perDeviceTotals : Dict String ℚ := ∅
  perDeviceDownTotals : Dict String ℚ := ∅
  tick : Int := 0

/-- A PON port of an OLT with the device behind it. -/
structure Segment where
  oltId : String
  ponPortId : String
  odfId : String
  deriving DecidableEq, Repr

/-- `seg_id`; `v2_segments.py:137`. -/
def Segment.id (s : Segment) : String := s.ponPortId ++ "::" ++ s.odfId

section Assignment

variable (t : Tick)

/-- `neigh_by_if.get(iface_id, set())`. -/
def Caches.neighbors (c : Caches) (ifaceId : String) : Finset String :=
  (c.neighByIf.lookup ifaceId).getD ∅

/-- The cached path of an ONT, or a new one; `v2_segments.py:90–97`. -/
def opticalPath (ontId : String) : Option PathResolver.OpticalPathResult :=
  (t.caches.opticalPathCache.lookup ontId).join.or (t.resolve ontId)

/-- The neighbour of the OLT along the path; `v2_segments.py:103–117`. -/
def odfOnPath (oltId : String) (segs : List PathSegment) : Option String :=
  segs.findSome? (fun sg ↦
    if sg.src = oltId ∧ sg.dst ≠ "" then some sg.dst
    else if sg.dst = oltId ∧ sg.src ≠ "" then some sg.src
    else none)

/-- The first of all neighbours of the PON ports; `v2_segments.py:119–124`. -/
def anyOdf (ponIfaces : List Interface) : Option String :=
  (sortedSet (ponIfaces.flatMap (fun pi ↦
    RangeOrder.ascending.keys (t.caches.neighbors pi.id)))).head?

/-- The PON port that the device is behind, else the first one; `v2_segments.py:128–134`. -/
def ponPort (ponIfaces : List Interface) (odfId : String) : Option String :=
  ((ponIfaces.find? (fun pi ↦ odfId ∈ t.caches.neighbors pi.id)).or ponIfaces.head?).map Interface.id

/-- The segment of an ONT, if it has one; `v2_segments.py:98–137`. -/
def segmentOf (ontId : String) : Option Segment := do
  let r ← opticalPath t ontId
  if r.oltId = "" then none
  let ponIfaces ← t.caches.oltPonIfacesByOlt.lookup r.oltId
  let odfId ← (odfOnPath r.oltId r.segments).or (anyOdf t ponIfaces)
  let ponPortId ← ponPort t ponIfaces odfId
  return { oltId := r.oltId, ponPortId, odfId }

/-- ONTs with demand, in order; `v2_segments.py:80–85`. -/
def ontIds : List String :=
  (t.perDeviceTotals.keys.insertionSort (· ≤ ·)).filter (fun did ↦
    t.caches.devTypeById.lookup did = some .ont ∨
      t.caches.devTypeById.lookup did = some .businessOnt)

end Assignment

/-! ### Aggregation -/

/-- An entry of `segments_map`; `v2_segments.py:142–158`. -/
structure Entry where
  id : String
  oltId : String
  ponPortId : String
  odfId : String
  subscribersCount : Nat := 0
  subscribersMax : Option Int := none
  capacityDownBps : ℚ := 0
  capacityUpBps : ℚ := 0
  demandDownBps : ℚ := 0
  demandUpBps : ℚ := 0
  usedDownBps : ℚ := 0
  usedUpBps : ℚ := 0
  headroomDownBps : ℚ := 0
  headroomUpBps : ℚ := 0
  congested : Bool := false
  deriving DecidableEq, Repr

/-- The entry that `setdefault` makes. -/
def Segment.entry (s : Segment) : Entry :=
  { id := s.id, oltId := s.oltId, ponPortId := s.ponPortId, odfId := s.odfId }

/-- Count one ONT and its demand; `v2_segments.py:160–171`. -/
def Entry.subscribe (e : Entry) (c : Caches) (s : Segment) (upDemand downDemand : ℚ) : Entry :=
  let counted := { e with
    subscribersCount := e.subscribersCount + 1
    demandUpBps := e.demandUpBps + upDemand
    demandDownBps := e.demandDownBps + downDemand }
  if e.capacityDownBps = 0 ∧ e.capacityUpBps = 0 then
    match c.ifaceById.lookup s.ponPortId with
    | none => counted
    | some pi =>
      let caps := ponCaps c s.oltId pi
      { counted with
        capacityDownBps := caps.downBps
        capacityUpBps := caps.upBps
        subscribersMax := caps.maxSubs.or e.subscribersMax }
  else counted

/-- The body of the loop over the ONTs; entries stand in the order in which they were made. -/
def addOnt (t : Tick) (entries : List Entry) (ontId : String) : List Entry :=
  match segmentOf t ontId with
  | none => entries
  | some s =>
    let entries := if s.id ∈ entries.map Entry.id then entries else entries ++ [s.entry]
    entries.map (fun e ↦
      if e.id = s.id then
        e.subscribe t.caches s ((t.perDeviceTotals.lookup ontId).getD 0)
          ((t.perDeviceDownTotals.lookup ontId).getD 0)
      else e)

/-- The entries before shaping. -/
def aggregate (t : Tick) : List Entry := (ontIds t).foldl (addOnt t) []

/-! ### Shaping and hysteresis -/

/-- A published event `segment.congestion.…`. -/
inductive Notice where
  | detected (id oltId ponPortId odfId : String)
      (demandDownBps demandUpBps capacityDownBps capacityUpBps : ℚ) (tick : Int)
  | cleared (id oltId ponPortId odfId : String) (tick : Int)
  deriving DecidableEq, Repr

/-- What an event tells of its segment. -/
def Notice.change : Notice → Change String
  | .detected id _ _ _ _ _ _ _ _ => ⟨id, true⟩
  | .cleared id _ _ _ _ => ⟨id, false⟩

/-- The thresholds of the engine; `v2_engine.py:75–76`. -/
structure Thresholds where
  detect : ℚ := 95 / 100
  clear : ℚ := 85 / 100

/-- Demand over capacity of one direction. -/
def utilization (demand capacity : ℚ) : ℚ := if 0 < capacity then demand / capacity else 0

/-- `util`; `v2_segments.py:176–188`. -/
def Entry.util (e : Entry) : ℚ :=
  max (utilization (max e.demandDownBps 0) (max e.capacityDownBps 0))
    (utilization (max e.demandUpBps 0) (max e.capacityUpBps 0))

/-- The verdict on a segment; `v2_segments.py:189–237`. -/
def Entry.isCongested (e : Entry) (th : Thresholds) (wasCongested : Bool) : Bool :=
  if wasCongested then th.clear ≤ e.util else th.detect ≤ e.util

/-- The shaped part of one direction of an entry. -/
def used (demand capacity : ℚ) : ℚ := if 0 < capacity then min demand capacity else demand

/-- The entry with its shaping and its verdict; `v2_segments.py:176–237`. -/
def Entry.finalize (e : Entry) (th : Thresholds) (prev : Finset String) : Entry :=
  let usedDownBps := used (max e.demandDownBps 0) (max e.capacityDownBps 0)
  let usedUpBps := used (max e.demandUpBps 0) (max e.capacityUpBps 0)
  { e with
    usedDownBps
    usedUpBps
    headroomDownBps := max (max e.capacityDownBps 0 - usedDownBps) 0
    headroomUpBps := max (max e.capacityUpBps 0 - usedUpBps) 0
    congested := e.isCongested th (e.id ∈ prev) }

/-- The event of a segment that enters or leaves; `v2_segments.py:197–235`. -/
def Entry.notices (e : Entry) (th : Thresholds) (prev : Finset String) (tick : Int) : List Notice :=
  if e.id ∈ prev then
    if e.isCongested th true then []
    else [.cleared e.id e.oltId e.ponPortId e.odfId tick]
  else if e.isCongested th false then
    [.detected e.id e.oltId e.ponPortId e.odfId (max e.demandDownBps 0) (max e.demandUpBps 0)
      (max e.capacityDownBps 0) (max e.capacityUpBps 0) tick]
  else []

/-- What a tick returns, keeps and publishes. -/
structure Outcome where
  segmentsMap : List Entry
  prevSegmentCongested : Finset String
  notices : List Notice

/-- `compute_segments_map`; `v2_segments.py:58–240`. -/
def computeSegmentsMap (th : Thresholds) (prev : Finset String) (t : Tick) : Outcome where
  segmentsMap := (aggregate t).map (fun e ↦ e.finalize th prev)
  prevSegmentCongested :=
    (((aggregate t).filter (fun e ↦ e.isCongested th (e.id ∈ prev))).map Entry.id).toFinset
  notices := (aggregate t).flatMap (fun e ↦ e.notices th prev t.tick)

/-! ### The segments of a tick -/

/-- An ONT with demand is assigned to the segment in this tick. -/
def Served (t : Tick) (sid : String) : Prop :=
  ∃ ontId ∈ ontIds t, ∃ s, segmentOf t ontId = some s ∧ s.id = sid

private theorem id_subscribe (e : Entry) (c : Caches) (s : Segment) (upDemand downDemand : ℚ) :
    (e.subscribe c s upDemand downDemand).id = e.id := by
  unfold Entry.subscribe
  split
  · split <;> rfl
  · rfl

section AddOnt

variable {t : Tick} {entries : List Entry} {ontId : String}

private theorem addOnt_of_none (h : segmentOf t ontId = none) :
    addOnt t entries ontId = entries := by
  rw [addOnt, h]

private theorem ids_addOnt_of_some {s : Segment} (h : segmentOf t ontId = some s) :
    (addOnt t entries ontId).map Entry.id =
      if s.id ∈ entries.map Entry.id then entries.map Entry.id
      else entries.map Entry.id ++ [s.id] := by
  have hkeep : Entry.id ∘ (fun e : Entry ↦
      if e.id = s.id then
        e.subscribe t.caches s ((t.perDeviceTotals.lookup ontId).getD 0)
          ((t.perDeviceDownTotals.lookup ontId).getD 0)
      else e) = Entry.id := by
    funext e
    simp only [Function.comp_apply]
    split
    · exact id_subscribe _ _ _ _ _
    · rfl
  rw [addOnt, h]
  dsimp only
  rw [List.map_map, hkeep]
  split
  · rfl
  · rw [List.map_append]
    rfl

private theorem nodup_ids_addOnt (h : (entries.map Entry.id).Nodup) (ontId : String) :
    ((addOnt t entries ontId).map Entry.id).Nodup := by
  cases hs : segmentOf t ontId with
  | none => rwa [addOnt_of_none hs]
  | some s =>
    rw [ids_addOnt_of_some hs]
    split
    · exact h
    · next hnew => exact h.append (List.nodup_singleton _) (by simpa using hnew)

private theorem mem_ids_addOnt {sid : String} :
    sid ∈ (addOnt t entries ontId).map Entry.id ↔
      sid ∈ entries.map Entry.id ∨ ∃ s, segmentOf t ontId = some s ∧ s.id = sid := by
  cases hs : segmentOf t ontId with
  | none => simp [addOnt_of_none hs]
  | some s =>
    rw [ids_addOnt_of_some hs]
    simp only [Option.some.injEq, exists_eq_left']
    split
    · next hold =>
      constructor
      · exact Or.inl
      · rintro (hmem | rfl)
        · exact hmem
        · exact hold
    · rw [List.mem_append, List.mem_singleton, eq_comm (a := sid)]

end AddOnt

private theorem aggregate_ids (t : Tick) :
    ((aggregate t).map Entry.id).Nodup ∧ ∀ sid, sid ∈ (aggregate t).map Entry.id ↔ Served t sid := by
  have hfold : ∀ (onts : List String) (entries : List Entry), (entries.map Entry.id).Nodup →
      ((onts.foldl (addOnt t) entries).map Entry.id).Nodup ∧
        ∀ sid, sid ∈ (onts.foldl (addOnt t) entries).map Entry.id ↔
          sid ∈ entries.map Entry.id ∨
            ∃ ontId ∈ onts, ∃ s, segmentOf t ontId = some s ∧ s.id = sid := by
    intro onts
    induction onts with
    | nil =>
      intro entries hnodup
      exact ⟨hnodup, fun sid ↦ by simp⟩
    | cons ontId onts ih =>
      intro entries hnodup
      obtain ⟨hnodup', hmem⟩ := ih (addOnt t entries ontId) (nodup_ids_addOnt hnodup ontId)
      refine ⟨hnodup', ?_⟩
      intro sid
      rw [List.foldl_cons, hmem, mem_ids_addOnt, List.exists_mem_cons_iff, or_assoc]
  obtain ⟨hnodup, hmem⟩ := hfold (ontIds t) [] List.nodup_nil
  refine ⟨hnodup, ?_⟩
  intro sid
  refine (hmem sid).trans ?_
  simp [Served]

/-! ### Events -/

section Events

variable (th : Thresholds) (prev : Finset String)

/-- The flags that the events of an entry give to its segment. -/
theorem flagsOf_notices (e : Entry) (tick : Int) :
    flagsOf ((e.notices th prev tick).map Notice.change) e.id =
      if e.isCongested th (e.id ∈ prev) = decide (e.id ∈ prev) then []
      else [e.isCongested th (e.id ∈ prev)] := by
  unfold Entry.notices
  by_cases hprev : e.id ∈ prev
  · cases hnew : e.isCongested th true <;> simp [hprev, hnew, flagsOf, Notice.change]
  · cases hnew : e.isCongested th false <;> simp [hprev, hnew, flagsOf, Notice.change]

private theorem key_of_mem_notices {e : Entry} {tick : Int} {c : Change String}
    (hc : c ∈ (e.notices th prev tick).map Notice.change) : c.key = e.id := by
  obtain ⟨notice, hnotice, rfl⟩ := List.mem_map.mp hc
  unfold Entry.notices at hnotice
  split at hnotice
  · split at hnotice
    · cases hnotice
    · rw [List.mem_singleton.mp hnotice]
      rfl
  · split at hnotice
    · rw [List.mem_singleton.mp hnotice]
      rfl
    · cases hnotice

/-- The events of a tick track the segments that it serves. -/
theorem tracks_computeSegmentsMap (t : Tick) :
    Tracks ((computeSegmentsMap th prev t).notices.map Notice.change) (Served t) prev
      (computeSegmentsMap th prev t).prevSegmentCongested := by
  obtain ⟨hnodup, hids⟩ := aggregate_ids t
  have hlog : (computeSegmentsMap th prev t).notices.map Notice.change =
      (aggregate t).flatMap (fun e ↦ (e.notices th prev t.tick).map Notice.change) :=
    List.map_flatMap
  have hkept : ∀ sid, sid ∈ (computeSegmentsMap th prev t).prevSegmentCongested ↔
      ∃ e ∈ aggregate t, e.isCongested th (e.id ∈ prev) = true ∧ e.id = sid := by
    intro sid
    simp [computeSegmentsMap, and_assoc]
  rw [hlog]
  constructor
  · intro sid hserved
    obtain ⟨e, he, rfl⟩ := List.mem_map.mp ((hids sid).mpr hserved)
    have hnew : e.id ∈ (computeSegmentsMap th prev t).prevSegmentCongested ↔
        e.isCongested th (e.id ∈ prev) = true := by
      rw [hkept]
      constructor
      · rintro ⟨e', he', hcongested, hid⟩
        rwa [List.inj_on_of_nodup_map hnodup he' he hid] at hcongested
      · intro hcongested
        exact ⟨e, he, hcongested, rfl⟩
    rw [flagsOf_flatMap hnodup (fun _ _ _ ↦ key_of_mem_notices th prev) he, flagsOf_notices]
    by_cases hprev : e.id ∈ prev <;>
      cases hcongested : e.isCongested th (decide (e.id ∈ prev)) <;> simp_all
  · intro sid hserved
    apply flagsOf_eq_nil
    intro c hc heq
    obtain ⟨e, he, hce⟩ := List.mem_flatMap.mp hc
    rw [key_of_mem_notices th prev hce] at heq
    exact hserved ((hids sid).mp (heq ▸ List.mem_map_of_mem he))
  · intro sid hsid
    obtain ⟨e, he, _, rfl⟩ := (hkept sid).mp hsid
    exact (hids e.id).mp (List.mem_map_of_mem he)

end Events

/-! ### Runs -/

section Runs

variable (th : Thresholds) (ticks : Nat → Tick)

/-- `engine._prev_segment_congested` after each tick. -/
def congestedAfter : Nat → Finset String
  | 0 => (computeSegmentsMap th ∅ (ticks 0)).prevSegmentCongested
  | n + 1 => (computeSegmentsMap th (congestedAfter n) (ticks (n + 1))).prevSegmentCongested

/-- The events of each tick. -/
def noticesAt : Nat → List Notice
  | 0 => (computeSegmentsMap th ∅ (ticks 0)).notices
  | n + 1 => (computeSegmentsMap th (congestedAfter th ticks n) (ticks (n + 1))).notices

/-- In a run, the replayed events are the congested segments after every tick if and only if every
tick assigns some ONT with demand to each segment that was congested before it. -/
theorem segment_events_complete_iff :
    (∀ n, replay ∅ ((upTo (noticesAt th ticks) n).map Notice.change) = congestedAfter th ticks n) ↔
      ∀ n, ∀ sid ∈ congestedAfter th ticks n, Served (ticks (n + 1)) sid := by
  simp only [map_upTo]
  apply replay_upTo_iff _ _ (fun n ↦ Served (ticks n))
  · exact tracks_computeSegmentsMap th ∅ (ticks 0)
  · intro n
    exact tracks_computeSegmentsMap th (congestedAfter th ticks n) (ticks (n + 1))

end Runs

/-- An ONT at a PON port with the given demand. -/
def ponTick (perDeviceDownTotals : Dict String ℚ) : Tick where
  caches := {
    ifaceById := AList.singleton "pon1" { id := "pon1", deviceId := "olt", name := "pon1" }
    neighByIf := AList.singleton "pon1" {"odf"}
    oltPonIfacesByOlt := AList.singleton "olt" [{ id := "pon1", deviceId := "olt", name := "pon1" }]
    devTypeById := AList.singleton "ont" .ont }
  resolve := fun _ ↦ some ⟨"olt", 1, [⟨"ont", "odf", none, 1⟩, ⟨"odf", "olt", none, 0⟩]⟩
  perDeviceTotals := perDeviceDownTotals
  perDeviceDownTotals := perDeviceDownTotals

/-- An ONT fills its PON port and is silent in the next tick. -/
def silentOnt : Nat → Tick
  | 0 => ponTick (AList.singleton "ont" 2400000000)
  | _ + 1 => ponTick ∅

/-- The segment is not congested any more, and no event says so. -/
theorem segment_events_incomplete_silent_ont :
    congestedAfter {} silentOnt 1 = ∅ ∧
      replay ∅ ((upTo (noticesAt {} silentOnt) 1).map Notice.change) = {"pon1::odf"} := by
  decide +kernel

end Unoc.Traffic.Segments
