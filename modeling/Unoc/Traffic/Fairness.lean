import Unoc.Traffic.Generation

/-!
# What shaping decides for a flow

The body of the link loop multiplies every entry of a flow by the ratio of the link, so a pass
scales a flow by a factor that depends on its path and on the sums of its own direction only.
The first pass already brings every link within capacity (`shaping.go:22–26`), hence the later ones
find nothing to shape and one pass is all of `ShapeFlows`.
-/

namespace Unoc.Traffic

/-! ### Scaling both directions of a flow -/

namespace Flow

/-- A flow whose directions are multiplied by their own factors. -/
def scaled (f : Flow) (factor : Direction → ℚ) : Flow :=
  (f.mulScale .up (factor .up)).mulScale .down (factor .down)

@[simp] private theorem pathLinks_scaled (f : Flow) (factor : Direction → ℚ) :
    (f.scaled factor).pathLinks = f.pathLinks := rfl

@[simp] private theorem demand_scaled (f : Flow) (factor : Direction → ℚ) (d : Direction) :
    (f.scaled factor).demand d = f.demand d := by
  cases d <;> rfl

@[simp] private theorem scale_scaled (f : Flow) (factor : Direction → ℚ) (d : Direction) :
    (f.scaled factor).scale d = f.scale d * factor d := by
  cases d <;> rfl

private theorem scaled_one (f : Flow) : f.scaled (fun _ ↦ 1) = f := by
  simp [scaled, mulScale]

private theorem scaled_scaled (f : Flow) (factor factor' : Direction → ℚ) :
    (f.scaled factor).scaled factor' = f.scaled (fun d ↦ factor d * factor' d) := by
  simp [scaled, mulScale, mul_assoc]

/-- Multiplying by one ratio over and over is multiplying by its power. -/
theorem iterate_mulScale (f : Flow) (d : Direction) (ratio : ℚ) (n : Nat) :
    (fun g : Flow ↦ g.mulScale d ratio)^[n] f = f.mulScale d (ratio ^ n) := by
  induction n with
  | zero => cases d <;> simp [mulScale]
  | succ n ih =>
    rw [Function.iterate_succ_apply', ih]
    cases d <;> simp [mulScale, pow_succ, mul_assoc]

/-- Two flows that look alike in one direction: same path, demand and scale. -/
structure Agrees (d : Direction) (f f' : Flow) : Prop where
  pathLinks : f'.pathLinks = f.pathLinks
  demand : f'.demand d = f.demand d
  scale : f'.scale d = f.scale d

private theorem Agrees.delivered {d : Direction} {f f' : Flow} (h : Agrees d f f') :
    f'.delivered d = f.delivered d := by
  rw [Flow.delivered, Flow.delivered, h.demand, h.scale]

end Flow

/-! ### The factor of a path -/

/-- The ratio by which the turn of a link multiplies the entries of a direction; one where the
link is no bottleneck. -/
def turnRatio (cache : TopologyCache) (flows : List Flow) (linkID : String) (d : Direction) : ℚ :=
  if 0 < capacityBps cache linkID ∧ capacityBps cache linkID < sumDelivered flows linkID d then
    capacityBps cache linkID / sumDelivered flows linkID d
  else 1

/-- The factor by which the turns of the links multiply a flow of a given path. -/
def pathFactor (cache : TopologyCache) : List String → List Flow → List String → Direction → ℚ
  | [], _, _, _ => 1
  | linkID :: rest, flows, path, d =>
    turnRatio cache flows linkID d ^ path.count linkID *
      pathFactor cache rest (shapeLink cache flows linkID).1 path d

private theorem throttle_eq_mulScale (cache : TopologyCache) (flows : List Flow)
    (linkID : String) (d : Direction) (hcap : 0 < capacityBps cache linkID) (f : Flow) :
    throttle linkID d (capacityBps cache linkID) (sumDelivered flows linkID d) f =
      f.mulScale d (turnRatio cache flows linkID d ^ f.pathLinks.count linkID) := by
  rw [throttle, Flow.iterate_mulScale, turnRatio]
  by_cases h : capacityBps cache linkID < sumDelivered flows linkID d
  · rw [if_pos h, if_pos ⟨hcap, h⟩]
  · rw [if_neg h, if_neg (fun hc ↦ h hc.2), pow_zero, one_pow]

/-- The turn of a link multiplies every flow by the ratio of the link, once for every crossing. -/
theorem shapeLink_eq_scaled (cache : TopologyCache) (flows : List Flow) (linkID : String) :
    (shapeLink cache flows linkID).1 = flows.map
      (fun f ↦ f.scaled (fun d ↦ turnRatio cache flows linkID d ^ f.pathLinks.count linkID)) := by
  by_cases hcap : 0 < capacityBps cache linkID
  · rw [shapeLink_eq_map cache flows linkID hcap, List.map_map]
    refine List.map_congr_left (fun f _ ↦ ?_)
    rw [Function.comp_apply, throttle_eq_mulScale cache flows linkID .up hcap,
      throttle_eq_mulScale cache flows linkID .down hcap]
    rfl
  · have hone : ∀ d, turnRatio cache flows linkID d = 1 :=
      fun d ↦ if_neg (fun hc ↦ hcap hc.1)
    rw [shapeLink, if_pos (not_lt.mp hcap)]
    simp only [hone, one_pow, Flow.scaled_one, List.map_id']

/-- A pass multiplies every flow by the factor of its path. -/
theorem shapePass_eq_scaled (cache : TopologyCache) (linkIDs : List String) (flows : List Flow) :
    (shapePass cache linkIDs flows).1 =
      flows.map (fun f ↦ f.scaled (pathFactor cache linkIDs flows f.pathLinks)) := by
  suffices ∀ acc : List Flow × Bool, (linkIDs.foldl (shapeNextLink cache) acc).1 =
      acc.1.map (fun f ↦ f.scaled (pathFactor cache linkIDs acc.1 f.pathLinks)) from
    this (flows, false)
  induction linkIDs with
  | nil =>
    intro acc
    exact (List.map_congr_left (fun f _ ↦ f.scaled_one)).trans (List.map_id' _) |>.symm
  | cons linkID rest ih =>
    intro acc
    rw [List.foldl_cons, ih, shapeNextLink, shapeLink_eq_scaled, List.map_map]
    refine List.map_congr_left (fun f _ ↦ ?_)
    rw [Function.comp_apply, Flow.scaled_scaled, Flow.pathLinks_scaled, ← shapeLink_eq_scaled]
    rfl

/-! ### The order of the flows -/

private theorem turnRatio_perm (cache : TopologyCache) {flows flows' : List Flow}
    (h : flows.Perm flows') (linkID : String) :
    turnRatio cache flows linkID = turnRatio cache flows' linkID := by
  funext d
  have hsum : sumDelivered flows linkID d = sumDelivered flows' linkID d := by
    rw [sumDelivered_eq, sumDelivered_eq]
    exact (h.map _).sum_eq
  rw [turnRatio, turnRatio, hsum]

private theorem shapeLink_perm (cache : TopologyCache) {flows flows' : List Flow}
    (h : flows.Perm flows') (linkID : String) :
    (shapeLink cache flows linkID).1.Perm (shapeLink cache flows' linkID).1 := by
  rw [shapeLink_eq_scaled, shapeLink_eq_scaled, turnRatio_perm cache h]
  exact h.map _

/-- The factor of a path does not depend on the order of the flows. -/
theorem pathFactor_perm (cache : TopologyCache) (linkIDs : List String) {flows flows' : List Flow}
    (h : flows.Perm flows') : pathFactor cache linkIDs flows = pathFactor cache linkIDs flows' := by
  induction linkIDs generalizing flows flows' with
  | nil => rfl
  | cons linkID rest ih =>
    funext path d
    rw [pathFactor, pathFactor, turnRatio_perm cache h, ih (shapeLink_perm cache h linkID)]

private theorem crossedLinks_perm {flows flows' : List Flow} (h : flows.Perm flows') :
    crossedLinks flows = crossedLinks flows' :=
  List.toFinset_eq_of_perm _ _ (h.flatMap_right _)

/-! ### One direction without the other -/

private theorem turnRatio_agrees (cache : TopologyCache) {d : Direction} {flows flows' : List Flow}
    (h : List.Forall₂ (Flow.Agrees d) flows flows') (linkID : String) :
    turnRatio cache flows' linkID d = turnRatio cache flows linkID d := by
  have hsum : sumDelivered flows' linkID d = sumDelivered flows linkID d := by
    rw [sumDelivered_eq, sumDelivered_eq]
    induction h with
    | nil => rfl
    | cons hf _ ih => rw [List.map_cons, List.map_cons, List.sum_cons, List.sum_cons, ih,
        hf.pathLinks, hf.delivered]
  rw [turnRatio, turnRatio, hsum]

private theorem shapeLink_agrees (cache : TopologyCache) {d : Direction} {flows flows' : List Flow}
    (h : List.Forall₂ (Flow.Agrees d) flows flows') (linkID : String) :
    List.Forall₂ (Flow.Agrees d) (shapeLink cache flows linkID).1
      (shapeLink cache flows' linkID).1 := by
  rw [shapeLink_eq_scaled, shapeLink_eq_scaled, List.forall₂_map_left_iff,
    List.forall₂_map_right_iff]
  refine h.imp (fun f f' hf ↦ ⟨hf.pathLinks, ?_, ?_⟩)
  · rw [Flow.demand_scaled, Flow.demand_scaled, hf.demand]
  · rw [Flow.scale_scaled, Flow.scale_scaled, hf.scale, hf.pathLinks, turnRatio_agrees cache h]

/-- The factor of a direction does not depend on the demands and scales of the other. -/
theorem pathFactor_agrees (cache : TopologyCache) (linkIDs : List String) {d : Direction}
    {flows flows' : List Flow} (h : List.Forall₂ (Flow.Agrees d) flows flows')
    (path : List String) :
    pathFactor cache linkIDs flows' path d = pathFactor cache linkIDs flows path d := by
  induction linkIDs generalizing flows flows' with
  | nil => rfl
  | cons linkID rest ih =>
    rw [pathFactor, pathFactor, turnRatio_agrees cache h, ih (shapeLink_agrees cache h linkID)]

private theorem crossedLinks_agrees {d : Direction} {flows flows' : List Flow}
    (h : List.Forall₂ (Flow.Agrees d) flows flows') : crossedLinks flows' = crossedLinks flows := by
  unfold crossedLinks
  congr 1
  induction h with
  | nil => rfl
  | cons hf _ ih => rw [List.flatMap_cons, List.flatMap_cons, hf.pathLinks, ih]

/-! ### One pass is enough -/

/-- A link within its capacity is left alone. -/
private theorem shapeLink_of_within {cache : TopologyCache} {flows : List Flow} {linkID : String}
    (h : ∀ d, 0 < capacityBps cache linkID →
      sumDelivered flows linkID d ≤ capacityBps cache linkID) :
    shapeLink cache flows linkID = (flows, false) := by
  by_cases hcap : 0 < capacityBps cache linkID
  · have hle := fun d ↦ not_lt.mpr (h d hcap)
    simp only [shapeLink, shapeDirection, if_neg (not_le.mpr hcap), if_neg (hle .up),
      if_neg (hle .down), Bool.or_false]
  · rw [shapeLink, if_pos (not_lt.mp hcap)]

/-- A pass over links within their capacity changes nothing and says so. -/
theorem shapePass_of_within {cache : TopologyCache} {linkIDs : List String} {flows : List Flow}
    (h : WithinCapacity cache linkIDs flows) :
    shapePass cache linkIDs flows = (flows, false) := by
  unfold shapePass
  induction linkIDs with
  | nil => rfl
  | cons linkID rest ih =>
    rw [List.foldl_cons, shapeNextLink,
      shapeLink_of_within (fun d hcap ↦ h linkID List.mem_cons_self d hcap), Bool.or_false]
    exact ih (fun l hl ↦ h l (List.mem_cons_of_mem _ hl))

private theorem shapePasses_of_within {cache : TopologyCache} {linkIDs : List String}
    {flows : List Flow} (h : WithinCapacity cache linkIDs flows) (passes : Nat) :
    shapePasses cache linkIDs passes flows = flows := by
  cases passes with
  | zero => rfl
  | succ passes => rw [shapePasses, shapePass_of_within h, if_neg Bool.false_ne_true]

/-- The passes after the first leave its result as it is. -/
theorem shapePasses_eq_shapePass (cache : TopologyCache) {flows : List Flow}
    (hs : ∀ f ∈ flows, f.Sound) (linkIDs : List String) (passes : Nat) :
    shapePasses cache linkIDs (passes + 1) flows = (shapePass cache linkIDs flows).1 := by
  rw [shapePasses]
  split
  · exact shapePasses_of_within (withinCapacity_shapePass cache hs linkIDs) passes
  · rfl

/-- What shaping makes of a flow of the list. -/
def outcome (order : RangeOrder String) (cache : TopologyCache) (flows : List Flow) (f : Flow) :
    Flow :=
  f.scaled (pathFactor cache (order.sortedKeys (crossedLinks flows)) flows f.pathLinks)

/-- The outcome of a flow does not depend on where the flows stand in the list. -/
private theorem outcome_perm {flows flows' : List Flow} (h : flows'.Perm flows)
    (order order' : RangeOrder String) (cache : TopologyCache) :
    outcome order' cache flows' = outcome order cache flows := by
  funext f
  rw [outcome, outcome, crossedLinks_perm h, pathFactor_perm cache _ h, order'.sortedKeys_eq order]

section Sound

variable {flows : List Flow} (hs : ∀ f ∈ flows, f.Sound) (order : RangeOrder String)
  (cache : TopologyCache)

include hs

/-- Shaping is the first pass. -/
theorem shapeFlows_eq_shapePass : shapeFlows order flows cache =
    (shapePass cache (order.sortedKeys (crossedLinks flows)) flows).1 :=
  shapePasses_eq_shapePass cache hs _ 2

/-- Shaping treats every flow by itself, by the factor of its path. -/
theorem shapeFlows_eq_map : shapeFlows order flows cache = flows.map (outcome order cache flows) := by
  rw [shapeFlows_eq_shapePass hs, shapePass_eq_scaled]
  rfl

/-- Shaping only shrinks the flows. -/
theorem shrunk_shapeFlows : List.Forall₂ Flow.Shrunk flows (shapeFlows order flows cache) := by
  rw [shapeFlows_eq_shapePass hs]
  refine shapePass_induction cache (fun shaped h linkID ↦ ?_) _
    (List.forall₂_same.mpr (fun f _ ↦ .refl f))
  exact forall₂_trans (fun _ _ _ hfg hgh ↦ hfg.trans hgh) h
    ((shapeLink_step cache shaped linkID).imp (fun _ _ hf ↦ hf.shrunk))

private theorem sound_shapeFlows : ∀ f ∈ shapeFlows order flows cache, f.Sound :=
  sound_of_shrunk (shrunk_shapeFlows hs order cache) hs

/-- Shaping what is already shaped changes nothing. -/
private theorem shapeFlows_shapeFlows (order' : RangeOrder String) :
    shapeFlows order' (shapeFlows order flows cache) cache = shapeFlows order flows cache := by
  have hkeys : order'.sortedKeys (crossedLinks (shapeFlows order flows cache)) =
      order.sortedKeys (crossedLinks flows) := by
    rw [crossedLinks_of_shrunk (shrunk_shapeFlows hs order cache), order'.sortedKeys_eq order]
  rw [shapeFlows_eq_shapePass (sound_shapeFlows hs order cache), hkeys]
  have hpass := shapeFlows_eq_shapePass hs order cache
  rw [shapePass_of_within]
  rw [hpass]
  exact withinCapacity_shapePass cache hs _

end Sound

/-- `ShapeFlows` in exact arithmetic, over flows of non-negative demand whose scales are still
positive: a second application changes nothing; every flow has one outcome, in whatever order the
flows are listed and the links are ranged over, and flows of one path are scaled by one factor, so
that equal scales stay equal; and a direction of the outcome looks at that direction only. -/
theorem shapeFlows_fair (flows : List Flow) (hs : ∀ f ∈ flows, f.Sound) (order : RangeOrder String)
    (cache : TopologyCache) :
    (∀ order', shapeFlows order' (shapeFlows order flows cache) cache =
      shapeFlows order flows cache) ∧
    (∃ outcome : Flow → Flow,
      (∀ flows' order', flows'.Perm flows →
        shapeFlows order' flows' cache = flows'.map outcome) ∧
      (∀ f, (outcome f).leafID = f.leafID ∧ (outcome f).pathNodes = f.pathNodes ∧
        (outcome f).pathLinks = f.pathLinks ∧ ∀ d, (outcome f).demand d = f.demand d) ∧
      ∀ f g d, f.pathLinks = g.pathLinks → f.scale d = g.scale d →
        (outcome f).scale d = (outcome g).scale d) ∧
    ∀ d flows', (∀ f ∈ flows', f.Sound) → List.Forall₂ (Flow.Agrees d) flows flows' →
      List.Forall₂ (fun f f' ↦ f'.scale d = f.scale d) (shapeFlows order flows cache)
        (shapeFlows order flows' cache) := by
  refine ⟨shapeFlows_shapeFlows hs order cache, ⟨outcome order cache flows, ?_, ?_, ?_⟩, ?_⟩
  · intro flows' order' hperm
    have hs' : ∀ f ∈ flows', f.Sound := fun f hf ↦ hs f (hperm.mem_iff.mp hf)
    rw [shapeFlows_eq_map hs', outcome_perm hperm order order']
  · exact fun f ↦ ⟨rfl, rfl, rfl, f.demand_scaled _⟩
  · intro f g d hpath hscale
    rw [outcome, outcome, Flow.scale_scaled, Flow.scale_scaled, hpath, hscale]
  · intro d flows' hs' h
    rw [shapeFlows_eq_map hs, shapeFlows_eq_map hs', List.forall₂_map_left_iff,
      List.forall₂_map_right_iff]
    refine h.imp (fun f f' hf ↦ ?_)
    rw [outcome, outcome, Flow.scale_scaled, Flow.scale_scaled, hf.scale, hf.pathLinks,
      crossedLinks_agrees h, pathFactor_agrees cache _ h]

/-- The flows of one slow port, shaped twice and listed the other way round. -/
theorem shapeFlows_fair_slow_port :
    shapeFlows .ascending (shapeFlows .ascending sharedPortFlows slowPortCache) slowPortCache =
      shapeFlows .ascending sharedPortFlows slowPortCache ∧
    (shapeFlows .ascending sharedPortFlows.reverse slowPortCache).Perm
      (shapeFlows .ascending sharedPortFlows slowPortCache) := by
  have hs : ∀ f ∈ sharedPortFlows, f.Sound := by
    intro f hf
    simp only [sharedPortFlows, List.mem_cons, List.not_mem_nil, or_false] at hf
    rcases hf with rfl | rfl
    all_goals exact fun d ↦ by cases d <;> exact ⟨by decide, one_pos⟩
  obtain ⟨htwice, ⟨outcome, hperm, _⟩, _⟩ := shapeFlows_fair sharedPortFlows hs .ascending slowPortCache
  refine ⟨htwice .ascending, ?_⟩
  rw [hperm _ .ascending (List.reverse_perm _), hperm _ .ascending (List.Perm.refl _)]
  exact (List.reverse_perm _).map outcome

end Unoc.Traffic
