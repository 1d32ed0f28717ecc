import Mathlib.Algebra.BigOperators.Ring.List
import Mathlib.Algebra.Order.BigOperators.Group.List
import Mathlib.Algebra.Order.Field.Basic
import Mathlib.Algebra.Order.Ring.Rat
import Mathlib.Tactic.FieldSimp
import Mathlib.Tactic.Ring
import Unoc.Traffic.Capacity

/-!
# Proportional shaping at bottleneck links

`engine-go/internal/traffic/shaping.go:46–127` over the flows of `generation.go:28–42`. Flows
are shared by pointer: a flow is listed under a link once for every crossing, and a bottleneck
multiplies its scale once for every entry. The two directions run through the same code.
-/

namespace Unoc.Traffic

open Unoc.Model

/-- The two directions that shaping treats alike. -/
inductive Direction where
  | up
  | down
  deriving DecidableEq, Repr

/-- `Flow`; `generation.go:28–36`. -/
structure Flow where
  leafID : String
  demandUpBps : ℚ
  demandDownBps : ℚ
  scaleUp : ℚ := 1
  scaleDown : ℚ := 1
  pathNodes : List String
  pathLinks : List String
  deriving DecidableEq, Repr

namespace Flow

/-- Requested traffic in one direction. -/
def demand (f : Flow) : Direction → ℚ
  | .up => f.demandUpBps
  | .down => f.demandDownBps

/-- Scale of one direction. -/
def scale (f : Flow) : Direction → ℚ
  | .up => f.scaleUp
  | .down => f.scaleDown

/-- `DeliveredUpBps` and `DeliveredDownBps`; `generation.go:39,42`. -/
def delivered (f : Flow) (d : Direction) : ℚ := f.demand d * f.scale d

/-- `flow.ScaleUp *= ratio` and `flow.ScaleDown *= ratio`; `shaping.go:89,104`. -/
def mulScale (f : Flow) (d : Direction) (ratio : ℚ) : Flow :=
  match d with
  | .up => { f with scaleUp := f.scaleUp * ratio }
  | .down => { f with scaleDown := f.scaleDown * ratio }

/-- Non-negative demands and untouched scales, as `collectFlows` creates every flow. -/
structure Fresh (f : Flow) : Prop where
  demand_nonneg : ∀ d, 0 ≤ f.demand d
  scale_eq_one : ∀ d, f.scale d = 1

end Flow

/-- `flowsByLink[linkID]`: the flows that cross a link, once for every crossing;
`shaping.go:53–61`. -/
def flowsByLink (flows : List Flow) (linkID : String) : List Flow :=
  flows.flatMap (fun f ↦ List.replicate (f.pathLinks.count linkID) f)

/-- `capacityBps[linkID]`; `shaping.go:57`. -/
def capacityBps (cache : TopologyCache) (linkID : String) : ℚ :=
  effectiveLinkCapacityMbps (cache.linkByID.lookup linkID) cache * 1000000

/-- `sumUpBps` and `sumDownBps` of a link; `shaping.go:80–84`. -/
def sumDelivered (flows : List Flow) (linkID : String) (d : Direction) : ℚ :=
  ((flowsByLink flows linkID).map (fun f ↦ f.delivered d)).sum

/-- The loop `for _, flow := range flowsByLink[linkID]` of a bottleneck: one multiplication for
every entry of a flow; `shaping.go:88–90,103–105`. -/
def rescale (flows : List Flow) (linkID : String) (d : Direction) (ratio : ℚ) : List Flow :=
  flows.map (fun f ↦ (fun g : Flow ↦ g.mulScale d ratio)^[f.pathLinks.count linkID] f)

/-- One direction of a link with its sum already taken, and whether it was over capacity;
`shaping.go:86–99,101–114`. -/
def shapeDirection (flows : List Flow) (linkID : String) (d : Direction) (capBps sumBps : ℚ) :
    List Flow × Bool :=
  if capBps < sumBps then (rescale flows linkID d (capBps / sumBps), true) else (flows, false)

/-- The body of the link loop. Both sums are taken before either direction is scaled;
`shaping.go:74–114`. -/
def shapeLink (cache : TopologyCache) (flows : List Flow) (linkID : String) : List Flow × Bool :=
  let capBps := capacityBps cache linkID
  if capBps ≤ 0 then (flows, false)
  else
    let sumUpBps := sumDelivered flows linkID .up
    let sumDownBps := sumDelivered flows linkID .down
    let up := shapeDirection flows linkID .up capBps sumUpBps
    let down := shapeDirection up.1 linkID .down capBps sumDownBps
    (down.1, up.2 || down.2)

/-- One iteration of the link loop, which collects `changed`; `shaping.go:73–115`. -/
def shapeNextLink (cache : TopologyCache) (acc : List Flow × Bool) (linkID : String) :
    List Flow × Bool :=
  let shaped := shapeLink cache acc.1 linkID
  (shaped.1, acc.2 || shaped.2)

/-- One pass over the links, and whether any link was over capacity; `shaping.go:72–115`. -/
def shapePass (cache : TopologyCache) (linkIDs : List String) (flows : List Flow) :
    List Flow × Bool :=
  linkIDs.foldl (shapeNextLink cache) (flows, false)

/-- The pass loop, which ends early once a pass changes nothing; `shaping.go:71–119`. -/
def shapePasses (cache : TopologyCache) (linkIDs : List String) : Nat → List Flow → List Flow
  | 0, flows => flows
  | passes + 1, flows =>
    let pass := shapePass cache linkIDs flows
    if pass.2 then shapePasses cache linkIDs passes pass.1 else pass.1

/-- The keys of `flowsByLink`. -/
def crossedLinks (flows : List Flow) : Finset String := (flows.flatMap Flow.pathLinks).toFinset

/-- `shapingPasses`; `shaping.go:26`. -/
def shapingPasses : Nat := 3

/-- `ShapeFlows`, with the order of the `range` over `flowsByLink`; `shaping.go:46–127`. -/
def shapeFlows (order : RangeOrder String) (flows : List Flow) (cache : TopologyCache) :
    List Flow :=
  shapePasses cache (order.sortedKeys (crossedLinks flows)) shapingPasses flows

/-- The order of the `range` over `flowsByLink` does not matter. -/
theorem shapeFlows_order (order order' : RangeOrder String) (flows : List Flow)
    (cache : TopologyCache) : shapeFlows order flows cache = shapeFlows order' flows cache := by
  rw [shapeFlows, shapeFlows, order.sortedKeys_eq order']

/-! ### Sums over a link -/

private theorem sum_map_replicate (g : Flow → ℚ) (f : Flow) (n : Nat) :
    ((List.replicate n f).map g).sum = n * g f := by
  rw [List.map_replicate, List.sum_replicate, nsmul_eq_mul]

/-- A sum over the entries of a link counts each flow once for every crossing. -/
theorem sum_flowsByLink (flows : List Flow) (linkID : String) (g : Flow → ℚ) :
    ((flowsByLink flows linkID).map g).sum =
      (flows.map (fun f ↦ f.pathLinks.count linkID * g f)).sum := by
  induction flows with
  | nil => rfl
  | cons f rest ih =>
    rw [flowsByLink, List.flatMap_cons, List.map_append, List.sum_append, sum_map_replicate]
    rw [List.map_cons, List.sum_cons, ← ih, flowsByLink]

/-- A sum of delivered traffic, flow by flow. -/
theorem sumDelivered_eq (flows : List Flow) (linkID : String) (d : Direction) :
    sumDelivered flows linkID d =
      (flows.map (fun f ↦ (f.pathLinks.count linkID : ℚ) * f.delivered d)).sum :=
  sum_flowsByLink flows linkID _

/-! ### What a rescaling does to one flow -/

namespace Flow

/-- A flow after some rescaling: same leaf, demand and path, and scales that only shrank but
stayed positive. -/
structure Shrunk (f f' : Flow) : Prop where
  leafID : f'.leafID = f.leafID
  pathNodes : f'.pathNodes = f.pathNodes
  pathLinks : f'.pathLinks = f.pathLinks
  demand : ∀ d, f'.demand d = f.demand d
  scale_pos : ∀ d, 0 < f.scale d → 0 < f'.scale d
  scale_le : ∀ d, 0 < f.scale d → f'.scale d ≤ f.scale d

/-- A flow shrinks from itself. -/
theorem Shrunk.refl (f : Flow) : f.Shrunk f :=
  ⟨rfl, rfl, rfl, fun _ ↦ rfl, fun _ h ↦ h, fun _ _ ↦ le_refl _⟩

/-- Shrinking in two steps. -/
theorem Shrunk.trans {f g h : Flow} (hfg : f.Shrunk g) (hgh : g.Shrunk h) : f.Shrunk h where
  leafID := hgh.leafID.trans hfg.leafID
  pathNodes := hgh.pathNodes.trans hfg.pathNodes
  pathLinks := hgh.pathLinks.trans hfg.pathLinks
  demand d := (hgh.demand d).trans (hfg.demand d)
  scale_pos d hp := hgh.scale_pos d (hfg.scale_pos d hp)
  scale_le d hp := (hgh.scale_le d (hfg.scale_pos d hp)).trans (hfg.scale_le d hp)

private theorem scale_mulScale (f : Flow) (d d' : Direction) (ratio : ℚ) :
    (f.mulScale d ratio).scale d' = if d' = d then f.scale d * ratio else f.scale d' := by
  cases d <;> cases d' <;> rfl

/-- Multiplying by a ratio in `(0, 1]` shrinks a flow. -/
theorem shrunk_mulScale (f : Flow) (d : Direction) {ratio : ℚ} (hpos : 0 < ratio)
    (hle : ratio ≤ 1) : f.Shrunk (f.mulScale d ratio) := by
  refine ⟨by cases d <;> rfl, by cases d <;> rfl, by cases d <;> rfl,
    fun d' ↦ by cases d <;> cases d' <;> rfl, ?_, ?_⟩
  · intro d' hp
    rw [scale_mulScale]
    split
    · next h => subst h; exact mul_pos hp hpos
    · exact hp
  · intro d' hp
    rw [scale_mulScale]
    split
    · next h => subst h; exact mul_le_of_le_one_right hp.le hle
    · exact le_refl _

/-- Repeated multiplications shrink a flow. -/
theorem shrunk_iterate (f : Flow) (d : Direction) {ratio : ℚ} (hpos : 0 < ratio)
    (hle : ratio ≤ 1) (n : Nat) : f.Shrunk ((fun g : Flow ↦ g.mulScale d ratio)^[n] f) := by
  induction n with
  | zero => exact Shrunk.refl f
  | succ n ih =>
    rw [Function.iterate_succ_apply']
    exact ih.trans (shrunk_mulScale _ d hpos hle)

/-- Repeated multiplications leave the other direction alone. -/
theorem scale_iterate_of_ne (f : Flow) {d d' : Direction} (hd : d' ≠ d) (ratio : ℚ) (n : Nat) :
    ((fun g : Flow ↦ g.mulScale d ratio)^[n] f).scale d' = f.scale d' := by
  induction n with
  | zero => rfl
  | succ n ih => rw [Function.iterate_succ_apply', scale_mulScale, if_neg hd, ih]

/-- At least one multiplication brings the scale down to its first multiple or below. -/
theorem scale_iterate_le (f : Flow) (d : Direction) {ratio : ℚ} (hpos : 0 < ratio)
    (hle : ratio ≤ 1) (hs : 0 < f.scale d) (n : Nat) :
    ((fun g : Flow ↦ g.mulScale d ratio)^[n + 1] f).scale d ≤ f.scale d * ratio := by
  rw [Function.iterate_succ_apply]
  have hself : (f.mulScale d ratio).scale d = f.scale d * ratio := by
    rw [scale_mulScale, if_pos rfl]
  rw [← hself]
  exact (shrunk_iterate _ d hpos hle n).scale_le d (hself ▸ mul_pos hs hpos)

/-- Shrinking a flow of non-negative demand lowers what it delivers. -/
theorem Shrunk.delivered_le {f f' : Flow} (h : f.Shrunk f') (d : Direction)
    (hd : 0 ≤ f.demand d) (hs : 0 < f.scale d) : f'.delivered d ≤ f.delivered d := by
  rw [delivered, delivered, h.demand]
  exact mul_le_mul_of_nonneg_left (h.scale_le d hs) hd

end Flow

/-! ### What one link does to the flows -/

/-- Demand that the flows put on a link before shaping, as `LinkDemand` reports it. -/
def rawDemand (flows : List Flow) (linkID : String) (d : Direction) : ℚ :=
  ((flowsByLink flows linkID).map (fun f ↦ f.demand d)).sum

/-- Non-negative demands and positive scales: what every flow keeps through shaping. -/
def Flow.Sound (f : Flow) : Prop := ∀ d, 0 ≤ f.demand d ∧ 0 < f.scale d

/-- One direction of one flow at a link whose sum is known. -/
def throttle (linkID : String) (d : Direction) (capBps sumBps : ℚ) (f : Flow) : Flow :=
  (fun g : Flow ↦ g.mulScale d (capBps / sumBps))^[
    if capBps < sumBps then f.pathLinks.count linkID else 0] f

/-- The step of one link: a direction of a flow changes only where the flow crosses a link that is
over its positive capacity. -/
structure LinkStep (cache : TopologyCache) (flows : List Flow) (linkID : String)
    (f f' : Flow) : Prop where
  shrunk : f.Shrunk f'
  keeps : ∀ d, (linkID ∈ f.pathLinks → 0 < capacityBps cache linkID →
    sumDelivered flows linkID d ≤ capacityBps cache linkID) → f'.scale d = f.scale d

private theorem throttle_of_le (f : Flow) (linkID : String) (d : Direction) {capBps sumBps : ℚ}
    (h : linkID ∈ f.pathLinks → sumBps ≤ capBps) : throttle linkID d capBps sumBps f = f := by
  unfold throttle
  split
  · next hlt =>
    have hmem : linkID ∉ f.pathLinks := fun hm ↦ absurd hlt (not_lt.mpr (h hm))
    rw [List.count_eq_zero_of_not_mem hmem, Function.iterate_zero, id_eq]
  · rw [Function.iterate_zero, id_eq]

private theorem map_throttle_of_le (flows : List Flow) (linkID : String) (d : Direction)
    {capBps sumBps : ℚ} (h : sumBps ≤ capBps) :
    flows.map (throttle linkID d capBps sumBps) = flows := by
  rw [List.map_congr_left (fun f _ ↦ throttle_of_le f linkID d (fun _ ↦ h)), List.map_id']

private theorem shapeDirection_eq_map (flows : List Flow) (linkID : String) (d : Direction)
    (capBps sumBps : ℚ) :
    (shapeDirection flows linkID d capBps sumBps).1 =
      flows.map (throttle linkID d capBps sumBps) := by
  unfold shapeDirection
  split
  · next h =>
    refine List.map_congr_left (fun f _ ↦ ?_)
    rw [throttle, if_pos h]
  · next h => rw [map_throttle_of_le flows linkID d (not_lt.mp h)]

private theorem shrunk_throttle (f : Flow) (linkID : String) (d : Direction) {capBps : ℚ}
    (sumBps : ℚ)
    (hcap : 0 < capBps) : f.Shrunk (throttle linkID d capBps sumBps f) := by
  unfold throttle
  split
  · next h =>
    have hsum : 0 < sumBps := hcap.trans h
    exact Flow.shrunk_iterate f d (div_pos hcap hsum) ((div_le_one hsum).mpr h.le) _
  · exact Flow.Shrunk.refl f

private theorem scale_throttle_of_ne (f : Flow) (linkID : String) {d d' : Direction}
    (hd : d' ≠ d) (capBps sumBps : ℚ) :
    (throttle linkID d capBps sumBps f).scale d' = f.scale d' :=
  Flow.scale_iterate_of_ne f hd _ _

/-- Above a positive capacity the body of the link loop treats every flow by itself. -/
theorem shapeLink_eq_map (cache : TopologyCache) (flows : List Flow) (linkID : String)
    (hcap : 0 < capacityBps cache linkID) :
    (shapeLink cache flows linkID).1 =
      (flows.map (throttle linkID .up (capacityBps cache linkID)
        (sumDelivered flows linkID .up))).map
          (throttle linkID .down (capacityBps cache linkID) (sumDelivered flows linkID .down)) := by
  simp only [shapeLink, if_neg (not_le.mpr hcap), shapeDirection_eq_map]

/-- Every flow takes a link step when the link loop reaches a link. -/
theorem shapeLink_step (cache : TopologyCache) (flows : List Flow) (linkID : String) :
    List.Forall₂ (LinkStep cache flows linkID) flows (shapeLink cache flows linkID).1 := by
  by_cases hcap : 0 < capacityBps cache linkID
  · rw [shapeLink_eq_map cache flows linkID hcap, List.map_map, List.forall₂_map_right_iff,
      List.forall₂_same]
    intro f _
    have hup := shrunk_throttle f linkID .up (sumDelivered flows linkID .up) hcap
    refine ⟨hup.trans (shrunk_throttle _ linkID .down _ hcap), ?_⟩
    intro d hd
    cases d with
    | up =>
      rw [Function.comp_apply, scale_throttle_of_ne _ _ (by decide), throttle_of_le _ _ _ (fun hm ↦ hd hm hcap)]
    | down =>
      rw [Function.comp_apply, throttle_of_le _ _ .down (fun hm ↦ hd (hup.pathLinks ▸ hm) hcap),
        scale_throttle_of_ne _ _ (by decide)]
  · rw [shapeLink, if_pos (not_lt.mp hcap), List.forall₂_same]
    exact fun f _ ↦ ⟨Flow.Shrunk.refl f, fun _ _ ↦ rfl⟩

/-- Shrinking sound flows lowers the sum of every link. -/
theorem sumDelivered_le_of_shrunk {flows flows' : List Flow}
    (h : List.Forall₂ Flow.Shrunk flows flows') (hs : ∀ f ∈ flows, f.Sound) (linkID : String)
    (d : Direction) : sumDelivered flows' linkID d ≤ sumDelivered flows linkID d := by
  rw [sumDelivered_eq, sumDelivered_eq]
  induction h with
  | nil => exact le_refl _
  | cons hf _ ih =>
    simp only [List.map_cons, List.sum_cons]
    obtain ⟨hd, hscale⟩ := hs _ List.mem_cons_self d
    rw [hf.pathLinks]
    exact add_le_add (mul_le_mul_of_nonneg_left (hf.delivered_le d hd hscale) (Nat.cast_nonneg _))
      (ih (fun g hg ↦ hs g (List.mem_cons_of_mem _ hg)))

private theorem count_mul_delivered_throttle (f : Flow) (hf : f.Sound) (linkID : String)
    (d : Direction) {capBps sumBps : ℚ} (hcap : 0 < capBps) (h : capBps < sumBps) :
    (f.pathLinks.count linkID : ℚ) * (throttle linkID d capBps sumBps f).delivered d ≤
      f.pathLinks.count linkID * f.delivered d * (capBps / sumBps) := by
  have hsum : 0 < sumBps := hcap.trans h
  obtain ⟨hd, hs⟩ := hf d
  rw [Flow.delivered, (shrunk_throttle f linkID d sumBps hcap).demand]
  cases hc : f.pathLinks.count linkID with
  | zero => simp
  | succ n =>
    have hle : (throttle linkID d capBps sumBps f).scale d ≤ f.scale d * (capBps / sumBps) := by
      rw [throttle, if_pos h, hc]
      exact Flow.scale_iterate_le f d (div_pos hcap hsum) ((div_le_one hsum).mpr h.le) hs n
    calc ((n + 1 : Nat) : ℚ) * (f.demand d * (throttle linkID d capBps sumBps f).scale d)
        ≤ ((n + 1 : Nat) : ℚ) * (f.demand d * (f.scale d * (capBps / sumBps))) :=
          mul_le_mul_of_nonneg_left (mul_le_mul_of_nonneg_left hle hd) (Nat.cast_nonneg _)
      _ = ((n + 1 : Nat) : ℚ) * f.delivered d * (capBps / sumBps) := by
          rw [Flow.delivered]; ring

/-- A direction whose own sum is used for its ratio ends up within the capacity. -/
theorem sumDelivered_throttle_le {flows : List Flow} (hs : ∀ f ∈ flows, f.Sound)
    (linkID : String) (d : Direction) {capBps : ℚ} (hcap : 0 < capBps) :
    sumDelivered (flows.map (throttle linkID d capBps (sumDelivered flows linkID d))) linkID d ≤
      capBps := by
  by_cases h : capBps < sumDelivered flows linkID d
  · have hsum : 0 < sumDelivered flows linkID d := hcap.trans h
    rw [sumDelivered_eq, List.map_map]
    calc (flows.map _).sum
        ≤ (flows.map (fun f ↦ (f.pathLinks.count linkID : ℚ) * f.delivered d *
            (capBps / sumDelivered flows linkID d))).sum := by
          refine List.sum_le_sum (fun f hf ↦ ?_)
          rw [Function.comp_apply, (shrunk_throttle f linkID d _ hcap).pathLinks]
          exact count_mul_delivered_throttle f (hs f hf) linkID d hcap h
      _ = sumDelivered flows linkID d * (capBps / sumDelivered flows linkID d) := by
          rw [List.sum_map_mul_right, ← sumDelivered_eq]
      _ = capBps := by field_simp
  · rw [map_throttle_of_le flows linkID d (not_lt.mp h)]
    exact not_lt.mp h

private theorem sumDelivered_throttle_of_ne (flows : List Flow) (linkID : String)
    {d d' : Direction} (hd : d' ≠ d) {capBps : ℚ} (sumBps : ℚ) (hcap : 0 < capBps) :
    sumDelivered (flows.map (throttle linkID d capBps sumBps)) linkID d' =
      sumDelivered flows linkID d' := by
  rw [sumDelivered_eq, sumDelivered_eq, List.map_map]
  refine congrArg List.sum (List.map_congr_left (fun f _ ↦ ?_))
  have hsh := shrunk_throttle f linkID d sumBps hcap
  rw [Function.comp_apply, hsh.pathLinks, Flow.delivered, hsh.demand, scale_throttle_of_ne f _ hd]
  rfl

/-- A link of positive capacity carries at most its capacity right after its turn. -/
theorem sumDelivered_shapeLink_le (cache : TopologyCache) {flows : List Flow}
    (hs : ∀ f ∈ flows, f.Sound) (linkID : String) (d : Direction)
    (hcap : 0 < capacityBps cache linkID) :
    sumDelivered (shapeLink cache flows linkID).1 linkID d ≤ capacityBps cache linkID := by
  rw [shapeLink_eq_map cache flows linkID hcap]
  cases d with
  | up =>
    rw [sumDelivered_throttle_of_ne _ _ (by decide) _ hcap]
    exact sumDelivered_throttle_le hs linkID .up hcap
  | down =>
    rw [← sumDelivered_throttle_of_ne flows linkID (show Direction.down ≠ .up by decide)
      (sumDelivered flows linkID .up) hcap]
    refine sumDelivered_throttle_le ?_ linkID .down hcap
    intro f hf
    obtain ⟨g, hg, rfl⟩ := List.mem_map.mp hf
    have hsh := shrunk_throttle g linkID .up (sumDelivered flows linkID .up) hcap
    exact fun d ↦ ⟨hsh.demand d ▸ (hs g hg d).1, hsh.scale_pos d (hs g hg d).2⟩

/-! ### Passes -/

/-- What shaping has done so far to one flow of the list `raw`. -/
structure ShapedFrom (cache : TopologyCache) (raw : List Flow) (f f' : Flow) : Prop where
  shrunk : f.Shrunk f'
  keeps : ∀ d, (∀ l ∈ f.pathLinks, 0 < capacityBps cache l →
    rawDemand raw l d ≤ capacityBps cache l) → f'.scale d = f.scale d

/-- The shaping of the fresh flows `raw` stands at `flows`. -/
def Shaping (cache : TopologyCache) (raw flows : List Flow) : Prop :=
  List.Forall₂ (ShapedFrom cache raw) raw flows

private theorem shaping_refl (cache : TopologyCache) (raw : List Flow) :
    Shaping cache raw raw :=
  List.forall₂_same.mpr (fun f _ ↦ ⟨Flow.Shrunk.refl f, fun _ _ ↦ rfl⟩)

private theorem Shaping.shrunk {cache : TopologyCache} {raw flows : List Flow}
    (h : Shaping cache raw flows) : List.Forall₂ Flow.Shrunk raw flows :=
  h.imp (fun _ _ hf ↦ hf.shrunk)

/-- A fresh flow is sound. -/
theorem Flow.Fresh.sound {f : Flow} (h : f.Fresh) : f.Sound :=
  fun d ↦ ⟨h.demand_nonneg d, by rw [h.scale_eq_one d]; exact one_pos⟩

/-- Two steps of every flow make one step of every flow. -/
theorem forall₂_trans {α : Type} {R S T : α → α → Prop}
    (h : ∀ a b c, R a b → S b c → T a c) {xs ys zs : List α} (hR : List.Forall₂ R xs ys)
    (hS : List.Forall₂ S ys zs) : List.Forall₂ T xs zs := by
  induction hR generalizing zs with
  | nil => cases hS; exact .nil
  | cons hab _ ih =>
    cases hS with
    | cons hbc hrest => exact .cons (h _ _ _ hab hbc) (ih hrest)

/-- Every element of the second list comes from one of the first. -/
theorem exists_of_forall₂ {α : Type} {R : α → α → Prop} {xs ys : List α} (h : List.Forall₂ R xs ys)
    {y : α} (hy : y ∈ ys) : ∃ x ∈ xs, R x y := by
  induction h with
  | nil => cases hy
  | cons hxy _ ih =>
    rcases List.mem_cons.mp hy with rfl | hy
    · exact ⟨_, List.mem_cons_self, hxy⟩
    · obtain ⟨x, hx, hr⟩ := ih hy
      exact ⟨x, List.mem_cons_of_mem _ hx, hr⟩

/-- Flows being shaped stay sound. -/
theorem sound_of_shrunk {raw flows : List Flow} (h : List.Forall₂ Flow.Shrunk raw flows)
    (hraw : ∀ f ∈ raw, f.Sound) : ∀ f ∈ flows, f.Sound := by
  intro f' hf'
  obtain ⟨f, hf, hs⟩ := exists_of_forall₂ h hf'
  exact fun d ↦ ⟨hs.demand d ▸ (hraw f hf d).1, hs.scale_pos d (hraw f hf d).2⟩

/-- A fresh link carries its raw demand. -/
theorem sumDelivered_of_fresh {raw : List Flow} (hraw : ∀ f ∈ raw, f.Fresh) (linkID : String)
    (d : Direction) : sumDelivered raw linkID d = rawDemand raw linkID d := by
  rw [sumDelivered_eq, rawDemand, sum_flowsByLink]
  refine congrArg List.sum (List.map_congr_left (fun f hf ↦ ?_))
  rw [Flow.delivered, (hraw f hf).scale_eq_one, mul_one]

/-- The links of `done` carry at most their positive capacity. -/
def WithinCapacity (cache : TopologyCache) (done : List String) (flows : List Flow) : Prop :=
  ∀ l ∈ done, ∀ d, 0 < capacityBps cache l → sumDelivered flows l d ≤ capacityBps cache l

/-- A turn keeps sound flows sound. -/
theorem sound_shapeLink (cache : TopologyCache) {flows : List Flow} (hs : ∀ f ∈ flows, f.Sound)
    (linkID : String) : ∀ f ∈ (shapeLink cache flows linkID).1, f.Sound :=
  sound_of_shrunk ((shapeLink_step cache flows linkID).imp (fun _ _ hf ↦ hf.shrunk)) hs

/-- A turn brings its own link within capacity and keeps the links before it there. -/
theorem WithinCapacity.link {cache : TopologyCache} {done : List String} {flows : List Flow}
    (h : WithinCapacity cache done flows) (hs : ∀ f ∈ flows, f.Sound) (linkID : String) :
    WithinCapacity cache (done ++ [linkID]) (shapeLink cache flows linkID).1 := by
  intro l hl d hcap
  rcases List.mem_append.mp hl with hl | hl
  · have hstep := (shapeLink_step cache flows linkID).imp (fun _ _ hf ↦ hf.shrunk)
    exact (sumDelivered_le_of_shrunk hstep hs l d).trans (h l hl d hcap)
  · obtain rfl := List.mem_singleton.mp hl
    exact sumDelivered_shapeLink_le cache hs l d hcap

/-- What every turn preserves, a pass preserves. -/
theorem shapePass_induction (cache : TopologyCache) {P : List Flow → Prop}
    (step : ∀ flows, P flows → ∀ linkID, P (shapeLink cache flows linkID).1)
    (linkIDs : List String) {flows : List Flow} (h : P flows) :
    P (shapePass cache linkIDs flows).1 := by
  suffices ∀ (todo : List String) (acc : List Flow × Bool), P acc.1 →
      P (todo.foldl (shapeNextLink cache) acc).1 from this linkIDs (flows, false) h
  intro todo
  induction todo with
  | nil => exact fun _ hs ↦ hs
  | cons l rest ih => exact fun acc hs ↦ ih (shapeNextLink cache acc l) (step acc.1 hs l)

/-- A pass over sound flows brings every link of its list within capacity. -/
theorem withinCapacity_shapePass (cache : TopologyCache) {flows : List Flow}
    (hs : ∀ f ∈ flows, f.Sound) (linkIDs : List String) :
    WithinCapacity cache linkIDs (shapePass cache linkIDs flows).1 := by
  -- the links visited so far grow from the left of the list
  suffices ∀ (todo done : List String) (acc : List Flow × Bool), (∀ f ∈ acc.1, f.Sound) →
      WithinCapacity cache done acc.1 →
      WithinCapacity cache (done ++ todo) (todo.foldl (shapeNextLink cache) acc).1 from
    this linkIDs [] (flows, false) hs (by simp [WithinCapacity])
  intro todo
  induction todo with
  | nil => intro done acc _ hw; simpa using hw
  | cons l rest ih =>
    intro done acc hs hw
    have hrest := ih (done ++ [l]) (shapeNextLink cache acc l) (sound_shapeLink cache hs l)
      (hw.link hs l)
    rwa [List.append_assoc, List.singleton_append] at hrest

section Passes

variable {cache : TopologyCache} {raw : List Flow} (hraw : ∀ f ∈ raw, f.Fresh)
include hraw

/-- Shaping only lowers the sums of links. -/
theorem Shaping.sumDelivered_le {flows : List Flow} (h : Shaping cache raw flows)
    (linkID : String) (d : Direction) :
    sumDelivered flows linkID d ≤ rawDemand raw linkID d := by
  rw [← sumDelivered_of_fresh hraw]
  exact sumDelivered_le_of_shrunk h.shrunk (fun f hf ↦ (hraw f hf).sound) linkID d

private theorem Shaping.sound {flows : List Flow} (h : Shaping cache raw flows) :
    ∀ f ∈ flows, f.Sound :=
  sound_of_shrunk h.shrunk (fun f hf ↦ (hraw f hf).sound)

/-- One turn of one link keeps the shaping invariant. -/
theorem Shaping.link {flows : List Flow} (h : Shaping cache raw flows) (linkID : String) :
    Shaping cache raw (shapeLink cache flows linkID).1 := by
  refine forall₂_trans ?_ h (shapeLink_step cache flows linkID)
  intro f g g' hfg hgg
  refine ⟨hfg.shrunk.trans hgg.shrunk, fun d hd ↦ ?_⟩
  rw [hgg.keeps d, hfg.keeps d hd]
  intro hmem hcap
  rw [hfg.shrunk.pathLinks] at hmem
  exact (h.sumDelivered_le hraw linkID d).trans (hd linkID hmem hcap)

/-- A pass keeps the shaping invariant and brings every link of its list within capacity. -/
theorem shapePass_spec {flows : List Flow} (h : Shaping cache raw flows)
    (linkIDs : List String) :
    Shaping cache raw (shapePass cache linkIDs flows).1 ∧
      WithinCapacity cache linkIDs (shapePass cache linkIDs flows).1 := by
  refine ⟨?_, withinCapacity_shapePass cache (h.sound hraw) linkIDs⟩
  exact shapePass_induction cache (fun _ hs l ↦ hs.link hraw l) linkIDs h

/-- At least one pass leaves every link of the list within capacity. -/
theorem shapePasses_spec (linkIDs : List String) (passes : Nat) :
    ∀ {flows : List Flow}, Shaping cache raw flows →
      Shaping cache raw (shapePasses cache linkIDs (passes + 1) flows) ∧
        WithinCapacity cache linkIDs (shapePasses cache linkIDs (passes + 1) flows) := by
  induction passes with
  | zero =>
    intro flows h
    simpa [shapePasses] using shapePass_spec hraw h linkIDs
  | succ passes ih =>
    intro flows h
    have hpass := shapePass_spec hraw h linkIDs
    rw [shapePasses]
    split
    · exact ih hpass.1
    · exact hpass

end Passes

private theorem count_crossing {flows : List Flow} {linkID : String}
    (h : linkID ∉ crossedLinks flows) {f : Flow} (hf : f ∈ flows) :
    f.pathLinks.count linkID = 0 := by
  refine List.count_eq_zero_of_not_mem (fun hm ↦ h ?_)
  exact List.mem_toFinset.mpr (List.mem_flatMap.mpr ⟨f, hf, hm⟩)

/-- Shaping keeps the paths of the flows. -/
theorem crossedLinks_of_shrunk {raw flows : List Flow}
    (h : List.Forall₂ Flow.Shrunk raw flows) : crossedLinks flows = crossedLinks raw := by
  unfold crossedLinks
  congr 1
  induction h with
  | nil => rfl
  | cons hf _ ih => rw [List.flatMap_cons, List.flatMap_cons, hf.pathLinks, ih]

/-- Shaping of fresh flows: the invariant holds, and no link of positive capacity carries more than
its capacity in either direction. -/
theorem shapeFlows_spec (order : RangeOrder String) {flows : List Flow} (cache : TopologyCache)
    (h : ∀ f ∈ flows, f.Fresh) :
    Shaping cache flows (shapeFlows order flows cache) ∧
      ∀ l d, 0 < capacityBps cache l →
        sumDelivered (shapeFlows order flows cache) l d ≤ capacityBps cache l := by
  obtain ⟨hsh, hw⟩ := shapePasses_spec h (order.sortedKeys (crossedLinks flows)) 2
    (shaping_refl cache flows)
  refine ⟨hsh, fun l d hcap ↦ ?_⟩
  by_cases hl : l ∈ crossedLinks flows
  · exact hw l (RangeOrder.mem_sortedKeys.mpr hl) d hcap
  · rw [← crossedLinks_of_shrunk hsh.shrunk] at hl
    rw [shapeFlows, sumDelivered_eq, List.map_congr_left (g := fun _ ↦ 0)]
    · simpa using hcap.le
    · intro f hf
      rw [count_crossing hl hf, Nat.cast_zero, zero_mul]

end Unoc.Traffic
