import Mathlib.Data.List.Induction
import Mathlib.Data.List.Nodup

/-!
# Folds that emit values

A fold over a list that appends at most one value to its output at each step. The output has no value
twice, and none of a given set, exactly if every value is new and outside the set when it is emitted.
-/

namespace Unoc.Base

universe u v w

/-- A step function whose output grows by what a step emits. -/
structure Emitting (σ : Type u) (α : Type v) (β : Type w) where
  step : σ → α → σ
  out : σ → List β
  emits : σ → α → Option β
  out_step : ∀ s a, out (step s a) = out s ++ (emits s a).toList

namespace Emitting

variable {σ : Type u} {α : Type v} {β : Type w} (e : Emitting σ α β) (s : σ)

/-- The state after a list. -/
def run (xs : List α) : σ := xs.foldl e.step s

@[simp] private theorem run_nil : e.run s [] = s := rfl

/-- A run over one more item is a step behind the run. -/
@[simp] theorem run_concat (xs : List α) (a : α) : e.run s (xs ++ [a]) = e.step
    (e.run s xs) a := by
  simp [run]

/-- The output so far stays in front. -/
theorem out_prefix {before xs : List α} (h : before <+: xs) :
    e.out (e.run s before) <+: e.out (e.run s xs) := by
  induction xs using List.reverseRecOn with
  | nil =>
    obtain rfl := List.prefix_nil.mp h
    exact List.prefix_refl _
  | append_singleton xs a ih =>
    rcases List.prefix_concat_iff.mp h with rfl | h
    · exact List.prefix_refl _
    · rw [run_concat, out_step]
      exact (ih h).trans (List.prefix_append _ _)

/-- A step that emits a value is preceded by fewer values than there are in the end. -/
theorem length_out_lt {before xs : List α} {a : α} {b : β} (h : before ++ [a] <+: xs)
    (hb : e.emits (e.run s before) a = some b) :
    (e.out (e.run s before)).length < (e.out (e.run s xs)).length := by
  have hle := (e.out_prefix s h).length_le
  rw [run_concat, out_step, hb, List.length_append, Option.toList_some, List.length_singleton] at hle
  omega

/-- Values that are new and outside `T` when they are emitted. -/
theorem fresh_iff (T : β → Prop) (hstart : e.out s = []) (xs : List α) :
    ((e.out (e.run s xs)).Nodup ∧ ∀ b ∈ e.out (e.run s xs), ¬ T b) ↔
      ∀ before a, before ++ [a] <+: xs → ∀ b, e.emits (e.run s before) a = some b →
        ¬ (T b ∨ b ∈ e.out (e.run s before)) := by
  induction xs using List.reverseRecOn with
  | nil => simp [hstart]
  | append_singleton xs a ih =>
    have hsplit : (∀ before c, before ++ [c] <+: xs ++ [a] → ∀ b,
          e.emits (e.run s before) c = some b → ¬ (T b ∨ b ∈ e.out (e.run s before))) ↔
        (∀ before c, before ++ [c] <+: xs → ∀ b,
          e.emits (e.run s before) c = some b → ¬ (T b ∨ b ∈ e.out (e.run s before))) ∧
        ∀ b, e.emits (e.run s xs) a = some b → ¬ (T b ∨ b ∈ e.out (e.run s xs)) := by
      constructor
      · intro h
        refine ⟨fun before c hpre ↦ h before c (hpre.trans (List.prefix_append _ _)), ?_⟩
        exact h xs a (List.prefix_refl _)
      · rintro ⟨hbefore, hlast⟩ before c hpre
        rcases List.prefix_concat_iff.mp hpre with heq | hpre
        · obtain ⟨rfl, hc⟩ := List.append_inj' heq rfl
          obtain rfl := List.singleton_inj.mp hc
          exact hlast
        · exact hbefore before c hpre
    rw [hsplit, ← ih, run_concat, out_step]
    cases he : e.emits (e.run s xs) a with
    | none => simp
    | some b =>
      rw [Option.toList_some, List.nodup_append]
      simp only [List.mem_append, List.mem_singleton]
      grind

end Emitting

end Unoc.Base
