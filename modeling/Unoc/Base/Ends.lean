import Mathlib.Logic.Basic
import Mathlib.Logic.Relation

/-!
# Runs that end

A nondeterministic program terminates with a result if each of its runs is finite and ends in a state
with that result.
-/

namespace Unoc.Base

universe u v

variable {σ : Type u} {τ : Type v}

/-- Every run from a state is finite, and the states without a step where it ends have the property. -/
inductive Ends (step : σ → σ → Prop) (P : σ → Prop) : σ → Prop
  | intro {s : σ} (hnext : ∀ t, step s t → Ends step P t) (hlast : (∀ t, ¬ step s t) → P s) :
      Ends step P s

namespace Ends

variable {step : σ → σ → Prop} {P Q : σ → Prop} {s : σ}

/-- A weaker property is reached too. -/
theorem mono (h : Ends step P s) (hPQ : ∀ s, P s → Q s) : Ends step Q s := by
  induction h with
  | intro _ hlast ih => exact .intro ih (fun hstuck ↦ hPQ _ (hlast hstuck))

/-- A state that takes no step has ended. -/
theorem of_stuck (hstuck : ∀ t, ¬ step s t) (hP : P s) : Ends step P s :=
  .intro (fun t ht ↦ absurd ht (hstuck t)) (fun _ ↦ hP)

/-- A state that is not stuck ends where its successors do. -/
theorem of_next {t : σ} (ht : step s t) (hnext : ∀ t, step s t → Ends step P t) : Ends step P s :=
  .intro hnext (fun hstuck ↦ absurd ht (hstuck t))

/-- A measure that decreases along the steps within an invariant. -/
theorem of_measure {I : σ → Prop} (measure : σ → Nat)
    (hstep : ∀ s t, I s → step s t → I t ∧ measure t < measure s)
    (hlast : ∀ s, I s → (∀ t, ¬ step s t) → P s) (hs : I s) : Ends step P s := by
  induction hm : measure s using Nat.strongRecOn generalizing s with
  | ind n ih =>
    refine .intro ?_ (hlast s hs)
    intro t ht
    obtain ⟨hI, hlt⟩ := hstep s t hs ht
    exact ih (measure t) (hm ▸ hlt) hI rfl

/-- Some run ends, in a state with the property. -/
theorem exists_last (h : Ends step P s) :
    ∃ t, Relation.ReflTransGen step s t ∧ (∀ u, ¬ step t u) ∧ P t := by
  induction h with
  | @intro s _ hlast ih =>
    by_cases hstuck : ∀ t, ¬ step s t
    · exact ⟨s, .refl, hstuck, hlast hstuck⟩
    · obtain ⟨t, ht⟩ := not_forall.mp hstuck
      obtain ⟨u, htu, hu⟩ := ih t (not_not.mp ht)
      exact ⟨u, .head (not_not.mp ht) htu, hu⟩

/-- Every run that ends does so in a state with the property. -/
theorem last (h : Ends step P s) {t : σ} (hrun : Relation.ReflTransGen step s t)
    (hstuck : ∀ u, ¬ step t u) : P t := by
  induction hrun using Relation.ReflTransGen.head_induction_on with
  | refl =>
    cases h with
    | intro _ hlast => exact hlast hstuck
  | head hsu _ ih =>
    cases h with
    | intro hnext _ => exact ih (hnext _ hsu)

/-- Where the runs of one program are among those of another one and end as its own, some run of both
ends in a state with both properties. -/
theorem exists_common {step' : σ → σ → Prop} (h : Ends step P s) (h' : Ends step' Q s)
    (hsub : ∀ s t, step' s t → step s t) (hstuck : ∀ s, Q s → ∀ t, ¬ step s t) : ∃ t, P t ∧ Q t := by
  obtain ⟨t, hrun, _, hQ⟩ := h'.exists_last
  exact ⟨t, h.last (Relation.ReflTransGen.mono hsub _ _ hrun) (hstuck t hQ), hQ⟩

/-- No run returns to where it started. -/
theorem not_cycle (h : Ends step P s) : ¬ Relation.TransGen step s s := by
  induction h with
  | intro _ _ ih =>
    intro hcycle
    obtain ⟨t, ht, hts⟩ := Relation.TransGen.head'_iff.mp hcycle
    exact ih t ht (.tail' hts ht)

/-- A program that runs another one: within an invariant its steps are those of the inner program while
that has any, and it ends from where the inner program ends. -/
theorem embed {step' : τ → τ → Prop} {Q : τ → Prop} {f : σ → τ} {I : σ → Prop}
    (h : Ends step P s) (hs : I s) (hI : ∀ s t, I s → step s t → I t)
    (hinner : ∀ s t, step s t → step' (f s) (f t))
    (honly : ∀ s u, I s → (∃ t, step s t) → step' (f s) u → ∃ t, u = f t ∧ step s t)
    (hlast : ∀ s, I s → (∀ t, ¬ step s t) → P s → Ends step' Q (f s)) : Ends step' Q (f s) := by
  induction h with
  | @intro s _ hend ih =>
    by_cases hstuck : ∀ t, ¬ step s t
    · exact hlast s hs hstuck (hend hstuck)
    · obtain ⟨t, ht⟩ := not_forall.mp hstuck
      apply of_next (hinner s t (not_not.mp ht))
      intro u hu
      obtain ⟨t', rfl, ht'⟩ := honly s u hs ⟨t, not_not.mp ht⟩ hu
      exact ih t' ht' (hI s t' hs ht')

end Ends

end Unoc.Base
