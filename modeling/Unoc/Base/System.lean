import Mathlib.Logic.Relation

/-!
# Labelled transition systems

Interleavings of any number of parties are runs of one labelled transition system.
A safety property is proved by an invariant that holds initially and is kept by every
step; a property that needs a premise on the steps is proved on the restricted system.
-/

namespace Unoc.Base

universe u v

/-- Initial states and labelled steps over a state type. -/
structure System (σ : Type u) (α : Type v) where
  init : σ → Prop
  step : σ → α → σ → Prop

namespace System

variable {σ : Type u} {α : Type v}

/-- States at the end of some finite run. -/
inductive Reachable (M : System σ α) : σ → Prop where
  | init {s : σ} (h : M.init s) : Reachable M s
  | step {s s' : σ} {a : α} (hr : Reachable M s) (hs : M.step s a s') : Reachable M s'

/-- The system of a guarded step function: `none` where an action is not enabled. -/
def ofAct (init : σ → Prop) (act : σ → α → Option σ) : System σ α where
  init := init
  step s a s' := act s a = some s'

/-- Perform a list of actions in order, if each is enabled. -/
def run (act : σ → α → Option σ) (s : σ) (actions : List α) : Option σ :=
  actions.foldlM act s

/-- The runs whose every step meets a condition on its label and the state before it. -/
def restrict (M : System σ α) (ok : σ → α → Prop) : System σ α where
  init := M.init
  step s a s' := ok s a ∧ M.step s a s'

/-- A guarded step function with one more guard. -/
def guard (ok : σ → α → Prop) [∀ s, DecidablePred (ok s)] (act : σ → α → Option σ) (s : σ) (a : α) :
    Option σ :=
  if ok s a then act s a else none

/-- A guarded step is a step that meets the condition. -/
theorem restrict_of_guard {init : σ → Prop} {act : σ → α → Option σ} {ok : σ → α → Prop}
    [∀ s, DecidablePred (ok s)] {s s' : σ} {a : α} (h : guard ok act s a = some s') :
    ((ofAct init act).restrict ok).step s a s' :=
  Option.ite_none_right_eq_some.mp h

/-- An invariant of the initial states that every step keeps holds in every reachable state. -/
theorem Reachable.invariant {M : System σ α} {I : σ → Prop}
    (hinit : ∀ s, M.init s → I s)
    (hstep : ∀ s a s', I s → M.step s a s' → I s')
    {s : σ} (h : M.Reachable s) : I s := by
  induction h with
  | init h => exact hinit _ h
  | step _ hs ih => exact hstep _ _ _ ih hs

/-- A run of actions that are steps stays among the reachable states. -/
theorem Reachable.run {M : System σ α} (act : σ → α → Option σ)
    (hact : ∀ s a s', act s a = some s' → M.step s a s') (actions : List α)
    {s s' : σ} (h : M.Reachable s) (hr : System.run act s actions = some s') :
    M.Reachable s' := by
  induction actions generalizing s with
  | nil => cases hr; exact h
  | cons a rest ih =>
    obtain ⟨m, hm, hrest⟩ := Option.bind_eq_some_iff.mp hr
    exact ih (.step h (hact _ _ _ hm)) hrest

end System
end Unoc.Base
