import Mathlib.Data.List.Basic
import Mathlib.Data.List.Nodup
import Mathlib.Logic.Relation

/-!
# Tables behind an append-only log

A step that changes a table records its change as events behind the log. Where every step does, the
table is the replay of the log in every state of a run, and the table of an earlier state is the
replay of a prefix.
-/

namespace Unoc.Base

universe u v w

/-- The changes of a table with a key. -/
inductive RowEvent (R : Type u) (K : Type v) where
  | created (row : R)
  | deleted (key : K)
  deriving DecidableEq

variable {R : Type u} {K : Type v} [DecidableEq K] (key : R → K)

namespace RowEvent

/-- What an event does to the rows. -/
def apply (rows : List R) : RowEvent R K → List R
  | created row => rows ++ [row]
  | deleted k => rows.filter (fun r ↦ key r ≠ k)

/-- The rows after the events of a log. -/
def replay (rows : List R) (log : List (RowEvent R K)) : List R := log.foldl (apply key) rows

@[simp] private theorem replay_nil (rows : List R) : replay key rows
    ([] : List (RowEvent R K)) = rows := rfl

private theorem replay_append (rows : List R) (log events : List (RowEvent R K)) :
    replay key rows (log ++ events) = replay key (replay key rows log) events :=
  List.foldl_append

/-- Deletions keep the rows with other keys. -/
theorem replay_deleted (rows : List R) (ks : List K) :
    replay key rows (ks.map deleted) = rows.filter (fun r ↦ key r ∉ ks) := by
  induction ks generalizing rows with
  | nil => simp
  | cons k ks ih =>
    change replay key (rows.filter (fun r ↦ key r ≠ k)) (ks.map deleted) = _
    rw [ih, List.filter_filter]
    apply List.filter_congr
    intro r _
    simp [Bool.and_comm]

end RowEvent

/-! ### Steps and runs -/

/-- A table with its log. -/
structure Sourced (R : Type u) (K : Type v) where
  rows : List R
  log : List (RowEvent R K)

namespace Sourced

/-- The table is the replay of the log. -/
def Replays (s : Sourced R K) : Prop := RowEvent.replay key [] s.log = s.rows

/-- A step appends events that lead from the old table to the new one. -/
def Records (s s' : Sourced R K) : Prop :=
  ∃ events, s'.log = s.log ++ events ∧ s'.rows = RowEvent.replay key s.rows events

variable {key}

/-- Nothing changed, nothing recorded. -/
theorem Records.refl (s : Sourced R K) : Records key s s := ⟨[], by simp, rfl⟩

/-- What two changes in a row record. -/
theorem Records.trans {s s' s'' : Sourced R K} (h : Records key s s') (h' : Records key s' s'') :
    Records key s s'' := by
  obtain ⟨events, hlog, hrows⟩ := h
  obtain ⟨events', hlog', hrows'⟩ := h'
  refine ⟨events ++ events', ?_, ?_⟩
  · rw [hlog', hlog, List.append_assoc]
  · rw [hrows', hrows, RowEvent.replay_append]

/-- A log only grows. -/
theorem Records.log_prefix {s s' : Sourced R K} (h : Records key s s') : s.log <+: s'.log := by
  obtain ⟨events, hlog, _⟩ := h
  exact ⟨events, hlog.symm⟩

/-- A recorded step leaves a table that is the replay of its log. -/
theorem Records.replays {s s' : Sourced R K} (h : Records key s s') (hs : s.Replays key) :
    s'.Replays key := by
  obtain ⟨events, hlog, hrows⟩ := h
  unfold Replays at hs ⊢
  rw [hlog, RowEvent.replay_append, hs, hrows]

/-- A run of recorded steps records its changes. -/
theorem Records.run {step : Sourced R K → Sourced R K → Prop}
    (hstep : ∀ s s', step s s' → Records key s s') {s s' : Sourced R K}
    (h : Relation.ReflTransGen step s s') : Records key s s' := by
  induction h with
  | refl => exact .refl s
  | tail _ hs ih => exact ih.trans (hstep _ _ hs)

end Sourced

end Unoc.Base
