import Mathlib.Data.List.Basic

/-!
# Steps that settle

Fallible steps that only extend a state, each of which leaves its own request settled: a run over any
requests that were made before succeeds and changes nothing. Rows that are inserted unless their key
is present are such requests, and the first one for a key decides.
-/

namespace Unoc.Base

universe u v w

/-! ### Runs -/

variable {σ : Type u} {α : Type v}

/-- Steps extend the state and settle their request, and a settled request stays settled and is a
step that changes nothing. -/
structure Settling (step : σ → α → Option σ) (le : σ → σ → Prop) (settled : σ → α → Prop) :
    Prop where
  refl : ∀ s, le s s
  trans : ∀ s t u, le s t → le t u → le s u
  extends_step : ∀ s a t, step s a = some t → le s t
  settled_step : ∀ s a t, step s a = some t → settled t a
  step_settled : ∀ s a, settled s a → step s a = some s
  mono : ∀ s t a, le s t → settled s a → settled t a

namespace Settling

variable {step : σ → α → Option σ} {le : σ → σ → Prop} {settled : σ → α → Prop}
  {s t : σ} {requests : List α}

/-- A run only extends the state. -/
theorem extends_run (h : Settling step le settled) (hrun : requests.foldlM step s = some t) :
    le s t := by
  induction requests generalizing s with
  | nil =>
    rw [← Option.some.inj hrun]
    exact h.refl s
  | cons a requests ih =>
    rw [List.foldlM_cons, Option.bind_eq_bind, Option.bind_eq_some_iff] at hrun
    obtain ⟨s', hstep, hrest⟩ := hrun
    exact h.trans s s' t (h.extends_step s a s' hstep) (ih hrest)

private theorem settled_run (h : Settling step le settled)
    (hrun : requests.foldlM step s = some t) :
    ∀ a ∈ requests, settled t a := by
  induction requests generalizing s with
  | nil =>
    intro a ha
    cases ha
  | cons b requests ih =>
    rw [List.foldlM_cons, Option.bind_eq_bind, Option.bind_eq_some_iff] at hrun
    obtain ⟨s', hstep, hrest⟩ := hrun
    intro a ha
    rcases List.mem_cons.mp ha with rfl | ha
    · exact h.mono s' t a (h.extends_run hrest) (h.settled_step s a s' hstep)
    · exact ih hrest a ha

private theorem run_of_settled (h : Settling step le settled) (hall : ∀ a ∈ requests, settled s a) :
    requests.foldlM step s = some s := by
  induction requests with
  | nil => rfl
  | cons a requests ih =>
    rw [List.foldlM_cons, h.step_settled s a (hall a List.mem_cons_self)]
    exact ih (fun b hb ↦ hall b (List.mem_cons_of_mem a hb))

/-- A second run over requests of the first, in any order, changes nothing. -/
theorem run_again (h : Settling step le settled) (hrun : requests.foldlM step s = some t)
    {again : List α} (hsub : ∀ a ∈ again, a ∈ requests) : again.foldlM step t = some t :=
  h.run_of_settled (fun a ha ↦ h.settled_run hrun a (hsub a ha))

end Settling

/-! ### Rows by key -/

variable {κ : Type w} [DecidableEq κ] (key : α → κ)

/-- Insert a row unless its key is present. -/
def ensureRow (rows : List α) (row : α) : List α :=
  if rows.any (fun x ↦ key x = key row) then rows else rows ++ [row]

/-- Insert rows one after the other. -/
def ensureRows (rows wanted : List α) : List α := wanted.foldl (ensureRow key) rows

variable {key} {rows wanted : List α}

/-- Rows that are ensured in two parts. -/
theorem ensureRows_append (rows wanted wanted' : List α) :
    ensureRows key rows (wanted ++ wanted') = ensureRows key (ensureRows key rows wanted) wanted' :=
  List.foldl_append

private theorem exists_key_ensureRow (rows : List α) (row : α) :
    ∃ x ∈ ensureRow key rows row, key x = key row := by
  unfold ensureRow
  split
  · next h => simpa using h
  · exact ⟨row, List.mem_append_right _ (List.mem_singleton_self row), rfl⟩

/-- A key that is there is not added again. -/
theorem ensureRow_of_present {row : α} (h : ∃ x ∈ rows, key x = key row) :
    ensureRow key rows row = rows :=
  if_pos (by simpa using h)

/-- The rows after all insertions: those there were, and for each new key the first that was wanted. -/
theorem mem_ensureRows {x : α} : x ∈ ensureRows key rows wanted ↔ x ∈ rows ∨
    (∀ y ∈ rows, key y ≠ key x) ∧ wanted.find? (fun y ↦ key y = key x) = some x := by
  induction wanted generalizing rows with
  | nil => simp [ensureRows]
  | cons row wanted ih =>
    rw [ensureRows, List.foldl_cons, ← ensureRows, ih]
    by_cases hpresent : ∃ y ∈ rows, key y = key row
    · rw [ensureRow_of_present hpresent]
      apply or_congr_right
      apply and_congr_right
      intro hnew
      obtain ⟨y, hy, hkey⟩ := hpresent
      rw [List.find?_cons_of_neg]
      simpa using fun hx ↦ hnew y hy (hkey.trans hx)
    · have hrow : ensureRow key rows row = rows ++ [row] := if_neg (by simpa using hpresent)
      rw [hrow]
      by_cases hx : key row = key x
      · rw [List.find?_cons_of_pos (by simpa using hx)]
        have hfresh : ∀ y ∈ rows, key y ≠ key x := by
          intro y hy hkey
          exact hpresent ⟨y, hy, hkey.trans hx.symm⟩
        constructor
        · rintro (hmem | ⟨hnew, _⟩)
          · rcases List.mem_append.mp hmem with hmem | hmem
            · exact .inl hmem
            · exact .inr ⟨hfresh, by rw [List.mem_singleton.mp hmem]⟩
          · exact absurd hx (hnew row (List.mem_append_right _ (List.mem_singleton_self row)))
        · rintro (hmem | ⟨_, hfirst⟩)
          · exact .inl (List.mem_append_left _ hmem)
          · rw [← Option.some.inj hfirst]
            exact .inl (List.mem_append_right _ (List.mem_singleton_self row))
      · rw [List.find?_cons_of_neg (by simpa using hx)]
        have hne : x ≠ row := by
          rintro rfl
          exact hx rfl
        simp only [List.mem_append, List.mem_singleton, hne, or_false, or_imp, forall_and, forall_eq,
          ne_eq, hx, not_false_eq_true, and_true]

/-- Ensuring rows deletes none. -/
theorem subset_ensureRows (rows wanted : List α) :
    rows ⊆ ensureRows key rows wanted :=
  fun _ hx ↦ mem_ensureRows.mpr (.inl hx)

/-- The key of a wanted row is there afterwards. -/
theorem exists_key_ensureRows {row : α} (h : row ∈ wanted) :
    ∃ x ∈ ensureRows key rows wanted, key x = key row := by
  induction wanted generalizing rows with
  | nil => cases h
  | cons first wanted ih =>
    rcases List.mem_cons.mp h with rfl | h
    · obtain ⟨x, hx, hkey⟩ : ∃ x ∈ ensureRow key rows row, key x = key row :=
        exists_key_ensureRow rows row
      exact ⟨x, subset_ensureRows _ wanted hx, hkey⟩
    · exact ih h

end Unoc.Base
