import Mathlib.Algebra.BigOperators.Group.List.Basic
import Mathlib.Algebra.GroupWithZero.Nat
import Mathlib.Data.List.AList
import Mathlib.Data.List.Nodup

/-!
# Defaulting dictionaries

A loop that accumulates into `defaultdict` entries computes one fold per key: the entry of `k`
only depends on the elements whose key is `k`. Counting loops therefore hold the number of
elements of each key, and their entries add up to the number of elements that have a key.
-/

namespace Unoc.Base

/-- A Python dictionary. -/
abbrev Dict (K V : Type) := AList (fun _ : K ↦ V)

namespace Dict

variable {α K V : Type} [DecidableEq K]

/-- `m[k] = f(m[k])` on a dictionary with a default. -/
def update (m : Dict K V) (k : K) (default : V) (f : V → V) : Dict K V :=
  m.insert k (f ((m.lookup k).getD default))

/-- Sum of the values of a dictionary of counters. -/
def total (m : Dict K Nat) : Nat := (m.entries.map Sigma.snd).sum

/-- A map of one entry holds that entry. -/
theorem lookup_singleton {k k' : K} {v v' : V} :
    (AList.singleton k v : Dict K V).lookup k' = some v' ↔ k' = k ∧ v' = v := by
  rw [← Option.mem_def, AList.mem_lookup_iff]
  simp

/-- An update changes the value at its key. -/
theorem lookup_update_self (m : Dict K V) (k : K) (default : V) (f : V → V) :
    (m.update k default f).lookup k = some (f ((m.lookup k).getD default)) := by
  simp [update]

/-- An update leaves other keys alone. -/
theorem lookup_update_of_ne (m : Dict K V) {k k' : K} (default : V) (f : V → V) (h : k' ≠ k) :
    (m.update k default f).lookup k' = m.lookup k' := by
  simp [update, AList.lookup_insert_ne h]

/-- What a loop adds to a dictionary satisfies what each iteration adds. -/
theorem lookup_foldl_of_step {P : K → V → Prop} {step : Dict K V → α → Dict K V} (xs : List α)
    (hstep : ∀ m : Dict K V, ∀ x ∈ xs, ∀ k v, (step m x).lookup k = some v →
      m.lookup k = some v ∨ P k v) {m : Dict K V} {k : K} {v : V}
    (h : (xs.foldl step m).lookup k = some v) : m.lookup k = some v ∨ P k v := by
  induction xs generalizing m with
  | nil => exact Or.inl h
  | cons x xs ih =>
    rw [List.foldl_cons] at h
    rcases ih (fun m y hy ↦ hstep m y (List.mem_cons_of_mem x hy)) h with h | h
    · exact hstep m x List.mem_cons_self k v h
    · exact Or.inr h

/-! ### Loops that overwrite -/

/-- A loop that stores elements under their keys keeps the last element of each key. -/
theorem lookup_foldl_insert (key : α → K) (f : α → V) (xs : List α) (m : Dict K V) (k : K) :
    (xs.foldl (fun m x ↦ m.insert (key x) (f x)) m).lookup k =
      ((xs.reverse.find? (fun x ↦ key x = k)).map f).or (m.lookup k) := by
  induction xs generalizing m with
  | nil => rfl
  | cons x xs ih =>
    rw [List.foldl_cons, ih, List.reverse_cons, List.find?_append]
    cases xs.reverse.find? (fun x ↦ decide (key x = k)) with
    | some y => rfl
    | none =>
      by_cases hk : key x = k
      · subst hk
        simp
      · simp [hk, AList.lookup_insert_ne (Ne.symm hk)]

/-- An element joins two vertices, in either direction. -/
def Joins (src dst : α → K) (x : α) (u v : K) : Prop :=
  (src x = u ∧ dst x = v) ∨ (dst x = u ∧ src x = v)

/-- Whether an edge joins two vertices compares its ends. -/
instance (src dst : α → K) (x : α) (u v : K) : Decidable (Joins src dst x u v) :=
  inferInstanceAs (Decidable (_ ∨ _))

/-- The body of a loop that stores edges in both directions. -/
def connect (src dst : α → K) (forward backward : α → V) (m : Dict (K × K) V) (x : α) :
    Dict (K × K) V :=
  (m.insert (src x, dst x) (forward x)).insert (dst x, src x) (backward x)

/-- A loop that stores edges in both directions keeps the last edge that joins two vertices. -/
theorem lookup_foldl_connect (src dst : α → K) (forward backward : α → V) (xs : List α)
    (m : Dict (K × K) V) (u v : K) :
    (xs.foldl (connect src dst forward backward) m).lookup (u, v) =
      ((xs.reverse.find? (fun x ↦ Joins src dst x u v)).map (fun x ↦
        if (dst x, src x) = (u, v) then backward x else forward x)).or (m.lookup (u, v)) := by
  induction xs generalizing m with
  | nil => rfl
  | cons x xs ih =>
    rw [List.foldl_cons, ih, List.reverse_cons, List.find?_append]
    cases xs.reverse.find? (fun x ↦ decide (Joins src dst x u v)) with
    | some y => rfl
    | none =>
      by_cases hback : (dst x, src x) = (u, v)
      · obtain ⟨rfl, rfl⟩ := Prod.mk.inj hback
        have hjoins : Joins src dst x (dst x) (src x) := Or.inr ⟨rfl, rfl⟩
        simp [connect, hjoins]
      · by_cases hfwd : (src x, dst x) = (u, v)
        · obtain ⟨rfl, rfl⟩ := Prod.mk.inj hfwd
          have hjoins : Joins src dst x (src x) (dst x) := Or.inl ⟨rfl, rfl⟩
          rw [connect, AList.lookup_insert_ne (Ne.symm hback), AList.lookup_insert]
          simp only [hjoins, decide_true, List.find?_cons_of_pos, Option.none_or, Option.map_none,
            Option.map_some, if_neg hback, Option.some_or]
        · have hjoins : ¬ Joins src dst x u v := by
            rintro (⟨rfl, rfl⟩ | ⟨rfl, rfl⟩)
            · exact hfwd rfl
            · exact hback rfl
          rw [connect, AList.lookup_insert_ne (Ne.symm hback), AList.lookup_insert_ne (Ne.symm hfwd)]
          simp [hjoins]

/-! ### Accumulating loops -/

/-- The body of a loop that updates the entry of an element's key, if it has one. -/
def accumulate (key : α → Option K) (default : V) (f : V → α → V) (m : Dict K V) (x : α) :
    Dict K V :=
  match key x with
  | none => m
  | some k => m.update k default (fun v ↦ f v x)

/-- An accumulating loop folds each key's elements on their own. -/
theorem lookup_foldl_accumulate (key : α → Option K) (default : V) (f : V → α → V) (k : K)
    (xs : List α) (m : Dict K V) :
    (xs.foldl (accumulate key default f) m).lookup k =
      if xs.any (fun x ↦ decide (key x = some k)) then
        some ((xs.filter (fun x ↦ decide (key x = some k))).foldl f ((m.lookup k).getD default))
      else m.lookup k := by
  induction xs generalizing m with
  | nil => simp
  | cons x xs ih =>
    rw [List.foldl_cons, ih]
    by_cases hk : key x = some k
    · have hself := lookup_update_self m k default (fun v ↦ f v x)
      simp only [accumulate, hk, hself]
      by_cases hany : xs.any (fun x ↦ decide (key x = some k)) = true
      · simp [hany, hk]
      · have hnil : xs.filter (fun x ↦ decide (key x = some k)) = [] := by
          simpa using hany
        simp [hk, hnil, hany]
    · have hother : (accumulate key default f m x).lookup k = m.lookup k := by
        unfold accumulate
        split
        · rfl
        · next k' hk' =>
          apply lookup_update_of_ne
          intro h
          exact hk (h ▸ hk')
      simp [hother, hk]

/-- An accumulating loop from the empty dictionary has an entry for each key that occurs. -/
theorem mem_foldl_accumulate (key : α → Option K) (default : V) (f : V → α → V) (xs : List α)
    (k : K) : k ∈ xs.foldl (accumulate key default f) ∅ ↔ ∃ x ∈ xs, key x = some k := by
  have hany : xs.any (fun x ↦ decide (key x = some k)) = true ↔ ∃ x ∈ xs, key x = some k := by
    simp
  rw [← AList.lookup_isSome, lookup_foldl_accumulate, ← hany]
  split
  · next h => simp [h]
  · next h => simp [h]

/-- The body of a loop that counts elements by key. -/
def count (key : α → Option K) : Dict K Nat → α → Dict K Nat :=
  accumulate key 0 (fun n _ ↦ n + 1)

/-- The body of a loop that collects the names of elements by key. -/
def collect {N : Type} (key : α → Option K) (name : α → N) : Dict K (List N) → α → Dict K (List N) :=
  accumulate key [] (fun ns x ↦ ns ++ [name x])

private theorem foldl_succ (xs : List α) (n : Nat) :
    xs.foldl (fun n _ ↦ n + 1) n = n + xs.length := by
  induction xs generalizing n with
  | nil => rfl
  | cons x xs ih => rw [List.foldl_cons, ih, List.length_cons]; omega

private theorem foldl_append_name {N : Type} (name : α → N) (xs : List α) (ns : List N) :
    xs.foldl (fun ns x ↦ ns ++ [name x]) ns = ns ++ xs.map name := by
  induction xs generalizing ns with
  | nil => simp
  | cons x xs ih => rw [List.foldl_cons, ih, List.map_cons, List.append_assoc]; rfl

/-- A counting loop from the empty dictionary: the entry of a key is its number of elements. -/
theorem lookup_foldl_count (key : α → Option K) (xs : List α) (k : K) :
    ((xs.foldl (count key) ∅).lookup k).getD 0 = xs.countP (fun x ↦ decide (key x = some k)) := by
  unfold count
  rw [lookup_foldl_accumulate, foldl_succ, ← List.countP_eq_length_filter]
  split
  · simp
  · next h =>
    have hzero : xs.countP (fun x ↦ decide (key x = some k)) = 0 := by
      rw [List.countP_eq_zero]
      intro x hx
      simp only [List.any_eq_true, not_exists, not_and] at h
      exact h x hx
    simp [hzero]

/-- A counting loop has an entry for each key that occurs. -/
theorem mem_foldl_count (key : α → Option K) (xs : List α) (k : K) :
    k ∈ xs.foldl (count key) ∅ ↔ ∃ x ∈ xs, key x = some k :=
  mem_foldl_accumulate key 0 _ xs k

/-- A collecting loop from the empty dictionary: the entry of a key lists its elements. -/
theorem lookup_foldl_collect {N : Type} (key : α → Option K) (name : α → N) (xs : List α) (k : K) :
    ((xs.foldl (collect key name) ∅).lookup k).getD [] =
      (xs.filter (fun x ↦ decide (key x = some k))).map name := by
  unfold collect
  rw [lookup_foldl_accumulate, foldl_append_name]
  split
  · simp
  · next h =>
    have hnil : xs.filter (fun x ↦ decide (key x = some k)) = [] := by simpa using h
    simp [hnil]

/-- A collecting loop has an entry for each key that occurs. -/
theorem mem_foldl_collect {N : Type} (key : α → Option K) (name : α → N) (xs : List α) (k : K) :
    k ∈ xs.foldl (collect key name) ∅ ↔ ∃ x ∈ xs, key x = some k :=
  mem_foldl_accumulate key [] _ xs k

/-! ### Totals -/

/-- A dictionary's total, summed along any enumeration of its keys. -/
theorem total_eq_sum {m : Dict K Nat} {ks : List K} (hks : ks.Nodup) (hmem : ∀ k, k ∈ m ↔ k ∈ ks) :
    m.total = (ks.map (fun k ↦ (m.lookup k).getD 0)).sum := by
  have hperm : ks.Perm m.keys := by
    rw [List.perm_ext_iff_of_nodup hks m.keys_nodup]
    intro k
    rw [← hmem, AList.mem_keys]
  rw [(hperm.map _).sum_eq]
  unfold total AList.keys List.keys
  rw [List.map_map]
  congr 1
  apply List.map_congr_left
  rintro ⟨k, v⟩ hkv
  have hv : m.lookup k = some v := AList.mem_lookup_iff.mpr hkv
  simp [hv]

private theorem sum_map_single (ks : List K) (hks : ks.Nodup) (k : K) :
    (ks.map (fun k' ↦ if k' = k then 1 else 0)).sum = if k ∈ ks then 1 else 0 := by
  induction ks with
  | nil => simp
  | cons a ks ih =>
    obtain ⟨ha, hks⟩ := List.nodup_cons.mp hks
    rw [List.map_cons, List.sum_cons, ih hks]
    by_cases hak : a = k
    · subst hak
      simp [ha]
    · simp [hak, Ne.symm hak]

/-- Elements counted key by key are the elements that have a key. -/
theorem sum_countP_eq {ks : List K} (hks : ks.Nodup) (key : α → Option K) (xs : List α)
    (hkey : ∀ x ∈ xs, ∀ k, key x = some k → k ∈ ks) :
    (ks.map (fun k ↦ xs.countP (fun x ↦ decide (key x = some k)))).sum =
      xs.countP (fun x ↦ (key x).isSome) := by
  induction xs with
  | nil => simp
  | cons x xs ih =>
    have ih := ih (fun y hy ↦ hkey y (List.mem_cons_of_mem x hy))
    have hsplit : (ks.map (fun k ↦ (x :: xs).countP (fun x ↦ decide (key x = some k)))).sum =
        (ks.map (fun k ↦ xs.countP (fun x ↦ decide (key x = some k)))).sum +
          (ks.map (fun k ↦ if key x = some k then 1 else 0)).sum := by
      rw [← List.sum_map_add]
      congr 1
      apply List.map_congr_left
      intro k _
      by_cases h : key x = some k <;> simp [h]
    rw [hsplit, ih]
    cases hk : key x with
    | none => simp [hk]
    | some k =>
      have hone : (ks.map (fun k' ↦ if some k = some k' then 1 else 0)).sum = 1 := by
        have hsingle := sum_map_single ks hks k
        rw [if_pos (hkey x List.mem_cons_self k hk)] at hsingle
        simpa only [Option.some.injEq, eq_comm] using hsingle
      rw [hone]
      simp [hk]

/-- Elements counted over some of the keys are the elements whose key is among them. -/
theorem sum_countP_mem {ks : List K} (hks : ks.Nodup) (key : α → Option K) (xs : List α) :
    (ks.map (fun k ↦ xs.countP (fun x ↦ decide (key x = some k)))).sum =
      xs.countP (fun x ↦ decide (∃ k ∈ ks, key x = some k)) := by
  have hsum := sum_countP_eq hks (fun x ↦ (key x).filter (fun k ↦ k ∈ ks)) xs (by
    intro x _ k hk
    simpa using (Option.filter_eq_some_iff.mp hk).2)
  have hone : ∀ k ∈ ks, xs.countP (fun x ↦ decide ((key x).filter (fun k ↦ k ∈ ks) = some k)) =
      xs.countP (fun x ↦ decide (key x = some k)) := by
    intro k hk
    apply List.countP_congr
    intro x _
    simp [Option.filter_eq_some_iff, hk]
  rw [List.map_congr_left hone] at hsum
  rw [hsum]
  apply List.countP_congr
  intro x _
  simp only [decide_eq_true_eq, Option.isSome_iff_exists, Option.filter_eq_some_iff]
  constructor
  · rintro ⟨k, hk, hmem⟩
    exact ⟨k, by simpa using hmem, hk⟩
  · rintro ⟨k, hmem, hk⟩
    exact ⟨k, hk, by simpa using hmem⟩

end Dict

end Unoc.Base
