import Unoc.Base.Dict

/-!
# Loops over existing entries

A loop that appends elements to the lists of keys that a dictionary has adds to each list the elements
of its key. A loop that erases keys keeps the other entries.
-/

namespace Unoc.Base.Dict

variable {α K V : Type} [DecidableEq K]

/-- `if k in m: m[k].append(x)`. -/
def appendAt (x : α) (m : Dict K (List α)) (k : K) : Dict K (List α) :=
  match m.lookup k with
  | none => m
  | some xs => m.insert k (xs ++ [x])

/-- The body of a loop that appends an element under its keys, one after another. -/
def distribute (keys : α → List K) (m : Dict K (List α)) (x : α) : Dict K (List α) :=
  (keys x).foldl (appendAt x) m

/-- `{k: [] for k in ks}`. -/
def emptyBuckets (ks : List K) : Dict K (List α) := ks.foldl (fun m k ↦ m.insert k []) ∅

/-- The elements under a key, as often as they have it. -/
def bucket (keys : α → List K) (k : K) (xs : List α) : List α :=
  xs.flatMap (fun x ↦ (keys x).flatMap (fun k' ↦ if k' = k then [x] else []))

private theorem lookup_appendAt (x : α) (m : Dict K (List α)) (k k' : K) :
    (appendAt x m k').lookup k = (m.lookup k).map (· ++ if k' = k then [x] else []) := by
  unfold appendAt
  by_cases hk : k' = k
  · rw [hk, if_pos rfl]
    cases h : m.lookup k with
    | none => exact h
    | some xs => exact AList.lookup_insert m
  · rw [if_neg hk]
    have hsame : (m.lookup k).map (· ++ ([] : List α)) = m.lookup k := by simp
    rw [hsame]
    split
    · rfl
    · exact AList.lookup_insert_ne (Ne.symm hk)

private theorem lookup_distribute (keys : α → List K) (m : Dict K (List α)) (x : α) (k : K) :
    (distribute keys m x).lookup k =
      (m.lookup k).map (· ++ (keys x).flatMap (fun k' ↦ if k' = k then [x] else [])) := by
  unfold distribute
  induction keys x generalizing m with
  | nil => simp
  | cons k' ks ih =>
    rw [List.foldl_cons, ih, lookup_appendAt, Option.map_map, List.flatMap_cons]
    congr 1
    funext ys
    exact List.append_assoc _ _ _

/-- Each list grows by the elements under its key. -/
theorem lookup_foldl_distribute (keys : α → List K) (xs : List α) (m : Dict K (List α)) (k : K) :
    (xs.foldl (distribute keys) m).lookup k = (m.lookup k).map (· ++ bucket keys k xs) := by
  induction xs generalizing m with
  | nil => simp [bucket]
  | cons x xs ih =>
    rw [List.foldl_cons, ih, lookup_distribute, Option.map_map]
    congr 1
    funext ys
    exact List.append_assoc _ _ _

/-- The buckets of a list of keys are there, and empty. -/
theorem lookup_emptyBuckets (ks : List K) (k : K) :
    (emptyBuckets ks : Dict K (List α)).lookup k = if k ∈ ks then some [] else none := by
  unfold emptyBuckets
  rw [lookup_foldl_insert (fun k ↦ k) (fun _ ↦ []), AList.lookup_empty, Option.or_none]
  cases h : ks.reverse.find? (fun x ↦ x = k) with
  | none =>
    have hk : k ∉ ks := by
      intro hmem
      have hne := List.find?_eq_none.mp h k (List.mem_reverse.mpr hmem)
      simp at hne
    rw [if_neg hk]
    rfl
  | some x =>
    have hx : x = k := by simpa using List.find?_some h
    have hmem := List.mem_reverse.mp (List.mem_of_find?_eq_some h)
    rw [if_pos (hx ▸ hmem)]
    rfl

/-- Elements without the key do not count. -/
theorem bucket_filter {keys : α → List K} {k : K} {p : α → Bool} {xs : List α}
    (h : ∀ x ∈ xs, k ∈ keys x → p x = true) : bucket keys k (xs.filter p) = bucket keys k xs := by
  unfold bucket
  induction xs with
  | nil => rfl
  | cons x xs ih =>
    have hrest := ih (fun y hy ↦ h y (List.mem_cons_of_mem x hy))
    by_cases hp : p x = true
    · rw [List.filter_cons_of_pos hp, List.flatMap_cons, List.flatMap_cons, hrest]
    · have hnil : (keys x).flatMap (fun k' ↦ if k' = k then [x] else []) = [] := by
        apply List.flatMap_eq_nil_iff.mpr
        intro k' hk'
        by_cases hk : k' = k
        · exact absurd (h x List.mem_cons_self (hk ▸ hk')) hp
        · exact if_neg hk
      rw [List.filter_cons_of_neg hp, List.flatMap_cons, hnil, hrest]
      rfl

/-- A loop that erases keys. -/
theorem lookup_foldl_erase (ks : List K) (m : Dict K V) (k : K) :
    (ks.foldl (fun m k ↦ m.erase k) m).lookup k = if k ∈ ks then none else m.lookup k := by
  induction ks generalizing m with
  | nil => simp
  | cons k' ks ih =>
    rw [List.foldl_cons, ih]
    by_cases hk : k = k'
    · rw [hk, AList.lookup_erase]
      simp
    · rw [AList.lookup_erase_ne hk]
      simp [hk]

end Unoc.Base.Dict
