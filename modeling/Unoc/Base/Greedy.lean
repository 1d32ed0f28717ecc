import Mathlib.Data.List.Perm.Basic
import Mathlib.Logic.Function.Basic

/-!
# Greedy choices from the left

A pass over a list takes an item if it passes a check and clashes with none that was taken before.
One more item at the end of the list changes nothing about the places before it.
-/

namespace Unoc.Base

universe u

variable {α : Type u}

/-- The taken places of a pass over `items`. -/
def Greedy (ok : α → Prop) (clash : α → α → Prop) (items : List α) (takes : Nat → Bool) : Prop :=
  ∀ i x, items[i]? = some x → (takes i = true ↔
    ok x ∧ ∀ j y, j < i → takes j = true → items[j]? = some y → ¬ clash x y)

namespace Greedy

variable {ok : α → Prop} {clash : α → α → Prop} {items : List α} {takes takes' : Nat → Bool}

/-- The items at the taken places, with these. -/
def taken (items : List α) (takes : Nat → Bool) : List (α × Nat) :=
  items.zipIdx.filter (fun p ↦ takes p.2)

/-- The places that are not taken. -/
def skipped (items : List α) (takes : Nat → Bool) : List Nat :=
  (List.range items.length).filter (fun i ↦ !takes i)

private theorem mem_taken {p : α × Nat} :
    p ∈ taken items takes ↔ items[p.2]? = some p.1 ∧ takes p.2 = true := by
  rw [taken, List.mem_filter, List.mem_zipIdx_iff_getElem?]

private theorem lt_length_of_mem_taken {p : α × Nat} (h : p ∈ taken items takes) :
    p.2 < items.length :=
  (List.getElem?_eq_some_iff.mp (mem_taken.mp h).1).1

/-- Every place is taken or skipped, once. -/
theorem taken_append_skipped_perm (items : List α) (takes : Nat → Bool) :
    ((taken items takes).map Prod.snd ++ skipped items takes).Perm (List.range items.length) := by
  have hplaces : (taken items takes).map Prod.snd =
      (List.range items.length).filter takes := by
    rw [List.range_eq_range', ← List.zipIdx_map_snd 0 items, List.filter_map]
    rfl
  rw [hplaces, skipped]
  exact List.filter_append_perm _ _

/-- A check that agrees on the items. -/
theorem congr {ok' : α → Prop} (h : Greedy ok clash items takes)
    (hok : ∀ x ∈ items, ok x ↔ ok' x) : Greedy ok' clash items takes := by
  intro i x hx
  rw [h i x hx, hok x (List.mem_of_getElem? hx)]

/-- A taken item passes the check. -/
theorem ok_of_mem_taken (h : Greedy ok clash items takes) {p : α × Nat}
    (hp : p ∈ taken items takes) : ok p.1 := by
  obtain ⟨hget, htakes⟩ := mem_taken.mp hp
  exact ((h p.2 p.1 hget).mp htakes).1

private theorem pairwise_lt_taken (items : List α) (takes : Nat → Bool) :
    (taken items takes).Pairwise (fun p q ↦ p.2 < q.2) := by
  have hplaces : (items.zipIdx.map Prod.snd).Pairwise (· < ·) := by
    rw [List.zipIdx_map_snd]
    exact List.pairwise_lt_range'
  exact (List.pairwise_map.mp hplaces).filter _

/-- A taken item clashes with none that was taken before. -/
theorem pairwise_taken (h : Greedy ok clash items takes) :
    (taken items takes).Pairwise (fun p q ↦ ¬ clash q.1 p.1) := by
  refine (pairwise_lt_taken items takes).imp_of_mem ?_
  intro p q hp hq hlt
  obtain ⟨hgetp, htakesp⟩ := mem_taken.mp hp
  obtain ⟨hgetq, htakesq⟩ := mem_taken.mp hq
  exact ((h q.2 q.1 hgetq).mp htakesq).2 p.2 p.1 hlt htakesp hgetp

/-- Nothing is skipped exactly if all items pass the check and none clashes with an earlier one. -/
theorem skipped_eq_nil_iff (h : Greedy ok clash items takes) :
    skipped items takes = [] ↔
      (∀ x ∈ items, ok x) ∧ items.Pairwise (fun x y ↦ ¬ clash y x) := by
  have hall : skipped items takes = [] ↔ ∀ i < items.length, takes i = true := by
    simp [skipped, List.filter_eq_nil_iff]
  rw [hall]
  constructor
  · intro htakes
    constructor
    · intro x hx
      obtain ⟨i, hi, rfl⟩ := List.getElem_of_mem hx
      exact ((h i _ (List.getElem?_eq_getElem hi)).mp (htakes i hi)).1
    · rw [List.pairwise_iff_getElem]
      intro i j hi hj hlt
      exact ((h j _ (List.getElem?_eq_getElem hj)).mp (htakes j hj)).2 i _ hlt (htakes i hi)
        (List.getElem?_eq_getElem hi)
  · rintro ⟨hok, hpairwise⟩ i hi
    refine (h i _ (List.getElem?_eq_getElem hi)).mpr ⟨hok _ (List.getElem_mem hi), ?_⟩
    intro j y hlt _ hget
    obtain ⟨hj, rfl⟩ := List.getElem?_eq_some_iff.mp hget
    exact List.pairwise_iff_getElem.mp hpairwise j i hj hi hlt

/-- If nothing is skipped, all items are taken. -/
theorem map_fst_taken (h : skipped items takes = []) :
    (taken items takes).map Prod.fst = items := by
  have hfilter : taken items takes = items.zipIdx := by
    refine List.filter_eq_self.mpr ?_
    intro p hp
    have hlt := (List.getElem?_eq_some_iff.mp (List.mem_zipIdx_iff_getElem?.mp hp)).1
    have hnot := List.filter_eq_nil_iff.mp h p.2 (List.mem_range.mpr hlt)
    simpa using hnot
  rw [hfilter, List.zipIdx_map_fst]

/-! ### One more item -/

/-- One more item is taken at the last place or not. -/
theorem taken_concat (items : List α) (x : α) (takes : Nat → Bool) :
    taken (items ++ [x]) takes =
      taken items takes ++ if takes items.length then [(x, items.length)] else [] := by
  rw [taken, List.zipIdx_append, List.filter_append, Nat.zero_add, List.zipIdx_singleton]
  cases h : takes items.length <;> simp [taken, h]

/-- One more item is skipped at the last place or not. -/
theorem skipped_concat (items : List α) (x : α) (takes : Nat → Bool) :
    skipped (items ++ [x]) takes =
      skipped items takes ++ if takes items.length then [] else [items.length] := by
  rw [skipped, List.length_append, List.length_singleton, List.range_succ, List.filter_append]
  cases h : takes items.length <;> simp [skipped, h]

/-- The next place does not matter for the places before. -/
theorem taken_update (items : List α) (takes : Nat → Bool) (b : Bool) :
    taken items (Function.update takes items.length b) = taken items takes := by
  apply List.filter_congr
  intro p hp
  have hlt := (List.getElem?_eq_some_iff.mp (List.mem_zipIdx_iff_getElem?.mp hp)).1
  rw [Function.update_of_ne (Nat.ne_of_lt hlt)]

/-- The skipped places do not depend on the one behind the list. -/
theorem skipped_update (items : List α) (takes : Nat → Bool) (b : Bool) :
    skipped items (Function.update takes items.length b) = skipped items takes := by
  apply List.filter_congr
  intro i hi
  rw [Function.update_of_ne (Nat.ne_of_lt (List.mem_range.mp hi))]

/-- The pass goes on with an item that passes the check and clashes with no taken one. -/
theorem concat (h : Greedy ok clash items takes) {x : α} {b : Bool}
    (hb : b = true ↔ ok x ∧ ∀ p ∈ taken items takes, ¬ clash x p.1) :
    Greedy ok clash (items ++ [x]) (Function.update takes items.length b) := by
  have hother : ∀ j, j < items.length → Function.update takes items.length b j = takes j :=
    fun j hj ↦ Function.update_of_ne (Nat.ne_of_lt hj) _ _
  intro i y hy
  rcases Nat.lt_trichotomy i items.length with hi | rfl | hi
  · rw [List.getElem?_append_left hi] at hy
    rw [hother i hi, h i y hy]
    apply and_congr_right
    intro _
    refine forall_congr' (fun j ↦ forall_congr' (fun z ↦ forall_congr' (fun hj ↦ ?_)))
    rw [hother j (Nat.lt_trans hj hi), List.getElem?_append_left (Nat.lt_trans hj hi)]
  · rw [List.getElem?_append_right (Nat.le_refl _), Nat.sub_self] at hy
    obtain rfl := Option.some.inj hy
    rw [Function.update_self, hb]
    apply and_congr_right
    intro _
    constructor
    · intro hfree j y hj htakes hget
      rw [List.getElem?_append_left hj] at hget
      rw [hother j hj] at htakes
      exact hfree (y, j) (mem_taken.mpr ⟨hget, htakes⟩)
    · intro hfree p hp
      have hj := lt_length_of_mem_taken hp
      obtain ⟨hget, htakes⟩ := mem_taken.mp hp
      refine hfree p.2 p.1 hj ?_ ?_
      · rw [hother p.2 hj]
        exact htakes
      · rw [List.getElem?_append_left hj]
        exact hget
  · rw [List.getElem?_eq_none (by rw [List.length_append]; exact hi)] at hy
    cases hy

end Greedy

end Unoc.Base
