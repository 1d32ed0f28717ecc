import Mathlib.Data.Finset.Basic
import Mathlib.Data.List.Nodup

/-!
# Feeds that retract

A feed publishes in each round the current value of every active key, and a zero for each key that
was active in the round before and no longer is. Whoever keeps the last value published for each key
then holds the values of the last round, and zeros for all other keys.
-/

namespace Unoc.Base.Feed

universe u v

variable {K : Type u} {V : Type v} [DecidableEq K]

/-- The last value of a key. -/
def last (items : List (K × V)) (k : K) : Option V :=
  (items.reverse.find? (fun e ↦ e.1 = k)).map Prod.snd

/-- The last value of a key is the later one. -/
theorem last_append (items more : List (K × V)) (k : K) :
    last (items ++ more) k = (last more k).or (last items k) := by
  unfold last
  rw [List.reverse_append, List.find?_append]
  cases more.reverse.find? (fun e ↦ decide (e.1 = k)) <;> rfl

/-- A key without value does not occur. -/
theorem last_eq_none {items : List (K × V)} {k : K} :
    last items k = none ↔ k ∉ items.map Prod.fst := by
  unfold last
  rw [Option.map_eq_none_iff, List.find?_eq_none, List.mem_map]
  constructor
  · intro h hmem
    have ⟨e, he, hk⟩ := hmem
    exact h e (List.mem_reverse.mpr he) (decide_eq_true hk)
  · intro h e he hk
    exact h ⟨e, List.mem_reverse.mp he, of_decide_eq_true hk⟩

/-- What a round publishes. -/
structure Round (zero : V) (before : Finset K) (current zeros : List (K × V)) : Prop where
  nodup : (current.map Prod.fst).Nodup
  zeros_iff : ∀ k, k ∈ zeros.map Prod.fst ↔ k ∈ before ∧ k ∉ current.map Prod.fst
  value : ∀ e ∈ zeros, e.2 = zero

/-- What has been published, when the keys of `active` were the current ones of the last round: all
other keys were retracted. -/
def Retracted (zero : V) (published : List (K × V)) (active : Finset K) : Prop :=
  ∀ k ∉ active, ∀ v, last published k = some v → v = zero

/-- Nothing is retracted at the start. -/
theorem retracted_nil (zero : V) : Retracted zero ([] : List (K × V)) ∅ := by
  intro k _ v h
  cases h

section Round

variable {zero : V} {before : Finset K} {current zeros published : List (K × V)}
  (h : Round zero before current zeros)
include h

/-- A zero is fed for a key that is gone. -/
theorem Round.last_zeros {k : K} {v : V} (hv : last zeros k = some v) :
    v = zero ∧ k ∈ before ∧ k ∉ current.map Prod.fst := by
  have hmem : k ∈ zeros.map Prod.fst := by
    by_contra hnot
    rw [last_eq_none.mpr hnot] at hv
    cases hv
  refine ⟨?_, (h.zeros_iff k).mp hmem⟩
  have ⟨e, he, hval⟩ := Option.map_eq_some_iff.mp hv
  rw [← hval]
  exact h.value e (List.mem_reverse.mp (List.mem_of_find?_eq_some he))

/-- After a round the last value of a key is its current one, if it is active. -/
theorem Round.last_of_active {k : K} (hk : k ∈ current.map Prod.fst) :
    last (published ++ current ++ zeros) k = last current k := by
  have hzero : last zeros k = none := by
    rw [last_eq_none, h.zeros_iff]
    exact fun hboth ↦ hboth.2 hk
  rw [last_append, last_append, hzero]
  cases hcur : last current k with
  | none => exact absurd hk (last_eq_none.mp hcur)
  | some v => rfl

/-- After a round every key that is not active is retracted. -/
theorem Round.retracted (hpub : Retracted zero published before) :
    Retracted zero (published ++ current ++ zeros) (current.map Prod.fst).toFinset := by
  intro k hk v hv
  rw [List.mem_toFinset] at hk
  rw [last_append, last_append, last_eq_none.mpr hk] at hv
  cases hzero : last zeros k with
  | some z =>
    rw [hzero] at hv
    cases hv
    exact (h.last_zeros hzero).1
  | none =>
    rw [hzero] at hv
    have hbefore : k ∉ before := by
      intro hmem
      exact last_eq_none.mp hzero ((h.zeros_iff k).mpr ⟨hmem, hk⟩)
    exact hpub k hbefore v hv

end Round

end Unoc.Base.Feed
