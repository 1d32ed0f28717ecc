import Mathlib.Data.Finset.Insert
import Mathlib.Data.Finset.Erase

/-!
# Flags that are latched and logged

A latch is set by one condition and held by another. A log of flag changes is replayed from a set
of raised flags; a log that holds one change for each key whose flag differs leads from the old set
to the new one, and such logs alternate when they follow each other.
-/

namespace Unoc.Base.Flags

/-! ### Latches -/

/-- A latch is on at a time if it was set at some time and has been held ever since. -/
theorem latched_iff (level set hold : Nat → Prop) (hzero : level 0 ↔ set 0)
    (hsucc : ∀ n, level (n + 1) ↔ set (n + 1) ∨ (level n ∧ hold (n + 1))) (n : Nat) :
    level n ↔ ∃ k ≤ n, set k ∧ ∀ j, k < j → j ≤ n → hold j := by
  induction n with
  | zero =>
    rw [hzero]
    constructor
    · intro h
      exact ⟨0, le_refl 0, h, fun j hj hj' ↦ by omega⟩
    · rintro ⟨k, hk, hset, _⟩
      rwa [Nat.le_zero.mp hk] at hset
  | succ n ih =>
    rw [hsucc, ih]
    constructor
    · rintro (hset | ⟨⟨k, hk, hset, hheld⟩, hhold⟩)
      · exact ⟨n + 1, le_refl _, hset, fun j hj hj' ↦ by omega⟩
      · refine ⟨k, by omega, hset, ?_⟩
        intro j hj hj'
        rcases Nat.lt_or_ge n j with hlast | hearlier
        · have hj : j = n + 1 := by omega
          rwa [hj]
        · exact hheld j hj hearlier
    · rintro ⟨k, hk, hset, hheld⟩
      rcases Nat.lt_or_ge n k with hlast | hearlier
      · have hk : k = n + 1 := by omega
        exact Or.inl (hk ▸ hset)
      · right
        refine ⟨⟨k, hearlier, hset, ?_⟩, hheld (n + 1) (by omega) (le_refl _)⟩
        intro j hj hj'
        exact hheld j hj (by omega)

/-! ### Logs -/

/-- The flag of a key changes to a value. -/
structure Change (K : Type) where
  key : K
  flag : Bool
  deriving DecidableEq, Repr

section Logs

variable {K : Type} [DecidableEq K]

/-- Raise or lower the flag of a key. -/
def Change.apply (s : Finset K) (c : Change K) : Finset K :=
  if c.flag then insert c.key s else s.erase c.key

/-- Replay a log from a set of raised flags. -/
def replay (s : Finset K) (log : List (Change K)) : Finset K := log.foldl Change.apply s

/-- The flags that a log gives to one key. -/
def flagsOf (log : List (Change K)) (k : K) : List Bool :=
  (log.filter (fun c ↦ c.key = k)).map Change.flag

/-- A log with one change for every key whose flag differs between two sets, and no other. -/
def Records (log : List (Change K)) (s s' : Finset K) : Prop :=
  ∀ k, flagsOf log k = if k ∈ s ↔ k ∈ s' then [] else [decide (k ∈ s')]

private theorem replay_append (s : Finset K) (log log' : List (Change K)) :
    replay s (log ++ log') = replay (replay s log) log' :=
  List.foldl_append

/-- The flags of two logs follow one another. -/
theorem flagsOf_append (log log' : List (Change K)) (k : K) :
    flagsOf (log ++ log') k = flagsOf log k ++ flagsOf log' k := by
  rw [flagsOf, List.filter_append, List.map_append]
  rfl

/-- A log without changes of a key has no flags of it. -/
theorem flagsOf_eq_nil {log : List (Change K)} {k : K} (h : ∀ c ∈ log, c.key ≠ k) :
    flagsOf log k = [] := by
  have hfilter : log.filter (fun c ↦ c.key = k) = [] := by
    rw [List.filter_eq_nil_iff]
    intro c hc
    simpa using h c hc
  rw [flagsOf, hfilter]
  rfl

/-- Where each element logs under its own key, the log of all elements gives a key the flags of its
element. -/
theorem flagsOf_flatMap {α : Type} {key : α → K} {log : α → List (Change K)} {xs : List α}
    (hnodup : (xs.map key).Nodup) (hkey : ∀ x ∈ xs, ∀ c ∈ log x, c.key = key x) {x : α}
    (hx : x ∈ xs) : flagsOf (xs.flatMap log) (key x) = flagsOf (log x) (key x) := by
  induction xs with
  | nil => cases hx
  | cons y ys ih =>
    rw [List.map_cons, List.nodup_cons] at hnodup
    rw [List.flatMap_cons, flagsOf_append]
    rcases List.mem_cons.mp hx with rfl | hx
    · have hrest : flagsOf (ys.flatMap log) (key x) = [] := by
        apply flagsOf_eq_nil
        intro c hc heq
        obtain ⟨z, hz, hcz⟩ := List.mem_flatMap.mp hc
        rw [hkey z (List.mem_cons_of_mem x hz) c hcz] at heq
        exact hnodup.1 (heq ▸ List.mem_map_of_mem hz)
      rw [hrest, List.append_nil]
    · have hfirst : flagsOf (log y) (key x) = [] := by
        apply flagsOf_eq_nil
        intro c hc heq
        rw [hkey y List.mem_cons_self c hc] at heq
        exact hnodup.1 (heq ▸ List.mem_map_of_mem hx)
      rw [hfirst, List.nil_append]
      exact ih hnodup.2 (fun z hz ↦ hkey z (List.mem_cons_of_mem y hz)) hx

/-- The last flag of a key decides whether the replay raises it. -/
theorem mem_replay (s : Finset K) (log : List (Change K)) (k : K) :
    k ∈ replay s log ↔ (flagsOf log k).getLast?.getD (decide (k ∈ s)) = true := by
  induction log generalizing s with
  | nil => simp [replay, flagsOf]
  | cons c log ih =>
    show k ∈ replay (c.apply s) log ↔ _
    rw [ih]
    by_cases hk : c.key = k
    · have hcons : flagsOf (c :: log) k = c.flag :: flagsOf log k := by
        simp [flagsOf, hk]
      have hmem : decide (k ∈ c.apply s) = c.flag := by
        unfold Change.apply
        cases c.flag <;> simp [hk]
      rw [hcons, List.getLast?_cons, hmem]
      rfl
    · have hcons : flagsOf (c :: log) k = flagsOf log k := by
        simp [flagsOf, hk]
      have hmem : k ∈ c.apply s ↔ k ∈ s := by
        unfold Change.apply
        cases c.flag <;> simp [Ne.symm hk]
      rw [hcons, decide_eq_decide.mpr hmem]

/-- A log of the keys that were visited: it records their differences, is silent about the others,
and no other key is raised afterwards. -/
structure Tracks (log : List (Change K)) (visited : K → Prop) (s s' : Finset K) : Prop where
  flags : ∀ k, visited k → flagsOf log k = if k ∈ s ↔ k ∈ s' then [] else [decide (k ∈ s')]
  silent : ∀ k, ¬ visited k → flagsOf log k = []
  within : ∀ k ∈ s', visited k

private theorem Records.tracks {log : List (Change K)} {s s' : Finset K} (h : Records log s s') :
    Tracks log (fun _ ↦ True) s s' :=
  ⟨fun k _ ↦ h k, fun _ hk ↦ absurd trivial hk, fun _ _ ↦ trivial⟩

/-- Such a log leads from one set to the other if and only if every raised key was visited. -/
theorem Tracks.replay_eq_iff {log : List (Change K)} {visited : K → Prop} {s s' : Finset K}
    (h : Tracks log visited s s') : replay s log = s' ↔ ∀ k ∈ s, visited k := by
  have hmem : ∀ k, (k ∈ replay s log ↔ k ∈ s') ↔ (k ∈ s → visited k) := by
    intro k
    rw [mem_replay]
    by_cases hk : visited k
    · rw [h.flags k hk]
      split
      · next hsame => simpa [hk] using hsame
      · simp [hk]
    · rw [h.silent k hk]
      have hnot : k ∉ s' := fun hs ↦ hk (h.within k hs)
      simp [hk, hnot]
  rw [Finset.ext_iff]
  exact forall_congr' hmem

/-! ### Alternation -/

/-- Flags that alternate, from the one that comes first to the one that would come next. -/
def Alternates : Bool → List Bool → Bool → Prop
  | first, [], next => first = next
  | first, flag :: flags, next => flag = first ∧ Alternates (!first) flags next

private theorem Alternates.append {first mid next : Bool} {flags flags' : List Bool}
    (h : Alternates first flags mid) (h' : Alternates mid flags' next) :
    Alternates first (flags ++ flags') next := by
  induction flags generalizing first with
  | nil => rwa [show first = mid from h]
  | cons flag flags ih => exact ⟨h.1, ih h.2⟩

/-- A record of the difference first lowers a raised flag and first raises a lowered one. -/
theorem Records.alternates {log : List (Change K)} {s s' : Finset K} (h : Records log s s') (k : K) :
    Alternates (decide (k ∉ s)) (flagsOf log k) (decide (k ∉ s')) := by
  rw [h k]
  by_cases hs : k ∈ s <;> by_cases hs' : k ∈ s' <;> simp [hs, hs', Alternates]

/-! ### Runs -/

/-- The entries of all logs up to a time. -/
def upTo {α : Type} (logs : Nat → List α) : Nat → List α
  | 0 => logs 0
  | n + 1 => upTo logs n ++ logs (n + 1)

/-- Mapping the logs of all steps up to one. -/
theorem map_upTo {α β : Type} (f : α → β) (logs : Nat → List α) (n : Nat) :
    (upTo logs n).map f = upTo (fun k ↦ (logs k).map f) n := by
  induction n with
  | zero => rfl
  | succ n ih => rw [upTo, List.map_append, ih, upTo]

/-- In a run of such logs the replay is right at every time if and only if every time visits the
keys that were raised before it. -/
theorem replay_upTo_iff (logs : Nat → List (Change K)) (states : Nat → Finset K)
    (visited : Nat → K → Prop) (hzero : Tracks (logs 0) (visited 0) ∅ (states 0))
    (hsucc : ∀ n, Tracks (logs (n + 1)) (visited (n + 1)) (states n) (states (n + 1))) :
    (∀ n, replay ∅ (upTo logs n) = states n) ↔ ∀ n, ∀ k ∈ states n, visited (n + 1) k := by
  have hnext : ∀ n, replay ∅ (upTo logs n) = states n →
      (replay ∅ (upTo logs (n + 1)) = states (n + 1) ↔ ∀ k ∈ states n, visited (n + 1) k) := by
    intro n hn
    rw [upTo, replay_append, hn]
    exact (hsucc n).replay_eq_iff
  constructor
  · intro h n
    exact (hnext n (h n)).mp (h (n + 1))
  · intro h n
    induction n with
    | zero =>
      apply hzero.replay_eq_iff.mpr
      intro k hk
      exact absurd hk (Finset.notMem_empty k)
    | succ n ih => exact (hnext n ih).mpr (h n)

variable {logs : Nat → List (Change K)} {states : Nat → Finset K}
  (hzero : Records (logs 0) ∅ (states 0))
  (hsucc : ∀ n, Records (logs (n + 1)) (states n) (states (n + 1)))

include hzero hsucc

/-- Logs that record each change of state replay to the state at every time. -/
theorem replay_upTo (n : Nat) : replay ∅ (upTo logs n) = states n := by
  have hall := replay_upTo_iff logs states (fun _ _ ↦ True) hzero.tracks (fun n ↦ (hsucc n).tracks)
  exact hall.mpr (fun _ _ _ ↦ trivial) n

/-- Logs that record each change of state first raise a flag and then alternate. -/
theorem alternates_upTo (n : Nat) (k : K) :
    Alternates true (flagsOf (upTo logs n) k) (decide (k ∉ states n)) := by
  induction n with
  | zero =>
    show Alternates true (flagsOf (logs 0) k) _
    simpa using hzero.alternates k
  | succ n ih =>
    rw [upTo, flagsOf_append]
    exact ih.append ((hsucc n).alternates k)

end Logs

end Unoc.Base.Flags
