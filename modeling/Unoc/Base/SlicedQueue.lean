import Mathlib.Data.List.Basic
import Mathlib.Logic.Relation

/-!
# Queues that are drained by slicing

Many threads append to a list that an attribute holds; one thread takes a batch by slicing the list
and then assigns the slice behind it to the attribute. No lock joins the statements. An item that is
appended to a list which is replaced afterwards is never seen again. All others are handled once, in
the order in which they were appended.
-/

namespace Unoc.Base

universe u

/-- What the draining thread is about to do. -/
inductive Drain (α : Type u) where
  | idle
  /-- It has the batch, and evaluates the slice behind it next. -/
  | sliced (batch : List α)
  /-- It has both slices, and assigns the second next. -/
  | cut (batch tail : List α)
  | handling (rest : List α)
  deriving DecidableEq, Repr

/-- A list with the threads around it. -/
structure SlicedQueue (α : Type u) where
  queue : List α := []
  /-- How often the attribute has been assigned. -/
  generation : Nat := 0
  /-- Items whose threads have read the attribute, with its generation then. -/
  loaded : List (α × Nat) := []
  drain : Drain α := .idle
  handled : List α := []
  /-- All items in the order of their appends, and whether the list stayed in use. -/
  log : List (α × Bool) := []
  deriving DecidableEq, Repr

namespace SlicedQueue

variable {α : Type u} {maxItems : Nat} {s s' : SlicedQueue α}

/-! ### Steps -/

/-- The slice behind the batch is evaluated, and not assigned yet. -/
def isCut : Drain α → Bool
  | .cut _ _ => true
  | _ => false

/-- A thread reads the attribute. -/
def load (s : SlicedQueue α) (x : α) : SlicedQueue α :=
  { s with loaded := s.loaded ++ [(x, s.generation)] }

/-- The thread of an item appends it to the list that it has read. -/
def append (s : SlicedQueue α) (i : Nat) : Option (SlicedQueue α) :=
  (s.loaded[i]?).map (fun e ↦
    { s with
      queue := if e.2 = s.generation then s.queue ++ [e.1] else s.queue
      loaded := s.loaded.eraseIdx i
      log := s.log ++ [(e.1, decide (e.2 = s.generation) && !isCut s.drain)] })

/-- The steps of the draining thread; a batch has at most `maxItems` items. -/
def work (maxItems : Nat) (s : SlicedQueue α) : Option (SlicedQueue α) :=
  match s.drain with
  | .idle => if maxItems = 0 then none else some { s with drain := .sliced (s.queue.take maxItems) }
  | .sliced batch => some { s with drain := .cut batch (s.queue.drop batch.length) }
  | .cut batch tail =>
    some { s with queue := tail, generation := s.generation + 1, drain := .handling batch }
  | .handling [] => some { s with drain := .idle }
  | .handling (x :: rest) => some { s with handled := s.handled ++ [x], drain := .handling rest }

/-- The item that the next step of the draining thread handles. -/
def next (s : SlicedQueue α) : Option α :=
  match s.drain with
  | .handling (x :: _) => some x
  | _ => none

/-! ### Invariant -/

/-- The items that are still to be handled. -/
def waiting (s : SlicedQueue α) : List α :=
  match s.drain with
  | .idle | .sliced _ => s.queue
  | .cut batch tail => batch ++ tail
  | .handling rest => rest ++ s.queue

/-- The items whose lists stayed in use. -/
def kept (s : SlicedQueue α) : List α := (s.log.filter Prod.snd).map Prod.fst

/-- What is handled and what is waiting, and the slices of the list. -/
structure Ordered (s : SlicedQueue α) : Prop where
  order : s.handled ++ s.waiting = s.kept
  batch : ∀ b, s.drain = .sliced b → b <+: s.queue
  loaded : ∀ e ∈ s.loaded, e.2 ≤ s.generation

/-- The empty queue is ordered. -/
theorem ordered_empty : Ordered ({} : SlicedQueue α) := ⟨rfl, by simp, by simp⟩

/-- A new item is queued last. -/
theorem Ordered.load (h : Ordered s) (x : α) : Ordered (s.load x) := by
  refine ⟨h.order, h.batch, ?_⟩
  intro e he
  rcases List.mem_append.mp he with he | he
  · exact h.loaded e he
  · rw [List.mem_singleton.mp he]
    exact Nat.le_refl _

/-- What is waiting after an append to the list in use, unless the list is replaced next. -/
theorem waiting_of_append {x : α} (hcut : isCut s.drain = false) (hdrain : s'.drain = s.drain)
    (hqueue : s'.queue = s.queue ++ [x]) : s'.waiting = s.waiting ++ [x] := by
  unfold waiting
  rw [hdrain, hqueue]
  cases hd : s.drain with
  | idle => rfl
  | sliced batch => rfl
  | cut batch tail =>
    rw [hd] at hcut
    cases hcut
  | handling rest => exact (List.append_assoc _ _ _).symm

/-- What is waiting while another list, or one that is replaced next, is appended to. -/
theorem waiting_of_lost (hdrain : s'.drain = s.drain)
    (hqueue : s'.queue = s.queue ∨ isCut s.drain = true) : s'.waiting = s.waiting := by
  unfold waiting
  rw [hdrain]
  rcases hqueue with hqueue | hcut
  · rw [hqueue]
  · cases hd : s.drain with
    | cut batch tail => rfl
    | idle | sliced _ | handling _ =>
      rw [hd] at hcut
      cases hcut

private theorem kept_append {x : α} {b : Bool} (hlog : s'.log = s.log ++ [(x, b)]) :
    s'.kept = s.kept ++ (if b then [x] else []) := by
  unfold kept
  rw [hlog, List.filter_append, List.map_append]
  cases b <;> rfl

/-- Appending a slice keeps the order. -/
theorem Ordered.append {i : Nat} (h : Ordered s) (hstep : s.append i = some s') : Ordered s' := by
  have ⟨e, _, hs'⟩ := Option.map_eq_some_iff.mp hstep
  have hdrain : s'.drain = s.drain := by rw [← hs']
  have hhandled : s'.handled = s.handled := by rw [← hs']
  have hqueue : s'.queue = if e.2 = s.generation then s.queue ++ [e.1] else s.queue := by rw [← hs']
  have hlog : s'.log = s.log ++ [(e.1, decide (e.2 = s.generation) && !isCut s.drain)] := by
    rw [← hs']
  constructor
  · rw [hhandled, kept_append hlog, ← h.order]
    cases hcut : isCut s.drain with
    | true =>
      rw [waiting_of_lost hdrain (Or.inr hcut)]
      simp
    | false =>
      by_cases hgen : e.2 = s.generation
      · rw [if_pos hgen] at hqueue
        rw [waiting_of_append hcut hdrain hqueue]
        simp [hgen]
      · rw [if_neg hgen] at hqueue
        rw [waiting_of_lost hdrain (Or.inl hqueue)]
        simp [hgen]
  · intro b hb
    rw [hdrain] at hb
    have hprefix : s.queue <+: s'.queue := by
      rw [hqueue]
      split
      · exact List.prefix_append _ _
      · exact List.prefix_rfl
    exact (h.batch b hb).trans hprefix
  · intro e' he'
    rw [← hs'] at he' ⊢
    exact h.loaded e' (List.mem_of_mem_eraseIdx he')

/-- What a step of the draining thread leaves alone, and what it handles. -/
theorem work_cases (h : s.work maxItems = some s') : s'.log = s.log ∧ s'.loaded = s.loaded ∧
    s.generation ≤ s'.generation ∧ s'.handled = s.handled ++ s.next.toList := by
  unfold work at h
  unfold next
  split at h
  · next hd =>
    split at h
    · cases h
    · cases h
      simp [hd]
  · next hd =>
    cases h
    simp [hd]
  · next hd =>
    cases h
    simp [hd]
  · next hd =>
    cases h
    simp [hd]
  · next hd =>
    cases h
    simp [hd]

/-- Working on a slice keeps the order. -/
theorem Ordered.work (h : Ordered s) (hstep : s.work maxItems = some s') : Ordered s' := by
  have ⟨hlog, hloaded, hgen, _⟩ := work_cases hstep
  have hkept : s'.kept = s.kept := by
    unfold kept
    rw [hlog]
  have horder : s'.handled ++ s'.waiting = s.handled ++ s.waiting ∧
      ∀ b, s'.drain = .sliced b → b <+: s'.queue := by
    unfold SlicedQueue.work at hstep
    split at hstep
    · next hd =>
      split at hstep
      · cases hstep
      · cases hstep
        constructor
        · simp only [waiting, hd]
        · intro b hb
          rw [← Drain.sliced.inj hb]
          exact List.take_prefix _ _
    · next batch hd =>
      cases hstep
      have ⟨tail, htail⟩ := h.batch batch hd
      constructor
      · simp only [waiting, hd, ← htail, List.drop_left]
      · intro b hb
        cases hb
    · next batch tail hd =>
      cases hstep
      constructor
      · simp only [waiting, hd]
      · intro b hb
        cases hb
    · next hd =>
      cases hstep
      constructor
      · simp only [waiting, hd, List.nil_append]
      · intro b hb
        cases hb
    · next x rest hd =>
      cases hstep
      constructor
      · simp only [waiting, hd, List.append_assoc, List.cons_append, List.nil_append]
      · intro b hb
        cases hb
  refine ⟨horder.1.trans (h.order.trans hkept.symm), horder.2, ?_⟩
  intro e he
  rw [hloaded] at he
  exact Nat.le_trans (h.loaded e he) hgen

/-! ### Draining -/

/-- Some steps of the draining thread alone. -/
abbrev Works (maxItems : Nat) : SlicedQueue α → SlicedQueue α → Prop :=
  Relation.ReflTransGen (fun s s' ↦ s.work maxItems = some s')

private theorem Works.kept (h : Works maxItems s s') : s'.kept = s.kept := by
  induction h with
  | refl => rfl
  | tail _ hstep ih =>
    rw [← ih]
    unfold SlicedQueue.kept
    rw [(work_cases hstep).1]

private theorem Works.ordered (h : Works maxItems s s') (hs : Ordered s) : Ordered s' := by
  induction h with
  | refl => exact hs
  | tail _ hstep ih => exact ih.work hstep

/-- A batch is handled to its end. -/
theorem works_of_handling (maxItems : Nat) (rest : List α) (s : SlicedQueue α)
    (hs : s.drain = .handling rest) :
    ∃ s', Works maxItems s s' ∧ s'.drain = .idle ∧ s'.queue = s.queue := by
  induction rest generalizing s with
  | nil =>
    refine ⟨{ s with drain := .idle }, .single ?_, rfl, rfl⟩
    rw [work, hs]
  | cons x rest ih =>
    have ⟨s', hworks, hidle, hqueue⟩ :=
      ih { s with handled := s.handled ++ [x], drain := .handling rest } rfl
    refine ⟨s', .head ?_ hworks, hidle, hqueue⟩
    rw [work, hs]

/-- From any point of its loop the draining thread gets back to the beginning. -/
theorem works_to_idle (maxItems : Nat) (s : SlicedQueue α) :
    ∃ s', Works maxItems s s' ∧ s'.drain = .idle := by
  have hcut : ∀ (batch tail : List α) (s : SlicedQueue α), s.drain = .cut batch tail →
      ∃ s', Works maxItems s s' ∧ s'.drain = .idle := by
    intro batch tail s hs
    have ⟨s', hworks, hidle, _⟩ := works_of_handling maxItems batch
      { s with queue := tail, generation := s.generation + 1, drain := .handling batch } rfl
    refine ⟨s', .head ?_ hworks, hidle⟩
    rw [work, hs]
  cases hs : s.drain with
  | idle => exact ⟨s, .refl, hs⟩
  | sliced batch =>
    have ⟨s', hworks, hidle⟩ := hcut batch _ { s with drain := .cut batch (s.queue.drop batch.length) } rfl
    refine ⟨s', .head ?_ hworks, hidle⟩
    rw [work, hs]
  | cut batch tail => exact hcut batch tail s hs
  | handling rest =>
    have ⟨s', hworks, hidle, _⟩ := works_of_handling maxItems rest s hs
    exact ⟨s', hworks, hidle⟩

/-- One round takes a batch off the list. -/
theorem works_round (s : SlicedQueue α) (hmax : 0 < maxItems) (hs : s.drain = .idle) :
    ∃ s', Works maxItems s s' ∧ s'.drain = .idle ∧ s'.queue = s.queue.drop maxItems := by
  have hdrop : s.queue.drop (s.queue.take maxItems).length = s.queue.drop maxItems := by
    rw [List.length_take]
    rcases Nat.le_total maxItems s.queue.length with hle | hle
    · rw [Nat.min_eq_left hle]
    · rw [Nat.min_eq_right hle, List.drop_length, List.drop_eq_nil_of_le hle]
  have ⟨s', hworks, hidle, hqueue⟩ := works_of_handling maxItems (s.queue.take maxItems)
    { s with queue := s.queue.drop maxItems, generation := s.generation + 1,
             drain := .handling (s.queue.take maxItems) } rfl
  have hslice : s.work maxItems = some { s with drain := .sliced (s.queue.take maxItems) } := by
    rw [work, hs]
    exact if_neg (Nat.ne_of_gt hmax)
  have hcut : work maxItems { s with drain := .sliced (s.queue.take maxItems) } =
      some { s with drain := .cut (s.queue.take maxItems) (s.queue.drop maxItems) } := by
    rw [← hdrop]
    rfl
  have hstore : work maxItems { s with drain := .cut (s.queue.take maxItems) (s.queue.drop maxItems) } =
      some { s with queue := s.queue.drop maxItems, generation := s.generation + 1,
                    drain := .handling (s.queue.take maxItems) } := rfl
  exact ⟨s', .head hslice (.head hcut (.head hstore hworks)), hidle, hqueue⟩

/-- Left alone, the draining thread handles everything that is kept. -/
theorem exists_works_handled (hs : Ordered s) (hmax : 0 < maxItems) :
    ∃ s', Works maxItems s s' ∧ s'.handled = s.kept := by
  have hidle : ∀ (n : Nat) (s : SlicedQueue α), s.queue.length ≤ n → s.drain = .idle →
      ∃ s', Works maxItems s s' ∧ s'.drain = .idle ∧ s'.queue = [] := by
    intro n
    induction n with
    | zero =>
      intro s hlen hs
      exact ⟨s, .refl, hs, List.eq_nil_of_length_eq_zero (Nat.le_zero.mp hlen)⟩
    | succ n ih =>
      intro s hlen hs
      have ⟨m, hround, hm, hqueue⟩ := works_round s hmax hs
      have hless : m.queue.length ≤ n := by
        rw [hqueue, List.length_drop]
        omega
      have ⟨s', hworks, hs', hnil⟩ := ih m hless hm
      exact ⟨s', hround.trans hworks, hs', hnil⟩
  have ⟨m, hworks, hm⟩ := works_to_idle maxItems s
  have ⟨s', hworks', hs', hnil⟩ := hidle _ m (Nat.le_refl _) hm
  have hall := hworks.trans hworks'
  refine ⟨s', hall, ?_⟩
  have horder := (Works.ordered hall hs).order
  rw [waiting, hs', hnil, List.append_nil, Works.kept hall] at horder
  exact horder

end SlicedQueue

end Unoc.Base
