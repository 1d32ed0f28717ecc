import Unoc.Base.Bfs

/-!
# Following a partial function

The path that a partial function takes from a start until it first meets a goal. There is at most
one such path, it repeats nothing, and from each of its members the rest of it is again such a
path. A path cannot loop, since from a repeated member two paths of different length would start.

A walk in a graph may be continued by such a path from its end. A shortest of these combinations
repeats nothing either, where a vertex that both parts could share would be a shortcut.
-/

namespace Unoc.Base

universe u v

variable {α : Type u}

/-- The path along `next` from a start to the first goal. -/
inductive Onward (next : α → Option α) (goal : α → Prop) : α → List α → Prop where
  | goal {a : α} (h : goal a) : Onward next goal a [a]
  | step {a b : α} {p : List α} (ha : ¬ goal a) (hab : next a = some b)
      (hp : Onward next goal b p) : Onward next goal a (a :: p)

namespace Onward

variable {next : α → Option α} {goal : α → Prop} {a b : α} {p q : List α}

/-- A path onward starts where it starts. -/
theorem exists_cons (h : Onward next goal a p) : ∃ rest, p = a :: rest := by
  cases h with
  | goal => exact ⟨[], rfl⟩
  | step => exact ⟨_, rfl⟩

/-- The head of a path onward. -/
theorem head? (h : Onward next goal a p) : p.head? = some a := by
  obtain ⟨rest, rfl⟩ := h.exists_cons
  rfl

/-- There is one path from a start. -/
theorem unique (hp : Onward next goal a p) (hq : Onward next goal a q) : p = q := by
  induction hp generalizing q with
  | goal h =>
    cases hq with
    | goal => rfl
    | step ha => exact absurd h ha
  | step ha hab _ ih =>
    cases hq with
    | goal h => exact absurd h ha
    | step _ hac hq =>
      rw [hab, Option.some.injEq] at hac
      rw [ih (hac ▸ hq)]

/-- The path before its end, and the goal it ends in. -/
theorem exists_concat (h : Onward next goal a p) :
    ∃ init g, p = init ++ [g] ∧ goal g ∧ ∀ x ∈ init, ¬ goal x := by
  induction h with
  | @goal a h => exact ⟨[], a, rfl, h, by simp⟩
  | @step a b p ha _ _ ih =>
    obtain ⟨init, g, rfl, hg, hinit⟩ := ih
    exact ⟨a :: init, g, rfl, hg, by simpa [ha] using hinit⟩

/-- The path goes along the function. -/
theorem isChain (h : Onward next goal a p) : p.IsChain (fun x y ↦ next x = some y) := by
  induction h with
  | goal => exact List.isChain_singleton _
  | step _ hab hp ih =>
    obtain ⟨rest, rfl⟩ := hp.exists_cons
    exact List.isChain_cons_cons.mpr ⟨hab, ih⟩

/-- What is on a path before its end has a next. -/
theorem exists_next {init : List α} {g : α} (h : Onward next goal a p) (hp : p = init ++ [g])
    {x : α} (hx : x ∈ init) : ∃ y, next x = some y := by
  obtain ⟨front, back, rfl⟩ := List.append_of_mem hx
  have hchain := h.isChain
  rw [hp, List.append_assoc, List.cons_append] at hchain
  have htail := (List.isChain_append.mp hchain).2.1
  cases back with
  | nil => exact ⟨g, (List.isChain_cons_cons.mp htail).1⟩
  | cons y rest => exact ⟨y, (List.isChain_cons_cons.mp htail).1⟩

/-- From a member of a path the rest of the path starts. -/
theorem suffix (h : Onward next goal a p) (hb : b ∈ p) :
    ∃ init rest, p = init ++ rest ∧ Onward next goal b rest := by
  induction h with
  | @goal a h =>
    obtain rfl := List.mem_singleton.mp hb
    exact ⟨[], [b], rfl, .goal h⟩
  | @step a c p ha hac hp ih =>
    rcases List.mem_cons.mp hb with rfl | hb
    · exact ⟨[], _, rfl, .step ha hac hp⟩
    · obtain ⟨init, rest, rfl, hrest⟩ := ih hb
      exact ⟨a :: init, rest, rfl, hrest⟩

/-- A path repeats nothing. -/
theorem nodup (h : Onward next goal a p) : p.Nodup := by
  induction h with
  | goal => exact List.nodup_singleton _
  | @step a b p ha hab hp ih =>
    refine List.nodup_cons.mpr ⟨fun hmem ↦ ?_, ih⟩
    -- The rest of the path from its second visit would be as long as the path itself.
    obtain ⟨init, rest, rfl, hrest⟩ := hp.suffix hmem
    have hlen := congrArg List.length ((Onward.step ha hab hp).unique hrest)
    simp only [List.length_cons, List.length_append] at hlen
    omega

/-- What holds of the start and is kept by steps holds along the path. -/
theorem forall_mem {P : α → Prop} (h : Onward next goal a p) (ha : P a)
    (hstep : ∀ x y, P x → next x = some y → P y) : ∀ x ∈ p, P x := by
  induction h with
  | goal => simpa using ha
  | step _ hab _ ih => exact List.forall_mem_cons.mpr ⟨ha, ih (hstep _ _ ha hab)⟩

end Onward

/-! ### Walks continued by a path -/

section Joined

variable {V : Type v} {adj : V → V → Prop} {key : α → V} {entry : α → Prop}
  {next : α → Option α} {goal : α → Prop} {s : V} {c : List V}

/-- A walk to an entry, continued along the path from there. -/
structure Joined (adj : V → V → Prop) (key : α → V) (entry : α → Prop) (next : α → Option α)
    (goal : α → Prop) (s : V) (a : α) (w : List V) (p : List α) : Prop where
  entry : entry a
  walk : Walk adj s (key a) w
  path : Onward next goal a p

/-- A vertex that a path may share with a walk: an entry itself, or next to the entry after it. -/
def Shortcut (adj : V → V → Prop) (key : α → V) (entry : α → Prop) (next : α → Option α)
    (goal : α → Prop) (x : α) : Prop :=
  entry x ∨ ¬ goal x ∧ ∃ y, next x = some y ∧ entry y ∧ adj (key x) (key y)

/-- A shared vertex before the end of the walk gives a shorter combination. -/
theorem Joined.exists_shorter {a x : α} {w q : List V} {p : List α}
    (h : Joined adj key entry next goal s a w p) (hx : x ∈ p.tail)
    (hq : Walk adj s (key x) q) (hlt : q.length < w.length)
    (hcut : Shortcut adj key entry next goal x) :
    ∃ a' w' p', Joined adj key entry next goal s a' w' p' ∧
      (w' ++ p'.tail.map key).length < (w ++ p.tail.map key).length := by
  have hrest : ∃ rest, Onward next goal x rest ∧ rest.length ≤ p.tail.length := by
    have hpath := h.path
    cases hpath with
    | goal => cases hx
    | step _ _ hp =>
      obtain ⟨init, rest, hsplit, hrest⟩ := hp.suffix hx
      refine ⟨rest, hrest, ?_⟩
      rw [List.tail_cons, hsplit, List.length_append]
      omega
  obtain ⟨rest, hrest, hle⟩ := hrest
  rcases hcut with hentry | ⟨hgoal, y, hxy, hentry, hadj⟩
  · refine ⟨x, q, rest, ⟨hentry, hq, hrest⟩, ?_⟩
    simp only [List.length_append, List.length_map, List.length_tail] at hle ⊢
    omega
  · cases hrest with
    | goal hg => exact absurd hg hgoal
    | step _ hxz hp =>
      rw [hxy, Option.some.injEq] at hxz
      subst hxz
      refine ⟨y, q ++ [key y], _, ⟨hentry, hq.step hadj, hp⟩, ?_⟩
      simp only [List.length_append, List.length_map, List.length_tail, List.length_cons,
        List.length_nil] at hle ⊢
      omega

/-- A shortest combination visits no vertex twice. -/
theorem Joined.nodup_of_shortest {a : α} {w : List V} {p : List α}
    (h : Joined adj key entry next goal s a w p) (hkey : (p.map key).Nodup)
    (hcut : ∀ x ∈ p.tail, ∀ q, Walk adj s (key x) q → Shortcut adj key entry next goal x)
    (hmin : ∀ a' w' p', Joined adj key entry next goal s a' w' p' →
      (w ++ p.tail.map key).length ≤ (w' ++ p'.tail.map key).length) :
    (w ++ p.tail.map key).Nodup := by
  obtain ⟨rest, rfl⟩ := h.path.exists_cons
  rw [List.map_cons, List.nodup_cons] at hkey
  have hwalk : w.Nodup := by
    apply h.walk.nodup_of_shortest
    intro q hq
    have hle := hmin a q _ ⟨h.entry, hq, h.path⟩
    rw [List.length_append, List.length_append] at hle
    omega
  refine List.nodup_append.mpr ⟨hwalk, hkey.2, ?_⟩
  rintro z hz _ hzp rfl
  obtain ⟨x, hx, rfl⟩ := List.mem_map.mp hzp
  obtain ⟨init, rfl⟩ := h.walk.exists_concat
  have hne : key x ≠ key a := fun heq ↦ hkey.1 (heq ▸ hzp)
  have hinit : key x ∈ (init ++ [key a]).dropLast := by
    rw [List.dropLast_concat]
    simpa [hne] using hz
  obtain ⟨q, hq, hlt⟩ := h.walk.exists_shorter hinit
  obtain ⟨a', w', p', hjoined, hshorter⟩ := h.exists_shorter hx hq hlt (hcut x hx q hq)
  exact absurd (hmin a' w' p' hjoined) (not_le.mpr hshorter)

end Joined

end Unoc.Base
