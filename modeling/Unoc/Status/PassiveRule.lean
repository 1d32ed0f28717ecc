import Mathlib.Algebra.Order.BigOperators.Group.List
import Unoc.Base.Worklist
import Unoc.Status.Evaluate

/-!
# The rule for passive devices

`eval_passive_status` of `backend/services/status_service_passive.py` against the rule of its
docstring: two neighbours, an upstream device with L3 connectivity and a terminator, each of them
next to the device or behind passive devices only. The stack of the first search starts with the
adjacent upstream devices as well, and goes on from those without L3 connectivity.
-/

namespace Unoc.Status

open Unoc.Base Unoc.Model

variable {t : Topology} {d a b x : DeviceView}

/-! ### The rule -/

/-- A device row at the other end of a link of `a`. -/
def NextTo (t : Topology) (a b : DeviceView) : Prop := b ∈ rawNeighbors t a.id

/-- A step into a passive device. -/
def PassiveStep (t : Topology) (a b : DeviceView) : Prop :=
  NextTo t a b ∧ passiveInline b.type = true

/-- A device next to `d`, or behind passive devices only. -/
def BehindPassives (t : Topology) (d x : DeviceView) : Prop :=
  ∃ p, Relation.ReflTransGen (PassiveStep t) d p ∧ NextTo t p x

/-- Links to two different devices. -/
def TwoNeighbors (t : Topology) (d : DeviceView) : Prop :=
  ∃ m ∈ rawNeighborIds t d.id, ∃ n ∈ rawNeighborIds t d.id, m ≠ n

/-- An upstream device with L3 connectivity; `status_service_passive.py:15`. -/
def UpstreamBehind (t : Topology) (d : DeviceView) : Prop :=
  ∃ u, BehindPassives t d u ∧ chainUpstream u.type = true ∧ (hasUpstreamL3OrAnchor t u).ok = true

/-- An ONT, a business ONT or a CPE; `status_service_passive.py:16`. -/
def TerminatorBehind (t : Topology) (d : DeviceView) : Prop :=
  ∃ e, BehindPassives t d e ∧ chainTerminator e.type = true

/-- The rules of `eval_passive_status`; `status_service_passive.py:13–16`. -/
structure PassiveUp (t : Topology) (d : DeviceView) : Prop where
  neighbors : TwoNeighbors t d
  upstream : UpstreamBehind t d
  terminator : TerminatorBehind t d

/-- UP under the rules, otherwise DOWN. -/
def FollowsRule (t : Topology) (d : DeviceView) (status : Status) : Prop :=
  (PassiveUp t d → status = .up) ∧ (¬ PassiveUp t d → status = .down)

/-- `eval_passive_status`, with the set of neighbours enumerated in some order;
`status_service_passive.py:10–144`. -/
def evalPassiveStatusIn (t : Topology) (neighborIds : List String) : Status :=
  if neighborIds.length < 2 then .down
  else
    let rows := neighborIds.filterMap t.getDevice
    let candidates := rows.filter (fun d ↦ chainUpstream d.type)
    let passives := rows.filter (fun d ↦ passiveInline d.type)
    let stack := (candidates ++ passives).reverse
    if chainUpstreamLoop t candidates (chainFuel t stack) stack [] = false then .down
    else if rows.any (fun d ↦ chainTerminator d.type) then .up
    else if chainTerminatorLoop t (chainFuel t passives) passives [] then .up
    else .down

/-- The rule of a passive device reads its sorted neighbours. -/
theorem evalPassiveStatus_reads (t : Topology) (device : DeviceView) :
    evalPassiveStatus t device =
      evalPassiveStatusIn t (sortedSet (rawNeighborIds t device.id)) := rfl

/-- The ids in the set `neighbors`, each one once; `status_service_passive.py:22`. -/
structure EnumeratesNeighbors (t : Topology) (d : DeviceView) (ids : List String) : Prop where
  nodup : ids.Nodup
  mem_iff : ∀ id, id ∈ ids ↔ id ∈ rawNeighborIds t d.id

/-! ### Rows and ids -/

private theorem mem_rawNeighbors {id : String} :
    x ∈ rawNeighbors t id ↔ x.id ∈ rawNeighborIds t id ∧ t.getDevice x.id = some x := by
  unfold rawNeighbors
  rw [List.mem_filterMap]
  constructor
  · rintro ⟨n, hn, hx⟩
    have hid := (Topology.getDevice_eq_some.mp hx).2
    rw [hid]
    exact ⟨hn, hx⟩
  · rintro ⟨hn, hx⟩
    exact ⟨x.id, hn, hx⟩

private theorem getDevice_of_nextTo (h : NextTo t a b) : t.getDevice b.id = some b :=
  (mem_rawNeighbors.mp h).2

/-- The rows of the enumerated neighbours are the neighbour rows. -/
theorem EnumeratesNeighbors.mem_rows {ids : List String} (h : EnumeratesNeighbors t d ids) :
    x ∈ ids.filterMap t.getDevice ↔ NextTo t d x := by
  rw [NextTo, mem_rawNeighbors, ← h.mem_iff, List.mem_filterMap]
  constructor
  · rintro ⟨n, hn, hx⟩
    have hid := (Topology.getDevice_eq_some.mp hx).2
    rw [hid]
    exact ⟨hn, hx⟩
  · rintro ⟨hn, hx⟩
    exact ⟨x.id, hn, hx⟩

private theorem EnumeratesNeighbors.two_le_iff {ids : List String}
    (h : EnumeratesNeighbors t d ids) :
    2 ≤ ids.length ↔ TwoNeighbors t d := by
  unfold TwoNeighbors
  simp only [← h.mem_iff]
  constructor
  · intro hlen
    match ids, h.nodup with
    | m :: n :: rest, hnodup =>
      have hne : m ≠ n := fun hmn ↦ (List.nodup_cons.mp hnodup).1 (by simp [hmn])
      exact ⟨m, by simp, n, by simp, hne⟩
  · rintro ⟨m, hm, n, hn, hne⟩
    by_contra hlen
    match ids with
    | [] => cases hm
    | [y] =>
      rw [List.mem_singleton] at hm hn
      exact hne (hm.trans hn.symm)
    | _ :: _ :: _ => exact hlen (by simp)

/-- The ids of the passive neighbours of a device row. -/
def passiveNeighborIds (t : Topology) (id : String) : List String :=
  if (t.getDevice id).isSome then
    ((rawNeighbors t id).filter (fun d ↦ passiveInline d.type)).map DeviceView.id
  else []

private theorem passiveNeighborIds_of_row (ha : t.getDevice a.id = some a) :
    passiveNeighborIds t a.id =
      ((rawNeighbors t a.id).filter (fun d ↦ passiveInline d.type)).map DeviceView.id := by
  simp [passiveNeighborIds, ha]

private theorem mem_passiveNeighborIds {id : String} (ha : t.getDevice a.id = some a) :
    id ∈ passiveNeighborIds t a.id ↔ ∃ b, PassiveStep t a b ∧ b.id = id := by
  rw [passiveNeighborIds_of_row ha]
  simp only [List.mem_map, List.mem_filter, PassiveStep, NextTo]

private theorem getDevice_of_reaches (ha : t.getDevice a.id = some a)
    (h : Relation.ReflTransGen (PassiveStep t) a b) : t.getDevice b.id = some b := by
  cases h.cases_tail with
  | inl h => rw [h]; exact ha
  | inr h =>
    cases h with
    | intro c hc => exact getDevice_of_nextTo hc.2.1

/-- Ids that the searches reach are those of rows that passive steps reach. -/
theorem reaches_iff {id : String} (ha : t.getDevice a.id = some a) :
    Relation.ReflTransGen (fun m n ↦ n ∈ passiveNeighborIds t m) a.id id ↔
      ∃ b, Relation.ReflTransGen (PassiveStep t) a b ∧ b.id = id := by
  constructor
  · intro h
    induction h with
    | refl => exact ⟨a, .refl, rfl⟩
    | tail _ hstep ih =>
      cases ih with
      | intro b hb =>
        rw [← hb.2, mem_passiveNeighborIds (getDevice_of_reaches ha hb.1)] at hstep
        cases hstep with
        | intro c hc => exact ⟨c, hb.1.tail hc.1, hc.2⟩
  · rintro ⟨b, hb, rfl⟩
    induction hb with
    | refl => exact .refl
    | tail hab hstep ih =>
      exact ih.tail ((mem_passiveNeighborIds (getDevice_of_reaches ha hab)).mpr ⟨_, hstep, rfl⟩)

/-! ### The two loops -/

/-- Whether the stack loop ends at a device. -/
def endsUpstream (t : Topology) (candidates : List DeviceView) (id : String) : Bool :=
  (t.getDevice id).any (fun d ↦ decide (d ∈ candidates) && (hasUpstreamL3OrAnchor t d).ok) ||
    (rawNeighbors t id).any (fun d ↦ chainUpstream d.type && (hasUpstreamL3OrAnchor t d).ok)

/-- Whether the queue loop ends at a device. -/
def endsTerminator (t : Topology) (id : String) : Bool :=
  (rawNeighbors t id).any (fun d ↦ chainTerminator d.type)

private theorem map_foldl_cons (rows stack : List DeviceView) :
    (rows.foldl (fun s d ↦ d :: s) stack).map DeviceView.id =
      (rows.map DeviceView.id).foldl (fun s id ↦ id :: s) (stack.map DeviceView.id) := by
  induction rows generalizing stack with
  | nil => rfl
  | cons r rows ih => rw [List.foldl_cons, ih]; rfl

private theorem foldl_snoc (ids queue : List String) :
    ids.foldl (fun q id ↦ q ++ [id]) queue = queue ++ ids := by
  induction ids generalizing queue with
  | nil => simp
  | cons id ids ih => rw [List.foldl_cons, ih, List.append_assoc]; rfl

/-- The queue loop is a search over ids. -/
theorem chainTerminatorLoop_eq (fuel : Nat) : ∀ (queue : List DeviceView) (visited : List String),
    (∀ d ∈ queue, t.getDevice d.id = some d) →
      chainTerminatorLoop t fuel queue visited =
        Worklist.search (passiveNeighborIds t) (fun q id ↦ q ++ [id]) (endsTerminator t) fuel
          (queue.map DeviceView.id) visited := by
  induction fuel with
  | zero => intro queue visited _; rfl
  | succ fuel ih =>
    intro queue visited hrows
    cases queue with
    | nil => rfl
    | cons cur queue =>
      have htail : ∀ d ∈ queue, t.getDevice d.id = some d :=
        fun d hd ↦ hrows d (List.mem_cons_of_mem cur hd)
      unfold chainTerminatorLoop
      rw [List.map_cons, Worklist.search]
      split
      · exact ih queue visited htail
      · have hnext : (passiveNeighborIds t cur.id).filter
            (fun id ↦ decide (id ∉ cur.id :: visited)) =
            ((rawNeighbors t cur.id).filter (fun d ↦
              passiveInline d.type ∧ d.id ∉ cur.id :: visited)).map DeviceView.id := by
          rw [passiveNeighborIds_of_row (hrows cur List.mem_cons_self), List.filter_map,
            List.filter_filter]
          congr 1
          apply List.filter_congr
          intro d _
          simp [Bool.and_comm]
        rw [ih, foldl_snoc, List.map_append, hnext]
        · rfl
        · intro d hd
          cases List.mem_append.mp hd with
          | inl hd => exact htail d hd
          | inr hd => exact getDevice_of_nextTo (List.mem_of_mem_filter hd)

/-- The rows on the stack are candidates or passive, and no marked candidate has connectivity. -/
structure StackInv (t : Topology) (candidates stack : List DeviceView) (checked : List String) :
    Prop where
  rows : ∀ d ∈ stack, t.getDevice d.id = some d
  kinds : ∀ d ∈ stack, d ∈ candidates ∨ passiveInline d.type = true
  checked : ∀ id ∈ checked, ∀ d, t.getDevice id = some d → chainUpstream d.type = true →
    (hasUpstreamL3OrAnchor t d).ok = false

private theorem chainUpstream_of_passive {type : DeviceType} (h : passiveInline type = true) :
    chainUpstream type = false := by
  cases type <;> first | rfl | cases h

namespace StackInv

variable {candidates stack : List DeviceView} {cur : DeviceView} {checked : List String}

private theorem tail (h : StackInv t candidates (cur :: stack) checked) :
    StackInv t candidates stack checked :=
  ⟨fun d hd ↦ h.rows d (List.mem_cons_of_mem cur hd),
    fun d hd ↦ h.kinds d (List.mem_cons_of_mem cur hd), h.checked⟩

/-- A device that does not end the loop is no upstream device with connectivity. -/
theorem checked_cons (h : StackInv t candidates (cur :: stack) checked)
    (hcur : ¬ (cur ∈ candidates ∧ (hasUpstreamL3OrAnchor t cur).ok = true)) :
    ∀ id ∈ cur.id :: checked, ∀ d, t.getDevice id = some d → chainUpstream d.type = true →
      (hasUpstreamL3OrAnchor t d).ok = false := by
  intro id hid d hd hup
  cases List.mem_cons.mp hid with
  | inr hid => exact h.checked id hid d hd hup
  | inl hid =>
    rw [hid, h.rows cur List.mem_cons_self, Option.some.injEq] at hd
    rw [← hd] at hup ⊢
    cases h.kinds cur List.mem_cons_self with
    | inl hmem => simpa [hmem] using hcur
    | inr hpassive => simp [chainUpstream_of_passive hpassive] at hup

/-- Leaving out the marked neighbours does not change whether the loop ends. -/
theorem any_unchecked (h : StackInv t candidates (cur :: stack) checked)
    (hcur : ¬ (cur ∈ candidates ∧ (hasUpstreamL3OrAnchor t cur).ok = true)) :
    ((rawNeighbors t cur.id).filter (fun d ↦ d.id ∉ cur.id :: checked)).any
        (fun d ↦ chainUpstream d.type && (hasUpstreamL3OrAnchor t d).ok) =
      endsUpstream t candidates cur.id := by
  have hfirst : (t.getDevice cur.id).any
      (fun d ↦ decide (d ∈ candidates) && (hasUpstreamL3OrAnchor t d).ok) = false := by
    simpa [h.rows cur List.mem_cons_self] using hcur
  rw [endsUpstream, hfirst, Bool.false_or, Bool.eq_iff_iff, List.any_eq_true, List.any_eq_true]
  constructor
  · rintro ⟨d, hd, hok⟩
    exact ⟨d, List.mem_of_mem_filter hd, hok⟩
  · rintro ⟨d, hd, hok⟩
    have hpair : chainUpstream d.type = true ∧ (hasUpstreamL3OrAnchor t d).ok = true := by
      simpa using hok
    have hunmarked : d.id ∉ cur.id :: checked := by
      intro hmem
      have hno := h.checked_cons hcur d.id hmem d (mem_rawNeighbors.mp hd).2 hpair.1
      rw [hpair.2] at hno
      cases hno
    exact ⟨d, List.mem_filter.mpr ⟨hd, by simpa using hunmarked⟩, hok⟩

/-- Pushing passive neighbours keeps the invariant. -/
theorem push (h : StackInv t candidates (cur :: stack) checked)
    (hcur : ¬ (cur ∈ candidates ∧ (hasUpstreamL3OrAnchor t cur).ok = true))
    {rows : List DeviceView}
    (hrows : ∀ d ∈ rows, NextTo t cur d ∧ passiveInline d.type = true) :
    StackInv t candidates (rows.foldl (fun s d ↦ d :: s) stack) (cur.id :: checked) := by
  have hperm : (rows.foldl (fun s d ↦ d :: s) stack).Perm (rows ++ stack) :=
    Worklist.foldl_push_perm (fun _ _ ↦ .refl _) rows stack
  refine ⟨fun d hd ↦ ?_, fun d hd ↦ ?_, h.checked_cons hcur⟩
  · rw [hperm.mem_iff, List.mem_append] at hd
    cases hd with
    | inl hd => exact getDevice_of_nextTo (hrows d hd).1
    | inr hd => exact h.tail.rows d hd
  · rw [hperm.mem_iff, List.mem_append] at hd
    cases hd with
    | inl hd => exact Or.inr (hrows d hd).2
    | inr hd => exact h.tail.kinds d hd

end StackInv

/-- The stack loop is a search over ids. -/
theorem chainUpstreamLoop_eq {candidates : List DeviceView} (fuel : Nat) :
    ∀ (stack : List DeviceView) (checked : List String), StackInv t candidates stack checked →
      chainUpstreamLoop t candidates fuel stack checked =
        Worklist.search (passiveNeighborIds t) (fun s id ↦ id :: s) (endsUpstream t candidates) fuel
          (stack.map DeviceView.id) checked := by
  induction fuel with
  | zero => intro stack checked _; rfl
  | succ fuel ih =>
    intro stack checked hinv
    cases stack with
    | nil => rfl
    | cons cur stack =>
      unfold chainUpstreamLoop
      rw [List.map_cons, Worklist.search]
      split
      · exact ih stack checked hinv.tail
      · by_cases hcur : cur ∈ candidates ∧ (hasUpstreamL3OrAnchor t cur).ok = true
        · simp [hcur, endsUpstream, hinv.rows cur List.mem_cons_self]
        · rw [if_neg hcur]
          simp only [hinv.any_unchecked hcur]
          split
          · rfl
          · rw [ih _ _ (hinv.push hcur ?_), map_foldl_cons]
            · congr 2
              rw [passiveNeighborIds_of_row (hinv.rows cur List.mem_cons_self), List.filter_map,
                List.filter_filter, List.filter_filter]
              congr 1
              apply List.filter_congr
              intro d _
              simp [Bool.and_comm]
            · intro d hd
              have hpassive := List.mem_filter.mp hd
              exact ⟨List.mem_of_mem_filter hpassive.1, hpassive.2⟩

/-! ### What the loops find -/

private theorem chainFuel_covers (start : List DeviceView) :
    (start.map DeviceView.id).length +
        ((t.devices.map DeviceView.id).map (fun id ↦ (passiveNeighborIds t id).length)).sum ≤
      chainFuel t start := by
  have hle : ((t.devices.map DeviceView.id).map (fun id ↦ (passiveNeighborIds t id).length)).sum ≤
      (t.devices.map (fun d ↦ (rawNeighbors t d.id).length)).sum := by
    rw [List.map_map]
    apply List.sum_le_sum
    intro d _
    rw [Function.comp_apply, passiveNeighborIds]
    split
    · rw [List.length_map]
      exact List.length_filter_le _ _
    · exact Nat.zero_le _
  unfold chainFuel
  rw [List.length_map]
  omega

private theorem passiveNeighborIds_outside {id : String} (h : id ∉ t.devices.map DeviceView.id) :
    passiveNeighborIds t id = [] := by
  have hnone : t.getDevice id = none := by
    rw [Option.eq_none_iff_forall_ne_some]
    intro d hd
    have hrow := Topology.getDevice_eq_some.mp hd
    exact h (List.mem_map.mpr ⟨d, hrow⟩)
  simp [passiveNeighborIds, hnone]

/-- A search from rows finds a property of the rows that passive steps reach. -/
theorem search_rows_iff {push : List String → String → List String} {stop : String → Bool}
    (hpush : ∀ queue id, (push queue id).Perm (id :: queue)) {start : List DeviceView}
    (hrows : ∀ d ∈ start, t.getDevice d.id = some d) :
    Worklist.search (passiveNeighborIds t) push stop (chainFuel t start)
        (start.map DeviceView.id) [] = true ↔
      ∃ s ∈ start, ∃ r, Relation.ReflTransGen (PassiveStep t) s r ∧ stop r.id = true := by
  rw [Worklist.search_iff hpush t.devices_nodup (fun _ ↦ passiveNeighborIds_outside)
    (chainFuel_covers start)]
  constructor
  · rintro ⟨id, hid, x, hx, hstop⟩
    obtain ⟨s, hs, rfl⟩ := List.mem_map.mp hid
    obtain ⟨r, hr, rfl⟩ := (reaches_iff (hrows s hs)).mp hx
    exact ⟨s, hs, r, hr, hstop⟩
  · rintro ⟨s, hs, r, hr, hstop⟩
    exact ⟨s.id, List.mem_map.mpr ⟨s, hs, rfl⟩, r.id,
      (reaches_iff (hrows s hs)).mpr ⟨r, hr, rfl⟩, hstop⟩

private theorem BehindPassives.head (h : PassiveStep t a b) (hx : BehindPassives t b x) :
    BehindPassives t a x := by
  cases hx with
  | intro p hp => exact ⟨p, .head h hp.1, hp.2⟩

/-- What is behind passive devices is next to the device or behind a passive neighbour. -/
theorem behindPassives_iff :
    BehindPassives t d x ↔
      NextTo t d x ∨ ∃ s, PassiveStep t d s ∧ BehindPassives t s x := by
  constructor
  · rintro ⟨p, hp, hx⟩
    cases hp.cases_head with
    | inl h => rw [h]; exact Or.inl hx
    | inr h =>
      cases h with
      | intro s hs => exact Or.inr ⟨s, hs.1, p, hs.2, hx⟩
  · intro h
    cases h with
    | inl h => exact ⟨d, .refl, h⟩
    | inr h =>
      cases h with
      | intro s hs => exact hs.2.head hs.1

/-- An adjacent upstream device, from which the first search goes on. -/
def UpstreamNeighbor (t : Topology) (d c : DeviceView) : Prop :=
  NextTo t d c ∧ chainUpstream c.type = true

private theorem evalPassiveStatusIn_up_or_down (t : Topology) (ids : List String) :
    evalPassiveStatusIn t ids = .up ∨ evalPassiveStatusIn t ids = .down := by
  unfold evalPassiveStatusIn
  grind

section Loops

variable {ids : List String} (hids : EnumeratesNeighbors t d ids)

include hids

/-- The stack loop finds what is behind the device, and what is behind an adjacent upstream
device. -/
theorem chainUpstreamLoop_iff {candidates passives : List DeviceView}
    (hcandidates : candidates = (ids.filterMap t.getDevice).filter (fun d ↦ chainUpstream d.type))
    (hpassives : passives = (ids.filterMap t.getDevice).filter (fun d ↦ passiveInline d.type)) :
    chainUpstreamLoop t candidates (chainFuel t (candidates ++ passives).reverse)
        (candidates ++ passives).reverse [] = true ↔
      UpstreamBehind t d ∨ ∃ c, UpstreamNeighbor t d c ∧ UpstreamBehind t c := by
  have hcand : ∀ c, c ∈ candidates ↔ UpstreamNeighbor t d c := by
    intro c
    rw [hcandidates, List.mem_filter, hids.mem_rows]
    rfl
  have hpass : ∀ s, s ∈ passives ↔ PassiveStep t d s := by
    intro s
    rw [hpassives, List.mem_filter, hids.mem_rows]
    rfl
  have hstart : ∀ s, s ∈ (candidates ++ passives).reverse ↔
      UpstreamNeighbor t d s ∨ PassiveStep t d s := by
    intro s
    rw [List.mem_reverse, List.mem_append, hcand, hpass]
  have hrows : ∀ s ∈ (candidates ++ passives).reverse, t.getDevice s.id = some s := by
    intro s hs
    cases (hstart s).mp hs with
    | inl h => exact getDevice_of_nextTo h.1
    | inr h => exact getDevice_of_nextTo h.1
  have hinv : StackInv t candidates (candidates ++ passives).reverse [] := by
    refine ⟨hrows, fun s hs ↦ ?_, by simp⟩
    cases (hstart s).mp hs with
    | inl h => exact Or.inl ((hcand s).mpr h)
    | inr h => exact Or.inr h.2
  have hends : ∀ {s r}, s ∈ (candidates ++ passives).reverse →
      Relation.ReflTransGen (PassiveStep t) s r →
        (endsUpstream t candidates r.id = true ↔
          (UpstreamNeighbor t d r ∧ (hasUpstreamL3OrAnchor t r).ok = true) ∨
            ∃ u, NextTo t r u ∧ chainUpstream u.type = true ∧
              (hasUpstreamL3OrAnchor t u).ok = true) := by
    intro s r hs hr
    simp [endsUpstream, getDevice_of_reaches (hrows s hs) hr, hcand, NextTo]
  rw [chainUpstreamLoop_eq _ _ _ hinv, search_rows_iff (fun _ _ ↦ .refl _) hrows]
  constructor
  · rintro ⟨s, hs, r, hr, hstop⟩
    cases (hends hs hr).mp hstop with
    | inl h => exact Or.inl ⟨r, ⟨d, .refl, h.1.1⟩, h.1.2, h.2⟩
    | inr h =>
      obtain ⟨u, hu, hup⟩ := h
      cases (hstart s).mp hs with
      | inl hs => exact Or.inr ⟨s, hs, u, ⟨r, hr, hu⟩, hup⟩
      | inr hs => exact Or.inl ⟨u, ⟨r, .head hs hr, hu⟩, hup⟩
  · intro h
    cases h with
    | inl h =>
      obtain ⟨u, hu, hup, hok⟩ := h
      cases behindPassives_iff.mp hu with
      | inl hu =>
        have hmem := (hstart u).mpr (Or.inl ⟨hu, hup⟩)
        exact ⟨u, hmem, u, .refl, (hends hmem .refl).mpr (Or.inl ⟨⟨hu, hup⟩, hok⟩)⟩
      | inr h =>
        obtain ⟨s, hs, r, hr, hu⟩ := h
        have hmem := (hstart s).mpr (Or.inr hs)
        exact ⟨s, hmem, r, hr, (hends hmem hr).mpr (Or.inr ⟨u, hu, hup, hok⟩)⟩
    | inr h =>
      obtain ⟨c, hc, u, ⟨r, hr, hu⟩, hup⟩ := h
      have hmem := (hstart c).mpr (Or.inl hc)
      exact ⟨c, hmem, r, hr, (hends hmem hr).mpr (Or.inr ⟨u, hu, hup⟩)⟩

/-- The adjacent terminators and the queue loop find what is behind the device. -/
theorem chainTerminatorLoop_iff {passives : List DeviceView}
    (hpassives : passives = (ids.filterMap t.getDevice).filter (fun d ↦ passiveInline d.type)) :
    ((ids.filterMap t.getDevice).any (fun d ↦ chainTerminator d.type) = true ∨
        chainTerminatorLoop t (chainFuel t passives) passives [] = true) ↔
      TerminatorBehind t d := by
  have hpass : ∀ s, s ∈ passives ↔ PassiveStep t d s := by
    intro s
    rw [hpassives, List.mem_filter, hids.mem_rows]
    rfl
  have hrows : ∀ s ∈ passives, t.getDevice s.id = some s :=
    fun s hs ↦ getDevice_of_nextTo ((hpass s).mp hs).1
  have hsnoc : ∀ (q : List String) id, (q ++ [id]).Perm (id :: q) :=
    fun q id ↦ List.perm_append_singleton id q
  rw [chainTerminatorLoop_eq _ _ _ hrows, search_rows_iff hsnoc hrows, List.any_eq_true]
  unfold TerminatorBehind
  constructor
  · intro h
    cases h with
    | inl h =>
      obtain ⟨e, he, hterm⟩ := h
      exact ⟨e, ⟨d, .refl, hids.mem_rows.mp he⟩, hterm⟩
    | inr h =>
      obtain ⟨s, hs, r, hr, hstop⟩ := h
      obtain ⟨e, he, hterm⟩ := List.any_eq_true.mp hstop
      exact ⟨e, ⟨r, .head ((hpass s).mp hs) hr, he⟩, hterm⟩
  · rintro ⟨e, he, hterm⟩
    cases behindPassives_iff.mp he with
    | inl he => exact Or.inl ⟨e, hids.mem_rows.mpr he, hterm⟩
    | inr h =>
      obtain ⟨s, hs, r, hr, he⟩ := h
      exact Or.inr ⟨s, (hpass s).mpr hs, r, hr, List.any_eq_true.mpr ⟨e, he, hterm⟩⟩

/-- What `eval_passive_status` decides: it also accepts an upstream device that is only found behind
an adjacent upstream device. -/
theorem evalPassiveStatusIn_eq_up_iff :
    evalPassiveStatusIn t ids = .up ↔
      TwoNeighbors t d ∧
        (UpstreamBehind t d ∨ ∃ c, UpstreamNeighbor t d c ∧ UpstreamBehind t c) ∧
          TerminatorBehind t d := by
  rw [← hids.two_le_iff, ← chainUpstreamLoop_iff hids rfl rfl, ← chainTerminatorLoop_iff hids rfl]
  unfold evalPassiveStatusIn
  grind

end Loops

/-! ### Agreement with the rule -/

private theorem enumeratesNeighbors_sortedSet (t : Topology) (d : DeviceView) :
    EnumeratesNeighbors t d (sortedSet (rawNeighborIds t d.id)) :=
  ⟨nodup_sortedSet _, fun _ ↦ mem_sortedSet⟩

/-- The device follows the rules exactly if, should it have two neighbours and a terminator, an
upstream device with L3 connectivity that is behind an adjacent upstream device is matched by one
that is behind the device itself. -/
theorem evalPassiveStatus_followsRule_iff (t : Topology) (d : DeviceView) :
    (∀ ids, EnumeratesNeighbors t d ids → FollowsRule t d (evalPassiveStatusIn t ids)) ↔
      (TwoNeighbors t d → TerminatorBehind t d →
        ∀ c, UpstreamNeighbor t d c → UpstreamBehind t c → UpstreamBehind t d) := by
  constructor
  · intro h htwo hterm c hc hbehind
    have hids := enumeratesNeighbors_sortedSet t d
    by_contra hnone
    have hdown := (h _ hids).2 (fun hup ↦ hnone hup.upstream)
    have hup := (evalPassiveStatusIn_eq_up_iff hids).mpr ⟨htwo, Or.inr ⟨c, hc, hbehind⟩, hterm⟩
    rw [hup] at hdown
    cases hdown
  · intro h ids hids
    constructor
    · intro hup
      exact (evalPassiveStatusIn_eq_up_iff hids).mpr
        ⟨hup.neighbors, Or.inl hup.upstream, hup.terminator⟩
    · intro hnot
      apply (evalPassiveStatusIn_up_or_down t ids).resolve_left
      intro hup
      obtain ⟨htwo, hbehind, hterm⟩ := (evalPassiveStatusIn_eq_up_iff hids).mp hup
      cases hbehind with
      | inl hbehind => exact hnot ⟨htwo, hbehind, hterm⟩
      | inr hbehind =>
        obtain ⟨c, hc, hbehind⟩ := hbehind
        exact hnot ⟨htwo, h htwo hterm c hc hbehind, hterm⟩

/-- A splitter between an ONT and an OLT without L3 connectivity, which is joined by an ODF to an
OLT next to the anchor. -/
def detourNetwork : Database where
  devices := [{ id := "gw", type := .backboneGateway }, { id := "olt-a", type := .olt },
    { id := "olt-b", type := .olt }, { id := "odf", type := .odf },
    { id := "splitter", type := .splitter }, { id := "ont", type := .ont }]
  interfaces := [{ id := "splitter-0", deviceId := "splitter", name := "0" },
    { id := "splitter-1", deviceId := "splitter", name := "1" },
    { id := "ont-0", deviceId := "ont", name := "0" },
    { id := "olt-a-0", deviceId := "olt-a", name := "0" },
    { id := "olt-a-1", deviceId := "olt-a", name := "1" },
    { id := "odf-0", deviceId := "odf", name := "0" },
    { id := "odf-1", deviceId := "odf", name := "1" },
    { id := "olt-b-0", deviceId := "olt-b", name := "0" },
    { id := "olt-b-1", deviceId := "olt-b", name := "1" },
    { id := "gw-0", deviceId := "gw", name := "0" }]
  links := [{ id := "l0", aInterfaceId := "splitter-0", bInterfaceId := "olt-a-0" },
    { id := "l1", aInterfaceId := "splitter-1", bInterfaceId := "ont-0" },
    { id := "l2", aInterfaceId := "olt-a-1", bInterfaceId := "odf-0" },
    { id := "l3", aInterfaceId := "odf-1", bInterfaceId := "olt-b-0" },
    { id := "l4", aInterfaceId := "olt-b-1", bInterfaceId := "gw-0" }]

/-- The splitter is UP, although the only OLT with L3 connectivity is behind the other one. -/
theorem evalPassiveStatus_detour :
    { id := "splitter", type := .splitter } ∈ detourNetwork.devices ∧
      EnumeratesNeighbors (topology detourNetwork)
        (deviceView { id := "splitter", type := .splitter }) ["olt-a", "ont"] ∧
      evalPassiveStatusIn (topology detourNetwork) ["olt-a", "ont"] = .up ∧
      ¬ FollowsRule (topology detourNetwork)
        (deviceView { id := "splitter", type := .splitter })
        (evalPassiveStatusIn (topology detourNetwork) ["olt-a", "ont"]) := by
  have hneighbors : rawNeighborIds (topology detourNetwork) "splitter" = ["olt-a", "ont"] := by
    decide +kernel
  have hup : evalPassiveStatusIn (topology detourNetwork) ["olt-a", "ont"] = .up := by
    decide +kernel
  refine ⟨by decide, ⟨by decide, fun id ↦ ?_⟩, hup, fun h ↦ ?_⟩
  · show _ ↔ id ∈ rawNeighborIds (topology detourNetwork) "splitter"
    rw [hneighbors]
  · have hrows : ∀ u ∈ rawNeighbors (topology detourNetwork) "splitter",
        passiveInline u.type = false ∧
          (chainUpstream u.type = true →
            (hasUpstreamL3OrAnchor (topology detourNetwork) u).ok = false) := by
      decide +kernel
    have hnone : ¬ PassiveUp (topology detourNetwork)
        (deviceView { id := "splitter", type := .splitter }) := by
      intro hrule
      obtain ⟨u, hu, htype, hok⟩ := hrule.upstream
      cases behindPassives_iff.mp hu with
      | inl hu =>
        rw [(hrows u hu).2 htype] at hok
        cases hok
      | inr h =>
        obtain ⟨s, hs, _⟩ := h
        have hpassive := (hrows s hs.1).1
        rw [hs.2] at hpassive
        cases hpassive
    rw [hup] at h
    exact absurd (h.2 hnone) (by decide)

end Unoc.Status
