import Unoc.Layout.Store

/-!
# Positions reach the backend

With requests served in the order of sending, and loads answered with rows that are still stored and
in no unanswered request, a position that is neither dirty nor in an unanswered request is the one that
the backend has stored. What is dirty has a timer that will send it, unless a request has failed.
-/

namespace Unoc.Layout

open Unoc.Base

variable {C : Type}

/-! ### Rows and requests -/

/-- A row has the coordinates of a position, and its pin where the position has one. -/
def Agrees (row : Option (LayoutPosition C)) (p : LayoutPosition C) : Prop :=
  ∃ r, row = some r ∧ r.x = p.x ∧ r.y = p.y ∧ ∀ b, p.userPinned = some b → r.userPinned = some b

/-- Entries are found under their own ids. -/
def Keyed (rows : Rows C) : Prop := ∀ id p, rows.lookup id = some p → p.id = id

section Rows

variable {rows rows' : Rows C} {id : String} {p q : LayoutPosition C}

private theorem lookup_upsert_ne (h : id ≠ q.id) : (upsert rows q).lookup id = rows.lookup id := by
  unfold upsert
  split
  · exact AList.lookup_insert_ne h
  · exact AList.lookup_insert_ne h

private theorem lookup_upsert_congr (h : rows.lookup id = rows'.lookup id) :
    (upsert rows q).lookup id = (upsert rows' q).lookup id := by
  by_cases hid : id = q.id
  · rw [hid] at h ⊢
    unfold upsert
    rw [← h]
    cases rows.lookup q.id with
    | none => rw [AList.lookup_insert, AList.lookup_insert]
    | some r => rw [AList.lookup_insert, AList.lookup_insert]
  · rw [lookup_upsert_ne hid, lookup_upsert_ne hid, h]

private theorem Keyed.upsert (h : Keyed rows) (q : LayoutPosition C) : Keyed (upsert rows q) := by
  intro id p hp
  by_cases hid : id = q.id
  · rw [hid] at hp ⊢
    unfold Layout.upsert at hp
    cases hq : rows.lookup q.id with
    | none =>
      rw [hq] at hp
      dsimp only at hp
      rw [AList.lookup_insert] at hp
      rw [← Option.some.inj hp]
    | some r =>
      rw [hq] at hp
      dsimp only at hp
      rw [AList.lookup_insert] at hp
      rw [← Option.some.inj hp]
      exact h q.id r hq
  · rw [lookup_upsert_ne hid] at hp
    exact h id p hp

private theorem Keyed.foldl_upsert (h : Keyed rows) (ps : List (LayoutPosition C)) :
    Keyed (ps.foldl Layout.upsert rows) := by
  induction ps generalizing rows with
  | nil => exact h
  | cons q ps ih => exact ih (h.upsert q)

private theorem agrees_upsert (hid : q.id = p.id) (hx : q.x = p.x) (hy : q.y = p.y)
    (hpin : q.userPinned = p.userPinned) : Agrees ((upsert rows q).lookup p.id) p := by
  unfold upsert
  rw [← hid]
  cases rows.lookup q.id with
  | none => exact ⟨q, AList.lookup_insert rows, hx, hy, fun b hb ↦ hpin.trans hb⟩
  | some r =>
    refine ⟨_, AList.lookup_insert rows, hx, hy, fun b hb ↦ ?_⟩
    dsimp only
    rw [hpin, hb, Option.some_or]

private theorem lookup_foldl_upsert_of_notMem {ps : List (LayoutPosition C)}
    (h : ∀ q ∈ ps, id ≠ q.id) :
    (ps.foldl upsert rows).lookup id = rows.lookup id := by
  induction ps generalizing rows with
  | nil => rfl
  | cons q ps ih =>
    rw [List.foldl_cons, ih (fun q' hq' ↦ h q' (List.mem_cons_of_mem q hq')),
      lookup_upsert_ne (h q List.mem_cons_self)]

private theorem lookup_foldl_upsert_congr (ps : List (LayoutPosition C))
    (h : rows.lookup id = rows'.lookup id) :
    (ps.foldl upsert rows).lookup id = (ps.foldl upsert rows').lookup id := by
  induction ps generalizing rows rows' with
  | nil => exact h
  | cons q ps ih => exact ih (lookup_upsert_congr h)

/-- Where all items of an id are those of the position, the row agrees with it afterwards. -/
theorem agrees_foldl_upsert {ps : List (LayoutPosition C)}
    (hsame : ∀ q ∈ ps, q.id = p.id → q.x = p.x ∧ q.y = p.y ∧ q.userPinned = p.userPinned)
    (h : (∃ q ∈ ps, q.id = p.id) ∨ Agrees (rows.lookup p.id) p) :
    Agrees ((ps.foldl upsert rows).lookup p.id) p := by
  induction ps generalizing rows with
  | nil =>
    cases h with
    | inl h =>
      have ⟨q, hq, _⟩ := h
      cases hq
    | inr h => exact h
  | cons q ps ih =>
    apply ih (fun q' hq' ↦ hsame q' (List.mem_cons_of_mem q hq'))
    by_cases hid : q.id = p.id
    · have ⟨hx, hy, hpin⟩ := hsame q List.mem_cons_self hid
      exact .inr (agrees_upsert hid hx hy hpin)
    · rw [lookup_upsert_ne (fun h ↦ hid h.symm)]
      cases h with
      | inr h => exact .inr h
      | inl h =>
        have ⟨q', hq', hid'⟩ := h
        cases List.mem_cons.mp hq' with
        | inl heq => exact absurd (heq ▸ hid') hid
        | inr hmem => exact .inl ⟨q', hmem, hid'⟩

end Rows

/-- The rows once a request is served, if it is on its way. -/
def arrive (rows : Rows C) (f : Flight C) : Rows C :=
  if f.phase = .sent then f.positions.foldl upsert rows else rows

/-- The rows once the requests on their way are served in order. -/
def ahead (rows : Rows C) (flights : List (Flight C)) : Rows C := flights.foldl arrive rows

section Ahead

variable {rows rows' : Rows C} {id : String} {flights : List (Flight C)} {f : Flight C}

private theorem lookup_arrive_congr (h : rows.lookup id = rows'.lookup id) :
    (arrive rows f).lookup id = (arrive rows' f).lookup id := by
  unfold arrive
  split
  · exact lookup_foldl_upsert_congr _ h
  · exact h

private theorem lookup_ahead_congr (flights : List (Flight C))
    (h : rows.lookup id = rows'.lookup id) :
    (ahead rows flights).lookup id = (ahead rows' flights).lookup id := by
  induction flights generalizing rows rows' with
  | nil => exact h
  | cons f flights ih => exact ih (lookup_arrive_congr h)

private theorem lookup_arrive_of_notMem (h : ∀ q ∈ f.positions, id ≠ q.id) :
    (arrive rows f).lookup id = rows.lookup id := by
  unfold arrive
  split
  · exact lookup_foldl_upsert_of_notMem h
  · rfl

private theorem lookup_ahead_of_notMem (h : ∀ f ∈ flights, ∀ q ∈ f.positions, id ≠ q.id) :
    (ahead rows flights).lookup id = rows.lookup id := by
  induction flights generalizing rows with
  | nil => rfl
  | cons f flights ih =>
    change (ahead (arrive rows f) flights).lookup id = rows.lookup id
    rw [ih (fun g hg ↦ h g (List.mem_cons_of_mem f hg)),
      lookup_arrive_of_notMem (h f List.mem_cons_self)]

private theorem ahead_append (rows : Rows C) (before after : List (Flight C)) :
    ahead rows (before ++ after) = ahead (ahead rows before) after :=
  List.foldl_append

private theorem ahead_of_served (h : ∀ f ∈ flights, f.phase ≠ .sent) :
    ahead rows flights = rows := by
  induction flights generalizing rows with
  | nil => rfl
  | cons f flights ih =>
    have hf : arrive rows f = rows := if_neg (h f List.mem_cons_self)
    change ahead (arrive rows f) flights = rows
    rw [hf]
    exact ih (fun g hg ↦ h g (List.mem_cons_of_mem f hg))

end Ahead

/-! ### The invariant -/

/-- Dirty ids have positions, requests carry items of their own ids, and a position that is not dirty
is lost on its way or will be stored. -/
structure Inv (s : Net C) : Prop where
  keyed : Keyed s.client.byId
  rows : Keyed s.backend.rows
  known : ∀ id ∈ s.client.dirty, (s.client.byId.lookup id).isSome = true
  carried : ∀ f ∈ s.flights,
    (∀ q ∈ f.positions, q.id ∈ f.ids) ∧ ∀ id ∈ f.ids, (s.client.byId.lookup id).isSome = true
  clean : ∀ id p, s.client.byId.lookup id = some p → id ∉ s.client.dirty →
    (∃ f ∈ s.flights, f.phase = .lost ∧ id ∈ f.ids) ∨
      Agrees ((ahead s.backend.rows s.flights).lookup id) p
  timer : s.client.dirty ≠ [] → s.client.timer = true ∨ s.client.error ≠ none
  loads : ∀ rows, some rows ∈ s.loads → Keyed rows

private theorem mem_addDirty {dirty : List String} {id x : String} :
    x ∈ LayoutStore.addDirty dirty id ↔ x ∈ dirty ∨ x = id := by
  unfold LayoutStore.addDirty
  split
  · next hid =>
    constructor
    · exact .inl
    · intro h
      cases h with
      | inl h => exact h
      | inr h => exact h ▸ hid
  · rw [List.mem_append, List.mem_singleton]

private theorem mem_foldl_addDirty {ids dirty : List String} {x : String} :
    x ∈ ids.foldl LayoutStore.addDirty dirty ↔ x ∈ dirty ∨ x ∈ ids := by
  induction ids generalizing dirty with
  | nil => simp
  | cons id ids ih => rw [List.foldl_cons, ih, mem_addDirty, List.mem_cons, or_assoc]

section Client

variable {s : Net C}

/-- A position that is moved or pinned is dirty from then on. -/
theorem Inv.touch (h : Inv s) {id : String} {p : LayoutPosition C} (hid : p.id = id) :
    Inv { s with client := s.client.touch id p } := by
  have hsome : ∀ x, (s.client.byId.lookup x).isSome = true →
      ((s.client.byId.insert id p).lookup x).isSome = true := by
    intro x hx
    by_cases hxid : x = id
    · rw [hxid, AList.lookup_insert]
      rfl
    · rw [AList.lookup_insert_ne hxid]
      exact hx
  constructor
  · intro x q hq
    change (s.client.byId.insert id p).lookup x = some q at hq
    by_cases hxid : x = id
    · rw [hxid, AList.lookup_insert] at hq
      rw [hxid, ← Option.some.inj hq, hid]
    · rw [AList.lookup_insert_ne hxid] at hq
      exact h.keyed x q hq
  · exact h.rows
  · intro x hx
    cases mem_addDirty.mp hx with
    | inl hx => exact hsome x (h.known x hx)
    | inr hx =>
      change ((s.client.byId.insert id p).lookup x).isSome = true
      rw [hx, AList.lookup_insert]
      rfl
  · intro f hf
    exact ⟨(h.carried f hf).1, fun x hx ↦ hsome x ((h.carried f hf).2 x hx)⟩
  · intro x q hq hdirty
    have hxid : x ≠ id := fun heq ↦ hdirty (mem_addDirty.mpr (.inr heq))
    change (s.client.byId.insert id p).lookup x = some q at hq
    rw [AList.lookup_insert_ne hxid] at hq
    exact h.clean x q hq (fun hmem ↦ hdirty (mem_addDirty.mpr (.inl hmem)))
  · exact fun _ ↦ .inl rfl
  · exact h.loads

private theorem Inv.markMoved (h : Inv s) (id : String) (x y : C) (userPinned : Option Bool) :
    Inv { s with client := s.client.markMoved id x y userPinned } := by
  unfold LayoutStore.markMoved
  cases hcur : s.client.byId.lookup id with
  | none => exact h.touch rfl
  | some cur => exact h.touch (h.keyed id cur hcur)

private theorem Inv.setPinned (h : Inv s) (id : String) (pinned : Bool) :
    Inv { s with client := s.client.setPinned id pinned } := by
  unfold LayoutStore.setPinned
  cases hcur : s.client.byId.lookup id with
  | none => exact h
  | some cur => exact h.touch (h.keyed id cur hcur)

/-- The payload exists, and has one item for each id. -/
theorem mapM_payload {byId : Rows C} (ids : List String)
    (h : ∀ id ∈ ids, (byId.lookup id).isSome = true) :
    ∃ ps, ids.mapM (fun id ↦ (byId.lookup id).map LayoutStore.payloadItem) = some ps ∧
      (∀ q ∈ ps, ∃ id ∈ ids, ∃ p, byId.lookup id = some p ∧ q = LayoutStore.payloadItem p) ∧
      ∀ id ∈ ids, ∀ p, byId.lookup id = some p → LayoutStore.payloadItem p ∈ ps := by
  induction ids with
  | nil =>
    refine ⟨[], rfl, ?_, ?_⟩
    · intro q hq
      cases hq
    · intro id hid
      cases hid
  | cons id ids ih =>
    have ⟨p, hp⟩ := Option.isSome_iff_exists.mp (h id List.mem_cons_self)
    have ⟨ps, hps, hitems, hall⟩ := ih (fun x hx ↦ h x (List.mem_cons_of_mem id hx))
    refine ⟨LayoutStore.payloadItem p :: ps, ?_, ?_, ?_⟩
    · rw [List.mapM_cons, hps, hp]
      rfl
    · intro q hq
      cases List.mem_cons.mp hq with
      | inl heq => exact ⟨id, List.mem_cons_self, p, hp, heq⟩
      | inr hmem =>
        have ⟨x, hx, p', hp', hq'⟩ := hitems q hmem
        exact ⟨x, List.mem_cons_of_mem id hx, p', hp', hq'⟩
    · intro x hx p' hp'
      cases List.mem_cons.mp hx with
      | inl heq =>
        rw [heq, hp] at hp'
        rw [← Option.some.inj hp']
        exact List.mem_cons_self
      | inr hmem => exact List.mem_cons_of_mem _ (hall x hmem p' hp')

private theorem Inv.flushNow (h : Inv s) : Inv s.flushNow := by
  unfold Net.flushNow
  split
  · exact h
  · next hdirty =>
    have ⟨ps, hps, hitems, hall⟩ := mapM_payload s.client.dirty h.known
    have hpayload : s.client.payload = some ps := hps
    rw [hpayload]
    have hown : ∀ q ∈ ps, q.id ∈ s.client.dirty := by
      intro q hq
      have ⟨id, hid, p, hp, heq⟩ := hitems q hq
      rw [heq]
      change p.id ∈ s.client.dirty
      rw [h.keyed id p hp]
      exact hid
    constructor
    · exact h.keyed
    · exact h.rows
    · exact fun id hid ↦ by cases hid
    · intro f hf
      cases List.mem_append.mp hf with
      | inl hf => exact h.carried f hf
      | inr hf =>
        rw [List.mem_singleton.mp hf]
        exact ⟨hown, h.known⟩
    · intro id p hp _
      have hid : p.id = id := h.keyed id p hp
      -- items of the id are those of its position
      have hsame : ∀ q ∈ ps, q.id = p.id → q.x = p.x ∧ q.y = p.y ∧ q.userPinned = p.userPinned := by
        intro q hq hqid
        have ⟨id', _, p', hp', heq⟩ := hitems q hq
        have hid' : p'.id = id' := h.keyed id' p' hp'
        rw [heq] at hqid ⊢
        change p'.id = p.id at hqid
        rw [← hid', hqid, hid, hp] at hp'
        rw [Option.some.inj hp']
        exact ⟨rfl, rfl, rfl⟩
      have hnew : ahead s.backend.rows (s.flights ++ [{ ids := s.client.dirty, positions := ps }]) =
          ps.foldl upsert (ahead s.backend.rows s.flights) := ahead_append _ _ _
      dsimp only
      rw [hnew, ← hid]
      by_cases hmem : id ∈ s.client.dirty
      · right
        exact agrees_foldl_upsert hsame (.inl ⟨_, hall id hmem p hp, rfl⟩)
      · cases h.clean id p hp hmem with
        | inl hlost =>
          have ⟨f, hf, hphase, hfid⟩ := hlost
          exact .inl ⟨f, List.mem_append_left _ hf, hphase, hid ▸ hfid⟩
        | inr hagrees => exact .inr (agrees_foldl_upsert hsame (.inr (hid ▸ hagrees)))
    · exact fun hne ↦ absurd rfl hne
    · exact h.loads

private theorem dirty_flushNow (s : Net C) : s.flushNow.client.dirty = [] := by
  unfold Net.flushNow
  split
  · assumption
  · split
    · rfl
    · rfl

/-- A flush does not look at the timer. -/
theorem flushNow_timer (s : Net C) (timer : Bool) :
    Net.flushNow { s with client := { s.client with timer := timer } } =
      { s.flushNow with client := { s.flushNow.client with timer := timer } } := by
  have hpayload : LayoutStore.payload { s.client with timer := timer } = s.client.payload := rfl
  unfold Net.flushNow
  rw [hpayload]
  split
  · rfl
  · split
    · rfl
    · rfl

/-- The timer may stop, since it flushes. -/
theorem Inv.timerFired (h : Inv s) :
    Inv (Net.flushNow { s with client := { s.client with timer := false } }) := by
  rw [flushNow_timer]
  exact { h.flushNow with timer := fun hdirty ↦ absurd (dirty_flushNow s) hdirty }

end Client

section Requests

variable {s : Net C} {i : Nat} {f : Flight C}

/-- The request at a position splits the requests, and those of a set or an erase. -/
theorem split_flights {flights : List (Flight C)} (hi : flights[i]? = some f) (g : Flight C) :
    flights = flights.take i ++ f :: flights.drop (i + 1) ∧
      flights.set i g = flights.take i ++ g :: flights.drop (i + 1) ∧
      flights.eraseIdx i = flights.take i ++ flights.drop (i + 1) := by
  have ⟨hlt, hget⟩ := List.getElem?_eq_some_iff.mp hi
  constructor
  · rw [← hget, ← List.drop_eq_getElem_cons hlt, List.take_append_drop]
  constructor
  · exact List.set_eq_take_append_cons_drop.trans (if_pos hlt)
  · exact List.eraseIdx_eq_take_drop_succ flights i

/-- Other requests stay where one is changed or removed. -/
theorem others_stay {flights : List (Flight C)} (hi : flights[i]? = some f) (x : Flight C) {g : Flight C}
    (hg : g ∈ flights) (hne : g ≠ f) : g ∈ flights.set i x ∧ g ∈ flights.eraseIdx i := by
  have ⟨hsplit, hset, herase⟩ := split_flights hi x
  rw [hsplit] at hg
  rw [hset, herase]
  cases List.mem_append.mp hg with
  | inl hg => exact ⟨List.mem_append_left _ hg, List.mem_append_left _ hg⟩
  | inr hg =>
    have hg := (List.mem_cons.mp hg).resolve_left hne
    exact ⟨List.mem_append_right _ (List.mem_cons_of_mem x hg), List.mem_append_right _ hg⟩

/-- A request that the backend has answered changes no row any more. -/
theorem ahead_of_answered {rows : Rows C} {before after : List (Flight C)} (h : f.phase ≠ .sent) :
    ahead rows (before ++ f :: after) = ahead rows (before ++ after) := by
  rw [ahead_append, ahead_append]
  change ahead (arrive (ahead rows before) f) after = ahead (ahead rows before) after
  unfold arrive
  rw [if_neg h]

/-- Serving a request in its turn is what the rows ahead have counted on. -/
theorem Inv.serve (h : Inv s) (hi : s.flights[i]? = some f) (hphase : f.phase = .sent)
    (hturn : ∀ g ∈ s.flights.take i, g.phase ≠ .sent) :
    Inv { s with
      backend := s.backend.patch f.positions
      flights := s.flights.set i { f with phase := .stored } } := by
  have ⟨hsplit, hset, _⟩ := split_flights hi { f with phase := .stored }
  have hrows : (s.backend.patch f.positions).rows = f.positions.foldl upsert s.backend.rows := by
    unfold Backend.patch
    split
    · next hnil =>
      rw [hnil]
      rfl
    · rfl
  have hahead : ahead (s.backend.patch f.positions).rows
      (s.flights.set i { f with phase := .stored }) = ahead s.backend.rows s.flights := by
    rw [hset, ahead_of_answered (by simp), ahead_append, ahead_of_served hturn, hrows]
    conv_rhs => rw [hsplit, ahead_append, ahead_of_served hturn]
    change _ = ahead (arrive s.backend.rows f) _
    unfold arrive
    rw [if_pos hphase]
  constructor
  · exact h.keyed
  · change Keyed (s.backend.patch f.positions).rows
    rw [hrows]
    exact h.rows.foldl_upsert f.positions
  · exact h.known
  · intro g hg
    cases List.mem_or_eq_of_mem_set hg with
    | inl hmem => exact h.carried g hmem
    | inr heq =>
      rw [heq]
      exact h.carried f (List.mem_of_getElem? hi)
  · intro id p hp hdirty
    cases h.clean id p hp hdirty with
    | inr hagrees => exact .inr (hahead ▸ hagrees)
    | inl hlost =>
      have ⟨g, hg, hgphase, hgid⟩ := hlost
      have hgf : g ≠ f := by
        intro heq
        rw [heq, hphase] at hgphase
        cases hgphase
      exact .inl ⟨g, (others_stay hi _ hg hgf).1, hgphase, hgid⟩
  · exact h.timer
  · exact h.loads

/-- A lost request leaves the rows of other ids as they would be. -/
theorem Inv.lose (h : Inv s) (hi : s.flights[i]? = some f) (hphase : f.phase = .sent) :
    Inv { s with flights := s.flights.set i { f with phase := .lost } } := by
  have ⟨hsplit, hset, _⟩ := split_flights hi { f with phase := .lost }
  have hf : f ∈ s.flights := List.mem_of_getElem? hi
  constructor
  · exact h.keyed
  · exact h.rows
  · exact h.known
  · intro g hg
    cases List.mem_or_eq_of_mem_set hg with
    | inl hmem => exact h.carried g hmem
    | inr heq =>
      rw [heq]
      exact h.carried f hf
  · intro id p hp hdirty
    dsimp only
    by_cases hid : id ∈ f.ids
    · left
      refine ⟨{ f with phase := .lost }, ?_, rfl, hid⟩
      rw [hset]
      simp
    · cases h.clean id p hp hdirty with
      | inl hlost =>
        have ⟨g, hg, hgphase, hgid⟩ := hlost
        have hgf : g ≠ f := by
          intro heq
          rw [heq, hphase] at hgphase
          cases hgphase
        exact .inl ⟨g, (others_stay hi _ hg hgf).1, hgphase, hgid⟩
      | inr hagrees =>
        right
        rw [hsplit, ahead_append] at hagrees
        rw [hset, ahead_of_answered (by simp), ahead_append]
        have hne : ∀ q ∈ f.positions, id ≠ q.id :=
          fun q hq heq ↦ hid (heq ▸ (h.carried f hf).1 q hq)
        change Agrees ((ahead (arrive (ahead s.backend.rows (s.flights.take i)) f) _).lookup id) p
          at hagrees
        rw [lookup_ahead_congr _ (lookup_arrive_of_notMem hne)] at hagrees
        exact hagrees
  · exact h.timer
  · exact h.loads

private theorem Inv.succeed (h : Inv s) (hi : s.flights[i]? = some f) (hphase : f.phase = .stored) :
    Inv { s with flights := s.flights.eraseIdx i } := by
  have ⟨hsplit, _, herase⟩ := split_flights hi f
  have hne : f.phase ≠ .sent := by simp [hphase]
  constructor
  · exact h.keyed
  · exact h.rows
  · exact h.known
  · exact fun g hg ↦ h.carried g (List.mem_of_mem_eraseIdx hg)
  · intro id p hp hdirty
    dsimp only
    cases h.clean id p hp hdirty with
    | inr hagrees =>
      rw [hsplit, ahead_of_answered hne] at hagrees
      rw [herase]
      exact .inr hagrees
    | inl hlost =>
      have ⟨g, hg, hgphase, hgid⟩ := hlost
      have hgf : g ≠ f := by
        intro heq
        rw [heq, hphase] at hgphase
        cases hgphase
      exact .inl ⟨g, (others_stay hi f hg hgf).2, hgphase, hgid⟩
  · exact h.timer
  · exact h.loads

/-- The ids of a request that failed are dirty again. -/
theorem Inv.fail (h : Inv s) (hi : s.flights[i]? = some f) (hphase : f.phase ≠ .sent)
    (message : String) :
    Inv { s with client := s.client.restore f.ids message, flights := s.flights.eraseIdx i } := by
  have ⟨hsplit, _, herase⟩ := split_flights hi f
  constructor
  · exact h.keyed
  · exact h.rows
  · intro id hid
    cases mem_foldl_addDirty.mp hid with
    | inl hid => exact h.known id hid
    | inr hid => exact (h.carried f (List.mem_of_getElem? hi)).2 id hid
  · exact fun g hg ↦ h.carried g (List.mem_of_mem_eraseIdx hg)
  · intro id p hp hdirty
    have hclean : id ∉ s.client.dirty := fun hid ↦ hdirty (mem_foldl_addDirty.mpr (.inl hid))
    have hids : id ∉ f.ids := fun hid ↦ hdirty (mem_foldl_addDirty.mpr (.inr hid))
    dsimp only
    cases h.clean id p hp hclean with
    | inr hagrees =>
      rw [hsplit, ahead_of_answered hphase] at hagrees
      rw [herase]
      exact .inr hagrees
    | inl hlost =>
      have ⟨g, hg, hgphase, hgid⟩ := hlost
      have hgf : g ≠ f := fun heq ↦ hids (heq ▸ hgid)
      exact .inl ⟨g, (others_stay hi f hg hgf).2, hgphase, hgid⟩
  · exact fun _ ↦ .inr (Option.some_ne_none message)
  · exact h.loads

end Requests

/-! ### Loads -/

/-- A loaded position is that of its row, and ids without a row keep theirs. -/
theorem lookup_hydrated {rows : Rows C} (hrows : Keyed rows) (st : LayoutStore C) (id : String) :
    (st.hydrated rows).byId.lookup id = (rows.lookup id).or (st.byId.lookup id) := by
  unfold LayoutStore.hydrated
  dsimp only
  rw [Dict.lookup_foldl_insert (fun e : (_ : String) × LayoutPosition C ↦ e.2.id) (fun e ↦ e.2)]
  cases hfind : rows.entries.reverse.find? (fun e ↦ e.2.id = id) with
  | some e =>
    have hmem : rows.lookup e.1 = some e.2 :=
      AList.mem_lookup_iff.mpr (List.mem_reverse.mp (List.mem_of_find?_eq_some hfind))
    have hid : e.2.id = id := by simpa using List.find?_some hfind
    rw [← hid, hrows e.1 e.2 hmem, hmem]
    rfl
  | none =>
    cases hrow : rows.lookup id with
    | none => rfl
    | some p =>
      have hmem : ⟨id, p⟩ ∈ rows.entries := AList.mem_lookup_iff.mp hrow
      have hne := List.find?_eq_none.mp hfind ⟨id, p⟩ (List.mem_reverse.mpr hmem)
      exact absurd (hrows id p hrow) (by simpa using hne)

/-- The call clears the error, so what is dirty must have its timer. -/
theorem Inv.hydrate {s : Net C} (h : Inv s) (htimer : s.client.dirty ≠ [] → s.client.timer = true) :
    Inv { s with client := s.client.hydrate, loads := s.loads ++ [none] } := by
  refine { h with timer := fun hdirty ↦ .inl (htimer hdirty), loads := ?_ }
  intro rows hrows
  cases List.mem_append.mp hrows with
  | inl hrows => exact h.loads rows hrows
  | inr hrows => cases List.mem_singleton.mp hrows

private theorem Inv.serveLoad {s : Net C} (h : Inv s) (i : Nat) :
    Inv { s with loads := s.loads.set i (some s.backend.rows) } := by
  refine { h with loads := ?_ }
  intro rows hrows
  cases List.mem_or_eq_of_mem_set hrows with
  | inl hrows => exact h.loads rows hrows
  | inr hrows => exact Option.some.inj hrows ▸ h.rows

/-- Rows that are still stored, and that no unanswered request will change, replace positions. -/
theorem Inv.hydrated {s : Net C} (h : Inv s) {i : Nat} {rows : Rows C}
    (hi : s.loads[i]? = some (some rows))
    (hstored : ∀ id p, rows.lookup id = some p → s.backend.rows.lookup id = some p ∧
      ∀ f ∈ s.flights, id ∉ f.ids) :
    Inv { s with client := s.client.hydrated rows, loads := s.loads.eraseIdx i } := by
  have hkeyed : Keyed rows := h.loads rows (List.mem_of_getElem? hi)
  have hlookup := lookup_hydrated hkeyed s.client
  have hsome : ∀ id, (s.client.byId.lookup id).isSome = true →
      ((s.client.hydrated rows).byId.lookup id).isSome = true := by
    intro id hid
    rw [hlookup, Option.isSome_or, hid, Bool.or_true]
  constructor
  · intro id p hp
    dsimp only at hp
    rw [hlookup] at hp
    cases Option.or_eq_some_iff.mp hp with
    | inl hrow => exact hkeyed id p hrow
    | inr hown => exact h.keyed id p hown.2
  · exact h.rows
  · exact fun id hid ↦ hsome id (h.known id hid)
  · exact fun f hf ↦ ⟨(h.carried f hf).1, fun id hid ↦ hsome id ((h.carried f hf).2 id hid)⟩
  · intro id p hp hdirty
    dsimp only at hp ⊢
    rw [hlookup] at hp
    cases Option.or_eq_some_iff.mp hp with
    | inl hrow =>
      have ⟨hrow, hfree⟩ := hstored id p hrow
      right
      rw [lookup_ahead_of_notMem]
      · exact ⟨p, hrow, rfl, rfl, fun _ hb ↦ hb⟩
      · intro f hf q hq heq
        exact hfree f hf (heq ▸ (h.carried f hf).1 q hq)
    | inr hown => exact h.clean id p hown.2 hdirty
  · exact h.timer
  · exact fun rows hrows ↦ h.loads rows (List.mem_of_mem_eraseIdx hrows)

private theorem Inv.hydrateFailed {s : Net C} (h : Inv s) (i : Nat) (message : String) :
    Inv { s with client := s.client.hydrateFailed message, loads := s.loads.eraseIdx i } :=
  { h with
    timer := fun _ ↦ .inr (Option.some_ne_none message)
    loads := fun rows hrows ↦ h.loads rows (List.mem_of_mem_eraseIdx hrows) }

/-! ### Runs -/

/-- Requests are served in the order of sending; a load is called while no dirty position has lost its
timer; and the rows of its answer are still stored, with no unanswered request for them. -/
def InTurn (s : Net C) : Action C → Prop
  | .serve i => ∀ g ∈ s.flights.take i, g.phase ≠ .sent
  | .hydrate => s.client.dirty ≠ [] → s.client.timer = true
  | .hydrated i => ∀ rows, s.loads[i]? = some (some rows) → ∀ id p, rows.lookup id = some p →
      s.backend.rows.lookup id = some p ∧ ∀ f ∈ s.flights, id ∉ f.ids
  | _ => True

/-- A page that is opened on stored rows; `main.ts:58–60`. -/
def opened : System (Net C) (Action C) :=
  .ofAct (fun s ↦ s.client = {} ∧ s.flights = [] ∧ s.loads = [] ∧ Keyed s.backend.rows) Net.act

private theorem inv_opened {s : Net C} (h : opened.init s) : Inv s := by
  have ⟨hclient, hflights, hloads, hrows⟩ := h
  constructor
  · intro id p hp
    rw [hclient] at hp
    cases hp
  · exact hrows
  · intro id hid
    rw [hclient] at hid
    cases hid
  · intro f hf
    rw [hflights] at hf
    cases hf
  · intro id p hp
    rw [hclient] at hp
    cases hp
  · intro hdirty
    rw [hclient] at hdirty
    exact absurd rfl hdirty
  · intro rows hrows
    rw [hloads] at hrows
    cases hrows

private theorem atFlight_eq_some {s s' : Net C} {i : Nat} {phase : Phase → Bool}
    {next : Flight C → Net C}
    (h : s.atFlight i phase next = some s') :
    ∃ f, s.flights[i]? = some f ∧ phase f.phase = true ∧ s' = next f := by
  unfold Net.atFlight at h
  cases hi : s.flights[i]? with
  | none =>
    rw [hi] at h
    cases h
  | some f =>
    rw [hi] at h
    have ⟨hphase, hs⟩ := Option.ite_none_right_eq_some.mp h
    exact ⟨f, rfl, hphase, (Option.some.inj hs).symm⟩

private theorem Inv.act {s s' : Net C} {a : Action C} (h : Inv s) (hturn : InTurn s a)
    (hs : s.act a = some s') : Inv s' := by
  cases a with
  | markMoved id x y userPinned =>
    rw [← Option.some.inj hs]
    exact h.markMoved id x y userPinned
  | setPinned id pinned =>
    rw [← Option.some.inj hs]
    exact h.setPinned id pinned
  | timer =>
    have ⟨_, heq⟩ := Option.ite_none_right_eq_some.mp hs
    rw [← Option.some.inj heq]
    exact h.timerFired
  | flushNow =>
    rw [← Option.some.inj hs]
    exact h.flushNow
  | serve i =>
    unfold Net.act at hs
    have ⟨f, hi, hphase, heq⟩ := atFlight_eq_some hs
    rw [heq]
    exact h.serve hi (of_decide_eq_true hphase) hturn
  | lose i =>
    unfold Net.act at hs
    have ⟨f, hi, hphase, heq⟩ := atFlight_eq_some hs
    rw [heq]
    exact h.lose hi (of_decide_eq_true hphase)
  | succeed i =>
    unfold Net.act at hs
    have ⟨f, hi, hphase, heq⟩ := atFlight_eq_some hs
    rw [heq]
    exact h.succeed hi (of_decide_eq_true hphase)
  | fail i message =>
    unfold Net.act at hs
    have ⟨f, hi, hphase, heq⟩ := atFlight_eq_some hs
    rw [heq]
    exact h.fail hi (of_decide_eq_true hphase) message
  | hydrate =>
    rw [← Option.some.inj hs]
    exact h.hydrate hturn
  | serveLoad i =>
    simp only [Net.act] at hs
    split at hs
    · rw [← Option.some.inj hs]
      exact h.serveLoad i
    · cases hs
  | hydrated i =>
    simp only [Net.act] at hs
    split at hs
    · next rows hi =>
      rw [← Option.some.inj hs]
      exact h.hydrated hi (hturn rows hi)
    · cases hs
  | hydrateFailed i message =>
    simp only [Net.act] at hs
    split at hs
    · rw [← Option.some.inj hs]
      exact h.hydrateFailed i message
    · cases hs

/-- In every run, a flush finds a position for each dirty id, what is dirty has a timer or the error of
a failed request, and a position that is neither dirty nor in an unanswered request is stored. -/
theorem positions_saved {s : Net C} (h : (opened.restrict InTurn).Reachable s) :
    s.client.payload.isSome = true ∧
      (s.client.dirty ≠ [] → s.client.timer = true ∨ s.client.error ≠ none) ∧
      ∀ id p, s.client.byId.lookup id = some p → id ∉ s.client.dirty →
        (∀ f ∈ s.flights, id ∉ f.ids) → Agrees (s.backend.rows.lookup id) p := by
  have hinv : Inv s := by
    apply h.invariant
    · exact fun s hinit ↦ inv_opened hinit
    · exact fun s a s' hi hs ↦ hi.act hs.1 hs.2
  constructor
  · have ⟨ps, hps, _⟩ := mapM_payload s.client.dirty hinv.known
    exact Option.isSome_iff_exists.mpr ⟨ps, hps⟩
  constructor
  · exact hinv.timer
  · intro id p hp hdirty hwaiting
    cases hinv.clean id p hp hdirty with
    | inl hlost =>
      have ⟨f, hf, _, hid⟩ := hlost
      exact absurd hid (hwaiting f hf)
    | inr hagrees =>
      rw [lookup_ahead_of_notMem] at hagrees
      · exact hagrees
      · exact fun f hf q hq heq ↦ hwaiting f hf (heq ▸ (hinv.carried f hf).1 q hq)

/-- A load is called, a node without a row is moved, and its request is served before the answer of the
load, which brings the row of another node. -/
theorem positions_saved_moved :
    ∃ s : Net Nat, s.client.dirty = [] ∧ s.flights = [] ∧ s.loads = [] ∧
      Agrees (s.backend.rows.lookup "olt") { id := "olt", x := 3, y := 4, userPinned := some true } ∧
        Agrees (s.backend.rows.lookup "odf") { id := "odf", x := 1, y := 2 } := by
  have hrow : ∀ id p, ((∅ : Rows Nat).insert "odf" { id := "odf", x := 1, y := 2 }).lookup id =
      some p → id = "odf" ∧ p = { id := "odf", x := 1, y := 2 } := by
    intro id p hp
    by_cases hid : id = "odf"
    · rw [hid, AList.lookup_insert] at hp
      exact ⟨hid, (Option.some.inj hp).symm⟩
    · rw [AList.lookup_insert_ne hid] at hp
      cases hp
  have hstart : (opened.restrict InTurn).Reachable
      ({ backend := { rows := (∅ : Rows Nat).insert "odf" { id := "odf", x := 1, y := 2 } } } : Net Nat) :=
    .init ⟨rfl, rfl, rfl, fun id p hp ↦ by rw [(hrow id p hp).1, (hrow id p hp).2]⟩
  have hcalled := hstart.step (a := Action.hydrate) ⟨fun hne ↦ absurd rfl hne, rfl⟩
  have hread := hcalled.step (a := Action.serveLoad 0) ⟨trivial, rfl⟩
  have hmoved := hread.step (a := Action.markMoved "olt" 3 4 (some true)) ⟨trivial, rfl⟩
  have hsent := hmoved.step (a := Action.timer) ⟨trivial, rfl⟩
  have hserved := hsent.step (a := Action.serve 0) ⟨fun g hg ↦ (by cases hg), rfl⟩
  have hloaded := hserved.step (a := Action.hydrated 0) (by
    refine ⟨?_, rfl⟩
    intro rows hrows id p hp
    cases hrows
    have ⟨hid, hpos⟩ := hrow id p hp
    rw [hid, hpos]
    exact ⟨rfl, fun f hf ↦ by
      rw [List.mem_singleton.mp hf]
      decide⟩)
  have hdone := hloaded.step (a := Action.succeed 0) ⟨trivial, rfl⟩
  have hsaved := (positions_saved hdone).2.2
  exact ⟨_, rfl, rfl, rfl,
    hsaved "olt" _ rfl List.not_mem_nil (fun f hf ↦ absurd hf List.not_mem_nil),
    hsaved "odf" _ rfl List.not_mem_nil (fun f hf ↦ absurd hf List.not_mem_nil)⟩

end Unoc.Layout
