import Unoc.Links.Turns

/-!
# Batches and single calls

When a batch creates all of its links or none, and agrees with single calls in list order. The batch
validates every payload before it creates the first link, and its creation loop commits what it has
created when a payload fails there.
-/

namespace Unoc.Links

open Unoc.Model

variable {env : Runtime} {store store' : Store} {s : Session} {ps : List LinkCreate}

/-! ### The creation loop -/

/-- A session that is not lost in the end was not lost before. -/
theorem not_lost_of_lastSession {b : Bool} (h : (lastSession env s ps).lost = false)
    (hb : s.lost = b) : b = false := by
  cases b with
  | false => rfl
  | true => rw [lastSession_lost hb] at h; cases h

/-- What the creation loop adds to its two lists, which share out the payloads. -/
structure LoopAdds (env : Runtime) (b b' : BatchLoop) (ps : List LinkCreate) (added : List Link)
    (refused : List (String × LinkError)) : Prop where
  session : b'.session = lastSession env b.session ps
  created : b'.created = b.created ++ added
  failed : b'.failed = b.failed ++ refused
  length : added.length + refused.length = ps.length
  refused_nil : refused = [] ↔ ∀ t ∈ turns env b.session ps, Creates env t
  added_nil : added = [] ↔ ∀ t ∈ turns env b.session ps, ¬ Creates env t
  links : b'.session.lost = false → b'.session.rows.db.links = b.session.rows.db.links ++ added
  ids : b'.session.lost = false → refused = [] → added.map Link.id = ps.map LinkCreate.id

namespace LoopAdds

variable {b b' : BatchLoop} {p : LinkCreate} {m : Session} {added : List Link}
  {refused : List (String × LinkError)}

/-- A refused payload before the others. -/
theorem cons_refused {e : LinkError} (hrun : createLinkNoRecompute env p b.session = (.error e, m))
    (h : LoopAdds env ⟨m, b.created, b.failed ++ [(p.id, e)]⟩ b' ps added refused) :
    LoopAdds env b b' (p :: ps) added ((p.id, e) :: refused) where
  session := by rw [h.session, lastSession, lastSession, List.foldl_cons, hrun]
  created := h.created
  failed := by rw [h.failed, List.append_assoc, List.singleton_append]
  length := by
    have hlength := h.length
    rw [List.length_cons, List.length_cons]
    omega
  refused_nil := by simp [turns, not_creates_of_error hrun]
  added_nil := by
    rw [h.added_nil]
    simp [turns, hrun, not_creates_of_error hrun]
  links := by
    intro hlost
    rw [h.links hlost, (AddsLink.createLinkNoRecompute _).1 e m hrun]
  ids := fun _ hnil ↦ nomatch hnil

/-- A created link before the others. -/
theorem cons_added {l : Link} (hrun : createLinkNoRecompute env p b.session = (.ok l, m))
    (h : LoopAdds env ⟨m, b.created ++ [l], b.failed⟩ b' ps added refused) :
    LoopAdds env b b' (p :: ps) (l :: added) refused where
  session := by rw [h.session, lastSession, lastSession, List.foldl_cons, hrun]
  created := by rw [h.created, List.append_assoc, List.singleton_append]
  failed := h.failed
  length := by
    have hlength := h.length
    rw [List.length_cons, List.length_cons]
    omega
  refused_nil := by
    rw [h.refused_nil]
    simp [turns, hrun, creates_of_ok hrun]
  added_nil := by simp [turns, creates_of_ok hrun]
  links := by
    intro hlost
    have hmid : m.lost = false := not_lost_of_lastSession (h.session ▸ hlost) rfl
    rcases (AddsLink.createLinkNoRecompute _).2 l m hrun with hlost' | ⟨hlinks, _⟩
    · rw [hmid] at hlost'
      cases hlost'
    · rw [h.links hlost, hlinks, List.append_assoc, List.singleton_append]
  ids := by
    intro hlost hnil
    have hmid : m.lost = false := not_lost_of_lastSession (h.session ▸ hlost) rfl
    rcases (AddsLink.createLinkNoRecompute _).2 l m hrun with hlost' | ⟨_, hid⟩
    · rw [hmid] at hlost'
      cases hlost'
    · rw [List.map_cons, List.map_cons, hid, h.ids hlost hnil]

end LoopAdds

/-- The creation loop, by the payloads it is given. -/
theorem loopAdds (env : Runtime) (ps : List LinkCreate) : ∀ b : BatchLoop,
    ∃ added refused, LoopAdds env b (ps.foldl (createNext env) b) ps added refused := by
  induction ps with
  | nil =>
    intro b
    exact ⟨[], [], rfl, by simp, by simp, rfl, by simp [turns], by simp [turns], by simp, by simp⟩
  | cons p ps ih =>
    intro b
    rw [List.foldl_cons]
    rcases hrun : createLinkNoRecompute env p b.session with ⟨e | l, m⟩
    · have hnext : createNext env b p = ⟨m, b.created, b.failed ++ [(p.id, e)]⟩ := by
        simp only [createNext, hrun]
      obtain ⟨added, refused, h⟩ := ih (createNext env b p)
      rw [hnext] at h ⊢
      exact ⟨added, _, h.cons_refused hrun⟩
    · have hnext : createNext env b p = ⟨m, b.created ++ [l], b.failed⟩ := by
        simp only [createNext, hrun]
      obtain ⟨added, refused, h⟩ := ih (createNext env b p)
      rw [hnext] at h ⊢
      exact ⟨_, refused, h.cons_added hrun⟩

/-! ### Single calls -/

/-- Single calls in list order succeed where every payload is created and valid at its turn. -/
theorem createOneByOne_eq_ok (ps : List LinkCreate) : ∀ store store' : Store,
    createOneByOne env store ps = .ok store' ↔
      (∀ t ∈ turns env ⟨store, false⟩ ps, Creates env t ∧ Valid t.1.rows.db t.2) ∧
        lastSession env ⟨store, false⟩ ps = ⟨store', false⟩ := by
  induction ps with
  | nil =>
    intro store store'
    simp [createOneByOne, turns, lastSession, pure, Except.pure]
  | cons p ps ih =>
    intro store store'
    rw [createOneByOne, List.foldlM_cons, bind_eq_ok]
    constructor
    · rintro ⟨mid, hcall, hrest⟩
      obtain ⟨hvalid, l, hrun⟩ := createLinkImpl_eq_ok_iff.mp hcall
      obtain ⟨hturns, hlast⟩ := (ih mid store').mp hrest
      rw [turns, lastSession, List.foldl_cons, hrun]
      refine ⟨?_, hlast⟩
      intro t ht
      rcases List.mem_cons.mp ht with rfl | ht
      · exact ⟨creates_of_ok hrun, hvalid⟩
      · exact hturns t ht
    · rintro ⟨hturns, hlast⟩
      obtain ⟨hcreates, hvalid⟩ := hturns (⟨store, false⟩, p) List.mem_cons_self
      obtain ⟨l, m, hrun⟩ := creates_iff.mp hcreates
      rw [lastSession, List.foldl_cons, hrun] at hlast
      have hmid : m.lost = false := not_lost_of_lastSession (congrArg Session.lost hlast) rfl
      have hm : m = ⟨m.rows, false⟩ := by rw [← hmid]
      rw [hm] at hrun hlast
      refine ⟨m.rows, createLinkImpl_eq_ok_iff.mpr ⟨hvalid, l, hrun⟩,
        (ih m.rows store').mpr ⟨?_, hlast⟩⟩
      intro t ht
      apply hturns
      rw [turns, hrun]
      exact List.mem_cons_of_mem _ ht

/-! ### The batch -/

/-- Every link of the list is created. -/
def CreatesAll (store store' : Store) (ps : List LinkCreate) : Prop :=
  ∃ rows, store'.db.links = store.db.links ++ rows ∧ rows.map Link.id = ps.map LinkCreate.id

private theorem CreatesAll.length_links (h : CreatesAll store store' ps) :
    store'.db.links.length = store.db.links.length + ps.length := by
  obtain ⟨rows, hrows, hids⟩ := h
  have hlength := congrArg List.length hids
  rw [List.length_map, List.length_map] at hlength
  rw [hrows, List.length_append, hlength]

/-- The rows of links, interfaces and events are the same. -/
def Unchanged (store store' : Store) : Prop :=
  store'.db.links = store.db.links ∧ store'.db.interfaces = store.db.interfaces ∧
    store'.events = store.events

/-- A batch creates all links or changes nothing, and creates all where single calls in list order
do, with the same links. -/
structure AllOrNothing (env : Runtime) (store : Store) (ps : List LinkCreate) : Prop where
  atomic : CreatesAll store (batchCreateLinks env store ps).2 ps ∨
    Unchanged store (batchCreateLinks env store ps).2
  faithful : CreatesAll store (batchCreateLinks env store ps).2 ps ↔
    ∃ store', createOneByOne env store ps = .ok store'
  sameLinks : ∀ store', createOneByOne env store ps = .ok store' →
    CreatesAll store (batchCreateLinks env store ps).2 ps →
      (batchCreateLinks env store ps).2.db.links = store'.db.links

/-- The loop refuses no payload and breaks no constraint. -/
structure Undisturbed (env : Runtime) (store : Store) (ps : List LinkCreate) : Prop where
  creates : ∀ t ∈ turns env ⟨store, false⟩ ps, Creates env t
  free : ∀ t ∈ turns env ⟨store, false⟩ ps, ¬ Clashes env t

/-- What keeps a batch consistent. -/
structure Consistent (env : Runtime) (store : Store) (ps : List LinkCreate) : Prop where
  /-- Where phase 1 accepts all payloads, the checks of phase 2 refuse none of them or each, or the
  rows of one break a unique constraint. -/
  whole : (∀ p ∈ ps, Valid store.db p) →
    (∀ t ∈ turns env ⟨store, false⟩ ps, Creates env t) ∨
      (∀ t ∈ turns env ⟨store, false⟩ ps, ¬ Creates env t) ∨
        ∃ t ∈ turns env ⟨store, false⟩ ps, Clashes env t
  /-- An ONT that is placed, or a medium that exists, before the batch still is at its turn. -/
  still : Undisturbed env store ps → (∀ p ∈ ps, Valid store.db p) →
    ∀ t ∈ turns env ⟨store, false⟩ ps, Placed t.1.rows.db t.2
  /-- An ONT that is placed, or a medium that exists, at its turn was so before the batch. -/
  before : Undisturbed env store ps →
    (∀ t ∈ turns env ⟨store, false⟩ ps, Valid t.1.rows.db t.2) → ∀ p ∈ ps, Placed store.db p

namespace Undisturbed

variable (h : Undisturbed env store ps)

include h

private theorem not_taken {t : Session × LinkCreate} (ht : t ∈ turns env ⟨store, false⟩ ps) :
    ¬ Taken t.1.rows.db t.2 :=
  fun htaken ↦ h.free t ht (Or.inr ⟨h.creates t ht, htaken⟩)

private theorem follows {t : Session × LinkCreate} (ht : t ∈ turns env ⟨store, false⟩ ps) :
    Follows store.db t.1.rows.db :=
  follows_of_turns ps ⟨store, false⟩ rfl h.creates h.free t ht

/-- Payloads that are valid before the batch are so at their turns where they are placed there. -/
theorem valid_turns (hvalid : ∀ p ∈ ps, Valid store.db p)
    (hplaced : ∀ t ∈ turns env ⟨store, false⟩ ps, Placed t.1.rows.db t.2) :
    ∀ t ∈ turns env ⟨store, false⟩ ps, Valid t.1.rows.db t.2 := by
  intro t ht
  have hbefore : Valid store.db t.2 := forall_turns.mpr hvalid t ht
  exact hbefore.of_placed (h.follows ht).devices (h.not_taken ht) (hplaced t ht)

/-- Payloads that are valid at their turns are so before the batch where they are placed there. -/
theorem valid_before (hvalid : ∀ t ∈ turns env ⟨store, false⟩ ps, Valid t.1.rows.db t.2)
    (hplaced : ∀ p ∈ ps, Placed store.db p) : ∀ p ∈ ps, Valid store.db p := by
  have hturns : ∀ t ∈ turns env ⟨store, false⟩ ps, Valid store.db t.2 := by
    intro t ht
    refine (hvalid t ht).of_placed (fun id ↦ ((h.follows ht).devices id).symm) ?_
      (forall_turns.mpr hplaced t ht)
    exact fun htaken ↦ h.not_taken ht ((h.follows ht).taken htaken)
  exact forall_turns.mp hturns

end Undisturbed

/-- No link of a batch is invalid. -/
theorem invalidLinks_eq_nil {db : Database} :
    invalidLinks ps db = [] ↔ ∀ p ∈ ps, Valid db p := by
  rw [invalidLinks, List.filterMap_eq_nil_iff]
  refine forall₂_congr (fun p _ ↦ ?_)
  unfold Valid
  cases validateLinkCreation p db <;> simp

private theorem turns_ne_nil (hne : ps ≠ []) : turns env s ps ≠ [] := by
  cases ps with
  | nil => exact absurd rfl hne
  | cons p ps => exact List.cons_ne_nil _ _

private theorem lost_eq_false_iff : (lastSession env ⟨store, false⟩ ps).lost = false ↔
    ∀ t ∈ turns env ⟨store, false⟩ ps, ¬ Clashes env t := by
  rw [← Bool.not_eq_true, lastSession_lost_iff ps ⟨store, false⟩ rfl]
  simp only [not_exists, not_and]

/-- Single calls succeed if the loop is undisturbed and the payloads are valid at their turns. -/
theorem exists_createOneByOne : (∃ store', createOneByOne env store ps = .ok store') ↔
    Undisturbed env store ps ∧ ∀ t ∈ turns env ⟨store, false⟩ ps, Valid t.1.rows.db t.2 := by
  simp only [createOneByOne_eq_ok]
  constructor
  · rintro ⟨store', hturns, hlast⟩
    refine ⟨⟨fun t ht ↦ (hturns t ht).1, ?_⟩, fun t ht ↦ (hturns t ht).2⟩
    rw [← lost_eq_false_iff, hlast]
  · rintro ⟨hrun, hvalid⟩
    rcases hlast : lastSession env ⟨store, false⟩ ps with ⟨rows, lost⟩
    have hlost : (lastSession env ⟨store, false⟩ ps).lost = false := lost_eq_false_iff.mpr hrun.free
    rw [hlast] at hlost
    exact ⟨rows, fun t ht ↦ ⟨hrun.creates t ht, hvalid t ht⟩, by rw [← hlost]⟩

/-- A batch is committed if its payloads are valid, one is created and no constraint is broken. -/
def Commits (env : Runtime) (store : Store) (ps : List LinkCreate) : Prop :=
  (∀ p ∈ ps, Valid store.db p) ∧ ¬ (∀ t ∈ turns env ⟨store, false⟩ ps, ¬ Creates env t) ∧
    (lastSession env ⟨store, false⟩ ps).lost = false

private theorem commits_iff : Commits env store ps ↔ (∀ p ∈ ps, Valid store.db p) ∧
    ¬ (∀ t ∈ turns env ⟨store, false⟩ ps, ¬ Creates env t) ∧
      ∀ t ∈ turns env ⟨store, false⟩ ps, ¬ Clashes env t := by
  rw [Commits, lost_eq_false_iff]

section

variable (hne : ps ≠ []) (hlength : ps.length ≤ 1000)

include hne hlength

private theorem batchCreateLinks_of_commits (h : Commits env store ps) :
    (batchCreateLinks env store ps).2 = (lastSession env ⟨store, false⟩ ps).rows := by
  obtain ⟨added, refused, hloop⟩ := loopAdds env ps ⟨⟨store, false⟩, [], []⟩
  obtain ⟨hvalid, hsome, hlost⟩ := h
  have hcreated : (createAll env store ps).created ≠ [] := by
    rw [createAll, hloop.created, List.nil_append]
    exact fun hnil ↦ hsome (hloop.added_nil.mp hnil)
  have hsession : (createAll env store ps).session = lastSession env ⟨store, false⟩ ps :=
    hloop.session
  simp only [batchCreateLinks, hne, hlength.not_gt, invalidLinks_eq_nil.mpr hvalid, hcreated,
    hsession, hlost, if_false, ne_eq, not_true_eq_false, Bool.false_eq_true]

private theorem batchCreateLinks_of_not_commits (h : ¬ Commits env store ps) :
    (batchCreateLinks env store ps).2 = store := by
  obtain ⟨added, refused, hloop⟩ := loopAdds env ps ⟨⟨store, false⟩, [], []⟩
  simp only [batchCreateLinks, hne, hlength.not_gt, if_false]
  split
  · rfl
  · next hvalid =>
    split
    · rfl
    · next hcreated =>
      split
      · rfl
      · next hlost =>
        refine absurd ⟨invalidLinks_eq_nil.mp (not_not.mp hvalid), ?_, ?_⟩ h
        · intro hnone
          apply hcreated
          rw [createAll, hloop.created, List.nil_append]
          exact hloop.added_nil.mpr hnone
        · rw [← hloop.session]
          exact Bool.eq_false_iff.mpr hlost

/-- All links are created if the batch is committed and creation refuses none. -/
theorem createsAll_iff : CreatesAll store (batchCreateLinks env store ps).2 ps ↔
    Commits env store ps ∧ ∀ t ∈ turns env ⟨store, false⟩ ps, Creates env t := by
  obtain ⟨added, refused, hloop⟩ := loopAdds env ps ⟨⟨store, false⟩, [], []⟩
  by_cases hcommits : Commits env store ps
  · have hlost : (createAll env store ps).session.lost = false := by
      rw [createAll, hloop.session]
      exact hcommits.2.2
    have hlinks : (batchCreateLinks env store ps).2.db.links = store.db.links ++ added := by
      rw [batchCreateLinks_of_commits hne hlength hcommits, ← hloop.session]
      exact hloop.links hlost
    constructor
    · intro hall
      refine ⟨hcommits, hloop.refused_nil.mp (List.length_eq_zero_iff.mp ?_)⟩
      have hcount := hall.length_links
      have hshare := hloop.length
      rw [hlinks, List.length_append] at hcount
      omega
    · rintro ⟨_, hall⟩
      exact ⟨added, hlinks, hloop.ids hlost (hloop.refused_nil.mpr hall)⟩
  · rw [batchCreateLinks_of_not_commits hne hlength hcommits]
    refine iff_of_false (fun hall ↦ hne (List.length_eq_zero_iff.mp ?_)) (fun h ↦ hcommits h.1)
    have hcount := hall.length_links
    omega

/-- The rows are the same unless the batch is committed. -/
theorem unchanged_iff : Unchanged store (batchCreateLinks env store ps).2 ↔
    ¬ Commits env store ps := by
  obtain ⟨added, refused, hloop⟩ := loopAdds env ps ⟨⟨store, false⟩, [], []⟩
  constructor
  · rintro ⟨hsame, _, _⟩ hcommits
    have hlinks := hloop.links (by rw [hloop.session]; exact hcommits.2.2)
    rw [hloop.session] at hlinks
    rw [batchCreateLinks_of_commits hne hlength hcommits, hlinks] at hsame
    exact hcommits.2.1 (hloop.added_nil.mp (List.append_right_eq_self.mp hsame))
  · intro hcommits
    rw [batchCreateLinks_of_not_commits hne hlength hcommits]
    exact ⟨rfl, rfl, rfl⟩

/-- A batch creates all links or none where the checks of phase 2 do not divide its payloads. -/
theorem atomic_iff : CreatesAll store (batchCreateLinks env store ps).2 ps ∨
    Unchanged store (batchCreateLinks env store ps).2 ↔
      ((∀ p ∈ ps, Valid store.db p) →
        (∀ t ∈ turns env ⟨store, false⟩ ps, Creates env t) ∨
          (∀ t ∈ turns env ⟨store, false⟩ ps, ¬ Creates env t) ∨
            ∃ t ∈ turns env ⟨store, false⟩ ps, Clashes env t) := by
  rw [createsAll_iff hne hlength, unchanged_iff hne hlength, commits_iff]
  constructor
  · rintro (⟨_, hall⟩ | hnot) hvalid
    · exact Or.inl hall
    · by_cases hnone : ∀ t ∈ turns env ⟨store, false⟩ ps, ¬ Creates env t
      · exact Or.inr (Or.inl hnone)
      · by_contra hfree
        refine hnot ⟨hvalid, hnone, fun t ht hclash ↦ hfree ?_⟩
        exact Or.inr (Or.inr ⟨t, ht, hclash⟩)
  · intro hwhole
    by_cases hcommit : Commits env store ps
    · obtain ⟨hvalid, hsome, hfree⟩ := commits_iff.mp hcommit
      refine Or.inl ⟨⟨hvalid, hsome, hfree⟩, ?_⟩
      rcases hwhole hvalid with hall | hnone | ⟨t, ht, hclash⟩
      · exact hall
      · exact absurd hnone hsome
      · exact absurd hclash (hfree t ht)
    · exact Or.inr (fun h ↦ hcommit (commits_iff.mpr h))

/-- In an undisturbed loop, all links are created if phase 1 accepts them. -/
theorem createsAll_iff_undisturbed : CreatesAll store (batchCreateLinks env store ps).2 ps ↔
    Undisturbed env store ps ∧ ∀ p ∈ ps, Valid store.db p := by
  rw [createsAll_iff hne hlength, commits_iff]
  constructor
  · rintro ⟨⟨hvalid, _, hfree⟩, hall⟩
    exact ⟨⟨hall, hfree⟩, hvalid⟩
  · rintro ⟨hrun, hvalid⟩
    refine ⟨⟨hvalid, ?_, hrun.free⟩, hrun.creates⟩
    intro hnone
    obtain ⟨t, ht⟩ := List.exists_mem_of_ne_nil _ (turns_ne_nil hne)
    exact hnone t ht (hrun.creates t ht)

/-- A batch of payloads is all or nothing, and faithful to single calls, where it is consistent. -/
theorem allOrNothing_iff_consistent :
    AllOrNothing env store ps ↔ Consistent env store ps := by
  constructor
  · intro h
    have hfaithful := h.faithful
    rw [createsAll_iff_undisturbed hne hlength, exists_createOneByOne] at hfaithful
    refine ⟨(atomic_iff hne hlength).mp h.atomic, ?_, ?_⟩
    · intro hrun hvalid t ht
      obtain ⟨_, hturns⟩ := hfaithful.mp ⟨hrun, hvalid⟩
      exact (hturns t ht).placed
    · intro hrun hturns p hp
      obtain ⟨_, hvalid⟩ := hfaithful.mpr ⟨hrun, hturns⟩
      exact (hvalid p hp).placed
  · intro h
    refine ⟨(atomic_iff hne hlength).mpr h.whole, ?_, ?_⟩
    · rw [createsAll_iff_undisturbed hne hlength, exists_createOneByOne]
      refine and_congr_right (fun hrun ↦ ⟨fun hvalid ↦ ?_, fun hturns ↦ ?_⟩)
      · exact hrun.valid_turns hvalid (h.still hrun hvalid)
      · exact hrun.valid_before hturns (h.before hrun hturns)
    · intro store' hone hall
      obtain ⟨hcommit, _⟩ := (createsAll_iff hne hlength).mp hall
      rw [batchCreateLinks_of_commits hne hlength hcommit,
        ((createOneByOne_eq_ok ps store store').mp hone).2]

end

/-- The links from the OLT to the splitter. -/
def feederLinks : List LinkCreate :=
  [linkRequest "olt-if0" "odf-if0", linkRequest "odf-if0" "split-in"]

/-- A batch that creates both links, as two calls do. -/
theorem allOrNothing_feederLinks : AllOrNothing constantRuntime accessNetwork feederLinks ∧
    Consistent constantRuntime accessNetwork feederLinks := by
  have hall : CreatesAll accessNetwork (batchCreateLinks constantRuntime accessNetwork feederLinks).2
      feederLinks := ⟨_, (List.nil_append _).symm, by decide +kernel⟩
  have hone : (createOneByOne constantRuntime accessNetwork feederLinks).toOption.any (fun store' ↦
      (batchCreateLinks constantRuntime accessNetwork feederLinks).2.db.links =
        store'.db.links) = true := by
    decide +kernel
  obtain ⟨single, hsingle, hlinks⟩ := (Option.any_eq_true _ _).mp hone
  have hcalls := toOption_eq_some.mp hsingle
  have h : AllOrNothing constantRuntime accessNetwork feederLinks := by
    refine ⟨Or.inl hall, iff_of_true hall ⟨single, hcalls⟩, ?_⟩
    intro store' hstore' _
    rw [hcalls, Except.ok.injEq] at hstore'
    rw [← hstore']
    exact of_decide_eq_true hlinks
  exact ⟨h, (allOrNothing_iff_consistent (by decide) (by decide)).mp h⟩

/-- The network once the splitter has an OLT. -/
def anchoredNetwork : Store := (batchCreateLinks constantRuntime accessNetwork feederLinks).2

/-- A feeder whose second link has an id that is not canonical. -/
def misnamedLinks : List LinkCreate :=
  [linkRequest "olt-if0" "odf-if0", { linkRequest "odf-if0" "split-in" with id := "feeder" }]

/-- The feeder with an ONT below the splitter. -/
def servedLinks : List LinkCreate := feederLinks ++ [linkRequest "split-out1" "ont1-if0"]

/-- Two ONTs at one OUT port. -/
def crowdedLinks : List LinkCreate :=
  [linkRequest "split-out1" "ont1-if0", linkRequest "split-out1" "ont2-if0"]

/-- A payload whose id is not canonical is refused in the loop, and the other one is kept. An ONT is
refused in the batch that anchors its splitter. Two ONTs are accepted at one OUT port. -/
theorem allOrNothing_fails :
    ¬ AllOrNothing constantRuntime accessNetwork misnamedLinks ∧
      ¬ AllOrNothing constantRuntime accessNetwork servedLinks ∧
        ¬ AllOrNothing constantRuntime anchoredNetwork crowdedLinks := by
  refine ⟨?_, ?_, ?_⟩
  · intro h
    have hcount : (batchCreateLinks constantRuntime accessNetwork
        misnamedLinks).2.db.links.length = 1 := by
      decide +kernel
    rcases h.atomic with hall | ⟨hsame, _⟩
    · exact absurd (hall.length_links.symm.trans hcount) (by decide)
    · rw [hsame] at hcount
      cases hcount
  · intro h
    have hone : (createOneByOne constantRuntime accessNetwork servedLinks).toOption.isSome = true := by
      decide +kernel
    obtain ⟨store', hstore'⟩ := Option.isSome_iff_exists.mp hone
    have hall := h.faithful.mpr ⟨store', toOption_eq_some.mp hstore'⟩
    have hcount : (batchCreateLinks constantRuntime accessNetwork
        servedLinks).2.db.links.length = 0 := by
      decide +kernel
    exact absurd (hall.length_links.symm.trans hcount) (by decide)
  · intro h
    have hcount : (batchCreateLinks constantRuntime anchoredNetwork
        crowdedLinks).2.db.links.length = anchoredNetwork.db.links.length + 2 := by
      decide +kernel
    have hone : (createOneByOne constantRuntime anchoredNetwork crowdedLinks).toOption.isNone = true := by
      decide +kernel
    rcases h.atomic with hall | ⟨hsame, _⟩
    · obtain ⟨store', hstore'⟩ := h.faithful.mp hall
      rw [toOption_eq_some.mpr hstore'] at hone
      cases hone
    · rw [hsame] at hcount
      omega

end Unoc.Links
