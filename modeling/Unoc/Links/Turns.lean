import Unoc.Links.Batch

/-!
# The turns of a batch

The states in which the creation loop of a batch meets its payloads, and what it asks of each: the
checks of `_create_link_no_recompute`, and rows that break no unique constraint. Of what phase 1
checks, only the placement of an ONT and the medium may change from turn to turn.
-/

namespace Unoc.Links

open Unoc.Model
open Unoc.EventStore (AppendCall DomainEventType)

variable {env : Runtime} {s s' m : Session} {p : LinkCreate} {ps : List LinkCreate}

/-- Every payload with the session that the creation loop meets it in. -/
def turns (env : Runtime) : Session → List LinkCreate → List (Session × LinkCreate)
  | _, [] => []
  | s, p :: ps => (s, p) :: turns env (createLinkNoRecompute env p s).2 ps

/-- The session after every payload had its turn. -/
def lastSession (env : Runtime) (s : Session) (ps : List LinkCreate) : Session :=
  ps.foldl (fun s p ↦ (createLinkNoRecompute env p s).2) s

private theorem map_snd_turns (ps : List LinkCreate) : ∀ s, (turns env s ps).map Prod.snd = ps := by
  induction ps with
  | nil => exact fun _ ↦ rfl
  | cons p ps ih =>
    intro s
    rw [turns, List.map_cons, ih]

/-- The turns are those of the requests. -/
theorem forall_turns {P : LinkCreate → Prop} : (∀ t ∈ turns env s ps, P t.2) ↔ ∀ p ∈ ps, P p := by
  have hmap : (turns env s ps).map Prod.snd = ps := map_snd_turns ps s
  conv_rhs => rw [← hmap]
  simp only [List.forall_mem_map]

/-! ### Checks of creation -/

/-- What `_create_link_no_recompute` checks. The session is `m` once the interfaces are opened, and
`m'` once the medium is selected; `links_batch.py:306–362`. -/
structure CreationChecks (env : Runtime) (p : LinkCreate) (s m m' : Session) (aDev bDev : Device)
    (aIf bIf : Interface) (selected : Option Int) : Prop where
  usable : s.lost = false
  aDevice : deviceFor s.rows.db p.aInterfaceId = some aDev
  bDevice : deviceFor s.rows.db p.bInterfaceId = some bDev
  opened : openInterfaces p "Interface creation failed" s = (.ok (aIf, bIf), m)
  canonical : hasCanonicalId p = true
  unbroken : m.lost = false
  pon : enforcePonRoleIfDeclared m.rows.db aDev bDev aIf bIf = .ok ()
  upstream : enforceSingleUpstreamRules m.rows.db aDev bDev = .ok ()
  selects : selectMedium env p aDev bDev m = (.ok selected, m')
  medium : checkMedium batchDetails p (classify aDev.type bDev.type) selected m'.rows.db = .ok ()

/-- A payload passes the checks at its turn. -/
def Creates (env : Runtime) (t : Session × LinkCreate) : Prop :=
  ∃ m m' aDev bDev aIf bIf selected, CreationChecks env t.2 t.1 m m' aDev bDev aIf bIf selected

/-- A link with the id of a payload or with its endpoints. -/
def Taken (db : Database) (p : LinkCreate) : Prop :=
  ∃ l ∈ db.links, l.id = p.id ∨
    l.aInterfaceId = (canonicalLinkId p.aInterfaceId p.bInterfaceId).aId ∧
      l.bInterfaceId = (canonicalLinkId p.aInterfaceId p.bInterfaceId).bId

/-- The rows of a payload break a unique constraint: an interface that is opened for it, or its
link. -/
def Clashes (env : Runtime) (t : Session × LinkCreate) : Prop :=
  ((deviceFor t.1.rows.db t.2.aInterfaceId).isSome ∧ (deviceFor t.1.rows.db t.2.bInterfaceId).isSome ∧
      (openInterfaces t.2 "Interface creation failed" t.1).2.lost = true) ∨
    Creates env t ∧ Taken t.1.rows.db t.2

section Finish

variable {d : Details} {aDev bDev : Device} {aIf bIf : Interface} {l : Link} {e : LinkError}

/-- A link is not inserted where its id or its pair of interfaces is taken. -/
theorem insertLink_eq_none {store : Store} : insertLink l store = none ↔
    ∃ m ∈ store.db.links, m.id = l.id ∨
      m.aInterfaceId = l.aInterfaceId ∧ m.bInterfaceId = l.bInterfaceId := by
  unfold insertLink
  split
  · next h =>
    refine iff_of_false (by simp) ?_
    rintro ⟨m, hm, hid | hends⟩
    · exact (h m hm).1 hid
    · exact (h m hm).2 hends
  · next h =>
    refine iff_of_true rfl ?_
    by_contra hnone
    refine h (fun m hm ↦ ⟨fun hid ↦ hnone ⟨m, hm, Or.inl hid⟩, fun hends ↦ ?_⟩)
    exact hnone ⟨m, hm, Or.inr hends⟩

/-- The session is lost if the id or the endpoints of the link are taken. -/
theorem finishLink_lost (h : finishLink d env p aDev bDev aIf bIf m = (.ok l, s')) :
    s'.lost = true ↔ Taken m.rows.db p := by
  obtain ⟨hlost, _, _, selected, m', hselect, _, rfl, rfl⟩ := finishLink_eq_ok.mp h
  obtain ⟨hsame, _, _, hlinks⟩ := selectMedium_ok hselect
  let link := linkRow p (classify aDev.type bDev.type) selected (derivedLength env p selected m'.rows.db)
  let append := appendDomainEvent env "LINK_CREATED" link.id
    (linkCreatedPayload (classify aDev.type bDev.type) link)
  have hname : DomainEventType.ofName "LINK_CREATED" = some .linkCreated := rfl
  have happend : append m'.rows ≠ none := by
    simp [append, appendDomainEvent, AppendCall.record, hname]
  have hevent : (Tx.add append m').2.lost = false :=
    Bool.eq_false_iff.mpr (fun h ↦ happend ((Tx.add_lost (hsame.trans hlost)).mp h))
  have hrows : (Tx.add append m').2.rows.db.links = m.rows.db.links := by
    rw [appendDomainEvent_db (Tx.add_eq_ok (Tx.add_eq append m') hevent).1, hlinks]
  rw [Tx.add_lost hevent, insertLink_eq_none, hrows]
  rfl

private theorem selectMedium_error (h : selectMedium env p aDev bDev m = (.error e, s')) :
    s'.lost = m.lost := by
  unfold selectMedium at h
  split at h
  · rcases Tx.bind_eq_error.mp h with hquery | ⟨_, m₁, hquery, h₁⟩
    · rw [Tx.query_session hquery]
    · rw [Tx.query_session hquery, Tx.bind_of_ok (Tx.add_eq _ m)] at h₁
      rw [Tx.query_session h₁]
      rfl
  · cases h

/-- An error in the last part of a request loses no session. -/
theorem finishLink_error (h : finishLink d env p aDev bDev aIf bIf m = (.error e, s')) :
    s'.lost = m.lost := by
  unfold finishLink at h
  rcases Tx.bind_eq_error.mp h with hquery | ⟨_, m₁, hquery, h₁⟩
  · rw [Tx.query_session hquery]
  rw [Tx.query_session hquery] at h₁
  rcases Tx.bind_eq_error.mp h₁ with hquery | ⟨_, m₂, hquery, h₂⟩
  · rw [Tx.query_session hquery]
  rw [Tx.query_session hquery] at h₂
  rcases Tx.bind_eq_error.mp h₂ with hselect | ⟨selected, m₃, hselect, h₃⟩
  · exact selectMedium_error hselect
  rw [← (selectMedium_ok hselect).1]
  rcases Tx.bind_eq_error.mp h₃ with hquery | ⟨_, m₄, hquery, h₄⟩
  · rw [Tx.query_session hquery]
  rw [Tx.query_session hquery] at h₄
  rcases Tx.bind_eq_error.mp h₄ with hquery | ⟨_, m₅, hquery, h₅⟩
  · rw [Tx.query_session hquery]
  rw [Tx.bind_of_ok (Tx.add_eq _ _), Tx.bind_of_ok (Tx.add_eq _ _)] at h₅
  cases h₅

end Finish

/-- The checks decide whether a payload is created. -/
theorem creates_iff : Creates env (s, p) ↔ ∃ l s', createLinkNoRecompute env p s = (.ok l, s') := by
  constructor
  · rintro ⟨m, m', aDev, bDev, aIf, bIf, selected, h⟩
    exact ⟨_, _, createLinkNoRecompute_eq_ok.mpr ⟨h.usable, aDev, bDev, h.aDevice, h.bDevice, aIf,
      bIf, m, h.opened, h.canonical, finishLink_eq_ok.mpr ⟨h.unbroken, h.pon, h.upstream, selected,
        m', h.selects, h.medium, rfl, rfl⟩⟩⟩
  · rintro ⟨l, s', hrun⟩
    obtain ⟨hlost, aDev, bDev, ha, hb, aIf, bIf, m, hopen, hcanonical, hfinish⟩ :=
      createLinkNoRecompute_eq_ok.mp hrun
    obtain ⟨hmid, hpon, hupstream, selected, m', hselect, hmedium, _, _⟩ :=
      finishLink_eq_ok.mp hfinish
    exact ⟨m, m', aDev, bDev, aIf, bIf, selected, hlost, ha, hb, hopen, hcanonical, hmid, hpon,
      hupstream, hselect, hmedium⟩

/-- A request that succeeds creates a link. -/
theorem creates_of_ok {l : Link} (h : createLinkNoRecompute env p s = (.ok l, s')) :
    Creates env (s, p) :=
  creates_iff.mpr ⟨l, s', h⟩

/-- A request that fails creates none. -/
theorem not_creates_of_error {e : LinkError} (h : createLinkNoRecompute env p s = (.error e, s')) :
    ¬ Creates env (s, p) := by
  intro hcreates
  obtain ⟨l, m, hrun⟩ := creates_iff.mp hcreates
  rw [h] at hrun
  cases hrun

/-! ### Broken constraints -/

/-- A created payload loses the session if its link is taken. -/
theorem lost_of_created {l : Link} (h : createLinkNoRecompute env p s = (.ok l, s')) :
    (openInterfaces p "Interface creation failed" s).2.lost = false ∧
      (s'.lost = true ↔ Taken s.rows.db p) := by
  obtain ⟨_, aDev, bDev, _, _, aIf, bIf, m, hopen, _, hfinish⟩ := createLinkNoRecompute_eq_ok.mp h
  have hlinks : (openInterfaces p "Interface creation failed" s).2.rows.db.links = s.rows.db.links :=
    openInterfaces_keepsLinks p _ s
  rw [hopen] at hlinks ⊢
  rw [finishLink_lost hfinish, Taken, Taken, hlinks]
  exact ⟨(finishLink_eq_ok.mp hfinish).1, Iff.rfl⟩

/-- A refused payload loses the session if an interface that is opened for it is taken. -/
theorem lost_of_refused {e : LinkError} (hlost : s.lost = false)
    (h : createLinkNoRecompute env p s = (.error e, s')) : s'.lost = true ↔
      (deviceFor s.rows.db p.aInterfaceId).isSome ∧ (deviceFor s.rows.db p.bInterfaceId).isSome ∧
        (openInterfaces p "Interface creation failed" s).2.lost = true := by
  unfold createLinkNoRecompute at h
  rcases Tx.bind_eq_error.mp h with hquery | ⟨⟨aDev, bDev⟩, m, hquery, h₁⟩
  · obtain rfl := Tx.query_session hquery
    refine iff_of_false (by simp [hlost]) ?_
    rintro ⟨ha, hb, _⟩
    obtain ⟨aDev, ha⟩ := Option.isSome_iff_exists.mp ha
    obtain ⟨bDev, hb⟩ := Option.isSome_iff_exists.mp hb
    simp [Tx.query, hlost, resolveDevices, ha, hb] at hquery
  · obtain ⟨_, hresolve, rfl⟩ := Tx.query_eq_ok.mp hquery
    obtain ⟨ha, hb⟩ := resolveDevices_eq_ok.mp hresolve
    simp only [ha, hb, Option.isSome_some, true_and]
    rcases Tx.bind_eq_error.mp h₁ with hopen | ⟨⟨aIf, bIf⟩, m, hopen, h₂⟩
    · rw [hopen]
    · rw [hopen]
      rcases Tx.bind_eq_error.mp h₂ with hcheck | ⟨_, m', hcheck, h₃⟩
      · rw [← (Prod.mk.inj hcheck).2]
      · rw [← (Prod.mk.inj hcheck).2] at h₃
        rw [finishLink_error h₃]

/-- A turn loses the session if its rows break a constraint. -/
theorem lost_iff_clashes (hlost : s.lost = false) :
    (createLinkNoRecompute env p s).2.lost = true ↔ Clashes env (s, p) := by
  unfold Clashes
  rcases hrun : createLinkNoRecompute env p s with ⟨e | l, s'⟩
  · rw [lost_of_refused hlost hrun]
    simp [not_creates_of_error hrun]
  · obtain ⟨hopen, htaken⟩ := lost_of_created hrun
    simp [htaken, hopen, creates_of_ok hrun]

/-- A lost session stays lost. -/
theorem lastSession_lost (hlost : s.lost = true) : (lastSession env s ps).lost = true := by
  induction ps with
  | nil => exact hlost
  | cons p ps ih =>
    rw [lastSession, List.foldl_cons, createLinkNoRecompute_of_lost hlost]
    exact ih

/-- A batch loses the session if the rows of a payload break a constraint at its turn. -/
theorem lastSession_lost_iff (ps : List LinkCreate) : ∀ s : Session, s.lost = false →
    ((lastSession env s ps).lost = true ↔ ∃ t ∈ turns env s ps, Clashes env t) := by
  induction ps with
  | nil =>
    intro s hlost
    simp [lastSession, turns, hlost]
  | cons p ps ih =>
    intro s hlost
    rw [lastSession, List.foldl_cons, turns]
    simp only [List.mem_cons, exists_eq_or_imp]
    cases hnext : (createLinkNoRecompute env p s).2.lost with
    | true => exact iff_of_true (lastSession_lost hnext) (Or.inl ((lost_iff_clashes hlost).mp hnext))
    | false =>
      have hnot : ¬ Clashes env (s, p) := by
        rw [← lost_iff_clashes hlost, hnext]
        exact Bool.false_ne_true
      rw [or_iff_right hnot]
      exact ih _ hnext


/-! ### Checks of phase 1 -/

variable {db db' : Database}

/-- `_validate_link_creation` raises nothing. -/
def Valid (db : Database) (p : LinkCreate) : Prop := validateLinkCreation p db = .ok ()

/-- The checks of phase 1 that depend on the links and the media: the place of an ONT, and that the
medium exists. -/
def Placed (db : Database) (p : LinkCreate) : Prop :=
  (∀ aDev ∈ deviceFor db p.aInterfaceId, ∀ bDev ∈ deviceFor db p.bInterfaceId,
      enforceOntPlacementRules db aDev bDev p.aInterfaceId p.bInterfaceId = .ok ()) ∧
    checkMediumExists p db = .ok ()

/-- A later state of a batch that refuses nothing: ids resolve to the same devices, and no link is
gone. -/
structure Follows (db db' : Database) : Prop where
  devices : ∀ id, deviceFor db' id = deviceFor db id
  links : db.links ⊆ db'.links

private theorem Follows.trans {db'' : Database} (h : Follows db db') (h' : Follows db' db'') :
    Follows db db'' :=
  ⟨fun id ↦ (h'.devices id).trans (h.devices id), List.Subset.trans h.links h'.links⟩

/-- What is taken stays taken. -/
theorem Follows.taken (h : Follows db db') (htaken : Taken db p) : Taken db' p := by
  obtain ⟨l, hl, hsame⟩ := htaken
  exact ⟨l, h.links hl, hsame⟩

private theorem checkPairing_eq_ok {d : Details} {aDev bDev : Device} :
    checkPairing d p aDev bDev db = .ok () ↔
      (∀ db', enforceOntPlacementRules db' aDev bDev p.aInterfaceId p.bInterfaceId = .ok () →
        checkPairing d p aDev bDev db' = .ok ()) ∧
      enforceOntPlacementRules db aDev bDev p.aInterfaceId p.bInterfaceId = .ok () := by
  simp only [checkPairing, seq_eq_ok]
  constructor
  · rintro ⟨hpop, hclass, hodf, hdirect, hupstream, hplace⟩
    exact ⟨fun _ hplace' ↦ ⟨hpop, hclass, hodf, hdirect, hupstream, hplace'⟩, hplace⟩
  · rintro ⟨hpairing, hplace⟩
    exact hpairing db hplace

/-- A valid request names existing devices. -/
theorem Valid.placed (h : Valid db p) : Placed db p := by
  obtain ⟨_, _, aDev, bDev, ha, hb, hpairing, hmedium, _⟩ := validateLinkCreation_eq_ok.mp h
  refine ⟨?_, hmedium⟩
  intro aDev' ha' bDev' hb'
  obtain rfl : aDev = aDev' := Option.some.inj (ha.symm.trans ha')
  obtain rfl : bDev = bDev' := Option.some.inj (hb.symm.trans hb')
  exact (checkPairing_eq_ok.mp hpairing).2

/-- A payload that is valid in one state is valid in another where its ids resolve to the same
devices, it is placed and its link is not taken. -/
theorem Valid.of_placed (h : Valid db p) (hdevices : ∀ id, deviceFor db' id = deviceFor db id)
    (hfree : ¬ Taken db' p) (hplaced : Placed db' p) : Valid db' p := by
  obtain ⟨_, hdiffer, aDev, bDev, ha, hb, hpairing, _, hlength⟩ := validateLinkCreation_eq_ok.mp h
  rw [← hdevices] at ha hb
  refine validateLinkCreation_eq_ok.mpr ⟨?_, hdiffer, aDev, bDev, ha, hb,
    (checkPairing_eq_ok.mp hpairing).1 db' (hplaced.1 aDev ha bDev hb), hplaced.2, hlength⟩
  rw [checkNotExisting, failIf_eq_ok, Bool.and_eq_false_iff]
  refine Or.inl (Option.isSome_eq_false_iff.mpr (Option.isNone_iff_eq_none.mpr ?_))
  cases hget : db'.getLink p.id with
  | none => rfl
  | some l =>
    obtain ⟨hl, hid⟩ := Database.getLink_eq_some.mp hget
    exact absurd ⟨l, hl, Or.inl hid⟩ hfree

private theorem follows_of_created {l : Link} (h : createLinkNoRecompute env p s = (.ok l, s'))
    (hlost : s'.lost = false) : Follows s.rows.db s'.rows.db := by
  obtain ⟨_, aDev, bDev, _, _, aIf, bIf, m, hopen, _, hfinish⟩ := createLinkNoRecompute_eq_ok.mp h
  obtain ⟨hmid, _, _, hdevices, hinterfaces, hlinks⟩ := finishLink_ok hfinish hlost
  obtain ⟨mid, hopens, hopens'⟩ := openInterfaces_opens hopen hmid
  constructor
  · intro id
    have hgrows : Grows m.rows.db s'.rows.db := ⟨hdevices, [], by simp [hinterfaces], by simp⟩
    have hget : s'.rows.db.getInterface id = m.rows.db.getInterface id := by
      simp only [Database.getInterface, hinterfaces]
    rw [deviceFor_congr hgrows hget, hopens'.deviceFor_eq, hopens.deviceFor_eq]
  · rw [hlinks, hopens'.links, hopens.links]
    exact List.subset_append_left _ _

/-- In a batch that refuses nothing and breaks no constraint, every turn follows the first state. -/
theorem follows_of_turns (ps : List LinkCreate) : ∀ s : Session, s.lost = false →
    (∀ t ∈ turns env s ps, Creates env t) → (∀ t ∈ turns env s ps, ¬ Clashes env t) →
      ∀ t ∈ turns env s ps, Follows s.rows.db t.1.rows.db := by
  induction ps with
  | nil => simp [turns]
  | cons p ps ih =>
    intro s hlost hcreates hfree t ht
    rw [turns] at hcreates hfree ht
    rw [List.forall_mem_cons] at hcreates hfree
    rcases List.mem_cons.mp ht with rfl | ht
    · exact ⟨fun _ ↦ rfl, List.Subset.refl _⟩
    · obtain ⟨l, s', hrun⟩ := creates_iff.mp hcreates.1
      have hnext : s'.lost = false := by
        have hiff : s'.lost = true ↔ Clashes env (s, p) := by rw [← lost_iff_clashes hlost, hrun]
        exact Bool.eq_false_iff.mpr (fun h ↦ hfree.1 (hiff.mp h))
      rw [hrun] at hcreates hfree ht
      exact (follows_of_created hrun hnext).trans (ih s' hnext hcreates.2 hfree.2 t ht)

end Unoc.Links
