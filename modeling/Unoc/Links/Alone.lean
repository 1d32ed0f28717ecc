import Unoc.Links.Race

/-!
# Creating a link alone

Where no other transaction commits anything, the request that reads the database access by access
answers what `create_link_impl` answers on one session, and commits the same rows.
-/

namespace Unoc.Links

open Unoc.Model
open Unoc.EventStore (AppendCall EventStoreRecord nextSequence)

/-! ### Rows of a request in a session -/

/-- The session that holds the rows of a request; a broken constraint has lost it. -/
inductive Holds (store : Store) (own : OwnRows) (s : Session) : Prop where
  | kept (hrows : own.visible store = some s.rows) (hlost : s.lost = false)
  | lost (hrows : own.visible store = none) (hlost : s.lost = true)

private theorem holds_start {store : Store} : Holds store {} ⟨store, false⟩ := by
  apply Holds.kept _ rfl
  show some { store with db := { store.db with physicalMedia := store.db.physicalMedia ++ [] } } = _
  rw [List.append_nil]

/-- The rows of a request with media behind them. -/
def withMedia (media : List PhysicalMedium) (store : Store) : Store :=
  { store with db := { store.db with physicalMedia := store.db.physicalMedia ++ media } }

private theorem insertInterface_withMedia (i : Interface) (media : List PhysicalMedium)
    (store : Store) :
    insertInterface i (withMedia media store) =
      (insertInterface i store).map (withMedia media) := by
  unfold insertInterface
  by_cases h : ∀ j ∈ store.db.interfaces,
      j.id ≠ i.id ∧ ¬ (j.deviceId = i.deviceId ∧ j.name = i.name)
  · rw [dif_pos h, dif_pos (show ∀ j ∈ (withMedia media store).db.interfaces, _ from h)]
    rfl
  · rw [dif_neg h, dif_neg (show ¬ ∀ j ∈ (withMedia media store).db.interfaces, _ from h)]
    rfl

/-- The committed rows with the interfaces of a request. -/
def OwnRows.inserted (own : OwnRows) (store : Store) : Option Store :=
  own.interfaces.foldlM (fun store i ↦ insertInterface i store) store

private theorem visible_eq (own : OwnRows) (store : Store) :
    own.visible store = (own.inserted store).map (withMedia own.media) := rfl

/-- A further interface is inserted behind the rows of the request. -/
theorem visible_addInterface (own : OwnRows) (i : Interface) (store : Store) :
    ({ own with interfaces := own.interfaces ++ [i] } : OwnRows).visible store =
      (own.visible store).bind (insertInterface i) := by
  have hinserted : ({ own with interfaces := own.interfaces ++ [i] } : OwnRows).inserted store =
      (own.inserted store).bind (insertInterface i) := by
    unfold OwnRows.inserted
    rw [List.foldlM_append]
    cases own.interfaces.foldlM (fun store i ↦ insertInterface i store) store with
    | none => rfl
    | some rows => simp
  rw [visible_eq, visible_eq, hinserted]
  cases own.inserted store with
  | none => rfl
  | some rows => exact (insertInterface_withMedia i own.media rows).symm

private theorem visible_addMedia (own : OwnRows) (media : List PhysicalMedium) (store : Store) :
    ({ own with media := own.media ++ media } : OwnRows).visible store =
      (own.visible store).map (withMedia media) := by
  rw [visible_eq, visible_eq, Option.map_map]
  congr 1
  funext rows
  simp [withMedia]

private theorem prefix_foldl {α β : Type} {f : List α → β → List α} (hf : ∀ l b, l <+: f l b)
    (bs : List β) (l : List α) : l <+: bs.foldl f l := by
  induction bs generalizing l with
  | nil => exact List.prefix_refl l
  | cons b bs ih => exact (hf l b).trans (ih (f l b))

/-- Seeding appends the missing media. -/
theorem ensurePhysicalMedia_eq_withMedia (store : Store) :
    ensurePhysicalMedia store = withMedia
      ((ensurePhysicalMedia store).db.physicalMedia.drop store.db.physicalMedia.length) store := by
  have hprefix : store.db.physicalMedia <+: (ensurePhysicalMedia store).db.physicalMedia := by
    apply prefix_foldl
    intro media c
    by_cases hcode : c.1 ∈ store.db.physicalMedia.map PhysicalMedium.code
    · simp only [hcode, if_true, List.prefix_refl]
    · simp only [hcode, if_false, List.prefix_append]
  obtain ⟨added, hadded⟩ := hprefix
  rw [← hadded, List.drop_left, withMedia, hadded]
  rfl

/-! ### Agreement -/

section Agreement

variable {α β γ : Type} {store : Store} {w : World} {m : Access}

/-- Two computations raise the same error, or the second one goes on with what the first one
returns, in a session that holds its rows. -/
def Agree (store : Store) (x : Steps α) (y : Tx β) (next : α → Tx β) : Prop :=
  ∀ own s, Holds store own s →
    (∃ r, x own = .error r ∧ (y s).1 = .error r.error) ∨
      ∃ a own' s', x own = .ok (a, own') ∧ Holds store own' s' ∧ y s = next a s'

private theorem agree_pure (a : α) (next : α → Tx β) : Agree store (pure a) (next a) next :=
  fun own s h ↦ Or.inr ⟨a, own, s, rfl, h, rfl⟩

private theorem agree_bind {x : Steps α} {y : Tx α} {f : α → Steps β} {g : α → Tx γ}
    {next : β → Tx γ}
    (hx : Agree store x y pure) (hf : ∀ a, Agree store (f a) (g a) next) :
    Agree store (x >>= f) (y >>= g) next := by
  intro own s h
  rcases hx own s h with ⟨r, hrun, herror⟩ | ⟨a, own', s', hrun, h', hok⟩
  · left
    refine ⟨r, by simp only [bind, StateT.bind, hrun, Except.bind], ?_⟩
    rw [Tx.bind_of_error (Prod.ext herror rfl)]
  · have hbind : (x >>= f) own = f a own' := by simp only [bind, StateT.bind, hrun, Except.bind]
    rw [hbind, Tx.bind_of_ok hok]
    exact hf a own' s' h'

private theorem agree_check (x : Except LinkError α) : Agree store (Steps.check m x)
    (Tx.check x) pure := by
  intro own s h
  cases x with
  | error e => exact Or.inl ⟨⟨e, m⟩, rfl, rfl⟩
  | ok a => exact Or.inr ⟨a, own, s, rfl, h, rfl⟩

/-- A query sees the same rows, or raises. -/
theorem agree_query (hw : w m = store) {f : Store → Except LinkError α}
    {g : Database → Except LinkError α} (hf : ∀ rows : Store, f rows = g rows.db) :
    Agree store (Steps.query w m f) (Tx.query g) pure := by
  intro own s h
  unfold Steps.query Tx.query
  rw [hw]
  cases h with
  | kept hrows hlost =>
    simp only [hrows, hlost, hf, Bool.false_eq_true, if_false]
    exact agree_check (g s.rows.db) own s (.kept hrows hlost)
  | lost hrows hlost =>
    simp only [hrows, hlost, if_true]
    exact Or.inl ⟨⟨.database, m⟩, rfl, rfl⟩

private theorem agree_addInterface (i : Interface) :
    Agree store (Steps.add (fun own ↦ { own with interfaces := own.interfaces ++ [i] }))
      (Tx.add (insertInterface i)) pure := by
  intro own s h
  refine Or.inr ⟨(), _, _, rfl, ?_, Tx.add_eq _ s⟩
  have hvisible := visible_addInterface own i store
  unfold Tx.add
  cases h with
  | kept hrows hlost =>
    rw [hrows, Option.bind_some] at hvisible
    cases hinsert : insertInterface i s.rows with
    | none => exact .lost (hvisible.trans hinsert) rfl
    | some rows => exact .kept (hvisible.trans hinsert) hlost
  | lost hrows hlost =>
    rw [hrows] at hvisible
    cases hinsert : insertInterface i s.rows with
    | none => exact .lost hvisible rfl
    | some rows => exact .lost hvisible hlost

/-- Reading the missing media and adding them is one step of the session. -/
theorem agree_seedMedia (hw : w m = store) {x : Steps α} {y : Tx β} {next : α → Tx β}
    (h : Agree store x y next) :
    Agree store
      (do
        let added ← Steps.query w m (fun store ↦
          .ok ((ensurePhysicalMedia store).db.physicalMedia.drop store.db.physicalMedia.length))
        Steps.add (fun own ↦ { own with media := own.media ++ added })
        x)
      (do
        Tx.query (fun _ ↦ .ok ())
        Tx.add (fun store ↦ some (ensurePhysicalMedia store))
        y) next := by
  intro own s hholds
  cases hholds with
  | kept hrows hlost =>
    let added := (ensurePhysicalMedia s.rows).db.physicalMedia.drop s.rows.db.physicalMedia.length
    have hsteps : Steps.query w m (fun store ↦
        .ok ((ensurePhysicalMedia store).db.physicalMedia.drop store.db.physicalMedia.length)) own =
          .ok (added, own) := by
      simp only [Steps.query, hw, hrows, Steps.check, added]
    have hheld : Holds store { own with media := own.media ++ added }
        { s with rows := ensurePhysicalMedia s.rows } := by
      refine .kept (show _ = some (ensurePhysicalMedia s.rows) from ?_) hlost
      rw [visible_addMedia, hrows, Option.map_some, ensurePhysicalMedia_eq_withMedia s.rows]
    have hquery : Tx.query (fun _ ↦ .ok ()) s = (.ok (), s) := by simp only [Tx.query, hlost]; rfl
    have hrun := h _ _ hheld
    simp only [bind, StateT.bind, hsteps, Except.bind, Steps.add, hquery, Tx.add]
    exact hrun
  | lost hrows hlost =>
    left
    refine ⟨⟨.database, m⟩, ?_, ?_⟩
    · simp only [bind, StateT.bind, Steps.query, hw, hrows, Except.bind]
    · simp only [bind, Tx.query, hlost, if_true]

end Agreement

/-! ### The checks -/

section Checks

variable {env : Runtime} {store : Store} {w : World} {p : LinkCreate}
  (hw : ∀ m, m ≠ .refresh → w m = store)

include hw

private theorem ensureDefaultInterface_agree {find device : Access} (hfind : find ≠ .refresh)
    (hdevice : device ≠ .refresh) (interfaceId : String) :
    Agree store (ensureDefaultInterfaceIn w find device interfaceId)
      (ensureDefaultInterface interfaceId) pure := by
  unfold ensureDefaultInterfaceIn ensureDefaultInterface
  refine agree_bind (agree_query (hw find hfind) (fun _ ↦ rfl)) (fun found ↦ ?_)
  cases found with
  | some iface => exact agree_pure (some iface) pure
  | none =>
    by_cases hdefault : isDefault interfaceId
    · simp only [hdefault, if_true]
      refine agree_bind (agree_query (hw device hdevice) (fun _ ↦ rfl)) (fun dev ↦ ?_)
      cases dev with
      | some dev => exact agree_bind (agree_addInterface _) (fun _ ↦ agree_pure _ pure)
      | none => exact agree_pure none pure
    · simp only [hdefault]
      exact agree_pure none pure

private theorem openInterfaces_agree :
    Agree store (openInterfacesIn w p) (openInterfaces p createDetails.interfaceNotFound) pure := by
  unfold openInterfacesIn openInterfaces
  apply agree_bind (ensureDefaultInterface_agree hw (by decide) (by decide) _)
  intro aIf
  apply agree_bind (ensureDefaultInterface_agree hw (by decide) (by decide) _)
  intro bIf
  cases aIf with
  | none => exact agree_check _
  | some aIf =>
    cases bIf with
    | none => exact agree_check _
    | some bIf => exact agree_bind (agree_check _) (fun _ ↦ agree_pure (aIf, bIf) pure)

private theorem checkCanonicalId_agree :
    Agree store (checkCanonicalIdIn w p) (checkCanonicalId p) pure := by
  unfold checkCanonicalIdIn checkCanonicalId
  split
  · exact agree_pure () pure
  · exact agree_bind (agree_query (hw _ (by decide)) (fun _ ↦ rfl)) (fun _ ↦ agree_check _)

private theorem selectMedium_agree (aDev bDev : Device) :
    Agree store (selectMediumIn env w p aDev bDev) (selectMedium env p aDev bDev) pure := by
  unfold selectMediumIn selectMedium
  split
  · unfold pickDefaultPhysicalMediumIdIn pickDefaultPhysicalMediumId
    exact agree_seedMedia (hw _ (by decide)) (agree_query (hw _ (by decide)) (fun _ ↦ rfl))
  · exact agree_pure none pure

/-- What follows the checks on one session: the event, and the link. -/
def finishAlone (env : Runtime) (r : LinkClassification × Link) : Tx Link := do
  Tx.add (appendDomainEvent env "LINK_CREATED" r.2.id (linkCreatedPayload r.1 r.2))
  Tx.add (insertLink r.2)
  pure r.2

/-- The checks agree up to the row of the link. -/
theorem prepareLink_agree :
    Agree store (prepareLink env w p) (createLink env p) (finishAlone env) := by
  unfold prepareLink createLink
  refine agree_bind (agree_check _) (fun _ ↦ ?_)
  refine agree_bind (agree_query (hw _ (by decide)) (fun _ ↦ rfl)) (fun _ ↦ ?_)
  refine agree_bind (agree_query (hw _ (by decide)) (fun _ ↦ rfl)) ?_
  rintro ⟨aDev, bDev⟩
  refine agree_bind (agree_query (hw _ (by decide)) (fun _ ↦ rfl)) (fun _ ↦ ?_)
  refine agree_bind (openInterfaces_agree hw) ?_
  rintro ⟨aIf, bIf⟩
  refine agree_bind (checkCanonicalId_agree hw) (fun _ ↦ ?_)
  refine agree_bind (agree_check _) (fun _ ↦ ?_)
  refine agree_bind (agree_query (hw _ (by decide)) (fun _ ↦ rfl)) (fun _ ↦ ?_)
  unfold finishLink
  refine agree_bind (agree_query (hw _ (by decide)) (fun _ ↦ rfl)) (fun _ ↦ ?_)
  refine agree_bind (agree_query (hw _ (by decide)) (fun _ ↦ rfl)) (fun _ ↦ ?_)
  refine agree_bind (selectMedium_agree hw aDev bDev) (fun selected ↦ ?_)
  refine agree_bind (agree_query (hw _ (by decide)) (fun _ ↦ rfl)) (fun _ ↦ ?_)
  refine agree_bind (agree_query (hw _ (by decide)) (fun _ ↦ rfl)) (fun lengthKm ↦ ?_)
  exact agree_pure (classify aDev.type bDev.type, _) (finishAlone env)

end Checks

/-! ### The answer -/

/-- The next sequence number is free. -/
theorem nextSequence_not_mem (rows : List EventStoreRecord) :
    nextSequence rows ∉ rows.map EventStoreRecord.sequence := by
  intro hmem
  unfold nextSequence at hmem
  split at hmem
  next hnone =>
    rw [List.max?_eq_none_iff.mp hnone] at hmem
    cases hmem
  next current hmax =>
    have hle := (List.max?_eq_some_iff.mp hmax).2 _ hmem
    omega

/-- No other transaction commits anything: all accesses meet the same rows, and the last one also
those that the request has committed. -/
structure Alone (env : Runtime) (store : Store) (p : LinkCreate) (w : World) : Prop where
  before : ∀ m, m ≠ .refresh → w m = store
  after : ∀ store', createLinkImpl env store p = .ok store' → w .refresh = store'

/-- The rows that a request adds to the tables. -/
structure Adds (store store' : Store) (committed : Committed) : Prop where
  interfaces : store'.db.interfaces = store.db.interfaces ++ committed.interfaces
  links : store'.db.links = store.db.links ++ committed.links
  events : store'.events = store.events ++ committed.events

section Answer

variable {env : Runtime} {message : Violation → String} {store rows : Store} {w : World}
  {p : LinkCreate} {own : OwnRows} {cls : LinkClassification} {l : Link}

/-- The record of the event is always there. -/
theorem exists_linkCreatedRecord (env : Runtime) (cls : LinkClassification) (l : Link)
    (sequence : Nat) : ∃ record, linkCreatedRecord env cls l sequence = some record := ⟨_, rfl⟩

/-- The rows with one more event. -/
def withEvent (record : EventStoreRecord) (store : Store) : Store :=
  { store with events := store.events ++ [record] }

private theorem insertLink_withEvent (l : Link) (record : EventStoreRecord) (store : Store) :
    insertLink l (withEvent record store) = (insertLink l store).map (withEvent record) := by
  unfold insertLink
  by_cases h : ∀ m ∈ store.db.links, m.id ≠ l.id ∧
      ¬ (m.aInterfaceId = l.aInterfaceId ∧ m.bInterfaceId = l.bInterfaceId)
  · rw [dif_pos h, dif_pos (show ∀ m ∈ (withEvent record store).db.links, _ from h)]
    rfl
  · rw [dif_neg h, dif_neg (show ¬ ∀ m ∈ (withEvent record store).db.links, _ from h)]
    rfl

/-- The event is added, and the link unless it is taken. -/
theorem finishAlone_eq {record : EventStoreRecord}
    (h : linkCreatedRecord env cls l (nextSequence rows.events) = some record) :
    finishAlone env (cls, l) ⟨rows, false⟩ =
      (.ok l, (Tx.add (insertLink l) ⟨withEvent record rows, false⟩).2) := by
  have happend : appendDomainEvent env "LINK_CREATED" l.id (linkCreatedPayload cls l) rows =
      (linkCreatedRecord env cls l (nextSequence rows.events)).map (withEvent · rows) := rfl
  rw [h, Option.map_some] at happend
  have hevent : Tx.add (appendDomainEvent env "LINK_CREATED" l.id (linkCreatedPayload cls l))
      ⟨rows, false⟩ = (.ok (), ⟨withEvent record rows, false⟩) := by
    simp only [Tx.add, happend]
  unfold finishAlone
  rw [Tx.bind_of_ok hevent, Tx.bind_of_ok (Tx.add_eq _ _)]
  rfl

private theorem insertLink_events {store' : Store} (h : insertLink l store = some store') :
    store'.events = store.events := by
  unfold insertLink at h
  split at h
  · cases h
    rfl
  · cases h

/-- The sequence number that is read stays free. -/
theorem Alone.not_sequenceTaken (hw : Alone env store p w) : ¬ SequenceTaken w := by
  unfold SequenceTaken readSequence
  rw [hw.before .sequence (by decide), hw.before .flushEvent (by decide)]
  exact nextSequence_not_mem store.events

/-- When the checks pass, the session goes on with the rows that the request sees. -/
theorem Alone.createLink_eq (hw : Alone env store p w)
    (hready : prepareLink env w p {} = .ok ((cls, l), own)) :
    ∃ rows, own.visible store = some rows ∧
      createLink env p ⟨store, false⟩ = finishAlone env (cls, l) ⟨rows, false⟩ := by
  obtain ⟨_, rows, hvisible⟩ := prepareLink_yields {} _ hready
  rw [hw.before .length (by decide)] at hvisible
  refine ⟨rows, hvisible, ?_⟩
  rcases prepareLink_agree hw.before {} ⟨store, false⟩ holds_start with
    ⟨r, hrefused, _⟩ | ⟨a, own', s, hready', hholds, hfinish⟩
  · rw [hready] at hrefused
    cases hrefused
  · rw [hready] at hready'
    cases hready'
    rw [hfinish]
    congr 1
    cases hholds with
    | kept hrows hlost =>
      have hsame : s.rows = rows := Option.some.inj (hrows.symm.trans hvisible)
      rw [← hsame, ← hlost]
    | lost hrows _ =>
      rw [hvisible] at hrows
      cases hrows

/-- A request that the checks refuse is refused alike on one session. -/
theorem Alone.createLinkImpl_refused {r : Refusal} (hw : Alone env store p w)
    (hready : prepareLink env w p {} = .error r) : createLinkImpl env store p = .error r.error := by
  have herror : (createLink env p ⟨store, false⟩).1 = .error r.error := by
    rcases prepareLink_agree hw.before {} ⟨store, false⟩ holds_start with
      ⟨r', hrefused, herror⟩ | ⟨_, _, _, hready', _⟩
    · rw [hready] at hrefused
      cases hrefused
      exact herror
    · rw [hready] at hready'
      cases hready'
  unfold createLinkImpl
  rw [← Prod.eta (createLink env p ⟨store, false⟩), herror]

section Prepared

variable {record : EventStoreRecord} (hw : Alone env store p w)
  (hready : prepareLink env w p {} = .ok ((cls, l), own))
  (hvisible : own.visible store = some rows)
  (hsession : createLink env p ⟨store, false⟩ =
    (.ok l, (Tx.add (insertLink l) ⟨withEvent record rows, false⟩).2))

include hw hready hvisible hsession

/-- Both answer that the link exists when its row is taken. -/
theorem Alone.conflict (hmessage : readsAsConflict (message .link) = true)
    (hinsert : insertLink l rows = none) :
    createLinkImpl env store p = .error linkExists ∧
      createLinkIn env message w p = ⟨.error linkExists, .commit, {}⟩ := by
  have hstore : insertLink l store = none := by
    rw [insertLink_eq_none] at hinsert ⊢
    rwa [(visible_rows hvisible).1] at hinsert
  constructor
  · simp only [createLinkImpl, hsession, Tx.add, insertLink_withEvent, hinsert, Option.map_none,
      if_true]
    rfl
  · simp only [createLinkIn, hready, commitLink, if_neg hw.not_sequenceTaken,
      hw.before .commit (by decide), hstore, mapIntegrityError_eq_linkExists.mpr hmessage]

/-- Both commit the link when its row is free. -/
theorem Alone.commits {rows' : Store}
    (hrecord : linkCreatedRecord env cls l (nextSequence rows.events) = some record)
    (hinsert : insertLink l rows = some rows') :
    createLinkImpl env store p = .ok (withEvent record rows') ∧
      createLinkIn env message w p = ⟨.ok l, .refresh, ⟨own.interfaces, [l], [record]⟩⟩ := by
  obtain ⟨hlinks, _, hevents⟩ := visible_rows hvisible
  have himpl : createLinkImpl env store p = .ok (withEvent record rows') := by
    simp only [createLinkImpl, hsession, Tx.add, insertLink_withEvent, hinsert, Option.map_some,
      Bool.false_eq_true, if_false]
  have hsequence : readSequence w = nextSequence rows.events := by
    rw [readSequence, hw.before .sequence (by decide), hevents]
  have hfound : ((w .refresh).db.getLink l.id).isSome = true := by
    rw [hw.after _ himpl, Database.getLink, List.find?_isSome]
    refine ⟨l, ?_, by simp⟩
    show l ∈ rows'.db.links
    rw [(insertLink_eq_some hinsert).2.2]
    exact List.mem_append_right _ (List.mem_singleton_self l)
  refine ⟨himpl, ?_⟩
  cases hstore : insertLink l store with
  | none =>
    rw [insertLink_eq_none, ← hlinks, ← insertLink_eq_none, hinsert] at hstore
    cases hstore
  | some _ =>
    simp only [createLinkIn, hready, commitLink, if_neg hw.not_sequenceTaken,
      hw.before .commit (by decide), hstore, hfound, if_true, hsequence, hrecord]
    rfl

end Prepared

/-- A request without others answers what `create_link_impl` answers and commits its rows. -/
theorem createLinkIn_alone (hw : Alone env store p w)
    (hmessage : readsAsConflict (message .link) = true) :
    (∀ e, createLinkImpl env store p = .error e →
      (createLinkIn env message w p).answer = .error e ∧
        (createLinkIn env message w p).committed = {}) ∧
    ∀ store', createLinkImpl env store p = .ok store' →
      (∃ l, (createLinkIn env message w p).answer = .ok l) ∧
        Adds store store' (createLinkIn env message w p).committed := by
  cases hready : prepareLink env w p {} with
  | error r =>
    have houtcome : createLinkIn env message w p = ⟨.error r.error, r.access, {}⟩ := by
      rw [createLinkIn, hready]
    rw [hw.createLinkImpl_refused hready, houtcome]
    refine ⟨fun _ h ↦ ⟨congrArg Except.error (Except.error.inj h), rfl⟩, fun _ h ↦ ?_⟩
    cases h
  | ok ready =>
    obtain ⟨⟨cls, l⟩, own⟩ := ready
    obtain ⟨rows, hvisible, hsession⟩ := hw.createLink_eq hready
    obtain ⟨hlinks, hinterfaces, hevents⟩ := visible_rows hvisible
    obtain ⟨record, hrecord⟩ := exists_linkCreatedRecord env cls l (nextSequence rows.events)
    rw [finishAlone_eq hrecord] at hsession
    cases hinsert : insertLink l rows with
    | none =>
      obtain ⟨himpl, houtcome⟩ := hw.conflict hready hvisible hsession hmessage hinsert
      rw [himpl, houtcome]
      refine ⟨fun _ h ↦ ⟨congrArg Except.error (Except.error.inj h), rfl⟩, fun _ h ↦ ?_⟩
      cases h
    | some rows' =>
      obtain ⟨_, hinterfaces', hlinks'⟩ := insertLink_eq_some hinsert
      obtain ⟨himpl, houtcome⟩ := hw.commits hready hvisible hsession hrecord hinsert
      rw [himpl, houtcome]
      constructor
      · intro e h
        cases h
      · intro store' h
        obtain rfl := Except.ok.inj h
        refine ⟨⟨l, rfl⟩, hinterfaces'.trans hinterfaces, hlinks'.trans (by rw [hlinks]), ?_⟩
        show rows'.events ++ [record] = store.events ++ [record]
        rw [insertLink_events hinsert, hevents]

end Answer

end Unoc.Links
