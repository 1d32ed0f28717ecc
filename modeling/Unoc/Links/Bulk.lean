import Mathlib.Data.Finset.Dedup
import Mathlib.Data.Finset.Empty
import Mathlib.Data.List.Induction
import Unoc.Base.Greedy
import Unoc.Links.Rules
import Unoc.Traffic.Cache

/-!
# Creating links in bulk

`engine-go/internal/batch/create.go`: the batch service checks a list of specifications one after the
other, inserts those that pass in a single statement, and reports the others as failures. What the
driver may fail with besides the constraints of the table is a parameter. The optical recompute after
the commit does not touch the answer and is left out.
-/

namespace Unoc.Links.Bulk

open Unoc.Base
open Unoc.Traffic (RangeOrder)

/-! ### Messages and tables -/

/-- `LinkCreateSpec`; `proto/batch/batch.proto:46–60`. -/
structure LinkCreateSpec where
  aInterfaceId : String
  bInterfaceId : String
  lengthKm : ℚ := 0
  status : String := ""
  deriving DecidableEq, Repr

/-- `LinkCreationFailure`. -/
structure LinkCreationFailure where
  index : Int32
  aInterfaceId : String
  bInterfaceId : String
  errorCode : String
  errorMessage : String
  deriving DecidableEq, Repr

/-- Row of table `link`, with the columns that the statement fills. -/
structure LinkRow where
  id : String
  aInterfaceId : String
  bInterfaceId : String
  lengthKm : ℚ := 0
  status : String := "UP"
  kind : String := "FIBER"
  deriving DecidableEq, Repr

/-- The columns of `uq_link_endpoints`; `models_pkg/link.py:35–37`. -/
def LinkRow.ends (l : LinkRow) : String × String := (l.aInterfaceId, l.bInterfaceId)

/-- An interface is an end of a link. -/
def LinkRow.Uses (l : LinkRow) (i : String) : Prop := l.aInterfaceId = i ∨ l.bInterfaceId = i

/-- An interface is asked for by a specification. -/
def LinkCreateSpec.Uses (s : LinkCreateSpec) (i : String) : Prop :=
  s.aInterfaceId = i ∨ s.bInterfaceId = i

/-- Whether a request uses an interface compares its ends. -/
instance (s : LinkCreateSpec) (i : String) : Decidable (s.Uses i) :=
  inferInstanceAs (Decidable (_ ∨ _))

/-- The ids of table `interface`, and table `link` with its constraints. -/
structure Tables where
  interfaceIds : List String := []
  links : List LinkRow := []
  ids_nodup : (links.map LinkRow.id).Nodup := by decide
  ends_nodup : (links.map LinkRow.ends).Nodup := by decide

/-- What the statements fail with, if they do: the connection, and for the rows of an insertion also
limits on values and on the number of parameters. -/
structure Driver where
  beginTx : Option String := none
  selectInterfaces : Option String := none
  selectLinked : Option String := none
  refuses : List LinkRow → Option String := fun _ ↦ none
  duplicateKey : String := "duplicate key value violates unique constraint"
  commit : Option String := none

/-- `if err != nil { return fmt.Errorf("...: %w", err) }`. -/
def failWith (context : String) : Option String → Except String Unit
  | none => .ok ()
  | some text => .error (context ++ text)

/-! ### Queries -/

/-- The set of ids that the specifications ask for; `create.go:111–115,397–401`. -/
def interfaceIDs (specs : List LinkCreateSpec) : Finset String :=
  (specs.flatMap (fun s ↦ [s.aInterfaceId, s.bInterfaceId])).toFinset

/-- `validateInterfacesExist`; `create.go:310–341`. -/
def validateInterfacesExist (drv : Driver) (db : Tables) (ids : Finset String) :
    Except String (List String) :=
  if ids = ∅ then .ok []
  else do
    failWith "failed to query interfaces: " drv.selectInterfaces
    return db.interfaceIds.filter (fun i ↦ i ∈ ids)

/-- `getLinkedInterfaces`; `create.go:345–385`. -/
def getLinkedInterfaces (drv : Driver) (db : Tables) (ids : Finset String) :
    Except String (List String) :=
  if ids = ∅ then .ok []
  else do
    failWith "failed to query linked interfaces: " drv.selectLinked
    return (db.links.map LinkRow.aInterfaceId ++ db.links.map LinkRow.bInterfaceId).filter
      (fun i ↦ i ∈ ids)

/-! ### Selection -/

/-- `validLink`; `create.go:17–20`. -/
structure ValidLink where
  spec : LinkCreateSpec
  index : Nat
  deriving DecidableEq, Repr

/-- The variables of the validation loop. -/
structure Selection where
  validLinks : List ValidLink := []
  failures : List LinkCreationFailure := []
  linkedInterfaces : List String := []

/-- The first check that a specification fails, by its code and message; `create.go:133–175`. -/
def failureOf (existing linked : List String) (s : LinkCreateSpec) : Option (String × String) :=
  if s.aInterfaceId ∉ existing then
    some ("INTERFACE_NOT_FOUND", "Interface A (ID=" ++ s.aInterfaceId ++ ") does not exist")
  else if s.bInterfaceId ∉ existing then
    some ("INTERFACE_NOT_FOUND", "Interface B (ID=" ++ s.bInterfaceId ++ ") does not exist")
  else if s.aInterfaceId ∈ linked then
    some ("INTERFACE_ALREADY_LINKED", "Interface A (ID=" ++ s.aInterfaceId ++ ") is already linked")
  else if s.bInterfaceId ∈ linked then
    some ("INTERFACE_ALREADY_LINKED", "Interface B (ID=" ++ s.bInterfaceId ++ ") is already linked")
  else none

/-- The body of the validation loop; `create.go:131–183`. -/
def consider (existing : List String) (sel : Selection) (s : LinkCreateSpec × Nat) : Selection :=
  match failureOf existing sel.linkedInterfaces s.1 with
  | some (code, message) =>
    { sel with
      failures := sel.failures ++
        [⟨Int32.ofNat s.2, s.1.aInterfaceId, s.1.bInterfaceId, code, message⟩] }
  | none =>
    { sel with
      validLinks := sel.validLinks ++ [⟨s.1, s.2⟩]
      linkedInterfaces := s.1.aInterfaceId :: s.1.bInterfaceId :: sel.linkedInterfaces }

/-- The validation loop; `create.go:129–183`. -/
def select (existing linked : List String) (specs : List LinkCreateSpec) : Selection :=
  specs.zipIdx.foldl (consider existing) { linkedInterfaces := linked }

/-! ### Insertion -/

/-- The row of a specification; `create.go:244–267`. -/
def LinkCreateSpec.row (s : LinkCreateSpec) : LinkRow where
  id := s.aInterfaceId ++ "__" ++ s.bInterfaceId
  aInterfaceId := s.aInterfaceId
  bInterfaceId := s.bInterfaceId
  lengthKm := if s.lengthKm = 0 then 0 else s.lengthKm
  status := if s.status = "" then "UP" else s.status
  kind := "FIBER"

/-- The statement with all its rows; `create.go:281–299`. -/
def Tables.insert (db : Tables) (drv : Driver) (rows : List LinkRow) : Except String Tables :=
  match drv.refuses rows with
  | some text => .error text
  | none =>
    if h : ((db.links ++ rows).map LinkRow.id).Nodup ∧ ((db.links ++ rows).map LinkRow.ends).Nodup
    then .ok { db with links := db.links ++ rows, ids_nodup := h.1, ends_nodup := h.2 }
    else .error drv.duplicateKey

/-- `bulkInsertLinks`; `create.go:227–306`. -/
def bulkInsertLinks (drv : Driver) (db : Tables) (validLinks : List ValidLink) :
    Except String (List String × Tables) :=
  let rows := validLinks.map (fun v ↦ v.spec.row)
  if validLinks = [] then .ok ([], db)
  else do
    let db ← (db.insert drv rows).mapError ("bulk INSERT failed: " ++ ·)
    return (rows.map LinkRow.id, db)

/-! ### The transaction -/

/-- Created ids and failures. -/
abbrev Outcome := List String × List LinkCreationFailure

/-- The statements of the transaction; `create.go:100–196`. -/
def transaction (drv : Driver) (db : Tables) (specs : List LinkCreateSpec) :
    Except String (Outcome × Tables) := do
  failWith "failed to start transaction: " drv.beginTx
  let existing ← (validateInterfacesExist drv db (interfaceIDs specs)).mapError
    ("failed to validate interfaces: " ++ ·)
  let linked ← (getLinkedInterfaces drv db (interfaceIDs specs)).mapError
    ("failed to check linked interfaces: " ++ ·)
  let sel := select existing linked specs
  let (createdIDs, db) ← (bulkInsertLinks drv db sel.validLinks).mapError
    ("failed to bulk insert links: " ++ ·)
  failWith "failed to commit transaction: " drv.commit
  return ((createdIDs, sel.failures), db)

/-- `createLinksInTransaction`: the answer, and the tables after its commit or `tx.Rollback()`;
`create.go:99–211`. -/
def createLinksInTransaction (drv : Driver) (db : Tables) (specs : List LinkCreateSpec) :
    Except String Outcome × Tables :=
  match transaction drv db specs with
  | .error text => (.error text, db)
  | .ok (outcome, db) => (.ok outcome, db)

/-! ### The greedy rule -/

variable {existing linked : List String} {specs : List LinkCreateSpec} {drv : Driver}
  {db db' : Tables}

/-- Both interfaces of a specification exist and are not linked. -/
def Passes (existing linked : List String) (s : LinkCreateSpec) : Prop :=
  (s.aInterfaceId ∈ existing ∧ s.bInterfaceId ∈ existing) ∧ ∀ x, s.Uses x → x ∉ linked

/-- Two specifications ask for one interface. -/
def Clash (s t : LinkCreateSpec) : Prop := ∃ x, s.Uses x ∧ t.Uses x

private theorem failureOf_eq_none {s : LinkCreateSpec} :
    failureOf existing linked s = none ↔ Passes existing linked s := by
  have huses : (∀ x, s.Uses x → x ∉ linked) ↔ s.aInterfaceId ∉ linked ∧ s.bInterfaceId ∉ linked := by
    constructor
    · intro h
      exact ⟨h _ (.inl rfl), h _ (.inr rfl)⟩
    · rintro ⟨ha, hb⟩ x (rfl | rfl)
      · exact ha
      · exact hb
  rw [Passes, huses]
  unfold failureOf
  by_cases ha : s.aInterfaceId ∈ existing
  · by_cases hb : s.bInterfaceId ∈ existing
    · by_cases hla : s.aInterfaceId ∈ linked
      · simp [ha, hb, hla]
      · by_cases hlb : s.bInterfaceId ∈ linked <;> simp [ha, hb, hla, hlb]
    · simp [ha, hb]
  · simp [ha]

/-- What the validation loop has selected from the specifications that it has seen. -/
structure Selected (existing linked : List String) (specs : List LinkCreateSpec)
    (takes : Nat → Bool) (sel : Selection) : Prop where
  greedy : Greedy (Passes existing linked) Clash specs takes
  validLinks : sel.validLinks = (Greedy.taken specs takes).map (fun p ↦ ⟨p.1, p.2⟩)
  failures : sel.failures.map LinkCreationFailure.index =
    (Greedy.skipped specs takes).map Int32.ofNat
  linkedInterfaces : ∀ x, x ∈ sel.linkedInterfaces ↔
    x ∈ linked ∨ ∃ p ∈ Greedy.taken specs takes, p.1.Uses x

/-- The check against the interfaces linked so far is the check of the rule. -/
theorem Selected.passes_iff {takes : Nat → Bool} {sel : Selection}
    (h : Selected existing linked specs takes sel) (s : LinkCreateSpec) :
    Passes existing sel.linkedInterfaces s ↔
      Passes existing linked s ∧ ∀ p ∈ Greedy.taken specs takes, ¬ Clash s p.1 := by
  constructor
  · rintro ⟨hexist, hfree⟩
    refine ⟨⟨hexist, fun x hx hlinked ↦ ?_⟩, ?_⟩
    · exact hfree x hx ((h.linkedInterfaces x).mpr (.inl hlinked))
    · rintro p hp ⟨x, hx, hpx⟩
      exact hfree x hx ((h.linkedInterfaces x).mpr (.inr ⟨p, hp, hpx⟩))
  · rintro ⟨⟨hexist, hstored⟩, hearlier⟩
    refine ⟨hexist, fun x hx hlinked ↦ ?_⟩
    rcases (h.linkedInterfaces x).mp hlinked with hold | ⟨p, hp, hpx⟩
    · exact hstored x hx hold
    · exact hearlier p hp ⟨x, hx, hpx⟩

/-- One iteration of the loop. -/
theorem Selected.consider {takes : Nat → Bool} {sel : Selection}
    (h : Selected existing linked specs takes sel) (s : LinkCreateSpec) :
    ∃ takes', Selected existing linked (specs ++ [s]) takes'
      (Bulk.consider existing sel (s, specs.length)) := by
  let passes : Bool := (failureOf existing sel.linkedInterfaces s).isNone
  have hgreedy : Greedy (Passes existing linked) Clash (specs ++ [s])
      (Function.update takes specs.length passes) := by
    apply h.greedy.concat
    rw [← h.passes_iff, ← failureOf_eq_none, Option.isNone_iff_eq_none]
  have htaken := Greedy.taken_concat specs s (Function.update takes specs.length passes)
  have hskipped := Greedy.skipped_concat specs s (Function.update takes specs.length passes)
  rw [Greedy.taken_update, Function.update_self] at htaken
  rw [Greedy.skipped_update, Function.update_self] at hskipped
  refine ⟨Function.update takes specs.length passes, hgreedy, ?_, ?_, ?_⟩
  all_goals
    unfold Bulk.consider
    cases hfailure : failureOf existing sel.linkedInterfaces s
  · rw [htaken, h.validLinks, show passes = true by simp [passes, hfailure], List.map_append]
    rfl
  · rw [htaken, h.validLinks, show passes = false by simp [passes, hfailure], List.map_append]
    simp
  · rw [hskipped, show passes = true by simp [passes, hfailure], List.map_append, h.failures]
    simp
  · rw [hskipped, show passes = false by simp [passes, hfailure], List.map_append, List.map_append,
      h.failures]
    rfl
  · intro x
    have hcons : x ∈ s.aInterfaceId :: s.bInterfaceId :: sel.linkedInterfaces ↔
        s.Uses x ∨ x ∈ sel.linkedInterfaces := by
      simp [LinkCreateSpec.Uses, eq_comm, or_assoc]
    have hlast : (∃ p ∈ Greedy.taken specs takes ++ [(s, specs.length)], p.1.Uses x) ↔
        (∃ p ∈ Greedy.taken specs takes, p.1.Uses x) ∨ s.Uses x := by
      simp [or_and_right, exists_or]
    rw [htaken, show passes = true by simp [passes, hfailure], if_pos rfl, hlast, ← or_assoc,
      ← h.linkedInterfaces x, or_comm]
    exact hcons
  · rw [htaken, show passes = false by simp [passes, hfailure], if_neg Bool.false_ne_true,
      List.append_nil]
    exact h.linkedInterfaces

/-- The validation loop follows the greedy rule. -/
theorem exists_selected (existing linked : List String) (specs : List LinkCreateSpec) :
    ∃ takes, Selected existing linked specs takes (select existing linked specs) := by
  induction specs using List.reverseRecOn with
  | nil =>
    refine ⟨fun _ ↦ false, ?_, rfl, rfl, ?_⟩
    · intro i s hs
      cases hs
    · intro x
      simp [select, Greedy.taken]
  | append_singleton specs s ih =>
    obtain ⟨takes, h⟩ := ih
    rw [select, List.zipIdx_append, List.foldl_append, Nat.zero_add, List.zipIdx_singleton,
      List.foldl_cons, List.foldl_nil]
    exact h.consider s

/-! ### The transaction -/

/-- A check passes without an error text. -/
theorem failWith_eq_ok {context : String} {text : Option String} {u : Unit} :
    failWith context text = .ok u ↔ text = none := by
  cases text <;> simp [failWith]

/-- A mapped error is an error. -/
theorem mapError_eq_ok {α : Type} {x : Except String α} {f : String → String} {a : α} :
    x.mapError f = .ok a ↔ x = .ok a := by
  cases x <;> simp [Except.mapError]

/-- An interface is an end of a stored link. -/
def Tables.Linked (db : Tables) (x : String) : Prop := ∃ l ∈ db.links, l.Uses x

/-- Both interfaces of a specification exist, and no stored link uses one of them. -/
def Tables.Free (db : Tables) (s : LinkCreateSpec) : Prop :=
  (s.aInterfaceId ∈ db.interfaceIds ∧ s.bInterfaceId ∈ db.interfaceIds) ∧
    ∀ x, s.Uses x → ¬ db.Linked x

/-- The interface ids of a batch are those that its requests use. -/
theorem mem_interfaceIDs {x : String} : x ∈ interfaceIDs specs ↔ ∃ s ∈ specs, s.Uses x := by
  simp [interfaceIDs, LinkCreateSpec.Uses, eq_comm]

/-- The first query tells which of the ids exist. -/
theorem validateInterfacesExist_eq_ok {ids : Finset String}
    (h : validateInterfacesExist drv db ids = .ok existing) (x : String) :
    x ∈ existing ↔ x ∈ db.interfaceIds ∧ x ∈ ids := by
  unfold validateInterfacesExist at h
  split at h
  · next hempty =>
    cases h
    simp [hempty]
  · obtain ⟨_, _, h⟩ := bind_eq_ok.mp h
    cases h
    simp

/-- The second query tells which of the ids are linked. -/
theorem getLinkedInterfaces_eq_ok {ids : Finset String}
    (h : getLinkedInterfaces drv db ids = .ok linked) (x : String) :
    x ∈ linked ↔ db.Linked x ∧ x ∈ ids := by
  unfold getLinkedInterfaces at h
  split at h
  · next hempty =>
    cases h
    simp [hempty]
  · obtain ⟨_, _, h⟩ := bind_eq_ok.mp h
    cases h
    simp only [Tables.Linked, LinkRow.Uses, List.mem_filter, List.mem_append, List.mem_map,
      decide_eq_true_eq, and_or_left, exists_or]

/-- Against the answers of both queries the checks are those of the tables. -/
theorem passes_iff_free
    (hexisting : validateInterfacesExist drv db (interfaceIDs specs) = .ok existing)
    (hlinked : getLinkedInterfaces drv db (interfaceIDs specs) = .ok linked) {s : LinkCreateSpec}
    (hs : s ∈ specs) : Passes existing linked s ↔ db.Free s := by
  have hasked : ∀ x, s.Uses x → x ∈ interfaceIDs specs := fun x hx ↦
    mem_interfaceIDs.mpr ⟨s, hs, hx⟩
  have ha := hasked s.aInterfaceId (.inl rfl)
  have hb := hasked s.bInterfaceId (.inr rfl)
  unfold Passes Tables.Free
  apply and_congr
  · rw [validateInterfacesExist_eq_ok hexisting, validateInterfacesExist_eq_ok hexisting,
      and_iff_left ha, and_iff_left hb]
  · refine forall_congr' (fun x ↦ forall_congr' (fun hx ↦ ?_))
    rw [getLinkedInterfaces_eq_ok hlinked, and_iff_left (hasked x hx)]

/-- What a statement that succeeds has inserted. -/
theorem insert_eq_ok {rows : List LinkRow} : db.insert drv rows = .ok db' ↔
    drv.refuses rows = none ∧ ((db.links ++ rows).map LinkRow.id).Nodup ∧
      ((db.links ++ rows).map LinkRow.ends).Nodup ∧ db'.links = db.links ++ rows ∧
        db'.interfaceIds = db.interfaceIds := by
  unfold Tables.insert
  cases hrefuses : drv.refuses rows with
  | some text => simp
  | none =>
    by_cases h : ((db.links ++ rows).map LinkRow.id).Nodup ∧
        ((db.links ++ rows).map LinkRow.ends).Nodup
    · simp only [dif_pos h]
      constructor
      · intro heq
        cases heq
        exact ⟨trivial, h.1, h.2, rfl, rfl⟩
      · rintro ⟨_, _, _, hlinks, hids⟩
        congr 1
        cases db'
        cases hlinks
        cases hids
        rfl
    · simp only [dif_neg h]
      constructor
      · intro heq
        cases heq
      · rintro ⟨_, hids, hends, _⟩
        exact absurd ⟨hids, hends⟩ h

/-- The ids and the tables after an insertion, also if there is nothing to insert. -/
theorem bulkInsertLinks_eq_ok {validLinks : List ValidLink} {ids : List String}
    (h : bulkInsertLinks drv db validLinks = .ok (ids, db')) :
    ids = validLinks.map (fun v ↦ v.spec.row.id) ∧
      db'.links = db.links ++ validLinks.map (fun v ↦ v.spec.row) ∧
        db'.interfaceIds = db.interfaceIds := by
  unfold bulkInsertLinks at h
  split at h
  · next hnil =>
    cases h
    rw [hnil]
    exact ⟨rfl, (List.append_nil _).symm, rfl⟩
  · obtain ⟨db₁, hinsert, h⟩ := bind_eq_ok.mp h
    cases h
    obtain ⟨_, _, _, hlinks, hids⟩ := insert_eq_ok.mp (mapError_eq_ok.mp hinsert)
    exact ⟨List.map_map, hlinks, hids⟩

/-- The statements of a transaction that commits. -/
theorem transaction_eq_ok {ids : List String} {failures : List LinkCreationFailure} :
    transaction drv db specs = .ok ((ids, failures), db') ↔
      drv.beginTx = none ∧ drv.commit = none ∧ ∃ existing linked,
        validateInterfacesExist drv db (interfaceIDs specs) = .ok existing ∧
        getLinkedInterfaces drv db (interfaceIDs specs) = .ok linked ∧
        bulkInsertLinks drv db (select existing linked specs).validLinks = .ok (ids, db') ∧
        failures = (select existing linked specs).failures := by
  unfold transaction
  constructor
  · intro h
    obtain ⟨_, hbegin, h⟩ := bind_eq_ok.mp h
    obtain ⟨existing, hexisting, h⟩ := bind_eq_ok.mp h
    obtain ⟨linked, hlinked, h⟩ := bind_eq_ok.mp h
    obtain ⟨⟨ids', db₁⟩, hinsert, h⟩ := bind_eq_ok.mp h
    obtain ⟨_, hcommit, h⟩ := bind_eq_ok.mp h
    cases h
    exact ⟨failWith_eq_ok.mp hbegin, failWith_eq_ok.mp hcommit, existing, linked,
      mapError_eq_ok.mp hexisting, mapError_eq_ok.mp hlinked, mapError_eq_ok.mp hinsert, rfl⟩
  · rintro ⟨hbegin, hcommit, existing, linked, hexisting, hlinked, hinsert, rfl⟩
    refine bind_eq_ok.mpr ⟨(), failWith_eq_ok.mpr hbegin, ?_⟩
    refine bind_eq_ok.mpr ⟨existing, mapError_eq_ok.mpr hexisting, ?_⟩
    refine bind_eq_ok.mpr ⟨linked, mapError_eq_ok.mpr hlinked, ?_⟩
    refine bind_eq_ok.mpr ⟨(ids, db'), mapError_eq_ok.mpr hinsert, ?_⟩
    exact bind_eq_ok.mpr ⟨(), failWith_eq_ok.mpr hcommit, rfl⟩

/-! ### Partition -/

/-- No interface is an end of two links. -/
def Exclusive (links : List LinkRow) : Prop :=
  links.Pairwise (fun l l' ↦ ∀ x, l.Uses x → ¬ l'.Uses x)

/-- The answer and the tables of a transaction that takes the specifications at some places: the
others are the failures, and as long as a place fits into 32 bits each has one link or one failure. -/
structure Partition (db : Tables) (specs : List LinkCreateSpec) (takes : Nat → Bool)
    (createdIDs : List String) (failures : List LinkCreationFailure) (db' : Tables) : Prop where
  greedy : Greedy db.Free Clash specs takes
  created : createdIDs = (Greedy.taken specs takes).map (fun p ↦ p.1.row.id)
  links : db'.links = db.links ++ (Greedy.taken specs takes).map (fun p ↦ p.1.row)
  failed : failures.map LinkCreationFailure.index =
    (Greedy.skipped specs takes).map Int32.ofNat
  total : createdIDs.length + failures.length = specs.length
  once : specs.length ≤ 2 ^ 31 → ∀ i < specs.length,
    (Greedy.taken specs takes).countP (fun p ↦ p.2 = i) +
      failures.countP (fun f ↦ f.index.toInt = (i : Int)) = 1

private theorem row_uses {s : LinkCreateSpec} {x : String} : s.row.Uses x ↔ s.Uses x := Iff.rfl

/-- Links of specifications that the rule takes share no interface with each other or with stored
links. -/
theorem exclusive_taken {takes : Nat → Bool} (h : Exclusive db.links)
    (hgreedy : Greedy db.Free Clash specs takes) :
    Exclusive (db.links ++ (Greedy.taken specs takes).map (fun p ↦ p.1.row)) := by
  unfold Exclusive
  rw [List.pairwise_append]
  refine ⟨h, ?_, ?_⟩
  · rw [List.pairwise_map]
    refine hgreedy.pairwise_taken.imp ?_
    intro p q hclash x hp hq
    exact hclash ⟨x, row_uses.mp hq, row_uses.mp hp⟩
  · intro l hl l' hl' x hx hx'
    obtain ⟨p, hp, rfl⟩ := List.mem_map.mp hl'
    exact (hgreedy.ok_of_mem_taken hp).2 x (row_uses.mp hx') ⟨l, hl, hx⟩

/-- Places below `2 ^ 31` are told apart by their 32 bits. -/
theorem countP_index {failures : List LinkCreationFailure} {places : List Nat} {i : Nat}
    (h : failures.map LinkCreationFailure.index = places.map Int32.ofNat)
    (hplaces : ∀ j ∈ places, j < 2 ^ 31) :
    failures.countP (fun f ↦ f.index.toInt = (i : Int)) = places.count i := by
  have hmap := List.countP_map (p := fun x : Int32 ↦ x.toInt = (i : Int))
    (f := LinkCreationFailure.index) (l := failures)
  rw [h, List.countP_map] at hmap
  rw [List.count]
  refine hmap.symm.trans (List.countP_congr ?_)
  intro j hj
  simp [Int32.toInt_ofNat_of_lt (hplaces j hj)]

/-- An answer of the validation loop and of the insertion is a partition. -/
theorem Selected.partition {takes : Nat → Bool} {sel : Selection} {ids : List String}
    (h : Selected existing linked specs takes sel)
    (hok : ∀ s ∈ specs, Passes existing linked s ↔ db.Free s)
    (hids : ids = sel.validLinks.map (fun v ↦ v.spec.row.id))
    (hlinks : db'.links = db.links ++ sel.validLinks.map (fun v ↦ v.spec.row)) :
    Partition db specs takes ids sel.failures db' := by
  have hperm := Greedy.taken_append_skipped_perm specs takes
  have hcreated : ids = (Greedy.taken specs takes).map (fun p ↦ p.1.row.id) := by
    rw [hids, h.validLinks, List.map_map]
    rfl
  refine ⟨h.greedy.congr hok, hcreated, ?_, h.failures, ?_, ?_⟩
  · rw [hlinks, h.validLinks, List.map_map]
    rfl
  · have hlength := hperm.length_eq
    have hfailures := congrArg List.length h.failures
    simp only [List.length_map, List.length_append, List.length_range] at hlength hfailures
    rw [hcreated, List.length_map, hfailures, hlength]
  · intro hsmall i hi
    have hcount := hperm.count_eq i
    have hbelow : ∀ j ∈ Greedy.skipped specs takes, j < 2 ^ 31 := by
      intro j hj
      exact (List.mem_range.mp (List.mem_of_mem_filter hj)).trans_le hsmall
    rw [countP_index h.failures hbelow]
    rw [List.count_append, List.count_eq_one_of_mem List.nodup_range (List.mem_range.mpr hi)]
      at hcount
    rw [← hcount]
    congr 1
    rw [List.count, List.countP_map]
    apply List.countP_congr
    simp

/-- A transaction that succeeds takes the specifications that the greedy rule takes and reports the
others, and keeps interfaces exclusive; one that fails leaves the tables alone. -/
theorem createLinksInTransaction_partitions (hexclusive : Exclusive db.links) :
    (∀ text, (createLinksInTransaction drv db specs).1 = .error text →
      (createLinksInTransaction drv db specs).2 = db) ∧
    ∀ ids failures, (createLinksInTransaction drv db specs).1 = .ok (ids, failures) →
      (∃ takes, Partition db specs takes ids failures (createLinksInTransaction drv db specs).2) ∧
        Exclusive (createLinksInTransaction drv db specs).2.links := by
  unfold createLinksInTransaction
  cases hrun : transaction drv db specs with
  | error text =>
    refine ⟨fun _ _ ↦ rfl, ?_⟩
    intro ids failures hok
    cases hok
  | ok result =>
    obtain ⟨⟨ids, failures⟩, db₁⟩ := result
    constructor
    · intro text herror
      cases herror
    intro ids' failures' hok
    cases hok
    obtain ⟨_, _, existing, linked, hexisting, hlinked, hinsert, rfl⟩ := transaction_eq_ok.mp hrun
    obtain ⟨takes, hselected⟩ := exists_selected existing linked specs
    obtain ⟨hids, hlinks, _⟩ := bulkInsertLinks_eq_ok hinsert
    have hpartition := hselected.partition
      (fun s hs ↦ passes_iff_free hexisting hlinked hs) hids hlinks
    refine ⟨⟨takes, hpartition⟩, ?_⟩
    rw [hpartition.links]
    exact exclusive_taken hexclusive hpartition.greedy

/-- Three ports of an OLT and two ONTs, of which one is linked. -/
def halfLinked : Tables where
  interfaceIds := ["olt-if0", "olt-if1", "olt-if2", "ont1-if0", "ont2-if0"]
  links := [{ id := "olt-if0__ont1-if0", aInterfaceId := "olt-if0", bInterfaceId := "ont1-if0" }]

/-- Three specifications for its ports: the port of the first is linked, and the third wants the port
of the ONT that the second has taken. -/
def threeSpecs : List LinkCreateSpec :=
  [⟨"olt-if0", "ont2-if0", 1, "UP"⟩, ⟨"olt-if1", "ont2-if0", 1, ""⟩, ⟨"olt-if2", "ont2-if0", 1, ""⟩]

/-- Of three requests two create a link, and no interface has two. -/
theorem createLinksInTransaction_partitions_halfLinked :
    (createLinksInTransaction {} halfLinked threeSpecs).2.links.length = 2 ∧
      Exclusive (createLinksInTransaction {} halfLinked threeSpecs).2.links := by
  have hexclusive : Exclusive halfLinked.links := List.pairwise_singleton _ _
  obtain ⟨_, hok⟩ := @createLinksInTransaction_partitions threeSpecs {} halfLinked hexclusive
  obtain ⟨_, hexclusive'⟩ := hok ["olt-if1__ont2-if0"] [_, _] rfl
  exact ⟨rfl, hexclusive'⟩

end Unoc.Links.Bulk
