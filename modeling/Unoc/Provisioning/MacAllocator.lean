import Mathlib.Algebra.Group.Nat.Defs
import Mathlib.Data.Finset.Insert
import Unoc.Base.System

/-!
# The MAC allocator

`backend/services/mac_allocator.py` keeps a counter in memory and in a row of the database. A call that
meets an error of the database falls back on the counter in memory, and a restart of the process leaves
only the row.
-/

namespace Unoc.Provisioning.MacAllocator

open Unoc.Base

/-! ### Addresses -/

/-- The number of MAC addresses under the prefix. -/
def addresses : Nat := 2 ^ 24

/-- `f"\x7bb:02x\x7d"` of a byte. -/
def hexByte (b : Nat) : List Char := [(b / 16).digitChar, (b % 16).digitChar]

/-- `_format_mac`; `mac_allocator.py:78–86`. -/
def formatMac (n : Int) : String :=
  let k := (n % addresses).toNat
  String.ofList ([':'].intercalate
    ([0x02, 0x55, 0x4E, k / 2 ^ 16 % 256, k / 2 ^ 8 % 256, k % 256].map hexByte))

example : formatMac 0 = "02:55:4e:00:00:00" := by decide +kernel

example : formatMac 0x1234ab = "02:55:4e:12:34:ab" := by decide +kernel

private theorem digitChar_inj {a b : Nat} (ha : a < 16) (hb : b < 16)
    (h : a.digitChar = b.digitChar) :
    a = b := by
  have hall : ∀ x y : Fin 16, x.val.digitChar = y.val.digitChar → x.val = y.val := by decide +kernel
  exact hall ⟨a, ha⟩ ⟨b, hb⟩ h

/-- The digits of a byte are those of no other byte. -/
theorem hexByte_inj {a b : Nat} (ha : a < 256) (hb : b < 256) (h : hexByte a = hexByte b) :
    a = b := by
  simp only [hexByte, List.cons.injEq, and_true] at h
  have hhigh := digitChar_inj (by omega) (by omega) h.1
  have hlow := digitChar_inj (by omega) (by omega) h.2
  rw [← Nat.div_add_mod a 16, ← Nat.div_add_mod b 16, hhigh, hlow]

/-- Numbers of 24 bits have addresses of their own. -/
theorem formatMac_inj {m n : Int} (hm : 0 ≤ m) (hm' : m < addresses) (hn : 0 ≤ n)
    (hn' : n < addresses) (h : formatMac m = formatMac n) : m = n := by
  have hchars := String.ofList_injective h
  simp [List.intercalate, hexByte, -Nat.mod_mod_of_dvd] at hchars
  obtain ⟨h1, h2, h3, h4, h5, h6⟩ := hchars
  have hbyte : ∀ x, x % 256 < 256 := fun x ↦ Nat.mod_lt x (by decide)
  have hhigh := hexByte_inj (hbyte _) (hbyte _) (congrArg₂ (fun c d ↦ [c, d]) h1 h2)
  have hmid := hexByte_inj (hbyte _) (hbyte _) (congrArg₂ (fun c d ↦ [c, d]) h3 h4)
  have hlow := hexByte_inj (hbyte _) (hbyte _) (congrArg₂ (fun c d ↦ [c, d]) h5 h6)
  rw [addresses] at hm' hn' hhigh hmid hlow
  omega

/-! ### A call -/

/-- Where the database may fail in a call; each happens at most once. -/
inductive DbStep where
  | session
  | createTable
  | selectSeed
  | insertSeed
  | selectLast
  | update
  | commit
  deriving DecidableEq

/-- `_STATE`, `_USED` and `_TABLE_CREATED`; `mac_allocator.py:27–35`. -/
structure Memory where
  last : Int := -1
  used : Finset String := ∅
  tableCreated : Bool := false
  deriving DecidableEq

/-- The memory, and the row as the session sees it, where an absent table counts as an absent row. -/
structure Work where
  memory : Memory
  row : Option Int
  deriving DecidableEq

/-- What a statement leaves: an error keeps the memory that it was raised with. -/
abbrev Attempt (α : Type) := Except Work α

section Call

variable (fails : DbStep → Bool)

/-- `_ensure_table`; `mac_allocator.py:38–55`. -/
def ensureTable (w : Work) : Attempt Work :=
  if w.memory.tableCreated then .ok w
  else if fails .createTable then .error w
  else if fails .selectSeed then .error w
  else if w.row.isNone && fails .insertSeed then .error w
  else .ok ⟨{ w.memory with tableCreated := true }, some (w.row.getD (-1))⟩

/-- `_load_last`; `mac_allocator.py:58–61`. -/
def loadLast (w : Work) : Attempt (Int × Work) :=
  match ensureTable fails w with
  | .error w => .error w
  | .ok w => if fails .selectLast then .error w else .ok (w.row.getD (-1), w)

/-- `_store_last`; an update of an absent row has no effect; `mac_allocator.py:64–66`. -/
def storeLast (w : Work) (value : Int) : Attempt Work :=
  match ensureTable fails w with
  | .error w => .error w
  | .ok w => if fails .update then .error w else .ok { w with row := w.row.map (fun _ ↦ value) }

/-- The first number from one on whose address is not used, if there is one; after `addresses` numbers
the addresses repeat; `mac_allocator.py:101–103`. -/
def skipUsed (used : Finset String) : Nat → Int → Option Int
  | 0, _ => none
  | fuel + 1, n => if formatMac n ∈ used then skipUsed used fuel (n + 1) else some n

/-- An address is drawn from a number on, with `none` for a loop without end; `mac_allocator.py:99–104`,
`mac_allocator.py:126–134`. -/
def draw (m : Memory) (n : Int) : Option (String × Memory) :=
  (skipUsed m.used addresses n).map (fun n ↦
    (formatMac n, { m with last := n, used := insert (formatMac n) m.used }))

/-- The counter of a call, read from the row on first use; `mac_allocator.py:94–97`. -/
def loadCounter (w : Work) : Attempt Work :=
  if w.memory.last < 0 then
    match loadLast fails w with
    | .error w => .error w
    | .ok (dbLast, w) => .ok { w with memory := { w.memory with last := dbLast } }
  else .ok w

/-- The statements after an address is drawn; `mac_allocator.py:105–106`. -/
def storeCounter (w : Work) : Attempt Work :=
  match storeLast fails w w.memory.last with
  | .error w => .error w
  | .ok w => if fails .commit then .error w else .ok w

/-- The block under `try`; `mac_allocator.py:93–107`. -/
def tryDatabase (w : Work) : Option (Attempt (String × Work)) :=
  match loadCounter fails w with
  | .error w => some (.error w)
  | .ok w =>
    (draw w.memory (w.memory.last + 1)).map (fun drawn ↦
      match storeCounter fails { w with memory := drawn.2 } with
      | .error w => .error w
      | .ok w => .ok (drawn.1, w))

/-- The path in memory; `mac_allocator.py:121–135`. -/
def fallback (m : Memory) : Option (String × Memory) :=
  draw m (if m.last < 0 then 0 else m.last + 1)

/-- The process, the committed row, and the addresses returned so far. -/
structure Allocator where
  memory : Memory := {}
  row : Option Int := none
  returned : List String := []
  deriving DecidableEq

/-- A call that returns from memory; the session is rolled back. -/
def Allocator.fallBack (a : Allocator) (m : Memory) : Option Allocator :=
  (fallback m).map (fun drawn ↦
    { a with memory := drawn.2, returned := a.returned ++ [drawn.1] })

/-- `next_mac`, with `none` for a call that does not return; `mac_allocator.py:89–135`. -/
def nextMac (a : Allocator) : Option Allocator :=
  if fails .session then a.fallBack a.memory
  else
    match tryDatabase fails ⟨a.memory, a.row⟩ with
    | none => none
    | some (.ok (mac, w)) => some ⟨w.memory, w.row, a.returned ++ [mac]⟩
    | some (.error w) => a.fallBack w.memory

end Call

/-- A call with its failures, or a restart. -/
inductive Action where
  | call (fails : DbStep → Bool)
  | restart

/-- One action. A process whose call does not return takes no further call, and restarts as if it had
not made it. -/
def act (a : Allocator) : Action → Option Allocator
  | .call fails => nextMac fails a
  | .restart => some { a with memory := {} }

/-- Runs from an empty database. -/
def allocator : System Allocator Action := .ofAct (fun a ↦ a = {}) act

/-! ### The condition -/

/-- The counter that the next address is drawn from. -/
def Allocator.counter (a : Allocator) : Int :=
  if a.memory.last < 0 then a.row.getD (-1) else a.memory.last

/-- The row cannot be read. -/
def LoadFails (fails : DbStep → Bool) : Prop :=
  fails .session ∨ fails .createTable ∨ fails .selectSeed ∨ fails .selectLast

/-- The counter cannot be stored. -/
def StoreFails (fails : DbStep → Bool) (a : Allocator) : Prop :=
  fails .update ∨ fails .commit ∨ a.memory.tableCreated = false ∧
    (fails .createTable ∨ fails .selectSeed ∨ a.row = none ∧ fails .insertSeed)

/-- A process starts with the counter that the last one ended with, and the counter stays within its 24
bits. -/
def CounterKept (a : Allocator) : Action → Prop
  | .call fails =>
    (a.memory.last < 0 → LoadFails fails → a.row.getD (-1) < 0) ∧
      a.counter + 1 < addresses ∧
        (¬ fails .session → StoreFails fails a → a.counter + 2 < addresses)
  | .restart => a.memory.last ≤ a.row.getD (-1)

/-! ### Drawing -/

/-- The used addresses are those of numbers up to the counter. -/
structure Memory.Bounded (m : Memory) : Prop where
  last : -1 ≤ m.last
  used : ∀ mac ∈ m.used, ∃ n, 0 ≤ n ∧ n ≤ m.last ∧ mac = formatMac n

/-- The memory after the next number. -/
def Memory.advance (m : Memory) : Memory :=
  { m with last := m.last + 1, used := insert (formatMac (m.last + 1)) m.used }

private theorem Memory.Bounded.advance {m : Memory} (h : m.Bounded) : m.advance.Bounded where
  last := by
    have hlast := h.last
    simp only [Memory.advance]
    omega
  used mac hmac := by
    have hlast := h.last
    simp only [Memory.advance] at hmac ⊢
    rcases Finset.mem_insert.mp hmac with rfl | hmac
    · exact ⟨m.last + 1, by omega, le_refl _, rfl⟩
    · obtain ⟨n, hn, hle, heq⟩ := h.used mac hmac
      exact ⟨n, hn, by omega, heq⟩

/-- The next number is unused while it is within 24 bits. -/
theorem draw_next {m : Memory} (h : m.Bounded) (hlt : m.last + 1 < addresses) :
    draw m (m.last + 1) = some (formatMac (m.last + 1), m.advance) := by
  have hlast := h.last
  have hunused : formatMac (m.last + 1) ∉ m.used := by
    intro hused
    obtain ⟨n, hn, hle, heq⟩ := h.used _ hused
    have heq := formatMac_inj (by omega) hlt hn (by omega) heq
    omega
  have hskip : skipUsed m.used addresses (m.last + 1) = some (m.last + 1) :=
    if_neg hunused
  rw [draw, hskip]
  rfl

private theorem fallback_next {m : Memory} (h : m.Bounded) (hlt : m.last + 1 < addresses) :
    fallback m = some (formatMac (m.last + 1), m.advance) := by
  have hlast := h.last
  have hstart : (if m.last < 0 then 0 else m.last + 1) = m.last + 1 := by
    split <;> omega
  rw [fallback, hstart, draw_next h hlt]

/-! ### The statements of the session -/

section Statements

variable {fails : DbStep → Bool} {w w' : Work}

/-- Only the flag of the table differs. -/
def SameCounter (m m' : Memory) : Prop := m'.last = m.last ∧ m'.used = m.used

private theorem SameCounter.bounded {m m' : Memory} (h : SameCounter m m') (hm : m.Bounded) :
    m'.Bounded := by
  obtain ⟨hlast, hused⟩ := h
  exact ⟨hlast ▸ hm.last, hlast ▸ hused ▸ hm.used⟩

private theorem ensureTable_ok (h : ensureTable fails w = .ok w') : SameCounter w.memory w'.memory ∧
    w'.row.getD (-1) = w.row.getD (-1) ∧ w'.memory.tableCreated = true := by
  unfold ensureTable at h
  split at h
  · next hcreated => cases h; exact ⟨⟨rfl, rfl⟩, rfl, hcreated⟩
  · split at h
    · cases h
    · split at h
      · cases h
      · split at h
        · cases h
        · cases h; exact ⟨⟨rfl, rfl⟩, rfl, rfl⟩

private theorem ensureTable_error (h : ensureTable fails w = .error w') : w' = w ∧
    w.memory.tableCreated = false ∧
      (fails .createTable ∨ fails .selectSeed ∨ w.row = none ∧ fails .insertSeed) := by
  unfold ensureTable at h
  split at h
  · cases h
  · next htable =>
    have hcreated : w.memory.tableCreated = false := by simpa using htable
    split at h
    · next hfail => cases h; exact ⟨rfl, hcreated, Or.inl hfail⟩
    · split at h
      · next hfail => cases h; exact ⟨rfl, hcreated, Or.inr (Or.inl hfail)⟩
      · split at h
        · next hfail =>
          cases h
          rw [Bool.and_eq_true, Option.isNone_iff_eq_none] at hfail
          exact ⟨rfl, hcreated, Or.inr (Or.inr hfail)⟩
        · cases h

private theorem loadLast_ok {dbLast : Int} (h : loadLast fails w = .ok (dbLast, w')) :
    dbLast = w.row.getD (-1) ∧ SameCounter w.memory w'.memory ∧
      w'.row.getD (-1) = w.row.getD (-1) ∧ w'.memory.tableCreated = true := by
  unfold loadLast at h
  cases hensure : ensureTable fails w with
  | error x => rw [hensure] at h; cases h
  | ok x =>
    obtain ⟨hsame, hrow, hcreated⟩ := ensureTable_ok hensure
    simp only [hensure] at h
    split at h
    · cases h
    · cases h
      exact ⟨hrow, hsame, hrow, hcreated⟩

private theorem loadLast_error (h : loadLast fails w = .error w') : SameCounter w.memory w'.memory ∧
    (LoadFails fails ∨ w.row = none) := by
  unfold loadLast at h
  cases hensure : ensureTable fails w with
  | error x =>
    obtain ⟨rfl, _, hfail⟩ := ensureTable_error hensure
    rw [hensure] at h
    cases h
    refine ⟨⟨rfl, rfl⟩, ?_⟩
    rcases hfail with hfail | hfail | ⟨hnone, _⟩
    · exact Or.inl (Or.inr (Or.inl hfail))
    · exact Or.inl (Or.inr (Or.inr (Or.inl hfail)))
    · exact Or.inr hnone
  | ok x =>
    simp only [hensure] at h
    split at h
    · next hfail =>
      cases h
      exact ⟨(ensureTable_ok hensure).1, Or.inl (Or.inr (Or.inr (Or.inr hfail)))⟩
    · cases h

private theorem storeCounter_ok (h : storeCounter fails w = .ok w') :
    SameCounter w.memory w'.memory ∧
    (w'.row.getD (-1) = w.row.getD (-1) ∨ w'.row.getD (-1) = w.memory.last) := by
  unfold storeCounter storeLast at h
  cases hensure : ensureTable fails w with
  | error x => rw [hensure] at h; cases h
  | ok x =>
    obtain ⟨hsame, hrow, _⟩ := ensureTable_ok hensure
    simp only [hensure] at h
    cases hupdate : fails .update <;> cases hcommit : fails .commit <;>
      simp only [hupdate, hcommit, if_true, if_false, Bool.false_eq_true, reduceCtorEq] at h
    cases h
    refine ⟨hsame, ?_⟩
    rw [← hrow]
    cases x.row with
    | none => exact Or.inl rfl
    | some r => exact Or.inr rfl

private theorem storeCounter_error (h : storeCounter fails w = .error w') :
    SameCounter w.memory w'.memory ∧
    (fails .update ∨ fails .commit ∨ w.memory.tableCreated = false ∧
      (fails .createTable ∨ fails .selectSeed ∨ w.row = none ∧ fails .insertSeed)) := by
  unfold storeCounter storeLast at h
  cases hensure : ensureTable fails w with
  | error x =>
    obtain ⟨rfl, hfail⟩ := ensureTable_error hensure
    rw [hensure] at h
    cases h
    exact ⟨⟨rfl, rfl⟩, Or.inr (Or.inr hfail)⟩
  | ok x =>
    have hsame := (ensureTable_ok hensure).1
    simp only [hensure] at h
    cases hupdate : fails .update <;> cases hcommit : fails .commit <;>
      simp only [hupdate, hcommit, if_true, if_false, Bool.false_eq_true, reduceCtorEq] at h
    all_goals
      cases h
      exact ⟨hsame, by simp⟩

end Statements

/-! ### The invariant -/

/-- Addresses are those of distinct numbers up to the counter, and neither the counter nor the row
exceeds 24 bits. -/
structure Inv (a : Allocator) : Prop where
  fresh : a.memory.last < 0 → a.memory.used = ∅
  bounded : a.memory.Bounded
  last_lt : a.memory.last < addresses
  row_ge : -1 ≤ a.row.getD (-1)
  row_lt : a.row.getD (-1) < addresses
  handed : ∀ mac ∈ a.returned, ∃ n, 0 ≤ n ∧ n ≤ a.counter ∧ mac = formatMac n
  nodup : a.returned.Nodup

private theorem inv_init : Inv {} where
  fresh _ := rfl
  bounded := ⟨le_refl _, fun _ h ↦ absurd h (Finset.notMem_empty _)⟩
  last_lt := by decide
  row_ge := by decide
  row_lt := by decide
  handed _ h := by cases h
  nodup := .nil

/-- What a call does to the allocator: the counter moves on, to the number of the address. -/
structure Advanced (a a' : Allocator) : Prop where
  bounded : a'.memory.Bounded
  counter_lt : a.counter < a'.memory.last
  last_lt : a'.memory.last < addresses
  returned : a'.returned = a.returned ++ [formatMac a'.memory.last]
  row : a'.row.getD (-1) = a.row.getD (-1) ∨ a'.row.getD (-1) = a'.memory.last

section Steps

variable {fails : DbStep → Bool} {a a' : Allocator}

private theorem Inv.counter_ge (h : Inv a) : -1 ≤ a.counter := by
  unfold Allocator.counter
  split
  · exact h.row_ge
  · exact h.bounded.last

/-- The counter of a call that reads it. -/
theorem Inv.loadCounter_ok (h : Inv a) {w : Work}
    (hload : loadCounter fails ⟨a.memory, a.row⟩ = .ok w) :
    w.memory.Bounded ∧ w.memory.last = a.counter ∧ w.row.getD (-1) = a.row.getD (-1) ∧
      (w.memory.tableCreated = false → a.memory.tableCreated = false ∧ w.row = a.row) := by
  unfold loadCounter at hload
  unfold Allocator.counter
  split at hload
  · next hlast =>
    rw [if_pos hlast]
    cases hdb : loadLast fails ⟨a.memory, a.row⟩ with
    | error x => rw [hdb] at hload; cases hload
    | ok x =>
      obtain ⟨dbLast, x⟩ := x
      obtain ⟨rfl, ⟨_, hused⟩, hrow, hcreated⟩ := loadLast_ok hdb
      simp only [hdb, Except.ok.injEq] at hload
      subst hload
      refine ⟨⟨h.row_ge, ?_⟩, rfl, hrow, ?_⟩
      · intro mac hmac
        rw [hused, h.fresh hlast] at hmac
        exact absurd hmac (Finset.notMem_empty _)
      · intro hno
        simp only [hcreated] at hno
        cases hno
  · next hlast =>
    cases hload
    rw [if_neg hlast]
    exact ⟨h.bounded, rfl, rfl, fun hcreated ↦ ⟨hcreated, rfl⟩⟩

/-- A process that cannot read the row starts at zero, and so did the first one. -/
theorem Inv.loadCounter_error (h : Inv a) {w : Work}
    (hkept : a.memory.last < 0 → LoadFails fails → a.row.getD (-1) < 0)
    (hload : loadCounter fails ⟨a.memory, a.row⟩ = .error w) :
    w.memory.Bounded ∧ w.memory.last = a.counter := by
  unfold loadCounter at hload
  split at hload
  · next hlast =>
    cases hdb : loadLast fails ⟨a.memory, a.row⟩ with
    | ok x => rw [hdb] at hload; cases hload
    | error x =>
      obtain ⟨hsame, hwhy⟩ := loadLast_error hdb
      rw [hdb] at hload
      cases hload
      have hrow : a.row.getD (-1) < 0 := by
        rcases hwhy with hfail | hnone
        · exact hkept hlast hfail
        · rw [show a.row = none from hnone]
          decide
      have hge := h.row_ge
      have hmin := h.bounded.last
      refine ⟨hsame.bounded h.bounded, ?_⟩
      dsimp only at hlast
      unfold Allocator.counter
      rw [if_pos hlast, hsame.1]
      dsimp only
      omega
  · cases hload

/-- A call that falls back advances the counter of its memory. -/
theorem fallBack_advanced {m : Memory} (hm : m.Bounded) (hcounter : a.counter ≤ m.last)
    (hlt : m.last + 1 < addresses) (hcall : a.fallBack m = some a') : Advanced a a' := by
  rw [Allocator.fallBack, fallback_next hm hlt] at hcall
  cases hcall
  exact ⟨hm.advance, Int.lt_add_one_of_le hcounter, hlt, rfl, Or.inl rfl⟩

/-- Every call whose process starts with the counter of the last one advances it. -/
theorem Inv.nextMac_advanced (h : Inv a) (hkept : CounterKept a (.call fails))
    (hcall : nextMac fails a = some a') : Advanced a a' := by
  obtain ⟨hfresh, hroom, hroom2⟩ := hkept
  unfold nextMac at hcall
  split at hcall
  · next hsession =>
    -- no session, the counter of the memory
    have hcounter : a.memory.last = a.counter := by
      unfold Allocator.counter
      split
      · next hlast =>
        have hrow := hfresh hlast (Or.inl hsession)
        have hge := h.row_ge
        have hmin := h.bounded.last
        omega
      · rfl
    exact fallBack_advanced h.bounded hcounter.ge (hcounter ▸ hroom) hcall
  · next hsession =>
    unfold tryDatabase at hcall
    cases hload : loadCounter fails ⟨a.memory, a.row⟩ with
    | error w =>
      -- the row is not read, the counter of the memory
      obtain ⟨hbounded, hcounter⟩ := h.loadCounter_error hfresh hload
      simp only [hload] at hcall
      exact fallBack_advanced hbounded hcounter.ge (hcounter ▸ hroom) hcall
    | ok w =>
      obtain ⟨hbounded, hcounter, hrow, hcreated⟩ := h.loadCounter_ok hload
      have hlt : w.memory.last + 1 < addresses := hcounter ▸ hroom
      simp only [hload, draw_next hbounded hlt, Option.map_some] at hcall
      have hnext : w.memory.advance.last = a.counter + 1 := by
        rw [← hcounter]
        rfl
      cases hstore : storeCounter fails { w with memory := w.memory.advance } with
      | ok w' =>
        obtain ⟨hsame, hrow'⟩ := storeCounter_ok hstore
        simp only [hstore, Option.some.injEq] at hcall
        subst hcall
        have hlast : w'.memory.last = a.counter + 1 := hsame.1.trans hnext
        refine ⟨hsame.bounded hbounded.advance, ?_, ?_, ?_, ?_⟩
        · dsimp only
          omega
        · dsimp only
          omega
        · dsimp only
          rw [hlast, hcounter]
        · dsimp only at hrow' ⊢
          rw [hrow, hnext] at hrow'
          rw [hlast]
          exact hrow'
      | error w' =>
        -- the counter is not stored, and the next number is drawn from memory
        obtain ⟨hsame, hwhy⟩ := storeCounter_error hstore
        simp only [hstore] at hcall
        have hfails : StoreFails fails a := by
          rcases hwhy with hfail | hfail | ⟨htable, hfail⟩
          · exact Or.inl hfail
          · exact Or.inr (Or.inl hfail)
          · obtain ⟨hno, heq⟩ := hcreated htable
            exact Or.inr (Or.inr ⟨hno, heq ▸ hfail⟩)
        have hlast : w'.memory.last = a.counter + 1 := hsame.1.trans hnext
        have htwo := hroom2 hsession hfails
        exact fallBack_advanced (hsame.bounded hbounded.advance) (by omega) (by omega) hcall

/-- An advanced counter has an address that was not returned. -/
theorem Inv.advanced (h : Inv a) (hadvanced : Advanced a a') : Inv a' := by
  obtain ⟨hbounded, hcounter, hlt, hreturned, hrow⟩ := hadvanced
  have hge := h.counter_ge
  have hlast : ¬ a'.memory.last < 0 := by omega
  have hcounter' : a'.counter = a'.memory.last := if_neg hlast
  have hrow_ge := h.row_ge
  have hrow_lt := h.row_lt
  refine ⟨fun hneg ↦ absurd hneg hlast, hbounded, hlt, ?_, ?_, ?_, ?_⟩
  · omega
  · omega
  · intro mac hmac
    rw [hreturned] at hmac
    rw [hcounter']
    rcases List.mem_append.mp hmac with hmac | hmac
    · obtain ⟨n, hn, hle, heq⟩ := h.handed mac hmac
      exact ⟨n, hn, by omega, heq⟩
    · exact ⟨_, by omega, le_refl _, List.mem_singleton.mp hmac⟩
  · rw [hreturned]
    refine List.nodup_append.mpr ⟨h.nodup, List.nodup_singleton _, ?_⟩
    rintro mac hmac _ hnew rfl
    obtain ⟨n, hn, hle, heq⟩ := h.handed mac hmac
    have heq' := formatMac_inj hn (by omega) (by omega) hlt (heq.symm.trans (List.mem_singleton.mp hnew))
    omega

/-- A restart behind which the row holds the counter. -/
theorem Inv.restart (h : Inv a) (hkept : CounterKept a .restart) :
    Inv { a with memory := {} } := by
  refine ⟨fun _ ↦ rfl, inv_init.bounded, inv_init.last_lt, h.row_ge, h.row_lt, ?_, h.nodup⟩
  intro mac hmac
  obtain ⟨n, hn, hle, heq⟩ := h.handed mac hmac
  refine ⟨n, hn, hle.trans ?_, heq⟩
  have hcounter : ({ a with memory := {} } : Allocator).counter = a.row.getD (-1) :=
    if_pos (by decide : (-1 : Int) < 0)
  rw [hcounter]
  unfold Allocator.counter
  split
  · exact le_refl _
  · exact hkept

end Steps

/-- In every run whose processes start with the counter of the last one, no address is returned
twice. -/
theorem returned_nodup_of_counterKept {a : Allocator}
    (h : (allocator.restrict CounterKept).Reachable a) : a.returned.Nodup := by
  have hinv : Inv a := by
    apply h.invariant
    · rintro s rfl
      exact inv_init
    · rintro s action s' hs ⟨hkept, hact⟩
      cases action with
      | call fails => exact hs.advanced (hs.nextMac_advanced hkept hact)
      | restart =>
        cases hact
        exact hs.restart hkept
  exact hinv.nodup

/-! ### Runs with failures -/

/-- Nothing fails. -/
def noFailure : DbStep → Bool := fun _ ↦ false

/-- One step fails. -/
def failing (step : DbStep) : DbStep → Bool := fun s ↦ s = step

/-- Whether the counter is kept is checked on the rows before the step. -/
instance (a : Allocator) : DecidablePred (CounterKept a)
  | .call _ => inferInstanceAs (Decidable ((_ → _ ∨ _ → _) ∧ _ ∧ (_ → _ ∨ _ → _)))
  | .restart => inferInstanceAs (Decidable (_ ≤ _))

/-- A commit that fails, a call that stores the counter again, and a restart. -/
def repairedRun : List Action :=
  [.call noFailure, .call (failing .commit), .call noFailure, .restart, .call noFailure]

/-- A counter that lost its row is repaired, and a restart finds it. -/
theorem returned_nodup_repairedRun : ∃ a,
    System.run (System.guard CounterKept act) {} repairedRun = some a ∧ a.returned.length = 4 ∧
      a.returned.Nodup := by
  refine ⟨(System.run (System.guard CounterKept act) {} repairedRun).getD {}, by decide +kernel,
    by decide +kernel, ?_⟩
  apply returned_nodup_of_counterKept
  exact System.Reachable.run (System.guard CounterKept act) (fun _ _ _ ↦ System.restrict_of_guard)
    repairedRun (.init rfl) (by decide +kernel)

/-- A process that starts while the database has no session returns the first address again. -/
theorem restart_without_session_repeats : ∃ a, allocator.Reachable a ∧ ¬ a.returned.Nodup := by
  let run : List Action := [.call noFailure, .restart, .call (failing .session)]
  refine ⟨(System.run act {} run).getD {}, ?_, by decide +kernel⟩
  exact System.Reachable.run act (fun _ _ _ h ↦ h) run (.init rfl) (by decide +kernel)

end Unoc.Provisioning.MacAllocator
