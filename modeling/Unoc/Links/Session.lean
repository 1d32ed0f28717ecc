import Unoc.EventStore.Log
import Unoc.Links.Rules

/-!
# Database sessions of link requests

A request reads and writes through one session: rows that it adds are visible to its later queries
and are kept by a commit only. A row that breaks a unique constraint loses the transaction at the
next flush; from then on every query of the session raises. The column `mac_address` is left out.
-/

namespace Unoc.Links

open Unoc.Model
open Unoc.EventStore

/-- The tables and the event rows. -/
structure Store where
  db : Database
  events : List EventStoreRecord := []

/-- The store as the session sees it, and whether a unique constraint was broken. -/
structure Session where
  rows : Store
  lost : Bool := false

/-- What a request reads from outside the database: `hashlib.md5` of a text as an integer, and the
clock text put into the record of each sequence number. -/
structure Runtime where
  md5 : String → Nat
  now : Nat → String

/-! ### Computations -/

/-- A computation on a session; a raised error keeps what was added before it. -/
def Tx (α : Type) : Type := Session → Except LinkError α × Session

namespace Tx

variable {α β : Type}

/-- Transactions run one after the other; an error ends them. -/
instance : Monad Tx where
  pure a s := (.ok a, s)
  bind x f s := match x s with
    | (.ok a, s') => f a s'
    | (.error e, s') => (.error e, s')

/-- A check that does not query the database. -/
def check (x : Except LinkError α) : Tx α := fun s ↦ (x, s)

/-- A query with a check of what it returns; a lost session raises. -/
def query (f : Database → Except LinkError α) : Tx α := fun s ↦
  if s.lost then (.error .database, s) else (f s.rows.db, s)

/-- Add rows to the session; rows that break a constraint are `none`. -/
def add (f : Store → Option Store) : Tx Unit := fun s ↦
  match f s.rows with
  | some rows => (.ok (), { s with rows := rows })
  | none => (.ok (), { s with lost := true })

section

variable {x : Tx α} {f : α → Tx β} {s s' m : Session}

/-- After a value the next transaction runs. -/
theorem bind_of_ok {a : α} (h : x s = (.ok a, m)) : (x >>= f) s = f a m := by
  simp only [bind, h]

/-- After an error nothing runs. -/
theorem bind_of_error {e : LinkError} (h : x s = (.error e, m)) : (x >>= f) s = (.error e, m) := by
  simp only [bind, h]

/-- Two transactions in a row succeed if both do. -/
theorem bind_eq_ok {b : β} :
    (x >>= f) s = (.ok b, s') ↔ ∃ a m, x s = (.ok a, m) ∧ f a m = (.ok b, s') := by
  rcases hrun : x s with ⟨e | a, m⟩
  · simp [bind_of_error hrun]
  · simp [bind_of_ok hrun]

/-- Two transactions in a row fail in the first or in the second. -/
theorem bind_eq_error {e : LinkError} : (x >>= f) s = (.error e, s') ↔
    x s = (.error e, s') ∨ ∃ a m, x s = (.ok a, m) ∧ f a m = (.error e, s') := by
  rcases hrun : x s with ⟨e' | a, m⟩
  · simp [bind_of_error hrun]
  · simp [bind_of_ok hrun]

end

/-- A value leaves the session as it is. -/
theorem pure_eq_ok {s s' : Session} {a b : α} :
    (pure a : Tx α) s = (.ok b, s') ↔ a = b ∧ s = s' := by
  simp [pure]

/-- A check that passes leaves the session as it is. -/
theorem check_eq_ok {x : Except LinkError α} {s s' : Session} {a : α} :
    check x s = (.ok a, s') ↔ x = .ok a ∧ s = s' := by
  simp [check]

/-- A query that passes leaves the session as it is. -/
theorem query_eq_ok {f : Database → Except LinkError α} {s s' : Session} {a : α} :
    query f s = (.ok a, s') ↔ s.lost = false ∧ f s.rows.db = .ok a ∧ s = s' := by
  unfold query
  cases s.lost <;> simp

/-- A check in front of a transaction. -/
theorem check_bind_eq_ok {x : Except LinkError α} {f : α → Tx β} {s s' : Session} {b : β} :
    (check x >>= f) s = (.ok b, s') ↔ ∃ a, x = .ok a ∧ f a s = (.ok b, s') := by
  simp only [bind_eq_ok, check_eq_ok]
  exact ⟨fun ⟨a, _, ⟨hx, hs⟩, hf⟩ ↦ ⟨a, hx, hs ▸ hf⟩, fun ⟨a, hx, hf⟩ ↦ ⟨a, s, ⟨hx, rfl⟩, hf⟩⟩

/-- A query in front of a transaction. -/
theorem query_bind_eq_ok {f : Database → Except LinkError α} {g : α → Tx β} {s s' : Session} {b : β} :
    (query f >>= g) s = (.ok b, s') ↔
      s.lost = false ∧ ∃ a, f s.rows.db = .ok a ∧ g a s = (.ok b, s') := by
  simp only [bind_eq_ok, query_eq_ok]
  constructor
  · rintro ⟨a, _, ⟨hlost, hf, rfl⟩, hg⟩
    exact ⟨hlost, a, hf, hg⟩
  · rintro ⟨hlost, a, hf, hg⟩
    exact ⟨a, s, ⟨hlost, hf, rfl⟩, hg⟩

/-- A query leaves the session as it is. -/
theorem query_session {f : Database → Except LinkError α} {s s' : Session} {r : Except LinkError α}
    (h : query f s = (r, s')) : s' = s := by
  unfold query at h
  split at h <;> exact (Prod.mk.inj h).2.symm

/-- Adding rows raises nothing before the next flush. -/
theorem add_eq (f : Store → Option Store) (s : Session) : add f s = (.ok (), (add f s).2) := by
  unfold add
  split <;> rfl

/-- An insertion that fails loses the session. -/
theorem add_lost {f : Store → Option Store} {s : Session} (h : s.lost = false) :
    (add f s).2.lost = true ↔ f s.rows = none := by
  unfold add
  split
  · next hf => simp [h, hf]
  · next hf => simp [hf]

/-- Rows that are added without breaking a constraint. -/
theorem add_eq_ok {f : Store → Option Store} {s s' : Session} {u : Unit} (h : add f s = (.ok u, s'))
    (hlost : s'.lost = false) : f s.rows = some s'.rows ∧ s.lost = false := by
  unfold add at h
  cases hf : f s.rows with
  | none =>
    rw [hf, Prod.mk.injEq] at h
    rw [← h.2] at hlost
    cases hlost
  | some rows =>
    rw [hf, Prod.mk.injEq] at h
    rw [← h.2] at hlost ⊢
    exact ⟨rfl, hlost⟩

end Tx

/-! ### Rows -/

/-- Insert an interface, unless its id, or its device and name, are taken; `interface.py:29–48`. -/
def insertInterface (i : Interface) (store : Store) : Option Store :=
  if h : ∀ j ∈ store.db.interfaces, j.id ≠ i.id ∧ ¬ (j.deviceId = i.deviceId ∧ j.name = i.name) then
    some { store with
      db := { store.db with
        interfaces := store.db.interfaces ++ [i]
        interfaces_nodup := by
          rw [List.map_append, List.map_cons, List.map_nil]
          refine List.nodup_append.mpr ⟨store.db.interfaces_nodup, List.nodup_singleton _, ?_⟩
          intro x hx y hy
          obtain ⟨j, hj, rfl⟩ := List.mem_map.mp hx
          rw [List.mem_singleton.mp hy]
          exact (h j hj).1 } }
  else none

/-- Insert a link, unless its id or its pair of endpoints is taken; `link.py:19–37`. -/
def insertLink (l : Link) (store : Store) : Option Store :=
  if h : ∀ m ∈ store.db.links, m.id ≠ l.id ∧
      ¬ (m.aInterfaceId = l.aInterfaceId ∧ m.bInterfaceId = l.bInterfaceId) then
    some { store with
      db := { store.db with
        links := store.db.links ++ [l]
        links_nodup := by
          rw [List.map_append, List.map_cons, List.map_nil]
          refine List.nodup_append.mpr ⟨store.db.links_nodup, List.nodup_singleton _, ?_⟩
          intro x hx y hy
          obtain ⟨m, hm, rfl⟩ := List.mem_map.mp hx
          rw [List.mem_singleton.mp hy]
          exact (h m hm).1 } }
  else none

/-- `append_domain_event` with an empty correlation id; `event_store.py:85–116`. -/
def appendDomainEvent (env : Runtime) (eventType entityId : String) (payload : Payload)
    (store : Store) : Option Store :=
  let sequence := nextSequence store.events
  ((AppendCall.domainEvent eventType entityId payload none (env.now sequence)).record sequence).map
    (fun r ↦ { store with events := store.events ++ [r] })

/-- Inserting an interface changes no other row. -/
theorem insertInterface_eq_some {i : Interface} {store store' : Store}
    (h : insertInterface i store = some store') :
    store'.db.devices = store.db.devices ∧ store'.db.interfaces = store.db.interfaces ++ [i] ∧
      store'.db.links = store.db.links ∧ store'.db.physicalMedia = store.db.physicalMedia ∧
      store'.events = store.events := by
  unfold insertInterface at h
  split at h
  · cases h
    exact ⟨rfl, rfl, rfl, rfl, rfl⟩
  · cases h

/-- Inserting a link changes no device and no interface. -/
theorem insertLink_eq_some {l : Link} {store store' : Store} (h : insertLink l store = some store') :
    store'.db.devices = store.db.devices ∧ store'.db.interfaces = store.db.interfaces ∧
      store'.db.links = store.db.links ++ [l] := by
  unfold insertLink at h
  split at h
  · cases h
    exact ⟨rfl, rfl, rfl⟩
  · cases h

end Unoc.Links
