import Mathlib.Data.List.Range
import Mathlib.Data.List.Nodup
import Mathlib.Logic.Function.Basic
import Unoc.Base.System

/-!
# Append-only event log under concurrent transactions

`backend/services/event_store.py:31–116` and the row of
`backend/models_pkg/event_store.py:8–15`. Sequence numbers are allocated by reading the
greatest visible sequence and adding one, without a lock. The database is assumed only to
show a session the rows committed so far and its own flushed rows, to reject a commit that
breaks `UNIQUE(sequence)`, and to keep committed rows.
-/

namespace Unoc.EventStore

open Unoc.Base

/-- Members of `DOMAIN_EVENT_TYPES`; `event_store.py:12–28`. -/
inductive DomainEventType where
  | deviceCreated
  | deviceConnected
  | deviceDeleted
  | deviceLinked
  | deviceUpdated
  | portConnected
  | cpeProvisioned
  | ontAssigned
  | serviceBound
  | deviceProvisioned
  | linkCreated
  | linkDeleted
  | linkUpdated
  | provisioningUpdated
  | runtimeEvent
  deriving DecidableEq, Repr

/-- Membership test of an event name in `DOMAIN_EVENT_TYPES`, with the member it names. -/
def DomainEventType.ofName : String → Option DomainEventType
  | "DEVICE_CREATED" => some .deviceCreated
  | "DEVICE_CONNECTED" => some .deviceConnected
  | "DEVICE_DELETED" => some .deviceDeleted
  | "DEVICE_LINKED" => some .deviceLinked
  | "DEVICE_UPDATED" => some .deviceUpdated
  | "PORT_CONNECTED" => some .portConnected
  | "CPE_PROVISIONED" => some .cpeProvisioned
  | "ONT_ASSIGNED" => some .ontAssigned
  | "SERVICE_BOUND" => some .serviceBound
  | "DEVICE_PROVISIONED" => some .deviceProvisioned
  | "LINK_CREATED" => some .linkCreated
  | "LINK_DELETED" => some .linkDeleted
  | "LINK_UPDATED" => some .linkUpdated
  | "PROVISIONING_UPDATED" => some .provisioningUpdated
  | "RUNTIME_EVENT" => some .runtimeEvent
  | _ => none

/-- A JSON object of an event, as key and value texts in insertion order. -/
abbrev Payload := List (String × String)

/-- Python `dict.setdefault`: an existing key keeps its value. -/
def Payload.setDefault (p : Payload) (key value : String) : Payload :=
  if p.any (fun e ↦ e.1 == key) then p else p ++ [(key, value)]

/-- `EventStoreRecord` without its surrogate key; `models_pkg/event_store.py:8–15`. -/
structure EventStoreRecord where
  sequence : Nat
  eventType : DomainEventType
  payload : Payload
  source : String
  createdAt : String
  correlationId : Option String
  deriving DecidableEq, Repr

/-- `_next_sequence`: one above the greatest visible sequence, zero on an empty table;
`event_store.py:31–35`. -/
def nextSequence (rows : List EventStoreRecord) : Nat :=
  match (rows.map EventStoreRecord.sequence).max? with
  | none => 0
  | some current => current + 1

/-- One call of `append_event` or `append_domain_event`, with the clock text it reads. -/
inductive AppendCall where
  | event (eventType : String) (payload : Payload) (source : String)
      (correlationId : Option String) (now : String)
  | domainEvent (eventType entityId : String) (payload : Payload)
      (correlationId : Option String) (now : String)

/-- The record a call writes once its sequence is known. `append_event` maps unknown types to
`RUNTIME_EVENT`; `append_domain_event` raises `EventStoreAppendError` on them, shown as `none`;
`event_store.py:38–59,85–116`. -/
def AppendCall.record : AppendCall → Nat → Option EventStoreRecord
  | .event name payload source correlationId now, sequence =>
    some ⟨sequence, (DomainEventType.ofName name).getD .runtimeEvent, payload, source, now,
      correlationId⟩
  | .domainEvent name entityId payload correlationId now, sequence =>
    (DomainEventType.ofName name).map (fun eventType ↦
      ⟨sequence, eventType,
        (payload.setDefault "entity_id" entityId).setDefault "timestamp" now,
        "WRITE_PATH", now, correlationId⟩)

/-- Open transaction of one session: its flushed rows, and the record built from a sequence
that was read but is not inserted yet. -/
structure Transaction where
  own : List EventStoreRecord := []
  pending : Option EventStoreRecord := none
  deriving DecidableEq, Repr

/-- Committed rows grouped by commit, oldest first, and one open transaction per session. -/
structure Log (τ : Type) where
  commits : List (List EventStoreRecord)
  transactions : τ → Transaction

namespace Log

variable {τ : Type}

/-- Every committed row, in commit order. -/
def committed (s : Log τ) : List EventStoreRecord := s.commits.flatten

/-- What a query of session `t` returns: committed rows and its own flushed rows. -/
def visible (s : Log τ) (t : τ) : List EventStoreRecord :=
  s.committed ++ (s.transactions t).own

/-- Replace the open transaction of one session. -/
def setTransaction [DecidableEq τ] (s : Log τ) (t : τ) (tx : Transaction) : Log τ :=
  { s with transactions := Function.update s.transactions t tx }

/-- `UNIQUE(sequence)` over the rows a commit would leave. -/
def Unique (rows : List EventStoreRecord) : Prop :=
  (rows.map EventStoreRecord.sequence).Nodup

/-- Whether ids and sequences are unique is checked on the rows. -/
instance (rows : List EventStoreRecord) : Decidable (Unique rows) :=
  inferInstanceAs (Decidable (rows.map EventStoreRecord.sequence).Nodup)

/-- Atomic actions of a session. -/
inductive Action (τ : Type) where
  | read (t : τ) (call : AppendCall)
  | insert (t : τ)
  | commit (t : τ)
  | rollback (t : τ)

/-- One action of one session. A call reads its sequence and inserts its row in two actions, so
other sessions may commit in between. A commit that breaks uniqueness rolls back, as does any
exception. `append_event` is the actions read, insert, commit of one session. -/
def act [DecidableEq τ] (s : Log τ) : Action τ → Option (Log τ)
  | .read t call =>
    let tx := s.transactions t
    if tx.pending.isSome then none else
      (call.record (nextSequence (s.visible t))).map (fun r ↦
        s.setTransaction t { tx with pending := some r })
  | .insert t =>
    let tx := s.transactions t
    tx.pending.map (fun r ↦ s.setTransaction t { own := tx.own ++ [r], pending := none })
  | .commit t =>
    let tx := s.transactions t
    if tx.pending.isSome then none else
      if Unique (s.committed ++ tx.own) then
        some ({ s with commits := s.commits ++ [tx.own] }.setTransaction t {})
      else some (s.setTransaction t {})
  | .rollback t => some (s.setTransaction t {})

/-- The empty table with no open transaction. -/
def empty : Log τ := ⟨[], fun _ ↦ {}⟩

/-- All interleavings of the sessions' actions, from the empty table. -/
def system (τ : Type) [DecidableEq τ] : System (Log τ) (Action τ) :=
  .ofAct (fun s ↦ s = empty) act

/-- The sequences of a list of rows. -/
def sequences (rows : List EventStoreRecord) : List Nat :=
  rows.map EventStoreRecord.sequence

/-- An uncommitted block over `n` committed rows is contiguous after them, or holds a sequence
that is already taken and can only roll back. -/
def BlockOver (n : Nat) (own : List Nat) : Prop :=
  (∃ b ∈ own, b < n) ∨ own = List.range' n own.length

/-- The committed rows number from zero in commit order, and every open block, also with the
record it is about to insert, lies over them. -/
structure GapFree (s : Log τ) : Prop where
  rows : sequences s.committed = List.range s.committed.length
  blocks : ∀ t, BlockOver s.committed.length
    (sequences ((s.transactions t).own ++ (s.transactions t).pending.toList))

/-- A call keeps the sequence it was given. -/
theorem sequence_record {call : AppendCall} {n : Nat} {r : EventStoreRecord}
    (h : call.record n = some r) : r.sequence = n := by
  cases call with
  | event => simp only [AppendCall.record, Option.some.injEq] at h; rw [← h]
  | domainEvent name =>
    simp only [AppendCall.record, Option.map_eq_some_iff] at h
    obtain ⟨_, _, rfl⟩ := h
    rfl

private theorem max?_range (n : Nat) : (List.range (n + 1)).max? = some n := by
  rw [List.max?_eq_some_iff]
  exact ⟨by simp, fun b hb ↦ by have := List.mem_range.mp hb; omega⟩

/-- Over a contiguous table the next sequence is the number of rows. -/
theorem nextSequence_of_range {rows : List EventStoreRecord}
    (h : sequences rows = List.range rows.length) : nextSequence rows = rows.length := by
  unfold nextSequence
  change (match (sequences rows).max? with | none => 0 | some current => current + 1) = _
  cases hl : rows.length with
  | zero => rw [h, hl]; rfl
  | succ n => rw [h, hl, max?_range]

private theorem range_append_range' (n k : Nat) :
    List.range n ++ List.range' n k = List.range (n + k) := by
  simpa only [List.range_eq_range', Nat.zero_add] using List.range'_append_1 (s := 0) (m := n) (n := k)

private theorem sequences_append (xs ys : List EventStoreRecord) :
    sequences (xs ++ ys) = sequences xs ++ sequences ys := List.map_append

private theorem length_sequences (xs : List EventStoreRecord) :
    (sequences xs).length = xs.length := List.length_map _

/-- A block that is not doomed extends the committed rows to a longer contiguous table. -/
theorem range_of_block {s : Log τ} (h : GapFree s) {own : List EventStoreRecord}
    (hb : sequences own = List.range' s.committed.length own.length) :
    sequences (s.committed ++ own) = List.range (s.committed ++ own).length := by
  rw [sequences_append, h.rows, hb, range_append_range', List.length_append]

private theorem blockOver_nil (n : Nat) : BlockOver n [] := Or.inr rfl

/-- A block survives only while no other transaction commits rows. -/
theorem BlockOver.mono {n k : Nat} {own : List Nat} (h : BlockOver n own) :
    BlockOver (n + k) own := by
  rcases h with ⟨b, hb, hlt⟩ | he
  · exact Or.inl ⟨b, hb, by omega⟩
  · cases k with
    | zero => exact Or.inr he
    | succ k =>
      cases own with
      | nil => exact blockOver_nil _
      | cons b rest =>
        rw [List.length_cons, List.range'_succ] at he
        have hbn : b = n := (List.cons.inj he).1
        exact Or.inl ⟨b, by simp, by omega⟩

/-- The record built from a fresh read lies over the committed rows with the session's block. -/
theorem blockOver_read {s : Log τ} (h : GapFree s) {t : τ} {call : AppendCall}
    {r : EventStoreRecord} (hp : (s.transactions t).pending = none)
    (hr : call.record (nextSequence (s.visible t)) = some r) :
    BlockOver s.committed.length (sequences ((s.transactions t).own ++ [r])) := by
  have hb := h.blocks t
  rw [hp, Option.toList_none, List.append_nil] at hb
  rcases hb with ⟨b, hb, hlt⟩ | hb
  · refine Or.inl ⟨b, ?_, hlt⟩
    rw [sequences_append]
    exact List.mem_append_left _ hb
  · right
    rw [length_sequences] at hb
    have hn := nextSequence_of_range (range_of_block h hb)
    have hs := sequence_record hr
    rw [visible, hn, List.length_append] at hs
    rw [sequences_append, List.length_append, length_sequences, hb]
    change _ ++ [r.sequence] = List.range' _ (_ + 1)
    rw [hs, List.range'_1_concat]

/-- A commit accepted by the uniqueness constraint carries a contiguous block. -/
theorem block_of_unique {s : Log τ} (h : GapFree s) {t : τ}
    (hp : (s.transactions t).pending = none)
    (hu : Unique (s.committed ++ (s.transactions t).own)) :
    sequences (s.transactions t).own =
      List.range' s.committed.length (s.transactions t).own.length := by
  have hb := h.blocks t
  rw [hp, Option.toList_none, List.append_nil] at hb
  rcases hb with ⟨b, hb, hlt⟩ | hb
  · exfalso
    have hd : (sequences s.committed ++ sequences (s.transactions t).own).Nodup := by
      rw [← sequences_append]; exact hu
    have hr : b ∈ sequences s.committed := by rw [h.rows]; exact List.mem_range.mpr hlt
    exact (List.nodup_append.mp hd).2.2 b hr b hb rfl
  · rwa [length_sequences] at hb

private theorem gapFree_empty : GapFree (empty : Log τ) where
  rows := rfl
  blocks _ := blockOver_nil _

/-- Appending a contiguous block to the commits leaves the other blocks lying over them. -/
theorem gapFree_commit {s : Log τ} (h : GapFree s) {own : List EventStoreRecord}
    (hb : sequences own = List.range' s.committed.length own.length) :
    GapFree { s with commits := s.commits ++ [own] } where
  rows := by
    change sequences (s.commits ++ [own]).flatten = List.range (s.commits ++ [own]).flatten.length
    rw [List.flatten_append, List.flatten_singleton]
    exact range_of_block h hb
  blocks t := by
    change BlockOver (s.commits ++ [own]).flatten.length _
    rw [List.flatten_append, List.flatten_singleton, List.length_append]
    exact (h.blocks t).mono

variable [DecidableEq τ]

private theorem gapFree_setTransaction {s : Log τ} (h : GapFree s) (t : τ) (tx : Transaction)
    (hb : BlockOver s.committed.length (sequences (tx.own ++ tx.pending.toList))) :
    GapFree (s.setTransaction t tx) where
  rows := h.rows
  blocks t' := by
    change BlockOver s.committed.length _
    by_cases ht : t' = t
    · subst t'
      simpa only [setTransaction, Function.update_self] using hb
    · simpa only [setTransaction, Function.update_of_ne ht] using h.blocks t'

/-- Every action of every session keeps the log gap-free. -/
theorem gapFree_act {s s' : Log τ} {a : Action τ} (h : GapFree s) (ha : s.act a = some s') :
    GapFree s' := by
  cases a with
  | read t call =>
    simp only [act] at ha
    split at ha
    · cases ha
    · next hp =>
      have hp : (s.transactions t).pending = none := by simpa using hp
      obtain ⟨r, hr, rfl⟩ := Option.map_eq_some_iff.mp ha
      exact gapFree_setTransaction h t _ (blockOver_read h hp hr)
  | insert t =>
    simp only [act] at ha
    obtain ⟨r, hr, rfl⟩ := Option.map_eq_some_iff.mp ha
    have hb := h.blocks t
    rw [hr] at hb
    exact gapFree_setTransaction h t _ (by simpa using hb)
  | commit t =>
    simp only [act] at ha
    split at ha
    · cases ha
    · next hp =>
      have hp : (s.transactions t).pending = none := by simpa using hp
      split at ha
      · next hu =>
        cases ha
        exact gapFree_setTransaction (gapFree_commit h (block_of_unique h hp hu)) t _
          (blockOver_nil _)
      · cases ha
        exact gapFree_setTransaction h t _ (blockOver_nil _)
  | rollback t =>
    simp only [act] at ha
    cases ha
    exact gapFree_setTransaction h t _ (blockOver_nil _)

/-- Every reachable log is gap-free. -/
theorem gapFree_of_reachable {s : Log τ} (h : (system τ).Reachable s) : GapFree s :=
  System.Reachable.invariant (I := GapFree)
    (fun _ hs ↦ by rw [show _ = empty from hs]; exact gapFree_empty)
    (fun _ _ _ hi hs ↦ gapFree_act hi hs) h

/-- In every reachable state the committed sequences are `0..n-1`, each once, and a later commit
has only larger sequences. -/
theorem committed_sequences_gap_free {s : Log τ} (h : (system τ).Reachable s) :
    (sequences s.committed).Nodup ∧
    (∀ k, k ∈ sequences s.committed ↔ k < s.committed.length) ∧
    s.commits.Pairwise (fun earlier later ↦
      ∀ x ∈ sequences earlier, ∀ y ∈ sequences later, x < y) := by
  have hrows := (gapFree_of_reachable h).rows
  refine ⟨by rw [hrows]; exact List.nodup_range, fun k ↦ by rw [hrows, List.mem_range], ?_⟩
  have hsorted : (s.commits.map sequences).flatten.Pairwise (· < ·) := by
    have he : (s.commits.map sequences).flatten = sequences s.committed := by
      rw [committed, sequences, List.map_flatten]
      rfl
    rw [he, hrows]
    exact List.pairwise_lt_range
  exact List.pairwise_map.mp (List.pairwise_flatten.mp hsorted).2

/-- Two sessions read the same sequence; the one that commits second loses its rows and starts
again behind the first one's block. -/
def staleReadActions : List (Action Nat) :=
  let create := AppendCall.domainEvent "DEVICE_CREATED" "olt-1" [] none "t0"
  let link := AppendCall.event "link.up" [] "RUNTIME_EVENT_BUS" none "t1"
  [.read 0 create, .read 1 link, .insert 0, .read 0 create, .insert 1, .insert 0, .commit 0,
    .commit 1, .read 1 link, .insert 1, .commit 1]

/-- A writer that read before the other one committed takes the next number. -/
theorem committed_sequences_gap_free_stale_read :
    (System.run act empty staleReadActions).map (fun s ↦ s.commits.map sequences) = some [[0, 1], [2]] ∧
    ∀ s, System.run act empty staleReadActions = some s →
      (sequences s.committed).Nodup ∧
      (∀ k, k ∈ sequences s.committed ↔ k < s.committed.length) ∧
      s.commits.Pairwise (fun earlier later ↦
        ∀ x ∈ sequences earlier, ∀ y ∈ sequences later, x < y) :=
  ⟨by decide, fun _ hs ↦ committed_sequences_gap_free
    (.run act (fun _ _ _ ha ↦ ha) staleReadActions (.init rfl) hs)⟩

end Log
end Unoc.EventStore
