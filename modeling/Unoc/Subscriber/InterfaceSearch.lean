import Mathlib.Data.List.Perm.Subperm
import Unoc.Subscriber.Resolver

/-!
# Searches over interfaces

The queue loop that the traces of leaves share: an interface ends it, or it queues further ids, each
id once. The ids of interfaces and of link ends bound the number of iterations.
-/

namespace Unoc.Subscriber

open Unoc.Base Unoc.Model

variable {A : Type} {db : Database}

/-- A queue loop with what ends it and what an interface queues. -/
def searchLoop (db : Database) (found : Device → Interface → Option A)
    (next : Device → Interface → List String) : Nat → TraceState → Option A
  | 0, _ => none
  | fuel + 1, st =>
    match st.queue with
    | [] => none
    | ifaceId :: rest =>
      match db.getInterface ifaceId with
      | none => searchLoop db found next fuel { st with queue := rest }
      | some iface =>
        match db.getDevice iface.deviceId with
        | none => searchLoop db found next fuel { st with queue := rest }
        | some device =>
          match found device iface with
          | some a => some a
          | none =>
            searchLoop db found next fuel ((next device iface).foldl pushNext { st with queue := rest })

/-- The trace is the search for an anchor. -/
theorem traceLoop_eq_searchLoop (domain : Domain) (fuel : Nat) (st : TraceState) :
    traceLoop db domain fuel st =
      searchLoop db (anchorAt domain)
        (fun _ iface ↦ linkNeighbors db iface.id ++ siblingIds db iface) fuel st := by
  induction fuel generalizing st with
  | zero => rfl
  | succ fuel ih =>
    unfold traceLoop searchLoop
    cases st.queue with
    | nil => rfl
    | cons ifaceId rest =>
      cases hi : db.getInterface ifaceId with
      | none => simp only [hi, ih]
      | some iface =>
        simp only [hi, ih, (Database.getInterface_eq_some.mp hi).2]
        cases hd : db.getDevice iface.deviceId with
        | none => simp only
        | some device => cases ha : anchorAt domain device iface <;> simp only [ha]

/-! ### The loop ends -/

/-- What the queue loop keeps: ids are marked once and come from a fixed universe. -/
structure TraceState.Bounded (db : Database) (st : TraceState) : Prop where
  visited_nodup : st.visited.Nodup
  visited_subset : st.visited ⊆ traceUniverse db

/-- Iterations left: queued ids and ids that may still be queued. -/
def TraceState.potential (db : Database) (st : TraceState) : Nat :=
  st.queue.length + ((traceUniverse db).length - st.visited.length)

private theorem pushNext_bounded {st : TraceState} {nextId : String} (h : st.Bounded db)
    (hmem : nextId ∈ traceUniverse db) :
    (pushNext st nextId).Bounded db ∧ (pushNext st nextId).potential db = st.potential db := by
  unfold pushNext
  split
  · exact ⟨h, rfl⟩
  · next hnew =>
    have hb : TraceState.Bounded db
        { queue := st.queue ++ [nextId], visited := nextId :: st.visited } :=
      ⟨List.nodup_cons.mpr ⟨hnew, h.visited_nodup⟩, List.cons_subset.mpr ⟨hmem, h.visited_subset⟩⟩
    have hle := (hb.visited_nodup.subperm hb.visited_subset).length_le
    refine ⟨hb, ?_⟩
    simp only [TraceState.potential, List.length_append, List.length_cons, List.length_nil] at hle ⊢
    omega

private theorem foldl_pushNext_bounded (ids : List String) (hids : ids ⊆ traceUniverse db)
    {st : TraceState} (h : st.Bounded db) :
    (ids.foldl pushNext st).Bounded db ∧
      (ids.foldl pushNext st).potential db = st.potential db := by
  induction ids generalizing st with
  | nil => exact ⟨h, rfl⟩
  | cons id ids ih =>
    obtain ⟨hid, hids⟩ := List.cons_subset.mp hids
    obtain ⟨hb, hpot⟩ := pushNext_bounded h hid
    rw [List.foldl_cons, ← hpot]
    exact ih hids hb

section Fuel

variable {found : Device → Interface → Option A} {next : Device → Interface → List String}
  (hnext : ∀ iface ∈ db.interfaces, ∀ device, next device iface ⊆ traceUniverse db)

include hnext

private theorem searchLoop_eq_of_fuel (fuel : Nat) :
    ∀ (fuel' : Nat) {st : TraceState}, st.Bounded db → st.potential db ≤ fuel →
      st.potential db ≤ fuel' →
        searchLoop db found next fuel st = searchLoop db found next fuel' st := by
  induction fuel with
  | zero =>
    intro fuel' st _ hpot _
    have hnil : st.queue = [] := by
      apply List.length_eq_zero_iff.mp
      unfold TraceState.potential at hpot
      omega
    cases fuel' <;> simp [searchLoop, hnil]
  | succ fuel ih =>
    intro fuel' st hb hpot hpot'
    cases hq : st.queue with
    | nil => cases fuel' <;> simp [searchLoop, hq]
    | cons ifaceId rest =>
      have hpop : TraceState.potential db { st with queue := rest } + 1 = st.potential db := by
        simp only [TraceState.potential, hq, List.length_cons]
        omega
      have hpopb : TraceState.Bounded db { st with queue := rest } :=
        ⟨hb.visited_nodup, hb.visited_subset⟩
      cases fuel' with
      | zero => omega
      | succ fuel' =>
        unfold searchLoop
        simp only [hq]
        cases hi : db.getInterface ifaceId with
        | none => exact ih fuel' hpopb (by omega) (by omega)
        | some iface =>
          have hrow := (Database.getInterface_eq_some.mp hi).1
          cases hd : db.getDevice iface.deviceId with
          | none =>
            simp only [hd]
            exact ih fuel' hpopb (by omega) (by omega)
          | some device =>
            simp only [hd]
            cases found device iface with
            | some a => rfl
            | none =>
              obtain ⟨hpushb, hpush⟩ := foldl_pushNext_bounded _ (hnext iface hrow device) hpopb
              exact ih fuel' hpushb (by omega) (by omega)

/-- The loop ends: more iterations than there are ids find nothing else. -/
theorem searchLoop_of_fuel {start : List String} (hnodup : start.Nodup)
    (hsubset : start ⊆ traceUniverse db) {fuel : Nat} (hfuel : (traceUniverse db).length ≤ fuel) :
    searchLoop db found next (traceUniverse db).length ⟨start, start⟩ =
      searchLoop db found next fuel ⟨start, start⟩ := by
  have hle := (hnodup.subperm hsubset).length_le
  apply searchLoop_eq_of_fuel hnext _ _ ⟨hnodup, hsubset⟩
  · simp only [TraceState.potential]
    omega
  · simp only [TraceState.potential]
    omega

end Fuel

/-! ### What is found -/

private theorem mem_foldl_pushNext (ids : List String) {st : TraceState} {id : String}
    (h : id ∈ (ids.foldl pushNext st).queue) : id ∈ st.queue ∨ id ∈ ids := by
  induction ids generalizing st with
  | nil => exact Or.inl h
  | cons x ids ih =>
    cases ih h with
    | inr h => exact Or.inr (List.mem_cons_of_mem x h)
    | inl h =>
      unfold pushNext at h
      split at h
      · exact Or.inl h
      · cases List.mem_append.mp h with
        | inl h => exact Or.inl h
        | inr h =>
          rw [List.mem_singleton.mp h]
          exact Or.inr List.mem_cons_self

/-- What the loop finds is found at a queued interface, of which every invariant of the queue holds. -/
theorem searchLoop_eq_some {found : Device → Interface → Option A}
    {next : Device → Interface → List String} {P : String → Prop}
    (hnext : ∀ device iface, ∀ id ∈ next device iface, P id) (fuel : Nat) :
    ∀ {st : TraceState} {a : A}, (∀ id ∈ st.queue, P id) →
      searchLoop db found next fuel st = some a →
        ∃ iface device, P iface.id ∧ db.getInterface iface.id = some iface ∧
          db.getDevice iface.deviceId = some device ∧ found device iface = some a := by
  induction fuel with
  | zero => intro st a _ h; cases h
  | succ fuel ih =>
    intro st a hqueue h
    unfold searchLoop at h
    split at h
    · cases h
    · next ifaceId rest hq =>
      have hrest : ∀ id ∈ rest, P id :=
        fun id hid ↦ hqueue id (by rw [hq]; exact List.mem_cons_of_mem ifaceId hid)
      cases hi : db.getInterface ifaceId with
      | none => simp only [hi] at h; exact ih hrest h
      | some iface =>
        cases hd : db.getDevice iface.deviceId with
        | none => simp only [hi, hd] at h; exact ih hrest h
        | some device =>
          simp only [hi, hd] at h
          cases hf : found device iface with
          | none =>
            simp only [hf] at h
            apply ih _ h
            intro id hid
            cases mem_foldl_pushNext _ hid with
            | inl hid => exact hrest id hid
            | inr hid => exact hnext device iface id hid
          | some b =>
            simp only [hf] at h
            have hid := (Database.getInterface_eq_some.mp hi).2
            refine ⟨iface, device, ?_, ?_, hd, hf.trans h⟩
            · rw [hid]
              exact hqueue ifaceId (by rw [hq]; exact List.mem_cons_self)
            · rw [hid]
              exact hi

end Unoc.Subscriber
