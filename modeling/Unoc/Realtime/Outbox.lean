import Mathlib.Data.List.Induction
import Mathlib.Data.List.Basic

/-!
# The outbox of the WebSocket endpoint

`BoundedCoalescingQueue` of `backend/api/endpoints/ws.py`. Metric events replace a pending event of
their key in place; status and optical events do so only when the queue is full; everything else
pushes the oldest message out of a full queue. The queue sees a message through its key alone, so
the model leaves the type of messages open.
-/

namespace Unoc.Realtime

/-! ### Messages -/

/-- A message with the parts of its payload that `_coalesce_key` reads. -/
structure Message (β : Type) where
  type : String
  /-- `payload.get("id")`. -/
  id : Option String := none
  body : β
  deriving DecidableEq, Repr

/-- `_coalesce_key`; an empty id counts as missing; `ws.py:37–58`. -/
def coalesceKey {β : Type} (msg : Message β) : Option String :=
  let did := msg.id.filter (· ≠ "")
  if msg.type = "device.status.changed" then did.map (fun d ↦ "dev:" ++ d ++ ":status")
  else if msg.type = "device.optical.updated" then did.map (fun d ↦ "dev:" ++ d ++ ":optical")
  else if msg.type = "deviceMetricsUpdated" then some "metrics:device"
  else if msg.type = "linkMetricsUpdated" then some "metrics:link"
  else none

/-- `key.startswith("metrics:")`. -/
def isMetricsKey (key : String) : Bool := "metrics:".toList <+: key.toList

/-! ### The queue -/

/-- `BoundedCoalescingQueue`; `ws.py:61–74`. -/
structure BoundedCoalescingQueue (α : Type) where
  maxsize : Nat
  dq : List α
  deriving DecidableEq, Repr

namespace BoundedCoalescingQueue

variable {α : Type} (key : α → Option String)

/-- `__init__`; `ws.py:71–74`. -/
def new (maxsize : Int) : BoundedCoalescingQueue α := ⟨(max 1 maxsize).toNat, []⟩

/-- `qsize`; `ws.py:76–78`. -/
def qsize (q : BoundedCoalescingQueue α) : Nat := q.dq.length

/-- `_find_index_for_key`, from the newest message on; `ws.py:84–90`. -/
def findIndexForKey (dq : List α) (k : String) : Option Nat :=
  (List.range dq.length).reverse.find? (fun idx ↦ dq[idx]?.bind key = some k)

/-- The index that a metric event replaces; `ws.py:97–99`. -/
def metricsIndex (dq : List α) (msg : α) : Option Nat :=
  ((key msg).filter isMetricsKey).bind (findIndexForKey key dq)

/-- The pending messages after `put`; `ws.py:92–114`. -/
def putDq (maxsize : Nat) (dq : List α) (msg : α) : List α :=
  match metricsIndex key dq msg with
  | some idx => dq.set idx msg
  | none =>
    if dq.length < maxsize then dq ++ [msg]
    else match (key msg).bind (findIndexForKey key dq) with
      | some idx => dq.set idx msg
      | none => dq.tail ++ [msg]

/-- `put`; `ws.py:92–114`. -/
def put (q : BoundedCoalescingQueue α) (msg : α) : BoundedCoalescingQueue α :=
  { q with dq := putDq key q.maxsize q.dq msg }

/-- `get`; `ws.py:116–120`. -/
def get (q : BoundedCoalescingQueue α) : Option α × BoundedCoalescingQueue α :=
  match q.dq with
  | [] => (none, q)
  | msg :: rest => (some msg, { q with dq := rest })

/-! ### What a put does -/

private theorem find?_congr {p q : Nat → Bool} {l : List Nat} (h : ∀ x ∈ l, p x = q x) :
    l.find? p = l.find? q := by
  induction l with
  | nil => rfl
  | cons x l ih =>
    rw [List.find?_cons, List.find?_cons, h x List.mem_cons_self,
      ih (fun y hy ↦ h y (List.mem_cons_of_mem _ hy))]

private theorem findIndexForKey_concat (dq : List α) (m : α) (k : String) :
    findIndexForKey key (dq ++ [m]) k =
      if key m = some k then some dq.length else findIndexForKey key dq k := by
  have hprefix : (List.range dq.length).reverse.find?
      (fun idx ↦ decide ((dq ++ [m])[idx]?.bind key = some k)) = findIndexForKey key dq k := by
    refine find?_congr ?_
    intro idx hidx
    rw [List.mem_reverse, List.mem_range] at hidx
    rw [List.getElem?_append_left hidx]
  rw [findIndexForKey, List.length_append, List.length_singleton, List.range_succ,
    List.reverse_append, List.reverse_singleton, List.singleton_append, List.find?_cons,
    List.getElem?_concat_length]
  split
  · next h => rw [if_pos (by simpa using h)]
  · next h => rw [if_neg (by simpa using h), hprefix]

/-- The message that a put of key `k` would replace, if any, is the newest one of that key. -/
theorem findIndexForKey_cases (dq : List α) (k : String) :
    (findIndexForKey key dq k = none ∧ ∀ m ∈ dq, key m ≠ some k) ∨
      ∃ pre old post, findIndexForKey key dq k = some pre.length ∧ dq = pre ++ old :: post ∧
        key old = some k ∧ ∀ m ∈ post, key m ≠ some k := by
  induction dq using List.reverseRecOn with
  | nil => exact Or.inl ⟨rfl, by simp⟩
  | append_singleton dq m ih =>
    rw [findIndexForKey_concat]
    by_cases hm : key m = some k
    · rw [if_pos hm]
      exact Or.inr ⟨dq, m, [], rfl, rfl, hm, by simp⟩
    · rw [if_neg hm]
      rcases ih with ⟨hnone, hall⟩ | ⟨pre, old, post, hsome, rfl, hold, hpost⟩
      · refine Or.inl ⟨hnone, ?_⟩
        intro x hx
        rcases List.mem_append.mp hx with hx | hx
        · exact hall x hx
        · rw [List.mem_singleton.mp hx]
          exact hm
      · refine Or.inr ⟨pre, old, post ++ [m], hsome, by simp, hold, ?_⟩
        intro x hx
        rcases List.mem_append.mp hx with hx | hx
        · exact hpost x hx
        · rw [List.mem_singleton.mp hx]
          exact hm

/-- The three outcomes of a put. -/
inductive PutStep (maxsize : Nat) (dq : List α) (msg : α) : List α → Prop where
  | append (hroom : dq.length < maxsize)
      (hfresh : ∀ k, key msg = some k → isMetricsKey k → ∀ m ∈ dq, key m ≠ some k) :
      PutStep maxsize dq msg (dq ++ [msg])
  | replace (pre : List α) (old : α) (post : List α) (k : String) (hdq : dq = pre ++ old :: post)
      (hmsg : key msg = some k) (hold : key old = some k) (hpost : ∀ m ∈ post, key m ≠ some k) :
      PutStep maxsize dq msg (pre ++ msg :: post)
  | evict (hfull : maxsize ≤ dq.length) (hfresh : ∀ k, key msg = some k → ∀ m ∈ dq, key m ≠ some k) :
      PutStep maxsize dq msg (dq.tail ++ [msg])

private theorem set_length (pre : List α) (old msg : α) (post : List α) :
    (pre ++ old :: post).set pre.length msg = pre ++ msg :: post := by
  rw [List.set_append_right _ _ (Nat.le_refl _), Nat.sub_self, List.set_cons_zero]

/-- A put is one of the three steps. -/
theorem putDq_step (maxsize : Nat) (dq : List α) (msg : α) :
    PutStep key maxsize dq msg (putDq key maxsize dq msg) := by
  -- the outcome of the search for the newest message of the key decides both matches
  cases hkey : key msg with
  | none =>
    simp only [putDq, metricsIndex, hkey, Option.filter_none, Option.bind_none]
    split
    · next hroom => exact .append hroom (by simp [hkey])
    · next hfull => exact .evict (Nat.le_of_not_lt hfull) (by simp [hkey])
  | some k =>
    rcases findIndexForKey_cases key dq k with ⟨hnone, hall⟩ | ⟨pre, old, post, hsome, hdq, hold, hpost⟩
    · have hfresh : ∀ k', key msg = some k' → ∀ m ∈ dq, key m ≠ some k' := by
        intro k' hk'
        rw [hkey, Option.some.injEq] at hk'
        exact hk' ▸ hall
      have hmetrics : metricsIndex key dq msg = none := by
        rw [metricsIndex, hkey]
        cases hk : isMetricsKey k <;> simp [Option.filter, hk, hnone]
      simp only [putDq, hmetrics, hkey, Option.bind_some, hnone]
      split
      · next hroom => exact .append hroom (fun k' hk' _ ↦ hfresh k' hk')
      · next hfull => exact .evict (Nat.le_of_not_lt hfull) hfresh
    · have hset : PutStep key maxsize dq msg (dq.set pre.length msg) := by
        rw [hdq, set_length]
        exact .replace pre old post k rfl hkey hold hpost
      cases hk : isMetricsKey k with
      | true =>
        have hmetrics : metricsIndex key dq msg = some pre.length := by
          simp [metricsIndex, hkey, Option.filter, hk, hsome]
        simpa only [putDq, hmetrics] using hset
      | false =>
        have hmetrics : metricsIndex key dq msg = none := by
          simp [metricsIndex, hkey, Option.filter, hk]
        simp only [putDq, hmetrics, hkey, Option.bind_some, hsome]
        split
        · next hroom =>
          refine .append hroom ?_
          intro k' hk' hmk
          rw [hkey, Option.some.injEq] at hk'
          rw [← hk', hk] at hmk
          cases hmk
        · exact hset

/-- A put keeps a queue within its bound. -/
theorem length_putDq_le {maxsize : Nat} (hpos : 1 ≤ maxsize) {dq : List α}
    (hle : dq.length ≤ maxsize) (msg : α) : (putDq key maxsize dq msg).length ≤ maxsize := by
  have hstep := putDq_step key maxsize dq msg
  generalize putDq key maxsize dq msg = dq' at hstep ⊢
  cases hstep with
  | append hroom _ =>
    rw [List.length_append, List.length_singleton]
    omega
  | replace pre old post k hdq _ _ _ =>
    rw [hdq] at hle
    simpa using hle
  | evict hfull _ =>
    rw [List.length_append, List.length_tail, List.length_singleton]
    omega

private theorem length_putDq_le_succ (maxsize : Nat) (dq : List α) (msg : α) :
    (putDq key maxsize dq msg).length ≤ dq.length + 1 := by
  have hstep := putDq_step key maxsize dq msg
  generalize putDq key maxsize dq msg = dq' at hstep ⊢
  cases hstep with
  | append _ _ => simp
  | replace pre old post k hdq _ _ _ => simp [hdq]
  | evict _ _ => simp

/-- The messages of a key. -/
def ofKey (k : Option String) (ms : List α) : List α := ms.filter (fun m ↦ key m = k)

private theorem ofKey_nil (k : Option String) : ofKey key k [] = [] := rfl

private theorem ofKey_append (k : Option String) (ms ms' : List α) :
    ofKey key k (ms ++ ms') = ofKey key k ms ++ ofKey key k ms' := List.filter_append ..

/-- A message of the key comes first. -/
theorem ofKey_cons_self {k : Option String} {m : α} (h : key m = k) (ms : List α) :
    ofKey key k (m :: ms) = m :: ofKey key k ms := List.filter_cons_of_pos (by simpa using h)

/-- A message of another key is left out. -/
theorem ofKey_cons_of_ne {k : Option String} {m : α} (h : key m ≠ k) (ms : List α) :
    ofKey key k (m :: ms) = ofKey key k ms := List.filter_cons_of_neg (by simpa using h)

private theorem ofKey_eq_nil {k : Option String} {ms : List α} (h : ∀ m ∈ ms, key m ≠ k) :
    ofKey key k ms = [] := List.filter_eq_nil_iff.mpr (by simpa using h)

/-- Within a key, a put appends its message, in place of the newest one or after a loss of others. -/
theorem PutStep.ofKey_sublist {maxsize : Nat} {dq dq' : List α} {msg : α}
    (h : PutStep key maxsize dq msg dq') (k : Option String) :
    (ofKey key k dq').Sublist (ofKey key k dq ++ ofKey key k [msg]) := by
  cases h with
  | append _ _ => rw [ofKey_append]
  | evict _ _ =>
    rw [ofKey_append]
    exact ((List.tail_sublist dq).filter _).append_right _
  | replace pre old post k' hdq hmsg hold hpost =>
    subst hdq
    by_cases hk : k = some k'
    · subst hk
      rw [ofKey_append, ofKey_append, ofKey_cons_self key hmsg, ofKey_cons_self key hold,
        ofKey_cons_self key hmsg, ofKey_eq_nil key hpost, List.append_assoc]
      exact List.Sublist.append_left (List.sublist_cons_self _ _) _
    · have hmsg' : key msg ≠ k := fun h ↦ hk (h.symm.trans hmsg)
      have hold' : key old ≠ k := fun h ↦ hk (h.symm.trans hold)
      rw [ofKey_append, ofKey_append, ofKey_cons_of_ne key hmsg', ofKey_cons_of_ne key hold']
      exact List.sublist_append_left _ _

/-- A put leaves at most one message of a metrics key if there was at most one. -/
theorem PutStep.ofKey_length_le {maxsize : Nat} {dq dq' : List α} {msg : α}
    (h : PutStep key maxsize dq msg dq') {k : String} (hk : isMetricsKey k)
    (hle : (ofKey key (some k) dq).length ≤ 1) : (ofKey key (some k) dq').length ≤ 1 := by
  by_cases hmsg : key msg = some k
  · cases h with
    | append _ hfresh =>
      rw [ofKey_append, ofKey_eq_nil key (hfresh k hmsg hk), List.nil_append]
      exact List.length_filter_le _ _
    | evict _ hfresh =>
      have htail : ∀ m ∈ dq.tail, key m ≠ some k := fun m hm ↦ hfresh k hmsg m (List.mem_of_mem_tail hm)
      rw [ofKey_append, ofKey_eq_nil key htail, List.nil_append]
      exact List.length_filter_le _ _
    | replace pre old post k' hdq hmsg' hold hpost =>
      obtain rfl : k = k' := Option.some.inj (hmsg.symm.trans hmsg')
      rw [hdq, ofKey_append, ofKey_cons_self key hold] at hle
      rw [ofKey_append, ofKey_cons_self key hmsg]
      simpa using hle
  · have hsub := h.ofKey_sublist key (some k)
    rw [ofKey_cons_of_ne key hmsg, ofKey_nil, List.append_nil] at hsub
    exact Nat.le_trans hsub.length_le hle

/-- A message of another key leaves the queue only as the oldest one of a full queue. -/
theorem PutStep.mem_or_head {maxsize : Nat} {dq dq' : List α} {msg m : α}
    (h : PutStep key maxsize dq msg dq') (hm : m ∈ dq) (hne : key m ≠ key msg) :
    m ∈ dq' ∨ maxsize ≤ dq.length ∧ dq.head? = some m ∧ dq' = dq.tail ++ [msg] := by
  cases h with
  | append _ _ => exact Or.inl (List.mem_append_left _ hm)
  | replace pre old post k hdq hmsg hold _ =>
    have hold' : m ≠ old := by
      rintro rfl
      exact hne (hold.trans hmsg.symm)
    rw [hdq] at hm
    refine Or.inl ?_
    simpa [hold', or_assoc, or_left_comm] using Or.inr hm
  | evict hfull _ =>
    cases dq with
    | nil => cases hm
    | cons first rest =>
      rcases List.mem_cons.mp hm with rfl | hm
      · exact Or.inr ⟨hfull, rfl, rfl⟩
      · exact Or.inl (List.mem_append_left _ hm)

private theorem PutStep.mem_self {maxsize : Nat} {dq dq' : List α} {msg : α}
    (h : PutStep key maxsize dq msg dq') : msg ∈ dq' := by
  cases h <;> simp

end BoundedCoalescingQueue

/-! ### Runs -/

open BoundedCoalescingQueue

/-- An operation on the outbox. -/
inductive Op (β : Type) where
  | put (msg : Message β)
  | get

/-- The message of a put. -/
def Op.msg? {β : Type} : Op β → Option (Message β)
  | .put msg => some msg
  | .get => none

/-- The queue with what went in and what came out. The number of a message, its position among all
puts, tells it from equal ones. -/
structure History (β : Type) where
  queue : BoundedCoalescingQueue (Nat × Message β)
  puts : List (Nat × Message β) := []
  delivered : List (Nat × Message β) := []

/-- The key of a numbered message. -/
def keyOf {β : Type} (m : Nat × Message β) : Option String := coalesceKey m.2

namespace History

variable {β : Type}

/-- One operation. -/
def step (h : History β) : Op β → History β
  | .put msg =>
    { h with
      queue := h.queue.put keyOf (h.puts.length, msg)
      puts := h.puts ++ [(h.puts.length, msg)] }
  | .get =>
    { h with
      queue := h.queue.get.2
      delivered := h.delivered ++ h.queue.get.1.toList }

/-- A run from the empty queue. -/
def run (maxsize : Int) (ops : List (Op β)) : History β := ops.foldl step { queue := new maxsize }

/-- A run over one more operation is a step behind the run. -/
theorem run_concat (maxsize : Int) (ops : List (Op β)) (op : Op β) :
    run maxsize (ops ++ [op]) = (run maxsize ops).step op := by
  rw [run, List.foldl_append]
  rfl

/-- A message that some put removed as the oldest one of a full queue. -/
def Evicted (maxsize : Int) (ops : List (Op β)) (m : Nat × Message β) : Prop :=
  ∃ pre msg post, ops = pre ++ .put msg :: post ∧
    let before := (run maxsize pre).queue
    before.dq.length = before.maxsize ∧ before.dq.head? = some m ∧
      (before.put keyOf ((run maxsize pre).puts.length, msg)).dq =
        before.dq.tail ++ [((run maxsize pre).puts.length, msg)]

/-- What holds of every run. -/
structure Inv (maxsize : Int) (ops : List (Op β)) (h : History β) : Prop where
  maxsize_eq : h.queue.maxsize = (max 1 maxsize).toNat
  bounded : h.queue.dq.length ≤ h.queue.maxsize
  single : ∀ k, isMetricsKey k → (ofKey keyOf (some k) h.queue.dq).length ≤ 1
  ordered : ∀ k, (ofKey keyOf k (h.delivered ++ h.queue.dq)).Sublist (ofKey keyOf k h.puts)
  latest : ∀ k m, (ofKey keyOf (some k) h.puts).getLast? = some m →
    m ∈ h.delivered ∨ m ∈ h.queue.dq ∨ Evicted maxsize ops m

/-- A message that was evicted stays so. -/
theorem Evicted.mono {maxsize : Int} {ops : List (Op β)} {m : Nat × Message β}
    (h : Evicted maxsize ops m) (op : Op β) : Evicted maxsize (ops ++ [op]) m := by
  obtain ⟨pre, msg, post, rfl, hfull, hhead, hafter⟩ := h
  exact ⟨pre, msg, post ++ [op], by simp, hfull, hhead, hafter⟩

private theorem inv_nil (maxsize : Int) : Inv maxsize [] (run maxsize [] : History β) where
  maxsize_eq := rfl
  bounded := Nat.zero_le _
  single := fun _ _ ↦ Nat.zero_le _
  ordered := fun _ ↦ List.Sublist.refl _
  latest := fun k m h ↦ by cases h

/-- The newest message of a key after a put: its own, or that of a put before. -/
theorem getLast?_ofKey_concat {k : String} {puts : List (Nat × Message β)} {new m : Nat × Message β}
    (h : (ofKey keyOf (some k) (puts ++ [new])).getLast? = some m) :
    m = new ∨ keyOf m ≠ keyOf new ∧ (ofKey keyOf (some k) puts).getLast? = some m := by
  rw [ofKey_append] at h
  by_cases hnew : keyOf new = some k
  · rw [ofKey_cons_self keyOf hnew, ofKey_nil, List.getLast?_concat] at h
    exact Or.inl (Option.some.inj h).symm
  · rw [ofKey_cons_of_ne keyOf hnew, ofKey_nil, List.append_nil] at h
    have hm : keyOf m = some k := by
      have := List.mem_of_getLast? h
      simpa [ofKey] using (List.mem_filter.mp this).2
    exact Or.inr ⟨fun heq ↦ hnew (heq ▸ hm), h⟩

private theorem Inv.put {maxsize : Int} {ops : List (Op β)}
    (hinv : Inv maxsize ops (run maxsize ops))
    (msg : Message β) : Inv maxsize (ops ++ [.put msg]) (run maxsize (ops ++ [.put msg])) := by
  have hstep := putDq_step keyOf (run maxsize ops).queue.maxsize (run maxsize ops).queue.dq
    ((run maxsize ops).puts.length, msg)
  have hpos : 1 ≤ (run maxsize ops).queue.maxsize := by
    rw [hinv.maxsize_eq]
    omega
  rw [run_concat]
  refine ⟨hinv.maxsize_eq, length_putDq_le keyOf hpos hinv.bounded _, ?_, ?_, ?_⟩
  · intro k hk
    exact hstep.ofKey_length_le keyOf hk (hinv.single k hk)
  · intro k
    have hsub := (hstep.ofKey_sublist keyOf k).append_left
      (ofKey keyOf k (run maxsize ops).delivered)
    have hord := hinv.ordered k
    rw [ofKey_append] at hord
    simp only [step]
    rw [ofKey_append, ofKey_append]
    refine hsub.trans ?_
    rw [← List.append_assoc]
    exact hord.append_right _
  · intro k m hm
    rcases getLast?_ofKey_concat hm with rfl | ⟨hne, hold⟩
    · exact Or.inr (Or.inl (hstep.mem_self keyOf))
    · rcases hinv.latest k m hold with hdel | hdq | hev
      · exact Or.inl hdel
      · rcases hstep.mem_or_head keyOf hdq hne with hdq | ⟨hfull, hhead, hafter⟩
        · exact Or.inr (Or.inl hdq)
        · refine Or.inr (Or.inr ⟨ops, msg, [], rfl, ?_, hhead, hafter⟩)
          exact Nat.le_antisymm hinv.bounded hfull
      · exact Or.inr (Or.inr (hev.mono _))

/-- A get moves the oldest message, if any. -/
theorem delivered_append_queue_get (h : History β) :
    (h.step .get).delivered ++ (h.step .get).queue.dq = h.delivered ++ h.queue.dq := by
  simp only [step, BoundedCoalescingQueue.get]
  split
  · next hnil => simp [hnil]
  · next msg rest hcons => simp [hcons]

private theorem get_queue_sublist (h : History β) : (h.step .get).queue.dq.Sublist h.queue.dq := by
  simp only [step, BoundedCoalescingQueue.get]
  split
  · exact List.Sublist.refl _
  · next msg rest hcons =>
    rw [hcons]
    exact List.sublist_cons_self _ _

private theorem get_queue_maxsize (h : History β) :
    (h.step .get).queue.maxsize = h.queue.maxsize := by
  simp only [step, BoundedCoalescingQueue.get]
  split <;> rfl

private theorem Inv.get {maxsize : Int} {ops : List (Op β)}
    (hinv : Inv maxsize ops (run maxsize ops)) :
    Inv maxsize (ops ++ [.get]) (run maxsize (ops ++ [.get])) := by
  have hmoved := delivered_append_queue_get (run maxsize ops)
  have hsub := get_queue_sublist (run maxsize ops)
  have hmax := get_queue_maxsize (run maxsize ops)
  rw [run_concat]
  refine ⟨hmax.trans hinv.maxsize_eq, ?_, ?_, ?_, ?_⟩
  · rw [hmax]
    exact Nat.le_trans hsub.length_le hinv.bounded
  · intro k hk
    exact Nat.le_trans (hsub.filter _).length_le (hinv.single k hk)
  · intro k
    rw [hmoved]
    exact hinv.ordered k
  · intro k m hm
    have hmem : ∀ x, x ∈ (run maxsize ops).delivered ++ (run maxsize ops).queue.dq ↔
        x ∈ ((run maxsize ops).step .get).delivered ++ ((run maxsize ops).step .get).queue.dq := by
      rw [hmoved]
      exact fun _ ↦ Iff.rfl
    rcases hinv.latest k m hm with hdel | hdq | hev
    · rcases List.mem_append.mp ((hmem m).mp (List.mem_append_left _ hdel)) with h | h
      · exact Or.inl h
      · exact Or.inr (Or.inl h)
    · rcases List.mem_append.mp ((hmem m).mp (List.mem_append_right _ hdq)) with h | h
      · exact Or.inl h
      · exact Or.inr (Or.inl h)
    · exact Or.inr (Or.inr (hev.mono _))

/-- Every run satisfies the invariant. -/
theorem inv_run (maxsize : Int) (ops : List (Op β)) : Inv maxsize ops (run maxsize ops) := by
  induction ops using List.reverseRecOn with
  | nil => exact inv_nil maxsize
  | append_singleton ops op ih =>
    cases op with
    | put msg => exact ih.put msg
    | get => exact ih.get

/-- An operation adds at most one message. -/
theorem length_queue_le (maxsize : Int) (ops : List (Op β)) :
    (run maxsize ops).queue.dq.length ≤ ops.length := by
  induction ops using List.reverseRecOn with
  | nil => exact Nat.le_refl _
  | append_singleton ops op ih =>
    rw [List.length_append, List.length_singleton, run_concat]
    cases op with
    | get => exact Nat.le_succ_of_le (Nat.le_trans (get_queue_sublist _).length_le ih)
    | put msg =>
      refine Nat.le_trans (length_putDq_le_succ keyOf _ _ _) (Nat.succ_le_succ ih)

/-- Only what was put is delivered or pending. -/
theorem mem_puts_of_mem {maxsize : Int} {ops : List (Op β)} {m : Nat × Message β}
    (h : m ∈ (run maxsize ops).delivered ++ (run maxsize ops).queue.dq) :
    m ∈ (run maxsize ops).puts := by
  have hmem : m ∈ ofKey keyOf (keyOf m) ((run maxsize ops).delivered ++ (run maxsize ops).queue.dq) :=
    List.mem_filter.mpr ⟨h, by simp⟩
  exact (List.mem_filter.mp (((inv_run maxsize ops).ordered _).subset hmem)).1

/-- The messages of a run are those of its puts. -/
theorem map_snd_puts (maxsize : Int) (ops : List (Op β)) :
    (run maxsize ops).puts.map Prod.snd = ops.filterMap Op.msg? := by
  induction ops using List.reverseRecOn with
  | nil => rfl
  | append_singleton ops op ih =>
    rw [run_concat, List.filterMap_append, ← ih]
    cases op with
    | put msg => simp [step, Op.msg?]
    | get => simp [step, Op.msg?]

/-- A `get` from a queue that is not empty delivers its oldest message. -/
theorem run_get_of_cons {maxsize : Int} {ops : List (Op β)} {m : Nat × Message β}
    {rest : List (Nat × Message β)} (h : (run maxsize ops).queue.dq = m :: rest) :
    (run maxsize (ops ++ [.get])).delivered = (run maxsize ops).delivered ++ [m] ∧
      (run maxsize (ops ++ [.get])).queue.dq = rest := by
  rw [run_concat]
  constructor <;> simp [step, BoundedCoalescingQueue.get, h]

/-- As many `get`s as there are pending messages deliver these in order. -/
theorem run_gets (maxsize : Int) (ops : List (Op β)) :
    (run maxsize (ops ++ List.replicate (run maxsize ops).queue.qsize .get)).delivered =
      (run maxsize ops).delivered ++ (run maxsize ops).queue.dq := by
  have hdrain : ∀ (dq : List (Nat × Message β)) (ops : List (Op β)), (run maxsize ops).queue.dq = dq →
      (run maxsize (ops ++ List.replicate dq.length .get)).delivered =
        (run maxsize ops).delivered ++ dq := by
    intro dq
    induction dq with
    | nil => intro ops _; simp
    | cons m rest ih =>
      intro ops hdq
      have ⟨hdelivered, hrest⟩ := run_get_of_cons hdq
      have hothers := ih (ops ++ [Op.get]) hrest
      rw [hdelivered, List.append_assoc, List.append_assoc, List.singleton_append,
        List.singleton_append] at hothers
      exact hothers
  exact hdrain _ ops rfl

/-- The outbox is bounded, keeps one event for each metrics key and the put order within each key
and among messages without key, and loses the newest message of a key only to an overflow. -/
theorem outbox_contract (maxsize : Int) (ops : List (Op β)) :
    ((run maxsize ops).queue.qsize : Int) ≤ max 1 maxsize ∧
      (∀ k, isMetricsKey k → (ofKey keyOf (some k) (run maxsize ops).queue.dq).length ≤ 1) ∧
      (∀ k, (ofKey keyOf (some k)
        ((run maxsize ops).delivered ++ (run maxsize ops).queue.dq)).Sublist
          (ofKey keyOf (some k) (run maxsize ops).puts)) ∧
      (ofKey keyOf none (run maxsize ops).delivered).Sublist
        (ofKey keyOf none (run maxsize ops).puts) ∧
      ∀ k m, (ofKey keyOf (some k) (run maxsize ops).puts).getLast? = some m →
        m ∉ (run maxsize ops).delivered → m ∉ (run maxsize ops).queue.dq →
          Evicted maxsize ops m := by
  have hinv := inv_run maxsize ops
  refine ⟨?_, hinv.single, fun k ↦ hinv.ordered (some k), ?_, ?_⟩
  · have hle := hinv.bounded
    rw [hinv.maxsize_eq] at hle
    rw [qsize]
    omega
  · exact ((List.sublist_append_left _ _).filter _).trans (hinv.ordered none)
  · intro k m hm hdel hdq
    rcases hinv.latest k m hm with h | h | h
    · exact absurd h hdel
    · exact absurd h hdq
    · exact h

end History

end Unoc.Realtime
