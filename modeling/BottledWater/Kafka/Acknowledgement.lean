import BottledWater.Kafka.Steps

set_option autoImplicit false

/-! # What `fsync_lsn` acknowledges

The replication stream's `fsync_lsn` is the position the client reports to Postgres as
flushed: Postgres may recycle the WAL before it, and a restarted client resumes from it. It is
written in two places: `maybe_checkpoint` sets it to the commit position of each transaction it
retires from the ring, and a keepalive sets it to the position received so far when the ring is
empty. This file shows that under the `exit` error policy it only grows, and that it stays
below the commit position of every transaction not yet committed or with a message whose
delivery librdkafka has not yet reported.

The argument rests on an invariant of the client's state that says what the ring holds. While
the client streams, the transactions still in flight are a contiguous range of all those begun,
each in its own slot (`slotOf`), with a pending count equal to the number of its messages
librdkafka holds (`inFlight`). `maybe_checkpoint` then retires the longest prefix of that range
whose transactions are committed and fully delivered (`ringInv_maybeCheckpoint`), and commit
positions increase in the order transactions begin. During the snapshot the picture is
different: the snapshot's transaction has xid `0`, which the loop of `maybe_checkpoint` retires
even before it is committed, after which the tail walks once round the ring over the slots
`memset` left. `SnapshotOpen` describes that state.
-/

namespace BottledWater

open CircularBuffer

/-! ## Transactions and their slots -/

/-- The slot of the `k`-th transaction begun. `init_producer` leaves `xact_head` on the last
slot and every `on_begin_txn` advances it by one, so transaction `k` sits in slot `k` modulo
`XACT_LIST_LEN`. -/
def slotOf (k : Nat) : Fin xactListLen := ⟨k % xactListLen, Nat.mod_lt _ (by decide)⟩

theorem offset_slotOf (k j : Nat) : offset (slotOf k) j = slotOf (k + j) := by
  ext
  simp only [val_offset, slotOf, Nat.mod_add_mod]

theorem succ_slotOf (k : Nat) : succ (slotOf k) = slotOf (k + 1) := by
  rw [← offset_one, offset_slotOf]

theorem slotOf_add_xactListLen (k : Nat) : slotOf (k + xactListLen) = slotOf k := by
  ext
  simp only [slotOf, Nat.add_mod_right]

/-- Transactions fewer than `XACT_LIST_LEN` apart have different slots. -/
theorem slotOf_ne {j k : Nat} (hjk : j < k) (hk : k < j + xactListLen) :
    slotOf k ≠ slotOf j := by
  intro h
  have hoff : offset (slotOf j) (k - j) = offset (slotOf j) 0 := by
    rw [offset_slotOf, offset_zero, Nat.add_sub_cancel' hjk.le, h]
  have := offset_injective (slotOf j) (by omega) (by decide) hoff
  omega

/-- Transactions in one window of `XACT_LIST_LEN` share a slot only if they are the same. -/
theorem slotOf_inj {j k : Nat} (h : slotOf j = slotOf k) (hjk : j < k + xactListLen)
    (hkj : k < j + xactListLen) : j = k := by
  rcases Nat.lt_trichotomy j k with hlt | heq | hgt
  · exact absurd h.symm (slotOf_ne hlt hkj)
  · exact heq
  · exact absurd h (slotOf_ne hgt hjk)

/-- The head slot, one behind the slot the next transaction will take, is the slot of the
transaction begun last. -/
theorem slotOf_head {n : Nat} (hn : 0 < n) :
    slotOf (n + maxInFlightTransactions) = slotOf (n - 1) := by
  have hlen : xactListLen = maxInFlightTransactions + 1 := rfl
  rw [show n + maxInFlightTransactions = n - 1 + xactListLen by omega, slotOf_add_xactListLen]

/-- The number of messages librdkafka holds for transaction `k`. -/
def inFlight (queue : List (KafkaMessage × Nat)) (k : Nat) : Nat :=
  queue.countP fun m => m.2 == k

theorem inFlight_append (queue : List (KafkaMessage × Nat)) (m : KafkaMessage) (j k : Nat) :
    inFlight (queue ++ [(m, j)]) k = inFlight queue k + if j = k then 1 else 0 := by
  simp only [inFlight, List.countP_append, List.countP_singleton, beq_iff_eq]

theorem inFlight_pos {queue : List (KafkaMessage × Nat)} {m : KafkaMessage × Nat}
    (hm : m ∈ queue) : 0 < inFlight queue m.2 :=
  List.countP_pos_iff.mpr ⟨m, hm, by simp⟩

/-- Taking the `i`-th element off a list takes it off every count. -/
theorem countP_eraseIdx_add {α : Type} (p : α → Bool) {l : List α} {i : Nat} {a : α}
    (h : l[i]? = some a) : (l.eraseIdx i).countP p + (if p a then 1 else 0) = l.countP p := by
  obtain ⟨hi, hget⟩ := List.getElem?_eq_some_iff.mp h
  have hperm := List.getElem_cons_eraseIdx_perm hi
  rw [hget] at hperm
  rw [← hperm.countP_eq, List.countP_cons]

/-- A delivery report takes one message of its transaction off the queue. -/
theorem inFlight_eraseIdx {queue : List (KafkaMessage × Nat)} {i : Nat} {m : KafkaMessage}
    {j : Nat} (hq : queue[i]? = some (m, j)) (k : Nat) :
    inFlight (queue.eraseIdx i) k + (if j = k then 1 else 0) = inFlight queue k := by
  unfold inFlight
  rw [← countP_eraseIdx_add _ hq]
  simp only [beq_iff_eq]

/-! ## Commit lists

The server's side records, for every transaction begun, its commit position once it has
committed: a begin appends `none`, a commit fills in the last entry. -/

theorem getElem?_append_singleton_eq_some {α : Type} {l : List α} {a x : α} {k : Nat}
    (h : (l ++ [a])[k]? = some x) : (k < l.length ∧ l[k]? = some x) ∨ (k = l.length ∧ x = a) := by
  rcases Nat.lt_or_ge k l.length with hk | hk
  · rw [List.getElem?_append_left hk] at h
    exact .inl ⟨hk, h⟩
  · rw [List.getElem?_append_right hk] at h
    have hlt := (List.getElem?_eq_some_iff.mp h).1
    simp only [List.length_singleton] at hlt
    obtain rfl : k = l.length := by omega
    simp only [Nat.sub_self, List.getElem?_cons_zero, Option.some.injEq] at h
    exact .inr ⟨rfl, h.symm⟩

theorem getElem?_set_eq_some {α : Type} {l : List α} {i k : Nat} {a x : α}
    (h : (l.set i a)[k]? = some x) : (k = i ∧ x = a) ∨ (k ≠ i ∧ l[k]? = some x) := by
  rw [List.getElem?_set] at h
  by_cases hik : i = k
  · rw [if_pos hik] at h
    by_cases hi : i < l.length
    · rw [if_pos hi, Option.some.injEq] at h
      exact .inl ⟨hik.symm, h.symm⟩
    · rw [if_neg hi] at h
      cases h
  · rw [if_neg hik] at h
    exact .inr ⟨Ne.symm hik, h⟩

/-! ## The ring while the client streams -/

/-- Commit positions as Postgres sends them: positive, and increasing in the order the
transactions began (the server sends each transaction whole, in commit order). -/
structure CommitsOrdered (commits : List (Option Nat)) : Prop where
  pos : ∀ (k p : Nat), commits[k]? = some (some p) → 0 < p
  lt : ∀ (j k a b : Nat), j < k → commits[j]? = some (some a) → commits[k]? = some (some b) → a < b

/-- The ring, given the commit positions of the transactions begun so far (`none` while one is
open) and the messages librdkafka holds. The transactions `t`, …, `commits.length - 1` are in
the ring, oldest at the tail, each in its own slot; a slot counts the messages librdkafka holds
for its transaction, records the commit position once there is one, and carries a nonzero xid
before; every message librdkafka holds belongs to a transaction in the ring, and points to its
slot; and `fsync_lsn` is below the commit position of every transaction in the ring. -/
structure RingInv (c : ProducerContext) (queue : List (KafkaMessage × Nat))
    (commits : List (Option Nat)) (t : Nat) : Prop where
  tail_le : t ≤ commits.length
  length_le : commits.length - t ≤ maxInFlightTransactions
  head : c.xactHead = slotOf (commits.length + maxInFlightTransactions)
  tail : c.xactTail = slotOf t
  pending : ∀ k, t ≤ k → k < commits.length →
    (c.xactList (slotOf k)).pendingEvents = inFlight queue k
  commitLsn : ∀ k x, t ≤ k → commits[k]? = some x → (c.xactList (slotOf k)).commitLsn = x.getD 0
  xid : ∀ k, t ≤ k → commits[k]? = some none → (c.xactList (slotOf k)).xid ≠ 0
  queue : ∀ m ∈ queue, t ≤ m.2 ∧ m.2 < commits.length ∧ m.1.envelope.xact = slotOf m.2
  fsync_lt : ∀ k p, t ≤ k → commits[k]? = some (some p) → c.client.repl.fsyncLsn < p

namespace RingInv

variable {c : ProducerContext} {queue : List (KafkaMessage × Nat)} {commits : List (Option Nat)}
  {t : Nat}

/-- The ring holds exactly the transactions from `t` on. -/
theorem count_eq (h : RingInv c queue commits t) :
    count c.xactHead c.xactTail = commits.length - t := by
  have hlen := h.length_le
  apply count_eq_of_offset (by unfold xactListLen; omega)
  rw [h.head, h.tail, offset_slotOf, succ_slotOf, Nat.add_sub_cancel' h.tail_le,
    show commits.length + maxInFlightTransactions + 1 = commits.length + xactListLen from rfl,
    slotOf_add_xactListLen]

/-- A transaction in the ring is retirable exactly when it has committed and librdkafka holds
none of its messages. -/
theorem retirable_iff (h : RingInv c queue commits t) (ho : CommitsOrdered commits) {k : Nat}
    (hk : t ≤ k) (hkB : k < commits.length) :
    (c.xactList (slotOf k)).Retirable ↔
      inFlight queue k = 0 ∧ ∃ p, commits[k]? = some (some p) := by
  obtain ⟨x, hx⟩ : ∃ x, commits[k]? = some x := ⟨commits[k], List.getElem?_eq_getElem hkB⟩
  have hpend := h.pending k hk hkB
  have hcommit := h.commitLsn k x hk hx
  unfold TransactionInfo.Retirable
  rw [hpend, hcommit, Nat.cast_eq_zero]
  cases x with
  | none =>
    have hxid := h.xid k hk hx
    simp [hx, hxid]
  | some p =>
    have hp := ho.pos k p hx
    simp [hx, hp]

/-- `r` retirements from a ring whose first `r` transactions have no message left keep the
invariant for the rest, provided `fsync_lsn` ends below the commit positions of the rest. -/
theorem iterate_retireTail (h : RingInv c queue commits t) {r : Nat}
    (hr : r ≤ commits.length - t) (hdone : ∀ j < r, inFlight queue (t + j) = 0)
    (hfsync : ∀ k p, t + r ≤ k → commits[k]? = some (some p) →
      (retireTail^[r] c).client.repl.fsyncLsn < p) :
    RingInv (retireTail^[r] c) queue commits (t + r) where
  tail_le := by have := h.tail_le; omega
  length_le := by have := h.length_le; omega
  head := by rw [iterate_retireTail_xactHead, h.head]
  tail := by rw [iterate_retireTail_xactTail, h.tail, offset_slotOf]
  pending k hk hkB := by
    rw [iterate_retireTail_xactList]
    exact h.pending k (by omega) hkB
  commitLsn k x hk hx := by
    rw [iterate_retireTail_xactList]
    exact h.commitLsn k x (by omega) hx
  xid k hk hx := by
    rw [iterate_retireTail_xactList]
    exact h.xid k (by omega) hx
  queue m hm := by
    obtain ⟨hlo, hhi, hslot⟩ := h.queue m hm
    refine ⟨?_, hhi, hslot⟩
    -- a message of a retired transaction would make its count positive
    by_contra hlt
    have hzero := hdone (m.2 - t) (by omega)
    rw [Nat.add_sub_cancel' hlo] at hzero
    have hpos := inFlight_pos hm
    omega
  fsync_lt := hfsync

/-- After `r > 0` retirements `fsync_lsn` is the commit position of the last one retired. -/
theorem fsyncLsn_iterate_retireTail (h : RingInv c queue commits t) {r p : Nat} (hr : 0 < r)
    (hp : commits[t + (r - 1)]? = some (some p)) :
    (retireTail^[r] c).client.repl.fsyncLsn = p := by
  rw [iterate_retireTail_fsyncLsn c hr, h.tail, offset_slotOf,
    h.commitLsn _ _ (Nat.le_add_right t _) hp]
  rfl

/-- `on_begin_txn` on a ring that is not full: the new transaction enters the ring in the slot
after the head, with nothing counted yet. -/
theorem begin (h : RingInv c queue commits t) (hfull : xactListFull c = false) {xid : Nat}
    (hxid : xid ≠ 0) :
    RingInv ({ c with xactHead := succ c.xactHead }.setXact (succ c.xactHead) ⟨xid, 0, 0, 0⟩)
      queue (commits ++ [none]) t := by
  have hlen : xactListLen = maxInFlightTransactions + 1 := rfl
  have hroom : commits.length - t < maxInFlightTransactions := by
    have hne : xactListLength c ≠ xactListLen - 1 := by simpa [xactListFull] using hfull
    rw [xactListLength_eq_count, h.count_eq] at hne
    have := h.length_le
    omega
  have hnew : succ c.xactHead = slotOf commits.length := by
    rw [h.head, succ_slotOf, show commits.length + maxInFlightTransactions + 1 =
      commits.length + xactListLen from rfl, slotOf_add_xactListLen]
  -- the transactions already in the ring keep their slots
  have hold : ∀ k, t ≤ k → k < commits.length → slotOf k ≠ slotOf commits.length :=
    fun k hk hkB => (slotOf_ne hkB (by omega)).symm
  have hnone : inFlight queue commits.length = 0 := by
    unfold inFlight
    rw [List.countP_eq_zero]
    intro m hm
    have hlt := (h.queue m hm).2.1
    simp only [beq_iff_eq]
    omega
  refine ⟨?tail_le, ?length_le, ?head, h.tail, ?pending, ?commitLsn, ?xid, ?queue, ?fsync_lt⟩
  case tail_le =>
    simp only [List.length_append, List.length_singleton]
    have := h.tail_le
    omega
  case length_le =>
    simp only [List.length_append, List.length_singleton]
    omega
  case head =>
    simp only [ProducerContext.setXact_xactHead, hnew, List.length_append, List.length_singleton]
    rw [show commits.length + 1 + maxInFlightTransactions = commits.length + xactListLen by omega,
      slotOf_add_xactListLen]
  case pending =>
    intro k hk hkB
    simp only [List.length_append, List.length_singleton] at hkB
    rw [ProducerContext.setXact_xactList_apply, hnew]
    rcases Nat.lt_or_ge k commits.length with hlt | hge
    · rw [if_neg (hold k hk hlt)]
      exact h.pending k hk hlt
    · obtain rfl : k = commits.length := by omega
      rw [if_pos rfl, hnone]
      rfl
  case commitLsn =>
    intro k x hk hx
    rw [ProducerContext.setXact_xactList_apply, hnew]
    rcases getElem?_append_singleton_eq_some hx with ⟨hlt, hx'⟩ | ⟨rfl, rfl⟩
    · rw [if_neg (hold k hk hlt)]
      exact h.commitLsn k x hk hx'
    · rw [if_pos rfl]
      rfl
  case xid =>
    intro k hk hx
    rw [ProducerContext.setXact_xactList_apply, hnew]
    rcases getElem?_append_singleton_eq_some hx with ⟨hlt, hx'⟩ | ⟨rfl, -⟩
    · rw [if_neg (hold k hk hlt)]
      exact h.xid k hk hx'
    · rw [if_pos rfl]
      exact hxid
  case queue =>
    intro m hm
    obtain ⟨hlo, hhi, hslot⟩ := h.queue m hm
    refine ⟨hlo, ?_, hslot⟩
    simp only [List.length_append, List.length_singleton]
    omega
  case fsync_lt =>
    intro k p hk hp
    rcases getElem?_append_singleton_eq_some hp with ⟨-, hp'⟩ | ⟨-, hx⟩
    · exact h.fsync_lt k p hk hp'
    · cases hx

/-- A row sent while a transaction is open: the head slot, which is the open transaction's,
counts it, and its message joins the queue as one of that transaction. -/
theorem row (h : RingInv c queue commits t) (hopen : t < commits.length) {m : KafkaMessage}
    (hm : m.envelope.xact = c.xactHead) :
    RingInv c.countHeadEvent (queue ++ [(m, commits.length - 1)]) commits t := by
  have hlen : xactListLen = maxInFlightTransactions + 1 := rfl
  have hhead : c.xactHead = slotOf (commits.length - 1) := by
    rw [h.head, slotOf_head (by omega)]
  -- within the ring, the head slot is the open transaction's only
  have hat : ∀ k, t ≤ k → k < commits.length →
      (slotOf k = c.xactHead ↔ commits.length - 1 = k) := by
    intro k hk hkB
    rw [hhead]
    have := h.length_le
    exact ⟨fun he => (slotOf_inj he (by omega) (by omega)).symm, fun he => by rw [he]⟩
  refine ⟨h.tail_le, h.length_le, h.head, h.tail, ?pending, ?commitLsn, ?xid, ?queue, h.fsync_lt⟩
  case pending =>
    intro k hk hkB
    rw [(ProducerContext.countHeadEvent_xactList c _).2.2, inFlight_append, h.pending k hk hkB]
    simp only [hat k hk hkB]
    split <;> simp
  case commitLsn =>
    intro k x hk hx
    rw [(ProducerContext.countHeadEvent_xactList c _).2.1]
    exact h.commitLsn k x hk hx
  case xid =>
    intro k hk hx
    rw [(ProducerContext.countHeadEvent_xactList c _).1]
    exact h.xid k hk hx
  case queue =>
    intro m' hm'
    rcases List.mem_append.mp hm' with hm' | hm'
    · exact h.queue m' hm'
    · rw [List.mem_singleton] at hm'
      subst hm'
      exact ⟨by omega, by omega, by rw [hm, hhead]⟩

/-- A delivery report for a message of transaction `k`: its slot counts one message less. -/
theorem deliver (h : RingInv c queue commits t) {i : Nat} {m : KafkaMessage} {k : Nat}
    (hq : queue[i]? = some (m, k)) :
    RingInv (c.setXact m.envelope.xact { c.xactList m.envelope.xact with
        pendingEvents := (c.xactList m.envelope.xact).pendingEvents - 1 })
      (queue.eraseIdx i) commits t := by
  have hlen : xactListLen = maxInFlightTransactions + 1 := rfl
  obtain ⟨hk, hkB, hslot⟩ := h.queue (m, k) (List.mem_of_getElem? hq)
  have hlenle := h.length_le
  refine ⟨h.tail_le, h.length_le, h.head, h.tail, ?pending, ?commitLsn, ?xid, ?queue, h.fsync_lt⟩
  case pending =>
    intro k' hk' hkB'
    have hcount := inFlight_eraseIdx hq k'
    rw [ProducerContext.setXact_xactList_apply, hslot]
    by_cases he : k = k'
    · subst he
      rw [if_pos rfl, h.pending k hk hkB, ← hcount, if_pos rfl]
      push_cast
      omega
    · have hne : slotOf k' ≠ slotOf k := fun hs => he (slotOf_inj hs (by omega) (by omega)).symm
      rw [if_neg hne, h.pending k' hk' hkB', ← hcount, if_neg he, Nat.add_zero]
  case commitLsn =>
    intro k' x hk' hx
    rw [ProducerContext.setXact_xactList_apply]
    split
    · rename_i he
      rw [← he]
      exact h.commitLsn k' x hk' hx
    · exact h.commitLsn k' x hk' hx
  case xid =>
    intro k' hk' hx
    rw [ProducerContext.setXact_xactList_apply]
    split
    · rename_i he
      rw [← he]
      exact h.xid k' hk' hx
    · exact h.xid k' hk' hx
  case queue =>
    intro m' hm'
    exact h.queue m' (List.mem_of_mem_eraseIdx hm')

/-- `on_commit_txn` records the open transaction's commit position `w` in the head slot. When
`w` is beyond `fsync_lsn` and beyond every commit position so far, the invariant holds with the
transaction committed, and commit positions stay ordered. -/
theorem recordCommit (h : RingInv c queue commits t) (ho : CommitsOrdered commits)
    (hopen : t < commits.length) {w : Nat} (hfs : c.client.repl.fsyncLsn < w)
    (hlt : ∀ (k p : Nat), commits[k]? = some (some p) → p < w) :
    RingInv (c.setXact c.xactHead { c.xactList c.xactHead with commitLsn := w }) queue
        (commits.set (commits.length - 1) (some w)) t ∧
      CommitsOrdered (commits.set (commits.length - 1) (some w)) := by
  have hlen : xactListLen = maxInFlightTransactions + 1 := rfl
  have hlenle := h.length_le
  have hhead : c.xactHead = slotOf (commits.length - 1) := by
    rw [h.head, slotOf_head (by omega)]
  -- a transaction of the ring other than the open one is not in the head slot
  have hother : ∀ k, t ≤ k → k < commits.length → k ≠ commits.length - 1 →
      slotOf k ≠ c.xactHead := by
    intro k hk hkB hne he
    rw [hhead] at he
    exact hne (slotOf_inj he (by omega) (by omega))
  have hlt_len : ∀ {k : Nat} {x : Option Nat}, commits[k]? = some x → k < commits.length :=
    fun hx => (List.getElem?_eq_some_iff.mp hx).1
  refine ⟨⟨?tail_le, ?length_le, ?head, h.tail, ?pending, ?commitLsn, ?xid, ?queue, ?fsync_lt⟩,
    ⟨?pos, ?lt⟩⟩
  case tail_le =>
    rw [List.length_set]
    exact h.tail_le
  case length_le =>
    rw [List.length_set]
    exact h.length_le
  case head =>
    rw [List.length_set]
    exact h.head
  case pending =>
    intro k hk hkB
    rw [List.length_set] at hkB
    rw [ProducerContext.setXact_xactList_apply]
    split
    · rename_i he
      rw [← he]
      exact h.pending k hk hkB
    · exact h.pending k hk hkB
  case commitLsn =>
    intro k x hk hx
    rcases getElem?_set_eq_some hx with ⟨rfl, rfl⟩ | ⟨hne, hx'⟩
    · rw [ProducerContext.setXact_xactList_apply, ← hhead, if_pos rfl]
      rfl
    · rw [ProducerContext.setXact_xactList_apply, if_neg (hother k hk (hlt_len hx') hne)]
      exact h.commitLsn k x hk hx'
  case xid =>
    intro k hk hx
    rcases getElem?_set_eq_some hx with ⟨-, hx⟩ | ⟨hne, hx'⟩
    · cases hx
    · rw [ProducerContext.setXact_xactList_apply, if_neg (hother k hk (hlt_len hx') hne)]
      exact h.xid k hk hx'
  case queue =>
    rw [List.length_set]
    exact h.queue
  case fsync_lt =>
    intro k p hk hp
    rcases getElem?_set_eq_some hp with ⟨-, hp⟩ | ⟨-, hp'⟩
    · obtain rfl := Option.some.inj hp
      exact hfs
    · exact h.fsync_lt k p hk hp'
  case pos =>
    intro k p hp
    rcases getElem?_set_eq_some hp with ⟨-, hp⟩ | ⟨-, hp'⟩
    · obtain rfl := Option.some.inj hp
      omega
    · exact ho.pos k p hp'
  case lt =>
    intro j k a b hjk ha hb
    rcases getElem?_set_eq_some hb with ⟨rfl, hbw⟩ | ⟨hkne, hb'⟩
    · -- the transaction committing now is the last one begun: it commits beyond the rest
      obtain rfl := Option.some.inj hbw
      rcases getElem?_set_eq_some ha with ⟨rfl, -⟩ | ⟨-, ha'⟩
      · omega
      · exact hlt j a ha'
    · rcases getElem?_set_eq_some ha with ⟨rfl, -⟩ | ⟨-, ha'⟩
      · have := hlt_len hb'
        omega
      · exact ho.lt j k a b hjk ha' hb'

/-- A new stream position keeps the invariant, provided `fsync_lsn` stays below the commit
positions in the ring. -/
theorem setRepl (h : RingInv c queue commits t) (repl : ReplicationStream)
    (hfsync : ∀ k p, t ≤ k → commits[k]? = some (some p) → repl.fsyncLsn < p) :
    RingInv (c.setRepl repl) queue commits t where
  tail_le := h.tail_le
  length_le := h.length_le
  head := h.head
  tail := h.tail
  pending := h.pending
  commitLsn := h.commitLsn
  xid := h.xid
  queue := h.queue
  fsync_lt := hfsync

end RingInv

/-- **`maybe_checkpoint` on the ring in flight**: for some `r`, it retires the `r` oldest
transactions, which have all committed and have no message left with librdkafka, and stops at
the first that has not (or when the ring is empty). `fsync_lsn` grows, to the commit position
of the last transaction retired, and the invariant holds of the ring that is left. -/
theorem ringInv_maybeCheckpoint {c : ProducerContext} {queue : List (KafkaMessage × Nat)}
    {commits : List (Option Nat)} {t : Nat} (h : RingInv c queue commits t)
    (ho : CommitsOrdered commits) (hne : t < commits.length) :
    ∃ r, RingInv (maybeCheckpoint c) queue commits (t + r) ∧
      (∀ k, t ≤ k → k < t + r → ∃ p, commits[k]? = some (some p)) ∧
      c.client.repl.fsyncLsn ≤ (maybeCheckpoint c).client.repl.fsyncLsn ∧
      ((maybeCheckpoint c).client.repl.fsyncLsn = c.client.repl.fsyncLsn ∨
        ∃ (k p : Nat), commits[k]? = some (some p) ∧
          (maybeCheckpoint c).client.repl.fsyncLsn = p) ∧
      maybeCheckpoint c = retireTail^[r] c := by
  obtain ⟨r, hr, hret, hstop, heq⟩ := maybeCheckpoint_eq_iterate c
  have hbound : loopBound c = commits.length - t := by
    unfold loopBound
    rw [xactListLength_eq_count, h.count_eq, if_neg (by omega)]
  rw [hbound] at hr
  -- the slots the loop retired are those of transactions `t`, …, `t + r - 1`
  have hdone : ∀ j < r, inFlight queue (t + j) = 0 ∧ ∃ p, commits[t + j]? = some (some p) := by
    intro j hj
    have hj' := hret j hj
    rw [h.tail, offset_slotOf] at hj'
    exact (h.retirable_iff ho (by omega) (by omega)).mp hj'
  have hcommitted : ∀ k, t ≤ k → k < t + r → ∃ p, commits[k]? = some (some p) := by
    intro k hk hkr
    have := (hdone (k - t) (by omega)).2
    rwa [Nat.add_sub_cancel' hk] at this
  rcases Nat.eq_zero_or_pos r with rfl | hpos
  · -- nothing retired
    rw [heq, Function.iterate_zero_apply]
    exact ⟨0, h, fun k hk hkr => absurd hkr (by omega), le_rfl, .inl rfl, rfl⟩
  · obtain ⟨p, hp⟩ := (hdone (r - 1) (by omega)).2
    have hfs := h.fsyncLsn_iterate_retireTail hpos hp
    refine ⟨r, ?_, hcommitted, ?_, .inr ⟨_, p, hp, by rw [heq, hfs]⟩, heq⟩
    · rw [heq]
      refine h.iterate_retireTail hr (fun j hj => (hdone j hj).1) ?_
      intro k q hk hq
      rw [hfs]
      exact ho.lt _ _ _ _ (by omega) hp hq
    · rw [heq, hfs]
      exact (h.fsync_lt _ p (by omega) hp).le

/-! ## The ring during the snapshot -/

theorem retirable_zero : TransactionInfo.zero.Retirable := by decide

/-- **`maybe_checkpoint` during the snapshot.** Slot `0` holds the snapshot's transaction,
every other slot is as `memset` left it, and the tail is on slot `0` or just past it. If the
snapshot's slot is retirable the loop retires it (walking the stale slots first when the tail
had passed it) and the tail ends just past it; if not, the tail ends on it. -/
theorem maybeCheckpoint_snapshot {c : ProducerContext} (hhead : c.xactHead = slotOf 0)
    (htail : c.xactTail = slotOf 0 ∨ c.xactTail = slotOf 1)
    (hstale : ∀ i, i ≠ slotOf 0 → c.xactList i = .zero) :
    ∃ r, maybeCheckpoint c = retireTail^[r] c ∧
      ((c.xactList (slotOf 0)).Retirable → (maybeCheckpoint c).xactTail = slotOf 1 ∧
        (maybeCheckpoint c).client.repl.fsyncLsn = (c.xactList (slotOf 0)).commitLsn) ∧
      (¬ (c.xactList (slotOf 0)).Retirable → (maybeCheckpoint c).xactTail = slotOf 0 ∧
        ((maybeCheckpoint c).client.repl.fsyncLsn = c.client.repl.fsyncLsn ∨
          (maybeCheckpoint c).client.repl.fsyncLsn = 0)) := by
  obtain ⟨r, hr, hret, hstop, heq⟩ := maybeCheckpoint_eq_iterate c
  have hlen : xactListLen = maxInFlightTransactions + 1 := rfl
  rcases htail with htail | htail
  · -- the tail is on the snapshot's slot: the loop can retire that slot only
    have hbound : loopBound c = 1 := by
      unfold loopBound
      rw [xactListLength_eq_count, hhead, htail]
      decide
    rw [hbound] at hr hstop
    simp only [htail, offset_slotOf, Nat.zero_add] at hret hstop
    refine ⟨r, heq, fun hR => ?_, fun hR => ?_⟩
    · obtain rfl : r = 1 := by
        by_contra hne
        exact hstop (by omega) (by rwa [show r = 0 by omega])
      refine ⟨?_, ?_⟩
      · rw [heq, iterate_retireTail_xactTail, htail, offset_slotOf]
      · rw [heq, iterate_retireTail_fsyncLsn c one_pos, htail, offset_slotOf]
        rfl
    · obtain rfl : r = 0 := by
        by_contra hne
        exact hR (hret 0 (by omega))
      rw [heq]
      exact ⟨htail, .inl rfl⟩
  · -- the tail has passed the snapshot's slot: the loop walks the stale slots first
    have hbound : loopBound c = xactListLen := by
      unfold loopBound
      rw [xactListLength_eq_count, hhead, htail]
      decide
    rw [hbound] at hr hstop
    simp only [htail, offset_slotOf] at hret hstop
    have hstaleR : ∀ j < maxInFlightTransactions, (c.xactList (slotOf (1 + j))).Retirable := by
      intro j hj
      rw [hstale _ (slotOf_ne (by omega) (by omega))]
      exact retirable_zero
    have hlast : slotOf (1 + maxInFlightTransactions) = slotOf 0 := by decide
    refine ⟨r, heq, fun hR => ?_, fun hR => ?_⟩
    · -- every slot is retirable: the loop goes once round the ring
      obtain rfl : r = xactListLen := by
        by_contra hne
        apply hstop (by omega)
        rcases Nat.lt_or_ge r maxInFlightTransactions with hlt | hge
        · exact hstaleR r hlt
        · rw [show r = maxInFlightTransactions by omega, hlast]
          exact hR
      refine ⟨?_, ?_⟩
      · rw [heq, iterate_retireTail_xactTail, htail, offset_slotOf, slotOf_add_xactListLen]
      · rw [heq, iterate_retireTail_fsyncLsn c (show 0 < xactListLen by decide), htail,
          offset_slotOf, show 1 + (xactListLen - 1) = 1 + maxInFlightTransactions from rfl, hlast]
    · -- the walk stops on the snapshot's slot
      obtain rfl : r = maxInFlightTransactions := by
        have hle : r ≤ maxInFlightTransactions := by
          by_contra hgt
          apply hR
          have hlastR := hret maxInFlightTransactions (by omega)
          rwa [hlast] at hlastR
        by_contra hne
        exact hstop (by omega) (hstaleR r (by omega))
      refine ⟨?_, .inr ?_⟩
      · rw [heq, iterate_retireTail_xactTail, htail, offset_slotOf, hlast]
      · rw [heq, iterate_retireTail_fsyncLsn c (show 0 < maxInFlightTransactions by decide), htail,
          offset_slotOf, hstale _ (by decide)]
        rfl

/-! ## The invariant of the client -/

/-- Before `snapshot_start`: the client as `main` set it up to take a snapshot. -/
structure SnapshotPending (s : KafkaClient) : Prop where
  phase : s.env.phase = .snapshot
  openXid : s.env.openXid = none
  commits : s.env.commits = []
  queue : s.queue = []
  head : s.ctx.xactHead = slotOf maxInFlightTransactions
  tail : s.ctx.xactTail = slotOf 0
  slots : ∀ i, s.ctx.xactList i = .zero
  fsync : s.ctx.client.repl.fsyncLsn = 0
  recvd : s.ctx.client.repl.recvdLsn = 0

/-- During the snapshot: its transaction (xid `0`) sits in slot `0` and counts the messages
librdkafka holds, all of them the snapshot's; every other slot is as `memset` left it; and the
tail is on slot `0` or just past it. Nothing has been received or acknowledged yet. -/
structure SnapshotOpen (s : KafkaClient) : Prop where
  phase : s.env.phase = .snapshot
  openXid : s.env.openXid = some 0
  commits : s.env.commits = [none]
  head : s.ctx.xactHead = slotOf 0
  tail : s.ctx.xactTail = slotOf 0 ∨ s.ctx.xactTail = slotOf 1
  stale : ∀ i, i ≠ slotOf 0 → s.ctx.xactList i = .zero
  xid : (s.ctx.xactList (slotOf 0)).xid = 0
  commitLsn : (s.ctx.xactList (slotOf 0)).commitLsn = 0
  pending : (s.ctx.xactList (slotOf 0)).pendingEvents = s.queue.length
  queue : ∀ m ∈ s.queue, m.2 = 0 ∧ m.1.envelope.xact = slotOf 0
  fsync : s.ctx.client.repl.fsyncLsn = 0
  recvd : s.ctx.client.repl.recvdLsn = 0

/-- While the client streams: the ring invariant with the transactions from `t` on in the
ring, ordered commit positions, the open transaction (if any) is the last one begun and is in
the ring, and every commit position and `fsync_lsn` are within what the stream has seen, the
positions received and the slot's start. -/
structure StreamInv (s : KafkaClient) (t : Nat) : Prop
    extends RingInv s.ctx s.queue s.env.commits t, CommitsOrdered s.env.commits where
  open_last : s.env.openXid ≠ none →
    t < s.env.commits.length ∧ s.env.commits[s.env.commits.length - 1]? = some none
  commit_le : ∀ (k p : Nat), s.env.commits[k]? = some (some p) →
    p ≤ max s.ctx.client.repl.recvdLsn s.ctx.client.repl.startLsn
  fsync_le : s.ctx.client.repl.fsyncLsn ≤
    max s.ctx.client.repl.recvdLsn s.ctx.client.repl.startLsn

/-- The invariant of the Kafka client under the `exit` policy, in each phase. -/
def Inv (s : KafkaClient) : Prop :=
  SnapshotPending s ∨ SnapshotOpen s ∨ (s.env.phase = .streaming ∧ ∃ t, StreamInv s t)

theorem CommitsOrdered.append_none {commits : List (Option Nat)} (ho : CommitsOrdered commits) :
    CommitsOrdered (commits ++ [none]) where
  pos k p hp := by
    rcases getElem?_append_singleton_eq_some hp with ⟨-, hp'⟩ | ⟨-, hx⟩
    · exact ho.pos k p hp'
    · cases hx
  lt j k a b hjk ha hb := by
    rcases getElem?_append_singleton_eq_some ha with ⟨-, ha'⟩ | ⟨-, hx⟩
    · rcases getElem?_append_singleton_eq_some hb with ⟨-, hb'⟩ | ⟨-, hx⟩
      · exact ho.lt j k a b hjk ha' hb'
      · cases hx
    · cases hx

/-! ### Steps of the snapshot -/

/-- `snapshot_start` calls `on_begin_txn` with xid `0`: the snapshot takes slot `0`. -/
theorem SnapshotPending.begin {s : KafkaClient} {c : ProducerContext} {walPos : Nat}
    (h : SnapshotPending s) (hret : onBeginTxn s.ctx walPos 0 = .ret c 0) :
    SnapshotOpen { ctx := c, queue := s.queue, env := s.env.after walPos (.beginTxn 0) } := by
  obtain ⟨-, -, -, rfl⟩ := onBeginTxn_ret hret
  have hnew : succ s.ctx.xactHead = slotOf 0 := by
    rw [h.head, succ_slotOf]
    rfl
  have hslot0 : ∀ i, ({ s.ctx with xactHead := succ s.ctx.xactHead }.setXact (succ s.ctx.xactHead)
      ⟨0, 0, 0, 0⟩).xactList i = if i = slotOf 0 then ⟨0, 0, 0, 0⟩ else .zero := by
    intro i
    rw [ProducerContext.setXact_xactList_apply, hnew]
    split
    · rfl
    · exact h.slots i
  refine ⟨h.phase, rfl, by simp [Env.after, h.commits], hnew, .inl h.tail, ?stale, ?xid,
    ?commitLsn, ?pending, ?queue, h.fsync, h.recvd⟩
  case stale =>
    intro i hi
    rw [hslot0, if_neg hi]
  case xid => rw [hslot0, if_pos rfl]
  case commitLsn => rw [hslot0, if_pos rfl]
  case pending =>
    rw [hslot0, if_pos rfl, h.queue]
    rfl
  case queue =>
    rw [h.queue]
    intro m hm
    cases hm

/-- A row of the snapshot: the snapshot's slot counts it, and its message joins the queue. -/
theorem SnapshotOpen.row {s : KafkaClient} (h : SnapshotOpen s) {m : KafkaMessage}
    (hm : m.envelope.xact = s.ctx.xactHead) :
    SnapshotOpen
      { ctx := s.ctx.countHeadEvent
        queue := s.queue ++ [(m, s.env.commits.length - 1)]
        env := s.env } := by
  have hcount := ProducerContext.countHeadEvent_xactList s.ctx (slotOf 0)
  rw [← h.head, if_pos rfl] at hcount
  rw [h.head] at hcount
  refine ⟨h.phase, h.openXid, h.commits, h.head, h.tail, ?stale, by rw [hcount.1, h.xid],
    by rw [hcount.2.1, h.commitLsn], ?pending, ?queue, h.fsync, h.recvd⟩
  case stale =>
    intro i hi
    rw [ProducerContext.countHeadEvent_xactList_of_ne s.ctx (by rwa [h.head]), h.stale i hi]
  case pending =>
    rw [hcount.2.2, h.pending, List.length_append, List.length_singleton]
    push_cast
    rfl
  case queue =>
    intro m' hm'
    rcases List.mem_append.mp hm' with hm' | hm'
    · exact h.queue m' hm'
    · rw [List.mem_singleton] at hm'
      subst hm'
      exact ⟨by simp [h.commits], by rw [hm, h.head]⟩

theorem getElem?_singleton_eq_some {α : Type} {a x : α} {k : Nat} (h : [a][k]? = some x) :
    k = 0 ∧ x = a := by
  obtain ⟨hk, hx⟩ := List.getElem?_eq_some_iff.mp h
  simp only [List.length_singleton, Nat.lt_one_iff] at hk
  subst hk
  exact ⟨rfl, hx.symm⟩

/-- A delivery report during the snapshot: the snapshot's slot counts one message less, and
`maybe_checkpoint` may retire it, walking the stale slots first when the tail had passed it. -/
theorem SnapshotOpen.deliver {s : KafkaClient} (h : SnapshotOpen s) {i : Nat} {m : KafkaMessage}
    {k : Nat} (hq : s.queue[i]? = some (m, k)) :
    SnapshotOpen
      { ctx := maybeCheckpoint (s.ctx.setXact m.envelope.xact
          { s.ctx.xactList m.envelope.xact with
            pendingEvents := (s.ctx.xactList m.envelope.xact).pendingEvents - 1 })
        queue := s.queue.eraseIdx i
        env := s.env } := by
  obtain ⟨hi, -⟩ := List.getElem?_eq_some_iff.mp hq
  have hslot : m.envelope.xact = slotOf 0 := (h.queue (m, k) (List.mem_of_getElem? hq)).2
  rw [hslot]
  set c₁ := s.ctx.setXact (slotOf 0) { s.ctx.xactList (slotOf 0) with
    pendingEvents := (s.ctx.xactList (slotOf 0)).pendingEvents - 1 } with hc₁
  have h0 : c₁.xactList (slotOf 0) = { s.ctx.xactList (slotOf 0) with
      pendingEvents := (s.ctx.xactList (slotOf 0)).pendingEvents - 1 } :=
    ProducerContext.setXact_xactList_self _ _ _
  have hstale : ∀ j, j ≠ slotOf 0 → c₁.xactList j = .zero := by
    intro j hj
    rw [ProducerContext.setXact_xactList_of_ne _ _ hj, h.stale j hj]
  obtain ⟨r, heq, hR, hN⟩ := maybeCheckpoint_snapshot (c := c₁) h.head h.tail hstale
  have hlist : (maybeCheckpoint c₁).xactList = c₁.xactList := by
    rw [heq, iterate_retireTail_xactList]
  refine ⟨h.phase, h.openXid, h.commits, ?head, ?tail, ?stale, ?xid, ?commitLsn, ?pending,
    ?queue, ?fsync, ?recvd⟩
  case head =>
    rw [heq, iterate_retireTail_xactHead]
    exact h.head
  case tail =>
    by_cases hr : (c₁.xactList (slotOf 0)).Retirable
    · exact .inr (hR hr).1
    · exact .inl (hN hr).1
  case stale =>
    intro j hj
    rw [hlist]
    exact hstale j hj
  case xid =>
    rw [hlist, h0]
    exact h.xid
  case commitLsn =>
    rw [hlist, h0]
    exact h.commitLsn
  case pending =>
    rw [hlist, h0]
    show (s.ctx.xactList (slotOf 0)).pendingEvents - 1 = ((s.queue.eraseIdx i).length : Int)
    rw [h.pending, List.length_eraseIdx_of_lt hi]
    omega
  case queue =>
    intro m' hm'
    exact h.queue m' (List.mem_of_mem_eraseIdx hm')
  case fsync =>
    by_cases hr : (c₁.xactList (slotOf 0)).Retirable
    · rw [(hR hr).2, h0]
      exact h.commitLsn
    · rcases (hN hr).2 with hf | hf
      · rw [hf]
        exact h.fsync
      · exact hf
  case recvd =>
    rw [heq, iterate_retireTail_recvdLsn]
    exact h.recvd

/-- A one-entry commit list with a positive position is ordered. -/
theorem CommitsOrdered.singleton {w : Nat} (hpos : 0 < w) : CommitsOrdered [some w] where
  pos k p hp := by
    obtain ⟨-, hp⟩ := getElem?_singleton_eq_some hp
    cases hp
    exact hpos
  lt j k a b hjk ha hb := by
    have := (getElem?_singleton_eq_some hb).1
    omega

/-- A ring that every transaction begun has left: the tail has caught up with the head and
librdkafka holds no message. -/
theorem RingInv.retired {c : ProducerContext} {commits : List (Option Nat)}
    (hhead : c.xactHead = slotOf (commits.length + maxInFlightTransactions))
    (htail : c.xactTail = slotOf commits.length) :
    RingInv c [] commits commits.length where
  tail_le := le_rfl
  length_le := by omega
  head := hhead
  tail := htail
  pending k hk hkB := by omega
  commitLsn k x hk hx := by
    have := (List.getElem?_eq_some_iff.mp hx).1
    omega
  xid k hk hx := by
    have := (List.getElem?_eq_some_iff.mp hx).1
    omega
  queue m hm := by cases hm
  fsync_lt k p hk hp := by
    have := (List.getElem?_eq_some_iff.mp hp).1
    omega

/-- A ring holding one transaction, committed at `w`, in slot `0`, with every message
librdkafka holds one of its own. -/
theorem RingInv.singleton {c : ProducerContext} {queue : List (KafkaMessage × Nat)} {w : Nat}
    (hhead : c.xactHead = slotOf (1 + maxInFlightTransactions)) (htail : c.xactTail = slotOf 0)
    (hpending : (c.xactList (slotOf 0)).pendingEvents = inFlight queue 0)
    (hcommit : (c.xactList (slotOf 0)).commitLsn = w)
    (hqueue : ∀ m ∈ queue, m.2 = 0 ∧ m.1.envelope.xact = slotOf 0)
    (hfsync : c.client.repl.fsyncLsn < w) :
    RingInv c queue [some w] 0 where
  tail_le := Nat.zero_le _
  length_le := by simp [maxInFlightTransactions]
  head := hhead
  tail := htail
  pending k _ hkB := by
    simp only [List.length_singleton, Nat.lt_one_iff] at hkB
    subst hkB
    exact hpending
  commitLsn k x _ hx := by
    obtain ⟨rfl, rfl⟩ := getElem?_singleton_eq_some hx
    exact hcommit
  xid k _ hx := by
    obtain ⟨-, hx⟩ := getElem?_singleton_eq_some hx
    cases hx
  queue m hm := by
    obtain ⟨hm0, hslot⟩ := hqueue m hm
    exact ⟨Nat.zero_le _, by simp [hm0], by rw [hslot, hm0]⟩
  fsync_lt k p _ hp := by
    obtain ⟨-, hp⟩ := getElem?_singleton_eq_some hp
    cases hp
    exact hfsync

/-- `snapshot_poll` calls `on_commit_txn` with xid `0` at `start_lsn`: the snapshot commits, and
the client streams on with the snapshot as the one transaction begun. -/
theorem SnapshotOpen.commit {s : KafkaClient} {c : ProducerContext} (h : SnapshotOpen s)
    (hpos : 0 < s.ctx.client.repl.startLsn)
    (hret : onCommitTxn s.ctx s.ctx.client.repl.startLsn 0 = .ret c 0) :
    ∃ t, StreamInv
      { ctx := c
        queue := s.queue
        env := s.env.after s.ctx.client.repl.startLsn (.commitTxn 0) } t := by
  obtain ⟨-, -, rfl⟩ := onCommitTxn_ret hret
  have henv : s.env.after s.ctx.client.repl.startLsn (.commitTxn 0) =
      ⟨.streaming, none, [some s.ctx.client.repl.startLsn]⟩ := by
    simp [Env.after, h.commits]
  rw [henv, h.head]
  set w := s.ctx.client.repl.startLsn with hw
  set c₁ := s.ctx.setXact (slotOf 0) { s.ctx.xactList (slotOf 0) with commitLsn := w } with hc₁
  have h0 : c₁.xactList (slotOf 0) = { s.ctx.xactList (slotOf 0) with commitLsn := w } :=
    ProducerContext.setXact_xactList_self _ _ _
  have hstale : ∀ j, j ≠ slotOf 0 → c₁.xactList j = .zero := by
    intro j hj
    rw [ProducerContext.setXact_xactList_of_ne _ _ hj, h.stale j hj]
  obtain ⟨r, heq, hR, hN⟩ := maybeCheckpoint_snapshot (c := c₁) h.head h.tail hstale
  have hlist : (maybeCheckpoint c₁).xactList = c₁.xactList := by
    rw [heq, iterate_retireTail_xactList]
  have hhead : (maybeCheckpoint c₁).xactHead =
      slotOf ([some w].length + maxInFlightTransactions) := by
    rw [heq, iterate_retireTail_xactHead, show [some w].length + maxInFlightTransactions =
      0 + xactListLen from rfl, slotOf_add_xactListLen]
    exact h.head
  have hstart : (maybeCheckpoint c₁).client.repl.startLsn = w := by
    rw [heq, iterate_retireTail_startLsn]
    exact hw.symm
  have hcommit_le : ∀ (k p : Nat), [some w][k]? = some (some p) →
      p ≤ max (maybeCheckpoint c₁).client.repl.recvdLsn
        (maybeCheckpoint c₁).client.repl.startLsn := by
    intro k p hp
    obtain ⟨-, hp⟩ := getElem?_singleton_eq_some hp
    cases hp
    rw [hstart]
    exact le_max_right _ _
  by_cases hr : (c₁.xactList (slotOf 0)).Retirable
  · -- everything was delivered: the snapshot is retired at once and the ring is empty
    have hq : s.queue = [] := by
      have hpend := hr.1
      rw [h0] at hpend
      change (s.ctx.xactList (slotOf 0)).pendingEvents = 0 at hpend
      rw [h.pending] at hpend
      exact List.length_eq_zero_iff.mp (by exact_mod_cast hpend)
    obtain ⟨htail, hfs⟩ := hR hr
    rw [hq]
    refine ⟨1, ⟨RingInv.retired hhead htail, CommitsOrdered.singleton hpos,
      fun hne => absurd rfl hne, hcommit_le, ?_⟩⟩
    rw [hfs, h0, hstart]
    exact le_max_right _ _
  · -- messages of the snapshot are still in flight: it stays in the ring
    obtain ⟨htail, hfs⟩ := hN hr
    have hfs0 : (maybeCheckpoint c₁).client.repl.fsyncLsn = 0 := by
      rcases hfs with hf | hf
      · rw [hf]
        exact h.fsync
      · exact hf
    -- every message librdkafka holds is the snapshot's, so the slot counts them all
    have hpending :
        ((maybeCheckpoint c₁).xactList (slotOf 0)).pendingEvents = inFlight s.queue 0 := by
      rw [hlist, h0]
      show (s.ctx.xactList (slotOf 0)).pendingEvents = _
      rw [h.pending]
      unfold inFlight
      rw [List.countP_eq_length.mpr fun m hm => by simp [(h.queue m hm).1]]
    refine ⟨0, ⟨RingInv.singleton hhead htail hpending (by rw [hlist, h0]) h.queue
      (by rw [hfs0]; exact hpos), CommitsOrdered.singleton hpos,
      fun hne => absurd rfl hne, hcommit_le, by rw [hfs0]; exact Nat.zero_le _⟩⟩

/-! ### Steps of the stream -/

namespace StreamInv

variable {s : KafkaClient} {t : Nat}

/-- An XLogData message's position counts as received once its frame is parsed. -/
theorem received (h : StreamInv s t) (walPos : Nat) :
    StreamInv { s with ctx := s.ctx.setRepl (xlogDataReceived s.ctx.client.repl walPos) } t := by
  have hle : max s.ctx.client.repl.recvdLsn s.ctx.client.repl.startLsn ≤
      max (max walPos s.ctx.client.repl.recvdLsn) s.ctx.client.repl.startLsn := by omega
  exact ⟨h.toRingInv.setRepl _ h.fsync_lt, h.toCommitsOrdered, h.open_last,
    fun k p hp => (h.commit_le k p hp).trans hle, h.fsync_le.trans hle⟩

/-- A streamed transaction begins. -/
theorem begin {c : ProducerContext} {walPos xid : Nat} (h : StreamInv s t)
    (hxid : xid ≠ 0) (hret : onBeginTxn s.ctx walPos xid = .ret c 0) :
    StreamInv { ctx := c, queue := s.queue, env := s.env.after walPos (.beginTxn xid) } t := by
  obtain ⟨-, hfull, -, rfl⟩ := onBeginTxn_ret hret
  refine ⟨h.toRingInv.begin hfull hxid, h.toCommitsOrdered.append_none, fun _ => ?_,
    fun k p hp => ?_, h.fsync_le⟩
  · show t < (s.env.commits ++ [none]).length ∧
      (s.env.commits ++ [none])[(s.env.commits ++ [none]).length - 1]? = some none
    have := h.tail_le
    simp only [List.length_append, List.length_singleton, Nat.add_sub_cancel,
      List.getElem?_concat_length, and_true]
    omega
  · rcases getElem?_append_singleton_eq_some hp with ⟨-, hp'⟩ | ⟨-, hx⟩
    · exact h.commit_le k p hp'
    · cases hx

/-- A row of the open transaction. -/
theorem row (h : StreamInv s t) (hopen : s.env.openXid ≠ none) {m : KafkaMessage}
    (hm : m.envelope.xact = s.ctx.xactHead) :
    StreamInv
      { ctx := s.ctx.countHeadEvent
        queue := s.queue ++ [(m, s.env.commits.length - 1)]
        env := s.env } t :=
  ⟨h.toRingInv.row (h.open_last hopen).1 hm, h.toCommitsOrdered, h.open_last, h.commit_le,
    h.fsync_le⟩

/-- The open transaction commits at `walPos`, beyond every position received and the slot's
start; `maybe_checkpoint` then retires what it can, and the position counts as received. -/
theorem commit {c : ProducerContext} {walPos xid : Nat} (h : StreamInv s t)
    (hopen : s.env.openXid = some xid) (hrecvd : s.ctx.client.repl.recvdLsn < walPos)
    (hstart : s.ctx.client.repl.startLsn < walPos)
    (hret : onCommitTxn s.ctx walPos xid = .ret c 0) :
    ∃ t', StreamInv
        { ctx := c.setRepl (xlogDataReceived c.client.repl walPos)
          queue := s.queue
          env := s.env.after walPos (.commitTxn xid) } t' ∧
      s.ctx.client.repl.fsyncLsn ≤ c.client.repl.fsyncLsn := by
  obtain ⟨-, -, rfl⟩ := onCommitTxn_ret hret
  obtain ⟨hopenB, -⟩ := h.open_last (by rw [hopen]; exact Option.some_ne_none xid)
  have hbound : max s.ctx.client.repl.recvdLsn s.ctx.client.repl.startLsn < walPos := by omega
  obtain ⟨hring, hord⟩ := h.toRingInv.recordCommit h.toCommitsOrdered hopenB
    (lt_of_le_of_lt h.fsync_le hbound) (fun k p hp => lt_of_le_of_lt (h.commit_le k p hp) hbound)
  set c₁ := s.ctx.setXact s.ctx.xactHead { s.ctx.xactList s.ctx.xactHead with commitLsn := walPos }
  obtain ⟨r, hring', -, hmono, hwhich, heq⟩ :=
    ringInv_maybeCheckpoint hring hord (by rw [List.length_set]; exact hopenB)
  have hrecvd' : (maybeCheckpoint c₁).client.repl.recvdLsn = s.ctx.client.repl.recvdLsn := by
    rw [heq, iterate_retireTail_recvdLsn]
    rfl
  have hstart' : (maybeCheckpoint c₁).client.repl.startLsn = s.ctx.client.repl.startLsn := by
    rw [heq, iterate_retireTail_startLsn]
    rfl
  -- every commit position, the new one included, is within what the stream has now seen
  have hcommit_le : ∀ (k p : Nat),
      (s.env.commits.set (s.env.commits.length - 1) (some walPos))[k]? = some (some p) →
      p ≤ max (max walPos s.ctx.client.repl.recvdLsn) s.ctx.client.repl.startLsn := by
    intro k p hp
    rcases getElem?_set_eq_some hp with ⟨-, hp⟩ | ⟨-, hp'⟩
    · obtain rfl := Option.some.inj hp
      omega
    · have := h.commit_le k p hp'
      omega
  refine ⟨t + r, ⟨hring'.setRepl _ hring'.fsync_lt, hord, fun hne => absurd rfl hne,
    fun k p hp => ?_, ?_⟩, hmono⟩
  · show p ≤ max (max walPos (maybeCheckpoint c₁).client.repl.recvdLsn)
      (maybeCheckpoint c₁).client.repl.startLsn
    rw [hrecvd', hstart']
    exact hcommit_le k p hp
  · show (maybeCheckpoint c₁).client.repl.fsyncLsn ≤
      max (max walPos (maybeCheckpoint c₁).client.repl.recvdLsn)
        (maybeCheckpoint c₁).client.repl.startLsn
    rw [hrecvd', hstart']
    rcases hwhich with hf | ⟨k, p, hp, hf⟩
    · rw [hf]
      have hfs : c₁.client.repl.fsyncLsn = s.ctx.client.repl.fsyncLsn := rfl
      have := h.fsync_le
      omega
    · rw [hf]
      exact hcommit_le k p hp

/-- A keepalive: its position counts as received, and when the ring is empty it is
acknowledged as flushed. That position may lie below `fsync_lsn`, but not below both it and the
slot's start. -/
theorem keepalive (h : StreamInv s t) (walPos : Nat) :
    StreamInv { s with
      ctx := s.ctx.setRepl
        { s.ctx.client.repl with
          recvdLsn := max walPos s.ctx.client.repl.recvdLsn
          fsyncLsn := if xactListEmpty s.ctx then max walPos s.ctx.client.repl.recvdLsn
            else s.ctx.client.repl.fsyncLsn } } t ∧
      max s.ctx.client.repl.fsyncLsn s.ctx.client.repl.startLsn ≤
        max (if xactListEmpty s.ctx then max walPos s.ctx.client.repl.recvdLsn
          else s.ctx.client.repl.fsyncLsn) s.ctx.client.repl.startLsn := by
  have hle : max s.ctx.client.repl.recvdLsn s.ctx.client.repl.startLsn ≤
      max (max walPos s.ctx.client.repl.recvdLsn) s.ctx.client.repl.startLsn := by omega
  have hfs := h.fsync_le
  by_cases he : xactListEmpty s.ctx = true
  · -- an empty ring: every transaction begun has been retired
    have ht : t = s.env.commits.length := by
      have hc := h.count_eq
      have := h.tail_le
      simp only [xactListEmpty, xactListLength_eq_count, beq_iff_eq] at he
      omega
    simp only [he, if_true]
    refine ⟨⟨h.toRingInv.setRepl _ fun k p hk hp => ?_, h.toCommitsOrdered, h.open_last,
      fun k p hp => (h.commit_le k p hp).trans hle, le_max_left _ _⟩, by omega⟩
    have := (List.getElem?_eq_some_iff.mp hp).1
    omega
  · simp only [he, Bool.false_eq_true, if_false]
    exact ⟨⟨h.toRingInv.setRepl _ h.fsync_lt, h.toCommitsOrdered, h.open_last,
      fun k p hp => (h.commit_le k p hp).trans hle, hfs.trans hle⟩, le_rfl⟩

/-- A successful delivery report, and the `maybe_checkpoint` after it. -/
theorem deliver (h : StreamInv s t) {i : Nat} {m : KafkaMessage} {k : Nat}
    (hq : s.queue[i]? = some (m, k)) :
    ∃ t', StreamInv
        { ctx := maybeCheckpoint (s.ctx.setXact m.envelope.xact
            { s.ctx.xactList m.envelope.xact with
              pendingEvents := (s.ctx.xactList m.envelope.xact).pendingEvents - 1 })
          queue := s.queue.eraseIdx i
          env := s.env } t' ∧
      s.ctx.client.repl.fsyncLsn ≤ (maybeCheckpoint (s.ctx.setXact m.envelope.xact
        { s.ctx.xactList m.envelope.xact with
          pendingEvents :=
            (s.ctx.xactList m.envelope.xact).pendingEvents - 1 })).client.repl.fsyncLsn := by
  obtain ⟨hk, hkB, -⟩ := h.queue (m, k) (List.mem_of_getElem? hq)
  have hkB' : k < s.env.commits.length := hkB
  have hk' : t ≤ k := hk
  obtain ⟨r, hring, hcommitted, hmono, hwhich, heq⟩ :=
    ringInv_maybeCheckpoint (h.toRingInv.deliver hq) h.toCommitsOrdered (by omega)
  set c₁ := s.ctx.setXact m.envelope.xact { s.ctx.xactList m.envelope.xact with
    pendingEvents := (s.ctx.xactList m.envelope.xact).pendingEvents - 1 }
  have hrecvd' : (maybeCheckpoint c₁).client.repl.recvdLsn = s.ctx.client.repl.recvdLsn := by
    rw [heq, iterate_retireTail_recvdLsn]
    rfl
  have hstart' : (maybeCheckpoint c₁).client.repl.startLsn = s.ctx.client.repl.startLsn := by
    rw [heq, iterate_retireTail_startLsn]
    rfl
  refine ⟨t + r, ⟨hring, h.toCommitsOrdered, fun hne => ?_, fun k p hp => ?_, ?_⟩, hmono⟩
  · -- the open transaction has not committed, so it is not retired
    obtain ⟨hlt, hlast⟩ := h.open_last hne
    refine ⟨?_, hlast⟩
    show t + r < s.env.commits.length
    by_contra hge
    obtain ⟨p, hp⟩ := hcommitted (s.env.commits.length - 1) (by omega) (by omega)
    rw [hlast] at hp
    cases hp
  · show p ≤ max (maybeCheckpoint c₁).client.repl.recvdLsn (maybeCheckpoint c₁).client.repl.startLsn
    rw [hrecvd', hstart']
    exact h.commit_le k p hp
  · show (maybeCheckpoint c₁).client.repl.fsyncLsn ≤
      max (maybeCheckpoint c₁).client.repl.recvdLsn (maybeCheckpoint c₁).client.repl.startLsn
    rw [hrecvd', hstart']
    rcases hwhich with hf | ⟨k, p, hp, hf⟩
    · rw [hf]
      exact h.fsync_le
    · rw [hf]
      exact h.commit_le k p hp

end StreamInv

/-! ## Whole runs -/

/-- `init_producer` leaves the head on the slot before transaction `0`'s. -/
theorem initProducer_xactHead (client : ClientContext) (mapper : TableMapper) :
    (initProducer client mapper).xactHead = slotOf maxInFlightTransactions := by
  ext
  show xactListLen - 1 = maxInFlightTransactions % xactListLen
  decide

/-- The client as `main` sets it up satisfies the invariant. -/
theorem inv_initial {s : KafkaClient} (h : Initial s) : Inv s := by
  obtain ⟨startLsn, takingSnapshot, mapper, format, policy, rfl⟩ := h
  have hhead := initProducer_xactHead ⟨⟨startLsn, 0, 0⟩, takingSnapshot⟩ mapper
  cases takingSnapshot with
  | true => exact .inl ⟨rfl, rfl, rfl, rfl, hhead, rfl, fun _ => rfl, rfl, rfl⟩
  | false =>
    -- streaming from the start, with no transaction begun
    have hhead' : slotOf maxInFlightTransactions =
        slotOf (([] : List (Option Nat)).length + maxInFlightTransactions) := by
      rw [List.length_nil, Nat.zero_add]
    refine .inr (.inr ⟨rfl, 0, ⟨⟨le_rfl, Nat.zero_le _, hhead.trans hhead', rfl, ?_, ?_, ?_, ?_,
      ?_⟩, ⟨?_, ?_⟩, fun hne => absurd rfl hne, ?_, Nat.zero_le _⟩⟩)
    · intro k _ hk
      exact absurd hk (Nat.not_lt_zero k)
    all_goals simp

/-- The lower bound on every commit still to come: nothing during the snapshot (whose commit
position is `start_lsn`, which is positive), and while streaming every position received and
the slot's start. -/
def ackBound (s : KafkaClient) : Nat :=
  match s.env.phase with
  | .snapshot => 0
  | .streaming => max s.ctx.client.repl.recvdLsn s.ctx.client.repl.startLsn

/-- How far the client has acknowledged, counting the slot's start as acknowledged: the server
has the snapshot's data up to `start_lsn` in any case. `fsync_lsn` itself can go down, at a
keepalive after the snapshot below `start_lsn`; this does not. -/
def ackLevel (s : KafkaClient) : Nat :=
  max s.ctx.client.repl.fsyncLsn s.ctx.client.repl.startLsn

/-- A step that does not lower `fsync_lsn` and keeps the slot's start does not lower the level. -/
theorem ackLevel_le_of {s s' : KafkaClient}
    (hfs : s.ctx.client.repl.fsyncLsn ≤ s'.ctx.client.repl.fsyncLsn)
    (hstart : s'.ctx.client.repl.startLsn = s.ctx.client.repl.startLsn) :
    ackLevel s ≤ ackLevel s' := by
  unfold ackLevel
  omega

/-- What a run of the client keeps: `ackLevel` and `ackBound` only grow, a transaction once
begun stays begun and once committed keeps its commit position, and a transaction still open
in `s` commits beyond `ackBound s`. -/
structure Progress (s s' : KafkaClient) : Prop where
  ackLevel_le : ackLevel s ≤ ackLevel s'
  ackBound_le : ackBound s ≤ ackBound s'
  length_le : s.env.commits.length ≤ s'.env.commits.length
  committed : ∀ (k p : Nat), s.env.commits[k]? = some (some p) → s'.env.commits[k]? = some (some p)
  commit_gt : ∀ (k p : Nat), s.env.commits[k]? = some none → s'.env.commits[k]? = some (some p) →
    ackBound s < p

namespace Progress

theorem refl (s : KafkaClient) : Progress s s :=
  ⟨le_rfl, le_rfl, le_rfl, fun _ _ hp => hp, fun k p h₁ h₂ => by rw [h₁] at h₂; cases h₂⟩

theorem trans {s₁ s₂ s₃ : KafkaClient} (h₁ : Progress s₁ s₂) (h₂ : Progress s₂ s₃) :
    Progress s₁ s₃ where
  ackLevel_le := h₁.ackLevel_le.trans h₂.ackLevel_le
  ackBound_le := h₁.ackBound_le.trans h₂.ackBound_le
  length_le := h₁.length_le.trans h₂.length_le
  committed k p hp := h₂.committed k p (h₁.committed k p hp)
  commit_gt k p hopen hcommit := by
    -- in the middle state the transaction is either still open or already committed
    have hlt : k < s₂.env.commits.length :=
      lt_of_lt_of_le (List.getElem?_eq_some_iff.mp hopen).1 h₁.length_le
    obtain ⟨x, hx⟩ : ∃ x, s₂.env.commits[k]? = some x :=
      ⟨_, List.getElem?_eq_getElem hlt⟩
    cases x with
    | none => exact lt_of_le_of_lt h₁.ackBound_le (h₂.commit_gt k p hx hcommit)
    | some q =>
      have hq := h₂.committed k q hx
      rw [hcommit, Option.some.injEq, Option.some.injEq] at hq
      rw [← hq] at hx
      exact h₁.commit_gt k p hopen hx

/-- A step that leaves the server's side alone. -/
theorem of_env_eq {s s' : KafkaClient} (henv : s'.env = s.env)
    (hlevel : ackLevel s ≤ ackLevel s') (hack : ackBound s ≤ ackBound s') : Progress s s' where
  ackLevel_le := hlevel
  ackBound_le := hack
  length_le := by rw [henv]
  committed k p hp := by rw [henv]; exact hp
  commit_gt k p h₁ h₂ := by
    rw [henv, h₁] at h₂
    cases h₂

/-- A begin: one more transaction, still open. -/
theorem of_begin {s s' : KafkaClient} (hcommits : s'.env.commits = s.env.commits ++ [none])
    (hlevel : ackLevel s ≤ ackLevel s') (hack : ackBound s ≤ ackBound s') : Progress s s' where
  ackLevel_le := hlevel
  ackBound_le := hack
  length_le := by simp [hcommits]
  committed k p hp := by
    rw [hcommits, List.getElem?_append_left (List.getElem?_eq_some_iff.mp hp).1]
    exact hp
  commit_gt k p h₁ h₂ := by
    rw [hcommits, List.getElem?_append_left (List.getElem?_eq_some_iff.mp h₁).1, h₁] at h₂
    cases h₂

/-- A commit of the transaction begun last at `w`, beyond `ackBound s`. -/
theorem of_commit {s s' : KafkaClient} {w : Nat}
    (hcommits : s'.env.commits = s.env.commits.set (s.env.commits.length - 1) (some w))
    (hlast : s.env.commits[s.env.commits.length - 1]? = some none) (hw : ackBound s < w)
    (hlevel : ackLevel s ≤ ackLevel s') (hack : ackBound s ≤ ackBound s') : Progress s s' where
  ackLevel_le := hlevel
  ackBound_le := hack
  length_le := by simp [hcommits]
  committed k p hp := by
    have hne : s.env.commits.length - 1 ≠ k := by
      rintro rfl
      rw [hlast] at hp
      cases hp
    rw [hcommits, List.getElem?_set_ne hne]
    exact hp
  commit_gt k p h₁ h₂ := by
    rw [hcommits] at h₂
    rcases getElem?_set_eq_some h₂ with ⟨-, hp⟩ | ⟨-, h₂'⟩
    · obtain rfl := Option.some.inj hp
      exact hw
    · rw [h₁] at h₂'
      cases h₂'

end Progress

theorem ackBound_streaming {s : KafkaClient} (h : s.env.phase = .streaming) :
    ackBound s = max s.ctx.client.repl.recvdLsn s.ctx.client.repl.startLsn := by
  simp [ackBound, h]

theorem ackBound_snapshot {s : KafkaClient} (h : s.env.phase = .snapshot) : ackBound s = 0 := by
  simp [ackBound, h]

/-- `fsync_lsn` never passes the bound on the commits still to come. -/
theorem Inv.fsync_le_ackBound {s : KafkaClient} (h : Inv s) :
    s.ctx.client.repl.fsyncLsn ≤ ackBound s := by
  rcases h with hp | ho | ⟨hph, t, hst⟩
  · rw [hp.fsync]
    exact Nat.zero_le _
  · rw [ho.fsync]
    exact Nat.zero_le _
  · rw [ackBound_streaming hph]
    exact hst.fsync_le

/-- `fsync_lsn` is below the commit position of every committed transaction that still has a
message with librdkafka. -/
theorem Inv.fsync_lt_of_mem {s : KafkaClient} (h : Inv s) {m : KafkaMessage} {k p : Nat}
    (hm : (m, k) ∈ s.queue) (hp : s.env.commits[k]? = some (some p)) :
    s.ctx.client.repl.fsyncLsn < p := by
  rcases h with hp' | ho | ⟨-, t, hst⟩
  · rw [hp'.queue] at hm
    cases hm
  · -- during the snapshot no transaction has committed
    have hk : k = 0 := (ho.queue _ hm).1
    rw [ho.commits, hk] at hp
    cases hp
  · exact hst.fsync_lt k p (hst.queue _ hm).1 hp

/-- `ackBound` grows when the client does not leave streaming, the positions received do not
shrink and the slot's start stays. -/
theorem ackBound_le_of {s s' : KafkaClient}
    (hphase : s.env.phase = .streaming → s'.env.phase = .streaming)
    (hrecvd : s.ctx.client.repl.recvdLsn ≤ s'.ctx.client.repl.recvdLsn)
    (hstart : s'.ctx.client.repl.startLsn = s.ctx.client.repl.startLsn) :
    ackBound s ≤ ackBound s' := by
  cases hph : s.env.phase with
  | snapshot =>
    rw [ackBound_snapshot hph]
    exact Nat.zero_le _
  | streaming =>
    rw [ackBound_streaming hph, ackBound_streaming (hphase hph), hstart]
    omega

section Run

variable (jsonEncodeMsg : TableMetadata → Option (List UInt8) → Option (List UInt8) →
  Int × Option (List UInt8) × Option (List UInt8))

/-- A row of the snapshot. -/
theorem inv_snapshot_row {s s' : KafkaClient} {walPos : Nat} {ev : FrameEvent}
    {produce : Produce} (ho : SnapshotOpen s) (hexit : s.ctx.errorPolicy = .exit)
    (hrow : ev.isRow = true) (hstep : frameStep jsonEncodeMsg s walPos ev produce = some s') :
    Inv s' ∧ Progress s s' := by
  rcases frameStep_row_exit jsonEncodeMsg hexit hrow hstep with rfl | ⟨m, hm, rfl⟩
  · exact ⟨.inr (.inl ho), Progress.refl _⟩
  · exact ⟨.inr (.inl (ho.row hm)), Progress.of_env_eq rfl le_rfl (ackBound_le_of id le_rfl rfl)⟩

/-- A callback from the snapshot connection: `snapshot_start`, a row, or `snapshot_poll` at the
end. -/
theorem inv_snapshot {s s' : KafkaClient} {walPos : Nat} {ev : FrameEvent} {produce : Produce}
    (hinv : Inv s) (hexit : s.ctx.errorPolicy = .exit)
    (hadm : Admissible s (.snapshot walPos ev produce))
    (hstep : step jsonEncodeMsg s (.snapshot walPos ev produce) = some s') :
    Inv s' ∧ Progress s s' := by
  have hstart := step_startLsn jsonEncodeMsg hstep
  obtain ⟨hphase, hev⟩ := hadm
  have hsnap : SnapshotPending s ∨ SnapshotOpen s := by
    rcases hinv with hp | ho | ⟨hst, -⟩
    · exact .inl hp
    · exact .inr ho
    · rw [hphase] at hst
      cases hst
  have hfs0 : s.ctx.client.repl.fsyncLsn = 0 := by
    rcases hsnap with hp | ho
    · exact hp.fsync
    · exact ho.fsync
  have hack : ackBound s = 0 := ackBound_snapshot hphase
  -- rows and the commit come after `snapshot_start`
  have hopen : s.env.openXid = some 0 → SnapshotOpen s := by
    intro hx
    rcases hsnap with hp | ho
    · rw [hp.openXid] at hx
      cases hx
    · exact ho
  simp only [step] at hstep
  cases ev with
  | beginTxn xid =>
    obtain ⟨hcommits, rfl, -⟩ := hev
    have hp : SnapshotPending s := by
      rcases hsnap with hp | ho
      · exact hp
      · rw [ho.commits] at hcommits
        cases hcommits
    obtain ⟨c, hret, rfl⟩ := frameStep_begin_exit jsonEncodeMsg hexit hstep
    refine ⟨.inr (.inl (hp.begin hret)), Progress.of_begin rfl ?_ ?_⟩
    · exact ackLevel_le_of (by rw [hfs0]; exact Nat.zero_le _) hstart
    · rw [hack]
      exact Nat.zero_le _
  | commitTxn xid =>
    obtain ⟨hx, rfl, rfl, hlt⟩ := hev
    have ho := hopen hx
    obtain ⟨c, hret, rfl⟩ := frameStep_commit_exit jsonEncodeMsg hexit hstep
    obtain ⟨t, hst⟩ := ho.commit (by rw [ho.recvd] at hlt; exact hlt) hret
    refine ⟨.inr (.inr ⟨rfl, t, hst⟩), Progress.of_commit rfl (by rw [ho.commits]; rfl) ?_ ?_ ?_⟩
    · rw [hack]
      omega
    · exact ackLevel_le_of (by rw [hfs0]; exact Nat.zero_le _) hstart
    · rw [hack]
      exact Nat.zero_le _
  | insertRow => exact inv_snapshot_row jsonEncodeMsg (hopen hev.1) hexit rfl hstep
  | updateRow => exact inv_snapshot_row jsonEncodeMsg (hopen hev.1) hexit rfl hstep
  | deleteRow => exact inv_snapshot_row jsonEncodeMsg (hopen hev.1) hexit rfl hstep

/-- A row of a streamed transaction. -/
theorem inv_xlogData_row {s s₁ : KafkaClient} {t walPos : Nat} {ev : FrameEvent}
    {produce : Produce} (hst : StreamInv s t) (hphase : s.env.phase = .streaming)
    (hopen : s.env.openXid ≠ none) (hexit : s.ctx.errorPolicy = .exit) (hrow : ev.isRow = true)
    (hstep : frameStep jsonEncodeMsg s walPos ev produce = some s₁) :
    Inv { s₁ with ctx := s₁.ctx.setRepl (xlogDataReceived s₁.ctx.client.repl walPos) } ∧
      Progress s
        { s₁ with ctx := s₁.ctx.setRepl (xlogDataReceived s₁.ctx.client.repl walPos) } := by
  have hrecvd : s.ctx.client.repl.recvdLsn ≤ max walPos s.ctx.client.repl.recvdLsn :=
    le_max_right _ _
  rcases frameStep_row_exit jsonEncodeMsg hexit hrow hstep with rfl | ⟨m, hm, rfl⟩
  · exact ⟨.inr (.inr ⟨hphase, t, hst.received walPos⟩),
      Progress.of_env_eq rfl le_rfl (ackBound_le_of id hrecvd rfl)⟩
  · exact ⟨.inr (.inr ⟨hphase, t, (hst.row hopen hm).received walPos⟩),
      Progress.of_env_eq rfl le_rfl (ackBound_le_of id hrecvd rfl)⟩

/-- A message of an XLogData frame. -/
theorem inv_xlogData {s s' : KafkaClient} {walPos : Nat} {ev : FrameEvent} {produce : Produce}
    (hinv : Inv s) (hexit : s.ctx.errorPolicy = .exit)
    (hadm : Admissible s (.xlogData walPos ev produce))
    (hstep : step jsonEncodeMsg s (.xlogData walPos ev produce) = some s') :
    Inv s' ∧ Progress s s' := by
  have hstart := step_startLsn jsonEncodeMsg hstep
  obtain ⟨hphase, hev⟩ := hadm
  obtain ⟨t, hst⟩ : ∃ t, StreamInv s t := by
    rcases hinv with hp | ho | ⟨-, hst⟩
    · rw [hp.phase] at hphase
      cases hphase
    · rw [ho.phase] at hphase
      cases hphase
    · exact hst
  obtain ⟨s₁, h₁, rfl⟩ := step_xlogData jsonEncodeMsg hstep
  cases ev with
  | beginTxn xid =>
    obtain ⟨-, hxid⟩ := hev
    obtain ⟨c, hret, rfl⟩ := frameStep_begin_exit jsonEncodeMsg hexit h₁
    obtain ⟨-, -, -, rfl⟩ := onBeginTxn_ret hret
    refine ⟨.inr (.inr ⟨hphase, t, (hst.begin hxid hret).received walPos⟩),
      Progress.of_begin rfl le_rfl (ackBound_le_of (fun _ => hphase) (le_max_right _ _) rfl)⟩
  | commitTxn xid =>
    obtain ⟨hopen, hrecvd, hbeyond⟩ := hev
    obtain ⟨c, hret, rfl⟩ := frameStep_commit_exit jsonEncodeMsg hexit h₁
    obtain ⟨t', hst', hmono⟩ := hst.commit hopen hrecvd hbeyond hret
    obtain ⟨hopenB, hlast⟩ := hst.open_last (by rw [hopen]; exact Option.some_ne_none xid)
    obtain ⟨-, -, rfl⟩ := onCommitTxn_ret hret
    refine ⟨.inr (.inr ⟨rfl, t', hst'⟩),
      Progress.of_commit rfl hlast ?_ (ackLevel_le_of hmono hstart) ?_⟩
    · rw [ackBound_streaming hphase]
      omega
    · refine ackBound_le_of (fun _ => rfl) ?_ ?_
      · show s.ctx.client.repl.recvdLsn ≤ max walPos (maybeCheckpoint _).client.repl.recvdLsn
        rw [maybeCheckpoint_recvdLsn]
        exact le_max_right _ _
      · show (maybeCheckpoint _).client.repl.startLsn = _
        rw [maybeCheckpoint_startLsn]
        rfl
  | insertRow => exact inv_xlogData_row jsonEncodeMsg hst hphase hev hexit rfl h₁
  | updateRow => exact inv_xlogData_row jsonEncodeMsg hst hphase hev hexit rfl h₁
  | deleteRow => exact inv_xlogData_row jsonEncodeMsg hst hphase hev hexit rfl h₁

/-- A primary keepalive message. -/
theorem inv_keepalive {s s' : KafkaClient} {walPos : Nat} (hinv : Inv s)
    (hadm : Admissible s (.keepalive walPos))
    (hstep : step jsonEncodeMsg s (.keepalive walPos) = some s') :
    Inv s' ∧ Progress s s' := by
  have hphase : s.env.phase = .streaming := hadm
  obtain ⟨t, hst⟩ : ∃ t, StreamInv s t := by
    rcases hinv with hp | ho | ⟨-, hst⟩
    · rw [hp.phase] at hphase
      cases hphase
    · rw [ho.phase] at hphase
      cases hphase
    · exact hst
  rw [step_keepalive jsonEncodeMsg hstep]
  obtain ⟨hst', hmono⟩ := hst.keepalive walPos
  exact ⟨.inr (.inr ⟨hphase, t, hst'⟩),
    Progress.of_env_eq rfl hmono (ackBound_le_of id (le_max_right _ _) rfl)⟩

/-- A delivery report. -/
theorem inv_deliver {s s' : KafkaClient} {i : Nat} {err : Int} (hinv : Inv s)
    (hexit : s.ctx.errorPolicy = .exit)
    (hstep : step jsonEncodeMsg s (.deliver i err) = some s') :
    Inv s' ∧ Progress s s' := by
  have hstart := step_startLsn jsonEncodeMsg hstep
  obtain ⟨m, k, hq, -, hs'⟩ := step_deliver_exit jsonEncodeMsg hexit hstep
  have hack : ackBound s ≤ ackBound s' := by
    rw [hs']
    refine ackBound_le_of (fun h => h) ?_ ?_
    · rw [maybeCheckpoint_recvdLsn]
      rfl
    · rw [maybeCheckpoint_startLsn]
      rfl
  subst hs'
  rcases hinv with hp | ho | ⟨hphase, t, hst⟩
  · rw [hp.queue] at hq
    cases hq
  · refine ⟨.inr (.inl (ho.deliver hq)), Progress.of_env_eq rfl ?_ hack⟩
    exact ackLevel_le_of (by rw [ho.fsync]; exact Nat.zero_le _) hstart
  · obtain ⟨t', hst', hmono⟩ := hst.deliver hq
    exact ⟨.inr (.inr ⟨hphase, t', hst'⟩),
      Progress.of_env_eq rfl (ackLevel_le_of hmono hstart) hack⟩

/-- **Every admissible step keeps the invariant and makes progress.** -/
theorem inv_next {s s' : KafkaClient} (hinv : Inv s) (hexit : s.ctx.errorPolicy = .exit)
    (hnext : Next jsonEncodeMsg s s') : Inv s' ∧ Progress s s' := by
  obtain ⟨e, hadm, hstep⟩ := hnext
  cases e with
  | snapshot walPos ev produce => exact inv_snapshot jsonEncodeMsg hinv hexit hadm hstep
  | xlogData walPos ev produce => exact inv_xlogData jsonEncodeMsg hinv hexit hadm hstep
  | keepalive walPos => exact inv_keepalive jsonEncodeMsg hinv hadm hstep
  | deliver i err => exact inv_deliver jsonEncodeMsg hinv hexit hstep

/-- The error policy is the one `main` set up, in every state a run reaches. -/
theorem errorPolicy_run {s s' : KafkaClient}
    (hrun : Relation.ReflTransGen (Next jsonEncodeMsg) s s') :
    s'.ctx.errorPolicy = s.ctx.errorPolicy := by
  induction hrun with
  | refl => rfl
  | tail _ hnext ih =>
    obtain ⟨e, -, hstep⟩ := hnext
    rw [step_errorPolicy jsonEncodeMsg hstep, ih]

/-- **Runs keep the invariant and make progress**, by induction on the run. -/
theorem inv_run {s s' : KafkaClient} (hinv : Inv s) (hexit : s.ctx.errorPolicy = .exit)
    (hrun : Relation.ReflTransGen (Next jsonEncodeMsg) s s') : Inv s' ∧ Progress s s' := by
  induction hrun with
  | refl => exact ⟨hinv, Progress.refl s⟩
  | tail hrun' hnext ih =>
    obtain ⟨hinv', hprog⟩ := ih
    have hexit' := (errorPolicy_run jsonEncodeMsg hrun').trans hexit
    obtain ⟨hinv'', hprog'⟩ := inv_next jsonEncodeMsg hinv' hexit' hnext
    exact ⟨hinv'', hprog.trans hprog'⟩

/-- Every reachable state under the `exit` policy satisfies the invariant. -/
theorem inv_reachable {s : KafkaClient} (hreach : Reachable jsonEncodeMsg s)
    (hexit : s.ctx.errorPolicy = .exit) : Inv s := by
  obtain ⟨s₀, hinit, hrun⟩ := hreach
  have hexit₀ : s₀.ctx.errorPolicy = .exit := (errorPolicy_run jsonEncodeMsg hrun).symm.trans hexit
  exact (inv_run jsonEncodeMsg (inv_initial hinit) hexit₀ hrun).1

/-- **No acknowledged loss.** Under the `exit` policy, take any reachable state `s` of the
Kafka client and any later state `s'`. `fsync_lsn` has not gone down from `s` to `s'` as far as
it exceeds the slot's start (`fsync_lsn` itself can, see `keepalive_after_snapshot_lowers_fsync`);
it is below the commit position of every committed transaction that still has a message with
librdkafka in `s`; and it is below the commit position at which any transaction still open in
`s` commits later. -/
theorem no_acknowledged_loss {s s' : KafkaClient} (hreach : Reachable jsonEncodeMsg s)
    (hexit : s.ctx.errorPolicy = .exit)
    (hrun : Relation.ReflTransGen (Next jsonEncodeMsg) s s') :
    max s.ctx.client.repl.fsyncLsn s.ctx.client.repl.startLsn ≤
        max s'.ctx.client.repl.fsyncLsn s'.ctx.client.repl.startLsn ∧
      (∀ (m : KafkaMessage) (k p : Nat), (m, k) ∈ s.queue → s.env.commits[k]? = some (some p) →
        s.ctx.client.repl.fsyncLsn < p) ∧
      (∀ (k p : Nat), s.env.commits[k]? = some none → s'.env.commits[k]? = some (some p) →
        s.ctx.client.repl.fsyncLsn < p) := by
  have hinv := inv_reachable jsonEncodeMsg hreach hexit
  obtain ⟨-, hprog⟩ := inv_run jsonEncodeMsg hinv hexit hrun
  refine ⟨hprog.ackLevel_le, fun m k p hm hp => hinv.fsync_lt_of_mem hm hp,
    fun k p hopen hc => ?_⟩
  calc s.ctx.client.repl.fsyncLsn ≤ ackBound s := hinv.fsync_le_ackBound
    _ < p := hprog.commit_gt k p hopen hc

end Run

/-! ## A keepalive after the snapshot -/

/-- The client as `main` sets it up to take a snapshot of that table, at `start_lsn` `100`. -/
def snapshotStart : KafkaClient :=
  { ctx := { initProducer ⟨⟨100, 0, 0⟩, true⟩ ⟨[sampleTable], none⟩ with
              outputFormat := .avro, errorPolicy := .exit }
    queue := []
    env := ⟨.snapshot, none, []⟩ }

/-- An empty snapshot: `snapshot_start` and `snapshot_poll` at `start_lsn`. -/
def emptySnapshotRun : List Event :=
  [.snapshot 100 (.beginTxn 0) .accepted, .snapshot 100 (.commitTxn 0) .accepted]

/-- After the empty snapshot, `maybe_checkpoint` has acknowledged `start_lsn`; a keepalive at
`50`, which the walsender sends while it reads the WAL from the slot's restart point, finds the
ring empty and acknowledges `50`. -/
theorem keepalive_after_emptySnapshot :
    ∃ s s', runEvents passThroughEncoder snapshotStart emptySnapshotRun = some s ∧
      runEvents passThroughEncoder s [.keepalive 50] = some s' ∧
      s.ctx.client.repl.fsyncLsn = 100 ∧ s'.ctx.client.repl.fsyncLsn = 50 := by
  have hrun : (runEvents passThroughEncoder snapshotStart emptySnapshotRun).bind (fun s =>
      (runEvents passThroughEncoder s [.keepalive 50]).map fun s' =>
        (s.ctx.client.repl.fsyncLsn, s'.ctx.client.repl.fsyncLsn)) =
      some (100, 50) := by decide
  obtain ⟨s, hs, hrest⟩ := Option.bind_eq_some_iff.mp hrun
  obtain ⟨s', hs', hobs⟩ := Option.map_eq_some_iff.mp hrest
  simp only [Prod.mk.injEq] at hobs
  exact ⟨s, s', hs, hs', hobs⟩

theorem keepalive_after_snapshot_lowers_fsync :
    ∃ s s', Reachable passThroughEncoder s ∧ s.ctx.errorPolicy = .exit ∧
      Relation.ReflTransGen (Next passThroughEncoder) s s' ∧
      s'.ctx.client.repl.fsyncLsn < s.ctx.client.repl.fsyncLsn := by
  obtain ⟨s, s', hs, hs', h100, h50⟩ := keepalive_after_emptySnapshot
  have hpol : s.ctx.errorPolicy = .exit := by
    rw [errorPolicy_run passThroughEncoder (runEvents_reflTransGen passThroughEncoder hs)]
    rfl
  refine ⟨s, s', reachable_of_runEvents passThroughEncoder
    ⟨100, true, ⟨[sampleTable], none⟩, .avro, .exit, rfl⟩ hs, hpol,
    runEvents_reflTransGen passThroughEncoder hs', ?_⟩
  omega

theorem no_acknowledged_loss_after_snapshot :
    ∃ s s', Reachable passThroughEncoder s ∧ s.ctx.errorPolicy = .exit ∧
      Relation.ReflTransGen (Next passThroughEncoder) s s' ∧
      s.ctx.client.repl.fsyncLsn = 100 ∧ s'.ctx.client.repl.fsyncLsn = 50 ∧
      (max s.ctx.client.repl.fsyncLsn s.ctx.client.repl.startLsn ≤
          max s'.ctx.client.repl.fsyncLsn s'.ctx.client.repl.startLsn ∧
        (∀ (m : KafkaMessage) (k p : Nat), (m, k) ∈ s.queue → s.env.commits[k]? = some (some p) →
          s.ctx.client.repl.fsyncLsn < p) ∧
        (∀ (k p : Nat), s.env.commits[k]? = some none → s'.env.commits[k]? = some (some p) →
          s.ctx.client.repl.fsyncLsn < p)) := by
  obtain ⟨s, s', hs, hs', h100, h50⟩ := keepalive_after_emptySnapshot
  have hreach : Reachable passThroughEncoder s := reachable_of_runEvents passThroughEncoder
    ⟨100, true, ⟨[sampleTable], none⟩, .avro, .exit, rfl⟩ hs
  have hpol : s.ctx.errorPolicy = .exit := by
    rw [errorPolicy_run passThroughEncoder (runEvents_reflTransGen passThroughEncoder hs)]
    rfl
  have hrun := runEvents_reflTransGen passThroughEncoder hs'
  exact ⟨s, s', hreach, hpol, hrun, h100, h50, no_acknowledged_loss _ hreach hpol hrun⟩

end BottledWater
