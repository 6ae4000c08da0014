import BottledWater.Kafka.Acknowledgement

set_option autoImplicit false

/-! # Pending events under the `log` policy

`send_kafka_msg` counts a row at the head slot (`recvd_events++`, `pending_events++`) before it
looks the table up, encodes the row and hands it to librdkafka, and each of these can return
early with an error (`sendKafkaMsg_lookup_none`). Under `exit` the process ends there. Under
`log`, `handle_error` reports the error as handled and the frame reader goes on, so the slot
keeps one pending event more than librdkafka holds messages for it, and no delivery report
will ever take it back.

`maybe_checkpoint` retires a slot only when its count is `0`. Once such a slot is at the tail
of the ring (`TailBlocked`), every step keeps it there (`tailBlocked_step`), whatever the error
policy: no later transaction is retired and `fsync_lsn` stays where it is. On a run where the
client then begins `MAX_IN_FLIGHT_TRANSACTIONS` more transactions, `on_begin_txn` waits for good.
-/

namespace BottledWater

open CircularBuffer

/-! ## The early returns of `send_kafka_msg` -/

/-- `send_kafka_msg` for a relid the table mapper does not know: it returns `1` without a
message, and the head slot has counted the row. -/
theorem sendKafkaMsg_lookup_none
    (jsonEncodeMsg : TableMetadata → Option (List UInt8) → Option (List UInt8) →
      Int × Option (List UInt8) × Option (List UInt8))
    {c : ProducerContext} {walPos relid : Nat} {keyBin valBin : Option (List UInt8)}
    (produce : Produce) (h : tableMapperLookup c.mapper relid = none) :
    sendKafkaMsg jsonEncodeMsg c walPos relid keyBin valBin produce =
      .ret (c.countHeadEvent, none) 1 := by
  unfold sendKafkaMsg
  simp only [ProducerContext.setXact_mapper, h]
  rfl

/-! ## Messages in flight per slot -/

/-- The messages librdkafka holds whose envelope points at slot `j`. -/
def slotInFlight (queue : List (KafkaMessage × Nat)) (j : Fin xactListLen) : Nat :=
  queue.countP fun m => m.1.envelope.xact == j

@[simp] theorem slotInFlight_nil (j : Fin xactListLen) : slotInFlight [] j = 0 := rfl

theorem slotInFlight_append (queue : List (KafkaMessage × Nat)) (m : KafkaMessage) (k : Nat)
    (j : Fin xactListLen) :
    slotInFlight (queue ++ [(m, k)]) j =
      slotInFlight queue j + if m.envelope.xact = j then 1 else 0 := by
  simp only [slotInFlight, List.countP_append, List.countP_singleton, beq_iff_eq]

theorem slotInFlight_eraseIdx {queue : List (KafkaMessage × Nat)} {i : Nat} {m : KafkaMessage}
    {k : Nat} (hq : queue[i]? = some (m, k)) (j : Fin xactListLen) :
    slotInFlight (queue.eraseIdx i) j + (if m.envelope.xact = j then 1 else 0) =
      slotInFlight queue j := by
  unfold slotInFlight
  rw [← countP_eraseIdx_add _ hq]
  simp only [beq_iff_eq]

/-- How many more events the tail slot counts as pending than librdkafka holds messages for. -/
def tailExcess (c : ProducerContext) (queue : List (KafkaMessage × Nat)) : Int :=
  (c.xactList c.xactTail).pendingEvents - slotInFlight queue c.xactTail

/-! ## How each change of the state moves the excess -/

section Excess

variable {c : ProducerContext} {queue : List (KafkaMessage × Nat)}

theorem tailExcess_countHeadEvent (c : ProducerContext) (queue : List (KafkaMessage × Nat)) :
    tailExcess c.countHeadEvent queue =
      tailExcess c queue + if c.xactTail = c.xactHead then 1 else 0 := by
  unfold tailExcess
  rw [ProducerContext.countHeadEvent_xactTail, (c.countHeadEvent_xactList c.xactTail).2.2]
  omega

/-- A row whose message librdkafka accepted counts at the head and is in flight there. -/
theorem tailExcess_countHeadEvent_append {m : KafkaMessage} (hm : m.envelope.xact = c.xactHead)
    (k : Nat) : tailExcess c.countHeadEvent (queue ++ [(m, k)]) = tailExcess c queue := by
  rw [tailExcess, slotInFlight_append, hm, ProducerContext.countHeadEvent_xactTail,
    (c.countHeadEvent_xactList c.xactTail).2.2]
  unfold tailExcess
  rcases eq_or_ne c.xactTail c.xactHead with ht | ht
  · rw [if_pos ht, if_pos ht.symm]
    push_cast
    omega
  · rw [if_neg ht, if_neg (Ne.symm ht)]
    push_cast
    omega

/-- Writing a slot that keeps the tail's pending count. -/
theorem tailExcess_setXact {i : Fin xactListLen} {x : TransactionInfo}
    (hx : i = c.xactTail → x.pendingEvents = (c.xactList i).pendingEvents) :
    tailExcess (c.setXact i x) queue = tailExcess c queue := by
  unfold tailExcess
  rw [ProducerContext.setXact_xactTail, ProducerContext.setXact_xactList_apply]
  split_ifs with ht
  · rw [hx ht.symm, ht]
  · rfl

/-- A delivery report takes one event off the message's slot and the message off the queue. -/
theorem tailExcess_deliver {i k : Nat} {m : KafkaMessage} (hq : queue[i]? = some (m, k)) :
    tailExcess (c.setXact m.envelope.xact { c.xactList m.envelope.xact with
        pendingEvents := (c.xactList m.envelope.xact).pendingEvents - 1 }) (queue.eraseIdx i) =
      tailExcess c queue := by
  have hcount := slotInFlight_eraseIdx hq c.xactTail
  unfold tailExcess
  rw [ProducerContext.setXact_xactTail, ProducerContext.setXact_xactList_apply]
  rcases eq_or_ne m.envelope.xact c.xactTail with ht | ht
  · -- the report is for the tail slot: one event and one message fewer
    rw [if_pos ht] at hcount
    rw [if_pos ht.symm, ← hcount, ht]
    dsimp only
    push_cast
    omega
  · rw [if_neg ht] at hcount
    rw [if_neg (Ne.symm ht), ← hcount, Nat.add_zero]

end Excess

/-! ## A blocked tail -/

/-- The ring is not empty and its tail slot waits for more delivery reports than can come. -/
structure TailBlocked (c : ProducerContext) (queue : List (KafkaMessage × Nat)) : Prop where
  live : xactListLength c ≠ 0
  excess : 0 < tailExcess c queue

namespace TailBlocked

variable {c : ProducerContext} {queue : List (KafkaMessage × Nat)}

theorem not_retirable (h : TailBlocked c queue) : ¬ (c.xactList c.xactTail).Retirable := by
  rintro ⟨hzero, -⟩
  have hex := h.excess
  rw [tailExcess, hzero] at hex
  omega

/-- `maybe_checkpoint` stops at a blocked tail without changing anything. -/
theorem maybeCheckpoint_eq (h : TailBlocked c queue) : maybeCheckpoint c = c :=
  maybeCheckpoint_of_not_retirable h.not_retirable

theorem setRepl (h : TailBlocked c queue) (r : ReplicationStream) :
    TailBlocked (c.setRepl r) queue :=
  ⟨h.live, h.excess⟩

theorem setXact (h : TailBlocked c queue) {i : Fin xactListLen} {x : TransactionInfo}
    (hx : i = c.xactTail → x.pendingEvents = (c.xactList i).pendingEvents) :
    TailBlocked (c.setXact i x) queue :=
  ⟨h.live, by rw [tailExcess_setXact hx]; exact h.excess⟩

theorem countHeadEvent (h : TailBlocked c queue) : TailBlocked c.countHeadEvent queue := by
  refine ⟨h.live, ?_⟩
  have hex := h.excess
  rw [tailExcess_countHeadEvent]
  split_ifs <;> omega

theorem countHeadEvent_append (h : TailBlocked c queue) {m : KafkaMessage}
    (hm : m.envelope.xact = c.xactHead) (k : Nat) :
    TailBlocked c.countHeadEvent (queue ++ [(m, k)]) :=
  ⟨h.live, by rw [tailExcess_countHeadEvent_append hm]; exact h.excess⟩

theorem deliver (h : TailBlocked c queue) {i k : Nat} {m : KafkaMessage}
    (hq : queue[i]? = some (m, k)) :
    TailBlocked (c.setXact m.envelope.xact { c.xactList m.envelope.xact with
      pendingEvents := (c.xactList m.envelope.xact).pendingEvents - 1 }) (queue.eraseIdx i) :=
  ⟨h.live, by rw [tailExcess_deliver hq]; exact h.excess⟩

/-- `on_begin_txn` on a ring that is not full takes the slot after the head, which is not the
tail since the ring is not empty. -/
theorem begin (h : TailBlocked c queue) (hfull : xactListFull c = false) (x : TransactionInfo) :
    TailBlocked ({ c with xactHead := succ c.xactHead }.setXact (succ c.xactHead) x) queue := by
  have hcount : count c.xactHead c.xactTail + 1 < xactListLen := by
    have hne : xactListLength c ≠ xactListLen - 1 := by simpa [xactListFull] using hfull
    have := count_lt c.xactHead c.xactTail
    rw [xactListLength_eq_count] at hne
    omega
  have hfree : succ c.xactHead ≠ c.xactTail := fun heq =>
    h.live (by rw [xactListLength_eq_count, count_eq_zero_iff, heq])
  have hmoved : TailBlocked { c with xactHead := succ c.xactHead } queue := by
    refine ⟨?_, h.excess⟩
    show count (succ c.xactHead) c.xactTail ≠ 0
    rw [count_succ_head hcount]
    omega
  exact hmoved.setXact fun ht => absurd ht hfree

end TailBlocked

/-! ## Every step keeps a blocked tail -/

section Steps

variable (jsonEncodeMsg : TableMetadata → Option (List UInt8) → Option (List UInt8) →
  Int × Option (List UInt8) × Option (List UInt8))

/-- A frame event keeps a blocked tail where it is, and `fsync_lsn` with it. -/
theorem tailBlocked_frameStep {s s' : KafkaClient} {walPos : Nat} {ev : FrameEvent}
    {produce : Produce} (h : TailBlocked s.ctx s.queue)
    (hstep : frameStep jsonEncodeMsg s walPos ev produce = some s') :
    TailBlocked s'.ctx s'.queue ∧ s'.ctx.xactTail = s.ctx.xactTail ∧
      s'.ctx.client.repl.fsyncLsn = s.ctx.client.repl.fsyncLsn := by
  obtain ⟨c, msg, code, hcb, -, rfl⟩ := frameStep_ret jsonEncodeMsg hstep
  cases hrow : ev.isRow with
  | true =>
    -- a row counts at the head, and its message (if librdkafka took it) is in flight there
    rcases callback_row jsonEncodeMsg hrow hcb with ⟨rfl, rfl, -⟩ | ⟨rfl, hsent, hfailed⟩
    · simpa using h
    · refine ⟨?_, rfl, rfl⟩
      by_cases hcode : code = 0
      · obtain ⟨m, rfl, hm⟩ := hsent hcode
        exact h.countHeadEvent_append hm _
      · rw [hfailed hcode, Option.map_none, Option.toList_none, List.append_nil]
        exact h.countHeadEvent
  | false =>
    cases ev with
    | beginTxn xid =>
      obtain ⟨c₁, h₁, hc⟩ := Outcome.map_eq_ret hcb
      obtain ⟨-, hfull, -, rfl⟩ := onBeginTxn_ret h₁
      obtain ⟨rfl, rfl⟩ := Prod.mk.inj hc
      rw [Option.map_none, Option.toList_none, List.append_nil]
      exact ⟨h.begin hfull _, rfl, rfl⟩
    | commitTxn xid =>
      -- the commit writes the head slot's position only; the tail still stops the loop
      obtain ⟨c₁, h₁, hc⟩ := Outcome.map_eq_ret hcb
      obtain ⟨-, -, rfl⟩ := onCommitTxn_ret h₁
      obtain ⟨rfl, rfl⟩ := Prod.mk.inj hc
      have hrec : TailBlocked (s.ctx.setXact s.ctx.xactHead
          { s.ctx.xactList s.ctx.xactHead with commitLsn := walPos }) s.queue :=
        h.setXact fun _ => rfl
      rw [hrec.maybeCheckpoint_eq, Option.map_none, Option.toList_none, List.append_nil]
      exact ⟨hrec, rfl, rfl⟩
    | _ => cases hrow

/-- **Every step keeps a blocked tail**: it stays at the tail, blocked, and `fsync_lsn` does not
move, whatever the error policy. -/
theorem tailBlocked_step {s s' : KafkaClient} {e : Event} (h : TailBlocked s.ctx s.queue)
    (hstep : step jsonEncodeMsg s e = some s') :
    TailBlocked s'.ctx s'.queue ∧ s'.ctx.xactTail = s.ctx.xactTail ∧
      s'.ctx.client.repl.fsyncLsn = s.ctx.client.repl.fsyncLsn := by
  cases e with
  | snapshot walPos ev produce => exact tailBlocked_frameStep jsonEncodeMsg h hstep
  | xlogData walPos ev produce =>
    obtain ⟨s₁, h₁, rfl⟩ := step_xlogData jsonEncodeMsg hstep
    obtain ⟨hb, htail, hfsync⟩ := tailBlocked_frameStep jsonEncodeMsg h h₁
    exact ⟨hb.setRepl _, htail, hfsync⟩
  | keepalive walPos =>
    -- the ring is not empty, so the keepalive's position is not acknowledged
    have hne : xactListEmpty s.ctx = false := by simpa [xactListEmpty] using h.live
    rw [step_keepalive jsonEncodeMsg hstep]
    simp only [hne, Bool.false_eq_true, if_false]
    exact ⟨h.setRepl _, rfl, rfl⟩
  | deliver i err =>
    obtain ⟨msg, k, hq, -, rfl⟩ := step_deliver jsonEncodeMsg hstep
    have hdel := h.deliver hq
    rw [hdel.maybeCheckpoint_eq]
    exact ⟨hdel, rfl, rfl⟩

/-- **A blocked tail stays blocked on every run**: no transaction is retired from then on, and
`fsync_lsn` stays where it was. -/
theorem tailBlocked_run {s s' : KafkaClient} (h : TailBlocked s.ctx s.queue)
    (hrun : Relation.ReflTransGen (Next jsonEncodeMsg) s s') :
    TailBlocked s'.ctx s'.queue ∧ s'.ctx.xactTail = s.ctx.xactTail ∧
      s'.ctx.client.repl.fsyncLsn = s.ctx.client.repl.fsyncLsn := by
  induction hrun with
  | refl => exact ⟨h, rfl, rfl⟩
  | tail _ hnext ih =>
    obtain ⟨e, -, hstep⟩ := hnext
    obtain ⟨hb, htail, hfsync⟩ := ih
    obtain ⟨hb', htail', hfsync'⟩ := tailBlocked_step jsonEncodeMsg hb hstep
    exact ⟨hb', htail'.trans htail, hfsync'.trans hfsync⟩

end Steps

/-! ## A row that fails under `log` -/

/-- The client as `main` sets it up to stream from `start_lsn` `5` under the `log` policy. -/
def logStart : KafkaClient :=
  { ctx := { initProducer ⟨⟨5, 0, 0⟩, false⟩ ⟨[sampleTable], none⟩ with
              outputFormat := .avro, errorPolicy := .log }
    queue := []
    env := ⟨.streaming, none, []⟩ }

/-- Transaction `7` with one row for relid `2`, which has no table metadata, and its commit. -/
def failedRowRun : List Event :=
  [.xlogData 10 (.beginTxn 7) .accepted, .xlogData 10 (.insertRow 2 none [7]) .accepted,
    .xlogData 20 (.commitTxn 7) .accepted]

theorem failed_row_never_retired :
    ∃ s, Reachable passThroughEncoder s ∧ s.env.commits = [some 20] ∧ s.queue = [] ∧
      s.ctx.xactList s.ctx.xactTail = ⟨7, 1, 1, 20⟩ ∧
      ∀ s', Relation.ReflTransGen (Next passThroughEncoder) s s' →
        s'.ctx.xactTail = s.ctx.xactTail ∧ xactListLength s'.ctx ≠ 0 ∧
          s'.ctx.client.repl.fsyncLsn = 0 := by
  have hrun : (runEvents passThroughEncoder logStart failedRowRun).map
      (fun s => (s.env.commits, s.queue.length, s.ctx.xactList s.ctx.xactTail,
        xactListLength s.ctx, s.ctx.client.repl.fsyncLsn)) =
      some ([some 20], 0, ⟨7, 1, 1, 20⟩, 1, 0) := by decide
  obtain ⟨s, hs, hobs⟩ := Option.map_eq_some_iff.mp hrun
  simp only [Prod.mk.injEq, List.length_eq_zero_iff] at hobs
  obtain ⟨hcommits, hqueue, hslot, hlen, hfsync⟩ := hobs
  -- one pending event and no message in flight: the tail is blocked
  have hblocked : TailBlocked s.ctx s.queue :=
    ⟨by omega, by rw [tailExcess, hslot, hqueue, slotInFlight_nil]; decide⟩
  refine ⟨s, reachable_of_runEvents passThroughEncoder
    ⟨5, false, ⟨[sampleTable], none⟩, .avro, .log, rfl⟩ hs, hcommits, hqueue, hslot, ?_⟩
  intro s' hrun'
  obtain ⟨hb, htail, hfsync'⟩ := tailBlocked_run passThroughEncoder hblocked hrun'
  exact ⟨htail, hb.live, hfsync'.trans hfsync⟩

end BottledWater
