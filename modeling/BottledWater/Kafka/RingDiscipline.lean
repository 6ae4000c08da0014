import BottledWater.Kafka.Acknowledgement

set_option autoImplicit false

/-! # Which transactions `maybe_checkpoint` retires

While the client streams, the ring behaves as a queue of the transactions in flight
(`RingInv`): `xact_list_length` is the number of transactions begun and not yet retired, at
most `MAX_IN_FLIGHT_TRANSACTIONS`, and `maybe_checkpoint` retires them oldest first, each once,
and only after its commit has been seen and every message of it delivered
(`ringInv_maybeCheckpoint`).

During the snapshot it does not. The loop of `maybe_checkpoint` accepts a slot with xid `0`
whether or not its commit has been seen (`xid == 0` stands for the snapshot, whose
`commit_lsn` is set only by `snapshot_poll` at the end), while the code that clears
`taking_snapshot` right after it tests `xid == 0 && commit_lsn > 0`. So as soon as every row
sent so far has been delivered, the snapshot's slot is retired, although more rows and the
commit are still to come; a later delivery then finds the ring empty and walks the tail once
round all the stale slots (`maybeCheckpoint_snapshot`).
-/

namespace BottledWater

open CircularBuffer

section Snapshot

variable (jsonEncodeMsg : TableMetadata → Option (List UInt8) → Option (List UInt8) →
  Int × Option (List UInt8) × Option (List UInt8))

/-- A delivery report that leaves the snapshot with no message in flight retires its slot: the
ring is empty, while the snapshot is still open and its commit still to come. -/
theorem snapshot_retired_of_delivered {s s' : KafkaClient} {i : Nat} {err : Int}
    (ho : SnapshotOpen s) (hexit : s.ctx.errorPolicy = .exit) (hlast : s.queue.length = 1)
    (hstep : step jsonEncodeMsg s (.deliver i err) = some s') :
    s'.env.openXid = some 0 ∧ s'.env.commits = [none] ∧ s'.ctx.xactTail = slotOf 1 ∧
      xactListLength s'.ctx = 0 := by
  obtain ⟨m, k, hq, -, rfl⟩ := step_deliver_exit jsonEncodeMsg hexit hstep
  have hslot : m.envelope.xact = slotOf 0 := (ho.queue (m, k) (List.mem_of_getElem? hq)).2
  rw [hslot]
  set c₁ := s.ctx.setXact (slotOf 0) { s.ctx.xactList (slotOf 0) with
    pendingEvents := (s.ctx.xactList (slotOf 0)).pendingEvents - 1 }
  have hstale : ∀ j, j ≠ slotOf 0 → c₁.xactList j = .zero := by
    intro j hj
    rw [ProducerContext.setXact_xactList_of_ne _ _ hj, ho.stale j hj]
  -- the last message delivered, the snapshot's slot counts none and is retirable
  have hret : (c₁.xactList (slotOf 0)).Retirable := by
    refine ⟨?_, .inr ho.xid⟩
    show (s.ctx.xactList (slotOf 0)).pendingEvents - 1 = 0
    rw [ho.pending, hlast]
    rfl
  obtain ⟨r, -, hR, -⟩ := maybeCheckpoint_snapshot (c := c₁) ho.head ho.tail hstale
  have htail := (hR hret).1
  refine ⟨ho.openXid, ho.commits, htail, ?_⟩
  show count (maybeCheckpoint c₁).xactHead (maybeCheckpoint c₁).xactTail = 0
  rw [htail, maybeCheckpoint_xactHead, (count_eq_zero_iff _ _).mpr]
  show slotOf 1 = succ s.ctx.xactHead
  rw [ho.head, succ_slotOf]

end Snapshot

/-- `snapshot_start`, one exported row, and its delivery report. -/
def earlyRetirementRun : List Event :=
  [.snapshot 100 (.beginTxn 0) .accepted, .snapshot 0 (.insertRow 1 none [7]) .accepted,
    .deliver 0 0]

theorem snapshot_retired_before_commit :
    ∃ s, Reachable passThroughEncoder s ∧ s.env.openXid = some 0 ∧ s.env.commits = [none] ∧
      s.ctx.xactTail = slotOf 1 ∧ xactListLength s.ctx = 0 := by
  have hrun : (runEvents passThroughEncoder snapshotStart earlyRetirementRun).map
      (fun s => (s.env.openXid, s.env.commits, s.ctx.xactTail, xactListLength s.ctx)) =
      some (some 0, [none], slotOf 1, 0) := by decide
  obtain ⟨s, hs, hobs⟩ := Option.map_eq_some_iff.mp hrun
  simp only [Prod.mk.injEq] at hobs
  exact ⟨s, reachable_of_runEvents passThroughEncoder
    ⟨100, true, ⟨[sampleTable], none⟩, .avro, .exit, rfl⟩ hs, hobs⟩

end BottledWater
