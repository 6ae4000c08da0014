import BottledWater.Kafka.Producer

set_option autoImplicit false

/-! # What the loop of `maybe_checkpoint` does

`maybe_checkpoint` retires transactions from the tail of the ring for as long as the slot at
the tail is retirable, and stops when the ring runs empty. This file states that as one
equation: the loop is `r` applications of `retireTail`, where `r` is the length of the run of
retirable slots that starts at the tail, cut at the number of iterations the loop can make
(`loopBound`). On a ring in use that bound is the number of slots in use, so the loop never
leaves them; on an empty ring it is the whole ring, and the loop walks the stale slots.
-/

namespace BottledWater

open CircularBuffer

/-- What one retirement leaves alone, `r` retirements leave alone. -/
theorem iterate_retireTail_of_forall {α : Type} (f : ProducerContext → α)
    (hf : ∀ c, f (retireTail c) = f c) (c : ProducerContext) (r : Nat) :
    f (retireTail^[r] c) = f c := by
  induction r with
  | zero => rfl
  | succ r ih => rw [Function.iterate_succ_apply', hf, ih]

@[simp] theorem iterate_retireTail_xactHead (c : ProducerContext) (r : Nat) :
    (retireTail^[r] c).xactHead = c.xactHead :=
  iterate_retireTail_of_forall _ retireTail_xactHead c r

@[simp] theorem iterate_retireTail_xactList (c : ProducerContext) (r : Nat) :
    (retireTail^[r] c).xactList = c.xactList :=
  iterate_retireTail_of_forall _ retireTail_xactList c r

@[simp] theorem iterate_retireTail_recvdLsn (c : ProducerContext) (r : Nat) :
    (retireTail^[r] c).client.repl.recvdLsn = c.client.repl.recvdLsn :=
  iterate_retireTail_of_forall (·.client.repl.recvdLsn) retireTail_recvdLsn c r

@[simp] theorem iterate_retireTail_startLsn (c : ProducerContext) (r : Nat) :
    (retireTail^[r] c).client.repl.startLsn = c.client.repl.startLsn :=
  iterate_retireTail_of_forall (·.client.repl.startLsn) retireTail_startLsn c r

@[simp] theorem iterate_retireTail_errorPolicy (c : ProducerContext) (r : Nat) :
    (retireTail^[r] c).errorPolicy = c.errorPolicy :=
  iterate_retireTail_of_forall _ retireTail_errorPolicy c r

@[simp] theorem iterate_retireTail_mapper (c : ProducerContext) (r : Nat) :
    (retireTail^[r] c).mapper = c.mapper :=
  iterate_retireTail_of_forall _ retireTail_mapper c r

@[simp] theorem iterate_retireTail_outputFormat (c : ProducerContext) (r : Nat) :
    (retireTail^[r] c).outputFormat = c.outputFormat :=
  iterate_retireTail_of_forall _ retireTail_outputFormat c r

/-- After `r` retirements the tail is `r` slots further on. -/
@[simp] theorem iterate_retireTail_xactTail (c : ProducerContext) (r : Nat) :
    (retireTail^[r] c).xactTail = offset c.xactTail r := by
  induction r with
  | zero => rw [offset_zero]; rfl
  | succ r ih => rw [Function.iterate_succ_apply', retireTail_xactTail, ih, offset_add_one]

/-- After `r > 0` retirements, `fsync_lsn` is the commit position of the last slot retired. -/
theorem iterate_retireTail_fsyncLsn (c : ProducerContext) {r : Nat} (hr : 0 < r) :
    (retireTail^[r] c).client.repl.fsyncLsn =
      (c.xactList (offset c.xactTail (r - 1))).commitLsn := by
  obtain ⟨r, rfl⟩ : ∃ k, r = k + 1 := ⟨r - 1, by omega⟩
  rw [Function.iterate_succ_apply', retireTail_fsyncLsn, iterate_retireTail_xactList,
    iterate_retireTail_xactTail, Nat.add_sub_cancel]

/-- A retirement that empties the ring was the last one the loop could make. -/
theorem loopBound_eq_one_of_empty {c : ProducerContext}
    (h : xactListEmpty (retireTail c) = true) : loopBound c = 1 := by
  have h0 : count c.xactHead (succ c.xactTail) = 0 := by
    simpa [xactListEmpty, xactListLength_eq_count] using h
  unfold loopBound
  rw [xactListLength_eq_count]
  by_cases hc : count c.xactHead c.xactTail = 0
  · rw [count_succ_tail_of_zero hc] at h0
    exact absurd h0 (by decide)
  · rw [count_succ_tail (Nat.pos_of_ne_zero hc)] at h0
    rw [if_neg hc]
    omega

/-- **The loop of `maybe_checkpoint` retires the run of retirable slots at the tail.** If the
first `r` slots from the tail are retirable and the next one is not (or the loop has used all
its iterations), the loop is `r` retirements. -/
theorem checkpointLoop_eq_iterate {c : ProducerContext} {r fuel : Nat}
    (hfuel : loopBound c ≤ fuel) (hr : r ≤ loopBound c)
    (hret : ∀ j < r, (c.xactList (offset c.xactTail j)).Retirable)
    (hstop : r < loopBound c → ¬ (c.xactList (offset c.xactTail r)).Retirable) :
    checkpointLoop fuel c = retireTail^[r] c := by
  induction r generalizing c fuel with
  | zero =>
    obtain ⟨f, rfl⟩ : ∃ f, fuel = f + 1 := ⟨fuel - 1, by have := loopBound_pos c; omega⟩
    have hnot := hstop (loopBound_pos c)
    rw [offset_zero] at hnot
    simp [checkpointLoop, hnot]
  | succ r ih =>
    obtain ⟨f, rfl⟩ : ∃ f, fuel = f + 1 := ⟨fuel - 1, by omega⟩
    have htail : (c.xactList c.xactTail).Retirable := by
      simpa [offset_zero] using hret 0 (by omega)
    rw [Function.iterate_succ_apply]
    simp only [checkpointLoop, htail, if_true]
    by_cases hempty : xactListEmpty (retireTail c) = true
    · have h1 := loopBound_eq_one_of_empty hempty
      obtain rfl : r = 0 := by omega
      simp [hempty]
    · have hb := loopBound_retireTail (Bool.eq_false_iff.mpr hempty)
      simp only [hempty]
      apply ih (by omega) (by omega)
      · intro j hj
        rw [retireTail_xactList, retireTail_xactTail, offset_succ_left]
        exact hret (j + 1) (by omega)
      · intro hlt
        rw [retireTail_xactList, retireTail_xactTail, offset_succ_left]
        exact hstop (by omega)

/-- **`maybe_checkpoint` retires the run of retirable slots at the tail**: for some `r` within
the loop's bound, the first `r` slots from the tail are retirable, the next one is not unless
the bound is reached, and the result is `r` retirements. -/
theorem maybeCheckpoint_eq_iterate (c : ProducerContext) :
    ∃ r ≤ loopBound c, (∀ j < r, (c.xactList (offset c.xactTail j)).Retirable) ∧
      (r < loopBound c → ¬ (c.xactList (offset c.xactTail r)).Retirable) ∧
      maybeCheckpoint c = retireTail^[r] c := by
  -- `r` is the first offset at which the loop stops: a slot that is not retirable, or the bound
  have hex : ∃ r, r = loopBound c ∨ ¬ (c.xactList (offset c.xactTail r)).Retirable :=
    ⟨_, Or.inl rfl⟩
  have hle : Nat.find hex ≤ loopBound c := Nat.find_min' hex (Or.inl rfl)
  have hret : ∀ j < Nat.find hex, (c.xactList (offset c.xactTail j)).Retirable := by
    intro j hj
    have hnot := Nat.find_min hex hj
    exact Classical.not_not.mp fun h => hnot (Or.inr h)
  have hstop : Nat.find hex < loopBound c →
      ¬ (c.xactList (offset c.xactTail (Nat.find hex))).Retirable := by
    intro hlt
    rcases Nat.find_spec hex with h | h
    · omega
    · exact h
  exact ⟨Nat.find hex, hle, hret, hstop,
    checkpointLoop_eq_iterate (loopBound_le c) hle hret hstop⟩

/-- A tail slot that is not retirable stops the loop before it changes anything. -/
theorem maybeCheckpoint_of_not_retirable {c : ProducerContext}
    (h : ¬ (c.xactList c.xactTail).Retirable) : maybeCheckpoint c = c := by
  obtain ⟨r, -, hret, -, heq⟩ := maybeCheckpoint_eq_iterate c
  cases r with
  | zero => exact heq
  | succ r =>
    have h0 := hret 0 (Nat.succ_pos r)
    rw [offset_zero] at h0
    exact absurd h0 h

@[simp] theorem maybeCheckpoint_xactHead (c : ProducerContext) :
    (maybeCheckpoint c).xactHead = c.xactHead := by
  obtain ⟨r, -, -, -, h⟩ := maybeCheckpoint_eq_iterate c
  rw [h, iterate_retireTail_xactHead]

@[simp] theorem maybeCheckpoint_errorPolicy (c : ProducerContext) :
    (maybeCheckpoint c).errorPolicy = c.errorPolicy := by
  obtain ⟨r, -, -, -, h⟩ := maybeCheckpoint_eq_iterate c
  rw [h, iterate_retireTail_errorPolicy]

@[simp] theorem maybeCheckpoint_recvdLsn (c : ProducerContext) :
    (maybeCheckpoint c).client.repl.recvdLsn = c.client.repl.recvdLsn := by
  obtain ⟨r, -, -, -, h⟩ := maybeCheckpoint_eq_iterate c
  rw [h, iterate_retireTail_recvdLsn]

@[simp] theorem maybeCheckpoint_startLsn (c : ProducerContext) :
    (maybeCheckpoint c).client.repl.startLsn = c.client.repl.startLsn := by
  obtain ⟨r, -, -, -, h⟩ := maybeCheckpoint_eq_iterate c
  rw [h, iterate_retireTail_startLsn]

end BottledWater
