import BottledWater.Kafka.Client
import BottledWater.Kafka.CheckpointLoop

set_option autoImplicit false

/-! # What one step of the client does

For every kind of event, what a step that goes on (`step` returns `some`) has changed. The
invariants of the client are proved from these lemmas, never by unfolding `step` again: each
callback has one lemma that says everything a normal return of it implies, guards included,
and the step lemmas put the callbacks together with `check_handle` and the error policy.

Under the `exit` policy a callback that returns an error ends the process, so a step that goes
on had every callback return `0`; under `log` the error is dropped and the state the callback
left behind stays. Both are read off the same lemmas.
-/

namespace BottledWater

open CircularBuffer

/-! ## Small lemmas about the state -/

namespace ProducerContext

@[simp] theorem setRepl_repl (c : ProducerContext) (r : ReplicationStream) :
    (c.setRepl r).client.repl = r := rfl

@[simp] theorem setRepl_xactList (c : ProducerContext) (r : ReplicationStream) :
    (c.setRepl r).xactList = c.xactList := rfl

@[simp] theorem setRepl_xactHead (c : ProducerContext) (r : ReplicationStream) :
    (c.setRepl r).xactHead = c.xactHead := rfl

@[simp] theorem setRepl_xactTail (c : ProducerContext) (r : ReplicationStream) :
    (c.setRepl r).xactTail = c.xactTail := rfl

@[simp] theorem setRepl_errorPolicy (c : ProducerContext) (r : ReplicationStream) :
    (c.setRepl r).errorPolicy = c.errorPolicy := rfl

/-- The head slot after `send_kafka_msg` has counted one more event received and pending. -/
def countHeadEvent (c : ProducerContext) : ProducerContext :=
  let xact := c.xactList c.xactHead
  c.setXact c.xactHead
    { xact with recvdEvents := xact.recvdEvents + 1, pendingEvents := xact.pendingEvents + 1 }

@[simp] theorem countHeadEvent_errorPolicy (c : ProducerContext) :
    c.countHeadEvent.errorPolicy = c.errorPolicy := rfl

@[simp] theorem countHeadEvent_client (c : ProducerContext) :
    c.countHeadEvent.client = c.client := rfl

@[simp] theorem countHeadEvent_xactHead (c : ProducerContext) :
    c.countHeadEvent.xactHead = c.xactHead := rfl

@[simp] theorem countHeadEvent_xactTail (c : ProducerContext) :
    c.countHeadEvent.xactTail = c.xactTail := rfl

theorem setXact_xactList_apply (c : ProducerContext) (i j : Fin xactListLen)
    (x : TransactionInfo) : (c.setXact i x).xactList j = if j = i then x else c.xactList j := by
  simp only [setXact, Function.update_apply]

/-- Counting an event at the head changes no slot's xid or commit position, and no other
slot's pending count. -/
theorem countHeadEvent_xactList (c : ProducerContext) (i : Fin xactListLen) :
    (c.countHeadEvent.xactList i).xid = (c.xactList i).xid ∧
      (c.countHeadEvent.xactList i).commitLsn = (c.xactList i).commitLsn ∧
      (c.countHeadEvent.xactList i).pendingEvents =
        (c.xactList i).pendingEvents + if i = c.xactHead then 1 else 0 := by
  unfold countHeadEvent
  rw [setXact_xactList_apply]
  by_cases hi : i = c.xactHead
  · subst hi
    simp
  · simp [hi]

theorem countHeadEvent_xactList_of_ne (c : ProducerContext) {i : Fin xactListLen}
    (h : i ≠ c.xactHead) : c.countHeadEvent.xactList i = c.xactList i := by
  unfold countHeadEvent
  rw [setXact_xactList_apply, if_neg h]

end ProducerContext

/-- Whether a frame event is a row: the events whose callback calls `send_kafka_msg`. -/
def FrameEvent.isRow : FrameEvent → Bool
  | .beginTxn _ => false
  | .commitTxn _ => false
  | _ => true

/-- The server's side after a row message: unchanged. -/
theorem Env.after_row (env : Env) (walPos : Nat) {ev : FrameEvent} (hrow : ev.isRow = true) :
    env.after walPos ev = env := by
  cases ev with
  | beginTxn => cases hrow
  | commitTxn => cases hrow
  | _ => rfl

theorem Outcome.map_eq_ret {α β : Type} {f : α → β} {o : Outcome α} {b : β} {code : Int}
    (h : o.map f = .ret b code) : ∃ a, o = .ret a code ∧ f a = b := by
  cases o with
  | ret a code' =>
    simp only [Outcome.map, Outcome.ret.injEq] at h
    exact ⟨a, by rw [h.2], h.1⟩
  | wait => cases h
  | exit => cases h

/-! ## The callbacks -/

/-- A normal return of `on_begin_txn`: the ring was not full, a snapshot begins on a fresh
ring, and the new transaction takes the slot after the head. -/
theorem onBeginTxn_ret {c c' : ProducerContext} {walPos xid : Nat} {code : Int}
    (h : onBeginTxn c walPos xid = .ret c' code) :
    code = 0 ∧ xactListFull c = false ∧ (xid = 0 → c.xactTail.val = 0 ∧ xactListEmpty c = true) ∧
      c' = { c with xactHead := succ c.xactHead }.setXact (succ c.xactHead) ⟨xid, 0, 0, 0⟩ := by
  unfold onBeginTxn at h
  by_cases hsnap : xid = 0 ∧ ¬(c.xactTail.val = 0 ∧ xactListEmpty c = true)
  · rw [if_pos hsnap] at h
    cases h
  · rw [if_neg hsnap] at h
    by_cases hfull : xactListFull c = true
    · simp only [hfull, if_true] at h
      cases h
    · simp only [hfull] at h
      simp only [Bool.false_eq_true, if_false, Outcome.ret.injEq] at h
      refine ⟨h.2.symm, Bool.eq_false_iff.mpr hfull, fun hx => ?_, h.1.symm⟩
      simp only [hx, true_and, Classical.not_not] at hsnap
      exact hsnap

/-- A normal return of `on_commit_txn`: the xid matched the head slot's, whose commit position
is recorded before `maybe_checkpoint` runs. -/
theorem onCommitTxn_ret {c c' : ProducerContext} {walPos xid : Nat} {code : Int}
    (h : onCommitTxn c walPos xid = .ret c' code) :
    code = 0 ∧ xid = (c.xactList c.xactHead).xid ∧
      c' = maybeCheckpoint
        (c.setXact c.xactHead { c.xactList c.xactHead with commitLsn := walPos }) := by
  unfold onCommitTxn at h
  by_cases hx : xid = (c.xactList c.xactHead).xid
  · simp only [hx, ne_eq, not_true_eq_false, if_false, Outcome.ret.injEq] at h
    exact ⟨h.2.symm, hx, h.1.symm⟩
  · simp only [ne_eq, hx, not_false_eq_true, if_true] at h
    cases h

section Callbacks

variable (jsonEncodeMsg : TableMetadata → Option (List UInt8) → Option (List UInt8) →
  Int × Option (List UInt8) × Option (List UInt8))

/-- A return of `send_kafka_msg`, with or without an error: the head slot has counted the
event in every case, and a message went to librdkafka exactly when the result is `0`. -/
theorem sendKafkaMsg_ret {c c' : ProducerContext} {walPos relid : Nat}
    {keyBin valBin : Option (List UInt8)} {produce : Produce} {msg : Option KafkaMessage}
    {code : Int}
    (h : sendKafkaMsg jsonEncodeMsg c walPos relid keyBin valBin produce = .ret (c', msg) code) :
    c' = c.countHeadEvent ∧ (code = 0 → ∃ m, msg = some m ∧ m.envelope.xact = c.xactHead) ∧
      (code ≠ 0 → msg = none) := by
  unfold sendKafkaMsg at h
  simp only [ProducerContext.setXact_mapper, ProducerContext.setXact_outputFormat,
    ProducerContext.setXact_xactHead] at h
  split at h
  · -- no table metadata for the relid
    simp only [Outcome.ret.injEq, Prod.mk.injEq] at h
    obtain ⟨⟨rfl, rfl⟩, rfl⟩ := h
    exact ⟨rfl, by simp, fun _ => rfl⟩
  · split at h
    · -- an undefined output format is fatal
      cases h
    · rename_i err key val _
      by_cases herr : err = 0
      · cases produce with
        | accepted =>
          simp only [herr, ne_eq, not_true_eq_false, if_false, Outcome.ret.injEq,
            Prod.mk.injEq] at h
          obtain ⟨⟨rfl, rfl⟩, rfl⟩ := h
          exact ⟨rfl, fun _ => ⟨_, rfl, rfl⟩, fun h0 => absurd rfl h0⟩
        | failed =>
          simp only [herr, ne_eq, not_true_eq_false, if_false, Outcome.ret.injEq,
            Prod.mk.injEq] at h
          obtain ⟨⟨rfl, rfl⟩, rfl⟩ := h
          exact ⟨rfl, by simp, fun _ => rfl⟩
      · -- the encoder failed
        simp only [ne_eq, herr, not_false_eq_true, if_true, Outcome.ret.injEq,
          Prod.mk.injEq] at h
        obtain ⟨⟨rfl, rfl⟩, rfl⟩ := h
        exact ⟨rfl, fun h0 => absurd h0 herr, fun _ => rfl⟩

/-- A return of a row callback: either a delete without a key, which changes nothing, or a
call of `send_kafka_msg`. -/
theorem callback_row {c c' : ProducerContext} {walPos : Nat} {produce : Produce}
    {ev : FrameEvent} {msg : Option KafkaMessage} {code : Int} (hrow : ev.isRow = true)
    (h : callback jsonEncodeMsg c walPos produce ev = .ret (c', msg) code) :
    (c' = c ∧ msg = none ∧ code = 0) ∨
      (c' = c.countHeadEvent ∧ (code = 0 → ∃ m, msg = some m ∧ m.envelope.xact = c.xactHead) ∧
        (code ≠ 0 → msg = none)) := by
  cases ev with
  | beginTxn => cases hrow
  | commitTxn => cases hrow
  | insertRow => exact .inr (sendKafkaMsg_ret jsonEncodeMsg h)
  | updateRow => exact .inr (sendKafkaMsg_ret jsonEncodeMsg h)
  | deleteRow relid keyBin oldBin =>
    cases keyBin with
    | some key => exact .inr (sendKafkaMsg_ret jsonEncodeMsg h)
    | none =>
      simp only [callback, onDeleteRow, Outcome.ret.injEq, Prod.mk.injEq] at h
      obtain ⟨⟨rfl, rfl⟩, rfl⟩ := h
      exact .inl ⟨rfl, rfl, rfl⟩

/-- What a callback does to the producer context: nothing (a delete without a key), count an
event at the head (any other row), take the slot after the head (`on_begin_txn`), or record a
commit in a slot and run `maybe_checkpoint` (`on_commit_txn`). -/
theorem callback_ctx {c c' : ProducerContext} {walPos : Nat} {produce : Produce}
    {ev : FrameEvent} {msg : Option KafkaMessage} {code : Int}
    (h : callback jsonEncodeMsg c walPos produce ev = .ret (c', msg) code) :
    c' = c ∨ c' = c.countHeadEvent ∨
      (∃ x, c' = { c with xactHead := succ c.xactHead }.setXact (succ c.xactHead) x) ∨
      ∃ i x, c' = maybeCheckpoint (c.setXact i x) := by
  cases hev : ev.isRow with
  | true =>
    rcases callback_row jsonEncodeMsg hev h with ⟨rfl, -⟩ | ⟨rfl, -⟩
    · exact .inl rfl
    · exact .inr (.inl rfl)
  | false =>
    cases ev with
    | beginTxn xid =>
      obtain ⟨c₁, h₁, hc⟩ := Outcome.map_eq_ret h
      obtain ⟨-, -, -, rfl⟩ := onBeginTxn_ret h₁
      cases hc
      exact .inr (.inr (.inl ⟨_, rfl⟩))
    | commitTxn xid =>
      obtain ⟨c₁, h₁, hc⟩ := Outcome.map_eq_ret h
      obtain ⟨-, -, rfl⟩ := onCommitTxn_ret h₁
      cases hc
      exact .inr (.inr (.inr ⟨_, _, rfl⟩))
    | _ => cases hev

/-- No callback changes the error policy. -/
theorem callback_errorPolicy {c c' : ProducerContext} {walPos : Nat} {produce : Produce}
    {ev : FrameEvent} {msg : Option KafkaMessage} {code : Int}
    (h : callback jsonEncodeMsg c walPos produce ev = .ret (c', msg) code) :
    c'.errorPolicy = c.errorPolicy := by
  rcases callback_ctx jsonEncodeMsg h with rfl | rfl | ⟨x, rfl⟩ | ⟨i, x, rfl⟩
  · rfl
  · rfl
  · rfl
  · rw [maybeCheckpoint_errorPolicy]
    rfl

/-- No callback moves the slot's start. -/
theorem callback_startLsn {c c' : ProducerContext} {walPos : Nat} {produce : Produce}
    {ev : FrameEvent} {msg : Option KafkaMessage} {code : Int}
    (h : callback jsonEncodeMsg c walPos produce ev = .ret (c', msg) code) :
    c'.client.repl.startLsn = c.client.repl.startLsn := by
  rcases callback_ctx jsonEncodeMsg h with rfl | rfl | ⟨x, rfl⟩ | ⟨i, x, rfl⟩
  · rfl
  · rfl
  · rfl
  · rw [maybeCheckpoint_startLsn]
    rfl

end Callbacks

/-! ## Errors -/

/-- Under the `exit` policy `check_handle` goes on only after a callback that returned `0`. -/
theorem checkHandle_exit {c c' : ProducerContext} {code : Int} (hexit : c.errorPolicy = .exit)
    (h : checkHandle c code = some c') : code = 0 ∧ c' = c := by
  unfold checkHandle at h
  by_cases h0 : code = 0
  · simp only [h0, if_true, Option.some.injEq] at h
    exact ⟨h0, h.symm⟩
  · simp [h0, onClientError, handleError, hexit] at h

/-- Under the `log` policy `check_handle` goes on after every callback, with the state the
callback left. -/
theorem checkHandle_log {c : ProducerContext} (code : Int) (hlog : c.errorPolicy = .log) :
    checkHandle c code = some c := by
  unfold checkHandle
  by_cases h0 : code = 0
  · simp [h0]
  · simp [h0, onClientError, handleError, hlog]

theorem checkHandle_eq_some {c c' : ProducerContext} {code : Int}
    (h : checkHandle c code = some c') : c' = c := by
  unfold checkHandle at h
  split at h
  · exact (Option.some.inj h).symm
  · split at h
    · exact (Option.some.inj h).symm
    · cases h

/-! ## Steps -/

section Steps

variable (jsonEncodeMsg : TableMetadata → Option (List UInt8) → Option (List UInt8) →
  Int × Option (List UInt8) × Option (List UInt8))

/-- A frame event that goes on: its callback returned, `check_handle` went on with the state
the callback left, the message librdkafka accepted (if any) joins the queue as one of the
transaction begun last, and the server's side moves on. -/
theorem frameStep_ret {s s' : KafkaClient} {walPos : Nat} {ev : FrameEvent} {produce : Produce}
    (h : frameStep jsonEncodeMsg s walPos ev produce = some s') :
    ∃ c msg code, callback jsonEncodeMsg s.ctx walPos produce ev = .ret (c, msg) code ∧
      checkHandle c code = some c ∧
      s' = { ctx := c, queue := s.queue ++ (msg.map (·, s.env.commits.length - 1)).toList,
             env := s.env.after walPos ev } := by
  unfold frameStep at h
  split at h
  · rename_i c msg code hcb
    obtain ⟨c', hc', rfl⟩ := Option.map_eq_some_iff.mp h
    obtain rfl := checkHandle_eq_some hc'
    exact ⟨c', msg, code, hcb, hc', rfl⟩
  · cases h

/-- A frame event under the `exit` policy: as `frameStep_ret`, and the callback returned `0`. -/
theorem frameStep_exit {s s' : KafkaClient} {walPos : Nat} {ev : FrameEvent} {produce : Produce}
    (hexit : s.ctx.errorPolicy = .exit)
    (h : frameStep jsonEncodeMsg s walPos ev produce = some s') :
    ∃ c msg, callback jsonEncodeMsg s.ctx walPos produce ev = .ret (c, msg) 0 ∧
      s' = { ctx := c, queue := s.queue ++ (msg.map (·, s.env.commits.length - 1)).toList,
             env := s.env.after walPos ev } := by
  obtain ⟨c, msg, code, hcb, hc, rfl⟩ := frameStep_ret jsonEncodeMsg h
  have hpol : c.errorPolicy = .exit := by rw [callback_errorPolicy jsonEncodeMsg hcb, hexit]
  obtain ⟨rfl, -⟩ := checkHandle_exit hpol hc
  exact ⟨c, msg, hcb, rfl⟩

/-- A row under the `exit` policy: a delete without a key changes nothing; any other row was
counted at the head and its message joined librdkafka's queue as one of the transaction begun
last. -/
theorem frameStep_row_exit {s s' : KafkaClient} {walPos : Nat} {ev : FrameEvent}
    {produce : Produce} (hexit : s.ctx.errorPolicy = .exit) (hrow : ev.isRow = true)
    (h : frameStep jsonEncodeMsg s walPos ev produce = some s') :
    s' = s ∨ ∃ m : KafkaMessage, m.envelope.xact = s.ctx.xactHead ∧
      s' = { ctx := s.ctx.countHeadEvent, queue := s.queue ++ [(m, s.env.commits.length - 1)],
             env := s.env } := by
  obtain ⟨c, msg, hcb, rfl⟩ := frameStep_exit jsonEncodeMsg hexit h
  rw [Env.after_row _ _ hrow]
  rcases callback_row jsonEncodeMsg hrow hcb with ⟨rfl, rfl, -⟩ | ⟨rfl, hmsg, -⟩
  · exact .inl (by simp)
  · obtain ⟨m, rfl, hm⟩ := hmsg rfl
    exact .inr ⟨m, hm, by simp⟩

/-- A begin under the `exit` policy: `on_begin_txn` returned normally. -/
theorem frameStep_begin_exit {s s' : KafkaClient} {walPos xid : Nat} {produce : Produce}
    (hexit : s.ctx.errorPolicy = .exit)
    (h : frameStep jsonEncodeMsg s walPos (.beginTxn xid) produce = some s') :
    ∃ c, onBeginTxn s.ctx walPos xid = .ret c 0 ∧
      s' = { ctx := c, queue := s.queue, env := s.env.after walPos (.beginTxn xid) } := by
  obtain ⟨c, msg, hcb, rfl⟩ := frameStep_exit jsonEncodeMsg hexit h
  obtain ⟨c₁, hc, hcm⟩ := Outcome.map_eq_ret hcb
  obtain ⟨rfl, rfl⟩ := Prod.mk.inj hcm
  exact ⟨c₁, hc, by simp⟩

/-- A commit under the `exit` policy: `on_commit_txn` returned normally. -/
theorem frameStep_commit_exit {s s' : KafkaClient} {walPos xid : Nat} {produce : Produce}
    (hexit : s.ctx.errorPolicy = .exit)
    (h : frameStep jsonEncodeMsg s walPos (.commitTxn xid) produce = some s') :
    ∃ c, onCommitTxn s.ctx walPos xid = .ret c 0 ∧
      s' = { ctx := c, queue := s.queue, env := s.env.after walPos (.commitTxn xid) } := by
  obtain ⟨c, msg, hcb, rfl⟩ := frameStep_exit jsonEncodeMsg hexit h
  obtain ⟨c₁, hc, hcm⟩ := Outcome.map_eq_ret hcb
  obtain ⟨rfl, rfl⟩ := Prod.mk.inj hcm
  exact ⟨c₁, hc, by simp⟩

/-- An XLogData message: its frame event, then the position counts as received. -/
theorem step_xlogData {s s' : KafkaClient} {walPos : Nat} {ev : FrameEvent} {produce : Produce}
    (h : step jsonEncodeMsg s (.xlogData walPos ev produce) = some s') :
    ∃ s₁, frameStep jsonEncodeMsg s walPos ev produce = some s₁ ∧
      s' = { s₁ with ctx := s₁.ctx.setRepl (xlogDataReceived s₁.ctx.client.repl walPos) } := by
  obtain ⟨s₁, h₁, rfl⟩ := Option.map_eq_some_iff.mp h
  exact ⟨s₁, h₁, rfl⟩

/-- A keepalive: the position counts as received, and is acknowledged as flushed when no
transaction is in the ring. -/
theorem step_keepalive {s s' : KafkaClient} {walPos : Nat}
    (h : step jsonEncodeMsg s (.keepalive walPos) = some s') :
    s' = { s with
      ctx := s.ctx.setRepl
        { s.ctx.client.repl with
          recvdLsn := max walPos s.ctx.client.repl.recvdLsn
          fsyncLsn := if xactListEmpty s.ctx then max walPos s.ctx.client.repl.recvdLsn
            else s.ctx.client.repl.fsyncLsn } } := by
  by_cases he : xactListEmpty s.ctx = true
  · have hmax : max walPos (max walPos s.ctx.client.repl.recvdLsn) =
        max walPos s.ctx.client.repl.recvdLsn := by omega
    simp only [step, parseKeepaliveMessage, onKeepalive, he, if_true, frameReaderSyncPending,
      show (0 : Int) ≠ 16 by decide, if_false, ne_eq, not_true_eq_false, hmax,
      Option.some.injEq] at h
    simp only [he, if_true]
    exact h.symm
  · simp only [step, parseKeepaliveMessage, onKeepalive, he, Bool.false_eq_true, if_false,
      if_true, Option.some.injEq] at h
    simp only [he, Bool.false_eq_true, if_false]
    exact h.symm

/-- A delivery report: it reported success, or its error was handled under the `log` policy;
either way the message's slot counts one event less before `maybe_checkpoint` runs. -/
theorem step_deliver {s s' : KafkaClient} {i : Nat} {err : Int}
    (h : step jsonEncodeMsg s (.deliver i err) = some s') :
    ∃ msg k, s.queue[i]? = some (msg, k) ∧ (err ≠ 0 → s.ctx.errorPolicy = .log) ∧
      s' = { ctx := maybeCheckpoint (s.ctx.setXact msg.envelope.xact
               { s.ctx.xactList msg.envelope.xact with
                 pendingEvents := (s.ctx.xactList msg.envelope.xact).pendingEvents - 1 })
             queue := s.queue.eraseIdx i
             env := s.env } := by
  simp only [step] at h
  split at h
  · cases h
  · rename_i msg k hq
    by_cases herr : err = 0
    · simp only [onDeliverMsg, herr, ne_eq, not_true_eq_false, if_false, if_true,
        Option.some.injEq] at h
      exact ⟨msg, k, hq, fun h0 => absurd herr h0, h.symm⟩
    · -- only the `log` policy goes on after a failed delivery, and it counts it as handled
      cases hpol : s.ctx.errorPolicy with
      | log =>
        simp only [onDeliverMsg, ne_eq, herr, not_false_eq_true, if_true, handleError, hpol,
          Option.some.injEq] at h
        exact ⟨msg, k, hq, fun _ => rfl, h.symm⟩
      | exit => simp [onDeliverMsg, herr, handleError, hpol] at h
      | undefined => simp [onDeliverMsg, herr, handleError, hpol] at h

/-- A delivery report under the `exit` policy: as `step_deliver`, and it reported success. -/
theorem step_deliver_exit {s s' : KafkaClient} {i : Nat} {err : Int}
    (hexit : s.ctx.errorPolicy = .exit) (h : step jsonEncodeMsg s (.deliver i err) = some s') :
    ∃ msg k, s.queue[i]? = some (msg, k) ∧ err = 0 ∧
      s' = { ctx := maybeCheckpoint (s.ctx.setXact msg.envelope.xact
               { s.ctx.xactList msg.envelope.xact with
                 pendingEvents := (s.ctx.xactList msg.envelope.xact).pendingEvents - 1 })
             queue := s.queue.eraseIdx i
             env := s.env } := by
  obtain ⟨msg, k, hq, hlog, rfl⟩ := step_deliver jsonEncodeMsg h
  refine ⟨msg, k, hq, Classical.byContradiction fun herr => ?_, rfl⟩
  have hpol := hlog herr
  rw [hexit] at hpol
  cases hpol

/-- No step changes the error policy. -/
theorem step_errorPolicy {s s' : KafkaClient} {e : Event}
    (h : step jsonEncodeMsg s e = some s') : s'.ctx.errorPolicy = s.ctx.errorPolicy := by
  have hframe : ∀ {s₁ : KafkaClient} {walPos : Nat} {ev : FrameEvent} {produce : Produce},
      frameStep jsonEncodeMsg s walPos ev produce = some s₁ →
        s₁.ctx.errorPolicy = s.ctx.errorPolicy := by
    intro s₁ walPos ev produce h₁
    obtain ⟨c, msg, code, hcb, -, rfl⟩ := frameStep_ret jsonEncodeMsg h₁
    exact callback_errorPolicy jsonEncodeMsg hcb
  cases e with
  | snapshot walPos ev produce => exact hframe h
  | xlogData walPos ev produce =>
    obtain ⟨s₁, h₁, rfl⟩ := step_xlogData jsonEncodeMsg h
    rw [← hframe h₁]
    rfl
  | keepalive walPos =>
    rw [step_keepalive jsonEncodeMsg h]
    rfl
  | deliver i err =>
    obtain ⟨msg, k, -, -, rfl⟩ := step_deliver jsonEncodeMsg h
    rw [maybeCheckpoint_errorPolicy]
    rfl

/-- No step moves the slot's start. -/
theorem step_startLsn {s s' : KafkaClient} {e : Event}
    (h : step jsonEncodeMsg s e = some s') :
    s'.ctx.client.repl.startLsn = s.ctx.client.repl.startLsn := by
  have hframe : ∀ {s₁ : KafkaClient} {walPos : Nat} {ev : FrameEvent} {produce : Produce},
      frameStep jsonEncodeMsg s walPos ev produce = some s₁ →
        s₁.ctx.client.repl.startLsn = s.ctx.client.repl.startLsn := by
    intro s₁ walPos ev produce h₁
    obtain ⟨c, msg, code, hcb, -, rfl⟩ := frameStep_ret jsonEncodeMsg h₁
    exact callback_startLsn jsonEncodeMsg hcb
  cases e with
  | snapshot walPos ev produce => exact hframe h
  | xlogData walPos ev produce =>
    obtain ⟨s₁, h₁, rfl⟩ := step_xlogData jsonEncodeMsg h
    rw [← hframe h₁]
    rfl
  | keepalive walPos =>
    rw [step_keepalive jsonEncodeMsg h]
    rfl
  | deliver i err =>
    obtain ⟨msg, k, -, -, rfl⟩ := step_deliver jsonEncodeMsg h
    rw [maybeCheckpoint_startLsn]
    rfl

end Steps

end BottledWater
