import BottledWater.Lib.CircularBuffer
import BottledWater.Kafka.TableMapper
import BottledWater.Client.Replication

set_option autoImplicit false

/-! # The Kafka producer's transaction ring (`kafka/bottledwater.c`)

The producer keeps one `transaction_info` per Postgres transaction in flight, in a circular
buffer `xact_list` of `XACT_LIST_LEN` slots: `xact_head` is the transaction being received
from Postgres, `xact_tail` the oldest one not yet acknowledged by Kafka. Every row of a
transaction is sent to Kafka by `send_kafka_msg`, which counts it as pending; every delivery
report (`on_deliver_msg`) counts one message as delivered. `maybe_checkpoint` retires
transactions from the tail once their commit has been seen and nothing is pending, and sets
the replication stream's `fsync_lsn` to the commit position of the last one retired.

The callbacks are modelled as functions on `ProducerContext` returning an `Outcome`: they
return to the frame reader with a result code, they keep waiting in `backpressure` (the loop
of `on_begin_txn` while the ring is full, which only delivery reports can end), or the process
exits (`fatal_error`, or `handle_error` under the `exit` policy). What librdkafka does with a
message (accept it into its queue, or fail) is an input; what the JSON encoder (`json.c`,
built on the Avro C library) makes of a row is a parameter.
-/

namespace BottledWater

open CircularBuffer

/-- `MAX_IN_FLIGHT_TRANSACTIONS`. -/
def maxInFlightTransactions : Nat := 1000

/-- `XACT_LIST_LEN`: one slot more than the transactions in flight, so that the circular
buffer can tell empty from full. -/
def xactListLen : Nat := maxInFlightTransactions + 1

/-- `transaction_info`. -/
structure TransactionInfo where
  xid : Nat
  recvdEvents : Int
  pendingEvents : Int
  commitLsn : Nat
  deriving DecidableEq, Repr

/-- A slot as `memset` leaves it. -/
def TransactionInfo.zero : TransactionInfo := ⟨0, 0, 0, 0⟩

/-- `format_t`. -/
inductive OutputFormat
  | undefined
  | avro
  | json
  deriving DecidableEq, Repr

/-- `error_policy_t`. -/
inductive ErrorPolicy
  | undefined
  | log
  | exit
  deriving DecidableEq, Repr

/-- `msg_envelope`: what the producer attaches to every Kafka message, to find the
transaction again when the delivery report comes back. `xact` points into `xact_list`. -/
structure MsgEnvelope where
  walPos : Nat
  relid : Nat
  xact : Fin xactListLen
  deriving DecidableEq, Repr

/-- A message given to `rd_kafka_produce`: its topic, key and value, and the envelope passed
as the pointer that comes back in the delivery report. -/
structure KafkaMessage where
  topic : Option (List UInt8)
  key : Option (List UInt8)
  payload : Option (List UInt8)
  envelope : MsgEnvelope
  deriving Repr

/-- The fields of `producer_context` that the callbacks read and write. -/
structure ProducerContext where
  client : ClientContext
  xactList : Fin xactListLen → TransactionInfo
  xactHead : Fin xactListLen
  xactTail : Fin xactListLen
  mapper : TableMapper
  outputFormat : OutputFormat
  errorPolicy : ErrorPolicy

/-- How a callback comes back to its caller. -/
inductive Outcome (α : Type) where
  /-- It returns with the new state and its result code. -/
  | ret (state : α) (code : Int)
  /-- It waits in `backpressure` for delivery reports to free a slot. -/
  | wait
  /-- The process exits. -/
  | exit

namespace ProducerContext

/-- Write slot `i` of `xact_list`. -/
def setXact (c : ProducerContext) (i : Fin xactListLen) (x : TransactionInfo) :
    ProducerContext :=
  { c with xactList := Function.update c.xactList i x }

/-- Write the replication stream's `fsync_lsn`. -/
def setFsyncLsn (c : ProducerContext) (lsn : Nat) : ProducerContext :=
  { c with client := { c.client with repl := { c.client.repl with fsyncLsn := lsn } } }

@[simp] theorem setXact_xactList_self (c : ProducerContext) (i : Fin xactListLen)
    (x : TransactionInfo) : (c.setXact i x).xactList i = x := by
  simp [setXact]

theorem setXact_xactList_of_ne (c : ProducerContext) {i j : Fin xactListLen}
    (x : TransactionInfo) (h : j ≠ i) : (c.setXact i x).xactList j = c.xactList j := by
  simp [setXact, Function.update_of_ne h]

@[simp] theorem setXact_xactHead (c : ProducerContext) (i : Fin xactListLen)
    (x : TransactionInfo) : (c.setXact i x).xactHead = c.xactHead := rfl

@[simp] theorem setXact_xactTail (c : ProducerContext) (i : Fin xactListLen)
    (x : TransactionInfo) : (c.setXact i x).xactTail = c.xactTail := rfl

@[simp] theorem setXact_client (c : ProducerContext) (i : Fin xactListLen)
    (x : TransactionInfo) : (c.setXact i x).client = c.client := rfl

@[simp] theorem setXact_errorPolicy (c : ProducerContext) (i : Fin xactListLen)
    (x : TransactionInfo) : (c.setXact i x).errorPolicy = c.errorPolicy := rfl

@[simp] theorem setXact_mapper (c : ProducerContext) (i : Fin xactListLen)
    (x : TransactionInfo) : (c.setXact i x).mapper = c.mapper := rfl

@[simp] theorem setXact_outputFormat (c : ProducerContext) (i : Fin xactListLen)
    (x : TransactionInfo) : (c.setXact i x).outputFormat = c.outputFormat := rfl

@[simp] theorem setFsyncLsn_fsyncLsn (c : ProducerContext) (lsn : Nat) :
    (c.setFsyncLsn lsn).client.repl.fsyncLsn = lsn := rfl

end ProducerContext

/-! ## The ring -/

/-- `xact_list_length`. -/
def xactListLength (c : ProducerContext) : Nat :=
  (xactListLen + c.xactHead.val + 1 - c.xactTail.val) % xactListLen

/-- `xact_list_full`. -/
def xactListFull (c : ProducerContext) : Bool :=
  xactListLength c == xactListLen - 1

/-- `xact_list_empty`. -/
def xactListEmpty (c : ProducerContext) : Bool :=
  xactListLength c == 0

theorem xactListLength_eq_count (c : ProducerContext) :
    xactListLength c = count c.xactHead c.xactTail := rfl

/-- `init_producer`: the ring starts out empty, with the head one slot behind the tail and
every slot zeroed by `memset`; the output format and the error policy are the defaults,
which `parse_options` may change. -/
def initProducer (client : ClientContext) (mapper : TableMapper) : ProducerContext :=
  { client
    xactList := fun _ => TransactionInfo.zero
    xactHead := ⟨xactListLen - 1, by decide⟩
    xactTail := ⟨0, by decide⟩
    mapper
    outputFormat := .avro
    errorPolicy := .exit }

/-! ## Errors -/

/-- `handle_error`: under the `log` policy the error is logged and reported as handled
(`0`); under `exit`, and for an undefined policy, the process exits. -/
def handleError (c : ProducerContext) (_err : Int) : Option Int :=
  match c.errorPolicy with
  | .log => some 0
  | .exit => none
  | .undefined => none

/-! ## Checkpointing -/

/-- One retirement in `maybe_checkpoint`: the stream's `fsync_lsn` becomes the commit
position of the transaction in the tail slot, the snapshot flag is cleared when that is the
completed snapshot, and the tail advances. -/
def retireTail (c : ProducerContext) : ProducerContext :=
  let xact := c.xactList c.xactTail
  let c := c.setFsyncLsn xact.commitLsn
  let c := if xact.xid = 0 ∧ 0 < xact.commitLsn then
      { c with client := { c.client with takingSnapshot := false } }
    else c
  { c with xactTail := succ c.xactTail }

/-- Whether the loop of `maybe_checkpoint` retires a transaction: nothing pending, and either
its commit has been seen or it is the snapshot (`xid == 0`). -/
def TransactionInfo.Retirable (x : TransactionInfo) : Prop :=
  x.pendingEvents = 0 ∧ (0 < x.commitLsn ∨ x.xid = 0)

instance : DecidablePred TransactionInfo.Retirable := fun x =>
  inferInstanceAs (Decidable (x.pendingEvents = 0 ∧ (0 < x.commitLsn ∨ x.xid = 0)))

/-- The `while` loop of `maybe_checkpoint`, one iteration per unit of fuel. It tests the tail
slot first and checks for an empty ring only after retiring it. -/
def checkpointLoop : Nat → ProducerContext → ProducerContext
  | 0, c => c
  | fuel + 1, c =>
    if (c.xactList c.xactTail).Retirable then
      let c := retireTail c
      if xactListEmpty c then c else checkpointLoop fuel c
    else c

/-- `maybe_checkpoint`. The loop runs at most `XACT_LIST_LEN` times (`checkpointLoop_fuel`
below), so that much fuel is enough. -/
def maybeCheckpoint (c : ProducerContext) : ProducerContext :=
  checkpointLoop xactListLen c

@[simp] theorem retireTail_xactHead (c : ProducerContext) :
    (retireTail c).xactHead = c.xactHead := by
  simp only [retireTail]
  split <;> rfl

@[simp] theorem retireTail_xactTail (c : ProducerContext) :
    (retireTail c).xactTail = succ c.xactTail := by
  simp only [retireTail]
  split <;> rfl

@[simp] theorem retireTail_xactList (c : ProducerContext) :
    (retireTail c).xactList = c.xactList := by
  simp only [retireTail]
  split <;> rfl

@[simp] theorem retireTail_fsyncLsn (c : ProducerContext) :
    (retireTail c).client.repl.fsyncLsn = (c.xactList c.xactTail).commitLsn := by
  simp only [retireTail]
  split <;> rfl

@[simp] theorem retireTail_recvdLsn (c : ProducerContext) :
    (retireTail c).client.repl.recvdLsn = c.client.repl.recvdLsn := by
  simp only [retireTail]
  split <;> rfl

@[simp] theorem retireTail_startLsn (c : ProducerContext) :
    (retireTail c).client.repl.startLsn = c.client.repl.startLsn := by
  simp only [retireTail]
  split <;> rfl

@[simp] theorem retireTail_errorPolicy (c : ProducerContext) :
    (retireTail c).errorPolicy = c.errorPolicy := by
  simp only [retireTail]
  split <;> rfl

@[simp] theorem retireTail_mapper (c : ProducerContext) :
    (retireTail c).mapper = c.mapper := by
  simp only [retireTail]
  split <;> rfl

@[simp] theorem retireTail_outputFormat (c : ProducerContext) :
    (retireTail c).outputFormat = c.outputFormat := by
  simp only [retireTail]
  split <;> rfl

/-- The number of iterations the loop of `maybe_checkpoint` can still make before the ring is
empty: the slots in use, or all of them when the loop starts on an empty ring. -/
def loopBound (c : ProducerContext) : Nat :=
  if xactListLength c = 0 then xactListLen else xactListLength c

/-- An iteration that does not empty the ring uses up one of the remaining iterations. -/
theorem loopBound_retireTail {c : ProducerContext} (h : xactListEmpty (retireTail c) = false) :
    loopBound (retireTail c) + 1 = loopBound c := by
  have hn : xactListLength (retireTail c) ≠ 0 := by simpa [xactListEmpty] using h
  simp only [loopBound, xactListLength_eq_count, retireTail_xactHead, retireTail_xactTail] at hn ⊢
  by_cases h0 : count c.xactHead c.xactTail = 0
  · rw [count_succ_tail_of_zero h0] at hn ⊢
    rw [if_neg hn]
    simp only [h0, if_true]
    decide
  · rw [count_succ_tail (Nat.pos_of_ne_zero h0)] at hn ⊢
    rw [if_neg hn]
    simp only [h0, if_false]
    omega

theorem loopBound_pos (c : ProducerContext) : 0 < loopBound c := by
  unfold loopBound
  split
  · decide
  · omega

theorem loopBound_le (c : ProducerContext) : loopBound c ≤ xactListLen := by
  have := CircularBuffer.count_lt c.xactHead c.xactTail
  unfold loopBound
  rw [xactListLength_eq_count]
  split <;> omega

/-- Any fuel of at least `loopBound c` gives the same result: the loop has stopped by then. -/
theorem checkpointLoop_eq_of_le {f g : Nat} {c : ProducerContext} (hf : loopBound c ≤ f)
    (hg : loopBound c ≤ g) : checkpointLoop f c = checkpointLoop g c := by
  induction f generalizing c g with
  | zero =>
    have := loopBound_pos c
    omega
  | succ f ih =>
    obtain ⟨g, rfl⟩ : ∃ g', g = g' + 1 := ⟨g - 1, by have := loopBound_pos c; omega⟩
    simp only [checkpointLoop]
    split
    · split
      · rfl
      · rename_i hne
        have hb := loopBound_retireTail (Bool.eq_false_iff.mpr hne)
        exact ih (by omega) (by omega)
    · rfl

/-- **The loop of `maybe_checkpoint` terminates within `XACT_LIST_LEN` iterations**: more fuel
changes nothing. -/
theorem checkpointLoop_fuel (c : ProducerContext) (k : Nat) :
    checkpointLoop (xactListLen + k) c = maybeCheckpoint c := by
  have hb := loopBound_le c
  exact checkpointLoop_eq_of_le (by omega) hb

/-! ## Callbacks of the frame reader -/

/-- `on_begin_txn`. The snapshot (`xid == 0`) must be the first transaction; while the ring is
full the callback waits in `backpressure`. -/
def onBeginTxn (c : ProducerContext) (_walPos xid : Nat) : Outcome ProducerContext :=
  if xid = 0 ∧ ¬(c.xactTail.val = 0 ∧ xactListEmpty c = true) then .exit
  else if xactListFull c then .wait
  else
    let head := succ c.xactHead
    .ret ({ c with xactHead := head }.setXact head ⟨xid, 0, 0, 0⟩) 0

/-- `on_commit_txn`: the commit must match the transaction in the head slot. -/
def onCommitTxn (c : ProducerContext) (walPos xid : Nat) : Outcome ProducerContext :=
  let xact := c.xactList c.xactHead
  if xid ≠ xact.xid then .exit
  else .ret (maybeCheckpoint (c.setXact c.xactHead { xact with commitLsn := walPos })) 0

/-- `on_keepalive`: acknowledge the keepalive's position only when no transaction is in
the ring. -/
def onKeepalive (c : ProducerContext) (_walPos : Nat) : Int :=
  if xactListEmpty c then 0 else frameReaderSyncPending

/-- `on_client_error`: errors the frame reader reports go to `handle_error`. -/
def onClientError (c : ProducerContext) (err : Int) : Option Int :=
  handleError c err

/-! ## Sending and delivery -/

/-- The schema id in network byte order (`htonl` of the `int` id). -/
def bigEndian32 (v : Int) : List UInt8 :=
  let u := (v % 2 ^ 32).toNat
  [u / 2 ^ 24 % 256, u / 2 ^ 16 % 256, u / 2 ^ 8 % 256, u % 256].map UInt8.ofNat

/-- `add_schema_prefix`: a zero byte and the schema id before the Avro bytes. -/
def addSchemaPrefix (schemaId : Int) (avroBin : Option (List UInt8)) : Option (List UInt8) :=
  avroBin.map fun bin => 0 :: bigEndian32 schemaId ++ bin

/-- `schema_registry_encode_msg`: it never fails. -/
def schemaRegistryEncodeMsg (keySchemaId rowSchemaId : Int) (keyBin rowBin : Option (List UInt8)) :
    Option (List UInt8) × Option (List UInt8) :=
  (addSchemaPrefix keySchemaId keyBin, addSchemaPrefix rowSchemaId rowBin)

/-- What `rd_kafka_produce` does with a message: it accepts it into its queue (after
waiting in `backpressure` while the queue is full), or fails. -/
inductive Produce
  | accepted
  | failed
  deriving DecidableEq, Repr

section Send

-- `json_encode_msg` (`kafka/json.c`): it decodes the key and the row with the table's
-- schemas and prints them as JSON; it returns its error code with the encoded key and value.
variable (jsonEncodeMsg : TableMetadata → Option (List UInt8) → Option (List UInt8) →
  Int × Option (List UInt8) × Option (List UInt8))

/-- `send_kafka_msg`. The event counters of the transaction in the head slot are raised first;
the table lookup, the encoding and the call to `rd_kafka_produce` can then each return
early. The message that librdkafka accepted, if any, is returned with the new state. -/
def sendKafkaMsg (c : ProducerContext) (walPos relid : Nat) (keyBin valBin : Option (List UInt8))
    (produce : Produce) : Outcome (ProducerContext × Option KafkaMessage) :=
  let xact := c.xactList c.xactHead
  let c := c.setXact c.xactHead
    { xact with recvdEvents := xact.recvdEvents + 1, pendingEvents := xact.pendingEvents + 1 }
  let envelope : MsgEnvelope := ⟨walPos, relid, c.xactHead⟩
  match tableMapperLookup c.mapper relid with
  | none => .ret (c, none) 1
  | some table =>
    let encoded : Option (Int × Option (List UInt8) × Option (List UInt8)) :=
      match c.outputFormat with
      | .json => some (jsonEncodeMsg table keyBin valBin)
      | .avro => some (0, schemaRegistryEncodeMsg table.keySchemaId table.rowSchemaId
          keyBin valBin)
      | .undefined => none
    match encoded with
    | none => .exit
    | some (err, key, val) =>
      if err ≠ 0 then .ret (c, none) err
      else
        match produce with
        | .accepted => .ret (c, some ⟨table.topic, key, val, envelope⟩) 0
        | .failed => .ret (c, none) (-1)

end Send

/-- `on_deliver_msg`: a delivery report for `msg`, with librdkafka's error code. A failed
delivery goes to `handle_error`; a delivery that succeeded or whose error was handled counts
the message as no longer pending and checkpoints. -/
def onDeliverMsg (c : ProducerContext) (msg : KafkaMessage) (err : Int) :
    Outcome ProducerContext :=
  match (if err ≠ 0 then handleError c err else some 0) with
  | none => .exit
  | some e =>
    if e = 0 then
      let xact := c.xactList msg.envelope.xact
      .ret (maybeCheckpoint (c.setXact msg.envelope.xact
        { xact with pendingEvents := xact.pendingEvents - 1 })) 0
    else .ret c 0

end BottledWater
