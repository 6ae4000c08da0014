import BottledWater.Kafka.Producer

set_option autoImplicit false

/-! # The Kafka client as a system of steps

The client process runs the callbacks of `kafka/bottledwater.c` in the order the messages of
the server arrive, and runs `on_deliver_msg` whenever librdkafka has a delivery report, which
it hands out in no particular order. This file puts the pieces together as one system:

* `KafkaClient` is the producer context, the messages librdkafka holds for delivery, and what
  the server has sent so far (`Env`), which decides what it can send next.
* `Event` is one step: a callback from the snapshot, a message of an XLogData frame, a
  keepalive, or a delivery report.
* `step` is what the client does on an event; `Admissible` is the order of the replication
  protocol; `Reachable` is every state the client reaches from its start by admissible steps.

The protocol order is the one Postgres follows. When the client has just created its slot, it
first exports a snapshot over a separate SQL connection: `snapshot_start` calls
`on_begin_txn` with xid `0` at `start_lsn`, every exported row arrives in a frame parsed at
WAL position `0`, and `snapshot_poll` calls `on_commit_txn` with xid `0` at `start_lsn`. Only
then does replication start (`db_client_poll`). The server reads the WAL from the slot's
restart point, which can lie before `start_lsn`, so an XLogData or keepalive message may carry a
position before `start_lsn`: a keepalive reports how far the walsender has read, and a
transaction that began before the slot's consistent point sends its changes at their own
positions. Streamed transactions are bracketed by a begin and a commit with the same xid; xid
`0` (`InvalidTransactionId`) is never a streamed transaction's. A commit's position is beyond
every position received before it, and a streamed commit lies beyond `start_lsn`: the slot
streams only the transactions that commit after the point its snapshot was taken at.
-/

namespace BottledWater

/-! ## Frame events and their callbacks -/

/-- A message as the frame reader hands it to a callback. Row messages carry the relid and the
key, old-row and new-row buffers (each may be absent); the decoded Avro values the frame reader
also passes are not read by the producer's callbacks. -/
inductive FrameEvent
  | beginTxn (xid : Nat)
  | commitTxn (xid : Nat)
  | insertRow (relid : Nat) (keyBin : Option (List UInt8)) (newBin : List UInt8)
  | updateRow (relid : Nat) (keyBin oldBin : Option (List UInt8)) (newBin : List UInt8)
  | deleteRow (relid : Nat) (keyBin oldBin : Option (List UInt8))
  deriving Repr

/-- Apply a function to the state an outcome returns with. -/
def Outcome.map {α β : Type} (f : α → β) : Outcome α → Outcome β
  | .ret s code => .ret (f s) code
  | .wait => .wait
  | .exit => .exit

section Callbacks

variable (jsonEncodeMsg : TableMetadata → Option (List UInt8) → Option (List UInt8) →
  Int × Option (List UInt8) × Option (List UInt8))

/-- `on_insert_row`: the new row goes to Kafka under the key. -/
def onInsertRow (c : ProducerContext) (walPos relid : Nat) (keyBin : Option (List UInt8))
    (newBin : List UInt8) (produce : Produce) : Outcome (ProducerContext × Option KafkaMessage) :=
  sendKafkaMsg jsonEncodeMsg c walPos relid keyBin (some newBin) produce

/-- `on_update_row`: the new row goes to Kafka under the key; the old row is not sent. -/
def onUpdateRow (c : ProducerContext) (walPos relid : Nat) (keyBin _oldBin : Option (List UInt8))
    (newBin : List UInt8) (produce : Produce) : Outcome (ProducerContext × Option KafkaMessage) :=
  sendKafkaMsg jsonEncodeMsg c walPos relid keyBin (some newBin) produce

/-- `on_delete_row`: a keyed delete goes to Kafka as the key with no value; a delete without
a key is dropped. -/
def onDeleteRow (c : ProducerContext) (walPos relid : Nat) (keyBin _oldBin : Option (List UInt8))
    (produce : Produce) : Outcome (ProducerContext × Option KafkaMessage) :=
  match keyBin with
  | some key => sendKafkaMsg jsonEncodeMsg c walPos relid (some key) none produce
  | none => .ret (c, none) 0

/-- The callback the frame reader calls for an event, with the message librdkafka accepted. -/
def callback (c : ProducerContext) (walPos : Nat) (produce : Produce) :
    FrameEvent → Outcome (ProducerContext × Option KafkaMessage)
  | .beginTxn xid => (onBeginTxn c walPos xid).map (·, none)
  | .commitTxn xid => (onCommitTxn c walPos xid).map (·, none)
  | .insertRow relid keyBin newBin => onInsertRow jsonEncodeMsg c walPos relid keyBin newBin produce
  | .updateRow relid keyBin oldBin newBin =>
    onUpdateRow jsonEncodeMsg c walPos relid keyBin oldBin newBin produce
  | .deleteRow relid keyBin oldBin => onDeleteRow jsonEncodeMsg c walPos relid keyBin oldBin produce

end Callbacks

/-- `check_handle` around a callback: a nonzero result goes to `frame_reader_handle`, whose
`on_error` is `on_client_error`. A result that stays nonzero ends the frame with an error, and
the main loop exits on it (`ensure` around `db_client_poll`). -/
def checkHandle (c : ProducerContext) (code : Int) : Option ProducerContext :=
  if code = 0 then some c
  else
    match onClientError c code with
    | some 0 => some c
    | _ => none

/-! ## The system -/

/-- Whether the client is still exporting the snapshot. -/
inductive Phase
  | snapshot
  | streaming
  deriving DecidableEq, Repr

/-- What the server has sent so far: the phase, the xid of the transaction the frame reader is
inside, and for every transaction begun so far, in order, its commit position once it has
committed. -/
structure Env where
  phase : Phase
  openXid : Option Nat
  commits : List (Option Nat)
  deriving DecidableEq, Repr

/-- The Kafka client: the producer, the messages librdkafka has accepted and not yet reported
on, each with the number of the transaction that sent it, and the server's side. -/
structure KafkaClient where
  ctx : ProducerContext
  queue : List (KafkaMessage × Nat)
  env : Env

/-- One step of the client. -/
inductive Event
  /-- A callback from the snapshot connection: `snapshot_start` (begin, xid `0`), a row of
  `snapshot_tuple`, or `snapshot_poll` after the last row (commit, xid `0`). -/
  | snapshot (walPos : Nat) (ev : FrameEvent) (produce : Produce)
  /-- A message of the frame of an XLogData message at `walPos`. -/
  | xlogData (walPos : Nat) (ev : FrameEvent) (produce : Produce)
  /-- A primary keepalive message. -/
  | keepalive (walPos : Nat)
  /-- The delivery report for the `i`-th message librdkafka holds, with its error code. -/
  | deliver (i : Nat) (err : Int)

/-- The server's side after it sent `ev` at `walPos`. -/
def Env.after (env : Env) (walPos : Nat) : FrameEvent → Env
  | .beginTxn xid => { env with openXid := some xid, commits := env.commits ++ [none] }
  | .commitTxn _ =>
    { phase := .streaming, openXid := none,
      commits := env.commits.set (env.commits.length - 1) (some walPos) }
  | _ => env

/-- The stream's state in a producer context. -/
def ProducerContext.setRepl (c : ProducerContext) (repl : ReplicationStream) : ProducerContext :=
  { c with client := { c.client with repl } }

section Step

variable (jsonEncodeMsg : TableMetadata → Option (List UInt8) → Option (List UInt8) →
  Int × Option (List UInt8) × Option (List UInt8))

/-- The frame reader passes `ev` to its callback; a message librdkafka accepted joins its queue,
as a message of the transaction begun last. -/
def frameStep (s : KafkaClient) (walPos : Nat) (ev : FrameEvent) (produce : Produce) :
    Option KafkaClient :=
  match callback jsonEncodeMsg s.ctx walPos produce ev with
  | .ret (c, msg) code =>
    (checkHandle c code).map fun c =>
      { ctx := c
        queue := s.queue ++ (msg.map (·, s.env.commits.length - 1)).toList
        env := s.env.after walPos ev }
  | _ => none

/-- What the client does on an event. `none`: it does not go on from here (it exits, or the
callback waits for delivery reports first, or there is no such message). -/
def step (s : KafkaClient) : Event → Option KafkaClient
  | .snapshot walPos ev produce => frameStep jsonEncodeMsg s walPos ev produce
  | .xlogData walPos ev produce =>
    (frameStep jsonEncodeMsg s walPos ev produce).map fun s =>
      { s with ctx := s.ctx.setRepl (xlogDataReceived s.ctx.client.repl walPos) }
  | .keepalive walPos =>
    let r := parseKeepaliveMessage s.ctx.client.repl walPos (onKeepalive s.ctx)
    if r.2 = 0 then some { s with ctx := s.ctx.setRepl r.1 } else none
  | .deliver i err =>
    match s.queue[i]? with
    | none => none
    | some (msg, _) =>
      match onDeliverMsg s.ctx msg err with
      | .ret c _ => some { s with ctx := c, queue := s.queue.eraseIdx i }
      | _ => none

end Step

/-- The order of the replication protocol (see the file's introduction). -/
def Admissible (s : KafkaClient) : Event → Prop
  | .snapshot walPos ev _ =>
    s.env.phase = .snapshot ∧
    match ev with
    | .beginTxn xid => s.env.commits = [] ∧ xid = 0 ∧ walPos = s.ctx.client.repl.startLsn
    | .commitTxn xid => s.env.openXid = some 0 ∧ xid = 0 ∧
        walPos = s.ctx.client.repl.startLsn ∧ s.ctx.client.repl.recvdLsn < walPos
    | _ => s.env.openXid = some 0 ∧ walPos = 0
  | .xlogData walPos ev _ =>
    s.env.phase = .streaming ∧
    match ev with
    | .beginTxn xid => s.env.openXid = none ∧ xid ≠ 0
    | .commitTxn xid => s.env.openXid = some xid ∧ s.ctx.client.repl.recvdLsn < walPos ∧
        s.ctx.client.repl.startLsn < walPos
    | _ => s.env.openXid ≠ none
  | .keepalive _ => s.env.phase = .streaming
  | .deliver i _ => i < s.queue.length

instance (s : KafkaClient) : (e : Event) → Decidable (Admissible s e)
  | .snapshot walPos ev _ =>
    match ev with
    | .beginTxn xid => inferInstanceAs (Decidable (s.env.phase = .snapshot ∧
        (s.env.commits = [] ∧ xid = 0 ∧ walPos = s.ctx.client.repl.startLsn)))
    | .commitTxn xid => inferInstanceAs (Decidable (s.env.phase = .snapshot ∧
        (s.env.openXid = some 0 ∧ xid = 0 ∧ walPos = s.ctx.client.repl.startLsn ∧
          s.ctx.client.repl.recvdLsn < walPos)))
    | .insertRow .. | .updateRow .. | .deleteRow .. => inferInstanceAs (Decidable
        (s.env.phase = .snapshot ∧ (s.env.openXid = some 0 ∧ walPos = 0)))
  | .xlogData walPos ev _ =>
    match ev with
    | .beginTxn xid => inferInstanceAs (Decidable (s.env.phase = .streaming ∧
        (s.env.openXid = none ∧ xid ≠ 0)))
    | .commitTxn xid => inferInstanceAs (Decidable (s.env.phase = .streaming ∧
        (s.env.openXid = some xid ∧ s.ctx.client.repl.recvdLsn < walPos ∧
          s.ctx.client.repl.startLsn < walPos)))
    | .insertRow .. | .updateRow .. | .deleteRow .. => inferInstanceAs (Decidable
        (s.env.phase = .streaming ∧ s.env.openXid ≠ none))
  | .keepalive _ => inferInstanceAs (Decidable (s.env.phase = .streaming))
  | .deliver i _ => inferInstanceAs (Decidable (i < s.queue.length))

/-- The client right after `main` has set it up: `init_producer` with the options
`parse_options` read, the stream at the slot's start position with nothing received or
acknowledged, and the snapshot still to export when the slot was just created. The table
mapper holds whatever tables `on_table_schema` has registered. -/
def Initial (s : KafkaClient) : Prop :=
  ∃ (startLsn : Nat) (takingSnapshot : Bool) (mapper : TableMapper) (format : OutputFormat)
    (policy : ErrorPolicy),
    s = { ctx := { initProducer ⟨⟨startLsn, 0, 0⟩, takingSnapshot⟩ mapper with
                    outputFormat := format, errorPolicy := policy }
          queue := []
          env := ⟨if takingSnapshot then .snapshot else .streaming, none, []⟩ }

section Reach

variable (jsonEncodeMsg : TableMetadata → Option (List UInt8) → Option (List UInt8) →
  Int × Option (List UInt8) × Option (List UInt8))

/-- One admissible step. -/
def Next (s s' : KafkaClient) : Prop :=
  ∃ e, Admissible s e ∧ step jsonEncodeMsg s e = some s'

/-- The states the client reaches from its start. -/
def Reachable (s : KafkaClient) : Prop :=
  ∃ s₀, Initial s₀ ∧ Relation.ReflTransGen (Next jsonEncodeMsg) s₀ s

/-- The events of a run, one after the other; `none` when one of them is not admissible or the
client does not go on. -/
def runEvents (s : KafkaClient) : List Event → Option KafkaClient
  | [] => some s
  | e :: es => if Admissible s e then (step jsonEncodeMsg s e).bind (runEvents · es) else none

/-- A run of events that goes through is a run of admissible steps. -/
theorem runEvents_reflTransGen {s s' : KafkaClient} {es : List Event}
    (h : runEvents jsonEncodeMsg s es = some s') :
    Relation.ReflTransGen (Next jsonEncodeMsg) s s' := by
  induction es generalizing s with
  | nil =>
    cases h
    exact .refl
  | cons e es ih =>
    simp only [runEvents] at h
    split at h
    · rename_i hadm
      obtain ⟨s₁, h₁, hrun⟩ := Option.bind_eq_some_iff.mp h
      exact .head ⟨e, hadm, h₁⟩ (ih hrun)
    · cases h

/-- A run of events from the client's start reaches every state it goes through. -/
theorem reachable_of_runEvents {s₀ s : KafkaClient} {es : List Event} (h₀ : Initial s₀)
    (h : runEvents jsonEncodeMsg s₀ es = some s) : Reachable jsonEncodeMsg s :=
  ⟨s₀, h₀, runEvents_reflTransGen jsonEncodeMsg h⟩

end Reach

/-- A table as `table_mapper_update` registers it: relid `1`, topic and name `t`, key schema
id `1` and row schema id `2`. The concrete runs of the later files stream its rows. -/
def sampleTable : TableMetadata :=
  { relid := 1, tableName := [116], topic := some [116], keySchemaId := 1, keySchema := none,
    rowSchemaId := 2, rowSchema := none, deleted := false }

/-- A JSON encoder that returns its input. The concrete runs use the Avro format, which does not
call it. -/
def passThroughEncoder : TableMetadata → Option (List UInt8) → Option (List UInt8) →
    Int × Option (List UInt8) × Option (List UInt8) :=
  fun _ key val => (0, key, val)

end BottledWater
