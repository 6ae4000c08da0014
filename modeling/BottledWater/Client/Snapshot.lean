import BottledWater.Client.Connect
import BottledWater.Client.FailedRows
import BottledWater.Kafka.Steps

set_option autoImplicit false

/-! # The snapshot (`client/connect.c`)

When the client has just created its replication slot, it exports what the tables hold before
it streams their changes: `snapshot_start` calls `on_begin_txn` with xid `0` at `start_lsn`;
each call of `db_client_poll` hands the next result of the export query to `snapshot_poll`, whose
rows (`snapshot_tuple`) are frames parsed at WAL position `0` by the frame reader that later
parses the replication stream; and the end of the results calls `on_commit_txn` with xid `0`.

`db_client_poll` has two branches: while the snapshot's connection is open it polls that
connection, and only otherwise does it reload the active table list (`update_repl_table_entry`,
when `received_reload_signal` is set, as `main` sets it before its loop) and poll the stream.
So during the snapshot the active list is the empty one `frame_reader_new` leaves, and
`CHECK_ACTIVE_SCHEMA` skips every exported row.

To say what reaches the application, it is run with its calls recorded (`recording`). `RowFree`
says of a function of the reader that, from a reader with an empty active list, it leaves the
list empty and records no row callback; it is proved for each of the reader's combinators and
then for each function of the reader, the way the code composes them.
-/

namespace BottledWater

open Avro

/-- Whether a call of the reader is a row callback: `on_insert_row`, `on_update_row` or
`on_delete_row`, the callbacks that hand rows on to Kafka. -/
def ReaderCall.isRow : ReaderCall → Bool
  | .insertRow .. | .updateRow .. | .deleteRow .. => true
  | _ => false


/-! ## What reaches the application while the active list is empty -/

section RowFree

variable {A : AvroC} {σ : Type} (app : σ → ReaderCall → σ × Int)

/-- A callback called directly, whose nonzero code the caller returns and which is otherwise
followed by `return 0`: `check(err, callback(…)); return 0`. -/
def Proc.call (call : ReaderCall) : Proc σ := fun s r =>
  let (s, code) := app s call
  some (s, r, code)

/-- `frame_reader_handle` is a direct call of `on_error`. -/
theorem Proc.handle_eq_call (err : Int) (reason : ReaderError) :
    Proc.handle app err reason = Proc.call app (.error err reason) := rfl

/-- The application with every call of the reader recorded, in order. -/
def recording : σ × List ReaderCall → ReaderCall → (σ × List ReaderCall) × Int :=
  fun sc call => (((app sc.1 call).1, sc.2 ++ [call]), (app sc.1 call).2)

/-- A function of the reader passes no row on while the active list is empty: it leaves the list
empty, and the row callbacks recorded after it are those recorded before. -/
def RowFree (p : Proc (σ × List ReaderCall)) : Prop :=
  ∀ s calls r out, r.activeSchemaList = [] → p (s, calls) r = some out →
    out.2.1.activeSchemaList = [] ∧
      out.1.2.filter ReaderCall.isRow = calls.filter ReaderCall.isRow

theorem rowFree_ret (code : Int) : RowFree (Proc.ret code : Proc (σ × List ReaderCall)) := by
  intro s calls r out hr h
  simp only [Proc.ret, Option.some.injEq] at h
  subst h
  exact ⟨hr, rfl⟩

theorem rowFree_call {call : ReaderCall} (hcall : call.isRow = false) :
    RowFree (Proc.call (recording app) call) := by
  intro s calls r out hr h
  simp only [Proc.call, recording, Option.some.injEq] at h
  subst h
  exact ⟨hr, by simp [hcall]⟩

/-- `on_error` is not a row callback. -/
theorem rowFree_handle (err : Int) (reason : ReaderError) :
    RowFree (Proc.handle (recording app) err reason) := by
  rw [Proc.handle_eq_call]
  exact rowFree_call app rfl

theorem rowFree_avro {α : Type} (x : Except Int α) {k : α → Proc (σ × List ReaderCall)}
    (hk : ∀ a, RowFree (k a)) : RowFree (Proc.avro (recording app) x k) := by
  cases x with
  | ok a => exact hk a
  | error err => exact rowFree_handle app err .avro

theorem rowFree_check {p k : Proc (σ × List ReaderCall)} (hp : RowFree p) (hk : RowFree k) :
    RowFree (Proc.check p k) := by
  intro s calls r out hr h
  unfold Proc.check at h
  cases hp₁ : p (s, calls) r with
  | none =>
    rw [hp₁] at h
    cases h
  | some mid =>
    obtain ⟨⟨s₁, calls₁⟩, r₁, code⟩ := mid
    obtain ⟨hr₁, hcalls₁⟩ := hp s calls r _ hr hp₁
    rw [hp₁, Option.bind_some] at h
    dsimp only at h
    by_cases hcode : code = 0
    · -- the second step runs from where the first left the reader and the records
      rw [if_pos hcode] at h
      obtain ⟨hr₂, hcalls₂⟩ := hk s₁ calls₁ r₁ out hr₁ h
      exact ⟨hr₂, hcalls₂.trans hcalls₁⟩
    · rw [if_neg hcode] at h
      cases h
      exact ⟨hr₁, hcalls₁⟩

/-- A callback of the recording application: the call is recorded before its code is looked at. -/
theorem Proc.callback_recording (call : ReaderCall) (reason : ReaderError) (s : σ)
    (calls : List ReaderCall) (r : FrameReader) :
    Proc.callback (recording app) call reason (s, calls) r =
      if (app s call).2 = 0 then some (((app s call).1, calls ++ [call]), r, 0)
      else Proc.handle (recording app) (app s call).2 reason ((app s call).1, calls ++ [call]) r :=
  rfl

theorem rowFree_callback {call : ReaderCall} (hcall : call.isRow = false)
    (reason : ReaderError) : RowFree (Proc.callback (recording app) call reason) := by
  intro s calls r out hr h
  rw [Proc.callback_recording] at h
  have hcalls : (calls ++ [call]).filter ReaderCall.isRow = calls.filter ReaderCall.isRow := by
    simp [hcall]
  by_cases hcode : (app s call).2 = 0
  · rw [if_pos hcode] at h
    cases h
    exact ⟨hr, hcalls⟩
  · -- a nonzero code goes on to `on_error`, after the callback was recorded
    rw [if_neg hcode] at h
    obtain ⟨hr', hcalls'⟩ := rowFree_handle app _ reason _ _ r out hr h
    exact ⟨hr', hcalls'.trans hcalls⟩

/-- A step run on a reader changed in a way that keeps the active list. -/
theorem rowFree_mapReader {p : Proc (σ × List ReaderCall)} (f : FrameReader → FrameReader)
    (hf : ∀ r, (f r).activeSchemaList = r.activeSchemaList) (hp : RowFree p) :
    RowFree (fun s r => p s (f r)) := by
  intro s calls r out hr h
  have hfr : (f r).activeSchemaList = [] := by rw [hf, hr]
  exact hp s calls (f r) out hfr h

/-- **A row message is skipped** while the active list is empty, whatever would follow. -/
theorem rowFree_withActiveEntry (kind : MessageKind) (relid : Int)
    (k : SchemaListEntry → Proc (σ × List ReaderCall)) :
    RowFree (withActiveEntry (recording app) kind relid k) := by
  intro s calls r out hr h
  have hskip : relid ∉ r.activeSchemaList := by simp [hr]
  rw [withActiveEntry_of_inactive (recording app) kind k hskip (s, calls)] at h
  cases h
  exact ⟨hr, rfl⟩

/-! ### The functions of the reader -/

theorem rowFree_processFrameBeginTxn (walPos : Nat) (record : Value) :
    RowFree (processFrameBeginTxn A (recording app) walPos record) :=
  rowFree_avro app _ fun _ => rowFree_avro app _ fun _ => rowFree_callback app rfl _

theorem rowFree_processFrameCommitTxn (walPos : Nat) (record : Value) :
    RowFree (processFrameCommitTxn A (recording app) walPos record) :=
  rowFree_avro app _ fun _ => rowFree_avro app _ fun _ => rowFree_callback app rfl _

theorem rowFree_processFrameInsert (walPos : Nat) (record : Value) :
    RowFree (processFrameInsert A (recording app) walPos record) := by
  unfold processFrameInsert
  -- the six getters, then the active-list check ends the message
  refine rowFree_avro app _ fun _ => rowFree_avro app _ fun _ => rowFree_avro app _ fun _ =>
    rowFree_avro app _ fun relid => rowFree_avro app _ fun _ => rowFree_avro app _ fun _ => ?_
  exact rowFree_withActiveEntry app .insert relid _

theorem rowFree_processFrameUpdate (walPos : Nat) (record : Value) :
    RowFree (processFrameUpdate A (recording app) walPos record) := by
  unfold processFrameUpdate
  refine rowFree_avro app _ fun _ => rowFree_avro app _ fun _ => rowFree_avro app _ fun _ =>
    rowFree_avro app _ fun _ => rowFree_avro app _ fun relid => rowFree_avro app _ fun _ =>
    rowFree_avro app _ fun _ => rowFree_avro app _ fun _ => ?_
  exact rowFree_withActiveEntry app .update relid _

theorem rowFree_processFrameDelete (walPos : Nat) (record : Value) :
    RowFree (processFrameDelete A (recording app) walPos record) := by
  unfold processFrameDelete
  refine rowFree_avro app _ fun _ => rowFree_avro app _ fun _ => rowFree_avro app _ fun _ =>
    rowFree_avro app _ fun relid => rowFree_avro app _ fun _ => rowFree_avro app _ fun _ => ?_
  exact rowFree_withActiveEntry app .delete relid _

section Parse

variable (parseSchema : List UInt8 → Except Int Schema)

/-- A `TableSchema` message changes the schema list, never the active list. -/
theorem rowFree_processFrameTableSchema (walPos : Nat) (record : Value) :
    RowFree (processFrameTableSchema A (recording app) parseSchema walPos record) := by
  unfold processFrameTableSchema
  refine rowFree_avro app _ fun _ => rowFree_avro app _ fun _ => rowFree_avro app _ fun _ =>
    rowFree_avro app _ fun relid => rowFree_avro app _ fun keySchemaPresent =>
    rowFree_avro app _ fun _ => rowFree_avro app _ fun rowSchema => ?_
  have hreplace (keySchema : Option Schema) (r : FrameReader) :
      (schemaListReplace r relid keySchema rowSchema).activeSchemaList = r.activeSchemaList :=
    activeSchemaList_schemaListReplace r relid keySchema rowSchema
  dsimp only
  by_cases hkey : keySchemaPresent ≠ 0
  · -- the key schema's text is read and parsed, and the entry replaced again
    rw [if_pos hkey]
    refine rowFree_mapReader (fun r => schemaListReplace r relid none rowSchema) (hreplace none) ?_
    refine rowFree_avro app _ fun _ => rowFree_avro app _ fun _ =>
      rowFree_avro app _ fun keySchema => ?_
    exact rowFree_mapReader _ (hreplace (some keySchema)) (rowFree_callback app rfl _)
  · rw [if_neg hkey]
    exact rowFree_mapReader _ (hreplace none) (rowFree_callback app rfl _)

theorem rowFree_processMessage (walPos : Nat) (msgType : Int) (record : Value) :
    RowFree (processMessage A (recording app) parseSchema walPos msgType record) := by
  unfold processMessage
  split_ifs
  · exact rowFree_processFrameBeginTxn app walPos record
  · exact rowFree_processFrameCommitTxn app walPos record
  · exact rowFree_processFrameTableSchema app parseSchema walPos record
  · exact rowFree_processFrameInsert app walPos record
  · exact rowFree_processFrameUpdate app walPos record
  · exact rowFree_processFrameDelete app walPos record
  · exact rowFree_handle app _ _

/-- The loop over a frame's messages, by induction on the number of messages left. -/
theorem rowFree_processMessagesFrom (walPos : Nat) (msgVal : Value) (n : Nat) :
    ∀ i, RowFree (processMessagesFrom A (recording app) parseSchema walPos msgVal i n) := by
  induction n with
  | zero =>
    intro i
    exact rowFree_ret 0
  | succ n ih =>
    intro i
    rw [processMessagesFrom]
    exact rowFree_avro app _ fun _ => rowFree_avro app _ fun msgType =>
      rowFree_avro app _ fun recordVal =>
      rowFree_check (rowFree_processMessage app parseSchema walPos msgType recordVal) (ih (i + 1))

theorem rowFree_processFrame (walPos : Nat) (frame : Value) :
    RowFree (processFrame A (recording app) parseSchema walPos frame) :=
  rowFree_avro app _ fun msgVal => rowFree_avro app _ fun numMessages =>
    rowFree_processMessagesFrom app parseSchema walPos msgVal numMessages 0

theorem rowFree_parseFrame (walPos : Nat) (buf : List UInt8) :
    RowFree (parseFrame A (recording app) parseSchema walPos buf) := by
  unfold parseFrame
  split
  · -- a frame that does not decode: `on_error`, and nothing more unless it answered `0`
    intro s calls r out hr h
    dsimp only [recording] at h
    split at h
    · cases h
    · cases h
      exact ⟨hr, by simp [ReaderCall.isRow]⟩
  · exact rowFree_processFrame app parseSchema walPos _
  · exact rowFree_check (rowFree_handle app _ _) (rowFree_processFrame app parseSchema walPos _)

end Parse

end RowFree

/-! ## The snapshot -/

namespace Connect

/-- What `PQgetResult` returns on the snapshot's connection. -/
inductive SnapshotResult
  /-- `NULL`: there are no more results. -/
  | done
  /-- A result whose status is neither `PGRES_SINGLE_TUPLE` nor `PGRES_TUPLES_OK`. -/
  | failed
  /-- Rows of the export, each the frame of one table row, or none for a NULL value. -/
  | tuples (values : List (Option (List UInt8)))

section Snapshot

variable (A : AvroC) {σ : Type} (app : σ → ReaderCall → σ × Int)

/-- `snapshot_start`, once the export query is sent: `on_begin_txn` with xid `0`. -/
def snapshotStart (startLsn : Nat) : Proc σ :=
  Proc.call app (.beginTxn startLsn 0)

variable (parseSchema : List UInt8 → Except Int Schema)

/-- `snapshot_tuple`: a row's value is a frame, parsed at WAL position `0`, and a NULL value is
`EIO`. The export query returns one column in binary format, so the other two checks pass. -/
def snapshotTuple : Option (List UInt8) → Proc σ
  | none => Proc.ret eio
  | some frame => parseFrame A app parseSchema 0 frame

/-- The loop of `snapshot_poll` over the rows of a result. -/
def snapshotTuples : List (Option (List UInt8)) → Proc σ
  | [] => Proc.ret 0
  | value :: values => Proc.check (snapshotTuple A app parseSchema value) (snapshotTuples values)

/-- `snapshot_poll` on a result. At the end of the results the transaction is committed and
`on_commit_txn` is called with xid `0` at `start_lsn`. -/
def snapshotPoll (startLsn : Nat) : SnapshotResult → Proc σ
  | .done => Proc.call app (.commitTxn startLsn 0)
  | .failed => Proc.ret eio
  | .tuples values => snapshotTuples A app parseSchema values

/-- The calls of `db_client_poll` while the snapshot's connection is open, one result each. The
connection is closed at the end of the results, and `main` exits at the first nonzero code
(`ensure`). None of them reloads the active list: that is the other branch of
`db_client_poll`. -/
def snapshotPolls (startLsn : Nat) : List SnapshotResult → Proc σ
  | [] => Proc.ret 0
  | .done :: _ => snapshotPoll A app parseSchema startLsn .done
  | result :: results =>
    Proc.check (snapshotPoll A app parseSchema startLsn result) (snapshotPolls startLsn results)

/-- The snapshot as the client takes it: `snapshot_start` in `db_client_start`, then the polls. -/
def snapshotRun (startLsn : Nat) (results : List SnapshotResult) : Proc σ :=
  Proc.check (snapshotStart app startLsn) (snapshotPolls A app parseSchema startLsn results)

end Snapshot

/-! ### No row of the snapshot reaches the application -/

section RowFree

variable {A : AvroC} {σ : Type} (app : σ → ReaderCall → σ × Int)
  (parseSchema : List UInt8 → Except Int Schema)

theorem rowFree_snapshotTuples (values : List (Option (List UInt8))) :
    RowFree (snapshotTuples A (recording app) parseSchema values) := by
  induction values with
  | nil => exact rowFree_ret 0
  | cons value values ih =>
    have htuple : RowFree (snapshotTuple A (recording app) parseSchema value) := by
      cases value with
      | none => exact rowFree_ret eio
      | some frame => exact rowFree_parseFrame app parseSchema 0 frame
    exact rowFree_check htuple ih

theorem rowFree_snapshotPoll (startLsn : Nat) (result : SnapshotResult) :
    RowFree (snapshotPoll A (recording app) parseSchema startLsn result) := by
  cases result with
  | done => exact rowFree_call app rfl
  | failed => exact rowFree_ret eio
  | tuples values => exact rowFree_snapshotTuples app parseSchema values

/-- The polls of the snapshot, by induction on the results. -/
theorem rowFree_snapshotRun (startLsn : Nat) (results : List SnapshotResult) :
    RowFree (snapshotRun A (recording app) parseSchema startLsn results) := by
  have hpolls : RowFree (snapshotPolls A (recording app) parseSchema startLsn results) := by
    induction results with
    | nil => exact rowFree_ret 0
    | cons result results ih =>
      cases result with
      | done => exact rowFree_snapshotPoll app parseSchema startLsn .done
      | failed => exact rowFree_check (rowFree_snapshotPoll app parseSchema startLsn _) ih
      | tuples values => exact rowFree_check (rowFree_snapshotPoll app parseSchema startLsn _) ih
  exact rowFree_check (rowFree_call app rfl) hpolls

/-- **No row of the snapshot reaches the application.** From the reader `frame_reader_new`
makes, whatever the export returns and whatever the application answers, no call the snapshot
makes is a row callback, and the active list is still empty at its end. -/
theorem snapshotRun_no_row_calls (startLsn : Nat) (results : List SnapshotResult) (s : σ)
    {out : (σ × List ReaderCall) × FrameReader × Int}
    (h : snapshotRun A (recording app) parseSchema startLsn results (s, []) frameReaderNew =
      some out) :
    out.2.1.activeSchemaList = [] ∧ ∀ call ∈ out.1.2, call.isRow = false := by
  obtain ⟨hr, hcalls⟩ := rowFree_snapshotRun app parseSchema startLsn results s [] frameReaderNew
    out rfl h
  refine ⟨hr, fun call hcall => ?_⟩
  have hnil : out.1.2.filter ReaderCall.isRow = [] := hcalls
  simpa using List.filter_eq_nil_iff.mp hnil call hcall

/-- **An exported row never reaches `on_insert_row`.** Table `16384` holds one row, `id = 1`,
keyed by `id`. The export writes the row's frame, the table's schemas followed by the row; the
snapshot of that one frame, from the reader `frame_reader_new` makes and with every callback
answering `0`, calls the application three times (begin, table schema, commit), and no call is
a row callback. With the table in the active list, the same snapshot calls `on_insert_row`. -/
theorem snapshot_row_skipped :
    ∃ frame, (buildFrame AvroC.spec (fun _ => bytesOf "t")
        [.tableSchema 16384 (some idRowSchema) idRowSchema, .insert 16384 (some [2]) [2]]).bind
          (writeFrame AvroC.spec) = .ok frame ∧
      (snapshotRun AvroC.spec (recording fun (_ : Unit) _ => ((), 0)) (fun _ => .ok idRowSchema) 5
          [.tuples [some frame], .done] ((), []) frameReaderNew).map
        (fun out => out.1.2.map ReaderCall.isRow) = some [false, false, false] ∧
      (snapshotRun AvroC.spec (recording fun (_ : Unit) _ => ((), 0)) (fun _ => .ok idRowSchema) 5
          [.tuples [some frame], .done] ((), [])
          { frameReaderNew with activeSchemaList := [16384] }).map
        (fun out => out.1.2.map ReaderCall.isRow) = some [false, false, true, false] :=
  ⟨[4, 4, 128, 128, 2, 2, 2, 116, 2, 116, 6, 128, 128, 2, 2, 2, 2, 2, 2, 0],
    by decide +kernel, by decide +kernel, by decide +kernel⟩

end RowFree

end Connect

/-! ## What reaches Kafka

The Kafka client installs its callbacks in the frame reader (`init_client`); of the calls the
reader makes, only the row callbacks call `send_kafka_msg`. -/

/-- The producer's callback that a call of the reader runs; `on_table_schema` and `on_error` are
not frame events of the producer. -/
def ReaderCall.frameEvent : ReaderCall → Option FrameEvent
  | .beginTxn _ xid => some (.beginTxn xid.toNat)
  | .commitTxn _ xid => some (.commitTxn xid.toNat)
  | .insertRow _ relid keyBin newBin => some (.insertRow relid.toNat keyBin newBin)
  | .updateRow _ relid keyBin oldBin newBin => some (.updateRow relid.toNat keyBin oldBin newBin)
  | .deleteRow _ relid keyBin oldBin => some (.deleteRow relid.toNat keyBin oldBin)
  | .tableSchema .. | .error .. => none

theorem ReaderCall.isRow_frameEvent {call : ReaderCall} {ev : FrameEvent}
    (h : call.frameEvent = some ev) : ev.isRow = call.isRow := by
  cases call <;> simp only [ReaderCall.frameEvent, Option.some.injEq, reduceCtorEq] at h <;>
    subst h <;> rfl

section Kafka

variable (jsonEncodeMsg : TableMetadata → Option (List UInt8) → Option (List UInt8) →
  Int × Option (List UInt8) × Option (List UInt8))

/-- **Only a row callback gives librdkafka a message**: the step of a begin or a commit leaves
the queue of messages as it was. -/
theorem frameStep_queue_of_not_row {s s' : KafkaClient} {walPos : Nat} {ev : FrameEvent}
    {produce : Produce} (hrow : ev.isRow = false)
    (h : frameStep jsonEncodeMsg s walPos ev produce = some s') : s'.queue = s.queue := by
  unfold frameStep at h
  split at h
  · next c msg code hcb =>
    have hmsg : msg = none := by
      cases ev with
      | beginTxn xid =>
        obtain ⟨_, -, hpair⟩ := Outcome.map_eq_ret hcb
        exact (Prod.mk.inj hpair).2.symm
      | commitTxn xid =>
        obtain ⟨_, -, hpair⟩ := Outcome.map_eq_ret hcb
        exact (Prod.mk.inj hpair).2.symm
      | insertRow => cases hrow
      | updateRow => cases hrow
      | deleteRow => cases hrow
    obtain ⟨c', -, rfl⟩ := Option.map_eq_some_iff.mp h
    simp [hmsg]
  · cases h

end Kafka

end BottledWater
