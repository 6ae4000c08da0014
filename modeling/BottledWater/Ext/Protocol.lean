import BottledWater.Ext.Oid2Avro
import BottledWater.Lib.AvroGeneric

set_option autoImplicit false

/-! # The wire protocol, server side (`ext/protocol.c`, `ext/protocol_server.c`, `ext/io_util.c`)

The output plugin sends the client one frame for each call Postgres makes to it: a record whose
only field is an array of messages, each a union of the six message records of
`schema_for_frame`. The `update_frame_with_*` functions append one message to the frame value,
through the generic value interface; `write_frame` serialises the frame with the Avro binary
encoding through `try_writing`, which gives up when the output does not fit
`MAX_BUFFER_LENGTH` bytes.

A schema is sent as its JSON text, which `avro_schema_to_json` writes (`toJson`, a parameter).
-/

namespace BottledWater

open Avro

/-! ## The frame schema (`protocol.c`) -/

/-- `PROTOCOL_SCHEMA_NAMESPACE`. -/
def protocolSchemaNamespace : List UInt8 := bytesOf "com.martinkl.bottledwater.protocol"

/-- The message types, `PROTOCOL_MSG_*`: the branches of the message union. -/
def protocolMsgBeginTxn : Nat := 0
def protocolMsgCommitTxn : Nat := 1
def protocolMsgTableSchema : Nat := 2
def protocolMsgInsert : Nat := 3
def protocolMsgUpdate : Nat := 4
def protocolMsgDelete : Nat := 5

/-- `nullable_schema`, the same union as the one `schema_for_oid` makes. -/
def nullableSchema (valueSchema : Schema) : Schema := nullable valueSchema

/-- A record of the protocol namespace. -/
def protocolRecord (name : String) (fields : List (String × Schema)) : Schema :=
  .record (bytesOf name) (some protocolSchemaNamespace) (fields.map fun (n, s) => (bytesOf n, s))

/-- `schema_for_begin_txn`. -/
def schemaForBeginTxn : Schema := protocolRecord "BeginTxn" [("xid", .long)]

/-- `schema_for_commit_txn`. -/
def schemaForCommitTxn : Schema := protocolRecord "CommitTxn" [("xid", .long), ("lsn", .long)]

/-- `schema_for_table_schema`. -/
def schemaForTableSchema : Schema :=
  protocolRecord "TableSchema"
    [("relid", .long), ("keySchema", nullableSchema .string), ("rowSchema", .string)]

/-- `schema_for_insert`. -/
def schemaForInsert : Schema :=
  protocolRecord "Insert" [("relid", .long), ("key", nullableSchema .bytes), ("newRow", .bytes)]

/-- `schema_for_update`. -/
def schemaForUpdate : Schema :=
  protocolRecord "Update"
    [("relid", .long), ("key", nullableSchema .bytes), ("oldRow", nullableSchema .bytes),
      ("newRow", .bytes)]

/-- `schema_for_delete`. -/
def schemaForDelete : Schema :=
  protocolRecord "Delete"
    [("relid", .long), ("key", nullableSchema .bytes), ("oldRow", nullableSchema .bytes)]

/-- The union of the message records, in the order of the `PROTOCOL_MSG_*` numbers. -/
def messageSchema : Schema :=
  .union [schemaForBeginTxn, schemaForCommitTxn, schemaForTableSchema, schemaForInsert,
    schemaForUpdate, schemaForDelete]

/-- `schema_for_frame`. -/
def schemaForFrame : Schema :=
  .record (bytesOf "Frame") (some protocolSchemaNamespace) [(bytesOf "msg", .array messageSchema)]

/-! ## Serialising (`io_util.c`) -/

/-- `INIT_BUFFER_LENGTH`, `MAX_BUFFER_LENGTH` and `VARHDRSZ`. -/
def initBufferLength : Nat := 16384
def maxBufferLength : Nat := 1048576
def varhdrsz : Nat := 4

/-- The loop of `try_writing` from a buffer of `size` bytes: the output and the `NUL` after it
must fit after the header, else the buffer grows fourfold, as long as it stays within
`MAX_BUFFER_LENGTH`. -/
def tryWritingFrom (out : List UInt8) : Nat → Nat → Except Int (List UInt8)
  | 0, _ => .error Binary.enospc
  | fuel + 1, size =>
    if size ≤ maxBufferLength then
      if out.length + 1 ≤ size - varhdrsz then .ok out else tryWritingFrom out fuel (size * 4)
    else .error Binary.enospc

/-- `try_writing`: what the callback writes, in a buffer of at most `MAX_BUFFER_LENGTH` bytes.
Four sizes are tried, `INIT_BUFFER_LENGTH` times `1`, `4`, `16` and `64`. -/
def tryWriting (out : Except Int (List UInt8)) : Except Int (List UInt8) :=
  out.bind fun out => tryWritingFrom out 4 initBufferLength

/-- What `try_writing` accepts: an output that fits the largest buffer with its `NUL`. -/
theorem tryWriting_ok (out : List UInt8) :
    tryWriting (.ok out) =
      if out.length + 1 ≤ maxBufferLength - varhdrsz then .ok out else .error Binary.enospc := by
  simp only [tryWriting, Except.bind, tryWritingFrom, initBufferLength, maxBufferLength,
    varhdrsz]
  -- the four sizes, and whether the output fits each
  norm_num
  split_ifs <;> first | rfl | omega

/-! ## Messages (`protocol_server.c`) -/

open Avro.Writer

section Writers

variable (A : AvroC)

/-- The branch of a nullable union: `set_branch(…, 1, …)` and the bytes, or
`set_branch(…, 0, NULL)` when there are none. -/
def setNullableBytes : Option (List UInt8) → Writer
  | some b => A.branch 1 (A.setBytes b)
  | none => A.branch 0 skip

/-- A message appended to the frame: `get_by_index(frame, 0)`, `append`, and `set_branch` of its
type, then `fill` into the message record. -/
def appendMessage (msgType : Nat) (fill : Writer) : Writer :=
  A.field 0 (A.append (A.branch msgType fill))

/-- `update_frame_with_begin_txn`. -/
def updateFrameWithBeginTxn (xid : UInt32) : Writer :=
  appendMessage A protocolMsgBeginTxn (A.field 0 (A.setLong xid.toNat))

/-- `update_frame_with_commit_txn`. -/
def updateFrameWithCommitTxn (xid : UInt32) (commitLsn : UInt64) : Writer :=
  appendMessage A protocolMsgCommitTxn
    ((A.field 0 (A.setLong xid.toNat)).andThen (A.field 1 (A.setLong commitLsn.toNat)))

/-- `update_frame_with_table_schema`: the relid, the key schema's JSON text in the union's
second branch or the null branch, and the row schema's JSON text. Each text comes from
`try_writing` with `write_schema_json`, and is set with one byte more than its length: the `NUL`
that `try_writing` writes after it. -/
def updateFrameWithTableSchema (toJson : Schema → List UInt8) (relid : UInt32)
    (keySchema : Option Schema) (rowSchema : Schema) : Writer :=
  appendMessage A protocolMsgTableSchema
    ((A.field 0 (A.setLong relid.toNat)).andThen
      (((match keySchema with
        | some ks => withResult (tryWriting (.ok (toJson ks))) fun json =>
            A.field 1 (A.branch 1 (A.setStringLen json (json.length + 1)))
        | none => A.field 1 (A.branch 0 skip))).andThen
      (withResult (tryWriting (.ok (toJson rowSchema))) fun json =>
        A.field 2 (A.setStringLen json (json.length + 1)))))

/-- `update_frame_with_insert_raw`. -/
def updateFrameWithInsertRaw (relid : UInt32) (keyBin : Option (List UInt8))
    (newBin : List UInt8) : Writer :=
  appendMessage A protocolMsgInsert
    ((A.field 0 (A.setLong relid.toNat)).andThen
      ((A.field 2 (A.setBytes newBin)).andThen (A.field 1 (setNullableBytes A keyBin))))

/-- `update_frame_with_update_raw`. -/
def updateFrameWithUpdateRaw (relid : UInt32) (keyBin oldBin : Option (List UInt8))
    (newBin : List UInt8) : Writer :=
  appendMessage A protocolMsgUpdate
    ((A.field 0 (A.setLong relid.toNat)).andThen
      ((A.field 3 (A.setBytes newBin)).andThen
        ((A.field 1 (setNullableBytes A keyBin)).andThen
          (A.field 2 (setNullableBytes A oldBin)))))

/-- `update_frame_with_delete_raw`. -/
def updateFrameWithDeleteRaw (relid : UInt32) (keyBin oldBin : Option (List UInt8)) : Writer :=
  appendMessage A protocolMsgDelete
    ((A.field 0 (A.setLong relid.toNat)).andThen
      ((A.field 1 (setNullableBytes A keyBin)).andThen (A.field 2 (setNullableBytes A oldBin))))

/-- A message as the server builds it: a call of one of the `update_frame_with_*` functions and
its arguments. -/
inductive Message
  | beginTxn (xid : UInt32)
  | commitTxn (xid : UInt32) (commitLsn : UInt64)
  | tableSchema (relid : UInt32) (keySchema : Option Schema) (rowSchema : Schema)
  | insert (relid : UInt32) (keyBin : Option (List UInt8)) (newBin : List UInt8)
  | update (relid : UInt32) (keyBin oldBin : Option (List UInt8)) (newBin : List UInt8)
  | delete (relid : UInt32) (keyBin oldBin : Option (List UInt8))

/-- The function that appends a message. -/
def Message.writer (toJson : Schema → List UInt8) : Message → Writer
  | .beginTxn xid => updateFrameWithBeginTxn A xid
  | .commitTxn xid lsn => updateFrameWithCommitTxn A xid lsn
  | .tableSchema relid keySchema rowSchema =>
    updateFrameWithTableSchema A toJson relid keySchema rowSchema
  | .insert relid keyBin newBin => updateFrameWithInsertRaw A relid keyBin newBin
  | .update relid keyBin oldBin newBin => updateFrameWithUpdateRaw A relid keyBin oldBin newBin
  | .delete relid keyBin oldBin => updateFrameWithDeleteRaw A relid keyBin oldBin

/-- The frame of a sequence of messages: appended one after the other to the frame that
`reset_frame` leaves, which has no messages. -/
def buildFrame (toJson : Schema → List UInt8) (ms : List Message) : Except Int Value :=
  ms.foldl (fun frame m => frame.bind (m.writer A toJson schemaForFrame))
    (.ok (fresh schemaForFrame))

/-- `write_frame`: the bytes of the frame, through `try_writing` with `write_avro_binary`. -/
def writeFrame (frame : Value) : Except Int (List UInt8) :=
  tryWriting (A.write frame)

end Writers

/-! ## What the writers append -/

/-- A frame value with the given messages. -/
def frameValue (messages : List Value) : Value := .record [.array messages]

/-- A nullable buffer as its union holds it. -/
def nullableBytesValue : Option (List UInt8) → Value
  | some b => .union (some (1, .bytes b))
  | none => .union (some (0, .null))

variable {A : AvroC}

theorem getDiscriminant_nullableBytesValue (hA : A.Lawful) (bin : Option (List UInt8)) :
    A.getDiscriminant (nullableBytesValue bin) = .ok (if bin.isSome then 1 else 0) := by
  cases bin <;> simp [nullableBytesValue, hA.getDiscriminant_union]

/-- The JSON text of a schema, once `try_writing` has accepted it. -/
def schemaJson (toJson : Schema → List UInt8) (schema : Schema) : Except Int (List UInt8) :=
  tryWriting (.ok (toJson schema))

/-- A text that `try_writing` accepted is the text as written. -/
theorem schemaJson_eq_ok {toJson : Schema → List UInt8} {schema : Schema} {json : List UInt8}
    (h : schemaJson toJson schema = .ok json) : json = toJson schema := by
  rw [schemaJson, tryWriting_ok] at h
  split at h
  · exact (Except.ok.inj h).symm
  · cases h

/-- The message a `Message` appends: the branch of its type, and its record with the fields at
the positions of `schema_for_frame`. A `TableSchema` message fails when a schema's JSON text does
not fit `try_writing`'s buffer. -/
def Message.value (toJson : Schema → List UInt8) : Message → Except Int Value
  | .beginTxn xid => .ok (.union (some (protocolMsgBeginTxn, .record [.long xid.toNat])))
  | .commitTxn xid lsn =>
    .ok (.union (some (protocolMsgCommitTxn, .record [.long xid.toNat, .long lsn.toNat])))
  | .tableSchema relid keySchema rowSchema =>
    let keyValue : Except Int Value := match keySchema with
      | some ks => (schemaJson toJson ks).map fun json => .union (some (1, .string json))
      | none => .ok (.union (some (0, .null)))
    keyValue.bind fun keyValue => (schemaJson toJson rowSchema).map fun json =>
      .union (some (protocolMsgTableSchema, .record [.long relid.toNat, keyValue, .string json]))
  | .insert relid keyBin newBin =>
    .ok (.union (some (protocolMsgInsert,
      .record [.long relid.toNat, nullableBytesValue keyBin, .bytes newBin])))
  | .update relid keyBin oldBin newBin =>
    .ok (.union (some (protocolMsgUpdate,
      .record [.long relid.toNat, nullableBytesValue keyBin, nullableBytesValue oldBin,
        .bytes newBin])))
  | .delete relid keyBin oldBin =>
    .ok (.union (some (protocolMsgDelete,
      .record [.long relid.toNat, nullableBytesValue keyBin, nullableBytesValue oldBin])))

@[simp] theorem fresh_nullableSchema (s : Schema) : fresh (nullableSchema s) = .union none := by
  simp [nullableSchema, nullable]

theorem setNullableBytes_eq (hA : A.Lawful) (b : Option (List UInt8)) :
    setNullableBytes A b (nullableSchema .bytes) (.union none) = .ok (nullableBytesValue b) := by
  cases b with
  | some b =>
    rw [setNullableBytes, nullableSchema, nullable, hA.branch_union_none _ rfl, hA.setBytes_bytes]
    rfl
  | none =>
    rw [setNullableBytes, nullableSchema, nullable, hA.branch_union_none _ rfl]
    rfl

/-- Appending a message to a frame: the message's record is filled from a fresh one, and the
frame gets it in its branch. -/
theorem appendMessage_frame (hA : A.Lawful) {msgType : Nat} {b : Schema} (fill : Writer)
    (hb : [schemaForBeginTxn, schemaForCommitTxn, schemaForTableSchema, schemaForInsert,
      schemaForUpdate, schemaForDelete][msgType]? = some b) (messages : List Value) :
    appendMessage A msgType fill schemaForFrame (frameValue messages) =
      (fill b (fresh b)).map fun v => frameValue (messages ++ [.union (some (msgType, v))]) := by
  rw [appendMessage, schemaForFrame, frameValue,
    hA.field_record _ (List.getElem?_cons_zero) (List.getElem?_cons_zero), hA.append_array,
    messageSchema, fresh_union, hA.branch_union_none _ hb]
  cases fill b (fresh b) <;> rfl

/-- **Each writer appends its message**: on a frame, the function of a message appends the
message's value, or fails as the value does. -/
theorem Message.writer_frame (hA : A.Lawful) (toJson : Schema → List UInt8) (m : Message)
    (messages : List Value) :
    m.writer A toJson schemaForFrame (frameValue messages) =
      (m.value toJson).map fun v => frameValue (messages ++ [v]) := by
  -- each message record is filled field by field, from a fresh one
  cases m with
  | beginTxn xid =>
    rw [Message.writer, updateFrameWithBeginTxn, appendMessage_frame hA _ rfl]
    simp [schemaForBeginTxn, protocolRecord, Message.value, hA.field_record_of_lt, hA.setLong_long,
      Except.map]
  | commitTxn xid lsn =>
    rw [Message.writer, updateFrameWithCommitTxn, appendMessage_frame hA _ rfl]
    simp [schemaForCommitTxn, protocolRecord, Message.value, andThen, hA.field_record_of_lt,
      hA.setLong_long, Except.bind, Except.map]
  | tableSchema relid keySchema rowSchema =>
    simp only [Message.writer]
    unfold updateFrameWithTableSchema
    rw [appendMessage_frame hA _ rfl]
    -- the texts are set with their `NUL`, which `set_string_len` leaves out again
    cases keySchema with
    | some ks =>
      simp only [Message.value, schemaJson]
      cases tryWriting (.ok (toJson ks)) <;> cases tryWriting (.ok (toJson rowSchema)) <;>
        simp [andThen, withResult, hA.field_record_of_lt, hA.branch_union_none_of_lt,
          hA.setStringLen_string, hA.setLong_long, schemaForTableSchema, protocolRecord, nullableSchema,
          nullable, fresh, Except.bind, Except.map]
    | none =>
      simp only [Message.value, schemaJson]
      cases tryWriting (.ok (toJson rowSchema)) <;>
        simp [andThen, withResult, hA.field_record_of_lt, hA.branch_union_none_of_lt,
          hA.setStringLen_string, hA.setLong_long, schemaForTableSchema, protocolRecord, nullableSchema,
          nullable, fresh, Except.bind, Except.map]
  | insert relid keyBin newBin =>
    rw [Message.writer, updateFrameWithInsertRaw, appendMessage_frame hA _ rfl]
    simp [schemaForInsert, protocolRecord, Message.value, andThen, hA.field_record_of_lt,
      hA.setLong_long, hA.setBytes_bytes, setNullableBytes_eq hA, Except.bind, Except.map]
  | update relid keyBin oldBin newBin =>
    rw [Message.writer, updateFrameWithUpdateRaw, appendMessage_frame hA _ rfl]
    simp [schemaForUpdate, protocolRecord, Message.value, andThen, hA.field_record_of_lt,
      hA.setLong_long, hA.setBytes_bytes, setNullableBytes_eq hA, Except.bind, Except.map]
  | delete relid keyBin oldBin =>
    rw [Message.writer, updateFrameWithDeleteRaw, appendMessage_frame hA _ rfl]
    simp [schemaForDelete, protocolRecord, Message.value, andThen, hA.field_record_of_lt,
      hA.setLong_long, setNullableBytes_eq hA, Except.bind, Except.map]

end BottledWater
