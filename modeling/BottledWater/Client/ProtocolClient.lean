import BottledWater.Ext.Protocol
import BottledWater.Lib.KeyedList

set_option autoImplicit false

/-! # The frame reader (`client/protocol_client.c`)

The client reads each frame the output plugin sends with `parse_frame`: it decodes the frame
against the frame schema (`read_entirely`), and for each message calls the application back
(`process_frame`). A `TableSchema` message installs the key and row schemas of a table in the
reader's schema list; a row message is decoded against them before its callback runs, and a
row of a table that is not in the reader's active list is skipped.

The application is a state `σ` and one function `app` that answers each call of the reader:
the six callbacks and `on_error`, which `frame_reader_handle` calls with the error code and the
reason. Every `check`, `check_handle` and `check_avro` ends the function with the code that
came back when it is nonzero; `frame_reader_handle` returns what `on_error` answers, and a
function that calls it returns that answer, so an `on_error` that answers `0` makes the error
look like success to the caller.

JSON schema texts are parsed by `avro_schema_from_json_length` (`parseSchema`, a parameter).
Where the C code runs into undefined behaviour, the model gives `none`: a frame whose bytes do
not decode but whose error `on_error` answers with `0` is then processed from a value the reader
only partly wrote, and a row message with a key for a table whose `TableSchema` message had no
key schema is decoded into a key value that was never made.
-/

namespace BottledWater

open Avro

/-- `schema_list_entry`: a table's schemas as its last `TableSchema` message gave them. -/
structure SchemaListEntry where
  relid : UInt32
  keySchema : Option Schema
  rowSchema : Schema

/-- What processing frames reads and changes in `frame_reader`: the schema list, and the active
list that `update_repl_table_entry` fills from `tbl_mapps`. -/
structure FrameReader where
  schemas : List SchemaListEntry
  activeSchemaList : List Int

/-- `frame_reader_new`: no schemas, and an empty active list. -/
def frameReaderNew : FrameReader := { schemas := [], activeSchemaList := [] }

/-- The kinds of messages, for the texts of the reader's errors. -/
inductive MessageKind
  | beginTxn
  | commitTxn
  | tableSchema
  | insert
  | update
  | delete
  deriving DecidableEq, Repr

/-- Why the reader calls `frame_reader_handle`, with what its message prints:
`"Avro error: %s"`, `"Unexpected trailing bytes at the end of buffer"`,
`"Received <kind> for unknown relid %"`, `"error in <kind> callback for <relid or xid> %"`,
`"Unknown message type %d"`. -/
inductive ReaderError
  | avro
  | trailingBytes
  | unknownRelid (kind : MessageKind) (relid : Int)
  | callback (kind : MessageKind) (id : Int)
  | unknownMessageType (msgType : Int)
  deriving DecidableEq, Repr

/-- A call of the reader into the application, with the arguments the application reads: the
WAL position of the frame, the xid or relid as the callback's `uint32_t` or `Oid` parameter,
the schema texts with their lengths and the parsed schemas, and the row buffers, absent where
the C code passes `NULL`. The decoded Avro values the reader also passes are left out. -/
inductive ReaderCall
  | beginTxn (walPos : Nat) (xid : UInt32)
  | commitTxn (walPos : Nat) (xid : UInt32)
  | tableSchema (walPos : Nat) (relid : UInt32) (keySchemaJson : Option (List UInt8))
      (keySchemaLen : Nat) (keySchema : Option Schema) (rowSchemaJson : List UInt8)
      (rowSchemaLen : Nat) (rowSchema : Schema)
  | insertRow (walPos : Nat) (relid : UInt32) (keyBin : Option (List UInt8))
      (newBin : List UInt8)
  | updateRow (walPos : Nat) (relid : UInt32) (keyBin oldBin : Option (List UInt8))
      (newBin : List UInt8)
  | deleteRow (walPos : Nat) (relid : UInt32) (keyBin oldBin : Option (List UInt8))
  | error (err : Int) (reason : ReaderError)

/-- `schema_list_lookup`: the first entry whose `Oid` equals the relid. -/
def schemaListLookup (reader : FrameReader) (relid : Int) : Option SchemaListEntry :=
  reader.schemas.find? fun entry => (entry.relid.toNat : Int) == relid

/-- `schema_list_replace` and the fields `process_frame_table_schema` sets: the entry of the
relid, or a new one at the end, now holds the row schema and the key schema. -/
def schemaListReplace (reader : FrameReader) (relid : Int) (keySchema : Option Schema)
    (rowSchema : Schema) : FrameReader :=
  let entry : SchemaListEntry := { relid := UInt32.ofInt relid, keySchema, rowSchema }
  match reader.schemas.findIdx? fun e => (e.relid.toNat : Int) == relid with
  | some i => { reader with schemas := reader.schemas.set i entry }
  | none => { reader with schemas := reader.schemas ++ [entry] }

/-- The `(uint32_t)` or `Oid` cast of a relid or xid the server wrote as a long. -/
@[simp] theorem ofInt_toNat (x : UInt32) : UInt32.ofInt (x.toNat : Int) = x := by
  have hlt := x.toNat_lt
  rw [UInt32.ofInt, Int.emod_eq_of_lt (by omega) (by omega), Int.toNat_natCast,
    UInt32.ofNat_toNat]

/-! ### The schema list as a map from relids -/

/-- `schema_list_replace` writes the schema list as a keyed list, keyed by the relid. -/
theorem schemaListReplace_eq (r : FrameReader) (relid : Int) (keySchema : Option Schema)
    (rowSchema : Schema) :
    schemaListReplace r relid keySchema rowSchema =
      { r with
        schemas := KeyedList.replace (fun e => (e.relid.toNat : Int) == relid)
          ({ relid := UInt32.ofInt relid, keySchema, rowSchema } : SchemaListEntry) r.schemas } := by
  unfold schemaListReplace KeyedList.replace
  cases r.schemas.findIdx? fun e => (e.relid.toNat : Int) == relid <;> rfl

@[simp] theorem activeSchemaList_schemaListReplace (r : FrameReader) (relid : Int)
    (keySchema : Option Schema) (rowSchema : Schema) :
    (schemaListReplace r relid keySchema rowSchema).activeSchemaList = r.activeSchemaList := by
  rw [schemaListReplace_eq]

/-- **The schema list is a map from relids**: after `schema_list_replace` of a relid, a lookup
of that relid finds the new entry, and a lookup of any other finds what it found before. -/
theorem schemaListLookup_replace (r : FrameReader) (relid : UInt32) (keySchema : Option Schema)
    (rowSchema : Schema) (relid' : Int) :
    schemaListLookup (schemaListReplace r relid.toNat keySchema rowSchema) relid' =
      if relid' = relid.toNat then some { relid, keySchema, rowSchema }
      else schemaListLookup r relid' := by
  rw [schemaListReplace_eq, schemaListLookup, schemaListLookup]
  split
  · next h =>
    subst h
    rw [KeyedList.find?_replace_self (by simp), ofInt_toNat]
  · next h =>
    refine KeyedList.find?_replace_of_disjoint (fun e he => ?_) (by simpa using Ne.symm h) _
    simp only [beq_iff_eq] at he
    simpa [he] using h

/-- A second `schema_list_replace` of a relid overwrites the first. -/
theorem schemaListReplace_replace (r : FrameReader) (relid : UInt32)
    (keySchema keySchema' : Option Schema) (rowSchema rowSchema' : Schema) :
    schemaListReplace (schemaListReplace r relid.toNat keySchema rowSchema) relid.toNat
        keySchema' rowSchema' = schemaListReplace r relid.toNat keySchema' rowSchema' := by
  simp only [schemaListReplace_eq]
  rw [KeyedList.replace_replace (by simp)]

/-- The schema list has at most one entry per relid. -/
def SchemaListUnique (r : FrameReader) : Prop :=
  (r.schemas.map fun e => (e.relid.toNat : Int)).Nodup

/-- `schema_list_replace` of a relid in the range of `Oid` keeps one entry per relid. -/
theorem schemaListUnique_replace {r : FrameReader} (hr : SchemaListUnique r) (relid : UInt32)
    (keySchema : Option Schema) (rowSchema : Schema) :
    SchemaListUnique (schemaListReplace r relid.toNat keySchema rowSchema) := by
  rw [SchemaListUnique, schemaListReplace_eq]
  exact KeyedList.nodup_map_replace _ (fun e => by simp) hr

/-- A relid outside the range of `Oid` matches no entry, and is stored cast to `Oid`: two
replacements of the relid `-1` leave two entries for the `Oid` `4294967295`. -/
theorem negative_relid_duplicates :
    ((schemaListReplace (schemaListReplace frameReaderNew (-1) none .null)
      (-1) none .null).schemas.map fun e => e.relid) = [4294967295, 4294967295] := by
  decide

section Reader

variable (A : AvroC) {σ : Type} (app : σ → ReaderCall → σ × Int)

/-- What a function of the reader does from a state of the application and the reader: the
states it leaves and the code it returns; `none` where its behaviour is undefined. -/
abbrev Proc (σ : Type) := σ → FrameReader → Option (σ × FrameReader × Int)

/-- `return code`. -/
def Proc.ret (code : Int) : Proc σ := fun s r => some (s, r, code)

/-- `return frame_reader_handle(reader, err, …)`: `on_error`'s answer is the code. -/
def Proc.handle (err : Int) (reason : ReaderError) : Proc σ := fun s r =>
  let (s, code) := app s (.error err reason)
  some (s, r, code)

/-- `check_avro(err, reader, call)` around a getter: `k` with what it got, or the return of
`frame_reader_handle` with the getter's error. -/
def Proc.avro {α : Type} (x : Except Int α) (k : α → Proc σ) : Proc σ :=
  match x with
  | .ok a => k a
  | .error err => Proc.handle app err .avro

/-- `check(err, call)`: `p`, then `k` unless `p` returned a nonzero code. -/
def Proc.check (p k : Proc σ) : Proc σ := fun s r =>
  (p s r).bind fun (s, r, code) => if code = 0 then k s r else some (s, r, code)

/-- `check_handle(err, reader, callback, …)`, the last statement of a message's function: the
callback's nonzero code goes to `frame_reader_handle`. -/
def Proc.callback (call : ReaderCall) (reason : ReaderError) : Proc σ := fun s r =>
  let (s, code) := app s call
  if code = 0 then some (s, r, 0) else Proc.handle app code reason s r

/-- `read_entirely` of a buffer against a schema: the value must decode and leave no byte. -/
def readEntirely (schema : Schema) (buf : List UInt8) : Proc σ :=
  match A.read schema buf with
  | .error err => Proc.handle app err .avro
  | .ok (_, []) => Proc.ret 0
  | .ok (_, _ :: _) => Proc.handle app einval .trailingBytes

/-- A nullable buffer of a row message (the key, or the old row): when the union's discriminant
is nonzero, the bytes in its branch, read against `schema`; then `k` with the buffer, or with
none. A buffer with no schema to read it into is undefined. -/
def readNullable (present : Int) (val : Value) (schema : Option Schema)
    (k : Option (List UInt8) → Proc σ) : Proc σ :=
  if present ≠ 0 then
    Proc.avro app (A.getCurrentBranch val) fun branchVal =>
    Proc.avro app (A.getBytes branchVal) fun bin =>
    match schema with
    | some schema => Proc.check (readEntirely A app schema bin) (k (some bin))
    | none => fun _ _ => none
  else k none

/-- `CHECK_ACTIVE_SCHEMA` and `schema_list_lookup` at the start of a row message: a row of a
table that is not in the active list is skipped with `0`, and one without a schema entry is an
error; otherwise `k` with the entry. -/
def withActiveEntry (kind : MessageKind) (relid : Int) (k : SchemaListEntry → Proc σ) :
    Proc σ := fun s r =>
  if relid ∉ r.activeSchemaList then some (s, r, 0)
  else
    match schemaListLookup r relid with
    | none => Proc.handle app einval (.unknownRelid kind relid) s r
    | some entry => k entry s r

/-- `process_frame_begin_txn`. -/
def processFrameBeginTxn (walPos : Nat) (record : Value) : Proc σ :=
  Proc.avro app (A.getByIndex 0 record) fun xidVal =>
  Proc.avro app (A.getLong xidVal) fun xid =>
  Proc.callback app (.beginTxn walPos (UInt32.ofInt xid)) (.callback .beginTxn xid)

/-- `process_frame_commit_txn`: the commit's LSN in the message is not read. -/
def processFrameCommitTxn (walPos : Nat) (record : Value) : Proc σ :=
  Proc.avro app (A.getByIndex 0 record) fun xidVal =>
  Proc.avro app (A.getLong xidVal) fun xid =>
  Proc.callback app (.commitTxn walPos (UInt32.ofInt xid)) (.callback .commitTxn xid)

variable (parseSchema : List UInt8 → Except Int Schema)

/-- `process_frame_table_schema`. The entry is replaced as soon as the row schema has parsed;
the key schema is parsed after that, so an entry whose key schema fails to parse has none. The
lengths passed on are one less than the sizes `avro_value_get_string` reports; with no key
schema the key size stays at its initial `1`. -/
def processFrameTableSchema (walPos : Nat) (record : Value) : Proc σ :=
  Proc.avro app (A.getByIndex 0 record) fun relidVal =>
  Proc.avro app (A.getByIndex 1 record) fun keySchemaVal =>
  Proc.avro app (A.getByIndex 2 record) fun rowSchemaVal =>
  Proc.avro app (A.getLong relidVal) fun relid =>
  Proc.avro app (A.getDiscriminant keySchemaVal) fun keySchemaPresent =>
  Proc.avro app (A.getString rowSchemaVal) fun (rowSchemaJson, rowSchemaLen) =>
  Proc.avro app (parseSchema (rowSchemaJson.take (rowSchemaLen - 1))) fun rowSchema =>
  let finish (keySchemaJson : Option (List UInt8)) (keySchemaLen : Nat)
      (keySchema : Option Schema) : Proc σ :=
    Proc.callback app
      (.tableSchema walPos (UInt32.ofInt relid) keySchemaJson (keySchemaLen - 1) keySchema
        rowSchemaJson (rowSchemaLen - 1) rowSchema)
      (.callback .tableSchema relid)
  fun s r =>
  let r := schemaListReplace r relid none rowSchema
  (if keySchemaPresent ≠ 0 then
    Proc.avro app (A.getCurrentBranch keySchemaVal) fun branchVal =>
    Proc.avro app (A.getString branchVal) fun (keySchemaJson, keySchemaLen) =>
    Proc.avro app (parseSchema (keySchemaJson.take (keySchemaLen - 1))) fun keySchema =>
    fun s r => finish (some keySchemaJson) keySchemaLen (some keySchema) s
      (schemaListReplace r relid (some keySchema) rowSchema)
  else finish none 1 none) s r

/-- `process_frame_insert`. -/
def processFrameInsert (walPos : Nat) (record : Value) : Proc σ :=
  Proc.avro app (A.getByIndex 0 record) fun relidVal =>
  Proc.avro app (A.getByIndex 1 record) fun keyVal =>
  Proc.avro app (A.getByIndex 2 record) fun newVal =>
  Proc.avro app (A.getLong relidVal) fun relid =>
  Proc.avro app (A.getDiscriminant keyVal) fun keyPresent =>
  Proc.avro app (A.getBytes newVal) fun newBin =>
  withActiveEntry app .insert relid fun entry =>
  readNullable A app keyPresent keyVal entry.keySchema fun keyBin =>
  Proc.check (readEntirely A app entry.rowSchema newBin)
    (Proc.callback app (.insertRow walPos (UInt32.ofInt relid) keyBin newBin)
      (.callback .insert relid))

/-- `process_frame_update`. -/
def processFrameUpdate (walPos : Nat) (record : Value) : Proc σ :=
  Proc.avro app (A.getByIndex 0 record) fun relidVal =>
  Proc.avro app (A.getByIndex 1 record) fun keyVal =>
  Proc.avro app (A.getByIndex 2 record) fun oldVal =>
  Proc.avro app (A.getByIndex 3 record) fun newVal =>
  Proc.avro app (A.getLong relidVal) fun relid =>
  Proc.avro app (A.getDiscriminant keyVal) fun keyPresent =>
  Proc.avro app (A.getDiscriminant oldVal) fun oldPresent =>
  Proc.avro app (A.getBytes newVal) fun newBin =>
  withActiveEntry app .update relid fun entry =>
  readNullable A app keyPresent keyVal entry.keySchema fun keyBin =>
  readNullable A app oldPresent oldVal (some entry.rowSchema) fun oldBin =>
  Proc.check (readEntirely A app entry.rowSchema newBin)
    (Proc.callback app (.updateRow walPos (UInt32.ofInt relid) keyBin oldBin newBin)
      (.callback .update relid))

/-- `process_frame_delete`. -/
def processFrameDelete (walPos : Nat) (record : Value) : Proc σ :=
  Proc.avro app (A.getByIndex 0 record) fun relidVal =>
  Proc.avro app (A.getByIndex 1 record) fun keyVal =>
  Proc.avro app (A.getByIndex 2 record) fun oldVal =>
  Proc.avro app (A.getLong relidVal) fun relid =>
  Proc.avro app (A.getDiscriminant keyVal) fun keyPresent =>
  Proc.avro app (A.getDiscriminant oldVal) fun oldPresent =>
  withActiveEntry app .delete relid fun entry =>
  readNullable A app keyPresent keyVal entry.keySchema fun keyBin =>
  readNullable A app oldPresent oldVal (some entry.rowSchema) fun oldBin =>
  Proc.callback app (.deleteRow walPos (UInt32.ofInt relid) keyBin oldBin)
    (.callback .delete relid)

/-- The `switch` of `process_frame` on the message type. -/
def processMessage (walPos : Nat) (msgType : Int) (record : Value) : Proc σ :=
  if msgType = protocolMsgBeginTxn then processFrameBeginTxn A app walPos record
  else if msgType = protocolMsgCommitTxn then processFrameCommitTxn A app walPos record
  else if msgType = protocolMsgTableSchema then
    processFrameTableSchema A app parseSchema walPos record
  else if msgType = protocolMsgInsert then processFrameInsert A app walPos record
  else if msgType = protocolMsgUpdate then processFrameUpdate A app walPos record
  else if msgType = protocolMsgDelete then processFrameDelete A app walPos record
  else Proc.handle app einval (.unknownMessageType msgType)

/-- The loop of `process_frame` from message `i`, with `n` messages left. -/
def processMessagesFrom (walPos : Nat) (msgVal : Value) (i : Nat) : Nat → Proc σ
  | 0 => Proc.ret 0
  | n + 1 =>
    Proc.avro app (A.getByIndex i msgVal) fun unionVal =>
    Proc.avro app (A.getDiscriminant unionVal) fun msgType =>
    Proc.avro app (A.getCurrentBranch unionVal) fun recordVal =>
    Proc.check (processMessage A app parseSchema walPos msgType recordVal)
      (processMessagesFrom walPos msgVal (i + 1) n)

/-- `process_frame`. -/
def processFrame (walPos : Nat) (frame : Value) : Proc σ :=
  Proc.avro app (A.getByIndex 0 frame) fun msgVal =>
  Proc.avro app (A.getSize msgVal) fun numMessages =>
  processMessagesFrom A app parseSchema walPos msgVal 0 numMessages

/-- `parse_frame`: `read_entirely` of the frame, then `process_frame`. -/
def parseFrame (walPos : Nat) (buf : List UInt8) : Proc σ :=
  match A.read schemaForFrame buf with
  | .error err => fun s r =>
    let (s, code) := app s (.error err .avro)
    if code = 0 then none else some (s, r, code)
  | .ok (frame, []) => processFrame A app parseSchema walPos frame
  | .ok (frame, _ :: _) =>
    Proc.check (Proc.handle app einval .trailingBytes) (processFrame A app parseSchema walPos frame)

/-! ### How the reader's steps go -/

variable {A}

@[simp] theorem Proc.avro_ok {α : Type} (a : α) (k : α → Proc σ) :
    Proc.avro app (.ok a) k = k a := rfl

@[simp] theorem Proc.avro_error {α : Type} (err : Int) (k : α → Proc σ) :
    Proc.avro app (.error err) k = Proc.handle app err .avro := rfl

/-- A step that returned `0` lets the next one run. -/
theorem Proc.check_of_zero {p : Proc σ} (k : Proc σ) {s s' : σ} {r r' : FrameReader}
    (h : p s r = some (s', r', 0)) : Proc.check p k s r = k s' r' := by
  simp [Proc.check, h]

/-- A step that returned another code ends the function with it. -/
theorem Proc.check_of_ne_zero {p : Proc σ} (k : Proc σ) {s s' : σ} {r r' : FrameReader}
    {code : Int} (h : p s r = some (s', r', code)) (hcode : code ≠ 0) :
    Proc.check p k s r = some (s', r', code) := by
  simp [Proc.check, h, hcode]

/-- `read_entirely` of a buffer that decodes to a value and no more returns `0`. -/
theorem readEntirely_of_read {schema : Schema} {buf : List UInt8} {v : Value}
    (h : A.read schema buf = .ok (v, [])) (s : σ) (r : FrameReader) :
    readEntirely A app schema buf s r = some (s, r, 0) := by
  simp [readEntirely, h, Proc.ret]

/-- `read_entirely` of a buffer that does not decode to a value and no more hands an error to
`on_error` and returns its answer. -/
theorem readEntirely_of_not_read {schema : Schema} {buf : List UInt8}
    (h : ∀ v, A.read schema buf ≠ .ok (v, [])) (s : σ) (r : FrameReader) :
    ∃ err reason, readEntirely A app schema buf s r = Proc.handle app err reason s r := by
  unfold readEntirely
  cases hread : A.read schema buf with
  | error err => exact ⟨err, .avro, rfl⟩
  | ok result =>
    obtain ⟨v, rest⟩ := result
    cases rest with
    | nil => exact absurd hread (h v)
    | cons b bs => exact ⟨einval, .trailingBytes, rfl⟩

/-- A callback that answers `0` ends its message with `0`. -/
theorem Proc.callback_of_ok {call : ReaderCall} (reason : ReaderError) {s : σ}
    (h : (app s call).2 = 0) (r : FrameReader) :
    Proc.callback app call reason s r = some ((app s call).1, r, 0) := by
  unfold Proc.callback
  rcases hcall : app s call with ⟨s', code⟩
  rw [hcall] at h
  simp only at h
  simp [h]

/-- A row of a table outside the active list is skipped. -/
theorem withActiveEntry_of_inactive (kind : MessageKind) {relid : Int}
    (k : SchemaListEntry → Proc σ) {r : FrameReader} (h : relid ∉ r.activeSchemaList) (s : σ) :
    withActiveEntry app kind relid k s r = some (s, r, 0) := by
  simp [withActiveEntry, h]

/-- A row of an active table goes on with the table's entry. -/
theorem withActiveEntry_of_lookup (kind : MessageKind) {relid : Int}
    (k : SchemaListEntry → Proc σ) {r : FrameReader} {entry : SchemaListEntry}
    (h : relid ∈ r.activeSchemaList) (hentry : schemaListLookup r relid = some entry) (s : σ) :
    withActiveEntry app kind relid k s r = k entry s r := by
  simp [withActiveEntry, h, hentry]

/-! ### The records the server writes

On the records `update_frame_with_*` append, every getter of a message's function succeeds:
what is left is the active-list check, the decoding of the buffers and the callback. -/

theorem processFrameBeginTxn_record (hA : A.Lawful) (walPos : Nat) (xid : UInt32) :
    processFrameBeginTxn A app walPos (.record [.long xid.toNat]) =
      Proc.callback app (.beginTxn walPos xid) (.callback .beginTxn xid.toNat) := by
  simp only [processFrameBeginTxn, hA.getByIndex_record_of_lt, List.length_cons, List.length_nil,
    Nat.reduceAdd, Nat.reduceLT, List.getD_cons_zero, Proc.avro_ok, hA.getLong_long, ofInt_toNat]

/-- The commit's LSN is in the record but not read. -/
theorem processFrameCommitTxn_record (hA : A.Lawful) (walPos : Nat) (xid : UInt32) (lsn : Int) :
    processFrameCommitTxn A app walPos (.record [.long xid.toNat, .long lsn]) =
      Proc.callback app (.commitTxn walPos xid) (.callback .commitTxn xid.toNat) := by
  simp only [processFrameCommitTxn, hA.getByIndex_record_of_lt, List.length_cons, List.length_nil,
    Nat.reduceAdd, Nat.reduceLT, List.getD_cons_zero, Proc.avro_ok, hA.getLong_long, ofInt_toNat]

theorem processFrameInsert_record (hA : A.Lawful) (walPos : Nat) (relid : UInt32)
    (keyBin : Option (List UInt8)) (newBin : List UInt8) :
    processFrameInsert A app walPos
        (.record [.long relid.toNat, nullableBytesValue keyBin, .bytes newBin]) =
      withActiveEntry app .insert relid.toNat fun entry =>
      readNullable A app (if keyBin.isSome then 1 else 0) (nullableBytesValue keyBin)
        entry.keySchema fun keyBin =>
      Proc.check (readEntirely A app entry.rowSchema newBin)
        (Proc.callback app (.insertRow walPos relid keyBin newBin)
          (.callback .insert relid.toNat)) := by
  simp only [processFrameInsert, hA.getByIndex_record_of_lt, List.length_cons, List.length_nil,
    Nat.reduceAdd, Nat.reduceLT,
    List.getD_cons_zero, List.getD_cons_succ, Proc.avro_ok, hA.getLong_long, hA.getBytes_bytes,
    getDiscriminant_nullableBytesValue hA, ofInt_toNat]

theorem processFrameUpdate_record (hA : A.Lawful) (walPos : Nat) (relid : UInt32)
    (keyBin oldBin : Option (List UInt8)) (newBin : List UInt8) :
    processFrameUpdate A app walPos
        (.record [.long relid.toNat, nullableBytesValue keyBin, nullableBytesValue oldBin,
          .bytes newBin]) =
      withActiveEntry app .update relid.toNat fun entry =>
      readNullable A app (if keyBin.isSome then 1 else 0) (nullableBytesValue keyBin)
        entry.keySchema fun keyBin =>
      readNullable A app (if oldBin.isSome then 1 else 0) (nullableBytesValue oldBin)
        (some entry.rowSchema) fun oldBin =>
      Proc.check (readEntirely A app entry.rowSchema newBin)
        (Proc.callback app (.updateRow walPos relid keyBin oldBin newBin)
          (.callback .update relid.toNat)) := by
  simp only [processFrameUpdate, hA.getByIndex_record_of_lt, List.length_cons, List.length_nil,
    Nat.reduceAdd, Nat.reduceLT,
    List.getD_cons_zero, List.getD_cons_succ, Proc.avro_ok, hA.getLong_long, hA.getBytes_bytes,
    getDiscriminant_nullableBytesValue hA, ofInt_toNat]

theorem processFrameDelete_record (hA : A.Lawful) (walPos : Nat) (relid : UInt32)
    (keyBin oldBin : Option (List UInt8)) :
    processFrameDelete A app walPos
        (.record [.long relid.toNat, nullableBytesValue keyBin, nullableBytesValue oldBin]) =
      withActiveEntry app .delete relid.toNat fun entry =>
      readNullable A app (if keyBin.isSome then 1 else 0) (nullableBytesValue keyBin)
        entry.keySchema fun keyBin =>
      readNullable A app (if oldBin.isSome then 1 else 0) (nullableBytesValue oldBin)
        (some entry.rowSchema) fun oldBin =>
      Proc.callback app (.deleteRow walPos relid keyBin oldBin)
        (.callback .delete relid.toNat) := by
  simp only [processFrameDelete, hA.getByIndex_record_of_lt, List.length_cons, List.length_nil,
    Nat.reduceAdd, Nat.reduceLT,
    List.getD_cons_zero, List.getD_cons_succ, Proc.avro_ok, hA.getLong_long,
    getDiscriminant_nullableBytesValue hA, ofInt_toNat]

/-! ### `TableSchema` messages

`process_frame_table_schema` replaces the entry of the relid as soon as the row schema has
parsed, and only then reads and parses the key schema: a key schema that fails leaves the entry
with the new row schema and no key schema, and a callback that fails leaves the new entry in
place. -/

/-- A nullable schema text as the union of a `TableSchema` record holds it. -/
def nullableStringValue : Option (List UInt8) → Value
  | some json => .union (some (1, .string json))
  | none => .union (some (0, .null))

/-- `process_frame_table_schema` on the record the server writes: the row schema's text is parsed,
the entry is replaced with no key schema, and a key schema's text, when there is one, is parsed
after that. -/
theorem processFrameTableSchema_record (hA : A.Lawful) (walPos : Nat) (relid : UInt32)
    (keyJson : Option (List UInt8)) (rowJson : List UInt8) :
    processFrameTableSchema A app parseSchema walPos
        (.record [.long relid.toNat, nullableStringValue keyJson, .string rowJson]) =
      Proc.avro app (parseSchema rowJson) fun rowSchema s r =>
      match keyJson with
      | some keyJson =>
        Proc.avro app (parseSchema keyJson) (fun keySchema s r =>
          Proc.callback app
            (.tableSchema walPos relid (some keyJson) keyJson.length (some keySchema) rowJson
              rowJson.length rowSchema)
            (.callback .tableSchema relid.toNat) s
            (schemaListReplace r relid.toNat (some keySchema) rowSchema))
          s (schemaListReplace r relid.toNat none rowSchema)
      | none =>
        Proc.callback app (.tableSchema walPos relid none 0 none rowJson rowJson.length rowSchema)
          (.callback .tableSchema relid.toNat) s
            (schemaListReplace r relid.toNat none rowSchema) := by
  cases keyJson <;>
    simp only [processFrameTableSchema, hA.getByIndex_record_of_lt, List.length_cons,
      List.length_nil, Nat.reduceAdd, Nat.reduceLT, List.getD_cons_zero, List.getD_cons_succ,
        Proc.avro_ok, hA.getLong_long,
      hA.getString_string, hA.getDiscriminant_union, hA.getCurrentBranch_union, ofInt_toNat,
      nullableStringValue, Nat.cast_zero, Nat.cast_one, ne_eq, one_ne_zero, not_false_eq_true,
      not_true_eq_false, ↓reduceIte, Nat.add_sub_cancel, Nat.sub_self, List.take_length]

/-- A row schema that does not parse ends the call before the schema list is touched. -/
theorem processFrameTableSchema_of_row_error (hA : A.Lawful) (walPos : Nat) (relid : UInt32)
    (keyJson : Option (List UInt8)) {rowJson : List UInt8} {err : Int}
    (hrow : parseSchema rowJson = .error err) :
    processFrameTableSchema A app parseSchema walPos
        (.record [.long relid.toNat, nullableStringValue keyJson, .string rowJson]) =
      Proc.handle app err .avro := by
  rw [processFrameTableSchema_record _ _ hA, hrow, Proc.avro_error]

/-- **A key schema that does not parse still replaces the entry**: the call returns what
`on_error` answers, and the relid's entry now holds the new row schema and no key schema. -/
theorem processFrameTableSchema_of_key_error (hA : A.Lawful) (walPos : Nat) (relid : UInt32)
    {keyJson rowJson : List UInt8} {rowSchema : Schema} {err : Int}
    (hrow : parseSchema rowJson = .ok rowSchema) (hkey : parseSchema keyJson = .error err)
    (s : σ) (r : FrameReader) :
    processFrameTableSchema A app parseSchema walPos
        (.record [.long relid.toNat, nullableStringValue (some keyJson), .string rowJson]) s r =
      Proc.handle app err .avro s (schemaListReplace r relid.toNat none rowSchema) := by
  rw [processFrameTableSchema_record _ _ hA, hrow, Proc.avro_ok]
  simp only [hkey, Proc.avro_error]

/-- Both schemas parsed: the entry holds them, and the callback is called with the texts and
their lengths; its answer does not undo the replacement. -/
theorem processFrameTableSchema_of_parsed (hA : A.Lawful) (walPos : Nat) (relid : UInt32)
    {keyJson : Option (List UInt8)} {rowJson : List UInt8} {keySchema : Option Schema}
    {rowSchema : Schema} (hrow : parseSchema rowJson = .ok rowSchema)
    (hkey : keyJson.mapM parseSchema = .ok keySchema) (s : σ) (r : FrameReader) :
    processFrameTableSchema A app parseSchema walPos
        (.record [.long relid.toNat, nullableStringValue keyJson, .string rowJson]) s r =
      Proc.callback app
        (.tableSchema walPos relid keyJson ((keyJson.map List.length).getD 0) keySchema rowJson
          rowJson.length rowSchema)
        (.callback .tableSchema relid.toNat) s
        (schemaListReplace r relid.toNat keySchema rowSchema) := by
  rw [processFrameTableSchema_record _ _ hA, hrow, Proc.avro_ok]
  cases keyJson with
  | none =>
    obtain rfl : keySchema = none := (Except.ok.inj hkey).symm
    rfl
  | some keyJson =>
    -- the key text parsed to the key schema
    obtain ⟨keySchema', hparse, rfl⟩ :
        ∃ ks, parseSchema keyJson = .ok ks ∧ keySchema = some ks := by
      rw [Option.mapM_some] at hkey
      cases hks : parseSchema keyJson with
      | error err =>
        rw [hks] at hkey
        cases hkey
      | ok ks =>
        rw [hks] at hkey
        exact ⟨ks, rfl, (Except.ok.inj hkey).symm⟩
    simp only [hparse, Proc.avro_ok, schemaListReplace_replace, Option.map_some, Option.getD_some]

/-! ### What a `TableSchema` message leaves of the schema list -/

/-- The entry a `TableSchema` record leaves for its relid, when its row schema parses: the key
schema is the parsed one, or none when its text does not parse. -/
def tableSchemaEntry (relid : UInt32) (keyJson : Option (List UInt8)) (rowJson : List UInt8) :
    Option SchemaListEntry :=
  match parseSchema rowJson with
  | .error _ => none
  | .ok rowSchema =>
    some { relid, keySchema := keyJson.bind fun json => (parseSchema json).toOption, rowSchema }

/-- The reader `process_frame_table_schema` leaves, whatever it returns. -/
def tableSchemaReader (r : FrameReader) (relid : UInt32) (keyJson : Option (List UInt8))
    (rowJson : List UInt8) : FrameReader :=
  match tableSchemaEntry parseSchema relid keyJson rowJson with
  | none => r
  | some entry => schemaListReplace r relid.toNat entry.keySchema entry.rowSchema

/-- A callback leaves the reader as it was, whatever it answers. -/
theorem Proc.callback_eq (call : ReaderCall) (reason : ReaderError) (s : σ) (r : FrameReader) :
    ∃ s' code, Proc.callback app call reason s r = some (s', r, code) := by
  unfold Proc.callback
  cases hcall : app s call with
  | mk s' code =>
    by_cases hcode : code = 0
    · exact ⟨s', 0, by simp [hcode]⟩
    · exact ⟨(app s' (.error code reason)).1, (app s' (.error code reason)).2,
        by simp [hcode, Proc.handle]⟩

/-- **What a `TableSchema` message does to the schema list**, in every outcome of its checks and
of the callback: the call returns, and the relid's entry is replaced as soon as the row schema
parses, with the key schema only when that parses too. -/
theorem processFrameTableSchema_eq_some (hA : A.Lawful) (walPos : Nat) (relid : UInt32)
    (keyJson : Option (List UInt8)) (rowJson : List UInt8) (s : σ) (r : FrameReader) :
    ∃ s' code, processFrameTableSchema A app parseSchema walPos
      (.record [.long relid.toNat, nullableStringValue keyJson, .string rowJson]) s r =
        some (s', tableSchemaReader parseSchema r relid keyJson rowJson, code) := by
  rw [processFrameTableSchema_record _ _ hA]
  unfold tableSchemaReader tableSchemaEntry
  cases hrow : parseSchema rowJson with
  | error err => exact ⟨_, _, rfl⟩
  | ok rowSchema =>
    rw [Proc.avro_ok]
    cases keyJson with
    | none => exact Proc.callback_eq app _ _ s _
    | some keyJson =>
      cases hkey : parseSchema keyJson with
      | error err =>
        simp only [hkey, Proc.avro_error, Option.bind_some]
        exact ⟨_, _, rfl⟩
      | ok keySchema =>
        simpa [hkey, schemaListReplace_replace, Except.toOption] using Proc.callback_eq app _ _ s _

theorem processFrameTableSchema_reader (hA : A.Lawful) {walPos : Nat} {relid : UInt32}
    {keyJson : Option (List UInt8)} {rowJson : List UInt8} {s s' : σ} {r r' : FrameReader}
    {code : Int}
    (h : processFrameTableSchema A app parseSchema walPos
      (.record [.long relid.toNat, nullableStringValue keyJson, .string rowJson]) s r =
        some (s', r', code)) :
    r' = tableSchemaReader parseSchema r relid keyJson rowJson := by
  obtain ⟨s'', code', hcall⟩ := processFrameTableSchema_eq_some app parseSchema hA walPos relid
    keyJson rowJson s r
  rw [hcall, Option.some.injEq, Prod.mk.injEq, Prod.mk.injEq] at h
  exact h.2.1.symm

/-- A lookup after a `TableSchema` message: the relid finds the message's entry when its row
schema parsed, and every other lookup is unchanged. -/
theorem schemaListLookup_tableSchemaReader (r : FrameReader) (relid : UInt32)
    (keyJson : Option (List UInt8)) (rowJson : List UInt8) (relid' : Int) :
    schemaListLookup (tableSchemaReader parseSchema r relid keyJson rowJson) relid' =
      if relid' = relid.toNat then
        (tableSchemaEntry parseSchema relid keyJson rowJson).or (schemaListLookup r relid')
      else schemaListLookup r relid' := by
  unfold tableSchemaReader
  cases hentry : tableSchemaEntry parseSchema relid keyJson rowJson with
  | none => split_ifs <;> rfl
  | some entry =>
    -- the entry carries the message's relid
    have hrelid : entry.relid = relid := by
      unfold tableSchemaEntry at hentry
      split at hentry
      · cases hentry
      · cases hentry; rfl
    rw [schemaListLookup_replace]
    split_ifs <;> simp [← hrelid]

/-- A `TableSchema` message keeps one entry per relid. -/
theorem schemaListUnique_tableSchemaReader {r : FrameReader} (hr : SchemaListUnique r)
    (relid : UInt32) (keyJson : Option (List UInt8)) (rowJson : List UInt8) :
    SchemaListUnique (tableSchemaReader parseSchema r relid keyJson rowJson) := by
  unfold tableSchemaReader
  split
  · exact hr
  · exact schemaListUnique_replace hr _ _ _

variable (A) in
/-- One call of `process_frame_table_schema` on a record the server writes, from any state of
the application and whatever it returns. -/
def TableSchemaStep (r r' : FrameReader) : Prop :=
  ∃ (walPos : Nat) (relid : UInt32) (keyJson : Option (List UInt8)) (rowJson : List UInt8)
    (s s' : σ) (code : Int),
    processFrameTableSchema A app parseSchema walPos
      (.record [.long relid.toNat, nullableStringValue keyJson, .string rowJson]) s r =
        some (s', r', code)

/-- **One entry per relid along every run of `TableSchema` messages**, by induction on the run. -/
theorem schemaListUnique_run (hA : A.Lawful) {r r' : FrameReader} (hr : SchemaListUnique r)
    (hrun : Relation.ReflTransGen (TableSchemaStep A app parseSchema) r r') :
    SchemaListUnique r' := by
  induction hrun with
  | refl => exact hr
  | tail _ hstep ih =>
    obtain ⟨walPos, relid, keyJson, rowJson, s, s', code, h⟩ := hstep
    rw [processFrameTableSchema_reader app parseSchema hA h]
    exact schemaListUnique_tableSchemaReader parseSchema ih relid keyJson rowJson

end Reader

/-- A parser for the failing input below: the empty text is not a schema, and any other text is
a record named by it. -/
def textRecordParser (json : List UInt8) : Except Int Schema :=
  if json = [] then .error einval else .ok (.record json none [])

/-- **A `TableSchema` message whose key schema fails replaces the entry.** Table `1` is first
sent with the row schema `a` and no key schema; then with the row schema `b` and a key schema
whose text does not parse. Whatever the application answers, the second call hands the parse
error to `on_error`, and the lookup of table `1` finds the row schema `b`, not that of the
first message, the last one processed without error. -/
theorem key_schema_error_replaces_entry {σ : Type} (app : σ → ReaderCall → σ × Int) (s : σ) :
    ∃ s₁ r₂, ((processFrameTableSchema AvroC.spec app textRecordParser 0
        (.record [.long (1 : UInt32).toNat, nullableStringValue none, .string [97]]) s
        frameReaderNew).bind fun (s, r, _) =>
      processFrameTableSchema AvroC.spec app textRecordParser 0
        (.record [.long (1 : UInt32).toNat, nullableStringValue (some []), .string [98]]) s r) =
        some ((app s₁ (.error einval .avro)).1, r₂, (app s₁ (.error einval .avro)).2) ∧
      schemaListLookup r₂ 1 =
        some { relid := 1, keySchema := none, rowSchema := .record [98] none [] } := by
  obtain ⟨s₁, code₁, h₁⟩ := processFrameTableSchema_eq_some app textRecordParser
    AvroC.spec_lawful 0 1 none [97] s frameReaderNew
  refine ⟨s₁, schemaListReplace (tableSchemaReader textRecordParser frameReaderNew 1 none [97])
    (1 : UInt32).toNat none (.record [98] none []), ?_, ?_⟩
  · rw [h₁, Option.bind_some]
    exact processFrameTableSchema_of_key_error app textRecordParser AvroC.spec_lawful 0 1 rfl rfl
      s₁ _
  · rw [schemaListLookup_replace]
    simp

end BottledWater
