import BottledWater.Ext.SchemaCache
import BottledWater.Client.FrameRoundTrip

set_option autoImplicit false

/-! # Row changes in the output plugin (`ext/logdecoder.c`, `ext/protocol_server.c`)

For each row change Postgres decodes, `output_avro_change` fills a frame of its own and writes it
to the client; the snapshot's `format_snapshot_row` does the same for an exported row. The
functions `update_frame_with_insert`, `update_frame_with_update` and `update_frame_with_delete`
first look the table up in the schema cache. When the lookup reports the table new or changed
(`1` or `2`), the table's schemas go into the frame before the row
(`update_frame_with_table_schema`), and from then on the cache counts them as sent.

A conversion that fails goes to `error_policy_handle`; under the log policy the frame is then
written without the message that failed. A frame that does not fit `try_writing`'s buffer is not
written, and under the log policy the plugin goes on. The schemas that frame carried never reach
the client: the next change of the table finds its entry unchanged and sends the row alone.

The catalog is the schema cache's parameters; a tuple is `heap_getattr` of each attribute (`none`
for null), its datums are read through `PgDatum`; `toJson` is `avro_schema_to_json` and `indkey`
the key index's column numbers (`rd_index->indkey`).
-/

namespace BottledWater

open Avro

/-! ## The plugin's steps -/

/-- What a function of the output plugin does from the schema cache and the frame: the cache and
the frame it leaves and the code it returns, the frame as far as it was filled when the code is
an error; `none` where the C code's behaviour is undefined. -/
abbrev Emit := SchemaCache → Value → Option (SchemaCache × Value × Int)

/-- `return code`. -/
def Emit.ret (code : Int) : Emit := fun cache frame => some (cache, frame, code)

/-- `check(err, call)`: `p`, then `k` unless `p` returned a nonzero code. -/
def Emit.check (p k : Emit) : Emit := fun cache frame =>
  (p cache frame).bind fun (cache, frame, code) =>
    if code = 0 then k cache frame else some (cache, frame, code)

/-- `check(err, …)` around a conversion that gives bytes: `k` with them, or the conversion's
error; `none` where the conversion is undefined. -/
def Emit.encode {α : Type} (x : Option (Except Int α)) (k : α → Emit) : Emit :=
  match x with
  | some (.ok a) => k a
  | some (.error err) => Emit.ret err
  | none => fun _ _ => none

/-- `error_policy_handle`: under the log policy a warning, after which the caller goes on; under
any other policy `elog(ERROR)`, which ends the decoding (`none`). -/
def errorPolicyHandle : ErrorPolicy → Option Unit
  | .log => some ()
  | _ => none

section Messages

variable (A : AvroC) (toJson : Schema → List UInt8)

/-- An `update_frame_with_*` function of a message, under `check`: the frame with the message,
or the writer's error. A writer that fails is taken to leave the frame as it was; avro-c may
have appended part of the message, which the model does not follow. -/
def Emit.append (m : Message) : Emit := fun cache frame =>
  match m.writer A toJson schemaForFrame frame with
  | .ok frame => some (cache, frame, 0)
  | .error err => some (cache, frame, err)

/-- `update_frame_with_table_schema` on a cache entry: its relid, key schema and row schema.
An entry without a row schema is undefined. -/
def updateFrameWithTableSchemaOf (entry : SchemaCacheEntry) : Emit :=
  match entry.rowSchema with
  | some rowSchema =>
    Emit.append A toJson (.tableSchema (UInt32.ofNat entry.relid) entry.keySchema rowSchema)
  | none => fun _ _ => none

variable (genericClass : Schema → Bool) (getNamespaceName : Nat → List UInt8)

/-- `schema_cache_lookup` at the start of each `update_frame_with_*`: a negative code is
`EINVAL`; otherwise the table's schemas, when the lookup reports a change, then `k` with the
entry. -/
def Emit.withEntry (rel : TableData) (k : SchemaCacheEntry → Emit) : Emit := fun cache frame =>
  let (changed, entry, cache) := schemaCacheLookup genericClass getNamespaceName cache rel
  if changed < 0 then some (cache, frame, einval)
  else
    match entry with
    | some entry =>
      if changed ≠ 0 then Emit.check (updateFrameWithTableSchemaOf A toJson entry) (k entry) cache frame
      else k entry cache frame
    | none => none

variable {δ : Type} (pg : PgDatum δ) (indkey : IndexData → List Nat)

/-- `extract_tuple_key`: with a key schema, the key's columns written into the entry's key value
(`tuple_to_avro_key`, with the columns of the index `table_key_index` finds) and encoded by
`try_writing`; without one, no key. A key value or key index that is missing is undefined. -/
def extractTupleKey (entry : SchemaCacheEntry) (rel : TableData) (tupdesc : List Attribute)
    (tuple : Nat → Option δ) : Option (Except Int (Option (List UInt8))) :=
  match entry.keySchema with
  | none => some (.ok none)
  | some keySchema =>
    match entry.keyValue, tableKeyIndex rel with
    | some keyValue, some index =>
      some (((A.reset.andThen (tupleToAvroKey A pg tupdesc tuple rel.tupdesc (indkey index)))
        keySchema keyValue).bind fun key => (tryWriting (A.write key)).map some)
    | _, _ => none

/-- The row's bytes: the entry's row value reset, the tuple written into it
(`tuple_to_avro_row`), and encoded by `try_writing`. Each use resets the value and writes every
field, so the value the entry keeps from its last use is not followed. -/
def encodeRow (entry : SchemaCacheEntry) (tupdesc : List Attribute) (tuple : Nat → Option δ) :
    Option (Except Int (List UInt8)) :=
  match entry.rowSchema, entry.rowValue with
  | some rowSchema, some rowValue =>
    some (((A.reset.andThen (tupleToAvroRow A pg tupdesc tuple)) rowSchema rowValue).bind
      fun row => tryWriting (A.write row))
  | _, _ => none

/-- `update_frame_with_insert`. -/
def updateFrameWithInsert (rel : TableData) (tupdesc : List Attribute)
    (newtuple : Nat → Option δ) : Emit :=
  Emit.withEntry A toJson genericClass getNamespaceName rel fun entry =>
  Emit.encode (extractTupleKey A pg indkey entry rel tupdesc newtuple) fun keyBin =>
  Emit.encode (encodeRow A pg entry tupdesc newtuple) fun newBin =>
  Emit.append A toJson (.insert (UInt32.ofNat rel.rdId) keyBin newBin)

/-- The second half of `update_frame_with_update`: the new tuple's key and row, then the messages,
from the old tuple's key and row (`NULL` without an old tuple). An update whose key bytes changed
is sent as a delete of the old key and an insert of the new one. -/
def updateFrameWithUpdateNew (entry : SchemaCacheEntry) (rel : TableData)
    (oldKeyBin oldBin : Option (List UInt8)) (newtuple : Nat → Option δ) : Emit :=
  let relid := UInt32.ofNat rel.rdId
  Emit.encode (extractTupleKey A pg indkey entry rel rel.tupdesc newtuple) fun newKeyBin =>
  Emit.encode (encodeRow A pg entry rel.tupdesc newtuple) fun newBin =>
  match oldKeyBin with
  | some oldKey =>
    if some oldKey ≠ newKeyBin then
      Emit.check (Emit.append A toJson (.delete relid (some oldKey) oldBin))
        (Emit.append A toJson (.insert relid newKeyBin newBin))
    else Emit.append A toJson (.update relid newKeyBin oldBin newBin)
  | none => Emit.append A toJson (.update relid newKeyBin oldBin newBin)

/-- `update_frame_with_update`: the old tuple's key and row when there is an old tuple, then the
new tuple's. -/
def updateFrameWithUpdate (rel : TableData) (oldtuple : Option (Nat → Option δ))
    (newtuple : Nat → Option δ) : Emit :=
  Emit.withEntry A toJson genericClass getNamespaceName rel fun entry =>
  match oldtuple with
  | some tuple =>
    Emit.encode (extractTupleKey A pg indkey entry rel rel.tupdesc tuple) fun oldKeyBin =>
    Emit.encode (encodeRow A pg entry rel.tupdesc tuple) fun oldBin =>
    updateFrameWithUpdateNew A toJson pg indkey entry rel oldKeyBin (some oldBin) newtuple
  | none => updateFrameWithUpdateNew A toJson pg indkey entry rel none none newtuple

/-- `update_frame_with_delete`. -/
def updateFrameWithDelete (rel : TableData) (oldtuple : Option (Nat → Option δ)) : Emit :=
  Emit.withEntry A toJson genericClass getNamespaceName rel fun entry =>
  match oldtuple with
  | some tuple =>
    Emit.encode (extractTupleKey A pg indkey entry rel rel.tupdesc tuple) fun keyBin =>
    Emit.encode (encodeRow A pg entry rel.tupdesc tuple) fun oldBin =>
    Emit.append A toJson (.delete (UInt32.ofNat rel.rdId) keyBin (some oldBin))
  | none => Emit.append A toJson (.delete (UInt32.ofNat rel.rdId) none none)

/-- A row change as the decoding hands it to `output_avro_change`, with the tuples it has. -/
inductive Change (δ : Type)
  | insert (newtuple : Nat → Option δ)
  | update (oldtuple : Option (Nat → Option δ)) (newtuple : Nat → Option δ)
  | delete (oldtuple : Option (Nat → Option δ))

/-- The end of `output_avro_change` and of `format_snapshot_row`: a failed conversion goes to
`error_policy_handle`, and the frame is written all the same; a frame `try_writing` does not
accept goes there too, and nothing is sent. What the client is sent (`none` for nothing) and the
cache; `none` where the plugin stops or is undefined. -/
def writeChangeFrame (policy : ErrorPolicy) (out : Option (SchemaCache × Value × Int)) :
    Option (Option (List UInt8) × SchemaCache) :=
  out.bind fun (cache, frame, err) =>
  (if err ≠ 0 then errorPolicyHandle policy else some ()).bind fun _ =>
  match writeFrame A frame with
  | .ok bytes => some (some bytes, cache)
  | .error _ => (errorPolicyHandle policy).map fun _ => (none, cache)

/-- `output_avro_change`: the change's messages in a frame of its own (`reset_frame`). -/
def outputAvroChange (policy : ErrorPolicy) (cache : SchemaCache) (rel : TableData) :
    Change δ → Option (Option (List UInt8) × SchemaCache)
  | .insert newtuple => writeChangeFrame A policy
      (updateFrameWithInsert A toJson genericClass getNamespaceName pg indkey rel rel.tupdesc
        newtuple cache (frameValue []))
  | .update oldtuple newtuple => writeChangeFrame A policy
      (updateFrameWithUpdate A toJson genericClass getNamespaceName pg indkey rel oldtuple newtuple
        cache (frameValue []))
  | .delete oldtuple => writeChangeFrame A policy
      (updateFrameWithDelete A toJson genericClass getNamespaceName pg indkey rel oldtuple cache
        (frameValue []))

/-- `format_snapshot_row`: an exported row, with the result set's descriptor, as an insert in a
frame of its own; a frame that is not written is a `NULL` row. -/
def formatSnapshotRow (policy : ErrorPolicy) (cache : SchemaCache) (rel : TableData)
    (tupdesc : List Attribute) (tuple : Nat → Option δ) :
    Option (Option (List UInt8) × SchemaCache) :=
  writeChangeFrame A policy
    (updateFrameWithInsert A toJson genericClass getNamespaceName pg indkey rel tupdesc tuple cache
      (frameValue []))

end Messages

/-! ## Transactions and the decoding session -/

section Session

variable (A : AvroC) (toJson : Schema → List UInt8)

/-- `output_avro_begin_txn`: a frame of its own with the transaction's `BeginTxn`; a conversion or
a write that fails is `elog(ERROR)`, which ends the decoding (`none`). -/
def outputAvroBeginTxn (xid : UInt32) : Option (List UInt8) :=
  ((buildFrame A toJson [.beginTxn xid]).bind (writeFrame A)).toOption

/-- `output_avro_commit_txn`: a frame of its own with the transaction's `CommitTxn` at the commit's
position. -/
def outputAvroCommitTxn (xid : UInt32) (commitLsn : UInt64) : Option (List UInt8) :=
  ((buildFrame A toJson [.commitTxn xid commitLsn]).bind (writeFrame A)).toOption

/-- A callback that logical decoding makes of the plugin: `begin_cb`, `change_cb` with the
catalog as the change finds it, the relation in its state then and the change, and
`commit_cb`. -/
inductive DecodingEvent (δ : Type)
  | begin (xid : UInt32)
  | change (getNamespaceName : Nat → List UInt8) (rel : TableData) (change : Change δ)
  | commit (xid : UInt32) (commitLsn : UInt64)

variable (genericClass : Schema → Bool) {δ : Type} (pg : PgDatum δ) (indkey : IndexData → List Nat)
  (policy : ErrorPolicy)

/-- One callback: the frame it writes to the client (`none` for none) and the cache after it;
`none` where the decoding stops. -/
def decodingStep (cache : SchemaCache) : DecodingEvent δ →
    Option (Option (List UInt8) × SchemaCache)
  | .begin xid => (outputAvroBeginTxn A toJson xid).map fun bytes => (some bytes, cache)
  | .change getNamespaceName rel ch =>
    outputAvroChange A toJson genericClass getNamespaceName pg indkey policy cache rel ch
  | .commit xid lsn => (outputAvroCommitTxn A toJson xid lsn).map fun bytes => (some bytes, cache)

/-- The callbacks of a decoding session one after the other, from the cache
`output_avro_startup` makes (`schema_cache_new`): what each sent, and the cache at the end. -/
def decodingRun (cache : SchemaCache) :
    List (DecodingEvent δ) → Option (List (Option (List UInt8)) × SchemaCache)
  | [] => some ([], cache)
  | ev :: evs => (decodingStep A toJson genericClass pg indkey policy cache ev).bind fun (out, cache) =>
    (decodingRun cache evs).map fun (outs, cache) => (out :: outs, cache)

/-- A run of callbacks is its first callback, then the rest of the run from the cache that
callback left. -/
theorem decodingRun_cons_eq_some {cache cache' : SchemaCache} {ev : DecodingEvent δ}
    {evs : List (DecodingEvent δ)} {frames : List (Option (List UInt8))}
    (h : decodingRun A toJson genericClass pg indkey policy cache (ev :: evs) =
      some (frames, cache')) :
    ∃ out cache₁ outs,
      decodingStep A toJson genericClass pg indkey policy cache ev = some (out, cache₁) ∧
      decodingRun A toJson genericClass pg indkey policy cache₁ evs = some (outs, cache') ∧
      frames = out :: outs := by
  obtain ⟨⟨out, cache₁⟩, hstep, hrest⟩ := Option.bind_eq_some_iff.mp h
  obtain ⟨⟨outs, cache₂⟩, hrun, heq⟩ := Option.map_eq_some_iff.mp hrest
  cases heq
  exact ⟨out, cache₁, outs, hstep, hrun, rfl⟩

end Session

end BottledWater
