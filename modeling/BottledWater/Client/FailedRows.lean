import BottledWater.Client.ProtocolClient

set_option autoImplicit false

/-! # Rows that fail the client's checks

A row message is decoded against its table's schemas before its callback runs: the key, the old
row and the new row, each with `read_entirely`, which fails when the bytes do not decode or
leave bytes over. A failure goes to `frame_reader_handle`, and `read_entirely` returns what
`on_error` answers. The Kafka client's `on_error` is `on_client_error`, which answers through
`handle_error`: with the error code under the exit policy, with `0` under the log policy. So
under the log policy a failed check returns `0`, the `check` around `read_entirely` lets the
function go on, and the callback runs with the buffer that did not decode.
-/

namespace BottledWater

open Avro

section Policy

variable {A : AvroC} {σ : Type} (app : σ → ReaderCall → σ × Int)

variable (A) in
/-- **Under the log policy `read_entirely` always returns `0`**: whatever the buffer holds,
either it decodes, or the error goes to `on_error`, whose `0` comes back. -/
theorem readEntirely_of_log (hlog : ∀ s err reason, (app s (.error err reason)).2 = 0)
    (schema : Schema) (buf : List UInt8) (s : σ) (r : FrameReader) :
    ∃ s', readEntirely A app schema buf s r = some (s', r, 0) := by
  by_cases hread : ∃ v, A.read schema buf = .ok (v, [])
  · obtain ⟨v, hv⟩ := hread
    exact ⟨s, readEntirely_of_read app hv s r⟩
  · push Not at hread
    obtain ⟨err, reason, heq⟩ := readEntirely_of_not_read app hread s r
    refine ⟨(app s (.error err reason)).1, ?_⟩
    rw [heq, Proc.handle, ← hlog s err reason]

/-- Under the log policy the key or old row of a message, as the server writes its union, is
passed on whatever it holds; only a buffer with no schema to decode it into is undefined. -/
theorem readNullable_of_log (hA : A.Lawful)
    (hlog : ∀ s err reason, (app s (.error err reason)).2 = 0)
    (bin : Option (List UInt8)) {schema : Option Schema} (hschema : bin ≠ none → schema ≠ none)
    (s : σ) (r : FrameReader) :
    ∃ s', ∀ k : Option (List UInt8) → Proc σ,
      readNullable A app (if bin.isSome then 1 else 0) (nullableBytesValue bin) schema k s r =
        k bin s' r := by
  cases bin with
  | none => exact ⟨s, fun _ => rfl⟩
  | some b =>
    obtain ⟨sch, rfl⟩ := Option.ne_none_iff_exists'.mp (hschema (Option.some_ne_none b))
    obtain ⟨s', hs'⟩ := readEntirely_of_log A app hlog sch b s r
    refine ⟨s', fun k => ?_⟩
    -- the branch of the union holds the bytes, which are then read against the schema
    simp only [readNullable, nullableBytesValue, Option.isSome_some, if_true, ne_eq, one_ne_zero,
      not_false_eq_true, hA.getCurrentBranch_union, Proc.avro_ok, hA.getBytes_bytes]
    exact Proc.check_of_zero _ hs'

section Row

variable (hA : A.Lawful) (hlog : ∀ s err reason, (app s (.error err reason)).2 = 0)
  {r : FrameReader} {relid : UInt32} {entry : SchemaListEntry}
  (hentry : schemaListLookup r relid.toNat = some entry) {keyBin : Option (List UInt8)}
  (hkey : keyBin ≠ none → entry.keySchema ≠ none)

include hA hlog hentry hkey

/-- **A row is published whatever its buffers hold, under the log policy**: for an insert of a
table in the active list with a schema entry, as the server writes it, the insert callback runs
with the message's buffers, after any errors the checks handed to `on_error`. -/
theorem insertRow_of_log (hactive : (relid.toNat : Int) ∈ r.activeSchemaList)
    (newBin : List UInt8) (walPos : Nat) (s : σ) :
    ∃ s', processFrameInsert A app walPos
        (.record [.long relid.toNat, nullableBytesValue keyBin, .bytes newBin]) s r =
      Proc.callback app (.insertRow walPos relid keyBin newBin) (.callback .insert relid.toNat)
        s' r := by
  obtain ⟨s₁, hkeyStep⟩ := readNullable_of_log app hA hlog keyBin hkey s r
  obtain ⟨s₂, hrow⟩ := readEntirely_of_log A app hlog entry.rowSchema newBin s₁ r
  refine ⟨s₂, ?_⟩
  -- the getters of the record the server wrote all succeed
  rw [processFrameInsert_record app hA, withActiveEntry_of_lookup app _ _ hactive hentry, hkeyStep,
    Proc.check_of_zero _ hrow]

/-- Under the log policy an update is published whatever its key, old row and new row hold. -/
theorem updateRow_of_log (hactive : (relid.toNat : Int) ∈ r.activeSchemaList)
    (oldBin : Option (List UInt8)) (newBin : List UInt8) (walPos : Nat) (s : σ) :
    ∃ s', processFrameUpdate A app walPos
        (.record [.long relid.toNat, nullableBytesValue keyBin, nullableBytesValue oldBin,
          .bytes newBin]) s r =
      Proc.callback app (.updateRow walPos relid keyBin oldBin newBin)
        (.callback .update relid.toNat) s' r := by
  obtain ⟨s₁, hkeyStep⟩ := readNullable_of_log app hA hlog keyBin hkey s r
  -- the old row is read against the row schema, which is always there
  obtain ⟨s₂, holdStep⟩ := readNullable_of_log app hA hlog oldBin
    (fun _ => Option.some_ne_none entry.rowSchema) s₁ r
  obtain ⟨s₃, hrow⟩ := readEntirely_of_log A app hlog entry.rowSchema newBin s₂ r
  refine ⟨s₃, ?_⟩
  rw [processFrameUpdate_record app hA, withActiveEntry_of_lookup app _ _ hactive hentry, hkeyStep,
    holdStep, Proc.check_of_zero _ hrow]

/-- Under the log policy a delete is published whatever its key and old row hold. -/
theorem deleteRow_of_log (hactive : (relid.toNat : Int) ∈ r.activeSchemaList)
    (oldBin : Option (List UInt8)) (walPos : Nat) (s : σ) :
    ∃ s', processFrameDelete A app walPos
        (.record [.long relid.toNat, nullableBytesValue keyBin, nullableBytesValue oldBin]) s r =
      Proc.callback app (.deleteRow walPos relid keyBin oldBin) (.callback .delete relid.toNat)
        s' r := by
  obtain ⟨s₁, hkeyStep⟩ := readNullable_of_log app hA hlog keyBin hkey s r
  obtain ⟨s₂, holdStep⟩ := readNullable_of_log app hA hlog oldBin
    (fun _ => Option.some_ne_none entry.rowSchema) s₁ r
  refine ⟨s₂, ?_⟩
  rw [processFrameDelete_record app hA, withActiveEntry_of_lookup app _ _ hactive hentry, hkeyStep,
    holdStep]

end Row

/-- Under the exit policy a row whose new row does not decode is not published: the error goes
to `on_error`, whose nonzero answer ends the message, and the frame, before the callback. -/
theorem insertRow_not_called_of_exit (hA : A.Lawful)
    (hexit : ∀ s err reason, (app s (.error err reason)).2 ≠ 0)
    {r : FrameReader} {relid : UInt32} {entry : SchemaListEntry}
    (hactive : (relid.toNat : Int) ∈ r.activeSchemaList)
    (hentry : schemaListLookup r relid.toNat = some entry) {newBin : List UInt8}
    (hbad : ∀ v, A.read entry.rowSchema newBin ≠ .ok (v, [])) (walPos : Nat) (s : σ) :
    ∃ err reason, processFrameInsert A app walPos
        (.record [.long relid.toNat, nullableBytesValue none, .bytes newBin]) s r =
      some ((app s (.error err reason)).1, r, (app s (.error err reason)).2) := by
  obtain ⟨err, reason, heq⟩ := readEntirely_of_not_read app hbad s r
  refine ⟨err, reason, ?_⟩
  -- no key: the check of the new row is the first that can fail
  rw [processFrameInsert_record app hA, withActiveEntry_of_lookup app _ _ hactive hentry]
  simp only [readNullable, Option.isSome_none, Bool.false_eq_true, if_false, ne_eq,
    not_true_eq_false]
  exact Proc.check_of_ne_zero _ (heq.trans rfl) (hexit s err reason)

end Policy

/-! ## A row with a trailing byte -/

/-- An application that records every call and answers `0`: every callback succeeds, and
`on_error` answers as `on_client_error` does under the log policy. -/
def recordingApp (calls : List ReaderCall) (call : ReaderCall) : List ReaderCall × Int :=
  (calls ++ [call], 0)

/-- The row schema of a table with one `int8` column. -/
def idRowSchema : Schema := .record (bytesOf "t") none [(bytesOf "id", .long)]

/-- A reader that knows table `1`, with no key schema, and has it in its active list. -/
def idReader : FrameReader :=
  { schemas := [{ relid := 1, keySchema := none, rowSchema := idRowSchema }],
    activeSchemaList := [1] }

/-- The frame the server writes for an insert into table `1` with no key, whose new row is the
row `id = 1` followed by a stray byte. -/
theorem trailing_byte_frame (toJson : Schema → List UInt8) :
    (buildFrame AvroC.spec toJson [.insert 1 none [2, 0]]).bind (writeFrame AvroC.spec) =
      .ok [2, 6, 2, 0, 4, 2, 0, 0] := by
  have hbuild : buildFrame AvroC.spec toJson [.insert 1 none [2, 0]] =
      .ok (frameValue [.union (some (protocolMsgInsert,
        .record [.long 1, nullableBytesValue none, .bytes [2, 0]]))]) := by
    simp only [buildFrame, List.foldl_cons, List.foldl_nil, Except.bind]
    rw [show fresh schemaForFrame = frameValue [] from rfl,
      Message.writer_frame AvroC.spec_lawful]
    rfl
  -- the longs of the frame are all below 64: one byte each
  have h0 : Binary.writeLong 0 = [0] := Binary.writeLong_small (by omega) (by omega)
  have h1 : Binary.writeLong 1 = [2] := Binary.writeLong_small (by omega) (by omega)
  have h2 : Binary.writeLong 2 = [4] := Binary.writeLong_small (by omega) (by omega)
  have h3 : Binary.writeLong 3 = [6] := Binary.writeLong_small (by omega) (by omega)
  rw [hbuild]
  simp only [Except.bind, writeFrame, AvroC.spec, frameValue, nullableBytesValue,
    protocolMsgInsert, Binary.write, Binary.writeAll, Except.map, List.length_cons, List.length_nil,
      tryWriting_ok]
  norm_num [h0, h1, h2, h3, maxBufferLength, varhdrsz]

/-- **A row that fails its check is published under the log policy.** Reading the frame above,
the reader hands the trailing byte of the new row to `on_error`, and, `on_error` answering `0`,
calls `on_insert_row` with the buffer all the same. -/
theorem trailing_byte_row_published (parseSchema : List UInt8 → Except Int Schema) :
    parseFrame AvroC.spec recordingApp parseSchema 0 [2, 6, 2, 0, 4, 2, 0, 0] [] idReader =
      some ([.error einval .trailingBytes, .insertRow 0 1 none [2, 0]], idReader, 0) := by
  rfl

end BottledWater
