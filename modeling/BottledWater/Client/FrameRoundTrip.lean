import BottledWater.Client.Snapshot

set_option autoImplicit false

/-! # The frame round trip (`ext/protocol_server.c`, `client/protocol_client.c`)

The output plugin appends messages to a frame (`update_frame_with_*`) and serialises it
(`write_frame`); the client's `parse_frame` decodes the bytes and calls the application back for
each message. `Message.expected` and `expectedCalls` say what the client is to see of a frame:
for each message in order, the callback with the message's own payload, except a row of a table
outside the active list, which is skipped. `parseFrame_of_expected` proves that `parse_frame`
makes exactly those calls on the bytes the server wrote, when the callbacks answer `0`.

The round trip needs messages the reader can take in. Each schema text has to parse. Each row of
an active table needs a schema entry, and its buffers have to decode entirely under that entry's
schemas, with a key only where the table's `TableSchema` message had a key schema. The reader
decodes every buffer before the callback (`read_entirely`). A buffer that does not decode goes
to `on_error`, and when the client has no `on_error`, the error ends the frame before the row's
callback.
-/

namespace BottledWater

open Avro

/-! ## What the client is to see -/

/-- Whether a buffer decodes to a value of the schema with no byte left over. -/
def decodesEntirely (A : AvroC) (schema : Schema) (buf : List UInt8) : Bool :=
  match A.read schema buf with
  | .ok (_, []) => true
  | _ => false

theorem decodesEntirely_iff (A : AvroC) (schema : Schema) (buf : List UInt8) :
    decodesEntirely A schema buf = true ↔ ∃ v, A.read schema buf = .ok (v, []) := by
  unfold decodesEntirely
  constructor
  · intro h
    split at h
    · next v hread => exact ⟨v, hread⟩
    · cases h
  · rintro ⟨v, hread⟩
    rw [hread]

/-- Whether a buffer that may be absent decodes: an absent one always does, a present one only
under a schema. -/
def decodesNullable (A : AvroC) : Option Schema → Option (List UInt8) → Bool
  | _, none => true
  | some schema, some buf => decodesEntirely A schema buf
  | none, some _ => false

section Expected

variable (A : AvroC) (toJson : Schema → List UInt8) (parseSchema : List UInt8 → Except Int Schema)
  (walPos : Nat)

/-- A row message: skipped when its table is not active, and otherwise its callback, as long as
the table has an entry under whose schemas the message's buffers decode. -/
def expectedRow (r : FrameReader) (relid : UInt32) (decodes : SchemaListEntry → Bool)
    (call : ReaderCall) : Option (List ReaderCall × FrameReader) :=
  if (relid.toNat : Int) ∉ r.activeSchemaList then some ([], r)
  else
    match schemaListLookup r relid.toNat with
    | some entry => if decodes entry then some ([call], r) else none
    | none => none

/-- **What the client is to see of a message**, and the reader after it: the callback of the
message with its own payload (a `TableSchema` message's texts with their lengths, `NULL` and `0`
for a missing key schema, and the schemas they parse to, which then are the table's entry). A
message the reader cannot take in gives `none`. -/
def Message.expected (r : FrameReader) : Message → Option (List ReaderCall × FrameReader)
  | .beginTxn xid => some ([.beginTxn walPos xid], r)
  | .commitTxn xid _ => some ([.commitTxn walPos xid], r)
  | .tableSchema relid keySchema rowSchema =>
    let keyJson := keySchema.map toJson
    let rowJson := toJson rowSchema
    match parseSchema rowJson, keyJson.mapM parseSchema with
    | .ok rs, .ok ks =>
      some ([.tableSchema walPos relid keyJson ((keyJson.map List.length).getD 0) ks rowJson
        rowJson.length rs], schemaListReplace r relid.toNat ks rs)
    | _, _ => none
  | .insert relid keyBin newBin =>
    expectedRow r relid
      (fun e => decodesNullable A e.keySchema keyBin && decodesEntirely A e.rowSchema newBin)
      (.insertRow walPos relid keyBin newBin)
  | .update relid keyBin oldBin newBin =>
    expectedRow r relid
      (fun e => decodesNullable A e.keySchema keyBin &&
        decodesNullable A (some e.rowSchema) oldBin && decodesEntirely A e.rowSchema newBin)
      (.updateRow walPos relid keyBin oldBin newBin)
  | .delete relid keyBin oldBin =>
    expectedRow r relid
      (fun e => decodesNullable A e.keySchema keyBin && decodesNullable A (some e.rowSchema) oldBin)
      (.deleteRow walPos relid keyBin oldBin)

/-- What the client is to see of messages, one after the other. -/
def expectedCalls : FrameReader → List Message → Option (List ReaderCall × FrameReader)
  | r, [] => some ([], r)
  | r, m :: ms => (m.expected A toJson parseSchema walPos r).bind fun (cs, r) =>
    (expectedCalls r ms).map fun (cs', r') => (cs ++ cs', r')

theorem expectedCalls_cons_eq_some {r r' : FrameReader} {m : Message} {ms : List Message}
    {calls : List ReaderCall} :
    expectedCalls A toJson parseSchema walPos r (m :: ms) = some (calls, r') ↔
      ∃ cs r₁ cs', m.expected A toJson parseSchema walPos r = some (cs, r₁) ∧
        expectedCalls A toJson parseSchema walPos r₁ ms = some (cs', r') ∧ calls = cs ++ cs' := by
  simp only [expectedCalls, Option.bind_eq_some_iff, Option.map_eq_some_iff, Prod.exists,
    Prod.mk.injEq]
  constructor
  · rintro ⟨cs, r₁, hm, cs', r₂, hms, rfl, rfl⟩
    exact ⟨cs, r₁, cs', hm, hms, rfl⟩
  · rintro ⟨cs, r₁, cs', hm, hms, rfl⟩
    exact ⟨cs, r₁, hm, cs', r', hms, rfl, rfl⟩

/-- A row message the client is to see: skipped, or its callback from a table entry whose
schemas decode its buffers. -/
theorem expectedRow_cases {r r' : FrameReader} {relid : UInt32}
    {decodes : SchemaListEntry → Bool} {call : ReaderCall} {cs : List ReaderCall}
    (h : expectedRow r relid decodes call = some (cs, r')) :
    ((relid.toNat : Int) ∉ r.activeSchemaList ∧ cs = [] ∧ r' = r) ∨
      ((relid.toNat : Int) ∈ r.activeSchemaList ∧ ∃ entry,
        schemaListLookup r relid.toNat = some entry ∧ decodes entry = true ∧ cs = [call] ∧
          r' = r) := by
  unfold expectedRow at h
  by_cases hactive : (relid.toNat : Int) ∈ r.activeSchemaList
  · rw [if_neg (not_not_intro hactive)] at h
    refine .inr ⟨hactive, ?_⟩
    cases hentry : schemaListLookup r relid.toNat with
    | none => simp [hentry] at h
    | some entry =>
      rw [hentry] at h
      dsimp only at h
      by_cases hdec : decodes entry = true
      · rw [if_pos hdec, Option.some.injEq, Prod.mk.injEq] at h
        exact ⟨entry, rfl, hdec, h.1.symm, h.2.symm⟩
      · rw [if_neg hdec] at h
        cases h
  · rw [if_pos hactive, Option.some.injEq, Prod.mk.injEq] at h
    exact .inl ⟨hactive, h.1.symm, h.2.symm⟩

end Expected

/-! ## The frame the server writes -/

section Server

variable {A : AvroC} (toJson : Schema → List UInt8)

theorem buildFrame_foldl_error (e : Int) (ms : List Message) :
    ms.foldl (fun (frame : Except Int Value) (m : Message) =>
      frame.bind (m.writer A toJson schemaForFrame)) (.error e) = .error e := by
  induction ms with
  | nil => rfl
  | cons m ms ih => exact ih

/-- The writers append the messages' values one after the other, by induction on the messages
with the values appended so far. -/
theorem buildFrame_foldl_ok (hA : A.Lawful) (ms : List Message) :
    ∀ (pre : List Value) {frame : Value},
      ms.foldl (fun (frame : Except Int Value) (m : Message) =>
          frame.bind (m.writer A toJson schemaForFrame)) (.ok (frameValue pre)) = .ok frame →
        ∃ vs, List.Forall₂ (fun m v => m.value toJson = .ok v) ms vs ∧
          frame = frameValue (pre ++ vs) := by
  induction ms with
  | nil =>
    intro pre frame h
    exact ⟨[], .nil, by simpa using (Except.ok.inj h).symm⟩
  | cons m ms ih =>
    intro pre frame h
    rw [List.foldl_cons, Except.bind, Message.writer_frame hA] at h
    cases hv : m.value toJson with
    | error e =>
      rw [hv] at h
      exact absurd (h.symm.trans (buildFrame_foldl_error toJson e ms)) (by simp)
    | ok v =>
      rw [hv] at h
      obtain ⟨vs, hvs, rfl⟩ := ih (pre ++ [v]) h
      exact ⟨v :: vs, .cons hv hvs, by simp⟩

/-- **A frame is the values of its messages.** -/
theorem buildFrame_ok (hA : A.Lawful) {ms : List Message} {frame : Value}
    (h : buildFrame A toJson ms = .ok frame) :
    ∃ vs, List.Forall₂ (fun m v => m.value toJson = .ok v) ms vs ∧ frame = frameValue vs := by
  have hfresh : fresh schemaForFrame = frameValue [] := rfl
  rw [buildFrame, hfresh] at h
  simpa using buildFrame_foldl_ok toJson hA ms [] h

/-- The record of a `TableSchema` message: the texts `try_writing` accepted are the schemas'
JSON texts. -/
theorem Message.value_tableSchema {relid : UInt32} {keySchema : Option Schema}
    {rowSchema : Schema} {v : Value}
    (h : (Message.tableSchema relid keySchema rowSchema).value toJson = .ok v) :
    v = .union (some (protocolMsgTableSchema, .record [.long relid.toNat,
      nullableStringValue (keySchema.map toJson), .string (toJson rowSchema)])) := by
  simp only [Message.value] at h
  cases hrow : schemaJson toJson rowSchema with
  | error e =>
    cases keySchema <;> simp [hrow, Except.bind, Except.map] at h
    split at h <;> cases h
  | ok json =>
    rw [schemaJson_eq_ok hrow] at hrow
    cases keySchema with
    | none =>
      simp only [hrow, Except.bind, Except.map, Except.ok.injEq] at h
      rw [← h]
      rfl
    | some ks =>
      cases hkey : schemaJson toJson ks with
      | error e => simp [hkey, Except.bind, Except.map] at h
      | ok keyJson =>
        rw [schemaJson_eq_ok hkey] at hkey
        simp only [hkey, hrow, Except.bind, Except.map, Except.ok.injEq] at h
        rw [← h]
        rfl

/-- Every message's value is a value of the message union. -/
theorem Message.value_conforms {m : Message} {v : Value} (h : m.value toJson = .ok v) :
    conforms messageSchema v = true := by
  cases m with
  | beginTxn xid =>
    cases h
    rfl
  | commitTxn xid lsn =>
    cases h
    rfl
  | tableSchema relid keySchema rowSchema =>
    rw [Message.value_tableSchema toJson h]
    cases keySchema <;> rfl
  | insert relid keyBin newBin =>
    cases h
    cases keyBin <;> rfl
  | update relid keyBin oldBin newBin =>
    cases h
    cases keyBin <;> cases oldBin <;> rfl
  | delete relid keyBin oldBin =>
    cases h
    cases keyBin <;> cases oldBin <;> rfl

theorem conformsItems_of_forall₂ {ms : List Message} {vs : List Value}
    (hvs : List.Forall₂ (fun m v => m.value toJson = .ok v) ms vs) :
    conformsItems messageSchema vs = true := by
  induction hvs with
  | nil => rfl
  | cons hv _ ih => simp [conformsItems, Message.value_conforms toJson hv, ih]

/-- **The client decodes the frame the server wrote**: the bytes of a frame built from messages
decode, against the frame schema, to the frame of the messages' values, with no byte left. -/
theorem read_writeFrame (hA : A.Lawful) {ms : List Message} {bytes : List UInt8}
    (hframe : (buildFrame A toJson ms).bind (writeFrame A) = .ok bytes) :
    ∃ vs, List.Forall₂ (fun m v => m.value toJson = .ok v) ms vs ∧
      A.read schemaForFrame bytes = .ok (frameValue vs, []) := by
  cases hbuild : buildFrame A toJson ms with
  | error e =>
    rw [hbuild] at hframe
    cases hframe
  | ok frame =>
    rw [hbuild] at hframe
    obtain ⟨vs, hvs, rfl⟩ := buildFrame_ok toJson hA hbuild
    -- `try_writing` passes the writer's output on unchanged
    have hwrite : A.write (frameValue vs) = .ok bytes := by
      change tryWriting (A.write (frameValue vs)) = .ok bytes at hframe
      cases hw : A.write (frameValue vs) with
      | error e =>
        rw [hw] at hframe
        cases hframe
      | ok out =>
        rw [hw, tryWriting_ok] at hframe
        split at hframe
        · rw [hframe]
        · cases hframe
    have hconf : conforms schemaForFrame (frameValue vs) = true := by
      simp [schemaForFrame, frameValue, conforms, conformsItems_of_forall₂ toJson hvs]
    have hfloat : floatFree schemaForFrame = true := by decide
    refine ⟨vs, hvs, ?_⟩
    have hread := hA.read_write [] hconf hwrite
    rwa [List.append_nil, canon_eq_self hconf hfloat] at hread

end Server

/-! ## The reader on the server's messages -/

section Reader

variable {A : AvroC} (toJson : Schema → List UInt8) {σ : Type} (app : σ → ReaderCall → σ × Int)

/-- A buffer that may be absent and decodes is passed on: `read_entirely` returns `0`. -/
theorem readNullable_of_decodes (hA : A.Lawful) {schema : Option Schema}
    {bin : Option (List UInt8)} (h : decodesNullable A schema bin = true)
    (k : Option (List UInt8) → Proc σ) (s : σ) (r : FrameReader) :
    readNullable A app (if bin.isSome then 1 else 0) (nullableBytesValue bin) schema k s r =
      k bin s r := by
  cases bin with
  | none => rfl
  | some buf =>
    cases schema with
    | none => cases h
    | some schema =>
      obtain ⟨v, hread⟩ := (decodesEntirely_iff A schema buf).mp h
      simp only [readNullable, Option.isSome_some, if_true, ne_eq, one_ne_zero,
        not_false_eq_true, nullableBytesValue, hA.getCurrentBranch_union, hA.getBytes_bytes,
        Proc.avro_ok]
      exact Proc.check_of_zero _ (readEntirely_of_read app hread s r)

/-- The callback of a message the client is to see, with the call recorded. -/
theorem Proc.callback_recording_of_ok {call : ReaderCall} (reason : ReaderError) {s : σ}
    (h : (app s call).2 = 0) (calls : List ReaderCall) (r : FrameReader) :
    Proc.callback (recording app) call reason (s, calls) r =
      some (((app s call).1, calls ++ [call]), r, 0) :=
  Proc.callback_of_ok (recording app) reason (show (recording app (s, calls) call).2 = 0 from h) r

variable (parseSchema : List UInt8 → Except Int Schema) (walPos : Nat)

/-- A row message as the server writes it: either its table is not active and it is skipped, or
its callback runs after its buffers decoded. -/
theorem processFrameInsert_of_expected (hA : A.Lawful) {r r' : FrameReader} {relid : UInt32}
    {keyBin : Option (List UInt8)} {newBin : List UInt8} {cs : List ReaderCall}
    (hm : (Message.insert relid keyBin newBin).expected A toJson parseSchema walPos r = some (cs, r'))
    (happ : ∀ s, ∀ call ∈ cs, (app s call).2 = 0) (s : σ) (calls : List ReaderCall) :
    ∃ s', processFrameInsert A (recording app) walPos
        (.record [.long relid.toNat, nullableBytesValue keyBin, .bytes newBin]) (s, calls) r =
      some ((s', calls ++ cs), r', 0) := by
  rw [processFrameInsert_record _ hA]
  rcases expectedRow_cases hm with ⟨hinactive, rfl, rfl⟩ | ⟨hactive, entry, hentry, hdec, rfl, rfl⟩
  · exact ⟨s, by rw [withActiveEntry_of_inactive _ _ _ hinactive, List.append_nil]⟩
  · simp only [Bool.and_eq_true] at hdec
    obtain ⟨v, hrow⟩ := (decodesEntirely_iff _ _ _).mp hdec.2
    rw [withActiveEntry_of_lookup _ _ _ hactive hentry, readNullable_of_decodes _ hA hdec.1,
      Proc.check_of_zero _ (readEntirely_of_read _ hrow _ _),
      Proc.callback_recording_of_ok _ _ (happ s _ (List.mem_singleton_self _))]
    exact ⟨_, rfl⟩

theorem processFrameUpdate_of_expected (hA : A.Lawful) {r r' : FrameReader} {relid : UInt32}
    {keyBin oldBin : Option (List UInt8)} {newBin : List UInt8} {cs : List ReaderCall}
    (hm : (Message.update relid keyBin oldBin newBin).expected A toJson parseSchema walPos r =
      some (cs, r'))
    (happ : ∀ s, ∀ call ∈ cs, (app s call).2 = 0) (s : σ) (calls : List ReaderCall) :
    ∃ s', processFrameUpdate A (recording app) walPos
        (.record [.long relid.toNat, nullableBytesValue keyBin, nullableBytesValue oldBin,
          .bytes newBin]) (s, calls) r =
      some ((s', calls ++ cs), r', 0) := by
  rw [processFrameUpdate_record _ hA]
  rcases expectedRow_cases hm with ⟨hinactive, rfl, rfl⟩ | ⟨hactive, entry, hentry, hdec, rfl, rfl⟩
  · exact ⟨s, by rw [withActiveEntry_of_inactive _ _ _ hinactive, List.append_nil]⟩
  · simp only [Bool.and_eq_true] at hdec
    obtain ⟨⟨hkey, hold⟩, hnew⟩ := hdec
    obtain ⟨v, hrow⟩ := (decodesEntirely_iff _ _ _).mp hnew
    rw [withActiveEntry_of_lookup _ _ _ hactive hentry, readNullable_of_decodes _ hA hkey,
      readNullable_of_decodes _ hA hold, Proc.check_of_zero _ (readEntirely_of_read _ hrow _ _),
      Proc.callback_recording_of_ok _ _ (happ s _ (List.mem_singleton_self _))]
    exact ⟨_, rfl⟩

theorem processFrameDelete_of_expected (hA : A.Lawful) {r r' : FrameReader} {relid : UInt32}
    {keyBin oldBin : Option (List UInt8)} {cs : List ReaderCall}
    (hm : (Message.delete relid keyBin oldBin).expected A toJson parseSchema walPos r =
      some (cs, r'))
    (happ : ∀ s, ∀ call ∈ cs, (app s call).2 = 0) (s : σ) (calls : List ReaderCall) :
    ∃ s', processFrameDelete A (recording app) walPos
        (.record [.long relid.toNat, nullableBytesValue keyBin, nullableBytesValue oldBin])
          (s, calls) r =
      some ((s', calls ++ cs), r', 0) := by
  rw [processFrameDelete_record _ hA]
  rcases expectedRow_cases hm with ⟨hinactive, rfl, rfl⟩ | ⟨hactive, entry, hentry, hdec, rfl, rfl⟩
  · exact ⟨s, by rw [withActiveEntry_of_inactive _ _ _ hinactive, List.append_nil]⟩
  · simp only [Bool.and_eq_true] at hdec
    rw [withActiveEntry_of_lookup _ _ _ hactive hentry, readNullable_of_decodes _ hA hdec.1,
      readNullable_of_decodes _ hA hdec.2,
      Proc.callback_recording_of_ok _ _ (happ s _ (List.mem_singleton_self _))]
    exact ⟨_, rfl⟩

/-- A `TableSchema` message whose texts parse: the callback with the texts, and the entry. -/
theorem processFrameTableSchema_of_expected (hA : A.Lawful) {r r' : FrameReader} {relid : UInt32}
    {keySchema : Option Schema} {rowSchema : Schema} {cs : List ReaderCall}
    (hm : (Message.tableSchema relid keySchema rowSchema).expected A toJson parseSchema walPos r =
      some (cs, r'))
    (happ : ∀ s, ∀ call ∈ cs, (app s call).2 = 0) (s : σ) (calls : List ReaderCall) :
    ∃ s', processFrameTableSchema A (recording app) parseSchema walPos
        (.record [.long relid.toNat, nullableStringValue (keySchema.map toJson),
          .string (toJson rowSchema)]) (s, calls) r =
      some ((s', calls ++ cs), r', 0) := by
  simp only [Message.expected] at hm
  split at hm
  · next rs ks hrow hkey =>
    rw [Option.some.injEq, Prod.mk.injEq] at hm
    obtain ⟨rfl, rfl⟩ := hm
    rw [processFrameTableSchema_of_parsed _ _ hA walPos relid hrow hkey,
      Proc.callback_recording_of_ok _ _ (happ s _ (List.mem_singleton_self _))]
    exact ⟨_, rfl⟩
  · cases hm

/-- **Each message reaches the client as it was written**: the message's branch and record, and
the message's function of the reader makes the calls the client is to see. -/
theorem processMessage_of_expected (hA : A.Lawful) {m : Message} {v : Value} {r r' : FrameReader}
    {cs : List ReaderCall} (hv : m.value toJson = .ok v)
    (hm : m.expected A toJson parseSchema walPos r = some (cs, r'))
    (happ : ∀ s, ∀ call ∈ cs, (app s call).2 = 0) (s : σ) (calls : List ReaderCall) :
    ∃ msgType recordVal, A.getDiscriminant v = .ok msgType ∧
      A.getCurrentBranch v = .ok recordVal ∧ ∃ s',
        processMessage A (recording app) parseSchema walPos msgType recordVal (s, calls) r =
          some ((s', calls ++ cs), r', 0) := by
  cases m with
  | beginTxn xid =>
    cases hv
    simp only [Message.expected, Option.some.injEq, Prod.mk.injEq] at hm
    obtain ⟨rfl, rfl⟩ := hm
    refine ⟨_, _, hA.getDiscriminant_union _ _, hA.getCurrentBranch_union _ _, ?_⟩
    rw [processMessage, if_pos rfl, processFrameBeginTxn_record _ hA,
      Proc.callback_recording_of_ok _ _ (happ s _ (List.mem_singleton_self _))]
    exact ⟨_, rfl⟩
  | commitTxn xid lsn =>
    cases hv
    simp only [Message.expected, Option.some.injEq, Prod.mk.injEq] at hm
    obtain ⟨rfl, rfl⟩ := hm
    refine ⟨_, _, hA.getDiscriminant_union _ _, hA.getCurrentBranch_union _ _, ?_⟩
    rw [processMessage, if_neg (by decide), if_pos rfl]
    rw [show ((lsn.toNat : Nat) : Int) = (lsn.toNat : Int) from rfl,
      processFrameCommitTxn_record _ hA,
      Proc.callback_recording_of_ok _ _ (happ s _ (List.mem_singleton_self _))]
    exact ⟨_, rfl⟩
  | tableSchema relid keySchema rowSchema =>
    rw [Message.value_tableSchema toJson hv]
    refine ⟨_, _, hA.getDiscriminant_union _ _, hA.getCurrentBranch_union _ _, ?_⟩
    rw [processMessage, if_neg (by decide), if_neg (by decide), if_pos rfl]
    exact processFrameTableSchema_of_expected toJson app parseSchema walPos hA hm happ s calls
  | insert relid keyBin newBin =>
    cases hv
    refine ⟨_, _, hA.getDiscriminant_union _ _, hA.getCurrentBranch_union _ _, ?_⟩
    rw [processMessage, if_neg (by decide), if_neg (by decide), if_neg (by decide), if_pos rfl]
    exact processFrameInsert_of_expected toJson app parseSchema walPos hA hm happ s calls
  | update relid keyBin oldBin newBin =>
    cases hv
    refine ⟨_, _, hA.getDiscriminant_union _ _, hA.getCurrentBranch_union _ _, ?_⟩
    rw [processMessage, if_neg (by decide), if_neg (by decide), if_neg (by decide),
      if_neg (by decide), if_pos rfl]
    exact processFrameUpdate_of_expected toJson app parseSchema walPos hA hm happ s calls
  | delete relid keyBin oldBin =>
    cases hv
    refine ⟨_, _, hA.getDiscriminant_union _ _, hA.getCurrentBranch_union _ _, ?_⟩
    rw [processMessage, if_neg (by decide), if_neg (by decide), if_neg (by decide),
      if_neg (by decide), if_neg (by decide), if_pos rfl]
    exact processFrameDelete_of_expected toJson app parseSchema walPos hA hm happ s calls

/-- The loop of `process_frame` over the messages from `pre.length` on, by induction on the
messages left; the reader and the records carry from one message to the next. -/
theorem processMessagesFrom_of_expected (hA : A.Lawful) {ms : List Message} {vs : List Value}
    (hvs : List.Forall₂ (fun m v => m.value toJson = .ok v) ms vs) :
    ∀ (pre : List Value) {r r' : FrameReader} {cs : List ReaderCall},
      expectedCalls A toJson parseSchema walPos r ms = some (cs, r') →
      (∀ s, ∀ call ∈ cs, (app s call).2 = 0) → ∀ (s : σ) (calls : List ReaderCall),
      ∃ s', processMessagesFrom A (recording app) parseSchema walPos (.array (pre ++ vs))
          pre.length vs.length (s, calls) r = some ((s', calls ++ cs), r', 0) := by
  induction hvs with
  | nil =>
    intro pre r r' cs hexp _ s calls
    simp only [expectedCalls, Option.some.injEq, Prod.mk.injEq] at hexp
    obtain ⟨rfl, rfl⟩ := hexp
    exact ⟨s, by simp [processMessagesFrom, Proc.ret]⟩
  | @cons m v ms vs hv _ ih =>
    intro pre r r' cs hexp happ s calls
    obtain ⟨cs₁, r₁, cs₂, hm, hms, rfl⟩ :=
      (expectedCalls_cons_eq_some A toJson parseSchema walPos).mp hexp
    have happ₁ : ∀ s, ∀ call ∈ cs₁, (app s call).2 = 0 := fun s call h =>
      happ s call (List.mem_append_left _ h)
    have happ₂ : ∀ s, ∀ call ∈ cs₂, (app s call).2 = 0 := fun s call h =>
      happ s call (List.mem_append_right _ h)
    obtain ⟨msgType, recordVal, hdisc, hbranch, s₁, hstep⟩ :=
      processMessage_of_expected toJson app parseSchema walPos hA hv hm happ₁ s calls
    -- the rest of the frame, with this message's value counted among those before
    obtain ⟨s₂, hrest⟩ := ih (pre ++ [v]) hms happ₂ s₁ (calls ++ cs₁)
    have hget : A.getByIndex pre.length (.array (pre ++ v :: vs)) = .ok v :=
      hA.getByIndex_array (by simp)
    refine ⟨s₂, ?_⟩
    rw [List.length_cons, processMessagesFrom, hget, Proc.avro_ok, hdisc, Proc.avro_ok,
      hbranch, Proc.avro_ok, Proc.check_of_zero _ hstep]
    simpa [List.append_assoc] using hrest

/-- **The frame round trip.** Build a frame from any messages and serialise it as the server
does. When the client is to see the messages (their schema texts parse, and each row of an active
table has an entry under whose schemas its buffers decode) and the callbacks it is to see answer
`0`, `parse_frame` calls the application with exactly those calls, in the messages' order, and
leaves the reader with the entries the `TableSchema` messages installed. -/
theorem parseFrame_of_expected (hA : A.Lawful) {ms : List Message} {bytes : List UInt8} {r r' : FrameReader}
    {cs : List ReaderCall} (hframe : (buildFrame A toJson ms).bind (writeFrame A) = .ok bytes)
    (hexp : expectedCalls A toJson parseSchema walPos r ms = some (cs, r'))
    (happ : ∀ s, ∀ call ∈ cs, (app s call).2 = 0) (s : σ) (calls : List ReaderCall) :
    ∃ s', parseFrame A (recording app) parseSchema walPos bytes (s, calls) r =
      some ((s', calls ++ cs), r', 0) := by
  obtain ⟨vs, hvs, hread⟩ := read_writeFrame toJson hA hframe
  have hlen : vs.length = ([] : List Value).length + vs.length := by simp
  obtain ⟨s', hmsgs⟩ :=
    processMessagesFrom_of_expected toJson app parseSchema walPos hA hvs [] hexp happ s calls
  refine ⟨s', ?_⟩
  simp only [parseFrame, hread, processFrame, frameValue,
    hA.getByIndex_record List.getElem?_cons_zero, Proc.avro_ok, hA.getSize_array]
  simpa using hmsgs

/-- The one-row table of `snapshot_row_skipped`, this time in the active list and streamed: its
frame reaches the client as the table's schemas, then the insert with its key and its row. -/
theorem keyed_row_round_trip :
    ∃ s', parseFrame AvroC.spec (recording fun (_ : Unit) _ => ((), 0)) (fun _ => .ok idRowSchema) 5
        [4, 4, 128, 128, 2, 2, 2, 116, 2, 116, 6, 128, 128, 2, 2, 2, 2, 2, 2, 0] ((), [])
        { frameReaderNew with activeSchemaList := [16384] } =
      some ((s', [] ++ [.tableSchema 5 16384 (some (bytesOf "t")) 1 (some idRowSchema)
          (bytesOf "t") 1 idRowSchema, .insertRow 5 16384 (some [2]) [2]]),
        schemaListReplace { frameReaderNew with activeSchemaList := [16384] } (16384 : UInt32).toNat
          (some idRowSchema) idRowSchema, 0) := by
  have hframe : (buildFrame AvroC.spec (fun _ => bytesOf "t")
      [.tableSchema 16384 (some idRowSchema) idRowSchema, .insert 16384 (some [2]) [2]]).bind
        (writeFrame AvroC.spec) =
          .ok [4, 4, 128, 128, 2, 2, 2, 116, 2, 116, 6, 128, 128, 2, 2, 2, 2, 2, 2, 0] := by
    decide +kernel
  refine parseFrame_of_expected _ _ _ 5 AvroC.spec_lawful hframe ?_ ?_ () []
  · rfl
  · intro _ _ _
    rfl

end Reader

/-! ## A row whose buffer does not decode -/

/-- A client whose callbacks all succeed and that sets no `on_error`: `frame_reader_handle` then
returns the error code itself. -/
def noErrorHandler : Unit → ReaderCall → Unit × Int
  | _, .error err _ => ((), err)
  | _, _ => ((), 0)

/-- **A row the server wrote can be dropped.** Table `1` is sent with its schemas and, in the same
frame, an insert whose new row is the row `id = 1` followed by a stray byte. The table is active,
and its `TableSchema` message is processed before the insert. `read_entirely` finds the trailing
byte and hands it to `frame_reader_handle`, whose error ends the frame: the client sees the table
schema and the error, and `on_insert_row` is never called. -/
theorem undecodable_row_dropped :
    ∃ frame, (buildFrame AvroC.spec (fun _ => bytesOf "t")
        [.tableSchema 1 none idRowSchema, .insert 1 none [2, 0]]).bind (writeFrame AvroC.spec) =
          .ok frame ∧
      (parseFrame AvroC.spec (recording noErrorHandler) (fun _ => .ok idRowSchema) 0 frame ((), [])
          { frameReaderNew with activeSchemaList := [1] }).map (fun out => out.1.2) =
        some [.tableSchema 0 1 none 0 none (bytesOf "t") 1 idRowSchema,
          .error einval .trailingBytes] :=
  ⟨[4, 4, 2, 0, 2, 116, 6, 2, 0, 4, 2, 0, 0], by decide +kernel, by rfl⟩

end BottledWater
