import BottledWater.Ext.LogDecoder

set_option autoImplicit false

/-! # What a change sends

The output plugin's steps on the frame and the cache. A step is run on the frame of the messages
appended so far (`buildFrame`), and each combinator of `Emit` appends messages to it: `SendsOnly`
says which messages a step can append and that it leaves the cache as it found it, `Appends` which
messages exactly. Past the lookup, the cache is the one the lookup left, whatever happens to the
frame (`outputAvroChange_cache`); only the lookup's entry can put a `TableSchema` into the frame
(`outputAvroChange_sends`). Under the exit policy a change that is written sent exactly the table's
schemas when the lookup reported a change and then the change's messages, its tuples encoded under
the entry's schemas (`outputAvroChange_exit`); `Change.messagesWith` says what those messages are.
-/

namespace BottledWater

open Avro

/-! ## The frame a change fills -/

section Frame

variable {A : AvroC} (toJson : Schema → List UInt8)

theorem buildFrame_append_singleton (ms : List Message) (m : Message) :
    buildFrame A toJson (ms ++ [m]) =
      (buildFrame A toJson ms).bind (m.writer A toJson schemaForFrame) := by
  simp only [buildFrame, List.foldl_append, List.foldl_cons, List.foldl_nil]

/-- Appending a message to the frame of some messages gives the frame of the messages and this
one, or the message's error with the frame as it was. -/
theorem Emit.append_of_buildFrame {ms : List Message} {frame : Value}
    (hms : buildFrame A toJson ms = .ok frame) (m : Message) (cache : SchemaCache) :
    Emit.append A toJson m cache frame =
      match buildFrame A toJson (ms ++ [m]) with
      | .ok frame' => some (cache, frame', 0)
      | .error err => some (cache, frame, err) := by
  rw [buildFrame_append_singleton, hms]
  rfl

/-- Only a schema's JSON text can fail to go into a message, when it does not fit
`try_writing`'s buffer. -/
theorem Message.value_error_eq {m : Message} {err : Int} (h : m.value toJson = .error err) :
    err = Binary.enospc := by
  have hjson : ∀ (schema : Schema) (e : Int), schemaJson toJson schema = .error e →
      e = Binary.enospc := by
    intro schema e hs
    rw [schemaJson, tryWriting_ok] at hs
    split at hs <;> cases hs
    rfl
  cases m with
  | tableSchema relid keySchema rowSchema =>
    simp only [Message.value] at h
    cases hrow : schemaJson toJson rowSchema with
    | error e =>
      cases keySchema with
      | none =>
        simp only [hrow, Except.bind, Except.map, Except.error.injEq] at h
        exact h ▸ hjson _ _ hrow
      | some ks =>
        cases hkey : schemaJson toJson ks with
        | error e' =>
          simp only [hkey, Except.map, Except.bind, Except.error.injEq] at h
          exact h ▸ hjson _ _ hkey
        | ok _ =>
          simp only [hkey, hrow, Except.map, Except.bind, Except.error.injEq] at h
          exact h ▸ hjson _ _ hrow
    | ok _ =>
      cases keySchema with
      | none => simp [hrow, Except.bind, Except.map] at h
      | some ks =>
        cases hkey : schemaJson toJson ks with
        | error e' =>
          simp only [hkey, Except.map, Except.bind, Except.error.injEq] at h
          exact h ▸ hjson _ _ hkey
        | ok _ => simp [hkey, hrow, Except.map, Except.bind] at h
  | _ => cases h

variable (A) in
/-- Run on the frame of some messages, `p` leaves the cache as it is and the frame of those
messages followed by `rows`, or by no message when `rows` is `none`: what a step sends when all
its encodings succeed. -/
def Emit.Appends (p : Emit) (rows : Option (List Message)) : Prop :=
  ∀ cache ms frame out, buildFrame A toJson ms = .ok frame → p cache frame = some out →
    out.1 = cache ∧ buildFrame A toJson (ms ++ rows.getD []) = .ok out.2.1

theorem Emit.Appends.of_eq {p : Emit} {rows rows' : Option (List Message)}
    (h : p.Appends A toJson rows) (heq : rows = rows') : p.Appends A toJson rows' :=
  heq ▸ h

/-- A message whose value can be built goes into the frame, and the step returns `0`. -/
theorem Emit.append_of_value (hA : A.Lawful) {m : Message} {v : Value} (hv : m.value toJson = .ok v)
    {ms : List Message} {frame : Value} (hms : buildFrame A toJson ms = .ok frame)
    (cache : SchemaCache) : ∃ frame', buildFrame A toJson (ms ++ [m]) = .ok frame' ∧
      Emit.append A toJson m cache frame = some (cache, frame', 0) := by
  obtain ⟨vs, -, rfl⟩ := buildFrame_ok toJson hA hms
  have happ : buildFrame A toJson (ms ++ [m]) = .ok (frameValue (vs ++ [v])) := by
    rw [buildFrame_append_singleton, hms]
    simp [Except.bind, Message.writer_frame hA, hv, Except.map]
  refine ⟨_, happ, ?_⟩
  rw [Emit.append_of_buildFrame toJson hms, happ]

theorem Emit.appends_append (hA : A.Lawful) {m : Message} {v : Value}
    (hv : m.value toJson = .ok v) : (Emit.append A toJson m).Appends A toJson (some [m]) := by
  intro cache ms frame out hms h
  obtain ⟨frame', happ, hstep⟩ := Emit.append_of_value toJson hA hv hms cache
  rw [hstep] at h
  cases h
  exact ⟨rfl, happ⟩

theorem Emit.appends_check_append (hA : A.Lawful) {m₁ m₂ : Message} {v₁ v₂ : Value}
    (hv₁ : m₁.value toJson = .ok v₁) (hv₂ : m₂.value toJson = .ok v₂) :
    (Emit.check (Emit.append A toJson m₁) (Emit.append A toJson m₂)).Appends A toJson
      (some [m₁, m₂]) := by
  intro cache ms frame out hms h
  obtain ⟨frame₁, happ₁, hstep₁⟩ := Emit.append_of_value toJson hA hv₁ hms cache
  obtain ⟨frame₂, happ₂, hstep₂⟩ := Emit.append_of_value toJson hA hv₂ happ₁ cache
  -- the first message is in, with `0`, so the check goes on to the second
  simp only [Emit.check, hstep₁, Option.bind_some, if_pos, hstep₂] at h
  cases h
  exact ⟨rfl, by simpa using happ₂⟩

theorem Emit.appends_encode {α : Type} (x : Option (Except Int α)) {k : α → Emit}
    {rows : α → Option (List Message)} (hk : ∀ a, (k a).Appends A toJson (rows a)) :
    (Emit.encode x k).Appends A toJson ((x.bind Except.toOption).bind rows) := by
  intro cache ms frame out hms h
  match x, h with
  | some (.ok a), h => exact hk a cache ms frame out hms h
  | some (.error e), h =>
    -- a failed encoding returns its error with the frame as it was
    cases h
    exact ⟨rfl, by simpa [Except.toOption] using hms⟩
  | none, h => cases h

/-- A message that fails to go into the frame fails with `ENOSPC`, never with `0`. -/
theorem buildFrame_append_error (hA : A.Lawful) {ms : List Message} {frame : Value}
    (hms : buildFrame A toJson ms = .ok frame) {m : Message} {err : Int}
    (h : buildFrame A toJson (ms ++ [m]) = .error err) : err = Binary.enospc := by
  obtain ⟨vs, -, rfl⟩ := buildFrame_ok toJson hA hms
  rw [buildFrame_append_singleton, hms] at h
  simp only [Except.bind, Message.writer_frame hA] at h
  cases hv : m.value toJson with
  | error e =>
    rw [hv] at h
    cases h
    exact Message.value_error_eq toJson hv
  | ok v =>
    rw [hv] at h
    cases h

end Frame

/-! ## Which messages a step sends -/

section Sends

variable {A : AvroC} (toJson : Schema → List UInt8)

/-- Whether a message is a `TableSchema`. -/
def Message.isTableSchema : Message → Bool
  | .tableSchema .. => true
  | _ => false

variable (A) in
/-- Run on the frame of some messages, `p` leaves the cache as it found it, and appends only
messages that satisfy `P`. -/
def Emit.SendsOnly (P : Message → Prop) (p : Emit) : Prop :=
  ∀ cache ms frame out, buildFrame A toJson ms = .ok frame → p cache frame = some out →
    out.1 = cache ∧ ∃ sent, buildFrame A toJson (ms ++ sent) = .ok out.2.1 ∧ ∀ m ∈ sent, P m

variable {P : Message → Prop}

theorem Emit.SendsOnly.mono {p : Emit} {Q : Message → Prop} (h : p.SendsOnly A toJson P)
    (hPQ : ∀ m, P m → Q m) : p.SendsOnly A toJson Q := by
  intro cache ms frame out hms hp
  obtain ⟨hcache, sent, hsent, hP⟩ := h cache ms frame out hms hp
  exact ⟨hcache, sent, hsent, fun m hm => hPQ m (hP m hm)⟩

theorem Emit.sendsOnly_ret (code : Int) : (Emit.ret code).SendsOnly A toJson P := by
  intro cache ms frame out hms h
  cases h
  exact ⟨rfl, [], by simpa using hms, by simp⟩

theorem Emit.sendsOnly_append {m : Message} (hm : P m) :
    (Emit.append A toJson m).SendsOnly A toJson P := by
  intro cache ms frame out hms h
  rw [Emit.append_of_buildFrame toJson hms] at h
  -- the message goes in, or the frame stays as it was
  cases happ : buildFrame A toJson (ms ++ [m]) with
  | ok frame' =>
    rw [happ] at h
    cases h
    exact ⟨rfl, [m], happ, by simpa using hm⟩
  | error err =>
    rw [happ] at h
    cases h
    exact ⟨rfl, [], by simpa using hms, by simp⟩

theorem Emit.sendsOnly_check {p k : Emit} (hp : p.SendsOnly A toJson P)
    (hk : k.SendsOnly A toJson P) : (Emit.check p k).SendsOnly A toJson P := by
  intro cache ms frame out hms h
  obtain ⟨⟨cache₁, frame₁, code⟩, h₁, h₂⟩ := Option.bind_eq_some_iff.mp h
  obtain ⟨rfl, sent₁, hms₁, hP₁⟩ := hp _ _ _ _ hms h₁
  dsimp only at h₂
  split at h₂
  · -- the second step appends after the first
    obtain ⟨hcache, sent₂, hms₂, hP₂⟩ := hk _ _ _ _ hms₁ h₂
    refine ⟨hcache, sent₁ ++ sent₂, by simpa using hms₂, ?_⟩
    intro m hm
    rcases List.mem_append.mp hm with hm | hm
    exacts [hP₁ m hm, hP₂ m hm]
  · cases h₂
    exact ⟨rfl, sent₁, hms₁, hP₁⟩

theorem Emit.sendsOnly_encode {α : Type} (x : Option (Except Int α)) {k : α → Emit}
    (hk : ∀ a, (k a).SendsOnly A toJson P) : (Emit.encode x k).SendsOnly A toJson P := by
  intro cache ms frame out hms h
  match x, h with
  | some (.ok a), h => exact hk a _ _ _ _ hms h
  | some (.error e), h => exact Emit.sendsOnly_ret toJson e _ _ _ _ hms h
  | none, h => cases h

variable (genericClass : Schema → Bool) (getNamespaceName : Nat → List UInt8)

/-- **Past the lookup**, a step that keeps the cache leaves the one the lookup left, and the frame
holds, besides what the step sends, only the `TableSchema` of the lookup's entry, when the lookup
reported a change. -/
theorem Emit.withEntry_sends {rel : TableData} {k : SchemaCacheEntry → Emit}
    (hk : ∀ entry, (k entry).SendsOnly A toJson P) {cache : SchemaCache} {ms : List Message}
    {frame : Value} (hms : buildFrame A toJson ms = .ok frame) {out : SchemaCache × Value × Int}
    (h : Emit.withEntry A toJson genericClass getNamespaceName rel k cache frame = some out) :
    out.1 = (schemaCacheLookup genericClass getNamespaceName cache rel).2.2 ∧
      ∃ sent, buildFrame A toJson (ms ++ sent) = .ok out.2.1 ∧ ∀ m ∈ sent, P m ∨
        ((schemaCacheLookup genericClass getNamespaceName cache rel).1 ≠ 0 ∧
          ∃ entry rowSchema,
            (schemaCacheLookup genericClass getNamespaceName cache rel).2.1 = some entry ∧
            m = .tableSchema (UInt32.ofNat entry.relid) entry.keySchema rowSchema) := by
  unfold Emit.withEntry at h
  rcases hl : schemaCacheLookup genericClass getNamespaceName cache rel with
    ⟨changed, entry, cl⟩
  rw [hl] at h
  dsimp only at h ⊢
  by_cases hneg : changed < 0
  · rw [if_pos hneg] at h
    cases h
    exact ⟨rfl, [], by simpa using hms, by simp⟩
  rw [if_neg hneg] at h
  cases entry with
  | none => cases h
  | some entry =>
    -- the step with the entry sends what satisfies `P`, and the schemas satisfy the rest
    have hk' : ∀ entry', (k entry').SendsOnly A toJson fun m => P m ∨ (changed ≠ 0 ∧
        ∃ entry'' rowSchema, some entry = some entry'' ∧
          m = .tableSchema (UInt32.ofNat entry''.relid) entry''.keySchema rowSchema) :=
      fun entry' => (hk entry').mono toJson fun m hm => .inl hm
    dsimp only at h
    by_cases h0 : changed ≠ 0
    · rw [if_pos h0] at h
      refine Emit.sendsOnly_check toJson ?_ (hk' entry) _ _ _ _ hms h
      unfold updateFrameWithTableSchemaOf
      split
      · next rowSchema _ =>
        exact Emit.sendsOnly_append toJson (.inr ⟨h0, entry, rowSchema, rfl, rfl⟩)
      · intro _ _ _ _ _ h
        cases h
    · rw [if_neg h0] at h
      exact hk' entry _ _ _ _ hms h

/-- A frame is written from what the change's step returned, with the cache it left; what is
written is that step's frame, whatever its code. -/
theorem writeChangeFrame_sent {policy : ErrorPolicy} {x : Option (SchemaCache × Value × Int)}
    {out : Option (List UInt8)} {cache' : SchemaCache}
    (h : writeChangeFrame A policy x = some (out, cache')) :
    ∃ frame code, x = some (cache', frame, code) ∧
      ∀ bytes, out = some bytes → writeFrame A frame = .ok bytes := by
  rcases x with _ | ⟨cache, frame, code⟩
  · cases h
  · simp only [writeChangeFrame, Option.bind_some] at h
    obtain ⟨_, -, h⟩ := Option.bind_eq_some_iff.mp h
    split at h
    · next bytes' hw =>
      cases h
      exact ⟨frame, code, rfl, fun bytes hb => by cases hb; exact hw⟩
    · -- a frame `try_writing` does not accept is not written
      obtain ⟨_, -, h⟩ := Option.map_eq_some_iff.mp h
      cases h
      exact ⟨frame, code, rfl, fun bytes hb => by cases hb⟩

variable {δ : Type} (pg : PgDatum δ) (indkey : IndexData → List Nat)

theorem sendsOnly_updateFrameWithUpdateNew (entry : SchemaCacheEntry) (rel : TableData)
    (oldKeyBin oldBin : Option (List UInt8)) (newtuple : Nat → Option δ) :
    (updateFrameWithUpdateNew A toJson pg indkey entry rel oldKeyBin oldBin newtuple).SendsOnly A
      toJson fun m => m.isTableSchema = false := by
  refine Emit.sendsOnly_encode toJson _ fun _ => Emit.sendsOnly_encode toJson _ fun _ => ?_
  -- the update, or the delete and the insert
  split
  · split
    · exact Emit.sendsOnly_check toJson (Emit.sendsOnly_append toJson rfl)
        (Emit.sendsOnly_append toJson rfl)
    · exact Emit.sendsOnly_append toJson rfl
  · exact Emit.sendsOnly_append toJson rfl

/-- **What any change can send.** Under any policy the cache after a change is the one its lookup
left, whether the frame was written or not; and a frame that is written holds no `TableSchema`
but that of the lookup's entry, when the lookup reported a change. -/
theorem outputAvroChange_sends {policy : ErrorPolicy} {cache : SchemaCache} {rel : TableData}
    {ch : Change δ} {out : Option (List UInt8)} {cache' : SchemaCache}
    (h : outputAvroChange A toJson genericClass getNamespaceName pg indkey policy cache rel ch =
      some (out, cache')) :
    cache' = (schemaCacheLookup genericClass getNamespaceName cache rel).2.2 ∧
      ∀ bytes, out = some bytes → ∃ ms, (buildFrame A toJson ms).bind (writeFrame A) = .ok bytes ∧
        ∀ m ∈ ms, m.isTableSchema = false ∨
          ((schemaCacheLookup genericClass getNamespaceName cache rel).1 ≠ 0 ∧
            ∃ entry rowSchema,
              (schemaCacheLookup genericClass getNamespaceName cache rel).2.1 = some entry ∧
              m = .tableSchema (UInt32.ofNat entry.relid) entry.keySchema rowSchema) := by
  -- each change's step is a lookup and a step that sends row messages only
  have hstep : ∀ {k : SchemaCacheEntry → Emit},
      (∀ entry, (k entry).SendsOnly A toJson fun m => m.isTableSchema = false) →
      writeChangeFrame A policy
        (Emit.withEntry A toJson genericClass getNamespaceName rel k cache (frameValue [])) =
        some (out, cache') →
      cache' = (schemaCacheLookup genericClass getNamespaceName cache rel).2.2 ∧
      ∀ bytes, out = some bytes → ∃ ms, (buildFrame A toJson ms).bind (writeFrame A) = .ok bytes ∧
        ∀ m ∈ ms, m.isTableSchema = false ∨
          ((schemaCacheLookup genericClass getNamespaceName cache rel).1 ≠ 0 ∧
            ∃ entry rowSchema,
              (schemaCacheLookup genericClass getNamespaceName cache rel).2.1 = some entry ∧
              m = .tableSchema (UInt32.ofNat entry.relid) entry.keySchema rowSchema) := by
    intro k hk hw
    obtain ⟨frame, code, hx, hwrite⟩ := writeChangeFrame_sent hw
    obtain ⟨hcache, sent, hsent, hP⟩ := Emit.withEntry_sends toJson genericClass getNamespaceName
      hk (show buildFrame A toJson [] = .ok (frameValue []) from rfl) hx
    rw [List.nil_append] at hsent
    exact ⟨hcache, fun bytes hb => ⟨sent, by rw [hsent]; exact hwrite bytes hb, hP⟩⟩
  cases ch with
  | insert newtuple =>
    exact hstep (fun _ => Emit.sendsOnly_encode toJson _ fun _ => Emit.sendsOnly_encode toJson _
      fun _ => Emit.sendsOnly_append toJson rfl) h
  | update oldtuple newtuple =>
    refine hstep (fun entry => ?_) h
    cases oldtuple with
    | some tuple =>
      exact Emit.sendsOnly_encode toJson _ fun _ => Emit.sendsOnly_encode toJson _ fun _ =>
        sendsOnly_updateFrameWithUpdateNew toJson pg indkey entry rel _ _ newtuple
    | none => exact sendsOnly_updateFrameWithUpdateNew toJson pg indkey entry rel _ _ newtuple
  | delete oldtuple =>
    refine hstep (fun entry => ?_) h
    cases oldtuple with
    | some tuple =>
      exact Emit.sendsOnly_encode toJson _ fun _ => Emit.sendsOnly_encode toJson _ fun _ =>
        Emit.sendsOnly_append toJson rfl
    | none => exact Emit.sendsOnly_append toJson rfl

end Sends

/-! ## The messages of a change

What a change should send once its table's key and row schemas are known: its tuples encoded
with them, in values as fresh as `avro_generic_value_new` makes them. -/

section Spec

variable (A : AvroC) {δ : Type} (pg : PgDatum δ) (indkey : IndexData → List Nat)

/-- The key bytes of a tuple under a key schema: the key index's columns written into a fresh
value of the schema (`tuple_to_avro_key`) and encoded by `try_writing`; no key without a key
schema, and `none` without a key index. -/
def keyBytesWith (keySchema : Option Schema) (rel : TableData) (tupdesc : List Attribute)
    (tuple : Nat → Option δ) : Option (Except Int (Option (List UInt8))) :=
  match keySchema with
  | none => some (.ok none)
  | some keySchema =>
    (tableKeyIndex rel).map fun index =>
      ((A.reset.andThen (tupleToAvroKey A pg tupdesc tuple rel.tupdesc (indkey index)))
        keySchema (fresh keySchema)).bind fun key => (tryWriting (A.write key)).map some

/-- The row bytes of a tuple under a row schema (`tuple_to_avro_row`, then `try_writing`). -/
def rowBytesWith (rowSchema : Schema) (tupdesc : List Attribute) (tuple : Nat → Option δ) :
    Except Int (List UInt8) :=
  ((A.reset.andThen (tupleToAvroRow A pg tupdesc tuple)) rowSchema (fresh rowSchema)).bind
    fun row => tryWriting (A.write row)

/-- A tuple's key and row bytes under the schemas, when both encodings succeed. -/
def tupleBytesWith (keySchema : Option Schema) (rowSchema : Schema) (rel : TableData)
    (tupdesc : List Attribute) (tuple : Nat → Option δ) :
    Option (Option (List UInt8) × List UInt8) :=
  ((keyBytesWith A pg indkey keySchema rel tupdesc tuple).bind Except.toOption).bind fun keyBin =>
    (rowBytesWith A pg rowSchema tupdesc tuple).toOption.map fun rowBin => (keyBin, rowBin)

/-- The messages of an update: a delete of the old key and an insert when the tuple had a key
and it changed, else one update. -/
def updateMessages (relid : UInt32) (oldKeyBin oldBin newKeyBin : Option (List UInt8))
    (newBin : List UInt8) : List Message :=
  if oldKeyBin ≠ none ∧ oldKeyBin ≠ newKeyBin then
    [.delete relid oldKeyBin oldBin, .insert relid newKeyBin newBin]
  else [.update relid newKeyBin oldBin newBin]

/-- The message of an insert of a tuple read with a descriptor, its key and row encoded under the
schemas. -/
def insertMessagesWith (keySchema : Option Schema) (rowSchema : Schema) (rel : TableData)
    (tupdesc : List Attribute) (tuple : Nat → Option δ) : Option (List Message) :=
  (tupleBytesWith A pg indkey keySchema rowSchema rel tupdesc tuple).map fun (keyBin, newBin) =>
    [.insert (UInt32.ofNat rel.rdId) keyBin newBin]

/-- **The messages a change should send**, its tuples encoded with the key and row schema; `none`
when one of its encodings fails. -/
def Change.messagesWith (keySchema : Option Schema) (rowSchema : Schema) (rel : TableData) :
    Change δ → Option (List Message)
  | .insert newtuple =>
    (tupleBytesWith A pg indkey keySchema rowSchema rel rel.tupdesc newtuple).map
      fun (keyBin, newBin) => [.insert (UInt32.ofNat rel.rdId) keyBin newBin]
  | .update (some oldtuple) newtuple =>
    (tupleBytesWith A pg indkey keySchema rowSchema rel rel.tupdesc oldtuple).bind
      fun (oldKeyBin, oldBin) =>
    (tupleBytesWith A pg indkey keySchema rowSchema rel rel.tupdesc newtuple).map
      fun (newKeyBin, newBin) =>
    updateMessages (UInt32.ofNat rel.rdId) oldKeyBin (some oldBin) newKeyBin newBin
  | .update none newtuple =>
    (tupleBytesWith A pg indkey keySchema rowSchema rel rel.tupdesc newtuple).map
      fun (newKeyBin, newBin) => updateMessages (UInt32.ofNat rel.rdId) none none newKeyBin newBin
  | .delete (some oldtuple) =>
    (tupleBytesWith A pg indkey keySchema rowSchema rel rel.tupdesc oldtuple).map
      fun (keyBin, oldBin) => [.delete (UInt32.ofNat rel.rdId) keyBin (some oldBin)]
  | .delete none => some [.delete (UInt32.ofNat rel.rdId) none none]

variable {A}

/-- A fully built entry encodes keys with its key schema. -/
theorem extractTupleKey_of_complete {entry : SchemaCacheEntry} (hc : EntryComplete entry)
    (rel : TableData) (tupdesc : List Attribute) (tuple : Nat → Option δ) :
    extractTupleKey A pg indkey entry rel tupdesc tuple =
      keyBytesWith A pg indkey entry.keySchema rel tupdesc tuple := by
  unfold extractTupleKey keyBytesWith
  rw [hc.keyValue]
  cases entry.keySchema with
  | none => rfl
  | some keySchema => cases tableKeyIndex rel <;> rfl

/-- A fully built entry encodes rows with its row schema. -/
theorem encodeRow_of_complete {entry : SchemaCacheEntry} (hc : EntryComplete entry)
    {rowSchema : Schema} (hrow : entry.rowSchema = some rowSchema) (tupdesc : List Attribute)
    (tuple : Nat → Option δ) :
    encodeRow A pg entry tupdesc tuple = some (rowBytesWith A pg rowSchema tupdesc tuple) := by
  unfold encodeRow
  rw [hc.rowValue, hrow]
  rfl

end Spec

/-! ## What a change sends -/

section Entry

variable {A : AvroC} (toJson : Schema → List UInt8) (genericClass : Schema → Bool)
  (getNamespaceName : Nat → List UInt8)

/-- The `TableSchema` message that a change's frame starts with when the lookup reported the
table new or changed. -/
def schemaPrefix (changed : Int) (entry : SchemaCacheEntry) (rowSchema : Schema) :
    List Message :=
  if changed = 0 then [] else [.tableSchema (UInt32.ofNat entry.relid) entry.keySchema rowSchema]

/-- **A step past the lookup that returns `0`** found the table's entry, current and fully built
when every entry of the cache was built without an error; it sent the table's schemas first when
the lookup reported a change, then what the step sends with the entry. -/
theorem Emit.withEntry_frame (hA : A.Lawful) {rel : TableData} {k : SchemaCacheEntry → Emit}
    {y : Option Schema → Schema → Option (List Message)}
    (hk : ∀ entry rowSchema, EntryComplete entry → entry.rowSchema = some rowSchema →
      (k entry).Appends A toJson (y entry.keySchema rowSchema))
    {cache cache' : SchemaCache} (hbuilt : CacheBuilt cache) {ms : List Message}
    {frame frame' : Value} (hms : buildFrame A toJson ms = .ok frame)
    (h : Emit.withEntry A toJson genericClass getNamespaceName rel k cache frame =
      some (cache', frame', 0)) :
    ∃ changed entry rowSchema,
      schemaCacheLookup genericClass getNamespaceName cache rel = (changed, some entry, cache') ∧
      0 ≤ changed ∧ EntryCurrent getNamespaceName rel entry ∧ entry.rowSchema = some rowSchema ∧
      buildFrame A toJson
        (ms ++ (schemaPrefix changed entry rowSchema ++ (y entry.keySchema rowSchema).getD [])) =
        .ok frame' := by
  unfold Emit.withEntry at h
  rcases hl : schemaCacheLookup genericClass getNamespaceName cache rel with
    ⟨changed, entry, cl⟩
  rw [hl] at h
  dsimp only at h
  by_cases hneg : changed < 0
  · -- a failed lookup returns `EINVAL`
    rw [if_pos hneg] at h
    simp [einval] at h
  rw [if_neg hneg] at h
  cases entry with
  | none => cases h
  | some entry =>
    have hc : 0 ≤ changed := by omega
    obtain ⟨entry', hentry', hcur⟩ :=
      schemaCacheLookup_current genericClass getNamespaceName hbuilt
        (show 0 ≤ (schemaCacheLookup genericClass getNamespaceName cache rel).1 by
          rw [hl]; exact hc)
    rw [hl] at hentry'
    obtain rfl := Option.some.inj hentry'
    obtain ⟨rowSchema, hrow⟩ := Option.isSome_iff_exists.mp hcur.rowSchema_isSome
    have hrows := hk entry rowSchema hcur.toEntryComplete hrow
    -- the step with the entry ran on the cache the lookup left, and kept it
    suffices hsent : cache' = cl ∧ buildFrame A toJson
        (ms ++ (schemaPrefix changed entry rowSchema ++ (y entry.keySchema rowSchema).getD [])) =
        .ok frame' by
      obtain ⟨rfl, hsent⟩ := hsent
      exact ⟨changed, entry, rowSchema, rfl, hc, hcur, hrow, hsent⟩
    dsimp only at h
    by_cases h0 : changed = 0
    · rw [if_neg (not_not.mpr h0)] at h
      simpa [schemaPrefix, h0] using hrows _ _ _ _ hms h
    · rw [if_pos h0] at h
      obtain ⟨⟨cache₁, frame₁, code₁⟩, h₁, h₂⟩ := Option.bind_eq_some_iff.mp h
      unfold updateFrameWithTableSchemaOf at h₁
      rw [hrow] at h₁
      dsimp only at h₁
      rw [Emit.append_of_buildFrame toJson hms] at h₁
      cases happ : buildFrame A toJson
          (ms ++ [.tableSchema (UInt32.ofNat entry.relid) entry.keySchema rowSchema]) with
      | error err =>
        -- the schemas did not fit, and the check returns their `ENOSPC`
        rw [happ] at h₁
        cases h₁
        have herr := buildFrame_append_error toJson hA hms happ
        dsimp only at h₂
        rw [if_neg (by rw [herr]; decide)] at h₂
        cases h₂
        exact absurd herr (by decide)
      | ok frame₁ =>
        -- the schemas are in the frame, and the check goes on to the step
        rw [happ] at h₁
        cases h₁
        dsimp only at h₂
        rw [if_pos rfl] at h₂
        simpa [schemaPrefix, h0] using hrows _ _ _ _ happ h₂

variable {δ : Type} (pg : PgDatum δ) (indkey : IndexData → List Nat)

/-- The new tuple's half of an update sends the messages `updateMessages` lists. -/
theorem appends_updateFrameWithUpdateNew (hA : A.Lawful) {entry : SchemaCacheEntry}
    (hc : EntryComplete entry)
    {rowSchema : Schema} (hrow : entry.rowSchema = some rowSchema) (rel : TableData)
    (oldKeyBin oldBin : Option (List UInt8)) (newtuple : Nat → Option δ) :
    (updateFrameWithUpdateNew A toJson pg indkey entry rel oldKeyBin oldBin newtuple).Appends A
      toJson ((tupleBytesWith A pg indkey entry.keySchema rowSchema rel rel.tupdesc newtuple).map
        fun (newKeyBin, newBin) =>
          updateMessages (UInt32.ofNat rel.rdId) oldKeyBin oldBin newKeyBin newBin) := by
  unfold updateFrameWithUpdateNew
  rw [extractTupleKey_of_complete pg indkey hc, encodeRow_of_complete pg hc hrow]
  refine (Emit.appends_encode toJson _ fun newKeyBin => Emit.appends_encode toJson _
    fun newBin => (?_ : Emit.Appends A toJson _
      (some (updateMessages (UInt32.ofNat rel.rdId) oldKeyBin oldBin newKeyBin newBin)))).of_eq
    toJson ?_
  · -- an old key that differs from the new one makes a delete and an insert
    cases oldKeyBin with
    | none => exact (Emit.appends_append toJson hA rfl).of_eq toJson (by simp [updateMessages])
    | some oldKey =>
      dsimp only
      by_cases hne : some oldKey ≠ newKeyBin
      · rw [if_pos hne]
        exact (Emit.appends_check_append toJson hA rfl rfl).of_eq toJson
          (by simp [updateMessages, hne])
      · rw [if_neg hne]
        exact (Emit.appends_append toJson hA rfl).of_eq toJson (by simp [updateMessages, hne])
  · simp [tupleBytesWith, Option.map_eq_bind, Option.bind_assoc]

/-- Under the exit policy a frame is written only after a step that returned `0`, and it is that
step's frame. -/
theorem writeChangeFrame_exit {x : Option (SchemaCache × Value × Int)}
    {out : Option (List UInt8)} {cache' : SchemaCache}
    (h : writeChangeFrame A .exit x = some (out, cache')) :
    ∃ frame bytes, x = some (cache', frame, 0) ∧ out = some bytes ∧
      writeFrame A frame = .ok bytes := by
  rcases x with _ | ⟨cache, frame, code⟩
  · cases h
  · simp only [writeChangeFrame, Option.bind_some] at h
    by_cases hcode : code = 0
    · subst hcode
      simp only [ne_eq, not_true_eq_false, if_false, Option.bind_some] at h
      split at h
      · next bytes hw =>
        cases h
        exact ⟨frame, bytes, rfl, rfl, hw⟩
      · cases h
    · simp [hcode, errorPolicyHandle] at h

/-- Under the exit policy, a frame that was written after a lookup and a step that sends `y` of
the entry's schemas holds the table's schemas when the lookup reported a change, then what the
step sends, when every entry of the cache was built without an error. -/
theorem writeChangeFrame_withEntry_exit (hA : A.Lawful) {cache cache' : SchemaCache}
    (hbuilt : CacheBuilt cache) {rel : TableData} {k : SchemaCacheEntry → Emit}
    {y : Option Schema → Schema → Option (List Message)}
    (hk : ∀ entry rowSchema, EntryComplete entry → entry.rowSchema = some rowSchema →
      (k entry).Appends A toJson (y entry.keySchema rowSchema))
    {out : Option (List UInt8)}
    (hw : writeChangeFrame A .exit
      (Emit.withEntry A toJson genericClass getNamespaceName rel k cache (frameValue [])) =
      some (out, cache')) :
    ∃ bytes changed entry rowSchema, out = some bytes ∧
      schemaCacheLookup genericClass getNamespaceName cache rel = (changed, some entry, cache') ∧
      0 ≤ changed ∧ EntryCurrent getNamespaceName rel entry ∧ entry.rowSchema = some rowSchema ∧
      (buildFrame A toJson (schemaPrefix changed entry rowSchema ++
        (y entry.keySchema rowSchema).getD [])).bind (writeFrame A) = .ok bytes := by
  obtain ⟨frame, bytes, hx, hout, hwrite⟩ := writeChangeFrame_exit hw
  obtain ⟨changed, entry, rowSchema, hl, hc, hcur, hrow, hframe⟩ :=
    Emit.withEntry_frame toJson genericClass getNamespaceName hA hk hbuilt
      (show buildFrame A toJson [] = .ok (frameValue []) from rfl) hx
  rw [List.nil_append] at hframe
  exact ⟨bytes, changed, entry, rowSchema, hout, hl, hc, hcur, hrow,
    by rw [hframe]; exact hwrite⟩

/-- The insert step sends the insert of the tuple read with the descriptor. -/
theorem appends_insert (hA : A.Lawful) {entry : SchemaCacheEntry} (hc : EntryComplete entry)
    {rowSchema : Schema}
    (hrow : entry.rowSchema = some rowSchema) (rel : TableData) (tupdesc : List Attribute)
    (tuple : Nat → Option δ) :
    (Emit.encode (extractTupleKey A pg indkey entry rel tupdesc tuple) fun keyBin =>
      Emit.encode (encodeRow A pg entry tupdesc tuple) fun newBin =>
      Emit.append A toJson (.insert (UInt32.ofNat rel.rdId) keyBin newBin)).Appends A toJson
      (insertMessagesWith A pg indkey entry.keySchema rowSchema rel tupdesc tuple) := by
  rw [extractTupleKey_of_complete pg indkey hc, encodeRow_of_complete pg hc hrow]
  exact (Emit.appends_encode toJson _ fun _ => Emit.appends_encode toJson _ fun _ =>
    Emit.appends_append toJson hA rfl).of_eq toJson
      (by simp [insertMessagesWith, tupleBytesWith, Option.map_eq_bind, Option.bind_assoc])

/-- **What a change sends under the exit policy**, when every entry of the cache was built
without an error: its frame is written, its lookup succeeded with the table's current entry, and
the frame holds the table's schemas when the lookup reported a change, then the change's
messages with its tuples encoded under the entry's key and row schemas. -/
theorem outputAvroChange_exit (hA : A.Lawful) {cache cache' : SchemaCache}
    (hbuilt : CacheBuilt cache) {rel : TableData} {ch : Change δ} {out : Option (List UInt8)}
    (h : outputAvroChange A toJson genericClass getNamespaceName pg indkey .exit cache rel ch =
      some (out, cache')) :
    ∃ bytes changed entry rowSchema, out = some bytes ∧
      schemaCacheLookup genericClass getNamespaceName cache rel = (changed, some entry, cache') ∧
      0 ≤ changed ∧ EntryCurrent getNamespaceName rel entry ∧ entry.rowSchema = some rowSchema ∧
      (buildFrame A toJson (schemaPrefix changed entry rowSchema ++
        (ch.messagesWith A pg indkey entry.keySchema rowSchema rel).getD [])).bind (writeFrame A) =
        .ok bytes := by
  -- each change's step is a lookup and a step that sends the change's messages
  cases ch with
  | insert newtuple =>
    exact writeChangeFrame_withEntry_exit toJson genericClass getNamespaceName hA hbuilt
      (y := fun keySchema rowSchema =>
        (Change.insert newtuple).messagesWith A pg indkey keySchema rowSchema rel)
      (fun _ _ hc hrow => appends_insert toJson pg indkey hA hc hrow rel rel.tupdesc newtuple) h
  | update oldtuple newtuple =>
    refine writeChangeFrame_withEntry_exit toJson genericClass getNamespaceName hA hbuilt
      (y := fun keySchema rowSchema =>
        (Change.update oldtuple newtuple).messagesWith A pg indkey keySchema rowSchema rel)
      (fun entry rowSchema hc hrow => ?_) h
    cases oldtuple with
    | some tuple =>
      dsimp only
      rw [extractTupleKey_of_complete pg indkey hc, encodeRow_of_complete pg hc hrow]
      exact (Emit.appends_encode toJson _ fun _ => Emit.appends_encode toJson _ fun _ =>
        appends_updateFrameWithUpdateNew toJson pg indkey hA hc hrow rel _ _ newtuple).of_eq toJson
          (by simp [Change.messagesWith, tupleBytesWith, Option.map_eq_bind, Option.bind_assoc])
    | none =>
      exact appends_updateFrameWithUpdateNew toJson pg indkey hA hc hrow rel _ _ newtuple
  | delete oldtuple =>
    refine writeChangeFrame_withEntry_exit toJson genericClass getNamespaceName hA hbuilt
      (y := fun keySchema rowSchema =>
        (Change.delete oldtuple).messagesWith A pg indkey keySchema rowSchema rel)
      (fun entry rowSchema hc hrow => ?_) h
    cases oldtuple with
    | some tuple =>
      dsimp only
      rw [extractTupleKey_of_complete pg indkey hc, encodeRow_of_complete pg hc hrow]
      exact (Emit.appends_encode toJson _ fun _ => Emit.appends_encode toJson _ fun _ =>
        Emit.appends_append toJson hA rfl).of_eq toJson
          (by simp [Change.messagesWith, tupleBytesWith, Option.map_eq_bind, Option.bind_assoc])
    | none => exact Emit.appends_append toJson hA rfl

/-- **What an exported row sends under the exit policy**: as a change's insert, with the row
read with the result set's descriptor. -/
theorem formatSnapshotRow_exit (hA : A.Lawful) {cache cache' : SchemaCache}
    (hbuilt : CacheBuilt cache)
    {rel : TableData} {tupdesc : List Attribute} {tuple : Nat → Option δ}
    {out : Option (List UInt8)}
    (h : formatSnapshotRow A toJson genericClass getNamespaceName pg indkey .exit cache rel tupdesc
      tuple = some (out, cache')) :
    ∃ bytes changed entry rowSchema, out = some bytes ∧
      schemaCacheLookup genericClass getNamespaceName cache rel = (changed, some entry, cache') ∧
      0 ≤ changed ∧ EntryCurrent getNamespaceName rel entry ∧ entry.rowSchema = some rowSchema ∧
      (buildFrame A toJson (schemaPrefix changed entry rowSchema ++
        (insertMessagesWith A pg indkey entry.keySchema rowSchema rel tupdesc tuple).getD [])).bind
        (writeFrame A) = .ok bytes :=
  writeChangeFrame_withEntry_exit toJson genericClass getNamespaceName hA hbuilt
    (y := fun keySchema rowSchema => insertMessagesWith A pg indkey keySchema rowSchema rel tupdesc tuple)
    (fun _ _ hc hrow => appends_insert toJson pg indkey hA hc hrow rel tupdesc tuple) h

end Entry

end BottledWater
