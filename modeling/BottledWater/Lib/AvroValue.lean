import BottledWater.Lib.AvroSchema

set_option autoImplicit false

/-! # Avro values and the value interface of the C library

The values of Avro schemas, which of them are valid values of a schema (`conforms`), and the
calls of the C library a program makes on them: the setters and getters of the generic value
interface (`avro_value_set_*`, `avro_value_set_branch`, `avro_value_get_by_index`,
`avro_value_get_*`, `avro_value_reset`) and the binary encoding (`avro_value_write`,
`avro_value_read`). `AvroC` takes them as parameters; `AvroC.Lawful` names what a program relies
on of them: each class stores what its own setters are given and has no other setter, string
sizes count the terminating `NUL`, a union gives access to its selected branch and a record to
its fields, and reading what was written gives the value back.

A handle (`avro_value_t`) points into a value, and a program writes through it. Here a
`Writer` takes the schema of the value at the handle and its current contents, and returns the
new contents or an error code. Writing through the handle that `set_branch` or `get_by_index`
returns is a writer nested in another (`AvroC.branch`, `AvroC.field`), and a sequence of calls
each wrapped in `check` is their composition (`Writer.andThen`), which stops at the first error.
-/

namespace Avro

/-- A value of the generic implementation. A union holds its selected branch and the value in
it, or nothing while no branch is selected (discriminant `-1`). -/
inductive Value where
  | null
  | boolean (b : Bool)
  | int (i : Int)
  | long (i : Int)
  | float (x : Float32)
  | double (x : Float)
  | bytes (b : List UInt8)
  | string (s : List UInt8)
  | record (fields : List Value)
  | enum (symbol : Nat)
  | array (items : List Value)
  | union (branch : Option (Nat × Value))
  deriving Repr, Inhabited

/-! ## Fresh values and valid values -/

mutual
/-- The value `avro_generic_value_new` creates for a schema: zero or empty contents, every
field of a record fresh, and no branch selected in a union. -/
def fresh : Schema → Value
  | .null => .null
  | .boolean => .boolean false
  | .int => .int 0
  | .long => .long 0
  | .float => .float 0
  | .double => .double 0
  | .bytes => .bytes []
  | .string => .string []
  | .record _ _ fs => .record (freshFields fs)
  | .enum _ _ => .enum 0
  | .array _ => .array []
  | .union _ => .union none
termination_by structural s => s

/-- The fresh values of a record's fields. -/
def freshFields : List (List UInt8 × Schema) → List Value
  | [] => []
  | (_, s) :: fs => fresh s :: freshFields fs
termination_by structural fs => fs
end

mutual
/-- Whether a value is a valid value of a schema, as the binary writer needs it: every field of
a record present and valid, an enum symbol in range, and in a union a branch selected and the
value in it valid for that branch. -/
def conforms : Schema → Value → Bool
  | .null, .null => true
  | .boolean, .boolean _ => true
  | .int, .int _ => true
  | .long, .long _ => true
  | .float, .float _ => true
  | .double, .double _ => true
  | .bytes, .bytes _ => true
  | .string, .string _ => true
  | .record _ _ fs, .record vs => conformsFields fs vs
  | .enum _ symbols, .enum k => decide (k < symbols.length)
  | .array s, .array vs => conformsItems s vs
  | .union bs, .union (some (i, v)) =>
    match bs[i]? with
    | some b => conforms b v
    | none => false
  | _, _ => false
termination_by structural _ v => v

/-- Whether the values of a record's fields are valid for its fields, one for one. -/
def conformsFields : List (List UInt8 × Schema) → List Value → Bool
  | [], [] => true
  | (_, s) :: fs, v :: vs => conforms s v && conformsFields fs vs
  | _, _ => false
termination_by structural _ vs => vs

/-- Whether every item of an array is valid for the items' schema. -/
def conformsItems (s : Schema) : List Value → Bool
  | [] => true
  | v :: vs => conforms s v && conformsItems s vs
termination_by structural vs => vs
end

theorem conforms_union {bs : List Schema} {i : Nat} {b : Schema} {v : Value}
    (hb : bs[i]? = some b) (hv : conforms b v = true) :
    conforms (.union bs) (.union (some (i, v))) = true := by
  simp [conforms, hb, hv]

@[simp] theorem conformsFields_cons (n : List UInt8) (s : Schema)
    (fs : List (List UInt8 × Schema)) (v : Value) (vs : List Value) :
    conformsFields ((n, s) :: fs) (v :: vs) = (conforms s v && conformsFields fs vs) := by
  simp [conformsFields]

@[simp] theorem conformsFields_nil : conformsFields [] [] = true := by
  simp [conformsFields]

@[simp] theorem freshFields_nil : freshFields [] = [] := by
  simp [freshFields]

@[simp] theorem freshFields_cons (n : List UInt8) (s : Schema) (fs : List (List UInt8 × Schema)) :
    freshFields ((n, s) :: fs) = fresh s :: freshFields fs := by
  simp [freshFields]

@[simp] theorem fresh_union (bs : List Schema) : fresh (.union bs) = .union none := by
  simp [fresh]

@[simp] theorem fresh_record (name : List UInt8) (space : Option (List UInt8))
    (fs : List (List UInt8 × Schema)) :
    fresh (.record name space fs) = .record (freshFields fs) := by
  simp [fresh]

/-! ## Writers -/

/-- A write through a value handle: from the schema of the value at the handle and its current
contents, the new contents, or the error code of the first call that failed. -/
abbrev Writer := Schema → Value → Except Int Value

namespace Writer

/-- No call: the value stays as it is. -/
def skip : Writer := fun _ v => .ok v

/-- One write after the other, each `check`ed: the second runs only if the first succeeded. -/
def andThen (f g : Writer) : Writer := fun s v => (f s v).bind (g s)

/-- A write whose arguments come from a call that may fail first, such as a serialisation. -/
def withResult {α : Type} (x : Except Int α) (f : α → Writer) : Writer := fun s v =>
  x.bind fun a => f a s v

/-- A call whose result is not checked: an error leaves the value as it was and is dropped. -/
def ignoreError (f : Writer) : Writer := fun s v =>
  match f s v with
  | .ok w => .ok w
  | .error _ => .ok v

@[simp] theorem skip_apply (s : Schema) (v : Value) : skip s v = .ok v := rfl

theorem andThen_ok {f g : Writer} {s : Schema} {v w : Value} (h : f s v = .ok w) :
    f.andThen g s v = g s w := by
  simp [andThen, h, Except.bind]

theorem andThen_error {f g : Writer} {s : Schema} {v : Value} {e : Int} (h : f s v = .error e) :
    f.andThen g s v = .error e := by
  simp [andThen, h, Except.bind]

end Writer

/-! ## Values read back

The binary encoding carries a floating point number as its bits, so what is read back is the
number with the same bits. -/

mutual
/-- A value as the reader gives it back: a floating point number rebuilt from its bits. -/
def canon : Value → Value
  | .float x => .float (Float32.ofBits x.toBits)
  | .double x => .double (Float.ofBits x.toBits)
  | .record vs => .record (canonAll vs)
  | .array vs => .array (canonAll vs)
  | .union (some (k, v)) => .union (some (k, canon v))
  | v => v
termination_by structural v => v

def canonAll : List Value → List Value
  | [] => []
  | v :: vs => canon v :: canonAll vs
termination_by structural vs => vs
end

/-! ## Schemas without floating point types

A value of such a schema is read back as it was written. -/

mutual
/-- Whether no float or double occurs in a schema. -/
def floatFree : Schema → Bool
  | .float => false
  | .double => false
  | .record _ _ fs => floatFreeFields fs
  | .array t => floatFree t
  | .union bs => floatFreeAll bs
  | _ => true
termination_by structural s => s

def floatFreeFields : List (List UInt8 × Schema) → Bool
  | [] => true
  | (_, s) :: fs => floatFree s && floatFreeFields fs
termination_by structural fs => fs

def floatFreeAll : List Schema → Bool
  | [] => true
  | s :: bs => floatFree s && floatFreeAll bs
termination_by structural bs => bs
end

theorem floatFree_of_getElem? {bs : List Schema} {i : Nat} {b : Schema} (hb : bs[i]? = some b)
    (h : floatFreeAll bs = true) : floatFree b = true := by
  induction bs generalizing i with
  | nil => cases hb
  | cons b' bs ih =>
    simp only [floatFreeAll, Bool.and_eq_true] at h
    cases i with
    | zero =>
      obtain rfl : b' = b := by simpa using hb
      exact h.1
    | succ i => exact ih (by simpa using hb) h.2

mutual
/-- A value of a schema without floating point types comes back as it was. -/
theorem canon_eq_self {s : Schema} {v : Value} (hc : conforms s v = true)
    (hf : floatFree s = true) : canon v = v := by
  match v with
  | .null | .boolean _ | .int _ | .long _ | .bytes _ | .string _ | .enum _ | .union none => rfl
  | .float _ | .double _ => cases s <;> simp [conforms, floatFree] at hc hf
  | .record vs =>
    cases s with
    | record _ _ fs =>
      rw [conforms] at hc
      rw [floatFree] at hf
      rw [canon, canonFields_eq_self hc hf]
    | _ => simp [conforms] at hc
  | .array vs =>
    cases s with
    | array t =>
      rw [conforms] at hc
      rw [floatFree] at hf
      rw [canon, canonItems_eq_self hc hf]
    | _ => simp [conforms] at hc
  | .union (some (i, w)) =>
    cases s with
    | union bs =>
      cases hb : bs[i]? with
      | none => simp [conforms, hb] at hc
      | some b =>
        simp only [conforms, hb] at hc
        rw [floatFree] at hf
        rw [canon, canon_eq_self hc (floatFree_of_getElem? hb hf)]
    | _ => simp [conforms] at hc
termination_by structural v

theorem canonFields_eq_self {fs : List (List UInt8 × Schema)} {vs : List Value}
    (hc : conformsFields fs vs = true) (hf : floatFreeFields fs = true) : canonAll vs = vs := by
  match fs, vs with
  | [], [] => rfl
  | (_, s) :: fs, v :: vs =>
    simp only [conformsFields_cons, Bool.and_eq_true] at hc
    simp only [floatFreeFields, Bool.and_eq_true] at hf
    rw [canonAll, canon_eq_self hc.1 hf.1, canonFields_eq_self hc.2 hf.2]
  | [], _ :: _ => simp [conformsFields] at hc
  | _ :: _, [] => simp [conformsFields] at hc
termination_by structural vs

theorem canonItems_eq_self {t : Schema} {vs : List Value}
    (hc : conformsItems t vs = true) (hf : floatFree t = true) : canonAll vs = vs := by
  match vs with
  | [] => rfl
  | v :: vs =>
    simp only [conformsItems, Bool.and_eq_true] at hc
    rw [canonAll, canon_eq_self hc.1 hf, canonItems_eq_self hc.2 hf]
termination_by structural vs
end

/-! ## The C library -/

/-- The calls of the C library a program makes: the setters of the generic value interface, as
writers through a handle, its getters, and the binary writer and reader. -/
structure AvroC where
  /-- `avro_value_set_boolean`, `_int`, `_long`, `_float`, `_double`, `_bytes`, `_string`. -/
  setBoolean : Bool → Writer
  setInt : Int → Writer
  setLong : Int → Writer
  setFloat : Float32 → Writer
  setDouble : Float → Writer
  setBytes : List UInt8 → Writer
  setString : List UInt8 → Writer
  /-- `avro_value_set_string_len`: the string and its size. -/
  setStringLen : List UInt8 → Nat → Writer
  /-- `avro_value_set_enum`. -/
  setEnum : Nat → Writer
  /-- `avro_value_set_branch` on a union, then a write through the handle to the branch. -/
  branch : Nat → Writer → Writer
  /-- `avro_value_get_by_index` on a record, then a write through the handle to the field. -/
  field : Nat → Writer → Writer
  /-- `avro_value_append` on an array, then a write through the handle to the new item. -/
  append : Writer → Writer
  /-- `avro_value_reset`. -/
  reset : Writer
  /-- `avro_value_get_by_index`: field `k` of a record, or item `k` of an array. -/
  getByIndex : Nat → Value → Except Int Value
  /-- `avro_value_get_size`. -/
  getSize : Value → Except Int Nat
  /-- `avro_value_get_long`, `_bytes`, and `_string` with its size. -/
  getLong : Value → Except Int Int
  getBytes : Value → Except Int (List UInt8)
  getString : Value → Except Int (List UInt8 × Nat)
  /-- `avro_value_get_discriminant` and `avro_value_get_current_branch`. -/
  getDiscriminant : Value → Except Int Int
  getCurrentBranch : Value → Except Int Value
  /-- `avro_value_write` into a writer, and `avro_value_read` against a schema: the value at
  the start of the bytes and the bytes after it. -/
  write : Value → Except Int (List UInt8)
  read : Schema → List UInt8 → Except Int (Value × List UInt8)

/-- What a program relies on of the C library. -/
structure AvroC.Lawful (A : AvroC) : Prop where
  /-- The class of each type stores what its own setter is given. -/
  setBoolean_boolean : ∀ b w, A.setBoolean b .boolean w = .ok (.boolean b)
  setInt_int : ∀ i w, A.setInt i .int w = .ok (.int i)
  setLong_long : ∀ i w, A.setLong i .long w = .ok (.long i)
  setFloat_float : ∀ x w, A.setFloat x .float w = .ok (.float x)
  setDouble_double : ∀ x w, A.setDouble x .double w = .ok (.double x)
  setBytes_bytes : ∀ b w, A.setBytes b .bytes w = .ok (.bytes b)
  setString_string : ∀ str w, A.setString str .string w = .ok (.string str)
  setEnum_enum : ∀ name symbols k w, A.setEnum k (.enum name symbols) w = .ok (.enum k)
  /-- A setter the class lacks is `EINVAL`: the union class has no `set_long`. -/
  setLong_union : ∀ i bs w, A.setLong i (.union bs) w = .error einval
  /-- String sizes count the terminating `NUL`: `set_string_len` stores one byte less than the
  size it is given, and `get_string` reports one byte more than the string. -/
  setStringLen_string : ∀ str size w,
    A.setStringLen str size .string w = .ok (.string (str.take (size - 1)))
  getString_string : ∀ str, A.getString (.string str) = .ok (str, str.length + 1)
  /-- A union gives access to its branch: selecting one in a union with none selected starts
  from a fresh value of it, and the getters report the selected one and its value. -/
  branch_union_none : ∀ {bs : List Schema} {i : Nat} {b : Schema} (f : Writer),
    bs[i]? = some b →
      A.branch i f (.union bs) (.union none) = (f b (fresh b)).map fun w => .union (some (i, w))
  getDiscriminant_union : ∀ k v, A.getDiscriminant (.union (some (k, v))) = .ok k
  getCurrentBranch_union : ∀ k v, A.getCurrentBranch (.union (some (k, v))) = .ok v
  /-- A record gives access to its fields: a write through the handle of a field changes that
  field only, and fails when the write into the field fails. -/
  field_record : ∀ {name : List UInt8} {space : Option (List UInt8)}
    {fs : List (List UInt8 × Schema)} {vs : List Value} {k : Nat} {n : List UInt8} {t : Schema}
    {w : Value} (f : Writer), fs[k]? = some (n, t) → vs[k]? = some w →
      A.field k f (.record name space fs) (.record vs) =
        (f t w).map fun w' => .record (vs.set k w')
  field_error : ∀ {name : List UInt8} {space : Option (List UInt8)}
    {fs : List (List UInt8 × Schema)} {k : Nat} {n : List UInt8} {t : Schema} {f : Writer},
    fs[k]? = some (n, t) → (∀ w, ∃ e, f t w = .error e) →
      ∀ v, ∃ e, A.field k f (.record name space fs) v = .error e
  getByIndex_record : ∀ {vs : List Value} {k : Nat} {v : Value}, vs[k]? = some v →
    A.getByIndex k (.record vs) = .ok v
  /-- An array gives access to its items; an item appended starts fresh. -/
  append_array : ∀ t items (f : Writer),
    A.append f (.array t) (.array items) = (f t (fresh t)).map fun w => .array (items ++ [w])
  getByIndex_array : ∀ {vs : List Value} {k : Nat} {v : Value}, vs[k]? = some v →
    A.getByIndex k (.array vs) = .ok v
  getSize_array : ∀ vs, A.getSize (.array vs) = .ok vs.length
  /-- The getters of the primitive types. -/
  getLong_long : ∀ i, A.getLong (.long i) = .ok i
  getBytes_bytes : ∀ b, A.getBytes (.bytes b) = .ok b
  /-- `avro_value_reset` succeeds. -/
  reset_ok : ∀ s v, ∃ w, A.reset s v = .ok w
  /-- Read after write: reading what the writer wrote for a valid value of the schema gives the
  value back, and leaves the bytes after it. -/
  read_write : ∀ {s : Schema} {v : Value} {bytes : List UInt8} (rest : List UInt8),
    conforms s v = true → A.write v = .ok bytes → A.read s (bytes ++ rest) = .ok (canon v, rest)

/-! ### The laws at a position

The laws name the branch, field or item a call reaches through `xs[k]?`. For a record or a union
whose fields are known, the forms below name them by position instead, with the bound as the
only side condition, and `simp` uses them to run a write or a getter. -/

namespace AvroC.Lawful

theorem getElem?_eq_some_getD {α : Type} [Inhabited α] {l : List α} {k : Nat}
    (hk : k < l.length) : l[k]? = some (l.getD k default) := by
  simp [List.getD_eq_getElem?_getD, hk]

variable {A : AvroC}

theorem branch_union_none_of_lt (hA : A.Lawful) (f : Writer) {bs : List Schema} {i : Nat}
    (hi : i < bs.length) :
    A.branch i f (.union bs) (.union none) =
      (f (bs.getD i default) (fresh (bs.getD i default))).map fun w => .union (some (i, w)) :=
  hA.branch_union_none f (getElem?_eq_some_getD hi)

theorem field_record_of_lt (hA : A.Lawful) (f : Writer) {name : List UInt8}
    {space : Option (List UInt8)} {fs : List (List UInt8 × Schema)} {vs : List Value} {k : Nat}
    (hk : k < fs.length) (hkv : k < vs.length) :
    A.field k f (.record name space fs) (.record vs) =
      (f (fs.getD k default).2 (vs.getD k default)).map fun w' => .record (vs.set k w') :=
  hA.field_record f
    (show fs[k]? = some ((fs.getD k default).1, (fs.getD k default).2) from
      getElem?_eq_some_getD hk)
    (getElem?_eq_some_getD hkv)

theorem getByIndex_record_of_lt (hA : A.Lawful) {vs : List Value} {k : Nat}
    (hk : k < vs.length) : A.getByIndex k (.record vs) = .ok (vs.getD k default) :=
  hA.getByIndex_record (getElem?_eq_some_getD hk)

end AvroC.Lawful

namespace AvroC

variable (A : AvroC)

/-- `avro_value_get_by_index` with nothing written through the handle: it only fails when the
record has no such field. -/
def getByIndexWriter (k : Nat) : Writer := A.field k .skip

/-- The writers `ws` into the fields of a record, the first into field `k` and each next one
into the next field. -/
def fieldsFrom : List Writer → Nat → Writer
  | [], _ => .skip
  | w :: ws, k => (A.field k w).andThen (fieldsFrom ws (k + 1))

variable {A}

/-- **One failing field fails the record**: if the writer for field `k + j` fails whatever the
field holds, writing the fields from `k` on fails, whatever the value. -/
theorem fieldsFrom_error (hA : A.Lawful) {name : List UInt8} {space : Option (List UInt8)}
    {fs : List (List UInt8 × Schema)} {ws : List Writer} {k j : Nat} {f : Writer}
    {n : List UInt8} {t : Schema} (hw : ws[j]? = some f) (hf : fs[k + j]? = some (n, t))
    (hfail : ∀ w, ∃ e, f t w = .error e) (v : Value) :
    ∃ e, A.fieldsFrom ws k (.record name space fs) v = .error e := by
  induction ws generalizing k j v with
  | nil => cases hw
  | cons w ws ih =>
    cases j with
    | zero =>
      -- the failing writer is the first: its field fails, and the rest does not run
      obtain rfl : w = f := Option.some.inj hw
      obtain ⟨e, he⟩ := hA.field_error hf hfail v
      exact ⟨e, Writer.andThen_error he⟩
    | succ j =>
      cases hfield : A.field k w (.record name space fs) v with
      | error e => exact ⟨e, Writer.andThen_error hfield⟩
      | ok v' =>
        rw [fieldsFrom, Writer.andThen_ok hfield]
        exact ih hw (by rwa [Nat.add_right_comm, Nat.add_assoc]) v'

end AvroC

end Avro
