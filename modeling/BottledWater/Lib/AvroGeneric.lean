import BottledWater.Lib.AvroBinary

set_option autoImplicit false

/-! # An implementation of the C library that meets its laws

The generic value classes after the Avro specification's data model, and its binary encoding
(`Lib/AvroBinary`), make up one `AvroC`, `AvroC.spec`, which meets every law of
`AvroC.Lawful` (`AvroC.spec_lawful`): so the laws can be met together. The model of the program
takes the C library as a parameter; its concrete runs use this one.

Each class implements the setters of its own type only; any other setter returns `EINVAL` and
changes nothing. `avro_value_reset` empties every value, and a union keeps the branch it has
selected.
-/

namespace Avro

mutual
/-- `avro_value_reset`: zero or empty contents throughout; a union keeps the branch it has
selected and resets the value in it. -/
def Value.reset : Value → Value
  | .null => .null
  | .boolean _ => .boolean false
  | .int _ => .int 0
  | .long _ => .long 0
  | .float _ => .float 0
  | .double _ => .double 0
  | .bytes _ => .bytes []
  | .string _ => .string []
  | .record vs => .record (Value.resetAll vs)
  | .enum _ => .enum 0
  | .array _ => .array []
  | .union none => .union none
  | .union (some (i, v)) => .union (some (i, v.reset))
termination_by structural v => v

/-- `avro_value_reset` on each field of a record. -/
def Value.resetAll : List Value → List Value
  | [] => []
  | v :: vs => v.reset :: Value.resetAll vs
termination_by structural vs => vs
end

namespace Generic

open Writer

/-! ### Setters -/

/-- The setter of a primitive type: it stores `v` in a value of a schema that `holds` accepts;
on a value of any other schema the class has no such setter, and the call is `EINVAL`. -/
def setPrimitive (holds : Schema → Bool) (v : Value) : Writer := fun s _ =>
  if holds s then .ok v else .error einval

/-- Whether a schema is the given primitive one. -/
def isBoolean : Schema → Bool
  | .boolean => true
  | _ => false

def isInt : Schema → Bool
  | .int => true
  | _ => false

def isLong : Schema → Bool
  | .long => true
  | _ => false

def isFloat : Schema → Bool
  | .float => true
  | _ => false

def isDouble : Schema → Bool
  | .double => true
  | _ => false

def isBytes : Schema → Bool
  | .bytes => true
  | _ => false

def isString : Schema → Bool
  | .string => true
  | _ => false

/-- `avro_value_set_boolean`. -/
def setBoolean (b : Bool) : Writer := setPrimitive isBoolean (.boolean b)

/-- `avro_value_set_int`. -/
def setInt (i : Int) : Writer := setPrimitive isInt (.int i)

/-- `avro_value_set_long`. -/
def setLong (i : Int) : Writer := setPrimitive isLong (.long i)

/-- `avro_value_set_float`. -/
def setFloat (x : Float32) : Writer := setPrimitive isFloat (.float x)

/-- `avro_value_set_double`. -/
def setDouble (x : Float) : Writer := setPrimitive isDouble (.double x)

/-- `avro_value_set_bytes`. -/
def setBytes (b : List UInt8) : Writer := setPrimitive isBytes (.bytes b)

/-- `avro_value_set_string`: the bytes of the C string. -/
def setString (str : List UInt8) : Writer := setPrimitive isString (.string str)

/-- `avro_value_set_string_len`: `size` counts the terminating `NUL`, which is not part of the
string. -/
def setStringLen (str : List UInt8) (size : Nat) : Writer :=
  setPrimitive isString (.string (str.take (size - 1)))

/-- `avro_value_set_enum`: the symbol's index is stored as given. -/
def setEnum (k : Nat) : Writer
  | .enum _ _, _ => .ok (.enum k)
  | _, _ => .error einval

/-- `avro_value_set_branch` on a union, then `f` through the handle to the branch. Selecting the
branch already selected keeps its value; selecting another starts from a fresh value of it. A
branch out of range, or a value that is not a union, is `EINVAL`. -/
def branch (i : Nat) (f : Writer) : Writer
  | .union bs, v =>
    match bs[i]? with
    | some b =>
      let current := match v with
        | .union (some (j, w)) => if j = i then w else fresh b
        | _ => fresh b
      (f b current).map fun w => .union (some (i, w))
    | none => .error einval
  | _, _ => .error einval

/-- `avro_value_get_by_index` on a record, then `f` through the handle to the field. An index
out of range, or a value that is not a record, is `EINVAL`. -/
def field (k : Nat) (f : Writer) : Writer
  | .record _ _ fs, .record vs =>
    match fs[k]?, vs[k]? with
    | some (_, t), some w => (f t w).map fun w' => .record (vs.set k w')
    | _, _ => .error einval
  | _, _ => .error einval

/-- `avro_value_append` on an array, then `f` through the handle to the new item, which starts
fresh. A value that is not an array is `EINVAL`. -/
def append (f : Writer) : Writer
  | .array t, .array items => (f t (fresh t)).map fun w => .array (items ++ [w])
  | _, _ => .error einval

/-- `avro_value_reset`. -/
def reset : Writer := fun _ v => .ok v.reset

/-! ### Getters -/

/-- `avro_value_get_by_index`: field `k` of a record, or item `k` of an array. -/
def getByIndex (k : Nat) : Value → Except Int Value
  | .record vs | .array vs =>
    match vs[k]? with
    | some v => .ok v
    | none => .error einval
  | _ => .error einval

/-- `avro_value_get_size`: the number of items of an array, or of fields of a record. -/
def getSize : Value → Except Int Nat
  | .record vs | .array vs => .ok vs.length
  | _ => .error einval

/-- `avro_value_get_long`. -/
def getLong : Value → Except Int Int
  | .long i => .ok i
  | _ => .error einval

/-- `avro_value_get_bytes`. -/
def getBytes : Value → Except Int (List UInt8)
  | .bytes b => .ok b
  | _ => .error einval

/-- `avro_value_get_string`: the string and its size, which counts the terminating `NUL`. -/
def getString : Value → Except Int (List UInt8 × Nat)
  | .string s => .ok (s, s.length + 1)
  | _ => .error einval

/-- `avro_value_get_discriminant`: the selected branch of a union, `-1` when none is. -/
def getDiscriminant : Value → Except Int Int
  | .union (some (k, _)) => .ok k
  | .union none => .ok (-1)
  | _ => .error einval

/-- `avro_value_get_current_branch`: the value in the selected branch of a union. -/
def getCurrentBranch : Value → Except Int Value
  | .union (some (_, v)) => .ok v
  | _ => .error einval

end Generic

/-- The generic value classes and the specification's binary encoding. -/
def AvroC.spec : AvroC where
  setBoolean := Generic.setBoolean
  setInt := Generic.setInt
  setLong := Generic.setLong
  setFloat := Generic.setFloat
  setDouble := Generic.setDouble
  setBytes := Generic.setBytes
  setString := Generic.setString
  setStringLen := Generic.setStringLen
  setEnum := Generic.setEnum
  branch := Generic.branch
  field := Generic.field
  append := Generic.append
  reset := Generic.reset
  getByIndex := Generic.getByIndex
  getSize := Generic.getSize
  getLong := Generic.getLong
  getBytes := Generic.getBytes
  getString := Generic.getString
  getDiscriminant := Generic.getDiscriminant
  getCurrentBranch := Generic.getCurrentBranch
  write := Binary.write
  read := Binary.read

theorem AvroC.spec_lawful : AvroC.spec.Lawful where
  setBoolean_boolean _ _ := rfl
  setInt_int _ _ := rfl
  setLong_long _ _ := rfl
  setFloat_float _ _ := rfl
  setDouble_double _ _ := rfl
  setBytes_bytes _ _ := rfl
  setString_string _ _ := rfl
  setEnum_enum _ _ _ _ := rfl
  setLong_union _ _ _ := rfl
  setStringLen_string _ _ _ := rfl
  getString_string _ := rfl
  branch_union_none f hb := by simp [AvroC.spec, Generic.branch, hb]
  getDiscriminant_union _ _ := rfl
  getCurrentBranch_union _ _ := rfl
  field_record f hf hv := by simp [AvroC.spec, Generic.field, hf, hv]
  field_error := by
    intro name space fs k n t f hf hfail v
    cases v with
    | record vs =>
      cases hv : vs[k]? with
      | none => exact ⟨einval, by simp [AvroC.spec, Generic.field, hf, hv]⟩
      | some w =>
        obtain ⟨e, he⟩ := hfail w
        exact ⟨e, by simp [AvroC.spec, Generic.field, hf, hv, he, Except.map]⟩
    | _ => exact ⟨einval, by simp [AvroC.spec, Generic.field]⟩
  getByIndex_record h := by simp [AvroC.spec, Generic.getByIndex, h]
  append_array _ _ _ := rfl
  getByIndex_array h := by simp [AvroC.spec, Generic.getByIndex, h]
  getSize_array _ := rfl
  getLong_long _ := rfl
  getBytes_bytes _ := rfl
  reset_ok _ v := ⟨v.reset, rfl⟩
  read_write rest hc hw := Binary.read_write rest hc hw

end Avro
