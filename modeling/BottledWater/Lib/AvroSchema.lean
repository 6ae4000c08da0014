import Mathlib.Tactic

set_option autoImplicit false

/-! # Avro schemas

The schema language of the Avro specification (section "Schema Declaration"), as far as a
program that generates or consumes record schemas needs it: the primitive types, records
with a name, an optional namespace and named fields, enums, arrays and unions. Names are
byte strings, since the identifiers a program builds are bytes before they are checked
against the Avro name rules.

A reference to a named type that was defined earlier (`avro_schema_link` in the C library)
is represented by the named schema itself: a reference and its target accept the same
values.
-/

namespace Avro

/-- An Avro schema. -/
inductive Schema where
  | null
  | boolean
  | int
  | long
  | float
  | double
  | bytes
  | string
  /-- A record: its name, its namespace, and its fields in order, each with a name. -/
  | record (name : List UInt8) (space : Option (List UInt8)) (fields : List (List UInt8 × Schema))
  /-- An enumeration: its name and its symbols in order. -/
  | enum (name : List UInt8) (symbols : List (List UInt8))
  | array (items : Schema)
  /-- A union; a value of it selects one branch by its position. -/
  | union (branches : List Schema)
  deriving Repr, Inhabited

namespace Schema

/-- The fields of a record schema, and no fields for any other schema. -/
def fields : Schema → List (List UInt8 × Schema)
  | record _ _ fs => fs
  | _ => []

/-- The name of a named schema. -/
def name? : Schema → Option (List UInt8)
  | record n _ _ => some n
  | enum n _ => some n
  | _ => none

/-- The namespace of a record schema. -/
def space? : Schema → Option (List UInt8)
  | record _ s _ => s
  | _ => none

end Schema

/-- `EINVAL`, the error code the C library returns for an invalid argument. -/
def einval : Int := 22

/-! ## Names -/

/-- A byte that may start a name: a letter or `_`. -/
def isNameStart (c : UInt8) : Bool :=
  (65 ≤ c && c ≤ 90) || (97 ≤ c && c ≤ 122) || c == 95

/-- A byte that may follow in a name: a letter, `_` or a digit. -/
def isNameChar (c : UInt8) : Bool :=
  isNameStart c || (48 ≤ c && c ≤ 57)

/-- The name rule of the specification, `[A-Za-z_][A-Za-z0-9_]*`, as `is_avro_id` checks it. -/
def isName : List UInt8 → Bool
  | [] => false
  | c :: cs => isNameStart c && cs.all isNameChar

/-- A digit does not start a name. -/
theorem isName_digit_cons {d : UInt8} (hd : 48 ≤ d ∧ d ≤ 57) (cs : List UInt8) :
    isName (d :: cs) = false := by
  have hstart : isNameStart d = false := by
    obtain ⟨hlo, hhi⟩ := hd
    unfold isNameStart
    grind
  simp [isName, hstart]

/-- The namespace rule of the specification: names separated by dots. -/
def isDottedName (space : List UInt8) : Bool :=
  (space.splitOn 46).all isName

/-- A dot followed by a digit breaks the namespace rule: the component after it starts with the
digit. -/
theorem isDottedName_dot_digit (pre : List UInt8) {d : UInt8} (hd : 48 ≤ d ∧ d ≤ 57)
    (rest : List UInt8) : isDottedName (pre ++ 46 :: d :: rest) = false := by
  have hd46 : (d == 46) = false := by
    obtain ⟨hlo, -⟩ := hd
    grind
  rw [isDottedName, List.splitOn_eq_splitOnP, List.splitOnP_append_cons _ _ (by decide),
    List.splitOnP_cons_eq_if_modifyHead, if_neg (by simp [hd46])]
  -- the component after the dot is the head of what follows it, with the digit in front
  rcases h : List.splitOnP (· == 46) rest with _ | ⟨first, comps⟩
  · exact absurd h (List.splitOnP_ne_nil _ _)
  · simp [isName_digit_cons hd]

/-- Two dots in a row break the namespace rule: the component between them is empty. -/
theorem isDottedName_dot_dot (pre rest : List UInt8) :
    isDottedName (pre ++ 46 :: 46 :: rest) = false := by
  rw [isDottedName, List.splitOn_eq_splitOnP, List.splitOnP_append_cons _ _ (by decide),
    List.splitOnP_cons_eq_if_modifyHead, if_pos (by decide)]
  simp [isName]

/-! ## Building record schemas -/

namespace Schema

/-- `avro_schema_record`: a record with no fields yet, or `NULL` for a name that breaks the name
rule. -/
def newRecord (name : List UInt8) (space : Option (List UInt8)) : Option Schema :=
  if isName name then some (.record name space []) else none

/-- `avro_schema_record_field_append`: the field goes last. A field name that breaks the name
rule, or a schema that is not a record, is `EINVAL` and changes nothing; names are not checked
for duplicates. -/
def appendField (s : Schema) (fieldName : List UInt8) (fieldSchema : Schema) : Int × Schema :=
  match s with
  | .record name space fs =>
    if isName fieldName then (0, .record name space (fs ++ [(fieldName, fieldSchema)]))
    else (einval, s)
  | _ => (einval, s)

theorem newRecord_of_isName {name : List UInt8} (space : Option (List UInt8))
    (h : isName name = true) : newRecord name space = some (.record name space []) := by
  simp [newRecord, h]

theorem appendField_of_isName {name fieldName : List UInt8} {space : Option (List UInt8)}
    {fs : List (List UInt8 × Schema)} (fieldSchema : Schema) (h : isName fieldName = true) :
    (record name space fs).appendField fieldName fieldSchema =
      (0, .record name space (fs ++ [(fieldName, fieldSchema)])) := by
  simp [appendField, h]

end Schema

end Avro
