import BottledWater.Client.ProtocolClient

set_option autoImplicit false

/-! # The active table list (`client/connect.c`)

The client only forwards rows of the tables listed in the table `tbl_mapps`:
`update_repl_table_entry` reads its `reloid` column in order and stores the values in the frame
reader's `active_schema_list`, an array of `MAX_TABLE_CNT` entries, and `CHECK_ACTIVE_SCHEMA`
skips a row message whose relid is not among them.

The loop stores row `i` at index `i` of the array whatever the number of rows, and the list is
only reset when the first row has a `reloid`: an empty result leaves the previous list as it
was. A write past the end of the array is undefined (`none`); it lands on
`num_active_schemas`, which the loop then increments.
-/

namespace BottledWater

open Avro

/-- `EIO`. -/
def eio : Int := 5

/-- `MAX_TABLE_CNT`, which is `FRAME_READER_ERROR_LEN`. -/
def maxTableCnt : Nat := 512

/-- The loop of `update_repl_table_entry` over the rows, with the list stored so far: each
row's `reloid` goes at the next index, `atoll` of the empty text, `0`, for a NULL. -/
def storeReloids : List (Option Int) → List Int → Option (List Int)
  | [], active => some active
  | reloid :: rows, active =>
    if active.length < maxTableCnt then storeReloids rows (active ++ [reloid.getD 0])
    else none

/-- `update_repl_table_entry` on the result of its query: `none` for a status other than
`PGRES_TUPLES_OK`, else the `reloid` of each row, `none` for NULL. When there is a first row and
its `reloid` is not NULL, the list is reset and the rows are stored; otherwise the reader is left
as it was. -/
def updateReplTableEntry (result : Option (List (Option Int))) (reader : FrameReader) :
    Option (Int × FrameReader) :=
  match result with
  | none => some (eio, reader)
  | some rows =>
    match rows with
    | some _ :: _ =>
      (storeReloids rows []).map fun active => (0, { reader with activeSchemaList := active })
    | _ => some (0, reader)

/-- The loop stores every row after the list so far, as long as the array has room for all. -/
theorem storeReloids_eq :
    ∀ (rows : List (Option Int)) (active : List Int), active.length ≤ maxTableCnt →
      storeReloids rows active =
        if active.length + rows.length ≤ maxTableCnt then
          some (active ++ rows.map fun reloid => reloid.getD 0)
        else none
  | [], active, hactive => by simp [storeReloids, hactive]
  | reloid :: rows, active, hactive => by
    rw [storeReloids]
    by_cases hroom : active.length < maxTableCnt
    · rw [if_pos hroom, storeReloids_eq rows (active ++ [reloid.getD 0]) (by simp; omega)]
      have hlen : (active ++ [reloid.getD 0]).length + rows.length =
          active.length + (reloid :: rows).length := by
        simp only [List.length_append, List.length_cons, List.length_nil]
        omega
      rw [hlen]
      simp
    · have hfull : ¬ active.length + (reloid :: rows).length ≤ maxTableCnt := by
        simp only [List.length_cons]
        omega
      rw [if_neg hroom, if_neg hfull]

/-- **What a reload stores**: when the first row has a `reloid` and there are at most
`MAX_TABLE_CNT` rows, the active list is the rows' `reloid`s in order. -/
theorem updateReplTableEntry_rows {reloid : Int} {rows : List (Option Int)}
    (hcnt : rows.length + 1 ≤ maxTableCnt) (reader : FrameReader) :
    updateReplTableEntry (some (some reloid :: rows)) reader =
      some (0, { reader with
        activeSchemaList := reloid :: rows.map fun reloid => reloid.getD 0 }) := by
  simp only [updateReplTableEntry, storeReloids_eq _ [] (Nat.zero_le _), List.length_nil,
    List.length_cons, Nat.zero_add, hcnt, if_true, Option.map_some, List.nil_append,
    List.map_cons, Option.getD_some]

/-- An empty result, or one whose first `reloid` is NULL, leaves the active list as it was. -/
theorem updateReplTableEntry_keeps {rows : List (Option Int)}
    (hrows : ∀ reloid rest, rows ≠ some reloid :: rest) (reader : FrameReader) :
    updateReplTableEntry (some rows) reader = some (0, reader) := by
  cases rows with
  | nil => rfl
  | cons first rest =>
    cases first with
    | none => rfl
    | some reloid => exact absurd rfl (hrows reloid rest)

/-- More rows than `MAX_TABLE_CNT`, the first with a `reloid`, are written past the end of the
array. -/
theorem updateReplTableEntry_overflow {reloid : Int} {rows : List (Option Int)}
    (hcnt : maxTableCnt < rows.length + 1) (reader : FrameReader) :
    updateReplTableEntry (some (some reloid :: rows)) reader = none := by
  simp only [updateReplTableEntry, storeReloids_eq _ [] (Nat.zero_le _), List.length_nil,
    List.length_cons, Nat.zero_add, Nat.not_le.mpr hcnt, if_false, Option.map_none]

/-- `CHECK_ACTIVE_SCHEMA` after a reload of at most `MAX_TABLE_CNT` rows whose first has a
`reloid`: a row message of a table is passed on exactly when its relid is one of the stored
values. -/
theorem mem_activeSchemaList_of_reload {reloid : Int} {rows : List (Option Int)}
    (hcnt : rows.length + 1 ≤ maxTableCnt) {reader reader' : FrameReader} {err : Int}
    (hreload : updateReplTableEntry (some (some reloid :: rows)) reader = some (err, reader'))
    (relid : Int) :
    relid ∈ reader'.activeSchemaList ↔
      relid ∈ (some reloid :: rows).map fun reloid => reloid.getD 0 := by
  rw [updateReplTableEntry_rows hcnt] at hreload
  obtain ⟨-, rfl⟩ := Prod.mk.inj (Option.some.inj hreload)
  rfl

/-- **An emptied mapping table keeps the previous list.** After a reload that stores the table
`1`, a reload of an empty result returns `0` and leaves `1` in the active list, so its rows are
still passed on; and a result of `MAX_TABLE_CNT + 1` rows writes past the array. -/
theorem emptied_mapping_keeps_active_list :
    ((updateReplTableEntry (some [some 1]) frameReaderNew).bind fun (_, reader) =>
      updateReplTableEntry (some []) reader) =
        some (0, { frameReaderNew with activeSchemaList := [1] }) ∧
    updateReplTableEntry (some (some 1 :: List.replicate maxTableCnt (some 1))) frameReaderNew =
      none := by
  refine ⟨?_, updateReplTableEntry_overflow (by simp) _⟩
  rw [updateReplTableEntry_rows (by decide)]
  exact updateReplTableEntry_keeps (fun _ _ => List.cons_ne_nil _ _ ∘ Eq.symm) _

end BottledWater
