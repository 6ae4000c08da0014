import BottledWater.Ext.Protocol

set_option autoImplicit false

/-! # Writing into a growing buffer (`ext/io_util.c`)

`try_writing` runs a writer callback into a memory writer over the data area of a `bytea` it
allocates. When the callback, or the `NUL` written after its output, fails with `ENOSPC`, it
frees the buffer and tries again with one four times larger, as long as the size stays within
`MAX_BUFFER_LENGTH` bytes. On success `VARSIZE` counts the output and the header, and a `NUL`
follows the output, which `update_frame_with_table_schema` relies on.

`tryWriting` of `Ext/Protocol` is what the callers read of this: the output, when it fits with
its `NUL`. `tryWriting_eq_map` connects the two for every callback that emits its output.
-/

namespace BottledWater
namespace IoUtil

open Avro Binary

/-- The `bytea` that `try_writing` fills: its `VARSIZE`, and the bytes written into its data
area after the header. -/
structure Bytea where
  varsize : Nat
  data : List UInt8
  deriving DecidableEq, Repr

section Loop

variable {W : Type} (M : MemoryIface W)

/-- The loop of `try_writing` at a buffer of `size` bytes, entered while the error is `ENOSPC`:
within `MAX_BUFFER_LENGTH` it allocates the buffer, runs the callback into a writer over its data
area, and on success sets `VARSIZE` and writes the `NUL`; an `ENOSPC` from either grows the
buffer fourfold. -/
def tryWritingLoop (cb : W → Int × W) (size : Nat) (hsize : 0 < size) : Except Int Bytea :=
  if size ≤ maxBufferLength then
    let (err, writer) := cb (M.new (size - varhdrsz))
    let varsize := M.tell writer + varhdrsz
    let (err, writer) := if err = 0 then M.write writer [0] else (err, writer)
    if err = enospc then tryWritingLoop cb (size * 4) (Nat.mul_pos hsize (by norm_num))
    else if err = 0 then .ok { varsize, data := M.written writer }
    else .error err
  else .error enospc
termination_by maxBufferLength + 1 - size

/-- `try_writing`, from a buffer of `INIT_BUFFER_LENGTH` bytes. -/
def tryWriting (cb : W → Int × W) : Except Int Bytea :=
  tryWritingLoop M cb initBufferLength (by decide)

/-! ## The attempts -/

variable {M}

/-- Beyond `MAX_BUFFER_LENGTH` the loop ends with `ENOSPC`. -/
theorem tryWritingLoop_exit (cb : W → Int × W) {size : Nat} (hsize : 0 < size)
    (h : maxBufferLength < size) :
    tryWritingLoop M cb size hsize = .error enospc := by
  rw [tryWritingLoop, if_neg (Nat.not_le.mpr h)]

/-- Two callbacks that do the same in a buffer of `size` bytes make the same attempt there. -/
theorem tryWritingLoop_congr {cb cb' : W → Int × W} {size : Nat} (hsize : 0 < size)
    (hcb : cb (M.new (size - varhdrsz)) = cb' (M.new (size - varhdrsz)))
    (hretry : tryWritingLoop M cb (size * 4) (Nat.mul_pos hsize (by decide)) =
      tryWritingLoop M cb' (size * 4) (Nat.mul_pos hsize (by decide))) :
    tryWritingLoop M cb size hsize = tryWritingLoop M cb' size hsize := by
  conv_lhs => rw [tryWritingLoop]
  conv_rhs => rw [tryWritingLoop]
  rw [hcb, hretry]

/-- The sizes `try_writing` tries: `INIT_BUFFER_LENGTH` times `1`, `4`, `16` and `64`. -/
def attemptSizes : List Nat := [16384, 65536, 262144, 1048576]

/-- **`try_writing` makes at most four attempts**: whatever the callbacks, two that do the same
in the buffers of the four sizes make `try_writing` return the same. -/
theorem tryWriting_congr {cb cb' : W → Int × W}
    (h : ∀ size ∈ attemptSizes, cb (M.new (size - varhdrsz)) = cb' (M.new (size - varhdrsz))) :
    tryWriting M cb = tryWriting M cb' := by
  have hexit : ∀ c : W → Int × W,
      tryWritingLoop M c (16384 * 4 * 4 * 4 * 4) (by norm_num) = .error enospc :=
    fun c => tryWritingLoop_exit c _ (by norm_num [maxBufferLength])
  unfold tryWriting initBufferLength
  refine tryWritingLoop_congr _ (h _ (by simp [attemptSizes])) ?_
  refine tryWritingLoop_congr _ (h _ (by simp [attemptSizes])) ?_
  refine tryWritingLoop_congr _ (h _ (by simp [attemptSizes])) ?_
  refine tryWritingLoop_congr _ (h _ (by simp [attemptSizes])) ?_
  rw [hexit, hexit]

end Loop

/-! ## A callback that emits its output -/

variable {W : Type} {M : MemoryIface W}

variable (M) in
/-- A callback that emits `out`: into a fresh writer with room for it, it writes exactly `out`,
keeps the writer's size and answers `0`; into one without, it answers `ENOSPC`. -/
structure Emits (cb : W → Int × W) (out : List UInt8) : Prop where
  fits : ∀ len, out.length ≤ len →
    (cb (M.new len)).1 = 0 ∧ M.written (cb (M.new len)).2 = out ∧ M.len (cb (M.new len)).2 = len
  overflows : ∀ len, len < out.length → (cb (M.new len)).1 = enospc

/-- A callback that writes `out` with one `avro_write` emits it. -/
theorem emits_write (hM : M.Lawful) (out : List UInt8) : Emits M (fun w => M.write w out) out where
  fits len h := by
    have hroom : (M.written (M.new len)).length + out.length ≤ M.len (M.new len) := by
      simpa [hM.written_new, hM.len_new] using h
    obtain ⟨h0, hwritten, hlen⟩ := hM.write_fits _ _ hroom
    exact ⟨h0, by simpa [hM.written_new] using hwritten, by simpa [hM.len_new] using hlen⟩
  overflows len h := by
    have hover : M.len (M.new len) < (M.written (M.new len)).length + out.length := by
      simpa [hM.written_new, hM.len_new] using h
    simp [hM.write_enospc _ _ hover]

section Emits

variable {cb : W → Int × W} {out : List UInt8} (hM : M.Lawful) (hcb : Emits M cb out)
include hM hcb

/-- One attempt of a callback that emits `out`: the output and its `NUL` fit the data area and
are returned, or the buffer grows. -/
theorem tryWritingLoop_emits {size : Nat} (hsize : 0 < size) :
    tryWritingLoop M cb size hsize =
      if size ≤ maxBufferLength then
        if out.length + 1 ≤ size - varhdrsz then .ok ⟨out.length + varhdrsz, out ++ [0]⟩
        else tryWritingLoop M cb (size * 4) (Nat.mul_pos hsize (by decide))
      else .error enospc := by
  rw [tryWritingLoop]
  by_cases hmax : size ≤ maxBufferLength
  · simp only [hmax, if_true]
    by_cases hroom : out.length ≤ size - varhdrsz
    · -- the callback writes `out` into the writer `w` over the buffer, and answers `0`
      obtain ⟨h0, hwritten, hlen⟩ := hcb.fits _ hroom
      rcases hc : cb (M.new (size - varhdrsz)) with ⟨err, w⟩
      rw [hc] at h0 hwritten hlen
      subst h0
      by_cases hfit : out.length + 1 ≤ size - varhdrsz
      · -- the output and the `NUL` fit
        obtain ⟨hw0, hww, -⟩ := hM.write_fits w [0] (by simp [hwritten, hlen, hfit])
        rcases hwr : M.write w [0] with ⟨err', w'⟩
        rw [hwr] at hw0 hww
        simp [hw0, hww, hM.tell_eq, hwritten, hfit, enospc]
      · -- the output fills the data area: the `NUL` does not fit
        rw [hM.write_enospc w [0] (by simp [hwritten, hlen]; omega)]
        simp [hfit]
    · -- the callback runs out of room
      have hfit : ¬ out.length + 1 ≤ size - varhdrsz := by omega
      have herr := hcb.overflows _ (Nat.lt_of_not_le hroom)
      simp [herr, hfit, enospc]
  · simp only [hmax, if_false]

/-- What `try_writing` returns for a callback that emits `out`: the output with `VARSIZE`
counting it and the header, and a `NUL` after it, when the two fit the largest buffer;
otherwise `ENOSPC`. -/
theorem tryWriting_emits :
    tryWriting M cb =
      if out.length + 1 ≤ maxBufferLength - varhdrsz then
        .ok ⟨out.length + varhdrsz, out ++ [0]⟩
      else .error enospc := by
  unfold tryWriting
  rw [tryWritingLoop_emits hM hcb, tryWritingLoop_emits hM hcb, tryWritingLoop_emits hM hcb,
    tryWritingLoop_emits hM hcb, tryWritingLoop_exit _ _ (by norm_num [initBufferLength,
      maxBufferLength])]
  simp only [initBufferLength, maxBufferLength, varhdrsz]
  -- the four sizes, and whether the output fits each
  norm_num
  split_ifs <;> first | rfl | omega

/-- **`try_writing` of a callback that emits `out`**: it makes at most four attempts, at the
sizes `attemptSizes`, and returns the output, its `VARSIZE` and the `NUL` after it exactly when
the output and the `NUL` fit `MAX_BUFFER_LENGTH - VARHDRSZ` bytes; otherwise `ENOSPC`. -/
theorem tryWriting_of_emits :
    (∀ cb' : W → Int × W,
      (∀ size ∈ attemptSizes, cb' (M.new (size - varhdrsz)) = cb (M.new (size - varhdrsz))) →
      tryWriting M cb' = tryWriting M cb) ∧
    tryWriting M cb =
      if out.length + 1 ≤ maxBufferLength - varhdrsz then
        .ok ⟨out.length + varhdrsz, out ++ [0]⟩
      else .error enospc :=
  ⟨fun _ h => tryWriting_congr h, tryWriting_emits hM hcb⟩

/-- The faithful `try_writing` refines the `tryWriting` the protocol is written with: the same
output, now with its `VARSIZE` and `NUL`. -/
theorem tryWriting_eq_map :
    tryWriting M cb =
      (BottledWater.tryWriting (.ok out)).map fun out => ⟨out.length + varhdrsz, out ++ [0]⟩ := by
  rw [tryWriting_emits hM hcb, BottledWater.tryWriting_ok]
  split_ifs <;> rfl

end Emits

theorem tryWriting_of_emits_write :
    Emits MemoryWriter.iface (fun w => w.write [1, 2, 3]) [1, 2, 3] ∧
    (∀ cb' : MemoryWriter → Int × MemoryWriter,
      (∀ size ∈ attemptSizes, cb' (MemoryWriter.iface.new (size - varhdrsz)) =
        (MemoryWriter.iface.new (size - varhdrsz)).write [1, 2, 3]) →
      tryWriting MemoryWriter.iface cb' =
        tryWriting MemoryWriter.iface (fun w => w.write [1, 2, 3])) ∧
    tryWriting MemoryWriter.iface (fun w => w.write [1, 2, 3]) =
      if [1, 2, 3].length + 1 ≤ maxBufferLength - varhdrsz then
        .ok ⟨[1, 2, 3].length + varhdrsz, [1, 2, 3] ++ [0]⟩
      else .error enospc :=
  ⟨emits_write MemoryWriter.iface_lawful _,
    tryWriting_of_emits MemoryWriter.iface_lawful (emits_write MemoryWriter.iface_lawful [1, 2, 3])⟩

end IoUtil
end BottledWater
