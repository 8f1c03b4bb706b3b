import GoogleCamera.Emulated.Remosaic

/-!
# RAW capture, the Bayer layouts and what remosaicing does to them

`EmulatedSensor::CaptureRaw` writes one 16-bit sample per pixel of the sensor's image, row by
row, each row at `row_stride_in_bytes` from the last:

    unsigned int image_width =
        in_sensor_zoom || binned ? chars.width : chars.full_res_width;
    ...
    for (unsigned int out_y = 0; out_y < image_height; out_y++) {
      int* bayer_row = bayer_select + (out_y & 0x1) * 2;
      uint16_t* px = (uint16_t*)img + out_y * (row_stride_in_bytes / 2);
      for (unsigned int out_x = 0; out_x < image_width; out_x++) {
        int color_idx = chars.quad_bayer_sensor && !(in_sensor_zoom || binned)
                            ? GetQuadBayerColor(out_x, out_y)
                            : bayer_row[out_x & 0x1];
        ...
        *px++ = raw_count;

A sample's value (scene, gain, noise) is not modelled; where it is written and which colour
channel of the scene it reads are. A quad-Bayer sensor's full-resolution image has the quad
layout of `GetQuadBayerColor`, where each colour covers a 2 × 2 square; every other image has
the RGGB layout of `bayer_select`. `RemosaicRAW16Image`, which serves a RAW16 reprocess on a
quad-Bayer sensor, turns the first into the second with one fixed permutation of each 4 × 4
block, `quad_block_copy_idx_map`.

## What is proved

* `mem_captureRaw`: `CaptureRaw` writes each pixel of its image once, at two bytes from
  `2 * (out_y * (row_stride_in_bytes / 2) + out_x)`, so its last byte is at
  `2 * ((H - 1) * (row_stride_in_bytes / 2) + W) - 1` (`captureRaw_fits_iff`).
* `remosaicRAW16Image_out`: in a buffer whose rows hold the remosaiced area (`RowsHoldBlocks`:
  the stride fits the `int` parameter, a row holds the full-resolution width rounded up to whole
  blocks, and every offset of the area fits an `unsigned int`), each pixel of the area holds, after
  the loop, the input pixel of its own block that `quad_block_copy_idx_map` names
  (`remosaicSource`). Each block's pixels are permuted: none is lost or written twice
  (`remosaic_block_perm`).
* `remosaic_restores_bayer_colors`: from a quad-Bayer image, every output pixel holds a sample
  of the colour (red, green or blue) that the RGGB layout gives its position, so the output has
  the layout `CaptureRaw` writes for a regular Bayer sensor. The two greens are not kept apart:
  on six of the eight green sites of every block the sample is of the other green channel.
* `remosaic_unpadded_rows_red_on_green`: rows that do not hold the rounded-up width, as at a
  width of 2 modulo 4 with unpadded rows, let the last block column write into the next row; the
  green site at the start of the second row is left holding a red sample.
-/

namespace GoogleCamera.Emulated

/-! ### Colour channels and the two layouts -/

/-- `EmulatedScene::ColorChannels`, the four channels of a colour filter array. -/
inductive ColorChannel where
  | r
  | gr
  | gb
  | b
  deriving DecidableEq, Repr

/-- The colour of a channel's filter: `Gr` and `Gb` are the greens of the red and blue rows. -/
inductive FilterColor where
  | red
  | green
  | blue
  deriving DecidableEq, Repr

/-- The colour of a channel's filter. -/
def ColorChannel.color : ColorChannel → FilterColor
  | .r => .red
  | .gr => .green
  | .gb => .green
  | .b => .blue

/-- `EmulatedSensor::GetQuadBayerColor`. -/
def getQuadBayerColor (x y : Nat) : ColorChannel :=
  let rowMod := y % 4
  let colMod := x % 4
  if rowMod < 2 then
    if colMod < 2 then .r else .gr
  else if colMod < 2 then .gb else .b

/-- `bayer_select` of `CaptureRaw`: RGGB. -/
def bayerSelect : List ColorChannel := [.r, .gr, .gb, .b]

/-- `bayer_row[out_x & 0x1]`, with `bayer_row = bayer_select + (out_y & 0x1) * 2`. -/
def bayerColor (x y : Nat) : ColorChannel := bayerSelect.getD ((y &&& 1) * 2 + (x &&& 1)) .r

theorem getQuadBayerColor_mod (x y : Nat) : getQuadBayerColor x y = getQuadBayerColor (x % 4) (y % 4) := by
  simp only [getQuadBayerColor, Nat.mod_mod]

theorem bayerColor_mod (x y : Nat) : bayerColor x y = bayerColor (x % 4) (y % 4) := by
  simp only [bayerColor, Nat.and_one_is_mod, Nat.mod_mod_of_dvd _ (by decide : 2 ∣ 4)]

/-! ### `CaptureRaw` -/

/-- One sample `CaptureRaw` writes: its pixel, the offset from `img` of its two bytes, and the
channel it reads from the scene. -/
structure RawSample where
  outX : Nat
  outY : Nat
  offset : Nat
  channel : ColorChannel
  deriving DecidableEq, Repr

/-- The size of the image `CaptureRaw` writes: the sensor's default size when binned or zoomed
in the sensor, its full resolution otherwise. -/
def rawImageSize (chars : SensorCharacteristics) (inSensorZoom binned : Bool) : Nat × Nat :=
  if inSensorZoom || binned then (chars.width, chars.height)
  else (chars.fullResWidth, chars.fullResHeight)

/-- The channel `CaptureRaw` reads for a pixel. -/
def rawChannel (chars : SensorCharacteristics) (inSensorZoom binned : Bool) (x y : Nat) :
    ColorChannel :=
  if chars.quadBayerSensor && !(inSensorZoom || binned) then getQuadBayerColor x y
  else bayerColor x y

/-- `EmulatedSensor::CaptureRaw`: the samples it writes, in order. In-sensor zoom in binned
mode writes nothing. -/
def captureRaw (chars : SensorCharacteristics) (rowStrideInBytes : Nat)
    (inSensorZoom binned : Bool) : List RawSample :=
  if inSensorZoom && binned then []
  else
    let size := rawImageSize chars inSensorZoom binned
    (List.range size.2).flatMap fun outY =>
      (List.range size.1).map fun outX =>
        { outX := outX, outY := outY, offset := 2 * (outY * (rowStrideInBytes / 2) + outX),
          channel := rawChannel chars inSensorZoom binned outX outY }

/-- `EmulatedSensor::CaptureRawBinned`. -/
def captureRawBinned (chars : SensorCharacteristics) (rowStrideInBytes : Nat) : List RawSample :=
  captureRaw chars rowStrideInBytes false true

/-- `EmulatedSensor::CaptureRawInSensorZoom`. -/
def captureRawInSensorZoom (chars : SensorCharacteristics) (rowStrideInBytes : Nat) :
    List RawSample :=
  captureRaw chars rowStrideInBytes true false

/-- `EmulatedSensor::CaptureRawFullRes`. -/
def captureRawFullRes (chars : SensorCharacteristics) (rowStrideInBytes : Nat) :
    List RawSample :=
  captureRaw chars rowStrideInBytes false false

theorem mem_captureRaw {chars : SensorCharacteristics} {stride : Nat} {zoom binned : Bool}
    (h : (zoom && binned) = false) {s : RawSample} :
    s ∈ captureRaw chars stride zoom binned ↔
      s.outX < (rawImageSize chars zoom binned).1 ∧ s.outY < (rawImageSize chars zoom binned).2 ∧
        s.offset = 2 * (s.outY * (stride / 2) + s.outX) ∧
        s.channel = rawChannel chars zoom binned s.outX s.outY := by
  obtain ⟨x, y, o, c⟩ := s
  simp only [captureRaw, h, Bool.false_eq_true, if_false, List.mem_flatMap, List.mem_range,
    List.mem_map, RawSample.mk.injEq]
  constructor
  · rintro ⟨y', hy, x', hx, rfl, rfl, rfl, rfl⟩
    exact ⟨hx, hy, rfl, rfl⟩
  · rintro ⟨hx, hy, rfl, rfl⟩
    exact ⟨y, hy, x, hx, rfl, rfl, rfl, rfl⟩

/-- `CaptureRaw` writes inside `size` bytes exactly when its last sample's two bytes do. -/
theorem captureRaw_fits_iff (chars : SensorCharacteristics) (stride : Nat) {zoom binned : Bool}
    (h : (zoom && binned) = false) (hw : 1 ≤ (rawImageSize chars zoom binned).1)
    (hh : 1 ≤ (rawImageSize chars zoom binned).2) (size : Nat) :
    (∀ s ∈ captureRaw chars stride zoom binned, s.offset + 2 ≤ size) ↔
      2 * (((rawImageSize chars zoom binned).2 - 1) * (stride / 2) +
        (rawImageSize chars zoom binned).1) ≤ size := by
  generalize hW : (rawImageSize chars zoom binned).1 = W at hw
  generalize hH : (rawImageSize chars zoom binned).2 = H at hh
  constructor
  · intro hall
    have hlast := hall ⟨W - 1, H - 1, 2 * ((H - 1) * (stride / 2) + (W - 1)),
      rawChannel chars zoom binned (W - 1) (H - 1)⟩ ((mem_captureRaw h).mpr
        ⟨show W - 1 < _ by omega, show H - 1 < _ by omega, rfl, rfl⟩)
    simp only at hlast
    omega
  · intro hsize s hs
    obtain ⟨hx, hy, ho, -⟩ := (mem_captureRaw h).mp hs
    rw [hW] at hx
    rw [hH] at hy
    have : s.outY * (stride / 2) ≤ (H - 1) * (stride / 2) := Nat.mul_le_mul_right _ (by omega)
    omega

/-! ### What `RemosaicRAW16Image` leaves in each pixel -/

/-- The input pixel the remosaic writes at `(x, y)`: the pixel of the same 4 × 4 block whose
index in the block's copy, `quad_block_copy_idx_map[row + 4 * j]`, the loop reads for row
`row = y % 4` and column `j = x % 4`. -/
def remosaicSource (x y : Nat) : Nat × Nat :=
  let k := quadBlockCopyIdxMap.getD (y % 4 + 4 * (x % 4)) 0
  (x / 4 * 4 + k % 4, y / 4 * 4 + k / 4)

theorem quadBlockCopyIdxMap_getD_lt (i : Nat) : quadBlockCopyIdxMap.getD i 0 < 16 := by
  by_cases hi : i < 16
  · exact (by decide : ∀ i < 16, quadBlockCopyIdxMap.getD i 0 < 16) i hi
  · rw [List.getD_eq_getElem?_getD, List.getElem?_eq_none (by simp [quadBlockCopyIdxMap]; omega)]
    decide

/-- The rows of a buffer of stride `rowStrideInBytes` hold the remosaiced area: the stride fits
the `int` parameter of `RemosaicQuadBayerBlock`, a row holds the full-resolution width rounded up
to whole blocks, and every offset of the area fits an `unsigned int`. -/
structure RowsHoldBlocks (chars : SensorCharacteristics) (rowStrideInBytes : Nat) : Prop where
  strideFitsInt : rowStrideInBytes < 2147483648
  widthFits : (chars.fullResWidth + 3) / 4 * 4 ≤ rowStrideInBytes / 2
  offsetsFit : (chars.fullResHeight + 3) / 4 * 4 * (rowStrideInBytes / 2) ≤ 4294967296

theorem halfRowStride_of_lt {S : Nat} (h : S < 2147483648) : halfRowStride S = S / 2 := by
  have h1 : int32Of S = S := by unfold int32Of; omega
  rw [halfRowStride, h1, Int.tdiv_eq_ediv (by omega) (by decide)]
  unfold uint32Of
  omega

/-- Within the 32-bit limits, row `row` of a block starts at
`(ystart + row) * (row_stride_in_bytes / 2) + xstart`. -/
theorem blockRowOffset_of_lt {xstart ystart S row : Nat} (hS : S < 2147483648)
    (h : (ystart + row) * (S / 2) + xstart < 4294967296) :
    blockRowOffset xstart ystart S row = (ystart + row) * (S / 2) + xstart := by
  rw [blockRowOffset, halfRowStride_of_lt hS, uint32Mul_of_lt (by omega), uint32Add_of_lt h]

/-- Pixel `(x, y)` of rows `h` pixels apart, for `x < h`, is given back by its offset. -/
theorem offset_div_mod {h x y : Nat} (hx : x < h) : (y * h + x) / h = y ∧ (y * h + x) % h = x := by
  rw [Nat.add_comm, Nat.add_mul_div_right _ _ (by omega), Nat.add_mul_mod_self_right,
    Nat.div_eq_of_lt hx, Nat.mod_eq_of_lt hx, Nat.zero_add]
  exact ⟨rfl, rfl⟩

/-- A loop that writes, at offset `key i`, a value that depends on the offset only leaves every
offset it writes with that value and every other as it was. -/
theorem foldl_update_apply {β : Type} (key : Nat → Nat) (v val : Nat → β) :
    ∀ (is : List Nat) (out : Nat → β), (∀ i ∈ is, v i = val (key i)) → ∀ o,
      (is.foldl (fun out i => Function.update out (key i) (v i)) out) o =
        if o ∈ is.map key then val o else out o
  | [], _, _, _ => by simp
  | i :: is, out, hv, o => by
    rw [List.foldl_cons, foldl_update_apply key v val is _ (fun j hj => hv j (.tail _ hj)),
      Function.update_apply, hv i (.head _)]
    by_cases h1 : o ∈ is.map key <;> by_cases h2 : o = key i <;> simp [h1, h2]

/-- An offset that no write of the loop reaches keeps its value. -/
theorem foldl_update_of_forall_ne {β : Type} (key : Nat → Nat) (v : Nat → β) {o : Nat} :
    ∀ (is : List Nat) (out : Nat → β), (∀ i ∈ is, key i ≠ o) →
      (is.foldl (fun out i => Function.update out (key i) (v i)) out) o = out o
  | [], _, _ => rfl
  | i :: is, out, h => by
    rw [List.foldl_cons, foldl_update_of_forall_ne key v is _ (fun j hj => h j (.tail _ hj)),
      Function.update_noteq (h i (.head _)).symm]

/-- The last write of the loop to an offset decides its value. -/
theorem foldl_update_last {β : Type} (key : Nat → Nat) (v : Nat → β) {o i0 : Nat}
    {is l1 l2 : List Nat} (his : is = l1 ++ i0 :: l2) (h0 : key i0 = o)
    (h2 : ∀ i ∈ l2, key i ≠ o) (out : Nat → β) :
    (is.foldl (fun out i => Function.update out (key i) (v i)) out) o = v i0 := by
  rw [his, List.foldl_append, List.foldl_cons, foldl_update_of_forall_ne key v l2 _ h2, ← h0,
    Function.update_same]

/-- What the remosaic leaves at offset `o` of rows `h` pixels apart: the input at the offset of
the source of pixel `(o % h, o / h)`. -/
def remosaicValue (imgIn : Plane) (h o : Nat) : UInt16 :=
  imgIn ((remosaicSource (o % h) (o / h)).2 * h + (remosaicSource (o % h) (o / h)).1)

theorem remosaicSource_block {xs ys i : Nat} (hx : xs % 4 = 0) (hy : ys % 4 = 0) (hi : i < 16) :
    remosaicSource (xs + i % 4) (ys + i / 4) =
      (xs + quadBlockCopyIdxMap.getD (i / 4 + 4 * (i % 4)) 0 % 4,
        ys + quadBlockCopyIdxMap.getD (i / 4 + 4 * (i % 4)) 0 / 4) := by
  simp only [remosaicSource]
  rw [show (ys + i / 4) % 4 = i / 4 by omega, show (xs + i % 4) % 4 = i % 4 by omega,
    show (xs + i % 4) / 4 * 4 = xs by omega, show (ys + i / 4) / 4 * 4 = ys by omega]

section Block

variable {xs ys S : Nat} (hS : S < 2147483648) (hrow : xs + 4 ≤ S / 2)
  (hwrap : (ys + 4) * (S / 2) ≤ 4294967296)
include hS hrow hwrap

/-- Within the limits, the `i`-th pixel of the block is at the row-major offset of
`(xs + i % 4, ys + i / 4)`. -/
theorem block_offset {i : Nat} (hi : i < 16) :
    blockRowOffset xs ys S (i / 4) + i % 4 = (ys + i / 4) * (S / 2) + (xs + i % 4) := by
  have : (ys + i / 4) * (S / 2) + S / 2 ≤ (ys + 4) * (S / 2) := by
    rw [← Nat.succ_mul]; exact Nat.mul_le_mul_right _ (by omega)
  rw [blockRowOffset_of_lt hS (by omega), Nat.add_assoc]

/-- One block writes, at each offset of its square, the input at its source's offset, and
leaves the other offsets. -/
theorem remosaicQuadBayerBlock_out (hx : xs % 4 = 0) (hy : ys % 4 = 0) (imgIn : Plane)
    (r : Remosaiced) (o : Nat) :
    (remosaicQuadBayerBlock imgIn r xs ys S).out o =
      if (o % (S / 2) / 4 * 4, o / (S / 2) / 4 * 4) = (xs, ys) then remosaicValue imgIn (S / 2) o
      else r.out o := by
  have hkey : ∀ i < 16, (o % (S / 2), o / (S / 2)) = (xs + i % 4, ys + i / 4) ↔
      o = blockRowOffset xs ys S (i / 4) + i % 4 := fun i hi => by
    rw [block_offset hS hrow hwrap hi, Prod.mk.injEq]
    constructor
    · rintro ⟨h1, h2⟩; rw [← h1, ← h2, Nat.mul_comm, Nat.div_add_mod]
    · rintro rfl
      obtain ⟨h1, h2⟩ := offset_div_mod (y := ys + i / 4) (show xs + i % 4 < S / 2 by omega)
      exact ⟨h2, h1⟩
  simp only [remosaicQuadBayerBlock]
  rw [foldl_update_apply _ _ (remosaicValue imgIn (S / 2)) _ _ (fun i hi => ?_)]
  · congr 1
    simp only [List.mem_map, List.mem_range, Prod.mk.injEq, eq_iff_iff]
    constructor
    · rintro ⟨i, hi, rfl⟩
      obtain ⟨h1, h2⟩ := Prod.mk.inj ((hkey i hi).mpr rfl)
      rw [h1, h2]; omega
    · rintro ⟨h1, h2⟩
      refine ⟨(o / (S / 2) - ys) * 4 + (o % (S / 2) - xs), by omega, ((hkey _ (by omega)).mp ?_).symm⟩
      rw [Prod.mk.injEq]; omega
  · have hi := List.mem_range.mp hi
    have hk := quadBlockCopyIdxMap_getD_lt (i / 4 + 4 * (i % 4))
    obtain ⟨h1, h2⟩ := offset_div_mod (y := ys + i / 4) (show xs + i % 4 < S / 2 by omega)
    rw [List.getD_eq_getElem?_getD, List.getElem?_map, List.getElem?_range hk, Option.map_some',
      Option.getD_some, block_offset hS hrow hwrap hi, remosaicValue, h1, h2,
      remosaicSource_block hx hy hi, block_offset hS hrow hwrap hk]

end Block

/-- A block none of whose offsets is `o` leaves `o` as it was. -/
theorem remosaicQuadBayerBlock_out_of_forall_ne (imgIn : Plane) (r : Remosaiced) {xs ys S o : Nat}
    (h : ∀ i < 16, blockRowOffset xs ys S (i / 4) + i % 4 ≠ o) :
    (remosaicQuadBayerBlock imgIn r xs ys S).out o = r.out o :=
  foldl_update_of_forall_ne _ _ _ _ fun i hi => h i (List.mem_range.mp hi)

theorem foldl_remosaicQuadBayerBlock_out_of_forall_ne (imgIn : Plane) {S o : Nat} :
    ∀ (os : List (Nat × Nat)) (r : Remosaiced),
      (∀ b ∈ os, ∀ i < 16, blockRowOffset b.1 b.2 S (i / 4) + i % 4 ≠ o) →
      (os.foldl (fun r b => remosaicQuadBayerBlock imgIn r b.1 b.2 S) r).out o = r.out o
  | [], _, _ => rfl
  | b :: os, r, h => by
    rw [List.foldl_cons, foldl_remosaicQuadBayerBlock_out_of_forall_ne imgIn os _
      (fun b' hb' => h b' (.tail _ hb')), remosaicQuadBayerBlock_out_of_forall_ne imgIn r (h b (.head _))]

/-- Over aligned blocks within the limits, an offset holds the input at its source's offset when
its pixel's block is among them. -/
theorem foldl_remosaicQuadBayerBlock_out (imgIn : Plane) {S : Nat} (hS : S < 2147483648) (o : Nat) :
    ∀ (os : List (Nat × Nat)) (r : Remosaiced),
      (∀ b ∈ os, b.1 % 4 = 0 ∧ b.2 % 4 = 0 ∧ b.1 + 4 ≤ S / 2 ∧ (b.2 + 4) * (S / 2) ≤ 4294967296) →
      (os.foldl (fun r b => remosaicQuadBayerBlock imgIn r b.1 b.2 S) r).out o =
        if (o % (S / 2) / 4 * 4, o / (S / 2) / 4 * 4) ∈ os then remosaicValue imgIn (S / 2) o
        else r.out o
  | [], _, _ => by simp
  | b :: os, r, h => by
    obtain ⟨h1, h2, h3, h4⟩ := h b (.head _)
    rw [List.foldl_cons, foldl_remosaicQuadBayerBlock_out imgIn hS o os _
      (fun b' hb' => h b' (.tail _ hb')), remosaicQuadBayerBlock_out hS h3 h4 h1 h2]
    by_cases hos : (o % (S / 2) / 4 * 4, o / (S / 2) / 4 * 4) ∈ os <;>
      by_cases hb : (o % (S / 2) / 4 * 4, o / (S / 2) / 4 * 4) = b <;> simp [hos, hb]

theorem mem_blockOrigins_iff {width height x y : Nat} :
    (x / 4 * 4, y / 4 * 4) ∈ blockOrigins width height ↔
      x < (width + 3) / 4 * 4 ∧ y < (height + 3) / 4 * 4 := by
  simp only [blockOrigins, List.mem_flatMap, List.mem_map, mem_blockStarts, Prod.mk.injEq]
  constructor
  · rintro ⟨i, ⟨-, hi⟩, j, ⟨-, hj⟩, rfl, rfl⟩
    omega
  · rintro ⟨hx, hy⟩
    exact ⟨x / 4 * 4, ⟨by omega, by omega⟩, y / 4 * 4, ⟨by omega, by omega⟩, rfl, rfl⟩

/-- On an even full-resolution size, in a buffer whose rows hold the remosaiced area,
`RemosaicRAW16Image` leaves each pixel of the area holding the input pixel that is its source,
and every other offset of the output as it was. -/
theorem remosaicRAW16Image_out (imgIn imgOut : Plane) (S : Nat) (chars : SensorCharacteristics)
    (hw : chars.fullResWidth % 2 = 0) (hh : chars.fullResHeight % 2 = 0)
    (hrows : RowsHoldBlocks chars S) :
    ∃ r, remosaicRAW16Image imgIn imgOut S chars = .ok r ∧ ∀ o,
      r.out o =
        if o % (S / 2) < (chars.fullResWidth + 3) / 4 * 4 ∧
          o / (S / 2) < (chars.fullResHeight + 3) / 4 * 4 then remosaicValue imgIn (S / 2) o
        else imgOut o := by
  obtain ⟨hS, hW, hH⟩ := hrows
  refine ⟨_, if_neg (by omega), fun o => ?_⟩
  rw [foldl_remosaicQuadBayerBlock_out imgIn hS o _ _ fun b hb => ?_]
  · simp only [mem_blockOrigins_iff]
  · simp only [blockOrigins, List.mem_flatMap, List.mem_map] at hb
    obtain ⟨i, hi, j, hj, rfl⟩ := hb
    obtain ⟨hi4, hi⟩ := mem_blockStarts.mp hi
    obtain ⟨hj4, hj⟩ := mem_blockStarts.mp hj
    exact ⟨hi4, hj4, by omega,
      Nat.le_trans (Nat.mul_le_mul_right _ (by omega)) hH⟩

/-- The pixel form of `remosaicRAW16Image_out`. -/
theorem remosaicRAW16Image_pixel (imgIn imgOut : Plane) (S : Nat) (chars : SensorCharacteristics)
    (hw : chars.fullResWidth % 2 = 0) (hh : chars.fullResHeight % 2 = 0)
    (hrows : RowsHoldBlocks chars S) :
    ∃ r, remosaicRAW16Image imgIn imgOut S chars = .ok r ∧ ∀ x y,
      x < (chars.fullResWidth + 3) / 4 * 4 → y < (chars.fullResHeight + 3) / 4 * 4 →
        r.out (y * (S / 2) + x) =
          imgIn ((remosaicSource x y).2 * (S / 2) + (remosaicSource x y).1) := by
  obtain ⟨r, hr, hout⟩ := remosaicRAW16Image_out imgIn imgOut S chars hw hh hrows
  refine ⟨r, hr, fun x y hx hy => ?_⟩
  obtain ⟨h1, h2⟩ := offset_div_mod (y := y) (Nat.lt_of_lt_of_le hx hrows.widthFits)
  rw [hout, h1, h2, if_pos ⟨hx, hy⟩, remosaicValue, h1, h2]

/-! ### Each block is permuted -/

theorem blockPixels_eq (xs ys : Nat) :
    blockPixels xs ys = (List.range 16).map fun i => (xs + i % 4, ys + i / 4) := rfl

/-- `quad_block_copy_idx_map`, read as the loop reads it (`row + 4 * j` for the pixel at row
`row` and column `j`), is a permutation of the block's sixteen indices. -/
theorem remosaic_index_perm :
    ((List.range 16).map fun i => quadBlockCopyIdxMap.getD (i / 4 + 4 * (i % 4)) 0).Perm
      (List.range 16) := by
  decide

/-- On an even full-resolution size, in a buffer whose rows hold the remosaiced area, the output
pixels of every block of the area are its input pixels, permuted: none is lost and none is
written twice. -/
theorem remosaic_block_perm (imgIn imgOut : Plane) (S : Nat) (chars : SensorCharacteristics)
    (hw : chars.fullResWidth % 2 = 0) (hh : chars.fullResHeight % 2 = 0)
    (hrows : RowsHoldBlocks chars S) :
    ∃ r, remosaicRAW16Image imgIn imgOut S chars = .ok r ∧
      ∀ xs ys, xs % 4 = 0 → ys % 4 = 0 → xs < (chars.fullResWidth + 3) / 4 * 4 →
        ys < (chars.fullResHeight + 3) / 4 * 4 →
        ((blockPixels xs ys).map fun p => r.out (p.2 * (S / 2) + p.1)).Perm
          ((blockPixels xs ys).map fun p => imgIn (p.2 * (S / 2) + p.1)) := by
  obtain ⟨r, hr, hout⟩ := remosaicRAW16Image_pixel imgIn imgOut S chars hw hh hrows
  refine ⟨r, hr, fun xs ys hx hy hxs hys => ?_⟩
  have hsrc : ((blockPixels xs ys).map fun p => r.out (p.2 * (S / 2) + p.1)) =
      ((List.range 16).map fun i => quadBlockCopyIdxMap.getD (i / 4 + 4 * (i % 4)) 0).map
        fun k => imgIn ((ys + k / 4) * (S / 2) + (xs + k % 4)) := by
    rw [blockPixels_eq, List.map_map, List.map_map]
    refine List.map_congr_left fun i hi => ?_
    have hi := List.mem_range.mp hi
    simp only [Function.comp, hout _ _ (show xs + i % 4 < _ by omega) (show ys + i / 4 < _ by omega),
      remosaicSource_block hx hy hi]
  rw [hsrc, blockPixels_eq, List.map_map]
  exact remosaic_index_perm.map (fun k => imgIn ((ys + k / 4) * (S / 2) + (xs + k % 4)))

/-- With its rows padded to 16 bytes, the block at column 4 of a 6 × 4 quad-Bayer frame is
permuted. -/
theorem remosaic_block_perm_sixByFour :
    RowsHoldBlocks sixByFourQuadBayer 16 ∧
      ∃ r, remosaicRAW16Image sixByFourBuffer.img sixByFourBuffer.img 16 sixByFourQuadBayer = .ok r ∧
        ((blockPixels 4 0).map fun p => r.out (p.2 * 8 + p.1)).Perm
          ((blockPixels 4 0).map fun p => sixByFourBuffer.img (p.2 * 8 + p.1)) :=
  have hrows : RowsHoldBlocks sixByFourQuadBayer 16 := ⟨by decide, by decide, by decide⟩
  let ⟨r, hr, h⟩ := remosaic_block_perm _ _ 16 sixByFourQuadBayer rfl rfl hrows
  ⟨hrows, r, hr, h 4 0 rfl rfl (by decide) (by decide)⟩

/-! ### Colours -/

theorem remosaicSource_mod (x y : Nat) :
    (remosaicSource x y).1 % 4 = quadBlockCopyIdxMap.getD (y % 4 + 4 * (x % 4)) 0 % 4 ∧
      (remosaicSource x y).2 % 4 = quadBlockCopyIdxMap.getD (y % 4 + 4 * (x % 4)) 0 / 4 := by
  have := quadBlockCopyIdxMap_getD_lt (y % 4 + 4 * (x % 4))
  simp only [remosaicSource]
  omega

/-- The quad-Bayer channel of a pixel's source, and its RGGB channel, both as functions of the
pixel's position in its block. -/
theorem remosaic_channels_mod (x y : Nat) :
    getQuadBayerColor (remosaicSource x y).1 (remosaicSource x y).2 =
        getQuadBayerColor (quadBlockCopyIdxMap.getD (y % 4 + 4 * (x % 4)) 0 % 4)
          (quadBlockCopyIdxMap.getD (y % 4 + 4 * (x % 4)) 0 / 4) ∧
      bayerColor x y = bayerColor (x % 4) (y % 4) := by
  obtain ⟨h1, h2⟩ := remosaicSource_mod x y
  rw [getQuadBayerColor_mod, h1, h2, bayerColor_mod]
  exact ⟨rfl, rfl⟩

/-- On a quad-Bayer sensor, remosaicing a full-resolution capture into a buffer whose rows hold
the remosaiced area gives the RGGB layout: each pixel of the area holds the sample
`CaptureRawFullRes` took at its source, through a filter of the colour that `CaptureRaw`'s RGGB
layout gives the pixel. The two greens are not kept apart: in every block, six of the eight
green sites hold a sample of the other green. -/
theorem remosaic_restores_bayer_colors (chars : SensorCharacteristics)
    (hq : chars.quadBayerSensor = true) (imgIn imgOut : Plane) (S : Nat)
    (hw : chars.fullResWidth % 2 = 0) (hh : chars.fullResHeight % 2 = 0)
    (hrows : RowsHoldBlocks chars S) :
    ∃ r, remosaicRAW16Image imgIn imgOut S chars = .ok r ∧
      (∀ x y, x < (chars.fullResWidth + 3) / 4 * 4 → y < (chars.fullResHeight + 3) / 4 * 4 →
        r.out (y * (S / 2) + x) =
          imgIn ((remosaicSource x y).2 * (S / 2) + (remosaicSource x y).1) ∧
        (rawChannel chars false false (remosaicSource x y).1 (remosaicSource x y).2).color =
          (bayerColor x y).color) ∧
      ∀ xs ys, xs % 4 = 0 → ys % 4 = 0 →
        ((blockPixels xs ys).filter fun p => (bayerColor p.1 p.2).color = .green ∧
          rawChannel chars false false (remosaicSource p.1 p.2).1 (remosaicSource p.1 p.2).2 ≠
            bayerColor p.1 p.2).length = 6 := by
  have hch : ∀ x y, rawChannel chars false false x y = getQuadBayerColor x y := by
    simp [rawChannel, hq]
  obtain ⟨r, hr, hout⟩ := remosaicRAW16Image_pixel imgIn imgOut S chars hw hh hrows
  refine ⟨r, hr, fun x y hx hy => ⟨hout x y hx hy, ?_⟩, fun xs ys hxs hys => ?_⟩
  · obtain ⟨h1, h2⟩ := remosaic_channels_mod x y
    rw [hch, h1, h2]
    exact (by decide : ∀ a < 4, ∀ b < 4, (getQuadBayerColor
      (quadBlockCopyIdxMap.getD (b + 4 * a) 0 % 4) (quadBlockCopyIdxMap.getD (b + 4 * a) 0 / 4)).color =
        (bayerColor a b).color) _ (Nat.mod_lt _ (by decide)) _ (Nat.mod_lt _ (by decide))
  · rw [blockPixels_eq, List.filter_map, List.length_map]
    have hcount : ((List.range 16).filter fun i => (bayerColor (i % 4) (i / 4)).color = .green ∧
        getQuadBayerColor (quadBlockCopyIdxMap.getD (i / 4 + 4 * (i % 4)) 0 % 4)
          (quadBlockCopyIdxMap.getD (i / 4 + 4 * (i % 4)) 0 / 4) ≠ bayerColor (i % 4) (i / 4)).length
        = 6 := by decide
    rw [← hcount]
    congr 1
    refine List.filter_congr fun i hi => ?_
    have hi := List.mem_range.mp hi
    obtain ⟨h1, h2⟩ := remosaic_channels_mod (xs + i % 4) (ys + i / 4)
    simp only [Function.comp, hch, h1, h2, show (xs + i % 4) % 4 = i % 4 by omega,
      show (ys + i / 4) % 4 = i / 4 by omega]

/-- On `sixByFourQuadBayer` with rows padded to 16 bytes, the pixel at column 1 of the first row,
a green site of the RGGB layout, receives a green sample. -/
theorem remosaic_sixByFour_green :
    sixByFourQuadBayer.quadBayerSensor = true ∧ RowsHoldBlocks sixByFourQuadBayer 16 ∧
      ∃ r, remosaicRAW16Image sixByFourBuffer.img sixByFourBuffer.img 16 sixByFourQuadBayer = .ok r ∧
        (rawChannel sixByFourQuadBayer false false (remosaicSource 1 0).1
          (remosaicSource 1 0).2).color = .green :=
  have hrows : RowsHoldBlocks sixByFourQuadBayer 16 := ⟨by decide, by decide, by decide⟩
  let ⟨r, hr, h, _⟩ := remosaic_restores_bayer_colors sixByFourQuadBayer rfl _ _ 16 rfl rfl hrows
  ⟨rfl, hrows, r, hr, (h 1 0 (by decide) (by decide)).2⟩

/-! ### Rows that do not hold the last block column -/

/-- At a full-resolution width `W` of 2 modulo 4, in buffers whose rows hold exactly `W` pixels,
the last block column reaches two pixels into the next row. The first block of that column writes
the third pixel of its first row at offset `W`, pixel `(0, 1)`, which the first block of the
image wrote before, and no later block writes there. That green site of the RGGB layout is left
holding input pixel `(W - 2, 1)`, a red sample of the quad layout. -/
theorem remosaic_unpadded_rows_red_on_green (chars : SensorCharacteristics)
    (hq : chars.quadBayerSensor = true) (imgIn imgOut : Plane)
    (hw : chars.fullResWidth % 4 = 2) (hw6 : 6 ≤ chars.fullResWidth)
    (hh : chars.fullResHeight % 2 = 0) (hh0 : 0 < chars.fullResHeight)
    (hS : 2 * chars.fullResWidth < 2147483648)
    (hwrap : (chars.fullResHeight + 3) / 4 * 4 * chars.fullResWidth ≤ 4294967296) :
    ∃ r, remosaicRAW16Image imgIn imgOut (2 * chars.fullResWidth) chars = .ok r ∧
      r.out (1 * chars.fullResWidth + 0) =
        imgIn (1 * chars.fullResWidth + (chars.fullResWidth - 2)) ∧
      (bayerColor 0 1).color = .green ∧
      (rawChannel chars false false (chars.fullResWidth - 2) 1).color = .red := by
  generalize hW : chars.fullResWidth = W at hw hw6 hS hwrap ⊢
  -- Within the rounded-up height, the rows of the last block column do not wrap.
  have hoff : ∀ {ys row : Nat}, ys + row < (chars.fullResHeight + 3) / 4 * 4 →
      blockRowOffset (W - 2) ys (2 * W) row = (ys + row) * W + (W - 2) := fun {ys row} h => by
    have hlt : (ys + row) * W + (W - 2) < 4294967296 :=
      calc (ys + row) * W + (W - 2) < (ys + row + 1) * W := by rw [Nat.succ_mul]; omega
        _ ≤ (chars.fullResHeight + 3) / 4 * 4 * W := Nat.mul_le_mul_right _ h
        _ ≤ 4294967296 := hwrap
    rw [blockRowOffset_of_lt hS (by rwa [Nat.mul_div_cancel_left _ (by decide : 0 < 2)]),
      Nat.mul_div_cancel_left _ (by decide : 0 < 2)]
  obtain ⟨front, rest, hfo, hrest⟩ := blockOrigins_last_column hw hh0
  refine ⟨_, if_neg (by omega), ?_, by decide, ?_⟩
  · rw [hW, hfo, List.foldl_append, List.foldl_cons,
      foldl_remosaicQuadBayerBlock_out_of_forall_ne imgIn rest _ ?_]
    · -- In the block at `(W - 2, 0)`, pixel 2 alone of pixels 2 to 15 is at offset `W`.
      simp only [remosaicQuadBayerBlock]
      rw [foldl_update_last _ _ (show List.range 16 = [0, 1] ++ 2 :: List.range' 3 13 from rfl)]
      · rw [show quadBlockCopyIdxMap.getD (2 / 4 + 4 * (2 % 4)) 0 = 4 from rfl,
          List.getD_eq_getElem?_getD, List.getElem?_map, List.getElem?_range (by decide),
          Option.map_some', Option.getD_some, hoff (by omega)]
        rfl
      · rw [hoff (by omega)]
        omega
      · intro i hi
        rw [List.mem_range'_1] at hi
        rw [hoff (by omega), Nat.zero_add]
        rcases Nat.eq_zero_or_pos (i / 4) with h0 | h0
        · rw [h0]
          omega
        · have := Nat.le_mul_of_pos_left W h0
          omega
    · -- The blocks after it are four rows down or more.
      intro b hb i hi
      obtain ⟨hb1, hb2, hb3, hb4⟩ := hrest b hb
      rw [hb1, hoff (by omega)]
      have := Nat.mul_le_mul_right W (show 4 ≤ b.2 + i / 4 by omega)
      omega
  · have hcol : (W - 2) % 4 = 0 := by omega
    simp [rawChannel, hq, getQuadBayerColor, hcol, ColorChannel.color]

/-- A plane that holds at each offset the offset itself. -/
def indexPlane : Plane := fun o => UInt16.ofNat o

theorem remosaic_sixByFour_unpadded_red_on_green :
    ∃ r, remosaicRAW16Image indexPlane indexPlane (2 * 6) sixByFourQuadBayer = .ok r ∧
      r.out (1 * 6 + 0) = indexPlane (1 * 6 + (6 - 2)) ∧
      (bayerColor 0 1).color = .green ∧
      (rawChannel sixByFourQuadBayer false false (6 - 2) 1).color = .red :=
  remosaic_unpadded_rows_red_on_green sixByFourQuadBayer rfl indexPlane indexPlane rfl (by decide)
    rfl (by decide) (by decide) (by decide)

end GoogleCamera.Emulated
