import GoogleCamera.Emulated.Remosaic

/-!
# The pixel writers: where they write, and the YUV arithmetic

`EmulatedSensor::CaptureRGB` and `CaptureDepth` scale the sensor's full-resolution image down
to the buffer. Each steps through the sensor by a whole increment,

    uint32_t inc_h = ceil((float)chars.full_res_width / width);
    uint32_t inc_v = ceil((float)chars.full_res_height / height);
    for (unsigned int y = 0, outy = 0; y < chars.full_res_height; y += inc_v, outy++) {
      uint8_t* px = img + outy * stride;
      for (unsigned int x = 0; x < chars.full_res_width; x += inc_h) {
        ... *px++ = r; *px++ = g; *px++ = b; ...

and the buffer's stride and size are those `EmulatedRequestProcessor::GetBufferSizeAndStride`
gives for the stream (`LockSensorBuffer` stores the stride in `plane.img.stride_in_bytes`).
The increments are taken exactly here (`ceilDiv`). The products are not: `GetBufferSizeAndStride`
computes the stride and the size in its `uint32_t` out-parameters, and the writers start row
`outy` at `outy * stride` in `unsigned int`, all modulo `2^32` (`uint32Mul`).

`EmulatedSensor::CaptureYUV420` converts each pixel's counts to Y, Cb and Cr in fixed point. It
clamps the counts to `kSaturationPoint`, maps them through a gamma table, and sums them with
`int` coefficients, some negative, against `uint32_t` counts:

    uint8_t cb8 = (rgb_to_cb[0] * r_count + rgb_to_cb[1] * g_count +
                   rgb_to_cb[2] * b_count + rgb_to_cb[3]) / scale_out_sq;

The `int` coefficients are converted to `unsigned int`, and the arithmetic is modulo `2^32`;
it is modelled so, with `uint32Of` and explicit `% 2^32`. The loop counters `x` and `y` are
natural numbers: they would wrap only past a full-resolution size of `2^32` less one
increment.

## What is proved

* The row and column loops run at most `height` and `width` times (`ceilDiv_ceilDiv_le`), and,
  when the stride and size of the stream's format do not wrap (`StrideSizeFits`), every byte
  `CaptureRGB` and `CaptureDepth` write lies in the buffer that `GetBufferSizeAndStride` sizes
  for the stream (`capture_writes_inside_buffer`). When they wrap, the size can be smaller than
  the rows the writer fills (`capture_writes_past_wrapped_size`).
* When the gamma tables map `[0, kSaturationPoint]` into itself, the `uint32_t` sums of
  `CaptureYUV420` are the exact integer sums, and `y8`, `cb8`, `cr8` are the exact quotients,
  in `[0, 255]` (`yuv420_fixed_point_exact`).
-/

namespace GoogleCamera.Emulated

/-! ### Increments and alignment -/

/-- `ceil(a / b)`, computed exactly. -/
def ceilDiv (a b : Nat) : Nat := (a + b - 1) / b

/-- The values of `v` in `for (v = 0; v < bound; v += step)`, for `step ≥ 1`. -/
def loopValues (bound step : Nat) : List Nat := List.range' 0 (ceilDiv bound step) step

/-- Modelled from the spec: `AlignTo` is declared outside this tree, and the spec does not
define it; it is taken as its name and its uses read, `value` rounded up to a multiple of
`alignment`. -/
def alignTo (value alignment : Nat) : Nat := ceilDiv value alignment * alignment

theorem ceilDiv_le_iff {a b c : Nat} (hb : 0 < b) : ceilDiv a b ≤ c ↔ a ≤ c * b := by
  rw [ceilDiv, ← Nat.lt_succ_iff, Nat.div_lt_iff_lt_mul hb, Nat.succ_mul]
  omega

/-- `ceil(F / ceil(F / W)) ≤ W`: stepping through `F` by `ceil(F / W)` takes at most `W`
steps. -/
theorem ceilDiv_ceilDiv_le (F W : Nat) (hW : 0 < W) : ceilDiv F (ceilDiv F W) ≤ W := by
  rcases Nat.eq_zero_or_pos F with rfl | hF
  · have h0 : ceilDiv 0 W = 0 := Nat.div_eq_of_lt (by omega)
    rw [h0]
    simp [ceilDiv]
  · have hk : 0 < ceilDiv F W := (Nat.le_div_iff_mul_le hW).mpr (by omega)
    rw [ceilDiv_le_iff hk, Nat.mul_comm]
    exact (ceilDiv_le_iff hW).mp (Nat.le_refl _)

theorem le_alignTo (value : Nat) {alignment : Nat} (h : 0 < alignment) :
    value ≤ alignTo value alignment :=
  (ceilDiv_le_iff h).mp (Nat.le_refl _)

/-- A byte of row `row < height` at offset `off < stride` lies in `stride × height` bytes. -/
theorem row_offset_lt {row height stride off : Nat} (hrow : row < height) (hoff : off < stride) :
    row * stride + off < stride * height :=
  calc row * stride + off < (row + 1) * stride := by rw [Nat.succ_mul]; omega
    _ ≤ height * stride := Nat.mul_le_mul_right _ hrow
    _ = stride * height := Nat.mul_comm _ _

/-! ### `CaptureRGB`, `CaptureDepth` and the buffer they write -/

/-- `RGBLayout`. -/
inductive RGBLayout where
  | rgb
  | rgba
  | argb
  deriving DecidableEq, Repr

/-- The bytes `CaptureRGB` writes per pixel in each layout. -/
def RGBLayout.bytesPerPixel : RGBLayout → Nat
  | .rgb => 3
  | .rgba => 4
  | .argb => 4

/-- The offsets from `img` that a writer of `bytes`-byte pixels writes, in order, stepping
through the sensor as `CaptureRGB` and `CaptureDepth` do: output row `outy` starts at
`outy * stride`, an `unsigned int` product, and each step of the column loop writes one pixel
through the advancing pointer. -/
def pixelWrites (chars : SensorCharacteristics) (width height stride bytes : Nat) : List Nat :=
  let incH := ceilDiv chars.fullResWidth width
  let incV := ceilDiv chars.fullResHeight height
  (List.range (loopValues chars.fullResHeight incV).length).flatMap fun outy =>
    (List.range (loopValues chars.fullResWidth incH).length).flatMap fun col =>
      (List.range bytes).map fun k => uint32Mul outy stride + bytes * col + k

/-- The offsets from `img` that `EmulatedSensor::CaptureRGB` writes. -/
def captureRGB (chars : SensorCharacteristics) (width height stride : Nat) (layout : RGBLayout) :
    List Nat :=
  pixelWrites chars width height stride layout.bytesPerPixel

/-- The offsets from `img` that `EmulatedSensor::CaptureDepth` writes: 2-byte pixels. -/
def captureDepth (chars : SensorCharacteristics) (width height stride : Nat) : List Nat :=
  pixelWrites chars width height stride 2

/-- The fields of an `EmulatedStream` that `GetBufferSizeAndStride` reads. -/
structure EmulatedStream where
  overrideFormat : Int
  overrideDataSpace : Int
  width : Nat
  height : Nat
  bufferSize : Nat
  deriving DecidableEq, Repr

/-- `EmulatedRequestProcessor::GetBufferSizeAndStride`: the size and the stride, in bytes, as its
`uint32_t` out-parameters hold them. `monoPlanarStride` is what the importer's
`getMonoPlanarStrideBytes` gives for the buffer, when it succeeds. -/
def getBufferSizeAndStride (stream : EmulatedStream) (monoPlanarStride : Option Nat) :
    Except Status (Nat × Nat) :=
  if stream.overrideFormat = halPixelFormatRgb888 then
    let stride := uint32Mul stream.width 3
    .ok (uint32Mul stride stream.height, stride)
  else if stream.overrideFormat = halPixelFormatRgba8888 then
    let stride := uint32Mul stream.width 4
    .ok (uint32Mul stride stream.height, stride)
  else if stream.overrideFormat = halPixelFormatY16 then
    if stream.overrideDataSpace = halDataspaceDepth then
      let stride := alignTo (uint32Mul (alignTo stream.width 2) 2) 16
      .ok (uint32Mul stride (alignTo stream.height 2), stride)
    else .error .badValue
  else if stream.overrideFormat = halPixelFormatBlob then
    if stream.overrideDataSpace = halDataspaceV0Jfif ∨ stream.overrideDataSpace = dataspaceJpegR
    then .ok (stream.bufferSize, stream.bufferSize)
    else .error .badValue
  else if stream.overrideFormat = halPixelFormatRaw16 then
    let stride := monoPlanarStride.getD (uint32Mul stream.width 2)
    .ok (uint32Mul stride stream.height, stride)
  else .error .badValue

/-- The exact products `GetBufferSizeAndStride` computes for the stream's format, if it is one
that `CaptureRGB` or `CaptureDepth` fills, are below `2^32`: its `uint32_t` stride and size are
then the exact ones. -/
def StrideSizeFits (stream : EmulatedStream) : Prop :=
  (stream.overrideFormat = halPixelFormatRgb888 → stream.width * 3 * stream.height < 4294967296) ∧
  (stream.overrideFormat = halPixelFormatRgba8888 →
    stream.width * 4 * stream.height < 4294967296) ∧
  (stream.overrideFormat = halPixelFormatY16 →
    alignTo (alignTo stream.width 2 * 2) 16 * alignTo stream.height 2 < 4294967296)

/-- The bytes that `threadLoop`'s `CaptureRGB` and `CaptureDepth` calls write into an output
buffer of the stream, with the stride its lock stored. Other formats go to other writers. -/
def rgbDepthWrites (chars : SensorCharacteristics) (stream : EmulatedStream) (stride : Nat) :
    List Nat :=
  if stream.overrideFormat = halPixelFormatRgb888 then
    captureRGB chars stream.width stream.height stride .rgb
  else if stream.overrideFormat = halPixelFormatRgba8888 then
    captureRGB chars stream.width stream.height stride .rgba
  else if stream.overrideFormat = halPixelFormatY16 ∧ stream.overrideDataSpace = halDataspaceDepth
  then captureDepth chars stream.width stream.height stride
  else []

/-- A stride and a size whose exact product is below `2^32`, for a height of at least 1, are
exact in `uint32_t`. -/
theorem uint32Mul_size {stride height : Nat} (hh : 1 ≤ height) (h : stride * height < 4294967296) :
    stride < 4294967296 ∧ uint32Mul stride height = stride * height :=
  ⟨Nat.lt_of_le_of_lt (Nat.le_mul_of_pos_right _ hh) h, uint32Mul_of_lt h⟩

theorem length_loopValues_le (F : Nat) {W : Nat} (hW : 0 < W) :
    (loopValues F (ceilDiv F W)).length ≤ W := by
  simpa [loopValues] using ceilDiv_ceilDiv_le F W hW

/-- A writer of `bytes`-byte pixels onto a `width × height` output, with rows of at least
`bytes * width` bytes and `stride × height` below `2^32`, writes only inside
`stride × height` bytes. -/
theorem mem_pixelWrites_lt {chars : SensorCharacteristics} {width height stride bytes b : Nat}
    (hw : 1 ≤ width) (hh : 1 ≤ height) (hstride : bytes * width ≤ stride)
    (hwrap : stride * height < 4294967296)
    (hb : b ∈ pixelWrites chars width height stride bytes) : b < stride * height := by
  simp only [pixelWrites, List.mem_flatMap, List.mem_range, List.mem_map] at hb
  obtain ⟨row, hrow, col, hcol, k, hk, rfl⟩ := hb
  have hcols := length_loopValues_le chars.fullResWidth hw
  have hrows := length_loopValues_le chars.fullResHeight hh
  have : bytes * col + k < stride :=
    calc bytes * col + k < bytes * (col + 1) := by rw [Nat.mul_succ]; omega
      _ ≤ bytes * width := Nat.mul_le_mul_left _ (by omega)
      _ ≤ stride := hstride
  have hlt := row_offset_lt (show row < height by omega) this
  rw [uint32Mul_of_lt (by omega), Nat.add_assoc]
  exact hlt

/-- A writer of `bytes`-byte pixels into a buffer of the packed formats, whose rows are
`width * bytes` and size the rows times `height`, both `uint32_t` products, writes inside it
when the exact size is below `2^32`. -/
theorem mem_pixelWrites_lt_packed {chars : SensorCharacteristics} {width height bytes b : Nat}
    (hw : 1 ≤ width) (hh : 1 ≤ height) (hwrap : width * bytes * height < 4294967296)
    (hb : b ∈ pixelWrites chars width height (uint32Mul width bytes) bytes) :
    b < uint32Mul (uint32Mul width bytes) height := by
  obtain ⟨hs, hsz⟩ := uint32Mul_size hh hwrap
  rw [uint32Mul_of_lt hs] at hb ⊢
  rw [hsz]
  exact mem_pixelWrites_lt hw hh (Nat.le_of_eq (Nat.mul_comm _ _)) hwrap hb

/-- For every output buffer of at least one pixel each way: the row loop runs at most `height`
times and the column loop at most `width` times, and, when the stride and size of the stream's
format do not wrap, every byte `CaptureRGB` or `CaptureDepth` writes lies in the
`stride × height` buffer that `GetBufferSizeAndStride` sizes for the stream. -/
theorem capture_writes_inside_buffer (chars : SensorCharacteristics) (stream : EmulatedStream)
    (monoPlanarStride : Option Nat) (hw : 1 ≤ stream.width) (hh : 1 ≤ stream.height)
    (hfit : StrideSizeFits stream) :
    (loopValues chars.fullResHeight (ceilDiv chars.fullResHeight stream.height)).length ≤
        stream.height ∧
      (loopValues chars.fullResWidth (ceilDiv chars.fullResWidth stream.width)).length ≤
        stream.width ∧
      ∀ size stride, getBufferSizeAndStride stream monoPlanarStride = .ok (size, stride) →
        ∀ b ∈ rgbDepthWrites chars stream stride, b < size := by
  refine ⟨length_loopValues_le _ hh, length_loopValues_le _ hw, fun size stride hsize b hb => ?_⟩
  obtain ⟨hrgb3, hrgba4, hdepth2⟩ := hfit
  unfold rgbDepthWrites at hb
  unfold getBufferSizeAndStride at hsize
  by_cases hrgb : stream.overrideFormat = halPixelFormatRgb888
  · rw [if_pos hrgb] at hsize hb
    cases hsize
    exact mem_pixelWrites_lt_packed hw hh (hrgb3 hrgb) hb
  rw [if_neg hrgb] at hsize hb
  by_cases hrgba : stream.overrideFormat = halPixelFormatRgba8888
  · rw [if_pos hrgba] at hsize hb
    cases hsize
    exact mem_pixelWrites_lt_packed hw hh (hrgba4 hrgba) hb
  rw [if_neg hrgba] at hsize hb
  by_cases hdepth : stream.overrideFormat = halPixelFormatY16 ∧
      stream.overrideDataSpace = halDataspaceDepth
  · rw [if_pos hdepth] at hb
    rw [if_pos hdepth.1, if_pos hdepth.2] at hsize
    cases hsize
    have hh2 := le_alignTo stream.height (by decide : 0 < 2)
    obtain ⟨h16, hsz⟩ := uint32Mul_size (Nat.le_trans hh hh2) (hdepth2 hdepth.1)
    have hrow : alignTo stream.width 2 * 2 < 4294967296 :=
      Nat.lt_of_le_of_lt (le_alignTo _ (by decide)) h16
    rw [uint32Mul_of_lt hrow] at hb ⊢
    rw [hsz]
    have hstride : 2 * stream.width ≤ alignTo (alignTo stream.width 2 * 2) 16 := by
      have := le_alignTo stream.width (by decide : 0 < 2)
      have := le_alignTo (alignTo stream.width 2 * 2) (by decide : 0 < 16)
      omega
    have hmono := Nat.mul_le_mul_left (alignTo (alignTo stream.width 2 * 2) 16) hh2
    exact Nat.lt_of_lt_of_le
      (mem_pixelWrites_lt hw hh hstride (Nat.lt_of_le_of_lt hmono (hdepth2 hdepth.1)) hb) hmono
  · rw [if_neg hdepth] at hb
    simp at hb

/-- A 3 × 3 depth stream: its rows are 16 bytes, and its buffer has 4 of them. -/
def depthStream : EmulatedStream := ⟨halPixelFormatY16, halDataspaceDepth, 3, 3, 0⟩

theorem depth_writes_inside_buffer :
    1 ≤ depthStream.width ∧ 1 ≤ depthStream.height ∧ StrideSizeFits depthStream ∧
      ∀ b ∈ rgbDepthWrites sixByFourQuadBayer depthStream 16, b < 64 :=
  have hfit : StrideSizeFits depthStream := ⟨nofun, nofun, fun _ => by decide⟩
  ⟨by decide, by decide, hfit,
    (capture_writes_inside_buffer sixByFourQuadBayer depthStream none (by decide) (by decide)
      hfit).2.2 64 16 rfl⟩

/-- An `RGB_888` stream `2^30 + 1` pixels wide and 2 tall: its stride fits a `uint32_t`, but its
size, twice the stride, wraps to `2^31 + 6` bytes. -/
def wideRgbStream : EmulatedStream := ⟨halPixelFormatRgb888, halDataspaceUnknown, 1073741825, 2, 0⟩

/-- `CaptureRGB` starts the second row of `wideRgbStream` at byte `stride`, past the wrapped
size. -/
theorem capture_writes_past_wrapped_size :
    getBufferSizeAndStride wideRgbStream none = .ok (2147483654, 3221225475) ∧
      3221225475 ∈ rgbDepthWrites sixByFourQuadBayer wideRgbStream 3221225475 ∧
      ¬ 3221225475 < 2147483654 :=
  ⟨rfl, by decide, by decide⟩

/-! ### The fixed-point YUV transform -/

/-- `EmulatedSensor::kFixedBitPrecision`. -/
def kFixedBitPrecision : Int := 64

/-- `EmulatedSensor::kSaturationPoint`. -/
def kSaturationPoint : Int := kFixedBitPrecision * 255

/-- `rgb_to_y`. -/
def rgbToY : List Int := [19, 37, 7]
/-- `rgb_to_cb`. -/
def rgbToCb : List Int := [-10, -21, 32, 524288]
/-- `rgb_to_cr`. -/
def rgbToCr : List Int := [32, -26, -5, 524288]
/-- `scale_out`. -/
def scaleOut : Int := 64
/-- `scale_out_sq`. -/
def scaleOutSq : Int := scaleOut * scaleOut

/-- The gamma tables the constructor fills, `kSaturationPoint + 1` entries each. -/
structure GammaTables where
  sRGB : Nat → Int
  smpte170m : Nat → Int
  hlg : Nat → Int

/-- The `ColorSpaceNamed` values `GammaTable` tells apart. -/
inductive ColorSpaceNamed where
  | bt709
  | bt2020
  | displayP3
  | srgb
  | other (n : Int)
  deriving DecidableEq, Repr

/-- `EmulatedSensor::GammaTable`. -/
def gammaTable (tables : GammaTables) (value : Nat) : ColorSpaceNamed → Int
  | .bt709 => tables.smpte170m value
  | .bt2020 => tables.hlg value
  | _ => tables.sRGB value

/-- `count < kSaturationPoint ? count : kSaturationPoint`, on a `uint32_t` count. -/
def clampToSaturation (count : Nat) : Nat :=
  if count < uint32Of kSaturationPoint then count else uint32Of kSaturationPoint

/-- A fixed-point sum `c0 * r + c1 * g + c2 * b (+ c3)` of `CaptureYUV420`, in `unsigned int`;
the coefficient arrays have three or four entries. -/
def fixedPointSum : List Int → Nat → Nat → Nat → Nat
  | [c0, c1, c2], r, g, b =>
    uint32Add (uint32Add (uint32Mul (uint32Of c0) r) (uint32Mul (uint32Of c1) g))
      (uint32Mul (uint32Of c2) b)
  | [c0, c1, c2, c3], r, g, b =>
    uint32Add (uint32Add (uint32Add (uint32Mul (uint32Of c0) r) (uint32Mul (uint32Of c1) g))
      (uint32Mul (uint32Of c2) b)) (uint32Of c3)
  | _, _, _, _ => 0

/-- One pixel of `CaptureYUV420`, from its `uint32_t` counts after `RgbToRgb`: clamp, gamma,
and the transform; `y8`, `cb8` and `cr8` as `uint8_t`. -/
def yuvOfCounts (tables : GammaTables) (colorSpace : ColorSpaceNamed) (rCount gCount bCount : Nat) :
    Nat × Nat × Nat :=
  let r := uint32Of (gammaTable tables (clampToSaturation rCount) colorSpace)
  let g := uint32Of (gammaTable tables (clampToSaturation gCount) colorSpace)
  let b := uint32Of (gammaTable tables (clampToSaturation bCount) colorSpace)
  (fixedPointSum rgbToY r g b / uint32Of scaleOutSq % 256,
   fixedPointSum rgbToCb r g b / uint32Of scaleOutSq % 256,
   fixedPointSum rgbToCr r g b / uint32Of scaleOutSq % 256)

/-! ### `unsigned int` arithmetic is arithmetic modulo `2^32` -/

theorem cast_uint32Of (v : Int) : (uint32Of v : Int) = v % 4294967296 :=
  Int.toNat_of_nonneg (Int.emod_nonneg _ (by decide))

theorem cast_uint32Of_of_lt {v : Int} (h0 : 0 ≤ v) (h1 : v < 4294967296) :
    (uint32Of v : Int) = v := by
  rw [cast_uint32Of, Int.emod_eq_of_lt h0 h1]

theorem cast_uint32Add (a b : Nat) : (uint32Add a b : Int) = ((a : Int) + b) % 4294967296 := by
  simp [uint32Add]

theorem cast_uint32Mul (c : Int) (x : Nat) :
    (uint32Mul (uint32Of c) x : Int) = c * x % 4294967296 := by
  simp [uint32Mul, cast_uint32Of, Int.mul_emod, Int.emod_emod]

theorem fixedPointSum_three (c0 c1 c2 : Int) (r g b : Nat) :
    (fixedPointSum [c0, c1, c2] r g b : Int) = (c0 * r + c1 * g + c2 * b) % 4294967296 := by
  simp only [fixedPointSum, cast_uint32Add, cast_uint32Mul, Int.emod_add_emod, Int.add_emod_emod]

theorem fixedPointSum_four (c0 c1 c2 c3 : Int) (r g b : Nat) :
    (fixedPointSum [c0, c1, c2, c3] r g b : Int) =
      (c0 * r + c1 * g + c2 * b + c3) % 4294967296 := by
  simp only [fixedPointSum, cast_uint32Add, cast_uint32Mul, cast_uint32Of, Int.emod_add_emod,
    Int.add_emod_emod]

/-- `(uint8_t)(n / scale_out_sq)` is the exact quotient when that is at most 255. -/
theorem uint8_quotient {n : Nat} {e : Int} (h : (n : Int) = e) (hle : e / 4096 ≤ 255) :
    n / 4096 % 256 = (e / 4096).toNat := by
  omega

theorem clampToSaturation_le (count : Nat) :
    clampToSaturation count ≤ uint32Of kSaturationPoint := by
  unfold clampToSaturation
  split <;> omega

/-- A sum `e` of `CaptureYUV420` that is exact in `unsigned int` and whose quotient fits a
`uint8_t`. -/
def FitsUint8Quotient (e : Int) : Prop := 0 ≤ e ∧ e < 4294967296 ∧ e / 4096 ≤ 255

/-- The exact sums of `CaptureYUV420` over `[0, kSaturationPoint]`. -/
theorem yuvSums_bounds {r g b : Int} (hr0 : 0 ≤ r) (hr1 : r ≤ 16320) (hg0 : 0 ≤ g) (hg1 : g ≤ 16320)
    (hb0 : 0 ≤ b) (hb1 : b ≤ 16320) :
    FitsUint8Quotient (19 * r + 37 * g + 7 * b) ∧
      FitsUint8Quotient (-10 * r - 21 * g + 32 * b + 524288) ∧
      FitsUint8Quotient (32 * r - 26 * g - 5 * b + 524288) := by
  unfold FitsUint8Quotient
  omega

/-- When every gamma table maps `[0, kSaturationPoint]` into itself: for all counts, the
`unsigned int` sums of `CaptureYUV420` are the exact integer sums of the gamma values, and
`y8`, `cb8` and `cr8` are the exact quotients by `scale_out_sq`, which lie in `[0, 255]`. -/
theorem yuv420_fixed_point_exact (tables : GammaTables)
    (htables : ∀ v ≤ uint32Of kSaturationPoint, ∀ cs,
      0 ≤ gammaTable tables v cs ∧ gammaTable tables v cs ≤ kSaturationPoint)
    (colorSpace : ColorSpaceNamed) (rCount gCount bCount : Nat) :
    let r := gammaTable tables (clampToSaturation rCount) colorSpace
    let g := gammaTable tables (clampToSaturation gCount) colorSpace
    let b := gammaTable tables (clampToSaturation bCount) colorSpace
    (fixedPointSum rgbToY (uint32Of r) (uint32Of g) (uint32Of b) : Int) =
        19 * r + 37 * g + 7 * b ∧
      (fixedPointSum rgbToCb (uint32Of r) (uint32Of g) (uint32Of b) : Int) =
        -10 * r - 21 * g + 32 * b + 524288 ∧
      (fixedPointSum rgbToCr (uint32Of r) (uint32Of g) (uint32Of b) : Int) =
        32 * r - 26 * g - 5 * b + 524288 ∧
      yuvOfCounts tables colorSpace rCount gCount bCount =
        (((19 * r + 37 * g + 7 * b) / 4096).toNat,
         ((-10 * r - 21 * g + 32 * b + 524288) / 4096).toNat,
         ((32 * r - 26 * g - 5 * b + 524288) / 4096).toNat) ∧
      0 ≤ (19 * r + 37 * g + 7 * b) / 4096 ∧ (19 * r + 37 * g + 7 * b) / 4096 ≤ 255 ∧
      0 ≤ (-10 * r - 21 * g + 32 * b + 524288) / 4096 ∧
        (-10 * r - 21 * g + 32 * b + 524288) / 4096 ≤ 255 ∧
      0 ≤ (32 * r - 26 * g - 5 * b + 524288) / 4096 ∧
        (32 * r - 26 * g - 5 * b + 524288) / 4096 ≤ 255 := by
  obtain ⟨hr0, hr1⟩ := htables _ (clampToSaturation_le rCount) colorSpace
  obtain ⟨hg0, hg1⟩ := htables _ (clampToSaturation_le gCount) colorSpace
  obtain ⟨hb0, hb1⟩ := htables _ (clampToSaturation_le bCount) colorSpace
  simp only [yuvOfCounts]
  generalize gammaTable tables (clampToSaturation rCount) colorSpace = r at hr0 hr1 ⊢
  generalize gammaTable tables (clampToSaturation gCount) colorSpace = g at hg0 hg1 ⊢
  generalize gammaTable tables (clampToSaturation bCount) colorSpace = b at hb0 hb1 ⊢
  obtain ⟨⟨hy0, hy1, hy2⟩, ⟨hcb0, hcb1, hcb2⟩, ⟨hcr0, hcr1, hcr2⟩⟩ :=
    yuvSums_bounds hr0 hr1 hg0 hg1 hb0 hb1
  have hr := cast_uint32Of_of_lt hr0 (Int.lt_of_le_of_lt hr1 (by decide))
  have hg := cast_uint32Of_of_lt hg0 (Int.lt_of_le_of_lt hg1 (by decide))
  have hb := cast_uint32Of_of_lt hb0 (Int.lt_of_le_of_lt hb1 (by decide))
  have hy : (fixedPointSum rgbToY (uint32Of r) (uint32Of g) (uint32Of b) : Int) =
      19 * r + 37 * g + 7 * b := by
    rw [rgbToY, fixedPointSum_three, hr, hg, hb]
    exact Int.emod_eq_of_lt hy0 hy1
  have hcb : (fixedPointSum rgbToCb (uint32Of r) (uint32Of g) (uint32Of b) : Int) =
      -10 * r - 21 * g + 32 * b + 524288 := by
    rw [rgbToCb, fixedPointSum_four, hr, hg, hb]
    simp only [Int.sub_eq_add_neg, Int.neg_mul] at hcb0 hcb1 ⊢
    exact Int.emod_eq_of_lt hcb0 hcb1
  have hcr : (fixedPointSum rgbToCr (uint32Of r) (uint32Of g) (uint32Of b) : Int) =
      32 * r - 26 * g - 5 * b + 524288 := by
    rw [rgbToCr, fixedPointSum_four, hr, hg, hb]
    simp only [Int.sub_eq_add_neg, Int.neg_mul] at hcr0 hcr1 ⊢
    exact Int.emod_eq_of_lt hcr0 hcr1
  have hscale : uint32Of scaleOutSq = 4096 := rfl
  refine ⟨hy, hcb, hcr, ?_, Int.ediv_nonneg hy0 (by decide), hy2,
    Int.ediv_nonneg hcb0 (by decide), hcb2, Int.ediv_nonneg hcr0 (by decide), hcr2⟩
  simp only [hscale, Prod.mk.injEq]
  exact ⟨uint8_quotient hy hy2, uint8_quotient hcb hcb2, uint8_quotient hcr hcr2⟩

/-- Gamma tables that leave every value as it is. -/
def identityGamma : GammaTables := ⟨fun v => v, fun v => v, fun v => v⟩

theorem identityGamma_le (v : Nat) (hv : v ≤ uint32Of kSaturationPoint) (cs : ColorSpaceNamed) :
    0 ≤ gammaTable identityGamma v cs ∧ gammaTable identityGamma v cs ≤ kSaturationPoint := by
  have : (uint32Of kSaturationPoint : Int) = kSaturationPoint := rfl
  cases cs <;> simp only [gammaTable, identityGamma] <;> omega

theorem yuv420_saturated_red :
    (∀ v ≤ uint32Of kSaturationPoint, ∀ cs,
      0 ≤ gammaTable identityGamma v cs ∧ gammaTable identityGamma v cs ≤ kSaturationPoint) ∧
      yuvOfCounts identityGamma .srgb 16320 0 0 = (75, 88, 255) :=
  ⟨identityGamma_le,
    (yuv420_fixed_point_exact identityGamma identityGamma_le .srgb 16320 0 0).2.2.2.1.trans rfl⟩

end GoogleCamera.Emulated
