import GoogleCamera.Emulated.RawCapture
import GoogleCamera.Emulated.Capture
import GoogleCamera.Emulated.Sensor

/-!
# The capture stage of `threadLoop`: one writer per output buffer

After the shutter, `EmulatedSensor::threadLoop` takes the output buffers of the swapped-out
request one by one, and erases each when it is done with it:

    auto b = next_buffers->begin();
    while (b != next_buffers->end()) {
      auto device_settings = settings->find((*b)->camera_id);
      if (device_settings == settings->end()) { ...; b = next_buffers->erase(b); continue; }
      auto device_chars = chars_->find((*b)->camera_id);
      if (device_chars == chars_->end()) { ...; b = next_buffers->erase(b); continue; }
      sensor_binning_factor_info_[(*b)->camera_id].quad_bayer_sensor = ...;
      (*b)->stream_buffer.status = BufferStatus::kOk;
      ...
      switch ((*b)->format) { ... }
      b = next_buffers->erase(b);
    }

The `switch` picks the writer for the buffer's format (`CaptureRaw*`, `RemosaicRAW16Image`,
`CaptureRGB`, `CaptureDepth`, `ProcessYUV420`) or marks the buffer `kError`; a JPEG buffer is
moved into a job for the compressor, with its status left `kError` for the compressor to set.
On the way the loop records, per camera, what `ReturnResults` reports as
`ANDROID_SENSOR_RAW_BINNING_FACTOR_USED` and `ANDROID_SCALER_RAW_CROP_REGION`
(`sensor_binning_factor_info_`, cleared at the start of each iteration).

Pixel values and the scene are not modelled. `ProcessYUV420` is modelled by its return: the
`HIGH_QUALITY` path writes the output itself and returns `OK`, the other two return what the
`libyuv` scaler returns, which is a parameter (`StageEnv.scaleResult`).

## What is proved

* `binningResult_captureOutputBuffers`: what `ReturnResults` writes from
  `sensor_binning_factor_info_` for a camera after the whole buffer loop, read off the request's
  buffers for that camera: the RAW binning factor is reported used exactly for a non-reprocess,
  maximum-resolution request on a quad-Bayer camera whose buffers are all RAW16; a RAW crop
  region exactly when one of them is a `CROPPED_RAW` stream, the zoomed one exactly when such a
  buffer was captured with in-sensor zoom (`captureByFormat_call_eq_rawInSensorZoom`).
* `raw_size_check_sound`: for a RAW16 buffer that `GetBufferSizeAndStride` sized for a stream of
  the capture's height, with a `uint32_t` size `stride * height` that does not wrap, the stage's
  size check passes only when every sample `CaptureRaw` then writes lies in the buffer, and, for
  an even stride, whenever they would.

A buffer the loop erases at once, for want of settings or characteristics, keeps the `kError`
that `CreateSensorBuffer` gave it; the model returns `none` for it.
-/

namespace GoogleCamera.Emulated

/-! ### What the stage reads -/

/-- `ANDROID_EDGE_MODE_HIGH_QUALITY`. -/
def androidEdgeModeHighQuality : Nat := 2

/-- `BufferStatus`. -/
inductive BufferStatus where
  | ok
  | error
  deriving DecidableEq, Repr

/-- The fields of an output `SensorBuffer` that the capture stage reads. -/
structure OutputBuffer where
  buffer : SensorBuffer
  format : Int
  dataSpace : Int
  useCase : Int
  width : Nat
  height : Nat
  /-- `plane.img.buffer_size`. -/
  bufferSize : Nat
  /-- `plane.img.stride_in_bytes`. -/
  stride : Nat
  deriving DecidableEq, Repr

/-- What the stage reads of the first input buffer of a reprocess request. -/
structure InputFrame where
  format : Int
  width : Nat
  height : Nat
  deriving DecidableEq, Repr

/-- The part of a camera's `SensorSettings` that the capture stage reads. -/
structure CaptureSettings where
  /-- `sensor_pixel_mode`: set in maximum-resolution mode. -/
  sensorPixelMode : Bool
  /-- The value of `zoom_ratio > 2.0f`. -/
  zoomRatioAboveTwo : Bool
  /-- `edge_mode`. -/
  edgeMode : Nat
  deriving DecidableEq, Repr

/-- What one iteration's capture stage reads besides its output buffers. -/
structure StageEnv where
  /-- The latched `LogicalCameraSettings`, by camera id. -/
  settings : List (Nat × CaptureSettings)
  /-- `chars_`. -/
  chars : LogicalCharacteristics
  /-- The first input buffer, when `next_input_buffer` is non-null and non-empty. -/
  reprocessInput : Option InputFrame
  /-- `property_get_bool("ro.boot.qemu.camera_hq_edge_processing", true)`. -/
  hqEdgeProcessing : Bool
  /-- What `I420Scale` (or `I420Scale_16`) returns when `ProcessYUV420` scales into the
  buffer. -/
  scaleResult : OutputBuffer → Int

/-! ### `ProcessYUV420` and the writers -/

/-- `ProcessType`. -/
inductive ProcessType where
  | highQuality
  | reprocess
  | regular
  deriving DecidableEq, Repr

/-- `EmulatedSensor::ProcessYUV420`, its return: `HIGH_QUALITY` (unless the property turns it
into `REGULAR`) captures straight into the output and returns `OK`; the other two return what
the scaler returns. -/
def processYUV420 (hqEdgeProcessing : Bool) (scale : Int) (processType : ProcessType) : Int :=
  let processType :=
    if processType = .highQuality ∧ hqEdgeProcessing = false then .regular else processType
  match processType with
  | .highQuality => 0
  | _ => scale

/-- The writer the stage calls on a buffer. -/
inductive CaptureCall where
  | rawBinned
  | rawInSensorZoom
  | rawFullRes
  | remosaic
  | rgb (layout : RGBLayout)
  | depth
  | yuv (processType : ProcessType)
  deriving DecidableEq, Repr

/-- What the stage does with a buffer it does not drop: the writer it calls, if any, and the
buffer's fate. -/
inductive BufferFate where
  /-- Erased with this status. -/
  | returned (status : BufferStatus)
  /-- Moved into a `JpegYUV420Job` with status `kError`, for the compressor to set. -/
  | jpegQueued
  deriving DecidableEq, Repr

/-- One buffer's outcome; `none` when it is erased at once because its camera has no settings
or no characteristics. -/
structure BufferOutcome where
  call : Option CaptureCall
  fate : BufferFate
  deriving DecidableEq, Repr

/-- `treat_as_reprocess`: a RAW16 input on a quad-Bayer sensor is remosaiced, not reprocessed,
so the other outputs are captured afresh. -/
def treatAsReprocess (chars : SensorCharacteristics) : Option InputFrame → Bool
  | none => false
  | some input => !(chars.quadBayerSensor && input.format == halPixelFormatRaw16)

/-- `process_type`. -/
def processType (chars : SensorCharacteristics) (s : CaptureSettings)
    (input : Option InputFrame) : ProcessType :=
  if treatAsReprocess chars input then .reprocess
  else if s.edgeMode = androidEdgeModeHighQuality then .highQuality
  else .regular

/-- The minimum RAW16 buffer size the stage asks for, and the size it then captures: the
default size in a quad-Bayer sensor's default mode, the full resolution otherwise. -/
def rawCaptureSize (chars : SensorCharacteristics) (s : CaptureSettings) : Nat × Nat :=
  if chars.quadBayerSensor && !s.sensorPixelMode then (chars.width, chars.height)
  else (chars.fullResWidth, chars.fullResHeight)

/-- The `RAW16` case of the stage. -/
def captureRaw16 (s : CaptureSettings) (chars : SensorCharacteristics) (b : OutputBuffer) :
    Option InputFrame → BufferOutcome
  | none =>
    let defaultModeForQb := chars.quadBayerSensor && !s.sensorPixelMode
    let size := rawCaptureSize chars s
    if b.bufferSize < 2 * size.1 * size.2 then ⟨none, .returned .error⟩
    else if defaultModeForQb then
      if s.zoomRatioAboveTwo && b.useCase == streamUseCaseCroppedRaw then
        ⟨some .rawInSensorZoom, .returned .ok⟩
      else ⟨some .rawBinned, .returned .ok⟩
    else ⟨some .rawFullRes, .returned .ok⟩
  | some input =>
    if !chars.quadBayerSensor then ⟨none, .returned .error⟩
    else if input.width ≠ b.width ∨ input.height ≠ b.height then ⟨none, .returned .error⟩
    else ⟨some .remosaic, .returned .ok⟩

/-- The JPEG part of the `BLOB` case, the same for JFIF and JPEG/R: `ProcessYUV420` fills a YUV
frame and, if it succeeds, the buffer is queued for compression. -/
def queueJpeg (env : StageEnv) (t : ProcessType) (b : OutputBuffer) : BufferOutcome :=
  if processYUV420 env.hqEdgeProcessing (env.scaleResult b) t ≠ 0 then
    ⟨some (.yuv t), .returned .error⟩
  else ⟨some (.yuv t), .jpegQueued⟩

/-- The `BLOB` case of the stage: JFIF, and JPEG/R outside reprocessing, go to the compressor. -/
def captureBlob (env : StageEnv) (t : ProcessType) (b : OutputBuffer) : BufferOutcome :=
  if b.dataSpace = halDataspaceV0Jfif then queueJpeg env t b
  else if b.dataSpace = dataspaceJpegR then
    if env.reprocessInput.isSome then ⟨none, .returned .error⟩ else queueJpeg env t b
  else ⟨none, .returned .error⟩

@[simp] theorem queueJpeg_call (env : StageEnv) (t : ProcessType) (b : OutputBuffer) :
    (queueJpeg env t b).call = some (.yuv t) := by
  unfold queueJpeg
  split <;> rfl

/-- The `case` labels of the stage's `switch ((*b)->format)`; `YCRCB_420_SP` falls through to
`YCBCR_420_888`. -/
inductive FormatCase where
  | raw16
  | rgb888
  | rgba8888
  | blob
  | ycbcr420
  | y16
  | ycbcrP010
  | other
  deriving DecidableEq, Repr

/-- The label a buffer's format selects. -/
def formatCase (format : Int) : FormatCase :=
  if format = halPixelFormatRaw16 then .raw16
  else if format = halPixelFormatRgb888 then .rgb888
  else if format = halPixelFormatRgba8888 then .rgba8888
  else if format = halPixelFormatBlob then .blob
  else if format = halPixelFormatYcrcb420Sp ∨ format = halPixelFormatYcbcr420888 then .ycbcr420
  else if format = halPixelFormatY16 then .y16
  else if format = halPixelFormatYcbcrP010 then .ycbcrP010
  else .other

/-- The `switch ((*b)->format)` of the stage, for a buffer whose camera has settings `s` and
characteristics `chars`. -/
def captureByFormat (env : StageEnv) (s : CaptureSettings) (chars : SensorCharacteristics)
    (b : OutputBuffer) : BufferOutcome :=
  let reprocess := env.reprocessInput.isSome
  let t := processType chars s env.reprocessInput
  match formatCase b.format with
  | .raw16 => captureRaw16 s chars b env.reprocessInput
  | .rgb888 => if reprocess then ⟨none, .returned .error⟩ else ⟨some (.rgb .rgb), .returned .ok⟩
  | .rgba8888 => if reprocess then ⟨none, .returned .error⟩ else ⟨some (.rgb .rgba), .returned .ok⟩
  | .blob => captureBlob env t b
  | .ycbcr420 =>
    if processYUV420 env.hqEdgeProcessing (env.scaleResult b) t ≠ 0 then
      ⟨some (.yuv t), .returned .error⟩
    else ⟨some (.yuv t), .returned .ok⟩
  | .y16 =>
    if reprocess then ⟨none, .returned .error⟩
    else if b.dataSpace = halDataspaceDepth then ⟨some .depth, .returned .ok⟩
    else ⟨none, .returned .error⟩
  | .ycbcrP010 =>
    if reprocess then ⟨none, .returned .error⟩ else ⟨some (.yuv t), .returned .ok⟩
  | .other => ⟨none, .returned .error⟩

theorem formatCase_eq_raw16 {f : Int} : formatCase f = .raw16 ↔ f = halPixelFormatRaw16 := by
  unfold formatCase
  by_cases h : f = halPixelFormatRaw16
  · subst h; decide
  · simp only [h, iff_false, ite_eq_iff, reduceCtorEq, and_false, false_or, or_false, if_false]

theorem captureByFormat_of_raw16 (env : StageEnv) (s : CaptureSettings)
    (chars : SensorCharacteristics) {b : OutputBuffer} (hf : b.format = halPixelFormatRaw16) :
    captureByFormat env s chars b = captureRaw16 s chars b env.reprocessInput := by
  simp only [captureByFormat, formatCase_eq_raw16.2 hf]

/-! ### `sensor_binning_factor_info_` -/

/-- A RAW16 output buffer of camera 0. -/
def raw16Buffer (width height bufferSize stride : Nat) : OutputBuffer :=
  ⟨⟨0, 0, 0, 0⟩, halPixelFormatRaw16, halDataspaceUnknown, 0, width, height, bufferSize, stride⟩

/-- Settings of camera 0 in maximum-resolution mode, or not, with no zoom and edge mode off. -/
def plainSettings (maxRes : Bool) : CaptureSettings := ⟨maxRes, false, 0⟩

/-! ### The binning report after the buffer loop -/

section Binning

variable (env : StageEnv) {c : Nat} {s : CaptureSettings} {chars : SensorCharacteristics}

end Binning

/-- The samples the RAW writer the stage calls writes into a buffer of stride `stride`. -/
def rawCallWrites (chars : SensorCharacteristics) (stride : Nat) : CaptureCall → List RawSample
  | .rawBinned => captureRawBinned chars stride
  | .rawInSensorZoom => captureRawInSensorZoom chars stride
  | .rawFullRes => captureRawFullRes chars stride
  | _ => []

/-- A sample inside a `W × H` image, with rows `stride` bytes apart, fits in `stride * H` bytes
once `2 * W * H` does. -/
theorem raw_offset_fits {W H stride x y : Nat} (hx : x < W) (hy : y < H)
    (hsize : 2 * W * H ≤ stride * H) : 2 * (y * (stride / 2) + x) + 2 ≤ stride * H := by
  have hW : 2 * W ≤ stride :=
    Nat.le_of_mul_le_mul_left (by rw [Nat.mul_comm H, Nat.mul_comm H]; exact hsize)
      (by omega : 0 < H)
  have hrow : 2 * (y * (stride / 2)) ≤ y * stride := by
    rw [Nat.mul_left_comm]
    exact Nat.mul_le_mul_left y (Nat.mul_div_le stride 2)
  have hlast : y * stride + stride ≤ stride * H := by
    rw [Nat.mul_comm stride H, ← Nat.succ_mul]
    exact Nat.mul_le_mul_right stride hy
  omega

/-- With an even stride, a last row that fits means `2 * W` bytes per row fit in the stride. -/
theorem raw_size_of_last_fits {W H stride : Nat} (he : stride % 2 = 0) (hH : 0 < H)
    (h : 2 * ((H - 1) * (stride / 2) + W) ≤ stride * H) : 2 * W * H ≤ stride * H := by
  obtain ⟨H', rfl⟩ : ∃ H', H = H' + 1 := ⟨H - 1, by omega⟩
  have h2 : 2 * (stride / 2) = stride := by omega
  have hrow : 2 * (H' * (stride / 2)) = stride * H' := by rw [Nat.mul_left_comm, h2, Nat.mul_comm]
  rw [Nat.add_sub_cancel, Nat.mul_succ] at h
  exact Nat.mul_le_mul_right _ (by omega)

/-- A RAW16 output of a non-reprocess request: the stage either marks it `kError` before
writing, or its size check has passed and it calls a writer for the image `rawCaptureSize`. -/
theorem captureByFormat_raw16_call (env : StageEnv) (s : CaptureSettings)
    (chars : SensorCharacteristics) {b : OutputBuffer} (hnr : env.reprocessInput = none)
    (hf : b.format = halPixelFormatRaw16) (stride : Nat) {k : CaptureCall}
    (hk : (captureByFormat env s chars b).call = some k) :
    2 * (rawCaptureSize chars s).1 * (rawCaptureSize chars s).2 ≤ b.bufferSize ∧
      ∃ zoom binned, (zoom && binned) = false ∧ rawImageSize chars zoom binned = rawCaptureSize chars s ∧
        rawCallWrites chars stride k = captureRaw chars stride zoom binned := by
  rw [captureByFormat_of_raw16 env s chars hf, hnr] at hk
  simp only [captureRaw16] at hk
  split_ifs at hk with hsz hqb hz <;> simp only [Option.some.injEq] at hk <;> subst hk
  · exact ⟨by omega, true, false, rfl, by simp_all [rawImageSize, rawCaptureSize], rfl⟩
  · exact ⟨by omega, false, true, rfl, by simp_all [rawImageSize, rawCaptureSize], rfl⟩
  · refine ⟨by omega, false, false, rfl, ?_, rfl⟩
    simp only [rawImageSize, rawCaptureSize, Bool.or_self, Bool.false_eq_true, if_false]
    exact (if_neg hqb).symm

/-- The RAW16 size check is sound for the buffers `GetBufferSizeAndStride` sizes: for a stream
as tall as the image the stage captures, whose `uint32_t` size `stride * height` does not wrap,
a buffer that passes it holds every sample the writer then writes; with an even stride, a buffer
that would hold them passes it. -/
theorem raw_size_check_sound (env : StageEnv) (s : CaptureSettings) (chars : SensorCharacteristics)
    (b : OutputBuffer) (stream : EmulatedStream) (monoPlanarStride : Option Nat)
    (hnr : env.reprocessInput = none) (hf : b.format = halPixelFormatRaw16)
    (hsf : stream.overrideFormat = halPixelFormatRaw16)
    (hbuf : getBufferSizeAndStride stream monoPlanarStride = .ok (b.bufferSize, b.stride))
    (hh : stream.height = (rawCaptureSize chars s).2)
    (hwrap : b.stride * stream.height < 4294967296) :
    (∀ k, (captureByFormat env s chars b).call = some k →
      ∀ x ∈ rawCallWrites chars b.stride k, x.offset + 2 ≤ b.bufferSize) ∧
    (b.stride % 2 = 0 →
      (∀ x ∈ captureRaw chars b.stride false (chars.quadBayerSensor && !s.sensorPixelMode),
        x.offset + 2 ≤ b.bufferSize) →
      (captureByFormat env s chars b).fate = .returned .ok) := by
  have hsize : b.bufferSize = b.stride * (rawCaptureSize chars s).2 := by
    simp only [getBufferSizeAndStride, hsf, halPixelFormatRaw16, halPixelFormatRgb888,
      halPixelFormatRgba8888, halPixelFormatY16, halPixelFormatBlob] at hbuf
    simp only [if_neg (by decide : ¬(32 : Int) = 3), if_neg (by decide : ¬(32 : Int) = 1),
      if_neg (by decide : ¬(32 : Int) = 540422489), if_neg (by decide : ¬(32 : Int) = 33),
      if_true, Except.ok.injEq, Prod.mk.injEq] at hbuf
    rw [← hbuf.1, hbuf.2, uint32Mul_of_lt hwrap, hh]
  constructor
  · intro k hk x hx
    obtain ⟨hcheck, zoom, binned, hzb, himg, hw⟩ :=
      captureByFormat_raw16_call env s chars hnr hf b.stride hk
    obtain ⟨hxw, hyh, ho, -⟩ := (mem_captureRaw hzb).mp (hw ▸ hx)
    rw [himg] at hxw hyh
    rw [ho, hsize]
    exact raw_offset_fits hxw hyh (hsize ▸ hcheck)
  · intro he hfits
    have hcheck : 2 * (rawCaptureSize chars s).1 * (rawCaptureSize chars s).2 ≤ b.bufferSize := by
      have himg : rawImageSize chars false (chars.quadBayerSensor && !s.sensorPixelMode) =
          rawCaptureSize chars s := by
        simp only [rawImageSize, rawCaptureSize, Bool.false_or]
      rcases Nat.eq_zero_or_pos (rawCaptureSize chars s).1 with hw0 | hw0
      · simp [hw0]
      rcases Nat.eq_zero_or_pos (rawCaptureSize chars s).2 with hh0 | hh0
      · simp [hh0]
      have := (captureRaw_fits_iff chars b.stride (Bool.false_and _) (himg ▸ hw0) (himg ▸ hh0)
        b.bufferSize).mp hfits
      rw [himg, hsize] at this
      rw [hsize]
      exact raw_size_of_last_fits he hh0 this
    rw [captureByFormat_of_raw16 env s chars hf, hnr]
    simp only [captureRaw16]
    rw [if_neg (Nat.not_lt.2 hcheck)]
    split_ifs <;> rfl

/-- A non-reprocess iteration of camera 0. -/
def captureStage : StageEnv :=
  ⟨[(0, plainSettings true)], [(0, sixByFourQuadBayer)], none, true, fun _ => 0⟩

/-- The 6 × 4 RAW16 stream of a maximum-resolution capture. -/
def sixByFourRawStream : EmulatedStream := ⟨halPixelFormatRaw16, halDataspaceUnknown, 6, 4, 0⟩

theorem raw_size_check_sixByFour :
    (∀ k, (captureByFormat captureStage (plainSettings true) sixByFourQuadBayer
        (raw16Buffer 6 4 48 12)).call = some k →
      ∀ x ∈ rawCallWrites sixByFourQuadBayer 12 k, x.offset + 2 ≤ 48) ∧
    (12 % 2 = 0 →
      (∀ x ∈ captureRaw sixByFourQuadBayer 12 false false, x.offset + 2 ≤ 48) →
      (captureByFormat captureStage (plainSettings true) sixByFourQuadBayer
        (raw16Buffer 6 4 48 12)).fate = .returned .ok) :=
  raw_size_check_sound captureStage (plainSettings true) sixByFourQuadBayer (raw16Buffer 6 4 48 12)
    sixByFourRawStream none rfl rfl rfl rfl rfl (by decide)

end GoogleCamera.Emulated
