import GoogleCamera.Emulated.CaptureStage
import Mathlib.Tactic.Ring

/-!
# The bytes `CaptureYUV420` stores, and the frames `ProcessYUV420` gives it

`EmulatedSensor::CaptureYUV420` walks the output row by row. It keeps one pointer into each
plane, stores the Y sample of every pixel, and the Cb and Cr samples of every pixel at an even
row and column:

    uint8_t* px_y = yuv_layout.img_y + out_y * yuv_layout.y_stride;
    uint8_t* px_cb = yuv_layout.img_cb + (out_y / 2) * yuv_layout.cbcr_stride;
    ...
      if (yuv_layout.bytesPerPixel == 1) { *px_y = y8; }
      else if (yuv_layout.bytesPerPixel == 2) {
        *(reinterpret_cast<uint16_t*>(px_y)) = htole16(y8 << 8);
      } else { ...; return; }
      px_y += yuv_layout.bytesPerPixel;
      if (out_y % 2 == 0 && out_x % 2 == 0) {
        ... *px_cb = cb8; *px_cr = cr8;   (or their 16-bit forms)
        px_cr += yuv_layout.cbcr_step;
        px_cb += yuv_layout.cbcr_step;

The chroma pointers move by `cbcr_step` bytes, whatever the width of the sample just stored.
`ProcessYUV420` hands it either the output's own planes (`HIGH_QUALITY`) or, on the `REGULAR`
path, planes it lays out itself in a temporary vector, at the output's bytes per pixel and with
`cbcr_step = 1`. A 10-bit output (`YCBCR_P010`, or the `JPEG_R` input frame, at two bytes per
pixel) therefore gets 16-bit chroma samples one byte apart.

The sample values (`y8`, `cb8`, `cr8`: scene, gain, gamma, the fixed-point transform of
`Capture`) are a parameter here; where the bytes go is modelled exactly. Memory is a map from
byte addresses to bytes, and a 16-bit store of `htole16(v << 8)` puts `0` at its address and
`v` at the next. The row products `out_y * y_stride` and `(out_y / 2) * cbcr_stride` are
`uint32_t`, as are the strides `ProcessYUV420` casts with `static_cast<uint32_t>` and the plane
sizes of the `JPEG_R` frame; they are taken modulo `2^32` (`uint32Mul`), and each result below
assumes the frame's Y plane is smaller than `2^32` bytes, where those products are exact.

## What is proved

* `regular_eightBit_round_trip`: on the `REGULAR` path of an 8-bit output, with a scene frame of
  even width and height, every byte `CaptureYUV420` stores lies in the `W * H * 3 / 2` bytes reserved for the
  frame and reads back as stored.
* `regular_oddWidth_last_chroma_lost`: when the scene frame's width is odd, `cbcr_stride = W / 2`
  is shorter than a chroma row, and the first sample of each chroma row is stored over the last
  sample of the row before.
* `regular_tenBit_chroma_lost`: on the `REGULAR` path of a 10-bit output, every chroma sample
  but the last of its row loses its value: the next sample's store writes `0` over it.
* `jpegR_highQuality_cr_lost`: in the `JPEG_R` input frame that `threadLoop` allocates
  (`cbcr_step = 2`, Cr two bytes after Cb), the `HIGH_QUALITY` path leaves every Cr sample but
  the last of its row overwritten by the next Cb sample.

## Honest scope

The default of `YCbCrPlanes::bytesPerPixel`, which the JFIF frame of `threadLoop` does not set,
is in a header outside this tree; the JFIF frame is not modelled. Neither are the gralloc
layouts of `YCBCR_420_888` and `YCBCR_P010` buffers, nor what `libyuv` writes when it scales.
The scene frame's size (`kSceneWidth * aspect_ratio` by `kSceneHeight`) is a parameter: the
constants are in `EmulatedScene`, outside this tree, so whether its width is odd for a given
output aspect ratio is not decided here.
-/

namespace GoogleCamera.Emulated

/-! ### Planes and stores -/

/-- `YCbCrPlanes`, with its plane pointers as byte addresses. -/
structure YCbCrPlanes where
  imgY : Nat
  imgCb : Nat
  imgCr : Nat
  yStride : Nat
  cbcrStride : Nat
  cbcrStep : Nat
  bytesPerPixel : Nat
  deriving DecidableEq, Repr

/-- `YUV420Frame`. -/
structure YUV420Frame where
  width : Nat
  height : Nat
  planes : YCbCrPlanes
  deriving DecidableEq, Repr

/-- The three planes. -/
inductive YuvPlane where
  | y
  | cb
  | cr
  deriving DecidableEq, Repr

/-- One store of `CaptureYUV420`: the plane and pixel of its sample, its address and its width
in bytes. -/
structure YuvStore where
  plane : YuvPlane
  outX : Nat
  outY : Nat
  addr : Nat
  bytes : Nat
  deriving DecidableEq, Repr

/-- The store of pixel `(x, y)`'s sample in plane `p`: the row starts at the `unsigned int`
product `out_y * y_stride` (or `(out_y / 2) * cbcr_stride`), then `px_y` has moved by `x` pixels
in its row, `px_cb` and `px_cr` by `x / 2` steps in theirs. -/
def YCbCrPlanes.store (layout : YCbCrPlanes) (p : YuvPlane) (x y : Nat) : YuvStore :=
  match p with
  | .y => ⟨.y, x, y, layout.imgY + uint32Mul y layout.yStride + x * layout.bytesPerPixel,
      layout.bytesPerPixel⟩
  | .cb => ⟨.cb, x, y,
      layout.imgCb + uint32Mul (y / 2) layout.cbcrStride + x / 2 * layout.cbcrStep,
      layout.bytesPerPixel⟩
  | .cr => ⟨.cr, x, y,
      layout.imgCr + uint32Mul (y / 2) layout.cbcrStride + x / 2 * layout.cbcrStep,
      layout.bytesPerPixel⟩

/-- The stores of one pixel, in order. -/
def pixelStores (layout : YCbCrPlanes) (x y : Nat) : List YuvStore :=
  if y % 2 = 0 ∧ x % 2 = 0 then [layout.store .y x y, layout.store .cb x y, layout.store .cr x y]
  else [layout.store .y x y]

/-- `EmulatedSensor::CaptureYUV420`: its stores, in order. With a bytes per pixel other than 1 or
2 it returns at its first pixel, before storing anything. -/
def captureYUV420 (layout : YCbCrPlanes) (width height : Nat) : List YuvStore :=
  if layout.bytesPerPixel = 1 ∨ layout.bytesPerPixel = 2 then
    (List.range height).flatMap fun y => (List.range width).flatMap fun x => pixelStores layout x y
  else []

/-! ### The frames `ProcessYUV420` and `threadLoop` lay out -/

/-- The planes of `ProcessYUV420`'s `REGULAR` path: a `width × height` frame at `bytesPerPixel`,
in the temporary vector at `base`. The plane offsets are `size_t` products; the strides are
`static_cast<uint32_t>(input_width * bytes_per_pixel)` and half of it. -/
def regularInputPlanes (base width height bytesPerPixel : Nat) : YCbCrPlanes where
  imgY := base
  imgCb := base + width * height * bytesPerPixel
  imgCr := base + width * height * bytesPerPixel * 5 / 4
  yStride := width * bytesPerPixel % 4294967296
  cbcrStride := width * bytesPerPixel % 4294967296 / 2
  cbcrStep := 1
  bytesPerPixel := bytesPerPixel

/-- The `JPEG_R` input frame `threadLoop` allocates at `base`, from the buffer's `uint32_t` width
and height: the plane offset and the strides are `uint32_t` products. -/
def jpegRPlanes (base width height : Nat) : YCbCrPlanes where
  imgY := base
  imgCb := base + uint32Mul (uint32Mul width height) 2
  imgCr := base + uint32Mul (uint32Mul width height) 2 + 2
  yStride := uint32Mul width 2
  cbcrStride := uint32Mul width 2
  cbcrStep := 2
  bytesPerPixel := 2

/-- What `ProcessYUV420` has `CaptureYUV420` store: into the output's planes for
`HIGH_QUALITY` (unless the property turns it into `REGULAR`), into the `inputWidth ×
inputHeight` temporary frame at `tempBase` for `REGULAR`, nothing for `REPROCESS`. -/
def processYUV420Capture (hqEdgeProcessing : Bool) (processType : ProcessType)
    (output : YUV420Frame) (inputWidth inputHeight tempBase : Nat) : List YuvStore :=
  let processType :=
    if processType = .highQuality ∧ hqEdgeProcessing = false then .regular else processType
  match processType with
  | .highQuality => captureYUV420 output.planes output.width output.height
  | .reprocess => []
  | .regular =>
    captureYUV420 (regularInputPlanes tempBase inputWidth inputHeight output.planes.bytesPerPixel)
      inputWidth inputHeight

/-! ### Memory -/

/-- The byte a store puts at address `a`, if it covers it: one byte holds the sample `v`, two
hold `htole16(v << 8)`, `0` then `v`. -/
def YuvStore.byteAt (w : YuvStore) (v a : Nat) : Option Nat :=
  if w.bytes = 1 then (if a = w.addr then some v else none)
  else if a = w.addr then some 0
  else if a = w.addr + 1 then some v
  else none

/-- The memory after the stores `ws`, with `value p x y` the sample of pixel `(x, y)` in `p`. -/
def applyStores (value : YuvPlane → Nat → Nat → Nat) (m : Nat → Nat) (ws : List YuvStore) :
    Nat → Nat :=
  ws.foldl (fun m w a => (w.byteAt (value w.plane w.outX w.outY) a).getD (m a)) m

section Memory

variable (value : YuvPlane → Nat → Nat → Nat)

theorem applyStores_append (m : Nat → Nat) (l1 l2 : List YuvStore) :
    applyStores value m (l1 ++ l2) = applyStores value (applyStores value m l1) l2 :=
  List.foldl_append _ _ _ _

/-- Stores that do not cover `a` leave it. -/
theorem applyStores_of_forall_none {a : Nat} :
    ∀ {ws : List YuvStore} (m : Nat → Nat),
      (∀ w ∈ ws, w.byteAt (value w.plane w.outX w.outY) a = none) →
      applyStores value m ws a = m a
  | [], _, _ => rfl
  | w :: ws, m, h => by
    rw [applyStores, List.foldl_cons, ← applyStores,
      applyStores_of_forall_none _ fun w' hw' => h w' (List.mem_cons_of_mem _ hw'),
      h w (List.mem_cons_self _ _), Option.getD_none]

/-- The last store that covers `a` decides it. -/
theorem applyStores_last {a b : Nat} {ws l1 l2 : List YuvStore} {w : YuvStore}
    (hws : ws = l1 ++ w :: l2) (hw : w.byteAt (value w.plane w.outX w.outY) a = some b)
    (hl2 : ∀ w' ∈ l2, w'.byteAt (value w'.plane w'.outX w'.outY) a = none) (m : Nat → Nat) :
    applyStores value m ws a = b := by
  rw [hws, applyStores_append, applyStores, List.foldl_cons, ← applyStores,
    applyStores_of_forall_none value _ hl2, hw, Option.getD_some]

/-- An address every store that covers it fills with the same byte `b`, and one does, holds
`b`. -/
theorem applyStores_of_agree {a b : Nat} :
    ∀ {ws : List YuvStore} (m : Nat → Nat),
      (∀ w ∈ ws, w.byteAt (value w.plane w.outX w.outY) a = none ∨
        w.byteAt (value w.plane w.outX w.outY) a = some b) →
      (∃ w ∈ ws, w.byteAt (value w.plane w.outX w.outY) a = some b) →
      applyStores value m ws a = b
  | [], _, _, ⟨_, hw, _⟩ => absurd hw (List.not_mem_nil _)
  | w :: ws, m, h, hex => by
    rw [applyStores, List.foldl_cons, ← applyStores]
    by_cases hl : ∃ w' ∈ ws, w'.byteAt (value w'.plane w'.outX w'.outY) a = some b
    · exact applyStores_of_agree _ (fun w' hw' => h w' (List.mem_cons_of_mem _ hw')) hl
    · have hnone : ∀ w' ∈ ws, w'.byteAt (value w'.plane w'.outX w'.outY) a = none :=
        fun w' hw' => (h w' (List.mem_cons_of_mem _ hw')).resolve_right fun e => hl ⟨w', hw', e⟩
      have hw : w.byteAt (value w.plane w.outX w.outY) a = some b := by
        obtain ⟨w', hw', e⟩ := hex
        rcases List.mem_cons.mp hw' with rfl | hw'
        · exact e
        · exact absurd e (by rw [hnone w' hw']; exact Option.noConfusion)
      rw [applyStores_of_forall_none value _ hnone, hw, Option.getD_some]

end Memory

/-! ### Where the stores go -/

@[simp] theorem YCbCrPlanes.store_plane (layout : YCbCrPlanes) (p : YuvPlane) (x y : Nat) :
    (layout.store p x y).plane = p := by cases p <;> rfl

@[simp] theorem YCbCrPlanes.store_outX (layout : YCbCrPlanes) (p : YuvPlane) (x y : Nat) :
    (layout.store p x y).outX = x := by cases p <;> rfl

@[simp] theorem YCbCrPlanes.store_outY (layout : YCbCrPlanes) (p : YuvPlane) (x y : Nat) :
    (layout.store p x y).outY = y := by cases p <;> rfl

@[simp] theorem YCbCrPlanes.store_bytes (layout : YCbCrPlanes) (p : YuvPlane) (x y : Nat) :
    (layout.store p x y).bytes = layout.bytesPerPixel := by cases p <;> rfl

theorem mem_pixelStores {layout : YCbCrPlanes} {x y : Nat} {w : YuvStore} :
    w ∈ pixelStores layout x y ↔
      w = layout.store .y x y ∨
        (y % 2 = 0 ∧ x % 2 = 0) ∧ (w = layout.store .cb x y ∨ w = layout.store .cr x y) := by
  unfold pixelStores
  split_ifs with h <;> simp [h]

theorem bytes_of_mem_pixelStores {layout : YCbCrPlanes} {x y : Nat} {w : YuvStore}
    (hw : w ∈ pixelStores layout x y) : w.bytes = layout.bytesPerPixel := by
  rcases mem_pixelStores.1 hw with rfl | ⟨-, rfl | rfl⟩ <;>
    exact YCbCrPlanes.store_bytes _ _ _ _

theorem store_mem_pixelStores {layout : YCbCrPlanes} {p : YuvPlane} (hp : p ≠ .y) {x y : Nat}
    (he : y % 2 = 0 ∧ x % 2 = 0) : layout.store p x y ∈ pixelStores layout x y := by
  cases p
  · exact absurd rfl hp
  · exact mem_pixelStores.2 (.inr ⟨he, .inl rfl⟩)
  · exact mem_pixelStores.2 (.inr ⟨he, .inr rfl⟩)

theorem mem_captureYUV420 {layout : YCbCrPlanes} {width height : Nat}
    (hb : layout.bytesPerPixel = 1 ∨ layout.bytesPerPixel = 2) {w : YuvStore} :
    w ∈ captureYUV420 layout width height ↔
      ∃ x < width, ∃ y < height, w ∈ pixelStores layout x y := by
  simp only [captureYUV420, if_pos hb, List.mem_flatMap, List.mem_range]
  constructor
  · rintro ⟨y, hy, x, hx, hw⟩
    exact ⟨x, hx, y, hy, hw⟩
  · rintro ⟨x, hx, y, hy, hw⟩
    exact ⟨y, hy, x, hx, hw⟩

theorem flatMap_range_split {α : Type} (f : Nat → List α) {i n : Nat} (h : i < n) :
    (List.range n).flatMap f =
      (List.range i).flatMap f ++ f i ++ (List.range' (i + 1) (n - (i + 1))).flatMap f := by
  have h1 := List.range'_append_1 0 i (n - i)
  rw [Nat.zero_add, show n - i + i = n by omega] at h1
  have hr : List.range n = List.range i ++ i :: List.range' (i + 1) (n - (i + 1)) := by
    rw [List.range_eq_range', List.range_eq_range', ← h1, show n - i = n - (i + 1) + 1 by omega,
      List.range'_succ]
  rw [hr, List.flatMap_append, List.flatMap_cons, List.append_assoc]

/-- The stores after pixel `(x0, y0)`'s are those of the pixels after it in the scan. -/
theorem captureYUV420_split {layout : YCbCrPlanes} {width height x0 y0 : Nat}
    (hb : layout.bytesPerPixel = 1 ∨ layout.bytesPerPixel = 2) (hx : x0 < width)
    (hy : y0 < height) :
    ∃ l1 l2, captureYUV420 layout width height = l1 ++ pixelStores layout x0 y0 ++ l2 ∧
      ∀ w ∈ l2, ∃ x < width, ∃ y < height, (y = y0 ∧ x0 < x ∨ y0 < y) ∧
        w ∈ pixelStores layout x y := by
  rw [captureYUV420, if_pos hb, flatMap_range_split _ hy,
    flatMap_range_split (fun x => pixelStores layout x y0) hx]
  refine ⟨((List.range y0).flatMap fun y =>
        (List.range width).flatMap fun x => pixelStores layout x y) ++
      (List.range x0).flatMap fun x => pixelStores layout x y0,
    ((List.range' (x0 + 1) (width - (x0 + 1))).flatMap fun x => pixelStores layout x y0) ++
      (List.range' (y0 + 1) (height - (y0 + 1))).flatMap fun y =>
        (List.range width).flatMap fun x => pixelStores layout x y,
    by simp only [List.append_assoc], fun w hw => ?_⟩
  simp only [List.mem_append, List.mem_flatMap, List.mem_range'_1, List.mem_range] at hw
  rcases hw with ⟨x, ⟨hx1, hx2⟩, hw⟩ | ⟨y, ⟨hy1, hy2⟩, x, hx', hw⟩
  · exact ⟨x, by omega, y0, hy, .inl ⟨rfl, by omega⟩, hw⟩
  · exact ⟨x, hx', y, by omega, .inr (by omega), hw⟩

/-- At a pixel of even row and column, its Y, Cb and Cr stores follow one another. -/
theorem captureYUV420_split_even {layout : YCbCrPlanes} {width height x0 y0 : Nat}
    (hb : layout.bytesPerPixel = 1 ∨ layout.bytesPerPixel = 2) (hx : x0 < width)
    (hy : y0 < height) (hxe : x0 % 2 = 0) (hye : y0 % 2 = 0) :
    ∃ l1 l2, captureYUV420 layout width height =
        (l1 ++ [layout.store .y x0 y0]) ++
          layout.store .cb x0 y0 :: (layout.store .cr x0 y0 :: l2) ∧
      ∀ w ∈ l2, ∃ x < width, ∃ y < height, (y = y0 ∧ x0 < x ∨ y0 < y) ∧
        w ∈ pixelStores layout x y := by
  obtain ⟨l1, l2, hws, hl2⟩ := captureYUV420_split hb hx hy
  refine ⟨l1, l2, ?_, hl2⟩
  rw [hws, pixelStores, if_pos ⟨hye, hxe⟩]
  simp

/-- The byte a chroma sample of pixel `(x0, y0)` puts at `a` is the one the capture leaves
there, when the stores after it miss `a`: the Cr sample of that pixel, if the sample is Cb, and
those of every later pixel. -/
theorem applyStores_captureYUV420_of_later_miss (value : YuvPlane → Nat → Nat → Nat)
    {layout : YCbCrPlanes} {width height x0 y0 : Nat}
    (hb : layout.bytesPerPixel = 1 ∨ layout.bytesPerPixel = 2) (hx : x0 < width)
    (hy : y0 < height) (hxe : x0 % 2 = 0) (hye : y0 % 2 = 0) {p : YuvPlane} (hp : p ≠ .y)
    {a b : Nat} (hw : (layout.store p x0 y0).byteAt (value p x0 y0) a = some b)
    (hcr : p = .cb → (layout.store .cr x0 y0).byteAt (value .cr x0 y0) a = none)
    (hlater : ∀ x < width, ∀ y < height, (y = y0 ∧ x0 < x ∨ y0 < y) →
      ∀ st ∈ pixelStores layout x y, st.byteAt (value st.plane st.outX st.outY) a = none)
    (m : Nat → Nat) :
    applyStores value m (captureYUV420 layout width height) a = b := by
  obtain ⟨l1, l2, hws, hl2⟩ := captureYUV420_split_even hb hx hy hxe hye
  have hmiss : ∀ st ∈ l2, st.byteAt (value st.plane st.outX st.outY) a = none := by
    intro st hst
    obtain ⟨x, hx, y, hy, hl, hst⟩ := hl2 st hst
    exact hlater x hx y hy hl st hst
  cases p
  · exact absurd rfl hp
  · refine applyStores_last value hws (by simpa using hw) (fun st hst => ?_) m
    rcases List.mem_cons.1 hst with rfl | hst
    · simpa using hcr rfl
    · exact hmiss st hst
  · have hsplit : captureYUV420 layout width height =
        (l1 ++ [layout.store .y x0 y0, layout.store .cb x0 y0]) ++
          layout.store .cr x0 y0 :: l2 := by
      rw [hws]; simp
    exact applyStores_last value hsplit (by simpa using hw) hmiss m

/-- A store leaves alone the addresses it does not cover. -/
theorem YuvStore.byteAt_eq_none {w : YuvStore} {v a : Nat} (hb : w.bytes = 1 ∨ w.bytes = 2)
    (h : a < w.addr ∨ w.addr + w.bytes ≤ a) : w.byteAt v a = none := by
  unfold YuvStore.byteAt
  rcases hb with hb | hb <;> simp only [hb] <;> split_ifs <;> first | rfl | omega

/-- A row product `y * S`, for `y` below a height `H`, is below `2^32` when `S * H` is. -/
theorem row_mul_lt {y H S : Nat} (hy : y < H) (h : S * H < 4294967296) : y * S < 4294967296 :=
  Nat.lt_of_le_of_lt (by rw [Nat.mul_comm]; exact Nat.mul_le_mul_left _ hy.le) h

theorem mul_add_le_mul {a b : Nat} (W : Nat) (h : a < b) : a * W + W ≤ b * W := by
  simpa only [Nat.succ_mul] using Nat.mul_le_mul_right W h

theorem mul_add_two_le_mul {a b : Nat} (W : Nat) (h : a + 1 < b) : a * W + W + W ≤ b * W := by
  simpa only [Nat.succ_mul] using Nat.mul_le_mul_right W h

/-- Row-major positions with rows `W` apart are distinct for distinct pixels. -/
theorem mul_add_inj {a b c d W : Nat} (hb : b < W) (hd : d < W) (h : a * W + b = c * W + d) :
    a = c ∧ b = d := by
  have hW : 0 < W := by omega
  have hdiv : ∀ {e f : Nat}, f < W → (e * W + f) / W = e := fun hf => by
    rw [Nat.add_comm, Nat.add_mul_div_right _ _ hW, Nat.div_eq_of_lt hf, Nat.zero_add]
  have hac : a = c := (hdiv hb).symm.trans (h ▸ hdiv hd)
  subst hac
  exact ⟨rfl, by omega⟩

/-! ### The `REGULAR` path of an 8-bit output -/

section EightBit

variable (base w h : Nat)

/-- Where each plane of the 8-bit `2w × 2h` temporary frame starts: Y, then `w * h` bytes
each of Cb and Cr after its `4 * w * h` bytes. -/
def eightBitPlaneBase : YuvPlane → Nat
  | .y => 0
  | .cb => 4 * (h * w)
  | .cr => 5 * (h * w)

/-- The offset of a pixel's sample in its plane: `2w` per row in Y, `w` per row of the
half-size chroma planes. -/
def eightBitOffset : YuvPlane → Nat → Nat → Nat
  | .y, x, y => 2 * (y * w) + x
  | _, x, y => y / 2 * w + x / 2

/-- Below `2^32` for the frame, a stored pixel's address is its plane's base plus its offset. -/
theorem eightBit_addr (hwrap : 2 * w * (2 * h) < 4294967296) (p : YuvPlane) {x y : Nat}
    (hy : y < 2 * h) :
    ((regularInputPlanes base (2 * w) (2 * h) 1).store p x y).addr =
      base + eightBitPlaneBase w h p + eightBitOffset w p x y := by
  have hs : 2 * w * 1 % 4294967296 = 2 * w := by
    rw [Nat.mul_one]; exact Nat.mod_eq_of_lt (uint32Mul_size (by omega) hwrap).1
  have hrow := row_mul_lt hy hwrap
  have hc : y / 2 * w < 4294967296 := Nat.lt_of_le_of_lt
    (Nat.mul_le_mul (Nat.div_le_self y 2) (Nat.le_mul_of_pos_left w (by decide))) hrow
  cases p <;> simp only [YCbCrPlanes.store, regularInputPlanes, eightBitPlaneBase, eightBitOffset, hs]
  · rw [uint32Mul_of_lt hrow]; ring
  · rw [show 2 * w / 2 = w by omega, uint32Mul_of_lt hc]; ring
  · rw [show 2 * w / 2 = w by omega, uint32Mul_of_lt hc,
      show 2 * w * (2 * h) * 1 * 5 = 4 * (5 * (h * w)) by ring,
      Nat.mul_div_cancel_left _ (by decide)]
    ring

/-- A stored pixel's offset lies inside its plane. -/
theorem eightBitOffset_lt {p : YuvPlane} {x y : Nat} (hx : x < 2 * w) (hy : y < 2 * h) :
    eightBitOffset w p x y < if p = .y then 4 * (h * w) else h * w := by
  cases p <;> simp only [eightBitOffset, reduceCtorEq, if_true, if_false]
  · have := mul_add_le_mul w hy
    rw [Nat.mul_assoc] at this
    omega
  all_goals
    have := mul_add_le_mul w (show y / 2 < h by omega)
    omega

/-- Two stored pixels of the 8-bit frame at one address are the same sample. -/
theorem eightBit_addr_inj (hwrap : 2 * w * (2 * h) < 4294967296) {p q : YuvPlane}
    {x y x' y' : Nat} (hx : x < 2 * w) (hy : y < 2 * h)
    (hx' : x' < 2 * w) (hy' : y' < 2 * h) (he : p = .y ∨ y % 2 = 0 ∧ x % 2 = 0)
    (he' : q = .y ∨ y' % 2 = 0 ∧ x' % 2 = 0)
    (hab : ((regularInputPlanes base (2 * w) (2 * h) 1).store p x y).addr =
      ((regularInputPlanes base (2 * w) (2 * h) 1).store q x' y').addr) :
    p = q ∧ x = x' ∧ y = y' := by
  have hlt := @eightBitOffset_lt w h p x y hx hy
  have hlt' := @eightBitOffset_lt w h q x' y' hx' hy'
  rw [eightBit_addr base w h hwrap p hy, eightBit_addr base w h hwrap q hy'] at hab
  -- The planes do not overlap, so both stores are in one plane.
  obtain rfl : p = q := by
    cases p <;> cases q <;> first
      | rfl
      | (simp only [eightBitPlaneBase, eightBitOffset, reduceCtorEq, if_true, if_false]
          at hab hlt hlt'; omega)
  cases p <;> simp only [eightBitPlaneBase, eightBitOffset, reduceCtorEq, true_or, false_or,
    true_and] at hab he he' ⊢
  · have hrow : y * (2 * w) + x = y' * (2 * w) + x' := by
      rw [show y * (2 * w) = 2 * (y * w) by ring, show y' * (2 * w) = 2 * (y' * w) by ring]
      omega
    exact (mul_add_inj hx hx' hrow).symm
  all_goals
    obtain ⟨hyy, hxx⟩ := mul_add_inj (show x / 2 < w by omega) (show x' / 2 < w by omega)
      (show y / 2 * w + x / 2 = y' / 2 * w + x' / 2 by omega)
    exact ⟨by omega, by omega⟩

end EightBit

/-- On the `REGULAR` path of an 8-bit output, with an even scene frame whose `W * H` bytes of Y
are fewer than `2^32`, `CaptureYUV420` stores every sample of the frame inside the
`W * H * 3 / 2` bytes `ProcessYUV420` reserves for it, and no store lands on another's byte: each
sample reads back as stored. -/
theorem regular_eightBit_round_trip (hq : Bool) (output : YUV420Frame)
    (hb : output.planes.bytesPerPixel = 1) (base W H : Nat) (hW : W % 2 = 0) (hH : H % 2 = 0)
    (hwrap : W * H < 4294967296) (value : YuvPlane → Nat → Nat → Nat) (m : Nat → Nat) :
    ∀ st ∈ processYUV420Capture hq .regular output W H base,
      base ≤ st.addr ∧ st.addr < base + W * H * 3 / 2 ∧
        applyStores value m (processYUV420Capture hq .regular output W H base) st.addr =
          value st.plane st.outX st.outY := by
  obtain ⟨w, rfl⟩ : ∃ w, W = 2 * w := ⟨W / 2, by omega⟩
  obtain ⟨h, rfl⟩ : ∃ h, H = 2 * h := ⟨H / 2, by omega⟩
  have hbpp : (regularInputPlanes base (2 * w) (2 * h) 1).bytesPerPixel = 1 ∨
      (regularInputPlanes base (2 * w) (2 * h) 1).bytesPerPixel = 2 := .inl rfl
  have hproc : processYUV420Capture hq .regular output (2 * w) (2 * h) base =
      captureYUV420 (regularInputPlanes base (2 * w) (2 * h) 1) (2 * w) (2 * h) := by
    simp [processYUV420Capture, hb]
  have hstore :
      ∀ st ∈ captureYUV420 (regularInputPlanes base (2 * w) (2 * h) 1) (2 * w) (2 * h),
      ∃ p x y, x < 2 * w ∧ y < 2 * h ∧ (p = .y ∨ y % 2 = 0 ∧ x % 2 = 0) ∧
        st = (regularInputPlanes base (2 * w) (2 * h) 1).store p x y := by
    intro st hst
    obtain ⟨x, hx, y, hy, hp⟩ := (mem_captureYUV420 hbpp).1 hst
    rcases mem_pixelStores.1 hp with rfl | ⟨he, rfl | rfl⟩
    exacts [⟨.y, x, y, hx, hy, .inl rfl, rfl⟩, ⟨.cb, x, y, hx, hy, .inr he, rfl⟩,
      ⟨.cr, x, y, hx, hy, .inr he, rfl⟩]
  rw [hproc]
  intro st hst
  obtain ⟨p, x, y, hx, hy, he, rfl⟩ := hstore st hst
  have hlt := @eightBitOffset_lt w h p x y hx hy
  have hsize : 2 * w * (2 * h) * 3 / 2 = 6 * (h * w) := by
    rw [show 2 * w * (2 * h) * 3 = 2 * (6 * (h * w)) by ring, Nat.mul_div_cancel_left _ (by decide)]
  rw [eightBit_addr base w h hwrap p hy, hsize]
  refine ⟨by omega, ?_, ?_⟩
  · cases p <;> simp only [eightBitPlaneBase, reduceCtorEq, if_true, if_false] at hlt ⊢ <;> omega
  rw [← eightBit_addr base w h hwrap p hy]
  refine applyStores_of_agree value m (fun st' hst' => ?_)
    ⟨_, hst, by simp [YuvStore.byteAt, regularInputPlanes]⟩
  obtain ⟨q, x', y', hx', hy', he', rfl⟩ := hstore st' hst'
  by_cases ha : ((regularInputPlanes base (2 * w) (2 * h) 1).store q x' y').addr =
      ((regularInputPlanes base (2 * w) (2 * h) 1).store p x y).addr
  · obtain ⟨rfl, rfl, rfl⟩ := eightBit_addr_inj base w h hwrap hx' hy' hx hy he' he ha
    exact .inr (by simp [YuvStore.byteAt, regularInputPlanes])
  · have hbytes : ((regularInputPlanes base (2 * w) (2 * h) 1).store q x' y').bytes = 1 :=
      (YCbCrPlanes.store_bytes _ _ _ _).trans rfl
    refine .inl (YuvStore.byteAt_eq_none (.inl hbytes) ?_)
    omega

/-- A `2 × 2` `YCBCR_420_888` output, in the planar layout. -/
def yuv420Output : YUV420Frame :=
  ⟨2, 2, ⟨0, 4, 5, 2, 1, 1, 1⟩⟩

theorem regular_eightBit_round_trip_twoByTwo :
    let st := (regularInputPlanes 0 2 2 1).store .y 1 1
    0 ≤ st.addr ∧ st.addr < 0 + 2 * 2 * 3 / 2 ∧
      applyStores (fun _ x y => x + 2 * y + 1) (fun _ => 0)
        (processYUV420Capture true .regular yuv420Output 2 2 0) st.addr = 4 :=
  regular_eightBit_round_trip true yuv420Output rfl 0 2 2 (by decide) (by decide) (by decide)
    (fun _ x y => x + 2 * y + 1) (fun _ => 0) _ (by decide)

/-! ### The `REGULAR` path of a 10-bit output -/

section TenBit

variable (base W h : Nat)

/-- Below `2^32` for the frame's Y plane, the `uint32_t` stride and the row products of the
10-bit frame are exact. -/
theorem tenBit_rows (hwrap : W * (2 * h) * 2 < 4294967296) {y : Nat} (hy : y < 2 * h) :
    W * 2 % 4294967296 = W * 2 ∧ uint32Mul y (W * 2) = y * (W * 2) ∧
      uint32Mul (y / 2) W = y / 2 * W := by
  have h2 : W * 2 * (2 * h) < 4294967296 := by rwa [Nat.mul_right_comm]
  have hrow := row_mul_lt hy h2
  refine ⟨Nat.mod_eq_of_lt (uint32Mul_size (by omega) h2).1, uint32Mul_of_lt hrow,
    uint32Mul_of_lt (Nat.lt_of_le_of_lt ?_ hrow)⟩
  exact Nat.mul_le_mul (Nat.div_le_self y 2) (Nat.le_mul_of_pos_right W (by decide))

theorem tenBit_y_addr (hwrap : W * (2 * h) * 2 < 4294967296) (x : Nat) {y : Nat}
    (hy : y < 2 * h) :
    ((regularInputPlanes base W (2 * h) 2).store .y x y).addr = base + 2 * (y * W) + 2 * x := by
  obtain ⟨hs, hrow, -⟩ := tenBit_rows W h hwrap hy
  simp only [YCbCrPlanes.store, regularInputPlanes, hs, hrow]
  ring

/-- Where the chroma planes of the 10-bit temporary frame start, past its `2 * W * H` bytes of Y. -/
def tenBitChromaBase : YuvPlane → Nat
  | .cr => 5 * (h * W)
  | _ => 4 * (h * W)

theorem tenBit_chroma_addr (hwrap : W * (2 * h) * 2 < 4294967296) {p : YuvPlane} (hp : p ≠ .y)
    (x : Nat) {y : Nat} (hy : y < 2 * h) :
    ((regularInputPlanes base W (2 * h) 2).store p x y).addr =
      base + tenBitChromaBase W h p + y / 2 * W + x / 2 := by
  have hW : W * 2 / 2 = W := Nat.mul_div_cancel W (by decide)
  obtain ⟨hs, -, hrow⟩ := tenBit_rows W h hwrap hy
  cases p
  · exact absurd rfl hp
  · simp only [YCbCrPlanes.store, regularInputPlanes, tenBitChromaBase, hs, hW, hrow, Nat.mul_one]
    ring
  · simp only [YCbCrPlanes.store, regularInputPlanes, tenBitChromaBase, hs, hW, hrow, Nat.mul_one]
    rw [show W * (2 * h) * 2 * 5 = 4 * (5 * (h * W)) by ring, Nat.mul_div_cancel_left _ (by decide)]

/-- In the 10-bit temporary frame, a store of a pixel after `(2 * k + 2, 2 * r)` in the scan
does not reach the byte after chroma sample `(k, r)` of plane `p`. -/
theorem tenBit_later_store_misses (hwrap : W * (2 * h) * 2 < 4294967296) {p : YuvPlane}
    (hp : p ≠ .y) (hW : 3 ≤ W) {r k : Nat}
    (hr : r < h) (hk : 2 * k + 2 < W) {x y : Nat} (hx : x < W) (hy : y < 2 * h)
    (hlater : y = 2 * r ∧ 2 * k + 2 < x ∨ 2 * r < y) {w : YuvStore}
    (hw : w ∈ pixelStores (regularInputPlanes base W (2 * h) 2) x y) :
    w.addr + w.bytes ≤ base + tenBitChromaBase W h p + r * W + k + 1 ∨
      base + tenBitChromaBase W h p + r * W + k + 1 < w.addr := by
  have hrW := mul_add_le_mul W hr
  have hbase : 4 * (h * W) ≤ tenBitChromaBase W h p := by
    cases p <;> simp only [tenBitChromaBase] <;> omega
  rcases mem_pixelStores.1 hw with rfl | ⟨⟨hye, hxe⟩, rfl | rfl⟩
  · have hyW := mul_add_le_mul W hy
    rw [Nat.mul_assoc] at hyW
    rw [tenBit_y_addr base W h hwrap _ hy]
    left
    simp only [YCbCrPlanes.store_bytes, regularInputPlanes]
    omega
  all_goals
    first
      | rw [@tenBit_chroma_addr base W h hwrap .cb nofun _ _ hy]
      | rw [@tenBit_chroma_addr base W h hwrap .cr nofun _ _ hy]
    have hyW := mul_add_le_mul W (show y / 2 < h by omega)
    rcases hlater with ⟨rfl, hx'⟩ | hy'
    · rw [Nat.mul_div_cancel_left r (by decide : 0 < 2)]
      cases p <;> first | exact absurd rfl hp |
        (simp only [tenBitChromaBase, YCbCrPlanes.store_bytes, regularInputPlanes]; omega)
    · have hyr := mul_add_le_mul W (show r < y / 2 by omega)
      cases p <;> first | exact absurd rfl hp |
        (simp only [tenBitChromaBase, YCbCrPlanes.store_bytes, regularInputPlanes]; omega)

end TenBit

/-- On the `REGULAR` path of a 10-bit output, `CaptureYUV420` stores each chroma sample of the
`W × H` scene frame as two bytes, its value in the second; but the next sample of the row is
stored one byte further on, and its first byte, `0`, lands on that value. Every chroma sample but
the last of its row reads back as a zero byte where its value was. The frame has an even height
and its `W * H * 2` bytes of Y are fewer than `2^32`. -/
theorem regular_tenBit_chroma_lost (hq : Bool) (output : YUV420Frame)
    (hb : output.planes.bytesPerPixel = 2) (base W H : Nat) (hH : H % 2 = 0)
    (hwrap : W * H * 2 < 4294967296)
    (value : YuvPlane → Nat → Nat → Nat) (m : Nat → Nat) {p : YuvPlane} (hp : p ≠ .y)
    {r k : Nat} (hr : r < H / 2) (hk : k + 1 < (W + 1) / 2) :
    let s := (regularInputPlanes base W H 2).store p (2 * k) (2 * r)
    s ∈ processYUV420Capture hq .regular output W H base ∧
      s.byteAt (value p (2 * k) (2 * r)) (s.addr + 1) = some (value p (2 * k) (2 * r)) ∧
      applyStores value m (processYUV420Capture hq .regular output W H base) (s.addr + 1) = 0 := by
  intro s
  obtain ⟨h, rfl⟩ : ∃ h, H = 2 * h := ⟨H / 2, by omega⟩
  rw [Nat.mul_div_cancel_left _ (by decide)] at hr
  have hbpp : (regularInputPlanes base W (2 * h) 2).bytesPerPixel = 1 ∨
      (regularInputPlanes base W (2 * h) 2).bytesPerPixel = 2 := .inr rfl
  have hproc : processYUV420Capture hq .regular output W (2 * h) base =
      captureYUV420 (regularInputPlanes base W (2 * h) 2) W (2 * h) := by
    simp [processYUV420Capture, hb]
  have hs : s.addr = base + tenBitChromaBase W h p + r * W + k := by
    rw [tenBit_chroma_addr base W h hwrap hp _ (show 2 * r < 2 * h by omega),
      Nat.mul_div_cancel_left _ (by decide : 0 < 2), Nat.mul_div_cancel_left _ (by decide : 0 < 2)]
  rw [hproc]
  refine ⟨(mem_captureYUV420 hbpp).2 ⟨2 * k, by omega, 2 * r, by omega,
    store_mem_pixelStores hp ⟨by omega, by omega⟩⟩,
    by simp [YuvStore.byteAt, s, regularInputPlanes], ?_⟩
  -- The next sample of the row is stored at `s.addr + 1`, and nothing after it reaches there.
  have hnext : ((regularInputPlanes base W (2 * h) 2).store p (2 * k + 2) (2 * r)).addr =
      s.addr + 1 := by
    rw [tenBit_chroma_addr base W h hwrap hp _ (show 2 * r < 2 * h by omega), hs,
      Nat.mul_div_cancel_left _ (by decide : 0 < 2)]
    omega
  refine applyStores_captureYUV420_of_later_miss value hbpp (show 2 * k + 2 < W by omega)
    (show 2 * r < 2 * h by omega) (by omega) (by omega) hp ?_ ?_ ?_ m
  · simp only [YuvStore.byteAt, hnext, YCbCrPlanes.store_bytes]
    simp [regularInputPlanes]
  · rintro rfl
    refine YuvStore.byteAt_eq_none (.inr rfl) (.inl ?_)
    rw [hs, @tenBit_chroma_addr base W h hwrap .cr nofun _ _ (show 2 * r < 2 * h by omega)]
    have := mul_add_le_mul W hr
    simp only [tenBitChromaBase]
    omega
  · intro x hx y hy hlater st hst
    refine YuvStore.byteAt_eq_none (.inr (bytes_of_mem_pixelStores hst)) ?_
    have := tenBit_later_store_misses base W h hwrap hp (by omega) hr (by omega) hx hy hlater hst
    omega

/-- A `4 × 2` `YCBCR_P010` output, in gralloc's interleaved layout. -/
def p010Output : YUV420Frame :=
  ⟨4, 2, ⟨0, 16, 18, 8, 8, 4, 2⟩⟩

theorem regular_tenBit_cb_lost_fourByTwo :
    let s := (regularInputPlanes 0 4 2 2).store .cb 0 0
    s ∈ processYUV420Capture true .regular p010Output 4 2 0 ∧ s.byteAt 7 (s.addr + 1) = some 7 ∧
      applyStores (fun _ _ _ => 7) (fun _ => 0)
        (processYUV420Capture true .regular p010Output 4 2 0) (s.addr + 1) = 0 :=
  @regular_tenBit_chroma_lost true p010Output rfl 0 4 2 (by decide) (by decide) (fun _ _ _ => 7)
    (fun _ => 0) .cb nofun 0 0 (by decide) (by decide)

/-! ### The `REGULAR` path of an 8-bit output, with an odd scene width -/

section OddWidth

variable (base w h : Nat)

/-- Where the chroma planes of the 8-bit `(2w + 1) × 2h` temporary frame start. -/
def oddWidthChromaBase : YuvPlane → Nat
  | .cr => 5 * (h * w) + 5 * h / 2
  | _ => 4 * (h * w) + 2 * h

/-- Below `2^32` for the frame, the `uint32_t` stride and the row products of the odd-width
frame are exact. -/
theorem oddWidth_rows (hwrap : (2 * w + 1) * (2 * h) < 4294967296) {y : Nat} (hy : y < 2 * h) :
    (2 * w + 1) % 4294967296 = 2 * w + 1 ∧ uint32Mul y (2 * w + 1) = y * (2 * w + 1) ∧
      uint32Mul (y / 2) w = y / 2 * w := by
  have hrow := row_mul_lt hy hwrap
  refine ⟨Nat.mod_eq_of_lt (uint32Mul_size (by omega) hwrap).1, uint32Mul_of_lt hrow,
    uint32Mul_of_lt (Nat.lt_of_le_of_lt ?_ hrow)⟩
  exact Nat.mul_le_mul (Nat.div_le_self y 2) (by omega)

theorem oddWidth_y_addr (hwrap : (2 * w + 1) * (2 * h) < 4294967296) (x : Nat) {y : Nat}
    (hy : y < 2 * h) :
    ((regularInputPlanes base (2 * w + 1) (2 * h) 1).store .y x y).addr =
      base + 2 * (y * w) + y + x := by
  obtain ⟨hs, hrow, -⟩ := oddWidth_rows w h hwrap hy
  simp only [YCbCrPlanes.store, regularInputPlanes, Nat.mul_one, hs, hrow]
  ring

/-- `cbcr_stride` is `W / 2 = w` bytes, one less than the `w + 1` samples of a chroma row. -/
theorem oddWidth_chroma_addr (hwrap : (2 * w + 1) * (2 * h) < 4294967296) {p : YuvPlane}
    (hp : p ≠ .y) (x : Nat) {y : Nat} (hy : y < 2 * h) :
    ((regularInputPlanes base (2 * w + 1) (2 * h) 1).store p x y).addr =
      base + oddWidthChromaBase w h p + y / 2 * w + x / 2 := by
  have hs : (2 * w + 1) / 2 = w := by omega
  obtain ⟨hm, -, hrow⟩ := oddWidth_rows w h hwrap hy
  cases p
  · exact absurd rfl hp
  · simp only [YCbCrPlanes.store, regularInputPlanes, oddWidthChromaBase, Nat.mul_one, hm, hs, hrow]
    ring
  · simp only [YCbCrPlanes.store, regularInputPlanes, oddWidthChromaBase, Nat.mul_one, hm, hs, hrow]
    rw [show (2 * w + 1) * (2 * h) * 5 = 4 * (5 * (h * w)) + 10 * h by ring]
    omega

/-- In the odd-width frame, a store of a pixel after `(0, 2 * r + 2)` in the scan misses the
byte where the last chroma sample of chroma row `r` of plane `p` is stored. -/
theorem oddWidth_later_store_misses (hwrap : (2 * w + 1) * (2 * h) < 4294967296) {p : YuvPlane}
    (hp : p ≠ .y) (hw : 0 < w) {r : Nat}
    (hr : r + 1 < h) {x y : Nat} (hx : x < 2 * w + 1) (hy : y < 2 * h)
    (hlater : y = 2 * r + 2 ∧ 0 < x ∨ 2 * r + 2 < y) {st : YuvStore}
    (hst : st ∈ pixelStores (regularInputPlanes base (2 * w + 1) (2 * h) 1) x y) :
    st.addr + st.bytes ≤ base + oddWidthChromaBase w h p + r * w + w ∨
      base + oddWidthChromaBase w h p + r * w + w < st.addr := by
  have hrow := mul_add_two_le_mul w hr
  have hbase : 4 * (h * w) + 2 * h ≤ oddWidthChromaBase w h p := by
    cases p <;> simp only [oddWidthChromaBase] <;> omega
  rcases mem_pixelStores.1 hst with rfl | ⟨⟨hye, hxe⟩, rfl | rfl⟩
  · have hyW := mul_add_le_mul w hy
    rw [Nat.mul_assoc] at hyW
    rw [oddWidth_y_addr base w h hwrap _ hy]
    left
    simp only [YCbCrPlanes.store_bytes, regularInputPlanes]
    omega
  all_goals
    first
      | rw [@oddWidth_chroma_addr base w h hwrap .cb nofun _ _ hy]
      | rw [@oddWidth_chroma_addr base w h hwrap .cr nofun _ _ hy]
    have hyW := mul_add_le_mul w (show y / 2 < h by omega)
    rcases hlater with ⟨rfl, hx'⟩ | hy'
    · rw [show (2 * r + 2) / 2 * w = r * w + w by rw [show (2 * r + 2) / 2 = r + 1 by omega,
        Nat.succ_mul]]
      cases p <;> first | exact absurd rfl hp |
        (simp only [oddWidthChromaBase, YCbCrPlanes.store_bytes, regularInputPlanes]; omega)
    · have hyr := mul_add_two_le_mul w (show r + 1 < y / 2 by omega)
      cases p <;> first | exact absurd rfl hp |
        (simp only [oddWidthChromaBase, YCbCrPlanes.store_bytes, regularInputPlanes]; omega)

end OddWidth

/-- On the `REGULAR` path of an 8-bit output, a scene frame of odd width `W` has `(W + 1) / 2`
chroma samples a row but `cbcr_stride = W / 2`: the last sample of a chroma row and the first of
the next are stored at one address. Every chroma row but the last loses its last sample to the
next row's first. The frame has an even height and its `W * H` bytes of Y are fewer than
`2^32`. -/
theorem regular_oddWidth_last_chroma_lost (hq : Bool) (output : YUV420Frame)
    (hb : output.planes.bytesPerPixel = 1) (base W H : Nat) (hW : W % 2 = 1) (hW1 : 1 < W)
    (hH : H % 2 = 0) (hwrap : W * H < 4294967296) (value : YuvPlane → Nat → Nat → Nat)
    (m : Nat → Nat) {p : YuvPlane}
    (hp : p ≠ .y) {r : Nat} (hr : r + 1 < H / 2) :
    let s := (regularInputPlanes base W H 1).store p (W - 1) (2 * r)
    s ∈ processYUV420Capture hq .regular output W H base ∧
      s.byteAt (value p (W - 1) (2 * r)) s.addr = some (value p (W - 1) (2 * r)) ∧
      applyStores value m (processYUV420Capture hq .regular output W H base) s.addr =
        value p 0 (2 * r + 2) := by
  intro s
  obtain ⟨w, rfl⟩ : ∃ w, W = 2 * w + 1 := ⟨W / 2, by omega⟩
  obtain ⟨h, rfl⟩ : ∃ h, H = 2 * h := ⟨H / 2, by omega⟩
  rw [Nat.mul_div_cancel_left _ (by decide)] at hr
  have hbpp : (regularInputPlanes base (2 * w + 1) (2 * h) 1).bytesPerPixel = 1 ∨
      (regularInputPlanes base (2 * w + 1) (2 * h) 1).bytesPerPixel = 2 := .inl rfl
  have hproc : processYUV420Capture hq .regular output (2 * w + 1) (2 * h) base =
      captureYUV420 (regularInputPlanes base (2 * w + 1) (2 * h) 1) (2 * w + 1) (2 * h) := by
    simp [processYUV420Capture, hb]
  have hs : s.addr = base + oddWidthChromaBase w h p + r * w + w := by
    simp only [s, oddWidth_chroma_addr base w h hwrap hp _ (show 2 * r < 2 * h by omega),
      Nat.mul_div_cancel_left _ (by decide : 0 < 2),
      show (2 * w + 1 - 1) / 2 = w by omega]
  rw [hproc]
  refine ⟨(mem_captureYUV420 hbpp).2 ⟨2 * w + 1 - 1, by omega, 2 * r, by omega,
    store_mem_pixelStores hp ⟨by omega, by omega⟩⟩,
    by simp [YuvStore.byteAt, s, regularInputPlanes], ?_⟩
  -- The first sample of the next chroma row is stored at `s.addr`, and nothing after it is.
  have hnext : ((regularInputPlanes base (2 * w + 1) (2 * h) 1).store p 0 (2 * r + 2)).addr =
      s.addr := by
    rw [oddWidth_chroma_addr base w h hwrap hp _ (show 2 * r + 2 < 2 * h by omega), hs,
      show (2 * r + 2) / 2 = r + 1 by omega, Nat.succ_mul]
    omega
  refine applyStores_captureYUV420_of_later_miss value hbpp (show 0 < 2 * w + 1 by omega)
    (show 2 * r + 2 < 2 * h by omega) (by omega) (by omega) hp ?_ ?_ ?_ m
  · simp only [YuvStore.byteAt, hnext, YCbCrPlanes.store_bytes]
    simp [regularInputPlanes]
  · -- the Cr sample of that pixel lies in the Cr plane, past every Cb sample
    rintro rfl
    refine YuvStore.byteAt_eq_none (.inl rfl) (.inl ?_)
    have hrow := mul_add_two_le_mul w hr
    rw [hs, @oddWidth_chroma_addr base w h hwrap .cr nofun _ _ (show 2 * r + 2 < 2 * h by omega)]
    simp only [oddWidthChromaBase]
    omega
  · intro x hx y hy hlater st hst
    refine YuvStore.byteAt_eq_none (.inl (bytes_of_mem_pixelStores hst)) ?_
    have := oddWidth_later_store_misses base w h hwrap hp (by omega) hr hx hy hlater hst
    omega

/-- A `3 × 4` scene frame, on the `REGULAR` path of the `2 × 2` output. -/
theorem regular_oddWidth_cb_lost_threeByFour :
    let s := (regularInputPlanes 0 3 4 1).store .cb (3 - 1) (2 * 0)
    s ∈ processYUV420Capture true .regular yuv420Output 3 4 0 ∧ s.byteAt 3 s.addr = some 3 ∧
      applyStores (fun _ x y => x + 3 * y + 1) (fun _ => 0)
        (processYUV420Capture true .regular yuv420Output 3 4 0) s.addr = 7 :=
  @regular_oddWidth_last_chroma_lost true yuv420Output rfl 0 3 4 (by decide) (by decide)
    (by decide) (by decide) (fun _ x y => x + 3 * y + 1) (fun _ => 0) .cb nofun 0 (by decide)

/-! ### The `JPEG_R` input frame on the `HIGH_QUALITY` path -/

section JpegR

variable (base W h : Nat)

/-- Below `2^32` for the frame's Y plane, the `uint32_t` products of the `JPEG_R` frame and its
row products are exact. -/
theorem jpegR_rows (hwrap : W * (2 * h) * 2 < 4294967296) {y : Nat} (hy : y < 2 * h) :
    uint32Mul (uint32Mul W (2 * h)) 2 = W * (2 * h) * 2 ∧ uint32Mul W 2 = W * 2 ∧
      uint32Mul y (W * 2) = y * (W * 2) ∧ uint32Mul (y / 2) (W * 2) = y / 2 * (W * 2) := by
  have h2 : W * 2 * (2 * h) < 4294967296 := by rwa [Nat.mul_right_comm]
  have hrow := row_mul_lt hy h2
  refine ⟨by rw [uint32Mul_of_lt (uint32Mul_size (by decide) hwrap).1, uint32Mul_of_lt hwrap],
    uint32Mul_of_lt (uint32Mul_size (by omega) h2).1, uint32Mul_of_lt hrow,
    uint32Mul_of_lt (Nat.lt_of_le_of_lt (Nat.mul_le_mul_right _ (Nat.div_le_self y 2)) hrow)⟩

theorem jpegR_y_addr (hwrap : W * (2 * h) * 2 < 4294967296) (x : Nat) {y : Nat}
    (hy : y < 2 * h) :
    ((jpegRPlanes base W (2 * h)).store .y x y).addr = base + 2 * (y * W) + 2 * x := by
  obtain ⟨-, hs, hrow, -⟩ := jpegR_rows W h hwrap hy
  simp only [YCbCrPlanes.store, jpegRPlanes, hs, hrow]
  ring

/-- Cb and Cr of a chroma sample are two bytes apart, and consecutive samples too. -/
theorem jpegR_chroma_addr (hwrap : W * (2 * h) * 2 < 4294967296) (x : Nat) {y : Nat}
    (hy : y < 2 * h) :
    ((jpegRPlanes base W (2 * h)).store .cb x y).addr =
        base + 4 * (h * W) + 2 * (y / 2 * W) + 2 * (x / 2) ∧
      ((jpegRPlanes base W (2 * h)).store .cr x y).addr =
        base + 4 * (h * W) + 2 * (y / 2 * W) + 2 * (x / 2) + 2 := by
  obtain ⟨hcb, hs, -, hc⟩ := jpegR_rows W h hwrap hy
  simp only [YCbCrPlanes.store, jpegRPlanes, hcb, hs, hc]
  constructor <;> ring

/-- In the `JPEG_R` frame, a store of a pixel after `(2 * k + 2, 2 * r)` in the scan lies past
the Cb sample of that pixel. -/
theorem jpegR_later_store_misses (hwrap : W * (2 * h) * 2 < 4294967296) {r k : Nat}
    (hk : 2 * k + 2 < W)
    {x y : Nat} (hx : x < W) (hy : y < 2 * h) (hlater : y = 2 * r ∧ 2 * k + 2 < x ∨ 2 * r < y)
    {w : YuvStore} (hw : w ∈ pixelStores (jpegRPlanes base W (2 * h)) x y) :
    w.addr + w.bytes ≤ base + 4 * (h * W) ∨
      base + 4 * (h * W) + 2 * (r * W) + 2 * (k + 1) + 2 ≤ w.addr := by
  rcases mem_pixelStores.1 hw with rfl | ⟨⟨hye, hxe⟩, rfl | rfl⟩
  · have hyW := mul_add_le_mul W hy
    rw [Nat.mul_assoc] at hyW
    rw [jpegR_y_addr base W h hwrap _ hy]
    left
    simp only [YCbCrPlanes.store_bytes, jpegRPlanes]
    omega
  all_goals
    obtain ⟨hcb, hcr⟩ := jpegR_chroma_addr base W h hwrap x hy
    simp only [hcb, hcr]
    right
    rcases hlater with ⟨rfl, hx'⟩ | hy'
    · rw [Nat.mul_div_cancel_left r (by decide : 0 < 2)]
      omega
    · have hyr := mul_add_le_mul W (show r < y / 2 by omega)
      omega

end JpegR

/-- In the `JPEG_R` input frame `threadLoop` allocates, Cr sits two bytes after Cb and the chroma
pointers move by `cbcr_step = 2` bytes per sample: on the `HIGH_QUALITY` path the next Cb sample
is stored where the last Cr sample was. Every Cr sample but the last of its row reads back as
the Cb sample of the next pixel pair. The frame has an even height and its `W * H * 2` bytes of
Y are fewer than `2^32`. -/
theorem jpegR_highQuality_cr_lost (base W H : Nat) (hH : H % 2 = 0)
    (hwrap : W * H * 2 < 4294967296) (inputWidth inputHeight tempBase : Nat)
    (value : YuvPlane → Nat → Nat → Nat) (m : Nat → Nat)
    {r k : Nat} (hr : r < H / 2) (hk : k + 1 < (W + 1) / 2) :
    let s := (jpegRPlanes base W H).store .cr (2 * k) (2 * r)
    let ws := processYUV420Capture true .highQuality ⟨W, H, jpegRPlanes base W H⟩
      inputWidth inputHeight tempBase
    s ∈ ws ∧ s.byteAt (value .cr (2 * k) (2 * r)) (s.addr + 1) = some (value .cr (2 * k) (2 * r)) ∧
      applyStores value m ws (s.addr + 1) = value .cb (2 * k + 2) (2 * r) := by
  intro s ws
  obtain ⟨h, rfl⟩ : ∃ h, H = 2 * h := ⟨H / 2, by omega⟩
  rw [Nat.mul_div_cancel_left _ (by decide)] at hr
  have hbpp : (jpegRPlanes base W (2 * h)).bytesPerPixel = 1 ∨
      (jpegRPlanes base W (2 * h)).bytesPerPixel = 2 := .inr rfl
  have hws : ws = captureYUV420 (jpegRPlanes base W (2 * h)) W (2 * h) := rfl
  have hs : s.addr = base + 4 * (h * W) + 2 * (r * W) + 2 * k + 2 := by
    rw [(jpegR_chroma_addr base W h hwrap _ (show 2 * r < 2 * h by omega)).2,
      Nat.mul_div_cancel_left _ (by decide : 0 < 2), Nat.mul_div_cancel_left _ (by decide : 0 < 2)]
  rw [hws]
  refine ⟨(mem_captureYUV420 hbpp).2 ⟨2 * k, by omega, 2 * r, by omega,
    mem_pixelStores.2 (.inr ⟨⟨by omega, by omega⟩, .inr rfl⟩)⟩,
    by simp [YuvStore.byteAt, s, jpegRPlanes], ?_⟩
  -- The next Cb sample is stored at `s.addr`, and nothing after it reaches `s.addr + 1`.
  have hcb : ((jpegRPlanes base W (2 * h)).store .cb (2 * k + 2) (2 * r)).addr = s.addr := by
    rw [(jpegR_chroma_addr base W h hwrap _ (show 2 * r < 2 * h by omega)).1, hs,
      Nat.mul_div_cancel_left _ (by decide : 0 < 2)]
    omega
  refine applyStores_captureYUV420_of_later_miss value hbpp (show 2 * k + 2 < W by omega)
    (show 2 * r < 2 * h by omega) (by omega) (by omega) (show YuvPlane.cb ≠ .y from nofun) ?_
    (fun _ => ?_) ?_ m
  · simp only [YuvStore.byteAt, hcb, YCbCrPlanes.store_bytes]
    simp [jpegRPlanes]
  · refine YuvStore.byteAt_eq_none (.inr rfl) (.inl ?_)
    rw [(jpegR_chroma_addr base W h hwrap (2 * k + 2) (show 2 * r < 2 * h by omega)).2, hs,
      Nat.mul_div_cancel_left _ (by decide : 0 < 2)]
    omega
  · intro x hx y hy hlater st hst
    refine YuvStore.byteAt_eq_none (.inr (bytes_of_mem_pixelStores hst)) ?_
    have := jpegR_later_store_misses base W h hwrap (by omega) hx hy hlater hst
    omega

theorem jpegR_cr_lost_fourByTwo :
    let s := (jpegRPlanes 0 4 2).store .cr 0 0
    let ws := processYUV420Capture true .highQuality ⟨4, 2, jpegRPlanes 0 4 2⟩ 0 0 0
    s ∈ ws ∧ s.byteAt 1 (s.addr + 1) = some 1 ∧
      applyStores (fun _ x _ => x + 1) (fun _ => 0) ws (s.addr + 1) = 3 :=
  @jpegR_highQuality_cr_lost 0 4 2 (by decide) (by decide) 0 0 0 (fun _ x _ => x + 1)
    (fun _ => 0) 0 0 (by decide) (by decide)

end GoogleCamera.Emulated
