import Mathlib.Logic.Function.Basic

/-!
# Pixel formats, dataspaces and sensor characteristics

The format and dataspace values the emulated camera compares streams and buffers with, and the
fields of `SensorCharacteristics` that the stream checks (`EmulatedSensor::
IsStreamCombinationSupported`) and the pixel writers of `EmulatedSensor` read. The values are
those of the platform's graphics headers. The integer conversions of C++ are here as well.
-/

namespace GoogleCamera.Emulated

/-! ### Formats and dataspaces -/

/-- `HAL_PIXEL_FORMAT_RAW16`. -/
def halPixelFormatRaw16 : Int := 0x20
/-- `HAL_PIXEL_FORMAT_BLOB`. -/
def halPixelFormatBlob : Int := 0x21
/-- `HAL_PIXEL_FORMAT_IMPLEMENTATION_DEFINED`. -/
def halPixelFormatImplementationDefined : Int := 0x22
/-- `HAL_PIXEL_FORMAT_YCBCR_420_888`. -/
def halPixelFormatYcbcr420888 : Int := 0x23
/-- `HAL_PIXEL_FORMAT_YCRCB_420_SP`. -/
def halPixelFormatYcrcb420Sp : Int := 0x11
/-- `HAL_PIXEL_FORMAT_YCBCR_P010`. -/
def halPixelFormatYcbcrP010 : Int := 0x36
/-- `HAL_PIXEL_FORMAT_RGBA_8888`. -/
def halPixelFormatRgba8888 : Int := 1
/-- `HAL_PIXEL_FORMAT_RGB_888`. -/
def halPixelFormatRgb888 : Int := 3
/-- `HAL_PIXEL_FORMAT_Y16`. -/
def halPixelFormatY16 : Int := 0x20363159

/-- `HAL_DATASPACE_UNKNOWN`. -/
def halDataspaceUnknown : Int := 0
/-- `HAL_DATASPACE_V0_JFIF`. -/
def halDataspaceV0Jfif : Int := 0x8C20000
/-- `Dataspace::JPEG_R`. -/
def dataspaceJpegR : Int := 0x1005
/-- `Dataspace::BT2020_ITU_HLG`. -/
def dataspaceBt2020ItuHlg : Int := 0x12060000
/-- `Dataspace::BT2020_HLG`. -/
def dataspaceBt2020Hlg : Int := 0x0A060000
/-- `HAL_DATASPACE_DEPTH`. -/
def halDataspaceDepth : Int := 0x1000

/-- `ANDROID_REQUEST_AVAILABLE_DYNAMIC_RANGE_PROFILES_MAP_STANDARD`. -/
def dynamicRangeProfileStandard : Int := 1
/-- `ANDROID_SCALER_AVAILABLE_STREAM_USE_CASES_DEFAULT`. -/
def streamUseCaseDefault : Int := 0
/-- `ANDROID_SCALER_AVAILABLE_STREAM_USE_CASES_STILL_CAPTURE`. -/
def streamUseCaseStillCapture : Int := 2
/-- `ANDROID_SCALER_AVAILABLE_STREAM_USE_CASES_CROPPED_RAW`. -/
def streamUseCaseCroppedRaw : Int := 6

/-! ### Integer conversions -/

/-- An integer converted to `uint32_t` (or `unsigned int`): its value modulo `2^32`. -/
def uint32Of (v : Int) : Nat := (v % 4294967296).toNat

/-- An integer converted to a 32-bit `int`, or to an enumeration whose type is `int`. -/
def int32Of (v : Int) : Int := (v + 2147483648) % 4294967296 - 2147483648

/-- `unsigned int` addition. -/
def uint32Add (a b : Nat) : Nat := (a + b) % 4294967296

/-- `unsigned int` multiplication. -/
def uint32Mul (a b : Nat) : Nat := (a * b) % 4294967296

theorem uint32Add_of_lt {a b : Nat} (h : a + b < 4294967296) : uint32Add a b = a + b :=
  Nat.mod_eq_of_lt h

theorem uint32Mul_of_lt {a b : Nat} (h : a * b < 4294967296) : uint32Mul a b = a * b :=
  Nat.mod_eq_of_lt h

/-! ### Sensor characteristics -/

/-- The fields of a camera's `SensorCharacteristics` that the code here reads. -/
structure SensorCharacteristics where
  width : Nat
  height : Nat
  fullResWidth : Nat
  fullResHeight : Nat
  maxRawStreams : Nat
  maxProcessedStreams : Nat
  maxStallingStreams : Nat
  maxInputStreams : Nat
  is10bitDynamicRangeCapable : Bool
  supportStreamUseCase : Bool
  endValidStreamUseCase : Int
  quadBayerSensor : Bool
  deriving DecidableEq, Repr

/-- `LogicalCharacteristics`: the characteristics of each camera, by id. -/
abbrev LogicalCharacteristics := List (Nat × SensorCharacteristics)

end GoogleCamera.Emulated
