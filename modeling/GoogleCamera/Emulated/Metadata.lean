import Mathlib.Logic.Function.Basic

/-!
# Camera metadata as the request processor sees it

`HalCameraMetadata` holds at most one entry per tag: `Get(tag, &entry)` reads it and
`Set(tag, data, count)` replaces it. `EmulatedRequestProcessor.cpp` names only a few tags:
`ANDROID_CONTROL_SETTINGS_OVERRIDE`, which `ProcessPipelineRequests` tests to queue an
override snapshot, and the six tags that `ApplyOverrideSettings` copies from such a snapshot
into the settings of the request being serviced:

    ApplyOverrideZoom(override_setting, request_settings, ANDROID_CONTROL_SETTINGS_OVERRIDE);
    ApplyOverrideZoom(override_setting, request_settings, ANDROID_CONTROL_ZOOM_RATIO);
    ApplyOverrideZoom(override_setting, request_settings, ANDROID_SCALER_CROP_REGION);
    ApplyOverrideZoom(override_setting, request_settings, ANDROID_CONTROL_AE_REGIONS);
    ApplyOverrideZoom(override_setting, request_settings, ANDROID_CONTROL_AWB_REGIONS);
    ApplyOverrideZoom(override_setting, request_settings, ANDROID_CONTROL_AF_REGIONS);

`EmulatedSensor::threadLoop` reads `ANDROID_SENSOR_TIMESTAMP` and
`ANDROID_SENSOR_EXPOSURE_TIME` of a reprocess request's result, and `ReturnResults` writes
`ANDROID_SENSOR_TIMESTAMP` into the final result. `StreamConfigurationMap` reads the stream
configuration, duration and input-output map tags of the static characteristics, in their
default and `_MAXIMUM_RESOLUTION` variants.

A snapshot is a function from tags to optional entries; every tag the code here does not
name is `Tag.other n`. An entry keeps its storage type and its data. Float data is kept as
bit patterns: `ApplyOverrideZoom` copies it and nothing in the processor reads it.
-/

namespace GoogleCamera.Emulated

/-- The metadata tags the code here names, and every other tag. -/
inductive Tag where
  /-- `ANDROID_CONTROL_SETTINGS_OVERRIDE`. -/
  | controlSettingsOverride
  /-- `ANDROID_CONTROL_ZOOM_RATIO`. -/
  | controlZoomRatio
  /-- `ANDROID_SCALER_CROP_REGION`. -/
  | scalerCropRegion
  /-- `ANDROID_CONTROL_AE_REGIONS`. -/
  | controlAeRegions
  /-- `ANDROID_CONTROL_AWB_REGIONS`. -/
  | controlAwbRegions
  /-- `ANDROID_CONTROL_AF_REGIONS`. -/
  | controlAfRegions
  /-- `ANDROID_SENSOR_TIMESTAMP`. -/
  | sensorTimestamp
  /-- `ANDROID_SENSOR_EXPOSURE_TIME`. -/
  | sensorExposureTime
  /-- `ANDROID_SCALER_AVAILABLE_STREAM_CONFIGURATIONS`. -/
  | scalerAvailableStreamConfigurations
  /-- `ANDROID_SCALER_AVAILABLE_STREAM_CONFIGURATIONS_MAXIMUM_RESOLUTION`. -/
  | scalerAvailableStreamConfigurationsMaximumResolution
  /-- `ANDROID_DEPTH_AVAILABLE_DEPTH_STREAM_CONFIGURATIONS`. -/
  | depthAvailableDepthStreamConfigurations
  /-- `ANDROID_DEPTH_AVAILABLE_DEPTH_STREAM_CONFIGURATIONS_MAXIMUM_RESOLUTION`. -/
  | depthAvailableDepthStreamConfigurationsMaximumResolution
  /-- `ANDROID_DEPTH_AVAILABLE_DYNAMIC_DEPTH_STREAM_CONFIGURATIONS`. -/
  | depthAvailableDynamicDepthStreamConfigurations
  /-- `ANDROID_DEPTH_AVAILABLE_DYNAMIC_DEPTH_STREAM_CONFIGURATIONS_MAXIMUM_RESOLUTION`. -/
  | depthAvailableDynamicDepthStreamConfigurationsMaximumResolution
  /-- `ANDROID_SCALER_AVAILABLE_MIN_FRAME_DURATIONS`. -/
  | scalerAvailableMinFrameDurations
  /-- `ANDROID_SCALER_AVAILABLE_MIN_FRAME_DURATIONS_MAXIMUM_RESOLUTION`. -/
  | scalerAvailableMinFrameDurationsMaximumResolution
  /-- `ANDROID_DEPTH_AVAILABLE_DEPTH_MIN_FRAME_DURATIONS`. -/
  | depthAvailableDepthMinFrameDurations
  /-- `ANDROID_DEPTH_AVAILABLE_DEPTH_MIN_FRAME_DURATIONS_MAXIMUM_RESOLUTION`. -/
  | depthAvailableDepthMinFrameDurationsMaximumResolution
  /-- `ANDROID_SCALER_AVAILABLE_STALL_DURATIONS`. -/
  | scalerAvailableStallDurations
  /-- `ANDROID_SCALER_AVAILABLE_STALL_DURATIONS_MAXIMUM_RESOLUTION`. -/
  | scalerAvailableStallDurationsMaximumResolution
  /-- `ANDROID_DEPTH_AVAILABLE_DEPTH_STALL_DURATIONS`. -/
  | depthAvailableDepthStallDurations
  /-- `ANDROID_DEPTH_AVAILABLE_DEPTH_STALL_DURATIONS_MAXIMUM_RESOLUTION`. -/
  | depthAvailableDepthStallDurationsMaximumResolution
  /-- `ANDROID_SCALER_AVAILABLE_INPUT_OUTPUT_FORMATS_MAP`. -/
  | scalerAvailableInputOutputFormatsMap
  /-- `ANDROID_SCALER_AVAILABLE_INPUT_OUTPUT_FORMATS_MAP_MAXIMUM_RESOLUTION`. -/
  | scalerAvailableInputOutputFormatsMapMaximumResolution
  /-- `ANDROID_SCALER_PHYSICAL_CAMERA_MULTI_RESOLUTION_STREAM_CONFIGURATIONS`. -/
  | scalerPhysicalCameraMultiResolutionStreamConfigurations
  /-- `ANDROID_JPEGR_AVAILABLE_JPEG_R_STREAM_CONFIGURATIONS`. -/
  | jpegrAvailableJpegRStreamConfigurations
  /-- Any other tag, numbered. -/
  | other (n : Nat)
  deriving DecidableEq, Repr

/-- The storage type of an entry: `TYPE_INT32`, `TYPE_FLOAT`, `TYPE_INT64`, or another. -/
inductive EntryType where
  | int32
  | float
  | int64
  | other (n : Nat)
  deriving DecidableEq, Repr

/-- A `camera_metadata_ro_entry_t`: its type and its data. -/
structure Entry where
  type : EntryType
  data : List Int
  deriving DecidableEq, Repr

/-- `entry.count`. -/
def Entry.count (e : Entry) : Nat := e.data.length

/-- A `HalCameraMetadata` snapshot: at most one entry per tag. -/
def Metadata : Type := Tag → Option Entry

namespace Metadata

/-- The snapshot with no entry. -/
def empty : Metadata := fun _ => none

/-- `Get(tag, &entry)`: `some entry` where the call returns `OK`. -/
def get (m : Metadata) (t : Tag) : Option Entry := m t

/-- `Set(tag, data, count)`. -/
def set (m : Metadata) (t : Tag) (e : Entry) : Metadata := Function.update m t (some e)

@[simp] theorem get_set_self (m : Metadata) (t : Tag) (e : Entry) : (m.set t e).get t = some e :=
  Function.update_same _ _ _

@[simp] theorem get_set_of_ne (m : Metadata) {t u : Tag} (e : Entry) (h : u ≠ t) :
    (m.set t e).get u = m.get u :=
  Function.update_noteq h _ _

end Metadata

/-- `ANDROID_CONTROL_SETTINGS_OVERRIDE_ZOOM`, the value of the override tag that asks for
a zoom override. -/
def settingsOverrideZoom : Int := 1

/-- The test of `ProcessPipelineRequests`: `Get(ANDROID_CONTROL_SETTINGS_OVERRIDE)` is `OK`
and `entry.count == 1`. -/
def hasSettingsOverride (m : Metadata) : Bool :=
  match m.get .controlSettingsOverride with
  | some e => e.count == 1
  | none => false

/-- The test of `ApplyOverrideSettings`: the override tag holds one value, and it is
`ANDROID_CONTROL_SETTINGS_OVERRIDE_ZOOM`. -/
def isZoomOverride (m : Metadata) : Bool :=
  match m.get .controlSettingsOverride with
  | some e => e.count == 1 && e.data.head? == some settingsOverrideZoom
  | none => false

/-- `ApplyOverrideZoom`: copy the entry of `tag` from the override snapshot into the request
settings when it is there and of type `TYPE_INT32` or `TYPE_FLOAT`; otherwise only log. -/
def applyOverrideZoom (overrideSetting requestSettings : Metadata) (tag : Tag) : Metadata :=
  match overrideSetting.get tag with
  | some e =>
    match e.type with
    | .int32 | .float => requestSettings.set tag e
    | .int64 | .other _ => requestSettings
  | none => requestSettings

/-- The six tags `ApplyOverrideSettings` copies, in its order. -/
def zoomTags : List Tag :=
  [.controlSettingsOverride, .controlZoomRatio, .scalerCropRegion, .controlAeRegions,
    .controlAwbRegions, .controlAfRegions]

/-- The six `ApplyOverrideZoom` calls of `ApplyOverrideSettings`. -/
def applyOverrideZooms (overrideSetting requestSettings : Metadata) : Metadata :=
  zoomTags.foldl (applyOverrideZoom overrideSetting) requestSettings

end GoogleCamera.Emulated
