import GoogleCamera.Emulated.Characteristics

/-!
# `IsStreamCombinationSupported`: the stream limits

`EmulatedSensor::IsStreamCombinationSupported` (`hwl/EmulatedSensor.cpp`) decides whether a
camera accepts a stream configuration. The wrapper splits the streams by resolution mode
(`SplitStreamCombination`) and asks a per-mode overload about each part. The per-mode overload
checks each stream in turn and counts the output streams, per camera id:

    if (stream.is_physical_camera_stream) {
      stalling_stream_count[stream.physical_camera_id]++;
    } else {
      for (const auto& p : physical_map) {
        stalling_stream_count[p.first]++;
      }
    }

and after the loop compares each count with the camera's limit:

    for (const auto& stalling_count : stalling_stream_count) {
      if (stalling_count.second >
          sensor_chars.at(stalling_count.first).max_stalling_streams) { ... return false; }
    }

A logical stream counts against every camera of `physical_map`, and against none when the map
is empty, as it is for a camera with no physical devices (`EmulatedCameraDeviceHwlImpl` builds
it from `physical_device_map_` only). Then no output limit is checked at all
(`limits_unchecked_without_physical_cameras`).

The configuration maps are queried through the four accessors the overload calls
(`ConfigQueries`); their code is in `StreamConfigurationMap.h`, which is not in this tree. A
`sensor_chars.at` or `physical_map.at` on a missing id throws `std::out_of_range`; the model's
answer is then `none`.
-/

namespace GoogleCamera.Emulated

/-! ### Streams and cameras -/

/-- `StreamType`: `kOutput` or `kInput`. -/
inductive StreamType where
  | output
  | input
  deriving DecidableEq, Repr

/-- The fields of a `Stream` that the checks read; `rotation` is `0` for `kRotation0`. -/
structure Stream where
  streamType : StreamType
  width : Nat
  height : Nat
  format : Int
  dataSpace : Int
  rotation : Nat
  isPhysicalCameraStream : Bool
  physicalCameraId : Nat
  groupId : Int
  dynamicProfile : Int
  useCase : Int
  intendedForDefaultResolutionMode : Bool
  intendedForMaxResolutionMode : Bool
  deriving DecidableEq, Repr

/-- The accessors of a `StreamConfigurationMap` that the checks call. -/
structure ConfigQueries where
  /-- `GetValidOutputFormatsForInput(format)`. -/
  validOutputFormatsForInput : Int → List Int
  /-- `GetOutputSizes(format, dataspace)`. -/
  outputSizes : Int → Int → List (Nat × Nat)
  /-- `GetDynamicPhysicalStreamOutputFormats()`. -/
  dynamicPhysicalStreamOutputFormats : List Int
  /-- `GetDynamicPhysicalStreamOutputSizes(format)`. -/
  dynamicPhysicalStreamOutputSizes : Int → List (Nat × Nat)

/-- `PhysicalStreamConfigurationMap`: the configuration map of each physical camera, by id. -/
abbrev PhysicalStreamConfigurationMap := List (Nat × ConfigQueries)

/-! ### The checks -/

/-- How the checks leave the function early: `return false`, or `std::out_of_range` from an
`at` on a missing id. -/
inductive Exit where
  | rejected
  | outOfRange
  deriving DecidableEq, Repr

/-- `if (cond) { ALOGE(...); return false; }` -/
def refuse (cond : Bool) : Except Exit Unit :=
  if cond then throw .rejected else pure ()

/-- `m.at(id)`. -/
def lookupAt {α : Type} (m : List (Nat × α)) (id : Nat) : Except Exit α :=
  match m.lookup id with
  | some a => pure a
  | none => throw .outOfRange

/-- `count[id]++` on a `std::map<uint32_t, uint32_t>`, kept in key order. -/
def bump : List (Nat × Nat) → Nat → List (Nat × Nat)
  | [], id => [(id, 1)]
  | (k, n) :: m, id =>
    if id < k then (id, 1) :: (k, n) :: m
    else if id = k then (k, n + 1) :: m
    else (k, n) :: bump m id

/-- The counters of the per-mode overload. -/
structure Counts where
  input : Nat
  raw : List (Nat × Nat)
  processed : List (Nat × Nat)
  stalling : List (Nat × Nat)
  deriving DecidableEq, Repr

/-- The counters before the first stream. -/
def Counts.init : Counts := ⟨0, [], [], []⟩

section Checks

variable (logicalId : Nat) (configMap : ConfigQueries) (physicalMap : PhysicalStreamConfigurationMap)
  (sensorChars : LogicalCharacteristics) (isMaxRes : Bool)

/-- An output stream counts against its physical camera, or against every camera of
`physicalMap`. -/
def countStream (counter : List (Nat × Nat)) (s : Stream) : List (Nat × Nat) :=
  if s.isPhysicalCameraStream then bump counter s.physicalCameraId
  else physicalMap.foldl (fun counter p => bump counter p.1) counter

/-- The checks of an output stream, up to the size check, and its count. -/
def checkOutputStream (s : Stream) (c : Counts) : Except Exit Counts := do
  let isDynamicOutput := s.isPhysicalCameraStream && s.groupId != -1
  refuse (s.isPhysicalCameraStream && (physicalMap.lookup s.physicalCameraId).isNone)
  if isDynamicOutput then
    let m ← lookupAt physicalMap s.physicalCameraId
    refuse (s.format ∉ m.dynamicPhysicalStreamOutputFormats)
  if s.dynamicProfile ≠ dynamicRangeProfileStandard then
    let sensorChar ← lookupAt sensorChars
      (if s.isPhysicalCameraStream then s.physicalCameraId else logicalId)
    refuse !sensorChar.is10bitDynamicRangeCapable
    refuse (s.format ≠ halPixelFormatImplementationDefined ∧ s.format ≠ halPixelFormatYcbcrP010)
    refuse (s.format = halPixelFormatYcbcrP010 ∧ s.dataSpace ≠ dataspaceBt2020ItuHlg ∧
      s.dataSpace ≠ dataspaceBt2020Hlg ∧ s.dataSpace ≠ halDataspaceUnknown)
  let c ← if s.format = halPixelFormatBlob then do
      refuse (s.dataSpace ≠ halDataspaceV0Jfif ∧ s.dataSpace ≠ dataspaceJpegR ∧
        s.dataSpace ≠ halDataspaceUnknown)
      pure { c with stalling := countStream physicalMap c.stalling s }
    else if s.format = halPixelFormatRaw16 then do
      let sensorChar ← lookupAt sensorChars
        (if s.isPhysicalCameraStream then s.physicalCameraId else logicalId)
      let sensorHeight := if isMaxRes then sensorChar.fullResHeight else sensorChar.height
      let sensorWidth := if isMaxRes then sensorChar.fullResWidth else sensorChar.width
      refuse (s.height ≠ sensorHeight ∨ s.width ≠ sensorWidth)
      pure { c with raw := countStream physicalMap c.raw s }
    else pure { c with processed := countStream physicalMap c.processed s }
  let outputSizes ←
    if isDynamicOutput then do
      let m ← lookupAt physicalMap s.physicalCameraId
      pure (m.dynamicPhysicalStreamOutputSizes s.format)
    else if s.isPhysicalCameraStream then do
      let m ← lookupAt physicalMap s.physicalCameraId
      pure (m.outputSizes s.format s.dataSpace)
    else pure (configMap.outputSizes s.format s.dataSpace)
  refuse ((s.width, s.height) ∉ outputSizes)
  pure c

/-- The use-case checks, made for every stream. -/
def checkUseCase (s : Stream) : Except Exit Unit := do
  let logical ← lookupAt sensorChars logicalId
  if !logical.supportStreamUseCase then
    refuse (s.useCase ≠ streamUseCaseDefault)
  else if s.useCase > logical.endValidStreamUseCase then
    refuse true
  else if s.useCase ≠ streamUseCaseDefault then
    if s.useCase = streamUseCaseStillCapture then
      refuse (s.format ≠ halPixelFormatYcbcr420888 ∧ s.format ≠ halPixelFormatBlob)
    else if xor (s.format == halPixelFormatRaw16) (s.useCase == streamUseCaseCroppedRaw) then
      refuse true
    else
      refuse (s.format ≠ halPixelFormatYcbcr420888 ∧
        s.format ≠ halPixelFormatImplementationDefined ∧ s.format ≠ halPixelFormatRaw16)

/-- The body of the loop over `config.streams`. -/
def checkStream (c : Counts) (s : Stream) : Except Exit Counts := do
  refuse (s.rotation ≠ 0)
  let c ← match s.streamType with
    | .input => do
      let logical ← lookupAt sensorChars logicalId
      refuse (logical.maxInputStreams = 0)
      refuse (configMap.validOutputFormatsForInput s.format).isEmpty
      pure { c with input := c.input + 1 }
    | .output => checkOutputStream logicalId configMap physicalMap sensorChars isMaxRes s c
  checkUseCase logicalId sensorChars s
  pure c

/-- The comparisons after the loop. -/
def checkLimits (c : Counts) : Except Exit Unit := do
  c.raw.forM fun (id, n) => do
    let sensorChar ← lookupAt sensorChars id
    refuse (n > sensorChar.maxRawStreams + if isMaxRes then 1 else 0)
  c.stalling.forM fun (id, n) => do
    let sensorChar ← lookupAt sensorChars id
    refuse (n > sensorChar.maxStallingStreams)
  c.processed.forM fun (id, n) => do
    let sensorChar ← lookupAt sensorChars id
    refuse (n > sensorChar.maxProcessedStreams)
  let logical ← lookupAt sensorChars logicalId
  refuse (c.input > logical.maxInputStreams)

/-- The per-mode overload of `EmulatedSensor::IsStreamCombinationSupported`; `none` where it
throws. -/
def isStreamCombinationSupportedInMode (streams : List Stream) : Option Bool :=
  match (do
      let c ← streams.foldlM (checkStream logicalId configMap physicalMap sensorChars isMaxRes)
        Counts.init
      checkLimits logicalId sensorChars isMaxRes c) with
  | .ok () => some true
  | .error .rejected => some false
  | .error .outOfRange => none

end Checks

/-- `SplitStreamCombination`: the default-mode, maximum-resolution and input streams. -/
def splitStreamCombination (streams : List Stream) : List Stream × List Stream × List Stream :=
  (streams.filter fun s => s.streamType = .output ∧ s.intendedForDefaultResolutionMode,
   streams.filter fun s => s.streamType = .output ∧ s.intendedForMaxResolutionMode,
   streams.filter fun s => s.streamType = .input)

/-- `EmulatedSensor::IsStreamCombinationSupported`: both output parts, and the input part in
one of the two modes. -/
def isStreamCombinationSupported (logicalId : Nat) (streams : List Stream)
    (defaultConfigMap maxResolutionConfigMap : ConfigQueries)
    (physicalMap physicalMapMaxResolution : PhysicalStreamConfigurationMap)
    (sensorChars : LogicalCharacteristics) : Option Bool := do
  let (defaultStreams, maxResolutionStreams, inputStreams) := splitStreamCombination streams
  if !(← isStreamCombinationSupportedInMode logicalId defaultConfigMap physicalMap sensorChars
      false defaultStreams) then return false
  if !(← isStreamCombinationSupportedInMode logicalId maxResolutionConfigMap
      physicalMapMaxResolution sensorChars true maxResolutionStreams) then return false
  if ← isStreamCombinationSupportedInMode logicalId defaultConfigMap physicalMap sensorChars
      false inputStreams then return true
  isStreamCombinationSupportedInMode logicalId maxResolutionConfigMap physicalMapMaxResolution
    sensorChars true inputStreams

/-! ### The limits each camera sets -/

/-- The cameras an output stream counts against: its physical camera; for a logical stream, the
logical camera when `physicalMap` is empty, and every camera of `physicalMap` otherwise. -/
def targets (logicalId : Nat) (physicalMap : PhysicalStreamConfigurationMap) (s : Stream) :
    List Nat :=
  if s.isPhysicalCameraStream then [s.physicalCameraId]
  else if physicalMap.isEmpty then [logicalId] else physicalMap.map (·.1)

/-- For every camera of `sensorChars`, the output streams that count against it hold at most
`max_raw_streams` RAW16 streams (one more in maximum-resolution mode), `max_stalling_streams`
BLOB streams and `max_processed_streams` others; and there are at most `max_input_streams`
input streams of the logical camera. -/
def LimitsHold (logicalId : Nat) (physicalMap : PhysicalStreamConfigurationMap)
    (sensorChars : LogicalCharacteristics) (isMaxRes : Bool) (streams : List Stream) : Prop :=
  (∀ c ∈ sensorChars,
    let outputs := streams.filter fun s =>
      s.streamType = .output ∧ c.1 ∈ targets logicalId physicalMap s
    (outputs.filter (·.format = halPixelFormatRaw16)).length ≤
        c.2.maxRawStreams + (if isMaxRes then 1 else 0) ∧
      (outputs.filter (·.format = halPixelFormatBlob)).length ≤ c.2.maxStallingStreams ∧
      (outputs.filter fun s => s.format ≠ halPixelFormatRaw16 ∧ s.format ≠ halPixelFormatBlob).length
        ≤ c.2.maxProcessedStreams) ∧
  ∀ lc ∈ sensorChars.lookup logicalId,
    (streams.filter (·.streamType = .input)).length ≤ lc.maxInputStreams

instance (logicalId : Nat) (physicalMap : PhysicalStreamConfigurationMap)
    (sensorChars : LogicalCharacteristics) (isMaxRes : Bool) (streams : List Stream) :
    Decidable (LimitsHold logicalId physicalMap sensorChars isMaxRes streams) :=
  @instDecidableAnd _ _ (List.decidableBAll _ _)
    (Option.instDecidableForallForallMemOfDecidablePred (sensorChars.lookup logicalId))

/-- A camera with no physical devices, allowed one stalling stream. -/
def singleCamera : SensorCharacteristics :=
  { width := 640, height := 480, fullResWidth := 640, fullResHeight := 480, maxRawStreams := 1,
    maxProcessedStreams := 3, maxStallingStreams := 1, maxInputStreams := 0,
    is10bitDynamicRangeCapable := false, supportStreamUseCase := false,
    endValidStreamUseCase := 0, quadBayerSensor := false }

/-- A configuration map that offers every format at 640 × 480. -/
def vgaOnly : ConfigQueries := ⟨fun _ => [], fun _ _ => [(640, 480)], [], fun _ => []⟩

/-- A JPEG output of the logical camera at 640 × 480, in default resolution mode. -/
def jpegStream : Stream :=
  { streamType := .output, width := 640, height := 480, format := halPixelFormatBlob,
    dataSpace := halDataspaceV0Jfif, rotation := 0, isPhysicalCameraStream := false,
    physicalCameraId := 0, groupId := -1, dynamicProfile := dynamicRangeProfileStandard,
    useCase := streamUseCaseDefault, intendedForDefaultResolutionMode := true,
    intendedForMaxResolutionMode := false }

/-- Two JPEG streams on `singleCamera`, whose physical map is empty: both overloads accept them,
though the camera allows one stalling stream. -/
theorem limits_unchecked_without_physical_cameras :
    isStreamCombinationSupportedInMode 0 vgaOnly [] [(0, singleCamera)] false
        [jpegStream, jpegStream] = some true ∧
      isStreamCombinationSupported 0 [jpegStream, jpegStream] vgaOnly vgaOnly [] []
        [(0, singleCamera)] = some true ∧
      ¬ LimitsHold 0 [] [(0, singleCamera)] false [jpegStream, jpegStream] := by
  decide

end GoogleCamera.Emulated
