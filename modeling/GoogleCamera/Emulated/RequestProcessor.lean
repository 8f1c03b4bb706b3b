import GoogleCamera.Emulated.Sensor

/-!
# The request processor

`EmulatedRequestProcessor` admits the pipeline requests of a frame into `pending_requests_`
(`ProcessPipelineRequests`). Its loop thread (`RequestProcessorLoop`) services the front
request: it waits on the output buffers' fences, applies the queued zoom overrides to the
request's settings (`ApplyOverrideSettings`), and either latches the request in the sensor
(`SetCurrentRequest`) or answers it with `ERROR_RESULT`. `Flush` answers every pending request
with `ERROR_REQUEST`.

Each function here is the code of one critical section under `process_mutex_`, written as a
function of the processor's state and of what its collaborators answer. The collaborators are
the HWL session's buffer callbacks, gralloc, the fences, and the request state's
`UpdateRequestForDynamicStreams`, `InitializeLogicalSettings` and `InitializeLogicalResult`,
whose code is not part of this file. The threads that run the sections, and their
interleavings, are in `GoogleCamera.Emulated.System`.

Frame numbers are `uint32_t`, and `override_frame_number - frame_number` is a `uint32_t`
difference; both are `UInt32` here. Each pending request carries a ghost `id`, its admission
index, so that the proofs can follow it; the code keeps no such field.
-/

namespace GoogleCamera.Emulated

/-- The `status_t` values the processor, and the HAL's process blocks, return. -/
inductive Status where
  | ok
  | badValue
  | timedOut
  | noMemory
  | noInit
  | alreadyExists
  /-- Any other error code, as returned by a collaborator. -/
  | other (code : Int)
  deriving DecidableEq, Repr

/-- `EmulatedSensor::kPipelineDepth`. -/
def kPipelineDepth : Nat := 3

/-- Modelled from the spec: the ramp window `kZoomSpeedup` of `ApplyOverrideSettings`, declared
in `EmulatedRequestProcessor.h`. The comment at its use asks to "skip until the speed-up is at
least 2 frames". -/
def kZoomSpeedup : UInt32 := 2

/-! ### Buffers -/

/-- A `StreamBuffer` of a pipeline request: its stream, and whether the framework supplied the
buffer (`buffer != nullptr`). -/
structure StreamBuffer where
  streamId : Nat
  hasBuffer : Bool
  deriving DecidableEq, Repr

/-- What the HWL session and gralloc answer while `CreateSensorBuffers` runs. -/
structure BufferSource where
  /-- `session_callback_.request_stream_buffers`: null, or for a stream the one valid buffer
  it returns (`none` when it fails or returns no valid buffer). -/
  requestStreamBuffers : Option (Nat → Option StreamBuffer)
  /-- `CreateSensorBuffer` returns a buffer: the lock and the fence import succeed. -/
  mapped : StreamBuffer → Bool
  /-- The camera of a stream: its physical camera, or `camera_id_`. -/
  cameraIdOf : Nat → Nat

/-- One pass of the collecting loop of `CreateSensorBuffers`: a supplied buffer as it is, a
missing one from `request_stream_buffers`. -/
def requestBuffer (src : BufferSource) (b : StreamBuffer) : Option StreamBuffer :=
  if b.hasBuffer then some b else src.requestStreamBuffers.bind fun f => f b.streamId

/-- `CreateSensorBuffers`: null for an empty list; otherwise every buffer is collected or
none is (`requested_buffers.clear()`), and each collected buffer that maps becomes a sensor
buffer of the frame. -/
def createSensorBuffers (src : BufferSource) (frame : UInt32) (pipelineId : Nat) :
    List StreamBuffer → Option (List SensorBuffer)
  | [] => none
  | buffers =>
    let requested := buffers.filterMap (requestBuffer src)
    let requested := if requested.length < buffers.length then [] else requested
    some ((requested.filter src.mapped).map fun b => ⟨frame, pipelineId, src.cameraIdOf b.streamId, b.streamId⟩)

theorem createSensorBuffers_eq_none {src : BufferSource} {frame : UInt32} {pid : Nat}
    {bs : List StreamBuffer} : createSensorBuffers src frame pid bs = none ↔ bs = [] := by
  cases bs <;> simp [createSensorBuffers]

/-- `AcquireBuffers`: null for a null or empty list; otherwise the buffers whose acquire fence
`sync_wait` passes. -/
def acquireBuffers (fenceOk : SensorBuffer → Bool) : Option (List SensorBuffer) → Option (List SensorBuffer)
  | none => none
  | some [] => none
  | some bs => some (bs.filter fenceOk)

/-! ### Admission -/

/-- An `HwlPipelineRequest`, as far as the processor reads it. -/
structure PipelineRequest where
  pipelineId : Nat
  settings : Option Metadata
  outputBuffers : List StreamBuffer
  inputBuffers : List StreamBuffer

/-- What the collaborators of `ProcessPipelineRequests` answer for one pipeline request. -/
structure Collab where
  /-- The status of `request_state_->UpdateRequestForDynamicStreams`. -/
  dynamicStreams : Status
  /-- The collaborators of `CreateSensorBuffers`. -/
  buffers : BufferSource

/-- An entry of `pending_requests_`, with the ghost admission index `id`. -/
structure PendingRequest where
  frameNumber : UInt32
  pipelineId : Nat
  settings : Option Metadata
  inputBuffers : Option (List SensorBuffer)
  outputBuffers : Option (List SensorBuffer)
  id : Nat

/-- An entry of `override_settings_`: a settings snapshot, or null for a request that came
with null settings. -/
structure OverrideEntry where
  settings : Option Metadata
  frameNumber : UInt32

/-- The state `ProcessPipelineRequests`, the loop and `Flush` share under `process_mutex_`. -/
structure Processor where
  pendingRequests : List PendingRequest
  overrideSettings : List OverrideEntry
  lastSettings : Option Metadata
  lastOverrideSettings : Option Metadata
  /-- Ghost: every request pushed so far, in order; the next one's `id` is its length. -/
  admittedRequests : List PendingRequest

/-- The processor of a new session. -/
def Processor.init : Processor := ⟨[], [], none, none, []⟩

/-- The override push of `ProcessPipelineRequests`: settings with a one-value
`ANDROID_CONTROL_SETTINGS_OVERRIDE` are queued, null settings queue a repeat entry. -/
def queueOverride (frame : UInt32) : Option Metadata → List OverrideEntry → List OverrideEntry
  | some s, q => if hasSettingsOverride s then q ++ [⟨some s, frame⟩] else q
  | none, q => q ++ [⟨none, frame⟩]

/-- The body of the `for` loop of `ProcessPipelineRequests` past the wait for a slot. -/
def processPipelineRequest (frame : UInt32) (r : PipelineRequest) (c : Collab) (p : Processor) :
    Except Status Processor :=
  if c.dynamicStreams ≠ .ok then .error c.dynamicStreams
  else
    match createSensorBuffers c.buffers frame r.pipelineId r.outputBuffers with
    | none => .error .noMemory
    | some outs =>
      let entry : PendingRequest := ⟨frame, r.pipelineId, r.settings,
        createSensorBuffers c.buffers frame r.pipelineId r.inputBuffers, some outs,
        p.admittedRequests.length⟩
      .ok { p with
        overrideSettings := queueOverride frame r.settings p.overrideSettings
        pendingRequests := p.pendingRequests ++ [entry]
        admittedRequests := p.admittedRequests ++ [entry] }

/-- Where a call of `ProcessPipelineRequests` stands when it gives up `process_mutex_`. -/
inductive Admission where
  /-- The call returned this status. -/
  | returned (st : Status) (p : Processor)
  /-- The call waits on `request_condition_` before the first of `rest`. -/
  | blocked (rest : List (PipelineRequest × Collab)) (p : Processor)

/-- The `for` loop of `ProcessPipelineRequests` under `process_mutex_`, until the call returns
or waits for a slot: a request with an invalid pipeline id ends the call with `BAD_VALUE`, and
the call waits while `pending_requests_.size() > kPipelineDepth`. `checked` says the first
request has passed the pipeline-id test already: the call resumes at the `while`. -/
def processRequestsFrom (frame : UInt32) (pipelineCount : Nat) :
    Bool → List (PipelineRequest × Collab) → Processor → Admission
  | _, [], p => .returned .ok p
  | checked, (r, c) :: rest, p =>
    if checked = false ∧ pipelineCount ≤ r.pipelineId then .returned .badValue p
    else if kPipelineDepth < p.pendingRequests.length then .blocked ((r, c) :: rest) p
    else
      match processPipelineRequest frame r c p with
      | .error st => .returned st p
      | .ok p' => processRequestsFrom frame pipelineCount false rest p'

theorem processRequestsFrom_cons (frame : UInt32) (count : Nat) (checked : Bool) (r : PipelineRequest)
    (c : Collab) (rest : List (PipelineRequest × Collab)) (p : Processor) :
    processRequestsFrom frame count checked ((r, c) :: rest) p =
      if checked = false ∧ count ≤ r.pipelineId then .returned .badValue p
      else if kPipelineDepth < p.pendingRequests.length then .blocked ((r, c) :: rest) p
      else
        match processPipelineRequest frame r c p with
        | .error st => .returned st p
        | .ok p' => processRequestsFrom frame count false rest p' := rfl

/-- The processor a call leaves when it gives up `process_mutex_`. -/
def Admission.processor : Admission → Processor
  | .returned _ p => p
  | .blocked _ p => p

theorem processPipelineRequest_ok {frame : UInt32} {r : PipelineRequest} {c : Collab}
    {p p' : Processor} (h : processPipelineRequest frame r c p = .ok p') :
    ∃ e : PendingRequest, e.id = p.admittedRequests.length ∧ e.frameNumber = frame ∧
      e.settings = r.settings ∧ p'.pendingRequests = p.pendingRequests ++ [e] ∧
      p'.admittedRequests = p.admittedRequests ++ [e] ∧
      p'.overrideSettings = queueOverride frame r.settings p.overrideSettings ∧
      p'.lastSettings = p.lastSettings ∧ p'.lastOverrideSettings = p.lastOverrideSettings := by
  unfold processPipelineRequest at h
  split at h
  · cases h
  · split at h
    · cases h
    · cases h
      exact ⟨_, rfl, rfl, rfl, rfl, rfl, rfl, rfl, rfl⟩

/-- A call's run under the lock only pushes: the same fresh requests to `pending_requests_`
and to the history, and `last_settings_` and `last_override_settings_` stay. -/
theorem processRequestsFrom_pushes (frame : UInt32) (count : Nat) :
    ∀ (checked : Bool) (reqs : List (PipelineRequest × Collab)) (p : Processor),
      ∃ pushed : List PendingRequest,
        (processRequestsFrom frame count checked reqs p).processor.pendingRequests = p.pendingRequests ++ pushed ∧
        (processRequestsFrom frame count checked reqs p).processor.admittedRequests =
          p.admittedRequests ++ pushed ∧
        pushed.map PendingRequest.id = List.range' p.admittedRequests.length pushed.length ∧
        (processRequestsFrom frame count checked reqs p).processor.lastSettings = p.lastSettings ∧
        (processRequestsFrom frame count checked reqs p).processor.lastOverrideSettings = p.lastOverrideSettings
  | _, [], p => ⟨[], by simp [processRequestsFrom, Admission.processor]⟩
  | checked, (r, c) :: rest, p => by
    unfold processRequestsFrom
    split
    · exact ⟨[], by simp [Admission.processor]⟩
    split
    · exact ⟨[], by simp [Admission.processor]⟩
    split
    · exact ⟨[], by simp [Admission.processor]⟩
    next p' hp =>
      obtain ⟨e, he, -, -, hpend, hadm, -, hls, hlo⟩ := processPipelineRequest_ok hp
      obtain ⟨pushed, h1, h2, h3, h4, h5⟩ := processRequestsFrom_pushes frame count false rest p'
      refine ⟨e :: pushed, ?_, ?_, ?_, h4.trans hls, h5.trans hlo⟩
      · simp [h1, hpend]
      · simp [h2, hadm]
      · simp [h3, hadm, he, List.range'_succ]

/-- A call's run under the lock pushes only while the queue is at most `kPipelineDepth` long,
so it leaves it at most one longer than that, or as long as it found it. -/
theorem processRequestsFrom_length_le (frame : UInt32) (count : Nat) :
    ∀ (checked : Bool) (reqs : List (PipelineRequest × Collab)) (p : Processor),
      (processRequestsFrom frame count checked reqs p).processor.pendingRequests.length =
          p.pendingRequests.length ∨
        (processRequestsFrom frame count checked reqs p).processor.pendingRequests.length ≤
          kPipelineDepth + 1
  | _, [], p => .inl rfl
  | checked, (r, c) :: rest, p => by
    unfold processRequestsFrom
    split
    · exact .inl rfl
    split
    · exact .inl rfl
    split
    · exact .inl rfl
    next hd p' hp =>
      obtain ⟨e, -, -, -, hpend, -⟩ := processPipelineRequest_ok hp
      have := processRequestsFrom_length_le frame count false rest p'
      simp only [hpend, List.length_append, List.length_singleton] at this
      omega

/-- `ProcessPipelineRequests` run alone: nothing pops `pending_requests_` while the call waits
for a slot, so the wait ends in `TIMED_OUT`. -/
def processPipelineRequests (frame : UInt32) (pipelineCount : Nat)
    (requests : List (PipelineRequest × Collab)) (p : Processor) : Status × Processor :=
  match processRequestsFrom frame pipelineCount false requests p with
  | .returned st p' => (st, p')
  | .blocked _ p' => (.timedOut, p')

/-! ### Overrides -/

/-- What `ApplyOverrideSettings` leaves: its return value, `override_settings_`,
`last_override_settings_`, and the request settings with the zoom overrides copied in. -/
structure Applied where
  ret : UInt32
  overrideSettings : List OverrideEntry
  lastOverrideSettings : Option Metadata
  settings : Option Metadata

/-- The `while` loop of `ApplyOverrideSettings` on non-null request settings `s`. Each entry is
popped; its snapshot, or `last_override_settings_` for a repeat entry, is read, and `none`
stands for the dereference of a null snapshot. The loop returns at the first entry at least
`kZoomSpeedup` frames ahead, as a `uint32_t` difference. -/
def applyOverrides (frame : UInt32) :
    List OverrideEntry → Option Metadata → Metadata → Option Applied
  | [], last, s => some ⟨0, [], last, some s⟩
  | e :: rest, last, s =>
    match e.settings.or last with
    | none => none
    | some o =>
      let overriding := isZoomOverride o
      let s' := if overriding then applyOverrideZooms o s else s
      let last' := if e.settings.isSome then some o else last
      if kZoomSpeedup ≤ e.frameNumber - frame then
        some ⟨if overriding then e.frameNumber else 0, rest, last', some s'⟩
      else applyOverrides frame rest last' s'

/-- `ApplyOverrideSettings(frame_number, request_settings)`: with null settings the loop does
not run and `0` is returned. -/
def applyOverrideSettings (frame : UInt32) :
    Option Metadata → List OverrideEntry → Option Metadata → Option Applied
  | none, q, last => some ⟨0, q, last, none⟩
  | some s, q, last => applyOverrides frame q last s

/-! ### The loop -/

/-- What the collaborators of the loop answer while it services the front request. -/
structure LoopOracle where
  /-- `sync_wait` on a buffer's acquire fence succeeds. -/
  fenceOk : SensorBuffer → Bool
  /-- `InitializeLogicalSettings`: the settings it fills, or `none` when it fails. -/
  logicalSettings : Option LogicalCameraSettings
  /-- `partial_result` of the shells `InitializeLogicalResult` gives, partial then final. -/
  partialCount : Nat × Nat
  /-- The metadata of the two shells, partial then final. -/
  metadata : Metadata × Metadata

/-- What one servicing of the front request does. -/
inductive Serviced where
  /-- `pending_requests_` is empty. -/
  | idle
  /-- `ApplyOverrideSettings` dereferences a null override snapshot. -/
  | fault
  /-- The request is answered with `ERROR_RESULT` and popped. `applied` is what
  `ApplyOverrideSettings` returned and the settings `InitializeLogicalSettings` got, when the
  loop got that far. -/
  | failed (r : PendingRequest) (applied : Option (UInt32 × Option Metadata)) (p : Processor)
  /-- The request is latched in the sensor as `next`, and popped. -/
  | latched (r : PendingRequest) (applied : UInt32 × Option Metadata) (next : Slot) (p : Processor)

/-- The loop past `ApplyOverrideSettings`, popped to `p`: when `InitializeLogicalSettings`
fails the request gets `ERROR_RESULT`, otherwise it is latched with two fresh result shells. -/
def settleRequest (o : LoopOracle) (r : PendingRequest) (outs : List SensorBuffer) (a : Applied)
    (p : Processor) : Serviced :=
  match o.logicalSettings with
  | none => .failed r (some (a.ret, a.settings)) p
  | some ls =>
    .latched r (a.ret, a.settings)
      ⟨some ls, some ⟨r.pipelineId, r.frameNumber, o.partialCount.2, some o.metadata.2⟩,
        some ⟨r.pipelineId, r.frameNumber, o.partialCount.1, some o.metadata.1⟩,
        acquireBuffers o.fenceOk r.inputBuffers, some outs⟩ p

/-- The critical section of `RequestProcessorLoop`. Output buffers that survive their fences
lead to `ApplyOverrideSettings` on the request's settings, or on `last_settings_` when they are
null; the settings so overridden become `last_settings_`. Without output buffers the request
gets `ERROR_RESULT`. -/
def serviceRequest (o : LoopOracle) (p : Processor) : Serviced :=
  match p.pendingRequests with
  | [] => .idle
  | r :: rest =>
    match acquireBuffers o.fenceOk r.outputBuffers with
    | some (b :: bs) =>
      match applyOverrideSettings r.frameNumber (r.settings.or p.lastSettings) p.overrideSettings
          p.lastOverrideSettings with
      | none => .fault
      | some a =>
        settleRequest o r (b :: bs) a { p with
          pendingRequests := rest
          overrideSettings := a.overrideSettings
          lastOverrideSettings := a.lastOverrideSettings
          lastSettings := a.settings }
    | _ => .failed r none { p with pendingRequests := rest }

/-- A request answered with `ERROR_RESULT` was the front one and is popped. -/
theorem serviceRequest_failed {o : LoopOracle} {p p' : Processor} {r : PendingRequest}
    {ap : Option (UInt32 × Option Metadata)} (h : serviceRequest o p = .failed r ap p') :
    p.pendingRequests = r :: p'.pendingRequests ∧ p'.admittedRequests = p.admittedRequests := by
  unfold serviceRequest at h
  split at h
  · cases h
  · next hp =>
    split at h
    · split at h
      · cases h
      · unfold settleRequest at h
        split at h <;> cases h
        exact ⟨hp, rfl⟩
    · cases h
      exact ⟨hp, rfl⟩

/-- A latched request was the front one and is popped, and the slot it is latched with holds
a whole request whose result has metadata. -/
theorem serviceRequest_latched {o : LoopOracle} {p p' : Processor} {r : PendingRequest}
    {ap : UInt32 × Option Metadata} {next : Slot} (h : serviceRequest o p = .latched r ap next p') :
    p.pendingRequests = r :: p'.pendingRequests ∧ p'.admittedRequests = p.admittedRequests ∧
      next.Full ∧ ∃ res, next.result = some res ∧ res.resultMetadata.isSome := by
  unfold serviceRequest at h
  split at h
  · cases h
  · next hp =>
    split at h
    · split at h
      · cases h
      · unfold settleRequest at h
        split at h <;> cases h
        exact ⟨hp, rfl, ⟨rfl, rfl, rfl, _, _, rfl⟩, _, rfl, rfl⟩
    · cases h

end GoogleCamera.Emulated
