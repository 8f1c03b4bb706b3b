import GoogleCamera.Emulated.Sensor

/-!
# The capture thread: timing and result delivery

One call of `EmulatedSensor::threadLoop`, past its swap:

    nsecs_t start_real_time = getSystemTimeWithSource(timestamp_source);
    nsecs_t frame_end_real_time = start_real_time + frame_duration;
    next_capture_time_ = frame_end_real_time;
    ...                                              // reprocess times, the shutter, the capture
    if ((work_done_real_time + kReturnResultThreshod) > frame_end_real_time) {
      ReturnResults(callback, std::move(settings), std::move(next_result), ...);
    }
    work_done_real_time = getSystemTimeWithSource(timestamp_source);
    if (work_done_real_time < frame_end_real_time - time_accuracy) { ... nanosleep ... }
    ReturnResults(callback, std::move(settings), std::move(next_result), ...);

The clock is one timestamp source, read three times in each iteration. How much time passes is
the environment's, given for each iteration as durations (`Tick`): readings never go back, and
`nanosleep` returns no earlier than asked. The capture work between the shutter and the first
`ReturnResults` (scene rendering, JPEG jobs) sends no notification and is not modelled; of
`ReturnResults`, the `ANDROID_SENSOR_TIMESTAMP` write and the two `process_pipeline_result` calls
are, with every test before them.

## What is proved

* `iteration_nextStart`: an iteration ends no earlier than it began, and no earlier than its
  frame end less `time_accuracy`. Over any run, the capture times of the non-reprocess
  iterations whose frame duration exceeds `time_accuracy` strictly increase, whatever iterations
  come between them (`capture_times_increase`).
* `iteration_deliveries`: an iteration that takes a whole request whose callback has `notify`
  and `process_pipeline_result` set does not fault. Whichever `ReturnResults` call delivers, it
  sends the shutter, then the partial result when its `partial_result` is not 0, then the final
  result, at most once, with the capture time of the shutter as `ANDROID_SENSOR_TIMESTAMP`.
-/

namespace GoogleCamera.Emulated

/-! ### Constants and collaborators -/

/-- `kSupportedFrameDurationRange`, in ns. -/
def kSupportedFrameDurationRange : Int × Int := (33331760, 30000000000)

/-- `kSupportedExposureTimeRange`, in ns. -/
def kSupportedExposureTimeRange : Int × Int := (1000, 30000000000)

/-- `kDefaultFrameDuration`, `ms2ns(33)`. -/
def kDefaultFrameDuration : Int := 33000000

/-- `kReturnResultThreshod`. -/
def kReturnResultThreshod : Int := 3 * kDefaultFrameDuration

/-- `time_accuracy` of `threadLoop`: 2 ms. -/
def timeAccuracy : Int := 2000000

/-- `static_cast<uint64_t>` of an `nsecs_t`. -/
def toUInt64 (t : Int) : UInt64 := UInt64.ofNat (t % 18446744073709551616).toNat

/-- An `HwlPipelineCallback`: which of the two pointers `threadLoop` calls are set. -/
structure PipelineCallback where
  notify : Bool
  processPipelineResult : Bool
  deriving DecidableEq, Repr

/-- What the capture thread reads besides the slot. -/
structure SensorEnv where
  /-- `logical_camera_id_`. -/
  logicalCameraId : Nat
  /-- `chars_` has an entry for the logical camera. -/
  hasLogicalChars : Bool
  /-- The `callback` of a sensor buffer: that of its pipeline. -/
  callbackOf : SensorBuffer → PipelineCallback

/-- A call of `notify` or `process_pipeline_result` from the capture thread. -/
inductive Delivery where
  /-- A `kShutter` message, sent to the result's pipeline. -/
  | shutter (pipelineId : Nat) (frameNumber : UInt32) (timestampNs readoutTimestampNs : UInt64)
  /-- `process_pipeline_result(std::move(partial_result))`. -/
  | partialResult (r : PipelineResult)
  /-- `process_pipeline_result(std::move(result))`. -/
  | finalResult (r : PipelineResult)

/-- How time passes in one iteration: from the first clock reading to the second, from the
second to the third, and past the end of the sleep (or past the third reading, without one)
until the next iteration reads the clock. -/
structure Tick where
  work : Nat
  delivery : Nat
  late : Nat

/-! ### One iteration -/

/-- The frame duration and exposure time of an iteration: those of the first camera of its
settings, or the smallest supported ones. -/
def frameTiming (settings : Option LogicalCameraSettings) : Int × Int :=
  match settings with
  | some ((_, ss) :: _) => (ss.frameDuration, ss.exposureTime)
  | _ => (kSupportedFrameDurationRange.1, kSupportedExposureTimeRange.1)

/-- `next_capture_time_` and `next_readout_time_` of a reprocess request: its result's
`ANDROID_SENSOR_TIMESTAMP` when that holds one value, and that plus `ANDROID_SENSOR_EXPOSURE_TIME`
when this holds one value. `none` is the dereference of a null result or metadata. -/
def reprocessTimes (result : Option PipelineResult) (frameEnd : Int) : Option (Int × Int) :=
  match result with
  | some ⟨_, _, _, some m⟩ =>
    let capture := match m.get .sensorTimestamp with
      | some ⟨_, [t]⟩ => t
      | _ => frameEnd
    some (capture, match m.get .sensorExposureTime with
      | some ⟨_, [e]⟩ => capture + e
      | _ => capture)
  | _ => none

/-- `next_capture_time_` and `next_readout_time_`. -/
def captureTimes (taken : Slot) (frameEnd : Int) : Option (Int × Int) :=
  if taken.isReprocess then reprocessTimes taken.result frameEnd
  else some (frameEnd, frameEnd + (frameTiming taken.settings).2)

/-- The shutter: with buffers and settings, `callback` becomes that of the first buffer
(`next_buffers->at(0)`), and when it has `notify` the shutter goes to the result's pipeline.
`none` is `at(0)` on an empty list, or a null result. -/
def shutterOf (env : SensorEnv) (taken : Slot) (capture readout : Int) :
    Option (PipelineCallback × List Delivery) :=
  match taken.outputBuffers, taken.settings with
  | some (b :: _), some _ =>
    let callback := env.callbackOf b
    if callback.notify then
      match taken.result with
      | some r =>
        some (callback, [.shutter r.pipelineId b.frameNumber (toUInt64 capture) (toUInt64 readout)])
      | none => none
    else some (callback, [])
  | some [], some _ => none
  | _, _ => some (⟨false, false⟩, [])

/-- `ReturnResults` on the pointers it is handed: nothing unless `process_pipeline_result` is set
and the result and its metadata are non-null, nor when the settings have no entry for the logical
camera or `chars_` none; otherwise `ANDROID_SENSOR_TIMESTAMP` is set to the capture time, and the
partial result goes first when its `partial_result` is not 0. `none` is the dereference of null
settings or a null partial result. -/
def returnResults (env : SensorEnv) (callback : PipelineCallback) (capture : Int)
    (settings : Option LogicalCameraSettings) (result partialResult : Option PipelineResult) :
    Option (List Delivery) :=
  match result with
  | some r =>
    match r.resultMetadata with
    | some m =>
      if callback.processPipelineResult then
        match settings with
        | none => none
        | some ls =>
          if (ls.lookup env.logicalCameraId).isNone || !env.hasLogicalChars then some []
          else
            match partialResult with
            | none => none
            | some p =>
              some ((if p.partialResult ≠ 0 then [.partialResult p] else []) ++
                [.finalResult { r with
                  resultMetadata := some (m.set .sensorTimestamp ⟨.int64, [capture]⟩) }])
      else some []
    | none => some []
  | none => some []

/-- The two `ReturnResults` calls. When the deadline is near (`early`) the first gets the
pointers and the second gets them moved-from; otherwise only the second gets them. -/
def deliver (env : SensorEnv) (taken : Slot) (callback : PipelineCallback) (capture : Int)
    (early : Bool) : Option (List Delivery) :=
  if early then
    match returnResults env callback capture taken.settings taken.result taken.partialResult with
    | some first => (returnResults env callback capture none none none).map (first ++ ·)
    | none => none
  else returnResults env callback capture taken.settings taken.result taken.partialResult

/-- Where the clock stands when the next iteration reads it: past the frame end when the thread
slept, since it sleeps only `frame_end_real_time - work_done_real_time`. -/
def sleepEnd (frameEnd workDone : Int) (late : Nat) : Int :=
  if workDone < frameEnd - timeAccuracy then frameEnd + late else workDone + late

/-- What one iteration computed and delivered. -/
structure Frame where
  /-- `start_real_time`. -/
  start : Int
  frameDuration : Int
  reprocess : Bool
  /-- `next_capture_time_`. -/
  captureTime : Int
  /-- `next_readout_time_`. -/
  readoutTime : Int
  deliveries : List Delivery
  /-- The clock when the next iteration first reads it. -/
  nextStart : Int

/-- `threadLoop` past its swap of `taken`, when the clock reads `now`. `none` is a dereference
that faults. -/
def iteration (env : SensorEnv) (taken : Slot) (now : Int) (t : Tick) : Option Frame :=
  let frameEnd := now + (frameTiming taken.settings).1
  match captureTimes taken frameEnd with
  | none => none
  | some (capture, readout) =>
    match shutterOf env taken capture readout with
    | none => none
    | some (callback, shutter) =>
      match deliver env taken callback capture (decide (frameEnd < now + t.work + kReturnResultThreshod)) with
      | none => none
      | some results =>
        some ⟨now, (frameTiming taken.settings).1, taken.isReprocess, capture, readout,
          shutter ++ results, sleepEnd frameEnd (now + t.work + t.delivery) t.late⟩

/-- `threadLoop` called again and again, on the slots its swaps take, each iteration taking the
time given with its slot. The thread stops at the first iteration that faults. -/
def loop (env : SensorEnv) : Int → List (Slot × Tick) → List Frame
  | _, [] => []
  | now, (taken, t) :: rest =>
    match iteration env taken now t with
    | none => []
    | some f => f :: loop env f.nextStart rest

/-! ### What one iteration does -/

/-- The pointers go to whichever `ReturnResults` call comes first: the call that gets them
moved-from sends nothing and reads nothing. -/
theorem deliver_eq (env : SensorEnv) (taken : Slot) (cb : PipelineCallback) (c : Int) (early : Bool) :
    deliver env taken cb c early =
      returnResults env cb c taken.settings taken.result taken.partialResult := by
  cases early with
  | false => rfl
  | true =>
    show (match returnResults env cb c taken.settings taken.result taken.partialResult with
      | some first => (returnResults env cb c none none none).map (first ++ ·)
      | none => none) = _
    cases returnResults env cb c taken.settings taken.result taken.partialResult with
    | none => rfl
    | some x => simp [returnResults]

theorem sleepEnd_bounds (frameEnd workDone : Int) (late : Nat) :
    frameEnd - timeAccuracy ≤ sleepEnd frameEnd workDone late ∧
      workDone ≤ sleepEnd frameEnd workDone late := by
  unfold sleepEnd timeAccuracy
  split <;> omega

section Iteration

variable {env : SensorEnv} {taken : Slot} {now : Int} {t : Tick} {f : Frame}

/-- What an iteration that does not fault computed. -/
theorem iteration_eq_some (h : iteration env taken now t = some f) :
    f.start = now ∧ f.frameDuration = (frameTiming taken.settings).1 ∧
      f.reprocess = taken.isReprocess ∧
      captureTimes taken (now + f.frameDuration) = some (f.captureTime, f.readoutTime) ∧
      f.nextStart = sleepEnd (now + f.frameDuration) (now + t.work + t.delivery) t.late := by
  dsimp only [iteration] at h
  split at h
  · cases h
  next capture readout hc =>
  split at h
  · cases h
  split at h
  · cases h
  cases h
  exact ⟨rfl, rfl, rfl, hc, rfl⟩

/-- An iteration whose capture times, shutter and results go through. -/
theorem iteration_eq {c ro : Int} {cb : PipelineCallback} {shutter results : List Delivery}
    (hc : captureTimes taken (now + (frameTiming taken.settings).1) = some (c, ro))
    (hs : shutterOf env taken c ro = some (cb, shutter))
    (hr : returnResults env cb c taken.settings taken.result taken.partialResult = some results) :
    iteration env taken now t = some ⟨now, (frameTiming taken.settings).1, taken.isReprocess, c, ro,
      shutter ++ results, sleepEnd (now + (frameTiming taken.settings).1) (now + t.work + t.delivery) t.late⟩ := by
  simp only [iteration, hc, hs, deliver_eq, hr]

/-- An iteration ends no earlier than it began, nor than its frame end less `time_accuracy`. -/
theorem iteration_nextStart (h : iteration env taken now t = some f) :
    now ≤ f.nextStart ∧ f.start + f.frameDuration - timeAccuracy ≤ f.nextStart := by
  obtain ⟨hs, -, -, -, hn⟩ := iteration_eq_some h
  have := sleepEnd_bounds (now + f.frameDuration) (now + t.work + t.delivery) t.late
  rw [hn, hs]
  omega

/-- A non-reprocess iteration captures at its frame end. -/
theorem iteration_captureTime (h : iteration env taken now t = some f) (hr : f.reprocess = false) :
    f.captureTime = f.start + f.frameDuration := by
  obtain ⟨hs, -, hrep, hc, -⟩ := iteration_eq_some h
  rw [hrep] at hr
  simp only [captureTimes, hr, Bool.false_eq_true, if_false, Option.some.injEq, Prod.mk.injEq] at hc
  rw [hs, hc.1]

end Iteration

/-! ### Timing over a run -/

/-- Every iteration of a run starts no earlier than the run, and is an iteration from its own
start. -/
theorem mem_loop {env : SensorEnv} : ∀ {now : Int} {its : List (Slot × Tick)} {g : Frame},
    g ∈ loop env now its → now ≤ g.start ∧ ∃ taken t, iteration env taken g.start t = some g
  | _, [], _, h => nomatch h
  | now, (taken, t) :: rest, g, h => by
    simp only [loop] at h
    split at h
    · nomatch h
    next f hf =>
    rcases List.mem_cons.mp h with rfl | h
    · have hs := (iteration_eq_some hf).1
      exact ⟨hs ▸ Int.le_refl _, taken, t, hs ▸ hf⟩
    · obtain ⟨hle, hit⟩ := mem_loop h
      exact ⟨Int.le_trans (iteration_nextStart hf).1 hle, hit⟩

/-- An iteration whose shutter carries `start + frame_duration`, with a frame duration over
`time_accuracy`. -/
def Frame.timed (f : Frame) : Bool := !f.reprocess && decide (timeAccuracy < f.frameDuration)

/-- Over any run, the capture times of the non-reprocess iterations whose frame duration exceeds
`time_accuracy` strictly increase, whatever iterations come between them. -/
theorem capture_times_increase (env : SensorEnv) : ∀ (now : Int) (its : List (Slot × Tick)),
    (((loop env now its).filter Frame.timed).map Frame.captureTime).Pairwise (· < ·)
  | _, [] => List.Pairwise.nil
  | now, (taken, t) :: rest => by
    have ih := fun now => capture_times_increase env now rest
    simp only [loop]
    split
    · exact List.Pairwise.nil
    next f hf =>
    rw [List.filter_cons]
    split
    · next hft =>
      rw [List.map_cons, List.pairwise_cons]
      refine ⟨fun c hc => ?_, ih _⟩
      obtain ⟨g, hg, rfl⟩ := List.mem_map.mp hc
      obtain ⟨hgl, hgt⟩ := List.mem_filter.mp hg
      obtain ⟨hle, taken', t', hg'⟩ := mem_loop hgl
      simp only [Frame.timed, Bool.and_eq_true, Bool.not_eq_true', decide_eq_true_eq] at hft hgt
      have hf' := iteration_captureTime hf hft.1
      have hg'' := iteration_captureTime hg' hgt.1
      have := (iteration_nextStart hf).2
      omega
    · exact ih _

/-! ### Deliveries -/

/-- What `ReturnResults` sends, for a callback with both pointers set, of a request whose
pointers are all there: nothing when the settings have no entry for the logical camera or
`chars_` is null, and otherwise the partial result when its `partial_result` is not 0 and then the
final result, stamped with the capture time. -/
theorem returnResults_of_some (env : SensorEnv) (c : Int) (ls : LogicalCameraSettings)
    (r p : PipelineResult) {m : Metadata} (hm : r.resultMetadata = some m) :
    returnResults env ⟨true, true⟩ c (some ls) (some r) (some p) =
      some (if (ls.lookup env.logicalCameraId).isNone || !env.hasLogicalChars then []
        else (if p.partialResult ≠ 0 then [.partialResult p] else []) ++
          [.finalResult { r with resultMetadata := some (m.set .sensorTimestamp ⟨.int64, [c]⟩) }]) := by
  simp only [returnResults, hm, if_true]
  split <;> rfl

/-- An iteration that takes a whole request, whose callback has `notify` and
`process_pipeline_result` set, does not fault. It sends the shutter, then, unless `ReturnResults`
finds no settings for the logical camera or no characteristics, the partial result when its
`partial_result` is not 0 and the final result once, whose `ANDROID_SENSOR_TIMESTAMP` is the
capture time the shutter carries. -/
theorem iteration_deliveries (env : SensorEnv) (taken : Slot) (now : Int) (t : Tick)
    (hfull : taken.Full) (hmeta : ∃ r, taken.result = some r ∧ r.resultMetadata.isSome = true)
    (hcb : ∀ b bs, taken.outputBuffers = some (b :: bs) → env.callbackOf b = ⟨true, true⟩) :
    ∃ f b ls r p m, iteration env taken now t = some f ∧
      taken.outputBuffers.bind List.head? = some b ∧ taken.settings = some ls ∧
      taken.result = some r ∧ r.resultMetadata = some m ∧ taken.partialResult = some p ∧
      f.deliveries =
        .shutter r.pipelineId b.frameNumber (toUInt64 f.captureTime) (toUInt64 f.readoutTime) ::
          if (ls.lookup env.logicalCameraId).isNone || !env.hasLogicalChars then []
          else (if p.partialResult ≠ 0 then [.partialResult p] else []) ++
            [.finalResult { r with
              resultMetadata := some (m.set .sensorTimestamp ⟨.int64, [f.captureTime]⟩) }] := by
  obtain ⟨hs, -, hp, b, bs, ho⟩ := hfull
  obtain ⟨r, hr, hm⟩ := hmeta
  obtain ⟨ls, hls⟩ := Option.isSome_iff_exists.mp hs
  obtain ⟨p, hpp⟩ := Option.isSome_iff_exists.mp hp
  obtain ⟨m, hmm⟩ := Option.isSome_iff_exists.mp hm
  obtain ⟨c, ro, hc⟩ : ∃ c ro, captureTimes taken (now + (frameTiming taken.settings).1) = some (c, ro) := by
    unfold captureTimes
    split
    · obtain ⟨pid, fr, pr, md⟩ := r
      cases hmm
      rw [hr]
      exact ⟨_, _, rfl⟩
    · exact ⟨_, _, rfl⟩
  have hsh : shutterOf env taken c ro =
      some (⟨true, true⟩, [.shutter r.pipelineId b.frameNumber (toUInt64 c) (toUInt64 ro)]) := by
    simp only [shutterOf, ho, hls, hcb b bs ho, if_true, hr]
  have hb : taken.outputBuffers.bind List.head? = some b := by simp [ho]
  exact ⟨_, b, ls, r, p, m, iteration_eq hc hsh (by rw [hls, hr, hpp]; exact returnResults_of_some env c ls r p hmm),
    hb, hls, hr, hmm, hpp, rfl⟩

/-- A whole request of frame 1 on camera 0, its results with empty metadata. -/
def wholeRequest : Slot :=
  ⟨some [(0, ⟨33331760, 1000, 0⟩)], some ⟨0, 1, 2, some .empty⟩, some ⟨0, 1, 1, some .empty⟩, none,
    some [⟨1, 0, 0, 0⟩]⟩

/-- The logical camera 0, with characteristics, and every callback with both pointers set. -/
def allCallbacks : SensorEnv := ⟨0, true, fun _ => ⟨true, true⟩⟩

theorem iteration_deliveries_wholeRequest :
    wholeRequest.Full ∧ (∃ r, wholeRequest.result = some r ∧ r.resultMetadata.isSome = true) ∧
    (∀ b bs, wholeRequest.outputBuffers = some (b :: bs) → allCallbacks.callbackOf b = ⟨true, true⟩) ∧
    ∃ f b ls r p m, iteration allCallbacks wholeRequest 0 ⟨0, 0, 0⟩ = some f ∧
      wholeRequest.outputBuffers.bind List.head? = some b ∧ wholeRequest.settings = some ls ∧
      wholeRequest.result = some r ∧ r.resultMetadata = some m ∧ wholeRequest.partialResult = some p ∧
      f.deliveries =
        .shutter r.pipelineId b.frameNumber (toUInt64 f.captureTime) (toUInt64 f.readoutTime) ::
          if (ls.lookup allCallbacks.logicalCameraId).isNone || !allCallbacks.hasLogicalChars then []
          else (if p.partialResult ≠ 0 then [.partialResult p] else []) ++
            [.finalResult { r with
              resultMetadata := some (m.set .sensorTimestamp ⟨.int64, [f.captureTime]⟩) }] :=
  have hfull : wholeRequest.Full := ⟨rfl, rfl, rfl, _, _, rfl⟩
  have hmeta : ∃ r, wholeRequest.result = some r ∧ r.resultMetadata.isSome = true := ⟨_, rfl, rfl⟩
  have hcb : ∀ b bs, wholeRequest.outputBuffers = some (b :: bs) →
      allCallbacks.callbackOf b = ⟨true, true⟩ := fun _ _ _ => rfl
  ⟨hfull, hmeta, hcb, iteration_deliveries allCallbacks wholeRequest 0 ⟨0, 0, 0⟩ hfull hmeta hcb⟩

end GoogleCamera.Emulated
