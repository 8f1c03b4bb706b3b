import GoogleCamera.Emulated.Metadata

/-!
# The sensor's latched slot

`EmulatedSensor` takes requests from the request processor's loop through one slot of five
pointers, guarded by `control_mutex_`:

    current_settings_, current_result_, partial_result_,
    current_input_buffers_, current_output_buffers_

`SetCurrentRequest` moves a request into the slot. The first stage of `threadLoop` swaps the
five pointers out, leaving them null, and signals `vsync_`:

    std::swap(settings, current_settings_);
    std::swap(next_buffers, current_output_buffers_);
    ...
    got_vsync_ = true;
    vsync_.signal();

`Flush`, after its own wait for a vsync, errors and clears the buffer lists it finds in the
slot. This module gives the slot and these operations, and what the capture thread does with
a swapped-out slot up to the shutter (`readout`). The threads that call them, and the vsync
handshake, are in `GoogleCamera.Emulated.System`.
-/

namespace GoogleCamera.Emulated

/-- A `SensorBuffer`, as far as the processor and the capture thread read it. -/
structure SensorBuffer where
  frameNumber : UInt32
  pipelineId : Nat
  cameraId : Nat
  streamId : Nat
  deriving DecidableEq, Repr

/-- The part of a camera's `SensorSettings` that the capture loop's timing reads. -/
structure SensorSettings where
  /-- `frame_duration`, in ns. -/
  frameDuration : Int
  /-- `exposure_time`, in ns. -/
  exposureTime : Int
  /-- `timestamp_source`. -/
  timestampSource : Nat
  deriving DecidableEq, Repr

/-- `LogicalCameraSettings`: the settings of each camera of a request, by camera id, in the
map's iteration order. -/
abbrev LogicalCameraSettings := List (Nat × SensorSettings)

/-- An `HwlPipelineResult`, as far as the sensor reads it. -/
structure PipelineResult where
  pipelineId : Nat
  frameNumber : UInt32
  /-- `partial_result`; `0` in a partial-result shell when partial results are off. -/
  partialResult : Nat
  resultMetadata : Option Metadata

/-- The five latched pointers of `EmulatedSensor`; `none` is a null pointer. -/
structure Slot where
  settings : Option LogicalCameraSettings
  result : Option PipelineResult
  partialResult : Option PipelineResult
  inputBuffers : Option (List SensorBuffer)
  outputBuffers : Option (List SensorBuffer)

namespace Slot

/-- All five pointers null: what a swap leaves behind. -/
def empty : Slot := ⟨none, none, none, none, none⟩

/-- The slot holds a whole request: non-null settings, result and partial result, and a
non-empty output list. -/
def Full (s : Slot) : Prop :=
  s.settings.isSome ∧ s.result.isSome ∧ s.partialResult.isSome ∧
    ∃ b bs, s.outputBuffers = some (b :: bs)

/-- What `EmulatedSensor::Flush` leaves of a whole request when it finds one: settings and
results still latched, the output list cleared. -/
def Cleared (s : Slot) : Prop :=
  s.settings.isSome ∧ s.result.isSome ∧ s.partialResult.isSome ∧ s.outputBuffers = some []

theorem not_cleared_of_full {s : Slot} (h : s.Full) : ¬ s.Cleared := by
  obtain ⟨-, -, -, b, bs, ho⟩ := h
  rintro ⟨-, -, -, ho'⟩
  rw [ho] at ho'
  cases ho'

end Slot

/-- The sensor state the request processor's threads share with the capture thread. -/
structure Sensor where
  slot : Slot
  /-- `got_vsync_`. -/
  gotVSync : Bool

/-- `SetCurrentRequest`: move the five pointers of a request into the slot, over whatever is
there. -/
def Sensor.setCurrentRequest (s : Sensor) (next : Slot) : Sensor := { s with slot := next }

/-- The swap of `threadLoop`'s first stage: the slot's content goes to the capture thread, the
slot is left null, and `got_vsync_` is set. -/
def Sensor.swap (s : Sensor) : Slot × Sensor := (s.slot, { slot := .empty, gotVSync := true })

/-- `Flush` after its vsync wait: a non-empty input list is cleared; a non-empty output list
is errored and cleared, and when the slot's result has metadata an `ERROR_RESULT` goes out for
the frame of its first buffer, which is returned. Settings and results stay latched. -/
def flushSlot (s : Slot) : Slot × Option SensorBuffer :=
  let inputs := match s.inputBuffers with
    | some (_ :: _) => some []
    | other => other
  match s.outputBuffers with
  | some (b :: _) =>
    let notified := match s.result with
      | some r => if r.resultMetadata.isSome then some b else none
      | none => none
    ({ s with inputBuffers := inputs, outputBuffers := some [] }, notified)
  | _ => ({ s with inputBuffers := inputs }, none)

@[simp] theorem flushSlot_empty : flushSlot .empty = (.empty, none) := rfl

/-- `Flush` clears a whole request and keeps its result; when the result has metadata it sends
`ERROR_RESULT` for a buffer. -/
theorem flushSlot_of_full {s : Slot} (h : s.Full) :
    (flushSlot s).1.Cleared ∧ (flushSlot s).1.result = s.result ∧
      ((∃ res, s.result = some res ∧ res.resultMetadata.isSome = true) → ∃ b, (flushSlot s).2 = some b) := by
  obtain ⟨hs, hr, hp, b, bs, ho⟩ := h
  refine ⟨?_, ?_, fun ⟨res, hres, hm⟩ => ?_⟩ <;> simp_all [flushSlot, Slot.Cleared]

/-- `Flush` leaves a cleared slot cleared, with the same result, and sends nothing. -/
theorem flushSlot_of_cleared {s : Slot} (h : s.Cleared) :
    (flushSlot s).1.Cleared ∧ (flushSlot s).1.result = s.result ∧ (flushSlot s).2 = none := by
  obtain ⟨hs, hr, hp, ho⟩ := h
  simp_all [flushSlot, Slot.Cleared]

/-- A slot `Flush` has been through has no buffer left to send `ERROR_RESULT` for. -/
@[simp] theorem flushSlot_flushSlot (s : Slot) : (flushSlot (flushSlot s).1).2 = none := by
  rcases h : s.outputBuffers with _ | _ | ⟨b, bs⟩ <;> simp [flushSlot, h]

/-- What the capture thread meets past the swap, up to the shutter. -/
inductive Readout where
  /-- Null buffers or null settings: an idle frame, no shutter. -/
  | idle
  /-- A dereference that faults: `next_buffers->at(0)` on an empty list, or a null result. -/
  | fault
  /-- The shutter of the first buffer's frame, sent to the result's pipeline. -/
  | shutter (b : SensorBuffer) (pipelineId : Nat)
  deriving DecidableEq, Repr

/-- A reprocess request: a non-empty input list. -/
def Slot.isReprocess (s : Slot) : Bool :=
  match s.inputBuffers with
  | some (_ :: _) => true
  | _ => false

/-- The result and its metadata are non-null. -/
def Slot.hasResultMetadata (s : Slot) : Bool :=
  match s.result with
  | some r => r.resultMetadata.isSome
  | none => false

/-- `threadLoop` from the swap to the shutter. A reprocess request reads
`next_result->result_metadata`; a request with buffers and settings reads `next_buffers->at(0)`
and `next_result->pipeline_id`. -/
def readout (s : Slot) : Readout :=
  if s.isReprocess && !s.hasResultMetadata then .fault
  else
    match s.outputBuffers, s.settings with
    | some (b :: _), some _ =>
      match s.result with
      | some r => .shutter b r.pipelineId
      | none => .fault
    | some [], some _ => .fault
    | _, _ => .idle

@[simp] theorem readout_empty : readout .empty = .idle := rfl

/-- A cleared slot makes the capture thread fault. -/
theorem readout_of_cleared {s : Slot} (h : s.Cleared) : readout s = .fault := by
  obtain ⟨hs, -, -, ho⟩ := h
  obtain ⟨ls, hls⟩ := Option.isSome_iff_exists.mp hs
  simp [readout, ho, hls]

end GoogleCamera.Emulated
