import GoogleCamera.Emulated.RequestProcessor
import Mathlib.Logic.Function.Basic

/-!
# The threads of the emulated camera

Four kinds of thread share the processor and the sensor slot:

* client threads in `ProcessPipelineRequests`, which run under `process_mutex_` until they
  return or wait on `request_condition_` for a slot (`wait_for`, which gives up the mutex);
* the loop thread, `RequestProcessorLoop`: one critical section under `process_mutex_`
  (`serviceRequest`), then `WaitForVSync`, which sets `got_vsync_ = false` and waits on
  `vsync_` until `got_vsync_` is set again, or until `waitRelative` fails;
* `Flush`, which holds `process_mutex_` throughout, waits for a vsync the same way inside
  `EmulatedSensor::Flush`, clears the slot's buffer lists (`flushSlot`) and answers every
  pending request with `ERROR_REQUEST`;
* the capture thread, `EmulatedSensor::threadLoop`: the swap under `control_mutex_`, then,
  outside any lock, the shutter of the frame it took (`readout`).

A state is the shared data, one program counter per thread and two ghosts: the admission
index of the request in the slot, and the log of what the threads did. An action is one
atomic step of one thread, together with whatever the environment answers at that step
(the collaborators, how a wait returns). `step s a` is `none` where the thread cannot take
that step; a fault (a null or out-of-range dereference) ends the run. The result sending that
follows the shutter is the capture thread's own business and is modelled, with its timing, in
`GoogleCamera.Emulated.SensorLoop`.
-/

namespace GoogleCamera.Emulated

/-- The sender of a notification. -/
inductive Source where
  /-- `EmulatedRequestProcessor::Flush`, through `NotifyFailedRequest`. -/
  | flush
  /-- `RequestProcessorLoop`. -/
  | loop
  /-- `EmulatedSensor::Flush`. -/
  | sensorFlush
  /-- `EmulatedSensor::threadLoop`. -/
  | sensor
  deriving DecidableEq, Repr

/-- The kinds of notification. -/
inductive Note where
  | errorRequest
  | errorResult
  | shutter
  deriving DecidableEq, Repr

/-- What the threads do, as the proofs follow it. -/
inductive Event where
  /-- While servicing request `id` for `frame`, `ApplyOverrideSettings` returned `ret` and
  `InitializeLogicalSettings` got `snapshot`. -/
  | applied (id : Nat) (frame ret : UInt32) (snapshot : Option Metadata)
  /-- `SetCurrentRequest` latched request `id`; the slot held request `prev` before. -/
  | latch (id : Nat) (prev : Option Nat)
  /-- The swap of `threadLoop` took the slot, which held request `id`. -/
  | swap (id : Option Nat)
  /-- `src` sent `note` for request `id` of frame `frame`. -/
  | notify (src : Source) (id : Nat) (frame : UInt32) (note : Note)

/-- The notification of request `id`, when there is one. -/
def notifyOf (src : Source) (id : Option Nat) (frame : UInt32) (note : Note) : List Event :=
  match id with
  | some i => [.notify src i frame note]
  | none => []

/-- Where the loop thread is. -/
inductive LoopPc where
  /-- At the top of the `while`: next is the critical section. -/
  | top
  /-- Past the critical section, before `WaitForVSync`. -/
  | beforeVSync
  /-- In `WaitForVSync`, waiting for `got_vsync_`. -/
  | inVSync
  /-- `WaitForVSync` failed and the loop ended. -/
  | exited
  deriving DecidableEq, Repr

/-- Where the capture thread is. -/
inductive CapturePc where
  /-- Before the swap. -/
  | top
  /-- Past the swap, holding the slot it took and that slot's ghost id. -/
  | readout (taken : Slot) (id : Option Nat)

/-- Where `Flush` is. -/
inductive FlushPc where
  | idle
  /-- Holding `process_mutex_`, in the vsync wait of `EmulatedSensor::Flush`. -/
  | waiting
  deriving DecidableEq, Repr

/-- Where a client thread is. -/
inductive SubmitterPc where
  | idle
  /-- In `ProcessPipelineRequests` for `frame`, waiting for a slot before `rest`. -/
  | waiting (frame : UInt32) (pipelineCount : Nat) (rest : List (PipelineRequest × Collab))

/-- How `waitRelative` returns: woken (signalled, or spuriously), timed out, or with an
error. -/
inductive WaitResult where
  | ok
  | timedOut
  | error
  deriving DecidableEq, Repr

/-- A dereference that ends the process. -/
inductive Fault where
  /-- `override_setting->Get` on a null snapshot in `ApplyOverrideSettings`. -/
  | nullOverride
  /-- `next_buffers->at(0)` on an empty list, or a null result, in `threadLoop`. -/
  | captureAccess
  deriving DecidableEq, Repr

/-- The whole system. -/
structure Sys where
  processor : Processor
  sensor : Sensor
  loop : LoopPc
  capture : CapturePc
  flush : FlushPc
  submitters : Nat → SubmitterPc
  /-- Ghost: the admission index of the request latched in the slot. -/
  latched : Option Nat
  /-- Ghost: what the threads did, oldest first. -/
  log : List Event
  fault : Option Fault

/-- A new session: nothing pending, the slot null, every thread at its start. -/
def Sys.init : Sys :=
  ⟨.init, ⟨.empty, false⟩, .top, .top, .idle, fun _ => .idle, none, [], none⟩

/-- One atomic step of one thread, with what the environment answers at it. -/
inductive Act where
  /-- Client thread `t` calls `ProcessPipelineRequests(frame, requests, pipelines)` with
  `pipelineCount` pipelines. -/
  | submit (t : Nat) (frame : UInt32) (pipelineCount : Nat) (requests : List (PipelineRequest × Collab))
  /-- The `wait_for` of client thread `t` returns. -/
  | wake (t : Nat) (timedOut : Bool)
  /-- The loop's critical section. -/
  | service (o : LoopOracle)
  /-- The loop enters `WaitForVSync`. -/
  | enterVSync
  /-- The loop's `waitRelative` returns. -/
  | wakeVSync (r : WaitResult)
  /-- `Flush` takes `process_mutex_` and enters the vsync wait of `EmulatedSensor::Flush`. -/
  | flushBegin
  /-- The `waitRelative` of `Flush` returns. -/
  | flushWake (r : WaitResult)
  /-- The capture thread swaps the slot out. -/
  | swap
  /-- The capture thread goes on to the shutter. -/
  | readout

namespace Sys

/-- Client thread `t` gives up `process_mutex_` where its run under the lock ended. -/
def afterAdmission (s : Sys) (t : Nat) (frame : UInt32) (pipelineCount : Nat) : Admission → Sys
  | .returned _ p => { s with processor := p, submitters := Function.update s.submitters t .idle }
  | .blocked rest p =>
    { s with processor := p,
             submitters := Function.update s.submitters t (.waiting frame pipelineCount rest) }

section AfterAdmission

variable (s : Sys) (t : Nat) (frame : UInt32) (count : Nat) (ad : Admission)

@[simp] theorem afterAdmission_processor : (s.afterAdmission t frame count ad).processor = ad.processor := by
  cases ad <;> rfl
@[simp] theorem afterAdmission_log : (s.afterAdmission t frame count ad).log = s.log := by cases ad <;> rfl
@[simp] theorem afterAdmission_loop : (s.afterAdmission t frame count ad).loop = s.loop := by cases ad <;> rfl
@[simp] theorem afterAdmission_latched : (s.afterAdmission t frame count ad).latched = s.latched := by
  cases ad <;> rfl
@[simp] theorem afterAdmission_sensor : (s.afterAdmission t frame count ad).sensor = s.sensor := by
  cases ad <;> rfl
@[simp] theorem afterAdmission_flush : (s.afterAdmission t frame count ad).flush = s.flush := by
  cases ad <;> rfl
@[simp] theorem afterAdmission_capture : (s.afterAdmission t frame count ad).capture = s.capture := by
  cases ad <;> rfl

end AfterAdmission

/-- The loop leaves its critical section having serviced the front request as `sv`. -/
def afterService (s : Sys) : Serviced → Sys
  | .idle => { s with loop := .beforeVSync }
  | .fault => { s with fault := some .nullOverride }
  | .failed r applied p =>
    { s with processor := p, loop := .beforeVSync,
             log := s.log ++ (applied.map fun a => Event.applied r.id r.frameNumber a.1 a.2).toList ++
               [.notify .loop r.id r.frameNumber .errorResult] }
  | .latched r applied next p =>
    { s with processor := p, loop := .beforeVSync, sensor := s.sensor.setCurrentRequest next,
             latched := some r.id,
             log := s.log ++ [.applied r.id r.frameNumber applied.1 applied.2, .latch r.id s.latched] }

/-- The rest of `Flush` once its vsync wait is over: the slot's buffer lists are cleared, then
every pending request gets `ERROR_REQUEST`, in order, and `pending_requests_` is emptied. -/
def afterFlush (s : Sys) : Sys :=
  let cleared := flushSlot s.sensor.slot
  { s with
    sensor := { s.sensor with slot := cleared.1 }
    processor := { s.processor with pendingRequests := [] }
    flush := .idle
    log := s.log ++ (match cleared.2 with
        | some b => notifyOf .sensorFlush s.latched b.frameNumber .errorResult
        | none => []) ++
      s.processor.pendingRequests.map fun r => .notify .flush r.id r.frameNumber .errorRequest }

/-- The capture thread past its swap meets `readout taken`. -/
def afterReadout (s : Sys) (taken : Slot) (id : Option Nat) : Sys :=
  match readout taken with
  | .idle => { s with capture := .top }
  | .fault => { s with fault := some .captureAccess }
  | .shutter b _ => { s with capture := .top, log := s.log ++ notifyOf .sensor id b.frameNumber .shutter }

end Sys

/-- One step of the system; `none` where the thread cannot take it. -/
def step (s : Sys) (a : Act) : Option Sys :=
  if s.fault.isSome then none
  else
    match a with
    | .submit t frame count requests =>
      match s.submitters t, s.flush with
      | .idle, .idle => some (s.afterAdmission t frame count (processRequestsFrom frame count false requests s.processor))
      | _, _ => none
    | .wake t timedOut =>
      match s.submitters t, s.flush with
      | .waiting frame count rest, .idle =>
        if timedOut then some { s with submitters := Function.update s.submitters t .idle }
        else some (s.afterAdmission t frame count (processRequestsFrom frame count true rest s.processor))
      | _, _ => none
    | .service o =>
      if s.loop = .top ∧ s.flush = .idle then some (s.afterService (serviceRequest o s.processor))
      else none
    | .enterVSync =>
      if s.loop = .beforeVSync then
        some { s with loop := .inVSync, sensor := { s.sensor with gotVSync := false } }
      else none
    | .wakeVSync r =>
      if s.loop = .inVSync then
        if r = .error then some { s with loop := .exited }
        else if s.sensor.gotVSync then some { s with loop := .top }
        else some s
      else none
    | .flushBegin =>
      if s.flush = .idle then
        some { s with flush := .waiting, sensor := { s.sensor with gotVSync := false } }
      else none
    | .flushWake r =>
      if s.flush = .waiting then
        if r ≠ .error ∧ s.sensor.gotVSync = false then some s else some s.afterFlush
      else none
    | .swap =>
      match s.capture with
      | .top =>
        some { s with sensor := s.sensor.swap.2, capture := .readout s.sensor.swap.1 s.latched,
                      latched := none, log := s.log ++ [.swap s.latched] }
      | .readout _ _ => none
    | .readout =>
      match s.capture with
      | .readout taken id => some (s.afterReadout taken id)
      | .top => none

/-! ### What each step can do -/

section Inversion

variable {s s' : Sys}

theorem step_submit {t : Nat} {frame : UInt32} {count : Nat} {reqs : List (PipelineRequest × Collab)}
    (h : step s (.submit t frame count reqs) = some s') :
    s.submitters t = .idle ∧ s.flush = .idle ∧
      s' = s.afterAdmission t frame count (processRequestsFrom frame count false reqs s.processor) := by
  simp only [step] at h
  split at h
  · cases h
  · split at h
    · cases h; exact ⟨‹_›, ‹_›, rfl⟩
    · cases h

theorem step_wake {t : Nat} {timedOut : Bool} (h : step s (.wake t timedOut) = some s') :
    ∃ frame count rest, s.submitters t = .waiting frame count rest ∧ s.flush = .idle ∧
      (s' = { s with submitters := Function.update s.submitters t .idle } ∨
        s' = s.afterAdmission t frame count (processRequestsFrom frame count true rest s.processor)) := by
  simp only [step] at h
  split at h
  · cases h
  · split at h
    · refine ⟨_, _, _, ‹_›, ‹_›, ?_⟩
      split at h <;> cases h
      · exact .inl rfl
      · exact .inr rfl
    · cases h

theorem step_service {o : LoopOracle} (h : step s (.service o) = some s') :
    s.loop = .top ∧ s.flush = .idle ∧ s' = s.afterService (serviceRequest o s.processor) := by
  simp only [step] at h
  split at h
  · cases h
  · split at h
    · cases h; exact ⟨‹_ ∧ _›.1, ‹_ ∧ _›.2, rfl⟩
    · cases h

theorem step_enterVSync (h : step s .enterVSync = some s') :
    s.loop = .beforeVSync ∧
      s' = { s with loop := .inVSync, sensor := { s.sensor with gotVSync := false } } := by
  simp only [step] at h
  split at h
  · cases h
  · split at h
    · cases h; exact ⟨‹_›, rfl⟩
    · cases h

theorem step_wakeVSync {r : WaitResult} (h : step s (.wakeVSync r) = some s') :
    s.loop = .inVSync ∧ (s' = { s with loop := .exited } ∨
      (s.sensor.gotVSync = true ∧ s' = { s with loop := .top }) ∨ s' = s) := by
  simp only [step] at h
  split at h
  · cases h
  · split at h
    · refine ⟨‹_›, ?_⟩
      split at h
      · cases h; exact .inl rfl
      · split at h <;> cases h
        · exact .inr (.inl ⟨‹_›, rfl⟩)
        · exact .inr (.inr rfl)
    · cases h

theorem step_flushBegin (h : step s .flushBegin = some s') :
    s.flush = .idle ∧
      s' = { s with flush := .waiting, sensor := { s.sensor with gotVSync := false } } := by
  simp only [step] at h
  split at h
  · cases h
  · split at h
    · cases h; exact ⟨‹_›, rfl⟩
    · cases h

theorem step_flushWake {r : WaitResult} (h : step s (.flushWake r) = some s') :
    s.flush = .waiting ∧ (s' = s ∨ s' = s.afterFlush) := by
  simp only [step] at h
  split at h
  · cases h
  · split at h
    · refine ⟨‹_›, ?_⟩
      split at h <;> cases h
      · exact .inl rfl
      · exact .inr rfl
    · cases h

theorem step_swap (h : step s .swap = some s') :
    s.capture = .top ∧
      s' = { s with
        sensor := ⟨.empty, true⟩
        capture := .readout s.sensor.slot s.latched
        latched := none
        log := s.log ++ [.swap s.latched] } := by
  simp only [step] at h
  split at h
  · cases h
  · split at h
    · cases h; exact ⟨‹_›, rfl⟩
    · cases h

theorem step_readout (h : step s .readout = some s') :
    ∃ taken id, s.capture = .readout taken id ∧ s' = s.afterReadout taken id := by
  simp only [step] at h
  split at h
  · cases h
  · split at h
    · cases h; exact ⟨_, _, ‹_›, rfl⟩
    · cases h

end Inversion

/-- The states a session can reach. -/
inductive Reachable : Sys → Prop where
  | init : Reachable Sys.init
  | step {s s' : Sys} {a : Act} : Reachable s → step s a = some s' → Reachable s'

/-- Run a list of steps in order. -/
def run : Sys → List Act → Option Sys
  | s, [] => some s
  | s, a :: as => (step s a).bind (run · as)

theorem Reachable.run {s s' : Sys} :
    ∀ {as : List Act}, Reachable s → GoogleCamera.Emulated.run s as = some s' → Reachable s'
  | [], hs, h => by cases h; exact hs
  | a :: as, hs, h => by
    simp only [GoogleCamera.Emulated.run, Option.bind_eq_some] at h
    obtain ⟨s₁, h₁, h₂⟩ := h
    exact Reachable.run (hs.step h₁) h₂

/-- What a run from a new session reaches is reachable. -/
theorem reachable_of_run {s : Sys} {as : List Act} (h : run Sys.init as = some s) : Reachable s :=
  Reachable.init.run h

/-- Where a run from a new session ends; a new session where the run gets stuck. -/
def Sys.after (as : List Act) : Sys := (run Sys.init as).getD Sys.init

theorem reachable_after {as : List Act} (h : (run Sys.init as).isSome = true) :
    Reachable (Sys.after as) := by
  obtain ⟨s, hs⟩ := Option.isSome_iff_exists.mp h
  rw [Sys.after, hs]
  exact reachable_of_run hs

/-- A run from a new session that ends where `p` holds shows a reachable state where it holds. -/
theorem exists_reachable_of_run {p : Sys → Bool} {as : List Act}
    (h : (run Sys.init as).map p = some true) : ∃ s, Reachable s ∧ p s = true := by
  cases hr : run Sys.init as with
  | none => simp [hr] at h
  | some s => exact ⟨s, reachable_of_run hr, by simpa [hr] using h⟩

/-! ### Inputs of the runs below -/

/-- A buffer source under which every buffer is supplied and maps. -/
def BufferSource.supplied : BufferSource := ⟨none, fun _ => true, fun _ => 0⟩

/-- The collaborators of a request that goes through. -/
def Collab.accepting : Collab := ⟨.ok, .supplied⟩

/-- A request of pipeline `pid` with settings `m` and one supplied output buffer. -/
def PipelineRequest.single (pid : Nat) (m : Option Metadata) : PipelineRequest :=
  ⟨pid, m, [⟨0, true⟩], []⟩

/-- What the loop's collaborators answer for a request that is latched. -/
def LoopOracle.latching : LoopOracle := ⟨fun _ => true, some [], (0, 0), (.empty, .empty)⟩

/-- What they answer when every output buffer's acquire fence fails. -/
def LoopOracle.fencesFail : LoopOracle := ⟨fun _ => false, some [], (0, 0), (.empty, .empty)⟩

end GoogleCamera.Emulated
