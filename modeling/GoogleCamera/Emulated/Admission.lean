import GoogleCamera.Emulated.System

/-!
# Admission: the pipeline depth, and what a failed call leaves queued

`ProcessPipelineRequests` waits for a slot with

    while (pending_requests_.size() > EmulatedSensor::kPipelineDepth) {
      auto result = request_condition_.wait_for(lock, ...);
      if (result == std::cv_status::timeout) { ...; return TIMED_OUT; }
    }

and then pushes, still under `process_mutex_`. A call therefore pushes only onto a queue of at
most `kPipelineDepth` requests, and the queue can reach `kPipelineDepth + 1`, never more
(`pending_length_le`), over every interleaving of clients, loop, `Flush` and capture thread.
Four one-request frames admitted while the loop is stalled already reach that length
(`pending_exceeds_pipeline_depth`).

A call walks its pipeline requests in order and pushes each one as it goes, so when the call
returns an error, the requests before the failing one stay queued. What a failed call leaves is
exactly what a call with only those earlier requests would leave
(`processPipelineRequests_error_keeps_prefix`); a two-request frame whose second request has a
bad pipeline id leaves its first request pending (`processPipelineRequests_error_leaves_pending`).
-/

namespace GoogleCamera.Emulated

/-! ### The depth bound -/

theorem pending_length_step {s s' : Sys} {a : Act}
    (hi : s.processor.pendingRequests.length ≤ kPipelineDepth + 1) (h : step s a = some s') :
    s'.processor.pendingRequests.length ≤ kPipelineDepth + 1 := by
  have hrun : ∀ t frame count checked reqs,
      (s.afterAdmission t frame count (processRequestsFrom frame count checked reqs s.processor)).processor.pendingRequests.length ≤
        kPipelineDepth + 1 := fun t frame count checked reqs => by
    have := processRequestsFrom_length_le frame count checked reqs s.processor
    simp only [Sys.afterAdmission_processor]
    omega
  cases a with
  | submit => obtain ⟨-, -, rfl⟩ := step_submit h; exact hrun _ _ _ _ _
  | wake =>
    obtain ⟨-, -, -, -, -, rfl | rfl⟩ := step_wake h
    · exact hi
    · exact hrun _ _ _ _ _
  | service o =>
    obtain ⟨-, -, rfl⟩ := step_service h
    cases hsv : serviceRequest o s.processor with
    | idle => exact hi
    | fault => exact hi
    | failed r ap p =>
      have := (serviceRequest_failed hsv).1
      simp only [Sys.afterService]
      simp only [this, List.length_cons] at hi
      omega
    | latched r ap next p =>
      have := (serviceRequest_latched hsv).1
      simp only [Sys.afterService]
      simp only [this, List.length_cons] at hi
      omega
  | enterVSync => obtain ⟨-, rfl⟩ := step_enterVSync h; exact hi
  | wakeVSync => obtain ⟨-, rfl | ⟨-, rfl⟩ | rfl⟩ := step_wakeVSync h <;> exact hi
  | flushBegin => obtain ⟨-, rfl⟩ := step_flushBegin h; exact hi
  | flushWake =>
    obtain ⟨-, rfl | rfl⟩ := step_flushWake h
    · exact hi
    · simp [Sys.afterFlush]
  | swap => obtain ⟨-, rfl⟩ := step_swap h; exact hi
  | readout =>
    obtain ⟨taken, id, -, rfl⟩ := step_readout h
    unfold Sys.afterReadout
    split <;> exact hi

/-- In every reachable state `pending_requests_` holds at most `kPipelineDepth + 1` requests:
a call pushes only onto a queue of at most `kPipelineDepth`. -/
theorem pending_length_le {s : Sys} (h : Reachable s) :
    s.processor.pendingRequests.length ≤ kPipelineDepth + 1 := by
  induction h with
  | init => simp [Sys.init, Processor.init]
  | step _ hs ih => exact pending_length_step ih hs

/-- Four one-request frames, submitted by four clients while the loop has not run. -/
def fourFrames : List Act :=
  [0, 1, 2, 3].map fun t =>
    .submit t (UInt32.ofNat (t + 1)) 1 [(.single 0 (some .empty), .accepting)]

theorem pending_length_le_fourFrames :
    Reachable (Sys.after fourFrames) ∧
      (Sys.after fourFrames).processor.pendingRequests.length ≤ kPipelineDepth + 1 :=
  have h : Reachable (Sys.after fourFrames) := reachable_after (by decide)
  ⟨h, pending_length_le h⟩

/-- Four one-request frames submitted while the loop is stalled are all admitted: the last one
finds three requests pending, does not wait, and leaves four, more than `kPipelineDepth`. -/
theorem pending_exceeds_pipeline_depth :
    ∃ s, Reachable s ∧ decide (kPipelineDepth < s.processor.pendingRequests.length) = true :=
  @exists_reachable_of_run _ fourFrames (by decide)

/-! ### A failed call keeps what it pushed -/

/-- A run under the lock that does not return `OK` leaves what the run over a strict prefix of
its requests leaves, and that shorter run returns `OK`. -/
theorem processRequestsFrom_prefix (frame : UInt32) (count : Nat) :
    ∀ (checked : Bool) (reqs : List (PipelineRequest × Collab)) (p : Processor),
      (∀ q, processRequestsFrom frame count checked reqs p ≠ .returned .ok q) →
      ∃ k < reqs.length, processRequestsFrom frame count checked (reqs.take k) p =
        .returned .ok (processRequestsFrom frame count checked reqs p).processor
  | _, [], p, h => absurd rfl (h p)
  | checked, (r, c) :: rest, p, h => by
    have h0 : processRequestsFrom frame count checked ([] : List (PipelineRequest × Collab)) p =
        .returned .ok p := rfl
    rw [processRequestsFrom_cons] at h ⊢
    by_cases hb : checked = false ∧ count ≤ r.pipelineId
    · rw [if_pos hb]; exact ⟨0, by simp, h0⟩
    rw [if_neg hb] at h ⊢
    by_cases hd : kPipelineDepth < p.pendingRequests.length
    · rw [if_pos hd]; exact ⟨0, by simp, h0⟩
    rw [if_neg hd] at h ⊢
    cases hp : processPipelineRequest frame r c p with
    | error st => exact ⟨0, by simp, h0⟩
    | ok p' =>
      rw [hp] at h
      obtain ⟨k, hk, hrun⟩ := processRequestsFrom_prefix frame count false rest p' h
      refine ⟨k + 1, by simp; omega, ?_⟩
      rw [List.take_succ_cons, processRequestsFrom_cons, if_neg hb, if_neg hd, hp]
      exact hrun

/-- A call of `ProcessPipelineRequests` that does not return `OK` leaves the processor exactly
as a call with only the requests before the failing one would, and that call returns `OK`: the
earlier requests stay queued, with their override entries, and the failing request and those
after it add nothing. -/
theorem processPipelineRequests_error_keeps_prefix (frame : UInt32) (count : Nat)
    (reqs : List (PipelineRequest × Collab)) (p : Processor)
    (h : (processPipelineRequests frame count reqs p).1 ≠ .ok) :
    ∃ k < reqs.length, processPipelineRequests frame count (reqs.take k) p =
      (.ok, (processPipelineRequests frame count reqs p).2) := by
  have hne : ∀ q, processRequestsFrom frame count false reqs p ≠ .returned .ok q := by
    intro q hq
    simp [processPipelineRequests, hq] at h
  obtain ⟨k, hk, hrun⟩ := processRequestsFrom_prefix frame count false reqs p hne
  refine ⟨k, hk, ?_⟩
  unfold processPipelineRequests
  rw [hrun]
  cases processRequestsFrom frame count false reqs p <;> rfl

/-- A frame of two requests on a session of one pipeline, the second naming a pipeline that
does not exist. -/
def badSecondRequest : List (PipelineRequest × Collab) :=
  [(.single 0 (some .empty), .accepting), (.single 1 (some .empty), .accepting)]

theorem processPipelineRequests_badSecondRequest_witness :
    (processPipelineRequests 1 1 badSecondRequest Processor.init).1 ≠ .ok ∧
      ∃ k < badSecondRequest.length, processPipelineRequests 1 1 (badSecondRequest.take k) Processor.init =
        (.ok, (processPipelineRequests 1 1 badSecondRequest Processor.init).2) :=
  ⟨by decide, processPipelineRequests_error_keeps_prefix 1 1 badSecondRequest Processor.init (by decide)⟩

/-- With one pipeline, a frame whose second request names pipeline 1 gets `BAD_VALUE`, and its
first request stays in `pending_requests_`. -/
theorem processPipelineRequests_error_leaves_pending :
    (processPipelineRequests 1 1 badSecondRequest Processor.init).1 = .badValue ∧
      (processPipelineRequests 1 1 badSecondRequest Processor.init).2.pendingRequests.length = 1 ∧
      Processor.init.pendingRequests.length = 0 := by
  decide

end GoogleCamera.Emulated
