import GoogleCamera.Emulated.RequestProcessor

/-!
# `RealtimeProcessBlock`: requests to the HWL, results back

`RealtimeProcessBlock` (`common/hal/utils/realtime_process_block.cc`) stands between a capture
session and the HWL pipeline it configures. `ProcessRequests` registers the request with the
block's `ResultProcessor`, and then submits it to the HWL:

    status_t res = result_processor_->AddPendingRequests(
        process_block_requests, remaining_session_request);
    if (res != OK) { ... return res; }
    ...
    if (!is_configured_) { ... return NO_INIT; }
    ... hal_utils::CreateHwlPipelineRequest(&hwl_requests[0], pipeline_id_, ...) ...
    return device_session_hwl_->SubmitRequests(frame_number, hwl_requests);

The HWL's callbacks hand results back through `NotifyHwlPipelineResult` and
`NotifyHwlPipelineBatchResult`. Each converts an `HwlPipelineResult` to a `CaptureResult`
before forwarding it; the batch path is

    for (auto& hwl_result : hwl_results) {
      auto capture_result = hal_utils::ConvertToCaptureResult(std::move(hwl_result));
      if (capture_result == nullptr) { ...; return; }
      block_results.push_back(...);
    }
    result_processor_->ProcessBatchResult(std::move(block_results));

The HWL session, `hal_utils` and the result processor are collaborators whose code is not part
of this file. What they answer is an argument here (`ProcessOutcome`, the conversion
`convert`), and the result processor is the record of what it has been told.

## What is proved

* The batch path forwards what the single path forwards, element by element, when every
  conversion succeeds, and nothing otherwise (`notifyHwlPipelineBatchResult_eq`). A failed
  conversion after a good one drops the good one (`batch_drops_converted_result`).
* `ProcessRequests` registers the request before it checks `is_configured_`. An unconfigured
  block answers `NO_INIT` with the request registered (`unconfigured_request_registered`).
* Over every run of the block, each request handed to the HWL was registered with the result
  processor first (`submitted_registered_of_run`).
-/

namespace GoogleCamera.Hal

open GoogleCamera.Emulated (Status)

/-- What a `ResultProcessor` has been told: the requests registered with `AddPendingRequests`,
and the results forwarded with `ProcessResult` and `ProcessBatchResult`, oldest first. -/
structure ResultProcessor (Req Res : Type) where
  pending : List Req
  results : List Res
  deriving DecidableEq, Repr

namespace ResultProcessor

variable {Req Res : Type}

/-- `AddPendingRequests` when it answers `OK`. -/
def addPendingRequests (rp : ResultProcessor Req Res) (r : Req) : ResultProcessor Req Res :=
  { rp with pending := rp.pending ++ [r] }

/-- `ProcessResult`. -/
def processResult (rp : ResultProcessor Req Res) (c : Res) : ResultProcessor Req Res :=
  { rp with results := rp.results ++ [c] }

/-- `ProcessBatchResult`. -/
def processBatchResult (rp : ResultProcessor Req Res) (cs : List Res) :
    ResultProcessor Req Res :=
  { rp with results := rp.results ++ cs }

@[simp] theorem addPendingRequests_pending (rp : ResultProcessor Req Res) (r : Req) :
    (rp.addPendingRequests r).pending = rp.pending ++ [r] := rfl

@[simp] theorem processResult_pending (rp : ResultProcessor Req Res) (c : Res) :
    (rp.processResult c).pending = rp.pending := rfl

@[simp] theorem processBatchResult_pending (rp : ResultProcessor Req Res) (cs : List Res) :
    (rp.processBatchResult cs).pending = rp.pending := rfl

end ResultProcessor

/-- A `RealtimeProcessBlock`: `result_processor_` (`none` is null), `is_configured_`, and the
requests handed to the HWL's `SubmitRequests`, each with the block request it was built from. -/
structure Block (Req Res HwlReq : Type) where
  resultProcessor : Option (ResultProcessor Req Res)
  isConfigured : Bool
  submitted : List (Req × HwlReq)
  deriving DecidableEq, Repr

variable {Req Res HwlReq HwlRes : Type}

/-- A block as `Create` returns it. -/
def Block.init : Block Req Res HwlReq := ⟨none, false, []⟩

/-! ### Requests -/

/-- What the collaborators answer during one `ProcessRequests`: `AddPendingRequests`,
`hal_utils::CreateHwlPipelineRequest` (the request it builds, or its error), and the HWL's
`SubmitRequests`. -/
structure ProcessOutcome (HwlReq : Type) where
  addPending : Status
  create : Except Status HwlReq
  submit : Status

/-- `RealtimeProcessBlock::ProcessRequests`. A failed `AddPendingRequests` registers nothing. -/
def processRequests (o : ProcessOutcome HwlReq) (requests : List Req)
    (b : Block Req Res HwlReq) : Status × Block Req Res HwlReq :=
  match requests with
  | [r] =>
    match b.resultProcessor with
    | none => (.noInit, b)
    | some rp =>
      if o.addPending ≠ .ok then (o.addPending, b)
      else
        let registered := { b with resultProcessor := some (rp.addPendingRequests r) }
        if !b.isConfigured then (.noInit, registered)
        else
          match o.create with
          | .error res => (res, registered)
          | .ok hwl => (o.submit, { registered with submitted := b.submitted ++ [(r, hwl)] })
  | _ => (.badValue, b)

/-- `RealtimeProcessBlock::ConfigureStreams`, with the status the HWL's `ConfigurePipeline`
answers. -/
def configureStreams (configurePipeline : Status) (b : Block Req Res HwlReq) :
    Status × Block Req Res HwlReq :=
  if b.isConfigured then (.alreadyExists, b)
  else if configurePipeline ≠ .ok then (configurePipeline, b)
  else (.ok, { b with isConfigured := true })

/-- `RealtimeProcessBlock::SetResultProcessor`; `none` is a null pointer. -/
def setResultProcessor (p : Option (ResultProcessor Req Res)) (b : Block Req Res HwlReq) :
    Status × Block Req Res HwlReq :=
  match p, b.resultProcessor with
  | none, _ => (.badValue, b)
  | some _, some _ => (.alreadyExists, b)
  | some rp, none => (.ok, { b with resultProcessor := some rp })

/-- Everything one `ProcessRequests` can do to the block: nothing, when it answers before
registering; or register the request, and then hand it to the HWL or not. -/
theorem processRequests_cases (o : ProcessOutcome HwlReq) (requests : List Req)
    (b : Block Req Res HwlReq) :
    (processRequests o requests b).2 = b ∨ ∃ r rp, requests = [r] ∧ b.resultProcessor = some rp ∧
      ((processRequests o requests b).2 =
          { b with resultProcessor := some (rp.addPendingRequests r) } ∨
        ∃ hwl, (processRequests o requests b).2 =
          { b with resultProcessor := some (rp.addPendingRequests r),
                   submitted := b.submitted ++ [(r, hwl)] }) := by
  match requests, hrp : b.resultProcessor with
  | [], _ => exact .inl rfl
  | _ :: _ :: _, _ => exact .inl rfl
  | [r], none => exact .inl (by simp [processRequests, hrp])
  | [r], some rp =>
    by_cases ha : o.addPending = .ok
    · refine .inr ⟨r, rp, rfl, rfl, ?_⟩
      cases hc : o.create <;> cases hconf : b.isConfigured <;>
        simp [processRequests, hrp, ha, hc, hconf]
    · exact .inl (by simp [processRequests, hrp, ha])

/-- A result processor with nothing registered, on a block never configured. -/
def unconfigured : Block Nat Nat Unit := ⟨some ⟨[], []⟩, false, []⟩

/-- `AddPendingRequests` accepts request 7 on `unconfigured`; the block answers `NO_INIT` and
the request stays registered, though it never reaches the HWL. -/
theorem unconfigured_request_registered :
    processRequests ⟨.ok, .ok (), .ok⟩ [7] unconfigured = (.noInit, ⟨some ⟨[7], []⟩, false, []⟩) :=
  rfl

/-! ### Results -/

section Results

variable (convert : HwlRes → Option Res)

/-- `RealtimeProcessBlock::NotifyHwlPipelineResult`, with `hal_utils::ConvertToCaptureResult`
as `convert` (`none` is null). -/
def notifyHwlPipelineResult (b : Block Req Res HwlReq) (r : HwlRes) : Block Req Res HwlReq :=
  match b.resultProcessor, convert r with
  | some rp, some c => { b with resultProcessor := some (rp.processResult c) }
  | _, _ => b

/-- The loop of `NotifyHwlPipelineBatchResult` from `block_results = acc`: the converted
results, or `none` where a conversion fails and the function returns. -/
def convertBatch : List HwlRes → List Res → Option (List Res)
  | [], acc => some acc
  | r :: rs, acc =>
    match convert r with
    | none => none
    | some c => convertBatch rs (acc ++ [c])

/-- `RealtimeProcessBlock::NotifyHwlPipelineBatchResult`. -/
def notifyHwlPipelineBatchResult (b : Block Req Res HwlReq) (rs : List HwlRes) :
    Block Req Res HwlReq :=
  match b.resultProcessor, convertBatch convert rs [] with
  | some rp, some cs => { b with resultProcessor := some (rp.processBatchResult cs) }
  | _, _ => b

/-- Every conversion succeeds: the loop appends all results; otherwise it gives up. -/
theorem convertBatch_eq (rs : List HwlRes) (acc : List Res) :
    convertBatch convert rs acc =
      if rs.all (fun r => (convert r).isSome) then some (acc ++ rs.filterMap convert) else none := by
  induction rs generalizing acc with
  | nil => simp [convertBatch]
  | cons r rs ih =>
    cases hr : convert r <;> simp [convertBatch, hr, ih]

/-- Single results one after another forward every result that converts, in order. -/
theorem foldl_notifyHwlPipelineResult (rs : List HwlRes) :
    ∀ (b : Block Req Res HwlReq) (rp : ResultProcessor Req Res), b.resultProcessor = some rp →
      rs.foldl (notifyHwlPipelineResult convert) b =
        { b with resultProcessor := some (rp.processBatchResult (rs.filterMap convert)) } := by
  induction rs with
  | nil => intro b rp h; cases b; cases rp; simp_all [ResultProcessor.processBatchResult]
  | cons r rs ih =>
    intro b rp h
    cases hr : convert r with
    | none =>
      simp only [List.foldl_cons, List.filterMap_cons, hr]
      rw [show notifyHwlPipelineResult convert b r = b by simp [notifyHwlPipelineResult, h, hr]]
      exact ih b rp h
    | some c =>
      simp only [List.foldl_cons, List.filterMap_cons, hr]
      rw [ih _ (rp.processResult c) (by simp [notifyHwlPipelineResult, h, hr])]
      simp [notifyHwlPipelineResult, h, hr, ResultProcessor.processResult,
        ResultProcessor.processBatchResult]

/-- Without a result processor, single results are dropped. -/
theorem foldl_notifyHwlPipelineResult_of_none (rs : List HwlRes) :
    ∀ (b : Block Req Res HwlReq), b.resultProcessor = none →
      rs.foldl (notifyHwlPipelineResult convert) b = b := by
  induction rs with
  | nil => intro b _; rfl
  | cons r rs ih =>
    intro b h
    simp only [List.foldl_cons]
    rw [show notifyHwlPipelineResult convert b r = b by simp [notifyHwlPipelineResult, h]]
    exact ih b h

/-- `NotifyHwlPipelineBatchResult` is `NotifyHwlPipelineResult` on each element in turn when
every conversion succeeds, and forwards nothing when one fails. -/
theorem notifyHwlPipelineBatchResult_eq (b : Block Req Res HwlReq) (rs : List HwlRes) :
    notifyHwlPipelineBatchResult convert b rs =
      if rs.all (fun r => (convert r).isSome) then rs.foldl (notifyHwlPipelineResult convert) b
      else b := by
  cases h : b.resultProcessor with
  | none =>
    simp [notifyHwlPipelineBatchResult, h, foldl_notifyHwlPipelineResult_of_none convert rs b h]
  | some rp =>
    rw [foldl_notifyHwlPipelineResult convert rs b rp h]
    by_cases hall : rs.all (fun r => (convert r).isSome) = true
    · simp only [notifyHwlPipelineBatchResult, h, convertBatch_eq, hall, if_true, List.nil_append]
    · simp only [notifyHwlPipelineBatchResult, h, convertBatch_eq, hall, Bool.false_eq_true,
        if_false]

/-- A result leaves the requests handed to the HWL as they were. -/
@[simp] theorem notifyHwlPipelineResult_submitted (b : Block Req Res HwlReq) (r : HwlRes) :
    (notifyHwlPipelineResult convert b r).submitted = b.submitted := by
  unfold notifyHwlPipelineResult; split <;> rfl

/-- A batch leaves the requests handed to the HWL as they were. -/
@[simp] theorem notifyHwlPipelineBatchResult_submitted (b : Block Req Res HwlReq)
    (rs : List HwlRes) : (notifyHwlPipelineBatchResult convert b rs).submitted = b.submitted := by
  unfold notifyHwlPipelineBatchResult; split <;> rfl

/-- A result leaves the registered requests as they were. -/
theorem notifyHwlPipelineResult_pending (b : Block Req Res HwlReq) (r : HwlRes) :
    (notifyHwlPipelineResult convert b r).resultProcessor.map (·.pending) =
      b.resultProcessor.map (·.pending) := by
  unfold notifyHwlPipelineResult; split <;> simp_all

/-- A batch leaves the registered requests as they were. -/
theorem notifyHwlPipelineBatchResult_pending (b : Block Req Res HwlReq) (rs : List HwlRes) :
    (notifyHwlPipelineBatchResult convert b rs).resultProcessor.map (·.pending) =
      b.resultProcessor.map (·.pending) := by
  unfold notifyHwlPipelineBatchResult; split <;> simp_all

end Results

/-- `ConvertToCaptureResult` failing on result 0 only. -/
def failsOnZero (r : Nat) : Option Nat := if r = 0 then none else some r

/-- A configured block whose result processor has been told nothing. -/
def listening : Block Nat Nat Unit := ⟨some ⟨[], []⟩, true, []⟩

/-- The batch `[1, 0]` forwards nothing, where results 1 and 0 one after the other forward
result 1. -/
theorem batch_drops_converted_result :
    (notifyHwlPipelineBatchResult failsOnZero listening [1, 0]).resultProcessor =
        some ⟨[], []⟩ ∧
      ([1, 0].foldl (notifyHwlPipelineResult failsOnZero) listening).resultProcessor =
        some ⟨[], [1]⟩ :=
  ⟨rfl, rfl⟩

/-! ### Runs of the block -/

/-- The calls a block takes, with what its collaborators answer. -/
inductive Op (Req Res HwlReq HwlRes : Type) where
  | setResultProcessor (p : Option (ResultProcessor Req Res))
  | configureStreams (configurePipeline : Status)
  | processRequests (o : ProcessOutcome HwlReq) (requests : List Req)
  | notifyResult (r : HwlRes)
  | notifyBatchResult (rs : List HwlRes)

/-- One call of the block. -/
def Block.step (convert : HwlRes → Option Res) (b : Block Req Res HwlReq) :
    Op Req Res HwlReq HwlRes → Block Req Res HwlReq
  | .setResultProcessor p => (setResultProcessor p b).2
  | .configureStreams s => (configureStreams s b).2
  | .processRequests o requests => (processRequests o requests b).2
  | .notifyResult r => notifyHwlPipelineResult convert b r
  | .notifyBatchResult rs => notifyHwlPipelineBatchResult convert b rs

/-- Each request handed to the HWL is registered with the result processor, and none is handed
over before a result processor is set. -/
def SubmittedRegistered (b : Block Req Res HwlReq) : Prop :=
  match b.resultProcessor with
  | none => b.submitted = []
  | some rp => ∀ x ∈ b.submitted, x.1 ∈ rp.pending

/-- The invariant reads only the registered requests and those handed to the HWL. -/
theorem SubmittedRegistered.congr {b b' : Block Req Res HwlReq} (h : SubmittedRegistered b)
    (hs : b'.submitted = b.submitted)
    (hp : b'.resultProcessor.map (·.pending) = b.resultProcessor.map (·.pending)) :
    SubmittedRegistered b' := by
  unfold SubmittedRegistered at *
  rw [hs]
  cases h1 : b'.resultProcessor <;> cases h2 : b.resultProcessor <;>
    simp only [h1, h2, Option.map_none', Option.map_some', Option.some.injEq, reduceCtorEq] at h hp ⊢
  · exact h
  · exact hp ▸ h

theorem SubmittedRegistered.processRequests {o : ProcessOutcome HwlReq} {requests : List Req}
    {b : Block Req Res HwlReq} (h : SubmittedRegistered b) :
    SubmittedRegistered (processRequests o requests b).2 := by
  obtain heq | ⟨r, rp, -, hrp, heq | ⟨hwl, heq⟩⟩ := processRequests_cases o requests b
  · rwa [heq]
  all_goals
    rw [heq]
    simp only [SubmittedRegistered, hrp, ResultProcessor.addPendingRequests_pending] at h ⊢
  · exact fun x hx => List.mem_append_left _ (h x hx)
  · intro x hx
    rcases List.mem_append.mp hx with hx | hx
    · exact List.mem_append_left _ (h x hx)
    · simp [List.mem_singleton.mp hx]

theorem SubmittedRegistered.step (convert : HwlRes → Option Res) {b : Block Req Res HwlReq}
    (h : SubmittedRegistered b) (op : Op Req Res HwlReq HwlRes) :
    SubmittedRegistered (b.step convert op) := by
  cases op with
  | setResultProcessor p =>
    cases p with
    | none => exact h
    | some rp =>
      cases hb : b.resultProcessor with
      | some _ => simpa [Block.step, setResultProcessor, hb] using h
      | none =>
        simp only [SubmittedRegistered, hb] at h
        simp [Block.step, setResultProcessor, hb, SubmittedRegistered, h]
  | configureStreams s =>
    simp only [Block.step, configureStreams]
    split_ifs <;> exact h.congr rfl rfl
  | processRequests o requests => exact h.processRequests
  | notifyResult r =>
    exact h.congr (notifyHwlPipelineResult_submitted convert b r)
      (notifyHwlPipelineResult_pending convert b r)
  | notifyBatchResult rs =>
    exact h.congr (notifyHwlPipelineBatchResult_submitted convert b rs)
      (notifyHwlPipelineBatchResult_pending convert b rs)

/-- Over every run from a new block, each request handed to the HWL was registered with the
result processor. -/
theorem submitted_registered_of_run (convert : HwlRes → Option Res)
    (ops : List (Op Req Res HwlReq HwlRes)) :
    SubmittedRegistered (ops.foldl (Block.step convert) Block.init) := by
  suffices ∀ b : Block Req Res HwlReq, SubmittedRegistered b →
      SubmittedRegistered (ops.foldl (Block.step convert) b) from this _ rfl
  induction ops with
  | nil => exact fun _ h => h
  | cons op ops ih => exact fun b h => ih _ (h.step convert op)

end GoogleCamera.Hal
