import GoogleCamera.Emulated.System
import Mathlib.Data.List.Nodup
import Mathlib.Data.List.Range

/-!
# Every request meets one fate, and the slot is never overwritten

A request pushed to `pending_requests_` leaves it in one of three ways:

* `Flush` pops it and `NotifyFailedRequest` sends `ERROR_REQUEST`;
* the loop pops it and sends `ERROR_RESULT` (no output buffer survived its fence, or
  `InitializeLogicalSettings` failed);
* the loop pops it and latches it with `SetCurrentRequest`; the capture thread's next swap
  takes it.

The handshake that keeps the one-slot mailbox from being overwritten is `WaitForVSync`:

    got_vsync_ = false;
    while (!got_vsync_) { ... vsync_.waitRelative(control_mutex_, reltime) ... }

`got_vsync_` is set only by the swap, so the loop returns to its critical section only after
a swap that came after its own latch. `Flush` also clears `got_vsync_`, but it holds
`process_mutex_` all the while, so the loop cannot latch during it.

`FateInv` is the invariant: fates counted in the log add up to the admissions, every latch is
either in the slot or matched by one swap, and the loop's program counter says when the slot is
free. `reachable_fateInv` proves it of every reachable state, for every outcome of every wait.

`EmulatedSensor::Flush` sends one more notification, an `ERROR_RESULT` for the request in the
slot when it clears it before the swap. That request was latched, so this `ERROR_RESULT` is not
a fate of its own: `FlushNoticeInv` matches each one with a latch of its request.
`request_fates`, in `GoogleCamera.Emulated.NotifyOrder`, states what the invariants say of each
request.
-/

namespace GoogleCamera.Emulated

/-! ### Fates in the log -/

/-- `e` is the `ERROR_REQUEST` that `Flush` sends for request `id`. -/
def Event.flushes (id : Nat) : Event → Bool
  | .notify .flush i _ .errorRequest => i == id
  | _ => false

/-- `e` is the `ERROR_RESULT` that the loop sends for request `id`. -/
def Event.fails (id : Nat) : Event → Bool
  | .notify .loop i _ .errorResult => i == id
  | _ => false

/-- `e` is the `ERROR_RESULT` that `EmulatedSensor::Flush` sends for request `id`. -/
def Event.sensorFails (id : Nat) : Event → Bool
  | .notify .sensorFlush i _ .errorResult => i == id
  | _ => false

/-- `e` latches request `id`. -/
def Event.latches (id : Nat) : Event → Bool
  | .latch i _ => i == id
  | _ => false

/-- `e` is a swap that takes request `id`. -/
def Event.swaps (id : Nat) : Event → Bool
  | .swap (some i) => i == id
  | _ => false

/-- How many of `rs` are request `id`. -/
def countId (id : Nat) (rs : List PendingRequest) : Nat := rs.countP (·.id == id)

theorem countId_eq_count (id : Nat) (rs : List PendingRequest) :
    countId id rs = (rs.map PendingRequest.id).count id := by
  rw [List.count_eq_countP, List.countP_map]
  rfl

theorem countP_notifyOf (p : Event → Bool) {src : Source} {note : Note}
    (h : ∀ i frame, p (.notify src i frame note) = false) (id : Option Nat) (frame : UInt32) :
    (notifyOf src id frame note).countP p = 0 := by
  cases id <;> simp [notifyOf, h]

/-- The `ERROR_RESULT` that `EmulatedSensor::Flush` sends for the request in the slot, were it
to clear the slot now. -/
def Sys.flushNotice (s : Sys) : List Event :=
  match (flushSlot s.sensor.slot).2 with
  | some b => notifyOf .sensorFlush s.latched b.frameNumber .errorResult
  | none => []

theorem Sys.afterFlush_log (s : Sys) :
    s.afterFlush.log = s.log ++ s.flushNotice ++
      s.processor.pendingRequests.map fun r => .notify .flush r.id r.frameNumber .errorRequest := rfl

/-- The notice is for the latched request. -/
theorem Sys.flushNotice_sensorFails_le (s : Sys) (id : Nat) :
    s.flushNotice.countP (Event.sensorFails id) ≤ if s.latched = some id then 1 else 0 := by
  unfold Sys.flushNotice
  split
  · cases s.latched with
    | none => exact Nat.zero_le _
    | some i => by_cases h : i = id <;> simp [notifyOf, Event.sensorFails, h]
  · exact Nat.zero_le _

/-! ### The invariant -/

/-- What holds of every reachable state. -/
structure FateInv (s : Sys) : Prop where
  /-- The history holds requests `0, 1, …`, in order. -/
  ids : s.processor.admittedRequests.map PendingRequest.id =
    List.range s.processor.admittedRequests.length
  /-- Each admitted request is pending, flushed, failed or latched, and only one of these. -/
  fates : ∀ id, countId id s.processor.pendingRequests + s.log.countP (Event.flushes id) +
    s.log.countP (Event.fails id) + s.log.countP (Event.latches id) =
      countId id s.processor.admittedRequests
  /-- A latched request is in the slot, or one swap took it. -/
  swaps : ∀ id, s.log.countP (Event.swaps id) + (if s.latched = some id then 1 else 0) =
    s.log.countP (Event.latches id)
  /-- At the top of the loop, nothing is latched. -/
  top : s.loop = .top → s.latched = none
  /-- Once a swap has set `got_vsync_` under the loop's wait, nothing is latched. -/
  vsync : s.loop = .inVSync → s.sensor.gotVSync = true → s.latched = none
  /-- No latch found a request in the slot. -/
  noOverwrite : ∀ i j, Event.latch i (some j) ∉ s.log

theorem fateInv_init : FateInv Sys.init :=
  ⟨rfl, fun _ => rfl, fun _ => rfl, fun _ => rfl, fun _ _ => rfl, fun _ _ => List.not_mem_nil _⟩

namespace FateInv

variable {s : Sys}

theorem processRequestsFrom (hi : FateInv s) (t : Nat) (frame : UInt32) (count : Nat) (checked : Bool)
    (reqs : List (PipelineRequest × Collab)) :
    FateInv (s.afterAdmission t frame count (processRequestsFrom frame count checked reqs s.processor)) := by
  obtain ⟨pushed, hpend, hadm, hids, -, -⟩ := processRequestsFrom_pushes frame count checked reqs s.processor
  refine ⟨?_, fun id => ?_, by simpa using hi.swaps, by simpa using hi.top, by simpa using hi.vsync,
    by simpa using hi.noOverwrite⟩
  · simp only [Sys.afterAdmission_processor, hadm, List.map_append, hi.ids, hids, List.length_append]
    rw [List.range_add, List.range'_eq_map_range]
  · have := hi.fates id
    simp only [Sys.afterAdmission_processor, Sys.afterAdmission_log, hpend, hadm, countId,
      List.countP_append] at this ⊢
    omega

theorem service (hi : FateInv s) (htop : s.loop = .top) (o : LoopOracle) :
    FateInv (s.afterService (serviceRequest o s.processor)) := by
  have hl := hi.top htop
  cases hsv : serviceRequest o s.processor with
  | idle => exact ⟨hi.ids, hi.fates, hi.swaps, nofun, nofun, hi.noOverwrite⟩
  | fault => exact ⟨hi.ids, hi.fates, hi.swaps, hi.top, hi.vsync, hi.noOverwrite⟩
  | failed r ap p =>
    obtain ⟨hpend, hadm⟩ := serviceRequest_failed hsv
    refine ⟨by simpa [Sys.afterService, hadm] using hi.ids, fun id => ?_, fun id => ?_, nofun, nofun, ?_⟩
    · have := hi.fates id
      rw [hpend] at this
      cases ap <;> simp [Sys.afterService, countId, Event.flushes, Event.fails, Event.latches, hadm,
        List.countP_cons] at this ⊢ <;> omega
    · have := hi.swaps id
      cases ap <;> simpa [Sys.afterService, Event.swaps, Event.latches] using this
    · cases ap <;> simpa [Sys.afterService] using hi.noOverwrite
  | latched r ap next p =>
    obtain ⟨hpend, hadm, -⟩ := serviceRequest_latched hsv
    refine ⟨by simpa [Sys.afterService, hadm] using hi.ids, fun id => ?_, fun id => ?_, nofun, nofun, ?_⟩
    · have := hi.fates id
      rw [hpend] at this
      simp [Sys.afterService, countId, Event.flushes, Event.fails, Event.latches, hadm,
        List.countP_cons] at this ⊢
      omega
    · have := hi.swaps id
      simp only [hl, reduceCtorEq, if_false, Nat.add_zero] at this
      simp [Sys.afterService, Event.swaps, Event.latches, List.countP_cons, this]
    · simpa [Sys.afterService, hl] using hi.noOverwrite

theorem flush (hi : FateInv s) : FateInv s.afterFlush := by
  have hlog : ∀ p : Event → Bool, (∀ i frame, p (.notify .sensorFlush i frame .errorResult) = false) →
      s.afterFlush.log.countP p = s.log.countP p +
        s.processor.pendingRequests.countP fun r => p (.notify .flush r.id r.frameNumber .errorRequest) := by
    intro p hp
    simp only [Sys.afterFlush, List.countP_append, List.countP_map]
    split
    · rw [countP_notifyOf p hp]; rfl
    · rfl
  refine ⟨hi.ids, fun id => ?_, fun id => ?_, hi.top, hi.vsync, ?_⟩
  · have := hi.fates id
    rw [hlog _ (fun _ _ => rfl), hlog _ (fun _ _ => rfl), hlog _ (fun _ _ => rfl)]
    simp only [Event.flushes, Event.fails, Event.latches, List.countP_false, Function.const_apply,
      Nat.add_zero]
    simp only [countId] at this ⊢
    simp only [Sys.afterFlush, List.countP_nil]
    omega
  · rw [hlog _ (fun _ _ => rfl), hlog _ (fun _ _ => rfl)]
    simpa [Event.swaps, Event.latches] using hi.swaps id
  · intro i j hm
    simp only [Sys.afterFlush, List.mem_append, List.mem_map] at hm
    rcases hm with (hm | hm) | ⟨r, -, hr⟩
    · exact hi.noOverwrite i j hm
    · split at hm
      · rcases hl : s.latched with _ | k <;> simp [hl, notifyOf] at hm
      · exact List.not_mem_nil _ hm
    · cases hr

theorem swap (hi : FateInv s) :
    FateInv { s with
      sensor := ⟨.empty, true⟩
      capture := .readout s.sensor.slot s.latched
      latched := none
      log := s.log ++ [.swap s.latched] } := by
  refine ⟨hi.ids, fun id => ?_, fun id => ?_, fun _ => rfl, fun _ _ => rfl, ?_⟩
  · simpa [Event.flushes, Event.fails, Event.latches] using hi.fates id
  · have := hi.swaps id
    rcases hl : s.latched with _ | i <;> rw [hl] at this
    · simpa [Event.swaps, Event.latches] using this
    · by_cases hi' : i = id
      · subst hi'; simpa [Event.swaps, Event.latches] using this
      · simpa [Event.swaps, Event.latches, hi'] using this
  · simpa using hi.noOverwrite

theorem readout (hi : FateInv s) (taken : Slot) (id : Option Nat) :
    FateInv (s.afterReadout taken id) := by
  unfold Sys.afterReadout
  split
  · exact ⟨hi.ids, hi.fates, hi.swaps, hi.top, hi.vsync, hi.noOverwrite⟩
  · exact ⟨hi.ids, hi.fates, hi.swaps, hi.top, hi.vsync, hi.noOverwrite⟩
  · have h0 : ∀ (p : Event → Bool) (frame : UInt32),
        (∀ i frame, p (.notify .sensor i frame .shutter) = false) →
        (s.log ++ notifyOf .sensor id frame .shutter).countP p = s.log.countP p := by
      intro p frame hp
      rw [List.countP_append, countP_notifyOf p hp, Nat.add_zero]
    refine ⟨hi.ids, fun i => ?_, fun i => ?_, hi.top, hi.vsync, ?_⟩
    · rw [h0 (Event.flushes i) _ (fun _ _ => rfl), h0 (Event.fails i) _ (fun _ _ => rfl),
        h0 (Event.latches i) _ (fun _ _ => rfl)]
      exact hi.fates i
    · rw [h0 (Event.swaps i) _ (fun _ _ => rfl), h0 (Event.latches i) _ (fun _ _ => rfl)]
      exact hi.swaps i
    · intro i j hm
      rcases List.mem_append.mp hm with hm | hm
      · exact hi.noOverwrite i j hm
      · cases id <;> simp [notifyOf] at hm

theorem step {s' : Sys} {a : Act} (hi : FateInv s) (h : GoogleCamera.Emulated.step s a = some s') :
    FateInv s' := by
  cases a with
  | submit t frame count reqs =>
    obtain ⟨-, -, rfl⟩ := step_submit h
    exact hi.processRequestsFrom _ _ _ _ _
  | wake t timedOut =>
    obtain ⟨frame, count, rest, -, -, rfl | rfl⟩ := step_wake h
    · exact ⟨hi.ids, hi.fates, hi.swaps, hi.top, hi.vsync, hi.noOverwrite⟩
    · exact hi.processRequestsFrom _ _ _ _ _
  | service o =>
    obtain ⟨htop, -, rfl⟩ := step_service h
    exact hi.service htop o
  | enterVSync =>
    obtain ⟨-, rfl⟩ := step_enterVSync h
    exact ⟨hi.ids, hi.fates, hi.swaps, nofun, (fun _ h => nomatch h), hi.noOverwrite⟩
  | wakeVSync r =>
    obtain ⟨hv, rfl | ⟨hg, rfl⟩ | rfl⟩ := step_wakeVSync h
    · exact ⟨hi.ids, hi.fates, hi.swaps, nofun, nofun, hi.noOverwrite⟩
    · exact ⟨hi.ids, hi.fates, hi.swaps, fun _ => hi.vsync hv hg, nofun, hi.noOverwrite⟩
    · exact hi
  | flushBegin =>
    obtain ⟨-, rfl⟩ := step_flushBegin h
    exact ⟨hi.ids, hi.fates, hi.swaps, hi.top, (fun _ h => nomatch h), hi.noOverwrite⟩
  | flushWake r =>
    obtain ⟨-, rfl | rfl⟩ := step_flushWake h
    · exact hi
    · exact hi.flush
  | swap =>
    obtain ⟨-, rfl⟩ := step_swap h
    exact hi.swap
  | readout =>
    obtain ⟨taken, id, -, rfl⟩ := step_readout h
    exact hi.readout taken id

end FateInv

theorem reachable_fateInv {s : Sys} (h : Reachable s) : FateInv s := by
  induction h with
  | init => exact fateInv_init
  | step _ hs ih => exact ih.step hs

/-! ### The `ERROR_RESULT` of `EmulatedSensor::Flush` -/

/-- Each `ERROR_RESULT` that `EmulatedSensor::Flush` has sent, or would send now, is matched by a
latch of its request. -/
def FlushNoticeInv (s : Sys) : Prop :=
  ∀ id, s.log.countP (Event.sensorFails id) + s.flushNotice.countP (Event.sensorFails id) ≤
    s.log.countP (Event.latches id)

namespace FlushNoticeInv

variable {s : Sys}

/-- A step that keeps the slot and the latched id, and logs no `ERROR_RESULT` of
`EmulatedSensor::Flush`, keeps the invariant. -/
theorem congr {s' : Sys} (hi : FlushNoticeInv s) (hs : s'.sensor.slot = s.sensor.slot)
    (hl : s'.latched = s.latched) (l : List Event) (hg : s'.log = s.log ++ l)
    (hq : ∀ id, l.countP (Event.sensorFails id) = 0) : FlushNoticeInv s' := fun id => by
  have hn : s'.flushNotice = s.flushNotice := by simp only [Sys.flushNotice, hs, hl]
  rw [hn, hg, List.countP_append, List.countP_append, hq, Nat.add_zero]
  exact Nat.le_trans (hi id) (Nat.le_add_right _ _)

/-- A step that keeps the slot, the latched id and the log keeps the invariant. -/
theorem frame {s' : Sys} (hi : FlushNoticeInv s) (hs : s'.sensor.slot = s.sensor.slot)
    (hl : s'.latched = s.latched) (hg : s'.log = s.log) : FlushNoticeInv s' :=
  hi.congr hs hl [] (hg.trans (List.append_nil _).symm) fun _ => rfl

theorem service (hi : FlushNoticeInv s) (o : LoopOracle) :
    FlushNoticeInv (s.afterService (serviceRequest o s.processor)) := by
  cases serviceRequest o s.processor with
  | idle => exact hi.frame rfl rfl rfl
  | fault => exact hi.frame rfl rfl rfl
  | failed r ap p => exact hi.congr rfl rfl _ (List.append_assoc _ _ _) fun _ => by cases ap <;> rfl
  | latched r ap next p =>
    intro id
    have h2 := (s.afterService (.latched r ap next p)).flushNotice_sensorFails_le id
    generalize (s.afterService (.latched r ap next p)).flushNotice = n at h2 ⊢
    have := hi id
    simp only [Sys.afterService, List.countP_append, List.countP_cons, List.countP_nil,
      Event.sensorFails, Event.latches, Option.some.injEq, beq_iff_eq, Bool.false_eq_true,
      if_false] at h2 ⊢
    split_ifs at h2 ⊢ <;> omega

theorem flush (hi : FlushNoticeInv s) : FlushNoticeInv s.afterFlush := fun id => by
  have hn : s.afterFlush.flushNotice = [] := by
    simp only [Sys.flushNotice, Sys.afterFlush, flushSlot_flushSlot]
  have h0 : (s.processor.pendingRequests.map fun r =>
      Event.notify .flush r.id r.frameNumber .errorRequest).countP (Event.sensorFails id) = 0 := by
    simp [List.countP_map, Function.comp_def, Event.sensorFails]
  have := hi id
  rw [hn, Sys.afterFlush_log]
  simp only [List.countP_append, h0, List.countP_nil, Nat.add_zero]
  omega

theorem swap (hi : FlushNoticeInv s) :
    FlushNoticeInv { s with
      sensor := ⟨.empty, true⟩
      capture := .readout s.sensor.slot s.latched
      latched := none
      log := s.log ++ [.swap s.latched] } := fun id => by
  have := hi id
  simp only [Sys.flushNotice, flushSlot_empty, List.countP_nil, List.countP_append,
    List.countP_cons, Event.sensorFails, Event.latches] at this ⊢
  omega

theorem readout (hi : FlushNoticeInv s) (taken : Slot) (id : Option Nat) :
    FlushNoticeInv (s.afterReadout taken id) := by
  unfold Sys.afterReadout
  split
  · exact hi.frame rfl rfl rfl
  · exact hi.frame rfl rfl rfl
  · exact hi.congr rfl rfl _ rfl fun _ => by cases id <;> rfl

theorem step {s' : Sys} {a : Act} (hi : FlushNoticeInv s)
    (h : GoogleCamera.Emulated.step s a = some s') : FlushNoticeInv s' := by
  cases a with
  | submit =>
    obtain ⟨-, -, rfl⟩ := step_submit h
    exact hi.frame (by simp) (by simp) (by simp)
  | wake =>
    obtain ⟨-, -, -, -, -, rfl | rfl⟩ := step_wake h <;>
      exact hi.frame (by simp) (by simp) (by simp)
  | service o =>
    obtain ⟨-, -, rfl⟩ := step_service h
    exact hi.service o
  | enterVSync =>
    obtain ⟨-, rfl⟩ := step_enterVSync h
    exact hi.frame rfl rfl rfl
  | wakeVSync =>
    obtain ⟨-, rfl | ⟨-, rfl⟩ | rfl⟩ := step_wakeVSync h <;>
      exact hi.frame rfl rfl rfl
  | flushBegin =>
    obtain ⟨-, rfl⟩ := step_flushBegin h
    exact hi.frame rfl rfl rfl
  | flushWake =>
    obtain ⟨-, rfl | rfl⟩ := step_flushWake h
    exacts [hi, hi.flush]
  | swap =>
    obtain ⟨-, rfl⟩ := step_swap h
    exact hi.swap
  | readout =>
    obtain ⟨taken, id, -, rfl⟩ := step_readout h
    exact hi.readout taken id

end FlushNoticeInv

theorem reachable_flushNoticeInv {s : Sys} (h : Reachable s) : FlushNoticeInv s := by
  induction h with
  | init => intro id; simp [Sys.init, Sys.flushNotice]
  | step _ hs ih => exact ih.step hs

end GoogleCamera.Emulated
