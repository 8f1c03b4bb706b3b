import GoogleCamera.Emulated.Admission
import GoogleCamera.Emulated.Mailbox

/-!
# The order of notifications across the loop and the capture thread

The loop answers a request it cannot latch with `ERROR_RESULT` inside its critical section; the
capture thread sends the shutter of a latched request after its swap, outside any lock:

    std::swap(settings, current_settings_);   ...
    got_vsync_ = true;
    vsync_.signal();
    }                                         // control_mutex_ released
    ...
    callback.notify(next_result->pipeline_id, msg);   // the shutter

The signal lets the loop go on to the next request before the shutter of the one just taken
is out. If that next request fails, its `ERROR_RESULT` can come first
(`error_result_before_earlier_shutter`). What does hold, over every interleaving and every
outcome of every wait, is that a request's notifications come after every request admitted
before it has been *sealed*: answered with `ERROR_REQUEST` or `ERROR_RESULT`, or taken by a
swap (`notifications_after_earlier_sealed`).

The invariant `OrderInv` also says that `pending_requests_` is a suffix of the admission
history, so requests leave it in admission order, and what the slot can hold (`slot_shapes`):
nothing when no request is latched; otherwise a whole request, or what `EmulatedSensor::Flush`
leaves of one (`Slot.Cleared`), whose result has metadata. A cleared slot is reachable, and the capture thread's next swap and readout then fault on
`next_buffers->at(0)` (`slot_cleared_reachable`).

With `FateInv` and `FlushNoticeInv`, this gives the fate of each request (`request_fates`): the
requests popped from the front of the queue have met exactly one fate each, the pending ones
none. The `ERROR_RESULT` that `EmulatedSensor::Flush` sends for the slot's request goes to a
request that was latched, so a request can be both latched and errored
(`latched_request_errored_by_sensor_flush`).
-/

namespace GoogleCamera.Emulated

/-! ### Notifications and seals in the log -/

/-- `e` is a notification for request `g`. -/
def Event.notifies (g : Nat) : Event → Bool
  | .notify _ i _ _ => i == g
  | _ => false

/-- `e` seals request `f`: an error notification for it, or the swap that takes it. -/
def Event.seals (f : Nat) : Event → Bool
  | .notify _ i _ .errorRequest => i == f
  | .notify _ i _ .errorResult => i == f
  | .swap (some i) => i == f
  | _ => false

/-- Some event of `log` seals request `f`. -/
def Sealed (log : List Event) (f : Nat) : Prop := ∃ e ∈ log, e.seals f = true

/-- Every notification for a request comes after events that seal every request admitted
before it. -/
def NotifiedInOrder (log : List Event) : Prop :=
  ∀ pre e post g, log = pre ++ e :: post → e.notifies g = true → ∀ f < g, Sealed pre f

theorem Sealed.append {log : List Event} {f : Nat} (h : Sealed log f) (l : List Event) :
    Sealed (log ++ l) f :=
  let ⟨e, he, hs⟩ := h
  ⟨e, List.mem_append_left _ he, hs⟩

theorem sealed_of_mem {log : List Event} {e : Event} {f : Nat} (he : e ∈ log)
    (hs : e.seals f = true) : Sealed log f :=
  ⟨e, he, hs⟩

theorem notifiedInOrder_nil : NotifiedInOrder [] := fun pre e post _ h => by
  cases pre <;> cases h

theorem NotifiedInOrder.snoc {log : List Event} {e : Event} (h : NotifiedInOrder log)
    (he : ∀ g, e.notifies g = true → ∀ f < g, Sealed log f) : NotifiedInOrder (log ++ [e]) := by
  intro pre e' post g heq hn
  rcases List.eq_nil_or_concat post with rfl | ⟨L, b, rfl⟩
  · obtain ⟨rfl, he'⟩ := List.append_inj' heq rfl
    cases he'
    exact he g hn
  · rw [List.concat_eq_append, ← List.cons_append, ← List.append_assoc] at heq
    obtain ⟨hlog, -⟩ := List.append_inj' heq rfl
    exact h pre e' L g hlog hn

/-- Appending events keeps the order when each new notification has its seals before it. -/
theorem NotifiedInOrder.append {log : List Event} (h : NotifiedInOrder log) :
    ∀ {l : List Event}, (∀ pre e post g, l = pre ++ e :: post → e.notifies g = true →
      ∀ f < g, Sealed (log ++ pre) f) → NotifiedInOrder (log ++ l)
  | [], _ => by simpa using h
  | x :: l, hl => by
    have hx := h.snoc fun g hn f hf => by simpa using hl [] x l g rfl hn f hf
    rw [← List.singleton_append, ← List.append_assoc]
    refine hx.append fun pre e post g heq hn f hf => ?_
    rw [List.append_assoc, List.singleton_append]
    exact hl (x :: pre) e post g (by rw [heq]; rfl) hn f hf

/-- Events that notify nobody keep the order. -/
theorem NotifiedInOrder.append_silent {log l : List Event} (h : NotifiedInOrder log)
    (hl : ∀ e ∈ l, ∀ g, e.notifies g = false) : NotifiedInOrder (log ++ l) :=
  h.append fun pre e post g heq hn => by
    have := hl e (by rw [heq]; exact List.mem_append_right _ (.head _)) g
    rw [this] at hn
    cases hn

/-- `Flush`'s `ERROR_REQUEST`s for requests `k, k + 1, …`, sent in order once every request
before `k` is sealed, keep the order and seal them. -/
theorem NotifiedInOrder.append_flushes {log : List Event} (h : NotifiedInOrder log) :
    ∀ {rs : List PendingRequest} {k : Nat}, rs.map PendingRequest.id = List.range' k rs.length →
      (∀ f < k, Sealed log f) →
      NotifiedInOrder (log ++ rs.map fun r => .notify .flush r.id r.frameNumber .errorRequest) ∧
        ∀ f < k + rs.length, Sealed (log ++ rs.map fun r => .notify .flush r.id r.frameNumber .errorRequest) f
  | [], k, _, hs => by simpa using And.intro h hs
  | r :: rs, k, hids, hs => by
    simp only [List.map_cons, List.length_cons, List.range'_succ, List.cons.injEq] at hids
    have hnew : ∀ f < k + 1, Sealed (log ++ [.notify .flush r.id r.frameNumber .errorRequest]) f := by
      intro f hf
      rcases Nat.lt_succ_iff_lt_or_eq.mp hf with hf | rfl
      · exact (hs f hf).append _
      · exact sealed_of_mem (List.mem_append_right _ (.head _)) (by simp [Event.seals, hids.1])
    have h1 : NotifiedInOrder (log ++ [.notify .flush r.id r.frameNumber .errorRequest]) :=
      h.snoc fun g hn f hf => hs f (by
      simp only [Event.notifies, beq_iff_eq, hids.1] at hn; omega)
    obtain ⟨h2, h3⟩ := h1.append_flushes hids.2 hnew
    simp only [List.map_cons, List.append_assoc, List.singleton_append, List.length_cons] at h2 h3 ⊢
    exact ⟨h2, fun f hf => h3 f (by omega)⟩

/-! ### The invariant -/

/-- What holds of every reachable state, beside `FateInv`. -/
structure OrderInv (s : Sys) : Prop where
  /-- `pending_requests_` is what is left of the history once its front has been popped. -/
  suffix : ∃ pre, s.processor.admittedRequests = pre ++ s.processor.pendingRequests
  /-- An admitted request that is neither pending nor in the slot is sealed. -/
  removed : ∀ f, f < s.processor.admittedRequests.length →
    (∀ r ∈ s.processor.pendingRequests, r.id ≠ f) → s.latched ≠ some f → Sealed s.log f
  /-- Once a request has been latched, every request admitted before it is sealed. -/
  afterLatch : ∀ g, 0 < s.log.countP (Event.latches g) → ∀ f < g, Sealed s.log f
  /-- With nothing latched the slot is empty. -/
  empty : s.latched = none → s.sensor.slot = .empty
  /-- A latched request is whole in the slot, or what `Flush` leaves of it, and its result has
  metadata. -/
  held : ∀ f, s.latched = some f → (s.sensor.slot.Full ∨ s.sensor.slot.Cleared) ∧
    ∃ res, s.sensor.slot.result = some res ∧ res.resultMetadata.isSome = true
  /-- A latched request that `Flush` has cleared is sealed. -/
  cleared : ∀ f, s.latched = some f → s.sensor.slot.Cleared → Sealed s.log f
  /-- The capture thread reads out only a request that was latched. -/
  captured : ∀ taken g, s.capture = .readout taken (some g) → 0 < s.log.countP (Event.latches g)
  /-- The log keeps the order. -/
  inOrder : NotifiedInOrder s.log

theorem orderInv_init : OrderInv Sys.init :=
  ⟨⟨[], rfl⟩, fun _ h => absurd h (Nat.not_lt_zero _), fun _ h => absurd h (Nat.lt_irrefl 0),
    fun _ => rfl, nofun, nofun, nofun, notifiedInOrder_nil⟩

/-- The requests pending are the next ones after those already popped. -/
theorem pending_ids {s : Sys} (hf : FateInv s) {pre : List PendingRequest}
    (hpre : s.processor.admittedRequests = pre ++ s.processor.pendingRequests) :
    s.processor.pendingRequests.map PendingRequest.id =
      List.range' pre.length s.processor.pendingRequests.length := by
  have h := hf.ids
  rw [hpre, List.map_append, List.length_append, List.range_add, ← List.range'_eq_map_range] at h
  exact (List.append_inj' h (by simp)).2

/-- A request popped before the front of the queue is not pending. -/
theorem not_pending_of_lt {s : Sys} (hf : FateInv s) {pre : List PendingRequest}
    (hpre : s.processor.admittedRequests = pre ++ s.processor.pendingRequests) {f : Nat}
    (hf' : f < pre.length) : ∀ r ∈ s.processor.pendingRequests, r.id ≠ f := by
  intro r hr hrf
  have : r.id ∈ List.range' pre.length s.processor.pendingRequests.length := by
    rw [← pending_ids hf hpre]; exact List.mem_map_of_mem _ hr
  rw [List.mem_range'_1] at this
  omega

theorem countP_latches_append {log l : List Event} {g : Nat} (h : ∀ e ∈ l, e.latches g = false) :
    (log ++ l).countP (Event.latches g) = log.countP (Event.latches g) := by
  have h0 : l.countP (Event.latches g) = 0 := List.countP_eq_zero.mpr (by simpa using h)
  rw [List.countP_append, h0, Nat.add_zero]

/-- Every request admitted before the front of the queue is sealed when nothing is latched. -/
theorem sealed_before_front {s : Sys} (hi : OrderInv s) (hf : FateInv s) (hl : s.latched = none)
    {r : PendingRequest} {rest : List PendingRequest} (hpend : s.processor.pendingRequests = r :: rest) :
    ∀ f < r.id, Sealed s.log f := by
  obtain ⟨pre, hpre⟩ := hi.suffix
  have hr : r.id = pre.length := by
    have := pending_ids hf hpre
    rw [hpend, List.map_cons, List.length_cons, List.range'_succ] at this
    exact (List.cons.inj this).1
  intro f hfr
  refine hi.removed f ?_ (not_pending_of_lt hf hpre (hr ▸ hfr)) (by rw [hl]; nofun)
  rw [hpre, List.length_append]
  omega

theorem Sys.flushNotice_latches (s : Sys) (g : Nat) : ∀ e ∈ s.flushNotice, e.latches g = false := by
  unfold Sys.flushNotice
  split
  · cases s.latched <;> simp [notifyOf, Event.latches]
  · nofun

/-- `Flush` notifies only the request in the slot. -/
theorem Sys.flushNotice_notifies (s : Sys) :
    ∀ e ∈ s.flushNotice, ∀ g, e.notifies g = true → s.latched = some g := by
  unfold Sys.flushNotice
  split
  · cases s.latched <;> simp [notifyOf, Event.notifies]
  · nofun

/-- Once `Flush` is through the slot, the request latched in it is sealed. -/
theorem sealed_flushNotice {s : Sys} (hi : OrderInv s) {f : Nat} (hl : s.latched = some f) :
    Sealed (s.log ++ s.flushNotice) f := by
  obtain ⟨hfc | hc, hmeta⟩ := hi.held f hl
  · obtain ⟨b, hb⟩ := (flushSlot_of_full hfc).2.2 hmeta
    have : s.flushNotice = [.notify .sensorFlush f b.frameNumber .errorResult] := by
      simp [Sys.flushNotice, hb, hl, notifyOf]
    rw [this]
    exact sealed_of_mem (List.mem_append_right _ (.head _)) (by simp [Event.seals])
  · exact (hi.cleared f hl hc).append _

namespace OrderInv

variable {s : Sys}

/-- A step that changes none of what the invariant reads keeps it. -/
theorem congr {s' : Sys} (hi : OrderInv s) (hp : s'.processor = s.processor)
    (hs : s'.sensor.slot = s.sensor.slot) (hl : s'.latched = s.latched) (hg : s'.log = s.log)
    (hc : s'.capture = s.capture ∨ s'.capture = .top) : OrderInv s' := by
  obtain ⟨h1, h2, h3, h4, h5, h6, h7, h8⟩ := hi
  refine ⟨?_, ?_, ?_, ?_, ?_, ?_, fun taken g hcap => ?_, ?_⟩ <;> simp only [hp, hs, hl, hg] <;>
    try assumption
  rcases hc with hc | hc <;> rw [hc] at hcap
  · exact h7 taken g hcap
  · cases hcap

theorem processRequestsFrom (hi : OrderInv s) (t : Nat) (frame : UInt32) (count : Nat) (checked : Bool)
    (reqs : List (PipelineRequest × Collab)) :
    OrderInv (s.afterAdmission t frame count (processRequestsFrom frame count checked reqs s.processor)) := by
  obtain ⟨pushed, hpend, hadm, hids, -, -⟩ := processRequestsFrom_pushes frame count checked reqs s.processor
  obtain ⟨pre, hpre⟩ := hi.suffix
  refine ⟨⟨pre, by simp [hadm, hpend, hpre]⟩, fun f hf hp hl => ?_, by simpa using hi.afterLatch,
    by simpa using hi.empty, by simpa using hi.held, by simpa using hi.cleared,
    by simpa using hi.captured, by simpa using hi.inOrder⟩
  simp only [Sys.afterAdmission_processor, Sys.afterAdmission_latched, Sys.afterAdmission_log,
    hadm, hpend, List.length_append, List.mem_append] at hf hp hl ⊢
  refine hi.removed f ?_ (fun r hr => hp r (.inl hr)) hl
  by_contra hge
  have : f ∈ pushed.map PendingRequest.id := by rw [hids, List.mem_range'_1]; omega
  obtain ⟨r, hr, rfl⟩ := List.mem_map.mp this
  exact hp r (.inr hr) rfl

theorem service (hi : OrderInv s) (hf : FateInv s) (htop : s.loop = .top) (o : LoopOracle) :
    OrderInv (s.afterService (serviceRequest o s.processor)) := by
  have hl := hf.top htop
  obtain ⟨pre, hpre⟩ := hi.suffix
  have hpop : ∀ {r : PendingRequest} {p : Processor}, s.processor.pendingRequests = r :: p.pendingRequests →
      p.admittedRequests = s.processor.admittedRequests →
      (∃ pre', p.admittedRequests = pre' ++ p.pendingRequests) ∧
        ∀ f, (∀ r' ∈ p.pendingRequests, r'.id ≠ f) → r.id ≠ f →
          ∀ r' ∈ s.processor.pendingRequests, r'.id ≠ f := by
    intro r p hpend hadm
    refine ⟨⟨pre ++ [r], by rw [hadm, hpre, hpend]; simp⟩, fun f hp hrf r' hr' => ?_⟩
    rw [hpend] at hr'
    rcases List.mem_cons.mp hr' with rfl | hr'
    · exact hrf
    · exact hp r' hr'
  cases hsv : serviceRequest o s.processor with
  | idle => exact hi.congr rfl rfl rfl rfl (.inl rfl)
  | fault => exact hi.congr rfl rfl rfl rfl (.inl rfl)
  | failed r ap p =>
    obtain ⟨hpend, hadm⟩ := serviceRequest_failed hsv
    obtain ⟨hsuf, hnp⟩ := hpop hpend hadm
    have hb := sealed_before_front hi hf hl hpend
    have hc : ∀ g, (s.afterService (.failed r ap p)).log.countP (Event.latches g) =
        s.log.countP (Event.latches g) := fun g => by
      simp only [Sys.afterService]
      rw [List.append_assoc, countP_latches_append (by cases ap <;> simp [Event.latches])]
    refine ⟨hsuf, fun f hf' hp hl' => ?_, fun g hg f hfg => ?_, hi.empty, hi.held,
      fun f hl' hcl => ((hi.cleared f hl' hcl).append _).append _,
      fun taken g hcap => (hc g).symm ▸ hi.captured taken g hcap, ?_⟩
    · by_cases hrf : r.id = f
      · exact sealed_of_mem (List.mem_append_right _ (.head _)) (by simp [Event.seals, hrf])
      · exact ((hi.removed f (hadm ▸ hf') (hnp f hp hrf) hl').append _).append _
    · exact ((hi.afterLatch g ((hc g) ▸ hg) f hfg).append _).append _
    · refine (hi.inOrder.append_silent (by cases ap <;> simp [Event.notifies])).snoc fun g hn f hfg => ?_
      simp only [Event.notifies, beq_iff_eq] at hn
      exact (hb f (hn ▸ hfg)).append _
  | latched r ap next p =>
    obtain ⟨hpend, hadm, hfull, hmeta⟩ := serviceRequest_latched hsv
    obtain ⟨hsuf, hnp⟩ := hpop hpend hadm
    have hb := sealed_before_front hi hf hl hpend
    refine ⟨hsuf, fun f hf' hp hl' => ?_, fun g hg f hfg => ?_, nofun,
      fun f _ => ⟨.inl hfull, hmeta⟩, fun f _ hcl => absurd hcl (Slot.not_cleared_of_full hfull),
      fun taken g hcap => ?_, hi.inOrder.append_silent (by simp [Event.notifies])⟩
    · have hrf : r.id ≠ f := fun h => hl' (congrArg some h)
      exact (hi.removed f (hadm ▸ hf') (hnp f hp hrf) (by rw [hl]; nofun)).append _
    · rcases Nat.eq_zero_or_pos (s.log.countP (Event.latches g)) with h0 | h0
      · simp only [Sys.afterService, List.countP_append, h0] at hg
        have hrg : r.id = g := by simpa [Event.latches] using hg
        exact (hb f (hrg ▸ hfg)).append _
      · exact (hi.afterLatch g h0 f hfg).append _
    · exact Nat.lt_of_lt_of_le (hi.captured taken g hcap)
        ((List.sublist_append_left _ _).countP_le _)

theorem flush (hi : OrderInv s) (hf : FateInv s) : OrderInv s.afterFlush := by
  obtain ⟨pre, hpre⟩ := hi.suffix
  have hc : ∀ g, s.afterFlush.log.countP (Event.latches g) = s.log.countP (Event.latches g) :=
    fun g => by
      rw [Sys.afterFlush_log, List.append_assoc, countP_latches_append]
      intro e he
      rcases List.mem_append.mp he with he | he
      · exact s.flushNotice_latches g e he
      · obtain ⟨r, -, rfl⟩ := List.mem_map.mp he
        rfl
  have hbefore : ∀ f < pre.length, Sealed (s.log ++ s.flushNotice) f := by
    intro f hfk
    by_cases hlf : s.latched = some f
    · exact sealed_flushNotice hi hlf
    · refine (hi.removed f ?_ (not_pending_of_lt hf hpre hfk) hlf).append _
      rw [hpre, List.length_append]
      omega
  have hnotice : NotifiedInOrder (s.log ++ s.flushNotice) :=
    hi.inOrder.append fun pre e post g heq hn f hfg => by
      have hl := s.flushNotice_notifies e (by rw [heq]; exact List.mem_append_right _ (.head _)) g hn
      have hlat : 0 < s.log.countP (Event.latches g) := by
        have := hf.swaps g
        rw [hl, if_pos rfl] at this
        omega
      exact (hi.afterLatch g hlat f hfg).append _
  refine ⟨⟨s.processor.admittedRequests, by simp [Sys.afterFlush]⟩, fun f hf' hp hl' => ?_,
    fun g hg f hfg => ?_, fun hl => ?_, fun f hl => ?_, fun f hl _ => ?_,
    fun taken g hcap => (hc g).symm ▸ hi.captured taken g hcap, ?_⟩
  · rw [Sys.afterFlush_log]
    by_cases hpf : ∃ r ∈ s.processor.pendingRequests, r.id = f
    · obtain ⟨r, hr, rfl⟩ := hpf
      exact sealed_of_mem (List.mem_append_right _ (List.mem_map_of_mem _ hr)) (by simp [Event.seals])
    · push_neg at hpf
      exact ((hi.removed f hf' hpf hl').append _).append _
  · rw [Sys.afterFlush_log]
    exact ((hi.afterLatch g ((hc g) ▸ hg) f hfg).append _).append _
  · show (flushSlot s.sensor.slot).1 = .empty
    rw [hi.empty hl]
    rfl
  · show ((flushSlot s.sensor.slot).1.Full ∨ (flushSlot s.sensor.slot).1.Cleared) ∧
      ∃ res, (flushSlot s.sensor.slot).1.result = some res ∧ res.resultMetadata.isSome = true
    obtain ⟨hfc | hcl, hmeta⟩ := hi.held f hl
    · obtain ⟨hc', hr, -⟩ := flushSlot_of_full hfc
      exact ⟨.inr hc', hr ▸ hmeta⟩
    · obtain ⟨hc', hr, -⟩ := flushSlot_of_cleared hcl
      exact ⟨.inr hc', hr ▸ hmeta⟩
  · rw [Sys.afterFlush_log]
    exact (sealed_flushNotice hi hl).append _
  · rw [Sys.afterFlush_log]
    have hids := pending_ids hf hpre
    exact (hnotice.append_flushes hids hbefore).1

theorem swap (hi : OrderInv s) (hf : FateInv s) :
    OrderInv { s with
      sensor := ⟨.empty, true⟩
      capture := .readout s.sensor.slot s.latched
      latched := none
      log := s.log ++ [.swap s.latched] } := by
  have hc : ∀ g, (s.log ++ [Event.swap s.latched]).countP (Event.latches g) = s.log.countP (Event.latches g) :=
    fun g => countP_latches_append (by simp [Event.latches])
  refine ⟨hi.suffix, fun f hf' hp _ => ?_, fun g hg f hfg => ((hi.afterLatch g ((hc g) ▸ hg) f hfg).append _),
    fun _ => rfl, nofun, nofun, fun taken g hcap => ?_, hi.inOrder.append_silent (by simp [Event.notifies])⟩
  · by_cases hlf : s.latched = some f
    · exact sealed_of_mem (List.mem_append_right _ (.head _)) (by simp [hlf, Event.seals])
    · exact (hi.removed f hf' hp hlf).append _
  · have hlg : s.latched = some g := (CapturePc.readout.inj hcap).2
    have := hf.swaps g
    rw [hlg, if_pos rfl] at this
    show 0 < (s.log ++ [Event.swap s.latched]).countP (Event.latches g)
    rw [hc]
    omega

theorem readout (hi : OrderInv s) {taken : Slot} {id : Option Nat}
    (hcap : s.capture = .readout taken id) : OrderInv (s.afterReadout taken id) := by
  unfold Sys.afterReadout
  split
  · exact hi.congr rfl rfl rfl rfl (.inr rfl)
  · exact hi.congr rfl rfl rfl rfl (.inl rfl)
  · next b _ _ =>
    cases id with
    | none => exact hi.congr rfl rfl rfl (List.append_nil _) (.inr rfl)
    | some g =>
      have hc : ∀ g', (s.log ++ [Event.notify .sensor g b.frameNumber .shutter]).countP (Event.latches g') =
          s.log.countP (Event.latches g') := fun g' => countP_latches_append (by simp [Event.latches])
      refine ⟨hi.suffix, fun f hf' hp hl => (hi.removed f hf' hp hl).append _,
        fun g' hg f hfg => (hi.afterLatch g' ((hc g') ▸ hg) f hfg).append _, hi.empty, hi.held,
        fun f hl hcl => (hi.cleared f hl hcl).append _, nofun, ?_⟩
      exact hi.inOrder.snoc fun g' hn f hfg => by
        simp only [Event.notifies, beq_iff_eq] at hn
        exact hi.afterLatch g (hi.captured taken g hcap) f (hn ▸ hfg)

theorem step {s' : Sys} {a : Act} (hi : OrderInv s) (hf : FateInv s)
    (h : GoogleCamera.Emulated.step s a = some s') : OrderInv s' := by
  cases a with
  | submit => obtain ⟨-, -, rfl⟩ := step_submit h; exact hi.processRequestsFrom _ _ _ _ _
  | wake =>
    obtain ⟨-, -, -, -, -, rfl | rfl⟩ := step_wake h
    · exact hi.congr rfl rfl rfl rfl (.inl rfl)
    · exact hi.processRequestsFrom _ _ _ _ _
  | service o => obtain ⟨htop, -, rfl⟩ := step_service h; exact hi.service hf htop o
  | enterVSync => obtain ⟨-, rfl⟩ := step_enterVSync h; exact hi.congr rfl rfl rfl rfl (.inl rfl)
  | wakeVSync =>
    obtain ⟨-, rfl | ⟨-, rfl⟩ | rfl⟩ := step_wakeVSync h <;> exact hi.congr rfl rfl rfl rfl (.inl rfl)
  | flushBegin => obtain ⟨-, rfl⟩ := step_flushBegin h; exact hi.congr rfl rfl rfl rfl (.inl rfl)
  | flushWake => obtain ⟨-, rfl | rfl⟩ := step_flushWake h; exacts [hi, hi.flush hf]
  | swap => obtain ⟨-, rfl⟩ := step_swap h; exact hi.swap hf
  | readout => obtain ⟨taken, id, hcap, rfl⟩ := step_readout h; exact hi.readout hcap

end OrderInv

theorem reachable_orderInv {s : Sys} (h : Reachable s) : OrderInv s := by
  induction h with
  | init => exact orderInv_init
  | step hs hstep ih => exact ih.step (reachable_fateInv hs) hstep

/-! ### The order of notifications -/

/-- Every notification for a request (its shutter, an `ERROR_RESULT` or an `ERROR_REQUEST`)
comes after, for each request admitted before it, an `ERROR_REQUEST` or `ERROR_RESULT` for that
request or the swap that took it to the capture thread. -/
theorem notifications_after_earlier_sealed {s : Sys} (h : Reachable s) :
    ∀ pre e post g, s.log = pre ++ e :: post → e.notifies g = true →
      ∀ f < g, ∃ e' ∈ pre, e'.seals f = true :=
  (reachable_orderInv h).inOrder

/-- Frames 1 and 2 are admitted; frame 1 is latched and swapped out; the loop, woken by the
swap, answers frame 2 with `ERROR_RESULT` before the capture thread sends frame 1's shutter. -/
def errorResultFirst : List Act :=
  [.submit 0 1 1 [(.single 0 (some .empty), .accepting)],
   .submit 1 2 1 [(.single 0 (some .empty), .accepting)],
   .service .latching, .enterVSync, .swap, .wakeVSync .ok, .service .fencesFail, .readout]

theorem reachable_errorResultFirst : Reachable (Sys.after errorResultFirst) :=
  reachable_after (by decide)

theorem notifications_after_earlier_sealed_errorResultFirst :
    Reachable (Sys.after errorResultFirst) ∧
      ∀ pre e post g, (Sys.after errorResultFirst).log = pre ++ e :: post → e.notifies g = true →
        ∀ f < g, ∃ e' ∈ pre, e'.seals f = true :=
  ⟨reachable_errorResultFirst, notifications_after_earlier_sealed reachable_errorResultFirst⟩

/-- The first notification of request 1 (frame 2) comes before the first of request 0
(frame 1). -/
theorem error_result_before_earlier_shutter :
    ∃ s, Reachable s ∧ decide (s.log.findIdx (Event.notifies 1) < s.log.findIdx (Event.notifies 0) ∧
      s.log.findIdx (Event.notifies 0) < s.log.length) = true :=
  @exists_reachable_of_run _ errorResultFirst (by decide)

/-! ### What the slot holds -/

/-- The slot is empty, holds a whole request, or holds what `Flush` leaves of one. -/
theorem slot_shapes {s : Sys} (h : Reachable s) :
    s.sensor.slot = .empty ∨ s.sensor.slot.Full ∨ s.sensor.slot.Cleared := by
  have hi := reachable_orderInv h
  cases hl : s.latched with
  | none => exact .inl (hi.empty hl)
  | some f => exact .inr (hi.held f hl).1

/-- Frame 1 is latched, then `Flush` starts and its vsync wait returns an error. -/
def flushAfterLatch : List Act :=
  [.submit 0 1 1 [(.single 0 (some .empty), .accepting)], .service .latching, .flushBegin,
   .flushWake .error]

theorem slot_shapes_flushAfterLatch :
    Reachable (Sys.after flushAfterLatch) ∧
      ((Sys.after flushAfterLatch).sensor.slot = .empty ∨ (Sys.after flushAfterLatch).sensor.slot.Full ∨
        (Sys.after flushAfterLatch).sensor.slot.Cleared) :=
  have h : Reachable (Sys.after flushAfterLatch) := reachable_after (by decide)
  ⟨h, slot_shapes h⟩

/-- After a `Flush` whose vsync wait failed, the slot holds settings and an empty output list,
and the capture thread's next swap and readout fault. -/
theorem slot_cleared_reachable :
    ∃ s, Reachable s ∧ (s.sensor.slot.settings.isSome && decide (s.sensor.slot.outputBuffers = some []) &&
      decide ((run s [.swap, .readout]).map Sys.fault = some (some .captureAccess))) = true :=
  @exists_reachable_of_run _ flushAfterLatch (by decide)

/-! ### The fate of each request -/

/-- The fates of request `id` in the log: an `ERROR_REQUEST` from `Flush`, an `ERROR_RESULT`
from the loop, and latches. -/
def Sys.fateCount (s : Sys) (id : Nat) : Nat :=
  s.log.countP (Event.flushes id) + s.log.countP (Event.fails id) + s.log.countP (Event.latches id)

/-- Each request is pushed to `pending_requests_` once. Those popped from its front have met
exactly one fate, those still pending none. A latched request is still in the slot or was taken
by exactly one swap, and no latch found an untaken request in the slot. `EmulatedSensor::Flush`
sends an `ERROR_RESULT` only to a request that was latched, and at most once per latch. -/
theorem request_fates {s : Sys} (h : Reachable s) :
    ∃ popped, s.processor.admittedRequests = popped ++ s.processor.pendingRequests ∧
      (s.processor.admittedRequests.map PendingRequest.id).Nodup ∧
      (∀ r ∈ popped, s.fateCount r.id = 1) ∧
      (∀ r ∈ s.processor.pendingRequests, s.fateCount r.id = 0) ∧
      (∀ id, s.log.countP (Event.swaps id) + (if s.latched = some id then 1 else 0) =
        s.log.countP (Event.latches id)) ∧
      (∀ id, s.log.countP (Event.sensorFails id) ≤ s.log.countP (Event.latches id)) ∧
      ∀ i j, Event.latch i (some j) ∉ s.log := by
  have hf := reachable_fateInv h
  obtain ⟨popped, hpre⟩ := (reachable_orderInv h).suffix
  have hnd : (s.processor.admittedRequests.map PendingRequest.id).Nodup :=
    hf.ids ▸ List.nodup_range _
  obtain ⟨-, hndp, hdisj⟩ := List.nodup_append.mp (by rwa [hpre, List.map_append] at hnd)
  -- An admitted request, admitted once, is still pending or has met its one fate.
  have hsum : ∀ r ∈ s.processor.admittedRequests,
      countId r.id s.processor.pendingRequests + s.fateCount r.id = 1 := fun r hr => by
    have := hf.fates r.id
    rw [(countId_eq_count _ _).trans (List.count_eq_one_of_mem hnd (List.mem_map_of_mem _ hr))]
      at this
    unfold Sys.fateCount
    omega
  refine ⟨popped, hpre, hnd, fun r hr => ?_, fun r hr => ?_, hf.swaps,
    fun id => Nat.le_trans (Nat.le_add_right _ _) (reachable_flushNoticeInv h id), hf.noOverwrite⟩
  · have h0 : countId r.id s.processor.pendingRequests = 0 :=
      (countId_eq_count _ _).trans (List.count_eq_zero_of_not_mem (hdisj (List.mem_map_of_mem _ hr)))
    have := hsum r (hpre ▸ List.mem_append_left _ hr)
    omega
  · have h1 : countId r.id s.processor.pendingRequests = 1 :=
      (countId_eq_count _ _).trans (List.count_eq_one_of_mem hndp (List.mem_map_of_mem _ hr))
    have := hsum r (hpre ▸ List.mem_append_right _ hr)
    omega

/-- `flushAfterLatch`, then the swap. -/
def flushThenSwap : List Act := flushAfterLatch ++ [.swap]

theorem request_fates_flushThenSwap :
    Reachable (Sys.after flushThenSwap) ∧
      ∃ popped, (Sys.after flushThenSwap).processor.admittedRequests =
          popped ++ (Sys.after flushThenSwap).processor.pendingRequests ∧
        ((Sys.after flushThenSwap).processor.admittedRequests.map PendingRequest.id).Nodup ∧
        (∀ r ∈ popped, (Sys.after flushThenSwap).fateCount r.id = 1) ∧
        (∀ r ∈ (Sys.after flushThenSwap).processor.pendingRequests,
          (Sys.after flushThenSwap).fateCount r.id = 0) ∧
        (∀ id, (Sys.after flushThenSwap).log.countP (Event.swaps id) +
            (if (Sys.after flushThenSwap).latched = some id then 1 else 0) =
          (Sys.after flushThenSwap).log.countP (Event.latches id)) ∧
        (∀ id, (Sys.after flushThenSwap).log.countP (Event.sensorFails id) ≤
          (Sys.after flushThenSwap).log.countP (Event.latches id)) ∧
        ∀ i j, Event.latch i (some j) ∉ (Sys.after flushThenSwap).log :=
  have h : Reachable (Sys.after flushThenSwap) := reachable_after (by decide)
  ⟨h, request_fates h⟩

/-- Request 0 is latched, gets the `ERROR_RESULT` of `EmulatedSensor::Flush`, and is taken by the
swap: it is both errored and latched. -/
theorem latched_request_errored_by_sensor_flush :
    ∃ s, Reachable s ∧ decide (s.log.countP (Event.latches 0) = 1 ∧
      s.log.countP (Event.sensorFails 0) = 1 ∧ s.log.countP (Event.swaps 0) = 1) = true :=
  @exists_reachable_of_run _ flushThenSwap (by decide)

end GoogleCamera.Emulated
