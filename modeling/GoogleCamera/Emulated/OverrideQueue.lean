import GoogleCamera.Emulated.System

/-!
# The override queue and `last_settings_`

`ProcessPipelineRequests` queues an override entry for each request whose settings carry a
one-value `ANDROID_CONTROL_SETTINGS_OVERRIDE`, and a repeat entry (null settings) for each
request with null settings. Only the loop pops the queue, in `ApplyOverrideSettings`:

    while (!override_settings_.empty() && request_settings.get() != nullptr) {
      ...
      const auto& override_setting = repeatingOverride ? last_override_settings_
                                                       : override_settings_.front().settings;
      ... override_setting->Get(ANDROID_CONTROL_SETTINGS_OVERRIDE, &entry); ...
      override_settings_.pop();
      if (override_frame_number - frame_number >= kZoomSpeedup) {
        return overriding ? override_frame_number : 0;
      }
    }

What is proved of one call: it dereferences a null snapshot exactly when
`last_override_settings_` is null and the front entry is a repeat entry
(`applyOverrides_eq_none_iff`).

Over runs of the whole system, three error paths leave the queue and `last_settings_` behind:

* `Flush` empties `pending_requests_` but not `override_settings_`. A later frame then pops the
  flushed frame's entry, whose frame number is behind it: the `uint32_t` difference wraps, and
  the stale zoom override is applied and returned (`stale_override_applied`).
* `last_override_settings_` is set only when an explicit entry is popped. A request whose
  settings carry no override, followed by one with null settings, makes the loop dereference a
  null snapshot (`repeat_entry_dereferences_null`).
* `last_settings_` is refreshed only on the branch where output buffers were acquired. Settings
  carried by a request whose buffers fail are lost for the null-settings requests after it
  (`repeat_request_reuses_stale_settings`).
-/

namespace GoogleCamera.Emulated

/-! ### One call of `ApplyOverrideSettings` -/

/-- Once `last_override_settings_` is set, the loop never meets a null snapshot. -/
theorem applyOverrides_isSome_of_last (frame : UInt32) :
    ∀ (q : List OverrideEntry) (o s : Metadata), (applyOverrides frame q (some o) s).isSome
  | [], _, _ => rfl
  | e :: rest, o, s => by
    cases he : e.settings with
    | none =>
      simp only [applyOverrides, he, Option.none_or, Option.isSome_none, Bool.false_eq_true, if_false]
      split
      · rfl
      · exact applyOverrides_isSome_of_last frame rest o _
    | some o' =>
      simp only [applyOverrides, he, Option.or_some, Option.isSome_some, if_true]
      split
      · rfl
      · exact applyOverrides_isSome_of_last frame rest o' _

/-- `ApplyOverrideSettings` dereferences a null snapshot exactly when `last_override_settings_`
is null and the front entry is a repeat entry. -/
theorem applyOverrides_eq_none_iff (frame : UInt32) (q : List OverrideEntry)
    (last : Option Metadata) (s : Metadata) :
    applyOverrides frame q last s = none ↔
      last = none ∧ ∃ e rest, q = e :: rest ∧ e.settings = none := by
  cases q with
  | nil => simp [applyOverrides]
  | cons e rest =>
    cases he : e.settings with
    | none =>
      cases last with
      | none => simp [applyOverrides, he]
      | some o =>
        refine iff_of_false ?_ (fun ⟨h, _⟩ => nomatch h)
        exact Option.ne_none_iff_isSome.mpr (applyOverrides_isSome_of_last frame (e :: rest) o s)
    | some o =>
      refine iff_of_false ?_ (fun ⟨_, e', rest', hq, he'⟩ => by cases hq; simp [he] at he')
      simp only [applyOverrides, he, Option.or_some, Option.isSome_some, if_true]
      split
      · nofun
      · exact Option.ne_none_iff_isSome.mpr (applyOverrides_isSome_of_last frame rest o _)

/-! ### Over runs of the system -/

/-- The frame and the return value of an `ApplyOverrideSettings` call that the log records. -/
def Event.overrideReturn : Event → Option (UInt32 × UInt32)
  | .applied _ frame ret _ => some (frame, ret)
  | _ => none

/-- Settings that ask for a zoom override. -/
def zoomOn : Metadata := Metadata.empty.set .controlSettingsOverride ⟨.int32, [settingsOverrideZoom]⟩

/-- Frame 10 asks for a zoom override and is flushed, `Flush`'s vsync wait ending at the next
swap; frame 11 is then serviced. -/
def staleZoom : List Act :=
  [.submit 0 10 1 [(.single 0 (some zoomOn), .accepting)], .flushBegin, .swap, .flushWake .ok,
   .submit 0 11 1 [(.single 0 (some .empty), .accepting)], .service .latching]

/-- `Flush` leaves frame 10's zoom override queued. Servicing frame 11, `ApplyOverrideSettings`
pops it, `10 - 11` wraps past `kZoomSpeedup`, and the call applies it and returns 10. -/
theorem stale_override_applied :
    ∃ s, Reachable s ∧ decide ((11, 10) ∈ s.log.filterMap Event.overrideReturn) = true :=
  @exists_reachable_of_run _ staleZoom (by decide)

/-- Frame 1 with settings that carry no override, then frame 2 with null settings. -/
def repeatFirst : List Act :=
  [.submit 0 1 1 [(.single 0 (some .empty), .accepting)],
   .submit 0 2 1 [(.single 0 none, .accepting)], .service .latching]

/-- Servicing frame 1, the loop meets frame 2's repeat entry while `last_override_settings_` is
still null. -/
theorem repeat_entry_dereferences_null :
    ∃ s, Reachable s ∧ decide (s.fault = some .nullOverride) = true :=
  @exists_reachable_of_run _ repeatFirst (by decide)

/-- The settings snapshot the log records for request `id`. -/
def Event.appliedSettings (id : Nat) : Event → Option Metadata
  | .applied i _ _ m => if i = id then m else none
  | _ => none

/-- Settings with an override that is not a zoom, and value 1 at tag `other 0`. -/
def firstSettings : Metadata :=
  (Metadata.empty.set .controlSettingsOverride ⟨.int32, [0]⟩).set (.other 0) ⟨.int32, [1]⟩

/-- Settings with value 2 at tag `other 0`. -/
def secondSettings : Metadata := Metadata.empty.set (.other 0) ⟨.int32, [2]⟩

/-- Frame 1 is latched and read out; frame 2 carries new settings but its fences fail; frame 3
has null settings. -/
def lostSettings : List Act :=
  [.submit 0 1 1 [(.single 0 (some firstSettings), .accepting)],
   .service .latching, .enterVSync, .swap, .wakeVSync .ok, .readout,
   .submit 0 2 1 [(.single 0 (some secondSettings), .accepting)],
   .service .fencesFail, .enterVSync, .swap, .wakeVSync .ok,
   .submit 0 3 1 [(.single 0 none, .accepting)], .service .latching]

/-- Requests 0, 1 and 2 carry value 1, value 2 and null settings at tag `other 0`; the snapshot
the loop passes to `InitializeLogicalSettings` for request 2 has value 1. -/
theorem repeat_request_reuses_stale_settings :
    ∃ s, Reachable s ∧ decide (
      s.processor.admittedRequests.map (fun r => r.settings.map (·.get (.other 0))) =
        [some (some ⟨.int32, [1]⟩), some (some ⟨.int32, [2]⟩), none] ∧
      (s.log.findSome? (Event.appliedSettings 2)).map (·.get (.other 0)) =
        some (some ⟨.int32, [1]⟩)) = true :=
  @exists_reachable_of_run _ lostSettings (by decide)

end GoogleCamera.Emulated
