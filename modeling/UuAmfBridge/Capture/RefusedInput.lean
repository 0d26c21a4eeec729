import UuAmfBridge.Capture.UinputInput

/-!
# Batches with a refused event

`InputBridge::send` stops at the first event that is not sent as a whole, and returns how
many come before it.  What has been sent of that event by then is not taken back: over the
compositor the calls before the first device that is missing, over `uinput` every write
that succeeds.

* `sendLoopEis_exact_iff` and `sendLoopUinput_exact_iff`: what a loop sends is what the
  accepted events ask for, exactly when nothing is sent of the event that it refuses.
* `batch_exact_iff`: the same for a batch, whichever way it takes.
-/

namespace UuAmfBridge

section Batch

variable {D : Type*} [DecidableEq D]

/-! ## The property and the condition -/

/-- The calls of an event, in their order. -/
def eventCalls (event : CaptureInputEvent) : List (Capability × EiCall) :=
  (eventCalls? event).getD []

/-- A batch sends the actions of the events that it accepts, and nothing else. -/
structure DeviceBatch.Exact (batch : DeviceBatch) (useEis : Bool)
    (events : List CaptureInputEvent) : Prop where
  calls_eq : batch.calls =
    if useEis then (events.take batch.accepted).flatMap eventCalls else []
  writes_eq : actionsOf batch.writes =
    if useEis then [] else (events.take batch.accepted).flatMap eventActions

/-- The first event whose calls cannot all be made, if there is one, begins with a call that
cannot be made. -/
def BlockedFirstEis (caps : D → Capability → Bool) (regions : D → Option EiRegion) :
    List CaptureInputEvent → List (Dispatch D) → InputBridge D → Prop
  | [], _, _ => True
  | event :: events, dispatches, bridge =>
      let next := (dispatchEis caps (dispatches.headD {}) bridge).1
      ∀ calls, eventCalls? event = some calls → next.eis.isNone = false →
        ((∀ call ∈ calls, next.Offers regions call) →
          BlockedFirstEis caps regions events dispatches.tail next) ∧
        (¬(∀ call ∈ calls, next.Offers regions call) →
          ∀ first, calls.head? = some first → ¬next.Offers regions first)

/-- The first event of which a write fails, if there is one, has a write that fails for each
group of its actions, before any that succeeds. -/
def BlockedFirstUinput : List CaptureInputEvent → List Bool → Prop
  | [], _ => True
  | event :: events, writes =>
      ∀ groups, eventGroups? event = some groups →
        (WritesSucceed groups.flatten.length writes →
          BlockedFirstUinput events (writes.drop groups.flatten.length)) ∧
        (¬WritesSucceed groups.flatten.length writes →
          WritesFail (actionGroups event).length writes)

/-- The condition for a batch, on the way that it takes. -/
def BlockedFirst (caps : D → Capability → Bool) (regions : D → Option EiRegion) (op : SendOp D)
    (writes : List Bool) (bridge : InputBridge D) : Prop :=
  let (bridge, useEis) := ensureEis caps op.ensure bridge
  if useEis then BlockedFirstEis caps regions op.events op.dispatches bridge
  else op.uinputReady = true → BlockedFirstUinput op.events writes

/-! ## The loops -/

/-- An event is accepted, and the rest of the batch decides, or the event itself does. -/
theorem exact_step_iff {ok : Bool} {exact rest blocked : Prop}
    (haccepted : ok = true → (exact ↔ rest)) (hrefused : ok = false → (exact ↔ blocked)) :
    exact ↔ (ok = true → rest) ∧ (¬ok = true → blocked) := by
  cases ok with
  | true =>
    rw [haccepted rfl]
    exact ⟨fun h => ⟨fun _ => h, fun hnot => absurd rfl hnot⟩, fun h => h.1 rfl⟩
  | false =>
    rw [hrefused rfl]
    exact ⟨fun h => ⟨Bool.noConfusion, fun _ => h⟩, fun h => h.2 Bool.false_ne_true⟩

/-- The loop over the compositor sends the calls of the events that it accepts, exactly when
the event that it refuses begins with a call that cannot be made. -/
theorem sendLoopEis_exact_iff (caps : D → Capability → Bool) (regions : D → Option EiRegion)
    (events : List CaptureInputEvent) (dispatches : List (Dispatch D)) (bridge : InputBridge D) :
    (sendLoopEis caps regions events dispatches bridge).emissions.map Emission.request =
        (events.take (sendLoopEis caps regions events dispatches bridge).accepted).flatMap
          eventCalls ↔
      BlockedFirstEis caps regions events dispatches bridge := by
  induction events generalizing dispatches bridge with
  | nil => exact iff_of_true rfl trivial
  | cons event events ih =>
    unfold sendLoopEis BlockedFirstEis
    simp only
    generalize hnext : (dispatchEis caps (dispatches.headD {}) bridge).1 = next
    have hcases := sendEventEis_cases caps regions (dispatches.headD {}) event bridge
    simp only [hnext] at hcases
    generalize sendEventEis caps regions (dispatches.headD {}) event bridge = sent at hcases ⊢
    obtain ⟨left, emissions, ok⟩ := sent
    simp only at hcases
    rcases hcases with ⟨hnone, rfl, rfl⟩ | ⟨calls, hcalls, rfl, hsent⟩
    · -- The event is refused without a call.
      refine iff_of_true rfl fun calls hsome => ?_
      rw [hnone] at hsome
      cases hsome
    rcases hsent with ⟨hclosed, rfl, rfl⟩ | ⟨hopen, rfl, rfl⟩
    · -- The dispatch has lost the connection.
      refine iff_of_true rfl fun calls _ hopen => ?_
      rw [hclosed] at hopen
      cases hopen
    obtain ⟨hall, hrequests, hnothing⟩ := emitCalls_spec regions left calls
    simp only [hcalls, hopen, Option.some.injEq, forall_eq', true_implies]
    rw [← hall, ← hnothing]
    refine exact_step_iff (fun hok => ?_) (fun hok => ?_)
    · have hevent : eventCalls event = calls := by
        unfold eventCalls
        rw [hcalls]
        rfl
      simp only [hok, if_true, List.map_append, List.take_succ_cons, List.flatMap_cons]
      rw [hrequests hok, hevent, List.append_cancel_left_eq, ih]
    · simp only [hok, Bool.false_eq_true, if_false, List.take_zero, List.flatMap_nil,
        List.map_eq_nil_iff]

/-- The loop over `uinput` writes the actions of the events that it accepts, exactly when
every group of the event that it refuses begins with a write that fails. -/
theorem sendLoopUinput_exact_iff (events : List CaptureInputEvent) (writes : List Bool) :
    actionsOf (sendLoopUinput events writes).events =
        (events.take (sendLoopUinput events writes).accepted).flatMap eventActions ↔
      BlockedFirstUinput events writes := by
  induction events generalizing writes with
  | nil => exact iff_of_true rfl trivial
  | cons event events ih =>
    have hactions := @sendEventUinput_actions event writes
    have hnothing := sendEventUinput_actions_nil_iff event writes
    unfold sendLoopUinput BlockedFirstUinput
    simp only
    cases hgroups : eventGroups? event with
    | none =>
      have hsent : sendEventUinput event writes = ⟨[], false, writes⟩ := by
        unfold sendEventUinput
        rw [hgroups]
      rw [hsent]
      refine iff_of_true rfl fun groups hsome => ?_
      cases hsome
    | some groups =>
      have hsent : sendEventUinput event writes = writeGroups groups writes := by
        unfold sendEventUinput
        rw [hgroups]
      obtain ⟨hall, hwrites⟩ := writeGroups_ok_iff groups writes
      rw [← hsent] at hall hwrites
      simp only [Option.some.injEq, forall_eq']
      rw [← hall, ← hnothing]
      refine exact_step_iff (fun hok => ?_) (fun hok => ?_)
      · simp only [hok, if_true, actionsOf_append, List.take_succ_cons, List.flatMap_cons]
        rw [hactions hok, List.append_cancel_left_eq, ih, hwrites hok]
      · simp only [hok, Bool.false_eq_true, if_false, List.take_zero, List.flatMap_nil]

/-! ## The batch -/

/-- A batch sends the actions of the events that it accepts and nothing else, if and only if
the event that it refuses is blocked before its first action. -/
theorem batch_exact_iff (caps : D → Capability → Bool) (regions : D → Option EiRegion)
    (op : SendOp D) (writes : List Bool) (bridge : InputBridge D) :
    (sendDevices caps regions op writes bridge).Exact (ensureEis caps op.ensure bridge).2
        op.events ↔
      BlockedFirst caps regions op writes bridge := by
  unfold sendDevices BlockedFirst
  generalize ensureEis caps op.ensure bridge = ensured
  obtain ⟨bridge, useEis⟩ := ensured
  simp only
  cases useEis with
  | true =>
    simp only [if_true]
    rw [← sendLoopEis_exact_iff]
    exact ⟨DeviceBatch.Exact.calls_eq, fun h => ⟨h, rfl⟩⟩
  | false =>
    simp only [Bool.false_eq_true, if_false]
    cases op.uinputReady with
    | true =>
      simp only [if_true, true_implies]
      rw [← sendLoopUinput_exact_iff]
      exact ⟨DeviceBatch.Exact.writes_eq, fun h => ⟨rfl, h⟩⟩
    | false =>
      refine iff_of_true ⟨rfl, ?_⟩ Bool.noConfusion
      rfl

end Batch

/-! ## A motion with a wheel that has no device -/

/-- A connection with a device for everything but the wheel. -/
def noScroll : InputBridge Unit where
  eis := some ⟨fun _ => true⟩
  slots capability := if capability = .scroll then none else some ()

/-- The mouse moves to the right, and its wheel turns. -/
def movedWheel : CaptureInputEvent where
  type := captureInputMouse
  dx := 1
  dy := 0
  mouseData := 120
  flags := 0x0801
  virtualKey := 0
  scanCode := 0

/-- The motion is sent, and the event is not accepted. -/
theorem refused_motion_sent :
    ¬∀ (op : SendOp Unit) (writes : List Bool) (bridge : InputBridge Unit),
      (sendDevices everyCapability (fun _ => some ⟨0, 0, 1920, 1080⟩) op writes bridge).Exact
        (ensureEis everyCapability op.ensure bridge).2 op.events := by
  intro hall
  have hexact := (hall { events := [movedWheel] } [] noScroll).calls_eq
  exact absurd hexact (by decide)

end UuAmfBridge
