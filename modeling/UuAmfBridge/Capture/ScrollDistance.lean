import Mathlib.Algebra.Order.Group.Abs
import Mathlib.Algebra.Order.Group.Int
import UuAmfBridge.Capture.InputBackends
import UuAmfBridge.Capture.RefusedInput

/-!
# How far the wheel scrolls

`wheel_value` of `src/wayland_capture_helper.cpp` counts a wheel in whole notches of 120
units.  Each event is rounded for itself: toward zero, and to one notch where it would
otherwise be none.  The rest is not kept for the next event.

* `roundedDelta`: the units that one event scrolls.
* `eventCalls_scrolled` and `eventWrites_scrolled`: both ways of input scroll by them.
* `scroll_distance`: a run of batches scrolls by the sum of the rounded deltas, which is
  less than 120 units for each event away from the sum that was asked for.
-/

namespace UuAmfBridge

/-! ## Distances -/

/-- The units by which an action scrolls along an axis. -/
def LogicalAction.scrolled (axis : Axis) : LogicalAction → Int
  | .scroll other amount => if other = axis then amount else 0
  | _ => 0

/-- The units by which actions scroll along an axis. -/
def scrolled (axis : Axis) (actions : List LogicalAction) : Int :=
  (actions.map (LogicalAction.scrolled axis)).sum

@[simp] theorem scrolled_nil (axis : Axis) : scrolled axis [] = 0 := rfl

@[simp] theorem scrolled_append (axis : Axis) (actions others : List LogicalAction) :
    scrolled axis (actions ++ others) = scrolled axis actions + scrolled axis others := by
  unfold scrolled
  rw [List.map_append, List.sum_append]

/-- The flag of the wheel of an axis. -/
def Axis.wheelFlag : Axis → UInt32
  | .vertical => 0x0800
  | .horizontal => 0x1000

/-- The event turns the wheel of an axis. -/
def CaptureInputEvent.turns (event : CaptureInputEvent) (axis : Axis) : Bool :=
  event.type = captureInputMouse && event.has axis.wheelFlag

/-- The units an event asks for. -/
def CaptureInputEvent.delta (event : CaptureInputEvent) : Int := event.mouseData.toInt32.toInt

/-- A delta in whole notches: toward zero, and one notch for less than one. -/
def roundedDelta (delta : Int) : Int :=
  if delta.tdiv 120 = 0 ∧ delta ≠ 0 then if 0 < delta then 120 else -120
  else 120 * delta.tdiv 120

theorem roundedDelta_wheelValue (data : UInt32) :
    120 * (wheelValue data).toInt = roundedDelta data.toInt32.toInt := by
  have hdiv : (data.toInt32 / 120).toInt = data.toInt32.toInt.tdiv 120 :=
    Int32.toInt_div_of_ne_right _ _ (by decide)
  have hzero : data.toInt32 / 120 = 0 ↔ data.toInt32.toInt.tdiv 120 = 0 := by
    rw [← hdiv, ← Int32.toInt_inj, Int32.toInt_zero]
  have hnone : data.toInt32 ≠ 0 ↔ data.toInt32.toInt ≠ 0 := by
    rw [ne_eq, ne_eq, ← Int32.toInt_inj, Int32.toInt_zero]
  have hforward : 0 < data.toInt32 ↔ 0 < data.toInt32.toInt := by
    rw [Int32.lt_iff_toInt_lt, Int32.toInt_zero]
  unfold wheelValue roundedDelta
  simp only [hzero, hnone, hforward]
  split_ifs
  · rfl
  · rfl
  · rw [hdiv]

/-- A rounded delta is less than a notch away. -/
theorem roundedDelta_error (delta : Int) : |roundedDelta delta - delta| ≤ 119 := by
  have hparts := Int.mul_tdiv_add_tmod delta 120
  have hlow := Int.lt_tmod_of_pos delta (b := 120) (by decide)
  have hhigh := Int.tmod_lt_of_pos delta (b := 120) (by decide)
  rw [abs_le]
  unfold roundedDelta
  split_ifs <;> omega

theorem roundedDelta_of_dvd {delta : Int} (h : 120 ∣ delta) : roundedDelta delta = delta := by
  obtain ⟨notches, rfl⟩ := h
  have hdiv : (120 * notches).tdiv 120 = notches := Int.mul_tdiv_cancel_left _ (by decide)
  unfold roundedDelta
  rw [hdiv]
  apply if_neg
  omega

/-! ## One event -/

theorem scrolled_motionAlong (axis other : Axis) (amount : Int) :
    scrolled axis (motionAlong other amount) = 0 := by
  unfold motionAlong
  split_ifs <;> rfl

theorem scrolled_scrollAlong (axis other : Axis) (amount : Int) :
    scrolled axis (scrollAlong other amount) = if other = axis then amount else 0 := by
  unfold scrollAlong
  split_ifs with hzero hsame hsame
  · rw [hzero]
    rfl
  · rfl
  · show (if other = axis then amount else 0) + 0 = amount
    rw [if_pos hsame, Int.add_zero]
  · show (if other = axis then amount else 0) + 0 = 0
    rw [if_neg hsame, Int.add_zero]

/-- A part of an event that scrolls nowhere, whether it is there or not. -/
theorem scrolled_flag (axis : Axis) {condition : Bool} {calls : List (Capability × EiCall)}
    (h : scrolled axis (logicalCalls calls) = 0) :
    scrolled axis (logicalCalls (if condition then calls else [])) = 0 := by
  cases condition with
  | true => exact h
  | false => rfl

/-- The events of the two wheels scroll by the rounded delta. -/
theorem wheelWrites_scrolled (axis : Axis) (event : CaptureInputEvent) :
    scrolled axis (logicalWrites (if event.has 0x0800 then
          [[InputEvent.mk .mouse .rel relWheel (wheelValue event.mouseData)]] else []).flatten) +
        scrolled axis (logicalWrites (if event.has 0x1000 then
          [[InputEvent.mk .mouse .rel relHwheel (wheelValue event.mouseData)]] else []).flatten) =
      if event.has axis.wheelFlag then roundedDelta event.delta else 0 := by
  have hvertical : ∀ condition : Bool, scrolled axis (logicalWrites (if condition then
      [[InputEvent.mk .mouse .rel relWheel (wheelValue event.mouseData)]] else []).flatten) =
        if condition then if Axis.vertical = axis then roundedDelta event.delta else 0 else 0 := by
    intro condition
    cases condition with
    | false => rfl
    | true =>
      show scrolled axis
        (scrollAlong .vertical (120 * (wheelValue event.mouseData).toInt) ++ []) = _
      rw [List.append_nil, scrolled_scrollAlong, roundedDelta_wheelValue]
      rfl
  have hhorizontal : ∀ condition : Bool, scrolled axis (logicalWrites (if condition then
      [[InputEvent.mk .mouse .rel relHwheel (wheelValue event.mouseData)]] else []).flatten) =
        if condition then
          if Axis.horizontal = axis then roundedDelta event.delta else 0
        else 0 := by
    intro condition
    cases condition with
    | false => rfl
    | true =>
      show scrolled axis
        (scrollAlong .horizontal (120 * (wheelValue event.mouseData).toInt) ++ []) = _
      rw [List.append_nil, scrolled_scrollAlong, roundedDelta_wheelValue]
      rfl
  rw [hvertical, hhorizontal]
  cases axis with
  | vertical =>
    show _ = if event.has 0x0800 then _ else _
    simp
  | horizontal =>
    show _ = if event.has 0x1000 then _ else _
    simp

/-- The calls of a mouse event scroll by its rounded delta. -/
theorem mouseCalls_scrolled (axis : Axis) (event : CaptureInputEvent) :
    scrolled axis (logicalCalls (mouseCalls event)) =
      if event.has axis.wheelFlag then roundedDelta event.delta else 0 := by
  have hmotion : scrolled axis (logicalCalls (if event.has 0x0001 then
        if event.has 0x8000 then
          [(.pointerAbsolute, .motionAbsolute (normalized event.dx) (normalized event.dy))]
        else [(.pointer, .motion event.dx event.dy)]
      else [])) = 0 := by
    apply scrolled_flag
    cases event.has 0x8000 with
    | true => rfl
    | false =>
      show scrolled axis ((motionAlong .horizontal _ ++ motionAlong .vertical _) ++ []) = 0
      rw [scrolled_append, scrolled_append, scrolled_motionAlong, scrolled_motionAlong]
      rfl
  have hbutton : ∀ (flag : UInt32) (code : Nat) (pressed : Bool),
      scrolled axis (logicalCalls (if event.has flag then
        [(.button, .button code pressed)] else [])) = 0 := by
    intro flag code pressed
    apply scrolled_flag
    rfl
  unfold mouseCalls
  simp only [logicalCalls_append, scrolled_append, hmotion, hbutton, Int.zero_add, logical_wheels,
    wheelWrites_scrolled]

/-- The writes of a mouse event scroll by its rounded delta. -/
theorem mouseGroups_scrolled (axis : Axis) (event : CaptureInputEvent) :
    scrolled axis (logicalWrites (mouseGroups event).flatten) =
      if event.has axis.wheelFlag then roundedDelta event.delta else 0 := by
  have hmotion : scrolled axis (logicalWrites (if event.has 0x0001 then
        if event.has 0x8000 then
          [[InputEvent.mk .mouse .abs absX event.dx, InputEvent.mk .mouse .abs absY event.dy]]
        else [[InputEvent.mk .mouse .rel relX event.dx, InputEvent.mk .mouse .rel relY event.dy]]
      else []).flatten) = 0 := by
    cases event.has 0x0001 with
    | false => rfl
    | true =>
      cases event.has 0x8000 with
      | true => rfl
      | false =>
        show scrolled axis (motionAlong .horizontal _ ++ (motionAlong .vertical _ ++ [])) = 0
        rw [scrolled_append, scrolled_append, scrolled_motionAlong, scrolled_motionAlong]
        rfl
  have hbutton : ∀ (flag : UInt32) (code : Nat) (value : Int32),
      scrolled axis (logicalWrites (if event.has flag then
        [[InputEvent.mk .mouse .key code value]] else []).flatten) = 0 := by
    intro flag code value
    cases event.has flag with
    | true => rfl
    | false => rfl
  unfold mouseGroups
  simp only [List.flatten_append, logicalWrites_append, scrolled_append, hmotion, hbutton,
    Int.zero_add, wheelWrites_scrolled]

/-- The units that an event scrolls. -/
def CaptureInputEvent.scrolls (event : CaptureInputEvent) (axis : Axis) : Int :=
  if event.turns axis then roundedDelta event.delta else 0

theorem eventCalls_scrolled (axis : Axis) (event : CaptureInputEvent) :
    scrolled axis (logicalCalls (eventCalls event)) = event.scrolls axis := by
  unfold eventCalls eventCalls? CaptureInputEvent.scrolls CaptureInputEvent.turns
  by_cases hmouse : event.type = captureInputMouse
  · rw [if_pos hmouse, Option.getD_some, mouseCalls_scrolled, decide_eq_true hmouse,
      Bool.true_and]
  · rw [if_neg hmouse, decide_eq_false hmouse, Bool.false_and, if_neg Bool.false_ne_true]
    split_ifs
    · cases keyboardCode event <;> rfl
    · rfl

/-- The writes of an event. -/
def eventWrites (event : CaptureInputEvent) : List InputEvent :=
  ((eventGroups? event).getD []).flatten

theorem eventWrites_scrolled (axis : Axis) (event : CaptureInputEvent) :
    scrolled axis (logicalWrites (eventWrites event)) = event.scrolls axis := by
  unfold eventWrites eventGroups? CaptureInputEvent.scrolls CaptureInputEvent.turns
  by_cases hmouse : event.type = captureInputMouse
  · have hsyn : scrolled axis (logicalWrites [[synEvent .mouse]].flatten) = 0 := rfl
    rw [if_pos hmouse, Option.getD_some, List.flatten_append, logicalWrites_append,
      scrolled_append, mouseGroups_scrolled, hsyn, Int.add_zero, decide_eq_true hmouse,
      Bool.true_and]
  · rw [if_neg hmouse, decide_eq_false hmouse, Bool.false_and, if_neg Bool.false_ne_true]
    split_ifs
    · cases keyboardCode event <;> rfl
    · rfl

/-! ## Batches -/

section Batches

variable {D : Type*} [DecidableEq D] (caps : D → Capability → Bool) (regions : D → Option EiRegion)

/-- A loop over the compositor that accepts every event makes all their calls. -/
theorem sendLoopEis_complete (events : List CaptureInputEvent) (dispatches : List (Dispatch D))
    (bridge : InputBridge D)
    (h : (sendLoopEis caps regions events dispatches bridge).accepted = events.length) :
    (sendLoopEis caps regions events dispatches bridge).emissions.map Emission.request =
      events.flatMap eventCalls := by
  induction events generalizing dispatches bridge with
  | nil => rfl
  | cons event events ih =>
    unfold sendLoopEis at h ⊢
    dsimp only at h ⊢
    by_cases hok : (sendEventEis caps regions (dispatches.headD {}) event bridge).ok = true
    · rw [if_pos hok] at h ⊢
      have hcalls : (sendEventEis caps regions (dispatches.headD {}) event bridge).emissions.map
          Emission.request = eventCalls event := by
        obtain ⟨-, hrefused, -⟩ | ⟨calls, hcalls, -, ⟨-, hrefused, -⟩ | ⟨-, hsent, hemissions⟩⟩ :=
          sendEventEis_cases caps regions (dispatches.headD {}) event bridge
        · rw [hok] at hrefused
          cases hrefused
        · rw [hok] at hrefused
          cases hrefused
        · obtain ⟨-, hrequests, -⟩ := emitCalls_spec regions
            (dispatchEis caps (dispatches.headD {}) bridge).1 calls
          rw [hemissions, hrequests (hsent.symm.trans hok), eventCalls, hcalls]
          rfl
      have hrest := ih dispatches.tail _ (Nat.succ.inj h)
      rw [List.map_append, hcalls, hrest, List.flatMap_cons]
    · rw [if_neg hok] at h
      cases h

/-- A loop over `uinput` that accepts every event makes all their writes. -/
theorem sendLoopUinput_complete (events : List CaptureInputEvent) (writes : List Bool)
    (h : (sendLoopUinput events writes).accepted = events.length) :
    (sendLoopUinput events writes).events = events.flatMap eventWrites := by
  induction events generalizing writes with
  | nil => rfl
  | cons event events ih =>
    unfold sendLoopUinput at h ⊢
    dsimp only at h ⊢
    by_cases hok : (sendEventUinput event writes).ok = true
    · rw [if_pos hok] at h ⊢
      have hwrites : (sendEventUinput event writes).events = eventWrites event := by
        unfold sendEventUinput at hok ⊢
        unfold eventWrites
        cases hgroups : eventGroups? event with
        | none =>
          rw [hgroups] at hok
          cases hok
        | some groups =>
          rw [hgroups] at hok
          exact writeGroups_ok hok
      have hrest := ih (sendEventUinput event writes).writes (Nat.succ.inj h)
      rw [hwrites, hrest, List.flatMap_cons]
    · rw [if_neg hok] at h
      cases h

/-- What a batch does, whichever way it takes. -/
def DeviceBatch.actions (batch : DeviceBatch) : List LogicalAction :=
  logicalCalls batch.calls ++ logicalWrites batch.writes

/-- The bridge with the script of the writes of each batch; the answer is what the
batch does on the devices. -/
def deviceBridge : Machine (InputBridge D) (SendOp D × List Bool) DeviceBatch where
  step bridge op :=
    ((sendInput caps regions { op.1 with uinput := uinputTakes op.1.events op.2 } bridge).bridge,
      sendDevices caps regions op.1 op.2 bridge)

/-- Every event of the batch is accepted. -/
def BatchAccepted (_ : List DeviceBatch) (bridge : InputBridge D) (op : SendOp D × List Bool) :
    Prop :=
  (sendDevices caps regions op.1 op.2 bridge).accepted = op.1.events.length

theorem scrolled_flatMap (axis : Axis) {α : Type*} (actions : α → List LogicalAction)
    (entries : List α) :
    scrolled axis (entries.flatMap actions) =
      (entries.map fun entry => scrolled axis (actions entry)).sum := by
  induction entries with
  | nil => rfl
  | cons entry entries ih =>
    rw [List.flatMap_cons, scrolled_append, ih, List.map_cons, List.sum_cons]

/-- A batch that is accepted scrolls by what its events scroll. -/
theorem sendDevices_scrolled (axis : Axis) {op : SendOp D} {writes : List Bool}
    {bridge : InputBridge D}
    (h : (sendDevices caps regions op writes bridge).accepted = op.events.length) :
    scrolled axis (sendDevices caps regions op writes bridge).actions =
      (op.events.map fun event => event.scrolls axis).sum := by
  unfold sendDevices at h ⊢
  generalize ensureEis caps op.ensure bridge = ensured at h ⊢
  obtain ⟨next, useEis⟩ := ensured
  cases useEis with
  | true =>
    simp only [if_true] at h ⊢
    have hcalls := sendLoopEis_complete caps regions op.events op.dispatches next h
    unfold DeviceBatch.actions
    rw [hcalls, logicalCalls, List.flatMap_assoc, scrolled_append, scrolled_flatMap]
    simp only [← eventCalls_scrolled]
    exact Int.add_zero _
  | false =>
    cases hready : op.uinputReady with
    | true =>
      simp only [hready, Bool.false_eq_true, if_false, if_true] at h ⊢
      have hwrites := sendLoopUinput_complete op.events writes h
      unfold DeviceBatch.actions
      rw [hwrites, logicalWrites, List.flatMap_assoc, scrolled_append, scrolled_flatMap]
      simp only [← eventWrites_scrolled]
      exact Int.zero_add _
    | false =>
      simp only [hready, Bool.false_eq_true, if_false] at h ⊢
      rw [List.eq_nil_of_length_eq_zero h.symm]
      rfl

/-- A run whose batches are accepted scrolls by what all its events scroll. -/
theorem run_scrolled (axis : Axis) (ops : List (SendOp D × List Bool)) {log : List DeviceBatch}
    {bridge : InputBridge D}
    (h : (deviceBridge caps regions).Along (BatchAccepted caps regions) log bridge ops) :
    scrolled axis (((deviceBridge caps regions).exec log bridge ops).1.flatMap
        DeviceBatch.actions) =
      scrolled axis (log.flatMap DeviceBatch.actions) +
        ((ops.flatMap fun op => op.1.events).map fun event => event.scrolls axis).sum := by
  induction ops generalizing log bridge with
  | nil => exact (Int.add_zero _).symm
  | cons op ops ih =>
    rw [Machine.along_cons] at h
    have hbatch : scrolled axis ((deviceBridge caps regions).step bridge op).2.actions =
        (op.1.events.map fun event => event.scrolls axis).sum :=
      sendDevices_scrolled caps regions axis h.1
    rw [Machine.exec_cons, ih h.2, List.flatMap_append, scrolled_append, List.flatMap_singleton,
      hbatch, List.flatMap_cons, List.map_append, List.sum_append, Int.add_assoc]

/-! ## The distance of a run -/

/-- The events of a run that turn the wheel of an axis. -/
def turningEvents (axis : Axis) (ops : List (SendOp D × List Bool)) : List CaptureInputEvent :=
  (ops.flatMap fun op => op.1.events).filter fun event => event.turns axis

theorem sum_scrolls (axis : Axis) (events : List CaptureInputEvent) :
    (events.map fun event => event.scrolls axis).sum =
      ((events.filter fun event => event.turns axis).map fun event =>
        roundedDelta event.delta).sum := by
  induction events with
  | nil => rfl
  | cons event events ih =>
    rw [List.map_cons, List.sum_cons, ih, List.filter_cons, CaptureInputEvent.scrolls]
    split_ifs with hturns
    · rw [List.map_cons, List.sum_cons]
    · exact Int.zero_add _

/-- Deltas that are each rounded by less than a notch are together rounded by less than a
notch for each. -/
theorem sum_rounded_error (events : List CaptureInputEvent) :
    |(events.map fun event => roundedDelta event.delta).sum -
        (events.map CaptureInputEvent.delta).sum| ≤ 119 * events.length := by
  induction events with
  | nil => exact le_refl _
  | cons event events ih =>
    have hevent := roundedDelta_error event.delta
    rw [abs_le] at ih hevent ⊢
    rw [List.map_cons, List.sum_cons, List.map_cons, List.sum_cons, List.length_cons]
    omega

/-- A run of accepted batches, on whichever ways they take, scrolls along an axis by the
rounded deltas of its events; that is less than 120 units for each of them away from the sum
that was asked for, and this sum itself where every delta is in whole notches. -/
theorem scroll_distance (axis : Axis) (bridge : InputBridge D) (ops : List (SendOp D × List Bool))
    (haccepted : (deviceBridge caps regions).Along (BatchAccepted caps regions) [] bridge ops) :
    let emitted := scrolled axis
      (((deviceBridge caps regions).outputs bridge ops).flatMap DeviceBatch.actions)
    let asked := ((turningEvents axis ops).map CaptureInputEvent.delta).sum
    emitted = ((turningEvents axis ops).map fun event => roundedDelta event.delta).sum ∧
      |emitted - asked| ≤ 119 * (turningEvents axis ops).length ∧
      ((∀ event ∈ turningEvents axis ops, 120 ∣ event.delta) → emitted = asked) := by
  intro emitted asked
  have hemitted : emitted =
      ((turningEvents axis ops).map fun event => roundedDelta event.delta).sum := by
    have hrun := run_scrolled caps regions axis ops haccepted
    rw [List.flatMap_nil, scrolled_nil, Int.zero_add, sum_scrolls] at hrun
    exact hrun
  refine ⟨hemitted, ?_, ?_⟩
  · rw [hemitted]
    exact sum_rounded_error _
  · intro hwhole
    rw [hemitted]
    apply congrArg List.sum
    apply List.map_congr_left
    intro event hevent
    exact roundedDelta_of_dvd (hwhole event hevent)

end Batches

/-- One turn of the vertical wheel by a single unit. -/
def finestTurn : CaptureInputEvent where
  type := captureInputMouse
  dx := 0
  dy := 0
  mouseData := 1
  flags := 0x0800
  virtualKey := 0
  scanCode := 0

/-- Two of them, over `uinput`. -/
def finestTurns : List (SendOp Unit × List Bool) :=
  [({ events := [finestTurn, finestTurn], uinputReady := true }, [])]

theorem finest_turns_distance :
    |scrolled .vertical (((deviceBridge everyCapability fun _ => none).outputs {}
        finestTurns).flatMap DeviceBatch.actions) -
      ((turningEvents .vertical finestTurns).map CaptureInputEvent.delta).sum| ≤ 119 * 2 :=
  (scroll_distance everyCapability (fun _ => none) .vertical {} finestTurns
    ⟨rfl, trivial⟩).2.1

/-- The two turns ask for 2 units and scroll by 240. -/
theorem finest_turns_drift :
    ¬|scrolled .vertical (((deviceBridge everyCapability fun _ => none).outputs {}
        finestTurns).flatMap DeviceBatch.actions) -
      ((turningEvents .vertical finestTurns).map CaptureInputEvent.delta).sum| < 120 := by
  have hemitted : scrolled .vertical (((deviceBridge everyCapability fun _ => none).outputs {}
      finestTurns).flatMap DeviceBatch.actions) = 240 := rfl
  have hasked : ((turningEvents .vertical finestTurns).map CaptureInputEvent.delta).sum = 2 := rfl
  rw [hemitted, hasked]
  decide

end UuAmfBridge
