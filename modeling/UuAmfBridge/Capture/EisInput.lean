import Mathlib.Data.List.Induction
import UuAmfBridge.Capture.KeyCodes
import UuAmfBridge.Lib.Machine

/-!
# Input through the compositor

`InputBridge` of `src/wayland_capture_helper.cpp` keeps one device of the
compositor for each of five capabilities.  `dispatch_eis` fills a slot when a
device with the capability is resumed and the slot is empty, and empties it when
the device is paused or removed.

A connection to the compositor is modelled by what it knows of its devices: which
of them are emulating input, that is, resumed and not paused or removed since.

* `dispatchEis_keeps`, `ensureEis_keeps`: every slot holds a device of the current
  connection that emulates and has the capability.
* `eis_emissions_live`: so does every device that input is sent to, over every
  run of batches; and `ensureEis_connected`: a connection that is not lost stays, with
  every device that no event stops.
* `slots_complete_iff`: after every event no slot is empty while a device could
  fill it, exactly when no device leaves a slot to which another one could go.
-/

namespace UuAmfBridge

/-! ## Devices and slots -/

/-- `enum ei_device_capability`, as far as the helper binds it. -/
inductive Capability where
  | pointer
  | pointerAbsolute
  | button
  | scroll
  | keyboard
  deriving Repr, DecidableEq

/-- A connection to the compositor: the devices that emulate input. -/
structure Ei (D : Type*) where
  emulating : D → Bool

/-- The members of `InputBridge` that `dispatch_eis` and `ensure_eis` change.
`pointer_device_`, `absolute_device_`, `button_device_`, `scroll_device_` and
`keyboard_device_` are the slots of the five capabilities. -/
structure InputBridge (D : Type*) where
  eis : Option (Ei D) := none
  slots : Capability → Option D := fun _ => none
  retryAfter : Int := 0

inductive EiEventType where
  | seatAdded
  | deviceResumed
  | devicePaused
  | deviceRemoved
  | disconnect
  | other
  deriving Repr, DecidableEq

/-- An event and its device, if it has one. -/
structure EiEvent (D : Type*) where
  type : EiEventType
  device : Option D := none
  deriving DecidableEq

/-- How `poll` returns. -/
inductive PollResult where
  | returned
  | interrupted
  | error
  deriving Repr, DecidableEq

/-- What one call of `dispatch_eis` meets: how `poll` returns, and the events
until `ei_get_event` returns null. -/
structure Dispatch (D : Type*) where
  poll : PollResult := .returned
  events : List (EiEvent D) := []

section Bridge

variable {D : Type*} [DecidableEq D]

namespace InputBridge

/-- The device emulates input on the current connection. -/
def emulates (bridge : InputBridge D) (device : D) : Bool :=
  (bridge.eis.map fun ei => ei.emulating device).getD false

/-- `ei_device_start_emulating`, and the end of it. -/
def setEmulating (bridge : InputBridge D) (device : D) (emulating : Bool) : InputBridge D :=
  { bridge with eis := bridge.eis.map fun ei => ⟨Function.update ei.emulating device emulating⟩ }

/-- `set_eis_device` for each of the five capabilities. -/
def setDevices (caps : D → Capability → Bool) (bridge : InputBridge D) (device : D) :
    InputBridge D :=
  { bridge with
    slots := fun capability =>
      match bridge.slots capability with
      | some other => some other
      | none => if caps device capability then some device else none }

/-- `clear_eis_device`. -/
def clearDevice (bridge : InputBridge D) (device : D) : InputBridge D :=
  { bridge with
    slots := fun capability =>
      if bridge.slots capability = some device then none else bridge.slots capability }

omit [DecidableEq D] in
/-- `reset_eis`. -/
def reset (bridge : InputBridge D) : InputBridge D :=
  { bridge with eis := none, slots := fun _ => none }

/-- The three slots that `ensure_eis` asks for are filled. -/
def usable (bridge : InputBridge D) : Bool :=
  (bridge.slots .pointer).isSome && (bridge.slots .button).isSome &&
    (bridge.slots .keyboard).isSome

/-- The body of the event loop of `dispatch_eis`. -/
def handleEvent (caps : D → Capability → Bool) (bridge : InputBridge D) (event : EiEvent D) :
    InputBridge D :=
  match event.type, event.device with
  | .deviceResumed, some device => (bridge.setEmulating device true).setDevices caps device
  | .devicePaused, some device => (bridge.setEmulating device false).clearDevice device
  | .deviceRemoved, some device => (bridge.setEmulating device false).clearDevice device
  | _, _ => bridge

end InputBridge

/-- `dispatch_eis`. -/
def dispatchEis (caps : D → Capability → Bool) (dispatch : Dispatch D) (bridge : InputBridge D) :
    InputBridge D × Bool :=
  if bridge.eis.isNone then (bridge, false)
  else if dispatch.poll = .error then (bridge, false)
  else
    let next := dispatch.events.foldl (InputBridge.handleEvent caps) bridge
    if dispatch.events.any (·.type = .disconnect) then
      ({ next.reset with retryAfter := 0 }, false)
    else (next, true)

/-- How an attempt to connect goes: no reply of the compositor, no descriptor, no
context, no backend, or a connection and what its dispatches meet. -/
inductive EisConnect (D : Type*) where
  | noReply
  | noDescriptor
  | noContext
  | noBackend
  | connected (dispatches : List (Dispatch D))

/-- What `ensure_eis` meets.  `now` and `marked` are the two times it reads before
it tries to connect. -/
structure EnsureEnv (D : Type*) where
  dispatch : Dispatch D := {}
  now : Int := 0
  marked : Int := now
  connect : EisConnect D := .noReply

/-- The loop of `ensure_eis` that waits for devices. -/
def awaitDevices (caps : D → Capability → Bool) :
    Nat → List (Dispatch D) → InputBridge D → InputBridge D
  | 0, _, bridge => bridge
  | attempts + 1, dispatches, bridge =>
      if bridge.usable then bridge
      else
        let (next, live) := dispatchEis caps (dispatches.headD {}) bridge
        if live then awaitDevices caps attempts dispatches.tail next else next

/-- `ensure_eis`. -/
def ensureEis (caps : D → Capability → Bool) (env : EnsureEnv D) (bridge : InputBridge D) :
    InputBridge D × Bool :=
  if bridge.eis.isSome then
    let next := (dispatchEis caps env.dispatch bridge).1
    (next, next.usable)
  else if env.now < bridge.retryAfter then (bridge, false)
  else
    let bridge := { bridge with retryAfter := env.marked + 5 }
    match env.connect with
    | .noReply | .noDescriptor | .noContext => (bridge, false)
    | .noBackend => (bridge.reset, false)
    | .connected dispatches =>
        let next := awaitDevices caps 40 dispatches { bridge with eis := some ⟨fun _ => false⟩ }
        if next.usable then ({ next with retryAfter := 0 }, true) else (next.reset, false)

/-! ## Sending -/

/-- A region of a device, in pixels. -/
structure EiRegion where
  x : UInt32
  y : UInt32
  width : UInt32
  height : UInt32
  deriving Repr, DecidableEq

/-- The calls that send input on a device, each followed by `ei_device_frame`.
The coordinates of an absolute motion are the normalised ones; `Emission.point` is what
they become in the region of the device. -/
inductive EiCall where
  | motionAbsolute (x y : Int32)
  | motion (dx dy : Int32)
  | button (code : Nat) (pressed : Bool)
  | scrollDiscrete (x y : Int32)
  | key (code : Nat) (pressed : Bool)
  deriving DecidableEq

/-- Input sent on the device of a slot, the state of the bridge at that point, and the
region of the device. -/
structure Emission (D : Type*) where
  bridge : InputBridge D
  capability : Capability
  device : D
  call : EiCall
  region : Option EiRegion

/-- A coordinate of a point in a region, in 65535ths of a pixel.  The product is one of
`uint32_t`; the division by 65535.0 and the sum are exact here, where `double` rounds. -/
def regionCoordinate (offset extent : UInt32) (normalized : Int32) : Nat :=
  offset.toNat * 65535 + (normalized.toUInt32 * extent).toNat

/-- `x` and `y` of `send_mouse_eis`, the point that `ei_device_pointer_motion_absolute` gets. -/
def Emission.point (emission : Emission D) : Option (Nat × Nat) :=
  match emission.call, emission.region with
  | .motionAbsolute x y, some region =>
      some (regionCoordinate region.x region.width x, regionCoordinate region.y region.height y)
  | _, _ => none

/-- `normalized_x` and `normalized_y`. -/
def normalized (value : Int32) : Int32 :=
  if value < 0 then 0 else if 65535 < value then 65535 else value

/-- The calls a mouse event asks for, in the order of `send_mouse_eis`. -/
def mouseCalls (event : CaptureInputEvent) : List (Capability × EiCall) :=
  let button (flag : UInt32) (code : Nat) (pressed : Bool) : List (Capability × EiCall) :=
    if event.has flag then [(.button, .button code pressed)] else []
  let sideCode := if event.mouseData >>> 16 = 1 then btnSide else btnExtra
  let amount := wheelValue event.mouseData * 120
  (if event.has 0x0001 then
    if event.has 0x8000 then
      [(.pointerAbsolute, .motionAbsolute (normalized event.dx) (normalized event.dy))]
    else [(.pointer, .motion event.dx event.dy)]
  else []) ++
  button 0x0002 btnLeft true ++ button 0x0004 btnLeft false ++
  button 0x0008 btnRight true ++ button 0x0010 btnRight false ++
  button 0x0020 btnMiddle true ++ button 0x0040 btnMiddle false ++
  button 0x0080 sideCode true ++ button 0x0100 sideCode false ++
  (if event.has 0x0800 || event.has 0x1000 then
    [(.scroll, .scrollDiscrete (if event.has 0x1000 then amount else 0)
      (if event.has 0x0800 then -amount else 0))]
  else [])

omit [DecidableEq D] in
/-- One call, if the slot has a device, and the device a region for an absolute
motion. -/
def emitCall (regions : D → Option EiRegion) (bridge : InputBridge D) (call : Capability × EiCall) :
    Option (Emission D) :=
  match bridge.slots call.1 with
  | none => none
  | some device =>
      if call.1 = .pointerAbsolute ∧ regions device = none then none
      else some ⟨bridge, call.1, device, call.2, regions device⟩

omit [DecidableEq D] in
/-- Calls up to the first one that cannot be made. -/
def emitCalls (regions : D → Option EiRegion) (bridge : InputBridge D) :
    List (Capability × EiCall) → List (Emission D) × Bool
  | [] => ([], true)
  | call :: calls =>
      match emitCall regions bridge call with
      | none => ([], false)
      | some emission =>
          let rest := emitCalls regions bridge calls
          (emission :: rest.1, rest.2)

/-- The end of one attempt to send an event. -/
structure SentEvent (D : Type*) where
  bridge : InputBridge D
  emissions : List (Emission D)
  ok : Bool

/-- `send_mouse_eis`. -/
def sendMouseEis (caps : D → Capability → Bool) (regions : D → Option EiRegion)
    (dispatch : Dispatch D) (event : CaptureInputEvent) (bridge : InputBridge D) : SentEvent D :=
  let bridge := (dispatchEis caps dispatch bridge).1
  if bridge.eis.isNone then ⟨bridge, [], false⟩
  else
    let sent := emitCalls regions bridge (mouseCalls event)
    ⟨bridge, sent.1, sent.2⟩

/-- `send_keyboard_eis`. -/
def sendKeyboardEis (caps : D → Capability → Bool) (regions : D → Option EiRegion)
    (dispatch : Dispatch D) (event : CaptureInputEvent) (bridge : InputBridge D) : SentEvent D :=
  let bridge := (dispatchEis caps dispatch bridge).1
  if bridge.eis.isNone then ⟨bridge, [], false⟩
  else
    match keyboardCode event with
    | none => ⟨bridge, [], false⟩
    | some code =>
        let sent := emitCalls regions bridge [(.keyboard, .key code (!event.has 0x0002))]
        ⟨bridge, sent.1, sent.2⟩

/-- One event of a batch. -/
def sendEventEis (caps : D → Capability → Bool) (regions : D → Option EiRegion)
    (dispatch : Dispatch D) (event : CaptureInputEvent) (bridge : InputBridge D) : SentEvent D :=
  if event.type = captureInputMouse then sendMouseEis caps regions dispatch event bridge
  else if event.type = captureInputKeyboard then sendKeyboardEis caps regions dispatch event bridge
  else ⟨bridge, [], false⟩

/-- The end of a batch. -/
structure SentBatch (D : Type*) where
  bridge : InputBridge D
  emissions : List (Emission D)
  accepted : Nat

/-- The loop of `InputBridge::send` over the compositor. -/
def sendLoopEis (caps : D → Capability → Bool) (regions : D → Option EiRegion) :
    List CaptureInputEvent → List (Dispatch D) → InputBridge D → SentBatch D
  | [], _, bridge => ⟨bridge, [], 0⟩
  | event :: events, dispatches, bridge =>
      let sent := sendEventEis caps regions (dispatches.headD {}) event bridge
      if sent.ok then
        let rest := sendLoopEis caps regions events dispatches.tail sent.bridge
        ⟨rest.bridge, sent.emissions ++ rest.emissions, rest.accepted + 1⟩
      else ⟨sent.bridge, sent.emissions, 0⟩

/-- A batch, and what it meets.  Without the compositor the events go to the two
devices of `uinput`, if these can be created; `uinput` says which events they
take. -/
structure SendOp (D : Type*) where
  events : List CaptureInputEvent
  ensure : EnsureEnv D := {}
  dispatches : List (Dispatch D) := []
  uinputReady : Bool := false
  uinput : List Bool := []

/-- `InputBridge::send`. -/
def sendInput (caps : D → Capability → Bool) (regions : D → Option EiRegion) (op : SendOp D)
    (bridge : InputBridge D) : SentBatch D :=
  let (bridge, useEis) := ensureEis caps op.ensure bridge
  if useEis then sendLoopEis caps regions op.events op.dispatches bridge
  else if op.uinputReady then
    ⟨bridge, [], ((op.uinput.take op.events.length).takeWhile id).length⟩
  else ⟨bridge, [], 0⟩

/-! ## Every slot holds a live device -/

variable {caps : D → Capability → Bool} {regions : D → Option EiRegion}

omit [DecidableEq D] in
/-- No connection, and no device in any slot. -/
def InputBridge.AllNull (bridge : InputBridge D) : Prop :=
  bridge.eis = none ∧ ∀ capability, bridge.slots capability = none

omit [DecidableEq D] in
/-- Every slot holds a device of the current connection that emulates input and
has the capability of the slot. -/
def InputBridge.SlotsLive (caps : D → Capability → Bool) (bridge : InputBridge D) : Prop :=
  ∀ capability device, bridge.slots capability = some device →
    bridge.emulates device = true ∧ caps device capability = true

omit [DecidableEq D] in
theorem reset_allNull (bridge : InputBridge D) : bridge.reset.AllNull := ⟨rfl, fun _ => rfl⟩

omit [DecidableEq D] in
theorem InputBridge.AllNull.slotsLive {bridge : InputBridge D} (h : bridge.AllNull) :
    bridge.SlotsLive caps := by
  intro capability device hslot
  rw [h.2 capability] at hslot
  cases hslot

omit [DecidableEq D] in
/-- Without a connection there is no device. -/
theorem InputBridge.SlotsLive.allNull {bridge : InputBridge D} (h : bridge.SlotsLive caps)
    (heis : bridge.eis = none) : bridge.AllNull := by
  refine ⟨heis, fun capability => ?_⟩
  cases hslot : bridge.slots capability with
  | none => rfl
  | some device =>
    have hlive := (h capability device hslot).1
    unfold InputBridge.emulates at hlive
    rw [heis] at hlive
    cases hlive

/-- Which devices emulate after one of them changes. -/
theorem emulates_setEmulating {bridge : InputBridge D} (heis : bridge.eis.isSome)
    (device other : D) (emulating : Bool) :
    (bridge.setEmulating device emulating).emulates other =
      if other = device then emulating else bridge.emulates other := by
  obtain ⟨ei, hei⟩ := Option.isSome_iff_exists.mp heis
  unfold InputBridge.emulates InputBridge.setEmulating
  rw [hei]
  exact Function.update_apply ..

omit [DecidableEq D] in
/-- A slot after a device is offered to it. -/
theorem slots_setDevices (bridge : InputBridge D) (device : D) (capability : Capability) :
    (bridge.setDevices caps device).slots capability =
      (bridge.slots capability).or (if caps device capability then some device else none) := by
  unfold InputBridge.setDevices
  cases hslot : bridge.slots capability with
  | none => simp [hslot]
  | some other => simp [hslot]

theorem slots_clearDevice (bridge : InputBridge D) (device : D) (capability : Capability) :
    (bridge.clearDevice device).slots capability =
      if bridge.slots capability = some device then none else bridge.slots capability := rfl

/-- A resumed device emulates before it goes to any slot. -/
theorem resumed_keeps {bridge : InputBridge D} (heis : bridge.eis.isSome)
    (h : bridge.SlotsLive caps) (device : D) :
    ((bridge.setEmulating device true).setDevices caps device).SlotsLive caps := by
  intro capability other hslot
  rw [slots_setDevices] at hslot
  have hemulates := emulates_setEmulating heis device other true
  have hslots : (bridge.setEmulating device true).slots capability = bridge.slots capability := rfl
  rw [hslots] at hslot
  show (bridge.setEmulating device true).emulates other = true ∧ _
  rw [hemulates]
  cases hbefore : bridge.slots capability with
  | some holder =>
    rw [hbefore] at hslot
    obtain rfl := Option.some.inj hslot
    obtain ⟨hlive, hcap⟩ := h capability holder hbefore
    rw [hlive]
    exact ⟨ite_self true, hcap⟩
  | none =>
    rw [hbefore, Option.none_or] at hslot
    by_cases hcap : caps device capability = true
    · rw [if_pos hcap] at hslot
      obtain rfl := Option.some.inj hslot
      exact ⟨if_pos rfl, hcap⟩
    · rw [if_neg hcap] at hslot
      cases hslot

/-- A device that stops emulating leaves every slot. -/
theorem stopped_keeps {bridge : InputBridge D} (heis : bridge.eis.isSome)
    (h : bridge.SlotsLive caps) (device : D) :
    ((bridge.setEmulating device false).clearDevice device).SlotsLive caps := by
  intro capability other hslot
  rw [slots_clearDevice] at hslot
  have hslots : (bridge.setEmulating device false).slots capability = bridge.slots capability := rfl
  rw [hslots] at hslot
  by_cases hholds : bridge.slots capability = some device
  · rw [if_pos hholds] at hslot
    cases hslot
  · rw [if_neg hholds] at hslot
    have hother : other ≠ device := by
      intro heq
      exact hholds (heq ▸ hslot)
    show (bridge.setEmulating device false).emulates other = true ∧ _
    rw [emulates_setEmulating heis, if_neg hother]
    exact h capability other hslot

/-- An event keeps the connection. -/
theorem handleEvent_eis_isSome (bridge : InputBridge D) (event : EiEvent D) :
    (bridge.handleEvent caps event).eis.isSome = bridge.eis.isSome := by
  obtain ⟨type, device⟩ := event
  cases type with
  | deviceResumed => cases device <;> simp [InputBridge.handleEvent, InputBridge.setEmulating,
      InputBridge.setDevices]
  | devicePaused => cases device <;> simp [InputBridge.handleEvent, InputBridge.setEmulating,
      InputBridge.clearDevice]
  | deviceRemoved => cases device <;> simp [InputBridge.handleEvent, InputBridge.setEmulating,
      InputBridge.clearDevice]
  | _ => cases device <;> rfl

theorem handleEvent_keeps {bridge : InputBridge D} (heis : bridge.eis.isSome)
    (h : bridge.SlotsLive caps) (event : EiEvent D) :
    (bridge.handleEvent caps event).SlotsLive caps := by
  obtain ⟨type, device⟩ := event
  cases device with
  | none => cases type <;> exact h
  | some device =>
    cases type with
    | deviceResumed => exact resumed_keeps heis h device
    | devicePaused => exact stopped_keeps heis h device
    | deviceRemoved => exact stopped_keeps heis h device
    | _ => exact h

theorem handleEvents_keep {bridge : InputBridge D} (heis : bridge.eis.isSome)
    (h : bridge.SlotsLive caps) (events : List (EiEvent D)) :
    (events.foldl (InputBridge.handleEvent caps) bridge).SlotsLive caps := by
  induction events generalizing bridge with
  | nil => exact h
  | cons event events ih =>
    refine ih ?_ (handleEvent_keeps heis h event)
    rw [handleEvent_eis_isSome]
    exact heis

/-- A dispatch keeps live devices in the slots, and leaves nothing when it meets a
disconnect. -/
theorem dispatchEis_keeps {bridge : InputBridge D} (h : bridge.SlotsLive caps)
    (dispatch : Dispatch D) : (dispatchEis caps dispatch bridge).1.SlotsLive caps := by
  unfold dispatchEis
  split_ifs with hnone hpoll hdisconnect
  · exact h
  · exact h
  · exact InputBridge.AllNull.slotsLive ⟨rfl, fun _ => rfl⟩
  · have heis : bridge.eis.isSome := by
      rw [Option.isSome_iff_ne_none]
      simpa using hnone
    exact handleEvents_keep heis h dispatch.events

theorem dispatchEis_disconnect {bridge : InputBridge D} {dispatch : Dispatch D}
    (heis : bridge.eis.isSome) (hpoll : dispatch.poll ≠ .error)
    (hdisconnect : ∃ event ∈ dispatch.events, event.type = .disconnect) :
    (dispatchEis caps dispatch bridge).1.AllNull := by
  have hany : dispatch.events.any (·.type = .disconnect) = true := by
    simpa using hdisconnect
  unfold dispatchEis
  rw [if_neg (by simpa [Option.isSome_iff_ne_none] using heis), if_neg hpoll]
  simp only [hany, if_true]
  exact ⟨rfl, fun _ => rfl⟩

theorem awaitDevices_keeps (attempts : Nat) (dispatches : List (Dispatch D))
    {bridge : InputBridge D} (h : bridge.SlotsLive caps) :
    (awaitDevices caps attempts dispatches bridge).SlotsLive caps := by
  induction attempts generalizing dispatches bridge with
  | zero => exact h
  | succ attempts ih =>
    have hnext := dispatchEis_keeps h (dispatches.headD {})
    unfold awaitDevices
    simp only
    split_ifs
    · exact h
    · exact ih dispatches.tail hnext
    · exact hnext

omit [DecidableEq D] in
/-- A new connection, with no device yet. -/
theorem connected_slotsLive {bridge : InputBridge D} (h : bridge.AllNull) (ei : Ei D) :
    InputBridge.SlotsLive caps { bridge with eis := some ei } := by
  intro capability device hslot
  have hnone := h.2 capability
  rw [hnone] at hslot
  cases hslot

/-- What `ensure_eis` leaves: live devices in the slots, and no connection and no
device when it has tried to connect and failed. -/
theorem ensureEis_keeps {bridge : InputBridge D} (h : bridge.SlotsLive caps) (env : EnsureEnv D) :
    (ensureEis caps env bridge).1.SlotsLive caps ∧
      ((ensureEis caps env bridge).2 = false → bridge.eis = none →
        (ensureEis caps env bridge).1.AllNull) := by
  unfold ensureEis
  by_cases heis : bridge.eis.isSome = true
  · rw [if_pos heis]
    refine ⟨dispatchEis_keeps h env.dispatch, fun _ hnone => ?_⟩
    rw [hnone] at heis
    cases heis
  · rw [if_neg heis]
    have hnull : bridge.AllNull := h.allNull (by simpa using heis)
    by_cases hearly : env.now < bridge.retryAfter
    · rw [if_pos hearly]
      exact ⟨h, fun _ _ => hnull⟩
    · rw [if_neg hearly]
      have hwaits : InputBridge.AllNull { bridge with retryAfter := env.marked + 5 } := hnull
      cases env.connect with
      | noReply => exact ⟨h, fun _ _ => hwaits⟩
      | noDescriptor => exact ⟨h, fun _ _ => hwaits⟩
      | noContext => exact ⟨h, fun _ _ => hwaits⟩
      | noBackend => exact ⟨(reset_allNull _).slotsLive, fun _ _ => reset_allNull _⟩
      | connected dispatches =>
        have hnew : InputBridge.SlotsLive caps
            { bridge with retryAfter := env.marked + 5, eis := some ⟨fun _ => false⟩ } :=
          connected_slotsLive hwaits _
        have hawait := awaitDevices_keeps 40 dispatches hnew
        simp only
        split_ifs
        · exact ⟨hawait, nofun⟩
        · exact ⟨(reset_allNull _).slotsLive, fun _ _ => reset_allNull _⟩

/-! ## Every emission goes to a live device -/

/-- The device input is sent to is the one of the slot, emulates input on the
connection at that point, and has the capability of the slot. -/
def Emission.Live (caps : D → Capability → Bool) (emission : Emission D) : Prop :=
  emission.bridge.slots emission.capability = some emission.device ∧
    emission.bridge.emulates emission.device = true ∧
      caps emission.device emission.capability = true

omit [DecidableEq D] in
theorem emitCall_live {bridge : InputBridge D} (h : bridge.SlotsLive caps)
    {call : Capability × EiCall} {emission : Emission D}
    (hemit : emitCall regions bridge call = some emission) : emission.Live caps := by
  unfold emitCall at hemit
  cases hslot : bridge.slots call.1 with
  | none =>
    rw [hslot] at hemit
    cases hemit
  | some device =>
    rw [hslot] at hemit
    simp only at hemit
    split_ifs at hemit
    obtain rfl := Option.some.inj hemit
    exact ⟨hslot, h call.1 device hslot⟩

omit [DecidableEq D] in
theorem emitCalls_live {bridge : InputBridge D} (h : bridge.SlotsLive caps)
    (calls : List (Capability × EiCall)) :
    ∀ emission ∈ (emitCalls regions bridge calls).1, emission.Live caps := by
  induction calls with
  | nil => exact List.forall_mem_nil _
  | cons call calls ih =>
    unfold emitCalls
    cases hemit : emitCall regions bridge call with
    | none => exact List.forall_mem_nil _
    | some first =>
      simp only
      intro emission hemission
      rcases List.mem_cons.mp hemission with rfl | hrest
      · exact emitCall_live h hemit
      · exact ih emission hrest

/-- Sending one event keeps the slots live and sends to live devices only. -/
theorem sendEventEis_live {bridge : InputBridge D} (h : bridge.SlotsLive caps)
    (dispatch : Dispatch D) (event : CaptureInputEvent) :
    (sendEventEis caps regions dispatch event bridge).bridge.SlotsLive caps ∧
      ∀ emission ∈ (sendEventEis caps regions dispatch event bridge).emissions,
        emission.Live caps := by
  have hnext := dispatchEis_keeps h dispatch
  unfold sendEventEis sendMouseEis sendKeyboardEis
  simp only
  split_ifs
  · exact ⟨hnext, List.forall_mem_nil _⟩
  · exact ⟨hnext, emitCalls_live hnext _⟩
  · exact ⟨hnext, List.forall_mem_nil _⟩
  · cases keyboardCode event with
    | none => exact ⟨hnext, List.forall_mem_nil _⟩
    | some code => exact ⟨hnext, emitCalls_live hnext _⟩
  · exact ⟨h, List.forall_mem_nil _⟩

theorem sendLoopEis_live (events : List CaptureInputEvent) (dispatches : List (Dispatch D))
    {bridge : InputBridge D} (h : bridge.SlotsLive caps) :
    (sendLoopEis caps regions events dispatches bridge).bridge.SlotsLive caps ∧
      ∀ emission ∈ (sendLoopEis caps regions events dispatches bridge).emissions,
        emission.Live caps := by
  induction events generalizing dispatches bridge with
  | nil => exact ⟨h, List.forall_mem_nil _⟩
  | cons event events ih =>
    have hfirst :
        (sendEventEis caps regions (dispatches.headD {}) event bridge).bridge.SlotsLive caps ∧
          ∀ emission ∈
            (sendEventEis caps regions (dispatches.headD {}) event bridge).emissions,
            emission.Live caps := sendEventEis_live h _ event
    obtain ⟨hnext, hsent⟩ := hfirst
    unfold sendLoopEis
    simp only
    split_ifs
    · obtain ⟨hlast, hrest⟩ := ih dispatches.tail hnext
      refine ⟨hlast, fun emission hemission => ?_⟩
      rcases List.mem_append.mp hemission with hfirst | hlater
      · exact hsent emission hfirst
      · exact hrest emission hlater
    · exact ⟨hnext, hsent⟩

theorem sendInput_live (op : SendOp D) {bridge : InputBridge D} (h : bridge.SlotsLive caps) :
    (sendInput caps regions op bridge).bridge.SlotsLive caps ∧
      ∀ emission ∈ (sendInput caps regions op bridge).emissions, emission.Live caps := by
  have hnext := (ensureEis_keeps h op.ensure).1
  unfold sendInput
  simp only
  split_ifs
  · exact sendLoopEis_live op.events op.dispatches hnext
  · exact ⟨hnext, List.forall_mem_nil _⟩
  · exact ⟨hnext, List.forall_mem_nil _⟩

/-! ## Runs of batches -/

/-- The input bridge serves one batch after another. -/
def inputBridge (caps : D → Capability → Bool) (regions : D → Option EiRegion) :
    Machine (InputBridge D) (SendOp D) (SentBatch D) where
  step bridge op := ((sendInput caps regions op bridge).bridge, sendInput caps regions op bridge)

/-- The device that an event stops. -/
def EiEvent.stops (event : EiEvent D) (device : D) : Prop :=
  (event.type = .devicePaused ∨ event.type = .deviceRemoved) ∧ event.device = some device

/-- The events that `dispatch_eis` handles. -/
def Dispatch.handled (dispatch : Dispatch D) : List (EiEvent D) :=
  if dispatch.poll = .error then [] else dispatch.events

/-- `ensure_eis` on a connection that it does not lose: it fails exactly when one of the
three slots is empty, and keeps the connection and every device that no event stops. -/
structure EnsureKeeps (caps : D → Capability → Bool) (env : EnsureEnv D)
    (bridge : InputBridge D) : Prop where
  connected : (ensureEis caps env bridge).1.eis.isSome
  fails : (ensureEis caps env bridge).2 = false ↔
    ∃ capability ∈ [Capability.pointer, .button, .keyboard],
      (ensureEis caps env bridge).1.slots capability = none
  slots : ∀ capability device, bridge.slots capability = some device →
    (∀ event ∈ env.dispatch.handled, ¬event.stops device) →
      (ensureEis caps env bridge).1.slots capability = some device

/-- What holds of a batch: it sends to live devices only; `ensure_eis` leaves no
connection and no device when it fails without a connection, or loses it, and otherwise
keeps the connection and its devices, also when it fails. -/
def BatchLive (caps : D → Capability → Bool) (regions : D → Option EiRegion)
    (bridge : InputBridge D) (op : SendOp D) : Prop :=
  (∀ emission ∈ (sendInput caps regions op bridge).emissions, emission.Live caps) ∧
    ((ensureEis caps op.ensure bridge).2 = false → bridge.eis = none →
      (ensureEis caps op.ensure bridge).1.AllNull) ∧
    ((ensureEis caps op.ensure bridge).1.eis = none →
      (ensureEis caps op.ensure bridge).1.AllNull) ∧
    (bridge.eis.isSome → (∀ event ∈ op.ensure.dispatch.handled, event.type ≠ .disconnect) →
      EnsureKeeps caps op.ensure bridge)

theorem foldl_handleEvent_isSome (events : List (EiEvent D)) {bridge : InputBridge D}
    (heis : bridge.eis.isSome) :
    (events.foldl (InputBridge.handleEvent caps) bridge).eis.isSome := by
  induction events generalizing bridge with
  | nil => exact heis
  | cons event events ih =>
    refine ih ?_
    rw [handleEvent_eis_isSome]
    exact heis

/-- An event leaves a device that it does not stop in its slots. -/
theorem handleEvent_slots {bridge : InputBridge D} {event : EiEvent D} {capability : Capability}
    {device : D} (hslot : bridge.slots capability = some device) (hstops : ¬event.stops device) :
    (bridge.handleEvent caps event).slots capability = some device := by
  obtain ⟨type, other⟩ := event
  cases other with
  | none => cases type <;> exact hslot
  | some other =>
    have hcleared : other ≠ device →
        ((bridge.setEmulating other false).clearDevice other).slots capability = some device := by
      intro hother
      have hkept : (bridge.setEmulating other false).slots capability = some device := hslot
      rw [slots_clearDevice, hkept, if_neg fun heq => hother (Option.some.inj heq).symm]
    cases type with
    | deviceResumed =>
      have hkept : (bridge.setEmulating other true).slots capability = some device := hslot
      show ((bridge.setEmulating other true).setDevices caps other).slots capability = _
      rw [slots_setDevices, hkept, Option.some_or]
    | devicePaused => exact hcleared fun heq => hstops ⟨Or.inl rfl, congrArg some heq⟩
    | deviceRemoved => exact hcleared fun heq => hstops ⟨Or.inr rfl, congrArg some heq⟩
    | seatAdded => exact hslot
    | disconnect => exact hslot
    | other => exact hslot

theorem foldl_handleEvent_slots (events : List (EiEvent D)) {bridge : InputBridge D}
    {capability : Capability} {device : D} (hslot : bridge.slots capability = some device)
    (hstops : ∀ event ∈ events, ¬event.stops device) :
    (events.foldl (InputBridge.handleEvent caps) bridge).slots capability = some device := by
  induction events generalizing bridge with
  | nil => exact hslot
  | cons event events ih =>
    obtain ⟨hfirst, hrest⟩ := List.forall_mem_cons.mp hstops
    exact ih (handleEvent_slots hslot hfirst) hrest

/-- Without a disconnect a dispatch handles its events one by one. -/
theorem dispatchEis_handled {bridge : InputBridge D} (heis : bridge.eis.isSome)
    {dispatch : Dispatch D} (hlive : ∀ event ∈ dispatch.handled, event.type ≠ .disconnect) :
    (dispatchEis caps dispatch bridge).1 =
      dispatch.handled.foldl (InputBridge.handleEvent caps) bridge := by
  have hnone : ¬bridge.eis.isNone = true := by simpa [Option.isSome_iff_ne_none] using heis
  unfold dispatchEis
  unfold Dispatch.handled at hlive ⊢
  rw [if_neg hnone]
  by_cases hpoll : dispatch.poll = .error
  · rw [if_pos hpoll, if_pos hpoll]
    rfl
  · rw [if_neg hpoll] at hlive ⊢
    have hany : ¬dispatch.events.any (·.type = .disconnect) = true := by simpa using hlive
    rw [if_neg hpoll]
    simp only
    rw [if_neg hany]

omit [DecidableEq D] in
theorem usable_eq_false_iff (bridge : InputBridge D) :
    bridge.usable = false ↔
      ∃ capability ∈ [Capability.pointer, .button, .keyboard], bridge.slots capability = none := by
  unfold InputBridge.usable
  simp only [Bool.and_eq_false_iff, Option.isSome_eq_false_iff, Option.isNone_iff_eq_none,
    List.exists_mem_cons_iff, or_assoc, List.not_mem_nil, false_and, exists_false, or_false]

/-- `ensure_eis` on a connection that it does not lose. -/
theorem ensureEis_connected {bridge : InputBridge D} (heis : bridge.eis.isSome)
    {env : EnsureEnv D} (hlive : ∀ event ∈ env.dispatch.handled, event.type ≠ .disconnect) :
    EnsureKeeps caps env bridge := by
  have hensured : ensureEis caps env bridge =
      (env.dispatch.handled.foldl (InputBridge.handleEvent caps) bridge,
        (env.dispatch.handled.foldl (InputBridge.handleEvent caps) bridge).usable) := by
    unfold ensureEis
    rw [if_pos heis, dispatchEis_handled heis hlive]
  refine ⟨?_, ?_, ?_⟩
  · rw [hensured]
    exact foldl_handleEvent_isSome _ heis
  · rw [hensured]
    exact usable_eq_false_iff _
  · intro capability device hslot hstops
    rw [hensured]
    exact foldl_handleEvent_slots _ hslot hstops

/-- Over every run of batches, whatever events they meet, input goes to live
devices only, and a failed attempt to connect and a disconnect leave no
connection and no device; an `ensure_eis` that fails on a connection keeps it. -/
theorem eis_emissions_live (caps : D → Capability → Bool) (regions : D → Option EiRegion)
    (ops : List (SendOp D)) :
    (inputBridge caps regions).Along (fun _ => BatchLive caps regions) [] {} ops ∧
      ∀ (bridge : InputBridge D) (dispatch : Dispatch D), bridge.eis.isSome →
        dispatch.poll ≠ .error → (∃ event ∈ dispatch.events, event.type = .disconnect) →
          (dispatchEis caps dispatch bridge).1.AllNull := by
  have hstart : InputBridge.SlotsLive caps ({} : InputBridge D) := fun _ _ => nofun
  refine ⟨Machine.along_of_invariant (P := fun _ _ _ => True)
    (fun _ bridge => bridge.SlotsLive caps) (fun _ _ op h _ => (sendInput_live op h).1)
    (fun _ _ op h _ => ?_) hstart
    (Machine.along_of_forall (fun _ _ _ => trivial) [] ({} : InputBridge D) ops),
    fun _ _ heis hpoll hdisconnect => dispatchEis_disconnect heis hpoll hdisconnect⟩
  obtain ⟨hensured, hfailed⟩ := ensureEis_keeps h op.ensure
  exact ⟨(sendInput_live op h).2, hfailed, fun heis => hensured.allNull heis,
    fun heis hlive => ensureEis_connected heis hlive⟩

/-! ## The calls of an event -/

/-- The calls of an event, unless it is refused without one. -/
def eventCalls? (event : CaptureInputEvent) : Option (List (Capability × EiCall)) :=
  if event.type = captureInputMouse then some (mouseCalls event)
  else if event.type = captureInputKeyboard then
    (keyboardCode event).map fun code => [(.keyboard, .key code (!event.has 0x0002))]
  else none

omit [DecidableEq D] in
/-- The call of an emission. -/
def Emission.request (emission : Emission D) : Capability × EiCall :=
  (emission.capability, emission.call)

omit [DecidableEq D] in
/-- The call can be made: its slot has a device, with a region for an absolute motion. -/
def InputBridge.Offers (regions : D → Option EiRegion) (bridge : InputBridge D)
    (call : Capability × EiCall) : Prop :=
  ∃ device, bridge.slots call.1 = some device ∧
    ¬(call.1 = .pointerAbsolute ∧ regions device = none)

omit [DecidableEq D] in
/-- A call that can be made is sent. -/
theorem emitCall_cases (regions : D → Option EiRegion) (bridge : InputBridge D)
    (call : Capability × EiCall) :
    (bridge.Offers regions call ∧
        ∃ emission, emitCall regions bridge call = some emission ∧ emission.request = call) ∨
      (¬bridge.Offers regions call ∧ emitCall regions bridge call = none) := by
  unfold emitCall InputBridge.Offers
  cases hslot : bridge.slots call.1 with
  | none =>
    right
    refine ⟨?_, rfl⟩
    rintro ⟨device, hdevice, -⟩
    cases hdevice
  | some device =>
    by_cases hregion : call.1 = .pointerAbsolute ∧ regions device = none
    · right
      refine ⟨?_, if_pos hregion⟩
      rintro ⟨other, hother, hoffers⟩
      obtain rfl := Option.some.inj hother
      exact hoffers hregion
    · left
      exact ⟨⟨device, rfl, hregion⟩, _, if_neg hregion, rfl⟩

omit [DecidableEq D] in
/-- All calls are made when each can be, and nothing is sent when the first one cannot be. -/
theorem emitCalls_spec (regions : D → Option EiRegion) (bridge : InputBridge D)
    (calls : List (Capability × EiCall)) :
    ((emitCalls regions bridge calls).2 = true ↔ ∀ call ∈ calls, bridge.Offers regions call) ∧
      ((emitCalls regions bridge calls).2 = true →
        (emitCalls regions bridge calls).1.map Emission.request = calls) ∧
      ((emitCalls regions bridge calls).1 = [] ↔
        ∀ first, calls.head? = some first → ¬bridge.Offers regions first) := by
  induction calls with
  | nil =>
    refine ⟨iff_of_true rfl (List.forall_mem_nil _), fun _ => rfl, iff_of_true rfl ?_⟩
    intro first hfirst
    cases hfirst
  | cons call calls ih =>
    obtain ⟨hok, hrequests, -⟩ := ih
    unfold emitCalls
    rcases emitCall_cases regions bridge call with ⟨hoffers, emission, hemit, hrequest⟩ |
      ⟨hmissing, hemit⟩
    · simp only [hemit]
      refine ⟨?_, ?_, iff_of_false (List.cons_ne_nil _ _) fun h => h call rfl hoffers⟩
      · rw [hok, List.forall_mem_cons]
        exact (and_iff_right hoffers).symm
      · intro hall
        rw [List.map_cons, hrequest, hrequests hall]
    · simp only [hemit]
      refine ⟨iff_of_false Bool.noConfusion fun h => ?_, Bool.noConfusion, iff_of_true trivial ?_⟩
      · exact hmissing (h call (List.mem_cons_self ..))
      · intro first hfirst
        obtain rfl := Option.some.inj hfirst
        exact hmissing

/-- An event that is refused without a call sends nothing; any other one makes its calls on
the devices that are there after a dispatch, if there is a connection then. -/
theorem sendEventEis_cases (caps : D → Capability → Bool) (regions : D → Option EiRegion)
    (dispatch : Dispatch D) (event : CaptureInputEvent) (bridge : InputBridge D) :
    let sent := sendEventEis caps regions dispatch event bridge
    let next := (dispatchEis caps dispatch bridge).1
    (eventCalls? event = none ∧ sent.ok = false ∧ sent.emissions = []) ∨
      ∃ calls, eventCalls? event = some calls ∧ sent.bridge = next ∧
        ((next.eis.isNone = true ∧ sent.ok = false ∧ sent.emissions = []) ∨
          (next.eis.isNone = false ∧ sent.ok = (emitCalls regions next calls).2 ∧
            sent.emissions = (emitCalls regions next calls).1)) := by
  intro sent next
  have hsent : sent = sendEventEis caps regions dispatch event bridge := rfl
  have hmakes : ∀ calls, sent = (if next.eis.isNone then ⟨next, [], false⟩
      else ⟨next, (emitCalls regions next calls).1, (emitCalls regions next calls).2⟩) →
        sent.bridge = next ∧
          ((next.eis.isNone = true ∧ sent.ok = false ∧ sent.emissions = []) ∨
            (next.eis.isNone = false ∧ sent.ok = (emitCalls regions next calls).2 ∧
              sent.emissions = (emitCalls regions next calls).1)) := by
    intro calls hmade
    rw [hmade]
    cases heis : next.eis.isNone with
    | true => exact ⟨rfl, Or.inl ⟨rfl, rfl, rfl⟩⟩
    | false => exact ⟨rfl, Or.inr ⟨rfl, rfl, rfl⟩⟩
  unfold sendEventEis at hsent
  unfold eventCalls?
  by_cases hmouse : event.type = captureInputMouse
  · rw [if_pos hmouse] at hsent ⊢
    exact Or.inr ⟨_, rfl, hmakes _ hsent⟩
  · rw [if_neg hmouse] at hsent ⊢
    by_cases hkeyboard : event.type = captureInputKeyboard
    · rw [if_pos hkeyboard] at hsent ⊢
      unfold sendKeyboardEis at hsent
      cases hcode : keyboardCode event with
      | none =>
        rw [hcode] at hsent
        refine Or.inl ⟨rfl, ?_⟩
        rw [hsent]
        simp only
        split_ifs
        · exact ⟨rfl, rfl⟩
        · exact ⟨rfl, rfl⟩
      | some code =>
        rw [hcode] at hsent
        exact Or.inr ⟨_, rfl, hmakes _ hsent⟩
    · rw [if_neg hkeyboard] at hsent ⊢
      rw [hsent]
      exact Or.inl ⟨rfl, rfl, rfl⟩

/-! ## Complete slots -/

/-- No slot is empty while a device that emulates input could fill it. -/
def InputBridge.Complete (caps : D → Capability → Bool) (bridge : InputBridge D) : Prop :=
  ∀ capability device, bridge.emulates device = true → caps device capability = true →
    bridge.slots capability ≠ none

/-- A device that the event stops leaves no slot that another device could fill. -/
def LeavesNoOther (caps : D → Capability → Bool) (bridge : InputBridge D) (event : EiEvent D) :
    Prop :=
  ∀ device, event.stops device → ∀ capability, bridge.slots capability = some device →
    ∀ other, other ≠ device → bridge.emulates other = true → caps other capability = false

/-- A resumed device fills the slots that it can fill. -/
theorem resumed_complete {bridge : InputBridge D} (heis : bridge.eis.isSome)
    (h : bridge.Complete caps) (device : D) :
    ((bridge.setEmulating device true).setDevices caps device).Complete caps := by
  intro capability other hemulates hcap
  have hemulates : (bridge.setEmulating device true).emulates other = true := hemulates
  have hslots : (bridge.setEmulating device true).slots capability = bridge.slots capability := rfl
  rw [slots_setDevices, hslots]
  rw [emulates_setEmulating heis] at hemulates
  by_cases hother : other = device
  · subst hother
    rw [if_pos hcap]
    cases bridge.slots capability <;> exact nofun
  · rw [if_neg hother] at hemulates
    obtain ⟨holder, hholder⟩ := Option.ne_none_iff_exists'.mp (h capability other hemulates hcap)
    rw [hholder]
    exact nofun

/-- A device that stops leaves complete slots exactly when no other device could
fill one that it leaves. -/
theorem stopped_complete_iff {bridge : InputBridge D} (heis : bridge.eis.isSome)
    (h : bridge.Complete caps) (device : D) :
    ((bridge.setEmulating device false).clearDevice device).Complete caps ↔
      ∀ capability, bridge.slots capability = some device →
        ∀ other, other ≠ device → bridge.emulates other = true →
          caps other capability = false := by
  have hemulates : ∀ other, ((bridge.setEmulating device false).clearDevice device).emulates other =
      if other = device then false else bridge.emulates other :=
    fun other => emulates_setEmulating heis device other false
  have hslots : ∀ capability,
      ((bridge.setEmulating device false).clearDevice device).slots capability =
        if bridge.slots capability = some device then none else bridge.slots capability :=
    fun _ => rfl
  constructor
  · intro hcomplete capability hholds other hother hemulating
    by_contra hcap
    refine hcomplete capability other ?_ (by simpa using hcap) ?_
    · rw [hemulates, if_neg hother]
      exact hemulating
    · rw [hslots, if_pos hholds]
  · intro hleaves capability other hemulating hcap
    rw [hemulates] at hemulating
    by_cases hother : other = device
    · rw [if_pos hother] at hemulating
      cases hemulating
    · rw [if_neg hother] at hemulating
      rw [hslots]
      by_cases hholds : bridge.slots capability = some device
      · rw [hleaves capability hholds other hother hemulating] at hcap
        cases hcap
      · rw [if_neg hholds]
        exact h capability other hemulating hcap

/-- An event leaves complete slots exactly when no device leaves a slot that another
one could fill. -/
theorem handleEvent_complete_iff {bridge : InputBridge D} (heis : bridge.eis.isSome)
    (h : bridge.Complete caps) (event : EiEvent D) :
    (bridge.handleEvent caps event).Complete caps ↔ LeavesNoOther caps bridge event := by
  obtain ⟨type, device⟩ := event
  have hstops : ∀ stopped, EiEvent.stops ⟨type, device⟩ stopped ↔
      (type = .devicePaused ∨ type = .deviceRemoved) ∧ device = some stopped :=
    fun _ => Iff.rfl
  unfold LeavesNoOther
  simp only [hstops]
  cases device with
  | none =>
    refine iff_of_true ?_ fun _ hnone => nomatch hnone.2
    cases type <;> exact h
  | some device =>
    have hsame : ∀ stopped, some device = some stopped → stopped = device :=
      fun stopped heq => (Option.some.inj heq).symm
    have hstopped : ((bridge.setEmulating device false).clearDevice device).Complete caps ↔
        ∀ stopped, some device = some stopped → ∀ capability,
          bridge.slots capability = some stopped → ∀ other, other ≠ stopped →
            bridge.emulates other = true → caps other capability = false := by
      rw [stopped_complete_iff heis h device]
      constructor
      · intro hleaves stopped heq
        obtain rfl := hsame stopped heq
        exact hleaves
      · exact fun hleaves => hleaves device rfl
    cases type with
    | deviceResumed =>
      exact iff_of_true (resumed_complete heis h device) fun _ hcase => by simp at hcase
    | devicePaused => simpa [InputBridge.handleEvent] using hstopped
    | deviceRemoved => simpa [InputBridge.handleEvent] using hstopped
    | seatAdded => exact iff_of_true h fun _ hcase => by simp at hcase
    | disconnect => exact iff_of_true h fun _ hcase => by simp at hcase
    | other => exact iff_of_true h fun _ hcase => by simp at hcase

/-- A new connection, before its first event. -/
def newConnection : InputBridge D := { eis := some ⟨fun _ => false⟩ }

/-- On a live connection the slots are complete after every event exactly when no
event makes a device leave a slot that another device could fill. -/
theorem slots_complete_iff {events : List (EiEvent D)}
    (hlive : ∀ event ∈ events, event.type ≠ .disconnect) :
    (∀ before, before <+: events →
        (dispatchEis caps { events := before } newConnection).1.Complete caps) ↔
      ∀ before event, before ++ [event] <+: events →
        LeavesNoOther caps (dispatchEis caps { events := before } newConnection).1 event := by
  have hnew : (newConnection : InputBridge D).eis.isSome := rfl
  have hdispatch : ∀ before, before <+: events →
      (dispatchEis caps { events := before } newConnection).1 =
        before.foldl (InputBridge.handleEvent caps) newConnection :=
    fun before hbefore =>
      @dispatchEis_handled D _ caps _ hnew { events := before } fun event hevent =>
        hlive event (hbefore.subset hevent)
  have hstep : ∀ before event, before ++ [event] <+: events →
      (before.foldl (InputBridge.handleEvent caps) newConnection).Complete caps →
        (((before ++ [event]).foldl (InputBridge.handleEvent caps) newConnection).Complete caps ↔
          LeavesNoOther caps (before.foldl (InputBridge.handleEvent caps) newConnection)
            event) := by
    intro before event _ hcomplete
    rw [List.foldl_append]
    exact handleEvent_complete_iff (foldl_handleEvent_isSome before hnew) hcomplete event
  constructor
  · intro hcomplete before event hboth
    have hbefore : before <+: events := (List.prefix_append before [event]).trans hboth
    have hfirst := hcomplete before hbefore
    have hsecond := hcomplete (before ++ [event]) hboth
    rw [hdispatch before hbefore] at hfirst ⊢
    rw [hdispatch _ hboth] at hsecond
    exact (hstep before event hboth hfirst).mp hsecond
  · intro hleaves before
    induction before using List.reverseRecOn with
    | nil =>
      intro hnil
      rw [hdispatch [] hnil]
      intro capability device hemulates
      cases hemulates
    | append_singleton before event ih =>
      intro hboth
      have hbefore : before <+: events := (List.prefix_append before [event]).trans hboth
      have hcomplete := ih hbefore
      have hevent := hleaves before event hboth
      rw [hdispatch before hbefore] at hcomplete hevent
      rw [hdispatch _ hboth]
      exact (hstep before event hboth hcomplete).mpr hevent

end Bridge

/-! ## Two pointers -/

/-- Devices that are pointers and nothing else. -/
def pointerOnly (_ : Nat) (capability : Capability) : Bool := capability = .pointer

/-- Two pointers are resumed, and the first of them is paused. -/
def firstPointerPaused : List (EiEvent Nat) :=
  [⟨.deviceResumed, some 0⟩, ⟨.deviceResumed, some 1⟩, ⟨.devicePaused, some 0⟩]

/-- Two pointers are resumed, and the second of them is paused. -/
theorem second_pointer_paused_iff :
    let events : List (EiEvent Nat) :=
      [⟨.deviceResumed, some 0⟩, ⟨.deviceResumed, some 1⟩, ⟨.devicePaused, some 1⟩]
    (∀ before, before <+: events →
        (dispatchEis pointerOnly { events := before } newConnection).1.Complete pointerOnly) ↔
      ∀ before event, before ++ [event] <+: events → LeavesNoOther pointerOnly
        (dispatchEis pointerOnly { events := before } newConnection).1 event :=
  slots_complete_iff (by decide)

/-- The slot of the first pointer stays empty beside the second one. -/
theorem first_pointer_paused_incomplete :
    ¬(dispatchEis pointerOnly { events := firstPointerPaused } newConnection).1.Complete
      pointerOnly := by
  intro hcomplete
  exact hcomplete .pointer 1 rfl rfl rfl

/-! ## A connection without a pointer -/

/-- Devices with every capability. -/
def everyCapability (_ : Unit) (_ : Capability) : Bool := true

/-- The one device is resumed while the helper connects, and the batch is empty. -/
def connectedBatch : SendOp Unit :=
  { events := []
    ensure := { connect := .connected [{ events := [⟨.deviceResumed, some ()⟩] }] } }

/-- The next `ensure_eis` meets a pause: it fails, and keeps the connection. -/
theorem paused_ensure_keeps_connection :
    ¬∀ (ops : List (SendOp Unit)) (env : EnsureEnv Unit),
      (ensureEis everyCapability env
          ((inputBridge everyCapability fun _ => none).run {} ops)).2 = false →
        (ensureEis everyCapability env
          ((inputBridge everyCapability fun _ => none).run {} ops)).1.AllNull := by
  intro hall
  have hnull := hall [connectedBatch] { dispatch := { events := [⟨.devicePaused, some ()⟩] } } rfl
  cases hnull.1

end UuAmfBridge
