import Mathlib.Tactic.Abel
import UuAmfBridge.Capture.UinputInput
import UuAmfBridge.Lib.Ownership

/-!
# What the input bridge holds

`InputBridge` of `src/wayland_capture_helper.cpp` keeps a context of libei, a reference to the
device of each slot, and the descriptors of two `uinput` devices.  `send` works on them under
`mutex_`, for whichever client has sent the events.  Here its functions are programs over what
they acquire, use and give back; `HeldBridge` is the bridge with the references in its
pointers, and `HeldBridge.bridge` is the bridge of `Capture.EisInput`.

An event of libei lives from `ei_get_event` to `ei_event_unref`, and keeps its device alive.  A
`QDBusUnixFileDescriptor` has a descriptor of its own.  The descriptor that
`ei_setup_backend_fd` is given belongs to libei from then on.

* `dispatch_spec`, `ensureEis_spec`, `ensureUinput_spec` and `send_spec`: each program does what
  its model does, only touches what it owns, and what it has acquired in the end is what the
  bridge holds.
-/

namespace UuAmfBridge

open Thread ThreadSystem

/-- The kinds of what the capture helper acquires. -/
inductive CaptureKind where
  | descriptor
  /-- A `struct ei`. -/
  | context
  /-- A reference to a `struct ei_device`. -/
  | device
  | event
  deriving Repr, DecidableEq

/-- The members of `InputBridge`, each pointer and descriptor with its name. -/
structure HeldBridge (D : Type) where
  eis : Option (Nat × Ei D) := none
  slots : Capability → Option (D × Nat) := fun _ => none
  retryAfter : Int := 0
  /-- `mouse_fd_` and `keyboard_fd_`. -/
  fds : UinputDevice → Option Nat := fun _ => none

/-- What a thread of the capture helper is started with: nothing for `server_thread`, the
descriptor for `client_thread`, and which of the connections it is. -/
inductive CaptureThread where
  | server
  | client (fd connection : Nat)

/-- The programs of the capture helper; `mutex_` protects the bridge. -/
abbrev CaptureProgram (D : Type) := Program CaptureKind (HeldBridge D) CaptureThread

/-- The order in which the slots are visited. -/
def slotOrder : List Capability := [.pointer, .pointerAbsolute, .button, .scroll, .keyboard]

namespace HeldBridge

variable {D : Type}

/-- The bridge, without the names. -/
def bridge (s : HeldBridge D) : InputBridge D where
  eis := s.eis.map Prod.snd
  slots capability := (s.slots capability).map Prod.fst
  retryAfter := s.retryAfter

/-- The reference in a slot. -/
def slot (s : HeldBridge D) (capability : Capability) : Multiset (Resource CaptureKind) :=
  target .device ((s.slots capability).map Prod.snd)

/-- What the bridge holds of libei. -/
def references (s : HeldBridge D) : Multiset (Resource CaptureKind) :=
  target .context (s.eis.map Prod.fst) + (s.slot .pointer + s.slot .pointerAbsolute +
    s.slot .button + s.slot .scroll + s.slot .keyboard)

/-- What the bridge holds of the kernel. -/
def devices (s : HeldBridge D) : Multiset (Resource CaptureKind) :=
  target .descriptor (s.fds .keyboard) + target .descriptor (s.fds .mouse)

/-- What the bridge holds. -/
def resources (s : HeldBridge D) : Multiset (Resource CaptureKind) := s.references + s.devices

/-- The bridge with another device in a slot, or with none. -/
def setSlot (s : HeldBridge D) (capability : Capability) (device : Option (D × Nat)) :
    HeldBridge D :=
  { s with slots := Function.update s.slots capability device }

/-- The bridge with another descriptor of a `uinput` device, or with none. -/
def setFd (s : HeldBridge D) (device : UinputDevice) (fd : Option Nat) : HeldBridge D :=
  { s with fds := Function.update s.fds device fd }

/-- The bridge with a new context, which knows no device. -/
def connected (s : HeldBridge D) (context : Nat) : HeldBridge D :=
  { s with eis := some (context, ⟨fun _ => false⟩) }

/-- `ei_device_start_emulating`, and the end of it. -/
def setEmulating [DecidableEq D] (s : HeldBridge D) (device : D) (emulating : Bool) :
    HeldBridge D :=
  { s with
    eis := s.eis.map fun held => (held.1, ⟨Function.update held.2.emulating device emulating⟩) }

end HeldBridge

section Programs

variable {D : Type} [DecidableEq D]

/-! ## The compositor -/

omit [DecidableEq D] in
/-- `release_device`. -/
def releaseDevice (s : HeldBridge D) (capability : Capability) :
    CaptureProgram D (HeldBridge D) :=
  match s.slots capability with
  | none => pure s
  | some (_, reference) => do
      release (.device, reference)
      pure (s.setSlot capability none)

omit [DecidableEq D] in
/-- `ei_unref` at the end of `reset_eis`. -/
def releaseContext (s : HeldBridge D) : CaptureProgram D (HeldBridge D) :=
  match s.eis with
  | none => pure s
  | some (context, _) => do
      release (.context, context)
      pure { s with eis := none }

omit [DecidableEq D] in
/-- `reset_eis`. -/
def resetProgram (s : HeldBridge D) : CaptureProgram D (HeldBridge D) := do
  let s ← slotOrder.foldlM releaseDevice s
  releaseContext s

/-- One turn of the loop of `clear_eis_device`. -/
def clearSlot (device : D) (s : HeldBridge D) (capability : Capability) :
    CaptureProgram D (HeldBridge D) :=
  match s.slots capability with
  | none => pure s
  | some (other, _) => if other = device then releaseDevice s capability else pure s

omit [DecidableEq D] in
/-- `set_eis_device`, while `event` keeps the device alive. -/
def setEisDevice (caps : D → Capability → Bool) (event : Nat) (device : D) (s : HeldBridge D)
    (capability : Capability) : CaptureProgram D (HeldBridge D) :=
  match s.slots capability with
  | some _ => pure s
  | none => do
      touch (.event, event)
      if caps device capability then do
        let reference ← take .device
        pure (s.setSlot capability (some (device, reference)))
      else pure s

/-- What `dispatch_eis` does with an event. -/
def applyEvent (caps : D → Capability → Bool) (name : Nat) (s : HeldBridge D) (event : EiEvent D) :
    CaptureProgram D (HeldBridge D) :=
  match event.type, event.device with
  | .seatAdded, _ => do
      touch (.event, name)
      pure s
  | .deviceResumed, some device => do
      touch (.event, name)
      slotOrder.foldlM (setEisDevice caps name device) (s.setEmulating device true)
  | .devicePaused, some device => slotOrder.foldlM (clearSlot device) (s.setEmulating device false)
  | .deviceRemoved, some device => slotOrder.foldlM (clearSlot device) (s.setEmulating device false)
  | _, _ => pure s

/-- The body of the event loop of `dispatch_eis`. -/
def handleEventProgram (caps : D → Capability → Bool) (context : Nat) (s : HeldBridge D)
    (event : EiEvent D) : CaptureProgram D (HeldBridge D) := do
  touch (.context, context)
  let name ← take .event
  touch (.event, name)
  let s ← applyEvent caps name s event
  release (.event, name)
  pure s

/-- `dispatch_eis` behind `ei_dispatch`. -/
def dispatchEvents (caps : D → Capability → Bool) (events : List (EiEvent D)) (context : Nat)
    (s : HeldBridge D) : CaptureProgram D (HeldBridge D × Bool) := do
  let s ← events.foldlM (handleEventProgram caps context) s
  touch (.context, context)
  if events.any (·.type = .disconnect) then do
    let s ← resetProgram s
    pure ({ s with retryAfter := 0 }, false)
  else pure (s, true)

/-- `dispatch_eis`. -/
def dispatchProgram (caps : D → Capability → Bool) (dispatch : Dispatch D) (s : HeldBridge D) :
    CaptureProgram D (HeldBridge D × Bool) :=
  match s.eis with
  | none => pure (s, false)
  | some (context, _) => do
      touch (.context, context)
      if dispatch.poll = .error then pure (s, false)
      else do
        touch (.context, context)
        dispatchEvents caps dispatch.events context s

/-- The loop of `ensure_eis` that waits for devices. -/
def awaitDevicesProgram (caps : D → Capability → Bool) :
    Nat → List (Dispatch D) → HeldBridge D → CaptureProgram D (HeldBridge D)
  | 0, _, s => pure s
  | attempts + 1, dispatches, s =>
      if s.bridge.usable then pure s
      else do
        let next ← dispatchProgram caps (dispatches.headD {}) s
        if next.2 then awaitDevicesProgram caps attempts dispatches.tail next.1
        else pure next.1

omit [DecidableEq D] in
/-- The end of `ensure_eis`. -/
def readyProgram (s : HeldBridge D) : CaptureProgram D (HeldBridge D × Bool) :=
  if s.bridge.usable then pure ({ s with retryAfter := 0 }, true)
  else do
    let s ← resetProgram s
    pure (s, false)

omit [DecidableEq D] in
/-- The descriptor in the answer of the compositor, and the context that is set up with a
duplicate of it. -/
def setupProgram : CaptureProgram D (Nat × Nat) := do
  let descriptor ← take .descriptor
  touch (.descriptor, descriptor)
  let fd ← take .descriptor
  let context ← take .context
  touch (.context, context)
  release (.descriptor, fd)
  pure (descriptor, context)

omit [DecidableEq D] in
/-- `ensure_eis` from `ei_new_sender` on, where this gives a context. -/
def withContext (s : HeldBridge D)
    (body : HeldBridge D → CaptureProgram D (HeldBridge D × Bool)) :
    CaptureProgram D (HeldBridge D × Bool) := do
  let opened ← setupProgram
  let next ← body (s.connected opened.2)
  release (.descriptor, opened.1)
  pure next

/-- `ensure_eis` from `connectToEIS` on; `reply` says whether there is a descriptor in the
answer of the compositor. -/
def connectProgram (caps : D → Capability → Bool) (connect : EisConnect D) (reply : Bool)
    (s : HeldBridge D) : CaptureProgram D (HeldBridge D × Bool) :=
  match connect with
  | .noReply => pure (s, false)
  | .noDescriptor => do
      let descriptor ← allocate .descriptor reply
      giveBack .descriptor descriptor
      pure (s, false)
  | .noContext => do
      let descriptor ← take .descriptor
      touch (.descriptor, descriptor)
      let fd ← take .descriptor
      release (.descriptor, fd)
      release (.descriptor, descriptor)
      pure (s, false)
  | .noBackend => withContext s fun s => do
      let s ← resetProgram s
      pure (s, false)
  | .connected dispatches => withContext s fun s => do
      let s ← awaitDevicesProgram caps 40 dispatches s
      readyProgram s

/-- `ensure_eis`. -/
def ensureEisProgram (caps : D → Capability → Bool) (env : EnsureEnv D) (reply : Bool)
    (s : HeldBridge D) : CaptureProgram D (HeldBridge D × Bool) :=
  if s.eis.isSome then do
    let next ← dispatchProgram caps env.dispatch s
    pure (next.1, next.1.bridge.usable)
  else if env.now < s.retryAfter then pure (s, false)
  else connectProgram caps env.connect reply { s with retryAfter := env.marked + 5 }

omit [DecidableEq D] in
/-- The calls of an event, each with the `ei_device_frame` behind it, up to the first one that
cannot be made. -/
def emitCallsProgram (regions : D → Option EiRegion) (context : Nat) (s : HeldBridge D) :
    List (Capability × EiCall) → CaptureProgram D (List (Emission D) × Bool)
  | [] => pure ([], true)
  | call :: calls =>
      match s.slots call.1 with
      | none => pure ([], false)
      | some (device, reference) => do
          touch (.device, reference)
          if call.1 = .pointerAbsolute ∧ regions device = none then pure ([], false)
          else do
            touch (.device, reference)
            touch (.context, context)
            touch (.device, reference)
            let rest ← emitCallsProgram regions context s calls
            pure (⟨s.bridge, call.1, device, call.2, regions device⟩ :: rest.1, rest.2)

/-- `send_mouse_eis`, or `send_keyboard_eis` with `calls` for the call of a key; there are none
for a key that is refused. -/
def sendCallsProgram (caps : D → Capability → Bool) (regions : D → Option EiRegion)
    (dispatch : Dispatch D) (calls : Option (List (Capability × EiCall))) (s : HeldBridge D) :
    CaptureProgram D (HeldBridge D × List (Emission D) × Bool) := do
  let next ← dispatchProgram caps dispatch s
  match next.1.eis, calls with
  | some (context, _), some calls => do
      let sent ← emitCallsProgram regions context next.1 calls
      pure (next.1, sent.1, sent.2)
  | _, _ => pure (next.1, [], false)

/-- One event of a batch, through the compositor. -/
def sendEventProgram (caps : D → Capability → Bool) (regions : D → Option EiRegion)
    (dispatch : Dispatch D) (event : CaptureInputEvent) (s : HeldBridge D) :
    CaptureProgram D (HeldBridge D × List (Emission D) × Bool) :=
  if event.type = captureInputMouse then
    sendCallsProgram caps regions dispatch (some (mouseCalls event)) s
  else if event.type = captureInputKeyboard then
    sendCallsProgram caps regions dispatch
      ((keyboardCode event).map fun code => [(.keyboard, .key code (!event.has 0x0002))]) s
  else pure (s, [], false)

/-- The loop of `send` over the compositor. -/
def sendLoopEisProgram (caps : D → Capability → Bool) (regions : D → Option EiRegion) :
    List CaptureInputEvent → List (Dispatch D) → HeldBridge D →
      CaptureProgram D (HeldBridge D × List (Emission D) × Nat)
  | [], _, s => pure (s, [], 0)
  | event :: events, dispatches, s => do
      let sent ← sendEventProgram caps regions (dispatches.headD {}) event s
      if sent.2.2 then do
        let rest ← sendLoopEisProgram caps regions events dispatches.tail sent.1
        pure (rest.1, sent.2.1 ++ rest.2.1, rest.2.2 + 1)
      else pure (sent.1, sent.2.1, 0)

/-! ## The kernel -/

/-- A request of `ioctl` to `/dev/uinput`. -/
inductive UinputRequest where
  | setEvbit (type : InputEventType)
  | setKeybit (code : Nat)
  | setRelbit (code : Nat)
  /-- `INPUT_PROP_POINTER`. -/
  | setPropbit
  | absSetup (code minimum maximum : Nat)
  | devSetup (vendor product : Nat) (name : String)
  | devCreate

/-- The requests of `create_keyboard`. -/
def keyboardRequests : List UinputRequest :=
  [.setEvbit .key] ++ (List.range' 1 (btnMisc - 1)).map .setKeybit ++
    [.devSetup 0x1209 0x5551 "UU Remote Wayland Keyboard", .devCreate]

/-- `BTN_FORWARD`, `BTN_BACK` and `BTN_TASK`. -/
def moreButtons : List Nat := [0x115, 0x116, 0x117]

/-- The requests of `create_mouse`. -/
def mouseRequests : List UinputRequest :=
  [.setEvbit .key, .setEvbit .rel, .setEvbit .abs, .setPropbit] ++
    ([btnLeft, btnRight, btnMiddle, btnSide, btnExtra] ++ moreButtons).map .setKeybit ++
    [relX, relY, relWheel, relHwheel].map .setRelbit ++
    [absX, absY].map (.absSetup · 0 65535) ++
    [.devSetup 0x1209 0x5552 "UU Remote Wayland Mouse", .devCreate]

def deviceRequests : UinputDevice → List UinputRequest
  | .mouse => mouseRequests
  | .keyboard => keyboardRequests

/-- What `create_keyboard` or `create_mouse` meets: whether `/dev/uinput` opens, and which
requests succeed; behind the end of the list they do. -/
structure UinputEnv where
  opens : Bool := true
  ioctls : List Bool := []

/-- The device is created. -/
def UinputEnv.creates (env : UinputEnv) (requests : List UinputRequest) : Bool :=
  env.opens && (env.ioctls.take requests.length).all id

omit [DecidableEq D] in
/-- The requests, and `fail`. -/
def requestsProgram (fd : Nat) : List UinputRequest → List Bool → CaptureProgram D (Option Nat)
  | [], _ => pure (some fd)
  | _ :: requests, results => do
      touch (.descriptor, fd)
      if results.headD true then requestsProgram fd requests results.tail
      else do
        release (.descriptor, fd)
        pure none

omit [DecidableEq D] in
/-- `create_keyboard` and `create_mouse`. -/
def createDevice (requests : List UinputRequest) (env : UinputEnv) :
    CaptureProgram D (Option Nat) :=
  if !env.opens then pure none
  else do
    let fd ← take .descriptor
    requestsProgram fd requests env.ioctls

omit [DecidableEq D] in
/-- `destroy_device`. -/
def destroyDevice (device : UinputDevice) (s : HeldBridge D) : CaptureProgram D (HeldBridge D) :=
  match s.fds device with
  | none => pure s
  | some fd => do
      touch (.descriptor, fd)
      release (.descriptor, fd)
      pure (s.setFd device none)

omit [DecidableEq D] in
/-- Both devices, as `ensure_uinput` asks for them before and after it creates them. -/
def HeldBridge.hasDevices (s : HeldBridge D) : Bool :=
  (s.fds .keyboard).isSome && (s.fds .mouse).isSome

omit [DecidableEq D] in
/-- The end of `ensure_uinput`. -/
def keepDevices (s : HeldBridge D) : CaptureProgram D (HeldBridge D × Bool) :=
  if s.hasDevices then pure (s, true)
  else do
    let s ← destroyDevice .keyboard s
    let s ← destroyDevice .mouse s
    pure (s, false)

omit [DecidableEq D] in
/-- `ensure_uinput`. -/
def ensureUinputProgram (env : UinputDevice → UinputEnv) (s : HeldBridge D) :
    CaptureProgram D (HeldBridge D × Bool) :=
  if s.hasDevices then pure (s, true)
  else do
    let s ← destroyDevice .keyboard s
    let s ← destroyDevice .mouse s
    let keyboard ← createDevice (deviceRequests .keyboard) (env .keyboard)
    let mouse ← createDevice (deviceRequests .mouse) (env .mouse)
    keepDevices ((s.setFd .keyboard keyboard).setFd .mouse mouse)

omit [DecidableEq D] in
/-- The `write` of `emit_event`. -/
def writeProgram (s : HeldBridge D) (event : InputEvent) : CaptureProgram D Unit :=
  match s.fds event.device with
  | none => pure ()
  | some fd => touch (.descriptor, fd)

omit [DecidableEq D] in
/-- `emit_event` for each event of a group, up to the first failure. -/
def writeGroupProgram (s : HeldBridge D) :
    List InputEvent → List Bool → CaptureProgram D Written
  | [], writes => pure ⟨[], true, writes⟩
  | event :: group, writes => do
      writeProgram s event
      if writes.headD true then do
        let rest ← writeGroupProgram s group writes.tail
        pure ⟨event :: rest.events, rest.ok, rest.writes⟩
      else pure ⟨[], false, writes.tail⟩

omit [DecidableEq D] in
/-- All groups of an event, whatever fails. -/
def writeGroupsProgram (s : HeldBridge D) :
    List (List InputEvent) → List Bool → CaptureProgram D Written
  | [], writes => pure ⟨[], true, writes⟩
  | group :: groups, writes => do
      let first ← writeGroupProgram s group writes
      let rest ← writeGroupsProgram s groups first.writes
      pure ⟨first.events ++ rest.events, first.ok && rest.ok, rest.writes⟩

omit [DecidableEq D] in
/-- `send_mouse_uinput` and `send_keyboard_uinput`. -/
def sendEventUinputProgram (s : HeldBridge D) (event : CaptureInputEvent) (writes : List Bool) :
    CaptureProgram D Written :=
  match eventGroups? event with
  | none => pure ⟨[], false, writes⟩
  | some groups => writeGroupsProgram s groups writes

omit [DecidableEq D] in
/-- The loop of `send` over `uinput`. -/
def sendLoopUinputProgram (s : HeldBridge D) :
    List CaptureInputEvent → List Bool → CaptureProgram D WrittenBatch
  | [], _ => pure ⟨[], 0⟩
  | event :: events, writes => do
      let sent ← sendEventUinputProgram s event writes
      if sent.ok then do
        let rest ← sendLoopUinputProgram s events sent.writes
        pure ⟨sent.events ++ rest.events, rest.accepted + 1⟩
      else pure ⟨sent.events, 0⟩

/-! ## A batch -/

/-- What a call of `send` meets beside its events. -/
structure BridgeEnv (D : Type) where
  ensure : EnsureEnv D := {}
  /-- There is a descriptor in the answer to `connectToEIS`. -/
  reply : Bool := true
  dispatches : List (Dispatch D) := []
  create : UinputDevice → UinputEnv := fun _ => {}
  writes : List Bool := []

omit [DecidableEq D] in
/-- `ensure_uinput` returns true. -/
def BridgeEnv.uinputReady (env : BridgeEnv D) (s : HeldBridge D) : Bool :=
  s.hasDevices || ((env.create .keyboard).creates (deviceRequests .keyboard) &&
    (env.create .mouse).creates (deviceRequests .mouse))

/-- The batch for the bridge, as the models of `send` take it. -/
def BridgeEnv.op (env : BridgeEnv D) (s : HeldBridge D) (events : List CaptureInputEvent) :
    SendOp D where
  events
  ensure := env.ensure
  dispatches := env.dispatches
  uinputReady := env.uinputReady s
  uinput := uinputTakes events env.writes

omit [DecidableEq D] in
/-- `send` where the compositor is not used. -/
def sendUinputProgram (env : BridgeEnv D) (events : List CaptureInputEvent) (s : HeldBridge D) :
    CaptureProgram D (HeldBridge D × DeviceBatch) := do
  let ready ← ensureUinputProgram env.create s
  if ready.2 then do
    let written ← sendLoopUinputProgram ready.1 events env.writes
    pure (ready.1, { accepted := written.accepted, writes := written.events })
  else pure (ready.1, { accepted := 0 })

/-- `InputBridge::send`, in `mutex_`. -/
def sendProgram (caps : D → Capability → Bool) (regions : D → Option EiRegion) (env : BridgeEnv D)
    (events : List CaptureInputEvent) (s : HeldBridge D) :
    CaptureProgram D (HeldBridge D × DeviceBatch) := do
  let ensured ← ensureEisProgram caps env.ensure env.reply s
  if ensured.2 then do
    let sent ← sendLoopEisProgram caps regions events env.dispatches ensured.1
    pure (sent.1, { accepted := sent.2.2, calls := sent.2.1.map Emission.request })
  else sendUinputProgram env events ensured.1

end Programs

/-! ## Slots -/

/-- The bridge with another device in a slot, or with none. -/
def InputBridge.setSlot {D : Type*} (bridge : InputBridge D) (capability : Capability)
    (device : Option D) : InputBridge D :=
  { bridge with slots := Function.update bridge.slots capability device }

namespace HeldBridge

variable {D : Type}

/-- What the loops over the slots leave as it is. -/
def Keeps (context : Option Nat) (fds : UinputDevice → Option Nat) (s : HeldBridge D) : Prop :=
  s.eis.map Prod.fst = context ∧ s.fds = fds

variable (s : HeldBridge D)

theorem setSlot_none {capability : Capability} (h : s.slots capability = none) :
    s.setSlot capability none = s := by
  unfold setSlot
  rw [← h, Function.update_eq_self]

/-- A slot holds its reference beside what the others hold. -/
theorem resources_setSlot (capability : Capability) (device : Option (D × Nat)) :
    (s.setSlot capability device).resources =
      target .device (device.map Prod.snd) + (s.setSlot capability none).resources := by
  cases capability <;>
    simp only [resources, references, slot, setSlot, devices, Function.update, reduceCtorEq,
      dite_false, dite_true, Option.map_none, target_none] <;>
    abel

theorem resources_slot (capability : Capability) :
    s.resources = s.slot capability + (s.setSlot capability none).resources := by
  have hsame : s.setSlot capability (s.slots capability) = s := by
    unfold setSlot
    rw [Function.update_eq_self]
  rw [slot, ← resources_setSlot, hsame]

theorem bridge_setSlot (capability : Capability) (device : Option (D × Nat)) :
    (s.setSlot capability device).bridge =
      s.bridge.setSlot capability (device.map Prod.fst) := by
  unfold bridge setSlot InputBridge.setSlot
  congr 1
  funext other
  by_cases hother : other = capability
  · subst hother
    simp
  · simp [hother]

end HeldBridge

/-- A loop over the slots changes each of them on its own. -/
theorem foldl_slotOrder {D : Type} (change : Capability → Option D → Option D)
    (bridge : InputBridge D) :
    slotOrder.foldl (fun bridge capability =>
        bridge.setSlot capability (change capability (bridge.slots capability))) bridge =
      { bridge with slots := fun capability => change capability (bridge.slots capability) } := by
  unfold slotOrder
  simp only [List.foldl_cons, List.foldl_nil, InputBridge.setSlot]
  congr 1
  funext capability
  cases capability <;> simp

section Specs

variable {D : Type} [DecidableEq D]
  {system : ThreadSystem CaptureKind (HeldBridge D) CaptureThread} {crashes : Prop}
  {inside : Bool} {caps : D → Capability → Bool} {regions : D → Option EiRegion}
  {context : Option Nat} {fds : UinputDevice → Option Nat}

omit [DecidableEq D] in
theorem releaseDevice_spec (s : HeldBridge D) (capability : Capability) :
    system.Spec crashes inside s.resources (releaseDevice s capability)
      (fun next => next = s.setSlot capability none) HeldBridge.resources := by
  unfold releaseDevice
  cases hslot : s.slots capability with
  | none => exact Spec.ret (s.setSlot_none hslot).symm rfl
  | some held =>
    have hwhole := s.resources_slot capability
    rw [HeldBridge.slot, hslot] at hwhole
    exact Spec.release_then hwhole (Spec.ret rfl rfl)

omit [DecidableEq D] in
/-- A loop over the slots whose turns each change one slot. -/
theorem slotLoop_spec {turn : HeldBridge D → Capability → CaptureProgram D (HeldBridge D)}
    (change : Capability → Option D → Option D) (rest : Multiset (Resource CaptureKind))
    (h : ∀ s capability, system.Spec crashes inside (rest + s.resources) (turn s capability)
      (fun next => ∃ device, next = s.setSlot capability device ∧
        device.map Prod.fst = change capability (s.bridge.slots capability))
      fun next => rest + next.resources) (s : HeldBridge D) :
    system.Spec crashes inside (rest + s.resources) (slotOrder.foldlM turn s)
      (fun next => next.Keeps (s.eis.map Prod.fst) s.fds ∧ next.bridge =
        { s.bridge with
          slots := fun capability => change capability (s.bridge.slots capability) })
      fun next => rest + next.resources := by
  rw [← foldl_slotOrder]
  refine Spec.foldlM (HeldBridge.Keeps (s.eis.map Prod.fst) s.fds) HeldBridge.bridge _
    (fun next => rest + next.resources) slotOrder (fun state capability hstate => ?_) s ⟨rfl, rfl⟩
  refine (h state capability).consequence fun next hnext => ⟨?_, rfl⟩
  obtain ⟨device, rfl, hdevice⟩ := hnext
  refine ⟨hstate, ?_⟩
  rw [HeldBridge.bridge_setSlot, hdevice]

/-- The bridge a program leaves is the one of the model, and the `uinput` devices are as they
were. -/
structure Follows (s next : HeldBridge D) (bridge : InputBridge D) : Prop where
  bridge : next.bridge = bridge
  fds : next.fds = s.fds

omit [DecidableEq D] in
theorem releaseSlots_spec (s : HeldBridge D) :
    system.Spec crashes inside s.resources (slotOrder.foldlM releaseDevice s)
      (fun next => next.Keeps (s.eis.map Prod.fst) s.fds ∧
        next.bridge = { s.bridge with slots := fun _ => none }) HeldBridge.resources := by
  have hturn : ∀ (s : HeldBridge D) capability, system.Spec crashes inside (0 + s.resources)
      (releaseDevice s capability)
      (fun next => ∃ device, next = s.setSlot capability device ∧ device.map Prod.fst = none)
      fun next => 0 + next.resources := by
    intro s capability
    rw [zero_add]
    exact (releaseDevice_spec s capability).consequence fun next hnext =>
      ⟨⟨none, hnext, rfl⟩, (zero_add _).symm⟩
  have hloop := slotLoop_spec (fun _ _ => none) 0 hturn s
  rw [zero_add] at hloop
  exact hloop.consequence fun next hnext => ⟨hnext, zero_add _⟩

omit [DecidableEq D] in
theorem releaseContext_spec (s : HeldBridge D) :
    system.Spec crashes inside s.resources (releaseContext s)
      (fun next => next = { s with eis := none }) HeldBridge.resources := by
  unfold releaseContext
  cases heis : s.eis with
  | none =>
    refine Spec.ret ?_ rfl
    rw [← heis]
  | some held =>
    have hwhole : s.resources =
        {(.context, held.1)} + { s with eis := none : HeldBridge D }.resources := by
      unfold HeldBridge.resources HeldBridge.references
      rw [heis]
      simp only [Option.map_some, target_some, Option.map_none, target_none, zero_add]
      exact add_assoc _ _ _
    exact Spec.release_then hwhole (Spec.ret rfl rfl)

omit [DecidableEq D] in
theorem reset_spec (s : HeldBridge D) :
    system.Spec crashes inside s.resources (resetProgram s)
      (fun next => Follows s next s.bridge.reset ∧ next.eis = none) HeldBridge.resources := by
  refine Spec.bind (releaseSlots_spec s) (add_zero _).symm fun empty hempty => ?_
  rw [add_zero]
  refine (releaseContext_spec empty).consequence fun next hnext => ⟨?_, rfl⟩
  obtain ⟨⟨-, hfds⟩, hbridge⟩ := hempty
  subst hnext
  refine ⟨⟨?_, hfds⟩, rfl⟩
  show { empty.bridge with eis := none } = s.bridge.reset
  rw [hbridge]
  rfl

theorem clearSlot_spec (device : D) (s : HeldBridge D) (capability : Capability) :
    system.Spec crashes inside s.resources (clearSlot device s capability)
      (fun next => ∃ held, next = s.setSlot capability held ∧ held.map Prod.fst =
        if s.bridge.slots capability = some device then none else s.bridge.slots capability)
      HeldBridge.resources := by
  unfold clearSlot
  have hmodel : s.bridge.slots capability = (s.slots capability).map Prod.fst := rfl
  have hsame : s = s.setSlot capability (s.slots capability) := by
    unfold HeldBridge.setSlot
    rw [Function.update_eq_self]
  cases hslot : s.slots capability with
  | none =>
    refine Spec.ret ⟨none, ?_, ?_⟩ rfl
    · rw [← hslot, ← hsame]
    · rw [hmodel, hslot]
      rfl
  | some held =>
    by_cases heq : held.1 = device
    · simp only [if_pos heq]
      refine (releaseDevice_spec s capability).consequence fun next hnext => ⟨⟨none, hnext, ?_⟩, rfl⟩
      rw [hmodel, hslot, Option.map_some, if_pos (congrArg some heq)]
      rfl
    · simp only [if_neg heq]
      refine Spec.ret ⟨some held, ?_, ?_⟩ rfl
      · rw [← hslot, ← hsame]
      · rw [hmodel, hslot, Option.map_some, if_neg (fun h => heq (Option.some.inj h))]

theorem clearDevice_spec (device : D) (s : HeldBridge D) :
    system.Spec crashes inside s.resources (slotOrder.foldlM (clearSlot device) s)
      (fun next => next.Keeps (s.eis.map Prod.fst) s.fds ∧
        next.bridge = s.bridge.clearDevice device) HeldBridge.resources := by
  have hturn : ∀ (s : HeldBridge D) capability, system.Spec crashes inside (0 + s.resources)
      (clearSlot device s capability)
      (fun next => ∃ held, next = s.setSlot capability held ∧ held.map Prod.fst =
        if s.bridge.slots capability = some device then none else s.bridge.slots capability)
      fun next => 0 + next.resources := by
    intro s capability
    rw [zero_add]
    exact (clearSlot_spec device s capability).consequence fun next hnext =>
      ⟨hnext, (zero_add _).symm⟩
  have hloop := slotLoop_spec (fun _ held => if held = some device then none else held) 0 hturn s
  rw [zero_add] at hloop
  exact hloop.consequence fun next hnext => ⟨hnext, zero_add _⟩

omit [DecidableEq D] in
theorem setEisDevice_spec (event : Nat) (device : D) (s : HeldBridge D) (capability : Capability) :
    system.Spec crashes inside ({(.event, event)} + s.resources)
      (setEisDevice caps event device s capability)
      (fun next => ∃ held, next = s.setSlot capability held ∧ held.map Prod.fst =
        (s.bridge.slots capability).or (if caps device capability then some device else none))
      fun next => {(.event, event)} + next.resources := by
  unfold setEisDevice
  have hmodel : s.bridge.slots capability = (s.slots capability).map Prod.fst := rfl
  cases hslot : s.slots capability with
  | some held =>
    refine Spec.ret ⟨some held, ?_, ?_⟩ rfl
    · unfold HeldBridge.setSlot
      rw [← hslot, Function.update_eq_self]
    · rw [hmodel, hslot]
      rfl
  | none =>
    rw [hmodel, hslot, Option.map_none, Option.none_or]
    refine Spec.touch_then (by simp) ?_
    by_cases hcaps : caps device capability = true
    · rw [if_pos hcaps, if_pos hcaps]
      refine Spec.take_then fun reference => Spec.ret ⟨some (device, reference), rfl, rfl⟩ ?_
      rw [HeldBridge.resources_setSlot, s.setSlot_none hslot]
      exact add_left_comm _ _ _
    · rw [if_neg hcaps, if_neg hcaps]
      exact Spec.ret ⟨none, (s.setSlot_none hslot).symm, rfl⟩ rfl

omit [DecidableEq D] in
theorem setDevices_spec (event : Nat) (device : D) (s : HeldBridge D) :
    system.Spec crashes inside ({(.event, event)} + s.resources)
      (slotOrder.foldlM (setEisDevice caps event device) s)
      (fun next => next.Keeps (s.eis.map Prod.fst) s.fds ∧
        next.bridge = s.bridge.setDevices caps device)
      fun next => {(.event, event)} + next.resources := by
  refine (slotLoop_spec (fun capability held =>
      held.or (if caps device capability then some device else none)) _
    (setEisDevice_spec event device) s).consequence fun next hnext => ⟨⟨hnext.1, ?_⟩, rfl⟩
  have hslots : (fun capability => (s.bridge.slots capability).or
      (if caps device capability then some device else none)) =
        (s.bridge.setDevices caps device).slots := by
    funext capability
    unfold InputBridge.setDevices
    simp only
    cases s.bridge.slots capability <;> rfl
  rw [hnext.2, hslots]
  rfl

/-! ## Dispatches -/

theorem setEmulating_bridge (s : HeldBridge D) (device : D) (emulating : Bool) :
    (s.setEmulating device emulating).bridge = s.bridge.setEmulating device emulating := by
  unfold HeldBridge.setEmulating HeldBridge.bridge InputBridge.setEmulating
  cases s.eis <;> rfl

theorem setEmulating_context (s : HeldBridge D) (device : D) (emulating : Bool) :
    (s.setEmulating device emulating).eis.map Prod.fst = s.eis.map Prod.fst := by
  unfold HeldBridge.setEmulating
  cases s.eis <;> rfl

theorem setEmulating_resources (s : HeldBridge D) (device : D) (emulating : Bool) :
    (s.setEmulating device emulating).resources = s.resources := by
  unfold HeldBridge.resources HeldBridge.references
  rw [setEmulating_context]
  rfl

theorem keeps_of_setEmulating {s next : HeldBridge D} {device : D} {emulating : Bool}
    (change : InputBridge D → InputBridge D)
    (h : next.Keeps ((s.setEmulating device emulating).eis.map Prod.fst)
        (s.setEmulating device emulating).fds ∧
      next.bridge = change (s.setEmulating device emulating).bridge) :
    next.Keeps (s.eis.map Prod.fst) s.fds ∧
      next.bridge = change (s.bridge.setEmulating device emulating) := by
  rw [setEmulating_context, setEmulating_bridge] at h
  exact h

/-- A device that begins to emulate fills the empty slots it has a capability for. -/
theorem startDevice_spec (event : Nat) (device : D) (s : HeldBridge D) :
    system.Spec crashes inside ({(.event, event)} + s.resources)
      (slotOrder.foldlM (setEisDevice caps event device) (s.setEmulating device true))
      (fun next => next.Keeps (s.eis.map Prod.fst) s.fds ∧
        next.bridge = (s.bridge.setEmulating device true).setDevices caps device)
      fun next => {(.event, event)} + next.resources := by
  rw [← setEmulating_resources s device true]
  refine (setDevices_spec event device (s.setEmulating device true)).consequence
    fun next hnext => ⟨?_, rfl⟩
  exact keeps_of_setEmulating (InputBridge.setDevices caps · device) hnext

/-- A device that no longer emulates leaves its slots. -/
theorem stopDevice_spec (device : D) (s : HeldBridge D) (rest : Multiset (Resource CaptureKind)) :
    system.Spec crashes inside (rest + s.resources)
      (slotOrder.foldlM (clearSlot device) (s.setEmulating device false))
      (fun next => next.Keeps (s.eis.map Prod.fst) s.fds ∧
        next.bridge = (s.bridge.setEmulating device false).clearDevice device)
      fun next => rest + next.resources := by
  have hwhole : rest + s.resources = (s.setEmulating device false).resources + rest := by
    rw [setEmulating_resources, add_comm]
  refine Spec.beside ((clearDevice_spec device (s.setEmulating device false)).consequence
    fun next hnext => ⟨?_, rfl⟩) hwhole fun _ _ => add_comm _ _
  exact keeps_of_setEmulating (InputBridge.clearDevice · device) hnext

theorem applyEvent_spec (name : Nat) (s : HeldBridge D) (event : EiEvent D) :
    system.Spec crashes inside ({(.event, name)} + s.resources) (applyEvent caps name s event)
      (fun next => next.Keeps (s.eis.map Prod.fst) s.fds ∧
        next.bridge = s.bridge.handleEvent caps event)
      fun next => {(.event, name)} + next.resources := by
  obtain ⟨type, device⟩ := event
  have hnothing : ∀ handled : InputBridge D, handled = s.bridge →
      system.Spec crashes inside ({(.event, name)} + s.resources) (pure s)
        (fun next => next.Keeps (s.eis.map Prod.fst) s.fds ∧ next.bridge = handled)
        fun next => {(.event, name)} + next.resources := by
    intro handled hhandled
    exact Spec.ret ⟨⟨rfl, rfl⟩, hhandled.symm⟩ rfl
  cases type with
  | seatAdded => exact Spec.touch_then (by simp) (hnothing _ (by cases device <;> rfl))
  | deviceResumed =>
    cases device with
    | none => exact hnothing _ rfl
    | some device =>
      exact Spec.touch_then (by simp) (startDevice_spec name device s)
  | devicePaused =>
    cases device with
    | none => exact hnothing _ rfl
    | some device => exact stopDevice_spec device s _
  | deviceRemoved =>
    cases device with
    | none => exact hnothing _ rfl
    | some device => exact stopDevice_spec device s _
  | disconnect => exact hnothing _ (by cases device <;> rfl)
  | other => exact hnothing _ (by cases device <;> rfl)

omit [DecidableEq D] in
theorem context_mem {s : HeldBridge D} {context : Nat}
    (h : s.eis.map Prod.fst = some context) : (.context, context) ∈ s.resources := by
  unfold HeldBridge.resources HeldBridge.references
  rw [h]
  simp

theorem handleEvent_spec {context : Nat} {s : HeldBridge D}
    (hcontext : s.eis.map Prod.fst = some context) (event : EiEvent D) :
    system.Spec crashes inside s.resources (handleEventProgram caps context s event)
      (fun next => next.Keeps (some context) s.fds ∧
        next.bridge = s.bridge.handleEvent caps event) HeldBridge.resources := by
  refine Spec.touch_then (context_mem hcontext) (Spec.take_then fun name => ?_)
  refine Spec.touch_then (by simp) ?_
  refine Spec.bind (applyEvent_spec name s event) (add_zero _).symm fun next hnext => ?_
  rw [add_zero]
  rw [hcontext] at hnext
  exact Spec.release_then rfl (Spec.ret hnext rfl)

theorem handleEvents_spec {context : Nat} {s : HeldBridge D}
    (hcontext : s.eis.map Prod.fst = some context) (events : List (EiEvent D)) :
    system.Spec crashes inside s.resources (events.foldlM (handleEventProgram caps context) s)
      (fun next => next.Keeps (some context) s.fds ∧
        next.bridge = events.foldl (InputBridge.handleEvent caps) s.bridge)
      HeldBridge.resources := by
  refine Spec.foldlM (HeldBridge.Keeps (some context) s.fds) HeldBridge.bridge _
    HeldBridge.resources events (fun state event hstate => ?_) s ⟨hcontext, rfl⟩
  rw [← hstate.2]
  exact handleEvent_spec hstate.1 event

theorem dispatchEvents_spec {context : Nat} {s : HeldBridge D}
    (hcontext : s.eis.map Prod.fst = some context) (events : List (EiEvent D)) :
    system.Spec crashes inside s.resources (dispatchEvents caps events context s)
      (fun next =>
        let handled := events.foldl (InputBridge.handleEvent caps) s.bridge
        if events.any (·.type = .disconnect) then
          Follows s next.1 { handled.reset with retryAfter := 0 } ∧ next.2 = false
        else Follows s next.1 handled ∧ next.2 = true)
      fun next => next.1.resources := by
  refine Spec.bind (handleEvents_spec hcontext events) (add_zero _).symm fun handled hhandled => ?_
  rw [add_zero]
  obtain ⟨⟨hcontext', hfds⟩, hbridge⟩ := hhandled
  refine Spec.touch_then (context_mem hcontext') ?_
  by_cases hlost : events.any (·.type = .disconnect) = true
  · simp only [hlost, if_true]
    refine Spec.bind (reset_spec handled) (add_zero _).symm fun empty hempty => ?_
    rw [add_zero]
    refine Spec.ret ⟨⟨?_, hempty.1.fds.trans hfds⟩, rfl⟩ rfl
    have hreset : empty.bridge = handled.bridge.reset := hempty.1.bridge
    rw [hbridge] at hreset
    show { empty.bridge with retryAfter := 0 } = _
    rw [hreset]
  · simp only [hlost, Bool.false_eq_true, if_false]
    exact Spec.ret ⟨⟨hbridge, hfds⟩, rfl⟩ rfl

theorem dispatch_spec (dispatch : Dispatch D) (s : HeldBridge D) :
    system.Spec crashes inside s.resources (dispatchProgram caps dispatch s)
      (fun next => Follows s next.1 (dispatchEis caps dispatch s.bridge).1 ∧
        next.2 = (dispatchEis caps dispatch s.bridge).2)
      fun next => next.1.resources := by
  unfold dispatchProgram
  have heis : s.bridge.eis = s.eis.map Prod.snd := rfl
  cases hheld : s.eis with
  | none =>
    rw [hheld] at heis
    have hmodel : dispatchEis caps dispatch s.bridge = (s.bridge, false) := by
      unfold dispatchEis
      rw [heis]
      rfl
    rw [hmodel]
    exact Spec.ret ⟨⟨rfl, rfl⟩, rfl⟩ rfl
  | some held =>
    rw [hheld] at heis
    have hcontext : s.eis.map Prod.fst = some held.1 := by
      rw [hheld]
      rfl
    have hsome : ¬s.bridge.eis.isNone = true := by
      rw [heis]
      exact Bool.false_ne_true
    unfold dispatchEis
    rw [if_neg hsome]
    refine Spec.touch_then (context_mem hcontext) ?_
    by_cases hpoll : dispatch.poll = .error
    · rw [if_pos hpoll, if_pos hpoll]
      exact Spec.ret ⟨⟨rfl, rfl⟩, rfl⟩ rfl
    · rw [if_neg hpoll, if_neg hpoll]
      refine Spec.touch_then (context_mem hcontext) ?_
      refine (dispatchEvents_spec hcontext dispatch.events).consequence fun next hnext => ⟨?_, rfl⟩
      simp only at hnext ⊢
      split_ifs at hnext ⊢ <;> exact hnext

theorem awaitDevices_spec (attempts : Nat) (dispatches : List (Dispatch D)) (s : HeldBridge D) :
    system.Spec crashes inside s.resources (awaitDevicesProgram caps attempts dispatches s)
      (fun next => Follows s next (awaitDevices caps attempts dispatches s.bridge))
      HeldBridge.resources := by
  induction attempts generalizing dispatches s with
  | zero => exact Spec.ret ⟨rfl, rfl⟩ rfl
  | succ attempts ih =>
    unfold awaitDevicesProgram awaitDevices
    by_cases husable : s.bridge.usable = true
    · rw [if_pos husable, if_pos husable]
      exact Spec.ret ⟨rfl, rfl⟩ rfl
    · rw [if_neg husable, if_neg husable]
      refine Spec.bind (dispatch_spec (dispatches.headD {}) s) (add_zero _).symm fun next hnext => ?_
      rw [add_zero]
      obtain ⟨⟨hbridge, hfds⟩, hlive⟩ := hnext
      simp only [← hlive]
      cases hnext : next.2 with
      | false => exact Spec.ret ⟨hbridge, hfds⟩ rfl
      | true =>
        refine (ih dispatches.tail next.1).consequence fun last hlast => ⟨?_, rfl⟩
        rw [hbridge] at hlast
        exact ⟨hlast.bridge, hlast.fds.trans hfds⟩

omit [DecidableEq D] in
theorem ready_spec (s : HeldBridge D) :
    system.Spec crashes inside s.resources (readyProgram s)
      (fun next => Follows s next.1
          (if s.bridge.usable then { s.bridge with retryAfter := 0 } else s.bridge.reset) ∧
        next.2 = s.bridge.usable)
      fun next => next.1.resources := by
  unfold readyProgram
  by_cases husable : s.bridge.usable = true
  · rw [if_pos husable, if_pos husable, husable]
    exact Spec.ret ⟨⟨rfl, rfl⟩, rfl⟩ rfl
  · rw [if_neg husable, if_neg husable]
    refine Spec.bind (reset_spec s) (add_zero _).symm fun empty hempty => ?_
    rw [add_zero]
    exact Spec.ret ⟨hempty.1, (Bool.eq_false_iff.mpr husable).symm⟩ rfl

/-! ## Connecting -/

omit [DecidableEq D] in
theorem setup_spec : system.Spec crashes inside 0 (setupProgram : CaptureProgram D (Nat × Nat))
    (fun _ => True) fun opened => {(.descriptor, opened.1)} + {(.context, opened.2)} := by
  refine Spec.take_then fun descriptor => Spec.touch_then (by simp) (Spec.take_then fun fd => ?_)
  refine Spec.take_then fun context => Spec.touch_then (by simp) ?_
  have hwhole : ({(.context, context)} + ({(.descriptor, fd)} + ({(.descriptor, descriptor)} + 0)) :
      Multiset (Resource CaptureKind)) =
        {(.descriptor, fd)} + ({(.descriptor, descriptor)} + {(.context, context)}) := by
    abel
  exact Spec.release_then hwhole (Spec.ret trivial rfl)

omit [DecidableEq D] in
theorem connected_resources {s : HeldBridge D} (hnone : s.eis = none) (context : Nat) :
    (s.connected context).resources = {(.context, context)} + s.resources := by
  unfold HeldBridge.connected HeldBridge.resources HeldBridge.references
  rw [hnone]
  simp only [Option.map_some, target_some, Option.map_none, target_none, zero_add]
  exact add_assoc _ _ _

omit [DecidableEq D] in
theorem withContext_spec {s : HeldBridge D} (hnone : s.eis = none)
    {body : HeldBridge D → CaptureProgram D (HeldBridge D × Bool)}
    {result : HeldBridge D × Bool → Prop}
    (hbody : ∀ context, system.Spec crashes inside (s.connected context).resources
      (body (s.connected context)) result fun next => next.1.resources) :
    system.Spec crashes inside s.resources (withContext s body) result
      fun next => next.1.resources := by
  refine Spec.bind setup_spec (zero_add _).symm fun opened _ => ?_
  have hwhole : {(.descriptor, opened.1)} + {(.context, opened.2)} + s.resources =
      (s.connected opened.2).resources + {(.descriptor, opened.1)} := by
    rw [connected_resources hnone]
    abel
  refine Spec.bind (hbody opened.2) hwhole fun next hnext => ?_
  exact Spec.release_then (add_comm _ _) (Spec.ret hnext rfl)

theorem connect_spec {env : EnsureEnv D} {s : HeldBridge D} (hnone : s.eis = none)
    (hdue : ¬env.now < s.retryAfter) (reply : Bool) :
    system.Spec crashes inside s.resources
      (connectProgram caps env.connect reply { s with retryAfter := env.marked + 5 })
      (fun next => Follows s next.1 (ensureEis caps env s.bridge).1 ∧
        next.2 = (ensureEis caps env s.bridge).2)
      fun next => next.1.resources := by
  have hnone' : ¬s.bridge.eis.isSome = true := by
    rw [show s.bridge.eis = none from congrArg (Option.map Prod.snd) hnone]
    exact Bool.false_ne_true
  unfold ensureEis
  rw [if_neg hnone', if_neg (show ¬env.now < s.bridge.retryAfter from hdue)]
  let marked : HeldBridge D := { s with retryAfter := env.marked + 5 }
  have hmarked : marked.eis = none := hnone
  change system.Spec crashes inside marked.resources _ _ _
  unfold connectProgram
  cases hconnect : env.connect with
  | noReply => exact Spec.ret ⟨⟨rfl, rfl⟩, rfl⟩ rfl
  | noDescriptor =>
    refine Spec.allocate_then fun descriptor _ => Spec.giveBack_then rfl ?_
    exact Spec.ret ⟨⟨rfl, rfl⟩, rfl⟩ rfl
  | noContext =>
    refine Spec.take_then fun descriptor => Spec.touch_then (by simp) (Spec.take_then fun fd => ?_)
    refine Spec.release_then rfl (Spec.release_then rfl ?_)
    exact Spec.ret ⟨⟨rfl, rfl⟩, rfl⟩ rfl
  | noBackend =>
    refine withContext_spec hmarked fun context => ?_
    refine Spec.bind (reset_spec _) (add_zero _).symm fun empty hempty => ?_
    rw [add_zero]
    exact Spec.ret ⟨⟨hempty.1.bridge, hempty.1.fds⟩, rfl⟩ rfl
  | connected dispatches =>
    refine withContext_spec hmarked fun context => ?_
    refine Spec.bind (awaitDevices_spec 40 dispatches _) (add_zero _).symm fun next hnext => ?_
    rw [add_zero]
    obtain ⟨hbridge, hfds⟩ := hnext
    refine (ready_spec next).consequence fun last hlast => ⟨?_, rfl⟩
    obtain ⟨⟨hlastBridge, hlastFds⟩, hready⟩ := hlast
    have hstart : (marked.connected context).bridge =
        { s.bridge with retryAfter := env.marked + 5, eis := some ⟨fun _ => false⟩ } := rfl
    rw [hbridge, hstart] at hlastBridge hready
    simp only
    split_ifs at hlastBridge ⊢ with husable
    · exact ⟨⟨hlastBridge, hlastFds.trans hfds⟩, hready.trans husable⟩
    · exact ⟨⟨hlastBridge, hlastFds.trans hfds⟩, hready.trans (Bool.eq_false_iff.mpr husable)⟩

theorem ensureEis_spec (env : EnsureEnv D) (reply : Bool) (s : HeldBridge D) :
    system.Spec crashes inside s.resources (ensureEisProgram caps env reply s)
      (fun next => Follows s next.1 (ensureEis caps env s.bridge).1 ∧
        next.2 = (ensureEis caps env s.bridge).2)
      fun next => next.1.resources := by
  unfold ensureEisProgram
  have heis : s.bridge.eis.isSome = s.eis.isSome := Option.isSome_map
  by_cases hsome : s.eis.isSome = true
  · unfold ensureEis
    rw [if_pos hsome, if_pos (heis.trans hsome)]
    refine Spec.bind (dispatch_spec env.dispatch s) (add_zero _).symm fun next hnext => ?_
    rw [add_zero]
    exact Spec.ret ⟨hnext.1, congrArg InputBridge.usable hnext.1.bridge⟩ rfl
  · rw [if_neg hsome]
    by_cases hearly : env.now < s.retryAfter
    · unfold ensureEis
      rw [if_pos hearly, if_neg (by rwa [heis]), if_pos (show env.now < s.bridge.retryAfter from hearly)]
      exact Spec.ret ⟨⟨rfl, rfl⟩, rfl⟩ rfl
    · rw [if_neg hearly]
      exact connect_spec (Option.not_isSome_iff_eq_none.mp hsome) hearly reply

/-! ## Sending through the compositor -/

omit [DecidableEq D] in
theorem slot_mem {s : HeldBridge D} {capability : Capability} {device : D} {reference : Nat}
    (h : s.slots capability = some (device, reference)) :
    (.device, reference) ∈ s.resources := by
  rw [s.resources_slot capability, HeldBridge.slot, h]
  simp

omit [DecidableEq D] in
theorem emitCallsProgram_spec {context : Nat} {s : HeldBridge D}
    (hcontext : s.eis.map Prod.fst = some context) (calls : List (Capability × EiCall)) :
    system.Spec crashes inside s.resources (emitCallsProgram regions context s calls)
      (fun sent => sent = emitCalls regions s.bridge calls) fun _ => s.resources := by
  induction calls with
  | nil => exact Spec.ret rfl rfl
  | cons call calls ih =>
    unfold emitCallsProgram emitCalls emitCall
    have hmodel : s.bridge.slots call.1 = (s.slots call.1).map Prod.fst := rfl
    rw [hmodel]
    cases hslot : s.slots call.1 with
    | none => exact Spec.ret rfl rfl
    | some held =>
      have hheld : (.device, held.2) ∈ s.resources := slot_mem hslot
      refine Spec.touch_then hheld ?_
      simp only [Option.map_some]
      split
      next hregion => exact Spec.ret rfl rfl
      next hregion =>
        refine Spec.touch_then hheld (Spec.touch_then (context_mem hcontext) ?_)
        refine Spec.touch_then hheld ?_
        refine Spec.bind ih (add_zero _).symm fun rest hrest => ?_
        rw [add_zero]
        exact Spec.ret (by rw [hrest]) rfl

omit [DecidableEq D] in
/-- What is sent on a bridge behind `dispatch_eis`. -/
def sentCalls (regions : D → Option EiRegion) (bridge : InputBridge D)
    (calls : Option (List (Capability × EiCall))) : List (Emission D) × Bool :=
  if bridge.eis.isNone then ([], false)
  else (calls.map (emitCalls regions bridge)).getD ([], false)

theorem sendMouseEis_eq (dispatch : Dispatch D) (event : CaptureInputEvent)
    (bridge : InputBridge D) :
    let next := (dispatchEis caps dispatch bridge).1
    sendMouseEis caps regions dispatch event bridge =
      ⟨next, (sentCalls regions next (some (mouseCalls event))).1,
        (sentCalls regions next (some (mouseCalls event))).2⟩ := by
  unfold sendMouseEis sentCalls
  simp only
  split <;> rfl

theorem sendKeyboardEis_eq (dispatch : Dispatch D) (event : CaptureInputEvent)
    (bridge : InputBridge D) :
    let next := (dispatchEis caps dispatch bridge).1
    let calls := (keyboardCode event).map fun code =>
      [(.keyboard, .key code (!event.has 0x0002))]
    sendKeyboardEis caps regions dispatch event bridge =
      ⟨next, (sentCalls regions next calls).1, (sentCalls regions next calls).2⟩ := by
  unfold sendKeyboardEis sentCalls
  simp only
  split
  · rfl
  · cases keyboardCode event <;> rfl

theorem sendCalls_spec (dispatch : Dispatch D) (calls : Option (List (Capability × EiCall)))
    (s : HeldBridge D) :
    system.Spec crashes inside s.resources (sendCallsProgram caps regions dispatch calls s)
      (fun sent => Follows s sent.1 (dispatchEis caps dispatch s.bridge).1 ∧
        sent.2 = sentCalls regions (dispatchEis caps dispatch s.bridge).1 calls)
      fun sent => sent.1.resources := by
  unfold sendCallsProgram
  refine Spec.bind (dispatch_spec dispatch s) (add_zero _).symm fun next hnext => ?_
  rw [add_zero]
  obtain ⟨hfollows, -⟩ := hnext
  rw [← hfollows.bridge]
  have hfollows' : Follows s next.1 next.1.bridge := ⟨rfl, hfollows.fds⟩
  have heis : next.1.bridge.eis = next.1.eis.map Prod.snd := rfl
  unfold sentCalls
  rw [heis]
  cases hheld : next.1.eis with
  | none => exact Spec.ret ⟨hfollows', rfl⟩ rfl
  | some held =>
    have hcontext : next.1.eis.map Prod.fst = some held.1 := by
      rw [hheld]
      rfl
    cases calls with
    | none => exact Spec.ret ⟨hfollows', rfl⟩ rfl
    | some calls =>
      refine Spec.bind (emitCallsProgram_spec hcontext calls) (add_zero _).symm fun sent hsent => ?_
      rw [add_zero]
      exact Spec.ret ⟨hfollows', hsent⟩ rfl

theorem sendEvent_spec (dispatch : Dispatch D) (event : CaptureInputEvent) (s : HeldBridge D) :
    system.Spec crashes inside s.resources (sendEventProgram caps regions dispatch event s)
      (fun sent => Follows s sent.1 (sendEventEis caps regions dispatch event s.bridge).bridge ∧
        sent.2.1 = (sendEventEis caps regions dispatch event s.bridge).emissions ∧
        sent.2.2 = (sendEventEis caps regions dispatch event s.bridge).ok)
      fun sent => sent.1.resources := by
  unfold sendEventProgram sendEventEis
  split
  next =>
    rw [sendMouseEis_eq]
    refine (sendCalls_spec dispatch _ s).consequence fun sent hsent => ⟨?_, rfl⟩
    exact ⟨hsent.1, congrArg Prod.fst hsent.2, congrArg Prod.snd hsent.2⟩
  next =>
    split
    next =>
      rw [sendKeyboardEis_eq]
      refine (sendCalls_spec dispatch _ s).consequence fun sent hsent => ⟨?_, rfl⟩
      exact ⟨hsent.1, congrArg Prod.fst hsent.2, congrArg Prod.snd hsent.2⟩
    next => exact Spec.ret ⟨⟨rfl, rfl⟩, rfl, rfl⟩ rfl

theorem sendLoopEis_spec (events : List CaptureInputEvent) (dispatches : List (Dispatch D))
    (s : HeldBridge D) :
    system.Spec crashes inside s.resources (sendLoopEisProgram caps regions events dispatches s)
      (fun sent => Follows s sent.1 (sendLoopEis caps regions events dispatches s.bridge).bridge ∧
        sent.2.1 = (sendLoopEis caps regions events dispatches s.bridge).emissions ∧
        sent.2.2 = (sendLoopEis caps regions events dispatches s.bridge).accepted)
      fun sent => sent.1.resources := by
  induction events generalizing dispatches s with
  | nil => exact Spec.ret ⟨⟨rfl, rfl⟩, rfl, rfl⟩ rfl
  | cons event events ih =>
    unfold sendLoopEisProgram sendLoopEis
    refine Spec.bind (sendEvent_spec (dispatches.headD {}) event s) (add_zero _).symm
      fun sent hsent => ?_
    rw [add_zero]
    obtain ⟨⟨hbridge, hfds⟩, hemissions, hok⟩ := hsent
    simp only [← hok, ← hemissions, ← hbridge]
    cases hsent : sent.2.2 with
    | false => exact Spec.ret ⟨⟨rfl, hfds⟩, rfl, rfl⟩ rfl
    | true =>
      refine Spec.bind (ih dispatches.tail sent.1) (add_zero _).symm fun rest hrest => ?_
      rw [add_zero]
      obtain ⟨⟨hrestBridge, hrestFds⟩, hrestEmissions, haccepted⟩ := hrest
      refine Spec.ret ⟨⟨hrestBridge, hrestFds.trans hfds⟩, ?_, ?_⟩ rfl
      · simp only [hrestEmissions, if_true]
      · simp only [haccepted, if_true]

/-! ## The devices of the kernel -/

omit [DecidableEq D] in
/-- A descriptor of a `uinput` device beside what else the bridge holds. -/
theorem resources_setFd (s : HeldBridge D) (device : UinputDevice) (fd : Option Nat) :
    (s.setFd device fd).resources = target .descriptor fd + (s.setFd device none).resources := by
  cases device <;>
    simp only [HeldBridge.resources, HeldBridge.references, HeldBridge.slot, HeldBridge.setFd,
      HeldBridge.devices, Function.update, reduceCtorEq, dite_false, dite_true, target_none] <;>
    abel

omit [DecidableEq D] in
theorem resources_fd (s : HeldBridge D) (device : UinputDevice) :
    s.resources = target .descriptor (s.fds device) + (s.setFd device none).resources := by
  have hsame : s.setFd device (s.fds device) = s := by
    unfold HeldBridge.setFd
    rw [Function.update_eq_self]
  rw [← resources_setFd, hsame]

omit [DecidableEq D] in
theorem requests_spec (fd : Nat) (requests : List UinputRequest) (results : List Bool) :
    system.Spec crashes inside {(.descriptor, fd)}
      (requestsProgram fd requests results : CaptureProgram D (Option Nat))
      (fun created => created.isSome = (results.take requests.length).all id)
      (target .descriptor) := by
  induction requests generalizing results with
  | nil => exact Spec.ret rfl rfl
  | cons request requests ih =>
    unfold requestsProgram
    refine Spec.touch_then (by simp) ?_
    cases results with
    | nil =>
      refine (ih []).consequence fun created hcreated => ⟨?_, rfl⟩
      rw [hcreated, List.take_nil, List.take_nil]
    | cons result results =>
      cases result with
      | false => exact Spec.release_then (add_zero _).symm (Spec.ret rfl rfl)
      | true =>
        refine (ih results).consequence fun created hcreated => ⟨?_, rfl⟩
        rw [hcreated]
        rfl

omit [DecidableEq D] in
theorem createDevice_spec (requests : List UinputRequest) (env : UinputEnv) :
    system.Spec crashes inside 0 (createDevice requests env : CaptureProgram D (Option Nat))
      (fun created => created.isSome = env.creates requests) (target .descriptor) := by
  unfold createDevice UinputEnv.creates
  cases hopens : env.opens with
  | false => exact Spec.ret rfl rfl
  | true =>
    refine Spec.take_then fun fd => ?_
    rw [add_zero]
    exact (requests_spec fd requests env.ioctls).consequence fun created hcreated =>
      ⟨hcreated, rfl⟩

omit [DecidableEq D] in
theorem destroyDevice_spec (device : UinputDevice) (s : HeldBridge D) :
    system.Spec crashes inside s.resources (destroyDevice device s)
      (fun next => next = s.setFd device none) HeldBridge.resources := by
  unfold destroyDevice
  have hwhole := resources_fd s device
  cases hfd : s.fds device with
  | none =>
    refine Spec.ret ?_ rfl
    unfold HeldBridge.setFd
    rw [← hfd, Function.update_eq_self]
  | some fd =>
    rw [hfd] at hwhole
    refine Spec.touch_then ?_ (Spec.release_then hwhole (Spec.ret rfl rfl))
    rw [hwhole]
    simp

omit [DecidableEq D] in
theorem destroyDevices_spec {α : Type} {next : HeldBridge D → CaptureProgram D α}
    {result : α → Prop} {after : α → Multiset (Resource CaptureKind)} (s : HeldBridge D)
    (hnext : system.Spec crashes inside { s with fds := fun _ => none : HeldBridge D }.resources
      (next { s with fds := fun _ => none }) result after) :
    system.Spec crashes inside s.resources (do
      let s ← destroyDevice .keyboard s
      let s ← destroyDevice .mouse s
      next s) result after := by
  refine Spec.bind (destroyDevice_spec .keyboard s) (add_zero _).symm fun first hfirst => ?_
  rw [add_zero]
  refine Spec.bind (destroyDevice_spec .mouse first) (add_zero _).symm fun second hsecond => ?_
  rw [add_zero]
  have hnone : second = { s with fds := fun _ => none } := by
    rw [hsecond, hfirst]
    unfold HeldBridge.setFd
    congr 1
    funext device
    cases device <;> simp
  rw [hnone]
  exact hnext

omit [DecidableEq D] in
theorem keepDevices_spec (s : HeldBridge D) :
    system.Spec crashes inside s.resources (keepDevices s)
      (fun next => next.1.bridge = s.bridge ∧ next.2 = s.hasDevices)
      fun next => next.1.resources := by
  unfold keepDevices
  by_cases hdevices : s.hasDevices = true
  · rw [if_pos hdevices, hdevices]
    exact Spec.ret ⟨rfl, rfl⟩ rfl
  · rw [if_neg hdevices]
    exact destroyDevices_spec s (Spec.ret ⟨rfl, (Bool.eq_false_iff.mpr hdevices).symm⟩ rfl)

omit [DecidableEq D] in
theorem ensureUinput_spec (env : BridgeEnv D) (s : HeldBridge D) :
    system.Spec crashes inside s.resources (ensureUinputProgram env.create s)
      (fun next => next.1.bridge = s.bridge ∧ next.2 = env.uinputReady s)
      fun next => next.1.resources := by
  unfold ensureUinputProgram BridgeEnv.uinputReady
  by_cases hdevices : s.hasDevices = true
  · rw [if_pos hdevices, hdevices]
    exact Spec.ret ⟨rfl, rfl⟩ rfl
  · rw [if_neg hdevices, Bool.eq_false_iff.mpr hdevices]
    refine destroyDevices_spec s ?_
    refine Spec.bind (createDevice_spec _ _) (zero_add _).symm fun keyboard hkeyboard => ?_
    refine Spec.bind (createDevice_spec _ _) (zero_add _).symm fun mouse hmouse => ?_
    let created : HeldBridge D :=
      ({ s with fds := fun _ => none : HeldBridge D }.setFd .keyboard keyboard).setFd .mouse mouse
    have hwhole : target .descriptor mouse + (target .descriptor keyboard +
        { s with fds := fun _ => none : HeldBridge D }.resources) = created.resources := by
      simp only [created, HeldBridge.resources, HeldBridge.references, HeldBridge.slot,
        HeldBridge.setFd, HeldBridge.devices, Function.update, reduceCtorEq, dite_false, dite_true,
        target_none]
      abel
    rw [hwhole]
    refine (keepDevices_spec created).consequence fun next hnext => ⟨⟨hnext.1, ?_⟩, rfl⟩
    rw [hnext.2, ← hkeyboard, ← hmouse]
    rfl

omit [DecidableEq D] in
theorem write_spec {α : Type} {next : Unit → CaptureProgram D α} {result : α → Prop}
    {after : α → Multiset (Resource CaptureKind)} (s : HeldBridge D) (event : InputEvent)
    (hnext : system.Spec crashes inside s.resources (next ()) result after) :
    system.Spec crashes inside s.resources (writeProgram s event >>= next) result after := by
  unfold writeProgram
  cases hfd : s.fds event.device with
  | none => exact hnext
  | some fd =>
    refine Spec.touch_then ?_ hnext
    rw [resources_fd s event.device, hfd]
    simp

omit [DecidableEq D] in
theorem writeGroup_spec (s : HeldBridge D) (group : List InputEvent) (writes : List Bool) :
    system.Spec crashes inside s.resources (writeGroupProgram s group writes)
      (fun written => written = writeGroup group writes) fun _ => s.resources := by
  induction group generalizing writes with
  | nil => exact Spec.ret rfl rfl
  | cons event group ih =>
    unfold writeGroupProgram writeGroup
    refine write_spec s event ?_
    cases writes.headD true with
    | false => exact Spec.ret rfl rfl
    | true =>
      refine Spec.bind (ih writes.tail) (add_zero _).symm fun rest hrest => ?_
      rw [add_zero]
      exact Spec.ret (by rw [hrest]; rfl) rfl

omit [DecidableEq D] in
theorem writeGroups_spec (s : HeldBridge D) (groups : List (List InputEvent))
    (writes : List Bool) :
    system.Spec crashes inside s.resources (writeGroupsProgram s groups writes)
      (fun written => written = writeGroups groups writes) fun _ => s.resources := by
  induction groups generalizing writes with
  | nil => exact Spec.ret rfl rfl
  | cons group groups ih =>
    unfold writeGroupsProgram writeGroups
    refine Spec.bind (writeGroup_spec s group writes) (add_zero _).symm fun first hfirst => ?_
    rw [add_zero]
    refine Spec.bind (ih first.writes) (add_zero _).symm fun rest hrest => ?_
    rw [add_zero]
    exact Spec.ret (by rw [hrest, hfirst]) rfl

omit [DecidableEq D] in
theorem sendEventUinput_spec (s : HeldBridge D) (event : CaptureInputEvent) (writes : List Bool) :
    system.Spec crashes inside s.resources (sendEventUinputProgram s event writes)
      (fun written => written = sendEventUinput event writes) fun _ => s.resources := by
  unfold sendEventUinputProgram sendEventUinput
  cases eventGroups? event with
  | none => exact Spec.ret rfl rfl
  | some groups => exact writeGroups_spec s groups writes

omit [DecidableEq D] in
theorem sendLoopUinput_spec (s : HeldBridge D) (events : List CaptureInputEvent)
    (writes : List Bool) :
    system.Spec crashes inside s.resources (sendLoopUinputProgram s events writes)
      (fun written => written = sendLoopUinput events writes) fun _ => s.resources := by
  induction events generalizing writes with
  | nil => exact Spec.ret rfl rfl
  | cons event events ih =>
    unfold sendLoopUinputProgram sendLoopUinput
    refine Spec.bind (sendEventUinput_spec s event writes) (add_zero _).symm fun sent hsent => ?_
    rw [add_zero, ← hsent]
    cases hok : sent.ok with
    | false => exact Spec.ret (by simp only [hok]; rfl) rfl
    | true =>
      refine Spec.bind (ih sent.writes) (add_zero _).symm fun rest hrest => ?_
      rw [add_zero]
      exact Spec.ret (by simp only [hrest, hok, if_true]) rfl

omit [DecidableEq D] in
theorem sendUinput_spec (env : BridgeEnv D) (events : List CaptureInputEvent) (s : HeldBridge D) :
    system.Spec crashes inside s.resources (sendUinputProgram env events s)
      (fun sent => sent.1.bridge = s.bridge ∧ sent.2 =
        if env.uinputReady s then
          { accepted := (sendLoopUinput events env.writes).accepted
            writes := (sendLoopUinput events env.writes).events }
        else { accepted := 0 })
      fun sent => sent.1.resources := by
  refine Spec.bind (ensureUinput_spec env s) (add_zero _).symm fun ready hready => ?_
  rw [add_zero]
  obtain ⟨hbridge, hready⟩ := hready
  rw [← hready]
  cases ready.2 with
  | false => exact Spec.ret ⟨hbridge, rfl⟩ rfl
  | true =>
    refine Spec.bind (sendLoopUinput_spec ready.1 events env.writes) (add_zero _).symm
      fun written hwritten => ?_
    rw [add_zero]
    exact Spec.ret ⟨hbridge, by rw [hwritten]; rfl⟩ rfl

/-! ## A batch -/

/-- `send` does on the devices what its models do, and leaves the bridge as they do. -/
theorem send_spec (env : BridgeEnv D) (events : List CaptureInputEvent) (s : HeldBridge D) :
    system.Spec crashes inside s.resources (sendProgram caps regions env events s)
      (fun sent => sent.1.bridge = (sendInput caps regions (env.op s events) s.bridge).bridge ∧
        sent.2 = sendDevices caps regions (env.op s events) env.writes s.bridge)
      fun sent => sent.1.resources := by
  unfold sendInput sendDevices
  refine Spec.bind (ensureEis_spec env.ensure env.reply s) (add_zero _).symm fun ensured hens => ?_
  rw [add_zero]
  obtain ⟨⟨hbridge, hfds⟩, huse⟩ := hens
  have hready : env.uinputReady ensured.1 = env.uinputReady s := by
    unfold BridgeEnv.uinputReady HeldBridge.hasDevices
    rw [hfds]
  simp only [BridgeEnv.op, ← hbridge, ← huse]
  cases ensured.2 with
  | true =>
    refine Spec.bind (sendLoopEis_spec events env.dispatches ensured.1) (add_zero _).symm
      fun sent hsent => ?_
    rw [add_zero]
    obtain ⟨⟨hsentBridge, -⟩, hemissions, haccepted⟩ := hsent
    exact Spec.ret ⟨hsentBridge, by rw [haccepted, hemissions]; rfl⟩ rfl
  | false =>
    refine (sendUinput_spec env events ensured.1).consequence fun sent hsent => ⟨?_, rfl⟩
    obtain ⟨hsentBridge, hbatch⟩ := hsent
    rw [hready] at hbatch
    refine ⟨?_, hbatch⟩
    rw [hsentBridge]
    simp only [Bool.false_eq_true, if_false]
    split <;> rfl

end Specs

end UuAmfBridge
