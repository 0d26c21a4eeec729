import UuAmfBridge.Capture.EisInput

/-!
# Input through uinput

Where the compositor offers no input, `InputBridge` of
`src/wayland_capture_helper.cpp` writes to two devices of `uinput`, a mouse and a
keyboard.  Each write can fail.  An event is accepted when all its writes succeed, but
only the two writes of a motion and the two of a key depend on each other: behind any
other write that fails, the rest of the event is written all the same.

So an event is a list of groups, and a group is written up to its first failure.

* `sendEventUinput_actions`: an accepted event writes all its actions.
* `sendEventUinput_actions_nil_iff`: an event writes none of its actions exactly when the
  first write of each group fails.
* `sendInput_sendDevices`: `sendInput` reads from a script which events the devices take,
  and `sendDevices` works it out from the writes.
-/

namespace UuAmfBridge

/-! ## The events of the kernel -/

inductive UinputDevice where
  | mouse
  | keyboard
  deriving Repr, DecidableEq

/-- `EV_SYN`, `EV_KEY`, `EV_REL` and `EV_ABS`. -/
inductive InputEventType where
  | syn
  | key
  | rel
  | abs
  deriving Repr, DecidableEq

def synReport : Nat := 0
def relX : Nat := 0
def relY : Nat := 1
def relHwheel : Nat := 6
def relWheel : Nat := 8
def absX : Nat := 0
def absY : Nat := 1

/-- An `input_event`, and the device it is written to. -/
structure InputEvent where
  device : UinputDevice
  type : InputEventType
  code : Nat
  value : Int32
  deriving DecidableEq

/-- Every event but the marks between events. -/
def InputEvent.isAction (event : InputEvent) : Bool := event.type != .syn

/-! ## The writes of an event -/

/-- The writes of `send_mouse_uinput`, in their groups. -/
def mouseGroups (event : CaptureInputEvent) : List (List InputEvent) :=
  let emit (type : InputEventType) (code : Nat) (value : Int32) : InputEvent :=
    ⟨.mouse, type, code, value⟩
  let button (flag : UInt32) (code : Nat) (value : Int32) : List (List InputEvent) :=
    if event.has flag then [[emit .key code value]] else []
  let sideCode := if event.mouseData >>> 16 = 1 then btnSide else btnExtra
  (if event.has 0x0001 then
    if event.has 0x8000 then [[emit .abs absX event.dx, emit .abs absY event.dy]]
    else [[emit .rel relX event.dx, emit .rel relY event.dy]]
  else []) ++
  button 0x0002 btnLeft 1 ++ button 0x0004 btnLeft 0 ++
  button 0x0008 btnRight 1 ++ button 0x0010 btnRight 0 ++
  button 0x0020 btnMiddle 1 ++ button 0x0040 btnMiddle 0 ++
  button 0x0080 sideCode 1 ++ button 0x0100 sideCode 0 ++
  (if event.has 0x0800 then [[emit .rel relWheel (wheelValue event.mouseData)]] else []) ++
  (if event.has 0x1000 then [[emit .rel relHwheel (wheelValue event.mouseData)]] else [])

/-- The mark behind an event. -/
def synEvent (device : UinputDevice) : InputEvent := ⟨device, .syn, synReport, 0⟩

/-- The writes of `send_keyboard_uinput`, which are one group. -/
def keyboardGroup (event : CaptureInputEvent) (code : Nat) : List InputEvent :=
  [⟨.keyboard, .key, code, if event.has 0x0002 then 0 else 1⟩, synEvent .keyboard]

/-- The writes of an event, unless it is refused without a write. -/
def eventGroups? (event : CaptureInputEvent) : Option (List (List InputEvent)) :=
  if event.type = captureInputMouse then some (mouseGroups event ++ [[synEvent .mouse]])
  else if event.type = captureInputKeyboard then
    (keyboardCode event).map fun code => [keyboardGroup event code]
  else none

/-- What has been written, whether all writes have succeeded, and the script of the
writes that follow. -/
structure Written where
  events : List InputEvent
  ok : Bool
  writes : List Bool

/-- `emit_event` for each event of a group, up to the first failure; behind its end the
script lets every write succeed. -/
def writeGroup : List InputEvent → List Bool → Written
  | [], writes => ⟨[], true, writes⟩
  | event :: group, writes =>
      if writes.headD true then
        let rest := writeGroup group writes.tail
        ⟨event :: rest.events, rest.ok, rest.writes⟩
      else ⟨[], false, writes.tail⟩

/-- All groups of an event, whatever fails. -/
def writeGroups : List (List InputEvent) → List Bool → Written
  | [], writes => ⟨[], true, writes⟩
  | group :: groups, writes =>
      let first := writeGroup group writes
      let rest := writeGroups groups first.writes
      ⟨first.events ++ rest.events, first.ok && rest.ok, rest.writes⟩

/-- `send_mouse_uinput` and `send_keyboard_uinput`. -/
def sendEventUinput (event : CaptureInputEvent) (writes : List Bool) : Written :=
  match eventGroups? event with
  | none => ⟨[], false, writes⟩
  | some groups => writeGroups groups writes

/-- What a batch has written, and how many of its events are accepted. -/
structure WrittenBatch where
  events : List InputEvent
  accepted : Nat

/-- The loop of `InputBridge::send` over `uinput`. -/
def sendLoopUinput : List CaptureInputEvent → List Bool → WrittenBatch
  | [], _ => ⟨[], 0⟩
  | event :: events, writes =>
      let sent := sendEventUinput event writes
      if sent.ok then
        let rest := sendLoopUinput events sent.writes
        ⟨sent.events ++ rest.events, rest.accepted + 1⟩
      else ⟨sent.events, 0⟩

/-- Which events of a batch the devices take, as `SendOp` says it. -/
def uinputTakes : List CaptureInputEvent → List Bool → List Bool
  | [], _ => []
  | event :: events, writes =>
      let sent := sendEventUinput event writes
      sent.ok :: uinputTakes events sent.writes

/-! ## What is written -/

theorem writeGroup_ok {group : List InputEvent} {writes : List Bool}
    (h : (writeGroup group writes).ok = true) : (writeGroup group writes).events = group := by
  induction group generalizing writes with
  | nil => rfl
  | cons event group ih =>
    unfold writeGroup at h ⊢
    split_ifs at h ⊢ with hhead
    exact congrArg (event :: ·) (ih h)

/-- An event whose writes succeed is written as a whole. -/
theorem writeGroups_ok {groups : List (List InputEvent)} {writes : List Bool}
    (h : (writeGroups groups writes).ok = true) :
    (writeGroups groups writes).events = groups.flatten := by
  induction groups generalizing writes with
  | nil => rfl
  | cons group groups ih =>
    unfold writeGroups at h ⊢
    simp only [Bool.and_eq_true] at h
    simp only [List.flatten_cons]
    rw [writeGroup_ok h.1, ih h.2]

/-- A script without failures lets every write succeed. -/
theorem writeGroup_succeeds (group : List InputEvent) {writes : List Bool}
    (h : ∀ ok ∈ writes, ok = true) :
    (writeGroup group writes).ok = true ∧ ∀ ok ∈ (writeGroup group writes).writes, ok = true := by
  induction group generalizing writes with
  | nil => exact ⟨rfl, h⟩
  | cons event group ih =>
    have hhead : writes.headD true = true := by
      cases writes with
      | nil => rfl
      | cons ok writes => exact h ok (List.mem_cons_self ..)
    unfold writeGroup
    rw [if_pos hhead]
    exact ih fun ok hok => h ok (List.mem_of_mem_tail hok)

theorem writeGroups_succeeds (groups : List (List InputEvent)) {writes : List Bool}
    (h : ∀ ok ∈ writes, ok = true) : (writeGroups groups writes).ok = true := by
  induction groups generalizing writes with
  | nil => rfl
  | cons group groups ih =>
    obtain ⟨hok, hwrites⟩ := writeGroup_succeeds group h
    unfold writeGroups
    simp only [Bool.and_eq_true]
    exact ⟨hok, ih hwrites⟩

/-- The actions among what is written. -/
def actionsOf (events : List InputEvent) : List InputEvent := events.filter InputEvent.isAction

@[simp] theorem actionsOf_append (events others : List InputEvent) :
    actionsOf (events ++ others) = actionsOf events ++ actionsOf others :=
  List.filter_append ..

/-- The group begins with an action. -/
def ActsFirst (group : List InputEvent) : Prop :=
  ∃ event rest, group = event :: rest ∧ event.isAction = true

/-- A group that begins with an action writes no action if its first write fails, and only
then. -/
theorem writeGroup_actions_nil_iff {group : List InputEvent} (h : ActsFirst group)
    (writes : List Bool) :
    (actionsOf (writeGroup group writes).events = [] ↔ writes.headD true = false) ∧
      (writes.headD true = false → (writeGroup group writes).writes = writes.tail) := by
  obtain ⟨event, rest, rfl, haction⟩ := h
  unfold writeGroup
  cases hhead : writes.headD true with
  | true =>
    refine ⟨iff_of_false ?_ Bool.noConfusion, Bool.noConfusion⟩
    simp only [if_true, actionsOf, List.filter_cons, haction]
    exact List.cons_ne_nil _ _
  | false => exact ⟨iff_of_true rfl rfl, fun _ => rfl⟩

/-- The groups write no action exactly when the script begins with a failure for each of
them. -/
theorem writeGroups_actions_nil_iff {groups : List (List InputEvent)}
    (h : ∀ group ∈ groups, ActsFirst group) (writes : List Bool) :
    actionsOf (writeGroups groups writes).events = [] ↔
      ∀ i < groups.length, writes.getD i true = false := by
  induction groups generalizing writes with
  | nil => exact iff_of_true rfl fun i hi => absurd hi (Nat.not_lt_zero i)
  | cons group groups ih =>
    obtain ⟨hfirst, htail⟩ := writeGroup_actions_nil_iff (h group (List.mem_cons_self ..)) writes
    have hrest := ih fun other hmem => h other (List.mem_cons_of_mem _ hmem)
    have hget : ∀ i, writes.tail.getD i true = writes.getD (i + 1) true := by
      intro i
      cases writes with
      | nil => rfl
      | cons ok writes => rfl
    have hhead : writes.headD true = writes.getD 0 true := by
      cases writes with
      | nil => rfl
      | cons ok writes => rfl
    unfold writeGroups
    simp only [actionsOf_append, List.append_eq_nil_iff, List.length_cons]
    constructor
    · rintro ⟨hnone, hnones⟩ i hi
      have hfails := hfirst.mp hnone
      rw [htail hfails] at hnones
      cases i with
      | zero => exact hhead ▸ hfails
      | succ i =>
        rw [← hget]
        exact (hrest _).mp hnones i (Nat.lt_of_succ_lt_succ hi)
    · intro hfails
      have hzero : writes.headD true = false := by
        rw [hhead]
        exact hfails 0 (Nat.succ_pos _)
      refine ⟨hfirst.mpr hzero, ?_⟩
      rw [htail hzero]
      refine (hrest _).mpr fun i hi => ?_
      rw [hget]
      exact hfails (i + 1) (Nat.succ_lt_succ hi)

/-! ## The writes of one event -/

/-- The next `count` writes succeed. -/
def WritesSucceed (count : Nat) (writes : List Bool) : Prop :=
  ∀ i < count, writes.getD i true = true

/-- The next `count` writes fail. -/
def WritesFail (count : Nat) (writes : List Bool) : Prop :=
  ∀ i < count, writes.getD i true = false

theorem getD_drop (writes : List Bool) (count i : Nat) :
    (writes.drop count).getD i true = writes.getD (count + i) true := by
  rw [List.getD_eq_getElem?_getD, List.getD_eq_getElem?_getD, List.getElem?_drop]

/-- A group succeeds when its writes do, and has then used as much of the script. -/
theorem writeGroup_ok_iff (group : List InputEvent) (writes : List Bool) :
    ((writeGroup group writes).ok = true ↔ WritesSucceed group.length writes) ∧
      ((writeGroup group writes).ok = true →
        (writeGroup group writes).writes = writes.drop group.length) := by
  induction group generalizing writes with
  | nil => exact ⟨iff_of_true rfl fun i hi => absurd hi (Nat.not_lt_zero i), fun _ => rfl⟩
  | cons event group ih =>
    obtain ⟨hok, hwrites⟩ := ih writes.tail
    have htail : writes.tail = writes.drop 1 := List.drop_one.symm
    have hzero : writes.headD true = writes.getD 0 true := by
      cases writes with
      | nil => rfl
      | cons ok writes => rfl
    unfold writeGroup
    cases hhead : writes.headD true with
    | false =>
      refine ⟨iff_of_false Bool.noConfusion fun hall => ?_, Bool.noConfusion⟩
      have hfirst := hall 0 (Nat.succ_pos _)
      rw [← hzero, hhead] at hfirst
      cases hfirst
    | true =>
      simp only [if_true]
      rw [hok]
      constructor
      · constructor
        · intro hall i hi
          cases i with
          | zero => rw [← hzero, hhead]
          | succ i =>
            have hnext := hall i (Nat.lt_of_succ_lt_succ hi)
            rwa [htail, getD_drop, Nat.add_comm] at hnext
        · intro hall i hi
          rw [htail, getD_drop, Nat.add_comm]
          exact hall (i + 1) (Nat.succ_lt_succ hi)
      · intro hall
        rw [hwrites (hok.mpr hall), htail, List.drop_drop, Nat.add_comm, List.length_cons]

/-- An event is accepted when all its writes succeed. -/
theorem writeGroups_ok_iff (groups : List (List InputEvent)) (writes : List Bool) :
    ((writeGroups groups writes).ok = true ↔ WritesSucceed groups.flatten.length writes) ∧
      ((writeGroups groups writes).ok = true →
        (writeGroups groups writes).writes = writes.drop groups.flatten.length) := by
  induction groups generalizing writes with
  | nil => exact ⟨iff_of_true rfl fun i hi => absurd hi (Nat.not_lt_zero i), fun _ => rfl⟩
  | cons group groups ih =>
    obtain ⟨hfirst, hfirstWrites⟩ := writeGroup_ok_iff group writes
    obtain ⟨hrest, hrestWrites⟩ := ih (writeGroup group writes).writes
    unfold writeGroups
    simp only [Bool.and_eq_true, List.flatten_cons, List.length_append]
    constructor
    · constructor
      · rintro ⟨hok, hoks⟩ i hi
        by_cases hinside : i < group.length
        · exact hfirst.mp hok i hinside
        · have hnext := hrest.mp hoks (i - group.length) (by omega)
          rw [hfirstWrites hok, getD_drop] at hnext
          rwa [Nat.add_sub_cancel' (Nat.not_lt.mp hinside)] at hnext
      · intro hall
        have hok := hfirst.mpr fun i hi => hall i (Nat.lt_add_right _ hi)
        refine ⟨hok, hrest.mpr fun i hi => ?_⟩
        rw [hfirstWrites hok, getD_drop]
        exact hall _ (Nat.add_lt_add_left hi _)
    · rintro ⟨hok, hoks⟩
      rw [hrestWrites hoks, hfirstWrites hok, List.drop_drop]

theorem writeGroups_append (groups others : List (List InputEvent)) (writes : List Bool) :
    (writeGroups (groups ++ others) writes).events = (writeGroups groups writes).events ++
      (writeGroups others (writeGroups groups writes).writes).events := by
  induction groups generalizing writes with
  | nil => rfl
  | cons group groups ih =>
    show _ ++ (writeGroups (groups ++ others) (writeGroup group writes).writes).events =
      (_ ++ (writeGroups groups (writeGroup group writes).writes).events) ++
        (writeGroups others
          (writeGroups groups (writeGroup group writes).writes).writes).events
    rw [ih, List.append_assoc]

/-- The groups of an event that begin with an action; the mark behind a mouse event is the
only other one. -/
def actionGroups (event : CaptureInputEvent) : List (List InputEvent) :=
  if event.type = captureInputMouse then mouseGroups event else (eventGroups? event).getD []

/-- The actions of an event, in their order. -/
def eventActions (event : CaptureInputEvent) : List InputEvent :=
  actionsOf ((eventGroups? event).getD []).flatten

theorem mouseGroups_actFirst (event : CaptureInputEvent) :
    ∀ group ∈ mouseGroups event, ActsFirst group := by
  have hif : ∀ {condition : Bool} {groups : List (List InputEvent)},
      (∀ group ∈ groups, ActsFirst group) →
        ∀ group ∈ if condition then groups else [], ActsFirst group := by
    intro condition groups h
    cases condition with
    | true => exact h
    | false => exact List.forall_mem_nil _
  have hone : ∀ (event : InputEvent) (rest : List InputEvent), event.isAction = true →
      ∀ group ∈ [event :: rest], ActsFirst group := by
    intro event rest haction group hmem
    obtain rfl := List.mem_singleton.mp hmem
    exact ⟨event, rest, rfl, haction⟩
  unfold mouseGroups
  simp only [List.forall_mem_append]
  refine ⟨⟨⟨⟨⟨⟨⟨⟨⟨⟨?_, ?_⟩, ?_⟩, ?_⟩, ?_⟩, ?_⟩, ?_⟩, ?_⟩, ?_⟩, ?_⟩, ?_⟩
  · refine hif ?_
    split_ifs
    · exact hone _ _ rfl
    · exact hone _ _ rfl
  all_goals exact hif (hone _ _ rfl)

/-- An event that does not write all of its actions writes none of them exactly when the
script begins with a failure for each of its groups. -/
theorem sendEventUinput_actions_nil_iff (event : CaptureInputEvent) (writes : List Bool) :
    actionsOf (sendEventUinput event writes).events = [] ↔
      WritesFail (actionGroups event).length writes := by
  have hnone : WritesFail 0 writes := fun i hi => absurd hi (Nat.not_lt_zero i)
  unfold sendEventUinput actionGroups eventGroups?
  by_cases hmouse : event.type = captureInputMouse
  · simp only [if_pos hmouse]
    have hsyn : ∀ writes, actionsOf (writeGroups [[synEvent .mouse]] writes).events = [] := by
      intro writes
      unfold writeGroups writeGroup
      split_ifs <;> rfl
    rw [writeGroups_append, actionsOf_append, hsyn, List.append_nil]
    exact writeGroups_actions_nil_iff (mouseGroups_actFirst event) writes
  · simp only [if_neg hmouse]
    by_cases hkeyboard : event.type = captureInputKeyboard
    · simp only [if_pos hkeyboard]
      cases keyboardCode event with
      | none => exact iff_of_true rfl hnone
      | some code =>
        refine writeGroups_actions_nil_iff (fun group hmem => ?_) writes
        obtain rfl := List.mem_singleton.mp hmem
        exact ⟨_, _, rfl, rfl⟩
    · simp only [if_neg hkeyboard]
      exact iff_of_true rfl hnone

/-- An accepted event writes its actions. -/
theorem sendEventUinput_actions {event : CaptureInputEvent} {writes : List Bool}
    (h : (sendEventUinput event writes).ok = true) :
    actionsOf (sendEventUinput event writes).events = eventActions event := by
  unfold sendEventUinput eventActions at *
  cases hgroups : eventGroups? event with
  | none =>
    rw [hgroups] at h
    cases h
  | some groups =>
    rw [hgroups] at h
    simp only at h
    simp only [Option.getD_some]
    rw [writeGroups_ok h]

/-! ## The batch and its script -/

section Batch

variable {D : Type*} [DecidableEq D]

theorem uinputTakes_length (events : List CaptureInputEvent) (writes : List Bool) :
    (uinputTakes events writes).length = events.length := by
  induction events generalizing writes with
  | nil => rfl
  | cons event events ih => exact congrArg Nat.succ (ih _)

theorem sendLoopUinput_accepted (events : List CaptureInputEvent) (writes : List Bool) :
    (sendLoopUinput events writes).accepted =
      ((uinputTakes events writes).takeWhile id).length := by
  induction events generalizing writes with
  | nil => rfl
  | cons event events ih =>
    unfold sendLoopUinput uinputTakes
    cases hok : (sendEventUinput event writes).ok with
    | true =>
      simp only [hok, if_true, List.takeWhile_cons, id_eq, List.length_cons]
      rw [ih]
    | false =>
      simp only [hok, Bool.false_eq_true, if_false, List.takeWhile_cons, id_eq, List.length_nil]

/-- What a batch does on the devices: the calls of the compositor, or the events of the
kernel. -/
structure DeviceBatch where
  accepted : Nat
  calls : List (Capability × EiCall) := []
  writes : List InputEvent := []

/-- `InputBridge::send`, with the script of the writes. -/
def sendDevices (caps : D → Capability → Bool) (regions : D → Option EiRegion) (op : SendOp D)
    (writes : List Bool) (bridge : InputBridge D) : DeviceBatch :=
  let (bridge, useEis) := ensureEis caps op.ensure bridge
  if useEis then
    let sent := sendLoopEis caps regions op.events op.dispatches bridge
    { accepted := sent.accepted, calls := sent.emissions.map Emission.request }
  else if op.uinputReady then
    let written := sendLoopUinput op.events writes
    { accepted := written.accepted, writes := written.events }
  else { accepted := 0 }

/-- `sendInput` reads which events the devices take from a script; with the one that the
writes make, it accepts the same events and makes the same calls. -/
theorem sendInput_sendDevices (caps : D → Capability → Bool) (regions : D → Option EiRegion)
    (op : SendOp D) (writes : List Bool) (bridge : InputBridge D) :
    let sent := sendInput caps regions { op with uinput := uinputTakes op.events writes } bridge
    let batch := sendDevices caps regions op writes bridge
    sent.accepted = batch.accepted ∧ sent.emissions.map Emission.request = batch.calls := by
  have hlength : (uinputTakes op.events writes).take op.events.length =
      uinputTakes op.events writes := by
    rw [← uinputTakes_length op.events writes, List.take_length]
  unfold sendInput sendDevices
  simp only
  split_ifs
  · exact ⟨rfl, rfl⟩
  · exact ⟨by rw [hlength, sendLoopUinput_accepted], rfl⟩
  · exact ⟨rfl, rfl⟩

end Batch

end UuAmfBridge
