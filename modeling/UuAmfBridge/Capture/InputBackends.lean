import UuAmfBridge.Capture.UinputInput
import UuAmfBridge.Lib.FixedWidth

/-!
# The two ways of input

The helper has two translations of an event, one into calls of the compositor and one into
events of the kernel.  They are written apart: the first returns at the first device that
is missing, the second goes on behind a write that fails, and a turn of both wheels is one
call of the first and two events of the second.

`LogicalAction` is what an event does to a desktop, whichever way it takes.  A wheel is
counted in steps of which a notch has 120.

The range 0 to 65535 of the `uinput` device covers the region of the absolute device, so a
position of the kernel is a point of the region; the compositor gets the point itself, from
a product of 32 bits.

* `mouse_logical_eq` and `keyboard_logical_eq`: the calls and the writes of an event have
  the same logical actions, before they are taken to the region.
* `regionCoordinate_eq_iff`: the point of the compositor is the one of the position exactly
  when the product fits into 32 bits.
* `backends_agree_iff`: with all devices there and no write that fails, both accept the same
  events; and they do the same exactly when no product of an absolute motion wraps.
-/

namespace UuAmfBridge

/-! ## Logical actions -/

inductive Axis where
  | horizontal
  | vertical
  deriving Repr, DecidableEq

/-- What an event does. -/
inductive LogicalAction where
  | relative (axis : Axis) (amount : Int)
  | absolute (axis : Axis) (position : Int)
  | button (code : Nat) (pressed : Bool)
  | scroll (axis : Axis) (amount : Int)
  | key (code : Nat) (pressed : Bool)
  deriving DecidableEq

/-- A motion along an axis, unless it is none. -/
def motionAlong (axis : Axis) (amount : Int) : List LogicalAction :=
  if amount = 0 then [] else [.relative axis amount]

/-- A turn of a wheel, unless it is none. -/
def scrollAlong (axis : Axis) (amount : Int) : List LogicalAction :=
  if amount = 0 then [] else [.scroll axis amount]

/-- The actions of a call; the compositor counts the vertical wheel the other way. -/
def EiCall.logical : EiCall → List LogicalAction
  | .motionAbsolute x y => [.absolute .horizontal x.toInt, .absolute .vertical y.toInt]
  | .motion dx dy => motionAlong .horizontal dx.toInt ++ motionAlong .vertical dy.toInt
  | .button code pressed => [.button code pressed]
  | .scrollDiscrete x y => scrollAlong .vertical (-y.toInt) ++ scrollAlong .horizontal x.toInt
  | .key code pressed => [.key code pressed]

/-- The actions of an event of the kernel. -/
def InputEvent.logical (event : InputEvent) : List LogicalAction :=
  match event.type with
  | .syn => []
  | .key =>
      match event.device with
      | .mouse => [.button event.code (event.value != 0)]
      | .keyboard => [.key event.code (event.value != 0)]
  | .rel =>
      if event.code = relX then motionAlong .horizontal event.value.toInt
      else if event.code = relY then motionAlong .vertical event.value.toInt
      else if event.code = relWheel then scrollAlong .vertical (120 * event.value.toInt)
      else if event.code = relHwheel then scrollAlong .horizontal (120 * event.value.toInt)
      else []
  | .abs =>
      if event.code = absX then [.absolute .horizontal event.value.toInt]
      else if event.code = absY then [.absolute .vertical event.value.toInt]
      else []

/-- The actions of a list of calls. -/
def logicalCalls (calls : List (Capability × EiCall)) : List LogicalAction :=
  calls.flatMap fun call => call.2.logical

/-- The actions of a list of writes. -/
def logicalWrites (events : List InputEvent) : List LogicalAction :=
  events.flatMap InputEvent.logical

@[simp] theorem logicalCalls_append (calls others : List (Capability × EiCall)) :
    logicalCalls (calls ++ others) = logicalCalls calls ++ logicalCalls others :=
  List.flatMap_append ..

@[simp] theorem logicalWrites_append (events others : List InputEvent) :
    logicalWrites (events ++ others) = logicalWrites events ++ logicalWrites others :=
  List.flatMap_append ..

/-! ## The wheel -/

/-- A wheel turns by so few notches that 120 times as many fit into an `int`. -/
theorem wheelValue_bounds (data : UInt32) :
    -17895697 ≤ (wheelValue data).toInt ∧ (wheelValue data).toInt ≤ 17895697 := by
  have hdiv : (data.toInt32 / 120).toInt = data.toInt32.toInt.tdiv 120 :=
    Int32.toInt_div_of_ne_right _ _ (by decide)
  have hlow := Int32.le_toInt data.toInt32
  have hhigh := Int32.toInt_lt data.toInt32
  have hquotient : -17895697 ≤ data.toInt32.toInt.tdiv 120 ∧
      data.toInt32.toInt.tdiv 120 ≤ 17895697 := by
    rcases Int.le_total 0 data.toInt32.toInt with hpos | hneg
    · rw [Int.tdiv_eq_ediv_of_nonneg hpos]
      omega
    · have hflip : data.toInt32.toInt.tdiv 120 = -(-data.toInt32.toInt / 120) := by
        rw [← Int.tdiv_eq_ediv_of_nonneg (by omega), Int.neg_tdiv, Int.neg_neg]
      rw [hflip]
      omega
  unfold wheelValue
  simp only
  split_ifs
  · decide
  · decide
  · rw [hdiv]
    exact hquotient

/-- The amount of the compositor for a wheel. -/
theorem wheelAmount_toInt (data : UInt32) :
    (wheelValue data * 120).toInt = 120 * (wheelValue data).toInt ∧
      (-(wheelValue data * 120)).toInt = -(120 * (wheelValue data).toInt) := by
  obtain ⟨hlow, hhigh⟩ := wheelValue_bounds data
  have hamount : (wheelValue data * 120).toInt = 120 * (wheelValue data).toInt := by
    have h120 : (120 : Int32).toInt = 120 := rfl
    rw [Int32.toInt_mul, h120, Int.bmod_eq_of_le (by omega) (by omega), Int.mul_comm]
  refine ⟨hamount, ?_⟩
  rw [Int32.toInt_neg, hamount, Int.bmod_eq_of_le (by omega) (by omega)]

/-! ## One event -/

/-- A coordinate in the range that the `uinput` device declares. -/
def InAbsoluteRange (value : Int32) : Prop := 0 ≤ value ∧ value ≤ 65535

theorem normalized_eq {value : Int32} (h : InAbsoluteRange value) : normalized value = value := by
  unfold normalized
  rw [if_neg (Int32.not_lt.mpr h.1), if_neg (Int32.not_lt.mpr h.2)]

/-- A part of a mouse event that depends on one flag. -/
theorem logical_flag {condition : Bool} {calls : List (Capability × EiCall)}
    {groups : List (List InputEvent)} (h : logicalCalls calls = logicalWrites groups.flatten) :
    logicalCalls (if condition then calls else []) =
      logicalWrites (if condition then groups else []).flatten := by
  cases condition with
  | true => exact h
  | false => rfl

/-- The wheels of a mouse event: one call, and an event for each wheel. -/
theorem logical_wheels (vertical horizontal : Bool) (data : UInt32) :
    logicalCalls (if vertical || horizontal then
        [(.scroll, .scrollDiscrete (if horizontal then wheelValue data * 120 else 0)
          (if vertical then -(wheelValue data * 120) else 0))] else []) =
      logicalWrites (if vertical then
          [[InputEvent.mk .mouse .rel relWheel (wheelValue data)]] else []).flatten ++
        logicalWrites (if horizontal then
          [[InputEvent.mk .mouse .rel relHwheel (wheelValue data)]] else []).flatten := by
  obtain ⟨hamount, hnegated⟩ := wheelAmount_toInt data
  cases vertical with
  | false =>
    cases horizontal with
    | false => rfl
    | true =>
      show scrollAlong .vertical (-(0 : Int32).toInt) ++
          scrollAlong .horizontal (wheelValue data * 120).toInt ++ [] =
        [] ++ (scrollAlong .horizontal (120 * (wheelValue data).toInt) ++ [])
      rw [hamount]
      rfl
  | true =>
    cases horizontal with
    | false =>
      show scrollAlong .vertical (-(-(wheelValue data * 120)).toInt) ++
          scrollAlong .horizontal (0 : Int32).toInt ++ [] =
        scrollAlong .vertical (120 * (wheelValue data).toInt) ++ [] ++ []
      rw [hnegated, Int.neg_neg]
      rfl
    | true =>
      show scrollAlong .vertical (-(-(wheelValue data * 120)).toInt) ++
          scrollAlong .horizontal (wheelValue data * 120).toInt ++ [] =
        scrollAlong .vertical (120 * (wheelValue data).toInt) ++ [] ++
          (scrollAlong .horizontal (120 * (wheelValue data).toInt) ++ [])
      rw [hnegated, Int.neg_neg, hamount, List.append_nil, List.append_nil, List.append_nil]

/-- The calls of a mouse event and its writes have the same logical actions. -/
theorem mouse_logical_eq {event : CaptureInputEvent}
    (hrange : event.has 0x0001 = true → event.has 0x8000 = true →
      InAbsoluteRange event.dx ∧ InAbsoluteRange event.dy) :
    logicalCalls (mouseCalls event) = logicalWrites (mouseGroups event).flatten := by
  have hmotion : logicalCalls (if event.has 0x0001 then
        if event.has 0x8000 then
          [(.pointerAbsolute, .motionAbsolute (normalized event.dx) (normalized event.dy))]
        else [(.pointer, .motion event.dx event.dy)]
      else []) =
      logicalWrites (if event.has 0x0001 then
        if event.has 0x8000 then
          [[⟨.mouse, .abs, absX, event.dx⟩, ⟨.mouse, .abs, absY, event.dy⟩]]
        else [[⟨.mouse, .rel, relX, event.dx⟩, ⟨.mouse, .rel, relY, event.dy⟩]]
      else []).flatten := by
    cases hmove : event.has 0x0001 with
    | false => rfl
    | true =>
      cases habsolute : event.has 0x8000 with
      | true =>
        obtain ⟨hx, hy⟩ := hrange hmove habsolute
        rw [normalized_eq hx, normalized_eq hy]
        rfl
      | false =>
        show motionAlong .horizontal event.dx.toInt ++ motionAlong .vertical event.dy.toInt ++ [] =
          motionAlong .horizontal event.dx.toInt ++ (motionAlong .vertical event.dy.toInt ++ [])
        rw [List.append_assoc]
  have hdown : ∀ (flag : UInt32) (code : Nat),
      logicalCalls (if event.has flag then [(.button, .button code true)] else []) =
        logicalWrites (if event.has flag then
          [[InputEvent.mk .mouse .key code 1]] else []).flatten := by
    intro flag code
    exact logical_flag rfl
  have hup : ∀ (flag : UInt32) (code : Nat),
      logicalCalls (if event.has flag then [(.button, .button code false)] else []) =
        logicalWrites (if event.has flag then
          [[InputEvent.mk .mouse .key code 0]] else []).flatten := by
    intro flag code
    exact logical_flag rfl
  unfold mouseCalls mouseGroups
  simp only [List.flatten_append, logicalCalls_append, logicalWrites_append, hmotion, hdown, hup,
    logical_wheels, List.append_assoc]

/-- The call of a key and its writes have the same logical action. -/
theorem keyboard_logical_eq (event : CaptureInputEvent) (code : Nat) :
    logicalCalls [(.keyboard, .key code (!event.has 0x0002))] =
      logicalWrites (keyboardGroup event code) := by
  unfold keyboardGroup
  cases event.has 0x0002 with
  | true => rfl
  | false => rfl

/-- A move to a position is to one in the range of the `uinput` device. -/
def AbsoluteInRange (event : CaptureInputEvent) : Prop :=
  event.type = captureInputMouse → event.has 0x0001 = true → event.has 0x8000 = true →
    InAbsoluteRange event.dx ∧ InAbsoluteRange event.dy

/-- Both translations refuse an event, or they have the same logical actions for it. -/
theorem event_logical_eq {event : CaptureInputEvent} (h : AbsoluteInRange event) :
    (eventCalls? event = none ∧ eventGroups? event = none) ∨
      ∃ calls groups, eventCalls? event = some calls ∧ eventGroups? event = some groups ∧
        logicalCalls calls = logicalWrites groups.flatten := by
  unfold eventCalls? eventGroups?
  by_cases hmouse : event.type = captureInputMouse
  · rw [if_pos hmouse, if_pos hmouse]
    refine Or.inr ⟨_, _, rfl, rfl, ?_⟩
    have hsyn : logicalWrites [[synEvent .mouse]].flatten = [] := rfl
    rw [List.flatten_append, logicalWrites_append, hsyn, List.append_nil]
    exact mouse_logical_eq (h hmouse)
  · rw [if_neg hmouse, if_neg hmouse]
    by_cases hkeyboard : event.type = captureInputKeyboard
    · rw [if_pos hkeyboard, if_pos hkeyboard]
      cases keyboardCode event with
      | none => exact Or.inl ⟨rfl, rfl⟩
      | some code =>
        refine Or.inr ⟨_, _, rfl, rfl, ?_⟩
        rw [List.flatten_singleton]
        exact keyboard_logical_eq event code
    · rw [if_neg hkeyboard, if_neg hkeyboard]
      exact Or.inl ⟨rfl, rfl⟩

/-! ## The region -/

/-- The action in a region that the positions 0 to 65535 cover, in 65535ths of a pixel. -/
def LogicalAction.inRegion (region : EiRegion) : LogicalAction → LogicalAction
  | .absolute .horizontal position =>
      .absolute .horizontal (region.x.toNat * 65535 + position * region.width.toNat)
  | .absolute .vertical position =>
      .absolute .vertical (region.y.toNat * 65535 + position * region.height.toNat)
  | action => action

/-- The actions of an emission; an absolute motion goes to the point that the compositor
gets. -/
def Emission.logical {D : Type*} (emission : Emission D) : List LogicalAction :=
  match emission.point with
  | some (x, y) => [.absolute .horizontal x, .absolute .vertical y]
  | none => emission.call.logical

/-- The product with a coordinate does not wrap. -/
theorem regionCoordinate_eq_iff (offset extent : UInt32) {value : Int32}
    (h : InAbsoluteRange value) :
    (regionCoordinate offset extent value : Int) =
        offset.toNat * 65535 + value.toInt * extent.toNat ↔
      value.toInt * extent.toNat < 2 ^ 32 := by
  have hnonneg : 0 ≤ value.toInt := Int32.le_iff_toInt_le.mp h.1
  have hvalue : (value.toUInt32.toNat : Int) = value.toInt := by
    rw [toNat_toUInt32_eq (Int.toNat_of_nonneg hnonneg).symm]
    exact Int.toNat_of_nonneg hnonneg
  have hproduct : ((value.toUInt32 * extent).toNat : Int) =
      value.toInt * extent.toNat % 2 ^ 32 := by
    rw [UInt32.toNat_mul, ← hvalue]
    push_cast
    rfl
  have hpos : 0 ≤ value.toInt * extent.toNat := Int.mul_nonneg hnonneg (Int.natCast_nonneg _)
  unfold regionCoordinate
  push_cast
  rw [hproduct]
  omega

/-- The call is no absolute motion, or its products with the sides of the region fit into
32 bits. -/
def EiCall.Fits (region : EiRegion) : EiCall → Prop
  | .motionAbsolute x y =>
      x.toInt * region.width.toNat < 2 ^ 32 ∧ y.toInt * region.height.toNat < 2 ^ 32
  | _ => True

@[simp] theorem map_inRegion_motionAlong (region : EiRegion) (axis : Axis) (amount : Int) :
    (motionAlong axis amount).map (LogicalAction.inRegion region) = motionAlong axis amount := by
  unfold motionAlong
  split_ifs <;> rfl

@[simp] theorem map_inRegion_scrollAlong (region : EiRegion) (axis : Axis) (amount : Int) :
    (scrollAlong axis amount).map (LogicalAction.inRegion region) = scrollAlong axis amount := by
  unfold scrollAlong
  split_ifs <;> rfl

theorem normalized_inRange (value : Int32) : InAbsoluteRange (normalized value) := by
  unfold normalized
  split_ifs with hneg hlarge
  · exact ⟨by decide, by decide⟩
  · exact ⟨by decide, by decide⟩
  · exact ⟨Int32.not_lt.mp hneg, Int32.not_lt.mp hlarge⟩

section Agree

variable {D : Type*} [DecidableEq D] {regions : D → Option EiRegion} {region : EiRegion}

omit [DecidableEq D] in
/-- An absolute motion is on a device with the region, to normalised coordinates. -/
def Emission.Scaled (region : EiRegion) (emission : Emission D) : Prop :=
  ∀ x y, emission.call = .motionAbsolute x y →
    emission.region = some region ∧ InAbsoluteRange x ∧ InAbsoluteRange y

omit [DecidableEq D] in
/-- An emission does what its call does in the region, if and only if its products fit. -/
theorem emission_logical_iff {emission : Emission D} (h : emission.Scaled region) :
    emission.logical.length =
        (emission.call.logical.map (LogicalAction.inRegion region)).length ∧
      (emission.logical = emission.call.logical.map (LogicalAction.inRegion region) ↔
        emission.call.Fits region) := by
  obtain ⟨bridge, capability, device, call, measured⟩ := emission
  have hmap : ∀ {calls actions : List LogicalAction}, calls = actions →
      calls.length = actions.length ∧ (calls = actions ↔ True) :=
    fun heq => ⟨congrArg List.length heq, iff_of_true heq trivial⟩
  cases call with
  | motionAbsolute x y =>
    obtain ⟨hregion, hx, hy⟩ := h x y rfl
    simp only at hregion
    subst hregion
    refine ⟨rfl, ?_⟩
    show [LogicalAction.absolute .horizontal _, .absolute .vertical _] =
      [LogicalAction.absolute .horizontal _, .absolute .vertical _] ↔ _
    rw [List.cons_eq_cons, List.cons_eq_cons, and_iff_left rfl, LogicalAction.absolute.injEq,
      LogicalAction.absolute.injEq, and_iff_right rfl, and_iff_right rfl,
      regionCoordinate_eq_iff _ _ hx, regionCoordinate_eq_iff _ _ hy]
    rfl
  | motion dx dy =>
    apply hmap
    show motionAlong _ _ ++ motionAlong _ _ = (motionAlong _ _ ++ motionAlong _ _).map _
    rw [List.map_append, map_inRegion_motionAlong, map_inRegion_motionAlong]
  | button code pressed => exact hmap rfl
  | scrollDiscrete x y =>
    apply hmap
    show scrollAlong _ _ ++ scrollAlong _ _ = (scrollAlong _ _ ++ scrollAlong _ _).map _
    rw [List.map_append, map_inRegion_scrollAlong, map_inRegion_scrollAlong]
  | key code pressed => exact hmap rfl

omit [DecidableEq D] in
/-- A list of emissions does what their calls do in the region, if and only if the products of
each fit. -/
theorem emissions_logical_iff {emissions : List (Emission D)}
    (h : ∀ emission ∈ emissions, emission.Scaled region) :
    emissions.flatMap Emission.logical =
        (logicalCalls (emissions.map Emission.request)).map (LogicalAction.inRegion region) ↔
      ∀ emission ∈ emissions, emission.call.Fits region := by
  induction emissions with
  | nil => exact iff_of_true rfl (List.forall_mem_nil _)
  | cons emission emissions ih =>
    obtain ⟨hfirst, hrest⟩ := List.forall_mem_cons.mp h
    obtain ⟨hlength, hfits⟩ := emission_logical_iff hfirst
    have hcalls : logicalCalls ((emission :: emissions).map Emission.request) =
        emission.call.logical ++ logicalCalls (emissions.map Emission.request) := rfl
    rw [List.flatMap_cons, hcalls, List.map_append, List.forall_mem_cons, ← hfits, ← ih hrest]
    constructor
    · exact fun hboth => List.append_inj hboth hlength
    · rintro ⟨hhead, htail⟩
      rw [hhead, htail]

omit [DecidableEq D] in
/-- There is a connection, and a device for each of the five capabilities; the one for
absolute motion has the region. -/
structure InputBridge.AllPresent (regions : D → Option EiRegion) (region : EiRegion)
    (bridge : InputBridge D) : Prop where
  connected : bridge.eis.isNone = false
  devices : ∀ capability, ∃ device, bridge.slots capability = some device
  region : ∀ device, bridge.slots .pointerAbsolute = some device → regions device = some region

omit [DecidableEq D] in
theorem InputBridge.AllPresent.offers {bridge : InputBridge D}
    (h : bridge.AllPresent regions region) (call : Capability × EiCall) :
    bridge.Offers regions call := by
  obtain ⟨device, hdevice⟩ := h.devices call.1
  refine ⟨device, hdevice, ?_⟩
  rintro ⟨habsolute, hnone⟩
  rw [habsolute] at hdevice
  rw [h.region device hdevice] at hnone
  cases hnone

/-- Both ways accept the event, or neither does, and they do the same in the region. -/
structure BackendsAgree (region : EiRegion) (sent : SentEvent D) (written : Written) : Prop where
  ok_eq : sent.ok = written.ok
  actions_eq : sent.emissions.flatMap Emission.logical =
    (logicalWrites written.events).map (LogicalAction.inRegion region)

/-- The products of an absolute motion with the sides of the region fit into 32 bits. -/
def MotionFits (region : EiRegion) (event : CaptureInputEvent) : Prop :=
  event.type = captureInputMouse → event.has 0x0001 = true → event.has 0x8000 = true →
    event.dx.toInt * region.width.toNat < 2 ^ 32 ∧
      event.dy.toInt * region.height.toNat < 2 ^ 32

/-- What holds of every call of a mouse event, if it holds of all but absolute motions. -/
theorem forall_mouseCalls_iff {event : CaptureInputEvent} {P : Capability × EiCall → Prop}
    (hother : ∀ call, (∀ x y, call.2 ≠ .motionAbsolute x y) → P call) :
    (∀ call ∈ mouseCalls event, P call) ↔
      (event.has 0x0001 = true → event.has 0x8000 = true →
        P (.pointerAbsolute, .motionAbsolute (normalized event.dx) (normalized event.dy))) := by
  constructor
  · intro hall hmove habsolute
    refine hall _ ?_
    unfold mouseCalls
    simp only [hmove, habsolute, if_true, List.append_assoc, List.singleton_append]
    exact List.mem_cons_self ..
  · rintro habsolute ⟨capability, call⟩ hcall
    cases call with
    | motionAbsolute x y =>
      have hbutton : ∀ (flag : UInt32) (code : Nat) (pressed : Bool),
          (capability, EiCall.motionAbsolute x y) ∉
            (if event.has flag then [(Capability.button, EiCall.button code pressed)] else []) := by
        intro flag code pressed hmem
        split_ifs at hmem
        · cases List.mem_singleton.mp hmem
        · cases hmem
      unfold mouseCalls at hcall
      simp only [List.mem_append, hbutton, or_false] at hcall
      rcases hcall with hmotion | hwheel
      · split_ifs at hmotion with hmove hflag
        · rw [List.mem_singleton.mp hmotion]
          exact habsolute hmove hflag
        · cases List.mem_singleton.mp hmotion
        · cases hmotion
      · split_ifs at hwheel
        all_goals first | cases List.mem_singleton.mp hwheel | cases hwheel
    | _ => exact hother _ nofun

/-- What holds of every call of an event, if it holds of all but absolute motions. -/
theorem forall_eventCalls_iff {event : CaptureInputEvent} {P : Capability × EiCall → Prop}
    (hother : ∀ call, (∀ x y, call.2 ≠ .motionAbsolute x y) → P call)
    {calls : List (Capability × EiCall)} (hcalls : eventCalls? event = some calls) :
    (∀ call ∈ calls, P call) ↔
      (event.type = captureInputMouse → event.has 0x0001 = true → event.has 0x8000 = true →
        P (.pointerAbsolute, .motionAbsolute (normalized event.dx) (normalized event.dy))) := by
  unfold eventCalls? at hcalls
  split_ifs at hcalls with hmouse hkeyboard
  · obtain rfl := Option.some.inj hcalls
    rw [forall_mouseCalls_iff hother]
    exact ⟨fun h _ => h, fun h => h hmouse⟩
  · obtain ⟨code, -, rfl⟩ := Option.map_eq_some_iff.mp hcalls
    refine iff_of_true (List.forall_mem_singleton.mpr (hother _ nofun)) fun heq => ?_
    exact absurd heq hmouse

omit [DecidableEq D] in
/-- What is emitted is a call, on the device of its slot and with the region of the device. -/
theorem mem_emitCalls {bridge : InputBridge D} {calls : List (Capability × EiCall)}
    {emission : Emission D} (h : emission ∈ (emitCalls regions bridge calls).1) :
    emission.request ∈ calls ∧ bridge.slots emission.capability = some emission.device ∧
      emission.region = regions emission.device := by
  induction calls with
  | nil => cases h
  | cons call calls ih =>
    unfold emitCalls at h
    cases hemit : emitCall regions bridge call with
    | none =>
      rw [hemit] at h
      cases h
    | some first =>
      rw [hemit] at h
      rcases List.mem_cons.mp h with rfl | hrest
      · unfold emitCall at hemit
        cases hslot : bridge.slots call.1 with
        | none =>
          rw [hslot] at hemit
          cases hemit
        | some device =>
          rw [hslot] at hemit
          simp only at hemit
          split_ifs at hemit
          obtain rfl := Option.some.inj hemit
          exact ⟨List.mem_cons_self .., hslot, rfl⟩
      · obtain ⟨hmem, hdevice⟩ := ih hrest
        exact ⟨List.mem_cons_of_mem _ hmem, hdevice⟩

omit [DecidableEq D] in
/-- With every device there the emissions of an event are scaled to the region. -/
theorem InputBridge.AllPresent.scaled {bridge : InputBridge D}
    (h : bridge.AllPresent regions region) {event : CaptureInputEvent}
    {calls : List (Capability × EiCall)} (hcalls : eventCalls? event = some calls) :
    ∀ emission ∈ (emitCalls regions bridge calls).1, emission.Scaled region := by
  intro emission hemission x y hmotion
  obtain ⟨hmem, hslot, hregion⟩ := mem_emitCalls hemission
  have hnormalised : ∀ call ∈ calls, ∀ x y, call.2 = .motionAbsolute x y →
      call.1 = .pointerAbsolute ∧ InAbsoluteRange x ∧ InAbsoluteRange y := by
    refine (forall_eventCalls_iff (fun call hne x y heq => absurd heq (hne x y)) hcalls).mpr ?_
    rintro - - - x y heq
    obtain ⟨rfl, rfl⟩ := EiCall.motionAbsolute.inj heq
    exact ⟨rfl, normalized_inRange _, normalized_inRange _⟩
  obtain ⟨hcapability, hrange⟩ := hnormalised _ hmem x y hmotion
  have habsolute : emission.capability = .pointerAbsolute := hcapability
  rw [habsolute] at hslot
  exact ⟨hregion.trans (h.region _ hslot), hrange⟩

/-- The calls of an event fit exactly when its motion does. -/
theorem eventCalls_fit_iff {event : CaptureInputEvent} (hrange : AbsoluteInRange event)
    {calls : List (Capability × EiCall)} (hcalls : eventCalls? event = some calls) :
    (∀ call ∈ calls, call.2.Fits region) ↔ MotionFits region event := by
  rw [@forall_eventCalls_iff _ (fun call => call.2.Fits region) ?_ _ hcalls]
  · unfold MotionFits
    refine forall_congr' fun hmouse => forall_congr' fun hmove => forall_congr' fun habsolute => ?_
    obtain ⟨hx, hy⟩ := hrange hmouse hmove habsolute
    rw [normalized_eq hx, normalized_eq hy]
    rfl
  · rintro ⟨capability, call⟩ hother
    cases call with
    | motionAbsolute x y => exact absurd rfl (hother x y)
    | _ => trivial

/-- With every device there when an event is sent, and no write that fails, both ways of
input agree on the event exactly when no product with a side of the region wraps. -/
theorem backends_agree_iff {caps : D → Capability → Bool} {regions : D → Option EiRegion}
    {region : EiRegion} {dispatch : Dispatch D} {bridge : InputBridge D}
    {event : CaptureInputEvent} {writes : List Bool}
    (hdevices : (dispatchEis caps dispatch bridge).1.AllPresent regions region)
    (hwrites : ∀ ok ∈ writes, ok = true) (hrange : AbsoluteInRange event) :
    MotionFits region event ↔
      BackendsAgree region (sendEventEis caps regions dispatch event bridge)
        (sendEventUinput event writes) := by
  unfold sendEventUinput
  rcases event_logical_eq hrange with ⟨hcalls, hgroups⟩ | ⟨calls, groups, hcalls, hgroups, hsame⟩
  · rw [hgroups]
    have hmouse : event.type ≠ captureInputMouse := by
      intro heq
      unfold eventCalls? at hcalls
      rw [if_pos heq] at hcalls
      cases hcalls
    refine iff_of_true (fun heq => absurd heq hmouse) ?_
    rcases sendEventEis_cases caps regions dispatch event bridge with
      ⟨-, hok, hnothing⟩ | ⟨calls, hsome, -⟩
    · refine ⟨hok, ?_⟩
      rw [hnothing]
      rfl
    · rw [hcalls] at hsome
      cases hsome
  · rw [hgroups]
    rcases sendEventEis_cases caps regions dispatch event bridge with
      ⟨hnone, -⟩ | ⟨others, hothers, -, ⟨hclosed, -⟩ | ⟨-, hok, hemissions⟩⟩
    · rw [hcalls] at hnone
      cases hnone
    · rw [hdevices.connected] at hclosed
      cases hclosed
    · obtain rfl := Option.some.inj (hcalls.symm.trans hothers)
      obtain ⟨hall, hrequests, -⟩ :=
        emitCalls_spec regions (dispatchEis caps dispatch bridge).1 calls
      have hsent := hall.mpr fun call _ => hdevices.offers call
      have hwritten := writeGroups_succeeds groups hwrites
      have hfits := emissions_logical_iff (hdevices.scaled hcalls)
      have hforall := @eventCalls_fit_iff region _ hrange _ hcalls
      rw [← hrequests hsent, List.forall_mem_map] at hforall
      rw [hrequests hsent, hsame] at hfits
      rw [← hforall]
      constructor
      · intro hfit
        refine ⟨?_, ?_⟩
        · rw [hok, hsent, hwritten]
        · rw [hemissions, writeGroups_ok hwritten]
          exact hfits.mpr hfit
      · intro hagree
        have hactions := hagree.actions_eq
        rw [hemissions, writeGroups_ok hwritten] at hactions
        exact hfits.mp hactions

end Agree

/-- One device with every capability, which holds all slots. -/
def oneDevice : InputBridge Unit where
  eis := some ⟨fun _ => true⟩
  slots _ := some ()

/-- A move to the middle of the screen, with the left button and both wheels. -/
def busyMouse : CaptureInputEvent where
  type := captureInputMouse
  dx := 32768
  dy := 32768
  mouseData := 240
  flags := 0x9803
  virtualKey := 0
  scanCode := 0

/-- The second of two monitors beside each other. -/
def secondMonitor : EiRegion := ⟨1920, 0, 2560, 1440⟩

theorem busy_mouse_agrees_iff :
    MotionFits secondMonitor busyMouse ↔
      BackendsAgree secondMonitor
        (sendEventEis everyCapability (fun _ => some secondMonitor) {} busyMouse oneDevice)
        (sendEventUinput busyMouse []) :=
  backends_agree_iff
    ⟨rfl, fun _ => ⟨(), rfl⟩, fun _ _ => rfl⟩
    (List.forall_mem_nil _) fun _ _ _ => ⟨⟨by decide, by decide⟩, by decide, by decide⟩

/-- A wall of monitors that is 65538 pixels wide. -/
def wideRegion : EiRegion := ⟨0, 0, 65538, 1080⟩

/-- A move to the right edge. -/
def rightEdge : CaptureInputEvent where
  type := captureInputMouse
  dx := 65535
  dy := 0
  mouseData := 0
  flags := 0x8001
  virtualKey := 0
  scanCode := 0

/-- The product with the width wraps: through the compositor the pointer goes to the left
edge. -/
theorem right_edge_disagrees :
    ¬∀ (region : EiRegion) (bridge : InputBridge Unit) (event : CaptureInputEvent)
        (writes : List Bool),
      (dispatchEis everyCapability {} bridge).1.AllPresent (fun _ => some region) region →
        (∀ ok ∈ writes, ok = true) → AbsoluteInRange event →
          BackendsAgree region
            (sendEventEis everyCapability (fun _ => some region) {} event bridge)
            (sendEventUinput event writes) := by
  intro hall
  have hagree := hall wideRegion oneDevice rightEdge []
    ⟨rfl, fun _ => ⟨(), rfl⟩, fun _ _ => rfl⟩ (List.forall_mem_nil _)
    fun _ _ _ => ⟨⟨by decide, by decide⟩, by decide, by decide⟩
  exact absurd hagree.actions_eq (by decide)

end UuAmfBridge
