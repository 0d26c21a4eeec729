import UuAmfBridge.Capture.Protocol
import UuAmfBridge.Lib.FixedWidth
import UuAmfBridge.Lib.Machine
import UuAmfBridge.Lib.StridedCopy

/-!
# The frame that the capture helper serves

`frame_state` of `src/wayland_capture_helper.cpp` holds one frame behind a mutex.
`publish_image`, `publish_bgra` and `capture_kwin_workspace` replace it, and a
frame request of `handle_client` copies it into a reply.  Each section under the
mutex is one step here; a request that finds no frame waits, which gives the
mutex up, and has a second step when it wakes up.

The frames are assumed to be smaller than 2 GiB, where the sizes that the
publishers compute in `int`, `size_t` and `uint64_t` are exact
(`publishImage_wellFormed` and its companions).

* `frameServer_step_keeps`: the state is the last published frame.
* `served_frames_whole`: over every run, a reply with status zero is one published
  frame, on each connection the frames do not go backwards, and once there is a
  frame every reply has one.
-/

namespace UuAmfBridge

/-! ## Frames -/

/-- The members of `frame_state` that a publisher sets. -/
structure FrameData where
  width : UInt32
  height : UInt32
  pixels : List UInt8

/-- A whole frame: four bytes for each pixel, and less than 2 GiB. -/
structure FrameData.WellFormed (frame : FrameData) : Prop where
  width_pos : 0 < frame.width.toNat
  height_pos : 0 < frame.height.toNat
  size_lt : 4 * frame.width.toNat * frame.height.toNat < 2 ^ 31
  length_eq : frame.pixels.length = 4 * frame.width.toNat * frame.height.toNat

/-- A buffer of `size` bytes after the rows of an image have been copied into it. -/
def packRows (size rowSize stride rows : Nat) (source : Nat → UInt8) : List UInt8 :=
  (List.range size).map
    (copyAll (stridedCopies 0 rowSize 0 stride rowSize rows) source fun _ => 0)

@[simp] theorem packRows_length (size rowSize stride rows : Nat) (source : Nat → UInt8) :
    (packRows size rowSize stride rows source).length = size := by
  simp [packRows]

/-! ## Publishers -/

/-- The image of `publish_image` after it is converted to `Format_ARGB32`. -/
structure QImage where
  isNull : Bool
  width : Int32
  height : Int32
  bytesPerLine : Nat
  bits : Nat → UInt8

/-- `publish_image`: the frame it publishes, if any. -/
def publishImage (image : QImage) : Option FrameData :=
  if image.isNull || image.width ≤ 0 || image.height ≤ 0 then none
  else some
    { width := image.width.toUInt32
      height := image.height.toUInt32
      pixels := packRows (image.width * image.height * 4).toInt.toNat (image.width.toInt.toNat * 4)
        image.bytesPerLine image.height.toInt.toNat image.bits }

/-- The arguments of `publish_bgra`. -/
structure BgraSource where
  source : Option (Nat → UInt8)
  width : UInt32
  height : UInt32
  stride : Int32

/-- `publish_bgra`: the frame it publishes, if any. -/
def publishBgra (bgra : BgraSource) : Option FrameData :=
  let rowSize := bgra.width.toNat * 4
  match bgra.source with
  | none => none
  | some source =>
      if bgra.width = 0 || bgra.height = 0 || bgra.stride.toInt < (rowSize : Int).bmod (2 ^ 32) then
        none
      else some
        { width := bgra.width
          height := bgra.height
          pixels := packRows (rowSize * bgra.height.toNat % 2 ^ 64) rowSize
            bgra.stride.toInt.toNat bgra.height.toNat source }

/-- What `capture_kwin_workspace` meets: whether there is a pipe and a reply, the
results, and what can be read from the pipe. -/
structure KwinCapture where
  pipe : Bool := true
  reply : Bool := true
  width : UInt32
  height : UInt32
  stride : UInt32
  format : UInt32
  readExact : Bool := true
  raw : Nat → UInt8

def maxFrameSize : UInt64 := 256 * 1024 * 1024

/-- Red and blue are swapped in these formats. -/
def kwinSwapped (format : UInt32) : Bool := format = 16 || format = 17 || format = 18

/-- These formats are copied as they are. -/
def kwinCopied (format : UInt32) : Bool := format = 4 || format = 5 || format = 6

/-- Where byte `i` of a row of pixels comes from when red and blue are swapped. -/
def swapRedBlue (i : Nat) : Nat := if i % 4 = 0 then i + 2 else if i % 4 = 2 then i - 2 else i

/-- `capture_kwin_workspace`: the frame it publishes, if it succeeds. -/
def captureKwinWorkspace (capture : KwinCapture) : Option FrameData :=
  let rawSize := capture.stride.toUInt64 * capture.height.toUInt64
  let outputSize := capture.width.toUInt64 * capture.height.toUInt64 * 4
  if !capture.pipe || !capture.reply then none
  else if capture.width = 0 || capture.height = 0 || capture.stride < capture.width * 4 ||
      maxFrameSize < rawSize || maxFrameSize < outputSize then none
  else if !capture.readExact then none
  else if !(kwinSwapped capture.format || kwinCopied capture.format) then none
  else
    let copied := packRows outputSize.toNat (capture.width.toNat * 4) capture.stride.toNat
      capture.height.toNat capture.raw
    some
      { width := capture.width
        height := capture.height
        pixels := if kwinSwapped capture.format then
            (List.range outputSize.toNat).map fun i => copied.getD (swapRedBlue i) 0
          else copied }

/-! ## The state and its steps -/

/-- `frame_state`, all frames published so far, and the connections whose request
waits for a first frame. -/
structure FrameState where
  pixels : List UInt8 := []
  width : UInt32 := 0
  height : UInt32 := 0
  generation : UInt64 := 0
  published : List FrameData := []
  waiting : List Nat := []

/-- The section of a publisher. -/
def FrameState.publish (state : FrameState) (frame : FrameData) : FrameState :=
  { state with
    pixels := frame.pixels
    width := frame.width
    height := frame.height
    generation := state.generation + 1
    published := state.published ++ [frame] }

/-- The steps of the publishers and of the connections, whatever their order. -/
inductive FrameOp where
  | publishImage (image : QImage)
  | publishBgra (bgra : BgraSource)
  | captureKwin (capture : KwinCapture)
  /-- A frame request on a connection. -/
  | request (connection : Nat)
  /-- The wait of a connection ends, with a frame or with the timeout. -/
  | wake (connection : Nat)

/-- A reply to a frame request, its payload, and the number of the frame: how many
had been published. -/
structure ServedFrame where
  connection : Nat
  reply : CaptureReply
  pixels : List UInt8
  number : Nat

/-- The reply of `handle_client` to a frame request. -/
def FrameState.reply (state : FrameState) : CaptureReply × List UInt8 :=
  let reply : CaptureReply :=
    { magic := captureMagic, type := UuAmfBridge.captureReply
      protocolVersion := captureProtocolVersion
      status := 1, width := 0, height := 0, stride := 0, payloadSize := 0 }
  if state.pixels.isEmpty then (reply, [])
  else
    ({ reply with
      status := 0
      width := state.width
      height := state.height
      stride := state.width * 4
      payloadSize := UInt32.ofNat state.pixels.length }, state.pixels)

def FrameState.serve (state : FrameState) (connection : Nat) : ServedFrame :=
  { connection, reply := state.reply.1, pixels := state.reply.2, number := state.published.length }

/-- The frame that a publisher publishes. -/
def FrameOp.frame? : FrameOp → Option FrameData
  | .publishImage image => UuAmfBridge.publishImage image
  | .publishBgra bgra => UuAmfBridge.publishBgra bgra
  | .captureKwin capture => captureKwinWorkspace capture
  | .request _ => none
  | .wake _ => none

/-- The publishers and the connections; the answer is the reply, where a step
sends one. -/
def frameServer : Machine FrameState FrameOp (Option ServedFrame) where
  step state op :=
    match op with
    | .request connection =>
        if connection ∈ state.waiting then (state, none)
        else if state.pixels.isEmpty then
          ({ state with waiting := connection :: state.waiting }, none)
        else (state, some (state.serve connection))
    | .wake connection =>
        if connection ∈ state.waiting then
          ({ state with waiting := state.waiting.erase connection }, some (state.serve connection))
        else (state, none)
    | publisher =>
        match publisher.frame? with
        | none => (state, none)
        | some frame => (state.publish frame, none)

/-- A publisher publishes its frame, or changes nothing. -/
theorem publisher_step_cases {state : FrameState} {op : FrameOp}
    (hstep : frameServer.step state op =
      match op.frame? with
      | none => (state, none)
      | some frame => (state.publish frame, none)) :
    (∃ frame, op.frame? = some frame ∧ frameServer.step state op = (state.publish frame, none)) ∨
      ∃ waiting, frameServer.step state op = ({ state with waiting }, none) := by
  rw [hstep]
  cases hframe : op.frame? with
  | none => exact Or.inr ⟨state.waiting, rfl⟩
  | some frame => exact Or.inl ⟨frame, rfl, rfl⟩

/-- A step publishes a frame, answers nothing, or serves what the state holds. -/
theorem frameServer_step_cases (state : FrameState) (op : FrameOp) :
    (∃ frame, op.frame? = some frame ∧ frameServer.step state op = (state.publish frame, none)) ∨
      (∃ waiting, frameServer.step state op = ({ state with waiting }, none)) ∨
        ∃ connection waiting, frameServer.step state op =
          ({ state with waiting }, some (state.serve connection)) := by
  cases op with
  | publishImage image => exact (publisher_step_cases rfl).imp_right Or.inl
  | publishBgra bgra => exact (publisher_step_cases rfl).imp_right Or.inl
  | captureKwin capture => exact (publisher_step_cases rfl).imp_right Or.inl
  | request connection =>
    right
    unfold frameServer
    simp only
    split_ifs
    · exact Or.inl ⟨state.waiting, rfl⟩
    · exact Or.inl ⟨connection :: state.waiting, rfl⟩
    · exact Or.inr ⟨connection, state.waiting, rfl⟩
  | wake connection =>
    right
    unfold frameServer
    simp only
    split_ifs
    · exact Or.inr ⟨connection, state.waiting.erase connection, rfl⟩
    · exact Or.inl ⟨state.waiting, rfl⟩

/-! ## Every published frame is whole -/

/-- The frames that are captured are smaller than 2 GiB. -/
def FrameOp.Fits : FrameOp → Prop
  | .publishImage image => 4 * image.width.toInt.toNat * image.height.toInt.toNat < 2 ^ 31
  | .publishBgra bgra => 4 * bgra.width.toNat * bgra.height.toNat < 2 ^ 31
  | .captureKwin capture => 4 * capture.width.toNat * capture.height.toNat < 2 ^ 31
  | .request _ => True
  | .wake _ => True

theorem publishImage_wellFormed {image : QImage} {frame : FrameData}
    (hfits : (FrameOp.publishImage image).Fits) (h : publishImage image = some frame) :
    frame.WellFormed := by
  unfold publishImage at h
  split_ifs at h with hbad
  obtain rfl := Option.some.inj h
  have hsize : 4 * image.width.toInt.toNat * image.height.toInt.toNat < 2 ^ 31 := hfits
  simp only [Bool.or_eq_true, decide_eq_true_eq, not_or, Int32.not_le, Int32.lt_iff_toInt_lt]
    at hbad
  obtain ⟨⟨-, hwidth⟩, hheight⟩ := hbad
  have hzero : (0 : Int32).toInt = 0 := rfl
  rw [hzero] at hwidth hheight
  obtain ⟨m, hm⟩ := Int.eq_ofNat_of_zero_le (le_of_lt hwidth)
  obtain ⟨n, hn⟩ := Int.eq_ofNat_of_zero_le (le_of_lt hheight)
  rw [hm, hn, Int.toNat_natCast, Int.toNat_natCast, Nat.mul_assoc] at hsize
  have hproduct : (image.width * image.height * 4).toInt = (m * n * 4 : Nat) :=
    toInt_mul_eq (toInt_mul_eq hm hn (by omega)) rfl (by omega)
  have hwidthEq := toNat_toUInt32_eq hm
  have hheightEq := toNat_toUInt32_eq hn
  constructor
  · rw [hwidthEq]
    omega
  · rw [hheightEq]
    omega
  · rw [hwidthEq, hheightEq, Nat.mul_assoc]
    exact hsize
  · rw [packRows_length, hproduct, Int.toNat_natCast, hwidthEq, hheightEq]
    ring

theorem publishBgra_wellFormed {bgra : BgraSource} {frame : FrameData}
    (hfits : (FrameOp.publishBgra bgra).Fits) (h : publishBgra bgra = some frame) :
    frame.WellFormed := by
  have hsize : 4 * bgra.width.toNat * bgra.height.toNat < 2 ^ 31 := hfits
  unfold publishBgra at h
  cases hsource : bgra.source with
  | none =>
    rw [hsource] at h
    cases h
  | some source =>
    rw [hsource] at h
    simp only at h
    split_ifs at h with hbad
    obtain rfl := Option.some.inj h
    simp only [Bool.or_eq_true, decide_eq_true_eq, not_or] at hbad
    have hproduct : bgra.width.toNat * 4 * bgra.height.toNat =
        4 * bgra.width.toNat * bgra.height.toNat := by ring
    refine ⟨pos_of_ne_zero hbad.1.1, pos_of_ne_zero hbad.1.2, hsize, ?_⟩
    rw [packRows_length, hproduct]
    exact Nat.mod_eq_of_lt (by omega)

theorem captureKwin_wellFormed {capture : KwinCapture} {frame : FrameData}
    (hfits : (FrameOp.captureKwin capture).Fits) (h : captureKwinWorkspace capture = some frame) :
    frame.WellFormed := by
  have hsize : 4 * capture.width.toNat * capture.height.toNat < 2 ^ 31 := hfits
  have hproduct : (capture.width.toUInt64 * capture.height.toUInt64 * 4).toNat =
      4 * capture.width.toNat * capture.height.toNat := by
    have hcommute : capture.width.toNat * capture.height.toNat * 4 =
        4 * capture.width.toNat * capture.height.toNat := by ring
    have hfour : (4 : UInt64).toNat = 4 := rfl
    rw [UInt64.toNat_mul, UInt64.toNat_mul, UInt32.toNat_toUInt64, UInt32.toNat_toUInt64, hfour,
      Nat.mod_mul_mod, hcommute]
    exact Nat.mod_eq_of_lt (by omega)
  unfold captureKwinWorkspace at h
  simp only at h
  split_ifs at h with hcall hbad hread hformat hswap
  all_goals
    obtain rfl := Option.some.inj h
    simp only [Bool.or_eq_true, decide_eq_true_eq, not_or] at hbad
    refine ⟨pos_of_ne_zero hbad.1.1.1.1, pos_of_ne_zero hbad.1.1.1.2, hsize, ?_⟩
  · rw [List.length_map, List.length_range, hproduct]
  · rw [packRows_length, hproduct]

/-- Every frame that fits is published whole. -/
theorem frame?_wellFormed {op : FrameOp} {frame : FrameData} (hfits : op.Fits)
    (h : op.frame? = some frame) : frame.WellFormed := by
  cases op with
  | publishImage image => exact publishImage_wellFormed hfits h
  | publishBgra bgra => exact publishBgra_wellFormed hfits h
  | captureKwin capture => exact captureKwin_wellFormed hfits h
  | request _ => cases h
  | wake _ => cases h

/-! ## What the state holds -/

/-- The state holds the last published frame, whole, or there is none yet; and the
replies so far are of frames published before. -/
structure HoldsLast (log : List (Option ServedFrame)) (state : FrameState) : Prop where
  frames : ∀ frame ∈ state.published, frame.WellFormed
  last : state.published = [] ∧ state.pixels = [] ∨
    ∃ frame, state.published.getLast? = some frame ∧ state.width = frame.width ∧
      state.height = frame.height ∧ state.pixels = frame.pixels
  numbers : ∀ served, some served ∈ log → served.number ≤ state.published.length

theorem FrameData.WellFormed.pixels_ne_nil {frame : FrameData} (h : frame.WellFormed) :
    frame.pixels ≠ [] := by
  intro hempty
  have hlength := h.length_eq
  have hpos := Nat.mul_pos (Nat.mul_pos (by omega : 0 < 4) h.width_pos) h.height_pos
  rw [hempty, List.length_nil] at hlength
  omega

/-- A reply is the published frame of its number, or says that there is none yet.  The frames
are numbered from one, as they are published. -/
structure ServedFrame.Whole (state : FrameState) (served : ServedFrame) : Prop where
  frame : served.reply.status = 0 → ∃ frame, 0 < served.number ∧
    state.published[served.number - 1]? = some frame ∧
      served.reply.width = frame.width ∧ served.reply.height = frame.height ∧
        served.reply.stride.toNat = 4 * frame.width.toNat ∧ served.pixels = frame.pixels ∧
          served.reply.payloadSize.toNat = 4 * frame.width.toNat * frame.height.toNat ∧
            served.pixels.length = served.reply.payloadSize.toNat
  status : state.published ≠ [] → served.reply.status = 0

/-- What is served from a state that holds the last frame. -/
theorem serve_whole {log : List (Option ServedFrame)} {state : FrameState}
    (h : HoldsLast log state) (connection : Nat) : (state.serve connection).Whole state := by
  unfold FrameState.serve FrameState.reply
  rcases h.last with ⟨hnone, hempty⟩ | ⟨frame, hlast, hwidth, hheight, hpixels⟩
  · rw [hempty]
    exact ⟨nofun, fun hne => absurd hnone hne⟩
  · have hmem : frame ∈ state.published := List.mem_of_getLast? hlast
    have hwhole := h.frames frame hmem
    have hne : state.pixels.isEmpty = false := by
      rw [hpixels]
      simpa using hwhole.pixels_ne_nil
    simp only [hne, Bool.false_eq_true, if_false]
    have hsize := hwhole.size_lt
    have hrow : 4 * frame.width.toNat ≤ 4 * frame.width.toNat * frame.height.toNat :=
      Nat.le_mul_of_pos_right _ hwhole.height_pos
    have hpayload : (UInt32.ofNat state.pixels.length).toNat =
        4 * frame.width.toNat * frame.height.toNat := by
      rw [toNat_ofNat_eq, hpixels, hwhole.length_eq]
      rw [hpixels, hwhole.length_eq]
      omega
    have hstride : (state.width * 4).toNat = 4 * frame.width.toNat := by
      rw [hwidth, Nat.mul_comm 4]
      exact toNat_mul_eq rfl rfl (by omega)
    have hnumber : 0 < state.published.length := List.length_pos_of_mem hmem
    have hlatest : state.published[state.published.length - 1]? = some frame := by
      rw [← List.getLast?_eq_getElem?]
      exact hlast
    refine ⟨fun _ => ?_, fun _ => rfl⟩
    refine ⟨frame, hnumber, hlatest, hwidth, hheight, hstride, hpixels, hpayload, ?_⟩
    rw [hpayload, hpixels, hwhole.length_eq]

/-- A publisher makes its frame the last one. -/
theorem publish_holdsLast {log : List (Option ServedFrame)} {state : FrameState}
    (h : HoldsLast log state) {frame : FrameData} (hframe : frame.WellFormed) :
    HoldsLast log (state.publish frame) := by
  refine ⟨fun other hother => ?_, Or.inr ⟨frame, List.getLast?_concat, rfl, rfl, rfl⟩,
    fun served hserved => ?_⟩
  · rcases List.mem_append.mp hother with hbefore | hlast
    · exact h.frames other hbefore
    · rw [List.mem_singleton.mp hlast]
      exact hframe
  · have hnumber := h.numbers served hserved
    show served.number ≤ (state.published ++ [frame]).length
    rw [List.length_append]
    omega

/-- A step that answers nothing and changes the waiting connections at most. -/
theorem holdsLast_none {log : List (Option ServedFrame)} {state : FrameState}
    (h : HoldsLast log state) (waiting : List Nat) :
    HoldsLast (log ++ [none]) { state with waiting } := by
  refine ⟨h.frames, h.last, fun served hserved => ?_⟩
  rcases List.mem_append.mp hserved with hbefore | hlast
  · exact h.numbers served hbefore
  · cases List.mem_singleton.mp hlast

/-- A reply is numbered by the frames so far. -/
theorem holdsLast_serve {log : List (Option ServedFrame)} {state : FrameState}
    (h : HoldsLast log state) (connection : Nat) (waiting : List Nat) :
    HoldsLast (log ++ [some (state.serve connection)]) { state with waiting } := by
  refine ⟨h.frames, h.last, fun served hserved => ?_⟩
  rcases List.mem_append.mp hserved with hbefore | hlast
  · exact h.numbers served hbefore
  · rw [Option.some.inj (List.mem_singleton.mp hlast)]
    exact Nat.le_refl _

/-- Every step keeps the last published frame. -/
theorem frameServer_step_keeps {log : List (Option ServedFrame)} {state : FrameState}
    (h : HoldsLast log state) {op : FrameOp} (hfits : op.Fits) :
    HoldsLast (log ++ [(frameServer.step state op).2]) (frameServer.step state op).1 := by
  rcases frameServer_step_cases state op with
    ⟨frame, hframe, heq⟩ | ⟨waiting, heq⟩ | ⟨connection, waiting, heq⟩
  · rw [heq]
    exact holdsLast_none (publish_holdsLast h (frame?_wellFormed hfits hframe)) state.waiting
  · rw [heq]
    exact holdsLast_none h waiting
  · rw [heq]
    exact holdsLast_serve h connection waiting

/-! ## Runs -/

/-- What one step serves: a whole frame, no older than one served before on the
same connection.  A capture that fails leaves the state as it is. -/
structure ServesWhole (log : List (Option ServedFrame)) (state : FrameState) (op : FrameOp) :
    Prop where
  whole : ∀ served, (frameServer.step state op).2 = some served → served.Whole state
  forward : ∀ served, (frameServer.step state op).2 = some served →
    ∀ earlier, some earlier ∈ log → earlier.connection = served.connection →
      earlier.reply.status = 0 → earlier.number ≤ served.number
  unchanged : ∀ capture, op = .captureKwin capture → captureKwinWorkspace capture = none →
    (frameServer.step state op).1 = state

/-- A reply is what the state holds. -/
theorem frameServer_step_answer {state : FrameState} {op : FrameOp} {served : ServedFrame}
    (h : (frameServer.step state op).2 = some served) :
    ∃ connection, served = state.serve connection := by
  rcases frameServer_step_cases state op with
    ⟨frame, -, heq⟩ | ⟨waiting, heq⟩ | ⟨connection, waiting, heq⟩
  · rw [heq] at h
    cases h
  · rw [heq] at h
    cases h
  · rw [heq] at h
    exact ⟨connection, (Option.some.inj h).symm⟩

theorem servesWhole_of_holdsLast {log : List (Option ServedFrame)} {state : FrameState}
    (h : HoldsLast log state) (op : FrameOp) : ServesWhole log state op := by
  refine ⟨fun served hserved => ?_, fun served hserved earlier hearlier _ _ => ?_,
    fun capture hop hfail => ?_⟩
  · obtain ⟨connection, rfl⟩ := frameServer_step_answer hserved
    exact serve_whole h connection
  · obtain ⟨connection, rfl⟩ := frameServer_step_answer hserved
    exact h.numbers earlier hearlier
  · subst hop
    unfold frameServer
    have hframe : (FrameOp.captureKwin capture).frame? = none := hfail
    simp only [hframe]

/-- Over every interleaving of publishers and connections, every reply with status
zero is one published frame, the numbers of the frames on a connection do not go backwards, every
reply after the first frame has status zero, and a capture that fails changes
nothing. -/
theorem served_frames_whole {ops : List FrameOp} (hfits : ∀ op ∈ ops, op.Fits) :
    frameServer.Along ServesWhole [] {} ops := by
  have hstart : HoldsLast [] {} := ⟨nofun, Or.inl ⟨rfl, rfl⟩, nofun⟩
  exact Machine.along_of_invariant HoldsLast (fun _ _ _ h hop => frameServer_step_keeps h hop)
    (fun _ _ op h _ => servesWhole_of_holdsLast h op) hstart
    (Machine.along_of_forall_mem [] ({} : FrameState) hfits)

/-- A frame of one pixel between a request that waits and its answer. -/
def firstFrame : List FrameOp :=
  [.request 0, .publishBgra ⟨some fun _ => 7, 1, 1, 4⟩, .wake 0, .request 0]

theorem first_frame_served : frameServer.Along ServesWhole [] {} firstFrame := by
  refine served_frames_whole fun op hop => ?_
  rcases List.mem_cons.mp hop with rfl | hop
  · trivial
  rcases List.mem_cons.mp hop with rfl | hop
  · show 4 * 1 * 1 < 2 ^ 31
    decide
  rcases List.mem_cons.mp hop with rfl | hop
  · trivial
  obtain rfl := List.mem_singleton.mp hop
  trivial

end UuAmfBridge
