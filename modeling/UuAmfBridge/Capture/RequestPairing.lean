import UuAmfBridge.Capture.Hook

/-!
# Requests and replies of the capture hook

The hook keeps a connection from one request to the next, so a reply is matched to
its request by position alone.  `request_frame` and `send_input_chunk` close the
connection on every failure, whatever has been read of the reply by then, and a call
that succeeds has read the reply to its end.

A frame of 4 GiB or more would break this: its size does not fit into
`payload_size`, and the rest of it would be taken for the next reply.  The helper
limits a capture through KWin itself, and relies on `gst_video_info_from_caps` to
refuse such a frame of the compositor's stream (`FrameOp.Negotiated`).

* `captured_pixels_lt`: the size of every frame fits into `payload_size`.
* `requestFrame_spec` and `sendInputChunk_spec`: what one call returns and leaves.
* `requests_paired`: over every run of calls on the two connections, with restarts of
  the helper between them, a call returns what the helper has written for its own
  request, and leaves its connection closed or in step.
-/

namespace UuAmfBridge

section Pairing

variable {D : Type*} [DecidableEq D]

/-! ## The calls -/

/-- `helper_connection` and `input_connection`; `none` for `INVALID_SOCKET`. -/
structure HookProcess (D : Type*) where
  helperConnection : Option (CaptureConnection D) := none
  inputConnection : Option (CaptureConnection D) := none

/-- The calls of the hook, and the end of the helper between them. -/
inductive HookCall (D : Type*) where
  | requestFrame (env : FrameCallEnv D)
  | sendInputChunk (env : ChunkEnv D) (inputs : List HookInput)
  | helperEnds

/-- What a call returns.  `turn` is a ghost: what the helper has done when the request
of the call reached it. -/
structure HookAnswer where
  frame : Option (CaptureReply × List UInt8) := none
  accepted : UInt32 := 0
  turn : CaptureTurn := ⟨[], none⟩

/-- The turn of the helper in answer to the request of a call. -/
def requestTurn (token : List UInt8) (connect : CaptureConnectEnv D) (turn : CaptureEnv D)
    (connection : Option (CaptureConnection D)) (bytes : List UInt8) : CaptureTurn :=
  match openConnection connect token connection with
  | none => ⟨[], none⟩
  | some connection => connection.helper.receive turn bytes

/-- A connection whose helper is gone. -/
def CaptureConnection.helperEnds (connection : CaptureConnection D) : CaptureConnection D :=
  { connection with helper := .ended }

/-- The hook, with the token of its environment. -/
def hookCalls (token : List UInt8) : Machine (HookProcess D) (HookCall D) HookAnswer where
  step process call :=
    match call with
    | .requestFrame env =>
        let (connection, frame) := requestFrame token env process.helperConnection
        ({ process with helperConnection := connection },
          { frame
            turn := requestTurn token env.connect env.turn process.helperConnection
              frameRequest.encode })
    | .sendInputChunk env inputs =>
        let (connection, accepted) := sendInputChunk token env inputs process.inputConnection
        ({ process with inputConnection := connection },
          { accepted
            turn := match chunkEvents? inputs with
              | none => ⟨[], none⟩
              | some events => requestTurn token env.connect env.turn process.inputConnection
                  (sendChunk env.toChunkSendEnv events).2 })
    | .helperEnds =>
        ({ helperConnection := process.helperConnection.map CaptureConnection.helperEnds
           inputConnection := process.inputConnection.map CaptureConnection.helperEnds }, {})

/-! ## The property -/

/-- A connection that is closed, or has no byte unread on either side. -/
def ClosedOrInStep (connection : Option (CaptureConnection D)) : Prop :=
  ∀ open', connection = some open' → open'.InStep

/-- Both connections are closed or in step. -/
structure HookProcess.InStep (process : HookProcess D) : Prop where
  frames : ClosedOrInStep process.helperConnection
  input : ClosedOrInStep process.inputConnection

/-- A frame that a call returns is the frame of the helper at that request, and what the
helper has written in answer. -/
def HookAnswer.FramePaired (answer : HookAnswer) (env : FrameCallEnv D) : Prop :=
  ∀ reply pixels, answer.frame = some (reply, pixels) →
    (reply, pixels) = env.turn.frame.reply ∧
      writtenBytes answer.turn.events = reply.encode ++ pixels

/-- A count that a call returns is at most the length of the chunk, and the one that the
helper has written after it has injected the chunk. -/
def HookAnswer.CountPaired (answer : HookAnswer) (inputs : List HookInput) : Prop :=
  answer.accepted ≠ 0 → answer.accepted.toNat ≤ inputs.length ∧
    (∃ events, inputs.map HookInput.event? = events.map some ∧
      .inject events ∈ answer.turn.events) ∧
    writtenBytes answer.turn.events =
      (inputReply answer.accepted (UInt32.ofNat inputs.length)).encode

/-- What a call returns belongs to its own request, and it leaves both connections
closed or in step. -/
def CallPaired (token : List UInt8) (process : HookProcess D) (call : HookCall D) : Prop :=
  ((hookCalls token).step process call).1.InStep ∧
    match call with
    | .requestFrame env => ((hookCalls token).step process call).2.FramePaired env
    | .sendInputChunk _ inputs => ((hookCalls token).step process call).2.CountPaired inputs
    | .helperEnds => True

/-- What `gst_video_info_from_caps` promises of a frame: it is smaller than 4 GiB. -/
def FrameOp.Negotiated : FrameOp → Prop
  | .publishBgra bgra => 4 * bgra.width.toNat * bgra.height.toNat < 2 ^ 32
  | _ => True

/-- `frame_state` after the frames that have been captured. -/
def FrameState.Captured (state : FrameState) : Prop :=
  ∃ ops : List FrameOp, (∀ op ∈ ops, op.Negotiated) ∧ state = frameServer.run {} ops

/-- The frame that a call finds has been captured. -/
def HookCall.Captured : HookCall D → Prop
  | .requestFrame env => env.turn.frame.Captured
  | _ => True

/-! ## The size of a frame -/

/-- Every frame that is published is smaller than 4 GiB. -/
theorem negotiated_pixels_lt {op : FrameOp} {frame : FrameData} (hop : op.Negotiated)
    (h : op.frame? = some frame) : frame.pixels.length < 2 ^ 32 := by
  cases op with
  | publishImage image =>
    have hpublished : publishImage image = some frame := h
    unfold publishImage at hpublished
    split_ifs at hpublished
    obtain rfl := Option.some.inj hpublished
    rw [packRows_length]
    have hlt := Int32.toInt_lt (image.width * image.height * 4)
    omega
  | publishBgra bgra =>
    have hpublished : publishBgra bgra = some frame := h
    have hsize : 4 * bgra.width.toNat * bgra.height.toNat < 2 ^ 32 := hop
    unfold publishBgra at hpublished
    cases hsource : bgra.source with
    | none =>
      rw [hsource] at hpublished
      cases hpublished
    | some source =>
      rw [hsource] at hpublished
      simp only at hpublished
      split_ifs at hpublished
      obtain rfl := Option.some.inj hpublished
      have hproduct : bgra.width.toNat * 4 * bgra.height.toNat =
          4 * bgra.width.toNat * bgra.height.toNat := by ring
      rw [packRows_length, hproduct]
      exact lt_of_le_of_lt (Nat.mod_le _ _) hsize
  | captureKwin capture =>
    have hpublished : captureKwinWorkspace capture = some frame := h
    unfold captureKwinWorkspace at hpublished
    simp only at hpublished
    split_ifs at hpublished with _ hbad
    all_goals
      obtain rfl := Option.some.inj hpublished
      simp only [Bool.or_eq_true, decide_eq_true_eq, not_or, UInt64.not_lt,
        UInt64.le_iff_toNat_le] at hbad
      have hmax : maxFrameSize.toNat = 256 * 1024 * 1024 := rfl
      have hle := hbad.2
      rw [hmax] at hle
    · rw [List.length_map, List.length_range]
      omega
    · rw [packRows_length]
      omega
  | request _ => cases h
  | wake _ => cases h

/-- A step leaves the pixels, or publishes a frame. -/
theorem frameServer_step_pixels (state : FrameState) (op : FrameOp) :
    (frameServer.step state op).1.pixels = state.pixels ∨
      ∃ frame, op.frame? = some frame ∧ (frameServer.step state op).1.pixels = frame.pixels := by
  rcases frameServer_step_cases state op with
    ⟨frame, hframe, heq⟩ | ⟨waiting, heq⟩ | ⟨connection, waiting, heq⟩
  · rw [heq]
    exact Or.inr ⟨frame, hframe, rfl⟩
  · rw [heq]
    exact Or.inl rfl
  · rw [heq]
    exact Or.inl rfl

/-- The size of the frame of the helper fits into `payload_size`. -/
theorem captured_pixels_lt {state : FrameState} (h : state.Captured) :
    state.pixels.length < 2 ^ 32 := by
  obtain ⟨ops, hops, rfl⟩ := h
  have hstep : ∀ (log : List (Option ServedFrame)) state (op : FrameOp),
      state.pixels.length < 2 ^ 32 → op.Negotiated →
        (frameServer.step state op).1.pixels.length < 2 ^ 32 := by
    intro _ state op hlt hop
    rcases frameServer_step_pixels state op with heq | ⟨frame, hframe, heq⟩
    · rw [heq]
      exact hlt
    · rw [heq]
      exact negotiated_pixels_lt hop hframe
  exact Machine.exec_invariant (fun _ state => state.pixels.length < 2 ^ 32) hstep
    (Nat.two_pow_pos 32) (Machine.along_of_forall_mem [] ({} : FrameState) hops)

/-! ## What the helper writes -/

/-- In answer to a frame request the helper writes at most the reply and the pixels. -/
theorem CaptureConnection.InStep.frame_written {connection : CaptureConnection D}
    (h : connection.InStep) (env : CaptureEnv D) :
    (connection.deliver env frameRequest.encode).helper.unread = [] ∧
      (connection.deliver env frameRequest.encode).inbound <+:
        env.frame.reply.1.encode ++ env.frame.reply.2 := by
  have hdeliver := h.deliver_cases env frameRequest [] (by
    intro authenticated size heq
    rw [requestBody_frameRequest] at heq
    split_ifs at heq
    exact (Option.some.inj heq).symm)
  rw [List.append_nil] at hdeliver
  obtain ⟨hunread, hanswer⟩ := hdeliver
  refine ⟨hunread, ?_⟩
  rcases hanswer with hnil | ⟨server, _, -, -, hreceive⟩
  · rw [hnil]
    exact List.nil_prefix
  · rw [h.deliver_inbound, hreceive]
    exact answerFrame_written server env []

/-- In answer to a chunk the helper writes nothing, or it injects the events and writes
at most the reply. -/
theorem CaptureConnection.InStep.input_written {connection : CaptureConnection D}
    (h : connection.InStep) (env : CaptureEnv D) {events : List CaptureInputEvent}
    (hpos : 0 < events.length) (hle : events.length ≤ captureMaxInputEvents.toNat) :
    let bytes := (inputRequest (UInt32.ofNat events.length)).encode ++
      CaptureInputEvent.encodeAll events
    (connection.deliver env bytes).helper.unread = [] ∧
      ((connection.deliver env bytes).inbound = [] ∨
        ∃ accepted, .inject events ∈ (connection.helper.receive env bytes).events ∧
          (connection.deliver env bytes).inbound <+:
            (inputReply accepted (UInt32.ofNat events.length)).encode) := by
  intro bytes
  have hmax : captureMaxInputEvents.toNat = 64 := rfl
  have hcount : (UInt32.ofNat events.length).toNat = events.length := toNat_ofNat_eq (by omega)
  obtain ⟨hunread, hanswer⟩ := h.deliver_cases env
    (inputRequest (UInt32.ofNat events.length)) (CaptureInputEvent.encodeAll events) (by
      intro authenticated size heq
      rw [requestBody_inputRequest hpos hle] at heq
      split_ifs at heq
      exact (Option.some.inj heq).symm)
  refine ⟨hunread, ?_⟩
  rcases hanswer with hnil | ⟨server, _, -, -, hreceive⟩
  · exact Or.inl hnil
  · right
    have hevents : CaptureInputEvent.decodeAll (UInt32.ofNat events.length).toNat
        (CaptureInputEvent.encodeAll events) = events := by
      rw [hcount, CaptureInputEvent.decodeAll_encodeAll]
    refine ⟨UInt32.ofNat (server.sendBatch env events).accepted, ?_, ?_⟩
    · rw [hreceive]
      refine List.mem_cons_of_mem _ ?_
      show CaptureEvent.inject events ∈ (server.answerInput env (UInt32.ofNat events.length)
        (CaptureInputEvent.encodeAll events) []).events
      unfold CaptureServer.answerInput
      simp only [hevents]
      exact List.mem_cons_self
    · rw [h.deliver_inbound, hreceive]
      have hwritten := answerInput_written server env (UInt32.ofNat events.length)
        (CaptureInputEvent.encodeAll events) []
      rw [hevents] at hwritten
      exact hwritten

/-! ## One call -/

theorem openConnection_inStep {env : CaptureConnectEnv D} {token : List UInt8}
    {connection : Option (CaptureConnection D)} (h : ClosedOrInStep connection) :
    ClosedOrInStep (openConnection env token connection) := by
  cases connection with
  | none => exact fun _ hopen => (connectHelper_cases hopen).1
  | some connection => exact h

omit [DecidableEq D] in
theorem closedOrInStep_none : ClosedOrInStep (none : Option (CaptureConnection D)) := nofun

omit [DecidableEq D] in
/-- A frame that is sent with status zero has the size that its reply announces. -/
theorem reply_payloadSize {state : FrameState} (hfits : state.pixels.length < 2 ^ 32)
    (hstatus : state.reply.1.status = 0) :
    state.reply.2.length = state.reply.1.payloadSize.toNat := by
  unfold FrameState.reply at hstatus ⊢
  simp only at hstatus ⊢
  split_ifs at hstatus ⊢
  · exact absurd hstatus (by decide)
  · exact (toNat_ofNat_eq hfits).symm

/-- A reply that `request_frame` accepts and has read to its end, on a connection that
was in step. -/
theorem CaptureConnection.InStep.frame_read {connection : CaptureConnection D}
    (h : connection.InStep) {env : CaptureEnv D} (hfits : env.frame.pixels.length < 2 ^ 32)
    {replyRecv pixelsRecv : List RecvResult} {header pixels : RecvOutcome UInt8}
    (hheader : header = socketRecvAll replyRecv CaptureReply.size
      (connection.deliver env frameRequest.encode).inbound)
    (hcomplete : header.status = .complete)
    (haccepted : frameReplyAccepted (CaptureReply.decode header.data) = true)
    (hpixels : pixels = socketRecvAll pixelsRecv
      (CaptureReply.decode header.data).payloadSize.toNat header.rest)
    (hwhole : pixels.status = .complete) :
    pixels.rest = [] ∧ (CaptureReply.decode header.data, pixels.data) = env.frame.reply ∧
      writtenBytes (connection.helper.receive env frameRequest.encode).events =
        (CaptureReply.decode header.data).encode ++ pixels.data := by
  have hwritten := (h.frame_written env).2
  rw [h.deliver_inbound] at hwritten hheader
  subst hheader
  have hlength := CaptureReply.encode_length env.frame.reply.1
  rw [← hlength] at hcomplete haccepted hpixels ⊢
  obtain ⟨hdata, hrest, hinbound⟩ := socketRecvAll_begins hwritten hcomplete
  rw [hdata, CaptureReply.decode_encode] at haccepted hpixels ⊢
  -- The size that the reply announces is the size of the pixels.
  have hstatus : env.frame.reply.1.status = 0 := by
    unfold frameReplyAccepted at haccepted
    simp only [Bool.and_eq_true, beq_iff_eq] at haccepted
    exact haccepted.1.1.1.1.1.2
  rw [← reply_payloadSize hfits hstatus] at hpixels
  subst hpixels
  rw [← List.append_nil env.frame.reply.2] at hrest
  obtain ⟨hpixelsData, hpixelsRest, hpixelsIn⟩ := socketRecvAll_begins hrest hwhole
  have hnil := List.prefix_nil.mp hpixelsRest
  refine ⟨hnil, ?_, ?_⟩
  · rw [hpixelsData]
  · rw [hpixelsData, hinbound, hpixelsIn, hnil, List.append_nil]

/-- One call of `request_frame`. -/
theorem requestFrame_spec (token : List UInt8) {env : FrameCallEnv D}
    {connection : Option (CaptureConnection D)} (h : ClosedOrInStep connection)
    (hcaptured : env.turn.frame.Captured) :
    ClosedOrInStep (requestFrame token env connection).1 ∧
      ∀ reply pixels, (requestFrame token env connection).2 = some (reply, pixels) →
        (reply, pixels) = env.turn.frame.reply ∧
          writtenBytes (requestTurn token env.connect env.turn connection
            frameRequest.encode).events = reply.encode ++ pixels := by
  have hopened : ClosedOrInStep (openConnection env.connect token connection) :=
    openConnection_inStep h
  unfold requestFrame requestTurn
  cases hopen : openConnection env.connect token connection with
  | none => exact ⟨closedOrInStep_none, fun _ _ h => by cases h⟩
  | some connection =>
    have hstep := hopened connection hopen
    simp only
    split_ifs with hsend hheader haccepted halloc hpixels
    · exact ⟨closedOrInStep_none, fun _ _ h => by cases h⟩
    · exact ⟨closedOrInStep_none, fun _ _ h => by cases h⟩
    · exact ⟨closedOrInStep_none, fun _ _ h => by cases h⟩
    · exact ⟨closedOrInStep_none, fun _ _ h => by cases h⟩
    · exact ⟨closedOrInStep_none, fun _ _ h => by cases h⟩
    · obtain ⟨hrest, hframe, hwritten⟩ :=
        hstep.frame_read (captured_pixels_lt hcaptured) rfl (not_not.mp hheader)
        (by simpa using haccepted) rfl (not_not.mp hpixels)
      constructor
      · intro kept hkept
        obtain rfl := Option.some.inj hkept
        exact ⟨hrest, (hstep.frame_written env.turn).1⟩
      · intro reply pixels hreturned
        obtain ⟨rfl, rfl⟩ := Prod.mk.inj (Option.some.inj hreturned)
        exact ⟨hframe, hwritten⟩

omit [DecidableEq D] in
/-- The sending half sends the request and the events, or it fails. -/
theorem sendChunk_sent {env : ChunkSendEnv D} {events : List CaptureInputEvent}
    (h : (sendChunk env events).1 = true) :
    (sendChunk env events).2 = (inputRequest (UInt32.ofNat events.length)).encode ++
      CaptureInputEvent.encodeAll events := by
  unfold sendChunk at h ⊢
  simp only at h ⊢
  split_ifs at h ⊢ with hheader
  have hcomplete : (socketSendAll env.requestSend
      (inputRequest (UInt32.ofNat events.length)).encode).complete = true := by
    simpa using hheader
  rw [socketSendAll_sent hcomplete, socketSendAll_sent h]

/-- A reply to a chunk that has been read to its end, on a connection that was in
step. -/
theorem CaptureConnection.InStep.input_read {connection : CaptureConnection D}
    (h : connection.InStep) {env : CaptureEnv D} {events : List CaptureInputEvent}
    (hpos : 0 < events.length) (hle : events.length ≤ captureMaxInputEvents.toNat)
    {calls : List RecvResult} {bytes : List UInt8} {received : RecvOutcome UInt8}
    (hbytes : bytes = (inputRequest (UInt32.ofNat events.length)).encode ++
      CaptureInputEvent.encodeAll events)
    (hreceived : received = socketRecvAll calls CaptureInputReply.size
      (connection.deliver env bytes).inbound)
    (hcomplete : received.status = .complete) :
    received.rest = [] ∧ ∃ accepted,
      CaptureInputReply.decode received.data =
        inputReply accepted (UInt32.ofNat events.length) ∧
      .inject events ∈ (connection.helper.receive env bytes).events ∧
        writtenBytes (connection.helper.receive env bytes).events =
          (inputReply accepted (UInt32.ofNat events.length)).encode := by
  subst hbytes hreceived
  rcases (h.input_written env hpos hle).2 with hnil | ⟨accepted, hinject, hwritten⟩
  · have henough := le_length_of_recvLoop_complete hcomplete
    rw [hnil] at henough
    exact absurd henough (by decide)
  · have hlength := CaptureInputReply.encode_length
      (inputReply accepted (UInt32.ofNat events.length))
    rw [← hlength] at hcomplete ⊢
    rw [← List.append_nil (CaptureInputReply.encode _)] at hwritten
    obtain ⟨hdata, hrest, hinbound⟩ := socketRecvAll_begins hwritten hcomplete
    have hnil := List.prefix_nil.mp hrest
    rw [hnil, List.append_nil, h.deliver_inbound] at hinbound
    rw [hdata]
    exact ⟨hnil, accepted, CaptureInputReply.decode_encode _, hinject, hinbound⟩

/-- One call of `send_input_chunk`. -/
theorem sendInputChunk_spec (token : List UInt8) (env : ChunkEnv D) (inputs : List HookInput)
    {connection : Option (CaptureConnection D)} (h : ClosedOrInStep connection) :
    ClosedOrInStep (sendInputChunk token env inputs connection).1 ∧
      ((sendInputChunk token env inputs connection).2 ≠ 0 →
        ∃ events, chunkEvents? inputs = some events ∧
          (sendInputChunk token env inputs connection).2 ≤ UInt32.ofNat events.length ∧
            let turn := requestTurn token env.connect env.turn connection
              (sendChunk env.toChunkSendEnv events).2
            .inject events ∈ turn.events ∧ writtenBytes turn.events =
              (inputReply (sendInputChunk token env inputs connection).2
                (UInt32.ofNat events.length)).encode) := by
  unfold sendInputChunk requestTurn
  cases hchunk : chunkEvents? inputs with
  | none => exact ⟨h, fun hzero => absurd rfl hzero⟩
  | some events =>
    obtain ⟨-, -, hpos, hle⟩ := chunkEvents?_eq hchunk
    have hopened : ClosedOrInStep (openConnection env.connect token connection) :=
      openConnection_inStep h
    cases hopen : openConnection env.connect token connection with
    | none => exact ⟨closedOrInStep_none, fun hzero => absurd rfl hzero⟩
    | some connection =>
      have hstep := hopened connection hopen
      simp only
      by_cases hsend : (sendChunk env.toChunkSendEnv events).1 = true
      · rw [if_neg (by simpa using hsend), sendChunk_sent hsend]
        obtain ⟨hunread, hanswer⟩ := hstep.input_written env.turn hpos hle
        unfold receiveChunkReply
        simp only
        split_ifs with hstatus haccepted
        · exact ⟨closedOrInStep_none, fun hzero => absurd rfl hzero⟩
        · exact ⟨closedOrInStep_none, fun hzero => absurd rfl hzero⟩
        · obtain ⟨hrest, accepted, hreply, hinject, hwritten⟩ :=
            hstep.input_read hpos hle rfl rfl (not_not.mp hstatus)
          have hle' : accepted ≤ UInt32.ofNat events.length := by
            rw [hreply] at haccepted
            simp only [inputReplyAccepted, Bool.not_eq_true', Bool.not_eq_false,
              Bool.and_eq_true] at haccepted
            exact of_decide_eq_true haccepted.2
          constructor
          · intro kept hkept
            obtain rfl := Option.some.inj hkept
            exact ⟨hrest, hunread⟩
          · intro _
            rw [hreply]
            refine ⟨events, rfl, hle', ?_⟩
            rw [sendChunk_sent hsend]
            exact ⟨hinject, hwritten⟩
      · rw [if_pos (by simpa using hsend)]
        exact ⟨closedOrInStep_none, fun hzero => absurd rfl hzero⟩

/-! ## Runs -/

omit [DecidableEq D] in
/-- The end of the helper leaves nothing unread that was not. -/
theorem helperEnds_inStep {connection : Option (CaptureConnection D)}
    (h : ClosedOrInStep connection) :
    ClosedOrInStep (connection.map CaptureConnection.helperEnds) := by
  intro kept hkept
  obtain ⟨connection', hconnection, rfl⟩ := Option.map_eq_some_iff.mp hkept
  exact ⟨(h connection' hconnection).inbound_eq, rfl⟩

/-- Every call is paired, from a process in step. -/
theorem callPaired_of_inStep (token : List UInt8) {process : HookProcess D}
    (h : process.InStep) {call : HookCall D} (hcaptured : call.Captured) :
    CallPaired token process call := by
  cases call with
  | requestFrame env =>
    obtain ⟨hstep, hframe⟩ := requestFrame_spec token h.frames hcaptured
    exact ⟨⟨hstep, h.input⟩, hframe⟩
  | sendInputChunk env inputs =>
    obtain ⟨hstep, hcount⟩ := sendInputChunk_spec token env inputs h.input
    refine ⟨⟨h.frames, hstep⟩, fun hne => ?_⟩
    obtain ⟨events, hchunk, hle, hinject, hwritten⟩ := hcount hne
    obtain ⟨hmap, hlength, -, hmax⟩ := chunkEvents?_eq hchunk
    have hmaxEq : captureMaxInputEvents.toNat = 64 := rfl
    have hturn : ((hookCalls token).step process (.sendInputChunk env inputs)).2.turn =
        requestTurn token env.connect env.turn process.inputConnection
          (sendChunk env.toChunkSendEnv events).2 := by
      unfold hookCalls
      simp only [hchunk]
    rw [UInt32.le_iff_toNat_le, toNat_ofNat_eq (by omega), hlength] at hle
    refine ⟨hle, ⟨events, hmap, ?_⟩, ?_⟩
    · rw [hturn]
      exact hinject
    · rw [hturn, hwritten, hlength]
      rfl
  | helperEnds => exact ⟨⟨helperEnds_inStep h.frames, helperEnds_inStep h.input⟩, trivial⟩

/-- Over every run of the calls on the two connections, every call returns what belongs
to its own request and leaves both connections closed or in step. -/
theorem requests_paired (token : List UInt8) {calls : List (HookCall D)}
    (hcaptured : ∀ call ∈ calls, call.Captured) :
    (hookCalls token).Along (fun _ process call => CallPaired token process call) [] {}
      calls := by
  have hstart : HookProcess.InStep ({} : HookProcess D) :=
    ⟨closedOrInStep_none, closedOrInStep_none⟩
  exact Machine.along_of_invariant (fun _ process => process.InStep)
    (fun _ _ _ h hcall => (callPaired_of_inStep token h hcall).1)
    (fun _ _ _ h hcall => callPaired_of_inStep token h hcall) hstart
    (Machine.along_of_forall_mem [] ({} : HookProcess D) hcaptured)

end Pairing

/-- A helper without a token. -/
def openServer : CaptureServer Unit where
  caps := everyCapability
  regions _ := some ⟨0, 0, 1920, 1080⟩

/-- A frame, an input on the second connection, and a frame that a restart of the helper
comes before. -/
def pairedCalls : List (HookCall Unit) :=
  [.requestFrame
      { connect := { server := openServer }
        turn := { frame := frameServer.run {} firstFrame } },
    .sendInputChunk
      { connect := { server := openServer }
        turn := { send := { events := [], uinputReady := true, uinput := [true] } } }
      [.mouse 1 0 0 1],
    .helperEnds,
    .requestFrame { connect := { server := openServer } }]

theorem paired_calls_paired :
    (hookCalls []).Along (fun _ process call => CallPaired [] process call) [] {} pairedCalls := by
  refine requests_paired [] fun call hcall => ?_
  rcases List.mem_cons.mp hcall with rfl | hcall
  · refine ⟨firstFrame, fun op hop => ?_, rfl⟩
    rcases List.mem_cons.mp hop with rfl | hop
    · trivial
    rcases List.mem_cons.mp hop with rfl | hop
    · show 4 * 1 * 1 < 2 ^ 32
      decide
    rcases List.mem_cons.mp hop with rfl | hop
    · trivial
    obtain rfl := List.mem_singleton.mp hop
    trivial
  rcases List.mem_cons.mp hcall with rfl | hcall
  · trivial
  rcases List.mem_cons.mp hcall with rfl | hcall
  · trivial
  obtain rfl := List.mem_singleton.mp hcall
  exact ⟨[], nofun, rfl⟩

end UuAmfBridge
