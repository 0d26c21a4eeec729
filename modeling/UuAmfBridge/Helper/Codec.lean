import UuAmfBridge.Helper.Protocol
import UuAmfBridge.Lib.StridedCopy

/-!
# The encoder and the decoder of the helper

`encoder_init`, `encoder_frame`, `decoder_init` and `decoder_packet` of
`src/amf_helper.c`.  FFmpeg is outside the repository: what its calls answer is
part of an environment (`EncoderInitEnv`, `EncodeEnv`, `DecodeEnv`), one entry
for each call, and the calls that take a codec context are recorded in order as
`AvCall`s with the context they are given.  The context is a pointer, so it may
be null.

The frames are images in memory.  A loop of `memcpy` calls is the list of its
calls (`hostLumaCopies` and its companions), with the offsets in the arithmetic
of the source: `int` products for the FFmpeg side, `uint32_t` products for the
packed side, `size_t` products in the decoder.
-/

namespace UuAmfBridge

/-! ## FFmpeg values -/

def averrorEagain : Int32 := -11
def averrorEnomem : Int32 := -12
def averrorEinval : Int32 := -22
def averrorEnosys : Int32 := -38
def averrorEoverflow : Int32 := -75
def averrorEof : Int32 := -541478725
def averrorEncoderNotFound : Int32 := -1129203192
def averrorDecoderNotFound : Int32 := -1128613112

/-- The pixel formats the helper tells apart. -/
inductive AVPixelFormat where
  | vulkan
  | nv12
  | yuv420p
  | other
  deriving Repr, DecidableEq

/-- The part of an `AVFrame` the helper reads or writes.  A plane is the memory
behind its data pointer. -/
structure AVFrame where
  format : AVPixelFormat
  width : Int
  height : Int
  linesize : Fin 3 → Int
  data : Fin 3 → Nat → UInt8

/-- The part of an `AVPacket` the helper reads.  The size of a packet is an
`int`. -/
structure AVPacket where
  data : List UInt8
  size_lt : data.length < 2 ^ 31

/-- A `uint32_t` assigned to an `int`. -/
def asInt (value : UInt32) : Int := (Int32.ofUInt32 value).toInt

/-- An `int` comes back from its `uint32_t`. -/
theorem asInt_toUInt32 (value : Int32) : asInt value.toUInt32 = value.toInt := rfl

/-- An `int` product as the offset of a pointer.  Overflow is undefined in C;
the product wraps here. -/
def intOffset (value : Int) : Nat := (value.bmod (2 ^ 32)).toNat

/-- What a codec context has been set up for. -/
inductive AVCodecKind where
  | h264Vulkan
  | h264Decoder
  deriving Repr, DecidableEq

/-- The settings of a codec context, and whether `avcodec_open2` has succeeded
on it. -/
structure AVCodecContext where
  kind : AVCodecKind
  opened : Bool
  width : Int := 0
  height : Int := 0
  timeBase : Int × Int := (0, 1)
  framerate : Int × Int := (0, 1)
  bitRate : Int64 := 0
  gopSize : Int := 0
  maxBFrames : Int := 0
  lowDelay : Bool := false
  asyncDepth : Int := 0
  deriving Repr, DecidableEq

/-- The calls that dereference a codec context. -/
inductive AvCall where
  | sendFrame (codec : Option AVCodecContext) (frame : AVFrame) (pts : Int64)
  | receivePacket (codec : Option AVCodecContext)
  | sendPacket (codec : Option AVCodecContext) (data : List UInt8)
  | receiveFrame (codec : Option AVCodecContext)

/-- The context a call is given. -/
def AvCall.codec : AvCall → Option AVCodecContext
  | .sendFrame codec _ _ => codec
  | .receivePacket codec => codec
  | .sendPacket codec _ => codec
  | .receiveFrame codec => codec

/-! ## The encoder -/

/-- `EncoderState`; the device and frame-pool references are not read by the
modelled code. -/
structure EncoderState where
  codec : Option AVCodecContext := none
  width : UInt32 := 0
  height : UInt32 := 0
  nextPts : Int64 := 0

/-- What the calls of `encoder_init` answer. -/
structure EncoderInitEnv where
  findEncoder : Bool := true
  hwdeviceCreate : Int32 := 0
  hwframeAlloc : Bool := true
  hwframeInit : Int32 := 0
  allocContext : Bool := true
  open2 : Int32 := 0

/-- The context `encoder_init` opens. -/
def encoderContext (message : HelperInitMessage) : AVCodecContext where
  kind := .h264Vulkan
  opened := true
  width := asInt message.width
  height := asInt message.height
  timeBase := (if message.fpsDen ≠ 0 then asInt message.fpsDen else 1,
    if message.fpsNum ≠ 0 then asInt message.fpsNum else 30)
  framerate := (if message.fpsNum ≠ 0 then asInt message.fpsNum else 30,
    if message.fpsDen ≠ 0 then asInt message.fpsDen else 1)
  bitRate := if message.bitrate ≠ 0 then Int64.ofUInt64 message.bitrate else 8000000
  gopSize := 60
  maxBFrames := 0
  lowDelay := true
  asyncDepth := 1

/-- `encoder_init`: the result code and the state.  Every failure path closes
the state again. -/
def encoderInit (env : EncoderInitEnv) (message : HelperInitMessage) :
    Int32 × EncoderState :=
  if !env.findEncoder then (averrorEncoderNotFound, {})
  else if env.hwdeviceCreate < 0 then (env.hwdeviceCreate, {})
  else if !env.hwframeAlloc then (averrorEnomem, {})
  else if env.hwframeInit < 0 then (env.hwframeInit, {})
  else if !env.allocContext then (averrorEnomem, {})
  else if env.open2 < 0 then (env.open2, {})
  else (0,
    { codec := some (encoderContext message)
      width := message.width
      height := message.height
      nextPts := 0 })

/-- One call of `avcodec_receive_packet`: its result, the packet it stores, and
whether the following `realloc` succeeds. -/
structure ReceivePacket where
  result : Int32
  packet : AVPacket
  realloc : Bool := true

/-- What the calls of `encoder_frame` answer.  Past the end of `receive` the
encoder has nothing more. -/
structure EncodeEnv where
  hostAlloc : Bool := true
  gpuAlloc : Bool := true
  packetAlloc : Bool := true
  getBuffer : Int32 := 0
  /-- The line sizes and the initial contents `av_frame_get_buffer` gives. -/
  linesize : Fin 3 → Int := fun _ => 0
  data : Fin 3 → Nat → UInt8 := fun _ _ => 0
  hwframeGetBuffer : Int32 := 0
  hwframeTransfer : Int32 := 0
  sendFrame : Int32 := 0
  receive : List ReceivePacket := []

/-- No packet of the encoder is empty. -/
def EncodeEnv.HasData (env : EncodeEnv) : Prop := ∀ call ∈ env.receive, call.packet.data ≠ []

/-- The bytes of a payload as memory. -/
def payloadMemory (payload : List UInt8) (index : Nat) : UInt8 := payload.getD index 0

/-- The loop of `encoder_frame` that copies the luma rows. -/
def hostLumaCopies (width height : UInt32) (linesize : Int) : List MemCopy :=
  (List.range (asInt height).toNat).map fun y =>
    { dst := intOffset ((y : Nat) * linesize)
      src := (UInt32.ofNat y * width).toNat
      count := width.toNat }

/-- The loop of `encoder_frame` that copies the chroma rows. -/
def hostChromaCopies (width height : UInt32) (linesize : Int) : List MemCopy :=
  (List.range (asInt height / 2).toNat).map fun y =>
    { dst := intOffset ((y : Nat) * linesize)
      src := (width * height).toNat + (UInt32.ofNat y * width).toNat
      count := width.toNat }

/-- The host frame `encoder_frame` fills from the payload. -/
def fillHostFrame (env : EncodeEnv) (state : EncoderState) (payload : List UInt8) :
    AVFrame where
  format := .nv12
  width := asInt state.width
  height := asInt state.height
  linesize := env.linesize
  data := fun plane =>
    if plane = 0 then
      copyAll (hostLumaCopies state.width state.height (env.linesize 0))
        (payloadMemory payload) (env.data 0)
    else if plane = 1 then
      copyAll (hostChromaCopies state.width state.height (env.linesize 1))
        (payloadMemory payload) (env.data 1)
    else env.data plane

/-- The end of the packet loop: a result code, the collected bytes, the calls
made, and whether `done` frees memory that is free already. -/
structure ReceivePackets where
  result : Int32
  output : List UInt8
  calls : List AvCall
  aborts : Bool := false

/-- The loop of `encoder_frame` that collects the packets; `output` is nothing
while it is null. -/
def receivePackets (codec : Option AVCodecContext) :
    List ReceivePacket → Option (List UInt8) → ReceivePackets
  | [], output => { result := 0, output := output.getD [], calls := [.receivePacket codec] }
  | call :: calls, output =>
      if call.result = averrorEagain ∨ call.result = averrorEof then
        { result := 0, output := output.getD [], calls := [.receivePacket codec] }
      else if call.result < 0 then
        { result := call.result, output := [], calls := [.receivePacket codec] }
      -- `realloc` to no bytes has freed `output`, and returns null.
      else if output = some [] ∧ call.packet.data = [] then
        { result := averrorEnomem, output := [], calls := [.receivePacket codec], aborts := true }
      else if !call.realloc then
        { result := averrorEnomem, output := [], calls := [.receivePacket codec] }
      else
        let next := receivePackets codec calls (some (output.getD [] ++ call.packet.data))
        { next with calls := .receivePacket codec :: next.calls }

/-- What `encoder_frame` hands back: its result, the packet memory and the
`uint32_t` size of it, the state, and the codec calls it made.  When it `aborts`
it does not return. -/
structure EncoderFrame where
  result : Int32
  packetData : List UInt8 := []
  packetSize : UInt32 := 0
  state : EncoderState
  calls : List AvCall := []
  aborts : Bool := false

/-- `encoder_frame`. -/
def encoderFrame (env : EncodeEnv) (state : EncoderState) (payload : List UInt8)
    (message : HelperFrameMessage) : EncoderFrame :=
  if state.codec.isNone ∨ message.payloadSize ≠ state.width * state.height * 3 / 2 then
    { result := averrorEinval, state }
  else if !(env.hostAlloc && env.gpuAlloc && env.packetAlloc) then
    { result := averrorEnomem, state }
  else if env.getBuffer < 0 then { result := env.getBuffer, state }
  else if env.hwframeGetBuffer < 0 then { result := env.hwframeGetBuffer, state }
  else if env.hwframeTransfer < 0 then { result := env.hwframeTransfer, state }
  else
    let sent := AvCall.sendFrame state.codec (fillHostFrame env state payload) state.nextPts
    let state := { state with nextPts := state.nextPts + 1 }
    if env.sendFrame < 0 then { result := env.sendFrame, state, calls := [sent] }
    else
      let received := receivePackets state.codec env.receive none
      { result := received.result
        packetData := received.output
        packetSize := UInt32.ofNat received.output.length
        state
        calls := sent :: received.calls
        aborts := received.aborts }

/-! ## The decoder -/

/-- `DecoderState`; the device reference is not read by the modelled code. -/
structure DecoderState where
  codec : Option AVCodecContext := none

/-- What the calls of `decoder_init` answer. -/
structure DecoderInitEnv where
  findDecoder : Bool := true
  hwdeviceCreate : Int32 := 0
  allocContext : Bool := true
  open2 : Int32 := 0

/-- The context `decoder_init` opens. -/
def decoderContext : AVCodecContext where
  kind := .h264Decoder
  opened := true
  lowDelay := true

/-- `decoder_init`: the result code and the state. -/
def decoderInit (env : DecoderInitEnv) : Int32 × DecoderState :=
  if !env.findDecoder then (averrorDecoderNotFound, {})
  else if env.hwdeviceCreate < 0 then (env.hwdeviceCreate, {})
  else if !env.allocContext then (averrorEnomem, {})
  else if env.open2 < 0 then (env.open2, {})
  else (0, { codec := some decoderContext })

/-- What the calls of `decoder_packet` answer. -/
structure DecodeEnv where
  packetAlloc : Bool := true
  gpuAlloc : Bool := true
  hostAlloc : Bool := true
  newPacket : Int32 := 0
  sendPacket : Int32 := 0
  receiveFrame : Int32 := averrorEagain
  gpuFormat : AVPixelFormat := .vulkan
  hwframeTransfer : Int32 := 0
  /-- The frame `av_hwframe_transfer_data` fills. -/
  host : AVFrame := ⟨.nv12, 0, 0, fun _ => 0, fun _ _ => 0⟩
  outputMalloc : Bool := true
  /-- The initial contents of the output buffer. -/
  fill : Nat → UInt8 := fun _ => 0

/-- The loop of `decoder_packet` that copies the luma rows. -/
def outputLumaCopies (host : AVFrame) : List MemCopy :=
  stridedCopies 0 host.width.toNat 0 (host.linesize 0).toNat host.width.toNat
    host.height.toNat

/-- The loop of `decoder_packet` that copies the chroma rows of an NV12 frame. -/
def outputChromaCopies (host : AVFrame) : List MemCopy :=
  stridedCopies (host.width.toNat * host.height.toNat) host.width.toNat 0
    (host.linesize 1).toNat host.width.toNat (host.height / 2).toNat

/-- The loops of `decoder_packet` that interleave the chroma planes of a
YUV420P frame: the bytes they store, in order. -/
def interleaveChroma (host : AVFrame) : List (Nat × UInt8) :=
  (List.range (host.height / 2).toNat).flatMap fun y =>
    let row := host.width.toNat * host.height.toNat + y * host.width.toNat
    (List.range (host.width / 2).toNat).flatMap fun x =>
      [(row + x * 2, host.data 1 (y * (host.linesize 1).toNat + x)),
        (row + x * 2 + 1, host.data 2 (y * (host.linesize 2).toNat + x))]

/-- What `decoder_packet` hands back: its result, the packed frame, its size
and dimensions, and the codec calls it made. -/
structure DecoderPacket where
  result : Int32
  frameData : List UInt8 := []
  frameSize : UInt32 := 0
  width : UInt32 := 0
  height : UInt32 := 0
  calls : List AvCall := []

/-- The part of `decoder_packet` behind a decoded frame: pack the host frame
into a buffer of `width * height * 3 / 2` bytes. -/
def packHostFrame (env : DecodeEnv) (calls : List AvCall) : DecoderPacket :=
  let host := env.host
  let outputSize : Nat := host.width.toNat * host.height.toNat * 3 / 2
  if host.width ≤ 0 ∨ host.height ≤ 0 ∨ host.width % 2 ≠ 0 ∨ host.height % 2 ≠ 0 then
    { result := averrorEinval, calls }
  else if outputSize > 4294967295 then { result := averrorEoverflow, calls }
  else if !env.outputMalloc then { result := averrorEnomem, calls }
  else
    let luma := copyAll (outputLumaCopies host) (host.data 0) env.fill
    let packed (memory : Nat → UInt8) : DecoderPacket :=
      { result := 0
        frameData := (List.range outputSize).map memory
        frameSize := UInt32.ofNat outputSize
        width := UInt32.ofNat host.width.toNat
        height := UInt32.ofNat host.height.toNat
        calls }
    match host.format with
    | .nv12 => packed (copyAll (outputChromaCopies host) (host.data 1) luma)
    | .yuv420p => packed (writeAll (interleaveChroma host) luma)
    | _ => { result := averrorEnosys, calls }

/-- `decoder_packet`. -/
def decoderPacket (env : DecodeEnv) (state : DecoderState) (data : List UInt8) :
    DecoderPacket :=
  if !(env.packetAlloc && env.gpuAlloc && env.hostAlloc) then { result := averrorEnomem }
  else if env.newPacket < 0 then { result := env.newPacket }
  else
    let sent := AvCall.sendPacket state.codec data
    if env.sendPacket < 0 then { result := env.sendPacket, calls := [sent] }
    else
      let calls := [sent, .receiveFrame state.codec]
      if env.receiveFrame = averrorEagain ∨ env.receiveFrame = averrorEof then
        { result := 0, calls }
      else if env.receiveFrame < 0 then { result := env.receiveFrame, calls }
      else if env.gpuFormat ≠ .vulkan then { result := averrorEnosys, calls }
      else if env.hwframeTransfer < 0 then { result := env.hwframeTransfer, calls }
      else packHostFrame env calls

/-! ## What the calls are given -/

/-- Every call of the packet loop is given the context of the loop. -/
theorem receivePackets_codec {codec : Option AVCodecContext}
    {calls : List ReceivePacket} {output : Option (List UInt8)} {call : AvCall}
    (hcall : call ∈ (receivePackets codec calls output).calls) :
    call.codec = codec := by
  induction calls generalizing output with
  | nil =>
    simp only [receivePackets, List.mem_singleton] at hcall
    rw [hcall, AvCall.codec]
  | cons next calls ih =>
    rw [receivePackets] at hcall
    split_ifs at hcall
    iterate 4
      · rw [List.mem_singleton.mp hcall, AvCall.codec]
    · rcases List.mem_cons.mp hcall with rfl | hrest
      · rfl
      · exact ih hrest

/-- `encoder_frame` makes no codec call without a context, and gives every call
the context of the session. -/
theorem encoderFrame_codec {env : EncodeEnv} {state : EncoderState}
    {payload : List UInt8} {message : HelperFrameMessage} {call : AvCall}
    (hcall : call ∈ (encoderFrame env state payload message).calls) :
    call.codec = state.codec ∧ state.codec.isSome := by
  rw [encoderFrame] at hcall
  split_ifs at hcall with hguard halloc hbuffer hpool htransfer hsend
  iterate 5
    · simp at hcall
  · have hsome : state.codec.isSome := by
      rw [not_or] at hguard
      simpa [Option.isSome_iff_ne_none] using hguard.1
    rw [List.mem_singleton.mp hcall]
    exact ⟨rfl, hsome⟩
  · have hsome : state.codec.isSome := by
      rw [not_or] at hguard
      simpa [Option.isSome_iff_ne_none] using hguard.1
    rcases List.mem_cons.mp hcall with rfl | hrest
    · exact ⟨rfl, hsome⟩
    · exact ⟨receivePackets_codec hrest, hsome⟩

/-- `encoder_frame` keeps the context and the geometry of the session. -/
theorem encoderFrame_state (env : EncodeEnv) (state : EncoderState)
    (payload : List UInt8) (message : HelperFrameMessage) :
    (encoderFrame env state payload message).state.codec = state.codec ∧
      (encoderFrame env state payload message).state.width = state.width ∧
      (encoderFrame env state payload message).state.height = state.height := by
  rw [encoderFrame]
  split_ifs <;> exact ⟨rfl, rfl, rfl⟩

/-- `packHostFrame` makes no further codec call. -/
theorem packHostFrame_calls (env : DecodeEnv) (calls : List AvCall) :
    (packHostFrame env calls).calls = calls := by
  rw [packHostFrame]
  split_ifs
  · rfl
  · rfl
  · rfl
  · cases env.host.format <;> rfl

/-- `decoder_packet` gives every codec call the context of the session, null or
not. -/
theorem decoderPacket_codec {env : DecodeEnv} {state : DecoderState}
    {data : List UInt8} {call : AvCall}
    (hcall : call ∈ (decoderPacket env state data).calls) :
    call.codec = state.codec := by
  rw [decoderPacket] at hcall
  split_ifs at hcall
  · simp at hcall
  · simp at hcall
  · rw [List.mem_singleton.mp hcall, AvCall.codec]
  all_goals
    try rw [packHostFrame_calls] at hcall
    rcases List.mem_cons.mp hcall with rfl | hrest
    · rfl
    · rw [List.mem_singleton.mp hrest, AvCall.codec]

/-- `decoder_packet` reaches the codec exactly when its allocations succeed. -/
theorem decoderPacket_calls_ne_nil_iff (env : DecodeEnv) (state : DecoderState)
    (data : List UInt8) :
    (decoderPacket env state data).calls ≠ [] ↔
      env.packetAlloc ∧ env.gpuAlloc ∧ env.hostAlloc ∧ ¬env.newPacket < 0 := by
  rw [decoderPacket]
  split_ifs with halloc hnew hsend
  · simp only [Bool.not_eq_true', Bool.and_eq_false_iff] at halloc
    simp only [ne_eq, not_true_eq_false, false_iff]
    rintro ⟨hpacket, hgpu, hhost, -⟩
    simp [hpacket, hgpu, hhost] at halloc
  · simp only [ne_eq, not_true_eq_false, false_iff]
    rintro ⟨-, -, -, hpos⟩
    exact hpos hnew
  all_goals
    simp only [Bool.not_eq_true', Bool.not_eq_false, Bool.and_eq_true] at halloc
    simp [halloc, hnew, packHostFrame_calls]

/-! ## The sizes they report -/

/-- The size `encoder_frame` reports is covered by the packet memory. -/
theorem encoderFrame_packetSize_le (env : EncodeEnv) (state : EncoderState)
    (payload : List UInt8) (message : HelperFrameMessage) :
    (encoderFrame env state payload message).packetSize.toNat ≤
      (encoderFrame env state payload message).packetData.length := by
  unfold encoderFrame
  split_ifs
  iterate 6
    · exact Nat.zero_le _
  · show (UInt32.ofNat _).toNat ≤ (receivePackets _ _ _).output.length
    rw [UInt32.toNat_ofNat']
    exact Nat.mod_le _ _

/-- The size `decoder_packet` reports is covered by the frame memory. -/
theorem decoderPacket_frameSize_le (env : DecodeEnv) (state : DecoderState)
    (data : List UInt8) :
    (decoderPacket env state data).frameSize.toNat ≤
      (decoderPacket env state data).frameData.length := by
  have hpack : ∀ calls, (packHostFrame env calls).frameSize.toNat ≤
      (packHostFrame env calls).frameData.length := by
    intro calls
    have hsize : ∀ (size : Nat) (memory : Nat → UInt8),
        (UInt32.ofNat size).toNat ≤ ((List.range size).map memory).length := by
      intro size memory
      rw [UInt32.toNat_ofNat', List.length_map, List.length_range]
      exact Nat.mod_le _ _
    unfold packHostFrame
    simp only
    split_ifs
    iterate 3
      · exact Nat.zero_le _
    · cases env.host.format with
      | vulkan => exact Nat.zero_le _
      | nv12 => exact hsize _ _
      | yuv420p => exact hsize _ _
      | other => exact Nat.zero_le _
  unfold decoderPacket
  split_ifs
  iterate 7
    · exact Nat.zero_le _
  · exact hpack _

/-- The packet loop that fails hands back nothing. -/
theorem receivePackets_output_eq_nil {codec : Option AVCodecContext}
    {calls : List ReceivePacket} {output : Option (List UInt8)}
    (h : (receivePackets codec calls output).result < 0) :
    (receivePackets codec calls output).output = [] := by
  have hzero : ¬(0 : Int32) < 0 := by decide
  induction calls generalizing output with
  | nil => exact absurd h hzero
  | cons call calls ih =>
    unfold receivePackets at h ⊢
    split_ifs at h ⊢ with hempty hresult hfreed hrealloc
    · exact absurd h hzero
    · rfl
    · rfl
    · rfl
    · exact ih h

/-- The packet loop that succeeds has freed nothing twice. -/
theorem receivePackets_returns {codec : Option AVCodecContext} {calls : List ReceivePacket}
    {output : Option (List UInt8)} (h : ¬(receivePackets codec calls output).result < 0) :
    (receivePackets codec calls output).aborts = false := by
  induction calls generalizing output with
  | nil => rfl
  | cons call calls ih =>
    unfold receivePackets at h ⊢
    split_ifs at h ⊢ with hempty hresult hfreed hrealloc
    · rfl
    · rfl
    · exact absurd (show averrorEnomem < 0 by decide) h
    · rfl
    · exact ih h

/-- The packet loop frees nothing twice when no packet is empty. -/
theorem receivePackets_not_aborts {codec : Option AVCodecContext} {calls : List ReceivePacket}
    (hdata : ∀ call ∈ calls, call.packet.data ≠ []) (output : Option (List UInt8)) :
    (receivePackets codec calls output).aborts = false := by
  induction calls generalizing output with
  | nil => rfl
  | cons call calls ih =>
    have hnonempty : call.packet.data ≠ [] := hdata call List.mem_cons_self
    unfold receivePackets
    split_ifs with hempty hresult hfreed hrealloc
    · rfl
    · rfl
    · exact absurd hfreed.2 hnonempty
    · rfl
    · exact ih (fun later hlater => hdata later (List.mem_cons_of_mem _ hlater)) _

/-- With packets that are not empty `encoder_frame` returns. -/
theorem encoderFrame_not_aborts {env : EncodeEnv} (hdata : env.HasData) (state : EncoderState)
    (payload : List UInt8) (message : HelperFrameMessage) :
    (encoderFrame env state payload message).aborts = false := by
  unfold encoderFrame
  split_ifs
  iterate 6
    · rfl
  · exact receivePackets_not_aborts hdata none

/-- `encoder_frame` hands back a packet only when it succeeds. -/
theorem encoderFrame_packetSize_eq_zero {env : EncodeEnv} {state : EncoderState}
    {payload : List UInt8} {message : HelperFrameMessage}
    (h : (encoderFrame env state payload message).result < 0) :
    (encoderFrame env state payload message).packetSize = 0 := by
  unfold encoderFrame at h ⊢
  split_ifs at h ⊢
  iterate 6
    · rfl
  · show UInt32.ofNat (receivePackets _ _ _).output.length = 0
    rw [receivePackets_output_eq_nil h]
    rfl

/-- `decoder_packet` hands back a frame only when it succeeds. -/
theorem decoderPacket_frameSize_eq_zero {env : DecodeEnv} {state : DecoderState}
    {data : List UInt8} (h : (decoderPacket env state data).result < 0) :
    (decoderPacket env state data).frameSize = 0 := by
  have hzero : ¬(0 : Int32) < 0 := by decide
  have hpack : ∀ calls, (packHostFrame env calls).result < 0 →
      (packHostFrame env calls).frameSize = 0 := by
    intro calls hresult
    unfold packHostFrame at hresult ⊢
    simp only at hresult ⊢
    split_ifs at hresult ⊢
    iterate 3
      · rfl
    · cases hformat : env.host.format with
      | vulkan => rfl
      | nv12 =>
        rw [hformat] at hresult
        exact absurd hresult hzero
      | yuv420p =>
        rw [hformat] at hresult
        exact absurd hresult hzero
      | other => rfl
  unfold decoderPacket at h ⊢
  split_ifs at h ⊢
  iterate 7
    · rfl
  · exact hpack _ h

/-- The packet loop over packets that are all there: unless a `realloc` fails, it
collects each of them. -/
theorem receivePackets_output_eq {codec : Option AVCodecContext}
    {calls : List ReceivePacket} {output : Option (List UInt8)}
    (hthere : ∀ call ∈ calls, call.result = 0)
    (h : ¬(receivePackets codec calls output).result < 0) :
    (receivePackets codec calls output).output =
      output.getD [] ++ calls.flatMap fun call => call.packet.data := by
  induction calls generalizing output with
  | nil => exact (List.append_nil _).symm
  | cons call calls ih =>
    have hresult : call.result = 0 := hthere call List.mem_cons_self
    have hsome : ¬(call.result = averrorEagain ∨ call.result = averrorEof) := by
      rw [hresult]
      decide
    have hpos : ¬call.result < 0 := by
      rw [hresult]
      decide
    unfold receivePackets at h ⊢
    rw [if_neg hsome, if_neg hpos] at h ⊢
    split_ifs at h ⊢ with hfreed hrealloc
    · exact absurd (show averrorEnomem < 0 by decide) h
    · exact absurd (show averrorEnomem < 0 by decide) h
    · show (receivePackets codec calls (some (output.getD [] ++ call.packet.data))).output = _
      rw [ih (fun later hlater => hthere later (List.mem_cons_of_mem _ hlater)) h,
        List.flatMap_cons, Option.getD_some, List.append_assoc]

/-- When `encoder_frame` succeeds it hands back what the packet loop has
collected. -/
theorem encoderFrame_packetData_eq {env : EncodeEnv} {state : EncoderState}
    {payload : List UInt8} {message : HelperFrameMessage}
    (h : ¬(encoderFrame env state payload message).result < 0) :
    ¬(receivePackets state.codec env.receive none).result < 0 ∧
      (encoderFrame env state payload message).packetData =
        (receivePackets state.codec env.receive none).output ∧
      (encoderFrame env state payload message).packetSize =
        UInt32.ofNat (receivePackets state.codec env.receive none).output.length := by
  unfold encoderFrame at h ⊢
  split_ifs at h ⊢ with hguard halloc hbuffer hpool htransfer hsend
  · exact absurd (show averrorEinval < 0 by decide) h
  · exact absurd (show averrorEnomem < 0 by decide) h
  · exact absurd hbuffer h
  · exact absurd hpool h
  · exact absurd htransfer h
  · exact absurd hsend h
  · exact ⟨h, rfl, rfl⟩

end UuAmfBridge
