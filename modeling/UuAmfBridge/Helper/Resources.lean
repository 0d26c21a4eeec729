import Mathlib.Tactic.Abel
import UuAmfBridge.Helper.CodecSafety
import UuAmfBridge.Lib.Ownership

/-!
# What the helper acquires

The descriptors, the blocks of `malloc` and the objects of FFmpeg that `src/amf_helper.c`
takes, from `main` over `client_thread` down to `encoder_init`, `encoder_frame`,
`decoder_init` and `decoder_packet`.  Each function is a program over the resources it
acquires, uses and gives back, with the control flow and the values of its model in
`Helper.Codec` and `Helper.Session`.

An `AVBufferRef` is one reference, and `avcodec_free_context` also gives back the reference
in the context.  What FFmpeg keeps inside its objects, such as the buffers of a frame, goes
with the object.  `realloc` with size zero frees the block and returns the null pointer, as
that of glibc does.  The use of a null context ends the process.  Whether a slot is free
when a connection is accepted is left open here; `Helper.ClientSlots` counts the slots.

* `encoderInit_spec`, `encoderFrame_spec`, `decoderInit_spec`, `decoderPacket_spec` and
  `handleClient_spec`: each program computes what its model computes, touches only what it
  owns, and leaves what it is to leave.
* `helper_resources_kept`: in a process with any number of clients nothing is used or given
  back that its thread does not own, in whatever order the threads take their steps, and
  when the threads have ended nothing is left.
-/

namespace UuAmfBridge

open Thread

/-- The kinds of what the helper acquires. -/
inductive HelperKind where
  | descriptor
  | block
  | bufferRef
  | codecContext
  | frame
  | packet
  deriving Repr, DecidableEq

/-- What a connection brings, from its handshake to its end. -/
structure HelperClient where
  start : HandshakeEnv := {}
  /-- The `av_buffer_ref` for the context succeeds. -/
  bufferRef : Bool := true
  messages : List MessageEnv := []
  stream : List UInt8 := []

/-- The argument of `client_thread`: the descriptor, and which of the connections it is. -/
structure ClientArgument where
  client : Nat
  connection : Nat

/-- The programs of the helper.  It has no monitor. -/
abbrev HelperProgram := Program HelperKind Unit ClientArgument

/-! ## Contexts -/

/-- An `AVCodecContext`, with the reference in its `hw_frames_ctx` or `hw_device_ctx`. -/
structure CodecHandle where
  context : Nat
  hardware : Option Nat

/-- The pointers of an `EncoderState`. -/
structure EncoderHandles where
  codec : Option CodecHandle := none
  device : Option Nat := none
  frames : Option Nat := none

/-- The pointers of a `DecoderState`. -/
structure DecoderHandles where
  codec : Option CodecHandle := none
  device : Option Nat := none

/-- `avcodec_free_context`. -/
def freeContext : Option CodecHandle → HelperProgram Unit
  | none => pure ()
  | some codec => do
      giveBack .bufferRef codec.hardware
      release (.codecContext, codec.context)

/-! ## The encoder -/

/-- `encoder_close`. -/
def encoderCloseProgram (held : EncoderHandles) : HelperProgram Unit := do
  freeContext held.codec
  giveBack .bufferRef held.frames
  giveBack .bufferRef held.device

/-- The label `fail` of `encoder_init`. -/
def encoderInitFail (result : Int32) (held : EncoderHandles) :
    HelperProgram ((Int32 × EncoderState) × EncoderHandles) := do
  encoderCloseProgram held
  pure ((result, {}), {})

/-- `encoder_init` behind `av_hwframe_ctx_init`. -/
def encoderOpenContext (env : EncoderInitEnv) (bufferRef : Bool) (message : HelperInitMessage)
    (device frames : Nat) : HelperProgram ((Int32 × EncoderState) × EncoderHandles) :=
  if !env.allocContext then
    encoderInitFail averrorEnomem { device := some device, frames := some frames }
  else do
    let context ← take .codecContext
    touch (.bufferRef, frames)
    let hardware ← allocate .bufferRef bufferRef
    touch (.codecContext, context)
    if env.open2 < 0 then
      encoderInitFail env.open2
        { codec := some ⟨context, hardware⟩, device := some device, frames := some frames }
    else
      pure ((0, { codec := some (encoderContext message)
                  width := message.width
                  height := message.height
                  nextPts := 0 }),
        { codec := some ⟨context, hardware⟩, device := some device, frames := some frames })

/-- `encoder_init`. -/
def encoderInitProgram (env : EncoderInitEnv) (bufferRef : Bool) (message : HelperInitMessage)
    (held : EncoderHandles) : HelperProgram ((Int32 × EncoderState) × EncoderHandles) := do
  encoderCloseProgram held
  if !env.findEncoder then pure ((averrorEncoderNotFound, {}), {})
  else if env.hwdeviceCreate < 0 then encoderInitFail env.hwdeviceCreate {}
  else do
    let device ← take .bufferRef
    touch (.bufferRef, device)
    if !env.hwframeAlloc then encoderInitFail averrorEnomem { device := some device }
    else do
      let frames ← take .bufferRef
      touch (.bufferRef, frames)
      if env.hwframeInit < 0 then do
        release (.bufferRef, frames)
        encoderInitFail env.hwframeInit { device := some device }
      else encoderOpenContext env bufferRef message device frames

/-- `realloc`. -/
def reallocOutput (old : Option Nat) (size : Nat) (succeeds : Bool) :
    HelperProgram (Option Nat) :=
  match old with
  | none => allocate .block succeeds
  | some block =>
      if size = 0 then do
        release (.block, block)
        pure none
      else if !succeeds then pure none
      else do
        release (.block, block)
        let larger ← take .block
        pure (some larger)

/-- The loop of `encoder_frame` over the packets, with `output`. -/
def receivePacketsProgram (codec : Option AVCodecContext) (context packet : Nat) :
    List ReceivePacket → List UInt8 → Option Nat → HelperProgram (ReceivePackets × Option Nat)
  | [], output, block => do
      touch (.codecContext, context)
      touch (.packet, packet)
      pure ({ result := 0, output, calls := [.receivePacket codec] }, block)
  | call :: calls, output, block => do
      touch (.codecContext, context)
      touch (.packet, packet)
      if call.result = averrorEagain ∨ call.result = averrorEof then
        pure ({ result := 0, output, calls := [.receivePacket codec] }, block)
      else if call.result < 0 then do
        giveBack .block block
        pure ({ result := call.result, output := [], calls := [.receivePacket codec] }, none)
      else do
        match ← reallocOutput block (output.length + call.packet.data.length) call.realloc with
        | none => do
            giveBack .block block
            pure ({ result := averrorEnomem, output := [], calls := [.receivePacket codec] }, none)
        | some larger => do
            touch (.block, larger)
            touch (.packet, packet)
            let next ← receivePacketsProgram codec context packet calls
              (output ++ call.packet.data) (some larger)
            pure ({ next.1 with calls := .receivePacket codec :: next.1.calls }, next.2)

/-- `encoder_frame` behind its allocations, up to `done`. -/
def encodePacket (env : EncodeEnv) (state : EncoderState) (frames : Option Nat)
    (context block host gpu packet : Nat) (payload : List UInt8) :
    HelperProgram (EncoderFrame × Option Nat) := do
  touch (.frame, host)
  if env.getBuffer < 0 then pure ({ result := env.getBuffer, state }, none)
  else do
    touch (.block, block)
    touch (.frame, host)
    dereference .bufferRef frames
    touch (.frame, gpu)
    if env.hwframeGetBuffer < 0 then pure ({ result := env.hwframeGetBuffer, state }, none)
    else do
      touch (.frame, gpu)
      touch (.frame, host)
      if env.hwframeTransfer < 0 then pure ({ result := env.hwframeTransfer, state }, none)
      else do
        let sent := AvCall.sendFrame state.codec (fillHostFrame env state payload) state.nextPts
        let state := { state with nextPts := state.nextPts + 1 }
        touch (.codecContext, context)
        touch (.frame, gpu)
        if env.sendFrame < 0 then pure ({ result := env.sendFrame, state, calls := [sent] }, none)
        else do
          let received ← receivePacketsProgram state.codec context packet env.receive [] none
          pure ({ result := received.1.result
                  packetData := received.1.output
                  packetSize := UInt32.ofNat received.1.output.length
                  state
                  calls := sent :: received.1.calls
                  aborts := received.1.aborts }, received.2)

/-- `encoder_frame` behind its allocations, which may have failed. -/
def encodeAllocated (env : EncodeEnv) (state : EncoderState) (frames : Option Nat)
    (context block : Nat) (payload : List UInt8) :
    Option Nat → Option Nat → Option Nat → HelperProgram (EncoderFrame × Option Nat)
  | some host, some gpu, some packet =>
      encodePacket env state frames context block host gpu packet payload
  | _, _, _ => pure ({ result := averrorEnomem, state }, none)

/-- `encoder_frame`; `block` is the payload.  The second part of the result is
`*packet_data`. -/
def encoderFrameProgram (env : EncodeEnv) (state : EncoderState) (held : EncoderHandles)
    (block : Nat) (payload : List UInt8) (message : HelperFrameMessage) :
    HelperProgram (EncoderFrame × Option Nat) :=
  match held.codec with
  | none => pure ({ result := averrorEinval, state }, none)
  | some codec =>
      if message.payloadSize ≠ state.width * state.height * 3 / 2 then
        pure ({ result := averrorEinval, state }, none)
      else do
        let host ← allocate .frame env.hostAlloc
        let gpu ← allocate .frame env.gpuAlloc
        let packet ← allocate .packet env.packetAlloc
        let answer ← encodeAllocated env state held.frames codec.context block payload host gpu packet
        giveBack .packet packet
        giveBack .frame gpu
        giveBack .frame host
        pure answer

/-! ## The decoder -/

/-- `decoder_close`. -/
def decoderCloseProgram (held : DecoderHandles) : HelperProgram Unit := do
  freeContext held.codec
  giveBack .bufferRef held.device

/-- The label `fail` of `decoder_init`. -/
def decoderInitFail (result : Int32) (held : DecoderHandles) :
    HelperProgram ((Int32 × DecoderState) × DecoderHandles) := do
  decoderCloseProgram held
  pure ((result, {}), {})

/-- `decoder_init`. -/
def decoderInitProgram (env : DecoderInitEnv) (bufferRef : Bool) (held : DecoderHandles) :
    HelperProgram ((Int32 × DecoderState) × DecoderHandles) := do
  decoderCloseProgram held
  if !env.findDecoder then pure ((averrorDecoderNotFound, {}), {})
  else if env.hwdeviceCreate < 0 then decoderInitFail env.hwdeviceCreate {}
  else do
    let device ← take .bufferRef
    if !env.allocContext then decoderInitFail averrorEnomem { device := some device }
    else do
      let context ← take .codecContext
      touch (.bufferRef, device)
      let hardware ← allocate .bufferRef bufferRef
      touch (.codecContext, context)
      if env.open2 < 0 then
        decoderInitFail env.open2 { codec := some ⟨context, hardware⟩, device := some device }
      else
        pure ((0, { codec := some decoderContext }),
          { codec := some ⟨context, hardware⟩, device := some device })

/-- `decoder_packet` behind `av_hwframe_transfer_data`, up to `done`. -/
def packHostProgram (env : DecodeEnv) (calls : List AvCall) (host : Nat) :
    HelperProgram (DecoderPacket × Option Nat) := do
  touch (.frame, host)
  if env.host.width ≤ 0 ∨ env.host.height ≤ 0 ∨ env.host.width % 2 ≠ 0 ∨
      env.host.height % 2 ≠ 0 then
    pure ({ result := averrorEinval, calls }, none)
  else if env.host.width.toNat * env.host.height.toNat * 3 / 2 > 4294967295 then
    pure ({ result := averrorEoverflow, calls }, none)
  else if !env.outputMalloc then pure ({ result := averrorEnomem, calls }, none)
  else do
    let output ← take .block
    touch (.block, output)
    touch (.frame, host)
    match env.host.format with
    | .nv12 => pure (packHostFrame env calls, some output)
    | .yuv420p => pure (packHostFrame env calls, some output)
    | _ => do
        release (.block, output)
        pure ({ result := averrorEnosys, calls }, none)

/-- `decoder_packet` behind its allocations, up to `done`. -/
def decodeFrame (env : DecodeEnv) (state : DecoderState) (held : DecoderHandles)
    (block packet gpu host : Nat) (data : List UInt8) :
    HelperProgram (DecoderPacket × Option Nat) := do
  touch (.packet, packet)
  if env.newPacket < 0 then pure ({ result := env.newPacket }, none)
  else do
    touch (.packet, packet)
    touch (.block, block)
    match held.codec with
    | none => .crash
    | some codec => do
        touch (.codecContext, codec.context)
        touch (.packet, packet)
        let sent := AvCall.sendPacket state.codec data
        if env.sendPacket < 0 then pure ({ result := env.sendPacket, calls := [sent] }, none)
        else do
          touch (.codecContext, codec.context)
          touch (.frame, gpu)
          let calls := [sent, .receiveFrame state.codec]
          if env.receiveFrame = averrorEagain ∨ env.receiveFrame = averrorEof then
            pure ({ result := 0, calls }, none)
          else if env.receiveFrame < 0 then pure ({ result := env.receiveFrame, calls }, none)
          else if env.gpuFormat ≠ .vulkan then pure ({ result := averrorEnosys, calls }, none)
          else do
            touch (.frame, host)
            touch (.frame, gpu)
            if env.hwframeTransfer < 0 then pure ({ result := env.hwframeTransfer, calls }, none)
            else packHostProgram env calls host

/-- `decoder_packet` behind its allocations, which may have failed. -/
def decodeAllocated (env : DecodeEnv) (state : DecoderState) (held : DecoderHandles)
    (block : Nat) (data : List UInt8) :
    Option Nat → Option Nat → Option Nat → HelperProgram (DecoderPacket × Option Nat)
  | some packet, some gpu, some host => decodeFrame env state held block packet gpu host data
  | _, _, _ => pure ({ result := averrorEnomem }, none)

/-- `decoder_packet`; `block` is the payload.  The second part of the result is
`*frame_data`. -/
def decoderPacketProgram (env : DecodeEnv) (state : DecoderState) (held : DecoderHandles)
    (block : Nat) (data : List UInt8) : HelperProgram (DecoderPacket × Option Nat) := do
  let packet ← allocate .packet env.packetAlloc
  let gpu ← allocate .frame env.gpuAlloc
  let host ← allocate .frame env.hostAlloc
  let answer ← decodeAllocated env state held block data packet gpu host
  giveBack .frame host
  giveBack .frame gpu
  giveBack .packet packet
  pure answer

/-! ## A client -/

/-- The pointers of `handle_client` that live as long as the session. -/
structure SessionHandles where
  encoder : EncoderHandles := {}
  decoder : DecoderHandles := {}

/-- The dispatch of the message loop. -/
def answerProgram (env : MessageEnv) (session : HelperSession) (held : SessionHandles)
    (block : Nat) (message : HelperFrameMessage) (payload : List UInt8) :
    HelperProgram (Answer × Option Nat) :=
  if message.type = helperFrame then do
    let frame ← encoderFrameProgram env.encode session.encoder held.encoder block payload message
    pure ({ session := { session with encoder := frame.1.state }
            result := frame.1.result
            packetData := frame.1.packetData
            packetSize := frame.1.packetSize
            calls := frame.1.calls
            aborts := frame.1.aborts }, frame.2)
  else do
    let frame ← decoderPacketProgram env.decode session.decoder held.decoder block payload
    pure ({ session
            result := frame.1.result
            packetData := frame.1.frameData
            packetSize := frame.1.frameSize
            width := frame.1.width
            height := frame.1.height
            calls := frame.1.calls }, frame.2)

/-- The sending half of the message loop, with `free(packet_data)`. -/
def replyProgram (env : MessageEnv) (client : Nat) (answer : Answer) (packetData : Option Nat)
    (rest : List UInt8) : HelperProgram Turn := do
  let calls := answer.calls.map HelperEvent.av
  touch (.descriptor, client)
  let head := sendAll env.replySend answer.reply.encode
  if !head.complete then do
    giveBack .block packetData
    pure ⟨calls ++ [.sent head.sent], none⟩
  else if answer.packetSize ≠ 0 then do
    touch (.descriptor, client)
    dereference .block packetData
    let body := sendAll env.payloadSend answer.payload
    giveBack .block packetData
    pure ⟨calls ++ [.sent head.sent, .sent body.sent],
      if body.complete then some (answer.session, rest) else none⟩
  else do
    giveBack .block packetData
    pure ⟨calls ++ [.sent head.sent], some (answer.session, rest)⟩

/-- The receiving half of the message loop, with the block of the payload. -/
def receiveProgram (env : MessageEnv) (client : Nat) (stream : List UInt8) :
    HelperProgram (Option ((HelperFrameMessage × List UInt8 × List UInt8) × Nat)) := do
  touch (.descriptor, client)
  let header := recvAll env.headerRecv HelperFrameMessage.size stream
  let message := HelperFrameMessage.decode header.data
  if header.status ≠ .complete then pure none
  else if !headerAccepted message then pure none
  else if !env.frameMalloc then pure none
  else do
    let block ← take .block
    touch (.descriptor, client)
    touch (.block, block)
    let payload := recvAll env.payloadRecv message.payloadSize.toNat header.rest
    if payload.status ≠ .complete then do
      release (.block, block)
      pure none
    else pure (some ((message, payload.data, payload.rest), block))

/-- The answering half of the message loop. -/
def answeredProgram (env : MessageEnv) (client : Nat) (session : HelperSession)
    (held : SessionHandles) :
    Option ((HelperFrameMessage × List UInt8 × List UInt8) × Nat) → HelperProgram Turn
  | none => pure ⟨[], none⟩
  | some ((message, payload, rest), block) => do
      let answer ← answerProgram env session held block message payload
      release (.block, block)
      replyProgram env client answer.1 answer.2 rest

/-- One turn of the message loop of `handle_client`. -/
def serveMessageProgram (env : MessageEnv) (client : Nat) (session : HelperSession)
    (held : SessionHandles) (stream : List UInt8) : HelperProgram Turn := do
  let received ← receiveProgram env client stream
  answeredProgram env client session held received

/-- The message loop of `handle_client`. -/
def serveMessagesProgram (client : Nat) (held : SessionHandles) :
    List MessageEnv → HelperSession → List UInt8 → HelperProgram (List HelperEvent)
  | [], _, _ => pure []
  | env :: envs, session, stream => do
      let turn ← serveMessageProgram env client session held stream
      match turn.next with
      | none => pure turn.events
      | some (session, rest) => do
          let later ← serveMessagesProgram client held envs session rest
          pure (turn.events ++ later)

/-- The codec that `handle_client` opens. -/
def openProgram (env : HandshakeEnv) (bufferRef : Bool) (message : HelperInitMessage) :
    HelperProgram ((Bool × HelperSession) × SessionHandles) :=
  if message.type = helperInit then do
    let opened ← encoderInitProgram env.encoder bufferRef message {}
    pure ((opened.1.1 == 0, { encoder := opened.1.2 }), { encoder := opened.2 })
  else do
    let opened ← decoderInitProgram env.decoder bufferRef {}
    pure ((opened.1.1 == 0, { decoder := opened.1.2 }), { decoder := opened.2 })

/-- `handle_client` behind the reply to the first message, up to `done`. -/
def sessionProgram (client : Nat) (messages : List MessageEnv) (opened : Bool × HelperSession)
    (held : SessionHandles) (head : SendOutcome UInt8) (stream : List UInt8) :
    HelperProgram (List HelperEvent) :=
  if !head.complete || !opened.1 then pure [.sent head.sent]
  else do
    let later ← serveMessagesProgram client held messages opened.2 stream
    pure (.sent head.sent :: later)

/-- `handle_client`, with the events of its session. -/
def handleClientProgram (version : UInt32) (script : HelperClient) (client : Nat) :
    HelperProgram (List HelperEvent) := do
  touch (.descriptor, client)
  let init := recvAll script.start.initRecv HelperInitMessage.size script.stream
  let message := HelperInitMessage.decode init.data
  if init.status ≠ .complete then pure []
  else if !initAccepted version message then pure []
  else do
    let opened ← openProgram script.start script.bufferRef message
    let reply : HelperInitReply :=
      { enabled := if opened.1.1 then 1 else 0, protocolVersion := version }
    touch (.descriptor, client)
    let events ← sessionProgram client script.messages opened.1 opened.2
      (sendAll script.start.replySend reply.encode) init.rest
    encoderCloseProgram opened.2.encoder
    decoderCloseProgram opened.2.decoder
    pure events

/-- `client_thread`, but for the counter of the slots. -/
def clientThreadProgram (version : UInt32) (script : HelperClient) (client : Nat) :
    HelperProgram Unit := do
  let _ ← handleClientProgram version script client
  release (.descriptor, client)

/-! ## The process -/

/-- What `accept` and what follows it bring. -/
inductive AcceptResult where
  /-- `EINTR`. -/
  | interrupted
  | failed
  /-- A connection: whether there is a slot for it, whether its thread can be created, and
  what it brings. -/
  | connection (slot created : Bool) (script : HelperClient)

/-- What the accept loop does with a connection. -/
def acceptedProgram (slot created : Bool) (argument : ClientArgument) : HelperProgram Unit :=
  if !slot then release (.descriptor, argument.client)
  else if !created then release (.descriptor, argument.client)
  else fork argument

/-- The accept loop of `main`; `next` counts the connections. -/
def acceptProgram (server : Nat) : Nat → List AcceptResult → HelperProgram Unit
  | _, [] => release (.descriptor, server)
  | next, .interrupted :: results => do
      touch (.descriptor, server)
      acceptProgram server next results
  | _, .failed :: _ => do
      touch (.descriptor, server)
      release (.descriptor, server)
  | next, .connection slot created _ :: results => do
      touch (.descriptor, server)
      let client ← take .descriptor
      touch (.descriptor, client)
      acceptedProgram slot created ⟨client, next⟩
      acceptProgram server (next + 1) results

/-- What `main` meets. -/
structure HelperStart where
  socket : Bool := true
  listens : Bool := true
  results : List AcceptResult := []

/-- `main` behind the check of its argument. -/
def helperMain (start : HelperStart) : HelperProgram Unit :=
  if !start.socket then pure ()
  else do
    let server ← take .descriptor
    touch (.descriptor, server)
    if !start.listens then release (.descriptor, server)
    else acceptProgram server 0 start.results

/-- What the connections bring, in order. -/
def scripts (results : List AcceptResult) : List HelperClient :=
  results.filterMap fun
    | .connection _ _ script => some script
    | _ => none

/-- The process of the helper: a thread serves the connection whose descriptor it is given. -/
def helperSystem (version : UInt32) (results : List AcceptResult) :
    ThreadSystem HelperKind Unit ClientArgument where
  body argument :=
    clientThreadProgram version ((scripts results).getD argument.connection {}) argument.client
  given argument := {(.descriptor, argument.client)}
  guards _ := 0

/-- The process before its first step. -/
def helperPool (start : HelperStart) : ThreadPool HelperKind Unit ClientArgument where
  threads := [helperMain start]
  owner _ := none
  monitor := .free ()

/-! ## What each function leaves -/

/-- The resources behind a codec pointer. -/
def codecResources : Option CodecHandle → Multiset (Resource HelperKind)
  | none => 0
  | some codec => target .bufferRef codec.hardware + {(.codecContext, codec.context)}

/-- The resources behind the pointers of an `EncoderState`. -/
def EncoderHandles.resources (held : EncoderHandles) : Multiset (Resource HelperKind) :=
  codecResources held.codec + (target .bufferRef held.frames + target .bufferRef held.device)

/-- The resources behind the pointers of a `DecoderState`. -/
def DecoderHandles.resources (held : DecoderHandles) : Multiset (Resource HelperKind) :=
  codecResources held.codec + target .bufferRef held.device

section Specs

open ThreadSystem

variable {system : ThreadSystem HelperKind Unit ClientArgument} {crashes : Prop} {inside : Bool}

theorem freeContext_spec (codec : Option CodecHandle) :
    system.Spec crashes inside (codecResources codec) (freeContext codec) (fun _ => True)
      fun _ => 0 := by
  cases codec with
  | none => exact Spec.ret trivial rfl
  | some codec => exact Spec.giveBack_then rfl (Spec.release _)

theorem encoderClose_spec (held : EncoderHandles) :
    system.Spec crashes inside held.resources (encoderCloseProgram held) (fun _ => True)
      fun _ => 0 := by
  refine Spec.bind (freeContext_spec held.codec) rfl fun _ _ => ?_
  rw [zero_add]
  exact Spec.giveBack_then rfl (Spec.giveBack _ held.device)

theorem decoderClose_spec (held : DecoderHandles) :
    system.Spec crashes inside held.resources (decoderCloseProgram held) (fun _ => True)
      fun _ => 0 := by
  refine Spec.bind (freeContext_spec held.codec) rfl fun _ _ => ?_
  rw [zero_add]
  exact Spec.giveBack _ held.device

/-- The pointers of an `EncoderState` belong to it: it has a codec if and only if the pointer
is not null, and there are frames for it then. -/
structure EncoderHandles.Of (held : EncoderHandles) (state : EncoderState) : Prop where
  codec : held.codec.isSome = state.codec.isSome
  frames : held.codec.isSome = true → held.frames.isSome = true

/-- `encoder_init` opens the encoder of its model and leaves what its state points to. -/
def EncoderOpened (env : EncoderInitEnv) (message : HelperInitMessage)
    (opened : (Int32 × EncoderState) × EncoderHandles) : Prop :=
  opened.1 = encoderInit env message ∧ opened.2.Of opened.1.2

theorem encoderInitFail_spec {env : EncoderInitEnv} {message : HelperInitMessage} {result : Int32}
    (held : EncoderHandles) (hmodel : encoderInit env message = (result, {})) :
    system.Spec crashes inside held.resources (encoderInitFail result held)
      (EncoderOpened env message) fun opened => opened.2.resources := by
  refine Spec.bind (encoderClose_spec held) (add_zero _).symm fun _ _ => ?_
  exact Spec.ret ⟨hmodel.symm, rfl, nofun⟩ rfl

theorem encoderOpenContext_spec {env : EncoderInitEnv} {bufferRef : Bool}
    {message : HelperInitMessage} {device frames : Nat} (hfind : env.findEncoder = true)
    (hdevice : ¬env.hwdeviceCreate < 0) (halloc : env.hwframeAlloc = true)
    (hinit : ¬env.hwframeInit < 0) :
    system.Spec crashes inside ({(.bufferRef, frames)} + {(.bufferRef, device)})
      (encoderOpenContext env bufferRef message device frames) (EncoderOpened env message)
        fun opened => opened.2.resources := by
  unfold encoderOpenContext
  split
  next hcontext =>
    have hmodel : encoderInit env message = (averrorEnomem, {}) := by
      simp [encoderInit, hfind, hdevice, halloc, hinit, hcontext]
    exact encoderInitFail_spec { device := some device, frames := some frames } hmodel
  next hcontext =>
    refine Spec.take_then fun context => Spec.touch_then (by simp) ?_
    refine Spec.allocate_then fun hardware _ => Spec.touch_then (by simp) ?_
    have hresources : target .bufferRef hardware + ({(.codecContext, context)} +
        ({(.bufferRef, frames)} + {(.bufferRef, device)})) =
          EncoderHandles.resources ⟨some ⟨context, hardware⟩, some device, some frames⟩ :=
      (add_assoc _ _ _).symm
    rw [hresources]
    split
    next hopen =>
      refine encoderInitFail_spec _ ?_
      simp [encoderInit, hfind, hdevice, halloc, hinit, hcontext, hopen]
    next hopen =>
      refine Spec.ret ⟨?_, rfl, fun _ => rfl⟩ rfl
      simp [encoderInit, hfind, hdevice, halloc, hinit, hcontext, hopen]

theorem encoderInit_spec (env : EncoderInitEnv) (bufferRef : Bool) (message : HelperInitMessage)
    (held : EncoderHandles) :
    system.Spec crashes inside held.resources (encoderInitProgram env bufferRef message held)
      (EncoderOpened env message) fun opened => opened.2.resources := by
  refine Spec.bind (encoderClose_spec held) (add_zero _).symm fun _ _ => ?_
  rw [add_zero]
  split
  next hfind => exact Spec.ret ⟨by simp [encoderInit, hfind], rfl, nofun⟩ rfl
  next hfind =>
    have hfound : env.findEncoder = true := by simpa using hfind
    split
    next hdevice => exact encoderInitFail_spec {} (by simp [encoderInit, hfound, hdevice])
    next hdevice =>
      refine Spec.take_then fun device => Spec.touch_then (by simp) ?_
      rw [add_zero]
      split
      next halloc =>
        have hmodel : encoderInit env message = (averrorEnomem, {}) := by
          simp [encoderInit, hfound, hdevice, halloc]
        exact encoderInitFail_spec { device := some device } hmodel
      next halloc =>
        refine Spec.take_then fun frames => Spec.touch_then (by simp) ?_
        split
        next hinit =>
          have hmodel : encoderInit env message = (env.hwframeInit, {}) := by
            simp [encoderInit, hfound, hdevice, halloc, hinit]
          exact Spec.release_then rfl (encoderInitFail_spec { device := some device } hmodel)
        next hinit =>
          exact encoderOpenContext_spec hfound hdevice (by simpa using halloc) hinit

/-- What `realloc` leaves: the new block, or the old one where it fails. -/
def reallocLeaves (old : Option Nat) : Option Nat → Multiset (Resource HelperKind)
  | none => target .block old
  | some larger => {(.block, larger)}

theorem reallocOutput_spec (old : Option Nat) {size : Nat} (hsize : size ≠ 0) (succeeds : Bool) :
    system.Spec crashes inside (target .block old) (reallocOutput old size succeeds)
      (fun larger => larger.isSome = succeeds) (reallocLeaves old) := by
  cases old with
  | none =>
    refine (Spec.allocate HelperKind.block succeeds).consequence fun larger hlarger => ?_
    refine ⟨hlarger, ?_⟩
    cases larger with
    | none => rfl
    | some larger => rfl
  | some block =>
    unfold reallocOutput
    simp only [if_neg hsize]
    cases succeeds with
    | false => exact Spec.ret rfl rfl
    | true =>
      refine Spec.release_then (add_zero _).symm (Spec.take_then fun larger => ?_)
      exact Spec.ret rfl (add_zero _).symm

/-- The loop collects what its model collects, in a block where there is anything. -/
theorem receivePackets_spec {codec : Option AVCodecContext} {context packet : Nat}
    {calls : List ReceivePacket} (hdata : ∀ call ∈ calls, call.packet.data ≠ [])
    {output : List UInt8} {block : Option Nat} (hblock : block = none → output = []) :
    system.Spec crashes inside
      (target .block block + ({(.codecContext, context)} + {(.packet, packet)}))
      (receivePacketsProgram codec context packet calls output block)
      (fun received => received.1 = receivePackets codec calls (block.map fun _ => output) ∧
        (received.2 = none → received.1.output = []))
      fun received =>
        target .block received.2 + ({(.codecContext, context)} + {(.packet, packet)}) := by
  have hheld : ∀ (output : List UInt8) (block : Option Nat), (block = none → output = []) →
      (block.map fun _ => output).getD [] = output := by
    intro output block hnull
    cases block with
    | none => exact (hnull rfl).symm
    | some _ => rfl
  induction calls generalizing output block with
  | nil =>
    refine Spec.touch_then (by simp) (Spec.touch_then (by simp) ?_)
    exact Spec.ret ⟨by rw [receivePackets, hheld output block hblock], hblock⟩ rfl
  | cons call calls ih =>
    refine Spec.touch_then (by simp) (Spec.touch_then (by simp) ?_)
    have hnonempty : call.packet.data ≠ [] := hdata call List.mem_cons_self
    unfold receivePackets
    rw [if_neg (show ¬((block.map fun _ => output) = some [] ∧ call.packet.data = []) from
      fun hfreed => hnonempty hfreed.2), hheld output block hblock]
    split
    next hempty => exact Spec.ret ⟨rfl, hblock⟩ rfl
    next hempty =>
      split
      next hfailed =>
        exact Spec.giveBack_then rfl (Spec.ret ⟨rfl, fun _ => rfl⟩ (zero_add _))
      next hfailed =>
        have hsize : output.length + call.packet.data.length ≠ 0 := by
          have hpos := List.length_pos_iff.mpr hnonempty
          omega
        refine Spec.bind (reallocOutput_spec block hsize call.realloc) rfl
          fun larger hlarger => ?_
        cases larger with
        | none =>
          have hrefused : (!call.realloc) = true := by rw [← hlarger]; rfl
          rw [if_pos hrefused]
          exact Spec.giveBack_then rfl (Spec.ret ⟨rfl, fun _ => rfl⟩ (zero_add _))
        | some larger =>
          have hgranted : ¬(!call.realloc) = true := by rw [← hlarger]; simp
          rw [if_neg hgranted]
          refine Spec.touch_then (by simp [reallocLeaves]) (Spec.touch_then (by simp) ?_)
          have hblock' : some larger = none → output ++ call.packet.data = [] :=
            fun hnull => absurd hnull (Option.some_ne_none _)
          have hdata' : ∀ call ∈ calls, call.packet.data ≠ [] :=
            fun call hcall => hdata call (List.mem_cons_of_mem _ hcall)
          refine Spec.bind (ih hdata' hblock') (add_zero _).symm fun next hnext => ?_
          obtain ⟨hmodel, hnone⟩ := hnext
          rw [add_zero]
          exact Spec.ret ⟨by rw [hmodel]; rfl, hnone⟩ rfl

/-- `encoder_frame` answers as its model does, with a block where there is a packet. -/
def EncoderAnswered (env : EncodeEnv) (state : EncoderState) (payload : List UInt8)
    (message : HelperFrameMessage) (answer : EncoderFrame × Option Nat) : Prop :=
  answer.1 = encoderFrame env state payload message ∧
    (answer.2 = none → answer.1.packetSize = 0)

theorem encodePacket_spec {env : EncodeEnv} {state : EncoderState} {message : HelperFrameMessage}
    {payload : List UInt8} {frames : Option Nat} {context block host gpu packet : Nat}
    (hdata : env.HasData) (hcodec : state.codec ≠ none) (hframes : frames.isSome = true)
    (hsize : message.payloadSize = state.width * state.height * 3 / 2)
    (hhost : env.hostAlloc = true) (hgpu : env.gpuAlloc = true) (hpacket : env.packetAlloc = true)
    {owned rest : Multiset (Resource HelperKind)}
    (howned : owned = {(.codecContext, context)} + {(.packet, packet)} +
      ({(.block, block)} + {(.frame, host)} + {(.frame, gpu)} +
        (target .bufferRef frames + rest))) :
    system.Spec crashes inside owned
      (encodePacket env state frames context block host gpu packet payload)
      (EncoderAnswered env state payload message) fun answer => target .block answer.2 + owned := by
  have hmem : ∀ {r}, r ∈ ({(.block, block)} + {(.frame, host)} + {(.frame, gpu)} :
      Multiset (Resource HelperKind)) → r ∈ owned := by
    intro r hr
    rw [howned]
    exact Multiset.mem_add.mpr (Or.inr (Multiset.mem_add.mpr (Or.inl hr)))
  have hpointer : target .bufferRef frames ≤ owned := by
    rw [howned, ← add_assoc, add_left_comm]
    exact Multiset.le_add_right _ _
  have hcontext : (.codecContext, context) ∈ owned := by simp [howned]
  have hfailed : ∀ answer : EncoderFrame, encoderFrame env state payload message = answer →
      answer.packetSize = 0 → system.Spec crashes inside owned (pure (answer, none))
        (EncoderAnswered env state payload message)
          fun answer => target .block answer.2 + owned := by
    intro answer hmodel hzero
    exact Spec.ret ⟨hmodel.symm, fun _ => hzero⟩ (zero_add _)
  have hmodel := encoderFrame.eq_1 env state payload message
  rw [if_neg (by simp [hcodec, hsize]), if_neg (by simp [hhost, hgpu, hpacket])] at hmodel
  unfold encodePacket
  refine Spec.touch_then (hmem (by simp)) ?_
  split
  next hbuffer => exact hfailed _ (by simp [hmodel, hbuffer]) rfl
  next hbuffer =>
    refine Spec.touch_then (hmem (by simp)) (Spec.touch_then (hmem (by simp)) ?_)
    refine Spec.dereference_then hframes hpointer (Spec.touch_then (hmem (by simp)) ?_)
    split
    next hpool => exact hfailed _ (by simp [hmodel, hbuffer, hpool]) rfl
    next hpool =>
      refine Spec.touch_then (hmem (by simp)) (Spec.touch_then (hmem (by simp)) ?_)
      split
      next htransfer =>
        exact hfailed _ (by simp [hmodel, hbuffer, hpool, htransfer]) rfl
      next htransfer =>
        refine Spec.touch_then hcontext (Spec.touch_then (hmem (by simp)) ?_)
        split
        next hsend =>
          refine hfailed _ ?_ rfl
          simp [hmodel, hbuffer, hpool, htransfer, hsend]
        next hsend =>
          have hstart : (none : Option Nat) = none → ([] : List UInt8) = [] := fun _ => rfl
          have hwhole : owned = target .block none +
              ({(.codecContext, context)} + {(.packet, packet)}) +
                ({(.block, block)} + {(.frame, host)} + {(.frame, gpu)} +
                  (target .bufferRef frames + rest)) := by
            rw [howned, target_none, zero_add]
          refine Spec.bind (receivePackets_spec hdata hstart) hwhole fun received hreceived => ?_
          refine Spec.ret ⟨?_, fun hblock => ?_⟩ ?_
          · simp [hmodel, hbuffer, hpool, htransfer, hsend, hreceived.1]
          · show UInt32.ofNat received.1.output.length = 0
            rw [hreceived.2 hblock]
            rfl
          · rw [howned]
            abel

theorem encoderFrame_spec {env : EncodeEnv} {state : EncoderState} {held : EncoderHandles}
    (hdata : env.HasData) (hheld : held.Of state) (block : Nat) (payload : List UInt8)
    (message : HelperFrameMessage) :
    system.Spec crashes inside ({(.block, block)} + held.resources)
      (encoderFrameProgram env state held block payload message)
      (EncoderAnswered env state payload message)
      fun answer => target .block answer.2 + ({(.block, block)} + held.resources) := by
  have hfailed : ∀ answer : EncoderFrame, encoderFrame env state payload message = answer →
      answer.packetSize = 0 → EncoderAnswered env state payload message (answer, none) :=
    fun answer hmodel hzero => ⟨hmodel.symm, fun _ => hzero⟩
  unfold encoderFrameProgram
  cases hcodec : held.codec with
  | none =>
    have hnone : state.codec = none := by
      have hsame := hheld.codec
      rw [hcodec] at hsame
      exact Option.isNone_iff_eq_none.mp (by simpa using hsame.symm)
    refine Spec.ret (hfailed _ ?_ rfl) (zero_add _)
    simp [encoderFrame, hnone]
  | some codec =>
    have hopen : state.codec ≠ none := by
      have hsame := hheld.codec
      rw [hcodec] at hsame
      exact Option.isSome_iff_ne_none.mp hsame.symm
    have hframes : held.frames.isSome = true := hheld.frames (by rw [hcodec]; rfl)
    simp only
    split
    next hsize =>
      refine Spec.ret (hfailed _ ?_ rfl) (zero_add _)
      simp [encoderFrame, hsize]
    next hsize =>
      have hsize' : message.payloadSize = state.width * state.height * 3 / 2 := not_not.mp hsize
      refine Spec.allocate_then fun host hhost => ?_
      refine Spec.allocate_then fun gpu hgpu => Spec.allocate_then fun packet hpacket => ?_
      have hanswer : system.Spec crashes inside (target .packet packet + (target .frame gpu +
          (target .frame host + ({(.block, block)} + held.resources))))
          (encodeAllocated env state held.frames codec.context block payload host gpu packet)
          (EncoderAnswered env state payload message)
          fun answer => target .block answer.2 + (target .packet packet + (target .frame gpu +
            (target .frame host + ({(.block, block)} + held.resources)))) := by
        rcases host with _ | host
        · refine Spec.ret (hfailed _ ?_ rfl) (zero_add _)
          simp [encoderFrame, hopen, hsize', ← hhost]
        rcases gpu with _ | gpu
        · refine Spec.ret (hfailed _ ?_ rfl) (zero_add _)
          simp [encoderFrame, hopen, hsize', ← hgpu]
        rcases packet with _ | packet
        · refine Spec.ret (hfailed _ ?_ rfl) (zero_add _)
          simp [encoderFrame, hopen, hsize', ← hpacket]
        have howned : target .packet (some packet) + (target .frame (some gpu) +
            (target .frame (some host) + ({(.block, block)} + held.resources))) =
              {(.codecContext, codec.context)} + {(.packet, packet)} +
                ({(.block, block)} + {(.frame, host)} + {(.frame, gpu)} +
                  (target .bufferRef held.frames +
                    (target .bufferRef codec.hardware + target .bufferRef held.device))) := by
          simp only [EncoderHandles.resources, hcodec, codecResources, target_some]
          abel
        exact encodePacket_spec hdata hopen hframes hsize' hhost.symm hgpu.symm hpacket.symm howned
      refine Spec.bind hanswer (add_zero _).symm fun answer hvalue => ?_
      rw [add_zero, add_left_comm]
      refine Spec.giveBack_then rfl ?_
      rw [add_left_comm]
      refine Spec.giveBack_then rfl ?_
      rw [add_left_comm]
      exact Spec.giveBack_then rfl (Spec.ret hvalue rfl)

/-- The pointers of a `DecoderState` belong to it. -/
def DecoderHandles.Of (held : DecoderHandles) (state : DecoderState) : Prop :=
  held.codec.isSome = state.codec.isSome

/-- `decoder_init` opens the decoder of its model and leaves what its state points to. -/
def DecoderOpened (env : DecoderInitEnv) (opened : (Int32 × DecoderState) × DecoderHandles) :
    Prop := opened.1 = decoderInit env ∧ opened.2.Of opened.1.2

theorem decoderInitFail_spec {env : DecoderInitEnv} {result : Int32} (held : DecoderHandles)
    (hmodel : decoderInit env = (result, {})) :
    system.Spec crashes inside held.resources (decoderInitFail result held) (DecoderOpened env)
      fun opened => opened.2.resources := by
  refine Spec.bind (decoderClose_spec held) (add_zero _).symm fun _ _ => ?_
  exact Spec.ret ⟨hmodel.symm, rfl⟩ rfl

theorem decoderInit_spec (env : DecoderInitEnv) (bufferRef : Bool) (held : DecoderHandles) :
    system.Spec crashes inside held.resources (decoderInitProgram env bufferRef held)
      (DecoderOpened env) fun opened => opened.2.resources := by
  refine Spec.bind (decoderClose_spec held) (add_zero _).symm fun _ _ => ?_
  rw [add_zero]
  split
  next hfind => exact Spec.ret ⟨by simp [decoderInit, hfind], rfl⟩ rfl
  next hfind =>
    have hfound : env.findDecoder = true := by simpa using hfind
    split
    next hdevice => exact decoderInitFail_spec {} (by simp [decoderInit, hfound, hdevice])
    next hdevice =>
      refine Spec.take_then fun device => ?_
      rw [add_zero]
      split
      next hcontext =>
        have hmodel : decoderInit env = (averrorEnomem, {}) := by
          simp [decoderInit, hfound, hdevice, hcontext]
        exact decoderInitFail_spec { device := some device } hmodel
      next hcontext =>
        refine Spec.take_then fun context => Spec.touch_then (by simp) ?_
        refine Spec.allocate_then fun hardware _ => Spec.touch_then (by simp) ?_
        have hresources : target .bufferRef hardware + ({(.codecContext, context)} +
            {(.bufferRef, device)}) =
              DecoderHandles.resources ⟨some ⟨context, hardware⟩, some device⟩ :=
          (add_assoc _ _ _).symm
        rw [hresources]
        split
        next hopen =>
          exact decoderInitFail_spec _ (by simp [decoderInit, hfound, hdevice, hcontext, hopen])
        next hopen =>
          exact Spec.ret ⟨by simp [decoderInit, hfound, hdevice, hcontext, hopen], rfl⟩ rfl

/-- No call is given a null context. -/
def Faultless (calls : List AvCall) : Prop := calls.any AvCall.faults = false

/-- `decoder_packet` answers as its model does, with a block where there is a frame. -/
def DecoderAnswered (model : DecoderPacket) (answer : DecoderPacket × Option Nat) : Prop :=
  answer.1 = model ∧ (answer.2 = none → answer.1.frameSize = 0) ∧ Faultless model.calls

theorem packHost_spec (env : DecodeEnv) {calls : List AvCall} (hcalls : Faultless calls)
    {host : Nat} {owned : Multiset (Resource HelperKind)} (hhost : (.frame, host) ∈ owned) :
    system.Spec crashes inside owned (packHostProgram env calls host)
      (DecoderAnswered (packHostFrame env calls)) fun answer => target .block answer.2 + owned := by
  have hfaultless : Faultless (packHostFrame env calls).calls := by
    rw [packHostFrame_calls]
    exact hcalls
  unfold packHostProgram
  refine Spec.touch_then hhost ?_
  split
  next hbad =>
    exact Spec.ret ⟨by simp only [packHostFrame, if_pos hbad], fun _ => rfl, hfaultless⟩ (zero_add _)
  next hbad =>
    split
    next hlarge =>
      refine Spec.ret ⟨?_, fun _ => rfl, hfaultless⟩ (zero_add _)
      simp only [packHostFrame, if_neg hbad, if_pos hlarge]
    next hlarge =>
      split
      next hmalloc =>
        refine Spec.ret ⟨?_, fun _ => rfl, hfaultless⟩ (zero_add _)
        simp only [packHostFrame, if_neg hbad, if_neg hlarge, if_pos hmalloc]
      next hmalloc =>
        refine Spec.take_then fun output => Spec.touch_then (by simp) ?_
        refine Spec.touch_then (Multiset.mem_add.mpr (Or.inr hhost)) ?_
        have hother : env.host.format ≠ .nv12 → env.host.format ≠ .yuv420p →
            packHostFrame env calls = { result := averrorEnosys, calls } := by
          intro hnv12 hyuv
          simp only [packHostFrame, if_neg hbad, if_neg hlarge, if_neg hmalloc]
        cases hformat : env.host.format with
        | nv12 => exact Spec.ret ⟨rfl, fun h => absurd h (Option.some_ne_none _), hfaultless⟩ rfl
        | yuv420p => exact Spec.ret ⟨rfl, fun h => absurd h (Option.some_ne_none _), hfaultless⟩ rfl
        | vulkan =>
          refine Spec.release_then rfl (Spec.ret ⟨?_, fun _ => rfl, hfaultless⟩ (zero_add _))
          exact (hother (by rw [hformat]; decide) (by rw [hformat]; decide)).symm
        | other =>
          refine Spec.release_then rfl (Spec.ret ⟨?_, fun _ => rfl, hfaultless⟩ (zero_add _))
          exact (hother (by rw [hformat]; decide) (by rw [hformat]; decide)).symm

theorem decodeFrame_spec {env : DecodeEnv} {state : DecoderState} {held : DecoderHandles}
    {data : List UInt8} {block packet gpu host : Nat} (hheld : held.Of state)
    (hpacket : env.packetAlloc = true) (hgpu : env.gpuAlloc = true) (hhost : env.hostAlloc = true)
    (hfault : (decoderPacket env state data).calls.any AvCall.faults = true → crashes)
    {owned rest : Multiset (Resource HelperKind)}
    (howned : owned = codecResources held.codec + ({(.block, block)} + {(.packet, packet)} +
      {(.frame, gpu)} + {(.frame, host)} + rest)) :
    system.Spec crashes inside owned (decodeFrame env state held block packet gpu host data)
      (DecoderAnswered (decoderPacket env state data))
        fun answer => target .block answer.2 + owned := by
  have hmem : ∀ {r}, r ∈ ({(.block, block)} + {(.packet, packet)} + {(.frame, gpu)} +
      {(.frame, host)} : Multiset (Resource HelperKind)) → r ∈ owned := by
    intro r hr
    rw [howned]
    exact Multiset.mem_add.mpr (Or.inr (Multiset.mem_add.mpr (Or.inl hr)))
  have hmodel := decoderPacket.eq_1 env state data
  rw [if_neg (by simp [hpacket, hgpu, hhost])] at hmodel
  have hfailed : ∀ answer : DecoderPacket, decoderPacket env state data = answer →
      answer.frameSize = 0 → Faultless (decoderPacket env state data).calls →
        system.Spec crashes inside owned (pure (answer, none))
          (DecoderAnswered (decoderPacket env state data))
            fun answer => target .block answer.2 + owned := by
    intro answer heq hzero hfaultless
    exact Spec.ret ⟨heq.symm, fun _ => hzero, hfaultless⟩ (zero_add _)
  unfold decodeFrame
  refine Spec.touch_then (hmem (by simp)) ?_
  split
  next hnew =>
    exact hfailed _ (by simp [hmodel, hnew]) rfl (by simp [hmodel, hnew, Faultless])
  next hnew =>
    refine Spec.touch_then (hmem (by simp)) (Spec.touch_then (hmem (by simp)) ?_)
    cases hcodec : held.codec with
    | none =>
      -- The packet goes to a null context.
      have hnone : state.codec = none := by
        have hsame : held.codec.isSome = state.codec.isSome := hheld
        rw [hcodec] at hsame
        exact Option.isNone_iff_eq_none.mp (by simpa using hsame.symm)
      obtain ⟨call, calls, hcalls⟩ := List.exists_cons_of_ne_nil
        ((decoderPacket_calls_ne_nil_iff env state data).mpr ⟨hpacket, hgpu, hhost, hnew⟩)
      have hcall : call.codec = none := by
        rw [← hnone]
        exact decoderPacket_codec (hcalls ▸ List.mem_cons_self)
      refine Spec.crash (hfault ?_)
      rw [hcalls, List.any_cons, AvCall.faults, hcall]
      rfl
    | some codec =>
      have hcontext : (.codecContext, codec.context) ∈ owned := by
        rw [howned, hcodec]
        simp [codecResources]
      have hfaultless : Faultless (decoderPacket env state data).calls := by
        have hsame : held.codec.isSome = state.codec.isSome := hheld
        rw [hcodec] at hsame
        refine List.any_eq_false.mpr fun call hcall => ?_
        rw [AvCall.faults, decoderPacket_codec hcall]
        simpa [Option.isSome_iff_ne_none] using hsame.symm
      refine Spec.touch_then hcontext (Spec.touch_then (hmem (by simp)) ?_)
      split
      next hsend => exact hfailed _ (by simp [hmodel, hnew, hsend]) rfl hfaultless
      next hsend =>
        refine Spec.touch_then hcontext (Spec.touch_then (hmem (by simp)) ?_)
        split
        next hempty => exact hfailed _ (by simp [hmodel, hnew, hsend, hempty]) rfl hfaultless
        next hempty =>
          split
          next hreceive =>
            exact hfailed _ (by simp [hmodel, hnew, hsend, hempty, hreceive]) rfl hfaultless
          next hreceive =>
            split
            next hformat =>
              refine hfailed _ ?_ rfl hfaultless
              simp [hmodel, hnew, hsend, hempty, hreceive, hformat]
            next hformat =>
              refine Spec.touch_then (hmem (by simp)) (Spec.touch_then (hmem (by simp)) ?_)
              split
              next htransfer =>
                refine hfailed _ ?_ rfl hfaultless
                simp [hmodel, hnew, hsend, hempty, hreceive, not_not.mp hformat, htransfer]
              next htransfer =>
                have hpacked : decoderPacket env state data = packHostFrame env
                    [.sendPacket state.codec data, .receiveFrame state.codec] := by
                  simp [hmodel, hnew, hsend, hempty, hreceive, not_not.mp hformat, htransfer]
                have hcalls := congrArg DecoderPacket.calls hpacked
                rw [packHostFrame_calls] at hcalls
                rw [hcalls] at hfaultless
                rw [hpacked]
                exact packHost_spec env hfaultless (hmem (by simp))

theorem decoderPacket_spec {env : DecodeEnv} {state : DecoderState} {held : DecoderHandles}
    (hheld : held.Of state) (block : Nat) {data : List UInt8}
    (hfault : (decoderPacket env state data).calls.any AvCall.faults = true → crashes) :
    system.Spec crashes inside ({(.block, block)} + held.resources)
      (decoderPacketProgram env state held block data)
      (DecoderAnswered (decoderPacket env state data))
      fun answer => target .block answer.2 + ({(.block, block)} + held.resources) := by
  unfold decoderPacketProgram
  refine Spec.allocate_then fun packet hpacket => ?_
  refine Spec.allocate_then fun gpu hgpu => Spec.allocate_then fun host hhost => ?_
  have hanswer : system.Spec crashes inside (target .frame host + (target .frame gpu +
      (target .packet packet + ({(.block, block)} + held.resources))))
      (decodeAllocated env state held block data packet gpu host)
      (DecoderAnswered (decoderPacket env state data))
      fun answer => target .block answer.2 + (target .frame host + (target .frame gpu +
        (target .packet packet + ({(.block, block)} + held.resources)))) := by
    rcases packet with _ | packet
    · refine Spec.ret ⟨?_, fun _ => rfl, ?_⟩ (zero_add _)
      · simp [decoderPacket, ← hpacket]
      · simp [decoderPacket, ← hpacket, Faultless]
    rcases gpu with _ | gpu
    · refine Spec.ret ⟨?_, fun _ => rfl, ?_⟩ (zero_add _)
      · simp [decoderPacket, ← hgpu]
      · simp [decoderPacket, ← hgpu, Faultless]
    rcases host with _ | host
    · refine Spec.ret ⟨?_, fun _ => rfl, ?_⟩ (zero_add _)
      · simp [decoderPacket, ← hhost]
      · simp [decoderPacket, ← hhost, Faultless]
    have howned : target .frame (some host) + (target .frame (some gpu) +
        (target .packet (some packet) + ({(.block, block)} + held.resources))) =
          codecResources held.codec + ({(.block, block)} + {(.packet, packet)} +
            {(.frame, gpu)} + {(.frame, host)} + target .bufferRef held.device) := by
      simp only [DecoderHandles.resources, target_some]
      abel
    exact decodeFrame_spec hheld hpacket.symm hgpu.symm hhost.symm hfault howned
  refine Spec.bind hanswer (add_zero _).symm fun answer hvalue => ?_
  rw [add_zero, add_left_comm]
  refine Spec.giveBack_then rfl ?_
  rw [add_left_comm]
  refine Spec.giveBack_then rfl ?_
  rw [add_left_comm]
  exact Spec.giveBack_then rfl (Spec.ret hvalue rfl)

/-! ## What a client leaves -/

/-- The resources of a session. -/
def SessionHandles.resources (held : SessionHandles) : Multiset (Resource HelperKind) :=
  held.encoder.resources + held.decoder.resources

/-- The pointers of a session belong to it. -/
structure SessionHandles.Of (held : SessionHandles) (session : HelperSession) : Prop where
  encoder : held.encoder.Of session.encoder
  decoder : held.decoder.Of session.decoder

/-- A message is answered as the model answers it, with a block where there is a payload. -/
def MessageAnswered (held : SessionHandles) (model : Answer) (answer : Answer × Option Nat) :
    Prop :=
  answer.1 = model ∧ (answer.2 = none → answer.1.packetSize = 0) ∧ Faultless answer.1.calls ∧
    answer.1.aborts = false ∧ held.Of answer.1.session

theorem answer_spec {env : MessageEnv} {session : HelperSession} {held : SessionHandles}
    (hdata : env.encode.HasData) (hheld : held.Of session) (block : Nat)
    {message : HelperFrameMessage} {payload : List UInt8}
    (hfault : (answerMessage env session message payload).calls.any AvCall.faults = true →
      crashes) :
    system.Spec crashes inside ({(.block, block)} + held.resources)
      (answerProgram env session held block message payload)
      (MessageAnswered held (answerMessage env session message payload))
      fun answer => target .block answer.2 + ({(.block, block)} + held.resources) := by
  unfold answerProgram
  unfold answerMessage at hfault ⊢
  split
  next htype =>
    have hwhole : {(.block, block)} + held.resources = {(.block, block)} + held.encoder.resources +
        held.decoder.resources := (add_assoc _ _ _).symm
    refine Spec.bind (encoderFrame_spec hdata hheld.encoder block payload message) hwhole
      fun frame hframe => ?_
    obtain ⟨hmodel, hblock⟩ := hframe
    refine Spec.ret ⟨by simp [hmodel], hblock, ?_, ?_, ?_, hheld.decoder⟩ ?_
    · refine List.any_eq_false.mpr fun call hcall => ?_
      rw [hmodel] at hcall
      obtain ⟨hcodec, hsome⟩ := encoderFrame_codec hcall
      rw [AvCall.faults, hcodec]
      simpa [Option.isSome_iff_ne_none] using hsome
    · show frame.1.aborts = false
      rw [hmodel]
      exact encoderFrame_not_aborts hdata _ _ _
    · obtain ⟨hcodec, -, -⟩ := encoderFrame_state env.encode session.encoder payload message
      refine ⟨?_, hheld.encoder.frames⟩
      show held.encoder.codec.isSome = frame.1.state.codec.isSome
      rw [hmodel, hcodec]
      exact hheld.encoder.codec
    · rw [hwhole]
      exact (add_assoc _ _ _).symm
  next htype =>
    rw [if_neg htype] at hfault
    have hwhole : {(.block, block)} + held.resources = {(.block, block)} + held.decoder.resources +
        held.encoder.resources := by
      unfold SessionHandles.resources
      abel
    refine Spec.bind (decoderPacket_spec hheld.decoder block hfault) hwhole fun frame hframe => ?_
    obtain ⟨hmodel, hblock, hfaultless⟩ := hframe
    rw [← hmodel] at hfaultless
    refine Spec.ret ⟨by simp [hmodel], hblock, hfaultless, rfl, hheld⟩ ?_
    rw [hwhole]
    exact (add_assoc _ _ _).symm

/-- The events hold a call that is given a null context. -/
def Faults (events : List HelperEvent) : Prop :=
  ∃ call, HelperEvent.av call ∈ events ∧ call.faults = true

theorem untilFault_eq_self {calls : List AvCall} (h : Faultless calls) :
    untilFault calls = calls := by
  induction calls with
  | nil => rfl
  | cons call calls ih =>
    obtain ⟨hcall, hcalls⟩ := Bool.or_eq_false_iff.mp h
    rw [untilFault, hcall, if_neg Bool.false_ne_true, ih hcalls]

theorem exists_mem_untilFault {calls : List AvCall} (h : calls.any AvCall.faults = true) :
    ∃ call ∈ untilFault calls, call.faults = true := by
  induction calls with
  | nil => cases h
  | cons call calls ih =>
    by_cases hcall : call.faults = true
    · exact ⟨call, head_mem_untilFault call calls, hcall⟩
    · rw [List.any_cons, Bool.or_eq_true] at h
      obtain ⟨later, hmem, hfaults⟩ := ih (h.resolve_left hcall)
      rw [untilFault, if_neg hcall]
      exact ⟨later, List.mem_cons_of_mem _ hmem, hfaults⟩

theorem reply_spec {env : MessageEnv} {client : Nat} {answer : Answer} {packetData : Option Nat}
    {rest : List UInt8} (hcalls : Faultless answer.calls) (hreturns : answer.aborts = false)
    (hblock : packetData = none → answer.packetSize = 0)
    {owned : Multiset (Resource HelperKind)} (hclient : (.descriptor, client) ∈ owned) :
    system.Spec crashes inside (target .block packetData + owned)
      (replyProgram env client answer packetData rest)
      (fun turn => turn = replyMessage env answer rest) fun _ => owned := by
  have hclient' : (.descriptor, client) ∈ target .block packetData + owned :=
    Multiset.mem_add.mpr (Or.inr hclient)
  have hfaultless : ¬(answer.calls.any AvCall.faults || answer.aborts) = true := by
    rw [show answer.calls.any AvCall.faults = false from hcalls, hreturns]
    exact Bool.false_ne_true
  unfold replyProgram replyMessage
  simp only [untilFault_eq_self hcalls, if_neg hfaultless]
  refine Spec.touch_then hclient' ?_
  split
  next hhead => exact Spec.giveBack_then rfl (Spec.ret rfl rfl)
  next hhead =>
    split
    next hsize =>
      have hsome : packetData.isSome = true := by
        rw [Option.isSome_iff_ne_none]
        exact fun hnone => hsize (hblock hnone)
      refine Spec.touch_then hclient' (Spec.dereference_then hsome ?_ ?_)
      · exact Multiset.le_add_right _ _
      · exact Spec.giveBack_then rfl (Spec.ret rfl rfl)
    next hsize => exact Spec.giveBack_then rfl (Spec.ret rfl rfl)

/-- What is received is what the model receives, with a block for the payload. -/
theorem receive_spec (env : MessageEnv) {client : Nat} (stream : List UInt8)
    {owned : Multiset (Resource HelperKind)} (hclient : (.descriptor, client) ∈ owned) :
    system.Spec crashes inside owned (receiveProgram env client stream)
      (fun received => received.map Prod.fst = receiveMessage env stream)
      fun received => target .block (received.map Prod.snd) + owned := by
  unfold receiveProgram receiveMessage
  refine Spec.touch_then hclient ?_
  simp only
  split
  next hheader => exact Spec.ret rfl (zero_add _)
  next hheader =>
    split
    next haccepted => exact Spec.ret rfl (zero_add _)
    next haccepted =>
      split
      next hmalloc => exact Spec.ret rfl (zero_add _)
      next hmalloc =>
        refine Spec.take_then fun block => ?_
        refine Spec.touch_then (Multiset.mem_add.mpr (Or.inr hclient)) ?_
        refine Spec.touch_then (by simp) ?_
        split
        next hpayload => exact Spec.release_then rfl (Spec.ret rfl (zero_add _))
        next hpayload => exact Spec.ret rfl rfl

/-- One turn of the message loop leaves what it finds. -/
theorem serveMessage_spec {env : MessageEnv} {client : Nat} {session : HelperSession}
    {held : SessionHandles} {stream : List UInt8} (hdata : env.encode.HasData)
    (hheld : held.Of session)
    (hfault : Faults (serveMessage env session stream).events → crashes) :
    system.Spec crashes inside (held.resources + {(.descriptor, client)})
      (serveMessageProgram env client session held stream)
      (fun turn => turn = serveMessage env session stream ∧
        ∀ later rest, turn.next = some (later, rest) → held.Of later)
      fun _ => held.resources + {(.descriptor, client)} := by
  have hclient : (.descriptor, client) ∈ held.resources + {(.descriptor, client)} := by simp
  refine Spec.bind (receive_spec env stream hclient) (add_zero _).symm fun received hreceived => ?_
  rw [add_zero]
  unfold serveMessage at hfault ⊢
  rw [← hreceived] at hfault ⊢
  rcases received with _ | ⟨⟨message, payload, rest⟩, block⟩
  · rw [answeredProgram]
    refine Spec.ret ⟨rfl, fun later unread hnext => ?_⟩ (zero_add _).symm
    cases hnext
  · rw [answeredProgram]
    have hwhole : target .block (some block) + (held.resources + {(.descriptor, client)}) =
        {(.block, block)} + held.resources + {(.descriptor, client)} := (add_assoc _ _ _).symm
    refine Spec.bind (answer_spec hdata hheld block fun hany => ?_) hwhole fun answer hanswer => ?_
    · -- The call that faults is an event of the turn.
      obtain ⟨call, hmem, hfaults⟩ := exists_mem_untilFault hany
      exact hfault ⟨call, av_mem_replyMessage.mpr hmem, hfaults⟩
    · obtain ⟨hmodel, hblock, hfaultless, hreturns, hlater⟩ := hanswer
      have hleft : target .block answer.2 + ({(.block, block)} + held.resources) +
          {(.descriptor, client)} = {(.block, block)} +
            (target .block answer.2 + (held.resources + {(.descriptor, client)})) := by
        abel
      refine Spec.release_then hleft ?_
      refine (reply_spec hfaultless hreturns hblock hclient).consequence fun turn hturn => ?_
      refine ⟨⟨by rw [hturn, hmodel]; rfl, fun later unread hnext => ?_⟩, rfl⟩
      rw [hturn] at hnext
      rw [(replyMessage_next hnext).1]
      exact hlater

/-- The message loop leaves what it finds. -/
theorem serveMessages_spec {client : Nat} {held : SessionHandles} {envs : List MessageEnv}
    (hdata : ∀ env ∈ envs, env.encode.HasData) {session : HelperSession} {stream : List UInt8}
    (hheld : held.Of session) (hfault : Faults (serveMessages envs session stream) → crashes) :
    system.Spec crashes inside (held.resources + {(.descriptor, client)})
      (serveMessagesProgram client held envs session stream)
      (fun events => events = serveMessages envs session stream)
      fun _ => held.resources + {(.descriptor, client)} := by
  induction envs generalizing session stream with
  | nil => exact Spec.ret rfl rfl
  | cons env envs ih =>
    rw [serveMessages] at hfault ⊢
    have hturn : Faults (serveMessage env session stream).events → crashes := by
      rintro ⟨call, hcall, hfaults⟩
      refine hfault ⟨call, ?_, hfaults⟩
      cases hnext : (serveMessage env session stream).next with
      | none => exact hcall
      | some next => exact List.mem_append_left _ hcall
    refine Spec.bind (serveMessage_spec (hdata env List.mem_cons_self) hheld hturn)
      (add_zero _).symm fun turn hvalue => ?_
    obtain ⟨rfl, hlater⟩ := hvalue
    rw [add_zero]
    cases hnext : (serveMessage env session stream).next with
    | none => exact Spec.ret rfl rfl
    | some next =>
      obtain ⟨later, rest⟩ := next
      rw [hnext] at hfault
      have hrest : Faults (serveMessages envs later rest) → crashes := by
        rintro ⟨call, hcall, hfaults⟩
        exact hfault ⟨call, List.mem_append_right _ hcall, hfaults⟩
      refine Spec.bind (ih (fun env henv => hdata env (List.mem_cons_of_mem _ henv))
        (hlater later rest hnext) hrest) (add_zero _).symm fun events hevents => ?_
      rw [add_zero]
      exact Spec.ret (by rw [hevents]) rfl

theorem encoderHandles_empty : ({} : EncoderHandles).resources = 0 := rfl

/-- The codec of a session leaves what its pointers point to. -/
theorem open_spec (env : HandshakeEnv) (bufferRef : Bool) (message : HelperInitMessage) :
    system.Spec crashes inside 0 (openProgram env bufferRef message)
      (fun opened => opened.1 = openSession env message ∧ opened.2.Of opened.1.2)
      fun opened => opened.2.resources := by
  unfold openProgram openSession
  split
  next htype =>
    refine Spec.bind (encoderInit_spec env.encoder bufferRef message {}) (add_zero _).symm
      fun opened hopened => ?_
    obtain ⟨hmodel, hheld⟩ := hopened
    exact Spec.ret ⟨by simp [hmodel], hheld, rfl⟩ rfl
  next htype =>
    refine Spec.bind (decoderInit_spec env.decoder bufferRef {}) (add_zero _).symm
      fun opened hopened => ?_
    obtain ⟨hmodel, hheld⟩ := hopened
    refine Spec.ret ⟨by simp [hmodel], ⟨rfl, nofun⟩, hheld⟩ ?_
    show ({} : EncoderHandles).resources + opened.2.resources = opened.2.resources + 0
    rw [encoderHandles_empty, zero_add, add_zero]

/-- A client makes no use of an empty packet. -/
def HelperClient.HasData (script : HelperClient) : Prop :=
  ∀ env ∈ script.messages, env.encode.HasData

/-- The events of a client. -/
def HelperClient.events (version : UInt32) (script : HelperClient) : List HelperEvent :=
  handleClient version script.start script.messages script.stream

/-- What the model of `handle_client` does behind the reply to the first message. -/
def sessionEvents (messages : List MessageEnv) (opened : Bool × HelperSession)
    (head : SendOutcome UInt8) (stream : List UInt8) : List HelperEvent :=
  if !head.complete || !opened.1 then [.sent head.sent]
  else .sent head.sent :: serveMessages messages opened.2 stream

theorem session_spec {client : Nat} {messages : List MessageEnv} {held : SessionHandles}
    {opened : Bool × HelperSession} {head : SendOutcome UInt8} {stream : List UInt8}
    (hdata : ∀ env ∈ messages, env.encode.HasData) (hheld : held.Of opened.2)
    (hfault : Faults (sessionEvents messages opened head stream) → crashes) :
    system.Spec crashes inside (held.resources + {(.descriptor, client)})
      (sessionProgram client messages opened held head stream)
      (fun events => events = sessionEvents messages opened head stream)
      fun _ => held.resources + {(.descriptor, client)} := by
  unfold sessionProgram
  unfold sessionEvents at hfault ⊢
  by_cases hend : (!head.complete || !opened.1) = true
  · rw [if_pos hend, if_pos hend]
    exact Spec.ret rfl rfl
  · rw [if_neg hend] at hfault
    rw [if_neg hend, if_neg hend]
    have hlater : Faults (serveMessages messages opened.2 stream) → crashes := by
      rintro ⟨call, hcall, hfaults⟩
      exact hfault ⟨call, List.mem_cons_of_mem _ hcall, hfaults⟩
    refine Spec.bind (serveMessages_spec hdata hheld hlater) (add_zero _).symm
      fun events hevents => ?_
    rw [add_zero]
    exact Spec.ret (by rw [hevents]) rfl

theorem events_eq_sessionEvents {version : UInt32} {script : HelperClient}
    {init : RecvOutcome UInt8} {opened : Bool × HelperSession}
    (hinit : init = recvAll script.start.initRecv HelperInitMessage.size script.stream)
    (hstatus : ¬init.status ≠ .complete)
    (haccepted : ¬(!initAccepted version (HelperInitMessage.decode init.data)) = true)
    (hopened : opened = openSession script.start (HelperInitMessage.decode init.data)) :
    script.events version = sessionEvents script.messages opened
      (sendAll script.start.replySend (HelperInitReply.encode
        { enabled := if opened.1 then 1 else 0, protocolVersion := version })) init.rest := by
  unfold HelperClient.events handleClient handshake sessionEvents
  simp only [← hinit, if_neg hstatus, if_neg haccepted, ← hopened]
  by_cases hend : (!(sendAll script.start.replySend (HelperInitReply.encode
      { enabled := if opened.1 then 1 else 0, protocolVersion := version })).complete ||
        !opened.1) = true
  · rw [if_pos hend, if_pos hend]
  · rw [if_neg hend, if_neg hend]
    rfl

/-- `handle_client` computes the session of its model and leaves what it finds. -/
theorem handleClient_spec {version : UInt32} {script : HelperClient} {client : Nat}
    (hdata : script.HasData) (hfault : Faults (script.events version) → crashes) :
    system.Spec crashes inside {(.descriptor, client)}
      (handleClientProgram version script client)
      (fun events => events = script.events version) fun _ => {(.descriptor, client)} := by
  have hclient : (HelperKind.descriptor, client) ∈
      ({(.descriptor, client)} : Multiset (Resource HelperKind)) := Multiset.mem_singleton_self _
  unfold handleClientProgram
  refine Spec.touch_then hclient ?_
  simp only
  split
  next hstatus =>
    refine Spec.ret ?_ rfl
    simp [HelperClient.events, handleClient, handshake, hstatus]
  next hstatus =>
    split
    next haccepted =>
      refine Spec.ret ?_ rfl
      simp [HelperClient.events, handleClient, handshake, hstatus, haccepted]
    next haccepted =>
      refine Spec.bind (open_spec script.start script.bufferRef _) (zero_add _).symm
        fun opened hopened => ?_
      obtain ⟨hmodel, hheld⟩ := hopened
      refine Spec.touch_then (by simp) ?_
      have hevents := events_eq_sessionEvents rfl hstatus haccepted hmodel
      rw [hevents] at hfault ⊢
      refine Spec.bind (session_spec hdata hheld hfault) (add_zero _).symm fun events heq => ?_
      rw [add_zero]
      refine Spec.bind (encoderClose_spec opened.2.encoder) (add_assoc _ _ _) fun _ _ => ?_
      rw [zero_add]
      refine Spec.bind (decoderClose_spec opened.2.decoder) rfl fun _ _ => ?_
      rw [zero_add]
      exact Spec.ret heq rfl

theorem clientThread_spec {version : UInt32} {script : HelperClient} {client : Nat}
    (hdata : script.HasData) (hfault : Faults (script.events version) → crashes) :
    system.Spec crashes inside {(.descriptor, client)} (clientThreadProgram version script client)
      (fun _ => True) fun _ => 0 := by
  refine Spec.bind (handleClient_spec hdata hfault) (add_zero _).symm fun _ _ => ?_
  rw [add_zero]
  exact Spec.release _

/-! ## What the process leaves -/

theorem accepted_spec {version : UInt32} {results : List AcceptResult} (slot created : Bool)
    (argument : ClientArgument) :
    (helperSystem version results).Spec crashes inside {(.descriptor, argument.client)}
      (acceptedProgram slot created argument) (fun _ => True) fun _ => 0 := by
  unfold acceptedProgram
  split
  next => exact Spec.release _
  next =>
    split
    next => exact Spec.release _
    next => exact Spec.fork argument

theorem accept_spec {version : UInt32} {results : List AcceptResult} (server : Nat)
    (coming : List AcceptResult) (next : Nat) :
    (helperSystem version results).Spec crashes inside {(.descriptor, server)}
      (acceptProgram server next coming) (fun _ => True) fun _ => 0 := by
  induction coming generalizing next with
  | nil => exact Spec.release _
  | cons result coming ih =>
    cases result with
    | interrupted => exact Spec.touch_then (by simp) (ih next)
    | failed => exact Spec.touch_then (by simp) (Spec.release _)
    | connection slot created script =>
      refine Spec.touch_then (by simp) (Spec.take_then fun client => ?_)
      refine Spec.touch_then (by simp) ?_
      refine Spec.bind (accepted_spec slot created ⟨client, next⟩) rfl fun _ _ => ?_
      rw [zero_add]
      exact ih (next + 1)

theorem helperMain_spec (version : UInt32) (start : HelperStart) :
    (helperSystem version start.results).Spec crashes inside 0 (helperMain start)
      (fun _ => True) fun _ => 0 := by
  unfold helperMain
  split
  next => exact Spec.ret trivial rfl
  next =>
    refine Spec.take_then fun server => Spec.touch_then (by simp) ?_
    rw [add_zero]
    split
    next => exact Spec.release _
    next => exact accept_spec server start.results 0

theorem silent_hasData : ({} : HelperClient).HasData :=
  fun _ henv => absurd henv List.not_mem_nil

theorem not_faults_silent (version : UInt32) : ¬Faults (({} : HelperClient).events version) := by
  rintro ⟨call, hcall, -⟩
  have hevents : ({} : HelperClient).events version = [] := rfl
  rw [hevents] at hcall
  cases hcall

theorem helperSystem_verified {version : UInt32} {results : List AcceptResult}
    (hdata : ∀ script ∈ scripts results, script.HasData) :
    (helperSystem version results).Verified
      (∃ script ∈ scripts results, Faults (script.events version)) := by
  intro argument
  refine Spec.owns (clientThread_spec ?_ ?_)
  · rw [List.getD_eq_getElem?_getD]
    cases hscript : (scripts results)[argument.connection]? with
    | none => exact silent_hasData
    | some script => exact hdata script (List.mem_of_getElem? hscript)
  · rw [List.getD_eq_getElem?_getD]
    cases hscript : (scripts results)[argument.connection]? with
    | none => exact fun hfaults => absurd hfaults (not_faults_silent version)
    | some script => exact fun hfaults => ⟨script, List.mem_of_getElem? hscript, hfaults⟩

end Specs

/-- In a process with any clients, a thread only uses and gives back what it owns, in
whatever order the threads take their steps.  A thread that has ended owns nothing, nothing is
left when all have ended, and the process only crashes where a client has an access unit sent
to a null context. -/
theorem helper_resources_kept (version : UInt32) (start : HelperStart)
    (hdata : ∀ script ∈ scripts start.results, script.HasData) (turns : List (Nat × Nat)) :
    let system := helperSystem version start.results
    let pool := system.machine.run (helperPool start) turns
    system.machine.Along (fun _ pool turn => (system.step turn.1 turn.2 pool).2 = true) []
        (helperPool start) turns ∧
      (∀ i, pool.threads[i]? = some (.ret ()) → ∀ r, pool.owner r ≠ some (.thread i)) ∧
      ((∀ program ∈ pool.threads, program = .ret ()) → ∀ r, pool.owner r = none) ∧
      (pool.crashed = true →
        ∃ script ∈ scripts start.results, Faults (script.events version)) := by
  intro system pool
  have hstart : system.Sound (∃ script ∈ scripts start.results, Faults (script.events version))
      (helperPool start) := ThreadSystem.Sound.initial (helperMain_spec version start).owns trivial rfl
  obtain ⟨horder, hsound⟩ :=
    ThreadSystem.run_inOrder (helperSystem_verified hdata) hstart turns
  refine ⟨horder, fun i hi r => hsound.ended hi, fun hended r => ?_, hsound.crashed⟩
  obtain ⟨_, -, hnone⟩ := hsound.all_ended hended
  by_contra hr
  exact absurd ((hnone r).mp hr) (Multiset.notMem_zero r)

theorem onePacket_size_lt : [(1 : UInt8)].length < 2 ^ 31 := by decide

/-- A client whose encoder would bring one packet for its frame. -/
def onePacketClient : HelperClient where
  messages := [{ encode := { receive := [⟨0, ⟨[1], onePacket_size_lt⟩, true⟩] } }]

/-- The client is accepted and leaves before it has sent anything. -/
def oneClientStart : HelperStart where
  results := [.connection true true onePacketClient]

/-- Its thread takes the first of its steps before the accept loop ends. -/
def oneClientTurns : List (Nat × Nat) :=
  [(0, 3), (0, 0), (0, 0), (0, 4), (0, 0), (0, 0), (1, 0), (0, 0), (1, 0)]

def oneClientPool : ThreadPool HelperKind Unit ClientArgument :=
  (helperSystem 4 oneClientStart.results).machine.run (helperPool oneClientStart) oneClientTurns

theorem oneClientPool_ended : ∀ program ∈ oneClientPool.threads, program = .ret () := by
  intro program hprogram
  obtain ⟨i, hi, rfl⟩ := List.getElem_of_mem hprogram
  have hlength : oneClientPool.threads.length = 2 := rfl
  obtain rfl | rfl : i = 0 ∨ i = 1 := by omega
  · rfl
  · rfl

theorem helper_resources_kept_oneClient :
    oneClientPool.threads.length = 2 ∧ ∀ r, oneClientPool.owner r = none := by
  have hdata : ∀ script ∈ scripts oneClientStart.results, script.HasData := by
    intro script hscript message hmessage packet hpacket
    rw [List.mem_singleton.mp hscript] at hmessage
    rw [List.mem_singleton.mp hmessage] at hpacket
    rw [List.mem_singleton.mp hpacket]
    exact List.cons_ne_nil 1 []
  exact ⟨rfl,
    (helper_resources_kept 4 oneClientStart hdata oneClientTurns).2.2.1 oneClientPool_ended⟩

end UuAmfBridge
