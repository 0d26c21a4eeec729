import UuAmfBridge.Bridge.ClientSync
import UuAmfBridge.Dxva.Upload

/-!
# Packets and frames of the decoder

`decoder_connect` and `context_end_frame` of `src/dxva_bridge.c`.  A call of `EndFrame`
sends the submitted bitstream to the helper and reads the decoded frame back, over one
stream, so a reply is matched to its packet by position alone.

The call leaves on two ways.  `disconnect` closes the socket, and so does every failure
before the payload; `done` keeps it.  A frame buffer that cannot grow goes to `done`
with the payload unread, so the next call reads pixels as the header of its reply.
`endFrame_in_step_iff` says that this is the only way to lose the synchronisation.

* `decoderConnect_cases`: a new connection has nothing unread.
* `contextEndFrame_outcome`: how a call ends.
* `endFrame_step`: on a stream in step, a call returns in step exactly when it strands
  no frame, and reads the answer to its own packet.

The table of the last failed connection is shared with the other decoders of the
process, so it may change between two calls.
-/

namespace UuAmfBridge

/-! ## The connection -/

/-- `helper_probe_result` and `helper_probe_time`. -/
structure HelperProbe where
  result : Int32 := 0
  time : UInt64 := 0
  deriving Repr, DecidableEq

/-- A decoder, with the failed connections that the whole process shares. -/
structure DecoderProcess where
  decoder : BridgeDecoder
  probe : HelperProbe := {}

/-- `DXVA_RETRY_BACKOFF_MS`. -/
def dxvaRetryBackoffMs : UInt64 := 1000

/-- `HELPER_PROBE_CACHE_MS`. -/
def helperProbeCacheMs : UInt64 := 10000

/-- `decoder_backoff` at the time `now`. -/
def decoderBackoff (now : UInt64) (process : DecoderProcess) : DecoderProcess where
  decoder := { process.decoder with retryAfter := now + dxvaRetryBackoffMs }
  probe := { result := -1, time := now }

/-- Close the socket, and back off. -/
def decoderDisconnect (now : UInt64) (process : DecoderProcess) : DecoderProcess :=
  decoderBackoff now { process with decoder := { process.decoder with helper := none } }

/-- What happens during `decoder_connect`. -/
structure DecoderConnectEnv where
  tickCount : UInt64 := 0
  socket : Bool := true
  connect : Bool := true
  /-- The protocol version of the helper that accepts. -/
  helperVersion : UInt32 := helperProtocolVersion
  initSend : List SendResult := []
  helper : HelperEnv := {}
  replyRecv : List RecvResult := []
  failureTick : UInt64 := 0

/-- The first message of `helper_handshake`. -/
def decoderInitMessage : HelperInitMessage where
  magic := helperMagic
  type := helperDecoderInit
  width := 0
  height := 0
  format := 0
  reserved := helperProtocolVersion
  bitrate := 0
  fpsNum := 0
  fpsDen := 0

/-- `helper_handshake` on a new socket: the socket behind the reply. -/
def helperHandshake (env : DecoderConnectEnv) : Option Connection :=
  let send := socketSendAll env.initSend decoderInitMessage.encode
  if !send.complete then none
  else
    let connection := Connection.deliver env.helper
      { helper := .accepted env.helperVersion [] } decoderInitMessage.encode
    let recv := socketRecvAll env.replyRecv HelperInitReply.size connection.inbound
    let reply := HelperInitReply.decode recv.data
    if recv.status ≠ .complete ∨ reply.enabled = 0 ∨
        reply.protocolVersion ≠ helperProtocolVersion then none
    else some { connection with inbound := recv.rest }

/-- `decoder_connect`: the open socket, unless it fails. -/
def decoderConnect (env : DecoderConnectEnv) (process : DecoderProcess) :
    Option Connection × DecoderProcess :=
  let decoder := process.decoder
  let probe := process.probe
  match decoder.helper with
  | some connection => (some connection, process)
  | none =>
      if decoder.retryAfter ≠ 0 ∧ env.tickCount < decoder.retryAfter then (none, process)
      else if probe.time ≠ 0 ∧ env.tickCount - probe.time < helperProbeCacheMs ∧
          probe.result ≤ 0 then
        (none, { process with
          decoder := { decoder with retryAfter := env.tickCount + dxvaRetryBackoffMs } })
      else if !env.socket then (none, process)
      else if !env.connect then (none, decoderBackoff env.failureTick process)
      else
        match helperHandshake env with
        | none => (none, decoderBackoff env.failureTick process)
        | some connection =>
            (some connection, { process with
              decoder := { decoder with helper := some connection, retryAfter := 0 } })

/-! ## One call of `EndFrame` -/

/-- What happens during `context_end_frame`. -/
structure EndFrameEnv where
  /-- `GetTickCount64` before the connection, and at a failure behind it. -/
  entryTick : UInt64 := 0
  connect : DecoderConnectEnv := {}
  headerSend : List SendResult := []
  parameterSend : List SendResult := []
  bitstreamSend : List SendResult := []
  helper : HelperEnv := {}
  replyRecv : List RecvResult := []
  frameRealloc : Bool := true
  frameRecv : List RecvResult := []
  upload : UploadEnv
  failureTick : UInt64 := 0

/-- What a call returns, the texture update it has made, and the bytes that went over
the socket during it: those the decoder wrote and read, and those the helper wrote. -/
structure DecoderRecord where
  result : Int32
  update : Option UpdateSubresource := none
  sent : List UInt8 := []
  consumed : List UInt8 := []
  produced : List UInt8 := []

/-- Send some parts one after the other, up to the first failure. -/
def sendParts : List (List SendResult × List UInt8) → SendOutcome UInt8
  | [] => ⟨true, []⟩
  | (calls, data) :: parts =>
      let part := socketSendAll calls data
      if !part.complete then part
      else
        let rest := sendParts parts
        ⟨rest.complete, part.sent ++ rest.sent⟩

/-- The header `context_end_frame` sends before the parameter sets and the bitstream. -/
def packetMessage (payloadSize : UInt32) : HelperFrameMessage where
  magic := helperMagic
  type := helperDecodePacket
  payloadSize := payloadSize
  reserved := 0
  pts := 0
  duration := 0

/-- The bytes of a buffer that have been submitted. -/
def submittedBytes (buffer : DecoderBuffer) (data : List UInt8) : List UInt8 :=
  (data.drop buffer.offset.toNat).take buffer.size.toNat

/-- What `context_end_frame` sends: the header, the parameter sets if there are any, and
the bitstream. -/
def packetParts (readPic : List UInt8 → DxvaPicParams) (env : EndFrameEnv)
    (decoder : BridgeDecoder) (data : List UInt8) : List (List SendResult × List UInt8) :=
  let bitstream := decoder.buffers bitstreamBuffer
  let sets := buildH264ParameterSets readPic (decoder.buffers pictureParametersBuffer) decoder.desc
  let header := (packetMessage (UInt32.ofNat sets.length + bitstream.size)).encode
  [(env.headerSend, header)] ++ (if sets = [] then [] else [(env.parameterSend, sets)]) ++
    [(env.bitstreamSend, submittedBytes bitstream data)]

/-- Send the packet, and read the header of the reply. -/
def exchangePacket (env : EndFrameEnv) (connection : Connection)
    (parts : List (List SendResult × List UInt8)) : FrameExchange :=
  let send := sendParts parts
  if !send.complete then { sent := send.sent, delivered := false }
  else
    let answered := connection.deliver env.helper send.sent
    { sent := send.sent
      delivered := true
      produced := sentBytes (connection.helper.receive env.helper send.sent).events
      header := socketRecvAll env.replyRecv HelperReply.size answered.inbound
      helper := answered.helper }

/-- The decoder when a frame has been read into its buffer, and the socket behind the
frame. -/
def storeFrame (decoder : BridgeDecoder) (payloadSize : UInt32) (helper : HelperSide)
    (frame : RecvOutcome UInt8) : BridgeDecoder :=
  { decoder with
    frame := fun i =>
      if i < frame.data.length then payloadMemory frame.data i else decoder.frame i
    frameCapacity := if payloadSize > decoder.frameCapacity then payloadSize
      else decoder.frameCapacity
    helper := some { helper, inbound := frame.rest } }

/-- The part of `context_end_frame` behind an accepted header: the frame buffer, the
frame, and the texture. -/
def receiveFrame (env : EndFrameEnv) (process : DecoderProcess) (exchange : FrameExchange)
    (reply : HelperReply) : DecoderProcess × DecoderRecord :=
  let record : DecoderRecord :=
    { result := sOk
      sent := exchange.sent
      consumed := exchange.header.data
      produced := exchange.produced }
  let atPayload : Connection := { helper := exchange.helper, inbound := exchange.header.rest }
  let decoder := { process.decoder with helper := some atPayload }
  if reply.payloadSize = 0 then ({ process with decoder }, record)
  else if !frameSizeAccepted reply.width reply.height reply.payloadSize then
    (decoderDisconnect env.failureTick { process with decoder }, { record with result := eFail })
  else if reply.payloadSize > decoder.frameCapacity ∧ env.frameRealloc = false then
    ({ process with decoder }, { record with result := eOutofmemory })
  else
    let frame := socketRecvAll env.frameRecv reply.payloadSize.toNat exchange.header.rest
    let decoder := storeFrame process.decoder reply.payloadSize exchange.helper frame
    let record := { record with consumed := exchange.header.data ++ frame.data }
    if frame.status ≠ .complete then
      (decoderDisconnect env.failureTick { process with decoder }, { record with result := eFail })
    else
      let upload := uploadNv12 env.upload decoder decoder.frame reply.width reply.height
      let record := { record with result := upload.result, update := upload.update }
      let process := { process with decoder := upload.decoder }
      if hrFailed upload.result then (decoderDisconnect env.failureTick process, record)
      else (process, record)

/-- `context_end_frame`. -/
def contextEndFrame (readPic : List UInt8 → DxvaPicParams) (env : EndFrameEnv)
    (process : DecoderProcess) : DecoderProcess × DecoderRecord :=
  let bitstream := process.decoder.buffers bitstreamBuffer
  match bitstream.data with
  | none => (process, { result := sOk })
  | some data =>
      if bitstream.size = 0 then (process, { result := sOk })
      else if process.decoder.retryAfter ≠ 0 ∧ env.entryTick < process.decoder.retryAfter then
        (process, { result := sOk })
      else
        match decoderConnect env.connect process with
        | (none, process) => (process, { result := eFail })
        | (some connection, process) =>
            let exchange := exchangePacket env connection
              (packetParts readPic env process.decoder data)
            match exchange.reply? with
            | none =>
                (decoderDisconnect env.failureTick process,
                  { result := eFail
                    sent := exchange.sent
                    consumed := exchange.header.data
                    produced := exchange.produced })
            | some reply => receiveFrame env process exchange reply

/-! ## Runs -/

/-- One call on a decoder, with what happens during it, or what happens between two
calls. -/
inductive DecoderCall where
  | getBuffer (malloc : MallocBlock) (out : Bool) (type : UInt32)
  | fill (type : Fin dxvaBufferCount) (contents : Nat → UInt8)
  | submit (descs : List BufferDesc)
  | beginFrame (view : Option BridgeOutputView)
  | endFrame (env : EndFrameEnv)
  /-- Another decoder of the process has failed to connect. -/
  | shareProbe (probe : HelperProbe)

/-- The decoder answers one call at a time. -/
def decoderCalls (readPic : List UInt8 → DxvaPicParams) :
    Machine DecoderProcess DecoderCall DecoderRecord where
  step process call :=
    let onDecoder (next : Int32 × BridgeDecoder) : DecoderProcess × DecoderRecord :=
      ({ process with decoder := next.2 }, { result := next.1 })
    match call with
    | .getBuffer malloc out type => onDecoder (contextGetBuffer malloc out type process.decoder)
    | .fill type contents => onDecoder (sOk, fillBuffer type contents process.decoder)
    | .submit descs => onDecoder (contextSubmit descs process.decoder)
    | .beginFrame view => onDecoder (contextBeginFrame view process.decoder)
    | .endFrame env => contextEndFrame readPic env process
    | .shareProbe probe => ({ process with probe }, { result := sOk })

/-- A decoder that has just been created. -/
def DecoderProcess.fresh (desc : VideoDecoderDesc) (probe : HelperProbe) : DecoderProcess where
  decoder := { desc }
  probe := probe

/-! ## The property and the condition -/

/-- The socket is closed, or every byte the helper has written has been read. -/
def DecoderSynchronised (decoder : BridgeDecoder) : Prop :=
  ∀ connection, decoder.helper = some connection → connection.inbound = []

/-- The call has read the beginning of what the helper has written in answer to its
packet, and all of it unless it fails. -/
def DecoderRecord.ReadsOwnAnswer (record : DecoderRecord) : Prop :=
  record.consumed <+: record.produced ∧
    (hrFailed record.result = false → record.consumed = record.produced)

section Condition

variable (readPic : List UInt8 → DxvaPicParams)

/-- A call of `EndFrame` returns in step, and reads the answer to its own packet. -/
def EndFrameInStep (process : DecoderProcess) (call : DecoderCall) : Prop :=
  ∀ env, call = .endFrame env →
    DecoderSynchronised ((decoderCalls readPic).step process call).1.decoder ∧
      ((decoderCalls readPic).step process call).2.ReadsOwnAnswer

/-- A call of `context_end_frame` that goes on to the payload: it has a bitstream and a
connection, and the header of the reply has arrived and is accepted. -/
structure AcceptedFrame (env : EndFrameEnv) (process : DecoderProcess) where
  data : List UInt8
  connection : Connection
  opened : DecoderProcess
  reply : HelperReply
  data_eq : (process.decoder.buffers bitstreamBuffer).data = some data
  size_ne : (process.decoder.buffers bitstreamBuffer).size ≠ 0
  awake : ¬(process.decoder.retryAfter ≠ 0 ∧ env.entryTick < process.decoder.retryAfter)
  connect_eq : decoderConnect env.connect process = (some connection, opened)
  reply_eq : (exchangePacket env connection
    (packetParts readPic env opened.decoder data)).reply? = some reply

variable {readPic} {env : EndFrameEnv} {process : DecoderProcess}

/-- The first stage of the call. -/
def AcceptedFrame.exchange (accepted : AcceptedFrame readPic env process) : FrameExchange :=
  exchangePacket env accepted.connection
    (packetParts readPic env accepted.opened.decoder accepted.data)

/-- The frame buffer is too small for the frame and cannot grow, while bytes of the
frame are unread. -/
def AcceptedFrame.Strands (accepted : AcceptedFrame readPic env process) : Prop :=
  accepted.reply.payloadSize ≠ 0 ∧
    frameSizeAccepted accepted.reply.width accepted.reply.height accepted.reply.payloadSize =
      true ∧
    process.decoder.frameCapacity < accepted.reply.payloadSize ∧ env.frameRealloc = false ∧
      accepted.exchange.header.rest ≠ []

variable (readPic)

/-- A call of `EndFrame` that meets a frame for which the frame buffer cannot grow. -/
def StrandsFrame (process : DecoderProcess) (call : DecoderCall) : Prop :=
  ∃ env, call = .endFrame env ∧ ∃ accepted : AcceptedFrame readPic env process, accepted.Strands

end Condition

/-! ## How a call ends -/

/-- The handshake leaves nothing unread. -/
theorem helperHandshake_inbound {env : DecoderConnectEnv} {connection : Connection}
    (h : helperHandshake env = some connection) : connection.inbound = [] := by
  unfold helperHandshake at h
  simp only at h
  split_ifs at h with hsend hreply
  rw [not_or, not_not] at hreply
  obtain rfl := Option.some.inj h
  exact HelperSide.accepted_rest hreply.1

/-- `decoder_connect` only changes the socket and the times of the back-off, and leaves
the decoder with the socket that it returns: the one it had, or a new one with nothing
unread. -/
theorem decoderConnect_cases (env : DecoderConnectEnv) (process : DecoderProcess) :
    ∃ helper retryAfter probe,
      decoderConnect env process =
        (helper, { decoder := { process.decoder with helper, retryAfter }, probe }) ∧
      (process.decoder.helper = helper ∨
        ∀ connection, helper = some connection → connection.inbound = []) := by
  unfold decoderConnect
  simp only
  cases hhelper : process.decoder.helper with
  | some connection =>
    refine ⟨some connection, process.decoder.retryAfter, process.probe, ?_, Or.inl rfl⟩
    simp only
    rw [← hhelper]
  | none =>
    have hsame : process = { process with decoder := { process.decoder with helper := none } } := by
      rw [← hhelper]
    simp only
    split_ifs
    · exact ⟨none, process.decoder.retryAfter, process.probe, congrArg _ hsame, Or.inl rfl⟩
    · exact ⟨none, _, process.probe, rfl, Or.inl rfl⟩
    · exact ⟨none, process.decoder.retryAfter, process.probe, congrArg _ hsame, Or.inl rfl⟩
    · exact ⟨none, _, _, congrArg (fun process => (none, decoderBackoff env.failureTick process))
        hsame, Or.inl rfl⟩
    · cases hshake : helperHandshake env with
      | none =>
        exact ⟨none, _, _, congrArg (fun process => (none, decoderBackoff env.failureTick process))
          hsame, Or.inl rfl⟩
      | some connection =>
        refine ⟨some connection, 0, process.probe, rfl, Or.inr fun other hother => ?_⟩
        obtain rfl := Option.some.inj hother
        exact helperHandshake_inbound hshake

/-- `upload_nv12` only changes its own buffer. -/
theorem uploadNv12_decoder (env : UploadEnv) (decoder : BridgeDecoder) (data : Nat → UInt8)
    (width height : UInt32) :
    ∃ upload uploadCapacity, (uploadNv12 env decoder data width height).decoder =
      { decoder with upload, uploadCapacity } := by
  have hcleared : ∀ cleared, clearedUpload env decoder = some cleared →
      ∃ upload uploadCapacity, cleared = { decoder with upload, uploadCapacity } := by
    intro cleared h
    unfold clearedUpload at h
    by_cases hlarge : uploadSize env.desc > 4294967295
    · rw [if_pos hlarge] at h
      cases h
    · rw [if_neg hlarge] at h
      by_cases hgrow : uploadSize env.desc > decoder.uploadCapacity.toUInt64 ∧ env.realloc = false
      · rw [if_pos hgrow] at h
        cases h
      · rw [if_neg hgrow] at h
        exact ⟨_, _, (Option.some.inj h).symm⟩
  have hsame : ∃ upload uploadCapacity, decoder = { decoder with upload, uploadCapacity } :=
    ⟨decoder.upload, decoder.uploadCapacity, rfl⟩
  unfold uploadNv12
  split
  · exact hsame
  · simp only
    split_ifs
    · exact hsame
    · exact hsame
    · exact hsame
    · exact hsame
    · exact hsame
    all_goals
      cases hsome : clearedUpload env decoder with
      | none => exact hsame
      | some cleared =>
        obtain ⟨upload, uploadCapacity, rfl⟩ := hcleared cleared hsome
        exact ⟨_, uploadCapacity, rfl⟩

/-- `upload_nv12` keeps the socket. -/
theorem uploadNv12_helper (env : UploadEnv) (decoder : BridgeDecoder) (data : Nat → UInt8)
    (width height : UInt32) :
    (uploadNv12 env decoder data width height).decoder.helper = decoder.helper := by
  obtain ⟨upload, uploadCapacity, hdecoder⟩ := uploadNv12_decoder env decoder data width height
  rw [hdecoder]

/-- How the part behind an accepted header ends. -/
inductive FrameOutcome (env : EndFrameEnv) (process : DecoderProcess) (exchange : FrameExchange)
    (reply : HelperReply) (next : DecoderProcess) (record : DecoderRecord) : Prop where
  /-- There is no frame yet. -/
  | empty (hsize : reply.payloadSize = 0)
      (hhelper : next.decoder.helper = some ⟨exchange.helper, exchange.header.rest⟩)
      (hconsumed : record.consumed = exchange.header.data)
  | noMemory (hsize : reply.payloadSize ≠ 0)
      (haccepted : frameSizeAccepted reply.width reply.height reply.payloadSize = true)
      (hcapacity : process.decoder.frameCapacity < reply.payloadSize)
      (hrealloc : env.frameRealloc = false)
      (hhelper : next.decoder.helper = some ⟨exchange.helper, exchange.header.rest⟩)
      (hconsumed : record.consumed = exchange.header.data)
      (hresult : hrFailed record.result = true)
  /-- The socket is closed, behind a part of the frame. -/
  | closed (taken : List UInt8) (htaken : taken <+: exchange.header.rest)
      (hhelper : next.decoder.helper = none)
      (hconsumed : record.consumed = exchange.header.data ++ taken)
      (hresult : hrFailed record.result = true)
  | uploaded (hsize : reply.payloadSize ≠ 0)
      (hcapacity : ¬(process.decoder.frameCapacity < reply.payloadSize ∧
        env.frameRealloc = false))
      (hstatus : (socketRecvAll env.frameRecv reply.payloadSize.toNat
        exchange.header.rest).status = .complete)
      (hhelper : next.decoder.helper = some ⟨exchange.helper, (socketRecvAll env.frameRecv
        reply.payloadSize.toNat exchange.header.rest).rest⟩)
      (hconsumed : record.consumed = exchange.header.data ++ (socketRecvAll env.frameRecv
        reply.payloadSize.toNat exchange.header.rest).data)

theorem receiveFrame_outcome (env : EndFrameEnv) (process : DecoderProcess)
    (exchange : FrameExchange) (reply : HelperReply) :
    (receiveFrame env process exchange reply).2.produced = exchange.produced ∧
      FrameOutcome env process exchange reply (receiveFrame env process exchange reply).1
        (receiveFrame env process exchange reply).2 := by
  let frame := socketRecvAll env.frameRecv reply.payloadSize.toNat exchange.header.rest
  have hprefix : frame.data <+: exchange.header.rest :=
    ⟨_, recvLoop_data_append_rest socketRecv _ _ _⟩
  unfold receiveFrame
  simp only
  by_cases hsize : reply.payloadSize = 0
  · rw [if_pos hsize]
    exact ⟨rfl, .empty hsize rfl rfl⟩
  rw [if_neg hsize]
  by_cases haccepted : frameSizeAccepted reply.width reply.height reply.payloadSize = true
  · rw [haccepted, Bool.not_true, if_neg Bool.false_ne_true]
    by_cases hgrow : reply.payloadSize > process.decoder.frameCapacity ∧ env.frameRealloc = false
    · rw [if_pos hgrow]
      exact ⟨rfl, .noMemory hsize haccepted hgrow.1 hgrow.2 rfl rfl rfl⟩
    rw [if_neg hgrow]
    by_cases hstatus : frame.status = .complete
    · rw [if_neg (not_not_intro hstatus)]
      have hhelper := uploadNv12_helper env.upload (storeFrame process.decoder reply.payloadSize
        exchange.helper frame) (storeFrame process.decoder reply.payloadSize exchange.helper
          frame).frame reply.width reply.height
      generalize uploadNv12 env.upload (storeFrame process.decoder reply.payloadSize
        exchange.helper frame) (storeFrame process.decoder reply.payloadSize exchange.helper
          frame).frame reply.width reply.height = upload at hhelper ⊢
      by_cases hfailed : hrFailed upload.result = true
      · rw [if_pos hfailed]
        exact ⟨rfl, .closed _ hprefix rfl rfl hfailed⟩
      · rw [if_neg hfailed]
        exact ⟨rfl, .uploaded hsize hgrow hstatus hhelper rfl⟩
    · rw [if_pos hstatus]
      exact ⟨rfl, .closed _ hprefix rfl rfl rfl⟩
  · rw [Bool.not_eq_true] at haccepted
    rw [haccepted, Bool.not_false, if_pos rfl]
    exact ⟨rfl, .closed [] List.nil_prefix rfl (List.append_nil _).symm rfl⟩

section Call

variable {readPic : List UInt8 → DxvaPicParams} {env : EndFrameEnv} {process : DecoderProcess}

/-- How a call of `context_end_frame` ends. -/
inductive EndFrameOutcome (readPic : List UInt8 → DxvaPicParams) (env : EndFrameEnv)
    (process : DecoderProcess) (next : DecoderProcess × DecoderRecord) : Prop where
  /-- There is nothing to send, or no connection. -/
  | unsent (result : Int32) (hrecord : next.2 = { result })
      (hhelper : next.1.decoder.helper = process.decoder.helper ∨ next.1.decoder.helper = none)
  /-- The exchange fails or is refused. -/
  | refused (connection : Connection) (opened : DecoderProcess)
      (parts : List (List SendResult × List UInt8))
      (hconnect : decoderConnect env.connect process = (some connection, opened))
      (hhelper : next.1.decoder.helper = none)
      (hconsumed : next.2.consumed = (exchangePacket env connection parts).header.data)
      (hproduced : next.2.produced = (exchangePacket env connection parts).produced)
      (hresult : hrFailed next.2.result = true)
  | accepted (accepted : AcceptedFrame readPic env process)
      (hnext : next = receiveFrame env accepted.opened accepted.exchange accepted.reply)

theorem contextEndFrame_outcome (readPic : List UInt8 → DxvaPicParams) (env : EndFrameEnv)
    (process : DecoderProcess) :
    EndFrameOutcome readPic env process (contextEndFrame readPic env process) := by
  unfold contextEndFrame
  simp only
  cases hdata : (process.decoder.buffers bitstreamBuffer).data with
  | none => exact .unsent _ rfl (Or.inl rfl)
  | some data =>
    simp only
    by_cases hsize : (process.decoder.buffers bitstreamBuffer).size = 0
    · rw [if_pos hsize]
      exact .unsent _ rfl (Or.inl rfl)
    rw [if_neg hsize]
    by_cases hwait : process.decoder.retryAfter ≠ 0 ∧ env.entryTick < process.decoder.retryAfter
    · rw [if_pos hwait]
      exact .unsent _ rfl (Or.inl rfl)
    rw [if_neg hwait]
    obtain ⟨helper, retryAfter, probe, hconnect, -⟩ := decoderConnect_cases env.connect process
    rw [hconnect]
    cases helper with
    | none => exact .unsent _ rfl (Or.inr rfl)
    | some connection =>
      simp only
      split
      · exact .refused connection _ _ hconnect rfl rfl rfl rfl
      · next reply hreply =>
        exact .accepted ⟨data, connection, _, reply, hdata, hsize, hwait, hconnect, hreply⟩ rfl

/-- A call that goes on to the payload. -/
theorem AcceptedFrame.contextEndFrame_eq (accepted : AcceptedFrame readPic env process) :
    contextEndFrame readPic env process =
      receiveFrame env accepted.opened accepted.exchange accepted.reply := by
  have hreply := accepted.reply_eq
  unfold contextEndFrame
  simp only [accepted.data_eq]
  rw [if_neg accepted.size_ne, if_neg accepted.awake, accepted.connect_eq]
  simp only [hreply]
  rfl

/-- On a stream in step, the connection of a call has nothing unread. -/
theorem decoderConnect_inbound (hsync : DecoderSynchronised process.decoder)
    {connection : Connection} {opened : DecoderProcess}
    (h : decoderConnect env.connect process = (some connection, opened)) :
    connection.inbound = [] := by
  obtain ⟨helper, _, _, hconnect, hcases⟩ := decoderConnect_cases env.connect process
  rw [hconnect] at h
  obtain ⟨rfl, -⟩ := Prod.mk.inj h
  rcases hcases with hsame | hnew
  · exact hsync connection hsame
  · exact hnew connection rfl

/-- `decoder_connect` keeps the frame buffer. -/
theorem AcceptedFrame.frameCapacity_eq (accepted : AcceptedFrame readPic env process) :
    accepted.opened.decoder.frameCapacity = process.decoder.frameCapacity := by
  have haccepted := accepted.connect_eq
  obtain ⟨_, _, _, hconnect, -⟩ := decoderConnect_cases env.connect process
  rw [hconnect] at haccepted
  obtain ⟨-, hopened⟩ := Prod.mk.inj haccepted
  rw [← hopened]

/-- On a stream in step, the header that a call reads is the beginning of the answer to
its packet. -/
theorem exchangePacket_header {connection : Connection} (hstep : connection.inbound = [])
    (parts : List (List SendResult × List UInt8)) :
    (exchangePacket env connection parts).header.data <+:
      (exchangePacket env connection parts).produced := by
  unfold exchangePacket
  simp only
  split_ifs
  · exact List.nil_prefix
  · have hinbound : (connection.deliver env.helper (sendParts parts).sent).inbound =
        sentBytes (connection.helper.receive env.helper (sendParts parts).sent).events := by
      show connection.inbound ++ _ = _
      rw [hstep, List.nil_append]
    rw [hinbound]
    exact ⟨_, recvLoop_data_append_rest socketRecv _ _ _⟩

/-- On a stream in step, an accepted header is the header of the answer, and the rest is
the beginning of the frame it announces. -/
theorem AcceptedFrame.produced_eq (accepted : AcceptedFrame readPic env process)
    (hstep : accepted.connection.inbound = []) :
    accepted.exchange.produced = accepted.exchange.header.data ++ accepted.exchange.header.rest ∧
      accepted.exchange.header.rest.length ≤ accepted.reply.payloadSize.toNat := by
  have hreply : accepted.exchange.reply? = some accepted.reply := accepted.reply_eq
  unfold FrameExchange.reply? at hreply
  simp only at hreply
  split_ifs at hreply with hcond
  obtain ⟨hdelivered, hstatus, -⟩ := hcond
  have hdecode := Option.some.inj hreply
  unfold AcceptedFrame.exchange exchangePacket at hdelivered hstatus hdecode ⊢
  simp only at hdelivered hstatus hdecode ⊢
  split_ifs at hdelivered hstatus hdecode ⊢ with hsent
  have hinbound : ∀ bytes, (accepted.connection.deliver env.helper bytes).inbound =
      sentBytes (accepted.connection.helper.receive env.helper bytes).events := by
    intro bytes
    show accepted.connection.inbound ++ _ = _
    rw [hstep, List.nil_append]
  rw [hinbound] at hstatus hdecode ⊢
  obtain ⟨hproduced, hrest, -⟩ := HelperSide.receive_header rfl hstatus
  rw [hdecode] at hrest
  exact ⟨hproduced, hrest⟩

/-- Without a socket there is nothing to be out of step with. -/
theorem decoderSynchronised_of_closed {decoder : BridgeDecoder} (h : decoder.helper = none) :
    DecoderSynchronised decoder := by
  intro connection hsome
  rw [h] at hsome
  cases hsome

/-- A call that strands a frame leaves its bytes on the stream. -/
theorem AcceptedFrame.Strands.not_synchronised {accepted : AcceptedFrame readPic env process}
    (h : accepted.Strands) :
    ¬DecoderSynchronised (contextEndFrame readPic env process).1.decoder := by
  obtain ⟨hsize, haccepted, hcapacity, hrealloc, hrest⟩ := h
  intro hnext
  rw [accepted.contextEndFrame_eq] at hnext
  rw [← accepted.frameCapacity_eq] at hcapacity
  obtain ⟨-, houtcome⟩ := receiveFrame_outcome env accepted.opened accepted.exchange
    accepted.reply
  cases houtcome with
  | empty hzero => exact hsize hzero
  | noMemory _ _ _ _ hhelper => exact hrest (hnext _ hhelper)
  | closed _ _ hhelper =>
    unfold receiveFrame at hhelper
    simp only at hhelper
    rw [if_neg hsize, haccepted, Bool.not_true, if_neg Bool.false_ne_true,
      if_pos ⟨hcapacity, hrealloc⟩] at hhelper
    cases hhelper
  | uploaded _ hgrow => exact hgrow ⟨hcapacity, hrealloc⟩

/-- A call with an accepted reply that strands no frame returns in step. -/
theorem AcceptedFrame.synchronised (accepted : AcceptedFrame readPic env process)
    (hsync : DecoderSynchronised process.decoder) (hstrands : ¬accepted.Strands) :
    DecoderSynchronised (contextEndFrame readPic env process).1.decoder := by
  have hinbound := decoderConnect_inbound hsync accepted.connect_eq
  obtain ⟨-, hlength⟩ := accepted.produced_eq hinbound
  obtain ⟨-, hframe⟩ := receiveFrame_outcome env accepted.opened accepted.exchange accepted.reply
  rw [← accepted.contextEndFrame_eq] at hframe
  cases hframe with
  | empty hsize hhelper =>
    intro connection hsome
    rw [hhelper] at hsome
    obtain rfl := Option.some.inj hsome
    rw [hsize] at hlength
    exact List.length_eq_zero_iff.mp (Nat.le_zero.mp hlength)
  | noMemory hsize haccepted hcapacity hrealloc hhelper =>
    intro connection hsome
    rw [hhelper] at hsome
    obtain rfl := Option.some.inj hsome
    rw [accepted.frameCapacity_eq] at hcapacity
    by_contra hrest
    exact hstrands ⟨hsize, haccepted, hcapacity, hrealloc, hrest⟩
  | closed _ _ hhelper => exact decoderSynchronised_of_closed hhelper
  | uploaded _ _ hstatus hhelper =>
    intro connection hsome
    rw [hhelper] at hsome
    obtain rfl := Option.some.inj hsome
    unfold socketRecvAll at hstatus ⊢
    rw [recvLoop_eq_of_complete hstatus]
    exact List.drop_of_length_le hlength

/-- On a stream in step, a call returns in step exactly when it strands no frame. -/
theorem contextEndFrame_synchronised (hsync : DecoderSynchronised process.decoder) :
    DecoderSynchronised (contextEndFrame readPic env process).1.decoder ↔
      ¬∃ accepted : AcceptedFrame readPic env process, accepted.Strands := by
  constructor
  · rintro hnext ⟨accepted, hstrands⟩
    exact hstrands.not_synchronised hnext
  · intro hstrands
    have houtcome := contextEndFrame_outcome readPic env process
    generalize hcall : contextEndFrame readPic env process = next at houtcome ⊢
    cases houtcome with
    | unsent _ _ hhelper =>
      rcases hhelper with hsame | hnone
      · intro connection hsome
        rw [hsame] at hsome
        exact hsync connection hsome
      · exact decoderSynchronised_of_closed hnone
    | refused _ _ _ _ hhelper => exact decoderSynchronised_of_closed hhelper
    | accepted accepted _ =>
      rw [← hcall]
      exact accepted.synchronised hsync fun hyes => hstrands ⟨accepted, hyes⟩

/-- On a stream in step, a call reads the answer to its own packet. -/
theorem contextEndFrame_readsOwnAnswer (hsync : DecoderSynchronised process.decoder) :
    (contextEndFrame readPic env process).2.ReadsOwnAnswer := by
  have houtcome := contextEndFrame_outcome readPic env process
  generalize contextEndFrame readPic env process = next at houtcome ⊢
  cases houtcome with
  | unsent result hrecord =>
    rw [hrecord]
    exact ⟨List.prefix_rfl, fun _ => rfl⟩
  | refused connection opened parts hconnect _ hconsumed hproduced hresult =>
    have hheader := @exchangePacket_header env connection
      (decoderConnect_inbound hsync hconnect) parts
    unfold DecoderRecord.ReadsOwnAnswer
    rw [hconsumed, hproduced, hresult]
    exact ⟨hheader, nofun⟩
  | accepted accepted hnext =>
    have hinbound := decoderConnect_inbound hsync accepted.connect_eq
    obtain ⟨hanswer, hlength⟩ := accepted.produced_eq hinbound
    obtain ⟨hproduced, hframe⟩ := receiveFrame_outcome env accepted.opened accepted.exchange
      accepted.reply
    rw [← hnext] at hframe hproduced
    unfold DecoderRecord.ReadsOwnAnswer
    rw [hproduced, hanswer]
    cases hframe with
    | empty hsize _ hconsumed =>
      rw [hsize] at hlength
      rw [hconsumed, List.length_eq_zero_iff.mp (Nat.le_zero.mp hlength), List.append_nil]
      exact ⟨List.prefix_rfl, fun _ => rfl⟩
    | noMemory _ _ _ _ _ hconsumed hresult =>
      rw [hconsumed, hresult]
      exact ⟨List.prefix_append _ _, nofun⟩
    | closed taken htaken _ hconsumed hresult =>
      rw [hconsumed, hresult]
      exact ⟨(List.prefix_append_right_inj _).mpr htaken, nofun⟩
    | uploaded _ _ hstatus _ hconsumed =>
      unfold socketRecvAll at hstatus hconsumed
      rw [recvLoop_eq_of_complete hstatus] at hconsumed
      rw [hconsumed, List.take_of_length_le hlength]
      exact ⟨List.prefix_rfl, fun _ => rfl⟩

end Call

/-! ## Whole runs -/

/-- `SubmitDecoderBuffers` keeps the socket. -/
theorem contextSubmit_helper (descs : List BufferDesc) (decoder : BridgeDecoder) :
    (contextSubmit descs decoder).2.helper = decoder.helper := by
  induction descs generalizing decoder with
  | nil => rfl
  | cons desc descs ih =>
    unfold contextSubmit
    by_cases htype : desc.bufferType.toNat < dxvaBufferCount
    · rw [dif_pos htype]
      simp only
      split_ifs
      · rfl
      · rw [ih]
    · rw [dif_neg htype]
      exact ih decoder

/-- `GetDecoderBuffer` keeps the socket. -/
theorem contextGetBuffer_helper (malloc : MallocBlock) (out : Bool) (type : UInt32)
    (decoder : BridgeDecoder) :
    (contextGetBuffer malloc out type decoder).2.helper = decoder.helper := by
  unfold contextGetBuffer
  by_cases hvalid : out = true ∧ type.toNat < dxvaBufferCount
  · rw [dif_pos hvalid]
    simp only
    cases (decoder.buffers ⟨type.toNat, hvalid.2⟩).data with
    | none =>
      cases malloc with
      | none => rfl
      | some block => rfl
    | some data => rfl
  · rw [dif_neg hvalid]

/-- `BeginFrame` keeps the socket. -/
theorem contextBeginFrame_helper (view : Option BridgeOutputView) (decoder : BridgeDecoder) :
    (contextBeginFrame view decoder).2.helper = decoder.helper := by
  unfold contextBeginFrame
  cases view with
  | none => rfl
  | some view =>
    simp only
    split_ifs <;> rfl

/-- A call that returns in step keeps the stream in step, and so does everything that is
no call of `EndFrame`. -/
theorem decoderSynchronised_step {readPic : List UInt8 → DxvaPicParams} {process : DecoderProcess}
    (hsync : DecoderSynchronised process.decoder) {call : DecoderCall}
    (hstep : EndFrameInStep readPic process call) :
    DecoderSynchronised ((decoderCalls readPic).step process call).1.decoder := by
  have hkeeps : ∀ {next : DecoderProcess}, next.decoder.helper = process.decoder.helper →
      DecoderSynchronised next.decoder := by
    intro next hsame connection hsome
    rw [hsame] at hsome
    exact hsync connection hsome
  cases call with
  | getBuffer malloc out type => exact hkeeps (contextGetBuffer_helper malloc out type _)
  | fill type contents => exact hkeeps rfl
  | submit descs => exact hkeeps (contextSubmit_helper descs _)
  | beginFrame view => exact hkeeps (contextBeginFrame_helper view _)
  | endFrame env => exact (hstep env rfl).1
  | shareProbe probe => exact hkeeps rfl

/-- On a stream in step, a call of `EndFrame` returns in step and reads its own answer
exactly when it strands no frame. -/
theorem endFrame_step {readPic : List UInt8 → DxvaPicParams} {process : DecoderProcess}
    (hsync : DecoderSynchronised process.decoder) (call : DecoderCall) :
    EndFrameInStep readPic process call ↔ ¬StrandsFrame readPic process call := by
  constructor
  · rintro hstep ⟨env, rfl, hstrands⟩
    exact (contextEndFrame_synchronised hsync).mp (hstep env rfl).1 hstrands
  · rintro hstrands env rfl
    exact ⟨(contextEndFrame_synchronised hsync).mpr fun hyes => hstrands ⟨env, rfl, hyes⟩,
      contextEndFrame_readsOwnAnswer hsync⟩

/-- Every call of `EndFrame` of a run returns in step and reads the answer to its own
packet exactly when none of them meets a frame for which the frame buffer cannot
grow. -/
theorem endFrame_in_step_iff (readPic : List UInt8 → DxvaPicParams) (desc : VideoDecoderDesc)
    (probe : HelperProbe) (calls : List DecoderCall) :
    (decoderCalls readPic).Along (fun _ process call => EndFrameInStep readPic process call) []
        (DecoderProcess.fresh desc probe) calls ↔
      (decoderCalls readPic).Along (fun _ process call => ¬StrandsFrame readPic process call) []
        (DecoderProcess.fresh desc probe) calls :=
  Machine.along_iff (fun _ process => DecoderSynchronised process.decoder)
    (fun _ _ _ hsync hstep => decoderSynchronised_step hsync hstep)
    (fun _ _ call hsync => endFrame_step hsync call) fun _ hsome => nomatch hsome

/-! ## A frame for which there is no memory -/

/-- A frame of two by two pixels comes out of the decoder, and the frame buffer cannot
grow. -/
def strandedEnv : EndFrameEnv where
  helper := { message := { decode := { receiveFrame := 0, host := planarHost } } }
  frameRealloc := false
  upload := { desc := ⟨true, 2, 2⟩ }

/-- The application submits one byte, and ends the frame. -/
def strandedFrameCalls : List DecoderCall :=
  [.getBuffer (some fun _ => 0) true 6, .submit [⟨6, 0, 1⟩], .beginFrame (some {}),
    .endFrame strandedEnv]

/-- The helper in a decoder session. -/
def decodingSide : HelperSide := .serving { decoder := { codec := some decoderContext } } []

/-- The reply for a frame of two by two pixels. -/
def strandedReply : HelperReply where
  magic := helperMagic
  type := helperReply
  status := 0
  payloadSize := 6
  width := 2
  height := 2

/-- The exchange of one byte: the helper has sent the frame, and only the header has been
read. -/
theorem strandedEnv_exchange :
    exchangePacket strandedEnv { helper := decodingSide }
        [([], (packetMessage 1).encode), ([], [0])] =
      { sent := (packetMessage 1).encode ++ [0]
        delivered := true
        produced := strandedReply.encode ++ [16, 17, 20, 21, 32, 48]
        header := ⟨.complete, strandedReply.encode, [16, 17, 20, 21, 32, 48]⟩
        helper := decodingSide } := rfl

/-- A decoder that has just submitted the first byte of its bitstream buffer, and has not
connected yet. -/
structure JustSubmitted (process : DecoderProcess) (capacity : UInt32) (rest : List UInt8) :
    Prop where
  bitstream_eq : process.decoder.buffers bitstreamBuffer =
    { data := some (0 :: rest), capacity, offset := 0, size := 1 }
  parameters_eq : process.decoder.buffers pictureParametersBuffer = {}
  frameCapacity_eq : process.decoder.frameCapacity = 0
  helper_eq : process.decoder.helper = none
  retryAfter_eq : process.decoder.retryAfter = 0
  probe_eq : process.probe = {}

/-- Such a decoder connects without trouble, and sends the byte. -/
theorem JustSubmitted.contextEndFrame_eq {process : DecoderProcess} {capacity : UInt32}
    {rest : List UInt8} (h : JustSubmitted process capacity rest)
    (readPic : List UInt8 → DxvaPicParams) {env : EndFrameEnv} (hconnect : env.connect = {}) :
    contextEndFrame readPic env process =
      let opened : DecoderProcess :=
        { process with
          decoder := { process.decoder with helper := some { helper := decodingSide } } }
      let exchange := exchangePacket env { helper := decodingSide }
        [(env.headerSend, (packetMessage 1).encode), (env.bitstreamSend, [0])]
      match exchange.reply? with
      | none =>
          (decoderDisconnect env.failureTick opened,
            { result := eFail
              sent := exchange.sent
              consumed := exchange.header.data
              produced := exchange.produced })
      | some reply => receiveFrame env opened exchange reply := by
  obtain ⟨⟨desc, buffers, output, frame, frameCapacity, upload, uploadCapacity, helper,
    retryAfter⟩, probe⟩ := process
  obtain ⟨hbitstream, hparameters, hcapacity, hhelper, hretry, hprobe⟩ := h
  simp only at hbitstream hparameters hcapacity hhelper hretry hprobe
  subst hcapacity hhelper hretry hprobe
  have hparts : ∀ decoder : BridgeDecoder, decoder.buffers = buffers →
      packetParts readPic env decoder (0 :: rest) =
        [(env.headerSend, (packetMessage 1).encode), (env.bitstreamSend, [0])] := by
    intro decoder hbuffers
    unfold packetParts
    rw [hbuffers, hbitstream, hparameters]
    rfl
  have hconnected : ∀ decoder : BridgeDecoder, decoder.helper = none → decoder.retryAfter = 0 →
      decoderConnect env.connect { decoder } =
        (some { helper := decodingSide },
          { decoder := { decoder with helper := some { helper := decodingSide } } }) := by
    intro decoder hhelper hretry
    rw [hconnect]
    unfold decoderConnect
    simp only [hhelper, hretry]
    rfl
  have hawake : ¬((0 : UInt64) ≠ 0 ∧ env.entryTick < 0) := fun h => h.1 rfl
  unfold contextEndFrame
  simp only [hbitstream]
  rw [if_neg (by decide), if_neg hawake, hconnected _ rfl rfl]
  simp only
  rw [hparts _ rfl]

/-- Such a decoder keeps the socket with the frame unread. -/
theorem JustSubmitted.strands {process : DecoderProcess} {capacity : UInt32} {rest : List UInt8}
    (h : JustSubmitted process capacity rest) (readPic : List UInt8 → DxvaPicParams) :
    (contextEndFrame readPic strandedEnv process).1.decoder.helper =
      some { helper := decodingSide, inbound := [16, 17, 20, 21, 32, 48] } := by
  obtain ⟨⟨desc, buffers, output, frame, frameCapacity, upload, uploadCapacity, helper,
    retryAfter⟩, probe⟩ := process
  have hcapacity := h.frameCapacity_eq
  simp only at hcapacity
  subst hcapacity
  rw [h.contextEndFrame_eq readPic rfl]
  simp only
  rw [show (strandedEnv.headerSend, (packetMessage 1).encode) = ([], (packetMessage 1).encode)
    from rfl, show (strandedEnv.bitstreamSend, [0]) = (([] : List SendResult), [(0 : UInt8)])
    from rfl, strandedEnv_exchange]
  rfl

/-- The three calls before the last one. -/
theorem justSubmitted_of_fresh (readPic : List UInt8 → DxvaPicParams) :
    ∃ capacity rest, JustSubmitted
      ((decoderCalls readPic).step ((decoderCalls readPic).step ((decoderCalls readPic).step
        (DecoderProcess.fresh ⟨2, 2⟩ {}) (.getBuffer (some fun _ => 0) true 6)).1
          (.submit [⟨6, 0, 1⟩])).1 (.beginFrame (some {}))).1 capacity rest := by
  obtain ⟨rest, hrest⟩ : ∃ rest, (List.range (capacities bitstreamBuffer).toNat).map
      (fun _ => (0 : UInt8)) = 0 :: rest := by
    obtain ⟨n, hn⟩ : ∃ n, (capacities bitstreamBuffer).toNat = n + 1 := ⟨16777215, rfl⟩
    rw [hn, List.range_succ_eq_map]
    exact ⟨_, rfl⟩
  have hvalid : (6 : UInt32).toNat < dxvaBufferCount := by decide
  have hoffset : (0 : UInt32) ≤ capacities bitstreamBuffer := by decide
  have hsmall : (1 : UInt32) ≤ capacities bitstreamBuffer - 0 := by decide
  let start : BridgeDecoder := { desc := ⟨2, 2⟩ }
  let got : BridgeDecoder := (contextGetBuffer (some fun _ => 0) true 6 start).2
  have hgot : got = { start with
      buffers := Function.update start.buffers bitstreamBuffer
        { data := some (0 :: rest), capacity := capacities bitstreamBuffer } } := by
    rw [← hrest]
    exact congrArg Prod.snd (@contextGetBuffer_new start 6 hvalid rfl fun _ => 0)
  have hsubmitted : (contextSubmit [⟨6, 0, 1⟩] got).2 = { start with
      buffers := Function.update (Function.update start.buffers bitstreamBuffer
        { data := some (0 :: rest), capacity := capacities bitstreamBuffer }) bitstreamBuffer
          { data := some (0 :: rest)
            capacity := capacities bitstreamBuffer
            offset := 0
            size := 1 } } := by
    rw [hgot]
    exact congrArg Prod.snd (@contextSubmit_single _ ⟨6, 0, 1⟩ hvalid (0 :: rest) rfl
      hoffset hsmall)
  refine ⟨capacities bitstreamBuffer, rest, ?_⟩
  show JustSubmitted { decoder := { (contextSubmit [⟨6, 0, 1⟩] got).2 with output := some {} } } _ _
  rw [hsubmitted]
  exact ⟨rfl, rfl, rfl, rfl, rfl, rfl⟩

/-- The next header of the decoder is a frame. -/
theorem stranded_frame_out_of_step :
    ¬(decoderCalls fun _ => default).Along
      (fun _ process call => EndFrameInStep (fun _ => default) process call) []
        (DecoderProcess.fresh ⟨2, 2⟩ {}) strandedFrameCalls := by
  unfold strandedFrameCalls
  simp only [Machine.along_cons]
  rintro ⟨-, -, -, hlast, -⟩
  obtain ⟨capacity, rest, hsubmitted⟩ := justSubmitted_of_fresh fun _ => default
  have hkept := hsubmitted.strands fun _ => default
  have hstep : ∀ process, EndFrameInStep (fun _ => default) process (.endFrame strandedEnv) →
      DecoderSynchronised (contextEndFrame (fun _ => default) strandedEnv process).1.decoder :=
    fun _ h => (h strandedEnv rfl).1
  exact absurd (hstep _ hlast _ hkept) (by decide)

end UuAmfBridge
