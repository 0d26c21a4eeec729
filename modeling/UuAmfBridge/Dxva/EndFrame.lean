import UuAmfBridge.Dxva.DecoderClient

/-!
# The parts of a call of `EndFrame`

`context_end_frame` looks at the bitstream and at its back-off, takes the lock of the
decoder, connects, and exchanges the packet for a frame.  `contextEndFrame_eq` takes the
call apart at these points.  Other calls may come between them, on other threads.

* `decoderConnect_keeps` and `endFrameExchange_keeps` say what the two long parts leave
  of a decoder: the first only changes the socket and the times of the back-off, and the
  second changes them only by closing the socket and backing off.
* `contextEndFrame_buffers` follows: the call has no effect on the buffers.
-/

namespace UuAmfBridge

/-- The decoder has a bitstream to send. -/
def BridgeDecoder.HasBitstream (decoder : BridgeDecoder) : Prop :=
  (decoder.buffers bitstreamBuffer).data ≠ none ∧ (decoder.buffers bitstreamBuffer).size ≠ 0

instance (decoder : BridgeDecoder) : Decidable decoder.HasBitstream :=
  inferInstanceAs (Decidable (_ ∧ _))

/-- The first checks of `context_end_frame`, at the time `now`. -/
def endFrameEnters (now : UInt64) (decoder : BridgeDecoder) : Prop :=
  decoder.HasBitstream ∧ ¬(decoder.retryAfter ≠ 0 ∧ now < decoder.retryAfter)

instance (now : UInt64) (decoder : BridgeDecoder) : Decidable (endFrameEnters now decoder) :=
  inferInstanceAs (Decidable (_ ∧ _))

/-- The part of `context_end_frame` behind `decoder_connect`.  The pointer to the
bitstream has been checked and is never reset. -/
def endFrameExchange (readPic : List UInt8 → DxvaPicParams) (env : EndFrameEnv)
    (process : DecoderProcess) (connection : Connection) : DecoderProcess × DecoderRecord :=
  let data := (process.decoder.buffers bitstreamBuffer).data.getD []
  let exchange := exchangePacket env connection (packetParts readPic env process.decoder data)
  match exchange.reply? with
  | none =>
      (decoderDisconnect env.failureTick process,
        { result := eFail
          sent := exchange.sent
          consumed := exchange.header.data
          produced := exchange.produced })
  | some reply => receiveFrame env process exchange reply

/-! ## What the parts keep -/

/-- `decoder_connect` only changes the socket and the times of the back-off, and leaves
the decoder with the socket that it returns. -/
theorem decoderConnect_keeps (env : DecoderConnectEnv) (process : DecoderProcess) :
    ∃ helper retryAfter probe, decoderConnect env process =
      (helper, { decoder := { process.decoder with helper, retryAfter }, probe }) := by
  obtain ⟨helper, retryAfter, probe, hconnect, -⟩ := decoderConnect_cases env process
  exact ⟨helper, retryAfter, probe, hconnect⟩

/-- A part of the call leaves the decoder with a socket and with other frame and upload
buffers, or it closes the socket and backs off at the time `now`. -/
def KeepsOrDisconnects (now : UInt64) (process next : DecoderProcess) : Prop :=
  ∃ frame frameCapacity upload uploadCapacity,
    let decoder : BridgeDecoder :=
      { process.decoder with frame, frameCapacity, upload, uploadCapacity }
    (∃ connection, next =
      { process with decoder := { decoder with helper := some connection } }) ∨
    next = decoderDisconnect now { process with decoder }

/-- The part behind an accepted header. -/
theorem receiveFrame_keeps (env : EndFrameEnv) (process : DecoderProcess)
    (exchange : FrameExchange) (reply : HelperReply) :
    KeepsOrDisconnects env.failureTick process (receiveFrame env process exchange reply).1 := by
  let frame := socketRecvAll env.frameRecv reply.payloadSize.toNat exchange.header.rest
  let stored := storeFrame process.decoder reply.payloadSize exchange.helper frame
  obtain ⟨upload, uploadCapacity, hupload⟩ :=
    uploadNv12_decoder env.upload stored stored.frame reply.width reply.height
  unfold receiveFrame
  simp only
  split_ifs
  · exact ⟨_, _, _, _, Or.inl ⟨_, rfl⟩⟩
  · exact ⟨_, _, _, _, Or.inr rfl⟩
  · exact ⟨_, _, _, _, Or.inl ⟨_, rfl⟩⟩
  · exact ⟨stored.frame, stored.frameCapacity, _, _, Or.inr rfl⟩
  · refine ⟨stored.frame, stored.frameCapacity, upload, uploadCapacity, Or.inr ?_⟩
    rw [hupload]
    rfl
  · refine ⟨stored.frame, stored.frameCapacity, upload, uploadCapacity,
      Or.inl ⟨{ helper := exchange.helper, inbound := frame.rest }, ?_⟩⟩
    rw [hupload]
    rfl

/-- The part behind `decoder_connect`. -/
theorem endFrameExchange_keeps (readPic : List UInt8 → DxvaPicParams) (env : EndFrameEnv)
    (process : DecoderProcess) (connection : Connection) :
    KeepsOrDisconnects env.failureTick process
      (endFrameExchange readPic env process connection).1 := by
  unfold endFrameExchange
  simp only
  split
  · exact ⟨_, _, _, _, Or.inr rfl⟩
  · exact receiveFrame_keeps env process _ _

/-! ## The whole call -/

/-- A call of `context_end_frame` by its parts. -/
theorem contextEndFrame_eq (readPic : List UInt8 → DxvaPicParams) (env : EndFrameEnv)
    (process : DecoderProcess) :
    contextEndFrame readPic env process =
      if endFrameEnters env.entryTick process.decoder then
        match decoderConnect env.connect process with
        | (none, process) => (process, { result := eFail })
        | (some connection, process) => endFrameExchange readPic env process connection
      else (process, { result := sOk }) := by
  unfold contextEndFrame
  simp only
  cases hdata : (process.decoder.buffers bitstreamBuffer).data with
  | none =>
    have hstays : ¬endFrameEnters env.entryTick process.decoder := fun h => h.1.1 hdata
    rw [if_neg hstays]
  | some data =>
    have hloaded : (process.decoder.buffers bitstreamBuffer).data ≠ none := by
      rw [hdata]
      exact Option.some_ne_none data
    simp only
    by_cases hsize : (process.decoder.buffers bitstreamBuffer).size = 0
    · have hstays : ¬endFrameEnters env.entryTick process.decoder := fun h => h.1.2 hsize
      rw [if_pos hsize, if_neg hstays]
    rw [if_neg hsize]
    by_cases hwait : process.decoder.retryAfter ≠ 0 ∧ env.entryTick < process.decoder.retryAfter
    · have hstays : ¬endFrameEnters env.entryTick process.decoder := fun h => h.2 hwait
      rw [if_pos hwait, if_neg hstays]
    have henters : endFrameEnters env.entryTick process.decoder := ⟨⟨hloaded, hsize⟩, hwait⟩
    rw [if_neg hwait, if_pos henters]
    obtain ⟨helper, retryAfter, probe, hconnect⟩ := decoderConnect_keeps env.connect process
    rw [hconnect]
    cases helper with
    | none => rfl
    | some connection =>
      obtain rfl : (process.decoder.buffers bitstreamBuffer).data.getD [] = data := by
        simp [hdata]
      rfl

/-- A call of `EndFrame` keeps the buffers. -/
theorem contextEndFrame_buffers (readPic : List UInt8 → DxvaPicParams) (env : EndFrameEnv)
    (process : DecoderProcess) :
    (contextEndFrame readPic env process).1.decoder.buffers = process.decoder.buffers := by
  rw [contextEndFrame_eq]
  by_cases henters : endFrameEnters env.entryTick process.decoder
  · rw [if_pos henters]
    obtain ⟨helper, retryAfter, probe, hconnect⟩ := decoderConnect_keeps env.connect process
    rw [hconnect]
    cases helper with
    | none => rfl
    | some connection =>
      obtain ⟨_, _, _, _, ⟨_, hnext⟩ | hnext⟩ := endFrameExchange_keeps readPic env
        { decoder := { process.decoder with helper := some connection, retryAfter }, probe }
        connection
      · simp only [hnext]
      · simp only [hnext]
        rfl
  · rw [if_neg henters]

end UuAmfBridge
