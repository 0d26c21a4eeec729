import UuAmfBridge.Helper.Codec
import UuAmfBridge.Lib.ByteStream

/-!
# A session of the helper

`handle_client` of `src/amf_helper.c`: the handshake, then one reply for each
message until the client sends something else, a call fails, or the stream
ends.  `serveMessage` is the body of the loop, from the header it receives to
the reply it sends; `handleClient` runs the handshake and the loop over the
bytes a client sends.

The events of a session are what it does to the outside: the bytes it writes
and the codec calls it makes.  A call on a null context faults in FFmpeg and
takes the process down, so nothing follows it (`untilFault`).
-/

namespace UuAmfBridge

/-- What a session does to the outside. -/
inductive HelperEvent where
  | sent (bytes : List UInt8)
  | av (call : AvCall)

/-- The bytes among the events. -/
def HelperEvent.bytes : HelperEvent → List UInt8
  | .sent bytes => bytes
  | .av _ => []

/-- The bytes a session writes, in order. -/
def sentBytes (events : List HelperEvent) : List UInt8 := events.flatMap HelperEvent.bytes

/-- `recv_all` and `send_all` of the helper call again after `EINTR`. -/
def helperRecv : RecvStyle := ⟨2 ^ 63 - 1, true, by decide⟩

def recvAll (calls : List RecvResult) (size : Nat) (stream : List UInt8) :
    RecvOutcome UInt8 := recvLoop helperRecv calls size stream

def sendAll (calls : List SendResult) (data : List UInt8) : SendOutcome UInt8 :=
  sendLoop true calls data

/-- The locals of `handle_client` that live as long as the session. -/
structure HelperSession where
  encoder : EncoderState := {}
  decoder : DecoderState := {}

/-- What happens while one message is served. -/
structure MessageEnv where
  headerRecv : List RecvResult := []
  frameMalloc : Bool := true
  payloadRecv : List RecvResult := []
  encode : EncodeEnv := {}
  decode : DecodeEnv := {}
  replySend : List SendResult := []
  payloadSend : List SendResult := []

/-- The largest payload a message may announce. -/
def maxPayload : UInt32 := 128 * 1024 * 1024

/-- The header checks of the message loop. -/
def headerAccepted (message : HelperFrameMessage) : Bool :=
  message.magic == helperMagic &&
    (message.type == helperFrame || message.type == helperDecodePacket) &&
    message.payloadSize ≤ maxPayload

/-- What the encoder or the decoder answers to one message, with the session it
leaves, unless it aborts. -/
structure Answer where
  session : HelperSession
  result : Int32
  packetData : List UInt8
  packetSize : UInt32
  width : UInt32 := 0
  height : UInt32 := 0
  calls : List AvCall
  aborts : Bool := false

/-- The dispatch of the message loop, on the type of the message. -/
def answerMessage (env : MessageEnv) (session : HelperSession)
    (message : HelperFrameMessage) (payload : List UInt8) : Answer :=
  if message.type = helperFrame then
    let frame := encoderFrame env.encode session.encoder payload message
    { session := { session with encoder := frame.state }
      result := frame.result
      packetData := frame.packetData
      packetSize := frame.packetSize
      calls := frame.calls
      aborts := frame.aborts }
  else
    let frame := decoderPacket env.decode session.decoder payload
    { session
      result := frame.result
      packetData := frame.frameData
      packetSize := frame.frameSize
      width := frame.width
      height := frame.height
      calls := frame.calls }

/-- The reply header for an answer. -/
def Answer.reply (answer : Answer) : HelperReply where
  magic := helperMagic
  type := helperReply
  status := if answer.result < 0 then (-answer.result).toUInt32 else 0
  payloadSize := answer.packetSize
  width := answer.width
  height := answer.height

/-- The bytes that follow the reply header. -/
def Answer.payload (answer : Answer) : List UInt8 :=
  answer.packetData.take answer.packetSize.toNat

/-- A codec call on a null context faults. -/
def AvCall.faults (call : AvCall) : Bool := call.codec.isNone

/-- The calls up to the first one that faults, which is the last the process
makes. -/
def untilFault : List AvCall → List AvCall
  | [] => []
  | call :: calls => if call.faults then [call] else call :: untilFault calls

/-- The end of one turn of the message loop: what it did, and where it goes on. -/
structure Turn where
  events : List HelperEvent
  next : Option (HelperSession × List UInt8)

/-- The receiving half of the message loop: the header and its checks, the
buffer, and the payload. -/
def receiveMessage (env : MessageEnv) (stream : List UInt8) :
    Option (HelperFrameMessage × List UInt8 × List UInt8) :=
  let header := recvAll env.headerRecv HelperFrameMessage.size stream
  let message := HelperFrameMessage.decode header.data
  if header.status ≠ .complete then none
  else if !headerAccepted message then none
  else if !env.frameMalloc then none
  else
    let payload := recvAll env.payloadRecv message.payloadSize.toNat header.rest
    if payload.status ≠ .complete then none
    else some (message, payload.data, payload.rest)

/-- The answering half of the message loop: the codec calls, and unless one of
them faults or memory is freed twice the reply. -/
def replyMessage (env : MessageEnv) (answer : Answer) (rest : List UInt8) : Turn :=
  let calls := (untilFault answer.calls).map HelperEvent.av
  if answer.calls.any AvCall.faults || answer.aborts then ⟨calls, none⟩
  else
    let head := sendAll env.replySend answer.reply.encode
    if !head.complete then ⟨calls ++ [.sent head.sent], none⟩
    else if answer.packetSize ≠ 0 then
      let body := sendAll env.payloadSend answer.payload
      ⟨calls ++ [.sent head.sent, .sent body.sent],
        if body.complete then some (answer.session, rest) else none⟩
    else ⟨calls ++ [.sent head.sent], some (answer.session, rest)⟩

/-- One turn of the message loop of `handle_client`. -/
def serveMessage (env : MessageEnv) (session : HelperSession) (stream : List UInt8) :
    Turn :=
  match receiveMessage env stream with
  | none => ⟨[], none⟩
  | some (message, payload, rest) =>
      replyMessage env (answerMessage env session message payload) rest

/-- The message loop of `handle_client`.  Past the end of the environment the
client stays silent until the receive timeout. -/
def serveMessages : List MessageEnv → HelperSession → List UInt8 → List HelperEvent
  | [], _, _ => []
  | env :: envs, session, stream =>
      let turn := serveMessage env session stream
      match turn.next with
      | none => turn.events
      | some (session, rest) => turn.events ++ serveMessages envs session rest

/-- What happens during the handshake. -/
structure HandshakeEnv where
  initRecv : List RecvResult := []
  encoder : EncoderInitEnv := {}
  decoder : DecoderInitEnv := {}
  replySend : List SendResult := []

/-- The checks of `handle_client` on the first message, for a helper compiled
with protocol `version`. -/
def initAccepted (version : UInt32) (message : HelperInitMessage) : Bool :=
  message.magic == helperMagic && message.reserved == version &&
    (message.type == helperInit || message.type == helperDecoderInit)

/-- The codec `handle_client` opens for the first message. -/
def openSession (env : HandshakeEnv) (message : HelperInitMessage) :
    Bool × HelperSession :=
  if message.type = helperInit then
    let opened := encoderInit env.encoder message
    (opened.1 == 0, { encoder := opened.2 })
  else
    let opened := decoderInit env.decoder
    (opened.1 == 0, { decoder := opened.2 })

/-- The handshake of `handle_client`. -/
def handshake (version : UInt32) (env : HandshakeEnv) (stream : List UInt8) : Turn :=
  let init := recvAll env.initRecv HelperInitMessage.size stream
  if init.status ≠ .complete then ⟨[], none⟩
  else
    let message := HelperInitMessage.decode init.data
    if !initAccepted version message then ⟨[], none⟩
    else
      let (enabled, session) := openSession env message
      let reply : HelperInitReply :=
        { enabled := if enabled then 1 else 0, protocolVersion := version }
      let head := sendAll env.replySend reply.encode
      if !head.complete || !enabled then ⟨[.sent head.sent], none⟩
      else ⟨[.sent head.sent], some (session, init.rest)⟩

/-- `handle_client`: the events of one session over the bytes the client sends. -/
def handleClient (version : UInt32) (start : HandshakeEnv) (envs : List MessageEnv)
    (stream : List UInt8) : List HelperEvent :=
  let turn := handshake version start stream
  match turn.next with
  | none => turn.events
  | some (session, rest) => turn.events ++ serveMessages envs session rest

/-! ## What a turn reads -/

/-- A message that arrives undisturbed is received, however it is split. -/
theorem receiveMessage_eq {env : MessageEnv} {message : HelperFrameMessage}
    {payload rest : List UInt8}
    (hheader : ∀ call ∈ env.headerRecv, call.Undisturbed helperRecv)
    (hpayload : ∀ call ∈ env.payloadRecv, call.Undisturbed helperRecv)
    (haccept : headerAccepted message = true) (hmalloc : env.frameMalloc = true)
    (hlength : payload.length = message.payloadSize.toNat) :
    receiveMessage env (message.encode ++ (payload ++ rest)) = some (message, payload, rest) := by
  have hhead : recvAll env.headerRecv HelperFrameMessage.size
      (message.encode ++ (payload ++ rest)) = ⟨.complete, message.encode, payload ++ rest⟩ := by
    have hsize := HelperFrameMessage.encode_length message
    unfold recvAll
    rw [recvLoop_eq_of_undisturbed hheader (by rw [List.length_append]; omega),
      List.take_left' hsize, List.drop_left' hsize]
  have hbody : recvAll env.payloadRecv message.payloadSize.toNat (payload ++ rest) =
      ⟨.complete, payload, rest⟩ := by
    unfold recvAll
    rw [recvLoop_eq_of_undisturbed hpayload (by rw [List.length_append]; omega),
      List.take_left' hlength, List.drop_left' hlength]
  unfold receiveMessage
  simp only [hhead, HelperFrameMessage.decode_encode, haccept, hmalloc, hbody]
  rfl

/-- A message that is all there is received as it is, unless something fails. -/
theorem receiveMessage_cases (env : MessageEnv) {message : HelperFrameMessage}
    {payload : List UInt8} (hlength : payload.length = message.payloadSize.toNat) :
    receiveMessage env (message.encode ++ payload) = none ∨
      receiveMessage env (message.encode ++ payload) = some (message, payload, []) := by
  have hsize := HelperFrameMessage.encode_length message
  unfold receiveMessage
  by_cases hstatus : (recvAll env.headerRecv HelperFrameMessage.size
      (message.encode ++ payload)).status = .complete
  · have hhead : recvAll env.headerRecv HelperFrameMessage.size (message.encode ++ payload) =
        ⟨.complete, message.encode, payload⟩ := by
      unfold recvAll at hstatus ⊢
      rw [recvLoop_eq_of_complete hstatus, List.take_left' hsize, List.drop_left' hsize]
    simp only [hhead, HelperFrameMessage.decode_encode]
    rw [if_neg (not_not.mpr rfl)]
    split_ifs with haccept hmalloc hpayload
    · exact Or.inl rfl
    · exact Or.inl rfl
    · exact Or.inl rfl
    · have hbody : recvAll env.payloadRecv message.payloadSize.toNat payload =
          ⟨.complete, payload, []⟩ := by
        have hcomplete := not_not.mp hpayload
        unfold recvAll at hcomplete ⊢
        rw [recvLoop_eq_of_complete hcomplete, ← hlength, List.take_length, List.drop_length]
      rw [hbody]
      exact Or.inr rfl
  · simp only
    rw [if_pos hstatus]
    exact Or.inl rfl

/-- The handshake reads its message and nothing behind it. -/
theorem handshake_next_rest {version : UInt32} {env : HandshakeEnv} {stream rest : List UInt8}
    {session : HelperSession} (h : (handshake version env stream).next = some (session, rest)) :
    rest = stream.drop HelperInitMessage.size := by
  unfold handshake at h
  simp only at h
  by_cases hstatus : (recvAll env.initRecv HelperInitMessage.size stream).status = .complete
  · have hrest : (recvAll env.initRecv HelperInitMessage.size stream).rest =
        stream.drop HelperInitMessage.size := by
      unfold recvAll at hstatus ⊢
      rw [recvLoop_eq_of_complete hstatus]
    rw [if_neg (not_not.mpr hstatus), hrest] at h
    split_ifs at h
    all_goals
      obtain ⟨-, rfl⟩ := Prod.mk.inj (Option.some.inj h)
      rfl
  · rw [if_pos hstatus] at h
    cases h

/-! ## What a turn writes -/

@[simp] theorem sentBytes_append (first later : List HelperEvent) :
    sentBytes (first ++ later) = sentBytes first ++ sentBytes later := by
  simp [sentBytes]

@[simp] theorem sentBytes_map_av (calls : List AvCall) :
    sentBytes (calls.map HelperEvent.av) = [] := by
  induction calls with
  | nil => rfl
  | cons call calls ih => exact ih

@[simp] theorem sentBytes_sent (bytes : List UInt8) (events : List HelperEvent) :
    sentBytes (.sent bytes :: events) = bytes ++ sentBytes events := rfl

@[simp] theorem sentBytes_nil : sentBytes [] = [] := rfl

/-- The payload of an answer is as long as its reply says. -/
theorem answerMessage_payload_length (env : MessageEnv) (session : HelperSession)
    (message : HelperFrameMessage) (payload : List UInt8) :
    (answerMessage env session message payload).payload.length =
      (answerMessage env session message payload).packetSize.toNat := by
  have hle : (answerMessage env session message payload).packetSize.toNat ≤
      (answerMessage env session message payload).packetData.length := by
    unfold answerMessage
    split_ifs
    · exact encoderFrame_packetSize_le _ _ _ _
    · exact decoderPacket_frameSize_le _ _ _
  unfold Answer.payload
  rw [List.length_take]
  omega

/-- The payload of the answer to a frame is what the packet loop has collected, up
to the size that fits into the reply. -/
theorem answerMessage_frame_payload {env : MessageEnv} {session : HelperSession}
    {message : HelperFrameMessage} {payload : List UInt8} (htype : message.type = helperFrame)
    (h : ¬(answerMessage env session message payload).result < 0) :
    let loop := receivePackets session.encoder.codec env.encode.receive none
    ¬loop.result < 0 ∧ (answerMessage env session message payload).payload =
      loop.output.take (UInt32.ofNat loop.output.length).toNat := by
  intro loop
  unfold answerMessage at h ⊢
  rw [if_pos htype] at h ⊢
  obtain ⟨hloop, hdata, hsize⟩ := encoderFrame_packetData_eq h
  refine ⟨hloop, ?_⟩
  show (encoderFrame env.encode session.encoder payload message).packetData.take
    (encoderFrame env.encode session.encoder payload message).packetSize.toNat = _
  rw [hdata, hsize]

/-- A reply as the helper writes it: with a payload only when it reports
success. -/
structure HelperReply.WellFormed (reply : HelperReply) : Prop where
  magic_eq : reply.magic = helperMagic
  type_eq : reply.type = UuAmfBridge.helperReply
  status_eq : reply.status ≠ 0 → reply.payloadSize = 0

/-- The reply to a message is well formed. -/
theorem answerMessage_reply_wellFormed (env : MessageEnv) (session : HelperSession)
    (message : HelperFrameMessage) (payload : List UInt8) :
    (answerMessage env session message payload).reply.WellFormed := by
  refine ⟨rfl, rfl, ?_⟩
  intro hstatus
  have hfail : (answerMessage env session message payload).result < 0 := by
    by_contra hresult
    exact hstatus (if_neg hresult)
  show (answerMessage env session message payload).packetSize = 0
  unfold answerMessage at hfail ⊢
  split_ifs at hfail ⊢
  · exact encoderFrame_packetSize_eq_zero hfail
  · exact decoderPacket_frameSize_eq_zero hfail

/-- A turn that answers writes less than a reply header, or the whole header and
a beginning of the payload; it goes on only when it has written everything. -/
theorem replyMessage_sentBytes (env : MessageEnv) (answer : Answer) (rest : List UInt8)
    (hlength : answer.payload.length = answer.packetSize.toNat) :
    (sentBytes (replyMessage env answer rest).events).length < HelperReply.size ∧
        (replyMessage env answer rest).next = none ∨
      ∃ body, sentBytes (replyMessage env answer rest).events = answer.reply.encode ++ body ∧
        body <+: answer.payload ∧
          ((replyMessage env answer rest).next ≠ none → body = answer.payload) := by
  have hsize : 0 < HelperReply.size := by decide
  have hsent : (sendAll env.replySend answer.reply.encode).complete = true →
      (sendAll env.replySend answer.reply.encode).sent = answer.reply.encode :=
    sendLoop_sent_of_complete
  unfold replyMessage
  simp only
  split_ifs with hfault hhead hbody hdone
  · left
    refine ⟨?_, rfl⟩
    simpa using hsize
  · left
    refine ⟨?_, rfl⟩
    have hshort := (sendLoop_sent_begins true env.replySend answer.reply.encode).2
      (by simpa [sendAll] using hhead)
    simpa [sendAll] using hshort
  · right
    refine ⟨(sendAll env.payloadSend answer.payload).sent, ?_, ?_, ?_⟩
    · rw [sentBytes_append, sentBytes_map_av, sentBytes_sent, sentBytes_sent, sentBytes_nil,
        hsent (by simpa using hhead), List.append_nil, List.nil_append]
    · exact (sendLoop_sent_begins true env.payloadSend answer.payload).1
    · exact fun _ => sendLoop_sent_of_complete hdone
  · right
    refine ⟨(sendAll env.payloadSend answer.payload).sent, ?_, ?_, ?_⟩
    · rw [sentBytes_append, sentBytes_map_av, sentBytes_sent, sentBytes_sent, sentBytes_nil,
        hsent (by simpa using hhead), List.append_nil, List.nil_append]
    · exact (sendLoop_sent_begins true env.payloadSend answer.payload).1
    · exact fun hnext => absurd rfl hnext
  · right
    have hempty : answer.payload = [] := by
      rw [← List.length_eq_zero_iff, hlength, not_not.mp hbody]
      rfl
    refine ⟨[], ?_, List.nil_prefix, fun _ => hempty.symm⟩
    rw [sentBytes_append, sentBytes_map_av, sentBytes_sent, sentBytes_nil,
      hsent (by simpa using hhead), List.nil_append]

/-- An answer that neither faults nor aborts and is sent undisturbed is written
completely. -/
theorem replyMessage_eq {env : MessageEnv} {answer : Answer} (rest : List UInt8)
    (hreply : ∀ call ∈ env.replySend, call.Undisturbed true)
    (hpayload : ∀ call ∈ env.payloadSend, call.Undisturbed true)
    (hfault : answer.calls.any AvCall.faults = false) (hreturns : answer.aborts = false)
    (hlength : answer.payload.length = answer.packetSize.toNat) :
    sentBytes (replyMessage env answer rest).events = answer.reply.encode ++ answer.payload ∧
      (replyMessage env answer rest).next = some (answer.session, rest) := by
  have hhead : sendAll env.replySend answer.reply.encode = ⟨true, answer.reply.encode⟩ :=
    sendLoop_eq_of_undisturbed hreply
  have hbody : sendAll env.payloadSend answer.payload = ⟨true, answer.payload⟩ :=
    sendLoop_eq_of_undisturbed hpayload
  unfold replyMessage
  simp only [hfault, hreturns, Bool.or_false, hhead, hbody, Bool.false_eq_true, if_false,
    Bool.not_true, if_true]
  by_cases hsize : answer.packetSize = 0
  · have hempty : answer.payload = [] := by
      rw [← List.length_eq_zero_iff, hlength, hsize]
      rfl
    rw [if_neg (not_not.mpr hsize), hempty]
    refine ⟨?_, rfl⟩
    rw [sentBytes_append, sentBytes_map_av, sentBytes_sent, sentBytes_nil, List.nil_append]
  · rw [if_pos hsize]
    refine ⟨?_, rfl⟩
    rw [sentBytes_append, sentBytes_map_av, sentBytes_sent, sentBytes_sent, sentBytes_nil,
      List.append_nil, List.nil_append]

/-- A failed answer has a status other than zero. -/
theorem reply_status_ne_zero {answer : Answer} (h : answer.result < 0) :
    answer.reply.status ≠ 0 := by
  intro hzero
  rw [Answer.reply] at hzero
  simp only [if_pos h] at hzero
  have hneg : -answer.result = -0 := by
    rw [← Int32.toInt32_toUInt32 (-answer.result), hzero]
    rfl
  rw [Int32.neg_inj.mp hneg] at h
  exact absurd h (by decide)

/-- A turn goes on only with the session of its answer. -/
theorem replyMessage_next {env : MessageEnv} {answer : Answer} {rest rest' : List UInt8}
    {session : HelperSession}
    (h : (replyMessage env answer rest).next = some (session, rest')) :
    session = answer.session ∧ rest' = rest := by
  rw [replyMessage] at h
  simp only at h
  split_ifs at h
  all_goals
    obtain ⟨rfl, rfl⟩ := Prod.mk.inj (Option.some.inj h)
    exact ⟨rfl, rfl⟩

/-- A turn writes less than a reply header, or one reply with a beginning of the
payload it announces; it goes on only when it has written the whole reply. -/
theorem serveMessage_sentBytes (env : MessageEnv) (session : HelperSession)
    (stream : List UInt8) :
    (sentBytes (serveMessage env session stream).events).length < HelperReply.size ∧
        (serveMessage env session stream).next = none ∨
      ∃ reply : HelperReply, ∃ body : List UInt8, reply.WellFormed ∧
        sentBytes (serveMessage env session stream).events = reply.encode ++ body ∧
          body.length ≤ reply.payloadSize.toNat ∧
            ((serveMessage env session stream).next ≠ none →
              body.length = reply.payloadSize.toNat) := by
  unfold serveMessage
  cases receiveMessage env stream with
  | none => exact Or.inl ⟨Nat.succ_pos _, rfl⟩
  | some received =>
    obtain ⟨message, payload, rest⟩ := received
    have hlength := answerMessage_payload_length env session message payload
    rcases replyMessage_sentBytes env _ rest hlength with hshort | ⟨body, hsent, hbegins, hdone⟩
    · exact Or.inl hshort
    · right
      refine ⟨_, body, answerMessage_reply_wellFormed _ _ _ _, hsent, ?_, ?_⟩
      · exact le_trans hbegins.length_le hlength.le
      · exact fun hnext => by rw [hdone hnext]; exact hlength

/-- A turn that writes undisturbed and writes anything goes on. -/
theorem serveMessage_next_of_undisturbed {env : MessageEnv} {session : HelperSession}
    {stream : List UInt8} (hreply : ∀ call ∈ env.replySend, call.Undisturbed true)
    (hpayload : ∀ call ∈ env.payloadSend, call.Undisturbed true)
    (hwrites : sentBytes (serveMessage env session stream).events ≠ []) :
    (serveMessage env session stream).next ≠ none := by
  unfold serveMessage at hwrites ⊢
  cases hreceive : receiveMessage env stream with
  | none =>
    rw [hreceive] at hwrites
    exact absurd rfl hwrites
  | some received =>
    obtain ⟨message, payload, rest⟩ := received
    rw [hreceive] at hwrites
    simp only at hwrites ⊢
    have hlength := answerMessage_payload_length env session message payload
    by_cases hdies : ((answerMessage env session message payload).calls.any AvCall.faults ||
        (answerMessage env session message payload).aborts) = true
    · unfold replyMessage at hwrites
      simp only [hdies, if_true, sentBytes_map_av] at hwrites
      exact absurd rfl hwrites
    · obtain ⟨hfault, hreturns⟩ := Bool.or_eq_false_iff.mp (Bool.eq_false_of_not_eq_true hdies)
      rw [(replyMessage_eq rest hreply hpayload hfault hreturns hlength).2]
      exact nofun

/-- The handshake writes at most its reply. -/
theorem handshake_sentBytes_length_le (version : UInt32) (env : HandshakeEnv)
    (stream : List UInt8) :
    (sentBytes (handshake version env stream).events).length ≤ HelperInitReply.size := by
  unfold handshake
  simp only
  split_ifs with hrecv haccept hfail
  · exact Nat.zero_le _
  · exact Nat.zero_le _
  all_goals
    rw [sentBytes_sent, sentBytes_nil, List.append_nil]
    exact le_trans (sendLoop_sent_begins _ _ _).1.length_le (by rw [HelperInitReply.encode_length])

/-! ## What the parts of a session keep -/

/-- A session has at most one of the two codecs, and an open one. -/
inductive HelperSession.Opened : HelperSession → Prop
  | encoder {session : HelperSession} {codec : AVCodecContext}
      (hcodec : session.encoder.codec = some codec) (hopened : codec.opened = true)
      (hdecoder : session.decoder.codec = none) : Opened session
  | decoder {session : HelperSession} {codec : AVCodecContext}
      (hcodec : session.decoder.codec = some codec) (hopened : codec.opened = true)
      (hencoder : session.encoder.codec = none) : Opened session

/-- `encoder_init` reports success exactly when it leaves an open encoder. -/
theorem encoderInit_cases (env : EncoderInitEnv) (message : HelperInitMessage) :
    (encoderInit env message).1 = 0 ∧
        (encoderInit env message).2.codec = some (encoderContext message) ∧
        (encoderInit env message).2.width = message.width ∧
        (encoderInit env message).2.height = message.height ∨
      (encoderInit env message).1 < 0 ∧ (encoderInit env message).2.codec = none := by
  rw [encoderInit]
  split_ifs with hfind hdevice halloc hinit hcontext hopen
  · exact Or.inr ⟨by decide, rfl⟩
  · exact Or.inr ⟨hdevice, rfl⟩
  · exact Or.inr ⟨by decide, rfl⟩
  · exact Or.inr ⟨hinit, rfl⟩
  · exact Or.inr ⟨by decide, rfl⟩
  · exact Or.inr ⟨hopen, rfl⟩
  · exact Or.inl ⟨rfl, rfl, rfl, rfl⟩

/-- `decoder_init` reports success exactly when it leaves an open decoder. -/
theorem decoderInit_cases (env : DecoderInitEnv) :
    (decoderInit env).1 = 0 ∧ (decoderInit env).2.codec = some decoderContext ∨
      (decoderInit env).1 < 0 ∧ (decoderInit env).2.codec = none := by
  rw [decoderInit]
  split_ifs with hfind hdevice hcontext hopen
  · exact Or.inr ⟨by decide, rfl⟩
  · exact Or.inr ⟨hdevice, rfl⟩
  · exact Or.inr ⟨by decide, rfl⟩
  · exact Or.inr ⟨hopen, rfl⟩
  · exact Or.inl ⟨rfl, rfl⟩

/-- The codec an enabled session has opened is the one its first message asks
for. -/
theorem openSession_opened {env : HandshakeEnv} {message : HelperInitMessage}
    (h : (openSession env message).1 = true) :
    (openSession env message).2.Opened ∧
      ((openSession env message).2.encoder.codec.isSome ↔ message.type = helperInit) := by
  rw [openSession] at h ⊢
  split_ifs at h ⊢ with htype
  · simp only [beq_iff_eq] at h ⊢
    rcases encoderInit_cases env.encoder message with ⟨-, hcodec, -, -⟩ | ⟨hneg, -⟩
    · exact ⟨.encoder hcodec rfl rfl, by simp [hcodec, htype]⟩
    · exact absurd (h ▸ hneg) (by decide)
  · simp only [beq_iff_eq] at h ⊢
    rcases decoderInit_cases env.decoder with ⟨-, hcodec⟩ | ⟨hneg, -⟩
    · exact ⟨.decoder hcodec rfl rfl, by simp [htype]⟩
    · exact absurd (h ▸ hneg) (by decide)

/-- Answering a message keeps both codec contexts. -/
theorem answerMessage_session (env : MessageEnv) (session : HelperSession)
    (message : HelperFrameMessage) (payload : List UInt8) :
    (answerMessage env session message payload).session.encoder.codec =
        session.encoder.codec ∧
      (answerMessage env session message payload).session.decoder = session.decoder := by
  rw [answerMessage]
  split_ifs
  · exact ⟨(encoderFrame_state _ _ _ _).1, rfl⟩
  · exact ⟨rfl, rfl⟩

/-- Answering a message keeps the session open on the same codec. -/
theorem answerMessage_opened {env : MessageEnv} {session : HelperSession}
    {message : HelperFrameMessage} {payload : List UInt8} (h : session.Opened) :
    (answerMessage env session message payload).session.Opened := by
  obtain ⟨hencoder, hdecoder⟩ := answerMessage_session env session message payload
  cases h with
  | encoder hcodec hopened hnone =>
    exact .encoder (by rw [hencoder, hcodec]) hopened (by rw [hdecoder, hnone])
  | decoder hcodec hopened hnone =>
    exact .decoder (by rw [hdecoder, hcodec]) hopened (by rw [hencoder, hnone])

end UuAmfBridge
