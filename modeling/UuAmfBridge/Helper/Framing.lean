import UuAmfBridge.Helper.CodecSafety
import UuAmfBridge.Lib.FixedWidth

/-!
# The replies of the helper as a stream

What `handle_client` of `src/amf_helper.c` writes when nothing disturbs the
transfers: the stream may be split in any way, but no call fails while bytes are
there.  `completeMessages` reads the messages off the concatenated bytes, up to
the first one that is malformed or cut off.

* `receiveMessage_eq_nextMessage`: the receiving half of the loop reads the same,
  however the stream is split.
* `serveMessages_sentBytes`: the loop writes one reply with its payload for each
  of the messages.
* `reply_stream_framed`: the whole session, which depends only on the bytes and on
  what the codec answers.
-/

namespace UuAmfBridge

/-! ## The messages of a stream -/

/-- The message at the front of a stream with its payload, and the bytes behind
it; nothing when it is cut off or its header is refused. -/
def nextMessage (stream : List UInt8) :
    Option (HelperFrameMessage × List UInt8 × List UInt8) :=
  let message := HelperFrameMessage.decode (stream.take HelperFrameMessage.size)
  let body := stream.drop HelperFrameMessage.size
  if stream.length < HelperFrameMessage.size then none
  else if !headerAccepted message then none
  else if body.length < message.payloadSize.toNat then none
  else some (message, body.take message.payloadSize.toNat, body.drop message.payloadSize.toNat)

theorem nextMessage_rest_length {stream payload rest : List UInt8} {message : HelperFrameMessage}
    (h : nextMessage stream = some (message, payload, rest)) : rest.length < stream.length := by
  have hsize : 0 < HelperFrameMessage.size := by decide
  unfold nextMessage at h
  simp only at h
  split_ifs at h with hlength haccept hbody
  obtain ⟨rfl, hrest⟩ := Prod.mk.inj (Option.some.inj h)
  obtain ⟨-, rfl⟩ := Prod.mk.inj hrest
  rw [List.length_drop, List.length_drop]
  omega

/-- The complete messages of a stream, up to the first one that is malformed or
cut off. -/
def completeMessages (stream : List UInt8) : List (HelperFrameMessage × List UInt8) :=
  match h : nextMessage stream with
  | none => []
  | some (message, payload, rest) =>
      have : rest.length < stream.length := nextMessage_rest_length h
      (message, payload) :: completeMessages rest
termination_by stream.length

theorem completeMessages_of_none {stream : List UInt8} (h : nextMessage stream = none) :
    completeMessages stream = [] := by
  unfold completeMessages
  split
  · rfl
  · rename_i hsome
    rw [h] at hsome
    cases hsome

theorem completeMessages_of_some {stream payload rest : List UInt8} {message : HelperFrameMessage}
    (h : nextMessage stream = some (message, payload, rest)) :
    completeMessages stream = (message, payload) :: completeMessages rest := by
  rw [completeMessages]
  split
  · rename_i hnone
    rw [h] at hnone
    cases hnone
  · rename_i hsome
    rw [h] at hsome
    obtain ⟨rfl, hrest⟩ := Prod.mk.inj (Option.some.inj hsome)
    obtain ⟨rfl, rfl⟩ := Prod.mk.inj hrest
    rfl

/-! ## Transfers without failures -/

/-- The buffer for a message is allocated, its bytes arrive in any pieces, and the
reply is sent in any pieces. -/
structure MessageEnv.Undisturbed (env : MessageEnv) : Prop where
  header : ∀ call ∈ env.headerRecv, call.Undisturbed helperRecv
  malloc : env.frameMalloc = true
  payload : ∀ call ∈ env.payloadRecv, call.Undisturbed helperRecv
  replySent : ∀ call ∈ env.replySend, call.Undisturbed true
  payloadSent : ∀ call ∈ env.payloadSend, call.Undisturbed true

/-- The first message arrives in any pieces, and its reply is sent in any pieces. -/
structure HandshakeEnv.Undisturbed (env : HandshakeEnv) : Prop where
  init : ∀ call ∈ env.initRecv, call.Undisturbed helperRecv
  replySent : ∀ call ∈ env.replySend, call.Undisturbed true

/-- An undisturbed read completes exactly when enough bytes are there. -/
theorem recvAll_complete_iff {calls : List RecvResult} {size : Nat} {stream : List UInt8}
    (hcalls : ∀ call ∈ calls, call.Undisturbed helperRecv) :
    (recvAll calls size stream).status = .complete ↔ size ≤ stream.length := by
  constructor
  · exact le_length_of_recvLoop_complete
  · intro hlength
    unfold recvAll
    rw [recvLoop_eq_of_undisturbed hcalls hlength]

/-- The receiving half of the message loop reads the message at the front of the
stream, however the stream is split. -/
theorem receiveMessage_eq_nextMessage {env : MessageEnv} (h : env.Undisturbed)
    (stream : List UInt8) : receiveMessage env stream = nextMessage stream := by
  unfold receiveMessage nextMessage
  simp only
  by_cases hlength : HelperFrameMessage.size ≤ stream.length
  · have hhead : recvAll env.headerRecv HelperFrameMessage.size stream =
        ⟨.complete, stream.take HelperFrameMessage.size, stream.drop HelperFrameMessage.size⟩ :=
      recvLoop_eq_of_undisturbed h.header hlength
    rw [hhead, if_neg (Nat.not_lt.mpr hlength)]
    simp only [ne_eq, not_true_eq_false, if_false, h.malloc, Bool.not_true, Bool.false_eq_true]
    generalize HelperFrameMessage.decode (stream.take HelperFrameMessage.size) = message
    by_cases hbody : message.payloadSize.toNat ≤ (stream.drop HelperFrameMessage.size).length
    · have hpayload : recvAll env.payloadRecv message.payloadSize.toNat
          (stream.drop HelperFrameMessage.size) = ⟨.complete, _, _⟩ :=
        recvLoop_eq_of_undisturbed h.payload hbody
      rw [hpayload, if_neg (Nat.not_lt.mpr hbody)]
      simp only [not_true_eq_false, if_false]
    · have hpayload := (recvAll_complete_iff h.payload).not.mpr hbody
      rw [if_pos hpayload, if_pos (Nat.lt_of_not_le hbody)]
  · have hhead := (recvAll_complete_iff h.header).not.mpr hlength
    rw [if_pos hhead, if_pos (Nat.lt_of_not_le hlength)]

/-! ## The answers -/

/-- The codec answers alike. -/
def MessageEnv.SameCodec (env other : MessageEnv) : Prop :=
  env.encode = other.encode ∧ env.decode = other.decode

/-- The answers to the messages of a stream, in order. -/
def answerAll : List MessageEnv → HelperSession → List (HelperFrameMessage × List UInt8) →
    List Answer
  | env :: envs, session, (message, payload) :: messages =>
      let answer := answerMessage env session message payload
      answer :: answerAll envs answer.session messages
  | _, _, _ => []

/-- The reply to a message, and its payload. -/
def Answer.bytes (answer : Answer) : List UInt8 := answer.reply.encode ++ answer.payload

theorem answerMessage_congr {env other : MessageEnv} (h : env.SameCodec other)
    (session : HelperSession) (message : HelperFrameMessage) (payload : List UInt8) :
    answerMessage env session message payload = answerMessage other session message payload := by
  unfold answerMessage
  rw [h.1, h.2]

theorem exists_sameCodec {envs others : List MessageEnv}
    (h : List.Forall₂ MessageEnv.SameCodec envs others) {other : MessageEnv}
    (hother : other ∈ others) : ∃ env ∈ envs, env.SameCodec other := by
  induction h with
  | nil => cases hother
  | cons hcodec _ ih =>
    rcases List.mem_cons.mp hother with rfl | hlater
    · exact ⟨_, List.mem_cons_self, hcodec⟩
    · obtain ⟨env, henv, hsame⟩ := ih hlater
      exact ⟨env, List.mem_cons_of_mem _ henv, hsame⟩

/-- The answers depend on what the codec answers, and on nothing else that happens. -/
theorem answerAll_congr {envs others : List MessageEnv}
    (h : List.Forall₂ MessageEnv.SameCodec envs others) (session : HelperSession)
    (messages : List (HelperFrameMessage × List UInt8)) :
    answerAll envs session messages = answerAll others session messages := by
  induction h generalizing session messages with
  | nil => rfl
  | cons hcodec _ ih =>
    cases messages with
    | nil => rfl
    | cons received messages =>
      obtain ⟨message, payload⟩ := received
      unfold answerAll
      rw [answerMessage_congr hcodec]
      simp only
      rw [ih]

theorem answerAll_length {envs : List MessageEnv} {session : HelperSession}
    {messages : List (HelperFrameMessage × List UInt8)} (h : messages.length ≤ envs.length) :
    (answerAll envs session messages).length = messages.length := by
  induction envs generalizing session messages with
  | nil =>
    cases messages with
    | nil => rfl
    | cons _ _ => exact absurd h (Nat.not_succ_le_zero _)
  | cons env envs ih =>
    cases messages with
    | nil => rfl
    | cons received messages =>
      obtain ⟨message, payload⟩ := received
      exact congrArg Nat.succ (ih (Nat.le_of_succ_le_succ h))

/-! ## One answer -/

/-- A decoded frame has even dimensions, and is as large as they say. -/
theorem packHostFrame_geometry {env : DecodeEnv} {calls : List AvCall}
    (h : (packHostFrame env calls).frameSize ≠ 0) :
    let frame := packHostFrame env calls
    frame.width.toNat % 2 = 0 ∧ frame.height.toNat % 2 = 0 ∧
      frame.frameSize.toNat = frame.width.toNat * frame.height.toNat * 3 / 2 := by
  intro frame
  have hframe : frame = packHostFrame env calls := rfl
  unfold packHostFrame at h hframe
  simp only at h hframe
  split_ifs at h hframe with hodd hlarge hmalloc
  · exact absurd rfl h
  · exact absurd rfl h
  · exact absurd rfl h
  -- Both dimensions are at least two, so the size bounds each of them.
  obtain ⟨width, hwidth⟩ : ∃ m : Nat, env.host.width = m := Int.eq_ofNat_of_zero_le (by omega)
  obtain ⟨height, hheight⟩ : ∃ n : Nat, env.host.height = n := Int.eq_ofNat_of_zero_le (by omega)
  rw [hwidth, hheight] at hodd hlarge
  simp only [Int.toNat_natCast] at hlarge
  have hwidthEven : width % 2 = 0 := by omega
  have hheightEven : height % 2 = 0 := by omega
  have hwidthPos : 2 ≤ width := by omega
  have hheightPos : 2 ≤ height := by omega
  have hwidthLt : width < 2 ^ 32 := by
    have hle : width * 2 ≤ width * height := Nat.mul_le_mul_left width hheightPos
    omega
  have hheightLt : height < 2 ^ 32 := by
    have hle : 2 * height ≤ width * height := Nat.mul_le_mul_right height hwidthPos
    omega
  have hgeometry : ∀ packed : DecoderPacket,
      packed.width = UInt32.ofNat width → packed.height = UInt32.ofNat height →
      packed.frameSize = UInt32.ofNat (width * height * 3 / 2) →
      packed.width.toNat % 2 = 0 ∧ packed.height.toNat % 2 = 0 ∧
        packed.frameSize.toNat = packed.width.toNat * packed.height.toNat * 3 / 2 := by
    intro packed hw hh hs
    rw [hw, hh, hs, toNat_ofNat_eq hwidthLt, toNat_ofNat_eq hheightLt, toNat_ofNat_eq (by omega)]
    exact ⟨hwidthEven, hheightEven, rfl⟩
  rw [hwidth, hheight] at h hframe
  simp only [Int.toNat_natCast] at h hframe
  cases hformat : env.host.format with
  | vulkan =>
    rw [hformat] at h
    exact absurd rfl h
  | nv12 =>
    rw [hformat] at hframe
    exact hgeometry frame (by rw [hframe]) (by rw [hframe]) (by rw [hframe])
  | yuv420p =>
    rw [hformat] at hframe
    exact hgeometry frame (by rw [hframe]) (by rw [hframe]) (by rw [hframe])
  | other =>
    rw [hformat] at h
    exact absurd rfl h

theorem decoderPacket_geometry {env : DecodeEnv} {state : DecoderState} {data : List UInt8}
    (h : (decoderPacket env state data).frameSize ≠ 0) :
    let frame := decoderPacket env state data
    frame.width.toNat % 2 = 0 ∧ frame.height.toNat % 2 = 0 ∧
      frame.frameSize.toNat = frame.width.toNat * frame.height.toNat * 3 / 2 := by
  unfold decoderPacket at h ⊢
  split_ifs at h ⊢
  iterate 7
    · exact absurd rfl h
  · exact packHostFrame_geometry h

/-- An answer as it goes over the socket: a status other than zero only without a
payload, a payload of the announced size, and from a decoder an even frame of that
size. -/
structure Answer.Framed (answer : Answer) (session : HelperSession) : Prop where
  wellFormed : answer.reply.WellFormed
  length_eq : answer.payload.length = answer.reply.payloadSize.toNat
  geometry : session.decoder.codec.isSome → answer.reply.payloadSize ≠ 0 →
    answer.reply.width.toNat % 2 = 0 ∧ answer.reply.height.toNat % 2 = 0 ∧
      answer.reply.payloadSize.toNat =
        answer.reply.width.toNat * answer.reply.height.toNat * 3 / 2

/-- A message for the codec of the session is answered without a fault. -/
theorem answerMessage_no_fault (env : MessageEnv) {session : HelperSession}
    {message : HelperFrameMessage} (payload : List UInt8) (hkind : ¬WrongKind session message) :
    (answerMessage env session message payload).calls.any AvCall.faults = false := by
  rw [List.any_eq_false]
  intro call hcall
  unfold WrongKind at hkind
  unfold AvCall.faults
  unfold answerMessage at hcall
  by_cases htype : message.type = helperFrame
  · rw [if_pos htype] at hcall
    obtain ⟨hcodec, hsome⟩ := encoderFrame_codec hcall
    rw [hcodec, Option.isNone_eq_false_iff.mpr hsome]
    exact Bool.false_ne_true
  · rw [if_neg htype] at hcall
    rw [decoderPacket_codec hcall, Option.isNone_iff_eq_none]
    exact fun hnone => hkind (Or.inr ⟨htype, hnone⟩)

/-- The answer to a message is made when no packet of the encoder is empty. -/
theorem answerMessage_returns {env : MessageEnv} (hdata : env.encode.HasData)
    (session : HelperSession) (message : HelperFrameMessage) (payload : List UInt8) :
    (answerMessage env session message payload).aborts = false := by
  unfold answerMessage
  split_ifs
  · exact encoderFrame_not_aborts hdata _ _ _
  · rfl

/-- A message for the codec of the session has a framed answer. -/
theorem answerMessage_framed (env : MessageEnv) {session : HelperSession}
    {message : HelperFrameMessage} (payload : List UInt8) (hopened : session.Opened)
    (hkind : ¬WrongKind session message) :
    (answerMessage env session message payload).Framed session := by
  refine ⟨answerMessage_reply_wellFormed _ _ _ _, answerMessage_payload_length _ _ _ _,
    fun hdecoder hsize => ?_⟩
  have htype : message.type ≠ helperFrame := by
    intro htype
    cases hopened with
    | encoder _ _ hnone =>
      rw [hnone] at hdecoder
      cases hdecoder
    | decoder _ _ hnone => exact hkind (Or.inl ⟨htype, hnone⟩)
  unfold answerMessage at hsize ⊢
  rw [if_neg htype] at hsize ⊢
  exact decoderPacket_geometry hsize

/-- The session after an answer is open on the same codec. -/
theorem wrongKind_answerMessage (env : MessageEnv) (session : HelperSession)
    (message : HelperFrameMessage) (payload : List UInt8) (later : HelperFrameMessage) :
    WrongKind (answerMessage env session message payload).session later ↔
      WrongKind session later := by
  obtain ⟨hencoder, hdecoder⟩ := answerMessage_session env session message payload
  unfold WrongKind
  rw [hencoder, hdecoder]

/-! ## The message loop -/

/-- Every answer is framed. -/
theorem answerAll_framed {envs : List MessageEnv} {session : HelperSession}
    {messages : List (HelperFrameMessage × List UInt8)} (hopened : session.Opened)
    (hkind : ∀ received ∈ messages, ¬WrongKind session received.1) :
    ∀ answer ∈ answerAll envs session messages, answer.Framed session := by
  induction envs generalizing session messages with
  | nil => exact fun answer hanswer => absurd hanswer List.not_mem_nil
  | cons env envs ih =>
    cases messages with
    | nil => exact fun answer hanswer => absurd hanswer List.not_mem_nil
    | cons received messages =>
      obtain ⟨message, payload⟩ := received
      intro answer hanswer
      obtain ⟨-, hdecoder⟩ := answerMessage_session env session message payload
      rcases List.mem_cons.mp hanswer with rfl | hlater
      · exact answerMessage_framed env payload hopened (hkind _ List.mem_cons_self)
      · have hframed := ih (answerMessage_opened hopened) (fun received hreceived => by
          rw [wrongKind_answerMessage]
          exact hkind received (List.mem_cons_of_mem _ hreceived)) answer hlater
        refine ⟨hframed.wellFormed, hframed.length_eq, fun hsome => hframed.geometry ?_⟩
        rw [hdecoder]
        exact hsome

/-- Without failures the message loop writes the answers, one after the other. -/
theorem serveMessages_sentBytes {envs : List MessageEnv} {session : HelperSession}
    {stream : List UInt8} (henvs : ∀ env ∈ envs, env.Undisturbed)
    (hdata : ∀ env ∈ envs, env.encode.HasData)
    (hkind : ∀ received ∈ completeMessages stream, ¬WrongKind session received.1) :
    sentBytes (serveMessages envs session stream) =
      (answerAll envs session (completeMessages stream)).flatMap Answer.bytes := by
  induction envs generalizing session stream with
  | nil => rfl
  | cons env envs ih =>
    have henv := henvs env List.mem_cons_self
    have hlater : ∀ env ∈ envs, env.Undisturbed :=
      fun later hmem => henvs later (List.mem_cons_of_mem _ hmem)
    unfold serveMessages serveMessage
    rw [receiveMessage_eq_nextMessage henv]
    cases hnext : nextMessage stream with
    | none =>
      rw [completeMessages_of_none hnext]
      rfl
    | some received =>
      obtain ⟨message, payload, rest⟩ := received
      rw [completeMessages_of_some hnext] at hkind ⊢
      have hfirst := hkind _ List.mem_cons_self
      obtain ⟨hsent, hgoes⟩ := replyMessage_eq rest henv.replySent henv.payloadSent
        (answerMessage_no_fault env payload hfirst)
        (answerMessage_returns (hdata env List.mem_cons_self) _ _ _)
        (answerMessage_payload_length _ _ _ _)
      simp only [hgoes]
      rw [sentBytes_append, hsent,
        ih hlater fun later hmem => hdata later (List.mem_cons_of_mem _ hmem)]
      · rfl
      · intro received hreceived
        rw [wrongKind_answerMessage]
        exact hkind received (List.mem_cons_of_mem _ hreceived)

/-! ## The session -/

/-- The first message of a stream. -/
def firstMessage (stream : List UInt8) : HelperInitMessage :=
  HelperInitMessage.decode (stream.take HelperInitMessage.size)

/-- The stream starts with a valid first message, and the codec accepts it. -/
structure StartsWithInit (version : UInt32) (start : HandshakeEnv) (stream : List UInt8) :
    Prop where
  complete : HelperInitMessage.size ≤ stream.length
  valid : initAccepted version (firstMessage stream) = true
  accepted : (openSession start (firstMessage stream)).1 = true

/-- The session that the first message opens. -/
def startSession (start : HandshakeEnv) (stream : List UInt8) : HelperSession :=
  (openSession start (firstMessage stream)).2

/-- The messages behind the first one. -/
def laterMessages (stream : List UInt8) : List (HelperFrameMessage × List UInt8) :=
  completeMessages (stream.drop HelperInitMessage.size)

/-- The handshake ends without a word, or it has read a valid first message and
sends a reply that says whether the codec is open. -/
theorem handshake_cases (version : UInt32) (start : HandshakeEnv) (stream : List UInt8) :
    handshake version start stream = ⟨[], none⟩ ∨
      HelperInitMessage.size ≤ stream.length ∧
        initAccepted version (firstMessage stream) = true ∧
        handshake version start stream =
          let enabled := (openSession start (firstMessage stream)).1
          let head := sendAll start.replySend (HelperInitReply.encode
            { enabled := if enabled then 1 else 0, protocolVersion := version })
          if !head.complete || !enabled then ⟨[.sent head.sent], none⟩
          else ⟨[.sent head.sent],
            some (startSession start stream, stream.drop HelperInitMessage.size)⟩ := by
  unfold handshake
  simp only
  by_cases hstatus : (recvAll start.initRecv HelperInitMessage.size stream).status = .complete
  · have hrecv : recvAll start.initRecv HelperInitMessage.size stream =
        ⟨.complete, stream.take HelperInitMessage.size, stream.drop HelperInitMessage.size⟩ :=
      recvLoop_eq_of_complete hstatus
    rw [hrecv]
    simp only [ne_eq, not_true_eq_false, if_false]
    by_cases hvalid : initAccepted version (firstMessage stream) = true
    · right
      refine ⟨le_length_of_recvLoop_complete hstatus, hvalid, ?_⟩
      unfold firstMessage at hvalid
      rw [hvalid]
      rfl
    · left
      exact if_pos (by simpa [firstMessage] using hvalid)
  · left
    exact if_pos hstatus

/-- The handshake reads the first message, however it is split, and answers it. -/
theorem handshake_eq {version : UInt32} {start : HandshakeEnv} {stream : List UInt8}
    (hstart : start.Undisturbed) (hinit : StartsWithInit version start stream) :
    handshake version start stream =
      ⟨[.sent (HelperInitReply.encode { enabled := 1, protocolVersion := version })],
        some (startSession start stream, stream.drop HelperInitMessage.size)⟩ := by
  have hrecv : recvAll start.initRecv HelperInitMessage.size stream =
      ⟨.complete, stream.take HelperInitMessage.size, stream.drop HelperInitMessage.size⟩ :=
    recvLoop_eq_of_undisturbed hstart.init hinit.complete
  have hvalid := hinit.valid
  have haccepted := hinit.accepted
  unfold firstMessage at hvalid haccepted
  have hsend : sendAll start.replySend
      (HelperInitReply.encode { enabled := 1, protocolVersion := version }) = ⟨true, _⟩ :=
    sendLoop_eq_of_undisturbed hstart.replySent
  unfold handshake
  simp only [hrecv, hvalid, haccepted, ne_eq, not_true_eq_false, if_false, Bool.not_true,
    Bool.false_eq_true, if_true, hsend, Bool.or_self]
  rfl

/-- A complete reply that says enabled comes from a helper with the version of the
first message, which has opened the codec. -/
theorem handshake_of_enabled {version : UInt32} {start : HandshakeEnv} {stream : List UInt8}
    (hcomplete : HelperInitReply.size ≤
      (sentBytes (handshake version start stream).events).length)
    (henabled : (HelperInitReply.decode
      ((sentBytes (handshake version start stream).events).take HelperInitReply.size)).enabled ≠
        0) :
    StartsWithInit version start stream ∧
      (HelperInitReply.decode ((sentBytes (handshake version start stream).events).take
        HelperInitReply.size)).protocolVersion = version ∧
      (handshake version start stream).next =
        some (startSession start stream, stream.drop HelperInitMessage.size) := by
  rcases handshake_cases version start stream with hnothing | ⟨hlength, hvalid, hreply⟩
  · rw [hnothing] at hcomplete
    exact absurd hcomplete (by decide)
  generalize hopen : openSession start (firstMessage stream) = opened at hreply
  obtain ⟨enabled, session⟩ := opened
  simp only at hreply
  generalize hdata : HelperInitReply.encode
    { enabled := if enabled then 1 else 0, protocolVersion := version } = data at hreply
  -- Everything of the reply has been written.
  have hevents : sentBytes (handshake version start stream).events =
      (sendAll start.replySend data).sent := by
    rw [hreply]
    split_ifs <;> exact List.append_nil _
  have hsize : data.length = HelperInitReply.size := by
    rw [← hdata, HelperInitReply.encode_length]
  have hsent : (sendAll start.replySend data).complete = true := by
    by_contra hfail
    have hshort := (sendLoop_sent_begins true start.replySend data).2
      (Bool.eq_false_of_not_eq_true hfail)
    rw [hevents] at hcomplete
    unfold sendAll at hcomplete
    omega
  have hwritten : sentBytes (handshake version start stream).events = data := by
    rw [hevents]
    exact sendLoop_sent_of_complete hsent
  rw [hwritten, List.take_of_length_le hsize.le, ← hdata, HelperInitReply.decode_encode] at henabled
  have haccepted : enabled = true := by
    by_contra hfail
    rw [if_neg hfail] at henabled
    exact henabled rfl
  refine ⟨⟨hlength, hvalid, by rw [hopen, haccepted]⟩, ?_, ?_⟩
  · rw [hwritten, List.take_of_length_le hsize.le, ← hdata, HelperInitReply.decode_encode]
  · rw [hreply, hsent, haccepted]
    rfl

/-- Two environments in which the codec answers alike. -/
structure SameResults (start start' : HandshakeEnv) (envs envs' : List MessageEnv) : Prop where
  encoder : start.encoder = start'.encoder
  decoder : start.decoder = start'.decoder
  messages : List.Forall₂ MessageEnv.SameCodec envs envs'

theorem openSession_congr {start start' : HandshakeEnv} (hencoder : start.encoder = start'.encoder)
    (hdecoder : start.decoder = start'.decoder) (message : HelperInitMessage) :
    openSession start message = openSession start' message := by
  unfold openSession
  rw [hencoder, hdecoder]

/-- What a session writes. -/
theorem handleClient_sentBytes {version : UInt32} {start : HandshakeEnv} {envs : List MessageEnv}
    {stream : List UInt8} (hstart : start.Undisturbed) (henvs : ∀ env ∈ envs, env.Undisturbed)
    (hdata : ∀ env ∈ envs, env.encode.HasData) (hinit : StartsWithInit version start stream)
    (hkind : ∀ received ∈ laterMessages stream,
      ¬WrongKind (startSession start stream) received.1) :
    sentBytes (handleClient version start envs stream) =
      HelperInitReply.encode { enabled := 1, protocolVersion := version } ++
        (answerAll envs (startSession start stream) (laterMessages stream)).flatMap
          Answer.bytes := by
  unfold handleClient
  rw [handshake_eq hstart hinit]
  simp only
  rw [sentBytes_append, serveMessages_sentBytes henvs hdata hkind, sentBytes_sent, sentBytes_nil,
    List.append_nil]
  rfl

/-- A session that starts with an accepted first message, and whose messages are
for the codec it opens, with an encoder that makes no empty packet: the helper
writes the reply to the first message and then, for each complete message in
order, one reply followed by exactly its payload.  It writes the same for every
other way to split the stream, as long as the codec answers alike. -/
theorem reply_stream_framed (version : UInt32) {start : HandshakeEnv} {envs : List MessageEnv}
    {stream : List UInt8} (hstart : start.Undisturbed) (henvs : ∀ env ∈ envs, env.Undisturbed)
    (hdata : ∀ env ∈ envs, env.encode.HasData) (hinit : StartsWithInit version start stream)
    (hkind : ∀ received ∈ laterMessages stream,
      ¬WrongKind (startSession start stream) received.1)
    (hcovered : (laterMessages stream).length ≤ envs.length) :
    let answers := answerAll envs (startSession start stream) (laterMessages stream)
    sentBytes (handleClient version start envs stream) =
        HelperInitReply.encode { enabled := 1, protocolVersion := version } ++
          answers.flatMap Answer.bytes ∧
      answers.length = (laterMessages stream).length ∧
      (∀ answer ∈ answers, answer.Framed (startSession start stream)) ∧
      ∀ start' envs', start'.Undisturbed → (∀ env ∈ envs', env.Undisturbed) →
        SameResults start start' envs envs' →
          sentBytes (handleClient version start' envs' stream) =
            sentBytes (handleClient version start envs stream) := by
  intro answers
  have hopened : (startSession start stream).Opened := (openSession_opened hinit.accepted).1
  have hsent := handleClient_sentBytes hstart henvs hdata hinit hkind
  refine ⟨hsent, answerAll_length hcovered, answerAll_framed hopened hkind, ?_⟩
  intro start' envs' hstart' henvs' hsame
  have hopen := openSession_congr hsame.encoder hsame.decoder (firstMessage stream)
  have hsession : startSession start' stream = startSession start stream :=
    (congrArg Prod.snd hopen).symm
  have hinit' : StartsWithInit version start' stream :=
    ⟨hinit.complete, hinit.valid, hopen ▸ hinit.accepted⟩
  have hdata' : ∀ env ∈ envs', env.encode.HasData := by
    intro env' henv'
    obtain ⟨env, henv, hcodec⟩ := exists_sameCodec hsame.messages henv'
    rw [← hcodec.1]
    exact hdata env henv
  rw [hsent,
    handleClient_sentBytes hstart' henvs' hdata' hinit' (by rw [hsession]; exact hkind), hsession,
    answerAll_congr hsame.messages]

/-- The header of a packet of one byte. -/
def smallPacket : HelperFrameMessage :=
  { magic := helperMagic, type := helperDecodePacket, payloadSize := 1, reserved := 0
    pts := 0, duration := 0 }

/-- A client that asks for a decoder and sends one packet of one byte. -/
def packetToDecoderSession : List UInt8 :=
  HelperInitMessage.encode
      { magic := helperMagic, type := helperDecoderInit, width := 0, height := 0, format := 0
        reserved := helperProtocolVersion, bitrate := 0, fpsNum := 0, fpsDen := 0 } ++
    (smallPacket.encode ++ ([0] ++ []))

theorem laterMessages_packetToDecoderSession :
    laterMessages packetToDecoderSession = [(smallPacket, [0])] := by
  have hnext : nextMessage (smallPacket.encode ++ ([0] ++ [])) = some (smallPacket, [0], []) := by
    have henv : MessageEnv.Undisturbed {} := ⟨by simp, rfl, by simp, by simp, by simp⟩
    rw [← receiveMessage_eq_nextMessage henv]
    exact receiveMessage_eq henv.header henv.payload (by decide) rfl rfl
  unfold laterMessages packetToDecoderSession
  rw [List.drop_left' (HelperInitMessage.encode_length _), completeMessages_of_some hnext,
    completeMessages_of_none (by decide)]

/-- The packet arrives byte by byte, after an interrupted call. -/
theorem packet_byte_by_byte_framed :
    sentBytes (handleClient helperProtocolVersion {}
        [{ headerRecv := [.interrupted, .got 0, .got 0] }] packetToDecoderSession) =
      HelperInitReply.encode { enabled := 1, protocolVersion := helperProtocolVersion } ++
        (answerAll [{ headerRecv := [.interrupted, .got 0, .got 0] }]
          (startSession {} packetToDecoderSession)
          (laterMessages packetToDecoderSession)).flatMap Answer.bytes := by
  refine (reply_stream_framed helperProtocolVersion ⟨by simp, by simp⟩ ?_ ?_ ⟨by decide,
    by decide, by decide⟩ ?_ ?_).1
  · intro env henv
    obtain rfl := List.mem_singleton.mp henv
    refine ⟨fun call hcall => ?_, rfl, by simp, by simp, by simp⟩
    simp only [List.mem_cons, List.not_mem_nil, or_false] at hcall
    rcases hcall with rfl | rfl | rfl
    · rfl
    · trivial
    · trivial
  · intro env henv
    obtain rfl := List.mem_singleton.mp henv
    exact nofun
  · intro received hreceived
    rw [laterMessages_packetToDecoderSession] at hreceived
    obtain rfl := List.mem_singleton.mp hreceived
    rintro (⟨htype, -⟩ | ⟨-, hnone⟩)
    · cases htype
    · cases hnone
  · rw [laterMessages_packetToDecoderSession]
    exact Nat.le_refl _

end UuAmfBridge
