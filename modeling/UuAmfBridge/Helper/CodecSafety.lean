import UuAmfBridge.Helper.Session
import UuAmfBridge.Lib.Machine

/-!
# The helper and codecs that were not opened

The kind of a session is fixed by its first message, but the message loop of
`handle_client` dispatches on the type of each later message.  `encoder_frame`
checks that the session has an encoder; `decoder_packet` has no such check.  So
an access unit sent to an encoder session goes to a null decoder context.

`turns` is the message loop as a machine, one step for each turn.
`session_safe_iff_no_packet_for_encoder` says exactly when a session only uses
the codec that its handshake has opened: when no access unit that gets past the
allocations of `decoder_packet` arrives in an encoder session.
-/

namespace UuAmfBridge

/-- The state of the message loop: the session and the unread bytes, or nothing
once the loop has ended. -/
abbrev LoopState := Option (HelperSession × List UInt8)

/-- The message loop, one step for each turn. -/
def turns : Machine LoopState MessageEnv Turn where
  step
    | none, _ => (none, ⟨[], none⟩)
    | some (session, stream), env =>
        ((serveMessage env session stream).next, serveMessage env session stream)

/-- A property of all codec calls of the loop is a property of every turn. -/
theorem forall_av_serveMessages_iff (P : AvCall → Prop) (envs : List MessageEnv)
    (log : List Turn) (session : HelperSession) (stream : List UInt8) :
    (∀ call, HelperEvent.av call ∈ serveMessages envs session stream → P call) ↔
      turns.Along
        (fun _ state env => ∀ call, HelperEvent.av call ∈ (turns.step state env).2.events → P call)
        log (some (session, stream)) envs := by
  -- Once the loop has ended its turns are empty.
  have hended : ∀ envs log, turns.Along
      (fun _ state env => ∀ call, HelperEvent.av call ∈ (turns.step state env).2.events → P call)
      log none envs := by
    intro envs
    induction envs with
    | nil => exact fun _ => trivial
    | cons env envs ih => exact fun log => ⟨by simp [turns], ih _⟩
  induction envs generalizing log session stream with
  | nil => simp [serveMessages]
  | cons env envs ih =>
    rw [serveMessages, Machine.along_cons]
    simp only [turns]
    cases hnext : (serveMessage env session stream).next with
    | none => exact ⟨fun h => ⟨h, hended envs _⟩, fun h => h.1⟩
    | some next =>
      obtain ⟨session', rest⟩ := next
      simp only [List.mem_append]
      constructor
      · intro h
        refine ⟨fun call hcall => h call (Or.inl hcall), (ih _ session' rest).mp ?_⟩
        exact fun call hcall => h call (Or.inr hcall)
      · rintro ⟨hfirst, hlater⟩ call (hcall | hcall)
        · exact hfirst call hcall
        · exact (ih _ session' rest).mpr hlater call hcall

/-! ## The property -/

/-- A call on an open codec that the session got from its handshake. -/
def SafeCall (session : HelperSession) (call : AvCall) : Prop :=
  ∃ codec, call.codec = some codec ∧ codec.opened = true ∧
    (session.encoder.codec = some codec ∨ session.decoder.codec = some codec)

/-- A message for the codec that the session does not have. -/
def WrongKind (session : HelperSession) (message : HelperFrameMessage) : Prop :=
  message.type = helperFrame ∧ session.encoder.codec = none ∨
    message.type ≠ helperFrame ∧ session.decoder.codec = none

/-- A message of the wrong kind makes no codec call, and is answered with a
status other than zero or ends the session. -/
def WrongKindRefused : LoopState → MessageEnv → Prop
  | none, _ => True
  | some (session, stream), env =>
      ∀ message payload rest, receiveMessage env stream = some (message, payload, rest) →
        WrongKind session message →
          (answerMessage env session message payload).calls = [] ∧
            ((serveMessage env session stream).next = none ∨
              (answerMessage env session message payload).reply.status ≠ 0)

/-- Every codec call of the session is on the codec its handshake has opened,
and every message of the wrong kind is refused. -/
def SessionSafe (version : UInt32) (start : HandshakeEnv) (envs : List MessageEnv)
    (stream : List UInt8) : Prop :=
  (∀ call, HelperEvent.av call ∈ handleClient version start envs stream →
    ∃ session rest, (handshake version start stream).next = some (session, rest) ∧
      SafeCall session call) ∧
  ∀ session rest, (handshake version start stream).next = some (session, rest) →
    turns.Along (fun _ state env => WrongKindRefused state env) [] (some (session, rest)) envs

/-! ## The condition -/

/-- The first message asks for an encoder. -/
def AsksForEncoder (start : HandshakeEnv) (stream : List UInt8) : Prop :=
  (HelperInitMessage.decode
    (recvAll start.initRecv HelperInitMessage.size stream).data).type = helperInit

/-- A whole access unit is received, and the allocations of `decoder_packet`
for it succeed. -/
def ReceivesPacket : LoopState → MessageEnv → Prop
  | none, _ => False
  | some (_, stream), env =>
      ∃ message payload rest, receiveMessage env stream = some (message, payload, rest) ∧
        message.type = helperDecodePacket ∧ env.decode.packetAlloc ∧
        env.decode.gpuAlloc ∧ env.decode.hostAlloc ∧ ¬env.decode.newPacket < 0

/-- No access unit gets past the allocations of `decoder_packet` in an encoder
session. -/
def NoPacketForEncoder (version : UInt32) (start : HandshakeEnv)
    (envs : List MessageEnv) (stream : List UInt8) : Prop :=
  ∀ session rest, (handshake version start stream).next = some (session, rest) →
    AsksForEncoder start stream →
      turns.Along (fun _ state env => ¬ReceivesPacket state env) [] (some (session, rest)) envs

/-! ## One turn -/

/-- The handshake of a session that goes on has opened the codec that the first
message asks for. -/
theorem handshake_opened {version : UInt32} {start : HandshakeEnv}
    {stream rest : List UInt8} {session : HelperSession}
    (h : (handshake version start stream).next = some (session, rest)) :
    session.Opened ∧ (session.encoder.codec.isSome ↔ AsksForEncoder start stream) := by
  rw [handshake] at h
  simp only at h
  split_ifs at h with hinit haccept henabled hsend hsend
  · obtain ⟨rfl, -⟩ := Prod.mk.inj (Option.some.inj h)
    exact openSession_opened henabled
  · simp [henabled] at hsend

/-- The handshake makes no codec call. -/
theorem handshake_av {version : UInt32} {start : HandshakeEnv} {stream : List UInt8}
    {call : AvCall} : HelperEvent.av call ∉ (handshake version start stream).events := by
  rw [handshake]
  simp only
  split_ifs <;> simp

/-- The type of a received message is one of the two the loop lets through. -/
theorem receiveMessage_type {env : MessageEnv} {stream payload rest : List UInt8}
    {message : HelperFrameMessage}
    (h : receiveMessage env stream = some (message, payload, rest)) :
    message.type = helperFrame ∨ message.type = helperDecodePacket := by
  rw [receiveMessage] at h
  simp only at h
  split_ifs at h with hheader haccept hmalloc hpayload
  obtain ⟨rfl, -⟩ := Prod.mk.inj (Option.some.inj h)
  simp only [headerAccepted, Bool.not_eq_true, Bool.not_eq_false', Bool.and_eq_true,
    Bool.or_eq_true, beq_iff_eq] at haccept
  exact haccept.1.2

/-- The calls up to the first fault are calls. -/
theorem mem_of_mem_untilFault {calls : List AvCall} {call : AvCall}
    (h : call ∈ untilFault calls) : call ∈ calls := by
  induction calls with
  | nil => exact h
  | cons first calls ih =>
    rw [untilFault] at h
    split_ifs at h with hfault
    · rw [List.mem_singleton.mp h]
      exact List.mem_cons_self
    · rcases List.mem_cons.mp h with rfl | hrest
      · exact List.mem_cons_self
      · exact List.mem_cons_of_mem _ (ih hrest)

/-- The first call is made, whether it faults or not. -/
theorem head_mem_untilFault (call : AvCall) (calls : List AvCall) :
    call ∈ untilFault (call :: calls) := by
  rw [untilFault]
  split_ifs <;> exact List.mem_cons_self

/-- The codec calls among the events of a turn are the calls of its answer, up
to the first fault. -/
theorem av_mem_replyMessage {env : MessageEnv} {answer : Answer} {rest : List UInt8}
    {call : AvCall} :
    HelperEvent.av call ∈ (replyMessage env answer rest).events ↔
      call ∈ untilFault answer.calls := by
  rw [replyMessage]
  simp only
  split_ifs <;> simp

/-- A turn keeps the two codec contexts of the session. -/
theorem serveMessage_next {env : MessageEnv} {session session' : HelperSession}
    {stream rest : List UInt8}
    (h : (serveMessage env session stream).next = some (session', rest)) :
    session'.encoder.codec = session.encoder.codec ∧ session'.decoder = session.decoder := by
  rw [serveMessage] at h
  cases hreceive : receiveMessage env stream with
  | none => simp [hreceive] at h
  | some received =>
    obtain ⟨message, payload, unread⟩ := received
    simp only [hreceive] at h
    rw [(replyMessage_next h).1]
    exact answerMessage_session env session message payload

/-- The codec calls of one answer are safe exactly when it does not take an
access unit to a null decoder. -/
theorem answerMessage_safe_iff (env : MessageEnv) {session : HelperSession}
    (message : HelperFrameMessage) (payload : List UInt8) (hopened : session.Opened) :
    (∀ call ∈ untilFault (answerMessage env session message payload).calls,
        SafeCall session call) ↔
      ¬(message.type ≠ helperFrame ∧ session.decoder.codec = none ∧
        env.decode.packetAlloc ∧ env.decode.gpuAlloc ∧ env.decode.hostAlloc ∧
          ¬env.decode.newPacket < 0) := by
  by_cases htype : message.type = helperFrame
  · simp only [htype, ne_eq, not_true_eq_false, false_and, not_false_eq_true, iff_true]
    intro call hcall
    simp only [answerMessage, if_pos htype] at hcall
    obtain ⟨hcodec, hsome⟩ := encoderFrame_codec (mem_of_mem_untilFault hcall)
    cases hopened with
    | encoder henc hopen hdec => exact ⟨_, by rw [hcodec, henc], hopen, Or.inl henc⟩
    | decoder hdec hopen henc => simp [henc] at hsome
  · simp only [answerMessage, htype, if_false, ne_eq, not_false_eq_true, true_and]
    cases hopened with
    | decoder hdec hopen henc =>
      simp only [hdec, reduceCtorEq, false_and, not_false_eq_true, iff_true]
      intro call hcall
      have hcodec := decoderPacket_codec (mem_of_mem_untilFault hcall)
      exact ⟨_, by rw [hcodec, hdec], hopen, Or.inr hdec⟩
    | encoder henc hopen hdec =>
      simp only [hdec, true_and]
      rw [← decoderPacket_calls_ne_nil_iff env.decode session.decoder payload, not_not]
      constructor
      · intro hsafe
        by_contra hne
        obtain ⟨first, rest, hcalls⟩ := List.exists_cons_of_ne_nil hne
        have hmem : first ∈ (decoderPacket env.decode session.decoder payload).calls := by
          rw [hcalls]
          exact List.mem_cons_self
        obtain ⟨codec, hcodec, -⟩ := hsafe first (by
          rw [hcalls]
          exact head_mem_untilFault first rest)
        rw [decoderPacket_codec hmem, hdec] at hcodec
        cases hcodec
      · intro hnil call hcall
        simp [hnil, untilFault] at hcall

/-- `decoder_packet` fails when it makes no codec call. -/
theorem decoderPacket_result_of_calls_nil {env : DecodeEnv} {state : DecoderState}
    {data : List UInt8} (h : (decoderPacket env state data).calls = []) :
    (decoderPacket env state data).result < 0 := by
  rw [decoderPacket] at h ⊢
  split_ifs at h ⊢ with halloc hnew
  · decide
  · exact hnew
  all_goals simp [packHostFrame_calls] at h

/-- A message of the wrong kind whose codec calls are safe is refused. -/
theorem answerMessage_refused {env : MessageEnv} {session : HelperSession}
    {message : HelperFrameMessage} (payload : List UInt8)
    (hkind : WrongKind session message)
    (hsafe : ¬(message.type ≠ helperFrame ∧ session.decoder.codec = none ∧
      env.decode.packetAlloc ∧ env.decode.gpuAlloc ∧ env.decode.hostAlloc ∧
        ¬env.decode.newPacket < 0)) :
    (answerMessage env session message payload).calls = [] ∧
      (answerMessage env session message payload).reply.status ≠ 0 := by
  rcases hkind with ⟨htype, hnone⟩ | ⟨htype, hnone⟩
  · have hframe : encoderFrame env.encode session.encoder payload message =
        { result := averrorEinval, state := session.encoder } := by
      rw [encoderFrame, if_pos (Or.inl (by simp [hnone]))]
    refine ⟨by simp [answerMessage, htype, hframe], reply_status_ne_zero ?_⟩
    simp only [answerMessage, if_pos htype, hframe]
    decide
  · have hcalls : (decoderPacket env.decode session.decoder payload).calls = [] := by
      by_contra hne
      exact hsafe ⟨htype, hnone, (decoderPacket_calls_ne_nil_iff _ _ _).mp hne⟩
    refine ⟨by simp [answerMessage, htype, hcalls], reply_status_ne_zero ?_⟩
    simp only [answerMessage, if_neg htype]
    exact decoderPacket_result_of_calls_nil hcalls

/-! ## Whole sessions -/

/-- The session of the loop is open on the codec the handshake has opened. -/
def OnCodecOf (opened : HelperSession) : LoopState → Prop
  | none => True
  | some (session, _) =>
      session.encoder.codec = opened.encoder.codec ∧ session.decoder = opened.decoder

theorem onCodecOf_step {opened : HelperSession} {state : LoopState} {env : MessageEnv}
    (h : OnCodecOf opened state) : OnCodecOf opened (turns.step state env).1 := by
  cases state with
  | none => trivial
  | some current =>
    obtain ⟨session, stream⟩ := current
    simp only [turns]
    cases hnext : (serveMessage env session stream).next with
    | none => trivial
    | some next =>
      obtain ⟨hencoder, hdecoder⟩ := serveMessage_next hnext
      exact ⟨hencoder.trans h.1, hdecoder.trans h.2⟩

/-- One turn is safe, and refuses the wrong kind, exactly when it does not take
an access unit to an encoder session. -/
theorem turn_safe_iff {opened : HelperSession} (hopened : opened.Opened)
    {state : LoopState} {env : MessageEnv} (h : OnCodecOf opened state) :
    ((∀ call, HelperEvent.av call ∈ (turns.step state env).2.events → SafeCall opened call) ∧
        WrongKindRefused state env) ↔
      (opened.decoder.codec = none → ¬ReceivesPacket state env) := by
  cases state with
  | none => simp [turns, WrongKindRefused, ReceivesPacket]
  | some current =>
    obtain ⟨session, stream⟩ := current
    obtain ⟨hencoder, hdecoder⟩ := h
    have hsession : session.Opened := by
      cases hopened with
      | encoder hcodec hopen hnone =>
        exact .encoder (by rw [hencoder, hcodec]) hopen (by rw [hdecoder, hnone])
      | decoder hcodec hopen hnone =>
        exact .decoder (by rw [hdecoder, hcodec]) hopen (by rw [hencoder, hnone])
    have hcall : ∀ call, SafeCall opened call ↔ SafeCall session call := by
      intro call
      rw [SafeCall, SafeCall, hencoder, hdecoder]
    cases hreceive : receiveMessage env stream with
    | none => simp [turns, serveMessage, WrongKindRefused, ReceivesPacket, hreceive]
    | some received =>
      obtain ⟨message, payload, rest⟩ := received
      have htype : message.type ≠ helperFrame ↔ message.type = helperDecodePacket := by
        rcases receiveMessage_type hreceive with h | h <;> simp [h, helperFrame, helperDecodePacket]
      have hsafe := answerMessage_safe_iff env message payload hsession
      simp only [turns, serveMessage, hreceive, av_mem_replyMessage, hcall]
      rw [hsafe, ← hdecoder]
      simp only [ReceivesPacket, hreceive, Option.some.injEq, Prod.mk.injEq]
      constructor
      · rintro ⟨hnot, -⟩ hnone ⟨_, _, _, ⟨rfl, rfl, rfl⟩, hdecode, halloc⟩
        exact hnot ⟨htype.mpr hdecode, hnone, halloc⟩
      · intro hnot
        have hno : ¬(message.type ≠ helperFrame ∧ session.decoder.codec = none ∧
            env.decode.packetAlloc ∧ env.decode.gpuAlloc ∧ env.decode.hostAlloc ∧
              ¬env.decode.newPacket < 0) := by
          rintro ⟨hne, hnone, halloc⟩
          exact hnot hnone ⟨message, payload, rest, ⟨rfl, rfl, rfl⟩, htype.mp hne, halloc⟩
        refine ⟨hno, ?_⟩
        intro message' payload' rest' hsame hkind
        rw [hreceive] at hsame
        obtain ⟨rfl, rfl, rfl⟩ : message = message' ∧ payload = payload' ∧ rest = rest' := by
          simpa using hsame
        obtain ⟨hnil, hstatus⟩ := answerMessage_refused payload hkind hno
        exact ⟨hnil, Or.inr hstatus⟩

/-- A session uses only the codec its handshake has opened, and refuses every
message of the wrong kind, exactly when no access unit gets past the
allocations of `decoder_packet` in an encoder session. -/
theorem session_safe_iff_no_packet_for_encoder (version : UInt32) (start : HandshakeEnv)
    (envs : List MessageEnv) (stream : List UInt8) :
    SessionSafe version start envs stream ↔
      NoPacketForEncoder version start envs stream := by
  rw [SessionSafe, NoPacketForEncoder]
  cases hnext : (handshake version start stream).next with
  | none =>
    simp only [handleClient, hnext]
    simp [handshake_av]
  | some next =>
    obtain ⟨opened, rest⟩ := next
    obtain ⟨hopened, hasks⟩ := handshake_opened hnext
    have hkind : AsksForEncoder start stream ↔ opened.decoder.codec = none := by
      rw [← hasks]
      cases hopened with
      | encoder hcodec hopen hnone => simp [hcodec, hnone]
      | decoder hcodec hopen hnone => simp [hcodec, hnone]
    have hcalls : (∀ call, HelperEvent.av call ∈ handleClient version start envs stream →
        ∃ session rest', some (opened, rest) = some (session, rest') ∧ SafeCall session call) ↔
        ∀ call, HelperEvent.av call ∈ serveMessages envs opened rest → SafeCall opened call := by
      simp only [handleClient, hnext, List.mem_append, handshake_av, false_or]
      simp
    have halong : turns.Along
        (fun _ state env =>
          (∀ call, HelperEvent.av call ∈ (turns.step state env).2.events →
            SafeCall opened call) ∧ WrongKindRefused state env)
        [] (some (opened, rest)) envs ↔
        turns.Along (fun _ state env => opened.decoder.codec = none → ¬ReceivesPacket state env)
          [] (some (opened, rest)) envs :=
      Machine.along_iff (fun _ => OnCodecOf opened) (fun _ _ _ h _ => onCodecOf_step h)
        (fun _ _ _ h => turn_safe_iff hopened h) ⟨rfl, rfl⟩
    rw [Machine.along_and, ← forall_av_serveMessages_iff] at halong
    rw [hcalls]
    simp only [Option.some.injEq, Prod.mk.injEq, and_imp]
    constructor
    · rintro ⟨hsafe, hrefused⟩ session rest' rfl rfl hencoder
      exact (halong.mp ⟨hsafe, hrefused _ _ rfl rfl⟩).mono
        fun _ _ _ h => h (hkind.mp hencoder)
    · intro hcond
      have hboth := halong.mpr (by
        by_cases hnone : opened.decoder.codec = none
        · exact (hcond _ _ rfl rfl (hkind.mpr hnone)).mono fun _ _ _ h _ => h
        · exact Machine.along_of_forall (fun _ _ _ h => absurd h hnone) _ _ _)
      refine ⟨hboth.1, ?_⟩
      rintro session rest' rfl rfl
      exact hboth.2

/-- A client that asks for an encoder of 128 by 128 and then sends an access
unit of one byte. -/
def packetToEncoderSession : List UInt8 :=
  HelperInitMessage.encode
      { magic := helperMagic, type := helperInit, width := 128, height := 128, format := 1
        reserved := helperProtocolVersion, bitrate := 0, fpsNum := 30, fpsDen := 1 } ++
    (HelperFrameMessage.encode
        { magic := helperMagic, type := helperDecodePacket, payloadSize := 1, reserved := 0
          pts := 0, duration := 0 } ++ [0])

/-- The helper gives the access unit to a decoder it has not opened. -/
theorem packet_to_encoder_session_unsafe :
    ¬SessionSafe helperProtocolVersion {} [{}] packetToEncoderSession := by
  intro hsafe
  have hcall : HelperEvent.av (.sendPacket none [0]) ∈
      handleClient helperProtocolVersion {} [{}] packetToEncoderSession :=
    List.mem_cons_of_mem _ List.mem_cons_self
  obtain ⟨session, rest, -, codec, hcodec, -⟩ := hsafe.1 _ hcall
  cases hcodec

end UuAmfBridge
