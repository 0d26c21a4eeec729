import UuAmfBridge.Bridge.Component
import UuAmfBridge.Capture.Helper

/-!
# The capture hook

The transport of `src/wayland_capture_hook.c`: one connection for frames and one for
input, each opened when it is first needed and kept until a call on it fails.  Its
`socket_send_all` and `socket_recv_all` are those of the encoder bridge.

A connection is the helper at its other end and what the helper has written and the
hook has not read.  The helper answers what reaches it (`CaptureConnection.deliver`),
and how much of an answer has arrived when the hook reads is the script of that read.

* `CaptureConnection.InStep.deliver_cases`: what the helper does with a request that is alone
  on the stream.
* `requestBody_frameRequest` and `requestBody_inputRequest`: the requests of the hook
  are accepted on an authenticated connection.
* `connectHelper_cases`: a new connection is in step, and an authenticated one has the
  token of the helper.
-/

namespace UuAmfBridge

section Hook

variable {D : Type*} [DecidableEq D]

/-! ## Connections -/

/-- The helper at the other end of a connection, with the bytes it has not read. -/
inductive CaptureSide (D : Type*) where
  | serving (server : CaptureServer D) (authenticated : Bool) (unread : List UInt8)
  /-- The helper has closed its end. -/
  | ended

/-- The bytes the helper has not read. -/
def CaptureSide.unread : CaptureSide D → List UInt8
  | .serving _ _ unread => unread
  | .ended => []

/-- Where the helper goes on after a turn. -/
def CaptureSide.goOn (server : CaptureServer D) : Option (Bool × List UInt8) → CaptureSide D
  | none => .ended
  | some (authenticated, unread) => .serving server authenticated unread

/-- The turn of the helper when more bytes reach it. -/
def CaptureSide.receive (env : CaptureEnv D) (bytes : List UInt8) : CaptureSide D → CaptureTurn
  | .serving server authenticated unread =>
      server.serveRequest env authenticated (unread ++ bytes)
  | .ended => ⟨[], none⟩

/-- The helper after that turn. -/
def CaptureSide.after (side : CaptureSide D) (turn : CaptureTurn) : CaptureSide D :=
  match side with
  | .serving server _ _ => .goOn server turn.next
  | .ended => .ended

/-- An open socket: the helper, and the bytes it has written and the hook has not
read. -/
structure CaptureConnection (D : Type*) where
  helper : CaptureSide D
  inbound : List UInt8 := []

/-- The connection after `bytes` have reached the helper and it has answered. -/
def CaptureConnection.deliver (env : CaptureEnv D) (connection : CaptureConnection D)
    (bytes : List UInt8) : CaptureConnection D :=
  let turn := connection.helper.receive env bytes
  { helper := connection.helper.after turn
    inbound := connection.inbound ++ writtenBytes turn.events }

/-- A connection that a helper has just accepted. -/
def CaptureServer.accept (server : CaptureServer D) : CaptureConnection D where
  helper := .serving server server.requiredAuthToken.isEmpty []

/-! ## Connecting -/

/-- What `connect_helper` meets; `server` is the helper that listens. -/
structure CaptureConnectEnv (D : Type*) where
  server : CaptureServer D
  wsaStartup : Bool := true
  socket : Bool := true
  connect : Bool := true
  authSend : List SendResult := []
  turn : CaptureEnv D := {}
  authRecv : List RecvResult := []

/-- The checks on the reply to an authentication. -/
def authReplyAccepted (reply : CaptureAuthReply) : Bool :=
  reply.magic == captureMagic && reply.type == captureAuthReply &&
    reply.protocolVersion == captureProtocolVersion && reply.status == 0

/-- `authenticate_helper` with the token of the environment; `none` where it fails. -/
def authenticateHelper (env : CaptureConnectEnv D) (token : List UInt8)
    (connection : CaptureConnection D) : Option (CaptureConnection D) :=
  if token.length = 0 then some connection
  else if token.length ≠ captureAuthTokenSize.toNat then none
  else if !(socketSendAll env.authSend (authMessage token)).complete then none
  else
    let answered := connection.deliver env.turn (authMessage token)
    let reply := socketRecvAll env.authRecv CaptureAuthReply.size answered.inbound
    if reply.status ≠ .complete then none
    else if !authReplyAccepted (CaptureAuthReply.decode reply.data) then none
    else some { answered with inbound := reply.rest }

/-- `connect_helper`; `none` for `INVALID_SOCKET`. -/
def connectHelper (env : CaptureConnectEnv D) (token : List UInt8) :
    Option (CaptureConnection D) :=
  if !env.wsaStartup then none
  else if !env.socket then none
  else if !env.connect then none
  else authenticateHelper env token env.server.accept

/-! ## Frames -/

/-- What `request_frame` meets. -/
structure FrameCallEnv (D : Type*) where
  connect : CaptureConnectEnv D
  requestSend : List SendResult := []
  turn : CaptureEnv D := {}
  replyRecv : List RecvResult := []
  heapAlloc : Bool := true
  pixelsRecv : List RecvResult := []

/-- The request for a frame. -/
def frameRequest : CaptureRequest where
  magic := captureMagic
  type := captureRequest
  protocolVersion := captureProtocolVersion
  reserved := 0

/-- The checks of `request_frame` on the reply. -/
def frameReplyAccepted (reply : CaptureReply) : Bool :=
  reply.magic == captureMagic && reply.type == captureReply &&
    reply.protocolVersion == captureProtocolVersion && reply.status == 0 &&
    reply.width != 0 && reply.height != 0 && reply.stride == reply.width * 4 &&
    reply.payloadSize == reply.stride * reply.height && reply.payloadSize ≤ 256 * 1024 * 1024

/-- The connection that is open, or a new one. -/
def openConnection (env : CaptureConnectEnv D) (token : List UInt8)
    (connection : Option (CaptureConnection D)) : Option (CaptureConnection D) :=
  match connection with
  | some connection => some connection
  | none => connectHelper env token

/-- `request_frame` on its connection: the reply and the pixels, and the connection it
keeps. -/
def requestFrame (token : List UInt8) (env : FrameCallEnv D)
    (connection : Option (CaptureConnection D)) :
    Option (CaptureConnection D) × Option (CaptureReply × List UInt8) :=
  match openConnection env.connect token connection with
  | none => (none, none)
  | some connection =>
      if !(socketSendAll env.requestSend frameRequest.encode).complete then (none, none)
      else
        let answered := connection.deliver env.turn frameRequest.encode
        let header := socketRecvAll env.replyRecv CaptureReply.size answered.inbound
        let reply := CaptureReply.decode header.data
        if header.status ≠ .complete then (none, none)
        else if !frameReplyAccepted reply then (none, none)
        else if !env.heapAlloc then (none, none)
        else
          let pixels := socketRecvAll env.pixelsRecv reply.payloadSize.toNat header.rest
          if pixels.status ≠ .complete then (none, none)
          else (some { answered with inbound := pixels.rest }, some (reply, pixels.data))

/-! ## Input -/

/-- `INPUT`, as far as the hook reads it. -/
inductive HookInput where
  | mouse (dx dy : Int32) (mouseData flags : UInt32)
  | keyboard (virtualKey scanCode : UInt16) (flags : UInt32)
  | hardware
  deriving DecidableEq

/-- The event for an `INPUT`, of the two types that the helper knows. -/
def HookInput.event? : HookInput → Option CaptureInputEvent
  | .mouse dx dy mouseData flags => some
      { type := captureInputMouse, dx, dy, mouseData, flags, virtualKey := 0, scanCode := 0 }
  | .keyboard virtualKey scanCode flags => some
      { type := captureInputKeyboard, dx := 0, dy := 0, mouseData := 0, flags, virtualKey
        scanCode }
  | .hardware => none

/-- What the sending half of `send_input_chunk` meets. -/
structure ChunkSendEnv (D : Type*) where
  connect : CaptureConnectEnv D
  requestSend : List SendResult := []
  eventsSend : List SendResult := []

/-- What `send_input_chunk` meets. -/
structure ChunkEnv (D : Type*) extends ChunkSendEnv D where
  turn : CaptureEnv D := {}
  replyRecv : List RecvResult := []

/-- The request for an input of `count` events. -/
def inputRequest (count : UInt32) : CaptureRequest where
  magic := captureMagic
  type := captureInputRequest
  protocolVersion := captureProtocolVersion
  reserved := count

/-- The checks of `send_input_chunk` on the reply. -/
def inputReplyAccepted (reply : CaptureInputReply) (count : UInt32) : Bool :=
  reply.magic == captureMagic && reply.type == captureInputReply &&
    reply.protocolVersion == captureProtocolVersion && reply.acceptedCount ≤ count

/-- The events of a chunk, unless `send_input_chunk` gives up before it connects. -/
def chunkEvents? (inputs : List HookInput) : Option (List CaptureInputEvent) :=
  if inputs.length = 0 || captureMaxInputEvents.toNat < inputs.length then none
  else inputs.mapM HookInput.event?

/-- The sending half of `send_input_chunk`: whether all is sent, and the bytes that
reach the helper. -/
def sendChunk (env : ChunkSendEnv D) (events : List CaptureInputEvent) : Bool × List UInt8 :=
  let request := inputRequest (UInt32.ofNat events.length)
  let header := socketSendAll env.requestSend request.encode
  if !header.complete then (false, header.sent)
  else
    let body := socketSendAll env.eventsSend (CaptureInputEvent.encodeAll events)
    (body.complete, header.sent ++ body.sent)

/-- The receiving half of `send_input_chunk`: the count and the connection it keeps. -/
def receiveChunkReply (calls : List RecvResult) (count : UInt32)
    (connection : CaptureConnection D) : Option (CaptureConnection D) × UInt32 :=
  let received := socketRecvAll calls CaptureInputReply.size connection.inbound
  let reply := CaptureInputReply.decode received.data
  if received.status ≠ .complete then (none, 0)
  else if !inputReplyAccepted reply count then (none, 0)
  else (some { connection with inbound := received.rest }, reply.acceptedCount)

/-- `send_input_chunk` on its connection. -/
def sendInputChunk (token : List UInt8) (env : ChunkEnv D) (inputs : List HookInput)
    (connection : Option (CaptureConnection D)) : Option (CaptureConnection D) × UInt32 :=
  match chunkEvents? inputs with
  | none => (connection, 0)
  | some events =>
      match openConnection env.connect token connection with
      | none => (none, 0)
      | some connection =>
          let sent := sendChunk env.toChunkSendEnv events
          if !sent.1 then (none, 0)
          else receiveChunkReply env.replyRecv (UInt32.ofNat events.length)
            (connection.deliver env.turn sent.2)

/-! ## Connections in step -/

/-- No byte of a connection is unread, on either side. -/
structure CaptureConnection.InStep (connection : CaptureConnection D) : Prop where
  inbound_eq : connection.inbound = []
  unread_eq : connection.helper.unread = []

/-- A read of a whole message from the beginning of the message and what follows it. -/
theorem socketRecvAll_begins {calls : List RecvResult} {message tail inbound : List UInt8}
    (hbegins : inbound <+: message ++ tail)
    (hstatus : (socketRecvAll calls message.length inbound).status = .complete) :
    (socketRecvAll calls message.length inbound).data = message ∧
      (socketRecvAll calls message.length inbound).rest <+: tail ∧
        inbound = message ++ (socketRecvAll calls message.length inbound).rest := by
  unfold socketRecvAll at hstatus ⊢
  have henough := le_length_of_recvLoop_complete hstatus
  rw [recvLoop_eq_of_complete hstatus]
  obtain ⟨missing, hmissing⟩ := hbegins
  have htake : inbound.take message.length = message := by
    have htake' : (inbound ++ missing).take message.length = message := by
      rw [hmissing, List.take_left]
    rwa [List.take_append_of_le_length henough] at htake'
  have hdrop : inbound.drop message.length ++ missing = tail := by
    rw [← List.drop_append_of_le_length henough, hmissing, List.drop_left]
  refine ⟨htake, ⟨missing, hdrop⟩, ?_⟩
  show inbound = message ++ inbound.drop message.length
  conv_lhs => rw [← List.take_append_drop message.length inbound, htake]

omit [DecidableEq D] in
/-- A helper that goes on after an answer has read the whole request. -/
theorem CaptureSide.unread_goOn {server : CaptureServer D} {next : Option (Bool × List UInt8)}
    (h : ∀ authenticated rest, next = some (authenticated, rest) → rest = []) :
    (CaptureSide.goOn server next).unread = [] := by
  cases next with
  | none => rfl
  | some next => exact h next.1 next.2 rfl

/-- On a connection in step, what is on the stream is what the helper writes. -/
theorem CaptureConnection.InStep.deliver_inbound {connection : CaptureConnection D}
    (h : connection.InStep) (env : CaptureEnv D) (bytes : List UInt8) :
    (connection.deliver env bytes).inbound =
      writtenBytes (connection.helper.receive env bytes).events := by
  show connection.inbound ++ _ = _
  rw [h.inbound_eq, List.nil_append]

/-- On a connection in step, a request that is alone on the stream is refused without a
word, or it is answered on an accepted connection; and the helper has then read all of
it. -/
theorem CaptureConnection.InStep.deliver_cases {connection : CaptureConnection D}
    (h : connection.InStep) (env : CaptureEnv D) (request : CaptureRequest)
    (body : List UInt8)
    (hsize : ∀ authenticated size, requestBody authenticated request = some size →
      size = body.length) :
    (connection.deliver env (request.encode ++ body)).helper.unread = [] ∧
      ((connection.deliver env (request.encode ++ body)).inbound = [] ∨
        ∃ server authenticated, connection.helper = .serving server authenticated [] ∧
          requestBody authenticated request = some body.length ∧
            connection.helper.receive env (request.encode ++ body) =
              ⟨.received request.encode body ::
                (server.answerRequest env request body []).events,
                  (server.answerRequest env request body []).next⟩) := by
  obtain ⟨helper, inbound⟩ := connection
  obtain ⟨hinbound, hunread⟩ := h
  simp only at hinbound hunread
  subst hinbound
  cases helper with
  | ended => exact ⟨rfl, Or.inl rfl⟩
  | serving server authenticated unread =>
    have hnil : unread = [] := hunread
    subst hnil
    rcases serveRequest_cases server env (hsize authenticated) with
      ⟨header, read, hturn⟩ | ⟨hbody, hturn⟩
    · have hreceive : (CaptureSide.serving server authenticated []).receive env
          (request.encode ++ body) = ⟨[.received header read], none⟩ := hturn
      unfold CaptureConnection.deliver
      simp only [hreceive]
      exact ⟨rfl, Or.inl rfl⟩
    · have hreceive : (CaptureSide.serving server authenticated []).receive env
          (request.encode ++ body) = ⟨.received request.encode body ::
            (server.answerRequest env request body []).events,
              (server.answerRequest env request body []).next⟩ := hturn
      refine ⟨?_, Or.inr ⟨server, authenticated, rfl, hbody, hreceive⟩⟩
      unfold CaptureConnection.deliver
      simp only [hreceive]
      exact CaptureSide.unread_goOn fun _ _ hnext => (answerRequest_next hnext).2

theorem requestBody_frameRequest (authenticated : Bool) :
    requestBody authenticated frameRequest = if authenticated then some 0 else none := by
  cases authenticated <;> rfl

theorem requestBody_inputRequest {authenticated : Bool} {events : List CaptureInputEvent}
    (hpos : 0 < events.length) (hle : events.length ≤ captureMaxInputEvents.toNat) :
    requestBody authenticated (inputRequest (UInt32.ofNat events.length)) =
      if authenticated then some (CaptureInputEvent.encodeAll events).length else none := by
  have hmax : captureMaxInputEvents.toNat = 64 := rfl
  have hcount : (UInt32.ofNat events.length).toNat = events.length :=
    toNat_ofNat_eq (by omega)
  have hzero : ¬UInt32.ofNat events.length = 0 := by
    intro heq
    have hnat : (UInt32.ofNat events.length).toNat = 0 := by rw [heq]; rfl
    omega
  have hlt : ¬captureMaxInputEvents < UInt32.ofNat events.length := by
    rw [UInt32.lt_iff_toNat_lt, hcount]
    omega
  cases authenticated with
  | false => rfl
  | true =>
    show (if UInt32.ofNat events.length = 0 || captureMaxInputEvents < UInt32.ofNat events.length
      then none else some (CaptureInputEvent.size * (UInt32.ofNat events.length).toNat)) = _
    rw [if_neg (by simp [hzero, hlt]), if_pos rfl, hcount, CaptureInputEvent.encodeAll_length]

omit [DecidableEq D] in
theorem requestBody_authRequest (authenticated : Bool) :
    requestBody authenticated authRequest = some captureAuthTokenSize.toNat := by
  cases authenticated <;> rfl

/-- A chunk that is converted has all its events, and at most 64 of them. -/
theorem chunkEvents?_eq {inputs : List HookInput} {events : List CaptureInputEvent}
    (h : chunkEvents? inputs = some events) :
    inputs.map HookInput.event? = events.map some ∧ events.length = inputs.length ∧
      0 < events.length ∧ events.length ≤ captureMaxInputEvents.toNat := by
  have hmap : ∀ (inputs : List HookInput) (events : List CaptureInputEvent),
      inputs.mapM HookInput.event? = some events →
        inputs.map HookInput.event? = events.map some := by
    intro inputs
    induction inputs with
    | nil =>
      intro events hevents
      obtain rfl := Option.some.inj hevents
      rfl
    | cons input inputs ih =>
      intro events hevents
      rw [List.mapM_cons] at hevents
      obtain ⟨event, hevent, hrest⟩ := Option.bind_eq_some_iff.mp hevents
      obtain ⟨rest, hinputs, hcons⟩ := Option.bind_eq_some_iff.mp hrest
      obtain rfl := Option.some.inj hcons
      rw [List.map_cons, List.map_cons, hevent, ih rest hinputs]
  unfold chunkEvents? at h
  split_ifs at h with hcount
  have hequal := hmap inputs events h
  have hlength : events.length = inputs.length := by
    have hlengths := congrArg List.length hequal
    rw [List.length_map, List.length_map] at hlengths
    exact hlengths.symm
  simp only [Bool.or_eq_true, decide_eq_true_eq, not_or] at hcount
  refine ⟨hequal, hlength, ?_, ?_⟩ <;> omega

/-! ## A new connection -/

omit [DecidableEq D] in
theorem CaptureServer.accept_inStep (server : CaptureServer D) : server.accept.InStep :=
  ⟨rfl, rfl⟩

/-- In answer to an authentication a helper writes at most the reply. -/
theorem CaptureServer.accept_auth (server : CaptureServer D) (env : CaptureEnv D)
    {token : List UInt8} (hlength : token.length = captureAuthTokenSize.toNat) :
    (server.accept.deliver env (authMessage token)).helper.unread = [] ∧
      (server.accept.deliver env (authMessage token)).inbound <+:
        (authReply (server.authTokenEqual token)).encode := by
  obtain ⟨hunread, hanswer⟩ := server.accept_inStep.deliver_cases env authRequest token (by
      intro authenticated size heq
      rw [requestBody_authRequest] at heq
      exact (Option.some.inj heq).symm.trans hlength.symm)
  refine ⟨hunread, ?_⟩
  rcases hanswer with hnil | ⟨server', _, hhelper, -, hreceive⟩
  · unfold authMessage
    rw [hnil]
    exact List.nil_prefix
  · obtain ⟨rfl, -, -⟩ := CaptureSide.serving.inj hhelper
    unfold authMessage
    rw [server.accept_inStep.deliver_inbound, hreceive]
    exact answerAuth_written server env token []

/-- A connection is opened without an authentication, or with the token of the helper;
it is in step. -/
theorem connectHelper_cases {env : CaptureConnectEnv D} {token : List UInt8}
    {connection : CaptureConnection D} (h : connectHelper env token = some connection) :
    connection.InStep ∧
      (token = [] ∧ connection = env.server.accept ∨ token = env.server.requiredAuthToken) := by
  unfold connectHelper authenticateHelper at h
  simp only at h
  split_ifs at h with _ _ _ hempty hsize hsend hstatus haccepted
  · obtain rfl := Option.some.inj h
    exact ⟨env.server.accept_inStep, Or.inl ⟨List.length_eq_zero_iff.mp hempty, rfl⟩⟩
  · obtain rfl := Option.some.inj h
    have hlength : token.length = captureAuthTokenSize.toNat := not_not.mp hsize
    obtain ⟨hunread, hbegins⟩ := env.server.accept_auth env.turn hlength
    rw [← List.append_nil (authReply _).encode] at hbegins
    obtain ⟨hdata, hrest, -⟩ := socketRecvAll_begins hbegins (by
      rw [CaptureAuthReply.encode_length]
      exact not_not.mp hstatus)
    rw [CaptureAuthReply.encode_length] at hdata hrest
    refine ⟨⟨List.prefix_nil.mp hrest, hunread⟩, Or.inr ?_⟩
    rw [hdata, CaptureAuthReply.decode_encode] at haccepted
    cases hequal : env.server.authTokenEqual token with
    | true => exact (authTokenEqual_iff hlength).mp hequal
    | false =>
      rw [hequal] at haccepted
      exact absurd rfl haccepted

end Hook

end UuAmfBridge
