import UuAmfBridge.Capture.EisInput
import UuAmfBridge.Capture.FrameState
import UuAmfBridge.Helper.Session

/-!
# A connection of the capture helper

`handle_client` of `src/wayland_capture_helper.cpp`: it reads a request of four
words, and for an authentication or an input request the bytes behind it, and
answers until a request is refused, a call fails, or the stream ends.
`receiveRequest` is the reading half of the loop, `answerRequest` the answering
half, and `handleClient` runs the loop over the bytes that a client sends.

The events of a connection are what it does: the bytes it reads and writes, the
captures it triggers, and the batches it hands to `InputBridge::send`.  The
`recv_all` and `send_all` of this helper are those of the encoder helper.

* `authTokenEqual_iff`: only the required token is accepted.
* `receiveRequest_accepted`: an accepted request and its body are the beginning of
  the stream.
* `serveRequest_cases`: a request that is alone on the stream is read and refused, or
  it is answered.
-/

namespace UuAmfBridge

/-! ## The helper -/

/-- `required_auth_token`, `kwin_capture_on_request`, and what the compositor says of
its devices. -/
structure CaptureServer (D : Type*) where
  requiredAuthToken : List UInt8 := []
  kwinCaptureOnRequest : Bool := false
  caps : D → Capability → Bool
  regions : D → Option EiRegion

/-- What happens while one request is served: the calls of the socket, the frame that
is there after the capture and the wait, and what `InputBridge::send` meets. -/
structure CaptureEnv (D : Type*) where
  headerRecv : List RecvResult := []
  bodyRecv : List RecvResult := []
  frame : FrameState := {}
  bridge : InputBridge D := {}
  send : SendOp D := { events := [] }
  replySend : List SendResult := []
  pixelsSend : List SendResult := []

/-- What a connection does. -/
inductive CaptureEvent where
  /-- The bytes of a request, and those behind it. -/
  | received (header body : List UInt8)
  | sent (bytes : List UInt8)
  /-- `capture_kwin_workspace`. -/
  | kwinCapture
  /-- `InputBridge::send`. -/
  | inject (events : List CaptureInputEvent)

/-- The bytes an event takes from the stream. -/
def CaptureEvent.taken : CaptureEvent → List UInt8
  | .received header body => header ++ body
  | _ => []

/-- The bytes an event writes. -/
def CaptureEvent.written : CaptureEvent → List UInt8
  | .sent bytes => bytes
  | _ => []

/-- The bytes a connection has written, in order. -/
def writtenBytes (events : List CaptureEvent) : List UInt8 := events.flatMap CaptureEvent.written

/-- The end of one turn of the loop: what it did, and where it goes on. -/
structure CaptureTurn where
  events : List CaptureEvent
  next : Option (Bool × List UInt8)

/-- `auth_token_equal`; `token` has 64 bytes. -/
def CaptureServer.authTokenEqual {D : Type*} (server : CaptureServer D) (token : List UInt8) :
    Bool :=
  if server.requiredAuthToken.length ≠ captureAuthTokenSize.toNat then false
  else ((token.zip server.requiredAuthToken).foldl
    (fun difference pair => difference ||| (pair.1 ^^^ pair.2)) 0) == 0

/-- How many bytes `handle_client` reads behind a request; `none` where it gives up. -/
def requestBody (authenticated : Bool) (request : CaptureRequest) : Option Nat :=
  if request.magic ≠ captureMagic || request.protocolVersion ≠ captureProtocolVersion then none
  else if request.type = captureAuthRequest then
    if request.reserved ≠ captureAuthTokenSize then none else some captureAuthTokenSize.toNat
  else if !authenticated then none
  else if request.type = captureRequest then some 0
  else if request.type = captureInputRequest then
    if request.reserved = 0 || captureMaxInputEvents < request.reserved then none
    else some (CaptureInputEvent.size * request.reserved.toNat)
  else none

/-- What the reading half of the loop has read; `accepted` is the request and the rest
of the stream, where it is to be answered. -/
structure ReceivedRequest where
  header : List UInt8
  body : List UInt8
  accepted : Option (CaptureRequest × List UInt8)

section Helper

variable {D : Type*}

/-- The reading half of the loop. -/
def receiveRequest (env : CaptureEnv D) (authenticated : Bool) (stream : List UInt8) :
    ReceivedRequest :=
  let header := recvAll env.headerRecv CaptureRequest.size stream
  if header.status ≠ .complete then ⟨header.data, [], none⟩
  else
    let request := CaptureRequest.decode header.data
    match requestBody authenticated request with
    | none => ⟨header.data, [], none⟩
    | some size =>
        let body := recvAll env.bodyRecv size header.rest
        ⟨header.data, body.data,
          if body.status = .complete then some (request, body.rest) else none⟩

/-- The reply to an authentication. -/
def authReply (authenticated : Bool) : CaptureAuthReply where
  magic := captureMagic
  type := captureAuthReply
  protocolVersion := captureProtocolVersion
  status := if authenticated then 0 else 1

/-- The branch of an authentication. -/
def CaptureServer.answerAuth (server : CaptureServer D) (env : CaptureEnv D)
    (token rest : List UInt8) : CaptureTurn :=
  let authenticated := server.authTokenEqual token
  let sent := sendAll env.replySend (authReply authenticated).encode
  ⟨[.sent sent.sent], if sent.complete && authenticated then some (true, rest) else none⟩

/-- The capture that a frame request triggers. -/
def CaptureServer.kwinEvents (server : CaptureServer D) : List CaptureEvent :=
  if server.kwinCaptureOnRequest then [.kwinCapture] else []

/-- The branch of a frame request. -/
def CaptureServer.answerFrame (server : CaptureServer D) (env : CaptureEnv D)
    (rest : List UInt8) : CaptureTurn :=
  let (reply, pixels) := env.frame.reply
  let head := sendAll env.replySend reply.encode
  if !head.complete then ⟨server.kwinEvents ++ [.sent head.sent], none⟩
  else
    let payload := sendAll env.pixelsSend pixels
    ⟨server.kwinEvents ++ [.sent (head.sent ++ payload.sent)],
      if payload.complete then some (true, rest) else none⟩

variable [DecidableEq D]

/-- `InputBridge::send` for the events of a request. -/
def CaptureServer.sendBatch (server : CaptureServer D) (env : CaptureEnv D)
    (events : List CaptureInputEvent) : SentBatch D :=
  sendInput server.caps server.regions { env.send with events } env.bridge

/-- The reply to an input request of `count` events. -/
def inputReply (accepted count : UInt32) : CaptureInputReply where
  magic := captureMagic
  type := captureInputReply
  protocolVersion := captureProtocolVersion
  status := if accepted = count then 0 else 1
  acceptedCount := accepted

/-- The branch of an input request. -/
def CaptureServer.answerInput (server : CaptureServer D) (env : CaptureEnv D) (count : UInt32)
    (body rest : List UInt8) : CaptureTurn :=
  let events := CaptureInputEvent.decodeAll count.toNat body
  let accepted := UInt32.ofNat (server.sendBatch env events).accepted
  let sent := sendAll env.replySend (inputReply accepted count).encode
  ⟨[.inject events, .sent sent.sent], if sent.complete then some (true, rest) else none⟩

/-- The answering half of the loop. -/
def CaptureServer.answerRequest (server : CaptureServer D) (env : CaptureEnv D)
    (request : CaptureRequest) (body rest : List UInt8) : CaptureTurn :=
  if request.type = captureAuthRequest then server.answerAuth env body rest
  else if request.type = captureRequest then server.answerFrame env rest
  else server.answerInput env request.reserved body rest

/-- One turn of the loop of `handle_client`. -/
def CaptureServer.serveRequest (server : CaptureServer D) (env : CaptureEnv D)
    (authenticated : Bool) (stream : List UInt8) : CaptureTurn :=
  let received := receiveRequest env authenticated stream
  match received.accepted with
  | none => ⟨[.received received.header received.body], none⟩
  | some (request, rest) =>
      let answer := server.answerRequest env request received.body rest
      ⟨.received received.header received.body :: answer.events, answer.next⟩

/-- The loop of `handle_client`.  Past the end of the environment the client stays
silent. -/
def CaptureServer.serveRequests (server : CaptureServer D) :
    List (CaptureEnv D) → Bool → List UInt8 → List CaptureEvent
  | [], _, _ => []
  | env :: envs, authenticated, stream =>
      let turn := server.serveRequest env authenticated stream
      match turn.next with
      | none => turn.events
      | some (authenticated, rest) =>
          turn.events ++ server.serveRequests envs authenticated rest

/-- `handle_client`: the events of a connection over the bytes the client sends. -/
def CaptureServer.handleClient (server : CaptureServer D) (envs : List (CaptureEnv D))
    (stream : List UInt8) : List CaptureEvent :=
  server.serveRequests envs server.requiredAuthToken.isEmpty stream

/-! ## Tokens -/

/-- The request that an authentication begins with. -/
def authRequest : CaptureRequest where
  magic := captureMagic
  type := captureAuthRequest
  protocolVersion := captureProtocolVersion
  reserved := captureAuthTokenSize

/-- The bytes of an authentication with a token. -/
def authMessage (token : List UInt8) : List UInt8 := authRequest.encode ++ token

/-- The bits in which two lists of bytes differ, gathered in one byte. -/
theorem foldl_difference_eq_zero_iff (first second : List UInt8) (difference : UInt8)
    (hlength : first.length = second.length) :
    (first.zip second).foldl (fun difference pair => difference ||| (pair.1 ^^^ pair.2))
      difference = 0 ↔ difference = 0 ∧ first = second := by
  induction first generalizing second difference with
  | nil =>
    have hnil := List.eq_nil_of_length_eq_zero hlength.symm
    rw [hnil]
    simp
  | cons x first ih =>
    cases second with
    | nil => simp at hlength
    | cons y second =>
      have hlength' : first.length = second.length := by simpa using hlength
      rw [List.zip_cons_cons, List.foldl_cons, ih second _ hlength', UInt8.or_eq_zero_iff,
        UInt8.xor_eq_zero_iff, List.cons.injEq]
      tauto

omit [DecidableEq D] in
/-- The token is compared whole, and no token equals a required token that is empty. -/
theorem authTokenEqual_iff {server : CaptureServer D} {token : List UInt8}
    (hlength : token.length = captureAuthTokenSize.toNat) :
    server.authTokenEqual token = true ↔ token = server.requiredAuthToken := by
  unfold CaptureServer.authTokenEqual
  split_ifs with hsize
  · constructor
    · exact nofun
    · intro heq
      exact absurd (heq ▸ hlength) hsize
  · rw [not_not] at hsize
    rw [beq_iff_eq, foldl_difference_eq_zero_iff _ _ _ (hlength.trans hsize.symm)]
    exact and_iff_right rfl

/-! ## What a turn reads -/

omit [DecidableEq D] in
/-- An accepted request and its body are the beginning of the stream. -/
theorem receiveRequest_accepted {env : CaptureEnv D} {authenticated : Bool}
    {stream rest : List UInt8} {request : CaptureRequest}
    (h : (receiveRequest env authenticated stream).accepted = some (request, rest)) :
    ∃ size, requestBody authenticated request = some size ∧
      request = CaptureRequest.decode (receiveRequest env authenticated stream).header ∧
      (receiveRequest env authenticated stream).header.length = CaptureRequest.size ∧
      (receiveRequest env authenticated stream).body.length = size ∧
      stream = (receiveRequest env authenticated stream).header ++
        (receiveRequest env authenticated stream).body ++ rest := by
  unfold receiveRequest at h ⊢
  simp only at h ⊢
  by_cases hheader : (recvAll env.headerRecv CaptureRequest.size stream).status = .complete
  · have hlength := (recvLoop_complete_iff_length helperRecv _ _ _).mp hheader
    have hsplit := recvLoop_data_append_rest helperRecv env.headerRecv CaptureRequest.size stream
    rw [if_neg (not_not.mpr hheader)] at h ⊢
    unfold recvAll at h ⊢
    generalize recvLoop helperRecv env.headerRecv CaptureRequest.size stream = header
      at h hlength hsplit ⊢
    cases hsize : requestBody authenticated (CaptureRequest.decode header.data) with
    | none =>
      rw [hsize] at h
      cases h
    | some size =>
      rw [hsize] at h
      simp only at h ⊢
      have hbodySplit := recvLoop_data_append_rest helperRecv env.bodyRecv size header.rest
      split_ifs at h with hbody
      obtain ⟨rfl, rfl⟩ := Prod.mk.inj (Option.some.inj h)
      have hbodyLength := (recvLoop_complete_iff_length helperRecv _ _ _).mp hbody
      refine ⟨size, hsize, rfl, hlength, hbodyLength, ?_⟩
      rw [List.append_assoc, hbodySplit, hsplit]
  · rw [if_pos hheader] at h
    cases h

omit [DecidableEq D] in
/-- A request and a body that arrive undisturbed are accepted, however they are
split. -/
theorem receiveRequest_eq {env : CaptureEnv D} {authenticated : Bool} {request : CaptureRequest}
    {body rest : List UInt8} (hheader : ∀ call ∈ env.headerRecv, call.Undisturbed helperRecv)
    (hbody : ∀ call ∈ env.bodyRecv, call.Undisturbed helperRecv)
    (hsize : requestBody authenticated request = some body.length) :
    receiveRequest env authenticated (request.encode ++ (body ++ rest)) =
      ⟨request.encode, body, some (request, rest)⟩ := by
  have hlength := CaptureRequest.encode_length request
  have hhead : recvAll env.headerRecv CaptureRequest.size (request.encode ++ (body ++ rest)) =
      ⟨.complete, request.encode, body ++ rest⟩ := by
    unfold recvAll
    rw [recvLoop_eq_of_undisturbed hheader (by rw [List.length_append]; omega),
      List.take_left' hlength, List.drop_left' hlength]
  have htail : recvAll env.bodyRecv body.length (body ++ rest) = ⟨.complete, body, rest⟩ := by
    unfold recvAll
    rw [recvLoop_eq_of_undisturbed hbody (by rw [List.length_append]; omega),
      List.take_left' rfl, List.drop_left' rfl]
  unfold receiveRequest
  simp only [hhead, CaptureRequest.decode_encode, hsize, htail]
  rfl

/-! ## What a turn writes -/

@[simp] theorem writtenBytes_sent (bytes : List UInt8) (events : List CaptureEvent) :
    writtenBytes (.sent bytes :: events) = bytes ++ writtenBytes events := rfl

@[simp] theorem writtenBytes_received (header body : List UInt8) (events : List CaptureEvent) :
    writtenBytes (.received header body :: events) = writtenBytes events := rfl

omit [DecidableEq D] in
@[simp] theorem writtenBytes_kwinEvents (server : CaptureServer D) (events : List CaptureEvent) :
    writtenBytes (server.kwinEvents ++ events) = writtenBytes events := by
  unfold CaptureServer.kwinEvents
  cases server.kwinCaptureOnRequest <;> rfl

@[simp] theorem writtenBytes_inject (batch : List CaptureInputEvent)
    (events : List CaptureEvent) :
    writtenBytes (.inject batch :: events) = writtenBytes events := rfl

@[simp] theorem writtenBytes_nil : writtenBytes [] = [] := rfl

theorem sendAll_begins (calls : List SendResult) (data : List UInt8) :
    (sendAll calls data).sent <+: data := (sendLoop_sent_begins true calls data).1

theorem sendAll_sent {calls : List SendResult} {data : List UInt8}
    (h : (sendAll calls data).complete = true) : (sendAll calls data).sent = data :=
  sendLoop_sent_of_complete h

omit [DecidableEq D] in
/-- The reply to an authentication, or a beginning of it. -/
theorem answerAuth_written (server : CaptureServer D) (env : CaptureEnv D)
    (token rest : List UInt8) :
    writtenBytes (server.answerAuth env token rest).events <+:
      (authReply (server.authTokenEqual token)).encode := by
  unfold CaptureServer.answerAuth
  simp only [writtenBytes_sent, writtenBytes_nil, List.append_nil]
  exact sendAll_begins _ _

omit [DecidableEq D] in
/-- The reply to a frame request and the pixels, or a beginning of them. -/
theorem answerFrame_written (server : CaptureServer D) (env : CaptureEnv D)
    (rest : List UInt8) :
    writtenBytes (server.answerFrame env rest).events <+:
      env.frame.reply.1.encode ++ env.frame.reply.2 := by
  unfold CaptureServer.answerFrame
  simp only
  by_cases hhead : (sendAll env.replySend env.frame.reply.1.encode).complete = true
  · rw [hhead, Bool.not_true, if_neg Bool.false_ne_true]
    simp only [writtenBytes_kwinEvents, writtenBytes_sent, writtenBytes_nil, List.append_nil]
    rw [sendAll_sent hhead]
    exact (List.prefix_append_right_inj _).mpr (sendAll_begins _ _)
  · rw [if_pos (by simpa using hhead)]
    simp only [writtenBytes_kwinEvents, writtenBytes_sent, writtenBytes_nil, List.append_nil]
    exact (sendAll_begins _ _).trans (List.prefix_append _ _)

/-- The reply to an input request, or a beginning of it. -/
theorem answerInput_written (server : CaptureServer D) (env : CaptureEnv D) (count : UInt32)
    (body rest : List UInt8) :
    writtenBytes (server.answerInput env count body rest).events <+:
      (inputReply (UInt32.ofNat (server.sendBatch env
        (CaptureInputEvent.decodeAll count.toNat body)).accepted) count).encode := by
  unfold CaptureServer.answerInput
  simp only [writtenBytes_sent, writtenBytes_inject, writtenBytes_nil, List.append_nil]
  exact sendAll_begins _ _

/-- An answer goes on authenticated, with the rest of the stream. -/
theorem answerRequest_next {server : CaptureServer D} {env : CaptureEnv D}
    {request : CaptureRequest} {body rest rest' : List UInt8} {authenticated : Bool}
    (h : (server.answerRequest env request body rest).next = some (authenticated, rest')) :
    authenticated = true ∧ rest' = rest := by
  unfold CaptureServer.answerRequest CaptureServer.answerAuth CaptureServer.answerFrame
    CaptureServer.answerInput at h
  simp only at h
  split_ifs at h
  all_goals
    obtain ⟨rfl, rfl⟩ := Prod.mk.inj (Option.some.inj h)
    exact ⟨rfl, rfl⟩

/-- One request and its body alone on the stream: the turn reads and gives up, or it
answers. -/
theorem serveRequest_cases (server : CaptureServer D) (env : CaptureEnv D)
    {authenticated : Bool} {request : CaptureRequest} {body : List UInt8}
    (hsize : ∀ size, requestBody authenticated request = some size → size = body.length) :
    (∃ header read, server.serveRequest env authenticated (request.encode ++ body) =
      ⟨[.received header read], none⟩) ∨
      requestBody authenticated request = some body.length ∧
        server.serveRequest env authenticated (request.encode ++ body) =
          ⟨.received request.encode body ::
            (server.answerRequest env request body []).events,
              (server.answerRequest env request body []).next⟩ := by
  unfold CaptureServer.serveRequest
  simp only
  cases haccepted : (receiveRequest env authenticated (request.encode ++ body)).accepted with
  | none => exact Or.inl ⟨_, _, rfl⟩
  | some accepted =>
    obtain ⟨request', rest⟩ := accepted
    obtain ⟨size, hbody, hrequest, hheader, hread, hstream⟩ := receiveRequest_accepted haccepted
    rw [List.append_assoc] at hstream
    obtain ⟨hheaderEq, htail⟩ := List.append_inj hstream
      ((CaptureRequest.encode_length request).trans hheader.symm)
    rw [← hheaderEq, CaptureRequest.decode_encode] at hrequest
    subst hrequest
    have hlength := hsize size hbody
    obtain ⟨hbodyEq, hrest⟩ := List.append_inj (htail.symm.trans (List.append_nil body).symm)
      (hread.trans hlength)
    right
    refine ⟨hlength ▸ hbody, ?_⟩
    simp only [← hheaderEq, hbodyEq, hrest]

end Helper

end UuAmfBridge
