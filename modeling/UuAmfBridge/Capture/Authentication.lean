import Mathlib.Data.List.Forall2
import UuAmfBridge.Capture.Hook

/-!
# Authentication of the capture hook

A capture helper that runs with a token serves a connection once it has read an
authentication with that token; until then it reads one request and gives up.

What a helper does before that is `beforeAuth`: the events up to the point where the
bytes it has read begin with the right authentication.  It is a function of the calls
of the socket alone (`beforeAuth_handleClient`), so neither the frame nor the state of
the input can show through it.

* `serveRequests_wrongToken`: an authentication with another token is answered with the
  refusal, and nothing is read after it.
* `connectHelper_serves` and `connectHelper_answers`: the connection that the hook opens
  is served exactly when both sides have the same token.
* `capture_authentication`: these together.
-/

namespace UuAmfBridge

section Authentication

variable {D : Type*} [DecidableEq D]

/-! ## What a helper does before an authentication -/

/-- The events before the bytes that have been read begin with an authentication with
`token`. -/
def beforeAuth (token : List UInt8) : List UInt8 → List CaptureEvent → List CaptureEvent
  | _, [] => []
  | seen, event :: events =>
      if authMessage token <+: seen then []
      else event :: beforeAuth token (seen ++ event.taken) events

/-- An event that reads, or writes no more than the refusal of an authentication. -/
def CaptureEvent.Refuses : CaptureEvent → Prop
  | .received _ _ => True
  | .sent bytes => bytes <+: (authReply false).encode
  | .kwinCapture | .inject _ => False

/-- The calls of the socket go alike for one request; the frame and the state of the
input may be others. -/
structure CaptureEnv.SameCalls (env env' : CaptureEnv D) : Prop where
  headerRecv_eq : env.headerRecv = env'.headerRecv
  bodyRecv_eq : env.bodyRecv = env'.bodyRecv
  replySend_eq : env.replySend = env'.replySend

/-- What a helper does before an authentication with its token: it reads a request, and
refuses one with another token. -/
def CaptureServer.lockedEvents (server : CaptureServer D) (env : CaptureEnv D)
    (stream : List UInt8) : List CaptureEvent :=
  let received := receiveRequest env false stream
  let event := CaptureEvent.received received.header received.body
  match received.accepted with
  | none => [event]
  | some _ =>
      if received.body = server.requiredAuthToken then [event]
      else [event, .sent (sendAll env.replySend (authReply false).encode).sent]

omit [DecidableEq D] in
theorem not_authMessage_prefix_nil (token : List UInt8) : ¬authMessage token <+: [] := by
  intro h
  have hnil := congrArg List.length (List.prefix_nil.mp h)
  unfold authMessage at hnil
  rw [List.length_append, CaptureRequest.encode_length] at hnil
  exact absurd hnil (by simp [CaptureRequest.size])

omit [DecidableEq D] in
/-- Without an authentication only an authentication is accepted. -/
theorem requestBody_unauthenticated {request : CaptureRequest} {size : Nat}
    (h : requestBody false request = some size) :
    request = authRequest ∧ size = captureAuthTokenSize.toNat := by
  obtain ⟨magic, type, protocolVersion, reserved⟩ := request
  unfold requestBody at h
  simp only [Bool.or_eq_true, decide_eq_true_eq, ne_eq, decide_not, Bool.not_eq_true',
    decide_eq_false_iff_not, Bool.not_false] at h
  split_ifs at h with hhead htype hsize
  · obtain rfl := htype
    simp only [not_or, not_not] at hhead
    obtain ⟨rfl, rfl⟩ := hhead
    exact ⟨by rw [hsize]; rfl, (Option.some.inj h).symm⟩

/-- Without an authentication a turn answers a whole authentication and nothing else. -/
theorem serveRequest_unauthenticated (server : CaptureServer D) {env : CaptureEnv D}
    {stream rest : List UInt8} {request : CaptureRequest}
    (h : (receiveRequest env false stream).accepted = some (request, rest)) :
    (receiveRequest env false stream).header = authRequest.encode ∧
      (receiveRequest env false stream).body.length = captureAuthTokenSize.toNat ∧
      server.serveRequest env false stream =
        ⟨.received (receiveRequest env false stream).header
            (receiveRequest env false stream).body ::
          (server.answerAuth env (receiveRequest env false stream).body rest).events,
          (server.answerAuth env (receiveRequest env false stream).body rest).next⟩ := by
  obtain ⟨size, hbody, hrequest, hheader, hread, -⟩ := receiveRequest_accepted h
  obtain ⟨hauth, hsize⟩ := requestBody_unauthenticated hbody
  refine ⟨?_, hread.trans hsize, ?_⟩
  · rw [← CaptureRequest.encode_decode hheader, ← hrequest, hauth]
  · unfold CaptureServer.serveRequest
    simp only [h]
    unfold CaptureServer.answerRequest
    rw [if_pos (by rw [hauth]; rfl)]

omit [DecidableEq D] in
/-- The answer to an authentication with another token is the refusal. -/
theorem answerAuth_wrongToken {server : CaptureServer D} {token : List UInt8}
    (hlength : token.length = captureAuthTokenSize.toNat)
    (hwrong : token ≠ server.requiredAuthToken) (env : CaptureEnv D) (rest : List UInt8) :
    server.answerAuth env token rest =
      ⟨[.sent (sendAll env.replySend (authReply false).encode).sent], none⟩ := by
  have hrefused : server.authTokenEqual token = false := by
    rw [Bool.eq_false_iff, ne_eq, authTokenEqual_iff hlength]
    exact hwrong
  unfold CaptureServer.answerAuth
  rw [hrefused]
  simp only [Bool.and_false, Bool.false_eq_true, if_false]

omit [DecidableEq D] in
/-- Once the bytes begin with the authentication nothing comes before it. -/
theorem beforeAuth_of_prefix {token seen : List UInt8} (h : authMessage token <+: seen)
    (events : List CaptureEvent) : beforeAuth token seen events = [] := by
  cases events with
  | nil => rfl
  | cons event events => exact if_pos h

/-- Before the authentication the events are those of one locked request. -/
theorem beforeAuth_handleClient {server : CaptureServer D}
    (htoken : server.requiredAuthToken.length = captureAuthTokenSize.toNat)
    (envs : List (CaptureEnv D)) (stream : List UInt8) :
    beforeAuth server.requiredAuthToken [] (server.handleClient envs stream) =
      match envs with
      | [] => []
      | env :: _ => server.lockedEvents env stream := by
  have hlocked : server.requiredAuthToken.isEmpty = false := by
    cases hempty : server.requiredAuthToken with
    | nil =>
      rw [hempty] at htoken
      exact absurd htoken (by decide)
    | cons x token => rfl
  have hstart := not_authMessage_prefix_nil server.requiredAuthToken
  cases envs with
  | nil => rfl
  | cons env envs =>
    unfold CaptureServer.handleClient
    rw [hlocked]
    unfold CaptureServer.serveRequests CaptureServer.lockedEvents
    simp only
    cases haccepted : (receiveRequest env false stream).accepted with
    | none =>
      have hturn : server.serveRequest env false stream =
          ⟨[.received (receiveRequest env false stream).header
            (receiveRequest env false stream).body], none⟩ := by
        unfold CaptureServer.serveRequest
        simp only [haccepted]
      rw [hturn]
      simp only [beforeAuth]
      rw [if_neg hstart]
    | some accepted =>
      obtain ⟨request, rest⟩ := accepted
      obtain ⟨hheader, hbody, hturn⟩ := serveRequest_unauthenticated server haccepted
      rw [hturn, hheader]
      generalize (receiveRequest env false stream).body = token at hbody ⊢
      have hseen : [] ++ (CaptureEvent.received authRequest.encode token).taken =
          authMessage token := rfl
      have hfirst : ∀ events, beforeAuth server.requiredAuthToken []
          (.received authRequest.encode token :: events) =
            .received authRequest.encode token ::
              beforeAuth server.requiredAuthToken (authMessage token) events := by
        intro events
        rw [beforeAuth, if_neg hstart, hseen]
      by_cases hequal : token = server.requiredAuthToken
      · rw [if_pos hequal]
        have hprefix : authMessage server.requiredAuthToken <+: authMessage token :=
          hequal ▸ List.prefix_rfl
        have hcut : ∀ events, beforeAuth server.requiredAuthToken (authMessage token) events =
            [] := beforeAuth_of_prefix hprefix
        cases (server.answerAuth env token rest).next with
        | none => rw [hfirst, hcut]
        | some next =>
          simp only [List.cons_append]
          rw [hfirst, hcut]
      · rw [if_neg hequal]
        have hother : ¬authMessage server.requiredAuthToken <+: authMessage token := by
          intro hprefix
          have hsame := (List.prefix_append_right_inj authRequest.encode).mp hprefix
          exact hequal (hsame.eq_of_length (htoken.trans hbody.symm)).symm
        rw [answerAuth_wrongToken hbody hequal, hfirst]
        simp only [beforeAuth]
        rw [if_neg hother]

omit [DecidableEq D] in
/-- A locked request is only refused. -/
theorem lockedEvents_refuse {server : CaptureServer D} {env : CaptureEnv D}
    {stream : List UInt8} {event : CaptureEvent} (h : event ∈ server.lockedEvents env stream) :
    event.Refuses := by
  unfold CaptureServer.lockedEvents at h
  simp only at h
  cases haccepted : (receiveRequest env false stream).accepted with
  | none =>
    rw [haccepted] at h
    obtain rfl := List.mem_singleton.mp h
    trivial
  | some accepted =>
    rw [haccepted] at h
    simp only at h
    split_ifs at h
    · obtain rfl := List.mem_singleton.mp h
      trivial
    · rcases List.mem_cons.mp h with rfl | h
      · trivial
      · obtain rfl := List.mem_singleton.mp h
        exact sendAll_begins _ _

omit [DecidableEq D] in
/-- A locked request goes alike where the calls of the socket do. -/
theorem lockedEvents_eq {server : CaptureServer D} {env env' : CaptureEnv D}
    (h : env.SameCalls env') (stream : List UInt8) :
    server.lockedEvents env stream = server.lockedEvents env' stream := by
  have hreceive : receiveRequest env false stream = receiveRequest env' false stream := by
    unfold receiveRequest
    rw [h.headerRecv_eq, h.bodyRecv_eq]
  unfold CaptureServer.lockedEvents
  rw [hreceive, h.replySend_eq]

/-! ## An authentication with another token -/

/-- An answer reads nothing. -/
theorem answerRequest_reads_nothing {server : CaptureServer D} {env : CaptureEnv D}
    {request : CaptureRequest} {body rest : List UInt8} (header read : List UInt8) :
    .received header read ∉ (server.answerRequest env request body rest).events := by
  have hkwin : .received header read ∉ server.kwinEvents := by
    unfold CaptureServer.kwinEvents
    split_ifs
    · intro h
      cases List.mem_singleton.mp h
    · exact List.not_mem_nil
  unfold CaptureServer.answerRequest CaptureServer.answerAuth CaptureServer.answerFrame
    CaptureServer.answerInput
  simp only
  split_ifs
  all_goals simp [hkwin]

/-- A turn reads once, before it does anything else. -/
theorem serveRequest_events (server : CaptureServer D) (env : CaptureEnv D)
    (authenticated : Bool) (stream : List UInt8) :
    ∃ answer, (server.serveRequest env authenticated stream).events =
        .received (receiveRequest env authenticated stream).header
          (receiveRequest env authenticated stream).body :: answer ∧
      ∀ header read, CaptureEvent.received header read ∉ answer := by
  unfold CaptureServer.serveRequest
  simp only
  cases (receiveRequest env authenticated stream).accepted with
  | none => exact ⟨[], rfl, fun _ _ => List.not_mem_nil⟩
  | some accepted => exact ⟨_, rfl, answerRequest_reads_nothing⟩

omit [DecidableEq D] in
/-- An authentication that has been read whole is accepted. -/
theorem receiveRequest_auth {env : CaptureEnv D} {authenticated : Bool} {stream : List UInt8}
    (hheader : (receiveRequest env authenticated stream).header = authRequest.encode)
    (hbody : (receiveRequest env authenticated stream).body.length =
      captureAuthTokenSize.toNat) :
    ∃ rest, (receiveRequest env authenticated stream).accepted = some (authRequest, rest) := by
  unfold receiveRequest at hheader hbody ⊢
  simp only at hheader hbody ⊢
  by_cases hstatus : (recvAll env.headerRecv CaptureRequest.size stream).status = .complete
  · rw [if_neg (not_not.mpr hstatus)] at hheader hbody ⊢
    have hdata : (recvAll env.headerRecv CaptureRequest.size stream).data =
        authRequest.encode := by
      split at hheader <;> exact hheader
    rw [hdata, CaptureRequest.decode_encode, requestBody_authRequest] at hbody ⊢
    simp only at hbody ⊢
    have hread : (recvAll env.bodyRecv captureAuthTokenSize.toNat
        (recvAll env.headerRecv CaptureRequest.size stream).rest).status = .complete :=
      (recvLoop_complete_iff_length helperRecv _ _ _).mpr hbody
    rw [if_pos hread]
    exact ⟨_, rfl⟩
  · rw [if_pos hstatus] at hbody
    have hzero : 0 = captureAuthTokenSize.toNat := hbody
    exact absurd hzero (by decide)

/-- The turn that reads an authentication with another token. -/
theorem serveRequest_wrongToken {server : CaptureServer D} {env : CaptureEnv D}
    {authenticated : Bool} {stream token : List UInt8} {answer : List CaptureEvent}
    (h : (server.serveRequest env authenticated stream).events =
      .received authRequest.encode token :: answer)
    (hlength : token.length = captureAuthTokenSize.toNat)
    (hwrong : token ≠ server.requiredAuthToken) :
    (∃ bytes, answer = [.sent bytes] ∧ bytes <+: (authReply false).encode) ∧
      (server.serveRequest env authenticated stream).next = none := by
  obtain ⟨answer', hevents, -⟩ := serveRequest_events server env authenticated stream
  rw [hevents] at h
  obtain ⟨hreceived, rfl⟩ := List.cons.inj h
  obtain ⟨hheader, rfl⟩ := CaptureEvent.received.inj hreceived
  obtain ⟨rest, haccepted⟩ := receiveRequest_auth hheader hlength
  have hanswer : server.answerRequest env authRequest
      (receiveRequest env authenticated stream).body rest =
        ⟨[.sent (sendAll env.replySend (authReply false).encode).sent], none⟩ := by
    unfold CaptureServer.answerRequest
    rw [if_pos (show authRequest.type = captureAuthRequest from rfl)]
    exact answerAuth_wrongToken hlength hwrong env rest
  have hturn : server.serveRequest env authenticated stream =
      ⟨.received (receiveRequest env authenticated stream).header
          (receiveRequest env authenticated stream).body ::
        [.sent (sendAll env.replySend (authReply false).encode).sent], none⟩ := by
    unfold CaptureServer.serveRequest
    simp only [haccepted, hanswer]
  rw [hturn] at hevents ⊢
  obtain ⟨-, hanswerEq⟩ := List.cons.inj hevents
  exact ⟨⟨_, hanswerEq.symm, sendAll_begins _ _⟩, rfl⟩

/-- The events of a connection are those of its first turn and of the loop after it. -/
theorem serveRequests_cons (server : CaptureServer D) (env : CaptureEnv D)
    (envs : List (CaptureEnv D)) (authenticated : Bool) (stream : List UInt8) :
    ∃ later, server.serveRequests (env :: envs) authenticated stream =
        (server.serveRequest env authenticated stream).events ++ later ∧
      ((server.serveRequest env authenticated stream).next = none ∧ later = [] ∨
        ∃ authenticated' rest,
          (server.serveRequest env authenticated stream).next = some (authenticated', rest) ∧
            later = server.serveRequests envs authenticated' rest) := by
  conv in server.serveRequests (env :: envs) authenticated stream =>
    unfold CaptureServer.serveRequests
  simp only
  cases (server.serveRequest env authenticated stream).next with
  | none => exact ⟨[], (List.append_nil _).symm, Or.inl ⟨rfl, rfl⟩⟩
  | some next => exact ⟨_, rfl, Or.inr ⟨_, _, rfl, rfl⟩⟩

/-- After an authentication with another token a helper writes the refusal, or a
beginning of it, and reads nothing. -/
theorem serveRequests_wrongToken {server : CaptureServer D} {envs : List (CaptureEnv D)}
    {authenticated : Bool} {stream token : List UInt8} {before after : List CaptureEvent}
    (h : server.serveRequests envs authenticated stream =
      before ++ .received authRequest.encode token :: after)
    (hlength : token.length = captureAuthTokenSize.toNat)
    (hwrong : token ≠ server.requiredAuthToken) :
    ∃ bytes, after = [.sent bytes] ∧ bytes <+: (authReply false).encode := by
  induction envs generalizing authenticated stream before with
  | nil => exact absurd h (by simp [CaptureServer.serveRequests])
  | cons env envs ih =>
    obtain ⟨answer, hevents, hreads⟩ := serveRequest_events server env authenticated stream
    obtain ⟨later, hrun, hlater⟩ := serveRequests_cons server env envs authenticated stream
    rw [hrun, hevents, List.cons_append] at h
    cases before with
    | nil =>
      obtain ⟨hreceived, hafter⟩ := List.cons.inj h
      rw [hreceived] at hevents
      obtain ⟨⟨bytes, hbytes, hbegins⟩, hnext⟩ :=
        serveRequest_wrongToken hevents hlength hwrong
      refine ⟨bytes, ?_, hbegins⟩
      rcases hlater with ⟨-, hnil⟩ | ⟨_, _, hgoesOn, -⟩
      · rw [← hafter, hnil, hbytes, List.append_nil]
      · rw [hnext] at hgoesOn
        cases hgoesOn
    | cons event before =>
      obtain ⟨-, htail⟩ := List.cons.inj h
      -- The answer reads nothing, so the authentication is read in a later turn.
      have hfound : ∃ before', later = before' ++ .received authRequest.encode token :: after := by
        rcases List.append_eq_append_iff.mp htail with
          ⟨before', -, hlaterEq⟩ | ⟨before', hanswer, hlaterEq⟩
        · exact ⟨before', hlaterEq⟩
        · cases before' with
          | nil => exact ⟨[], hlaterEq.symm⟩
          | cons first before' =>
            obtain ⟨rfl, -⟩ := List.cons.inj hlaterEq
            exact absurd (hanswer ▸ List.mem_append_right _ List.mem_cons_self) (hreads _ _)
      obtain ⟨before', hlaterEq⟩ := hfound
      rcases hlater with ⟨-, hnil⟩ | ⟨_, _, -, hserved⟩
      · rw [hnil] at hlaterEq
        exact absurd hlaterEq (by simp)
      · exact ih (hserved.symm.trans hlaterEq)

/-! ## The connection that the hook opens -/

/-- What the hook asks for on a connection. -/
inductive CaptureMessage where
  | frame
  | input (events : List CaptureInputEvent)

def CaptureMessage.request : CaptureMessage → CaptureRequest
  | .frame => frameRequest
  | .input events => inputRequest (UInt32.ofNat events.length)

def CaptureMessage.body : CaptureMessage → List UInt8
  | .frame => []
  | .input events => CaptureInputEvent.encodeAll events

/-- The bytes of a message. -/
def CaptureMessage.bytes (message : CaptureMessage) : List UInt8 :=
  message.request.encode ++ message.body

/-- The number of events is one that the hook sends. -/
def CaptureMessage.Valid : CaptureMessage → Prop
  | .frame => True
  | .input events => 0 < events.length ∧ events.length ≤ captureMaxInputEvents.toNat

/-- The helper has answered a frame request with its frame, or injected the events of an
input request and answered. -/
def CaptureTurn.Answers (turn : CaptureTurn) (env : CaptureEnv D) : CaptureMessage → Prop
  | .frame => writtenBytes turn.events = env.frame.reply.1.encode ++ env.frame.reply.2
  | .input events => .inject events ∈ turn.events ∧ ∃ accepted,
      writtenBytes turn.events = (inputReply accepted (UInt32.ofNat events.length)).encode

/-- Nothing fails while the helper serves a request. -/
structure CaptureEnv.Undisturbed (env : CaptureEnv D) : Prop where
  headerRecv : ∀ call ∈ env.headerRecv, call.Undisturbed helperRecv
  bodyRecv : ∀ call ∈ env.bodyRecv, call.Undisturbed helperRecv
  replySend : ∀ call ∈ env.replySend, call.Undisturbed true
  pixelsSend : ∀ call ∈ env.pixelsSend, call.Undisturbed true

/-- The helper answers whatever messages come next, as many as `count`, where nothing
fails. -/
def CaptureSide.Serves : Nat → CaptureSide D → Prop
  | 0, _ => True
  | count + 1, side => ∀ (env : CaptureEnv D) (message : CaptureMessage), env.Undisturbed →
      message.Valid →
        (side.receive env message.bytes).Answers env message ∧
          CaptureSide.Serves count (side.after (side.receive env message.bytes))

/-- Nothing fails while the hook connects. -/
structure CaptureConnectEnv.Undisturbed (env : CaptureConnectEnv D) : Prop where
  wsaStartup : env.wsaStartup = true
  socket : env.socket = true
  connect : env.connect = true
  authSend : ∀ call ∈ env.authSend, call.Undisturbed false
  turn : env.turn.Undisturbed
  authRecv : ∀ call ∈ env.authRecv, call.Undisturbed socketRecv

omit [DecidableEq D] in
theorem requestBody_message {message : CaptureMessage} (h : message.Valid) :
    requestBody true message.request = some message.body.length := by
  cases message with
  | frame => rfl
  | input events =>
    show requestBody true (inputRequest (UInt32.ofNat events.length)) = _
    rw [requestBody_inputRequest h.1 h.2]
    rfl

theorem sendAll_undisturbed {calls : List SendResult} {data : List UInt8}
    (h : ∀ call ∈ calls, call.Undisturbed true) : sendAll calls data = ⟨true, data⟩ :=
  sendLoop_eq_of_undisturbed h

/-- An authenticated helper answers a message and goes on. -/
theorem serveRequest_answers (server : CaptureServer D) {env : CaptureEnv D}
    {message : CaptureMessage} (h : env.Undisturbed) (hvalid : message.Valid) :
    (server.serveRequest env true message.bytes).Answers env message ∧
      (server.serveRequest env true message.bytes).next = some (true, []) := by
  have hreceive : receiveRequest env true message.bytes =
      ⟨message.request.encode, message.body, some (message.request, [])⟩ := by
    have heq : receiveRequest env true (message.request.encode ++ (message.body ++ [])) =
        ⟨message.request.encode, message.body, some (message.request, [])⟩ :=
      receiveRequest_eq h.headerRecv h.bodyRecv (requestBody_message hvalid)
    rwa [List.append_nil] at heq
  unfold CaptureServer.serveRequest
  simp only [hreceive]
  cases message with
  | frame =>
    have hframe : server.answerRequest env frameRequest [] [] =
        ⟨server.kwinEvents ++ [.sent (env.frame.reply.1.encode ++ env.frame.reply.2)],
          some (true, [])⟩ := by
      show server.answerFrame env [] = _
      unfold CaptureServer.answerFrame
      simp only [sendAll_undisturbed h.replySend, sendAll_undisturbed h.pixelsSend]
      rfl
    show CaptureTurn.Answers ⟨_ :: (server.answerRequest env frameRequest [] []).events, _⟩ _ _ ∧
      (server.answerRequest env frameRequest [] []).next = _
    rw [hframe]
    refine ⟨?_, rfl⟩
    show writtenBytes (server.kwinEvents ++ _) = _
    rw [writtenBytes_kwinEvents, writtenBytes_sent, writtenBytes_nil, List.append_nil]
  | input events =>
    have hmax : captureMaxInputEvents.toNat = 64 := rfl
    have hcount : (UInt32.ofNat events.length).toNat = events.length :=
      toNat_ofNat_eq (by have := hvalid.2; omega)
    have hinput : server.answerRequest env (inputRequest (UInt32.ofNat events.length))
        (CaptureInputEvent.encodeAll events) [] =
          ⟨[.inject events, .sent (inputReply (UInt32.ofNat (server.sendBatch env events).accepted)
            (UInt32.ofNat events.length)).encode], some (true, [])⟩ := by
      show server.answerInput env (UInt32.ofNat events.length) _ [] = _
      unfold CaptureServer.answerInput
      rw [hcount, CaptureInputEvent.decodeAll_encodeAll]
      simp only [sendAll_undisturbed h.replySend]
      rfl
    show CaptureTurn.Answers ⟨_ :: (server.answerRequest env
      (inputRequest (UInt32.ofNat events.length)) (CaptureInputEvent.encodeAll events) []).events,
        _⟩ _ _ ∧ (server.answerRequest env (inputRequest (UInt32.ofNat events.length))
          (CaptureInputEvent.encodeAll events) []).next = _
    rw [hinput]
    refine ⟨⟨List.mem_cons_of_mem _ List.mem_cons_self,
      UInt32.ofNat (server.sendBatch env events).accepted, ?_⟩, rfl⟩
    simp only [writtenBytes_received, writtenBytes_inject, writtenBytes_sent, writtenBytes_nil,
      List.append_nil]

/-- An authenticated helper answers every message. -/
theorem serves_of_authenticated (server : CaptureServer D) (count : Nat) :
    (CaptureSide.serving server true []).Serves count := by
  induction count with
  | zero => trivial
  | succ count ih =>
    intro env message henv hvalid
    obtain ⟨hanswers, hnext⟩ := serveRequest_answers server henv hvalid
    refine ⟨hanswers, ?_⟩
    show (CaptureSide.goOn server (server.serveRequest env true message.bytes).next).Serves count
    rw [hnext]
    exact ih

/-- A helper that waits for an authentication answers no message. -/
theorem unauthenticated_answers_nothing (server : CaptureServer D) (env : CaptureEnv D)
    (message : CaptureMessage) :
    ¬(server.serveRequest env false message.bytes).Answers env message := by
  have hrefused : requestBody false message.request = none := by
    cases message with
    | frame => rfl
    | input events => rfl
  have hsize : ∀ size, requestBody false message.request = some size →
      size = message.body.length := by
    rw [hrefused]
    exact nofun
  rcases serveRequest_cases server env hsize with ⟨header, read, hturn⟩ | ⟨hbody, -⟩
  · intro hanswers
    have hevents : (server.serveRequest env false message.bytes).events =
        [.received header read] := congrArg CaptureTurn.events hturn
    cases message with
    | frame =>
      have hwritten : writtenBytes (server.serveRequest env false
          CaptureMessage.frame.bytes).events = _ := hanswers
      rw [hevents] at hwritten
      have hlength := congrArg List.length hwritten
      rw [List.length_append, CaptureReply.encode_length, writtenBytes_received,
        writtenBytes_nil, List.length_nil, CaptureReply.size] at hlength
      omega
    | input events =>
      have hinject := hanswers.1
      rw [hevents] at hinject
      cases List.mem_singleton.mp hinject
  · rw [hrefused] at hbody
    cases hbody

/-- A message is answered on the connection that the hook opens only where both sides have
the same token. -/
theorem connectHelper_answers {env : CaptureConnectEnv D} {token : List UInt8}
    {connection : CaptureConnection D} (h : connectHelper env token = some connection)
    {turn : CaptureEnv D} {message : CaptureMessage}
    (hanswers : (connection.helper.receive turn message.bytes).Answers turn message) :
    token = env.server.requiredAuthToken := by
  rcases (connectHelper_cases h).2 with ⟨rfl, rfl⟩ | hequal
  · cases hrequired : env.server.requiredAuthToken with
    | nil => rfl
    | cons x required =>
      have hhelper : env.server.accept.helper = .serving env.server false [] := by
        unfold CaptureServer.accept
        rw [hrequired]
        rfl
      rw [hhelper] at hanswers
      exact absurd hanswers (unauthenticated_answers_nothing env.server turn message)
  · exact hequal

/-- A helper that accepts a connection admits its own token. -/
theorem receive_rightToken {server : CaptureServer D} {env : CaptureEnv D} (h : env.Undisturbed)
    (hlength : server.requiredAuthToken.length = captureAuthTokenSize.toNat) :
    server.accept.helper.receive env (authMessage server.requiredAuthToken) =
      ⟨[.received authRequest.encode server.requiredAuthToken,
        .sent (authReply true).encode], some (true, [])⟩ := by
  have hequal : server.authTokenEqual server.requiredAuthToken = true :=
    (authTokenEqual_iff hlength).mpr rfl
  have hreceive : receiveRequest env server.requiredAuthToken.isEmpty
      (authMessage server.requiredAuthToken) =
        ⟨authRequest.encode, server.requiredAuthToken, some (authRequest, [])⟩ := by
    have hbody : requestBody server.requiredAuthToken.isEmpty authRequest =
        some server.requiredAuthToken.length := by
      rw [requestBody_authRequest, hlength]
    have heq : receiveRequest env server.requiredAuthToken.isEmpty
        (authRequest.encode ++ (server.requiredAuthToken ++ [])) =
          ⟨authRequest.encode, server.requiredAuthToken, some (authRequest, [])⟩ :=
      receiveRequest_eq h.headerRecv h.bodyRecv hbody
    rwa [List.append_nil] at heq
  show server.serveRequest env server.requiredAuthToken.isEmpty
    (authMessage server.requiredAuthToken) = _
  unfold CaptureServer.serveRequest CaptureServer.answerRequest CaptureServer.answerAuth
  rw [hreceive]
  simp only
  rw [if_pos (show authRequest.type = captureAuthRequest from rfl), hequal]
  simp only [sendAll_undisturbed h.replySend]
  rfl

/-- With the token of the helper the hook opens a connection that is served. -/
theorem connectHelper_serves {env : CaptureConnectEnv D} (h : env.Undisturbed)
    (htoken : env.server.requiredAuthToken = [] ∨
      env.server.requiredAuthToken.length = captureAuthTokenSize.toNat) :
    ∃ connection, connectHelper env env.server.requiredAuthToken = some connection ∧
      ∀ count, connection.helper.Serves count := by
  have hconnect : connectHelper env env.server.requiredAuthToken =
      authenticateHelper env env.server.requiredAuthToken env.server.accept := by
    unfold connectHelper
    rw [h.wsaStartup, h.socket, h.connect]
    rfl
  rw [hconnect]
  generalize hserver : env.server = server at htoken ⊢
  rcases htoken with hempty | hlength
  · refine ⟨server.accept, ?_, ?_⟩
    · unfold authenticateHelper
      rw [hempty]
      rfl
    · unfold CaptureServer.accept
      rw [hempty]
      exact serves_of_authenticated server
  · have hturn : server.accept.helper.receive env.turn (authMessage server.requiredAuthToken) =
        ⟨[.received authRequest.encode server.requiredAuthToken,
          .sent (authReply true).encode], some (true, [])⟩ :=
      receive_rightToken h.turn hlength
    have hdeliver : server.accept.deliver env.turn (authMessage server.requiredAuthToken) =
        { helper := .serving server true [], inbound := (authReply true).encode } := by
      unfold CaptureConnection.deliver
      rw [hturn]
      rfl
    have hread : socketRecvAll env.authRecv CaptureAuthReply.size (authReply true).encode =
        ⟨.complete, (authReply true).encode, []⟩ := by
      have hsize := CaptureAuthReply.encode_length (authReply true)
      unfold socketRecvAll
      rw [recvLoop_eq_of_undisturbed h.authRecv hsize.ge, ← hsize, List.take_length,
        List.drop_length]
    have hsend : (socketSendAll env.authSend (authMessage server.requiredAuthToken)).complete =
        true := congrArg SendOutcome.complete (sendLoop_eq_of_undisturbed h.authSend)
    refine ⟨{ helper := .serving server true [] }, ?_, serves_of_authenticated server⟩
    unfold authenticateHelper
    rw [if_neg (by rw [hlength]; decide), if_neg (not_not.mpr hlength),
      if_neg (by simpa using hsend), hdeliver]
    simp only [hread, CaptureAuthReply.decode_encode]
    rfl

/-! ## Both sides -/

/-- What the token of a helper protects. -/
structure CaptureServer.Authenticates (server : CaptureServer D) : Prop where
  /-- Until the bytes it has read begin with an authentication with its token, a helper
  injects nothing, captures nothing, and writes no more than a refusal. -/
  locked : server.requiredAuthToken ≠ [] → ∀ envs stream,
    ∀ event ∈ beforeAuth server.requiredAuthToken [] (server.handleClient envs stream),
      event.Refuses
  /-- Until then, what it does is independent of the frame and of the state of the input. -/
  independent : server.requiredAuthToken ≠ [] → ∀ envs envs' stream,
    List.Forall₂ CaptureEnv.SameCalls envs envs' →
      beforeAuth server.requiredAuthToken [] (server.handleClient envs stream) =
        beforeAuth server.requiredAuthToken [] (server.handleClient envs' stream)
  /-- After an authentication with another token it only writes the refusal. -/
  refused : ∀ envs stream before token after,
    server.handleClient envs stream = before ++ .received authRequest.encode token :: after →
      token.length = captureAuthTokenSize.toNat → token ≠ server.requiredAuthToken →
        ∃ bytes, after = [.sent bytes] ∧ bytes <+: (authReply false).encode
  /-- On the connection that the hook opens no message is answered unless both sides have
  the same token, whatever fails. -/
  answered : ∀ (env : CaptureConnectEnv D) token connection turn message,
    env.server = server → connectHelper env token = some connection →
      (connection.helper.receive turn message.bytes).Answers turn message →
        token = server.requiredAuthToken
  /-- Where nothing fails, the hook opens a connection that is served exactly when both
  sides have the same token. -/
  served_iff : ∀ (env : CaptureConnectEnv D) token, env.server = server → env.Undisturbed →
    ((∃ connection, connectHelper env token = some connection ∧
      ∀ count, connection.helper.Serves count) ↔ token = server.requiredAuthToken)

/-- A helper with a token of 64 bytes, or without one, authenticates the hook. -/
theorem capture_authentication (server : CaptureServer D)
    (htoken : server.requiredAuthToken = [] ∨
      server.requiredAuthToken.length = captureAuthTokenSize.toNat) :
    server.Authenticates := by
  have hlength : server.requiredAuthToken ≠ [] →
      server.requiredAuthToken.length = captureAuthTokenSize.toNat := htoken.resolve_left
  have hanswered : ∀ (env : CaptureConnectEnv D) token connection turn message,
      env.server = server → connectHelper env token = some connection →
        (connection.helper.receive turn message.bytes).Answers turn message →
          token = server.requiredAuthToken := by
    rintro env token connection turn message rfl hopen hanswers
    exact connectHelper_answers hopen hanswers
  refine ⟨?_, ?_, ?_, hanswered, ?_⟩
  · intro hne envs stream event hevent
    rw [beforeAuth_handleClient (hlength hne)] at hevent
    cases envs with
    | nil => cases hevent
    | cons env envs => exact lockedEvents_refuse hevent
  · intro hne envs envs' stream hsame
    rw [beforeAuth_handleClient (hlength hne), beforeAuth_handleClient (hlength hne)]
    cases hsame with
    | nil => rfl
    | cons hcalls _ => exact lockedEvents_eq hcalls stream
  · intro envs stream before token after hevents htokenLength hwrong
    exact serveRequests_wrongToken hevents htokenLength hwrong
  · rintro env token rfl henv
    constructor
    · rintro ⟨connection, hopen, hserves⟩
      exact hanswered env token connection {} .frame rfl hopen
        (hserves 1 {} .frame ⟨nofun, nofun, nofun, nofun⟩ trivial).1
    · rintro rfl
      exact connectHelper_serves henv htoken

end Authentication

/-- A helper with a token. -/
def tokenServer : CaptureServer Unit where
  requiredAuthToken := List.replicate 64 7
  caps := everyCapability
  regions _ := some ⟨0, 0, 1920, 1080⟩

theorem tokenServer_authenticates : tokenServer.Authenticates :=
  capture_authentication tokenServer (Or.inr (by decide))

end UuAmfBridge
