import UuAmfBridge.Capture.Authentication
import UuAmfBridge.Capture.RequestPairing

/-!
# Waiting for the first frame

`wait_for_frame` of `src/wayland_capture_helper.cpp`: the helper is started a second time
with `--wait-ready`, and asks the one that runs for a frame until it gets one or a deadline
has passed.  Each pass opens a connection of its own, authenticates with the token of the
environment, and reads the reply to a frame request, but not the pixels behind it.
`wait_for_listener` is the same loop around a `connect`.

The helper at the other end is that of `Capture.Helper`.

* `readyReply_iff`: the checks on the reply accept every frame that has been published, and
  nothing else that the helper answers.
* `attemptFrame_sound`: a pass succeeds with the token of the helper only, and only when a
  frame has been published.
* `attemptFrame_complete`: such a pass succeeds if nothing disturbs it.
* `wait_for_frame_exact` puts this together for the loop.
-/

namespace UuAmfBridge

section Readiness

variable {D : Type*} [DecidableEq D]

/-! ## The client -/

/-- What one pass of the loop of `wait_for_frame` meets. -/
structure ReadyAttempt (D : Type*) where
  socket : Bool := true
  /-- The helper that listens; `none` where `connect` fails. -/
  server : Option (CaptureServer D)
  authSend : List SendResult := []
  authTurn : CaptureEnv D := {}
  authRecv : List RecvResult := []
  requestSend : List SendResult := []
  turn : CaptureEnv D := {}
  replyRecv : List RecvResult := []
  /-- `time` at the end of the pass. -/
  now : Nat

/-- `authenticate_connection`; `none` where it fails. -/
def authenticateConnection (attempt : ReadyAttempt D) (token : List UInt8)
    (connection : CaptureConnection D) : Option (CaptureConnection D) :=
  if token.isEmpty then some connection
  else if token.length ≠ captureAuthTokenSize.toNat then none
  else if !(sendAll attempt.authSend (authMessage token)).complete then none
  else
    let answered := connection.deliver attempt.authTurn (authMessage token)
    let reply := recvAll attempt.authRecv CaptureAuthReply.size answered.inbound
    if reply.status ≠ .complete then none
    else if !authReplyAccepted (CaptureAuthReply.decode reply.data) then none
    else some { answered with inbound := reply.rest }

/-- The checks of `wait_for_frame` on the reply. -/
def readyReply (reply : CaptureReply) : Bool :=
  reply.magic == captureMagic && reply.type == captureReply &&
    reply.protocolVersion == captureProtocolVersion && reply.status == 0 &&
    reply.width != 0 && reply.height != 0 && reply.stride == reply.width * 4 &&
    reply.payloadSize == reply.stride * reply.height

/-- The request for a frame on an open connection, and its reply. -/
def askForFrame (attempt : ReadyAttempt D) (connection : CaptureConnection D) : Bool :=
  if !(sendAll attempt.requestSend frameRequest.encode).complete then false
  else
    let answered := connection.deliver attempt.turn frameRequest.encode
    let reply := recvAll attempt.replyRecv CaptureReply.size answered.inbound
    if reply.status ≠ .complete then false else readyReply (CaptureReply.decode reply.data)

/-- One pass of the loop. -/
def attemptFrame (token : List UInt8) (attempt : ReadyAttempt D) : Bool :=
  if !attempt.socket then false
  else
    match attempt.server with
    | none => false
    | some server =>
        match authenticateConnection attempt token server.accept with
        | none => false
        | some connection => askForFrame attempt connection

/-- The loop of `wait_for_frame` and `wait_for_listener`: its exit code, or `none` while it
has not ended. -/
def waitUntil {α : Type*} (attempt : α → Bool) (now : α → Nat) (deadline : Nat) :
    List α → Option Nat
  | [] => none
  | pass :: passes =>
      if attempt pass then some 0
      else if now pass < deadline then waitUntil attempt now deadline passes
      else some 1

/-- `wait_for_frame`. -/
def waitForFrame (token : List UInt8) (deadline : Nat) (passes : List (ReadyAttempt D)) :
    Option Nat :=
  waitUntil (attemptFrame token) ReadyAttempt.now deadline passes

/-! ## The loop -/

section Loop

variable {α : Type*} {attempt : α → Bool} {now : α → Nat} {deadline : Nat} {passes : List α}

/-- The loop has gone on behind each of the passes. -/
def GoesOn (attempt : α → Bool) (now : α → Nat) (deadline : Nat) (passes : List α) : Prop :=
  ∀ pass ∈ passes, attempt pass = false ∧ now pass < deadline

/-- The loop ends with the first pass that succeeds, or that fails past the deadline. -/
theorem waitUntil_eq_some_iff {code : Nat} : waitUntil attempt now deadline passes = some code ↔
    ∃ before pass after, passes = before ++ pass :: after ∧ GoesOn attempt now deadline before ∧
      (attempt pass = true ∧ code = 0 ∨
        attempt pass = false ∧ deadline ≤ now pass ∧ code = 1) := by
  induction passes with
  | nil => simp [waitUntil]
  | cons first passes ih =>
    unfold waitUntil
    constructor
    · intro hcode
      cases hattempt : attempt first with
      | true =>
        rw [hattempt] at hcode
        refine ⟨[], first, passes, rfl, nofun, Or.inl ⟨hattempt, ?_⟩⟩
        exact (Option.some.inj hcode).symm
      | false =>
        rw [hattempt, if_neg Bool.false_ne_true] at hcode
        split at hcode
        next hearly =>
          obtain ⟨before, pass, after, rfl, hgoes, hend⟩ := ih.mp hcode
          refine ⟨first :: before, pass, after, rfl, fun other hother => ?_, hend⟩
          rcases List.mem_cons.mp hother with rfl | hrest
          · exact ⟨hattempt, hearly⟩
          · exact hgoes other hrest
        next hlate =>
          refine ⟨[], first, passes, rfl, nofun, Or.inr ⟨hattempt, ?_, ?_⟩⟩
          · omega
          · exact (Option.some.inj hcode).symm
    · rintro ⟨before, pass, after, heq, hgoes, hend⟩
      cases before with
      | nil =>
        obtain ⟨rfl, rfl⟩ := List.cons.inj heq
        rcases hend with ⟨hattempt, rfl⟩ | ⟨hattempt, hlate, rfl⟩
        · rw [if_pos hattempt]
        · rw [hattempt, if_neg Bool.false_ne_true, if_neg (by omega)]
      | cons other before =>
        obtain ⟨rfl, rfl⟩ := List.cons.inj heq
        obtain ⟨hattempt, hearly⟩ := hgoes first List.mem_cons_self
        rw [hattempt, if_neg Bool.false_ne_true, if_pos hearly]
        refine ih.mpr ⟨before, pass, after, rfl, fun other hother => ?_, hend⟩
        exact hgoes other (List.mem_cons_of_mem _ hother)

end Loop

/-! ## The reply -/

/-- `frame_state` after frames of less than 2 GiB. -/
def FrameState.Filled (state : FrameState) : Prop :=
  ∃ ops : List FrameOp, (∀ op ∈ ops, op.Fits) ∧ state = frameServer.run {} ops

theorem FrameState.Filled.holdsLast {state : FrameState} (h : state.Filled) :
    ∃ log, HoldsLast log state := by
  obtain ⟨ops, hops, rfl⟩ := h
  have hstart : HoldsLast [] ({} : FrameState) :=
    ⟨nofun, Or.inl ⟨rfl, rfl⟩, nofun⟩
  exact ⟨_, Machine.exec_invariant HoldsLast
    (fun _ _ _ hholds hop => frameServer_step_keeps hholds hop) hstart
    (Machine.along_of_forall_mem [] ({} : FrameState) hops)⟩

/-- The client accepts every frame that has been published, and not the reply of a helper
that has none. -/
theorem readyReply_iff {state : FrameState} (h : state.Filled) :
    readyReply state.reply.1 = true ↔ state.published ≠ [] := by
  obtain ⟨log, hholds⟩ := h.holdsLast
  rcases hholds.last with ⟨hnone, hempty⟩ | ⟨frame, hlast, hwidth, hheight, hpixels⟩
  · have hreply : readyReply state.reply.1 = false := by
      unfold FrameState.reply
      rw [hempty]
      rfl
    rw [hreply, hnone]
    simp
  · have hwhole := hholds.frames frame (List.mem_of_getLast? hlast)
    have hne : state.pixels.isEmpty = false := by
      rw [hpixels]
      simpa using hwhole.pixels_ne_nil
    have hpublished : state.published ≠ [] := by
      intro hnil
      rw [hnil] at hlast
      cases hlast
    have hwidthPos : frame.width ≠ 0 := by
      intro hzero
      have hpos := hwhole.width_pos
      rw [hzero] at hpos
      exact absurd hpos (by decide)
    have hheightPos : frame.height ≠ 0 := by
      intro hzero
      have hpos := hwhole.height_pos
      rw [hzero] at hpos
      exact absurd hpos (by decide)
    have hsize : UInt32.ofNat state.pixels.length = state.width * 4 * state.height := by
      apply UInt32.toNat_inj.mp
      have hlt := hwhole.size_lt
      rw [hpixels, hwhole.length_eq, hwidth, hheight, toNat_ofNat_eq (by omega),
        UInt32.toNat_mul, UInt32.toNat_mul]
      have hfour : (4 : UInt32).toNat = 4 := rfl
      have hproduct : frame.width.toNat * 4 * frame.height.toNat =
          4 * frame.width.toNat * frame.height.toNat := by ring
      rw [hfour, Nat.mod_mul_mod, hproduct, Nat.mod_eq_of_lt (by omega)]
    refine ⟨fun _ => hpublished, fun _ => ?_⟩
    unfold FrameState.reply readyReply
    simp only [hne, Bool.false_eq_true, if_false]
    rw [hsize, hwidth, hheight]
    simp [hwidthPos, hheightPos]

/-! ## One pass -/

/-- A frame is to be had in a pass: a helper listens that has the token of the client, and
a frame has been published. -/
def ReadyAttempt.Ready (token : List UInt8) (attempt : ReadyAttempt D) : Prop :=
  ∃ server, attempt.server = some server ∧ token = server.requiredAuthToken ∧
    attempt.turn.frame.published ≠ []

omit [DecidableEq D] in
/-- A read of a whole message from the beginning of the message and what follows it. -/
theorem recvAll_begins {calls : List RecvResult} {message tail inbound : List UInt8}
    (hbegins : inbound <+: message ++ tail)
    (hstatus : (recvAll calls message.length inbound).status = .complete) :
    (recvAll calls message.length inbound).data = message ∧
      (recvAll calls message.length inbound).rest <+: tail := by
  unfold recvAll at hstatus ⊢
  have henough := le_length_of_recvLoop_complete hstatus
  rw [recvLoop_eq_of_complete hstatus]
  obtain ⟨missing, hmissing⟩ := hbegins
  have htake : (inbound ++ missing).take message.length = message := by
    rw [hmissing, List.take_left]
  rw [List.take_append_of_le_length henough] at htake
  refine ⟨htake, missing, ?_⟩
  show inbound.drop message.length ++ missing = tail
  rw [← List.drop_append_of_le_length henough, hmissing, List.drop_left]

/-- A connection that is authenticated is in step, and either the token is empty or it is
that of the helper. -/
theorem authenticateConnection_cases {attempt : ReadyAttempt D} {token : List UInt8}
    {server : CaptureServer D} {connection : CaptureConnection D}
    (h : authenticateConnection attempt token server.accept = some connection) :
    connection.InStep ∧
      (token = [] ∧ connection = server.accept ∨ token = server.requiredAuthToken) := by
  unfold authenticateConnection at h
  simp only at h
  split_ifs at h with hempty hsize hsend hstatus haccepted
  · obtain rfl := Option.some.inj h
    exact ⟨server.accept_inStep, Or.inl ⟨List.isEmpty_iff.mp hempty, rfl⟩⟩
  · obtain rfl := Option.some.inj h
    have hlength : token.length = captureAuthTokenSize.toNat := not_not.mp hsize
    obtain ⟨hunread, hbegins⟩ := server.accept_auth attempt.authTurn hlength
    rw [← List.append_nil (authReply _).encode] at hbegins
    have hcomplete := not_not.mp hstatus
    have hreplyLength := CaptureAuthReply.encode_length (authReply (server.authTokenEqual token))
    rw [← hreplyLength] at hcomplete haccepted ⊢
    obtain ⟨hdata, hrest⟩ := recvAll_begins hbegins hcomplete
    refine ⟨⟨List.prefix_nil.mp hrest, hunread⟩, Or.inr ?_⟩
    rw [hdata, CaptureAuthReply.decode_encode] at haccepted
    cases hequal : server.authTokenEqual token with
    | true => exact (authTokenEqual_iff hlength).mp hequal
    | false =>
      rw [hequal] at haccepted
      exact absurd rfl haccepted

/-- A frame is asked for in vain where none has been published. -/
theorem askForFrame_sound {attempt : ReadyAttempt D} {connection : CaptureConnection D}
    (hstep : connection.InStep) (hfilled : attempt.turn.frame.Filled)
    (hasked : askForFrame attempt connection = true) :
    attempt.turn.frame.published ≠ [] ∧
      (connection.deliver attempt.turn frameRequest.encode).inbound ≠ [] := by
  unfold askForFrame at hasked
  simp only at hasked
  split_ifs at hasked with hsend hstatus
  have hcomplete := not_not.mp hstatus
  have hwritten := (hstep.frame_written attempt.turn).2
  rw [← CaptureReply.encode_length attempt.turn.frame.reply.1] at hcomplete hasked
  obtain ⟨hdata, -⟩ := recvAll_begins hwritten hcomplete
  rw [hdata, CaptureReply.decode_encode] at hasked
  refine ⟨(readyReply_iff hfilled).mp hasked, fun hnil => ?_⟩
  rw [hnil, CaptureReply.encode_length] at hcomplete
  exact absurd (le_length_of_recvLoop_complete hcomplete) (by decide)

/-- A pass succeeds with the token of the helper only, and only when a frame has been
published. -/
theorem attemptFrame_sound {token : List UInt8} {attempt : ReadyAttempt D}
    (hfilled : attempt.turn.frame.Filled) (h : attemptFrame token attempt = true) :
    attempt.Ready token := by
  unfold attemptFrame at h
  split_ifs at h with hsocket
  cases hserver : attempt.server with
  | none =>
    rw [hserver] at h
    cases h
  | some server =>
    rw [hserver] at h
    simp only at h
    cases hconnection : authenticateConnection attempt token server.accept with
    | none =>
      rw [hconnection] at h
      cases h
    | some connection =>
      rw [hconnection] at h
      obtain ⟨hstep, htoken⟩ := authenticateConnection_cases hconnection
      obtain ⟨hpublished, hinbound⟩ := askForFrame_sound hstep hfilled h
      refine ⟨server, hserver, ?_, hpublished⟩
      rcases htoken with ⟨rfl, rfl⟩ | htoken
      · -- Without an authentication the helper answers only if it requires none.
        by_contra hrequired
        have hfalse : server.requiredAuthToken.isEmpty = false := by
          cases htoken : server.requiredAuthToken with
          | nil => exact absurd htoken.symm hrequired
          | cons _ _ => rfl
        rcases (server.accept_inStep.deliver_cases attempt.turn frameRequest []
          (by
            intro authenticated size heq
            rw [requestBody_frameRequest] at heq
            split_ifs at heq
            exact (Option.some.inj heq).symm)).2 with hnil | ⟨_, _, hhelper, hbody, -⟩
        · rw [List.append_nil] at hnil
          exact hinbound hnil
        · obtain ⟨-, hauthenticated, -⟩ := CaptureSide.serving.inj hhelper
          rw [← hauthenticated, hfalse] at hbody
          cases hbody
      · exact htoken

/-! ## A pass that nothing disturbs -/

/-- Nothing fails in a pass, and the helper has a token of 64 bytes or none. -/
structure ReadyAttempt.Undisturbed (attempt : ReadyAttempt D) : Prop where
  socket : attempt.socket = true
  authSend : ∀ call ∈ attempt.authSend, call.Undisturbed true
  authTurn : attempt.authTurn.Undisturbed
  authRecv : ∀ call ∈ attempt.authRecv, call.Undisturbed helperRecv
  requestSend : ∀ call ∈ attempt.requestSend, call.Undisturbed true
  turn : attempt.turn.Undisturbed
  replyRecv : ∀ call ∈ attempt.replyRecv, call.Undisturbed helperRecv
  token : ∀ server, attempt.server = some server → server.requiredAuthToken = [] ∨
    server.requiredAuthToken.length = captureAuthTokenSize.toNat

omit [DecidableEq D] in
/-- What an undisturbed read of a message returns, and what it leaves. -/
theorem recvAll_undisturbed {calls : List RecvResult} {message tail : List UInt8}
    (h : ∀ call ∈ calls, call.Undisturbed helperRecv) :
    recvAll calls message.length (message ++ tail) = ⟨.complete, message, tail⟩ := by
  have henough : message.length ≤ (message ++ tail).length := by
    rw [List.length_append]
    omega
  unfold recvAll
  rw [recvLoop_eq_of_undisturbed h henough, List.take_left, List.drop_left]

/-- With the token of the helper the client opens a connection that is served. -/
theorem authenticateConnection_serves {attempt : ReadyAttempt D} {server : CaptureServer D}
    (h : attempt.Undisturbed) (hserver : attempt.server = some server) :
    ∃ connection, authenticateConnection attempt server.requiredAuthToken server.accept =
        some connection ∧ connection.inbound = [] ∧ ∀ count, connection.helper.Serves count := by
  rcases h.token server hserver with hempty | hlength
  · refine ⟨server.accept, ?_, rfl, ?_⟩
    · unfold authenticateConnection
      rw [hempty]
      rfl
    · unfold CaptureServer.accept
      rw [hempty]
      exact serves_of_authenticated server
  · have hturn := receive_rightToken h.authTurn hlength
    have hdeliver : server.accept.deliver attempt.authTurn
        (authMessage server.requiredAuthToken) =
          { helper := .serving server true [], inbound := (authReply true).encode } := by
      unfold CaptureConnection.deliver
      rw [hturn]
      rfl
    have hread : recvAll attempt.authRecv CaptureAuthReply.size (authReply true).encode =
        ⟨.complete, (authReply true).encode, []⟩ := by
      have hwhole : recvAll attempt.authRecv (authReply true).encode.length
          ((authReply true).encode ++ []) = ⟨.complete, (authReply true).encode, []⟩ :=
        recvAll_undisturbed h.authRecv
      rwa [List.append_nil, CaptureAuthReply.encode_length] at hwhole
    have hpresent : ¬server.requiredAuthToken.isEmpty = true := by
      intro hempty
      rw [List.isEmpty_iff.mp hempty] at hlength
      exact absurd hlength (by decide)
    refine ⟨{ helper := .serving server true [] }, ?_, rfl, serves_of_authenticated server⟩
    unfold authenticateConnection
    rw [if_neg hpresent, if_neg (not_not.mpr hlength), sendAll_undisturbed h.authSend, hdeliver]
    simp only [hread, CaptureAuthReply.decode_encode]
    rfl

/-- A helper that serves is asked for the frame it has. -/
theorem askForFrame_eq {attempt : ReadyAttempt D} {connection : CaptureConnection D}
    (h : attempt.Undisturbed) (hinbound : connection.inbound = [])
    (hserves : connection.helper.Serves 1) :
    askForFrame attempt connection = readyReply attempt.turn.frame.reply.1 := by
  have hanswers := (hserves attempt.turn .frame h.turn trivial).1
  have hbytes : CaptureMessage.frame.bytes = frameRequest.encode := List.append_nil _
  rw [hbytes] at hanswers
  have hdelivered : (connection.deliver attempt.turn frameRequest.encode).inbound =
      attempt.turn.frame.reply.1.encode ++ attempt.turn.frame.reply.2 := by
    show connection.inbound ++ _ = _
    rw [hinbound, List.nil_append]
    exact hanswers
  have hread : recvAll attempt.replyRecv attempt.turn.frame.reply.1.encode.length
      (attempt.turn.frame.reply.1.encode ++ attempt.turn.frame.reply.2) =
        ⟨.complete, attempt.turn.frame.reply.1.encode, attempt.turn.frame.reply.2⟩ :=
    recvAll_undisturbed h.replyRecv
  rw [CaptureReply.encode_length] at hread
  unfold askForFrame
  rw [sendAll_undisturbed h.requestSend]
  simp only [hdelivered, hread, CaptureReply.decode_encode]
  rfl

/-- A pass that nothing disturbs gets a frame where there is one. -/
theorem attemptFrame_complete {token : List UInt8} {attempt : ReadyAttempt D}
    (hfilled : attempt.turn.frame.Filled) (h : attempt.Undisturbed)
    (hready : attempt.Ready token) : attemptFrame token attempt = true := by
  obtain ⟨server, hserver, rfl, hpublished⟩ := hready
  obtain ⟨connection, hconnection, hinbound, hserves⟩ := authenticateConnection_serves h hserver
  unfold attemptFrame
  rw [h.socket, hserver]
  simp only [hconnection]
  rw [askForFrame_eq h hinbound (hserves 1), (readyReply_iff hfilled).mpr hpublished]
  rfl

/-! ## The wait -/

/-- How `wait_for_frame` ends. -/
structure WaitsForFrame (token : List UInt8) (deadline : Nat) (passes : List (ReadyAttempt D)) :
    Prop where
  /-- It reports success only after a pass in which a frame was to be had. -/
  success : waitForFrame token deadline passes = some 0 →
    ∃ pass ∈ passes, pass.Ready token ∧ attemptFrame token pass = true
  /-- It gives up only after a pass that ended past the deadline, with all passes up to that
  one in vain. -/
  failure : ∀ code, waitForFrame token deadline passes = some code → code ≠ 0 → code = 1 ∧
    ∃ before pass after, passes = before ++ pass :: after ∧ deadline ≤ pass.now ∧
      ∀ other ∈ before ++ [pass], attemptFrame token other = false
  /-- Where nothing disturbs the passes, it ends with the first one in which a frame is to
  be had, unless one that ended past the deadline comes before. -/
  undisturbed : (∀ pass ∈ passes, pass.Undisturbed) → ∀ code,
    (waitForFrame token deadline passes = some code ↔
      ∃ before pass after, passes = before ++ pass :: after ∧
        (∀ other ∈ before, ¬other.Ready token ∧ other.now < deadline) ∧
          (pass.Ready token ∧ code = 0 ∨
            ¬pass.Ready token ∧ deadline ≤ pass.now ∧ code = 1))

/-- `wait_for_frame` succeeds only where a frame is served to the token it has, and gives up
only past its deadline. -/
theorem wait_for_frame_exact (token : List UInt8) (deadline : Nat)
    {passes : List (ReadyAttempt D)} (hfilled : ∀ pass ∈ passes, pass.turn.frame.Filled) :
    WaitsForFrame token deadline passes := by
  refine ⟨fun hcode => ?_, fun code hcode hne => ?_, fun hcalm code => ?_⟩
  · obtain ⟨before, pass, after, rfl, -, hend⟩ := waitUntil_eq_some_iff.mp hcode
    rcases hend with ⟨hattempt, -⟩ | ⟨-, -, hcontra⟩
    · have hmem : pass ∈ before ++ pass :: after := by simp
      exact ⟨pass, hmem, attemptFrame_sound (hfilled pass hmem) hattempt, hattempt⟩
    · cases hcontra
  · obtain ⟨before, pass, after, rfl, hgoes, hend⟩ := waitUntil_eq_some_iff.mp hcode
    rcases hend with ⟨-, hzero⟩ | ⟨hattempt, hlate, rfl⟩
    · exact absurd hzero hne
    · refine ⟨rfl, before, pass, after, rfl, hlate, fun other hother => ?_⟩
      rcases List.mem_append.mp hother with hbefore | hlast
      · exact (hgoes other hbefore).1
      · obtain rfl := List.mem_singleton.mp hlast
        exact hattempt
  · have hiff : ∀ pass ∈ passes, (attemptFrame token pass = true ↔ pass.Ready token) :=
      fun pass hmem => ⟨attemptFrame_sound (hfilled pass hmem),
        attemptFrame_complete (hfilled pass hmem) (hcalm pass hmem)⟩
    have hfalse : ∀ pass ∈ passes, (attemptFrame token pass = false ↔ ¬pass.Ready token) := by
      intro pass hmem
      rw [← hiff pass hmem, Bool.not_eq_true]
    unfold waitForFrame
    rw [waitUntil_eq_some_iff]
    refine exists_congr fun before => exists_congr fun pass => exists_congr fun after =>
      and_congr_right fun heq => ?_
    have hpass : pass ∈ passes := by
      rw [heq]
      simp
    rw [hiff pass hpass, hfalse pass hpass]
    refine and_congr_left' (forall₂_congr fun other hother => ?_)
    rw [hfalse other (by rw [heq]; exact List.mem_append_left _ hother)]

end Readiness

/-- The first frame, of one pixel. -/
def onePixel : List FrameOp := [.publishBgra ⟨some fun _ => 7, 1, 1, 4⟩]

/-- A client without a token: its first pass comes before the first frame, its second one
after it. -/
def waitForFirstFrame : List (ReadyAttempt Unit) :=
  [{ server := some openServer, now := 1 },
    { server := some openServer, turn := { frame := frameServer.run {} onePixel }, now := 2 }]

theorem wait_for_frame_exact_firstFrame :
    (∀ pass ∈ waitForFirstFrame, pass.turn.frame.Filled) ∧
      WaitsForFrame [] 45 waitForFirstFrame := by
  have hfits : ∀ op ∈ onePixel, op.Fits := by
    intro op hop
    obtain rfl := List.mem_singleton.mp hop
    show 4 * 1 * 1 < 2 ^ 31
    decide
  have hfilled : ∀ pass ∈ waitForFirstFrame, pass.turn.frame.Filled := by
    intro pass hmem
    rcases List.mem_cons.mp hmem with rfl | hrest
    · exact ⟨[], nofun, rfl⟩
    · obtain rfl := List.mem_singleton.mp hrest
      exact ⟨onePixel, hfits, rfl⟩
  exact ⟨hfilled, wait_for_frame_exact [] 45 hfilled⟩

end UuAmfBridge
