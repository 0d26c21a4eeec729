import UuAmfBridge.Bridge.Component

/-!
# Request and reply of the encoder component

Requests and replies share one ordered stream, so a reply is matched to its
frame by position alone: the component is right about a reply only when it has
read everything that belongs to the replies before it.

`component_submit` closes the socket when the exchange fails before the payload
of the reply, but it keeps the socket when the payload stage fails.  The unread
payload is then the next header.  `submit_synchronised_iff` says that this is
the only way to lose the synchronisation: the calls that fail with payload bytes
still unread (`StrandsPayload`) are exactly the ones after which the stream is
out of step.  While there is none, every successful call reads the answer to its
own frame, and the answers of a session are read in the order of its frames.

* `HelperSide.receive_sentBytes`: the helper writes at most one reply, with no
  byte beyond the payload it announces.
* `AcceptedReply.produced_eq`: on a stream in step, an accepted header is the
  header of the answer to this frame.
* `paired_step`: the socket is open exactly while the component is initialized.
-/

namespace UuAmfBridge

variable {version : UInt32} {env : SubmitEnv} {component : BridgeComponent}
  {data : Option BridgeSurface}

/-! ## The property and the condition -/

/-- The socket is closed and the component is not initialized, or every byte the
helper has written has been read. -/
def Synchronised (component : BridgeComponent) : Prop :=
  match component.helper with
  | none => component.initialized = false
  | some connection => connection.inbound = []

/-- A call of `component_submit` returns in step. -/
def SubmitSynchronised (version : UInt32) (process : BridgeProcess) (call : ComponentCall) :
    Prop :=
  ∀ env data, call = .submitInput env data →
    Synchronised ((componentCalls version).step process call).1.component

/-- The payload stage fails while bytes of the payload are unread. -/
def AcceptedReply.Strands (accepted : AcceptedReply env component data) : Prop :=
  accepted.reply.payloadSize ≠ 0 ∧
    (env.packetMalloc = false ∧ accepted.exchange.header.rest ≠ [] ∨
      env.packetMalloc = true ∧ accepted.packet.status ≠ .complete ∧ accepted.packet.rest ≠ [])

/-- The packet is read and then dropped, for want of a buffer or of a slot. -/
def AcceptedReply.Drops (accepted : AcceptedReply env component data) : Prop :=
  accepted.reply.payloadSize ≠ 0 ∧ env.packetMalloc = true ∧
    accepted.packet.status = .complete ∧
      (env.bufferCreate = false ∨ component.outputs.count = bridgeMaxOutputs)

/-- A call of `component_submit` whose payload stage fails while bytes of the
payload are unread. -/
def StrandsPayload (process : BridgeProcess) (call : ComponentCall) : Prop :=
  ∃ env data, call = .submitInput env data ∧
    ∃ accepted : AcceptedReply env process.component data, accepted.Strands

/-- A call of `component_submit` that drops the packet it has read. -/
def DropsPacket (process : BridgeProcess) (call : ComponentCall) : Prop :=
  ∃ env data, call = .submitInput env data ∧
    ∃ accepted : AcceptedReply env process.component data, accepted.Drops

/-- A successful call of `component_submit` has read exactly what the helper has
written in answer to its frame. -/
def ReadsOwnReply (version : UInt32) (process : BridgeProcess) (call : ComponentCall) : Prop :=
  ∀ env data, call = .submitInput env data →
    ((componentCalls version).step process call).2.result = .ok →
      ((componentCalls version).step process call).2.consumed =
        ((componentCalls version).step process call).2.produced

/-! ## The calls of one session -/

/-- The records since the last session was opened. -/
def sessionLog (log : List CallRecord) : List CallRecord :=
  log.foldl (fun session record => if record.opened then [] else session ++ [record]) []

@[simp] theorem sessionLog_append (log : List CallRecord) (record : CallRecord) :
    sessionLog (log ++ [record]) =
      if record.opened then [] else sessionLog log ++ [record] := by
  simp [sessionLog]

/-- What the helper has written for each frame, in order. -/
def frameAnswers (records : List CallRecord) : List (List UInt8) :=
  (records.filter fun record => record.frameSent).map CallRecord.produced

/-- What each successful call of `component_submit` has read, in order. -/
def submitReads (records : List CallRecord) : List (List UInt8) :=
  (records.filter fun record => record.frameSent && record.result == .ok).map CallRecord.consumed

@[simp] theorem frameAnswers_append (records later : List CallRecord) :
    frameAnswers (records ++ later) = frameAnswers records ++ frameAnswers later := by
  simp [frameAnswers]

@[simp] theorem submitReads_append (records later : List CallRecord) :
    submitReads (records ++ later) = submitReads records ++ submitReads later := by
  simp [submitReads]

/-- After the call, the `k`-th successful call of the session has read what the
helper has written for the `k`-th frame of the session. -/
def ReadsInOrder (version : UInt32) (log : List CallRecord) (process : BridgeProcess)
    (call : ComponentCall) : Prop :=
  let session := sessionLog (log ++ [((componentCalls version).step process call).2])
  ∀ (k : Nat) (read : List UInt8),
    (submitReads session)[k]? = some read → (frameAnswers session)[k]? = some read

/-! ## The answer of the helper -/

/-- The helper writes less than the header of a reply, or one reply with a
beginning of the payload it announces; it goes on only when it has written the
whole reply. -/
theorem HelperSide.receive_sentBytes (env : HelperEnv) (bytes : List UInt8) (side : HelperSide) :
    (sentBytes (side.receive env bytes).events).length < HelperReply.size ∨
      ∃ reply : HelperReply, ∃ body : List UInt8, reply.WellFormed ∧
        sentBytes (side.receive env bytes).events = reply.encode ++ body ∧
          body.length ≤ reply.payloadSize.toNat ∧
            ((side.receive env bytes).next ≠ none → body.length = reply.payloadSize.toNat) := by
  cases side with
  | accepted version unread =>
    left
    have hle := handshake_sentBytes_length_le version env.handshake (unread ++ bytes)
    have hlt : HelperInitReply.size < HelperReply.size := by decide
    exact lt_of_le_of_lt hle hlt
  | serving session unread =>
    rcases serveMessage_sentBytes env.message session (unread ++ bytes) with ⟨hshort, -⟩ | hreply
    · exact Or.inl hshort
    · exact Or.inr hreply
  | ended => exact Or.inl (Nat.succ_pos _)

/-- On a stream in step, a header that has arrived is the header of what the helper
has written in answer, and the rest is the beginning of its payload; a helper that goes
on has written the whole payload. -/
theorem HelperSide.receive_header {env : HelperEnv} {bytes : List UInt8} {side : HelperSide}
    {calls : List RecvResult} {header : RecvOutcome UInt8}
    (hheader : header =
      socketRecvAll calls HelperReply.size (sentBytes (side.receive env bytes).events))
    (hstatus : header.status = .complete) :
    sentBytes (side.receive env bytes).events = header.data ++ header.rest ∧
      header.rest.length ≤ (HelperReply.decode header.data).payloadSize.toNat ∧
        ((side.receive env bytes).next ≠ none →
          header.rest.length = (HelperReply.decode header.data).payloadSize.toNat) := by
  unfold socketRecvAll at hheader
  rw [hheader] at hstatus
  have henough := le_length_of_recvLoop_complete hstatus
  rw [recvLoop_eq_of_complete hstatus] at hheader
  rcases HelperSide.receive_sentBytes env bytes side with
    hshort | ⟨reply, body, -, hproduced, hbody, hwhole⟩
  · exact absurd henough (Nat.not_le.mpr hshort)
  · have hlength := HelperReply.encode_length reply
    rw [hproduced, List.take_left' hlength, List.drop_left' hlength] at hheader
    rw [hheader]
    simp only [HelperReply.decode_encode]
    exact ⟨hproduced, hbody, hwhole⟩

/-- On a stream in step, an accepted header is the header of what the helper has
written in answer to this frame, and the rest is the beginning of its payload;
a helper that goes on has written the whole payload. -/
theorem AcceptedReply.produced_eq (accepted : AcceptedReply env component data)
    (hstep : accepted.connection.inbound = []) :
    accepted.exchange.produced = accepted.exchange.header.data ++ accepted.exchange.header.rest ∧
      accepted.exchange.header.rest.length ≤ accepted.reply.payloadSize.toNat ∧
        (accepted.exchange.helper ≠ .ended →
          accepted.exchange.header.rest.length = accepted.reply.payloadSize.toNat) := by
  obtain ⟨-, hstatus, hdecode, -⟩ := accepted.exchange_reply
  have hexchange := accepted.exchange_eq
  rw [hstep, List.nil_append] at hexchange
  have hheader : accepted.exchange.header =
      socketRecvAll env.replyRecv HelperReply.size (sentBytes accepted.turn.events) := by
    rw [hexchange]
  obtain ⟨hproduced, hrest, hwhole⟩ := HelperSide.receive_header hheader hstatus
  rw [hdecode]
  refine ⟨?_, hrest, fun hgoes => hwhole fun hnone => hgoes ?_⟩
  · rw [← hproduced, hexchange]
    rfl
  · have hturn : accepted.turn.next = none := hnone
    rw [hexchange]
    show HelperSide.ofNext accepted.turn.next = .ended
    rw [hturn]
    rfl

/-- On a stream in step, a read of the whole payload leaves nothing behind. -/
theorem AcceptedReply.packet_rest (accepted : AcceptedReply env component data)
    (hstep : accepted.connection.inbound = []) (hstatus : accepted.packet.status = .complete) :
    accepted.packet.data = accepted.exchange.header.rest ∧ accepted.packet.rest = [] := by
  have hsplit := recvLoop_eq_of_complete hstatus
  have hle := (accepted.produced_eq hstep).2.1
  unfold packet socketRecvAll
  rw [hsplit]
  exact ⟨List.take_of_length_le hle, List.drop_of_length_le hle⟩

/-- On a stream in step, an answer without a payload ends with its header. -/
theorem AcceptedReply.rest_eq_nil (accepted : AcceptedReply env component data)
    (hstep : accepted.connection.inbound = []) (hsize : accepted.reply.payloadSize = 0) :
    accepted.exchange.header.rest = [] := by
  have hle := (accepted.produced_eq hstep).2.1
  rw [hsize] at hle
  exact List.length_eq_zero_iff.mp (Nat.le_zero.mp hle)

/-! ## One call -/

/-- The socket is open exactly while the component is initialized. -/
def Paired (component : BridgeComponent) : Prop :=
  component.helper.isSome = component.initialized

/-- A component without a socket, and not initialized, is paired and in step. -/
theorem paired_synchronised_of_closed {component : BridgeComponent}
    (hhelper : component.helper = none) (hinit : component.initialized = false) :
    Paired component ∧ Synchronised component := by
  unfold Paired Synchronised
  rw [hhelper, hinit]
  exact ⟨rfl, rfl⟩

/-- Every call keeps the socket open exactly while the component is initialized. -/
theorem paired_step {process : BridgeProcess} (h : Paired process.component)
    (call : ComponentCall) :
    Paired ((componentCalls version).step process call).1.component := by
  have hinit : ∀ process env format width height, Paired process.component →
      Paired (componentInit version env process format width height).1.component := by
    intro process env format width height hpaired
    rcases componentInit_cases version env process format width height with
      ⟨_, _, heq, -⟩ | ⟨_, heq⟩ | ⟨opened, -, heq⟩
    · rw [heq]
      exact hpaired
    · rw [heq]
      rfl
    · rw [heq]
      rfl
  cases call with
  | init env format width height => exact hinit _ _ _ _ _ h
  | reinit env width height => exact hinit _ _ _ _ _ rfl
  | submitInput env data =>
    show Paired (componentSubmit env process.component data).1
    rcases componentSubmit_outcome env process.component data with
      ⟨_, heq, -⟩ | ⟨_, heq, -⟩ | ⟨accepted, houtcome⟩
    · rw [heq]
      exact h
    · rw [heq]
      rfl
    · have hinitialized := accepted.initialized
      generalize componentSubmit env process.component data = next at houtcome ⊢
      cases houtcome <;> exact hinitialized.symm
  | queryOutput out =>
    show Paired (componentQueryOutput process.component out).1
    rcases componentQueryOutput_cases process.component out with
      ⟨_, heq, -⟩ | ⟨_, _, -, heq⟩
    · rw [heq]
      exact h
    · rw [heq]
      exact h
  | drain =>
    show Paired (componentDrain process.component).1
    unfold componentDrain
    split_ifs <;> exact h
  | flush =>
    show Paired (componentFlush process.component).1
    unfold componentFlush
    split_ifs <;> exact h
  | terminate => rfl

/-- A session is opened on a new socket, with a helper that has read nothing. -/
theorem OpenedSession.connection_new {env : InitEnv} {process : BridgeProcess}
    {format : AMFSurfaceFormat} {width height : Int32}
    (opened : OpenedSession version env process format width height)
    (hpaired : Paired process.component) :
    opened.connection = { helper := .accepted env.helperVersion [] } := by
  have hnone : process.component.helper = none := by
    unfold Paired at hpaired
    rw [opened.uninitialized] at hpaired
    simpa using hpaired
  obtain hsome | ⟨-, hnew⟩ := opened.connection_eq
  · rw [hnone] at hsome
    cases hsome
  · exact hnew

/-- The read of the reply to a first message leaves nothing behind. -/
theorem HelperSide.accepted_rest {env : HelperEnv} {version : UInt32} {bytes : List UInt8}
    {calls : List RecvResult}
    (hstatus : (socketRecvAll calls HelperInitReply.size
      (Connection.deliver env { helper := .accepted version [] } bytes).inbound).status =
        .complete) :
    (socketRecvAll calls HelperInitReply.size
      (Connection.deliver env { helper := .accepted version [] } bytes).inbound).rest = [] := by
  have hle : (Connection.deliver env { helper := .accepted version [] } bytes).inbound.length ≤
      HelperInitReply.size := handshake_sentBytes_length_le version env.handshake _
  unfold socketRecvAll at hstatus ⊢
  rw [recvLoop_eq_of_complete hstatus]
  exact List.drop_of_length_le hle

/-- The read of the reply of a new session leaves nothing behind. -/
theorem OpenedSession.recv_rest {env : InitEnv} {process : BridgeProcess}
    {format : AMFSurfaceFormat} {width height : Int32}
    (opened : OpenedSession version env process format width height)
    (hpaired : Paired process.component) (haccepted : opened.Accepted) :
    opened.recv.rest = [] := by
  have hstatus := haccepted.1
  unfold OpenedSession.recv OpenedSession.answered at hstatus ⊢
  rw [opened.connection_new hpaired] at hstatus ⊢
  exact HelperSide.accepted_rest hstatus

/-- Opening a session keeps the stream in step. -/
theorem synchronised_init {process : BridgeProcess} (hpaired : Paired process.component)
    (hsync : Synchronised process.component) (env : InitEnv) (format : AMFSurfaceFormat)
    (width height : Int32) :
    Synchronised (componentInit version env process format width height).1.component := by
  rcases componentInit_cases version env process format width height with
    ⟨_, _, heq, -⟩ | ⟨_, heq⟩ | ⟨opened, haccepted, heq⟩
  · rw [heq]
    exact hsync
  · rw [heq]
    rfl
  · rw [heq]
    exact opened.recv_rest hpaired haccepted

/-- The socket an accepted reply came from was in step. -/
theorem AcceptedReply.inbound_eq_nil (accepted : AcceptedReply env component data)
    (hsync : Synchronised component) : accepted.connection.inbound = [] := by
  unfold Synchronised at hsync
  rw [accepted.helper_eq] at hsync
  exact hsync

/-- A payload stage that reads the whole packet strands nothing. -/
theorem AcceptedReply.not_strands (accepted : AcceptedReply env component data)
    (hmalloc : env.packetMalloc = true) (hstatus : accepted.packet.status = .complete) :
    ¬accepted.Strands := by
  rintro ⟨-, ⟨hfail, -⟩ | ⟨-, hshort, -⟩⟩
  · rw [hmalloc] at hfail
    cases hfail
  · exact hshort hstatus

/-- On a stream in step, a call returns in step exactly when it strands no
payload. -/
theorem submit_synchronised_step {process : BridgeProcess} (hsync : Synchronised process.component)
    (call : ComponentCall) :
    SubmitSynchronised version process call ↔ ¬StrandsPayload process call := by
  constructor
  · rintro hreturn ⟨env, data, rfl, accepted, hstrands⟩
    have hstep : Synchronised (componentSubmit env process.component data).1 := hreturn _ _ rfl
    have houtcome := accepted.receivePacket_outcome
    rw [← accepted.componentSubmit_eq] at houtcome
    generalize componentSubmit env process.component data = next at hstep houtcome
    cases houtcome with
    | empty hsize => exact hstrands.1 hsize
    | noMemory _ hmalloc =>
      rcases hstrands.2 with ⟨-, hrest⟩ | ⟨hmalloc', -⟩
      · exact hrest hstep
      · rw [hmalloc] at hmalloc'
        cases hmalloc'
    | short _ hmalloc =>
      rcases hstrands.2 with ⟨hmalloc', -⟩ | ⟨-, -, hrest⟩
      · rw [hmalloc] at hmalloc'
        cases hmalloc'
      · exact hrest hstep
    | noBuffer _ hmalloc hstatus => exact accepted.not_strands hmalloc hstatus hstrands
    | full _ hmalloc hstatus => exact accepted.not_strands hmalloc hstatus hstrands
    | queued _ _ hmalloc hstatus => exact accepted.not_strands hmalloc hstatus hstrands
  · rintro hstrands env data rfl
    show Synchronised (componentSubmit env process.component data).1
    rcases componentSubmit_outcome env process.component data with
      ⟨_, heq, -⟩ | ⟨_, heq, -⟩ | ⟨accepted, houtcome⟩
    · rw [heq]
      exact hsync
    · rw [heq]
      rfl
    · have hinbound := accepted.inbound_eq_nil hsync
      generalize componentSubmit env process.component data = next at houtcome ⊢
      cases houtcome with
      | empty hsize => exact accepted.rest_eq_nil hinbound hsize
      | noMemory hsize hmalloc =>
        by_contra hrest
        exact hstrands ⟨env, data, rfl, accepted, hsize, Or.inl ⟨hmalloc, hrest⟩⟩
      | short hsize hmalloc hstatus =>
        by_contra hrest
        exact hstrands ⟨env, data, rfl, accepted, hsize, Or.inr ⟨hmalloc, hstatus, hrest⟩⟩
      | noBuffer _ _ hstatus => exact (accepted.packet_rest hinbound hstatus).2
      | full _ _ hstatus => exact (accepted.packet_rest hinbound hstatus).2
      | queued _ _ _ hstatus => exact (accepted.packet_rest hinbound hstatus).2

/-- On a stream in step, a successful call reads the answer to its own frame. -/
theorem readsOwnReply_step {process : BridgeProcess} (hsync : Synchronised process.component)
    (call : ComponentCall) : ReadsOwnReply version process call := by
  rintro env data rfl hok
  change (componentSubmit env process.component data).2.result = .ok at hok
  show (componentSubmit env process.component data).2.consumed =
    (componentSubmit env process.component data).2.produced
  rcases componentSubmit_outcome env process.component data with
    ⟨_, heq, hne, -⟩ | ⟨_, heq, hclosed⟩ | ⟨accepted, houtcome⟩
  · rw [heq] at hok
    exact absurd hok hne
  · rw [heq, hclosed.result_eq.1] at hok
    cases hok
  · have hinbound := accepted.inbound_eq_nil hsync
    have hproduced := (accepted.produced_eq hinbound).1
    generalize componentSubmit env process.component data = next at hok houtcome ⊢
    cases houtcome with
    | empty hsize =>
      show accepted.exchange.header.data = accepted.exchange.produced
      rw [hproduced, accepted.rest_eq_nil hinbound hsize, List.append_nil]
    | noMemory => cases hok
    | short => cases hok
    | noBuffer => cases hok
    | full => cases hok
    | queued _ _ _ hstatus =>
      show accepted.exchange.header.data ++ accepted.packet.data = accepted.exchange.produced
      rw [hproduced, (accepted.packet_rest hinbound hstatus).1]

/-- A call that returns in step keeps the stream in step, and so does every call
that submits nothing. -/
theorem synchronised_step {process : BridgeProcess} (hpaired : Paired process.component)
    (hsync : Synchronised process.component) (call : ComponentCall)
    (hsubmit : SubmitSynchronised version process call) :
    Synchronised ((componentCalls version).step process call).1.component := by
  cases call with
  | init env format width height => exact synchronised_init hpaired hsync env format width height
  | reinit env width height =>
    have hclosed : Paired (componentCloseCodec process.component) ∧
        Synchronised (componentCloseCodec process.component) :=
      paired_synchronised_of_closed rfl rfl
    exact synchronised_init hclosed.1 hclosed.2 env _ width height
  | submitInput env data => exact hsubmit env data rfl
  | queryOutput out =>
    show Synchronised (componentQueryOutput process.component out).1
    rcases componentQueryOutput_cases process.component out with ⟨_, heq, -⟩ | ⟨_, _, -, heq⟩
    · rw [heq]
      exact hsync
    · rw [heq]
      exact hsync
  | drain =>
    show Synchronised (componentDrain process.component).1
    unfold componentDrain
    split_ifs <;> exact hsync
  | flush =>
    show Synchronised (componentFlush process.component).1
    unfold componentFlush
    split_ifs <;> exact hsync
  | terminate => rfl

/-- A call returns in step exactly when it strands no payload. -/
theorem synchronised_step_iff {process : BridgeProcess} (hpaired : Paired process.component)
    (hsync : Synchronised process.component) (call : ComponentCall) :
    Synchronised ((componentCalls version).step process call).1.component ↔
      ¬StrandsPayload process call := by
  have hsubmit : SubmitSynchronised version process call ↔ ¬StrandsPayload process call :=
    submit_synchronised_step hsync call
  constructor
  · intro hreturn
    exact hsubmit.mp fun _ _ _ => hreturn
  · intro hstrands
    exact synchronised_step hpaired hsync call (hsubmit.mpr hstrands)

/-! ## The order of the replies -/

/-- The session has read a beginning of the answers to its frames, and all of
them unless the helper has gone. -/
structure ReadsAnswers (log : List CallRecord) (component : BridgeComponent) : Prop where
  begins : submitReads (sessionLog log) <+: frameAnswers (sessionLog log)
  all : ∀ connection, component.helper = some connection → connection.helper ≠ .ended →
    submitReads (sessionLog log) = frameAnswers (sessionLog log)

namespace ReadsAnswers

variable {log : List CallRecord} {record : CallRecord} {component component' : BridgeComponent}

/-- A call that sends no frame reads no answer. -/
theorem unsent (h : ReadsAnswers log component) (hopened : record.opened = false)
    (hsent : record.frameSent = false)
    (hhelper : component'.helper = component.helper ∨ component'.helper = none) :
    ReadsAnswers (log ++ [record]) component' := by
  have hreads : submitReads [record] = [] := by simp [submitReads, hsent]
  have hanswers : frameAnswers [record] = [] := by simp [frameAnswers, hsent]
  constructor
  · rw [sessionLog_append, if_neg (by simp [hopened]), submitReads_append, frameAnswers_append,
      hreads, hanswers, List.append_nil, List.append_nil]
    exact h.begins
  · intro connection hsome hgoes
    rw [sessionLog_append, if_neg (by simp [hopened]), submitReads_append, frameAnswers_append,
      hreads, hanswers, List.append_nil, List.append_nil]
    rcases hhelper with hsame | hnone
    · exact h.all connection (hsame ▸ hsome) hgoes
    · rw [hnone] at hsome
      cases hsome

/-- A call that fails reads no answer, and the helper it leaves has gone. -/
theorem failed (h : ReadsAnswers log component) (hopened : record.opened = false)
    (hresult : record.result ≠ .ok)
    (hhelper : ∀ connection, component'.helper = some connection → connection.helper = .ended) :
    ReadsAnswers (log ++ [record]) component' := by
  have hreads : submitReads [record] = [] := by simp [submitReads, hresult]
  constructor
  · rw [sessionLog_append, if_neg (by simp [hopened]), submitReads_append, frameAnswers_append,
      hreads, List.append_nil]
    exact h.begins.trans (List.prefix_append _ _)
  · intro connection hsome hgoes
    exact absurd (hhelper connection hsome) hgoes

/-- A successful call reads the answer to its frame. -/
theorem read (hall : submitReads (sessionLog log) = frameAnswers (sessionLog log))
    (hopened : record.opened = false) (hsent : record.frameSent = true)
    (hresult : record.result = .ok) (hread : record.consumed = record.produced) :
    ReadsAnswers (log ++ [record]) component' := by
  have heq : submitReads (sessionLog (log ++ [record])) =
      frameAnswers (sessionLog (log ++ [record])) := by
    rw [sessionLog_append, if_neg (by simp [hopened]), submitReads_append, frameAnswers_append,
      hall]
    simp [submitReads, frameAnswers, hsent, hresult, hread]
  exact ⟨heq ▸ List.prefix_rfl, fun _ _ _ => heq⟩

/-- A new session has neither frames nor answers. -/
theorem opened (hopened : record.opened = true) : ReadsAnswers (log ++ [record]) component' := by
  have hlog : sessionLog (log ++ [record]) = [] := by
    rw [sessionLog_append, if_pos hopened]
  constructor
  · rw [hlog]
    exact List.prefix_rfl
  · intro _ _ _
    rw [hlog]
    rfl

end ReadsAnswers

/-- A reply is accepted only from a helper that has not gone. -/
theorem AcceptedReply.helper_ne_ended (accepted : AcceptedReply env component data)
    (hstep : accepted.connection.inbound = []) : accepted.connection.helper ≠ .ended := by
  intro hended
  have hstatus := accepted.exchange_reply.2.1
  rw [accepted.exchange_eq, hstep] at hstatus
  have henough := le_length_of_recvLoop_complete hstatus
  unfold AcceptedReply.turn at henough
  rw [hended] at henough
  exact absurd henough (Nat.not_succ_le_zero _)

/-- When the payload stage fails and strands nothing, the helper has gone. -/
theorem AcceptedReply.ended_of_not_strands (accepted : AcceptedReply env component data)
    (hstep : accepted.connection.inbound = []) (hsize : accepted.reply.payloadSize ≠ 0)
    (hstrands : ¬accepted.Strands)
    (hfail : env.packetMalloc = false ∨
      env.packetMalloc = true ∧ accepted.packet.status ≠ .complete) :
    accepted.exchange.helper = .ended := by
  by_contra hgoes
  have hwhole := (accepted.produced_eq hstep).2.2 hgoes
  have hpos : accepted.reply.payloadSize.toNat ≠ 0 := by
    intro hzero
    exact hsize (UInt32.toNat_inj.mp hzero)
  rcases hfail with hmalloc | ⟨hmalloc, hstatus⟩
  · refine hstrands ⟨hsize, Or.inl ⟨hmalloc, ?_⟩⟩
    intro hrest
    rw [hrest] at hwhole
    exact hpos hwhole.symm
  · have hrest : accepted.packet.rest ≠ [] :=
      recvLoop_rest_ne_nil_of_not_complete hwhole.ge hstatus
    exact hstrands ⟨hsize, Or.inr ⟨hmalloc, hstatus, hrest⟩⟩

/-- `component_init` reads no answer of the session it begins. -/
theorem readsAnswers_init {log : List CallRecord} (process : BridgeProcess)
    (h : ReadsAnswers log process.component) (env : InitEnv) (format : AMFSurfaceFormat)
    (width height : Int32) :
    ReadsAnswers (log ++ [(componentInit version env process format width height).2])
      (componentInit version env process format width height).1.component := by
  rcases componentInit_cases version env process format width height with
    ⟨_, _, heq, -⟩ | ⟨_, heq⟩ | ⟨opened, -, heq⟩
  · rw [heq]
    exact h.unsent rfl rfl (Or.inl rfl)
  · rw [heq]
    exact h.unsent rfl rfl (Or.inr rfl)
  · rw [heq]
    exact .opened rfl

/-- A submitted frame that strands nothing and drops nothing reads its answer, or none. -/
theorem readsAnswers_submit {log : List CallRecord} (hsync : Synchronised component)
    (h : ReadsAnswers log component)
    (hown : (componentSubmit env component data).2.result = .ok →
      (componentSubmit env component data).2.consumed =
        (componentSubmit env component data).2.produced)
    (hstrands : ∀ accepted : AcceptedReply env component data, ¬accepted.Strands)
    (hdrops : ∀ accepted : AcceptedReply env component data, ¬accepted.Drops) :
    ReadsAnswers (log ++ [(componentSubmit env component data).2])
      (componentSubmit env component data).1 := by
  rcases componentSubmit_outcome env component data with
    ⟨_, heq, -⟩ | ⟨_, heq, hclosed⟩ | ⟨accepted, houtcome⟩
  · rw [heq]
    exact h.unsent rfl rfl (Or.inl rfl)
  · rw [heq]
    obtain ⟨hfail, hopened, -⟩ := hclosed.result_eq
    refine h.failed hopened (by rw [hfail]; decide) ?_
    intro connection hsome
    cases hsome
  · have hinbound := accepted.inbound_eq_nil hsync
    have hall := h.all _ accepted.helper_eq (accepted.helper_ne_ended hinbound)
    generalize componentSubmit env component data = next at houtcome hown ⊢
    cases houtcome with
    | empty => exact .read hall rfl rfl rfl (hown rfl)
    | noMemory hsize hmalloc =>
      refine h.failed rfl nofun fun connection hsome => ?_
      obtain rfl := Option.some.inj hsome
      exact accepted.ended_of_not_strands hinbound hsize (hstrands accepted) (Or.inl hmalloc)
    | short hsize hmalloc hstatus =>
      refine h.failed rfl nofun fun connection hsome => ?_
      obtain rfl := Option.some.inj hsome
      exact accepted.ended_of_not_strands hinbound hsize (hstrands accepted)
        (Or.inr ⟨hmalloc, hstatus⟩)
    | noBuffer hsize hmalloc hstatus hbuffer =>
      exact absurd ⟨hsize, hmalloc, hstatus, Or.inl hbuffer⟩ (hdrops accepted)
    | full hsize hmalloc hstatus _ hpush =>
      exact absurd ⟨hsize, hmalloc, hstatus, Or.inr (Ring.push_eq_none_iff.mp hpush)⟩
        (hdrops accepted)
    | queued => exact .read hall rfl rfl rfl (hown rfl)

/-- A call that strands nothing and drops nothing reads the next answer, or none. -/
theorem readsAnswers_step {log : List CallRecord} {process : BridgeProcess}
    (hsync : Synchronised process.component) (h : ReadsAnswers log process.component)
    (call : ComponentCall) (hstrands : ¬StrandsPayload process call)
    (hdrops : ¬DropsPacket process call) :
    ReadsAnswers (log ++ [((componentCalls version).step process call).2])
      ((componentCalls version).step process call).1.component := by
  cases call with
  | init env format width height => exact readsAnswers_init process h env format width height
  | reinit env width height =>
    have hclosed : ReadsAnswers log (componentCloseCodec process.component) := by
      refine ⟨h.begins, fun connection hsome => ?_⟩
      cases hsome
    exact readsAnswers_init { process with component := componentCloseCodec process.component }
      hclosed env process.component.format width height
  | submitInput env data =>
    have hreads : ReadsOwnReply version process (.submitInput env data) :=
      readsOwnReply_step hsync _
    refine readsAnswers_submit hsync h (hreads env data rfl) ?_ ?_
    · intro accepted hyes
      exact hstrands ⟨env, data, rfl, accepted, hyes⟩
    · intro accepted hyes
      exact hdrops ⟨env, data, rfl, accepted, hyes⟩
  | queryOutput out =>
    show ReadsAnswers (log ++ [(componentQueryOutput process.component out).2])
      (componentQueryOutput process.component out).1
    rcases componentQueryOutput_cases process.component out with ⟨_, heq, -⟩ | ⟨_, _, -, heq⟩
    · rw [heq]
      exact h.unsent rfl rfl (Or.inl rfl)
    · rw [heq]
      exact h.unsent rfl rfl (Or.inl rfl)
  | drain =>
    show ReadsAnswers (log ++ [(componentDrain process.component).2])
      (componentDrain process.component).1
    unfold componentDrain
    split_ifs <;> exact h.unsent rfl rfl (Or.inl rfl)
  | flush =>
    show ReadsAnswers (log ++ [(componentFlush process.component).2])
      (componentFlush process.component).1
    unfold componentFlush
    split_ifs <;> exact h.unsent rfl rfl (Or.inl rfl)
  | terminate => exact h.unsent rfl rfl (Or.inr rfl)

/-! ## Whole runs -/

/-- Every call of `component_submit` returns in step exactly when none of them
fails in the payload stage with payload bytes unread.  In such a run every
successful call reads the answer to its own frame; and if no packet that was read
is dropped either, the `k`-th successful call of a session reads the answer to
the `k`-th frame of the session. -/
theorem submit_synchronised_iff (version : UInt32) (properties : BridgePropertyStore)
    (failureTime : UInt64) (calls : List ComponentCall) :
    let along := fun P => (componentCalls version).Along P []
      (BridgeProcess.fresh properties failureTime) calls
    (along (fun _ process call => SubmitSynchronised version process call) ↔
      along (fun _ process call => ¬StrandsPayload process call)) ∧
    (along (fun _ process call => ¬StrandsPayload process call) →
      along (fun _ process call => ReadsOwnReply version process call)) ∧
    (along (fun _ process call => ¬StrandsPayload process call ∧ ¬DropsPacket process call) →
      along (ReadsInOrder version)) := by
  intro along
  -- The invariant: paired and in step; a step keeps it when it returns in step.
  have hstep : ∀ process call, Paired process.component ∧ Synchronised process.component →
      SubmitSynchronised version process call →
      Paired ((componentCalls version).step process call).1.component ∧
        Synchronised ((componentCalls version).step process call).1.component :=
    fun process call h hsubmit =>
      ⟨paired_step h.1 call, synchronised_step h.1 h.2 call hsubmit⟩
  have hfresh : Paired (BridgeProcess.fresh properties failureTime).component ∧
      Synchronised (BridgeProcess.fresh properties failureTime).component :=
    paired_synchronised_of_closed rfl rfl
  refine ⟨?_, ?_, ?_⟩
  · exact Machine.along_iff (fun _ process => Paired process.component ∧
      Synchronised process.component) (fun _ process call => hstep process call)
      (fun _ _ call h => submit_synchronised_step h.2 call) hfresh
  · refine Machine.along_of_invariant (fun _ process => Paired process.component ∧
      Synchronised process.component) ?_ (fun _ _ call h _ => readsOwnReply_step h.2 call) hfresh
    intro _ process call h hstrands
    exact hstep process call h ((submit_synchronised_step h.2 call).mpr hstrands)
  · refine Machine.along_of_invariant (fun log process => (Paired process.component ∧
      Synchronised process.component) ∧ ReadsAnswers log process.component) ?_ ?_
      ⟨hfresh, List.prefix_rfl, fun _ _ _ => rfl⟩
    · intro log process call h hcond
      exact ⟨hstep process call h.1 ((submit_synchronised_step h.1.2 call).mpr hcond.1),
        readsAnswers_step h.1.2 h.2 call hcond.1 hcond.2⟩
    · intro log process call h hcond k read hread
      obtain ⟨later, hlater⟩ : submitReads (sessionLog
          (log ++ [((componentCalls version).step process call).2])) <+: frameAnswers (sessionLog
            (log ++ [((componentCalls version).step process call).2])) :=
        (readsAnswers_step h.1.2 h.2 call hcond.1 hcond.2).begins
      rw [← hlater, List.getElem?_append_left (List.getElem?_eq_some_iff.mp hread).1]
      exact hread

/-! ## A packet that arrives too late -/

/-- A surface of 128 by 128. -/
def smallSurface (pts duration : Int64) : BridgeSurface := ⟨⟨true, 128, 128⟩, pts, duration⟩

theorem oneByte_length_lt : ([1] : List UInt8).length < 2 ^ 31 := by decide

/-- A frame of 128 by 128 for which the encoder has the packets `receive`. -/
def smallEnv (receive : List ReceivePacket) (packetRecv : List RecvResult) : SubmitEnv where
  map := { rowPitch := 128, pData := fun _ => 0 }
  helper := { message := { encode := { receive } } }
  packetRecv := packetRecv

/-- A component in an encoder session of 128 by 128, in step. -/
structure SmallSession (component : BridgeComponent) (session : HelperSession) : Prop where
  initialized : component.initialized = true
  width_eq : component.width = 128
  height_eq : component.height = 128
  helper_eq : component.helper = some { helper := .serving session [] }
  codec_isSome : session.encoder.codec.isSome = true
  encoder_width_eq : session.encoder.width = 128
  encoder_height_eq : session.encoder.height = 128

/-- The session after one more frame. -/
def HelperSession.nextFrame (session : HelperSession) : HelperSession :=
  { session with encoder := { session.encoder with nextPts := session.encoder.nextPts + 1 } }

/-- The reply to a frame for which the encoder has `size` bytes. -/
def smallReply (size : UInt32) : HelperReply where
  magic := helperMagic
  type := helperReply
  status := 0
  payloadSize := size
  width := 0
  height := 0

/-- The header of a frame in such a session. -/
theorem SmallSession.payloadSize_eq {session : HelperSession} (h : SmallSession component session)
    (pts duration : Int64) :
    (frameMessage component (smallSurface pts duration)).payloadSize = 24576 := by
  show frameSize component = 24576
  unfold frameSize
  rw [h.width_eq, h.height_eq]
  rfl

/-- In such a session the size equation of the encoder holds and every call succeeds, so the
answer to a frame is what the encoder has. -/
theorem SmallSession.answer_eq {session : HelperSession} (h : SmallSession component session)
    (receive : List ReceivePacket) (packetRecv : List RecvResult) (pts duration : Int64)
    {output : List UInt8} (frame : List UInt8)
    (hreceive : (receivePackets session.encoder.codec receive none).result = 0)
    (houtput : (receivePackets session.encoder.codec receive none).output = output) :
    answerMessage (smallEnv receive packetRecv).helper.message session
        (frameMessage component (smallSurface pts duration)) frame =
      { session := session.nextFrame
        result := 0
        packetData := output
        packetSize := UInt32.ofNat output.length
        calls := (encoderFrame (smallEnv receive packetRecv).helper.message.encode session.encoder
          frame (frameMessage component (smallSurface pts duration))).calls } := by
  have hsize := h.payloadSize_eq pts duration
  have hguard : ¬(session.encoder.codec.isNone = true ∨
      (frameMessage component (smallSurface pts duration)).payloadSize ≠
        session.encoder.width * session.encoder.height * 3 / 2) := by
    rw [hsize, h.encoder_width_eq, h.encoder_height_eq, Option.isNone_iff_eq_none]
    rintro (hnone | hne)
    · have hsome := h.codec_isSome
      rw [hnone] at hsome
      cases hsome
    · exact hne rfl
  have hencoded : encoderFrame (smallEnv receive packetRecv).helper.message.encode session.encoder
      frame (frameMessage component (smallSurface pts duration)) =
      { result := (receivePackets session.encoder.codec receive none).result
        packetData := (receivePackets session.encoder.codec receive none).output
        packetSize := UInt32.ofNat (receivePackets session.encoder.codec receive none).output.length
        state := session.nextFrame.encoder
        calls := .sendFrame session.encoder.codec
          (fillHostFrame (smallEnv receive packetRecv).helper.message.encode session.encoder frame)
          session.encoder.nextPts :: (receivePackets session.encoder.codec receive none).calls
        aborts := (receivePackets session.encoder.codec receive none).aborts } := by
    unfold encoderFrame
    rw [if_neg hguard]
    rfl
  have hreturns : (receivePackets session.encoder.codec receive none).aborts = false :=
    receivePackets_returns (by rw [hreceive]; decide)
  rw [hreceive, houtput, hreturns] at hencoded
  unfold answerMessage
  rw [if_pos (show (frameMessage component (smallSurface pts duration)).type = helperFrame from
    rfl), hencoded]
  rfl

/-- In such a session the helper writes the whole answer and goes on. -/
theorem SmallSession.turn_eq {session : HelperSession} (h : SmallSession component session)
    {receive : List ReceivePacket} (packetRecv : List RecvResult) (pts duration : Int64)
    {frame output : List UInt8} (hlength : frame.length = 24576)
    (hreceive : (receivePackets session.encoder.codec receive none).result = 0)
    (houtput : (receivePackets session.encoder.codec receive none).output = output) :
    let turn := (HelperSide.serving session []).receive (smallEnv receive packetRecv).helper
      ((frameMessage component (smallSurface pts duration)).encode ++ frame)
    sentBytes turn.events = (smallReply (UInt32.ofNat output.length)).encode ++
        output.take (UInt32.ofNat output.length).toNat ∧
      turn.next = some (session.nextFrame, []) := by
  intro turn
  have hsize := h.payloadSize_eq pts duration
  have haccept : headerAccepted (frameMessage component (smallSurface pts duration)) = true := by
    unfold headerAccepted
    rw [hsize]
    rfl
  have hreceived : receiveMessage (smallEnv receive packetRecv).helper.message
      ((frameMessage component (smallSurface pts duration)).encode ++ (frame ++ [])) =
        some (frameMessage component (smallSurface pts duration), frame, []) :=
    receiveMessage_eq nofun nofun haccept rfl (by
      rw [hlength, hsize]
      rfl)
  have hanswer := h.answer_eq receive packetRecv pts duration frame hreceive houtput
  have hfault : (answerMessage (smallEnv receive packetRecv).helper.message session
      (frameMessage component (smallSurface pts duration)) frame).calls.any AvCall.faults =
        false := by
    rw [hanswer, List.any_eq_false]
    intro call hcall
    obtain ⟨hcodec, hsome⟩ := encoderFrame_codec hcall
    unfold AvCall.faults
    rw [hcodec, Option.isNone_iff_eq_none]
    intro hnone
    rw [hnone] at hsome
    cases hsome
  have hreply : ∀ call ∈ (smallEnv receive packetRecv).helper.message.replySend,
      call.Undisturbed true := nofun
  have hreturns : (answerMessage (smallEnv receive packetRecv).helper.message session
      (frameMessage component (smallSurface pts duration)) frame).aborts = false := by
    rw [hanswer]
  have hwritten := replyMessage_eq [] hreply nofun hfault hreturns
    (answerMessage_payload_length _ _ _ _)
  have hturn : turn = replyMessage (smallEnv receive packetRecv).helper.message
      (answerMessage (smallEnv receive packetRecv).helper.message session
        (frameMessage component (smallSurface pts duration)) frame) [] := by
    show serveMessage (smallEnv receive packetRecv).helper.message session
      ([] ++ ((frameMessage component (smallSurface pts duration)).encode ++ frame)) = _
    rw [List.append_nil] at hreceived
    rw [List.nil_append, serveMessage, hreceived]
  rw [hturn, hwritten.1, hwritten.2, hanswer]
  exact ⟨rfl, rfl⟩

/-- In such a session the frame is answered with the packets of the encoder. -/
theorem SmallSession.exchange {session : HelperSession} (h : SmallSession component session)
    (receive : List ReceivePacket) (packetRecv : List RecvResult) (pts duration : Int64)
    (output : List UInt8)
    (hreceive : (receivePackets session.encoder.codec receive none).result = 0)
    (houtput : (receivePackets session.encoder.codec receive none).output = output) :
    ∃ accepted : AcceptedReply (smallEnv receive packetRecv) component
        (some (smallSurface pts duration)),
      accepted.surface = smallSurface pts duration ∧
        accepted.reply = smallReply (UInt32.ofNat output.length) ∧
        accepted.exchange.header.rest = output.take (UInt32.ofNat output.length).toNat ∧
        accepted.exchange.helper = .serving session.nextFrame [] := by
  obtain ⟨frame, hframe, hlength⟩ : ∃ frame, mapSurfaceBytes (smallEnv receive packetRecv).map
      component (smallSurface pts duration) = .ok frame ∧ frame.length = 24576 := by
    unfold mapSurfaceBytes frameSize
    rw [h.width_eq, h.height_eq]
    refine ⟨_, rfl, ?_⟩
    rw [List.length_map, List.length_range]
    rfl
  let env := smallEnv receive packetRecv
  let connection : Connection := { helper := .serving session [] }
  let header := frameMessage component (smallSurface pts duration)
  have hnone : ∀ call ∈ env.frameSend, call.Undisturbed false := nofun
  have hsend : (socketSendAll env.frameSend frame).complete = true :=
    congrArg SendOutcome.complete (sendLoop_eq_of_undisturbed hnone)
  have hexchange : exchangeFrame env connection header.encode frame = _ :=
    exchangeFrame_eq (congrArg SendOutcome.complete (sendLoop_eq_of_undisturbed hnone)) hsend
  obtain ⟨hwritten, hnext⟩ := h.turn_eq packetRecv pts duration hlength hreceive houtput
  rw [hwritten, hnext] at hexchange
  -- The header of the reply is read from the bytes the helper has written.
  have hheader : socketRecvAll env.replyRecv HelperReply.size (connection.inbound ++
      ((smallReply (UInt32.ofNat output.length)).encode ++
        output.take (UInt32.ofNat output.length).toNat)) =
      ⟨.complete, (smallReply (UInt32.ofNat output.length)).encode,
        output.take (UInt32.ofNat output.length).toNat⟩ := by
    have hlen := HelperReply.encode_length (smallReply (UInt32.ofNat output.length))
    have hundisturbed : ∀ call ∈ env.replyRecv, call.Undisturbed socketRecv := nofun
    unfold socketRecvAll
    rw [List.nil_append, recvLoop_eq_of_undisturbed hundisturbed
      (by rw [List.length_append]; omega), List.take_left' hlen, List.drop_left' hlen]
  rw [hheader] at hexchange
  have hreply : (exchangeFrame env connection header.encode frame).reply? =
      some (smallReply (UInt32.ofNat output.length)) := by
    rw [hexchange]
    unfold FrameExchange.reply?
    simp only [HelperReply.decode_encode]
    rfl
  refine ⟨⟨smallSurface pts duration, frame, connection, smallReply (UInt32.ofNat output.length),
    h.initialized, rfl, hframe, h.helper_eq, hreply⟩, rfl, rfl, ?_, ?_⟩
  · show (exchangeFrame env connection header.encode frame).header.rest = _
    rw [hexchange]
  · show (exchangeFrame env connection header.encode frame).helper = _
    rw [hexchange]
    rfl

/-- The session of the helper after the handshake. -/
def smallStart : HelperSession where
  encoder :=
    { codec := some (encoderContext (initMessage helperProtocolVersion [] 128 128))
      width := 128
      height := 128 }

/-- A component that has opened a session of 128 by 128. -/
def smallProcess : BridgeProcess :=
  ((componentCalls helperProtocolVersion).step (BridgeProcess.fresh [] 0)
    (.init {} .nv12 128 128)).1

theorem smallProcess_eq : smallProcess =
    { component :=
        { helper := some { helper := .serving smallStart [] }
          width := 128
          height := 128
          format := .nv12
          initialized := true } } := by
  rfl

theorem smallProcess_session : SmallSession smallProcess.component smallStart := by
  rw [smallProcess_eq]
  exact ⟨rfl, rfl, rfl, rfl, rfl, rfl, rfl⟩

/-- The helper answers the first frame with a packet of one byte, which does not
arrive before the timeout. -/
def strandedCalls : List ComponentCall :=
  [.init {} .nv12 128 128,
    .submitInput (smallEnv [⟨0, ⟨[1], oneByte_length_lt⟩, true⟩] [.error])
      (some (smallSurface 0 0))]

/-- The second call returns with the byte of the packet unread. -/
theorem stranded_calls_out_of_step :
    ¬(componentCalls helperProtocolVersion).Along
      (fun _ process call => SubmitSynchronised helperProtocolVersion process call) []
      (BridgeProcess.fresh [] 0) strandedCalls := by
  have hsync : Synchronised smallProcess.component := by
    rw [smallProcess_eq]
    rfl
  have hsecond : ¬SubmitSynchronised helperProtocolVersion smallProcess
      (.submitInput (smallEnv [⟨0, ⟨[1], oneByte_length_lt⟩, true⟩] [.error])
        (some (smallSurface 0 0))) := by
    rw [submit_synchronised_step hsync, not_not]
    obtain ⟨accepted, -, hreply, hrest, -⟩ := smallProcess_session.exchange
      [⟨0, ⟨[1], oneByte_length_lt⟩, true⟩] [.error] 0 0 [1] rfl rfl
    refine ⟨_, _, rfl, accepted, ?_, Or.inr ⟨rfl, ?_⟩⟩
    · rw [hreply]
      exact nofun
    · unfold AcceptedReply.packet
      rw [hreply, hrest]
      exact ⟨nofun, nofun⟩
  exact Machine.not_along_cons_cons _ hsecond

end UuAmfBridge
