import Mathlib.Data.List.Forall2
import UuAmfBridge.Bridge.PacketQueue

/-!
# The timestamps of the encoded packets

An encoder may keep a frame back: it has one packet for each frame, in order,
but `avcodec_receive_packet` may give it only when further frames have been sent.
`encoder_frame` puts all packets it collects for one frame behind each other into
one reply, and the reply has no timestamp.  `component_submit` labels the payload
with the timestamps of the surface it has just submitted.

`delayedCalls` is a session over such an encoder, with the frames it holds back
as ghost state.  `buffers_own_iff` says when every buffer is one packet under its
own timestamps: whenever a payload reaches the queue, the packets collected for
it are exactly one, of a frame with the timestamps of the surface submitted
(`Mislabels` is the opposite), and no payload is stranded.

* `AcceptedReply.answered`: the helper serves the frame that was sent, and the
  payload is the packets it has collected.
* `buffersOwn_step`: one call keeps the buffers right exactly when it does not
  mislabel.
-/

namespace UuAmfBridge

variable {version : UInt32} {env : SubmitEnv} {component : BridgeComponent}
  {data : Option BridgeSurface}

/-! ## An encoder with a delay -/

/-- A frame the encoder has taken in: the packet it will give for it, and the
timestamps of its surface. -/
structure EncodedFrame where
  packet : AVPacket
  pts : Int64
  duration : Int64

/-- A component, the frames its encoder has taken in and not given out, and for
each buffer in the queue the frames whose packets were collected for it. -/
structure DelayedProcess where
  process : BridgeProcess
  pending : List EncodedFrame := []
  held : List (List EncodedFrame) := []

/-- Submit a surface for which the encoder has `packet`, and collect as many
packets as `collects` is long, with the results of the `realloc` calls; or take a
buffer. -/
inductive DelayedCall where
  | submitInput (env : SubmitEnv) (surface : BridgeSurface) (packet : AVPacket)
      (collects : List Bool)
  | queryOutput (out : Bool)

/-- The record of a call, and the frames of the packets in the buffer it has
returned. -/
structure DelayedAnswer where
  record : CallRecord
  frames : Option (List EncodedFrame) := none

/-- The calls of `avcodec_receive_packet` that collect the packets of `frames`. -/
def receives (frames : List EncodedFrame) (collects : List Bool) : List ReceivePacket :=
  frames.zipWith (fun frame realloc => ⟨0, frame.packet, realloc⟩) collects

/-- The same call, over an encoder that gives the packets of `frames`. -/
def SubmitEnv.collecting (env : SubmitEnv) (frames : List EncodedFrame)
    (collects : List Bool) : SubmitEnv :=
  { env with helper := { env.helper with message := { env.helper.message with
      encode := { env.helper.message.encode with receive := receives frames collects } } } }

@[simp] theorem SubmitEnv.collecting_receive (env : SubmitEnv) (frames : List EncodedFrame)
    (collects : List Bool) :
    (env.collecting frames collects).helper.message.encode.receive = receives frames collects :=
  rfl

/-- The frames in the encoder once a surface has been sent. -/
def DelayedProcess.encoded (delayed : DelayedProcess) (surface : BridgeSurface)
    (packet : AVPacket) : List EncodedFrame :=
  delayed.pending ++ [⟨packet, surface.pts, surface.duration⟩]

/-- What happens during a call of `component_submit`. -/
def DelayedProcess.submitEnv (delayed : DelayedProcess) (env : SubmitEnv)
    (surface : BridgeSurface) (packet : AVPacket) (collects : List Bool) : SubmitEnv :=
  env.collecting ((delayed.encoded surface packet).take collects.length) collects

/-- The call of the component that a call of the session makes. -/
def DelayedProcess.componentCall (delayed : DelayedProcess) : DelayedCall → ComponentCall
  | .submitInput env surface packet collects =>
      .submitInput (delayed.submitEnv env surface packet collects) (some surface)
  | .queryOutput out => .queryOutput out

/-- A session over an encoder with a delay.  The encoder keeps what it has not
given out; a buffer that enters the queue enters with the frames collected for
it, and one that leaves the queue leaves with them. -/
def delayedCalls (version : UInt32) : Machine DelayedProcess DelayedCall DelayedAnswer where
  step delayed call :=
    let (process, record) :=
      (componentCalls version).step delayed.process (delayed.componentCall call)
    match call with
    | .submitInput _ surface packet collects =>
        let encoded := delayed.encoded surface packet
        let queued := delayed.process.component.outputs.count < process.component.outputs.count
        ({ process
           pending := if record.frameSent then encoded.drop collects.length else delayed.pending
           held := if queued then delayed.held ++ [encoded.take collects.length]
             else delayed.held },
          { record })
    | .queryOutput _ =>
        let leaves := record.output.isSome
        ({ delayed with process, held := if leaves then delayed.held.tail else delayed.held },
          { record, frames := if leaves then delayed.held.head? else none })

/-- The component answers the call that the session makes. -/
theorem delayedCalls_process (version : UInt32) (delayed : DelayedProcess) (call : DelayedCall) :
    ((delayedCalls version).step delayed call).1.process =
      ((componentCalls version).step delayed.process (delayed.componentCall call)).1 := by
  cases call with
  | submitInput => rfl
  | queryOutput => rfl

/-! ## The property and the condition -/

/-- A buffer is one packet, under the timestamps of the frame it was encoded
from. -/
def OwnBuffer (buffer : BridgeBuffer) (frames : List EncodedFrame) : Prop :=
  ∃ frame : EncodedFrame, frames = [frame] ∧
    buffer = ⟨frame.packet.data, frame.pts, frame.duration⟩

/-- Every buffer in the queue is one packet under its own timestamps. -/
def QueuedOwn (delayed : DelayedProcess) : Prop :=
  List.Forall₂ OwnBuffer delayed.process.component.outputs.contents delayed.held

/-- A call leaves the stream in step, and every buffer in the queue under its own
timestamps. -/
def BuffersOwn (version : UInt32) (delayed : DelayedProcess) (call : DelayedCall) : Prop :=
  let next := ((delayedCalls version).step delayed call).1
  Synchronised next.process.component ∧ QueuedOwn next

/-- A buffer that `component_query_output` returns is one packet under its own
timestamps. -/
def ReturnsOwn (version : UInt32) (delayed : DelayedProcess) (call : DelayedCall) : Prop :=
  let answer := ((delayedCalls version).step delayed call).2
  ∀ buffer, answer.record.output = some buffer →
    ∃ frames, answer.frames = some frames ∧ OwnBuffer buffer frames

/-- The payload of a reply reaches the queue. -/
def AcceptedReply.Queues (accepted : AcceptedReply env component data) : Prop :=
  accepted.reply.payloadSize ≠ 0 ∧ env.packetMalloc = true ∧
    accepted.packet.status = .complete ∧ env.bufferCreate = true ∧
      component.outputs.count ≠ bridgeMaxOutputs

/-- A payload reaches the queue, and the packets collected for it are not exactly
one, of a frame with the timestamps of the surface submitted. -/
def Mislabels (delayed : DelayedProcess) (call : DelayedCall) : Prop :=
  ∃ env surface packet collects, call = .submitInput env surface packet collects ∧
    (∃ accepted : AcceptedReply (delayed.submitEnv env surface packet collects)
      delayed.process.component (some surface), accepted.Queues) ∧
    ¬∃ frame : EncodedFrame,
      (delayed.encoded surface packet).take collects.length = [frame] ∧
        frame.pts = surface.pts ∧ frame.duration = surface.duration

/-- The payload of the reply to the call is stranded. -/
def DelayedProcess.Strands (delayed : DelayedProcess) (call : DelayedCall) : Prop :=
  StrandsPayload delayed.process (delayed.componentCall call)

/-! ## The reply to a frame -/

/-- The helper has gone, or it has read everything and waits for a message. -/
def AtBoundary (component : BridgeComponent) : Prop :=
  ∀ connection, component.helper = some connection → connection.helper = .ended ∨
    ∃ session, connection.helper = .serving session []

/-- What the helper answers to the frame of a call in `session`. -/
def AcceptedReply.answer (accepted : AcceptedReply env component data)
    (session : HelperSession) : Answer :=
  answerMessage env.helper.message session (frameMessage component accepted.surface)
    accepted.frame

/-- The helper serves exactly the frame that was sent: an accepted header is the
one of its answer, the rest is a beginning of the payload, and the helper waits
for the next message or has gone. -/
theorem AcceptedReply.answered (accepted : AcceptedReply env component data)
    (hstep : accepted.connection.inbound = []) (hboundary : AtBoundary component) :
    ∃ session, accepted.reply = (accepted.answer session).reply ∧
      accepted.exchange.header.rest <+: (accepted.answer session).payload ∧
        (accepted.exchange.helper = .ended ∨
          ∃ next, accepted.exchange.helper = .serving next []) := by
  obtain hended | ⟨session, hserving⟩ := hboundary _ accepted.helper_eq
  · exact absurd hended (accepted.helper_ne_ended hstep)
  obtain ⟨-, hstatus, hdecode, -⟩ := accepted.exchange_reply
  have hexchange := accepted.exchange_eq
  rw [hstep, List.nil_append] at hexchange
  rw [hexchange] at hstatus hdecode ⊢
  have hsplit := recvLoop_eq_of_complete hstatus
  have henough := le_length_of_recvLoop_complete hstatus
  simp only [socketRecvAll, hsplit] at hdecode ⊢
  -- Only the whole frame can have been received, and an answer was written.
  have hlength : accepted.frame.length =
      (frameMessage component accepted.surface).payloadSize.toNat :=
    mapSurfaceBytes_length accepted.frame_eq
  have hturn : accepted.turn = serveMessage env.helper.message session
      ((frameMessage component accepted.surface).encode ++ accepted.frame) := by
    unfold turn
    rw [hserving]
    rfl
  have hreceived := receiveMessage_cases env.helper.message hlength
  obtain hnone | hsome := hreceived
  · rw [hturn, serveMessage, hnone] at henough
    exact absurd henough (Nat.not_succ_le_zero _)
  have hreply : accepted.turn =
      replyMessage env.helper.message (accepted.answer session) [] := by
    rw [hturn, serveMessage, hsome]
    rfl
  rw [hreply] at henough hdecode ⊢
  obtain ⟨hshort, -⟩ | ⟨body, hsent, hbegins, -⟩ :=
    replyMessage_sentBytes env.helper.message (accepted.answer session) []
      (answerMessage_payload_length _ _ _ _)
  · exact absurd henough (Nat.not_le.mpr hshort)
  refine ⟨session, ?_, ?_, ?_⟩
  · rw [hdecode, hsent, List.take_left' (HelperReply.encode_length _),
      HelperReply.decode_encode]
  · rw [hsent, List.drop_left' (HelperReply.encode_length _)]
    exact hbegins
  · cases hnext : (replyMessage env.helper.message (accepted.answer session) []).next with
    | none => exact Or.inl rfl
    | some next =>
      obtain ⟨next, unread⟩ := next
      obtain ⟨-, rfl⟩ := replyMessage_next hnext
      exact Or.inr ⟨next, rfl⟩

/-- A payload that is read completely is the payload of the answer to the frame of
the call. -/
theorem AcceptedReply.packet_data (accepted : AcceptedReply env component data)
    (hstep : accepted.connection.inbound = []) (hboundary : AtBoundary component)
    (hstatus : accepted.packet.status = .complete) :
    ∃ session, accepted.reply = (accepted.answer session).reply ∧
      accepted.packet.data = (accepted.answer session).payload := by
  obtain ⟨session, hreply, hbegins, -⟩ := accepted.answered hstep hboundary
  refine ⟨session, hreply, ?_⟩
  rw [(accepted.packet_rest hstep hstatus).1]
  apply hbegins.eq_of_length_le
  have hpayload : (accepted.answer session).payload.length =
      (accepted.answer session).packetSize.toNat := answerMessage_payload_length _ _ _ _
  have henough : accepted.reply.payloadSize.toNat ≤ accepted.exchange.header.rest.length :=
    le_length_of_recvLoop_complete hstatus
  rw [hreply] at henough
  rw [hpayload]
  exact henough

/-- One packet that is collected for a frame is the payload of its reply. -/
theorem collected_packet {frames : List EncodedFrame} {collects : List Bool}
    (accepted : AcceptedReply (env.collecting (frames.take collects.length) collects) component
      data)
    (hstep : accepted.connection.inbound = []) (hboundary : AtBoundary component)
    (hstatus : accepted.packet.status = .complete) {frame : EncodedFrame}
    (hframes : frames.take collects.length = [frame]) :
    accepted.packet.data = frame.packet.data := by
  obtain ⟨session, hreply, hdata⟩ := accepted.packet_data hstep hboundary hstatus
  have hresult : ¬(accepted.answer session).result < 0 := by
    intro hfail
    have haccept := accepted.exchange_reply.2.2.2
    unfold replyAccepted at haccept
    rw [hreply] at haccept
    simp [reply_status_ne_zero hfail] at haccept
  obtain ⟨hloop, hpayload⟩ := answerMessage_frame_payload rfl hresult
  have hreceive : receives (frames.take collects.length) collects =
      [⟨0, frame.packet, collects.headD true⟩] := by
    rw [hframes]
    cases collects with
    | nil => cases hframes
    | cons realloc collects => rfl
  simp only [SubmitEnv.collecting_receive, hreceive] at hloop hpayload
  have hthere : ∀ call ∈ [(⟨0, frame.packet, collects.headD true⟩ : ReceivePacket)],
      call.result = 0 := by
    intro call hcall
    rw [List.mem_singleton.mp hcall]
  have houtput := receivePackets_output_eq hthere hloop
  rw [Option.getD_none, List.nil_append, List.flatMap_singleton] at houtput
  have hfits : frame.packet.data.length < 2 ^ 32 := by
    have hsize := frame.packet.size_lt
    omega
  rw [houtput, UInt32.toNat_ofNat_of_lt' hfits, List.take_length] at hpayload
  rw [hdata]
  exact hpayload

/-! ## One call -/

/-- A payload that reaches the queue enters it as the youngest buffer. -/
theorem AcceptedReply.Queues.submit_eq {accepted : AcceptedReply env component data}
    (h : accepted.Queues) :
    ∃ outputs, component.outputs.push accepted.buffer = some outputs ∧
      componentSubmit env component data =
        ({ component with helper := some accepted.afterPayload, outputs },
          accepted.packetRecord) := by
  obtain ⟨hsize, hmalloc, hstatus, hbuffer, hcount⟩ := h
  have houtcome := accepted.receivePacket_outcome
  rw [← accepted.componentSubmit_eq] at houtcome
  generalize componentSubmit env component data = next at houtcome ⊢
  cases houtcome with
  | empty hempty => exact absurd hempty hsize
  | noMemory _ hfail =>
    rw [hmalloc] at hfail
    cases hfail
  | short _ _ hshort => exact absurd hstatus hshort
  | noBuffer _ _ _ hfail =>
    rw [hbuffer] at hfail
    cases hfail
  | full _ _ _ _ hpush => exact absurd (Ring.push_eq_none_iff.mp hpush) hcount
  | queued outputs _ _ _ _ hpush => exact ⟨outputs, hpush, rfl⟩

/-- A call whose payload does not reach the queue leaves the queue as it was. -/
theorem componentSubmit_outputs_eq
    (h : ¬∃ accepted : AcceptedReply env component data, accepted.Queues) :
    (componentSubmit env component data).1.outputs = component.outputs := by
  rcases componentSubmit_outcome env component data with
    ⟨_, heq, -⟩ | ⟨_, heq, -⟩ | ⟨accepted, houtcome⟩
  · rw [heq]
  · rw [heq]
    rfl
  · generalize componentSubmit env component data = next at houtcome ⊢
    cases houtcome with
    | empty => rfl
    | noMemory => rfl
    | short => rfl
    | noBuffer => rfl
    | full => rfl
    | queued outputs hsize hmalloc hstatus hbuffer hpush =>
      refine absurd ⟨accepted, hsize, hmalloc, hstatus, hbuffer, ?_⟩ h
      intro hfull
      rw [Ring.push_eq_none_iff.mpr hfull] at hpush
      cases hpush

/-- A call of `component_submit` leaves the helper waiting for a message. -/
theorem componentSubmit_atBoundary (hsync : Synchronised component)
    (hboundary : AtBoundary component) :
    AtBoundary (componentSubmit env component data).1 := by
  rcases componentSubmit_outcome env component data with
    ⟨_, heq, -⟩ | ⟨_, heq, -⟩ | ⟨accepted, houtcome⟩
  · rw [heq]
    exact hboundary
  · rw [heq]
    intro connection hsome
    cases hsome
  · obtain ⟨-, -, -, hwaits⟩ := accepted.answered (accepted.inbound_eq_nil hsync) hboundary
    generalize componentSubmit env component data = next at houtcome ⊢
    cases houtcome
    all_goals
      intro connection hsome
      obtain rfl := Option.some.inj hsome
      exact hwaits

/-- What every call of a session keeps. -/
structure DelayedInvariant (delayed : DelayedProcess) : Prop where
  paired : Paired delayed.process.component
  synchronised : Synchronised delayed.process.component
  atBoundary : AtBoundary delayed.process.component
  valid : delayed.process.component.outputs.Valid
  own : QueuedOwn delayed

/-- The frames behind the youngest buffer are the youngest ones. -/
theorem queuedOwn_append_iff {buffers : List BridgeBuffer} {held : List (List EncodedFrame)}
    (h : List.Forall₂ OwnBuffer buffers held) (buffer : BridgeBuffer)
    (frames : List EncodedFrame) :
    List.Forall₂ OwnBuffer (buffers ++ [buffer]) (held ++ [frames]) ↔
      OwnBuffer buffer frames := by
  constructor
  · intro hall
    have hlast := List.forall₂_drop_append _ _ _ hall
    rw [← h.length_eq, List.drop_left] at hlast
    cases hlast with
    | cons hown _ => exact hown
  · intro hown
    exact List.rel_append h (.cons hown .nil)

/-- A buffer that enters the queue is one packet under its own timestamps exactly
when the packets collected for it are one, of a frame with the timestamps of the
surface. -/
theorem ownBuffer_iff {surface : BridgeSurface} {frames : List EncodedFrame}
    {collects : List Bool}
    (accepted : AcceptedReply (env.collecting (frames.take collects.length) collects) component
      (some surface))
    (hstep : accepted.connection.inbound = []) (hboundary : AtBoundary component)
    (hqueues : accepted.Queues) :
    OwnBuffer accepted.buffer (frames.take collects.length) ↔
      ∃ frame : EncodedFrame, frames.take collects.length = [frame] ∧
        frame.pts = surface.pts ∧ frame.duration = surface.duration := by
  have hsurface : accepted.surface = surface := (Option.some.inj accepted.data_eq).symm
  constructor
  · rintro ⟨frame, hframes, hbuffer⟩
    have hpts : accepted.surface.pts = frame.pts := congrArg BridgeBuffer.pts hbuffer
    have hduration : accepted.surface.duration = frame.duration :=
      congrArg BridgeBuffer.duration hbuffer
    rw [hsurface] at hpts hduration
    exact ⟨frame, hframes, hpts.symm, hduration.symm⟩
  · rintro ⟨frame, hframes, hpts, hduration⟩
    refine ⟨frame, hframes, ?_⟩
    unfold AcceptedReply.buffer
    rw [collected_packet accepted hstep hboundary hqueues.2.2.1 hframes, hsurface, hpts,
      hduration]

/-- The queue and the frames behind its buffers, after a call whose payload
reaches the queue. -/
theorem delayedSubmit_queued (version : UInt32) {delayed : DelayedProcess}
    (hvalid : delayed.process.component.outputs.Valid) {surface : BridgeSurface}
    {packet : AVPacket} {collects : List Bool}
    {accepted : AcceptedReply (delayed.submitEnv env surface packet collects)
      delayed.process.component (some surface)} (hqueues : accepted.Queues) :
    let next := ((delayedCalls version).step delayed
      (.submitInput env surface packet collects)).1
    next.process.component.outputs.Valid ∧
      next.process.component.outputs.contents =
        delayed.process.component.outputs.contents ++ [accepted.buffer] ∧
      next.held = delayed.held ++ [(delayed.encoded surface packet).take collects.length] := by
  intro next
  obtain ⟨outputs, hpush, heq⟩ := hqueues.submit_eq
  obtain ⟨hvalid', hcontents⟩ := hvalid.push hpush
  have hcomponent : next.process.component =
      { delayed.process.component with helper := some accepted.afterPayload, outputs } :=
    congrArg Prod.fst heq
  have hcount : delayed.process.component.outputs.count < outputs.count := by
    rw [← hvalid'.contents_length, hcontents, List.length_append, hvalid.contents_length]
    exact Nat.lt_succ_self _
  rw [hcomponent]
  refine ⟨hvalid', hcontents, ?_⟩
  show (if delayed.process.component.outputs.count < next.process.component.outputs.count
    then _ else _) = _
  rw [hcomponent]
  exact if_pos hcount

/-- A call whose payload does not reach the queue leaves the queue and the frames
behind its buffers as they were. -/
theorem delayedSubmit_not_queued (version : UInt32) {delayed : DelayedProcess}
    {surface : BridgeSurface}
    {packet : AVPacket} {collects : List Bool}
    (hqueues : ¬∃ accepted : AcceptedReply (delayed.submitEnv env surface packet collects)
      delayed.process.component (some surface), accepted.Queues) :
    let next := ((delayedCalls version).step delayed
      (.submitInput env surface packet collects)).1
    next.process.component.outputs = delayed.process.component.outputs ∧
      next.held = delayed.held := by
  intro next
  have houtputs : next.process.component.outputs = delayed.process.component.outputs :=
    componentSubmit_outputs_eq hqueues
  refine ⟨houtputs, ?_⟩
  show (if delayed.process.component.outputs.count < next.process.component.outputs.count
    then _ else _) = _
  rw [houtputs]
  exact if_neg (lt_irrefl _)

/-- A query takes a buffer together with the frames behind it, or nothing. -/
theorem delayedQuery_cases (version : UInt32) {delayed : DelayedProcess}
    (h : DelayedInvariant delayed) (out : Bool) :
    let next := (delayedCalls version).step delayed (.queryOutput out)
    (next.1.process.component.outputs = delayed.process.component.outputs ∧
        next.1.held = delayed.held ∧ next.2.record.output = none) ∨
      ∃ buffer frames, OwnBuffer buffer frames ∧ next.2.record.output = some buffer ∧
        next.2.frames = some frames ∧ next.1.process.component.outputs.Valid ∧
          QueuedOwn next.1 := by
  intro next
  have hcomponent : next.1.process.component =
      (componentQueryOutput delayed.process.component out).1 := rfl
  have hrecord : next.2.record = (componentQueryOutput delayed.process.component out).2 := rfl
  have hheld : next.1.held =
      if next.2.record.output.isSome then delayed.held.tail else delayed.held := rfl
  have hframes : next.2.frames =
      if next.2.record.output.isSome then delayed.held.head? else none := rfl
  unfold QueuedOwn
  rcases componentQueryOutput_cases delayed.process.component out with
    ⟨result, heq, -⟩ | ⟨output, outputs, hpop, heq⟩
  · left
    rw [hheld, hcomponent, hrecord, heq]
    exact ⟨rfl, rfl, rfl⟩
  · right
    obtain ⟨hvalid, buffer, rfl, hcontents⟩ := h.valid.pop hpop
    have hown := h.own
    unfold QueuedOwn at hown
    rw [hcontents] at hown
    rw [hheld, hframes, hcomponent, hrecord, heq]
    cases hall : delayed.held with
    | nil =>
      rw [hall] at hown
      cases hown
    | cons frames held =>
      rw [hall] at hown
      cases hown with
      | cons hfirst hrest => exact ⟨buffer, frames, hfirst, rfl, rfl, hvalid, hrest⟩

/-- One call keeps the queued buffers under their own timestamps exactly when it
does not mislabel. -/
theorem queuedOwn_step {delayed : DelayedProcess} (h : DelayedInvariant delayed)
    (call : DelayedCall) :
    QueuedOwn ((delayedCalls version).step delayed call).1 ↔ ¬Mislabels delayed call := by
  cases call with
  | submitInput env surface packet collects =>
    by_cases hqueues : ∃ accepted : AcceptedReply (delayed.submitEnv env surface packet collects)
        delayed.process.component (some surface), accepted.Queues
    · obtain ⟨accepted, haccepted⟩ := hqueues
      obtain ⟨-, hcontents, hheld⟩ := delayedSubmit_queued version h.valid haccepted
      unfold QueuedOwn
      have hlabel : OwnBuffer accepted.buffer _ ↔ _ := ownBuffer_iff accepted
        (accepted.inbound_eq_nil h.synchronised) h.atBoundary haccepted
      rw [hcontents, hheld, queuedOwn_append_iff h.own]
      refine hlabel.trans ?_
      constructor
      · rintro hframe ⟨_, _, _, _, hcall, -, hno⟩
        cases hcall
        exact hno hframe
      · intro hno
        by_contra hframe
        exact hno ⟨env, surface, packet, collects, rfl, ⟨accepted, haccepted⟩, hframe⟩
    · obtain ⟨houtputs, hheld⟩ := delayedSubmit_not_queued version hqueues
      unfold QueuedOwn
      rw [houtputs, hheld]
      refine iff_of_true h.own ?_
      rintro ⟨_, _, _, _, hcall, hyes, -⟩
      cases hcall
      exact hqueues hyes
  | queryOutput out =>
    have hown : QueuedOwn ((delayedCalls version).step delayed (.queryOutput out)).1 := by
      rcases delayedQuery_cases version h out with ⟨houtputs, hheld, -⟩ | ⟨_, _, -, -, -, -, hown⟩
      · unfold QueuedOwn
        rw [houtputs, hheld]
        exact h.own
      · exact hown
    refine iff_of_true hown ?_
    rintro ⟨_, _, _, _, hcall, -⟩
    cases hcall

/-- Every call keeps the queue valid. -/
theorem delayed_valid_step {delayed : DelayedProcess} (h : DelayedInvariant delayed)
    (call : DelayedCall) :
    ((delayedCalls version).step delayed call).1.process.component.outputs.Valid := by
  cases call with
  | submitInput env surface packet collects =>
    by_cases hqueues : ∃ accepted : AcceptedReply (delayed.submitEnv env surface packet collects)
        delayed.process.component (some surface), accepted.Queues
    · obtain ⟨accepted, haccepted⟩ := hqueues
      exact (delayedSubmit_queued version h.valid haccepted).1
    · rw [(delayedSubmit_not_queued version hqueues).1]
      exact h.valid
  | queryOutput out =>
    rcases delayedQuery_cases version h out with ⟨houtputs, -⟩ | ⟨_, _, -, -, -, hvalid, -⟩
    · rw [houtputs]
      exact h.valid
    · exact hvalid

/-- Every call leaves the helper waiting for a message. -/
theorem delayed_atBoundary_step {delayed : DelayedProcess} (h : DelayedInvariant delayed)
    (call : DelayedCall) :
    AtBoundary ((delayedCalls version).step delayed call).1.process.component := by
  cases call with
  | submitInput env surface packet collects =>
    exact componentSubmit_atBoundary h.synchronised h.atBoundary
  | queryOutput out =>
    show AtBoundary (componentQueryOutput delayed.process.component out).1
    rcases componentQueryOutput_cases delayed.process.component out with
      ⟨_, heq, -⟩ | ⟨_, _, -, heq⟩
    · rw [heq]
      exact h.atBoundary
    · rw [heq]
      exact h.atBoundary

/-- One call leaves the stream in step and the buffers under their own timestamps
exactly when it strands nothing and does not mislabel. -/
theorem buffersOwn_step {delayed : DelayedProcess} (h : DelayedInvariant delayed)
    (call : DelayedCall) :
    BuffersOwn version delayed call ↔ ¬delayed.Strands call ∧ ¬Mislabels delayed call := by
  unfold BuffersOwn DelayedProcess.Strands
  simp only
  rw [queuedOwn_step h call, delayedCalls_process,
    synchronised_step_iff h.paired h.synchronised]

/-- A call that leaves the stream in step and the buffers right keeps the
invariant. -/
theorem delayedInvariant_step {delayed : DelayedProcess} (h : DelayedInvariant delayed)
    (call : DelayedCall) (hbuffers : BuffersOwn version delayed call) :
    DelayedInvariant ((delayedCalls version).step delayed call).1 where
  paired := by
    rw [delayedCalls_process]
    exact paired_step h.paired _
  synchronised := hbuffers.1
  atBoundary := delayed_atBoundary_step h call
  valid := delayed_valid_step h call
  own := hbuffers.2

/-- While every queued buffer is under its own timestamps, so is every buffer
returned. -/
theorem returnsOwn_step {delayed : DelayedProcess} (h : DelayedInvariant delayed)
    (call : DelayedCall) : ReturnsOwn version delayed call := by
  intro buffer hbuffer
  cases call with
  | submitInput env surface packet collects =>
    have hnone : ((delayedCalls version).step delayed
        (.submitInput env surface packet collects)).2.record.output = none :=
      componentSubmit_output_eq_none _ _ _
    rw [hnone] at hbuffer
    cases hbuffer
  | queryOutput out =>
    rcases delayedQuery_cases version h out with
      ⟨-, -, hnone⟩ | ⟨own, frames, hown, hreturned, hframes, -⟩
    · rw [hnone] at hbuffer
      cases hbuffer
    · obtain rfl := Option.some.inj (hreturned.symm.trans hbuffer)
      exact ⟨frames, hframes, hown⟩

/-! ## Whole sessions -/

/-- The session that `component_init` opens on a component that has just been
created. -/
def delayedStart (version : UInt32) (properties : BridgePropertyStore) (failureTime : UInt64)
    (env : InitEnv) (width height : Int32) : DelayedProcess where
  process := ((componentCalls version).step (BridgeProcess.fresh properties failureTime)
    (.init env .nv12 width height)).1

/-- A component that has just been created and called `component_init` has an empty
queue, and its helper waits for a message. -/
theorem componentInit_fresh (version : UInt32) (env : InitEnv) {process : BridgeProcess}
    (hhelper : process.component.helper = none) (width height : Int32) :
    (componentInit version env process .nv12 width height).1.component.outputs =
        process.component.outputs ∧
      AtBoundary (componentInit version env process .nv12 width height).1.component := by
  rcases componentInit_cases version env process .nv12 width height with
    ⟨_, _, heq, -⟩ | ⟨_, heq⟩ | ⟨opened, -, heq⟩
  · rw [heq]
    refine ⟨rfl, ?_⟩
    intro connection hsome
    rw [hhelper] at hsome
    cases hsome
  · rw [heq]
    refine ⟨rfl, ?_⟩
    intro connection hsome
    cases hsome
  · rw [heq]
    have houtputs : opened.component.outputs = process.component.outputs := by
      unfold OpenedSession.component
      rfl
    refine ⟨houtputs, ?_⟩
    intro connection hsome
    obtain rfl := Option.some.inj hsome
    obtain hold | ⟨-, hnew⟩ := opened.connection_eq
    · rw [hhelper] at hold
      cases hold
    have hturn : opened.answered.helper = .ofNext (handshake env.helperVersion
        env.helper.handshake opened.message.encode).next := by
      have haccepted : opened.connection.helper = .accepted env.helperVersion [] := by
        rw [hnew]
      show HelperSide.ofNext
        (opened.connection.helper.receive env.helper opened.message.encode).next = _
      rw [haccepted, HelperSide.receive_accepted]
    show opened.answered.helper = .ended ∨ ∃ session, opened.answered.helper = .serving session []
    rw [hturn]
    cases hnext : (handshake env.helperVersion env.helper.handshake
        opened.message.encode).next with
    | none => exact Or.inl rfl
    | some next =>
      obtain ⟨session, unread⟩ := next
      have hwhole : opened.message.encode.drop HelperInitMessage.size = [] := by
        apply List.drop_of_length_le
        rw [HelperInitMessage.encode_length]
      rw [handshake_next_rest hnext, hwhole]
      exact Or.inr ⟨session, rfl⟩

theorem delayedInvariant_start (version : UInt32) (properties : BridgePropertyStore)
    (failureTime : UInt64) (env : InitEnv) (width height : Int32) :
    DelayedInvariant (delayedStart version properties failureTime env width height) := by
  have hfresh : Paired (BridgeProcess.fresh properties failureTime).component ∧
      Synchronised (BridgeProcess.fresh properties failureTime).component :=
    paired_synchronised_of_closed rfl rfl
  obtain ⟨houtputs, hboundary⟩ := componentInit_fresh version env
    (show (BridgeProcess.fresh properties failureTime).component.helper = none from rfl)
    width height
  have hempty : (delayedStart version properties failureTime env width
      height).process.component.outputs = Ring.empty := houtputs
  refine ⟨paired_step hfresh.1 _, synchronised_init hfresh.1 hfresh.2 env .nv12 width height,
    hboundary, ?_, ?_⟩
  · rw [hempty]
    exact Ring.valid_empty
  · unfold QueuedOwn
    rw [hempty]
    exact .nil

/-- For every delay of the encoder and every run of a session: after every call
the stream is in step and every buffer in the queue is one packet under the
timestamps of its own surface, exactly when no call strands a payload or
mislabels one.  In such a run every buffer returned is one packet under the
timestamps of its own surface. -/
theorem buffers_own_iff (version : UInt32) (properties : BridgePropertyStore)
    (failureTime : UInt64) (env : InitEnv) (width height : Int32) (calls : List DelayedCall) :
    let along := fun P => (delayedCalls version).Along P []
      (delayedStart version properties failureTime env width height) calls
    (along (fun _ delayed call => BuffersOwn version delayed call) ↔
      along (fun _ delayed call => ¬delayed.Strands call ∧ ¬Mislabels delayed call)) ∧
    (along (fun _ delayed call => ¬delayed.Strands call ∧ ¬Mislabels delayed call) →
      along (fun _ delayed call => ReturnsOwn version delayed call)) := by
  intro along
  have hstart := delayedInvariant_start version properties failureTime env width height
  constructor
  · exact Machine.along_iff (fun _ delayed => DelayedInvariant delayed)
      (fun _ _ call h hbuffers => delayedInvariant_step h call hbuffers)
      (fun _ _ call h => buffersOwn_step h call) hstart
  · exact Machine.along_of_invariant (fun _ delayed => DelayedInvariant delayed)
      (fun _ _ call h hcond => delayedInvariant_step h call ((buffersOwn_step h call).mpr hcond))
      (fun _ _ call h _ => returnsOwn_step h call) hstart

/-! ## An encoder that is one frame behind -/

/-- A frame for which the encoder has nothing leaves the queue as it is. -/
theorem SmallSession.submit_nothing {session : HelperSession}
    (h : SmallSession component session) (pts duration : Int64) :
    ∃ record, record.frameSent = true ∧
      componentSubmit (smallEnv [] []) component (some (smallSurface pts duration)) =
        ({ component with helper := some { helper := .serving session.nextFrame [] } },
          record) := by
  obtain ⟨accepted, -, hreply, hrest, hhelper⟩ := h.exchange [] [] pts duration [] rfl rfl
  have houtcome := accepted.receivePacket_outcome
  rw [← accepted.componentSubmit_eq] at houtcome
  generalize componentSubmit (smallEnv [] []) component (some (smallSurface pts duration)) =
    next at houtcome ⊢
  have hempty : accepted.reply.payloadSize = 0 := by
    rw [hreply]
    rfl
  cases houtcome with
  | empty =>
    refine ⟨accepted.record, rfl, ?_⟩
    unfold AcceptedReply.atPayload
    rw [hhelper, hrest]
    rfl
  | noMemory hsize => exact absurd hempty hsize
  | short hsize => exact absurd hempty hsize
  | noBuffer hsize => exact absurd hempty hsize
  | full hsize => exact absurd hempty hsize
  | queued _ hsize => exact absurd hempty hsize

/-- The frame of the first surface, which the encoder keeps back. -/
def keptFrame : EncodedFrame := ⟨⟨[1], oneByte_length_lt⟩, 1, 0⟩

/-- The frame of the second surface. -/
def lateFrame : EncodedFrame := ⟨⟨[2], by decide⟩, 2, 0⟩

/-- Submit a surface of 128 by 128 for `frame`. -/
def submitFrame (frame : EncodedFrame) (collects : List Bool) : DelayedCall :=
  .submitInput (smallEnv [] []) (smallSurface frame.pts frame.duration) frame.packet collects

/-- Two surfaces, with the packet of the first given out after the second, and a
query. -/
def delayedFrames : List DelayedCall :=
  [submitFrame keptFrame [], submitFrame lateFrame [true], .queryOutput true]

/-- The session after a call of `component_submit`. -/
theorem delayedSubmit_eq (version : UInt32) {delayed : DelayedProcess} {surface : BridgeSurface}
    {packet : AVPacket} {collects : List Bool} {next : BridgeComponent} {record : CallRecord}
    (h : componentSubmit (delayed.submitEnv env surface packet collects)
      delayed.process.component (some surface) = (next, record))
    (hsent : record.frameSent = true) :
    ((delayedCalls version).step delayed (.submitInput env surface packet collects)).1 =
      { process := { delayed.process with component := next }
        pending := (delayed.encoded surface packet).drop collects.length
        held := if delayed.process.component.outputs.count < next.outputs.count then
            delayed.held ++ [(delayed.encoded surface packet).take collects.length]
          else delayed.held } := by
  simp only [delayedCalls, DelayedProcess.componentCall, componentCalls, h, hsent, if_true]

/-- The encoder keeps the first packet. -/
theorem keptFrame_step (version : UInt32) {process : BridgeProcess} {session : HelperSession}
    (h : SmallSession process.component session) :
    ((delayedCalls version).step { process } (submitFrame keptFrame [])).1 =
      { process := { process with component := { process.component with
          helper := some { helper := .serving session.nextFrame [] } } }
        pending := [keptFrame] } := by
  obtain ⟨record, hsent, hcall⟩ := h.submit_nothing 1 0
  let start : DelayedProcess := { process }
  have hsubmit : componentSubmit (start.submitEnv (smallEnv [] []) (smallSurface 1 0)
      keptFrame.packet []) process.component (some (smallSurface 1 0)) = (_, record) := hcall
  exact (delayedSubmit_eq version hsubmit hsent).trans (congrArg _ (if_neg (lt_irrefl _)))

/-- With the second frame it gives the packet of the first one. -/
theorem lateFrame_step (version : UInt32) (process : BridgeProcess) {session : HelperSession}
    (h : SmallSession process.component session) (hvalid : process.component.outputs.Valid)
    (hcount : process.component.outputs.count < bridgeMaxOutputs) :
    ∃ component, ((delayedCalls version).step { process, pending := [keptFrame] }
        (submitFrame lateFrame [true])).1 =
      { process := { process with component }, pending := [lateFrame], held := [[keptFrame]] } ∧
      component.outputs.contents = process.component.outputs.contents ++ [⟨[1], 2, 0⟩] ∧
        component.outputs.Valid := by
  obtain ⟨outputs, hpush, record, hsent, hcall⟩ := h.submit_packets hcount
    [⟨0, ⟨[1], oneByte_length_lt⟩, true⟩] 2 0 [1] rfl rfl nofun (by decide)
  obtain ⟨hvalid', hcontents⟩ := hvalid.push hpush
  have hgrows : process.component.outputs.count < outputs.count := by
    rw [← hvalid'.contents_length, hcontents, List.length_append, hvalid.contents_length]
    exact Nat.lt_succ_self _
  let start : DelayedProcess := { process, pending := [keptFrame] }
  have hsubmit : componentSubmit (start.submitEnv (smallEnv [] []) (smallSurface 2 0)
      lateFrame.packet [true]) process.component (some (smallSurface 2 0)) = (_, record) := hcall
  exact ⟨_, (delayedSubmit_eq version hsubmit hsent).trans (congrArg _ (if_pos hgrows)),
    hcontents, hvalid'⟩

/-- A query returns the oldest buffer with the frames behind it. -/
theorem delayedQuery_oldest (version : UInt32) (delayed : DelayedProcess) {buffer : BridgeBuffer}
    {buffers : List BridgeBuffer} {frames : List EncodedFrame} {held : List (List EncodedFrame)}
    (hvalid : delayed.process.component.outputs.Valid)
    (hcontents : delayed.process.component.outputs.contents = buffer :: buffers)
    (hheld : delayed.held = frames :: held) :
    ((delayedCalls version).step delayed (.queryOutput true)).2 =
      { record := { result := .ok, output := some buffer }, frames := some frames } := by
  have hquery : (componentQueryOutput delayed.process.component true).2 =
      { result := .ok, output := some buffer } := by
    rcases componentQueryOutput_cases delayed.process.component true with
      ⟨_, -, ⟨-, hout⟩ | ⟨hpop, -⟩⟩ | ⟨output, outputs, hpop, heq⟩
    · cases hout
    · rw [Ring.pop_eq_none_iff, ← hvalid.contents_eq_nil_iff, hcontents] at hpop
      cases hpop
    · obtain ⟨-, own, rfl, hown⟩ := hvalid.pop hpop
      rw [hcontents] at hown
      rw [heq, (List.cons.inj hown).1]
  simp only [delayedCalls, DelayedProcess.componentCall, componentCalls, hquery, hheld,
    Option.isSome_some, if_true, List.head?_cons]

/-- The query returns the packet of the first surface under the timestamps of the
second. -/
theorem delayed_packet_mislabelled :
    ¬(delayedCalls helperProtocolVersion).Along
      (fun _ delayed call => ReturnsOwn helperProtocolVersion delayed call) []
      (delayedStart helperProtocolVersion [] 0 {} 128 128) delayedFrames := by
  have hstart : delayedStart helperProtocolVersion [] 0 {} 128 128 = { process := smallProcess } :=
    rfl
  have hempty : smallProcess.component.outputs = Ring.empty := by
    rw [smallProcess_eq]
  have hkept : SmallSession { smallProcess.component with
      helper := some { helper := .serving smallStart.nextFrame [] } } smallStart.nextFrame :=
    ⟨smallProcess_session.initialized, smallProcess_session.width_eq,
      smallProcess_session.height_eq, rfl, rfl, rfl, rfl⟩
  obtain ⟨component, hlate, hcontents, hvalid⟩ := lateFrame_step helperProtocolVersion
    ⟨_, smallProcess.helperConnectFailureTime⟩ hkept (by
      rw [hempty]
      exact Ring.valid_empty) (by
      rw [hempty]
      exact Nat.succ_pos _)
  unfold delayedFrames
  rw [hstart, Machine.along_cons, Machine.along_cons, Machine.along_cons,
    keptFrame_step _ smallProcess_session, hlate]
  rintro ⟨-, -, hreturns, -⟩
  rw [hempty] at hcontents
  have hanswer := delayedQuery_oldest helperProtocolVersion
    ⟨⟨component, smallProcess.helperConnectFailureTime⟩, [lateFrame], [[keptFrame]]⟩ hvalid
    hcontents rfl
  unfold ReturnsOwn at hreturns
  rw [hanswer] at hreturns
  obtain ⟨frames, hframes, frame, hone, hbuffer⟩ := hreturns _ rfl
  obtain rfl := Option.some.inj hframes
  obtain rfl := (List.cons.inj hone).1
  have hpts : (2 : Int64) = 1 := congrArg BridgeBuffer.pts hbuffer
  exact absurd hpts (by decide)

end UuAmfBridge
