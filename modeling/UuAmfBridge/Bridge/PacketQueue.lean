import UuAmfBridge.Bridge.ClientSync

/-!
# The queue of encoded packets

The caller of `component_submit` may submit a surface again when the call
returns `AMF_INPUT_FULL`, so that result must mean that the frame has not been
encoded.  The build with its own encoder checks the queue before it does
anything.  The shipped build finds the queue full when the packet is in its
hands, after the frame has been encoded, and drops the packet.

`packets_kept_iff` says that this is the only way to lose a packet: without a
failure of an allocation or of a socket call, a run keeps every packet, in
order, exactly when no call is answered with a packet while eight packets are
queued.

* `AcceptedReply.packet_eq`: what is read is the payload the helper has written.
* `ClosedRecord.payload_eq_nil`: a call that closes the codec was answered
  without a payload.
* `keepsPackets_step`: one call keeps the packets exactly when it does not
  overflow the queue.
-/

namespace UuAmfBridge

variable {version : UInt32} {env : SubmitEnv} {component : BridgeComponent}
  {data : Option BridgeSurface}

/-! ## The property and the condition -/

/-- No allocation and no socket call on the way of a reply fails. -/
structure SubmitEnv.Undisturbed (env : SubmitEnv) : Prop where
  headerSend : ∀ call ∈ env.headerSend, call.Undisturbed false
  frameSend : ∀ call ∈ env.frameSend, call.Undisturbed false
  replySend : ∀ call ∈ env.helper.message.replySend, call.Undisturbed true
  payloadSend : ∀ call ∈ env.helper.message.payloadSend, call.Undisturbed true
  replyRecv : ∀ call ∈ env.replyRecv, call.Undisturbed socketRecv
  packetMalloc : env.packetMalloc = true
  packetRecv : ∀ call ∈ env.packetRecv, call.Undisturbed socketRecv
  bufferCreate : env.bufferCreate = true

/-- The calls of a session in which nothing fails: submit a frame, and take a
packet. -/
def ComponentCall.Undisturbed : ComponentCall → Prop
  | .submitInput env _ => env.Undisturbed
  | .queryOutput _ => True
  | _ => False

/-- A call of a session in which nothing fails. -/
abbrev EncodeCall := { call : ComponentCall // call.Undisturbed }

/-- The component answers the calls of a session. -/
def encodeCalls (version : UInt32) : Machine BridgeProcess EncodeCall CallRecord :=
  (componentCalls version).comap Subtype.val

/-- The payload of the reply the helper has written during a call. -/
def CallRecord.payload (record : CallRecord) : List UInt8 :=
  record.produced.drop HelperReply.size

/-- The payloads of the helper that are not empty, in order. -/
def packets (log : List CallRecord) : List (List UInt8) :=
  (log.map CallRecord.payload).filter fun payload => payload ≠ []

/-- The buffers that `component_query_output` has returned, in order. -/
def returned (log : List CallRecord) : List BridgeBuffer := log.filterMap CallRecord.output

/-- The buffers returned and the buffers queued are the packets of the session. -/
def HoldsPackets (log : List CallRecord) (component : BridgeComponent) : Prop :=
  (returned log ++ component.outputs.contents).map BridgeBuffer.data = packets log

/-- A call that returns `AMF_INPUT_FULL` has sent nothing and got no answer, and
after the call no packet is lost, doubled or out of order. -/
def KeepsPackets (version : UInt32) (log : List CallRecord) (process : BridgeProcess)
    (call : EncodeCall) : Prop :=
  let next := (encodeCalls version).step process call
  (next.2.result = .inputFull → next.2.sent = [] ∧ next.2.produced = []) ∧
    HoldsPackets (log ++ [next.2]) next.1.component

/-- A frame is answered with a packet while every slot of the queue is taken. -/
def OverflowsQueue (process : BridgeProcess) (call : EncodeCall) : Prop :=
  ∃ env data, call.val = .submitInput env data ∧
    process.component.outputs.count = bridgeMaxOutputs ∧
      ∃ accepted : AcceptedReply env process.component data, accepted.reply.payloadSize ≠ 0

theorem packets_append (log : List CallRecord) (record : CallRecord) :
    packets (log ++ [record]) =
      packets log ++ if record.payload = [] then [] else [record.payload] := by
  unfold packets
  rw [List.map_append, List.filter_append]
  by_cases hempty : record.payload = [] <;> simp [hempty]

theorem returned_append (log : List CallRecord) (record : CallRecord) :
    returned (log ++ [record]) = returned log ++ record.output.toList := by
  unfold returned
  cases houtput : record.output <;> simp [houtput]

/-! ## What an undisturbed exchange brings -/

/-- An undisturbed helper that has answered goes on. -/
theorem AcceptedReply.helper_goes_on (accepted : AcceptedReply env component data)
    (hundisturbed : env.Undisturbed) (hstep : accepted.connection.inbound = []) :
    accepted.exchange.helper ≠ .ended := by
  have hstatus := accepted.exchange_reply.2.1
  have hexchange := accepted.exchange_eq
  rw [hstep, List.nil_append] at hexchange
  rw [hexchange] at hstatus ⊢
  have henough : HelperReply.size ≤ (sentBytes accepted.turn.events).length :=
    le_length_of_recvLoop_complete hstatus
  have hnext : accepted.turn.next ≠ none := by
    unfold turn at henough ⊢
    cases hhelper : accepted.connection.helper with
    | accepted version unread =>
      rw [hhelper] at henough
      have hle := handshake_sentBytes_length_le version env.helper.handshake
        (unread ++ ((frameMessage component accepted.surface).encode ++ accepted.frame))
      have hlt : HelperInitReply.size < HelperReply.size := by decide
      exact absurd henough (Nat.not_le.mpr (lt_of_le_of_lt hle hlt))
    | serving session unread =>
      rw [hhelper] at henough
      refine serveMessage_next_of_undisturbed hundisturbed.replySend hundisturbed.payloadSend ?_
      intro hnil
      change HelperReply.size ≤ (sentBytes (serveMessage _ _ _).events).length at henough
      rw [hnil] at henough
      exact absurd henough (Nat.not_succ_le_zero _)
    | ended => exact absurd hhelper (accepted.helper_ne_ended hstep)
  intro hended
  cases hturn : accepted.turn.next with
  | none => exact hnext hturn
  | some next =>
    rw [hturn] at hended
    cases hended

/-- An undisturbed exchange reads the whole payload, which is what the helper has
written behind the header. -/
theorem AcceptedReply.packet_eq (accepted : AcceptedReply env component data)
    (hundisturbed : env.Undisturbed) (hstep : accepted.connection.inbound = []) :
    accepted.packet.status = .complete ∧
      accepted.packet.data = accepted.exchange.produced.drop HelperReply.size ∧
        accepted.packet.data.length = accepted.reply.payloadSize.toNat := by
  obtain ⟨hproduced, -, hwhole⟩ := accepted.produced_eq hstep
  have hlength := hwhole (accepted.helper_goes_on hundisturbed hstep)
  have hsplit : accepted.packet = ⟨.complete, accepted.exchange.header.rest, []⟩ := by
    unfold packet socketRecvAll
    rw [recvLoop_eq_of_undisturbed hundisturbed.packetRecv hlength.ge, ← hlength,
      List.take_length, List.drop_length]
  rw [hsplit]
  refine ⟨rfl, ?_, hlength⟩
  rw [hproduced, List.drop_left' accepted.header_length]

/-- A call that closes the codec was answered without a payload. -/
theorem ClosedRecord.payload_eq_nil {record : CallRecord} (h : ClosedRecord env component record)
    (hundisturbed : env.Undisturbed) (hsync : Synchronised component) : record.payload = [] := by
  cases h with
  | noSocket => rfl
  | refused connection header frame hhelper hreply =>
    have hstep : connection.inbound = [] := by
      unfold Synchronised at hsync
      rw [hhelper] at hsync
      exact hsync
    have hexchange : exchangeFrame env connection header frame = _ :=
      exchangeFrame_eq
        (congrArg SendOutcome.complete (sendLoop_eq_of_undisturbed hundisturbed.headerSend))
        (congrArg SendOutcome.complete (sendLoop_eq_of_undisturbed hundisturbed.frameSend))
    rw [hstep, List.nil_append] at hexchange
    show (exchangeFrame env connection header frame).produced.drop HelperReply.size = []
    rw [hexchange] at hreply ⊢
    show (sentBytes _).drop _ = []
    rcases HelperSide.receive_sentBytes env.helper (header ++ frame) connection.helper with
      hshort | ⟨reply, body, hformed, hproduced, hbody, -⟩
    · exact List.drop_of_length_le hshort.le
    · -- The header arrives, so it is the status that was refused.
      have hsize := HelperReply.encode_length reply
      have hheader : socketRecvAll env.replyRecv HelperReply.size (reply.encode ++ body) =
          ⟨.complete, reply.encode, body⟩ := by
        unfold socketRecvAll
        rw [recvLoop_eq_of_undisturbed hundisturbed.replyRecv
          (by rw [List.length_append]; omega), List.take_left' hsize, List.drop_left' hsize]
      rw [hproduced] at hreply ⊢
      unfold FrameExchange.reply? at hreply
      simp only [hheader, HelperReply.decode_encode] at hreply
      have hrefused : replyAccepted reply = false := by
        by_contra haccept
        simp [haccept] at hreply
      have hstatus : reply.status ≠ 0 := by
        intro hzero
        unfold replyAccepted at hrefused
        simp [hformed.magic_eq, hformed.type_eq, hzero] at hrefused
      rw [hformed.status_eq hstatus] at hbody
      rw [List.drop_left' hsize]
      exact List.length_eq_zero_iff.mp (Nat.le_zero.mp hbody)

/-! ## One call -/

/-- What every call of a session keeps. -/
structure QueueInvariant (log : List CallRecord) (component : BridgeComponent) : Prop where
  paired : Paired component
  synchronised : Synchronised component
  valid : component.outputs.Valid
  holds : HoldsPackets log component

/-- A call that neither hands out nor takes in a packet holds the packets. -/
theorem HoldsPackets.unchanged {log : List CallRecord} {record : CallRecord}
    {component' : BridgeComponent} (h : HoldsPackets log component)
    (houtput : record.output = none) (hpayload : record.payload = [])
    (houtputs : component'.outputs = component.outputs) :
    HoldsPackets (log ++ [record]) component' := by
  unfold HoldsPackets at h ⊢
  rw [returned_append, packets_append, houtput, hpayload, houtputs, if_pos rfl, List.append_nil]
  simpa using h

/-- A call that queues the packet of its own answer holds the packets. -/
theorem HoldsPackets.queued {log : List CallRecord} {record : CallRecord}
    {component' : BridgeComponent} {buffer : BridgeBuffer} (h : HoldsPackets log component)
    (houtput : record.output = none) (hpayload : record.payload = buffer.data)
    (hne : buffer.data ≠ [])
    (hcontents : component'.outputs.contents = component.outputs.contents ++ [buffer]) :
    HoldsPackets (log ++ [record]) component' := by
  unfold HoldsPackets at h ⊢
  rw [returned_append, packets_append, houtput, hpayload, if_neg hne, ← h, hcontents]
  simp

/-- A call that returns the oldest packet holds the packets. -/
theorem HoldsPackets.returned {log : List CallRecord} {record : CallRecord}
    {component' : BridgeComponent} {buffer : BridgeBuffer} (h : HoldsPackets log component)
    (houtput : record.output = some buffer) (hpayload : record.payload = [])
    (hcontents : component.outputs.contents = buffer :: component'.outputs.contents) :
    HoldsPackets (log ++ [record]) component' := by
  unfold HoldsPackets at h ⊢
  rw [returned_append, packets_append, houtput, hpayload, if_pos rfl, ← h, hcontents]
  simp

/-- In a session in which nothing fails no payload is stranded. -/
theorem AcceptedReply.not_strands_of_undisturbed (accepted : AcceptedReply env component data)
    (hundisturbed : env.Undisturbed) (hstep : accepted.connection.inbound = []) :
    ¬accepted.Strands :=
  accepted.not_strands hundisturbed.packetMalloc (accepted.packet_eq hundisturbed hstep).1

/-- Every call of a session returns in step. -/
theorem encodeCall_synchronised {process : BridgeProcess} (hpaired : Paired process.component)
    (hsync : Synchronised process.component) (call : EncodeCall) :
    Synchronised ((encodeCalls version).step process call).1.component := by
  refine synchronised_step hpaired hsync call.val ?_
  rw [submit_synchronised_step hsync]
  rintro ⟨env, data, hcall, accepted, hstrands⟩
  have hundisturbed : env.Undisturbed := by
    have hprop := call.property
    rw [hcall] at hprop
    exact hprop
  exact accepted.not_strands_of_undisturbed hundisturbed (accepted.inbound_eq_nil hsync) hstrands

/-- A frame that was sent is not empty. -/
theorem AcceptedReply.sent_ne_nil (accepted : AcceptedReply env component data) :
    accepted.exchange.sent ≠ [] := by
  rw [accepted.exchange_eq]
  intro hnil
  have hlength := congrArg List.length hnil
  rw [List.length_append, HelperFrameMessage.encode_length] at hlength
  simp [HelperFrameMessage.size] at hlength

/-- A call that is answered with a packet while the queue is full loses it, and
says that nothing was consumed. -/
theorem overflow_loses {log : List CallRecord} {process : BridgeProcess} {call : EncodeCall}
    (hsync : Synchronised process.component) (hoverflow : OverflowsQueue process call) :
    ¬KeepsPackets version log process call := by
  obtain ⟨call, hundisturbed⟩ := call
  obtain ⟨env, data, rfl, hcount, accepted, hsize⟩ := hoverflow
  change env.Undisturbed at hundisturbed
  obtain ⟨hstatus, -, -⟩ := accepted.packet_eq hundisturbed (accepted.inbound_eq_nil hsync)
  rintro ⟨hrefused, -⟩
  change (componentSubmit env process.component data).2.result = .inputFull →
    (componentSubmit env process.component data).2.sent = [] ∧ _ at hrefused
  have houtcome := accepted.receivePacket_outcome
  rw [← accepted.componentSubmit_eq] at houtcome
  generalize componentSubmit env process.component data = next at hrefused houtcome
  cases houtcome with
  | empty hempty => exact hsize hempty
  | noMemory _ hmalloc =>
    rw [hundisturbed.packetMalloc] at hmalloc
    cases hmalloc
  | short _ _ hshort => exact hshort hstatus
  | noBuffer _ _ _ hbuffer =>
    rw [hundisturbed.bufferCreate] at hbuffer
    cases hbuffer
  | full => exact accepted.sent_ne_nil (hrefused rfl).1
  | queued outputs _ _ _ _ hpush =>
    rw [Ring.push_eq_none_iff.mpr hcount] at hpush
    cases hpush

/-- A submitted frame that does not overflow the queue loses no packet. -/
theorem submit_keepsPackets {log : List CallRecord} (h : QueueInvariant log component)
    (hundisturbed : env.Undisturbed)
    (hno : ∀ accepted : AcceptedReply env component data, accepted.reply.payloadSize ≠ 0 →
      component.outputs.count ≠ bridgeMaxOutputs) :
    let next := componentSubmit env component data
    ((next.2.result = .inputFull → next.2.sent = [] ∧ next.2.produced = []) ∧
      HoldsPackets (log ++ [next.2]) next.1) ∧ next.1.outputs.Valid := by
  rcases componentSubmit_outcome env component data with
    ⟨result, heq, -, hnotfull⟩ | ⟨record, heq, hclosed⟩ | ⟨accepted, houtcome⟩
  · rw [heq]
    exact ⟨⟨fun hfull => absurd hfull hnotfull, h.holds.unchanged rfl rfl rfl⟩, h.valid⟩
  · rw [heq]
    obtain ⟨hfail, -, houtput⟩ := hclosed.result_eq
    refine ⟨⟨fun hfull => ?_, ?_⟩, h.valid⟩
    · cases hfail.symm.trans hfull
    · exact h.holds.unchanged houtput (hclosed.payload_eq_nil hundisturbed h.synchronised) rfl
  · obtain ⟨hstatus, hdata, hlength⟩ :=
      accepted.packet_eq hundisturbed (accepted.inbound_eq_nil h.synchronised)
    generalize componentSubmit env component data = next at houtcome ⊢
    cases houtcome with
    | empty hsize =>
      refine ⟨⟨nofun, h.holds.unchanged rfl ?_ rfl⟩, h.valid⟩
      show accepted.exchange.produced.drop HelperReply.size = []
      rw [← hdata, ← List.length_eq_zero_iff, hlength, hsize]
      rfl
    | noMemory _ hmalloc =>
      rw [hundisturbed.packetMalloc] at hmalloc
      cases hmalloc
    | short _ _ hshort => exact absurd hstatus hshort
    | noBuffer _ _ _ hbuffer =>
      rw [hundisturbed.bufferCreate] at hbuffer
      cases hbuffer
    | full hsize _ _ _ hpush =>
      exact absurd (Ring.push_eq_none_iff.mp hpush) (hno accepted hsize)
    | queued outputs hsize _ _ _ hpush =>
      obtain ⟨hvalid, hcontents⟩ := h.valid.push hpush
      have hne : accepted.buffer.data ≠ [] := by
        intro hnil
        have hzero : accepted.packet.data.length = 0 := List.length_eq_zero_iff.mpr hnil
        rw [hlength] at hzero
        exact hsize (UInt32.toNat_inj.mp hzero)
      have hpayload : accepted.packetRecord.payload = accepted.buffer.data := hdata.symm
      exact ⟨⟨nofun, h.holds.queued rfl hpayload hne hcontents⟩, hvalid⟩

/-- A query that finds a packet returns the oldest. -/
theorem queryOutput_keepsPackets {log : List CallRecord} (h : QueueInvariant log component)
    (out : Bool) :
    let next := componentQueryOutput component out
    ((next.2.result = .inputFull → next.2.sent = [] ∧ next.2.produced = []) ∧
      HoldsPackets (log ++ [next.2]) next.1) ∧ next.1.outputs.Valid := by
  rcases componentQueryOutput_cases component out with
    ⟨result, heq, -⟩ | ⟨output, outputs, hpop, heq⟩
  · rw [heq]
    exact ⟨⟨fun _ => ⟨rfl, rfl⟩, h.holds.unchanged rfl rfl rfl⟩, h.valid⟩
  · rw [heq]
    obtain ⟨hvalid, buffer, rfl, hcontents⟩ := h.valid.pop hpop
    exact ⟨⟨fun _ => ⟨rfl, rfl⟩, h.holds.returned rfl rfl hcontents⟩, hvalid⟩

/-- A call that does not overflow the queue keeps every packet. -/
theorem keepsPackets_of_not_overflow {log : List CallRecord} {process : BridgeProcess}
    {call : EncodeCall} (h : QueueInvariant log process.component)
    (hno : ¬OverflowsQueue process call) :
    KeepsPackets version log process call ∧
      ((encodeCalls version).step process call).1.component.outputs.Valid := by
  obtain ⟨call, hundisturbed⟩ := call
  cases call with
  | submitInput env data =>
    refine submit_keepsPackets h hundisturbed fun accepted hsize hfull => ?_
    exact hno ⟨env, data, rfl, hfull, accepted, hsize⟩
  | queryOutput out => exact queryOutput_keepsPackets h out
  | init => exact hundisturbed.elim
  | reinit => exact hundisturbed.elim
  | drain => exact hundisturbed.elim
  | flush => exact hundisturbed.elim
  | terminate => exact hundisturbed.elim

/-- One call keeps the packets exactly when it does not overflow the queue. -/
theorem keepsPackets_step {log : List CallRecord} {process : BridgeProcess} {call : EncodeCall}
    (h : QueueInvariant log process.component) :
    KeepsPackets version log process call ↔ ¬OverflowsQueue process call := by
  constructor
  · intro hkeeps hoverflow
    exact overflow_loses h.synchronised hoverflow hkeeps
  · intro hno
    exact (keepsPackets_of_not_overflow h hno).1

/-- A call that keeps the packets keeps the invariant. -/
theorem queueInvariant_step {log : List CallRecord} {process : BridgeProcess} {call : EncodeCall}
    (h : QueueInvariant log process.component) (hkeeps : KeepsPackets version log process call) :
    QueueInvariant (log ++ [((encodeCalls version).step process call).2])
      ((encodeCalls version).step process call).1.component where
  paired := paired_step h.paired call.val
  synchronised := encodeCall_synchronised h.paired h.synchronised call
  valid := (keepsPackets_of_not_overflow h ((keepsPackets_step h).mp hkeeps)).2
  holds := hkeeps.2

/-! ## Whole sessions -/

/-- Over the calls of a session in which nothing fails, `AMF_INPUT_FULL` means
that the frame was not encoded, and the buffers returned and queued are the
packets of the helper in order, exactly when no frame is answered with a packet
while eight packets are queued. -/
theorem packets_kept_iff (version : UInt32) (properties : BridgePropertyStore)
    (failureTime : UInt64) (env : InitEnv) (width height : Int32) (calls : List EncodeCall) :
    let start := ((componentCalls version).step (BridgeProcess.fresh properties failureTime)
      (.init env .nv12 width height)).1
    (encodeCalls version).Along (KeepsPackets version) [] start calls ↔
      (encodeCalls version).Along (fun _ process call => ¬OverflowsQueue process call) [] start
        calls := by
  intro start
  have hfresh : Paired (BridgeProcess.fresh properties failureTime).component ∧
      Synchronised (BridgeProcess.fresh properties failureTime).component :=
    paired_synchronised_of_closed rfl rfl
  have houtputs : start.component.outputs = Ring.empty := by
    show (componentInit version env (BridgeProcess.fresh properties failureTime) .nv12 width
      height).1.component.outputs = Ring.empty
    rcases componentInit_cases version env (BridgeProcess.fresh properties failureTime) .nv12 width
      height with ⟨_, _, heq, -⟩ | ⟨_, heq⟩ | ⟨opened, -, heq⟩
    · rw [heq]
      rfl
    · rw [heq]
      rfl
    · rw [heq]
      rfl
  have hstart : QueueInvariant [] start.component := by
    refine ⟨paired_step hfresh.1 _, synchronised_init hfresh.1 hfresh.2 env .nv12 width height,
      ?_, ?_⟩
    · rw [houtputs]
      exact Ring.valid_empty
    · unfold HoldsPackets
      rw [houtputs]
      rfl
  exact Machine.along_iff (fun log process => QueueInvariant log process.component)
    (fun _ _ _ h hkeeps => queueInvariant_step h hkeeps)
    (fun _ _ _ h => keepsPackets_step h) hstart

/-! ## Nine frames and no query -/

/-- A frame that is answered with a packet of one byte. -/
def packetFrame : EncodeCall where
  val := .submitInput (smallEnv [⟨0, ⟨[1], oneByte_length_lt⟩, true⟩] []) (some (smallSurface 0 0))
  property := ⟨nofun, nofun, nofun, nofun, nofun, rfl, nofun, rfl⟩

/-- A frame that is answered with packets puts one buffer into the queue. -/
theorem SmallSession.submit_packets {session : HelperSession} (h : SmallSession component session)
    (hcount : component.outputs.count < bridgeMaxOutputs) (receive : List ReceivePacket)
    (pts duration : Int64) (output : List UInt8)
    (hreceive : (receivePackets session.encoder.codec receive none).result = 0)
    (houtput : (receivePackets session.encoder.codec receive none).output = output)
    (hne : output ≠ []) (hlength : output.length < 2 ^ 32) :
    ∃ outputs, component.outputs.push ⟨output, pts, duration⟩ = some outputs ∧
      ∃ record, record.frameSent = true ∧
        componentSubmit (smallEnv receive []) component (some (smallSurface pts duration)) =
          ({ component with
            helper := some { helper := .serving session.nextFrame [] }, outputs }, record) := by
  obtain ⟨accepted, hsurface, hreply, hrest, hhelper⟩ :=
    h.exchange receive [] pts duration output hreceive houtput
  have hsize : accepted.reply.payloadSize.toNat = output.length := by
    rw [hreply]
    exact UInt32.toNat_ofNat_of_lt' hlength
  have hpacket : accepted.packet = ⟨.complete, output, []⟩ := by
    have hwhole : accepted.exchange.header.rest = output := by
      rw [hrest, UInt32.toNat_ofNat_of_lt' hlength, List.take_length]
    have hundisturbed : ∀ call ∈ (smallEnv receive []).packetRecv,
        call.Undisturbed socketRecv := nofun
    unfold AcceptedReply.packet socketRecvAll
    rw [recvLoop_eq_of_undisturbed hundisturbed (by rw [hwhole, hsize]), hwhole, hsize,
      List.take_length, List.drop_length]
  have hbuffer : accepted.buffer = ⟨output, pts, duration⟩ := by
    unfold AcceptedReply.buffer
    rw [hpacket, hsurface]
    rfl
  have houtcome := accepted.receivePacket_outcome
  rw [← accepted.componentSubmit_eq] at houtcome
  generalize componentSubmit (smallEnv receive []) component (some (smallSurface pts duration)) =
    next at houtcome ⊢
  cases houtcome with
  | empty hempty =>
    rw [hempty] at hsize
    exact absurd (List.length_eq_zero_iff.mp hsize.symm) hne
  | noMemory _ hmalloc => cases hmalloc
  | short _ _ hstatus =>
    rw [hpacket] at hstatus
    exact absurd rfl hstatus
  | noBuffer _ _ _ hcreate => cases hcreate
  | full _ _ _ _ hpush =>
    have hfull := Ring.push_eq_none_iff.mp hpush
    omega
  | queued outputs _ _ _ _ hpush =>
    rw [hbuffer] at hpush
    refine ⟨outputs, hpush, accepted.packetRecord, rfl, ?_⟩
    unfold AcceptedReply.afterPayload
    rw [hhelper, hpacket]

/-- A frame that is answered with a packet takes a slot of the queue. -/
theorem packetFrame_step (version : UInt32) {process : BridgeProcess} {session : HelperSession}
    (h : SmallSession process.component session) (hvalid : process.component.outputs.Valid)
    (hcount : process.component.outputs.count < bridgeMaxOutputs) :
    ∃ outputs : Ring BridgeBuffer bridgeMaxOutputs,
      ((encodeCalls version).step process packetFrame).1 =
          { process with component := { process.component with
            helper := some { helper := .serving session.nextFrame [] }, outputs } } ∧
        outputs.count = process.component.outputs.count + 1 := by
  obtain ⟨outputs, hpush, record, -, heq⟩ := h.submit_packets hcount
    [⟨0, ⟨[1], oneByte_length_lt⟩, true⟩] 0 0 [1] rfl rfl nofun (by decide)
  obtain ⟨hvalid', hcontents⟩ := hvalid.push hpush
  refine ⟨outputs, ?_, ?_⟩
  · show { process with component := (componentSubmit _ process.component _).1 } = _
    rw [heq]
  · rw [← hvalid'.contents_length, hcontents, List.length_append, hvalid.contents_length]
    rfl

/-- A run of frames that are answered with packets loses one as soon as the queue
is full. -/
theorem packetFrames_lose {missing : Nat} {log : List CallRecord} {process : BridgeProcess}
    {session : HelperSession} (h : SmallSession process.component session)
    (hinv : QueueInvariant log process.component)
    (hcount : process.component.outputs.count + missing = bridgeMaxOutputs) :
    ¬(encodeCalls version).Along (KeepsPackets version) log process
      (List.replicate (missing + 1) packetFrame) := by
  induction missing generalizing log process session with
  | zero =>
    rintro ⟨hkeeps, -⟩
    obtain ⟨accepted, -, hreply, -⟩ :=
      h.exchange [⟨0, ⟨[1], oneByte_length_lt⟩, true⟩] [] 0 0 [1] rfl rfl
    refine overflow_loses hinv.synchronised ⟨_, _, rfl, hcount, accepted, ?_⟩ hkeeps
    rw [hreply]
    exact nofun
  | succ missing ih =>
    rintro ⟨hkeeps, hrest⟩
    obtain ⟨outputs, hnext, hslot⟩ := packetFrame_step version h hinv.valid (by omega)
    have hinv' := queueInvariant_step hinv hkeeps
    rw [hnext] at hinv' hrest
    have hsession : SmallSession { process.component with
        helper := some { helper := .serving session.nextFrame [] }, outputs } session.nextFrame :=
      ⟨h.initialized, h.width_eq, h.height_eq, rfl, h.codec_isSome, h.encoder_width_eq,
        h.encoder_height_eq⟩
    refine ih hsession hinv' ?_ hrest
    show outputs.count + missing = bridgeMaxOutputs
    omega

/-- Nine frames in a row, each answered with a packet: the ninth call returns
`AMF_INPUT_FULL` for a frame that was encoded, and its packet is gone. -/
theorem nine_frames_lose_a_packet :
    ¬(encodeCalls helperProtocolVersion).Along (KeepsPackets helperProtocolVersion) []
      smallProcess (List.replicate 9 packetFrame) := by
  have hinv : QueueInvariant [] smallProcess.component := by
    rw [smallProcess_eq]
    exact ⟨rfl, rfl, Ring.valid_empty, rfl⟩
  have hcount : smallProcess.component.outputs.count + 8 = bridgeMaxOutputs := by
    rw [smallProcess_eq]
    rfl
  exact packetFrames_lose smallProcess_session hinv hcount

end UuAmfBridge
