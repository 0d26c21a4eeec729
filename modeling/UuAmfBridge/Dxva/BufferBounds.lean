import UuAmfBridge.Dxva.DecoderBuffers

/-!
# The bounds of the decoder buffers

The application chooses the offset and the size of what it submits, so everything that
reads a buffer later relies on the check of `context_submit`.  An allocated buffer has a
block of its capacity, and its submitted part is inside of it (`DecoderBuffer.Allocated`);
every call on the decoder keeps this, and the guards decide as in exact arithmetic:

* `refuses_iff`: the check of a descriptor.  It subtracts the offset from the capacity
  only behind the comparison of the two.
* `DecoderBuffer.Allocated.picParams_guard`: the check of the picture parameters.  It
  subtracts their size from the capacity, which is no smaller because the submitted size
  has been compared before.
* `packetParts_sized`: the packet that `EndFrame` sends has the size its header says.

`decoder_accesses_in_bounds` puts these together for every run.
-/

namespace UuAmfBridge

/-! ## The invariant -/

/-- A buffer with a block: the block has the capacity of the table, and the submitted
part is inside. -/
structure DecoderBuffer.Allocated (buffer : DecoderBuffer) (type : Fin dxvaBufferCount)
    (data : List UInt8) : Prop where
  length_eq : data.length = buffer.capacity.toNat
  capacity_eq : buffer.capacity = capacities type
  range_le : buffer.offset.toNat + buffer.size.toNat ≤ buffer.capacity.toNat

/-- Every buffer with a block is in bounds. -/
def BridgeDecoder.InBounds (decoder : BridgeDecoder) : Prop :=
  ∀ type data, (decoder.buffers type).data = some data → (decoder.buffers type).Allocated type data

/-- The largest buffer has 16 MiB. -/
theorem capacities_le (type : Fin dxvaBufferCount) : (capacities type).toNat ≤ 16777216 := by
  unfold capacities
  split_ifs
  · decide
  · decide
  · decide

/-- Only one buffer has changed. -/
theorem BridgeDecoder.InBounds.update {decoder : BridgeDecoder} (h : decoder.InBounds)
    (type : Fin dxvaBufferCount) {buffer : DecoderBuffer}
    (hbuffer : ∀ data, buffer.data = some data → buffer.Allocated type data) :
    BridgeDecoder.InBounds
      { decoder with buffers := Function.update decoder.buffers type buffer } := by
  intro other data
  by_cases hsame : other = type
  · subst hsame
    simp only [Function.update_self]
    exact hbuffer data
  · simp only [Function.update_of_ne hsame]
    exact h other data

/-! ## The check of a descriptor -/

/-- A descriptor is refused exactly when its end is behind the capacity, without
overflow. -/
theorem refuses_iff (buffer : DecoderBuffer) (desc : BufferDesc) :
    buffer.Refuses desc ↔ buffer.data = none ∨
      buffer.capacity.toNat < desc.dataOffset.toNat + desc.dataSize.toNat := by
  unfold DecoderBuffer.Refuses
  refine or_congr_right ?_
  rw [gt_iff_lt, gt_iff_lt, UInt32.lt_iff_toNat_lt, UInt32.lt_iff_toNat_lt]
  by_cases hoffset : buffer.capacity.toNat < desc.dataOffset.toNat
  · exact iff_of_true (Or.inl hoffset) (by omega)
  · have hle : desc.dataOffset ≤ buffer.capacity := UInt32.le_iff_toNat_le.mpr (by omega)
    rw [UInt32.toNat_sub_of_le _ _ hle, or_iff_right hoffset]
    omega

/-- The last descriptor that names a buffer is one of them. -/
theorem mem_of_lastNaming {type : Fin dxvaBufferCount} {descs : List BufferDesc}
    {last : BufferDesc} (h : lastNaming type descs = some last) :
    last ∈ descs ∧ last.bufferType.toNat = type.val := by
  induction descs with
  | nil => cases h
  | cons desc descs ih =>
    unfold lastNaming at h
    cases hrest : lastNaming type descs with
    | some other =>
      rw [hrest] at h
      obtain rfl := Option.some.inj h
      obtain ⟨hmem, hnamed⟩ := ih hrest
      exact ⟨List.mem_cons_of_mem desc hmem, hnamed⟩
    | none =>
      rw [hrest] at h
      simp only at h
      split_ifs at h with hnamed
      obtain rfl := Option.some.inj h
      exact ⟨List.mem_cons_self, hnamed⟩

/-- `SubmitDecoderBuffers` keeps the submitted parts inside their buffers. -/
theorem inBounds_submit {decoder : BridgeDecoder} (h : decoder.InBounds)
    (descs : List BufferDesc) : (contextSubmit descs decoder).2.InBounds := by
  rw [contextSubmit_eq]
  intro type data hdata
  have hbuffer : (decoder.submit (decoder.accepted descs)).buffers type =
      (decoder.buffers type).submit (lastNaming type (decoder.accepted descs)) := rfl
  simp only [hbuffer] at hdata ⊢
  rw [DecoderBuffer.submit_data] at hdata
  have hold := h type data hdata
  cases hlast : lastNaming type (decoder.accepted descs) with
  | none => exact hold
  | some last =>
    obtain ⟨hmem, hnamed⟩ := mem_of_lastNaming hlast
    have haccepted : decoder.refuses last = false := by
      have hnot := List.mem_takeWhile_imp hmem
      rwa [Bool.not_eq_true'] at hnot
    have htype : last.bufferType.toNat < dxvaBufferCount := hnamed ▸ type.isLt
    have hsame : (⟨last.bufferType.toNat, htype⟩ : Fin dxvaBufferCount) = type := Fin.ext hnamed
    unfold BridgeDecoder.refuses at haccepted
    rw [dif_pos htype, decide_eq_false_iff_not, hsame, refuses_iff] at haccepted
    exact ⟨hold.length_eq, hold.capacity_eq, Nat.not_lt.mp fun hlt => haccepted (Or.inr hlt)⟩

/-! ## The other calls -/

/-- `GetDecoderBuffer` gives out a block of the capacity, with nothing submitted. -/
theorem inBounds_getBuffer {decoder : BridgeDecoder} (h : decoder.InBounds)
    (malloc : MallocBlock) (out : Bool) (type : UInt32) :
    (contextGetBuffer malloc out type decoder).2.InBounds := by
  unfold contextGetBuffer
  by_cases hvalid : out = true ∧ type.toNat < dxvaBufferCount
  · rw [dif_pos hvalid]
    simp only
    cases hdata : (decoder.buffers ⟨type.toNat, hvalid.2⟩).data with
    | some data =>
      refine h.update _ fun data hsome => ?_
      have hold := h _ data (hdata.trans hsome)
      exact ⟨hold.length_eq, hold.capacity_eq, Nat.zero_le _⟩
    | none =>
      cases malloc with
      | none =>
        refine h.update _ fun data hsome => ?_
        cases hsome
      | some block =>
        refine h.update _ fun data hsome => ?_
        obtain rfl := Option.some.inj hsome
        refine ⟨?_, rfl, Nat.zero_le _⟩
        rw [List.length_map, List.length_range]
  · rw [dif_neg hvalid]
    exact h

/-- Writing to a buffer keeps its size. -/
theorem inBounds_fill {decoder : BridgeDecoder} (h : decoder.InBounds)
    (type : Fin dxvaBufferCount) (contents : Nat → UInt8) :
    (fillBuffer type contents decoder).InBounds := by
  refine h.update type fun data hsome => ?_
  simp only [Option.map_eq_some_iff] at hsome
  obtain ⟨old, hold, rfl⟩ := hsome
  obtain ⟨hlength, hcapacity, hrange⟩ := h type old hold
  refine ⟨?_, hcapacity, hrange⟩
  rw [List.length_map, List.length_range]
  exact hlength

/-- `BeginFrame` keeps the buffers. -/
theorem contextBeginFrame_buffers (view : Option BridgeOutputView) (decoder : BridgeDecoder) :
    (contextBeginFrame view decoder).2.buffers = decoder.buffers := by
  unfold contextBeginFrame
  cases view with
  | none => rfl
  | some view =>
    simp only
    split_ifs <;> rfl

/-- A decoder with the same buffers is in bounds as well. -/
theorem BridgeDecoder.InBounds.congr {decoder next : BridgeDecoder} (h : decoder.InBounds)
    (hbuffers : next.buffers = decoder.buffers) : next.InBounds := by
  intro type data
  rw [hbuffers]
  exact h type data

/-- Every call on the decoder keeps its buffers in bounds. -/
theorem inBounds_step {readPic : List UInt8 → DxvaPicParams} {process : DecoderProcess}
    (h : process.decoder.InBounds) (call : DecoderCall) :
    ((decoderCalls readPic).step process call).1.decoder.InBounds := by
  cases call with
  | getBuffer malloc out type => exact inBounds_getBuffer h malloc out type
  | fill type contents => exact inBounds_fill h type contents
  | submit descs => exact inBounds_submit h descs
  | beginFrame view => exact h.congr (contextBeginFrame_buffers view process.decoder)
  | endFrame env => exact h.congr (contextEndFrame_buffers readPic env process)
  | shareProbe probe => exact h

/-! ## The picture parameters -/

/-- Behind the check of the submitted size, the capacity is no smaller than the picture
parameters, and they are inside the block. -/
theorem DecoderBuffer.Allocated.picParams_guard {buffer : DecoderBuffer}
    {type : Fin dxvaBufferCount} {data : List UInt8} (h : buffer.Allocated type data)
    (hsize : ¬buffer.size.toUInt64 < UInt64.ofNat sizeofDxvaPicParams) :
    sizeofDxvaPicParams ≤ buffer.capacity.toNat ∧
      buffer.offset.toNat + sizeofDxvaPicParams ≤ data.length := by
  have hlarge : sizeofDxvaPicParams ≤ buffer.size.toNat := by
    rw [UInt64.lt_iff_toNat_lt, UInt32.toNat_toUInt64] at hsize
    exact Nat.not_lt.mp hsize
  obtain ⟨hlength, -, hrange⟩ := h
  constructor
  · omega
  · omega

/-- Picture parameters are only read behind that check. -/
theorem DecoderBuffer.size_of_picParams {buffer : DecoderBuffer}
    {readPic : List UInt8 → DxvaPicParams} {pic : DxvaPicParams}
    (h : buffer.picParams readPic = some pic) :
    ∃ data, buffer.data = some data ∧
      ¬buffer.size.toUInt64 < UInt64.ofNat sizeofDxvaPicParams := by
  unfold DecoderBuffer.picParams at h
  cases hdata : buffer.data with
  | none =>
    rw [hdata] at h
    cases h
  | some data =>
    rw [hdata] at h
    simp only at h
    split_ifs at h with hguard
    exact ⟨data, rfl, fun hsmall => hguard (Or.inl hsmall)⟩

/-! ## The packet -/

/-- A packet whose header has the number of bytes behind it, which the helper accepts. -/
def SizedPacket (packet : List UInt8) : Prop :=
  ∃ payloadSize payload, packet = (packetMessage payloadSize).encode ++ payload ∧
    payloadSize.toNat = payload.length ∧ headerAccepted (packetMessage payloadSize) = true

/-- What a call of `EndFrame` sends: nothing, a packet, or the beginning of one when it
fails. -/
inductive PacketSent (record : DecoderRecord) : Prop where
  | nothing (hsent : record.sent = [])
  | whole (hsized : SizedPacket record.sent)
  | part (packet : List UInt8) (hfailed : hrFailed record.result = true)
      (hsized : SizedPacket packet) (hsent : record.sent <+: packet)

/-- What is sent of some parts is the beginning of all of them. -/
theorem sendParts_sent (parts : List (List SendResult × List UInt8)) :
    (sendParts parts).sent <+: (parts.map Prod.snd).flatten ∧
      ((sendParts parts).complete = true →
        (sendParts parts).sent = (parts.map Prod.snd).flatten) := by
  induction parts with
  | nil => exact ⟨List.nil_prefix, fun _ => rfl⟩
  | cons part parts ih =>
    obtain ⟨calls, data⟩ := part
    obtain ⟨hbegins, hwhole⟩ := ih
    unfold sendParts
    simp only [List.map_cons, List.flatten_cons]
    by_cases hcomplete : (socketSendAll calls data).complete = true
    · rw [hcomplete, Bool.not_true, if_neg Bool.false_ne_true]
      simp only [socketSendAll_sent hcomplete]
      refine ⟨(List.prefix_append_right_inj data).mpr hbegins, fun hrest => ?_⟩
      rw [hwhole hrest]
    · have hpart : (socketSendAll calls data).sent <+: data := (sendLoop_sent_begins _ _ _).1
      rw [Bool.not_eq_true] at hcomplete
      rw [hcomplete, Bool.not_false, if_pos rfl, hcomplete]
      exact ⟨hpart.trans (List.prefix_append _ _), fun hfalse => by cases hfalse⟩

/-- The bytes of a packet. -/
theorem packetParts_flatten (readPic : List UInt8 → DxvaPicParams) (env : EndFrameEnv)
    (decoder : BridgeDecoder) (data : List UInt8) :
    ((packetParts readPic env decoder data).map Prod.snd).flatten =
      (packetMessage (UInt32.ofNat (buildH264ParameterSets readPic
          (decoder.buffers pictureParametersBuffer) decoder.desc).length +
        (decoder.buffers bitstreamBuffer).size)).encode ++
      (buildH264ParameterSets readPic (decoder.buffers pictureParametersBuffer) decoder.desc ++
        submittedBytes (decoder.buffers bitstreamBuffer) data) := by
  unfold packetParts
  simp only
  generalize buildH264ParameterSets readPic (decoder.buffers pictureParametersBuffer)
    decoder.desc = sets
  by_cases hempty : sets = []
  · rw [if_pos hempty, hempty]
    simp
  · rw [if_neg hempty]
    simp

/-- The packet of a call has the size its header says. -/
theorem packetParts_sized {decoder : BridgeDecoder} (h : decoder.InBounds) {data : List UInt8}
    (hdata : (decoder.buffers bitstreamBuffer).data = some data)
    (readPic : List UInt8 → DxvaPicParams) (env : EndFrameEnv) :
    SizedPacket ((packetParts readPic env decoder data).map Prod.snd).flatten := by
  obtain ⟨hlength, hcapacity, hrange⟩ := h bitstreamBuffer data hdata
  have hsets := length_buildH264ParameterSets_le readPic
    (decoder.buffers pictureParametersBuffer) decoder.desc
  have hcapacities := capacities_le bitstreamBuffer
  rw [← hcapacity] at hcapacities
  rw [packetParts_flatten]
  generalize buildH264ParameterSets readPic (decoder.buffers pictureParametersBuffer)
    decoder.desc = sets at hsets ⊢
  generalize decoder.buffers bitstreamBuffer = bitstream at hlength hrange hcapacities ⊢
  have hbytes : (submittedBytes bitstream data).length = bitstream.size.toNat := by
    unfold submittedBytes
    rw [List.length_take, List.length_drop]
    omega
  have hpayload : (UInt32.ofNat sets.length + bitstream.size).toNat =
      sets.length + bitstream.size.toNat := by
    rw [UInt32.toNat_add, toNat_ofNat_eq (by omega)]
    omega
  refine ⟨_, _, rfl, ?_, ?_⟩
  · rw [hpayload, List.length_append, hbytes]
  · have hsmall : UInt32.ofNat sets.length + bitstream.size ≤ maxPayload := by
      rw [UInt32.le_iff_toNat_le, hpayload]
      show _ ≤ 134217728
      omega
    unfold headerAccepted packetMessage
    simp only
    rw [decide_eq_true hsmall]
    rfl

/-- What an exchange sends. -/
theorem exchangePacket_sent (env : EndFrameEnv) (connection : Connection)
    (parts : List (List SendResult × List UInt8)) :
    (exchangePacket env connection parts).sent = (sendParts parts).sent ∧
      ((exchangePacket env connection parts).delivered = true →
        (sendParts parts).complete = true) := by
  unfold exchangePacket
  simp only
  by_cases hcomplete : (sendParts parts).complete = true
  · rw [hcomplete]
    exact ⟨rfl, fun _ => rfl⟩
  · rw [Bool.not_eq_true] at hcomplete
    rw [hcomplete]
    exact ⟨rfl, fun hfalse => by cases hfalse⟩

/-- Nothing is sent behind the header of the reply. -/
theorem receiveFrame_sent (env : EndFrameEnv) (process : DecoderProcess)
    (exchange : FrameExchange) (reply : HelperReply) :
    (receiveFrame env process exchange reply).2.sent = exchange.sent := by
  unfold receiveFrame
  simp only
  split_ifs <;> rfl

/-- What the part of a call behind `decoder_connect` sends. -/
theorem endFrameExchange_sent (readPic : List UInt8 → DxvaPicParams) (env : EndFrameEnv)
    (process : DecoderProcess) (connection : Connection) :
    (endFrameExchange readPic env process connection).2.sent =
      (sendParts (packetParts readPic env process.decoder
        ((process.decoder.buffers bitstreamBuffer).data.getD []))).sent := by
  unfold endFrameExchange
  simp only
  rw [← (exchangePacket_sent env connection _).1]
  split
  · rfl
  · exact receiveFrame_sent env process _ _

/-- The part of a call behind `decoder_connect` sends a packet or the beginning of one. -/
theorem endFrameExchange_packetSent {process : DecoderProcess} (h : process.decoder.InBounds)
    {data : List UInt8} (hdata : (process.decoder.buffers bitstreamBuffer).data = some data)
    (readPic : List UInt8 → DxvaPicParams) (env : EndFrameEnv) (connection : Connection) :
    PacketSent (endFrameExchange readPic env process connection).2 := by
  have hpacket := packetParts_sized h hdata readPic env
  unfold endFrameExchange
  simp only [hdata, Option.getD_some]
  generalize packetParts readPic env process.decoder data = parts at hpacket ⊢
  obtain ⟨hbegins, hwhole⟩ := sendParts_sent parts
  obtain ⟨hsent, hdelivered⟩ := exchangePacket_sent env connection parts
  rw [← hsent] at hbegins hwhole
  cases hreply : (exchangePacket env connection parts).reply? with
  | none => exact .part _ rfl hpacket hbegins
  | some reply =>
    refine .whole ?_
    unfold FrameExchange.reply? at hreply
    simp only at hreply
    split_ifs at hreply with haccepted
    simp only
    rw [receiveFrame_sent, hwhole (hdelivered haccepted.1)]
    exact hpacket

/-- A call of `EndFrame` sends at most a packet. -/
theorem contextEndFrame_packetSent {process : DecoderProcess} (h : process.decoder.InBounds)
    (readPic : List UInt8 → DxvaPicParams) (env : EndFrameEnv) :
    PacketSent (contextEndFrame readPic env process).2 := by
  rw [contextEndFrame_eq]
  by_cases henters : endFrameEnters env.entryTick process.decoder
  · rw [if_pos henters]
    obtain ⟨helper, retryAfter, probe, hconnect⟩ := decoderConnect_keeps env.connect process
    rw [hconnect]
    cases helper with
    | none => exact .nothing rfl
    | some connection =>
      obtain ⟨data, hdata⟩ := Option.ne_none_iff_exists'.mp henters.1.1
      have hbounds : BridgeDecoder.InBounds
          { process.decoder with helper := some connection, retryAfter } := h.congr rfl
      exact @endFrameExchange_packetSent
        ⟨{ process.decoder with helper := some connection, retryAfter }, probe⟩ hbounds data hdata
        readPic env connection
  · rw [if_neg henters]
    exact .nothing rfl

/-! ## Every access -/

/-- The reads of a call of `EndFrame`, and what it sends. -/
structure EndFrameInBounds (readPic : List UInt8 → DxvaPicParams) (env : EndFrameEnv)
    (process : DecoderProcess) : Prop where
  bitstream : ∀ data, (process.decoder.buffers bitstreamBuffer).data = some data →
    (process.decoder.buffers bitstreamBuffer).offset.toNat +
      (process.decoder.buffers bitstreamBuffer).size.toNat ≤ data.length
  /-- Where the guard subtracts the size of the picture parameters from the capacity, the
  capacity is no smaller. -/
  guard : ∀ data, (process.decoder.buffers pictureParametersBuffer).data = some data →
    ¬(process.decoder.buffers pictureParametersBuffer).size.toUInt64 <
      UInt64.ofNat sizeofDxvaPicParams →
    sizeofDxvaPicParams ≤ (process.decoder.buffers pictureParametersBuffer).capacity.toNat
  parameters : ∀ pic,
    (process.decoder.buffers pictureParametersBuffer).picParams readPic = some pic →
    ∃ data, (process.decoder.buffers pictureParametersBuffer).data = some data ∧
      (process.decoder.buffers pictureParametersBuffer).offset.toNat + sizeofDxvaPicParams ≤
        data.length
  packet : PacketSent (contextEndFrame readPic env process).2

/-- The check of a descriptor decides as in exact arithmetic. -/
def ChecksExactly (decoder : BridgeDecoder) (desc : BufferDesc) : Prop :=
  decoder.refuses desc = true ↔ ∃ type : Fin dxvaBufferCount,
    desc.bufferType.toNat = type.val ∧ ((decoder.buffers type).data = none ∨
      (decoder.buffers type).capacity.toNat < desc.dataOffset.toNat + desc.dataSize.toNat)

/-- A call on a decoder begins and ends with its buffers in bounds, its guards decide as in
exact arithmetic, and its accesses are inside the buffers. -/
structure CallInBounds (readPic : List UInt8 → DxvaPicParams) (process : DecoderProcess)
    (call : DecoderCall) : Prop where
  before : process.decoder.InBounds
  after : ((decoderCalls readPic).step process call).1.decoder.InBounds
  submit : ∀ descs, call = .submit descs → ∀ desc ∈ descs, ChecksExactly process.decoder desc
  endFrame : ∀ env, call = .endFrame env → EndFrameInBounds readPic env process

theorem checksExactly (decoder : BridgeDecoder) (desc : BufferDesc) :
    ChecksExactly decoder desc := by
  unfold ChecksExactly BridgeDecoder.refuses
  by_cases htype : desc.bufferType.toNat < dxvaBufferCount
  · rw [dif_pos htype, decide_eq_true_iff, refuses_iff]
    constructor
    · exact fun h => ⟨_, rfl, h⟩
    · rintro ⟨type, hnamed, h⟩
      have hsame : (⟨desc.bufferType.toNat, htype⟩ : Fin dxvaBufferCount) = type := Fin.ext hnamed
      rwa [hsame]
  · rw [dif_neg htype]
    refine iff_of_false Bool.false_ne_true ?_
    rintro ⟨type, hnamed, -⟩
    exact htype (hnamed ▸ type.isLt)

theorem endFrame_inBounds {process : DecoderProcess} (h : process.decoder.InBounds)
    (readPic : List UInt8 → DxvaPicParams) (env : EndFrameEnv) :
    EndFrameInBounds readPic env process where
  bitstream := by
    intro data hdata
    have hallocated := h _ data hdata
    rw [hallocated.length_eq]
    exact hallocated.range_le
  guard := fun data hdata hsize => ((h _ data hdata).picParams_guard hsize).1
  parameters := by
    intro pic hpic
    obtain ⟨data, hdata, hsize⟩ := DecoderBuffer.size_of_picParams hpic
    exact ⟨data, hdata, ((h _ data hdata).picParams_guard hsize).2⟩
  packet := contextEndFrame_packetSent h readPic env

/-- In every run on a new decoder, the accesses of every call are in bounds. -/
theorem decoder_accesses_in_bounds (readPic : List UInt8 → DxvaPicParams)
    (desc : VideoDecoderDesc) (probe : HelperProbe) (calls : List DecoderCall) :
    (decoderCalls readPic).Along (fun _ process call => CallInBounds readPic process call) []
      (DecoderProcess.fresh desc probe) calls := by
  refine Machine.along_of_invariant (fun _ process => process.decoder.InBounds)
    (fun _ _ call h _ => inBounds_step h call) (fun _ process call h _ => ?_)
    (fun _ _ hnone => by cases hnone) (Machine.along_of_forall (fun _ _ _ => trivial) _ _ _)
  exact
    { before := h
      after := inBounds_step h call
      submit := fun _ _ desc _ => checksExactly process.decoder desc
      endFrame := fun env _ => endFrame_inBounds h readPic env }

end UuAmfBridge
