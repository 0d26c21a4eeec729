import UuAmfBridge.Dxva.BufferBounds

/-!
# Each bitstream once

`EndFrame` sends what the bitstream buffer has, and leaves the buffer as it is; only
`GetDecoderBuffer` takes the size back.  So whether a bitstream is decoded once depends
on the order of the calls.

A `BitstreamHistory` goes along with the calls: whether a bitstream has been submitted
since the last `EndFrame`, and how many packets have been sent since the last
submission.  The calls themselves do not look at it.

* `endFrame_sends`: a connected decoder sends whatever the buffer has, submitted since
  the last frame or not.
* `bitstream_decoded_once`: a run in which `EndFrame` finds an empty bitstream buffer
  unless one has been submitted since the last `EndFrame` sends no bitstream twice.
-/

namespace UuAmfBridge

/-- What has become of the last submitted bitstream. -/
structure BitstreamHistory where
  /-- It has been submitted since the last `EndFrame`. -/
  fresh : Bool := false
  /-- The packets sent since then. -/
  packets : Nat := 0

/-- A call has submitted a bitstream. -/
def submitsBitstream (descs : List BufferDesc) (record : DecoderRecord) : Bool :=
  record.result == sOk && descs.any fun desc => desc.bufferType.toNat == bitstreamBuffer.val

/-- The history after a call. -/
def BitstreamHistory.after (history : BitstreamHistory) (call : DecoderCall)
    (record : DecoderRecord) : BitstreamHistory :=
  match call with
  | .submit descs =>
      if submitsBitstream descs record then { fresh := true, packets := 0 } else history
  | .endFrame _ =>
      { fresh := false
        packets := if record.sent = [] then history.packets else history.packets + 1 }
  | _ => history

/-- The calls on a decoder, with the history of its bitstream beside it. -/
def recordedCalls (readPic : List UInt8 → DxvaPicParams) :
    Machine (DecoderProcess × BitstreamHistory) DecoderCall DecoderRecord where
  step state call :=
    let next := (decoderCalls readPic).step state.1 call
    ((next.1, state.2.after call next.2), next.2)

/-- After the call, the last bitstream has been sent at most once, and the call has sent
nothing unless a bitstream has been submitted since the last `EndFrame`. -/
def DecodesOnce (readPic : List UInt8 → DxvaPicParams)
    (state : DecoderProcess × BitstreamHistory) (call : DecoderCall) : Prop :=
  ((recordedCalls readPic).step state call).1.2.packets ≤ 1 ∧
    ∀ env, call = .endFrame env → ((recordedCalls readPic).step state call).2.sent ≠ [] →
      state.2.fresh = true

/-- A call of `EndFrame` finds an empty bitstream buffer, unless a bitstream has been
submitted since the last one. -/
def EndsFreshFrame (state : DecoderProcess × BitstreamHistory) (call : DecoderCall) : Prop :=
  ∀ env, call = .endFrame env → state.2.fresh = true ∨ ¬state.1.decoder.HasBitstream

/-- A bitstream that has not been followed by `EndFrame` has not been sent. -/
structure BitstreamHistory.Valid (history : BitstreamHistory) : Prop where
  packets_le : history.packets ≤ 1
  fresh_unsent : history.fresh = true → history.packets = 0

/-! ## One call -/

/-- `EndFrame` only sends a bitstream that the buffer has. -/
theorem hasBitstream_of_sent {readPic : List UInt8 → DxvaPicParams} {env : EndFrameEnv}
    {process : DecoderProcess} (h : (contextEndFrame readPic env process).2.sent ≠ []) :
    process.decoder.HasBitstream := by
  rw [contextEndFrame_eq] at h
  by_cases henters : endFrameEnters env.entryTick process.decoder
  · exact henters.1
  · rw [if_neg henters] at h
    exact absurd rfl h

/-- A connected decoder that does not back off sends what the bitstream buffer has. -/
theorem endFrame_sends {readPic : List UInt8 → DxvaPicParams} {env : EndFrameEnv}
    {process : DecoderProcess} (henters : endFrameEnters env.entryTick process.decoder)
    {connection : Connection} (hconnected : process.decoder.helper = some connection)
    (hsend : env.headerSend = []) : (contextEndFrame readPic env process).2.sent ≠ [] := by
  have hconnect : decoderConnect env.connect process = (some connection, process) := by
    unfold decoderConnect
    simp only [hconnected]
  rw [contextEndFrame_eq, if_pos henters, hconnect]
  simp only
  rw [endFrameExchange_sent]
  unfold packetParts
  simp only [List.cons_append, List.nil_append]
  unfold sendParts
  have hheader : ∀ header : List UInt8, socketSendAll env.headerSend header = ⟨true, header⟩ := by
    intro header
    rw [hsend]
    exact sendLoop_eq_of_undisturbed fun _ hmem => by cases hmem
  simp only [hheader, Bool.not_true, Bool.false_eq_true, if_false]
  intro hempty
  have hlength := HelperFrameMessage.encode_length
    (packetMessage (UInt32.ofNat (buildH264ParameterSets readPic
      (process.decoder.buffers pictureParametersBuffer) process.decoder.desc).length +
        (process.decoder.buffers bitstreamBuffer).size))
  rw [(List.append_eq_nil_iff.mp hempty).1] at hlength
  exact absurd hlength (by decide)

/-- A call that meets the condition keeps the history valid and sends a bitstream at most
once. -/
theorem decodesOnce_step {readPic : List UInt8 → DxvaPicParams}
    {state : DecoderProcess × BitstreamHistory} (hvalid : state.2.Valid) {call : DecoderCall}
    (hfresh : EndsFreshFrame state call) :
    ((recordedCalls readPic).step state call).1.2.Valid ∧ DecodesOnce readPic state call := by
  obtain ⟨process, history⟩ := state
  obtain ⟨hpackets, hunsent⟩ := hvalid
  cases call with
  | getBuffer malloc out type =>
    exact ⟨⟨hpackets, hunsent⟩, hpackets, fun _ h => by cases h⟩
  | fill type contents => exact ⟨⟨hpackets, hunsent⟩, hpackets, fun _ h => by cases h⟩
  | submit descs =>
    have hafter :
        (((recordedCalls readPic).step (process, history) (.submit descs)).1.2).Valid := by
      show (if submitsBitstream descs _ then _ else history).Valid
      split_ifs
      · exact ⟨Nat.zero_le 1, fun _ => rfl⟩
      · exact ⟨hpackets, hunsent⟩
    exact ⟨hafter, hafter.packets_le, fun _ h => by cases h⟩
  | beginFrame view => exact ⟨⟨hpackets, hunsent⟩, hpackets, fun _ h => by cases h⟩
  | endFrame env =>
    have hsent : (contextEndFrame readPic env process).2.sent ≠ [] → history.fresh = true := by
      intro hsome
      rcases hfresh env rfl with hyes | hempty
      · exact hyes
      · exact absurd (hasBitstream_of_sent hsome) hempty
    have hcount : (if (contextEndFrame readPic env process).2.sent = [] then history.packets
        else history.packets + 1) ≤ 1 := by
      by_cases hnone : (contextEndFrame readPic env process).2.sent = []
      · rw [if_pos hnone]
        exact hpackets
      · rw [if_neg hnone, hunsent (hsent hnone)]
    refine ⟨⟨hcount, fun hfalse => by cases hfalse⟩, hcount, ?_⟩
    rintro other hother hsome
    exact hsent hsome
  | shareProbe probe => exact ⟨⟨hpackets, hunsent⟩, hpackets, fun _ h => by cases h⟩

/-- On a connected decoder that does not back off the condition is exact: a call that
sends nothing out of turn meets it. -/
theorem endsFreshFrame_of_decodesOnce {readPic : List UInt8 → DxvaPicParams}
    {state : DecoderProcess × BitstreamHistory} {env : EndFrameEnv}
    (hdecodes : DecodesOnce readPic state (.endFrame env)) {connection : Connection}
    (hconnected : state.1.decoder.helper = some connection)
    (hawake : ¬(state.1.decoder.retryAfter ≠ 0 ∧ env.entryTick < state.1.decoder.retryAfter))
    (hsend : env.headerSend = []) : EndsFreshFrame state (.endFrame env) := by
  intro other _
  by_cases hloaded : state.1.decoder.HasBitstream
  · exact Or.inl (hdecodes.2 env rfl (endFrame_sends ⟨hloaded, hawake⟩ hconnected hsend))
  · exact Or.inr hloaded

/-! ## Whole runs -/

/-- In a run in which `EndFrame` finds an empty bitstream buffer unless a bitstream has been
submitted since the last one, each bitstream is sent at most once, and only by the
`EndFrame` behind its submission. -/
theorem bitstream_decoded_once (readPic : List UInt8 → DxvaPicParams) (desc : VideoDecoderDesc)
    (probe : HelperProbe) (calls : List DecoderCall)
    (hfresh : (recordedCalls readPic).Along (fun _ state call => EndsFreshFrame state call) []
      (DecoderProcess.fresh desc probe, {}) calls) :
    (recordedCalls readPic).Along (fun _ state call => DecodesOnce readPic state call) []
      (DecoderProcess.fresh desc probe, {}) calls :=
  Machine.along_of_invariant (fun _ state => state.2.Valid)
    (fun _ _ _ hvalid hstep => (decodesOnce_step hvalid hstep).1)
    (fun _ _ _ hvalid hstep => (decodesOnce_step hvalid hstep).2)
    ⟨Nat.zero_le 1, fun hfalse => by cases hfalse⟩ hfresh

/-- The helper takes the packet, and has no frame yet. -/
def quietEnv : EndFrameEnv where
  upload := { desc := ⟨true, 2, 2⟩ }

/-- The application submits one byte, and ends the frame. -/
def onceEndedCalls : List DecoderCall :=
  [.getBuffer (some fun _ => 0) true 6, .submit [⟨6, 0, 1⟩], .beginFrame (some {}),
    .endFrame quietEnv]

/-- A frame of one byte is sent once. -/
theorem ended_once_sent_once :
    (recordedCalls fun _ => default).Along
      (fun _ state call => DecodesOnce (fun _ => default) state call) []
        (DecoderProcess.fresh ⟨2, 2⟩ {}, {}) onceEndedCalls := by
  apply bitstream_decoded_once
  unfold onceEndedCalls
  simp only [Machine.along_cons, Machine.along_nil]
  refine ⟨?_, ?_, ?_, ?_, trivial⟩
  · intro env hcall
    cases hcall
  · intro env hcall
    cases hcall
  · intro env hcall
    cases hcall
  · intro env _
    exact Or.inl rfl

/-! ## A frame that is ended twice -/

/-- The application submits one byte, and ends the frame twice. -/
def twiceEndedCalls : List DecoderCall :=
  onceEndedCalls ++ [.endFrame quietEnv]

/-- The decoder stays connected, and does not back off. -/
theorem JustSubmitted.quiet {process : DecoderProcess} {capacity : UInt32} {rest : List UInt8}
    (h : JustSubmitted process capacity rest) (readPic : List UInt8 → DxvaPicParams) :
    (contextEndFrame readPic quietEnv process).1.decoder.helper =
        some { helper := decodingSide } ∧
      (contextEndFrame readPic quietEnv process).1.decoder.retryAfter = 0 := by
  rw [h.contextEndFrame_eq readPic rfl]
  exact ⟨rfl, h.retryAfter_eq⟩

/-- The second call sends the byte again. -/
theorem JustSubmitted.sends_again {process : DecoderProcess} {capacity : UInt32}
    {rest : List UInt8} (h : JustSubmitted process capacity rest)
    (readPic : List UInt8 → DxvaPicParams) :
    (contextEndFrame readPic quietEnv (contextEndFrame readPic quietEnv process).1).2.sent ≠
      [] := by
  obtain ⟨hconnected, hawake⟩ := h.quiet readPic
  have hloaded : (contextEndFrame readPic quietEnv process).1.decoder.HasBitstream := by
    unfold BridgeDecoder.HasBitstream
    rw [contextEndFrame_buffers, h.bitstream_eq]
    have hone : (1 : UInt32) ≠ 0 := by decide
    exact ⟨Option.some_ne_none _, hone⟩
  exact endFrame_sends ⟨hloaded, fun hwait => hwait.1 hawake⟩ hconnected rfl

/-- The bitstream is sent again. -/
theorem ended_twice_sent_twice :
    ¬(recordedCalls fun _ => default).Along
      (fun _ state call => DecodesOnce (fun _ => default) state call) []
        (DecoderProcess.fresh ⟨2, 2⟩ {}, {}) twiceEndedCalls := by
  unfold twiceEndedCalls onceEndedCalls
  simp only [List.cons_append, List.nil_append, Machine.along_cons]
  rintro ⟨-, -, -, -, hlast, -⟩
  have hstale : ∀ state : DecoderProcess × BitstreamHistory,
      DecodesOnce (fun _ => default)
        ((recordedCalls fun _ => default).step state (.endFrame quietEnv)).1
          (.endFrame quietEnv) →
        ∀ {capacity rest}, ¬JustSubmitted state.1 capacity rest := by
    intro state hstep _ _ hsubmitted
    exact Bool.false_ne_true (hstep.2 quietEnv rfl (hsubmitted.sends_again _))
  obtain ⟨capacity, rest, hsubmitted⟩ := justSubmitted_of_fresh fun _ => default
  exact hstale _ hlast hsubmitted

end UuAmfBridge
