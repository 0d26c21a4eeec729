import UuAmfBridge.Dxva.DecoderClient

/-!
# The size of a decoded frame

`context_end_frame` takes the size of a frame from the header of the reply, and compares
it with the width and the height before it reads the frame.  The comparison is made in
64 bits.  Width and height are any two 32-bit numbers of the wire, and three times their
product can reach beyond `2 ^ 64`: it wraps to a size below the limit of 128 MiB for a
few of them, and `upload_nv12` is then given an image of exabytes in a small buffer.

* `frameSizeAccepted_exact_iff`: the comparison is exact when the product does not wrap,
  and only then.
* `accepted_frame_complete_iff`: so it is with the bytes of the image that are in the
  frame buffer.
-/

namespace UuAmfBridge

/-! ## The frame in its buffer -/

/-- The offset of a luma or a chroma byte of an NV12 image, as `upload_nv12` addresses
them. -/
def ImageByte (width height k : Nat) : Prop :=
  (∃ y < height, ∃ x < width, k = y * width + x) ∨
    ∃ y < height / 2, ∃ x < width, k = width * height + y * width + x

/-- An image has three bytes for each two pixels. -/
theorem ImageByte.lt {width height k : Nat} (h : ImageByte width height k) :
    k < 3 * width * height / 2 := by
  have hrows : ∀ {y x rows : Nat}, y < rows → x < width → y * width + x < rows * width := by
    intro y x rows hy hx
    have hrow : (y + 1) * width ≤ rows * width := Nat.mul_le_mul_right width hy
    rw [Nat.add_mul, Nat.one_mul] at hrow
    omega
  have hhalf : height / 2 * width * 2 ≤ width * height := by
    have hle : height / 2 * 2 * width ≤ height * width :=
      Nat.mul_le_mul_right width (Nat.div_mul_le_self height 2)
    rw [Nat.mul_right_comm, Nat.mul_comm width]
    exact hle
  rw [Nat.mul_assoc]
  rcases h with ⟨y, hy, x, hx, rfl⟩ | ⟨y, hy, x, hx, rfl⟩
  · have hbyte := hrows hy hx
    rw [Nat.mul_comm height] at hbyte
    omega
  · have hbyte := hrows hy hx
    omega

section Call

variable {readPic : List UInt8 → DxvaPicParams} {env : EndFrameEnv} {process : DecoderProcess}

/-- The frame that the call reads behind the header of the reply. -/
def AcceptedFrame.frame (accepted : AcceptedFrame readPic env process) : RecvOutcome UInt8 :=
  socketRecvAll env.frameRecv accepted.reply.payloadSize.toNat accepted.exchange.header.rest

/-- The decoder that has the frame in its buffer. -/
def AcceptedFrame.stored (accepted : AcceptedFrame readPic env process) : BridgeDecoder :=
  storeFrame accepted.opened.decoder accepted.reply.payloadSize accepted.exchange.helper
    accepted.frame

/-- The call hands its frame to `upload_nv12`: there is a frame of an accepted size, with
a buffer for it, and it has arrived. -/
structure AcceptedFrame.Hands (accepted : AcceptedFrame readPic env process) : Prop where
  size_ne : accepted.reply.payloadSize ≠ 0
  size_accepted : frameSizeAccepted accepted.reply.width accepted.reply.height
    accepted.reply.payloadSize = true
  buffer : ¬(accepted.reply.payloadSize > accepted.opened.decoder.frameCapacity ∧
    env.frameRealloc = false)
  arrived : accepted.frame.status = .complete

/-- The size of the frame is the size of its image, and a frame that is handed to
`upload_nv12` has every byte of its image in the frame buffer, as it has arrived. -/
structure AcceptedFrame.Complete (accepted : AcceptedFrame readPic env process) : Prop where
  size_eq : accepted.reply.payloadSize.toNat =
    3 * accepted.reply.width.toNat * accepted.reply.height.toNat / 2
  bytes : accepted.Hands →
    ∀ k, ImageByte accepted.reply.width.toNat accepted.reply.height.toNat k →
      k < accepted.stored.frameCapacity.toNat ∧
        accepted.frame.data[k]? = some (accepted.stored.frame k)

end Call

/-! ## The size check -/

/-- The size that the check accepts is the size of the image if and only if three times
the product of width and height is a 64-bit number. -/
theorem frameSizeAccepted_exact_iff {width height payloadSize : UInt32}
    (h : frameSizeAccepted width height payloadSize = true) :
    payloadSize.toNat = 3 * width.toNat * height.toNat / 2 ↔
      3 * width.toNat * height.toNat < 2 ^ 64 := by
  unfold frameSizeAccepted at h
  simp only [Bool.and_eq_true, decide_eq_true_eq] at h
  obtain ⟨hequation, hlimit⟩ := h
  have hbound : payloadSize.toNat ≤ 134217728 := hlimit
  have hproduct : width.toNat * height.toNat * 3 = 3 * width.toNat * height.toNat := by
    rw [Nat.mul_comm, Nat.mul_assoc]
  constructor
  · intro hexact
    omega
  · intro hsmall
    have hnat := congrArg UInt64.toNat hequation
    rw [nv12Size_toNat (by rw [hproduct]; exact hsmall), UInt32.toNat_toUInt64, hproduct] at hnat
    exact hnat.symm

/-- A frame of an accepted size has the size of its image, and all of the image is handed
to `upload_nv12`, if and only if three times the product of width and height is a 64-bit
number. -/
theorem accepted_frame_complete_iff {readPic : List UInt8 → DxvaPicParams} {env : EndFrameEnv}
    {process : DecoderProcess} (accepted : AcceptedFrame readPic env process)
    (haccepted : frameSizeAccepted accepted.reply.width accepted.reply.height
      accepted.reply.payloadSize = true) :
    accepted.Complete ↔
      3 * accepted.reply.width.toNat * accepted.reply.height.toNat < 2 ^ 64 := by
  rw [← frameSizeAccepted_exact_iff haccepted]
  refine ⟨AcceptedFrame.Complete.size_eq, fun hsize => ⟨hsize, fun hhands k hk => ?_⟩⟩
  have hinside : k < accepted.reply.payloadSize.toNat := by
    rw [hsize]
    exact hk.lt
  have hlength : accepted.frame.data.length = accepted.reply.payloadSize.toNat :=
    (recvLoop_complete_iff_length _ _ _ _).mp hhands.arrived
  constructor
  · have hcapacity : accepted.reply.payloadSize ≤ accepted.stored.frameCapacity := by
      unfold AcceptedFrame.stored storeFrame
      simp only
      split_ifs with hgrow
      · exact UInt32.le_refl _
      · exact UInt32.not_lt.mp hgrow
    exact lt_of_lt_of_le hinside hcapacity
  · have hstored : accepted.stored.frame k = payloadMemory accepted.frame.data k :=
      if_pos (by omega)
    rw [hstored]
    unfold payloadMemory
    rw [List.getD_eq_getElem?_getD, List.getElem?_eq_getElem (by omega)]
    rfl

/-- A decoder with one byte to send, on a connection where the reply has arrived already,
and the frame behind it. -/
def answeredDecoder (reply : HelperReply) (frame : List UInt8) : DecoderProcess where
  decoder :=
    { desc := ⟨2, 2⟩
      buffers := fun type =>
        if type = bitstreamBuffer then { data := some [0], capacity := 1, size := 1 } else {}
      helper := some { helper := .ended, inbound := reply.encode ++ frame } }

/-- A call that meets no error, with a texture of two times two pixels. -/
def smallTextureEnv : EndFrameEnv where
  upload := { desc := { nv12 := true, width := 2, height := 2 } }

/-- The reply with a frame of two times two pixels. -/
def squareReply : HelperReply where
  magic := helperMagic
  type := helperReply
  status := 0
  payloadSize := 6
  width := 2
  height := 2

theorem square_frame_complete :
    ∃ accepted : AcceptedFrame (fun _ => default) smallTextureEnv
      (answeredDecoder squareReply [1, 2, 3, 4, 5, 6]), accepted.Hands ∧ accepted.Complete := by
  let accepted : AcceptedFrame (fun _ => default) smallTextureEnv
      (answeredDecoder squareReply [1, 2, 3, 4, 5, 6]) :=
    { data := [0]
      connection := _
      opened := _
      reply := squareReply
      data_eq := rfl
      size_ne := by decide
      awake := fun hwait => hwait.1 rfl
      connect_eq := rfl
      reply_eq := by decide }
  refine ⟨accepted, ⟨?_, ?_, ?_, ?_⟩, (accepted_frame_complete_iff accepted ?_).mpr ?_⟩
  all_goals decide

/-- A reply with a frame of 16 bytes, which is the size of its image modulo `2 ^ 63`. -/
def wrappedReply : HelperReply :=
  { squareReply with payloadSize := 16, width := 3649452082, height := 1684887088 }

theorem wrapped_frame_not_complete :
    ¬∀ (env : EndFrameEnv) (process : DecoderProcess)
      (accepted : AcceptedFrame (fun _ => default) env process),
      accepted.reply.payloadSize ≠ 0 →
        frameSizeAccepted accepted.reply.width accepted.reply.height
          accepted.reply.payloadSize = true → accepted.Complete := by
  intro hall
  let accepted : AcceptedFrame (fun _ => default) smallTextureEnv
      (answeredDecoder wrappedReply (List.replicate 16 0)) :=
    { data := [0]
      connection := _
      opened := _
      reply := wrappedReply
      data_eq := rfl
      size_ne := by decide
      awake := fun hwait => hwait.1 rfl
      connect_eq := rfl
      reply_eq := by decide }
  have hcomplete := hall _ _ accepted (by decide) (by decide)
  have hsize : wrappedReply.payloadSize.toNat =
    3 * wrappedReply.width.toNat * wrappedReply.height.toNat / 2 := hcomplete.size_eq
  exact absurd hsize (by decide)

end UuAmfBridge
