import UuAmfBridge.Capture.RequestPairing
import UuAmfBridge.Lib.FixedWidth

/-!
# The captured frame on its way to the screen bitmap

`capture_bitblt` of `src/wayland_capture_hook.c` answers a `BitBlt` that captures the
screen with a frame of the helper: it hands the pixels of `request_frame` to
`StretchDIBits` as a bitmap whose rows go from top to bottom.

The checks of `request_frame` multiply in 32 bits, where both products can wrap: a
width of `2 ^ 30 + 1` passes with a stride of four bytes, and `StretchDIBits` is told to
read four gigabytes from the four bytes that have arrived.

* `requestFrame_sized`: the pixels of a frame have the size in the header.
* `requested_frame_exact_iff`: the sizes are exact, and `StretchDIBits` stays inside the
  pixels, when neither product wraps and only then.
-/

namespace UuAmfBridge

section BitBlt

variable {D : Type*} [DecidableEq D]

/-! ## `capture_bitblt` -/

/-- The arguments of `BitBlt`, without the device contexts. -/
structure BitBltCall where
  xDestination : Int32
  yDestination : Int32
  width : Int32
  height : Int32
  xSource : Int32
  ySource : Int32
  operation : UInt32

/-- `CAPTUREBLT`. -/
def captureBlt : UInt32 := 0x40000000

/-- `ERROR_INVALID_DATA`. -/
def errorInvalidData : UInt32 := 13

/-- A call of `StretchDIBits`, with what its `BITMAPINFO` says of the bits. -/
structure StretchDIBits where
  xDestination : Int32
  yDestination : Int32
  destinationWidth : Int32
  destinationHeight : Int32
  xSource : Int32
  ySource : Int32
  sourceWidth : Int32
  sourceHeight : Int32
  bits : List UInt8
  biWidth : Int32
  /-- Negative for a bitmap whose rows go from top to bottom. -/
  biHeight : Int32
  biBitCount : UInt16

/-- What `capture_bitblt` meets; `originalBitblt` and `copied` are what the original
`BitBlt` and `StretchDIBits` return. -/
structure BitBltEnv (D : Type*) where
  screenWidth : Int32
  screenHeight : Int32
  frame : FrameCallEnv D
  originalBitblt : Bool := true
  copied : Int32 := 1

/-- What `capture_bitblt` returns, and the call it has made: of the original `BitBlt`
with its own arguments, or of `StretchDIBits`. -/
structure BitBltRecord where
  result : Bool
  lastError : Option UInt32 := none
  original : Option BitBltCall := none
  stretch : Option StretchDIBits := none

/-- `capture_operation`. -/
def captureOperation (env : BitBltEnv D) (call : BitBltCall) : Bool :=
  call.operation &&& captureBlt != 0 ||
    (call.xSource == 0 && call.ySource == 0 && env.screenWidth ≤ call.width &&
      env.screenHeight ≤ call.height)

/-- The call of `StretchDIBits` with the frame of the helper. -/
def stretchFrame (call : BitBltCall) (reply : CaptureReply) (pixels : List UInt8) :
    StretchDIBits where
  xDestination := call.xDestination
  yDestination := call.yDestination
  destinationWidth := call.width
  destinationHeight := call.height
  xSource := 0
  ySource := 0
  sourceWidth := reply.width.toInt32
  sourceHeight := reply.height.toInt32
  bits := pixels
  biWidth := reply.width.toInt32
  biHeight := -reply.height.toInt32
  biBitCount := 32

/-- `capture_bitblt` on the connection for frames. -/
def captureBitblt (token : List UInt8) (env : BitBltEnv D) (call : BitBltCall)
    (connection : Option (CaptureConnection D)) :
    Option (CaptureConnection D) × BitBltRecord :=
  let original : BitBltRecord := { result := env.originalBitblt, original := some call }
  if !captureOperation env call || call.width ≤ 0 || call.height ≤ 0 then (connection, original)
  else
    match requestFrame token env.frame connection with
    | (kept, none) => (kept, original)
    | (kept, some (reply, pixels)) =>
        (kept,
          { result := 0 < env.copied
            lastError := if env.copied ≤ 0 then some errorInvalidData else none
            stretch := some (stretchFrame call reply pixels) })

/-! ## What `StretchDIBits` reads -/

/-- Where pixel `x` of row `y` begins in the bits. -/
def StretchDIBits.pixelOffset (stretch : StretchDIBits) (x y : Int) : Int :=
  (y * stretch.biWidth.toInt + x) * (stretch.biBitCount.toNat / 8 : Nat)

/-- The source rectangle lies in the bitmap, and every one of its pixels in the bits. -/
structure StretchDIBits.ReadsInside (stretch : StretchDIBits) : Prop where
  width_pos : 0 < stretch.sourceWidth.toInt
  height_pos : 0 < stretch.sourceHeight.toInt
  right_le : stretch.xSource.toInt + stretch.sourceWidth.toInt ≤ stretch.biWidth.toInt
  bottom_le : stretch.ySource.toInt + stretch.sourceHeight.toInt ≤ -stretch.biHeight.toInt
  pixels : ∀ x y : Int, stretch.xSource.toInt ≤ x →
    x < stretch.xSource.toInt + stretch.sourceWidth.toInt → stretch.ySource.toInt ≤ y →
      y < stretch.ySource.toInt + stretch.sourceHeight.toInt →
        0 ≤ stretch.pixelOffset x y ∧
          stretch.pixelOffset x y + (stretch.biBitCount.toNat / 8 : Nat) ≤ stretch.bits.length

/-- A pixel of a bitmap without gaps lies in the bits. -/
theorem pixel_inside {width height x y : Int} (hx : 0 ≤ x) (hxlt : x < width) (hy : 0 ≤ y)
    (hylt : y < height) :
    0 ≤ (y * width + x) * 4 ∧ (y * width + x) * 4 + 4 ≤ 4 * (width * height) := by
  have hrow : 0 ≤ y * width := Int.mul_nonneg hy (by omega)
  have hlast : (y + 1) * width ≤ height * width :=
    Int.mul_le_mul_of_nonneg_right (by omega) (by omega)
  rw [Int.add_mul, Int.one_mul, Int.mul_comm height width] at hlast
  omega

/-- A size below `2 ^ 31` is the same number as an `int`. -/
theorem toInt_toInt32_eq {value : UInt32} (h : value.toNat < 2 ^ 31) :
    value.toInt32.toInt = value.toNat := by
  show value.toBitVec.toInt = value.toNat
  rw [BitVec.toInt_eq_toNat_of_lt]
  · rfl
  · show 2 * value.toNat < 2 ^ 32
    omega

/-- `StretchDIBits` stays inside the pixels of a frame that has the size of its header. -/
theorem stretchFrame_readsInside (call : BitBltCall) {reply : CaptureReply}
    {pixels : List UInt8} (hlength : pixels.length = 4 * reply.width.toNat * reply.height.toNat)
    (hwidthPos : 0 < reply.width.toNat) (hwidth : reply.width.toNat < 2 ^ 31)
    (hheightPos : 0 < reply.height.toNat) (hheight : reply.height.toNat < 2 ^ 31) :
    (stretchFrame call reply pixels).ReadsInside := by
  have hwidthInt := toInt_toInt32_eq hwidth
  have hheightInt := toInt_toInt32_eq hheight
  have hnegated : (-reply.height.toInt32).toInt = -reply.height.toNat := by
    rw [Int32.toInt_neg, hheightInt]
    exact Int.bmod_eq_of_le (by omega) (by omega)
  have hzero : (0 : Int32).toInt = 0 := rfl
  constructor
  · show 0 < reply.width.toInt32.toInt
    omega
  · show 0 < reply.height.toInt32.toInt
    omega
  · show (0 : Int32).toInt + reply.width.toInt32.toInt ≤ reply.width.toInt32.toInt
    omega
  · show (0 : Int32).toInt + reply.height.toInt32.toInt ≤ -(-reply.height.toInt32).toInt
    omega
  · intro x y hx hxlt hy hylt
    replace hxlt : x < (0 : Int32).toInt + reply.width.toInt32.toInt := hxlt
    replace hylt : y < (0 : Int32).toInt + reply.height.toInt32.toInt := hylt
    rw [hzero, zero_add, hwidthInt] at hxlt
    rw [hzero, zero_add, hheightInt] at hylt
    have hinside := pixel_inside (show 0 ≤ x from hx) hxlt (show 0 ≤ y from hy) hylt
    have hrow : (stretchFrame call reply pixels).biWidth = reply.width.toInt32 := rfl
    have hbytes : (stretchFrame call reply pixels).biBitCount.toNat / 8 = 4 := by
      show (32 : UInt16).toNat / 8 = 4
      decide
    have hbits : (stretchFrame call reply pixels).bits = pixels := rfl
    unfold StretchDIBits.pixelOffset
    rw [hrow, hbytes, hbits, hwidthInt, hlength, Nat.mul_assoc]
    push_cast
    exact hinside

/-! ## The size of a frame -/

/-- The pixels of a frame have the size in the header, which has passed the checks. -/
theorem requestFrame_sized {token : List UInt8} {env : FrameCallEnv D}
    {connection : Option (CaptureConnection D)} {reply : CaptureReply} {pixels : List UInt8}
    (h : (requestFrame token env connection).2 = some (reply, pixels)) :
    frameReplyAccepted reply = true ∧ pixels.length = reply.payloadSize.toNat := by
  unfold requestFrame at h
  cases hopen : openConnection env.connect token connection with
  | none =>
    rw [hopen] at h
    cases h
  | some opened =>
    rw [hopen] at h
    simp only at h
    split_ifs at h with hsend hheader haccepted halloc hpixels
    obtain ⟨rfl, rfl⟩ := Prod.mk.inj (Option.some.inj h)
    exact ⟨by simpa using haccepted,
      (recvLoop_complete_iff_length _ _ _ _).mp (not_not.mp hpixels)⟩

/-- A frame of `request_frame` has the size that its header claims, and a
`capture_bitblt` that gets it stays inside its pixels. -/
structure FrameExact (token : List UInt8) (env : FrameCallEnv D)
    (connection : Option (CaptureConnection D)) (reply : CaptureReply)
    (pixels : List UInt8) : Prop where
  stride_eq : reply.stride.toNat = 4 * reply.width.toNat
  length_eq : pixels.length = 4 * reply.width.toNat * reply.height.toNat
  width_pos : 0 < reply.width.toNat
  width_lt : reply.width.toNat < 2 ^ 31
  height_pos : 0 < reply.height.toNat
  height_lt : reply.height.toNat < 2 ^ 31
  reads : ∀ (bitblt : BitBltEnv D) (call : BitBltCall) (stretch : StretchDIBits),
    bitblt.frame = env → (captureBitblt token bitblt call connection).2.stretch = some stretch →
      stretch.ReadsInside

/-- A `StretchDIBits` of `capture_bitblt` has the frame that `request_frame` returns. -/
theorem captureBitblt_stretch {token : List UInt8} {bitblt : BitBltEnv D} {call : BitBltCall}
    {connection : Option (CaptureConnection D)} {reply : CaptureReply} {pixels : List UInt8}
    {stretch : StretchDIBits}
    (hframe : (requestFrame token bitblt.frame connection).2 = some (reply, pixels))
    (h : (captureBitblt token bitblt call connection).2.stretch = some stretch) :
    stretch = stretchFrame call reply pixels := by
  unfold captureBitblt at h
  generalize requestFrame token bitblt.frame connection = requested at hframe h
  obtain ⟨kept, frame⟩ := requested
  obtain rfl : frame = some (reply, pixels) := hframe
  simp only at h
  split at h
  · cases h
  · exact (Option.some.inj h).symm

/-- A frame that `request_frame` accepts has the size that its header claims if and only
if that size is a 32-bit number. -/
theorem requested_frame_exact_iff {token : List UInt8} {env : FrameCallEnv D}
    {connection : Option (CaptureConnection D)} {reply : CaptureReply} {pixels : List UInt8}
    (h : (requestFrame token env connection).2 = some (reply, pixels)) :
    FrameExact token env connection reply pixels ↔
      4 * reply.width.toNat * reply.height.toNat < 2 ^ 32 := by
  obtain ⟨haccepted, hlength⟩ := requestFrame_sized h
  unfold frameReplyAccepted at haccepted
  simp only [Bool.and_eq_true, bne_iff_ne, beq_iff_eq, decide_eq_true_eq] at haccepted
  obtain ⟨⟨⟨⟨⟨-, hwidth⟩, hheight⟩, hstride⟩, hpayload⟩, hlimit⟩ := haccepted
  have hwidthPos : 0 < reply.width.toNat :=
    Nat.pos_of_ne_zero fun hzero => hwidth (UInt32.toNat_inj.mp hzero)
  have hheightPos : 0 < reply.height.toNat :=
    Nat.pos_of_ne_zero fun hzero => hheight (UInt32.toNat_inj.mp hzero)
  have hbound : reply.payloadSize.toNat ≤ 268435456 := hlimit
  constructor
  · intro hexact
    rw [← hexact.length_eq, hlength]
    omega
  · intro hsmall
    have hrow : reply.width.toNat * 4 ≤ 4 * reply.width.toNat * reply.height.toNat := by
      rw [Nat.mul_comm reply.width.toNat]
      exact Nat.le_mul_of_pos_right _ hheightPos
    have hstrideEq : reply.stride.toNat = reply.width.toNat * 4 := by
      rw [hstride]
      exact toNat_mul_eq rfl rfl (by omega)
    have hpayloadEq : reply.payloadSize.toNat = 4 * reply.width.toNat * reply.height.toNat := by
      rw [hpayload, Nat.mul_comm 4]
      exact toNat_mul_eq hstrideEq rfl (by rw [Nat.mul_comm reply.width.toNat]; exact hsmall)
    have hheightLe : reply.height.toNat ≤ 4 * reply.width.toNat * reply.height.toNat :=
      Nat.le_mul_of_pos_left _ (by omega)
    have hlengthEq := hlength.trans hpayloadEq
    refine ⟨by omega, hlengthEq, hwidthPos, by omega, hheightPos, by omega, ?_⟩
    rintro bitblt call stretch rfl hstretch
    rw [captureBitblt_stretch h hstretch]
    exact stretchFrame_readsInside call hlengthEq hwidthPos (by omega) hheightPos (by omega)

end BitBlt

/-- A reply whose header is on the stream already, with as many bytes as it announces. -/
def repliedConnection (reply : CaptureReply) : Option (CaptureConnection Unit) :=
  some { helper := .ended, inbound := reply.encode ++ List.replicate reply.payloadSize.toNat 0 }

/-- The reply with a frame of one pixel. -/
def pixelReply : CaptureReply where
  magic := captureMagic
  type := captureReply
  protocolVersion := captureProtocolVersion
  status := 0
  width := 1
  height := 1
  stride := 4
  payloadSize := 4

/-- The call of `request_frame` with an open connection. -/
def openFrameCall : FrameCallEnv Unit where
  connect := { server := openServer }

theorem pixel_frame_exact :
    FrameExact [] openFrameCall (repliedConnection pixelReply) pixelReply [0, 0, 0, 0] :=
  (requested_frame_exact_iff (by decide)).mpr (by decide)

/-- The reply with a width of `2 ^ 30 + 1`, whose stride wraps to four bytes. -/
def wideReply : CaptureReply := { pixelReply with width := 1073741825 }

theorem wide_frame_not_exact :
    ¬∀ (token : List UInt8) (env : FrameCallEnv Unit)
      (connection : Option (CaptureConnection Unit)) (reply : CaptureReply) (pixels : List UInt8),
      (requestFrame token env connection).2 = some (reply, pixels) →
        FrameExact token env connection reply pixels := by
  intro hall
  have hexact := hall [] openFrameCall (repliedConnection wideReply) wideReply [0, 0, 0, 0]
    (by decide)
  exact absurd hexact.stride_eq (by decide)

end UuAmfBridge
