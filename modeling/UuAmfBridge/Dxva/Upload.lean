import UuAmfBridge.Lib.FixedWidth
import UuAmfBridge.Dxva.Decoder

/-!
# A decoded frame on its way to the texture

`decoder_packet` in the helper packs a host frame into an NV12 image without gaps,
from NV12 planes or from the three planes of YUV420P.  `upload_nv12` of
`src/dxva_bridge.c` hands that image to Direct3D: as it is when the texture has the
size of the frame, in the upper left corner of a black image when the texture is
larger, and scaled down when the frame does not fit.

A `Picture` is what a frame shows, and `HostFrame` says that a host frame shows it, in
one of the two layouts.  `textureByte` is the image of a texture with the picture in
its corner.

* `packed_frame`: the packed image holds the picture.
* `padded_copies`: the copies into a larger texture leave the picture in its corner.
* `decoded_frame_reaches_texture`: from the host frame to the texture.
-/

namespace UuAmfBridge

/-! ## `upload_nv12` -/

/-- What Direct3D and `realloc` answer in `upload_nv12`. -/
structure UploadEnv where
  queryInterface : Int32 := 0
  desc : TextureDesc
  realloc : Bool := true

/-- A call of `ID3D11DeviceContext_UpdateSubresource`. -/
structure UpdateSubresource where
  subresource : UInt32
  /-- The memory behind the data pointer. -/
  data : Nat → UInt8
  rowPitch : UInt32
  depthPitch : UInt32

/-- What `upload_nv12` returns, and the texture update it has made. -/
structure Upload where
  result : Int32
  decoder : BridgeDecoder
  update : Option UpdateSubresource := none

/-- The width and the height that fit into the texture, before they are made even. -/
def fittedSize (width height : UInt32) (desc : TextureDesc) : UInt32 × UInt32 :=
  let narrowed : UInt32 × UInt32 :=
    if width > desc.width then
      (desc.width, (height.toUInt64 * desc.width.toUInt64 / width.toUInt64).toUInt32)
    else (width, height)
  if narrowed.2 > desc.height then
    ((width.toUInt64 * desc.height.toUInt64 / height.toUInt64).toUInt32, desc.height)
  else narrowed

/-- `output_width` and `output_height`. -/
def outputSize (width height : UInt32) (desc : TextureDesc) : UInt32 × UInt32 :=
  let fitted := fittedSize width height desc
  (fitted.1 &&& ~~~1, fitted.2 &&& ~~~1)

/-- `upload_size`. -/
def uploadSize (desc : TextureDesc) : UInt64 := desc.width.toUInt64 * desc.height.toUInt64 * 3 / 2

/-- The two loops of `upload_nv12` that copy the rows into a larger texture. -/
def paddedCopies (width height : UInt32) (desc : TextureDesc) : List MemCopy :=
  stridedCopies 0 desc.width.toNat 0 width.toNat width.toNat height.toNat ++
    (List.range (height / 2).toNat).map fun y =>
      { dst := (desc.height + UInt32.ofNat y).toNat * desc.width.toNat
        src := width.toNat * height.toNat + y * width.toNat
        count := width.toNat }

/-- Column `x` of the source in the fixed-point steps of `upload_nv12`. -/
def scaledColumn (step : UInt64) (x : Nat) : Nat := ((UInt64.ofNat x * step) >>> 32).toNat

/-- The two loops of `upload_nv12` that scale the frame down, byte by byte. -/
def scaledCopies (width height : UInt32) (desc : TextureDesc) : List MemCopy :=
  let (outputWidth, outputHeight) := outputSize width height desc
  let sourcePairs := width / 2
  let outputPairs := outputWidth / 2
  let lumaStep := (width.toUInt64 <<< 32) / outputWidth.toUInt64
  let chromaStep := (sourcePairs.toUInt64 <<< 32) / outputPairs.toUInt64
  let luma := (List.range outputHeight.toNat).flatMap fun y =>
    let source := (UInt64.ofNat y * height.toUInt64 / outputHeight.toUInt64).toNat * width.toNat
    (List.range outputWidth.toNat).map fun x =>
      { dst := y * desc.width.toNat + x, src := source + scaledColumn lumaStep x, count := 1 }
  let chroma := (List.range (outputHeight / 2).toNat).flatMap fun y =>
    let source := width.toNat * height.toNat +
      (UInt64.ofNat y * (height / 2).toUInt64 / (outputHeight / 2).toUInt64).toNat * width.toNat
    let target := (desc.height + UInt32.ofNat y).toNat * desc.width.toNat
    (List.range outputPairs.toNat).flatMap fun x =>
      let sourcePair := scaledColumn chromaStep x
      [⟨target + x * 2, source + sourcePair * 2, 1⟩,
        ⟨target + x * 2 + 1, source + sourcePair * 2 + 1, 1⟩]
  luma ++ chroma

/-- The upload buffer of `upload_nv12` behind its `memset`, unless the buffer cannot be
made large enough. -/
def clearedUpload (env : UploadEnv) (decoder : BridgeDecoder) : Option BridgeDecoder :=
  let size := uploadSize env.desc
  if size > 4294967295 then none
  else if size > decoder.uploadCapacity.toUInt64 ∧ env.realloc = false then none
  else some { decoder with
    upload := fun i => if i < size.toNat then 0 else decoder.upload i
    uploadCapacity := if size > decoder.uploadCapacity.toUInt64 then size.toUInt32
      else decoder.uploadCapacity }

/-- `upload_nv12`. -/
def uploadNv12 (env : UploadEnv) (decoder : BridgeDecoder) (data : Nat → UInt8)
    (width height : UInt32) : Upload :=
  match decoder.output with
  | none => { result := eFail, decoder }
  | some view =>
      let desc := env.desc
      let output := outputSize width height desc
      let update (memory : Nat → UInt8) : UpdateSubresource :=
        { subresource := view.arraySlice
          data := memory
          rowPitch := desc.width
          depthPitch := desc.width * desc.height }
      if !view.ours then { result := eFail, decoder }
      else if hrFailed env.queryInterface then { result := env.queryInterface, decoder }
      else if !desc.nv12 ∨ width = 0 ∨ height = 0 ∨ desc.width = 0 ∨ desc.height = 0 then
        { result := eInvalidarg, decoder }
      else if output.1 = 0 ∨ output.2 = 0 then { result := eInvalidarg, decoder }
      else if output = (width, height) ∧ width = desc.width ∧ height = desc.height then
        { result := sOk, decoder, update := some (update data) }
      else
        match clearedUpload env decoder with
        | none => { result := eOutofmemory, decoder }
        | some cleared =>
            let copies := if output = (width, height) then paddedCopies width height desc
              else scaledCopies width height desc
            let upload := copyAll copies data cleared.upload
            { result := sOk, decoder := { cleared with upload }, update := some (update upload) }

/-- The size check of `context_end_frame`. -/
def frameSizeAccepted (width height payloadSize : UInt32) : Bool :=
  decide (width.toUInt64 * height.toUInt64 * 3 / 2 = payloadSize.toUInt64) &&
    decide (payloadSize ≤ 128 * 1024 * 1024)

/-! ## Pictures -/

/-- What an NV12 frame shows: a luma value for each pixel, and a pair of chroma values
for each square of four. -/
structure Picture where
  luma : Nat → Nat → UInt8
  chroma : Nat → Nat → UInt8 × UInt8

/-- The chroma planes of a host frame show the picture. -/
inductive HostChroma (host : AVFrame) (picture : Picture) (width height : Nat) : Prop where
  | nv12 (format_eq : host.format = .nv12) (pitch_ge : (width : Int) ≤ host.linesize 1)
      (chroma_eq : ∀ i < width / 2, ∀ j < height / 2,
        (host.data 1 (j * (host.linesize 1).toNat + i * 2),
          host.data 1 (j * (host.linesize 1).toNat + (i * 2 + 1))) = picture.chroma i j)
  | yuv420p (format_eq : host.format = .yuv420p)
      (pitch_ge : (width / 2 : Nat) ≤ host.linesize 1 ∧ (width / 2 : Nat) ≤ host.linesize 2)
      (chroma_eq : ∀ i < width / 2, ∀ j < height / 2,
        (host.data 1 (j * (host.linesize 1).toNat + i),
          host.data 2 (j * (host.linesize 2).toNat + i)) = picture.chroma i j)

/-- A host frame of an even size that shows the picture, in either layout, with rows at
least as long as the picture. -/
structure HostFrame (host : AVFrame) (picture : Picture) (width height : Nat) : Prop where
  width_eq : host.width = width
  height_eq : host.height = height
  width_pos : 0 < width
  height_pos : 0 < height
  width_even : width % 2 = 0
  height_even : height % 2 = 0
  size_le : width * height * 3 / 2 ≤ 128 * 1024 * 1024
  luma_pitch : (width : Int) ≤ host.linesize 0
  luma_eq : ∀ x < width, ∀ y < height,
    host.data 0 (y * (host.linesize 0).toNat + x) = picture.luma x y
  chroma : HostChroma host picture width height

/-- Byte `k` of an NV12 image of `targetWidth` by `targetHeight` with the picture in its
upper left corner and zeros around it. -/
def textureByte (picture : Picture) (width height targetWidth targetHeight k : Nat) : UInt8 :=
  let x := k % targetWidth
  let y := k / targetWidth
  if y < targetHeight then
    if x < width ∧ y < height then picture.luma x y else 0
  else if x < width ∧ y - targetHeight < height / 2 then
    let pair := picture.chroma (x / 2) (y - targetHeight)
    if x % 2 = 0 then pair.1 else pair.2
  else 0

section Image

variable {picture : Picture} {width height targetWidth targetHeight x y : Nat}

theorem row_mod (hx : x < targetWidth) : (y * targetWidth + x) % targetWidth = x := by
  rw [Nat.mul_comm, Nat.mul_add_mod, Nat.mod_eq_of_lt hx]

theorem row_div (hx : x < targetWidth) : (y * targetWidth + x) / targetWidth = y := by
  rw [Nat.mul_comm, Nat.mul_add_div (by omega), Nat.div_eq_of_lt hx, Nat.add_zero]

/-- A byte of a luma row. -/
theorem textureByte_luma (hx : x < targetWidth) (hy : y < targetHeight) :
    textureByte picture width height targetWidth targetHeight (y * targetWidth + x) =
      if x < width ∧ y < height then picture.luma x y else 0 := by
  unfold textureByte
  simp only [row_mod hx, row_div hx]
  rw [if_pos hy]

/-- A byte of a chroma row. -/
theorem textureByte_chroma (hx : x < targetWidth) :
    textureByte picture width height targetWidth targetHeight
        ((targetHeight + y) * targetWidth + x) =
      if x < width ∧ y < height / 2 then
        if x % 2 = 0 then (picture.chroma (x / 2) y).1 else (picture.chroma (x / 2) y).2
      else 0 := by
  unfold textureByte
  simp only [row_mod hx, row_div hx]
  rw [if_neg (by omega), Nat.add_sub_cancel_left]

/-- The size of an image of an even height is a whole number of rows. -/
theorem imageSize_eq (heven : targetHeight % 2 = 0) :
    targetWidth * targetHeight * 3 / 2 = (targetHeight + targetHeight / 2) * targetWidth := by
  obtain ⟨half, rfl⟩ : ∃ half, targetHeight = 2 * half := ⟨targetHeight / 2, by omega⟩
  have hsize : targetWidth * (2 * half) * 3 = 2 * (3 * half * targetWidth) := by ring
  have hhalf : 2 * half + 2 * half / 2 = 3 * half := by omega
  rw [hsize, Nat.mul_div_cancel_left _ (by decide), hhalf]

/-- A byte of an image is in a luma row or in a chroma row. -/
theorem image_rows {size k : Nat} (heven : targetHeight % 2 = 0)
    (hsize : size = targetWidth * targetHeight * 3 / 2) (hk : k < size) :
    ∃ x < targetWidth, (∃ y < targetHeight, k = y * targetWidth + x) ∨
      ∃ y < targetHeight / 2, k = (targetHeight + y) * targetWidth + x := by
  rw [imageSize_eq heven] at hsize
  have hpos : 0 < targetWidth := by
    rcases Nat.eq_zero_or_pos targetWidth with hzero | hpos
    · rw [hzero, Nat.mul_zero] at hsize
      omega
    · exact hpos
  have hrow : k / targetWidth < targetHeight + targetHeight / 2 :=
    Nat.div_lt_of_lt_mul (by rw [Nat.mul_comm]; omega)
  have hsplit : k = k / targetWidth * targetWidth + k % targetWidth := by
    rw [Nat.mul_comm]
    exact (Nat.div_add_mod k targetWidth).symm
  refine ⟨k % targetWidth, Nat.mod_lt k hpos, ?_⟩
  by_cases hluma : k / targetWidth < targetHeight
  · exact Or.inl ⟨k / targetWidth, hluma, hsplit⟩
  · right
    refine ⟨k / targetWidth - targetHeight, by omega, ?_⟩
    rw [Nat.add_sub_cancel' (by omega)]
    exact hsplit

end Image

/-! ## The packed image -/

namespace HostFrame

variable {host : AVFrame} {picture : Picture} {width height : Nat}
  (h : HostFrame host picture width height)

include h

/-- The luma loop of `decoder_packet` stores the luma rows. -/
theorem luma_packed (fill : Nat → UInt8) {x y : Nat} (hx : x < width) (hy : y < height) :
    copyAll (outputLumaCopies host) (host.data 0) fill (y * width + x) =
      textureByte picture width height width height (y * width + x) := by
  rw [textureByte_luma hx hy, if_pos ⟨hx, hy⟩, ← h.luma_eq x hx y hy]
  unfold outputLumaCopies
  rw [h.width_eq, h.height_eq, Int.toNat_natCast, Int.toNat_natCast,
    copyAll_stridedCopies_zero _ _ le_rfl hx hy, Nat.zero_add]

/-- The chroma loop for an NV12 frame stores the chroma rows behind the luma rows, and
keeps those. -/
theorem nv12Chroma_packed {luma : Nat → UInt8} {k : Nat}
    (hchroma : ∀ i < width / 2, ∀ j < height / 2,
      (host.data 1 (j * (host.linesize 1).toNat + i * 2),
        host.data 1 (j * (host.linesize 1).toNat + (i * 2 + 1))) = picture.chroma i j)
    (hk : luma k = textureByte picture width height width height k ∨
      ∃ x < width, ∃ y < height / 2, k = (height + y) * width + x) :
    copyAll (outputChromaCopies host) (host.data 1) luma k =
      textureByte picture width height width height k := by
  have hrows : ((height : Int) / 2).toNat = height / 2 := Int.toNat_natCast (height / 2)
  have heven := h.width_even
  have hbase : ∀ y, width * height + y * width = (height + y) * width := by
    intro y
    ring
  unfold outputChromaCopies
  rw [h.width_eq, h.height_eq, hrows, Int.toNat_natCast, Int.toNat_natCast]
  apply copyAll_eq
  · intro copy hcopy x hx
    obtain ⟨y, hy, rfl⟩ := mem_stridedCopies.mp hcopy
    have hx' : x < width := hx
    have hpair := hchroma (x / 2) (by omega) y hy
    show host.data 1 (0 + y * (host.linesize 1).toNat + x) =
      textureByte picture width height width height (width * height + y * width + x)
    rw [hbase, textureByte_chroma hx', if_pos ⟨hx', hy⟩, ← hpair, Nat.zero_add]
    by_cases hfirst : x % 2 = 0
    · rw [if_pos hfirst, show x / 2 * 2 = x by omega]
    · rw [if_neg hfirst, show x / 2 * 2 + 1 = x by omega]
  · rcases hk with hk | ⟨x, hx, y, hy, rfl⟩
    · exact Or.inl hk
    · refine Or.inr ⟨_, mem_stridedCopies.mpr ⟨y, hy, rfl⟩, ?_, ?_⟩
      · simp only
        rw [hbase]
        omega
      · simp only
        rw [hbase]
        omega

/-- The chroma loop for a planar frame stores the same rows, one pair at a time. -/
theorem planarChroma_packed {luma : Nat → UInt8} {k : Nat}
    (hchroma : ∀ i < width / 2, ∀ j < height / 2,
      (host.data 1 (j * (host.linesize 1).toNat + i),
        host.data 2 (j * (host.linesize 2).toNat + i)) = picture.chroma i j)
    (hk : luma k = textureByte picture width height width height k ∨
      ∃ x < width, ∃ y < height / 2, k = (height + y) * width + x) :
    writeAll (interleaveChroma host) luma k =
      textureByte picture width height width height k := by
  have hrows : ((height : Int) / 2).toNat = height / 2 := Int.toNat_natCast (height / 2)
  have hpairs : ((width : Int) / 2).toNat = width / 2 := Int.toNat_natCast (width / 2)
  have heven := h.width_even
  have hbase : ∀ y, width * height + y * width = (height + y) * width := by
    intro y
    ring
  unfold interleaveChroma
  rw [h.width_eq, h.height_eq, hrows, hpairs, Int.toNat_natCast, Int.toNat_natCast]
  apply writeAll_eq
  · intro write hwrite
    simp only [List.mem_flatMap, List.mem_range, List.mem_cons, List.not_mem_nil,
      or_false] at hwrite
    obtain ⟨y, hy, x, hx, hwrite⟩ := hwrite
    have hpair := hchroma x hx y hy
    rcases hwrite with rfl | rfl
    · simp only
      rw [hbase, textureByte_chroma (by omega), if_pos ⟨by omega, hy⟩, if_pos (by omega),
        Nat.mul_div_cancel _ (by decide), ← hpair]
    · simp only
      rw [hbase, Nat.add_assoc, textureByte_chroma (by omega), if_pos ⟨by omega, hy⟩,
        if_neg (by omega), show (x * 2 + 1) / 2 = x by omega, ← hpair]
  · rcases hk with hk | ⟨x, hx, y, hy, rfl⟩
    · exact Or.inl hk
    · right
      simp only [List.mem_flatMap, List.mem_range, List.mem_cons, List.not_mem_nil, or_false]
      by_cases hfirst : x % 2 = 0
      · refine ⟨_, ⟨y, hy, x / 2, by omega, Or.inl rfl⟩, ?_⟩
        simp only
        rw [hbase]
        omega
      · refine ⟨_, ⟨y, hy, x / 2, by omega, Or.inr rfl⟩, ?_⟩
        simp only
        rw [hbase]
        omega

/-- Before the chroma loops a byte of the image is stored, or it is in a chroma row. -/
theorem luma_stored (fill : Nat → UInt8) {k : Nat} (hk : k < width * height * 3 / 2) :
    copyAll (outputLumaCopies host) (host.data 0) fill k =
        textureByte picture width height width height k ∨
      ∃ x < width, ∃ y < height / 2, k = (height + y) * width + x := by
  obtain ⟨x, hx, ⟨y, hy, rfl⟩ | ⟨y, hy, heq⟩⟩ := image_rows h.height_even rfl hk
  · exact Or.inl (h.luma_packed fill hx hy)
  · exact Or.inr ⟨x, hx, y, hy, heq⟩

end HostFrame

/-- The calls of `decoder_packet` succeed, and a frame comes out. -/
structure DecodeEnv.Succeeds (env : DecodeEnv) : Prop where
  packetAlloc : env.packetAlloc = true
  gpuAlloc : env.gpuAlloc = true
  hostAlloc : env.hostAlloc = true
  newPacket : ¬env.newPacket < 0
  sendPacket : ¬env.sendPacket < 0
  receiveFrame : ¬env.receiveFrame < 0
  gpuFormat : env.gpuFormat = .vulkan
  hwframeTransfer : ¬env.hwframeTransfer < 0
  outputMalloc : env.outputMalloc = true

theorem decoderPacket_of_succeeds {env : DecodeEnv} (h : env.Succeeds) (state : DecoderState)
    (data : List UInt8) :
    ∃ calls, decoderPacket env state data = packHostFrame env calls := by
  have halloc : ¬(!(env.packetAlloc && env.gpuAlloc && env.hostAlloc)) = true := by
    rw [h.packetAlloc, h.gpuAlloc, h.hostAlloc]
    decide
  have hagain : ¬(env.receiveFrame = averrorEagain ∨ env.receiveFrame = averrorEof) := by
    rintro (heq | heq)
    · exact h.receiveFrame (heq ▸ by decide)
    · exact h.receiveFrame (heq ▸ by decide)
  unfold decoderPacket
  rw [if_neg halloc, if_neg h.newPacket]
  simp only
  rw [if_neg h.sendPacket, if_neg hagain, if_neg h.receiveFrame, if_neg (not_not_intro h.gpuFormat),
    if_neg h.hwframeTransfer]
  exact ⟨_, rfl⟩

/-- A frame of `decoder_packet` with the picture: its size, and its bytes without
gaps. -/
structure PackedFrame (frame : DecoderPacket) (picture : Picture) (width height : Nat) : Prop where
  result_eq : frame.result = 0
  width_eq : frame.width.toNat = width
  height_eq : frame.height.toNat = height
  frameSize_eq : frame.frameSize.toNat = width * height * 3 / 2
  length_eq : frame.frameData.length = width * height * 3 / 2
  data_eq : ∀ k < width * height * 3 / 2,
    payloadMemory frame.frameData k = textureByte picture width height width height k

/-- `decoder_packet` packs the picture of its host frame. -/
theorem packed_frame {env : DecodeEnv} {picture : Picture} {width height : Nat}
    (hhost : HostFrame env.host picture width height) (hcalls : env.Succeeds)
    (state : DecoderState) (data : List UInt8) :
    PackedFrame (decoderPacket env state data) picture width height := by
  obtain ⟨calls, hpack⟩ := decoderPacket_of_succeeds hcalls state data
  have hsize := hhost.size_le
  have hheightPos := hhost.height_pos
  have hwidthPos := hhost.width_pos
  have hwidthLt : width < 2 ^ 32 := by
    have hle : width * 1 ≤ width * height := Nat.mul_le_mul_left width hheightPos
    omega
  have hheightLt : height < 2 ^ 32 := by
    have hle : 1 * height ≤ width * height := Nat.mul_le_mul_right height hwidthPos
    omega
  have hodd : ¬(env.host.width ≤ 0 ∨ env.host.height ≤ 0 ∨ env.host.width % 2 ≠ 0 ∨
      env.host.height % 2 ≠ 0) := by
    have hwidthEven := hhost.width_even
    have hheightEven := hhost.height_even
    rw [hhost.width_eq, hhost.height_eq]
    omega
  have hpacked : ∀ memory : Nat → UInt8,
      (∀ k < width * height * 3 / 2,
        memory k = textureByte picture width height width height k) →
      PackedFrame
        { result := 0
          frameData := (List.range (width * height * 3 / 2)).map memory
          frameSize := UInt32.ofNat (width * height * 3 / 2)
          width := UInt32.ofNat width
          height := UInt32.ofNat height
          calls } picture width height := by
    intro memory hmemory
    refine ⟨rfl, toNat_ofNat_eq hwidthLt, toNat_ofNat_eq hheightLt, toNat_ofNat_eq (by omega),
      by rw [List.length_map, List.length_range], fun k hk => ?_⟩
    show ((List.range _).map memory).getD k 0 = _
    rw [List.getD_eq_getElem?_getD, List.getElem?_map, List.getElem?_range hk]
    exact hmemory k hk
  rw [hpack]
  unfold packHostFrame
  simp only
  rw [if_neg hodd, hhost.width_eq, hhost.height_eq, Int.toNat_natCast, Int.toNat_natCast,
    if_neg (by omega), hcalls.outputMalloc, Bool.not_true, if_neg Bool.false_ne_true]
  cases hhost.chroma with
  | nv12 hformat _ hchroma =>
    rw [hformat]
    exact hpacked _ fun k hk => hhost.nv12Chroma_packed hchroma (hhost.luma_stored env.fill hk)
  | yuv420p hformat _ hchroma =>
    rw [hformat]
    exact hpacked _ fun k hk => hhost.planarChroma_packed hchroma (hhost.luma_stored env.fill hk)

/-! ## The texture -/

/-- An NV12 texture of an even size in which the picture fits; the size of a texture is
a number of 64 bits. -/
structure Nv12Target (desc : TextureDesc) (width height : Nat) : Prop where
  nv12 : desc.nv12 = true
  width_even : desc.width.toNat % 2 = 0
  height_even : desc.height.toNat % 2 = 0
  width_ge : width ≤ desc.width.toNat
  height_ge : height ≤ desc.height.toNat
  size_lt : desc.width.toNat * desc.height.toNat * 3 < 2 ^ 64

/-- A frame that fits is not scaled. -/
theorem outputSize_eq {width height : UInt32} {desc : TextureDesc}
    (hwidth : width ≤ desc.width) (hheight : height ≤ desc.height)
    (hwidthEven : width.toNat % 2 = 0) (hheightEven : height.toNat % 2 = 0) :
    outputSize width height desc = (width, height) := by
  unfold outputSize fittedSize
  simp only
  rw [if_neg (UInt32.not_lt.mpr hwidth)]
  simp only
  rw [if_neg (UInt32.not_lt.mpr hheight), and_not_one hwidthEven, and_not_one hheightEven]

/-- The size of an NV12 image in 64 bits is exact. -/
theorem nv12Size_toNat {width height : UInt32} (h : width.toNat * height.toNat * 3 < 2 ^ 64) :
    (width.toUInt64 * height.toUInt64 * 3 / 2).toNat = width.toNat * height.toNat * 3 / 2 := by
  rw [UInt64.toNat_div, UInt64.toNat_mul, UInt64.toNat_mul, UInt32.toNat_toUInt64,
    UInt32.toNat_toUInt64]
  show width.toNat * height.toNat % 2 ^ 64 * 3 % 2 ^ 64 / 2 = _
  rw [Nat.mod_eq_of_lt (show width.toNat * height.toNat < 2 ^ 64 by omega), Nat.mod_eq_of_lt h]

/-- The size check of the bridge admits a packed frame of at most 128 MiB. -/
theorem PackedFrame.accepted {frame : DecoderPacket} {picture : Picture} {width height : Nat}
    (h : PackedFrame frame picture width height)
    (hsize : width * height * 3 / 2 ≤ 128 * 1024 * 1024) :
    frameSizeAccepted frame.width frame.height frame.frameSize = true := by
  have hlimit : frame.frameSize ≤ 128 * 1024 * 1024 := by
    rw [UInt32.le_iff_toNat_le, h.frameSize_eq]
    exact hsize
  have hequation : frame.width.toUInt64 * frame.height.toUInt64 * 3 / 2 =
      frame.frameSize.toUInt64 := by
    rw [← UInt64.toNat_inj, nv12Size_toNat (by rw [h.width_eq, h.height_eq]; omega), h.width_eq,
      h.height_eq, UInt32.toNat_toUInt64, h.frameSize_eq]
  unfold frameSizeAccepted
  rw [decide_eq_true hequation, decide_eq_true hlimit]
  rfl

section Padded

variable {picture : Picture} {width height : UInt32} {desc : TextureDesc}

/-- The two loops of the padded copy are strided copies when no row number wraps. -/
theorem paddedCopies_eq (hheight : height ≤ desc.height)
    (hrows : desc.height.toNat + desc.height.toNat / 2 < 2 ^ 32) :
    paddedCopies width height desc =
      stridedCopies 0 desc.width.toNat 0 width.toNat width.toNat height.toNat ++
        stridedCopies (desc.height.toNat * desc.width.toNat) desc.width.toNat
          (height.toNat * width.toNat) width.toNat width.toNat (height.toNat / 2) := by
  have hheight' : height.toNat ≤ desc.height.toNat := hheight
  have hhalf : (height / 2).toNat = height.toNat / 2 := UInt32.toNat_div height 2
  unfold paddedCopies
  rw [hhalf, Nat.mul_comm width.toNat height.toNat]
  refine congrArg _ (List.map_congr_left fun y hy => ?_)
  rw [List.mem_range] at hy
  have hrow : (desc.height + UInt32.ofNat y).toNat = desc.height.toNat + y := by
    rw [UInt32.toNat_add, toNat_ofNat_eq (by omega)]
    exact Nat.mod_eq_of_lt (by omega)
  rw [hrow, Nat.add_mul]

/-- Byte `x` of a row of the packed image is the byte of the same row of the texture. -/
theorem padded_row {data : Nat → UInt8} (hwidth : width ≤ desc.width)
    (hheight : height ≤ desc.height) (hheightEven : height.toNat % 2 = 0)
    (hdata : ∀ k < width.toNat * height.toNat * 3 / 2,
      data k = textureByte picture width.toNat height.toNat width.toNat height.toNat k)
    {x : Nat} (hx : x < width.toNat) :
    (∀ y < height.toNat, data (y * width.toNat + x) =
        textureByte picture width.toNat height.toNat desc.width.toNat desc.height.toNat
          (y * desc.width.toNat + x)) ∧
      ∀ y < height.toNat / 2, data ((height.toNat + y) * width.toNat + x) =
        textureByte picture width.toNat height.toNat desc.width.toNat desc.height.toNat
          ((desc.height.toNat + y) * desc.width.toNat + x) := by
  have hwidth' : width.toNat ≤ desc.width.toNat := hwidth
  have hheight' : height.toNat ≤ desc.height.toNat := hheight
  have hsize := @imageSize_eq width.toNat _ hheightEven
  have hinside : ∀ row < height.toNat + height.toNat / 2,
      row * width.toNat + x < width.toNat * height.toNat * 3 / 2 := by
    intro row hrow
    have hle : (row + 1) * width.toNat ≤ (height.toNat + height.toNat / 2) * width.toNat :=
      Nat.mul_le_mul_right width.toNat hrow
    rw [Nat.add_mul row] at hle
    omega
  constructor
  · intro y hy
    rw [hdata _ (hinside y (by omega)), textureByte_luma hx hy,
      textureByte_luma (by omega) (by omega)]
  · intro y hy
    rw [hdata _ (hinside _ (by omega)), textureByte_chroma hx, textureByte_chroma (by omega)]

/-- The copies into a larger texture leave the picture in its corner. -/
theorem padded_copies {data cleared : Nat → UInt8} (hwidth : width ≤ desc.width)
    (hheight : height ≤ desc.height) (hheightEven : height.toNat % 2 = 0)
    (htargetEven : desc.height.toNat % 2 = 0)
    (hrows : desc.height.toNat + desc.height.toNat / 2 < 2 ^ 32)
    (hdata : ∀ k < width.toNat * height.toNat * 3 / 2,
      data k = textureByte picture width.toNat height.toNat width.toNat height.toNat k)
    (hcleared : ∀ k < desc.width.toNat * desc.height.toNat * 3 / 2, cleared k = 0) :
    ∀ k < desc.width.toNat * desc.height.toNat * 3 / 2,
      copyAll (paddedCopies width height desc) data cleared k =
        textureByte picture width.toNat height.toNat desc.width.toNat desc.height.toNat k := by
  intro k hk
  rw [paddedCopies_eq hheight hrows]
  apply copyAll_eq
  · intro copy hcopy x hx
    rcases List.mem_append.mp hcopy with hluma | hchroma
    · obtain ⟨y, hy, rfl⟩ := mem_stridedCopies.mp hluma
      have hrow := (padded_row hwidth hheight hheightEven hdata hx).1 y hy
      simp only [Nat.zero_add]
      exact hrow
    · obtain ⟨y, hy, rfl⟩ := mem_stridedCopies.mp hchroma
      have hrow := (padded_row hwidth hheight hheightEven hdata hx).2 y hy
      simp only [← Nat.add_mul]
      exact hrow
  · -- A byte that is not copied is zero in the texture, and was cleared.
    obtain ⟨x, hx, ⟨y, hy, rfl⟩ | ⟨y, hy, rfl⟩⟩ := image_rows htargetEven rfl hk
    · by_cases hinside : x < width.toNat ∧ y < height.toNat
      · right
        refine ⟨_, List.mem_append_left _ (mem_stridedCopies.mpr ⟨y, hinside.2, rfl⟩), ?_⟩
        simp only
        omega
      · left
        rw [textureByte_luma hx hy, if_neg hinside, hcleared _ hk]
    · by_cases hinside : x < width.toNat ∧ y < height.toNat / 2
      · right
        refine ⟨_, List.mem_append_right _ (mem_stridedCopies.mpr ⟨y, hinside.2, rfl⟩), ?_⟩
        simp only [← Nat.add_mul]
        omega
      · left
        rw [textureByte_chroma hx, if_neg hinside, hcleared _ hk]

end Padded

/-- The upload buffer is cleared up to the size of the texture, unless that size is no
`UINT` or the buffer cannot grow. -/
theorem clearedUpload_cases (env : UploadEnv) (decoder : BridgeDecoder) :
    (clearedUpload env decoder = none ∧ (2 ^ 32 ≤ (uploadSize env.desc).toNat ∨
        (env.realloc = false ∧ decoder.uploadCapacity.toNat < (uploadSize env.desc).toNat))) ∨
      ((uploadSize env.desc).toNat < 2 ^ 32 ∧ ∃ cleared, clearedUpload env decoder = some cleared ∧
        ∀ k < (uploadSize env.desc).toNat, cleared.upload k = 0) := by
  unfold clearedUpload
  simp only
  by_cases hlarge : uploadSize env.desc > 4294967295
  · rw [if_pos hlarge]
    have hlarge' : 4294967295 < (uploadSize env.desc).toNat := hlarge
    exact Or.inl ⟨rfl, Or.inl (by omega)⟩
  · rw [if_neg hlarge]
    have hlarge' : ¬4294967295 < (uploadSize env.desc).toNat := hlarge
    by_cases hgrow : uploadSize env.desc > decoder.uploadCapacity.toUInt64 ∧ env.realloc = false
    · rw [if_pos hgrow]
      have hless : decoder.uploadCapacity.toUInt64.toNat < (uploadSize env.desc).toNat := hgrow.1
      rw [UInt32.toNat_toUInt64] at hless
      exact Or.inl ⟨rfl, Or.inr ⟨hgrow.2, hless⟩⟩
    · rw [if_neg hgrow]
      refine Or.inr ⟨by omega, _, rfl, fun k hk => ?_⟩
      exact if_pos hk

/-- The rows of both planes are counted in 32 bits where the image has a 32-bit size. -/
theorem Nv12Target.rows_lt {desc : TextureDesc} {width height : Nat}
    (htarget : Nv12Target desc width height) (hwidth : 0 < width)
    (hsmall : (uploadSize desc).toNat < 2 ^ 32) :
    desc.height.toNat + desc.height.toNat / 2 < 2 ^ 32 := by
  have hwidthGe := htarget.width_ge
  have hexact : (uploadSize desc).toNat = desc.width.toNat * desc.height.toNat * 3 / 2 :=
    nv12Size_toNat htarget.size_lt
  have hone := Nat.mul_le_mul_left (desc.height.toNat + desc.height.toNat / 2)
    (show 1 ≤ desc.width.toNat by omega)
  rw [hexact, imageSize_eq htarget.height_even] at hsmall
  omega

/-- A decoded frame with the picture reaches the texture: it passes the size check, and
the image that is handed to Direct3D has the picture in its upper left corner and zeros
around it. -/
structure ReachesTexture (frame : DecoderPacket) (upload : UploadEnv) (decoder : BridgeDecoder)
    (picture : Picture) (width height : Nat) : Prop where
  decoded : frame.result = 0
  accepted : frameSizeAccepted frame.width frame.height frame.frameSize = true
  handed : ∀ update,
    (uploadNv12 upload decoder decoder.frame frame.width frame.height).update = some update →
      update.rowPitch = upload.desc.width ∧
        ∀ k < upload.desc.width.toNat * upload.desc.height.toNat * 3 / 2,
          update.data k = textureByte picture width height upload.desc.width.toNat
            upload.desc.height.toNat k
  /-- Nothing is handed over only when a larger texture needs a buffer that is not
  there. -/
  refused : (uploadNv12 upload decoder decoder.frame frame.width frame.height).update = none →
    (width ≠ upload.desc.width.toNat ∨ height ≠ upload.desc.height.toNat) ∧
      (2 ^ 32 ≤ upload.desc.width.toNat * upload.desc.height.toNat * 3 / 2 ∨
        (upload.realloc = false ∧ decoder.uploadCapacity.toNat <
          upload.desc.width.toNat * upload.desc.height.toNat * 3 / 2))

/-- `upload_nv12` with a frame that fits into an NV12 texture. -/
theorem uploadNv12_eq {width height : UInt32} {upload : UploadEnv} {decoder : BridgeDecoder}
    {view : BridgeOutputView} (hview : decoder.output = some view) (hours : view.ours = true)
    (hquery : hrFailed upload.queryInterface = false)
    (htarget : Nv12Target upload.desc width.toNat height.toNat)
    (hwidthPos : 0 < width.toNat) (hheightPos : 0 < height.toNat)
    (hwidthEven : width.toNat % 2 = 0) (hheightEven : height.toNat % 2 = 0)
    (data : Nat → UInt8) :
    uploadNv12 upload decoder data width height =
      let update (memory : Nat → UInt8) : UpdateSubresource :=
        { subresource := view.arraySlice
          data := memory
          rowPitch := upload.desc.width
          depthPitch := upload.desc.width * upload.desc.height }
      if width = upload.desc.width ∧ height = upload.desc.height then
        { result := sOk, decoder, update := some (update data) }
      else
        match clearedUpload upload decoder with
        | none => { result := eOutofmemory, decoder }
        | some cleared =>
            let upload := copyAll (paddedCopies width height upload.desc) data cleared.upload
            { result := sOk, decoder := { cleared with upload }
              update := some (update upload) } := by
  have hpositive : ∀ {value : UInt32}, 0 < value.toNat → value ≠ 0 := by
    rintro value hpos rfl
    exact absurd hpos (by decide)
  have hoverlap : ¬(!upload.desc.nv12 ∨ width = 0 ∨ height = 0 ∨ upload.desc.width = 0 ∨
      upload.desc.height = 0) := by
    have hwidthGe := htarget.width_ge
    have hheightGe := htarget.height_ge
    rw [htarget.nv12]
    rintro (hnv12 | hzero | hzero | hzero | hzero)
    · cases hnv12
    · exact hpositive hwidthPos hzero
    · exact hpositive hheightPos hzero
    · exact hpositive (by omega) hzero
    · exact hpositive (by omega) hzero
  unfold uploadNv12
  rw [hview]
  simp only
  rw [outputSize_eq htarget.width_ge htarget.height_ge hwidthEven hheightEven, hours, hquery,
    if_neg (by decide), if_neg (by decide), if_neg hoverlap,
    if_neg (not_or.mpr ⟨hpositive hwidthPos, hpositive hheightPos⟩)]
  simp only [true_and, if_true]

/-- Every picture that fits reaches the texture, from either layout of the host frame.
The image that is handed over depends on the picture and the sizes only, so it is the
same for both layouts. -/
theorem decoded_frame_reaches_texture {env : DecodeEnv} {picture : Picture} {width height : Nat}
    (hhost : HostFrame env.host picture width height) (hcalls : env.Succeeds)
    (state : DecoderState) (packet : List UInt8) {upload : UploadEnv}
    (htarget : Nv12Target upload.desc width height)
    (hquery : hrFailed upload.queryInterface = false) {decoder : BridgeDecoder}
    {view : BridgeOutputView} (hview : decoder.output = some view) (hours : view.ours = true)
    (hframe : ∀ k < (decoderPacket env state packet).frameData.length,
      decoder.frame k = payloadMemory (decoderPacket env state packet).frameData k) :
    ReachesTexture (decoderPacket env state packet) upload decoder picture width height := by
  have hpacked := packed_frame hhost hcalls state packet
  generalize decoderPacket env state packet = frame at hpacked hframe ⊢
  have hsize := hhost.size_le
  have hwidthEq := hpacked.width_eq
  have hheightEq := hpacked.height_eq
  have hdata : ∀ k < frame.width.toNat * frame.height.toNat * 3 / 2,
      decoder.frame k = textureByte picture frame.width.toNat frame.height.toNat
        frame.width.toNat frame.height.toNat k := by
    intro k hk
    rw [hwidthEq, hheightEq] at hk ⊢
    rw [hframe k (by rw [hpacked.length_eq]; exact hk), hpacked.data_eq k hk]
  have hupload := @uploadNv12_eq frame.width frame.height upload decoder view hview hours hquery
    (by rwa [hwidthEq, hheightEq]) (by rw [hwidthEq]; exact hhost.width_pos)
    (by rw [hheightEq]; exact hhost.height_pos) (by rw [hwidthEq]; exact hhost.width_even)
    (by rw [hheightEq]; exact hhost.height_even) decoder.frame
  have hexact : (uploadSize upload.desc).toNat =
      upload.desc.width.toNat * upload.desc.height.toNat * 3 / 2 := nv12Size_toNat htarget.size_lt
  have hsame : frame.width = upload.desc.width ∧ frame.height = upload.desc.height ↔
      width = upload.desc.width.toNat ∧ height = upload.desc.height.toNat := by
    rw [← UInt32.toNat_inj, ← UInt32.toNat_inj, hwidthEq, hheightEq]
  constructor
  · exact hpacked.result_eq
  · exact hpacked.accepted hsize
  · intro update hupdate
    rw [hupload] at hupdate
    by_cases hequal : frame.width = upload.desc.width ∧ frame.height = upload.desc.height
    · rw [if_pos hequal] at hupdate
      obtain rfl := Option.some.inj hupdate
      refine ⟨rfl, fun k hk => ?_⟩
      show decoder.frame k = _
      rw [← hequal.1, ← hequal.2] at hk ⊢
      rw [hdata k hk, hwidthEq, hheightEq]
    · rw [if_neg hequal] at hupdate
      rcases clearedUpload_cases upload decoder with ⟨hnone, -⟩ | ⟨hsmall, cleared, hsome, hzero⟩
      · rw [hnone] at hupdate
        cases hupdate
      · rw [hsome] at hupdate
        obtain rfl := Option.some.inj hupdate
        refine ⟨rfl, fun k hk => ?_⟩
        have hrows := htarget.rows_lt hhost.width_pos hsmall
        rw [hexact] at hzero
        have hcopied := @padded_copies picture frame.width frame.height upload.desc decoder.frame
          cleared.upload (by rw [UInt32.le_iff_toNat_le, hwidthEq]; exact htarget.width_ge)
          (by rw [UInt32.le_iff_toNat_le, hheightEq]; exact htarget.height_ge)
          (by rw [hheightEq]; exact hhost.height_even) htarget.height_even hrows hdata hzero k hk
        rw [hwidthEq, hheightEq] at hcopied
        exact hcopied
  · intro hnone
    rw [hupload] at hnone
    by_cases hequal : frame.width = upload.desc.width ∧ frame.height = upload.desc.height
    · rw [if_pos hequal] at hnone
      cases hnone
    · rw [if_neg hequal] at hnone
      rw [hsame, not_and_or] at hequal
      refine ⟨hequal, ?_⟩
      rcases clearedUpload_cases upload decoder with ⟨-, hreason⟩ | ⟨-, cleared, hsome, -⟩
      · rwa [hexact] at hreason
      · rw [hsome] at hnone
        cases hnone

/-! ## Four pixels in a larger texture -/

/-- A planar frame of two by two pixels, with rows of four and two bytes. -/
def planarHost : AVFrame where
  format := .yuv420p
  width := 2
  height := 2
  linesize := fun plane => if plane.val = 0 then 4 else 2
  data := fun plane k => UInt8.ofNat (16 * (plane + 1) + k)

/-- What it shows. -/
def planarPicture : Picture where
  luma x y := UInt8.ofNat (16 + (y * 4 + x))
  chroma i j := (UInt8.ofNat (32 + (j * 2 + i)), UInt8.ofNat (48 + (j * 2 + i)))

/-- The answers of FFmpeg when it decodes the frame. -/
def planarEnv : DecodeEnv where
  receiveFrame := 0
  host := planarHost

/-- A decoder that has read the frame. -/
def planarDecoder : BridgeDecoder where
  desc := ⟨2, 2⟩
  output := some {}
  frame := payloadMemory (decoderPacket planarEnv {} []).frameData
  frameCapacity := 6

/-- The frame reaches a texture of four by four. -/
theorem planar_frame_reaches_texture :
    ReachesTexture (decoderPacket planarEnv {} []) { desc := ⟨true, 4, 4⟩ } planarDecoder
      planarPicture 2 2 :=
  decoded_frame_reaches_texture
    ⟨rfl, rfl, by decide, by decide, rfl, rfl, by decide, by decide, fun _ _ _ _ => rfl,
      .yuv420p rfl ⟨by decide, by decide⟩ fun _ _ _ _ => rfl⟩
    ⟨rfl, rfl, rfl, by decide, by decide, by decide, rfl, by decide, rfl⟩ {} []
    ⟨rfl, rfl, rfl, by decide, by decide, by decide⟩ rfl rfl rfl fun _ _ => rfl

example : ((uploadNv12 { desc := ⟨true, 4, 4⟩ } planarDecoder planarDecoder.frame 2 2).update.map
    fun update => (List.range 24).map update.data) =
      some [16, 17, 0, 0, 20, 21, 0, 0, 0, 0, 0, 0, 0, 0, 0, 0, 32, 48, 0, 0, 0, 0, 0, 0] := by
  decide

end UuAmfBridge
