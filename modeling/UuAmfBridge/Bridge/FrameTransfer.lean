import UuAmfBridge.Bridge.Component
import UuAmfBridge.Lib.FixedWidth

/-!
# An NV12 frame on its way to the encoder

`map_surface_bytes` packs the rows of a mapped texture into a payload, with
offsets in signed 32-bit arithmetic and in the unsigned arithmetic of `RowPitch`.
`encoder_frame` in the helper unpacks the payload into the rows of a host frame,
with the unsigned arithmetic of its own width and height.  The four loops are
strided copies (`mappedLumaCopies_eq` and its companions) as long as no product
wraps, and two strided copies behind each other move every byte to its place.

`Geometry` is what the session knows about the frame.  `MappedNv12` and
`HostNv12` are what Direct3D and FFmpeg promise about the memory they hand out:
rows at least as long as the picture, and an image whose size fits the integer
they report it in.

* `frameSize_toNat`: the announced size is exact.
* `frame_crosses_unchanged`: the frame arrives as it was mapped.
-/

namespace UuAmfBridge

/-! ## Geometry -/

/-- The geometry of a session with frames that the helper accepts. -/
structure Geometry (component : BridgeComponent) (width height : Nat) : Prop where
  width_eq : component.width.toInt = width
  height_eq : component.height.toInt = height
  width_even : width % 2 = 0
  height_even : height % 2 = 0
  width_ge : 128 ≤ width
  height_ge : 128 ≤ height
  size_le : width * height * 3 / 2 ≤ 128 * 1024 * 1024

/-- A mapped NV12 texture: the rows are at least as long as the picture, and the
size of the whole subresource is a `UINT`. -/
structure MappedNv12 (env : MapEnv) (width height : Nat) : Prop where
  rowPitch_ge : width ≤ env.rowPitch.toNat
  depthPitch_lt : (height + height / 2) * env.rowPitch.toNat < 2 ^ 32

/-- A host frame of `av_frame_get_buffer`: the rows are at least as long as the
picture, and the size of a plane is an `int`. -/
structure HostNv12 (env : EncodeEnv) (width height : Nat) : Prop where
  luma_ge : (width : Int) ≤ env.linesize 0
  luma_lt : height * env.linesize 0 < 2 ^ 31
  chroma_ge : (width : Int) ≤ env.linesize 1
  chroma_lt : (height / 2 : Nat) * env.linesize 1 < 2 ^ 31

/-- The encoder was initialised with the width and the height of the component. -/
structure InitialisedWith (component : BridgeComponent) (state : EncoderState) : Prop where
  width_eq : state.width = component.width.toUInt32
  height_eq : state.height = component.height.toUInt32

/-- An encoder that is opened for the first message of the component has its
geometry. -/
theorem encoderInit_initialisedWith {version : UInt32} {env : EncoderInitEnv}
    {component : BridgeComponent}
    (h : (encoderInit env (initMessage version component.properties component.width
      component.height)).1 = 0) :
    InitialisedWith component (encoderInit env (initMessage version component.properties
      component.width component.height)).2 := by
  rcases encoderInit_cases env (initMessage version component.properties component.width
    component.height) with ⟨-, -, hwidth, hheight⟩ | ⟨hfail, -⟩
  · exact ⟨hwidth, hheight⟩
  · rw [h] at hfail
    exact absurd hfail (by decide)

/-- Every frame keeps the geometry. -/
theorem encoderFrame_initialisedWith {component : BridgeComponent} {state : EncoderState}
    (h : InitialisedWith component state) (env : EncodeEnv) (payload : List UInt8)
    (message : HelperFrameMessage) :
    InitialisedWith component (encoderFrame env state payload message).state := by
  obtain ⟨-, hwidth, hheight⟩ := encoderFrame_state env state payload message
  exact ⟨hwidth.trans h.width_eq, hheight.trans h.height_eq⟩

/-! ## Products that do not wrap -/

/-- A value of `int`. -/
def FitsInt (value : Int) : Prop := -2 ^ 31 ≤ value ∧ value < 2 ^ 31

theorem intOffset_natCast {n : Nat} (h : n < 2 ^ 31) : intOffset n = n := by
  unfold intOffset
  rw [Int.bmod_eq_of_le (by omega) (by omega)]
  exact Int.toNat_natCast n

/-- Row `y` of an image ends before the image does. -/
theorem row_le {width height x y : Nat} (hx : x < width) (hy : y < height) :
    y * width + x < height * width := by
  have hrow : (y + 1) * width ≤ height * width := Nat.mul_le_mul_right width hy
  rw [Nat.add_mul] at hrow
  omega

namespace Geometry

variable {component : BridgeComponent} {width height : Nat} (h : Geometry component width height)

include h

theorem pixels_lt : width * height * 3 < 2 ^ 29 := by
  have hsize := h.size_le
  omega

theorem dimensions_lt : width < 2 ^ 29 ∧ height < 2 ^ 29 := by
  have hpixels := h.pixels_lt
  have hwidth : width * 1 ≤ width * height :=
    Nat.mul_le_mul_left width (le_trans (by decide) h.height_ge)
  have hheight : 1 * height ≤ width * height :=
    Nat.mul_le_mul_right height (le_trans (by decide) h.width_ge)
  omega

/-- The size that `component_submit` announces is exact. -/
theorem frameSize_toNat : (frameSize component).toNat = width * height * 3 / 2 := by
  have hpixels := h.pixels_lt
  have harea : (component.width * component.height).toInt = (width * height : Nat) :=
    toInt_mul_eq h.width_eq h.height_eq (by omega)
  have hscaled : (component.width * component.height * 3).toInt = (width * height * 3 : Nat) :=
    toInt_mul_eq harea rfl (by omega)
  exact toNat_toUInt32_eq (toInt_div_two_eq hscaled)

/-- The packed image is its luma rows and then its chroma rows. -/
theorem size_eq : width * height * 3 / 2 = width * height + height / 2 * width := by
  have hheight := h.height_even
  obtain ⟨half, rfl⟩ : ∃ half, height = 2 * half := ⟨height / 2, by omega⟩
  have harea : width * (2 * half) = 2 * (half * width) := by ring
  rw [harea, Nat.mul_div_cancel_left half (by decide)]
  omega

/-- The limit of the helper lets the frame pass. -/
theorem headerAccepted_frameMessage (surface : BridgeSurface) :
    headerAccepted (frameMessage component surface) = true := by
  have hsize : frameSize component ≤ maxPayload := by
    rw [UInt32.le_iff_toNat_le, h.frameSize_toNat]
    exact h.size_le
  unfold headerAccepted
  rw [show (frameMessage component surface).payloadSize = frameSize component from rfl,
    decide_eq_true hsize]
  rfl

/-- The size equation of `encoder_frame` holds. -/
theorem frameSize_eq_of_initialisedWith {state : EncoderState}
    (hstate : InitialisedWith component state) :
    frameSize component = state.width * state.height * 3 / 2 := by
  have hpixels := h.pixels_lt
  have harea : (component.width.toUInt32 * component.height.toUInt32).toNat = width * height :=
    toNat_mul_eq (toNat_toUInt32_eq h.width_eq) (toNat_toUInt32_eq h.height_eq) (by omega)
  have hscaled : (component.width.toUInt32 * component.height.toUInt32 * 3).toNat =
      width * height * 3 := toNat_mul_eq harea rfl (by omega)
  rw [← UInt32.toNat_inj, h.frameSize_toNat, hstate.width_eq, hstate.height_eq,
    UInt32.toNat_div, hscaled]
  rfl

/-- The two loops of `encoder_frame` read inside the payload. -/
theorem reads_inside {lumaPitch chromaPitch : Nat} {copy : MemCopy}
    (hcopy : copy ∈ stridedCopies 0 lumaPitch 0 width width height ∨
      copy ∈ stridedCopies 0 chromaPitch (width * height) width width (height / 2)) :
    copy.src + copy.count ≤ width * height * 3 / 2 := by
  have hheight := h.height_ge
  -- The last row of a plane ends where the plane does.
  have hlast : ∀ rows, 0 < rows → (rows - 1) * width + width = rows * width := by
    intro rows hrows
    obtain ⟨last, rfl⟩ : ∃ last, rows = last + 1 := ⟨rows - 1, by omega⟩
    rw [Nat.add_sub_cancel, Nat.add_mul, Nat.one_mul]
  rw [h.size_eq]
  rcases hcopy with hluma | hchroma
  · have hread := stridedCopies_src_le hluma
    have hend := hlast height (by omega)
    rw [Nat.mul_comm width]
    omega
  · have hread := stridedCopies_src_le hchroma
    have hend := hlast (height / 2) (by omega)
    omega

end Geometry

/-! ## The four loops -/

section Loops

variable {component : BridgeComponent} {width height : Nat}

/-- The luma loop of `map_surface_bytes` closes the gaps between the rows. -/
theorem mappedLumaCopies_eq (h : Geometry component width height) {env : MapEnv}
    (hmap : MappedNv12 env width height) :
    mappedLumaCopies component.width component.height env.rowPitch =
      stridedCopies 0 width 0 env.rowPitch.toNat width height := by
  have hpixels := h.pixels_lt
  have hdimensions := h.dimensions_lt
  have hdepth := hmap.depthPitch_lt
  unfold mappedLumaCopies stridedCopies
  rw [h.width_eq, h.height_eq, Int.toNat_natCast, Int.toNat_natCast]
  refine List.map_congr_left fun y hy => ?_
  have hy' : y < height := List.mem_range.mp hy
  have hrow : y * width ≤ height * width := Nat.mul_le_mul_right width hy'.le
  rw [Nat.mul_comm height] at hrow
  have hpitch : y * env.rowPitch.toNat ≤ (height + height / 2) * env.rowPitch.toNat :=
    Nat.mul_le_mul_right _ (by omega)
  have hdst : intOffset ((y : Int) * (width : Int)) = y * width := by
    rw [← Int.natCast_mul]
    exact intOffset_natCast (by omega)
  have hsrc : (UInt32.ofNat y * env.rowPitch).toNat = y * env.rowPitch.toNat :=
    toNat_mul_eq (toNat_ofNat_eq (by omega)) rfl (by omega)
  rw [hdst, hsrc, Nat.zero_add, Nat.zero_add]

/-- Its chroma loop puts the chroma rows behind the luma rows. -/
theorem mappedChromaCopies_eq (h : Geometry component width height) {env : MapEnv}
    (hmap : MappedNv12 env width height) :
    mappedChromaCopies component.width component.height env.rowPitch =
      stridedCopies (width * height) width (height * env.rowPitch.toNat) env.rowPitch.toNat
        width (height / 2) := by
  have hpixels := h.pixels_lt
  have hdimensions := h.dimensions_lt
  have hdepth := hmap.depthPitch_lt
  unfold mappedChromaCopies stridedCopies
  rw [h.width_eq, h.height_eq, toInt_div_two_eq h.height_eq, Int.toNat_natCast,
    Int.toNat_natCast]
  refine List.map_congr_left fun y hy => ?_
  have hy' : y < height / 2 := List.mem_range.mp hy
  have hrow : y * width ≤ height * width := Nat.mul_le_mul_right width (by omega)
  rw [Nat.mul_comm height] at hrow
  have hpitch : (height + y) * env.rowPitch.toNat ≤
      (height + height / 2) * env.rowPitch.toNat := Nat.mul_le_mul_right _ (by omega)
  have hbase : intOffset ((width : Int) * (height : Int)) = width * height := by
    rw [← Int.natCast_mul]
    exact intOffset_natCast (by omega)
  have hdst : intOffset ((y : Int) * (width : Int)) = y * width := by
    rw [← Int.natCast_mul]
    exact intOffset_natCast (by omega)
  have hline : (component.height.toUInt32 + UInt32.ofNat y).toNat = height + y := by
    rw [UInt32.toNat_add, toNat_toUInt32_eq h.height_eq, toNat_ofNat_eq (by omega)]
    exact Nat.mod_eq_of_lt (by omega)
  have hsrc : ((component.height.toUInt32 + UInt32.ofNat y) * env.rowPitch).toNat =
      height * env.rowPitch.toNat + y * env.rowPitch.toNat := by
    rw [toNat_mul_eq hline rfl (by omega), Nat.add_mul]
  rw [hbase, hdst, hsrc]

/-- Row `y` of a plane of the host frame begins at `y` times its line size. -/
theorem hostOffset_eq {rows y : Nat} {linesize : Int} (hpositive : 0 ≤ linesize)
    (hfits : rows * linesize < 2 ^ 31) (hy : y < rows) :
    intOffset ((y : Int) * linesize) = y * linesize.toNat := by
  obtain ⟨pitch, rfl⟩ := Int.eq_ofNat_of_zero_le hpositive
  have hrow : y * pitch ≤ rows * pitch := Nat.mul_le_mul_right pitch hy.le
  have hplane : rows * pitch < 2 ^ 31 := by exact_mod_cast hfits
  rw [← Int.natCast_mul, intOffset_natCast (by omega), Int.toNat_natCast]

/-- The luma loop of `encoder_frame` spreads the luma rows over the host frame. -/
theorem hostLumaCopies_eq (h : Geometry component width height) {state : EncoderState}
    (hstate : InitialisedWith component state) {env : EncodeEnv}
    (hhost : HostNv12 env width height) :
    hostLumaCopies state.width state.height (env.linesize 0) =
      stridedCopies 0 (env.linesize 0).toNat 0 width width height := by
  have hpixels := h.pixels_lt
  have hdimensions := h.dimensions_lt
  have hluma := hhost.luma_ge
  unfold hostLumaCopies stridedCopies
  rw [hstate.width_eq, hstate.height_eq, asInt_toUInt32, h.height_eq, Int.toNat_natCast,
    toNat_toUInt32_eq h.width_eq]
  refine List.map_congr_left fun y hy => ?_
  have hy' : y < height := List.mem_range.mp hy
  have hrow : y * width ≤ height * width := Nat.mul_le_mul_right width hy'.le
  rw [Nat.mul_comm height] at hrow
  have hsrc : (UInt32.ofNat y * component.width.toUInt32).toNat = y * width :=
    toNat_mul_eq (toNat_ofNat_eq (by omega)) (toNat_toUInt32_eq h.width_eq) (by omega)
  rw [hostOffset_eq (by omega) hhost.luma_lt hy', hsrc, Nat.zero_add, Nat.zero_add]

/-- Its chroma loop spreads the chroma rows. -/
theorem hostChromaCopies_eq (h : Geometry component width height) {state : EncoderState}
    (hstate : InitialisedWith component state) {env : EncodeEnv}
    (hhost : HostNv12 env width height) :
    hostChromaCopies state.width state.height (env.linesize 1) =
      stridedCopies 0 (env.linesize 1).toNat (width * height) width width (height / 2) := by
  have hpixels := h.pixels_lt
  have hdimensions := h.dimensions_lt
  have hchroma := hhost.chroma_ge
  unfold hostChromaCopies stridedCopies
  have hrows : (asInt component.height.toUInt32 / 2).toNat = height / 2 := by
    rw [asInt_toUInt32, h.height_eq]
    exact Int.toNat_natCast (height / 2)
  have hbase : (component.width.toUInt32 * component.height.toUInt32).toNat = width * height :=
    toNat_mul_eq (toNat_toUInt32_eq h.width_eq) (toNat_toUInt32_eq h.height_eq) (by omega)
  rw [hstate.width_eq, hstate.height_eq, hrows, hbase, toNat_toUInt32_eq h.width_eq]
  refine List.map_congr_left fun y hy => ?_
  have hy' : y < height / 2 := List.mem_range.mp hy
  have hrow : y * width ≤ height * width := Nat.mul_le_mul_right width (by omega)
  rw [Nat.mul_comm height] at hrow
  have hsrc : (UInt32.ofNat y * component.width.toUInt32).toNat = y * width :=
    toNat_mul_eq (toNat_ofNat_eq (by omega)) (toNat_toUInt32_eq h.width_eq) (by omega)
  rw [hostOffset_eq (by omega) hhost.chroma_lt hy', hsrc, Nat.zero_add]

end Loops

/-! ## The payload -/

section Payload

variable {component : BridgeComponent} {width height : Nat} {env : MapEnv}
  {surface : BridgeSurface} {frame : List UInt8}

/-- The payload is what the two loops of `map_surface_bytes` leave behind. -/
theorem payloadMemory_eq (h : Geometry component width height) (hmap : MappedNv12 env width height)
    (hframe : mapSurfaceBytes env component surface = .ok frame) {i : Nat}
    (hi : i < width * height * 3 / 2) :
    payloadMemory frame i =
      copyAll (stridedCopies (width * height) width (height * env.rowPitch.toNat)
        env.rowPitch.toNat width (height / 2)) env.pData
          (copyAll (stridedCopies 0 width 0 env.rowPitch.toNat width height) env.pData env.fill)
            i := by
  unfold mapSurfaceBytes at hframe
  split_ifs at hframe
  obtain rfl := Except.ok.inj hframe
  unfold payloadMemory
  rw [h.frameSize_toNat, mappedLumaCopies_eq h hmap, mappedChromaCopies_eq h hmap,
    List.getD_eq_getElem?_getD, List.getElem?_map, List.getElem?_range hi]
  rfl

/-- Byte `x` of luma row `y` of the payload. -/
theorem payloadMemory_luma (h : Geometry component width height)
    (hmap : MappedNv12 env width height)
    (hframe : mapSurfaceBytes env component surface = .ok frame) {x y : Nat} (hx : x < width)
    (hy : y < height) :
    payloadMemory frame (y * width + x) = env.pData (y * env.rowPitch.toNat + x) := by
  have hrow := row_le hx hy
  have hsize := h.size_eq
  rw [Nat.mul_comm height] at hrow
  rw [payloadMemory_eq h hmap hframe (by omega), copyAll_stridedCopies_outside,
    copyAll_stridedCopies_zero _ _ le_rfl hx hy, Nat.zero_add]
  -- The chroma rows begin behind the luma rows.
  intro row _ hinside
  omega

/-- Byte `x` of chroma row `y` of the payload. -/
theorem payloadMemory_chroma (h : Geometry component width height)
    (hmap : MappedNv12 env width height)
    (hframe : mapSurfaceBytes env component surface = .ok frame) {x y : Nat} (hx : x < width)
    (hy : y < height / 2) :
    payloadMemory frame (width * height + y * width + x) =
      env.pData ((height + y) * env.rowPitch.toNat + x) := by
  have hrow := row_le hx hy
  have hsize := h.size_eq
  rw [payloadMemory_eq h hmap hframe (by omega), copyAll_stridedCopies _ _ le_rfl hx hy,
    Nat.add_mul]

end Payload

/-! ## From the texture to the host frame -/

/-- An NV12 frame crosses the bridge unchanged. -/
structure CrossesUnchanged (map : MapEnv) (component : BridgeComponent) (surface : BridgeSurface)
    (payload : List UInt8) (encode : EncodeEnv) (state : EncoderState)
    (width height : Nat) : Prop where
  /-- No product of the bridge leaves the range of `int`. -/
  area_fits : FitsInt (component.width.toInt * component.height.toInt * 3)
  offset_fits : ∀ y < height, FitsInt (y * component.width.toInt)
  announced : (frameMessage component surface).payloadSize.toNat = width * height * 3 / 2
  sent : payload.length = width * height * 3 / 2
  accepted : headerAccepted (frameMessage component surface) = true
  /-- What the helper receives is this frame, unless one of its calls fails. -/
  received : ∀ env : MessageEnv,
    receiveMessage env ((frameMessage component surface).encode ++ payload) = none ∨
      receiveMessage env ((frameMessage component surface).encode ++ payload) =
        some (frameMessage component surface, payload, [])
  size_equation : (frameMessage component surface).payloadSize =
    state.width * state.height * 3 / 2
  reads_inside : ∀ copy, copy ∈ hostLumaCopies state.width state.height (encode.linesize 0) ∨
      copy ∈ hostChromaCopies state.width state.height (encode.linesize 1) →
    copy.src + copy.count ≤ payload.length
  luma : ∀ x y, x < width → y < height →
    (fillHostFrame encode state payload).data 0 (y * (encode.linesize 0).toNat + x) =
      map.pData (y * map.rowPitch.toNat + x)
  chroma : ∀ x y, x < width → y < height / 2 →
    (fillHostFrame encode state payload).data 1 (y * (encode.linesize 1).toNat + x) =
      map.pData ((height + y) * map.rowPitch.toNat + x)

/-- Every frame that `map_surface_bytes` packs from a mapped NV12 texture crosses
the bridge unchanged, for every session whose encoder was initialised with the
width and the height of the component. -/
theorem frame_crosses_unchanged {map : MapEnv} {component : BridgeComponent}
    {surface : BridgeSurface} {payload : List UInt8} {encode : EncodeEnv} {state : EncoderState}
    {width height : Nat} (hgeometry : Geometry component width height)
    (hmap : MappedNv12 map width height) (hhost : HostNv12 encode width height)
    (hstate : InitialisedWith component state)
    (hpayload : mapSurfaceBytes map component surface = .ok payload) :
    CrossesUnchanged map component surface payload encode state width height where
  area_fits := by
    have hpixels := hgeometry.pixels_lt
    unfold FitsInt
    rw [hgeometry.width_eq, hgeometry.height_eq, ← Int.natCast_mul]
    omega
  offset_fits := by
    intro y hy
    have hpixels := hgeometry.pixels_lt
    have hrow : y * width ≤ height * width := Nat.mul_le_mul_right width hy.le
    rw [Nat.mul_comm height] at hrow
    unfold FitsInt
    rw [hgeometry.width_eq, ← Int.natCast_mul]
    omega
  announced := hgeometry.frameSize_toNat
  sent := by
    rw [mapSurfaceBytes_length hpayload, hgeometry.frameSize_toNat]
  accepted := hgeometry.headerAccepted_frameMessage surface
  received := fun env => receiveMessage_cases env (mapSurfaceBytes_length hpayload)
  size_equation := hgeometry.frameSize_eq_of_initialisedWith hstate
  reads_inside := by
    intro copy hcopy
    rw [mapSurfaceBytes_length hpayload, hgeometry.frameSize_toNat]
    rw [hostLumaCopies_eq hgeometry hstate hhost, hostChromaCopies_eq hgeometry hstate hhost]
      at hcopy
    exact hgeometry.reads_inside hcopy
  luma := by
    intro x y hx hy
    show copyAll (hostLumaCopies state.width state.height (encode.linesize 0))
      (payloadMemory payload) (encode.data 0) _ = _
    have hlinesize := hhost.luma_ge
    rw [hostLumaCopies_eq hgeometry hstate hhost,
      copyAll_stridedCopies_zero _ _ (by omega) hx hy, Nat.zero_add,
      payloadMemory_luma hgeometry hmap hpayload hx hy]
  chroma := by
    intro x y hx hy
    show copyAll (hostChromaCopies state.width state.height (encode.linesize 1))
      (payloadMemory payload) (encode.data 1) _ = _
    have hlinesize := hhost.chroma_ge
    rw [hostChromaCopies_eq hgeometry hstate hhost,
      copyAll_stridedCopies_zero _ _ (by omega) hx hy,
      payloadMemory_chroma hgeometry hmap hpayload hx hy]

/-! ## Three different pitches -/

/-- A mapped texture of 128 by 128 with rows of 256 bytes. -/
def paddedMap : MapEnv where
  rowPitch := 256
  pData := fun i => UInt8.ofNat (i / 256 + i)

/-- A host frame of 128 by 128 with rows of 160 and 192 bytes. -/
def paddedHost : EncodeEnv where
  linesize := fun plane => if plane.val = 0 then 160 else 192

/-- A component in a session of 128 by 128. -/
def paddedComponent : BridgeComponent where
  width := 128
  height := 128

/-- A frame of 128 by 128 crosses from rows of 256 bytes to rows of 160 and 192. -/
theorem padded_frame_crosses_unchanged :
    ∃ payload, mapSurfaceBytes paddedMap paddedComponent ⟨⟨true, 128, 128⟩, 0, 0⟩ = .ok payload ∧
      CrossesUnchanged paddedMap paddedComponent ⟨⟨true, 128, 128⟩, 0, 0⟩ payload paddedHost
        { width := 128, height := 128 } 128 128 :=
  ⟨_, rfl, frame_crosses_unchanged
    ⟨rfl, rfl, rfl, rfl, le_rfl, le_rfl, by decide⟩ ⟨by decide, by decide⟩
    ⟨by decide, by decide, by decide, by decide⟩ ⟨rfl, rfl⟩ rfl⟩

end UuAmfBridge
