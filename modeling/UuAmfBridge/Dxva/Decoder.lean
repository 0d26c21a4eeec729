import UuAmfBridge.Bridge.Component
import UuAmfBridge.Dxva.ParameterSets

/-!
# The video decoder of the bridge

`BridgeDecoder` of `src/dxva_bridge.c` and the calls of `ID3D11VideoContext` that
only touch its buffers: `context_get_buffer`, `context_submit` and
`context_begin_frame`.

The decoder is a client of the helper with a `Connection` of its own, in the way of
the encoder component.  Its buffers are lent to the application, which fills them
between two calls.
-/

namespace UuAmfBridge

/-! ## Result codes -/

/-- `S_OK`. -/
def sOk : Int32 := 0

/-- `E_FAIL`. -/
def eFail : Int32 := -2147467259

/-- `E_INVALIDARG`. -/
def eInvalidarg : Int32 := -2147024809

/-- `E_OUTOFMEMORY`. -/
def eOutofmemory : Int32 := -2147024882

/-- `FAILED`. -/
def hrFailed (hr : Int32) : Bool := hr < 0

/-! ## The decoder -/

/-- `DXVA_BUFFER_COUNT`. -/
abbrev dxvaBufferCount : Nat := 9

/-- `D3D11_VIDEO_DECODER_BUFFER_PICTURE_PARAMETERS`. -/
def pictureParametersBuffer : Fin dxvaBufferCount := 0

/-- `D3D11_VIDEO_DECODER_BUFFER_BITSTREAM`. -/
def bitstreamBuffer : Fin dxvaBufferCount := 6

/-- `BridgeOutputView`; `ours` says that its vtable is `view_vtbl`. -/
structure BridgeOutputView where
  ours : Bool := true
  arraySlice : UInt32 := 0
  deriving Repr, DecidableEq

/-- `BridgeDecoder`; `helper` is `none` for `INVALID_SOCKET`, and `frame` and `upload`
are blocks of `frameCapacity` and `uploadCapacity` bytes. -/
structure BridgeDecoder where
  desc : VideoDecoderDesc
  buffers : Fin dxvaBufferCount → DecoderBuffer := fun _ => {}
  output : Option BridgeOutputView := none
  frame : Nat → UInt8 := fun _ => 0
  frameCapacity : UInt32 := 0
  upload : Nat → UInt8 := fun _ => 0
  uploadCapacity : UInt32 := 0
  helper : Option Connection := none
  retryAfter : UInt64 := 0

/-! ## Its buffers -/

/-- The table `capacities` of `context_get_buffer`. -/
def capacities (type : Fin dxvaBufferCount) : UInt32 :=
  if type = 5 then 1024 * 1024
  else if type = bitstreamBuffer then 16 * 1024 * 1024
  else 4096

/-- What `malloc` answers in `context_get_buffer`: the contents of the new block. -/
abbrev MallocBlock := Option (Nat → UInt8)

/-- `context_get_buffer`; `out` says that `size` and `data` are not null. -/
def contextGetBuffer (malloc : MallocBlock) (out : Bool) (type : UInt32)
    (decoder : BridgeDecoder) : Int32 × BridgeDecoder :=
  if h : out = true ∧ type.toNat < dxvaBufferCount then
    let type : Fin dxvaBufferCount := ⟨type.toNat, h.2⟩
    let buffer := decoder.buffers type
    match buffer.data, malloc with
    | some _, _ =>
        (sOk, { decoder with
          buffers := Function.update decoder.buffers type { buffer with offset := 0, size := 0 } })
    | none, none =>
        (eOutofmemory, { decoder with
          buffers := Function.update decoder.buffers type
            { buffer with capacity := capacities type } })
    | none, some block =>
        (sOk, { decoder with
          buffers := Function.update decoder.buffers type
            { data := some ((List.range (capacities type).toNat).map block)
              capacity := capacities type
              offset := 0
              size := 0 } })
  else (eInvalidarg, decoder)

/-- The fields of `D3D11_VIDEO_DECODER_BUFFER_DESC` that `context_submit` reads. -/
structure BufferDesc where
  bufferType : UInt32
  dataOffset : UInt32
  dataSize : UInt32
  deriving Repr, DecidableEq

/-- `context_submit`; a descriptor that is refused leaves the ones before it
submitted. -/
def contextSubmit : List BufferDesc → BridgeDecoder → Int32 × BridgeDecoder
  | [], decoder => (sOk, decoder)
  | desc :: descs, decoder =>
      if h : desc.bufferType.toNat < dxvaBufferCount then
        let type : Fin dxvaBufferCount := ⟨desc.bufferType.toNat, h⟩
        let buffer := decoder.buffers type
        if buffer.data = none ∨ desc.dataOffset > buffer.capacity ∨
            desc.dataSize > buffer.capacity - desc.dataOffset then (eInvalidarg, decoder)
        else
          contextSubmit descs { decoder with
            buffers := Function.update decoder.buffers type
              { buffer with offset := desc.dataOffset, size := desc.dataSize } }
      else contextSubmit descs decoder

/-- `context_begin_frame`. -/
def contextBeginFrame (view : Option BridgeOutputView) (decoder : BridgeDecoder) :
    Int32 × BridgeDecoder :=
  match view with
  | none => (eInvalidarg, decoder)
  | some view =>
      if view.ours then (sOk, { decoder with output := some view }) else (eInvalidarg, decoder)

/-- The application writes to a buffer that it has got. -/
def fillBuffer (type : Fin dxvaBufferCount) (contents : Nat → UInt8) (decoder : BridgeDecoder) :
    BridgeDecoder :=
  let buffer := decoder.buffers type
  { decoder with
    buffers := Function.update decoder.buffers type
      { buffer with data := buffer.data.map fun data => (List.range data.length).map contents } }

/-! ## One buffer -/

/-- A buffer that has not been asked for before is allocated. -/
theorem contextGetBuffer_new {decoder : BridgeDecoder} {type : UInt32}
    (hvalid : type.toNat < dxvaBufferCount)
    (hnew : (decoder.buffers ⟨type.toNat, hvalid⟩).data = none) (block : Nat → UInt8) :
    contextGetBuffer (some block) true type decoder =
      (sOk, { decoder with
        buffers := Function.update decoder.buffers ⟨type.toNat, hvalid⟩
          { data := some ((List.range (capacities ⟨type.toNat, hvalid⟩).toNat).map block)
            capacity := capacities ⟨type.toNat, hvalid⟩ } }) := by
  unfold contextGetBuffer
  rw [dif_pos ⟨rfl, hvalid⟩]
  simp only [hnew]

/-- A descriptor inside its buffer is submitted. -/
theorem contextSubmit_single {decoder : BridgeDecoder} {desc : BufferDesc}
    (hvalid : desc.bufferType.toNat < dxvaBufferCount) {data : List UInt8}
    (hdata : (decoder.buffers ⟨desc.bufferType.toNat, hvalid⟩).data = some data)
    (hoffset : desc.dataOffset ≤ (decoder.buffers ⟨desc.bufferType.toNat, hvalid⟩).capacity)
    (hsize : desc.dataSize ≤
      (decoder.buffers ⟨desc.bufferType.toNat, hvalid⟩).capacity - desc.dataOffset) :
    contextSubmit [desc] decoder =
      (sOk, { decoder with
        buffers := Function.update decoder.buffers ⟨desc.bufferType.toNat, hvalid⟩
          { data := some data
            capacity := (decoder.buffers ⟨desc.bufferType.toNat, hvalid⟩).capacity
            offset := desc.dataOffset
            size := desc.dataSize } }) := by
  have haccepted : ¬((decoder.buffers ⟨desc.bufferType.toNat, hvalid⟩).data = none ∨
      desc.dataOffset > (decoder.buffers ⟨desc.bufferType.toNat, hvalid⟩).capacity ∨
      desc.dataSize > (decoder.buffers ⟨desc.bufferType.toNat, hvalid⟩).capacity -
        desc.dataOffset) := by
    rw [hdata]
    rintro (hnone | hlarge | hlarge)
    · cases hnone
    · exact UInt32.not_lt.mpr hoffset hlarge
    · exact UInt32.not_lt.mpr hsize hlarge
  unfold contextSubmit
  rw [dif_pos hvalid]
  simp only
  rw [if_neg haccepted, hdata]
  rfl

end UuAmfBridge
