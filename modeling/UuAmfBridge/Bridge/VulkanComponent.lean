import UuAmfBridge.Bridge.Component
import UuAmfBridge.Lib.RingRun

/-!
# The encoder component with its own encoder

`BridgeComponent` of `src/amfrt_bridge.c` in the build without
`BRIDGE_NATIVE_PE`: the component encodes with `h264_vulkan` of FFmpeg in its own
process, and has no helper.  The functions are in the namespace `Vulkan`, beside
those of the shipped build.

FFmpeg and Direct3D are the environment.  Each call carries which of their
functions succeed, and `avcodec_receive_packet` is a script of the packets it
brings.  The frames themselves go to FFmpeg and nothing here reads them, so
`map_surface_nv12` keeps its checks only.

`VulkanRecord.ringOps` is a ghost: what the call does to the array of outputs,
one entry for each `component_queue_output`, each packet that
`component_query_output` takes, and each time `component_close_codec` clears the
array.
-/

namespace UuAmfBridge

namespace Vulkan

/-! ## The component -/

/-- `AMF_VIDEO_ENCODER_PEAK_BITRATE`. -/
def videoEncoderPeakBitrate : WCharString := wideString "PeakBitrate"

/-- `AMF_VIDEO_ENCODER_VBV_BUFFER_SIZE`. -/
def videoEncoderVbvBufferSize : WCharString := wideString "VBVBufferSize"

/-- `AVRational`. -/
structure AVRational where
  num : Int32
  den : Int32
  deriving Repr, DecidableEq

/-- `AVCodecContext`, as far as `component_init` fills it with more than constants. -/
structure AVCodecContext where
  width : Int32
  height : Int32
  timeBase : AVRational
  framerate : AVRational
  bitRate : Int64
  rcMaxRate : Int64
  rcBufferSize : Int32
  deriving Repr, DecidableEq

/-- `BridgeComponent`; a pointer to an object of FFmpeg is null or not. -/
structure Component where
  properties : BridgePropertyStore := []
  codec : Option AVCodecContext := none
  hwDevice : Bool := false
  hwFrames : Bool := false
  outputs : Ring BridgeBuffer bridgeMaxOutputs := Ring.empty
  width : Int32 := 0
  height : Int32 := 0
  format : AMFSurfaceFormat := .unknown
  nextPts : Int64 := 0
  initialized : Bool := false
  draining : Bool := false

/-- The codes of `AMF_RESULT` that the component returns: those of the shipped
build, and `AMF_VULKAN_FAILED`. -/
inductive Result where
  | common (result : AMFResult)
  | vulkanFailed
  deriving Repr, DecidableEq

/-- What a call returns, and what it does to the array of outputs. -/
structure VulkanRecord where
  result : Result
  output : Option BridgeBuffer := none
  ringOps : List (RingOp BridgeBuffer) := []

/-- The record of a call that returns one of the common codes and leaves the
array alone. -/
def VulkanRecord.of (result : AMFResult) : VulkanRecord := { result := .common result }

/-- `component_close_codec`: the queued buffers are released, and the array is
cleared. -/
def componentCloseCodec (component : Component) : Component :=
  { component with
    codec := none
    hwFrames := false
    hwDevice := false
    outputs := Ring.empty
    initialized := false }

/-! ## Opening the encoder -/

/-- Which steps of `component_init` succeed. -/
structure InitEnv where
  findEncoder : Bool := true
  deviceCreate : Bool := true
  framesAlloc : Bool := true
  framesInit : Bool := true
  contextAlloc : Bool := true
  codecOpen : Bool := true

/-- The encoder `component_init` asks for. -/
def encoderContext (properties : BridgePropertyStore) (width height : Int32) :
    AVCodecContext :=
  let rate := propertyGetRate properties videoEncoderFramerate (30, 1)
  let rate := if rate.1 = 0 ∨ rate.2 = 0 then (30, 1) else rate
  let bitRate := propertyGetI64 properties videoEncoderTargetBitrate 8000000
  { width
    height
    timeBase := ⟨rate.2.toInt32, rate.1.toInt32⟩
    framerate := ⟨rate.1.toInt32, rate.2.toInt32⟩
    bitRate
    rcMaxRate := propertyGetI64 properties videoEncoderPeakBitrate bitRate
    rcBufferSize := (propertyGetI64 properties videoEncoderVbvBufferSize bitRate).toInt32 }

/-- `component_init`. -/
def componentInit (env : InitEnv) (component : Component) (format : AMFSurfaceFormat)
    (width height : Int32) : Component × VulkanRecord :=
  if component.initialized then (component, .of .alreadyInitialized)
  else if format ≠ .nv12 ∨ width < 128 ∨ height < 128 then
    (component, .of .surfaceFormatNotSupported)
  else if !env.findEncoder then (component, .of .encoderNotPresent)
  else if !(env.deviceCreate && env.framesAlloc && env.framesInit && env.contextAlloc &&
      env.codecOpen) then
    (componentCloseCodec component,
      { result := .common .encoderNotPresent, ringOps := [.clear] })
  else
    ({ component with
        codec := some (encoderContext component.properties width height)
        hwDevice := true
        hwFrames := true
        width, height, format
        nextPts := 0
        initialized := true },
      .of .ok)

/-- `component_reinit`. -/
def componentReinit (env : InitEnv) (component : Component) (width height : Int32) :
    Component × VulkanRecord :=
  let next := componentInit env (componentCloseCodec component) component.format width height
  (next.1, { next.2 with ringOps := .clear :: next.2.ringOps })

/-- `component_terminate`. -/
def componentTerminate (component : Component) : Component × VulkanRecord :=
  (componentCloseCodec component, { result := .common .ok, ringOps := [.clear] })

/-! ## Receiving packets -/

/-- What one call of `avcodec_receive_packet` brings. -/
inductive ReceiveResult where
  /-- A packet, and whether `buffer_create` succeeds on it. -/
  | packet (data : List UInt8) (bufferCreate : Bool)
  /-- `AVERROR(EAGAIN)` or `AVERROR_EOF`. -/
  | again
  | error

/-- What happens during `component_receive_packets`; behind the end of `packets`
every call brings `AVERROR(EAGAIN)`. -/
structure ReceiveEnv where
  packetAlloc : Bool := true
  packets : List ReceiveResult := []

/-- How the loop of `component_receive_packets` ends: the result, the array, and
the buffers that `component_queue_output` was called with. -/
structure Received where
  result : AMFResult
  outputs : Ring BridgeBuffer bridgeMaxOutputs
  offered : List BridgeBuffer := []

/-- The loop of `component_receive_packets`. -/
def receiveLoop (pts duration : Int64) :
    List ReceiveResult → Ring BridgeBuffer bridgeMaxOutputs → Received
  | [], outputs => { result := .ok, outputs }
  | .again :: _, outputs => { result := .ok, outputs }
  | .error :: _, outputs => { result := .fail, outputs }
  | .packet data bufferCreate :: packets, outputs =>
      if !bufferCreate then { result := .outOfMemory, outputs }
      else
        let buffer : BridgeBuffer := ⟨data, pts, duration⟩
        match outputs.push buffer with
        | none => { result := .inputFull, outputs, offered := [buffer] }
        | some outputs =>
            let received := receiveLoop pts duration packets outputs
            { received with offered := buffer :: received.offered }

/-- `component_receive_packets`. -/
def componentReceivePackets (env : ReceiveEnv) (component : Component)
    (pts duration : Int64) : Component × VulkanRecord :=
  if !env.packetAlloc then (component, .of .outOfMemory)
  else
    let received := receiveLoop pts duration env.packets component.outputs
    ({ component with outputs := received.outputs },
      { result := .common received.result, ringOps := received.offered.map .offer })

/-- `component_drain`. -/
def componentDrain (env : ReceiveEnv) (component : Component) : Component × VulkanRecord :=
  if !component.initialized then (component, .of .notInitialized)
  else componentReceivePackets env { component with draining := true } 0 0

/-- `component_flush`. -/
def componentFlush (component : Component) : Component × VulkanRecord :=
  if !component.initialized then (component, .of .notInitialized)
  else ({ component with draining := false }, .of .ok)

/-! ## Submitting a frame -/

/-- What `avcodec_send_frame` returns. -/
inductive SendFrameResult where
  | sent
  | again
  | error

/-- What happens during `component_submit`. -/
structure SubmitEnv where
  frameAlloc : Bool := true
  frameBuffer : Bool := true
  createTexture : Bool := true
  map : Bool := true
  gpuBuffer : Bool := true
  transfer : Bool := true
  /-- `av_rescale_q` of the timestamp of the surface. -/
  rescaledPts : Int64
  sendFrame : SendFrameResult := .sent
  receive : ReceiveEnv := {}

/-- The result of `map_surface_nv12`. -/
def mapSurfaceNv12 (env : SubmitEnv) (component : Component) (surface : BridgeSurface) :
    AMFResult :=
  if !surface.desc.nv12 ∨ surface.desc.width ≠ component.width.toUInt32 ∨
      surface.desc.height ≠ component.height.toUInt32 then .invalidFormat
  else if !env.createTexture then .directxFailed
  else if !env.map then .directxFailed
  else .ok

/-- `component_submit` on a surface, from the frame that is mapped on. -/
def encodeSurface (env : SubmitEnv) (component : Component) (surface : BridgeSurface) :
    Component × VulkanRecord :=
  let pts := if surface.pts ≠ 0 then env.rescaledPts else component.nextPts
  let component := { component with nextPts := pts + 1 }
  match env.sendFrame with
  | .again => (component, .of .inputFull)
  | .error => (component, .of .fail)
  | .sent => componentReceivePackets env.receive component surface.pts surface.duration

/-- `component_submit`; `data` is `none` for a null pointer and for data that is
no surface of the bridge. -/
def componentSubmit (env : SubmitEnv) (component : Component) (data : Option BridgeSurface) :
    Component × VulkanRecord :=
  if !component.initialized then (component, .of .notInitialized)
  else
    match data with
    | none => (component, .of .invalidDataType)
    | some surface =>
        if component.outputs.count = bridgeMaxOutputs then (component, .of .inputFull)
        else if !env.frameAlloc then (component, .of .outOfMemory)
        else if !env.frameBuffer then (component, .of .outOfMemory)
        else
          let mapped := mapSurfaceNv12 env component surface
          if mapped ≠ .ok then (component, .of mapped)
          else if !env.gpuBuffer then (component, { result := .vulkanFailed })
          else if !env.transfer then (component, { result := .vulkanFailed })
          else encodeSurface env component surface

/-- `component_query_output`; `out` says whether the pointer for the result is
not null. -/
def componentQueryOutput (component : Component) (out : Bool) : Component × VulkanRecord :=
  if !out then (component, .of .invalidPointer)
  else
    match component.outputs.pop with
    | none => (component, .of (if component.draining then .amfEof else .amfRepeat))
    | some (output, outputs) =>
        ({ component with outputs }, { result := .common .ok, output, ringOps := [.take] })

/-! ## The calls -/

/-- One call of the AMF interface, with what happens during it. -/
inductive ComponentCall where
  | init (env : InitEnv) (format : AMFSurfaceFormat) (width height : Int32)
  | reinit (env : InitEnv) (width height : Int32)
  | submitInput (env : SubmitEnv) (data : Option BridgeSurface)
  | queryOutput (out : Bool)
  | drain (env : ReceiveEnv)
  | flush
  | terminate

/-- The component answers one call at a time. -/
def componentCalls : Machine Component ComponentCall VulkanRecord where
  step component call :=
    match call with
    | .init env format width height => componentInit env component format width height
    | .reinit env width height => componentReinit env component width height
    | .submitInput env data => componentSubmit env component data
    | .queryOutput out => componentQueryOutput component out
    | .drain env => componentDrain env component
    | .flush => componentFlush component
    | .terminate => componentTerminate component

end Vulkan

end UuAmfBridge
