import UuAmfBridge.Helper.Session
import UuAmfBridge.Lib.Machine
import UuAmfBridge.Lib.RingQueue

/-!
# The encoder component of the bridge

`BridgeComponent` of `src/amfrt_bridge.c`, in the build that is shipped
(`BRIDGE_NATIVE_PE`): a client of the helper over one socket, and a queue of
eight encoded packets.

The socket is a `Connection` with the helper at its other end.  The helper
answers whatever reaches it (`Connection.deliver`), and `inbound` holds the
bytes it has written and the component has not read.  How much of them has
arrived when the component calls `recv`, and whether a call fails or times out,
is the script of that call (`RecvResult`), so a helper that is slow is one whose
bytes the script does not bring yet.

Each call of the AMF interface is a function from the component to the
component and a `CallRecord`.  The record holds the result, and as ghosts the
bytes that went over the socket during the call.
-/

namespace UuAmfBridge

/-! ## AMF values -/

/-- The codes of `AMF_RESULT` that the component returns. -/
inductive AMFResult where
  | ok
  | fail
  | notInitialized
  | alreadyInitialized
  | surfaceFormatNotSupported
  | encoderNotPresent
  | invalidDataType
  | invalidPointer
  | invalidFormat
  | directxFailed
  | outOfMemory
  | inputFull
  | invalidArg
  | outOfRange
  | notFound
  | amfRepeat
  | amfEof
  deriving Repr, DecidableEq

/-- `AMF_SURFACE_FORMAT`, as far as the component tells formats apart. -/
inductive AMFSurfaceFormat where
  | unknown
  | nv12
  | other
  deriving Repr, DecidableEq

/-- The value of `AMF_SURFACE_NV12` on the wire. -/
def amfSurfaceNv12 : UInt32 := 1

/-- A `wchar_t` other than the terminator; it has 16 bits (`-fshort-wchar`). -/
abbrev WChar := { unit : UInt16 // unit ≠ 0 }

/-- A string of `wchar_t` up to its terminator. -/
abbrev WCharString := List WChar

/-- A literal of characters with one unit each. -/
def wideString (text : String) : WCharString :=
  text.toList.filterMap fun c =>
    if h : UInt16.ofNat c.toNat ≠ 0 then some ⟨UInt16.ofNat c.toNat, h⟩ else none

/-- `AMFVariantStruct`.  A string or an interface is a pointer and may be null; a
value of any type without a constructor here is kept as its bytes. -/
inductive AMFVariant where
  | empty
  | int64 (value : Int64)
  | rate (num den : UInt32)
  | string (text : Option (List UInt8))
  | wstring (text : Option WCharString)
  | interface (object : Option Nat)
  | other (type : UInt32) (bytes : List UInt8)
  deriving Repr, DecidableEq

/-- One entry of a property store. -/
structure BridgeProperty where
  name : WCharString
  value : AMFVariant
  deriving Repr, DecidableEq

/-- `BridgePropertyStore`: the entries in use, in order. -/
abbrev BridgePropertyStore := List BridgeProperty

/-- `property_find`. -/
def propertyFind (store : BridgePropertyStore) (name : WCharString) : Option BridgeProperty :=
  store.find? fun entry => entry.name == name

/-- `property_get_i64`. -/
def propertyGetI64 (store : BridgePropertyStore) (name : WCharString) (fallback : Int64) : Int64 :=
  match propertyFind store name with
  | some ⟨_, .int64 value⟩ => value
  | _ => fallback

/-- `property_get_rate`. -/
def propertyGetRate (store : BridgePropertyStore) (name : WCharString)
    (fallback : UInt32 × UInt32) : UInt32 × UInt32 :=
  match propertyFind store name with
  | some ⟨_, .rate num den⟩ => (num, den)
  | _ => fallback

/-- `AMF_VIDEO_ENCODER_FRAMERATE`. -/
def videoEncoderFramerate : WCharString := wideString "FrameRate"

/-- `AMF_VIDEO_ENCODER_TARGET_BITRATE`. -/
def videoEncoderTargetBitrate : WCharString := wideString "TargetBitrate"

/-- `BridgeBuffer`: an encoded packet with its timestamps. -/
structure BridgeBuffer where
  data : List UInt8
  pts : Int64
  duration : Int64
  deriving Repr, DecidableEq

/-- The description of a D3D11 texture that the component checks. -/
structure TextureDesc where
  nv12 : Bool
  width : UInt32
  height : UInt32
  deriving Repr, DecidableEq

/-- `BridgeSurface`: a texture and the timestamps the caller has set. -/
structure BridgeSurface where
  desc : TextureDesc
  pts : Int64
  duration : Int64
  deriving Repr, DecidableEq

/-! ## The socket -/

/-- The helper at the other end of a socket, with the bytes it has not read. -/
inductive HelperSide where
  /-- Accepted, by a helper compiled with protocol `version`; waits for the first
  message. -/
  | accepted (version : UInt32) (unread : List UInt8)
  | serving (session : HelperSession) (unread : List UInt8)
  /-- The helper has closed its end. -/
  | ended

/-- An open socket: the helper, and the bytes it has written and the component
has not read. -/
structure Connection where
  helper : HelperSide
  inbound : List UInt8 := []

/-- What happens in the helper while it answers. -/
structure HelperEnv where
  handshake : HandshakeEnv := {}
  message : MessageEnv := {}

/-- Where the helper goes on after a turn. -/
def HelperSide.ofNext : Option (HelperSession × List UInt8) → HelperSide
  | none => .ended
  | some (session, unread) => .serving session unread

/-- The turn of the helper when more bytes reach it. -/
def HelperSide.receive (env : HelperEnv) (bytes : List UInt8) : HelperSide → Turn
  | .accepted version unread => UuAmfBridge.handshake version env.handshake (unread ++ bytes)
  | .serving session unread => serveMessage env.message session (unread ++ bytes)
  | .ended => ⟨[], none⟩

/-- The socket after `bytes` have reached the helper and it has answered. -/
def Connection.deliver (env : HelperEnv) (connection : Connection) (bytes : List UInt8) :
    Connection :=
  let turn := connection.helper.receive env bytes
  { helper := .ofNext turn.next, inbound := connection.inbound ++ sentBytes turn.events }

/-- A helper that has read nothing takes the bytes that reach it for the first
message. -/
theorem HelperSide.receive_accepted (env : HelperEnv) (version : UInt32) (bytes : List UInt8) :
    (HelperSide.accepted version []).receive env bytes =
      UuAmfBridge.handshake version env.handshake bytes := by
  show UuAmfBridge.handshake version env.handshake ([] ++ bytes) = _
  rw [List.nil_append]

/-- `socket_recv_all` asks for at most `INT_MAX` bytes in one call, and gives up
on every error. -/
def socketRecv : RecvStyle := ⟨2 ^ 31 - 1, false, by decide⟩

def socketRecvAll (calls : List RecvResult) (size : Nat) (stream : List UInt8) :
    RecvOutcome UInt8 := recvLoop socketRecv calls size stream

def socketSendAll (calls : List SendResult) (data : List UInt8) : SendOutcome UInt8 :=
  sendLoop false calls data

theorem socketSendAll_sent {calls : List SendResult} {data : List UInt8}
    (h : (socketSendAll calls data).complete = true) : (socketSendAll calls data).sent = data :=
  sendLoop_sent_of_complete h

/-! ## The component -/

/-- `BRIDGE_MAX_OUTPUTS`. -/
abbrev bridgeMaxOutputs : Nat := 8

instance : NeZero bridgeMaxOutputs := ⟨by decide⟩

/-- `BridgeComponent`; `helper` is `none` for `INVALID_SOCKET`, and `outputs` is
the array with its head and its count. -/
structure BridgeComponent where
  properties : BridgePropertyStore := []
  helper : Option Connection := none
  outputs : Ring BridgeBuffer bridgeMaxOutputs := Ring.empty
  width : Int32 := 0
  height : Int32 := 0
  format : AMFSurfaceFormat := .unknown
  nextPts : Int64 := 0
  initialized : Bool := false
  draining : Bool := false

/-- A component and the time of the last failed connection, which the whole
process shares. -/
structure BridgeProcess where
  component : BridgeComponent
  helperConnectFailureTime : UInt64 := 0

/-- A component that has just been created, with its properties. -/
def BridgeProcess.fresh (properties : BridgePropertyStore) (failureTime : UInt64) :
    BridgeProcess where
  component := { properties }
  helperConnectFailureTime := failureTime

/-- What a call returns, and the bytes that went over the socket during it:
those the component wrote and read, and those the helper wrote. -/
structure CallRecord where
  result : AMFResult
  output : Option BridgeBuffer := none
  sent : List UInt8 := []
  consumed : List UInt8 := []
  produced : List UInt8 := []
  /-- The call has opened a session. -/
  opened : Bool := false
  /-- The call has given a complete frame to the helper. -/
  frameSent : Bool := false

/-- `component_close_codec`. -/
def componentCloseCodec (component : BridgeComponent) : BridgeComponent :=
  { component with helper := none, initialized := false }

/-! ## Opening a session -/

/-- `HELPER_CONNECT_BACKOFF_MS`. -/
def helperConnectBackoffMs : UInt64 := 1000

/-- What happens during `component_init`. -/
structure InitEnv where
  /-- `GetTickCount64` before the connection, and at a failure. -/
  tickCount : UInt64 := 0
  failureTick : UInt64 := 0
  socket : Bool := true
  /-- `InetPtonA` and `connect` succeed. -/
  connect : Bool := true
  /-- The protocol version of the helper that accepts. -/
  helperVersion : UInt32 := helperProtocolVersion
  initSend : List SendResult := []
  helper : HelperEnv := {}
  replyRecv : List RecvResult := []

/-- The first message of `component_init`, for a bridge compiled with protocol
`version`. -/
def initMessage (version : UInt32) (properties : BridgePropertyStore)
    (width height : Int32) : HelperInitMessage :=
  let rate := propertyGetRate properties videoEncoderFramerate (30, 1)
  { magic := helperMagic
    type := helperInit
    width := width.toUInt32
    height := height.toUInt32
    format := amfSurfaceNv12
    reserved := version
    bitrate := (propertyGetI64 properties videoEncoderTargetBitrate 8000000).toUInt64
    fpsNum := if rate.1 > 0 then rate.1 else 30
    fpsDen := if rate.2 > 0 then rate.2 else 1 }

/-- The handshake of `component_init` on an open socket. -/
def initExchange (version : UInt32) (env : InitEnv) (process : BridgeProcess)
    (connection : Connection) (format : AMFSurfaceFormat) (width height : Int32) :
    BridgeProcess × CallRecord :=
  let component := process.component
  let failed : BridgeProcess :=
    { component := componentCloseCodec component, helperConnectFailureTime := env.failureTick }
  let message := (initMessage version component.properties width height).encode
  let send := socketSendAll env.initSend message
  if !send.complete then (failed, { result := .encoderNotPresent, sent := send.sent })
  else
    let connection := connection.deliver env.helper message
    let recv := socketRecvAll env.replyRecv HelperInitReply.size connection.inbound
    let reply := HelperInitReply.decode recv.data
    if recv.status ≠ .complete ∨ reply.enabled = 0 ∨ reply.protocolVersion ≠ version then
      (failed, { result := .encoderNotPresent, sent := send.sent })
    else
      ({ component :=
          { component with
            helper := some { connection with inbound := recv.rest }
            width, height, format
            nextPts := 0
            initialized := true }
         helperConnectFailureTime := 0 },
        { result := .ok, sent := send.sent, opened := true })

/-- `component_init`. -/
def componentInit (version : UInt32) (env : InitEnv) (process : BridgeProcess)
    (format : AMFSurfaceFormat) (width height : Int32) : BridgeProcess × CallRecord :=
  let component := process.component
  if component.initialized then (process, { result := .alreadyInitialized })
  else if format ≠ .nv12 ∨ width < 128 ∨ height < 128 then
    (process, { result := .surfaceFormatNotSupported })
  else
    match component.helper with
    | some connection => initExchange version env process connection format width height
    | none =>
        if process.helperConnectFailureTime ≠ 0 ∧
            env.tickCount - process.helperConnectFailureTime < helperConnectBackoffMs then
          (process, { result := .encoderNotPresent })
        else if !env.socket then (process, { result := .encoderNotPresent })
        else if !env.connect then
          ({ process with helperConnectFailureTime := env.failureTick },
            { result := .encoderNotPresent })
        else
          initExchange version env process { helper := .accepted env.helperVersion [] }
            format width height

/-- `component_reinit`. -/
def componentReinit (version : UInt32) (env : InitEnv) (process : BridgeProcess)
    (width height : Int32) : BridgeProcess × CallRecord :=
  componentInit version env
    { process with component := componentCloseCodec process.component }
    process.component.format width height

/-! ## Submitting a frame -/

/-- What `map_surface_bytes` gets from D3D11 and from `malloc`. -/
structure MapEnv where
  createTexture : Bool := true
  map : Bool := true
  rowPitch : UInt32
  /-- The memory behind `mapped.pData`. -/
  pData : Nat → UInt8
  malloc : Bool := true
  /-- The initial contents of the buffer. -/
  fill : Nat → UInt8 := fun _ => 0

/-- `component->width * component->height * 3 / 2`, an `int`. -/
def frameSize (component : BridgeComponent) : UInt32 :=
  (component.width * component.height * 3 / 2).toUInt32

/-- The loop of `map_surface_bytes` that copies the luma rows. -/
def mappedLumaCopies (width height : Int32) (rowPitch : UInt32) : List MemCopy :=
  (List.range height.toInt.toNat).map fun y =>
    { dst := intOffset ((y : Nat) * width.toInt)
      src := (UInt32.ofNat y * rowPitch).toNat
      count := width.toInt.toNat }

/-- The loop of `map_surface_bytes` that copies the chroma rows. -/
def mappedChromaCopies (width height : Int32) (rowPitch : UInt32) : List MemCopy :=
  (List.range (height / 2).toInt.toNat).map fun y =>
    { dst := intOffset (width.toInt * height.toInt) + intOffset ((y : Nat) * width.toInt)
      src := ((height.toUInt32 + UInt32.ofNat y) * rowPitch).toNat
      count := width.toInt.toNat }

/-- `map_surface_bytes`: the bytes of the frame, `frame_size` of them. -/
def mapSurfaceBytes (env : MapEnv) (component : BridgeComponent) (surface : BridgeSurface) :
    Except AMFResult (List UInt8) :=
  if !surface.desc.nv12 ∨ surface.desc.width ≠ component.width.toUInt32 ∨
      surface.desc.height ≠ component.height.toUInt32 then .error .invalidFormat
  else if !env.createTexture then .error .directxFailed
  else if !env.map then .error .directxFailed
  else if !env.malloc then .error .outOfMemory
  else
    let luma := copyAll (mappedLumaCopies component.width component.height env.rowPitch)
      env.pData env.fill
    let packed := copyAll (mappedChromaCopies component.width component.height env.rowPitch)
      env.pData luma
    .ok ((List.range (frameSize component).toNat).map packed)

/-- The frame is as long as `frame_size` says. -/
theorem mapSurfaceBytes_length {env : MapEnv} {component : BridgeComponent}
    {surface : BridgeSurface} {frame : List UInt8}
    (h : mapSurfaceBytes env component surface = .ok frame) :
    frame.length = (frameSize component).toNat := by
  unfold mapSurfaceBytes at h
  split_ifs at h
  obtain rfl := Except.ok.inj h
  rw [List.length_map, List.length_range]

/-- What happens during `component_submit`. -/
structure SubmitEnv where
  map : MapEnv
  headerSend : List SendResult := []
  frameSend : List SendResult := []
  helper : HelperEnv := {}
  replyRecv : List RecvResult := []
  packetMalloc : Bool := true
  packetRecv : List RecvResult := []
  bufferCreate : Bool := true

/-- The header `component_submit` sends before a frame. -/
def frameMessage (component : BridgeComponent) (surface : BridgeSurface) :
    HelperFrameMessage where
  magic := helperMagic
  type := helperFrame
  payloadSize := frameSize component
  reserved := 0
  pts := surface.pts
  duration := surface.duration

/-- The checks of `component_submit` on the header of a reply. -/
def replyAccepted (reply : HelperReply) : Bool :=
  reply.magic == helperMagic && reply.type == UuAmfBridge.helperReply && reply.status == 0

/-- The first stage of `component_submit` on an open socket, up to the header of
the reply: the bytes written, the bytes the helper answered with, what the read
of the header has brought, and the socket behind it. -/
structure FrameExchange where
  sent : List UInt8
  delivered : Bool
  produced : List UInt8 := []
  header : RecvOutcome UInt8 := ⟨.error, [], []⟩
  helper : HelperSide := .ended

/-- Send the header and the frame, and read the header of the reply. -/
def exchangeFrame (env : SubmitEnv) (connection : Connection)
    (header frame : List UInt8) : FrameExchange :=
  let head := socketSendAll env.headerSend header
  if !head.complete then { sent := head.sent, delivered := false }
  else
    let body := socketSendAll env.frameSend frame
    if !body.complete then { sent := head.sent ++ body.sent, delivered := false }
    else
      let answered := connection.deliver env.helper (header ++ frame)
      { sent := head.sent ++ body.sent
        delivered := true
        produced := sentBytes (connection.helper.receive env.helper (header ++ frame)).events
        header := socketRecvAll env.replyRecv HelperReply.size answered.inbound
        helper := answered.helper }

/-- Once both are sent the helper has answered, and the header is read from what
it has written. -/
theorem exchangeFrame_eq {env : SubmitEnv} {connection : Connection} {header frame : List UInt8}
    (hheader : (socketSendAll env.headerSend header).complete = true)
    (hframe : (socketSendAll env.frameSend frame).complete = true) :
    exchangeFrame env connection header frame =
      { sent := header ++ frame
        delivered := true
        produced := sentBytes (connection.helper.receive env.helper (header ++ frame)).events
        header := socketRecvAll env.replyRecv HelperReply.size (connection.inbound ++
          sentBytes (connection.helper.receive env.helper (header ++ frame)).events)
        helper := .ofNext (connection.helper.receive env.helper (header ++ frame)).next } := by
  unfold exchangeFrame
  simp only [hheader, hframe, socketSendAll_sent hheader, socketSendAll_sent hframe]
  rfl

/-- The header of the reply, when `component_submit` goes on to the payload. -/
def FrameExchange.reply? (exchange : FrameExchange) : Option HelperReply :=
  let reply := HelperReply.decode exchange.header.data
  if exchange.delivered ∧ exchange.header.status = .complete ∧ replyAccepted reply then some reply
  else none

/-- The second stage of `component_submit`: the payload of an accepted reply,
and the queue. -/
def receivePacket (env : SubmitEnv) (component : BridgeComponent) (surface : BridgeSurface)
    (exchange : FrameExchange) (reply : HelperReply) : BridgeComponent × CallRecord :=
  let record : CallRecord :=
    { result := .ok
      sent := exchange.sent
      consumed := exchange.header.data
      produced := exchange.produced
      frameSent := true }
  let atPayload : Connection := { helper := exchange.helper, inbound := exchange.header.rest }
  if reply.payloadSize = 0 then ({ component with helper := some atPayload }, record)
  else if !env.packetMalloc then
    ({ component with helper := some atPayload }, { record with result := .fail })
  else
    let packet := socketRecvAll env.packetRecv reply.payloadSize.toNat exchange.header.rest
    let component := { component with helper := some { atPayload with inbound := packet.rest } }
    let record := { record with consumed := exchange.header.data ++ packet.data }
    if packet.status ≠ .complete then (component, { record with result := .fail })
    else if !env.bufferCreate then (component, { record with result := .outOfMemory })
    else
      match component.outputs.push ⟨packet.data, surface.pts, surface.duration⟩ with
      | none => (component, { record with result := .inputFull })
      | some outputs => ({ component with outputs }, record)

/-- `component_submit`; `data` is `none` for a null pointer and for data that is
no surface of the bridge. -/
def componentSubmit (env : SubmitEnv) (component : BridgeComponent)
    (data : Option BridgeSurface) : BridgeComponent × CallRecord :=
  if !component.initialized then (component, { result := .notInitialized })
  else
    match data with
    | none => (component, { result := .invalidDataType })
    | some surface =>
        match mapSurfaceBytes env.map component surface, component.helper with
        | .error result, _ => (component, { result })
        | .ok _, none => (componentCloseCodec component, { result := .fail })
        | .ok frame, some connection =>
            let exchange := exchangeFrame env connection
              (frameMessage component surface).encode frame
            match exchange.reply? with
            | none =>
                (componentCloseCodec component,
                  { result := .fail
                    sent := exchange.sent
                    consumed := exchange.header.data
                    produced := exchange.produced
                    frameSent := exchange.delivered })
            | some reply => receivePacket env component surface exchange reply

/-! ## The other calls -/

/-- `component_query_output`; `out` says whether the pointer for the result is
not null. -/
def componentQueryOutput (component : BridgeComponent) (out : Bool) :
    BridgeComponent × CallRecord :=
  if !out then (component, { result := .invalidPointer })
  else
    match component.outputs.pop with
    | none => (component, { result := if component.draining then .amfEof else .amfRepeat })
    | some (output, outputs) => ({ component with outputs }, { result := .ok, output })

/-- `component_drain`. -/
def componentDrain (component : BridgeComponent) : BridgeComponent × CallRecord :=
  if !component.initialized then (component, { result := .notInitialized })
  else ({ component with draining := true }, { result := .ok })

/-- `component_flush`. -/
def componentFlush (component : BridgeComponent) : BridgeComponent × CallRecord :=
  if !component.initialized then (component, { result := .notInitialized })
  else ({ component with draining := false }, { result := .ok })

/-- `component_terminate`. -/
def componentTerminate (component : BridgeComponent) : BridgeComponent × CallRecord :=
  (componentCloseCodec component, { result := .ok })

/-- One call of the AMF interface, with what happens during it. -/
inductive ComponentCall where
  | init (env : InitEnv) (format : AMFSurfaceFormat) (width height : Int32)
  | reinit (env : InitEnv) (width height : Int32)
  | submitInput (env : SubmitEnv) (data : Option BridgeSurface)
  | queryOutput (out : Bool)
  | drain
  | flush
  | terminate

/-- The component answers one call at a time. -/
def componentCalls (version : UInt32) : Machine BridgeProcess ComponentCall CallRecord where
  step process call :=
    let onComponent (next : BridgeComponent × CallRecord) : BridgeProcess × CallRecord :=
      ({ process with component := next.1 }, next.2)
    match call with
    | .init env format width height => componentInit version env process format width height
    | .reinit env width height => componentReinit version env process width height
    | .submitInput env data => onComponent (componentSubmit env process.component data)
    | .queryOutput out => onComponent (componentQueryOutput process.component out)
    | .drain => onComponent (componentDrain process.component)
    | .flush => onComponent (componentFlush process.component)
    | .terminate => onComponent (componentTerminate process.component)

/-- `component_query_output` leaves the component as it was, or takes the oldest
packet. -/
theorem componentQueryOutput_cases (component : BridgeComponent) (out : Bool) :
    (∃ result, componentQueryOutput component out = (component, { result }) ∧
        (result = .invalidPointer ∧ out = false ∨ component.outputs.pop = none ∧
          result = if component.draining then .amfEof else .amfRepeat)) ∨
      ∃ output outputs, component.outputs.pop = some (output, outputs) ∧
        componentQueryOutput component out =
          ({ component with outputs }, { result := .ok, output }) := by
  unfold componentQueryOutput
  by_cases hout : out = true
  · simp only [hout, Bool.not_true, Bool.false_eq_true, if_false]
    cases hpop : component.outputs.pop with
    | none => exact Or.inl ⟨_, rfl, Or.inr ⟨rfl, rfl⟩⟩
    | some popped => exact Or.inr ⟨popped.1, popped.2, rfl, rfl⟩
  · simp only [hout, Bool.not_false, if_true]
    exact Or.inl ⟨_, rfl, Or.inl ⟨rfl, trivial⟩⟩

/-! ## How a session is opened -/

/-- A call of `component_init` that succeeds: the socket it uses, which is a new
one unless the component has kept one, and the reply of the helper on it. -/
structure OpenedSession (version : UInt32) (env : InitEnv) (process : BridgeProcess)
    (format : AMFSurfaceFormat) (width height : Int32) where
  connection : Connection
  uninitialized : process.component.initialized = false
  format_eq : format = .nv12
  width_ge : 128 ≤ width
  height_ge : 128 ≤ height
  connection_eq : process.component.helper = some connection ∨
    process.component.helper = none ∧ connection = { helper := .accepted env.helperVersion [] }
  sent : (socketSendAll env.initSend
    (initMessage version process.component.properties width height).encode).complete = true

namespace OpenedSession

variable {version : UInt32} {env : InitEnv} {process : BridgeProcess}
  {format : AMFSurfaceFormat} {width height : Int32}

/-- The first message of the session. -/
def message (_ : OpenedSession version env process format width height) : HelperInitMessage :=
  initMessage version process.component.properties width height

/-- The socket when the helper has answered the first message. -/
def answered (opened : OpenedSession version env process format width height) : Connection :=
  opened.connection.deliver env.helper opened.message.encode

/-- What the read of the reply brings. -/
def recv (opened : OpenedSession version env process format width height) :
    RecvOutcome UInt8 :=
  socketRecvAll env.replyRecv HelperInitReply.size opened.answered.inbound

/-- The reply that `component_init` accepts. -/
def Accepted (opened : OpenedSession version env process format width height) : Prop :=
  opened.recv.status = .complete ∧
    (HelperInitReply.decode opened.recv.data).enabled ≠ 0 ∧
      (HelperInitReply.decode opened.recv.data).protocolVersion = version

/-- The component in the new session. -/
def component (opened : OpenedSession version env process format width height) :
    BridgeComponent :=
  { process.component with
    helper := some { helper := opened.answered.helper, inbound := opened.recv.rest }
    width, height, format
    nextPts := 0
    initialized := true }

end OpenedSession

/-- The handshake, on the socket of the component or on a new one, opens a session or
closes the codec. -/
theorem initExchange_cases (version : UInt32) (env : InitEnv) {process : BridgeProcess}
    {connection : Connection} {format : AMFSurfaceFormat} {width height : Int32}
    (hinit : process.component.initialized = false) (hformat : format = .nv12)
    (hwidth : 128 ≤ width) (hheight : 128 ≤ height)
    (hconnection : process.component.helper = some connection ∨ process.component.helper = none ∧
      connection = { helper := .accepted env.helperVersion [] }) :
    (∃ sent, initExchange version env process connection format width height =
        ({ component := componentCloseCodec process.component
           helperConnectFailureTime := env.failureTick },
          { result := .encoderNotPresent, sent })) ∨
      ∃ opened : OpenedSession version env process format width height,
        opened.Accepted ∧ initExchange version env process connection format width height =
          ({ component := opened.component }, { result := .ok, sent := opened.message.encode
                                                opened := true }) := by
  unfold initExchange
  simp only
  split_ifs with hsend hreply
  · exact Or.inl ⟨_, rfl⟩
  · exact Or.inl ⟨_, rfl⟩
  · have hcomplete : (socketSendAll env.initSend
        (initMessage version process.component.properties width height).encode).complete =
          true := by simpa using hsend
    simp only [not_or, not_not] at hreply
    obtain ⟨hstatus, henabled, hversion⟩ := hreply
    have hsent : (socketSendAll env.initSend
        (initMessage version process.component.properties width height).encode).sent =
          (initMessage version process.component.properties width height).encode :=
      socketSendAll_sent hcomplete
    refine Or.inr ⟨⟨connection, hinit, hformat, hwidth, hheight, hconnection, hcomplete⟩,
      ⟨hstatus, henabled, hversion⟩, ?_⟩
    rw [hsent]
    rfl

/-- `component_init` leaves the component as it was, or closes the codec, or
opens a session. -/
theorem componentInit_cases (version : UInt32) (env : InitEnv) (process : BridgeProcess)
    (format : AMFSurfaceFormat) (width height : Int32) :
    (∃ failureTime result, componentInit version env process format width height =
        ({ process with helperConnectFailureTime := failureTime }, { result }) ∧
          result ≠ .ok) ∨
      (∃ sent, componentInit version env process format width height =
        ({ component := componentCloseCodec process.component
           helperConnectFailureTime := env.failureTick },
          { result := .encoderNotPresent, sent })) ∨
      ∃ opened : OpenedSession version env process format width height,
        opened.Accepted ∧ componentInit version env process format width height =
          ({ component := opened.component }, { result := .ok, sent := opened.message.encode
                                                opened := true }) := by
  unfold componentInit
  simp only
  by_cases hinit : process.component.initialized = true
  · rw [if_pos hinit]
    exact Or.inl ⟨_, _, rfl, by decide⟩
  have huninit : process.component.initialized = false := by simpa using hinit
  rw [if_neg hinit]
  by_cases hrange : format ≠ .nv12 ∨ width < 128 ∨ height < 128
  · rw [if_pos hrange]
    exact Or.inl ⟨_, _, rfl, by decide⟩
  rw [if_neg hrange]
  simp only [not_or, not_not, Int32.not_lt] at hrange
  obtain ⟨hformat, hwidth, hheight⟩ := hrange
  cases hhelper : process.component.helper with
  | some connection =>
    right
    exact initExchange_cases version env huninit hformat hwidth hheight (Or.inl hhelper)
  | none =>
    simp only
    split_ifs with hbackoff hsocket hconnect
    · exact Or.inl ⟨_, _, rfl, by decide⟩
    · exact Or.inl ⟨_, _, rfl, by decide⟩
    · exact Or.inl ⟨_, _, rfl, by decide⟩
    · right
      exact initExchange_cases version env huninit hformat hwidth hheight
        (Or.inr ⟨hhelper, rfl⟩)

/-! ## The two stages of a submitted frame -/

/-- A call of `component_submit` that goes on to the payload: it has sent its
frame, and the header of the reply has arrived and is accepted. -/
structure AcceptedReply (env : SubmitEnv) (component : BridgeComponent)
    (data : Option BridgeSurface) where
  surface : BridgeSurface
  frame : List UInt8
  connection : Connection
  reply : HelperReply
  initialized : component.initialized = true
  data_eq : data = some surface
  frame_eq : mapSurfaceBytes env.map component surface = .ok frame
  helper_eq : component.helper = some connection
  reply_eq : (exchangeFrame env connection (frameMessage component surface).encode
    frame).reply? = some reply

section Submit

variable {env : SubmitEnv} {component : BridgeComponent} {data : Option BridgeSurface}

namespace AcceptedReply

/-- The first stage of the call. -/
def exchange (accepted : AcceptedReply env component data) : FrameExchange :=
  exchangeFrame env accepted.connection (frameMessage component accepted.surface).encode
    accepted.frame

/-- What the read of the payload brings. -/
def packet (accepted : AcceptedReply env component data) : RecvOutcome UInt8 :=
  socketRecvAll env.packetRecv accepted.reply.payloadSize.toNat accepted.exchange.header.rest

theorem exchange_reply (accepted : AcceptedReply env component data) :
    accepted.exchange.delivered = true ∧ accepted.exchange.header.status = .complete ∧
      accepted.reply = HelperReply.decode accepted.exchange.header.data ∧
        replyAccepted accepted.reply = true := by
  have hreply : accepted.exchange.reply? = some accepted.reply := accepted.reply_eq
  unfold FrameExchange.reply? at hreply
  simp only at hreply
  split_ifs at hreply with hcond
  obtain ⟨hdelivered, hstatus, haccept⟩ := hcond
  rw [Option.some.inj hreply] at haccept
  exact ⟨hdelivered, hstatus, (Option.some.inj hreply).symm, haccept⟩

/-- The turn of the helper when the frame reaches it. -/
def turn (accepted : AcceptedReply env component data) : Turn :=
  accepted.connection.helper.receive env.helper
    ((frameMessage component accepted.surface).encode ++ accepted.frame)

/-- The first stage has sent the whole frame and read the header from what the
helper has written. -/
theorem exchange_eq (accepted : AcceptedReply env component data) :
    accepted.exchange =
      { sent := (frameMessage component accepted.surface).encode ++ accepted.frame
        delivered := true
        produced := sentBytes accepted.turn.events
        header := socketRecvAll env.replyRecv HelperReply.size
          (accepted.connection.inbound ++ sentBytes accepted.turn.events)
        helper := .ofNext accepted.turn.next } := by
  have hdelivered := accepted.exchange_reply.1
  unfold exchange exchangeFrame at hdelivered
  simp only at hdelivered
  split_ifs at hdelivered with hheader hframe
  exact exchangeFrame_eq (by simpa using hheader) (by simpa using hframe)

/-- The header of an accepted reply has arrived completely. -/
theorem header_length (accepted : AcceptedReply env component data) :
    accepted.exchange.header.data.length = HelperReply.size := by
  have hstatus := accepted.exchange_reply.2.1
  rw [accepted.exchange_eq] at hstatus ⊢
  exact (recvLoop_complete_iff_length _ _ _ _).mp hstatus

end AcceptedReply

/-- The record of a call of `component_submit` that closes the codec: there is no
socket, or the exchange fails or is refused. -/
inductive ClosedRecord (env : SubmitEnv) (component : BridgeComponent) : CallRecord → Prop
  | noSocket (hhelper : component.helper = none) : ClosedRecord env component { result := .fail }
  | refused (connection : Connection) (header frame : List UInt8)
      (hhelper : component.helper = some connection)
      (hreply : (exchangeFrame env connection header frame).reply? = none) :
      ClosedRecord env component
        { result := .fail
          sent := (exchangeFrame env connection header frame).sent
          consumed := (exchangeFrame env connection header frame).header.data
          produced := (exchangeFrame env connection header frame).produced
          frameSent := (exchangeFrame env connection header frame).delivered }

/-- A call that closes the codec fails, and hands out nothing. -/
theorem ClosedRecord.result_eq {record : CallRecord} (h : ClosedRecord env component record) :
    record.result = .fail ∧ record.opened = false ∧ record.output = none := by
  cases h with
  | noSocket => exact ⟨rfl, rfl, rfl⟩
  | refused => exact ⟨rfl, rfl, rfl⟩

/-- A call of `component_submit` returns early and leaves the component as it
was, or closes the codec, or goes on to the payload. -/
theorem componentSubmit_cases (env : SubmitEnv) (component : BridgeComponent)
    (data : Option BridgeSurface) :
    (∃ result, componentSubmit env component data = (component, { result }) ∧
        result ≠ .ok ∧ result ≠ .inputFull) ∨
      (∃ record, componentSubmit env component data = (componentCloseCodec component, record) ∧
        ClosedRecord env component record) ∨
      ∃ accepted : AcceptedReply env component data,
        componentSubmit env component data =
          receivePacket env component accepted.surface accepted.exchange accepted.reply := by
  unfold componentSubmit
  by_cases hinit : component.initialized = true
  · simp only [hinit, Bool.not_true, Bool.false_eq_true, if_false]
    cases data with
    | none => exact Or.inl ⟨_, rfl, by decide, by decide⟩
    | some surface =>
      cases hmap : mapSurfaceBytes env.map component surface with
      | error result =>
        left
        refine ⟨result, by simp only [hmap], ?_⟩
        unfold mapSurfaceBytes at hmap
        split_ifs at hmap
        all_goals
          obtain rfl := Except.error.inj hmap
          decide
      | ok frame =>
        cases hhelper : component.helper with
        | none =>
          right
          left
          simp only [hmap]
          exact ⟨_, rfl, .noSocket hhelper⟩
        | some connection =>
          simp only [hmap]
          cases hreply : (exchangeFrame env connection (frameMessage component surface).encode
              frame).reply? with
          | none =>
            exact Or.inr (Or.inl ⟨_, rfl, .refused connection _ frame hhelper hreply⟩)
          | some reply =>
            exact Or.inr (Or.inr
              ⟨⟨surface, frame, connection, reply, hinit, rfl, hmap, hhelper, hreply⟩, rfl⟩)
  · simp only [hinit, Bool.not_false, if_true]
    exact Or.inl ⟨_, rfl, by decide, by decide⟩

/-- A call that goes on to the payload is the second stage of
`component_submit`. -/
theorem AcceptedReply.componentSubmit_eq (accepted : AcceptedReply env component data) :
    componentSubmit env component data =
      receivePacket env component accepted.surface accepted.exchange accepted.reply := by
  obtain ⟨surface, frame, connection, reply, hinit, rfl, hmap, hhelper, hreply⟩ := accepted
  unfold componentSubmit
  simp only [hinit, hmap, hhelper, hreply, Bool.not_true, Bool.false_eq_true, if_false]
  rfl

namespace AcceptedReply

variable (accepted : AcceptedReply env component data)

/-- The socket before the payload is read. -/
def atPayload : Connection :=
  { helper := accepted.exchange.helper, inbound := accepted.exchange.header.rest }

/-- The socket after the payload is read. -/
def afterPayload : Connection :=
  { helper := accepted.exchange.helper, inbound := accepted.packet.rest }

/-- The buffer for the payload. -/
def buffer : BridgeBuffer :=
  ⟨accepted.packet.data, accepted.surface.pts, accepted.surface.duration⟩

/-- The record of the call before the payload is read. -/
def record : CallRecord where
  result := .ok
  sent := accepted.exchange.sent
  consumed := accepted.exchange.header.data
  produced := accepted.exchange.produced
  frameSent := true

/-- The record of the call after the payload is read. -/
def packetRecord : CallRecord :=
  { accepted.record with consumed := accepted.exchange.header.data ++ accepted.packet.data }

/-- How the second stage of `component_submit` ends. -/
inductive Outcome : BridgeComponent × CallRecord → Prop
  | empty (hsize : accepted.reply.payloadSize = 0) :
      Outcome ({ component with helper := some accepted.atPayload }, accepted.record)
  | noMemory (hsize : accepted.reply.payloadSize ≠ 0) (hmalloc : env.packetMalloc = false) :
      Outcome ({ component with helper := some accepted.atPayload },
        { accepted.record with result := .fail })
  | short (hsize : accepted.reply.payloadSize ≠ 0) (hmalloc : env.packetMalloc = true)
      (hstatus : accepted.packet.status ≠ .complete) :
      Outcome ({ component with helper := some accepted.afterPayload },
        { accepted.packetRecord with result := .fail })
  | noBuffer (hsize : accepted.reply.payloadSize ≠ 0) (hmalloc : env.packetMalloc = true)
      (hstatus : accepted.packet.status = .complete) (hbuffer : env.bufferCreate = false) :
      Outcome ({ component with helper := some accepted.afterPayload },
        { accepted.packetRecord with result := .outOfMemory })
  | full (hsize : accepted.reply.payloadSize ≠ 0) (hmalloc : env.packetMalloc = true)
      (hstatus : accepted.packet.status = .complete) (hbuffer : env.bufferCreate = true)
      (hpush : component.outputs.push accepted.buffer = none) :
      Outcome ({ component with helper := some accepted.afterPayload },
        { accepted.packetRecord with result := .inputFull })
  | queued (outputs : Ring BridgeBuffer bridgeMaxOutputs)
      (hsize : accepted.reply.payloadSize ≠ 0) (hmalloc : env.packetMalloc = true)
      (hstatus : accepted.packet.status = .complete) (hbuffer : env.bufferCreate = true)
      (hpush : component.outputs.push accepted.buffer = some outputs) :
      Outcome ({ component with helper := some accepted.afterPayload, outputs },
        accepted.packetRecord)

/-- The second stage of `component_submit` ends in one of these ways. -/
theorem receivePacket_outcome :
    accepted.Outcome (receivePacket env component accepted.surface accepted.exchange
      accepted.reply) := by
  unfold receivePacket
  simp only
  split_ifs with hsize hmalloc hstatus hbuffer
  · exact .empty hsize
  · exact .noMemory hsize (by simpa using hmalloc)
  · exact .short hsize (by simpa using hmalloc) hstatus
  · exact .noBuffer hsize (by simpa using hmalloc) (not_not.mp hstatus) (by simpa using hbuffer)
  · have hmalloc' : env.packetMalloc = true := by simpa using hmalloc
    have hbuffer' : env.bufferCreate = true := by simpa using hbuffer
    split
    next hpush => exact .full hsize hmalloc' (not_not.mp hstatus) hbuffer' hpush
    next outputs hpush =>
      exact .queued outputs hsize hmalloc' (not_not.mp hstatus) hbuffer' hpush

end AcceptedReply

/-- A call of `component_submit` returns early and leaves the component as it
was, or closes the codec, or ends in an outcome of the second stage. -/
theorem componentSubmit_outcome (env : SubmitEnv) (component : BridgeComponent)
    (data : Option BridgeSurface) :
    (∃ result, componentSubmit env component data = (component, { result }) ∧
        result ≠ .ok ∧ result ≠ .inputFull) ∨
      (∃ record, componentSubmit env component data = (componentCloseCodec component, record) ∧
        ClosedRecord env component record) ∨
      ∃ accepted : AcceptedReply env component data,
        accepted.Outcome (componentSubmit env component data) := by
  rcases componentSubmit_cases env component data with hquiet | hclosed | ⟨accepted, heq⟩
  · exact Or.inl hquiet
  · exact Or.inr (Or.inl hclosed)
  · rw [heq]
    exact Or.inr (Or.inr ⟨accepted, accepted.receivePacket_outcome⟩)

/-- A call of `component_submit` hands out nothing. -/
theorem componentSubmit_output_eq_none (env : SubmitEnv) (component : BridgeComponent)
    (data : Option BridgeSurface) : (componentSubmit env component data).2.output = none := by
  rcases componentSubmit_outcome env component data with
    ⟨_, heq, -⟩ | ⟨_, heq, hclosed⟩ | ⟨accepted, houtcome⟩
  · rw [heq]
  · rw [heq]
    exact hclosed.result_eq.2.2
  · generalize componentSubmit env component data = next at houtcome ⊢
    cases houtcome <;> rfl

end Submit

end UuAmfBridge
