import UuAmfBridge.Lib.LittleEndian

/-!
# The capture protocol

The messages between the capture hook in the UU process and the capture helper
(`src/capture_protocol.h`), with the packed layout both sides read and write.
A request begins with four words, and the fourth one means the token size of an
authentication or the number of events of an input request.
-/

namespace UuAmfBridge

def captureMagic : UInt32 := 0x31504355
def captureRequest : UInt32 := 1
def captureReply : UInt32 := 2
def captureInputRequest : UInt32 := 3
def captureInputReply : UInt32 := 4
def captureAuthRequest : UInt32 := 5
def captureAuthReply : UInt32 := 6
def captureProtocolVersion : UInt32 := 2
def captureMaxInputEvents : UInt32 := 64
def captureAuthTokenSize : UInt32 := 64
def captureInputMouse : UInt32 := 0
def captureInputKeyboard : UInt32 := 1

/-- `CaptureRequest`; `CaptureInputRequest` and the head of `CaptureAuthRequest`
have the same four words. -/
structure CaptureRequest where
  magic : UInt32
  type : UInt32
  protocolVersion : UInt32
  reserved : UInt32
  deriving Repr, DecidableEq

/-- `CaptureReply`: the answer to a frame request, followed by `payloadSize`
bytes. -/
structure CaptureReply where
  magic : UInt32
  type : UInt32
  protocolVersion : UInt32
  status : UInt32
  width : UInt32
  height : UInt32
  stride : UInt32
  payloadSize : UInt32
  deriving Repr, DecidableEq

/-- `CaptureInputEvent`. -/
structure CaptureInputEvent where
  type : UInt32
  dx : Int32
  dy : Int32
  mouseData : UInt32
  flags : UInt32
  virtualKey : UInt16
  scanCode : UInt16
  deriving DecidableEq

/-- `CaptureInputReply`. -/
structure CaptureInputReply where
  magic : UInt32
  type : UInt32
  protocolVersion : UInt32
  status : UInt32
  acceptedCount : UInt32
  deriving Repr, DecidableEq

/-- `CaptureAuthReply`. -/
structure CaptureAuthReply where
  magic : UInt32
  type : UInt32
  protocolVersion : UInt32
  status : UInt32
  deriving Repr, DecidableEq

namespace CaptureRequest

def size : Nat := 16

def encode (m : CaptureRequest) : List UInt8 :=
  u32Bytes m.magic ++ (u32Bytes m.type ++ (u32Bytes m.protocolVersion ++ u32Bytes m.reserved))

def decode (bytes : List UInt8) : CaptureRequest :=
  let (magic, bytes) := takeU32 bytes
  let (type, bytes) := takeU32 bytes
  let (protocolVersion, bytes) := takeU32 bytes
  let (reserved, _) := takeU32 bytes
  { magic, type, protocolVersion, reserved }

@[simp] theorem encode_length (m : CaptureRequest) : m.encode.length = size := by
  simp [encode, size]

@[simp] theorem decode_encode (m : CaptureRequest) : decode m.encode = m := by
  simp [encode, decode]

/-- A request that has arrived whole is the encoding of what is read from it. -/
theorem encode_decode {bytes : List UInt8} (h : bytes.length = size) :
    (decode bytes).encode = bytes := by
  have hlength : bytes.length = 16 := h
  let type := bytes.drop 4
  let protocolVersion := type.drop 4
  let reserved := protocolVersion.drop 4
  have htype : type.length = 12 := by simp [type, hlength]
  have hversion : protocolVersion.length = 8 := by simp [protocolVersion, htype]
  have hreserved : reserved.length = 4 := by simp [reserved, hversion]
  have hbytesEq : bytes = u32Bytes (takeU32 bytes).1 ++ type := eq_append_of_takeU32 (by omega)
  have htypeEq : type = u32Bytes (takeU32 type).1 ++ protocolVersion :=
    eq_append_of_takeU32 (by omega)
  have hversionEq : protocolVersion = u32Bytes (takeU32 protocolVersion).1 ++ reserved :=
    eq_append_of_takeU32 (by omega)
  have hreservedEq : reserved = u32Bytes (takeU32 reserved).1 := by
    have hend : (takeU32 reserved).2 = [] := List.drop_of_length_le hreserved.le
    have happend := eq_append_of_takeU32 hreserved.ge
    rwa [hend, List.append_nil] at happend
  calc (decode bytes).encode
      = u32Bytes (takeU32 bytes).1 ++ (u32Bytes (takeU32 type).1 ++
          (u32Bytes (takeU32 protocolVersion).1 ++ u32Bytes (takeU32 reserved).1)) := rfl
    _ = bytes := by rw [← hreservedEq, ← hversionEq, ← htypeEq, ← hbytesEq]

end CaptureRequest

namespace CaptureReply

def size : Nat := 32

def encode (m : CaptureReply) : List UInt8 :=
  u32Bytes m.magic ++ (u32Bytes m.type ++ (u32Bytes m.protocolVersion ++ (u32Bytes m.status ++
    (u32Bytes m.width ++ (u32Bytes m.height ++ (u32Bytes m.stride ++
      u32Bytes m.payloadSize))))))

def decode (bytes : List UInt8) : CaptureReply :=
  let (magic, bytes) := takeU32 bytes
  let (type, bytes) := takeU32 bytes
  let (protocolVersion, bytes) := takeU32 bytes
  let (status, bytes) := takeU32 bytes
  let (width, bytes) := takeU32 bytes
  let (height, bytes) := takeU32 bytes
  let (stride, bytes) := takeU32 bytes
  let (payloadSize, _) := takeU32 bytes
  { magic, type, protocolVersion, status, width, height, stride, payloadSize }

@[simp] theorem encode_length (m : CaptureReply) : m.encode.length = size := by
  simp [encode, size]

@[simp] theorem decode_encode (m : CaptureReply) : decode m.encode = m := by
  simp [encode, decode]

end CaptureReply

namespace CaptureInputEvent

def size : Nat := 24

def encode (m : CaptureInputEvent) : List UInt8 :=
  u32Bytes m.type ++ (i32Bytes m.dx ++ (i32Bytes m.dy ++ (u32Bytes m.mouseData ++
    (u32Bytes m.flags ++ (u16Bytes m.virtualKey ++ u16Bytes m.scanCode)))))

def decode (bytes : List UInt8) : CaptureInputEvent :=
  let (type, bytes) := takeU32 bytes
  let (dx, bytes) := takeI32 bytes
  let (dy, bytes) := takeI32 bytes
  let (mouseData, bytes) := takeU32 bytes
  let (flags, bytes) := takeU32 bytes
  let (virtualKey, bytes) := takeU16 bytes
  let (scanCode, _) := takeU16 bytes
  { type, dx, dy, mouseData, flags, virtualKey, scanCode }

@[simp] theorem encode_length (m : CaptureInputEvent) : m.encode.length = size := by
  simp [encode, size]

@[simp] theorem decode_encode (m : CaptureInputEvent) : decode m.encode = m := by
  have hlast : takeU16 (u16Bytes m.scanCode) = (m.scanCode, []) := by
    simpa using takeU16_append m.scanCode []
  simp [encode, decode, hlast]

/-- The events of an input request, one after the other. -/
def encodeAll (events : List CaptureInputEvent) : List UInt8 := events.flatMap encode

/-- `count` events off the front. -/
def decodeAll : Nat → List UInt8 → List CaptureInputEvent
  | 0, _ => []
  | count + 1, bytes => decode (bytes.take size) :: decodeAll count (bytes.drop size)

@[simp] theorem encodeAll_length (events : List CaptureInputEvent) :
    (encodeAll events).length = size * events.length := by
  induction events with
  | nil => rfl
  | cons event events ih =>
    simp only [encodeAll, List.flatMap_cons, List.length_append, encode_length,
      List.length_cons] at ih ⊢
    rw [ih]
    ring

@[simp] theorem decodeAll_encodeAll (events : List CaptureInputEvent) :
    decodeAll events.length (encodeAll events) = events := by
  induction events with
  | nil => rfl
  | cons event events ih =>
    have hsize := encode_length event
    show decode (((event.encode ++ encodeAll events)).take size) ::
      decodeAll events.length ((event.encode ++ encodeAll events).drop size) = event :: events
    rw [List.take_left' hsize, List.drop_left' hsize, decode_encode, ih]

end CaptureInputEvent

namespace CaptureInputReply

def size : Nat := 20

def encode (m : CaptureInputReply) : List UInt8 :=
  u32Bytes m.magic ++ (u32Bytes m.type ++ (u32Bytes m.protocolVersion ++ (u32Bytes m.status ++
    u32Bytes m.acceptedCount)))

def decode (bytes : List UInt8) : CaptureInputReply :=
  let (magic, bytes) := takeU32 bytes
  let (type, bytes) := takeU32 bytes
  let (protocolVersion, bytes) := takeU32 bytes
  let (status, bytes) := takeU32 bytes
  let (acceptedCount, _) := takeU32 bytes
  { magic, type, protocolVersion, status, acceptedCount }

@[simp] theorem encode_length (m : CaptureInputReply) : m.encode.length = size := by
  simp [encode, size]

@[simp] theorem decode_encode (m : CaptureInputReply) : decode m.encode = m := by
  simp [encode, decode]

end CaptureInputReply

namespace CaptureAuthReply

def size : Nat := 16

def encode (m : CaptureAuthReply) : List UInt8 :=
  u32Bytes m.magic ++ (u32Bytes m.type ++ (u32Bytes m.protocolVersion ++ u32Bytes m.status))

def decode (bytes : List UInt8) : CaptureAuthReply :=
  let (magic, bytes) := takeU32 bytes
  let (type, bytes) := takeU32 bytes
  let (protocolVersion, bytes) := takeU32 bytes
  let (status, _) := takeU32 bytes
  { magic, type, protocolVersion, status }

@[simp] theorem encode_length (m : CaptureAuthReply) : m.encode.length = size := by
  simp [encode, size]

@[simp] theorem decode_encode (m : CaptureAuthReply) : decode m.encode = m := by
  simp [encode, decode]

end CaptureAuthReply

end UuAmfBridge
