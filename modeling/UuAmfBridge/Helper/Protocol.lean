import UuAmfBridge.Lib.LittleEndian

/-!
# The helper protocol

The messages between the AMF bridge and the encode/decode helper
(`src/helper_protocol.h`), with the packed layout both sides read and write.
`encode` is the byte image of a structure and `decode` reads one back.
-/

namespace UuAmfBridge

def helperMagic : UInt32 := 0x31464d41
def helperInit : UInt32 := 1
def helperFrame : UInt32 := 2
def helperReply : UInt32 := 3
def helperDecoderInit : UInt32 := 4
def helperDecodePacket : UInt32 := 5
def helperProtocolVersion : UInt32 := 2

/-- `HelperInitMessage`: the first message of a session. -/
structure HelperInitMessage where
  magic : UInt32
  type : UInt32
  width : UInt32
  height : UInt32
  format : UInt32
  reserved : UInt32
  bitrate : UInt64
  fpsNum : UInt32
  fpsDen : UInt32
  deriving Repr, DecidableEq

/-- `HelperFrameMessage`: the header of a frame or of an access unit. -/
structure HelperFrameMessage where
  magic : UInt32
  type : UInt32
  payloadSize : UInt32
  reserved : UInt32
  pts : Int64
  duration : Int64
  deriving Repr, DecidableEq

/-- `HelperInitReply`: the answer to a `HelperInitMessage`. -/
structure HelperInitReply where
  enabled : Int32
  protocolVersion : UInt32
  deriving Repr, DecidableEq

/-- `HelperReply`: the answer to a `HelperFrameMessage`, followed by
`payloadSize` bytes. -/
structure HelperReply where
  magic : UInt32
  type : UInt32
  status : UInt32
  payloadSize : UInt32
  width : UInt32
  height : UInt32
  deriving Repr, DecidableEq

namespace HelperInitMessage

def size : Nat := 40

def encode (m : HelperInitMessage) : List UInt8 :=
  u32Bytes m.magic ++ (u32Bytes m.type ++ (u32Bytes m.width ++ (u32Bytes m.height ++
    (u32Bytes m.format ++ (u32Bytes m.reserved ++ (u64Bytes m.bitrate ++
      (u32Bytes m.fpsNum ++ u32Bytes m.fpsDen)))))))

def decode (bytes : List UInt8) : HelperInitMessage :=
  let (magic, bytes) := takeU32 bytes
  let (type, bytes) := takeU32 bytes
  let (width, bytes) := takeU32 bytes
  let (height, bytes) := takeU32 bytes
  let (format, bytes) := takeU32 bytes
  let (reserved, bytes) := takeU32 bytes
  let (bitrate, bytes) := takeU64 bytes
  let (fpsNum, bytes) := takeU32 bytes
  let (fpsDen, _) := takeU32 bytes
  { magic, type, width, height, format, reserved, bitrate, fpsNum, fpsDen }

@[simp] theorem encode_length (m : HelperInitMessage) : m.encode.length = size := by
  simp [encode, size]

@[simp] theorem decode_encode (m : HelperInitMessage) : decode m.encode = m := by
  simp [encode, decode]

end HelperInitMessage

namespace HelperFrameMessage

def size : Nat := 32

def encode (m : HelperFrameMessage) : List UInt8 :=
  u32Bytes m.magic ++ (u32Bytes m.type ++ (u32Bytes m.payloadSize ++
    (u32Bytes m.reserved ++ (i64Bytes m.pts ++ i64Bytes m.duration))))

def decode (bytes : List UInt8) : HelperFrameMessage :=
  let (magic, bytes) := takeU32 bytes
  let (type, bytes) := takeU32 bytes
  let (payloadSize, bytes) := takeU32 bytes
  let (reserved, bytes) := takeU32 bytes
  let (pts, bytes) := takeI64 bytes
  let (duration, _) := takeI64 bytes
  { magic, type, payloadSize, reserved, pts, duration }

@[simp] theorem encode_length (m : HelperFrameMessage) : m.encode.length = size := by
  simp [encode, size]

@[simp] theorem decode_encode (m : HelperFrameMessage) : decode m.encode = m := by
  have hlast : takeI64 (i64Bytes m.duration) = (m.duration, []) := by
    simpa using takeI64_append m.duration []
  simp [encode, decode, hlast]

end HelperFrameMessage

namespace HelperInitReply

def size : Nat := 8

def encode (m : HelperInitReply) : List UInt8 :=
  i32Bytes m.enabled ++ u32Bytes m.protocolVersion

def decode (bytes : List UInt8) : HelperInitReply :=
  let (enabled, bytes) := takeI32 bytes
  let (protocolVersion, _) := takeU32 bytes
  { enabled, protocolVersion }

@[simp] theorem encode_length (m : HelperInitReply) : m.encode.length = size := by
  simp [encode, size]

@[simp] theorem decode_encode (m : HelperInitReply) : decode m.encode = m := by
  simp [encode, decode]

end HelperInitReply

namespace HelperReply

def size : Nat := 24

def encode (m : HelperReply) : List UInt8 :=
  u32Bytes m.magic ++ (u32Bytes m.type ++ (u32Bytes m.status ++
    (u32Bytes m.payloadSize ++ (u32Bytes m.width ++ u32Bytes m.height))))

def decode (bytes : List UInt8) : HelperReply :=
  let (magic, bytes) := takeU32 bytes
  let (type, bytes) := takeU32 bytes
  let (status, bytes) := takeU32 bytes
  let (payloadSize, bytes) := takeU32 bytes
  let (width, bytes) := takeU32 bytes
  let (height, _) := takeU32 bytes
  { magic, type, status, payloadSize, width, height }

@[simp] theorem encode_length (m : HelperReply) : m.encode.length = size := by
  simp [encode, size]

@[simp] theorem decode_encode (m : HelperReply) : decode m.encode = m := by
  simp [encode, decode]

end HelperReply

end UuAmfBridge
