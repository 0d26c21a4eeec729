import UuAmfBridge.Lib.Machine
import UuAmfBridge.Lib.ByteStream
import UuAmfBridge.Lib.LittleEndian
import UuAmfBridge.Lib.StridedCopy
import UuAmfBridge.Lib.NearestSampling
import UuAmfBridge.Lib.RingQueue
import UuAmfBridge.Lib.RingRun
import UuAmfBridge.Lib.RefCount
import UuAmfBridge.Lib.Ownership
import UuAmfBridge.Lib.Shell
import UuAmfBridge.Lib.SavedSlot
import UuAmfBridge.Lib.KeyedList
import UuAmfBridge.Lib.FixedWidth
import UuAmfBridge.Lib.BitString
import UuAmfBridge.Lib.StartCode
import UuAmfBridge.Lib.Utf8
import UuAmfBridge.Lib.H264Syntax
import UuAmfBridge.Helper.Protocol
import UuAmfBridge.Helper.Codec
import UuAmfBridge.Helper.Session
import UuAmfBridge.Helper.CodecSafety
import UuAmfBridge.Helper.Framing
import UuAmfBridge.Helper.ClientSlots
import UuAmfBridge.Helper.Resources
import UuAmfBridge.Bridge.Component
import UuAmfBridge.Bridge.ClientSync
import UuAmfBridge.Bridge.OpenEncoder
import UuAmfBridge.Bridge.PacketQueue
import UuAmfBridge.Bridge.SessionStart
import UuAmfBridge.Bridge.PacketTimestamps
import UuAmfBridge.Bridge.FrameTransfer
import UuAmfBridge.Bridge.PropertyStore
import UuAmfBridge.Bridge.HelperPort
import UuAmfBridge.Bridge.HostBuffers
import UuAmfBridge.Bridge.VulkanComponent
import UuAmfBridge.Bridge.OutputRing
import UuAmfBridge.Launcher.CommandLine
import UuAmfBridge.Install.Host
import UuAmfBridge.Install.ServerBinary
import UuAmfBridge.Install.Rollback
import UuAmfBridge.Install.Interrupted
import UuAmfBridge.Guard.Upgrade
import UuAmfBridge.Guard.Session
import UuAmfBridge.Dxva.BitWriter
import UuAmfBridge.Dxva.ExpGolomb
import UuAmfBridge.Dxva.ParameterSets
import UuAmfBridge.Dxva.ParameterBytes
import UuAmfBridge.Dxva.CodedFrame
import UuAmfBridge.Dxva.Decoder
import UuAmfBridge.Dxva.Upload
import UuAmfBridge.Dxva.Scaling
import UuAmfBridge.Dxva.DecoderClient
import UuAmfBridge.Dxva.EndFrame
import UuAmfBridge.Dxva.DecoderBuffers
import UuAmfBridge.Dxva.BufferBounds
import UuAmfBridge.Dxva.FrameSize
import UuAmfBridge.Dxva.UploadBounds
import UuAmfBridge.Dxva.DecodeOnce
import UuAmfBridge.Dxva.Reconnect
import UuAmfBridge.Dxva.Runtimes
import UuAmfBridge.Capture.Protocol
import UuAmfBridge.Capture.KeyCodes
import UuAmfBridge.Capture.EisInput
import UuAmfBridge.Capture.EisRetry
import UuAmfBridge.Capture.UinputInput
import UuAmfBridge.Capture.InputBackends
import UuAmfBridge.Capture.RefusedInput
import UuAmfBridge.Capture.InputOwnership
import UuAmfBridge.Capture.ScrollDistance
import UuAmfBridge.Capture.FrameState
import UuAmfBridge.Capture.Helper
import UuAmfBridge.Capture.Hook
import UuAmfBridge.Capture.RequestPairing
import UuAmfBridge.Capture.BitBlt
import UuAmfBridge.Capture.Authentication
import UuAmfBridge.Capture.Readiness
import UuAmfBridge.Capture.InputOnce
import UuAmfBridge.Capture.ChunkedInput
import UuAmfBridge.Capture.KwinFrame
import UuAmfBridge.Capture.Resources
import UuAmfBridge.Capture.RestoreToken
import UuAmfBridge.Capture.ImportTable
import UuAmfBridge.Capture.ImportHooks
import UuAmfBridge.Objects.Calls
import UuAmfBridge.Objects.Lifetimes
import UuAmfBridge.Launcher.CompatHook
import UuAmfBridge.Launcher.Injection
