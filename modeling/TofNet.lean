import TofNet.Transition
import TofNet.LittleEndian
import TofNet.Protocol
import TofNet.Socket
import TofNet.Framing
import TofNet.Unpacking
import TofNet.ZstdCodec
import TofNet.RawBlocks
import TofNet.RawFrame
import TofNet.Session
import TofNet.SessionControl
import TofNet.CaptureState
import TofNet.Wire
import TofNet.Text
import TofNet.DirectConfig
import TofNet.PixelLayout
import TofNet.ModeInfo
import TofNet.Dealias
import TofNet.DealiasIdentity
import TofNet.VideoQueue
import TofNet.Sensor
import TofNet.Camera
import TofNet.ModeLabel
import TofNet.StartStop
import TofNet.CaptureRun
import TofNet.Overrides
import TofNet.ItofCamera
import TofNet.PathIndependence
import TofNet.TofiLibrary
import TofNet.TofiCache
import TofNet.Calibration
import TofNet.CalibrationOrder
import TofNet.ComputeBounds
import TofNet.LayoutAgreement
import TofNet.DeInterleave
import TofNet.SaveSession
import TofNet.SaveBook
import TofNet.ModeAgreement
import TofNet.CaptureMixing
import TofNet.EarlyExit
import TofNet.BurstMode
import TofNet.BurstLeft
import TofNet.DisplayView
import TofNet.DisplayBarrier
import TofNet.Listener
import TofNet.ListenerLifecycle
import TofNet.ListenerStop
import TofNet.OutputStream
import TofNet.ReceivedFile
import TofNet.InputStream
import TofNet.Recorder
import TofNet.Recordings
import TofNet.Playback
import TofNet.JsonText
import TofNet.JsonString
import TofNet.ModuleMemory
import TofNet.ModuleJson
import TofNet.ModuleImage
import TofNet.ModuleBounds
import TofNet.Chase
import TofNet.ChunkChain
import TofNet.ModuleRounds
import TofNet.ModuleContract
import TofNet.Lockstep
import TofNet.CcbReaders
import TofNet.BufferOwnership
import TofNet.Ledger
import TofNet.SensorResources
import TofNet.SensorLifecycle
import TofNet.SensorControls
import TofNet.Mailbox
import TofNet.LatestFrame
import TofNet.FrameStorage
import TofNet.FrameLayout
import TofNet.PlaneSize
import TofNet.RequestFrame
import TofNet.CsvText
import TofNet.SavedText
import TofNet.FsPath
import TofNet.SessionDir
import TofNet.ArrayLoop
import TofNet.XyzTables
import TofNet.ModeIntrinsics
import TofNet.IniAgreement
import TofNet.FirmwareUpdate
import TofNet.WaitGraph
import TofNet.Programs
import TofNet.CollectorScopes
import TofNet.ViewerScopes
import TofNet.Standstill
import TofNet.BinaryDivision
import TofNet.CrcDivision
import TofNet.CcbBlocks
import TofNet.CcbIndex
import TofNet.PacketStream
import TofNet.UsbGadget
import TofNet.UsbRequests
import TofNet.UsbSession
import TofNet.Simulation
import TofNet.ControlPackets
import TofNet.ControlRuns
import TofNet.Fragments
import TofNet.NetworkMessages
import TofNet.NetworkCalls
import TofNet.NetworkRuns
import TofNet.Admission
import TofNet.BitFields
import TofNet.SensorDriver
import TofNet.SensorDriverRuns
import TofNet.SensorWake
import TofNet.IniImager
