import Autoscrcpy.Adb.Resume
import Autoscrcpy.Adb.Framing
import Autoscrcpy.Adb.Lifecycle
import Autoscrcpy.Adb.PeerClose
import Autoscrcpy.Adb.ReceiveSites
import Autoscrcpy.Adb.PayloadReads
import Autoscrcpy.Adb.SessionRuns
import Autoscrcpy.Adb.Checksums
import Autoscrcpy.Device.Reader
import Autoscrcpy.Device.ControlSocket
import Autoscrcpy.Device.Senders
import Autoscrcpy.Device.ReceiveLoops
import Autoscrcpy.Device.SendThreads
import Autoscrcpy.Device.Descriptors
import Autoscrcpy.Device.PushResult
import Autoscrcpy.Device.Demuxer
import Autoscrcpy.Device.ControlReads
import Autoscrcpy.Device.DeviceMsgCodec
import Autoscrcpy.Device.DeviceMsgMemory
import Autoscrcpy.Control.KeyRuns
import Autoscrcpy.Control.TouchRuns
import Autoscrcpy.Control.ControlStream
import Autoscrcpy.Pipeline.VideoThread
import Autoscrcpy.Pipeline.CaptureRuns
import Autoscrcpy.Script.Query
import Autoscrcpy.Script.QueueRuns
import Autoscrcpy.Script.ProcessPass
import Autoscrcpy.Script.QueueDrain
import Autoscrcpy.Script.Commands
import Autoscrcpy.Script.CommandRoundTrip
import Autoscrcpy.Script.ResponseRoundTrip
import Autoscrcpy.Script.Events
import Autoscrcpy.App.Dial
import Autoscrcpy.App.ConfigLines
import Autoscrcpy.App.CliPasses
import Autoscrcpy.Device.ServerCommand
import Autoscrcpy.Device.SyncStream
import Autoscrcpy.Adb.BannerCopy
import Autoscrcpy.Device.Acknowledge
import Autoscrcpy.Audio.RegulatorQueue
import Autoscrcpy.Pipeline.FrameReads
import Autoscrcpy.Control.PointerEvents
import Autoscrcpy.Render.AspectRatio
import Autoscrcpy.Render.TextureCache
import Autoscrcpy.Record.Recorder
import Autoscrcpy.Script.Swipe
import Autoscrcpy.Pipeline.StreamPath
import Autoscrcpy.Device.ControlPath
import Autoscrcpy.Render.D3DContext
import Autoscrcpy.App.MainLoop
import Autoscrcpy.Pipeline.FrameMemory
import Autoscrcpy.Script.Engine
import Autoscrcpy.Decode.PacketQueue
import Autoscrcpy.Script.ReplWindow
import Autoscrcpy.Adb.Connect
