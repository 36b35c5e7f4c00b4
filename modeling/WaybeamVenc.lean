import WaybeamVenc.RingWakeup
import WaybeamVenc.Reinit
import WaybeamVenc.AudioTarget
import WaybeamVenc.LiveFps
import WaybeamVenc.RecorderOwnership
import WaybeamVenc.TsRoundTrip
import WaybeamVenc.HevcRoundTrip
import WaybeamVenc.SetTransaction
import WaybeamVenc.Interleaving
import WaybeamVenc.ConfigLoad
import WaybeamVenc.ConfigReload
import WaybeamVenc.LiveDestination
import WaybeamVenc.DualBitrate
import WaybeamVenc.IdrAgreement
import WaybeamVenc.ConfigSections
import WaybeamVenc.ConfigSave
import WaybeamVenc.ConfigFixpoint
import WaybeamVenc.LoaderAgreement
import WaybeamVenc.ByteBuffer
import WaybeamVenc.FrameAgreement
import WaybeamVenc.IqBuffers
import WaybeamVenc.IqRoundTrip
import WaybeamVenc.RingTransport
import WaybeamVenc.SidecarTiling
import WaybeamVenc.TransportAgreement
import WaybeamVenc.PipelineGeometry
import WaybeamVenc.RecorderFiles
import WaybeamVenc.RecorderSegments
import WaybeamVenc.GopTiming
import WaybeamVenc.RecordControl
import WaybeamVenc.MarukoRoundTrip
import WaybeamVenc.ParamFreshness
import WaybeamVenc.IqImportBounds
import WaybeamVenc.IqSetFrame
import WaybeamVenc.FirstParam
import WaybeamVenc.HttpPackets
import WaybeamVenc.Gyroglide
import WaybeamVenc.RunningBest
import WaybeamVenc.SensorSelect
import WaybeamVenc.FpsRollback
import WaybeamVenc.RawRecorder
import WaybeamVenc.StreamPrefix
import WaybeamVenc.AudioDrain
import WaybeamVenc.OwnAudio
import WaybeamVenc.UnitConversions
import WaybeamVenc.ApiResponses
import WaybeamVenc.GyroBatches
import WaybeamVenc.AudioRing
import WaybeamVenc.SceneSpikes
import WaybeamVenc.SceneBounds
import WaybeamVenc.CompactPacket
import WaybeamVenc.AudioClock
import WaybeamVenc.VideoClock
import WaybeamVenc.TsClocks
import WaybeamVenc.TsPayload
import WaybeamVenc.IntegerText
import WaybeamVenc.RequestedValue
import WaybeamVenc.SetGet
import WaybeamVenc.TsCrc
import WaybeamVenc.StartCodes
import WaybeamVenc.Segments
import WaybeamVenc.StdoutFilter
import WaybeamVenc.AlignDown
import WaybeamVenc.Precrop
import WaybeamVenc.RingAttach
import WaybeamVenc.RoiBands
import WaybeamVenc.ImuFifo
import WaybeamVenc.UriGrammar
import WaybeamVenc.SidecarSync
import WaybeamVenc.OsdFrames
import WaybeamVenc.PipelineRuns
import WaybeamVenc.MarukoRuns
import WaybeamVenc.HeaderText
import WaybeamVenc.HttpRoutes
import WaybeamVenc.HttpWire
import WaybeamVenc.HttpExchange
import WaybeamVenc.Cus3a
import WaybeamVenc.SensorModes
