import SdrUdp.Core.Interleaving
import SdrUdp.Core.WordBits
import SdrUdp.Core.Codec
import SdrUdp.Core.Fold
import SdrUdp.Core.Runs
import SdrUdp.Core.Blocks
import SdrUdp.TcpControl
import SdrUdp.Framing
import SdrUdp.Bitmap
import SdrUdp.Packet
import SdrUdp.Connection
import SdrUdp.Receiver
import SdrUdp.ChunkCheck
import SdrUdp.RecvPost
import SdrUdp.Generation
import SdrUdp.SrReceiver
import SdrUdp.SrAtRest
import SdrUdp.SendPost
import SdrUdp.ReceiverActions
import SdrUdp.SlotHistory
import SdrUdp.BufferCapacity
import SdrUdp.FailedPost
import SdrUdp.LatePacket
import SdrUdp.DataPath
import SdrUdp.SrSender
import SdrUdp.SrRun
import SdrUdp.Core.Galois
import SdrUdp.ErasureCode
import SdrUdp.EcReceiver
import SdrUdp.EcDecode
import SdrUdp.EcSender
import SdrUdp.EcGeometry
import SdrUdp.EcCode
import SdrUdp.Completion
import SdrUdp.StreamPost
import SdrUdp.StreamHandshake
import SdrUdp.SendPaths
import SdrUdp.FirstWindow
import SdrUdp.SrWindow
import SdrUdp.SrScript
import SdrUdp.BitmapPair
import SdrUdp.LengthMismatch
import SdrUdp.Verdict
import SdrUdp.ChannelPorts
import SdrUdp.Handshake
import SdrUdp.Matching
import SdrUdp.Attribution
import SdrUdp.Link
import SdrUdp.SrTrap
import SdrUdp.EcFallback
import SdrUdp.EcTransfer
import SdrUdp.EcTrap
import SdrUdp.SlotTable
import SdrUdp.ConcurrentSet
import SdrUdp.Negotiation
import SdrUdp.SendCommit
import SdrUdp.Confinement
import SdrUdp.PacketTrust
import SdrUdp.SrBounds
import SdrUdp.ControlSafety
import SdrUdp.GapLists
import SdrUdp.Core.SharedCell
import SdrUdp.Interference
import SdrUdp.ChunkCounts
import SdrUdp.Core.Text
import SdrUdp.ConfigParser
import SdrUdp.Core.Spacing
import SdrUdp.Core.Descriptors
import SdrUdp.SrDelivery
import SdrUdp.SrPacing
import SdrUdp.ReportPacing
import SdrUdp.Sockets
import SdrUdp.HandshakeProgress
import SdrUdp.EcTraffic
import SdrUdp.ConfigFile
import SdrUdp.Agreement
import SdrUdp.BitmapView
import SdrUdp.Cargo
import SdrUdp.EcDelivery
import SdrUdp.PlainTransfer
import SdrUdp.StreamPieces
