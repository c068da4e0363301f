import Bluedroid.Theory.Transition
import Bluedroid.Theory.Trim
import Bluedroid.Theory.CyclicSeq
import Bluedroid.Theory.SlidingWindow
import Bluedroid.Theory.SignedDigits
import Bluedroid.Theory.Loop
import Bluedroid.Theory.ListMap
import Bluedroid.Theory.Chunks
import Bluedroid.Theory.Buffer
import Bluedroid.Theory.Calls
import Bluedroid.Theory.Pratt
import Bluedroid.Theory.BinaryInverse
import Bluedroid.Theory.Octets
import Bluedroid.Theory.AdjacentSwap
import Bluedroid.Theory.BitStream
import Bluedroid.Theory.Cmac
import Bluedroid.Theory.Footprint
import Bluedroid.Theory.Ring
import Bluedroid.L2cap.Fcr.Frame
import Bluedroid.L2cap.Fcr.Transmit
import Bluedroid.L2cap.Fcr.Receive
import Bluedroid.L2cap.Fcr.Window
import Bluedroid.L2cap.Fcr.Link
import Bluedroid.L2cap.Fcr.Reassembly
import Bluedroid.L2cap.Fcr.Segmentation
import Bluedroid.L2cap.Fcr.HoldQueue
import Bluedroid.L2cap.Ble.SigCmd
import Bluedroid.L2cap.Ble.Lcc
import Bluedroid.Sdp.Db
import Bluedroid.Sdp.Server
import Bluedroid.Sdp.Discovery
import Bluedroid.Sdp.Sequences
import Bluedroid.Sdp.UuidCompare
import Bluedroid.Sdp.Sort
import Bluedroid.Gatt.ReadMulti
import Bluedroid.Gatt.Client
import Bluedroid.Gatt.ServerDiscovery
import Bluedroid.Smp.Multiprecision
import Bluedroid.Smp.MultiprecisionValue
import Bluedroid.Smp.MultiprecisionExact
import Bluedroid.Smp.Naf
import Bluedroid.Smp.NafRecoding
import Bluedroid.Smp.ValidatePoint
import Bluedroid.Smp.P256Prime
import Bluedroid.Smp.InvMod
import Bluedroid.Smp.Jacobian
import Bluedroid.Smp.JacobianGroup
import Bluedroid.CryptoToolbox.AesCmac
import Bluedroid.CryptoToolbox.Toolbox
import Bluedroid.Rfcomm.Fcs
import Bluedroid.Rfcomm.Frames
import Bluedroid.Rfcomm.Codec
import Bluedroid.Rfcomm.Mx
import Bluedroid.Osi.Ringbuffer
import Bluedroid.Osi.Config
import Bluedroid.Common.LruCache
import Bluedroid.Storage.ConfigCache
import Bluedroid.Storage.LegacyConfigFile
import Bluedroid.Storage.LegacyRoundTrip
import Bluedroid.A2dp.Aac
import Bluedroid.A2dp.AacNegotiation
import Bluedroid.A2dp.Sbc
import Bluedroid.A2dp.CodecInfo
import Bluedroid.Packet.BitInserter
import Bluedroid.Packet.EndianInserter
import Bluedroid.Packet.PacketView
import Bluedroid.Avdt.Msg
import Bluedroid.Avdt.Fragmentation
import Bluedroid.Avdt.Cfg
import Bluedroid.Avdt.Signal
import Bluedroid.Avdt.Ind
import Bluedroid.Avdt.Ccb
import Bluedroid.Avdt.Transport
