import Fluxnode.Foundation.Stream
import Fluxnode.C.Memory
import Fluxnode.Record.Model
import Fluxnode.Record.Fragments
import Fluxnode.Record.Receiver
import Fluxnode.Record.RoundTrip
import Fluxnode.Js.Slice
import Fluxnode.Timer.Model
import Fluxnode.Timer.TimerList
import Fluxnode.Timer.WellFormed
import Fluxnode.Timer.Dispatch
import Fluxnode.Timer.Creation
import Fluxnode.Timer.Overlooked
import Fluxnode.Timer.Arming
import Fluxnode.Timer.Cancellation
import Fluxnode.Timer.CancelSafety
import Fluxnode.Js.TypedArray
import Fluxnode.Js.Util
import Fluxnode.LoRaWan.Model
import Fluxnode.LoRaWan.Frame
import Fluxnode.LoRaWan.Parse
import Fluxnode.LoRaWan.Grammar
import Fluxnode.Foundation.LinkedChain
import Fluxnode.WorkQueue.Lists
import Fluxnode.WorkQueue.Refinement
import Fluxnode.DukMain.Event
import Fluxnode.DukMain.Model
import Fluxnode.DukMain.Steps
import Fluxnode.DukMain.StackHeight
import Fluxnode.DukMain.Delivery
import Fluxnode.DukMain.NoLostWakeUp
import Fluxnode.DukMain.EventQueue
import Fluxnode.DukMain.Progress
import Fluxnode.DukMain.OnTime
import Fluxnode.Record.Reassembly
import Fluxnode.Record.PeerSafety
import Fluxnode.Connectivity.Model
import Fluxnode.Foundation.Inevitable
import Fluxnode.Record.Sessions
import Fluxnode.Connectivity.Steps
import Fluxnode.Connectivity.Calls
import Fluxnode.Connectivity.Entropy
import Fluxnode.Connectivity.Shutdown
import Fluxnode.Connectivity.Consistency
import Fluxnode.C.File
import Fluxnode.WebService.Model
import Fluxnode.WebService.Protection
import Fluxnode.DukMain.LoadFile
import Fluxnode.WebService.Upload
import Fluxnode.DukMain.LoadLoop
import Fluxnode.WebSocket.Frame
import Fluxnode.WebSocket.Segmentation
import Fluxnode.Foundation.Program
import Fluxnode.Js.Number
import Fluxnode.LoRa.Chip
import Fluxnode.LoRa.Driver
import Fluxnode.LoRa.Radio
import Fluxnode.LoRa.Main
import Fluxnode.Foundation.BitField
import Fluxnode.LoRa.Settings
import Fluxnode.LoRa.Tasks
import Fluxnode.LoRa.ModeAgreement
import Fluxnode.LoRa.PacketDelivery
import Fluxnode.LoRa.HopHandling
import Fluxnode.LoRa.HoppingTable
import Fluxnode.LoRa.HopCalls
import Fluxnode.LoRa.Band
import Fluxnode.LoRa.PayloadLength
import Fluxnode.Foundation.Pieces
import Fluxnode.Record.MtuBound
import Fluxnode.WebSocket.Server
import Fluxnode.WebSocket.Tasks
import Fluxnode.WebSocket.Lifecycle
import Fluxnode.WebSocket.Established
import Fluxnode.WebSocket.Released
import Fluxnode.Foundation.Crc
import Fluxnode.Js.Crc16
import Fluxnode.LoRaWan.Counter
import Fluxnode.LoRaWan.KeyStream
import Fluxnode.LoRaWan.Beacon
import Fluxnode.LoRaWan.BeaconChannel
import Fluxnode.LoRaWan.CommandLists
import Fluxnode.Timer.ExactDispatch
import Fluxnode.Timer.TwoClocks
import Fluxnode.Timer.NeverEarly
import Fluxnode.Foundation.Ledger
import Fluxnode.Payload.Model
import Fluxnode.Payload.Conservation
import Fluxnode.Timer.UnsetClock
import Fluxnode.Record.Cuts
import Fluxnode.Record.SendBounds
import Fluxnode.Record.WireFormat
import Fluxnode.WorkQueue.PutBack
import Fluxnode.WebSocket.SendHeader
import Fluxnode.Foundation.Reads
import Fluxnode.WebSocket.Segment
import Fluxnode.WebSocket.WholeFrame
import Fluxnode.WebSocket.Handshake
import Fluxnode.WebSocket.SegmentBounds
import Fluxnode.DukMain.ScriptFile
import Fluxnode.Timer.Throwing
import Fluxnode.WebService.Download
import Fluxnode.WebService.FailedUpload
import Fluxnode.DukMain.LoadSelection
import Fluxnode.Wifi.Model
import Fluxnode.Button.Model
import Fluxnode.DukMain.FileRange
import Fluxnode.Foundation.Spaced
import Fluxnode.LoRa.SendLength
import Fluxnode.Button.Count
import Fluxnode.Button.Bounce
import Fluxnode.Udp.Model
import Fluxnode.Udp.Receive
import Fluxnode.LoRa.PacketRssi
import Fluxnode.Wifi.FailedStart
import Fluxnode.Foundation.Rounding
import Fluxnode.LoRa.Frequency
import Fluxnode.C.Hex
import Fluxnode.C.Text
import Fluxnode.Timer.History
import Fluxnode.Ble.BondAddress
import Fluxnode.Foundation.CrcErrors
import Fluxnode.LoRaWan.BeaconDamage
import Fluxnode.LoRa.Dial
import Fluxnode.LoRa.Transmissions
import Fluxnode.LoRa.Deliveries
import Fluxnode.LoRa.Link
import Fluxnode.LoRaWan.Scan
import Fluxnode.LoRaWan.ScanRun
import Fluxnode.Ble.Bonding
import Fluxnode.Ble.Profiles
import Fluxnode.LoRaWan.Listen
import Fluxnode.Ble.Echo
import Fluxnode.Timer.Timely
import Fluxnode.Foundation.Framing
import Fluxnode.LoRaWan.Downlink
import Fluxnode.WebSocket.Streams
