import WlanController.Foundation.BitField
import WlanController.Foundation.Run
import WlanController.Protocol.Message
import WlanController.Common.EthAddr
import WlanController.Protocol.TransportHeader
import WlanController.Protocol.TransportHeaderCodec
import WlanController.Protocol.TransportHeaderRoundTrip
import WlanController.Foundation.Pieces
import WlanController.Protocol.Assembly
import WlanController.Protocol.PacketBytes
import WlanController.Protocol.FragmentSizes
import WlanController.Protocol.Fragment
import WlanController.Protocol.FragmentList
import WlanController.Protocol.TransportHeaderBounds
import WlanController.Foundation.Tiling
import WlanController.Protocol.Reassembly
import WlanController.Protocol.ReassemblySafety
import WlanController.Protocol.ReassemblySoundness
import WlanController.Protocol.Delivery
import WlanController.Common.EthAddrOrder
import WlanController.Foundation.SearchTree
import WlanController.Stations.StationTree
import WlanController.Stations.Measured
import WlanController.Stations.Updates
import WlanController.Stations.Balance
import WlanController.Stations.Operations
import WlanController.Stations.StationIndex
import WlanController.Stations.Shapes
import WlanController.Stations.Purge
import WlanController.Stations.Cells
import WlanController.Stations.HandOver
import WlanController.Sessions.Retransmission
import WlanController.Common.EthAddrMatch
import WlanController.WTP.StationTable
import WlanController.Stations.OutOfMemory
import WlanController.WTP.StationEvents
import WlanController.WTP.Consistency
import WlanController.WTP.ConsistencyRuns
import WlanController.WTP.Eviction
import WlanController.WTP.PendingRequests
import WlanController.WTP.PendingBoxes
import WlanController.WTP.PendingRuns
import WlanController.Foundation.BoundedScan
import WlanController.Radios.BSSSearch
import WlanController.Protocol.Acceptance
import WlanController.Radios.StationMessage
import WlanController.Radios.StationRequest
import WlanController.Radios.StationConfiguration
import WlanController.Admission.SessionTable
import WlanController.Admission.SlotSafety
import WlanController.Admission.Demultiplexing
import WlanController.Foundation.Programs
import WlanController.Sessions.States
import WlanController.Sessions.ManageWTP
import WlanController.Sessions.LifeCycle
import WlanController.Sessions.Keeping
import WlanController.Sessions.CriticalTimer
import WlanController.Sessions.Responses
import WlanController.Foundation.ByteOrder
import WlanController.Protocol.CountedRecords
import WlanController.Elements.VendorInfos
import WlanController.Elements.MessageElement
import WlanController.Elements.ACDescriptor
import WlanController.Elements.WTPDescriptor
import WlanController.Elements.WlanElements
import WlanController.Elements.RadioReports
import WlanController.Elements.ElementCounts
import WlanController.Timers.Timeval
import WlanController.Foundation.Schedule
import WlanController.Timers.TimerQueue
import WlanController.Timers.ArmedTimers
import WlanController.Timers.TimerRuns
import WlanController.Elements.ElementLoop
import WlanController.Elements.ElementWalk
import WlanController.Elements.ElementLayouts
import WlanController.Foundation.StructLayout
import WlanController.Requests.RadioEntries
import WlanController.Protocol.TransportHeaderLayout
import WlanController.Requests.DiscoveryRequest
import WlanController.Frames.DataHeader
import WlanController.Frames.FrameBytes
import WlanController.Frames.Tunnel
import WlanController.Frames.FrameElements
import WlanController.Frames.ManagementFrames
import WlanController.Frames.ResponseFrames
import WlanController.Frames.ElementTraversal
import WlanController.Vendor.VendorAnswers
import WlanController.Foundation.SparseFile
import WlanController.Vendor.FirmwareUpdate
import WlanController.Vendor.FirmwareSession
import WlanController.Vendor.FirmwareDelivery
import WlanController.WTP.EchoSupervision
import WlanController.WTP.EchoRuns
import WlanController.Interface.CommandSlot
import WlanController.Interface.CommandRuns
import WlanController.Foundation.Placement
import WlanController.Radios.RadioStates
import WlanController.Radios.RadioStatistics
import WlanController.Requests.ConfigureRequest
import WlanController.Radios.ConfiguredRadios
import WlanController.WTP.JoinAttempts
import WlanController.WTP.JoinRuns
import WlanController.WTP.Discovery
import WlanController.WTP.DiscoveryRuns
import WlanController.WTP.AcknowledgedPackets
import WlanController.Protocol.DataHeaders
import WlanController.Protocol.DataDelivery
import WlanController.Protocol.DataRoundTrip
import WlanController.Binding.BindingElements
import WlanController.Binding.BindingParsers
import WlanController.Binding.ConfigurationRoundTrip
import WlanController.Protocol.ReadsAlike
import WlanController.Vendor.PayloadLayout
import WlanController.Binding.UpdatePass
import WlanController.Requests.ConfigurationUpdate
import WlanController.Requests.UpdatePasses
import WlanController.Foundation.LinkedCells
import WlanController.Queues.SafeList
import WlanController.Queues.PacketDeque
import WlanController.Settings.ConfigFile
import WlanController.Settings.ConfigLines
import WlanController.Settings.ConfigValues
import WlanController.Settings.ConfigPasses
import WlanController.Settings.ConfigSettings
import WlanController.Settings.ConfigText
import WlanController.Operator.TargetSelection
import WlanController.WTP.InterfaceChoice
import WlanController.Operator.Targets
import WlanController.Interface.ListReading
import WlanController.Interface.ApplicationStream
import WlanController.Interface.StreamSafety
import WlanController.Requests.JoinResponse
import WlanController.Requests.JoinResponseOrder
import WlanController.Frames.Broadcast
import WlanController.Frames.BroadcastDelivery
import WlanController.Operator.WlanCommands
import WlanController.Operator.WlanExchange
import WlanController.Operator.WlanAgreement
import WlanController.Coupler.UserQueue
import WlanController.Coupler.UserThreads
import WlanController.Coupler.NoticeDocument
import WlanController.Coupler.NoticeRelay
import WlanController.Coupler.NoticeText
import WlanController.Foundation.Dialog
import WlanController.Foundation.FileTree
import WlanController.Vendor.UpdateAgent
import WlanController.Vendor.UpdateExchange
import WlanController.Vendor.UpdateRuns
import WlanController.Vendor.UpdateSessions
import WlanController.Vendor.UpdateTool
import WlanController.Frames.Switching
import WlanController.Frames.SwitchedDelivery
import WlanController.Frames.SwitchBounds
