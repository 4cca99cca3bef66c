import SmartPlat.MediaQueue.Proofs.Overrun
import SmartPlat.VehicleDataAnalysis.Proofs.Residence
import SmartPlat.UsrManage.Proofs.Accounts
import SmartPlat.Adp.Proofs.Escalation
import SmartPlat.Adp.Proofs.SessionIds
import SmartPlat.Adp.Proofs.HandleRights
import SmartPlat.Adp.Proofs.Listeners
import SmartPlat.Lib.Printf
import SmartPlat.Lib.SqlText
import SmartPlat.MySql.Proofs.Literals
import SmartPlat.UsrManage.Proofs.Atomicity
import SmartPlat.UsrManage.Proofs.Restart
import SmartPlat.HkSdkManage.Basic
import SmartPlat.HkSdkManage.Devices
import SmartPlat.HkSdkManage.Proofs.Ownership
import SmartPlat.HkSdkManage.Proofs.Resources
import SmartPlat.VehicleDataAnalysis.Entrance
import SmartPlat.VehicleDataAnalysis.Proofs.DayBuckets
import SmartPlat.Lib.GroupBy
import SmartPlat.VehicleDataAnalysis.Proofs.Filters
import SmartPlat.VehicleDataAnalysis.Proofs.MonthBalance
import SmartPlat.AlarmManage.Proofs.Dispatch
import SmartPlat.HkSdkManage.Proofs.Reassembly
import SmartPlat.HkSdkManage.Proofs.Routing
import SmartPlat.HkSdkManage.Proofs.Tags
import SmartPlat.VehicleDataAnalysis.Proofs.Trajectories
import SmartPlat.FuelQuantityAnalysis.Proofs.ReUpload
import SmartPlat.JsonAPI.Proofs.SessionTable
import SmartPlat.JsonAPI.Proofs.FreedOnce
import SmartPlat.JsonAPI.Proofs.HandlesInUse
import SmartPlat.UsrManage.Proofs.AddsDistinct
import SmartPlat.JsonAPI.Proofs.PagingBounds
import SmartPlat.MyAuthor.Proofs.RoundTrip
import SmartPlat.MediaQueue.Proofs.Slots
import SmartPlat.MediaQueue.Proofs.QueueIds
import SmartPlat.Rtmp.Proofs.Readers
import SmartPlat.Rtmp.Proofs.Bindings
import SmartPlat.VehicleDataAnalysis.Proofs.CaptureOrder
import SmartPlat.VehicleDataAnalysis.Proofs.DailyTotals
import SmartPlat.MySql.Proofs.Agreement
import SmartPlat.JsonAPI.Proofs.ResultBuffers
import SmartPlat.WebServer.Proofs.FrameRoundTrip
import SmartPlat.WebServer.Proofs.Delivery
import SmartPlat.AttendanceManage.Proofs.OneRowEach
import SmartPlat.AttendanceManage.Proofs.VisitCounts
import SmartPlat.HttpAPI.Proofs.Framing
import SmartPlat.HttpAPI.Proofs.Responses
import SmartPlat.TSocket.Proofs.ClosedOnce
import SmartPlat.Bin2Hex.Proofs.RoundTrip
import SmartPlat.MediaQueue.Proofs.MediaTypes
import SmartPlat.DeviceManage.Proofs.Registry
import SmartPlat.HkSdkManage.Proofs.ListMap
import SmartPlat.HkSdkManage.Proofs.OnePerSerial
import SmartPlat.Config.Proofs.Persistence
import SmartPlat.Config.Proofs.CrashSafety
import SmartPlat.DeviceInfo.Proofs.BaseInfo
import SmartPlat.MediaQueue.Proofs.RawWriters
import SmartPlat.VehicleDataAnalysis.Proofs.MonthBuckets
import SmartPlat.VehicleDataAnalysis.Proofs.HourBuckets
import SmartPlat.VehicleDataAnalysis.Proofs.StationRows
import SmartPlat.VehicleDataAnalysis.Proofs.VisitClasses
import SmartPlat.VehicleDataAnalysis.Proofs.FrontageSums
import SmartPlat.VehicleDataAnalysis.Proofs.AlarmFilter
import SmartPlat.AttendanceManage.Commuters
import SmartPlat.AlarmManage.Proofs.QueueBound
import SmartPlat.HandleManage.Proofs.Refinement
import SmartPlat.DeviceManage.CameraList
import SmartPlat.AttendanceManage.Proofs.Spacing
import SmartPlat.VehicleDataAnalysis.Proofs.Forecourt
import SmartPlat.JsonAPI.RequestTexts
import SmartPlat.MqttAPI.Proofs.PushBounds
import SmartPlat.TSocket.Proofs.Delivered
import SmartPlat.Rtmp.Coding
import SmartPlat.Rtmp.Proofs.ALaw
import SmartPlat.WebServer.Proofs.Encoder
import SmartPlat.WebServer.Proofs.InputBounds
import SmartPlat.Lib.Base64
import SmartPlat.Lib.Sha1
import SmartPlat.PolarSsl
import SmartPlat.WebServer.Received
import SmartPlat.WebServer.Proofs.AcceptKey
import SmartPlat.HttpAPI.Proofs.HeadBounds
import SmartPlat.Lib.Marked
import SmartPlat.Rtmp.VideoPackets
import SmartPlat.Rtmp.Proofs.SliceScan
import SmartPlat.Rtmp.Proofs.ParameterSets
import SmartPlat.Rtmp.Proofs.PacketBounds
import SmartPlat.Base64Text.Codec
import SmartPlat.Base64Text.Proofs.Encoders
import SmartPlat.Base64Text.Proofs.StrictDecoder
import SmartPlat.Base64Text.Proofs.RoundTrip
import SmartPlat.Lib.Ring
import SmartPlat.UsrMem.Arena
import SmartPlat.UsrMem.Proofs.Allocation
import SmartPlat.UsrMem.Proofs.Release
import SmartPlat.MqttAPI.SensorTexts
import SmartPlat.CICTAPI.Cictapi
import SmartPlat.CICTAPI.Proofs.Readings
import SmartPlat.CICTAPI.Proofs.Payload
import SmartPlat.HJ212API.Hj212api
import SmartPlat.HJ212API.Proofs.Messages
import SmartPlat.UsrString.Substrings
import SmartPlat.UsrString.Proofs.Substrings
import SmartPlat.UsrString.Proofs.Counting
import SmartPlat.Lib.Wire
import SmartPlat.Rtmp.ChunkStream
import SmartPlat.Rtmp.Proofs.ChunkStream
import SmartPlat.Rtmp.Proofs.ChunkBounds
import SmartPlat.Lib.Rotation
import SmartPlat.Log.DebugLog
