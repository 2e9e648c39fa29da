import SnapDesk.Delimited
import SnapDesk.Transition
import SnapDesk.Bounded
import SnapDesk.Bytes
import SnapDesk.BigNumber
import SnapDesk.NumberValue
import SnapDesk.HexCodec
import SnapDesk.CutRange
import SnapDesk.CutChains
import SnapDesk.BeaconBody
import SnapDesk.FileTree
import SnapDesk.Communicator
import SnapDesk.Frame
import SnapDesk.BeaconWire
import SnapDesk.FrameBounds
import SnapDesk.FieldLookup
import SnapDesk.FrameCheckSum
import SnapDesk.BodyElements
import SnapDesk.FrameHistory
import SnapDesk.Device
import SnapDesk.DeviceBounds
import SnapDesk.DeviceRuns
import SnapDesk.DeviceBytes
import SnapDesk.Board
import SnapDesk.Reception
import SnapDesk.SlotQueue
import SnapDesk.RxQueue
import SnapDesk.UsbStream
import SnapDesk.HtcMessages
import SnapDesk.RecvBuf
import SnapDesk.RecvTasklet
import SnapDesk.RecvCirculation
import SnapDesk.Node
import SnapDesk.Compiler
import SnapDesk.ScriptRoundTrip
import SnapDesk.ScriptAccepted
import SnapDesk.CompilerReturns
import SnapDesk.ScriptReading
import SnapDesk.Comments
import SnapDesk.ScriptValues
import SnapDesk.Fingerprint
import SnapDesk.ScriptMeaning
import SnapDesk.Shell
import SnapDesk.Notification
import SnapDesk.Paths
import SnapDesk.Csv
import SnapDesk.Keys
import SnapDesk.Cells
import SnapDesk.LineLists
import SnapDesk.Database
import SnapDesk.CodeHash
import SnapDesk.DatabaseFiles
import SnapDesk.Register
import SnapDesk.Entries
import SnapDesk.Sites
import SnapDesk.LoopRefinement
import SnapDesk.OutputRows
import SnapDesk.SeenAgain
import SnapDesk.Footprint
import SnapDesk.AbsentEntries
import SnapDesk.ScriptEdits
import SnapDesk.MainLoop
import SnapDesk.Terminal
import SnapDesk.Program
import SnapDesk.Deployment
import SnapDesk.StoredBeacons
import SnapDesk.Radio
import SnapDesk.Stepwise
import SnapDesk.Interruptions
