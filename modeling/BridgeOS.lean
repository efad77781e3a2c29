import BridgeOS.Lib.Bytes
import BridgeOS.Lib.Checks
import BridgeOS.Lib.Path
import BridgeOS.Lib.Disk
import BridgeOS.Lib.Hex
import BridgeOS.Core
import BridgeOS.Transfer.Message
import BridgeOS.Transfer.Sender
import BridgeOS.Transfer.Receiver
import BridgeOS.Transfer.Bookkeeping
import BridgeOS.Transfer.Containment
import BridgeOS.Transfer.Delivery
import BridgeOS.Transfer.Partition
import BridgeOS.Transfer.Reassembly
import BridgeOS.Transfer.Sending
import BridgeOS.Transfer.Resume
import BridgeOS.Transfer.Leftover
import BridgeOS.Transfer.Reopen
import BridgeOS.Lib.Postcard
import BridgeOS.Lib.Proc
import BridgeOS.Protocol
import BridgeOS.Identity.Keys
import BridgeOS.Lib.Text
import BridgeOS.Identity.Trust
import BridgeOS.Identity.Pairing
import BridgeOS.Identity.Sas
import BridgeOS.Identity.SelfConfirmation
import BridgeOS.Clipboard.Engine
import BridgeOS.Session.Interface
import BridgeOS.Session.Ceremony
import BridgeOS.Session.Transcripts
import BridgeOS.Session.World
import BridgeOS.Session.Gating
import BridgeOS.Session.Binding
import BridgeOS.Cli.Connect
import BridgeOS.Lib.Interleaving
import BridgeOS.Session.Network
import BridgeOS.Session.Agreement
import BridgeOS.Session.Impersonation
import BridgeOS.Lib.Reader
import BridgeOS.Transport.Framed
import BridgeOS.Transport.Closing
import BridgeOS.Node.Connection
import BridgeOS.Node.Select
import BridgeOS.Node.Link
import BridgeOS.Node.Deadlock
import BridgeOS.Clipboard.Guard
import BridgeOS.Clipboard.Journal
import BridgeOS.Clipboard.Monitor
import BridgeOS.Clipboard.Echo
import BridgeOS.Node.Origin
import BridgeOS.Clipboard.Pair
import BridgeOS.Clipboard.SingleWriter
import BridgeOS.Clipboard.Convergence
import BridgeOS.Clipboard.Restart
import BridgeOS.Session.Outsider
import BridgeOS.Node.Revocation
import BridgeOS.Lib.Dialogue
import BridgeOS.Session.Duo
import BridgeOS.Cli.SendFile
import BridgeOS.Lib.Contract
import BridgeOS.Node.Upload
import BridgeOS.Node.UploadSides
import BridgeOS.Node.UploadRuns
import BridgeOS.Node.UploadSuccess
import BridgeOS.Node.UploadClipboard
import BridgeOS.Cli.Visit
import BridgeOS.Session.Negotiation
import BridgeOS.Session.Replay
import BridgeOS.Session.Consultation
import BridgeOS.Node.Durability
import BridgeOS.Transfer.Aliasing
import BridgeOS.Lib.Boundary
import BridgeOS.Lib.HexNumber
import BridgeOS.Lib.WireSize
import BridgeOS.Lib.Table
import BridgeOS.Notifications.Engine
import BridgeOS.Notifications.Dismissal
import BridgeOS.Lib.Evaluation
import BridgeOS.Node.FrameLoops
import BridgeOS.Lib.Discipline
import BridgeOS.Session.Breakoff
import BridgeOS.Node.Hub
import BridgeOS.Identity.TrustMap
import BridgeOS.Node.KeyBinding
import BridgeOS.Clipboard.Applied
import BridgeOS.Clipboard.ContentHash
import BridgeOS.Lib.Utf16
import BridgeOS.Clipboard.Windows
import BridgeOS.Clipboard.Retry
import BridgeOS.Node.SyncLoops
import BridgeOS.Notifications.Guard
import BridgeOS.Notifications.Redelivery
import BridgeOS.Notifications.Withdrawal
import BridgeOS.Notifications.Reposting
import BridgeOS.Notifications.Tracking
import BridgeOS.Notifications.Limits
import BridgeOS.Notifications.Ceiling
import BridgeOS.Notifications.Mirror
import BridgeOS.Notifications.Interference
import BridgeOS.Notifications.Order
import BridgeOS.Discovery.Peer
import BridgeOS.Discovery.Beacon
import BridgeOS.Discovery.RoundTrip
import BridgeOS.Discovery.Udp
import BridgeOS.Discovery.BeaconOrder
import BridgeOS.Discovery.Mdns
import BridgeOS.Discovery.Txt
import BridgeOS.Discovery.Instances
import BridgeOS.Discovery.Replay
import BridgeOS.Lib.Distinct
import BridgeOS.Discovery.Addresses
import BridgeOS.Discovery.Starting
import BridgeOS.Lib.Crash
import BridgeOS.Identity.Storage
import BridgeOS.Node.Registry
import BridgeOS.Node.Broadcast
import BridgeOS.Discovery.Advertising
import BridgeOS.Discovery.Presence
import BridgeOS.Discovery.Lan
import BridgeOS.Lib.Past
import BridgeOS.Discovery.Finding
import BridgeOS.Session.Meeting
import BridgeOS.Session.Reunion
import BridgeOS.Node.Fanout
import BridgeOS.Clipboard.Mesh
import BridgeOS.Notifications.Tray
