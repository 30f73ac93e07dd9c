import TwitterClone.Foundation.Machine
import TwitterClone.Notification.Queue
import TwitterClone.Notification.Calls
import TwitterClone.Notification.Accounting
import TwitterClone.Notification.Delivery
import TwitterClone.Notification.ExactlyOnce
import TwitterClone.Foundation.Decimal
import TwitterClone.Foundation.Scan
import TwitterClone.Foundation.Substring
import TwitterClone.Utils.Strings
import TwitterClone.Packet.Packet
import TwitterClone.Packet.Connection
import TwitterClone.Foundation.InputStream
import TwitterClone.Notification.Codec
import TwitterClone.Notification.CodecRoundTrip
import TwitterClone.Profile.Manager
import TwitterClone.Csv.Csv
import TwitterClone.Profile.Persistency
import TwitterClone.Profile.Recovery
import TwitterClone.Profile.StateTransfer
import TwitterClone.Notification.Insertions
import TwitterClone.Server.Threads
import TwitterClone.Server.Disconnect
import TwitterClone.Profile.FollowGraph
import TwitterClone.Server.Acknowledgement
import TwitterClone.Replication.ReplicaInfo
import TwitterClone.Replication.Membership
import TwitterClone.Replication.Election
import TwitterClone.Replication.OneLeader
import TwitterClone.Foundation.Publisher
import TwitterClone.Notification.Texts
import TwitterClone.Profile.Names
import TwitterClone.Replication.Publication
import TwitterClone.Replication.Joining
import TwitterClone.Replication.Announcement
import TwitterClone.Replication.Waiting
import TwitterClone.Replication.Settling
import TwitterClone.Packet.Hostile
import TwitterClone.Notification.Tampering
import TwitterClone.Profile.Registration
import TwitterClone.Notification.Backing
import TwitterClone.Replication.Backup
import TwitterClone.Replication.Crash
import TwitterClone.Frontend.Reconnection
import TwitterClone.Profile.Loading
import TwitterClone.Profile.Ids
import TwitterClone.Profile.Sessions
import TwitterClone.Notification.Displacement
import TwitterClone.Notification.Order
import TwitterClone.Foundation.Format
import TwitterClone.Packet.Accepted
import TwitterClone.Client.Notification
import TwitterClone.Csv.AppendToLine
import TwitterClone.Csv.Failure
import TwitterClone.Profile.Failures
import TwitterClone.Foundation.Collect
import TwitterClone.Replication.Updates
import TwitterClone.Csv.Reader
import TwitterClone.Notification.Commuting
import TwitterClone.Foundation.CountedLoop
import TwitterClone.Foundation.Occurrences
import TwitterClone.Replication.JoinState
import TwitterClone.Utils.Joining
import TwitterClone.Client.NotificationList
import TwitterClone.Foundation.PrintfFormat
import TwitterClone.Utils.Chunks
import TwitterClone.Client.FeedDrawing
import TwitterClone.Client.Session
import TwitterClone.Notification.Buffers
import TwitterClone.Foundation.Monitor
import TwitterClone.Utils.Queue
import TwitterClone.Foundation.Mailbox
import TwitterClone.Foundation.Simulation
import TwitterClone.Notification.Mailbox
import TwitterClone.Notification.Provenance
import TwitterClone.Server.Authorship
import TwitterClone.Server.SessionLimit
import TwitterClone.Client.ConnectionConsumer
import TwitterClone.Client.TextInput
import TwitterClone.Frontend.Relay
import TwitterClone.Server.LoginReply
import TwitterClone.Foundation.ReplicatedLog
import TwitterClone.Replication.Cluster
import TwitterClone.Replication.Takeover
import TwitterClone.Csv.Table
import TwitterClone.Replication.Formation
import TwitterClone.Replication.Realization
