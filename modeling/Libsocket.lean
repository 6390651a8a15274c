import Libsocket.Addr
import Libsocket.Addr.Getconfig
import Libsocket.Config
import Libsocket.Core.Accepting
import Libsocket.Core.AddressCopy
import Libsocket.Core.Arguments
import Libsocket.Core.Bind
import Libsocket.Core.CallChanges
import Libsocket.Core.Calls
import Libsocket.Core.Changes
import Libsocket.Core.Close
import Libsocket.Core.Connecting
import Libsocket.Core.Connection
import Libsocket.Core.Create
import Libsocket.Core.Creating
import Libsocket.Core.DirectClose
import Libsocket.Core.Drift
import Libsocket.Core.Emulated
import Libsocket.Core.Entry
import Libsocket.Core.Fresh
import Libsocket.Core.Fsext
import Libsocket.Core.HalfClose
import Libsocket.Core.Ifreq
import Libsocket.Core.Invariant
import Libsocket.Core.LocalName
import Libsocket.Core.Modes
import Libsocket.Core.Owner
import Libsocket.Core.Permission
import Libsocket.Core.Phase
import Libsocket.Core.Reservation
import Libsocket.Core.Restored
import Libsocket.Core.Returning
import Libsocket.Core.Shutdown
import Libsocket.Core.SlotSearch
import Libsocket.Core.Sockopt
import Libsocket.Core.Switching
import Libsocket.Core.Table
import Libsocket.Core.Transfer
import Libsocket.Csock
import Libsocket.Csock.DescriptorMap
import Libsocket.Csock.Usage
import Libsocket.Descriptor
import Libsocket.Dnsaddr
import Libsocket.Dnsaddr.Pipeline
import Libsocket.Dnsaddr.Servers
import Libsocket.Footprint
import Libsocket.Frame
import Libsocket.HostName
import Libsocket.HostName.Consistent
import Libsocket.HostName.Room
import Libsocket.Inet
import Libsocket.Inet.Answer
import Libsocket.Inet.AnswerOwners
import Libsocket.Inet.AnswerTurns
import Libsocket.Inet.AnswerTypes
import Libsocket.Inet.Compress
import Libsocket.Inet.Databases
import Libsocket.Inet.Expand
import Libsocket.Inet.Gethost
import Libsocket.Inet.Hosts
import Libsocket.Inet.Labels
import Libsocket.Inet.Lines
import Libsocket.Inet.Mkquery
import Libsocket.Inet.Nbs
import Libsocket.Inet.Netrc
import Libsocket.Inet.Numbers
import Libsocket.Inet.Placed
import Libsocket.Inet.Presentation
import Libsocket.Inet.Questions
import Libsocket.Inet.Rcmd
import Libsocket.Inet.ReadBack
import Libsocket.Inet.Rhosts
import Libsocket.Inet.RoundTrip
import Libsocket.Inet.Search
import Libsocket.Inet.Send
import Libsocket.Inet.SendRuns
import Libsocket.Inet.Skip
import Libsocket.Inet.Stream
import Libsocket.Inet.Unfinished
import Libsocket.Ini
import Libsocket.Ini.Bounds
import Libsocket.Ini.LongLines
import Libsocket.Ini.Lookup
import Libsocket.Ini.Texts
import Libsocket.Library.Avoid
import Libsocket.Library.Beside
import Libsocket.Library.BitRun
import Libsocket.Library.BitTable
import Libsocket.Library.CString
import Libsocket.Library.Chain
import Libsocket.Library.Command
import Libsocket.Library.Cursor
import Libsocket.Library.Cut
import Libsocket.Library.Editing
import Libsocket.Library.Escaped
import Libsocket.Library.Feistel
import Libsocket.Library.Filling
import Libsocket.Library.HandleTable
import Libsocket.Library.InPlace
import Libsocket.Library.Least
import Libsocket.Library.Memory
import Libsocket.Library.Resource
import Libsocket.Library.Retry
import Libsocket.Library.Scatter
import Libsocket.Library.Separated
import Libsocket.Library.Session
import Libsocket.Library.Sifting
import Libsocket.Library.Slots
import Libsocket.Library.Span
import Libsocket.Library.Strtok
import Libsocket.Library.TagLength
import Libsocket.Library.Tokens
import Libsocket.Library.Transition
import Libsocket.Library.Trim
import Libsocket.Library.Turns
import Libsocket.Library.Unescape
import Libsocket.Library.Word
import Libsocket.Library.WordList
import Libsocket.Library.Words
import Libsocket.Mailslot
import Libsocket.MailslotBlocking
import Libsocket.MailslotPath
import Libsocket.MailslotTable
import Libsocket.MailslotTable.Bookkeeping
import Libsocket.MailslotTable.Close
import Libsocket.MailslotTable.Invariant
import Libsocket.MailslotTable.Outcomes
import Libsocket.MailslotTable.Run
import Libsocket.MailslotTransfer
import Libsocket.Netsetup
import Libsocket.Netsetup.Editors
import Libsocket.Netsetup.Hosts
import Libsocket.Netsetup.Mask
import Libsocket.Process
import Libsocket.Registry
import Libsocket.Uio
import Libsocket.Unix.AcceptLeaks
import Libsocket.Unix.Agreement
import Libsocket.Unix.Callbacks
import Libsocket.Unix.Channel
import Libsocket.Unix.Closing
import Libsocket.Unix.Connect
import Libsocket.Unix.ConnectPaths
import Libsocket.Unix.Datagram
import Libsocket.Unix.Delivery
import Libsocket.Unix.Ends
import Libsocket.Unix.Filtering
import Libsocket.Unix.Handshake
import Libsocket.Unix.Isolation
import Libsocket.Unix.Leaks
import Libsocket.Unix.Message
import Libsocket.Unix.Names
import Libsocket.Unix.Packets
import Libsocket.Unix.Pair
import Libsocket.Unix.PairCleanup
import Libsocket.Unix.PairOutcome
import Libsocket.Unix.Paths
import Libsocket.Unix.PathsFit
import Libsocket.Unix.Peeking
import Libsocket.Unix.Peers
import Libsocket.Unix.Queue
import Libsocket.Unix.Rendezvous
import Libsocket.Unix.ReplyAddress
import Libsocket.Unix.Segments
import Libsocket.Unix.Select
import Libsocket.Unix.Sequence
import Libsocket.Unix.Service
import Libsocket.Unix.Stages
import Libsocket.Unix.Stream
import Libsocket.Unix.Takings
import Libsocket.Unix.Traffic
import Libsocket.Unix.Unanswered
import Libsocket.Vxd
import Libsocket.Win3x.Addr
import Libsocket.Win3x.Systemini
import Libsocket.Win9x.Cards
import Libsocket.Win9x.Dhcp
import Libsocket.Win9x.Enum
import Libsocket.Win9x.EnumExits
import Libsocket.Win9x.Handles
import Libsocket.Win9x.Nameservers
import Libsocket.Win9x.Options
import Libsocket.Wsock
