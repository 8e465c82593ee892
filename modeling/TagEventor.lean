import TagEventor.Lib.Interact
import TagEventor.Lib.Protocol
import TagEventor.Lib.Outcomes
import TagEventor.Lib.Replay
import TagEventor.Lib.Loop
import TagEventor.Lib.Machine
import TagEventor.Lib.Flag
import TagEventor.Lib.MainLoop
import TagEventor.Lib.Ledger
import TagEventor.Lib.Presence
import TagEventor.Lib.Memory
import TagEventor.Lib.Blocks
import TagEventor.Lib.Barring
import TagEventor.Reader.Types
import TagEventor.Reader.World
import TagEventor.Reader.Driver
import TagEventor.Reader.Manager
import TagEventor.Reader.Multistring
import TagEventor.Reader.Conn
import TagEventor.Reader.Refinement
import TagEventor.Reader.TagLists
import TagEventor.Reader.Runs
import TagEventor.Reader.Names
import TagEventor.Reader.Handles
import TagEventor.Reader.Attempts
import TagEventor.Reader.Alike
import TagEventor.Reader.Faulty
import TagEventor.Reader.Polled
import TagEventor.Reader.Table
import TagEventor.Reader.Announced
import TagEventor.Reader.Hangup
import TagEventor.Reader.Exchange
import TagEventor.Reader.Bounds
import TagEventor.Reader.Received
import TagEventor.Reader.Merged
import TagEventor.Reader.Enumerated
import TagEventor.Reader.Overrun
import TagEventor.Reader.Closing
import TagEventor.Reader.Restored
import TagEventor.Reader.Supported
import TagEventor.Reader.Sam
import TagEventor.Reader.Slots
import TagEventor.Reader.Contactless
import TagEventor.Poll.TagEvents
import TagEventor.Poll.Exact
import TagEventor.Poll.Diff
import TagEventor.Poll.Polls
import TagEventor.Poll.Events
import TagEventor.Poll.Status
import TagEventor.Poll.Contents
import TagEventor.Poll.Context
import TagEventor.Poll.Slices
import TagEventor.Poll.Attempts
import TagEventor.Poll.Attached
import TagEventor.Poll.Arrays
import TagEventor.Poll.Texts
import TagEventor.Poll.Wanted
import TagEventor.Daemon.Program
import TagEventor.Daemon.Discipline
import TagEventor.Daemon.Host
import TagEventor.Daemon.Lock
import TagEventor.Daemon.Modes
import TagEventor.Daemon.Decimal
import TagEventor.Daemon.Stop
import TagEventor.Daemon.CommandLine
import TagEventor.Rules.Table
import TagEventor.Rules.AsList
import TagEventor.Rules.Dispatch
import TagEventor.Rules.Editor
import TagEventor.Tray.Session
import TagEventor.Tray.Windows
import TagEventor.Tray.Frames
import TagEventor.Tray.Settings
import TagEventor.Tray.Rules
import TagEventor.Tray.Saving
import TagEventor.Tray.Status
import TagEventor.Tray.Scripts
import TagEventor.Tray.Selection
import TagEventor.Jpcsc.Apdu
import TagEventor.Jpcsc.Notation
import TagEventor.Jpcsc.Parsing
import TagEventor.Jpcsc.Printing
import TagEventor.Simulator.Handler
import TagEventor.Simulator.Sockets
import TagEventor.Simulator.Network
import TagEventor.Simulator.Exchanges
import TagEventor.Simulator.Service
import TagEventor.Jpcsc.Builder
import TagEventor.Jpcsc.Command
import TagEventor.Jpcsc.Transmit
import TagEventor.Jpcsc.T0
