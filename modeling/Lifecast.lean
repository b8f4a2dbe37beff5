import Lifecast.Binary64.Basic
import Lifecast.Binary64.Decimal
import Lifecast.Binary64.Shortest
import Lifecast.Bytes
import Lifecast.CommandLine.Consumer
import Lifecast.CommandLine.GridSize
import Lifecast.CommandLine.LogFilter
import Lifecast.CommandLine.Producer
import Lifecast.CommandLine.Setting
import Lifecast.CommandLine.Value
import Lifecast.Duration
import Lifecast.Engine.Callbacks
import Lifecast.Engine.Client
import Lifecast.Engine.Config
import Lifecast.Engine.Error
import Lifecast.Engine.Kind
import Lifecast.Engine.Phase
import Lifecast.Engine.Scene
import Lifecast.Engine.Server
import Lifecast.Engine.ServerCall
import Lifecast.Engine.Service
import Lifecast.Engine.SetUp
import Lifecast.Executor
import Lifecast.Files
import Lifecast.Framing
import Lifecast.Interleaving.Basic
import Lifecast.Interleaving.ClientCalls
import Lifecast.Interleaving.OneSession
import Lifecast.Interleaving.PoolRun
import Lifecast.Interleaving.ReceiveLoops
import Lifecast.Interleaving.SenderCalls
import Lifecast.Interleaving.ServerRuns
import Lifecast.Interleaving.SessionCalls
import Lifecast.Interleaving.SharedSlot
import Lifecast.Interleaving.Transit
import Lifecast.Life.Change
import Lifecast.Life.FrameError
import Lifecast.Life.Grid
import Lifecast.Life.Pattern
import Lifecast.Life.Payload
import Lifecast.Life.Picture
import Lifecast.Life.Plane
import Lifecast.Life.Population
import Lifecast.Life.Size
import Lifecast.Life.Stored
import Lifecast.Live.Broadcast
import Lifecast.Live.Receive
import Lifecast.Live.Sockets
import Lifecast.Main
import Lifecast.Net.Address
import Lifecast.Net.Group
import Lifecast.Net.Host
import Lifecast.Net.Name
import Lifecast.Net.Url
import Lifecast.Numeral
import Lifecast.OsError
import Lifecast.Program.Consumer
import Lifecast.Program.Failure
import Lifecast.Program.Producer
import Lifecast.Proofs.Binary64
import Lifecast.Proofs.Client.AfterEnd
import Lifecast.Proofs.Client.Attribution
import Lifecast.Proofs.Client.Deadlock
import Lifecast.Proofs.Client.EndedOnce
import Lifecast.Proofs.Client.Log
import Lifecast.Proofs.Client.Blocks
import Lifecast.Proofs.Client.Mirror
import Lifecast.Proofs.Client.Standing
import Lifecast.Proofs.Client.Steps
import Lifecast.Proofs.Client.Turns
import Lifecast.Proofs.CommandLine.Setting
import Lifecast.Proofs.Encoding
import Lifecast.Proofs.WorkerPool.Account
import Lifecast.Proofs.Engine.Books
import Lifecast.Proofs.Engine.Delimiter
import Lifecast.Proofs.Engine.Drain
import Lifecast.Proofs.Engine.Flow
import Lifecast.Proofs.Engine.Interchange
import Lifecast.Proofs.Engine.Lifecycle
import Lifecast.Proofs.Framing
import Lifecast.Proofs.Life.Cells
import Lifecast.Proofs.Life.Payload
import Lifecast.Proofs.Life.Population
import Lifecast.Proofs.Life.Reachable
import Lifecast.Proofs.Life.Reading
import Lifecast.Proofs.Life.RoundTrip
import Lifecast.Proofs.Life.Stored
import Lifecast.Proofs.Life.Torus
import Lifecast.Proofs.Program.Producer
import Lifecast.Proofs.Session.Backlog
import Lifecast.Proofs.Session.Calls
import Lifecast.Proofs.Session.Closing
import Lifecast.Proofs.Session.Delivery
import Lifecast.Proofs.Session.Members
import Lifecast.Proofs.Session.Membership
import Lifecast.Proofs.Session.Order
import Lifecast.Proofs.Session.Phases
import Lifecast.Proofs.Session.Stopping
import Lifecast.Proofs.Text.Utf8
import Lifecast.Random.ChaCha
import Lifecast.Random.WordSource
import Lifecast.Session.Basic
import Lifecast.Session.Call
import Lifecast.Session.Hub
import Lifecast.Text.Blank
import Lifecast.Text.Letter
import Lifecast.Text.Printable
import Lifecast.Text.Quoted
import Lifecast.Text.Utf8
import Lifecast.Threads
import Lifecast.ValuePattern.Basic
import Lifecast.ValuePattern.Check
import Lifecast.ValuePattern.ClassReader
import Lifecast.ValuePattern.Cursor
import Lifecast.ValuePattern.Escape
import Lifecast.ValuePattern.Fault
import Lifecast.ValuePattern.Reader
import Lifecast.View.FrameSlot
import Lifecast.View.Screen
import Lifecast.View.Writer
import Lifecast.WebSocket.Base64
import Lifecast.WebSocket.Digest
import Lifecast.WebSocket.Listener
import Lifecast.WebSocket.Message
import Lifecast.WebSocket.Status
import Lifecast.WebSocket.Upgrade
import Lifecast.WebSocket.Wire
import Lifecast.WorkerPool
import Lifecast.Proofs.Life.Symmetry
import Lifecast.Proofs.Life.Glider
import Lifecast.Proofs.View.Drawing
import Lifecast.Proofs.WorkerPool.Steps
import Lifecast.Proofs.WorkerPool.Once
import Lifecast.Proofs.WorkerPool.Settle
import Lifecast.Proofs.View.Freshness
import Lifecast.Proofs.Program.Consumer
import Lifecast.Proofs.Text.Blank
import Lifecast.Proofs.Numeral
import Lifecast.Proofs.Net.Ipv4
import Lifecast.Proofs.Net.Ipv6
import Lifecast.Proofs.Net.Group
import Lifecast.Proofs.CommandLine.GridSize
