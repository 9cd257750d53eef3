import Oxrdp.Proto.SizeLimits
import Oxrdp.Proto.Interleaving
import Oxrdp.Agent.Lifecycle
import Oxrdp.Agent.Backlog
import Oxrdp.Agent.InFlight
import Oxrdp.Session.Decorations
import Oxrdp.Session.FrameFlip
import Oxrdp.Proto.Inversion
import Oxrdp.Agent.Reframe
import Oxrdp.Transport.Resume
import Oxrdp.Transport.Writer
import Oxrdp.Session.Agreement
import Oxrdp.Transport.Link
import Oxrdp.Agent.Journal
import Oxrdp.Agent.Feeding
import Oxrdp.Agent.Delivery
import Oxrdp.Agent.Keyframes
import Oxrdp.Agent.Resizes
import Oxrdp.Agent.Serve
import Oxrdp.Agent.Authorization
import Oxrdp.Client.AnnexB
import Oxrdp.Session.AccessUnits
import Oxrdp.Client.Stacking
import Oxrdp.Lib.Saturating
import Oxrdp.Proto.Latency
import Oxrdp.Client.Offsets
import Oxrdp.Client.OffsetBound
import Oxrdp.Client.Geometry
import Oxrdp.Client.UserMotion
import Oxrdp.Agent.Turns
import Oxrdp.Agent.Stranded
import Oxrdp.Agent.Stamps
import Oxrdp.Agent.Lag
import Oxrdp.Client.Accounting
import Oxrdp.Agent.Nv12
import Oxrdp.Client.Yuv
import Oxrdp.Session.Colour
import Oxrdp.Client.Pipeline
import Oxrdp.Agent.FixedPoint
import Oxrdp.Lib.Coded
import Oxrdp.Pdu.Fields
import Oxrdp.Proto.Isolation
import Oxrdp.Pdu.Framing
import Oxrdp.Pdu.Text
import Oxrdp.Pdu.Negotiation
import Oxrdp.Pdu.Lengths
import Oxrdp.Pdu.Mcs
import Oxrdp.Pdu.DomainParams
import Oxrdp.Pdu.Gcc
import Oxrdp.Pdu.Session
import Oxrdp.Pdu.Counted
import Oxrdp.Pdu.RoundTrip
import Oxrdp.Pdu.ConnectInitial
import Oxrdp.Pdu.Builders
import Oxrdp.Pdu.ConnectResponse
import Oxrdp.Rdp.Connector
import Oxrdp.Rdp.History
import Oxrdp.Rdp.Sequence
import Oxrdp.Rdp.Driver
import Oxrdp.Agent.Foreground
import Oxrdp.Agent.Admission
import Oxrdp.Client.Loop
import Oxrdp.Client.Resources
import Oxrdp.Client.Conservation
import Oxrdp.Client.Acks
import Oxrdp.Agent.Padding
import Oxrdp.Agent.Sps
import Oxrdp.Session.Profiles
import Oxrdp.Agent.SpsEncoding
import Oxrdp.Client.YuvMachine
import Oxrdp.Client.YuvReference
import Oxrdp.Client.Zorder
import Oxrdp.Lib.Rank
import Oxrdp.Lib.RingBuffer
import Oxrdp.Proto.Samples
import Oxrdp.Client.DecodeTimes
import Oxrdp.Client.H264
import Oxrdp.Client.Decoders
import Oxrdp.Client.LatencyRuns
import Oxrdp.Agent.BudgetRuns
import Oxrdp.Agent.PointerAxis
import Oxrdp.Agent.Buttons
import Oxrdp.Pdu.Declared
import Oxrdp.Lib.Reordered
import Oxrdp.Lib.SocketAddr
import Oxrdp.Agent.Config
import Oxrdp.Display.Echoes
import Oxrdp.Display.Presenter
import Oxrdp.Agent.WinEncoder
import Oxrdp.Agent.FirstForced
import Oxrdp.Agent.CpuInput
import Oxrdp.Agent.CpuIntent
import Oxrdp.Agent.Channels
import Oxrdp.Lib.Ascii
import Oxrdp.Sec.Pin
import Oxrdp.Lib.Base64
import Oxrdp.Lib.TextualEncoding
import Oxrdp.Sec.Pem
import Oxrdp.Client.Tail
import Oxrdp.Pdu.ServerBlocks
import Oxrdp.Agent.Keyboard
import Oxrdp.Agent.Typing
import Oxrdp.Client.InputOrder
import Oxrdp.Display.Input
import Oxrdp.Display.Desktop
import Oxrdp.Agent.Pointing
import Oxrdp.Display.Backends
import Oxrdp.Session.Pointed
import Oxrdp.Session.Shown
