import QvNetfilter.Mealy
import QvNetfilter.Memory
import QvNetfilter.Socks
import QvNetfilter.TcpRedirect
import QvNetfilter.TcpOutbound
import QvNetfilter.TcpTunnel
import QvNetfilter.TcpOrigin
import QvNetfilter.TcpInbound
import QvNetfilter.FilterRules
import QvNetfilter.FilterPolicy
import QvNetfilter.UdpHistory
import QvNetfilter.RelayDatagram
import QvNetfilter.ControlChannel
import QvNetfilter.Handshake
import QvNetfilter.ControlReceive
import QvNetfilter.Segmentation
import QvNetfilter.Ownership
import QvNetfilter.Endpoints
import QvNetfilter.Links
import QvNetfilter.LinkSteps
import QvNetfilter.HandshakeState
import QvNetfilter.ReceiveLoop
import QvNetfilter.ControlLoop
import QvNetfilter.Rearm
import QvNetfilter.UdpHandler
import QvNetfilter.Tables
import QvNetfilter.Dispatch
import QvNetfilter.Delivery
import QvNetfilter.DatagramLoss
import QvNetfilter.ServiceStart
import QvNetfilter.Unwinding
import QvNetfilter.Isolation
import QvNetfilter.ArmedReceives
import QvNetfilter.Utf8
import QvNetfilter.Utf8Codec
import QvNetfilter.QueueFlush
import QvNetfilter.Encapsulation
import QvNetfilter.QueuedDatagrams
import QvNetfilter.RelayAddress
import QvNetfilter.RuleTranslation
import QvNetfilter.UserPassword
import QvNetfilter.Chronicle
import QvNetfilter.Course
import QvNetfilter.Handles
import QvNetfilter.Confinement
import QvNetfilter.Dialogue
import QvNetfilter.Socks5Server
import QvNetfilter.ControlTalk
import QvNetfilter.ServedHandshake
import QvNetfilter.Progress
import QvNetfilter.CompletionPort
import QvNetfilter.Shutdown
import QvNetfilter.PluginEvents
import QvNetfilter.Quiescence
import QvNetfilter.Replies
import QvNetfilter.TcpSession
import QvNetfilter.Receives
import QvNetfilter.LockOrder
import QvNetfilter.Locking
import QvNetfilter.AfterFree
