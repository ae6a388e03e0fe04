import WorldCupInformer.Lib.Machine
import WorldCupInformer.Lib.Dictionary
import WorldCupInformer.Lib.Text
import WorldCupInformer.Server.Java
import WorldCupInformer.Server.ConnectionsImp
import WorldCupInformer.Server.Frames
import WorldCupInformer.Server.StompMessagingProtocolImpl
import WorldCupInformer.Server.Methods
import WorldCupInformer.Server.Effect
import WorldCupInformer.Server.Server
import WorldCupInformer.Server.Invariants
import WorldCupInformer.Server.Subscriptions
import WorldCupInformer.Server.Subscribers
import WorldCupInformer.Server.Logins
import WorldCupInformer.Server.Rejections
import WorldCupInformer.Lib.Interleaving
import WorldCupInformer.Server.ConcurrentConnect
import WorldCupInformer.Lib.Utf8
import WorldCupInformer.Server.LineMessageEncoderDecoder
import WorldCupInformer.Server.BlockingConnectionHandler
import WorldCupInformer.Server.Reactor
import WorldCupInformer.Server.LostConnections
import WorldCupInformer.Server.ReactorSteps
import WorldCupInformer.Server.SelectorKeys
import WorldCupInformer.Client.Cpp
import WorldCupInformer.Client.Game
import WorldCupInformer.Lib.Link
import WorldCupInformer.Client.StompProtocol
import WorldCupInformer.Server.FrameText
import WorldCupInformer.Client.ReceivedFrames
import WorldCupInformer.Session.Session
import WorldCupInformer.Session.Requests
import WorldCupInformer.Session.Commands
import WorldCupInformer.Session.Handshake
import WorldCupInformer.Session.Outstanding
import WorldCupInformer.Session.Reports
import WorldCupInformer.Session.Agreement
import WorldCupInformer.Session.LegalCommands
import WorldCupInformer.Lib.SharedMaps
import WorldCupInformer.Server.ConcurrentSubscribe
import WorldCupInformer.Server.ClosedChannels
import WorldCupInformer.Server.ReadTasks
import WorldCupInformer.Client.ReceivedMessages
import WorldCupInformer.Session.PublishedText
import WorldCupInformer.Session.Logout
import WorldCupInformer.Client.Login
import WorldCupInformer.Session.Receipts
import WorldCupInformer.Server.Exceptions
import WorldCupInformer.Session.Understood
import WorldCupInformer.Session.Summaries
import WorldCupInformer.Server.SentFrames
import WorldCupInformer.Session.Framing
import WorldCupInformer.Server.QueuedReplies
import WorldCupInformer.Server.ActorThreadPool
import WorldCupInformer.Lib.Decimals
import WorldCupInformer.Client.EventReports
import WorldCupInformer.Server.Answers
import WorldCupInformer.Server.FirstLine
import WorldCupInformer.Client.FailedCommands
import WorldCupInformer.Server.ContinueWrite
import WorldCupInformer.Session.ErrorReasons
import WorldCupInformer.Client.Statistics
import WorldCupInformer.Session.FrameStream
import WorldCupInformer.Server.ConcurrentBroadcast
import WorldCupInformer.Client.KeyboardThread
import WorldCupInformer.Client.VectorAccesses
import WorldCupInformer.Client.TypedLines
import WorldCupInformer.Session.Network
import WorldCupInformer.Session.UserClients
import WorldCupInformer.Session.Publications
import WorldCupInformer.Session.Delivery
import WorldCupInformer.Session.EndedClients
import WorldCupInformer.Server.ReactorStreams
import WorldCupInformer.Session.ReactorLinks
import WorldCupInformer.Session.SocketWrites
import WorldCupInformer.Lib.Owners
import WorldCupInformer.Server.BufferPool
import WorldCupInformer.Server.ThreadPerClient
import WorldCupInformer.Session.ThreadLinks
import WorldCupInformer.Lib.Fairness
import WorldCupInformer.Session.EventualDelivery
import WorldCupInformer.Lib.Heap
import WorldCupInformer.Lib.Results
import WorldCupInformer.Client.GamePointers
import WorldCupInformer.Client.SharedGames
import WorldCupInformer.Client.EventsFile
