import GreetingServer.Config.Assignment
import GreetingServer.Json.Reader
import GreetingServer.Log.Session
import GreetingServer.Log.Standard.Library
import GreetingServer.Network
import GreetingServer.Program
import GreetingServer.Main
import GreetingServer.Proofs.Reading
import GreetingServer.Proofs.Discarding
import GreetingServer.Proofs.AnnouncedLength
import GreetingServer.Proofs.WholeHead
import GreetingServer.Proofs.Exchange
import GreetingServer.Proofs.Composition
import GreetingServer.Proofs.WrittenHead
import GreetingServer.Proofs.SentResponse
import GreetingServer.Proofs.Pipeline
import GreetingServer.Proofs.PartialDelivery
import GreetingServer.Proofs.LostPeer
import GreetingServer.Proofs.Framing
import GreetingServer.Proofs.TransferCoding
import GreetingServer.Proofs.MalformedLength
import GreetingServer.Proofs.LoudFault
import GreetingServer.Proofs.Verdict
import GreetingServer.Proofs.Course
import GreetingServer.Proofs.Answer
import GreetingServer.Proofs.HeadReader
import GreetingServer.Proofs.ResponseReader
import GreetingServer.Proofs.ResponseStream
import GreetingServer.Proofs.BodyRule
import GreetingServer.Proofs.Greeted
import GreetingServer.Proofs.TargetForm
import GreetingServer.Proofs.RequestPath
import GreetingServer.Proofs.RefusalPage
import GreetingServer.Proofs.Closing
import GreetingServer.Proofs.LongestMatch
import GreetingServer.Proofs.RouteOrder
import GreetingServer.Proofs.FailingHandler
import GreetingServer.Proofs.UnwritableHead
import GreetingServer.Proofs.Timeout
import GreetingServer.Proofs.RequestLoop
import GreetingServer.Proofs.Lifecycle
import GreetingServer.Proofs.Binding
import GreetingServer.Proofs.LoggerFields
import GreetingServer.Proofs.LogLine
import GreetingServer.Proofs.WholeRun
import GreetingServer.Proofs.PeerAddress
