import GeoChat.Library.Program
import GeoChat.Library.Channel
import GeoChat.Library.Ranking
import GeoChat.Common.Command
import GeoChat.Common.Json
import GeoChat.Common.Split
import GeoChat.Server.Store.Privacy
import GeoChat.Server.Store.Authentication
import GeoChat.Server.Store.ChatNames
import GeoChat.Server.Store.Refusal
import GeoChat.Server.Store.SelfHistory
import GeoChat.Server.Request
import GeoChat.Server.Acknowledgement
import GeoChat.Server.Answers
import GeoChat.Server.Backends.Simulation
import GeoChat.Server.Backends.Selection
import GeoChat.Server.Backends.Creation
import GeoChat.Server.Independence
import GeoChat.Net.Overrun
import GeoChat.Net.Inflate
import GeoChat.Net.ReadUntil
import GeoChat.Net.AsyncConnect
import GeoChat.Server.Connection
import GeoChat.Server.Connection.Sends
import GeoChat.Server.Connection.Overlap
import GeoChat.Server.Idle.Repetition
import GeoChat.Server.Idle.Delivery
import GeoChat.Server.Idle.Members
import GeoChat.Server.LocationClient
import GeoChat.Client.Direct
import GeoChat.Client.Shapes
import GeoChat.Client.Credentials
import GeoChat.Client.Subscription
import GeoChat.Protocol.Replies
import GeoChat.Protocol.Numbers
import GeoChat.Rapidjson.RoundTrip
import GeoChat.Protocol.Wire
import GeoChat.Protocol.Conversation
import GeoChat.Server.Backends.Schedules
import GeoChat.Server.Store.Secrecy
import GeoChat.Server.Store.Provenance
import GeoChat.Server.Threads
import GeoChat.Client.Console
import GeoChat.Protocol.Subscription
import GeoChat.Server.Server
import GeoChat.Net.Connect
import GeoChat.Protocol.Settling
import GeoChat.Protocol.Receipts
