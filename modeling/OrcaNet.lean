import OrcaNet.Framework.System
import OrcaNet.Framework.WaitsFor
import OrcaNet.Framework.Table
import OrcaNet.Framework.TransferLedger
import OrcaNet.Framework.UsageLedger
import OrcaNet.Framework.Correlator
import OrcaNet.Framework.RemoteCall
import OrcaNet.Framework.CallLedger
import OrcaNet.Framework.Bincode
import OrcaNet.Framework.Mirror
import OrcaNet.Framework.Json
import OrcaNet.Framework.ReadUntil
import OrcaNet.Framework.UnixPath
import OrcaNet.Framework.Qualified
import OrcaNet.Common.ConfigFile
import OrcaNet.Common.TcpStream
import OrcaNet.RequestHandler
import OrcaNet.Files.ProvidedFiles
import OrcaNet.Proxy.ProxyPayment
import OrcaNet.Payments.Client
import OrcaNet.Payments.Provider
import OrcaNet.Payments.FeeLedger
import OrcaNet.Payments.PrePayment
import OrcaNet.Payments.Atomicity
import OrcaNet.Payments.Solvency
import OrcaNet.Payments.Node
import OrcaNet.Payments.PaymentRows
import OrcaNet.Payments.Protocol
import OrcaNet.Network.EventLoop
import OrcaNet.Network.ProviderRecords
import OrcaNet.Network.RecordKeys
import OrcaNet.Network.ReplyCorrelation
import OrcaNet.Network.LoopRuns
import OrcaNet.Network.FinishedQueries
import OrcaNet.Network.PanicFreedom
import OrcaNet.Network.CommandSenders
import OrcaNet.Network.ProviderLookup
import OrcaNet.Network.AddressedPeer
import OrcaNet.HandlerLoop
import OrcaNet.Proxy.LifeCycle
import OrcaNet.Proxy.HttpProxy
import OrcaNet.Proxy.StartStop
import OrcaNet.Proxy.ProxyHandlers
import OrcaNet.Proxy.Authorization
import OrcaNet.Proxy.Billing
import OrcaNet.Proxy.ConnectToProxy
import OrcaNet.Proxy.Tunnel
import OrcaNet.HttpServer.FileEndpoints
import OrcaNet.HttpServer.ProxyEndpoints
import OrcaNet.HttpServer.WalletEndpoints
import OrcaNet.Files.Node
import OrcaNet.Files.Serving
import OrcaNet.Files.HonestProvider
import OrcaNet.Files.Advertised
import OrcaNet.Files.Downloads
import OrcaNet.Files.DownloadFile
import OrcaNet.Files.SavePath
import OrcaNet.Files.StoredDownloads
import OrcaNet.Files.ProvideFile
import OrcaNet.Proxy.FailedStart
import OrcaNet.Network.NodeLoops
import OrcaNet.Network.StreamRequests
import OrcaNet.Network.StreamCorrelation
import OrcaNet.Network.Requests
import OrcaNet.Network.RequestCorrelation
import OrcaNet.Network.FlowControl
import OrcaNet.Common.Wire
import OrcaNet.Common.Acceptance
import OrcaNet.Proxy.Sessions
import OrcaNet.HttpServer.ProviderListing
import OrcaNet.Files.Readvertise
import OrcaNet.Common.Setup
import OrcaNet.ConfiguredLoop
import OrcaNet.Payments.Network
import OrcaNet.Payments.NetworkLedger
import OrcaNet.Payments.Uncounted
