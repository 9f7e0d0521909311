import RedisPy.Python.Text
import RedisPy.Python.Utf8
import RedisPy.Python.Dict
import RedisPy.Exceptions
import RedisPy.Lib.Interruptible
import RedisPy.Lib.Recording
import RedisPy.Lib.Contract
import RedisPy.Lib.Wire
import RedisPy.Lib.Asking
import RedisPy.Lib.Runs
import RedisPy.Lib.Leases
import RedisPy.Parsers.Base
import RedisPy.Parsers.Value
import RedisPy.Parsers.Resp
import RedisPy.Parsers.Socket
import RedisPy.Parsers.StreamReader
import RedisPy.Parsers.Async
import RedisPy.Asyncio.Pool
import RedisPy.Lib.Places
import RedisPy.Asyncio.Tasks
import RedisPy.Asyncio.Accounting
import RedisPy.Asyncio.WakeUps
import RedisPy.Asyncio.Sentinel
import RedisPy.Asyncio.Masters
import RedisPy.Asyncio.Exclusive
import RedisPy.Cluster.NodesManager
import RedisPy.Cluster.Invariant
import RedisPy.Cluster.Moved
import RedisPy.Cluster.Startups
import RedisPy.Cluster.Refresh
import RedisPy.Client.Packing
import RedisPy.Client.Connection
import RedisPy.Client.Pipeline
import RedisPy.Client.Conduct
import RedisPy.Client.InStep
import RedisPy.Lock.Lock
import RedisPy.Lock.Ownership
import RedisPy.Cluster.Client
import RedisPy.Cluster.Upkeep
import RedisPy.Cluster.Remembers
import RedisPy.Parsers.Agreement
import RedisPy.Parsers.Pushes
import RedisPy.Cluster.Pipeline
import RedisPy.Cluster.Released
import RedisPy.Cluster.Attempts
import RedisPy.Cluster.Asked
import RedisPy.Cluster.Routing
import RedisPy.Client.Handshake
import RedisPy.Client.Established
import RedisPy.Parsers.Commands
import RedisPy.Parsers.KeyPositions
import RedisPy.Parsers.StaleTable
import RedisPy.Auth.TokenManager
import RedisPy.Cache.DefaultCache
import RedisPy.Cache.Invalidation
import RedisPy.Cache.Recency
import RedisPy.Pool.ConnectionPool
import RedisPy.Pool.Connecting
import RedisPy.Pool.Accounting
import RedisPy.Pool.Sentinel
import RedisPy.Pool.Blocking
import RedisPy.Cluster.Repeats
import RedisPy.Cluster.Resends
import RedisPy.Asyncio.ClusterPipeline
import RedisPy.Asyncio.Repeats
import RedisPy.Asyncio.ClusterNode
import RedisPy.Ocsp.Verifier
import RedisPy.Ocsp.Soundness
import RedisPy.Parsers.Sessions
import RedisPy.Cluster.Topology
import RedisPy.Client.Clean
import RedisPy.Client.Results
import RedisPy.Lib.Mirror
import RedisPy.Lib.Lru
import RedisPy.PubSub.PubSub
import RedisPy.PubSub.Bookkeeping
import RedisPy.PubSub.Reconnect
import RedisPy.PubSub.Locking
import RedisPy.PubSub.Reentry
import RedisPy.Sentinel.ManagedConnection
import RedisPy.Sentinel.Rediscovery
import RedisPy.Cluster.Rotation
import RedisPy.Lib.Holes
import RedisPy.Client.Alignment
import RedisPy.Client.Views
import RedisPy.Pool.ReAuth
import RedisPy.Lib.Polling
import RedisPy.Parsers.Polling
import RedisPy.Cluster.Lookup
import RedisPy.Sentinel.Rotation
import RedisPy.Sentinel.Discovery
import RedisPy.Sentinel.Protocols
import RedisPy.Sentinel.Replicas
import RedisPy.Cluster.KeySlot
import RedisPy.Cluster.Scan
import RedisPy.Cluster.MultiKey
import RedisPy.Python.Grouping
import RedisPy.Lib.Turns
import RedisPy.Python.Table
import RedisPy.Cluster.PubSub
import RedisPy.Cluster.Polls
import RedisPy.Cluster.Cancelling
import RedisPy.Client.Resending
import RedisPy.Auth.Acquiring
import RedisPy.Lock.Prolonging
import RedisPy.Lock.Releasing
import RedisPy.Python.Double
import RedisPy.Commands.Expiry
import RedisPy.Commands.Exclusive
import RedisPy.Lib.Failing
import RedisPy.Python.Splitting
import RedisPy.Parsers.ClientInfo
import RedisPy.Search.Result
import RedisPy.Search.Documents
import RedisPy.Client.Monitor
import RedisPy.Python.Quoting
import RedisPy.Client.Url
import RedisPy.Cluster.Balancing
import RedisPy.Parsers.ClusterNodes
import RedisPy.Search.QueryString
import RedisPy.Search.QueryGrammar
import RedisPy.Search.QueryReading
import RedisPy.Lib.Twofold
import RedisPy.Search.QueryMeaning
import RedisPy.Client.Watching
import RedisPy.Client.Anchored
import RedisPy.Lib.Optimistic
import RedisPy.Client.Transaction
import RedisPy.Client.Effects
import RedisPy.Client.Guarded
import RedisPy.Client.Serializable
import RedisPy.Cache.Proxy
import RedisPy.Lib.Cooperation
import RedisPy.Asyncio.SingleConnection
import RedisPy.Asyncio.OwnReplies
import RedisPy.Cache.Covered
