import CustomKv.Basic
import CustomKv.Coroutine
import CustomKv.Server.Store
import CustomKv.Server.Selector
import CustomKv.Server.Server
import CustomKv.Client
import CustomKv.Frame
import CustomKv.ReadOnly
import CustomKv.ReadWrite
import CustomKv.System
import CustomKv.TransactionLemmas
import CustomKv.Lifecycle
import CustomKv.Exceptions
import CustomKv.Clock
import CustomKv.Requests
import CustomKv.Invariant
import CustomKv.Steps
import CustomKv.Ranges
import CustomKv.Conflicts
import CustomKv.Reads
import CustomKv.Versionstamps
import CustomKv.Leaks
import CustomKv.ReadTransactions
import CustomKv.Ownership
import CustomKv.Isolation
import CustomKv.Engine.Clients
import CustomKv.Engine.Impl
import CustomKv.Engine.Deployment
import CustomKv.Engine.Invariant
import CustomKv.Engine.Lifetime
import CustomKv.Engine.Health
