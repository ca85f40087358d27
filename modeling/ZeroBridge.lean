import ZeroBridge.Store.Table
import ZeroBridge.Encoding.Bytes
import ZeroBridge.Encoding.Hex
import ZeroBridge.Encoding.Json
import ZeroBridge.Coordinator.Liquidity
import ZeroBridge.Coordinator.Database
import ZeroBridge.Coordinator.TokenRegistry
import ZeroBridge.Coordinator.Engine
import ZeroBridge.Coordinator.StepSpec
import ZeroBridge.Coordinator.MainLoop
import ZeroBridge.Coordinator.DepositLifecycle
import ZeroBridge.Coordinator.WithdrawalLifecycle
import ZeroBridge.Coordinator.RpcServer
import ZeroBridge.Coordinator.PoolAccounting
import ZeroBridge.Gateway.Storage
import ZeroBridge.Gateway.Osmosis
import ZeroBridge.Gateway.Near
import ZeroBridge.Gateway.Solana
import ZeroBridge.Gateway.CrossChain
import ZeroBridge.Gateway.Administration
import ZeroBridge.Relayer.PollLoop
import ZeroBridge.Relayer.TaskClaims
import ZeroBridge.Relayer.CoordinatorClient
import ZeroBridge.Relayer.TransactionExecutor
import ZeroBridge.Relayer.EventListener
