import ZeroBridge.Coordinator.Database
import ZeroBridge.Coordinator.Liquidity
import ZeroBridge.Coordinator.TokenRegistry
import ZeroBridge.Encoding.Hex

/-!
# The coordinator engine

`Coordinator` (`main.rs`) runs one tick loop: each tick takes the pending deposits and
handles them one by one (`process_deposits`, `handle_deposit`), then does the same for the
pending withdrawals (`process_withdrawals`, `handle_withdrawal`). Meanwhile the RPC server
(`rpc_server.rs`) inserts rows from relayer notifications (`notify_deposit_handler`,
`notify_withdrawal_handler`), concurrently with the loop.

The model is a step function over `Coordinator σ`. A notification is one atomic step; the
loop is cut into the pieces between its `await`s on shared state: taking a snapshot of the
pending rows, and handling one row of the snapshot. The `phase` field is the loop's
position, holding what is left of the snapshot, so that notifications interleave with the
handling of one snapshot exactly as they can in the process.

The shielded-settlement capability (`ShieldedPoolManager`, whose source is not in the
repository) is a `ShieldedPool σ`: three arbitrary functions over an arbitrary state `σ`.
Every result about the engine is stated for all of them. The outcome of every store
statement is an input of the step (`Io`), so runs with failing writes are runs of the
model too.

`log` is not in the source: it records, in order, each shielded note the engine creates
and each change it makes to a pool's `locked` balance, so that properties of whole runs
can count them.
-/

namespace ZeroBridge

/-- The shielded-settlement capability (`ShieldedPoolManager`), not in the repository: its
three operations as the engine calls them, over the capability's own state `σ`. -/
structure ShieldedPool (σ : Type) where
  /-- `create_deposit_note(source_chain_id, token, amount, recipient, zcash_address)`,
  returning the note commitment and the Zcash transaction id. -/
  createDepositNote : σ → Nat → String → Nat → Bytes → Bytes → Except String (σ × Bytes × String)
  /-- `verify_withdrawal_proof(nullifier, zcash_proof, merkle_root, amount)`. -/
  verifyWithdrawalProof : σ → Bytes → Bytes → Bytes → Nat → Except String Bool
  /-- `mark_nullifier_spent(nullifier)`. -/
  markNullifierSpent : σ → Bytes → Except String σ

/-- What the coordinator reads but never changes: the token registry, the capability's
operations, and the hash functions. -/
structure Services (σ : Type) where
  registry : TokenRegistry
  shieldedPool : ShieldedPool σ
  digest : HashInput → Bytes

/-- The tick loop's position: idle, or handling what is left of a snapshot. -/
inductive Phase
  | idle
  | deposits (pending : List Deposit)
  | withdrawals (pending : List Withdrawal)
  deriving DecidableEq, Repr

/-- An effect the engine has on the capability or a pool, as recorded in `log`. -/
inductive Effect
  /-- `create_deposit_note` returned a note for this deposit. -/
  | noteCreated (depositId : String)
  /-- `lock_liquidity` moved `amount` into `locked` of the pool, for this deposit. -/
  | locked (depositId : String) (key : PoolKey) (amount : Nat)
  /-- `release_liquidity` took `amount` out of `locked` of the pool, for this withdrawal. -/
  | released (withdrawalId : String) (key : PoolKey) (amount : Nat)
  deriving DecidableEq, Repr

/-- The coordinator's state. -/
structure Coordinator (σ : Type) where
  db : Database
  liquidity : LiquidityManager
  shielded : σ
  phase : Phase
  log : List Effect

/-- The outcomes the storage layer gives one step: the snapshot `SELECT`, the write to the
deposits or withdrawals table, and the `liquidity_pools` write. -/
structure Io where
  read : Bool
  store : Bool
  pool : Bool
  deriving DecidableEq, Repr

/-- A notification body (`rpc_server::DepositNotification`). -/
structure DepositNotification where
  depositId : String
  sourceChainId : Nat
  targetChainId : Nat
  sender : String
  token : String
  amount : Nat
  recipient : Bytes
  zcashAddress : Bytes
  timestamp : Nat
  deriving DecidableEq, Repr

/-- A notification body (`rpc_server::WithdrawalNotification`). -/
structure WithdrawalNotification where
  withdrawalId : String
  targetChainId : Nat
  recipient : String
  token : String
  amount : Nat
  nullifier : Bytes
  zcashProof : Bytes
  merkleRoot : Bytes
  deriving DecidableEq, Repr

/-- A step of the coordinator: a notification, with the outcome of its `INSERT` (and, for
a withdrawal, the clock reading the handler stamps it with), or one piece of the loop. -/
inductive Event
  | notifyDeposit (n : DepositNotification) (ok : Bool)
  | notifyWithdrawal (n : WithdrawalNotification) (now : Int) (ok : Bool)
  | tick (io : Io)
  deriving DecidableEq, Repr

/-! ### The RPC handlers -/

/-- `x as i64` for a `u64` value `x`: the same 64 bits read in two's complement. -/
def asI64 (x : Nat) : Int :=
  if x % 2 ^ 64 < 2 ^ 63 then (x % 2 ^ 64 : Nat) else (x % 2 ^ 64 : Nat) - 2 ^ 64

example : asI64 (2 ^ 63) = -2 ^ 63 := by decide

/-- The row `notify_deposit_handler` stores, with `created_at` the notification's `timestamp`
cast to `i64`. -/
def DepositNotification.toDeposit (n : DepositNotification) : Deposit :=
  ⟨n.depositId, n.sourceChainId, n.targetChainId, n.sender, n.recipient, n.token, n.amount,
    n.zcashAddress, false, none, none, asI64 n.timestamp⟩

/-- The row `notify_withdrawal_handler` stores, stamped with the handler's clock. -/
def WithdrawalNotification.toWithdrawal (n : WithdrawalNotification) (now : Int) : Withdrawal :=
  ⟨n.withdrawalId, n.targetChainId, n.recipient, n.token, n.amount, n.nullifier, n.zcashProof,
    n.merkleRoot, false, none, now⟩

/-- `notify_deposit_handler`: `"queued"`, or status 500 when the `INSERT` fails. -/
def notifyDepositHandler (db : Database) (ok : Bool) (n : DepositNotification) :
    Database × Except Nat String :=
  match db.storeDeposit ok n.toDeposit with
  | .ok db' => (db', .ok "queued")
  | .error _ => (db, .error 500)

/-- `notify_withdrawal_handler`: `"queued"`, or status 500 when the `INSERT` fails. -/
def notifyWithdrawalHandler (db : Database) (ok : Bool) (now : Int) (n : WithdrawalNotification) :
    Database × Except Nat String :=
  match db.storeWithdrawal ok (n.toWithdrawal now) with
  | .ok db' => (db', .ok "queued")
  | .error _ => (db, .error 500)

/-! ### The two pipelines -/

/-- What `generate_withdrawal_signature` hashes: SHA-256 over
`withdrawal_id ‖ recipient ‖ token ‖ amount.to_le_bytes() ‖ nullifier`. -/
def signingInput (withdrawalId recipient token : String) (amount : Nat) (nullifier : Bytes) :
    HashInput :=
  ⟨.sha256, asBytes withdrawalId ++ asBytes recipient ++ asBytes token ++ toLeBytes 8 amount ++
    nullifier⟩

/-- `generate_withdrawal_signature`: for now the digest itself is the signature. -/
def generateWithdrawalSignature (digest : HashInput → Bytes) (withdrawalId recipient token : String)
    (amount : Nat) (nullifier : Bytes) : Bytes :=
  digest (signingInput withdrawalId recipient token amount nullifier)

/-- The message of a liquidity error. -/
def LiquidityError.message : LiquidityError → String
  | .poolNotFound => "Pool not found"
  | .insufficientLiquidity need available =>
    "Insufficient liquidity: need " ++ toString need ++ ", have " ++ toString available
  | .insufficientAvailable => "Insufficient available liquidity"
  | .database => "error returned from database"

variable {σ : Type}

/-- `handle_deposit`: resolve the token, check the pool, create the note, lock the pool,
mark the row processed. Each failure returns `Err` and keeps what was done before it. -/
def handleDeposit (sv : Services σ) (io : Io) (d : Deposit) (s : Coordinator σ) :
    Coordinator σ × Except String Unit :=
  match sv.registry.getTokenForChain d.targetChainId d.token with
  | .error _ => (s, .error "Token not found in registry")
  | .ok ti =>
  match s.liquidity.ensureLiquidity d.targetChainId ti.address d.amount with
  | .error _ => (s, .error "Insufficient liquidity on destination chain")
  | .ok () =>
  match sv.shieldedPool.createDepositNote s.shielded d.sourceChainId d.token d.amount d.recipient
      d.zcashAddress with
  | .error _ => (s, .error "Failed to create Zcash shielded note")
  | .ok (σ', noteCommitment, zcashTxid) =>
    let key : PoolKey := (d.targetChainId, ti.address)
    let applied := s.liquidity.lockApplies d.targetChainId ti.address d.amount
    let r := s.liquidity.lockLiquidity io.pool d.targetChainId ti.address d.amount
    let log := s.log ++ .noteCreated d.depositId ::
      if applied then [.locked d.depositId key d.amount] else []
    let s₁ := { s with shielded := σ', liquidity := r.1, log := log }
    match r.2 with
    | .error e => (s₁, .error e.message)
    | .ok () =>
      match s₁.db.markDepositProcessed io.store d.depositId (hexEncode noteCommitment) zcashTxid with
      | .error _ => (s₁, .error "error returned from database")
      | .ok db' => ({ s₁ with db := db' }, .ok ())

/-- `handle_withdrawal`: verify the proof (deleting the row if it is invalid), mark the
nullifier spent, resolve the token, sign, authorize the row, release the pool. -/
def handleWithdrawal (sv : Services σ) (io : Io) (w : Withdrawal) (s : Coordinator σ) :
    Coordinator σ × Except String Unit :=
  match sv.shieldedPool.verifyWithdrawalProof s.shielded w.nullifier w.zcashProof w.merkleRoot
      w.amount with
  | .error _ => (s, .error "Proof verification failed")
  | .ok false =>
    match s.db.markWithdrawalInvalid io.store w.withdrawalId "Invalid proof" with
    | .error _ => (s, .error "error returned from database")
    | .ok db' => ({ s with db := db' }, .ok ())
  | .ok true =>
  match sv.shieldedPool.markNullifierSpent s.shielded w.nullifier with
  | .error e => (s, .error e)
  | .ok σ' =>
  let s₁ := { s with shielded := σ' }
  match sv.registry.getTokenForChain w.targetChainId w.token with
  | .error _ => (s₁, .error "Token not found in registry")
  | .ok ti =>
    let sig := generateWithdrawalSignature sv.digest w.withdrawalId w.recipient ti.address w.amount
      w.nullifier
    match s₁.db.authorizeWithdrawal io.store w.withdrawalId ti.address w.amount sig with
    | .error _ => (s₁, .error "error returned from database")
    | .ok db' =>
      let key : PoolKey := (w.targetChainId, ti.address)
      let applied := s₁.liquidity.releaseApplies w.targetChainId ti.address w.amount
      let r := s₁.liquidity.releaseLiquidity io.pool w.targetChainId ti.address w.amount
      let log := s₁.log ++ if applied then [.released w.withdrawalId key w.amount] else []
      ({ s₁ with db := db', liquidity := r.1, log := log }, r.2.mapError LiquidityError.message)

/-! ### Steps and runs -/

/-- One piece of the tick loop, by the loop's position. A failed snapshot `SELECT` makes
the pass handle nothing, as the `Err` of `process_*` is only logged. -/
def tickStep (sv : Services σ) (io : Io) (s : Coordinator σ) : Coordinator σ :=
  match s.phase with
  | .idle => { s with phase := .deposits (if io.read then s.db.getPendingDeposits else []) }
  | .deposits [] =>
    { s with phase := .withdrawals (if io.read then s.db.getPendingWithdrawals else []) }
  | .deposits (d :: ds) => { (handleDeposit sv io d s).1 with phase := .deposits ds }
  | .withdrawals [] => { s with phase := .idle }
  | .withdrawals (w :: ws) => { (handleWithdrawal sv io w s).1 with phase := .withdrawals ws }

/-- One step of the coordinator. -/
def step (sv : Services σ) (s : Coordinator σ) : Event → Coordinator σ
  | .notifyDeposit n ok => { s with db := (notifyDepositHandler s.db ok n).1 }
  | .notifyWithdrawal n now ok => { s with db := (notifyWithdrawalHandler s.db ok now n).1 }
  | .tick io => tickStep sv io s

/-- The state after a sequence of steps. -/
def run (sv : Services σ) (s : Coordinator σ) (evs : List Event) : Coordinator σ :=
  evs.foldl (step sv) s

/-- A fresh coordinator: empty tables, the pools loaded at startup, the capability's
initial state. -/
def Coordinator.init (lm : LiquidityManager) (s₀ : σ) : Coordinator σ :=
  ⟨Database.empty, lm, s₀, .idle, []⟩

@[simp]
theorem run_nil (sv : Services σ) (s : Coordinator σ) : run sv s [] = s := rfl

@[simp]
theorem run_append_singleton (sv : Services σ) (s : Coordinator σ) (evs : List Event) (e : Event) :
    run sv s (evs ++ [e]) = step sv (run sv s evs) e := by
  simp [run, List.foldl_append]

/-- Whether every write the event makes succeeds: the `INSERT` of a notification, and the
table and pool writes of a piece of the loop. -/
def Event.writesSucceed : Event → Bool
  | .notifyDeposit _ ok => ok
  | .notifyWithdrawal _ _ ok => ok
  | .tick io => io.store && io.pool

/-! ### A sample deployment -/

/-- A registry that resolves every address to one token, present on chain `1` at `"ETH"`,
and a capability without state that accepts every non-empty proof and lets every other
operation succeed. -/
def Services.sample : Services Unit where
  registry := ⟨CaseMapping.ascii.toLowercase,
    fun _ => some ⟨"eth", "ETH", "Ether", 18, [⟨1, "ethereum", "ETH", 18, true, none⟩]⟩,
    fun _ => some "eth"⟩
  shieldedPool := ⟨fun _ _ _ _ _ _ => .ok ((), [0xab], "zc-tx"),
    fun _ _ proof _ _ => .ok !proof.isEmpty, fun _ _ => .ok ()⟩
  digest := HashInput.message

/-- A notification for deposit `"d1"` of 10 units of `"ETH"` to chain `1`. -/
def DepositNotification.sample : DepositNotification :=
  ⟨"d1", 7, 1, "0x5e", "ETH", 10, [1], [2], 0⟩

/-- A withdrawal `"w1"` of 5 units of `"ETH"` on chain `1`, with nullifier `[7]` and an
empty proof, which the sample capability rejects. -/
def WithdrawalNotification.sample : WithdrawalNotification :=
  ⟨"w1", 1, "0x7e", "ETH", 5, [7], [], [9]⟩

/-- All writes succeed. -/
def Io.allOk : Io := ⟨true, true, true⟩

end ZeroBridge
