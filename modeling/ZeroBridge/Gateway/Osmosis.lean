import ZeroBridge.Gateway.Storage
import ZeroBridge.Encoding.Hex

/-!
# The Osmosis gateway

The CosmWasm contract of `osmosis_ibc` (`contract.rs`, `state.rs`, `msg.rs`,
`error.rs`): its storage items and maps, every `ExecuteMsg` entry point, and the two
queries that compute. A transaction either returns `Ok` with the new storage, or aborts
with a `ContractError` or a panic, and then nothing it wrote is kept (`step`).

What the contract asks of its host is a parameter, `Host`: SHA-256 (for the ids),
`addr_validate`, and the parse `K256Signature::try_from` of a signature's first 64 bytes;
none of them is in the repository. `Uint128`'s `+` panics on overflow; the `u64` counters
are taken to be built with `overflow-checks`, as CosmWasm's release profile sets, so their
`+ 1` panics too.

**Custody** (`run_custody`): in every state reachable from instantiation,
`LOCKED_BALANCES["uosmo"] + TOTAL_WITHDRAWALS = TOTAL_DEPOSITS`, and every other token's
locked balance is zero. **Requests** (`requests_execute_once`): with an injective hash, a
stored request is never overwritten, and each executes at most once. But the nullifier
check keys `NULLIFIERS` by the nullifier's raw text, so two requests whose nullifiers differ
only in the case of their hex digits denote one 32-byte value and are both executed
(`same_nullifier_executed_twice`). The response's attributes are not modelled; its transfer
message is.
-/

namespace ZeroBridge

namespace Osmosis

/-- `MIN_DEPOSIT`: 1 OSMO. -/
def minDeposit : Nat := 1000000

/-- `MAX_DEPOSIT`: 1M OSMO. -/
def maxDeposit : Nat := 1000000000000

/-- The native denomination. -/
def uosmo : String := "uosmo"

/-- `Config`. -/
structure Config where
  owner : String
  coordinator : String
  paused : Bool
  bridgeFee : Nat
  deriving DecidableEq, Repr

/-- `DepositInfo`. -/
structure DepositInfo where
  depositId : String
  sender : String
  token : String
  amount : Nat
  targetChainId : Nat
  recipient : String
  zcashAddress : String
  timestamp : Nat
  processed : Bool
  deriving DecidableEq, Repr

/-- `WithdrawalRequestInfo`. -/
structure WithdrawalRequestInfo where
  withdrawalId : String
  recipient : String
  token : String
  amount : Nat
  nullifier : String
  timestamp : Nat
  executed : Bool
  deriving DecidableEq, Repr

/-- The contract's storage: `CONFIG`, the five maps and the four counters. -/
structure State where
  config : Config
  deposits : KVMap String DepositInfo
  withdrawalRequests : KVMap String WithdrawalRequestInfo
  nullifiers : KVMap String Bool
  lockedBalances : KVMap String Nat
  liquidityProviders : KVMap String Bool
  depositCount : Nat
  withdrawalCount : Nat
  totalDeposits : Nat
  totalWithdrawals : Nat

/-- The storage `instantiate` saves: the sender as owner, unpaused, a fee of 30 basis
points, and empty maps and counters. -/
def State.init (sender coordinator : String) : State :=
  ⟨⟨sender, coordinator, false, 30⟩, fun _ => none, fun _ => none, fun _ => none,
    fun _ => none, fun _ => none, 0, 0, 0, 0⟩

/-- `ContractError`. -/
inductive ContractError
  | std (msg : String)
  | unauthorized
  | paused
  | mustBePaused
  | amountTooSmall
  | amountTooLarge
  | invalidAmount
  | invalidRecipient
  | invalidZcashAddress
  | invalidNullifier
  | invalidMerkleRoot
  | nullifierUsed
  | alreadyExecuted
  | insufficientLockedBalance
  | insufficientLiquidity
  | invalidSignature
  | feeTooHigh
  deriving DecidableEq, Repr

/-- How a transaction aborts: with an `Err`, or with a panic. -/
inductive Abort
  | error (e : ContractError)
  | panic (msg : String)
  deriving DecidableEq, Repr

/-- What the contract asks of its host. -/
structure Host where
  /-- `Sha256::digest`. -/
  sha256 : Bytes → Bytes
  /-- `deps.api.addr_validate`. -/
  addrValidate : String → Bool
  /-- `K256Signature::try_from` on 64 bytes. -/
  signatureParses : Bytes → Bool

/-- `MessageInfo`: the sender and the attached coins, as `(denom, amount)`. -/
structure MessageInfo where
  sender : String
  funds : List (String × Nat)
  deriving DecidableEq, Repr

/-- `ExecuteMsg`. -/
inductive ExecuteMsg
  | deposit (targetChainId : Nat) (recipient zcashAddress : String)
  | requestWithdrawal (token : String) (amount : Nat) (nullifier zcashProof merkleRoot : String)
  | executeWithdrawal (withdrawalId coordinatorSignature : String)
  | addLiquidity (token : String)
  | removeLiquidity (token : String) (amount : Nat)
  | setCoordinator (newCoordinator : String)
  | addLiquidityProvider (provider : String)
  | removeLiquidityProvider (provider : String)
  | setPaused (paused : Bool)
  | setBridgeFee (newFee : Nat)
  | emergencyWithdraw (token toAddress : String) (amount : Nat)
  deriving DecidableEq, Repr

/-- The transfer a response carries: a bank send of a native coin, or a CW20 transfer. -/
inductive Transfer
  | bank (toAddress denom : String) (amount : Nat)
  | cw20 (contract recipient : String) (amount : Nat)
  deriving DecidableEq, Repr

/-! ### Arithmetic and hashing -/

/-- `Uint128`'s `+`, which panics on overflow. -/
def uint128Add (a b : Nat) : Except Abort Nat :=
  match checkedAdd 128 a b with
  | some c => .ok c
  | none => .error (.panic "attempt to add with overflow")

/-- `u64`'s `+` under `overflow-checks`. -/
def u64Add (a b : Nat) : Except Abort Nat :=
  match checkedAdd 64 a b with
  | some c => .ok c
  | none => .error (.panic "attempt to add with overflow")

/-- `Uint128::multiply_ratio(num, denom)`: the floor of `a * num / denom`, computed without
intermediate overflow. -/
def multiplyRatio (a num denom : Nat) : Nat := a * num / denom

/-- The amount of `denom` among the attached coins, zero if there is none. -/
def fundsOf (funds : List (String × Nat)) (denom : String) : Nat :=
  ((funds.find? fun c => c.1 = denom).map Prod.snd).getD 0

/-- `generate_deposit_id`: hex of SHA-256 over the sender, the token, the amount in
decimal, the target chain (LE), the recipient, the nonce (LE) and the time (LE). -/
def generateDepositId (host : Host) (sender token : String) (amount targetChainId : Nat)
    (recipient : String) (nonce timestamp : Nat) : String :=
  hexEncode (host.sha256 (asBytes sender ++ asBytes token ++ asBytes (toString amount) ++
    toLeBytes 8 targetChainId ++ asBytes recipient ++ toLeBytes 8 nonce ++ toLeBytes 8 timestamp))

/-- `generate_withdrawal_id`: hex of SHA-256 over the recipient, the token, the amount in
decimal, the nullifier text, the nonce (LE) and the time (LE). -/
def generateWithdrawalId (host : Host) (recipient token : String) (amount : Nat)
    (nullifier : String) (nonce timestamp : Nat) : String :=
  hexEncode (host.sha256 (asBytes recipient ++ asBytes token ++ asBytes (toString amount) ++
    asBytes nullifier ++ toLeBytes 8 nonce ++ toLeBytes 8 timestamp))

/-- The bytes `verify_coordinator_signature` hashes with SHA-256 (the digest is then
unused): the withdrawal id, recipient, token, the amount in decimal, and the nullifier
text. -/
def verifyMessage (withdrawalId recipient token : String) (amount : Nat) (nullifier : String) :
    Bytes :=
  asBytes withdrawalId ++ asBytes recipient ++ asBytes token ++ asBytes (toString amount) ++
    asBytes nullifier

/-- `verify_coordinator_signature`: it hashes the message and drops the digest; the
signature must be hex of 65 bytes whose first 64 parse as a signature, and nothing is
checked against the message or the coordinator. -/
def verifyCoordinatorSignature (host : Host) (withdrawalId recipient token : String)
    (amount : Nat) (nullifier signature : String) : Except Abort Unit :=
  let _messageHash := host.sha256 (verifyMessage withdrawalId recipient token amount nullifier)
  match hexDecode signature with
  | none => .error (.error .invalidSignature)
  | some sig =>
    if sig.length ≠ 65 then .error (.error .invalidSignature)
    else if !host.signatureParses (sig.take 64) then .error (.error .invalidSignature)
    else .ok ()

/-! ### Entry points -/

variable (host : Host)

/-- Fail with `e` when `c` holds. -/
def guard (c : Bool) (e : ContractError) : Except Abort Unit :=
  if c then .error (.error e) else .ok ()

/-- `instantiate`. -/
def instantiate (sender coordinator : String) : Except Abort State :=
  if !host.addrValidate coordinator then .error (.error (.std "Invalid input: address not normalized"))
  else .ok (State.init sender coordinator)

/-- `execute_deposit`. -/
def executeDeposit (s : State) (time : Nat) (info : MessageInfo) (targetChainId : Nat)
    (recipient zcashAddress : String) : Except Abort (State × List Transfer) := do
  guard s.config.paused .paused
  guard (recipient.isEmpty || (asBytes recipient).length ≠ 64) .invalidRecipient
  guard (zcashAddress.isEmpty || (asBytes zcashAddress).length ≠ 64) .invalidZcashAddress
  let amount := fundsOf info.funds uosmo
  guard (amount < minDeposit) .amountTooSmall
  guard (amount > maxDeposit) .amountTooLarge
  let fee := multiplyRatio amount s.config.bridgeFee 10000
  let netAmount := amount - fee
  let depositId := generateDepositId host info.sender uosmo amount targetChainId recipient
    s.depositCount time
  let deposit : DepositInfo := ⟨depositId, info.sender, uosmo, netAmount, targetChainId,
    recipient, zcashAddress, time, false⟩
  let locked ← uint128Add ((s.lockedBalances uosmo).getD 0) netAmount
  let totalDeposits ← uint128Add s.totalDeposits netAmount
  let depositCount ← u64Add s.depositCount 1
  return ({ s with
    deposits := s.deposits.insert depositId deposit
    lockedBalances := s.lockedBalances.insert uosmo locked
    totalDeposits := totalDeposits
    depositCount := depositCount }, [])

/-- `execute_request_withdrawal`. -/
def executeRequestWithdrawal (s : State) (time : Nat) (info : MessageInfo) (token : String)
    (amount : Nat) (nullifier merkleRoot : String) : Except Abort (State × List Transfer) := do
  guard s.config.paused .paused
  guard (amount = 0) .invalidAmount
  guard (nullifier.isEmpty || (asBytes nullifier).length ≠ 64) .invalidNullifier
  guard (merkleRoot.isEmpty || (asBytes merkleRoot).length ≠ 64) .invalidMerkleRoot
  guard ((s.nullifiers nullifier).getD false) .nullifierUsed
  let withdrawalId := generateWithdrawalId host info.sender token amount nullifier
    s.withdrawalCount time
  let request : WithdrawalRequestInfo :=
    ⟨withdrawalId, info.sender, token, amount, nullifier, time, false⟩
  let withdrawalCount ← u64Add s.withdrawalCount 1
  return ({ s with
    withdrawalRequests := s.withdrawalRequests.insert withdrawalId request
    withdrawalCount := withdrawalCount }, [])

/-- `WITHDRAWAL_REQUESTS.load`, failing as `StdError::NotFound`. -/
def loadWithdrawalRequest (s : State) (withdrawalId : String) :
    Except Abort WithdrawalRequestInfo :=
  match s.withdrawalRequests withdrawalId with
  | some r => .ok r
  | none => .error (.error (.std "WithdrawalRequestInfo not found"))

/-- `execute_execute_withdrawal`. -/
def executeExecuteWithdrawal (s : State) (withdrawalId coordinatorSignature : String) :
    Except Abort (State × List Transfer) := do
  guard s.config.paused .paused
  let request ← loadWithdrawalRequest s withdrawalId
  guard request.executed .alreadyExecuted
  guard ((s.nullifiers request.nullifier).getD false) .nullifierUsed
  let locked := (s.lockedBalances request.token).getD 0
  guard (locked < request.amount) .insufficientLockedBalance
  verifyCoordinatorSignature host withdrawalId request.recipient request.token request.amount
    request.nullifier coordinatorSignature
  let totalWithdrawals ← uint128Add s.totalWithdrawals request.amount
  let transfer := if request.token = uosmo then Transfer.bank request.recipient uosmo request.amount
    else Transfer.cw20 request.token request.recipient request.amount
  return ({ s with
    withdrawalRequests := s.withdrawalRequests.insert withdrawalId { request with executed := true }
    nullifiers := s.nullifiers.insert request.nullifier true
    lockedBalances := s.lockedBalances.insert request.token (locked - request.amount)
    totalWithdrawals := totalWithdrawals }, [transfer])

/-- Whether the sender is an authorized liquidity provider. -/
def isProvider (s : State) (sender : String) : Bool := (s.liquidityProviders sender).getD false

/-- `query_available_liquidity`: a placeholder that always answers zero. -/
def queryAvailableLiquidity (_token : String) : Nat := 0

/-- `execute_add_liquidity`: checks, and records nothing. -/
def executeAddLiquidity (s : State) (info : MessageInfo) (token : String) :
    Except Abort (State × List Transfer) := do
  guard s.config.paused .paused
  guard (!isProvider s info.sender) .unauthorized
  guard (fundsOf info.funds token = 0) .invalidAmount
  return (s, [])

/-- `execute_remove_liquidity`: against an available liquidity of zero. -/
def executeRemoveLiquidity (s : State) (info : MessageInfo) (token : String) (amount : Nat) :
    Except Abort (State × List Transfer) := do
  guard s.config.paused .paused
  guard (!isProvider s info.sender) .unauthorized
  guard (amount = 0) .invalidAmount
  guard (queryAvailableLiquidity token < amount) .insufficientLiquidity
  return (s, [.bank info.sender token amount])

/-- `addr_validate`, failing as `StdError`. -/
def addrValidate (addr : String) : Except Abort String :=
  if host.addrValidate addr then .ok addr
  else .error (.error (.std "Invalid input: address not normalized"))

/-- The owner-only entry points and the rest of `execute`'s dispatch. -/
def execute (s : State) (time : Nat) (info : MessageInfo) : ExecuteMsg →
    Except Abort (State × List Transfer)
  | .deposit targetChainId recipient zcashAddress =>
    executeDeposit host s time info targetChainId recipient zcashAddress
  | .requestWithdrawal token amount nullifier _zcashProof merkleRoot =>
    executeRequestWithdrawal host s time info token amount nullifier merkleRoot
  | .executeWithdrawal withdrawalId coordinatorSignature =>
    executeExecuteWithdrawal host s withdrawalId coordinatorSignature
  | .addLiquidity token => executeAddLiquidity s info token
  | .removeLiquidity token amount => executeRemoveLiquidity s info token amount
  | .setCoordinator newCoordinator => do
    guard (info.sender ≠ s.config.owner) .unauthorized
    let coordinator ← addrValidate host newCoordinator
    return ({ s with config := { s.config with coordinator := coordinator } }, [])
  | .addLiquidityProvider provider => do
    guard (info.sender ≠ s.config.owner) .unauthorized
    let addr ← addrValidate host provider
    return ({ s with liquidityProviders := s.liquidityProviders.insert addr true }, [])
  | .removeLiquidityProvider provider => do
    guard (info.sender ≠ s.config.owner) .unauthorized
    let addr ← addrValidate host provider
    return ({ s with liquidityProviders := s.liquidityProviders.insert addr false }, [])
  | .setPaused paused => do
    guard (info.sender ≠ s.config.owner) .unauthorized
    return ({ s with config := { s.config with paused := paused } }, [])
  | .setBridgeFee newFee => do
    guard (info.sender ≠ s.config.owner) .unauthorized
    guard (newFee > 100) .feeTooHigh
    return ({ s with config := { s.config with bridgeFee := newFee } }, [])
  | .emergencyWithdraw token toAddress amount => do
    guard (info.sender ≠ s.config.owner) .unauthorized
    guard (!s.config.paused) .mustBePaused
    guard (amount = 0) .invalidAmount
    return (s, [.bank toAddress token amount])

/-- `query_locked_balance`. -/
def queryLockedBalance (s : State) (token : String) : Nat := (s.lockedBalances token).getD 0

/-- `query_stats`: `(total_deposits, total_withdrawals, total_volume, active_deposits)`;
the volume's `+` panics on overflow, the difference saturates. -/
def queryStats (s : State) : Except Abort (Nat × Nat × Nat × Nat) := do
  let totalVolume ← uint128Add s.totalDeposits s.totalWithdrawals
  return (s.totalDeposits, s.totalWithdrawals, totalVolume, s.totalDeposits - s.totalWithdrawals)

/-- A transaction: its `MessageInfo`, the block time and the message. -/
structure Call where
  info : MessageInfo
  time : Nat
  msg : ExecuteMsg
  deriving DecidableEq, Repr

/-- One transaction: an aborted one leaves the storage as it was. -/
def step (s : State) (c : Call) : State :=
  match execute host s c.time c.info c.msg with
  | .ok r => r.1
  | .error _ => s

/-- The storage after a sequence of transactions. -/
def run (s : State) (calls : List Call) : State := calls.foldl (step host) s

/-! ### What a successful transaction does -/

@[simp]
theorem guard_eq_ok {c : Bool} {e : ContractError} {u : Unit} : guard c e = .ok u ↔ c = false := by
  cases c <;> simp [guard]

@[simp]
theorem uint128Add_eq_ok {a b c : Nat} : uint128Add a b = .ok c ↔ checkedAdd 128 a b = some c := by
  unfold uint128Add
  cases checkedAdd 128 a b <;> simp

@[simp]
theorem u64Add_eq_ok {a b c : Nat} : u64Add a b = .ok c ↔ checkedAdd 64 a b = some c := by
  unfold u64Add
  cases checkedAdd 64 a b <;> simp

@[simp]
theorem loadWithdrawalRequest_eq_ok {s : State} {id : String} {r : WithdrawalRequestInfo} :
    loadWithdrawalRequest s id = .ok r ↔ s.withdrawalRequests id = some r := by
  unfold loadWithdrawalRequest
  cases s.withdrawalRequests id <;> simp

@[simp]
theorem addrValidate_eq_ok {a b : String} : addrValidate host a = .ok b ↔ host.addrValidate a ∧ a = b := by
  unfold addrValidate
  split <;> simp_all

variable {host}

/-- A deposit adds its net amount to the locked `uosmo` balance and to the deposit total. -/
theorem executeDeposit_ok {s s' : State} {time : Nat} {info : MessageInfo} {targetChainId : Nat}
    {recipient zcashAddress : String} {ts : List Transfer}
    (h : executeDeposit host s time info targetChainId recipient zcashAddress = .ok (s', ts)) :
    ∃ net, s'.lockedBalances = s.lockedBalances.insert uosmo ((s.lockedBalances uosmo).getD 0 + net) ∧
      s'.totalDeposits = s.totalDeposits + net ∧ s'.totalWithdrawals = s.totalWithdrawals ∧
      s'.withdrawalRequests = s.withdrawalRequests ∧ s'.withdrawalCount = s.withdrawalCount := by
  simp only [executeDeposit, Except.bind_eq_ok, guard_eq_ok, uint128Add_eq_ok, u64Add_eq_ok,
    checkedAdd_eq_some] at h
  obtain ⟨-, -, -, -, -, -, -, -, -, -, l, ⟨-, rfl⟩, t, ⟨-, rfl⟩, c, -, h⟩ := h
  cases h
  exact ⟨_, rfl, rfl, rfl, rfl, rfl⟩

/-- A request that `request_withdrawal` accepts has a nullifier of 64 bytes; it is stored,
unexecuted, under the id generated from its fields at the current nonce, and the nonce
advances. -/
theorem executeRequestWithdrawal_ok {s s' : State} {time : Nat} {info : MessageInfo}
    {token : String} {amount : Nat} {nullifier merkleRoot : String} {ts : List Transfer}
    (h : executeRequestWithdrawal host s time info token amount nullifier merkleRoot =
      .ok (s', ts)) :
    (asBytes nullifier).length = 64 ∧ s.withdrawalCount + 1 < 2 ^ 64 ∧
      s'.withdrawalCount = s.withdrawalCount + 1 ∧
      s'.withdrawalRequests = s.withdrawalRequests.insert
        (generateWithdrawalId host info.sender token amount nullifier s.withdrawalCount time)
        ⟨generateWithdrawalId host info.sender token amount nullifier s.withdrawalCount time,
          info.sender, token, amount, nullifier, time, false⟩ := by
  simp only [executeRequestWithdrawal, Except.bind_eq_ok, guard_eq_ok, Bool.or_eq_false_iff,
    decide_eq_false_iff_not, not_not, u64Add_eq_ok, checkedAdd_eq_some] at h
  obtain ⟨-, -, -, -, -, ⟨-, h64⟩, -, -, -, -, c, ⟨hc, rfl⟩, h⟩ := h
  cases h
  exact ⟨h64, hc, rfl, rfl⟩

theorem executeRequestWithdrawal_nullifier {s : State} {time : Nat} {info : MessageInfo}
    {token : String} {amount : Nat} {nullifier merkleRoot : String} {r : State × List Transfer}
    (h : executeRequestWithdrawal host s time info token amount nullifier merkleRoot = .ok r) :
    (asBytes nullifier).length = 64 := by
  obtain ⟨s', ts⟩ := r
  exact (executeRequestWithdrawal_ok h).1

/-- An execution takes the request's amount out of the locked balance of its token, which
held at least that much, and adds it to the withdrawal total. -/
theorem executeExecuteWithdrawal_ok {s s' : State} {id sig : String} {ts : List Transfer}
    (h : executeExecuteWithdrawal host s id sig = .ok (s', ts)) :
    ∃ r, s.withdrawalRequests id = some r ∧ r.amount ≤ (s.lockedBalances r.token).getD 0 ∧
      s'.lockedBalances =
        s.lockedBalances.insert r.token ((s.lockedBalances r.token).getD 0 - r.amount) ∧
      s'.totalDeposits = s.totalDeposits ∧ s'.totalWithdrawals = s.totalWithdrawals + r.amount ∧
      r.executed = false ∧
      s'.withdrawalRequests = s.withdrawalRequests.insert id { r with executed := true } ∧
      s'.withdrawalCount = s.withdrawalCount := by
  simp only [executeExecuteWithdrawal, Except.bind_eq_ok, guard_eq_ok, uint128Add_eq_ok,
    checkedAdd_eq_some, loadWithdrawalRequest_eq_ok, decide_eq_false_iff_not, not_lt] at h
  obtain ⟨-, -, r, hr, -, hex, -, -, -, hl, -, -, t, ⟨-, rfl⟩, h⟩ := h
  cases h
  exact ⟨r, hr, hl, rfl, rfl, rfl, hex, rfl, rfl⟩

/-! ### Custody -/

/-- **Custody invariant.** The locked `uosmo` balance and the withdrawal total add up to the
deposit total, and no other token has a locked balance. -/
def Custody (s : State) : Prop :=
  (s.lockedBalances uosmo).getD 0 + s.totalWithdrawals = s.totalDeposits ∧
    ∀ t, t ≠ uosmo → (s.lockedBalances t).getD 0 = 0

theorem custody_init (sender coordinator : String) : Custody (State.init sender coordinator) :=
  ⟨rfl, fun _ _ => rfl⟩

theorem custody_execute {s s' : State} (hc : Custody s) {time : Nat} {info : MessageInfo}
    {msg : ExecuteMsg} {ts : List Transfer} (h : execute host s time info msg = .ok (s', ts)) :
    Custody s' := by
  obtain ⟨hu, ht⟩ := hc
  cases msg
  case deposit targetChainId recipient zcashAddress =>
    obtain ⟨net, hl, hd, hw, -⟩ := executeDeposit_ok h
    rw [Custody, hl, hd, hw]
    exact custody_of_deposit hu ht net
  case executeWithdrawal id sig =>
    obtain ⟨r, -, hle, hl, hd, hw, -⟩ := executeExecuteWithdrawal_ok h
    rw [Custody, hl, hd, hw]
    exact custody_of_withdrawal hu ht hle
  case requestWithdrawal token amount nullifier zcashProof merkleRoot =>
    simp only [execute, executeRequestWithdrawal, Except.bind_eq_ok] at h
    obtain ⟨-, -, -, -, -, -, -, -, -, -, c, -, h⟩ := h
    cases h
    exact ⟨hu, ht⟩
  all_goals
    simp only [execute, executeAddLiquidity, executeRemoveLiquidity, Except.bind_eq_ok,
      Except.pure_eq_ok, Prod.mk.injEq] at h
    repeat first
      | obtain ⟨rfl, -⟩ := h
      | obtain ⟨_, _, h⟩ := h
    exact ⟨hu, ht⟩

theorem custody_step {s : State} (hc : Custody s) (c : Call) : Custody (step host s c) := by
  unfold step
  split
  · exact custody_execute hc ‹_›
  · exact hc

/-- **Custody.** In every state reachable from instantiation (whose storage is
`State.init`) by any sequence of transactions, failed ones reverting, the locked `uosmo`
balance plus the withdrawal total equals the deposit total, and every other token's locked
balance is zero. -/
theorem run_custody (sender coordinator : String) (calls : List Call) :
    Custody (run host (State.init sender coordinator) calls) := by
  induction calls using List.reverseRecOn with
  | nil => exact custody_init sender coordinator
  | append_singleton calls c ih =>
    rw [run, List.foldl_append]
    exact custody_step ih c

/-! ### One nullifier, two spellings -/

/-- The order of the secp256k1 group. -/
def secp256k1Order : Nat := 0xFFFFFFFFFFFFFFFFFFFFFFFFFFFFFFFEBAAEDCE6AF48A03BBFD25E8CD0364141

/-- `k256::ecdsa::Signature::try_from` on a slice: 64 bytes whose halves `r` and `s`, read
big-endian, are both scalars in `1 .. n - 1`. -/
def k256SignatureParses (sig : Bytes) : Bool :=
  sig.length = 64 && (0 < beNat (sig.take 32) && beNat (sig.take 32) < secp256k1Order) &&
    (0 < beNat (sig.drop 32) && beNat (sig.drop 32) < secp256k1Order)

example : k256SignatureParses (List.replicate 64 0) = false := by decide

/-- A host whose hash is the identity, an injective function of the pre-image, and whose
signature parse is `k256`'s. The signature below, 65 bytes of `0x01`, has
`r = s = 0x0101…01`, which it accepts; 64 zero bytes it refuses. -/
def Host.sample : Host := ⟨id, fun _ => true, k256SignatureParses⟩

/-- 64 characters of `c`. -/
def hex64 (c : Char) : String := ⟨List.replicate 64 c⟩

/-- A deposit of 10 OSMO, then two requests of 1 OSMO each whose nullifiers are the same 32
bytes `0xaa…aa` in lower and in upper case, then the execution of both. -/
def doubleSpendRun : List Call :=
  [⟨⟨"depositor", [(uosmo, 10000000)]⟩, 1, .deposit 1 (hex64 '0') (hex64 '0')⟩,
    ⟨⟨"user", []⟩, 2, .requestWithdrawal uosmo 1000000 (hex64 'a') (hex64 '0') (hex64 '0')⟩,
    ⟨⟨"user", []⟩, 3, .requestWithdrawal uosmo 1000000 (hex64 'A') (hex64 '0') (hex64 '0')⟩,
    ⟨⟨"relayer", []⟩, 4, .executeWithdrawal
      (generateWithdrawalId Host.sample "user" uosmo 1000000 (hex64 'a') 0 2)
      (hexEncode (List.replicate 65 1))⟩,
    ⟨⟨"relayer", []⟩, 5, .executeWithdrawal
      (generateWithdrawalId Host.sample "user" uosmo 1000000 (hex64 'A') 1 3)
      (hexEncode (List.replicate 65 1))⟩]

set_option maxRecDepth 1000 in
/-- **A nullifier spent twice.** The nullifiers `aa…a` and `AA…A` decode to the same 32
bytes, yet both requests are executed and 2 OSMO leave the contract: `NULLIFIERS` is keyed
by the text, not by the value. -/
theorem same_nullifier_executed_twice :
    hexDecode (hex64 'a') = some (List.replicate 32 0xaa) ∧
    hexDecode (hex64 'A') = some (List.replicate 32 0xaa) ∧
    ((instantiate Host.sample "owner" "coordinator").toOption.map fun s₀ =>
      let s := run Host.sample s₀ doubleSpendRun
      ((s.withdrawalRequests
          (generateWithdrawalId Host.sample "user" uosmo 1000000 (hex64 'a') 0 2)).map
          WithdrawalRequestInfo.executed,
        (s.withdrawalRequests
          (generateWithdrawalId Host.sample "user" uosmo 1000000 (hex64 'A') 1 3)).map
          WithdrawalRequestInfo.executed,
        s.totalWithdrawals)) = some (some true, some true, 2000000) := by
  decide

/-! ### Each request executes once

A request is stored under the hash of its fields, the nonce and the time. Under an
injective hash, the nonce at the end of the pre-image makes every new id fresh
(`fresh_of_requestsAtNonces`): a stored request is never overwritten, and its `executed` flag
only goes from `false` to `true`. The `AlreadyExecuted` check then lets each request be
executed once (`requests_execute_once`). What fails is the step from requests to the
nullifier values they carry (`same_nullifier_executed_twice`). -/

/-- The storage after a sequence of transactions, one after another. -/
theorem run_append (s : State) (calls more : List Call) :
    run host s (calls ++ more) = run host (run host s calls) more :=
  List.foldl_append _ _ _ _

/-- A transaction either succeeds, with the new storage, or leaves the storage as it was. -/
theorem step_eq_or (s : State) (c : Call) :
    (∃ ts, execute host s c.time c.info c.msg = .ok (step host s c, ts)) ∨ step host s c = s := by
  unfold step
  split
  · exact .inl ⟨_, ‹_›⟩
  · exact .inr rfl

/-- An id pre-image ends with the nonce and the time, eight bytes each: under an injective
hash, equal ids have equal nonces. -/
theorem nonce_eq_of_generateWithdrawalId_eq (hinj : Function.Injective host.sha256)
    {recipient recipient' token token' nullifier nullifier' : String}
    {amount amount' n n' t t' : Nat} (hn : n < 2 ^ 64) (hn' : n' < 2 ^ 64)
    (h : generateWithdrawalId host recipient token amount nullifier n t =
      generateWithdrawalId host recipient' token' amount' nullifier' n' t') : n = n' := by
  have hpre := hinj (hexEncode_injective h)
  have h8 : (2 : Nat) ^ 64 = 256 ^ 8 := by decide
  obtain ⟨hpre', -⟩ := List.append_inj' hpre (by simp)
  exact toLeBytes_inj (h8 ▸ hn) (h8 ▸ hn') (List.append_inj' hpre' (by simp)).2

/-- What a successful transaction does to the withdrawal requests and the nonce: nothing;
or it stores a new request under the id generated at the current nonce, which advances; or
it marks a stored, unexecuted request executed. -/
theorem execute_withdrawalRequests {s s' : State} {time : Nat} {info : MessageInfo}
    {msg : ExecuteMsg} {ts : List Transfer} (h : execute host s time info msg = .ok (s', ts)) :
    (s'.withdrawalRequests = s.withdrawalRequests ∧ s'.withdrawalCount = s.withdrawalCount) ∨
    (∃ token amount nullifier, s.withdrawalCount + 1 < 2 ^ 64 ∧
      s'.withdrawalCount = s.withdrawalCount + 1 ∧
      s'.withdrawalRequests = s.withdrawalRequests.insert
        (generateWithdrawalId host info.sender token amount nullifier s.withdrawalCount time)
        ⟨generateWithdrawalId host info.sender token amount nullifier s.withdrawalCount time,
          info.sender, token, amount, nullifier, time, false⟩) ∨
    (∃ id r, s.withdrawalRequests id = some r ∧ r.executed = false ∧
      s'.withdrawalCount = s.withdrawalCount ∧
      s'.withdrawalRequests = s.withdrawalRequests.insert id { r with executed := true }) := by
  cases msg
  case deposit =>
    obtain ⟨-, -, -, -, hr, hc⟩ := executeDeposit_ok h
    exact .inl ⟨hr, hc⟩
  case requestWithdrawal token amount nullifier _ merkleRoot =>
    obtain ⟨-, hlt, hc, hr⟩ := executeRequestWithdrawal_ok h
    exact .inr (.inl ⟨token, amount, nullifier, hlt, hc, hr⟩)
  case executeWithdrawal id sig =>
    obtain ⟨r, hr, -, -, -, -, hex, hreq, hc⟩ := executeExecuteWithdrawal_ok h
    exact .inr (.inr ⟨id, r, hr, hex, hc, hreq⟩)
  all_goals
    left
    simp only [execute, executeAddLiquidity, executeRemoveLiquidity, Except.bind_eq_ok,
      Except.pure_eq_ok, Prod.mk.injEq] at h
    repeat first
      | obtain ⟨rfl, -⟩ := h
      | obtain ⟨_, _, h⟩ := h
    exact ⟨rfl, rfl⟩

/-- **Requests at past nonces.** The nonce is a `u64`, and every stored request sits under
the id generated from its own fields at a nonce below it. -/
def RequestsAtNonces (host : Host) (s : State) : Prop :=
  s.withdrawalCount < 2 ^ 64 ∧ ∀ id r, s.withdrawalRequests id = some r →
    ∃ n < s.withdrawalCount,
      id = generateWithdrawalId host r.recipient r.token r.amount r.nullifier n r.timestamp

theorem requestsAtNonces_init (sender coordinator : String) :
    RequestsAtNonces host (State.init sender coordinator) :=
  ⟨Nat.two_pow_pos 64, fun _ _ h => nomatch h⟩

/-- Under an injective hash, the id a request generates at the current nonce is free. -/
theorem fresh_of_requestsAtNonces (hinj : Function.Injective host.sha256) {s : State}
    (hs : RequestsAtNonces host s) (sender token : String) (amount : Nat) (nullifier : String)
    (time : Nat) :
    s.withdrawalRequests
      (generateWithdrawalId host sender token amount nullifier s.withdrawalCount time) = none := by
  cases hr : s.withdrawalRequests
    (generateWithdrawalId host sender token amount nullifier s.withdrawalCount time) with
  | none => rfl
  | some r =>
    obtain ⟨n, hn, hid⟩ := hs.2 _ r hr
    have hlt := hs.1
    have := nonce_eq_of_generateWithdrawalId_eq hinj hlt (by omega) hid
    omega

theorem execute_requestsAtNonces {s s' : State} (hs : RequestsAtNonces host s) {time : Nat}
    {info : MessageInfo} {msg : ExecuteMsg} {ts : List Transfer}
    (h : execute host s time info msg = .ok (s', ts)) : RequestsAtNonces host s' := by
  obtain ⟨hlt, hids⟩ := hs
  rcases execute_withdrawalRequests h with ⟨hr, hc⟩ | ⟨token, amount, nullifier, hlt', hc, hr⟩ |
    ⟨id, r, hr₀, -, hc, hr⟩
  · unfold RequestsAtNonces
    rw [hr, hc]
    exact ⟨hlt, hids⟩
  · refine ⟨hc ▸ hlt', fun id' r' h' => ?_⟩
    rw [hr, KVMap.insert_apply] at h'
    split at h'
    · cases h'
      exact ⟨s.withdrawalCount, by omega, ‹_›⟩
    · obtain ⟨n, hn, hid⟩ := hids id' r' h'
      exact ⟨n, by omega, hid⟩
  · refine ⟨hc ▸ hlt, fun id' r' h' => ?_⟩
    rw [hc]
    rw [hr, KVMap.insert_apply] at h'
    split at h'
    · cases h'
      rename_i he
      exact he ▸ hids id r hr₀
    · exact hids id' r' h'

/-- Under an injective hash, a successful transaction leaves a stored request as it was, or
marks it executed. -/
theorem execute_request_kept (hinj : Function.Injective host.sha256) {s s' : State}
    (hs : RequestsAtNonces host s) {time : Nat} {info : MessageInfo} {msg : ExecuteMsg}
    {ts : List Transfer} (h : execute host s time info msg = .ok (s', ts)) {id : String}
    {r : WithdrawalRequestInfo} (hr : s.withdrawalRequests id = some r) :
    s'.withdrawalRequests id = some r ∨
      (r.executed = false ∧ s'.withdrawalRequests id = some { r with executed := true }) := by
  rcases execute_withdrawalRequests h with ⟨h', -⟩ | ⟨token, amount, nullifier, -, -, h'⟩ |
    ⟨id', r', hr', hex, -, h'⟩
  · exact .inl (h' ▸ hr)
  · have hne : id ≠
        generateWithdrawalId host info.sender token amount nullifier s.withdrawalCount time :=
      fun he => by rw [he, fresh_of_requestsAtNonces hinj hs] at hr; cases hr
    exact .inl (by rw [h', KVMap.insert_apply, if_neg hne, hr])
  · rw [h', KVMap.insert_apply]
    split
    · rename_i he
      subst he
      rw [hr'] at hr
      cases hr
      exact .inr ⟨hex, rfl⟩
    · exact .inl hr

theorem step_requestsAtNonces {s : State} (hs : RequestsAtNonces host s) (c : Call) :
    RequestsAtNonces host (step host s c) := by
  rcases step_eq_or s c with ⟨ts, h⟩ | h
  · exact execute_requestsAtNonces hs h
  · rw [h]
    exact hs

theorem step_request_kept (hinj : Function.Injective host.sha256) {s : State}
    (hs : RequestsAtNonces host s) (c : Call) {id : String} {r : WithdrawalRequestInfo}
    (hr : s.withdrawalRequests id = some r) :
    (step host s c).withdrawalRequests id = some r ∨
      (r.executed = false ∧ (step host s c).withdrawalRequests id = some { r with executed := true }) := by
  rcases step_eq_or s c with ⟨ts, h⟩ | h
  · exact execute_request_kept hinj hs h hr
  · rw [h]
    exact .inl hr

theorem run_requestsAtNonces {s : State} (hs : RequestsAtNonces host s) (calls : List Call) :
    RequestsAtNonces host (run host s calls) := by
  induction calls generalizing s with
  | nil => exact hs
  | cons c calls ih => exact ih (step_requestsAtNonces hs c)

/-- Under an injective hash, over any later transactions a stored request stays as it was,
or is marked executed once. -/
theorem run_request_kept (hinj : Function.Injective host.sha256) {s : State}
    (hs : RequestsAtNonces host s) (more : List Call) {id : String} {r : WithdrawalRequestInfo}
    (hr : s.withdrawalRequests id = some r) :
    (run host s more).withdrawalRequests id = some r ∨
      (r.executed = false ∧ (run host s more).withdrawalRequests id = some { r with executed := true }) := by
  induction more generalizing s r with
  | nil => exact .inl hr
  | cons c more ih =>
    have hs' := step_requestsAtNonces hs c
    rcases step_request_kept hinj hs c hr with h₁ | ⟨hex, h₁⟩
    · exact ih hs' h₁
    · rcases ih hs' h₁ with h₂ | ⟨hex₂, -⟩
      · exact .inr ⟨hex, h₂⟩
      · cases hex₂

/-! ### What leaves the contract -/

/-- The amount a transfer moves. -/
def Transfer.amount : Transfer → Nat
  | .bank _ _ amount => amount
  | .cw20 _ _ amount => amount

/-- **What a transaction can do.** A transaction that returns is one of the owner's entry
points, which keep the owner and the withdrawal total, set the fee to at most 100 basis points
if they change it, and send nothing but, in a paused contract, the emergency withdrawal, which
changes no storage; or it is made while the contract is not paused, keeps the configuration
and the liquidity providers, and sends exactly the amounts it adds to the withdrawal total
(`remove_liquidity`, which checks against an available liquidity of zero, never returns). -/
theorem execute_cases {s s' : State} {time : Nat} {info : MessageInfo} {msg : ExecuteMsg}
    {ts : List Transfer} (h : execute host s time info msg = .ok (s', ts)) :
    (info.sender = s.config.owner ∧ s'.config.owner = s.config.owner ∧
      s'.totalWithdrawals = s.totalWithdrawals ∧
      (s'.config.bridgeFee = s.config.bridgeFee ∨ s'.config.bridgeFee ≤ 100) ∧
      (ts = [] ∨ s.config.paused = true ∧ s' = s ∧
        ∃ token dest amount, msg = .emergencyWithdraw token dest amount ∧
          ts = [.bank dest token amount])) ∨
    (s.config.paused = false ∧ s'.config = s.config ∧ s'.liquidityProviders = s.liquidityProviders ∧
      (ts.map Transfer.amount).sum + s.totalWithdrawals = s'.totalWithdrawals) := by
  cases msg
  case executeWithdrawal id sig =>
    simp only [execute, executeExecuteWithdrawal, Except.bind_eq_ok, guard_eq_ok,
      uint128Add_eq_ok, checkedAdd_eq_some, loadWithdrawalRequest_eq_ok, Except.pure_eq_ok,
      Prod.mk.injEq] at h
    obtain ⟨-, hp, r, -, -, -, -, -, -, -, -, -, t, ⟨-, rfl⟩, rfl, rfl⟩ := h
    refine .inr ⟨hp, rfl, rfl, ?_⟩
    split <;> simp only [List.map, Transfer.amount, List.sum_cons, List.sum_nil] <;> omega
  case removeLiquidity token amount =>
    simp only [execute, executeRemoveLiquidity, queryAvailableLiquidity, Except.bind_eq_ok,
      guard_eq_ok, decide_eq_false_iff_not] at h
    obtain ⟨-, -, -, -, -, h0, -, hlt, -⟩ := h
    omega
  case emergencyWithdraw token dest amount =>
    simp only [execute, Except.bind_eq_ok, guard_eq_ok, decide_eq_false_iff_not, not_not,
      Bool.not_eq_false', Except.pure_eq_ok, Prod.mk.injEq] at h
    obtain ⟨-, ho, -, hp, -, -, rfl, rfl⟩ := h
    exact .inl ⟨ho, rfl, rfl, .inl rfl, .inr ⟨hp, rfl, token, dest, amount, rfl, rfl⟩⟩
  case setBridgeFee f =>
    simp only [execute, Except.bind_eq_ok, guard_eq_ok, decide_eq_false_iff_not, not_not,
      not_lt, Except.pure_eq_ok, Prod.mk.injEq] at h
    obtain ⟨-, ho, -, hf, rfl, rfl⟩ := h
    exact .inl ⟨ho, rfl, rfl, .inr hf, .inl rfl⟩
  case setCoordinator | addLiquidityProvider | removeLiquidityProvider | setPaused =>
    all_goals
      simp only [execute, Except.bind_eq_ok, guard_eq_ok, decide_eq_false_iff_not, not_not,
        addrValidate_eq_ok, Except.pure_eq_ok, Prod.mk.injEq] at h
      obtain ⟨-, ho, h⟩ := h
      repeat first
        | obtain ⟨rfl, rfl⟩ := h
        | obtain ⟨_, _, h⟩ := h
      exact .inl ⟨ho, rfl, rfl, .inl rfl, .inl rfl⟩
  all_goals
    simp only [execute, executeDeposit, executeRequestWithdrawal, executeAddLiquidity,
      Except.bind_eq_ok, guard_eq_ok, uint128Add_eq_ok, u64Add_eq_ok, checkedAdd_eq_some,
      Except.pure_eq_ok, Prod.mk.injEq] at h
    obtain ⟨-, hp, h⟩ := h
    repeat first
      | obtain ⟨rfl, rfl⟩ := h
      | obtain ⟨_, _, h⟩ := h
    exact .inr ⟨hp, rfl, rfl, Nat.zero_add _⟩

variable (host) in
/-- The transfers the successful transactions of a run send, in order. -/
def transfers : State → List Call → List Transfer
  | _, [] => []
  | s, c :: calls =>
    (match execute host s c.time c.info c.msg with
      | .ok r => r.2
      | .error _ => []) ++ transfers (step host s c) calls

/-- Without emergency withdrawals, what a run sends, added to the withdrawal total it started
from, is the withdrawal total it ends with. -/
theorem transfers_sum (s : State) (calls : List Call)
    (hno : ∀ c ∈ calls, ∀ token dest amount, c.msg ≠ .emergencyWithdraw token dest amount) :
    ((transfers host s calls).map Transfer.amount).sum + s.totalWithdrawals =
      (run host s calls).totalWithdrawals := by
  induction calls generalizing s with
  | nil => exact Nat.zero_add _
  | cons c calls ih =>
    rw [transfers, run, List.foldl_cons, ← run, ← ih (step host s c)
      fun c' hc' => hno c' (List.mem_cons_of_mem c hc'), List.map_append, List.sum_append]
    unfold step
    rcases hc : execute host s c.time c.info c.msg with e | ⟨s', ts⟩
    · exact congrArg (· + s.totalWithdrawals) (Nat.zero_add _)
    · dsimp only
      rcases execute_cases hc with ⟨-, -, ht, -, rfl | ⟨-, -, t, d, a, hm, -⟩⟩ | ⟨-, -, -, ht⟩
      · simp [ht]
      · exact absurd hm (hno c (List.mem_cons_self c calls) t d a)
      · omega

/-- Whether a transaction executes the withdrawal `id` and succeeds. -/
def executesOk (host : Host) (s : State) (c : Call) (id : String) : Bool :=
  (match c.msg with
    | .executeWithdrawal id' _ => id' == id
    | _ => false) && (execute host s c.time c.info c.msg).isOk

/-- How many transactions of a run execute the withdrawal `id` and succeed. -/
def successfulExecutions (host : Host) : State → List Call → String → Nat
  | _, [], _ => 0
  | s, c :: calls, id =>
    (if executesOk host s c id then 1 else 0) + successfulExecutions host (step host s c) calls id

/-- A transaction executes `id` and succeeds only as an `execute_withdrawal` of `id` that
returns `Ok`, whose storage the transaction keeps. -/
theorem exists_of_executesOk {s : State} {c : Call} {id : String}
    (h : executesOk host s c id = true) :
    ∃ sig s' ts, executeExecuteWithdrawal host s id sig = .ok (s', ts) ∧ step host s c = s' := by
  obtain ⟨info, time, msg⟩ := c
  cases msg
  case executeWithdrawal id' sig =>
    simp only [executesOk, Bool.and_eq_true, beq_iff_eq] at h
    obtain ⟨rfl, hok⟩ := h
    obtain ⟨⟨s', ts⟩, hr⟩ := Except.exists_eq_ok_of_isOk hok
    exact ⟨sig, s', ts, hr, by simp [step, hr]⟩
  all_goals simp [executesOk] at h

/-- A transaction that executes `id` leaves its request marked executed. -/
theorem executed_of_executesOk {s : State} {c : Call} {id : String}
    (h : executesOk host s c id = true) :
    ∃ r : WithdrawalRequestInfo,
      (step host s c).withdrawalRequests id = some { r with executed := true } := by
  obtain ⟨sig, s', ts, hok, rfl⟩ := exists_of_executesOk h
  obtain ⟨r, -, -, -, -, -, -, hreq, -⟩ := executeExecuteWithdrawal_ok hok
  exact ⟨r, by simp [hreq]⟩

/-- An executed request cannot be executed again. -/
theorem executesOk_of_executed {s : State} {id : String} {r : WithdrawalRequestInfo}
    (hr : s.withdrawalRequests id = some r) (hex : r.executed = true) (c : Call) :
    executesOk host s c id = false := by
  cases h : executesOk host s c id
  · rfl
  · obtain ⟨sig, s', ts, hok, -⟩ := exists_of_executesOk h
    obtain ⟨r', hr', -, -, -, -, hex', -⟩ := executeExecuteWithdrawal_ok hok
    rw [hr] at hr'
    cases hr'
    rw [hex] at hex'
    cases hex'

theorem successfulExecutions_of_executed (hinj : Function.Injective host.sha256) (id : String)
    (calls : List Call) {s : State} (hs : RequestsAtNonces host s) {r : WithdrawalRequestInfo}
    (hr : s.withdrawalRequests id = some r) (hex : r.executed = true) :
    successfulExecutions host s calls id = 0 := by
  induction calls generalizing s with
  | nil => rfl
  | cons c calls ih =>
    have hr' : (step host s c).withdrawalRequests id = some r := by
      rcases step_request_kept hinj hs c hr with h | ⟨hf, -⟩
      · exact h
      · simp_all
    simp [successfulExecutions, executesOk_of_executed hr hex, ih (step_requestsAtNonces hs c) hr']

theorem successfulExecutions_le_one (hinj : Function.Injective host.sha256) (id : String)
    (calls : List Call) {s : State} (hs : RequestsAtNonces host s) :
    successfulExecutions host s calls id ≤ 1 := by
  induction calls generalizing s with
  | nil => exact Nat.zero_le _
  | cons c calls ih =>
    unfold successfulExecutions
    by_cases he : executesOk host s c id
    · obtain ⟨r, hr⟩ := executed_of_executesOk he
      rw [if_pos he, successfulExecutions_of_executed hinj id calls (step_requestsAtNonces hs c)
        hr rfl]
    · rw [if_neg he]
      simpa using ih (step_requestsAtNonces hs c)

/-- **Each request executes once.** With an injective hash, in every run from
instantiation: a stored request is never overwritten, and its `executed` flag only goes
from `false` to `true`; and `execute_withdrawal` succeeds at most once for each withdrawal
id. -/
theorem requests_execute_once (hinj : Function.Injective host.sha256) (sender coordinator : String)
    (calls : List Call) (id : String) :
    successfulExecutions host (State.init sender coordinator) calls id ≤ 1 ∧
    ∀ r, (run host (State.init sender coordinator) calls).withdrawalRequests id = some r →
      ∀ more : List Call,
        (run host (State.init sender coordinator) (calls ++ more)).withdrawalRequests id = some r ∨
        (r.executed = false ∧ (run host (State.init sender coordinator) (calls ++ more)).withdrawalRequests
          id = some { r with executed := true }) := by
  refine ⟨successfulExecutions_le_one hinj id calls (requestsAtNonces_init sender coordinator),
    fun r hr more => ?_⟩
  rw [run_append]
  exact run_request_kept hinj (run_requestsAtNonces (requestsAtNonces_init sender coordinator) calls)
    more hr

/-- The sample host's hash is injective; in the double-spend run, the request of the first
nullifier spelling executes once. -/
theorem requests_execute_once_sample :
    Function.Injective Host.sample.sha256 ∧
    successfulExecutions Host.sample (State.init "owner" "coordinator") doubleSpendRun
        (generateWithdrawalId Host.sample "user" uosmo 1000000 (hex64 'a') 0 2) ≤ 1 ∧
    ∀ r, (run Host.sample (State.init "owner" "coordinator") doubleSpendRun).withdrawalRequests
        (generateWithdrawalId Host.sample "user" uosmo 1000000 (hex64 'a') 0 2) = some r →
      ∀ more : List Call,
        (run Host.sample (State.init "owner" "coordinator") (doubleSpendRun ++ more)).withdrawalRequests
          (generateWithdrawalId Host.sample "user" uosmo 1000000 (hex64 'a') 0 2) = some r ∨
        (r.executed = false ∧
          (run Host.sample (State.init "owner" "coordinator") (doubleSpendRun ++ more)).withdrawalRequests
            (generateWithdrawalId Host.sample "user" uosmo 1000000 (hex64 'a') 0 2) =
              some { r with executed := true }) :=
  ⟨Function.injective_id, requests_execute_once Function.injective_id "owner" "coordinator"
    doubleSpendRun _⟩

end Osmosis

end ZeroBridge
