import Mathlib.Algebra.BigOperators.Group.List
import ZeroBridge.Gateway.Storage

/-!
# The Solana gateway

The Anchor program `solana_adapter` (`solana_gateway/programs/solana_gateway/src/lib.rs`):
the gateway account, the deposit, withdrawal-request and nullifier accounts, and every
instruction. Program accounts live at addresses derived from their seeds; derivation is
modelled as injective in the seed list, so each kind of account is a map keyed by its
seeds. An `init` account fails when an account is already at its address, and an account
that must exist fails when none is. A failing instruction (an `ErrorCode`, an Anchor
account check, or a failed token transfer) reverts (`step`).

The host's Keccak-256 and `secp256k1_recover` are parameters, `Host`; whether a token
transfer succeeds is part of the instruction.

Two facts are proved. **Custody** (`run_custody`): in every reachable state,
`total_locked + total_withdrawn` is the sum of the amounts of all deposit accounts. And
`execute_withdrawal` never succeeds (`executeWithdrawal_fails`): requests are created at
seeds `["withdrawal_request", withdrawal_count]` (8 bytes), but looked up at seeds
`["withdrawal_request", withdrawal_id]` (32 bytes), where there is never an account; under
any injective derivation of addresses from seeds the two accounts of one request differ
(`request_not_addressable`).

**One request per nullifier** (`one_request_per_nullifier`): `request_withdrawal` inits the
nullifier account of its nullifier, which no instruction removes, so along every run no two
request accounts carry one nullifier, and a request with the nullifier of an existing one
fails at its `init`.
-/

namespace ZeroBridge

namespace Solana

/-- A 32-byte value (`[u8; 32]`, `Pubkey`). -/
abbrev Bytes32 := {b : Bytes // b.length = 32}

/-- `GatewayState`. -/
structure GatewayState where
  authority : Bytes32
  coordinator : Bytes32
  totalLocked : Nat
  totalWithdrawn : Nat
  depositCount : Nat
  withdrawalCount : Nat
  paused : Bool

/-- `DepositInfo`. -/
structure DepositInfo where
  depositId : Bytes32
  sender : Bytes32
  mint : Bytes32
  amount : Nat
  targetChainId : Nat
  recipient : Bytes32
  zcashAddress : Bytes32
  timestamp : Int
  processed : Bool

/-- `WithdrawalRequestInfo`. -/
structure WithdrawalRequestInfo where
  withdrawalId : Bytes32
  recipient : Bytes32
  mint : Bytes32
  amount : Nat
  nullifier : Bytes32
  timestamp : Int
  executed : Bool

/-- `NullifierAccount`. -/
structure NullifierAccount where
  nullifier : Bytes32
  used : Bool
  timestamp : Int

/-- The program's accounts: the gateway, and the other accounts by their seeds. -/
structure Program where
  gateway : GatewayState
  deposits : KVMap (List Bytes) DepositInfo
  withdrawalRequests : KVMap (List Bytes) WithdrawalRequestInfo
  nullifierAccounts : KVMap (List Bytes) NullifierAccount

/-- `ErrorCode`. -/
inductive ErrorCode
  | gatewayPaused
  | invalidAmount
  | amountTooSmall
  | nullifierUsed
  | invalidCoordinator
  | invalidSignature
  | invalidWithdrawalId
  | alreadyExecuted
  | overflow
  | underflow
  deriving DecidableEq, Repr

/-- Why an instruction fails. -/
inductive Failure
  /-- The program's own error. -/
  | error (e : ErrorCode)
  /-- An Anchor account constraint: `init` on a used address, a missing account, or an
  authority that does not match. -/
  | account (msg : String)
  /-- The token program's `transfer_checked` failed. -/
  | transfer
  deriving DecidableEq, Repr

/-- What the program asks of the runtime. -/
structure Host where
  /-- `Keccak256::digest`. -/
  keccak256 : Bytes → Bytes32
  /-- `secp256k1_recover(hash, recovery_id, signature)`. -/
  secp256k1Recover : Bytes → UInt8 → Bytes → Option Bytes

/-- The instructions, with the signer and the outcome of their token transfer. -/
inductive Instruction
  | deposit (user mint : Bytes32) (amount targetChainId : Nat) (recipient zcashAddress : Bytes32)
      (transferOk : Bool)
  | requestWithdrawal (recipient mint : Bytes32) (amount : Nat) (nullifier : Bytes32)
      (zcashProof : Bytes) (merkleRoot : Bytes32)
  | executeWithdrawal (withdrawalId : Bytes32) (coordinatorSignature : Bytes) (transferOk : Bool)
  | setCoordinator (authority newCoordinator : Bytes32)
  | setPaused (authority : Bytes32) (paused : Bool)
  | addLiquidity (amount : Nat) (transferOk : Bool)

/-! ### Seeds, ids and checks -/

/-- The seeds of the deposit account created at deposit count `n`. -/
def depositSeeds (n : Nat) : List Bytes := [asBytes "deposit", toLeBytes 8 n]

/-- The seeds of the withdrawal-request account created at withdrawal count `n`. -/
def requestSeedsOfCount (n : Nat) : List Bytes := [asBytes "withdrawal_request", toLeBytes 8 n]

/-- The seeds `execute_withdrawal` derives its withdrawal-request account from. -/
def requestSeedsOfId (withdrawalId : Bytes32) : List Bytes :=
  [asBytes "withdrawal_request", withdrawalId.1]

/-- The seeds of a nullifier account. -/
def nullifierSeeds (nullifier : Bytes32) : List Bytes := [asBytes "nullifier_check", nullifier.1]

/-- `require!(c, e)`. -/
def require (c : Bool) (e : ErrorCode) : Except Failure Unit :=
  if c then .ok () else .error (.error e)

/-- `checked_add(..).ok_or(ErrorCode::Overflow)` on `u64`. -/
def addU64 (a b : Nat) : Except Failure Nat :=
  match checkedAdd 64 a b with
  | some c => .ok c
  | none => .error (.error .overflow)

/-- `checked_sub(..).ok_or(ErrorCode::Underflow)`. -/
def subU64 (a b : Nat) : Except Failure Nat :=
  match checkedSub a b with
  | some c => .ok c
  | none => .error (.error .underflow)

/-- The outcome of `transfer_checked`. -/
def transferChecked (ok : Bool) : Except Failure Unit :=
  if ok then .ok () else .error .transfer

/-- `generate_deposit_id`: Keccak-256 over the sender, the mint, the amount, the target
chain, the recipient and the nonce (integers `u64` LE). -/
def generateDepositId (host : Host) (sender mint : Bytes32) (amount targetChainId : Nat)
    (recipient : Bytes32) (nonce : Nat) : Bytes32 :=
  host.keccak256 (sender.1 ++ mint.1 ++ toLeBytes 8 amount ++ toLeBytes 8 targetChainId ++
    recipient.1 ++ toLeBytes 8 nonce)

/-- `generate_withdrawal_id`: Keccak-256 over the recipient, the mint, the amount, the
nullifier and the nonce (integers `u64` LE). -/
def generateWithdrawalId (host : Host) (recipient mint : Bytes32) (amount : Nat)
    (nullifier : Bytes32) (nonce : Nat) : Bytes32 :=
  host.keccak256 (recipient.1 ++ mint.1 ++ toLeBytes 8 amount ++ nullifier.1 ++ toLeBytes 8 nonce)

/-- The bytes `verify_coordinator_signature` hashes with Keccak-256: the withdrawal id, the
recipient, the amount (`u64` LE) and the nullifier. -/
def verifyMessage (withdrawalId recipient : Bytes32) (amount : Nat) (nullifier : Bytes32) : Bytes :=
  withdrawalId.1 ++ recipient.1 ++ toLeBytes 8 amount ++ nullifier.1

/-- `verify_coordinator_signature`: a public key must be recoverable from the signature
over the message hash; it is not compared with the coordinator. -/
def verifyCoordinatorSignature (host : Host) (withdrawalId recipient : Bytes32) (amount : Nat)
    (nullifier : Bytes32) (signature : Bytes) : Except Failure Unit :=
  let messageHash := host.keccak256 (verifyMessage withdrawalId recipient amount nullifier)
  match host.secp256k1Recover messageHash.1 (signature.getD 64 0) (signature.take 64) with
  | none => .error (.error .invalidSignature)
  | some pubkey => require (pubkey.length = 64) .invalidSignature

/-! ### Instructions -/

variable (host : Host)

/-- The accounts right after the `initialize` instruction. -/
def genesis (authority coordinator : Bytes32) : Program :=
  ⟨⟨authority, coordinator, 0, 0, 0, 0, false⟩, fun _ => none, fun _ => none, fun _ => none⟩

/-- `init` of an account at `seeds`: fails when one is already there. -/
def initAt {α : Type} (m : KVMap (List Bytes) α) (seeds : List Bytes) : Except Failure Unit :=
  match m seeds with
  | some _ => .error (.account "already in use")
  | none => .ok ()

/-- An account that must exist at `seeds`. -/
def loadAt {α : Type} (m : KVMap (List Bytes) α) (seeds : List Bytes) : Except Failure α :=
  match m seeds with
  | some a => .ok a
  | none => .error (.account "AccountNotInitialized")

/-- `deposit`. -/
def deposit (p : Program) (time : Int) (user mint : Bytes32) (amount targetChainId : Nat)
    (recipient zcashAddress : Bytes32) (transferOk : Bool) : Except Failure Program := do
  let seeds := depositSeeds p.gateway.depositCount
  initAt p.deposits seeds
  require (!p.gateway.paused) .gatewayPaused
  require (amount > 0) .invalidAmount
  require (amount ≥ 1000000) .amountTooSmall
  transferChecked transferOk
  let depositId := generateDepositId host user mint amount targetChainId recipient
    p.gateway.depositCount
  let info : DepositInfo :=
    ⟨depositId, user, mint, amount, targetChainId, recipient, zcashAddress, time, false⟩
  let totalLocked ← addU64 p.gateway.totalLocked amount
  let depositCount ← addU64 p.gateway.depositCount 1
  return { p with
    gateway := { p.gateway with totalLocked := totalLocked, depositCount := depositCount }
    deposits := p.deposits.insert seeds info }

/-- `request_withdrawal`. -/
def requestWithdrawal (p : Program) (time : Int) (recipient mint : Bytes32) (amount : Nat)
    (nullifier : Bytes32) : Except Failure Program := do
  let seeds := requestSeedsOfCount p.gateway.withdrawalCount
  initAt p.withdrawalRequests seeds
  initAt p.nullifierAccounts (nullifierSeeds nullifier)
  require (!p.gateway.paused) .gatewayPaused
  require (amount > 0) .invalidAmount
  let withdrawalId := generateWithdrawalId host recipient mint amount nullifier
    p.gateway.withdrawalCount
  let request : WithdrawalRequestInfo :=
    ⟨withdrawalId, recipient, mint, amount, nullifier, time, false⟩
  let withdrawalCount ← addU64 p.gateway.withdrawalCount 1
  return { p with
    gateway := { p.gateway with withdrawalCount := withdrawalCount }
    withdrawalRequests := p.withdrawalRequests.insert seeds request
    nullifierAccounts := p.nullifierAccounts.insert (nullifierSeeds nullifier)
      ⟨⟨List.replicate 32 0, List.length_replicate _ _⟩, false, 0⟩ }

/-- `execute_withdrawal`. -/
def executeWithdrawal (p : Program) (time : Int) (withdrawalId : Bytes32)
    (coordinatorSignature : Bytes) (transferOk : Bool) : Except Failure Program := do
  let request ← loadAt p.withdrawalRequests (requestSeedsOfId withdrawalId)
  let nullifierAccount ← loadAt p.nullifierAccounts (nullifierSeeds request.nullifier)
  require (!p.gateway.paused) .gatewayPaused
  require (request.withdrawalId = withdrawalId) .invalidWithdrawalId
  require (!request.executed) .alreadyExecuted
  require (!nullifierAccount.used) .nullifierUsed
  verifyCoordinatorSignature host withdrawalId request.recipient request.amount request.nullifier
    coordinatorSignature
  let totalLocked ← subU64 p.gateway.totalLocked request.amount
  let totalWithdrawn ← addU64 p.gateway.totalWithdrawn request.amount
  transferChecked transferOk
  return { p with
    gateway := { p.gateway with totalLocked := totalLocked, totalWithdrawn := totalWithdrawn }
    withdrawalRequests :=
      p.withdrawalRequests.insert (requestSeedsOfId withdrawalId) { request with executed := true }
    nullifierAccounts := p.nullifierAccounts.insert (nullifierSeeds request.nullifier)
      ⟨request.nullifier, true, time⟩ }

/-- The constraint `gateway.authority == authority.key()`. -/
def hasAuthority (p : Program) (authority : Bytes32) : Except Failure Unit :=
  if p.gateway.authority = authority then .ok () else .error (.account "ConstraintRaw")

/-- One instruction, at the given clock time. -/
def execute (p : Program) (time : Int) : Instruction → Except Failure Program
  | .deposit user mint amount targetChainId recipient zcashAddress transferOk =>
    deposit host p time user mint amount targetChainId recipient zcashAddress transferOk
  | .requestWithdrawal recipient mint amount nullifier _zcashProof _merkleRoot =>
    requestWithdrawal host p time recipient mint amount nullifier
  | .executeWithdrawal withdrawalId coordinatorSignature transferOk =>
    executeWithdrawal host p time withdrawalId coordinatorSignature transferOk
  | .setCoordinator authority newCoordinator => do
    hasAuthority p authority
    return { p with gateway := { p.gateway with coordinator := newCoordinator } }
  | .setPaused authority paused => do
    hasAuthority p authority
    return { p with gateway := { p.gateway with paused := paused } }
  | .addLiquidity amount transferOk => do
    require (!p.gateway.paused) .gatewayPaused
    require (amount > 0) .invalidAmount
    transferChecked transferOk
    return p

/-- One transaction: a failing one leaves every account as it was. -/
def step (p : Program) (c : Int × Instruction) : Program :=
  match execute host p c.1 c.2 with
  | .ok p' => p'
  | .error _ => p

/-- The accounts after a sequence of transactions. -/
def run (p : Program) (calls : List (Int × Instruction)) : Program := calls.foldl (step host) p

/-! ### What a successful instruction does -/

@[simp]
theorem require_eq_ok {c : Bool} {e : ErrorCode} {u : Unit} : require c e = .ok u ↔ c = true := by
  cases c <;> simp [require]

@[simp]
theorem addU64_eq_ok {a b c : Nat} : addU64 a b = .ok c ↔ checkedAdd 64 a b = some c := by
  unfold addU64
  cases checkedAdd 64 a b <;> simp

@[simp]
theorem initAt_eq_ok {α : Type} {m : KVMap (List Bytes) α} {seeds : List Bytes} {u : Unit} :
    initAt m seeds = .ok u ↔ m seeds = none := by
  unfold initAt
  cases m seeds <;> simp

@[simp]
theorem loadAt_eq_ok {α : Type} {m : KVMap (List Bytes) α} {seeds : List Bytes} {a : α} :
    loadAt m seeds = .ok a ↔ m seeds = some a := by
  unfold loadAt
  cases m seeds <;> simp

/-- An execution looks its request up at seeds no request is ever created at. -/
theorem requestSeedsOfId_ne (id : Bytes32) (n : Nat) : requestSeedsOfId id ≠ requestSeedsOfCount n := by
  intro h
  have := congrArg (fun l => (l.getD 1 []).length) h
  simp [requestSeedsOfId, requestSeedsOfCount, id.2] at this

/-- Deposit accounts of different counts below `2 ^ 64` have different seeds. -/
theorem depositSeeds_inj {m n : Nat} (hm : m < 2 ^ 64) (hn : n < 2 ^ 64)
    (h : depositSeeds m = depositSeeds n) : m = n := by
  have h8 : (2 : Nat) ^ 64 = 256 ^ 8 := by decide
  simp only [depositSeeds, List.cons.injEq, true_and, and_true] at h
  exact toLeBytes_inj (h8 ▸ hm) (h8 ▸ hn) h

/-- **Request placement.** Every withdrawal request sits at the seeds of a count. -/
def RequestsAtCounts (p : Program) : Prop :=
  ∀ seeds r, p.withdrawalRequests seeds = some r → ∃ n, seeds = requestSeedsOfCount n

variable {host}

/-- **No execution.** Where requests sit at the seeds of counts, `execute_withdrawal` fails
to load its request account. -/
theorem executeWithdrawal_fails {p : Program} (hp : RequestsAtCounts p) (time : Int)
    (withdrawalId : Bytes32) (sig : Bytes) (transferOk : Bool) :
    executeWithdrawal host p time withdrawalId sig transferOk =
      .error (.account "AccountNotInitialized") := by
  have hnone : p.withdrawalRequests (requestSeedsOfId withdrawalId) = none := by
    cases hr : p.withdrawalRequests (requestSeedsOfId withdrawalId) with
    | none => rfl
    | some r =>
      obtain ⟨n, hn⟩ := hp _ r hr
      exact absurd hn (requestSeedsOfId_ne withdrawalId n)
  simp [executeWithdrawal, loadAt, hnone, bind, Except.bind]

/-- A deposit creates the account of the current count with its amount, moves the count on,
and adds the amount to `total_locked`. -/
theorem deposit_ok {p p' : Program} {time : Int} {user mint : Bytes32} {amount targetChainId : Nat}
    {recipient zcashAddress : Bytes32} {transferOk : Bool}
    (h : deposit host p time user mint amount targetChainId recipient zcashAddress transferOk =
      .ok p') :
    ∃ info : DepositInfo, info.amount = amount ∧
      p'.deposits = p.deposits.insert (depositSeeds p.gateway.depositCount) info ∧
      p'.gateway.depositCount = p.gateway.depositCount + 1 ∧ p.gateway.depositCount + 1 < 2 ^ 64 ∧
      p'.gateway.totalLocked = p.gateway.totalLocked + amount ∧
      p'.gateway.totalWithdrawn = p.gateway.totalWithdrawn ∧
      p'.withdrawalRequests = p.withdrawalRequests := by
  simp only [deposit, Except.bind_eq_ok, addU64_eq_ok, checkedAdd_eq_some, Except.pure_eq_ok] at h
  obtain ⟨-, -, -, -, -, -, -, -, -, -, l, ⟨-, rfl⟩, c, ⟨hc, rfl⟩, rfl⟩ := h
  exact ⟨_, rfl, rfl, rfl, hc, rfl, rfl, rfl⟩

/-- A request creates the request account of the current count and changes no deposit or
balance. -/
theorem requestWithdrawal_ok {p p' : Program} {time : Int} {recipient mint : Bytes32}
    {amount : Nat} {nullifier : Bytes32}
    (h : requestWithdrawal host p time recipient mint amount nullifier = .ok p') :
    p'.withdrawalRequests =
        p.withdrawalRequests.insert (requestSeedsOfCount p.gateway.withdrawalCount)
          ⟨generateWithdrawalId host recipient mint amount nullifier p.gateway.withdrawalCount,
            recipient, mint, amount, nullifier, time, false⟩ ∧
      p'.deposits = p.deposits ∧ p'.gateway.depositCount = p.gateway.depositCount ∧
      p'.gateway.totalLocked = p.gateway.totalLocked ∧
      p'.gateway.totalWithdrawn = p.gateway.totalWithdrawn := by
  simp only [requestWithdrawal, Except.bind_eq_ok, Except.pure_eq_ok] at h
  obtain ⟨-, -, -, -, -, -, -, -, c, -, rfl⟩ := h
  exact ⟨rfl, rfl, rfl, rfl, rfl⟩

/-! ### Custody -/

/-- The sum of the amounts of the deposit accounts of counts below the deposit count. -/
def depositedTotal (p : Program) : Nat :=
  ((List.range p.gateway.depositCount).map fun n =>
    ((p.deposits (depositSeeds n)).map DepositInfo.amount).getD 0).sum

/-- **Custody invariant.** `total_locked + total_withdrawn` is the sum of the deposited
amounts, and the deposit count is a `u64`. -/
def Custody (p : Program) : Prop :=
  p.gateway.totalLocked + p.gateway.totalWithdrawn = depositedTotal p ∧
    p.gateway.depositCount < 2 ^ 64

/-- A deposit adds its amount to the deposited total. -/
theorem depositedTotal_deposit {p p' : Program} {info : DepositInfo}
    (hd : p'.deposits = p.deposits.insert (depositSeeds p.gateway.depositCount) info)
    (hc : p'.gateway.depositCount = p.gateway.depositCount + 1)
    (hlt : p.gateway.depositCount + 1 < 2 ^ 64) :
    depositedTotal p' = depositedTotal p + info.amount := by
  unfold depositedTotal
  rw [hc, List.range_succ, List.map_append, List.sum_append]
  congr 1
  · refine congrArg List.sum (List.map_congr_left fun n hn => ?_)
    have hne : depositSeeds n ≠ depositSeeds p.gateway.depositCount := fun h =>
      (List.mem_range.mp hn).ne (depositSeeds_inj (by simp at hn; omega) (by omega) h)
    simp [hd, hne]
  · simp [hd]

theorem step_invariant {p : Program} (hr : RequestsAtCounts p) (hc : Custody p)
    (c : Int × Instruction) : RequestsAtCounts (step host p c) ∧ Custody (step host p c) := by
  unfold step
  split
  case h_2 => exact ⟨hr, hc⟩
  rename_i p' h
  obtain ⟨time, ins⟩ := c
  cases ins
  case deposit user mint amount targetChainId recipient zcashAddress transferOk =>
    obtain ⟨info, hamt, hd, hcount, hlt, hl, hw, hreq⟩ := deposit_ok h
    refine ⟨fun seeds r h' => hr seeds r (hreq ▸ h'), ?_, by omega⟩
    rw [hl, hw, depositedTotal_deposit hd hcount hlt, hamt, ← hc.1]
    omega
  case requestWithdrawal recipient mint amount nullifier zcashProof merkleRoot =>
    obtain ⟨hreq, hd, hcount, hl, hw⟩ := requestWithdrawal_ok h
    refine ⟨fun seeds r' h' => ?_, ?_, hcount ▸ hc.2⟩
    · rw [hreq, KVMap.insert_apply] at h'
      split at h'
      · exact ⟨_, ‹_›⟩
      · exact hr seeds r' h'
    · rw [hl, hw, hc.1]
      simp only [depositedTotal, hd, hcount]
  case executeWithdrawal withdrawalId sig transferOk =>
    simp [execute, executeWithdrawal_fails hr] at h
  all_goals
    simp only [execute, Except.bind_eq_ok, Except.pure_eq_ok] at h
    repeat first
      | subst h
      | obtain ⟨_, _, h⟩ := h
    exact ⟨hr, hc⟩

/-- **Custody.** In every state reachable from `initialize` by any sequence of
instructions, failing ones reverting, `total_locked + total_withdrawn` is the sum of the
amounts of all deposit accounts; and no `execute_withdrawal` ever succeeds. -/
theorem run_invariant (authority coordinator : Bytes32) (calls : List (Int × Instruction)) :
    RequestsAtCounts (run host (genesis authority coordinator) calls) ∧
      Custody (run host (genesis authority coordinator) calls) := by
  induction calls using List.reverseRecOn with
  | nil => refine ⟨fun _ _ h => ?_, ?_⟩ <;> simp [run, genesis, Custody, depositedTotal] at *
  | append_singleton calls c ih =>
    rw [run, List.foldl_append]
    exact step_invariant ih.1 ih.2 c

theorem run_custody (authority coordinator : Bytes32) (calls : List (Int × Instruction)) :
    Custody (run host (genesis authority coordinator) calls) ∧
      ∀ time withdrawalId sig transferOk,
        executeWithdrawal host (run host (genesis authority coordinator) calls) time withdrawalId sig
          transferOk = .error (.account "AccountNotInitialized") :=
  ⟨(run_invariant authority coordinator calls).2,
    executeWithdrawal_fails (run_invariant authority coordinator calls).1⟩

/-- **Requests are not addressable.** For every injective derivation of account addresses
from seeds, and every request `request_withdrawal` creates in a state reachable from
`initialize`: the request sits in the account derived from the seeds of its count `n`, with
the id `w` generated at `n`; the account `execute_withdrawal(w, _)` derives from the seeds of
`w` is another one; and `execute_withdrawal(w, _)` fails there, for every signature. -/
theorem request_not_addressable {α : Type} (pda : List Bytes → α) (hpda : Function.Injective pda)
    (authority coordinator : Bytes32) (calls : List (Int × Instruction)) (time : Int)
    (recipient mint : Bytes32) (amount : Nat) (nullifier : Bytes32) (p' : Program)
    (h : requestWithdrawal host (run host (genesis authority coordinator) calls) time recipient mint
      amount nullifier = .ok p') :
    p'.withdrawalRequests
        (requestSeedsOfCount (run host (genesis authority coordinator) calls).gateway.withdrawalCount) =
      some ⟨generateWithdrawalId host recipient mint amount nullifier
          (run host (genesis authority coordinator) calls).gateway.withdrawalCount,
        recipient, mint, amount, nullifier, time, false⟩ ∧
    pda (requestSeedsOfId (generateWithdrawalId host recipient mint amount nullifier
        (run host (genesis authority coordinator) calls).gateway.withdrawalCount)) ≠
      pda (requestSeedsOfCount (run host (genesis authority coordinator) calls).gateway.withdrawalCount) ∧
    ∀ time' sig transferOk,
      executeWithdrawal host p' time' (generateWithdrawalId host recipient mint amount nullifier
          (run host (genesis authority coordinator) calls).gateway.withdrawalCount) sig transferOk =
        .error (.account "AccountNotInitialized") := by
  have hinv := @run_invariant host authority coordinator calls
  have hstep := @step_invariant host _ hinv.1 hinv.2
    (time, .requestWithdrawal recipient mint amount nullifier [] nullifier)
  rw [step, execute, h] at hstep
  refine ⟨by rw [(requestWithdrawal_ok h).1, KVMap.insert_apply, if_pos rfl],
    fun heq => requestSeedsOfId_ne _ _ (hpda heq), fun _ _ _ => executeWithdrawal_fails hstep.1 _ _ _ _⟩

/-- The 32-byte value with every byte `b`. -/
def Bytes32.fill (b : UInt8) : Bytes32 := ⟨List.replicate 32 b, List.length_replicate _ _⟩

/-- A runtime whose Keccak-256 keeps the first 32 bytes of its input, zero-padded, and whose
`secp256k1_recover` returns a 64-byte key for every signature. -/
def Host.sample : Host where
  keccak256 b := ⟨(b ++ List.replicate 32 0).take 32, by
    rw [List.length_take, List.length_append, List.length_replicate]; omega⟩
  secp256k1Recover _ _ _ := some (List.replicate 64 0)

/-- Right after `initialize`, a request of 1 000 000 units: it sits at the seeds of count
`0`, and its id cannot be executed. -/
theorem request_not_addressable_sample :
    ∃ p', requestWithdrawal Host.sample (run Host.sample (genesis (.fill 1) (.fill 2)) []) 0
        (.fill 3) (.fill 4) 1000000 (.fill 5) = .ok p' ∧
      p'.withdrawalRequests (requestSeedsOfCount 0) =
        some ⟨generateWithdrawalId Host.sample (.fill 3) (.fill 4) 1000000 (.fill 5) 0,
          .fill 3, .fill 4, 1000000, .fill 5, 0, false⟩ ∧
      requestSeedsOfId (generateWithdrawalId Host.sample (.fill 3) (.fill 4) 1000000 (.fill 5) 0) ≠
        requestSeedsOfCount 0 ∧
      ∀ time' sig transferOk, executeWithdrawal Host.sample p' time'
        (generateWithdrawalId Host.sample (.fill 3) (.fill 4) 1000000 (.fill 5) 0) sig transferOk =
          .error (.account "AccountNotInitialized") := by
  obtain ⟨p', hp'⟩ : ∃ p', requestWithdrawal Host.sample (run Host.sample (genesis (.fill 1) (.fill 2)) [])
      0 (.fill 3) (.fill 4) 1000000 (.fill 5) = .ok p' := Except.exists_eq_ok_of_isOk (by decide)
  exact ⟨p', hp', request_not_addressable id Function.injective_id (.fill 1) (.fill 2) [] 0 (.fill 3)
    (.fill 4) 1000000 (.fill 5) p' hp'⟩

/-! ### One request per nullifier -/

/-- What an instruction that succeeds does to the request and nullifier accounts: nothing;
or `request_withdrawal` creates a request account and the nullifier account of its nullifier,
both absent until then; or `execute_withdrawal` rewrites a request account as executed, and
the nullifier account of its nullifier. -/
theorem execute_requests {p p' : Program} {time : Int} {i : Instruction}
    (h : execute host p time i = .ok p') :
    (p'.withdrawalRequests = p.withdrawalRequests ∧ p'.nullifierAccounts = p.nullifierAccounts) ∨
    (∃ seeds r na, p.withdrawalRequests seeds = none ∧
      p.nullifierAccounts (nullifierSeeds r.nullifier) = none ∧
      p'.withdrawalRequests = p.withdrawalRequests.insert seeds r ∧
      p'.nullifierAccounts = p.nullifierAccounts.insert (nullifierSeeds r.nullifier) na) ∨
    (∃ seeds r na, p.withdrawalRequests seeds = some r ∧
      p'.withdrawalRequests = p.withdrawalRequests.insert seeds { r with executed := true } ∧
      p'.nullifierAccounts = p.nullifierAccounts.insert (nullifierSeeds r.nullifier) na) := by
  cases i
  case requestWithdrawal recipient mint amount nullifier zcashProof merkleRoot =>
    simp only [execute, requestWithdrawal, Except.bind_eq_ok, initAt_eq_ok, Except.pure_eq_ok] at h
    obtain ⟨-, hr, -, hn, -, -, -, -, c, -, rfl⟩ := h
    exact .inr (.inl ⟨_, ⟨_, recipient, mint, amount, nullifier, time, false⟩, _, hr, hn, rfl, rfl⟩)
  case executeWithdrawal withdrawalId sig transferOk =>
    simp only [execute, executeWithdrawal, Except.bind_eq_ok, loadAt_eq_ok, Except.pure_eq_ok] at h
    obtain ⟨r, hr, h⟩ := h
    repeat first
      | obtain rfl := h
      | obtain ⟨_, _, h⟩ := h
    exact .inr (.inr ⟨_, r, _, hr, rfl, rfl⟩)
  all_goals
    simp only [execute, deposit, Except.bind_eq_ok, Except.pure_eq_ok] at h
    repeat first
      | obtain rfl := h
      | obtain ⟨_, _, h⟩ := h
    exact .inl ⟨rfl, rfl⟩

/-- Every request account has the nullifier account of its nullifier, and no two request
accounts carry one nullifier. -/
def OneRequestPerNullifier (p : Program) : Prop :=
  ∀ seeds r, p.withdrawalRequests seeds = some r →
    p.nullifierAccounts (nullifierSeeds r.nullifier) ≠ none ∧
    ∀ seeds' r', p.withdrawalRequests seeds' = some r' → r'.nullifier = r.nullifier → seeds' = seeds

/-- The invariant reads only each request account's nullifier and which nullifier accounts
exist: it survives a step that keeps the first and only adds to the second. -/
theorem OneRequestPerNullifier.of_nullifiers {p p' : Program} (hp : OneRequestPerNullifier p)
    (hr : ∀ seeds, (p'.withdrawalRequests seeds).map WithdrawalRequestInfo.nullifier =
      (p.withdrawalRequests seeds).map WithdrawalRequestInfo.nullifier)
    (hn : ∀ seeds, p.nullifierAccounts seeds ≠ none → p'.nullifierAccounts seeds ≠ none) :
    OneRequestPerNullifier p' := by
  have hold : ∀ seeds r, p'.withdrawalRequests seeds = some r →
      ∃ r₀, p.withdrawalRequests seeds = some r₀ ∧ r₀.nullifier = r.nullifier := fun seeds r h =>
    Option.map_eq_some'.mp ((hr seeds).symm.trans (by rw [h, Option.map_some']))
  intro seeds r h
  obtain ⟨r₀, h₀, hnr⟩ := hold seeds r h
  refine ⟨hnr ▸ hn _ (hp seeds r₀ h₀).1, fun seeds' r' h' heq => ?_⟩
  obtain ⟨r₀', h₀', hnr'⟩ := hold seeds' r' h'
  exact (hp seeds r₀ h₀).2 seeds' r₀' h₀' (by rw [hnr', hnr, heq])

/-- A request created with an absent nullifier account keeps the invariant. -/
theorem OneRequestPerNullifier.insert_fresh {p p' : Program} (hp : OneRequestPerNullifier p)
    {seeds₀ : List Bytes} {r₀ : WithdrawalRequestInfo} {na : NullifierAccount}
    (hfresh : p.nullifierAccounts (nullifierSeeds r₀.nullifier) = none)
    (hr : p'.withdrawalRequests = p.withdrawalRequests.insert seeds₀ r₀)
    (hn : p'.nullifierAccounts = p.nullifierAccounts.insert (nullifierSeeds r₀.nullifier) na) :
    OneRequestPerNullifier p' := by
  have hother : ∀ seeds r, p.withdrawalRequests seeds = some r → r.nullifier ≠ r₀.nullifier :=
    fun seeds r h heq => (hp seeds r h).1 (heq ▸ hfresh)
  intro seeds r h
  rw [hr, KVMap.insert_apply] at h
  split at h
  case isTrue hs =>
    cases h
    refine ⟨by simp [hn], fun seeds' r' h' heq => ?_⟩
    rw [hr, KVMap.insert_apply] at h'
    split at h'
    case isTrue hs' => exact hs'.trans hs.symm
    case isFalse => exact absurd heq (hother seeds' r' h')
  case isFalse =>
    refine ⟨by rw [hn, KVMap.insert_apply]; split <;> simp [(hp seeds r h).1],
      fun seeds' r' h' heq => ?_⟩
    rw [hr, KVMap.insert_apply] at h'
    split at h'
    case isTrue =>
      cases h'
      exact absurd heq.symm (hother seeds r h)
    case isFalse => exact (hp seeds r h).2 seeds' r' h' heq

theorem OneRequestPerNullifier.step {p : Program} (hp : OneRequestPerNullifier p)
    (c : Int × Instruction) : OneRequestPerNullifier (step host p c) := by
  unfold Solana.step
  rcases h : execute host p c.1 c.2 with e | p'
  · exact hp
  rcases execute_requests h with ⟨hr, hn⟩ | ⟨_, _, _, -, hfresh, hr, hn⟩ | ⟨k, r, _, hk, hr, hn⟩
  · exact hp.of_nullifiers (by simp [hr]) (by simp [hn])
  · exact hp.insert_fresh hfresh hr hn
  · refine hp.of_nullifiers (fun seeds => ?_) fun seeds hs => ?_
    · rw [hr, KVMap.insert_apply]
      split
      · subst seeds; rw [hk]; rfl
      · rfl
    · rw [hn, KVMap.insert_apply]
      split <;> simp [hs]

/-- **One request per nullifier.** In every state reachable from `initialize`, failing
instructions reverting, every withdrawal-request account has the nullifier account of its
nullifier and no two request accounts carry the same nullifier; so `request_withdrawal` with
the nullifier of an existing request fails, its `init` finding an account in use. -/
theorem one_request_per_nullifier (authority coordinator : Bytes32)
    (calls : List (Int × Instruction)) :
    OneRequestPerNullifier (run host (genesis authority coordinator) calls) ∧
    ∀ seeds r time recipient mint amount,
      (run host (genesis authority coordinator) calls).withdrawalRequests seeds = some r →
      requestWithdrawal host (run host (genesis authority coordinator) calls) time recipient mint
        amount r.nullifier = .error (.account "already in use") := by
  have hinv : OneRequestPerNullifier (run host (genesis authority coordinator) calls) := by
    induction calls using List.reverseRecOn with
    | nil => exact fun _ _ h => nomatch h
    | append_singleton calls c ih =>
      rw [run, List.foldl_append]
      exact ih.step c
  refine ⟨hinv, fun seeds r time recipient mint amount h => ?_⟩
  obtain ⟨na, hna⟩ := Option.ne_none_iff_exists'.mp (hinv seeds r h).1
  simp only [requestWithdrawal, initAt, hna, bind, Except.bind]
  cases (run host (genesis authority coordinator) calls).withdrawalRequests
    (requestSeedsOfCount (run host (genesis authority coordinator) calls).gateway.withdrawalCount) <;>
    rfl

/-! ### The settings -/

/-- The authority an instruction is signed with, for the two instructions that check it. -/
def Instruction.authority? : Instruction → Option Bytes32
  | .setCoordinator authority _ => some authority
  | .setPaused authority _ => some authority
  | _ => none

@[simp]
theorem hasAuthority_eq_ok {p : Program} {a : Bytes32} {u : Unit} :
    hasAuthority p a = .ok u ↔ p.gateway.authority = a := by
  unfold hasAuthority
  split <;> simp_all

/-- **What an instruction can do to the settings.** An instruction that succeeds keeps the
authority; it is one of the two admin instructions, signed by the authority, or it ran while
the gateway was not paused and kept the coordinator and the pause flag. -/
theorem execute_settings {p p' : Program} {time : Int} {i : Instruction}
    (h : execute host p time i = .ok p') :
    p'.gateway.authority = p.gateway.authority ∧
    (i.authority? = some p.gateway.authority ∨
      p.gateway.paused = false ∧ p'.gateway.coordinator = p.gateway.coordinator ∧
        p'.gateway.paused = p.gateway.paused) := by
  cases i
  case setCoordinator a c | setPaused a c =>
    all_goals
      simp only [execute, Except.bind_eq_ok, hasAuthority_eq_ok, Except.pure_eq_ok] at h
      obtain ⟨-, rfl, rfl⟩ := h
      exact ⟨rfl, .inl rfl⟩
  all_goals
    simp only [execute, deposit, requestWithdrawal, executeWithdrawal, Except.bind_eq_ok,
      require_eq_ok, Bool.not_eq_true', Except.pure_eq_ok] at h
    repeat first
      | obtain rfl := h
      | obtain ⟨_, _, h⟩ := h
    exact ⟨rfl, .inr ⟨‹_›, rfl, rfl⟩⟩

end Solana

end ZeroBridge
