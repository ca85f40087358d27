import ZeroBridge.Gateway.Storage
import ZeroBridge.Encoding.Hex

/-!
# The NEAR gateway

`NEARGateway` (`near-adapter/src/lib.rs`): its fields, every public method, and
`get_stats`. A method either returns with the new state, or panics (a failed `require!`,
an `expect`, or an arithmetic overflow) and then nothing it wrote is kept (`step`). The
contract is taken to be built with `overflow-checks`, as NEAR's contract template sets, so
`+`, `-` and `*` on `u128` and `u64` panic on overflow.

The host's hash functions are a parameter, `Host`. A method's environment (predecessor,
attached deposit, block time) is part of the call.

**Custody** (`run_custody`): in every state reachable from `new`,
`locked_balances["near"] + total_withdrawals = total_deposits`, and every other token's
locked balance is zero; so `get_stats`'s `total_deposits - total_withdrawals` never
underflows. The `EVENT_JSON` logs are not modelled; the transfer promise is.
-/

namespace ZeroBridge

namespace Near

/-- `MIN_DEPOSIT`: 0.1 NEAR in yoctoNEAR. -/
def minDeposit : Nat := 100000000000000000000000

/-- `NEAR_TOKEN`. -/
def nearToken : String := "near"

/-- `DepositInfo`. -/
structure DepositInfo where
  depositId : String
  sender : String
  token : String
  amount : Nat
  targetChainId : Nat
  recipient : String
  zcashAddress : String
  timestamp : Nat
  processed : Bool
  deriving DecidableEq, Repr

/-- `WithdrawalRequestInfo`; the nullifier is kept as lowercase hex. -/
structure WithdrawalRequestInfo where
  withdrawalId : String
  recipient : String
  token : String
  amount : Nat
  nullifier : String
  timestamp : Nat
  executed : Bool
  deriving DecidableEq, Repr

/-- The contract's state. -/
structure NEARGateway where
  owner : String
  coordinator : String
  paused : Bool
  lockedBalances : KVMap String Nat
  deposits : KVMap String DepositInfo
  withdrawalRequests : KVMap String WithdrawalRequestInfo
  nullifiers : KVMap Bytes Bool
  totalDeposits : Nat
  totalWithdrawals : Nat
  depositCount : Nat
  withdrawalCount : Nat
  bridgeFee : Nat

/-- The host's hash functions, `env::sha256` and `env::keccak256`. -/
structure Host where
  sha256 : Bytes → Bytes
  keccak256 : Bytes → Bytes

/-- The environment of a call. -/
structure Context where
  predecessor : String
  attachedDeposit : Nat
  blockTimestamp : Nat
  deriving DecidableEq, Repr

/-- The public methods that change state. -/
inductive Method
  | deposit (targetChainId : Nat) (recipient zcashAddress : Bytes)
  | requestWithdrawal (token : String) (amount : Nat) (nullifier zcashProof merkleRoot : Bytes)
  | executeWithdrawal (withdrawalId : String) (coordinatorSignature : Bytes)
  | setCoordinator (newCoordinator : String)
  | setPaused (paused : Bool)
  | setBridgeFee (feeBps : Nat)
  | addLiquidity
  deriving DecidableEq, Repr

/-- What a method returns: a deposit or withdrawal id, or the transfer promise of an
execution (receiver, yoctoNEAR). -/
inductive Output
  | none
  | id (s : String)
  | transfer (receiver : String) (amount : Nat)
  deriving DecidableEq, Repr

/-! ### Arithmetic, hashing, checks -/

/-- `require!(c, msg)`. -/
def require (c : Bool) (msg : String) : Except String Unit :=
  if c then .ok () else .error msg

/-- `+` on `w`-bit integers under `overflow-checks`. -/
def add (w a b : Nat) : Except String Nat :=
  match checkedAdd w a b with
  | some c => .ok c
  | none => .error "attempt to add with overflow"

/-- `-` on unsigned integers under `overflow-checks`. -/
def sub (a b : Nat) : Except String Nat :=
  match checkedSub a b with
  | some c => .ok c
  | none => .error "attempt to subtract with overflow"

/-- `*` on `u128` under `overflow-checks`. -/
def mul128 (a b : Nat) : Except String Nat :=
  if a * b < 2 ^ 128 then .ok (a * b) else .error "attempt to multiply with overflow"

/-- `calculate_fee`: `amount * bridge_fee / 10000`. -/
def calculateFee (g : NEARGateway) (amount : Nat) : Except String Nat := do
  let p ← mul128 amount g.bridgeFee
  return p / 10000

/-- `generate_deposit_id`: hex of the first 16 bytes of SHA-256 over the sender, the token,
the amount (`u128` LE), the target chain, the deposit count and the block time (`u64` LE). -/
def generateDepositId (host : Host) (g : NEARGateway) (sender token : String)
    (amount targetChainId blockTimestamp : Nat) : String :=
  hexEncode ((host.sha256 (asBytes sender ++ asBytes token ++ toLeBytes 16 amount ++
    toLeBytes 8 targetChainId ++ toLeBytes 8 g.depositCount ++ toLeBytes 8 blockTimestamp)).take 16)

/-- `generate_withdrawal_id`: hex of the first 16 bytes of SHA-256 over the recipient, the
token, the amount (`u128` LE), the nullifier and the withdrawal count (`u64` LE). -/
def generateWithdrawalId (host : Host) (g : NEARGateway) (recipient token : String) (amount : Nat)
    (nullifier : Bytes) : String :=
  hexEncode ((host.sha256 (asBytes recipient ++ asBytes token ++ toLeBytes 16 amount ++
    nullifier ++ toLeBytes 8 g.withdrawalCount)).take 16)

/-- The bytes `verify_coordinator_signature` hashes with Keccak-256 (the digest is then
unused): the withdrawal id, the recipient, the amount (`u128` LE) and the nullifier's hex
text. -/
def verifyMessage (withdrawalId : String) (request : WithdrawalRequestInfo) : Bytes :=
  asBytes withdrawalId ++ asBytes request.recipient ++ toLeBytes 16 request.amount ++
    asBytes request.nullifier

/-- `verify_coordinator_signature`: only the signature's length is checked. -/
def verifyCoordinatorSignature (host : Host) (withdrawalId : String)
    (request : WithdrawalRequestInfo) (signature : Bytes) : Except String Unit :=
  let _messageHash := host.keccak256 (verifyMessage withdrawalId request)
  require (signature.length = 65) "Invalid signature length"

/-! ### Methods -/

variable (host : Host)

/-- `new`. -/
def new (owner coordinator : String) : NEARGateway :=
  ⟨owner, coordinator, false, fun _ => none, fun _ => none, fun _ => none, fun _ => none,
    0, 0, 0, 0, 30⟩

/-- `assert_not_paused`. -/
def assertNotPaused (g : NEARGateway) : Except String Unit :=
  require (!g.paused) "Gateway is paused"

/-- `assert_owner`. -/
def assertOwner (g : NEARGateway) (ctx : Context) : Except String Unit :=
  require (ctx.predecessor = g.owner) "Only owner"

/-- `deposit`. -/
def deposit (g : NEARGateway) (ctx : Context) (targetChainId : Nat) (recipient zcashAddress : Bytes) :
    Except String (NEARGateway × Output) := do
  assertNotPaused g
  let sender := ctx.predecessor
  let amount := ctx.attachedDeposit
  require (amount ≥ minDeposit) "Amount below minimum"
  require (recipient.length = 32) "Invalid recipient"
  require (zcashAddress.length = 32) "Invalid Zcash address"
  let fee ← calculateFee g amount
  let netAmount ← sub amount fee
  let depositId := generateDepositId host g sender nearToken amount targetChainId ctx.blockTimestamp
  let deposit : DepositInfo := ⟨depositId, sender, nearToken, netAmount, targetChainId,
    hexEncode recipient, hexEncode zcashAddress, ctx.blockTimestamp, false⟩
  let locked ← add 128 ((g.lockedBalances nearToken).getD 0) netAmount
  let totalDeposits ← add 128 g.totalDeposits netAmount
  let depositCount ← add 64 g.depositCount 1
  return ({ g with
    deposits := g.deposits.insert depositId deposit
    lockedBalances := g.lockedBalances.insert nearToken locked
    totalDeposits := totalDeposits
    depositCount := depositCount }, .id depositId)

/-- `request_withdrawal`. -/
def requestWithdrawal (g : NEARGateway) (ctx : Context) (token : String) (amount : Nat)
    (nullifier merkleRoot : Bytes) : Except String (NEARGateway × Output) := do
  assertNotPaused g
  let recipient := ctx.predecessor
  require (amount > 0) "Invalid amount"
  require (nullifier.length = 32) "Invalid nullifier"
  require (merkleRoot.length = 32) "Invalid merkle root"
  require (!(g.nullifiers nullifier).getD false) "Nullifier already used"
  let withdrawalId := generateWithdrawalId host g recipient token amount nullifier
  let request : WithdrawalRequestInfo :=
    ⟨withdrawalId, recipient, token, amount, hexEncode nullifier, ctx.blockTimestamp, false⟩
  let withdrawalCount ← add 64 g.withdrawalCount 1
  return ({ g with
    withdrawalRequests := g.withdrawalRequests.insert withdrawalId request
    withdrawalCount := withdrawalCount }, .id withdrawalId)

/-- `Option::expect`. -/
def expect {α : Type} (o : Option α) (msg : String) : Except String α :=
  match o with
  | some a => .ok a
  | none => .error msg

/-- `execute_withdrawal`. -/
def executeWithdrawal (g : NEARGateway) (withdrawalId : String) (coordinatorSignature : Bytes) :
    Except String (NEARGateway × Output) := do
  assertNotPaused g
  let request ← expect (g.withdrawalRequests withdrawalId) "Withdrawal not found"
  require (!request.executed) "Already executed"
  let nullifierBytes ← expect (hexDecode request.nullifier) "Invalid nullifier hex"
  require (!(g.nullifiers nullifierBytes).getD false) "Nullifier already used"
  verifyCoordinatorSignature host withdrawalId request coordinatorSignature
  let current := (g.lockedBalances request.token).getD 0
  require (current ≥ request.amount) "Insufficient locked balance"
  let totalWithdrawals ← add 128 g.totalWithdrawals request.amount
  return ({ g with
    withdrawalRequests := g.withdrawalRequests.insert withdrawalId { request with executed := true }
    nullifiers := g.nullifiers.insert nullifierBytes true
    lockedBalances := g.lockedBalances.insert request.token (current - request.amount)
    totalWithdrawals := totalWithdrawals }, .transfer request.recipient request.amount)

/-- Dispatch of the state-changing methods. -/
def call (g : NEARGateway) (ctx : Context) : Method → Except String (NEARGateway × Output)
  | .deposit targetChainId recipient zcashAddress =>
    deposit host g ctx targetChainId recipient zcashAddress
  | .requestWithdrawal token amount nullifier _zcashProof merkleRoot =>
    requestWithdrawal host g ctx token amount nullifier merkleRoot
  | .executeWithdrawal withdrawalId coordinatorSignature =>
    executeWithdrawal host g withdrawalId coordinatorSignature
  | .setCoordinator newCoordinator => do
    assertOwner g ctx
    return ({ g with coordinator := newCoordinator }, .none)
  | .setPaused paused => do
    assertOwner g ctx
    return ({ g with paused := paused }, .none)
  | .setBridgeFee feeBps => do
    assertOwner g ctx
    require (feeBps ≤ 100) "Fee too high"
    return ({ g with bridgeFee := feeBps }, .none)
  | .addLiquidity => do
    assertNotPaused g
    require (ctx.attachedDeposit > 0) "Invalid amount"
    return (g, .none)

/-- `get_stats`: `(total_deposits, total_withdrawals, total_volume, active_deposits)`. -/
def getStats (g : NEARGateway) : Except String (Nat × Nat × Nat × Nat) := do
  let totalVolume ← add 128 g.totalDeposits g.totalWithdrawals
  let activeDeposits ← sub g.totalDeposits g.totalWithdrawals
  return (g.totalDeposits, g.totalWithdrawals, totalVolume, activeDeposits)

/-- A call: its environment and the method. -/
structure Call where
  ctx : Context
  method : Method
  deriving DecidableEq, Repr

/-- One call: a panicking one leaves the state as it was. -/
def step (g : NEARGateway) (c : Call) : NEARGateway :=
  match call host g c.ctx c.method with
  | .ok r => r.1
  | .error _ => g

/-- The state after a sequence of calls. -/
def run (g : NEARGateway) (calls : List Call) : NEARGateway := calls.foldl (step host) g

/-! ### What a successful call does -/

@[simp]
theorem require_eq_ok {c : Bool} {msg : String} {u : Unit} : require c msg = .ok u ↔ c = true := by
  cases c <;> simp [require]

@[simp]
theorem add_eq_ok {w a b c : Nat} : add w a b = .ok c ↔ checkedAdd w a b = some c := by
  unfold add
  cases checkedAdd w a b <;> simp

@[simp]
theorem expect_eq_ok {α : Type} {o : Option α} {msg : String} {a : α} :
    expect o msg = .ok a ↔ o = some a := by
  cases o <;> simp [expect]

variable {host}

/-- A deposit adds its net amount to the locked `near` balance and to the deposit total. -/
theorem deposit_ok {g g' : NEARGateway} {ctx : Context} {targetChainId : Nat}
    {recipient zcashAddress : Bytes} {out : Output}
    (h : deposit host g ctx targetChainId recipient zcashAddress = .ok (g', out)) :
    ∃ net, g'.lockedBalances =
        g.lockedBalances.insert nearToken ((g.lockedBalances nearToken).getD 0 + net) ∧
      g'.totalDeposits = g.totalDeposits + net ∧ g'.totalWithdrawals = g.totalWithdrawals := by
  simp only [deposit, Except.bind_eq_ok, add_eq_ok, checkedAdd_eq_some, Except.pure_eq_ok,
    Prod.mk.injEq] at h
  obtain ⟨-, -, -, -, -, -, -, -, -, -, -, -, l, ⟨-, rfl⟩, t, ⟨-, rfl⟩, c, -, rfl, -⟩ := h
  exact ⟨_, rfl, rfl, rfl⟩

/-- An execution takes the request's amount out of the locked balance of its token, which
held at least that much, and adds it to the withdrawal total. -/
theorem executeWithdrawal_ok {g g' : NEARGateway} {id : String} {sig : Bytes} {out : Output}
    (h : executeWithdrawal host g id sig = .ok (g', out)) :
    ∃ r, g.withdrawalRequests id = some r ∧ r.amount ≤ (g.lockedBalances r.token).getD 0 ∧
      g'.lockedBalances =
        g.lockedBalances.insert r.token ((g.lockedBalances r.token).getD 0 - r.amount) ∧
      g'.totalDeposits = g.totalDeposits ∧ g'.totalWithdrawals = g.totalWithdrawals + r.amount := by
  simp only [executeWithdrawal, Except.bind_eq_ok, require_eq_ok, add_eq_ok, expect_eq_ok,
    checkedAdd_eq_some, decide_eq_true_eq, Except.pure_eq_ok, Prod.mk.injEq] at h
  obtain ⟨-, -, r, hr, -, -, -, -, -, -, -, -, -, hl, t, ⟨-, rfl⟩, rfl, -⟩ := h
  exact ⟨r, hr, hl, rfl, rfl, rfl⟩

/-! ### Custody -/

/-- **Custody invariant.** The locked `near` balance and the withdrawal total add up to the
deposit total, and no other token has a locked balance. -/
def Custody (g : NEARGateway) : Prop :=
  (g.lockedBalances nearToken).getD 0 + g.totalWithdrawals = g.totalDeposits ∧
    ∀ t, t ≠ nearToken → (g.lockedBalances t).getD 0 = 0

theorem custody_new (owner coordinator : String) : Custody (new owner coordinator) :=
  ⟨rfl, fun _ _ => rfl⟩

theorem custody_call {g g' : NEARGateway} (hc : Custody g) {ctx : Context} {m : Method}
    {out : Output} (h : call host g ctx m = .ok (g', out)) : Custody g' := by
  obtain ⟨hu, ht⟩ := hc
  cases m
  case deposit targetChainId recipient zcashAddress =>
    obtain ⟨net, hl, hd, hw⟩ := deposit_ok h
    rw [Custody, hl, hd, hw]
    exact custody_of_deposit hu ht net
  case executeWithdrawal id sig =>
    obtain ⟨r, -, hle, hl, hd, hw⟩ := executeWithdrawal_ok h
    rw [Custody, hl, hd, hw]
    exact custody_of_withdrawal hu ht hle
  case requestWithdrawal token amount nullifier zcashProof merkleRoot =>
    simp only [call, requestWithdrawal, Except.bind_eq_ok, Except.pure_eq_ok, Prod.mk.injEq] at h
    obtain ⟨-, -, -, -, -, -, -, -, -, -, c, -, rfl, -⟩ := h
    exact ⟨hu, ht⟩
  all_goals
    simp only [call, Except.bind_eq_ok, Except.pure_eq_ok, Prod.mk.injEq] at h
    repeat first
      | obtain ⟨rfl, -⟩ := h
      | obtain ⟨_, _, h⟩ := h
    exact ⟨hu, ht⟩

theorem custody_step {g : NEARGateway} (hc : Custody g) (c : Call) : Custody (step host g c) := by
  unfold step
  split
  · exact custody_call hc ‹_›
  · exact hc

/-- **Custody.** In every state reachable from `new` by any sequence of calls, panicking
ones reverting, the locked `near` balance plus the withdrawal total equals the deposit
total, and every other token's locked balance is zero. -/
theorem run_custody (owner coordinator : String) (calls : List Call) :
    Custody (run host (new owner coordinator) calls) := by
  induction calls using List.reverseRecOn with
  | nil => exact custody_new owner coordinator
  | append_singleton calls c ih =>
    rw [run, List.foldl_append]
    exact custody_step ih c

/-! ### What a call can do -/

/-- What a call's result pays out: the amount of its transfer promise. -/
def Output.paid : Output → Nat
  | .transfer _ amount => amount
  | _ => 0

/-- `is_nullifier_used`. -/
def isNullifierUsed (g : NEARGateway) (nullifier : Bytes) : Bool := (g.nullifiers nullifier).getD false

/-- An execution is made while the gateway is not paused and keeps its settings; it spends
its request's nullifier, unspent until then, and pays the request's amount to its
recipient, adding it to the withdrawal total. -/
theorem executeWithdrawal_spends {g g' : NEARGateway} {id : String} {sig : Bytes}
    {out : Output} (h : executeWithdrawal host g id sig = .ok (g', out)) :
    g.paused = false ∧ g'.owner = g.owner ∧ g'.coordinator = g.coordinator ∧
      g'.paused = g.paused ∧ g'.bridgeFee = g.bridgeFee ∧
      ∃ r nb, g.withdrawalRequests id = some r ∧ hexDecode r.nullifier = some nb ∧
        isNullifierUsed g nb = false ∧ g'.nullifiers = g.nullifiers.insert nb true ∧
        out = .transfer r.recipient r.amount ∧
        g'.totalWithdrawals = g.totalWithdrawals + r.amount := by
  simp only [executeWithdrawal, assertNotPaused, Except.bind_eq_ok, require_eq_ok, add_eq_ok,
    expect_eq_ok, checkedAdd_eq_some, Bool.not_eq_true', Except.pure_eq_ok, Prod.mk.injEq] at h
  obtain ⟨-, hp, r, hr, -, -, nb, hnb, -, hn, -, -, -, -, t, ⟨-, rfl⟩, rfl, rfl⟩ := h
  exact ⟨hp, rfl, rfl, rfl, rfl, r, nb, hr, hnb, hn, rfl, rfl, rfl⟩

/-- **What a call can do.** A call that returns is one of the owner's setters, which changes
only the coordinator, the pause flag, or the fee (to at most 100 basis points); or it is made
while the gateway is not paused and keeps those settings, and then it either spends no
nullifier and pays nothing, or it is an execution that spends its request's nullifier,
unspent until then, and pays the request's amount, which it adds to the withdrawal total. -/
theorem call_cases {g g' : NEARGateway} {ctx : Context} {m : Method} {out : Output}
    (h : call host g ctx m = .ok (g', out)) :
    (ctx.predecessor = g.owner ∧ out = .none ∧
      ((∃ c, g' = { g with coordinator := c }) ∨ (∃ p, g' = { g with paused := p }) ∨
        ∃ f, f ≤ 100 ∧ g' = { g with bridgeFee := f })) ∨
    (g.paused = false ∧ g'.owner = g.owner ∧ g'.coordinator = g.coordinator ∧
      g'.paused = g.paused ∧ g'.bridgeFee = g.bridgeFee ∧
      ((g'.nullifiers = g.nullifiers ∧ g'.totalWithdrawals = g.totalWithdrawals ∧ out.paid = 0) ∨
        ∃ id sig r nb, m = .executeWithdrawal id sig ∧ g.withdrawalRequests id = some r ∧
          hexDecode r.nullifier = some nb ∧ isNullifierUsed g nb = false ∧
          g'.nullifiers = g.nullifiers.insert nb true ∧ out = .transfer r.recipient r.amount ∧
          g'.totalWithdrawals = g.totalWithdrawals + r.amount)) := by
  cases m
  case executeWithdrawal id sig =>
    obtain ⟨hp, ho, hc, hpa, hf, r, nb, hr, hnb, hu, hn, hout, ht⟩ := executeWithdrawal_spends h
    exact .inr ⟨hp, ho, hc, hpa, hf, .inr ⟨id, sig, r, nb, rfl, hr, hnb, hu, hn, hout, ht⟩⟩
  case setCoordinator c =>
    simp only [call, assertOwner, Except.bind_eq_ok, require_eq_ok, decide_eq_true_eq,
      Except.pure_eq_ok, Prod.mk.injEq] at h
    obtain ⟨-, ho, rfl, rfl⟩ := h
    exact .inl ⟨ho, rfl, .inl ⟨c, rfl⟩⟩
  case setPaused p =>
    simp only [call, assertOwner, Except.bind_eq_ok, require_eq_ok, decide_eq_true_eq,
      Except.pure_eq_ok, Prod.mk.injEq] at h
    obtain ⟨-, ho, rfl, rfl⟩ := h
    exact .inl ⟨ho, rfl, .inr (.inl ⟨p, rfl⟩)⟩
  case setBridgeFee f =>
    simp only [call, assertOwner, Except.bind_eq_ok, require_eq_ok, decide_eq_true_eq,
      Except.pure_eq_ok, Prod.mk.injEq] at h
    obtain ⟨-, ho, -, hf, rfl, rfl⟩ := h
    exact .inl ⟨ho, rfl, .inr (.inr ⟨f, hf, rfl⟩)⟩
  all_goals
    simp only [call, deposit, requestWithdrawal, assertNotPaused, Except.bind_eq_ok,
      require_eq_ok, Bool.not_eq_true', Except.pure_eq_ok, Prod.mk.injEq] at h
    obtain ⟨-, hp, h⟩ := h
    repeat first
      | obtain ⟨rfl, rfl⟩ := h
      | obtain ⟨_, _, h⟩ := h
    exact .inr ⟨hp, rfl, rfl, rfl, rfl, .inl ⟨rfl, rfl, rfl⟩⟩

/-- A call that returns adds what it pays to the withdrawal total. -/
theorem call_paid {g g' : NEARGateway} {ctx : Context} {m : Method} {out : Output}
    (h : call host g ctx m = .ok (g', out)) : g'.totalWithdrawals = g.totalWithdrawals + out.paid := by
  rcases call_cases h with ⟨-, rfl, ⟨_, rfl⟩ | ⟨_, rfl⟩ | ⟨_, -, rfl⟩⟩ |
    ⟨-, -, -, -, -, ⟨-, ht, hp⟩ | ⟨_, _, _, _, -, -, -, -, -, rfl, ht⟩⟩
  · rfl
  · rfl
  · rfl
  · rw [ht, hp, Nat.add_zero]
  · exact ht

/-- A spent nullifier stays spent. -/
theorem isNullifierUsed_step {g : NEARGateway} {nb : Bytes} (hu : isNullifierUsed g nb = true)
    (c : Call) : isNullifierUsed (step host g c) nb = true := by
  unfold step
  rcases hc : call host g c.ctx c.method with e | ⟨g', out⟩
  · exact hu
  rcases call_cases hc with ⟨-, -, ⟨_, rfl⟩ | ⟨_, rfl⟩ | ⟨_, -, rfl⟩⟩ |
    ⟨-, -, -, -, -, ⟨hn, -⟩ | ⟨_, _, _, nb', -, -, -, -, hn, -⟩⟩
  · exact hu
  · exact hu
  · exact hu
  · rw [isNullifierUsed, hn]; exact hu
  · rw [isNullifierUsed, hn, KVMap.insert_apply]
    split
    · rfl
    · exact hu

/-! ### Nullifiers spent and amounts paid along a run -/

variable (host) in
/-- The nullifier value a call spends: for an `execute_withdrawal` that returns, the
nullifier of its request, decoded. -/
def spentNullifier (g : NEARGateway) (c : Call) : Option Bytes :=
  match c.method with
  | .executeWithdrawal id sig =>
    match executeWithdrawal host g id sig with
    | .ok _ => (g.withdrawalRequests id).bind fun r => hexDecode r.nullifier
    | .error _ => none
  | _ => none

variable (host) in
/-- The nullifier values the calls of a run spend, in order. -/
def spentNullifiers : NEARGateway → List Call → List Bytes
  | _, [] => []
  | g, c :: calls => (spentNullifier host g c).toList ++ spentNullifiers (step host g c) calls

variable (host) in
/-- What the calls of a run pay out, in total. -/
def paidOut : NEARGateway → List Call → Nat
  | _, [] => 0
  | g, c :: calls =>
    (match call host g c.ctx c.method with
      | .ok r => r.2.paid
      | .error _ => 0) + paidOut (step host g c) calls

/-- A call that spends a nullifier value finds it unspent and leaves it spent. -/
theorem spentNullifier_eq_some {g : NEARGateway} {c : Call} {nb : Bytes}
    (h : spentNullifier host g c = some nb) :
    isNullifierUsed g nb = false ∧ isNullifierUsed (step host g c) nb = true := by
  obtain ⟨ctx, m⟩ := c
  cases m
  case executeWithdrawal id sig =>
    simp only [spentNullifier] at h
    split at h
    · rename_i g' out hx
      obtain ⟨-, -, -, -, -, r, nb', hr, hnb, hu, hn, -⟩ := executeWithdrawal_spends hx
      simp only [hr, Option.some_bind, hnb, Option.some.injEq] at h
      subst h
      refine ⟨hu, ?_⟩
      simp [step, call, hx, isNullifierUsed, hn]
    · cases h
  all_goals cases h

theorem isNullifierUsed_run {g : NEARGateway} {nb : Bytes} (hu : isNullifierUsed g nb = true)
    (calls : List Call) : isNullifierUsed (run host g calls) nb = true := by
  induction calls generalizing g with
  | nil => exact hu
  | cons c calls ih => exact ih (isNullifierUsed_step hu c)

/-- What a run pays out, added to the withdrawal total it started from, is the withdrawal
total it ends with. -/
theorem paidOut_add (g : NEARGateway) (calls : List Call) :
    paidOut host g calls + g.totalWithdrawals = (run host g calls).totalWithdrawals := by
  induction calls generalizing g with
  | nil => exact Nat.zero_add _
  | cons c calls ih =>
    rw [paidOut, run, List.foldl_cons, ← run, ← ih (step host g c)]
    unfold step
    rcases hc : call host g c.ctx c.method with e | ⟨g', out⟩
    · exact Nat.zero_add _ ▸ rfl
    · dsimp only
      rw [call_paid hc]
      omega

/-- **Each nullifier value is spent once.** From every state of the NEAR gateway, along
every sequence of calls, panicking ones reverting: the nullifier values that successful
executions spend are pairwise distinct; each of them was unused (`is_nullifier_used` false)
before the run, and is used in the state the run ends in. -/
theorem nullifier_spent_once (g : NEARGateway) (calls : List Call) :
    (spentNullifiers host g calls).Nodup ∧
      ∀ nb ∈ spentNullifiers host g calls,
        isNullifierUsed g nb = false ∧ isNullifierUsed (run host g calls) nb = true := by
  induction calls generalizing g with
  | nil => exact ⟨List.nodup_nil, fun _ h => absurd h (List.not_mem_nil _)⟩
  | cons c calls ih =>
    obtain ⟨hnd, hmem⟩ := ih (step host g c)
    have hearlier : ∀ nb ∈ spentNullifiers host (step host g c) calls, isNullifierUsed g nb = false :=
      fun nb hnb => Bool.eq_false_iff.mpr fun hg =>
        Bool.false_ne_true ((hmem nb hnb).1.symm.trans (isNullifierUsed_step hg c))
    simp only [spentNullifiers]
    cases hs : spentNullifier host g c with
    | none => exact ⟨hnd, fun nb hnb => ⟨hearlier nb hnb, (hmem nb hnb).2⟩⟩
    | some nb =>
      obtain ⟨hu, hu'⟩ := spentNullifier_eq_some hs
      refine ⟨List.nodup_cons.mpr ⟨fun hin => Bool.false_ne_true ((hmem nb hin).1.symm.trans hu'),
        hnd⟩, fun x hx => ?_⟩
      rcases List.mem_cons.mp hx with rfl | hx
      · exact ⟨hu, isNullifierUsed_run hu' calls⟩
      · exact ⟨hearlier x hx, (hmem x hx).2⟩

end Near

end ZeroBridge
